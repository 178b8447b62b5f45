import AtlasOfUs.Agent.Streaming
import AtlasOfUs.Auth.Tokens
import AtlasOfUs.GraphApi.NodeCreation
import AtlasOfUs.GraphApi.SearchTerm
import AtlasOfUs.GraphApi.TextSearch
import AtlasOfUs.Library.Machine
import AtlasOfUs.Viewer.ProgressPage

namespace AtlasOfUs.GraphApi.Wire.Handlers

open Library GraphApi.Handlers

def createdResponse : Except ServiceError CreateNodeResult → Except ErrorResponse Json
  | .ok result => .ok (.array [.object [("elementId", .str result.elementId),
      ("labels", .array (result.labels.map .str)), ("props", .object [("name", .str result.name)])]])
  | .error (.similarNodeExists score details) =>
      .error ⟨409, .object [("error", .str "similar node already exists"),
        ("details", .str details), ("score", .float score)]⟩
  | .error (.embeddingFailed e) =>
      .error ⟨500, errorBody ("failed to generate embedding: " ++ e)⟩
  | .error _ => .error ⟨500, errorBody "internal server error"⟩

def createNode (conv : Conversion) (codec : Codec) (request : CreateNodeRequest) :
    Api (Except ErrorResponse Json) := do
  return createdResponse (← (Wire.createNode conv codec request true).attempt)

def updatedResponse : Except ServiceError (List Json) → Except ErrorResponse Json
  | .ok nodes => .ok (.array nodes)
  | .error (.validationError e) => .error (invalidBody e)
  | .error _ => .error ⟨500, errorBody "internal server error"⟩

def updateNode (conv : Conversion) (request : UpdateNodeRequest) :
    Api (Except ErrorResponse Json) := do
  return updatedResponse (← (Wire.updateNode conv request).attempt)

def relationshipsResponse : Except ServiceError (List Json) → Except ErrorResponse Json
  | .ok relationships => .ok (.array relationships)
  | .error _ => .error ⟨500, errorBody "internal server error"⟩

def updateRelationship (conv : Conversion) (request : UpdateRelationshipRequest) :
    Api (Except ErrorResponse Json) := do
  return relationshipsResponse (← (Wire.updateRelationship conv request).attempt)

end AtlasOfUs.GraphApi.Wire.Handlers

namespace AtlasOfUs.Router

open Library GraphApi Auth Similarity

/-- What the server is built on: its keys, the database and the driver, and the
parsers and tables of the libraries. -/
structure Setup where
  keys : Keys
  database : Server
  conv : Conversion
  codec : Agent.AsyncCodec
  tables : Agent.DomainArchitectStep.CharTables
  index : VectorIndex
  lower : String → String
  fromStr : String → Option PropertyMap

/-- The calls behind the token check that are answered in JSON. -/
inductive JsonCall
  | createEmbeddingFromText (text : String)
  | getNodes (params : NodeQueryParams)
  | getNodeWithRelationshipsBySearchTerm (params : GetNodeWithRelationshipsBySearchTermParams)
  | createNode (request : Wire.CreateNodeRequest)
  | updateNode (request : Wire.UpdateNodeRequest)
  | createRelationship (request : Wire.CreateRelationshipRequest)
  | updateRelationship (request : Wire.UpdateRelationshipRequest)
  | deleteRelationship (relationshipElementId : ElementId)
  | getSimilarNodes (request : FindSimilarNodesRequest)
  | searchNodes (params : SearchNodesParams)
  | getDomain (name : String)
  | validateDomainName (name : String)
  | createDomain (request : CreateDomainRequest)
  | updateDomain (request : UpdateDomainRequest)
  | getUserProfile (username : String)

inductive SecureCall
  | json (call : JsonCall)
  | generateDomain (request : Agent.GenerateDomainRequest)

inductive Call
  | healthcheck
  | register (request : SignUpRequest)
  | login (request : LoginRequest)
  | publicGetNodes (params : NodeQueryParams)
  | secure (authorization : Option String) (call : SecureCall)

/-- A request, with the time at which it comes, the salt that it finds, and how
the outside world answers its calls. -/
structure Request where
  now : Nat
  salt : String
  env : Env
  call : Call

inductive Response
  | healthy
  | register (exit : Exit Auth.ErrorResponse AuthResponse)
  | login (exit : Exit LoginError AuthResponse)
  | unauthorized
  | served (exit : Exit ServiceError (Except GraphApi.Handlers.ErrorResponse Json))
  | streamed (events : List Agent.SseEvent)

def Response.token : Response → Option String
  | .register (.ok response) | .login (.ok response) => some response.token
  | _ => none

section Helper

def embeddingResponse : Except String Embedding → Except GraphApi.Handlers.ErrorResponse Json
  | .ok embedding => .ok (.object [("embedding", .array (embedding.map .float))])
  | .error _ => .error ⟨500, .null⟩

def createEmbeddingFromText (text : String) : Api (Except GraphApi.Handlers.ErrorResponse Json) := do
  return embeddingResponse (← generateEmbedding text)

end Helper

namespace Setup

variable (setup : Setup)

def handler : JsonCall → Api (Except GraphApi.Handlers.ErrorResponse Json)
  | .createEmbeddingFromText text => createEmbeddingFromText text
  | .getNodes params => GraphApi.Handlers.getNodes setup.database setup.fromStr params
  | .getNodeWithRelationshipsBySearchTerm params =>
      GraphApi.Handlers.getNodeWithRelationshipsBySearchTerm setup.database setup.index params
  | .createNode request => Wire.Handlers.createNode setup.conv setup.codec.toCodec request
  | .updateNode request => Wire.Handlers.updateNode setup.conv request
  | .createRelationship request => GraphApi.Handlers.createRelationship setup.conv request
  | .updateRelationship request => Wire.Handlers.updateRelationship setup.conv request
  | .deleteRelationship relationshipElementId =>
      GraphApi.Handlers.deleteRelationship relationshipElementId
  | .getSimilarNodes request => GraphApi.Handlers.getSimilarNodes request
  | .searchNodes params => GraphApi.Handlers.searchNodes setup.database setup.lower params
  | .getDomain name => GraphApi.Handlers.getDomain name
  | .validateDomainName name => GraphApi.Handlers.validateDomainName name
  | .createDomain request => GraphApi.Handlers.createDomain request
  | .updateDomain request => GraphApi.Handlers.updateDomain request
  | .getUserProfile username => Profile.Handlers.getUserProfile setup.database username

def respondJson (env : Env) (call : JsonCall) (g : Graph) : Response × Graph :=
  let done := env.exec (setup.handler call) (World.start g)
  (.served done.exit, done.state.graph)

/-- A generation runs to its end before the next request. -/
def respond (env : Env) (call : SecureCall) (g : Graph) : Response × Graph :=
  match call with
  | .json call => setup.respondJson env call g
  | .generateDomain request =>
      match Agent.generateDomainSse setup.codec setup.tables (env.connection 0) request
          (World.start g) with
      | .ok generation =>
          let done := env.exec generation.task generation.state
          (.streamed (sent done.calls), done.state.graph)
      | .error response => (.served (.ok (.error response)), g)

def serve (request : Request) (g : Graph) : Response × Graph :=
  let accounts := setup.keys.accounts request.now
  match request.call with
  | .healthcheck => (.healthy, g)
  | .register signUp =>
      let done := request.env.exec (signup (accounts.credentials request.salt) signUp) (World.start g)
      (.register done.exit, done.state.graph)
  | .login given =>
      let done := request.env.exec (login accounts given) (World.start g)
      (.login done.exit, done.state.graph)
  | .publicGetNodes params => setup.respondJson request.env (.getNodes params) g
  | .secure authorization call =>
      match setup.keys.jwtAuthMiddleware request.now authorization with
      | some _ => setup.respond request.env call g
      | none => (.unauthorized, g)

def graphAt (requests : List Request) (g : Graph) (k : Nat) : Graph :=
  stateAt (fun request g => (setup.serve request g).2) requests g k

def responseAt (requests : List Request) (g : Graph) (k : Nat) : Option Response :=
  requests[k]?.map fun request => (setup.serve request (setup.graphAt requests g k)).1

end Setup

end AtlasOfUs.Router
