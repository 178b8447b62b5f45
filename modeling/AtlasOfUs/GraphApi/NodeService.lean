import AtlasOfUs.GraphApi.Models
import AtlasOfUs.Common.Similarity

namespace AtlasOfUs.GraphApi

open Library Similarity

variable {Event Prompt : Type}

/-- `CREATE (n:labels) SET n.key = $key, ... RETURN elementId(n) AS elementId, n.name AS name`. -/
def createNodeStatement (labels : List String) (props : Props) : Statement := fun g =>
  ([[("elementId", .str g.freshId), ("name", propJson (props "name"))]], g.createNode labels props)

def strProperty (properties : Properties) (key : String) : String :=
  ((properties.lookup key).bind Value.asStr).getD ""

def checkSimilar (codec : Codec) (embedding : Embedding) : Rest Event Prompt Unit := do
  match ← (findSimilarNodes { embedding := some embedding, limit := some 1 }).attempt with
  | .ok [] => return ()
  | .ok (top :: _) =>
      if top.score > 7 / 10 then
        .fail (.similarNodeExists top.score
          ("A node with a similarity score of " ++ codec.float top.score ++ " already exists."))
      else return ()
  | .error e => .fail (.databaseError ("Failed to find similar nodes: " ++ e))

def createNode (codec : Codec) (request : CreateNodeRequest) (checkSimilarity : Bool) :
    Rest Event Prompt CreateNodeResult := do
  let name := strProperty request.properties "name"
  let description := strProperty request.properties "description"
  match ← generateEmbedding (name ++ ": " ++ description) with
  | .error e => .fail (.embeddingFailed e)
  | .ok embedding =>
      if checkSimilarity then checkSimilar codec embedding
      let props := (Properties.toProps request.properties).set "embedding"
        (.list (embedding.map .float))
      match ← execute (createNodeStatement request.labels props) with
      | .error e => .fail (.databaseError ("Database error: " ++ e))
      | .ok result =>
          match result.firstRow with
          | some row =>
              return ⟨(row.getString "elementId").getD "", (row.getString "name").getD "",
                request.labels⟩
          | none => .fail (.databaseError "Failed to get element ID after node creation")

def boundId (properties : Properties) (parameter : String) (given : ElementId) : Option ElementId :=
  match properties.lookup parameter with
  | none => some given
  | some value => value.asStr

def setAll (properties : Properties) (props : Props) : Props := fun key =>
  (properties.lookup key).orElse (fun _ => props key)

/-- `MATCH (source), (target) WHERE ... MERGE (source)-[r:type]->(target) SET r.key = $key, ...
RETURN elementId(r) AS elementId`. -/
def mergeRelationshipStatement (type : String) (source target : Option ElementId)
    (properties : Properties) : Statement := fun g =>
  match source, target with
  | some s, some t =>
      let g' := g.mergeEdge type s t (setAll properties)
      ((g'.edges.filter (Edge.between type s t)).map (fun r => [("elementId", .str r.id)]), g')
  | _, _ => ([], g)

/-- Create a relationship between two nodes (uses MERGE for idempotency). -/
def createRelationship (request : CreateRelationshipRequest) :
    Rest Event Prompt CreateRelationshipResult := do
  let properties := request.properties.getD []
  match ← execute (mergeRelationshipStatement request.relationshipType
      (boundId properties "sourceId" request.sourceId)
      (boundId properties "targetId" request.targetId) properties) with
  | .error e => .fail (.databaseError ("Database error: " ++ e))
  | .ok result =>
      match result.firstRow with
      | some row =>
          return ⟨(row.getString "elementId").getD "", request.relationshipType, request.sourceId,
            request.targetId⟩
      | none => .fail (.databaseError "Failed to get element ID after relationship creation")

end AtlasOfUs.GraphApi
