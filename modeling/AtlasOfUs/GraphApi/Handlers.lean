import AtlasOfUs.GraphApi.NodeService
import AtlasOfUs.GraphApi.DomainView

namespace AtlasOfUs.GraphApi

open Library

structure DomainNameValidation where
  available : Bool
  existingDomainElementId : Option ElementId
  deriving DecidableEq

/-- `MATCH (d:Domain {name: $name}) RETURN elementId(d) AS elementId LIMIT 1`. -/
def findDomainStatement (name : String) : Statement := fun g =>
  (((g.nodes.filter (isNamed "Domain" name)).take 1).map (fun d => idRow "elementId" d.id), g)

def validateDomainName (name : String) : Api DomainNameValidation := do
  match ← execute (findDomainStatement name) with
  | .ok result =>
      match result.firstRow with
      | some row => return ⟨false, some ((row.getString "elementId").getD "")⟩
      | none => return ⟨true, none⟩
  | .error e => .fail (.databaseError ("Database error: " ++ e))

namespace Handlers

/-- A response that is not ok: its status and its body. -/
structure ErrorResponse where
  status : Nat
  body : Json

def errorBody (message : String) : Json := .object [("error", .str message)]

variable {Event Prompt : Type}

def createNode (codec : Codec) (request : CreateNodeRequest) :
    Rest Event Prompt (Except ErrorResponse Json) := do
  match ← (GraphApi.createNode codec request true).attempt with
  | .ok result =>
      return .ok (.array [.object [("elementId", .str result.elementId),
        ("labels", .array (result.labels.map .str)), ("props", .object [("name", .str result.name)])]])
  | .error (.similarNodeExists score details) =>
      return .error ⟨409, .object [("error", .str "similar node already exists"),
        ("details", .str details), ("score", .float score)]⟩
  | .error (.embeddingFailed e) =>
      return .error ⟨500, errorBody ("failed to generate embedding: " ++ e)⟩
  | .error _ => return .error ⟨500, errorBody "internal server error"⟩

def getDomain (name : String) : Api (Except ErrorResponse Json) := do
  match ← (GraphApi.getDomain name).attempt with
  | .ok (some domainData) => return .ok domainData
  | .ok none => return .error ⟨404, .null⟩
  | .error _ => return .error ⟨500, .null⟩

def validateDomainName (name : String) : Api (Except ErrorResponse Json) := do
  match ← (GraphApi.validateDomainName name).attempt with
  | .ok validation =>
      if validation.available then return .ok (.object [("available", .bool true)])
      else
        return .ok (.object [("available", .bool false),
          ("existingDomainElementId", (validation.existingDomainElementId.map Json.str).getD .null)])
  | .error _ => return .error ⟨500, .null⟩

def createdNodeJson (node : CreatedNodeInfo) : Json :=
  .object [("elementId", .str node.elementId), ("name", .str node.name),
    ("labels", .array (node.labels.map .str))]

def domainJson (elementId : ElementId) (name : String) : Json :=
  .object [("elementId", .str elementId), ("name", .str name)]

def createDomain (request : CreateDomainRequest) : Api (Except ErrorResponse Json) := do
  match ← (GraphApi.createDomain request).attempt with
  | .ok result =>
      return .ok (.object [("success", .bool result.success),
        ("domain", domainJson result.domainElementId result.domainName),
        ("createdNodes", .array (result.createdNodes.map createdNodeJson))])
  | .error (.validationError e) => return .error ⟨400, errorBody e⟩
  | .error _ => return .error ⟨500, errorBody "internal server error"⟩

def updateDomain (request : UpdateDomainRequest) : Api (Except ErrorResponse Json) := do
  match ← (GraphApi.updateDomain request).attempt with
  | .ok result =>
      return .ok (.object [("success", .bool result.success),
        ("domain", domainJson result.domainElementId result.domainName),
        ("createdNodes", .array (result.createdNodes.map createdNodeJson)),
        ("affectedUserProgressCount", .int result.affectedUserProgressCount)])
  | .error (.validationError e) => return .error ⟨400, errorBody e⟩
  | .error (.notFound e) => return .error ⟨404, errorBody e⟩
  | .error _ => return .error ⟨500, errorBody "internal server error"⟩

end Handlers

theorem exec_handler_createNode {Event Prompt : Type} (env : Env) (codec : Codec)
    (request : CreateNodeRequest) (w : World) :
    (env.exec (Handlers.createNode codec request : Rest Event Prompt _) w).state =
        (env.exec (createNode codec request true : Rest Event Prompt _) w).state ∧
      ∀ data, (env.exec (Handlers.createNode codec request : Rest Event Prompt _) w).exit = .ok (.ok data) →
        ∃ result, (env.exec (createNode codec request true : Rest Event Prompt _) w).exit = .ok result ∧
          data = .array [.object [("elementId", .str result.elementId),
            ("labels", .array (result.labels.map .str)),
            ("props", .object [("name", .str result.name)])]] := by
  rw [Handlers.createNode, exec_bind, exec_attempt]
  cases hexit : (env.exec (createNode codec request true : Rest Event Prompt _) w).exit with
  | ok result =>
      refine ⟨rfl, fun data h => ⟨result, rfl, ?_⟩⟩
      exact (Except.ok.inj (Exit.ok.inj h)).symm
  | err e =>
      cases e <;> exact ⟨rfl, fun data h => by cases h⟩
  | panicked => exact ⟨rfl, fun data h => by cases h⟩

end AtlasOfUs.GraphApi
