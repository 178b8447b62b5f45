import AtlasOfUs.Editor.Interfaces
import AtlasOfUs.GraphApi.Handlers

namespace AtlasOfUs.Editor.HttpService

open Library
open GraphApi (Api CreateNodeRequest CreateDomainRequest UpdateDomainRequest)
open GraphApi.Handlers (ErrorResponse)

structure CreateNodeResponse where
  success : Bool
  elementId : Option ElementId
  error : Option String

structure SavedDomain where
  elementId : ElementId
  name : String
  deriving DecidableEq

structure SaveDomainResponse where
  success : Bool
  domain : Option SavedDomain
  error : Option String

def orElse (a : Option String) (b : String) : String :=
  match a with
  | some s => if s = "" then b else s
  | none => b

def messageOf (body : Json) (keys : List String) (default : String) : String :=
  (keys.filterMap (fun key => (field body key).asStr)).foldr (fun s rest => orElse (some s) rest) default

def firstItem (j : Json) : Json := (j.asArray.bind List.head?).getD .null

def createNode (codec : Codec) (request : CreateNodeRequest) : Api CreateNodeResponse := do
  match ← GraphApi.Handlers.createNode codec request with
  | .error response =>
      return ⟨false, none, some (messageOf response.body ["error", "details"] "Failed to create node")⟩
  | .ok data =>
      let nodeData := firstItem data
      return ⟨true, (field nodeData "ElementId").asStr, none⟩

def fetchDomain (domainName : String) : Api (Option Json) := do
  match ← GraphApi.Handlers.getDomain domainName with
  | .error _ => return none
  | .ok data => return some data

/-- Whether the name is available; none if the request failed. -/
def validateDomainName (name : String) : Api (Option Bool) := do
  match ← GraphApi.Handlers.validateDomainName name with
  | .error _ => return none
  | .ok data =>
      return some (match field data "available" with
        | .bool available => available
        | _ => false)

def savedDomain (data : Json) : Option SavedDomain := do
  let domain := field data "domain"
  return ⟨← (field domain "elementId").asStr, ← (field domain "name").asStr⟩

def createDomain (request : CreateDomainRequest) : Api SaveDomainResponse := do
  match ← GraphApi.Handlers.createDomain request with
  | .error response =>
      return ⟨false, none, some (messageOf response.body ["error"] "Failed to create domain")⟩
  | .ok data => return ⟨true, savedDomain data, none⟩

def updateDomain (request : UpdateDomainRequest) : Api SaveDomainResponse := do
  match ← GraphApi.Handlers.updateDomain request with
  | .error response =>
      return ⟨false, none, some (messageOf response.body ["error"] "Failed to update domain")⟩
  | .ok data => return ⟨true, savedDomain data, none⟩

theorem createNode_elementId {env : Env} {codec : Codec} {request : CreateNodeRequest} {w : World}
    {response : CreateNodeResponse} (h : (env.exec (createNode codec request) w).exit = .ok response) :
    response.elementId = none := by
  rw [createNode, exec_bind] at h
  cases hexit : (env.exec (GraphApi.Handlers.createNode codec request : Api _) w).exit with
  | ok answer =>
      rw [Execution.exit_andThen hexit] at h
      cases answer with
      | error body =>
          obtain rfl := (Exit.ok.inj h).symm
          rfl
      | ok data =>
          obtain ⟨result, -, rfl⟩ := (GraphApi.exec_handler_createNode env codec request w).2 data hexit
          obtain rfl := (Exit.ok.inj h).symm
          simp [firstItem, field, Json.asArray, Json.get, List.lookup_cons, Json.asStr]
  | err e =>
      rw [Execution.exit_andThen_err hexit] at h
      cases h
  | panicked =>
      rw [Execution.andThen, hexit] at h
      cases h

end AtlasOfUs.Editor.HttpService
