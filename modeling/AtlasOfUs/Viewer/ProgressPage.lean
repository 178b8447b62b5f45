import AtlasOfUs.Viewer.UserProfile
import AtlasOfUs.Viewer.NodeTree
import AtlasOfUs.GraphApi.WriteEffects

namespace AtlasOfUs.GraphApi

open Library

/-- `MATCH ()-[r]->() WHERE elementId(r) = $relId DELETE r RETURN count(r) AS deleted`. -/
def deleteRelationshipStatement (relId : ElementId) : Statement := fun g =>
  ([[("deleted", .int (g.edges.filter fun r => r.id = relId).length)]],
    g.deleteEdges fun r => r.id = relId)

def deleteRelationship (elementId : ElementId) : Api Int := do
  match ← execute (deleteRelationshipStatement elementId) with
  | .ok result =>
      match result.firstRow with
      | some row => return (row.getInt "deleted").getD 0
      | none => return 0
  | .error e => .fail (.databaseError ("Database error: " ++ e))

namespace Handlers

def relationshipResponse : Except ServiceError CreateRelationshipResult → Except ErrorResponse Json
  | .ok result => .ok (.array [.object [("elementId", .str result.elementId),
      ("type", .str result.relationshipType), ("startElementId", .str result.sourceId),
      ("endElementId", .str result.targetId)]])
  | .error _ => .error ⟨500, errorBody "internal server error"⟩

def createRelationship (conv : Conversion) (request : Wire.CreateRelationshipRequest) :
    Api (Except ErrorResponse Json) := do
  return relationshipResponse (← (Wire.createRelationship conv request).attempt)

def deletedResponse : Except ServiceError Int → Except ErrorResponse Json
  | .ok deleted => .ok (.object [("deleted", .int deleted)])
  | .error _ => .error ⟨500, errorBody "internal server error"⟩

def deleteRelationship (relationshipElementId : ElementId) : Api (Except ErrorResponse Json) := do
  return deletedResponse (← (GraphApi.deleteRelationship relationshipElementId).attempt)

end Handlers

end AtlasOfUs.GraphApi

namespace AtlasOfUs.Editor.HttpService

open Library GraphApi

structure ProgressResponse where
  success : Bool
  error : Option String

def ProgressResponse.of (default : String) :
    Except GraphApi.Handlers.ErrorResponse Json → ProgressResponse
  | .ok _ => ⟨true, none⟩
  | .error response => ⟨false, some (messageOf response.body ["error"] default)⟩

/-- A request without a type is turned down before it reaches the service, in a text
that is no JSON. -/
def createUserProgress (conv : Conversion) (userElementId targetNodeElementId : ElementId)
    (relationshipType : Option String) (properties : PropertyMap) : Api ProgressResponse := do
  match relationshipType with
  | none => return ⟨false, some "Network error"⟩
  | some type =>
      return .of "Failed to create progress" (← GraphApi.Handlers.createRelationship conv
        ⟨userElementId, targetNodeElementId, type, some properties⟩)

def deleteUserProgress (relationshipElementId : ElementId) : Api ProgressResponse := do
  return .of "Failed to delete progress"
    (← GraphApi.Handlers.deleteRelationship relationshipElementId)

end AtlasOfUs.Editor.HttpService

namespace AtlasOfUs.Viewer

open Library GraphApi BoltMapping Profile Editor

def relationshipType : NodeType → Option String
  | .knowledge => some "HAS_KNOWLEDGE"
  | .skill => some "HAS_SKILL"
  | .trait => some "HAS_TRAIT"
  | .milestone => some "ACHIEVED"
  | .level => none

inductive LevelOrScore
  | level (name : String)
  | score (number : ℚ)

def LevelOrScore.toJson : LevelOrScore → Json
  | .level name => .str name
  | .score number => if number.den = 1 then .int number.num else .float number

def completion (type : NodeType) (levelOrScore : LevelOrScore) (date : String) :
    Option (String × Json) :=
  match type with
  | .knowledge => some ("bloom_level", levelOrScore.toJson)
  | .skill => some ("dreyfus_level", levelOrScore.toJson)
  | .trait => some ("score", levelOrScore.toJson)
  | .milestone => some ("date", .str date)
  | .level => none

def progressProperties (type : NodeType) (levelOrScore : LevelOrScore) (date : String)
    (proofUrl : Option String) : PropertyMap where
  entries := (completion type levelOrScore date).toList ++
    ((proofUrl.filter (· ≠ "")).map fun url => ("proof_url", Json.str url)).toList
  keys_nodup := by
    cases type <;> cases proofUrl.filter (· ≠ "") <;> simp [completion]

structure DomainPage where
  loggedIn : Bool
  profileData : Option Neo4jApiResponse

def neo4jRelationship (r : Json) : Neo4jRelationship where
  elementId := ((field r "ElementId").asStr).getD ""
  startElementId := ((field r "StartElementId").asStr).getD ""
  endElementId := ((field r "EndElementId").asStr).getD ""
  type := ((field r "Type").asStr).getD ""
  props := field r "Props"

namespace DomainPage

variable (page : DomainPage)

def nodeRoot : Json := (page.profileData.bind Neo4jApiResponse.nodeRoot).getD .null

def userElementId : Option ElementId := (field page.nodeRoot "ElementId").asStr.filter (· ≠ "")

/-- `profileData?.nodeRoot?.Props?.username`, where it is truthy. -/
def username : Option String := (field (field page.nodeRoot "Props") "username").asStr.filter (· ≠ "")

def relationships : Option (List Neo4jRelationship) :=
  ((page.profileData.bind Neo4jApiResponse.relationships).bind Json.asArray).map
    (List.map neo4jRelationship)

def userProgressMap : UserProgressMap := Viewer.userProgressMap page.loggedIn page.relationships

def relationshipIdMap : OrderedMap ElementId ElementId :=
  match page.loggedIn, page.relationships with
  | true, some relationships =>
      OrderedMap.setAll completedNode Neo4jRelationship.elementId relationships .empty
  | _, _ => .empty

end DomainPage

section Handlers

variable (site : Site) (conv : Conversion)

def refreshProfileData (page : DomainPage) : Api DomainPage := do
  match page.loggedIn, page.username with
  | true, some username =>
      let data ← site.fetchUserProfile username
      return if data.nodeRoot.any truthy then { page with profileData := some data } else page
  | _, _ => return page

def refreshIf (page : DomainPage) (result : HttpService.ProgressResponse) : Api DomainPage :=
  if result.success then refreshProfileData site page else return page

def handleMarkComplete (page : DomainPage) (node : CanvasNode) (levelOrScore : LevelOrScore)
    (date : String) (proofUrl : Option String) : Api DomainPage := do
  match page.loggedIn, page.userElementId, node.elementId.filter (· ≠ "") with
  | true, some user, some target =>
      let result ← HttpService.createUserProgress conv user target (relationshipType node.type)
        (progressProperties node.type levelOrScore date proofUrl)
      refreshIf site page result
  | _, _, _ => return page

/-- The button hands over the id of the relationship that the page has for the node, if there is
one. -/
def handleRemoveProgress (page : DomainPage) (elementId : ElementId) : Api DomainPage := do
  match page.loggedIn, (page.relationshipIdMap.get elementId).filter (· ≠ "") with
  | true, some relationshipElementId =>
      let result ← HttpService.deleteUserProgress relationshipElementId
      refreshIf site page result
  | _, _ => return page

inductive Action
  | mark (node : CanvasNode) (levelOrScore : LevelOrScore) (date : String) (proofUrl : Option String)
  | remove (elementId : ElementId)

def DomainPage.handle (page : DomainPage) : Action → Api DomainPage
  | .mark node levelOrScore date proofUrl =>
      handleMarkComplete site conv page node levelOrScore date proofUrl
  | .remove elementId => handleRemoveProgress site page elementId

def act (env : Env) (action : Action) (s : DomainPage × World) : DomainPage × World :=
  let execution := env.exec (s.1.handle site conv action) s.2
  (execution.exit.toOption.getD s.1, execution.state)

end Handlers

end AtlasOfUs.Viewer
