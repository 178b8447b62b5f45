import AtlasOfUs.GraphApi.DomainView

namespace AtlasOfUs.Editor

open Library
open GraphApi (NodeType)

section Reading

/-- A member of an object. A missing one is undefined, which every reader treats like null. -/
def field (j : Json) (key : String) : Json := (j.get key).getD .null

def optString : Json → Option (Option String)
  | .null => some none
  | .str s => some (some s)
  | _ => none

/-- The integers that a JavaScript number holds without rounding. -/
def number : Json → Option Int
  | .int i => if -2 ^ 53 ≤ i ∧ i ≤ 2 ^ 53 then some i else none
  | _ => none

def optNumber : Json → Option (Option Int)
  | .null => some none
  | j => (number j).map some

def nodeType : Json → Option NodeType
  | .str "knowledge" => some .knowledge
  | .str "skill" => some .skill
  | .str "trait" => some .trait
  | .str "milestone" => some .milestone
  | _ => none

def listOf {α : Type} (read : Json → Option α) (j : Json) : Option (List α) :=
  j.asArray.bind (fun items => items.mapM read)

end Reading

section DomainData

structure DomainNode where
  elementId : ElementId
  type : NodeType
  name : String
  description : Option String
  howToLearn : Option String
  howToDevelop : Option String
  measurementCriteria : Option String
  howToAchieve : Option String
  bloomLevel : Option String
  dreyfusLevel : Option String
  minScore : Option Int
  deriving DecidableEq

structure DomainLevel where
  elementId : ElementId
  level : Int
  name : String
  description : Option String
  pointsRequired : Int
  knowledge : List DomainNode
  skills : List DomainNode
  traits : List DomainNode
  milestones : List DomainNode
  deriving DecidableEq

structure DomainData where
  elementId : ElementId
  name : String
  description : Option String
  levels : List DomainLevel
  deriving DecidableEq

def DomainLevel.nodes (level : DomainLevel) : NodeType → List DomainNode
  | .knowledge => level.knowledge
  | .skill => level.skills
  | .trait => level.traits
  | .milestone => level.milestones

/-- The response as the interface declares it, where it has the declared types. -/
def DomainNode.ofJson (j : Json) : Option DomainNode := do
  return {
    elementId := ← (field j "elementId").asStr
    type := ← nodeType (field j "type")
    name := ← (field j "name").asStr
    description := ← optString (field j "description")
    howToLearn := ← optString (field j "howToLearn")
    howToDevelop := ← optString (field j "howToDevelop")
    measurementCriteria := ← optString (field j "measurementCriteria")
    howToAchieve := ← optString (field j "howToAchieve")
    bloomLevel := ← optString (field j "bloomLevel")
    dreyfusLevel := ← optString (field j "dreyfusLevel")
    minScore := ← optNumber (field j "minScore") }

def DomainLevel.ofJson (j : Json) : Option DomainLevel := do
  return {
    elementId := ← (field j "elementId").asStr
    level := ← number (field j "level")
    name := ← (field j "name").asStr
    description := ← optString (field j "description")
    pointsRequired := ← number (field j "pointsRequired")
    knowledge := ← listOf DomainNode.ofJson (field j "knowledge")
    skills := ← listOf DomainNode.ofJson (field j "skills")
    traits := ← listOf DomainNode.ofJson (field j "traits")
    milestones := ← listOf DomainNode.ofJson (field j "milestones") }

def DomainData.ofJson (j : Json) : Option DomainData := do
  return {
    elementId := ← (field j "elementId").asStr
    name := ← (field j "name").asStr
    description := ← optString (field j "description")
    levels := ← listOf DomainLevel.ofJson (field j "levels") }

end DomainData

/-- A node at a level: an existing one if it has an element id, else pending creation. -/
structure EditableNode where
  id : String
  elementId : Option ElementId
  type : NodeType
  name : String
  description : String
  howToLearn : Option String
  howToDevelop : Option String
  measurementCriteria : Option String
  howToAchieve : Option String
  bloomLevel : Option String
  dreyfusLevel : Option String
  minScore : Option Int
  deriving DecidableEq

structure EditableDomainLevel where
  id : String
  elementId : Option ElementId
  level : Int
  name : String
  description : String
  pointsRequired : Int
  knowledge : List EditableNode
  skills : List EditableNode
  traits : List EditableNode
  milestones : List EditableNode
  deriving DecidableEq

structure EditableDomain where
  elementId : Option ElementId
  name : String
  description : String
  levels : List EditableDomainLevel
  deriving DecidableEq

namespace EditableDomainLevel

def nodes (level : EditableDomainLevel) : NodeType → List EditableNode
  | .knowledge => level.knowledge
  | .skill => level.skills
  | .trait => level.traits
  | .milestone => level.milestones

def modifyNodes (level : EditableDomainLevel) (type : NodeType)
    (f : List EditableNode → List EditableNode) : EditableDomainLevel :=
  match type with
  | .knowledge => { level with knowledge := f level.knowledge }
  | .skill => { level with skills := f level.skills }
  | .trait => { level with traits := f level.traits }
  | .milestone => { level with milestones := f level.milestones }

@[simp] theorem nodes_modifyNodes (level : EditableDomainLevel) (type : NodeType)
    (f : List EditableNode → List EditableNode) :
    (level.modifyNodes type f).nodes type = f (level.nodes type) := by
  cases type <;> rfl

theorem nodes_modifyNodes_ne (level : EditableDomainLevel) {type type' : NodeType}
    (f : List EditableNode → List EditableNode) (h : type' ≠ type) :
    (level.modifyNodes type f).nodes type' = level.nodes type' := by
  cases type <;> cases type' <;> first | rfl | exact absurd rfl h

end EditableDomainLevel

/-- A computation that draws random ids, numbered as they are drawn. -/
abbrev Draw (α : Type) := StateM Nat α

def randomUUID (uuid : Nat → String) : Draw String := fun n => (uuid n, n + 1)

def defaultLevelNames : List String := ["Novice", "Apprentice", "Journeyman", "Expert", "Master"]

def defaultLevelPoints : List Int := [50, 150, 300, 600, 1000]

variable (uuid : Nat → String)

def createEmptyLevel (levelNumber : Nat) : Draw EditableDomainLevel := do
  return {
    id := ← randomUUID uuid
    elementId := none
    level := levelNumber
    name := (defaultLevelNames[levelNumber - 1]?).getD ("Level " ++ toString levelNumber)
    description := ""
    pointsRequired := (defaultLevelPoints[levelNumber - 1]?).getD (levelNumber * 100)
    knowledge := []
    skills := []
    traits := []
    milestones := [] }

def createEmptyDomain : Draw EditableDomain := do
  return {
    elementId := none
    name := ""
    description := ""
    levels := ← [1, 2, 3, 4, 5].mapM (createEmptyLevel uuid) }

def getDefaultRequirement (type : NodeType) (node : EditableNode) : EditableNode :=
  match type with
  | .knowledge => { node with bloomLevel := some "Remember" }
  | .skill => { node with dreyfusLevel := some "Novice" }
  | .trait => { node with minScore := some 50 }
  | .milestone => node

structure SearchNodeProps where
  name : String
  description : Option String
  howToLearn : Option String
  howToDevelop : Option String
  measurementCriteria : Option String
  howToAchieve : Option String
  deriving DecidableEq

structure SearchNodeResult where
  elementId : ElementId
  labels : List String
  props : SearchNodeProps
  deriving DecidableEq

def searchResultToEditableNode (result : SearchNodeResult) (type : NodeType) : Draw EditableNode := do
  return getDefaultRequirement type {
    id := ← randomUUID uuid
    elementId := some result.elementId
    type := type
    name := result.props.name
    description := result.props.description.getD ""
    howToLearn := result.props.howToLearn
    howToDevelop := result.props.howToDevelop
    measurementCriteria := result.props.measurementCriteria
    howToAchieve := result.props.howToAchieve
    bloomLevel := none
    dreyfusLevel := none
    minScore := none }

def createNewNode (type : NodeType) (name description : String) (elementId : Option ElementId) :
    Draw EditableNode := do
  return getDefaultRequirement type {
    id := ← randomUUID uuid
    elementId := elementId
    type := type
    name := name
    description := description
    howToLearn := none
    howToDevelop := none
    measurementCriteria := none
    howToAchieve := none
    bloomLevel := none
    dreyfusLevel := none
    minScore := none }

def domainNodeToEditableNode (node : DomainNode) : Draw EditableNode := do
  return {
    id := ← randomUUID uuid
    elementId := some node.elementId
    type := node.type
    name := node.name
    description := node.description.getD ""
    howToLearn := node.howToLearn
    howToDevelop := node.howToDevelop
    measurementCriteria := node.measurementCriteria
    howToAchieve := node.howToAchieve
    bloomLevel := node.bloomLevel
    dreyfusLevel := node.dreyfusLevel
    minScore := node.minScore }

def domainLevelToEditableLevel (level : DomainLevel) : Draw EditableDomainLevel := do
  return {
    id := ← randomUUID uuid
    elementId := some level.elementId
    level := level.level
    name := level.name
    description := level.description.getD ""
    pointsRequired := level.pointsRequired
    knowledge := ← level.knowledge.mapM (domainNodeToEditableNode uuid)
    skills := ← level.skills.mapM (domainNodeToEditableNode uuid)
    traits := ← level.traits.mapM (domainNodeToEditableNode uuid)
    milestones := ← level.milestones.mapM (domainNodeToEditableNode uuid) }

def domainDataToEditableDomain (data : DomainData) : Draw EditableDomain := do
  return {
    elementId := some data.elementId
    name := data.name
    description := data.description.getD ""
    levels := ← data.levels.mapM (domainLevelToEditableLevel uuid) }

end AtlasOfUs.Editor
