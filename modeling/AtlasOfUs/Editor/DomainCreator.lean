import AtlasOfUs.Editor.HttpService
import AtlasOfUs.Text

namespace AtlasOfUs.Editor

open Library
open GraphApi (NodeType Api DomainInfo CreateNodeRequest CreateDomainRequest UpdateDomainRequest
  LevelRequirements KnowledgeRequirement SkillRequirement TraitRequirement MilestoneRequirement)
open HttpService (orElse SavedDomain SaveDomainResponse)

section Text

/-- The Unicode case mappings of `toUpperCase` and `toLowerCase`. -/
structure CaseMapping where
  toUpperCase : String → String
  toLowerCase : String → String

def asciiCases : CaseMapping where
  toUpperCase := fun s => String.ofList (s.toList.map Char.toUpper)
  toLowerCase := fun s => String.ofList (s.toList.map Char.toLower)

def isWhiteSpace (c : Char) : Bool :=
  let n := c.toNat
  (9 ≤ n && n ≤ 13) || n = 0x20 || n = 0xA0 || n = 0x1680 || (0x2000 ≤ n && n ≤ 0x200A) ||
    n = 0x2028 || n = 0x2029 || n = 0x202F || n = 0x205F || n = 0x3000 || n = 0xFEFF

def trim (s : String) : String := String.ofList (Text.trimChars isWhiteSpace s.toList)

/-- `charAt(0)` is one UTF-16 unit: of a character beyond them it is a half, which has no upper case. -/
def capitalizeFirstLetter (cases : CaseMapping) (s : String) : String :=
  match s.toList with
  | [] => ""
  | c :: rest =>
      let firstLetter :=
        if c.toNat < 0x10000 then cases.toUpperCase (String.singleton c) else String.singleton c
      trim (firstLetter ++ cases.toLowerCase (String.ofList rest))

end Text

/-- The state of the component that its handlers share. -/
structure DomainCreator where
  isEditMode : Bool
  domain : EditableDomain
  removedNodeElementIds : List ElementId
  selectedLevelIndex : Nat
  saveError : Option String
  drawn : Nat
  deriving DecidableEq

section Requests

def scoreOrDefault (minScore : Option Int) : Int :=
  match minScore with
  | some score => if score = 0 then 50 else score
  | none => 50

def knowledgeRequirement (n : EditableNode) : KnowledgeRequirement :=
  ⟨n.elementId, none, orElse n.bloomLevel "Remember"⟩

def skillRequirement (n : EditableNode) : SkillRequirement :=
  ⟨n.elementId, none, orElse n.dreyfusLevel "Novice"⟩

def traitRequirement (n : EditableNode) : TraitRequirement :=
  ⟨n.elementId, none, scoreOrDefault n.minScore⟩

def milestoneRequirement (n : EditableNode) : MilestoneRequirement := ⟨n.elementId, none⟩

def levelRequest (level : EditableDomainLevel) : GraphApi.DomainLevel where
  level := level.level
  name := level.name
  description := if level.description = "" then none else some level.description
  pointsRequired := level.pointsRequired
  requirements := {
    knowledge := level.knowledge.map knowledgeRequirement
    skills := level.skills.map skillRequirement
    traits := level.traits.map traitRequirement
    milestones := level.milestones.map milestoneRequirement }

def domainInfo (cases : CaseMapping) (domain : EditableDomain) : DomainInfo where
  name := capitalizeFirstLetter cases (trim domain.name)
  description := trim domain.description

def domainToCreateRequest (cases : CaseMapping) (domain : EditableDomain) : CreateDomainRequest where
  domain := domainInfo cases domain
  levels := domain.levels.map levelRequest

def domainToUpdateRequest (cases : CaseMapping) (creator : DomainCreator) : UpdateDomainRequest where
  domainElementId := creator.domain.elementId.getD ""
  domain := domainInfo cases creator.domain
  levels := creator.domain.levels.map levelRequest
  removedNodeElementIds := creator.removedNodeElementIds

end Requests

section Handlers

def getNodeTypeFromLabels (labels : List String) : NodeType :=
  if labels.contains "Knowledge" then .knowledge
  else if labels.contains "Skill" then .skill
  else if labels.contains "Trait" then .trait
  else if labels.contains "Milestone" then .milestone
  else .knowledge

def DomainCreator.modifyLevel (creator : DomainCreator)
    (f : EditableDomainLevel → EditableDomainLevel) : DomainCreator :=
  { creator with
    domain := { creator.domain with
      levels := creator.domain.levels.modify creator.selectedLevelIndex f } }

def DomainCreator.addNode (creator : DomainCreator) (type : NodeType) (node : Draw EditableNode) :
    DomainCreator :=
  { creator.modifyLevel (fun level =>
      level.modifyNodes type (fun nodes => nodes ++ [(node creator.drawn).1])) with
    drawn := (node creator.drawn).2 }

def handleAddNodeFromSearch (uuid : Nat → String) (result : SearchNodeResult)
    (creator : DomainCreator) : DomainCreator :=
  let nodeType := getNodeTypeFromLabels result.labels
  creator.addNode nodeType (searchResultToEditableNode uuid result nodeType)

structure TypeSpecificProps where
  howToLearn : Option String
  howToDevelop : Option String
  measurementCriteria : Option String
  howToAchieve : Option String
  deriving DecidableEq

/-- The property that goes with the type, if it is given and not empty. -/
def typeSpecificProperty (type : NodeType) (props : TypeSpecificProps) : GraphApi.Properties :=
  let value :=
    match type with
    | .knowledge => props.howToLearn
    | .skill => props.howToDevelop
    | .trait => props.measurementCriteria
    | .milestone => props.howToAchieve
  match value with
  | some s => if s = "" then [] else [(type.detail.1, .str s)]
  | none => []

def createNodeRequest (name description : String) (type : NodeType) (props : TypeSpecificProps) :
    CreateNodeRequest where
  labels := [type.label]
  properties := [("name", .str name), ("description", .str description)] ++
    typeSpecificProperty type props

def handleAddNewNode (uuid : Nat → String) (codec : Codec) (name description : String)
    (type : NodeType) (props : TypeSpecificProps) (creator : DomainCreator) : Api DomainCreator := do
  let result ← HttpService.createNode codec (createNodeRequest name description type props)
  if result.success then
    return creator.addNode type (do
      let node ← createNewNode uuid type name description result.elementId
      return { node with
        howToLearn := props.howToLearn
        howToDevelop := props.howToDevelop
        measurementCriteria := props.measurementCriteria
        howToAchieve := props.howToAchieve })
  else
    return { creator with saveError := some (orElse result.error "Failed to create node") }

def removedId (nodeToRemove : Option EditableNode) : List ElementId :=
  match nodeToRemove.bind EditableNode.elementId with
  | some id => if id = "" then [] else [id]
  | none => []

def DomainCreator.nodeToRemove (creator : DomainCreator) (nodeId : String) (type : NodeType) :
    Option EditableNode :=
  (creator.domain.levels[creator.selectedLevelIndex]?).bind
    (fun level => (level.nodes type).find? (fun n => n.id = nodeId))

def handleRemoveNode (nodeId : String) (type : NodeType) (creator : DomainCreator) : DomainCreator :=
  { creator.modifyLevel (fun level =>
      level.modifyNodes type (fun nodes => nodes.filter (fun n => n.id ≠ nodeId))) with
    removedNodeElementIds :=
      creator.removedNodeElementIds ++ removedId (creator.nodeToRemove nodeId type) }

structure RequirementUpdate where
  bloomLevel : Option String
  dreyfusLevel : Option String
  minScore : Option Int
  deriving DecidableEq

def RequirementUpdate.apply (requirement : RequirementUpdate) (n : EditableNode) : EditableNode :=
  { n with
    bloomLevel := requirement.bloomLevel.orElse (fun _ => n.bloomLevel)
    dreyfusLevel := requirement.dreyfusLevel.orElse (fun _ => n.dreyfusLevel)
    minScore := requirement.minScore.orElse (fun _ => n.minScore) }

def handleUpdateNodeRequirement (nodeId : String) (type : NodeType) (requirement : RequirementUpdate)
    (creator : DomainCreator) : DomainCreator :=
  creator.modifyLevel (fun level => level.modifyNodes type (fun nodes =>
    nodes.map (fun n => if n.id = nodeId then requirement.apply n else n)))

def handleLevelUpdate (name description : String) (pointsRequired : Int) (creator : DomainCreator) :
    DomainCreator :=
  creator.modifyLevel (fun level =>
    { level with
      name := orElse (some (trim name)) ("Level " ++ toString level.level)
      description := trim description
      pointsRequired := pointsRequired })

end Handlers

section Save

def emptyLevelError (level : EditableDomainLevel × Nat) : Option String :=
  if level.1.knowledge.length + level.1.skills.length + level.1.traits.length +
      level.1.milestones.length = 0 then
    some ("Level " ++ toString (level.2 + 1) ++ " (" ++ level.1.name ++ ") needs at least one requirement")
  else none

def validateDomain (domain : EditableDomain) : List String :=
  (if trim domain.name = "" then ["Domain name is required"] else []) ++
    (if trim domain.description = "" then ["Domain description is required"] else []) ++
    domain.levels.zipIdx.filterMap emptyLevelError

/-- The domain it navigates to, or the error it shows. -/
def savedOrError (result : SaveDomainResponse) (default : String) : Except String SavedDomain :=
  match result.success, result.domain with
  | true, some domain => .ok domain
  | _, _ => .error (orElse result.error default)

def DomainCreator.isUpdate (creator : DomainCreator) : Bool :=
  creator.isEditMode && creator.domain.elementId.getD "" ≠ ""

def handleSave (cases : CaseMapping) (creator : DomainCreator) : Api (Except String SavedDomain) := do
  let errors := validateDomain creator.domain
  if errors ≠ [] then return .error (String.intercalate ". " errors)
  else if creator.isUpdate then
    let result ← HttpService.updateDomain (domainToUpdateRequest cases creator)
    return savedOrError result "Failed to update domain"
  else
    match ← HttpService.validateDomainName (capitalizeFirstLetter cases creator.domain.name) with
    | none => return .error "Failed to validate domain name"
    | some false => return .error "A domain with this name already exists"
    | some true =>
        let result ← HttpService.createDomain (domainToCreateRequest cases creator.domain)
        return savedOrError result "Failed to create domain"

end Save

end AtlasOfUs.Editor
