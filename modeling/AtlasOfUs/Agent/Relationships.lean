import AtlasOfUs.Agent.Step

namespace AtlasOfUs.Agent

open Library Similarity GraphApi

variable (codec : Codec)

def DomainGraphRegistry.ofType (r : DomainGraphRegistry) (componentType : String) :
    List CreatedNode :=
  if componentType = "Knowledge" then r.knowledge
  else if componentType = "Skill" then r.skills
  else if componentType = "Trait" then r.traits
  else if componentType = "Milestone" then r.milestones
  else []

def findElementId (context : AgentContext) (name nodeType : String) : Option ElementId :=
  ((context.domainGraph.ofType nodeType).find? (·.name = name)).map (·.elementId)

def requiresType (componentType : String) : Option String :=
  if componentType = "Knowledge" then some "REQUIRES_KNOWLEDGE"
  else if componentType = "Skill" then some "REQUIRES_SKILL"
  else if componentType = "Trait" then some "REQUIRES_TRAIT"
  else if componentType = "Milestone" then some "REQUIRES_MILESTONE"
  else none

def listing (nodes : List CreatedNode) : String :=
  String.join (nodes.map (fun n => "- " ++ n.name ++ " (ID: " ++ n.elementId ++ ")\n"))

def nameListing (nodes : List CreatedNode) : String :=
  String.join (nodes.map (fun n => "- " ++ n.name ++ "\n"))

namespace LevelDistributorStep

structure LevelAssignment where
  levelId : ElementId
  componentId : ElementId
  componentName : String
  componentType : String
  proficiency : Option String
  deriving DecidableEq

def buildContextForType (context : AgentContext) (componentType : String) : String :=
  "Domain: " ++ context.domainName ++ "\n\nDomain Levels:\n" ++
    listing context.domainGraph.domainLevels ++ "\n" ++ componentType ++ " Nodes to assign:\n" ++
    listing (context.domainGraph.ofType componentType)

def levelWord (level : Int) : String :=
  if level = 1 then "Novice"
  else if level = 2 then "Developing"
  else if level = 3 then "Competent"
  else if level = 4 then "Advanced"
  else if level = 5 then "Master"
  else ""

def findLevel (levels : List CreatedNode) (level : Int) : Option CreatedNode :=
  (levels.find? (fun l => Text.isInfix (" " ++ levelWord level) l.name)).orElse
    (fun _ => if 1 ≤ level then levels[(level - 1).toNat]? else none)

def readAssignment (context : AgentContext) (componentType : String) (assignment : Json) :
    Parsed (Option LevelAssignment) := do
  let componentName ← okOr (strField assignment "component") "Missing component name"
  let level ← okOr ((assignment.get "level").bind Json.asI64) "Missing level"
  let proficiency := strField assignment "proficiency"
  match findElementId context componentName componentType,
      findLevel context.domainGraph.domainLevels level with
  | some componentId, some l =>
      return some ⟨l.elementId, componentId, componentName, componentType, proficiency⟩
  | _, _ => return none

def parseLevelAssignments (response : String) (context : AgentContext) (componentType : String) :
    Parsed (List LevelAssignment) := do
  let parsed ← parseObject codec "No JSON object found" "No closing brace found" none response
  let assignments ← okOr ((parsed.get "level_assignments").bind Json.asArray)
    "Missing level_assignments array"
  return (← assignments.mapM (readAssignment context componentType)).filterMap id

def analyzeLevelAssignmentsForType (context : AgentContext) (componentType : String) :
    Step (List LevelAssignment) :=
  ask (.levelAssignment context.domainName (buildContextForType context componentType))
    (fun response => parseLevelAssignments codec response context componentType)

def analyzeType (context : AgentContext) (componentType : String) : Step (List LevelAssignment) := do
  send (.stepProgress .levelDistributor ("Assigning " ++ componentType ++ " nodes to levels..."))
  analyzeLevelAssignmentsForType codec context componentType

def analyzeLevelAssignments (context : AgentContext) : Step (List LevelAssignment) := do
  let assignments ← ["Knowledge", "Skill", "Trait", "Milestone"].mapM (analyzeType codec context)
  return assignments.flatten

def proficiencyProps (componentType proficiency : String) : Properties :=
  if componentType = "Knowledge" then [("bloom_level", .str proficiency)]
  else if componentType = "Skill" then [("dreyfus_level", .str proficiency)]
  else if componentType = "Trait" then
    match Text.parseI64 proficiency with
    | some score => [("min_score", .int score)]
    | none => []
  else []

def createLevelRelationship (acc : Nat × AgentContext) (assignment : LevelAssignment) :
    Step (Nat × AgentContext) :=
  match requiresType assignment.componentType with
  | none => return acc
  | some relType => do
      let props := (assignment.proficiency.map (proficiencyProps assignment.componentType)).getD []
      let request : CreateRelationshipRequest :=
        ⟨assignment.levelId, assignment.componentId, relType,
          if props.isEmpty then none else some props⟩
      let requirement : LevelRequirement :=
        ⟨assignment.levelId, assignment.componentId, assignment.componentName,
          assignment.componentType, assignment.proficiency⟩
      match ← (createRelationship request).attempt with
      | .ok _ => return (acc.1 + 1, acc.2.addLevelRequirement requirement)
      | .error _ => return acc

def createLevelRelationships (assignments : List LevelAssignment) (context : AgentContext) :
    Step (Nat × AgentContext) :=
  assignments.foldlM createLevelRelationship (0, context)

def execute (context : AgentContext) : ContextStep AgentContext := do
  let levelAssignments ← (analyzeLevelAssignments codec context).failingIn context
  send (.stepProgress .levelDistributor
    ("Identified " ++ toString levelAssignments.length ++ " level assignments"))
  send (.stepProgress .levelDistributor "Creating level relationships in database...")
  let (count, context) ← (createLevelRelationships levelAssignments context).failingIn context
  send (.stepProgress .levelDistributor ("Created " ++ toString count ++ " level relationships"))
  return context

theorem readAssignment_ne_panicked (context : AgentContext) (componentType : String)
    (assignment : Json) : readAssignment context componentType assignment ≠ .panicked := by
  intro h
  simp only [readAssignment, Exit.bind_eq_panicked, okOr_ne_panicked, false_or] at h
  obtain ⟨name, -, level, -, h⟩ := h
  split at h <;> cases h

theorem parseLevelAssignments_panics (response : String) (context : AgentContext)
    (componentType : String) :
    parseLevelAssignments codec response context componentType = .panicked ↔
      reversed response '{' '}' = true := by
  simp [parseLevelAssignments, Exit.bind_eq_panicked, okOr_ne_panicked, parseObject_unguarded,
    Exit.mapM_ne_panicked (readAssignment_ne_panicked context componentType)]

theorem behaved_createLevelRelationship (acc : Nat × AgentContext) (assignment : LevelAssignment) :
    Behaved .levelDistributor (createLevelRelationship acc assignment) := by
  unfold createLevelRelationship
  split
  · trivial
  · refine (Behaved.createRelationship _).attempt.bind (fun result => ?_)
    cases result <;> trivial

theorem behaved_analyzeType (context : AgentContext) (componentType : String) :
    Behaved .levelDistributor (analyzeType codec context componentType) :=
  Behaved.send_bind rfl
    (Behaved.ask (fun text => parseLevelAssignments_panics codec text context componentType))

theorem behaved (context : AgentContext) : Behaved .levelDistributor (execute codec context) := by
  refine ((Contract.mapM _ fun componentType _ =>
    behaved_analyzeType codec context componentType).bind fun _ => Contract.done _).mapErr.bind
      fun assignments => ?_
  refine Behaved.send_bind rfl (Behaved.send_bind rfl ?_)
  refine (Contract.foldlM assignments (fun acc assignment _ =>
    behaved_createLevelRelationship acc assignment) _).mapErr.bind fun result => ?_
  exact Behaved.send_bind rfl (Contract.done _)

end LevelDistributorStep

namespace PrerequisiteMapperStep

structure PrerequisiteRelationship where
  sourceId : ElementId
  sourceName : String
  targetId : ElementId
  targetName : String
  relationshipType : String
  deriving DecidableEq

def buildContextForType (context : AgentContext) (sourceType : String) : String :=
  "Domain: " ++ context.domainName ++ "\n\n" ++ sourceType ++
    " Nodes (find prerequisites for these):\n" ++ listing (context.domainGraph.ofType sourceType) ++
    "\nAvailable Knowledge Nodes:\n" ++ nameListing context.domainGraph.knowledge ++
    "\nAvailable Skill Nodes:\n" ++ nameListing context.domainGraph.skills ++
    "\nAvailable Trait Nodes:\n" ++ nameListing context.domainGraph.traits ++
    "\nAvailable Milestone Nodes:\n" ++ nameListing context.domainGraph.milestones

def readRequirement (context : AgentContext) (sourceId : ElementId) (sourceName : String)
    (req : Json) : Option PrerequisiteRelationship := do
  let reqName := (strField req "name").getD ""
  let reqType := (strField req "type").getD ""
  let targetId ← findElementId context reqName reqType
  let relType ← requiresType reqType
  return ⟨sourceId, sourceName, targetId, reqName, relType⟩

def readPrerequisite (context : AgentContext) (sourceType : String) (prereq : Json) :
    Parsed (List PrerequisiteRelationship) := do
  let componentName ← okOr (strField prereq "component") "Missing component name"
  match findElementId context componentName sourceType with
  | none => return []
  | some sourceId =>
      let requires := ((prereq.get "requires").bind Json.asArray).getD []
      return requires.filterMap (readRequirement context sourceId componentName)

def parsePrerequisites (response : String) (context : AgentContext) (sourceType : String) :
    Parsed (List PrerequisiteRelationship) := do
  let parsed ← parseObject codec "No JSON object found" "No closing brace found" none response
  let prerequisites ← okOr ((parsed.get "prerequisites").bind Json.asArray)
    "Missing prerequisites array"
  return (← prerequisites.mapM (readPrerequisite context sourceType)).flatten

def analyzePrerequisitesForType (context : AgentContext) (sourceType : String) :
    Step (List PrerequisiteRelationship) :=
  ask (.prerequisiteAnalysis context.domainName (buildContextForType context sourceType))
    (fun response => parsePrerequisites codec response context sourceType)

def analyzeType (context : AgentContext) (sourceType : String) :
    Step (List PrerequisiteRelationship) := do
  send (.stepProgress .prerequisiteMapper ("Analyzing " ++ sourceType ++ " prerequisites..."))
  analyzePrerequisitesForType codec context sourceType

def analyzePrerequisites (context : AgentContext) : Step (List PrerequisiteRelationship) := do
  let prerequisites ← ["Skill", "Milestone"].mapM (analyzeType codec context)
  return prerequisites.flatten

def createPrerequisiteRelationship (acc : Nat × AgentContext) (prereq : PrerequisiteRelationship) :
    Step (Nat × AgentContext) := do
  let request : CreateRelationshipRequest :=
    ⟨prereq.sourceId, prereq.targetId, prereq.relationshipType, none⟩
  let link : PrerequisiteLink :=
    ⟨prereq.sourceId, prereq.sourceName, prereq.targetId, prereq.targetName, prereq.relationshipType⟩
  match ← (createRelationship request).attempt with
  | .ok _ => return (acc.1 + 1, acc.2.addPrerequisite link)
  | .error _ => return acc

def createPrerequisiteRelationships (prerequisites : List PrerequisiteRelationship)
    (context : AgentContext) : Step (Nat × AgentContext) :=
  prerequisites.foldlM createPrerequisiteRelationship (0, context)

def execute (context : AgentContext) : ContextStep AgentContext := do
  let prerequisites ← (analyzePrerequisites codec context).failingIn context
  send (.stepProgress .prerequisiteMapper
    ("Identified " ++ toString prerequisites.length ++ " prerequisite relationships"))
  send (.stepProgress .prerequisiteMapper "Creating prerequisite relationships in database...")
  let (count, context) ← (createPrerequisiteRelationships prerequisites context).failingIn context
  send (.stepProgress .prerequisiteMapper
    ("Created " ++ toString count ++ " prerequisite relationships"))
  return context

theorem readPrerequisite_ne_panicked (context : AgentContext) (sourceType : String)
    (prereq : Json) : readPrerequisite context sourceType prereq ≠ .panicked := by
  intro h
  simp only [readPrerequisite, Exit.bind_eq_panicked, okOr_ne_panicked, false_or] at h
  obtain ⟨name, -, h⟩ := h
  split at h <;> cases h

theorem parsePrerequisites_panics (response : String) (context : AgentContext)
    (sourceType : String) :
    parsePrerequisites codec response context sourceType = .panicked ↔
      reversed response '{' '}' = true := by
  simp [parsePrerequisites, Exit.bind_eq_panicked, okOr_ne_panicked, parseObject_unguarded,
    Exit.mapM_ne_panicked (readPrerequisite_ne_panicked context sourceType)]

theorem behaved_analyzeType (context : AgentContext) (sourceType : String) :
    Behaved .prerequisiteMapper (analyzeType codec context sourceType) :=
  Behaved.send_bind rfl
    (Behaved.ask (fun text => parsePrerequisites_panics codec text context sourceType))

theorem behaved_createPrerequisiteRelationship (acc : Nat × AgentContext)
    (prereq : PrerequisiteRelationship) :
    Behaved .prerequisiteMapper (createPrerequisiteRelationship acc prereq) := by
  refine (Behaved.createRelationship _).attempt.bind (fun result => ?_)
  cases result <;> trivial

theorem behaved (context : AgentContext) : Behaved .prerequisiteMapper (execute codec context) := by
  refine ((Contract.mapM _ fun sourceType _ =>
    behaved_analyzeType codec context sourceType).bind fun _ => Contract.done _).mapErr.bind
      fun prerequisites => ?_
  refine Behaved.send_bind rfl (Behaved.send_bind rfl ?_)
  refine (Contract.foldlM prerequisites (fun acc prereq _ =>
    behaved_createPrerequisiteRelationship acc prereq) _).mapErr.bind fun result => ?_
  exact Behaved.send_bind rfl (Contract.done _)

end PrerequisiteMapperStep

end AtlasOfUs.Agent
