import AtlasOfUs.GraphApi.Models

namespace AtlasOfUs.GraphApi

open Library

/-- The domain endpoints send no events and ask no language model. -/
abbrev Api (α : Type) := Rest Empty Empty α

/-- A requirement of any kind: the label and relationship type of its kind, and
the properties its edge carries. -/
structure Requirement where
  label : String
  relType : String
  nodeElementId : Option ElementId
  newNode : Option NewNodeData
  properties : Properties
  deriving DecidableEq

def KnowledgeRequirement.toRequirement (r : KnowledgeRequirement) : Requirement :=
  ⟨"Knowledge", "REQUIRES_KNOWLEDGE", r.nodeElementId, r.newNode, [("bloom_level", .str r.bloomLevel)]⟩

def SkillRequirement.toRequirement (r : SkillRequirement) : Requirement :=
  ⟨"Skill", "REQUIRES_SKILL", r.nodeElementId, r.newNode, [("dreyfus_level", .str r.dreyfusLevel)]⟩

def TraitRequirement.toRequirement (r : TraitRequirement) : Requirement :=
  ⟨"Trait", "REQUIRES_TRAIT", r.nodeElementId, r.newNode, [("min_score", .int r.minScore)]⟩

def MilestoneRequirement.toRequirement (r : MilestoneRequirement) : Requirement :=
  ⟨"Milestone", "REQUIRES_MILESTONE", r.nodeElementId, r.newNode, []⟩

/-- The requirements of a level in the order in which they are processed. -/
def LevelRequirements.entries (r : LevelRequirements) : List Requirement :=
  r.knowledge.map (·.toRequirement) ++ r.skills.map (·.toRequirement) ++
    r.traits.map (·.toRequirement) ++ r.milestones.map (·.toRequirement)

section Statements

def isNode (label : String) (id : ElementId) (n : Node) : Bool := n.id = id && n.hasLabel label

def hasNode (g : Graph) (label : String) (id : ElementId) : Bool := g.nodes.any (isNode label id)

def isNamed (label name : String) (n : Node) : Bool :=
  n.hasLabel label && n.props "name" = some (.str name)

def idRow (column : String) (id : ElementId) : Row := [(column, .str id)]

/-- `MATCH (d:Domain {name: $name}) RETURN elementId(d) AS id LIMIT 1`. -/
def checkStatement (name : String) : Statement := fun g =>
  (((g.nodes.filter (isNamed "Domain" name)).take 1).map (fun d => idRow "id" d.id), g)

/-- `CREATE (d:Domain {name: $name, description: $description})`. -/
def createDomainStatement (name description : String) : Statement := fun g =>
  ([idRow "elementId" g.freshId],
    g.createNode ["Domain"] (Properties.toProps [("name", .str name), ("description", .str description)]))

def levelProps (level : DomainLevel) : Props :=
  Properties.toProps [("level", .int level.level), ("name", .str level.name),
    ("description", .str (level.description.getD "")),
    ("total_points_required", .int level.pointsRequired)]

/-- `MATCH (d:Domain) WHERE elementId(d) = $domainId CREATE (l:Domain_Level ...)
CREATE (d)-[:HAS_DOMAIN_LEVEL]->(l)`. -/
def createLevelStatement (domainId : ElementId) (level : DomainLevel) : Statement := fun g =>
  if hasNode g "Domain" domainId then
    ([idRow "elementId" g.freshId],
      (g.createNode ["Domain_Level"] (levelProps level)).createEdge "HAS_DOMAIN_LEVEL" domainId
        g.freshId Props.empty)
  else ([], g)

/-- `MERGE (n:Label {name: $name}) ON CREATE SET n.key = $prop, ...`. -/
def mergeComponentStatement (label name : String) (props : Properties) : Statement := fun g =>
  match g.nodes.filter (isNamed label name) with
  | [] => ([idRow "elementId" g.freshId], g.createNode [label] (Properties.toProps props))
  | found => (found.map (fun n => idRow "elementId" n.id), g)

/-- `MATCH (l:Domain_Level), (n:Label) WHERE elementId(l) = $levelId AND
elementId(n) = $nodeId CREATE (l)-[:TYPE props]->(n)`. -/
def linkStatement (label relType : String) (levelId nodeId : ElementId) (props : Properties) :
    Statement := fun g =>
  if hasNode g "Domain_Level" levelId && hasNode g label nodeId then
    ([], g.createEdge relType levelId nodeId (Properties.toProps props))
  else ([], g)

/-- `MATCH (d:Domain) WHERE elementId(d) = $domainId RETURN d.name AS name`. -/
def verifyStatement (domainId : ElementId) : Statement := fun g =>
  ((g.nodes.filter (isNode "Domain" domainId)).map (fun d => [("name", propJson (d.props "name"))]), g)

def progressTypes : List String := ["HAS_KNOWLEDGE", "HAS_SKILL", "HAS_TRAIT", "ACHIEVED"]

/-- The pattern `(u:label)-[r:HAS_KNOWLEDGE|HAS_SKILL|HAS_TRAIT|ACHIEVED]->(n)` at `n`. -/
def isProgressOf (g : Graph) (userLabel : String) (nodeId : ElementId) (r : Edge) : Bool :=
  progressTypes.contains r.type && r.target = nodeId && hasNode g userLabel r.source

/-- `UNWIND $nodeIds AS nodeId MATCH (u:User)-[r:...]->(n) WHERE elementId(n) = nodeId
DELETE r RETURN count(r) AS deletedCount`. -/
def deleteProgressStatement (nodeIds : List ElementId) : Statement := fun g =>
  let matched := nodeIds.flatMap (fun i => g.edges.filter (isProgressOf g "User" i))
  ([[("deletedCount", .int matched.length)]],
    g.deleteEdges (fun r => nodeIds.any (fun i => isProgressOf g "User" i r)))

/-- `MATCH (d:Domain) WHERE elementId(d) = $domainId SET d.name = $name, ...`. -/
def renameStatement (domainId : ElementId) (name description : String) : Statement := fun g =>
  ((g.nodes.filter (isNode "Domain" domainId)).map (fun d => idRow "elementId" d.id),
    g.setNodes (isNode "Domain" domainId)
      (fun ps => (ps.set "name" (.str name)).set "description" (.str description)))

def isLevelOf (g : Graph) (domainId : ElementId) (l : Node) : Bool :=
  l.hasLabel "Domain_Level" && hasNode g "Domain" domainId &&
    g.edges.any (Edge.between "HAS_DOMAIN_LEVEL" domainId l.id)

/-- `MATCH (d:Domain)-[:HAS_DOMAIN_LEVEL]->(l:Domain_Level) WHERE elementId(d) = $domainId
DETACH DELETE l`. -/
def deleteLevelsStatement (domainId : ElementId) : Statement := fun g =>
  ([], g.detachDelete (isLevelOf g domainId))

end Statements

def componentProps (label : String) (data : NewNodeData) : Properties :=
  let own :=
    if label = "Knowledge" then data.howToLearn.map (fun s => ("how_to_learn", Value.str s))
    else if label = "Skill" then data.howToDevelop.map (fun s => ("how_to_develop", .str s))
    else if label = "Trait" then
      data.measurementCriteria.map (fun s => ("measurement_criteria", .str s))
    else if label = "Milestone" then data.howToAchieve.map (fun s => ("how_to_achieve", .str s))
    else none
  [("name", .str data.name), ("description", .str data.description)] ++ own.toList

def createComponentNode (label : String) (data : NewNodeData) : Api ElementId := do
  match ← execute (mergeComponentStatement label data.name (componentProps label data)) with
  | .error e => .fail (.databaseError ("Database error: " ++ e))
  | .ok result =>
      match result.firstRow with
      | some row => return (row.getString "elementId").getD ""
      | none => .fail (.databaseError "Failed to get element ID after creation")

def linkRequirement (levelId nodeId : ElementId) (r : Requirement) : Api Unit := do
  let _ ← runStatement (linkStatement r.label r.relType levelId nodeId r.properties)
  return ()

/-- The nodes reported as created. An existing id wins over new-node data;
whatever fails is logged and skipped. -/
def processRequirement (levelId : ElementId) (r : Requirement) :
    Api (List CreatedNodeInfo) :=
  match r.nodeElementId, r.newNode with
  | some existingId, _ => do
      linkRequirement levelId existingId r
      return []
  | none, some newNode => do
      match ← (createComponentNode r.label newNode).attempt with
      | .error _ => return []
      | .ok id => do
          linkRequirement levelId id r
          return [⟨id, newNode.name, [r.label]⟩]
  | none, none => return []

def processRequirements (levelId : ElementId) (requirements : List Requirement) :
    Api (List CreatedNodeInfo) := do
  return (← requirements.mapM (processRequirement levelId)).flatten

def processLevelRequirements (levelId : ElementId) (requirements : LevelRequirements) :
    Api (List CreatedNodeInfo) := do
  let knowledge ← processRequirements levelId (requirements.knowledge.map (·.toRequirement))
  let skills ← processRequirements levelId (requirements.skills.map (·.toRequirement))
  let traits ← processRequirements levelId (requirements.traits.map (·.toRequirement))
  let milestones ← processRequirements levelId (requirements.milestones.map (·.toRequirement))
  return knowledge ++ skills ++ traits ++ milestones

/-- One round of the level-creation loop: only a returned row gives an id. -/
def createLevel (domainId : ElementId) (level : DomainLevel) :
    Api (Option ElementId) := do
  match ← execute (createLevelStatement domainId level) with
  | .error _ => return none
  | .ok result => return result.firstRow.map (fun row => (row.getString "elementId").getD "")

def createLevels (domainId : ElementId) (levels : List DomainLevel) :
    Api (List ElementId) := do
  return (← levels.mapM (createLevel domainId)).filterMap id

def processLevel (levelElementIds : List ElementId) (level : DomainLevel × Nat) :
    Api (List CreatedNodeInfo) :=
  match levelElementIds[level.2]? with
  | none => return []
  | some levelElementId => do
      match ← (processLevelRequirements levelElementId level.1.requirements).attempt with
      | .ok nodes => return nodes
      | .error _ => return []

def processLevels (levelElementIds : List ElementId) (levels : List DomainLevel) :
    Api (List CreatedNodeInfo) := do
  return (← levels.zipIdx.mapM (processLevel levelElementIds)).flatten

def validateRequest (domain : DomainInfo) (levels : List DomainLevel) : Api Unit :=
  if domain.name = "" then .fail (.validationError "Domain name is required")
  else if levels = [] then .fail (.validationError "At least one level is required")
  else return ()

def checkDomainName (name : String) : Api Unit := do
  match ← execute (checkStatement name) with
  | .ok result =>
      match result.firstRow with
      | some _ => .fail (.validationError "Domain with this name already exists")
      | none => return ()
  | .error _ => .fail (.databaseError "Failed to check domain existence")

def createDomainNode (domain : DomainInfo) : Api ElementId := do
  match ← execute (createDomainStatement domain.name domain.description) with
  | .ok result =>
      match result.firstRow with
      | some row => return (row.getString "elementId").getD ""
      | none => .fail (.databaseError "Failed to create domain node")
  | .error _ => .fail (.databaseError "Failed to create domain")

/-- The two loops that `create_domain` and `update_domain` share. -/
def storeLevels (domainId : ElementId) (levels : List DomainLevel) :
    Api (List CreatedNodeInfo) := do
  let levelElementIds ← createLevels domainId levels
  processLevels levelElementIds levels

def openDomain (request : CreateDomainRequest) : Api ElementId := do
  validateRequest request.domain request.levels
  checkDomainName request.domain.name
  createDomainNode request.domain

/-- Create a complete domain with levels and requirements. -/
def createDomain (request : CreateDomainRequest) : Api CreateDomainResult := do
  let domainElementId ← openDomain request
  let createdNodes ← storeLevels domainElementId request.levels
  return ⟨true, domainElementId, request.domain.name, createdNodes⟩

def verifyDomain (domainElementId : ElementId) : Api Unit := do
  match ← execute (verifyStatement domainElementId) with
  | .ok result =>
      match result.firstRow with
      | some _ => return ()
      | none => .fail (.notFound "Domain not found")
  | .error _ => .fail (.databaseError "Failed to verify domain")

def deleteProgress (removedNodeElementIds : List ElementId) : Api Int := do
  if removedNodeElementIds = [] then return 0
  else
    match ← execute (deleteProgressStatement removedNodeElementIds) with
    | .ok result =>
        match result.firstRow with
        | some row => return (row.getInt "deletedCount").getD 0
        | none => return 0
    | .error _ => return 0

def renameDomain (domainElementId : ElementId) (domain : DomainInfo) : Api Unit := do
  match ← runStatement (renameStatement domainElementId domain.name domain.description) with
  | .ok _ => return ()
  | .error _ => .fail (.databaseError "Failed to update domain")

def deleteOldLevels (domainElementId : ElementId) : Api Unit := do
  match ← runStatement (deleteLevelsStatement domainElementId) with
  | .ok _ => return ()
  | .error _ => .fail (.databaseError "Failed to delete old levels")

def reopenDomain (request : UpdateDomainRequest) : Api Int := do
  validateRequest request.domain request.levels
  verifyDomain request.domainElementId
  let affectedUserCount ← deleteProgress request.removedNodeElementIds
  renameDomain request.domainElementId request.domain
  deleteOldLevels request.domainElementId
  return affectedUserCount

def updateDomain (request : UpdateDomainRequest) : Api UpdateDomainResult := do
  let affectedUserCount ← reopenDomain request
  let createdNodes ← storeLevels request.domainElementId request.levels
  return ⟨true, request.domainElementId, request.domain.name, createdNodes, affectedUserCount⟩

end AtlasOfUs.GraphApi
