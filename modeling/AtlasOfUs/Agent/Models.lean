import AtlasOfUs.Common.Similarity

namespace AtlasOfUs.Agent

open Library Similarity

inductive AgentType
  | domainArchitect
  | knowledgeGenerator
  | skillGenerator
  | traitGenerator
  | milestoneGenerator
  | levelDistributor
  | prerequisiteMapper
  deriving DecidableEq, Repr

def AgentType.displayName : AgentType → String
  | .domainArchitect => "Domain Architect"
  | .knowledgeGenerator => "Knowledge Generator"
  | .skillGenerator => "Skill Generator"
  | .traitGenerator => "Trait Generator"
  | .milestoneGenerator => "Milestone Generator"
  | .levelDistributor => "Level Distributor"
  | .prerequisiteMapper => "Prerequisite Mapper"

structure CreatedNode where
  name : String
  elementId : ElementId
  label : String
  wasReused : Bool
  deriving DecidableEq, Repr

def CreatedNode.new (name : String) (elementId : ElementId) (label : String) : CreatedNode :=
  ⟨name, elementId, label, false⟩

def CreatedNode.reused (name : String) (elementId : ElementId) (label : String) : CreatedNode :=
  ⟨name, elementId, label, true⟩

structure LevelRequirement where
  levelId : ElementId
  componentId : ElementId
  componentName : String
  componentType : String
  proficiency : Option String
  deriving DecidableEq, Repr

structure GeneralizationLink where
  specificId : ElementId
  specificName : String
  generalId : ElementId
  generalName : String
  nodeType : String
  deriving DecidableEq, Repr

structure PrerequisiteLink where
  sourceId : ElementId
  sourceName : String
  targetId : ElementId
  targetName : String
  relationshipType : String
  deriving DecidableEq, Repr

structure DomainGraphRegistry where
  domain : Option CreatedNode := none
  domainLevels : List CreatedNode := []
  knowledge : List CreatedNode := []
  skills : List CreatedNode := []
  traits : List CreatedNode := []
  milestones : List CreatedNode := []
  levelRequirements : List LevelRequirement := []
  generalizations : List GeneralizationLink := []
  prerequisites : List PrerequisiteLink := []
  deriving DecidableEq, Repr

def DomainGraphRegistry.allNodes (r : DomainGraphRegistry) : List CreatedNode :=
  r.domain.toList ++ r.domainLevels ++ r.knowledge ++ r.skills ++ r.traits ++ r.milestones

def countCreated (nodes : List CreatedNode) : Nat := (nodes.filter (fun n => !n.wasReused)).length

def countReused (nodes : List CreatedNode) : Nat := (nodes.filter (·.wasReused)).length

structure DomainStatistics where
  domainLevelsCreated : Nat := 0
  knowledgeCreated : Nat := 0
  skillsCreated : Nat := 0
  traitsCreated : Nat := 0
  milestonesCreated : Nat := 0
  relationshipsCreated : Nat := 0
  nodesReused : Nat := 0
  deriving DecidableEq, Repr

inductive ConceptAction
  | createNew
  | useExisting (elementId : ElementId)
  | createAndGeneralize (generalizesToId : ElementId) (generalizesToName : String)
      (needsCreation : Bool)
  deriving DecidableEq, Repr

structure VerifiedConcept where
  name : String
  action : ConceptAction
  deriving DecidableEq, Repr

inductive SseEvent
  | started (domainName : String) (totalAgents : Nat)
  | domainExists (requestedName existingDomain : String)
  | agentStarted (agent : AgentType) (agentNumber : Nat) (agentName : String)
  | stepProgress (agent : AgentType) (message : String)
  | similarityCheck (agent : AgentType) (concept : String) (similarFound : Nat)
      (topScore : Option ℚ)
  | verificationResult (agent : AgentType) (concept decision : String)
      (generalizesTo : Option String)
  | nodeCreated (agent : AgentType) (nodeName label : String) (wasReused : Bool)
  | agentCompleted (agent : AgentType) (nodesCreated nodesReused : Nat)
  | agentFailed (agent : AgentType) (error : String)
  | completed (domainName : String) (statistics : DomainStatistics)
  | failed (error : String) (lastAgent : Option AgentType)
      (nodesCreatedBeforeFailure : Option DomainGraphRegistry)
  deriving DecidableEq

structure AgentContext where
  domainName : String
  description : Option String
  domainElementId : Option ElementId := none
  domainGraph : DomainGraphRegistry := {}

namespace AgentContext

def setDomain (context : AgentContext) (node : CreatedNode) : AgentContext :=
  { context with
    domainElementId := some node.elementId
    domainGraph := { context.domainGraph with domain := some node } }

def addDomainLevel (context : AgentContext) (node : CreatedNode) : AgentContext :=
  { context with domainGraph :=
    { context.domainGraph with domainLevels := context.domainGraph.domainLevels ++ [node] } }

def addKnowledge (context : AgentContext) (node : CreatedNode) : AgentContext :=
  { context with domainGraph :=
    { context.domainGraph with knowledge := context.domainGraph.knowledge ++ [node] } }

def addSkill (context : AgentContext) (node : CreatedNode) : AgentContext :=
  { context with domainGraph :=
    { context.domainGraph with skills := context.domainGraph.skills ++ [node] } }

def addTrait (context : AgentContext) (node : CreatedNode) : AgentContext :=
  { context with domainGraph :=
    { context.domainGraph with traits := context.domainGraph.traits ++ [node] } }

def addMilestone (context : AgentContext) (node : CreatedNode) : AgentContext :=
  { context with domainGraph :=
    { context.domainGraph with milestones := context.domainGraph.milestones ++ [node] } }

def addLevelRequirement (context : AgentContext) (req : LevelRequirement) : AgentContext :=
  { context with domainGraph :=
    { context.domainGraph with
      levelRequirements := context.domainGraph.levelRequirements ++ [req] } }

def addGeneralization (context : AgentContext) (link : GeneralizationLink) : AgentContext :=
  { context with domainGraph :=
    { context.domainGraph with generalizations := context.domainGraph.generalizations ++ [link] } }

def addPrerequisite (context : AgentContext) (link : PrerequisiteLink) : AgentContext :=
  { context with domainGraph :=
    { context.domainGraph with prerequisites := context.domainGraph.prerequisites ++ [link] } }

end AgentContext

/-- The prompt templates with their arguments; the rendered text goes to the
language model only. -/
inductive Prompt
  | knowledgeConcepts (domainName description : String)
  | verifySimilarKnowledge (concept domainName : String) (similarNodes : List SimilarNodeResult)
  | knowledgeProperties (domainName concept : String) (generalizesTo : Option String)
  | genericKnowledgeProperties (concept : String)
  | skillConcepts (domainName description : String) (existingKnowledge : List String)
  | verifySimilarSkill (concept domainName : String) (similarNodes : List SimilarNodeResult)
  | skillProperties (domainName concept : String) (generalizesTo : Option String)
  | genericSkillProperties (concept : String)
  | traitConcepts (domainName description : String)
  | verifySimilarTrait (concept domainName : String) (similarNodes : List SimilarNodeResult)
  | traitProperties (concept : String)
  | milestoneConcepts (domainName description context : String)
  | milestoneProperties (domainName concept : String) (generalizesTo : Option String)
  | levelAssignment (domainName context : String)
  | prerequisiteAnalysis (domainName context : String)
  deriving DecidableEq

abbrev Step (α : Type) := Service SseEvent Prompt String α

inductive PageState
  | generating
  | completed
  | error
  deriving DecidableEq, Repr

def PageState.onEvent (state : PageState) : SseEvent → PageState
  | .completed .. => .completed
  | .failed .. => .error
  | _ => state

/-- An event on which the client stops reading the stream. -/
def SseEvent.isFinal : SseEvent → Bool
  | .completed .. | .failed .. => true
  | _ => false

def PageState.readStream (state : PageState) : List SseEvent → PageState
  | [] => state
  | event :: events =>
      if event.isFinal then state.onEvent event else (state.onEvent event).readStream events

theorem SseEvent.isFinal_iff (event : SseEvent) :
    event.isFinal = true ↔ PageState.generating.onEvent event ≠ .generating := by
  cases event <;> simp [isFinal, PageState.onEvent]

/-- The page stops showing the generation exactly if a final event arrives; the
end of the stream alone does not do it. -/
theorem PageState.leaves_generating_iff (events : List SseEvent) :
    PageState.generating.readStream events ≠ .generating ↔ ∃ e ∈ events, e.isFinal = true := by
  induction events with
  | nil => simp [readStream]
  | cons event events ih =>
      cases hf : event.isFinal with
      | true =>
          have h := event.isFinal_iff.1 hf
          simp [readStream, hf, h]
      | false =>
          have h : PageState.generating.onEvent event = .generating := by
            by_contra hne
            rw [event.isFinal_iff.2 hne] at hf
            cases hf
          simp [readStream, hf, h, ih]

end AtlasOfUs.Agent
