import AtlasOfUs.Agent.Models
import AtlasOfUs.Agent.DomainArchitect
import AtlasOfUs.Agent.Relationships
import AtlasOfUs.Agent.TraitGenerator

namespace AtlasOfUs.Agent

open Library Similarity

def DOMAIN_SIMILARITY_THRESHOLD : ℚ := 85 / 100

structure DomainGenerationResult where
  domainName : String
  domainElementId : ElementId
  domainGraph : DomainGraphRegistry
  statistics : DomainStatistics

variable (codec : Codec) (tables : DomainArchitectStep.CharTables)

def allAgents : List AgentType :=
  [.domainArchitect, .knowledgeGenerator, .skillGenerator, .traitGenerator, .milestoneGenerator,
    .levelDistributor, .prerequisiteMapper]

def executeAgent : AgentType → AgentContext → ContextStep AgentContext
  | .domainArchitect => DomainArchitectStep.execute codec tables
  | .knowledgeGenerator => KnowledgeGeneratorStep.execute codec
  | .skillGenerator => SkillGeneratorStep.execute codec
  | .traitGenerator => TraitGeneratorStep.execute codec
  | .milestoneGenerator => MilestoneGeneratorStep.execute codec
  | .levelDistributor => LevelDistributorStep.execute codec
  | .prerequisiteMapper => PrerequisiteMapperStep.execute codec

def countAgentNodes (agent : AgentType) (context : AgentContext) : Nat × Nat :=
  let graph := context.domainGraph
  match agent with
  | .domainArchitect => (graph.domainLevels.length + graph.domain.toList.length, 0)
  | .knowledgeGenerator => (countCreated graph.knowledge, countReused graph.knowledge)
  | .skillGenerator => (countCreated graph.skills, countReused graph.skills)
  | .traitGenerator => (countCreated graph.traits, countReused graph.traits)
  | .milestoneGenerator => (countCreated graph.milestones, countReused graph.milestones)
  | .levelDistributor | .prerequisiteMapper => (0, 0)

def updateStats (stats : DomainStatistics) (agent : AgentType) (context : AgentContext) :
    DomainStatistics :=
  let graph := context.domainGraph
  match agent with
  | .domainArchitect => { stats with domainLevelsCreated := graph.domainLevels.length }
  | .knowledgeGenerator => { stats with knowledgeCreated := countCreated graph.knowledge }
  | .skillGenerator => { stats with skillsCreated := countCreated graph.skills }
  | .traitGenerator => { stats with traitsCreated := countCreated graph.traits }
  | .milestoneGenerator => { stats with milestonesCreated := countCreated graph.milestones }
  | .levelDistributor | .prerequisiteMapper => stats

def existingDomain (similar : List SimilarNodeResult) : Option String :=
  match similar with
  | [] => none
  | top :: _ => if top.score ≥ DOMAIN_SIMILARITY_THRESHOLD then some top.name else none

def checkDomainExists (domainName : String) : Step (Option String) := do
  return existingDomain (← similarTo "Domain" 1 domainName)

def runAgent (acc : AgentContext × DomainStatistics) (agent : AgentType × Nat) :
    Step (AgentContext × DomainStatistics) := do
  send (.agentStarted agent.1 (agent.2 + 1) agent.1.displayName)
  match ← (executeAgent codec tables agent.1 acc.1).attempt with
  | .ok context => do
      let counts := countAgentNodes agent.1 context
      send (.agentCompleted agent.1 counts.1 counts.2)
      return (context, updateStats acc.2 agent.1 context)
  | .error (e, context) => do
      send (.agentFailed agent.1 e)
      send (.failed e (some agent.1) (some context.domainGraph))
      .fail e

def runAgents (context : AgentContext) : Step (AgentContext × DomainStatistics) :=
  allAgents.zipIdx.foldlM (runAgent codec tables) (context, {})

def finishWorkflow (domainName : String) (acc : AgentContext × DomainStatistics) :
    Step DomainGenerationResult := do
  let (context, stats) := acc
  let stats := { stats with nodesReused := countReused context.domainGraph.allNodes }
  send (.completed domainName stats)
  return ⟨domainName, context.domainElementId.getD "", context.domainGraph, stats⟩

def runWorkflow (domainName : String) (description : Option String) : Step DomainGenerationResult := do
  send (.started domainName 7)
  let acc ← runAgents codec tables ⟨domainName, description, none, {}⟩
  finishWorkflow domainName acc

def generateDomain (domainName : String) (description : Option String) :
    Step DomainGenerationResult := do
  match ← checkDomainExists domainName with
  | some existing => do
      send (.domainExists domainName existing)
      .fail ("A similar domain '" ++ existing ++
        "' already exists. Please choose a different name.")
  | none => runWorkflow codec tables domainName description

theorem behaved_executeAgent (agent : AgentType) (context : AgentContext) :
    Behaved agent (executeAgent codec tables agent context) := by
  cases agent with
  | domainArchitect => exact DomainArchitectStep.behaved codec tables context
  | knowledgeGenerator => exact KnowledgeGeneratorStep.behaved codec context
  | skillGenerator => exact SkillGeneratorStep.behaved codec context
  | traitGenerator => exact TraitGeneratorStep.behaved codec context
  | milestoneGenerator => exact MilestoneGeneratorStep.behaved codec context
  | levelDistributor => exact LevelDistributorStep.behaved codec context
  | prerequisiteMapper => exact PrerequisiteMapperStep.behaved codec context

end AtlasOfUs.Agent
