import AtlasOfUs.Services

namespace AtlasOfUs.Worker

open Library

inductive NodeType
  | knowledge
  | skill
  | trait
  | milestone
  deriving DecidableEq, Repr

def NodeType.label : NodeType → String
  | .knowledge => "Knowledge"
  | .skill => "Skill"
  | .trait => "Trait"
  | .milestone => "Milestone"

theorem NodeType.label_ne_level (type : NodeType) :
    [type.label].contains "Domain_Level" = false := by
  cases type <;> decide

def NodeType.levelRelationship : NodeType → String
  | .knowledge => "REQUIRES_KNOWLEDGE"
  | .skill => "REQUIRES_SKILL"
  | .trait => "REQUIRES_TRAIT"
  | .milestone => "REQUIRES_MILESTONE"

structure DomainLevelInfo where
  level : UInt8
  name : String
  elementId : ElementId
  deriving DecidableEq

structure NodeGenerationJob where
  jobId : String
  nodeType : NodeType
  nodeName : String
  domainName : String
  domainDescription : Option String
  domainLevels : List DomainLevelInfo
  suggestedLevel : Option UInt8
  deriving DecidableEq

structure NodeGenerationResult where
  jobId : String
  elementId : Option ElementId
  wasReused : Bool
  reusedNodeId : Option ElementId
  assignedLevel : Option UInt8
  prerequisitesCreated : Nat
  error : Option String
  deriving DecidableEq

def NodeGenerationResult.success (jobId : String) (elementId : ElementId) (wasReused : Bool)
    (assignedLevel : Option UInt8) (prerequisitesCreated : Nat) : NodeGenerationResult where
  jobId := jobId
  elementId := some elementId
  wasReused := wasReused
  reusedNodeId := if wasReused then some elementId else none
  assignedLevel := assignedLevel
  prerequisitesCreated := prerequisitesCreated
  error := none

structure SqsRecord where
  body : Option String

structure VerificationResponse where
  decision : String
  existingNodeName : Option String
  suggestedTarget : Option String

structure KnowledgeProperties where
  name : String
  description : String
  howToLearn : String
  rememberLevel : String
  understandLevel : String
  applyLevel : String
  analyzeLevel : String
  evaluateLevel : String
  createLevel : String

structure SkillProperties where
  name : String
  description : String
  howToDevelop : String
  noviceLevel : String
  advancedBeginnerLevel : String
  competentLevel : String
  proficientLevel : String
  expertLevel : String

structure TraitProperties where
  name : String
  description : String
  measurementCriteria : String

structure MilestoneProperties where
  name : String
  description : String
  howToAchieve : String

/-- The parsers that `serde` derives for what the worker reads. -/
structure WorkerCodec where
  job : String → Except String NodeGenerationJob
  verification : String → Except String VerificationResponse
  knowledge : String → Except String KnowledgeProperties
  skill : String → Except String SkillProperties
  trait : String → Except String TraitProperties
  milestone : String → Except String MilestoneProperties

inductive ProcessingError
  | neo4j (message : String)
  | embedding (message : String)
  | llm (message : String)
  | similarity (message : String)
  | configuration (message : String)
  | invalidData (message : String)
  deriving DecidableEq

def ProcessingError.toString : ProcessingError → String
  | .neo4j message => "Neo4j error: " ++ message
  | .embedding message => "Embedding error: " ++ message
  | .llm message => "LLM error: " ++ message
  | .similarity message => "Similarity error: " ++ message
  | .configuration message => "Configuration error: " ++ message
  | .invalidData message => "Invalid data: " ++ message

def isRetryableError : ProcessingError → Bool
  | .neo4j _ | .embedding _ | .llm _ => true
  | .similarity _ | .configuration _ | .invalidData _ => false

inductive WorkerPrompt
  | verification (domainName nodeLabel conceptName : String)
      (similarNodes : List (String × Option String × ℚ))
  | properties (nodeType : NodeType) (domainName : String) (domainDescription : Option String)
      (nodeName : String)

abbrev Processing (α : Type) := Service Empty WorkerPrompt ProcessingError α

end AtlasOfUs.Worker
