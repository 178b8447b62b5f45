import AtlasOfUs.Services

namespace AtlasOfUs.GraphApi

open Library

inductive ServiceError
  | databaseError (message : String)
  | embeddingFailed (message : String)
  | similarNodeExists (score : ℚ) (details : String)
  | notFound (message : String)
  | validationError (message : String)
  deriving DecidableEq

def ServiceError.toString (codec : Codec) : ServiceError → String
  | .databaseError message => "Database error: " ++ message
  | .embeddingFailed message => "Embedding failed: " ++ message
  | .similarNodeExists score details =>
      "Similar node exists (score: " ++ codec.float score ++ "): " ++ details
  | .notFound message => "Not found: " ++ message
  | .validationError message => "Validation error: " ++ message

abbrev Properties := List (String × Value)

def Properties.toProps (properties : Properties) : Props := fun key => properties.lookup key

structure CreateNodeRequest where
  labels : List String
  properties : Properties
  deriving DecidableEq

structure CreateNodeResult where
  elementId : ElementId
  name : String
  labels : List String
  deriving DecidableEq

structure CreateRelationshipRequest where
  sourceId : ElementId
  targetId : ElementId
  relationshipType : String
  properties : Option Properties
  deriving DecidableEq

structure CreateRelationshipResult where
  elementId : ElementId
  relationshipType : String
  sourceId : ElementId
  targetId : ElementId
  deriving DecidableEq

structure NewNodeData where
  name : String
  description : String
  howToLearn : Option String
  howToDevelop : Option String
  measurementCriteria : Option String
  howToAchieve : Option String
  deriving DecidableEq

structure KnowledgeRequirement where
  nodeElementId : Option ElementId
  newNode : Option NewNodeData
  bloomLevel : String
  deriving DecidableEq

structure SkillRequirement where
  nodeElementId : Option ElementId
  newNode : Option NewNodeData
  dreyfusLevel : String
  deriving DecidableEq

structure TraitRequirement where
  nodeElementId : Option ElementId
  newNode : Option NewNodeData
  minScore : Int
  deriving DecidableEq

structure MilestoneRequirement where
  nodeElementId : Option ElementId
  newNode : Option NewNodeData
  deriving DecidableEq

structure LevelRequirements where
  knowledge : List KnowledgeRequirement
  skills : List SkillRequirement
  traits : List TraitRequirement
  milestones : List MilestoneRequirement
  deriving DecidableEq

structure DomainLevel where
  level : Int
  name : String
  description : Option String
  pointsRequired : Int
  requirements : LevelRequirements
  deriving DecidableEq

structure DomainInfo where
  name : String
  description : String
  deriving DecidableEq

structure CreateDomainRequest where
  domain : DomainInfo
  levels : List DomainLevel
  deriving DecidableEq

structure CreatedNodeInfo where
  elementId : ElementId
  name : String
  labels : List String
  deriving DecidableEq

structure CreateDomainResult where
  success : Bool
  domainElementId : ElementId
  domainName : String
  createdNodes : List CreatedNodeInfo
  deriving DecidableEq

structure UpdateDomainRequest where
  domainElementId : ElementId
  domain : DomainInfo
  levels : List DomainLevel
  removedNodeElementIds : List ElementId
  deriving DecidableEq

structure UpdateDomainResult where
  success : Bool
  domainElementId : ElementId
  domainName : String
  createdNodes : List CreatedNodeInfo
  affectedUserProgressCount : Int
  deriving DecidableEq

abbrev Rest (Event Prompt α : Type) := Service Event Prompt ServiceError α

end AtlasOfUs.GraphApi
