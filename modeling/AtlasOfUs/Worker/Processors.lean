import AtlasOfUs.Worker.Messages
import AtlasOfUs.Common.Similarity
import AtlasOfUs.Statements
import AtlasOfUs.Text

namespace AtlasOfUs.Worker

open Library Similarity

structure SimilarityThresholds where
  autoReuse : ℚ
  autoCreate : ℚ

def SimilarityThresholds.standard : SimilarityThresholds := ⟨95 / 100, 70 / 100⟩

def SimilarityThresholds.traitNode : SimilarityThresholds := ⟨85 / 100, 65 / 100⟩

inductive ConceptDecision
  | useExisting (elementId : ElementId) (name : String)
  | createNew
  | createAndGeneralize (targetId : ElementId) (targetName : String)
  deriving DecidableEq

structure CreatedNode where
  elementId : ElementId
  name : String
  deriving DecidableEq

def extractJson (response : String) : String :=
  let trimmed := Text.trim response
  if trimmed.startsWith "```json" then
    Text.trim (Text.trimEndMatches (Text.trimStartMatches trimmed "```json") "```")
  else if trimmed.startsWith "```" then
    Text.trim (Text.trimEndMatches (Text.trimStartMatches trimmed "```") "```")
  else trimmed

inductive SimilarityError
  | embeddingFailed (message : String)
  | queryFailed (message : String)
  | invalidRequest (message : String)
  deriving DecidableEq

def SimilarityError.toString : SimilarityError → String
  | .embeddingFailed message => "Embedding generation failed: " ++ message
  | .queryFailed message => "Query failed: " ++ message
  | .invalidRequest message => "Invalid request: " ++ message

abbrev Search (α : Type) := Service Empty WorkerPrompt SimilarityError α

def executeSimilarityQuery (label : Option String) (limit : Int) (key : SearchKey) :
    Search (List SimilarNodeResult) := do
  match ← queryNodes label limit key with
  | .error e => .fail (.queryFailed e)
  | .ok rows => return rows.map SimilarNodeResult.ofRow

/-- The worker's copy of the search, with errors of its own. -/
def findSimilarNodes (request : FindSimilarNodesRequest) : Search (List SimilarNodeResult) :=
  let limit := request.limit.getD 5
  match request.nodeId, request.embedding, request.text with
  | some id, _, _ => executeSimilarityQuery request.label limit (.nodeId id)
  | none, some vector, _ => executeSimilarityQuery request.label limit (.embedding vector)
  | none, none, some text => do
      match ← generateEmbedding text with
      | .error e => .fail (.embeddingFailed e)
      | .ok vector => executeSimilarityQuery request.label limit (.embedding vector)
  | none, none, none => .fail (.invalidRequest "Either node_id, embedding, or text must be provided")

def findSimilarByText (text : String) (label : Option String) (limit : Int) :
    Processing (List SimilarNodeResult) :=
  (findSimilarNodes { text := some text, label := label, limit := some limit }).mapErr
    (fun e => .similarity e.toString)

def askJson {α : Type} (prompt : WorkerPrompt) (parse : String → Except String α)
    (complaint : String → String → String) : Processing α := do
  match ← generate prompt with
  | .error e => .fail (.llm e)
  | .ok response =>
      match parse (extractJson response) with
      | .error e => .fail (.invalidData (complaint e response))
      | .ok a => return a

def verifyWithLlm (codec : WorkerCodec) (conceptName : String)
    (similarNodes : List SimilarNodeResult) (domainName nodeLabel : String) :
    Processing VerificationResponse :=
  askJson (.verification domainName nodeLabel conceptName
      (similarNodes.map (fun n => (n.name, n.description, n.score))))
    codec.verification
    (fun e response =>
      "Failed to parse LLM verification response: " ++ e ++ ". Response was: " ++ response)

def decideByVerification (similarNodes : List SimilarNodeResult)
    (verification : VerificationResponse) : ConceptDecision :=
  if verification.decision = "use_existing" then
    match (similarNodes.find? (fun n => some n.name = verification.existingNodeName)).or
        similarNodes.head? with
    | some node => .useExisting node.id node.name
    | none => .createNew
  else if verification.decision = "create_and_generalize" then
    match verification.existingNodeName.or verification.suggestedTarget with
    | some targetName =>
        match similarNodes.find? (fun n => n.name = targetName) with
        | some target => .createAndGeneralize target.id target.name
        | none => .createNew
    | none => .createNew
  else .createNew

def decideByScore (similarNodes : List SimilarNodeResult) (thresholds : SimilarityThresholds) :
    Option ConceptDecision :=
  match similarNodes.head?.filter (fun top => thresholds.autoReuse ≤ top.score) with
  | some top => some (.useExisting top.id top.name)
  | none =>
      if (similarNodes.head?.map (·.score)).getD 0 < thresholds.autoCreate then some .createNew
      else none

def decideConceptAction (codec : WorkerCodec) (conceptName : String)
    (similarNodes : List SimilarNodeResult) (thresholds : SimilarityThresholds)
    (domainName nodeLabel : String) : Processing ConceptDecision :=
  match decideByScore similarNodes thresholds with
  | some decision => return decision
  | none => do
      let verification ← verifyWithLlm codec conceptName similarNodes domainName nodeLabel
      return decideByVerification similarNodes verification

def clamp (low high x : UInt8) : UInt8 := if x < low then low else if high < x then high else x

def determineLevel (suggestedLevel : Option UInt8) : UInt8 := clamp 1 5 (suggestedLevel.getD 3)

/-- `MATCH (a) WHERE elementId(a) = ... MATCH (b) WHERE elementId(b) = ... CREATE (a)-[:TYPE]->(b)`. -/
def connectStatement (type : String) (source target : ElementId) : Statement := fun g =>
  ([], g.createEdge type source target Props.empty)

def runWrite (q : Statement) : Processing Unit := do
  match ← runStatement q with
  | .error e => .fail (.neo4j e)
  | .ok _ => return ()

def createLevelRequirement (levelElementId nodeElementId : ElementId) (relationshipType : String) :
    Processing Unit :=
  runWrite (connectStatement relationshipType levelElementId nodeElementId)

def createGeneralization (sourceElementId targetElementId : ElementId) : Processing Unit :=
  runWrite (connectStatement "GENERALIZES_TO" sourceElementId targetElementId)

/-- `CREATE (n:label { ... }) RETURN elementId(n) as element_id, n.name as name`. -/
def createNodeStatement (label name : String) (props : Props) : Statement := fun g =>
  ([[("element_id", .str g.freshId), ("name", .str name)]], g.createNode [label] props)

/-- What the language model wrote about a node: its name, and its other properties in order. -/
structure GeneratedProperties where
  name : String
  fields : List (String × String)

def KnowledgeProperties.generated (p : KnowledgeProperties) : GeneratedProperties :=
  ⟨p.name, [("description", p.description), ("how_to_learn", p.howToLearn),
    ("remember_level", p.rememberLevel), ("understand_level", p.understandLevel),
    ("apply_level", p.applyLevel), ("analyze_level", p.analyzeLevel),
    ("evaluate_level", p.evaluateLevel), ("create_level", p.createLevel)]⟩

def SkillProperties.generated (p : SkillProperties) : GeneratedProperties :=
  ⟨p.name, [("description", p.description), ("how_to_develop", p.howToDevelop),
    ("novice_level", p.noviceLevel), ("advanced_beginner_level", p.advancedBeginnerLevel),
    ("competent_level", p.competentLevel), ("proficient_level", p.proficientLevel),
    ("expert_level", p.expertLevel)]⟩

def TraitProperties.generated (p : TraitProperties) : GeneratedProperties :=
  ⟨p.name, [("description", p.description), ("measurement_criteria", p.measurementCriteria)]⟩

def MilestoneProperties.generated (p : MilestoneProperties) : GeneratedProperties :=
  ⟨p.name, [("description", p.description), ("how_to_achieve", p.howToAchieve)]⟩

def GeneratedProperties.stored (p : GeneratedProperties) (embedding : Embedding) : Props := fun key =>
  if key = "name" then some (.str p.name)
  else if key = "embedding" then some (.list (embedding.map .float))
  else (p.fields.lookup key).map .str

def createNode (label : String) (props : GeneratedProperties) : Processing CreatedNode := do
  match ← generateEmbedding props.name with
  | .error e => .fail (.embedding e)
  | .ok embedding =>
      match ← execute (createNodeStatement label props.name (props.stored embedding)) with
      | .error e => .fail (.neo4j e)
      | .ok result =>
          match result.next with
          | .error e => .fail (.neo4j e)
          | .ok none => .fail (.neo4j "No result returned")
          | .ok (some row) =>
              return ⟨(row.getString "element_id").getD "", (row.getString "name").getD ""⟩

structure NodeProcessor where
  nodeType : NodeType
  what : String
  parse : String → Except String GeneratedProperties

def knowledgeProcessor (codec : WorkerCodec) : NodeProcessor :=
  ⟨.knowledge, "knowledge properties", fun s => (codec.knowledge s).map (·.generated)⟩

def skillProcessor (codec : WorkerCodec) : NodeProcessor :=
  ⟨.skill, "skill properties", fun s => (codec.skill s).map (·.generated)⟩

def traitProcessor (codec : WorkerCodec) : NodeProcessor :=
  ⟨.trait, "trait properties", fun s => (codec.trait s).map (·.generated)⟩

def milestoneProcessor (codec : WorkerCodec) : NodeProcessor :=
  ⟨.milestone, "milestone properties", fun s => (codec.milestone s).map (·.generated)⟩

namespace NodeProcessor

variable (processor : NodeProcessor) (codec : WorkerCodec) (job : NodeGenerationJob)

def generateProperties : Processing GeneratedProperties :=
  askJson (.properties processor.nodeType job.domainName job.domainDescription job.nodeName)
    processor.parse
    (fun e response =>
      "Failed to parse " ++ processor.what ++ ": " ++ e ++ ". Response: " ++ response)

def generateAndCreate : Processing CreatedNode := do
  let props ← processor.generateProperties job
  createNode processor.nodeType.label props

def linkToLevel (level : UInt8) (elementId : ElementId) : Processing Unit :=
  match job.domainLevels.find? (fun l => l.level = level) with
  | some levelInfo =>
      createLevelRequirement levelInfo.elementId elementId processor.nodeType.levelRelationship
  | none => return ()

def assignToLevel (elementId : ElementId) (wasReused : Bool) : Processing NodeGenerationResult := do
  let level := determineLevel job.suggestedLevel
  processor.linkToLevel job level elementId
  return .success job.jobId elementId wasReused (some level) 0

def searchAndDecide (thresholds : SimilarityThresholds) : Processing ConceptDecision := do
  let similarNodes ← findSimilarByText job.nodeName (some processor.nodeType.label) 3
  decideConceptAction codec job.nodeName similarNodes thresholds job.domainName
    processor.nodeType.label

def executeDecision (generalizes : Bool) (decision : ConceptDecision) : Processing (ElementId × Bool) :=
  match decision with
  | .useExisting elementId _ => return (elementId, true)
  | .createNew => do
      let created ← processor.generateAndCreate job
      return (created.elementId, false)
  | .createAndGeneralize targetId _ => do
      let created ← processor.generateAndCreate job
      if generalizes then createGeneralization created.elementId targetId
      return (created.elementId, false)

def processWithSearch (thresholds : SimilarityThresholds) (generalizes : Bool) :
    Processing NodeGenerationResult := do
  let decision ← processor.searchAndDecide codec job thresholds
  let (elementId, wasReused) ← processor.executeDecision job generalizes decision
  processor.assignToLevel job elementId wasReused

def processNew : Processing NodeGenerationResult := do
  let created ← processor.generateAndCreate job
  processor.assignToLevel job created.elementId false

end NodeProcessor

def processKnowledge (codec : WorkerCodec) (job : NodeGenerationJob) : Processing NodeGenerationResult :=
  (knowledgeProcessor codec).processWithSearch codec job .standard true

def processSkill (codec : WorkerCodec) (job : NodeGenerationJob) : Processing NodeGenerationResult :=
  (skillProcessor codec).processWithSearch codec job .standard true

def processTrait (codec : WorkerCodec) (job : NodeGenerationJob) : Processing NodeGenerationResult :=
  (traitProcessor codec).processWithSearch codec job .traitNode false

def processMilestone (codec : WorkerCodec) (job : NodeGenerationJob) : Processing NodeGenerationResult :=
  (milestoneProcessor codec).processNew job

abbrev Lambda (α : Type) := Service Empty WorkerPrompt String α

structure Config where
  anthropicApiKey : Option String

def processJob (codec : WorkerCodec) (config : Config) (job : NodeGenerationJob) :
    Processing NodeGenerationResult :=
  match config.anthropicApiKey with
  | none =>
      .fail (.configuration "LLM service not configured (missing ANTHROPIC_API_KEY)")
  | some _ =>
      match job.nodeType with
      | .knowledge => processKnowledge codec job
      | .skill => processSkill codec job
      | .trait => processTrait codec job
      | .milestone => processMilestone codec job

/-- The job of a record. An empty or malformed body has none and is skipped. -/
def SqsRecord.job (codec : WorkerCodec) (record : SqsRecord) : Option NodeGenerationJob :=
  record.body.bind (fun body => (codec.job body).toOption)

/-- One round of the loop: only a retryable error goes up, every other is logged. -/
def processRecord (codec : WorkerCodec) (config : Config) (record : SqsRecord) : Lambda Unit :=
  match record.job codec with
  | none => return ()
  | some job => do
      match ← (processJob codec config job).attempt with
      | .ok _ => return ()
      | .error e =>
          if isRetryableError e then .fail ("Retryable error: " ++ e.toString) else return ()

def processRecords (codec : WorkerCodec) (config : Config) : List SqsRecord → Lambda Unit
  | [] => return ()
  | record :: records => do
      processRecord codec config record
      processRecords codec config records

def createGraphConnection : Lambda Unit := do
  match ← connect with
  | .error e => .fail ("Failed to connect to Neo4j: " ++ e)
  | .ok _ => return ()

/-- Handle an SQS event containing node generation jobs. -/
def handleSqsEvent (codec : WorkerCodec) (config : Config) (records : List SqsRecord) :
    Lambda Unit :=
  if records = [] then return ()
  else do
    createGraphConnection
    processRecords codec config records

end AtlasOfUs.Worker
