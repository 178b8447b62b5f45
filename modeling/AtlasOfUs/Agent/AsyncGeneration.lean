import AtlasOfUs.Agent.DomainArchitect
import AtlasOfUs.GraphApi.Handlers
import AtlasOfUs.Library.Calls
import AtlasOfUs.Worker.Processors

namespace AtlasOfUs.Agent

open Library GraphApi

structure GenerateDomainRequest where
  domainName : String
  description : Option String

def GenerateDomainRequest.isValid (request : GenerateDomainRequest) : Bool :=
  1 ≤ request.domainName.length && request.domainName.length ≤ 100 &&
    request.description.all (fun description => description.length ≤ 500)

structure NodeGenerationJob where
  jobId : String
  generationId : String
  sequenceNumber : UInt32
  totalNodes : UInt32
  nodeType : Worker.NodeType
  nodeName : String
  domainName : String
  domainDescription : Option String
  domainElementId : ElementId
  domainLevels : List Worker.DomainLevelInfo
  suggestedLevel : Option UInt8
  deriving DecidableEq

structure ConceptItem where
  name : String
  level : Option UInt8

structure ConceptsResponse where
  knowledge : List ConceptItem
  skills : List ConceptItem
  traits : List ConceptItem
  milestones : List ConceptItem

structure ConceptualizedNode where
  name : String
  suggestedLevel : Option UInt8

structure ConceptualizedDomain where
  knowledge : List ConceptualizedNode
  skills : List ConceptualizedNode
  traits : List ConceptualizedNode
  milestones : List ConceptualizedNode

structure AsyncGenerationResponse where
  generationId : String
  domainElementId : ElementId
  domainName : String
  totalNodes : UInt32
  message : String

/-- The parser that `serde` derives and the texts of the validator's complaints. -/
structure AsyncCodec extends Codec where
  concepts : String → Except String ConceptsResponse
  violations : GenerateDomainRequest → String

inductive AsyncPrompt
  | conceptualize (domainName : String) (description : Option String)

/-- The calls that only this endpoint makes: the clock in nanoseconds, the two
settings and the queue of the workers. -/
inductive AsyncOp
  | now
  | isNodeQueueConfigured
  | createProvider
  | queueNodeGeneration (job : NodeGenerationJob)

def AsyncOp.Reply : AsyncOp → Type
  | .now => Nat
  | .isNodeQueueConfigured => Bool
  | .createProvider => Except String Unit
  | .queueNodeGeneration _ => Except String Unit

def asyncCalls : Signature := ⟨AsyncOp, AsyncOp.Reply⟩

abbrev Async (ε α : Type) := Proc ((services Empty AsyncPrompt).plus asyncCalls) ε α

namespace AsyncGeneration

variable {ε : Type}

def now : Async ε Nat := Proc.perform (I := (services Empty AsyncPrompt).plus asyncCalls) (.inr .now)

def isNodeQueueConfigured : Async ε Bool :=
  Proc.perform (I := (services Empty AsyncPrompt).plus asyncCalls) (.inr .isNodeQueueConfigured)

def createProvider : Async ε (Except String Unit) :=
  Proc.perform (I := (services Empty AsyncPrompt).plus asyncCalls) (.inr .createProvider)

def queueNodeGeneration (job : NodeGenerationJob) : Async ε (Except String Unit) :=
  Proc.perform (I := (services Empty AsyncPrompt).plus asyncCalls) (.inr (.queueNodeGeneration job))

def extractJson (response : String) : String := Worker.extractJson response

def levelTable : List (UInt8 × String × Int) :=
  [(1, "Novice", 100), (2, "Developing", 200), (3, "Competent", 400), (4, "Advanced", 700),
    (5, "Master", 1000)]

def levelRequest (domainName : String) (level : UInt8) (suffix : String) (points : Int) :
    CreateNodeRequest where
  labels := ["Domain_Level"]
  properties := [("name", .str (domainName ++ " " ++ suffix)),
    ("description", .str (suffix ++ " level in " ++ domainName)), ("level", .int level.toNat),
    ("total_points_required", .int points)]

def createLevel (codec : Codec) (domainId : ElementId) (domainName : String)
    (domainLevels : List Worker.DomainLevelInfo) (entry : UInt8 × String × Int) :
    Rest Empty AsyncPrompt (List Worker.DomainLevelInfo) := do
  let (level, suffix, points) := entry
  let created ← GraphApi.createNode codec (levelRequest domainName level suffix points) false
  let _ ← createRelationship ⟨domainId, created.elementId, "HAS_DOMAIN_LEVEL", none⟩
  return domainLevels ++ [⟨level, domainName ++ " " ++ suffix, created.elementId⟩]

def createDomainAndLevels (codec : Codec) (domainName : String) (description : Option String) :
    Rest Empty AsyncPrompt (ElementId × List Worker.DomainLevelInfo) := do
  let domain ← GraphApi.createNode codec
    (DomainArchitectStep.domainRequest domainName (description.getD "")) false
  let domainLevels ← levelTable.foldlM (createLevel codec domain.elementId domainName) []
  return (domain.elementId, domainLevels)

def conceptualized (concepts : ConceptsResponse) : ConceptualizedDomain :=
  let nodes := List.map (fun c : ConceptItem => ConceptualizedNode.mk c.name c.level)
  ⟨nodes concepts.knowledge, nodes concepts.skills, nodes concepts.traits, nodes concepts.milestones⟩

def conceptualizeAllNodes (codec : AsyncCodec) (domainName : String) (description : Option String) :
    Async String ConceptualizedDomain := do
  match ← createProvider with
  | .error e => .fail ("LLM not configured: " ++ e)
  | .ok _ =>
      match ← (generate (.conceptualize domainName description)).extend asyncCalls with
      | .error e => .fail ("LLM generation failed: " ++ e)
      | .ok response =>
          match codec.concepts (extractJson response) with
          | .error e => .fail ("Failed to parse concepts: " ++ e ++ ". Response: " ++ response)
          | .ok concepts => return conceptualized concepts

def queueAvatar (tables : DomainArchitectStep.CharTables) (domainName : String)
    (domainElementId : ElementId) : Service Empty AsyncPrompt ε Unit := do
  if ← isQueueConfigured then
    let job : ImageGenJob := ⟨domainName, domainElementId, DomainArchitectStep.avatarPrompt domainName,
      "domains/" ++ DomainArchitectStep.sanitizeName tables domainName ++ "/avatar.png"⟩
    let _ ← queueImageGeneration job
    return ()
  else return ()

structure Generation where
  generationId : String
  totalNodes : UInt32
  domainName : String
  domainDescription : Option String
  domainElementId : ElementId
  domainLevels : List Worker.DomainLevelInfo

/-- A job that cannot be queued is logged; the sequence goes on. -/
def queueConcept (generation : Generation) (nodeType : Worker.NodeType) (sequence : UInt32)
    (concept : ConceptualizedNode) : Async ε UInt32 := do
  let timestamp ← now
  let _ ← queueNodeGeneration
    { jobId := "job-" ++ toString timestamp ++ "-" ++ toString sequence
      generationId := generation.generationId
      sequenceNumber := sequence
      totalNodes := generation.totalNodes
      nodeType := nodeType
      nodeName := concept.name
      domainName := generation.domainName
      domainDescription := generation.domainDescription
      domainElementId := generation.domainElementId
      domainLevels := generation.domainLevels
      suggestedLevel := concept.suggestedLevel }
  return sequence + 1

def queueConcepts (generation : Generation) (concepts : ConceptualizedDomain) : Async ε UInt32 := do
  let sequence ← concepts.knowledge.foldlM (queueConcept generation .knowledge) 0
  let sequence ← concepts.skills.foldlM (queueConcept generation .skill) sequence
  let sequence ← concepts.traits.foldlM (queueConcept generation .trait) sequence
  concepts.milestones.foldlM (queueConcept generation .milestone) sequence

def ConceptualizedDomain.total (concepts : ConceptualizedDomain) : UInt32 :=
  .ofNat (concepts.knowledge.length + concepts.skills.length + concepts.traits.length +
    concepts.milestones.length)

def failure (status : Nat) (error details : String) : Handlers.ErrorResponse :=
  ⟨status, .object [("error", .str error), ("details", .str details)]⟩

def startGeneration (codec : AsyncCodec) (tables : DomainArchitectStep.CharTables)
    (request : GenerateDomainRequest) : Async Handlers.ErrorResponse AsyncGenerationResponse := do
  let nanos ← now
  let generationId := "gen-" ++ toString nanos ++ "-" ++
    String.ofList (request.domainName.toList.take 10)
  let (domainElementId, domainLevels) ← Proc.mapErr
    (fun e => failure 500 "Failed to create domain" (ServiceError.toString codec.toCodec e))
    ((createDomainAndLevels codec.toCodec request.domainName request.description).extend asyncCalls)
  (queueAvatar tables request.domainName domainElementId).extend asyncCalls
  let concepts ← Proc.mapErr (failure 500 "Failed to conceptualize nodes")
    (conceptualizeAllNodes codec request.domainName request.description)
  let totalNodes := ConceptualizedDomain.total concepts
  let _ ← queueConcepts ⟨generationId, totalNodes, request.domainName, request.description,
    domainElementId, domainLevels⟩ concepts
  return ⟨generationId, domainElementId, request.domainName, totalNodes,
    "Domain created. " ++ toString totalNodes ++ " nodes queued for generation."⟩

/-- Initiates async domain generation: the domain and its levels now, the rest by jobs. -/
def generateDomainAsync (codec : AsyncCodec) (tables : DomainArchitectStep.CharTables)
    (request : GenerateDomainRequest) : Async Handlers.ErrorResponse AsyncGenerationResponse :=
  if !request.isValid then .fail (failure 400 "Validation failed" (codec.violations request))
  else do
    if ← isNodeQueueConfigured then startGeneration codec tables request
    else
      .fail (failure 503 "Domain node queue not configured"
        "DOMAIN_NODE_QUEUE_URL environment variable not set")

section Calls

variable {allowed : (services Empty AsyncPrompt).Op → Prop}

theorem calls_queueConcepts (generation : Generation) (concepts : ConceptualizedDomain) :
    Calls (I := (services Empty AsyncPrompt).plus asyncCalls) (Sum.elim allowed fun _ => True)
      (queueConcepts generation concepts : Async ε UInt32) := by
  have hqueue : ∀ (nodeType : Worker.NodeType) (nodes : List ConceptualizedNode) (sequence : UInt32),
      Calls (I := (services Empty AsyncPrompt).plus asyncCalls) (Sum.elim allowed fun _ => True)
        (nodes.foldlM (queueConcept generation nodeType) sequence : Async ε UInt32) := by
    intro nodeType nodes sequence
    refine Calls.foldlM nodes (fun sequence concept _ => ?_) sequence
    exact (Calls.perform trivial).bind fun _ => (Calls.perform trivial).bind fun _ => trivial
  exact (hqueue _ _ _).bind fun _ => (hqueue _ _ _).bind fun _ => (hqueue _ _ _).bind fun _ =>
    hqueue _ _ _

theorem calls_conceptualizeAllNodes (codec : AsyncCodec)
    (h : ∀ prompt, allowed (.generate prompt)) (domainName : String) (description : Option String) :
    Calls (I := (services Empty AsyncPrompt).plus asyncCalls) (Sum.elim allowed fun _ => True)
      (conceptualizeAllNodes codec domainName description) := by
  refine (Calls.perform trivial).bind fun provider => ?_
  cases provider with
  | error e => trivial
  | ok _ =>
      refine Calls.bind (Calls.extend (Calls.perform (h _))) fun reply => ?_
      cases reply with
      | error e => trivial
      | ok response => cases h : codec.concepts (extractJson response) <;> simp [h, Calls]

end Calls

end AsyncGeneration

/-- How the calls of the endpoint are answered, in any pattern. -/
structure AsyncEnv where
  now : Nat → Nat
  nodeQueueConfigured : Bool
  provider : Nat → Except String Unit
  nodeQueue : Nat → Except String Unit

def AsyncEnv.handler (env : AsyncEnv) : Handler asyncCalls Nat
  | .now, clock => (env.now clock, clock + 1)
  | .isNodeQueueConfigured, clock => (env.nodeQueueConfigured, clock + 1)
  | .createProvider, clock => (env.provider clock, clock + 1)
  | .queueNodeGeneration _, clock => (env.nodeQueue clock, clock + 1)

def execAsync {ε α : Type} (env : Env) (async : AsyncEnv) (p : Async ε α) (g : Graph) :
    Execution ((services Empty AsyncPrompt).plus asyncCalls) ε α (World × Nat) :=
  p.run (env.handler.plus async.handler) (World.start g, 0)

end AtlasOfUs.Agent
