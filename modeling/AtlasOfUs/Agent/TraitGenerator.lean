import AtlasOfUs.Agent.Generator

namespace AtlasOfUs.Agent

open Library Similarity GraphApi

variable (codec : Codec)

/-- The trait and the milestone generator read and store one text besides the
name and the description. Their slices are not guarded. -/
def traitKeys : List String := ["description", "measurement_criteria"]

def milestoneKeys : List String := ["description", "how_to_achieve"]

def parseTraitProperties (response conceptName : String) : Parsed NodeProperties :=
  parseProperties codec none traitKeys response conceptName

def parseMilestoneProperties (response conceptName : String) : Parsed NodeProperties :=
  parseProperties codec none milestoneKeys response conceptName

namespace TraitGeneratorStep

def pass1Conceptualize (context : AgentContext) : Step (List String) :=
  ask (.traitConcepts context.domainName (context.description.getD "")) (parseConceptList codec)

def pass2SimilaritySearch (concepts : List String) :
    Step (List (String × List SimilarNodeResult)) :=
  batch (fun concept => do return (concept, ← similarTo "Trait" 3 concept)) concepts

def readTraitVerification (parsed : Json) (concept : String) (top : SimilarNodeResult)
    (similarNodes : List SimilarNodeResult) : Parsed VerifiedConcept := do
  let decision ← okOr (strField parsed "decision") "Missing decision field"
  if decision = "use_existing" then
    match (strField parsed "existing_node_name").filter nonNull with
    | some name =>
        let existing := (similarNodes.find? (·.name = name)).getD top
        return .useExisting concept existing.id
    | none => return .useExisting concept top.id
  else return .createNew concept

/-- The caller has found a first similar node; the source indexes it as `similar_nodes[0]`. -/
def parseTraitVerification (response concept : String) (top : SimilarNodeResult)
    (similarNodes : List SimilarNodeResult) : Parsed VerifiedConcept := do
  let parsed ← parseObject codec "No JSON object found" "No closing brace found" none response
  readTraitVerification parsed concept top similarNodes

def verifyMatch (context : AgentContext) (found : String × List SimilarNodeResult) :
    Step VerifiedConcept := do
  let (concept, similarNodes) := found
  send (.similarityCheck .traitGenerator concept similarNodes.length
    (similarNodes.head?.map (·.score)))
  match similarNodes with
  | [] => return .createNew concept
  | top :: _ =>
      if top.score < 65 / 100 then return .createNew concept
      else if top.score ≥ 85 / 100 then return .useExisting concept top.id
      else
        ask (.verifySimilarTrait concept context.domainName similarNodes)
          (fun response => parseTraitVerification codec response concept top similarNodes)

def pass3VerifyMatches (context : AgentContext)
    (similarityResults : List (String × List SimilarNodeResult)) : Step (List VerifiedConcept) :=
  similarityResults.mapM (verifyMatch codec context)

def conceptToGenerate (c : VerifiedConcept) : Option String :=
  match c.action with
  | .useExisting _ => none
  | _ => some c.name

def pass4GenerateProperties (verified : List VerifiedConcept) : Step (List NodeProperties) :=
  batch (fun conceptName => ask (.traitProperties conceptName)
    (fun response => parseTraitProperties codec response conceptName))
    (verified.filterMap conceptToGenerate)

def createConceptNode (acc : List CreatedNode × List NodeProperties) (concept : VerifiedConcept) :
    Step (List CreatedNode × List NodeProperties) :=
  match concept.action with
  | .useExisting elementId => return (acc.1 ++ [.reused concept.name elementId "Trait"], acc.2)
  | .createNew =>
      match acc.2 with
      | [] => .fail "Missing properties"
      | props :: rest => do
          let result ← storeNode codec (props.request "Trait")
          return (acc.1 ++ [.new props.name result.elementId "Trait"], rest)
  | .createAndGeneralize .. => return acc

def pass5CreateNodes (verified : List VerifiedConcept) (properties : List NodeProperties) :
    Step (List CreatedNode) := do
  let (created, _) ← verified.foldlM (createConceptNode codec) ([], properties)
  return created

def announce (context : AgentContext) (node : CreatedNode) : ContextStep AgentContext := do
  send (.nodeCreated .traitGenerator node.name "Trait" node.wasReused)
  return context.addTrait node

def execute (context : AgentContext) : ContextStep AgentContext := do
  send (.stepProgress .traitGenerator "Identifying relevant traits...")
  let concepts ← (pass1Conceptualize codec context).failingIn context
  send (.stepProgress .traitGenerator ("Found " ++ toString concepts.length ++ " trait concepts"))
  let similarityResults ← (pass2SimilaritySearch concepts).failingIn context
  let verified ← (pass3VerifyMatches codec context similarityResults).failingIn context
  let properties ← (pass4GenerateProperties codec verified).failingIn context
  let created ← (pass5CreateNodes codec verified properties).failingIn context
  created.foldlM announce context

theorem readTraitVerification_ne_panicked (parsed : Json) (concept : String)
    (top : SimilarNodeResult) (similar : List SimilarNodeResult) :
    readTraitVerification parsed concept top similar ≠ .panicked := by
  intro h
  simp only [readTraitVerification, Exit.bind_eq_panicked, okOr_ne_panicked, false_or] at h
  obtain ⟨decision, -, h⟩ := h
  split at h
  · split at h <;> cases h
  · cases h

theorem behaved_pass1 (context : AgentContext) :
    Behaved .traitGenerator (pass1Conceptualize codec context) :=
  Behaved.ask fun text => (parseConceptList_panics codec text).trans Iff.rfl

theorem behaved_verifyMatch (context : AgentContext) (found : String × List SimilarNodeResult) :
    Behaved .traitGenerator (verifyMatch codec context found) := by
  refine Behaved.send_bind rfl ?_
  split
  · trivial
  · split
    · trivial
    · split
      · trivial
      · refine Behaved.ask (fun text => ?_)
        rw [parseTraitVerification, Exit.bind_eq_panicked, parseObject_unguarded]
        simp [readTraitVerification_ne_panicked, Prompt.panics]

theorem behaved_createConceptNode (acc : List CreatedNode × List NodeProperties)
    (concept : VerifiedConcept) :
    Behaved .traitGenerator (createConceptNode codec acc concept) := by
  unfold createConceptNode
  split
  · trivial
  · split
    · trivial
    · exact (Behaved.storeNode codec _).bind (fun _ => Contract.done _)
  · trivial

theorem behaved_announce (nodes : List CreatedNode) (context : AgentContext) :
    Behaved .traitGenerator (nodes.foldlM announce context) := by
  refine Contract.foldlM nodes (fun context node _ => ?_) context
  exact Behaved.send_bind rfl (Contract.done _)

theorem behaved (context : AgentContext) : Behaved .traitGenerator (execute codec context) := by
  refine Behaved.send_bind rfl ?_
  refine ((behaved_pass1 codec context).failingIn _).bind fun concepts => ?_
  refine Behaved.send_bind rfl ?_
  refine ((Behaved.batch fun concept =>
    (Behaved.similarTo _ _ concept).bind fun _ => Contract.done _).failingIn _).bind fun results => ?_
  refine ((Contract.mapM results fun found _ =>
    behaved_verifyMatch codec context found).mapErr).bind fun verified => ?_
  refine ((Behaved.batch fun name => Behaved.ask fun text => ?_).failingIn _).bind
    fun properties => ?_
  · rw [parseTraitProperties, parseProperties_panics]
    exact parseObject_unguarded codec _ _ text
  · refine (((Contract.foldlM verified fun acc concept _ =>
      behaved_createConceptNode codec acc concept) _).bind fun _ => Contract.done _).mapErr.bind
      fun created => ?_
    exact behaved_announce created context

end TraitGeneratorStep

namespace MilestoneGeneratorStep

def names (nodes : List CreatedNode) : String := ", ".intercalate (nodes.map (·.name))

def conceptualize (context : AgentContext) : Step (List String) :=
  let contextStr := "Existing components:\n- Knowledge: " ++ names context.domainGraph.knowledge ++
    "\n- Skills: " ++ names context.domainGraph.skills ++
    "\n- Traits: " ++ names context.domainGraph.traits
  ask (.milestoneConcepts context.domainName (context.description.getD "") contextStr)
    (parseConceptList codec)

def generateProperties (context : AgentContext) (concepts : List String) :
    Step (List NodeProperties) :=
  batch (fun concept => ask (.milestoneProperties context.domainName concept none)
    (fun response => parseMilestoneProperties codec response concept)) concepts

def createNodes (properties : List NodeProperties) : Step (List CreatedNode) :=
  properties.mapM (fun props => do
    let result ← storeNode codec (props.request "Milestone")
    return .new props.name result.elementId "Milestone")

def announce (context : AgentContext) (node : CreatedNode) : ContextStep AgentContext := do
  send (.nodeCreated .milestoneGenerator node.name "Milestone" node.wasReused)
  return context.addMilestone node

def execute (context : AgentContext) : ContextStep AgentContext := do
  send (.stepProgress .milestoneGenerator "Identifying milestone achievements...")
  let concepts ← (conceptualize codec context).failingIn context
  send (.stepProgress .milestoneGenerator
    ("Found " ++ toString concepts.length ++ " milestone concepts"))
  let properties ← (generateProperties codec context concepts).failingIn context
  let created ← (createNodes codec properties).failingIn context
  created.foldlM announce context

theorem behaved_conceptualize (context : AgentContext) :
    Behaved .milestoneGenerator (conceptualize codec context) :=
  Behaved.ask fun text => (parseConceptList_panics codec text).trans Iff.rfl

theorem behaved (context : AgentContext) : Behaved .milestoneGenerator (execute codec context) := by
  refine Behaved.send_bind rfl ?_
  refine ((behaved_conceptualize codec context).failingIn _).bind fun concepts => ?_
  refine Behaved.send_bind rfl ?_
  refine ((Behaved.batch fun concept => Behaved.ask fun text => ?_).failingIn _).bind
    fun properties => ?_
  · rw [parseMilestoneProperties, parseProperties_panics]
    exact parseObject_unguarded codec _ _ text
  · refine (Contract.mapM properties fun props _ =>
      (Behaved.storeNode codec _).bind fun _ => Contract.done _).mapErr.bind fun created => ?_
    refine Contract.foldlM created (fun context node _ => ?_) context
    exact Behaved.send_bind rfl (Contract.done _)

end MilestoneGeneratorStep

end AtlasOfUs.Agent
