import AtlasOfUs.Agent.Step

namespace AtlasOfUs.Agent

open Library Similarity GraphApi

structure NodeProperties where
  name : String
  fields : List (String × String)
  deriving DecidableEq

def readProperties (keys : List String) (parsed : Json) (conceptName : String) : NodeProperties where
  name := (strField parsed "name").getD conceptName
  fields := keys.map (fun key => (key, (strField parsed key).getD ""))

def NodeProperties.request (props : NodeProperties) (label : String) : CreateNodeRequest where
  labels := [label]
  properties := ("name", .str props.name) :: props.fields.map (fun f => (f.1, .str f.2))

def parseProperties (codec : Codec) (guard : Option String) (keys : List String)
    (response conceptName : String) : Parsed NodeProperties := do
  let parsed ← parseObject codec "No JSON object found" "No closing brace found" guard response
  return readProperties keys parsed conceptName

/-- What the knowledge and the skill generator do not share. -/
structure GeneratorKind where
  agent : AgentType
  label : String
  word : String
  keys : List String
  guard : Option String
  missingProperties : String
  reportsDecisions : Bool
  conceptsPrompt : AgentContext → Prompt
  verifyPrompt : String → String → List SimilarNodeResult → Prompt
  propertiesPrompt : String → String → Option String → Prompt
  genericPrompt : String → Prompt
  addNode : AgentContext → CreatedNode → AgentContext

namespace GeneratorKind

variable (kind : GeneratorKind) (codec : Codec)

def progress (message : String) : ContextStep Unit := send (.stepProgress kind.agent message)

def parseKindProperties (response conceptName : String) : Parsed NodeProperties :=
  parseProperties codec kind.guard kind.keys response conceptName

def pass1Conceptualize (context : AgentContext) : Step (List String) :=
  ask (kind.conceptsPrompt context) (parseConceptList codec)

def pass2SimilaritySearch (concepts : List String) :
    Step (List (String × List SimilarNodeResult)) :=
  batch (fun concept => do return (concept, ← similarTo kind.label 3 concept)) concepts

/-- The target of a generalization: among the nodes just found, else by a search
of its own, else still to be created. -/
def resolveTarget (concept targetName : String) (similarNodes : List SimilarNodeResult) :
    Step VerifiedConcept :=
  match similarNodes.find? (·.name = targetName) with
  | some node => return .createAndGeneralize concept node.id targetName false
  | none => do
      let searchResults ← similarTo kind.label 1 targetName
      match searchResults.head?.filter (fun n => 95 / 100 ≤ n.score || n.name = targetName) with
      | some found => return .createAndGeneralize concept found.id targetName false
      | none => return .createAndGeneralize concept "" targetName true

def decisionText : ConceptAction → String × Option String
  | .createNew => ("create_new", none)
  | .useExisting _ => ("use_existing", none)
  | .createAndGeneralize _ name needsCreation =>
      ("create_and_generalize", some (name ++ if needsCreation then " (new)" else ""))

def report (concept : String) (decision : VerifiedConcept) : Step Unit :=
  if kind.reportsDecisions then
    send (.verificationResult kind.agent concept (decisionText decision.action).1
      (decisionText decision.action).2)
  else return ()

def resolveDecision (concept : String) (similarNodes : List SimilarNodeResult)
    (verdict : VerifiedConcept) : Step VerifiedConcept :=
  match verdict.action with
  | .createAndGeneralize _ targetName _ => kind.resolveTarget concept targetName similarNodes
  | _ => return verdict

def verifyMatch (context : AgentContext) (match_ : String × List SimilarNodeResult) :
    Step VerifiedConcept := do
  let (concept, similarNodes) := match_
  send (.similarityCheck kind.agent concept similarNodes.length (similarNodes.head?.map (·.score)))
  match determineActionByScore concept similarNodes with
  | some decision => do
      kind.report concept decision
      return decision
  | none => do
      let verdict ← ask (kind.verifyPrompt concept context.domainName similarNodes)
        (fun response => parseVerificationResponse codec response concept)
      let decision ← kind.resolveDecision concept similarNodes verdict
      kind.report concept decision
      return decision

def pass3VerifyMatches (context : AgentContext)
    (similarityResults : List (String × List SimilarNodeResult)) : Step (List VerifiedConcept) :=
  similarityResults.mapM (kind.verifyMatch codec context)

def missingTarget (c : VerifiedConcept) : Option String :=
  match c.action with
  | .createAndGeneralize _ name true => some name
  | _ => none

def targetsToCreate (verified : List VerifiedConcept) : List (Nat × String) :=
  verified.zipIdx.filterMap (fun c => (missingTarget c.1).map (fun name => (c.2, name)))

def setAction (verified : List VerifiedConcept) (idx : Nat) (action : ConceptAction) :
    List VerifiedConcept :=
  verified.modify idx (fun c => { c with action := action })

def createTarget (acc : List VerifiedConcept × List CreatedNode)
    (target : Nat × String × NodeProperties) : Step (List VerifiedConcept × List CreatedNode) := do
  let (idx, targetName, props) := target
  let result ← storeNode codec (props.request kind.label)
  return (setAction acc.1 idx (.createAndGeneralize result.elementId targetName false),
    acc.2 ++ [.new targetName result.elementId kind.label])

def pass4CreateMissingTargets (verified : List VerifiedConcept) :
    Step (List VerifiedConcept × List CreatedNode) := do
  let properties ← batch (fun target : Nat × String => do
    let props ← ask (kind.genericPrompt target.2)
      (fun response => kind.parseKindProperties codec response target.2)
    return (target.1, target.2, props)) (targetsToCreate verified)
  properties.foldlM (kind.createTarget codec) (verified, [])

def conceptToGenerate (c : VerifiedConcept) : Option (String × Option String) :=
  match c.action with
  | .useExisting _ => none
  | .createNew => some (c.name, none)
  | .createAndGeneralize _ name _ => some (c.name, some name)

def pass5GenerateProperties (context : AgentContext) (verified : List VerifiedConcept) :
    Step (List NodeProperties) :=
  batch (fun concept : String × Option String =>
    ask (kind.propertiesPrompt context.domainName concept.1 concept.2)
      (fun response => kind.parseKindProperties codec response concept.1))
    (verified.filterMap conceptToGenerate)

def createConceptNode (acc : List CreatedNode × List NodeProperties) (concept : VerifiedConcept) :
    Step (List CreatedNode × List NodeProperties) :=
  match concept.action with
  | .useExisting elementId =>
      return (acc.1 ++ [.reused concept.name elementId kind.label], acc.2)
  | _ =>
      match acc.2 with
      | [] => .fail kind.missingProperties
      | props :: rest => do
          let result ← storeNode codec (props.request kind.label)
          return (acc.1 ++ [.new props.name result.elementId kind.label], rest)

def pass6CreateNodes (verified : List VerifiedConcept) (properties : List NodeProperties) :
    Step (List CreatedNode) := do
  let (created, _) ← verified.foldlM (kind.createConceptNode codec) ([], properties)
  return created

def linkGeneralization (created : List CreatedNode) (context : AgentContext)
    (concept : VerifiedConcept) : ContextStep AgentContext :=
  match concept.action with
  | .createAndGeneralize generalizesToId generalizesToName _ =>
      match created.find? (·.name = concept.name) with
      | none => .fail ("Node not found: " ++ concept.name, context)
      | some source => do
          let request : CreateRelationshipRequest :=
            ⟨source.elementId, generalizesToId, "GENERALIZES_TO", none⟩
          let link : GeneralizationLink :=
            ⟨source.elementId, source.name, generalizesToId, generalizesToName, kind.label⟩
          match ← (createRelationship request).attempt with
          | .ok _ => return context.addGeneralization link
          | .error _ => return context
  | _ => return context

def pass7CreateGeneralizationRelationships (verified : List VerifiedConcept)
    (created : List CreatedNode) (context : AgentContext) : ContextStep AgentContext :=
  verified.foldlM (kind.linkGeneralization created) context

def announce (context : AgentContext) (node : CreatedNode) : ContextStep AgentContext := do
  send (.nodeCreated kind.agent node.name kind.label node.wasReused)
  return kind.addNode context node

def createTargets (context : AgentContext) (verified : List VerifiedConcept) :
    ContextStep (AgentContext × List VerifiedConcept) := do
  let missing := (targetsToCreate verified).length
  if missing > 0 then do
    kind.progress ("Creating " ++ toString missing ++ " missing generalization targets...")
    let (verified, createdTargets) ←
      (kind.pass4CreateMissingTargets codec verified).failingIn context
    return (← createdTargets.foldlM kind.announce context, verified)
  else return (context, verified)

def execute (context : AgentContext) : ContextStep AgentContext := do
  kind.progress ("Identifying " ++ kind.word ++ " concepts...")
  let concepts ← (kind.pass1Conceptualize codec context).failingIn context
  kind.progress ("Found " ++ toString concepts.length ++ " " ++ kind.word ++ " concepts")
  kind.progress "Searching for similar existing nodes..."
  let similarityResults ← (kind.pass2SimilaritySearch concepts).failingIn context
  kind.progress "Verifying node matches..."
  let verified ← (kind.pass3VerifyMatches codec context similarityResults).failingIn context
  let (context, verified) ← kind.createTargets codec context verified
  kind.progress ("Generating " ++ kind.word ++ " properties...")
  let properties ← (kind.pass5GenerateProperties codec context verified).failingIn context
  kind.progress "Creating nodes in database..."
  let created ← (kind.pass6CreateNodes codec verified properties).failingIn context
  let context ← kind.pass7CreateGeneralizationRelationships verified created context
  created.foldlM kind.announce context

end GeneratorKind

def knowledgeKind : GeneratorKind where
  agent := .knowledgeGenerator
  label := "Knowledge"
  word := "knowledge"
  keys := ["description", "how_to_learn", "remember_level", "understand_level", "apply_level",
    "analyze_level", "evaluate_level", "create_level"]
  guard := some "Invalid JSON structure"
  missingProperties := "Missing properties for concept"
  reportsDecisions := true
  conceptsPrompt := fun context =>
    .knowledgeConcepts context.domainName (context.description.getD "")
  verifyPrompt := .verifySimilarKnowledge
  propertiesPrompt := .knowledgeProperties
  genericPrompt := .genericKnowledgeProperties
  addNode := AgentContext.addKnowledge

def skillKind : GeneratorKind where
  agent := .skillGenerator
  label := "Skill"
  word := "skill"
  keys := ["description", "how_to_develop", "novice_level", "advanced_beginner_level",
    "competent_level", "proficient_level", "expert_level"]
  guard := none
  missingProperties := "Missing properties"
  reportsDecisions := false
  conceptsPrompt := fun context =>
    .skillConcepts context.domainName (context.description.getD "")
      (context.domainGraph.knowledge.map (·.name))
  verifyPrompt := .verifySimilarSkill
  propertiesPrompt := .skillProperties
  genericPrompt := .genericSkillProperties
  addNode := AgentContext.addSkill

def KnowledgeGeneratorStep.execute (codec : Codec) : AgentContext → ContextStep AgentContext :=
  knowledgeKind.execute codec

def SkillGeneratorStep.execute (codec : Codec) : AgentContext → ContextStep AgentContext :=
  skillKind.execute codec

theorem parseProperties_panics (codec : Codec) (guard : Option String) (keys : List String)
    (response name : String) :
    parseProperties codec guard keys response name = .panicked ↔
      parseObject codec "No JSON object found" "No closing brace found" guard response =
        .panicked := by
  simp [parseProperties, Exit.bind_eq_panicked]

structure GeneratorKind.Matched (kind : GeneratorKind) : Prop where
  concepts : ∀ context text, (kind.conceptsPrompt context).panics text = previewCuts text
  verify : ∀ concept domain similar text,
    (kind.verifyPrompt concept domain similar).panics text = false
  properties : ∀ codec domain concept target text name,
    kind.parseKindProperties codec text name = .panicked ↔
      (kind.propertiesPrompt domain concept target).panics text = true
  generic : ∀ codec concept text name,
    kind.parseKindProperties codec text name = .panicked ↔
      (kind.genericPrompt concept).panics text = true

theorem knowledgeKind_matched : knowledgeKind.Matched where
  concepts := fun _ _ => rfl
  verify := fun _ _ _ _ => rfl
  properties := fun codec _ _ _ text name => by
    rw [GeneratorKind.parseKindProperties, parseProperties_panics]
    exact iff_of_false (parseObject_guarded codec _ _ _ text) Bool.false_ne_true
  generic := fun codec _ text name => by
    rw [GeneratorKind.parseKindProperties, parseProperties_panics]
    exact iff_of_false (parseObject_guarded codec _ _ _ text) Bool.false_ne_true

theorem skillKind_matched : skillKind.Matched where
  concepts := fun _ _ => rfl
  verify := fun _ _ _ _ => rfl
  properties := fun codec _ _ _ text name => by
    rw [GeneratorKind.parseKindProperties, parseProperties_panics]
    exact parseObject_unguarded codec _ _ text
  generic := fun codec _ text name => by
    rw [GeneratorKind.parseKindProperties, parseProperties_panics]
    exact parseObject_unguarded codec _ _ text

namespace GeneratorKind

variable {kind : GeneratorKind} (hk : kind.Matched) (codec : Codec)

theorem behaved_progress (message : String) : Behaved kind.agent (kind.progress message) :=
  Behaved.send rfl

include hk in
theorem behaved_pass1 (context : AgentContext) :
    Behaved kind.agent (kind.pass1Conceptualize codec context) :=
  Behaved.ask (fun text => by rw [parseConceptList_panics, hk.concepts])

theorem behaved_pass2 (concepts : List String) :
    Behaved kind.agent (kind.pass2SimilaritySearch concepts) :=
  Behaved.batch (fun concept => (Behaved.similarTo _ _ concept).bind (fun _ => trivial))

theorem behaved_resolveDecision (concept : String) (similar : List SimilarNodeResult)
    (verdict : VerifiedConcept) : Behaved kind.agent (kind.resolveDecision concept similar verdict) := by
  unfold resolveDecision
  split
  · unfold resolveTarget
    split
    · trivial
    · refine (Behaved.similarTo _ _ _).bind (fun results => ?_)
      split <;> trivial
  · trivial

theorem behaved_report (concept : String) (decision : VerifiedConcept) :
    Behaved kind.agent (kind.report concept decision) := by
  unfold report
  split
  · exact Behaved.send rfl
  · trivial

include hk in
theorem behaved_pass3 (context : AgentContext)
    (results : List (String × List SimilarNodeResult)) :
    Behaved kind.agent (kind.pass3VerifyMatches codec context results) := by
  refine Contract.mapM results (fun found _ => ?_)
  refine Behaved.send_bind rfl ?_
  split
  · exact (behaved_report _ _).bind (fun _ => trivial)
  · refine (Behaved.ask (fun text => ?_)).bind (fun verdict =>
      (behaved_resolveDecision _ _ _).bind (fun _ => (behaved_report _ _).bind (fun _ => trivial)))
    rw [hk.verify, parseVerificationResponse, Exit.bind_eq_panicked]
    simp [parseObject_guarded, readVerification_ne_panicked]

include hk in
theorem behaved_pass4 (verified : List VerifiedConcept) :
    Behaved kind.agent (kind.pass4CreateMissingTargets codec verified) :=
  (Behaved.batch (fun target =>
    (Behaved.ask (fun text => hk.generic codec target.2 text target.2)).bind
      (fun _ => Contract.done _))).bind
    (fun properties => Contract.foldlM properties
      (fun _ _ _ => (Behaved.storeNode codec _).bind (fun _ => Contract.done _)) _)

include hk in
theorem behaved_pass5 (context : AgentContext) (verified : List VerifiedConcept) :
    Behaved kind.agent (kind.pass5GenerateProperties codec context verified) :=
  Behaved.batch (fun concept => Behaved.ask
    (fun text => hk.properties codec context.domainName concept.1 concept.2 text concept.1))

theorem behaved_pass6 (verified : List VerifiedConcept) (properties : List NodeProperties) :
    Behaved kind.agent (kind.pass6CreateNodes codec verified properties) := by
  refine (Contract.foldlM verified (fun acc concept _ => ?_) _).bind (fun _ => trivial)
  unfold createConceptNode
  split
  · trivial
  · split
    · trivial
    · exact (Behaved.storeNode codec _).bind (fun _ => trivial)

theorem behaved_pass7 (verified : List VerifiedConcept) (created : List CreatedNode)
    (context : AgentContext) :
    Behaved kind.agent (kind.pass7CreateGeneralizationRelationships verified created context) := by
  refine Contract.foldlM verified (fun context concept _ => ?_) context
  unfold linkGeneralization
  split
  · split
    · trivial
    · refine (Behaved.createRelationship _).attempt.bind (fun result => ?_)
      cases result <;> trivial
  · trivial

theorem behaved_announce (nodes : List CreatedNode) (context : AgentContext) :
    Behaved kind.agent (nodes.foldlM kind.announce context) := by
  refine Contract.foldlM nodes (fun context node _ => ?_) context
  exact Behaved.send_bind rfl (Contract.done _)

include hk in
theorem behaved_createTargets (context : AgentContext) (verified : List VerifiedConcept) :
    Behaved kind.agent (kind.createTargets codec context verified) := by
  unfold createTargets
  simp only
  split
  · exact (behaved_progress _).bind (fun _ => ((behaved_pass4 hk codec _).failingIn _).bind
      (fun _ => (behaved_announce _ _).bind (fun _ => trivial)))
  · trivial

include hk in
theorem behaved_execute (context : AgentContext) : Behaved kind.agent (kind.execute codec context) :=
  (behaved_progress _).bind fun _ =>
  ((behaved_pass1 hk codec context).failingIn _).bind fun concepts =>
  (behaved_progress _).bind fun _ =>
  (behaved_progress _).bind fun _ =>
  ((behaved_pass2 concepts).failingIn _).bind fun results =>
  (behaved_progress _).bind fun _ =>
  ((behaved_pass3 hk codec context results).failingIn _).bind fun verified =>
  (behaved_createTargets hk codec context verified).bind fun targets =>
  (behaved_progress _).bind fun _ =>
  ((behaved_pass5 hk codec targets.1 targets.2).failingIn _).bind fun properties =>
  (behaved_progress _).bind fun _ =>
  ((behaved_pass6 codec targets.2 properties).failingIn _).bind fun created =>
  (behaved_pass7 targets.2 created targets.1).bind fun context =>
  behaved_announce created context

end GeneratorKind

theorem KnowledgeGeneratorStep.behaved (codec : Codec) (context : AgentContext) :
    Behaved .knowledgeGenerator (KnowledgeGeneratorStep.execute codec context) :=
  GeneratorKind.behaved_execute knowledgeKind_matched codec context

theorem SkillGeneratorStep.behaved (codec : Codec) (context : AgentContext) :
    Behaved .skillGenerator (SkillGeneratorStep.execute codec context) :=
  GeneratorKind.behaved_execute skillKind_matched codec context

end AtlasOfUs.Agent
