import AtlasOfUs.Agent.ReuseDecisions
import AtlasOfUs.Agent.TraitGenerator
import AtlasOfUs.Worker.Decisions

namespace AtlasOfUs

open Library Similarity

/-- What an engine chooses for a concept, with the existing node that it chooses. -/
inductive Choice
  | reuse (elementId : ElementId)
  | create
  | createAndGeneralize (targetId : Option ElementId)
  deriving DecidableEq

def Agent.ConceptAction.choice : Agent.ConceptAction → Choice
  | .useExisting elementId => .reuse elementId
  | .createNew => .create
  | .createAndGeneralize targetId _ needsCreation =>
      .createAndGeneralize (if needsCreation then none else some targetId)

def Worker.ConceptDecision.choice (generalizes : Bool) : Worker.ConceptDecision → Choice
  | .useExisting elementId _ => .reuse elementId
  | .createNew => .create
  | .createAndGeneralize targetId _ =>
      if generalizes then .createAndGeneralize (some targetId) else .create

theorem Worker.NodeProcessor.executeDecision_trait (processor : Worker.NodeProcessor)
    (job : Worker.NodeGenerationJob) (targetId : ElementId) (targetName : String) :
    processor.executeDecision job false (.createAndGeneralize targetId targetName) =
      processor.executeDecision job false .createNew := rfl

section Replies

/-- The members of an object as they are written, of which the last of a name counts. -/
abbrev Members := List (String × Json)

namespace Members

variable (members : Members)

def last (key : String) : Option Json := List.lookup key members.reverse

def text (key : String) : Option String := (members.last key).bind Json.asStr

/-- The name that a member gives; an empty text and the text "null" give none. -/
def named (key : String) : Option String := (members.text key).filter Agent.nonNull

def isOptional (key : String) : Bool :=
  match members.last key with
  | none | some .null | some (.str _) => true
  | _ => false

/-- The members that the worker's response has, each at most once, and the optional ones are
strings. -/
def Decodes : Prop :=
  ((members.map Prod.fst).filter (fun key =>
      key ∈ ["decision", "existing_node_name", "suggested_target", "reason"])).Nodup ∧
    ∀ key ∈ ["existing_node_name", "suggested_target", "reason"], members.isOptional key = true

instance : Decidable members.Decodes := inferInstanceAs (Decidable (_ ∧ _))

def verification : Option Worker.VerificationResponse :=
  if members.Decodes then
    (members.text "decision").map fun decision =>
      ⟨decision, members.text "existing_node_name", members.text "suggested_target"⟩
  else none

end Members

/-- The reply is an object and nothing else but white space around it, and the parsers make of it
what `serde_json` does: a map for the one service, the response's fields for the other. -/
structure BareObject (codec : Codec) (workerCodec : Worker.WorkerCodec) (reply : String)
    (members : Members) : Prop where
  braces : ∃ middle, (Text.trim reply).toList = '{' :: (middle ++ ['}'])
  value : ∃ j, codec.value (Text.trim reply) = .ok j ∧ ∀ key, j.get key = members.last key
  verification : (workerCodec.verification (Text.trim reply)).toOption = members.verification

/-- The decision is one of the three, and a node that is named is one of the similar ones. -/
structure ValidReply (similarNodes : List SimilarNodeResult) (members : Members) : Prop where
  decision : members.text "decision" = some "use_existing" ∨
    members.text "decision" = some "create_new" ∨
    members.text "decision" = some "create_and_generalize"
  named : ∀ key ∈ ["existing_node_name", "suggested_target"], ∀ name,
    members.named key = some name → name ∈ similarNodes.map (·.name)

variable {codec : Codec} {workerCodec : Worker.WorkerCodec} {reply : String} {members : Members}

theorem Text.find_head {s : String} {c : Char} {rest : List Char} (h : s.toList = c :: rest) :
    Text.find s c = some 0 := by
  rw [Text.find, h, List.findIdx?_cons, beq_self_eq_true]
  rfl

theorem Text.rfind_last {s : String} {c : Char} {front : List Char} (h : s.toList = front ++ [c]) :
    Text.rfind s c = some (s.length - 1) := by
  rw [Text.rfind, h, List.reverse_append, List.reverse_singleton, List.singleton_append,
    List.findIdx?_cons, beq_self_eq_true]
  rfl

theorem BareObject.parseObject (h : BareObject codec workerCodec reply members)
    (noObject noClosing : String) (guard : Option String) : ∃ j,
      Agent.parseObject codec noObject noClosing guard reply = .ok j ∧
        ∀ key, j.get key = members.last key := by
  obtain ⟨middle, hbraces⟩ := h.braces
  obtain ⟨j, hj, hget⟩ := h.value
  have hlength : (Text.trim reply).length = middle.length + 2 := by
    rw [← String.length_toList, hbraces]
    simp
  have hfirst : Text.find (Text.trim reply) '{' = some 0 := Text.find_head hbraces
  have hlast : Text.rfind (Text.trim reply) '}' = some (middle.length + 1) := by
    have hend : (Text.trim reply).toList = '{' :: middle ++ ['}'] := hbraces.trans List.cons_append.symm
    rw [Text.rfind_last hend, hlength]
    rfl
  have hslice : (Text.sliceInclusive (Text.trim reply) 0 (middle.length + 1) : Agent.Parsed String) =
      .ok (Text.trim reply) := by
    rw [Text.sliceInclusive_of_le _ (Nat.zero_le _), List.drop_zero, hbraces, List.take_of_length_le,
      ← hbraces, String.ofList_toList]
    simp
  have hrange : Agent.checkRange guard 0 (middle.length + 1) = .ok () := by
    cases guard <;> rfl
  refine ⟨j, ?_, hget⟩
  simp only [Agent.parseObject, hfirst, hlast, Agent.okOr, Exit.ok_bind, hrange, hslice,
    Agent.mapParsed, hj]

theorem BareObject.extractJson (h : BareObject codec workerCodec reply members) :
    Worker.extractJson reply = Text.trim reply := by
  obtain ⟨middle, hbraces⟩ := h.braces
  have hfence : (Text.trim reply).startsWith "```" = false := by
    rw [Bool.eq_false_iff, Ne, String.startsWith_string_iff, hbraces]
    intro hprefix
    obtain ⟨rest, hrest⟩ := hprefix
    revert hrest
    simp
  have hjson : (Text.trim reply).startsWith "```json" = false := by
    rw [Bool.eq_false_iff, Ne, String.startsWith_string_iff, hbraces]
    intro hprefix
    obtain ⟨rest, hrest⟩ := hprefix
    revert hrest
    simp
  simp only [Worker.extractJson, hfence, hjson, Bool.false_eq_true, if_false]

theorem strField_eq {j : Json} (h : ∀ key, j.get key = members.last key) (key : String) :
    Agent.strField j key = members.text key := by
  rw [Agent.strField, h]
  rfl

end Replies

section Engines

def nodeNamed (similarNodes : List SimilarNodeResult) (name : String) : Option ElementId :=
  (similarNodes.find? (fun n => n.name = name)).map (·.id)

def Members.agentTarget (members : Members) : Option String :=
  members.named "suggested_target" <|> members.named "existing_node_name"

def Members.workerTarget (members : Members) : Option String :=
  (members.text "existing_node_name").or (members.text "suggested_target")

variable (codec : Codec) (workerCodec : Worker.WorkerCodec)

/-- What the agent that generates knowledge or skills chooses for a concept in pass 3. -/
def agentChoice (kind : Agent.GeneratorKind) (context : Agent.AgentContext) (env : Env) (w : World)
    (concept : String) (similarNodes : List SimilarNodeResult) : Option Choice :=
  (env.exec (kind.verifyMatch codec context (concept, similarNodes)) w).exit.toOption.map
    (fun decision => decision.action.choice)

def traitAgentChoice (context : Agent.AgentContext) (env : Env) (w : World) (concept : String)
    (similarNodes : List SimilarNodeResult) : Option Choice :=
  (env.exec (Agent.TraitGeneratorStep.verifyMatch codec context (concept, similarNodes))
    w).exit.toOption.map (fun decision => decision.action.choice)

def workerChoice (thresholds : Worker.SimilarityThresholds) (generalizes : Bool)
    (domainName nodeLabel : String) (env : Env) (w : World) (concept : String)
    (similarNodes : List SimilarNodeResult) : Option Choice :=
  (env.exec (Worker.decideConceptAction workerCodec concept similarNodes thresholds domainName
    nodeLabel) w).exit.toOption.map (·.choice generalizes)

theorem exec_generate {Event Prompt ε : Type} (env : Env) (prompt : Prompt) (w : World) :
    env.exec (generate prompt : Service Event Prompt ε _) w =
      ⟨.ok (env.llm w.clock), w.tick, [⟨.generate prompt, env.llm w.clock⟩]⟩ := rfl

section Worker

variable {workerCodec} {codec} {thresholds : Worker.SimilarityThresholds} {generalizes : Bool}
  {domainName nodeLabel concept reply : String} {env : Env} {w : World}
  {similarNodes : List SimilarNodeResult} {members : Members}

theorem workerChoice_of_score {decision : Worker.ConceptDecision}
    (h : Worker.decideByScore similarNodes thresholds = some decision) :
    workerChoice workerCodec thresholds generalizes domainName nodeLabel env w concept similarNodes =
      some (decision.choice generalizes) := by
  rw [workerChoice, Worker.decideConceptAction, h]
  rfl

theorem workerChoice_of_reply (h : Worker.decideByScore similarNodes thresholds = none)
    (hreply : env.llm w.clock = .ok reply) (hobject : BareObject codec workerCodec reply members) :
    workerChoice workerCodec thresholds generalizes domainName nodeLabel env w concept similarNodes =
      members.verification.map fun verification =>
        (Worker.decideByVerification similarNodes verification).choice generalizes := by
  have hread : (env.exec (Worker.verifyWithLlm workerCodec concept similarNodes domainName nodeLabel)
      w).exit.toOption = members.verification := by
    rw [Worker.verifyWithLlm, Worker.askJson, exec_bind, ← hobject.verification]
    rw [exec_generate, Execution.andThen_ok, hreply]
    simp only [hobject.extractJson]
    cases workerCodec.verification (Text.trim reply) with
    | ok verification => rfl
    | error e => rfl
  rw [workerChoice, Worker.decideConceptAction, h, ← hread, exec_bind, Execution.toOption_andThen]
  cases (env.exec (Worker.verifyWithLlm workerCodec concept similarNodes domainName nodeLabel)
    w).exit.toOption <;> rfl

end Worker

section Verdicts

variable {similarNodes : List SimilarNodeResult} {members : Members} {top : SimilarNodeResult}

theorem verification_of_decision {decision : String} (h : members.text "decision" = some decision) :
    members.verification = if members.Decodes then
      some ⟨decision, members.text "existing_node_name", members.text "suggested_target"⟩ else none := by
  rw [Members.verification, h]
  rfl

theorem text_of_named {key name : String} (h : members.named key = some name) :
    members.text key = some name :=
  (Option.filter_eq_some_iff.1 h).1

theorem nodeNamed_isSome {name : String} (h : name ∈ similarNodes.map (·.name)) :
    ∃ node, similarNodes.find? (·.name = name) = some node ∧
      nodeNamed similarNodes name = some node.id := by
  obtain ⟨n, hn, hname⟩ := List.mem_map.1 h
  obtain ⟨node, hnode⟩ : ∃ node, similarNodes.find? (·.name = name) = some node :=
    Option.isSome_iff_exists.1 (List.find?_isSome.2 ⟨n, hn, decide_eq_true hname⟩)
  exact ⟨node, hnode, by rw [nodeNamed, hnode, Option.map_some]⟩

/-- The worker uses the node that is named, or the best one if there is none of the name. -/
theorem choice_useExisting (generalizes : Bool) (existing suggested : Option String)
    (htop : similarNodes.head? = some top) :
    (Worker.decideByVerification similarNodes ⟨"use_existing", existing, suggested⟩).choice generalizes =
      .reuse ((existing.bind (nodeNamed similarNodes)).getD top.id) := by
  have hfind : similarNodes.find? (fun n => decide (some n.name = existing)) =
      existing.bind fun name => similarNodes.find? (fun n => n.name = name) := by
    cases existing with
    | none => simp
    | some name => simp
  simp only [Worker.decideByVerification, if_true, hfind, htop]
  cases existing with
  | none => rfl
  | some name =>
      simp only [Option.bind_some, nodeNamed]
      cases similarNodes.find? (fun n => decide (n.name = name)) <;> rfl

/-- The worker generalizes to the target only if it is one of the similar nodes. -/
theorem decide_generalize (existing suggested : Option String) :
    Worker.decideByVerification similarNodes ⟨"create_and_generalize", existing, suggested⟩ =
      match (existing.or suggested).bind fun name => similarNodes.find? (fun n => n.name = name) with
      | some target => .createAndGeneralize target.id target.name
      | none => .createNew := by
  have hne : ¬ "create_and_generalize" = "use_existing" := by decide
  rw [Worker.decideByVerification, if_neg hne, if_pos rfl]
  cases existing.or suggested with
  | none => rfl
  | some name => cases similarNodes.find? (fun n => decide (n.name = name)) <;> rfl

theorem choice_generalize (existing suggested : Option String) :
    (Worker.decideByVerification similarNodes
        ⟨"create_and_generalize", existing, suggested⟩).choice true =
      match (existing.or suggested).bind (nodeNamed similarNodes) with
      | some id => .createAndGeneralize (some id)
      | none => .create := by
  rw [decide_generalize]
  cases existing.or suggested with
  | none => rfl
  | some name =>
      simp only [Option.bind_some, nodeNamed]
      cases similarNodes.find? (fun n => decide (n.name = name)) <;> rfl

theorem choice_generalize_trait (existing suggested : Option String) :
    (Worker.decideByVerification similarNodes
        ⟨"create_and_generalize", existing, suggested⟩).choice false = .create := by
  rw [decide_generalize]
  cases (existing.or suggested).bind fun name => similarNodes.find? (fun n => n.name = name) <;> rfl

end Verdicts

section Agent

theorem ValidReply.agentTarget {similarNodes : List SimilarNodeResult} {members : Members}
    (h : ValidReply similarNodes members) {name : String} (htarget : members.agentTarget = some name) :
    name ∈ similarNodes.map (·.name) := by
  cases hsuggested : members.named "suggested_target" with
  | some suggested =>
      rw [Members.agentTarget, hsuggested] at htarget
      obtain rfl := Option.some.inj htarget
      exact h.named "suggested_target" (by simp) suggested hsuggested
  | none =>
      rw [Members.agentTarget, hsuggested] at htarget
      exact h.named "existing_node_name" (by simp) name htarget

variable {codec} {workerCodec} {kind : Agent.GeneratorKind} {context : Agent.AgentContext}
  {concept reply : String} {env : Env} {w : World} {similarNodes : List SimilarNodeResult}
  {members : Members}

theorem exit_report_decision (decision : Agent.VerifiedConcept) (w : World) :
    (env.exec (do
      kind.report concept decision
      return decision : Agent.Step Agent.VerifiedConcept) w).exit = .ok decision := by
  rw [exec_bind, Execution.exit_andThen (kind.exec_report env concept decision w)]
  rfl

theorem agentChoice_of_score {decision : Agent.VerifiedConcept}
    (h : Agent.determineActionByScore concept similarNodes = some decision) :
    agentChoice codec kind context env w concept similarNodes = some decision.action.choice := by
  rw [agentChoice, Agent.GeneratorKind.verifyMatch]
  simp only [exec_bind, exec_send, Execution.andThen_ok, h]
  rw [← exec_bind, exit_report_decision]
  rfl

theorem toOption_ask {α : Type} {prompt : Agent.Prompt} {parse : String → Agent.Parsed α} {w : World}
    (hreply : env.llm w.clock = .ok reply) :
    (env.exec (Agent.ask prompt parse) w).exit.toOption = (parse reply).toOption := by
  ext a
  rw [Exit.toOption_eq_some, Exit.toOption_eq_some, (Agent.exec_ask env prompt parse w).2 a, hreply]
  constructor
  · rintro ⟨reply', hreply', hparse⟩
    obtain rfl := Except.ok.inj hreply'
    exact hparse
  · exact fun hparse => ⟨reply, rfl, hparse⟩

theorem agentChoice_of_reply (h : Agent.determineActionByScore concept similarNodes = none)
    (hreply : env.llm (w.clock + 1) = .ok reply) :
    agentChoice codec kind context env w concept similarNodes =
      (Agent.parseVerificationResponse codec reply concept).toOption.bind fun verdict =>
        (env.exec (kind.resolveDecision concept similarNodes verdict)
          w.tick.tick).exit.toOption.map (fun decision => decision.action.choice) := by
  rw [agentChoice, Agent.GeneratorKind.verifyMatch]
  simp only [exec_bind, exec_send, Execution.andThen_ok, h]
  rw [Execution.toOption_andThen, toOption_ask hreply, (Agent.exec_ask env _ _ w.tick).1]
  cases (Agent.parseVerificationResponse codec reply concept).toOption with
  | none => rfl
  | some verdict =>
      simp only [Option.bind_some]
      rw [exec_bind, Execution.toOption_andThen]
      cases hresolved : (env.exec (kind.resolveDecision concept similarNodes verdict)
          w.tick.tick).exit.toOption with
      | none => rfl
      | some decision =>
          rw [Option.bind_some, exit_report_decision]
          rfl

theorem toOption_resolveDecision {verdict : Agent.VerifiedConcept} {w : World}
    (h : ∀ id name needsCreation, verdict.action ≠ .createAndGeneralize id name needsCreation) :
    (env.exec (kind.resolveDecision concept similarNodes verdict) w).exit.toOption = some verdict := by
  rw [Agent.GeneratorKind.resolveDecision]
  cases haction : verdict.action with
  | createNew | useExisting id => rfl
  | createAndGeneralize id name needsCreation => exact absurd haction (h id name needsCreation)

theorem toOption_resolveTarget {name : String} {node : SimilarNodeResult} {w : World}
    (h : similarNodes.find? (·.name = name) = some node) (id : ElementId) (needsCreation : Bool) :
    (env.exec (kind.resolveDecision concept similarNodes
      (.createAndGeneralize concept id name needsCreation)) w).exit.toOption =
        some (.createAndGeneralize concept node.id name false) := by
  simp only [Agent.GeneratorKind.resolveDecision, Agent.VerifiedConcept.createAndGeneralize,
    Agent.GeneratorKind.resolveTarget, h]
  rfl

variable {workerCodec : Worker.WorkerCodec}

theorem BareObject.parseVerification (h : BareObject codec workerCodec reply members)
    (concept : String) :
    ∃ j, Agent.parseVerificationResponse codec reply concept = Agent.readVerification j concept ∧
      ∀ key, Agent.strField j key = members.text key := by
  obtain ⟨j, hj, hget⟩ := h.parseObject "No JSON object found in response" "No closing brace found"
    (some "Invalid JSON object structure")
  refine ⟨j, ?_, strField_eq hget⟩
  rw [Agent.parseVerificationResponse, hj, Exit.ok_bind]

theorem agentChoice_useExisting (h : Agent.determineActionByScore concept similarNodes = none)
    (hreply : env.llm (w.clock + 1) = .ok reply) (hobject : BareObject codec workerCodec reply members)
    (hdecision : members.text "decision" = some "use_existing") :
    agentChoice codec kind context env w concept similarNodes =
      (members.named "existing_node_name").map Choice.reuse := by
  obtain ⟨j, hj, hfield⟩ := hobject.parseVerification concept
  have hread : Agent.readVerification j concept = (do
      let nodeName ← Agent.okOr (members.named "existing_node_name")
        "Missing existing_node_name for use_existing"
      return .useExisting concept nodeName) := by
    simp only [Agent.readVerification, hfield, hdecision, Agent.okOr, Exit.ok_bind]
    rfl
  rw [agentChoice_of_reply h hreply, hj, hread]
  cases members.named "existing_node_name" with
  | none => rfl
  | some name =>
      rw [Agent.okOr, Exit.ok_bind, show (pure (Agent.VerifiedConcept.useExisting concept name) :
        Agent.Parsed _) = .ok (.useExisting concept name) from rfl, Exit.toOption_ok, Option.bind_some,
        toOption_resolveDecision fun _ _ _ h => by cases h]
      rfl

theorem agentChoice_createNew (h : Agent.determineActionByScore concept similarNodes = none)
    (hreply : env.llm (w.clock + 1) = .ok reply) (hobject : BareObject codec workerCodec reply members)
    (hdecision : members.text "decision" = some "create_new") :
    agentChoice codec kind context env w concept similarNodes = some .create := by
  obtain ⟨j, hj, hfield⟩ := hobject.parseVerification concept
  have hread : Agent.readVerification j concept = .ok (.createNew concept) := by
    simp only [Agent.readVerification, hfield, hdecision, Agent.okOr, Exit.ok_bind]
    rfl
  rw [agentChoice_of_reply h hreply, hj, hread, Exit.toOption_ok, Option.bind_some,
    toOption_resolveDecision fun _ _ _ h => by cases h]
  rfl

theorem agentChoice_generalize (h : Agent.determineActionByScore concept similarNodes = none)
    (hreply : env.llm (w.clock + 1) = .ok reply) (hobject : BareObject codec workerCodec reply members)
    (hvalid : ValidReply similarNodes members)
    (hdecision : members.text "decision" = some "create_and_generalize") :
    agentChoice codec kind context env w concept similarNodes =
      members.agentTarget.map fun name => .createAndGeneralize (nodeNamed similarNodes name) := by
  obtain ⟨j, hj, hfield⟩ := hobject.parseVerification concept
  have hread : Agent.readVerification j concept = (do
      let targetName ← Agent.okOr members.agentTarget
        "Missing target for create_and_generalize (need existing_node_name or suggested_target)"
      return .createAndGeneralize concept "" targetName false) := by
    simp only [Agent.readVerification, hfield, hdecision, Agent.okOr, Exit.ok_bind]
    rfl
  rw [agentChoice_of_reply h hreply, hj, hread]
  cases htarget : members.agentTarget with
  | none => rfl
  | some name =>
      obtain ⟨node, hnode, -⟩ := nodeNamed_isSome (hvalid.agentTarget htarget)
      change (env.exec (kind.resolveDecision concept similarNodes
        (.createAndGeneralize concept "" name false)) w.tick.tick).exit.toOption.map _ = _
      rw [toOption_resolveTarget hnode, Option.map_some, Option.map_some, nodeNamed, hnode]
      rfl

end Agent

section Scores

variable {similarNodes : List SimilarNodeResult} {concept : String}

theorem scores_agree (concept : String) (similarNodes : List SimilarNodeResult) :
    (Agent.InMiddleBand similarNodes ∧ Agent.determineActionByScore concept similarNodes = none ∧
        Worker.decideByScore similarNodes .standard = none) ∨
      (¬ Agent.InMiddleBand similarNodes ∧ ∃ decision decision',
        Agent.determineActionByScore concept similarNodes = some decision ∧
          Worker.decideByScore similarNodes .standard = some decision' ∧
          decision.action.choice = decision'.choice true) := by
  by_cases hband : Agent.InMiddleBand similarNodes
  · have hmiddle := hband
    obtain ⟨top, htop, hlow, hhigh⟩ := hmiddle
    obtain ⟨rest, rfl⟩ := List.head?_eq_some_iff.1 htop
    refine .inl ⟨hband, (Agent.determineActionByScore_eq_none concept _).2 hband, ?_⟩
    rw [Worker.decideByScore_of_lt hhigh]
    exact if_neg (Rat.not_lt.2 hlow)
  · refine .inr ⟨hband, ?_⟩
    cases similarNodes with
    | nil => exact ⟨.createNew concept, .createNew, rfl, by decide +kernel, rfl⟩
    | cons top rest =>
        by_cases hlow : top.score < Agent.SIMILARITY_THRESHOLD_LOW
        · have hhigh : top.score < Worker.SimilarityThresholds.standard.autoReuse :=
            Rat.not_le.1 fun h => Rat.not_le.2 hlow (Rat.le_trans (by decide +kernel) h)
          refine ⟨.createNew concept, .createNew, if_pos hlow, ?_, rfl⟩
          rw [Worker.decideByScore_of_lt hhigh]
          exact if_pos hlow
        · have hhigh : Agent.SIMILARITY_THRESHOLD_HIGH ≤ top.score :=
            Rat.not_lt.1 fun h => hband ⟨top, rfl, Rat.not_lt.1 hlow, h⟩
          refine ⟨.useExisting concept top.id, .useExisting top.id top.name, ?_,
            Worker.decideByScore_reuse hhigh, rfl⟩
          rw [Agent.determineActionByScore, if_neg hlow]
          exact if_pos hhigh

end Scores

section Conditions

variable (similarNodes : List SimilarNodeResult) (members : Members)

/-- Between the standard thresholds: the worker can read a decision to create, the node to use has
its name for an id, and the worker's target is the agent's. Without a name that the agent needs,
the worker must fail too. -/
def StandardAgrees : Prop :=
  Agent.InMiddleBand similarNodes →
    (members.text "decision" = some "create_new" → members.Decodes) ∧
    (members.text "decision" = some "use_existing" →
      match members.named "existing_node_name" with
      | some name => members.Decodes ∧ nodeNamed similarNodes name = some name
      | none => ¬ members.Decodes) ∧
    (members.text "decision" = some "create_and_generalize" →
      match members.agentTarget with
      | some name => members.Decodes ∧
          members.workerTarget.bind (nodeNamed similarNodes) = nodeNamed similarNodes name
      | none => ¬ members.Decodes)

/-- Between the thresholds for traits: the worker can read the reply, and where it is to use a node
that is not named, no other node than the best has "" or "null" for a name. -/
def TraitAgrees : Prop :=
  ∀ top ∈ similarNodes.head?, 65 / 100 ≤ top.score → top.score < 85 / 100 →
    members.Decodes ∧
      (members.text "decision" = some "use_existing" → members.named "existing_node_name" = none →
        ((members.text "existing_node_name").bind (nodeNamed similarNodes)).getD top.id = top.id)

end Conditions

section Agreement

variable {codec : Codec} {workerCodec : Worker.WorkerCodec} {kind : Agent.GeneratorKind}
  {context : Agent.AgentContext} {domainName nodeLabel concept reply : String} {env env' : Env}
  {w w' : World} {similarNodes : List SimilarNodeResult} {members : Members}

theorem useExisting_agree_iff (hvalid : ValidReply similarNodes members)
    (hband : Agent.InMiddleBand similarNodes)
    (hdecision : members.text "decision" = some "use_existing") :
    (members.named "existing_node_name").map Choice.reuse =
        members.verification.map (fun verification =>
          (Worker.decideByVerification similarNodes verification).choice true) ↔
      match members.named "existing_node_name" with
      | some name => members.Decodes ∧ nodeNamed similarNodes name = some name
      | none => ¬ members.Decodes := by
  obtain ⟨top, htop, -⟩ := hband
  rw [verification_of_decision hdecision]
  by_cases hdecodes : members.Decodes
  · rw [if_pos hdecodes, Option.map_some, choice_useExisting true _ _ htop]
    cases hnamed : members.named "existing_node_name" with
    | none => exact iff_of_false (by simp) (fun h => h hdecodes)
    | some name =>
        obtain ⟨node, -, hnode⟩ := nodeNamed_isSome (hvalid.named _ (by simp) name hnamed)
        rw [text_of_named hnamed, Option.bind_some, hnode, Option.map_some, Option.getD_some]
        constructor
        · intro h
          have hid : name = node.id := Choice.reuse.inj (Option.some.inj h)
          exact ⟨hdecodes, hnode.trans (congrArg some hid.symm)⟩
        · rintro ⟨-, h⟩
          have hid : name = node.id := Option.some.inj (h.symm.trans hnode)
          rw [← hid]
  · rw [if_neg hdecodes, Option.map_none]
    cases members.named "existing_node_name" with
    | none => exact iff_of_true rfl hdecodes
    | some name => exact iff_of_false (by simp) (fun h => hdecodes h.1)

theorem generalize_agree_iff (hvalid : ValidReply similarNodes members)
    (hdecision : members.text "decision" = some "create_and_generalize") :
    members.agentTarget.map (fun name => Choice.createAndGeneralize (nodeNamed similarNodes name)) =
        members.verification.map (fun verification =>
          (Worker.decideByVerification similarNodes verification).choice true) ↔
      match members.agentTarget with
      | some name => members.Decodes ∧
          members.workerTarget.bind (nodeNamed similarNodes) = nodeNamed similarNodes name
      | none => ¬ members.Decodes := by
  rw [verification_of_decision hdecision]
  by_cases hdecodes : members.Decodes
  · rw [if_pos hdecodes, Option.map_some, choice_generalize, ← Members.workerTarget]
    cases htarget : members.agentTarget with
    | none => exact iff_of_false (by simp) (fun h => h hdecodes)
    | some name =>
        obtain ⟨node, -, hnode⟩ := nodeNamed_isSome (hvalid.agentTarget htarget)
        rw [Option.map_some, hnode]
        cases members.workerTarget.bind (nodeNamed similarNodes) with
        | none => exact iff_of_false (by simp) (fun h => by cases h.2.trans hnode)
        | some id =>
            constructor
            · intro h
              have hid := Choice.createAndGeneralize.inj (Option.some.inj h)
              exact ⟨hdecodes, hid.symm.trans hnode.symm⟩
            · rintro ⟨-, h⟩
              have hid : some id = some node.id := h.trans hnode
              rw [← hid]
  · rw [if_neg hdecodes, Option.map_none]
    cases members.agentTarget with
    | none => exact iff_of_true rfl hdecodes
    | some name => exact iff_of_false (by simp) (fun h => hdecodes h.1)

theorem createNew_agree_iff (generalizes : Bool)
    (hdecision : members.text "decision" = some "create_new") :
    some Choice.create = members.verification.map (fun verification =>
        (Worker.decideByVerification similarNodes verification).choice generalizes) ↔
      members.Decodes := by
  rw [verification_of_decision hdecision]
  by_cases hdecodes : members.Decodes
  · rw [if_pos hdecodes]
    exact iff_of_true rfl hdecodes
  · rw [if_neg hdecodes]
    exact iff_of_false (by simp) hdecodes

theorem standard_agree_iff (hobject : BareObject codec workerCodec reply members)
    (hvalid : ValidReply similarNodes members) (hagent : env.llm (w.clock + 1) = .ok reply)
    (hworker : env'.llm w'.clock = .ok reply) :
    agentChoice codec kind context env w concept similarNodes =
        workerChoice workerCodec .standard true domainName nodeLabel env' w' concept similarNodes ↔
      StandardAgrees similarNodes members := by
  rcases scores_agree concept similarNodes with ⟨hband, hnone, hnone'⟩ | ⟨hband, decision, decision',
    hdecision, hdecision', hchoice⟩
  · rw [workerChoice_of_reply hnone' hworker hobject, StandardAgrees, forall_prop_of_true hband]
    rcases hvalid.decision with hdecision | hdecision | hdecision
    · rw [agentChoice_useExisting hnone hagent hobject hdecision,
        useExisting_agree_iff hvalid hband hdecision]
      simp [hdecision]
    · rw [agentChoice_createNew hnone hagent hobject hdecision, createNew_agree_iff true hdecision]
      simp [hdecision]
    · rw [agentChoice_generalize hnone hagent hobject hvalid hdecision,
        generalize_agree_iff hvalid hdecision]
      simp [hdecision]
  · rw [agentChoice_of_score hdecision, workerChoice_of_score hdecision', hchoice]
    exact iff_of_true rfl fun h => absurd h hband

section Traits

variable {top : SimilarNodeResult} {rest : List SimilarNodeResult}

theorem traitAgentChoice_of_reply (hlow : ¬ top.score < 65 / 100) (hhigh : ¬ top.score ≥ 85 / 100)
    (hobject : BareObject codec workerCodec reply members) (hagent : env.llm (w.clock + 1) = .ok reply)
    {decision : String} (hdecision : members.text "decision" = some decision) :
    traitAgentChoice codec context env w concept (top :: rest) =
      some (if decision = "use_existing" then
        .reuse (((members.named "existing_node_name").bind (nodeNamed (top :: rest))).getD top.id)
      else .create) := by
  obtain ⟨j, hj, hget⟩ := hobject.parseObject "No JSON object found" "No closing brace found" none
  have hfield := strField_eq hget
  rw [traitAgentChoice, Agent.TraitGeneratorStep.verifyMatch]
  simp only [exec_bind, exec_send, Execution.andThen_ok, if_neg hlow, if_neg hhigh]
  rw [toOption_ask hagent, Agent.TraitGeneratorStep.parseTraitVerification, hj, Exit.ok_bind]
  simp only [Agent.TraitGeneratorStep.readTraitVerification, hfield, hdecision, Agent.okOr,
    Exit.ok_bind]
  by_cases huse : decision = "use_existing"
  · rw [if_pos huse, if_pos huse, ← Members.named]
    cases members.named "existing_node_name" with
    | none => rfl
    | some name =>
        simp only [Option.bind_some, nodeNamed]
        cases (top :: rest).find? (fun n => decide (n.name = name)) <;> rfl
  · rw [if_neg huse, if_neg huse]
    rfl

theorem useExisting_trait_agree_iff
    (hdecision : members.text "decision" = some "use_existing") :
    some (Choice.reuse (((members.named "existing_node_name").bind
        (nodeNamed (top :: rest))).getD top.id)) =
        members.verification.map (fun verification =>
          (Worker.decideByVerification (top :: rest) verification).choice false) ↔
      members.Decodes ∧ (members.named "existing_node_name" = none →
        ((members.text "existing_node_name").bind (nodeNamed (top :: rest))).getD top.id = top.id) := by
  rw [verification_of_decision hdecision]
  by_cases hdecodes : members.Decodes
  · rw [if_pos hdecodes, Option.map_some, choice_useExisting false _ _ rfl]
    cases hnamed : members.named "existing_node_name" with
    | none =>
        constructor
        · intro h
          exact ⟨hdecodes, fun _ => (Choice.reuse.inj (Option.some.inj h)).symm⟩
        · rintro ⟨-, h⟩
          rw [h rfl]
          rfl
    | some name =>
        rw [text_of_named hnamed]
        exact iff_of_true rfl ⟨hdecodes, fun h => by cases h⟩
  · rw [if_neg hdecodes, Option.map_none]
    exact iff_of_false (by simp) (fun h => hdecodes h.1)

theorem trait_agree_iff (hobject : BareObject codec workerCodec reply members)
    (hvalid : ValidReply similarNodes members) (hagent : env.llm (w.clock + 1) = .ok reply)
    (hworker : env'.llm w'.clock = .ok reply) :
    traitAgentChoice codec context env w concept similarNodes =
        workerChoice workerCodec .traitNode false domainName nodeLabel env' w' concept similarNodes ↔
      TraitAgrees similarNodes members := by
  cases similarNodes with
  | nil =>
      have hscore : Worker.decideByScore [] .traitNode = some .createNew := by decide +kernel
      rw [workerChoice_of_score hscore]
      exact iff_of_true rfl fun top htop => by cases htop
  | cons top rest =>
      by_cases hlow : top.score < 65 / 100
      · have hagentChoice : traitAgentChoice codec context env w concept (top :: rest) =
            some .create := by
          rw [traitAgentChoice, Agent.TraitGeneratorStep.verifyMatch]
          simp only [exec_bind, exec_send, Execution.andThen_ok, if_pos hlow]
          rfl
        have hscore : Worker.decideByScore (top :: rest) .traitNode = some .createNew := by
          rw [Worker.decideByScore_of_lt]
          · exact if_pos hlow
          · exact Rat.not_le.1 fun h => Rat.not_le.2 hlow (Rat.le_trans (by decide +kernel) h)
        rw [hagentChoice, workerChoice_of_score hscore]
        refine iff_of_true rfl fun top' htop hlow' => ?_
        obtain rfl := Option.some.inj htop
        exact absurd hlow (Rat.not_lt.2 hlow')
      · by_cases hhigh : top.score ≥ 85 / 100
        · have hagentChoice : traitAgentChoice codec context env w concept (top :: rest) =
              some (.reuse top.id) := by
            rw [traitAgentChoice, Agent.TraitGeneratorStep.verifyMatch]
            simp only [exec_bind, exec_send, Execution.andThen_ok, if_neg hlow, if_pos hhigh]
            rfl
          rw [hagentChoice, workerChoice_of_score (Worker.decideByScore_reuse hhigh)]
          refine iff_of_true rfl fun top' htop _ hhigh' => ?_
          obtain rfl := Option.some.inj htop
          exact absurd hhigh (Rat.not_le.2 hhigh')
        · have hscore : Worker.decideByScore (top :: rest) .traitNode = none := by
            rw [Worker.decideByScore_of_lt (Rat.not_le.1 hhigh)]
            exact if_neg hlow
          have hcondition : TraitAgrees (top :: rest) members ↔ _ :=
            ⟨fun h => h top rfl (Rat.not_lt.1 hlow) (Rat.not_le.1 hhigh), fun h top' htop _ _ => by
              obtain rfl := Option.some.inj htop
              exact h⟩
          rw [workerChoice_of_reply hscore hworker hobject, hcondition]
          rcases hvalid.decision with hdecision | hdecision | hdecision
          · rw [traitAgentChoice_of_reply hlow hhigh hobject hagent hdecision, if_pos rfl,
              useExisting_trait_agree_iff hdecision]
            simp [hdecision]
          · rw [traitAgentChoice_of_reply hlow hhigh hobject hagent hdecision, if_neg (by decide),
              createNew_agree_iff false hdecision]
            simp [hdecision]
          · rw [traitAgentChoice_of_reply hlow hhigh hobject hagent hdecision, if_neg (by decide),
              verification_of_decision hdecision]
            by_cases hdecodes : members.Decodes
            · rw [if_pos hdecodes, Option.map_some, choice_generalize_trait]
              exact iff_of_true rfl ⟨hdecodes, fun h => by simp [hdecision] at h⟩
            · rw [if_neg hdecodes]
              exact iff_of_false (by simp) (fun h => hdecodes h.1)

end Traits

end Agreement

end Engines

/-- The two engines choose the same action with the same existing node just under the conditions
of their bands: the agents for knowledge and skills and the processors for these with the standard
thresholds, the agent and the processor for traits with theirs. -/
theorem decisionEngines_agree_iff (codec : Codec) (workerCodec : Worker.WorkerCodec) (reply : String)
    (members : Members) (similarNodes : List SimilarNodeResult) (concept : String)
    (context : Agent.AgentContext) (domainName nodeLabel : String) (env env' : Env) (w w' : World)
    (hobject : BareObject codec workerCodec reply members)
    (hvalid : ValidReply similarNodes members) (hagent : env.llm (w.clock + 1) = .ok reply)
    (hworker : env'.llm w'.clock = .ok reply) :
    (∀ kind, agentChoice codec kind context env w concept similarNodes =
        workerChoice workerCodec .standard true domainName nodeLabel env' w' concept similarNodes ↔
      StandardAgrees similarNodes members) ∧
    (traitAgentChoice codec context env w concept similarNodes =
        workerChoice workerCodec .traitNode false domainName nodeLabel env' w' concept similarNodes ↔
      TraitAgrees similarNodes members) :=
  ⟨fun _ => standard_agree_iff hobject hvalid hagent hworker,
    trait_agree_iff hobject hvalid hagent hworker⟩

section VersionControl

/-- A node that may or may not be the same as the concept, by any of the thresholds. -/
def similarGit : SimilarNodeResult := ⟨"Git", none, "4:7", 8 / 10⟩

def createReply : String := "\x7b\"decision\":\"create_new\"\x7d"

def createMembers : Members := [("decision", .str "create_new")]

def useReply : String := "\x7b\"decision\":\"use_existing\",\"existing_node_name\":\"Git\"\x7d"

def useMembers : Members := [("decision", .str "use_existing"), ("existing_node_name", .str "Git")]

def replyCodec : Codec where
  value := fun s =>
    if s = createReply then .ok (.object createMembers.reverse)
    else if s = useReply then .ok (.object useMembers.reverse)
    else .error ""
  strings := fun _ => .error ""
  float := fun _ => ""

def replyWorkerCodec : Worker.WorkerCodec where
  job := fun _ => .error ""
  verification := fun s =>
    if s = createReply then .ok ⟨"create_new", none, none⟩
    else if s = useReply then .ok ⟨"use_existing", some "Git", none⟩
    else .error ""
  knowledge := fun _ => .error ""
  skill := fun _ => .error ""
  trait := fun _ => .error ""
  milestone := fun _ => .error ""

def repliesWith (reply : String) : Env := { Env.calm with llm := fun _ => .ok reply }

def webDomain : Agent.AgentContext := ⟨"Web", none, none, {}⟩

theorem createReply_bare : BareObject replyCodec replyWorkerCodec createReply createMembers := by
  have htrim : Text.trim createReply = createReply := by decide +kernel
  refine ⟨⟨(createReply.toList.drop 1).dropLast, by decide +kernel⟩, ?_, ?_⟩
  · rw [htrim]
    exact ⟨.object createMembers.reverse, rfl, fun _ => rfl⟩
  · rw [htrim]
    rfl

theorem useReply_bare : BareObject replyCodec replyWorkerCodec useReply useMembers := by
  have htrim : Text.trim useReply = useReply := by decide +kernel
  refine ⟨⟨(useReply.toList.drop 1).dropLast, by decide +kernel⟩, ?_, ?_⟩
  · rw [htrim]
    exact ⟨.object useMembers.reverse, rfl, fun _ => rfl⟩
  · rw [htrim]
    rfl

theorem createReply_agrees : agentChoice replyCodec Agent.knowledgeKind webDomain
      (repliesWith createReply) (World.start emptyGraph) "Version control" [similarGit] =
    workerChoice replyWorkerCodec .standard true "Web" "Knowledge" (repliesWith createReply)
      (World.start emptyGraph) "Version control" [similarGit] := by
  have hvalid : ValidReply [similarGit] createMembers := ⟨.inr (.inl rfl), by decide⟩
  refine ((decisionEngines_agree_iff replyCodec replyWorkerCodec createReply createMembers [similarGit]
    "Version control" webDomain "Web" "Knowledge" (repliesWith createReply)
    (repliesWith createReply) (World.start emptyGraph) (World.start emptyGraph) createReply_bare
    hvalid rfl rfl).1 Agent.knowledgeKind).2 fun _ => ?_
  exact ⟨fun _ => by decide, fun h => absurd h (by decide), fun h => absurd h (by decide)⟩

/-- The agent takes the name in the reply for an element id, where the worker looks the node up. -/
theorem useReply_disagrees :
    BareObject replyCodec replyWorkerCodec useReply useMembers ∧
      ValidReply [similarGit] useMembers ∧
      agentChoice replyCodec Agent.knowledgeKind webDomain (repliesWith useReply)
        (World.start emptyGraph) "Version control" [similarGit] = some (.reuse "Git") ∧
      workerChoice replyWorkerCodec .standard true "Web" "Knowledge" (repliesWith useReply)
        (World.start emptyGraph) "Version control" [similarGit] = some (.reuse "4:7") := by
  exact ⟨useReply_bare, ⟨.inl rfl, by decide⟩, by decide +kernel, by decide +kernel⟩

end VersionControl

end AtlasOfUs
