import AtlasOfUs.Agent.Generator
import AtlasOfUs.Library.Triple

namespace AtlasOfUs.Agent

open Library Similarity GraphApi

/-- The name under which a reply asks for an existing node to be used. -/
def reusedName (codec : Codec) (response : String) : Option String :=
  match parseObject codec "No JSON object found in response" "No closing brace found"
      (some "Invalid JSON object structure") response with
  | .ok parsed =>
      if strField parsed "decision" = some "use_existing" then
        (strField parsed "existing_node_name").filter nonNull
      else none
  | _ => none

/-- The best score is neither low enough to create nor high enough to reuse. -/
def InMiddleBand (similarNodes : List SimilarNodeResult) : Prop :=
  ∃ top ∈ similarNodes.head?, SIMILARITY_THRESHOLD_LOW ≤ top.score ∧
    top.score < SIMILARITY_THRESHOLD_HIGH

theorem parseVerificationResponse_useExisting (codec : Codec) (response concept : String)
    (id : ElementId) :
    (∃ verdict, parseVerificationResponse codec response concept = .ok verdict ∧
        verdict.action = .useExisting id) ↔ reusedName codec response = some id := by
  rw [parseVerificationResponse, reusedName]
  cases parseObject codec "No JSON object found in response" "No closing brace found"
      (some "Invalid JSON object structure") response with
  | err e | panicked => simp
  | ok parsed =>
      simp only [Exit.ok_bind, readVerification]
      cases hdecision : strField parsed "decision" with
      | none => simp [okOr]
      | some decision =>
          simp only [okOr, Exit.ok_bind, Option.some.injEq]
          split_ifs with hreuse hnew hgeneralize
          · cases (strField parsed "existing_node_name").filter nonNull <;>
              simp [VerifiedConcept.useExisting]
          · simp [VerifiedConcept.createNew]
          · cases ((strField parsed "suggested_target").filter nonNull <|>
              (strField parsed "existing_node_name").filter nonNull) <;>
                simp [VerifiedConcept.createAndGeneralize]
          · simp

theorem determineActionByScore_eq_none (concept : String) (similarNodes : List SimilarNodeResult) :
    determineActionByScore concept similarNodes = none ↔ InMiddleBand similarNodes := by
  cases similarNodes with
  | nil => simp [determineActionByScore, InMiddleBand]
  | cons top rest =>
      simp only [determineActionByScore, InMiddleBand, List.head?_cons, Option.mem_def,
        Option.some.injEq, exists_eq_left']
      split_ifs with hlow hhigh
      · exact iff_of_false (by simp) (fun h => Rat.not_lt.2 h.1 hlow)
      · exact iff_of_false (by simp) (fun h => Rat.not_lt.2 hhigh h.2)
      · exact iff_of_true rfl ⟨Rat.not_lt.1 hlow, Rat.not_le.1 hhigh⟩

theorem determineActionByScore_useExisting {concept : String} {similarNodes : List SimilarNodeResult}
    {decision : VerifiedConcept} {id : ElementId}
    (h : determineActionByScore concept similarNodes = some decision)
    (hid : decision.action = .useExisting id) : id ∈ similarNodes.map (·.id) := by
  cases similarNodes with
  | nil =>
      obtain rfl := Option.some.inj h
      cases hid
  | cons top rest =>
      simp only [determineActionByScore] at h
      split_ifs at h
      · obtain rfl := Option.some.inj h
        cases hid
      · obtain rfl := Option.some.inj h
        obtain rfl := ConceptAction.useExisting.inj hid
        simp

theorem exec_ask {α : Type} (env : Env) (prompt : Prompt) (parse : String → Parsed α) (w : World) :
    (env.exec (ask prompt parse) w).state = w.tick ∧
      ∀ a, (env.exec (ask prompt parse) w).exit = .ok a ↔
        ∃ reply, env.llm w.clock = .ok reply ∧ parse reply = .ok a := by
  change Execution.state (Env.exec env (generate prompt >>= _) w) = _ ∧
    ∀ a, Execution.exit (Env.exec env (generate prompt >>= _) w) = _ ↔ _
  rw [exec_bind, show env.exec (generate prompt : Step _) w =
    ⟨.ok (env.llm w.clock), w.tick, [⟨.generate prompt, env.llm w.clock⟩]⟩ from rfl,
    Execution.andThen_ok]
  cases env.llm w.clock with
  | error e => exact ⟨rfl, fun a => iff_of_false (fun h => by cases h) (by simp)⟩
  | ok reply =>
      cases hparse : parse reply with
      | ok a => exact ⟨by simp [hparse], fun b => by simp [hparse]⟩
      | err e => exact ⟨by simp [hparse], fun b => by simp [hparse]⟩
      | panicked =>
          simp only [hparse, Proc.ofExit_panicked]
          exact ⟨rfl, fun b => iff_of_false (fun h => by cases h) (by simp [hparse])⟩

namespace GeneratorKind

section Runs

variable (kind : GeneratorKind) (codec : Codec) (env : Env)

theorem exec_report (concept : String) (decision : VerifiedConcept) (w : World) :
    (env.exec (kind.report concept decision) w).exit = .ok () := by
  unfold report
  split <;> rfl

theorem triple_resolveTarget (concept targetName : String) (similarNodes : List SimilarNodeResult) :
    Triple (Env.handler env) (fun _ => True) (kind.resolveTarget concept targetName similarNodes)
      (fun decision _ => ∀ id, decision.action ≠ .useExisting id) (fun _ _ => True) := by
  unfold resolveTarget
  split
  · exact Triple.done fun _ _ id h => by cases h
  · refine (Triple.true _).bind fun found => ?_
    split
    · exact Triple.done fun _ _ id h => by cases h
    · exact Triple.done fun _ _ id h => by cases h

theorem resolveDecision_useExisting {concept : String} {similarNodes : List SimilarNodeResult}
    {verdict decision : VerifiedConcept} {w : World} {id : ElementId}
    (h : (env.exec (kind.resolveDecision concept similarNodes verdict) w).exit = .ok decision) :
    decision.action = .useExisting id → verdict = decision := by
  intro hid
  unfold resolveDecision at h
  split at h
  · exact absurd hid ((triple_resolveTarget kind env _ _ _).value w decision trivial h id)
  · exact Exit.ok.inj h

/-- The reuse that pass 3 decides on for a concept: the best match, or in the
middle band whatever the reply names. -/
theorem verifyMatch_useExisting (context : AgentContext) (concept : String)
    (similarNodes : List SimilarNodeResult) (w : World) (id : ElementId) :
    (∃ decision, (env.exec (kind.verifyMatch codec context (concept, similarNodes)) w).exit =
        .ok decision ∧ decision.action = .useExisting id) ↔
      (∃ decision, determineActionByScore concept similarNodes = some decision ∧
        decision.action = .useExisting id) ∨
      (InMiddleBand similarNodes ∧ ∃ reply, env.llm (w.clock + 1) = .ok reply ∧
        reusedName codec reply = some id) := by
  have hreported : ∀ decision w, (env.exec (do
      kind.report concept decision
      return decision : Step VerifiedConcept) w).exit = .ok decision := by
    intro decision w
    rw [exec_bind, Execution.exit_andThen (kind.exec_report env concept decision w)]
    rfl
  rw [verifyMatch, ← determineActionByScore_eq_none concept]
  simp only [exec_bind, exec_send, Execution.andThen_ok]
  cases hscore : determineActionByScore concept similarNodes with
  | some decision =>
      simp only [hreported]
      simp
  | none =>
      simp only [reduceCtorEq, false_and, exists_false, true_and, false_or]
      constructor
      · rintro ⟨decision, hok, hid⟩
        rw [exec_bind] at hok
        obtain ⟨verdict, hverdict, hok⟩ := Execution.exit_andThen_eq_ok hok
        rw [exec_bind] at hok
        obtain ⟨resolved, hresolved, hok⟩ := Execution.exit_andThen_eq_ok hok
        rw [hreported, Exit.ok.injEq] at hok
        subst hok
        obtain rfl := kind.resolveDecision_useExisting env hresolved hid
        obtain ⟨reply, hreply, hparse⟩ := ((exec_ask env _ _ w.tick).2 verdict).1 hverdict
        exact ⟨reply, hreply,
          (parseVerificationResponse_useExisting codec reply concept id).1 ⟨verdict, hparse, hid⟩⟩
      · rintro ⟨reply, hreply, hname⟩
        obtain ⟨verdict, hparse, hid⟩ :=
          (parseVerificationResponse_useExisting codec reply concept id).2 hname
        have hverdict := ((exec_ask env (kind.verifyPrompt concept context.domainName similarNodes)
          (fun response => parseVerificationResponse codec response concept) w.tick).2 verdict).2
            ⟨reply, hreply, hparse⟩
        have hresolved : ∀ w, (env.exec (kind.resolveDecision concept similarNodes verdict) w).exit =
            .ok verdict := by
          intro w
          rw [resolveDecision, hid]
          rfl
        refine ⟨verdict, ?_, hid⟩
        rw [exec_bind, Execution.exit_andThen hverdict, exec_bind,
          Execution.exit_andThen (hresolved _), hreported]

/-- The world in which pass 3 comes to its `k`-th concept. -/
def worldAt (context : AgentContext) (results : List (String × List SimilarNodeResult)) (w : World)
    (k : Nat) : World :=
  (env.exec (kind.pass3VerifyMatches codec context (results.take k)) w).state

/-- Every reuse decided on names one of the nodes found for its concept. -/
def ReusesFound (results : List (String × List SimilarNodeResult))
    (verified : List VerifiedConcept) : Prop :=
  ∀ (k : Nat) found decision id, results[k]? = some found → verified[k]? = some decision →
    decision.action = .useExisting id → id ∈ found.2.map (·.id)

/-- A node of the registry that counts as reused has the id of a reuse decided on. -/
theorem triple_createConceptNode {verified : List VerifiedConcept} {concept : VerifiedConcept}
    (hmem : concept ∈ verified) (acc : List CreatedNode × List NodeProperties)
    (hacc : ∀ n ∈ acc.1, n.wasReused → ∃ c ∈ verified, c.action = .useExisting n.elementId) :
    Triple (Env.handler env) (fun _ => True) (kind.createConceptNode codec acc concept)
      (fun acc _ => ∀ n ∈ acc.1, n.wasReused → ∃ c ∈ verified, c.action = .useExisting n.elementId)
      (fun _ _ => True) := by
  unfold createConceptNode
  split
  · rename_i elementId haction
    refine Triple.done fun _ _ n hn hreused => ?_
    rcases List.mem_append.1 hn with hn | hn
    · exact hacc n hn hreused
    · rw [List.mem_singleton.1 hn]
      exact ⟨concept, hmem, haction⟩
  · split
    · exact Triple.fail fun _ _ => trivial
    · refine (Triple.true _).bind fun result => Triple.done fun _ _ n hn hreused => ?_
      rcases List.mem_append.1 hn with hn | hn
      · exact hacc n hn hreused
      · rw [List.mem_singleton.1 hn] at hreused
        cases hreused

theorem pass6_reused {verified : List VerifiedConcept} {properties : List NodeProperties}
    {w : World} {created : List CreatedNode}
    (h : (env.exec (kind.pass6CreateNodes codec verified properties) w).exit = .ok created) :
    ∀ n ∈ created, n.wasReused → ∃ c ∈ verified, c.action = .useExisting n.elementId := by
  have hloop : Triple (Env.handler env) (fun _ => True)
      (kind.pass6CreateNodes codec verified properties)
      (fun created _ => ∀ n ∈ created, n.wasReused →
        ∃ c ∈ verified, c.action = .useExisting n.elementId) (fun _ _ => True) := by
    refine ((Triple.foldlM (fun acc rest _ => rest ⊆ verified ∧
      ∀ n ∈ acc.1, n.wasReused → ∃ c ∈ verified, c.action = .useExisting n.elementId)
      (fun acc c rest => ?_) verified ([], properties)).weaken fun _ _ => ?_).bind
        fun acc => Triple.done fun _ h => h.2
    · refine Triple.of_pre (fun _ h => h) fun hpre => ?_
      exact (triple_createConceptNode kind codec env (hpre.1 List.mem_cons_self) acc hpre.2).conseq
        (fun _ _ => trivial) (fun _ _ h => ⟨fun x hx => hpre.1 (List.mem_cons_of_mem _ hx), h⟩)
        (fun _ _ h => h)
    · exact ⟨fun _ h => h, by simp⟩
  exact hloop.value w created trivial h

theorem triple_createTarget (verified : List VerifiedConcept)
    (acc : List VerifiedConcept × List CreatedNode) (target : Nat × String × NodeProperties)
    (hacc : ∀ c ∈ acc.1, ∀ id, c.action = .useExisting id →
      ∃ d ∈ verified, d.action = .useExisting id) :
    Triple (Env.handler env) (fun _ => True) (kind.createTarget codec acc target)
      (fun acc _ => ∀ c ∈ acc.1, ∀ id, c.action = .useExisting id →
        ∃ d ∈ verified, d.action = .useExisting id) (fun _ _ => True) := by
  refine (Triple.true _).bind fun result => Triple.done fun _ _ c hc id hid => ?_
  obtain ⟨i, hi⟩ := List.mem_iff_getElem?.1 hc
  rw [setAction, List.getElem?_modify] at hi
  obtain ⟨old, hold, hi⟩ := Option.map_eq_some_iff.1 hi
  split at hi
  · obtain rfl := hi
    cases hid
  · obtain rfl := hi
    exact hacc _ (List.mem_of_getElem? hold) id hid

theorem triple_pass4 (verified : List VerifiedConcept) :
    Triple (Env.handler env) (fun _ => True) (kind.pass4CreateMissingTargets codec verified)
      (fun result _ => ∀ c ∈ result.1, ∀ id, c.action = .useExisting id →
        ∃ d ∈ verified, d.action = .useExisting id) (fun _ _ => True) := by
  refine (Triple.true _).bind fun properties => ?_
  refine (Triple.foldlM (fun (acc : List VerifiedConcept × List CreatedNode) _ _ => ∀ c ∈ acc.1,
    ∀ id, c.action = .useExisting id → ∃ d ∈ verified, d.action = .useExisting id)
      (fun acc target _ => ?_) properties (verified, [])).weaken
        fun _ _ c hc id hid => ⟨c, hc, hid⟩
  exact Triple.of_pre (fun _ h => h) fun hacc =>
    (triple_createTarget kind codec env verified acc target hacc).weaken fun _ _ => trivial

theorem createTargets_useExisting {context context' : AgentContext}
    {verified verified' : List VerifiedConcept} {w : World}
    (h : (env.exec (kind.createTargets codec context verified) w).exit = .ok (context', verified')) :
    ∀ c ∈ verified', ∀ id, c.action = .useExisting id →
      ∃ d ∈ verified, d.action = .useExisting id := by
  have htargets : Triple (Env.handler env) (fun _ => True)
      (kind.createTargets codec context verified)
      (fun result _ => ∀ c ∈ result.2, ∀ id, c.action = .useExisting id →
        ∃ d ∈ verified, d.action = .useExisting id) (fun _ _ => True) := by
    unfold createTargets
    simp only
    split
    · refine (Triple.true _).bind fun _ =>
        (Triple.mapErr (triple_pass4 kind codec env verified)).bind fun targets => ?_
      exact Triple.of_pre (fun _ h => h) fun hreuses =>
        (Triple.true _).bind fun _ => Triple.done fun _ _ => hreuses
    · exact Triple.done fun _ _ c hc id hid => ⟨c, hc, hid⟩
  exact htargets.value w (context', verified') trivial h

/-- What is registered as reused was found, where pass 3 reuses found nodes only. -/
theorem reused_found {results : List (String × List SimilarNodeResult)}
    {verified verified' : List VerifiedConcept} (hlength : verified.length = results.length)
    (hfound : ReusesFound results verified) {context context' : AgentContext} {w w' : World}
    (htargets : (env.exec (kind.createTargets codec context verified) w).exit =
      .ok (context', verified')) {properties : List NodeProperties} {created : List CreatedNode}
    (hcreated : (env.exec (kind.pass6CreateNodes codec verified' properties) w').exit = .ok created) :
    ∀ n ∈ created, n.wasReused → ∃ found ∈ results, n.elementId ∈ found.2.map (·.id) := by
  intro n hn hreused
  obtain ⟨c, hc, hid⟩ := kind.pass6_reused codec env hcreated n hn hreused
  obtain ⟨d, hd, hid⟩ := kind.createTargets_useExisting codec env htargets c hc _ hid
  obtain ⟨k, hk⟩ := List.mem_iff_getElem?.1 hd
  have hlt : k < results.length := hlength ▸ (List.getElem?_eq_some_iff.1 hk).1
  exact ⟨results[k], List.getElem_mem hlt, hfound k _ d _ (List.getElem?_eq_getElem hlt) hk hid⟩

/-- Pass 3 reuses found nodes only, exactly if every reply it is given in the
middle band that asks for an existing node names it by the id of one of them.
Whatever is later registered as reused is then one of the nodes found. -/
theorem pass3_reusesFound_iff (context : AgentContext)
    (results : List (String × List SimilarNodeResult)) (w : World) (verified : List VerifiedConcept)
    (h : (env.exec (kind.pass3VerifyMatches codec context results) w).exit = .ok verified) :
    (ReusesFound results verified ↔
      ∀ (k : Nat) found, results[k]? = some found → InMiddleBand found.2 →
        ∀ reply name, env.llm ((kind.worldAt codec env context results w k).clock + 1) = .ok reply →
          reusedName codec reply = some name → name ∈ found.2.map (·.id)) ∧
    (ReusesFound results verified → ∀ context' context'' verified' properties created w' w'',
      (env.exec (kind.createTargets codec context' verified) w').exit = .ok (context'', verified') →
      (env.exec (kind.pass6CreateNodes codec verified' properties) w'').exit = .ok created →
      ∀ n ∈ created, n.wasReused → ∃ found ∈ results, n.elementId ∈ found.2.map (·.id)) := by
  obtain ⟨hlength, hrounds⟩ := Proc.run_mapM_ok h
  refine ⟨⟨?_, ?_⟩, ?_⟩
  · intro hreuses k found hk hband reply name hreply hname
    obtain ⟨decision, hdecision, hexit⟩ := hrounds k found hk
    obtain ⟨decision', hexit', hid⟩ := (kind.verifyMatch_useExisting codec env context found.1
      found.2 (kind.worldAt codec env context results w k) name).2
        (.inr ⟨hband, reply, hreply, hname⟩)
    obtain rfl := Exit.ok.inj (hexit.symm.trans hexit')
    exact hreuses k found decision name hk hdecision hid
  · intro hreplies k found decision id hk hdecision hid
    obtain ⟨decision', hdecision', hexit⟩ := hrounds k found hk
    obtain rfl := Option.some.inj (hdecision.symm.trans hdecision')
    rcases (kind.verifyMatch_useExisting codec env context found.1 found.2
      (kind.worldAt codec env context results w k) id).1 ⟨decision, hexit, hid⟩ with
      ⟨scored, hscored, hid'⟩ | ⟨hband, reply, hreply, hname⟩
    · exact determineActionByScore_useExisting hscored hid'
    · exact hreplies k found hk hband reply id hreply hname
  · intro hfound context' context'' verified' properties created w' w'' htargets hcreated
    exact kind.reused_found codec env hlength hfound htargets hcreated

end Runs

section VersionControl

def gitNode : SimilarNodeResult := ⟨"Git", none, "4:7", 8 / 10⟩

/-- A parser that finds in every reply the decision to use the node so named. -/
def reuseCodec (nodeName : String) : Codec where
  value := fun _ => .ok (.object [("decision", .str "use_existing"),
    ("existing_node_name", .str nodeName)])
  strings := fun _ => .ok []
  float := fun _ => ""

def replying : Env := { Env.calm with llm := fun _ => .ok "\x7b\x7d" }

def webContext : AgentContext := ⟨"Web", none, none, {}⟩

theorem pass3_reusesFound_git :
    (ReusesFound [("Version control", [gitNode])] [.useExisting "Version control" "4:7"] ↔
      ∀ (k : Nat) found, [("Version control", [gitNode])][k]? = some found → InMiddleBand found.2 →
        ∀ reply name, replying.llm ((knowledgeKind.worldAt (reuseCodec "4:7") replying webContext
          [("Version control", [gitNode])] (World.start emptyGraph) k).clock + 1) = .ok reply →
          reusedName (reuseCodec "4:7") reply = some name → name ∈ found.2.map (·.id)) :=
  (knowledgeKind.pass3_reusesFound_iff (reuseCodec "4:7") replying webContext
    [("Version control", [gitNode])] (World.start emptyGraph)
    [.useExisting "Version control" "4:7"] (by decide +kernel)).1

/-- The reply names the found node as it was asked to, and its name is taken for an id. -/
theorem git_reused_by_name :
    (replying.exec (knowledgeKind.pass3VerifyMatches (reuseCodec "Git") webContext
      [("Version control", [gitNode])]) (World.start emptyGraph)).exit =
        .ok [.useExisting "Version control" "Git"] ∧
    (replying.exec (skillKind.pass3VerifyMatches (reuseCodec "Git") webContext
      [("Version control", [gitNode])]) (World.start emptyGraph)).exit =
        .ok [.useExisting "Version control" "Git"] ∧
    "Git" ∉ [gitNode].map (·.id) ∧
    ¬ ReusesFound [("Version control", [gitNode])] [.useExisting "Version control" "Git"] := by
  refine ⟨by decide +kernel, by decide +kernel, by decide, fun h => ?_⟩
  have := h 0 _ _ "Git" rfl rfl rfl
  revert this
  decide

end VersionControl

end GeneratorKind

end AtlasOfUs.Agent
