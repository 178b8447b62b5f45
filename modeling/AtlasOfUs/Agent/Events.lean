import AtlasOfUs.Agent.Orchestrator

namespace AtlasOfUs.Agent

open Library Similarity

variable {ε α β : Type}

abbrev AgentCall := Call (services SseEvent Prompt)

def Quiet (calls : List AgentCall) : Prop := ∀ e ∈ sent calls, e.isFinal = false

/-- No reply of the language model made its parser slice out of range. -/
def Sound (calls : List AgentCall) : Prop := ∀ c ∈ calls, ¬ badReply c.1 c.2

/-- The sequence ends with its one final event, which says how the run ended. -/
def FinalOnce (events : List SseEvent) (exit : Exit String DomainGenerationResult) : Prop :=
  ∃ body last, events = body ++ [last] ∧ (∀ e ∈ body, e.isFinal = false) ∧ last.isFinal = true ∧
    ((∃ name stats, last = .completed name stats) ↔ ∃ result, exit = .ok result) ∧
    ((∃ error agent registry, last = .failed error agent registry) ↔ ∃ error, exit = .err error)

def EndsFailed (events : List SseEvent) : Prop :=
  ∃ body error agent registry, events = body ++ [.failed error agent registry] ∧
    ∀ e ∈ body, e.isFinal = false

/-- What every part of the workflow guarantees: a success is quiet, an error was
reported by one final event, and a panic came from a bad reply. -/
def Reports (x : Execution (services SseEvent Prompt) ε α World) : Prop :=
  match x.exit with
  | .ok _ => Quiet x.calls ∧ Sound x.calls
  | .err _ => EndsFailed (sent x.calls) ∧ Sound x.calls
  | .panicked => Quiet x.calls ∧ ¬ Sound x.calls

def Reporting (p : Service SseEvent Prompt ε α) : Prop := ∀ (env : Env) (w : World), Reports (env.exec p w)

@[simp] theorem sent_nil : sent ([] : List AgentCall) = [] := rfl

@[simp] theorem sent_append (xs ys : List AgentCall) : sent (xs ++ ys) = sent xs ++ sent ys :=
  List.filterMap_append

@[simp] theorem sent_send (e : SseEvent) (r : Unit) (cs : List AgentCall) :
    sent (⟨Op.send e, r⟩ :: cs) = e :: sent cs := rfl

theorem quiet_append {xs ys : List AgentCall} : Quiet (xs ++ ys) ↔ Quiet xs ∧ Quiet ys := by
  simp only [Quiet, sent_append, List.mem_append]
  exact ⟨fun h => ⟨fun e he => h e (.inl he), fun e he => h e (.inr he)⟩,
    fun h e he => he.elim (h.1 e) (h.2 e)⟩

theorem sound_append {xs ys : List AgentCall} : Sound (xs ++ ys) ↔ Sound xs ∧ Sound ys := by
  simp only [Sound, List.mem_append]
  exact ⟨fun h => ⟨fun c hc => h c (.inl hc), fun c hc => h c (.inr hc)⟩,
    fun h c hc => hc.elim (h.1 c) (h.2 c)⟩

theorem sound_send (e : SseEvent) (r : Unit) : Sound [⟨Op.send e, r⟩] := by
  intro c hc
  rw [List.mem_singleton.1 hc]
  exact id

theorem quiet_send {e : SseEvent} (r : Unit) (he : e.isFinal = false) :
    Quiet [⟨Op.send e, r⟩] := by
  simpa [Quiet] using he

theorem EndsFailed.append {xs ys : List SseEvent} (hx : ∀ e ∈ xs, e.isFinal = false)
    (hy : EndsFailed ys) : EndsFailed (xs ++ ys) := by
  obtain ⟨body, error, agent, registry, rfl, hbody⟩ := hy
  refine ⟨xs ++ body, error, agent, registry, (List.append_assoc _ _ _).symm, fun e he => ?_⟩
  exact (List.mem_append.1 he).elim (hx e) (hbody e)

theorem isFinal_of_stepOf {agent : AgentType} {e : SseEvent} (h : e.stepOf agent) :
    e.isFinal = false := by
  cases e <;> first | rfl | exact h.elim

theorem Reporting.done (a : α) : Reporting (Proc.done a : Service SseEvent Prompt ε α) :=
  fun _ _ => ⟨by simp [Quiet], by simp [Sound]⟩

theorem Reporting.send {e : SseEvent} (he : e.isFinal = false) :
    Reporting (send e : Service SseEvent Prompt ε Unit) :=
  fun _ _ => ⟨quiet_send _ he, sound_send _ _⟩

theorem Reporting.bind {p : Service SseEvent Prompt ε α} {f : α → Service SseEvent Prompt ε β}
    (hp : Reporting p) (hf : ∀ a, Reporting (f a)) : Reporting (p >>= f) := by
  intro env w
  rw [exec_bind]
  have hx := hp env w
  cases hrun : env.exec p w with
  | mk exit state calls =>
      rw [hrun] at hx
      cases exit with
      | err e => exact hx
      | panicked => exact hx
      | ok a =>
          have hy := hf a env state
          rw [Execution.andThen_ok]
          cases hnext : env.exec (f a) state with
          | mk exit' state' calls' =>
              rw [hnext] at hy
              cases exit' with
              | ok b => exact ⟨quiet_append.2 ⟨hx.1, hy.1⟩, sound_append.2 ⟨hx.2, hy.2⟩⟩
              | err e =>
                  refine ⟨?_, sound_append.2 ⟨hx.2, hy.2⟩⟩
                  rw [sent_append]
                  exact hy.1.append hx.1
              | panicked =>
                  exact ⟨quiet_append.2 ⟨hx.1, hy.1⟩, fun h => hy.2 (sound_append.1 h).2⟩

theorem Reporting.foldlM {f : β → α → Service SseEvent Prompt ε β} (hf : ∀ b a, Reporting (f b a))
    (xs : List α) (b : β) : Reporting (xs.foldlM f b) := by
  induction xs generalizing b with
  | nil => exact Reporting.done b
  | cons x xs ih =>
      rw [List.foldlM_cons]
      exact (hf b x).bind ih

theorem Behaved.reporting_attempt {agent : AgentType} {p : Service SseEvent Prompt ε α}
    (hp : Behaved agent p) :
    Reporting (p.attempt : Service SseEvent Prompt String (Except ε α)) := by
  intro env w
  have hquiet : Quiet (env.exec p w).calls := by
    intro e he
    obtain ⟨c, hc, hce⟩ := List.mem_filterMap.1 he
    have hc := hp.calls_allowed env.handler w c hc
    rcases c with ⟨o, r⟩
    cases o <;> simp only [reduceCtorEq, Option.some.injEq] at hce
    subst hce
    exact isFinal_of_stepOf hc
  have hpanic := hp.panicked_iff env.handler w
  rw [← Env.exec] at hpanic
  rw [exec_attempt]
  cases hrun : env.exec p w with
  | mk exit state calls =>
      rw [hrun] at hquiet hpanic
      have hsound : exit ≠ .panicked → Sound calls :=
        fun hne c hc hbad => hne (hpanic.2 ⟨c, hc, hbad⟩)
      cases exit with
      | ok a => exact ⟨hquiet, hsound (by simp)⟩
      | err e => exact ⟨hquiet, hsound (by simp)⟩
      | panicked =>
          obtain ⟨c, hc, hbad⟩ := hpanic.1 rfl
          exact ⟨hquiet, fun h => h c hc hbad⟩

variable (codec : Codec) (tables : DomainArchitectStep.CharTables)

theorem reporting_runAgent (acc : AgentContext × DomainStatistics) (agent : AgentType × Nat) :
    Reporting (runAgent codec tables acc agent) := by
  refine (Reporting.send rfl).bind fun _ => ?_
  refine (behaved_executeAgent codec tables agent.1 acc.1).reporting_attempt.bind fun result => ?_
  cases result with
  | ok context => exact (Reporting.send rfl).bind fun _ => Reporting.done _
  | error failure =>
      intro env w
      refine ⟨⟨[.agentFailed agent.1 failure.1], failure.1, some agent.1,
        some failure.2.domainGraph, rfl, by simp [SseEvent.isFinal]⟩, ?_⟩
      exact sound_append.2 ⟨sound_send _ _, sound_send _ _⟩

theorem reporting_runAgents (context : AgentContext) : Reporting (runAgents codec tables context) :=
  Reporting.foldlM (reporting_runAgent codec tables) _ _

theorem EndsFailed.finalOnce {events : List SseEvent} (h : EndsFailed events) (error : String) :
    FinalOnce events (.err error) := by
  obtain ⟨body, e, agent, registry, rfl, hbody⟩ := h
  exact ⟨body, _, rfl, hbody, rfl, by simp, by simp⟩

theorem not_finalOnce_of_quiet {events : List SseEvent} {exit : Exit String DomainGenerationResult}
    (h : ∀ e ∈ events, e.isFinal = false) : ¬ FinalOnce events exit := by
  rintro ⟨body, last, rfl, -, hlast, -⟩
  rw [h last (by simp)] at hlast
  cases hlast

theorem exec_finishWorkflow (env : Env) (w : World) (domainName : String)
    (acc : AgentContext × DomainStatistics) : ∃ stats result,
    env.exec (finishWorkflow domainName acc) w =
      ⟨.ok result, w.tick, [⟨.send (.completed domainName stats), ()⟩]⟩ :=
  ⟨_, _, rfl⟩

theorem runWorkflow_eq (domainName : String) (description : Option String) :
    ∃ agents : Step (AgentContext × DomainStatistics), Reporting agents ∧
      runWorkflow codec tables domainName description = agents >>= finishWorkflow domainName := by
  let agents : Step (AgentContext × DomainStatistics) :=
    send (.started domainName 7) >>= fun _ =>
      runAgents codec tables ⟨domainName, description, none, {}⟩
  refine ⟨agents, (Reporting.send rfl).bind fun _ => reporting_runAgents codec tables _, ?_⟩
  rw [bind_assoc]
  rfl

/-- Past the existence check the event protocol is kept unless a reply breaks a parser. -/
theorem runWorkflow_finalOnce (env : Env) (w : World) (domainName : String)
    (description : Option String) :
    FinalOnce (sent (env.exec (runWorkflow codec tables domainName description) w).calls)
        (env.exec (runWorkflow codec tables domainName description) w).exit ↔
      Sound (env.exec (runWorkflow codec tables domainName description) w).calls := by
  obtain ⟨agents, hreporting, hsplit⟩ := runWorkflow_eq codec tables domainName description
  have hx : Reports (env.exec agents w) := hreporting env w
  rw [hsplit, exec_bind]
  cases hrun : env.exec agents w with
  | mk exit state calls =>
      rw [hrun] at hx
      cases exit with
      | ok acc =>
          obtain ⟨stats, result, hfinish⟩ := exec_finishWorkflow env state domainName acc
          rw [Execution.andThen_ok, hfinish, sent_append]
          refine iff_of_true ⟨sent calls, _, rfl, hx.1, rfl, ?_, ?_⟩ ?_
          · exact iff_of_true ⟨_, _, rfl⟩ ⟨_, rfl⟩
          · exact iff_of_false (by simp) (by simp)
          · exact sound_append.2 ⟨hx.2, sound_send _ _⟩
      | err e => exact iff_of_true (hx.1.finalOnce e) hx.2
      | panicked => exact iff_of_false (not_finalOnce_of_quiet hx.1) hx.2

/-- The existence check finds no domain that is similar enough. -/
def PassesCheck (env : Env) (clock : Nat) : Prop :=
  ∃ vector rows, env.embedding clock = .ok vector ∧ env.similar (clock + 1) = .ok rows ∧
    ∀ row, rows.head? = some row → row.score.getD 0 < DOMAIN_SIMILARITY_THRESHOLD

theorem existingDomain_eq_none (rows : List SimilarRow) :
    existingDomain (rows.map SimilarNodeResult.ofRow) = none ↔
      ∀ row, rows.head? = some row → row.score.getD 0 < DOMAIN_SIMILARITY_THRESHOLD := by
  cases rows with
  | nil => simp [existingDomain]
  | cons row rows => simp [existingDomain, SimilarNodeResult.ofRow]

theorem exec_similarTo (env : Env) (w : World) (label : String) (limit : Int) (text : String) :
    env.exec (similarTo label limit text) w =
      match env.embedding w.clock with
      | .error e => ⟨.err ("Similarity search failed: " ++ e), w.tick,
          [⟨.embed text, .error e⟩]⟩
      | .ok vector =>
          match env.similar (w.clock + 1) with
          | .error e => ⟨.err ("Similarity search failed: " ++ e), w.tick.tick,
              [⟨.embed text, .ok vector⟩,
                ⟨.queryNodes (some label) limit (.embedding vector), .error e⟩]⟩
          | .ok rows => ⟨.ok (rows.map SimilarNodeResult.ofRow), w.tick.tick,
              [⟨.embed text, .ok vector⟩,
                ⟨.queryNodes (some label) limit (.embedding vector), .ok rows⟩]⟩ := by
  simp only [similarTo, findSimilarNodes, executeSimilarityQuery, exec_mapErr, exec_bind,
    exec_generateEmbedding, Execution.andThen_ok]
  cases he : env.embedding w.clock with
  | error e => simp [Exit.mapErr]
  | ok vector =>
      cases hs : env.similar (w.clock + 1) with
      | error e => simp [hs, exec_bind, Exit.mapErr]
      | ok rows => simp [hs, exec_bind, Exit.mapErr]

theorem exec_checkDomainExists (env : Env) (w : World) (domainName : String) :
    let x := env.exec (checkDomainExists domainName) w
    sent x.calls = [] ∧ Sound x.calls ∧
      ((PassesCheck env w.clock ∧ x.exit = .ok none) ∨
        (¬ PassesCheck env w.clock ∧
          ((∃ name, x.exit = .ok (some name)) ∨ ∃ error, x.exit = .err error))) := by
  simp only [checkDomainExists, exec_bind, exec_similarTo]
  cases he : env.embedding w.clock with
  | error e => simp [PassesCheck, he, sent, Sound, badReply]
  | ok vector =>
      cases hs : env.similar (w.clock + 1) with
      | error e => simp [PassesCheck, he, hs, sent, Sound, badReply]
      | ok rows =>
          refine ⟨rfl, by simp [Sound, badReply], ?_⟩
          cases hd : existingDomain (rows.map SimilarNodeResult.ofRow) with
          | none =>
              refine Or.inl ⟨⟨vector, rows, he, hs, (existingDomain_eq_none rows).1 hd⟩, ?_⟩
              simp [hd]
          | some name =>
              refine Or.inr ⟨?_, Or.inl ⟨name, by simp [hd]⟩⟩
              rintro ⟨vector', rows', -, hs', hlow⟩
              rw [hs, Except.ok.injEq] at hs'
              rw [← hs', ← existingDomain_eq_none, hd] at hlow
              cases hlow

/-- The event protocol of a generation: it is kept exactly if the existence
check succeeds without a hit and no reply makes its parser slice out of range. -/
theorem generateDomain_finalOnce (env : Env) (w : World) (domainName : String)
    (description : Option String) :
    FinalOnce (sent (env.exec (generateDomain codec tables domainName description) w).calls)
        (env.exec (generateDomain codec tables domainName description) w).exit ↔
      PassesCheck env w.clock ∧
        ∀ c ∈ (env.exec (generateDomain codec tables domainName description) w).calls,
          ¬ badReply c.1 c.2 := by
  obtain ⟨hsent, hsound, hcheck⟩ := exec_checkDomainExists env w domainName
  rw [generateDomain, exec_bind]
  cases hx : env.exec (checkDomainExists domainName) w with
  | mk exit state calls =>
      rw [hx] at hsent hsound hcheck
      simp only at hsent hsound hcheck
      rcases hcheck with ⟨hpass, rfl⟩ | ⟨hpass, ⟨name, rfl⟩ | ⟨error, rfl⟩⟩
      · have h := runWorkflow_finalOnce codec tables env state domainName description
        rw [Execution.andThen_ok, sent_append, hsent, List.nil_append, h]
        exact ⟨fun hw => ⟨hpass, sound_append.2 ⟨hsound, hw⟩⟩, fun hw => (sound_append.1 hw.2).2⟩
      · refine iff_of_false (not_finalOnce_of_quiet ?_) (fun h => hpass h.1)
        simp [hsent, exec_bind, SseEvent.isFinal]
      · refine iff_of_false (not_finalOnce_of_quiet ?_) (fun h => hpass h.1)
        simp [hsent]

def chessExists : Env :=
  { Env.calm with similar := fun _ => .ok [⟨some "Chess", none, some "4:1", some 1⟩] }

theorem generateDomain_existing_not_finalOnce :
    ¬ ∀ (codec : Codec) (tables : DomainArchitectStep.CharTables) (env : Env) (w : World)
      (domainName : String) (description : Option String),
      FinalOnce (sent (env.exec (generateDomain codec tables domainName description) w).calls)
        (env.exec (generateDomain codec tables domainName description) w).exit := by
  intro h
  have hrun := h ⟨fun _ => .error "", fun _ => .error "", fun _ => ""⟩ ⟨id, fun _ => true⟩ chessExists
    (World.start emptyGraph) "Chess" none
  refine not_finalOnce_of_quiet (fun e he => ?_) hrun
  have hsent : sent (chessExists.exec (generateDomain
      ⟨fun _ => .error "", fun _ => .error "", fun _ => ""⟩ ⟨id, fun _ => true⟩ "Chess" none)
        (World.start emptyGraph)).calls = [.domainExists "Chess" "Chess"] := by
    decide +kernel
  rw [hsent, List.mem_singleton] at he
  rw [he]
  rfl

end AtlasOfUs.Agent
