import AtlasOfUs.Agent.Emissions
import AtlasOfUs.Agent.Record

namespace AtlasOfUs.Agent

open Library

variable {ε α β : Type}

def SseEvent.endsAgent : SseEvent → Bool
  | .agentCompleted .. => true
  | _ => false

def agentsEnded (events : List SseEvent) : Nat := events.countP SseEvent.endsAgent

@[simp] theorem agentsEnded_append (xs ys : List SseEvent) :
    agentsEnded (xs ++ ys) = agentsEnded xs + agentsEnded ys :=
  List.countP_append

section Parts

structure Failure (n : Nat) (error : String) (calls : List AgentCall) : Prop where
  report : ∃ before agent registry, calls = before ++ [⟨.send (.failed error agent registry), ()⟩] ∧
    Quiet before
  few : agentsEnded (sent calls) < n

/-- What the calls of a part of the workflow say about it, where `n` agents complete in it. -/
structure Verdict (n : Nat) (x : Execution (services SseEvent Prompt) String α World) : Prop where
  value : ∀ a, x.exit = .ok a → Quiet x.calls ∧ agentsEnded (sent x.calls) = n
  error : ∀ e, x.exit = .err e → Failure n e x.calls
  panic : x.exit = .panicked → Quiet x.calls

def Telling (n : Nat) (p : Service SseEvent Prompt String α) : Prop :=
  ∀ (env : Env) (w : World), Verdict n (env.exec p w)

theorem Failure.after {m n : Nat} {error : String} {before calls : List AgentCall}
    (hquiet : Quiet before) (hcount : agentsEnded (sent before) = m) (h : Failure n error calls) :
    Failure (m + n) error (before ++ calls) where
  report := by
    obtain ⟨body, agent, registry, rfl, hbody⟩ := h.report
    exact ⟨before ++ body, agent, registry, (List.append_assoc _ _ _).symm,
      quiet_append.2 ⟨hquiet, hbody⟩⟩
  few := by
    rw [sent_append, agentsEnded_append, hcount]
    exact Nat.add_lt_add_left h.few m

theorem Telling.done (a : α) : Telling 0 (Proc.done a : Service SseEvent Prompt String α) := by
  intro env w
  refine ⟨fun _ _ => ⟨?_, rfl⟩, fun e he => ?_, fun hp => ?_⟩
  · exact fun e he => absurd he List.not_mem_nil
  · cases he
  · cases hp

theorem Telling.send {e : SseEvent} {n : Nat} (he : e.isFinal = false) (hn : agentsEnded [e] = n) :
    Telling n (send e : Service SseEvent Prompt String Unit) := by
  intro env w
  refine ⟨fun _ _ => ⟨quiet_send () he, hn⟩, fun e he => ?_, fun hp => ?_⟩
  · cases he
  · cases hp

theorem Telling.bind {m n : Nat} {p : Service SseEvent Prompt String α}
    {f : α → Service SseEvent Prompt String β} (hp : Telling m p) (hf : ∀ a, Telling n (f a)) :
    Telling (m + n) (p >>= f) := by
  intro env w
  have hx := hp env w
  rw [exec_bind]
  cases hexit : (env.exec p w).exit with
  | ok a =>
      obtain ⟨hquiet, hcount⟩ := hx.value a hexit
      have hy := hf a env (env.exec p w).state
      refine ⟨fun b hb => ?_, fun e he => ?_, fun hpanic => ?_⟩
      · rw [Execution.exit_andThen hexit] at hb
        obtain ⟨hquiet', hcount'⟩ := hy.value b hb
        rw [Execution.calls_andThen hexit, sent_append, agentsEnded_append, hcount, hcount']
        exact ⟨quiet_append.2 ⟨hquiet, hquiet'⟩, rfl⟩
      · rw [Execution.exit_andThen hexit] at he
        rw [Execution.calls_andThen hexit]
        exact (hy.error e he).after hquiet hcount
      · rw [Execution.exit_andThen hexit] at hpanic
        rw [Execution.calls_andThen hexit]
        exact quiet_append.2 ⟨hquiet, hy.panic hpanic⟩
  | err e =>
      refine ⟨fun b hb => ?_, fun e' he => ?_, fun hpanic => ?_⟩
      · rw [Execution.exit_andThen_err hexit] at hb
        cases hb
      · rw [Execution.exit_andThen_err hexit] at he
        obtain rfl := Exit.err.inj he
        rw [Execution.calls_andThen_err hexit]
        have herror := hx.error e hexit
        exact ⟨herror.report, Nat.lt_add_right n herror.few⟩
      · rw [Execution.exit_andThen_err hexit] at hpanic
        cases hpanic
  | panicked =>
      have hsame : (env.exec p w).andThen (fun a => env.exec (f a)) =
          ⟨.panicked, (env.exec p w).state, (env.exec p w).calls⟩ := by
        rw [Execution.andThen, hexit]
      rw [hsame]
      refine ⟨fun b hb => ?_, fun e he => ?_, fun _ => hx.panic hexit⟩
      · cases hb
      · cases he

theorem Telling.send_bind {n : Nat} {e : SseEvent} {f : Unit → Service SseEvent Prompt String α}
    (he : e.isFinal = false) (hn : agentsEnded [e] = 0) (hf : Telling n (f ())) :
    Telling n (AtlasOfUs.send e >>= f) :=
  (Nat.zero_add n) ▸ (Telling.send he hn).bind fun _ => hf

theorem Telling.foldlM {f : β → α → Service SseEvent Prompt String β}
    (hf : ∀ b a, Telling 1 (f b a)) (xs : List α) (b : β) : Telling xs.length (xs.foldlM f b) := by
  induction xs generalizing b with
  | nil => exact Telling.done b
  | cons x xs ih =>
      rw [List.foldlM_cons, List.length_cons, Nat.add_comm]
      exact (hf b x).bind ih

theorem Behaved.unspoken {agent : AgentType} {p : Service SseEvent Prompt ε α}
    (hp : Behaved agent p) (env : Env) (w : World) :
    Quiet (env.exec p w).calls ∧ agentsEnded (sent (env.exec p w).calls) = 0 := by
  have hstep : ∀ e ∈ sent (env.exec p w).calls, e.stepOf agent := by
    intro e he
    obtain ⟨c, hc, hce⟩ := List.mem_filterMap.1 he
    have hc := hp.calls_allowed env.handler w c hc
    rcases c with ⟨o, r⟩
    cases o <;> simp only [reduceCtorEq, Option.some.injEq] at hce
    subst hce
    exact hc
  refine ⟨fun e he => isFinal_of_stepOf (hstep e he), List.countP_eq_zero.2 fun e he => ?_⟩
  have he := hstep e he
  cases e with
  | agentCompleted a created reused => exact he.elim
  | _ => exact Bool.false_ne_true

theorem Behaved.telling_attempt {agent : AgentType} {p : Service SseEvent Prompt ε α}
    (hp : Behaved agent p) :
    Telling 0 (p.attempt : Service SseEvent Prompt String (Except ε α)) := by
  intro env w
  have hunspoken := hp.unspoken env w
  rw [exec_attempt]
  refine ⟨fun _ _ => hunspoken, fun e he => ?_, fun _ => hunspoken.1⟩
  cases hexit : (env.exec p w).exit <;> rw [hexit] at he <;> cases he

end Parts

section Workflow

variable (codec : Codec) (tables : DomainArchitectStep.CharTables)

theorem telling_runAgent (acc : AgentContext × DomainStatistics) (agent : AgentType × Nat) :
    Telling 1 (runAgent codec tables acc agent) := by
  rw [runAgent_eq]
  refine Telling.send_bind rfl rfl ?_
  refine (Nat.zero_add 1) ▸
    (behaved_executeAgent codec tables agent.1 acc.1).telling_attempt.bind fun result => ?_
  cases result with
  | ok context =>
      have hend : Telling 1 (send (.agentCompleted agent.1 (countAgentNodes agent.1 context).1
          (countAgentNodes agent.1 context).2)) := Telling.send rfl rfl
      exact hend.bind fun _ => Telling.done _
  | error failure =>
      intro env w
      refine ⟨fun a ha => ?_, fun e he => ?_, fun hpanic => ?_⟩
      · cases ha
      · obtain rfl := Exit.err.inj he
        exact ⟨⟨[⟨.send (.agentFailed agent.1 failure.1), ()⟩], _, _, rfl, quiet_send () rfl⟩,
          Nat.zero_lt_one⟩
      · cases hpanic

theorem telling_runAgents (context : AgentContext) : Telling 7 (runAgents codec tables context) :=
  Telling.foldlM (telling_runAgent codec tables) allAgents.zipIdx (context, {})

/-- How a run ends is what its last call says, but for a run that does not pass the check. -/
structure Concluded (passes : Prop)
    (x : Execution (services SseEvent Prompt) String DomainGenerationResult World) : Prop where
  value : ∀ result, x.exit = .ok result → ∃ before,
    x.calls = before ++ [⟨.send (.completed result.domainName result.statistics), ()⟩] ∧
      Quiet before ∧ agentsEnded (sent before) = 7
  error : ∀ e, x.exit = .err e → passes → Failure 7 e x.calls
  stopped : ¬ passes → (∃ e, x.exit = .err e) ∧ Quiet x.calls
  panic : x.exit = .panicked → Quiet x.calls

theorem Concluded.exists_last {passes : Prop}
    {x : Execution (services SseEvent Prompt) String DomainGenerationResult World}
    (hx : Concluded passes x)
    (hend : (∃ result, x.exit = .ok result) ∨ passes ∧ ∃ e, x.exit = .err e) :
    ∃ before last, x.calls = before ++ [⟨.send last, ()⟩] ∧ Quiet before := by
  rcases hend with ⟨result, hexit⟩ | ⟨hpasses, e, hexit⟩
  · obtain ⟨before, hcalls, hquiet, -⟩ := hx.value result hexit
    exact ⟨before, _, hcalls, hquiet⟩
  · obtain ⟨before, agent, registry, hcalls, hquiet⟩ := (hx.error e hexit hpasses).report
    exact ⟨before, _, hcalls, hquiet⟩

theorem concluded_runWorkflow (env : Env) (w : World) (domainName : String)
    (description : Option String) :
    Concluded True (env.exec (runWorkflow codec tables domainName description) w) := by
  have hagents : Telling 7 (send (.started domainName 7) >>= fun _ =>
      runAgents codec tables ⟨domainName, description, none, {}⟩) :=
    Telling.send_bind rfl rfl (telling_runAgents codec tables _)
  have hsplit : runWorkflow codec tables domainName description =
      (send (.started domainName 7) >>= fun _ =>
        runAgents codec tables ⟨domainName, description, none, {}⟩) >>= finishWorkflow domainName := by
    rw [bind_assoc]
    rfl
  have hx := hagents env w
  rw [hsplit, exec_bind]
  cases hrun : env.exec (send (.started domainName 7) >>= fun _ =>
      runAgents codec tables ⟨domainName, description, none, {}⟩) w with
  | mk exit state calls =>
      rw [hrun] at hx
      refine ⟨fun result hresult => ?_, fun e he _ => ?_, fun h => absurd trivial h, fun hpanic => ?_⟩
      · cases exit with
        | ok acc =>
            obtain ⟨hquiet, hcount⟩ := hx.value acc rfl
            obtain rfl := Exit.ok.inj hresult
            exact ⟨calls, rfl, hquiet, hcount⟩
        | err e | panicked => cases hresult
      · cases exit with
        | ok acc | panicked => cases he
        | err e' =>
            obtain rfl := Exit.err.inj he
            exact hx.error e' rfl
      · cases exit with
        | ok acc | err e => cases hpanic
        | panicked => exact hx.panic rfl

theorem concluded_generateDomain (env : Env) (w : World) (domainName : String)
    (description : Option String) :
    Concluded (PassesCheck env w.clock)
      (env.exec (generateDomain codec tables domainName description) w) := by
  by_cases hpasses : PassesCheck env w.clock
  · obtain ⟨vector, rows, hexit, -, hcalls⟩ :=
      exec_generateDomain_passes codec tables hpasses domainName description
    have hcheck : Quiet (checkCalls domainName vector rows) := fun e he => absurd he List.not_mem_nil
    have hx := concluded_runWorkflow codec tables env w.tick.tick domainName description
    refine ⟨fun result hresult => ?_, fun e he _ => ?_, fun h => absurd hpasses h, fun hpanic => ?_⟩
    · obtain ⟨before, hbefore, hquiet, hcount⟩ := hx.value result (hexit.symm.trans hresult)
      refine ⟨checkCalls domainName vector rows ++ before, ?_, quiet_append.2 ⟨hcheck, hquiet⟩, hcount⟩
      rw [hcalls, hbefore, List.append_assoc]
    · rw [hcalls, ← Nat.zero_add 7]
      exact (hx.error e (hexit.symm.trans he) trivial).after hcheck rfl
    · rw [hcalls]
      exact quiet_append.2 ⟨hcheck, hx.panic (hexit.symm.trans hpanic)⟩
  · obtain ⟨hsent, -, hend⟩ := exec_checkDomainExists env w domainName
    have hstopped : (∃ e, (env.exec (generateDomain codec tables domainName description) w).exit =
          .err e) ∧ Quiet (env.exec (generateDomain codec tables domainName description) w).calls := by
      rw [generateDomain, exec_bind]
      rcases hend with ⟨hpass, -⟩ | ⟨-, ⟨name, hexit⟩ | ⟨error, hexit⟩⟩
      · exact absurd hpass hpasses
      · rw [Execution.exit_andThen hexit, Execution.calls_andThen hexit]
        refine ⟨⟨_, rfl⟩, fun e he => ?_⟩
        rw [sent_append, hsent, List.nil_append] at he
        obtain rfl := List.mem_singleton.1 he
        rfl
      · rw [Execution.exit_andThen_err hexit, Execution.calls_andThen_err hexit]
        refine ⟨⟨error, rfl⟩, fun e he => ?_⟩
        rw [hsent] at he
        exact absurd he List.not_mem_nil
    obtain ⟨e, he⟩ := hstopped.1
    refine ⟨fun result hresult => ?_, fun _ _ h => absurd h hpasses, fun _ => hstopped, fun _ => hstopped.2⟩
    rw [he] at hresult
    cases hresult

end Workflow

end AtlasOfUs.Agent
