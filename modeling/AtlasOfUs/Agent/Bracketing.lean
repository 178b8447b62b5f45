import AtlasOfUs.Agent.Emissions
import AtlasOfUs.Agent.Record

namespace AtlasOfUs.Agent

open Library

/-- How far a stream of events has come, and how many of the announced agents
have been started by then. -/
inductive Phase
  | opening
  | between (number total : Nat)
  | inside (agent : AgentType) (number total : Nat)
  | failing (number total : Nat)
  | closed (number total : Nat)
  deriving DecidableEq

instance (agent : AgentType) (e : SseEvent) : Decidable (e.stepOf agent) :=
  match e with
  | .stepProgress a _ | .similarityCheck a _ _ _ | .verificationResult a _ _ _
  | .nodeCreated a _ _ _ => inferInstanceAs (Decidable (a = agent))
  | .started .. | .domainExists .. | .agentStarted .. | .agentCompleted .. | .agentFailed ..
  | .completed .. | .failed .. => inferInstanceAs (Decidable False)

namespace Phase

/-- Agents start in order, up to the announced total, and one at a time: the
events between belong to the agent at work, which completes or fails before
the next one starts. Nothing but the final event follows a failure, and the
stream completes when all agents have. -/
def next : Phase → SseEvent → Option Phase
  | .opening, .started _ total => some (.between 0 total)
  | .between number total, .agentStarted agent started _ =>
      if started = number + 1 ∧ started ≤ total then some (.inside agent started total) else none
  | .between number total, .completed .. =>
      if number = total then some (.closed number total) else none
  | .inside agent number total, .agentCompleted a _ _ =>
      if a = agent then some (.between number total) else none
  | .inside agent number total, .agentFailed a _ =>
      if a = agent then some (.failing number total) else none
  | .inside agent number total, e =>
      if e.stepOf agent then some (.inside agent number total) else none
  | .failing number total, .failed .. => some (.closed number total)
  | _, _ => none

def after (events : List SseEvent) : Option Phase := events.foldlM next .opening

def number : Phase → Nat
  | .opening => 0
  | .between number _ | .inside _ number _ | .failing number _ | .closed number _ => number

end Phase

def startedNumbers (events : List SseEvent) : List Nat :=
  events.filterMap (fun e => match e with
    | .agentStarted _ number _ => some number
    | _ => none)

namespace Phase

variable {events : List SseEvent} {e : SseEvent} {p q : Phase}

theorem after_snoc (h : after events = some p) (hnext : p.next e = some q) :
    after (events ++ [e]) = some q := by
  rw [after] at h ⊢
  rw [List.foldlM_append, h]
  simp [hnext]

theorem exists_of_after_snoc (h : after (events ++ [e]) = some q) :
    ∃ p, after events = some p ∧ p.next e = some q := by
  rw [after, List.foldlM_append] at h
  obtain ⟨p, hp, hnext⟩ := Option.bind_eq_some_iff.1 h
  exact ⟨p, hp, by simpa using hnext⟩

theorem next_step {agent : AgentType} {number total : Nat} (h : e.stepOf agent) :
    (Phase.inside agent number total).next e = some (.inside agent number total) := by
  cases e with
  | stepProgress a m | similarityCheck a c n s | verificationResult a c d g | nodeCreated a n l r =>
      exact if_pos h
  | _ => exact h.elim

theorem next_number (h : p.next e = some q) :
    startedNumbers [e] = List.range' (1 + p.number) (q.number - p.number) ∧
      p.number ≤ q.number := by
  cases p with
  | opening =>
      cases e with
      | started name total =>
          obtain rfl := Option.some.inj h
          exact ⟨rfl, Nat.le_refl 0⟩
      | _ => cases h
  | between number total =>
      cases e with
      | agentStarted agent started name =>
          obtain ⟨⟨rfl, -⟩, h⟩ := Option.ite_none_right_eq_some.1 h
          obtain rfl := Option.some.inj h
          have hone : number + 1 - number = 1 := by omega
          simp [startedNumbers, Phase.number, hone, Nat.add_comm]
      | completed name stats =>
          obtain ⟨-, h⟩ := Option.ite_none_right_eq_some.1 h
          obtain rfl := Option.some.inj h
          simp [startedNumbers, Phase.number]
      | _ => cases h
  | inside agent number total =>
      cases e with
      | agentCompleted a _ _ | agentFailed a _ | stepProgress a _ | similarityCheck a _ _ _
      | verificationResult a _ _ _ | nodeCreated a _ _ _ =>
          obtain ⟨-, h⟩ := Option.ite_none_right_eq_some.1 h
          obtain rfl := Option.some.inj h
          simp [startedNumbers, Phase.number]
      | _ => cases h
  | failing number total =>
      cases e with
      | failed error agent registry =>
          obtain rfl := Option.some.inj h
          simp [startedNumbers, Phase.number]
      | _ => cases h
  | closed number total => cases e <;> cases h

theorem startedNumbers_of_after (h : after events = some p) :
    startedNumbers events = List.range' 1 p.number := by
  induction events using List.reverseRecOn generalizing p with
  | nil =>
      obtain rfl := Option.some.inj h
      rfl
  | append_singleton events e ih =>
      obtain ⟨q, hq, hnext⟩ := exists_of_after_snoc h
      obtain ⟨hstarted, hle⟩ := next_number hnext
      have happend : startedNumbers (events ++ [e]) = startedNumbers events ++ startedNumbers [e] :=
        List.filterMap_append
      rw [happend, ih hq, hstarted, List.range'_append_1]
      congr 1
      omega

end Phase

def InPhase (p : Phase) (s : Recorded) : Prop := Phase.after (sent s.2) = some p

section Workflow

variable {env : Env} {p q : Phase} {ε α : Type} {E : ε → Recorded → Prop}

theorem inPhase_send {e : SseEvent} (h : p.next e = some q) (s : Recorded) (hs : InPhase p s) :
    InPhase q (s.note e) := by
  rw [InPhase, s.sent_note]
  exact Phase.after_snoc hs h

theorem inPhase_behaved {agent : AgentType} {number total : Nat} {p : Service SseEvent Prompt ε α}
    (hp : Behaved agent p) :
    Triple (recorder env) (InPhase (.inside agent number total)) p
      (fun _ => InPhase (.inside agent number total))
      (fun _ => InPhase (.inside agent number total)) := by
  refine hp.toCalls.triple fun o s ho hs => ?_
  cases o with
  | send e => exact inPhase_send (Phase.next_step ho) s hs
  | _ => exact (congrArg Phase.after (s.sent_unsent (by simp) _)).trans hs

variable (codec : Codec) (tables : DomainArchitectStep.CharTables)

theorem inPhase_runAgent (acc : AgentContext × DomainStatistics) (agent : AgentType) {k total : Nat}
    (hk : k < total) :
    Triple (recorder env) (InPhase (.between k total)) (runAgent codec tables acc (agent, k))
      (fun _ => InPhase (.between (k + 1) total))
      (fun _ s => ∃ number ≤ total, InPhase (.closed number total) s) := by
  rw [runAgent_eq]
  refine record_send_bind (inPhase_send (if_pos ⟨rfl, hk⟩)) ?_
  refine (Triple.attempt (R := fun _ => InPhase (.inside agent (k + 1) total))
    (inPhase_behaved (behaved_executeAgent codec tables agent acc.1))).bind fun result => ?_
  cases result with
  | ok context =>
      exact record_send_bind (inPhase_send (if_pos rfl)) (Triple.done fun _ h => h)
  | error failure =>
      refine record_send_bind (inPhase_send (if_pos rfl)) ?_
      refine record_send_bind (inPhase_send rfl) (Triple.fail fun _ h => ?_)
      exact ⟨k + 1, hk, h⟩

theorem inPhase_runAgents (context : AgentContext) :
    Triple (recorder env) (InPhase (.between 0 7)) (runAgents codec tables context)
      (fun _ => InPhase (.between 7 7))
      (fun _ s => ∃ number ≤ 7, InPhase (.closed number 7) s) := by
  let Inv := fun (_ : AgentContext × DomainStatistics) (rest : List (AgentType × Nat)) s =>
    ∃ done, allAgents.zipIdx = done ++ rest ∧ InPhase (.between done.length 7) s
  refine Triple.conseq (Triple.foldlM Inv (fun acc x xs => ?_) _ _)
    (fun s hs => ⟨[], rfl, hs⟩) (fun _ s hs => ?_) (fun _ _ h => h)
  · refine Triple.conseq (P := fun s => x.2 < 7 ∧ (∃ done, allAgents.zipIdx = done ++ x :: xs ∧
      done.length = x.2) ∧ InPhase (.between x.2 7) s) ?_ ?_ (fun _ _ h => h) (fun _ _ h => h)
    · refine Triple.of_pre (fun _ h => h.1) fun hlt => ?_
      refine Triple.of_pre (fun _ h => h.2.1) fun ⟨done, hall, hlength⟩ => ?_
      refine (inPhase_runAgent codec tables acc x.1 hlt).conseq (fun _ h => h.2.2)
        (fun _ s hs => ⟨done ++ [x], by simp [hall], ?_⟩) (fun _ _ h => h)
      rwa [List.length_append, List.length_singleton, hlength]
    · rintro s ⟨done, hall, hs⟩
      have hx : allAgents.zipIdx[done.length]? = some x := by simp [hall]
      have hindex : done.length = x.2 := by
        rw [List.getElem?_zipIdx] at hx
        obtain ⟨agent, -, rfl⟩ := Option.map_eq_some_iff.1 hx
        exact (Nat.zero_add _).symm
      have hlt : done.length < 7 := by
        have hlength := congrArg List.length hall
        rw [List.length_append, List.length_cons] at hlength
        change 7 = _ at hlength
        omega
      exact ⟨hindex ▸ hlt, ⟨done, hall, hindex⟩, hindex ▸ hs⟩
  · obtain ⟨done, hall, hs⟩ := hs
    rw [List.append_nil] at hall
    rwa [← hall] at hs

theorem inPhase_runWorkflow (domainName : String) (description : Option String) :
    Triple (recorder env) (InPhase .opening) (runWorkflow codec tables domainName description)
      (fun _ => InPhase (.closed 7 7))
      (fun _ s => ∃ number ≤ 7, InPhase (.closed number 7) s) := by
  refine record_send_bind (inPhase_send rfl) ?_
  refine (inPhase_runAgents codec tables _).bind fun acc => ?_
  exact record_send_bind (inPhase_send rfl) (Triple.done fun _ h => h)

end Workflow

variable (codec : Codec) (tables : DomainArchitectStep.CharTables)

/-- The events of a run bracket the agents: the run ends where the protocol
closes, with the agents numbered in order, all seven of them if it succeeds. -/
theorem generateDomain_bracketed (env : Env) (w : World) (domainName : String)
    (description : Option String) (hcheck : PassesCheck env w.clock)
    (hpanic : (env.exec (generateDomain codec tables domainName description) w).exit ≠ .panicked) :
    ∃ number ≤ 7,
      Phase.after (sent (env.exec (generateDomain codec tables domainName description) w).calls) =
        some (.closed number 7) ∧
      startedNumbers (sent (env.exec (generateDomain codec tables domainName description) w).calls) =
        List.range' 1 number ∧
      ((∃ result, (env.exec (generateDomain codec tables domainName description) w).exit =
        .ok result) → number = 7) := by
  obtain ⟨vector, rows, hexit, -, hcalls⟩ :=
    exec_generateDomain_passes codec tables hcheck domainName description
  have hrun : Triple (recorder env) (InPhase .opening)
      (runWorkflow codec tables domainName description) (fun _ => InPhase (.closed 7 7))
      (fun _ s => ∃ number ≤ 7, InPhase (.closed number 7) s) :=
    inPhase_runWorkflow codec tables domainName description
  rw [hexit] at hpanic ⊢
  rw [hcalls, sent_checkCalls]
  cases hend : (env.exec (runWorkflow codec tables domainName description) w.tick.tick).exit with
  | ok result =>
      have hphase := hrun.recorded_value rfl hend
      exact ⟨7, Nat.le_refl 7, hphase, Phase.startedNumbers_of_after hphase, fun _ => rfl⟩
  | err e =>
      obtain ⟨number, hle, hphase⟩ := hrun.recorded_error rfl hend
      refine ⟨number, hle, hphase, Phase.startedNumbers_of_after hphase, ?_⟩
      rintro ⟨result, hok⟩
      cases hok
  | panicked => exact absurd hend hpanic

theorem bracketed_chess : ∃ number ≤ 7,
    Phase.after (sent (bracketed.exec (generateDomain (replying ["Openings"] noLinks) plainTables
      "Chess" none) (World.start emptyGraph)).calls) = some (.closed number 7) ∧
    startedNumbers (sent (bracketed.exec (generateDomain (replying ["Openings"] noLinks) plainTables
      "Chess" none) (World.start emptyGraph)).calls) = List.range' 1 number ∧
    ((∃ result, (bracketed.exec (generateDomain (replying ["Openings"] noLinks) plainTables
      "Chess" none) (World.start emptyGraph)).exit = .ok result) → number = 7) := by
  refine generateDomain_bracketed _ _ bracketed (World.start emptyGraph) "Chess" none
    (bracketed_passes 0) ?_
  obtain ⟨result, hok⟩ : ∃ result, (bracketed.exec (generateDomain (replying ["Openings"] noLinks)
    plainTables "Chess" none) (World.start emptyGraph)).exit = .ok result := ⟨_, rfl⟩
  rw [hok]
  simp

end AtlasOfUs.Agent
