import AtlasOfUs.Agent.Events
import AtlasOfUs.Library.Tally

namespace AtlasOfUs.Agent

open Library Similarity

abbrev Recorded := World × List AgentCall

abbrev recorder (env : Env) : Handler (services SseEvent Prompt) Recorded := recording env.handler

def Recorded.note (s : Recorded) (e : SseEvent) : Recorded := (s.1.tick, s.2 ++ [⟨.send e, ()⟩])

@[simp] theorem Recorded.sent_note (s : Recorded) (e : SseEvent) :
    sent (s.note e).2 = sent s.2 ++ [e] :=
  sent_append s.2 [⟨.send e, ()⟩]

theorem Recorded.sent_unsent (s : Recorded) {o : Op SseEvent Prompt} (h : ∀ e, o ≠ .send e)
    (r : o.Reply) : sent (s.2 ++ [(⟨o, r⟩ : AgentCall)]) = sent s.2 := by
  cases o with
  | send e => exact absurd rfl (h e)
  | _ => exact (sent_append s.2 [_]).trans (List.append_nil _)

section Rules

variable {env : Env} {P Q : Recorded → Prop} {ε α : Type} {E : ε → Recorded → Prop}

theorem record_send {e : SseEvent} (h : ∀ s : Recorded, P s → Q (s.note e)) :
    Triple (recorder env) P (send e : Service SseEvent Prompt ε Unit) (fun _ => Q) E :=
  Triple.perform h

theorem record_send_bind {e : SseEvent} {f : Unit → Service SseEvent Prompt ε α}
    {R : α → Recorded → Prop} (h : ∀ s : Recorded, P s → Q (s.note e))
    (hf : Triple (recorder env) Q (f ()) R E) :
    Triple (recorder env) P (send e >>= f) R E :=
  (record_send h).bind fun _ => hf

end Rules

theorem exec_checkDomainExists_passes {env : Env} {w : World} (h : PassesCheck env w.clock)
    (domainName : String) : ∃ vector rows, env.exec (checkDomainExists domainName) w =
      ⟨.ok none, w.tick.tick, [⟨.embed domainName, .ok vector⟩,
        ⟨.queryNodes (some "Domain") 1 (.embedding vector), .ok rows⟩]⟩ := by
  obtain ⟨vector, rows, hv, hrows, hlow⟩ := h
  refine ⟨vector, rows, ?_⟩
  rw [checkDomainExists, exec_bind, exec_similarTo, hv]
  simp only [hrows, Execution.andThen_ok]
  rw [(existingDomain_eq_none rows).2 hlow]
  rfl

variable (codec : Codec) (tables : DomainArchitectStep.CharTables)

def checkCalls (domainName : String) (vector : Embedding) (rows : List SimilarRow) :
    List AgentCall :=
  [⟨.embed domainName, .ok vector⟩,
    ⟨.queryNodes (some "Domain") 1 (.embedding vector), .ok rows⟩]

theorem sent_checkCalls (domainName : String) (vector : Embedding) (rows : List SimilarRow)
    (calls : List AgentCall) : sent (checkCalls domainName vector rows ++ calls) = sent calls := rfl

theorem exec_generateDomain_passes {env : Env} {w : World} (h : PassesCheck env w.clock)
    (domainName : String) (description : Option String) : ∃ vector rows,
      (env.exec (generateDomain codec tables domainName description) w).exit =
          (env.exec (runWorkflow codec tables domainName description) w.tick.tick).exit ∧
        (env.exec (generateDomain codec tables domainName description) w).state =
          (env.exec (runWorkflow codec tables domainName description) w.tick.tick).state ∧
        (env.exec (generateDomain codec tables domainName description) w).calls =
          checkCalls domainName vector rows ++
            (env.exec (runWorkflow codec tables domainName description) w.tick.tick).calls := by
  obtain ⟨vector, rows, hcheck⟩ := exec_checkDomainExists_passes h domainName
  refine ⟨vector, rows, ?_⟩
  rw [generateDomain, exec_bind, hcheck, Execution.andThen_ok]
  simp only [checkCalls, and_self]

theorem passesCheck_of_ok {env : Env} {w : World} {domainName : String}
    {description : Option String} {result : DomainGenerationResult}
    (h : (env.exec (generateDomain codec tables domainName description) w).exit = .ok result) :
    PassesCheck env w.clock := by
  obtain ⟨-, -, hpass | ⟨-, ⟨name, hexit⟩ | ⟨error, hexit⟩⟩⟩ :=
    exec_checkDomainExists env w domainName
  · exact hpass.1
  · rw [generateDomain, exec_bind, Execution.exit_andThen hexit] at h
    simp only [exec_bind, exec_send, Execution.andThen_ok, exec_fail] at h
    cases h
  · rw [generateDomain, exec_bind, Execution.exit_andThen_err hexit] at h
    cases h

def replying (concepts : List String) (reply : Json) : Codec where
  value := fun _ => .ok reply
  strings := fun _ => .ok concepts
  float := fun _ => ""

/-- A calm world in which the language model always replies in brackets. -/
def bracketed : Env := { Env.calm with llm := fun _ => .ok "[\x7b\x7d]" }

def plainTables : DomainArchitectStep.CharTables := ⟨id, fun _ => true⟩

def noLinks : Json := .object [("level_assignments", .array []), ("prerequisites", .array [])]

theorem bracketed_passes (clock : Nat) : PassesCheck bracketed clock :=
  ⟨[], [], rfl, rfl, fun row h => by cases h⟩

end AtlasOfUs.Agent
