import AtlasOfUs.Library.Machine
import Mathlib.Tactic.SplitIfs

namespace AtlasOfUs.Library

variable {σ ε ρ α β : Type}

/-- A component that talks to a server: what an input does to its state, the request that it then
sends, and what it does with the response to a request. -/
structure Client (σ ε ρ α : Type) where
  handle : ε → σ → σ × Option ρ
  receive : ρ → α → σ → σ

/-- A client with its requests, numbered as they are sent, and the numbers of those answered. -/
structure Traffic (σ ρ : Type) where
  state : σ
  sent : List ρ
  answered : List Nat

inductive Happening (ε : Type)
  | input (e : ε)
  | arrival (k : Nat)
  deriving DecidableEq

namespace Traffic

variable (t : Traffic σ ρ)

/-- The `k`-th request is sent and its response has not arrived. -/
def Awaits (k : Nat) (r : ρ) : Prop := t.sent[k]? = some r ∧ k ∉ t.answered

def Answered : Prop := ∀ k r, ¬ t.Awaits k r

variable {t} in
theorem answered_of_forall_lt (h : ∀ k < t.sent.length, k ∈ t.answered) : t.Answered := by
  rintro k r ⟨hk, hnot⟩
  exact hnot (h k (List.getElem?_eq_some_iff.1 hk).1)

end Traffic

namespace Client

variable (client : Client σ ε ρ α) (respond : Nat → α)

def step : Happening ε → Traffic σ ρ → Traffic σ ρ
  | .input e, t =>
      ⟨(client.handle e t.state).1, t.sent ++ (client.handle e t.state).2.toList, t.answered⟩
  | .arrival k, t =>
      match t.sent[k]? with
      | some r =>
          if k ∈ t.answered then t
          else ⟨client.receive r (respond k) t.state, t.sent, k :: t.answered⟩
      | none => t

variable {client respond} {t : Traffic σ ρ} {k : Nat}

theorem step_arrival {r : ρ} (h : t.Awaits k r) :
    client.step respond (.arrival k) t =
      ⟨client.receive r (respond k) t.state, t.sent, k :: t.answered⟩ := by
  rw [step, h.1]
  exact if_neg h.2

theorem step_arrival_of_not (h : ∀ r, ¬ t.Awaits k r) :
    client.step respond (.arrival k) t = t := by
  rw [step]
  cases hk : t.sent[k]? with
  | none => rfl
  | some r =>
      by_cases hanswered : k ∈ t.answered
      · exact if_pos hanswered
      · exact absurd ⟨hk, hanswered⟩ (h r)

theorem arrival_cases (client : Client σ ε ρ α) (respond : Nat → α) (k : Nat) (t : Traffic σ ρ) :
    (∃ r, t.Awaits k r) ∨ client.step respond (.arrival k) t = t := by
  by_cases h : ∃ r, t.Awaits k r
  · exact .inl h
  · exact .inr (step_arrival_of_not (fun r hr => h ⟨r, hr⟩))

variable (client respond)

def run (happenings : List (Happening ε)) (t : Traffic σ ρ) : Traffic σ ρ :=
  happenings.foldl (fun t happening => client.step respond happening t) t

variable {client respond}

theorem run_keeps {P : Traffic σ ρ → Prop} {happenings : List (Happening ε)} (h0 : P t)
    (hstep : ∀ happening t, P t → P (client.step respond happening t)) :
    P (client.run respond happenings t) := by
  induction happenings generalizing t with
  | nil => exact h0
  | cons happening rest ih => exact ih (hstep happening t h0)

/-- Two runs of one client whose states agree on a part that decides its requests send the same,
whatever they are answered. -/
theorem run_agree {γ : Type} {part : σ → γ}
    (hhandle : ∀ e s s', part s = part s' →
      part (client.handle e s).1 = part (client.handle e s').1 ∧
        (client.handle e s).2 = (client.handle e s').2)
    (hreceive : ∀ r a s, part (client.receive r a s) = part s) (respond respond' : Nat → α)
    (happenings : List (Happening ε)) {t t' : Traffic σ ρ}
    (hpart : part t.state = part t'.state) (hsent : t.sent = t'.sent)
    (hanswered : t.answered = t'.answered) :
    part (client.run respond happenings t).state = part (client.run respond' happenings t').state ∧
      (client.run respond happenings t).sent = (client.run respond' happenings t').sent ∧
      (client.run respond happenings t).answered =
        (client.run respond' happenings t').answered := by
  induction happenings generalizing t t' with
  | nil => exact ⟨hpart, hsent, hanswered⟩
  | cons happening rest ih =>
      cases happening with
      | input e =>
          obtain ⟨hstate, hrequest⟩ := hhandle e t.state t'.state hpart
          have hnext : (client.step respond (.input e) t).sent = (client.step respond' (.input e) t').sent := by
            rw [step, step, hsent, hrequest]
          exact ih hstate hnext hanswered
      | arrival k =>
          by_cases h : ∃ r, t.Awaits k r
          · obtain ⟨r, hr⟩ := h
            have hr' : t'.Awaits k r := ⟨hsent ▸ hr.1, hanswered ▸ hr.2⟩
            rw [run, run, List.foldl_cons, List.foldl_cons, step_arrival hr, step_arrival hr']
            have hstate := (hreceive r (respond k) t.state).trans
              (hpart.trans (hreceive r (respond' k) t'.state).symm)
            exact ih hstate hsent (congrArg (k :: ·) hanswered)
          · have hnone : ∀ r, ¬ t.Awaits k r := fun r hr => h ⟨r, hr⟩
            have hnone' : ∀ r, ¬ t'.Awaits k r :=
              fun r hr => hnone r ⟨hsent ▸ hr.1, hanswered ▸ hr.2⟩
            rw [run, run, List.foldl_cons, List.foldl_cons, step_arrival_of_not hnone,
              step_arrival_of_not hnone']
            exact ih hpart hsent hanswered

end Client

end AtlasOfUs.Library
