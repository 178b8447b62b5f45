import AtlasOfUs.Library.Machine
import AtlasOfUs.Library.Program

namespace AtlasOfUs.Library

variable {I J : Signature} {ε δ α β σ : Type}

namespace Proc

inductive Rest (p : Proc I ε α) : Proc I ε α → Prop
  | begun : Rest p p
  | reply {o : I.Op} {k : I.Reply o → Proc I ε α} (h : Rest p (.call o k)) (r : I.Reply o) :
      Rest p (k r)

def EndsBy (last : Call I → α → Prop) : Proc I ε α → Prop
  | .done _ => False
  | .fail _ | .panic => True
  | .call o k => ∀ r, (∃ a, k r = .done a ∧ last ⟨o, r⟩ a) ∨ EndsBy last (k r)

theorem EndsBy.bind {last : Call I → β → Prop} (p : Proc I ε α) {f : α → Proc I ε β}
    (hf : ∀ a, (f a).EndsBy last) : (p >>= f).EndsBy last := by
  induction p with
  | done a => exact hf a
  | fail e | panic => trivial
  | call o k ih => exact fun r => .inr (ih r)

theorem EndsBy.weaken {last last' : Call I → α → Prop} {p : Proc I ε α} (h : p.EndsBy last)
    (hsub : ∀ call a, last call a → last' call a) : p.EndsBy last' := by
  induction p with
  | done a => exact h
  | fail e | panic => trivial
  | call o k ih =>
      intro r
      rcases h r with ⟨a, ha, hlast⟩ | hrest
      · exact .inl ⟨a, ha, hsub _ a hlast⟩
      · exact .inr (ih r hrest)

end Proc

structure Pool (I : Signature) (ε α σ : Type) where
  programs : List (Proc I ε α)
  state : σ

namespace Pool

variable (h : Handler I σ)

/-- The `i`-th program makes its next call, which is atomic. One that has ended does nothing. -/
def step (i : Nat) (pool : Pool I ε α σ) : Pool I ε α σ :=
  match pool.programs[i]? with
  | some (.call o k) => ⟨pool.programs.set i (k (h o pool.state).1), (h o pool.state).2⟩
  | _ => pool

def before (schedule : List Nat) (pool : Pool I ε α σ) (k : Nat) : Pool I ε α σ :=
  stateAt (step h) schedule pool k

variable {h} {i j : Nat} {pool : Pool I ε α σ}

theorem step_call {o : I.Op} {k : I.Reply o → Proc I ε α}
    (hi : pool.programs[i]? = some (.call o k)) :
    pool.step h i = ⟨pool.programs.set i (k (h o pool.state).1), (h o pool.state).2⟩ := by
  rw [step, hi]

theorem step_cases (h : Handler I σ) (i : Nat) (pool : Pool I ε α σ) :
    pool.step h i = pool ∨ ∃ o k, pool.programs[i]? = some (.call o k) ∧
      pool.step h i = ⟨pool.programs.set i (k (h o pool.state).1), (h o pool.state).2⟩ := by
  cases hi : pool.programs[i]? with
  | none =>
      left
      rw [step, hi]
  | some p =>
      cases p with
      | call o k => exact .inr ⟨o, k, rfl, step_call hi⟩
      | done a | fail e | panic =>
          left
          rw [step, hi]

theorem programs_set_self {p q : Proc I ε α} (hi : pool.programs[i]? = some p) :
    (pool.programs.set i q)[i]? = some q := by
  obtain ⟨hlt, -⟩ := List.getElem?_eq_some_iff.1 hi
  rw [List.getElem?_set_self hlt]

theorem programs_set_ne {q : Proc I ε α} (hij : i ≠ j) :
    (pool.programs.set i q)[j]? = pool.programs[j]? :=
  List.getElem?_set_ne hij

section Ending

variable (h) in
/-- The value of the `i`-th program, if its next call is its last. -/
def ends (i : Nat) (pool : Pool I ε α σ) : Option α :=
  match pool.programs[i]? with
  | some (.call o k) =>
      match k (h o pool.state).1 with
      | .done a => some a
      | _ => none
  | _ => none

/-- Every program has ended or ends by a last call of its own kind. -/
def Ending (last : Nat → Call I → α → Prop) (pool : Pool I ε α σ) : Prop :=
  ∀ (i : Nat) (p : Proc I ε α), pool.programs[i]? = some p → (∃ a, p = .done a) ∨ p.EndsBy (last i)

variable {last : Nat → Call I → α → Prop} {a : α}

theorem ends_eq_some (hends : pool.ends h i = some a) :
    ∃ o k, pool.programs[i]? = some (.call o k) ∧ k (h o pool.state).1 = .done a := by
  rw [ends] at hends
  split at hends
  · rename_i o k hi
    refine ⟨o, k, hi, ?_⟩
    split at hends
    · rename_i b hb
      rw [hb, Option.some.inj hends]
    · cases hends
  · cases hends

theorem Ending.step (hpool : pool.Ending last) (i : Nat) : (pool.step h i).Ending last := by
  rcases step_cases h i pool with hstep | ⟨o, k, hi, hstep⟩
  · rwa [hstep]
  · rw [hstep]
    intro j p hj
    by_cases hij : i = j
    · subst hij
      obtain rfl := Option.some.inj ((programs_set_self hi).symm.trans hj)
      rcases hpool i _ hi with ⟨a, ha⟩ | hends
      · cases ha
      · rcases hends (h o pool.state).1 with ⟨a, ha, -⟩ | hrest
        · exact .inl ⟨a, ha⟩
        · exact .inr hrest
    · exact hpool j p ((programs_set_ne hij).symm.trans hj)

/-- Where a program ends, its last call is of its kind and leads to the next state. -/
theorem Ending.last_call (hpool : pool.Ending last) (hends : pool.ends h i = some a) :
    ∃ o, last i ⟨o, (h o pool.state).1⟩ a ∧ (pool.step h i).state = (h o pool.state).2 := by
  obtain ⟨o, k, hi, hdone⟩ := ends_eq_some hends
  refine ⟨o, ?_, by rw [step_call hi]⟩
  rcases hpool i _ hi with ⟨b, hb⟩ | hlast
  · cases hb
  · rcases hlast (h o pool.state).1 with ⟨b, hb, hlast⟩ | hrest
    · obtain rfl := Proc.done.inj (hdone.symm.trans hb)
      exact hlast
    · rw [hdone] at hrest
      exact hrest.elim

end Ending

end Pool

structure Pools (I J : Signature) (ε α δ β σ : Type) where
  left : List (Proc I ε α)
  right : List (Proc J δ β)
  state : σ

namespace Pools

variable (h : Handler I σ) (h' : Handler J σ)

def leftPool (pools : Pools I J ε α δ β σ) : Pool I ε α σ := ⟨pools.left, pools.state⟩

def rightPool (pools : Pools I J ε α δ β σ) : Pool J δ β σ := ⟨pools.right, pools.state⟩

def step (turn : Nat ⊕ Nat) (pools : Pools I J ε α δ β σ) : Pools I J ε α δ β σ :=
  match turn with
  | .inl i => ⟨(pools.leftPool.step h i).programs, pools.right, (pools.leftPool.step h i).state⟩
  | .inr i => ⟨pools.left, (pools.rightPool.step h' i).programs, (pools.rightPool.step h' i).state⟩

def before (schedule : List (Nat ⊕ Nat)) (pools : Pools I J ε α δ β σ) (k : Nat) :
    Pools I J ε α δ β σ :=
  stateAt (step h h') schedule pools k

variable {h h'} {pools : Pools I J ε α δ β σ} {schedule : List (Nat ⊕ Nat)} {k i : Nat}

theorem before_succ_left (hk : schedule[k]? = some (.inl i)) :
    (pools.before h h' schedule (k + 1)).state =
      ((pools.before h h' schedule k).leftPool.step h i).state := by
  rw [before, stateAt_succ _ hk]
  rfl

theorem ending_before {last : Nat → Call I → α → Prop} (hleft : pools.leftPool.Ending last)
    (schedule : List (Nat ⊕ Nat)) (k : Nat) :
    (pools.before h h' schedule k).leftPool.Ending last := by
  refine holds_along (C := fun _ _ => True) (P := fun (s : Pools I J ε α δ β σ) => s.leftPool.Ending last)
    (fun turn pools _ hpools => ?_) hleft (fun _ _ _ => trivial) k
  cases turn with
  | inl i => exact hpools.step i
  | inr i => exact hpools

end Pools

end AtlasOfUs.Library
