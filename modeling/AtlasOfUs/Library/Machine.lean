import Mathlib.Data.List.Basic

namespace AtlasOfUs.Library

variable {σ ι : Type} (step : ι → σ → σ)

/-- The state of a machine before its `k`-th input; from the last input on, its last state. -/
def stateAt (inputs : List ι) (s : σ) (k : Nat) : σ := (inputs.take k).foldl (fun s i => step i s) s

@[simp] theorem stateAt_zero (inputs : List ι) (s : σ) : stateAt step inputs s 0 = s := rfl

theorem stateAt_succ {inputs : List ι} {k : Nat} {i : ι} (h : inputs[k]? = some i) (s : σ) :
    stateAt step inputs s (k + 1) = step i (stateAt step inputs s k) := by
  rw [stateAt, stateAt, List.take_add_one, h, Option.toList_some, List.foldl_append]
  rfl

theorem stateAt_succ_of_none {inputs : List ι} {k : Nat} (h : inputs[k]? = none) (s : σ) :
    stateAt step inputs s (k + 1) = stateAt step inputs s k := by
  rw [stateAt, stateAt, List.take_add_one, h, Option.toList_none, List.append_nil]

variable {step} {P : σ → Prop} {C : ι → σ → Prop} {inputs : List ι} {s : σ}

/-- An invariant that a step keeps where its condition is met holds all along a
run that meets every condition. -/
theorem holds_along (hstep : ∀ i s, C i s → P s → P (step i s)) (h0 : P s)
    (hall : ∀ k i, inputs[k]? = some i → C i (stateAt step inputs s k)) (k : Nat) :
    P (stateAt step inputs s k) := by
  induction k with
  | zero => exact h0
  | succ k ih =>
      cases hk : inputs[k]? with
      | some i =>
          rw [stateAt_succ step hk]
          exact hstep i _ (hall k i hk) ih
      | none => rwa [stateAt_succ_of_none step hk]

/-- Where a step of the kind that a run takes keeps the invariant only under its condition, a run
that keeps it all along meets every condition. -/
theorem holds_along_iff_of {T : ι → σ → Prop} (hstep : ∀ i s, T i s → P s → (P (step i s) ↔ C i s))
    (h0 : P s) (htaken : ∀ k i, inputs[k]? = some i → T i (stateAt step inputs s k)) :
    (∀ k, P (stateAt step inputs s k)) ↔
      ∀ k i, inputs[k]? = some i → C i (stateAt step inputs s k) := by
  constructor
  · intro hall k i hk
    have hnext := hall (k + 1)
    rw [stateAt_succ step hk] at hnext
    exact (hstep i _ (htaken k i hk) (hall k)).1 hnext
  · intro hall
    refine holds_along (C := fun i s => T i s ∧ C i s) (fun i s hc hp => ?_) h0 fun k i hk => ?_
    · exact (hstep i s hc.1 hp).2 hc.2
    · exact ⟨htaken k i hk, hall k i hk⟩

/-- Where a step keeps the invariant only under its condition, a run that keeps
it all along meets every condition. -/
theorem holds_along_iff (hstep : ∀ i s, P s → (P (step i s) ↔ C i s)) (h0 : P s) :
    (∀ k, P (stateAt step inputs s k)) ↔
      ∀ k i, inputs[k]? = some i → C i (stateAt step inputs s k) :=
  holds_along_iff_of (T := fun _ _ => True) (fun i s _ => hstep i s) h0 fun _ _ _ => trivial

section Since

variable {S E : ι → σ → Prop}

/-- No input ends the property from the `m`-th to before the `k`-th. -/
def Lasts (step : ι → σ → σ) (E : ι → σ → Prop) (inputs : List ι) (s : σ) (m k : Nat) : Prop :=
  ∀ l, m ≤ l → l < k → ∀ i, inputs[l]? = some i → ¬ E i (stateAt step inputs s l)

theorem lasts_succ_iff {m k : Nat} (hmk : m ≤ k) :
    Lasts step E inputs s m (k + 1) ↔
      Lasts step E inputs s m k ∧ ∀ i, inputs[k]? = some i → ¬ E i (stateAt step inputs s k) := by
  constructor
  · exact fun h => ⟨fun l hml hl => h l hml (Nat.lt_succ_of_lt hl), h k hmk (Nat.lt_succ_self k)⟩
  · rintro ⟨hbefore, hlast⟩ l hml hl
    rcases Nat.lt_succ_iff_lt_or_eq.1 hl with hl | rfl
    · exact hbefore l hml hl
    · exact hlast

/-- Where an input brings a property about or leaves it as it was, unless the input ends it, the
property holds at a moment exactly if it held at an earlier one, or an input has brought it about
since, and none has ended it after that. -/
theorem holds_iff_since_from (hstep : ∀ i s, P (step i s) ↔ S i s ∨ P s ∧ ¬ E i s) {m k : Nat}
    (hmk : m ≤ k) :
    P (stateAt step inputs s k) ↔
      P (stateAt step inputs s m) ∧ Lasts step E inputs s m k ∨
        ∃ j, m ≤ j ∧ j < k ∧ (∃ i, inputs[j]? = some i ∧ S i (stateAt step inputs s j)) ∧
          Lasts step E inputs s (j + 1) k := by
  induction hmk with
  | refl =>
      constructor
      · exact fun h => .inl ⟨h, fun l hml hl => absurd hml (Nat.not_le_of_lt hl)⟩
      · rintro (⟨h, -⟩ | ⟨j, hmj, hj, -⟩)
        · exact h
        · omega
  | @step k hmk ih =>
      cases hk : inputs[k]? with
      | none =>
          have hends : ∀ i, inputs[k]? = some i → ¬ E i (stateAt step inputs s k) := by
            intro i hi
            rw [hk] at hi
            cases hi
          rw [stateAt_succ_of_none step hk, ih, lasts_succ_iff hmk]
          refine or_congr (and_congr_right fun _ => (and_iff_left hends).symm) ?_
          constructor
          · rintro ⟨j, hmj, hj, hset, hlasts⟩
            exact ⟨j, hmj, by omega, hset, (lasts_succ_iff hj).2 ⟨hlasts, hends⟩⟩
          · rintro ⟨j, hmj, hj, ⟨i, hi, hset⟩, hlasts⟩
            have hne : j ≠ k := by
              rintro rfl
              rw [hk] at hi
              cases hi
            have hj : j < k := by omega
            exact ⟨j, hmj, hj, ⟨i, hi, hset⟩, ((lasts_succ_iff hj).1 hlasts).1⟩
      | some i =>
          rw [stateAt_succ step hk, hstep, ih, lasts_succ_iff hmk]
          constructor
          · rintro (hset | ⟨⟨h, hlasts⟩ | ⟨j, hmj, hj, hset, hlasts⟩, hnot⟩)
            · exact .inr ⟨k, hmk, Nat.lt_succ_self k, ⟨i, hk, hset⟩, fun l hkl hl => by omega⟩
            · refine .inl ⟨h, hlasts, fun i' hi' => ?_⟩
              cases hk.symm.trans hi'
              exact hnot
            · refine .inr ⟨j, hmj, by omega, hset, (lasts_succ_iff hj).2 ⟨hlasts, fun i' hi' => ?_⟩⟩
              cases hk.symm.trans hi'
              exact hnot
          · rintro (⟨h, hlasts, hnot⟩ | ⟨j, hmj, hj, ⟨i', hi', hset⟩, hlasts⟩)
            · exact .inr ⟨.inl ⟨h, hlasts⟩, hnot i hk⟩
            · rcases Nat.lt_succ_iff_lt_or_eq.1 hj with hj | rfl
              · obtain ⟨hlasts, hnot⟩ := (lasts_succ_iff hj).1 hlasts
                exact .inr ⟨.inr ⟨j, hmj, hj, ⟨i', hi', hset⟩, hlasts⟩, hnot i hk⟩
              · cases hk.symm.trans hi'
                exact .inl hset

theorem holds_iff_since (hstep : ∀ i s, P (step i s) ↔ S i s ∨ P s ∧ ¬ E i s) (h0 : ¬ P s)
    (k : Nat) :
    P (stateAt step inputs s k) ↔
      ∃ j < k, (∃ i, inputs[j]? = some i ∧ S i (stateAt step inputs s j)) ∧
        ∀ l, j < l → l < k → ∀ i, inputs[l]? = some i → ¬ E i (stateAt step inputs s l) := by
  rw [holds_iff_since_from hstep (Nat.zero_le k)]
  constructor
  · rintro (⟨h, -⟩ | ⟨j, -, hj, hset, hlasts⟩)
    · exact absurd h h0
    · exact ⟨j, hj, hset, hlasts⟩
  · rintro ⟨j, hj, hset, hlasts⟩
    exact .inr ⟨j, Nat.zero_le j, hj, hset, hlasts⟩

end Since

end AtlasOfUs.Library
