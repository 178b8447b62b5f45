import Mathlib.Data.List.Perm.Basic
import Mathlib.Data.List.Nodup

namespace AtlasOfUs.Library

variable {α κ ρ : Type} (has : κ → α → Bool) (describe : α → ρ)

/-- The keys are looked up one after the other and an element is made for each
that none has. Something is reported for every key: for a new element, what
describes it. -/
inductive Interns : List κ → List α → List α → List ρ → Prop
  | nil (xs : List α) : Interns [] xs xs []
  | found {k : κ} {ks : List κ} {xs xs' : List α} {r : ρ} {rs : List ρ} {x : α} (hx : x ∈ xs)
      (hk : has k x = true) (rest : Interns ks xs xs' rs) : Interns (k :: ks) xs xs' (r :: rs)
  | made {k : κ} {ks : List κ} {xs xs' : List α} {rs : List ρ} {x : α} (hk : ∀ y ∈ xs, has k y = false)
      (hx : ∀ k', has k' x = true ↔ k' = k) (rest : Interns ks (xs ++ [x]) xs' rs) :
      Interns (k :: ks) xs xs' (describe x :: rs)

/-- No key is asked for twice and none is there already. -/
def Unseen (ks : List κ) (xs : List α) : Prop := ks.Nodup ∧ ∀ k ∈ ks, ∀ x ∈ xs, has k x = false

instance [DecidableEq κ] (ks : List κ) (xs : List α) : Decidable (Unseen has ks xs) :=
  inferInstanceAs (Decidable (ks.Nodup ∧ ∀ k ∈ ks, ∀ x ∈ xs, has k x = false))

variable {has describe} {ks ks' : List κ} {xs xs' xs'' : List α} {rs rs' : List ρ}

theorem unseen_nil : Unseen has ([] : List κ) xs := ⟨List.nodup_nil, fun _ hk => absurd hk List.not_mem_nil⟩

theorem not_unseen_of_found {k : κ} {x : α} (hx : x ∈ xs) (hk : has k x = true) :
    ¬ Unseen has (k :: ks) xs := by
  rintro ⟨-, hnew⟩
  have hnot := hnew k List.mem_cons_self x hx
  rw [hk] at hnot
  cases hnot

/-- What is new with a key for which an element is made is new once the element is there. -/
theorem unseen_cons_iff {k : κ} {x : α} (hk : ∀ y ∈ xs, has k y = false)
    (hx : ∀ k', has k' x = true ↔ k' = k) : Unseen has (k :: ks) xs ↔ Unseen has ks (xs ++ [x]) := by
  have hapart : (∀ k' ∈ ks, has k' x = false) ↔ k ∉ ks := by
    constructor
    · intro hnot hmem
      have hself := (hx k).2 rfl
      rw [hnot k hmem] at hself
      cases hself
    · intro hnot k' hk'
      rw [Bool.eq_false_iff, ne_eq, hx]
      rintro rfl
      exact hnot hk'
  constructor
  · rintro ⟨hnodup, hnew⟩
    obtain ⟨hnot, hnodup⟩ := List.nodup_cons.1 hnodup
    refine ⟨hnodup, fun k' hk' y hy => ?_⟩
    rcases List.mem_append.1 hy with hy | hy
    · exact hnew k' (List.mem_cons_of_mem k hk') y hy
    · rw [List.mem_singleton.1 hy]
      exact hapart.2 hnot k' hk'
  · rintro ⟨hnodup, hnew⟩
    have hnot := hapart.1 fun k' hk' => hnew k' hk' x (List.mem_append_right _ List.mem_cons_self)
    refine ⟨List.nodup_cons.2 ⟨hnot, hnodup⟩, fun k' hk' y hy => ?_⟩
    rcases List.mem_cons.1 hk' with rfl | hk'
    · exact hk y hy
    · exact hnew k' hk' y (List.mem_append_left _ hy)

theorem unseen_append_iff (h : ∀ k ∈ ks, ∀ x ∈ xs', has k x = false) :
    Unseen has ks (xs ++ xs') ↔ Unseen has ks xs := by
  refine and_congr_right fun _ => forall₂_congr fun k hk => ?_
  constructor
  · exact fun hnew x hx => hnew x (List.mem_append_left xs' hx)
  · intro hnew x hx
    rcases List.mem_append.1 hx with hx | hx
    · exact hnew x hx
    · exact h k hk x hx

namespace Interns

theorem append (h : Interns has describe ks xs xs' rs) (h' : Interns has describe ks' xs' xs'' rs') :
    Interns has describe (ks ++ ks') xs xs'' (rs ++ rs') := by
  induction h with
  | nil xs => exact h'
  | found hx hk _ ih => exact .found hx hk (ih h')
  | made hk hx _ ih => exact .made hk hx (ih h')

theorem length_eq (h : Interns has describe ks xs xs' rs) : rs.length = ks.length := by
  induction h with
  | nil xs => rfl
  | found _ _ _ ih => rw [List.length_cons, List.length_cons, ih]
  | made _ _ _ ih => rw [List.length_cons, List.length_cons, ih]

/-- The elements that were made: each has one of the keys, and there is one for every key just if
the keys are new. -/
theorem exists_made (h : Interns has describe ks xs xs' rs) :
    ∃ new, xs' = xs ++ new ∧ (∀ x ∈ new, ∃ k ∈ ks, has k x = true) ∧ new.length ≤ ks.length ∧
      (new.length = ks.length → Unseen has ks xs) ∧ (Unseen has ks xs → rs = new.map describe) := by
  induction h with
  | nil xs =>
      exact ⟨[], (List.append_nil xs).symm, fun x hx => absurd hx List.not_mem_nil, Nat.le_refl 0,
        fun _ => unseen_nil, fun _ => rfl⟩
  | @found k ks xs xs' r rs x hx hk _ ih =>
      obtain ⟨new, hxs', hhas, hlength, -, -⟩ := ih
      refine ⟨new, hxs', fun y hy => ?_, ?_, fun heq => ?_, fun hunseen => ?_⟩
      · obtain ⟨k', hk', hy⟩ := hhas y hy
        exact ⟨k', List.mem_cons_of_mem k hk', hy⟩
      · rw [List.length_cons]
        omega
      · rw [List.length_cons] at heq
        omega
      · exact absurd hunseen (not_unseen_of_found hx hk)
  | @made k ks xs xs' rs x hk hx _ ih =>
      obtain ⟨new, hxs', hhas, hlength, hunseen, hreport⟩ := ih
      refine ⟨x :: new, ?_, ?_, ?_, fun heq => ?_, fun hnew => ?_⟩
      · rw [hxs', List.append_assoc, List.singleton_append]
      · intro y hy
        rcases List.mem_cons.1 hy with rfl | hy
        · exact ⟨k, List.mem_cons_self, (hx k).2 rfl⟩
        · obtain ⟨k', hk', hy⟩ := hhas y hy
          exact ⟨k', List.mem_cons_of_mem k hk', hy⟩
      · rw [List.length_cons, List.length_cons]
        omega
      · rw [List.length_cons, List.length_cons] at heq
        exact (unseen_cons_iff hk hx).2 (hunseen (by omega))
      · rw [List.map_cons, hreport ((unseen_cons_iff hk hx).1 hnew)]

/-- The reports describe the elements that were made, each once, exactly if the keys are new. -/
theorem perm_iff (h : Interns has describe ks xs xs' rs) :
    ∃ new, xs' = xs ++ new ∧ (∀ x ∈ new, ∃ k ∈ ks, has k x = true) ∧
      (rs.Perm (new.map describe) ↔ Unseen has ks xs) := by
  obtain ⟨new, hxs', hhas, -, hunseen, hreport⟩ := h.exists_made
  refine ⟨new, hxs', hhas, fun hperm => hunseen ?_, fun hnew => ?_⟩
  · have hlength := hperm.length_eq
    rw [List.length_map, h.length_eq] at hlength
    exact hlength.symm
  · rw [hreport hnew]

end Interns

end AtlasOfUs.Library
