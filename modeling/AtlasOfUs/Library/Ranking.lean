import Mathlib.Data.List.Sort
import Mathlib.Order.Defs.LinearOrder

namespace AtlasOfUs.Library

variable {α β : Type} [LinearOrder β]

/-- `best` lists `k` best-scoring elements of `xs`, or all of them if there are
fewer, best first. Ties are broken in any way. -/
structure IsTop (score : α → β) (k : Nat) (xs best : List α) : Prop where
  length : best.length = min k xs.length
  sorted : best.Pairwise (fun a b => score b ≤ score a)
  split : ∃ rest, (best ++ rest).Perm xs ∧ ∀ a ∈ best, ∀ b ∈ rest, score b ≤ score a

namespace IsTop

variable {score : α → β} {k : Nat} {xs best : List α} {p : α → Bool}

theorem subset (h : IsTop score k xs best) : best ⊆ xs := by
  obtain ⟨rest, hperm, -⟩ := h.split
  exact fun a ha => hperm.subset (List.mem_append_left _ ha)

theorem nodup (h : IsTop score k xs best) (hxs : xs.Nodup) : best.Nodup := by
  obtain ⟨rest, hperm, -⟩ := h.split
  exact (List.nodup_append.1 (hperm.nodup_iff.2 hxs)).1

theorem head_le (h : IsTop score k xs best) {a b : α} (ha : best.head? = some a) (hb : b ∈ xs) :
    score b ≤ score a := by
  obtain ⟨rest, hperm, hrest⟩ := h.split
  cases best with
  | nil => cases ha
  | cons c cs =>
      obtain rfl := Option.some.inj ha
      rcases List.mem_append.1 (hperm.mem_iff.2 hb) with hb | hb
      · rcases List.mem_cons.1 hb with rfl | hb
        · exact le_rfl
        · exact List.rel_of_pairwise_cons h.sorted hb
      · exact hrest c List.mem_cons_self b hb

theorem filter_of_length (h : IsTop score k xs best)
    (hlength : (best.filter p).length = min k (xs.filter p).length) :
    IsTop score k (xs.filter p) (best.filter p) := by
  obtain ⟨rest, hperm, hrest⟩ := h.split
  refine ⟨hlength, h.sorted.filter p, rest.filter p, ?_, fun a ha b hb =>
    hrest a (List.mem_filter.1 ha).1 b (List.mem_filter.1 hb).1⟩
  rw [← List.filter_append]
  exact hperm.filter p

/-- A ranking filtered afterwards is a ranking of what passes the filter,
exactly if everything in it passes or everything that passes is in it. -/
theorem filter_iff (h : IsTop score k xs best) (hxs : xs.Nodup) :
    IsTop score k (xs.filter p) (best.filter p) ↔
      (∀ a ∈ best, p a = true) ∨ ∀ a ∈ xs, p a = true → a ∈ best := by
  obtain ⟨rest, hperm, -⟩ := h.split
  have hlength := hperm.length_eq
  have hfilter := (hperm.filter p).length_eq
  have hbest := List.length_filter_le p best
  have htop := h.length
  rw [List.length_append] at hlength
  rw [List.filter_append, List.length_append] at hfilter
  constructor
  · intro hp
    have hp := hp.length
    by_cases hnone : (rest.filter p).length = 0
    · refine .inr fun a ha hpa => ?_
      rcases List.mem_append.1 (hperm.mem_iff.2 ha) with hmem | hmem
      · exact hmem
      · have hmem := List.mem_filter.2 ⟨hmem, hpa⟩
        rw [List.length_eq_zero_iff.1 hnone] at hmem
        cases hmem
    · refine .inl ?_
      rw [← List.length_filter_eq_length_iff]
      omega
  · intro hor
    apply h.filter_of_length
    rcases hor with hall | hall
    · rw [← List.length_filter_eq_length_iff] at hall
      have hrest := List.length_filter_le p rest
      omega
    · have hnone : rest.filter p = [] := by
        refine List.filter_eq_nil_iff.2 fun b hb hpb => ?_
        have hmem := hall b (hperm.subset (List.mem_append_right _ hb)) hpb
        exact (List.nodup_append.1 (hperm.nodup_iff.2 hxs)).2.2 b hmem b hb rfl
      rw [hnone] at hfilter
      simp only [List.length_nil] at hfilter
      omega

theorem take_insertionSort (score : α → β) (k : Nat) (xs : List α) :
    IsTop score k xs ((xs.insertionSort (fun a b => score b ≤ score a)).take k) := by
  have htrans : IsTrans α (fun a b => score b ≤ score a) := ⟨fun _ _ _ hab hbc => le_trans hbc hab⟩
  have htotal : Std.Total (fun a b => score b ≤ score a) := ⟨fun a b => le_total _ _⟩
  have hsorted := List.pairwise_insertionSort (fun a b => score b ≤ score a) xs
  have hsplit := List.take_append_drop k (xs.insertionSort (fun a b => score b ≤ score a))
  rw [← hsplit] at hsorted
  obtain ⟨htake, -, hacross⟩ := List.pairwise_append.1 hsorted
  refine ⟨?_, htake, _, ?_, hacross⟩
  · rw [List.length_take, List.length_insertionSort]
  · rw [hsplit]
    exact List.perm_insertionSort _ xs

end IsTop

end AtlasOfUs.Library
