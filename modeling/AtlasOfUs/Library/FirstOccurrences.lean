import Mathlib.Data.List.FinRange
import Mathlib.Data.List.Nodup

namespace AtlasOfUs.Library

variable {α κ σ : Type}

def retain (test : σ → α → Bool × σ) (s : σ) : List α → List α × σ
  | [] => ([], s)
  | x :: xs =>
      let rest := retain test (test s x).2 xs
      (if (test s x).1 then x :: rest.1 else rest.1, rest.2)

abbrev IsFirst (key : α → κ) (xs : List α) (i : Fin xs.length) : Prop :=
  ∀ j, j < i → key (xs.get j) ≠ key (xs.get i)

theorem isFirst_zero (key : α → κ) (x : α) (xs : List α) : IsFirst key (x :: xs) 0 :=
  fun j hj => absurd hj (Fin.not_lt_zero j)

theorem isFirst_succ (key : α → κ) (x : α) (xs : List α) (i : Fin xs.length) :
    IsFirst key (x :: xs) i.succ ↔ key (xs.get i) ≠ key x ∧ IsFirst key xs i := by
  constructor
  · intro h
    exact ⟨(h 0 (Fin.succ_pos i)).symm, fun j hj => h j.succ (Fin.succ_lt_succ_iff.2 hj)⟩
  · rintro ⟨hx, hxs⟩ j hj
    cases j using Fin.cases with
    | zero => exact hx.symm
    | succ j => exact hxs j (Fin.succ_lt_succ_iff.1 hj)

variable [DecidableEq κ] (key : α → κ)

def firsts (xs : List α) : List α :=
  ((List.finRange xs.length).filter (fun i => IsFirst key xs i)).map xs.get

@[simp] theorem firsts_nil : firsts key [] = [] := rfl

theorem firsts_cons (x : α) (xs : List α) :
    firsts key (x :: xs) = x :: (firsts key xs).filter (fun y => key y ≠ key x) := by
  have hsucc : (fun i => decide (IsFirst key (x :: xs) i)) ∘ Fin.succ =
      fun i => decide (key (xs.get i) ≠ key x) && decide (IsFirst key xs i) := by
    funext i
    rw [Function.comp_apply, ← Bool.decide_and, decide_eq_decide]
    exact isFirst_succ key x xs i
  have hfilter : (firsts key xs).filter (fun y => key y ≠ key x) =
      ((List.finRange xs.length).filter ((fun i => decide (IsFirst key (x :: xs) i)) ∘
        Fin.succ)).map xs.get := by
    rw [firsts, List.filter_map, List.filter_filter, hsucc]
    rfl
  have hrange : List.finRange (x :: xs).length = 0 :: (List.finRange xs.length).map Fin.succ :=
    List.finRange_succ
  have hzero : decide (IsFirst key (x :: xs) 0) = true := decide_eq_true (isFirst_zero key x xs)
  rw [hfilter, firsts, hrange, List.filter_cons, hzero, if_pos rfl, List.map_cons, List.filter_map,
    List.map_map]
  rfl

theorem firsts_sublist (xs : List α) : (firsts key xs).Sublist xs := by
  induction xs with
  | nil => exact List.Sublist.refl []
  | cons x xs ih =>
      rw [firsts_cons]
      exact (List.filter_sublist.trans ih).cons_cons x

theorem nodup_firsts (xs : List α) : ((firsts key xs).map key).Nodup := by
  induction xs with
  | nil => exact List.nodup_nil
  | cons x xs ih =>
      rw [firsts_cons, List.map_cons, List.nodup_cons]
      constructor
      · intro hmem
        obtain ⟨y, hy, hkey⟩ := List.mem_map.1 hmem
        exact of_decide_eq_true (List.mem_filter.1 hy).2 hkey
      · exact ih.sublist (List.filter_sublist.map key)

theorem find_firsts (xs : List α) (k : κ) :
    (firsts key xs).find? (fun y => key y = k) = xs.find? (fun x => key x = k) := by
  induction xs with
  | nil => rfl
  | cons x xs ih =>
      rw [firsts_cons, List.find?_cons, List.find?_cons]
      by_cases hk : key x = k
      · rw [decide_eq_true hk]
      · have hsame : (fun y => decide (decide (key y ≠ key x) = true ∧ decide (key y = k) = true)) =
            fun y => decide (key y = k) := by
          funext y
          by_cases hy : key y = k
          · simp [hy, Ne.symm hk]
          · simp [hy]
        rw [decide_eq_false hk, List.find?_filter, hsame]
        exact ih

theorem mem_keys_firsts (xs : List α) (k : κ) :
    k ∈ (firsts key xs).map key ↔ k ∈ xs.map key := by
  have hfound : ∀ ys : List α, k ∈ ys.map key ↔ (ys.find? fun y => key y = k).isSome = true := by
    intro ys
    rw [List.find?_isSome, List.mem_map]
    simp
  rw [hfound, hfound, find_firsts]

theorem firsts_eq_self_iff (xs : List α) : firsts key xs = xs ↔ (xs.map key).Nodup := by
  constructor
  · intro h
    rw [← h]
    exact nodup_firsts key xs
  · intro h
    induction xs with
    | nil => rfl
    | cons x xs ih =>
        obtain ⟨hx, hxs⟩ := List.nodup_cons.1 h
        rw [firsts_cons, ih hxs, List.filter_eq_self.2]
        intro y hy
        exact decide_eq_true fun hkey => hx (hkey ▸ List.mem_map_of_mem hy)

structure FirstsOf (xs ys : List α) : Prop where
  entries : ys = firsts key xs
  sublist : ys.Sublist xs
  nodup : (ys.map key).Nodup
  keys : ∀ k, k ∈ ys.map key ↔ k ∈ xs.map key
  first : ∀ k, ys.find? (fun y => key y = k) = xs.find? (fun x => key x = k)

theorem firstsOf_firsts (xs : List α) : FirstsOf key xs (firsts key xs) where
  entries := rfl
  sublist := firsts_sublist key xs
  nodup := nodup_firsts key xs
  keys := mem_keys_firsts key xs
  first := find_firsts key xs

def insertKey (seen : List κ) (k : κ) : Bool × List κ :=
  if k ∈ seen then (false, seen) else (true, k :: seen)

theorem retain_insertKey (seen : List κ) (xs : List α) :
    (retain (fun seen x => insertKey seen (key x)) seen xs).1 =
      (firsts key xs).filter (fun y => key y ∉ seen) := by
  induction xs generalizing seen with
  | nil => rfl
  | cons x xs ih =>
      rw [retain, firsts_cons]
      by_cases hseen : key x ∈ seen
      · rw [insertKey, if_pos hseen, ih, List.filter_cons_of_neg (by simpa using hseen),
          List.filter_filter]
        simp only [Bool.false_eq_true, if_false]
        apply List.filter_congr
        intro y _
        grind
      · rw [insertKey, if_neg hseen, ih, List.filter_cons_of_pos (by simpa using hseen),
          List.filter_filter]
        simp only [if_true]
        congr 1
        apply List.filter_congr
        intro y _
        grind

theorem retain_insertKey_nil (xs : List α) :
    (retain (fun seen x => insertKey seen (key x)) [] xs).1 = firsts key xs := by
  rw [retain_insertKey, List.filter_eq_self]
  exact fun y _ => decide_eq_true List.not_mem_nil

end AtlasOfUs.Library
