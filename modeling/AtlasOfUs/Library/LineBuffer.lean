import Mathlib.Data.List.Basic

namespace AtlasOfUs.Library

variable {α : Type} [DecidableEq α] (sep : α)

def ended (xs : List α) : List (List α) := (xs.splitOn sep).dropLast

def unended (xs : List α) : List α := (xs.splitOn sep).getLast (List.splitOn_ne_nil sep xs)

theorem ended_append_unended (xs : List α) : ended sep xs ++ [unended sep xs] = xs.splitOn sep :=
  List.dropLast_append_getLast (List.splitOn_ne_nil sep xs)

variable {sep}

theorem ended_of_notMem {xs : List α} (h : sep ∉ xs) : ended sep xs = [] := by
  rw [ended, List.splitOn_eq_singleton h]
  rfl

theorem unended_of_notMem {xs : List α} (h : sep ∉ xs) : unended sep xs = xs := by
  have hsplit := ended_append_unended sep xs
  rw [ended_of_notMem h, List.splitOn_eq_singleton h] at hsplit
  exact List.singleton_inj.1 hsplit

theorem ended_append_cons (xs ys : List α) :
    ended sep (xs ++ sep :: ys) = xs.splitOn sep ++ ended sep ys := by
  rw [ended, List.splitOn_append_cons_self, List.dropLast_append_of_ne_nil (List.splitOn_ne_nil sep ys)]
  rfl

theorem unended_append_cons (xs ys : List α) : unended sep (xs ++ sep :: ys) = unended sep ys := by
  have hsplit := ended_append_unended sep (xs ++ sep :: ys)
  rw [ended_append_cons, List.splitOn_append_cons_self, ← ended_append_unended sep ys,
    List.append_assoc] at hsplit
  exact List.singleton_inj.1 (List.append_cancel_left (List.append_cancel_left hsplit))

theorem notMem_unended (xs : List α) : sep ∉ unended sep xs := by
  induction hlen : xs.length using Nat.strongRecOn generalizing xs with
  | _ n ih =>
      by_cases hmem : sep ∈ xs
      · obtain ⟨as, bs, rfl⟩ := List.append_of_mem hmem
        rw [unended_append_cons]
        exact ih bs.length (by simp at hlen; omega) bs rfl
      · rwa [unended_of_notMem hmem]

theorem ended_append (xs ys : List α) :
    ended sep (xs ++ ys) = ended sep xs ++ ended sep (unended sep xs ++ ys) := by
  induction hlen : xs.length using Nat.strongRecOn generalizing xs with
  | _ n ih =>
      by_cases hmem : sep ∈ xs
      · obtain ⟨as, bs, rfl⟩ := List.append_of_mem hmem
        have hbs := ih bs.length (by simp at hlen; omega) bs rfl
        rw [List.append_assoc, List.cons_append, ended_append_cons, hbs, ended_append_cons,
          unended_append_cons, List.append_assoc]
      · rw [ended_of_notMem hmem, unended_of_notMem hmem, List.nil_append]

variable (sep)

def endedByChunk (buffer : List α) : List (List α) → List (List (List α))
  | [] => []
  | chunk :: chunks =>
      ended sep (buffer ++ chunk) :: endedByChunk (unended sep (buffer ++ chunk)) chunks

variable {sep}

theorem flatten_endedByChunk (buffer : List α) (hbuffer : sep ∉ buffer) (chunks : List (List α)) :
    (endedByChunk sep buffer chunks).flatten = ended sep (buffer ++ chunks.flatten) := by
  induction chunks generalizing buffer with
  | nil => rw [List.flatten_nil, List.append_nil, ended_of_notMem hbuffer]; rfl
  | cons chunk chunks ih =>
      rw [endedByChunk, List.flatten_cons, ih _ (notMem_unended _), List.flatten_cons,
        ← List.append_assoc, ended_append (buffer ++ chunk)]

end AtlasOfUs.Library
