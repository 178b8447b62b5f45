import Mathlib.Data.List.Nodup

namespace AtlasOfUs.Library

variable {α κ ν : Type}

structure OrderedMap (κ ν : Type) where
  entries : List (κ × ν)
  nodup : (entries.map Prod.fst).Nodup

namespace OrderedMap

def empty : OrderedMap κ ν := ⟨[], List.nodup_nil⟩

def keys (m : OrderedMap κ ν) : List κ := m.entries.map Prod.fst

variable [DecidableEq κ]

def get (m : OrderedMap κ ν) (key : κ) : Option ν := m.entries.lookup key

def setEntries (entries : List (κ × ν)) (key : κ) (value : ν) : List (κ × ν) :=
  match entries with
  | [] => [(key, value)]
  | (other, old) :: rest =>
      if other = key then (key, value) :: rest else (other, old) :: setEntries rest key value

theorem mem_setEntries_keys (entries : List (κ × ν)) (key : κ) (value : ν) (key' : κ) :
    key' ∈ (setEntries entries key value).map Prod.fst ↔
      key' = key ∨ key' ∈ entries.map Prod.fst := by
  induction entries with
  | nil => rw [setEntries, List.map_cons, List.map_nil, List.mem_cons]
  | cons entry rest ih =>
      rw [setEntries]
      by_cases hkey : entry.1 = key
      · rw [if_pos hkey, List.map_cons, List.map_cons, List.mem_cons, List.mem_cons, hkey,
          ← or_assoc, or_self]
      · rw [if_neg hkey, List.map_cons, List.map_cons, List.mem_cons, List.mem_cons, ih]
        exact or_left_comm

theorem nodup_setEntries {entries : List (κ × ν)} (h : (entries.map Prod.fst).Nodup) (key : κ)
    (value : ν) : ((setEntries entries key value).map Prod.fst).Nodup := by
  induction entries with
  | nil => exact List.nodup_singleton key
  | cons entry rest ih =>
      rw [List.map_cons, List.nodup_cons] at h
      rw [setEntries]
      by_cases hkey : entry.1 = key
      · rw [if_pos hkey, List.map_cons, List.nodup_cons, ← hkey]
        exact h
      · rw [if_neg hkey, List.map_cons, List.nodup_cons, mem_setEntries_keys]
        exact ⟨not_or.2 ⟨hkey, h.1⟩, ih h.2⟩

theorem lookup_cons (key : κ) (value : ν) (rest : List (κ × ν)) (key' : κ) :
    ((key, value) :: rest).lookup key' = if key' = key then some value else rest.lookup key' := by
  rw [List.lookup_cons]
  by_cases h : key' = key
  · rw [h, BEq.rfl, if_pos rfl]
  · rw [beq_false_of_ne h, if_neg h]

theorem lookup_setEntries (entries : List (κ × ν)) (key : κ) (value : ν) (key' : κ) :
    (setEntries entries key value).lookup key' =
      if key' = key then some value else entries.lookup key' := by
  induction entries with
  | nil => rw [setEntries, lookup_cons]
  | cons entry rest ih =>
      obtain ⟨other, old⟩ := entry
      rw [setEntries, lookup_cons]
      by_cases hkey : other = key
      · subst hkey
        rw [if_pos rfl, lookup_cons]
        by_cases h : key' = other
        · rw [if_pos h, if_pos h]
        · rw [if_neg h, if_neg h, if_neg h]
      · rw [if_neg hkey, lookup_cons, ih]
        by_cases h : key' = other
        · subst h
          rw [if_pos rfl, if_neg hkey, if_pos rfl]
        · rw [if_neg h, if_neg h]

def set (m : OrderedMap κ ν) (key : κ) (value : ν) : OrderedMap κ ν :=
  ⟨setEntries m.entries key value, nodup_setEntries m.nodup key value⟩

variable (m : OrderedMap κ ν)

@[simp] theorem get_empty (key : κ) : (empty : OrderedMap κ ν).get key = none := rfl

theorem get_set (key : κ) (value : ν) (key' : κ) :
    (m.set key value).get key' = if key' = key then some value else m.get key' :=
  lookup_setEntries m.entries key value key'

theorem mem_keys_set (key : κ) (value : ν) (key' : κ) :
    key' ∈ (m.set key value).keys ↔ key' = key ∨ key' ∈ m.keys :=
  mem_setEntries_keys m.entries key value key'

theorem mem_keys_iff (key : κ) : key ∈ m.keys ↔ ∃ value, m.get key = some value := by
  rw [← Option.ne_none_iff_exists', get, Ne, List.lookup_eq_none_iff, keys, List.mem_map]
  constructor
  · rintro ⟨entry, hentry, rfl⟩ h
    exact absurd (h entry hentry) (by simp)
  · intro h
    by_contra hnone
    apply h
    intro entry hentry
    rw [bne_iff_ne]
    rintro rfl
    exact hnone ⟨entry, hentry, rfl⟩

def setAll (key : α → Option κ) (value : α → ν) (xs : List α) (m : OrderedMap κ ν) :
    OrderedMap κ ν :=
  xs.foldl (fun m x => match key x with
    | some k => m.set k (value x)
    | none => m) m

/-- What is there under a key is of the last item that has it, or was there before. -/
theorem get_setAll (key : α → Option κ) (value : α → ν) (xs : List α) (k : κ) :
    (setAll key value xs m).get k =
      ((xs.filter fun x => key x = some k).getLast?.map value).or (m.get k) := by
  induction xs generalizing m with
  | nil => rfl
  | cons x xs ih =>
      rw [setAll, List.foldl_cons, ← setAll, ih]
      by_cases hkey : key x = some k
      · rw [List.filter_cons_of_pos (by simpa using hkey), hkey, List.getLast?_cons, get_set,
          if_pos rfl]
        cases (xs.filter fun x => key x = some k).getLast? <;> rfl
      · rw [List.filter_cons_of_neg (by simpa using hkey)]
        cases hx : key x with
        | none => rfl
        | some k' =>
            have hne : k ≠ k' := fun h => hkey (by rw [hx, h])
            simp only [get_set, if_neg hne]

theorem get_setAll_of_mem {key : α → κ} (value : α → ν) {xs : List α} {x : α}
    (hnodup : (xs.map key).Nodup) (hx : x ∈ xs) :
    (setAll (fun y => some (key y)) value xs m).get (key x) = some (value x) := by
  rw [get_setAll]
  cases hlast : (xs.filter fun y => some (key y) = some (key x)).getLast? with
  | none =>
      rw [List.getLast?_eq_none_iff] at hlast
      exact absurd (hlast ▸ List.mem_filter.2 ⟨hx, by simp⟩) List.not_mem_nil
  | some y =>
      obtain ⟨hy, hkey⟩ := List.mem_filter.1 (List.mem_of_getLast? hlast)
      obtain rfl := List.inj_on_of_nodup_map hnodup hy hx (by simpa using hkey)
      rfl

end OrderedMap

end AtlasOfUs.Library
