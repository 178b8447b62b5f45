import Mathlib.Data.List.Dedup
import Mathlib.Data.List.Perm.Basic
import Mathlib.Data.List.Count

namespace AtlasOfUs.Library

theorem filter_eq_singleton {α : Type} {p : α → Bool} {xs : List α} {x : α} (hnodup : xs.Nodup)
    (hx : x ∈ xs) (hp : p x = true) (hall : ∀ y ∈ xs, p y = true → y = x) : xs.filter p = [x] := by
  have hmem : ∀ y, y ∈ xs.filter p ↔ y ∈ [x] := by
    intro y
    rw [List.mem_filter, List.mem_singleton]
    exact ⟨fun h => hall y h.1 h.2, fun h => h ▸ ⟨hx, hp⟩⟩
  exact List.perm_singleton.1 ((List.perm_ext_iff_of_nodup (hnodup.filter p)
    (List.nodup_singleton x)).2 hmem)

theorem flatMap_filter_of_nil {α β : Type} {p : α → Bool} {f : α → List β} (xs : List α)
    (h : ∀ x, p x = false → f x = []) : (xs.filter p).flatMap f = xs.flatMap f := by
  induction xs with
  | nil => rfl
  | cons x xs ih =>
      rw [List.filter_cons, List.flatMap_cons]
      cases hp : p x with
      | true => rw [if_pos rfl, List.flatMap_cons, ih]
      | false => rw [if_neg Bool.false_ne_true, h x hp, List.nil_append, ih]

variable {ρ κ ε : Type} [DecidableEq κ] [DecidableEq ε] {rows : List ρ} {key : ρ → κ}
  {entries : ρ → List ε} {keyOf : ε → κ}

omit [DecidableEq κ] in
theorem mem_collected {e : ε} :
    e ∈ (rows.flatMap entries).dedup ↔ ∃ r ∈ rows, e ∈ entries r := by
  rw [List.mem_dedup, List.mem_flatMap]

/-- Of the collected entries those of one key are the entries of any row with it. -/
theorem count_collected (hkey : ∀ r ∈ rows, ∀ e ∈ entries r, keyOf e = key r)
    (hentries : ∀ r ∈ rows, ∀ r' ∈ rows, key r = key r' → ∀ e, e ∈ entries r → e ∈ entries r')
    {r : ρ} (hr : r ∈ rows) :
    ((rows.flatMap entries).dedup.map keyOf).count (key r) = (entries r).dedup.length := by
  rw [List.count_eq_countP, List.countP_map, List.countP_eq_length_filter]
  apply List.Perm.length_eq
  rw [List.perm_ext_iff_of_nodup ((List.nodup_dedup _).filter _) (List.nodup_dedup _)]
  intro e
  rw [List.mem_filter, mem_collected, List.mem_dedup]
  constructor
  · rintro ⟨⟨r', hr', he⟩, hsame⟩
    have hkeys : keyOf e = key r := by simpa using hsame
    exact hentries r' hr' r hr ((hkey r' hr' e he).symm.trans hkeys) e he
  · intro he
    refine ⟨⟨r, hr, he⟩, ?_⟩
    rw [Function.comp_apply, beq_iff_eq]
    exact hkey r hr e he

/-- Collecting the distinct entries of rows gives one for each row just if every row has as many
entries as there are rows with its key. -/
theorem perm_collected_iff (hkey : ∀ r ∈ rows, ∀ e ∈ entries r, keyOf e = key r)
    (hentries : ∀ r ∈ rows, ∀ r' ∈ rows, key r = key r' → ∀ e, e ∈ entries r → e ∈ entries r') :
    ((rows.flatMap entries).dedup.map keyOf).Perm (rows.map key) ↔
      ∀ r ∈ rows, rows.countP (fun r' => key r' = key r) = (entries r).dedup.length := by
  have hrows (r : ρ) : (rows.map key).count (key r) = rows.countP fun r' => key r' = key r := by
    rw [List.count_eq_countP, List.countP_map]
    rfl
  rw [List.perm_iff_count]
  constructor
  · intro hcount r hr
    rw [← hrows, ← hcount, count_collected hkey hentries hr]
  · intro hcount k
    by_cases hk : k ∈ rows.map key
    · obtain ⟨r, hr, rfl⟩ := List.mem_map.1 hk
      rw [count_collected hkey hentries hr, hrows, hcount r hr]
    · rw [List.count_eq_zero_of_not_mem hk, List.count_eq_zero]
      intro hmem
      obtain ⟨e, he, rfl⟩ := List.mem_map.1 hmem
      obtain ⟨r, hr, her⟩ := mem_collected.1 he
      exact hk (List.mem_map.2 ⟨r, hr, (hkey r hr e her).symm⟩)

end AtlasOfUs.Library
