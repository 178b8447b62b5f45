import AtlasOfUs.Library.Ledger

namespace AtlasOfUs.Library.Graph

variable {Id V : Type} {g g' : Graph Id V}

/-- No two edges have the same type and the same ends. -/
def Simple (g : Graph Id V) : Prop := (g.edges.map Edge.key).Nodup

instance [DecidableEq Id] (g : Graph Id V) : Decidable g.Simple :=
  inferInstanceAs (Decidable (List.Nodup _))

namespace Simple

theorem of_sublist (h : g.Simple) (hedges : g'.edges.Sublist g.edges) : g'.Simple :=
  h.sublist (hedges.map _)

theorem of_edges (h : g.Simple) (hedges : g'.edges = g.edges) : g'.Simple :=
  h.of_sublist (hedges ▸ List.Sublist.refl _)

theorem filterEdges (h : g.Simple) (p : Edge Id V → Bool) : (g.filterEdges p).Simple :=
  h.of_sublist List.filter_sublist

theorem setEdges (h : g.Simple) (p : Edge Id V → Bool) (f : Props V → Props V) :
    (g.setEdges p f).Simple := by
  have hkeys : (g.setEdges p f).edges.map Edge.key = g.edges.map Edge.key := by
    change (g.edges.map fun e => if p e then { e with props := f e.props } else e).map Edge.key = _
    rw [List.map_map]
    apply List.map_congr_left
    intro e _
    by_cases hp : p e = true
    · rw [Function.comp_apply, if_pos hp]
      rfl
    · rw [Function.comp_apply, if_neg hp]
  rw [Simple, hkeys]
  exact h

end Simple

section Decidable

variable [DecidableEq Id] {type : String} {s t : Id} {props : Props V} {f : Props V → Props V}

theorem linked_iff_key : g.Linked type s t ↔ (type, s, t) ∈ g.edges.map Edge.key := by
  have hkey : ∀ e : Edge Id V, Edge.between type s t e = true ↔ e.key = (type, s, t) := by
    intro e
    rw [between_iff, Edge.key, Prod.mk.injEq, Prod.mk.injEq]
  rw [List.mem_map]
  exact exists_congr fun e => and_congr_right fun _ => hkey e

/-- An edge may be created where there is none of its type yet, or where an end is missing. -/
theorem simple_createEdge_iff (h : g.Simple) :
    (g.createEdge type s t props).Simple ↔
      (s ∈ g.nodeIds ∧ t ∈ g.nodeIds → ¬ g.Linked type s t) := by
  rw [Simple, createEdge_edges]
  by_cases hmem : s ∈ g.nodeIds ∧ t ∈ g.nodeIds
  · rw [if_pos hmem, List.map_append, List.nodup_append, linked_iff_key]
    constructor
    · rintro ⟨-, -, hdisjoint⟩ - hold
      exact hdisjoint _ hold _ (List.mem_singleton_self _) rfl
    · intro hnew
      refine ⟨h, List.nodup_singleton _, ?_⟩
      rintro key hkey key' hkey' rfl
      obtain rfl := List.mem_singleton.1 hkey'
      exact hnew hmem hkey
  · rw [if_neg hmem]
    exact iff_of_true h fun hboth => absurd hboth hmem

theorem Simple.createEdge (h : g.Simple) (hnew : ¬ g.Linked type s t) :
    (g.createEdge type s t props).Simple :=
  (simple_createEdge_iff h).2 fun _ => hnew

theorem Simple.mergeEdge (h : g.Simple) : (g.mergeEdge type s t f).Simple := by
  rw [Graph.mergeEdge]
  by_cases hany : g.edges.any (Edge.between type s t) = true
  · rw [if_pos hany]
    exact h.setEdges _ f
  · rw [if_neg hany]
    exact h.createEdge fun hlinked => hany (linked_iff.1 hlinked)

theorem Simple.detachDelete (h : g.Simple) (p : Node Id V → Bool) : (g.detachDelete p).Simple :=
  h.of_sublist List.filter_sublist

/-- An edge may be replaced by one of another type between the same nodes where
no other edge of that type joins them. -/
theorem simple_replaceEdge_iff (h : g.Simple) {r : Edge Id V} (hr : r ∈ g.edges) :
    ((g.createEdge type r.source r.target props).deleteEdges fun e => e.id = r.id).Simple ↔
      ∀ e ∈ g.edges, e.key = (type, r.source, r.target) → e.id = r.id := by
  have hfresh : g.freshId ≠ r.id := fun heq =>
    g.freshId_notMem_edgeIds (heq ▸ id_mem_edgeIds hr)
  have hedges : ((g.createEdge type r.source r.target props).deleteEdges fun e => e.id = r.id).edges =
      g.edges.filter (fun e => !decide (e.id = r.id)) ++
        [⟨g.freshId, type, r.source, r.target, props⟩] := by
    rw [deleteEdges_edges, createEdge_of_mem (g.source_mem r hr) (g.target_mem r hr),
      List.filter_append]
    simp [hfresh]
  rw [Simple, hedges, List.map_append, List.nodup_append]
  constructor
  · rintro ⟨-, -, hdisjoint⟩ e he hkey
    by_contra hid
    have hkept : e ∈ g.edges.filter fun e => !decide (e.id = r.id) :=
      List.mem_filter.2 ⟨he, by simpa using hid⟩
    exact hdisjoint e.key (List.mem_map_of_mem hkept) _ (List.mem_singleton_self _) hkey
  · intro hnone
    refine ⟨h.sublist (List.filter_sublist.map _), List.nodup_singleton _, ?_⟩
    rintro key hkey key' hkey' rfl
    obtain ⟨e, he, hekey⟩ := List.mem_map.1 hkey
    obtain ⟨he, hid⟩ := List.mem_filter.1 he
    rw [List.map_singleton, List.mem_singleton] at hkey'
    have hsame : e.id = r.id := hnone e he (hekey.trans hkey')
    simp [hsame] at hid

end Decidable

end AtlasOfUs.Library.Graph
