import AtlasOfUs.Library.GraphFrame
import Mathlib.Logic.Relation

namespace AtlasOfUs.Library

section Acyclic

variable {α : Type}

def Acyclic (R : α → α → Prop) : Prop := ∀ a, ¬ Relation.TransGen R a a

theorem acyclic_of_rank {R : α → α → Prop} (rank : α → Nat) (hrank : ∀ a b, R a b → rank b < rank a) :
    Acyclic R := by
  have hpath : ∀ a b, Relation.TransGen R a b → rank b < rank a := by
    intro a b hab
    induction hab with
    | single hstep => exact hrank _ _ hstep
    | tail _ hstep ih => exact Nat.lt_trans (hrank _ _ hstep) ih
  intro a ha
  exact absurd (hpath a a ha) (Nat.lt_irrefl _)

theorem not_acyclic_of_loop {R : α → α → Prop} {a : α} (h : R a a) : ¬ Acyclic R :=
  fun hacyclic => hacyclic a (.single h)

end Acyclic

namespace Graph

variable {Id V : Type} [DecidableEq Id] {g : Graph Id V} {type type' : String} {s t s' t' : Id}
  {f : Props V → Props V}

/-- An edge of the type runs from the one to the other. -/
def Linked (g : Graph Id V) (type : String) (s t : Id) : Prop :=
  ∃ e ∈ g.edges, Edge.between type s t e = true

theorem linked_iff : g.Linked type s t ↔ g.edges.any (Edge.between type s t) = true :=
  List.any_eq_true.symm

theorem Linked.mem (h : g.Linked type s t) : s ∈ g.nodeIds ∧ t ∈ g.nodeIds := by
  obtain ⟨e, he, hb⟩ := h
  exact mem_nodeIds_of_between he hb

theorem linked_setEdges (p : Edge Id V → Bool) :
    (g.setEdges p f).Linked type s t ↔ g.Linked type s t := by
  constructor
  · rintro ⟨e, he, hb⟩
    rcases mem_setEdges.1 he with ⟨he, -⟩ | ⟨r, hr, -, rfl⟩
    · exact ⟨e, he, hb⟩
    · exact ⟨r, hr, hb⟩
  · rintro ⟨e, he, hb⟩
    by_cases hp : p e = true
    · exact ⟨{ e with props := f e.props }, mem_setEdges.2 (.inr ⟨e, he, hp, rfl⟩), hb⟩
    · exact ⟨e, mem_setEdges.2 (.inl ⟨he, Bool.eq_false_iff.2 hp⟩), hb⟩

theorem linked_createEdge {props : Props V} :
    (g.createEdge type s t props).Linked type' s' t' ↔ g.Linked type' s' t' ∨
      ((type = type' ∧ s = s' ∧ t = t') ∧ s ∈ g.nodeIds ∧ t ∈ g.nodeIds) := by
  rw [Linked, createEdge_edges]
  by_cases hmem : s ∈ g.nodeIds ∧ t ∈ g.nodeIds
  · rw [if_pos hmem]
    constructor
    · rintro ⟨e, he, hb⟩
      rcases List.mem_append.1 he with he | he
      · exact .inl ⟨e, he, hb⟩
      · obtain rfl := List.mem_singleton.1 he
        exact .inr ⟨between_iff.1 hb, hmem⟩
    · rintro (⟨e, he, hb⟩ | ⟨htriple, -⟩)
      · exact ⟨e, List.mem_append_left _ he, hb⟩
      · exact ⟨_, List.mem_append_right _ (List.mem_singleton_self _), between_iff.2 htriple⟩
  · rw [if_neg hmem]
    exact (or_iff_left fun h => hmem h.2).symm

theorem linked_mergeEdge :
    (g.mergeEdge type s t f).Linked type' s' t' ↔ g.Linked type' s' t' ∨
      ((type = type' ∧ s = s' ∧ t = t') ∧ s ∈ g.nodeIds ∧ t ∈ g.nodeIds) := by
  rw [mergeEdge]
  by_cases hany : g.edges.any (Edge.between type s t) = true
  · rw [if_pos hany, linked_setEdges]
    have hlinked : g.Linked type s t := linked_iff.2 hany
    refine (or_iff_left_of_imp ?_).symm
    rintro ⟨⟨rfl, rfl, rfl⟩, -⟩
    exact hlinked
  · rw [if_neg hany, linked_createEdge]

@[simp] theorem mergeEdge_nodeIds : (g.mergeEdge type s t f).nodeIds = g.nodeIds := by
  rw [nodeIds, mergeEdge_nodes, nodeIds]

theorem filter_edges_mergeEdge {p : Edge Id V → Bool}
    (hp : ∀ e, Edge.between type s t e = true → p e = false) :
    (g.mergeEdge type s t f).edges.filter p = g.edges.filter p := by
  rw [mergeEdge]
  by_cases hany : g.edges.any (Edge.between type s t) = true
  · rw [if_pos hany]
    change (g.edges.map fun e =>
      if Edge.between type s t e then { e with props := f e.props } else e).filter p = _
    generalize g.edges = edges
    induction edges with
    | nil => rfl
    | cons e edges ih =>
        rw [List.map_cons]
        by_cases hb : Edge.between type s t e = true
        · have hchanged : p { e with props := f e.props } = false := hp _ hb
          rw [if_pos hb, List.filter_cons_of_neg (by simp [hchanged]), ih,
            List.filter_cons_of_neg (by simp [hp e hb])]
        · rw [if_neg hb, List.filter_cons, List.filter_cons, ih]
  · rw [if_neg hany, createEdge_edges]
    by_cases hmem : s ∈ g.nodeIds ∧ t ∈ g.nodeIds
    · have hnew : p ⟨g.freshId, type, s, t, f Props.empty⟩ = false :=
        hp _ (between_iff.2 ⟨rfl, rfl, rfl⟩)
      rw [if_pos hmem, List.filter_append, List.filter_singleton, hnew]
      exact List.append_nil _
    · rw [if_neg hmem]

theorem mergeEdge_of_unlinked (hnew : ¬ g.Linked type s t) (hs : s ∈ g.nodeIds)
    (ht : t ∈ g.nodeIds) : (g.mergeEdge type s t f).edges =
      g.edges ++ [⟨g.freshId, type, s, t, f Props.empty⟩] := by
  rw [mergeEdge, if_neg fun hany => hnew (linked_iff.2 hany), createEdge_of_mem hs ht]

theorem mergeEdge_of_absent (hmem : ¬ (s ∈ g.nodeIds ∧ t ∈ g.nodeIds)) :
    g.mergeEdge type s t f = g := by
  have hnew : ¬ g.Linked type s t := fun hlinked => hmem hlinked.mem
  rw [mergeEdge, if_neg fun hany => hnew (linked_iff.2 hany), createEdge_of_not_mem hmem]

end Graph

end AtlasOfUs.Library
