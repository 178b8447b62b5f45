import AtlasOfUs.Library.PropertyGraph

namespace AtlasOfUs.Library

variable {Id V : Type}

/-- Of the edges only addressed ones differ, and no node does. -/
structure OnlyEdges (addressed : Edge Id V → Prop) (g g' : Graph Id V) : Prop where
  nodes : g'.nodes = g.nodes
  edges : ∀ e, ¬ addressed e → (e ∈ g'.edges ↔ e ∈ g.edges)

/-- The edge `i` at most is changed or replaced by one between its endpoints. -/
structure OnlyEdge (i : Id) (g g' : Graph Id V) : Prop where
  nodes : g'.nodes = g.nodes
  kept : ∀ e ∈ g.edges, e.id ≠ i → e ∈ g'.edges
  new : ∀ e ∈ g'.edges, e ∉ g.edges →
    ∃ r ∈ g.edges, r.id = i ∧ e.source = r.source ∧ e.target = r.target
  single : ∀ e ∈ g'.edges, ∀ e' ∈ g'.edges, e ∉ g.edges → e' ∉ g.edges → e = e'

structure OnlyNode (i : Id) (g g' : Graph Id V) : Prop where
  edges : g'.edges = g.edges
  nodes : ∀ n, n.id ≠ i → (n ∈ g'.nodes ↔ n ∈ g.nodes)

theorem OnlyEdges.refl (addressed : Edge Id V → Prop) (g : Graph Id V) :
    OnlyEdges addressed g g := ⟨rfl, fun _ _ => Iff.rfl⟩

theorem OnlyEdge.refl (i : Id) (g : Graph Id V) : OnlyEdge i g g where
  nodes := rfl
  kept := fun _ he _ => he
  new := fun _ he hne => absurd he hne
  single := fun _ he _ _ hne => absurd he hne

theorem OnlyNode.refl (i : Id) (g : Graph Id V) : OnlyNode i g g := ⟨rfl, fun _ _ => Iff.rfl⟩

namespace Graph

variable {g : Graph Id V} {f : Props V → Props V}

theorem props_eq_of_mem {e : Edge Id V} {props : Props V} (he : e ∈ g.edges)
    (h : { e with props := props } ∈ g.edges) : props = e.props :=
  congrArg Edge.props (edge_eq_of_id h he rfl)

section SetEdges

variable {p : Edge Id V → Bool}

theorem mem_setEdges {e : Edge Id V} :
    e ∈ (g.setEdges p f).edges ↔
      (e ∈ g.edges ∧ p e = false) ∨ ∃ r ∈ g.edges, p r = true ∧ e = { r with props := f r.props } := by
  constructor
  · intro he
    obtain ⟨r, hr, rfl⟩ := List.mem_map.1 he
    by_cases hp : p r = true
    · exact .inr ⟨r, hr, hp, if_pos hp⟩
    · rw [if_neg hp]
      exact .inl ⟨hr, Bool.eq_false_iff.2 hp⟩
  · rintro (⟨he, hp⟩ | ⟨r, hr, hp, rfl⟩)
    · refine List.mem_map.2 ⟨e, he, ?_⟩
      rw [hp]
      rfl
    · exact List.mem_map.2 ⟨r, hr, if_pos hp⟩

theorem setEdges_of_fixed (h : ∀ e ∈ g.edges, p e = true → f e.props = e.props) :
    (g.setEdges p f).edges = g.edges := by
  refine (List.map_congr_left fun e he => ?_).trans (List.map_id g.edges)
  by_cases hp : p e = true
  · rw [if_pos hp, h e he hp]
    rfl
  · rw [if_neg hp]
    rfl

theorem setEdges_eq_self (h : ∀ e ∈ g.edges, p e = true → f e.props = e.props) :
    g.setEdges p f = g := by
  apply Graph.ext
  · rfl
  · exact setEdges_of_fixed h
  · rfl
  · rfl

theorem fixed_of_onlyEdges {addressed : Edge Id V → Prop}
    (h : OnlyEdges addressed g (g.setEdges p f)) {e : Edge Id V} (he : e ∈ g.edges)
    (hp : p e = true) (hne : ¬ addressed { e with props := f e.props }) : f e.props = e.props :=
  props_eq_of_mem he ((h.edges _ hne).1 (mem_setEdges.2 (.inr ⟨e, he, hp, rfl⟩)))

end SetEdges

section Merge

variable [DecidableEq Id] {type : String} {s t s' t' : Id}

theorem between_iff {e : Edge Id V} :
    Edge.between type s t e = true ↔ e.type = type ∧ e.source = s ∧ e.target = t := by
  simp [Edge.between, and_assoc]

theorem onlyEdges_mergeEdge_self :
    OnlyEdges (fun e => e.source = s ∧ e.target = t) g (g.mergeEdge type s t f) := by
  refine ⟨g.mergeEdge_nodes type s t f, fun e hne => ?_⟩
  unfold mergeEdge
  split
  · rw [mem_setEdges]
    constructor
    · rintro (⟨he, -⟩ | ⟨r, -, hr, rfl⟩)
      · exact he
      · exact absurd (between_iff.1 hr).2 hne
    · refine fun he => .inl ⟨he, Bool.eq_false_iff.2 fun hb => hne (between_iff.1 hb).2⟩
  · rw [createEdge_edges]
    split
    · rw [List.mem_append, List.mem_singleton]
      refine or_iff_left ?_
      rintro rfl
      exact hne ⟨rfl, rfl⟩
    · exact Iff.rfl

/-- A merge leaves all other edges alone exactly if it merges between the
addressed nodes or finds what it would write. -/
theorem onlyEdges_mergeEdge_iff :
    OnlyEdges (fun e => e.source = s' ∧ e.target = t') g (g.mergeEdge type s t f) ↔
      (s = s' ∧ t = t') ∨ (s ∈ g.nodeIds → t ∈ g.nodeIds →
        (∃ e ∈ g.edges, Edge.between type s t e = true) ∧
          ∀ e ∈ g.edges, Edge.between type s t e = true → f e.props = e.props) := by
  constructor
  · intro h
    by_cases haddr : s = s' ∧ t = t'
    · exact .inl haddr
    · refine .inr fun hs ht => ?_
      unfold mergeEdge at h
      split at h
      case isTrue hany =>
        refine ⟨List.any_eq_true.1 hany, fun e he hb => fixed_of_onlyEdges h he hb ?_⟩
        obtain ⟨-, rfl, rfl⟩ := between_iff.1 hb
        exact haddr
      case isFalse =>
        have hnew := (h.edges ⟨g.freshId, type, s, t, f Props.empty⟩ haddr).1 (by
          rw [createEdge_of_mem hs ht]
          exact List.mem_append_right _ (List.mem_singleton_self _))
        exact absurd (id_mem_edgeIds hnew) g.freshId_notMem_edgeIds
  · rintro (⟨rfl, rfl⟩ | hidle)
    · exact onlyEdges_mergeEdge_self
    · refine ⟨g.mergeEdge_nodes type s t f, fun e _ => ?_⟩
      unfold mergeEdge
      split
      case isTrue hany =>
        obtain ⟨r, hr, hb⟩ := List.any_eq_true.1 hany
        obtain ⟨hs, ht⟩ := mem_nodeIds_of_between hr hb
        rw [setEdges_of_fixed (hidle hs ht).2]
      case isFalse hany =>
        rw [createEdge_of_not_mem]
        rintro ⟨hs, ht⟩
        exact hany (List.any_eq_true.2 (hidle hs ht).1)

theorem any_between_mergeEdge (g : Graph Id V) (type : String) (s t : Id) (f : Props V → Props V) :
    (g.mergeEdge type s t f).edges.any (Edge.between type s t) = true ↔
      s ∈ g.nodeIds ∧ t ∈ g.nodeIds := by
  rw [List.any_eq_true]
  constructor
  · rintro ⟨e, he, hb⟩
    have hends := mem_nodeIds_of_between he hb
    simpa only [nodeIds, mergeEdge_nodes] using hends
  · rintro ⟨hs, ht⟩
    unfold mergeEdge
    split
    case isTrue hany =>
      obtain ⟨r, hr, hb⟩ := List.any_eq_true.1 hany
      exact ⟨_, mem_setEdges.2 (.inr ⟨r, hr, hb, rfl⟩), hb⟩
    case isFalse =>
      refine ⟨⟨g.freshId, type, s, t, f Props.empty⟩, ?_, between_iff.2 ⟨rfl, rfl, rfl⟩⟩
      rw [createEdge_of_mem hs ht]
      exact List.mem_append_right _ (List.mem_singleton_self _)

theorem mem_mergeEdge {e : Edge Id V} :
    e ∈ (g.mergeEdge type s t f).edges ↔
      (e ∈ g.edges ∧ Edge.between type s t e = false) ∨
        (∃ r ∈ g.edges, Edge.between type s t r = true ∧ e = { r with props := f r.props }) ∨
        (g.edges.any (Edge.between type s t) = false ∧ s ∈ g.nodeIds ∧ t ∈ g.nodeIds ∧
          e = ⟨g.freshId, type, s, t, f Props.empty⟩) := by
  unfold mergeEdge
  split
  case isTrue hany =>
    rw [mem_setEdges]
    refine or_congr_right (or_iff_left ?_).symm
    rintro ⟨hnone, -⟩
    rw [hany] at hnone
    cases hnone
  case isFalse hany =>
    have hall : ∀ r ∈ g.edges, Edge.between type s t r = false := by
      intro r hr
      rw [Bool.eq_false_iff]
      exact fun hb => hany (List.any_eq_true.2 ⟨r, hr, hb⟩)
    rw [createEdge_edges]
    split
    case isTrue hends =>
      rw [List.mem_append, List.mem_singleton]
      constructor
      · rintro (he | rfl)
        · exact .inl ⟨he, hall e he⟩
        · exact .inr (.inr ⟨Bool.eq_false_iff.2 hany, hends.1, hends.2, rfl⟩)
      · rintro (⟨he, -⟩ | ⟨r, hr, hb, -⟩ | ⟨-, -, -, rfl⟩)
        · exact .inl he
        · rw [hall r hr] at hb
          cases hb
        · exact .inr rfl
    case isFalse hends =>
      constructor
      · exact fun he => .inl ⟨he, hall e he⟩
      · rintro (⟨he, -⟩ | ⟨r, hr, hb, -⟩ | ⟨-, hs, ht, -⟩)
        · exact he
        · rw [hall r hr] at hb
          cases hb
        · exact absurd ⟨hs, ht⟩ hends

theorem mergeEdge_mergeEdge (hf : ∀ props, f (f props) = f props) :
    (g.mergeEdge type s t f).mergeEdge type s t f = g.mergeEdge type s t f := by
  by_cases hany : (g.mergeEdge type s t f).edges.any (Edge.between type s t) = true
  · rw [mergeEdge, if_pos hany]
    apply setEdges_eq_self
    intro e he hb
    rcases mem_mergeEdge.1 he with ⟨-, hother⟩ | ⟨r, -, -, rfl⟩ | ⟨-, -, -, rfl⟩
    · rw [hb] at hother
      cases hother
    · exact hf r.props
    · exact hf Props.empty
  · have hends : ¬ (s ∈ (g.mergeEdge type s t f).nodeIds ∧ t ∈ (g.mergeEdge type s t f).nodeIds) := by
      rw [nodeIds, mergeEdge_nodes]
      exact fun h => hany ((any_between_mergeEdge g type s t f).2 h)
    rw [mergeEdge, if_neg hany, createEdge_of_not_mem hends]

end Merge

theorem mem_editNodes {p : Node Id V → Bool} {ls : List String → List String} {n : Node Id V} :
    n ∈ (g.editNodes p ls f).nodes ↔ (n ∈ g.nodes ∧ p n = false) ∨
      ∃ m ∈ g.nodes, p m = true ∧ n = ⟨m.id, ls m.labels, f m.props⟩ := by
  constructor
  · intro hn
    obtain ⟨m, hm, rfl⟩ := List.mem_map.1 hn
    by_cases hp : p m = true
    · exact .inr ⟨m, hm, hp, if_pos hp⟩
    · rw [if_neg hp]
      exact .inl ⟨hm, Bool.eq_false_iff.2 hp⟩
  · rintro (⟨hn, hp⟩ | ⟨m, hm, hp, rfl⟩)
    · refine List.mem_map.2 ⟨n, hn, ?_⟩
      rw [hp]
      rfl
    · exact List.mem_map.2 ⟨m, hm, if_pos hp⟩

section ById

variable [DecidableEq Id] {i j : Id}

theorem onlyEdge_setEdges_iff :
    OnlyEdge i g (g.setEdges (fun r => r.id = j) f) ↔
      j = i ∨ ∀ r ∈ g.edges, r.id = j → f r.props = r.props := by
  constructor
  · intro h
    by_cases hij : j = i
    · exact .inl hij
    · refine .inr fun r hr hid => ?_
      rcases mem_setEdges.1 (h.kept r hr (hid ▸ hij)) with ⟨-, hp⟩ | ⟨r', hr', -, heq⟩
      · simp [hid] at hp
      · obtain rfl := edge_eq_of_id hr' hr (congrArg Edge.id heq).symm
        exact (congrArg Edge.props heq).symm
  · rintro (rfl | hidle)
    · refine ⟨rfl, fun e he hne => mem_setEdges.2 (.inl ⟨he, decide_eq_false hne⟩), ?_, ?_⟩
      · intro e he hnew
        rcases mem_setEdges.1 he with ⟨he, -⟩ | ⟨r, hr, hid, rfl⟩
        · exact absurd he hnew
        · exact ⟨r, hr, of_decide_eq_true hid, rfl, rfl⟩
      · intro e he e' he' hnew hnew'
        rcases mem_setEdges.1 he with ⟨he, -⟩ | ⟨r, hr, hid, rfl⟩
        · exact absurd he hnew
        · rcases mem_setEdges.1 he' with ⟨he', -⟩ | ⟨r', hr', hid', rfl⟩
          · exact absurd he' hnew'
          · rw [edge_eq_of_id hr hr' ((of_decide_eq_true hid).trans (of_decide_eq_true hid').symm)]
    · have hedges : (g.setEdges (fun r => r.id = j) f).edges = g.edges :=
        setEdges_of_fixed fun e he hid => hidle e he (of_decide_eq_true hid)
      refine ⟨rfl, fun e he _ => hedges ▸ he, fun e he hnew => absurd (hedges ▸ he) hnew,
        fun e he _ _ hnew => absurd (hedges ▸ he) hnew⟩

theorem onlyEdge_replace_iff {r : Edge Id V} (hr : r ∈ g.edges) (type : String) (props : Props V) :
    OnlyEdge i g ((g.createEdge type r.source r.target props).deleteEdges (fun e => e.id = r.id)) ↔
      r.id = i := by
  have hmem : ∀ e, e ∈ ((g.createEdge type r.source r.target props).deleteEdges
      (fun e => e.id = r.id)).edges ↔
      (e ∈ g.edges ∨ e = ⟨g.freshId, type, r.source, r.target, props⟩) ∧ e.id ≠ r.id := by
    intro e
    rw [deleteEdges_edges, createEdge_of_mem (g.source_mem r hr) (g.target_mem r hr),
      List.mem_filter, List.mem_append, List.mem_singleton]
    simp
  constructor
  · intro h
    by_contra hne
    exact ((hmem r).1 (h.kept r hr hne)).2 rfl
  · rintro rfl
    refine ⟨by simp, fun e he hne => (hmem e).2 ⟨.inl he, hne⟩, ?_, ?_⟩
    · intro e he hnew
      rcases ((hmem e).1 he).1 with he | rfl
      · exact absurd he hnew
      · exact ⟨r, hr, rfl, rfl, rfl⟩
    · intro e he e' he' hnew hnew'
      rcases ((hmem e).1 he).1 with he | rfl
      · exact absurd he hnew
      · rcases ((hmem e').1 he').1 with he' | rfl
        · exact absurd he' hnew'
        · rfl

theorem onlyNode_editNodes_iff {ls : List String → List String} :
    OnlyNode i g (g.editNodes (fun n => n.id = j) ls f) ↔
      j = i ∨ ∀ n ∈ g.nodes, n.id = j → ls n.labels = n.labels ∧ f n.props = n.props := by
  constructor
  · intro h
    by_cases hij : j = i
    · exact .inl hij
    · refine .inr fun n hn hid => ?_
      have hedited := (h.nodes ⟨n.id, ls n.labels, f n.props⟩ (hid ▸ hij)).1
        (mem_editNodes.2 (.inr ⟨n, hn, decide_eq_true hid, rfl⟩))
      have heq := node_eq_of_id hedited hn rfl
      exact ⟨congrArg Node.labels heq, congrArg Node.props heq⟩
  · intro h
    refine ⟨rfl, fun n hne => ?_⟩
    rw [mem_editNodes]
    rcases h with rfl | hidle
    · constructor
      · rintro (⟨hn, -⟩ | ⟨m, -, hm, rfl⟩)
        · exact hn
        · exact absurd (of_decide_eq_true hm) hne
      · exact fun hn => .inl ⟨hn, decide_eq_false hne⟩
    · constructor
      · rintro (⟨hn, -⟩ | ⟨m, hm, hid, rfl⟩)
        · exact hn
        · obtain ⟨hlabels, hprops⟩ := hidle m hm (of_decide_eq_true hid)
          rw [hlabels, hprops]
          exact hm
      · intro hn
        by_cases hid : n.id = j
        · obtain ⟨hlabels, hprops⟩ := hidle n hn hid
          exact .inr ⟨n, hn, decide_eq_true hid, by rw [hlabels, hprops]⟩
        · exact .inl ⟨hn, decide_eq_false hid⟩

end ById

end Graph

end AtlasOfUs.Library
