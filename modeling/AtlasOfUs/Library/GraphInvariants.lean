import AtlasOfUs.Library.GraphFrame

namespace AtlasOfUs.Library.Graph

section Edges

variable {Id V : Type} {g g' : Graph Id V} {label : String} {P : Edge Id V → Prop}

def Leaves (g : Graph Id V) (label : String) (e : Edge Id V) : Prop :=
  ∃ n ∈ g.nodes, n.id = e.source ∧ n.hasLabel label = true

def EdgesLeaving (g : Graph Id V) (label : String) (P : Edge Id V → Prop) : Prop :=
  ∀ e ∈ g.edges, g.Leaves label e → P e

namespace EdgesLeaving

theorem of_subset (h : g.EdgesLeaving label P) (hedges : g'.edges ⊆ g.edges)
    (hnodes : ∀ e ∈ g'.edges, g'.Leaves label e → g.Leaves label e) : g'.EdgesLeaving label P :=
  fun e he hleaves => h e (hedges he) (hnodes e he hleaves)

theorem of_nodes (h : g.EdgesLeaving label P) (hedges : g'.edges ⊆ g.edges)
    (hnodes : g'.nodes ⊆ g.nodes) : g'.EdgesLeaving label P := by
  refine h.of_subset hedges fun e _ hleaves => ?_
  obtain ⟨n, hn, hid⟩ := hleaves
  exact ⟨n, hnodes hn, hid⟩

theorem createNode (h : g.EdgesLeaving label P) (labels : List String) (props : Props V) :
    (g.createNode labels props).EdgesLeaving label P := by
  refine h.of_subset (List.Subset.refl _) fun e he hleaves => ?_
  obtain ⟨n, hn, hid, hlabel⟩ := hleaves
  rw [createNode_nodes, List.mem_append, List.mem_singleton] at hn
  rcases hn with hn | rfl
  · exact ⟨n, hn, hid, hlabel⟩
  · have hsource : g.freshId = e.source := hid
    have hfresh : g.freshId ∈ g.nodeIds := by
      rw [hsource]
      exact g.source_mem e he
    exact absurd hfresh g.freshId_notMem_nodeIds

theorem deleteEdges (h : g.EdgesLeaving label P) (p : Edge Id V → Bool) :
    (g.deleteEdges p).EdgesLeaving label P :=
  h.of_nodes (fun _ he => List.mem_of_mem_filter he) (List.Subset.refl _)

theorem setNodes (h : g.EdgesLeaving label P) (p : Node Id V → Bool) (f : Props V → Props V) :
    (g.setNodes p f).EdgesLeaving label P := by
  refine h.of_subset (List.Subset.refl _) fun e _ hleaves => ?_
  obtain ⟨n, hn, hid, hlabel⟩ := hleaves
  obtain ⟨m, hm, rfl⟩ := List.mem_map.1 hn
  by_cases hp : p m = true
  · rw [if_pos hp] at hid hlabel
    exact ⟨m, hm, hid, hlabel⟩
  · rw [if_neg hp] at hid hlabel
    exact ⟨m, hm, hid, hlabel⟩

theorem setEdges (h : g.EdgesLeaving label P) (p : Edge Id V → Bool) {f : Props V → Props V}
    (hf : ∀ e, P e → P { e with props := f e.props }) : (g.setEdges p f).EdgesLeaving label P := by
  intro e he hleaves
  rcases mem_setEdges.1 he with ⟨he, -⟩ | ⟨r, hr, -, rfl⟩
  · exact h e he hleaves
  · exact hf r (h r hr hleaves)

section Decidable

variable [DecidableEq Id]

theorem createEdge (h : g.EdgesLeaving label P) {type : String} {s t : Id} {props : Props V}
    (hnew : (∃ n ∈ g.nodes, n.id = s ∧ n.hasLabel label = true) →
      P ⟨g.freshId, type, s, t, props⟩) :
    (g.createEdge type s t props).EdgesLeaving label P := by
  intro e he hleaves
  rw [Leaves, createEdge_nodes] at hleaves
  rw [createEdge_edges] at he
  split at he
  · rcases List.mem_append.1 he with he | he
    · exact h e he hleaves
    · obtain rfl := List.mem_singleton.1 he
      exact hnew hleaves
  · exact h e he hleaves

theorem mergeEdge (h : g.EdgesLeaving label P) {type : String} {s t : Id} {f : Props V → Props V}
    (hf : ∀ e, P e → P { e with props := f e.props })
    (hnew : g.edges.any (Edge.between type s t) = false →
      P ⟨g.freshId, type, s, t, f Props.empty⟩) :
    (g.mergeEdge type s t f).EdgesLeaving label P := by
  unfold Graph.mergeEdge
  by_cases hany : g.edges.any (Edge.between type s t) = true
  · rw [if_pos hany]
    exact h.setEdges _ hf
  · rw [if_neg hany]
    exact h.createEdge fun _ => hnew (Bool.eq_false_iff.2 hany)

theorem detachDelete (h : g.EdgesLeaving label P) (p : Node Id V → Bool) :
    (g.detachDelete p).EdgesLeaving label P :=
  h.of_nodes (fun _ he => (mem_detachDelete_edges.1 he).1) (fun _ hn => List.mem_of_mem_filter hn)

end Decidable

end EdgesLeaving

end Edges

section Labelled

variable {Id V : Type} [DecidableEq Id] {g : Graph Id V} {label type : String} {labels : List String}
  {props : Props V} {s t : Id}

def labelled (g : Graph Id V) (label : String) (i : Id) : Bool :=
  g.nodes.any fun n => n.id = i && n.hasLabel label

def edgesLeaving (g : Graph Id V) (label : String) : List (Edge Id V) :=
  g.edges.filter fun e => g.labelled label e.source

theorem mem_of_labelled (h : g.labelled label s = true) : s ∈ g.nodeIds := by
  obtain ⟨n, hn, hid⟩ := List.any_eq_true.1 h
  rw [Bool.and_eq_true, decide_eq_true_iff] at hid
  exact hid.1 ▸ id_mem_nodeIds hn

theorem labelled_freshId : g.labelled label g.freshId = false := by
  rw [← Bool.not_eq_true]
  exact fun h => g.freshId_notMem_nodeIds (mem_of_labelled h)

theorem labelled_createNode (h : labels.contains label = false) (i : Id) :
    (g.createNode labels props).labelled label i = g.labelled label i := by
  rw [labelled, createNode_nodes, List.any_append, List.any_cons, List.any_nil, Node.hasLabel, h,
    Bool.and_false, Bool.or_false, Bool.or_false, labelled]

@[simp] theorem labelled_createEdge (i : Id) :
    (g.createEdge type s t props).labelled label i = g.labelled label i := by
  rw [labelled, createEdge_nodes, labelled]

theorem edgesLeaving_createNode (h : labels.contains label = false) :
    (g.createNode labels props).edgesLeaving label = g.edgesLeaving label := by
  simp only [edgesLeaving, createNode_edges, labelled_createNode h]

theorem edgesLeaving_createEdge (hs : g.labelled label s = true) (ht : t ∈ g.nodeIds) :
    (g.createEdge type s t props).edgesLeaving label =
      g.edgesLeaving label ++ [⟨g.freshId, type, s, t, props⟩] := by
  simp only [edgesLeaving, createEdge_of_mem (mem_of_labelled hs) ht, labelled_createEdge,
    List.filter_append]
  rw [List.filter_singleton, hs]
  rfl

theorem edgesLeaving_createEdge_of_not (hs : g.labelled label s = false) :
    (g.createEdge type s t props).edgesLeaving label = g.edgesLeaving label := by
  simp only [edgesLeaving, createEdge_edges, labelled_createEdge]
  split
  · rw [List.filter_append, List.filter_singleton, hs]
    exact List.append_nil _
  · rfl

end Labelled

section Nodes

variable {Id V : Type} {g g' : Graph Id V} {P : List String → Props V → Prop}

def AllNodes (g : Graph Id V) (P : List String → Props V → Prop) : Prop :=
  ∀ n ∈ g.nodes, P n.labels n.props

theorem allNodes_congr (h : g'.nodes = g.nodes) : g'.AllNodes P ↔ g.AllNodes P := by
  rw [AllNodes, AllNodes, h]

theorem allNodes_createNode_iff {labels : List String} {props : Props V} :
    (g.createNode labels props).AllNodes P ↔ g.AllNodes P ∧ P labels props := by
  rw [AllNodes, createNode_nodes, List.forall_mem_append, List.forall_mem_singleton]
  rfl

theorem allNodes_editNodes_iff {p : Node Id V → Bool} {ls : List String → List String}
    {f : Props V → Props V} (h : g.AllNodes P) :
    (g.editNodes p ls f).AllNodes P ↔ ∀ n ∈ g.nodes, p n = true → P (ls n.labels) (f n.props) := by
  constructor
  · intro hall n hn hp
    exact hall _ (mem_editNodes.2 (.inr ⟨n, hn, hp, rfl⟩))
  · intro hedited n hn
    rcases mem_editNodes.1 hn with ⟨hn, -⟩ | ⟨m, hm, hp, rfl⟩
    · exact h n hn
    · exact hedited m hm hp

theorem setNodes_nodes_eq (p : Node Id V → Bool) (f : Props V → Props V) :
    (g.setNodes p f).nodes = (g.editNodes p id f).nodes := rfl

theorem allNodes_setNodes_iff {p : Node Id V → Bool} {f : Props V → Props V} (h : g.AllNodes P) :
    (g.setNodes p f).AllNodes P ↔ ∀ n ∈ g.nodes, p n = true → P n.labels (f n.props) :=
  (allNodes_congr (setNodes_nodes_eq p f)).trans (allNodes_editNodes_iff h)

theorem allNodes_setNodes_detachDelete_iff [DecidableEq Id] {p q : Node Id V → Bool}
    {f : Props V → Props V} (h : g.AllNodes P) :
    ((g.setNodes p f).detachDelete q).AllNodes P ↔
      ∀ n ∈ g.nodes, p n = true → q { n with props := f n.props } = false → P n.labels (f n.props) := by
  constructor
  · intro hall n hn hp hq
    refine hall { n with props := f n.props } (List.mem_filter.2 ⟨?_, ?_⟩)
    · exact List.mem_map.2 ⟨n, hn, if_pos hp⟩
    · rw [hq]
      rfl
  · intro hchanged n hn
    obtain ⟨hn, hq⟩ := List.mem_filter.1 hn
    rw [setNodes_nodes_eq] at hn
    rcases mem_editNodes.1 hn with ⟨hn, -⟩ | ⟨m, hm, hp, rfl⟩
    · exact h n hn
    · exact hchanged m hm hp (by simpa using hq)

end Nodes

end AtlasOfUs.Library.Graph
