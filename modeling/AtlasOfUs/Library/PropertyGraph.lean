import Mathlib.Data.List.Nodup

namespace AtlasOfUs.Library

abbrev Props (V : Type) := String → Option V

structure Node (Id V : Type) where
  id : Id
  labels : List String
  props : Props V

structure Edge (Id V : Type) where
  id : Id
  type : String
  source : Id
  target : Id
  props : Props V

/-- How a store picks ids for what it creates. An id may come back after its
element was deleted, but it never names two elements at once. -/
structure IdSupply (Id : Type) where
  fresh : Nat → List Id → Id
  fresh_notMem : ∀ n ids, fresh n ids ∉ ids

/-- A property graph: ids name one element each and no edge dangles. -/
@[ext]
structure Graph (Id V : Type) where
  nodes : List (Node Id V)
  edges : List (Edge Id V)
  supply : IdSupply Id
  issued : Nat
  nodeIds_nodup : (nodes.map Node.id).Nodup
  edgeIds_nodup : (edges.map Edge.id).Nodup
  source_mem : ∀ e ∈ edges, e.source ∈ nodes.map Node.id
  target_mem : ∀ e ∈ edges, e.target ∈ nodes.map Node.id

variable {Id V : Type}

theorem nodup_map_append_singleton {α β : Type} (f : α → β) {xs : List α} {x : α}
    (h : (xs.map f).Nodup) (hx : f x ∉ xs.map f) : ((xs ++ [x]).map f).Nodup := by
  rw [List.map_append, List.nodup_append]
  refine ⟨h, by simp, fun a ha b hb => ?_⟩
  rw [List.map_singleton, List.mem_singleton] at hb
  subst hb
  rintro rfl
  exact hx ha

def Node.hasLabel (l : String) (n : Node Id V) : Bool := n.labels.contains l

def Props.empty : Props V := fun _ => none

def Props.set (ps : Props V) (k : String) (v : V) : Props V :=
  fun k' => if k' = k then some v else ps k'

@[simp] theorem Props.empty_apply (k : String) : (Props.empty : Props V) k = none := rfl

@[simp] theorem Props.set_self (ps : Props V) (k : String) (v : V) : ps.set k v k = some v := by
  simp [Props.set]

@[simp] theorem Props.set_ne (ps : Props V) {k k' : String} (v : V) (h : k' ≠ k) :
    ps.set k v k' = ps k' := by
  simp [Props.set, h]

def Edge.between (type : String) (s t : Id) [DecidableEq Id] (e : Edge Id V) : Bool :=
  e.type = type && e.source = s && e.target = t

def Edge.content (e : Edge Id V) : String × Id × Id × Props V := (e.type, e.source, e.target, e.props)

namespace Graph

def nodeIds (g : Graph Id V) : List Id := g.nodes.map Node.id

def edgeIds (g : Graph Id V) : List Id := g.edges.map Edge.id

def freshId (g : Graph Id V) : Id := g.supply.fresh g.issued (g.nodeIds ++ g.edgeIds)

theorem freshId_notMem_nodeIds (g : Graph Id V) : g.freshId ∉ g.nodeIds := fun h =>
  g.supply.fresh_notMem g.issued _ (List.mem_append_left _ h)

theorem freshId_notMem_edgeIds (g : Graph Id V) : g.freshId ∉ g.edgeIds := fun h =>
  g.supply.fresh_notMem g.issued _ (List.mem_append_right _ h)

theorem mem_nodeIds {g : Graph Id V} {i : Id} : i ∈ g.nodeIds ↔ ∃ n ∈ g.nodes, n.id = i := by
  simp [nodeIds]

theorem id_mem_nodeIds {g : Graph Id V} {n : Node Id V} (h : n ∈ g.nodes) : n.id ∈ g.nodeIds :=
  mem_nodeIds.2 ⟨n, h, rfl⟩

theorem id_mem_edgeIds {g : Graph Id V} {e : Edge Id V} (h : e ∈ g.edges) : e.id ∈ g.edgeIds :=
  List.mem_map_of_mem h

theorem node_eq_of_id {g : Graph Id V} {n m : Node Id V} (hn : n ∈ g.nodes) (hm : m ∈ g.nodes)
    (h : n.id = m.id) : n = m :=
  List.inj_on_of_nodup_map g.nodeIds_nodup hn hm h

theorem edge_eq_of_id {g : Graph Id V} {e f : Edge Id V} (he : e ∈ g.edges) (hf : f ∈ g.edges)
    (h : e.id = f.id) : e = f :=
  List.inj_on_of_nodup_map g.edgeIds_nodup he hf h

def createNode (g : Graph Id V) (labels : List String) (props : Props V) : Graph Id V where
  nodes := g.nodes ++ [⟨g.freshId, labels, props⟩]
  edges := g.edges
  supply := g.supply
  issued := g.issued + 1
  nodeIds_nodup := nodup_map_append_singleton _ g.nodeIds_nodup g.freshId_notMem_nodeIds
  edgeIds_nodup := g.edgeIds_nodup
  source_mem := fun e he => by simpa using Or.inl (by simpa using g.source_mem e he)
  target_mem := fun e he => by simpa using Or.inl (by simpa using g.target_mem e he)

@[simp] theorem createNode_nodes (g : Graph Id V) (ls : List String) (ps : Props V) :
    (g.createNode ls ps).nodes = g.nodes ++ [⟨g.freshId, ls, ps⟩] := rfl

@[simp] theorem createNode_edges (g : Graph Id V) (ls : List String) (ps : Props V) :
    (g.createNode ls ps).edges = g.edges := rfl

@[simp] theorem createNode_nodeIds (g : Graph Id V) (ls : List String) (ps : Props V) :
    (g.createNode ls ps).nodeIds = g.nodeIds ++ [g.freshId] := by
  simp [nodeIds]

section Link

variable [DecidableEq Id]

/-- `CREATE (s)-[:type props]->(t)` on two nodes matched by id. Where one of
them is missing nothing matches and nothing is created. -/
def createEdge (g : Graph Id V) (type : String) (s t : Id) (props : Props V) : Graph Id V :=
  if h : s ∈ g.nodeIds ∧ t ∈ g.nodeIds then
    { nodes := g.nodes
      edges := g.edges ++ [⟨g.freshId, type, s, t, props⟩]
      supply := g.supply
      issued := g.issued + 1
      nodeIds_nodup := g.nodeIds_nodup
      edgeIds_nodup := nodup_map_append_singleton _ g.edgeIds_nodup g.freshId_notMem_edgeIds
      source_mem := fun e he => by
        rcases List.mem_append.1 he with he | he
        · exact g.source_mem e he
        · rw [List.mem_singleton.1 he]
          exact h.1
      target_mem := fun e he => by
        rcases List.mem_append.1 he with he | he
        · exact g.target_mem e he
        · rw [List.mem_singleton.1 he]
          exact h.2 }
  else g

@[simp] theorem createEdge_nodes (g : Graph Id V) (type : String) (s t : Id) (ps : Props V) :
    (g.createEdge type s t ps).nodes = g.nodes := by
  unfold createEdge
  split <;> rfl

@[simp] theorem createEdge_nodeIds (g : Graph Id V) (type : String) (s t : Id) (ps : Props V) :
    (g.createEdge type s t ps).nodeIds = g.nodeIds := by
  simp [nodeIds]

theorem createEdge_edges (g : Graph Id V) (type : String) (s t : Id) (ps : Props V) :
    (g.createEdge type s t ps).edges =
      if s ∈ g.nodeIds ∧ t ∈ g.nodeIds then g.edges ++ [⟨g.freshId, type, s, t, ps⟩]
      else g.edges := by
  unfold createEdge
  split <;> simp_all

theorem createEdge_of_mem {g : Graph Id V} {s t : Id} (hs : s ∈ g.nodeIds) (ht : t ∈ g.nodeIds)
    (type : String) (ps : Props V) :
    (g.createEdge type s t ps).edges = g.edges ++ [⟨g.freshId, type, s, t, ps⟩] := by
  rw [createEdge_edges, if_pos ⟨hs, ht⟩]

theorem createEdge_of_not_mem {g : Graph Id V} {s t : Id} (h : ¬ (s ∈ g.nodeIds ∧ t ∈ g.nodeIds))
    (type : String) (ps : Props V) : g.createEdge type s t ps = g := by
  simp [createEdge, h]

end Link

def filterEdges (g : Graph Id V) (p : Edge Id V → Bool) : Graph Id V where
  nodes := g.nodes
  edges := g.edges.filter p
  supply := g.supply
  issued := g.issued
  nodeIds_nodup := g.nodeIds_nodup
  edgeIds_nodup := g.edgeIds_nodup.sublist (List.filter_sublist.map _)
  source_mem := fun e he => g.source_mem e (List.mem_of_mem_filter he)
  target_mem := fun e he => g.target_mem e (List.mem_of_mem_filter he)

def deleteEdges (g : Graph Id V) (p : Edge Id V → Bool) : Graph Id V :=
  g.filterEdges (fun e => !p e)

@[simp] theorem deleteEdges_nodes (g : Graph Id V) (p : Edge Id V → Bool) :
    (g.deleteEdges p).nodes = g.nodes := rfl

@[simp] theorem deleteEdges_edges (g : Graph Id V) (p : Edge Id V → Bool) :
    (g.deleteEdges p).edges = g.edges.filter (fun e => !p e) := rfl

@[simp] theorem deleteEdges_nodeIds (g : Graph Id V) (p : Edge Id V → Bool) :
    (g.deleteEdges p).nodeIds = g.nodeIds := rfl

def doomed (g : Graph Id V) (p : Node Id V → Bool) : List Id := (g.nodes.filter p).map Node.id

theorem mem_doomed {g : Graph Id V} {p : Node Id V → Bool} {i : Id} :
    i ∈ g.doomed p ↔ ∃ n ∈ g.nodes, p n = true ∧ n.id = i := by
  simp [doomed, and_assoc]

theorem mem_survivors {g : Graph Id V} {p : Node Id V → Bool} {i : Id} (hi : i ∈ g.nodeIds)
    (hd : i ∉ g.doomed p) : i ∈ (g.nodes.filter (fun n => !p n)).map Node.id := by
  obtain ⟨n, hn, rfl⟩ := mem_nodeIds.1 hi
  refine List.mem_map_of_mem (List.mem_filter.2 ⟨hn, ?_⟩)
  cases hp : p n with
  | false => rfl
  | true => exact absurd (mem_doomed.2 ⟨n, hn, hp, rfl⟩) hd

section Detach

variable [DecidableEq Id]

/-- `DETACH DELETE n` of the nodes that satisfy `p`, with every edge at them. -/
def detachDelete (g : Graph Id V) (p : Node Id V → Bool) : Graph Id V where
  nodes := g.nodes.filter (fun n => !p n)
  edges := g.edges.filter (fun e => !(g.doomed p).contains e.source && !(g.doomed p).contains e.target)
  supply := g.supply
  issued := g.issued
  nodeIds_nodup := g.nodeIds_nodup.sublist (List.filter_sublist.map _)
  edgeIds_nodup := g.edgeIds_nodup.sublist (List.filter_sublist.map _)
  source_mem := fun e he => by
    obtain ⟨he, hd⟩ := List.mem_filter.1 he
    exact mem_survivors (g.source_mem e he) (by simp_all)
  target_mem := fun e he => by
    obtain ⟨he, hd⟩ := List.mem_filter.1 he
    exact mem_survivors (g.target_mem e he) (by simp_all)

@[simp] theorem detachDelete_nodes (g : Graph Id V) (p : Node Id V → Bool) :
    (g.detachDelete p).nodes = g.nodes.filter (fun n => !p n) := rfl

theorem mem_detachDelete_edges {g : Graph Id V} {p : Node Id V → Bool} {e : Edge Id V} :
    e ∈ (g.detachDelete p).edges ↔
      e ∈ g.edges ∧ e.source ∉ g.doomed p ∧ e.target ∉ g.doomed p := by
  simp [detachDelete]

theorem mem_detachDelete_nodeIds {g : Graph Id V} {p : Node Id V → Bool} {i : Id} :
    i ∈ (g.detachDelete p).nodeIds ↔ i ∈ g.nodeIds ∧ i ∉ g.doomed p := by
  constructor
  · intro h
    obtain ⟨n, hn, rfl⟩ := mem_nodeIds.1 h
    obtain ⟨hn, hp⟩ := List.mem_filter.1 hn
    refine ⟨id_mem_nodeIds hn, fun hd => ?_⟩
    obtain ⟨m, hm, hpm, hid⟩ := mem_doomed.1 hd
    rw [node_eq_of_id hm hn hid] at hpm
    simp [hpm] at hp
  · exact fun h => mem_survivors h.1 h.2

end Detach

def setNodes (g : Graph Id V) (p : Node Id V → Bool) (f : Props V → Props V) : Graph Id V where
  nodes := g.nodes.map (fun n => if p n then { n with props := f n.props } else n)
  edges := g.edges
  supply := g.supply
  issued := g.issued
  nodeIds_nodup := by
    rw [List.map_map]
    refine (List.map_congr_left fun n _ => ?_) ▸ g.nodeIds_nodup
    cases hp : p n <;> simp [hp]
  edgeIds_nodup := g.edgeIds_nodup
  source_mem := fun e he => by
    rw [List.map_map]
    refine (List.map_congr_left fun n _ => ?_) ▸ g.source_mem e he
    cases hp : p n <;> simp [hp]
  target_mem := fun e he => by
    rw [List.map_map]
    refine (List.map_congr_left fun n _ => ?_) ▸ g.target_mem e he
    cases hp : p n <;> simp [hp]

@[simp] theorem setNodes_nodes (g : Graph Id V) (p : Node Id V → Bool) (f : Props V → Props V) :
    (g.setNodes p f).nodes =
      g.nodes.map (fun n => if p n then { n with props := f n.props } else n) := rfl

@[simp] theorem setNodes_edges (g : Graph Id V) (p : Node Id V → Bool) (f : Props V → Props V) :
    (g.setNodes p f).edges = g.edges := rfl

@[simp] theorem setNodes_nodeIds (g : Graph Id V) (p : Node Id V → Bool) (f : Props V → Props V) :
    (g.setNodes p f).nodeIds = g.nodeIds := by
  rw [nodeIds, setNodes_nodes, List.map_map]
  refine List.map_congr_left fun n _ => ?_
  cases hp : p n <;> simp [hp]

/-- `SET` and `REMOVE` on the labels and properties of the nodes that satisfy `p`. -/
def editNodes (g : Graph Id V) (p : Node Id V → Bool) (labels : List String → List String)
    (props : Props V → Props V) : Graph Id V where
  nodes := g.nodes.map (fun n => if p n then ⟨n.id, labels n.labels, props n.props⟩ else n)
  edges := g.edges
  supply := g.supply
  issued := g.issued
  nodeIds_nodup := by
    rw [List.map_map]
    refine (List.map_congr_left fun n _ => ?_) ▸ g.nodeIds_nodup
    cases hp : p n <;> simp [hp]
  edgeIds_nodup := g.edgeIds_nodup
  source_mem := fun e he => by
    rw [List.map_map]
    refine (List.map_congr_left fun n _ => ?_) ▸ g.source_mem e he
    cases hp : p n <;> simp [hp]
  target_mem := fun e he => by
    rw [List.map_map]
    refine (List.map_congr_left fun n _ => ?_) ▸ g.target_mem e he
    cases hp : p n <;> simp [hp]

def setEdges (g : Graph Id V) (p : Edge Id V → Bool) (f : Props V → Props V) : Graph Id V where
  nodes := g.nodes
  edges := g.edges.map (fun e => if p e then { e with props := f e.props } else e)
  supply := g.supply
  issued := g.issued
  nodeIds_nodup := g.nodeIds_nodup
  edgeIds_nodup := by
    rw [List.map_map]
    refine (List.map_congr_left fun e _ => ?_) ▸ g.edgeIds_nodup
    cases hp : p e <;> simp [hp]
  source_mem := fun e he => by
    obtain ⟨e, he', rfl⟩ := List.mem_map.1 he
    cases hp : p e <;> simpa [hp] using g.source_mem e he'
  target_mem := fun e he => by
    obtain ⟨e, he', rfl⟩ := List.mem_map.1 he
    cases hp : p e <;> simpa [hp] using g.target_mem e he'

/-- `MERGE (s)-[r:type]->(t) SET r ...` on two nodes matched by id. -/
def mergeEdge [DecidableEq Id] (g : Graph Id V) (type : String) (s t : Id)
    (f : Props V → Props V) : Graph Id V :=
  if g.edges.any (Edge.between type s t) then g.setEdges (Edge.between type s t) f
  else g.createEdge type s t (f Props.empty)

section Merge

variable [DecidableEq Id]

theorem mem_nodeIds_of_between {g : Graph Id V} {type : String} {s t : Id} {e : Edge Id V}
    (he : e ∈ g.edges) (h : Edge.between type s t e = true) : s ∈ g.nodeIds ∧ t ∈ g.nodeIds := by
  simp only [Edge.between, Bool.and_eq_true, decide_eq_true_eq] at h
  exact ⟨h.1.2 ▸ g.source_mem e he, h.2 ▸ g.target_mem e he⟩

@[simp] theorem mergeEdge_nodes (g : Graph Id V) (type : String) (s t : Id)
    (f : Props V → Props V) : (g.mergeEdge type s t f).nodes = g.nodes := by
  unfold mergeEdge
  split
  · rfl
  · simp

end Merge

end Graph

end AtlasOfUs.Library
