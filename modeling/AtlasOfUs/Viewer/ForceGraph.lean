import AtlasOfUs.Library.Requests
import AtlasOfUs.Services

namespace AtlasOfUs.Viewer

open Library

structure Neo4jNode where
  elementId : ElementId
  labels : List String
  props : Json

structure Neo4jRelationship where
  elementId : ElementId
  startElementId : ElementId
  endElementId : ElementId
  type : String
  props : Json

/-- The state of the component. It has no members before anything is loaded. -/
structure GraphView where
  nodeRoot : Option Neo4jNode
  relationships : Option (List Neo4jRelationship)
  affiliates : Option (List Neo4jNode)

/-- What of a response is read. A failed request has empty lists. -/
structure Response where
  relationships : List Neo4jRelationship
  affiliates : List Neo4jNode

namespace ForceGraph

section Lists

variable {α : Type} (elementId : α → ElementId)

/-- The items of a response that are not among the existing ones. -/
def newOf (existing incoming : List α) : List α :=
  incoming.filter fun x => elementId x ∉ existing.map elementId

variable {elementId} {current incoming : List α} {others : List ElementId}

theorem mem_newOf {existing : List α} {x : α} :
    x ∈ newOf elementId existing incoming ↔ x ∈ incoming ∧ elementId x ∉ existing.map elementId := by
  rw [newOf, List.mem_filter, decide_eq_true_iff]

theorem nodup_newOf (existing : List α) (h : (incoming.map elementId).Nodup) :
    ((newOf elementId existing incoming).map elementId).Nodup :=
  h.sublist (List.filter_sublist.map elementId)

/-- What is appended keeps the ids distinct just if none of its ids is there already. -/
theorem nodup_append_newOf_iff (existing : List α)
    (hcurrent : (current.map elementId ++ others).Nodup)
    (hincoming : (incoming.map elementId).Nodup) :
    ((current ++ newOf elementId existing incoming).map elementId ++ others).Nodup ↔
      ∀ x ∈ incoming, elementId x ∉ existing.map elementId →
        elementId x ∉ current.map elementId ++ others := by
  have hperm : ((current ++ newOf elementId existing incoming).map elementId ++ others).Perm
      ((current.map elementId ++ others) ++ (newOf elementId existing incoming).map elementId) := by
    rw [List.map_append, List.append_assoc, List.append_assoc]
    exact List.Perm.append_left _ List.perm_append_comm
  rw [hperm.nodup_iff, List.nodup_append']
  constructor
  · rintro ⟨-, -, hdisjoint⟩ x hx hnew hmem
    exact hdisjoint hmem (List.mem_map_of_mem (mem_newOf.2 ⟨hx, hnew⟩))
  · intro hfresh
    refine ⟨hcurrent, nodup_newOf existing hincoming, ?_⟩
    rintro id hid hmem
    obtain ⟨x, hx, rfl⟩ := List.mem_map.1 hmem
    obtain ⟨hxin, hnew⟩ := mem_newOf.1 hx
    exact hfresh x hxin hnew hid

theorem mem_append_newOf {existing : List α}
    (hexisting : existing.map elementId ⊆ current.map elementId) {x : α}
    (hx : x ∈ incoming) :
    elementId x ∈ (current ++ newOf elementId existing incoming).map elementId := by
  rw [List.map_append, List.mem_append]
  by_cases hold : elementId x ∈ existing.map elementId
  · exact .inl (hexisting hold)
  · exact .inr (List.mem_map_of_mem (mem_newOf.2 ⟨hx, hold⟩))

end Lists

end ForceGraph

namespace GraphView

variable (view : GraphView)

def affiliateIds : List ElementId := (view.affiliates.getD []).map Neo4jNode.elementId

def relationshipIds : List ElementId :=
  (view.relationships.getD []).map Neo4jRelationship.elementId

/-- The ids of the nodes that are drawn: the affiliates, then the root. -/
def nodeIds : List ElementId := view.affiliateIds ++ view.nodeRoot.toList.map Neo4jNode.elementId

structure Distinct : Prop where
  nodes : view.nodeIds.Nodup
  relationships : view.relationshipIds.Nodup

/-- Every affiliate and every relationship of the response is there. -/
structure Contains (data : Response) : Prop where
  affiliates : ∀ n ∈ data.affiliates, n.elementId ∈ view.affiliateIds
  relationships : ∀ r ∈ data.relationships, r.elementId ∈ view.relationshipIds

structure Within (view' : GraphView) : Prop where
  affiliates : view.affiliateIds ⊆ view'.affiliateIds
  relationships : view.relationshipIds ⊆ view'.relationshipIds

variable {view} {view' view'' : GraphView} {data : Response}

theorem Within.refl : view.Within view := ⟨List.Subset.refl _, List.Subset.refl _⟩

theorem Within.trans (h : view.Within view') (h' : view'.Within view'') : view.Within view'' :=
  ⟨List.Subset.trans h.affiliates h'.affiliates, List.Subset.trans h.relationships h'.relationships⟩

theorem Contains.mono (h : view.Contains data) (hwithin : view.Within view') : view'.Contains data :=
  ⟨fun n hn => hwithin.affiliates (h.affiliates n hn),
    fun r hr => hwithin.relationships (h.relationships r hr)⟩

end GraphView

structure Response.Distinct (data : Response) : Prop where
  affiliates : (data.affiliates.map Neo4jNode.elementId).Nodup
  relationships : (data.relationships.map Neo4jRelationship.elementId).Nodup

/-- The component: its state, and the state that the handlers of the last render have captured. -/
structure ForceGraph where
  neo4jResponse : GraphView
  rendered : GraphView

namespace ForceGraph

inductive Input
  | loadMoreNodesById (nodeId : ElementId) (depth : Int)
  | render

structure Load where
  nodeId : ElementId
  depth : Int
  captured : GraphView

def handle : Input → ForceGraph → ForceGraph × Option Load
  | .loadMoreNodesById nodeId depth, s => (s, some ⟨nodeId, depth, s.rendered⟩)
  | .render, s => ({ s with rendered := s.neo4jResponse }, none)

/-- What `loadMoreNodesById` does to the latest state once its response is there. -/
def append (captured : GraphView) (data : Response) (prev : GraphView) : GraphView :=
  let newAffiliates := newOf Neo4jNode.elementId (captured.affiliates.getD []) data.affiliates
  let newRelationships :=
    newOf Neo4jRelationship.elementId (captured.relationships.getD []) data.relationships
  { prev with
    affiliates := some (prev.affiliates.getD [] ++ newAffiliates)
    relationships := some (prev.relationships.getD [] ++ newRelationships) }

def client : Client ForceGraph Input Load Response where
  handle := handle
  receive := fun load data s => { s with neo4jResponse := append load.captured data s.neo4jResponse }

/-- The component before the `i`-th happening after it shows a view. -/
def before (view : GraphView) (respond : Nat → Response) (happenings : List (Happening Input))
    (i : Nat) : Traffic ForceGraph Load :=
  stateAt (client.step respond) happenings ⟨⟨view, view⟩, [], []⟩ i

/-- The drawn ids are distinct, and what has arrived is there. -/
structure Sound (respond : Nat → Response) (t : Traffic ForceGraph Load) : Prop where
  distinct : t.state.neo4jResponse.Distinct
  present : ∀ k ∈ t.answered, t.state.neo4jResponse.Contains (respond k)

/-- What a response brings and the call did not know, nobody else has brought meanwhile, and it is
not the root. -/
structure Brings (data : Response) (captured view : GraphView) : Prop where
  affiliates : ∀ n ∈ data.affiliates, n.elementId ∉ captured.affiliateIds → n.elementId ∉ view.nodeIds
  relationships : ∀ r ∈ data.relationships,
    r.elementId ∉ captured.relationshipIds → r.elementId ∉ view.relationshipIds

/-- A response that arrives brings nothing that is there although its call did not know it. -/
def Undisturbed (respond : Nat → Response) (happening : Happening Input)
    (t : Traffic ForceGraph Load) : Prop :=
  ∀ k load, happening = .arrival k → t.Awaits k load →
    Brings (respond k) load.captured t.state.neo4jResponse

section Append

variable {captured view : GraphView} {data : Response}

theorem affiliateIds_append : (append captured data view).affiliateIds =
    (view.affiliates.getD [] ++
      newOf Neo4jNode.elementId (captured.affiliates.getD []) data.affiliates).map
        Neo4jNode.elementId := rfl

theorem relationshipIds_append : (append captured data view).relationshipIds =
    (view.relationships.getD [] ++
      newOf Neo4jRelationship.elementId (captured.relationships.getD []) data.relationships).map
        Neo4jRelationship.elementId := rfl

theorem distinct_append_iff (captured : GraphView) (hview : view.Distinct) (hdata : data.Distinct) :
    (append captured data view).Distinct ↔ Brings data captured view := by
  have hnodes := nodup_append_newOf_iff (captured.affiliates.getD []) hview.nodes hdata.affiliates
  have hold : (view.relationshipIds ++ []).Nodup := by
    rw [List.append_nil]
    exact hview.relationships
  have hrelationships := nodup_append_newOf_iff (captured.relationships.getD []) hold
    hdata.relationships
  rw [List.append_nil, List.append_nil] at hrelationships
  exact ⟨fun h => ⟨hnodes.1 h.nodes, hrelationships.1 h.relationships⟩,
    fun h => ⟨hnodes.2 h.affiliates, hrelationships.2 h.relationships⟩⟩

theorem within_append : view.Within (append captured data view) := by
  constructor
  · rw [affiliateIds_append, List.map_append]
    exact List.subset_append_left _ _
  · rw [relationshipIds_append, List.map_append]
    exact List.subset_append_left _ _

theorem contains_append (h : captured.Within view) : (append captured data view).Contains data :=
  ⟨fun _ hn => mem_append_newOf h.affiliates hn, fun _ hr => mem_append_newOf h.relationships hr⟩

end Append

structure Grown (t : Traffic ForceGraph Load) : Prop where
  rendered : t.state.rendered.Within t.state.neo4jResponse
  captured : ∀ load ∈ t.sent, load.captured.Within t.state.neo4jResponse

section Steps

variable {respond : Nat → Response} {t : Traffic ForceGraph Load}

theorem Grown.step (h : Grown t) (happening : Happening Input) :
    Grown (client.step respond happening t) := by
  cases happening with
  | input input =>
      cases input with
      | loadMoreNodesById nodeId depth =>
          refine ⟨h.rendered, fun load hload => ?_⟩
          rcases List.mem_append.1 hload with hold | hnew
          · exact h.captured load hold
          · obtain rfl := List.mem_singleton.1 hnew
            exact h.rendered
      | render =>
          refine ⟨GraphView.Within.refl, fun load hload => ?_⟩
          rcases List.mem_append.1 hload with hold | hnew
          · exact h.captured load hold
          · exact absurd hnew List.not_mem_nil
  | arrival k =>
      rcases Client.arrival_cases client respond k t with ⟨load, hload⟩ | hsame
      · rw [Client.step_arrival hload]
        exact ⟨h.rendered.trans within_append,
          fun load hload => (h.captured load hload).trans within_append⟩
      · rwa [hsame]

theorem sound_step_iff (hrespond : ∀ k, (respond k).Distinct) (hsound : Sound respond t)
    (hgrown : Grown t) (happening : Happening Input) :
    Sound respond (client.step respond happening t) ↔ Undisturbed respond happening t := by
  cases happening with
  | input input =>
      have hview : (client.step respond (.input input) t).state.neo4jResponse =
          t.state.neo4jResponse := by
        cases input <;> rfl
      constructor
      · intro _ k load hk
        cases hk
      · intro _
        constructor
        · rw [hview]
          exact hsound.distinct
        · rw [hview]
          exact hsound.present
  | arrival k =>
      by_cases hawaits : ∃ load, t.Awaits k load
      · obtain ⟨load, hload⟩ := hawaits
        have hdistinct := distinct_append_iff load.captured hsound.distinct (hrespond k)
        have hcaptured := hgrown.captured load (List.mem_of_getElem? hload.1)
        rw [Client.step_arrival hload]
        constructor
        · intro hafter j load' hj hload'
          obtain rfl := Happening.arrival.inj hj
          obtain rfl := Option.some.inj (hload.1.symm.trans hload'.1)
          exact hdistinct.1 hafter.distinct
        · intro hundisturbed
          refine ⟨hdistinct.2 (hundisturbed k load rfl hload), fun j hj => ?_⟩
          rcases List.mem_cons.1 hj with rfl | hold
          · exact contains_append hcaptured
          · exact (hsound.present j hold).mono within_append
      · have hnone : ∀ load, ¬ t.Awaits k load := fun load hload => hawaits ⟨load, hload⟩
        rw [Client.step_arrival_of_not hnone]
        constructor
        · intro _ j load hj hload
          obtain rfl := Happening.arrival.inj hj
          exact absurd hload (hnone load)
        · exact fun _ => hsound

end Steps

/-- The drawn ids stay distinct, with everything that has arrived there, just in the runs in which
no response brings a node or a relationship that another one brought since the call, nor the root. -/
theorem loadMoreNodesById_sound_iff (view : GraphView) (respond : Nat → Response)
    (happenings : List (Happening Input)) (hview : view.Distinct)
    (hrespond : ∀ k, (respond k).Distinct) :
    (∀ i, Sound respond (before view respond happenings i)) ↔
      ∀ i happening, happenings[i]? = some happening →
        Undisturbed respond happening (before view respond happenings i) := by
  have hstart : Sound respond ⟨⟨view, view⟩, [], []⟩ ∧ Grown ⟨⟨view, view⟩, [], []⟩ :=
    ⟨⟨hview, fun k hk => absurd hk List.not_mem_nil⟩,
      ⟨GraphView.Within.refl, fun load hload => absurd hload List.not_mem_nil⟩⟩
  have hiff : (∀ i, Sound respond (before view respond happenings i) ∧
      Grown (before view respond happenings i)) ↔ _ :=
    holds_along_iff (P := fun t => Sound respond t ∧ Grown t) (C := Undisturbed respond)
      (fun happening t ht =>
        (and_iff_left (ht.2.step happening)).trans (sound_step_iff hrespond ht.1 ht.2 happening)) hstart
  have hgrown : ∀ i, Grown (before view respond happenings i) :=
    holds_along (C := fun _ _ => True) (fun happening _ _ h => h.step happening) hstart.2
      (fun _ _ _ => trivial)
  have hboth : (∀ i, Sound respond (before view respond happenings i)) ↔
      ∀ i, Sound respond (before view respond happenings i) ∧
        Grown (before view respond happenings i) :=
    forall_congr' fun i => (and_iff_left (hgrown i)).symm
  exact hboth.trans hiff

def bare (elementId : ElementId) : Neo4jNode := ⟨elementId, [], .null⟩

def link (elementId source target : ElementId) : Neo4jRelationship :=
  ⟨elementId, source, target, "RELATED_TO", .null⟩

def pair : GraphView := ⟨some (bare "root"), some [link "r1" "root" "a"], some [bare "a"]⟩

theorem pair_distinct : pair.Distinct := ⟨by decide, by decide⟩

def farSide : Response := ⟨[link "r2" "a" "b"], [bare "b"]⟩

def bothSides : Response := ⟨[link "r1" "root" "a", link "r2" "a" "b"], [bare "root", bare "b"]⟩

theorem farSide_sound : farSide.Distinct ∧ ∀ i, Sound (fun _ => farSide) (before pair
    (fun _ => farSide) [.input (.loadMoreNodesById "a" 1), .arrival 0] i) := by
  have hfar : farSide.Distinct := ⟨by decide, by decide⟩
  refine ⟨hfar, (loadMoreNodesById_sound_iff pair (fun _ => farSide) _ pair_distinct
    (fun _ => hfar)).2 ?_⟩
  intro i happening hi k load hk hload
  subst hk
  cases i with
  | zero => cases hi
  | succ i =>
      cases i with
      | zero =>
          obtain rfl := Happening.arrival.inj (Option.some.inj hi)
          obtain rfl := Option.some.inj hload.1
          exact ⟨by decide, by decide⟩
      | succ i => cases hi

/-- To expand a neighbour draws the root again, and two calls at once bring a node twice. -/
theorem expansions_repeat_ids :
    (pair.Distinct ∧ bothSides.Distinct ∧ farSide.Distinct) ∧
      ¬ (∀ i, Sound (fun _ => bothSides) (before pair (fun _ => bothSides)
        [.input (.loadMoreNodesById "a" 1), .arrival 0] i)) ∧
      ¬ (∀ i, Sound (fun _ => farSide) (before pair (fun _ => farSide)
        [.input (.loadMoreNodesById "a" 1), .input (.loadMoreNodesById "a" 1), .arrival 0,
          .arrival 1] i)) := by
  refine ⟨⟨pair_distinct, ⟨by decide, by decide⟩, ⟨by decide, by decide⟩⟩, fun h => ?_, fun h => ?_⟩
  · have hnodes := (h 2).distinct.nodes
    revert hnodes
    decide
  · have hnodes := (h 4).distinct.nodes
    revert hnodes
    decide

end ForceGraph

end AtlasOfUs.Viewer
