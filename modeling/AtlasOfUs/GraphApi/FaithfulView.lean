import AtlasOfUs.GraphApi.DomainView
import AtlasOfUs.Library.DistinctRows

namespace AtlasOfUs.GraphApi

open Library

section Requirements

variable (g : Graph) (type : NodeType)

def requirements (levelId : ElementId) : List Edge :=
  g.edges.filter fun r => r.type = type.relType && r.source = levelId && hasNode g type.label r.target

/-- What an edge requires: its node, and how much of it. -/
def requirementOf (r : Edge) : ElementId × Option Value :=
  (r.target, type.threshold.bind fun keys => r.props keys.1)

def NodeView.requirement (v : NodeView) : ElementId × Option Value := (v.elementId, v.threshold)

def generalNodes (id : ElementId) : List Node :=
  g.nodes.filter fun n => n.hasLabel type.label && g.edges.any (Edge.between "GENERALIZES_TO" id n.id)

def entryCount (id : ElementId) : Nat :=
  if type.generalizes then max 1 (generalNodes g type id).length else 1

end Requirements

/-- The levels of the domain in their order, with an entry for each edge that requires a node. -/
structure Faithful (g : Graph) (d : Node) (view : DomainView) : Prop where
  levels : (view.levels.map LevelView.elementId).Perm ((g.nodes.filter (isLevelOf g d.id)).map Node.id)
  ascending : view.levels.Pairwise fun a b => orderKey a.level ≤ orderKey b.level
  entries : ∀ level ∈ view.levels, ∀ type, ((level.nodes type).map NodeView.requirement).Perm
    ((requirements g type level.elementId).map (requirementOf type))

section Entries

variable {g : Graph} {type : NodeType} {id : ElementId}

theorem mem_found {pair : ElementId × Option Value} :
    pair ∈ (g.edges.filter fun e => e.type = "GENERALIZES_TO" && e.source = id).flatMap
        (fun e => (g.nodes.filter (isNode type.label e.target)).map fun n => (n.id, n.props "name")) ↔
      pair ∈ (generalNodes g type id).map fun n => (n.id, n.props "name") := by
  simp only [List.mem_flatMap, List.mem_filter, List.mem_map, generalNodes, isNode, Edge.between,
    Bool.and_eq_true, decide_eq_true_eq, List.any_eq_true]
  constructor
  · rintro ⟨e, ⟨he, htype, hsource⟩, n, ⟨hn, htarget, hlabel⟩, rfl⟩
    exact ⟨n, ⟨hn, hlabel, e, he, ⟨htype, hsource⟩, htarget.symm⟩, rfl⟩
  · rintro ⟨n, ⟨hn, hlabel, e, he, ⟨htype, hsource⟩, htarget⟩, rfl⟩
    exact ⟨e, ⟨he, htype, hsource⟩, n, ⟨hn, htarget.symm, hlabel⟩, rfl⟩

theorem nodup_generalNodes :
    ((generalNodes g type id).map fun n => (n.id, n.props "name")).Nodup := by
  have hids : ((generalNodes g type id).map Node.id).Nodup :=
    g.nodeIds_nodup.sublist (List.filter_sublist.map Node.id)
  apply List.Nodup.of_map Prod.fst
  rw [List.map_map]
  exact hids

theorem length_dedup_generalizations :
    (generalizations g type id).dedup.length = entryCount g type id := by
  rw [generalizations, entryCount]
  generalize hfound : (g.edges.filter fun e => e.type = "GENERALIZES_TO" && e.source = id).flatMap
    (fun e => (g.nodes.filter (isNode type.label e.target)).map fun n => (n.id, n.props "name")) = found
  have hmem (pair : ElementId × Option Value) : pair ∈ found ↔
      pair ∈ (generalNodes g type id).map fun n => (n.id, n.props "name") := by
    rw [← hfound]
    exact mem_found
  have hlength : found.dedup.length = (generalNodes g type id).length := by
    rw [← List.length_map fun n : Node => (n.id, n.props "name")]
    apply List.Perm.length_eq
    rw [List.perm_ext_iff_of_nodup (List.nodup_dedup _) nodup_generalNodes]
    intro pair
    rw [List.mem_dedup, hmem]
  cases htype : type.generalizes with
  | false => simp
  | true =>
      cases hempty : found.isEmpty with
      | true =>
          rw [List.isEmpty_iff.1 hempty] at hlength
          simp [← hlength]
      | false =>
          have hpos : 0 < found.dedup.length := by
            rw [List.length_pos_iff, ne_eq, List.dedup_eq_nil]
            rintro rfl
            cases hempty
          simp only [Bool.not_false, Bool.and_self, if_true]
          rw [List.dedup_map_of_injective (Option.some_injective _), List.length_map]
          omega

end Entries

section Views

variable {g : Graph} {type : NodeType} {levelId : ElementId} {r r' : Edge} {v : NodeView}

def edgeViews (g : Graph) (type : NodeType) (r : Edge) : List NodeView :=
  (g.nodes.filter (isNode type.label r.target)).flatMap fun n =>
    (generalizations g type n.id).map (nodeView type n r)

theorem mem_edgeViews : v ∈ edgeViews g type r ↔
    ∃ n ∈ g.nodes, isNode type.label r.target n = true ∧
      ∃ general ∈ generalizations g type n.id, v = nodeView type n r general := by
  simp only [edgeViews, List.mem_flatMap, List.mem_filter, List.mem_map]
  constructor
  · rintro ⟨n, ⟨hn, htarget⟩, general, hgeneral, rfl⟩
    exact ⟨n, hn, htarget, general, hgeneral, rfl⟩
  · rintro ⟨n, hn, htarget, general, hgeneral, rfl⟩
    exact ⟨n, ⟨hn, htarget⟩, general, hgeneral, rfl⟩

theorem edgeViews_eq_nil (h : hasNode g type.label r.target = false) : edgeViews g type r = [] := by
  rw [edgeViews, List.flatMap_eq_nil_iff]
  intro n hn
  obtain ⟨hmem, htarget⟩ := List.mem_filter.1 hn
  rw [hasNode, List.any_eq_false] at h
  exact absurd htarget (h n hmem)

theorem nodeViews_eq (g : Graph) (levelId : ElementId) (type : NodeType) :
    nodeViews g levelId type = ((requirements g type levelId).flatMap (edgeViews g type)).dedup := by
  have hsplit : requirements g type levelId =
      (g.edges.filter fun r => r.type = type.relType && r.source = levelId).filter
        fun r => hasNode g type.label r.target := by
    rw [requirements, List.filter_filter]
    congr 1
    funext r
    rw [Bool.and_comm]
  rw [hsplit, flatMap_filter_of_nil _ fun r => edgeViews_eq_nil]
  rfl

/-- An edge to a node of the type has one entry for each generalization of the node. -/
theorem length_edgeViews (h : hasNode g type.label r.target = true) :
    (edgeViews g type r).dedup.length = entryCount g type r.target := by
  obtain ⟨n, hn, htarget⟩ := List.any_eq_true.1 h
  have hid : n.id = r.target := by
    simp only [isNode, Bool.and_eq_true, decide_eq_true_eq] at htarget
    exact htarget.1
  have hviews : (edgeViews g type r).dedup =
      ((generalizations g type n.id).dedup.map (nodeView type n r)) := by
    have hone : g.nodes.filter (isNode type.label r.target) = [n] := by
      apply filter_eq_singleton (List.Nodup.of_map _ g.nodeIds_nodup) hn htarget
      intro m hm hmid
      simp only [isNode, Bool.and_eq_true, decide_eq_true_eq] at hmid
      exact Graph.node_eq_of_id hm hn (hmid.1.trans hid.symm)
    rw [edgeViews, hone, List.flatMap_singleton, List.dedup_map_of_injective]
    intro general general' heq
    exact congrArg NodeView.generalizesTo heq
  rw [hviews, List.length_map, length_dedup_generalizations, hid]

theorem mem_requirements : r ∈ requirements g type levelId ↔
    r ∈ g.edges ∧ r.type = type.relType ∧ r.source = levelId ∧
      hasNode g type.label r.target = true := by
  rw [requirements, List.mem_filter]
  simp only [Bool.and_eq_true, decide_eq_true_eq, and_assoc]

theorem nodeViews_perm_iff (g : Graph) (levelId : ElementId) (type : NodeType) :
    ((nodeViews g levelId type).map NodeView.requirement).Perm
        ((requirements g type levelId).map (requirementOf type)) ↔
      ∀ r ∈ requirements g type levelId,
        (requirements g type levelId).countP
          (fun r' => requirementOf type r' = requirementOf type r) = entryCount g type r.target := by
  rw [nodeViews_eq, perm_collected_iff]
  · constructor
    · intro hcount r hr
      rw [hcount r hr, length_edgeViews (mem_requirements.1 hr).2.2.2]
    · intro hcount r hr
      rw [hcount r hr, length_edgeViews (mem_requirements.1 hr).2.2.2]
  · intro r _ v hv
    obtain ⟨n, -, htarget, general, -, rfl⟩ := mem_edgeViews.1 hv
    simp only [isNode, Bool.and_eq_true, decide_eq_true_eq] at htarget
    rw [NodeView.requirement, requirementOf, ← htarget.1]
    rfl
  · intro r _ r' _ hkey v hv
    obtain ⟨n, hn, htarget, general, hgeneral, rfl⟩ := mem_edgeViews.1 hv
    obtain ⟨hsame, hthreshold⟩ := Prod.mk.inj hkey
    refine mem_edgeViews.2 ⟨n, hn, hsame ▸ htarget, general, hgeneral, ?_⟩
    rw [nodeView, nodeView, hthreshold]

end Views

theorem levels_perm (g : Graph) (d : Node) :
    ((domainView g d).levels.map LevelView.elementId).Perm
      ((g.nodes.filter (isLevelOf g d.id)).map Node.id) := by
  have hperm := (List.mergeSort_perm ((g.nodes.filter (isLevelOf g d.id)).map (levelView g))
    levelBefore).map LevelView.elementId
  rw [List.map_map] at hperm
  exact hperm

/-- Entries multiply with the generalizations of a node, and equal ones of parallel edges collapse. -/
theorem getDomain_faithful_iff (env : Env) (name : String) (w : World) (d : Node)
    (hsingle : w.graph.nodes.filter (isNamed "Domain" name) = [d])
    (hdone : env.outcome w.clock = .done) :
    (env.exec (getDomain name) w).exit = .ok (some (domainView w.graph d).toJson) ∧
      (Faithful w.graph d (domainView w.graph d) ↔
        ∀ l ∈ w.graph.nodes, isLevelOf w.graph d.id l = true → ∀ type,
          ∀ r ∈ requirements w.graph type l.id,
            (requirements w.graph type l.id).countP
              (fun r' => requirementOf type r' = requirementOf type r) =
                entryCount w.graph type r.target) := by
  constructor
  · have hfind : w.graph.nodes.find? (isNamed "Domain" name) = some d := by
      rw [← List.head?_filter, hsingle]
      rfl
    rw [exec_getDomain_done name hdone, hfind]
    rfl
  · constructor
    · intro hfaithful l hl hlevel type
      exact (nodeViews_perm_iff _ _ _).1
        (hfaithful.entries _ (mem_levels_domainView.2 ⟨l, hl, hlevel, rfl⟩) type)
    · intro hcount
      have hascending := List.pairwise_map.1 (pairwise_levels_domainView w.graph d)
      refine ⟨levels_perm _ _, hascending, fun level hlevel type => ?_⟩
      obtain ⟨l, hl, hlevelOf, rfl⟩ := mem_levels_domainView.1 hlevel
      exact (nodeViews_perm_iff _ _ _).2 (hcount l hl hlevelOf type)

section Openings

/-- A level that requires one node, which generalizes to two others. -/
def generalOpenings : Graph :=
  let named (name : String) : Props := Props.empty.set "name" (.str name)
  let nodes := ((((emptyGraph.createNode ["Domain"] (named "Chess")).createNode
    ["Domain_Level"] (named "Novice")).createNode ["Knowledge"] (named "Openings")).createNode
    ["Knowledge"] (named "Strategy")).createNode ["Knowledge"] (named "Theory")
  (((nodes.createEdge "HAS_DOMAIN_LEVEL" (candidateId 0) (candidateId 1) Props.empty).createEdge
    "REQUIRES_KNOWLEDGE" (candidateId 1) (candidateId 2) Props.empty).createEdge
    "GENERALIZES_TO" (candidateId 2) (candidateId 3) Props.empty).createEdge
    "GENERALIZES_TO" (candidateId 2) (candidateId 4) Props.empty

theorem generalOpenings_single :
    ∃ d, generalOpenings.nodes.filter (isNamed "Domain" "Chess") = [d] :=
  List.length_eq_one_iff.1 (by decide +kernel)

theorem getDomain_chess :
    ∃ d, generalOpenings.nodes.filter (isNamed "Domain" "Chess") = [d] ∧
      (Env.calm.exec (getDomain "Chess") (.start generalOpenings)).exit =
        .ok (some (domainView generalOpenings d).toJson) ∧
      (Faithful generalOpenings d (domainView generalOpenings d) ↔
        ∀ l ∈ generalOpenings.nodes, isLevelOf generalOpenings d.id l = true → ∀ type,
          ∀ r ∈ requirements generalOpenings type l.id,
            (requirements generalOpenings type l.id).countP
              (fun r' => requirementOf type r' = requirementOf type r) =
                entryCount generalOpenings type r.target) := by
  obtain ⟨d, hsingle⟩ := generalOpenings_single
  exact ⟨d, hsingle, getDomain_faithful_iff Env.calm "Chess" (.start generalOpenings) d hsingle rfl⟩

theorem openings_doubled_in_view :
    ¬ ∀ (env : Env) (name : String) (w : World) (d : Node),
      w.graph.nodes.filter (isNamed "Domain" name) = [d] → env.outcome w.clock = .done →
        Faithful w.graph d (domainView w.graph d) := by
  intro hall
  obtain ⟨d, hsingle⟩ := generalOpenings_single
  have hfaithful := hall Env.calm "Chess" (.start generalOpenings) d hsingle rfl
  have hd : d ∈ generalOpenings.nodes.filter (isNamed "Domain" "Chess") :=
    hsingle ▸ List.mem_singleton_self d
  have hlevel : ∀ d ∈ generalOpenings.nodes.filter (isNamed "Domain" "Chess"),
      ∃ l ∈ generalOpenings.nodes, isLevelOf generalOpenings d.id l = true ∧
        (nodeViews generalOpenings l.id .knowledge).length = 2 ∧
        (requirements generalOpenings .knowledge l.id).length = 1 := by
    decide +kernel
  obtain ⟨l, hl, hlevelOf, htwo, hone⟩ := hlevel d hd
  have hperm := (hfaithful.entries _ (mem_levels_domainView.2 ⟨l, hl, hlevelOf, rfl⟩)
    .knowledge).length_eq
  rw [List.length_map, List.length_map] at hperm
  have hlengths : (nodeViews generalOpenings l.id .knowledge).length =
      (requirements generalOpenings .knowledge l.id).length := hperm
  omega

end Openings

end AtlasOfUs.GraphApi
