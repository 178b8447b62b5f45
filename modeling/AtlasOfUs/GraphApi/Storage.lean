import AtlasOfUs.GraphApi.LevelAlignment
import AtlasOfUs.GraphApi.UpdateFailure

namespace AtlasOfUs.GraphApi

open Library

variable (env : Env) (domainId : ElementId) (levels : List DomainLevel) (w : World)

/-- The world before the requirements of the `i`-th level in a run of the two loops from `w`. -/
def levelWorld (i : Nat) : World :=
  beforeRequirements env levels (collectedIds env domainId levels w)
    (afterCreation env domainId levels w) i

def entryWorld (i : Nat) (level : DomainLevel) (levelId : ElementId) (k : Nat) : World :=
  beforeEntry env levelId (levelWorld env domainId levels w i) level.requirements.entries k

section Created

theorem createdFor_iff_applied {i : Nat} {id : ElementId} :
    CreatedFor env domainId levels w i id ↔
      i < levels.length ∧ hasNode w.graph "Domain" domainId = true ∧
        (env.outcome (w.clock + i)).applied = true ∧
          id = (beforeLevel env domainId levels w i).graph.freshId := by
  constructor
  · rintro ⟨hnot, hmem⟩
    have hi : i < levels.length := by
      by_contra hlen
      have hsame : beforeLevel env domainId levels w (i + 1) = beforeLevel env domainId levels w i := by
        rw [beforeLevel, beforeLevel, List.take_of_length_le (by omega),
          List.take_of_length_le (by omega)]
      exact hnot (hsame ▸ hmem)
    rw [beforeLevel_succ env domainId levels w (List.getElem?_eq_getElem hi),
      beforeLevel_clock env domainId levels w hi.le, Outcome.after] at hmem
    split at hmem
    · rename_i happ
      rw [Graph.nodeIds, createLevelStatement_nodes, hasDomain_beforeLevel, List.map_append,
        List.mem_append] at hmem
      have hnew := hmem.resolve_left hnot
      split_ifs at hnew with hd
      · exact ⟨hi, hd, happ, by simpa using hnew⟩
      · simp at hnew
    · exact absurd hmem hnot
  · rintro ⟨hi, hd, happ, rfl⟩
    exact (createdFor_freshId env domainId levels w hi hd).2 happ

theorem CreatedFor.level_unique {i j : Nat} {id : ElementId}
    (hi : CreatedFor env domainId levels w i id) (hj : CreatedFor env domainId levels w j id) :
    i = j := by
  rcases Nat.lt_trichotomy i j with hij | hij | hij
  · exact absurd (beforeLevel_ids_subset env domainId levels w hij hi.2) hj.1
  · exact hij
  · exact absurd (beforeLevel_ids_subset env domainId levels w hij hj.2) hi.1

/-- The node of a level, and the edge to it, as they stand right after their creation. -/
theorem CreatedFor.node_and_edge {i : Nat} {id : ElementId} {level : DomainLevel}
    (h : CreatedFor env domainId levels w i id) (hlevel : levels[i]? = some level) :
    ⟨id, ["Domain_Level"], levelProps level⟩ ∈
        (beforeLevel env domainId levels w (i + 1)).graph.nodes ∧
      ∃ e ∈ (beforeLevel env domainId levels w (i + 1)).graph.edges,
        Edge.between "HAS_DOMAIN_LEVEL" domainId id e = true := by
  obtain ⟨hi, hd, happ, rfl⟩ := (createdFor_iff_applied env domainId levels w).1 h
  have hdi := (hasDomain_beforeLevel env domainId levels w i).trans hd
  rw [beforeLevel_succ env domainId levels w hlevel, beforeLevel_clock env domainId levels w hi.le,
    Outcome.after, if_pos happ, createLevelStatement_of_hasNode hdi]
  constructor
  · simp
  · have hsource : domainId ∈ ((beforeLevel env domainId levels w i).graph.createNode
        ["Domain_Level"] (levelProps level)).nodeIds := by simp [mem_nodeIds_of_hasNode hdi]
    have htarget : (beforeLevel env domainId levels w i).graph.freshId ∈
        ((beforeLevel env domainId levels w i).graph.createNode
          ["Domain_Level"] (levelProps level)).nodeIds := by simp
    rw [Graph.createEdge_of_mem hsource htarget]
    exact ⟨_, List.mem_append_right _ List.mem_cons_self, by simp [Edge.between]⟩

end Created

section Loops

theorem exec_storeLevels_state :
    (env.exec (storeLevels domainId levels) w).state =
      levelWorld env domainId levels w levels.length := by
  obtain ⟨nodes, -, hstate⟩ := exec_storeLevels env domainId levels w
  exact hstate

theorem levelWorld_succ {i : Nat} {level : DomainLevel} {levelId : ElementId}
    (hlevel : levels[i]? = some level)
    (hid : (collectedIds env domainId levels w)[i]? = some levelId) :
    levelWorld env domainId levels w (i + 1) =
      entryWorld env domainId levels w i level levelId level.requirements.entries.length := by
  rw [levelWorld, beforeRequirements_succ_eq env levels _ _ hlevel, hid]
  rfl

theorem levelWorld_nodes_sublist {i j : Nat} (hij : i ≤ j) :
    (levelWorld env domainId levels w i).graph.nodes.Sublist
      (levelWorld env domainId levels w j).graph.nodes := by
  refine Proc.after_rel env.handler (R := fun s t => s.graph.nodes.Sublist t.graph.nodes)
    (fun _ => List.Sublist.refl _) (fun h h' => h.trans h') (fun entry s => ?_) _ _ hij
  rw [← Env.exec, exec_processLevel]
  split
  · exact List.Sublist.refl _
  · rename_i levelId hid
    rw [exec_processLevelRequirements]
    exact beforeEntry_nodes_sublist env levelId s _ (Nat.zero_le _)

theorem levelWorld_edges_subset {i j : Nat} (hij : i ≤ j) :
    (levelWorld env domainId levels w i).graph.edges ⊆
      (levelWorld env domainId levels w j).graph.edges :=
  beforeRequirements_mono env levels _ _ hij

theorem beforeLevel_nodes_sublist_final {i : Nat} (hi : i ≤ levels.length) :
    (beforeLevel env domainId levels w i).graph.nodes.Sublist
      (levelWorld env domainId levels w levels.length).graph.nodes :=
  (beforeLevel_mono env domainId levels w hi).trans
    (levelWorld_nodes_sublist env domainId levels w (Nat.zero_le _))

theorem beforeLevel_edges_subset {i j : Nat} (hij : i ≤ j) :
    (beforeLevel env domainId levels w i).graph.edges ⊆
      (beforeLevel env domainId levels w j).graph.edges := by
  refine Proc.after_rel env.handler (R := fun s t => s.graph.edges ⊆ t.graph.edges)
    (fun _ => List.Subset.refl _) (fun h h' => List.Subset.trans h h') (fun level s => ?_) _ _ hij
  rw [← Env.exec, (exec_createLevel env domainId level s).2, Outcome.after]
  split
  · obtain ⟨es, hedges, -⟩ := createLevelStatement_edges domainId level s.graph
    rw [hedges]
    exact List.subset_append_left _ _
  · exact List.Subset.refl _

theorem beforeLevel_edges_subset_final {i : Nat} (hi : i ≤ levels.length) :
    (beforeLevel env domainId levels w i).graph.edges ⊆
      (levelWorld env domainId levels w levels.length).graph.edges :=
  List.Subset.trans (beforeLevel_edges_subset env domainId levels w hi)
    (levelWorld_edges_subset env domainId levels w (Nat.zero_le _))

/-- The step of the second loop that links `r` to `nodeId`, at the id at position `i`. -/
def LinkStep (i : Nat) (level : DomainLevel) (levelId : ElementId) (k : Nat) (r : Requirement)
    (nodeId : ElementId) : Prop :=
  levels[i]? = some level ∧ (collectedIds env domainId levels w)[i]? = some levelId ∧
    level.requirements.entries[k]? = some r ∧
      LinksTo env levelId (entryWorld env domainId levels w i level levelId k) r nodeId

theorem LinkStep.edge {i : Nat} {level : DomainLevel} {levelId : ElementId} {k : Nat}
    {r : Requirement} {nodeId : ElementId}
    (h : LinkStep env domainId levels w i level levelId k r nodeId) :
    ∃ e ∈ (levelWorld env domainId levels w levels.length).graph.edges, EdgeFor levelId nodeId r e := by
  obtain ⟨hlevel, hid, hr, hlinks⟩ := h
  obtain ⟨e, he, -, hfor⟩ := exists_edge_of_linksTo env levelId _ r hr hlinks
  have hi : i + 1 ≤ levels.length := (List.getElem?_eq_some_iff.1 hlevel).1
  refine ⟨e, levelWorld_edges_subset env domainId levels w hi ?_, hfor⟩
  rw [levelWorld_succ env domainId levels w hlevel hid]
  exact he

/-- A REQUIRES edge that leaves the node of a level is there because of a step that links it. -/
theorem exists_linkStep {i : Nat} {id : ElementId} {e : Edge}
    (hcreated : CreatedFor env domainId levels w i id)
    (he : e ∈ (levelWorld env domainId levels w levels.length).graph.edges)
    (hsource : e.source = id) (htype : e.type ∈ requiresTypes) :
    ∃ j level k r nodeId, LinkStep env domainId levels w j level id k r nodeId ∧
      EdgeFor id nodeId r e := by
  have hnew : e ∉ (afterCreation env domainId levels w).graph.edges := by
    obtain ⟨es, hedges, hes⟩ := afterCreation_edges env domainId levels w
    rw [hedges, List.mem_append]
    rintro (hold | hlevel)
    · refine hcreated.1 (beforeLevel_ids_subset env domainId levels w (Nat.zero_le i) ?_)
      exact hsource ▸ w.graph.source_mem e hold
    · rw [hes e hlevel] at htype
      simp [requiresTypes] at htype
  obtain ⟨j, hj⟩ := exists_addedFor env levels _ _ he hnew
  obtain ⟨hid, -, hlt⟩ := hj.source
  have hlevel := List.getElem?_eq_getElem hlt
  rw [hsource] at hid
  have hafter := hj.2
  rw [← levelWorld, levelWorld_succ env domainId levels w hlevel hid] at hafter
  obtain ⟨k, r, nodeId, hr, hlinks, hfor⟩ := exists_linksTo_of_edge env id _ hafter
    (fun hold => hj.1 (Graph.id_mem_edgeIds hold))
  exact ⟨j, _, k, r, nodeId, ⟨hlevel, hid, hr, hlinks⟩, hfor⟩

end Loops

section Stored

/-- A node the requirement may name: it is there before the call or when the
requirement is processed. -/
def Known (initial : Graph) (i : Nat) (level : DomainLevel) (k : Nat) (label : String)
    (id : ElementId) : Prop :=
  hasNode initial label id = true ∨
    ∃ levelId, (collectedIds env domainId levels w)[i]? = some levelId ∧
      hasNode (entryWorld env domainId levels w i level levelId k).graph label id = true

def Owed (initial : Graph) (i : Nat) (level : DomainLevel) (k : Nat) (r : Requirement) : Prop :=
  (∃ id, r.nodeElementId = some id ∧ Known env domainId levels w initial i level k r.label id) ∨
    ∃ data, r.newNode = some data

/-- The node that the requirement is for, in `g`: the existing one it names, else
one of the name that the new-node data gives. -/
def Wants (initial g : Graph) (i : Nat) (level : DomainLevel) (k : Nat) (r : Requirement)
    (nodeId : ElementId) : Prop :=
  (r.nodeElementId = some nodeId ∧ Known env domainId levels w initial i level k r.label nodeId) ∨
    ((∀ id, r.nodeElementId = some id → ¬ Known env domainId levels w initial i level k r.label id) ∧
      ∃ data n, r.newNode = some data ∧ n ∈ g.nodes ∧ n.id = nodeId ∧
        isNamed r.label data.name n = true)

/-- What success promises: one level node per requested level and no other, and
from the node of each level an edge for every requirement owed. -/
structure Stored (initial final : Graph) : Prop where
  level_nodes : ∀ i level, levels[i]? = some level → ∃ id, CreatedFor env domainId levels w i id ∧
    ⟨id, ["Domain_Level"], levelProps level⟩ ∈ final.nodes
  no_other : ∀ id, IsLevel final domainId id ↔ ∃ i, CreatedFor env domainId levels w i id
  requirements : ∀ i level k r, levels[i]? = some level → level.requirements.entries[k]? = some r →
    Owed env domainId levels w initial i level k r →
      ∃ id nodeId, CreatedFor env domainId levels w i id ∧
        Wants env domainId levels w initial final i level k r nodeId ∧
          ∃ e ∈ final.edges, EdgeFor id nodeId r e

/-- What the two loops need for that: the domain is there, every level creation
takes effect, a level with a requirement owed keeps its place, and each
requirement owed is linked by its own step or by one of its level that does the same. -/
structure GoesThrough (initial : Graph) : Prop where
  domain : hasNode w.graph "Domain" domainId = true
  created : ∀ i < levels.length, (env.outcome (w.clock + i)).applied = true
  placed : ∀ i level k r, levels[i]? = some level → level.requirements.entries[k]? = some r →
    Owed env domainId levels w initial i level k r →
      ∀ j ≤ i, (env.outcome (w.clock + j)).returnsRow = true
  linked : ∀ i level k r, levels[i]? = some level → level.requirements.entries[k]? = some r →
    Owed env domainId levels w initial i level k r →
      ∃ levelId k' r' nodeId, LinkStep env domainId levels w i level levelId k' r' nodeId ∧
        r'.relType = r.relType ∧ Properties.toProps r'.properties = Properties.toProps r.properties ∧
          Wants env domainId levels w initial
            (beforeLink env (entryWorld env domainId levels w i level levelId k') r').graph i level k r
              nodeId

variable {env domainId levels w} {initial : Graph}

theorem LinkStep.owed {i : Nat} {level : DomainLevel} {levelId : ElementId} {k : Nat}
    {r : Requirement} {nodeId : ElementId}
    (h : LinkStep env domainId levels w i level levelId k r nodeId) :
    Owed env domainId levels w initial i level k r := by
  obtain ⟨-, hid, -, hlinked, -, -, hnode⟩ := h
  cases hexisting : r.nodeElementId with
  | some existingId =>
      simp only [linkedId, hexisting, Option.some.injEq] at hlinked
      simp only [beforeLink, hexisting] at hnode
      exact Or.inl ⟨existingId, hexisting, Or.inr ⟨levelId, hid, hlinked ▸ hnode⟩⟩
  | none =>
      cases hdata : r.newNode with
      | some data => exact Or.inr ⟨data, hdata⟩
      | none => simp [linkedId, hexisting, hdata] at hlinked

theorem LinkStep.nodes_subset {i : Nat} {level : DomainLevel} {levelId : ElementId} {k : Nat}
    {r : Requirement} {nodeId : ElementId}
    (h : LinkStep env domainId levels w i level levelId k r nodeId) :
    (beforeLink env (entryWorld env domainId levels w i level levelId k) r).graph.nodes ⊆
      (levelWorld env domainId levels w levels.length).graph.nodes := by
  obtain ⟨hlevel, hid, hr, -⟩ := h
  have hi : i + 1 ≤ levels.length := (List.getElem?_eq_some_iff.1 hlevel).1
  have hk : k + 1 ≤ level.requirements.entries.length := (List.getElem?_eq_some_iff.1 hr).1
  have hstep : (beforeLink env (entryWorld env domainId levels w i level levelId k) r).graph.nodes =
      (entryWorld env domainId levels w i level levelId (k + 1)).graph.nodes := by
    rw [entryWorld, entryWorld, beforeEntry_succ env levelId _ r hr, processRequirement_nodes]
  have hlast := levelWorld_nodes_sublist env domainId levels w hi
  rw [levelWorld_succ env domainId levels w hlevel hid] at hlast
  rw [hstep]
  exact ((beforeEntry_nodes_sublist env levelId _ _ hk).trans hlast).subset

theorem exists_createdFor_of_edge (hd : hasNode w.graph "Domain" domainId = true) {e : Edge}
    (he : e ∈ (afterCreation env domainId levels w).graph.edges) (hnew : e ∉ w.graph.edges) :
    ∃ i, CreatedFor env domainId levels w i e.target := by
  obtain ⟨i, hi, hbefore, hafter⟩ := exists_crossing
    (P := fun i => e ∈ (beforeLevel env domainId levels w i).graph.edges) hnew he
  have hdi := (hasDomain_beforeLevel env domainId levels w i).trans hd
  rw [beforeLevel_succ env domainId levels w (List.getElem?_eq_getElem hi),
    beforeLevel_clock env domainId levels w hi.le, Outcome.after] at hafter
  split at hafter
  · rename_i happ
    have hsource : domainId ∈ ((beforeLevel env domainId levels w i).graph.createNode
        ["Domain_Level"] (levelProps levels[i])).nodeIds := by simp [mem_nodeIds_of_hasNode hdi]
    have htarget : (beforeLevel env domainId levels w i).graph.freshId ∈
        ((beforeLevel env domainId levels w i).graph.createNode
          ["Domain_Level"] (levelProps levels[i])).nodeIds := by simp
    rw [createLevelStatement_of_hasNode hdi, Graph.createEdge_of_mem hsource htarget,
      List.mem_append, List.mem_singleton] at hafter
    obtain rfl := hafter.resolve_left hbefore
    exact ⟨i, (createdFor_iff_applied env domainId levels w).2 ⟨hi, hd, happ, rfl⟩⟩
  · exact absurd hafter hbefore

/-- Where the domain has no level at first, the loops leave it those they create. -/
theorem isLevel_final_iff (hd : hasNode w.graph "Domain" domainId = true)
    (hnone : ∀ id, ¬ IsLevel w.graph domainId id) (id : ElementId) :
    IsLevel (levelWorld env domainId levels w levels.length).graph domainId id ↔
      ∃ i, CreatedFor env domainId levels w i id := by
  have hnodes := beforeLevel_nodes_sublist_final env domainId levels w (Nat.zero_le levels.length)
  constructor
  · rintro ⟨l, hl, hlevel, rfl⟩
    simp only [isLevelOf, Bool.and_eq_true] at hlevel
    obtain ⟨e, he, hbetween⟩ := List.any_eq_true.1 hlevel.2
    have hparts := hbetween
    simp only [Edge.between, Bool.and_eq_true, decide_eq_true_eq] at hparts
    have hcreated : e ∈ (afterCreation env domainId levels w).graph.edges := by
      by_contra hnot
      obtain ⟨i, hi⟩ := exists_addedFor env levels _ _ he hnot
      have htype := hi.source.2.1
      rw [hparts.1.1] at htype
      simp [requiresTypes] at htype
    by_cases hold : e ∈ w.graph.edges
    · obtain ⟨m, hm, hid⟩ := Graph.mem_nodeIds.1 (w.graph.target_mem e hold)
      have hsame : m = l := Graph.node_eq_of_id (hnodes.subset hm) hl (hid.trans hparts.2)
      refine absurd ⟨l, hsame ▸ hm, ?_, rfl⟩ (hnone l.id)
      simp only [isLevelOf, Bool.and_eq_true]
      exact ⟨⟨hlevel.1.1, hd⟩, List.any_eq_true.2 ⟨e, hold, hbetween⟩⟩
    · rw [← hparts.2]
      exact exists_createdFor_of_edge hd hcreated hold
  · rintro ⟨i, hcreated⟩
    have hi := ((createdFor_iff_applied env domainId levels w).1 hcreated).1
    obtain ⟨hnode, e, he, hbetween⟩ :=
      hcreated.node_and_edge env domainId levels w (List.getElem?_eq_getElem hi)
    refine ⟨_, (beforeLevel_nodes_sublist_final env domainId levels w hi).subset hnode, ?_, rfl⟩
    simp only [isLevelOf, Bool.and_eq_true]
    refine ⟨⟨by simp [Node.hasLabel], hasNode_of_sublist hnodes hd⟩, List.any_eq_true.2 ⟨e, ?_, hbetween⟩⟩
    exact beforeLevel_edges_subset_final env domainId levels w hi he

theorem stored_of_goesThrough (hnone : ∀ id, ¬ IsLevel w.graph domainId id)
    (h : GoesThrough env domainId levels w initial) :
    Stored env domainId levels w initial (levelWorld env domainId levels w levels.length).graph where
  level_nodes i level hlevel := by
    have hi : i < levels.length := (List.getElem?_eq_some_iff.1 hlevel).1
    have hcreated := (createdFor_iff_applied env domainId levels w).2
      ⟨hi, h.domain, h.created i hi, rfl⟩
    have hnode := (hcreated.node_and_edge env domainId levels w hlevel).1
    exact ⟨_, hcreated, (beforeLevel_nodes_sublist_final env domainId levels w hi).subset hnode⟩
  no_other := isLevel_final_iff h.domain hnone
  requirements i level k r hlevel hr howed := by
    obtain ⟨levelId, k', r', nodeId, hstep, htype, hprops, hwants⟩ := h.linked i level k r hlevel hr howed
    have hi : i < levels.length := (List.getElem?_eq_some_iff.1 hlevel).1
    have hplace : KeepsPlace env w.clock i := ⟨h.placed i level k r hlevel hr howed, h.created i hi⟩
    obtain ⟨e, he, hfor⟩ := hstep.edge
    refine ⟨levelId, nodeId, (createdFor_iff env domainId levels w hstep.2.1).2 hplace, ?_, e, he, ?_⟩
    · rcases hwants with hnamed | ⟨hunknown, data, n, hdata, hn, hid, hname⟩
      · exact Or.inl hnamed
      · exact Or.inr ⟨hunknown, data, n, hdata, hstep.nodes_subset hn, hid, hname⟩
    · exact ⟨hfor.1.trans htype, hfor.2.1, hfor.2.2.1, hfor.2.2.2.trans hprops⟩

theorem position_le {i j : Nat} {id : ElementId}
    (happ : ∀ i < levels.length, (env.outcome (w.clock + i)).applied = true)
    (hid : (collectedIds env domainId levels w)[j]? = some id)
    (hcreated : CreatedFor env domainId levels w i id) : j ≤ i := by
  obtain ⟨f, hjf, hget, -⟩ := filterMap_id_getElem? hid
  obtain ⟨hf, -, hd, hfresh⟩ := levelRows_getElem? env domainId levels w hget
  have hown := (createdFor_iff_applied env domainId levels w).2 ⟨hf, hd, happ f hf, hfresh⟩
  exact (hown.level_unique env domainId levels w hcreated) ▸ hjf

/-- Where everything owed is stored, every level with a requirement owed keeps
its place, and a step of its own round links that requirement. -/
theorem Stored.linkStep
    (h : Stored env domainId levels w initial (levelWorld env domainId levels w levels.length).graph)
    (happ : ∀ i < levels.length, (env.outcome (w.clock + i)).applied = true)
    {i : Nat} {level : DomainLevel} {k : Nat} {r : Requirement} (hlevel : levels[i]? = some level)
    (hr : level.requirements.entries[k]? = some r)
    (howed : Owed env domainId levels w initial i level k r) :
    KeepsPlace env w.clock i ∧ ∃ levelId k' r' nodeId,
      LinkStep env domainId levels w i level levelId k' r' nodeId ∧ r'.relType = r.relType ∧
        Properties.toProps r'.properties = Properties.toProps r.properties ∧
          Wants env domainId levels w initial (levelWorld env domainId levels w levels.length).graph
            i level k r nodeId := by
  induction i using Nat.strong_induction_on generalizing level k r with
  | _ i ih =>
      obtain ⟨id, nodeId, hcreated, hwants, e, he, htype, hsource, htarget, hprops⟩ :=
        h.requirements i level k r hlevel hr howed
      have hkind := (entries_kind (List.mem_of_getElem? hr)).2
      obtain ⟨j, level', k', r', nodeId', hstep, htype', -, htarget', hprops'⟩ :=
        exists_linkStep env domainId levels w hcreated he hsource (htype ▸ hkind)
      have hposition := position_le happ hstep.2.1 hcreated
      have hji : j = i := by
        by_contra hne
        obtain ⟨hplace, -⟩ := ih j (by omega) hstep.1 hstep.2.2.1 hstep.owed
        have hother := (createdFor_iff env domainId levels w hstep.2.1).2 hplace
        exact hne (hother.level_unique env domainId levels w hcreated)
      subst hji
      obtain rfl : level' = level := Option.some.inj (hstep.1.symm.trans hlevel)
      refine ⟨(createdFor_iff env domainId levels w hstep.2.1).1 hcreated, id, k', r', nodeId', hstep,
        htype'.symm.trans htype, hprops'.symm.trans hprops, ?_⟩
      rwa [← htarget', htarget]

theorem goesThrough_of_stored (hlevels : levels ≠ [])
    (h : Stored env domainId levels w initial (levelWorld env domainId levels w levels.length).graph) :
    GoesThrough env domainId levels w initial := by
  have happlied {i : Nat} (hi : i < levels.length) :
      hasNode w.graph "Domain" domainId = true ∧ (env.outcome (w.clock + i)).applied = true := by
    obtain ⟨id, hcreated, -⟩ := h.level_nodes i _ (List.getElem?_eq_getElem hi)
    obtain ⟨-, hd, happ, -⟩ := (createdFor_iff_applied env domainId levels w).1 hcreated
    exact ⟨hd, happ⟩
  have hcreated : ∀ i < levels.length, (env.outcome (w.clock + i)).applied = true :=
    fun i hi => (happlied hi).2
  refine ⟨(happlied (List.length_pos_of_ne_nil hlevels)).1, hcreated, ?_, ?_⟩
  · intro i level k r hlevel hr howed
    exact (h.linkStep hcreated hlevel hr howed).1.1
  · intro i level k r hlevel hr howed
    obtain ⟨-, levelId, k', r', nodeId, hstep, htype, hprops, hwants⟩ :=
      h.linkStep hcreated hlevel hr howed
    refine ⟨levelId, k', r', nodeId, hstep, htype, hprops, ?_⟩
    rcases hwants with hnamed | ⟨hunknown, data, n, hdata, hn, hid, hname⟩
    · exact Or.inl hnamed
    · obtain ⟨m, hm, hmid⟩ := Graph.mem_nodeIds.1 (mem_nodeIds_of_hasNode hstep.2.2.2.2.2.2)
      have hsame : m = n := Graph.node_eq_of_id (hstep.nodes_subset hm) hn (hmid.trans hid.symm)
      exact Or.inr ⟨hunknown, data, n, hdata, hsame ▸ hm, hid, hname⟩

theorem storeLevels_stored_iff (hlevels : levels ≠ []) (hnone : ∀ id, ¬ IsLevel w.graph domainId id) :
    Stored env domainId levels w initial (env.exec (storeLevels domainId levels) w).state.graph ↔
      GoesThrough env domainId levels w initial := by
  rw [exec_storeLevels_state]
  exact ⟨goesThrough_of_stored hlevels, stored_of_goesThrough hnone⟩

end Stored

section Calls

variable {env w}

theorem not_isLevel_created (request : CreateDomainRequest) (o : Outcome) (id : ElementId) :
    ¬ IsLevel (o.after (createDomainStatement request.domain.name request.domain.description) w.graph)
      w.graph.freshId id := by
  rintro ⟨l, -, hlevel, -⟩
  have hedges : (o.after (createDomainStatement request.domain.name
      request.domain.description) w.graph).edges = w.graph.edges := by
    rw [Outcome.after]
    split <;> rfl
  simp only [isLevelOf, Bool.and_eq_true, hedges] at hlevel
  obtain ⟨e, he, hbetween⟩ := List.any_eq_true.1 hlevel.2
  simp only [Edge.between, Bool.and_eq_true, decide_eq_true_eq] at hbetween
  exact Graph.freshId_notMem_nodeIds w.graph (hbetween.1.2 ▸ w.graph.source_mem e he)

theorem not_isLevel_deleted (domainElementId : ElementId) (g : Graph) (id : ElementId) :
    ¬ IsLevel (deleteLevelsStatement domainElementId g).2 domainElementId id := by
  rintro ⟨l, hl, hlevel, -⟩
  obtain ⟨hold, hnot⟩ := List.mem_filter.1 hl
  simp only [isLevelOf, Bool.and_eq_true] at hlevel
  obtain ⟨e, he, hbetween⟩ := List.any_eq_true.1 hlevel.2
  have hdomain : hasNode g "Domain" domainElementId = true := by
    refine hasNode_of_sublist ?_ hlevel.1.2
    exact List.filter_sublist
  have hwas : isLevelOf g domainElementId l = true := by
    simp only [isLevelOf, Bool.and_eq_true]
    exact ⟨⟨hlevel.1.1, hdomain⟩, List.any_eq_true.2
      ⟨e, deleteLevelsStatement_edges_subset domainElementId g he, hbetween⟩⟩
  rw [hwas] at hnot
  cases hnot

theorem createDomain_stored_iff {request : CreateDomainRequest} {result : CreateDomainResult}
    (hok : (env.exec (createDomain request) w).exit = .ok result) :
    Stored env result.domainElementId request.levels (env.exec (openDomain request) w).state w.graph
        (env.exec (createDomain request) w).state.graph ↔
      GoesThrough env result.domainElementId request.levels
        (env.exec (openDomain request) w).state w.graph := by
  obtain ⟨domainId, nodes, hopen, rfl, -, hstate⟩ := exec_call_ok env w (createDomain_eq request) hok
  obtain ⟨hform, rfl, hworld⟩ := openDomain_ok env w request hopen
  rw [hstate]
  refine storeLevels_stored_iff hform.2 (fun id => ?_)
  rw [hworld]
  exact not_isLevel_created request _ id

theorem updateDomain_stored_iff {request : UpdateDomainRequest} {result : UpdateDomainResult}
    (hok : (env.exec (updateDomain request) w).exit = .ok result) :
    Stored env result.domainElementId request.levels (env.exec (reopenDomain request) w).state w.graph
        (env.exec (updateDomain request) w).state.graph ↔
      GoesThrough env result.domainElementId request.levels
        (env.exec (reopenDomain request) w).state w.graph := by
  obtain ⟨count, nodes, hopen, rfl, -, hstate⟩ := exec_call_ok env w (updateDomain_eq request) hok
  obtain ⟨hadm, -, hdone, -, hworld⟩ := reopenDomain_ok env w request hopen
  rw [hstate]
  refine storeLevels_stored_iff hadm.1.2 (fun id => ?_)
  rw [hworld, cleared, afterDeletion, hdone]
  exact not_isLevel_deleted request.domainElementId _ id

/-- A call that reports success has stored its request exactly if everything owed went through. -/
theorem success_stored_iff (env : Env) (w : World) :
    (∀ (request : CreateDomainRequest) (result : CreateDomainResult),
      (env.exec (createDomain request) w).exit = .ok result → result.success = true →
        (Stored env result.domainElementId request.levels (env.exec (openDomain request) w).state
            w.graph (env.exec (createDomain request) w).state.graph ↔
          GoesThrough env result.domainElementId request.levels
            (env.exec (openDomain request) w).state w.graph)) ∧
    ∀ (request : UpdateDomainRequest) (result : UpdateDomainResult),
      (env.exec (updateDomain request) w).exit = .ok result → result.success = true →
        (Stored env result.domainElementId request.levels (env.exec (reopenDomain request) w).state
            w.graph (env.exec (updateDomain request) w).state.graph ↔
          GoesThrough env result.domainElementId request.levels
            (env.exec (reopenDomain request) w).state w.graph) :=
  ⟨fun _ _ hok _ => createDomain_stored_iff hok, fun _ _ hok _ => updateDomain_stored_iff hok⟩

/-- The fourth statement of the run, the first link, fails. -/
def linkFails : Env :=
  { Env.calm with outcome := fun n => if n = 3 then .failed false "timeout" else .done }

def rememberIt : KnowledgeRequirement := ⟨some (graphWithKnowledge.nodeIds.headD ""), none, "Remember"⟩

def novice : DomainLevel := ⟨1, "Novice", none, 0, { noRequirements with knowledge := [rememberIt] }⟩

/-- One level, which requires the knowledge that is there. -/
def oneLevel : CreateDomainRequest := ⟨⟨"Chess", ""⟩, [novice]⟩

theorem oneLevel_linkFails_exit :
    (linkFails.exec (createDomain oneLevel) (World.start graphWithKnowledge)).exit =
      .ok ⟨true, graphWithKnowledge.freshId, "Chess", []⟩ := by
  decide +kernel

theorem oneLevel_linkFails_edges :
    (linkFails.exec (createDomain oneLevel) (World.start graphWithKnowledge)).state.graph.edges.all
      (fun e => e.type = "HAS_DOMAIN_LEVEL") = true := by
  decide +kernel

/-- With the link failed the call still reports success, and the level requires nothing. -/
theorem oneLevel_not_stored :
    ∃ result, (linkFails.exec (createDomain oneLevel) (World.start graphWithKnowledge)).exit =
        .ok result ∧ result.success = true ∧
      ¬ Stored linkFails result.domainElementId oneLevel.levels
        (linkFails.exec (openDomain oneLevel) (World.start graphWithKnowledge)).state
        graphWithKnowledge
        (linkFails.exec (createDomain oneLevel) (World.start graphWithKnowledge)).state.graph := by
  refine ⟨_, oneLevel_linkFails_exit, rfl, fun hstored => ?_⟩
  have hknown : hasNode graphWithKnowledge "Knowledge" (graphWithKnowledge.nodeIds.headD "") = true := by
    decide +kernel
  obtain ⟨id, nodeId, -, -, e, he, htype, -⟩ := hstored.requirements 0 _ 0 _ rfl rfl
    (Or.inl ⟨_, rfl, Or.inl hknown⟩)
  have hlevelEdge := List.all_eq_true.1 oneLevel_linkFails_edges e he
  rw [htype] at hlevelEdge
  cases hlevelEdge

theorem oneLevel_calm_exit :
    (Env.calm.exec (createDomain oneLevel) (World.start graphWithKnowledge)).exit =
      .ok ⟨true, graphWithKnowledge.freshId, "Chess", []⟩ := by
  decide +kernel

theorem oneLevel_goesThrough :
    GoesThrough Env.calm graphWithKnowledge.freshId oneLevel.levels
      (Env.calm.exec (openDomain oneLevel) (World.start graphWithKnowledge)).state
      graphWithKnowledge where
  domain := by decide +kernel
  created _ _ := rfl
  placed _ _ _ _ _ _ _ _ _ := rfl
  linked i level k r hlevel hr _ := by
    obtain ⟨rfl, rfl⟩ : i = 0 ∧ novice = level := by
      cases i with
      | zero => exact ⟨rfl, Option.some.inj hlevel⟩
      | succ i => cases hlevel
    obtain ⟨rfl, rfl⟩ : k = 0 ∧ rememberIt.toRequirement = r := by
      cases k with
      | zero => exact ⟨rfl, Option.some.inj hr⟩
      | succ k => cases hr
    refine ⟨(collectedIds Env.calm graphWithKnowledge.freshId oneLevel.levels (Env.calm.exec
      (openDomain oneLevel) (World.start graphWithKnowledge)).state).headD "", 0, _,
      graphWithKnowledge.nodeIds.headD "", ⟨rfl, by decide +kernel, rfl, rfl, rfl, by decide +kernel,
      by decide +kernel⟩, rfl, rfl, Or.inl ⟨rfl, Or.inl (by decide +kernel)⟩⟩

theorem oneLevel_stored :
    Stored Env.calm graphWithKnowledge.freshId oneLevel.levels
      (Env.calm.exec (openDomain oneLevel) (World.start graphWithKnowledge)).state graphWithKnowledge
      (Env.calm.exec (createDomain oneLevel) (World.start graphWithKnowledge)).state.graph :=
  ((success_stored_iff Env.calm (World.start graphWithKnowledge)).1 oneLevel _ oneLevel_calm_exit
    rfl).2 oneLevel_goesThrough

end Calls

end AtlasOfUs.GraphApi
