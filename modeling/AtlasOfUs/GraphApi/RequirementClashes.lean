import AtlasOfUs.Emissions
import AtlasOfUs.GraphApi.DomainStatements
import AtlasOfUs.GraphApi.LevelAlignment
import AtlasOfUs.Library.ParallelEdges

namespace AtlasOfUs.GraphApi

open Library

def named (g : Graph) (label name : String) : Option ElementId :=
  (g.nodes.find? (isNamed label name)).map Node.id

/-- The requirement may come to stand for the id. An id that no node has yet can
be that of a node to be made. -/
def Requirement.Means (g : Graph) (r : Requirement) (id : ElementId) : Prop :=
  match r.nodeElementId with
  | some existingId => id = existingId ∧ (id ∈ g.nodeIds → hasNode g r.label id = true)
  | none => ∃ data ∈ r.newNode,
      named g r.label data.name = some id ∨ named g r.label data.name = none ∧ id ∉ g.nodeIds

/-- Both may stand for the same node. Nodes made for different names are different. -/
def Requirement.Clash (g : Graph) (a b : Requirement) : Prop :=
  a.relType = b.relType ∧ (∃ id, a.Means g id ∧ b.Means g id) ∧
    (a.nodeElementId = none → b.nodeElementId = none →
      a.newNode.map (·.name) = b.newNode.map (·.name))

def Requirement.Stands (g : Graph) (r : Requirement) (id : ElementId) : Prop :=
  match r.nodeElementId with
  | some existingId => id = existingId ∧ hasNode g r.label id = true
  | none => ∃ data ∈ r.newNode, named g r.label data.name = some id

section Named

variable {g g' : Graph} {label name : String} {id : ElementId}

theorem named_eq_some (h : named g label name = some id) :
    ∃ n ∈ g.nodes, n.id = id ∧ isNamed label name n = true := by
  obtain ⟨n, hn, hid⟩ := Option.map_eq_some_iff.1 h
  exact ⟨n, List.mem_of_find?_eq_some hn, hid, List.find?_some hn⟩

theorem named_of_grown (hgrown : g.nodes <+: g'.nodes) (h : named g label name = some id) :
    named g' label name = some id := by
  obtain ⟨n, hn, hid⟩ := Option.map_eq_some_iff.1 h
  obtain ⟨rest, hrest⟩ := hgrown
  rw [named, ← hrest, List.find?_append, hn, Option.some_or, Option.map_some, hid]

theorem node_of_grown (hgrown : g.nodes <+: g'.nodes) {n : Node} (hn : n ∈ g'.nodes)
    (hid : n.id ∈ g.nodeIds) : n ∈ g.nodes := by
  obtain ⟨m, hm, hmid⟩ := Graph.mem_nodeIds.1 hid
  exact Graph.node_eq_of_id (hgrown.subset hm) hn hmid ▸ hm

theorem named_mergedId (h : named g label name = some id) : mergedId g label name = id := by
  rw [named, ← List.head?_filter] at h
  rw [mergedId]
  cases hfound : g.nodes.filter (isNamed label name) with
  | nil =>
      rw [hfound] at h
      cases h
  | cons n ns =>
      rw [hfound] at h
      exact Option.some.inj h

theorem mergedId_of_not_named (h : named g label name = none) : mergedId g label name = g.freshId := by
  rw [named, ← List.head?_filter, Option.map_eq_none_iff, List.head?_eq_none_iff] at h
  rw [mergedId, h]

theorem named_mergeComponent (data : NewNodeData) :
    named (mergeComponentStatement label data.name (componentProps label data) g).2 label data.name =
      some (mergedId g label data.name) := by
  rw [named, mergeComponentStatement, mergedId]
  cases hfound : g.nodes.filter (isNamed label data.name) with
  | nil =>
      have hnone : g.nodes.find? (isNamed label data.name) = none := by
        rw [← List.head?_filter, hfound, List.head?_nil]
      have hnew : isNamed label data.name
          ⟨g.freshId, [label], (componentProps label data).toProps⟩ = true :=
        (isNamed_component _ label data).2 ⟨rfl, rfl⟩
      simp only [Graph.createNode_nodes]
      rw [List.find?_append, hnone, Option.none_or, List.find?_cons, hnew, Option.map_some]
  | cons n ns =>
      simp only
      rw [← List.head?_filter, hfound, List.head?_cons, Option.map_some]

end Named

namespace Requirement

variable {g g' : Graph} {a b r : Requirement} {id : ElementId}

theorem Stands.of_grown (h : r.Stands g id) (hgrown : g.nodes <+: g'.nodes) : r.Stands g' id := by
  rw [Stands] at h ⊢
  cases hexisting : r.nodeElementId with
  | some existingId =>
      rw [hexisting] at h
      exact ⟨h.1, hasNode_of_sublist hgrown.sublist h.2⟩
  | none =>
      rw [hexisting] at h
      obtain ⟨data, hdata, hnamed⟩ := h
      exact ⟨data, hdata, named_of_grown hgrown hnamed⟩

theorem Stands.means (h : r.Stands g' id) (hgrown : g.nodes <+: g'.nodes) : r.Means g id := by
  rw [Stands] at h
  rw [Means]
  cases hexisting : r.nodeElementId with
  | some existingId =>
      rw [hexisting] at h
      obtain ⟨n, hn, hnode⟩ := List.any_eq_true.1 h.2
      have hid : n.id = id := by
        simp only [isNode, Bool.and_eq_true, decide_eq_true_eq] at hnode
        exact hnode.1
      refine ⟨h.1, fun hold => List.any_eq_true.2 ⟨n, ?_, hnode⟩⟩
      exact node_of_grown hgrown hn (hid ▸ hold)
  | none =>
      rw [hexisting] at h
      obtain ⟨data, hdata, hnamed⟩ := h
      refine ⟨data, hdata, ?_⟩
      cases hbefore : named g r.label data.name with
      | some id' =>
          have hsame := named_of_grown hgrown hbefore
          rw [hnamed] at hsame
          exact .inl hsame.symm
      | none =>
          refine .inr ⟨rfl, fun hold => ?_⟩
          obtain ⟨n, hn, rfl, hname⟩ := named_eq_some hnamed
          rw [named, Option.map_eq_none_iff] at hbefore
          exact List.find?_eq_none.1 hbefore n (node_of_grown hgrown hn hold) hname

theorem clash_of_stands (hgrown : g.nodes <+: g'.nodes) (htype : a.relType = b.relType)
    (ha : a.Stands g' id) (hb : b.Stands g' id) : a.Clash g b := by
  refine ⟨htype, ⟨id, ha.means hgrown, hb.means hgrown⟩, fun hanone hbnone => ?_⟩
  rw [Stands, hanone] at ha
  rw [Stands, hbnone] at hb
  obtain ⟨data, hdata, hnamed⟩ := ha
  obtain ⟨data', hdata', hnamed'⟩ := hb
  obtain ⟨n, hn, hid, hname⟩ := named_eq_some hnamed
  obtain ⟨m, hm, hid', hname'⟩ := named_eq_some hnamed'
  obtain rfl := Graph.node_eq_of_id hn hm (hid.trans hid'.symm)
  rw [isNamed, Bool.and_eq_true, decide_eq_true_iff] at hname hname'
  have hsame : data.name = data'.name := by simpa using hname.2.symm.trans hname'.2
  rw [Option.mem_def.1 hdata, Option.mem_def.1 hdata', Option.map_some, Option.map_some, hsame]

end Requirement

section Level

variable (env : Env) (levelId : ElementId) (w : World) (r : Requirement)

theorem beforeLink_grown : w.graph.nodes <+: (beforeLink env w r).graph.nodes := by
  unfold beforeLink
  split
  · rw [Outcome.after]
    split
    · unfold mergeComponentStatement
      split
      · exact List.prefix_append _ _
      · exact List.prefix_rfl
    · exact List.prefix_rfl
  · exact List.prefix_rfl

theorem stands_of_linksTo {nodeId : ElementId} (h : LinksTo env levelId w r nodeId) :
    r.Stands (beforeLink env w r).graph nodeId := by
  obtain ⟨hid, -, -, hnode⟩ := h
  rw [Requirement.Stands]
  cases hexisting : r.nodeElementId with
  | some existingId =>
      rw [linkedId, hexisting] at hid
      exact ⟨(Option.some.inj hid).symm, hnode⟩
  | none =>
      cases hdata : r.newNode with
      | none =>
          rw [linkedId, hexisting, hdata] at hid
          cases hid
      | some data =>
          have hmerged : mergedId w.graph r.label data.name = nodeId := by
            simp only [linkedId, hexisting, hdata] at hid
            split_ifs at hid
            exact Option.some.inj hid
          have hbefore : (beforeLink env w r).graph = (env.outcome w.clock).after
              (mergeComponentStatement r.label data.name (componentProps r.label data)) w.graph := by
            rw [beforeLink, hexisting, hdata]
          refine ⟨data, rfl, ?_⟩
          rw [hbefore, Outcome.after] at hnode ⊢
          by_cases happ : (env.outcome w.clock).applied = true
          · rw [if_pos happ, named_mergeComponent, hmerged]
          · rw [if_neg happ] at hnode ⊢
            cases hnamed : named w.graph r.label data.name with
            | some id => rw [← hmerged, named_mergedId hnamed]
            | none =>
                rw [mergedId_of_not_named hnamed] at hmerged
                exact absurd (mem_nodeIds_of_hasNode (hmerged ▸ hnode))
                  w.graph.freshId_notMem_nodeIds

structure Accounted (base : Graph) (done : List Requirement) (g : Graph) : Prop where
  simple : g.Simple
  grown : base.nodes <+: g.nodes
  edges : ∀ e ∈ g.edges, e.source = levelId → e.type ∈ requiresTypes →
    ∃ a ∈ done, a.relType = e.type ∧ a.Stands g e.target

variable {env levelId w r} {base : Graph} {done : List Requirement}

theorem Accounted.after_requirement (h : Accounted levelId base done w.graph)
    (htype : r.relType ∈ requiresTypes) (hclash : ∀ a ∈ done, ¬ a.Clash base r) :
    Accounted levelId base (done ++ [r])
      (env.exec (processRequirement levelId r) w).state.graph := by
  have hnodes : w.graph.nodes <+: (env.exec (processRequirement levelId r) w).state.graph.nodes := by
    rw [processRequirement_nodes]
    exact beforeLink_grown env w r
  have hold : ∀ e ∈ w.graph.edges, e.source = levelId → e.type ∈ requiresTypes →
      ∃ a ∈ done, a.relType = e.type ∧
        a.Stands (env.exec (processRequirement levelId r) w).state.graph e.target := by
    intro e he hsource hrequires
    obtain ⟨a, ha, hatype, hstands⟩ := h.edges e he hsource hrequires
    exact ⟨a, ha, hatype, hstands.of_grown hnodes⟩
  by_cases hlinks : Links env levelId w r
  · obtain ⟨nodeId, hlinks⟩ := hlinks
    obtain ⟨e, -, ⟨hetype, hsource, htarget, -⟩, hedges⟩ := edges_of_links env levelId w r hlinks
    have hstands : r.Stands (env.exec (processRequirement levelId r) w).state.graph nodeId := by
      apply (stands_of_linksTo env levelId w r hlinks).of_grown
      rewrite [processRequirement_nodes]
      exact List.prefix_rfl
    refine ⟨?_, h.grown.trans hnodes, fun e' he' hsource' hrequires => ?_⟩
    · rw [Library.Graph.Simple, hedges, List.map_append, List.nodup_append]
      refine ⟨h.simple, List.nodup_singleton _, ?_⟩
      rintro key hkey key' hkey' rfl
      obtain ⟨e', he', hkeys⟩ := List.mem_map.1 hkey
      rw [List.map_singleton, List.mem_singleton] at hkey'
      obtain ⟨hsame, hsource', htarget'⟩ : e'.type = e.type ∧ e'.source = e.source ∧
          e'.target = e.target := by
        simpa [Edge.key] using hkeys.trans hkey'
      obtain ⟨a, ha, hatype, hastands⟩ := hold e' he' (hsource'.trans hsource)
        (by rwa [hsame, hetype])
      refine hclash a ha (Requirement.clash_of_stands (h.grown.trans hnodes) ?_ hastands ?_)
      · rw [hatype, hsame, hetype]
      · rwa [htarget', htarget]
    · rw [hedges, List.mem_append, List.mem_singleton] at he'
      rcases he' with he' | rfl
      · obtain ⟨a, ha, hatype, hastands⟩ := hold e' he' hsource' hrequires
        exact ⟨a, List.mem_append_left _ ha, hatype, hastands⟩
      · exact ⟨r, List.mem_append_right _ (List.mem_singleton_self r), hetype.symm, htarget ▸ hstands⟩
  · have hedges := edges_of_not_links env levelId w r hlinks
    refine ⟨h.simple.of_edges hedges, h.grown.trans hnodes, fun e he hsource hrequires => ?_⟩
    rw [hedges] at he
    obtain ⟨a, ha, hatype, hastands⟩ := hold e he hsource hrequires
    exact ⟨a, List.mem_append_left _ ha, hatype, hastands⟩

theorem Accounted.after_entries {rs : List Requirement} (h : Accounted levelId base [] w.graph)
    (htypes : ∀ r ∈ rs, r.relType ∈ requiresTypes)
    (hclash : rs.Pairwise fun a b => ¬ a.Clash base b) {k : Nat} (hk : k ≤ rs.length) :
    Accounted levelId base (rs.take k) (beforeEntry env levelId w rs k).graph := by
  induction k with
  | zero => exact h
  | succ k ih =>
      have hr : rs[k]? = some rs[k] := List.getElem?_eq_getElem hk
      have hapart : ∀ a ∈ rs.take k, ¬ a.Clash base rs[k] := by
        intro a ha
        obtain ⟨i, hi, rfl⟩ := List.mem_take_iff_getElem.1 ha
        exact List.pairwise_iff_getElem.1 hclash i k _ hk (by omega)
      have hstep : Accounted levelId base (rs.take k ++ [rs[k]])
          (env.exec (processRequirement levelId rs[k]) (beforeEntry env levelId w rs k)).state.graph :=
        (ih (Nat.le_of_succ_le hk)).after_requirement (htypes rs[k] (List.getElem_mem hk)) hapart
      rwa [List.take_add_one, hr, Option.toList_some, beforeEntry_succ env levelId w _ hr]

end Level

section Loops

variable (env : Env) (domainId : ElementId) (levels : List DomainLevel) (w : World)

def ReportsCreated : Prop :=
  ∀ i < levels.length, (env.outcome (w.clock + i)).returnsRow = true →
    (env.outcome (w.clock + i)).applied = true

def Unambiguous (g : Graph) : Prop :=
  ∀ level ∈ levels, level.requirements.entries.Pairwise fun a b => ¬ a.Clash g b

variable {env domainId levels w}

theorem simple_createLevelStatement {g : Graph} (h : g.Simple) (level : DomainLevel) :
    (createLevelStatement domainId level g).2.Simple := by
  cases hdomain : hasNode g "Domain" domainId with
  | false => rwa [createLevelStatement_of_not_hasNode hdomain]
  | true =>
      rw [createLevelStatement_of_hasNode hdomain]
      apply Library.Graph.Simple.createEdge (h.of_edges (Graph.createNode_edges _ _ _))
      rintro ⟨e, he, hbetween⟩
      exact g.freshId_notMem_nodeIds (Graph.mem_nodeIds_of_between (g := g) he hbetween).2

theorem simple_beforeLevel (h : w.graph.Simple) (i : Nat) :
    (beforeLevel env domainId levels w i).graph.Simple := by
  refine Proc.after_rel env.handler (R := fun s t => s.graph.Simple → t.graph.Simple)
    (fun _ => id) (fun h h' => h' ∘ h) (fun level s hs => ?_) levels w (Nat.zero_le i) h
  rw [← Env.exec, (exec_createLevel env domainId level s).2, Outcome.after]
  split
  · exact simple_createLevelStatement hs level
  · exact hs

theorem exists_freshId {levelId : ElementId} (h : levelId ∈ collectedIds env domainId levels w) :
    ∃ i < levels.length, (env.outcome (w.clock + i)).returnsRow = true ∧
      hasNode w.graph "Domain" domainId = true ∧
      levelId = (beforeLevel env domainId levels w i).graph.freshId := by
  obtain ⟨row, hrow, hid⟩ := List.mem_filterMap.1 h
  obtain ⟨i, hi⟩ := List.mem_iff_getElem?.1 hrow
  rw [show row = some levelId from hid] at hi
  exact ⟨i, levelRows_getElem? env domainId levels w hi⟩

theorem collectedIds_notMem {levelId : ElementId}
    (h : levelId ∈ collectedIds env domainId levels w) : levelId ∉ w.graph.nodeIds := by
  obtain ⟨i, -, -, -, rfl⟩ := exists_freshId h
  intro hold
  exact Graph.freshId_notMem_nodeIds _
    (beforeLevel_ids_subset env domainId levels w (Nat.zero_le i) hold)

theorem collectedIds_nodup (h : ReportsCreated env levels w) :
    (collectedIds env domainId levels w).Nodup := by
  rw [collectedIds, List.Nodup, List.pairwise_filterMap, List.pairwise_iff_getElem]
  rintro i j hi hj hij _ hid _ hid' rfl
  have hrow : (levelRows env domainId levels w)[i]? = some (some _) :=
    List.getElem?_eq_some_iff.2 ⟨hi, hid⟩
  have hrow' : (levelRows env domainId levels w)[j]? = some (some _) :=
    List.getElem?_eq_some_iff.2 ⟨hj, hid'⟩
  obtain ⟨hlt, hret, hdomain, hfresh⟩ := levelRows_getElem? env domainId levels w hrow
  obtain ⟨-, -, -, hfresh'⟩ := levelRows_getElem? env domainId levels w hrow'
  have hcreated := (createdFor_freshId env domainId levels w hlt hdomain).2 (h i hlt hret)
  apply Graph.freshId_notMem_nodeIds (beforeLevel env domainId levels w j).graph
  rw [← hfresh', hfresh]
  exact beforeLevel_ids_subset env domainId levels w hij hcreated.2

theorem no_requirement_afterCreation {levelId : ElementId}
    (h : levelId ∈ collectedIds env domainId levels w) :
    ∀ e ∈ (afterCreation env domainId levels w).graph.edges, e.source = levelId →
      e.type ∉ requiresTypes := by
  intro e he hsource
  obtain ⟨es, hedges, hes⟩ := afterCreation_edges env domainId levels w
  rw [hedges, List.mem_append] at he
  rcases he with he | he
  · have hmem : levelId ∈ w.graph.nodeIds := hsource ▸ w.graph.source_mem e he
    exact absurd hmem (collectedIds_notMem h)
  · rw [hes e he]
    decide

section Requirements

variable {ids : List ElementId} {base : Graph}

/-- Between two levels: no second edge so far, and no requirement yet of a level to come. -/
structure Pending (base : Graph) (ids : List ElementId) (i : Nat) (g : Graph) : Prop where
  simple : g.Simple
  grown : base.nodes <+: g.nodes
  pending : ∀ j ≥ i, ∀ levelId, ids[j]? = some levelId → ∀ e ∈ g.edges, e.source = levelId →
    e.type ∉ requiresTypes

theorem Pending.before_requirements (h : Pending base ids 0 w.graph) (hids : ids.Nodup)
    (hclash : Unambiguous levels base) {i : Nat} (hi : i ≤ levels.length) :
    Pending base ids i (beforeRequirements env levels ids w i).graph := by
  induction i with
  | zero => exact h
  | succ i ih =>
      have hlevel : levels[i]? = some levels[i] := List.getElem?_eq_getElem hi
      have hbefore := ih (Nat.le_of_succ_le hi)
      rcases beforeRequirements_succ env levels ids w hlevel with
        ⟨-, hsame⟩ | ⟨levelId, hid, ns, es, hnodes, hedges, -, hes⟩
      · rw [hsame]
        exact ⟨hbefore.simple, hbefore.grown, fun j hj => hbefore.pending j (Nat.le_of_succ_le hj)⟩
      · have hstart : Accounted levelId base [] (beforeRequirements env levels ids w i).graph := by
          refine ⟨hbefore.simple, hbefore.grown, fun e he hsource hrequires => ?_⟩
          exact absurd hrequires (hbefore.pending i (Nat.le_refl i) levelId hid e he hsource)
        have hdone : Accounted levelId base
            (levels[i].requirements.entries.take levels[i].requirements.entries.length)
            (beforeRequirements env levels ids w (i + 1)).graph := by
          rw [beforeRequirements_succ_eq env levels ids w hlevel, hid]
          exact hstart.after_entries (fun r hr => (entries_kind hr).2)
            (hclash levels[i] (List.getElem_mem hi)) (Nat.le_refl _)
        refine ⟨hdone.simple, hdone.grown, fun j hj levelId' hid' e he hsource => ?_⟩
        rw [hedges, List.mem_append] at he
        rcases he with he | he
        · exact hbefore.pending j (Nat.le_of_succ_le hj) levelId' hid' e he hsource
        · have hsame : levelId' = levelId := hsource.symm.trans (hes e he).1
          obtain ⟨hlt, hget⟩ := List.getElem?_eq_some_iff.1 hid
          obtain ⟨hlt', hget'⟩ := List.getElem?_eq_some_iff.1 hid'
          have hij : i = j := (List.Nodup.getElem_inj_iff hids).1
            (hget.trans (hsame.symm.trans hget'.symm))
          omega

end Requirements

theorem simple_storeLevels (h : w.graph.Simple) (hcreated : ReportsCreated env levels w)
    (hclash : Unambiguous levels w.graph) :
    (env.exec (storeLevels domainId levels) w).state.graph.Simple := by
  obtain ⟨nodes, -, hstate⟩ := exec_storeLevels env domainId levels w
  have hgrown : w.graph.nodes <+: (afterCreation env domainId levels w).graph.nodes := by
    have hextends : Extends w.graph (afterCreation env domainId levels w).graph := by
      have hruns := (runs_createLevels domainId levels).maintains
        (fun _ g hq hg => Extends.trans hg (extends_step hq g)) env w (Extends.refl w.graph)
      rwa [(exec_createLevels env domainId levels w).2] at hruns
    obtain ⟨ns, es, hnodes, -⟩ := hextends
    exact ⟨ns, hnodes.symm⟩
  have hstart : Pending w.graph (collectedIds env domainId levels w) 0
      (afterCreation env domainId levels w).graph := by
    refine ⟨simple_beforeLevel h levels.length, hgrown, fun j _ levelId hid => ?_⟩
    exact no_requirement_afterCreation (List.mem_of_getElem? hid)
  rw [hstate]
  exact (hstart.before_requirements (collectedIds_nodup hcreated) hclash (Nat.le_refl _)).simple

end Loops

section Calls

variable (env : Env) (g : Graph)

/-- Where the loops of a call start, its levels are reported as they are and no two requirements
of one level clash. -/
def StoresSimply (levels : List DomainLevel) (start : Option (ElementId × World)) : Prop :=
  ∀ domainId w, start = some (domainId, w) →
    ReportsCreated env levels w ∧ Unambiguous levels w.graph

theorem simple_call {α β : Type} {levels : List DomainLevel} {domainOf : α → ElementId} {p : Api α}
    {call : Api β} {finish : α → List CreatedNodeInfo → β} {w : World}
    (hcall : call = p >>= fun a => storeLevels (domainOf a) levels >>= fun nodes =>
      .done (finish a nodes))
    (hopen : (env.exec p w).state.graph.Simple) (hne : (env.exec call w).exit ≠ .panicked)
    (hstores : StoresSimply env levels (loopStart (env.exec p w) domainOf)) :
    (env.exec call w).state.graph.Simple := by
  cases hexit : (env.exec call w).exit with
  | ok b =>
      obtain ⟨a, nodes, hok, -, -, hstate⟩ := exec_call_ok env w hcall hexit
      obtain ⟨hcreated, hclash⟩ := hstores (domainOf a) (env.exec p w).state
        (by rw [loopStart, hok])
      rw [hstate]
      exact simple_storeLevels hopen hcreated hclash
  | err e => rwa [(exec_call_err env w hcall hexit).2]
  | panicked => exact absurd hexit hne

theorem simple_createDomain {g : Graph} (h : g.Simple) (request : CreateDomainRequest)
    (hstores : StoresSimply env request.levels (createStart env (.start g) request)) :
    (env.exec (createDomain request) (.start g)).state.graph.Simple := by
  have hopen : (env.exec (openDomain request) (.start g)).state.graph.Simple := by
    rcases openDomain_cases env (.start g) request with ⟨-, hgraph | hgraph⟩ | ⟨-, -, -, -, hstate⟩
    · rwa [hgraph]
    · rw [hgraph]
      exact h.of_edges rfl
    · rw [hstate]
      exact after_cases (fun _ => id) (fun g hg => hg.of_edges rfl) _ h
  exact simple_call env (createDomain_eq request) hopen
    ((runs_createDomain request).exit_ne_panicked env _) hstores

theorem simple_updateDomain {g : Graph} (h : g.Simple) (request : UpdateDomainRequest)
    (hstores : StoresSimply env request.levels (updateStart env (.start g) request)) :
    (env.exec (updateDomain request) (.start g)).state.graph.Simple := by
  have hprogressed : (progressed env (.start g) request).graph.Simple := by
    rw [progressed, afterProgress]
    split
    · exact h
    · exact after_cases (fun _ => id) (fun g hg => hg.filterEdges _) _ h
  have hrenamed : (renamed env (.start g) request).graph.Simple :=
    after_cases (fun _ => id) (fun g hg => hg.of_edges rfl) _ hprogressed
  have hcleared : (cleared env (.start g) request).graph.Simple :=
    after_cases (fun _ => id) (fun g hg => hg.detachDelete _) _ hrenamed
  have hopen : (env.exec (reopenDomain request) (.start g)).state.graph.Simple := by
    rcases reopenDomain_cases env (.start g) request with
      ⟨-, -, hgraph⟩ | ⟨-, -, -, hstate⟩ | ⟨-, -, -, -, hstate⟩ | ⟨-, -, -, -, hstate⟩
    · rwa [hgraph]
    · rwa [hstate]
    · rwa [hstate]
    · rwa [hstate]
  exact simple_call env (updateDomain_eq request) hopen
    ((runs_updateDomain request).exit_ne_panicked env _) hstores

end Calls

end AtlasOfUs.GraphApi
