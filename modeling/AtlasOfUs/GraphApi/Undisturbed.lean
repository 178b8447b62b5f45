import AtlasOfUs.GraphApi.Storage

namespace AtlasOfUs.GraphApi

open Library

/-- Every statement takes effect and delivers its rows. -/
def Undisturbed (env : Env) : Prop := ∀ n, env.outcome n = .done

theorem undisturbed_calm : Undisturbed Env.calm := fun _ => rfl

def levelNode (id : ElementId) (level : DomainLevel) : Node :=
  ⟨id, ["Domain_Level"], levelProps level⟩

def levelLink (domainId id : ElementId) : String × ElementId × ElementId × Props :=
  ("HAS_DOMAIN_LEVEL", domainId, id, Props.empty)

def linkOf (g : Graph) (levelId : ElementId) (r : Requirement) :
    Option (String × ElementId × ElementId × Props) :=
  match r.nodeElementId with
  | some id =>
      if hasNode g r.label id then some (r.relType, levelId, id, Properties.toProps r.properties)
      else none
  | none => none

theorem hasNode_congr {g g' : Graph} (h : g'.nodes = g.nodes) (label : String) (id : ElementId) :
    hasNode g' label id = hasNode g label id := by
  rw [hasNode, hasNode, h]

theorem linkOf_congr {g g' : Graph} (h : g'.nodes = g.nodes) (levelId : ElementId) (r : Requirement) :
    linkOf g' levelId r = linkOf g levelId r := by
  cases hid : r.nodeElementId <;> simp [linkOf, hid, hasNode_congr h]

def levelLinks (g : Graph) (levelId : ElementId) (level : DomainLevel) :
    List (String × ElementId × ElementId × Props) :=
  level.requirements.entries.filterMap (linkOf g levelId)

def OnlyExisting (levels : List DomainLevel) : Prop :=
  ∀ level ∈ levels, ∀ r ∈ level.requirements.entries, r.newNode = none

variable {env : Env} (henv : Undisturbed env)

section Creation

include henv

theorem exec_createLevel_undisturbed (domainId : ElementId) (level : DomainLevel) (w : World)
    (hd : hasNode w.graph "Domain" domainId = true) :
    (env.exec (createLevel domainId level) w).exit = .ok (some w.graph.freshId) ∧
      (env.exec (createLevel domainId level) w).state =
        ⟨(createLevelStatement domainId level w.graph).2, w.clock + 1⟩ := by
  obtain ⟨hexit, hstate⟩ := exec_createLevel env domainId level w
  rw [hexit, hstate, henv w.clock]
  simp [Outcome.returnsRow, levelRow, hd]

theorem mapM_createLevel_undisturbed (domainId : ElementId) (levels : List DomainLevel) (w : World)
    (hd : hasNode w.graph "Domain" domainId = true) :
    ∃ ids es, (env.exec (levels.mapM (createLevel domainId)) w).exit = .ok (ids.map some) ∧
      ids.length = levels.length ∧
      (env.exec (levels.mapM (createLevel domainId)) w).state.graph.nodes =
        w.graph.nodes ++ List.zipWith levelNode ids levels ∧
      (env.exec (levels.mapM (createLevel domainId)) w).state.graph.edges = w.graph.edges ++ es ∧
      es.map Edge.content = ids.map (levelLink domainId) := by
  induction levels generalizing w with
  | nil => exact ⟨[], [], rfl, rfl, by simp, by simp, rfl⟩
  | cons level levels ih =>
      obtain ⟨hexit, hstate⟩ := exec_createLevel_undisturbed henv domainId level w hd
      have hdomain : hasNode (createLevelStatement domainId level w.graph).2 "Domain" domainId = true := by
        refine hasNode_of_sublist ?_ hd
        rw [createLevelStatement_nodes]
        exact List.sublist_append_left _ _
      have hsource : domainId ∈ (w.graph.createNode ["Domain_Level"] (levelProps level)).nodeIds := by
        simp [mem_nodeIds_of_hasNode hd]
      have htarget : w.graph.freshId ∈
          (w.graph.createNode ["Domain_Level"] (levelProps level)).nodeIds := by simp
      obtain ⟨ids, es, hids, hlength, hnodes, hedges, hcontent⟩ :=
        ih ⟨(createLevelStatement domainId level w.graph).2, w.clock + 1⟩ hdomain
      rw [List.mapM_cons, exec_bind, Execution.exit_andThen hexit, Execution.state_andThen hexit,
        hstate, exec_bind, Execution.exit_andThen hids, Execution.state_andThen hids]
      refine ⟨w.graph.freshId :: ids,
        ⟨(w.graph.createNode ["Domain_Level"] (levelProps level)).freshId, "HAS_DOMAIN_LEVEL", domainId,
          w.graph.freshId, Props.empty⟩ :: es, rfl, by simp [hlength], ?_, ?_, ?_⟩
      · exact hnodes.trans (by simp [createLevelStatement_nodes, hd, levelNode])
      · refine hedges.trans ?_
        rw [createLevelStatement_of_hasNode hd, Graph.createEdge_of_mem hsource htarget,
          List.append_assoc]
        rfl
      · rw [List.map_cons, hcontent]
        rfl

theorem exec_createLevels_undisturbed (domainId : ElementId) (levels : List DomainLevel) (w : World)
    (hd : hasNode w.graph "Domain" domainId = true) :
    ∃ ids es, (env.exec (createLevels domainId levels) w).exit = .ok ids ∧
      ids.length = levels.length ∧
      (env.exec (createLevels domainId levels) w).state.graph.nodes =
        w.graph.nodes ++ List.zipWith levelNode ids levels ∧
      (env.exec (createLevels domainId levels) w).state.graph.edges = w.graph.edges ++ es ∧
      es.map Edge.content = ids.map (levelLink domainId) := by
  obtain ⟨ids, es, hexit, hlength, hnodes, hedges, hcontent⟩ :=
    mapM_createLevel_undisturbed henv domainId levels w hd
  have hids : (ids.map some).filterMap id = ids := by simp
  rw [createLevels, exec_bind, Execution.exit_andThen hexit, Execution.state_andThen hexit]
  exact ⟨ids, es, congrArg Exit.ok hids, hlength, hnodes, hedges, hcontent⟩

end Creation

section Requirements

include henv

theorem exec_processRequirement_undisturbed (levelId : ElementId) (w : World) (r : Requirement)
    (hnew : r.newNode = none) (hlevel : hasNode w.graph "Domain_Level" levelId = true) :
    (env.exec (processRequirement levelId r) w).state.graph.nodes = w.graph.nodes ∧
      ∃ es, (env.exec (processRequirement levelId r) w).state.graph.edges = w.graph.edges ++ es ∧
        es.map Edge.content = (linkOf w.graph levelId r).toList := by
  have hbefore : beforeLink env w r = w := by
    rw [beforeLink, hnew]
    cases r.nodeElementId <;> rfl
  refine ⟨by rw [processRequirement_nodes, hbefore], ?_⟩
  by_cases hlinks : Links env levelId w r
  · obtain ⟨nodeId, hlinks⟩ := hlinks
    obtain ⟨e, -, ⟨htype, hsource, htarget, hprops⟩, hedges⟩ := edges_of_links env levelId w r hlinks
    obtain ⟨hid, -, -, hnode⟩ := hlinks
    rw [hbefore] at hnode
    have hexisting : r.nodeElementId = some nodeId := by
      rw [linkedId, hnew] at hid
      cases h : r.nodeElementId with
      | some id => rwa [h] at hid
      | none => simp [h] at hid
    refine ⟨[e], hedges, ?_⟩
    simp [linkOf, hexisting, hnode, Edge.content, htype, hsource, htarget, hprops]
  · refine ⟨[], by rw [edges_of_not_links env levelId w r hlinks, List.append_nil], ?_⟩
    cases hexisting : r.nodeElementId with
    | none => simp [linkOf, hexisting]
    | some id =>
        cases hnode : hasNode w.graph r.label id with
        | false => simp [linkOf, hexisting, hnode]
        | true =>
            refine absurd ⟨id, ?_, ?_, ?_, ?_⟩ hlinks
            · simp [linkedId, hexisting]
            · rw [henv]
              rfl
            · rwa [hbefore]
            · rwa [hbefore]

theorem after_processRequirement_undisturbed (levelId : ElementId) (rs : List Requirement) (w : World)
    (hnew : ∀ r ∈ rs, r.newNode = none) (hlevel : hasNode w.graph "Domain_Level" levelId = true) :
    (Proc.after env.handler (processRequirement levelId) rs w).graph.nodes = w.graph.nodes ∧
      ∃ es, (Proc.after env.handler (processRequirement levelId) rs w).graph.edges =
          w.graph.edges ++ es ∧
        es.map Edge.content = rs.filterMap (linkOf w.graph levelId) := by
  induction rs generalizing w with
  | nil => exact ⟨rfl, [], (List.append_nil _).symm, rfl⟩
  | cons r rs ih =>
      obtain ⟨hnodes, es, hedges, hcontent⟩ := exec_processRequirement_undisturbed henv levelId w r
        (hnew r List.mem_cons_self) hlevel
      have hlevel' : hasNode (env.exec (processRequirement levelId r) w).state.graph "Domain_Level"
          levelId = true := by rwa [hasNode, hnodes]
      obtain ⟨hnodes', es', hedges', hcontent'⟩ :=
        ih (env.exec (processRequirement levelId r) w).state
          (fun r hr => hnew r (List.mem_cons_of_mem _ hr)) hlevel'
      refine ⟨hnodes'.trans hnodes, es ++ es', ?_, ?_⟩
      · refine hedges'.trans ?_
        rw [hedges, List.append_assoc]
      · rw [List.map_append, hcontent, hcontent']
        rw [funext (linkOf_congr hnodes levelId)]
        cases hlink : linkOf w.graph levelId r <;> simp [hlink]

theorem beforeRequirements_undisturbed {ids : List ElementId} {levels : List DomainLevel} (w : World)
    (hlength : ids.length = levels.length) (hnew : OnlyExisting levels)
    (hids : ∀ id ∈ ids, hasNode w.graph "Domain_Level" id = true) {i : Nat} (hi : i ≤ levels.length) :
    (beforeRequirements env levels ids w i).graph.nodes = w.graph.nodes ∧
      ∃ es, (beforeRequirements env levels ids w i).graph.edges = w.graph.edges ++ es ∧
        es.map Edge.content = ((List.zipWith (levelLinks w.graph) ids levels).take i).flatten := by
  induction i with
  | zero => exact ⟨rfl, [], (List.append_nil _).symm, rfl⟩
  | succ i ih =>
      obtain ⟨hnodes, es, hedges, hcontent⟩ := ih (Nat.le_of_succ_le hi)
      have hlevel : levels[i]? = some levels[i] := List.getElem?_eq_getElem hi
      have hid : ids[i]? = some (ids.get ⟨i, hlength ▸ hi⟩) := List.getElem?_eq_getElem _
      have hsome : hasNode (beforeRequirements env levels ids w i).graph "Domain_Level"
          (ids.get ⟨i, hlength ▸ hi⟩) = true := by
        rw [hasNode_congr hnodes]
        exact hids _ (List.getElem_mem _)
      obtain ⟨hnodes', es', hedges', hcontent'⟩ := after_processRequirement_undisturbed henv _
        levels[i].requirements.entries _ (hnew _ (List.getElem_mem hi)) hsome
      rw [beforeRequirements_succ_eq env levels ids w hlevel, hid]
      simp only [beforeEntry, List.take_length]
      refine ⟨hnodes'.trans hnodes, es ++ es', by rw [hedges', hedges, List.append_assoc], ?_⟩
      rw [List.map_append, hcontent, hcontent', List.take_add_one, List.flatten_append]
      congr 1
      simp [List.getElem?_zipWith, hid, hlevel, levelLinks, funext (linkOf_congr hnodes _)]

end Requirements

/-- What the two loops leave of the levels when nothing disturbs them: a node for
each, the edge to it and the edges of its requirements, and nothing else. -/
structure Written (g final : Graph) (domainId : ElementId) (levels : List DomainLevel)
    (ids : List ElementId) : Prop where
  length : ids.length = levels.length
  nodes : final.nodes = g.nodes ++ List.zipWith levelNode ids levels
  edges : ∃ es, final.edges = g.edges ++ es ∧ es.map Edge.content =
    ids.map (levelLink domainId) ++ (List.zipWith (levelLinks g) ids levels).flatten

theorem hasNode_append_levelNodes {g g' : Graph} {ids : List ElementId} {levels : List DomainLevel}
    (h : g'.nodes = g.nodes ++ List.zipWith levelNode ids levels) {label : String}
    (hlabel : label ≠ "Domain_Level") (id : ElementId) : hasNode g' label id = hasNode g label id := by
  have hlevels : (List.zipWith levelNode ids levels).any (isNode label id) = false := by
    rw [List.any_eq_false]
    intro n hn
    obtain ⟨i, hi, rfl⟩ := List.mem_iff_getElem.1 hn
    simp [isNode, levelNode, Node.hasLabel, hlabel]
  rw [hasNode, h, List.any_append, hlevels, Bool.or_false, hasNode]

theorem levelLinks_append_levelNodes {g g' : Graph} {ids : List ElementId} {levels : List DomainLevel}
    (h : g'.nodes = g.nodes ++ List.zipWith levelNode ids levels) :
    levelLinks g' = levelLinks g := by
  funext levelId level
  refine List.filterMap_congr (fun r hr => ?_)
  have hlabel : r.label ≠ "Domain_Level" := by
    intro heq
    have hkind := (entries_kind hr).1
    rw [heq] at hkind
    simp [componentLabels] at hkind
  cases hid : r.nodeElementId <;> simp [linkOf, hid, hasNode_append_levelNodes h hlabel]

theorem levelLinks_content {g : Graph} {levelId : ElementId} {level : DomainLevel}
    {c : String × ElementId × ElementId × Props} (h : c ∈ levelLinks g levelId level) :
    ∃ r ∈ level.requirements.entries, ∃ id, r.nodeElementId = some id ∧ hasNode g r.label id = true ∧
      c = (r.relType, levelId, id, Properties.toProps r.properties) := by
  obtain ⟨r, hr, hlink⟩ := List.mem_filterMap.1 h
  cases hid : r.nodeElementId with
  | none => simp [linkOf, hid] at hlink
  | some id =>
      simp only [linkOf, hid] at hlink
      split_ifs at hlink with hnode
      exact ⟨r, hr, id, hid, hnode, (Option.some.inj hlink).symm⟩

def requiresFrom (g : Graph) (id : ElementId) : List Edge :=
  g.edges.filter (fun e => requiresTypes.contains e.type && e.source = id)

namespace Written

variable {g final : Graph} {domainId : ElementId} {levels : List DomainLevel} {ids : List ElementId}

theorem nodeIds (h : Written g final domainId levels ids) : final.nodeIds = g.nodeIds ++ ids := by
  have hids : (List.zipWith levelNode ids levels).map Node.id = ids := by
    refine List.ext_getElem (by simp [h.length]) (fun i hi hi' => ?_)
    simp [levelNode]
  rw [Graph.nodeIds, h.nodes, List.map_append, hids, Graph.nodeIds]

theorem nodup (h : Written g final domainId levels ids) : ids.Nodup := by
  have hnodup := final.nodeIds_nodup
  rw [← Graph.nodeIds, h.nodeIds] at hnodup
  exact (List.nodup_append.1 hnodup).2.1

theorem new (h : Written g final domainId levels ids) {id : ElementId} (hid : id ∈ ids) :
    id ∉ g.nodeIds := by
  have hnodup := final.nodeIds_nodup
  rw [← Graph.nodeIds, h.nodeIds] at hnodup
  exact fun hold => (List.nodup_append.1 hnodup).2.2 id hold id hid rfl

theorem requiresFrom_content (h : Written g final domainId levels ids) {i : Nat} {id : ElementId}
    {level : DomainLevel} (hid : ids[i]? = some id) (hlevel : levels[i]? = some level) :
    (requiresFrom final id).map Edge.content = levelLinks g id level := by
  obtain ⟨es, hedges, hcontent⟩ := h.edges
  let leaves (c : String × ElementId × ElementId × Props) : Bool :=
    requiresTypes.contains c.1 && c.2.1 = id
  have hold : g.edges.filter (leaves ∘ Edge.content) = [] := by
    refine List.filter_eq_nil_iff.2 (fun e he hleaves => ?_)
    simp only [leaves, Function.comp, Edge.content, Bool.and_eq_true, decide_eq_true_eq] at hleaves
    exact h.new (List.mem_of_getElem? hid) (hleaves.2 ▸ g.source_mem e he)
  have hlevels : (ids.map (levelLink domainId)).filter leaves = [] := by
    refine List.filter_eq_nil_iff.2 (fun c hc => ?_)
    obtain ⟨x, -, rfl⟩ := List.mem_map.1 hc
    simp [leaves, levelLink, requiresTypes]
  have hblocks : (List.zipWith (levelLinks g) ids levels).flatten.filter leaves =
      levelLinks g id level := by
    have hkey (x : ElementId) (y : DomainLevel) (c : String × ElementId × ElementId × Props)
        (hc : c ∈ levelLinks g x y) : c.2.1 = x := by
      obtain ⟨r, -, t, -, -, rfl⟩ := levelLinks_content hc
      rfl
    have hsource := filter_flatten_zipWith hkey h.nodup hid hlevel
    have htype : (levelLinks g id level).filter (fun c => requiresTypes.contains c.1) =
        levelLinks g id level := by
      refine List.filter_eq_self.2 (fun c hc => ?_)
      obtain ⟨r, hr, t, -, -, rfl⟩ := levelLinks_content hc
      exact List.elem_eq_true_of_mem (entries_kind hr).2
    rw [← htype, ← hsource, List.filter_filter]
  have hfilter : (requiresFrom final id).map Edge.content = (final.edges.map Edge.content).filter leaves := by
    rw [List.filter_map]
    rfl
  rw [hfilter, hedges, List.map_append, List.filter_append, hcontent, List.filter_append, hlevels,
    hblocks, List.filter_map, hold]
  rfl

theorem isLevel_iff (h : Written g final domainId levels ids) (hd : hasNode g "Domain" domainId = true)
    (hnone : ∀ id, ¬ IsLevel g domainId id) (id : ElementId) : IsLevel final domainId id ↔ id ∈ ids := by
  obtain ⟨es, hedges, hcontent⟩ := h.edges
  constructor
  · rintro ⟨l, hl, hlevel, rfl⟩
    simp only [isLevelOf, Bool.and_eq_true] at hlevel
    rw [h.nodes, List.mem_append] at hl
    rcases hl with hold | hwritten
    · obtain ⟨e, he, hbetween⟩ := List.any_eq_true.1 hlevel.2
      have hparts := hbetween
      simp only [Edge.between, Bool.and_eq_true, decide_eq_true_eq] at hparts
      rw [hedges, List.mem_append] at he
      rcases he with he | he
      · refine absurd ⟨l, hold, ?_, rfl⟩ (hnone l.id)
        simp only [isLevelOf, Bool.and_eq_true]
        exact ⟨⟨hlevel.1.1, hd⟩, List.any_eq_true.2 ⟨e, he, hbetween⟩⟩
      · have hc : e.content ∈ es.map Edge.content := List.mem_map_of_mem he
        rw [hcontent, List.mem_append] at hc
        rcases hc with hlink | hrequires
        · obtain ⟨x, hx, heq⟩ := List.mem_map.1 hlink
          have htarget := congrArg (fun c => c.2.2.1) heq
          simp only [levelLink, Edge.content] at htarget
          rw [← hparts.2, ← htarget]
          exact hx
        · obtain ⟨block, hblock, hc⟩ := List.mem_flatten.1 hrequires
          obtain ⟨j, hj, rfl⟩ := List.mem_iff_getElem.1 hblock
          rw [List.getElem_zipWith] at hc
          obtain ⟨r, hr, t, -, -, heq⟩ := levelLinks_content hc
          have htype : e.type = r.relType := congrArg Prod.fst heq
          have hkind := (entries_kind hr).2
          rw [← htype, hparts.1.1] at hkind
          simp [requiresTypes] at hkind
    · obtain ⟨j, hj, rfl⟩ := List.mem_iff_getElem.1 hwritten
      simp [levelNode]
  · intro hid
    obtain ⟨i, hi, rfl⟩ := List.mem_iff_getElem.1 hid
    have hi' : i < levels.length := h.length ▸ hi
    have hnode : levelNode ids[i] levels[i] ∈ final.nodes := by
      rw [h.nodes, List.mem_append]
      exact Or.inr (List.mem_iff_getElem.2 ⟨i, by rw [List.length_zipWith]; omega, by simp⟩)
    have hlink : levelLink domainId ids[i] ∈ es.map Edge.content := by
      rw [hcontent]
      exact List.mem_append_left _ (List.mem_map_of_mem hid)
    obtain ⟨e, he, heq⟩ := List.mem_map.1 hlink
    refine ⟨_, hnode, ?_, rfl⟩
    simp only [isLevelOf, Bool.and_eq_true]
    refine ⟨⟨by simp [levelNode, Node.hasLabel], ?_⟩, List.any_eq_true.2 ⟨e, ?_, ?_⟩⟩
    · rwa [hasNode_append_levelNodes h.nodes (by simp)]
    · rw [hedges]
      exact List.mem_append_right _ he
    · simp only [Edge.content, levelLink, Prod.mk.injEq] at heq
      simp [Edge.between, levelNode, heq.1, heq.2.1, heq.2.2.1]

end Written

theorem storeLevels_written (henv : Undisturbed env) {domainId : ElementId} {levels : List DomainLevel}
    (w : World) (hd : hasNode w.graph "Domain" domainId = true) (hnew : OnlyExisting levels) :
    ∃ ids, Written w.graph (env.exec (storeLevels domainId levels) w).state.graph domainId levels ids := by
  obtain ⟨ids, es, hexit, hlength, hnodes, hedges, hcontent⟩ :=
    exec_createLevels_undisturbed henv domainId levels w hd
  have hids : ∀ id ∈ ids, hasNode (env.exec (createLevels domainId levels) w).state.graph
      "Domain_Level" id = true := by
    intro id hid
    obtain ⟨i, hi, rfl⟩ := List.mem_iff_getElem.1 hid
    have hmem : levelNode ids[i] (levels.get ⟨i, hlength ▸ hi⟩) ∈ List.zipWith levelNode ids levels :=
      List.mem_iff_getElem.2 ⟨i, by rw [List.length_zipWith]; omega, by simp⟩
    rw [hasNode, hnodes, List.any_append, Bool.or_eq_true]
    exact Or.inr (List.any_eq_true.2 ⟨_, hmem, by simp [isNode, levelNode, Node.hasLabel]⟩)
  obtain ⟨hnodes', es', hedges', hcontent'⟩ := beforeRequirements_undisturbed henv
    (env.exec (createLevels domainId levels) w).state hlength hnew hids le_rfl
  obtain ⟨nodes, -, hstate⟩ := exec_processLevels env levels ids
    (env.exec (createLevels domainId levels) w).state
  have hfinal : (env.exec (storeLevels domainId levels) w).state =
      beforeRequirements env levels ids (env.exec (createLevels domainId levels) w).state
        levels.length := by
    rw [storeLevels, exec_bind, Execution.state_andThen hexit]
    exact hstate
  refine ⟨ids, hlength, ?_, es ++ es', ?_, ?_⟩
  · rw [hfinal, hnodes', hnodes]
  · rw [hfinal, hedges', hedges, List.append_assoc]
  · rw [List.map_append, hcontent, hcontent', levelLinks_append_levelNodes hnodes,
      List.take_of_length_le (by simp [hlength])]

/-- The two loops ran from `g` to `final`: on a domain that is there they write
its levels, otherwise the domain has no level after them. -/
def Stores (g final : Graph) (domainId : ElementId) (levels : List DomainLevel) : Prop :=
  (hasNode g "Domain" domainId = true ∧ ∃ ids, Written g final domainId levels ids) ∨
    (hasNode g "Domain" domainId = false ∧ ∀ id, ¬ IsLevel final domainId id)

theorem storeLevels_undisturbed (henv : Undisturbed env) (domainId : ElementId)
    {levels : List DomainLevel} (hnew : OnlyExisting levels) (w : World) :
    Stores w.graph (env.exec (storeLevels domainId levels) w).state.graph domainId levels := by
  cases hd : hasNode w.graph "Domain" domainId with
  | true => exact Or.inl ⟨hd, storeLevels_written henv w hd hnew⟩
  | false =>
      refine Or.inr ⟨hd, ?_⟩
      obtain ⟨ns, -, hnodes, -, hns, -⟩ := extends_storeLevels env domainId levels w
      rintro id ⟨l, -, hlevel, -⟩
      simp only [isLevelOf, Bool.and_eq_true] at hlevel
      obtain ⟨n, hn, hdomain⟩ := List.any_eq_true.1 hlevel.1.2
      rw [hnodes, List.mem_append] at hn
      rcases hn with hold | hadded
      · rw [hasNode, List.any_eq_false] at hd
        exact hd n hold hdomain
      · obtain ⟨label, hlabel, hlabels⟩ := hns n hadded
        simp only [isNode, Node.hasLabel, hlabels, Bool.and_eq_true] at hdomain
        obtain rfl : "Domain" = label := by simpa using hdomain.2
        simp [componentLabels] at hlabel

section Calls

variable {w : World}

/-- After the opening writes of an update, what is left of the nodes are those
that are no level of the domain. -/
theorem hasNode_openingWrites (request : UpdateDomainRequest) (progress setName : Bool) (g : Graph)
    (label : String) (id : ElementId) :
    hasNode (openingWrites request progress setName true g) label id = true ↔
      hasNode g label id = true ∧ ¬ IsLevel g request.domainElementId id := by
  have hdoomed := @mem_doomed_beforeDeletion request progress setName g id
  constructor
  · intro h
    obtain ⟨n, hn, hlabel⟩ := List.any_eq_true.1 h
    obtain ⟨m, hm, hid, hlabels⟩ := exists_of_mem_openingWrites_nodes request progress setName true g hn
    simp only [isNode, Bool.and_eq_true, decide_eq_true_eq] at hlabel
    refine ⟨List.any_eq_true.2 ⟨m, hm, ?_⟩, fun hlevel => ?_⟩
    · simp only [isNode, Node.hasLabel, hlabels, hid, Bool.and_eq_true, decide_eq_true_eq]
      exact hlabel
    · have hleft := Graph.mem_detachDelete_nodeIds.1 (Graph.id_mem_nodeIds hn)
      exact hleft.2 (hlabel.1 ▸ hdoomed.2 hlevel)
  · rintro ⟨h, hlevel⟩
    obtain ⟨m, hm, hlabel⟩ := List.any_eq_true.1 h
    obtain ⟨n, hn, hid, hlabels⟩ := exists_same_labels
      (beforeDeletion_labels request progress setName g).symm hm
    simp only [isNode, Bool.and_eq_true, decide_eq_true_eq] at hlabel
    refine List.any_eq_true.2 ⟨n, List.mem_filter.2 ⟨hn, ?_⟩, ?_⟩
    · cases hdelete : isLevelOf (beforeDeletion request progress setName g) request.domainElementId n with
      | false => rfl
      | true =>
          refine absurd (hdoomed.1 (Graph.mem_doomed.2 ⟨n, hn, hdelete, ?_⟩)) hlevel
          exact hid.trans hlabel.1
    · simp only [isNode, Node.hasLabel, hlabels, hid, Bool.and_eq_true, decide_eq_true_eq]
      exact hlabel

theorem updateDomain_undisturbed (henv : Undisturbed env) {request : UpdateDomainRequest}
    {result : UpdateDomainResult} (hnew : OnlyExisting request.levels)
    (hok : (env.exec (updateDomain request) w).exit = .ok result) :
    result.domainElementId = request.domainElementId ∧ result.domainName = request.domain.name ∧
      request.levels ≠ [] ∧ hasNode w.graph "Domain" request.domainElementId = true ∧
      ∃ progress, Stores (openingWrites request progress true true w.graph)
        (env.exec (updateDomain request) w).state.graph request.domainElementId request.levels := by
  obtain ⟨count, nodes, hopen, rfl, -, hstate⟩ := exec_call_ok env w (updateDomain_eq request) hok
  obtain ⟨hadm, hrename, hdelete, -, hworld⟩ := reopenDomain_ok env w request hopen
  obtain ⟨progress, hgraph⟩ := cleared_eq_openingWrites env w request hrename hdelete
  refine ⟨rfl, rfl, hadm.1.2, hadm.2.2, progress, ?_⟩
  rw [hstate, hworld, ← hgraph]
  exact storeLevels_undisturbed henv request.domainElementId hnew _

theorem updateDomain_undisturbed_ok (henv : Undisturbed env) {request : UpdateDomainRequest}
    (hform : WellFormed request.domain request.levels)
    (hd : hasNode w.graph "Domain" request.domainElementId = true) :
    ∃ result, (env.exec (updateDomain request) w).exit = .ok result := by
  have hadm : Admitted env w request := by
    refine ⟨hform, ?_, hd⟩
    rw [henv]
    rfl
  rcases reopenDomain_cases env w request with
    ⟨hnot, -⟩ | ⟨-, hfailed, -⟩ | ⟨-, -, hfailed, -⟩ | ⟨-, -, -, hopen, -⟩
  · exact absurd hadm hnot
  · exact absurd (henv _) hfailed
  · exact absurd (henv _) hfailed
  · obtain ⟨nodes, hnodes⟩ := (storeLevels_infallible request.domainElementId request.levels).exit_eq
      env.handler (env.exec (reopenDomain request) w).state
    rw [← Env.exec] at hnodes
    rw [updateDomain_eq, exec_bind, Execution.exit_andThen hopen, exec_bind,
      Execution.exit_andThen hnodes]
    exact ⟨_, rfl⟩

theorem updateDomain_not_wellFormed {request : UpdateDomainRequest}
    (hform : ¬ WellFormed request.domain request.levels) :
    (∃ e, (env.exec (updateDomain request) w).exit = .err e) ∧
      (env.exec (updateDomain request) w).state.graph = w.graph := by
  have hadm : ¬ Admitted env w request := fun h => hform h.1
  rcases reopenDomain_cases env w request with
    ⟨-, ⟨e, -, hexit⟩, hgraph⟩ | ⟨h, -⟩ | ⟨h, -⟩ | ⟨h, -⟩
  · rw [updateDomain_eq, exec_bind, Execution.exit_andThen_err hexit, Execution.state_andThen_err hexit]
    exact ⟨⟨e, rfl⟩, hgraph⟩
  · exact absurd h hadm
  · exact absurd h hadm
  · exact absurd h hadm

theorem createDomain_undisturbed (henv : Undisturbed env) {request : CreateDomainRequest}
    {result : CreateDomainResult} (hnew : OnlyExisting request.levels)
    (hok : (env.exec (createDomain request) w).exit = .ok result) :
    result.domainElementId = w.graph.freshId ∧ result.domainName = request.domain.name ∧
      request.levels ≠ [] ∧
      Stores (w.graph.createNode ["Domain"] (domainProps request.domain))
        (env.exec (createDomain request) w).state.graph w.graph.freshId request.levels := by
  obtain ⟨domainId, nodes, hopen, rfl, -, hstate⟩ := exec_call_ok env w (createDomain_eq request) hok
  obtain ⟨hform, rfl, hworld⟩ := openDomain_ok env w request hopen
  refine ⟨rfl, rfl, hform.2, ?_⟩
  rw [hstate, hworld, henv]
  exact storeLevels_undisturbed henv w.graph.freshId hnew
    ⟨w.graph.createNode ["Domain"] (domainProps request.domain), w.clock + 2⟩

end Calls

end AtlasOfUs.GraphApi
