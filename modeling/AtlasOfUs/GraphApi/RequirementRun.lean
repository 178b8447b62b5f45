import AtlasOfUs.GraphApi.LevelRun

namespace AtlasOfUs.GraphApi

open Library

variable (env : Env) (levelId : ElementId) (w : World) (r : Requirement)

/-- The node that a MERGE by name gives back first: the first of that name, or the one it creates. -/
def mergedId (g : Graph) (label name : String) : ElementId :=
  match g.nodes.filter (isNamed label name) with
  | [] => g.freshId
  | n :: _ => n.id

theorem mergeComponentStatement_head? (label name : String) (props : Properties) (g : Graph) :
    (mergeComponentStatement label name props g).1.head? =
      some (idRow "elementId" (mergedId g label name)) := by
  unfold mergeComponentStatement mergedId
  cases g.nodes.filter (isNamed label name) <;> rfl

theorem exec_createComponentNode (label : String) (data : NewNodeData) :
    (env.exec (createComponentNode label data) w).state =
        ⟨(env.outcome w.clock).after
          (mergeComponentStatement label data.name (componentProps label data)) w.graph,
          w.clock + 1⟩ ∧
      (((env.outcome w.clock).returnsRow = true ∧
        (env.exec (createComponentNode label data) w).exit =
          .ok (mergedId w.graph label data.name)) ∨
      ((env.outcome w.clock).returnsRow = false ∧
        ∃ e, (env.exec (createComponentNode label data) w).exit = .err e)) := by
  have hrow := (env.outcome w.clock).firstRow_eq
    (mergeComponentStatement label data.name (componentProps label data) w.graph).1
  rw [Outcome.firstRow, mergeComponentStatement_head?] at hrow
  rw [createComponentNode, exec_bind, exec_execute, Execution.andThen_ok]
  cases hreply : (env.outcome w.clock).reply
      (mergeComponentStatement label data.name (componentProps label data) w.graph).1 with
  | error e =>
      rw [hreply] at hrow
      refine ⟨rfl, Or.inr ⟨?_, _, rfl⟩⟩
      cases hret : (env.outcome w.clock).returnsRow with
      | true => simp [hret] at hrow
      | false => rfl
  | ok rs =>
      rw [hreply] at hrow
      simp only at hrow
      cases hret : (env.outcome w.clock).returnsRow with
      | true =>
          rw [hret, if_pos rfl] at hrow
          refine ⟨by simp [hrow], Or.inl ⟨rfl, ?_⟩⟩
          simp [hrow, idRow, Row.getString, Row.get, Json.asStr]
      | false =>
          simp only [hret, Bool.false_eq_true, if_false] at hrow
          refine ⟨by simp [hrow], Or.inr ⟨rfl, .databaseError "Failed to get element ID after creation", ?_⟩⟩
          simp [hrow]

def beforeLink : World :=
  match r.nodeElementId, r.newNode with
  | none, some data =>
      ⟨(env.outcome w.clock).after
        (mergeComponentStatement r.label data.name (componentProps r.label data)) w.graph,
        w.clock + 1⟩
  | _, _ => w

def linkedId : Option ElementId :=
  match r.nodeElementId, r.newNode with
  | some existingId, _ => some existingId
  | none, some data =>
      if (env.outcome w.clock).returnsRow then some (mergedId w.graph r.label data.name) else none
  | none, none => none

def afterLink (nodeId : ElementId) : World :=
  ⟨(env.outcome (beforeLink env w r).clock).after
      (linkStatement r.label r.relType levelId nodeId r.properties) (beforeLink env w r).graph,
    (beforeLink env w r).clock + 1⟩

theorem exec_linkRequirement (nodeId : ElementId) :
    env.exec (linkRequirement levelId nodeId r) w =
      ⟨.ok (), ⟨(env.outcome w.clock).after
          (linkStatement r.label r.relType levelId nodeId r.properties) w.graph, w.clock + 1⟩,
        [⟨.execute (linkStatement r.label r.relType levelId nodeId r.properties),
          (env.outcome w.clock).reply
            (linkStatement r.label r.relType levelId nodeId r.properties w.graph).1⟩]⟩ := by
  rw [linkRequirement, exec_bind, exec_runStatement, Execution.andThen_ok]
  rfl

theorem exec_processRequirement :
    (env.exec (processRequirement levelId r) w).state =
      match linkedId env w r with
      | some nodeId => afterLink env levelId w r nodeId
      | none => beforeLink env w r := by
  unfold processRequirement linkedId afterLink beforeLink
  cases r.nodeElementId with
  | some existingId => simp [exec_bind, exec_linkRequirement]
  | none =>
      cases r.newNode with
      | none => rfl
      | some data =>
          obtain ⟨hstate, ⟨hret, hexit⟩ | ⟨hret, e, hexit⟩⟩ :=
            exec_createComponentNode env w r.label data
          · simp only [hret, if_true]
            rw [exec_bind, exec_attempt, hexit, hstate]
            simp [Exit.attempted, exec_bind, exec_linkRequirement]
          · simp only [hret, Bool.false_eq_true, if_false]
            rw [exec_bind, exec_attempt, hexit, hstate]
            rfl

/-- The link statement of the requirement is reached for `nodeId` and takes effect. -/
def LinksTo (nodeId : ElementId) : Prop :=
  linkedId env w r = some nodeId ∧
    (env.outcome (beforeLink env w r).clock).applied = true ∧
    hasNode (beforeLink env w r).graph "Domain_Level" levelId = true ∧
    hasNode (beforeLink env w r).graph r.label nodeId = true

def Links : Prop := ∃ nodeId, LinksTo env levelId w r nodeId

theorem mergeComponentStatement_edges (label name : String) (props : Properties) (g : Graph) :
    (mergeComponentStatement label name props g).2.edges = g.edges := by
  unfold mergeComponentStatement
  split <;> rfl

theorem beforeLink_edges : (beforeLink env w r).graph.edges = w.graph.edges := by
  unfold beforeLink
  split
  · rw [Outcome.after]
    split
    · exact mergeComponentStatement_edges _ _ _ _
    · rfl
  · rfl

theorem linkStatement_edges (label relType : String) (levelId nodeId : ElementId)
    (props : Properties) (g : Graph) :
    (linkStatement label relType levelId nodeId props g).2.edges =
      if hasNode g "Domain_Level" levelId && hasNode g label nodeId then
        g.edges ++ [⟨g.freshId, relType, levelId, nodeId, Properties.toProps props⟩]
      else g.edges := by
  unfold linkStatement
  split
  · rename_i h
    rw [Bool.and_eq_true] at h
    exact Graph.createEdge_of_mem (mem_nodeIds_of_hasNode h.1) (mem_nodeIds_of_hasNode h.2) _ _
  · rfl

theorem linkStatement_nodes (label relType : String) (levelId nodeId : ElementId)
    (props : Properties) (g : Graph) :
    (linkStatement label relType levelId nodeId props g).2.nodes = g.nodes := by
  unfold linkStatement
  split
  · simp
  · rfl

def EdgeFor (levelId nodeId : ElementId) (r : Requirement) (e : Edge) : Prop :=
  e.type = r.relType ∧ e.source = levelId ∧ e.target = nodeId ∧
    e.props = Properties.toProps r.properties

theorem edges_of_links {nodeId : ElementId} (h : LinksTo env levelId w r nodeId) :
    ∃ e, e.id ∉ w.graph.edgeIds ∧ EdgeFor levelId nodeId r e ∧
      (env.exec (processRequirement levelId r) w).state.graph.edges = w.graph.edges ++ [e] := by
  obtain ⟨hid, happ, hlevel, hnode⟩ := h
  refine ⟨⟨(beforeLink env w r).graph.freshId, r.relType, levelId, nodeId,
    Properties.toProps r.properties⟩, ?_, ⟨rfl, rfl, rfl, rfl⟩, ?_⟩
  · have hfresh := Graph.freshId_notMem_edgeIds (beforeLink env w r).graph
    rwa [Graph.edgeIds, beforeLink_edges] at hfresh
  · rw [exec_processRequirement, hid]
    simp only [afterLink, Outcome.after, happ, if_true]
    rw [linkStatement_edges, hlevel, hnode, Bool.and_true, if_pos rfl, beforeLink_edges]

theorem edges_of_not_links (h : ¬ Links env levelId w r) :
    (env.exec (processRequirement levelId r) w).state.graph.edges = w.graph.edges := by
  rw [exec_processRequirement]
  cases hid : linkedId env w r with
  | none => exact beforeLink_edges env w r
  | some nodeId =>
      simp only [afterLink, Outcome.after]
      split
      · rename_i happ
        rw [linkStatement_edges, if_neg, beforeLink_edges]
        intro hboth
        rw [Bool.and_eq_true] at hboth
        exact h ⟨nodeId, hid, happ, hboth.1, hboth.2⟩
      · exact beforeLink_edges env w r

theorem processRequirement_edges_subset :
    w.graph.edges ⊆ (env.exec (processRequirement levelId r) w).state.graph.edges := by
  by_cases h : Links env levelId w r
  · obtain ⟨nodeId, hlinks⟩ := h
    obtain ⟨e, -, -, hedges⟩ := edges_of_links env levelId w r hlinks
    rw [hedges]
    exact List.subset_append_left _ _
  · rw [edges_of_not_links env levelId w r h]
    exact List.Subset.refl _

theorem beforeLink_nodes_sublist : w.graph.nodes.Sublist (beforeLink env w r).graph.nodes := by
  unfold beforeLink
  split
  · rw [Outcome.after]
    split
    · unfold mergeComponentStatement
      split
      · exact List.sublist_append_left _ _
      · exact List.Sublist.refl _
    · exact List.Sublist.refl _
  · exact List.Sublist.refl _

theorem processRequirement_nodes :
    (env.exec (processRequirement levelId r) w).state.graph.nodes = (beforeLink env w r).graph.nodes := by
  rw [exec_processRequirement]
  cases linkedId env w r with
  | none => rfl
  | some nodeId =>
      simp only [afterLink, Outcome.after]
      split
      · exact linkStatement_nodes _ _ _ _ _ _
      · rfl

theorem isNamed_component (id : ElementId) (label : String) (data : NewNodeData) {label' name : String} :
    isNamed label' name ⟨id, [label], (componentProps label data).toProps⟩ = true ↔
      label' = label ∧ name = data.name := by
  simp only [isNamed, Node.hasLabel, componentProps, Properties.toProps, Bool.and_eq_true,
    List.contains_eq_mem, List.mem_singleton, decide_eq_true_eq, List.cons_append,
    List.lookup_cons_self, Option.some.injEq, Value.str.injEq]
  exact and_congr_right fun _ => eq_comm

def beforeEntry (rs : List Requirement) (k : Nat) : World :=
  Proc.after env.handler (processRequirement levelId) (rs.take k) w

theorem beforeEntry_succ {rs : List Requirement} {k : Nat} (h : rs[k]? = some r) :
    beforeEntry env levelId w rs (k + 1) =
      (env.exec (processRequirement levelId r) (beforeEntry env levelId w rs k)).state :=
  Proc.after_take_succ _ _ h w

theorem beforeEntry_edges_subset (rs : List Requirement) {k l : Nat} (hkl : k ≤ l) :
    (beforeEntry env levelId w rs k).graph.edges ⊆ (beforeEntry env levelId w rs l).graph.edges :=
  Proc.after_rel env.handler (R := fun s t => s.graph.edges ⊆ t.graph.edges)
    (fun _ => List.Subset.refl _) (fun h h' => List.Subset.trans h h')
    (fun r s => processRequirement_edges_subset env levelId s r) rs w hkl

theorem beforeEntry_nodes_sublist (rs : List Requirement) {k l : Nat} (hkl : k ≤ l) :
    (beforeEntry env levelId w rs k).graph.nodes.Sublist (beforeEntry env levelId w rs l).graph.nodes :=
  Proc.after_rel env.handler (R := fun s t => s.graph.nodes.Sublist t.graph.nodes)
    (fun _ => List.Sublist.refl _) (fun h h' => h.trans h')
    (fun r s => by
      rw [← Env.exec, processRequirement_nodes]
      exact beforeLink_nodes_sublist env s r) rs w hkl

theorem exists_edge_of_linksTo {rs : List Requirement} {k : Nat} {nodeId : ElementId}
    (hr : rs[k]? = some r) (h : LinksTo env levelId (beforeEntry env levelId w rs k) r nodeId) :
    ∃ e ∈ (beforeEntry env levelId w rs rs.length).graph.edges,
      e.id ∉ w.graph.edgeIds ∧ EdgeFor levelId nodeId r e := by
  obtain ⟨e, hfresh, hfor, hedges⟩ := edges_of_links env levelId _ r h
  have hk : k + 1 ≤ rs.length := (List.getElem?_eq_some_iff.1 hr).1
  have hmem : e ∈ (beforeEntry env levelId w rs (k + 1)).graph.edges := by
    rw [beforeEntry_succ env levelId w r hr, hedges]
    exact List.mem_append_right _ List.mem_cons_self
  refine ⟨e, beforeEntry_edges_subset env levelId w rs hk hmem, fun hold => hfresh ?_, hfor⟩
  exact List.map_subset _ (beforeEntry_edges_subset env levelId w rs (Nat.zero_le k)) hold

theorem exists_linksTo_of_edge {rs : List Requirement} {e : Edge}
    (he : e ∈ (beforeEntry env levelId w rs rs.length).graph.edges) (hnew : e ∉ w.graph.edges) :
    ∃ k r nodeId, rs[k]? = some r ∧
      LinksTo env levelId (beforeEntry env levelId w rs k) r nodeId ∧ EdgeFor levelId nodeId r e := by
  obtain ⟨k, hk, hbefore, hafter⟩ := exists_crossing
    (P := fun k => e ∈ (beforeEntry env levelId w rs k).graph.edges) hnew he
  rw [beforeEntry_succ env levelId w _ (List.getElem?_eq_getElem hk)] at hafter
  by_cases hlinks : Links env levelId (beforeEntry env levelId w rs k) rs[k]
  · obtain ⟨nodeId, hlinks⟩ := hlinks
    obtain ⟨e', -, hfor, hedges⟩ := edges_of_links env levelId _ _ hlinks
    rw [hedges, List.mem_append, List.mem_singleton] at hafter
    rcases hafter with hold | rfl
    · exact absurd hold hbefore
    · exact ⟨k, rs[k], nodeId, List.getElem?_eq_getElem hk, hlinks, hfor⟩
  · rw [edges_of_not_links env levelId _ _ hlinks] at hafter
    exact absurd hafter hbefore

theorem exists_new_edge_iff (rs : List Requirement) :
    (∃ e ∈ (beforeEntry env levelId w rs rs.length).graph.edges, e.id ∉ w.graph.edgeIds) ↔
      ∃ k r, rs[k]? = some r ∧ Links env levelId (beforeEntry env levelId w rs k) r := by
  constructor
  · rintro ⟨e, he, hnew⟩
    obtain ⟨k, r, nodeId, hr, hlinks, -⟩ :=
      exists_linksTo_of_edge env levelId w he (fun hold => hnew (Graph.id_mem_edgeIds hold))
    exact ⟨k, r, hr, nodeId, hlinks⟩
  · rintro ⟨k, r, hr, nodeId, hlinks⟩
    obtain ⟨e, he, hnew, -⟩ := exists_edge_of_linksTo env levelId w r hr hlinks
    exact ⟨e, he, hnew⟩

theorem exec_processRequirements (rs : List Requirement) :
    ∃ nodes, (env.exec (processRequirements levelId rs) w).exit = .ok nodes ∧
      (env.exec (processRequirements levelId rs) w).state =
        Proc.after env.handler (processRequirement levelId) rs w := by
  obtain ⟨ys, hexit, hstate, -⟩ :=
    Proc.run_mapM (processRequirement_infallible levelId) env.handler rs w
  rw [← Env.exec] at hexit hstate
  rw [processRequirements, exec_bind, Execution.exit_andThen hexit, Execution.state_andThen hexit, hstate]
  exact ⟨_, rfl, rfl⟩

/-- The requirements of a level are processed one after the other in the order of `entries`. -/
theorem exec_processLevelRequirements (requirements : LevelRequirements) :
    (env.exec (processLevelRequirements levelId requirements) w).state =
      beforeEntry env levelId w requirements.entries requirements.entries.length := by
  rw [beforeEntry, List.take_length]
  obtain ⟨ns, hk, hks⟩ := exec_processRequirements env levelId w
    (requirements.knowledge.map (·.toRequirement))
  obtain ⟨nss, hs, hss⟩ := exec_processRequirements env levelId _
    (requirements.skills.map (·.toRequirement))
  obtain ⟨nst, ht, hts⟩ := exec_processRequirements env levelId _
    (requirements.traits.map (·.toRequirement))
  obtain ⟨nsm, hm, hms⟩ := exec_processRequirements env levelId _
    (requirements.milestones.map (·.toRequirement))
  rw [processLevelRequirements, exec_bind, Execution.state_andThen hk, hks, exec_bind,
    Execution.state_andThen hs, hss, exec_bind, Execution.state_andThen ht, hts, exec_bind,
    Execution.state_andThen hm, hms, LevelRequirements.entries]
  simp only [Proc.after, List.foldl_append]
  rfl

end AtlasOfUs.GraphApi
