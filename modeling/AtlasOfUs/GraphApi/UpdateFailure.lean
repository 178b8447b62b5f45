import AtlasOfUs.GraphApi.Opening

namespace AtlasOfUs.GraphApi

open Library

variable (env : Env) (w : World) (request : UpdateDomainRequest)

/-- An update fails only before its loops, and then it leaves what its opening left. -/
theorem exec_updateDomain_err {e : ServiceError}
    (h : (env.exec (updateDomain request) w).exit = .err e) :
    (env.exec (reopenDomain request) w).exit = .err e ∧
      (env.exec (updateDomain request) w).state = (env.exec (reopenDomain request) w).state :=
  exec_call_err env w (updateDomain_eq request) h

def writeIf (applied : Bool) (q : Statement) (g : Graph) : Graph := if applied then (q g).2 else g

def beforeDeletion (progress setName : Bool) (g : Graph) : Graph :=
  writeIf setName
    (renameStatement request.domainElementId request.domain.name request.domain.description)
    (writeIf progress (deleteProgressStatement request.removedNodeElementIds) g)

/-- The writes that an update makes before it creates anything, in their order. -/
def openingWrites (progress setName deletion : Bool) (g : Graph) : Graph :=
  writeIf deletion (deleteLevelsStatement request.domainElementId)
    (beforeDeletion request progress setName g)

theorem exists_progressed :
    ∃ progress, (progressed env w request).graph =
        writeIf progress (deleteProgressStatement request.removedNodeElementIds) w.graph ∧
      (request.removedNodeElementIds = [] → progress = false) := by
  by_cases hempty : request.removedNodeElementIds = []
  · exact ⟨false, by rw [progressed, afterProgress, if_pos hempty]; rfl, fun _ => rfl⟩
  · refine ⟨(env.outcome w.tick.clock).applied, ?_, fun h => absurd h hempty⟩
    rw [progressed, afterProgress, if_neg hempty]
    rfl

theorem cleared_eq_openingWrites (hrename : env.outcome (progressed env w request).clock = .done)
    (hdelete : env.outcome (renamed env w request).clock = .done) :
    ∃ progress, (cleared env w request).graph = openingWrites request progress true true w.graph := by
  obtain ⟨progress, hprogress, -⟩ := exists_progressed env w request
  refine ⟨progress, ?_⟩
  rw [cleared, afterDeletion, hdelete, renamed, afterRename, hrename, openingWrites, beforeDeletion,
    ← hprogress]
  rfl

/-- What a failed update leaves: the graph it found, less the progress of the
removed nodes, with the domain renamed and without its levels, each as far as
the run came before the error. -/
theorem updateDomain_err_graph {e : ServiceError}
    (h : (env.exec (updateDomain request) w).exit = .err e) :
    ∃ progress setName deletion,
      (env.exec (updateDomain request) w).state.graph =
          openingWrites request progress setName deletion w.graph ∧
        (request.removedNodeElementIds = [] → progress = false) ∧
        ((EarlyError e ∧ progress = false ∧ setName = false ∧ deletion = false) ∨
          (e = .databaseError "Failed to update domain" ∧ deletion = false) ∨
          (e = .databaseError "Failed to delete old levels" ∧ setName = true)) := by
  obtain ⟨hopen, hstate⟩ := exec_updateDomain_err env w request h
  obtain ⟨progress, hprogress, hempty⟩ := exists_progressed env w request
  rw [hstate]
  rcases reopenDomain_cases env w request with
    ⟨-, ⟨e', hearly, hexit⟩, hgraph⟩ | ⟨-, -, hexit, hworld⟩ | ⟨-, hdone, -, hexit, hworld⟩ |
      ⟨-, -, -, hexit, -⟩
  · obtain rfl : e' = e := Exit.err.inj (hexit.symm.trans hopen)
    exact ⟨false, false, false, hgraph, fun _ => rfl, Or.inl ⟨hearly, rfl, rfl, rfl⟩⟩
  · refine ⟨progress, (env.outcome (progressed env w request).clock).applied, false, ?_, hempty,
      Or.inr (Or.inl ⟨(Exit.err.inj (hexit.symm.trans hopen)).symm, rfl⟩)⟩
    rw [hworld, openingWrites, beforeDeletion, ← hprogress]
    rfl
  · refine ⟨progress, true, (env.outcome (renamed env w request).clock).applied, ?_, hempty,
      Or.inr (Or.inr ⟨(Exit.err.inj (hexit.symm.trans hopen)).symm, rfl⟩)⟩
    rw [hworld, openingWrites, beforeDeletion, ← hprogress, cleared, afterDeletion, renamed, afterRename, hdone]
    rfl
  · rw [hexit] at hopen
    cases hopen

section Kept

theorem hasNode_setNodes (g : Graph) (p : Node → Bool) (f : Props → Props) (label : String)
    (id : ElementId) : hasNode (g.setNodes p f) label id = hasNode g label id := by
  rw [hasNode, hasNode, Graph.setNodes_nodes, List.any_map]
  congr 1
  funext n
  simp only [Function.comp_apply, isNode, Node.hasLabel]
  cases p n <;> rfl

variable (progress setName deletion : Bool) (g : Graph)

theorem progress_nodes (applied : Bool) (removed : List ElementId) (g : Graph) :
    (writeIf applied (deleteProgressStatement removed) g).nodes = g.nodes := by
  cases applied <;> rfl

theorem isLevelOf_progress (applied : Bool) (removed : List ElementId) :
    isLevelOf (writeIf applied (deleteProgressStatement removed) g) = isLevelOf g := by
  funext domainId l
  cases applied with
  | false => rfl
  | true =>
      simp only [writeIf, if_true, deleteProgressStatement, isLevelOf, hasNode,
        Graph.deleteEdges_nodes, Graph.deleteEdges_edges, List.any_filter]
      congr 2
      funext e
      cases hb : Edge.between "HAS_DOMAIN_LEVEL" domainId l.id e with
      | false => simp
      | true =>
          have htype : e.type = "HAS_DOMAIN_LEVEL" := by
            simp only [Edge.between, Bool.and_eq_true, decide_eq_true_eq] at hb
            exact hb.1.1
          have hno : ∀ i, isProgressOf g "User" i e = false := fun i => by
            simp [isProgressOf, progressTypes, htype]
          simp [hno]

/-- Neither the progress deletion nor the rename changes which nodes are levels of the domain. -/
theorem isLevelOf_beforeDeletion :
    isLevelOf (beforeDeletion request progress setName g) = isLevelOf g := by
  rw [beforeDeletion, ← isLevelOf_progress g progress request.removedNodeElementIds]
  funext domainId l
  cases setName with
  | false => rfl
  | true =>
      simp only [writeIf, if_true, renameStatement, isLevelOf, hasNode_setNodes, Graph.setNodes_edges]

theorem writeIf_nodeIds_subset {q : Statement} (hq : ∀ g, (q g).2.nodeIds ⊆ g.nodeIds)
    (applied : Bool) (g : Graph) : (writeIf applied q g).nodeIds ⊆ g.nodeIds := by
  cases applied with
  | false => exact List.Subset.refl _
  | true => exact hq g

theorem writeIf_edges_subset {q : Statement} (hq : ∀ g, (q g).2.edges ⊆ g.edges)
    (applied : Bool) (g : Graph) : (writeIf applied q g).edges ⊆ g.edges := by
  cases applied with
  | false => exact List.Subset.refl _
  | true => exact hq g

theorem openingWrites_nodeIds_subset :
    (openingWrites request progress setName deletion g).nodeIds ⊆ g.nodeIds := by
  refine List.Subset.trans (writeIf_nodeIds_subset (fun g i hi => ?_) _ _) ?_
  · exact (Graph.mem_detachDelete_nodeIds.1 hi).1
  · refine List.Subset.trans (writeIf_nodeIds_subset (fun g i hi => ?_) _ _) ?_
    · simpa [renameStatement] using hi
    · exact writeIf_nodeIds_subset (fun g i hi => hi) _ _

theorem openingWrites_edges_subset :
    (openingWrites request progress setName deletion g).edges ⊆ g.edges := by
  refine List.Subset.trans (writeIf_edges_subset (deleteLevelsStatement_edges_subset _) _ _) ?_
  refine List.Subset.trans (writeIf_edges_subset (fun _ => List.Subset.refl _) _ _) ?_
  exact writeIf_edges_subset (deleteProgressStatement_edges_subset _) _ _

theorem mem_beforeDeletion_nodes {n : Node} (hn : n ∈ g.nodes)
    (hdomain : isNode "Domain" request.domainElementId n = false) :
    n ∈ (beforeDeletion request progress setName g).nodes := by
  have hnodes := progress_nodes progress request.removedNodeElementIds g
  cases setName with
  | false => rwa [beforeDeletion, writeIf, if_neg (by simp), hnodes]
  | true =>
      refine List.mem_map.2 ⟨n, by rwa [hnodes], ?_⟩
      simp [hdomain]

theorem beforeDeletion_labels :
    (beforeDeletion request progress setName g).nodes.map (fun n => (n.id, n.labels)) =
      g.nodes.map (fun n => (n.id, n.labels)) := by
  have hnodes := progress_nodes progress request.removedNodeElementIds g
  cases setName with
  | false => rw [beforeDeletion, writeIf, if_neg (by simp), hnodes]
  | true =>
      simp only [beforeDeletion, writeIf, if_true, renameStatement, Graph.setNodes_nodes]
      rw [← writeIf, hnodes, List.map_map]
      refine List.map_congr_left fun n _ => ?_
      cases hn : isNode "Domain" request.domainElementId n <;> simp [hn]

theorem exists_same_labels {g₁ g₂ : Graph} (hmap : g₁.nodes.map (fun n => (n.id, n.labels)) =
    g₂.nodes.map (fun n => (n.id, n.labels))) {l : Node} (hl : l ∈ g₁.nodes) :
    ∃ m ∈ g₂.nodes, m.id = l.id ∧ m.labels = l.labels := by
  have hmem : (l.id, l.labels) ∈ g₂.nodes.map (fun n => (n.id, n.labels)) :=
    hmap ▸ List.mem_map_of_mem hl
  obtain ⟨m, hm, heq⟩ := List.mem_map.1 hmem
  exact ⟨m, hm, congrArg Prod.fst heq, congrArg Prod.snd heq⟩

theorem exists_of_mem_openingWrites_nodes {n : Node}
    (hn : n ∈ (openingWrites request progress setName deletion g).nodes) :
    ∃ m ∈ g.nodes, m.id = n.id ∧ m.labels = n.labels := by
  refine exists_same_labels (beforeDeletion_labels request progress setName g) ?_
  cases deletion with
  | false => exact hn
  | true => exact List.mem_of_mem_filter hn

theorem isLevelOf_congr {domainId : ElementId} {m n : Node} (hid : m.id = n.id)
    (hlabels : m.labels = n.labels) : isLevelOf g domainId m = isLevelOf g domainId n := by
  rw [isLevelOf, isLevelOf, Node.hasLabel, Node.hasLabel, hid, hlabels]

theorem mem_openingWrites_nodes {n : Node} (hn : n ∈ g.nodes)
    (hdomain : isNode "Domain" request.domainElementId n = false)
    (hlevel : isLevelOf g request.domainElementId n = false) :
    n ∈ (openingWrites request progress setName deletion g).nodes := by
  have hbefore := mem_beforeDeletion_nodes request progress setName g hn hdomain
  cases deletion with
  | false => exact hbefore
  | true =>
      refine List.mem_filter.2 ⟨hbefore, ?_⟩
      rw [isLevelOf_beforeDeletion, hlevel]
      rfl

def IsLevel (g : Graph) (domainId id : ElementId) : Prop :=
  ∃ l ∈ g.nodes, isLevelOf g domainId l = true ∧ l.id = id

instance (g : Graph) (domainId id : ElementId) : Decidable (IsLevel g domainId id) :=
  inferInstanceAs (Decidable (∃ l ∈ g.nodes, isLevelOf g domainId l = true ∧ l.id = id))

theorem mem_doomed_beforeDeletion {id : ElementId} :
    id ∈ Graph.doomed (beforeDeletion request progress setName g)
        (isLevelOf (beforeDeletion request progress setName g) request.domainElementId) ↔
      IsLevel g request.domainElementId id := by
  have hlabels := beforeDeletion_labels request progress setName g
  rw [Graph.mem_doomed, isLevelOf_beforeDeletion]
  constructor
  · rintro ⟨l, hl, hlevel, rfl⟩
    obtain ⟨m, hm, hid, hlab⟩ := exists_same_labels hlabels hl
    exact ⟨m, hm, by rwa [isLevelOf_congr g hid hlab], hid⟩
  · rintro ⟨l, hl, hlevel, rfl⟩
    obtain ⟨m, hm, hid, hlab⟩ := exists_same_labels hlabels.symm hl
    exact ⟨m, hm, by rwa [isLevelOf_congr g hid hlab], hid⟩

/-- An edge away from the old levels that is no progress on a removed node is kept. -/
theorem mem_openingWrites_edges {r : Edge} (hr : r ∈ g.edges)
    (hprogress : ∀ i ∈ request.removedNodeElementIds, isProgressOf g "User" i r = false)
    (hsource : ¬ IsLevel g request.domainElementId r.source)
    (htarget : ¬ IsLevel g request.domainElementId r.target) :
    r ∈ (openingWrites request progress setName deletion g).edges := by
  have hrest : r ∈ (writeIf progress
      (deleteProgressStatement request.removedNodeElementIds) g).edges := by
    cases progress with
    | false => exact hr
    | true =>
        refine List.mem_filter.2 ⟨hr, ?_⟩
        simpa using hprogress
  have hbefore : r ∈ (beforeDeletion request progress setName g).edges := by
    cases setName <;> exact hrest
  cases deletion with
  | false => exact hbefore
  | true =>
      refine Graph.mem_detachDelete_edges.2 ⟨hbefore, ?_, ?_⟩
      · rwa [mem_doomed_beforeDeletion]
      · rwa [mem_doomed_beforeDeletion]

end Kept

/-- A failed update creates nothing. It leaves the graph as it was where the
error came before its writes; else the writes that took effect before the error
remain, and all but the domain, its levels and the progress they concern is kept. -/
theorem updateDomain_failure {e : ServiceError}
    (h : (env.exec (updateDomain request) w).exit = .err e) :
    ∃ progress setName deletion,
      (env.exec (updateDomain request) w).state.graph =
          openingWrites request progress setName deletion w.graph ∧
        (request.removedNodeElementIds = [] → progress = false) ∧
        ((EarlyError e ∧ (env.exec (updateDomain request) w).state.graph = w.graph) ∨
          (e = .databaseError "Failed to update domain" ∧ deletion = false) ∨
          (e = .databaseError "Failed to delete old levels" ∧ setName = true)) ∧
        (env.exec (updateDomain request) w).state.graph.nodeIds ⊆ w.graph.nodeIds ∧
        (env.exec (updateDomain request) w).state.graph.edges ⊆ w.graph.edges ∧
        (∀ n ∈ w.graph.nodes, isNode "Domain" request.domainElementId n = false →
          isLevelOf w.graph request.domainElementId n = false →
            n ∈ (env.exec (updateDomain request) w).state.graph.nodes) ∧
        (∀ r ∈ w.graph.edges,
          (∀ i ∈ request.removedNodeElementIds, isProgressOf w.graph "User" i r = false) →
          ¬ IsLevel w.graph request.domainElementId r.source →
          ¬ IsLevel w.graph request.domainElementId r.target →
            r ∈ (env.exec (updateDomain request) w).state.graph.edges) := by
  obtain ⟨progress, setName, deletion, hgraph, hempty, herror⟩ :=
    updateDomain_err_graph env w request h
  refine ⟨progress, setName, deletion, hgraph, hempty, ?_, ?_, ?_, ?_, ?_⟩
  · rcases herror with ⟨hearly, rfl, rfl, rfl⟩ | hlate
    · exact Or.inl ⟨hearly, hgraph⟩
    · exact Or.inr hlate
  · rw [hgraph]
    exact openingWrites_nodeIds_subset request progress setName deletion w.graph
  · rw [hgraph]
    exact openingWrites_edges_subset request progress setName deletion w.graph
  · intro n hn hdomain hlevel
    rw [hgraph]
    exact mem_openingWrites_nodes request progress setName deletion w.graph hn hdomain hlevel
  · intro r hr hprogress hsource htarget
    rw [hgraph]
    exact mem_openingWrites_edges request progress setName deletion w.graph hr hprogress hsource htarget

section Renamed

def graphWithDomain : Graph :=
  emptyGraph.createNode ["Domain"] (Properties.toProps [("name", .str "Chess")])

def renameChess : UpdateDomainRequest where
  domainElementId := graphWithDomain.nodeIds.headD ""
  domain := ⟨"Go", ""⟩
  levels := [⟨1, "Novice", none, 0, ⟨[], [], [], []⟩⟩]
  removedNodeElementIds := []

/-- The third statement of the run, the deletion of the old levels, fails. -/
def deletionFails : Env :=
  { Env.calm with outcome := fun n => if n = 2 then .failed false "timeout" else .done }

theorem renameChess_exit :
    (deletionFails.exec (updateDomain renameChess) (World.start graphWithDomain)).exit =
      .err (.databaseError "Failed to delete old levels") := by
  decide +kernel

theorem renameChess_not_atomic :
    ¬ ∀ (env : Env) (w : World) (request : UpdateDomainRequest) (e : ServiceError),
      (env.exec (updateDomain request) w).exit = .err e →
        (env.exec (updateDomain request) w).state.graph = w.graph := by
  intro h
  have hgraph := h _ _ _ _ renameChess_exit
  have hname := congrArg (fun g : Graph => g.nodes.map (fun n => n.props "name")) hgraph
  have hgo : (deletionFails.exec (updateDomain renameChess)
      (World.start graphWithDomain)).state.graph.nodes.map (fun n => n.props "name") =
        [some (.str "Go")] := by decide +kernel
  rw [hgo] at hname
  revert hname
  decide +kernel

theorem updateDomain_failure_renameChess :
    ∃ progress setName deletion,
      (deletionFails.exec (updateDomain renameChess) (World.start graphWithDomain)).state.graph =
        openingWrites renameChess progress setName deletion graphWithDomain := by
  obtain ⟨progress, setName, deletion, hgraph, -⟩ :=
    updateDomain_failure deletionFails (World.start graphWithDomain) renameChess renameChess_exit
  exact ⟨progress, setName, deletion, hgraph⟩

end Renamed

end AtlasOfUs.GraphApi
