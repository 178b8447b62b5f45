import AtlasOfUs.GraphApi.RequirementRun

namespace AtlasOfUs.GraphApi

open Library

variable (env : Env) (w : World)

section Calls

theorem storeLevels_infallible (domainId : ElementId) (levels : List DomainLevel) :
    (storeLevels domainId levels).Infallible := by
  refine ((Proc.Infallible.mapM (createLevel_infallible domainId) levels).bind
    (fun _ => Proc.Infallible.done _)).bind (fun ids => ?_)
  refine (Proc.Infallible.mapM (fun entry => ?_) _).bind (fun _ => Proc.Infallible.done _)
  unfold processLevel
  split
  · exact Proc.Infallible.done _
  · refine (runs_processLevelRequirements _ _).attempt_infallible.bind (fun result => ?_)
    cases result <;> exact Proc.Infallible.done _

variable {α β : Type} {levels : List DomainLevel} {domainOf : α → ElementId} {p : Api α}
  {call : Api β} {finish : α → List CreatedNodeInfo → β}

/-- A call that is an opening followed by the two loops succeeds where its opening does. -/
theorem exec_call_ok (hcall : call = p >>= fun a => storeLevels (domainOf a) levels >>= fun nodes =>
      .done (finish a nodes)) {b : β} (h : (env.exec call w).exit = .ok b) :
    ∃ a nodes, (env.exec p w).exit = .ok a ∧ b = finish a nodes ∧
      (env.exec (storeLevels (domainOf a) levels) (env.exec p w).state).exit = .ok nodes ∧
      (env.exec call w).state =
        (env.exec (storeLevels (domainOf a) levels) (env.exec p w).state).state := by
  subst hcall
  rw [exec_bind] at h ⊢
  cases hopen : (env.exec p w).exit with
  | ok a =>
      obtain ⟨nodes, hnodes⟩ := (storeLevels_infallible (domainOf a) levels).exit_eq env.handler
        (env.exec p w).state
      rw [← Env.exec] at hnodes
      rw [Execution.exit_andThen hopen, exec_bind, Execution.exit_andThen hnodes] at h
      rw [Execution.state_andThen hopen, exec_bind, Execution.state_andThen hnodes]
      exact ⟨a, nodes, rfl, (Exit.ok.inj h).symm, hnodes, rfl⟩
  | err e =>
      rw [Execution.exit_andThen_err hopen] at h
      cases h
  | panicked =>
      rw [Execution.andThen, hopen] at h
      cases h

theorem exec_call_err (hcall : call = p >>= fun a => storeLevels (domainOf a) levels >>= fun nodes =>
      .done (finish a nodes)) {e : ServiceError} (h : (env.exec call w).exit = .err e) :
    (env.exec p w).exit = .err e ∧ (env.exec call w).state = (env.exec p w).state := by
  subst hcall
  rw [exec_bind] at h ⊢
  cases hopen : (env.exec p w).exit with
  | ok a =>
      obtain ⟨nodes, hnodes⟩ := (storeLevels_infallible (domainOf a) levels).exit_eq env.handler
        (env.exec p w).state
      rw [← Env.exec] at hnodes
      rw [Execution.exit_andThen hopen, exec_bind, Execution.exit_andThen hnodes] at h
      cases h
  | err e' =>
      rw [Execution.exit_andThen_err hopen, Exit.err.injEq] at h
      exact ⟨by rw [h], Execution.state_andThen_err hopen _⟩
  | panicked =>
      rw [Execution.andThen, hopen] at h
      cases h

theorem createDomain_eq (request : CreateDomainRequest) :
    createDomain request = openDomain request >>= fun domainId =>
      storeLevels domainId request.levels >>= fun nodes =>
        .done ⟨true, domainId, request.domain.name, nodes⟩ := rfl

theorem updateDomain_eq (request : UpdateDomainRequest) :
    updateDomain request = reopenDomain request >>= fun count =>
      storeLevels request.domainElementId request.levels >>= fun nodes =>
        .done ⟨true, request.domainElementId, request.domain.name, nodes, count⟩ := rfl

end Calls

def WellFormed (domain : DomainInfo) (levels : List DomainLevel) : Prop :=
  domain.name ≠ "" ∧ levels ≠ []

theorem validateRequest_of_wellFormed {domain : DomainInfo} {levels : List DomainLevel}
    (h : WellFormed domain levels) : validateRequest domain levels = .done () := by
  simp [validateRequest, h.1, h.2]

theorem validateRequest_of_not_wellFormed {domain : DomainInfo} {levels : List DomainLevel}
    (h : ¬ WellFormed domain levels) :
    ∃ message, validateRequest domain levels = .fail (.validationError message) := by
  by_cases hname : domain.name = ""
  · exact ⟨"Domain name is required", by simp [validateRequest, hname]⟩
  · have hlevels : levels = [] := Classical.not_not.1 fun hl => h ⟨hname, hl⟩
    exact ⟨"At least one level is required", by simp [validateRequest, hname, hlevels]⟩

theorem after_of_reads {q : Statement} (hq : ∀ g, (q g).2 = g) (o : Outcome) (g : Graph) :
    o.after q g = g := by
  rw [Outcome.after]
  split
  · exact hq g
  · rfl

theorem after_edges_subset {q : Statement} (hq : ∀ g, (q g).2.edges ⊆ g.edges) (o : Outcome)
    (g : Graph) : (o.after q g).edges ⊆ g.edges := by
  rw [Outcome.after]
  split
  · exact hq g
  · exact List.Subset.refl _

section Update

variable (request : UpdateDomainRequest)

def Verified (domainElementId : ElementId) : Prop :=
  (env.outcome w.clock).returnsRow = true ∧ hasNode w.graph "Domain" domainElementId = true

theorem verifyStatement_head? (domainElementId : ElementId) (g : Graph) :
    (verifyStatement domainElementId g).1.head?.isSome = hasNode g "Domain" domainElementId := by
  rw [verifyStatement, hasNode]
  induction g.nodes with
  | nil => rfl
  | cons n ns ih =>
      cases hn : isNode "Domain" domainElementId n with
      | true => simp [hn]
      | false => simpa [hn] using ih

theorem exec_verifyDomain (domainElementId : ElementId) :
    (env.exec (verifyDomain domainElementId) w).state = ⟨w.graph, w.clock + 1⟩ ∧
      ((Verified env w domainElementId ∧ (env.exec (verifyDomain domainElementId) w).exit = .ok ()) ∨
        (¬ Verified env w domainElementId ∧
          ((env.exec (verifyDomain domainElementId) w).exit = .err (.notFound "Domain not found") ∨
            (env.exec (verifyDomain domainElementId) w).exit =
              .err (.databaseError "Failed to verify domain")))) := by
  have hkeep := after_of_reads (q := verifyStatement domainElementId) (fun g => rfl)
    (env.outcome w.clock) w.graph
  have hrow := (env.outcome w.clock).firstRow_eq (verifyStatement domainElementId w.graph).1
  have hhead := verifyStatement_head? domainElementId w.graph
  rw [Outcome.firstRow] at hrow
  rw [verifyDomain, exec_bind, exec_execute, Execution.andThen_ok, hkeep]
  cases hreply : (env.outcome w.clock).reply (verifyStatement domainElementId w.graph).1 with
  | error e =>
      rw [hreply] at hrow
      refine ⟨rfl, Or.inr ⟨fun hv => ?_, Or.inr rfl⟩⟩
      rw [hv.1, if_pos rfl] at hrow
      rw [← hrow, hv.2] at hhead
      cases hhead
  | ok rs =>
      rw [hreply] at hrow
      simp only at hrow
      cases hfirst : rs.firstRow with
      | some row =>
          refine ⟨by simp [hfirst], Or.inl ⟨?_, by simp [hfirst]⟩⟩
          have hret : (env.outcome w.clock).returnsRow = true := by
            by_contra hn
            simp [hn, hfirst] at hrow
          rw [hret, if_pos rfl, hfirst] at hrow
          exact ⟨hret, by rw [← hhead, ← hrow]; rfl⟩
      | none =>
          refine ⟨by simp [hfirst], Or.inr ⟨fun hv => ?_, Or.inl (by simp [hfirst])⟩⟩
          rw [hv.1, if_pos rfl, hfirst] at hrow
          rw [← hrow, hv.2] at hhead
          cases hhead

/-- The world after the progress deletion. Its failure is logged and passed over. -/
def afterProgress (removed : List ElementId) : World :=
  if removed = [] then w
  else ⟨(env.outcome w.clock).after (deleteProgressStatement removed) w.graph, w.clock + 1⟩

theorem Row.getInt_singleton (column : String) (j : Json) :
    Row.getInt [(column, j)] column = j.asI64 := by
  simp [Row.getInt, Row.get]

def deletedCount (removed : List ElementId) : Int :=
  if removed = [] ∨ (env.outcome w.clock).returnsRow = false then 0
  else (Json.int (removed.flatMap (fun i => w.graph.edges.filter (isProgressOf w.graph "User" i))).length).asI64.getD 0

theorem exec_deleteProgress (removed : List ElementId) :
    (env.exec (deleteProgress removed) w).state = afterProgress env w removed ∧
      (env.exec (deleteProgress removed) w).exit = .ok (deletedCount env w removed) := by
  by_cases hempty : removed = []
  · simp [deleteProgress, afterProgress, deletedCount, hempty]
  · have hrow := (env.outcome w.clock).firstRow_eq (deleteProgressStatement removed w.graph).1
    rw [Outcome.firstRow] at hrow
    simp only [deleteProgress, afterProgress, deletedCount, hempty, if_false, false_or]
    rw [exec_bind, exec_execute, Execution.andThen_ok]
    cases hreply : (env.outcome w.clock).reply (deleteProgressStatement removed w.graph).1 with
    | error e =>
        rw [hreply] at hrow
        cases hret : (env.outcome w.clock).returnsRow with
        | true => simp [hret, deleteProgressStatement] at hrow
        | false => simp
    | ok rs =>
        rw [hreply] at hrow
        simp only at hrow
        cases hret : (env.outcome w.clock).returnsRow with
        | true =>
            rw [hret, if_pos rfl] at hrow
            have hfirst : rs.firstRow = some [("deletedCount", .int (removed.flatMap (fun i =>
                w.graph.edges.filter (isProgressOf w.graph "User" i))).length)] := hrow
            simp only [hfirst, Proc.pure_eq, exec_done, Row.getInt_singleton, Bool.true_eq_false, if_false,
              and_self]
        | false => simp [hrow, hret]

def afterRename : World :=
  ⟨(env.outcome w.clock).after
      (renameStatement request.domainElementId request.domain.name request.domain.description) w.graph,
    w.clock + 1⟩

theorem exec_renameDomain :
    (env.exec (renameDomain request.domainElementId request.domain) w).state =
        afterRename env w request ∧
      (env.exec (renameDomain request.domainElementId request.domain) w).exit =
        if env.outcome w.clock = .done then .ok ()
        else .err (.databaseError "Failed to update domain") := by
  rw [renameDomain, exec_bind, exec_runStatement, Execution.andThen_ok]
  cases h : env.outcome w.clock <;> simp [afterRename, h]

def afterDeletion (domainElementId : ElementId) : World :=
  ⟨(env.outcome w.clock).after (deleteLevelsStatement domainElementId) w.graph, w.clock + 1⟩

theorem exec_deleteOldLevels (domainElementId : ElementId) :
    (env.exec (deleteOldLevels domainElementId) w).state = afterDeletion env w domainElementId ∧
      (env.exec (deleteOldLevels domainElementId) w).exit =
        if env.outcome w.clock = .done then .ok ()
        else .err (.databaseError "Failed to delete old levels") := by
  rw [deleteOldLevels, exec_bind, exec_runStatement, Execution.andThen_ok]
  cases h : env.outcome w.clock <;> simp [afterDeletion, h]

def Admitted : Prop :=
  WellFormed request.domain request.levels ∧ Verified env w request.domainElementId

def progressed : World := afterProgress env w.tick request.removedNodeElementIds

def renamed : World := afterRename env (progressed env w request) request

def cleared : World := afterDeletion env (renamed env w request) request.domainElementId

/-- The errors that an update reports before it has written anything. -/
def EarlyError (e : ServiceError) : Prop :=
  (∃ message, e = .validationError message) ∨ e = .notFound "Domain not found" ∨
    e = .databaseError "Failed to verify domain"

theorem reopenDomain_cases :
    (¬ Admitted env w request ∧
      (∃ e, EarlyError e ∧ (env.exec (reopenDomain request) w).exit = .err e) ∧
        (env.exec (reopenDomain request) w).state.graph = w.graph) ∨
    (Admitted env w request ∧ env.outcome (progressed env w request).clock ≠ .done ∧
      (env.exec (reopenDomain request) w).exit = .err (.databaseError "Failed to update domain") ∧
        (env.exec (reopenDomain request) w).state = renamed env w request) ∨
    (Admitted env w request ∧ env.outcome (progressed env w request).clock = .done ∧
      env.outcome (renamed env w request).clock ≠ .done ∧
        (env.exec (reopenDomain request) w).exit =
          .err (.databaseError "Failed to delete old levels") ∧
        (env.exec (reopenDomain request) w).state = cleared env w request) ∨
    (Admitted env w request ∧ env.outcome (progressed env w request).clock = .done ∧
      env.outcome (renamed env w request).clock = .done ∧
        (env.exec (reopenDomain request) w).exit =
          .ok (deletedCount env w.tick request.removedNodeElementIds) ∧
        (env.exec (reopenDomain request) w).state = cleared env w request) := by
  by_cases hform : WellFormed request.domain request.levels
  · obtain ⟨hstate, ⟨hver, hexit⟩ | ⟨hver, hexit⟩⟩ :=
      exec_verifyDomain env w request.domainElementId
    · obtain ⟨hpstate, hpexit⟩ := exec_deleteProgress env w.tick request.removedNodeElementIds
      obtain ⟨hrstate, hrexit⟩ := exec_renameDomain env (progressed env w request) request
      obtain ⟨hdstate, hdexit⟩ :=
        exec_deleteOldLevels env (renamed env w request) request.domainElementId
      have hstate : (env.exec (verifyDomain request.domainElementId) w).state = w.tick := hstate
      have hadm : Admitted env w request := ⟨hform, hver⟩
      rw [reopenDomain, validateRequest_of_wellFormed hform, Proc.done_bind, exec_bind,
        Execution.exit_andThen hexit, Execution.state_andThen hexit, hstate, exec_bind,
        Execution.exit_andThen hpexit, Execution.state_andThen hpexit, hpstate, exec_bind]
      change (env.exec _ (progressed env w request)).state = renamed env w request at hrstate
      change (env.exec _ (renamed env w request)).state = cleared env w request at hdstate
      rw [← progressed]
      by_cases hrename : env.outcome (progressed env w request).clock = .done
      · rw [if_pos hrename] at hrexit
        rw [Execution.exit_andThen hrexit, Execution.state_andThen hrexit, hrstate, exec_bind]
        by_cases hdelete : env.outcome (renamed env w request).clock = .done
        · rw [if_pos hdelete] at hdexit
          rw [Execution.exit_andThen hdexit, Execution.state_andThen hdexit, hdstate]
          exact Or.inr (Or.inr (Or.inr ⟨hadm, hrename, hdelete, rfl, rfl⟩))
        · rw [if_neg hdelete] at hdexit
          rw [Execution.exit_andThen_err hdexit, Execution.state_andThen_err hdexit, hdstate]
          exact Or.inr (Or.inr (Or.inl ⟨hadm, hrename, hdelete, rfl, rfl⟩))
      · rw [if_neg hrename] at hrexit
        rw [Execution.exit_andThen_err hrexit, Execution.state_andThen_err hrexit, hrstate]
        exact Or.inr (Or.inl ⟨hadm, hrename, rfl, rfl⟩)
    · refine Or.inl ⟨fun hadm => hver hadm.2, ?_⟩
      rw [reopenDomain, validateRequest_of_wellFormed hform, Proc.done_bind, exec_bind]
      rcases hexit with hexit | hexit <;>
        rw [Execution.exit_andThen_err hexit, Execution.state_andThen_err hexit, hstate]
      · exact ⟨⟨_, Or.inr (Or.inl rfl), rfl⟩, rfl⟩
      · exact ⟨⟨_, Or.inr (Or.inr rfl), rfl⟩, rfl⟩
  · obtain ⟨message, hmessage⟩ := validateRequest_of_not_wellFormed hform
    refine Or.inl ⟨fun hadm => hform hadm.1, ?_⟩
    rw [reopenDomain, hmessage, Proc.fail_bind]
    exact ⟨⟨_, Or.inl ⟨message, rfl⟩, rfl⟩, rfl⟩

/-- An opening that succeeds has found the domain, and every write of it that matters went through. -/
theorem reopenDomain_ok {count : Int} (h : (env.exec (reopenDomain request) w).exit = .ok count) :
    Admitted env w request ∧ env.outcome (progressed env w request).clock = .done ∧
      env.outcome (renamed env w request).clock = .done ∧
      count = deletedCount env w.tick request.removedNodeElementIds ∧
      (env.exec (reopenDomain request) w).state = cleared env w request := by
  rcases reopenDomain_cases env w request with
    ⟨-, ⟨e, -, hexit⟩, -⟩ | ⟨-, -, hexit, -⟩ | ⟨-, -, -, hexit, -⟩ | ⟨hadm, hrename, hdelete, hexit, hstate⟩
  · rw [hexit] at h
    cases h
  · rw [hexit] at h
    cases h
  · rw [hexit] at h
    cases h
  · exact ⟨hadm, hrename, hdelete, Exit.ok.inj (h.symm.trans hexit), hstate⟩

theorem deleteProgressStatement_edges_subset (removed : List ElementId) (g : Graph) :
    (deleteProgressStatement removed g).2.edges ⊆ g.edges :=
  List.filter_subset_self _

theorem deleteLevelsStatement_edges_subset (domainElementId : ElementId) (g : Graph) :
    (deleteLevelsStatement domainElementId g).2.edges ⊆ g.edges := fun _ he =>
  (Graph.mem_detachDelete_edges.1 he).1

theorem progressed_edges_subset : (progressed env w request).graph.edges ⊆ w.graph.edges := by
  rw [progressed, afterProgress]
  split
  · exact List.Subset.refl _
  · exact after_edges_subset (deleteProgressStatement_edges_subset _) _ _

theorem renamed_edges_subset : (renamed env w request).graph.edges ⊆ w.graph.edges :=
  List.Subset.trans (after_edges_subset (fun _ => List.Subset.refl _) _ _)
    (progressed_edges_subset env w request)

theorem cleared_edges_subset : (cleared env w request).graph.edges ⊆ w.graph.edges :=
  List.Subset.trans (after_edges_subset (deleteLevelsStatement_edges_subset _) _ _)
    (renamed_edges_subset env w request)

theorem reopenDomain_edges_subset :
    (env.exec (reopenDomain request) w).state.graph.edges ⊆ w.graph.edges := by
  rcases reopenDomain_cases env w request with
    ⟨-, -, hgraph⟩ | ⟨-, -, -, hstate⟩ | ⟨-, -, -, -, hstate⟩ | ⟨-, -, -, -, hstate⟩
  · rw [hgraph]
    exact List.Subset.refl _
  · rw [hstate]
    exact renamed_edges_subset env w request
  · rw [hstate]
    exact cleared_edges_subset env w request
  · rw [hstate]
    exact cleared_edges_subset env w request

end Update

section Create

variable (request : CreateDomainRequest)

def domainProps (domain : DomainInfo) : Props :=
  Properties.toProps [("name", .str domain.name), ("description", .str domain.description)]

def NameFree (name : String) : Prop :=
  ∃ rs, (env.outcome w.clock).reply (checkStatement name w.graph).1 = .ok rs ∧ rs.firstRow = none

theorem exec_checkDomainName (name : String) :
    (env.exec (checkDomainName name) w).state = w.tick ∧
      ((NameFree env w name ∧ (env.exec (checkDomainName name) w).exit = .ok ()) ∨
        ∃ e, (env.exec (checkDomainName name) w).exit = .err e) := by
  have hkeep := after_of_reads (q := checkStatement name) (fun g => rfl)
    (env.outcome w.clock) w.graph
  rw [checkDomainName, exec_bind, exec_execute, Execution.andThen_ok, hkeep]
  cases hreply : (env.outcome w.clock).reply (checkStatement name w.graph).1 with
  | error e => exact ⟨rfl, Or.inr ⟨_, rfl⟩⟩
  | ok rs =>
      cases hfirst : rs.firstRow with
      | some row => exact ⟨by simp [hfirst, World.tick], Or.inr ⟨_, by simp [hfirst]; rfl⟩⟩
      | none =>
          exact ⟨by simp [hfirst, World.tick], Or.inl ⟨⟨rs, hreply, hfirst⟩, by simp [hfirst]⟩⟩

theorem exec_createDomainNode (domain : DomainInfo) :
    ((env.outcome w.clock).returnsRow = true ∧
      (env.exec (createDomainNode domain) w).exit = .ok w.graph.freshId ∧
      (env.exec (createDomainNode domain) w).state =
        ⟨(env.outcome w.clock).after (createDomainStatement domain.name domain.description) w.graph,
          w.clock + 1⟩) ∨
    ((∃ e, (env.exec (createDomainNode domain) w).exit = .err e) ∧
      (env.exec (createDomainNode domain) w).state =
        ⟨(env.outcome w.clock).after (createDomainStatement domain.name domain.description) w.graph,
          w.clock + 1⟩) := by
  have hrow := (env.outcome w.clock).firstRow_eq
    (createDomainStatement domain.name domain.description w.graph).1
  rw [Outcome.firstRow] at hrow
  rw [createDomainNode, exec_bind, exec_execute, Execution.andThen_ok]
  cases hreply : (env.outcome w.clock).reply
      (createDomainStatement domain.name domain.description w.graph).1 with
  | error e => exact Or.inr ⟨⟨_, rfl⟩, rfl⟩
  | ok rs =>
      rw [hreply] at hrow
      simp only at hrow
      cases hret : (env.outcome w.clock).returnsRow with
      | true =>
          rw [hret, if_pos rfl] at hrow
          have hfirst : rs.firstRow = some (idRow "elementId" w.graph.freshId) := hrow
          refine Or.inl ⟨rfl, ?_, ?_⟩ <;>
            simp [hfirst, idRow, Row.getString, Row.get, Json.asStr]
      | false =>
          simp only [hret, Bool.false_eq_true, if_false] at hrow
          exact Or.inr ⟨⟨.databaseError "Failed to create domain node", by simp [hrow]⟩,
            by simp [hrow]⟩

theorem openDomain_cases :
    ((∃ e, (env.exec (openDomain request) w).exit = .err e) ∧
      ((env.exec (openDomain request) w).state.graph = w.graph ∨
        (env.exec (openDomain request) w).state.graph =
          w.graph.createNode ["Domain"] (domainProps request.domain))) ∨
    (WellFormed request.domain request.levels ∧ NameFree env w request.domain.name ∧
      (env.outcome (w.clock + 1)).returnsRow = true ∧
        (env.exec (openDomain request) w).exit = .ok w.graph.freshId ∧
        (env.exec (openDomain request) w).state =
          ⟨(env.outcome (w.clock + 1)).after
            (createDomainStatement request.domain.name request.domain.description) w.graph,
            w.clock + 2⟩) := by
  by_cases hform : WellFormed request.domain request.levels
  · obtain ⟨hstate, ⟨hfree, hexit⟩ | ⟨e, hexit⟩⟩ := exec_checkDomainName env w request.domain.name
    · have hnode := exec_createDomainNode env w.tick request.domain
      rw [openDomain, validateRequest_of_wellFormed hform, Proc.done_bind, exec_bind,
        Execution.exit_andThen hexit, Execution.state_andThen hexit, hstate]
      rcases hnode with ⟨hret, hok, hnode⟩ | ⟨⟨e, hfail⟩, hnode⟩
      · exact Or.inr ⟨hform, hfree, hret, hok, hnode⟩
      · refine Or.inl ⟨⟨e, hfail⟩, ?_⟩
        rw [hnode, Outcome.after]
        split
        · exact Or.inr rfl
        · exact Or.inl rfl
    · rw [openDomain, validateRequest_of_wellFormed hform, Proc.done_bind, exec_bind,
        Execution.exit_andThen_err hexit, Execution.state_andThen_err hexit, hstate]
      exact Or.inl ⟨⟨e, rfl⟩, Or.inl rfl⟩
  · obtain ⟨message, hmessage⟩ := validateRequest_of_not_wellFormed hform
    rw [openDomain, hmessage, Proc.fail_bind]
    exact Or.inl ⟨⟨_, rfl⟩, Or.inl rfl⟩

theorem openDomain_ok {domainId : ElementId} (h : (env.exec (openDomain request) w).exit = .ok domainId) :
    WellFormed request.domain request.levels ∧ domainId = w.graph.freshId ∧
      (env.exec (openDomain request) w).state =
        ⟨(env.outcome (w.clock + 1)).after
          (createDomainStatement request.domain.name request.domain.description) w.graph,
          w.clock + 2⟩ := by
  rcases openDomain_cases env w request with ⟨⟨e, hexit⟩, -⟩ | ⟨hform, -, -, hexit, hstate⟩
  · rw [hexit] at h
    cases h
  · exact ⟨hform, Exit.ok.inj (h.symm.trans hexit), hstate⟩

theorem openDomain_edges_subset :
    (env.exec (openDomain request) w).state.graph.edges ⊆ w.graph.edges := by
  rcases openDomain_cases env w request with ⟨-, hgraph | hgraph⟩ | ⟨-, -, -, -, hstate⟩
  · rw [hgraph]
    exact List.Subset.refl _
  · rw [hgraph]
    exact List.Subset.refl _
  · rw [hstate]
    exact after_edges_subset (fun _ => List.Subset.refl _) _ _

end Create

end AtlasOfUs.GraphApi
