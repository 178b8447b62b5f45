import AtlasOfUs.Embeddings
import AtlasOfUs.GraphApi.WrittenView
import AtlasOfUs.Library.Interning

namespace AtlasOfUs.GraphApi

open Library

/-- The label and the name of the node that a requirement gives new-node data for. An existing id
wins over the data. -/
def Requirement.newName (r : Requirement) : Option (String × String) :=
  match r.nodeElementId, r.newNode with
  | none, some data => some (r.label, data.name)
  | _, _ => none

def newNames (levels : List DomainLevel) : List (String × String) :=
  levels.flatMap fun level => level.requirements.entries.filterMap Requirement.newName

def carriesName (key : String × String) (n : Node) : Bool := isNamed key.1 key.2 n

def nodeInfo (n : Node) : CreatedNodeInfo := ⟨n.id, strProp n.props "name", n.labels⟩

/-- The component nodes that are not among those kept from before. -/
def newComponents (kept : List ElementId) (final : Graph) : List Node :=
  final.nodes.filter fun n => isComponent n.labels && !kept.contains n.id

/-- Every component node that is new is reported once, and nothing else is reported. -/
def ExactReport (kept : List ElementId) (final : Graph) (createdNodes : List CreatedNodeInfo) : Prop :=
  createdNodes.Perm ((newComponents kept final).map nodeInfo)

section Reports

variable (env : Env)

/-- The program looks up the names one after the other, makes the nodes that are missing and
reports a node for each. -/
def Reports (p : Api (List CreatedNodeInfo)) (names : List (String × String)) (w : World) : Prop :=
  ∃ created, (env.exec p w).exit = .ok created ∧
    Interns carriesName nodeInfo names w.graph.nodes (env.exec p w).state.graph.nodes created

variable {env} {w : World}

theorem Reports.mapM {α : Type} {f : α → Api (List CreatedNodeInfo)}
    {names : α → List (String × String)} (hf : ∀ x w', Reports env (f x) (names x) w') (xs : List α)
    (w : World) :
    Reports env (xs.mapM f >>= fun rounds => .done rounds.flatten) (xs.flatMap names) w := by
  have hloop : ∃ rounds, (env.exec (xs.mapM f) w).exit = .ok rounds ∧
      Interns carriesName nodeInfo (xs.flatMap names) w.graph.nodes
        (env.exec (xs.mapM f) w).state.graph.nodes rounds.flatten := by
    induction xs generalizing w with
    | nil => exact ⟨[], rfl, .nil _⟩
    | cons x xs ih =>
        obtain ⟨created, hexit, hinterns⟩ := hf x w
        obtain ⟨rounds, hrounds, hinterns'⟩ := ih (env.exec (f x) w).state
        rw [List.mapM_cons, exec_bind, Execution.exit_andThen hexit, Execution.state_andThen hexit,
          exec_bind, Execution.exit_andThen hrounds, Execution.state_andThen hrounds]
        exact ⟨created :: rounds, rfl, hinterns.append hinterns'⟩
  obtain ⟨rounds, hexit, hinterns⟩ := hloop
  refine ⟨rounds.flatten, ?_, ?_⟩
  · rw [exec_bind, Execution.exit_andThen hexit]
    rfl
  · rw [exec_bind, Execution.state_andThen hexit]
    exact hinterns

end Reports

section Loops

variable {env : Env} (henv : Undisturbed env) (levelId : ElementId) (w : World)

theorem carriesName_component (g : Graph) (label : String) (data : NewNodeData) (key : String × String) :
    carriesName key ⟨g.freshId, [label], (componentProps label data).toProps⟩ = true ↔
      key = (label, data.name) := by
  rw [carriesName, isNamed_component, Prod.ext_iff]

theorem interns_mergeComponent (g : Graph) (label : String) (data : NewNodeData) :
    Interns carriesName nodeInfo [(label, data.name)] g.nodes
      (mergeComponentStatement label data.name (componentProps label data) g).2.nodes
      [⟨mergedId g label data.name, data.name, [label]⟩] := by
  unfold mergeComponentStatement mergedId
  cases hfound : g.nodes.filter (isNamed label data.name) with
  | nil =>
      have hinfo : nodeInfo ⟨g.freshId, [label], (componentProps label data).toProps⟩ =
          ⟨g.freshId, data.name, [label]⟩ := by
        simp [nodeInfo, strProp, componentProps, Properties.toProps, Value.asStr]
      rw [← hinfo]
      refine .made (fun n hn => ?_) (carriesName_component g label data) (.nil _)
      rw [List.filter_eq_nil_iff] at hfound
      exact Bool.eq_false_iff.2 (hfound n hn)
  | cons n ns =>
      have hn : n ∈ g.nodes.filter (isNamed label data.name) := hfound ▸ List.mem_cons_self
      exact .found (List.mem_of_mem_filter hn) (List.mem_filter.1 hn).2 (.nil _)

include henv

theorem reports_processRequirement (r : Requirement) :
    Reports env (processRequirement levelId r) r.newName.toList w := by
  have hstate := processRequirement_nodes env levelId w r
  rw [Reports, hstate]
  unfold processRequirement beforeLink Requirement.newName
  cases r.nodeElementId with
  | some existingId =>
      refine ⟨[], ?_, .nil _⟩
      rw [exec_bind, exec_linkRequirement]
      rfl
  | none =>
      cases r.newNode with
      | none => exact ⟨[], rfl, .nil _⟩
      | some data =>
          obtain ⟨-, ⟨-, hexit⟩ | ⟨hret, -⟩⟩ := exec_createComponentNode env w r.label data
          · refine ⟨[⟨mergedId w.graph r.label data.name, data.name, [r.label]⟩], ?_, ?_⟩
            · rw [exec_bind, exec_attempt, hexit]
              simp [Exit.attempted, exec_bind, exec_linkRequirement]
            · rw [henv]
              exact interns_mergeComponent w.graph r.label data
          · rw [henv] at hret
            cases hret

theorem reports_processRequirements (rs : List Requirement) :
    Reports env (processRequirements levelId rs) (rs.filterMap Requirement.newName) w := by
  rw [List.filterMap_eq_flatMap_toList]
  exact Reports.mapM (fun r w' => reports_processRequirement henv levelId w' r) rs w

theorem reports_processLevelRequirements (requirements : LevelRequirements) :
    Reports env (processLevelRequirements levelId requirements)
      (requirements.entries.filterMap Requirement.newName) w := by
  obtain ⟨knowledge, hk, hknowledge⟩ := reports_processRequirements henv levelId w
    (requirements.knowledge.map (·.toRequirement))
  obtain ⟨skills, hs, hskills⟩ := reports_processRequirements henv levelId _
    (requirements.skills.map (·.toRequirement))
  obtain ⟨traits, ht, htraits⟩ := reports_processRequirements henv levelId _
    (requirements.traits.map (·.toRequirement))
  obtain ⟨milestones, hm, hmilestones⟩ := reports_processRequirements henv levelId _
    (requirements.milestones.map (·.toRequirement))
  refine ⟨knowledge ++ skills ++ traits ++ milestones, ?_, ?_⟩
  · rw [processLevelRequirements, exec_bind, Execution.exit_andThen hk, exec_bind,
      Execution.exit_andThen hs, exec_bind, Execution.exit_andThen ht, exec_bind,
      Execution.exit_andThen hm]
    rfl
  · rw [processLevelRequirements, exec_bind, Execution.state_andThen hk, exec_bind,
      Execution.state_andThen hs, exec_bind, Execution.state_andThen ht, exec_bind,
      Execution.state_andThen hm, LevelRequirements.entries, List.filterMap_append,
      List.filterMap_append, List.filterMap_append]
    exact ((hknowledge.append hskills).append htraits).append hmilestones

def placedNames (ids : List ElementId) (entry : DomainLevel × Nat) : List (String × String) :=
  if entry.2 < ids.length then entry.1.requirements.entries.filterMap Requirement.newName else []

theorem reports_processLevel (ids : List ElementId) (entry : DomainLevel × Nat) :
    Reports env (processLevel ids entry) (placedNames ids entry) w := by
  unfold processLevel placedNames
  by_cases hplace : entry.2 < ids.length
  · obtain ⟨created, hexit, hinterns⟩ :=
      reports_processLevelRequirements henv ids[entry.2] w entry.1.requirements
    rw [List.getElem?_eq_getElem hplace, if_pos hplace]
    refine ⟨created, ?_, ?_⟩
    · simp only
      rw [exec_bind, exec_attempt, hexit]
      rfl
    · simp only
      rw [exec_bind, exec_attempt, hexit]
      exact hinterns
  · rw [List.getElem?_eq_none (Nat.not_lt.1 hplace), if_neg hplace]
    exact ⟨[], rfl, .nil _⟩

theorem reports_processLevels (ids : List ElementId) (levels : List DomainLevel) :
    Reports env (processLevels ids levels) (levels.zipIdx.flatMap (placedNames ids)) w :=
  Reports.mapM (fun entry w' => reports_processLevel henv w' ids entry) levels.zipIdx w

omit henv

theorem flatMap_placedNames {ids : List ElementId} {levels : List DomainLevel}
    (h : ids.length = levels.length) : levels.zipIdx.flatMap (placedNames ids) = newNames levels := by
  have hplaced : ∀ entry ∈ levels.zipIdx, placedNames ids entry =
      entry.1.requirements.entries.filterMap Requirement.newName := by
    intro entry hentry
    have hlt : entry.2 < levels.length := List.snd_lt_of_mem_zipIdx hentry
    exact if_pos (h ▸ hlt)
  calc levels.zipIdx.flatMap (placedNames ids)
    _ = levels.zipIdx.flatMap fun entry =>
          entry.1.requirements.entries.filterMap Requirement.newName := List.flatMap_congr hplaced
    _ = (levels.zipIdx.map Prod.fst).flatMap fun level =>
          level.requirements.entries.filterMap Requirement.newName := by rw [List.flatMap_map]
    _ = newNames levels := by rw [List.zipIdx_map_fst, newNames]

theorem flatMap_placedNames_nil (levels : List DomainLevel) :
    levels.zipIdx.flatMap (placedNames []) = [] := by
  rw [List.flatMap_eq_nil_iff]
  intro entry _
  rfl

end Loops

section Store

variable {env : Env} (henv : Undisturbed env) (domainId : ElementId) (levels : List DomainLevel)
  (w : World)

theorem exec_createLevels_missing (env : Env) (h : hasNode w.graph "Domain" domainId = false) :
    (env.exec (createLevels domainId levels) w).exit = .ok [] ∧
      (env.exec (createLevels domainId levels) w).state.graph = w.graph := by
  obtain ⟨hexit, hstate⟩ := exec_createLevels env domainId levels w
  have hrows : (levelRows env domainId levels w).filterMap id = [] := by
    rw [List.filterMap_eq_nil_iff]
    intro row hrow
    obtain ⟨i, -, rfl⟩ := List.mem_map.1 hrow
    rw [levelRow, hasDomain_beforeLevel, h, if_neg Bool.false_ne_true, ite_self]
    rfl
  refine ⟨by rw [hexit, hrows], ?_⟩
  rw [hstate]
  refine Proc.after_rel env.handler
    (R := fun s t => hasNode s.graph "Domain" domainId = false → t.graph = s.graph) (fun _ _ => rfl)
    (fun hst htu hs => ?_) (fun level s hs => ?_) levels w (Nat.zero_le levels.length) h
  · have hsame := hst hs
    exact (htu (hsame ▸ hs)).trans hsame
  · rw [← Env.exec, (exec_createLevel env domainId level s).2, Outcome.after,
      createLevelStatement_of_not_hasNode hs]
    exact ite_self _

def storedNames (g : Graph) (domainId : ElementId) (levels : List DomainLevel) :
    List (String × String) :=
  if hasNode g "Domain" domainId then newNames levels else []

include henv

theorem reports_storeLevels :
    ∃ created added, (env.exec (storeLevels domainId levels) w).exit = .ok created ∧
      (∀ n ∈ added, n.labels = ["Domain_Level"]) ∧
      Interns carriesName nodeInfo (storedNames w.graph domainId levels) (w.graph.nodes ++ added)
        (env.exec (storeLevels domainId levels) w).state.graph.nodes created := by
  unfold storedNames
  cases hdomain : hasNode w.graph "Domain" domainId with
  | true =>
      obtain ⟨ids, -, hcreated, hlength, hnodes, -⟩ :=
        exec_createLevels_undisturbed henv domainId levels w hdomain
      obtain ⟨created, hexit, hinterns⟩ := reports_processLevels henv
        (env.exec (createLevels domainId levels) w).state ids levels
      rw [hnodes, flatMap_placedNames hlength] at hinterns
      refine ⟨created, List.zipWith levelNode ids levels, ?_, ?_, ?_⟩
      · rw [storeLevels, exec_bind, Execution.exit_andThen hcreated, hexit]
      · intro n hn
        obtain ⟨i, hi, rfl⟩ := List.mem_iff_getElem.1 hn
        rw [List.getElem_zipWith]
        rfl
      · rw [storeLevels, exec_bind, Execution.state_andThen hcreated, if_pos rfl]
        exact hinterns
  | false =>
      obtain ⟨hcreated, hgraph⟩ := exec_createLevels_missing domainId levels w env hdomain
      obtain ⟨created, hexit, hinterns⟩ := reports_processLevels henv
        (env.exec (createLevels domainId levels) w).state [] levels
      rw [hgraph, flatMap_placedNames_nil] at hinterns
      refine ⟨created, [], ?_, fun n hn => absurd hn List.not_mem_nil, ?_⟩
      · rw [storeLevels, exec_bind, Execution.exit_andThen hcreated, hexit]
      · rw [storeLevels, exec_bind, Execution.state_andThen hcreated, List.append_nil,
          if_neg Bool.false_ne_true]
        exact hinterns

end Store

section Exact

theorem newNames_kind {levels : List DomainLevel} {key : String × String} (h : key ∈ newNames levels) :
    key.1 ∈ componentLabels := by
  obtain ⟨level, -, hkey⟩ := List.mem_flatMap.1 h
  obtain ⟨r, hr, hname⟩ := List.mem_filterMap.1 hkey
  unfold Requirement.newName at hname
  split at hname
  · exact Option.some.inj hname ▸ (entries_kind hr).1
  · cases hname

theorem storedNames_subset (g : Graph) (domainId : ElementId) (levels : List DomainLevel) :
    storedNames g domainId levels ⊆ newNames levels := by
  unfold storedNames
  split
  · exact List.Subset.refl _
  · exact List.nil_subset _

theorem carriesName_eq_false {key : String × String} {n : Node} (hkey : key.1 ∈ componentLabels)
    (hn : isComponent n.labels = false) : carriesName key n = false := by
  rw [isComponent, List.any_eq_false] at hn
  rw [carriesName, Bool.eq_false_iff]
  intro hname
  rw [isNamed, Bool.and_eq_true, Node.hasLabel, List.contains_iff_mem] at hname
  exact hn key.1 hname.1 (List.contains_iff_mem.2 hkey)

variable {env : Env} {g final : Graph} {kept : List ElementId} {names : List (String × String)}
  {added : List Node} {created : List CreatedNodeInfo}

theorem newComponents_eq {new : List Node} (hfinal : final.nodes = g.nodes ++ added ++ new)
    (hadded : ∀ n ∈ added, isComponent n.labels = false) (hnew : ∀ n ∈ new, isComponent n.labels = true)
    (hkept : kept ⊆ g.nodeIds) (hold : ∀ n ∈ g.nodes, isComponent n.labels = true → n.id ∈ kept) :
    newComponents kept final = new := by
  have hids := final.nodeIds_nodup
  rw [hfinal, List.append_assoc, List.map_append, List.nodup_append] at hids
  have hbefore : g.nodes.filter (fun n => isComponent n.labels && !kept.contains n.id) = [] := by
    rw [List.filter_eq_nil_iff]
    intro n hn hboth
    rw [Bool.and_eq_true, Bool.not_eq_true', List.contains_eq_mem, decide_eq_false_iff_not] at hboth
    exact hboth.2 (hold n hn hboth.1)
  have hlevels : added.filter (fun n => isComponent n.labels && !kept.contains n.id) = [] := by
    rw [List.filter_eq_nil_iff]
    intro n hn hboth
    rw [hadded n hn, Bool.false_and] at hboth
    cases hboth
  have hmade : new.filter (fun n => isComponent n.labels && !kept.contains n.id) = new := by
    rw [List.filter_eq_self]
    intro n hn
    rw [hnew n hn, Bool.true_and, Bool.not_eq_true', List.contains_eq_mem, decide_eq_false_iff_not]
    intro hmem
    exact hids.2.2 n.id (hkept hmem) n.id (List.mem_map_of_mem (List.mem_append_right _ hn)) rfl
  rw [newComponents, hfinal, List.filter_append, List.filter_append, hbefore, hlevels, hmade]
  rfl

theorem exactReport_iff
    (hinterns : Interns carriesName nodeInfo names (g.nodes ++ added) final.nodes created)
    (hadded : ∀ n ∈ added, n.labels = ["Domain_Level"]) (hnames : ∀ key ∈ names, key.1 ∈ componentLabels)
    (hkept : kept ⊆ g.nodeIds) (hold : ∀ n ∈ g.nodes, isComponent n.labels = true → n.id ∈ kept) :
    ExactReport kept final created ↔ Unseen carriesName names g.nodes := by
  have hlevels : ∀ n ∈ added, isComponent n.labels = false := fun n hn => hadded n hn ▸ isComponent_level
  obtain ⟨new, hfinal, hhas, hiff⟩ := hinterns.perm_iff
  have hnew : ∀ n ∈ new, isComponent n.labels = true := by
    intro n hn
    obtain ⟨key, hkey, hname⟩ := hhas n hn
    by_contra hnot
    rw [carriesName_eq_false (hnames key hkey) (Bool.eq_false_iff.2 hnot)] at hname
    cases hname
  rw [ExactReport, newComponents_eq hfinal hlevels hnew hkept hold, hiff]
  exact unseen_append_iff fun key hkey n hn => carriesName_eq_false (hnames key hkey) (hlevels n hn)

end Exact

section Calls

variable {env : Env} (henv : Undisturbed env) {w : World}

include henv

/-- A created domain reports its new component nodes exactly if no name is used twice or taken. -/
theorem createDomain_report_iff {request : CreateDomainRequest} {result : CreateDomainResult}
    (hok : (env.exec (createDomain request) w).exit = .ok result) :
    ExactReport w.graph.nodeIds (env.exec (createDomain request) w).state.graph result.createdNodes ↔
      Unseen carriesName (newNames request.levels) w.graph.nodes := by
  obtain ⟨domainId, nodes, hopen, rfl, hnodes, hstate⟩ := exec_call_ok env w (createDomain_eq request) hok
  obtain ⟨-, rfl, hworld⟩ := openDomain_ok env w request hopen
  have hopened : (env.exec (openDomain request) w).state.graph =
      w.graph.createNode ["Domain"] (domainProps request.domain) := by
    rw [hworld, henv]
    rfl
  obtain ⟨created, added, hcreated, hadded, hinterns⟩ := reports_storeLevels henv
    w.graph.freshId request.levels (env.exec (openDomain request) w).state
  obtain rfl : created = nodes := Exit.ok.inj (hcreated.symm.trans hnodes)
  have hthere : hasNode (w.graph.createNode ["Domain"] (domainProps request.domain)) "Domain"
      w.graph.freshId = true := by
    simp [hasNode, isNode, Node.hasLabel]
  rw [hopened, storedNames, if_pos hthere] at hinterns
  rw [hstate, exactReport_iff hinterns hadded (fun key => newNames_kind)]
  · rw [Graph.createNode_nodes]
    refine unseen_append_iff fun key hkey n hn => ?_
    rw [List.mem_singleton.1 hn]
    exact carriesName_eq_false (newNames_kind hkey) isComponent_domain
  · rw [Graph.createNode_nodeIds]
    exact List.subset_append_left _ _
  · intro n hn hcomponent
    rw [Graph.createNode_nodes, List.mem_append, List.mem_singleton] at hn
    rcases hn with hn | rfl
    · exact Graph.id_mem_nodeIds hn
    · rw [isComponent_domain] at hcomponent
      cases hcomponent

/-- An updated domain that is no level of its own reports its new component nodes exactly if no
name is used twice or taken by a node that the update keeps. -/
theorem updateDomain_report_iff {request : UpdateDomainRequest} {result : UpdateDomainResult}
    (hok : (env.exec (updateDomain request) w).exit = .ok result) :
    ExactReport ((keptNodes request w.graph).map Node.id)
        (env.exec (updateDomain request) w).state.graph result.createdNodes ↔
      IsLevel w.graph request.domainElementId request.domainElementId ∨
        Unseen carriesName (newNames request.levels) (keptNodes request w.graph) := by
  obtain ⟨count, nodes, hopen, rfl, hnodes, hstate⟩ := exec_call_ok env w (updateDomain_eq request) hok
  obtain ⟨hadm, hrename, hdelete, -, hworld⟩ := reopenDomain_ok env w request hopen
  obtain ⟨progress, hgraph⟩ := cleared_eq_openingWrites env w request hrename hdelete
  obtain ⟨created, added, hcreated, hadded, hinterns⟩ := reports_storeLevels henv
    request.domainElementId request.levels (env.exec (reopenDomain request) w).state
  obtain rfl : created = nodes := Exit.ok.inj (hcreated.symm.trans hnodes)
  have hkept := openingWrites_nodes request progress w.graph
  rw [hworld, hgraph] at hinterns
  rw [hstate, hworld, exactReport_iff hinterns hadded
    (fun key hkey => newNames_kind (storedNames_subset _ _ _ hkey)), hkept]
  · have hthere := hasNode_openingWrites request progress true w.graph "Domain" request.domainElementId
    by_cases hlevel : IsLevel w.graph request.domainElementId request.domainElementId
    · rw [storedNames, if_neg fun h => (hthere.1 h).2 hlevel]
      exact iff_of_true unseen_nil (Or.inl hlevel)
    · rw [storedNames, if_pos (hthere.2 ⟨hadm.2.2, hlevel⟩)]
      exact (or_iff_right hlevel).symm
  · rw [Graph.nodeIds, hkept]
    exact List.Subset.refl _
  · intro n hn _
    rw [← hkept]
    exact List.mem_map_of_mem hn

end Calls

/-- Each call reports exactly the component nodes that it makes exactly if no new name is given
twice and none is that of a node that stays. -/
theorem createdNodes_exact_iff (env : Env) (henv : Undisturbed env) (w : World) :
    (∀ (request : CreateDomainRequest) (result : CreateDomainResult),
      (env.exec (createDomain request) w).exit = .ok result →
        (ExactReport w.graph.nodeIds (env.exec (createDomain request) w).state.graph
            result.createdNodes ↔
          Unseen carriesName (newNames request.levels) w.graph.nodes)) ∧
    ∀ (request : UpdateDomainRequest) (result : UpdateDomainResult),
      (env.exec (updateDomain request) w).exit = .ok result →
        (ExactReport ((keptNodes request w.graph).map Node.id)
            (env.exec (updateDomain request) w).state.graph result.createdNodes ↔
          IsLevel w.graph request.domainElementId request.domainElementId ∨
            Unseen carriesName (newNames request.levels) (keptNodes request w.graph)) :=
  ⟨fun _ _ hok => createDomain_report_iff henv hok, fun _ _ hok => updateDomain_report_iff henv hok⟩

section Openings

def newOpenings : LevelRequirements :=
  { noRequirements with
    knowledge := [⟨none, some ⟨"Openings", "", none, none, none, none⟩, "Remember"⟩] }

def newEndgames : LevelRequirements :=
  { noRequirements with skills := [⟨none, some ⟨"Endgames", "", none, none, none, none⟩, "Novice"⟩] }

def chessOf (first second : LevelRequirements) : CreateDomainRequest where
  domain := ⟨"Chess", ""⟩
  levels := [⟨1, "Novice", none, 0, first⟩, ⟨2, "Expert", none, 10, second⟩]

def addEndgames : UpdateDomainRequest where
  domainElementId := graphWithDomain.nodeIds.headD ""
  domain := ⟨"Chess", ""⟩
  levels := [⟨1, "Novice", none, 0, newEndgames⟩]
  removedNodeElementIds := []

theorem createdNodes_chess :
    ExactReport emptyGraph.nodeIds
        (Env.calm.exec (createDomain (chessOf newOpenings newEndgames)) (.start emptyGraph)).state.graph
        [⟨candidateId 5, "Openings", ["Knowledge"]⟩, ⟨candidateId 7, "Endgames", ["Skill"]⟩] ∧
      ExactReport ((keptNodes addEndgames graphWithDomain).map Node.id)
        (Env.calm.exec (updateDomain addEndgames) (.start graphWithDomain)).state.graph
        [⟨candidateId 3, "Endgames", ["Skill"]⟩] := by
  have hcreate : (Env.calm.exec (createDomain (chessOf newOpenings newEndgames))
      (.start emptyGraph)).exit = .ok ⟨true, candidateId 0, "Chess",
        [⟨candidateId 5, "Openings", ["Knowledge"]⟩, ⟨candidateId 7, "Endgames", ["Skill"]⟩]⟩ := by
    decide +kernel
  have hupdate : (Env.calm.exec (updateDomain addEndgames) (.start graphWithDomain)).exit =
      .ok ⟨true, candidateId 0, "Chess", [⟨candidateId 3, "Endgames", ["Skill"]⟩], 0⟩ := by
    decide +kernel
  constructor
  · apply ((createdNodes_exact_iff Env.calm undisturbed_calm (.start emptyGraph)).1 _ _ hcreate).2
    decide +kernel
  · apply ((createdNodes_exact_iff Env.calm undisturbed_calm (.start graphWithDomain)).2 _ _ hupdate).2
    exact Or.inr (by decide +kernel)

theorem openings_reported_twice :
    ¬ ∀ (env : Env) (w : World) (request : CreateDomainRequest) (result : CreateDomainResult),
      Undisturbed env → (env.exec (createDomain request) w).exit = .ok result →
        ExactReport w.graph.nodeIds (env.exec (createDomain request) w).state.graph
          result.createdNodes := by
  intro hall
  have hok : (Env.calm.exec (createDomain (chessOf newOpenings newOpenings))
      (.start emptyGraph)).exit = .ok ⟨true, candidateId 0, "Chess",
        [⟨candidateId 5, "Openings", ["Knowledge"]⟩, ⟨candidateId 5, "Openings", ["Knowledge"]⟩]⟩ := by
    decide +kernel
  have hexact := hall Env.calm (.start emptyGraph) _ _ undisturbed_calm hok
  have hunseen := (createDomain_report_iff undisturbed_calm hok).1 hexact
  have htwice : ¬ (newNames (chessOf newOpenings newOpenings).levels).Nodup := by decide
  exact htwice hunseen.1

end Openings

end AtlasOfUs.GraphApi
