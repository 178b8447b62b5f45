import AtlasOfUs.GraphApi.DomainService
import AtlasOfUs.Statements
import Mathlib.Tactic.Tauto

namespace AtlasOfUs.GraphApi

open Library

theorem mem_nodeIds_of_hasNode {g : Graph} {label : String} {id : ElementId}
    (h : hasNode g label id = true) : id ∈ g.nodeIds := by
  obtain ⟨n, hn, hid⟩ := List.any_eq_true.1 h
  simp only [isNode, Bool.and_eq_true, decide_eq_true_eq] at hid
  exact hid.1 ▸ Graph.id_mem_nodeIds hn

theorem hasNode_of_sublist {g g' : Graph} (hsub : g.nodes.Sublist g'.nodes) {label : String}
    {id : ElementId} (h : hasNode g label id = true) : hasNode g' label id = true := by
  obtain ⟨n, hn, hid⟩ := List.any_eq_true.1 h
  exact List.any_eq_true.2 ⟨n, hsub.subset hn, hid⟩

theorem createLevelStatement_of_hasNode {g : Graph} {domainId : ElementId}
    (h : hasNode g "Domain" domainId = true) (level : DomainLevel) :
    createLevelStatement domainId level g = ([idRow "elementId" g.freshId],
      (g.createNode ["Domain_Level"] (levelProps level)).createEdge "HAS_DOMAIN_LEVEL" domainId
        g.freshId Props.empty) := if_pos h

theorem createLevelStatement_of_not_hasNode {g : Graph} {domainId : ElementId}
    (h : hasNode g "Domain" domainId = false) (level : DomainLevel) :
    createLevelStatement domainId level g = ([], g) := by
  rw [createLevelStatement, h]
  rfl

theorem createLevelStatement_nodes (domainId : ElementId) (level : DomainLevel) (g : Graph) :
    (createLevelStatement domainId level g).2.nodes =
      g.nodes ++ if hasNode g "Domain" domainId then
        [⟨g.freshId, ["Domain_Level"], levelProps level⟩] else [] := by
  cases h : hasNode g "Domain" domainId with
  | true => simp [createLevelStatement_of_hasNode h]
  | false => simp [createLevelStatement_of_not_hasNode h]

theorem createLevelStatement_edges (domainId : ElementId) (level : DomainLevel) (g : Graph) :
    ∃ es, (createLevelStatement domainId level g).2.edges = g.edges ++ es ∧
      ∀ e ∈ es, e.type = "HAS_DOMAIN_LEVEL" := by
  cases h : hasNode g "Domain" domainId with
  | true =>
      have hd : domainId ∈ (g.createNode ["Domain_Level"] (levelProps level)).nodeIds := by
        simp [mem_nodeIds_of_hasNode h]
      have hl : g.freshId ∈ (g.createNode ["Domain_Level"] (levelProps level)).nodeIds := by simp
      rw [createLevelStatement_of_hasNode h]
      exact ⟨_, Graph.createEdge_of_mem hd hl _ _, by simp⟩
  | false => exact ⟨[], by simp [createLevelStatement_of_not_hasNode h], by simp⟩

def levelRow (g : Graph) (domainId : ElementId) : Option ElementId :=
  if hasNode g "Domain" domainId then some g.freshId else none

theorem exec_createLevel (env : Env) (domainId : ElementId) (level : DomainLevel) (w : World) :
    (env.exec (createLevel domainId level) w).exit =
        .ok (if (env.outcome w.clock).returnsRow then levelRow w.graph domainId else none) ∧
      (env.exec (createLevel domainId level) w).state =
        ⟨(env.outcome w.clock).after (createLevelStatement domainId level) w.graph, w.clock + 1⟩ := by
  have hrow := (env.outcome w.clock).firstRow_eq (createLevelStatement domainId level w.graph).1
  rw [Outcome.firstRow] at hrow
  rw [createLevel, exec_bind, exec_execute, Execution.andThen_ok]
  cases hreply : (env.outcome w.clock).reply (createLevelStatement domainId level w.graph).1 with
  | error e =>
      rw [hreply] at hrow
      cases hret : (env.outcome w.clock).returnsRow with
      | false => simp
      | true =>
          cases hd : hasNode w.graph "Domain" domainId with
          | true => simp [hret, createLevelStatement_of_hasNode hd] at hrow
          | false => simp [levelRow, hd]
  | ok rs =>
      rw [hreply] at hrow
      simp only at hrow
      cases hd : hasNode w.graph "Domain" domainId with
      | true =>
          simp only [createLevelStatement_of_hasNode hd] at hrow
          cases hret : (env.outcome w.clock).returnsRow <;>
            simp [hrow, hret, levelRow, hd, idRow, Row.getString, Row.get, Json.asStr]
      | false =>
          simp only [createLevelStatement_of_not_hasNode hd] at hrow
          simp [hrow, levelRow, hd]

theorem createLevel_infallible (domainId : ElementId) (level : DomainLevel) :
    (createLevel domainId level).Infallible := by
  intro reply
  cases reply <;> trivial

def componentLabels : List String := ["Knowledge", "Skill", "Trait", "Milestone"]

def requiresTypes : List String :=
  ["REQUIRES_KNOWLEDGE", "REQUIRES_SKILL", "REQUIRES_TRAIT", "REQUIRES_MILESTONE"]

theorem entries_kind {requirements : LevelRequirements} {r : Requirement}
    (h : r ∈ requirements.entries) : r.label ∈ componentLabels ∧ r.relType ∈ requiresTypes := by
  simp only [LevelRequirements.entries, List.mem_append, List.mem_map] at h
  rcases h with ((⟨k, -, rfl⟩ | ⟨k, -, rfl⟩) | ⟨k, -, rfl⟩) | ⟨k, -, rfl⟩
  · exact ⟨List.mem_of_elem_eq_true rfl, List.mem_of_elem_eq_true rfl⟩
  · exact ⟨List.mem_of_elem_eq_true rfl, List.mem_of_elem_eq_true rfl⟩
  · exact ⟨List.mem_of_elem_eq_true rfl, List.mem_of_elem_eq_true rfl⟩
  · exact ⟨List.mem_of_elem_eq_true rfl, List.mem_of_elem_eq_true rfl⟩

/-- The statements that the requirements of one level can lead to. -/
inductive RequirementStatement (levelId : ElementId) (rs : List Requirement) : Statement → Prop
  | component {r : Requirement} {data : NewNodeData} (hr : r ∈ rs) (hd : r.newNode = some data) :
      RequirementStatement levelId rs
        (mergeComponentStatement r.label data.name (componentProps r.label data))
  | link {r : Requirement} (hr : r ∈ rs) (nodeId : ElementId) :
      RequirementStatement levelId rs
        (linkStatement r.label r.relType levelId nodeId r.properties)

theorem RequirementStatement.mono {levelId : ElementId} {rs rs' : List Requirement} {q : Statement}
    (h : RequirementStatement levelId rs q) (hsub : rs ⊆ rs') : RequirementStatement levelId rs' q := by
  cases h with
  | component hr hd => exact .component (hsub hr) hd
  | link hr nodeId => exact .link (hsub hr) nodeId

theorem runs_linkRequirement {levelId : ElementId} {rs : List Requirement} {r : Requirement}
    (hr : r ∈ rs) (nodeId : ElementId) :
    Runs (RequirementStatement levelId rs) (linkRequirement levelId nodeId r) :=
  (Runs.runStatement (.link hr nodeId)).bind (fun _ => Contract.done _)

theorem runs_createComponentNode {levelId : ElementId} {rs : List Requirement} {r : Requirement}
    {data : NewNodeData} (hr : r ∈ rs) (hd : r.newNode = some data) :
    Runs (RequirementStatement levelId rs) (createComponentNode r.label data) := by
  refine (Runs.execute (.component hr hd)).bind (fun reply => ?_)
  cases reply with
  | error e => trivial
  | ok rows => cases h : rows.firstRow <;> simp [h, Contract]

theorem runs_processRequirement {levelId : ElementId} {rs : List Requirement} {r : Requirement}
    (hr : r ∈ rs) : Runs (RequirementStatement levelId rs) (processRequirement levelId r) := by
  unfold processRequirement
  split
  · exact (runs_linkRequirement hr _).bind (fun _ => Contract.done _)
  · rename_i hd
    refine (runs_createComponentNode hr hd).attempt.bind (fun result => ?_)
    cases result with
    | error e => trivial
    | ok id => exact (runs_linkRequirement hr id).bind (fun _ => Contract.done _)
  · trivial

theorem runs_processRequirements {levelId : ElementId} {rs rs' : List Requirement} (h : rs ⊆ rs') :
    Runs (RequirementStatement levelId rs') (processRequirements levelId rs) :=
  (Contract.mapM rs (fun _ hr => runs_processRequirement (h hr))).bind (fun _ => Contract.done _)

theorem runs_processLevelRequirements (levelId : ElementId) (requirements : LevelRequirements) :
    Runs (RequirementStatement levelId requirements.entries)
      (processLevelRequirements levelId requirements) := by
  refine (runs_processRequirements ?_).bind fun _ => (runs_processRequirements ?_).bind fun _ =>
    (runs_processRequirements ?_).bind fun _ => (runs_processRequirements ?_).bind fun _ =>
      Contract.done _
  all_goals
    intro r hr
    simp only [LevelRequirements.entries, List.mem_append]
    tauto

theorem linkRequirement_infallible (levelId nodeId : ElementId) (r : Requirement) :
    (linkRequirement levelId nodeId r).Infallible :=
  (runStatement_infallible _).bind (fun _ => Proc.Infallible.done _)

theorem processRequirement_infallible (levelId : ElementId) (r : Requirement) :
    (processRequirement levelId r).Infallible := by
  unfold processRequirement
  split
  · exact (linkRequirement_infallible levelId _ r).bind (fun _ => Proc.Infallible.done _)
  · rename_i hd
    have hcomponent := @runs_createComponentNode levelId _ _ _ (List.mem_singleton_self r) hd
    refine hcomponent.attempt_infallible.bind (fun result => ?_)
    cases result with
    | error e => exact Proc.Infallible.done _
    | ok id =>
        exact (linkRequirement_infallible levelId id r).bind (fun _ => Proc.Infallible.done _)
  · exact Proc.Infallible.done _

theorem processLevelRequirements_infallible (levelId : ElementId)
    (requirements : LevelRequirements) :
    (processLevelRequirements levelId requirements).Infallible := by
  have hall (rs : List Requirement) : (processRequirements levelId rs).Infallible :=
    (Proc.Infallible.mapM (processRequirement_infallible levelId) rs).bind
      (fun _ => Proc.Infallible.done _)
  exact (hall _).bind fun _ => (hall _).bind fun _ => (hall _).bind fun _ =>
    (hall _).bind fun _ => Proc.Infallible.done _

/-- What processing the requirements of a level may add: component nodes, and
REQUIRES edges that leave this level. -/
def Growth (levelId : ElementId) (g g' : Graph) : Prop :=
  ∃ ns es, g'.nodes = g.nodes ++ ns ∧ g'.edges = g.edges ++ es ∧
    (∀ n ∈ ns, ∃ l ∈ componentLabels, n.labels = [l]) ∧
    ∀ e ∈ es, e.source = levelId ∧ e.type ∈ requiresTypes

theorem Growth.refl (levelId : ElementId) (g : Graph) : Growth levelId g g :=
  ⟨[], [], by simp, by simp, by simp, by simp⟩

theorem Growth.trans {levelId : ElementId} {g g' g'' : Graph} (h : Growth levelId g g')
    (h' : Growth levelId g' g'') : Growth levelId g g'' := by
  obtain ⟨ns, es, hn, he, hns, hes⟩ := h
  obtain ⟨ns', es', hn', he', hns', hes'⟩ := h'
  refine ⟨ns ++ ns', es ++ es', by simp [hn', hn], by simp [he', he], ?_, ?_⟩
  · exact fun n hn => (List.mem_append.1 hn).elim (hns n) (hns' n)
  · exact fun e he => (List.mem_append.1 he).elim (hes e) (hes' e)

theorem growth_step {levelId : ElementId} {requirements : LevelRequirements} {q : Statement}
    (hq : RequirementStatement levelId requirements.entries q) (g : Graph) :
    Growth levelId g (q g).2 := by
  cases hq with
  | component hr hd =>
      unfold mergeComponentStatement
      split
      · exact ⟨[_], [], rfl, by simp, fun n hn => ⟨_, (entries_kind hr).1, by simp_all⟩, by simp⟩
      · exact Growth.refl _ _
  | link hr nodeId =>
      unfold linkStatement
      split
      · rename_i h
        rw [Bool.and_eq_true] at h
        exact ⟨[], [_], by simp, Graph.createEdge_of_mem (mem_nodeIds_of_hasNode h.1)
          (mem_nodeIds_of_hasNode h.2) _ _, by simp, by simpa using (entries_kind hr).2⟩
      · exact Growth.refl _ _

inductive StoreStatement : Statement → Prop
  | level (domainId : ElementId) (level : DomainLevel) :
      StoreStatement (createLevelStatement domainId level)
  | requirement {levelId : ElementId} {requirements : LevelRequirements} {q : Statement}
      (h : RequirementStatement levelId requirements.entries q) : StoreStatement q

theorem runs_createLevels (domainId : ElementId) (levels : List DomainLevel) :
    Runs StoreStatement (createLevels domainId levels) := by
  refine (Contract.mapM levels (fun level _ => ?_)).bind (fun _ => Contract.done _)
  refine (Runs.execute (.level domainId level)).bind (fun reply => ?_)
  cases reply <;> exact Contract.done _

theorem runs_processLevels (levelElementIds : List ElementId) (levels : List DomainLevel) :
    Runs StoreStatement (processLevels levelElementIds levels) := by
  refine (Contract.mapM _ (fun entry _ => ?_)).bind (fun _ => Contract.done _)
  unfold processLevel
  split
  · exact Contract.done _
  · rename_i levelId hid
    have hrequirements := (runs_processLevelRequirements levelId entry.1.requirements).mono
      (fun q hq => StoreStatement.requirement hq)
    refine hrequirements.attempt.bind (fun result => ?_)
    cases result <;> exact Contract.done _

theorem runs_storeLevels (domainId : ElementId) (levels : List DomainLevel) :
    Runs StoreStatement (storeLevels domainId levels) :=
  (runs_createLevels domainId levels).bind (fun ids => runs_processLevels ids levels)

def Extends (g g' : Graph) : Prop :=
  ∃ ns es, g'.nodes = g.nodes ++ ns ∧ g'.edges = g.edges ++ es ∧
    (∀ n ∈ ns, ∃ l ∈ "Domain_Level" :: componentLabels, n.labels = [l]) ∧
    ∀ e ∈ es, e.type ∈ "HAS_DOMAIN_LEVEL" :: requiresTypes

theorem Extends.refl (g : Graph) : Extends g g := ⟨[], [], by simp, by simp, by simp, by simp⟩

theorem Extends.trans {g g' g'' : Graph} (h : Extends g g') (h' : Extends g' g'') :
    Extends g g'' := by
  obtain ⟨ns, es, hn, he, hns, hes⟩ := h
  obtain ⟨ns', es', hn', he', hns', hes'⟩ := h'
  refine ⟨ns ++ ns', es ++ es', by simp [hn', hn], by simp [he', he], ?_, ?_⟩
  · exact fun n hn => (List.mem_append.1 hn).elim (hns n) (hns' n)
  · exact fun e he => (List.mem_append.1 he).elim (hes e) (hes' e)

theorem Growth.extends {levelId : ElementId} {g g' : Graph} (h : Growth levelId g g') :
    Extends g g' := by
  obtain ⟨ns, es, hn, he, hns, hes⟩ := h
  refine ⟨ns, es, hn, he, fun n hn => ?_, fun e he => List.mem_cons_of_mem _ (hes e he).2⟩
  obtain ⟨l, hl, hlabels⟩ := hns n hn
  exact ⟨l, List.mem_cons_of_mem _ hl, hlabels⟩

theorem extends_step {q : Statement} (hq : StoreStatement q) (g : Graph) : Extends g (q g).2 := by
  cases hq with
  | level domainId level =>
      obtain ⟨es, hedges, hes⟩ := createLevelStatement_edges domainId level g
      refine ⟨_, es, createLevelStatement_nodes domainId level g, hedges, fun n hn => ?_,
        fun e he => by simp [hes e he]⟩
      refine ⟨"Domain_Level", List.mem_cons_self, ?_⟩
      split_ifs at hn <;> simp_all
  | requirement h => exact (growth_step h g).extends

theorem extends_storeLevels (env : Env) (domainId : ElementId) (levels : List DomainLevel)
    (w : World) : Extends w.graph (env.exec (storeLevels domainId levels) w).state.graph :=
  (runs_storeLevels domainId levels).maintains
    (fun _ g hq hg => hg.trans (extends_step hq g)) env w (Extends.refl _)

theorem growth_processLevelRequirements (env : Env) (levelId : ElementId)
    (requirements : LevelRequirements) (w : World) :
    Growth levelId w.graph
      (env.exec (processLevelRequirements levelId requirements) w).state.graph :=
  (runs_processLevelRequirements levelId requirements).maintains
    (fun _ g hq hg => hg.trans (growth_step hq g)) env w (Growth.refl _ _)

end AtlasOfUs.GraphApi
