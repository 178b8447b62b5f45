import AtlasOfUs.Agent.AsyncGeneration
import AtlasOfUs.Agent.Emissions
import AtlasOfUs.GraphApi.RelationshipWrites

namespace AtlasOfUs.Agent.AsyncGeneration

open Library GraphApi

def NodeStored (env : Env) (clock : Nat) : Prop :=
  (∃ vector, env.embedding clock = .ok vector) ∧ (env.outcome (clock + 1)).returnsRow = true

def LevelStored (env : Env) (clock : Nat) : Prop :=
  NodeStored env clock ∧ (env.outcome (clock + 1)).applied = true ∧
    (env.outcome (clock + 2)).returnsRow = true

/-- The domain is reported as created, and its five levels are there. -/
def Stored (env : Env) (clock : Nat) : Prop :=
  NodeStored env clock ∧ ∀ i < levelTable.length, LevelStored env (clock + 2 + 3 * i)

variable {codec : Codec} {env : Env} {w : World} {domainId : ElementId} {domainName : String}

section Node

variable {request : CreateNodeRequest}

theorem exec_storedNode (h : NodeStored env w.clock) :
    ∃ result vector, (env.exec (createNode codec request false : Rest Empty AsyncPrompt _) w).exit =
        .ok result ∧ result.elementId = w.graph.freshId ∧
      (env.exec (createNode codec request false : Rest Empty AsyncPrompt _) w).state =
        ⟨(env.outcome (w.clock + 1)).after
          (createNodeStatement request.labels (request.stored vector)) w.graph, w.clock + 2⟩ := by
  obtain ⟨⟨vector, hvector⟩, hrow⟩ := h
  have hexec := @exec_createNode Empty AsyncPrompt codec request env w vector hvector
  obtain ⟨name, hname⟩ := hexec.2.1 hrow
  exact ⟨_, vector, hname, rfl, hexec.1⟩

theorem exec_unstoredNode (h : ¬ NodeStored env w.clock) :
    ∃ e, (env.exec (createNode codec request false : Rest Empty AsyncPrompt _) w).exit = .err e := by
  cases hvector : env.embedding w.clock with
  | error e => exact ⟨_, (@exec_createNode_unembedded Empty AsyncPrompt codec request env w e hvector).2⟩
  | ok vector =>
      have hexec := @exec_createNode Empty AsyncPrompt codec request env w vector hvector
      exact hexec.2.2 (Bool.eq_false_iff.2 fun hrow => h ⟨⟨vector, hvector⟩, hrow⟩)

end Node

theorem after_createNode (o : Outcome) (labels : List String) (props : Props) (g : Graph) :
    o.after (createNodeStatement labels props) g =
      if o.applied = true then g.createNode labels props else g := rfl

theorem exec_linkLevel (env : Env) (w : World) (domainId levelId : ElementId) :
    (env.exec (createRelationship ⟨domainId, levelId, "HAS_DOMAIN_LEVEL", none⟩ :
        Rest Empty AsyncPrompt _) w).exit.toOption.isSome = true ↔
      (env.outcome w.clock).returnsRow = true ∧ domainId ∈ w.graph.nodeIds ∧
        levelId ∈ w.graph.nodeIds := by
  let request : CreateRelationshipRequest := ⟨domainId, levelId, "HAS_DOMAIN_LEVEL", none⟩
  have hbound : request.Bound := ⟨rfl, rfl⟩
  have hanswer : (env.exec (createRelationship request : Rest Empty AsyncPrompt _)
      w).exit.toOption.isSome = _ := isSome_createRelationship request env w
  rw [request.head?_statement hbound] at hanswer
  change (env.exec (createRelationship request : Rest Empty AsyncPrompt _) w).exit.toOption.isSome =
    true ↔ _
  rw [hanswer, Bool.and_eq_true, decide_eq_true_iff]
  rfl

section Level

variable (codec env domainName)

variable (levels : List Worker.DomainLevelInfo) (entry : UInt8 × String × Int)

structure Extended (w : World) (levels levels' : List Worker.DomainLevelInfo)
    (entry : UInt8 × String × Int) (w' : World) : Prop where
  clock : w'.clock = w.clock + 3
  nodes : ∃ props, w'.graph.nodes = w.graph.nodes ++ [⟨w.graph.freshId, ["Domain_Level"], props⟩] ∧
    props "level" = some (.int entry.1.toNat)
  levels : ∃ name, levels' = levels ++ [⟨entry.1, name, w.graph.freshId⟩]

def Expected (domainId : ElementId) (g : Graph) : Prop := domainId ∈ g.nodeIds ∨ g.freshId = domainId

theorem exec_createLevel (hdomain : Expected domainId w.graph) :
    (LevelStored env w.clock → ∃ levels',
      (env.exec (createLevel codec domainId domainName levels entry) w).exit = .ok levels' ∧
        Extended w levels levels' entry
          (env.exec (createLevel codec domainId domainName levels entry) w).state) ∧
    (¬ LevelStored env w.clock →
      (env.exec (createLevel codec domainId domainName levels entry) w).exit.toOption = none) := by
  obtain ⟨level, suffix, points⟩ := entry
  let request := levelRequest domainName level suffix points
  rw [createLevel, exec_bind]
  by_cases hnode : NodeStored env w.clock
  · obtain ⟨result, vector, hexit, hid, hstate⟩ : ∃ result vector, (env.exec (createNode codec request
        false : Rest Empty AsyncPrompt _) w).exit = .ok result ∧ _ ∧ _ := exec_storedNode hnode
    let props := request.stored vector
    have hlink := exec_linkLevel env (env.exec (createNode codec request false :
      Rest Empty AsyncPrompt _) w).state domainId result.elementId
    rw [Execution.exit_andThen hexit, Execution.state_andThen hexit, exec_bind]
    rw [hstate, after_createNode, hid] at hlink
    constructor
    · rintro ⟨-, happ, hrow⟩
      rw [if_pos happ, Graph.createNode_nodeIds] at hlink
      have hends : domainId ∈ w.graph.nodeIds ++ [w.graph.freshId] ∧
          w.graph.freshId ∈ w.graph.nodeIds ++ [w.graph.freshId] := by
        rcases hdomain with hold | hnew
        · simp [hold]
        · simp [hnew]
      obtain ⟨edge, hedge⟩ := Option.isSome_iff_exists.1 (hlink.2 ⟨hrow, hends⟩)
      have hedge := Exit.toOption_eq_some.1 hedge
      have hclock := congrArg World.clock
        (@exec_createRelationship Empty AsyncPrompt ⟨domainId, result.elementId, "HAS_DOMAIN_LEVEL", none⟩
          env ⟨w.graph.createNode request.labels props, w.clock + 2⟩).1
      have hnodes := @createRelationship_nodes Empty AsyncPrompt
        ⟨domainId, result.elementId, "HAS_DOMAIN_LEVEL", none⟩ env
        ⟨w.graph.createNode request.labels props, w.clock + 2⟩
      rw [hstate, after_createNode, if_pos happ, hid]
      rw [hid] at hclock hnodes
      rw [Execution.exit_andThen hedge, Execution.state_andThen hedge]
      refine ⟨_, rfl, hclock, ⟨props, hnodes, ?_⟩, ⟨domainName ++ " " ++ suffix, rfl⟩⟩
      exact Props.set_ne _ _ (by decide)
    · intro hnot
      rw [hstate, after_createNode, hid, Execution.toOption_andThen]
      have hnone : (env.exec (createRelationship ⟨domainId, w.graph.freshId, "HAS_DOMAIN_LEVEL", none⟩ :
          Rest Empty AsyncPrompt _) ⟨if (env.outcome (w.clock + 1)).applied = true then
            w.graph.createNode request.labels props else w.graph, w.clock + 2⟩).exit.toOption = none := by
        rw [← Option.not_isSome_iff_eq_none, hlink]
        rintro ⟨hrow, -, hlevel⟩
        by_cases happ : (env.outcome (w.clock + 1)).applied = true
        · exact hnot ⟨hnode, happ, hrow⟩
        · rw [if_neg happ] at hlevel
          exact w.graph.freshId_notMem_nodeIds hlevel
      rw [hnone]
      rfl
  · obtain ⟨e, hexit⟩ : ∃ e, (env.exec (createNode codec request false : Rest Empty AsyncPrompt _)
        w).exit = .err e := exec_unstoredNode hnode
    rw [Execution.exit_andThen_err hexit]
    exact ⟨fun h => absurd h.1 hnode, fun _ => rfl⟩

end Level

section Levels

variable (codec env domainName)

def LevelNode (g : Graph) (info : Worker.DomainLevelInfo) : Prop :=
  ∃ node ∈ g.nodes, node.id = info.elementId ∧ node.hasLabel "Domain_Level" = true ∧
    node.props "level" = some (.int info.level.toNat)

structure Built (entries : List (UInt8 × String × Int)) (levels levels' : List Worker.DomainLevelInfo)
    (g : Graph) : Prop where
  numbers : levels'.map (·.level) = levels.map (·.level) ++ entries.map Prod.fst
  nodes : ∀ info ∈ levels', info ∈ levels ∨ LevelNode g info

theorem exec_createLevels (entries : List (UInt8 × String × Int)) (levels : List Worker.DomainLevelInfo)
    (hdomain : Expected domainId w.graph) :
    ((∀ i < entries.length, LevelStored env (w.clock + 3 * i)) → ∃ levels',
      (env.exec (entries.foldlM (createLevel codec domainId domainName) levels) w).exit = .ok levels' ∧
        (env.exec (entries.foldlM (createLevel codec domainId domainName) levels) w).state.clock =
          w.clock + 3 * entries.length ∧
        w.graph.nodes <+:
          (env.exec (entries.foldlM (createLevel codec domainId domainName) levels) w).state.graph.nodes ∧
        Built entries levels levels'
          (env.exec (entries.foldlM (createLevel codec domainId domainName) levels) w).state.graph) ∧
    (¬ (∀ i < entries.length, LevelStored env (w.clock + 3 * i)) →
      (env.exec (entries.foldlM (createLevel codec domainId domainName) levels) w).exit.toOption = none) := by
  induction entries generalizing levels w with
  | nil =>
      refine ⟨fun _ => ⟨levels, rfl, rfl, List.prefix_rfl, by simp, fun info h => .inl h⟩, fun hnot => ?_⟩
      exact absurd (fun i hi => absurd hi (Nat.not_lt_zero i)) hnot
  | cons entry entries ih =>
      obtain ⟨hstored, hunstored⟩ := exec_createLevel codec env domainName levels entry hdomain
      have hall : (∀ i < (entry :: entries).length, LevelStored env (w.clock + 3 * i)) ↔
          LevelStored env w.clock ∧ ∀ i < entries.length, LevelStored env (w.clock + 3 + 3 * i) := by
        constructor
        · intro h
          refine ⟨h 0 (Nat.zero_lt_succ _), fun i hi => ?_⟩
          have hnext := h (i + 1) (Nat.succ_lt_succ hi)
          rwa [show w.clock + 3 * (i + 1) = w.clock + 3 + 3 * i by omega] at hnext
        · rintro ⟨hfirst, hrest⟩ i hi
          cases i with
          | zero => exact hfirst
          | succ i =>
              rw [show w.clock + 3 * (i + 1) = w.clock + 3 + 3 * i by omega]
              exact hrest i (Nat.lt_of_succ_lt_succ hi)
      rw [hall, List.foldlM_cons, exec_bind]
      by_cases hlevel : LevelStored env w.clock
      · obtain ⟨levels', hexit, hclock, ⟨props, hnodes, hnumber⟩, name, rfl⟩ := hstored hlevel
        have hnext : Expected domainId (env.exec (createLevel codec domainId domainName levels entry)
            w).state.graph := by
          rw [Expected, Graph.nodeIds, hnodes, List.map_append, List.mem_append]
          exact .inl (hdomain.imp id fun hnew => by simp [hnew])
        rw [Execution.exit_andThen hexit, Execution.state_andThen hexit]
        obtain ⟨hok, hnone⟩ := ih (levels ++ [⟨entry.1, name, w.graph.freshId⟩]) hnext
        rw [hclock] at hok hnone
        constructor
        · rintro ⟨-, hrest⟩
          obtain ⟨levels', hexit', hclock', hgrown, hnumbers, hinfos⟩ := hok hrest
          have hsmaller : w.graph.nodes <+: (env.exec (createLevel codec domainId domainName levels entry)
              w).state.graph.nodes := hnodes ▸ List.prefix_append _ _
          refine ⟨levels', hexit', ?_, hsmaller.trans hgrown, ?_, fun info hinfo => ?_⟩
          · rw [hclock', List.length_cons]
            omega
          · rw [hnumbers]
            simp
          · rcases hinfos info hinfo with hold | hnode
            · rcases List.mem_append.1 hold with hold | hlast
              · exact .inl hold
              · obtain rfl := List.mem_singleton.1 hlast
                refine .inr ⟨⟨w.graph.freshId, ["Domain_Level"], props⟩, hgrown.subset ?_, rfl, rfl, hnumber⟩
                rw [hnodes]
                exact List.mem_append_right _ (List.mem_singleton_self _)
            · exact .inr hnode
        · exact fun hnot => hnone fun hrest => hnot ⟨hlevel, hrest⟩
      · refine ⟨fun h => absurd h.1 hlevel, fun _ => ?_⟩
        rw [Execution.toOption_andThen, hunstored hlevel]
        rfl

theorem exec_createDomainAndLevels (description : Option String) (w : World) :
    (Stored env w.clock → ∃ levels,
      (env.exec (createDomainAndLevels codec domainName description) w).exit =
          .ok (w.graph.freshId, levels) ∧
        (env.exec (createDomainAndLevels codec domainName description) w).state.clock = w.clock + 17 ∧
        w.graph.nodes <+:
          (env.exec (createDomainAndLevels codec domainName description) w).state.graph.nodes ∧
        Built levelTable [] levels
          (env.exec (createDomainAndLevels codec domainName description) w).state.graph) ∧
    (¬ Stored env w.clock →
      (env.exec (createDomainAndLevels codec domainName description) w).exit.toOption = none) := by
  let request := DomainArchitectStep.domainRequest domainName (description.getD "")
  rw [createDomainAndLevels, exec_bind]
  by_cases hnode : NodeStored env w.clock
  · obtain ⟨result, vector, hexit, hid, hstate⟩ : ∃ result vector, (env.exec (createNode codec request
        false : Rest Empty AsyncPrompt _) w).exit = .ok result ∧ _ ∧ _ := exec_storedNode hnode
    have hdomain : Expected result.elementId (env.exec (createNode codec request false :
        Rest Empty AsyncPrompt _) w).state.graph := by
      rw [hstate, after_createNode, hid, Expected]
      by_cases happ : (env.outcome (w.clock + 1)).applied = true
      · rw [if_pos happ, Graph.createNode_nodeIds]
        exact .inl (List.mem_append_right _ (List.mem_singleton_self _))
      · rw [if_neg happ]
        exact .inr rfl
    have hgrown : w.graph.nodes <+: (env.exec (createNode codec request false :
        Rest Empty AsyncPrompt _) w).state.graph.nodes := by
      rw [hstate, after_createNode]
      split
      · exact List.prefix_append _ _
      · exact List.prefix_rfl
    have hclock := congrArg World.clock hstate
    obtain ⟨hok, hnone⟩ := exec_createLevels codec env domainName levelTable [] hdomain
    rw [hclock] at hok hnone
    rw [Execution.exit_andThen hexit, Execution.state_andThen hexit, exec_bind]
    constructor
    · rintro ⟨-, hlevels⟩
      obtain ⟨levels, hexit', hclock', hgrown', hbuilt⟩ := hok hlevels
      rw [Execution.exit_andThen hexit', Execution.state_andThen hexit', ← hid]
      exact ⟨levels, rfl, hclock', hgrown.trans hgrown', hbuilt⟩
    · intro hnot
      rw [Execution.toOption_andThen, hnone fun hlevels => hnot ⟨hnode, hlevels⟩]
      rfl
  · obtain ⟨e, hexit⟩ : ∃ e, (env.exec (createNode codec request false : Rest Empty AsyncPrompt _)
        w).exit = .err e := exec_unstoredNode hnode
    rw [Execution.exit_andThen_err hexit]
    exact ⟨fun h => absurd h.1 hnode, fun _ => rfl⟩

end Levels

end AtlasOfUs.Agent.AsyncGeneration
