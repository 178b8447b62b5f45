import AtlasOfUs.Agent.Bookkeeping
import AtlasOfUs.Agent.Confirmations
import AtlasOfUs.Agent.Record
import AtlasOfUs.Agent.ReuseDecisions
import AtlasOfUs.Library.GraphLinks

namespace AtlasOfUs.Agent

open Library Similarity GraphApi

def DomainGraphRegistry.componentIds (r : DomainGraphRegistry) : List ElementId :=
  (r.knowledge ++ r.skills ++ r.traits ++ r.milestones).map (·.elementId)

/-- Between two components of the registry there is a prerequisite edge. -/
def Prerequisite (r : DomainGraphRegistry) (g : Graph) (s t : ElementId) : Prop :=
  s ∈ r.componentIds ∧ t ∈ r.componentIds ∧
    ∃ componentType type, requiresType componentType = some type ∧ g.Linked type s t

theorem mem_componentIds {context : AgentContext} {name nodeType : String} {id : ElementId}
    (h : findElementId context name nodeType = some id) : id ∈ context.domainGraph.componentIds := by
  obtain ⟨n, hn, rfl⟩ := Option.map_eq_some_iff.1 h
  have hmem : n ∈ context.domainGraph.ofType nodeType := List.mem_of_find?_eq_some hn
  apply List.mem_map_of_mem
  rw [DomainGraphRegistry.ofType] at hmem
  simp only [List.mem_append]
  split_ifs at hmem
  · exact .inl (.inl (.inl hmem))
  · exact .inl (.inl (.inr hmem))
  · exact .inl (.inr hmem)
  · exact .inr hmem
  · cases hmem

namespace PrerequisiteMapperStep

/-- The pairs that a reply asks for, if it can be read. -/
def requests (codec : Codec) (context : AgentContext) (sourceType : String)
    (reply : Except String String) : Option (List PrerequisiteRelationship) :=
  match reply with
  | .error _ => none
  | .ok response => (parsePrerequisites codec response context sourceType).toOption

def requested (codec : Codec) (context : AgentContext) (env : Env) (clock : Nat) :
    Option (List PrerequisiteRelationship) := do
  let skills ← requests codec context "Skill" (env.llm (clock + 1))
  let milestones ← requests codec context "Milestone" (env.llm (clock + 3))
  return skills ++ milestones

def PrerequisiteRelationship.Names (prereq : PrerequisiteRelationship) (type : String)
    (s t : ElementId) : Prop :=
  prereq.relationshipType = type ∧ prereq.sourceId = s ∧ prereq.targetId = t

/-- The pair is asked for between two nodes of the graph, and the statement for
it, after two questions and four events, takes effect. -/
def Merged (codec : Codec) (context : AgentContext) (env : Env) (w : World) (type : String)
    (s t : ElementId) : Prop :=
  ∃ prereqs, requested codec context env w.clock = some prereqs ∧
    ∃ (i : Nat) (prereq : PrerequisiteRelationship), prereqs[i]? = some prereq ∧
      prereq.Names type s t ∧ (s ∈ w.graph.nodeIds ∧ t ∈ w.graph.nodeIds) ∧
        (env.outcome (w.clock + 6 + i)).applied = true

/-- One of the two is accepted as a prerequisite of the other. -/
def Accepted (codec : Codec) (context : AgentContext) (env : Env) (w : World) (s t : ElementId) :
    Prop :=
  ∃ type, Merged codec context env w type s t

def PrerequisiteRelationship.request (prereq : PrerequisiteRelationship) :
    CreateRelationshipRequest :=
  ⟨prereq.sourceId, prereq.targetId, prereq.relationshipType, none⟩

section Requests

variable {codec : Codec} {context : AgentContext} {env : Env}

theorem mem_requests {sourceType : String} {reply : Except String String}
    {prereqs : List PrerequisiteRelationship}
    (h : requests codec context sourceType reply = some prereqs) :
    ∀ prereq ∈ prereqs, prereq.sourceId ∈ context.domainGraph.componentIds ∧
      prereq.targetId ∈ context.domainGraph.componentIds ∧
      ∃ componentType, requiresType componentType = some prereq.relationshipType := by
  cases reply with
  | error e => cases h
  | ok response =>
      rw [requests] at h
      have hparse : parsePrerequisites codec response context sourceType = .ok prereqs :=
        Exit.toOption_eq_some.1 h
      intro prereq hmem
      obtain ⟨sourceId, sourceName, req, hsource, hread⟩ := parsePrerequisites_ok hparse prereq hmem
      have htype := readRequirement_type hread
      simp only [readRequirement, Option.bind_eq_bind, Option.bind_eq_some_iff, Option.pure_def,
        Option.some.injEq] at hread
      obtain ⟨targetId, htarget, relType, -, rfl⟩ := hread
      exact ⟨mem_componentIds hsource, mem_componentIds htarget, _, htype⟩

theorem mem_requested {clock : Nat} {prereqs : List PrerequisiteRelationship}
    (h : requested codec context env clock = some prereqs) :
    ∀ prereq ∈ prereqs, prereq.sourceId ∈ context.domainGraph.componentIds ∧
      prereq.targetId ∈ context.domainGraph.componentIds ∧
      ∃ componentType, requiresType componentType = some prereq.relationshipType := by
  obtain ⟨skills, hskills, h⟩ := Option.bind_eq_some_iff.1 h
  obtain ⟨milestones, hmilestones, h⟩ := Option.bind_eq_some_iff.1 h
  obtain rfl := Option.some.inj h
  intro prereq hmem
  rcases List.mem_append.1 hmem with hmem | hmem
  · exact mem_requests hskills prereq hmem
  · exact mem_requests hmilestones prereq hmem

end Requests

section Runs

variable (codec : Codec) (context : AgentContext) (env : Env)

theorem exec_analyzeType (sourceType : String) (w : World) :
    (env.exec (analyzeType codec context sourceType) w).state = w.tick.tick ∧
      (env.exec (analyzeType codec context sourceType) w).exit.toOption =
        requests codec context sourceType (env.llm (w.clock + 1)) := by
  obtain ⟨hstate, hexit⟩ := exec_ask env
    (.prerequisiteAnalysis context.domainName (buildContextForType context sourceType))
    (fun response => parsePrerequisites codec response context sourceType) w.tick
  rw [analyzeType, exec_bind, exec_send, Execution.andThen_ok]
  refine ⟨hstate, Option.ext fun prereqs => ?_⟩
  rw [Exit.toOption_eq_some]
  refine (hexit prereqs).trans ?_
  rw [World.tick_clock]
  cases env.llm (w.clock + 1) with
  | error e => simp [requests]
  | ok response => simp [requests, Exit.toOption_eq_some]

theorem exec_analyzePrerequisites (w : World) :
    (env.exec (analyzePrerequisites codec context) w).exit.toOption =
        requested codec context env w.clock ∧
      (env.exec (analyzePrerequisites codec context) w).state.graph = w.graph ∧
      ((requested codec context env w.clock).isSome →
        (env.exec (analyzePrerequisites codec context) w).state.clock = w.clock + 4) := by
  obtain ⟨hstate, hskills⟩ := exec_analyzeType codec context env "Skill" w
  obtain ⟨hstate', hmilestones⟩ := exec_analyzeType codec context env "Milestone" w.tick.tick
  have hclock : w.tick.tick.clock + 1 = w.clock + 3 := rfl
  rw [hclock] at hmilestones
  have hpair : analyzePrerequisites codec context = (do
      let skills ← analyzeType codec context "Skill"
      let milestones ← analyzeType codec context "Milestone"
      return skills ++ milestones) := by
    simp [analyzePrerequisites]
  rw [hpair, exec_bind, requested]
  cases hs : requests codec context "Skill" (env.llm (w.clock + 1)) with
  | none =>
      rw [hs] at hskills
      rw [Execution.toOption_andThen, hskills, Execution.state_andThen_of_none hskills, hstate]
      exact ⟨rfl, rfl, fun h => by cases h⟩
  | some skills =>
      have hexit := Exit.toOption_eq_some.1 (hskills.trans hs)
      rw [Execution.exit_andThen hexit, Execution.state_andThen hexit, hstate, exec_bind]
      cases hm : requests codec context "Milestone" (env.llm (w.clock + 3)) with
      | none =>
          rw [hm] at hmilestones
          rw [Execution.toOption_andThen, hmilestones, Execution.state_andThen_of_none hmilestones,
            hstate']
          exact ⟨rfl, rfl, fun h => by cases h⟩
      | some milestones =>
          have hexit' := Exit.toOption_eq_some.1 (hmilestones.trans hm)
          rw [Execution.exit_andThen hexit', Execution.state_andThen hexit', hstate']
          exact ⟨rfl, rfl, fun _ => rfl⟩

theorem exec_createPrerequisiteRelationship (acc : Nat × AgentContext)
    (prereq : PrerequisiteRelationship) (w : World) :
    (∃ acc', (env.exec (createPrerequisiteRelationship acc prereq) w).exit = .ok acc') ∧
      (env.exec (createPrerequisiteRelationship acc prereq) w).state =
        ⟨(env.outcome w.clock).after prereq.request.statement w.graph, w.clock + 1⟩ := by
  obtain ⟨result, hattempt⟩ : ∃ result, env.exec ((createRelationship prereq.request).attempt :
      Step (Except ServiceError CreateRelationshipResult)) w = _ :=
    exec_createRelationship_attempt prereq.request env w
  have hrun : env.exec (createPrerequisiteRelationship acc prereq) w =
      (env.exec ((createRelationship prereq.request).attempt : Step _) w).andThen _ :=
    exec_bind env _ _ w
  rw [hrun, hattempt, Execution.andThen_ok]
  cases result with
  | ok created => exact ⟨⟨_, rfl⟩, rfl⟩
  | error e => exact ⟨⟨_, rfl⟩, rfl⟩

theorem after_nodeIds (o : Outcome) (prereq : PrerequisiteRelationship) (g : Graph) :
    (o.after prereq.request.statement g).nodeIds = g.nodeIds := by
  rw [Outcome.after]
  split
  · exact congrArg (List.map Node.id) (mergeRelationshipStatement_nodes _ _ _ _ g)
  · rfl

theorem linked_after {o : Outcome} {prereq : PrerequisiteRelationship} {g : Graph} {type : String}
    {s t : ElementId} :
    (o.after prereq.request.statement g).Linked type s t ↔ g.Linked type s t ∨
      (prereq.Names type s t ∧ (s ∈ g.nodeIds ∧ t ∈ g.nodeIds) ∧ o.applied = true) := by
  rw [Outcome.after]
  cases happlied : o.applied with
  | false => simp
  | true =>
      have hmerge : (prereq.request.statement g).2 =
          g.mergeEdge prereq.relationshipType prereq.sourceId prereq.targetId (setAll []) := rfl
      rw [if_pos rfl, hmerge, Graph.linked_mergeEdge]
      refine or_congr_right ⟨?_, ?_⟩
      · rintro ⟨⟨rfl, rfl, rfl⟩, hmem⟩
        exact ⟨⟨rfl, rfl, rfl⟩, hmem, rfl⟩
      · rintro ⟨⟨rfl, rfl, rfl⟩, hmem, -⟩
        exact ⟨⟨rfl, rfl, rfl⟩, hmem⟩

/-- After the loop there are the links that were there and those of the pairs,
each with the outcome of its own statement. -/
theorem linked_createPrerequisites (prereqs : List PrerequisiteRelationship)
    (acc : Nat × AgentContext) (w : World) :
    (∃ acc', (env.exec (prereqs.foldlM createPrerequisiteRelationship acc) w).exit = .ok acc') ∧
      ∀ type s t,
        (env.exec (prereqs.foldlM createPrerequisiteRelationship acc) w).state.graph.Linked type s t ↔
          w.graph.Linked type s t ∨ ∃ (i : Nat) (prereq : PrerequisiteRelationship),
            prereqs[i]? = some prereq ∧ prereq.Names type s t ∧
              (s ∈ w.graph.nodeIds ∧ t ∈ w.graph.nodeIds) ∧
              (env.outcome (w.clock + i)).applied = true := by
  induction prereqs generalizing acc w with
  | nil => exact ⟨⟨acc, rfl⟩, fun type s t => by simp⟩
  | cons prereq prereqs ih =>
      obtain ⟨⟨acc', hexit⟩, hstate⟩ := exec_createPrerequisiteRelationship env acc prereq w
      obtain ⟨hloop, hlinked⟩ := ih acc'
        ⟨(env.outcome w.clock).after prereq.request.statement w.graph, w.clock + 1⟩
      rw [List.foldlM_cons, exec_bind, Execution.exit_andThen hexit, Execution.state_andThen hexit,
        hstate]
      refine ⟨hloop, fun type s t => (hlinked type s t).trans ?_⟩
      simp only [after_nodeIds, linked_after]
      constructor
      · rintro ((hold | hfirst) | ⟨i, later, hi, hnames, hmem, happlied⟩)
        · exact .inl hold
        · exact .inr ⟨0, prereq, rfl, hfirst⟩
        · have hclock : w.clock + 1 + i = w.clock + (i + 1) := by omega
          exact .inr ⟨i + 1, later, hi, hnames, hmem, hclock ▸ happlied⟩
      · rintro (hold | ⟨i, later, hi, hnames, hmem, happlied⟩)
        · exact .inl (.inl hold)
        · cases i with
          | zero =>
              obtain rfl := Option.some.inj hi
              exact .inl (.inr ⟨hnames, hmem, happlied⟩)
          | succ i =>
              have hclock : w.clock + (i + 1) = w.clock + 1 + i := by omega
              exact .inr ⟨i, later, hi, hnames, hmem, hclock ▸ happlied⟩

/-- The mapper changes the graph only in the loop over the prerequisites it is told. -/
theorem graph_execute (w : World) :
    (env.exec (execute codec context) w).state.graph =
      (requested codec context env w.clock).elim w.graph fun prereqs =>
        (env.exec (prereqs.foldlM createPrerequisiteRelationship (0, context))
          ⟨w.graph, w.clock + 6⟩).state.graph := by
  obtain ⟨hasked, hgraph, hclock⟩ := exec_analyzePrerequisites codec context env w
  have hmapped : (env.exec ((analyzePrerequisites codec context).failingIn context) w).state =
      (env.exec (analyzePrerequisites codec context) w).state := by
    rw [Step.failingIn, exec_mapErr]
  rw [execute, exec_bind]
  cases hrequested : requested codec context env w.clock with
  | none =>
      have hnone : (env.exec ((analyzePrerequisites codec context).failingIn context)
          w).exit.toOption = none := by
        rw [Step.failingIn, exec_mapErr, Exit.toOption_mapErr, hasked, hrequested]
      rw [Execution.state_andThen_of_none hnone, hmapped, hgraph, Option.elim_none]
  | some prereqs =>
      rw [hrequested] at hasked
      have hexit : (env.exec ((analyzePrerequisites codec context).failingIn context) w).exit =
          .ok prereqs := by
        rw [Step.failingIn, exec_mapErr, Exit.toOption_eq_some.1 hasked]
        rfl
      have hstart : (env.exec (analyzePrerequisites codec context) w).state =
          ⟨w.graph, w.clock + 4⟩ := by
        rw [← hgraph, ← hclock (by rw [hrequested]; rfl)]
      rw [Execution.state_andThen hexit, hmapped, hstart]
      simp only [exec_bind, exec_send, Execution.andThen_ok]
      obtain ⟨⟨acc, hloop⟩, -⟩ :=
        linked_createPrerequisites env prereqs (0, context) ⟨w.graph, w.clock + 6⟩
      have hlast : (env.exec ((createPrerequisiteRelationships prereqs context).failingIn context)
          ⟨w.graph, w.clock + 6⟩).exit = .ok acc := by
        rw [Step.failingIn, exec_mapErr, createPrerequisiteRelationships, hloop]
        rfl
      have hsent : (⟨w.graph, w.clock + 4⟩ : World).tick.tick = ⟨w.graph, w.clock + 6⟩ := rfl
      rw [hsent, Execution.state_andThen hlast, Step.failingIn, exec_mapErr]
      rfl

theorem linked_execute (w : World) (type : String) (s t : ElementId) :
    (env.exec (execute codec context) w).state.graph.Linked type s t ↔
      w.graph.Linked type s t ∨ Merged codec context env w type s t := by
  rw [graph_execute, Merged]
  cases requested codec context env w.clock with
  | none => simp
  | some prereqs =>
      obtain ⟨-, hlinked⟩ :=
        linked_createPrerequisites env prereqs (0, context) ⟨w.graph, w.clock + 6⟩
      refine (hlinked type s t).trans (or_congr_right ?_)
      simp

end Runs

end PrerequisiteMapperStep

open PrerequisiteMapperStep

theorem prerequisite_iff (codec : Codec) (context : AgentContext) (env : Env) (w : World)
    (hnone : ∀ s t, ¬ Prerequisite context.domainGraph w.graph s t) (s t : ElementId) :
    Prerequisite context.domainGraph (env.exec (PrerequisiteMapperStep.execute codec context) w).state.graph s t ↔
      Accepted codec context env w s t := by
  constructor
  · rintro ⟨hs, ht, componentType, type, htype, hlinked⟩
    rcases (linked_execute codec context env w type s t).1 hlinked with hold | hnew
    · exact absurd ⟨hs, ht, componentType, type, htype, hold⟩ (hnone s t)
    · exact ⟨type, hnew⟩
  · intro haccepted
    obtain ⟨type, hmerged⟩ := haccepted
    have hlinked := (linked_execute codec context env w type s t).2 (.inr hmerged)
    obtain ⟨prereqs, hrequested, i, prereq, hi, ⟨rfl, rfl, rfl⟩, -⟩ := hmerged
    obtain ⟨hs, ht, componentType, htype⟩ :=
      mem_requested hrequested prereq (List.mem_of_getElem? hi)
    exact ⟨hs, ht, componentType, _, htype, hlinked⟩

/-- The mapper checks no pair against another: the prerequisites that it leaves
behind are acyclic exactly if what the replies ask for is. -/
theorem prerequisites_acyclic_iff (codec : Codec) (context : AgentContext) (env : Env) (w : World)
    (hnone : ∀ s t, ¬ Prerequisite context.domainGraph w.graph s t) :
    Acyclic (Prerequisite context.domainGraph
        (env.exec (PrerequisiteMapperStep.execute codec context) w).state.graph) ↔
      Acyclic (Accepted codec context env w) := by
  have heq : Prerequisite context.domainGraph (env.exec (PrerequisiteMapperStep.execute codec context) w).state.graph =
      Accepted codec context env w := by
    funext s t
    exact propext (prerequisite_iff codec context env w hnone s t)
  rw [heq]

/-- Every reply has the named skill require the named component. -/
def requiring (skill name type : String) : Codec where
  value := fun _ => .ok (.object [("prerequisites", .array [.object [("component", .str skill),
    ("requires", .array [.object [("name", .str name), ("type", .str type)]])]])])
  strings := fun _ => .error "expected value"
  float := fun _ => ""

def tacticsGraph : Graph :=
  (emptyGraph.createNode ["Skill"] Props.empty).createNode ["Knowledge"] Props.empty

def tacticsContext : AgentContext where
  domainName := "Chess"
  description := none
  domainGraph :=
    { skills := [.new "Tactics" (candidateId 0) "Skill"]
      knowledge := [.new "Moves" (candidateId 1) "Knowledge"] }

theorem tactics_unlinked (s t : ElementId) :
    ¬ Prerequisite tacticsContext.domainGraph tacticsGraph s t := by
  rintro ⟨-, -, componentType, type, -, e, he, -⟩
  cases he

theorem tactics_requested :
    requested (requiring "Tactics" "Moves" "Knowledge") tacticsContext bracketed 0 =
      some [⟨candidateId 0, "Tactics", candidateId 1, "Moves", "REQUIRES_KNOWLEDGE"⟩] := by
  decide +kernel

theorem tactics_acyclic : Acyclic (Prerequisite tacticsContext.domainGraph
    (bracketed.exec (PrerequisiteMapperStep.execute (requiring "Tactics" "Moves" "Knowledge")
      tacticsContext) (World.start tacticsGraph)).state.graph) := by
  refine (prerequisites_acyclic_iff _ _ _ _ tactics_unlinked).2 ?_
  apply acyclic_of_rank (fun id => if id = candidateId 0 then 1 else 0)
  rintro s t ⟨type, prereqs, hrequested, i, prereq, hi, ⟨-, rfl, rfl⟩, -⟩
  obtain rfl := Option.some.inj (tactics_requested.symm.trans hrequested)
  obtain rfl := List.mem_singleton.1 (List.mem_of_getElem? hi)
  decide

theorem tactics_cyclic : ¬ ∀ (codec : Codec) (context : AgentContext) (env : Env) (w : World),
    (∀ s t, ¬ Prerequisite context.domainGraph w.graph s t) →
      Acyclic (Prerequisite context.domainGraph
        (env.exec (PrerequisiteMapperStep.execute codec context) w).state.graph) := by
  intro hall
  have hacyclic := hall (requiring "Tactics" "Tactics" "Skill") tacticsContext bracketed
    (World.start tacticsGraph) tactics_unlinked
  refine not_acyclic_of_loop (a := candidateId 0) ⟨?_, ?_, "Skill", "REQUIRES_SKILL", ?_, ?_⟩ hacyclic
  · decide
  · decide
  · decide
  · exact Graph.linked_iff.2 (by decide +kernel)

end AtlasOfUs.Agent
