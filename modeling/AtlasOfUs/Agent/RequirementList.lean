import AtlasOfUs.Agent.Groundwork
import AtlasOfUs.Agent.LevelResolution
import AtlasOfUs.Agent.PrerequisiteCycles
import AtlasOfUs.GraphApi.RelationshipWrites
import AtlasOfUs.Thresholds

namespace AtlasOfUs.Agent

open Library Similarity GraphApi

def thresholdOf (type : String) (props : Props) : Option Value := (thresholdKey type).bind props

/-- What an entry says of the proficiency is what is stored: the text itself, or
the number that the text is the decimal of. -/
def Agrees : Option String → Option Value → Prop
  | none, none => True
  | some text, some (.str stored) => stored = text
  | some text, some (.int stored) => Text.parseI64 text = some stored
  | _, _ => False

structure LevelRequirement.Describes (req : LevelRequirement) (e : Edge) : Prop where
  type : requiresType req.componentType = some e.type
  level : req.levelId = e.source
  component : req.componentId = e.target
  proficiency : Agrees req.proficiency (thresholdOf e.type e.props)

/-- The list of level requirements is the requirements of the levels, each of
them once. -/
def DomainGraphRegistry.ListsRequirements (r : DomainGraphRegistry) (g : Graph) : Prop :=
  Matches LevelRequirement.Describes r.levelRequirements (requirementsOf r.levelIds g)

def AgentContext.requiring (context : AgentContext) (reqs : List LevelRequirement) : AgentContext :=
  { context with domainGraph :=
    { context.domainGraph with
      levelRequirements := context.domainGraph.levelRequirements ++ reqs } }

theorem requiring_nil (context : AgentContext) : context.requiring [] = context := by
  rw [AgentContext.requiring, List.append_nil]

theorem requiring_cons (context : AgentContext) (req : LevelRequirement)
    (reqs : List LevelRequirement) :
    context.requiring (req :: reqs) = (context.addLevelRequirement req).requiring reqs := by
  simp [AgentContext.requiring, AgentContext.addLevelRequirement]

section Attempts

variable {env : Env} {request : CreateRelationshipRequest}

theorem exec_attempt_createRelationship (env : Env) (hbound : request.Bound) (w : World) :
    ∃ result, env.exec ((createRelationship request).attempt :
        Step (Except ServiceError CreateRelationshipResult)) w =
        ⟨.ok result, ⟨(env.outcome w.clock).after request.statement w.graph, w.clock + 1⟩,
          [⟨.execute request.statement,
            (env.outcome w.clock).reply (request.statement w.graph).1⟩]⟩ ∧
      ((∃ created, result = .ok created) ↔
        w.graph.HasEnds request.key ∧ (env.outcome w.clock).returnsRow = true) := by
  obtain ⟨result, hattempt⟩ : ∃ result, env.exec ((createRelationship request).attempt :
      Step (Except ServiceError CreateRelationshipResult)) w = _ :=
    exec_createRelationship_attempt request env w
  refine ⟨result, hattempt, ?_⟩
  have hsome : (env.exec (createRelationship request :
      Rest SseEvent Prompt CreateRelationshipResult) w).exit.toOption.isSome = _ :=
    isSome_createRelationship request env w
  rw [CreateRelationshipRequest.head?_statement hbound] at hsome
  have hresult := congrArg Execution.exit hattempt
  rw [exec_attempt] at hresult
  have htold : (w.graph.HasEnds request.key ∧ (env.outcome w.clock).returnsRow = true) ↔
      (env.exec (createRelationship request :
        Rest SseEvent Prompt CreateRelationshipResult) w).exit.toOption.isSome = true := by
    rw [hsome, Bool.and_eq_true, decide_eq_true_iff, and_comm]
  rw [htold]
  cases hexit : (env.exec (createRelationship request :
      Rest SseEvent Prompt CreateRelationshipResult) w).exit with
  | panicked => simp [hexit, Exit.attempted] at hresult
  | ok created =>
      simp only [hexit, Exit.attempted] at hresult
      obtain rfl := Exit.ok.inj hresult
      exact iff_of_true ⟨created, rfl⟩ rfl
  | err e =>
      simp only [hexit, Exit.attempted] at hresult
      obtain rfl := Exit.ok.inj hresult
      refine iff_of_false ?_ (by simp)
      rintro ⟨created, h⟩
      cases h

theorem failingIn_ok {α : Type} {p : Step α} {context : AgentContext} {w : World} {a : α}
    (h : (env.exec (p.failingIn context) w).exit = .ok a) :
    (env.exec p w).exit = .ok a ∧ (env.exec (p.failingIn context) w).state = (env.exec p w).state := by
  rw [Step.failingIn, exec_mapErr] at h ⊢
  refine ⟨?_, rfl⟩
  cases hexit : (env.exec p w).exit with
  | ok b =>
      rw [hexit] at h
      exact congrArg _ (Exit.ok.inj h)
  | err e | panicked =>
      rw [hexit] at h
      cases h

end Attempts

namespace LevelDistributorStep

def LevelAssignment.props (a : LevelAssignment) : Properties :=
  (a.proficiency.map (proficiencyProps a.componentType)).getD []

def LevelAssignment.request (a : LevelAssignment) : CreateRelationshipRequest :=
  ⟨a.levelId, a.componentId, (requiresType a.componentType).getD "",
    if a.props.isEmpty then none else some a.props⟩

def LevelAssignment.requirement (a : LevelAssignment) : LevelRequirement :=
  ⟨a.levelId, a.componentId, a.componentName, a.componentType, a.proficiency⟩

theorem LevelAssignment.request_properties (a : LevelAssignment) :
    a.request.properties.getD [] = a.props := by
  rw [request]
  cases a.props <;> rfl

theorem LevelAssignment.bound_request (a : LevelAssignment) : a.request.Bound := by
  rw [CreateRelationshipRequest.Bound, request_properties]
  exact ⟨(boundId_proficiency a a.levelId).1, (boundId_proficiency a a.componentId).2⟩

section Loop

variable (env : Env)

theorem exec_createLevelRelationship {a : LevelAssignment}
    (htype : (requiresType a.componentType).isSome) (acc : Nat × AgentContext) (w : World) :
    ∃ count, env.exec (createLevelRelationship acc a) w =
      ⟨.ok (count, if w.graph.HasEnds a.request.key ∧ (env.outcome w.clock).returnsRow = true
          then acc.2.addLevelRequirement a.requirement else acc.2),
        ⟨(env.outcome w.clock).after a.request.statement w.graph, w.clock + 1⟩,
        [⟨.execute a.request.statement,
          (env.outcome w.clock).reply (a.request.statement w.graph).1⟩]⟩ := by
  obtain ⟨relType, hrel⟩ := Option.isSome_iff_exists.1 htype
  obtain ⟨result, hattempt, htold⟩ := exec_attempt_createRelationship env a.bound_request w
  have hrequest : (⟨a.levelId, a.componentId, relType,
      if a.props.isEmpty then none else some a.props⟩ : CreateRelationshipRequest) = a.request := by
    rw [LevelAssignment.request, hrel]
    rfl
  rw [LevelAssignment.props] at hrequest
  simp only [createLevelRelationship, hrel, hrequest]
  rw [exec_bind, hattempt, Execution.andThen_ok]
  cases result with
  | ok created =>
      rw [if_pos (htold.1 ⟨created, rfl⟩)]
      exact ⟨_, rfl⟩
  | error e =>
      rw [if_neg fun h => by obtain ⟨created, h⟩ := htold.2 h; cases h]
      exact ⟨_, rfl⟩

theorem exec_createLevelRelationships {assignments : List LevelAssignment}
    (htyped : ∀ a ∈ assignments, (requiresType a.componentType).isSome) (acc : Nat × AgentContext)
    (w : World) :
    (∃ count, (env.exec (assignments.foldlM createLevelRelationship acc) w).exit = .ok (count,
      acc.2.requiring ((answered env LevelAssignment.request Outcome.returnsRow w.graph w.clock
        assignments).map LevelAssignment.requirement))) ∧
    (env.exec (assignments.foldlM createLevelRelationship acc) w).state =
      ⟨merges ((answered env LevelAssignment.request Outcome.applied w.graph w.clock
        assignments).map LevelAssignment.request) w.graph, w.clock + assignments.length⟩ := by
  induction assignments generalizing acc w with
  | nil =>
      refine ⟨⟨acc.1, ?_⟩, rfl⟩
      rw [answered_nil, List.map_nil, requiring_nil]
      rfl
  | cons a assignments ih =>
      obtain ⟨count, hrun⟩ :=
        exec_createLevelRelationship env (htyped a List.mem_cons_self) acc w
      let after : World := ⟨(env.outcome w.clock).after a.request.statement w.graph, w.clock + 1⟩
      obtain ⟨⟨total, hrest⟩, hmerged⟩ :=
        ih (fun b hb => htyped b (List.mem_cons_of_mem _ hb)) (count,
          if w.graph.HasEnds a.request.key ∧ (env.outcome w.clock).returnsRow = true
          then acc.2.addLevelRequirement a.requirement else acc.2) after
      rw [List.foldlM_cons, exec_bind, hrun, Execution.andThen_ok]
      constructor
      · refine ⟨total, hrest.trans ?_⟩
        have hids : after.graph.nodeIds = w.graph.nodeIds :=
          CreateRelationshipRequest.nodeIds_after a.bound_request _ w.graph
        rw [answered_congr env LevelAssignment.request Outcome.returnsRow hids, answered_cons]
        by_cases ha : w.graph.HasEnds a.request.key ∧ (env.outcome w.clock).returnsRow = true
        · rw [if_pos ha, if_pos ha, List.map_cons, requiring_cons]
        · rw [if_neg ha, if_neg ha]
      · refine hmerged.trans ?_
        have hclock : w.clock + (a :: assignments).length = after.clock + assignments.length := by
          change w.clock + (assignments.length + 1) = w.clock + 1 + assignments.length
          omega
        rw [hclock, merges_answered_cons a.bound_request]

end Loop

section Analysis

def assignments (codec : Codec) (context : AgentContext) (componentType : String)
    (reply : Except String String) : Option (List LevelAssignment) :=
  match reply with
  | .error _ => none
  | .ok response => (parseLevelAssignments codec response context componentType).toOption

def assignedFrom (codec : Codec) (context : AgentContext) (env : Env) :
    Nat → List String → Option (List LevelAssignment)
  | _, [] => some []
  | clock, componentType :: types => do
      let first ← assignments codec context componentType (env.llm (clock + 1))
      let rest ← assignedFrom codec context env (clock + 2) types
      return first ++ rest

def assigned (codec : Codec) (context : AgentContext) (env : Env) (clock : Nat) :
    Option (List LevelAssignment) :=
  assignedFrom codec context env clock ["Knowledge", "Skill", "Trait", "Milestone"]

variable {codec : Codec} {context : AgentContext} {env : Env}

theorem componentType_of_parsed {response componentType : String} {attached : List LevelAssignment}
    (h : parseLevelAssignments codec response context componentType = .ok attached) :
    ∀ a ∈ attached, a.componentType = componentType := by
  obtain ⟨entries, results, -, hread, rfl⟩ := parseLevelAssignments_ok h
  intro a ha
  obtain ⟨result, hresult, ha⟩ := List.mem_filterMap.1 ha
  obtain ⟨entry, -, hentry⟩ := exists_mem_of_forall₂ hread hresult
  obtain ⟨name, level, -, -, hattached⟩ := readAssignment_ok hentry
  obtain ⟨id, -, h⟩ := Option.bind_eq_some_iff.1 (hattached.symm.trans ha)
  obtain ⟨l, -, rfl⟩ := Option.map_eq_some_iff.1 h
  rfl

theorem assignedFrom_typed {types : List String} {clock : Nat} {as : List LevelAssignment}
    (h : assignedFrom codec context env clock types = some as) :
    ∀ a ∈ as, a.componentType ∈ types := by
  induction types generalizing clock as with
  | nil =>
      obtain rfl := Option.some.inj h
      exact fun a ha => absurd ha List.not_mem_nil
  | cons type types ih =>
      obtain ⟨first, hfirst, h⟩ := Option.bind_eq_some_iff.1 h
      obtain ⟨rest, hrest, h⟩ := Option.bind_eq_some_iff.1 h
      obtain rfl := Option.some.inj h
      intro a ha
      rcases List.mem_append.1 ha with ha | ha
      · cases hreply : env.llm (clock + 1) with
        | error e => simp [assignments, hreply] at hfirst
        | ok response =>
            rw [hreply, assignments] at hfirst
            rw [componentType_of_parsed (Exit.toOption_eq_some.1 hfirst) a ha]
            exact List.mem_cons_self
      · exact List.mem_cons_of_mem _ (ih hrest a ha)

theorem assigned_typed {clock : Nat} {as : List LevelAssignment}
    (h : assigned codec context env clock = some as) :
    ∀ a ∈ as, (requiresType a.componentType).isSome := by
  have hall : ∀ type ∈ ["Knowledge", "Skill", "Trait", "Milestone"], (requiresType type).isSome := by
    decide
  exact fun a ha => hall _ (assignedFrom_typed h a ha)

theorem exec_assignedFrom (types : List String) {w : World} {lists : List (List LevelAssignment)}
    (h : (env.exec (types.mapM (analyzeType codec context)) w).exit = .ok lists) :
    assignedFrom codec context env w.clock types = some lists.flatten ∧
      (env.exec (types.mapM (analyzeType codec context)) w).state =
        ⟨w.graph, w.clock + 2 * types.length⟩ := by
  induction types generalizing w lists with
  | nil =>
      obtain rfl := Exit.ok.inj h
      exact ⟨rfl, rfl⟩
  | cons type types ih =>
      obtain ⟨hstate, hreply⟩ := exec_analyzeType codec context env type w
      rw [List.mapM_cons, exec_bind] at h ⊢
      obtain ⟨first, hfirst, h⟩ := Execution.exit_andThen_eq_ok h
      rw [Execution.state_andThen hfirst]
      rw [hstate, exec_bind] at h ⊢
      obtain ⟨rest, hrest, h⟩ := Execution.exit_andThen_eq_ok h
      obtain rfl := Exit.ok.inj h
      obtain ⟨hassigned, hend⟩ := ih hrest
      obtain ⟨response, hllm, hparse⟩ := hreply first hfirst
      rw [Execution.state_andThen hrest]
      constructor
      · have hread : assignments codec context type (env.llm (w.clock + 1)) = some first := by
          rw [hllm, assignments, hparse]
          rfl
        rw [assignedFrom, hread, Option.bind_eq_bind, Option.bind_some]
        rw [show w.clock + 2 = w.tick.tick.clock from rfl, hassigned]
        rfl
      · refine hend.trans ?_
        have hclock : w.clock + 2 * (type :: types).length =
            w.tick.tick.clock + 2 * types.length := by
          rw [List.length_cons, World.tick_clock, World.tick_clock]
          omega
        rw [hclock]
        rfl

theorem execute_ok {w : World} {context' : AgentContext}
    (h : (env.exec (execute codec context) w).exit = .ok context') :
    ∃ as, assigned codec context env w.clock = some as ∧
      context' = context.requiring ((answered env LevelAssignment.request Outcome.returnsRow w.graph
        (w.clock + 10) as).map LevelAssignment.requirement) ∧
      (env.exec (execute codec context) w).state =
        ⟨merges ((answered env LevelAssignment.request Outcome.applied w.graph (w.clock + 10)
          as).map LevelAssignment.request) w.graph, w.clock + 11 + as.length⟩ := by
  rw [execute, exec_bind] at h ⊢
  obtain ⟨as, has, h⟩ := Execution.exit_andThen_eq_ok h
  rw [Execution.state_andThen has]
  obtain ⟨hanalyzed, hstate⟩ := failingIn_ok has
  rw [analyzeLevelAssignments, exec_bind] at hanalyzed
  obtain ⟨lists, hlists, hflat⟩ := Execution.exit_andThen_eq_ok hanalyzed
  obtain rfl := Exit.ok.inj hflat
  obtain ⟨hassigned, hend⟩ := exec_assignedFrom ["Knowledge", "Skill", "Trait", "Milestone"] hlists
  have hstart : (env.exec ((analyzeLevelAssignments codec context).failingIn context) w).state =
      ⟨w.graph, w.clock + 8⟩ := by
    rw [hstate, analyzeLevelAssignments, exec_bind, Execution.state_andThen hlists]
    exact hend
  rw [hstart] at h ⊢
  simp only [exec_bind, exec_send, Execution.andThen_ok] at h ⊢
  have hsent : (⟨w.graph, w.clock + 8⟩ : World).tick.tick = ⟨w.graph, w.clock + 10⟩ := rfl
  rw [hsent] at h ⊢
  obtain ⟨acc, hacc, h⟩ := Execution.exit_andThen_eq_ok h
  rw [Execution.state_andThen hacc]
  obtain ⟨hloop, hlooped⟩ := failingIn_ok hacc
  obtain ⟨⟨count, hcount⟩, hmerged⟩ := exec_createLevelRelationships env
    (assigned_typed hassigned) (0, context) ⟨w.graph, w.clock + 10⟩
  refine ⟨lists.flatten, hassigned, ?_, ?_⟩
  · have hacc : acc = _ := Exit.ok.inj (hloop.symm.trans hcount)
    rw [hacc] at h
    exact (Exit.ok.inj h).symm
  · have hlast : (env.exec ((createLevelRelationships lists.flatten context).failingIn context)
        ⟨w.graph, w.clock + 10⟩).state = _ := hlooped.trans hmerged
    rw [hlast]
    have hclock : w.clock + 11 + lists.flatten.length = w.clock + 10 + lists.flatten.length + 1 := by
      omega
    rw [hclock]
    rfl

end Analysis

end LevelDistributorStep

namespace PrerequisiteMapperStep

def KeepsLevels (r r' : DomainGraphRegistry) : Prop :=
  r'.levelIds = r.levelIds ∧ r'.levelRequirements = r.levelRequirements

variable {codec : Codec} {context : AgentContext} {env : Env}

theorem keepsLevels_createPrerequisite {σ : Type} {h : Handler (services SseEvent Prompt) σ}
    (r : DomainGraphRegistry) (acc : Nat × AgentContext) (prereq : PrerequisiteRelationship) :
    Triple h (fun _ => KeepsLevels r acc.2.domainGraph) (createPrerequisiteRelationship acc prereq)
      (fun acc' _ => KeepsLevels r acc'.2.domainGraph) (fun _ _ => True) := by
  apply Triple.of_pre (fun _ hs => hs)
  intro hkeeps
  apply (Triple.true _).bind
  intro result
  cases result with
  | ok _ => exact Triple.done fun _ _ => hkeeps
  | error _ => exact Triple.done fun _ _ => hkeeps

theorem keepsLevels_execute {σ : Type} {h : Handler (services SseEvent Prompt) σ} :
    Triple h (fun _ => True) (execute codec context)
      (fun context' _ => KeepsLevels context.domainGraph context'.domainGraph)
      (fun _ _ => True) := by
  apply (Triple.true _).bind
  intro prereqs
  apply (Triple.true _).bind
  intro _
  apply (Triple.true _).bind
  intro _
  have hloop : Triple h (fun _ => True)
      ((createPrerequisiteRelationships prereqs context).failingIn context)
      (fun acc _ => KeepsLevels context.domainGraph acc.2.domainGraph) (fun _ _ => True) := by
    apply Triple.mapErr
    apply (Triple.foldlM (fun acc _ _ => KeepsLevels context.domainGraph acc.2.domainGraph)
      (fun acc prereq _ => keepsLevels_createPrerequisite context.domainGraph acc prereq) prereqs
      (0, context)).weaken
    exact fun _ _ => ⟨rfl, rfl⟩
  apply hloop.bind
  intro acc
  apply Triple.of_pre (fun _ hs => hs)
  intro hkeeps
  apply (Triple.true _).bind
  intro _
  exact Triple.done fun _ _ => hkeeps

theorem bound_request (prereq : PrerequisiteRelationship) : prereq.request.Bound := ⟨rfl, rfl⟩

theorem graph_createPrerequisites (prereqs : List PrerequisiteRelationship)
    (acc : Nat × AgentContext) (w : World) :
    (env.exec (prereqs.foldlM createPrerequisiteRelationship acc) w).state.graph =
      merges ((answered env PrerequisiteRelationship.request Outcome.applied w.graph w.clock
        prereqs).map PrerequisiteRelationship.request) w.graph := by
  induction prereqs generalizing acc w with
  | nil => rfl
  | cons prereq prereqs ih =>
      obtain ⟨⟨acc', hexit⟩, hstate⟩ := exec_createPrerequisiteRelationship env acc prereq w
      rw [List.foldlM_cons, exec_bind, Execution.state_andThen hexit, hstate, ih,
        merges_answered_cons (bound_request prereq)]

theorem execute_ok {w : World} {context' : AgentContext}
    (h : (env.exec (execute codec context) w).exit = .ok context') :
    ∃ prereqs, requested codec context env w.clock = some prereqs ∧
      KeepsLevels context.domainGraph context'.domainGraph ∧
      (env.exec (execute codec context) w).state.graph =
        merges ((answered env PrerequisiteRelationship.request Outcome.applied w.graph (w.clock + 6)
          prereqs).map PrerequisiteRelationship.request) w.graph := by
  have hkeeps : KeepsLevels context.domainGraph context'.domainGraph :=
    keepsLevels_execute.value w context' trivial h
  obtain ⟨hasked, -, -⟩ := exec_analyzePrerequisites codec context env w
  have hgraph := graph_execute codec context env w
  rw [execute, exec_bind] at h
  obtain ⟨prereqs, hprereqs, -⟩ := Execution.exit_andThen_eq_ok h
  obtain ⟨hanalyzed, -⟩ := failingIn_ok hprereqs
  rw [hanalyzed, Exit.toOption_ok] at hasked
  refine ⟨prereqs, hasked.symm, hkeeps, ?_⟩
  rw [hgraph, ← hasked, Option.elim_some, graph_createPrerequisites]

theorem requested_requiring (reqs : List LevelRequirement) (clock : Nat) :
    requested codec (context.requiring reqs) env clock = requested codec context env clock := rfl

end PrerequisiteMapperStep

end AtlasOfUs.Agent
