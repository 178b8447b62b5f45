import AtlasOfUs.Agent.RequirementList
import AtlasOfUs.Library.Tally

namespace AtlasOfUs.Agent

open Library Similarity GraphApi LevelDistributorStep PrerequisiteMapperStep

def LevelRequirement.key (req : LevelRequirement) : LinkKey ElementId :=
  ((requiresType req.componentType).getD "", req.levelId, req.componentId)

theorem LevelRequirement.Describes.key_eq {req : LevelRequirement} {e : Edge}
    (h : req.Describes e) : req.key = e.key := by
  rw [LevelRequirement.key, h.type, h.level, h.component]
  rfl

def setThreshold (request : CreateRelationshipRequest) : Option Value :=
  (thresholdKey request.relationshipType).bind fun key => (request.properties.getD []).lookup key

def lastThreshold (applied : List CreateRelationshipRequest) (key : LinkKey ElementId) :
    Option Value :=
  ((applied.filter (·.key = key)).filterMap setThreshold).getLast?

/-- Every requirement that is written is confirmed, just once, and the last
threshold written for it is what the confirmed assignment says. -/
structure Reconciled (confirmed : List LevelAssignment) (applied : List CreateRelationshipRequest) :
    Prop where
  once : (confirmed.map (·.request.key)).Nodup
  same : ∀ key, key ∈ confirmed.map (·.request.key) ↔ key ∈ applied.map (·.key)
  last : ∀ a ∈ confirmed, Agrees a.proficiency (lastThreshold applied a.request.key)

section Thresholds

theorem getLast?_filterMap_cons {α β : Type} (f : α → Option β) (x : α) (xs : List α) :
    ((x :: xs).filterMap f).getLast? = (xs.filterMap f).getLast?.or (f x) := by
  rw [filterMap_cons_eq, List.getLast?_append]
  cases f x <;> rfl

theorem thresholdOf_setAll (request : CreateRelationshipRequest) (props : Props) :
    thresholdOf request.relationshipType (request.upsert.set props) =
      (setThreshold request).or (thresholdOf request.relationshipType props) := by
  rw [thresholdOf, thresholdOf, setThreshold]
  cases thresholdKey request.relationshipType with
  | none => rfl
  | some key =>
      change ((request.properties.getD []).lookup key).orElse (fun _ => props key) = _
      rw [Option.bind_some, Option.bind_some]
      cases (request.properties.getD []).lookup key <;> rfl

theorem thresholdOf_foldl {type : String} {requests : List CreateRelationshipRequest}
    (htype : ∀ r ∈ requests, r.relationshipType = type) (props : Props) :
    thresholdOf type ((requests.map (·.upsert)).foldl (fun props u => u.set props) props) =
      (requests.filterMap setThreshold).getLast?.or (thresholdOf type props) := by
  induction requests generalizing props with
  | nil => rfl
  | cons r requests ih =>
      have hr : r.relationshipType = type := htype r List.mem_cons_self
      rw [List.map_cons, List.foldl_cons, ih fun r' hr' => htype r' (List.mem_cons_of_mem _ hr'),
        getLast?_filterMap_cons, ← hr, thresholdOf_setAll, Option.or_assoc]

theorem thresholdOf_written (requests : List CreateRelationshipRequest) (key : LinkKey ElementId) :
    thresholdOf key.1 (written (requests.map (·.upsert)) key) = lastThreshold requests key := by
  have hfilter : (requests.map (·.upsert)).filter (fun u => decide (u.key = key)) =
      (requests.filter (·.key = key)).map (·.upsert) := List.filter_map
  rw [written, hfilter, thresholdOf_foldl, lastThreshold]
  · have hempty : thresholdOf key.1 Props.empty = none := by
      rw [thresholdOf]
      cases thresholdKey key.1 <;> rfl
    rw [hempty, Option.or_none]
  · intro r hr
    have hkey : r.key = key := of_decide_eq_true (List.mem_filter.1 hr).2
    exact congrArg Prod.fst hkey

theorem lastThreshold_filter {requests : List CreateRelationshipRequest} {levels : List ElementId}
    {key : LinkKey ElementId} (h : key.2.1 ∈ levels) :
    lastThreshold (requests.filter fun r => levels.contains r.sourceId) key =
      lastThreshold requests key := by
  rw [lastThreshold, List.filter_filter, lastThreshold]
  congr 2
  apply List.filter_congr
  intro r _
  rw [Bool.and_eq_left_iff_imp]
  intro hr
  have hkey : r.key = key := of_decide_eq_true hr
  have hsource : r.sourceId = key.2.1 := congrArg (fun k : LinkKey ElementId => k.2.1) hkey
  rw [hsource, List.contains_iff_mem]
  exact h

end Thresholds

section Merges

variable {g : Graph} {levels : List ElementId} {requests : List CreateRelationshipRequest}

theorem reflects_merges (hnone : requirementsOf levels g = [])
    (hends : ∀ r ∈ requests, g.HasEnds r.key) :
    Reflects (fun key => IsRequirement key && levels.contains key.2.1) (requests.map (·.upsert))
      (merges requests g) := by
  have hkeys : ∀ u ∈ requests.map (·.upsert), g.HasEnds u.key := by
    intro u hu
    obtain ⟨r, hr, rfl⟩ := List.mem_map.1 hu
    exact hends r hr
  exact (Reflects.start hnone).upserts hkeys

theorem mem_filter_levels {key : LinkKey ElementId} :
    key ∈ (requests.filter fun r => levels.contains r.sourceId).map (·.key) ↔
      key.2.1 ∈ levels ∧ key ∈ requests.map (·.key) := by
  simp only [List.mem_map, List.mem_filter, List.contains_iff_mem]
  constructor
  · rintro ⟨r, ⟨hr, hlevel⟩, rfl⟩
    exact ⟨hlevel, r, hr, rfl⟩
  · rintro ⟨hlevel, r, hr, rfl⟩
    exact ⟨r, ⟨hr, hlevel⟩, rfl⟩

/-- Entries for the confirmed assignments list the requirements that the merges
leave behind exactly if the two reconcile. -/
theorem matches_merges_iff (hnone : requirementsOf levels g = [])
    (hends : ∀ r ∈ requests, g.HasEnds r.key) (htypes : ∀ r ∈ requests, IsRequirement r.key = true)
    {confirmed : List LevelAssignment}
    (htyped : ∀ a ∈ confirmed, (requiresType a.componentType).isSome) :
    Matches LevelRequirement.Describes (confirmed.map LevelAssignment.requirement)
        (requirementsOf levels (merges requests g)) ↔
      Reconciled confirmed (requests.filter fun r => levels.contains r.sourceId) := by
  have hreflects := reflects_merges hnone hends
  have hkeys : (confirmed.map LevelAssignment.requirement).map LevelRequirement.key =
      confirmed.map (·.request.key) := by
    rw [List.map_map]
    rfl
  have hupserts : (requests.map (·.upsert)).map Upsert.key = requests.map (·.key) := by
    rw [List.map_map]
    rfl
  have hmem : ∀ key, key ∈ (requirementsOf levels (merges requests g)).map Edge.key ↔
      key ∈ (requests.filter fun r => levels.contains r.sourceId).map (·.key) := by
    intro key
    rw [mem_filter_levels]
    refine (hreflects.keys key).trans ?_
    rw [hupserts, Bool.and_eq_true, List.contains_iff_mem]
    constructor
    · rintro ⟨⟨-, hlevel⟩, hkey⟩
      exact ⟨hlevel, hkey⟩
    · rintro ⟨hlevel, hkey⟩
      obtain ⟨r, hr, rfl⟩ := List.mem_map.1 hkey
      exact ⟨⟨htypes r hr, hlevel⟩, hkey⟩
  have hstored : ∀ e ∈ requirementsOf levels (merges requests g),
      thresholdOf e.type e.props =
        lastThreshold (requests.filter fun r => levels.contains r.sourceId) e.key := by
    intro e he
    have hlevel : e.key.2.1 ∈ levels := (mem_filter_levels.1 ((hmem e.key).1
      (List.mem_map_of_mem he))).1
    rw [hreflects.props e he, lastThreshold_filter hlevel]
    exact thresholdOf_written requests e.key
  have hnodup : ((requirementsOf levels (merges requests g)).map Edge.key).Nodup := hreflects.nodup
  have hkeyed : ∀ (req : LevelRequirement) (e : Edge), req.Describes e → req.key = e.key :=
    fun _ _ h => h.key_eq
  rw [matches_iff hkeyed hnodup, hkeys]
  constructor
  · rintro ⟨honce, hsame, hpair⟩
    have hsame' : ∀ key, key ∈ confirmed.map (·.request.key) ↔
        key ∈ (requests.filter fun r => levels.contains r.sourceId).map (·.key) :=
      fun key => (hsame key).trans (hmem key)
    refine ⟨honce, hsame', fun a ha => ?_⟩
    obtain ⟨e, he, hkey⟩ := List.mem_map.1 ((hsame a.request.key).1 (List.mem_map_of_mem ha))
    have hdescribes := hpair a.requirement (List.mem_map_of_mem ha) e he hkey.symm
    have hagrees : Agrees a.proficiency (thresholdOf e.type e.props) := hdescribes.proficiency
    rwa [hstored e he, hkey] at hagrees
  · rintro ⟨honce, hsame, hlast⟩
    refine ⟨honce, fun key => (hsame key).trans (hmem key).symm, fun req hreq e he hkey => ?_⟩
    obtain ⟨a, ha, rfl⟩ := List.mem_map.1 hreq
    obtain ⟨relType, hrel⟩ := Option.isSome_iff_exists.1 (htyped a ha)
    have hrequest : a.request.key = (relType, a.levelId, a.componentId) := by
      rw [LevelAssignment.request, hrel]
      rfl
    have hkey' : (relType, a.levelId, a.componentId) = e.key := hrequest.symm.trans hkey
    have hagrees := hlast a ha
    rw [show a.request.key = e.key from hkey, ← hstored e he] at hagrees
    exact ⟨hrel.trans (congrArg (fun k : LinkKey ElementId => some k.1) hkey'),
      congrArg (fun k : LinkKey ElementId => k.2.1) hkey',
      congrArg (fun k : LinkKey ElementId => k.2.2) hkey', hagrees⟩

end Merges

section Run

variable {codec : Codec} {tables : DomainArchitectStep.CharTables} {env : Env}

theorem runAgent_ok {acc acc' : AgentContext × DomainStatistics} {x : AgentType × Nat} {w : World}
    (h : (env.exec (runAgent codec tables acc x) w).exit = .ok acc') :
    (env.exec (executeAgent codec tables x.1 acc.1) w.tick).exit = .ok acc'.1 ∧
      (env.exec (runAgent codec tables acc x) w).state =
        (env.exec (executeAgent codec tables x.1 acc.1) w.tick).state.tick := by
  rw [runAgent_eq, exec_bind, exec_send, Execution.andThen_ok, exec_bind] at h ⊢
  obtain ⟨result, hresult, h⟩ := Execution.exit_andThen_eq_ok h
  rw [Execution.state_andThen hresult]
  rw [exec_attempt] at hresult h ⊢
  cases hexit : (env.exec (executeAgent codec tables x.1 acc.1) w.tick).exit with
  | panicked =>
      rw [hexit] at hresult
      cases hresult
  | err failure =>
      rw [hexit] at hresult
      obtain rfl := Exit.ok.inj hresult
      cases h
  | ok context =>
      rw [hexit] at hresult
      obtain rfl := Exit.ok.inj hresult
      obtain rfl := Exit.ok.inj h
      exact ⟨rfl, rfl⟩

/-- The context and the world in which the distributor starts: after the check,
two calls, and the events of the start of the workflow and of the agent. -/
def distributorStart (codec : Codec) (tables : DomainArchitectStep.CharTables) (env : Env)
    (w : World) (domainName : String) (description : Option String) : Option (AgentContext × World) :=
  let opening := env.exec (openingAgents.foldlM (runAgent codec tables)
    (⟨domainName, description, none, {}⟩, {})) w.tick.tick.tick
  opening.exit.toOption.map fun acc => (acc.1, opening.state.tick)

def appliedFromLevels (env : Env) (context : AgentContext) (v : World)
    (assignments : List LevelAssignment) (prereqs : List PrerequisiteRelationship) :
    List CreateRelationshipRequest :=
  ((answered env LevelAssignment.request Outcome.applied v.graph (v.clock + 10) assignments).map
      LevelAssignment.request ++
    (answered env PrerequisiteRelationship.request Outcome.applied v.graph
      (v.clock + 19 + assignments.length) prereqs).map PrerequisiteRelationship.request).filter
    fun r => context.domainGraph.levelIds.contains r.sourceId

/-- What the replies ask for and what becomes of the statements for it: the
confirmed assignments and the merges that took effect reconcile. -/
def RunReconciles (codec : Codec) (tables : DomainArchitectStep.CharTables) (env : Env) (w : World)
    (domainName : String) (description : Option String) : Prop :=
  ∃ context v assignments prereqs,
    distributorStart codec tables env w domainName description = some (context, v) ∧
    assigned codec context env v.clock = some assignments ∧
    requested codec context env (v.clock + 13 + assignments.length) = some prereqs ∧
    Reconciled (answered env LevelAssignment.request Outcome.returnsRow v.graph (v.clock + 10)
        assignments) (appliedFromLevels env context v assignments prereqs)

theorem runWorkflow_parts {w : World} {domainName : String} {description : Option String}
    {result : DomainGenerationResult}
    (h : (env.exec (runWorkflow codec tables domainName description) w.tick.tick).exit =
      .ok result) :
    ∃ context v context₁ context₂,
      distributorStart codec tables env w domainName description = some (context, v) ∧
      (requirementsOf context.domainGraph.levelIds v.graph = [] ∧
        context.domainGraph.levelRequirements = []) ∧
      (env.exec (LevelDistributorStep.execute codec context) v).exit = .ok context₁ ∧
      (env.exec (PrerequisiteMapperStep.execute codec context₁)
        (env.exec (LevelDistributorStep.execute codec context) v).state.tick.tick).exit =
          .ok context₂ ∧
      result.domainGraph = context₂.domainGraph ∧
      (env.exec (runWorkflow codec tables domainName description) w.tick.tick).state.graph =
        (env.exec (PrerequisiteMapperStep.execute codec context₁)
          (env.exec (LevelDistributorStep.execute codec context) v).state.tick.tick).state.graph := by
  have hsplit : allAgents.zipIdx =
      openingAgents ++ [(.levelDistributor, 5), (.prerequisiteMapper, 6)] := rfl
  rw [runWorkflow, exec_bind, exec_send, Execution.andThen_ok, runAgents, hsplit,
    List.foldlM_append, exec_bind, exec_bind] at h ⊢
  dsimp only at h ⊢
  obtain ⟨acc₂, hacc₂, h⟩ := Execution.exit_andThen_eq_ok h
  have hresult : result.domainGraph = acc₂.1.domainGraph := by
    obtain rfl := Exit.ok.inj h
    rfl
  rw [Execution.state_andThen hacc₂]
  obtain ⟨acc, hacc, hlast⟩ := Execution.exit_andThen_eq_ok hacc₂
  rw [Execution.state_andThen hacc]
  rw [List.foldlM_cons, exec_bind] at hlast ⊢
  obtain ⟨acc₁, hacc₁, hlast⟩ := Execution.exit_andThen_eq_ok hlast
  rw [Execution.state_andThen hacc₁]
  rw [List.foldlM_cons, exec_bind] at hlast ⊢
  obtain ⟨acc₃, hacc₃, hlast⟩ := Execution.exit_andThen_eq_ok hlast
  rw [Execution.state_andThen hacc₃]
  obtain rfl := Exit.ok.inj hlast
  obtain ⟨hdistributor, hdistributed⟩ := runAgent_ok hacc₁
  rw [hdistributed] at hacc₃ ⊢
  obtain ⟨hmapper, hmapped⟩ := runAgent_ok hacc₃
  rw [hmapped]
  have hstart : distributorStart codec tables env w domainName description =
      some (acc.1, (env.exec (openingAgents.foldlM (runAgent codec tables)
        (⟨domainName, description, none, {}⟩, {})) w.tick.tick.tick).state.tick) := by
    rw [distributorStart]
    simp only [hacc, Exit.toOption_ok, Option.map_some]
  have hempty : (⟨domainName, description, none, {}⟩ : AgentContext).domainGraph = {} := rfl
  have hunrequired := opening_unrequired codec tables hempty hacc
  rw [← World.tick_graph] at hunrequired
  exact ⟨acc.1, _, acc₁.1, acc₃.1, hstart, hunrequired, hdistributor, hmapper, hresult,
    World.tick_graph _⟩

theorem isRequirement_of_requiresType {componentType type : String}
    (h : requiresType componentType = some type) : requirementTypes.contains type = true := by
  rcases requiresType_eq_some h with ⟨-, rfl⟩ | ⟨-, rfl⟩ | ⟨-, rfl⟩ | ⟨-, rfl⟩ <;> decide

/-- Every merge of the two agents is of a requirement, between nodes that are there. -/
theorem applied_requirements {context : AgentContext} {g : Graph} {clock clock' n n' : Nat}
    {assignments : List LevelAssignment} {prereqs : List PrerequisiteRelationship}
    (hassigned : assigned codec context env clock = some assignments)
    (hrequested : requested codec context env clock' = some prereqs) :
    ∀ r ∈ (answered env LevelAssignment.request Outcome.applied g n assignments).map
        LevelAssignment.request ++ (answered env PrerequisiteRelationship.request Outcome.applied
          g n' prereqs).map PrerequisiteRelationship.request,
      g.HasEnds r.key ∧ IsRequirement r.key = true := by
  intro r hr
  rcases List.mem_append.1 hr with hr | hr
  · obtain ⟨a, ha, rfl⟩ := List.mem_map.1 hr
    refine ⟨hasEnds_of_mem_answered env LevelAssignment.request Outcome.applied ha, ?_⟩
    obtain ⟨relType, hrel⟩ := Option.isSome_iff_exists.1 (assigned_typed hassigned a
      (mem_of_mem_answered env LevelAssignment.request Outcome.applied ha))
    have htype : a.request.relationshipType = relType := by
      rw [LevelAssignment.request, hrel]
      rfl
    rw [IsRequirement, CreateRelationshipRequest.key, htype]
    exact isRequirement_of_requiresType hrel
  · obtain ⟨prereq, hprereq, rfl⟩ := List.mem_map.1 hr
    refine ⟨hasEnds_of_mem_answered env PrerequisiteRelationship.request Outcome.applied hprereq, ?_⟩
    obtain ⟨-, -, componentType, htype⟩ := mem_requested hrequested prereq
      (mem_of_mem_answered env PrerequisiteRelationship.request Outcome.applied hprereq)
    exact isRequirement_of_requiresType htype

/-- After a run that succeeds the list of level requirements is the requirements
of the levels, with what is stored on them, exactly if the confirmed assignments
and the merges that took effect reconcile. -/
theorem generateDomain_listsRequirements_iff (codec : Codec)
    (tables : DomainArchitectStep.CharTables) (env : Env) (w : World) (domainName : String)
    (description : Option String) (result : DomainGenerationResult)
    (h : (env.exec (generateDomain codec tables domainName description) w).exit = .ok result) :
    result.domainGraph.ListsRequirements
        (env.exec (generateDomain codec tables domainName description) w).state.graph ↔
      RunReconciles codec tables env w domainName description := by
  obtain ⟨-, -, hexit, hstate, -⟩ := exec_generateDomain_passes codec tables
    (passesCheck_of_ok codec tables h) domainName description
  rw [hexit] at h
  obtain ⟨context, v, context₁, context₂, hstart, ⟨hnone, hunlisted⟩, hdistributor, hmapper, hresult,
    hgraph⟩ := runWorkflow_parts h
  obtain ⟨assignments, hassigned, rfl, hdistributed⟩ := LevelDistributorStep.execute_ok hdistributor
  obtain ⟨prereqs, hrequested, ⟨hlevels, hlisted⟩, hmapped⟩ :=
    PrerequisiteMapperStep.execute_ok hmapper
  rw [hdistributed] at hrequested hmapped hgraph
  rw [requested_requiring] at hrequested
  let confirmed := answered env LevelAssignment.request Outcome.returnsRow v.graph (v.clock + 10)
    assignments
  let distributed := (answered env LevelAssignment.request Outcome.applied v.graph (v.clock + 10)
    assignments).map LevelAssignment.request
  let required := (answered env PrerequisiteRelationship.request Outcome.applied v.graph
    (v.clock + 19 + assignments.length) prereqs).map PrerequisiteRelationship.request
  have hclock : v.clock + 11 + assignments.length + 1 + 1 = v.clock + 13 + assignments.length := by
    omega
  have hclock' : v.clock + 11 + assignments.length + 1 + 1 + 6 =
      v.clock + 19 + assignments.length := by omega
  have hfinal : (env.exec (generateDomain codec tables domainName description) w).state.graph =
      merges (distributed ++ required) v.graph := by
    rw [hstate, hgraph, hmapped, merges_append]
    simp only [World.tick_graph, World.tick_clock, hclock']
    rw [answered_congr env PrerequisiteRelationship.request Outcome.applied
      (merges_nodeIds distributed v.graph)]
  have hasked : requested codec context env (v.clock + 13 + assignments.length) = some prereqs := by
    rw [← hclock]
    exact hrequested
  have hwrites : ∀ r ∈ distributed ++ required, v.graph.HasEnds r.key ∧ IsRequirement r.key = true :=
    applied_requirements hassigned hasked
  have htyped : ∀ a ∈ confirmed, (requiresType a.componentType).isSome := fun a ha =>
    assigned_typed hassigned a
      (mem_of_mem_answered env LevelAssignment.request Outcome.returnsRow ha)
  have hlist : result.domainGraph.levelRequirements =
      confirmed.map LevelAssignment.requirement := by
    rw [hresult, hlisted]
    change context.domainGraph.levelRequirements ++ _ = _
    rw [hunlisted, List.nil_append]
  have hids : result.domainGraph.levelIds = context.domainGraph.levelIds := by
    rw [hresult, hlevels]
    rfl
  have hmatches := matches_merges_iff hnone (fun r hr => (hwrites r hr).1)
    (fun r hr => (hwrites r hr).2) htyped
  rw [DomainGraphRegistry.ListsRequirements, hlist, hids, hfinal, hmatches]
  constructor
  · intro hreconciled
    exact ⟨context, v, assignments, prereqs, hstart, hassigned, hasked, hreconciled⟩
  · rintro ⟨context', v', assignments', prereqs', hstart', hassigned', hasked', hreconciled⟩
    obtain ⟨rfl, rfl⟩ := Prod.mk.inj (Option.some.inj (hstart.symm.trans hstart'))
    obtain rfl := Option.some.inj (hassigned.symm.trans hassigned')
    obtain rfl := Option.some.inj (hasked.symm.trans hasked')
    exact hreconciled

end Run

theorem openings_listsRequirements_iff : ∃ result : DomainGenerationResult,
    (bracketed.exec (generateDomain (replying ["Openings"] openingsLink) plainTables "Chess" none)
      (World.start emptyGraph)).exit = .ok result ∧
    (result.domainGraph.ListsRequirements (bracketed.exec (generateDomain (replying ["Openings"]
        openingsLink) plainTables "Chess" none) (World.start emptyGraph)).state.graph ↔
      RunReconciles (replying ["Openings"] openingsLink) plainTables bracketed
        (World.start emptyGraph) "Chess" none) := by
  obtain ⟨result, hok⟩ : ∃ result, (bracketed.exec (generateDomain (replying ["Openings"]
    openingsLink) plainTables "Chess" none) (World.start emptyGraph)).exit = .ok result := ⟨_, rfl⟩
  exact ⟨result, hok, generateDomain_listsRequirements_iff _ _ bracketed _ "Chess" none result hok⟩

def openingsTwice : Json :=
  .object [("level_assignments", .array
    [.object [("component", .str "Openings"), ("level", .int 1)],
      .object [("component", .str "Openings"), ("level", .int 1)]]), ("prerequisites", .array [])]

theorem openings_listed_twice :
    ¬ ∀ (codec : Codec) (tables : DomainArchitectStep.CharTables) (env : Env) (w : World)
      (domainName : String) (description : Option String) (result : DomainGenerationResult),
      (env.exec (generateDomain codec tables domainName description) w).exit = .ok result →
        result.domainGraph.ListsRequirements
          (env.exec (generateDomain codec tables domainName description) w).state.graph := by
  intro hall
  let run := bracketed.exec (generateDomain (replying ["Openings"] openingsTwice) plainTables "Chess"
    none) (World.start emptyGraph)
  have hlengths : run.exit.toOption.map (fun result =>
      (result.domainGraph.levelRequirements.length,
        (requirementsOf result.domainGraph.levelIds run.state.graph).length)) = some (8, 4) := by
    decide +kernel
  obtain ⟨result, hok, hlengths⟩ := Option.map_eq_some_iff.1 hlengths
  obtain ⟨hlisted, hstored⟩ := Prod.mk.inj hlengths
  have hlists := hall _ _ bracketed (World.start emptyGraph) "Chess" none result
    (Exit.toOption_eq_some.1 hok)
  have hsame : result.domainGraph.levelRequirements.length =
      (requirementsOf result.domainGraph.levelIds run.state.graph).length := hlists.length_eq
  omega

end AtlasOfUs.Agent
