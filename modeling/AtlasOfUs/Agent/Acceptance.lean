import AtlasOfUs.Agent.Queueing

namespace AtlasOfUs.Agent

open Library GraphApi

namespace AsyncGeneration

section Storing

def Storing : Op Empty AsyncPrompt → Prop
  | .embed _ => True
  | .execute q => ∀ g, g.nodes ⊆ (q g).2.nodes
  | _ => False

abbrev Stores {α : Type} (p : Rest Empty AsyncPrompt α) : Prop :=
  Contract (I := services Empty AsyncPrompt) Storing (fun _ _ => False) p

variable {α β : Type} (codec : Codec)

theorem stores_execute {q : Statement} (hq : ∀ g, g.nodes ⊆ (q g).2.nodes) :
    Stores (execute q : Rest Empty AsyncPrompt _) :=
  Contract.perform hq fun _ => id

theorem stores_createNode (request : CreateNodeRequest) : Stores (createNode codec request false) := by
  refine Contract.bind (Contract.perform trivial fun _ => id) fun embedding => ?_
  cases embedding with
  | error e => trivial
  | ok embedding =>
      refine (stores_execute fun g => ?_).bind fun result => ?_
      · exact List.subset_append_left _ _
      · cases result with
        | error e => trivial
        | ok result => cases h : result.firstRow <;> simp [h, Contract]

theorem stores_createRelationship (request : CreateRelationshipRequest) :
    Stores (createRelationship request) := by
  refine (stores_execute (q := request.statement) fun g => ?_).bind fun result => ?_
  · rw [CreateRelationshipRequest.statement, mergeRelationshipStatement_nodes]
    exact List.Subset.refl _
  · cases result with
    | error e => trivial
    | ok result => cases h : result.firstRow <;> simp [h, Contract]

theorem stores_createLevel (domainId : ElementId) (domainName : String)
    (levels : List Worker.DomainLevelInfo) (entry : UInt8 × String × Int) :
    Stores (createLevel codec domainId domainName levels entry) :=
  (stores_createNode codec _).bind fun _ => (stores_createRelationship _).bind fun _ => trivial

theorem stores_createDomainAndLevels (domainName : String) (description : Option String) :
    Stores (createDomainAndLevels codec domainName description) :=
  (stores_createNode codec _).bind fun _ =>
    (Contract.foldlM _ (fun levels entry _ => stores_createLevel codec _ _ levels entry) _).bind
      fun _ => trivial

variable {codec} (env : Env)

theorem Stores.nodes_subset {p : Rest Empty AsyncPrompt α} (hp : Stores p) (w : World) :
    w.graph.nodes ⊆ (env.exec p w).state.graph.nodes := by
  refine hp.run_invariant (P := fun w' : World => w.graph.nodes ⊆ w'.graph.nodes) (fun o w' ho hw => ?_)
    w (List.Subset.refl _)
  cases o with
  | execute q =>
      change _ ⊆ ((env.outcome w'.clock).after q w'.graph).nodes
      rw [Outcome.after]
      split
      · exact List.Subset.trans hw (ho _)
      · exact hw
  | embed text => exact hw
  | _ => exact ho.elim

theorem nodes_subset_bind {p : Rest Empty AsyncPrompt α} {f : α → Rest Empty AsyncPrompt β}
    (hf : ∀ a, Stores (f a)) (w : World) :
    (env.exec p w).state.graph.nodes ⊆ (env.exec (p >>= f) w).state.graph.nodes := by
  rw [exec_bind]
  cases hexit : (env.exec p w).exit with
  | ok a =>
      rw [Execution.state_andThen hexit]
      exact (hf a).nodes_subset env _
  | err e | panicked =>
      rw [Execution.state_andThen_of_none (by rw [hexit]; rfl)]
      exact List.Subset.refl _

end Storing

section Untouched

variable (codec : Codec) (env : Env) {w : World} (domainName : String)

def NodeLost (env : Env) (clock : Nat) : Prop :=
  (∃ e, env.embedding clock = .error e) ∨ (env.outcome (clock + 1)).applied = false

def Lost (env : Env) (clock : Nat) : Prop :=
  NodeLost env clock ∧ (¬ NodeStored env clock ∨ NodeLost env (clock + 2))

theorem createNode_of_lost (request : CreateNodeRequest) (h : NodeLost env w.clock) :
    (env.exec (createNode codec request false : Rest Empty AsyncPrompt _) w).state.graph =
      w.graph := by
  cases hvector : env.embedding w.clock with
  | error e => rw [(@exec_createNode_unembedded Empty AsyncPrompt codec request env w e hvector).1]; rfl
  | ok vector =>
      rcases h with ⟨e, he⟩ | happ
      · rw [hvector] at he
        cases he
      · rw [(@exec_createNode Empty AsyncPrompt codec request env w vector hvector).1, after_createNode,
          happ]
        rfl

theorem createNode_of_not_lost (request : CreateNodeRequest) (h : ¬ NodeLost env w.clock) :
    ∃ props, (env.exec (createNode codec request false : Rest Empty AsyncPrompt _) w).state.graph =
      w.graph.createNode request.labels props := by
  cases hvector : env.embedding w.clock with
  | error e => exact absurd (.inl ⟨e, hvector⟩) h
  | ok vector =>
      have happ : (env.outcome (w.clock + 1)).applied = true := by
        rw [← Bool.not_eq_false]
        exact fun happ => h (.inr happ)
      rw [(@exec_createNode Empty AsyncPrompt codec request env w vector hvector).1, after_createNode,
        happ]
      exact ⟨_, rfl⟩

theorem link_nodes {α : Type} (request : CreateRelationshipRequest) (a : α) (w : World) :
    (env.exec (createRelationship request >>= fun _ => pure a : Rest Empty AsyncPrompt α)
      w).state.graph.nodes = w.graph.nodes := by
  have hnodes := @createRelationship_nodes Empty AsyncPrompt request env w
  rw [exec_bind]
  cases hexit : (env.exec (createRelationship request : Rest Empty AsyncPrompt _) w).exit with
  | ok result =>
      rw [Execution.state_andThen hexit]
      exact hnodes
  | err e | panicked =>
      rw [Execution.state_andThen_of_none (by rw [hexit]; rfl)]
      exact hnodes

theorem createLevel_nodes (domainId : ElementId) (levels : List Worker.DomainLevelInfo)
    (level : UInt8) (suffix : String) (points : Int) :
    (env.exec (createLevel codec domainId domainName levels (level, suffix, points)) w).state.graph.nodes =
      (env.exec (createNode codec (levelRequest domainName level suffix points) false :
        Rest Empty AsyncPrompt _) w).state.graph.nodes := by
  rw [createLevel, exec_bind]
  cases hexit : (env.exec (createNode codec (levelRequest domainName level suffix points) false :
      Rest Empty AsyncPrompt _) w).exit with
  | err e | panicked => rw [Execution.state_andThen_of_none (by rw [hexit]; rfl)]
  | ok created =>
      rw [Execution.state_andThen hexit]
      exact link_nodes env _ _ _

/-- A request that stores neither its domain nor the first level fails and leaves the nodes as they
were. -/
theorem createDomainAndLevels_of_lost (description : Option String) (h : Lost env w.clock) :
    (env.exec (createDomainAndLevels codec domainName description) w).state.graph.nodes =
      w.graph.nodes := by
  obtain ⟨hlost, hnext⟩ := h
  let request := DomainArchitectStep.domainRequest domainName (description.getD "")
  have hgraph : (env.exec (createNode codec request false : Rest Empty AsyncPrompt _) w).state.graph =
      w.graph := createNode_of_lost codec env request hlost
  rw [createDomainAndLevels, exec_bind]
  by_cases hnode : NodeStored env w.clock
  · obtain ⟨result, vector, hexit, hid, hstate⟩ : ∃ result vector, (env.exec (createNode codec request
        false : Rest Empty AsyncPrompt _) w).exit = .ok result ∧ _ ∧ _ := exec_storedNode hnode
    have hclock := congrArg World.clock hstate
    have hnext := hnext.resolve_left (not_not_intro hnode)
    have hnolevel : ¬ LevelStored env (w.clock + 2) := by
      rintro ⟨⟨⟨vector, hvector⟩, -⟩, happ, -⟩
      rcases hnext with ⟨e, he⟩ | hnot
      · rw [hvector] at he
        cases he
      · rw [happ] at hnot
        cases hnot
    rw [Execution.state_andThen hexit, levelTable, List.foldlM_cons, bind_assoc, exec_bind]
    generalize hw : (env.exec (createNode codec request false : Rest Empty AsyncPrompt _) w).state = w'
      at *
    have hdomain : Expected result.elementId w'.graph := by
      rw [Expected, hgraph, hid]
      exact .inr rfl
    have hclock : w'.clock = w.clock + 2 := hclock
    obtain ⟨-, hnone⟩ := exec_createLevel codec env domainName [] (1, "Novice", 100) hdomain
    rw [Execution.state_andThen_of_none (hnone (by rwa [hclock])), createLevel_nodes,
      createNode_of_lost codec env _ (by rwa [hclock]), hgraph]
  · obtain ⟨e, hexit⟩ : ∃ e, (env.exec (createNode codec request false : Rest Empty AsyncPrompt _)
        w).exit = .err e := exec_unstoredNode hnode
    rw [Execution.state_andThen_err hexit, hgraph]

theorem createDomainAndLevels_of_not_lost (description : Option String) (h : ¬ Lost env w.clock) :
    ∃ node ∈ (env.exec (createDomainAndLevels codec domainName description) w).state.graph.nodes,
      (node.hasLabel "Domain" = true ∨ node.hasLabel "Domain_Level" = true) ∧ node ∉ w.graph.nodes := by
  let request := DomainArchitectStep.domainRequest domainName (description.getD "")
  have hstores : ∀ domain : CreateNodeResult, Stores (do
      let domainLevels ← levelTable.foldlM (createLevel codec domain.elementId domainName) []
      return (domain.elementId, domainLevels)) := by
    intro domain
    exact (Contract.foldlM _ (fun levels entry _ => stores_createLevel codec _ _ levels entry) _).bind
      fun _ => trivial
  have hnew : ∀ labels props, (⟨w.graph.freshId, labels, props⟩ : Node) ∉ w.graph.nodes := by
    intro labels props hmem
    exact w.graph.freshId_notMem_nodeIds (List.mem_map_of_mem hmem)
  by_cases hlost : NodeLost env w.clock
  · have hnode : NodeStored env w.clock := by
      by_contra hnot
      exact h ⟨hlost, .inl hnot⟩
    have hlevel : ¬ NodeLost env (w.clock + 2) := fun hnext => h ⟨hlost, .inr hnext⟩
    obtain ⟨result, vector, hexit, -, hstate⟩ : ∃ result vector, (env.exec (createNode codec request
        false : Rest Empty AsyncPrompt _) w).exit = .ok result ∧ _ ∧ _ := exec_storedNode hnode
    have hgraph := createNode_of_lost codec env request hlost
    have hclock := congrArg World.clock hstate
    rw [createDomainAndLevels, exec_bind, Execution.state_andThen hexit, levelTable, List.foldlM_cons,
      bind_assoc]
    generalize (env.exec (createNode codec request false : Rest Empty AsyncPrompt _) w).state = w'
      at *
    have hclock : w'.clock = w.clock + 2 := hclock
    rw [← hclock] at hlevel
    obtain ⟨props, hcreated⟩ := createNode_of_not_lost codec env
      (levelRequest domainName 1 "Novice" 100) hlevel
    have hrest : ∀ levels, Stores (do
        let domainLevels ← [(2, "Developing", 200), (3, "Competent", 400), (4, "Advanced", 700),
          (5, "Master", 1000)].foldlM (createLevel codec result.elementId domainName) levels
        return (result.elementId, domainLevels)) := by
      intro levels
      exact (Contract.foldlM _ (fun levels entry _ => stores_createLevel codec _ _ levels entry) _).bind
        fun _ => trivial
    refine ⟨⟨w.graph.freshId, ["Domain_Level"], props⟩, nodes_subset_bind env hrest w' ?_, .inr rfl,
      hnew _ _⟩
    rw [createLevel_nodes, hcreated, hgraph]
    exact List.mem_append_right _ (List.mem_singleton_self _)
  · obtain ⟨props, hgraph⟩ := createNode_of_not_lost codec env request hlost
    refine ⟨⟨w.graph.freshId, ["Domain"], props⟩, nodes_subset_bind env hstores w ?_, .inl rfl,
      hnew _ _⟩
    rw [hgraph]
    exact List.mem_append_right _ (List.mem_singleton_self _)

theorem Stored.not_lost {clock : Nat} (h : Stored env clock) : ¬ Lost env clock := by
  rintro ⟨-, hnot | hlost⟩
  · exact hnot h.1
  · obtain ⟨⟨⟨vector, hvector⟩, -⟩, happ, -⟩ := h.2 0 (by decide)
    rcases hlost with ⟨e, he⟩ | hnot
    · exact absurd (hvector.symm.trans he) (by simp)
    · exact absurd (happ.symm.trans hnot) (by simp)

end Untouched

section Answer

def Queues : ((services Empty AsyncPrompt).plus asyncCalls).Op → Prop
  | .inl (.queueImageGeneration _) | .inr (.queueNodeGeneration _) => True
  | _ => False

def delivered (generationId : String)
    (calls : List (Call ((services Empty AsyncPrompt).plus asyncCalls))) : List NodeGenerationJob :=
  ((queued calls).filter fun sent =>
    sent.2.toOption.isSome && sent.1.generationId = generationId).map Prod.fst

/-- An answer that announces `n` nodes stands for `n` jobs in the queue, a failure for a request
that left nothing behind. -/
def AllOrNothing (g : Graph) (run : Execution ((services Empty AsyncPrompt).plus asyncCalls)
    Handlers.ErrorResponse AsyncGenerationResponse (World × Nat)) : Prop :=
  match run.exit with
  | .ok response => (delivered response.generationId run.calls).length = response.totalNodes.toNat
  | .err _ | .panicked =>
      (∀ node ∈ run.state.1.graph.nodes,
        node.hasLabel "Domain" = true ∨ node.hasLabel "Domain_Level" = true → node ∈ g.nodes) ∧
      ∀ call ∈ run.calls, ¬ Queues call.1

def failedSends (async : AsyncEnv) (clock n : Nat) : Nat :=
  (List.range n).countP fun i => !(async.nodeQueue (clock + 2 * i + 1)).toOption.isSome

theorem countP_mapIdx {α β : Type} {f : Nat → α → β} {p : β → Bool} {q : Nat → Bool}
    (h : ∀ i a, p (f i a) = q i) (xs : List α) :
    (xs.mapIdx f).countP p = (List.range xs.length).countP q := by
  induction xs using List.reverseRecOn with
  | nil => rfl
  | append_singleton xs x ih =>
      rw [List.mapIdx_concat, List.length_append, List.length_singleton, List.range_succ,
        List.countP_append, List.countP_append, ih, List.countP_singleton, List.countP_singleton, h]

variable {env : Env} {async : AsyncEnv}

theorem delivered_jobsOf (generation : Generation) (clock : Nat) (concepts : ConceptualizedDomain)
    {calls : List (Call ((services Empty AsyncPrompt).plus asyncCalls))}
    (h : queued calls = jobsOf async generation clock concepts) :
    (delivered generation.generationId calls).length + failedSends async clock concepts.tagged.length =
      concepts.tagged.length := by
  have hcount := countP_mapIdx (p := fun sent : NodeGenerationJob × Except String Unit =>
      sent.2.toOption.isSome && sent.1.generationId = generation.generationId)
    (q := fun i => (async.nodeQueue (clock + 2 * i + 1)).toOption.isSome)
    (f := fun i entry => (generation.job (async.now (clock + 2 * i)) (.ofNat i) entry,
      async.nodeQueue (clock + 2 * i + 1))) (fun i entry => by simp [Generation.job]) concepts.tagged
  rw [delivered, h, jobsOf, List.length_map, ← List.countP_eq_length_filter, hcount, failedSends]
  have hsplit := List.length_eq_countP_add_countP (l := List.range concepts.tagged.length)
    (fun i => (async.nodeQueue (clock + 2 * i + 1)).toOption.isSome)
  rw [List.length_range] at hsplit
  refine Eq.trans ?_ hsplit.symm
  apply congrArg
  exact List.countP_congr fun i _ => by simp

variable (env) (codec : AsyncCodec) (tables : DomainArchitectStep.CharTables)
  (request : GenerateDomainRequest) (g : Graph)

def Admitted (async : AsyncEnv) (request : GenerateDomainRequest) : Prop :=
  request.isValid = true ∧ async.nodeQueueConfigured = true

theorem run_admitted (h : Admitted async request) :
    ∃ first, ¬ Queues first.1 ∧ queued [first] = [] ∧
      execAsync env async (generateDomainAsync codec tables request) g =
        ⟨(async.run env (startGeneration codec tables request) (World.start g, 1)).exit,
          (async.run env (startGeneration codec tables request) (World.start g, 1)).state,
          first :: (async.run env (startGeneration codec tables request) (World.start g, 1)).calls⟩ := by
  obtain ⟨hvalid, hconfigured⟩ := h
  refine ⟨⟨.inr .isNodeQueueConfigured, async.nodeQueueConfigured⟩, id, rfl, ?_⟩
  have hexec : execAsync env async (generateDomainAsync codec tables request) g =
      async.run env (generateDomainAsync codec tables request) (World.start g, 0) := rfl
  rw [hexec, generateDomainAsync, hvalid, Bool.not_true, if_neg Bool.false_ne_true, run_bind,
    run_isNodeQueueConfigured, Execution.andThen_ok, hconfigured, if_pos rfl]
  rfl

theorem run_not_admitted (h : ¬ Admitted async request) :
    ∃ e w calls, execAsync env async (generateDomainAsync codec tables request) g =
      ⟨.err e, w, calls⟩ ∧ w.1.graph = g ∧ ∀ call ∈ calls, ¬ Queues call.1 := by
  have hexec : execAsync env async (generateDomainAsync codec tables request) g =
      async.run env (generateDomainAsync codec tables request) (World.start g, 0) := rfl
  rw [hexec, generateDomainAsync]
  cases hvalid : request.isValid with
  | false => exact ⟨_, _, _, rfl, rfl, by simp⟩
  | true =>
      have hconfigured : async.nodeQueueConfigured = false := by
        rw [← Bool.not_eq_true]
        exact fun hconfigured => h ⟨hvalid, hconfigured⟩
      rw [Bool.not_true, if_neg Bool.false_ne_true, run_bind, run_isNodeQueueConfigured,
        Execution.andThen_ok, hconfigured, if_neg Bool.false_ne_true]
      refine ⟨_, _, _, rfl, rfl, fun call hcall => ?_⟩
      obtain rfl := List.mem_singleton.1 hcall
      exact id

theorem quiet_startGeneration {s : World × Nat} (h : ¬ Stored env s.1.clock) :
    ∀ call ∈ (async.run env (startGeneration codec tables request) s).calls, ¬ Queues call.1 := by
  let created := createDomainAndLevels codec.toCodec request.domainName request.description
  have hfailed : (async.run env (Proc.mapErr (fun e => failure 500 "Failed to create domain"
      (ServiceError.toString codec.toCodec e)) (created.extend asyncCalls)) (s.1, s.2 + 1)).exit.toOption =
        none := by
    rw [run_mapErr, Exit.toOption_mapErr, AsyncEnv.run, (run_extend _ _ created _).1]
    exact (exec_createDomainAndLevels codec.toCodec env request.domainName request.description s.1).2 h
  rw [startGeneration_eq, run_bind, run_now, Execution.andThen_ok, run_bind,
    Execution.calls_andThen_of_none hfailed, run_mapErr, AsyncEnv.run, calls_extend]
  intro call hcall
  rcases List.mem_append.1 hcall with hfirst | hcreated
  · obtain rfl := List.mem_singleton.1 hfirst
    exact id
  · obtain ⟨call, hmem, rfl⟩ := List.mem_map.1 hcreated
    have hstoring := (stores_createDomainAndLevels codec.toCodec request.domainName
      request.description).calls_allowed env.handler s.1 call hmem
    obtain ⟨o, reply⟩ := call
    cases o with
    | queueImageGeneration job => exact hstoring.elim
    | _ => exact id

/-- The request is accepted and no more sends fail than the 32 bits of the total lose, below `2 ^ 32`
concepts none, or nothing of the domain is stored. -/
def Honored (codec : AsyncCodec) (env : Env) (async : AsyncEnv) (request : GenerateDomainRequest) :
    Prop :=
  (∃ concepts, Admitted async request ∧ Starts codec env async 0 1 concepts ∧
    failedSends async 3 concepts.tagged.length = 2 ^ 32 * (concepts.tagged.length / 2 ^ 32)) ∨
  ¬ Admitted async request ∨ Lost env 0

theorem allOrNothing_ok {response : AsyncGenerationResponse} {w : World × Nat}
    {calls : List (Call ((services Empty AsyncPrompt).plus asyncCalls))} :
    AllOrNothing g ⟨.ok response, w, calls⟩ ↔
      (delivered response.generationId calls).length = response.totalNodes.toNat := Iff.rfl

theorem allOrNothing_none {exit : Exit Handlers.ErrorResponse AsyncGenerationResponse} {w : World × Nat}
    {calls : List (Call ((services Empty AsyncPrompt).plus asyncCalls))} (h : exit.toOption = none) :
    AllOrNothing g ⟨exit, w, calls⟩ ↔
      (∀ node ∈ w.1.graph.nodes,
        node.hasLabel "Domain" = true ∨ node.hasLabel "Domain_Level" = true → node ∈ g.nodes) ∧
      ∀ call ∈ calls, ¬ Queues call.1 := by
  cases exit with
  | ok response => cases h
  | err e | panicked => rfl

/-- Accepted, the request is honest where no send fails, up to what the total loses. -/
theorem allOrNothing_starts {concepts : ConceptualizedDomain} (h : Admitted async request)
    (hstarts : Starts codec env async 0 1 concepts) :
    AllOrNothing g (execAsync env async (generateDomainAsync codec tables request) g) ↔
      failedSends async 3 concepts.tagged.length = 2 ^ 32 * (concepts.tagged.length / 2 ^ 32) := by
  obtain ⟨first, -, hfirst, hrun⟩ := run_admitted env codec tables request g h
  obtain ⟨levels, generation, w, n, calls, hgeneration, hstarted, -, -, hqueued⟩ :=
    run_startGeneration codec tables request env async (s := (World.start g, 1)) hstarts
  have hqueued : queued (first :: calls) = jobsOf async generation 3 concepts := by
    rw [← List.singleton_append, queued_append, hfirst, hqueued]
    rfl
  have htotal : generation.totalNodes.toNat = concepts.tagged.length % 2 ^ 32 := by
    rw [hgeneration, started, total_eq, UInt32.toNat_ofNat']
  have hsplit := delivered_jobsOf generation 3 concepts hqueued
  have hlost := Nat.div_add_mod concepts.tagged.length (2 ^ 32)
  rw [hrun, hstarted, allOrNothing_ok]
  change (delivered generation.generationId (first :: calls)).length = generation.totalNodes.toNat ↔ _
  omega

/-- Refused, the request leaves nothing behind where the domain and its first level are lost. -/
theorem allOrNothing_not_starts (h : Admitted async request)
    (hstarts : ∀ concepts, ¬ Starts codec env async 0 1 concepts) :
    AllOrNothing g (execAsync env async (generateDomainAsync codec tables request) g) ↔ Lost env 0 := by
  obtain ⟨first, hquiet, -, hrun⟩ := run_admitted env codec tables request g h
  obtain ⟨hnone, hgraph⟩ :=
    run_startGeneration_none codec tables request env async (s := (World.start g, 1)) hstarts
  rw [hrun, allOrNothing_none g hnone, hgraph]
  constructor
  · rintro ⟨hnodes, -⟩
    by_contra hkept
    obtain ⟨node, hmem, hlabel, hnew⟩ := createDomainAndLevels_of_not_lost codec.toCodec env
      request.domainName request.description (w := World.start g) hkept
    exact hnew (hnodes node hmem hlabel)
  · intro hlost
    constructor
    · intro node hmem _
      rwa [createDomainAndLevels_of_lost codec.toCodec env request.domainName request.description
        (w := World.start g) hlost] at hmem
    · intro call hcall
      rcases List.mem_cons.1 hcall with rfl | hcall
      · exact hquiet
      · exact quiet_startGeneration env codec tables request (fun hstored => hstored.not_lost env hlost) call hcall

/-- The endpoint is honest and all-or-nothing exactly where the request is accepted and every job is
sent, or where it is turned down before the first write. -/
theorem allOrNothing_iff :
    AllOrNothing g (execAsync env async (generateDomainAsync codec tables request) g) ↔
      Honored codec env async request := by
  by_cases hadmitted : Admitted async request
  · by_cases hstarts : ∃ concepts, Starts codec env async 0 1 concepts
    · obtain ⟨concepts, hstarts⟩ := hstarts
      rw [allOrNothing_starts env codec tables request g hadmitted hstarts]
      constructor
      · exact fun hsends => .inl ⟨concepts, hadmitted, hstarts, hsends⟩
      · rintro (⟨concepts', -, hstarts', hsends⟩ | hnot | hlost)
        · obtain rfl := Option.some.inj (hstarts.2.symm.trans hstarts'.2)
          exact hsends
        · exact absurd hadmitted hnot
        · exact absurd hlost (hstarts.1.not_lost env)
    · rw [allOrNothing_not_starts env codec tables request g hadmitted fun concepts h => hstarts ⟨concepts, h⟩]
      constructor
      · exact fun hlost => .inr (.inr hlost)
      · rintro (⟨concepts, -, h, -⟩ | hnot | hlost)
        · exact absurd ⟨concepts, h⟩ hstarts
        · exact absurd hadmitted hnot
        · exact hlost
  · obtain ⟨e, w, calls, hrun, hgraph, hquiet⟩ :=
      run_not_admitted env codec tables request g hadmitted
    rw [hrun, allOrNothing_none g rfl]
    refine ⟨fun _ => .inr (.inl hadmitted), fun _ => ⟨?_, hquiet⟩⟩
    rw [hgraph]
    exact fun node hmem _ => hmem

def scalesCodec : AsyncCodec where
  value := fun _ => .error "expected value"
  strings := fun _ => .error "expected value"
  float := fun _ => ""
  concepts := fun _ => .ok ⟨[], [⟨"Scales", some 1⟩], [], []⟩
  violations := fun _ => ""

theorem stored_calm : Stored Env.calm 0 :=
  ⟨⟨⟨[], rfl⟩, rfl⟩, fun _ _ => ⟨⟨⟨[], rfl⟩, rfl⟩, rfl, rfl⟩⟩

/-- One node is announced and none is queued, or the language model fails and the domain stays. -/
theorem piano_half_accepted :
    ¬ AllOrNothing emptyGraph (execAsync Env.calm { AsyncEnv.calm with nodeQueue := fun _ => .error "timeout" }
      (generateDomainAsync scalesCodec ⟨id, fun _ => true⟩ ⟨"Piano", none⟩) emptyGraph) ∧
    ¬ AllOrNothing emptyGraph (execAsync { Env.calm with llm := fun _ => .error "overloaded" } AsyncEnv.calm
      (generateDomainAsync scalesCodec ⟨id, fun _ => true⟩ ⟨"Piano", none⟩) emptyGraph) := by
  have hvalid : (GenerateDomainRequest.mk "Piano" none).isValid = true := by decide +kernel
  constructor
  · have hstarts : Starts scalesCodec Env.calm { AsyncEnv.calm with nodeQueue := fun _ => .error "timeout" }
        0 1 ⟨[], [⟨"Scales", some 1⟩], [], []⟩ := ⟨stored_calm, rfl⟩
    rw [allOrNothing_starts _ _ _ _ _ ⟨hvalid, rfl⟩ hstarts]
    decide
  · rw [allOrNothing_not_starts _ _ _ _ _ ⟨hvalid, rfl⟩ fun concepts h => by cases h.2]
    rintro ⟨⟨e, he⟩ | hnot, -⟩
    · cases he
    · cases hnot

end Answer

end AsyncGeneration

end AtlasOfUs.Agent
