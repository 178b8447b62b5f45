import AtlasOfUs.Agent.DomainStorage

namespace AtlasOfUs.Agent

open Library GraphApi

/-- The concepts in the order of the four loops, each with the type of its node. -/
def ConceptualizedDomain.tagged (concepts : ConceptualizedDomain) :
    List (Worker.NodeType × ConceptualizedNode) :=
  concepts.knowledge.map (Prod.mk .knowledge) ++ concepts.skills.map (Prod.mk .skill) ++
    concepts.traits.map (Prod.mk .trait) ++ concepts.milestones.map (Prod.mk .milestone)

def AsyncEnv.run {ε α : Type} (async : AsyncEnv) (env : Env) (p : Async ε α) (s : World × Nat) :
    Execution ((services Empty AsyncPrompt).plus asyncCalls) ε α (World × Nat) :=
  Proc.run (env.handler.plus async.handler) p s

def AsyncEnv.calm : AsyncEnv where
  now := id
  nodeQueueConfigured := true
  provider := fun _ => .ok ()
  nodeQueue := fun _ => .ok ()

namespace AsyncGeneration

theorem total_eq (concepts : ConceptualizedDomain) :
    ConceptualizedDomain.total concepts = .ofNat concepts.tagged.length := by
  simp [ConceptualizedDomain.total, ConceptualizedDomain.tagged, Nat.add_assoc]

def Generation.job (generation : Generation) (timestamp : Nat) (sequence : UInt32)
    (entry : Worker.NodeType × ConceptualizedNode) : NodeGenerationJob where
  jobId := "job-" ++ toString timestamp ++ "-" ++ toString sequence
  generationId := generation.generationId
  sequenceNumber := sequence
  totalNodes := generation.totalNodes
  nodeType := entry.1
  nodeName := entry.2.name
  domainName := generation.domainName
  domainDescription := generation.domainDescription
  domainElementId := generation.domainElementId
  domainLevels := generation.domainLevels
  suggestedLevel := entry.2.suggestedLevel

def queued (calls : List (Call ((services Empty AsyncPrompt).plus asyncCalls))) :
    List (NodeGenerationJob × Except String Unit) :=
  calls.filterMap fun call => match call with
    | ⟨.inr (.queueNodeGeneration job), reply⟩ => some (job, reply)
    | _ => none

@[simp] theorem queued_nil : queued [] = [] := rfl

@[simp] theorem queued_append (calls calls' : List (Call ((services Empty AsyncPrompt).plus asyncCalls))) :
    queued (calls ++ calls') = queued calls ++ queued calls' :=
  List.filterMap_append

variable {ε α β : Type} {env : Env} {async : AsyncEnv}

theorem run_bind (p : Async ε α) (f : α → Async ε β) (s : World × Nat) :
    async.run env (p >>= f) s = (async.run env p s).andThen fun a => async.run env (f a) :=
  Proc.run_bind _ p f s

theorem run_mapErr {δ : Type} (f : ε → δ) (p : Async ε α) (s : World × Nat) :
    async.run env (p.mapErr f) s = ⟨(async.run env p s).exit.mapErr f, (async.run env p s).state,
      (async.run env p s).calls⟩ :=
  Proc.run_mapErr _ f p s

theorem run_now (s : World × Nat) :
    async.run env (now : Async ε Nat) s =
      ⟨.ok (async.now s.2), (s.1, s.2 + 1), [⟨.inr .now, async.now s.2⟩]⟩ := rfl

theorem run_isNodeQueueConfigured (s : World × Nat) :
    async.run env (isNodeQueueConfigured : Async ε Bool) s =
      ⟨.ok async.nodeQueueConfigured, (s.1, s.2 + 1),
        [⟨.inr .isNodeQueueConfigured, async.nodeQueueConfigured⟩]⟩ := rfl

theorem queued_extend (p : Rest Empty AsyncPrompt α) (s : World × Nat) :
    queued (async.run env (p.extend asyncCalls) s).calls = [] := by
  rw [AsyncEnv.run, calls_extend, queued, List.filterMap_map]
  exact List.filterMap_eq_nil_iff.2 fun _ _ => rfl

theorem run_mapErr_extend {δ : Type} (f : ServiceError → δ) (p : Rest Empty AsyncPrompt α)
    (s : World × Nat) :
    ∃ calls, async.run env (Proc.mapErr f (p.extend asyncCalls)) s =
        ⟨(env.exec p s.1).exit.mapErr f, ((env.exec p s.1).state, s.2), calls⟩ ∧ queued calls = [] := by
  obtain ⟨hexit, hstate⟩ := run_extend env.handler async.handler p s
  refine ⟨(async.run env (p.extend asyncCalls) s).calls, ?_, queued_extend p s⟩
  rw [run_mapErr, AsyncEnv.run, hexit, hstate]
  rfl

section Loop

variable (env async) (generation : Generation)

def queueEntry (sequence : UInt32) (entry : Worker.NodeType × ConceptualizedNode) : Async ε UInt32 :=
  queueConcept generation entry.1 sequence entry.2

theorem queueConcepts_eq (concepts : ConceptualizedDomain) :
    (queueConcepts generation concepts : Async ε UInt32) =
      concepts.tagged.foldlM (queueEntry generation) 0 := by
  simp only [queueConcepts, ConceptualizedDomain.tagged, List.foldlM_append, List.foldlM_map,
    bind_assoc, queueEntry]

theorem run_queueEntry (sequence : UInt32) (entry : Worker.NodeType × ConceptualizedNode)
    (s : World × Nat) :
    async.run env (queueEntry generation sequence entry : Async ε UInt32) s =
      ⟨.ok (sequence + 1), (s.1, s.2 + 2),
        [⟨.inr .now, async.now s.2⟩,
          ⟨.inr (.queueNodeGeneration (generation.job (async.now s.2) sequence entry)),
            async.nodeQueue (s.2 + 1)⟩]⟩ := rfl

/-- Every concept becomes one job, numbered in the order of the list, whatever the queue replies. -/
theorem run_queueEntries (entries : List (Worker.NodeType × ConceptualizedNode)) (sequence : UInt32)
    (s : World × Nat) :
    ∃ last calls, async.run env (entries.foldlM (queueEntry generation) sequence : Async ε UInt32)
        s = ⟨.ok last, (s.1, s.2 + 2 * entries.length), calls⟩ ∧
      queued calls = entries.mapIdx fun i entry =>
        (generation.job (async.now (s.2 + 2 * i)) (sequence + .ofNat i) entry,
          async.nodeQueue (s.2 + 2 * i + 1)) := by
  induction entries generalizing sequence s with
  | nil => exact ⟨sequence, [], rfl, rfl⟩
  | cons entry entries ih =>
      obtain ⟨last, calls, hrun, hqueued⟩ := ih (sequence + 1) (s.1, s.2 + 2)
      have hend : s.2 + 2 + 2 * entries.length = s.2 + 2 * (entry :: entries).length := by
        rw [List.length_cons]
        omega
      rw [List.foldlM_cons, run_bind, run_queueEntry, Execution.andThen_ok, hrun, hend]
      refine ⟨last, _, rfl, ?_⟩
      rw [queued_append, hqueued, List.mapIdx_cons]
      apply congrArg₂ List.cons
      · simp
      · apply List.mapIdx_eq_mapIdx_iff.2
        intro i hi
        have hclock : s.2 + 2 + 2 * i = s.2 + 2 * (i + 1) := by omega
        have hsequence : sequence + 1 + .ofNat i = sequence + .ofNat (i + 1) := by
          rw [UInt32.ofNat_add, UInt32.add_assoc, UInt32.add_comm (UInt32.ofNat i)]
          rfl
        rw [hclock, hsequence]

end Loop

section Request

variable (codec : AsyncCodec) (tables : DomainArchitectStep.CharTables)
  (request : GenerateDomainRequest) (env : Env) (async : AsyncEnv)

def conceived (provider : Except String Unit) (reply : Except String String) :
    Option ConceptualizedDomain :=
  provider.toOption.bind fun _ => reply.toOption.bind fun response =>
    (codec.concepts (extractJson response)).toOption.map conceptualized

theorem run_conceptualizeAllNodes (domainName : String) (description : Option String)
    (s : World × Nat) :
    ∃ exit w n calls,
      async.run env (conceptualizeAllNodes codec domainName description) s = ⟨exit, (w, n), calls⟩ ∧
        exit.toOption = conceived codec (async.provider s.2) (env.llm s.1.clock) ∧
        w.graph = s.1.graph ∧ queued calls = [] ∧ (exit.toOption.isSome = true → n = s.2 + 1) := by
  have hprovider : async.run env (AsyncGeneration.createProvider : Async String _) s =
      ⟨.ok (async.provider s.2), (s.1, s.2 + 1), [⟨.inr .createProvider, async.provider s.2⟩]⟩ := rfl
  have hgenerate : async.run env ((generate (.conceptualize domainName description) :
        Service Empty AsyncPrompt String _).extend asyncCalls) (s.1, s.2 + 1) =
      ⟨.ok (env.llm s.1.clock), (s.1.tick, s.2 + 1), [⟨.inl (.generate _), env.llm s.1.clock⟩]⟩ := rfl
  rw [conceptualizeAllNodes, run_bind, hprovider, Execution.andThen_ok, conceived]
  cases async.provider s.2 with
  | error e => exact ⟨_, _, _, _, rfl, rfl, rfl, rfl, fun h => by cases h⟩
  | ok _ =>
      dsimp only
      rw [run_bind, hgenerate, Execution.andThen_ok]
      cases env.llm s.1.clock with
      | error e => exact ⟨_, _, _, _, rfl, rfl, rfl, rfl, fun h => by cases h⟩
      | ok response =>
          dsimp only [Except.toOption, Option.bind_some]
          cases codec.concepts (extractJson response) with
          | error e => exact ⟨_, _, _, _, rfl, rfl, rfl, rfl, fun h => by cases h⟩
          | ok concepts => exact ⟨_, _, _, _, rfl, rfl, rfl, rfl, fun _ => rfl⟩

def avatarEnd (env : Env) (clock : Nat) : Nat := if env.queueConfigured then clock + 2 else clock + 1

theorem run_queueAvatar (domainName : String) (domainElementId : ElementId) (s : World × Nat) :
    ∃ w calls,
      async.run env ((queueAvatar tables domainName domainElementId : Service Empty AsyncPrompt
        Handlers.ErrorResponse Unit).extend asyncCalls) s = ⟨.ok (), (w, s.2), calls⟩ ∧
      w.graph = s.1.graph ∧ w.clock = avatarEnd env s.1.clock ∧ queued calls = [] := by
  obtain ⟨outcome, connection, llm, embedding, similar, queueConfigured, queue⟩ := env
  cases queueConfigured with
  | false => exact ⟨_, _, rfl, rfl, rfl, rfl⟩
  | true => exact ⟨_, _, rfl, rfl, rfl, rfl⟩

def started (nanos : Nat) (domainElementId : ElementId) (levels : List Worker.DomainLevelInfo)
    (concepts : ConceptualizedDomain) : Generation where
  generationId := "gen-" ++ toString nanos ++ "-" ++ String.ofList (request.domainName.toList.take 10)
  totalNodes := ConceptualizedDomain.total concepts
  domainName := request.domainName
  domainDescription := request.description
  domainElementId := domainElementId
  domainLevels := levels

def Generation.response (generation : Generation) : AsyncGenerationResponse where
  generationId := generation.generationId
  domainElementId := generation.domainElementId
  domainName := generation.domainName
  totalNodes := generation.totalNodes
  message := "Domain created. " ++ toString generation.totalNodes ++ " nodes queued for generation."

theorem startGeneration_eq :
    startGeneration codec tables request = (do
      let nanos ← now
      let created ← Proc.mapErr
        (fun e => failure 500 "Failed to create domain" (ServiceError.toString codec.toCodec e))
        ((createDomainAndLevels codec.toCodec request.domainName request.description).extend asyncCalls)
      (queueAvatar tables request.domainName created.1).extend asyncCalls
      let concepts ← Proc.mapErr (failure 500 "Failed to conceptualize nodes")
        (conceptualizeAllNodes codec request.domainName request.description)
      let _ ← queueConcepts (started request nanos created.1 created.2 concepts) concepts
      return (started request nanos created.1 created.2 concepts).response) := rfl

def jobsOf (generation : Generation) (clock : Nat) (concepts : ConceptualizedDomain) :
    List (NodeGenerationJob × Except String Unit) :=
  concepts.tagged.mapIdx fun i entry =>
    (generation.job (async.now (clock + 2 * i)) (.ofNat i) entry, async.nodeQueue (clock + 2 * i + 1))

def Starts (clock asyncClock : Nat) (concepts : ConceptualizedDomain) : Prop :=
  Stored env clock ∧
    conceived codec (async.provider (asyncClock + 1)) (env.llm (avatarEnd env (clock + 17))) =
      some concepts

theorem run_startGeneration {s : World × Nat} {concepts : ConceptualizedDomain}
    (h : Starts codec env async s.1.clock s.2 concepts) :
    ∃ levels generation w n calls,
      generation = started request (async.now s.2) s.1.graph.freshId levels concepts ∧
      async.run env (startGeneration codec tables request) s =
        ⟨.ok generation.response, (w, n), calls⟩ ∧
      s.1.graph.nodes <+: w.graph.nodes ∧ Built levelTable [] levels w.graph ∧
      queued calls = jobsOf async generation (s.2 + 2) concepts := by
  obtain ⟨hstored, hconcepts⟩ := h
  obtain ⟨levels, hexit, hclock, hgrown, hbuilt⟩ := (exec_createDomainAndLevels codec.toCodec env
    request.domainName request.description s.1).1 hstored
  obtain ⟨created, hcreated, hcreatedNone⟩ := @run_mapErr_extend _ env async _ (fun e => failure 500
    "Failed to create domain" (ServiceError.toString codec.toCodec e))
    (createDomainAndLevels codec.toCodec request.domainName request.description) (s.1, s.2 + 1)
  obtain ⟨w, avatar, havatar, hgraph, hend, havatarNone⟩ := run_queueAvatar tables env async
    request.domainName s.1.graph.freshId ((env.exec (createDomainAndLevels codec.toCodec
      request.domainName request.description) s.1).state, s.2 + 1)
  obtain ⟨exit, w', n, thought, hthought, hgiven, hgraph', hthoughtNone, hnext⟩ :=
    run_conceptualizeAllNodes codec env async request.domainName request.description (w, s.2 + 1)
  rw [hend, hclock, hconcepts] at hgiven
  obtain rfl := Exit.toOption_eq_some.1 hgiven
  obtain rfl := hnext rfl
  let generation := started request (async.now s.2) s.1.graph.freshId levels concepts
  obtain ⟨last, calls, hqueue, hqueued⟩ := @run_queueEntries Handlers.ErrorResponse env async generation
    concepts.tagged 0 (w', s.2 + 2)
  rw [← queueConcepts_eq] at hqueue
  have hconceived : async.run env (Proc.mapErr (failure 500 "Failed to conceptualize nodes")
      (conceptualizeAllNodes codec request.domainName request.description)) (w, s.2 + 1) =
        ⟨.ok concepts, (w', s.2 + 2), thought⟩ := by
    rw [run_mapErr, hthought]
    rfl
  rw [startGeneration_eq, run_bind, run_now, Execution.andThen_ok, run_bind, hcreated, hexit]
  simp only [Exit.mapErr, Execution.andThen_ok]
  rw [run_bind, havatar, Execution.andThen_ok, run_bind, hconceived, Execution.andThen_ok, run_bind,
    hqueue, Execution.andThen_ok]
  refine ⟨levels, generation, w', _, _, rfl, rfl, ?_, ?_, ?_⟩
  · rwa [hgraph', hgraph]
  · rwa [hgraph', hgraph]
  · have hfirst : queued [⟨.inr .now, async.now s.2⟩] = [] := rfl
    have hlast : queued (async.run env (pure generation.response : Async Handlers.ErrorResponse _)
        (w', s.2 + 2 + 2 * concepts.tagged.length)).calls = [] := rfl
    rw [queued_append, queued_append, queued_append, queued_append, queued_append, hfirst, hcreatedNone,
      havatarNone, hthoughtNone, hqueued, hlast, List.append_nil]
    simp only [List.nil_append, UInt32.zero_add, jobsOf]

theorem run_startGeneration_none {s : World × Nat}
    (h : ∀ concepts, ¬ Starts codec env async s.1.clock s.2 concepts) :
    (async.run env (startGeneration codec tables request) s).exit.toOption = none ∧
      (async.run env (startGeneration codec tables request) s).state.1.graph =
        (env.exec (createDomainAndLevels codec.toCodec request.domainName request.description)
          s.1).state.graph := by
  obtain ⟨created, hcreated, -⟩ := @run_mapErr_extend _ env async _ (fun e => failure 500
    "Failed to create domain" (ServiceError.toString codec.toCodec e))
    (createDomainAndLevels codec.toCodec request.domainName request.description) (s.1, s.2 + 1)
  obtain ⟨hok, hnone⟩ := exec_createDomainAndLevels codec.toCodec env request.domainName
    request.description s.1
  rw [startGeneration_eq, run_bind, run_now, Execution.andThen_ok, run_bind, hcreated]
  by_cases hstored : Stored env s.1.clock
  · obtain ⟨levels, hexit, hclock, -, -⟩ := hok hstored
    obtain ⟨w, avatar, havatar, hgraph, hend, -⟩ := run_queueAvatar tables env async
      request.domainName s.1.graph.freshId ((env.exec (createDomainAndLevels codec.toCodec
        request.domainName request.description) s.1).state, s.2 + 1)
    obtain ⟨exit, w', n, thought, hthought, hgiven, hgraph', -, -⟩ :=
      run_conceptualizeAllNodes codec env async request.domainName request.description (w, s.2 + 1)
    rw [hend, hclock] at hgiven
    have hunconceived : exit.toOption = none := by
      rw [hgiven]
      by_contra hsome
      obtain ⟨concepts, hconcepts⟩ := Option.ne_none_iff_exists'.1 hsome
      exact h concepts ⟨hstored, hconcepts⟩
    have hconceived : async.run env (Proc.mapErr (failure 500 "Failed to conceptualize nodes")
        (conceptualizeAllNodes codec request.domainName request.description)) (w, s.2 + 1) =
          ⟨exit.mapErr (failure 500 "Failed to conceptualize nodes"), (w', n), thought⟩ := by
      rw [run_mapErr, hthought]
    simp only [hexit, Exit.mapErr, Execution.andThen_ok]
    rw [run_bind, havatar, Execution.andThen_ok, run_bind, hconceived]
    cases exit with
    | ok concepts => cases hunconceived
    | err e | panicked => exact ⟨rfl, hgraph'.trans hgraph⟩
  · have hfailed := hnone hstored
    cases hexit : (env.exec (createDomainAndLevels codec.toCodec request.domainName
        request.description) s.1).exit with
    | ok a => simp [hexit] at hfailed
    | err e | panicked => exact ⟨rfl, rfl⟩

end Request

end AsyncGeneration

end AtlasOfUs.Agent
