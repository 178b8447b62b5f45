import AtlasOfUs.Agent.Acceptance
import AtlasOfUs.JobMessages
import AtlasOfUs.Worker.Placement

namespace AtlasOfUs

open Library Agent Agent.AsyncGeneration Worker

/-- The bodies of the messages that the queue took, in the order of the sends. -/
def bodies (stringify : Json → String) (createdAt : Agent.NodeGenerationJob → String)
    (calls : List (Call ((services Empty AsyncPrompt).plus asyncCalls))) : List String :=
  ((queued calls).filter fun sent => sent.2.toOption.isSome).map fun sent =>
    stringify (sent.1.toJson (createdAt sent.1))

/-- The serializer of one service and the parser of the other agree on the jobs of a run. -/
def ReadsBack (stringify : Json → String) (parse : String → Except String Json)
    (createdAt : Agent.NodeGenerationJob → String)
    (calls : List (Call ((services Empty AsyncPrompt).plus asyncCalls))) : Prop :=
  ∀ sent ∈ queued calls, parse (stringify (sent.1.toJson (createdAt sent.1))) =
    .ok (sent.1.toJson (createdAt sent.1))

def messages (createdAt : Agent.NodeGenerationJob → String)
    (calls : List (Call ((services Empty AsyncPrompt).plus asyncCalls))) : List NodeGenerationMessage :=
  (queued calls).map fun sent => sent.1.message (createdAt sent.1)

/-- The edge places a concept: its type is that of the concept's node, and it leaves a level of the
domain that has the number of the concept. -/
def PlacedAt (g : Graph) (message : NodeGenerationMessage) (e : Edge) : Prop :=
  e.type = message.nodeType.levelRelationship ∧
    ∃ level ∈ message.domainLevels, ∃ node ∈ g.nodes, e.source = level.elementId ∧
      node.id = e.source ∧ node.hasLabel "Domain_Level" = true ∧
      node.props "level" = some (.int (max 1 (min 5 (message.suggestedLevel.getD 3).toNat) : Nat))

variable {stringify : Json → String} {parse : String → Except String Json}
  {createdAt : Agent.NodeGenerationJob → String}

theorem job_bodies {calls : List (Call ((services Empty AsyncPrompt).plus asyncCalls))}
    (hreads : ReadsBack stringify parse createdAt calls)
    (hsent : ∀ sent ∈ queued calls, sent.2.toOption.isSome = true) (codec : WorkerCodec)
    (complaint : Json → String) :
    (bodies stringify createdAt calls).map
        (fun body => (SqsRecord.mk (some body)).job (codec.reading parse complaint)) =
      (messages createdAt calls).map fun message => some message.toNodeGenerationJob := by
  rw [bodies, messages, List.filter_eq_self.2 hsent, List.map_map, List.map_map]
  apply List.map_congr_left
  intro sent hmem
  have hjob := job_reading (createdAt sent.1) sent.1 (hreads sent hmem) codec complaint
  simp only [Function.comp_apply, SqsRecord.job, Option.bind_some, hjob]
  rfl

variable (codec : AsyncCodec) (tables : DomainArchitectStep.CharTables)
  (request : GenerateDomainRequest) (env : Env) (async : AsyncEnv) (g : Graph)

/-- The run of an accepted request: the concepts of the language model and what is queued for them. -/
theorem run_accepted {response : AsyncGenerationResponse}
    (hok : (execAsync env async (generateDomainAsync codec tables request) g).exit = .ok response) :
    ∃ concepts levels generation,
      conceived codec (async.provider 2) (env.llm (avatarEnd env 17)) = some concepts ∧
      generation = started request (async.now 1) g.freshId levels concepts ∧
      Built levelTable [] levels
        (execAsync env async (generateDomainAsync codec tables request) g).state.1.graph ∧
      queued (execAsync env async (generateDomainAsync codec tables request) g).calls =
        jobsOf async generation 3 concepts := by
  by_cases hadmitted : Admitted async request
  · obtain ⟨first, -, hfirst, hrun⟩ := run_admitted env codec tables request g hadmitted
    rw [hrun] at hok ⊢
    by_cases hstarts : ∃ concepts, Starts codec env async 0 1 concepts
    · obtain ⟨concepts, hstarts⟩ := hstarts
      obtain ⟨levels, generation, w, n, calls, hgeneration, hstarted, -, hbuilt, hqueued⟩ :=
        run_startGeneration codec tables request env async (s := (World.start g, 1)) hstarts
      refine ⟨concepts, levels, generation, hstarts.2, hgeneration, ?_, ?_⟩
      · rw [hstarted]
        exact hbuilt
      · rw [hstarted, ← List.singleton_append, queued_append, hfirst, hqueued]
        rfl
    · obtain ⟨hnone, -⟩ := run_startGeneration_none codec tables request env async
        (s := (World.start g, 1)) fun concepts h => hstarts ⟨concepts, h⟩
      rw [hok] at hnone
      cases hnone
  · obtain ⟨e, w, calls, hrun, -, -⟩ := run_not_admitted env codec tables request g hadmitted
    rw [hrun] at hok
    cases hok

theorem numbers_mapIdx {generation : Generation} {concepts : ConceptualizedDomain} {clock : Nat}
    (hfew : concepts.tagged.length < 2 ^ 32)
    {calls : List (Call ((services Empty AsyncPrompt).plus asyncCalls))}
    (h : queued calls = jobsOf async generation clock concepts) :
    ((messages createdAt calls).map fun message => (message.sequenceNumber.toNat, message.nodeType,
        message.nodeName, message.suggestedLevel)) =
      concepts.tagged.mapIdx fun i entry => (i, entry.1, entry.2.name, entry.2.suggestedLevel) := by
  rw [messages, h, jobsOf, List.map_map]
  apply Eq.symm
  apply List.mapIdx_eq_iff.2
  intro i
  rw [List.getElem?_map, List.getElem?_mapIdx]
  cases hentry : concepts.tagged[i]? with
  | none => rfl
  | some entry =>
      have hi : i < concepts.tagged.length := (List.getElem?_eq_some_iff.1 hentry).1
      have hsequence : (UInt32.ofNat i).toNat = i := by
        rw [UInt32.toNat_ofNat', Nat.mod_eq_of_lt (hi.trans hfew)]
      simp [NodeGenerationJob.message, Generation.job, hsequence]

theorem levels_messages {generation : Generation} {concepts : ConceptualizedDomain} {clock : Nat}
    {calls : List (Call ((services Empty AsyncPrompt).plus asyncCalls))}
    (h : queued calls = jobsOf async generation clock concepts) :
    ∀ message ∈ messages createdAt calls, message.domainLevels = generation.domainLevels := by
  intro message hmem
  obtain ⟨sent, hsent, rfl⟩ := List.mem_map.1 hmem
  rw [h, jobsOf, List.mem_mapIdx] at hsent
  obtain ⟨i, hi, rfl⟩ := hsent
  rfl

theorem labelled_of_levelNode {g : Graph} {level : DomainLevelInfo} (h : LevelNode g level) :
    g.labelled "Domain_Level" level.elementId = true := by
  obtain ⟨node, hmem, hid, hlabel, -⟩ := h
  exact List.any_eq_true.2 ⟨node, hmem, by rw [hid, hlabel]; simp⟩

theorem placedAt_of_places {g : Graph} {message : NodeGenerationMessage} {e : Edge}
    (hlevels : ∀ level ∈ message.domainLevels, LevelNode g level)
    (h : Places message.toNodeGenerationJob e) : PlacedAt g message e := by
  obtain ⟨htype, level, hlevel, hnumber, hsource⟩ := h
  obtain ⟨node, hmem, hid, hlabel, hprop⟩ := hlevels level hlevel
  exact ⟨htype, level, hlevel, node, hmem, hsource, hid.trans hsource.symm, hlabel, by rw [hprop, hnumber]⟩

theorem forall₂_placedAt {g : Graph} {order : List (Env × NodeGenerationMessage)} {gained : List Edge}
    (hlevels : ∀ handled ∈ order, ∀ level ∈ handled.2.domainLevels, LevelNode g level)
    (h : List.Forall₂ (fun handled e => Places handled.2.toNodeGenerationJob e) order gained) :
    List.Forall₂ (fun handled e => PlacedAt g handled.2 e) order gained := by
  induction h with
  | nil => exact .nil
  | cons hfirst _ ih =>
      obtain ⟨hlevel, hrest⟩ := List.forall_mem_cons.1 hlevels
      exact .cons (placedAt_of_places hlevel hfirst) (ih hrest)

variable (workerCodec : WorkerCodec) (config : Config) (complaint : Json → String)

/-- The messages of an accepted request are read as one job for each concept, numbered from zero, and
when the processors have handled them in any order the levels have gained one edge for each: of the
type of its node, from the level of its number. -/
theorem pipeline_places {response : AsyncGenerationResponse}
    (hok : (execAsync env async (generateDomainAsync codec tables request) g).exit = .ok response)
    (hsends : ∀ n, async.nodeQueue n = .ok ())
    (hfew : ∀ concepts, conceived codec (async.provider 2) (env.llm (avatarEnd env 17)) = some concepts →
      concepts.tagged.length < 2 ^ 32)
    (hreads : ReadsBack stringify parse createdAt
      (execAsync env async (generateDomainAsync codec tables request) g).calls)
    {g₁ g₂ : Graph} {order : List (Env × NodeGenerationMessage)} {results : List NodeGenerationResult}
    (horder : (order.map Prod.snd).Perm (messages createdAt
      (execAsync env async (generateDomainAsync codec tables request) g).calls))
    (hlevels : ∀ handled ∈ order, ∀ level ∈ handled.2.domainLevels, LevelNode g₁ level)
    (hhandled : Handled (workerCodec.reading parse complaint) config g₁
      (order.map fun handled => ⟨handled.1, handled.2.toNodeGenerationJob⟩) results g₂) :
    ∃ concepts, conceived codec (async.provider 2) (env.llm (avatarEnd env 17)) = some concepts ∧
      (bodies stringify createdAt
          (execAsync env async (generateDomainAsync codec tables request) g).calls).map
          (fun body => (SqsRecord.mk (some body)).job (workerCodec.reading parse complaint)) =
        (messages createdAt (execAsync env async (generateDomainAsync codec tables request) g).calls).map
          (fun message => some message.toNodeGenerationJob) ∧
      ((messages createdAt (execAsync env async (generateDomainAsync codec tables request) g).calls).map
          fun message => (message.sequenceNumber.toNat, message.nodeType, message.nodeName,
            message.suggestedLevel)) =
        concepts.tagged.mapIdx (fun i entry => (i, entry.1, entry.2.name, entry.2.suggestedLevel)) ∧
      (∀ message ∈ messages createdAt
          (execAsync env async (generateDomainAsync codec tables request) g).calls,
        ∀ level ∈ message.domainLevels,
          LevelNode (execAsync env async (generateDomainAsync codec tables request) g).state.1.graph level) ∧
      ∃ gained, g₂.edgesLeaving "Domain_Level" = g₁.edgesLeaving "Domain_Level" ++ gained ∧
        List.Forall₂ (fun handled e => PlacedAt g₁ handled.2 e) order gained ∧
        List.Forall₂ (fun result (e : Edge) => result.elementId = some e.target) results gained := by
  obtain ⟨concepts, levels, generation, hconcepts, hgeneration, hbuilt, hqueued⟩ :=
    run_accepted codec tables request env async g hok
  have hsent : ∀ sent ∈ queued (execAsync env async (generateDomainAsync codec tables request) g).calls,
      sent.2.toOption.isSome = true := by
    intro sent hmem
    rw [hqueued, jobsOf, List.mem_mapIdx] at hmem
    obtain ⟨i, hi, rfl⟩ := hmem
    rw [hsends]
    rfl
  have hdomain : ∀ message ∈ messages createdAt
      (execAsync env async (generateDomainAsync codec tables request) g).calls,
        message.domainLevels = levels := by
    intro message hmem
    rw [levels_messages async hqueued message hmem, hgeneration]
    rfl
  have hready : ∀ delivery ∈ order.map fun handled => Worker.Delivery.mk handled.1 handled.2.toNodeGenerationJob,
      LevelsReady delivery.job g₁ := by
    intro delivery hmem
    obtain ⟨handled, hhandled, rfl⟩ := List.mem_map.1 hmem
    have hmessage := horder.subset (List.mem_map_of_mem hhandled)
    refine ⟨?_, fun level hlevel => labelled_of_levelNode (hlevels handled hhandled level hlevel)⟩
    change handled.2.domainLevels.map (·.level) = _
    rw [hdomain _ hmessage, hbuilt.numbers]
    rfl
  obtain ⟨gained, hgained, hplaces, htargets⟩ := hhandled.places hready
  rw [List.forall₂_map_left_iff] at hplaces
  refine ⟨concepts, hconcepts, job_bodies hreads hsent workerCodec complaint,
    numbers_mapIdx async (hfew concepts hconcepts) hqueued, ?_, gained, hgained,
    forall₂_placedAt hlevels hplaces, htargets⟩
  intro message hmem level hlevel
  rw [hdomain message hmem] at hlevel
  exact (hbuilt.nodes level hlevel).resolve_left List.not_mem_nil

section Piano

def pianoRun : Execution ((services Empty AsyncPrompt).plus asyncCalls) GraphApi.Handlers.ErrorResponse
    AsyncGenerationResponse (World × Nat) :=
  execAsync Env.calm .calm (generateDomainAsync scalesCodec ⟨id, fun _ => true⟩ ⟨"Piano", none⟩) emptyGraph

def scalesJob : Agent.NodeGenerationJob where
  jobId := "job-3-0"
  generationId := "gen-1-Piano"
  sequenceNumber := 0
  totalNodes := 1
  nodeType := .skill
  nodeName := "Scales"
  domainName := "Piano"
  domainDescription := none
  domainElementId := candidateId 0
  domainLevels := [⟨1, "Piano Novice", candidateId 1⟩, ⟨2, "Piano Developing", candidateId 3⟩,
    ⟨3, "Piano Competent", candidateId 5⟩, ⟨4, "Piano Advanced", candidateId 7⟩,
    ⟨5, "Piano Master", candidateId 9⟩]
  suggestedLevel := some 1

theorem queued_pianoRun : queued pianoRun.calls = [(scalesJob, .ok ())] := by decide +kernel

def scalesMessage : NodeGenerationMessage := scalesJob.message "1700000000"

mutual

def compact : Json → String
  | .null => "null"
  | .bool b => if b then "true" else "false"
  | .int i => toString i
  | .float q => toString q
  | .str s => "\"" ++ s ++ "\""
  | .array vs => "[" ++ compactItems vs ++ "]"
  | .object fields => "\x7b" ++ compactFields fields ++ "\x7d"

def compactItems : List Json → String
  | [] => ""
  | [v] => compact v
  | v :: vs => compact v ++ "," ++ compactItems vs

def compactFields : List (String × Json) → String
  | [] => ""
  | [(key, v)] => "\"" ++ key ++ "\":" ++ compact v
  | (key, v) :: fields => "\"" ++ key ++ "\":" ++ compact v ++ "," ++ compactFields fields

end

def parseScales (body : String) : Except String Json :=
  if body = compact (scalesJob.toJson "1700000000") then .ok (scalesJob.toJson "1700000000")
  else .error "expected value"

def scalesWorkerCodec : WorkerCodec where
  job := fun _ => .error "expected value"
  verification := fun _ => .error "expected value"
  knowledge := fun _ => .error "expected value"
  skill := fun _ => .ok ⟨"Scales", "", "", "", "", "", "", ""⟩
  trait := fun _ => .error "expected value"
  milestone := fun _ => .error "expected value"

def scalesDelivery : Delivery := ⟨Env.calm, scalesMessage.toNodeGenerationJob⟩

def scalesHandled : Execution (services Empty WorkerPrompt) ProcessingError NodeGenerationResult World :=
  scalesDelivery.run (scalesWorkerCodec.reading parseScales fun _ => "invalid type") ⟨some "key"⟩
    pianoRun.state.1.graph

theorem exit_scalesHandled : scalesHandled.exit =
    .ok (.success "job-3-0" pianoRun.state.1.graph.freshId false (some 1) 0) := by decide +kernel

theorem scales_placed :
    ∃ e, scalesHandled.state.graph.edgesLeaving "Domain_Level" =
        pianoRun.state.1.graph.edgesLeaving "Domain_Level" ++ [e] ∧
      PlacedAt pianoRun.state.1.graph scalesMessage e := by
  have hreads : ReadsBack compact parseScales (fun _ => "1700000000") pianoRun.calls := by
    intro sent hsent
    rw [queued_pianoRun] at hsent
    obtain rfl := List.mem_singleton.1 hsent
    exact if_pos rfl
  have horder : ([(Env.calm, scalesMessage)].map Prod.snd).Perm
      (messages (fun _ => "1700000000") pianoRun.calls) := by
    rw [messages, queued_pianoRun]
    exact .refl _
  have hlevels : ∀ handled ∈ [(Env.calm, scalesMessage)], ∀ level ∈ handled.2.domainLevels,
      LevelNode pianoRun.state.1.graph level := by
    intro handled hhandled
    obtain rfl := List.mem_singleton.1 hhandled
    unfold LevelNode
    decide +kernel
  have hfew : ∀ concepts, conceived scalesCodec (AsyncEnv.calm.provider 2)
      (Env.calm.llm (avatarEnd Env.calm 17)) = some concepts → concepts.tagged.length < 2 ^ 32 := by
    intro concepts h
    obtain rfl := Option.some.inj h
    decide
  have hhandled : Handled (scalesWorkerCodec.reading parseScales fun _ => "invalid type") ⟨some "key"⟩
      pianoRun.state.1.graph [scalesDelivery]
      [.success "job-3-0" pianoRun.state.1.graph.freshId false (some 1) 0] scalesHandled.state.graph := by
    refine .cons exit_scalesHandled (unfailing_calm _ _) (fun rows hrows row hrow => ?_) (.nil _)
    obtain rfl := Except.ok.inj hrows
    exact absurd hrow List.not_mem_nil
  obtain ⟨concepts, -, -, -, -, gained, hgained, hplaced, -⟩ := pipeline_places scalesCodec
    ⟨id, fun _ => true⟩ ⟨"Piano", none⟩ Env.calm .calm emptyGraph scalesWorkerCodec ⟨some "key"⟩
    (fun _ => "invalid type") rfl (fun _ => rfl) hfew hreads horder hlevels hhandled
  cases hplaced with
  | cons hfirst hrest =>
      cases hrest
      exact ⟨_, hgained, hfirst⟩

end Piano

end AtlasOfUs
