import AtlasOfUs.Library.Interleaving
import AtlasOfUs.Pipeline
import AtlasOfUs.Worker.Effects

namespace AtlasOfUs

open Library Agent Agent.AsyncGeneration Worker GraphApi

section Statements

variable {g : Graph} {type : String} {s t domainId id : ElementId} {props : Props}

def requiredByLevel (g : Graph) (domainId id : ElementId) : Bool :=
  g.nodes.any fun l => isLevelOf g domainId l &&
    g.edges.any fun e => isLevelRequirement e && e.source = l.id && e.target = id

theorem requiredByLevel_iff : requiredByLevel g domainId id = true ↔
    ∃ l ∈ g.nodes, isLevelOf g domainId l = true ∧
      ∃ e ∈ g.edges, isLevelRequirement e = true ∧ e.source = l.id ∧ e.target = id := by
  simp [requiredByLevel, and_assoc]

def isLevelId (g : Graph) (domainId levelId : ElementId) : Bool :=
  g.nodes.any fun l => isLevelOf g domainId l && l.id = levelId

theorem isLevelOf_createEdge (htype : type ≠ "HAS_DOMAIN_LEVEL") (l : Node) :
    isLevelOf (g.createEdge type s t props) domainId l = isLevelOf g domainId l := by
  have hno : Edge.between "HAS_DOMAIN_LEVEL" domainId l.id (⟨g.freshId, type, s, t, props⟩ : Edge) = false := by
    simp [Edge.between, htype]
  simp only [isLevelOf, hasNode, Graph.createEdge_nodes, Graph.createEdge_edges]
  by_cases hmem : s ∈ g.nodeIds ∧ t ∈ g.nodeIds
  · rw [if_pos hmem, List.any_append, List.any_cons, hno, List.any_nil, Bool.or_false, Bool.or_false]
  · rw [if_neg hmem]

theorem ne_hasDomainLevel {e : Edge} (h : isLevelRequirement e = true) : e.type ≠ "HAS_DOMAIN_LEVEL" := by
  intro htype
  rw [isLevelRequirement, htype] at h
  exact absurd h (by decide)

/-- A statement that links a node with a requirement makes a level of the domain require it exactly
if the source is one and the node is there. -/
theorem requiredByLevel_createEdge (htype : isLevelRequirement ⟨g.freshId, type, s, id, props⟩ = true) :
    requiredByLevel (g.createEdge type s id props) domainId id = true ↔
      requiredByLevel g domainId id = true ∨ isLevelId g domainId s = true ∧ id ∈ g.nodeIds := by
  have hlevel : ∀ l, isLevelOf (g.createEdge type s id props) domainId l = isLevelOf g domainId l :=
    isLevelOf_createEdge (ne_hasDomainLevel htype)
  rw [requiredByLevel_iff, requiredByLevel_iff, isLevelId, List.any_eq_true]
  simp only [hlevel, Graph.createEdge_nodes, Graph.createEdge_edges, Bool.and_eq_true, decide_eq_true_eq]
  by_cases hmem : s ∈ g.nodeIds ∧ id ∈ g.nodeIds
  · simp only [if_pos hmem, List.mem_append, List.mem_singleton]
    constructor
    · rintro ⟨l, hl, hof, e, he | rfl, hrequires, hsource, htarget⟩
      · exact .inl ⟨l, hl, hof, e, he, hrequires, hsource, htarget⟩
      · exact .inr ⟨⟨l, hl, hof, hsource.symm⟩, hmem.2⟩
    · rintro (⟨l, hl, hof, e, he, h⟩ | ⟨⟨l, hl, hof, hid⟩, -⟩)
      · exact ⟨l, hl, hof, e, .inl he, h⟩
      · exact ⟨l, hl, hof, _, .inr rfl, htype, hid.symm, rfl⟩
  · rw [if_neg hmem]
    refine (or_iff_left ?_).symm
    rintro ⟨⟨l, hl, -, hid⟩, ht⟩
    exact hmem ⟨hid ▸ Graph.id_mem_nodeIds hl, ht⟩

end Statements

section Jobs

variable {codec : WorkerCodec} {config : Config} {job : Worker.NodeGenerationJob}
  {level : DomainLevelInfo}

/-- The last call of a job that is done: the statement that links its node to its level, carried out. -/
def LinksNode (job : Worker.NodeGenerationJob) (call : Call (services Empty WorkerPrompt))
    (result : NodeGenerationResult) : Prop :=
  ∃ level id rows, job.assignedLevel = some level ∧ result.elementId = some id ∧
    call = ⟨.execute (connectStatement job.nodeType.levelRelationship level.elementId id),
      .ok ⟨rows, none⟩⟩

theorem endsBy_assignToLevel (hlevel : job.assignedLevel = some level) (id : ElementId)
    (wasReused : Bool) :
    ((processorOf codec job.nodeType).assignToLevel job id wasReused).EndsBy (LinksNode job) := by
  have hfind : job.domainLevels.find? (fun l => l.level = determineLevel job.suggestedLevel) =
      some level := hlevel
  rw [NodeProcessor.assignToLevel, NodeProcessor.linkToLevel, hfind]
  intro reply
  rw [processorOf_nodeType]
  cases reply with
  | error e => exact .inr trivial
  | ok stream =>
      obtain ⟨rows, broken⟩ := stream
      cases broken with
      | some e => exact .inr trivial
      | none => exact .inl ⟨_, rfl, level, id, rows, hlevel, rfl, rfl⟩

theorem endsBy_processJob (config : Config) (hlevel : job.assignedLevel = some level) :
    (processJob codec config job).EndsBy (LinksNode job) := by
  rw [processJob_eq]
  cases config.anthropicApiKey with
  | none => trivial
  | some key => exact Proc.EndsBy.bind _ fun node => endsBy_assignToLevel hlevel node.1 node.2

end Jobs

section Run

structure DomainUpdate (domainId : ElementId) where
  request : UpdateDomainRequest
  sameDomain : request.domainElementId = domainId
  program : Api UpdateDomainResult
  rest : Proc.Rest (updateDomain request) program

/-- Jobs that are processed while the domain is updated, one call at a time. -/
abbrev Site := Pools (services Empty WorkerPrompt) (services Empty Empty) ProcessingError
  NodeGenerationResult ServiceError UpdateDomainResult World

def Site.at (env : Env) (schedule : List (Nat ⊕ Nat)) (site : Site) (k : Nat) : Site :=
  site.before env.handler env.handler schedule k

/-- The node of the `i`-th job, if its next call ends it with success. -/
def Site.reports (env : Env) (i : Nat) (site : Site) : Option ElementId :=
  (site.leftPool.ends env.handler i).bind (·.elementId)

variable (codec : WorkerCodec) (config : Config) {domainId : ElementId}

def openSite (jobs : List NodeGenerationMessage) (updates : List (DomainUpdate domainId)) (w : World) :
    Site where
  left := jobs.map fun job => processJob codec config job.toNodeGenerationJob
  right := updates.map (·.program)
  state := w

/-- Whenever a job is done, a level of the domain requires its node. -/
def RequiredWhenDone (env : Env) (domainId : ElementId) (schedule : List (Nat ⊕ Nat)) (site : Site) :
    Prop :=
  ∀ k i id, schedule[k]? = some (.inl i) → (site.at env schedule k).reports env i = some id →
    requiredByLevel (site.at env schedule (k + 1)).state.graph domainId id = true

/-- Whenever a job is about to be done, the level it was assigned is one of the domain and its node
is there, or a level of the domain requires the node already. -/
def LevelsStand (env : Env) (domainId : ElementId) (jobs : List NodeGenerationMessage)
    (schedule : List (Nat ⊕ Nat)) (site : Site) : Prop :=
  ∀ k i id, schedule[k]? = some (.inl i) → (site.at env schedule k).reports env i = some id →
    requiredByLevel (site.at env schedule k).state.graph domainId id = true ∨
      ∃ job level, jobs[i]? = some job ∧ job.assignedLevel = some level ∧
        isLevelId (site.at env schedule k).state.graph domainId level.elementId = true ∧
        id ∈ (site.at env schedule k).state.graph.nodeIds

variable {codec config} {jobs : List NodeGenerationMessage} {updates : List (DomainUpdate domainId)}
  {env : Env} {w : World} {schedule : List (Nat ⊕ Nat)} {k i : Nat} {id : ElementId}

theorem ending_openSite (codec : WorkerCodec) (config : Config) (w : World)
    (hlevels : ∀ job ∈ jobs, ∃ level, job.assignedLevel = some level) :
    (openSite codec config jobs updates w).leftPool.Ending fun i call result =>
      ∃ job, jobs[i]? = some job ∧ LinksNode job.toNodeGenerationJob call result := by
  intro i p hp
  rw [Pools.leftPool, openSite, List.getElem?_map, Option.map_eq_some_iff] at hp
  obtain ⟨job, hjob, rfl⟩ := hp
  obtain ⟨level, hlevel⟩ := hlevels job (List.mem_of_getElem? hjob)
  right
  exact (endsBy_processJob config hlevel).weaken fun call result hlinks => ⟨job, hjob, hlinks⟩

theorem graph_of_reports {site : Site}
    (hending : site.leftPool.Ending fun i call result =>
      ∃ job, jobs[i]? = some job ∧ LinksNode job.toNodeGenerationJob call result)
    (hreports : site.reports env i = some id) :
    ∃ job level, jobs[i]? = some job ∧ job.assignedLevel = some level ∧
      (site.leftPool.step env.handler i).state.graph =
        site.state.graph.createEdge job.nodeType.levelRelationship level.elementId id Props.empty := by
  obtain ⟨result, hends, hid⟩ := Option.bind_eq_some_iff.1 hreports
  obtain ⟨o, ⟨job, hjob, level, id', rows, hlevel, hresult, hcall⟩, hstate⟩ :=
    hending.last_call hends
  obtain rfl : id' = id := Option.some.inj (hresult.symm.trans hid)
  refine ⟨job, level, hjob, hlevel, ?_⟩
  obtain ⟨rfl, hreply⟩ := Sigma.mk.inj hcall
  have hdone := Outcome.done_of_reply (eq_of_heq hreply)
  rw [hstate]
  have hdone : env.outcome site.state.clock = .done := hdone
  simp only [Pools.leftPool, Env.handler, hdone, Outcome.after_done, connectStatement]

/-- Right after its last statement a job that is done is required by a level exactly if its level
stood before. -/
theorem requiredByLevel_of_reports {site : Site}
    (hending : site.leftPool.Ending fun i call result =>
      ∃ job, jobs[i]? = some job ∧ LinksNode job.toNodeGenerationJob call result)
    (hreports : site.reports env i = some id) :
    requiredByLevel (site.leftPool.step env.handler i).state.graph domainId id = true ↔
      requiredByLevel site.state.graph domainId id = true ∨
        ∃ job level, jobs[i]? = some job ∧ job.assignedLevel = some level ∧
          isLevelId site.state.graph domainId level.elementId = true ∧
          id ∈ site.state.graph.nodeIds := by
  obtain ⟨job, level, hjob, hlevel, hgraph⟩ := graph_of_reports hending hreports
  have htype : isLevelRequirement ⟨site.state.graph.freshId, job.nodeType.levelRelationship,
      level.elementId, id, Props.empty⟩ = true := by
    cases job.nodeType <;> rfl
  rw [hgraph, requiredByLevel_createEdge htype]
  apply or_congr_right
  constructor
  · exact fun h => ⟨job, level, hjob, hlevel, h⟩
  · rintro ⟨job', level', hjob', hlevel', h⟩
    obtain rfl := Option.some.inj (hjob.symm.trans hjob')
    obtain rfl := Option.some.inj (hlevel.symm.trans hlevel')
    exact h

theorem requiredWhenDone_iff (updates : List (DomainUpdate domainId)) (codec : WorkerCodec)
    (config : Config) (env : Env) (w : World) (schedule : List (Nat ⊕ Nat))
    (hlevels : ∀ job ∈ jobs, ∃ level, job.assignedLevel = some level) :
    RequiredWhenDone env domainId schedule (openSite codec config jobs updates w) ↔
      LevelsStand env domainId jobs schedule (openSite codec config jobs updates w) := by
  have hstep : ∀ k i id, schedule[k]? = some (.inl i) →
      ((openSite codec config jobs updates w).at env schedule k).reports env i = some id →
        (requiredByLevel ((openSite codec config jobs updates w).at env schedule (k + 1)).state.graph
            domainId id = true ↔
          requiredByLevel ((openSite codec config jobs updates w).at env schedule k).state.graph
              domainId id = true ∨
            ∃ job level, jobs[i]? = some job ∧ job.assignedLevel = some level ∧
              isLevelId ((openSite codec config jobs updates w).at env schedule k).state.graph domainId
                level.elementId = true ∧
              id ∈ ((openSite codec config jobs updates w).at env schedule k).state.graph.nodeIds) := by
    intro k i id hturn hreports
    rw [Site.at, Pools.before_succ_left hturn]
    exact requiredByLevel_of_reports (Pools.ending_before (ending_openSite codec config w hlevels)
      schedule k) hreports
  constructor
  · exact fun h k i id hturn hreports => (hstep k i id hturn hreports).1 (h k i id hturn hreports)
  · exact fun h k i id hturn hreports => (hstep k i id hturn hreports).2 (h k i id hturn hreports)

end Run

section Generation

variable (codec : AsyncCodec) (tables : DomainArchitectStep.CharTables)
  (request : GenerateDomainRequest) (env : Env) (async : AsyncEnv) (g : Graph)

theorem assignedLevel_of_messages {createdAt : Agent.NodeGenerationJob → String}
    {response : AsyncGenerationResponse}
    (hok : (execAsync env async (generateDomainAsync codec tables request) g).exit = .ok response)
    {job : NodeGenerationMessage}
    (hjob : job ∈ messages createdAt
      (execAsync env async (generateDomainAsync codec tables request) g).calls) :
    ∃ level, job.assignedLevel = some level := by
  obtain ⟨concepts, levels, generation, -, hgeneration, hbuilt, hqueued⟩ :=
    run_accepted codec tables request env async g hok
  have hnumbers : job.domainLevels.map (·.level) = [1, 2, 3, 4, 5] := by
    rw [levels_messages async hqueued job hjob, hgeneration]
    change levels.map (·.level) = _
    rw [hbuilt.numbers]
    rfl
  obtain ⟨level, hlevel, -⟩ := assignedLevel_of_numbers hnumbers
  exact ⟨level, hlevel⟩

/-- However the jobs of an accepted request and updates of its domain interleave, every job that is
done leaves its node required by a level of the domain exactly if, each time, the level that it was
given when it was queued still is one. -/
theorem jobs_required_iff {createdAt : Agent.NodeGenerationJob → String}
    {response : AsyncGenerationResponse}
    (hok : (execAsync env async (generateDomainAsync codec tables request) g).exit = .ok response)
    {jobs : List NodeGenerationMessage}
    (hjobs : ∀ job ∈ jobs, job ∈ messages createdAt
      (execAsync env async (generateDomainAsync codec tables request) g).calls)
    (updates : List (DomainUpdate response.domainElementId)) (workerCodec : WorkerCodec)
    (config : Config) (world : Env) (w : World) (schedule : List (Nat ⊕ Nat)) :
    RequiredWhenDone world response.domainElementId schedule
        (openSite workerCodec config jobs updates w) ↔
      LevelsStand world response.domainElementId jobs schedule
        (openSite workerCodec config jobs updates w) :=
  requiredWhenDone_iff updates workerCodec config world w schedule fun job hjob =>
    assignedLevel_of_messages codec tables request env async g hok (hjobs job hjob)

end Generation

section Piano

def pianoResponse : AsyncGenerationResponse :=
  ⟨"gen-1-Piano", candidateId 0, "Piano", 1, "Domain created. 1 nodes queued for generation."⟩

def pianoUpdate : DomainUpdate (candidateId 0) where
  request := ⟨candidateId 0, ⟨"Piano", ""⟩, [⟨1, "Player", none, 0, ⟨[], [], [], []⟩⟩], []⟩
  sameDomain := rfl
  program := updateDomain ⟨candidateId 0, ⟨"Piano", ""⟩, [⟨1, "Player", none, 0, ⟨[], [], [], []⟩⟩], []⟩
  rest := .begun

def pianoSite : Site :=
  openSite scalesWorkerCodec ⟨some "key"⟩ [scalesMessage] [pianoUpdate] pianoRun.state.1

theorem scalesMessage_mem : ∀ job ∈ [scalesMessage],
    job ∈ messages (fun _ => "1700000000") pianoRun.calls := by
  rw [messages, queued_pianoRun]
  exact fun _ h => h

/-- The job is done before the update deletes the levels. -/
def jobFirst : List (Nat ⊕ Nat) :=
  [.inr 0, .inl 0, .inl 0, .inl 0, .inl 0, .inr 0, .inl 0, .inl 0, .inr 0, .inr 0]

theorem jobFirst_levelsStand :
    LevelsStand .calm (candidateId 0) [scalesMessage] jobFirst pianoSite := by
  intro k i id hturn hreports
  have hk : k < 10 := (List.getElem?_eq_some_iff.1 hturn).1
  have hi : i = 0 := by
    have hall : ∀ k < 10, ∀ i ∈ (jobFirst[k]?.bind Sum.getLeft?), i = 0 := by decide
    exact hall k hk i (by rw [hturn]; rfl)
  subst hi
  have hstands : ∀ k < 10, ∀ id ∈ (pianoSite.at .calm jobFirst k).reports .calm 0,
      isLevelId (pianoSite.at .calm jobFirst k).state.graph (candidateId 0) (candidateId 1) = true ∧
        id ∈ (pianoSite.at .calm jobFirst k).state.graph.nodeIds := by decide +kernel
  exact .inr ⟨scalesMessage, ⟨1, "Piano Novice", candidateId 1⟩, rfl, rfl, hstands k hk id hreports⟩

theorem scales_required :
    RequiredWhenDone .calm (candidateId 0) jobFirst pianoSite ∧
      (pianoSite.at .calm jobFirst 7).reports .calm 0 = some (candidateId 11) := by
  refine ⟨?_, by decide +kernel⟩
  have hok : pianoRun.exit = .ok pianoResponse := rfl
  exact (jobs_required_iff scalesCodec ⟨id, fun _ => true⟩ ⟨"Piano", none⟩ .calm .calm emptyGraph hok
    scalesMessage_mem [pianoUpdate] scalesWorkerCodec ⟨some "key"⟩ .calm pianoRun.state.1 jobFirst).2
      jobFirst_levelsStand

/-- The levels are replaced before the job starts: it is done, and no level requires its node. -/
def updateFirst : List (Nat ⊕ Nat) :=
  [.inr 0, .inr 0, .inr 0, .inr 0, .inl 0, .inl 0, .inl 0, .inl 0, .inl 0, .inl 0]

theorem scales_lost :
    ¬ ∀ (codec : AsyncCodec) (tables : DomainArchitectStep.CharTables)
      (request : GenerateDomainRequest) (env : Env) (async : AsyncEnv) (g : Graph)
      (createdAt : Agent.NodeGenerationJob → String) (response : AsyncGenerationResponse),
      (execAsync env async (generateDomainAsync codec tables request) g).exit = .ok response →
      ∀ jobs : List NodeGenerationMessage, (∀ job ∈ jobs, job ∈ messages createdAt
        (execAsync env async (generateDomainAsync codec tables request) g).calls) →
      ∀ (updates : List (DomainUpdate response.domainElementId)) (workerCodec : WorkerCodec)
        (config : Config) (world : Env) (schedule : List (Nat ⊕ Nat)),
        RequiredWhenDone world response.domainElementId schedule
          (openSite workerCodec config jobs updates
            (execAsync env async (generateDomainAsync codec tables request) g).state.1) := by
  intro h
  have hok : pianoRun.exit = .ok pianoResponse := rfl
  have hrequired := h scalesCodec ⟨id, fun _ => true⟩ ⟨"Piano", none⟩ .calm .calm emptyGraph _ _ hok _
    scalesMessage_mem [pianoUpdate] scalesWorkerCodec ⟨some "key"⟩ .calm updateFirst 9 0 (candidateId 13)
    rfl (by decide +kernel)
  have hlost : requiredByLevel (pianoSite.at .calm updateFirst 10).state.graph (candidateId 0)
      (candidateId 13) = false := by decide +kernel
  exact absurd (hlost.symm.trans hrequired) (by decide)

end Piano

end AtlasOfUs
