import AtlasOfUs.Agent.Bookkeeping

namespace AtlasOfUs.Agent

open Library Similarity GraphApi

/-- What the agents that completed have reported: nodes created and nodes reused. -/
def completions (events : List SseEvent) : List (Nat × Nat) :=
  events.filterMap (fun e => match e with
    | .agentCompleted _ nodesCreated nodesReused => some (nodesCreated, nodesReused)
    | _ => none)

def total (counts : List Nat) : Nat := counts.foldr (· + ·) 0

/-- The architect has put the domain and nothing it did not create into the registry. -/
def Founded (r : DomainGraphRegistry) : Prop :=
  r.domain.isSome ∧ ∀ n ∈ r.nodesBy .domainArchitect, n.wasReused = false

def registryOnly (r : DomainGraphRegistry) : AgentContext := ⟨"", none, none, r⟩

abbrev Agents := List (AgentType × Nat)

/-- Between two agents: those at work before have filled the registry, the
statistics say so, and those still to come find their parts empty. -/
structure Standing (done rest : Agents) (r : DomainGraphRegistry) (stats : DomainStatistics) :
    Prop where
  agents : allAgents.zipIdx = done ++ rest
  fresh : ∀ x ∈ rest, r.share x.1 = {}
  stats : stats = done.foldl (fun stats x => updateStats stats x.1 (registryOnly r)) {}
  founded : .domainArchitect ∈ done.map Prod.fst → Founded r

structure Entered (done : Agents) (r : DomainGraphRegistry) (s : Recorded) : Prop where
  mirrors : Mirrors r (sent s.2)
  links : Unlinked r ↔ ∀ call ∈ s.2, ¬ Confirms call
  counts : completions (sent s.2) = done.map (fun x => countAgentNodes x.1 (registryOnly r))

section Shares

variable {r r' : DomainGraphRegistry} {agent : AgentType}

theorem countAgentNodes_share (context : AgentContext) (agent : AgentType) :
    countAgentNodes agent context =
      countAgentNodes agent (registryOnly (context.domainGraph.share agent)) := by
  cases agent <;> rfl

theorem updateStats_share (stats : DomainStatistics) (context : AgentContext) (agent : AgentType) :
    updateStats stats agent context =
      updateStats stats agent (registryOnly (context.domainGraph.share agent)) := by
  cases agent <;> rfl

theorem countAgentNodes_eq_of_share (h : r'.share agent = r.share agent) :
    countAgentNodes agent (registryOnly r') = countAgentNodes agent (registryOnly r) := by
  rw [countAgentNodes_share (registryOnly r'), countAgentNodes_share (registryOnly r)]
  exact congrArg (fun r => countAgentNodes agent (registryOnly r)) h

theorem updateStats_eq_of_share (h : r'.share agent = r.share agent) (stats : DomainStatistics) :
    updateStats stats agent (registryOnly r') = updateStats stats agent (registryOnly r) := by
  rw [updateStats_share stats (registryOnly r'), updateStats_share stats (registryOnly r)]
  exact congrArg (fun r => updateStats stats agent (registryOnly r)) h

theorem Founded.of_share (h : Founded r)
    (hshare : r'.share .domainArchitect = r.share .domainArchitect) : Founded r' := by
  have hdomain : (r'.share .domainArchitect).domain = (r.share .domainArchitect).domain := by
    rw [hshare]
  have hnodes : r'.nodesBy .domainArchitect = r.nodesBy .domainArchitect :=
    congrArg DomainGraphRegistry.allNodes hshare
  exact ⟨(congrArg Option.isSome hdomain).trans h.1, hnodes ▸ h.2⟩

theorem foldl_updateStats_eq {done : Agents}
    (h : ∀ x ∈ done, r'.share x.1 = r.share x.1) (stats : DomainStatistics) :
    done.foldl (fun stats x => updateStats stats x.1 (registryOnly r')) stats =
      done.foldl (fun stats x => updateStats stats x.1 (registryOnly r)) stats := by
  induction done generalizing stats with
  | nil => rfl
  | cons x done ih =>
      rw [List.foldl_cons, List.foldl_cons, updateStats_eq_of_share (h x List.mem_cons_self)]
      exact ih (fun y hy => h y (List.mem_cons_of_mem _ hy)) _

end Shares

namespace Standing

variable {done rest : Agents} {x : AgentType × Nat} {r r' : DomainGraphRegistry}
  {stats : DomainStatistics}

theorem nodup (h : Standing done rest r stats) : ((done ++ rest).map Prod.fst).Nodup := by
  rw [← h.agents]
  decide

theorem ne_of_mem_done (h : Standing done (x :: rest) r stats) {y : AgentType × Nat}
    (hy : y ∈ done) : y.1 ≠ x.1 := by
  have hnodup := h.nodup
  rw [List.map_append, List.nodup_append] at hnodup
  exact hnodup.2.2 _ (List.mem_map_of_mem hy) _ (List.mem_map_of_mem List.mem_cons_self)

theorem ne_of_mem_rest (h : Standing done (x :: rest) r stats) {y : AgentType × Nat}
    (hy : y ∈ rest) : y.1 ≠ x.1 := by
  have hnodup := h.nodup
  rw [List.map_append, List.nodup_append, List.map_cons, List.nodup_cons] at hnodup
  rintro heq
  exact hnodup.2.1.1 (heq ▸ List.mem_map_of_mem hy)

theorem step (h : Standing done (x :: rest) r stats) (hothers : KeepsOthers x.1 r r')
    (hfounded : x.1 = .domainArchitect → Founded r') :
    Standing (done ++ [x]) rest r' (updateStats stats x.1 (registryOnly r')) where
  agents := by rw [h.agents, List.append_assoc, List.singleton_append]
  fresh y hy := (hothers y.1 (h.ne_of_mem_rest hy)).trans (h.fresh y (List.mem_cons_of_mem _ hy))
  stats := by
    rw [List.foldl_append, foldl_updateStats_eq (fun y hy => hothers y.1 (h.ne_of_mem_done hy)),
      ← h.stats]
    rfl
  founded hmem := by
    by_cases hx : x.1 = .domainArchitect
    · exact hfounded hx
    · rw [List.map_append, List.mem_append] at hmem
      refine (h.founded (hmem.resolve_right fun hmem => ?_)).of_share (hothers _ (Ne.symm hx))
      exact hx (List.mem_singleton.1 hmem).symm

end Standing

theorem standing_start : Standing [] allAgents.zipIdx {} {} where
  agents := rfl
  fresh x _ := by cases x.1 <;> rfl
  stats := rfl
  founded hmem := absurd hmem List.not_mem_nil

namespace DomainArchitectStep

variable {σ : Type} {h : Handler (services SseEvent Prompt) σ} (codec : Codec) (tables : CharTables)

theorem founded_createLevel (domainId : ElementId) (context : AgentContext) (info : LevelInfo) :
    Triple h (fun _ => Founded context.domainGraph) (createLevel codec domainId context info)
      (fun context' _ => Founded context'.domainGraph) (fun _ _ => True) := by
  refine Triple.of_pre (fun _ hs => hs) fun hfounded => ?_
  refine (Triple.true _).bind fun level => (Triple.true _).bind fun _ => ?_
  refine (Triple.true _).bind fun _ => Triple.done fun _ _ => ⟨hfounded.1, fun n hn => ?_⟩
  rw [(files_level context _).own] at hn
  rcases List.mem_append.1 hn with hn | hn
  · exact hfounded.2 n hn
  · rw [List.mem_singleton.1 hn]
    rfl

theorem founded_execute {context : AgentContext}
    (hfresh : context.domainGraph.share .domainArchitect = {}) :
    Triple h (fun _ => True) (execute codec tables context)
      (fun context' _ => Founded context'.domainGraph) (fun _ _ => True) := by
  have hdomain : ∀ id, Founded
      (context.setDomain (.new context.domainName id "Domain")).domainGraph := by
    refine fun id => ⟨rfl, fun n hn => ?_⟩
    rw [(files_domain hfresh _).own, DomainGraphRegistry.nodesBy, hfresh] at hn
    rw [List.mem_singleton.1 hn]
    rfl
  refine (Triple.true _).bind fun _ => (Triple.true _).bind fun domain => ?_
  refine (Triple.true _).bind fun _ => (Triple.true _).bind fun _ => (Triple.true _).bind fun _ => ?_
  exact (Triple.foldlM (fun context _ _ => Founded context.domainGraph)
    (fun context info _ => founded_createLevel codec domain.elementId context info) _ _).weaken
    fun _ _ => hdomain domain.elementId

end DomainArchitectStep

section Run

variable {env : Env} {done rest : Agents} {r : DomainGraphRegistry} {ε α : Type}

theorem completions_append (events events' : List SseEvent) :
    completions (events ++ events') = completions events ++ completions events' :=
  List.filterMap_append

theorem completions_behaved {agent : AgentType} {p : Service SseEvent Prompt ε α}
    (hp : Behaved agent p) (counts : List (Nat × Nat)) :
    Triple (recorder env) (fun s => completions (sent s.2) = counts) p
      (fun _ s => completions (sent s.2) = counts) (fun _ s => completions (sent s.2) = counts) := by
  refine hp.toCalls.triple fun o s ho hs => ?_
  cases o with
  | send e =>
      refine (congrArg completions (s.sent_note e)).trans ?_
      rw [completions_append, hs]
      cases e <;> first | exact List.append_nil _ | exact ho.elim
  | _ => exact (congrArg completions (s.sent_unsent (by simp) _)).trans hs

theorem Entered.books {s : Recorded} (h : Entered done r s) (agent : AgentType) :
    Books agent r r s := ⟨h.mirrors, KeepsOthers.refl, h.links⟩

theorem Entered.note {s : Recorded} (h : Entered done r s) {e : SseEvent}
    (he : e.announces = false) (hcompletes : completions [e] = []) : Entered done r (s.note e) where
  mirrors := (books_send he s (h.books .domainArchitect)).mirrors
  links := (books_send he s (h.books .domainArchitect)).links
  counts := by rw [s.sent_note, completions_append, hcompletes, List.append_nil, h.counts]

variable (codec : Codec) (tables : DomainArchitectStep.CharTables)

theorem founded_executeAgent {σ : Type} {h : Handler (services SseEvent Prompt) σ}
    {agent : AgentType} {context : AgentContext} (hfresh : context.domainGraph.share agent = {}) :
    Triple h (fun _ => True) (executeAgent codec tables agent context)
      (fun context' _ => agent = .domainArchitect → Founded context'.domainGraph)
      (fun _ _ => True) := by
  by_cases hagent : agent = .domainArchitect
  · subst hagent
    exact (DomainArchitectStep.founded_execute codec tables hfresh).conseq (fun _ hs => hs)
      (fun _ _ hs _ => hs) (fun _ _ hs => hs)
  · exact (Triple.true _).conseq (fun _ hs => hs) (fun _ _ _ h => absurd h hagent)
      (fun _ _ hs => hs)

def Reported (error : String) (s : Recorded) : Prop :=
  ∃ agent registry, (sent s.2).getLast? = some (.failed error (some agent) (some registry)) ∧
    Mirrors registry (sent s.2)

theorem entered_runAgent {x : AgentType × Nat} {context : AgentContext} {stats : DomainStatistics}
    (hstanding : Standing done (x :: rest) context.domainGraph stats) :
    Triple (recorder env) (Entered done context.domainGraph)
      (runAgent codec tables (context, stats) x)
      (fun acc s => (Standing (done ++ [x]) rest acc.1.domainGraph acc.2 ∧
        KeepsOthers x.1 context.domainGraph acc.1.domainGraph) ∧
          Entered (done ++ [x]) acc.1.domainGraph s) Reported := by
  have hfresh := hstanding.fresh x List.mem_cons_self
  let counts := done.map fun y => countAgentNodes y.1 (registryOnly context.domainGraph)
  rw [runAgent_eq]
  refine record_send_bind (fun s hs => hs.note rfl rfl) ?_
  have hbooks : Triple (recorder env) (Books x.1 context.domainGraph context.domainGraph)
      (executeAgent codec tables x.1 context)
      (fun context' => Books x.1 context.domainGraph context'.domainGraph)
      (BooksOf x.1 context.domainGraph) := books_executeAgent codec tables hfresh
  have hagent := (hbooks.and (completions_behaved (behaved_executeAgent codec tables x.1 context)
    counts)).and (founded_executeAgent codec tables hfresh)
  have hrun : Triple (recorder env) _ (executeAgent codec tables x.1 context)
      (fun context' s => Books x.1 context.domainGraph context'.domainGraph s ∧
        completions (sent s.2) = counts ∧ (x.1 = .domainArchitect → Founded context'.domainGraph))
      (BooksOf x.1 context.domainGraph) :=
    hagent.conseq (fun s (hs : Entered done context.domainGraph s) =>
      ⟨⟨hs.books x.1, hs.counts⟩, trivial⟩) (fun _ _ hs => ⟨hs.1.1, hs.1.2, hs.2⟩)
      (fun _ _ hs => hs.1.1)
  apply Triple.attempt_bind hrun
  · intro context'
    refine Triple.of_pre (fun _ hs => And.intro hs.1.others hs.2.2) fun hpure => ?_
    refine record_send_bind (fun s hs => ?_) (Triple.done (P := Entered (done ++ [x])
      context'.domainGraph) fun s hs => ⟨⟨?_, hpure.1⟩, hs⟩)
    · have hbooks := books_send (e := .agentCompleted x.1
        (countAgentNodes x.1 context').1 (countAgentNodes x.1 context').2) rfl s hs.1
      refine ⟨hbooks.mirrors, hbooks.links, ?_⟩
      rw [s.sent_note, completions_append, hs.2.1, List.map_append]
      refine congrArg₂ (· ++ ·) (List.map_congr_left fun y hy => ?_) rfl
      exact (countAgentNodes_eq_of_share (hpure.1 y.1 (hstanding.ne_of_mem_done hy))).symm
    · exact hstanding.step hpure.1 hpure.2
  · intro failure
    refine record_send_bind (books_send rfl) (record_send_bind (fun s hs => ?_) (Triple.fail
      (P := Reported failure.1) fun s hs => hs))
    have hbooks := books_send (e := .failed failure.1 (some x.1) (some failure.2.domainGraph))
      rfl s hs
    exact ⟨x.1, failure.2.domainGraph, by simp, hbooks.mirrors⟩

/-- The registry and the statistics of a run that has gone through every agent. -/
def Settled (result : DomainGenerationResult) (s : Recorded) : Prop :=
  ∃ stats, Standing allAgents.zipIdx [] result.domainGraph stats ∧
    result.statistics = { stats with nodesReused := countReused result.domainGraph.allNodes } ∧
    Entered allAgents.zipIdx result.domainGraph s

theorem entered_runAgents {context : AgentContext} (hempty : context.domainGraph = {}) :
    Triple (recorder env) (Entered [] {}) (runAgents codec tables context)
      (fun acc s => Standing allAgents.zipIdx [] acc.1.domainGraph acc.2 ∧
        Entered allAgents.zipIdx acc.1.domainGraph s) Reported := by
  let Inv := fun (acc : AgentContext × DomainStatistics) (rest : Agents) (s : Recorded) =>
    ∃ done, Standing done rest acc.1.domainGraph acc.2 ∧ Entered done acc.1.domainGraph s
  refine Triple.conseq (Triple.foldlM Inv (fun acc x rest => Triple.exists_pre fun done => ?_)
    allAgents.zipIdx (context, {})) (fun s hs => ⟨[], ?_⟩) (fun acc s hs => ?_) (fun _ _ hs => hs)
  · refine Triple.of_pre (fun _ hs => hs.1) fun hstanding => ?_
    exact (entered_runAgent codec tables hstanding).conseq (fun _ hs => hs.2)
      (fun _ _ hs => ⟨done ++ [x], hs.1.1, hs.2⟩) (fun _ _ hs => hs)
  · simp only [hempty]
    exact ⟨standing_start, hs⟩
  · obtain ⟨done, hstanding, hs⟩ := hs
    have hdone : allAgents.zipIdx = done := hstanding.agents.trans (List.append_nil done)
    rw [hdone]
    exact ⟨hstanding, hs⟩

theorem entered_runWorkflow (domainName : String) (description : Option String) :
    Triple (recorder env) (Entered [] {}) (runWorkflow codec tables domainName description)
      Settled Reported := by
  refine record_send_bind (fun s hs => hs.note rfl rfl) ?_
  refine (entered_runAgents codec tables rfl).bind fun acc => ?_
  refine Triple.of_pre (fun _ hs => hs.1) fun hstanding => ?_
  refine record_send_bind (Q := Entered allAgents.zipIdx acc.1.domainGraph)
    (fun s hs => hs.2.note rfl rfl) (Triple.done fun s hs => ?_)
  exact ⟨acc.2, hstanding, rfl, hs⟩

theorem entered_start (w : World) : Entered [] {} ((w, []) : Recorded) where
  mirrors := fun agent => by cases agent <;> rfl
  links := iff_of_true ⟨rfl, rfl, rfl⟩ fun _ hcall => absurd hcall List.not_mem_nil
  counts := rfl

end Run

section Generation

variable {codec : Codec} {tables : DomainArchitectStep.CharTables} {env : Env} {w : World}
  {domainName : String} {description : Option String}

theorem confirms_checkCalls (domainName : String) (vector : Embedding) (rows : List SimilarRow)
    (calls : List AgentCall) :
    (∀ call ∈ checkCalls domainName vector rows ++ calls, ¬ Confirms call) ↔
      ∀ call ∈ calls, ¬ Confirms call := by
  simp [checkCalls, Confirms]

theorem settled_generateDomain {result : DomainGenerationResult}
    (h : (env.exec (generateDomain codec tables domainName description) w).exit = .ok result) :
    Settled result ((env.exec (generateDomain codec tables domainName description) w).state,
      (env.exec (generateDomain codec tables domainName description) w).calls) := by
  obtain ⟨vector, rows, hexit, -, hcalls⟩ := exec_generateDomain_passes codec tables
    (passesCheck_of_ok codec tables h) domainName description
  rw [hexit] at h
  obtain ⟨stats, hstanding, hstats, hmirrors, hlinks, hcounts⟩ := (entered_runWorkflow codec tables
    domainName description).recorded_value (entered_start w.tick.tick) h
  refine ⟨stats, hstanding, hstats, ?_, ?_, ?_⟩
  · rwa [hcalls, sent_checkCalls]
  · rw [hlinks, hcalls]
    exact (confirms_checkCalls domainName vector rows _).symm
  · rwa [hcalls, sent_checkCalls]

/-- The announcements of a run are its registry, the one it returns or the one
that its failure carries, agent by agent and in order. -/
theorem generateDomain_mirrored (codec : Codec) (tables : DomainArchitectStep.CharTables) (env : Env)
    (w : World) (domainName : String) (description : Option String)
    (hcheck : PassesCheck env w.clock) :
    (∀ result,
      (env.exec (generateDomain codec tables domainName description) w).exit = .ok result →
        Mirrors result.domainGraph
          (sent (env.exec (generateDomain codec tables domainName description) w).calls)) ∧
    (∀ error,
      (env.exec (generateDomain codec tables domainName description) w).exit = .err error →
        ∃ agent registry,
          (sent (env.exec (generateDomain codec tables domainName description) w).calls).getLast? =
            some (.failed error (some agent) (some registry)) ∧
          Mirrors registry
            (sent (env.exec (generateDomain codec tables domainName description) w).calls)) := by
  constructor
  · intro result h
    obtain ⟨stats, -, -, hentered⟩ := settled_generateDomain h
    exact hentered.mirrors
  · intro error h
    obtain ⟨vector, rows, hexit, -, hcalls⟩ :=
      exec_generateDomain_passes codec tables hcheck domainName description
    rw [hexit] at h
    rw [hcalls, sent_checkCalls]
    exact (entered_runWorkflow codec tables domainName description).recorded_error
      (entered_start w.tick.tick) h

end Generation

theorem bracketed_mirrored :
    (∀ result, (bracketed.exec (generateDomain (replying ["Openings"] noLinks) plainTables "Chess"
      none) (World.start emptyGraph)).exit = .ok result →
        Mirrors result.domainGraph (sent (bracketed.exec (generateDomain (replying ["Openings"]
          noLinks) plainTables "Chess" none) (World.start emptyGraph)).calls)) ∧
    (∀ error, (bracketed.exec (generateDomain (replying ["Openings"] noLinks) plainTables "Chess"
      none) (World.start emptyGraph)).exit = .err error → ∃ agent registry,
        (sent (bracketed.exec (generateDomain (replying ["Openings"] noLinks) plainTables "Chess"
          none) (World.start emptyGraph)).calls).getLast? =
            some (.failed error (some agent) (some registry)) ∧
        Mirrors registry (sent (bracketed.exec (generateDomain (replying ["Openings"] noLinks)
          plainTables "Chess" none) (World.start emptyGraph)).calls)) :=
  generateDomain_mirrored _ _ bracketed (World.start emptyGraph) "Chess" none (bracketed_passes 0)

section Statistics

variable {r : DomainGraphRegistry} {stats : DomainStatistics}

theorem countCreated_append (ns ms : List CreatedNode) :
    countCreated (ns ++ ms) = countCreated ns + countCreated ms := by
  simp [countCreated, List.filter_append]

theorem countReused_append (ns ms : List CreatedNode) :
    countReused (ns ++ ms) = countReused ns + countReused ms := by
  simp [countReused, List.filter_append]

theorem allNodes_eq (r : DomainGraphRegistry) :
    r.allNodes =
      r.nodesBy .domainArchitect ++ r.knowledge ++ r.skills ++ r.traits ++ r.milestones := by
  simp [DomainGraphRegistry.allNodes, DomainGraphRegistry.nodesBy, DomainGraphRegistry.share]

theorem Founded.counts (h : Founded r) :
    countCreated (r.nodesBy .domainArchitect) = r.domainLevels.length + 1 ∧
      countReused (r.nodesBy .domainArchitect) = 0 := by
  have hcreated : (r.nodesBy .domainArchitect).filter (fun n => !n.wasReused) =
      r.nodesBy .domainArchitect := List.filter_eq_self.2 fun n hn => by simp [h.2 n hn]
  have hreused : (r.nodesBy .domainArchitect).filter (·.wasReused) = [] :=
    List.filter_eq_nil_iff.2 fun n hn => by simp [h.2 n hn]
  obtain ⟨domain, hdomain⟩ := Option.isSome_iff_exists.1 h.1
  refine ⟨?_, by rw [countReused, hreused]; rfl⟩
  rw [countCreated, hcreated]
  simp [DomainGraphRegistry.nodesBy, DomainGraphRegistry.share, DomainGraphRegistry.allNodes, hdomain]

theorem Standing.statistics (h : Standing allAgents.zipIdx [] r stats) :
    stats = ⟨r.domainLevels.length, countCreated r.knowledge, countCreated r.skills,
      countCreated r.traits, countCreated r.milestones, 0, 0⟩ :=
  h.stats

theorem Standing.isFounded (h : Standing allAgents.zipIdx [] r stats) : Founded r :=
  h.founded List.mem_cons_self

theorem Entered.completions_eq {s : Recorded} (h : Entered allAgents.zipIdx r s) :
    completions (sent s.2) =
      [(r.domainLevels.length + r.domain.toList.length, 0),
        (countCreated r.knowledge, countReused r.knowledge),
        (countCreated r.skills, countReused r.skills),
        (countCreated r.traits, countReused r.traits),
        (countCreated r.milestones, countReused r.milestones), (0, 0), (0, 0)] :=
  h.counts

end Statistics

/-- The three accountings of a run agree: the statistics, the registry and what
the agents reported when they completed. -/
theorem generateDomain_tallied (codec : Codec) (tables : DomainArchitectStep.CharTables) (env : Env)
    (w : World) (domainName : String) (description : Option String)
    (result : DomainGenerationResult)
    (h : (env.exec (generateDomain codec tables domainName description) w).exit = .ok result) :
    1 + result.statistics.domainLevelsCreated + result.statistics.knowledgeCreated +
        result.statistics.skillsCreated + result.statistics.traitsCreated +
        result.statistics.milestonesCreated = countCreated result.domainGraph.allNodes ∧
      result.statistics.nodesReused = countReused result.domainGraph.allNodes ∧
      total ((completions (sent (env.exec (generateDomain codec tables domainName description)
        w).calls)).map Prod.fst) = countCreated result.domainGraph.allNodes ∧
      total ((completions (sent (env.exec (generateDomain codec tables domainName description)
        w).calls)).map Prod.snd) = countReused result.domainGraph.allNodes := by
  obtain ⟨stats, hstanding, hstats, hentered⟩ := settled_generateDomain h
  obtain ⟨hcreated, hreused⟩ := hstanding.isFounded.counts
  obtain ⟨domain, hdomain⟩ := Option.isSome_iff_exists.1 hstanding.isFounded.1
  have hcompletions := hentered.completions_eq
  simp only at hcompletions
  rw [hstats, hstanding.statistics, hcompletions, allNodes_eq]
  simp only [countCreated_append, countReused_append, hcreated, hreused, hdomain, total,
    List.map_cons, List.map_nil, List.foldr_cons, List.foldr_nil, Option.toList_some,
    List.length_singleton]
  refine ⟨by omega, trivial, by omega, by omega⟩

theorem bracketed_tallied : ∃ result : DomainGenerationResult,
    (bracketed.exec (generateDomain (replying ["Openings"] noLinks) plainTables "Chess" none)
      (World.start emptyGraph)).exit = .ok result ∧
    1 + result.statistics.domainLevelsCreated + result.statistics.knowledgeCreated +
        result.statistics.skillsCreated + result.statistics.traitsCreated +
        result.statistics.milestonesCreated = countCreated result.domainGraph.allNodes ∧
      result.statistics.nodesReused = countReused result.domainGraph.allNodes ∧
      total ((completions (sent (bracketed.exec (generateDomain (replying ["Openings"] noLinks)
        plainTables "Chess" none) (World.start emptyGraph)).calls)).map Prod.fst) =
          countCreated result.domainGraph.allNodes ∧
      total ((completions (sent (bracketed.exec (generateDomain (replying ["Openings"] noLinks)
        plainTables "Chess" none) (World.start emptyGraph)).calls)).map Prod.snd) =
          countReused result.domainGraph.allNodes := by
  obtain ⟨result, hok⟩ : ∃ result, (bracketed.exec (generateDomain (replying ["Openings"] noLinks)
    plainTables "Chess" none) (World.start emptyGraph)).exit = .ok result := ⟨_, rfl⟩
  exact ⟨result, hok, generateDomain_tallied _ _ bracketed _ "Chess" none result hok⟩

/-- The statistics do not count relationships, so they agree with the registry
exactly if the database confirms none of those that the registry records. -/
theorem generateDomain_relationships_iff (codec : Codec) (tables : DomainArchitectStep.CharTables)
    (env : Env) (w : World) (domainName : String) (description : Option String)
    (result : DomainGenerationResult)
    (h : (env.exec (generateDomain codec tables domainName description) w).exit = .ok result) :
    result.statistics.relationshipsCreated =
        result.domainGraph.levelRequirements.length + result.domainGraph.generalizations.length +
          result.domainGraph.prerequisites.length ↔
      ∀ call ∈ (env.exec (generateDomain codec tables domainName description) w).calls,
        ¬ Confirms call := by
  obtain ⟨stats, hstanding, hstats, hentered⟩ := settled_generateDomain h
  rw [← hentered.links, hstats, hstanding.statistics, Unlinked, ← List.length_eq_zero_iff,
    ← List.length_eq_zero_iff, ← List.length_eq_zero_iff]
  simp only
  omega

theorem bracketed_relationships_iff : ∃ result : DomainGenerationResult,
    (bracketed.exec (generateDomain (replying ["Openings"] noLinks) plainTables "Chess" none)
      (World.start emptyGraph)).exit = .ok result ∧
    (result.statistics.relationshipsCreated =
        result.domainGraph.levelRequirements.length + result.domainGraph.generalizations.length +
          result.domainGraph.prerequisites.length ↔
      ∀ call ∈ (bracketed.exec (generateDomain (replying ["Openings"] noLinks) plainTables "Chess"
        none) (World.start emptyGraph)).calls, ¬ Confirms call) := by
  obtain ⟨result, hok⟩ : ∃ result, (bracketed.exec (generateDomain (replying ["Openings"] noLinks)
    plainTables "Chess" none) (World.start emptyGraph)).exit = .ok result := ⟨_, rfl⟩
  exact ⟨result, hok, generateDomain_relationships_iff _ _ bracketed _ "Chess" none result hok⟩

def openingsLink : Json :=
  .object [("level_assignments", .array
    [.object [("component", .str "Openings"), ("level", .int 1)]]), ("prerequisites", .array [])]

theorem linked_relationships_not_counted :
    ¬ ∀ (codec : Codec) (tables : DomainArchitectStep.CharTables) (env : Env) (w : World)
      (domainName : String) (description : Option String) (result : DomainGenerationResult),
      (env.exec (generateDomain codec tables domainName description) w).exit = .ok result →
        result.statistics.relationshipsCreated =
          result.domainGraph.levelRequirements.length + result.domainGraph.generalizations.length +
            result.domainGraph.prerequisites.length := by
  intro hall
  obtain ⟨result, hok, hcount, hlinks⟩ : ∃ result : DomainGenerationResult,
      (bracketed.exec (generateDomain (replying ["Openings"] openingsLink) plainTables "Chess" none)
        (World.start emptyGraph)).exit = .ok result ∧
      result.statistics.relationshipsCreated = 0 ∧
      result.domainGraph.levelRequirements.length = 4 := ⟨_, rfl, rfl, rfl⟩
  have hsum := hall _ _ bracketed (World.start emptyGraph) "Chess" none result hok
  omega

end AtlasOfUs.Agent
