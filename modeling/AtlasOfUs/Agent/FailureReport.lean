import AtlasOfUs.Agent.Accounts
import AtlasOfUs.Agent.Filing

namespace AtlasOfUs.Agent

open Library Similarity GraphApi

def Atomic (env : Env) (start : Nat) (calls : List AgentCall) : Prop :=
  ∀ before q reply after, calls = before ++ ⟨.execute q, reply⟩ :: after → (madeLabel q).isSome →
    (env.outcome (start + before.length)).applied = (env.outcome (start + before.length)).returnsRow

/-- The calls of a run that fails past the nodes it has created. -/
structure CarriedThrough (env : Env) (start : Nat) (calls : List AgentCall) : Prop where
  atomic : Atomic env start calls
  movesOn : ∀ before call after, calls = before ++ call :: after → (createdId call).isSome →
    ∃ later ∈ after, MovesOn later

section Graph

variable {env : Env} {w₀ : World} {s : Recorded}

def AgentStatement (q : Statement) : Prop :=
  (∃ label props, q = createNodeStatement [label] props) ∨
    ∃ request : CreateRelationshipRequest, q = request.statement

theorem Atomic.before {start : Nat} {calls : List AgentCall} {call : AgentCall}
    (h : Atomic env start (calls ++ [call])) : Atomic env start calls := by
  rintro before q reply after rfl hq
  apply h before q reply (after ++ [call]) _ hq
  rw [List.append_assoc, List.cons_append]

structure Grown (env : Env) (w₀ : World) (s : Recorded) : Prop where
  clock : s.1.clock = w₀.clock + s.2.length
  nodes : Atomic env w₀.clock s.2 →
    s.1.graph.nodeIds = w₀.graph.nodeIds ++ s.2.filterMap createdId

theorem Grown.idle (h : Grown env w₀ s) {o : Op SseEvent Prompt} {reply : o.Reply} {w : World}
    (hclock : w.clock = s.1.clock + 1) (hids : w.graph.nodeIds = s.1.graph.nodeIds)
    (hnone : createdId ⟨o, reply⟩ = none) :
    Grown env w₀ (w, s.2 ++ [(⟨o, reply⟩ : AgentCall)]) where
  clock := by
    rw [hclock, h.clock, List.length_append, List.length_singleton]
    rfl
  nodes hatomic := by
    rw [hids, h.nodes hatomic.before, filterMap_snoc, hnone, Option.toList_none, List.append_nil]

theorem Grown.create (h : Grown env w₀ s) (label : String) (props : Props) :
    Grown env w₀ (recorder env (.execute (createNodeStatement [label] props)) s).2 where
  clock := by
    change s.1.clock + 1 = w₀.clock + (s.2 ++ [_]).length
    rw [h.clock, List.length_append, List.length_singleton]
    rfl
  nodes hatomic := by
    have happlied := hatomic s.2 (createNodeStatement [label] props) _ [] rfl rfl
    rw [← h.clock] at happlied
    have hbefore : Atomic env w₀.clock s.2 := hatomic.before
    have hyield := @createdId_create label props (env.outcome s.1.clock) s.1.graph
    change ((env.outcome s.1.clock).after (createNodeStatement [label] props) s.1.graph).nodeIds =
      w₀.graph.nodeIds ++ (s.2 ++ [(⟨.execute (createNodeStatement [label] props),
        (env.outcome s.1.clock).reply (createNodeStatement [label] props s.1.graph).1⟩ :
          AgentCall)]).filterMap createdId
    rw [filterMap_snoc, hyield, ← List.append_assoc, ← h.nodes hbefore, Outcome.after, happlied]
    cases (env.outcome s.1.clock).returnsRow with
    | true => exact Graph.createNode_nodeIds _ _ _
    | false => exact (List.append_nil _).symm

theorem Grown.step (h : Grown env w₀ s) {o : Op SseEvent Prompt}
    (ho : Emission AgentStatement (fun _ => True) o) : Grown env w₀ (recorder env o s).2 := by
  cases o with
  | execute q =>
      rcases ho with ⟨label, props, rfl⟩ | ⟨request, rfl⟩
      · exact h.create label props
      · apply h.idle rfl _ (createdId_unmade (madeLabel_merge request) _)
        exact after_cases (P := fun g => g.nodeIds = s.1.graph.nodeIds) (fun _ hg => hg)
          (fun g hg => (congrArg (List.map _) (mergeRelationshipStatement_nodes _ _ _ _ g)).trans hg)
          (env.outcome s.1.clock) rfl
  | _ => exact h.idle rfl rfl rfl

theorem grown_exec {ε α : Type} {p : Service SseEvent Prompt ε α}
    (hp : Emits AgentStatement (fun _ => True) p) (env : Env) (w : World) :
    Grown env w ((env.exec p w).state, (env.exec p w).calls) := by
  have hstart : Grown env w ((w, []) : Recorded) := ⟨rfl, fun _ => (List.append_nil _).symm⟩
  have hrun : Grown env w (p.run (recorder env) (w, [])).state :=
    hp.run_invariant (fun _ _ ho hs => hs.step ho) hstart
  rw [(run_recording env.handler p (w, [])).2] at hrun
  exact hrun

variable (codec : Codec) (tables : DomainArchitectStep.CharTables)

theorem agentStatement_create (label : String) (props : Props) :
    AgentStatement (createNodeStatement [label] props) := .inl ⟨label, props, rfl⟩

theorem agentStatement_merge (request : CreateRelationshipRequest) :
    AgentStatement request.statement := .inr ⟨request, rfl⟩

theorem emits_agentStatements (agent : AgentType) (context : AgentContext) :
    Emits AgentStatement (fun _ => True) (executeAgent codec tables agent context) := by
  cases agent with
  | domainArchitect =>
      exact DomainArchitectStep.emits_execute codec tables (agentStatement_create _)
        (agentStatement_create _) (fun _ _ => agentStatement_merge _) (fun _ => trivial) context
  | knowledgeGenerator | skillGenerator =>
      exact GeneratorKind.emits_execute codec (agentStatement_create _)
        (fun _ _ => agentStatement_merge _) (fun _ => trivial) context
  | traitGenerator =>
      exact TraitGeneratorStep.emits_execute codec (agentStatement_create _) (fun _ => trivial) context
  | milestoneGenerator =>
      exact MilestoneGeneratorStep.emits_execute codec (agentStatement_create _) (fun _ => trivial)
        context
  | levelDistributor =>
      exact LevelDistributorStep.emits_execute codec agentStatement_merge (fun _ _ => trivial) context
  | prerequisiteMapper =>
      exact PrerequisiteMapperStep.emits_execute codec agentStatement_merge (fun _ _ => trivial) context

theorem emits_generateDomain (domainName : String) (description : Option String) :
    Emits AgentStatement (fun _ => True) (generateDomain codec tables domainName description) := by
  have hcheck : Emits AgentStatement (fun _ => True) (checkDomainExists domainName) :=
    (emits_similarTo _ _ _).bind fun _ => trivial
  apply hcheck.bind
  intro existing
  cases existing with
  | some name => exact Emits.send_bind trivial trivial
  | none =>
      apply Emits.send_bind trivial
      apply Calls.bind (Calls.foldlM _ (fun acc x _ => ?_) _)
      · exact fun acc => Emits.send_bind trivial trivial
      · rw [runAgent_eq]
        apply Emits.send_bind trivial
        apply (emits_agentStatements codec tables x.1 acc.1).attempt.bind
        exact fun result => emits_afterAgent (fun _ _ => trivial) x.1 acc.2 result

end Graph

section Run

variable {env : Env} (codec : Codec) (tables : DomainArchitectStep.CharTables)

def FailsPartly (error : String) (s : Recorded) : Prop :=
  ∃ agent registry, (sent s.2).getLast? = some (.failed error (some agent) (some registry)) ∧
    PartlyFiled registry s

theorem filed_runAgent {x : AgentType × Nat} {context : AgentContext}
    (hfresh : context.domainGraph.share x.1 = {}) (stats : DomainStatistics) :
    Triple (recorder env)
      (fun s => Filed context.domainGraph [] s ∧ Books x.1 context.domainGraph context.domainGraph s)
      (runAgent codec tables (context, stats) x) (fun acc => Filed acc.1.domainGraph [])
      FailsPartly := by
  rw [runAgent_eq]
  let Begun := fun (s : Recorded) => Filed context.domainGraph [] s ∧
    Books x.1 context.domainGraph context.domainGraph s
  have hbegun : ∀ e : SseEvent, e.announces = false → ∀ s, Begun s → Begun (s.note e) :=
    fun e he s hs => ⟨posted_note e s hs.1, books_send he s hs.2⟩
  apply record_send_bind (hbegun _ rfl)
  apply Triple.attempt_bind (filed_executeAgent codec tables hfresh)
  · intro context'
    exact record_send_bind (posted_note _) (Triple.done fun _ hs => hs)
  · intro failure
    refine record_send_bind (Q := PartlyFiled failure.2.domainGraph) ?_
      (record_send_bind (Q := FailsPartly failure.1) ?_ (Triple.fail fun _ hs => hs))
    · exact fun s ⟨pending, hs⟩ => ⟨pending, posted_note _ s hs⟩
    · rintro s ⟨pending, hs⟩
      exact ⟨x.1, failure.2.domainGraph, by simp, pending, posted_note _ s hs⟩

theorem filed_runAgents {context : AgentContext} (hempty : context.domainGraph = {}) :
    Triple (recorder env) (fun s => Entered [] {} s ∧ Filed {} [] s) (runAgents codec tables context)
      (fun _ _ => True) FailsPartly := by
  let Inv := fun (acc : AgentContext × DomainStatistics) (rest : Agents) (s : Recorded) =>
    ∃ done, Standing done rest acc.1.domainGraph acc.2 ∧ Entered done acc.1.domainGraph s ∧
      Filed acc.1.domainGraph [] s
  have hround : ∀ acc x rest, Triple (recorder env) (Inv acc (x :: rest)) (runAgent codec tables acc x)
      (fun acc' => Inv acc' rest) FailsPartly := by
    rintro ⟨context, stats⟩ x rest
    apply Triple.exists_pre
    intro done
    apply Triple.of_pre (fun _ hs => hs.1)
    intro hstanding
    have hfresh := hstanding.fresh x List.mem_cons_self
    apply ((entered_runAgent codec tables hstanding).and (filed_runAgent codec tables hfresh
      stats)).conseq
    · exact fun _ hs => ⟨hs.2.1, hs.2.2, hs.2.1.books x.1⟩
    · exact fun _ _ hs => ⟨done ++ [x], hs.1.1.1, hs.1.2, hs.2⟩
    · exact fun _ _ hs => hs.2
  apply (Triple.foldlM Inv hround allAgents.zipIdx (context, {})).conseq
  · rintro s ⟨hentered, hfiled⟩
    refine ⟨[], ?_⟩
    simp only [hempty]
    exact ⟨standing_start, hentered, hfiled⟩
  · exact fun _ _ _ => trivial
  · exact fun _ _ hs => hs

theorem filed_runWorkflow (domainName : String) (description : Option String) :
    Triple (recorder env) (fun s => Entered [] {} s ∧ Filed {} [] s)
      (runWorkflow codec tables domainName description) (fun _ _ => True) FailsPartly := by
  refine record_send_bind (Q := fun s => Entered [] {} s ∧ Filed {} [] s)
    (fun s hs => ⟨hs.1.note rfl rfl, posted_note _ s hs.2⟩) ?_
  apply (filed_runAgents codec tables rfl).bind
  intro acc
  exact record_send_bind (Q := fun _ => True) (fun _ _ => trivial) (Triple.done fun _ _ => trivial)

end Run

section Failure

variable {codec : Codec} {tables : DomainArchitectStep.CharTables} {env : Env} {w : World}
  {domainName : String} {description : Option String} {error : String} {agent : Option AgentType}
  {carried : Option DomainGraphRegistry}

theorem runWorkflow_err
    (h : (sent (env.exec (runWorkflow codec tables domainName description) w).calls).getLast? =
      some (.failed error agent carried)) :
    ∃ e, (env.exec (runWorkflow codec tables domainName description) w).exit = .err e := by
  obtain ⟨agents, hreporting, hsplit⟩ := runWorkflow_eq codec tables domainName description
  have hx : Reports (env.exec agents w) := hreporting env w
  rw [hsplit, exec_bind] at h ⊢
  cases hrun : env.exec agents w with
  | mk exit state calls =>
      rw [hrun] at hx h
      cases exit with
      | ok acc =>
          obtain ⟨stats, result, hfinish⟩ := exec_finishWorkflow env state domainName acc
          rw [Execution.andThen_ok, hfinish, sent_append] at h
          simp at h
      | err e => exact ⟨e, rfl⟩
      | panicked =>
          have hquiet := hx.1 _ (List.mem_of_getLast? h)
          cases hquiet

theorem passesCheck_of_failed
    (h : (sent (env.exec (generateDomain codec tables domainName description) w).calls).getLast? =
      some (.failed error agent carried)) : PassesCheck env w.clock := by
  obtain ⟨hsent, -, ⟨hpass, -⟩ | ⟨-, ⟨name, hexit⟩ | ⟨e, hexit⟩⟩⟩ :=
    exec_checkDomainExists env w domainName
  · exact hpass
  · rw [generateDomain, exec_bind, Execution.calls_andThen hexit, sent_append, hsent] at h
    simp [exec_bind] at h
  · rw [generateDomain, exec_bind, Execution.calls_andThen_err hexit, hsent] at h
    cases h

/-- The registry that a failed run carries and what it has not got yet are what the run created. -/
theorem generateDomain_posted
    (h : (sent (env.exec (generateDomain codec tables domainName description) w).calls).getLast? =
      some (.failed error agent carried)) :
    ∃ registry pending, carried = some registry ∧
      Posted createdId MovesOn (newIds registry.allNodes) pending
        ((env.exec (generateDomain codec tables domainName description) w).state,
          (env.exec (generateDomain codec tables domainName description) w).calls) := by
  obtain ⟨vector, rows, hexit, hstate, hcalls⟩ :=
    exec_generateDomain_passes codec tables (passesCheck_of_failed h) domainName description
  rw [hcalls, sent_checkCalls] at h
  obtain ⟨e, he⟩ := runWorkflow_err h
  have hstart : Filed {} [] ((w.tick.tick, []) : Recorded) := Posted.of_tallied (tallied_nil _)
  obtain ⟨last, registry, hlast, pending, hfiled⟩ :=
    (filed_runWorkflow codec tables domainName description).recorded_error
      ⟨entered_start w.tick.tick, hstart⟩ he
  have hsame := Option.some.inj (h.symm.trans hlast)
  injection hsame with _ _ hcarried
  rw [hstate, hcalls]
  exact ⟨registry, pending, hcarried, hfiled.prepend rfl⟩

theorem filter_new {ids new : List ElementId} (h : (ids ++ new).Nodup) :
    (ids ++ new).filter (fun id => id ∉ ids) = new := by
  have hdisjoint := (List.nodup_append.1 h).2.2
  rw [List.filter_append, List.filter_eq_nil_iff.2 (by simp), List.nil_append,
    List.filter_eq_self]
  intro id hid
  simp only [decide_eq_true_eq]
  exact fun hmem => hdisjoint id hmem id hid rfl

end Failure

/-- A run that fails past the nodes it has created lists exactly those in its last event. -/
theorem generateDomain_failure_listed (codec : Codec) (tables : DomainArchitectStep.CharTables)
    (env : Env) (w : World) (domainName : String) (description : Option String) (error : String)
    (agent : Option AgentType) (carried : Option DomainGraphRegistry)
    (hfailed : (sent (env.exec (generateDomain codec tables domainName description)
      w).calls).getLast? = some (.failed error agent carried))
    (hcarried : CarriedThrough env w.clock
      (env.exec (generateDomain codec tables domainName description) w).calls) :
    ∃ registry, carried = some registry ∧
      (newIds registry.allNodes).Perm
        ((env.exec (generateDomain codec tables domainName description) w).state.graph.nodeIds.filter
          (fun id => id ∉ w.graph.nodeIds)) := by
  obtain ⟨registry, pending, hsame, hposted⟩ := generateDomain_posted hfailed
  have hlisted := hposted.settled (not_outstanding_iff.2 hcarried.movesOn)
  have hgrown := grown_exec (emits_generateDomain codec tables domainName description) env w
  have hnodes := hgrown.nodes hcarried.atomic
  have hnodup := (env.exec (generateDomain codec tables domainName description)
    w).state.graph.nodeIds_nodup
  refine ⟨registry, hsame, ?_⟩
  rw [← Graph.nodeIds, hnodes] at hnodup
  rw [hnodes, filter_new hnodup]
  exact hlisted.symm

/-- A calm world in which the language model never answers. -/
def unanswered : Env := { Env.calm with llm := fun _ => .error "timeout" }

theorem unanswered_carriedThrough : CarriedThrough unanswered 0
    (unanswered.exec (generateDomain (replying ["Openings"] noLinks) plainTables "Chess" none)
      (World.start emptyGraph)).calls where
  atomic _ _ _ _ _ _ := rfl
  movesOn := by
    generalize hcalls : (unanswered.exec (generateDomain (replying ["Openings"] noLinks) plainTables
      "Chess" none) (World.start emptyGraph)).calls = calls
    obtain ⟨prompt, reply, agentFailed, failed, hdrop⟩ : ∃ prompt reply agentFailed failed,
        calls.drop 33 =
          [⟨.generate prompt, reply⟩, ⟨.send agentFailed, ()⟩, ⟨.send failed, ()⟩] := by
      rw [← hcalls]
      exact ⟨_, _, _, _, rfl⟩
    rw [← not_outstanding_iff, ← List.take_append_drop 33 calls, hdrop]
    apply not_outstanding_of_settled
    · exact trivial
    · intro c hc
      simp only [List.mem_cons, List.not_mem_nil, or_false] at hc
      rcases hc with rfl | rfl | rfl
      · rfl
      · rfl
      · rfl

theorem unanswered_failure_listed : ∃ error agent carried,
    (sent (unanswered.exec (generateDomain (replying ["Openings"] noLinks) plainTables "Chess" none)
      (World.start emptyGraph)).calls).getLast? = some (.failed error agent carried) ∧
    ∃ registry, carried = some registry ∧
      (newIds registry.allNodes).Perm
        ((unanswered.exec (generateDomain (replying ["Openings"] noLinks) plainTables "Chess" none)
          (World.start emptyGraph)).state.graph.nodeIds.filter
            (fun id => id ∉ (World.start emptyGraph).graph.nodeIds)) := by
  obtain ⟨error, agent, carried, hfailed⟩ : ∃ error agent carried,
      (sent (unanswered.exec (generateDomain (replying ["Openings"] noLinks) plainTables "Chess" none)
        (World.start emptyGraph)).calls).getLast? = some (.failed error agent carried) :=
    ⟨_, _, _, rfl⟩
  exact ⟨error, agent, carried, hfailed, generateDomain_failure_listed _ _ unanswered _ "Chess" none
    error agent carried hfailed unanswered_carriedThrough⟩

/-- A calm world in which the level that has just been created is not linked to its domain. -/
def unlinkedLevel : Env :=
  { bracketed with
    outcome := fun n => if n = 12 then .failed false "connection reset" else .done }

theorem unlinkedLevel_not_listed :
    ¬ ∀ (codec : Codec) (tables : DomainArchitectStep.CharTables) (env : Env) (w : World)
      (domainName : String) (description : Option String) (error : String)
      (agent : Option AgentType) (carried : Option DomainGraphRegistry),
      (sent (env.exec (generateDomain codec tables domainName description)
        w).calls).getLast? = some (.failed error agent carried) →
      ∃ registry, carried = some registry ∧
        (newIds registry.allNodes).Perm
          ((env.exec (generateDomain codec tables domainName description) w).state.graph.nodeIds.filter
            (fun id => id ∉ w.graph.nodeIds)) := by
  intro hall
  obtain ⟨error, agent, registry, hfailed, hlisted⟩ : ∃ error agent registry,
      (sent (unlinkedLevel.exec (generateDomain (replying ["Openings"] noLinks) plainTables "Chess" none)
        (World.start emptyGraph)).calls).getLast? = some (.failed error agent (some registry)) ∧
      (newIds registry.allNodes).length = 1 := ⟨_, _, _, rfl, rfl⟩
  have hcreated : ((unlinkedLevel.exec (generateDomain (replying ["Openings"] noLinks) plainTables
      "Chess" none) (World.start emptyGraph)).state.graph.nodeIds.filter
        (fun id => id ∉ (World.start emptyGraph).graph.nodeIds)).length = 2 := by
    decide +kernel
  obtain ⟨listed, hsame, hperm⟩ := hall _ _ unlinkedLevel (World.start emptyGraph) "Chess" none error
    agent (some registry) hfailed
  obtain rfl := Option.some.inj hsame
  have hlength := hperm.length_eq
  rw [hlisted, hcreated] at hlength
  cases hlength

end AtlasOfUs.Agent
