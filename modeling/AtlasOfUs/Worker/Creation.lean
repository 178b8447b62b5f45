import AtlasOfUs.Worker.Stages

namespace AtlasOfUs.Worker

open Library Similarity

variable {codec : WorkerCodec} {job : NodeGenerationJob} {env : Env} {w : World}

section Frame

variable {Event Prompt ε α β : Type} {p : Service Event Prompt ε α}
  {f : α → Service Event Prompt ε β}

abbrev KeepsNodes (p : Service Event Prompt ε α) : Prop :=
  Emits (fun q => ∀ g : Graph, (q g).2.nodes = g.nodes) (fun _ => True) p

theorem KeepsNodes.nodes_eq (hp : KeepsNodes p) (env : Env) (w : World) :
    (env.exec p w).state.graph.nodes = w.graph.nodes :=
  hp.maintains (P := fun g => g.nodes = w.graph.nodes) (fun _ g hq hg => (hq g).trans hg) env w rfl

theorem nodes_bind (hf : ∀ a, KeepsNodes (f a)) (env : Env) (w : World) :
    (env.exec (p >>= f) w).state.graph.nodes = (env.exec p w).state.graph.nodes := by
  rw [exec_bind]
  cases hp : (env.exec p w).exit with
  | ok a =>
      rw [Execution.state_andThen hp]
      exact (hf a).nodes_eq env _
  | err e | panicked => rw [Execution.state_andThen_of_none (by rw [hp]; rfl)]

theorem mem_calls_bind_left {c : Call (services Event Prompt)} (h : c ∈ (env.exec p w).calls) :
    c ∈ (env.exec (p >>= f) w).calls := by
  rw [exec_bind]
  cases hp : (env.exec p w).exit with
  | ok a =>
      rw [Execution.calls_andThen hp]
      exact List.mem_append_left _ h
  | err e | panicked => rwa [Execution.calls_andThen_of_none (by rw [hp]; rfl)]

theorem mem_calls_bind_right {c : Call (services Event Prompt)} {a : α}
    (hp : (env.exec p w).exit = .ok a) (h : c ∈ (env.exec (f a) (env.exec p w).state).calls) :
    c ∈ (env.exec (p >>= f) w).calls := by
  rw [exec_bind, Execution.calls_andThen hp]
  exact List.mem_append_right _ h

end Frame

theorem keepsNodes_connect (type : String) (source target : ElementId) :
    KeepsNodes (runWrite (connectStatement type source target)) :=
  emits_runWrite fun g => Graph.createEdge_nodes g type source target Props.empty

theorem keepsNodes_assignToLevel (job : NodeGenerationJob) (processor : NodeProcessor)
    (id : ElementId) (wasReused : Bool) :
    KeepsNodes (processor.assignToLevel job id wasReused) := by
  refine Calls.bind ?_ fun _ => trivial
  rw [NodeProcessor.linkToLevel]
  split
  · exact keepsNodes_connect _ _ _
  · trivial

section Generation

variable (processor : NodeProcessor)

def NodeProcessor.written (reply : Except String String) : Option GeneratedProperties :=
  reply.toOption.bind fun response => (processor.parse (extractJson response)).toOption

theorem exec_askJson {α : Type} (env : Env) (w : World) (prompt : WorkerPrompt)
    (parse : String → Except String α) (complaint : String → String → String) :
    (env.exec (askJson prompt parse complaint) w).state = w.tick ∧
      (env.exec (askJson prompt parse complaint) w).exit.toOption =
        (env.llm w.clock).toOption.bind fun response => (parse (extractJson response)).toOption := by
  have hask : env.exec (generate prompt : Processing _) w =
      ⟨.ok (env.llm w.clock), w.tick, [⟨.generate prompt, env.llm w.clock⟩]⟩ := rfl
  rw [askJson, exec_bind, hask, Execution.andThen_ok]
  cases env.llm w.clock with
  | error e => exact ⟨rfl, rfl⟩
  | ok response =>
      simp only [Except.toOption, Option.bind_some]
      cases parse (extractJson response) <;> exact ⟨rfl, rfl⟩

theorem exec_generateProperties (env : Env) (w : World) (job : NodeGenerationJob) :
    (env.exec (processor.generateProperties job) w).state = w.tick ∧
      (env.exec (processor.generateProperties job) w).exit.toOption =
        processor.written (env.llm w.clock) :=
  exec_askJson env w _ _ _

theorem exec_createNode (env : Env) (w : World) (label : String) (props : GeneratedProperties) :
    (⟨.embed props.name, env.embedding w.clock⟩ : Call (services Empty WorkerPrompt)) ∈
        (env.exec (createNode label props) w).calls ∧
      ∀ vector, env.embedding w.clock = .ok vector →
        (env.exec (createNode label props) w).state.graph = (env.outcome (w.clock + 1)).after
          (createNodeStatement label props.name (props.stored vector)) w.graph := by
  rw [createNode, exec_bind, exec_generateEmbedding]
  refine ⟨List.mem_append_left _ (List.mem_singleton_self _), fun vector hv => ?_⟩
  rw [Execution.andThen_ok, hv]
  simp only
  rw [exec_bind, exec_execute, Execution.andThen_ok]
  cases (env.outcome w.tick.clock).reply
      (createNodeStatement label props.name (props.stored vector) w.tick.graph).1 with
  | error e => rfl
  | ok result =>
      simp only
      cases result.next with
      | error e => rfl
      | ok row => cases row <;> rfl

theorem exec_generateAndCreate (env : Env) (w : World) (job : NodeGenerationJob) :
    (processor.written (env.llm w.clock) = none →
      (env.exec (processor.generateAndCreate job) w).state.graph = w.graph) ∧
    ∀ props, processor.written (env.llm w.clock) = some props →
      (⟨.embed props.name, env.embedding (w.clock + 1)⟩ : Call (services Empty WorkerPrompt)) ∈
        (env.exec (processor.generateAndCreate job) w).calls ∧
      ∀ vector, env.embedding (w.clock + 1) = .ok vector →
        (env.exec (processor.generateAndCreate job) w).state.graph =
          (env.outcome (w.clock + 2)).after (createNodeStatement processor.nodeType.label
            props.name (props.stored vector)) w.graph := by
  obtain ⟨hstate, hexit⟩ := exec_generateProperties processor env w job
  rw [NodeProcessor.generateAndCreate]
  refine ⟨fun hnone => ?_, fun props hprops => ?_⟩
  · rw [exec_bind, Execution.state_andThen_of_none (hexit.trans hnone), hstate]
    rfl
  · have hok := Exit.toOption_eq_some.1 (hexit.trans hprops)
    obtain ⟨hcall, hgraph⟩ :=
      exec_createNode env w.tick processor.nodeType.label props
    refine ⟨mem_calls_bind_right hok (by rw [hstate]; exact hcall), fun vector hv => ?_⟩
    rw [exec_bind, Execution.state_andThen hok, hstate]
    exact hgraph vector hv

end Generation

namespace NodeGenerationJob

variable (codec) (job) (env)

/-- The call with which the job asks what its node is to be, if it makes one: after the search, and
after the verification where the score decides nothing. -/
def generationCall : Nat :=
  if job.nodeType = .milestone then 0
  else match env.similar 1 with
    | .ok rows =>
        if (decideByScore (rows.map SimilarNodeResult.ofRow)
          (thresholdsOf job.nodeType)).isSome then 2 else 3
    | .error _ => 2

/-- The properties of the node that the job makes, if it comes to make one. -/
def generated : Option GeneratedProperties :=
  match job.decision codec env 0 with
  | none | some (.useExisting _ _) => none
  | some _ => (processorOf codec job.nodeType).written (env.llm (job.generationCall env))

end NodeGenerationJob

theorem state_decideConceptAction (conceptName : String) (similarNodes : List SimilarNodeResult)
    (thresholds : SimilarityThresholds) (domainName nodeLabel : String) :
    (env.exec (decideConceptAction codec conceptName similarNodes thresholds domainName nodeLabel)
        w).state =
      if (decideByScore similarNodes thresholds).isSome then w else w.tick := by
  rw [decideConceptAction]
  cases decideByScore similarNodes thresholds with
  | some decision => rfl
  | none =>
      obtain ⟨hstate, -⟩ := exec_askJson env w
        (.verification domainName nodeLabel conceptName
          (similarNodes.map fun n => (n.name, n.description, n.score))) codec.verification
        (fun e response =>
          "Failed to parse LLM verification response: " ++ e ++ ". Response was: " ++ response)
      change (env.exec (verifyWithLlm codec conceptName similarNodes domainName nodeLabel >>= _)
        w).state = w.tick
      rw [exec_bind, verifyWithLlm]
      cases hexit : (env.exec (askJson _ codec.verification _) w).exit with
      | ok verification => exact (Execution.state_andThen hexit _).trans hstate
      | err e | panicked =>
          exact (Execution.state_andThen_of_none (by rw [hexit]; rfl) _).trans hstate

theorem state_searchAndDecide {processor : NodeProcessor} {thresholds : SimilarityThresholds}
    {decision : ConceptDecision}
    (h : (env.exec (processor.searchAndDecide codec job thresholds) w).exit = .ok decision) :
    ∃ rows, env.similar (w.clock + 1) = .ok rows ∧
      (env.exec (processor.searchAndDecide codec job thresholds) w).state = ⟨w.graph, w.clock +
        if (decideByScore (rows.map SimilarNodeResult.ofRow) thresholds).isSome then 2 else 3⟩ := by
  rw [NodeProcessor.searchAndDecide, exec_bind] at h ⊢
  obtain ⟨similarNodes, hsearch, -⟩ := Execution.exit_andThen_eq_ok h
  obtain ⟨-, hexit, hstate⟩ :=
    @exec_findSimilarByText env w job.nodeName (some processor.nodeType.label) 3
  rw [hsearch, Exit.toOption_ok] at hexit hstate
  cases hvector : env.embedding w.clock with
  | error e => simp [hvector, Except.toOption] at hexit
  | ok vector =>
      cases hrows : env.similar (w.clock + 1) with
      | error e => simp [hrows, hvector, Except.toOption] at hexit
      | ok rows =>
          have hsame : similarNodes = rows.map SimilarNodeResult.ofRow := by
            simpa [hrows, hvector, Except.toOption] using hexit
          subst hsame
          refine ⟨rows, rfl, ?_⟩
          rw [Execution.state_andThen hsearch, hstate rfl, state_decideConceptAction]
          split <;> rfl

section Resolve

variable (processor : NodeProcessor) (generalizes : Bool)

theorem executeDecision_eq (job : NodeGenerationJob) {decision : ConceptDecision}
    (h : ∀ id name, decision ≠ .useExisting id name) :
    ∃ f, processor.executeDecision job generalizes decision = processor.generateAndCreate job >>= f ∧
      ∀ created, KeepsNodes (f created) := by
  cases decision with
  | useExisting id name => exact absurd rfl (h id name)
  | createNew => exact ⟨_, rfl, fun _ => trivial⟩
  | createAndGeneralize target name =>
      refine ⟨_, rfl, fun created => ?_⟩
      cases generalizes with
      | false => trivial
      | true => exact (keepsNodes_connect _ _ _).bind fun _ => trivial

/-- What a run may have done to the nodes: it made one of the given properties as the database
pleased, or none where there are no properties. -/
structure Makes (env : Env) (label : String) (generated : Option GeneratedProperties) (clock : Nat)
    (g g' : Graph) (calls : List (Call (services Empty WorkerPrompt))) : Prop where
  none : generated = none → g'.nodes = g.nodes
  embedded : ∀ props, generated = some props →
    (⟨.embed props.name, env.embedding (clock + 1)⟩ : Call (services Empty WorkerPrompt)) ∈ calls
  made : ∀ props vector, generated = some props → env.embedding (clock + 1) = .ok vector →
    g'.nodes = ((env.outcome (clock + 2)).after
      (createNodeStatement label props.name (props.stored vector)) g).nodes

theorem Makes.mono {label : String} {generated : Option GeneratedProperties} {clock : Nat}
    {g g' : Graph} {calls calls' : List (Call (services Empty WorkerPrompt))}
    (h : Makes env label generated clock g g' calls) (hsub : calls ⊆ calls') :
    Makes env label generated clock g g' calls' :=
  ⟨h.none, fun props hprops => hsub (h.embedded props hprops), h.made⟩

theorem makes_nothing {label : String} {clock : Nat} {g g' : Graph}
    {calls : List (Call (services Empty WorkerPrompt))} (h : g'.nodes = g.nodes) :
    Makes env label none clock g g' calls :=
  ⟨fun _ => h, fun _ hprops => (Option.some_ne_none _ hprops.symm).elim,
    fun _ _ hprops => (Option.some_ne_none _ hprops.symm).elim⟩

theorem makes_generateAndCreate (env : Env) (w : World) (job : NodeGenerationJob)
    {β : Type} {f : CreatedNode → Processing β} (hf : ∀ created, KeepsNodes (f created)) :
    Makes env processor.nodeType.label (processor.written (env.llm w.clock)) w.clock w.graph
      (env.exec (processor.generateAndCreate job >>= f) w).state.graph
      (env.exec (processor.generateAndCreate job >>= f) w).calls := by
  obtain ⟨hnone, hsome⟩ := exec_generateAndCreate processor env w job
  refine ⟨fun h => ?_, fun props h => ?_, fun props vector h hv => ?_⟩
  · rw [nodes_bind hf, hnone h]
  · exact mem_calls_bind_left (hsome props h).1
  · rw [nodes_bind hf, (hsome props h).2 vector hv]

theorem makes_executeDecision {decision : ConceptDecision}
    (hnew : ∀ id name, decision ≠ .useExisting id name) (env : Env) (w : World)
    (job : NodeGenerationJob) :
    Makes env processor.nodeType.label (processor.written (env.llm w.clock)) w.clock w.graph
      (env.exec (processor.executeDecision job generalizes decision) w).state.graph
      (env.exec (processor.executeDecision job generalizes decision) w).calls := by
  obtain ⟨f, hf, hkeeps⟩ := executeDecision_eq processor generalizes job hnew
  rw [hf]
  exact makes_generateAndCreate processor env w job hkeeps

variable (codec) in
theorem exec_search (env : Env) (g : Graph) (htype : job.nodeType ≠ .milestone) :
    let x := env.exec ((processorOf codec job.nodeType).searchAndDecide codec job
      (thresholdsOf job.nodeType)) (.start g)
    x.state.graph = g ∧ x.exit.toOption = job.decision codec env 0 ∧
      (x.exit.toOption.isSome = true → x.state = ⟨g, job.generationCall env⟩) := by
  intro x
  obtain ⟨hgraph, hexit⟩ := @exec_searchAndDecide codec job env (.start g)
    (thresholdsOf job.nodeType) (processorOf codec job.nodeType)
  refine ⟨hgraph, hexit.trans ?_, fun hsome => ?_⟩
  · rw [NodeGenerationJob.decision, if_neg htype]
    rfl
  · obtain ⟨decision, hdecision⟩ := Option.isSome_iff_exists.1 hsome
    obtain ⟨rows, hrows, hstate⟩ := state_searchAndDecide (Exit.toOption_eq_some.1 hdecision)
    have hrows' : env.similar 1 = .ok rows := hrows
    refine hstate.trans ?_
    rw [NodeGenerationJob.generationCall, if_neg htype, hrows']
    simp only [World.start, Nat.zero_add]

variable (codec) in
theorem makes_resolveNode (env : Env) (job : NodeGenerationJob) (g : Graph) :
    Makes env job.nodeType.label (job.generated codec env) (job.generationCall env) g
      (env.exec (job.resolveNode codec) (.start g)).state.graph
      (env.exec (job.resolveNode codec) (.start g)).calls := by
  have hlabel : (processorOf codec job.nodeType).nodeType.label = job.nodeType.label := by
    rw [processorOf_nodeType]
  rw [NodeGenerationJob.resolveNode, ← hlabel]
  by_cases htype : job.nodeType = .milestone
  · rw [if_pos htype, NodeGenerationJob.generated, NodeGenerationJob.decision, if_pos htype,
      NodeGenerationJob.generationCall, if_pos htype]
    exact makes_generateAndCreate (processorOf codec job.nodeType) env (.start g) job
      fun _ => trivial
  · obtain ⟨hgraph, hexit, hstate⟩ := exec_search codec env g htype
    rw [if_neg htype, exec_bind, NodeGenerationJob.generated]
    cases hdecision : job.decision codec env 0 with
    | none =>
        rw [Execution.state_andThen_of_none (hexit.trans hdecision)]
        exact makes_nothing (congrArg Library.Graph.nodes hgraph)
    | some decision =>
        have hok := Exit.toOption_eq_some.1 (hexit.trans hdecision)
        rw [Execution.state_andThen hok, Execution.calls_andThen hok,
          hstate (by rw [hexit, hdecision]; rfl)]
        refine Makes.mono ?_ (List.subset_append_right _ _)
        cases decision with
        | useExisting id name => exact makes_nothing rfl
        | createNew =>
            exact makes_executeDecision _ _ (fun _ _ h => by cases h) env
              ⟨g, job.generationCall env⟩ job
        | createAndGeneralize target name =>
            exact makes_executeDecision _ _ (fun _ _ h => by cases h) env
              ⟨g, job.generationCall env⟩ job

variable (codec) in
theorem makes_processJob {config : Config} {key : String} (hkey : config.anthropicApiKey = some key)
    (env : Env) (job : NodeGenerationJob) (g : Graph) :
    Makes env job.nodeType.label (job.generated codec env) (job.generationCall env) g
      (env.exec (processJob codec config job) (.start g)).state.graph
      (env.exec (processJob codec config job) (.start g)).calls := by
  have hmakes := makes_resolveNode codec env job g
  have hprocess : processJob codec config job = job.resolveNode codec >>= fun node =>
      (processorOf codec job.nodeType).assignToLevel job node.1 node.2 := by
    rw [processJob_eq, hkey]
  have hnodes := nodes_bind (fun node : ElementId × Bool =>
    keepsNodes_assignToLevel job (processorOf codec job.nodeType) node.1 node.2) env
    (p := job.resolveNode codec) (.start g)
  rw [hprocess]
  refine ⟨fun h => hnodes.trans (hmakes.none h), fun props h => ?_,
    fun props vector h hv => hnodes.trans (hmakes.made props vector h hv)⟩
  exact mem_calls_bind_left (hmakes.embedded props h)

end Resolve

end AtlasOfUs.Worker
