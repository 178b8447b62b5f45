import AtlasOfUs.Emissions
import AtlasOfUs.Library.Triple
import AtlasOfUs.Worker.Emissions

namespace AtlasOfUs.Worker

open Library Similarity

def thresholdsOf : NodeType → SimilarityThresholds
  | .trait => .traitNode
  | _ => .standard

def generalizesOf : NodeType → Bool
  | .trait => false
  | _ => true

def processorOf (codec : WorkerCodec) : NodeType → NodeProcessor
  | .knowledge => knowledgeProcessor codec
  | .skill => skillProcessor codec
  | .trait => traitProcessor codec
  | .milestone => milestoneProcessor codec

/-- The decision that the rows of the search lead to, with the reply of the language model if it
is asked. -/
def decided (codec : WorkerCodec) (thresholds : SimilarityThresholds) (rows : List SimilarRow)
    (reply : Except String String) : Option ConceptDecision :=
  let similarNodes := rows.map SimilarNodeResult.ofRow
  (decideByScore similarNodes thresholds).or
    ((reply.toOption.bind fun response => (codec.verification (extractJson response)).toOption).map
      (decideByVerification similarNodes))

namespace NodeGenerationJob

variable (codec : WorkerCodec) (job : NodeGenerationJob)

/-- The decision of a job that starts at the given call. A milestone is always new. -/
def decision (env : Env) (clock : Nat) : Option ConceptDecision :=
  if job.nodeType = .milestone then some .createNew
  else (env.embedding clock).toOption.bind fun _ =>
    (env.similar (clock + 1)).toOption.bind fun rows =>
      decided codec (thresholdsOf job.nodeType) rows (env.llm (clock + 2))

def resolveNode : Processing (ElementId × Bool) :=
  let processor := processorOf codec job.nodeType
  if job.nodeType = .milestone then processor.executeDecision job true .createNew
  else processor.searchAndDecide codec job (thresholdsOf job.nodeType) >>=
    processor.executeDecision job (generalizesOf job.nodeType)

end NodeGenerationJob

@[simp] theorem processorOf_nodeType (codec : WorkerCodec) (type : NodeType) :
    (processorOf codec type).nodeType = type := by
  cases type <;> rfl

variable {codec : WorkerCodec} {job : NodeGenerationJob}

theorem processJob_eq (config : Config) :
    processJob codec config job = match config.anthropicApiKey with
      | none => .fail (.configuration "LLM service not configured (missing ANTHROPIC_API_KEY)")
      | some _ => job.resolveNode codec >>= fun node =>
          (processorOf codec job.nodeType).assignToLevel job node.1 node.2 := by
  rw [processJob]
  cases config.anthropicApiKey with
  | none => rfl
  | some key =>
      rw [NodeGenerationJob.resolveNode]
      cases htype : job.nodeType with
      | knowledge | skill | trait =>
          simp only [reduceCtorEq, if_false, bind_assoc]
          rfl
      | milestone =>
          simp only [if_true, NodeProcessor.executeDecision, bind_assoc]
          rfl

section Decide

variable {env : Env} {w : World} {conceptName domainName nodeLabel : String}
  {thresholds : SimilarityThresholds}

theorem exec_decideConceptAction (similarNodes : List SimilarNodeResult) :
    (env.exec (decideConceptAction codec conceptName similarNodes thresholds domainName nodeLabel)
        w).state.graph = w.graph ∧
      (env.exec (decideConceptAction codec conceptName similarNodes thresholds domainName nodeLabel)
        w).exit.toOption = (decideByScore similarNodes thresholds).or
          (((env.llm w.clock).toOption.bind fun response =>
            (codec.verification (extractJson response)).toOption).map
              (decideByVerification similarNodes)) := by
  rw [decideConceptAction]
  cases hscore : decideByScore similarNodes thresholds with
  | some decision => exact ⟨rfl, rfl⟩
  | none =>
      rw [Option.none_or]
      simp only [verifyWithLlm, askJson, bind_assoc]
      rw [exec_bind]
      have hask : env.exec (generate (WorkerPrompt.verification domainName nodeLabel conceptName
          (similarNodes.map fun n => (n.name, n.description, n.score))) : Processing _) w =
          ⟨.ok (env.llm w.clock), w.tick, [⟨.generate _, env.llm w.clock⟩]⟩ := rfl
      rw [hask, Execution.andThen_ok]
      cases env.llm w.clock with
      | error e => exact ⟨rfl, rfl⟩
      | ok response =>
          simp only [Except.toOption, Option.bind_some]
          cases codec.verification (extractJson response) with
          | error e => exact ⟨rfl, rfl⟩
          | ok verification => exact ⟨rfl, rfl⟩

theorem exec_findSimilarByText (text : String) (label : Option String) (limit : Int) :
    (env.exec (findSimilarByText text label limit) w).state.graph = w.graph ∧
      (env.exec (findSimilarByText text label limit) w).exit.toOption =
        (env.embedding w.clock).toOption.bind (fun _ =>
          (env.similar (w.clock + 1)).toOption.map fun rows => rows.map SimilarNodeResult.ofRow) ∧
      ((env.exec (findSimilarByText text label limit) w).exit.toOption.isSome = true →
        (env.exec (findSimilarByText text label limit) w).state = w.tick.tick) := by
  rw [findSimilarByText, exec_mapErr, findSimilarNodes, exec_bind, exec_generateEmbedding,
    Execution.andThen_ok]
  cases env.embedding w.clock with
  | error e => exact ⟨rfl, rfl, fun h => by cases h⟩
  | ok vector =>
      simp only [executeSimilarityQuery, exec_bind, exec_queryNodes, Execution.andThen_ok,
        World.tick_clock, Except.toOption, Option.bind_some]
      cases env.similar (w.clock + 1) with
      | error e => exact ⟨rfl, rfl, fun h => by cases h⟩
      | ok rows => exact ⟨rfl, rfl, fun _ => rfl⟩

theorem exec_searchAndDecide (processor : NodeProcessor) :
    (env.exec (processor.searchAndDecide codec job thresholds) w).state.graph = w.graph ∧
      (env.exec (processor.searchAndDecide codec job thresholds) w).exit.toOption =
        (env.embedding w.clock).toOption.bind fun _ =>
          (env.similar (w.clock + 1)).toOption.bind fun rows =>
            decided codec thresholds rows (env.llm (w.clock + 2)) := by
  obtain ⟨hgraph, hexit, hstate⟩ :=
    exec_findSimilarByText (w := w) job.nodeName (some processor.nodeType.label) 3
  rw [NodeProcessor.searchAndDecide, exec_bind, Execution.toOption_andThen, hexit]
  cases hvector : env.embedding w.clock with
  | error e =>
      rw [hvector] at hexit
      rw [Execution.state_andThen_of_none hexit]
      exact ⟨hgraph, rfl⟩
  | ok vector =>
      cases hrows : env.similar (w.clock + 1) with
      | error e =>
          rw [hvector, hrows] at hexit
          rw [Execution.state_andThen_of_none hexit]
          exact ⟨hgraph, rfl⟩
      | ok rows =>
          rw [hvector, hrows] at hexit
          rw [Execution.state_andThen (Exit.toOption_eq_some.1 hexit), hstate (by rw [hexit]; rfl)]
          exact exec_decideConceptAction (rows.map SimilarNodeResult.ofRow)

end Decide

section Resolve

/-- A graph in which a job has made its node and generalized it, or got as far as it did, with the
outcome of the statement that made it. -/
inductive Begun (env : Env) (job : NodeGenerationJob) (g : Graph) : Option Outcome → Graph → Prop
  | none : Begun env job g none g
  | made (name : String) (props : Props) (n : Nat) :
      Begun env job g (some (env.outcome n))
        ((env.outcome n).after (createNodeStatement job.nodeType.label name props) g)
  | generalized (name : String) (props : Props) (n m : Nat) (target : ElementId) :
      Begun env job g (some (env.outcome n))
        ((env.outcome m).after (connectStatement "GENERALIZES_TO" g.freshId target)
          ((env.outcome n).after (createNodeStatement job.nodeType.label name props) g))

/-- What carrying out a decision leaves: the node that was found with the graph as it was, or the
node that the store made next. -/
inductive Resolved (env : Env) (job : NodeGenerationJob) (g : Graph) :
    ConceptDecision → ElementId × Bool → Graph → Prop
  | reused (id : ElementId) (name : String) : Resolved env job g (.useExisting id name) (id, true) g
  | made {decision : ConceptDecision} {o : Outcome} {g' : Graph} (h : Begun env job g (some o) g')
      (hrow : o.returnsRow = true) : Resolved env job g decision (g.freshId, false) g'

variable {env : Env} {g : Graph} {processor : NodeProcessor}

theorem triple_askJson {α : Type} (prompt : WorkerPrompt) (parse : String → Except String α)
    (complaint : String → String → String) :
    Triple env.handler (fun w => w.graph = g) (askJson prompt parse complaint)
      (fun _ w => w.graph = g) (fun _ w => w.graph = g) := by
  refine Triple.bind (Triple.perform (T := fun _ w => w.graph = g) fun w hw => hw) fun reply => ?_
  cases reply with
  | error e => exact .fail fun _ hw => hw
  | ok response =>
      cases hparse : parse (extractJson response) with
      | error e =>
          simp only [hparse]
          exact .fail fun _ hw => hw
      | ok a =>
          simp only [hparse]
          exact .done fun _ hw => hw

theorem triple_runWrite (q : Statement) {P : Graph → Prop} :
    Triple env.handler (fun w => P w.graph) (runWrite q)
      (fun _ w => ∃ (g : Graph) (n : Nat), P g ∧ w.graph = (env.outcome n).after q g)
      (fun _ w => ∃ (g : Graph) (n : Nat), P g ∧ w.graph = (env.outcome n).after q g) := by
  have hstate : ∀ w, (env.exec (runWrite q) w).state.graph = (env.outcome w.clock).after q w.graph := by
    intro w
    rw [runWrite, exec_bind, exec_runStatement, Execution.andThen_ok]
    cases env.outcome w.clock <;> rfl
  exact ⟨fun w _ hw _ => ⟨w.graph, w.clock, hw, hstate w⟩,
    fun w _ hw _ => ⟨w.graph, w.clock, hw, hstate w⟩⟩

theorem triple_createNode {props : GeneratedProperties} :
    Triple env.handler (fun w => w.graph = g) (createNode job.nodeType.label props)
      (fun created w => created.elementId = g.freshId ∧ ∃ n, (env.outcome n).returnsRow = true ∧
        ∃ name stored, w.graph =
          (env.outcome n).after (createNodeStatement job.nodeType.label name stored) g)
      (fun _ w => ∃ o, Begun env job g o w.graph) := by
  refine Triple.bind (Triple.perform (T := fun _ w => w.graph = g) fun w hw => hw) fun reply => ?_
  cases reply with
  | error e => exact .fail fun w hw => ⟨none, hw ▸ .none⟩
  | ok embedding =>
      let q := createNodeStatement job.nodeType.label props.name (props.stored embedding)
      refine Triple.bind (Triple.perform (T := fun reply w => ∃ n,
        reply = (env.outcome n).reply (q g).1 ∧ w.graph = (env.outcome n).after q g) fun w hw => ?_)
          fun reply => ?_
      · subst hw
        exact ⟨w.clock, rfl, rfl⟩
      · refine Triple.exists_pre fun n => Triple.of_pre (fun w hw => hw.1) fun hreply => ?_
        subst hreply
        have hmade : ∀ w : World, w.graph = (env.outcome n).after q g →
            ∃ o, Begun env job g o w.graph := by
          intro w hw
          rw [hw]
          exact ⟨_, .made props.name (props.stored embedding) n⟩
        have hstored : (env.outcome n).returnsRow = true → ∀ w : World,
            w.graph = (env.outcome n).after q g → g.freshId = g.freshId ∧
              ∃ n, (env.outcome n).returnsRow = true ∧ ∃ name stored, w.graph =
                (env.outcome n).after (createNodeStatement job.nodeType.label name stored) g := by
          intro hrow w hw
          exact ⟨rfl, n, hrow, _, _, hw⟩
        cases ho : env.outcome n with
        | done => exact .done fun w hw => hstored (by rw [ho]; rfl) w (ho ▸ hw.2)
        | failed applied e => exact .fail fun w hw => hmade w (ho ▸ hw.2)
        | cut applied delivered e =>
            cases delivered with
            | zero => exact .fail fun w hw => hmade w (ho ▸ hw.2)
            | succ delivered => exact .done fun w hw => hstored (by rw [ho]; rfl) w (ho ▸ hw.2)

theorem triple_generateAndCreate (htype : processor.nodeType = job.nodeType) :
    Triple env.handler (fun w => w.graph = g) (processor.generateAndCreate job)
      (fun created w => created.elementId = g.freshId ∧ ∃ n, (env.outcome n).returnsRow = true ∧
        ∃ name stored, w.graph =
          (env.outcome n).after (createNodeStatement job.nodeType.label name stored) g)
      (fun _ w => ∃ o, Begun env job g o w.graph) := by
  refine Triple.bind (Q := fun _ w => w.graph = g) ((triple_askJson _ _ _).conseq (fun _ h => h)
    (fun _ _ h => h) fun _ w hw => ⟨none, hw ▸ .none⟩) fun props => ?_
  rw [htype]
  exact triple_createNode

theorem triple_executeDecision (htype : processor.nodeType = job.nodeType) (generalizes : Bool)
    (decision : ConceptDecision) :
    Triple env.handler (fun w => w.graph = g) (processor.executeDecision job generalizes decision)
      (fun node w => Resolved env job g decision node w.graph) (fun _ w => ∃ o, Begun env job g o w.graph) := by
  have hmade : ∀ (created : CreatedNode) (w : World), (created.elementId = g.freshId ∧
      ∃ n, (env.outcome n).returnsRow = true ∧
        ∃ name stored, w.graph =
          (env.outcome n).after (createNodeStatement job.nodeType.label name stored) g) →
      ∀ decision, Resolved env job g decision (created.elementId, false) w.graph := by
    rintro created w ⟨hid, n, hret, name, stored, hgraph⟩ decision
    rw [hid, hgraph]
    exact .made (.made name stored n) hret
  cases decision with
  | useExisting id name => exact .done fun w hw => hw ▸ .reused id name
  | createNew =>
      exact (triple_generateAndCreate htype).bind fun created => .done fun w hw => hmade created w hw _
  | createAndGeneralize target name =>
      refine (triple_generateAndCreate htype).bind fun created => ?_
      cases generalizes with
      | false => exact .done fun w hw => hmade created w hw _
      | true =>
          refine Triple.of_pre (fun w hw => hw.1) fun hid => ?_
          refine Triple.bind (((triple_runWrite _ (P := fun g' => ∃ n, (env.outcome n).returnsRow = true ∧
            ∃ name stored, g' =
              (env.outcome n).after (createNodeStatement job.nodeType.label name stored) g)).weaken
              fun w hw => hw.2).conseq (fun _ h => h) (fun _ _ h => h) ?_) fun _ => .done ?_
          · rintro e w ⟨g₁, m, ⟨n, hret, name', stored, hgraph⟩, hwrite⟩
            rw [hwrite, hgraph, hid]
            exact ⟨_, .generalized name' stored n m target⟩
          · rintro w ⟨g₁, m, ⟨n, hret, name', stored, hgraph⟩, hwrite⟩
            rw [hwrite, hgraph, hid]
            exact .made (.generalized name' stored n m target) hret

theorem triple_resolveNode (clock : Nat) :
    Triple env.handler (fun w => w = ⟨g, clock⟩) (job.resolveNode codec)
      (fun node w => ∃ decision, job.decision codec env clock = some decision ∧
        Resolved env job g decision node w.graph) (fun _ w => ∃ o, Begun env job g o w.graph) := by
  rw [NodeGenerationJob.resolveNode, NodeGenerationJob.decision]
  by_cases htype : job.nodeType = .milestone
  · rw [if_pos htype, if_pos htype]
    refine (triple_executeDecision (g := g) (processorOf_nodeType codec job.nodeType) true
      .createNew).conseq ?_ (fun node w h => ⟨.createNew, rfl, h⟩) fun _ _ h => h
    rintro w rfl
    rfl
  · rw [if_neg htype, if_neg htype]
    refine Triple.bind (Q := fun decision w => w.graph = g ∧
      ((env.embedding clock).toOption.bind fun _ => (env.similar (clock + 1)).toOption.bind fun rows =>
        decided codec (thresholdsOf job.nodeType) rows (env.llm (clock + 2))) = some decision)
      ⟨?_, ?_⟩ fun decision => ?_
    · rintro w decision rfl hexit
      obtain ⟨hgraph, hdecision⟩ := exec_searchAndDecide (w := ⟨g, clock⟩)
        (processorOf codec job.nodeType)
      exact ⟨hgraph, hdecision.symm.trans (Exit.toOption_eq_some.2 hexit)⟩
    · rintro w e rfl -
      obtain ⟨hgraph, -⟩ := exec_searchAndDecide (w := ⟨g, clock⟩) (processorOf codec job.nodeType)
      exact ⟨none, hgraph ▸ .none⟩
    · refine Triple.of_pre (fun w hw => hw.2) fun hdecision => ?_
      exact (triple_executeDecision (processorOf_nodeType codec job.nodeType) _ decision).conseq
        (fun w hw => hw.1) (fun node w h => ⟨decision, hdecision, h⟩) fun _ _ h => h

end Resolve

section Assign

/-- What assigning a node to the level of the job leaves, if the job has such a level. -/
inductive Assigned (env : Env) (job : NodeGenerationJob) (g : Graph) (id : ElementId) : Graph → Prop
  | none (h : job.assignedLevel = none) : Assigned env job g id g
  | linked {level : DomainLevelInfo} (h : job.assignedLevel = some level) (n : Nat) :
      Assigned env job g id
        ((env.outcome n).after (connectStatement job.nodeType.levelRelationship level.elementId id) g)

/-- All that a job does: it decides, finds or makes the node `id` and assigns it. -/
def Processed (codec : WorkerCodec) (env : Env) (clock : Nat) (job : NodeGenerationJob)
    (g : Graph) (id : ElementId) (g' : Graph) : Prop :=
  ∃ decision wasReused g₁, job.decision codec env clock = some decision ∧
    Resolved env job g decision (id, wasReused) g₁ ∧ Assigned env job g₁ id g'

variable {env : Env} {g : Graph}

theorem triple_assignToLevel (id : ElementId) (wasReused : Bool) {P : Graph → Prop} :
    Triple env.handler (fun w => P w.graph)
      ((processorOf codec job.nodeType).assignToLevel job id wasReused)
      (fun result w => result.elementId = some id ∧ ∃ g, P g ∧ Assigned env job g id w.graph)
      (fun _ w => ∃ g, P g ∧ Assigned env job g id w.graph) := by
  rw [NodeProcessor.assignToLevel, NodeProcessor.linkToLevel]
  cases hlevel : job.domainLevels.find? (fun l => l.level = determineLevel job.suggestedLevel) with
  | none => exact .done fun w hw => ⟨rfl, w.graph, hw, .none hlevel⟩
  | some level =>
      have hwrite : Triple env.handler (fun w => P w.graph)
          (createLevelRequirement level.elementId id (processorOf codec job.nodeType).nodeType.levelRelationship)
          (fun _ w => ∃ g, P g ∧ Assigned env job g id w.graph)
          (fun _ w => ∃ g, P g ∧ Assigned env job g id w.graph) := by
        rw [processorOf_nodeType]
        have hassigned : ∀ w : World, (∃ (g : Graph) (n : Nat), P g ∧ w.graph = (env.outcome n).after
            (connectStatement job.nodeType.levelRelationship level.elementId id) g) →
              ∃ g, P g ∧ Assigned env job g id w.graph := by
          rintro w ⟨g, n, hg, hgraph⟩
          exact ⟨g, hg, hgraph ▸ .linked hlevel n⟩
        exact (triple_runWrite _).conseq (fun _ h => h) (fun _ w => hassigned w) fun _ w => hassigned w
      exact hwrite.bind fun _ => .done fun _ h => ⟨rfl, h⟩

theorem triple_processJob (config : Config) (clock : Nat) :
    Triple env.handler (fun w => w = ⟨g, clock⟩) (processJob codec config job)
      (fun result w => ∃ id, result.elementId = some id ∧ Processed codec env clock job g id w.graph)
      (fun _ w => (∃ o, Begun env job g o w.graph) ∨
        ∃ id, Processed codec env clock job g id w.graph) := by
  rw [processJob_eq]
  cases config.anthropicApiKey with
  | none =>
      refine .fail ?_
      rintro w rfl
      exact .inl ⟨none, .none⟩
  | some key =>
      refine ((triple_resolveNode clock).conseq (fun _ h => h) (fun _ _ h => h)
        fun _ _ h => .inl h).bind fun node => ?_
      refine (triple_assignToLevel node.1 node.2 (P := fun g₁ => ∃ decision,
        job.decision codec env clock = some decision ∧ Resolved env job g decision node g₁)).conseq
          (fun _ h => h) ?_ ?_
      · rintro result w ⟨hid, g₁, ⟨decision, hdecision, hresolved⟩, hassigned⟩
        exact ⟨node.1, hid, decision, node.2, g₁, hdecision, hresolved, hassigned⟩
      · rintro e w ⟨g₁, ⟨decision, hdecision, hresolved⟩, hassigned⟩
        exact .inr ⟨node.1, decision, node.2, g₁, hdecision, hresolved, hassigned⟩

end Assign

end AtlasOfUs.Worker
