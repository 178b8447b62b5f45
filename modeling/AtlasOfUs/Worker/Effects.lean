import AtlasOfUs.Library.Conduct
import AtlasOfUs.Worker.Processors

namespace AtlasOfUs.Worker

open Library

def nodeCount (w : World) : Nat := w.graph.nodes.length

def isLevelRequirement (e : Edge) : Bool :=
  ["REQUIRES_KNOWLEDGE", "REQUIRES_SKILL", "REQUIRES_TRAIT", "REQUIRES_MILESTONE"].contains e.type

def requirementCount (w : World) : Nat := (w.graph.edges.filter isLevelRequirement).length

variable {ε α β : Type} (env : Env)

/-- A program of the worker that creates at most `nodes` nodes and `edges` level
requirements, and whose blamed errors follow a failed call. -/
abbrev Creates (nodes edges : Nat) (blamed : ε → Prop) (p : Service Empty WorkerPrompt ε α) : Prop :=
  Conduct (I := services Empty WorkerPrompt) env.handler (fun o r => Op.fails o r) nodeCount
    requirementCount nodes edges blamed p

def Retryable (e : ProcessingError) : Prop := isRetryableError e = true

variable {env} {blamed : ε → Prop}

theorem creates_read {o : Op Empty WorkerPrompt} {f : o.Reply → Service Empty WorkerPrompt ε β}
    {nodes edges : Nat} (ho : ∀ w, (env.handler o w).2.graph = w.graph)
    (hf : ∀ r, (∃ e, f r = .fail e ∧ (blamed e → Op.fails o r)) ∨
      Creates env nodes edges blamed (f r)) :
    Creates env nodes edges blamed
      (Proc.perform (I := services Empty WorkerPrompt) o >>= f : Service Empty WorkerPrompt ε β) := by
  have hcall : Creates env (0 + nodes) (0 + edges) blamed
      (Proc.perform (I := services Empty WorkerPrompt) o >>= f) := by
    refine Conduct.perform_bind (fun w => ?_) (fun w => ?_) (fun w => hf _)
    · rw [nodeCount, nodeCount, ho]
      exact ⟨Nat.le_refl _, Nat.le_refl _⟩
    · rw [requirementCount, requirementCount, ho]
      exact ⟨Nat.le_refl _, Nat.le_refl _⟩
  exact hcall.weaken (by omega) (by omega)

theorem creates_askJson (prompt : WorkerPrompt) (parse : String → Except String α)
    (complaint : String → String → String) :
    Creates env 0 0 Retryable (askJson prompt parse complaint) := by
  refine creates_read (o := .generate prompt) (fun _ => rfl) (fun r => ?_)
  cases r with
  | error e => exact Or.inl ⟨_, rfl, fun _ => ⟨e, rfl⟩⟩
  | ok response =>
      simp only
      cases parse (extractJson response) with
      | ok a => exact Or.inr (Conduct.done a)
      | error e => exact Or.inr (Conduct.fail (fun h => by cases h))

theorem creates_findSimilarByText (text : String) (label : Option String) (limit : Int) :
    Creates env 0 0 Retryable (findSimilarByText text label limit) := by
  have hsearch : Creates env 0 0 (fun _ : SimilarityError => False)
      (findSimilarNodes { text := some text, label := label, limit := some limit }) := by
    refine creates_read (o := .embed text) (fun _ => rfl) (fun reply => Or.inr ?_)
    cases reply with
    | error e => exact Conduct.fail id
    | ok vector =>
        refine creates_read (o := .queryNodes label limit (.embedding vector)) (fun _ => rfl)
          (fun rows => Or.inr ?_)
        cases rows with
        | error e => exact Conduct.fail id
        | ok rows => exact Conduct.done _
  refine (hsearch.attempt).free_bind (fun result => ?_)
  cases result with
  | ok nodes => exact Conduct.done nodes
  | error e => exact Conduct.fail (fun h => by cases h)

theorem creates_decideConceptAction (codec : WorkerCodec) (conceptName : String)
    (similarNodes : List Similarity.SimilarNodeResult) (thresholds : SimilarityThresholds)
    (domainName nodeLabel : String) :
    Creates env 0 0 Retryable
      (decideConceptAction codec conceptName similarNodes thresholds domainName nodeLabel) := by
  unfold decideConceptAction
  split
  · exact Conduct.done _
  · exact (creates_askJson _ _ _).free_bind (fun _ => Conduct.done _)

theorem creates_write {q : Statement} {nodes edges : Nat}
    {f : Except String RowStream → Service Empty WorkerPrompt ε β}
    (hnodes : ∀ g, g.nodes.length ≤ (q g).2.nodes.length ∧ (q g).2.nodes.length ≤ g.nodes.length + nodes)
    (hedges : ∀ g, (g.edges.filter isLevelRequirement).length ≤
        ((q g).2.edges.filter isLevelRequirement).length ∧
      ((q g).2.edges.filter isLevelRequirement).length ≤
        (g.edges.filter isLevelRequirement).length + edges)
    (hf : ∀ w : World,
      (∃ e, f ((env.outcome w.clock).reply (q w.graph).1) = .fail e ∧
        (blamed e → Op.fails (.execute q : Op Empty WorkerPrompt)
          ((env.outcome w.clock).reply (q w.graph).1))) ∨
      ∃ x, f ((env.outcome w.clock).reply (q w.graph).1) = .done x) :
    Creates env nodes edges blamed (execute q >>= f) := by
  have hend (w : World) : (∃ e, f ((env.outcome w.clock).reply (q w.graph).1) = .fail e ∧
        (blamed e → Op.fails (.execute q : Op Empty WorkerPrompt)
          ((env.outcome w.clock).reply (q w.graph).1))) ∨
      Creates env 0 0 blamed (f ((env.outcome w.clock).reply (q w.graph).1)) := by
    refine (hf w).imp_right ?_
    rintro ⟨x, hx⟩
    rw [hx]
    exact Conduct.done x
  change Creates env (nodes + 0) (edges + 0) blamed (execute q >>= f)
  refine Conduct.perform_bind (fun w => ?_) (fun w => ?_) hend
  · change w.graph.nodes.length ≤ ((env.outcome w.clock).after q w.graph).nodes.length ∧
      ((env.outcome w.clock).after q w.graph).nodes.length ≤ w.graph.nodes.length + nodes
    rw [Outcome.after]
    split
    · exact hnodes w.graph
    · omega
  · change (w.graph.edges.filter isLevelRequirement).length ≤
        (((env.outcome w.clock).after q w.graph).edges.filter isLevelRequirement).length ∧
      (((env.outcome w.clock).after q w.graph).edges.filter isLevelRequirement).length ≤
        (w.graph.edges.filter isLevelRequirement).length + edges
    rw [Outcome.after]
    split
    · exact hedges w.graph
    · omega

def finishWrite (reply : Except String RowStream) : Processing Unit :=
  match reply with
  | .error e => .fail (.neo4j e)
  | .ok rs => Proc.ofExcept ((rs.error.map (fun e => .error (.neo4j e))).getD (.ok ()))

theorem runWrite_eq (q : Statement) : runWrite q = execute q >>= finishWrite := by
  rw [runWrite, runStatement, bind_assoc]
  congr 1
  funext reply
  cases reply with
  | error e => rfl
  | ok rs => cases h : rs.error <;> simp [h, finishWrite]

theorem creates_runWrite {q : Statement} {nodes edges : Nat}
    (hnodes : ∀ g, g.nodes.length ≤ (q g).2.nodes.length ∧ (q g).2.nodes.length ≤ g.nodes.length + nodes)
    (hedges : ∀ g, (g.edges.filter isLevelRequirement).length ≤
        ((q g).2.edges.filter isLevelRequirement).length ∧
      ((q g).2.edges.filter isLevelRequirement).length ≤
        (g.edges.filter isLevelRequirement).length + edges) :
    Creates env nodes edges Retryable (runWrite q) := by
  rw [runWrite_eq]
  refine creates_write hnodes hedges (fun w => ?_)
  cases hreply : (env.outcome w.clock).reply (q w.graph).1 with
  | error e => exact Or.inl ⟨_, rfl, fun _ => Or.inl ⟨e, rfl⟩⟩
  | ok rs =>
      cases herror : rs.error with
      | none => exact Or.inr ⟨(), by simp [herror, finishWrite]⟩
      | some e => exact Or.inl ⟨.neo4j e, by simp [herror, finishWrite], fun _ => Or.inr ⟨rs, e, rfl, herror⟩⟩

/-- An edge of a type that is no level requirement costs nothing, one that is costs one. -/
theorem creates_connect (type : String) (source target : ElementId) {edges : Nat}
    (h : isLevelRequirement ⟨source, type, source, target, Props.empty⟩ = true → edges = 1) :
    Creates env 0 edges Retryable (runWrite (connectStatement type source target)) := by
  refine creates_runWrite (fun g => ?_) (fun g => ?_)
  · simp [connectStatement]
  · rw [connectStatement, Graph.createEdge_edges]
    split
    · rw [List.filter_append, List.length_append]
      by_cases htype : isLevelRequirement ⟨source, type, source, target, Props.empty⟩ = true
      · have hone := h htype
        have hlen := List.length_filter_le isLevelRequirement
          [(⟨g.freshId, type, source, target, Props.empty⟩ : Edge)]
        simp only [List.length_singleton] at hlen
        omega
      · have hnone : isLevelRequirement (⟨g.freshId, type, source, target, Props.empty⟩ : Edge) = false := by
          simpa [isLevelRequirement] using htype
        simp [hnone]
    · omega

theorem creates_createNode (label : String) (props : GeneratedProperties) :
    Creates env 1 0 Retryable (createNode label props) := by
  refine creates_read (o := .embed props.name) (fun _ => rfl) (fun reply => ?_)
  cases reply with
  | error e => exact Or.inl ⟨_, rfl, fun _ => ⟨e, rfl⟩⟩
  | ok vector =>
      refine Or.inr (creates_write (fun g => ?_) (fun g => ?_) (fun w => ?_))
      · simp [createNodeStatement]
      · simp [createNodeStatement]
      · cases env.outcome w.clock with
        | done => exact Or.inr ⟨_, rfl⟩
        | failed applied e => exact Or.inl ⟨_, rfl, fun _ => Or.inl ⟨e, rfl⟩⟩
        | cut applied n e =>
            cases n with
            | zero => exact Or.inl ⟨_, rfl, fun _ => Or.inr ⟨_, e, rfl, rfl⟩⟩
            | succ n => exact Or.inr ⟨_, rfl⟩

namespace NodeProcessor

variable (processor : NodeProcessor) (codec : WorkerCodec) (job : NodeGenerationJob)

theorem creates_generateAndCreate : Creates env 1 0 Retryable (processor.generateAndCreate job) :=
  (creates_askJson _ _ _).free_bind (fun _ => creates_createNode _ _)

theorem creates_assignToLevel (elementId : ElementId) (wasReused : Bool) :
    Creates env 0 1 Retryable (processor.assignToLevel job elementId wasReused) := by
  refine Conduct.bind_free ?_ (fun _ => Conduct.done _)
  unfold linkToLevel
  split
  · exact creates_connect _ _ _ (fun _ => rfl)
  · exact (Conduct.done ()).weaken (Nat.le_refl 0) (Nat.zero_le 1)

theorem creates_executeDecision (generalizes : Bool) (decision : ConceptDecision) :
    Creates env 1 0 Retryable (processor.executeDecision job generalizes decision) := by
  have hcreate : Creates env 1 0 Retryable (processor.generateAndCreate job) :=
    processor.creates_generateAndCreate job
  cases decision with
  | useExisting elementId name => exact (Conduct.done _).weaken (Nat.zero_le 1) (Nat.le_refl 0)
  | createNew => exact hcreate.bind_free (fun _ => Conduct.done _)
  | createAndGeneralize targetId targetName =>
      refine hcreate.bind_free (fun created => ?_)
      cases generalizes with
      | false => exact Conduct.done _
      | true =>
          have hedge : Creates env 0 0 Retryable
              (runWrite (connectStatement "GENERALIZES_TO" created.elementId targetId)) :=
            creates_connect _ _ _ (fun h => by simp [isLevelRequirement] at h)
          exact hedge.free_bind (fun _ => Conduct.done _)

theorem creates_processWithSearch (thresholds : SimilarityThresholds) (generalizes : Bool) :
    Creates env 1 1 Retryable (processor.processWithSearch codec job thresholds generalizes) := by
  have hdecide : Creates env 0 0 Retryable (processor.searchAndDecide codec job thresholds) :=
    (creates_findSimilarByText _ _ _).free_bind (fun _ => creates_decideConceptAction codec _ _ _ _ _)
  refine hdecide.free_bind (fun decision => ?_)
  have hexecute : Creates env 1 0 Retryable (processor.executeDecision job generalizes decision) :=
    processor.creates_executeDecision job generalizes decision
  exact (hexecute.bind (fun node => processor.creates_assignToLevel job node.1 node.2)).weaken
    (Nat.le_refl 1) (Nat.le_refl 1)

theorem creates_processNew : Creates env 1 1 Retryable (processor.processNew job) := by
  have hcreate : Creates env 1 0 Retryable (processor.generateAndCreate job) :=
    processor.creates_generateAndCreate job
  exact (hcreate.bind (fun created => processor.creates_assignToLevel job created.elementId false)).weaken
    (Nat.le_refl 1) (Nat.le_refl 1)

end NodeProcessor

theorem creates_processJob (codec : WorkerCodec) (config : Config) (job : NodeGenerationJob) :
    Creates env 1 1 Retryable (processJob codec config job) := by
  unfold processJob
  split
  · exact (Conduct.fail (fun h => by cases h)).weaken (Nat.zero_le 1) (Nat.zero_le 1)
  · cases job.nodeType with
    | knowledge => exact NodeProcessor.creates_processWithSearch _ _ _ _ _
    | skill => exact NodeProcessor.creates_processWithSearch _ _ _ _ _
    | trait => exact NodeProcessor.creates_processWithSearch _ _ _ _ _
    | milestone => exact NodeProcessor.creates_processNew _ _

variable (codec : WorkerCodec) (config : Config)

theorem creates_processRecord (record : SqsRecord) :
    Creates env 1 1 (fun _ => True) (processRecord codec config record) := by
  unfold processRecord
  split
  · exact (Conduct.done ()).weaken (Nat.zero_le 1) (Nat.zero_le 1)
  · refine (creates_processJob codec config _).caught (fun result => ?_)
    cases result with
    | ok _ => exact Or.inl ⟨(), rfl⟩
    | error e =>
        by_cases hretry : isRetryableError e = true
        · exact Or.inr ⟨e, _, rfl, hretry, by simp only [hretry, if_true]; rfl⟩
        · exact Or.inl ⟨(), by simp [hretry]⟩

theorem creates_processRecords (records : List SqsRecord) :
    Creates env records.length records.length (fun _ => True)
      (processRecords codec config records) := by
  induction records with
  | nil => exact Conduct.done ()
  | cons record records ih =>
      have hrecord : Creates env 1 1 (fun _ => True) (processRecord codec config record) :=
        creates_processRecord codec config record
      have hboth := hrecord.bind (fun _ => ih)
      exact hboth.weaken (by rw [List.length_cons]; omega) (by rw [List.length_cons]; omega)

theorem creates_createGraphConnection :
    Creates env 0 0 (fun _ => True) createGraphConnection := by
  refine creates_read (o := .connect) (fun _ => rfl) (fun reply => ?_)
  cases reply with
  | error e => exact Or.inl ⟨_, rfl, fun _ => ⟨e, rfl⟩⟩
  | ok _ => exact Or.inr (Conduct.done ())

theorem creates_handleSqsEvent (records : List SqsRecord) :
    Creates env records.length records.length (fun _ => True)
      (handleSqsEvent codec config records) := by
  unfold handleSqsEvent
  split
  · exact (Conduct.done ()).weaken (Nat.zero_le _) (Nat.zero_le _)
  · exact creates_createGraphConnection.free_bind
      (fun _ => creates_processRecords codec config records)

end AtlasOfUs.Worker
