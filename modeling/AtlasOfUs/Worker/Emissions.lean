import AtlasOfUs.Emissions
import AtlasOfUs.Worker.Processors

namespace AtlasOfUs.Worker

open Library Similarity

variable {statement : Statement → Prop} {event : Empty → Prop} {α : Type}

def NodeGenerationJob.assignedLevel (job : NodeGenerationJob) : Option DomainLevelInfo :=
  job.domainLevels.find? (fun l => l.level = determineLevel job.suggestedLevel)

inductive JobStatement (job : NodeGenerationJob) : Statement → Prop
  | create (name : String) (props : Props) :
      JobStatement job (createNodeStatement job.nodeType.label name props)
  | generalize (source target : ElementId) :
      JobStatement job (connectStatement "GENERALIZES_TO" source target)
  | assign {level : DomainLevelInfo} (h : job.assignedLevel = some level) (nodeId : ElementId) :
      JobStatement job (connectStatement job.nodeType.levelRelationship level.elementId nodeId)

theorem emits_askJson (prompt : WorkerPrompt) (parse : String → Except String α)
    (complaint : String → String → String) :
    Emits statement event (askJson prompt parse complaint) := by
  refine (Calls.perform trivial).bind fun reply => ?_
  cases reply with
  | error e => trivial
  | ok response => cases h : parse (extractJson response) <;> simp [h, Calls]

theorem emits_executeSimilarityQuery (label : Option String) (limit : Int) (key : SearchKey) :
    Emits statement event (executeSimilarityQuery label limit key) := by
  refine (Calls.perform trivial).bind fun rows => ?_
  cases rows <;> trivial

theorem emits_findSimilarByText (text : String) (label : Option String) (limit : Int) :
    Emits statement event (findSimilarByText text label limit) := by
  refine Calls.mapErr ((Emits.generateEmbedding text).bind fun vector => ?_)
  cases vector with
  | error e => trivial
  | ok vector => exact emits_executeSimilarityQuery _ _ _

theorem emits_decideConceptAction (codec : WorkerCodec) (conceptName : String)
    (similarNodes : List SimilarNodeResult) (thresholds : SimilarityThresholds)
    (domainName nodeLabel : String) :
    Emits statement event
      (decideConceptAction codec conceptName similarNodes thresholds domainName nodeLabel) := by
  unfold decideConceptAction
  split
  · trivial
  · exact (emits_askJson _ _ _).bind fun _ => trivial

theorem emits_runWrite {q : Statement} (hq : statement q) : Emits statement event (runWrite q) := by
  refine (Emits.runStatement hq).bind fun reply => ?_
  cases reply <;> trivial

theorem emits_createNode {label : String} {props : GeneratedProperties}
    (h : ∀ stored, statement (createNodeStatement label props.name stored)) :
    Emits statement event (createNode label props) := by
  refine (Emits.generateEmbedding _).bind fun embedding => ?_
  cases embedding with
  | error e => trivial
  | ok embedding =>
      refine (Emits.execute (h _)).bind fun reply => ?_
      cases reply with
      | error e => trivial
      | ok result =>
          cases hnext : result.next with
          | error e => simp [hnext, Calls]
          | ok row => cases row <;> simp [hnext, Calls]

namespace NodeProcessor

variable {processor : NodeProcessor} {job : NodeGenerationJob}

theorem emits_generateAndCreate (htype : processor.nodeType = job.nodeType) :
    Emits (JobStatement job) event (processor.generateAndCreate job) :=
  (emits_askJson _ _ _).bind fun _ => emits_createNode fun stored => htype ▸ .create _ stored

theorem emits_assignToLevel (htype : processor.nodeType = job.nodeType) (elementId : ElementId)
    (wasReused : Bool) :
    Emits (JobStatement job) event (processor.assignToLevel job elementId wasReused) := by
  refine Calls.bind ?_ fun _ => trivial
  unfold linkToLevel
  split
  · next level hlevel => exact emits_runWrite (htype ▸ .assign hlevel elementId)
  · trivial

theorem emits_executeDecision (htype : processor.nodeType = job.nodeType) (generalizes : Bool)
    (decision : ConceptDecision) :
    Emits (JobStatement job) event (processor.executeDecision job generalizes decision) := by
  cases decision with
  | useExisting elementId name => trivial
  | createNew => exact (emits_generateAndCreate htype).bind fun _ => trivial
  | createAndGeneralize targetId targetName =>
      refine (emits_generateAndCreate htype).bind fun created => ?_
      cases generalizes with
      | false => trivial
      | true =>
          exact (emits_runWrite (.generalize created.elementId targetId)).bind fun _ => trivial

theorem emits_processWithSearch (htype : processor.nodeType = job.nodeType) (codec : WorkerCodec)
    (thresholds : SimilarityThresholds) (generalizes : Bool) :
    Emits (JobStatement job) event
      (processor.processWithSearch codec job thresholds generalizes) := by
  refine Calls.bind ?_ fun decision =>
    (emits_executeDecision htype generalizes decision).bind fun node =>
      emits_assignToLevel htype node.1 node.2
  exact (emits_findSimilarByText _ _ _).bind fun _ => emits_decideConceptAction codec _ _ _ _ _

theorem emits_processNew (htype : processor.nodeType = job.nodeType) :
    Emits (JobStatement job) event (processor.processNew job) :=
  (emits_generateAndCreate htype).bind fun created =>
    emits_assignToLevel htype created.elementId false

end NodeProcessor

theorem emits_processJob (codec : WorkerCodec) (config : Config) (job : NodeGenerationJob) :
    Emits (JobStatement job) event (processJob codec config job) := by
  unfold processJob
  split
  · trivial
  · cases h : job.nodeType with
    | knowledge => exact NodeProcessor.emits_processWithSearch h.symm _ _ _
    | skill => exact NodeProcessor.emits_processWithSearch h.symm _ _ _
    | trait => exact NodeProcessor.emits_processWithSearch h.symm _ _ _
    | milestone => exact NodeProcessor.emits_processNew h.symm

theorem emits_processRecords (codec : WorkerCodec) (config : Config) (records : List SqsRecord) :
    Emits (fun q => ∃ record ∈ records, ∃ job, record.job codec = some job ∧ JobStatement job q)
      event (processRecords codec config records) := by
  induction records with
  | nil => trivial
  | cons record records ih =>
      refine Calls.bind ?_ fun _ => ih.mono (fun q hq => ?_) fun _ he => he
      · unfold processRecord
        split
        · trivial
        · next job hjob =>
            have hemits : Emits (fun q => ∃ r ∈ record :: records, ∃ job, r.job codec = some job ∧
                JobStatement job q) event (processJob codec config job) :=
              (emits_processJob codec config job).mono
                (fun q hq => ⟨record, List.mem_cons_self, job, hjob, hq⟩) fun _ he => he
            refine hemits.attempt.bind fun result => ?_
            cases result with
            | ok _ => trivial
            | error e => cases h : isRetryableError e <;> simp [h, Calls]
      · obtain ⟨r, hr, hjob⟩ := hq
        exact ⟨r, List.mem_cons_of_mem _ hr, hjob⟩

theorem emits_handleSqsEvent (codec : WorkerCodec) (config : Config) (records : List SqsRecord) :
    Emits (fun q => ∃ record ∈ records, ∃ job, record.job codec = some job ∧ JobStatement job q)
      event (handleSqsEvent codec config records) := by
  unfold handleSqsEvent
  split
  · trivial
  · refine Calls.bind ?_ fun _ => emits_processRecords codec config records
    refine (Calls.perform trivial).bind fun reply => ?_
    cases reply <;> trivial

end AtlasOfUs.Worker
