import AtlasOfUs.Agent.Queueing
import AtlasOfUs.Worker.Processors

namespace AtlasOfUs

open Library

def Json.asNat (bound : Nat) : Json → Option Nat
  | .int i => if 0 ≤ i ∧ i < bound then some i.toNat else none
  | _ => none

def Json.field {α : Type} (j : Json) (key : String) (decode : Json → Option α) : Option α :=
  (j.get key).bind decode

def Json.optField {α : Type} (j : Json) (key : String) (decode : Json → Option α) :
    Option (Option α) :=
  match j.get key with
  | none | some .null => some none
  | some v => (decode v).map some

namespace Worker

/-- The names of `#[serde(rename_all = "snake_case")]`, in both services. -/
def NodeType.wireName : NodeType → String
  | .knowledge => "knowledge"
  | .skill => "skill"
  | .trait => "trait"
  | .milestone => "milestone"

def NodeType.ofWireName (name : String) : Option NodeType :=
  [NodeType.knowledge, .skill, .trait, .milestone].find? fun type => type.wireName = name

theorem NodeType.ofWireName_wireName (type : NodeType) : ofWireName type.wireName = some type := by
  cases type <;> decide

def DomainLevelInfo.toJson (info : DomainLevelInfo) : Json :=
  .object [("level", .int info.level.toNat), ("name", .str info.name),
    ("element_id", .str info.elementId)]

def DomainLevelInfo.ofJson (j : Json) : Option DomainLevelInfo := do
  let level ← j.field "level" (Json.asNat UInt8.size)
  let name ← j.field "name" Json.asStr
  let elementId ← j.field "element_id" Json.asStr
  return ⟨.ofNat level, name, elementId⟩

/-- The job with the fields that the processors do not read. -/
structure NodeGenerationMessage extends NodeGenerationJob where
  generationId : String
  sequenceNumber : UInt32
  totalNodes : UInt32
  domainElementId : ElementId
  createdAt : String
  retryCount : UInt32
  deriving DecidableEq

def NodeGenerationMessage.ofJson (j : Json) : Option NodeGenerationMessage := do
  let jobId ← j.field "job_id" Json.asStr
  let generationId ← j.field "generation_id" Json.asStr
  let sequenceNumber ← j.field "sequence_number" (Json.asNat UInt32.size)
  let totalNodes ← j.field "total_nodes" (Json.asNat UInt32.size)
  let nodeType ← j.field "node_type" fun v => v.asStr.bind NodeType.ofWireName
  let nodeName ← j.field "node_name" Json.asStr
  let domainName ← j.field "domain_name" Json.asStr
  let domainDescription ← j.optField "domain_description" Json.asStr
  let domainElementId ← j.field "domain_element_id" Json.asStr
  let domainLevels ← j.field "domain_levels" fun v => v.asArray.bind (List.mapM DomainLevelInfo.ofJson)
  let suggestedLevel ← j.optField "suggested_level" (Json.asNat UInt8.size)
  let createdAt ← j.field "created_at" Json.asStr
  let retryCount ← j.field "retry_count" (Json.asNat UInt32.size)
  return {
    jobId := jobId
    nodeType := nodeType
    nodeName := nodeName
    domainName := domainName
    domainDescription := domainDescription
    domainLevels := domainLevels
    suggestedLevel := suggestedLevel.map .ofNat
    generationId := generationId
    sequenceNumber := .ofNat sequenceNumber
    totalNodes := .ofNat totalNodes
    domainElementId := domainElementId
    createdAt := createdAt
    retryCount := .ofNat retryCount }

/-- A worker that reads its jobs as `serde` derives it. -/
def WorkerCodec.reading (codec : WorkerCodec) (parse : String → Except String Json)
    (complaint : Json → String) : WorkerCodec where
  job := fun body => (parse body).bind fun j =>
    ((NodeGenerationMessage.ofJson j).map fun message => message.toNodeGenerationJob).elim
      (.error (complaint j)) .ok
  verification := codec.verification
  knowledge := codec.knowledge
  skill := codec.skill
  trait := codec.trait
  milestone := codec.milestone

end Worker

namespace Agent

open Worker

/-- The body of a message, with the time of its making. -/
def NodeGenerationJob.toJson (createdAt : String) (job : NodeGenerationJob) : Json :=
  .object [("job_id", .str job.jobId), ("generation_id", .str job.generationId),
    ("sequence_number", .int job.sequenceNumber.toNat), ("total_nodes", .int job.totalNodes.toNat),
    ("node_type", .str job.nodeType.wireName), ("node_name", .str job.nodeName),
    ("domain_name", .str job.domainName),
    ("domain_description", (job.domainDescription.map Json.str).getD .null),
    ("domain_element_id", .str job.domainElementId),
    ("domain_levels", .array (job.domainLevels.map DomainLevelInfo.toJson)),
    ("suggested_level", (job.suggestedLevel.map fun level => Json.int level.toNat).getD .null),
    ("created_at", .str createdAt), ("retry_count", .int 0)]

def NodeGenerationJob.message (createdAt : String) (job : NodeGenerationJob) :
    NodeGenerationMessage where
  jobId := job.jobId
  nodeType := job.nodeType
  nodeName := job.nodeName
  domainName := job.domainName
  domainDescription := job.domainDescription
  domainLevels := job.domainLevels
  suggestedLevel := job.suggestedLevel
  generationId := job.generationId
  sequenceNumber := job.sequenceNumber
  totalNodes := job.totalNodes
  domainElementId := job.domainElementId
  createdAt := createdAt
  retryCount := 0

theorem asNat_ofNat {n bound : Nat} (h : n < bound) : Json.asNat bound (.int n) = some n := by
  simp [Json.asNat, h]

theorem ofJson_level (info : DomainLevelInfo) : DomainLevelInfo.ofJson info.toJson = some info := by
  have hlevel := asNat_ofNat info.level.toNat_lt_size
  simp [DomainLevelInfo.ofJson, DomainLevelInfo.toJson, Json.field, Json.get, List.lookup_cons, hlevel,
    Json.asStr]

theorem mapM_ofJson (levels : List DomainLevelInfo) :
    levels.mapM (fun info => DomainLevelInfo.ofJson info.toJson) = some levels := by
  induction levels with
  | nil => rfl
  | cons info levels ih =>
      rw [List.mapM_cons, ofJson_level, ih]
      rfl

section RoundTrip

variable (createdAt : String) (job : NodeGenerationJob)

theorem field_toJson {α : Type} (key : String) {v : Json}
    (h : (job.toJson createdAt).get key = some v) (decode : Json → Option α) :
    (job.toJson createdAt).field key decode = decode v := by
  rw [Json.field, h]
  rfl

theorem domainDescription_toJson :
    (job.toJson createdAt).optField "domain_description" Json.asStr = some job.domainDescription := by
  cases h : job.domainDescription <;>
    simp [NodeGenerationJob.toJson, Json.optField, Json.get, List.lookup_cons, h, Json.asStr]

theorem suggestedLevel_toJson :
    (job.toJson createdAt).optField "suggested_level" (Json.asNat UInt8.size) =
      some (job.suggestedLevel.map (·.toNat)) := by
  cases h : job.suggestedLevel with
  | none => simp [NodeGenerationJob.toJson, Json.optField, Json.get, List.lookup_cons, h]
  | some level =>
      simp [NodeGenerationJob.toJson, Json.optField, Json.get, List.lookup_cons, h,
        asNat_ofNat level.toNat_lt_size]

theorem ofJson_toJson :
    NodeGenerationMessage.ofJson (job.toJson createdAt) = some (job.message createdAt) := by
  rw [NodeGenerationMessage.ofJson, domainDescription_toJson, suggestedLevel_toJson]
  rw [field_toJson _ _ "job_id" rfl, field_toJson _ _ "generation_id" rfl,
    field_toJson _ _ "sequence_number" rfl, field_toJson _ _ "total_nodes" rfl,
    field_toJson _ _ "node_type" rfl, field_toJson _ _ "node_name" rfl,
    field_toJson _ _ "domain_name" rfl, field_toJson _ _ "domain_element_id" rfl,
    field_toJson _ _ "domain_levels" rfl, field_toJson _ _ "created_at" rfl,
    field_toJson _ _ "retry_count" rfl]
  have hretries : Json.asNat UInt32.size (.int 0) = some 0 := asNat_ofNat (n := 0) (by decide)
  simp only [Json.asStr, Json.asArray, asNat_ofNat (UInt32.toNat_lt_size _), hretries, Option.bind_eq_bind,
    Option.bind_some, NodeType.ofWireName_wireName, List.mapM_map, mapM_ofJson, Function.comp_def]
  have hlevel : (job.suggestedLevel.map (·.toNat)).map UInt8.ofNat = job.suggestedLevel := by
    cases job.suggestedLevel <;> simp
  rw [hlevel]
  simp [NodeGenerationJob.message]

theorem job_reading {parse : String → Except String Json} {body : String}
    (h : parse body = .ok (job.toJson createdAt)) (codec : WorkerCodec) (complaint : Json → String) :
    (codec.reading parse complaint).job body = .ok (job.message createdAt).toNodeGenerationJob := by
  simp only [WorkerCodec.reading]
  rw [h, Except.bind, ofJson_toJson]
  rfl

end RoundTrip

end Agent

end AtlasOfUs
