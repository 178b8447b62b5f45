import AtlasOfUs.Worker.Effects

namespace AtlasOfUs.Worker

open Library

variable (codec : WorkerCodec) (config : Config) (env : Env)

/-- The error that the processing of a record ends with, if it has a job and fails. -/
def jobError (w : World) (record : SqsRecord) : Option ProcessingError :=
  match record.job codec with
  | none => none
  | some job =>
      match (env.exec (processJob codec config job) w).exit with
      | .err e => some e
      | _ => none

/-- The world before the `i`-th record, as long as no record before it ended the loop. -/
def beforeRecord (w : World) (records : List SqsRecord) (i : Nat) : World :=
  Proc.after env.handler (processRecord codec config) (records.take i) w

theorem exec_processRecord_exit (w : World) (record : SqsRecord) :
    (env.exec (processRecord codec config record) w).exit =
      match jobError codec config env w record with
      | some e => if isRetryableError e then .err ("Retryable error: " ++ e.toString) else .ok ()
      | none => .ok () := by
  unfold processRecord jobError
  cases record.job codec with
  | none => rfl
  | some job =>
      simp only
      rw [exec_bind, exec_attempt]
      cases hexit : (env.exec (processJob codec config job) w).exit with
      | ok result => rfl
      | err e =>
          cases hretry : isRetryableError e <;> simp [Exit.attempted, hretry]
      | panicked => exact absurd hexit ((creates_processJob codec config job).exit_ne_panicked w)

/-- The loop runs to its end exactly if no record of the batch fails with a retryable error. -/
theorem processRecords_ok_iff (records : List SqsRecord) (w : World) :
    (env.exec (processRecords codec config records) w).exit = .ok () ↔
      ∀ i record e, records[i]? = some record →
        jobError codec config env (beforeRecord codec config env w records i) record = some e →
          isRetryableError e = false := by
  induction records generalizing w with
  | nil => simp [processRecords]
  | cons record records ih =>
      have hexit := exec_processRecord_exit codec config env w record
      have hshift : (∀ i record' e, (record :: records)[i]? = some record' →
          jobError codec config env (beforeRecord codec config env w (record :: records) i) record' =
            some e → isRetryableError e = false) ↔
          (∀ e, jobError codec config env w record = some e → isRetryableError e = false) ∧
          ∀ i record' e, records[i]? = some record' →
            jobError codec config env (beforeRecord codec config env
              (env.exec (processRecord codec config record) w).state records i) record' = some e →
              isRetryableError e = false := by
        constructor
        · intro hall
          exact ⟨fun e he => hall 0 record e rfl he,
            fun i record' e hi he => hall (i + 1) record' e hi he⟩
        · rintro ⟨hhead, htail⟩ i record' e hi he
          cases i with
          | zero =>
              obtain rfl := Option.some.inj hi
              exact hhead e he
          | succ i => exact htail i record' e hi he
      rw [hshift, processRecords, exec_bind]
      cases herror : jobError codec config env w record with
      | none =>
          rw [herror] at hexit
          rw [Execution.exit_andThen hexit, ih]
          simp
      | some e =>
          rw [herror] at hexit
          cases hretry : isRetryableError e with
          | true =>
              simp only [hretry, if_true] at hexit
              rw [Execution.exit_andThen_err hexit]
              simp [hretry]
          | false =>
              simp only [hretry, Bool.false_eq_true, if_false] at hexit
              rw [Execution.exit_andThen hexit, ih]
              simp [hretry]

/-- The batch is kept for a retry, or every well-formed job of it was processed without error. -/
def NoJobLost (w : World) (records : List SqsRecord) : Prop :=
  (∃ message, (env.exec (handleSqsEvent codec config records) w).exit = .err message) ∨
    ∀ i record job, records[i]? = some record → record.job codec = some job →
      ∃ result, (env.exec (processJob codec config job)
        (beforeRecord codec config env w.tick records i)).exit = .ok result

theorem handleSqsEvent_err_iff (w : World) (records : List SqsRecord) :
    (∃ message, (env.exec (handleSqsEvent codec config records) w).exit = .err message) ↔
      records ≠ [] ∧ ((∃ e, env.connection w.clock = .error e) ∨
        ∃ i record e, records[i]? = some record ∧
          jobError codec config env (beforeRecord codec config env w.tick records i) record = some e ∧
            isRetryableError e = true) := by
  have hconduct : Creates env records.length records.length (fun _ => True)
      (processRecords codec config records) := creates_processRecords codec config records
  have hend := hconduct.exit_ne_panicked w.tick
  have hloop := processRecords_ok_iff codec config env records w.tick
  rw [← Env.exec] at hend
  by_cases hempty : records = []
  · simp [handleSqsEvent, hempty]
  · simp only [handleSqsEvent, hempty, if_false, ne_eq, not_false_eq_true, true_and]
    rw [exec_bind, createGraphConnection, exec_bind, exec_connect, Execution.andThen_ok]
    cases hconn : env.connection w.clock with
    | error e => simp
    | ok u =>
        rw [Proc.pure_eq, exec_done, Execution.andThen_ok]
        cases hexit : (env.exec (processRecords codec config records) w.tick).exit with
        | ok u =>
            have hnone := hloop.1 hexit
            refine iff_of_false (by simp) ?_
            rintro (⟨e, he⟩ | ⟨i, record, e, hi, herror, hretry⟩)
            · cases he
            · rw [hnone i record e hi herror] at hretry
              cases hretry
        | err message =>
            refine iff_of_true ⟨message, rfl⟩ (Or.inr ?_)
            by_contra hnone
            have hok : (env.exec (processRecords codec config records) w.tick).exit = .ok () := by
              refine hloop.2 (fun i record e hi herror => ?_)
              by_contra hretry
              exact hnone ⟨i, record, e, hi, herror, by simpa using hretry⟩
            rw [hexit] at hok
            cases hok
        | panicked => exact absurd hexit hend

theorem jobError_eq_none_iff (w : World) (record : SqsRecord) :
    jobError codec config env w record = none ↔ ∀ job, record.job codec = some job →
      ∃ result, (env.exec (processJob codec config job) w).exit = .ok result := by
  unfold jobError
  cases record.job codec with
  | none => simp
  | some job =>
      simp only [Option.some.injEq, forall_eq']
      cases hexit : (env.exec (processJob codec config job) w).exit with
      | ok result => simp
      | err e => simp
      | panicked => exact absurd hexit ((creates_processJob codec config job).exit_ne_panicked w)

/-- No job is lost exactly if the batch has a failure that is retried, or none at all. -/
theorem handleSqsEvent_noJobLost_iff (w : World) (records : List SqsRecord) :
    NoJobLost codec config env w records ↔
      (∃ e, env.connection w.clock = .error e) ∨
      (∃ i record e, records[i]? = some record ∧
        jobError codec config env (beforeRecord codec config env w.tick records i) record = some e ∧
          isRetryableError e = true) ∨
      ∀ i record, records[i]? = some record →
        jobError codec config env (beforeRecord codec config env w.tick records i) record = none := by
  have hall : (∀ i record job, records[i]? = some record → record.job codec = some job →
      ∃ result, (env.exec (processJob codec config job)
        (beforeRecord codec config env w.tick records i)).exit = .ok result) ↔
      ∀ i record, records[i]? = some record →
        jobError codec config env (beforeRecord codec config env w.tick records i) record = none := by
    simp only [jobError_eq_none_iff]
    exact ⟨fun h i record hi job hjob => h i record job hi hjob,
      fun h i record job hi hjob => h i record hi job hjob⟩
  rw [NoJobLost, handleSqsEvent_err_iff, hall]
  by_cases hempty : records = []
  · simp [hempty]
  · simp only [ne_eq, hempty, not_false_eq_true, true_and, or_assoc]

section Dropped

def opening : NodeGenerationJob where
  jobId := "1"
  nodeType := .knowledge
  nodeName := "Openings"
  domainName := "Chess"
  domainDescription := none
  domainLevels := []
  suggestedLevel := none

/-- Every body is the job `opening`, and no reply of the language model parses. -/
def openingCodec : WorkerCodec where
  job := fun _ => .ok opening
  verification := fun _ => .error "expected value"
  knowledge := fun _ => .error "expected value"
  skill := fun _ => .error "expected value"
  trait := fun _ => .error "expected value"
  milestone := fun _ => .error "expected value"

def embeddingsDown : Env := { Env.calm with embedding := fun _ => .error "Connection failed: timeout" }

/-- The embedding service is down, the search of the job fails with it, and the
batch is acknowledged. -/
theorem embeddingsDown_job_lost :
    ¬ NoJobLost openingCodec ⟨some "key"⟩ embeddingsDown (World.start emptyGraph) [⟨some "1"⟩] := by
  have hok : (embeddingsDown.exec (handleSqsEvent openingCodec ⟨some "key"⟩ [⟨some "1"⟩])
      (World.start emptyGraph)).exit = .ok () := by decide +kernel
  rintro (⟨message, herr⟩ | hall)
  · rw [hok] at herr
    cases herr
  · obtain ⟨result, hresult⟩ := hall 0 ⟨some "1"⟩ opening rfl rfl
    have hfails : (embeddingsDown.exec (processJob openingCodec ⟨some "key"⟩ opening)
        (beforeRecord openingCodec ⟨some "key"⟩ embeddingsDown (World.start emptyGraph).tick
          [⟨some "1"⟩] 0)).exit =
        .err (.similarity "Embedding generation failed: Connection failed: timeout") := by
      decide +kernel
    rw [hfails] at hresult
    cases hresult

end Dropped

end AtlasOfUs.Worker
