import AtlasOfUs.Library.Calls
import AtlasOfUs.Worker.Effects
import Mathlib.Algebra.GroupWithZero.Nat

namespace AtlasOfUs.Worker

open Library

variable (codec : WorkerCodec) (config : Config) (env : Env)

/-- The worlds before and after each record that the loop takes up. -/
def attempts : List SqsRecord → World → List (World × World)
  | [], _ => []
  | record :: records, w =>
      let x := env.exec (processRecord codec config record) w
      (w, x.state) :: match x.exit with
        | .ok _ => attempts records x.state
        | _ => []

def deliveryAttempts (records : List SqsRecord) (w : World) : List (World × World) :=
  match env.connection w.clock with
  | .ok _ => attempts codec config env records w.tick
  | .error _ => []

/-- How much the `i`-th job of a delivery adds to what is counted. -/
def contribution (count : World → Nat) (records : List SqsRecord) (w : World) (i : Nat) : Nat :=
  match (deliveryAttempts codec config env records w)[i]? with
  | some (before, after) => count after - count before
  | none => 0

/-- The world before the `k`-th delivery of the batch. -/
def beforeBatch (records : List SqsRecord) (w : World) (k : Nat) : World :=
  beforeDelivery env.handler (handleSqsEvent codec config records) w k

/-- What the `i`-th job has added after the deliveries `0` to `n`. -/
def total (count : World → Nat) (records : List SqsRecord) (w : World) (n i : Nat) : Nat :=
  ((List.range (n + 1)).map (fun k =>
    contribution codec config env count records (beforeBatch codec config env records w k) i)).sum

/-- Over the deliveries `0` to `n` every job has left one node and one level requirement at most. -/
def EffectOnce (records : List SqsRecord) (w : World) (n : Nat) : Prop :=
  ∀ i, total codec config env nodeCount records w n i ≤ 1 ∧
    total codec config env requirementCount records w n i ≤ 1

section Count

variable {count : World → Nat} (hcount : ∀ record w,
  count w ≤ count (env.exec (processRecord codec config record) w).state ∧
    count (env.exec (processRecord codec config record) w).state ≤ count w + 1)

include hcount

theorem count_processRecords (records : List SqsRecord) (w : World) :
    count w ≤ count (env.exec (processRecords codec config records) w).state := by
  induction records generalizing w with
  | nil => exact Nat.le_refl _
  | cons record records ih =>
      have hfirst := (hcount record w).1
      rw [processRecords, exec_bind]
      cases hexit : (env.exec (processRecord codec config record) w).exit with
      | ok u =>
          rw [Execution.state_andThen hexit]
          exact Nat.le_trans hfirst (ih _)
      | err e =>
          rw [Execution.state_andThen_err hexit]
          exact hfirst
      | panicked =>
          exact absurd hexit ((creates_processRecord codec config record).exit_ne_panicked w)

/-- An attempt lies between the start and the end of its delivery and adds at most one. -/
theorem count_attempts (records : List SqsRecord) (w : World) {i : Nat} {before after : World}
    (h : (attempts codec config env records w)[i]? = some (before, after)) :
    count w ≤ count before ∧ count before ≤ count after ∧ count after ≤ count before + 1 ∧
      count after ≤ count (env.exec (processRecords codec config records) w).state := by
  induction records generalizing w i with
  | nil => simp [attempts] at h
  | cons record records ih =>
      have hstep := hcount record w
      rw [processRecords, exec_bind]
      cases hexit : (env.exec (processRecord codec config record) w).exit with
      | ok u =>
          have hrest := count_processRecords codec config env hcount records
            (env.exec (processRecord codec config record) w).state
          rw [Execution.state_andThen hexit]
          simp only [attempts, hexit] at h
          cases i with
          | zero =>
              rw [List.getElem?_cons_zero, Option.some.injEq, Prod.mk.injEq] at h
              obtain ⟨rfl, rfl⟩ := h
              exact ⟨Nat.le_refl _, hstep.1, hstep.2, hrest⟩
          | succ i =>
              have hlater := ih _ h
              exact ⟨Nat.le_trans hstep.1 hlater.1, hlater.2⟩
      | err e =>
          rw [Execution.state_andThen_err hexit]
          simp only [attempts, hexit] at h
          cases i with
          | zero =>
              rw [List.getElem?_cons_zero, Option.some.injEq, Prod.mk.injEq] at h
              obtain ⟨rfl, rfl⟩ := h
              exact ⟨Nat.le_refl _, hstep.1, hstep.2, Nat.le_refl _⟩
          | succ i => simp at h
      | panicked =>
          exact absurd hexit ((creates_processRecord codec config record).exit_ne_panicked w)

theorem contribution_le_one (records : List SqsRecord) (w : World) (i : Nat) :
    contribution codec config env count records w i ≤ 1 := by
  unfold contribution deliveryAttempts
  cases env.connection w.clock with
  | error e => simp
  | ok u =>
      simp only
      split
      · rename_i before after hattempt
        have hbounds := count_attempts codec config env hcount records w.tick hattempt
        omega
      · exact Nat.zero_le 1

theorem contribution_eq_zero {records : List SqsRecord} {w : World}
    (hsame : count (env.exec (handleSqsEvent codec config records) w).state = count w.tick)
    (i : Nat) : contribution codec config env count records w i = 0 := by
  unfold contribution deliveryAttempts
  cases hconn : env.connection w.clock with
  | error e => simp
  | ok u =>
      simp only
      split
      · rename_i before after hattempt
        have hbounds := count_attempts codec config env hcount records w.tick hattempt
        have hnonempty : records ≠ [] := by
          rintro rfl
          simp [attempts] at hattempt
        have hloop : (env.exec (handleSqsEvent codec config records) w).state =
            (env.exec (processRecords codec config records) w.tick).state := by
          simp [handleSqsEvent, hnonempty, createGraphConnection, exec_bind, hconn]
        rw [hloop] at hsame
        omega
      · rfl

theorem total_le_one (records : List SqsRecord) (w : World) {n : Nat}
    (hsame : ∀ k < n, count (env.exec (handleSqsEvent codec config records)
      (beforeBatch codec config env records w k)).state =
        count (beforeBatch codec config env records w k).tick) (i : Nat) :
    total codec config env count records w n i ≤ 1 := by
  have hzero : (List.range n).map (fun k => contribution codec config env count records
      (beforeBatch codec config env records w k) i) = (List.range n).map (fun _ => 0) := by
    refine List.map_congr_left (fun k hk => ?_)
    exact contribution_eq_zero codec config env hcount (hsame k (List.mem_range.1 hk)) i
  rw [total, List.range_succ, List.map_append, hzero, List.sum_append]
  simpa using contribution_le_one codec config env hcount records _ i

end Count

/-- In a delivery that fails, nothing fails once the graph has been changed. -/
def Settled (records : List SqsRecord) (w : World) : Prop :=
  SettledOnceTouched (I := services Empty WorkerPrompt) env.handler (fun o r => Op.fails o r)
    World.graph (handleSqsEvent codec config records) w

theorem Settled.graph_eq {records : List SqsRecord} {w : World}
    (h : Settled codec config env records w) {message : String}
    (herr : (env.exec (handleSqsEvent codec config records) w).exit = .err message) :
    (env.exec (handleSqsEvent codec config records) w).state.graph = w.graph := by
  obtain ⟨c, hlast, hfailed⟩ :=
    (creates_handleSqsEvent codec config records).last_failed w message herr trivial
  exact SettledOnceTouched.view_eq h hlast hfailed

/-- However often the batch comes back, no job has an effect twice as long as
every delivery that fails does so before it has changed the graph. -/
theorem redelivered_effectOnce (records : List SqsRecord) (w : World) (n : Nat)
    (herr : ∀ k < n, ∃ message, (env.exec (handleSqsEvent codec config records)
      (beforeBatch codec config env records w k)).exit = .err message)
    (hsettled : ∀ k < n, Settled codec config env records (beforeBatch codec config env records w k)) :
    EffectOnce codec config env records w n := by
  have hgraph : ∀ k < n, (env.exec (handleSqsEvent codec config records)
      (beforeBatch codec config env records w k)).state.graph =
        (beforeBatch codec config env records w k).graph := by
    intro k hk
    obtain ⟨message, hmessage⟩ := herr k hk
    exact (hsettled k hk).graph_eq codec config env hmessage
  intro i
  constructor
  · refine total_le_one codec config env (fun record w => ?_) records w (fun k hk => ?_) i
    · exact (creates_processRecord codec config record).first w
    · rw [nodeCount, hgraph k hk]
      rfl
  · refine total_le_one codec config env (fun record w => ?_) records w (fun k hk => ?_) i
    · exact (creates_processRecord codec config record).second w
    · rw [requirementCount, hgraph k hk]
      rfl

section Twice

def graphWithLevel : Graph := emptyGraph.createNode ["Domain_Level"] Props.empty

def firstGame : NodeGenerationJob where
  jobId := "1"
  nodeType := .milestone
  nodeName := "First game"
  domainName := "Chess"
  domainDescription := none
  domainLevels := [⟨3, "Competent", graphWithLevel.nodeIds.headD ""⟩]
  suggestedLevel := none

def firstGameCodec : WorkerCodec where
  job := fun _ => .ok firstGame
  verification := fun _ => .error "expected value"
  knowledge := fun _ => .error "expected value"
  skill := fun _ => .error "expected value"
  trait := fun _ => .error "expected value"
  milestone := fun _ => .ok ⟨"First game", "", ""⟩

/-- The call of number `n` fails, if it is a statement, without having been applied. -/
def failingAt (n : Nat) : Env :=
  { Env.calm with outcome := fun k => if k = n then .failed false "timeout" else .done }

/-- The node is created, the statement that links it fails, and the batch comes
back and is acknowledged: the job has left two nodes. -/
theorem firstGame_created_twice :
    ¬ ∀ (codec : WorkerCodec) (config : Config) (env : Env) (records : List SqsRecord) (w : World)
      (n : Nat), (∀ k < n, ∃ message, (env.exec (handleSqsEvent codec config records)
        (beforeBatch codec config env records w k)).exit = .err message) →
          EffectOnce codec config env records w n := by
  intro h
  have honce := h firstGameCodec ⟨some "key"⟩ (failingAt 4) [⟨some "1"⟩] (World.start graphWithLevel) 1
    (fun k hk => ?_) 0
  · have htwice : total firstGameCodec ⟨some "key"⟩ (failingAt 4) nodeCount [⟨some "1"⟩]
        (World.start graphWithLevel) 1 0 = 2 := by decide +kernel
    omega
  · obtain rfl : k = 0 := by omega
    exact ⟨"Retryable error: Neo4j error: timeout", by decide +kernel⟩

theorem firstGame_once_after_retry :
    EffectOnce firstGameCodec ⟨some "key"⟩
      { Env.calm with connection := fun k => if k = 0 then .error "refused" else .ok () }
      [⟨some "1"⟩] (World.start graphWithLevel) 1 := by
  refine redelivered_effectOnce _ _ _ _ _ 1 (fun k hk => ?_) (fun k hk => ?_)
  · obtain rfl : k = 0 := by omega
    exact ⟨"Failed to connect to Neo4j: refused", by decide +kernel⟩
  · obtain rfl : k = 0 := by omega
    exact ⟨fun htouched => absurd rfl htouched, trivial⟩

end Twice

end AtlasOfUs.Worker
