import AtlasOfUs.Library.Program
import Mathlib.Data.List.Infix

namespace AtlasOfUs.Library

variable {I : Signature} {ε α σ μ : Type}

/-- A program, and the messages of it that are in a channel or have left it at the other end. -/
structure Pipe (I : Signature) (ε α σ μ : Type) where
  task : Proc I ε α
  state : σ
  queue : List μ
  received : List μ
  connected : Bool

inductive Move
  | work
  | receive
  | disconnect
  deriving DecidableEq

namespace Pipe

section Steps

variable (h : Handler I σ) (message : I.Op → Option μ) (capacity : Nat)

def start (p : Proc I ε α) (s : σ) : Pipe I ε α σ μ := ⟨p, s, [], [], true⟩

def admits (pipe : Pipe I ε α σ μ) (o : I.Op) : Bool :=
  (message o).isNone || !pipe.connected || pipe.queue.length < capacity

def enqueue (pipe : Pipe I ε α σ μ) (o : I.Op) : List μ :=
  if pipe.connected then pipe.queue ++ (message o).toList else pipe.queue

def work (pipe : Pipe I ε α σ μ) : Pipe I ε α σ μ :=
  match pipe.task with
  | .call o k =>
      if pipe.admits message capacity o then
        { pipe with
          task := k (h o pipe.state).1
          state := (h o pipe.state).2
          queue := pipe.enqueue message o }
      else pipe
  | _ => pipe

def receive (pipe : Pipe I ε α σ μ) : Pipe I ε α σ μ :=
  match pipe.queue with
  | [] => pipe
  | m :: queue => { pipe with queue := queue, received := pipe.received ++ [m] }

def disconnect (pipe : Pipe I ε α σ μ) : Pipe I ε α σ μ :=
  { pipe with queue := [], connected := false }

def step : Move → Pipe I ε α σ μ → Pipe I ε α σ μ
  | .work => work h message capacity
  | .receive => receive
  | .disconnect => disconnect

def after (schedule : Nat → Move) (pipe : Pipe I ε α σ μ) : Nat → Pipe I ε α σ μ
  | 0 => pipe
  | k + 1 => step h message capacity (schedule k) (after schedule pipe k)

/-- The program has ended and everything that was sent is received. -/
structure Settled (pipe : Pipe I ε α σ μ) : Prop where
  ended : ∀ o k, pipe.task ≠ .call o k
  empty : pipe.queue = []

end Steps

def messages (message : I.Op → Option μ) (calls : List (Call I)) : List μ :=
  calls.filterMap fun c => message c.1

section Following

variable {h : Handler I σ} {message : I.Op → Option μ} {capacity : Nat} {pipe : Pipe I ε α σ μ}
  {p : Proc I ε α} {s : σ}

/-- The program is on its way to where it ends by itself, and what is received and what is waiting
is what was sent, but for what was lost with the receiver. -/
structure Follows (h : Handler I σ) (message : I.Op → Option μ) (p : Proc I ε α) (s : σ)
    (pipe : Pipe I ε α σ μ) : Prop where
  exit : (pipe.task.run h pipe.state).exit = (p.run h s).exit
  state : (pipe.task.run h pipe.state).state = (p.run h s).state
  calls : ∃ made, (p.run h s).calls = made ++ (pipe.task.run h pipe.state).calls ∧
    (pipe.received ++ pipe.queue) <+: messages message made ∧
    (pipe.connected = true → pipe.received ++ pipe.queue = messages message made)

theorem follows_start (p : Proc I ε α) (s : σ) : Follows h message p s (start p s) :=
  ⟨rfl, rfl, [], rfl, List.prefix_refl _, fun _ => rfl⟩

/-- A step of the program is a call that is not admitted yet, or the call and what comes of it. -/
theorem work_cases (h : Handler I σ) (message : I.Op → Option μ) (capacity : Nat)
    (pipe : Pipe I ε α σ μ) :
    (work h message capacity pipe = pipe ∧
      ∀ o k, pipe.task = .call o k → pipe.admits message capacity o = false) ∨
    ∃ o k, pipe.task = .call o k ∧ pipe.admits message capacity o = true ∧
      work h message capacity pipe =
        ⟨k (h o pipe.state).1, (h o pipe.state).2, pipe.enqueue message o, pipe.received,
          pipe.connected⟩ := by
  cases htask : pipe.task with
  | call o k =>
      by_cases hadmits : pipe.admits message capacity o = true
      · refine .inr ⟨o, k, rfl, hadmits, ?_⟩
        rw [work, htask]
        simp only [hadmits, if_true]
      · refine .inl ⟨?_, ?_⟩
        · rw [work, htask]
          simp only [hadmits]
          rfl
        · rintro o' k' ⟨⟩
          exact Bool.eq_false_iff.2 hadmits
  | done a | fail e | panic =>
      refine .inl ⟨by rw [work, htask], ?_⟩
      rintro o' k' ⟨⟩

theorem Follows.work (hpipe : Follows h message p s pipe) :
    Follows h message p s (pipe.work h message capacity) := by
  rcases work_cases h message capacity pipe with ⟨hsame, -⟩ | ⟨o, k, htask, -, hwork⟩
  · rwa [hsame]
  · obtain ⟨made, hcalls, hprefix, hconnected⟩ := hpipe.calls
    have hexit := hpipe.exit
    have hstate := hpipe.state
    rw [htask, Proc.run_call] at hexit hstate hcalls
    have hmade : messages message (made ++ [⟨o, (h o pipe.state).1⟩]) =
        messages message made ++ (message o).toList := by
      rw [messages, messages, List.filterMap_append]
      congr 1
    rw [hwork]
    refine ⟨hexit, hstate, made ++ [⟨o, (h o pipe.state).1⟩], ?_, ?_, ?_⟩
    · rw [hcalls, List.append_assoc]
      rfl
    · change pipe.received ++ pipe.enqueue message o <+: _
      rw [hmade, enqueue]
      by_cases hc : pipe.connected = true
      · rw [if_pos hc, ← List.append_assoc, hconnected hc]
      · rw [if_neg hc]
        exact hprefix.trans (List.prefix_append _ _)
    · intro hc
      change pipe.received ++ pipe.enqueue message o = _
      have hc : pipe.connected = true := hc
      rw [hmade, enqueue, if_pos hc, ← List.append_assoc, hconnected hc]

theorem Follows.receive (hpipe : Follows h message p s pipe) : Follows h message p s pipe.receive := by
  unfold Pipe.receive
  split
  · exact hpipe
  · rename_i m queue hqueue
    obtain ⟨made, hcalls, hprefix, hconnected⟩ := hpipe.calls
    rw [hqueue, List.append_cons] at hprefix hconnected
    exact ⟨hpipe.exit, hpipe.state, made, hcalls, hprefix, hconnected⟩

theorem Follows.disconnect (hpipe : Follows h message p s pipe) :
    Follows h message p s pipe.disconnect := by
  obtain ⟨made, hcalls, hprefix, -⟩ := hpipe.calls
  refine ⟨hpipe.exit, hpipe.state, made, hcalls, ?_, fun hc => by cases hc⟩
  change pipe.received ++ [] <+: _
  rw [List.append_nil]
  exact (List.prefix_append _ _).trans hprefix

/-- Whatever the schedule, the channel changes nothing about what the program does. -/
theorem follows_after (schedule : Nat → Move) (p : Proc I ε α) (s : σ) (k : Nat) :
    Follows h message p s (after h message capacity schedule (start p s) k) := by
  induction k with
  | zero => exact follows_start p s
  | succ k ih =>
      change Follows h message p s (step h message capacity (schedule k) _)
      cases schedule k with
      | work => exact ih.work
      | receive => exact ih.receive
      | disconnect => exact ih.disconnect

theorem Follows.received (hpipe : Follows h message p s pipe) :
    pipe.received <+: messages message (p.run h s).calls := by
  obtain ⟨made, hcalls, hprefix, -⟩ := hpipe.calls
  rw [hcalls, messages, List.filterMap_append]
  exact ((List.prefix_append _ _).trans hprefix).trans (List.prefix_append _ _)

theorem run_of_ended (hended : ∀ o k, pipe.task ≠ .call o k) :
    (pipe.task.run h pipe.state).state = pipe.state ∧ (pipe.task.run h pipe.state).calls = [] := by
  cases htask : pipe.task with
  | call o k => exact absurd htask (hended o k)
  | done a | fail e | panic => exact ⟨rfl, rfl⟩

theorem Follows.state_of_ended (hpipe : Follows h message p s pipe)
    (hended : ∀ o k, pipe.task ≠ .call o k) : pipe.state = (p.run h s).state :=
  (run_of_ended (h := h) hended).1.symm.trans hpipe.state

theorem Follows.received_of_settled (hpipe : Follows h message p s pipe) (hsettled : pipe.Settled)
    (hconnected : pipe.connected = true) :
    pipe.received = messages message (p.run h s).calls := by
  obtain ⟨made, hcalls, -, hall⟩ := hpipe.calls
  have hall := hall hconnected
  rw [hsettled.empty, List.append_nil] at hall
  rw [hall, hcalls, (run_of_ended (h := h) hsettled.ended).2, List.append_nil]

theorem state_of_calls_nil {p : Proc I ε α} {s : σ} (hnone : (p.run h s).calls = []) :
    (p.run h s).state = s := by
  cases p with
  | call o k =>
      rw [Proc.run_call] at hnone
      cases hnone
  | done a | fail e | panic => rfl

/-- Once the message of its last call is received, the program has done all it does. -/
theorem Follows.state_of_received (hpipe : Follows h message p s pipe) {before : List (Call I)}
    {last : Call I} (hlast : (p.run h s).calls = before ++ [last]) (hmessage : (message last.1).isSome)
    (hall : pipe.received = messages message (p.run h s).calls) : pipe.state = (p.run h s).state := by
  obtain ⟨made, hcalls, hprefix, -⟩ := hpipe.calls
  have hnone : messages message (pipe.task.run h pipe.state).calls = [] := by
    have hmade := ((List.prefix_append pipe.received pipe.queue).trans hprefix).length_le
    have happend : messages message (made ++ (pipe.task.run h pipe.state).calls) =
        messages message made ++ messages message (pipe.task.run h pipe.state).calls :=
      List.filterMap_append
    rw [hall, hcalls, happend, List.length_append] at hmade
    exact List.eq_nil_of_length_eq_zero (by omega)
  have hrest : (pipe.task.run h pipe.state).calls = [] := by
    by_contra hne
    have hmem : last ∈ (pipe.task.run h pipe.state).calls := by
      have hget := congrArg List.getLast? (hcalls.symm.trans hlast)
      rw [List.getLast?_append_of_ne_nil _ hne, List.getLast?_concat] at hget
      exact List.mem_of_getLast? hget
    obtain ⟨m, hm⟩ := Option.isSome_iff_exists.1 hmessage
    have hsent : m ∈ messages message (pipe.task.run h pipe.state).calls :=
      List.mem_filterMap.2 ⟨last, hmem, hm⟩
    rw [hnone] at hsent
    exact List.not_mem_nil hsent
  rw [← hpipe.state, state_of_calls_nil hrest]

theorem connected_after {schedule : Nat → Move} {k : Nat}
    (hstays : ∀ i < k, schedule i ≠ .disconnect) :
    (after h message capacity schedule (start p s) k).connected = true := by
  induction k with
  | zero => rfl
  | succ k ih =>
      have hk := ih fun i hi => hstays i (Nat.lt_succ_of_lt hi)
      change (step h message capacity (schedule k) _).connected = true
      cases hmove : schedule k with
      | work =>
          rcases work_cases h message capacity (after h message capacity schedule (start p s) k) with
            ⟨hsame, -⟩ | ⟨o, kont, -, -, hwork⟩
          · exact (congrArg connected hsame).trans hk
          · exact (congrArg connected hwork).trans hk
      | receive =>
          change (Pipe.receive _).connected = true
          unfold Pipe.receive
          split
          · exact hk
          · exact hk
      | disconnect => exact absurd hmove (hstays k (Nat.lt_succ_self k))

end Following

section Progress

variable (h : Handler I σ) (message : I.Op → Option μ) (capacity : Nat)

def rank (pipe : Pipe I ε α σ μ) : Nat :=
  2 * (pipe.task.run h pipe.state).calls.length + pipe.queue.length + pipe.connected.toNat

theorem step_eq_or_rank_lt (move : Move) (pipe : Pipe I ε α σ μ) :
    step h message capacity move pipe = pipe ∨
      rank h (step h message capacity move pipe) < rank h pipe := by
  cases move with
  | work =>
      rcases work_cases h message capacity pipe with ⟨hsame, -⟩ | ⟨o, k, htask, -, hwork⟩
      · exact .inl hsame
      · right
        change rank h (Pipe.work h message capacity pipe) < _
        have hqueue : (pipe.enqueue message o).length ≤ pipe.queue.length + 1 := by
          unfold enqueue
          split
          · rw [List.length_append]
            cases message o with
            | none => exact Nat.le_succ _
            | some m => exact Nat.le_refl _
          · exact Nat.le_succ _
        rw [hwork, rank, rank, htask, Proc.run_call, List.length_cons]
        simp only
        omega
  | receive =>
      change Pipe.receive pipe = pipe ∨ rank h (Pipe.receive pipe) < _
      cases hqueue : pipe.queue with
      | nil =>
          left
          rw [receive, hqueue]
      | cons m queue =>
          right
          rw [receive, hqueue, rank, rank, hqueue, List.length_cons]
          simp only
          omega
  | disconnect =>
      change Pipe.disconnect pipe = pipe ∨ rank h (Pipe.disconnect pipe) < _
      obtain ⟨task, state, queue, received, connected⟩ := pipe
      cases connected with
      | true =>
          right
          change 2 * (task.run h state).calls.length + 0 + 0 <
            2 * (task.run h state).calls.length + queue.length + 1
          omega
      | false =>
          cases queue with
          | nil => exact .inl rfl
          | cons m queue =>
              right
              change 2 * (task.run h state).calls.length + 0 + 0 <
                2 * (task.run h state).calls.length + (queue.length + 1) + 0
              omega

variable {capacity}

theorem settled_or_moves (hcapacity : 0 < capacity) (pipe : Pipe I ε α σ μ) :
    pipe.Settled ∨ work h message capacity pipe ≠ pipe ∨ receive pipe ≠ pipe := by
  cases hqueue : pipe.queue with
  | cons m queue =>
      right; right
      intro hsame
      have hlength := congrArg (fun pipe => pipe.queue.length) hsame
      simp only [receive, hqueue, List.length_cons] at hlength
      omega
  | nil =>
      by_cases hended : ∀ o k, pipe.task ≠ .call o k
      · exact .inl ⟨hended, hqueue⟩
      · right; left
        push Not at hended
        obtain ⟨o, k, htask⟩ := hended
        have hadmits : pipe.admits message capacity o = true := by
          rw [admits, hqueue, List.length_nil, decide_eq_true hcapacity, Bool.or_true]
        intro hsame
        rcases work_cases h message capacity pipe with ⟨-, hblocked⟩ | ⟨o', k', htask', -, hwork⟩
        · rw [hblocked o k htask] at hadmits
          cases hadmits
        · have hcalls := congrArg (fun pipe => (pipe.task.run h pipe.state).calls.length)
            (hwork.symm.trans hsame)
          simp only [htask', Proc.run_call, List.length_cons] at hcalls
          omega

variable {h message} {pipe : Pipe I ε α σ μ}

structure Fair (schedule : Nat → Move) : Prop where
  works : ∀ k, ∃ i, k ≤ i ∧ schedule i = .work
  receives : ∀ k, ∃ i, k ≤ i ∧ schedule i = .receive

/-- A move that would do something is still to come, or something else is done before. -/
theorem exists_rank_lt {schedule : Nat → Move} {k : Nat} {move : Move}
    (hmove : step h message capacity move (after h message capacity schedule pipe k) ≠
      after h message capacity schedule pipe k)
    (hfair : ∃ i, k ≤ i ∧ schedule i = move) :
    ∃ j, k < j ∧ rank h (after h message capacity schedule pipe j) <
      rank h (after h message capacity schedule pipe k) := by
  obtain ⟨i, hi, hschedule⟩ := hfair
  by_contra hnone
  have hsame : ∀ d, after h message capacity schedule pipe (k + d) =
      after h message capacity schedule pipe k := by
    intro d
    induction d with
    | zero => rfl
    | succ d ih =>
        have hstep := step_eq_or_rank_lt h message capacity (schedule (k + d))
          (after h message capacity schedule pipe (k + d))
        rcases hstep with hstep | hlt
        · exact hstep.trans ih
        · have hrank : rank h (after h message capacity schedule pipe (k + (d + 1))) <
              rank h (after h message capacity schedule pipe (k + d)) := hlt
          rw [ih] at hrank
          exact absurd ⟨k + (d + 1), by omega, hrank⟩ hnone
  have hi' := hsame (i - k)
  have hnext := hsame (i - k + 1)
  rw [show k + (i - k) = i by omega] at hi'
  rw [show k + (i - k + 1) = i + 1 by omega] at hnext
  change step h message capacity (schedule i) _ = _ at hnext
  rw [hi', hschedule] at hnext
  exact hmove hnext

variable (h message) in
theorem exists_settled (hcapacity : 0 < capacity) {schedule : Nat → Move} (hfair : Fair schedule)
    (pipe : Pipe I ε α σ μ) : ∃ k, (after h message capacity schedule pipe k).Settled := by
  suffices hall : ∀ n k, rank h (after h message capacity schedule pipe k) = n →
      ∃ k, (after h message capacity schedule pipe k).Settled from hall _ 0 rfl
  intro n
  induction n using Nat.strongRecOn with
  | _ n ih =>
      intro k hk
      have hnext : ∀ move, step h message capacity move (after h message capacity schedule pipe k) ≠
          after h message capacity schedule pipe k → (∃ i, k ≤ i ∧ schedule i = move) →
          ∃ k, (after h message capacity schedule pipe k).Settled := by
        intro move hmove hlater
        obtain ⟨j, -, hlt⟩ := exists_rank_lt hmove hlater
        exact ih _ (hk ▸ hlt) j rfl
      rcases settled_or_moves h message hcapacity
        (after h message capacity schedule pipe k) with hsettled | hwork | hreceive
      · exact ⟨k, hsettled⟩
      · exact hnext .work hwork (hfair.works k)
      · exact hnext .receive hreceive (hfair.receives k)

end Progress

end Pipe

end AtlasOfUs.Library
