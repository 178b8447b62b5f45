import AtlasOfUs.Services

namespace AtlasOfUs

open Library

def Outcome.returnsRow : Outcome → Bool
  | .done => true
  | .failed .. => false
  | .cut _ n _ => 0 < n

/-- The first row that arrives, in the pattern `if let Ok(Some(row))`. -/
def Outcome.firstRow (o : Outcome) (rows : List Row) : Option Row :=
  match o.reply rows with
  | .ok rs => rs.firstRow
  | .error _ => none

theorem Outcome.firstRow_eq (o : Outcome) (rows : List Row) :
    o.firstRow rows = if o.returnsRow then rows.head? else none := by
  cases o with
  | done => rfl
  | failed applied e => rfl
  | cut applied n e =>
      cases n <;> cases rows <;> simp [firstRow, reply, returnsRow, RowStream.firstRow]

variable {Event Prompt ε δ α β : Type}

/-- The program makes no calls but statements of the given kind. -/
abbrev Runs (allowed : Statement → Prop) (p : Service Event Prompt ε α) : Prop :=
  Contract (I := services Event Prompt)
    (fun o => match o with
      | .execute q => allowed q
      | _ => False)
    (fun _ _ => False) p

namespace Runs

variable {allowed : Statement → Prop}

theorem mono {allowed' : Statement → Prop} {p : Service Event Prompt ε α} (hp : Runs allowed p)
    (h : ∀ q, allowed q → allowed' q) : Runs allowed' p :=
  hp.weaken fun o ho => by
    cases o with
    | execute q => exact h q ho
    | _ => exact ho

theorem execute {q : Statement} (hq : allowed q) :
    Runs allowed (execute q : Service Event Prompt ε (Except String RowStream)) :=
  Contract.perform hq (fun _ => id)

theorem runStatement {q : Statement} (hq : allowed q) :
    Runs allowed (runStatement q : Service Event Prompt ε (Except String Unit)) := by
  refine (execute hq).bind (fun reply => ?_)
  cases reply with
  | error e => trivial
  | ok rs => cases h : rs.error <;> simp [h, Contract]

/-- What every allowed statement keeps, the whole run keeps, whichever of its
statements fail and whether or not the failed ones were applied. -/
theorem maintains {P : Graph → Prop} {p : Service Event Prompt ε α} (hp : Runs allowed p)
    (hstep : ∀ q g, allowed q → P g → P (q g).2) (env : Env) (w : World) (hw : P w.graph) :
    P (env.exec p w).state.graph := by
  refine hp.run_invariant (P := fun w => P w.graph) (fun o w ho hw => ?_) w hw
  cases o with
  | execute q =>
      change P ((env.outcome w.clock).after q w.graph)
      unfold Outcome.after
      split
      · exact hstep q _ ho hw
      · exact hw
  | _ => exact ho.elim

theorem exit_ne_panicked {p : Service Event Prompt ε α} (hp : Runs allowed p) (env : Env)
    (w : World) : (env.exec p w).exit ≠ .panicked := by
  intro h
  obtain ⟨c, -, hbad⟩ := (hp.panicked_iff env.handler w).1 h
  exact hbad

end Runs

theorem runStatement_infallible (q : Statement) :
    (runStatement q : Service Event Prompt ε (Except String Unit)).Infallible := by
  refine (Proc.Infallible.perform _).bind (fun reply => ?_)
  cases reply with
  | error e => exact Proc.Infallible.done _
  | ok rs => cases h : rs.error <;> simp [h, Proc.Infallible]

theorem exec_runStatement (env : Env) (q : Statement) (w : World) :
    env.exec (runStatement q : Service Event Prompt ε (Except String Unit)) w =
      ⟨.ok (match env.outcome w.clock with
        | .done => .ok ()
        | .failed _ e | .cut _ _ e => .error e),
        ⟨(env.outcome w.clock).after q w.graph, w.clock + 1⟩,
        [⟨.execute q, (env.outcome w.clock).reply (q w.graph).1⟩]⟩ := by
  rw [runStatement, exec_bind, exec_execute]
  cases env.outcome w.clock <;> rfl

end AtlasOfUs
