import AtlasOfUs.Library.Calls
import AtlasOfUs.Statements

namespace AtlasOfUs

open Library

variable {Event Prompt ε α β : Type}

abbrev Emission (statement : Statement → Prop) (event : Event → Prop) : Op Event Prompt → Prop
  | .execute q => statement q
  | .send e => event e
  | _ => True

/-- The statements that the program executes and the events it sends. -/
abbrev Emits (statement : Statement → Prop) (event : Event → Prop)
    (p : Service Event Prompt ε α) : Prop :=
  Calls (I := services Event Prompt) (Emission statement event) p

theorem after_cases {P Q : Graph → Prop} (hPQ : ∀ g, P g → Q g) {q : Statement}
    (hq : ∀ g, P g → Q (q g).2) (o : Outcome) {g : Graph} (hg : P g) : Q (o.after q g) := by
  rw [Outcome.after]
  split
  · exact hq g hg
  · exact hPQ g hg

theorem handler_graph (env : Env) {P Q : Graph → Prop} (hPQ : ∀ g, P g → Q g)
    (o : Op Event Prompt) (hq : ∀ q, o = .execute q → ∀ g, P g → Q (q g).2) (w : World)
    (hw : P w.graph) : Q (env.handler o w).2.graph := by
  cases o with
  | execute q => exact after_cases hPQ (hq q rfl) _ hw
  | _ => exact hPQ _ hw

namespace Emits

variable {statement statement' : Statement → Prop} {event event' : Event → Prop}

theorem mono {p : Service Event Prompt ε α} (hp : Emits statement event p)
    (hs : ∀ q, statement q → statement' q) (he : ∀ e, event e → event' e) :
    Emits statement' event' p :=
  hp.weaken fun o ho => by
    cases o with
    | execute q => exact hs q ho
    | send e => exact he e ho
    | _ => exact ho

theorem of_runs {p : Service Event Prompt ε α} (hp : Runs statement p) : Emits statement event p :=
  (Contract.toCalls hp).weaken fun o ho => by
    cases o with
    | execute q => exact ho
    | _ => exact ho.elim

theorem execute {q : Statement} (hq : statement q) :
    Emits statement event (execute q : Service Event Prompt ε (Except String RowStream)) :=
  Calls.perform hq

theorem runStatement {q : Statement} (hq : statement q) :
    Emits statement event (runStatement q : Service Event Prompt ε (Except String Unit)) := by
  refine (execute hq).bind (fun reply => ?_)
  cases reply with
  | error e => trivial
  | ok rs => cases h : rs.error <;> simp [h, Calls]

theorem send {e : Event} (he : event e) :
    Emits statement event (send e : Service Event Prompt ε Unit) :=
  Calls.perform he

theorem send_bind {e : Event} {f : Unit → Service Event Prompt ε α} (he : event e)
    (hf : Emits statement event (f ())) : Emits statement event (AtlasOfUs.send e >>= f) :=
  (send he).bind (fun _ => hf)

theorem generateEmbedding (text : String) :
    Emits statement event
      (generateEmbedding text : Service Event Prompt ε (Except String Embedding)) :=
  Calls.perform trivial

/-- What every statement of the program keeps, the whole run keeps, whichever of
them fail. -/
theorem maintains {P : Graph → Prop} {p : Service Event Prompt ε α} (hp : Emits statement event p)
    (hstep : ∀ q g, statement q → P g → P (q g).2) (env : Env) (w : World) (hw : P w.graph) :
    P (env.exec p w).state.graph := by
  refine hp.run_invariant (P := fun w : World => P w.graph) (fun o w ho => ?_) hw
  refine handler_graph env (fun _ => id) o (fun q hq g => ?_) w
  subst hq
  exact hstep q g ho

end Emits

abbrev Executes (once : Statement → Prop) : Op Event Prompt → Prop
  | .execute q => once q
  | _ => False

abbrev EmitsOnce (statement once : Statement → Prop) (event : Event → Prop)
    (p : Service Event Prompt ε α) : Prop :=
  CallsOnce (I := services Event Prompt) (Emission statement event) (Executes once) p

namespace EmitsOnce

variable {statement once : Statement → Prop} {event : Event → Prop}

theorem execute {q : Statement} (hq : once q) :
    EmitsOnce statement once event
      (execute q : Service Event Prompt ε (Except String RowStream)) :=
  CallsOnce.perform hq

theorem send_bind {e : Event} {f : Unit → Service Event Prompt ε α} (he : event e)
    (hf : EmitsOnce statement once event (f ())) :
    EmitsOnce statement once event (AtlasOfUs.send e >>= f) :=
  CallsOnce.after (Emits.send he) (fun _ => hf)

theorem maintains {P Q : Graph → Prop} {p : Service Event Prompt ε α}
    (hp : EmitsOnce statement once event p) (hPQ : ∀ g, P g → Q g)
    (hP : ∀ q g, statement q → P g → P (q g).2) (hQ : ∀ q g, statement q → Q g → Q (q g).2)
    (honce : ∀ q g, once q → P g → Q (q g).2) (env : Env) (w : World) (hw : P w.graph) :
    Q (env.exec p w).state.graph := by
  refine hp.run_invariant (P := fun w : World => P w.graph) (Q := fun w : World => Q w.graph)
    (fun w => hPQ w.graph) (fun o w ho => ?_) (fun o w ho => ?_) (fun o w ho => ?_) hw
  · refine handler_graph env (fun _ => id) o (fun q hq g => ?_) w
    subst hq
    exact hP q g ho
  · refine handler_graph env (fun _ => id) o (fun q hq g => ?_) w
    subst hq
    exact hQ q g ho
  · refine handler_graph env hPQ o (fun q hq g => ?_) w
    subst hq
    exact honce q g ho

end EmitsOnce

end AtlasOfUs
