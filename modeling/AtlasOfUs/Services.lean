import AtlasOfUs.Database
import AtlasOfUs.Library.Contract

namespace AtlasOfUs

open Library

/-- What the vector index is asked about: a stored node or a given embedding. -/
inductive SearchKey
  | nodeId (id : ElementId)
  | embedding (vector : Embedding)
  deriving DecidableEq

structure SimilarRow where
  name : Option String
  description : Option String
  id : Option ElementId
  score : Option ℚ
  deriving DecidableEq

structure ImageGenJob where
  domainName : String
  elementId : ElementId
  prompt : String
  s3Key : String
  deriving DecidableEq

/-- The calls that leave the process, for a crate that sends `Event`s and asks
the language model with `Prompt`s. -/
inductive Op (Event Prompt : Type)
  | send (event : Event)
  | connect
  | execute (q : Statement)
  | generate (prompt : Prompt)
  | embed (text : String)
  | queryNodes (label : Option String) (limit : Int) (key : SearchKey)
  | queueConfigured
  | queueImageGeneration (job : ImageGenJob)

/-- A language-model error carries the text that `{:?}` shows. -/
def Op.Reply {Event Prompt : Type} : Op Event Prompt → Type
  | .send _ => Unit
  | .connect => Except String Unit
  | .execute _ => Except String RowStream
  | .generate _ => Except String String
  | .embed _ => Except String Embedding
  | .queryNodes .. => Except String (List SimilarRow)
  | .queueConfigured => Bool
  | .queueImageGeneration _ => Except String Unit

def Op.fails {Event Prompt : Type} : (o : Op Event Prompt) → o.Reply → Prop
  | .send _, _ | .queueConfigured, _ => False
  | .connect, r => ∃ e, r = Except.error e
  | .execute _, r => (∃ e, r = Except.error e) ∨ ∃ rs e, r = Except.ok rs ∧ rs.error = some e
  | .generate _, r => ∃ e, r = Except.error e
  | .embed _, r => ∃ e, r = Except.error e
  | .queryNodes .., r => ∃ e, r = Except.error e
  | .queueImageGeneration _, r => ∃ e, r = Except.error e

def services (Event Prompt : Type) : Signature := ⟨Op Event Prompt, Op.Reply⟩

/-- How the outside world answers the `n`-th call of a run, in any pattern. -/
structure Env where
  outcome : Nat → Outcome
  connection : Nat → Except String Unit
  llm : Nat → Except String String
  embedding : Nat → Except String Embedding
  similar : Nat → Except String (List SimilarRow)
  queueConfigured : Bool
  queue : Nat → Except String Unit

/-- Every call succeeds, the vector index finds nothing and no queue is configured. -/
def Env.calm : Env where
  outcome := fun _ => .done
  connection := fun _ => .ok ()
  llm := fun _ => .ok ""
  embedding := fun _ => .ok []
  similar := fun _ => .ok []
  queueConfigured := false
  queue := fun _ => .ok ()

structure World where
  graph : Graph
  clock : Nat

def World.start (g : Graph) : World := ⟨g, 0⟩

section Handler

variable {Event Prompt ε δ α β : Type}

def World.tick (w : World) : World := { w with clock := w.clock + 1 }

def Env.handler (env : Env) : Handler (services Event Prompt) World
  | .send _, w => ((), w.tick)
  | .connect, w => (env.connection w.clock, w.tick)
  | .execute q, w =>
      ((env.outcome w.clock).reply (q w.graph).1,
        ⟨(env.outcome w.clock).after q w.graph, w.clock + 1⟩)
  | .generate _, w => (env.llm w.clock, w.tick)
  | .embed _, w => (env.embedding w.clock, w.tick)
  | .queryNodes .., w => (env.similar w.clock, w.tick)
  | .queueConfigured, w => (env.queueConfigured, w.tick)
  | .queueImageGeneration _, w => (env.queue w.clock, w.tick)

abbrev Service (Event Prompt ε α : Type) := Proc (services Event Prompt) ε α

def Env.exec (env : Env) (p : Service Event Prompt ε α) (w : World) :
    Execution (services Event Prompt) ε α World :=
  p.run env.handler w

@[simp] theorem World.tick_graph (w : World) : w.tick.graph = w.graph := rfl
@[simp] theorem World.tick_clock (w : World) : w.tick.clock = w.clock + 1 := rfl

def send (event : Event) : Service Event Prompt ε Unit :=
  Proc.perform (I := services Event Prompt) (.send event)

def connect : Service Event Prompt ε (Except String Unit) :=
  Proc.perform (I := services Event Prompt) .connect

def execute (q : Statement) : Service Event Prompt ε (Except String RowStream) :=
  Proc.perform (I := services Event Prompt) (.execute q)

/-- `Graph::run`: the rows are discarded, an error anywhere is an error. -/
def runStatement (q : Statement) : Service Event Prompt ε (Except String Unit) := do
  match ← execute q with
  | .error e => return .error e
  | .ok rs =>
      match rs.error with
      | some e => return .error e
      | none => return .ok ()

def generate (prompt : Prompt) : Service Event Prompt ε (Except String String) :=
  Proc.perform (I := services Event Prompt) (.generate prompt)

def generateEmbedding (text : String) : Service Event Prompt ε (Except String Embedding) :=
  Proc.perform (I := services Event Prompt) (.embed text)

def queryNodes (label : Option String) (limit : Int) (key : SearchKey) :
    Service Event Prompt ε (Except String (List SimilarRow)) :=
  Proc.perform (I := services Event Prompt) (.queryNodes label limit key)

def isQueueConfigured : Service Event Prompt ε Bool :=
  Proc.perform (I := services Event Prompt) .queueConfigured

def queueImageGeneration (job : ImageGenJob) : Service Event Prompt ε (Except String Unit) :=
  Proc.perform (I := services Event Prompt) (.queueImageGeneration job)

@[simp] theorem exec_done (env : Env) (a : α) (w : World) :
    env.exec (Proc.done a : Service Event Prompt ε α) w = ⟨.ok a, w, []⟩ := rfl

@[simp] theorem exec_fail (env : Env) (e : ε) (w : World) :
    env.exec (Proc.fail e : Service Event Prompt ε α) w = ⟨.err e, w, []⟩ := rfl

theorem exec_bind (env : Env) (p : Service Event Prompt ε α) (f : α → Service Event Prompt ε β)
    (w : World) : env.exec (p >>= f) w = (env.exec p w).andThen (fun a => env.exec (f a)) :=
  Proc.run_bind env.handler p f w

theorem exec_attempt (env : Env) (p : Service Event Prompt ε α) (w : World) :
    env.exec (p.attempt : Service Event Prompt δ (Except ε α)) w =
      ⟨(env.exec p w).exit.attempted, (env.exec p w).state, (env.exec p w).calls⟩ :=
  Proc.run_attempt env.handler p w

theorem exec_mapErr (env : Env) (f : ε → δ) (p : Service Event Prompt ε α) (w : World) :
    env.exec (p.mapErr f) w =
      ⟨(env.exec p w).exit.mapErr f, (env.exec p w).state, (env.exec p w).calls⟩ :=
  Proc.run_mapErr env.handler f p w

@[simp] theorem exec_send (env : Env) (event : Event) (w : World) :
    env.exec (send event : Service Event Prompt ε Unit) w =
      ⟨.ok (), w.tick, [⟨.send event, ()⟩]⟩ := rfl

@[simp] theorem exec_connect (env : Env) (w : World) :
    env.exec (connect : Service Event Prompt ε (Except String Unit)) w =
      ⟨.ok (env.connection w.clock), w.tick, [⟨.connect, env.connection w.clock⟩]⟩ := rfl

@[simp] theorem exec_execute (env : Env) (q : Statement) (w : World) :
    env.exec (execute q : Service Event Prompt ε (Except String RowStream)) w =
      ⟨.ok ((env.outcome w.clock).reply (q w.graph).1),
        ⟨(env.outcome w.clock).after q w.graph, w.clock + 1⟩,
        [⟨.execute q, (env.outcome w.clock).reply (q w.graph).1⟩]⟩ := rfl

@[simp] theorem exec_generateEmbedding (env : Env) (text : String) (w : World) :
    env.exec (generateEmbedding text : Service Event Prompt ε (Except String Embedding)) w =
      ⟨.ok (env.embedding w.clock), w.tick, [⟨.embed text, env.embedding w.clock⟩]⟩ := rfl

@[simp] theorem exec_queryNodes (env : Env) (label : Option String) (limit : Int) (key : SearchKey)
    (w : World) :
    env.exec (queryNodes label limit key :
        Service Event Prompt ε (Except String (List SimilarRow))) w =
      ⟨.ok (env.similar w.clock), w.tick,
        [⟨.queryNodes label limit key, env.similar w.clock⟩]⟩ := rfl

def sent (calls : List (Call (services Event Prompt))) : List Event :=
  calls.filterMap (fun c => match c with
    | ⟨.send event, _⟩ => some event
    | _ => none)

end Handler

end AtlasOfUs
