import AtlasOfUs.Library.PropertyGraph
import AtlasOfUs.Library.Program
import Mathlib.Data.List.Perm.Subperm
import Mathlib.Algebra.Ring.Int.Defs
import Mathlib.Data.Rat.Defs

namespace AtlasOfUs

open Library

abbrev ElementId := String

abbrev Embedding := List ℚ

inductive Scalar
  | bool (b : Bool)
  | int (i : Int)
  | float (q : ℚ)
  | str (s : String)
  deriving DecidableEq, Repr

/-- What Neo4j stores as a property: a scalar or a flat list of scalars. -/
inductive Value
  | bool (b : Bool)
  | int (i : Int)
  | float (q : ℚ)
  | str (s : String)
  | list (vs : List Scalar)
  deriving DecidableEq, Repr

def Value.asStr : Value → Option String
  | .str s => some s
  | _ => none

abbrev Graph := Library.Graph ElementId Value
abbrev Node := Library.Node ElementId Value
abbrev Edge := Library.Edge ElementId Value
abbrev Props := Library.Props Value

inductive Json
  | null
  | bool (b : Bool)
  | int (i : Int)
  | float (q : ℚ)
  | str (s : String)
  | array (vs : List Json)
  | object (fields : List (String × Json))

/-- The parsers of `serde_json` and the printer of `f64`. -/
structure Codec where
  value : String → Except String Json
  strings : String → Except String (List String)
  float : ℚ → String

namespace Json

def get (j : Json) (key : String) : Option Json :=
  match j with
  | .object fields => fields.lookup key
  | _ => none

def asStr : Json → Option String
  | .str s => some s
  | _ => none

def asI64 : Json → Option Int
  | .int i => if -2 ^ 63 ≤ i ∧ i < 2 ^ 63 then some i else none
  | _ => none

def asArray : Json → Option (List Json)
  | .array vs => some vs
  | _ => none

end Json

def Scalar.toJson : Scalar → Json
  | .bool b => .bool b
  | .int i => .int i
  | .float q => .float q
  | .str s => .str s

def Value.toJson : Value → Json
  | .bool b => .bool b
  | .int i => .int i
  | .float q => .float q
  | .str s => .str s
  | .list vs => .array (vs.map Scalar.toJson)

def propJson (v : Option Value) : Json := (v.map Value.toJson).getD .null

abbrev Row := List (String × Json)

def Row.get (row : Row) (column : String) : Option Json := row.lookup column

def Row.getString (row : Row) (column : String) : Option String :=
  (row.get column).bind Json.asStr

def Row.getInt (row : Row) (column : String) : Option Int := (row.get column).bind Json.asI64

abbrev Statement := Graph → List Row × Graph

structure RowStream where
  rows : List Row
  error : Option String

/-- The first `next()`: a row, the end of the stream, or the error that broke it. -/
def RowStream.next (rs : RowStream) : Except String (Option Row) :=
  match rs.rows, rs.error with
  | row :: _, _ => .ok (some row)
  | [], none => .ok none
  | [], some e => .error e

def RowStream.firstRow (rs : RowStream) : Option Row := rs.rows.head?

theorem RowStream.firstRow_eq_some (rs : RowStream) (row : Row) :
    rs.firstRow = some row ↔ rs.next = .ok (some row) := by
  rcases rs with ⟨rows, error⟩
  cases rows <;> cases error <;> simp [firstRow, next]

/-- What becomes of one statement. Where it fails, or its stream breaks, the
server may have applied it or not. -/
inductive Outcome
  | done
  | failed (applied : Bool) (error : String)
  | cut (applied : Bool) (delivered : Nat) (error : String)
  deriving DecidableEq, Repr

def Outcome.applied : Outcome → Bool
  | .done => true
  | .failed applied _ => applied
  | .cut applied _ _ => applied

def Outcome.reply (o : Outcome) (rows : List Row) : Except String RowStream :=
  match o with
  | .done => .ok ⟨rows, none⟩
  | .failed _ e => .error e
  | .cut _ n e => .ok ⟨rows.take n, some e⟩

def Outcome.after (o : Outcome) (q : Statement) (g : Graph) : Graph :=
  if o.applied then (q g).2 else g

@[simp] theorem Outcome.reply_done (rows : List Row) :
    Outcome.done.reply rows = .ok ⟨rows, none⟩ := rfl

@[simp] theorem Outcome.after_done (q : Statement) (g : Graph) : Outcome.done.after q g = (q g).2 :=
  rfl

theorem Outcome.done_of_reply {o : Outcome} {rows rows' : List Row}
    (h : o.reply rows = .ok ⟨rows', none⟩) : o = .done := by
  cases o with
  | done => rfl
  | failed applied e => cases h
  | cut applied n e => cases h

theorem Outcome.rows_of_reply {o : Outcome} {rows rows' : List Row}
    (h : o.reply rows = .ok ⟨rows', none⟩) : rows = rows' := by
  obtain rfl := done_of_reply h
  exact congrArg RowStream.rows (Except.ok.inj h)

def candidateId (k : Nat) : ElementId := "4:" ++ String.ofList (List.replicate k '1')

theorem candidateId_injective : Function.Injective candidateId := fun a b h => by
  have hlen := congrArg String.length h
  simpa [candidateId] using hlen

def elementIds : IdSupply ElementId where
  fresh n ids := (((List.range (ids.length + 1)).map (fun k => candidateId (n + k))).find?
    (fun i => !ids.contains i)).getD ""
  fresh_notMem n ids := by
    generalize hc : (List.range (ids.length + 1)).map (fun k => candidateId (n + k)) = candidates
    have hnodup : candidates.Nodup := hc ▸ List.nodup_range.map
      (fun a b h => Nat.add_left_cancel (candidateId_injective h))
    have hlen : candidates.length = ids.length + 1 := by simp [← hc]
    cases hfind : candidates.find? (fun i => !ids.contains i) with
    | some i => simpa using List.find?_some hfind
    | none =>
        have hsub : candidates ⊆ ids := fun i hi => by
          simpa using List.find?_eq_none.1 hfind i hi
        have := (List.subperm_of_subset hnodup hsub).length_le
        omega

def emptyGraph : Graph where
  nodes := []
  edges := []
  supply := elementIds
  issued := 0
  nodeIds_nodup := List.nodup_nil
  edgeIds_nodup := List.nodup_nil
  source_mem := by simp
  target_mem := by simp

end AtlasOfUs
