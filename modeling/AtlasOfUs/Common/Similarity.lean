import AtlasOfUs.Services
import AtlasOfUs.Library.Ranking
import Mathlib.Algebra.Order.Ring.Unbundled.Rat

namespace AtlasOfUs.Similarity

open Library

structure FindSimilarNodesRequest where
  nodeId : Option ElementId := none
  embedding : Option Embedding := none
  text : Option String := none
  label : Option String := none
  limit : Option Int := none

structure SimilarNodeResult where
  name : String
  description : Option String
  id : ElementId
  score : ℚ
  deriving DecidableEq

def SimilarNodeResult.ofRow (row : SimilarRow) : SimilarNodeResult where
  name := row.name.getD ""
  description := row.description
  id := row.id.getD ""
  score := row.score.getD 0

variable {Event Prompt : Type}

def executeSimilarityQuery (label : Option String) (limit : Int) (key : SearchKey) :
    Service Event Prompt String (List SimilarNodeResult) := do
  let rows ← Proc.ofExcept (← queryNodes label limit key)
  return rows.map SimilarNodeResult.ofRow

/-- The node id has priority over the embedding and the embedding over the text. -/
def findSimilarNodes (request : FindSimilarNodesRequest) :
    Service Event Prompt String (List SimilarNodeResult) :=
  let limit := request.limit.getD 5
  match request.nodeId, request.embedding, request.text with
  | some id, _, _ => executeSimilarityQuery request.label limit (.nodeId id)
  | none, some vector, _ => executeSimilarityQuery request.label limit (.embedding vector)
  | none, none, some text => do
      let vector ← Proc.ofExcept (← generateEmbedding text)
      executeSimilarityQuery request.label limit (.embedding vector)
  | none, none, none => .fail "Either node_id, embedding, or text must be provided"

/-- A vector index: the nodes it covers with the vectors they have, the score a
node has for a vector, and a procedure that finds the best-scoring nodes. -/
structure VectorIndex where
  vector : Node → Option Embedding
  score : Embedding → Node → ℚ
  queryNodes : List Node → Nat → Embedding → List Node
  isTop : ∀ nodes k v, IsTop (score v) k nodes (queryNodes nodes k v)
  missingVector : String

namespace VectorIndex

variable (index : VectorIndex)

def exact (vector : Node → Option Embedding) (product : Embedding → Embedding → ℚ) :
    VectorIndex where
  vector := vector
  score v n := ((vector n).map (product v)).getD 0
  queryNodes nodes k v := (nodes.insertionSort (fun a b =>
    ((vector b).map (product v)).getD 0 ≤ ((vector a).map (product v)).getD 0)).take k
  isTop nodes k _ := .take_insertionSort _ k nodes
  missingVector := "Index query vector must not be null."

def nodes (g : Graph) : List Node := g.nodes.filter (fun n => (index.vector n).isSome)

theorem nodes_nodup (g : Graph) : (index.nodes g).Nodup :=
  (List.Nodup.of_map _ g.nodeIds_nodup).filter _

/-- `CALL db.index.vector.queryNodes('nodeEmbeddings', $limit, v)`. -/
def best (g : Graph) (limit : Int) (v : Embedding) : List Node :=
  index.queryNodes (index.nodes g) limit.toNat v

theorem isTop_best (g : Graph) (limit : Int) (v : Embedding) :
    IsTop (index.score v) limit.toNat (index.nodes g) (index.best g limit v) :=
  index.isTop _ _ _

def labelFilter (label : Option String) (n : Node) : Bool := label.all (fun l => n.hasLabel l)

/-- `RETURN node.name as name, node.description as description, elementId(node) as id, score`. -/
def row (v : Embedding) (n : Node) : SimilarRow where
  name := (n.props "name").bind Value.asStr
  description := (n.props "description").bind Value.asStr
  id := some n.id
  score := some (index.score v n)

/-- `YIELD node, score WHERE ... RETURN ... ORDER BY score DESC`. -/
def rows (g : Graph) (limit : Int) (v : Embedding) (keep : Node → Bool) : List SimilarRow :=
  (((index.best g limit v).filter keep).insertionSort
    (fun a b => index.score v b ≤ index.score v a)).map (index.row v)

def buildEmbeddingQuery (label : Option String) (limit : Int) (v : Embedding) (g : Graph) :
    Except String (List SimilarRow) :=
  .ok (index.rows g limit v (labelFilter label))

/-- `MATCH (n) WHERE elementId(n) = $nodeId CALL db.index.vector.queryNodes(..., n.embedding)
YIELD node, score WHERE elementId(node) <> $nodeId ...`. -/
def buildNodeIdQuery (label : Option String) (limit : Int) (nodeId : ElementId) (g : Graph) :
    Except String (List SimilarRow) :=
  match g.nodes.find? (fun n => n.id = nodeId) with
  | none => .ok []
  | some n =>
      match index.vector n with
      | none => .error index.missingVector
      | some v => .ok (index.rows g limit v (fun node => node.id ≠ nodeId && labelFilter label node))

def answer (g : Graph) (label : Option String) (limit : Int) :
    SearchKey → Except String (List SimilarRow)
  | .nodeId id => index.buildNodeIdQuery label limit id g
  | .embedding v => index.buildEmbeddingQuery label limit v g

def searchVector (g : Graph) : SearchKey → Option Embedding
  | .nodeId id => (g.nodes.find? (fun n => n.id = id)).bind index.vector
  | .embedding v => some v

def wanted (label : Option String) (key : SearchKey) (n : Node) : Bool :=
  match key with
  | .nodeId id => n.id ≠ id && labelFilter label n
  | .embedding _ => labelFilter label n

theorem answer_eq {g : Graph} {key : SearchKey} {v : Embedding}
    (hv : index.searchVector g key = some v) (label : Option String) (limit : Int) :
    index.answer g label limit key = .ok (index.rows g limit v (wanted label key)) := by
  cases key with
  | embedding u =>
      obtain rfl : u = v := Option.some.inj hv
      rfl
  | nodeId id =>
      obtain ⟨n, hn, hvec⟩ := Option.bind_eq_some_iff.1 hv
      simp only [answer, buildNodeIdQuery, hn, hvec]
      rfl

theorem rows_eq (g : Graph) (limit : Int) (v : Embedding) (keep : Node → Bool) :
    index.rows g limit v keep = ((index.best g limit v).filter keep).map (index.row v) := by
  rw [rows, List.Pairwise.insertionSort_eq]
  exact (index.isTop_best g limit v).sorted.filter keep

def result (v : Embedding) (n : Node) : SimilarNodeResult := .ofRow (index.row v n)

/-- The results are the `k` best-scoring of the wanted nodes, or all of them if
there are fewer, best first. -/
def Complete (g : Graph) (label : Option String) (limit : Int) (key : SearchKey) (v : Embedding)
    (results : List SimilarNodeResult) : Prop :=
  ∃ top, IsTop (index.score v) limit.toNat ((index.nodes g).filter (wanted label key)) top ∧
    results = top.map (index.result v)

/-- The index is asked for no more than is wanted, or for enough to see all of it. -/
def Reaches (g : Graph) (label : Option String) (limit : Int) (key : SearchKey) (v : Embedding) :
    Prop :=
  (∀ n ∈ index.best g limit v, wanted label key n = true) ∨
    ∀ n ∈ index.nodes g, wanted label key n = true → n ∈ index.best g limit v

theorem complete_iff (g : Graph) (label : Option String) (limit : Int) (key : SearchKey)
    (v : Embedding) :
    index.Complete g label limit key v
        ((index.rows g limit v (wanted label key)).map SimilarNodeResult.ofRow) ↔
      index.Reaches g label limit key v := by
  have htop := index.isTop_best g limit v
  have hrows : (index.rows g limit v (wanted label key)).map SimilarNodeResult.ofRow =
      ((index.best g limit v).filter (wanted label key)).map (index.result v) := by
    rw [rows_eq, List.map_map]
    rfl
  rw [hrows]
  constructor
  · rintro ⟨top, hwanted, heq⟩
    have hlength := congrArg List.length heq
    rw [List.length_map, List.length_map, hwanted.length] at hlength
    exact (htop.filter_iff (index.nodes_nodup g)).1 (htop.filter_of_length hlength)
  · intro hreach
    exact ⟨_, (htop.filter_iff (index.nodes_nodup g)).2 hreach, rfl⟩

end VectorIndex

end AtlasOfUs.Similarity
