import AtlasOfUs.Common.Similarity
import AtlasOfUs.GraphApi.NodeQuery
import AtlasOfUs.Library.Ranking
import Mathlib.Data.String.Basic

namespace AtlasOfUs.GraphApi

open Library Text Similarity

structure SearchNodesParams where
  query : String
  labels : Option String
  limit : Option Int

def searchedLabels : List String := ["Knowledge", "Skill", "Trait", "Milestone"]

namespace QueryText

def labelFilter (labels : Option (List String)) : String :=
  match labels with
  | some labels => "(" ++ join " OR " (labels.map (fun label => "n:`" ++ label ++ "`")) ++ ")"
  | none => "(n:Knowledge OR n:Skill OR n:Trait OR n:Milestone)"

def searchNodes (labels : Option (List String)) : String :=
  "\n        MATCH (n)\n        WHERE " ++ labelFilter labels ++
    " AND toLower(n.name) CONTAINS toLower($query)" ++
    "\n        RETURN \x7b" ++
    "\n            elementId: elementId(n)," ++
    "\n            labels: labels(n)," ++
    "\n            props: properties(n)" ++
    "\n        \x7d AS node" ++
    "\n        ORDER BY n.name" ++
    "\n        LIMIT $limit\n        "

end QueryText

structure TextSearch where
  labels : Option (List String)
  query : String
  limit : Int

def nameOf (n : Node) : String := ((n.props "name").bind Value.asStr).getD ""

namespace TextSearch

variable (search : TextSearch)

def Intended : Prop :=
  ∀ label ∈ search.labels.getD [], label ≠ "" ∧ '`' ∉ label.toList ∧ '\\' ∉ label.toList

instance : Decidable search.Intended := inferInstanceAs (Decidable (∀ label ∈ _, _ ∧ _ ∧ _))

/-- The node has one of the labels and a name that contains the query, `toLower` applied to both. -/
def finds (lower : String → String) (n : Node) : Bool :=
  (search.labels.getD searchedLabels).any (fun label => n.hasLabel label) &&
    ((n.props "name").bind Value.asStr).any (fun name => isInfix (lower search.query) (lower name))

def listed (lower : String → String) (g : Graph) : List Node :=
  ((g.nodes.filter (search.finds lower)).insertionSort (fun n m => nameOf n ≤ nameOf m)).take
    search.limit.toNat

end TextSearch

namespace Server

variable (server : Server)

def foundNode (n : Node) : Json :=
  .object [("elementId", .str n.id), ("labels", .array (n.labels.map .str)),
    ("props", .object (server.properties n.props))]

def searchByName (lower : String → String) (search : TextSearch) : Statement :=
  if search.Intended then
    fun g => ((search.listed lower g).map (fun n => [("node", server.foundNode n)]), g)
  else server.other (QueryText.searchNodes search.labels)

end Server

/-- Search nodes by text query with optional label filter. A stream that breaks ends the list. -/
def searchNodes (server : Server) (lower : String → String) (query : String)
    (labels : Option (List String)) (limit : Int) : Api (List Json) := do
  match ← execute (server.searchByName lower ⟨labels, query, limit⟩) with
  | .ok result => return result.rows.map (fun row => (row.get "node").getD (.object []))
  | .error e => .fail (.databaseError ("Database error: " ++ e))

def similarNodeJson (result : SimilarNodeResult) : Json :=
  .object [("name", .str result.name), ("description", (result.description.map .str).getD .null),
    ("id", .str result.id), ("score", .float result.score)]

/-- Find similar nodes by nodeId or embedding, exactly one of which is given. -/
def findSimilarNodes (nodeId : Option ElementId) (embedding : Option Embedding)
    (limit : Option Int) : Api Json := do
  let hasEmbedding := (embedding.filter (· ≠ [])).isSome
  if nodeId.isSome = hasEmbedding then
    .fail (.validationError "Exactly one of 'nodeId' or 'embedding' must be provided")
  else
    match ← (Similarity.findSimilarNodes { nodeId, embedding, limit }).attempt with
    | .ok result => return .array (result.map similarNodeJson)
    | .error e => .fail (.databaseError ("Error finding similar nodes: " ++ e))

namespace Handlers

def searchResponse : Except ServiceError (List Json) → Except ErrorResponse Json
  | .ok nodes => .ok (.object [("nodes", .array nodes)])
  | .error _ => .error ⟨500, .null⟩

def searchNodes (server : Server) (lower : String → String) (params : SearchNodesParams) :
    Api (Except ErrorResponse Json) := do
  let limit := params.limit.getD 20
  let labels := params.labels.map NodeQueryParams.splitLabels
  return searchResponse (← (GraphApi.searchNodes server lower params.query labels limit).attempt)

/-- The body of a request that is turned down, with the reason under `details`. -/
def invalidBody (details : String) : ErrorResponse :=
  ⟨400, .object [("error", .str "invalid request body"), ("details", .str details)]⟩

def getSimilarNodes (request : FindSimilarNodesRequest) : Api (Except ErrorResponse Json) := do
  match ← (GraphApi.findSimilarNodes request.nodeId request.embedding request.limit).attempt with
  | .ok result => return .ok result
  | .error (.validationError e) => return .error (invalidBody e)
  | .error _ => return .error ⟨500, errorBody "internal server error"⟩

end Handlers

end AtlasOfUs.GraphApi
