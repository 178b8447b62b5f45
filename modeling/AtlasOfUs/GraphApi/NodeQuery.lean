import AtlasOfUs.GraphApi.Handlers
import AtlasOfUs.GraphApi.SpliceNames
import AtlasOfUs.Common.BoltMapping

namespace AtlasOfUs.GraphApi

open Library Library.Cypher Text

instance (α : Alphabet) (s : List Char) : Decidable (Identifier α s) :=
  @instDecidableAnd _ _ _ (List.decidableBAll _ _)

instance (s : List Char) : Decidable (Unescaped s) := inferInstanceAs (Decidable (_ ∧ _))

instance (α : Alphabet) (labels : Option (List String)) (properties : PropertyMap) :
    Decidable (QueryText.GetNodesLegal α labels properties) :=
  inferInstanceAs (Decidable (_ ∧ _))

structure Search where
  labels : Option (List String)
  properties : PropertyMap
  depth : Int

namespace Search

def text (search : Search) : String :=
  QueryText.getNodesWithRelationships search.labels search.properties search.depth

/-- Searches whose labels, keys and values stay in their places, with no escape
and no empty label, and whose range of lengths is one. -/
def Intended (α : Alphabet) (search : Search) : Prop :=
  QueryText.GetNodesLegal α search.labels search.properties ∧ search.labels ≠ some [] ∧
    (∀ label ∈ search.labels.getD [], label ≠ "" ∧ '\\' ∉ label.toList) ∧ 0 ≤ search.depth

instance (α : Alphabet) (search : Search) : Decidable (search.Intended α) :=
  inferInstanceAs (Decidable (_ ∧ _))

/-- `node.key = 'value'`, where the element id has its own function. -/
def holds (n : Node) (condition : String × String) : Bool :=
  if condition.1 = "elementId" then n.id = condition.2
  else n.props condition.1 = some (.str condition.2)

def isRoot (search : Search) (n : Node) : Bool :=
  (search.labels.getD []).all (fun label => n.hasLabel label) &&
    (QueryText.searched search.properties).all (holds n)

end Search

/-- The trails of one to `depth` edges from a node that use no edge of `used`. -/
def trails (edges : List Edge) : Nat → List ElementId → ElementId → List (List Edge)
  | 0, _, _ => []
  | depth + 1, used, i =>
      (edges.filter (fun e => e.source = i && !used.contains e.id)).flatMap (fun e =>
        [e] :: (trails edges depth (e.id :: used) e.target).map (e :: ·))

def onTrails (edges : List Edge) (depth : Nat) (i : ElementId) : List Edge :=
  edges.filter (fun e => ((trails edges depth [] i).flatMap (·.map Edge.id)).contains e.id)

def reached (edges : List Edge) (depth : Nat) (i : ElementId) : List ElementId :=
  ((trails edges depth [] i).filterMap List.getLast?).map Edge.target

def affiliates (g : Graph) (depth : Nat) (i : ElementId) : List Node :=
  g.nodes.filter (fun m => (reached g.edges depth i).contains m.id)

/-- The database: the characters of its names, its numbers for nodes and edges,
its catalogue of property keys, and what it makes of any text that is no search. -/
structure Server where
  alphabet : Alphabet
  number : ElementId → Int
  propertyKeys : List String
  other : String → Statement

namespace Server

variable (server : Server)

def properties (props : Props) : BoltMapping.Fields :=
  server.propertyKeys.filterMap (fun key => (props key).map (fun v => (key, v.toJson)))

def nodeWithMeta (n : Node) : Json :=
  .object [("id", .int (server.number n.id)), ("elementId", .str n.id),
    ("labels", .array (n.labels.map .str)), ("props", .object (server.properties n.props))]

def relationshipWithMeta (e : Edge) : Json :=
  .object [("id", .int (server.number e.id)), ("elementId", .str e.id),
    ("startId", .int (server.number e.source)), ("startElementId", .str e.source),
    ("endId", .int (server.number e.target)), ("endElementId", .str e.target),
    ("type", .str e.type), ("props", .object (server.properties e.props))]

def searchRow (g : Graph) (depth : Nat) (n : Node) : Row :=
  [("node", server.nodeWithMeta n),
    ("relationships", .array ((onTrails g.edges depth n.id).map server.relationshipWithMeta)),
    ("affiliatedNodes", .array ((affiliates g depth n.id).map server.nodeWithMeta))]

/-- What the text of a search does. A text in which something leaves its place
is another statement. -/
def read (search : Search) : Statement :=
  if search.Intended server.alphabet then
    fun g => ((g.nodes.filter search.isRoot).map (server.searchRow g search.depth.toNat), g)
  else server.other search.text

end Server

def nodeData (row : Row) : Json :=
  .object [("node", (row.get "node").getD (.object [])),
    ("relationships", (row.get "relationships").getD (.array [])),
    ("affiliatedNodes", (row.get "affiliatedNodes").getD (.array []))]

/-- Get nodes with optional filters and related nodes up to depth. A stream that
breaks ends the list. -/
def getNodesWithRelationships (server : Server) (labels : Option (List String))
    (properties : Option PropertyMap) (depth : Int) : Api Json := do
  match ← execute (server.read ⟨labels, properties.getD .empty, depth⟩) with
  | .ok result => return BoltMapping.mapBolt4ToBolt5 (result.rows.map nodeData)
  | .error e => .fail (.databaseError ("Database error: " ++ e))

structure NodeQueryParams where
  labels : Option String
  properties : Option String
  depth : Option Int

namespace NodeQueryParams

def splitLabels (labels : String) : List String :=
  (labels.toList.splitOn ',').map (fun label => trim (String.ofList label))

/-- The search that the parameters ask for, unless their properties are no map. -/
def search (fromStr : String → Option PropertyMap) (params : NodeQueryParams) : Option Search :=
  match params.properties with
  | some text =>
      (fromStr text).map (fun ps => ⟨params.labels.map splitLabels, ps, params.depth.getD 1⟩)
  | none => some ⟨params.labels.map splitLabels, .empty, params.depth.getD 1⟩

end NodeQueryParams

namespace Handlers

def nodesResponse : Except ServiceError Json → Except ErrorResponse Json
  | .ok data => .ok data
  | .error _ => .error ⟨500, .null⟩

def getNodes (server : Server) (fromStr : String → Option PropertyMap)
    (params : NodeQueryParams) : Api (Except ErrorResponse Json) := do
  let depth := params.depth.getD 1
  let labels := params.labels.map NodeQueryParams.splitLabels
  match params.properties.map fromStr with
  | some none => return .error ⟨400, .null⟩
  | parsed =>
      let result ← (getNodesWithRelationships server labels (parsed.bind id) depth).attempt
      return nodesResponse result

end Handlers

end AtlasOfUs.GraphApi
