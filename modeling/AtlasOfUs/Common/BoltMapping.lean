import AtlasOfUs.Database

namespace AtlasOfUs.BoltMapping

abbrev Fields := List (String × Json)

def asObject : Json → Option Fields
  | .object fields => some fields
  | _ => none

def strField (fields : Fields) (key : String) : String :=
  ((fields.lookup key).bind Json.asStr).getD ""

def intField (fields : Fields) (key : String) : Int :=
  ((fields.lookup key).bind Json.asI64).getD 0

def without (keys : List String) (fields : Fields) : Fields :=
  fields.filter (fun field => !keys.contains field.1)

def nodeProps (fields : Fields) : Json :=
  match fields.lookup "props" with
  | some (.object props) => .object (without ["embedding"] props)
  | some props => props
  | none =>
      .object (without ["id", "elementId", "labels", "generalizesToElementId", "embedding"] fields)

def mapBolt4ToBolt5Node (nodeData : Json) : Json :=
  match asObject nodeData with
  | some obj =>
      .object ([("Id", .int (intField obj "id")),
        ("ElementId", .str (strField obj "elementId")),
        ("Labels", .array (((obj.lookup "labels").bind Json.asArray).getD [])),
        ("Props", nodeProps obj)] ++
        (match obj.lookup "generalizesToElementId" with
        | some genId => [("GeneralizesToElementId", genId)]
        | none => []))
  | none => nodeData

def relationshipProps (fields : Fields) : Json :=
  match fields.lookup "props" with
  | some props => props
  | none =>
      .object (without ["id", "elementId", "startId", "startElementId", "endId", "endElementId",
        "type"] fields)

def mapBolt4ToBolt5Relationship (relData : Json) : Json :=
  match asObject relData with
  | some obj =>
      .object [("Id", .int (intField obj "id")),
        ("ElementId", .str (strField obj "elementId")),
        ("StartId", .int (intField obj "startId")),
        ("StartElementId", .str (strField obj "startElementId")),
        ("EndId", .int (intField obj "endId")),
        ("EndElementId", .str (strField obj "endElementId")),
        ("Type", .str (strField obj "type")),
        ("Props", relationshipProps obj)]
  | none => relData

def containsKey (fields : Fields) (key : String) : Bool := (fields.lookup key).isSome

def mapItems (f : Json → Json) (column : Option Json) : List Json :=
  match column with
  | some items => [.array (((items.asArray).getD []).map f)]
  | none => []

def mapResult (obj : Fields) : Json :=
  .object [("Values", .array (((obj.lookup "node").map mapBolt4ToBolt5Node).toList ++
      (mapItems mapBolt4ToBolt5Relationship (obj.lookup "relationships") ++
        mapItems mapBolt4ToBolt5Node (obj.lookup "affiliatedNodes")))),
    ("Keys", .array [.str "node", .str "relationships", .str "affiliatedNodes"])]

def isComplex (obj : Fields) : Bool :=
  containsKey obj "node" || containsKey obj "relationships" || containsKey obj "affiliatedNodes"

def isRelationship (obj : Fields) : Bool :=
  containsKey obj "startId" || containsKey obj "type" || containsKey obj "Type"

/-- The first item decides how all of them are mapped. -/
def mapBolt4ToBolt5 (data : List Json) : Json :=
  match data with
  | [] => .array []
  | first :: _ =>
      match asObject first with
      | some obj =>
          if isComplex obj then .array ((data.filterMap asObject).map mapResult)
          else if isRelationship obj then .array (data.map mapBolt4ToBolt5Relationship)
          else .array (data.map mapBolt4ToBolt5Node)
      | none => .array data

/-- A node as the query hands it over: its properties are nested, and there is
no generalization. -/
theorem mapBolt4ToBolt5Node_nested (id : Json) (elementId : String) (labels : List Json)
    (props : Fields) :
    mapBolt4ToBolt5Node (.object [("id", id), ("elementId", .str elementId),
        ("labels", .array labels), ("props", .object props)]) =
      .object [("Id", .int (id.asI64.getD 0)), ("ElementId", .str elementId),
        ("Labels", .array labels), ("Props", .object (without ["embedding"] props))] := rfl

theorem mapResult_columns (node : Json) (relationships affiliatedNodes : List Json) :
    mapResult [("node", node), ("relationships", .array relationships),
        ("affiliatedNodes", .array affiliatedNodes)] =
      .object [("Values", .array [mapBolt4ToBolt5Node node,
          .array (relationships.map mapBolt4ToBolt5Relationship),
          .array (affiliatedNodes.map mapBolt4ToBolt5Node)]),
        ("Keys", .array [.str "node", .str "relationships", .str "affiliatedNodes"])] := rfl

theorem mapBolt4ToBolt5_rows {α : Type} {fields : α → Fields}
    (h : ∀ x, containsKey (fields x) "node" = true) (xs : List α) :
    mapBolt4ToBolt5 (xs.map (fun x => .object (fields x))) =
      .array (xs.map (fun x => mapResult (fields x))) := by
  cases xs with
  | nil => rfl
  | cons x xs =>
      have hcomplex : isComplex (fields x) = true := by
        rw [isComplex, h x]
        rfl
      have hobjects : ∀ ys : List α,
          (ys.map (fun y => Json.object (fields y))).filterMap asObject = ys.map fields := by
        intro ys
        rw [List.filterMap_map]
        exact List.filterMap_eq_map ▸ rfl
      rw [List.map_cons, mapBolt4ToBolt5]
      change (if isComplex (fields x) = true then _ else _) = _
      rw [if_pos hcomplex, ← List.map_cons (f := fun y => Json.object (fields y)), hobjects,
        List.map_map]
      rfl

end AtlasOfUs.BoltMapping
