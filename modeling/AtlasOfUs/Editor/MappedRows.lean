import AtlasOfUs.Common.BoltMapping
import AtlasOfUs.Editor.NodeFetch

namespace AtlasOfUs.BoltMapping

open Library Editor

abbrev InternalId := {i : Int // -2 ^ 63 ≤ i ∧ i < 2 ^ 63}

structure NodeMeta where
  id : InternalId
  elementId : ElementId
  labels : List String
  props : Fields

structure RelationshipMeta where
  id : InternalId
  elementId : ElementId
  startId : InternalId
  startElementId : ElementId
  endId : InternalId
  endElementId : ElementId
  type : String
  props : Fields

structure NodeRow where
  node : NodeMeta
  relationships : List RelationshipMeta
  affiliatedNodes : List NodeMeta

def NodeMeta.toJson (n : NodeMeta) : Json :=
  .object [("id", .int n.id), ("elementId", .str n.elementId),
    ("labels", .array (n.labels.map Json.str)), ("props", .object n.props)]

def RelationshipMeta.toJson (r : RelationshipMeta) : Json :=
  .object [("id", .int r.id), ("elementId", .str r.elementId), ("startId", .int r.startId),
    ("startElementId", .str r.startElementId), ("endId", .int r.endId),
    ("endElementId", .str r.endElementId), ("type", .str r.type), ("props", .object r.props)]

def NodeRow.fields (row : NodeRow) : Fields :=
  [("node", row.node.toJson), ("relationships", .array (row.relationships.map RelationshipMeta.toJson)),
    ("affiliatedNodes", .array (row.affiliatedNodes.map NodeMeta.toJson))]

def NodeRow.toJson (row : NodeRow) : Json := .object row.fields

structure MappedNode (n : NodeMeta) (j : Json) : Prop where
  id : j.get "Id" = some (.int n.id)
  elementId : j.get "ElementId" = some (.str n.elementId)
  labels : j.get "Labels" = some (.array (n.labels.map Json.str))
  props : ∃ props, j.get "Props" = some (.object props) ∧ props.lookup "embedding" = none ∧
    ∀ key, key ≠ "embedding" → props.lookup key = n.props.lookup key

structure MappedRelationship (r : RelationshipMeta) (j : Json) : Prop where
  id : j.get "Id" = some (.int r.id)
  elementId : j.get "ElementId" = some (.str r.elementId)
  startId : j.get "StartId" = some (.int r.startId)
  startElementId : j.get "StartElementId" = some (.str r.startElementId)
  endId : j.get "EndId" = some (.int r.endId)
  endElementId : j.get "EndElementId" = some (.str r.endElementId)
  type : j.get "Type" = some (.str r.type)
  props : j.get "Props" = some (.object r.props)

structure MappedRow (row : NodeRow) (node : Json) (relationships affiliates : List Json) :
    Prop where
  node : MappedNode row.node node
  relationships : List.Forall₂ MappedRelationship row.relationships relationships
  affiliates : List.Forall₂ MappedNode row.affiliatedNodes affiliates

theorem asI64_internalId (i : InternalId) : (Json.int i).asI64 = some i.1 := by
  rw [Json.asI64, if_pos i.2]

theorem lookup_without_self {key : String} {keys : List String} (h : key ∈ keys) (fields : Fields) :
    (without keys fields).lookup key = none := by
  rw [List.lookup_eq_none_iff]
  intro field hmem
  have hkept := (List.mem_filter.1 hmem).2
  rw [bne_iff_ne]
  rintro rfl
  simp [h] at hkept

theorem lookup_without_of_notMem {key : String} {keys : List String} (h : key ∉ keys)
    (fields : Fields) : (without keys fields).lookup key = fields.lookup key := by
  induction fields with
  | nil => rfl
  | cons field rest ih =>
      obtain ⟨k, v⟩ := field
      rw [without] at ih ⊢
      by_cases hkey : key = k
      · subst hkey
        rw [List.filter_cons_of_pos (by simpa using h), List.lookup_cons_self, List.lookup_cons_self]
      · have hne : (key == k) = false := beq_eq_false_iff_ne.2 hkey
        rw [List.lookup_cons, hne, List.filter_cons]
        split
        · rw [List.lookup_cons, hne]
          exact ih
        · exact ih

theorem mappedNode (n : NodeMeta) : MappedNode n (mapBolt4ToBolt5Node n.toJson) := by
  rw [NodeMeta.toJson, mapBolt4ToBolt5Node_nested, asI64_internalId, Option.getD_some]
  refine ⟨rfl, rfl, rfl, _, rfl, lookup_without_self (by simp) _, fun key hkey => ?_⟩
  exact lookup_without_of_notMem (by simpa using hkey) _

theorem mappedRelationship (r : RelationshipMeta) :
    MappedRelationship r (mapBolt4ToBolt5Relationship r.toJson) := by
  have hmap : mapBolt4ToBolt5Relationship r.toJson =
      .object [("Id", .int ((Json.int r.id).asI64.getD 0)), ("ElementId", .str r.elementId),
        ("StartId", .int ((Json.int r.startId).asI64.getD 0)),
        ("StartElementId", .str r.startElementId),
        ("EndId", .int ((Json.int r.endId).asI64.getD 0)),
        ("EndElementId", .str r.endElementId), ("Type", .str r.type),
        ("Props", .object r.props)] := rfl
  rw [hmap, asI64_internalId, asI64_internalId, asI64_internalId]
  exact ⟨rfl, rfl, rfl, rfl, rfl, rfl, rfl, rfl⟩

theorem mappedRow (row : NodeRow) :
    ∃ node relationships affiliates, MappedRow row node relationships affiliates ∧
      mapResult row.fields = .object [("Values", .array [node, .array relationships,
        .array affiliates]), ("Keys", .array [.str "node", .str "relationships",
          .str "affiliatedNodes"])] := by
  refine ⟨_, _, _, ⟨mappedNode row.node, ?_, ?_⟩, mapResult_columns _ _ _⟩
  · rw [List.map_map, List.forall₂_map_right_iff]
    exact List.forall₂_same.2 fun r _ => mappedRelationship r
  · rw [List.map_map, List.forall₂_map_right_iff]
    exact List.forall₂_same.2 fun n _ => mappedNode n

/-- The rows come back one for one, and the client gets the first of them. -/
theorem mapBolt4ToBolt5_keeps (first : NodeRow) (rest : List NodeRow) :
    ∃ entries, mapBolt4ToBolt5 ((first :: rest).map NodeRow.toJson) = .array entries ∧
      List.Forall₂ (fun row entry => ∃ node relationships affiliates,
        MappedRow row node relationships affiliates ∧
          entry.get "Values" = some (.array [node, .array relationships, .array affiliates]))
        (first :: rest) entries ∧
      ∃ node relationships affiliates, MappedRow first node relationships affiliates ∧
        ∀ (env : Env) (w : World), (env.exec (HttpService.fetchNodes
          (pure (.ok (mapBolt4ToBolt5 ((first :: rest).map NodeRow.toJson))))) w).exit =
            .ok ⟨some node, some (.array relationships), some (.array affiliates)⟩ := by
  have hrows : mapBolt4ToBolt5 ((first :: rest).map NodeRow.toJson) =
      .array ((first :: rest).map fun row => mapResult row.fields) :=
    mapBolt4ToBolt5_rows (fun _ => rfl) _
  refine ⟨_, hrows, ?_, ?_⟩
  · rw [List.forall₂_map_right_iff, List.forall₂_same]
    intro row _
    obtain ⟨node, relationships, affiliates, hmapped, hresult⟩ := mappedRow row
    refine ⟨node, relationships, affiliates, hmapped, ?_⟩
    rw [hresult]
    rfl
  · obtain ⟨node, relationships, affiliates, hmapped, hresult⟩ := mappedRow first
    refine ⟨node, relationships, affiliates, hmapped, fun env w => ?_⟩
    rw [hrows, HttpService.exit_fetchNodes rfl, List.map_cons, hresult]
    rfl

end AtlasOfUs.BoltMapping
