import AtlasOfUs.Common.Similarity
import AtlasOfUs.GraphApi.NodeQuery

namespace AtlasOfUs.GraphApi

open Library Similarity BoltMapping

structure GetNodeWithRelationshipsBySearchTermParams where
  searchTerm : String
  depth : Option Int

structure NodeWithRelationships where
  node : Json
  relationships : Json
  affiliatedNodes : Json

def QueryText.getNodesBySearchTerm (depth : Int) : String :=
  "\n        CALL db.index.vector.queryNodes('nodeEmbeddings', 1, $embedding)" ++
    "\n        YIELD node, score\n        " ++ nodeWithRelationshipsQueryFragment depth ++
    "\n        "

/-- The best-scoring node with what it reaches. A negative length is no pattern. -/
def Server.readNearest (server : Server) (index : VectorIndex) (v : Embedding) (depth : Int) :
    Statement :=
  if 0 ≤ depth then
    fun g => ((index.best g 1 v).map (server.searchRow g depth.toNat), g)
  else server.other (QueryText.getNodesBySearchTerm depth)

/-- The keys are those of the rows before `map_bolt4_to_bolt5`. -/
def NodeWithRelationships.ofValue (v : Json) : NodeWithRelationships where
  node := (v.get "node").getD (.object [])
  relationships := (v.get "relationships").getD (.array [])
  affiliatedNodes := (v.get "affiliatedNodes").getD (.array [])

def getNodesBySearchTerm (server : Server) (index : VectorIndex) (searchTerm : String)
    (depth : Int) : Api (List NodeWithRelationships) := do
  match ← generateEmbedding searchTerm with
  | .error e => .fail (.embeddingFailed e)
  | .ok embedding =>
      match ← execute (server.readNearest index embedding depth) with
      | .error e => .fail (.databaseError ("Database error: " ++ e))
      | .ok result =>
          match mapBolt4ToBolt5 (result.rows.map nodeData) with
          | .array arr => return arr.map .ofValue
          | _ => return []

namespace Handlers

def nodeWithRelationshipsJson (n : NodeWithRelationships) : Json :=
  .object [("node", n.node), ("relationships", n.relationships),
    ("affiliatedNodes", n.affiliatedNodes)]

def getNodeWithRelationshipsBySearchTerm (server : Server) (index : VectorIndex)
    (params : GetNodeWithRelationshipsBySearchTermParams) : Api (Except ErrorResponse Json) := do
  let depth := params.depth.getD 1
  match ← (getNodesBySearchTerm server index params.searchTerm depth).attempt with
  | .ok nodes => return .ok (.array (nodes.map nodeWithRelationshipsJson))
  | .error _ => return .error ⟨500, .null⟩

end Handlers

theorem mapBolt4ToBolt5_nodeData (rows : List Row) :
    mapBolt4ToBolt5 (rows.map nodeData) = .array (rows.map (fun row =>
      mapResult [("node", (row.get "node").getD (.object [])),
        ("relationships", (row.get "relationships").getD (.array [])),
        ("affiliatedNodes", (row.get "affiliatedNodes").getD (.array []))])) :=
  mapBolt4ToBolt5_rows (fun _ => rfl) rows

theorem ofValue_mapResult (obj : Fields) :
    NodeWithRelationships.ofValue (mapResult obj) = ⟨.object [], .array [], .array []⟩ := rfl

theorem exit_getNodesBySearchTerm {server : Server} {index : VectorIndex} {searchTerm : String}
    {depth : Int} {env : Env} {w : World} {v : Embedding} {rs : RowStream}
    (hv : env.embedding w.clock = .ok v)
    (hrows : (env.outcome (w.clock + 1)).reply (server.readNearest index v depth w.graph).1 = .ok rs) :
    (env.exec (getNodesBySearchTerm server index searchTerm depth) w).exit =
      .ok (List.replicate rs.rows.length ⟨.object [], .array [], .array []⟩) := by
  rw [getNodesBySearchTerm, exec_bind, exec_generateEmbedding, Execution.andThen_ok, hv]
  change (env.exec (execute (server.readNearest index v depth) >>= _) w.tick).exit = _
  rw [exec_bind, exec_execute, Execution.andThen_ok, World.tick_clock, World.tick_graph, hrows]
  simp only [mapBolt4ToBolt5_nodeData]
  apply congrArg Exit.ok
  rw [List.map_map, ← List.map_const']
  exact List.map_congr_left fun row _ => ofValue_mapResult _

end AtlasOfUs.GraphApi
