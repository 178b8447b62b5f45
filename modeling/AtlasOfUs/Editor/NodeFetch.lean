import AtlasOfUs.Editor.HttpService
import AtlasOfUs.GraphApi.PublicSearch
import AtlasOfUs.GraphApi.SearchTerm

namespace AtlasOfUs.Editor

open Library Similarity BoltMapping GraphApi

structure Neo4jApiResponse where
  nodeRoot : Option Json
  relationships : Option Json
  affiliates : Option Json

namespace HttpService

def element (values : Option Json) (i : Nat) : Option (Option Json) :=
  match values with
  | none | some .null => none
  | some (.array vs) => some vs[i]?
  | some (.object fields) => some (fields.lookup (toString i))
  | some (.str s) => some (s.toList[i]?.map (fun c => .str (String.singleton c)))
  | some _ => some none

/-- `const [body] = data` and the three reads of `body.Values`. -/
def readNodes (data : Json) : Option Neo4jApiResponse := do
  let body ← data.asArray.bind List.head?
  let values := body.get "Values"
  return ⟨← element values 0, ← element values 1, ← element values 2⟩

def noNodes : Neo4jApiResponse := ⟨some (.object []), some (.array []), some (.array [])⟩

def fetchNodes (request : Api (Except GraphApi.Handlers.ErrorResponse Json)) :
    Api Neo4jApiResponse := do
  match ← request with
  | .error _ => return noNodes
  | .ok data => return (readNodes data).getD noNodes

theorem exit_fetchNodes {request : Api (Except GraphApi.Handlers.ErrorResponse Json)} {env : Env}
    {w : World} {data : Json} (h : (env.exec request w).exit = .ok (.ok data)) :
    (env.exec (fetchNodes request) w).exit = .ok ((readNodes data).getD noNodes) := by
  rw [fetchNodes, exec_bind, Execution.exit_andThen h]
  rfl

end HttpService

section Paths

variable (server : Server) (index : VectorIndex) (fromStr : String → Option PropertyMap)

/-- The search-term endpoint's statement hands over the row of the node. -/
def SearchTermReaches (depth : Option Int) (env : Env) (w : World) (n : Node) : Prop :=
  n ∈ w.graph.nodes ∧ ∃ v rs, env.embedding w.clock = .ok v ∧
    (env.outcome (w.clock + 1)).reply
      (server.readNearest index v (depth.getD 1) w.graph).1 = .ok rs ∧
    server.searchRow w.graph (depth.getD 1).toNat n ∈ rs.rows

def PropertiesReach (params : NodeQueryParams) (env : Env) (w : World) (n : Node) : Prop :=
  n ∈ w.graph.nodes ∧ ∃ search rs, params.search fromStr = some search ∧
    (env.outcome w.clock).reply (server.read search w.graph).1 = .ok rs ∧
    server.searchRow w.graph (params.depth.getD 1).toNat n ∈ rs.rows

/-- The client's `fetchNodes` on the search-term endpoint. -/
def fetchBySearchTerm (searchTerm : String) (depth : Option Int) : Api Neo4jApiResponse :=
  HttpService.fetchNodes
    (GraphApi.Handlers.getNodeWithRelationshipsBySearchTerm server index ⟨searchTerm, depth⟩)

/-- The client's `fetchNodes` on the property endpoint. -/
def fetchByProperties (params : NodeQueryParams) : Api Neo4jApiResponse :=
  HttpService.fetchNodes (GraphApi.Handlers.getNodes server fromStr params)

variable {server index fromStr}

/-- The endpoint answers with objects that have no `Values`, which is an error to the client. -/
theorem fetchBySearchTerm_noNodes {searchTerm : String} {depth : Option Int} {env : Env} {w : World}
    {n : Node} (h : SearchTermReaches server index depth env w n) :
    (env.exec (fetchBySearchTerm server index searchTerm depth) w).exit =
      .ok HttpService.noNodes := by
  obtain ⟨-, v, rs, hv, hrows, hmem⟩ := h
  have hservice : (env.exec (GraphApi.Handlers.getNodeWithRelationshipsBySearchTerm server index
      ⟨searchTerm, depth⟩) w).exit = .ok (.ok (.array (List.replicate rs.rows.length
        (GraphApi.Handlers.nodeWithRelationshipsJson ⟨.object [], .array [], .array []⟩)))) := by
    have hnodes : (env.exec ((getNodesBySearchTerm server index searchTerm
        (depth.getD 1)).attempt : Api _) w).exit = .ok (.ok (List.replicate rs.rows.length
          ⟨.object [], .array [], .array []⟩)) := by
      rw [exec_attempt, exit_getNodesBySearchTerm hv hrows]
      rfl
    rw [GraphApi.Handlers.getNodeWithRelationshipsBySearchTerm, exec_bind,
      Execution.exit_andThen hnodes,
      ← List.map_replicate (f := GraphApi.Handlers.nodeWithRelationshipsJson)]
    rfl
  rw [fetchBySearchTerm, HttpService.exit_fetchNodes hservice]
  cases hlist : rs.rows with
  | nil =>
      rw [hlist] at hmem
      exact absurd hmem List.not_mem_nil
  | cons row rows => rfl

theorem fetchByProperties_first {params : NodeQueryParams} {env : Env} {w : World} {n : Node}
    (h : PropertiesReach server fromStr params env w n) : ∃ row relationships affiliates,
    (env.exec (fetchByProperties server fromStr params) w).exit =
      .ok ⟨some (mapBolt4ToBolt5Node row), relationships, affiliates⟩ := by
  obtain ⟨-, search, rs, hsearch, hrows, hmem⟩ := h
  have hservice : respond server fromStr params env w.clock w.graph = _ :=
    respond_search hsearch env w.clock w.graph
  rw [hrows] at hservice
  cases hlist : rs.rows with
  | nil =>
      rw [hlist] at hmem
      exact absurd hmem List.not_mem_nil
  | cons row rows =>
      have hdata : GraphApi.fetched (.ok rs) = .ok (.array ((row :: rows).map fun row =>
          mapResult [("node", (row.get "node").getD (.object [])),
            ("relationships", (row.get "relationships").getD (.array [])),
            ("affiliatedNodes", (row.get "affiliatedNodes").getD (.array []))])) := by
        rw [← hlist, ← mapBolt4ToBolt5_nodeData]
        rfl
      rw [hdata] at hservice
      exact ⟨_, _, _, HttpService.exit_fetchNodes hservice⟩

theorem mapBolt4ToBolt5Node_ne_empty (nodeData : Json) :
    mapBolt4ToBolt5Node nodeData ≠ .object [] := by
  intro h
  cases nodeData <;> cases h

theorem fetched_ne {searchTerm : String} {params : NodeQueryParams} {env env' : Env} {w w' : World}
    {n : Node} (hsearch : SearchTermReaches server index params.depth env w n)
    (hproperties : PropertiesReach server fromStr params env' w' n) :
    (env.exec (fetchBySearchTerm server index searchTerm params.depth) w).exit ≠
      (env'.exec (fetchByProperties server fromStr params) w').exit := by
  obtain ⟨row, relationships, affiliates, hfirst⟩ := fetchByProperties_first hproperties
  rw [fetchBySearchTerm_noNodes hsearch, hfirst]
  intro h
  have hroot := congrArg Neo4jApiResponse.nodeRoot (Exit.ok.inj h)
  exact mapBolt4ToBolt5Node_ne_empty row (Option.some.inj hroot).symm

/-- Of one graph, of every node that both endpoints reach, the client is delivered
something else on each path. -/
theorem fetchNodes_paths_differ (server : Server) (index : VectorIndex)
    (fromStr : String → Option PropertyMap) (searchTerm : String) (params : NodeQueryParams)
    (env env' : Env) (clock clock' : Nat) (g : Graph) (n : Node)
    (hsearch : SearchTermReaches server index params.depth env ⟨g, clock⟩ n)
    (hproperties : PropertiesReach server fromStr params env' ⟨g, clock'⟩ n) :
    (env.exec (fetchBySearchTerm server index searchTerm params.depth) ⟨g, clock⟩).exit ≠
      (env'.exec (fetchByProperties server fromStr params) ⟨g, clock'⟩).exit :=
  fetched_ne hsearch hproperties

end Paths

section OneDomain

/-- A graph with the domain Rust alone, and an index that covers it. -/
def oneDomain : Graph := emptyGraph.createNode ["Domain"] (Props.empty.set "name" (.str "Rust"))

def rust : Node := ⟨emptyGraph.freshId, ["Domain"], Props.empty.set "name" (.str "Rust")⟩

def oneIndex : VectorIndex := .exact (fun _ => some []) (fun _ _ => 1)

theorem searchTermReaches_rust :
    SearchTermReaches userServer oneIndex none .calm ⟨oneDomain, 0⟩ rust :=
  ⟨List.mem_singleton.2 rfl, [], _, rfl, rfl, List.mem_singleton.2 rfl⟩

theorem propertiesReach_rust :
    PropertiesReach userServer (fun _ => none) (labelled "Domain") .calm ⟨oneDomain, 0⟩ rust := by
  refine ⟨List.mem_singleton.2 rfl, labelledSearch "Domain", _, rfl, rfl, ?_⟩
  rw [Server.read, if_pos (by decide +kernel)]
  exact List.mem_map_of_mem (List.mem_filter.2 ⟨List.mem_singleton.2 rfl, by decide +kernel⟩)

theorem fetchNodes_rust_differs :
    (Env.calm.exec (fetchBySearchTerm userServer oneIndex "rust" none) ⟨oneDomain, 0⟩).exit ≠
      (Env.calm.exec (fetchByProperties userServer (fun _ => none) (labelled "Domain"))
        ⟨oneDomain, 0⟩).exit :=
  fetchNodes_paths_differ userServer oneIndex (fun _ => none) "rust" (labelled "Domain") .calm .calm
    0 0 oneDomain rust searchTermReaches_rust propertiesReach_rust

theorem searched_rust_not_delivered :
    ¬ ∀ (server : Server) (index : VectorIndex) (fromStr : String → Option PropertyMap)
      (searchTerm : String) (params : NodeQueryParams) (env env' : Env) (clock clock' : Nat)
      (g : Graph) (n : Node), SearchTermReaches server index params.depth env ⟨g, clock⟩ n →
        PropertiesReach server fromStr params env' ⟨g, clock'⟩ n →
        (env.exec (fetchBySearchTerm server index searchTerm params.depth) ⟨g, clock⟩).exit =
          (env'.exec (fetchByProperties server fromStr params) ⟨g, clock'⟩).exit := by
  intro h
  have heq := h userServer oneIndex (fun _ => none) "rust" (labelled "Domain") .calm .calm 0 0
    oneDomain rust searchTermReaches_rust propertiesReach_rust
  exact fetched_ne searchTermReaches_rust propertiesReach_rust heq

end OneDomain

end AtlasOfUs.Editor
