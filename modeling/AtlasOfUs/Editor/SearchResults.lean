import AtlasOfUs.Editor.Known
import AtlasOfUs.Editor.NodeSearchPanel
import AtlasOfUs.GraphApi.PublicSearch
import AtlasOfUs.GraphApi.TextSearch

namespace AtlasOfUs.Editor

open Library GraphApi

namespace HttpService

def searchNodeResult (node : Json) : SearchNodeResult :=
  let props := field node "props"
  { elementId := ((field node "elementId").asStr).getD ""
    labels := ((field node "labels").asArray.getD []).filterMap Json.asStr
    props := {
      name := ((field props "name").asStr).getD ""
      description := (field props "description").asStr
      howToLearn := (field props "how_to_learn").asStr
      howToDevelop := (field props "how_to_develop").asStr
      measurementCriteria := (field props "measurement_criteria").asStr
      howToAchieve := (field props "how_to_achieve").asStr } }

def searchParams (query : String) (labels : List String) (limit : Nat) : SearchNodesParams where
  query := query
  labels := if labels = [] then none else some (Text.join "," labels)
  limit := if limit = 0 then none else some limit

def searchNodes (server : Server) (lower : String → String) (request : SearchNodesRequest) :
    Api (Option (List SearchNodeResult)) := do
  match ← GraphApi.Handlers.searchNodes server lower
      (searchParams request.query request.labels request.limit) with
  | .error _ => return none
  | .ok data => return some (((field data "nodes").asArray.getD []).map searchNodeResult)

end HttpService

section Results

variable (server : Server) (lower : String → String)

/-- The search of the server that a search of the panel leads to. -/
def panelSearch (query : String) (type : NodeType) : TextSearch :=
  ⟨some [NODE_TYPE_LABELS type], query, 20⟩

def shownResult (n : Node) : SearchNodeResult := HttpService.searchNodeResult (server.foundNode n)

theorem panelSearch_intended (query : String) (type : NodeType) :
    (panelSearch query type).Intended := by
  intro label hlabel
  obtain rfl := List.mem_singleton.1 hlabel
  cases type <;> decide

theorem splitLabels_panel (type : NodeType) :
    NodeQueryParams.splitLabels (NODE_TYPE_LABELS type) = [NODE_TYPE_LABELS type] := by
  cases type <;> decide +kernel

theorem handler_searchNodes (query : String) (type : NodeType) :
    GraphApi.Handlers.searchNodes server lower
        (HttpService.searchParams query [NODE_TYPE_LABELS type] 20) = (do
      return GraphApi.Handlers.searchResponse (← (GraphApi.searchNodes server lower query
        (some [NODE_TYPE_LABELS type]) 20).attempt)) := by
  rw [GraphApi.Handlers.searchNodes, HttpService.searchParams, if_neg (List.cons_ne_nil _ _),
    if_neg (by decide), Option.map_some, Text.join, splitLabels_panel]
  rfl

theorem exec_service (query : String) (type : NodeType) (env : Env) (w : World) :
    let execution := env.exec (GraphApi.searchNodes server lower query
      (some [NODE_TYPE_LABELS type]) 20) w
    execution.state = w.tick ∧ execution.exit = match env.outcome w.clock with
      | .failed _ e => .err (.databaseError ("Database error: " ++ e))
      | o => .ok ((o.delivered ((panelSearch query type).listed lower w.graph)).map
          server.foundNode) := by
  have hread : server.searchByName lower ⟨some [NODE_TYPE_LABELS type], query, 20⟩ = fun g =>
      (((panelSearch query type).listed lower g).map fun n => [("node", server.foundNode n)], g) :=
    if_pos (panelSearch_intended query type)
  have hstate : ∀ o : Outcome, (⟨o.after (fun g =>
      (((panelSearch query type).listed lower g).map fun n => [("node", server.foundNode n)], g))
        w.graph, w.clock + 1⟩ : World) = w.tick := by
    intro o
    rw [Outcome.after, ite_self]
    rfl
  rw [GraphApi.searchNodes, hread, exec_bind, exec_execute, Execution.andThen_ok, hstate]
  cases env.outcome w.clock with
  | done =>
      refine ⟨rfl, congrArg Exit.ok ?_⟩
      rw [Outcome.delivered, List.map_map]
      rfl
  | failed applied e => exact ⟨rfl, rfl⟩
  | cut applied n e =>
      refine ⟨rfl, congrArg Exit.ok ?_⟩
      rw [Outcome.delivered, ← List.map_take, List.map_map]
      rfl

theorem exec_searchNodes (query : String) (type : NodeType) (env : Env) (w : World) :
    let execution := env.exec
      (HttpService.searchNodes server lower (NodeSearchPanel.request query type)) w
    execution.state = w.tick ∧ execution.exit = .ok (match env.outcome w.clock with
      | .failed _ _ => none
      | o => some ((o.delivered ((panelSearch query type).listed lower w.graph)).map
          (shownResult server))) := by
  obtain ⟨hstate, hexit⟩ := exec_service server lower query type env w
  rw [HttpService.searchNodes, NodeSearchPanel.request, handler_searchNodes, exec_bind, exec_bind,
    exec_attempt, hstate, hexit]
  cases env.outcome w.clock with
  | failed applied e => exact ⟨rfl, rfl⟩
  | done | cut applied n e =>
      refine ⟨rfl, congrArg (fun results => Exit.ok (some results)) ?_⟩
      change ((Json.array _).asArray.getD []).map HttpService.searchNodeResult = _
      rw [Json.asArray, Option.getD_some, List.map_map]
      rfl

end Results

section Found

variable {server : Server} {lower : String → String}

theorem labels_shownResult (n : Node) : (shownResult server n).labels = n.labels := by
  have hread : (shownResult server n).labels = (n.labels.map Json.str).filterMap Json.asStr := rfl
  rw [hread, List.filterMap_map]
  exact List.filterMap_some

/-- What is shown of a node is its name, where the database knows that property. -/
theorem name_shownResult (hname : "name" ∈ server.propertyKeys) (n : Node) :
    (shownResult server n).props.name = nameOf n := by
  have hread : (shownResult server n).props.name =
      ((((server.properties n.props).lookup "name").getD .null).asStr).getD "" := rfl
  rw [hread, lookup_properties hname, nameOf]
  cases n.props "name" with
  | none => rfl
  | some v => cases v <;> rfl

theorem mem_listed {search : TextSearch} {g : Graph} {n : Node} (h : n ∈ search.listed lower g) :
    n ∈ g.nodes ∧ search.finds lower n = true :=
  List.mem_filter.1 ((List.perm_insertionSort _ _).subset (List.mem_of_mem_take h))

/-- The nodes that are listed are the first of those that are found, by their names. -/
theorem listed_top (search : TextSearch) (g : Graph) :
    IsTop (fun n => OrderDual.toDual (nameOf n)) search.limit.toNat
      (g.nodes.filter (search.finds lower)) (search.listed lower g) :=
  IsTop.take_insertionSort _ _ _

theorem foundIn_listed {query : String} {type : NodeType} {g : Graph} {n : Node}
    (h : n ∈ (panelSearch query type).listed lower g) : FoundIn g (shownResult server n) := by
  obtain ⟨hn, hfinds⟩ := mem_listed h
  refine ⟨n, hn, rfl, (labels_shownResult n).symm, type, ?_⟩
  rw [TextSearch.finds, Bool.and_eq_true] at hfinds
  obtain ⟨label, hlabel, hhas⟩ := List.any_eq_true.1 hfinds.1
  obtain rfl := List.mem_singleton.1 hlabel
  have hmem : NODE_TYPE_LABELS type ∈ n.labels := by simpa [Node.hasLabel] using hhas
  cases type <;> exact hmem

def NodeSearchPanel.search (server : Server) (lower : String → String) (query : String)
    (type : NodeType) (panel : NodeSearchPanel) : Api NodeSearchPanel :=
  match panel.searchNodes query type with
  | (panel, none) => return panel
  | (panel, some request) => do
      return panel.receive (← HttpService.searchNodes server lower request)

theorem search_blank {query : String} (hblank : trim query = "") (type : NodeType)
    (panel : NodeSearchPanel) :
    panel.search server lower query type = return { panel with results := [] } := by
  rw [NodeSearchPanel.search, NodeSearchPanel.searchNodes, if_pos hblank]

theorem exec_search {query : String} (hquery : trim query ≠ "") (type : NodeType) (env : Env)
    (w : World) (panel : NodeSearchPanel) :
    (env.exec (panel.search server lower query type) w).exit = .ok
      { panel with
        isLoading := false
        results := ((env.outcome w.clock).delivered ((panelSearch query type).listed lower w.graph)).map
          (shownResult server) } := by
  obtain ⟨-, hexit⟩ := exec_searchNodes server lower query type env w
  rw [NodeSearchPanel.search, NodeSearchPanel.searchNodes, if_neg hquery, exec_bind,
    Execution.exit_andThen hexit]
  cases env.outcome w.clock <;> rfl

/-- A blank query clears the panel. For every other, whatever becomes of the request, the panel shows
what has arrived of the first twenty nodes, by name, of those that have the label and contain the
query in their names. -/
theorem searchPanel_shows (hname : "name" ∈ server.propertyKeys) (query : String) (type : NodeType)
    (env : Env) (w : World) (panel : NodeSearchPanel) :
    (trim query = "" →
      panel.search server lower query type = return { panel with results := [] }) ∧
    (trim query ≠ "" → ∃ best results,
      IsTop (fun n => OrderDual.toDual (nameOf n)) 20
        (w.graph.nodes.filter ((panelSearch query type).finds lower)) best ∧
      (env.exec (panel.search server lower query type) w).exit =
        .ok { panel with isLoading := false, results := results } ∧
      results = ((env.outcome w.clock).delivered best).map (shownResult server) ∧
      ∀ result ∈ results, FoundIn w.graph result ∧
        ∃ n ∈ best, result.elementId = n.id ∧ result.props.name = nameOf n) := by
  refine ⟨fun hblank => search_blank hblank type panel, fun hquery => ?_⟩
  have harrived : (env.outcome w.clock).delivered ((panelSearch query type).listed lower w.graph) ⊆
      (panelSearch query type).listed lower w.graph := by
    cases env.outcome w.clock with
    | done => exact List.Subset.refl _
    | failed applied e => exact List.nil_subset _
    | cut applied n e => exact List.take_subset _ _
  refine ⟨_, _, listed_top (panelSearch query type) w.graph, exec_search hquery type env w panel, rfl,
    fun result hresult => ?_⟩
  obtain ⟨n, hn, rfl⟩ := List.mem_map.1 hresult
  exact ⟨foundIn_listed (harrived hn), n, harrived hn, rfl, name_shownResult hname n⟩

end Found

def openingsGraph : Graph :=
  emptyGraph.createNode ["Knowledge"] (Props.empty.set "name" (.str "Openings"))

theorem searchPanel_shows_openings : ∃ best results,
    IsTop (fun n => OrderDual.toDual (nameOf n)) 20 (openingsGraph.nodes.filter
      ((panelSearch "open" .knowledge).finds (String.map Char.toLower))) best ∧
    (Env.calm.exec ((NodeSearchPanel.opened .knowledge).search userServer (String.map Char.toLower)
      "open" .knowledge) (World.start openingsGraph)).exit =
        .ok { NodeSearchPanel.opened .knowledge with isLoading := false, results := results } ∧
    results = ((Env.calm.outcome 0).delivered best).map (shownResult userServer) ∧
    ∀ result ∈ results, FoundIn openingsGraph result ∧
      ∃ n ∈ best, result.elementId = n.id ∧ result.props.name = nameOf n :=
  (searchPanel_shows (by decide) "open" .knowledge Env.calm (World.start openingsGraph) _).2
    (by decide +kernel)

end AtlasOfUs.Editor
