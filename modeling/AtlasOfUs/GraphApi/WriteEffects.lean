import AtlasOfUs.GraphApi.AddressedWrites

namespace AtlasOfUs.GraphApi.Wire

open Library

variable {Event Prompt : Type} {conv : Conversion}

section Assignments

variable {properties : PropertyMap} {assignments : List (String × Option Value)}

theorem assign_assign (assignments : List (String × Option Value)) (props : Props) :
    assign assignments (assign assignments props) = assign assignments props := by
  funext key
  rw [assign, assign]
  cases assignments.lookup key <;> rfl

theorem lookup_mapM_eq_none {entries : List (String × Json)} {f : Json → Option (Option Value)}
    {assignments : List (String × Option Value)}
    (h : entries.mapM (fun kv => (f kv.2).map fun v => (kv.1, v)) = some assignments)
    (key : String) : assignments.lookup key = none ↔ entries.lookup key = none := by
  induction entries generalizing assignments with
  | nil =>
      rw [List.mapM_nil] at h
      obtain rfl := Option.some.inj h
      exact iff_of_true rfl rfl
  | cons kv rest ih =>
      rw [List.mapM_cons] at h
      cases hv : f kv.2 with
      | none =>
          rw [hv] at h
          cases h
      | some v =>
          cases hrest : rest.mapM fun kv => (f kv.2).map fun v => (kv.1, v) with
          | none =>
              rw [hv, hrest] at h
              cases h
          | some later =>
              rw [hv, hrest] at h
              obtain rfl := Option.some.inj h
              rw [List.lookup_cons, List.lookup_cons]
              cases key == kv.1 with
              | true => simp
              | false => exact ih hrest

theorem lookup_assignments_eq_none (h : properties.assignments conv = some assignments)
    (key : String) : assignments.lookup key = none ↔ properties.get key = none :=
  lookup_mapM_eq_none (f := fun v => (jsonValueToBoltType conv v).stored conv) h key

theorem assign_of_get_eq_none (h : properties.assignments conv = some assignments) {key : String}
    (hkey : properties.get key = none) (props : Props) : assign assignments props key = props key := by
  rw [assign, (lookup_assignments_eq_none h key).2 hkey, Option.getD_none]

theorem assign_of_get_eq_some (h : properties.assignments conv = some assignments) {key : String}
    {value : Json} (hkey : properties.get key = some value) (props props' : Props) :
    assign assignments props key = assign assignments props' key := by
  rw [assign, assign]
  cases hlookup : assignments.lookup key with
  | some v => rfl
  | none =>
      rw [lookup_assignments_eq_none h key, hkey] at hlookup
      cases hlookup

theorem bound_of_get_eq_none {parameter : String} (h : properties.get parameter = none)
    (given : ElementId) : bound conv properties parameter given = some given := by
  rw [bound, h]

end Assignments

section CreateRelationship

variable {request : CreateRelationshipRequest} {assignments : List (String × Option Value)}

theorem mergeStatement_request
    (hsource : (request.properties.getD .empty).get "sourceId" = none)
    (htarget : (request.properties.getD .empty).get "targetId" = none)
    (hassign : (request.properties.getD .empty).assignments conv = some assignments) (g : Graph) :
    mergeStatement conv request.relationshipType (request.properties.getD .empty).keys
        (((Params.empty.param "sourceId" (.str request.sourceId)).param "targetId"
          (.str request.targetId)).paramAll conv (request.properties.getD .empty)) g =
      let merged := g.mergeEdge request.relationshipType request.sourceId request.targetId
        (assign assignments)
      ((merged.edges.filter (Edge.between request.relationshipType request.sourceId
        request.targetId)).map (fun r => [("elementId", .str r.id)]), merged) := by
  unfold mergeStatement
  rw [setClauses_paramAll, hassign, string_paramAll conv request.sourceId rfl,
    string_paramAll conv request.targetId rfl, bound_of_get_eq_none hsource,
    bound_of_get_eq_none htarget]

/-- What is left unchanged by a request about the edges of one type between two nodes. -/
structure EdgesKept (type : String) (source target : ElementId) (named : String → Prop)
    (g g' : Graph) : Prop where
  nodes : g'.nodes = g.nodes
  others : ∀ e : Edge, ¬ (e.type = type ∧ e.source = source ∧ e.target = target) →
    (e ∈ g'.edges ↔ e ∈ g.edges)
  props : ∀ e ∈ g.edges, ∃ e' ∈ g'.edges, e'.id = e.id ∧ e'.type = e.type ∧
    e'.source = e.source ∧ e'.target = e.target ∧ ∀ key, ¬ named key → e'.props key = e.props key
  new : ∀ e ∈ g'.edges, e.id ∉ g.edgeIds → ∀ key, ¬ named key → e.props key = none

theorem edgesKept_mergeEdge {type : String} {s t : ElementId} {named : String → Prop} {f : Props → Props}
    (hf : ∀ key, ¬ named key → ∀ props, f props key = props key) (g : Graph) :
    EdgesKept type s t named g (g.mergeEdge type s t f) where
  nodes := g.mergeEdge_nodes type s t f
  others := by
    intro e hother
    have hb : Edge.between type s t e = false := by
      rw [Bool.eq_false_iff]
      exact fun hb => hother (Graph.between_iff.1 hb)
    rw [Graph.mem_mergeEdge]
    constructor
    · rintro (⟨he, -⟩ | ⟨r, -, hr, rfl⟩ | ⟨-, -, -, rfl⟩)
      · exact he
      · exact absurd (Graph.between_iff.1 hr) hother
      · exact absurd ⟨rfl, rfl, rfl⟩ hother
    · exact fun he => .inl ⟨he, hb⟩
  props := by
    intro e he
    cases hb : Edge.between type s t e with
    | false => exact ⟨e, Graph.mem_mergeEdge.2 (.inl ⟨he, hb⟩), rfl, rfl, rfl, rfl, fun _ _ => rfl⟩
    | true =>
        refine ⟨_, Graph.mem_mergeEdge.2 (.inr (.inl ⟨e, he, hb, rfl⟩)), rfl, rfl, rfl, rfl, ?_⟩
        exact fun key hkey => hf key hkey e.props
  new := by
    intro e he hnew key hkey
    rcases Graph.mem_mergeEdge.1 he with ⟨hold, -⟩ | ⟨r, hr, -, rfl⟩ | ⟨-, -, -, rfl⟩
    · exact absurd (Graph.id_mem_edgeIds hold) hnew
    · exact absurd (Graph.id_mem_edgeIds hr) hnew
    · exact hf key hkey Props.empty

theorem exit_createRelationship_ok_iff {env : Env} {w : World} (hdone : env.outcome w.clock = .done)
    (hsource : (request.properties.getD .empty).get "sourceId" = none)
    (htarget : (request.properties.getD .empty).get "targetId" = none)
    (hassign : (request.properties.getD .empty).assignments conv = some assignments) :
    (∃ result, (env.exec (createRelationship conv request : Rest Event Prompt _) w).exit =
        .ok result) ↔
      request.sourceId ∈ w.graph.nodeIds ∧ request.targetId ∈ w.graph.nodeIds := by
  have hany := w.graph.any_between_mergeEdge request.relationshipType request.sourceId
    request.targetId (assign assignments)
  rw [createRelationship, exec_bind, exec_execute, Execution.andThen_ok, hdone, Outcome.reply_done,
    mergeStatement_request hsource htarget hassign, ← hany]
  simp only [RowStream.firstRow, List.head?_map, List.head?_filter]
  cases hfind : List.find? (Edge.between request.relationshipType request.sourceId
      request.targetId) _ with
  | none =>
      constructor
      · rintro ⟨result, hresult⟩
        cases hresult
      · intro hfound
        obtain ⟨e, he, hb⟩ := List.any_eq_true.1 hfound
        exact absurd hb (List.find?_eq_none.1 hfind e he)
  | some e =>
      refine iff_of_true ⟨_, rfl⟩ (List.any_eq_true.2 ⟨e, ?_, List.find?_some hfind⟩)
      exact List.mem_of_find?_eq_some hfind

theorem graph_createRelationship_done {env : Env} {w : World}
    (hdone : env.outcome w.clock = .done)
    (hsource : (request.properties.getD .empty).get "sourceId" = none)
    (htarget : (request.properties.getD .empty).get "targetId" = none)
    (hassign : (request.properties.getD .empty).assignments conv = some assignments) :
    (env.exec (createRelationship conv request : Rest Event Prompt _) w).state.graph =
      w.graph.mergeEdge request.relationshipType request.sourceId request.targetId
        (assign assignments) := by
  rw [graph_createRelationship, hdone, Outcome.after_done,
    mergeStatement_request hsource htarget hassign]

/-- A request is carried out once, however often it comes. -/
theorem createRelationship_idempotent (conv : Conversion) (request : CreateRelationshipRequest)
    (env env' : Env) (w w' : World)
    (hsource : (request.properties.getD .empty).get "sourceId" = none)
    (htarget : (request.properties.getD .empty).get "targetId" = none)
    (hstored : ((request.properties.getD .empty).assignments conv).isSome = true)
    (hdone : env.outcome w.clock = .done) (hdone' : env'.outcome w'.clock = .done)
    (hagain : w'.graph =
      (env.exec (createRelationship conv request : Rest Event Prompt _) w).state.graph) :
    (env'.exec (createRelationship conv request : Rest Event Prompt _) w').state.graph = w'.graph ∧
      EdgesKept request.relationshipType request.sourceId request.targetId
        (fun key => ((request.properties.getD .empty).get key).isSome = true) w.graph w'.graph ∧
      ((∃ result, (env.exec (createRelationship conv request : Rest Event Prompt _) w).exit =
          .ok result) ↔
        request.sourceId ∈ w.graph.nodeIds ∧ request.targetId ∈ w.graph.nodeIds) := by
  obtain ⟨assignments, hassign⟩ := Option.isSome_iff_exists.1 hstored
  rw [graph_createRelationship_done hdone hsource htarget hassign] at hagain
  refine ⟨?_, ?_, exit_createRelationship_ok_iff hdone hsource htarget hassign⟩
  · rw [graph_createRelationship_done hdone' hsource htarget hassign, hagain]
    exact Graph.mergeEdge_mergeEdge (assign_assign assignments)
  · rw [hagain]
    apply edgesKept_mergeEdge
    intro key hkey props
    exact assign_of_get_eq_none hassign (by simpa using hkey) props

def related : CreateRelationshipRequest where
  sourceId := "4:"
  targetId := "4:1"
  relationshipType := "RELATES_TO"
  properties := some ⟨[("weight", .int 1), ("note", .null)], by decide⟩

theorem related_idempotent :
    let once := Env.calm.exec (createRelationship plainConversion related : Rest Empty Empty _)
      (.start threeNodes)
    let again : World := ⟨once.state.graph, 1⟩
    (Env.calm.exec (createRelationship plainConversion related : Rest Empty Empty _)
        again).state.graph = again.graph ∧
      EdgesKept "RELATES_TO" "4:" "4:1" (fun key =>
        (List.lookup key [("weight", Json.int 1), ("note", .null)]).isSome = true) threeNodes
        again.graph ∧
      ((∃ result, once.exit = .ok result) ↔
        "4:" ∈ threeNodes.nodeIds ∧ "4:1" ∈ threeNodes.nodeIds) :=
  createRelationship_idempotent plainConversion related .calm .calm (.start threeNodes) ⟨_, 1⟩ rfl rfl
    rfl rfl rfl rfl

end CreateRelationship

section UpdateRelationship

variable {request : UpdateRelationshipRequest} {assignments : List (String × Option Value)} {e : Edge}
  {g : Graph}

/-- One edge stands in the place of `e`, of the requested type and with its properties overwritten,
and all other edges are as they were. -/
def EdgeUpdated (e : Edge) (type : String) (assignments : List (String × Option Value))
    (g g' : Graph) : Prop :=
  ∃ e' : Edge, e'.type = (if type = "" then e.type else type) ∧ e'.source = e.source ∧
    e'.target = e.target ∧ e'.props = assign assignments e.props ∧
    (∀ f ∈ g.edges, f.id ≠ e.id → f.id ≠ e'.id) ∧
    ∀ f, f ∈ g'.edges ↔ f = e' ∨ (f ∈ g.edges ∧ f.id ≠ e.id)

theorem edgeUpdated_setEdges (he : e ∈ g.edges) :
    EdgeUpdated e "" assignments g (g.setEdges (fun r => r.id = e.id) (assign assignments)) := by
  refine ⟨{ e with props := assign assignments e.props }, (if_pos rfl).symm, rfl, rfl, rfl,
    fun f _ hne => hne, fun f => ?_⟩
  rw [Graph.mem_setEdges]
  constructor
  · rintro (⟨hf, hne⟩ | ⟨r, hr, hid, rfl⟩)
    · exact .inr ⟨hf, of_decide_eq_false hne⟩
    · obtain rfl := Graph.edge_eq_of_id hr he (of_decide_eq_true hid)
      exact .inl rfl
  · rintro (rfl | ⟨hf, hne⟩)
    · exact .inr ⟨e, he, decide_eq_true rfl, rfl⟩
    · exact .inl ⟨hf, decide_eq_false hne⟩

theorem edgeUpdated_replace_iff (he : e ∈ g.edges) {type : String} (htype : type ≠ "") :
    EdgeUpdated e type assignments g
        ((g.createEdge type e.source e.target (assign assignments Props.empty)).deleteEdges
          (fun f => f.id = e.id)) ↔
      assign assignments Props.empty = assign assignments e.props := by
  have hfresh : ∀ f ∈ g.edges, f.id ≠ g.freshId := by
    intro f hf hid
    exact g.freshId_notMem_edgeIds (hid ▸ Graph.id_mem_edgeIds hf)
  have hmem : ∀ f, f ∈ ((g.createEdge type e.source e.target
      (assign assignments Props.empty)).deleteEdges (fun f => f.id = e.id)).edges ↔
        f = ⟨g.freshId, type, e.source, e.target, assign assignments Props.empty⟩ ∨
          (f ∈ g.edges ∧ f.id ≠ e.id) := by
    intro f
    rw [Graph.deleteEdges_edges,
      Graph.createEdge_of_mem (g.source_mem e he) (g.target_mem e he), List.mem_filter,
      List.mem_append, List.mem_singleton, Bool.not_eq_true', decide_eq_false_iff_not]
    constructor
    · rintro ⟨hf | rfl, hne⟩
      · exact .inr ⟨hf, hne⟩
      · exact .inl rfl
    · rintro (rfl | ⟨hf, hne⟩)
      · exact ⟨.inr rfl, (hfresh e he).symm⟩
      · exact ⟨.inl hf, hne⟩
  constructor
  · rintro ⟨e', -, -, -, hprops, -, hedges⟩
    rcases (hedges _).1 ((hmem _).2 (.inl rfl)) with rfl | ⟨hold, -⟩
    · exact hprops
    · exact absurd rfl (hfresh _ hold)
  · intro hprops
    refine ⟨⟨g.freshId, type, e.source, e.target, assign assignments Props.empty⟩,
      (if_neg htype).symm, rfl, rfl, hprops, fun f hf _ => hfresh f hf, hmem⟩

theorem assign_empty_eq_iff {properties : PropertyMap}
    (h : properties.assignments conv = some assignments) (props : Props) :
    assign assignments Props.empty = assign assignments props ↔
      ∀ key, properties.get key = none → props key = none := by
  constructor
  · intro heq key hkey
    rw [← assign_of_get_eq_none h hkey props, ← heq, assign_of_get_eq_none h hkey]
    rfl
  · intro hnone
    funext key
    cases hkey : properties.get key with
    | none =>
        rw [assign_of_get_eq_none h hkey, assign_of_get_eq_none h hkey, hnone key hkey]
        rfl
    | some value => exact assign_of_get_eq_some h hkey _ _

theorem updateRelationshipStatement_keeps_iff (conv : Conversion)
    (request : UpdateRelationshipRequest)
    (he : e ∈ g.edges) (hid : e.id = request.targetId)
    (htarget : (request.properties.getD .empty).get "targetId" = none)
    (hassign : (request.properties.getD .empty).assignments conv = some assignments) :
    EdgeUpdated e request.relationshipType assignments g
        (updateRelationshipStatement conv request.relationshipType
          (request.properties.getD .empty).keys
          ((Params.empty.param "targetId" (.str request.targetId)).paramAll conv
            (request.properties.getD .empty)) g).2 ↔
      request.relationshipType = "" ∨
        ∀ key, (request.properties.getD .empty).get key = none → e.props key = none := by
  rw [updateRelationshipStatement]
  by_cases htype : request.relationshipType = ""
  · rw [if_neg (not_not_intro htype), setRelationshipStatement, setClauses_paramAll, hassign,
      string_paramAll conv request.targetId rfl, bound_of_get_eq_none htarget, htype, ← hid]
    exact iff_of_true (edgeUpdated_setEdges he) (.inl rfl)
  · have hfind : g.edges.find? (fun r => r.id = e.id) = some e := by
      cases hfound : g.edges.find? (fun r => r.id = e.id) with
      | none => exact absurd (decide_eq_true rfl) (List.find?_eq_none.1 hfound e he)
      | some r =>
          have hr : r.id = e.id := by simpa using List.find?_some hfound
          rw [Graph.edge_eq_of_id (List.mem_of_find?_eq_some hfound) he hr]
    rw [if_pos htype, retypeStatement, setClauses_paramAll, hassign,
      string_paramAll conv request.targetId rfl, bound_of_get_eq_none htarget, ← hid,
      Option.bind_some, hfind, or_iff_right htype, ← assign_empty_eq_iff hassign]
    exact edgeUpdated_replace_iff he htype

/-- An edge with a weight, and a request for another type of it. -/
def weightedEdge : Edge :=
  ⟨threeNodes.freshId, "KNOWS", "4:", "4:1", Props.empty.set "weight" (.int 3)⟩

def weightedGraph : Graph :=
  threeNodes.createEdge "KNOWS" "4:" "4:1" (Props.empty.set "weight" (.int 3))

theorem weightedEdge_mem : weightedEdge ∈ weightedGraph.edges := by
  rw [weightedGraph, Graph.createEdge_of_mem (by decide) (by decide)]
  exact List.mem_singleton_self _

def retyped (properties : Option PropertyMap) : UpdateRelationshipRequest :=
  ⟨weightedEdge.id, "LIKES", properties⟩

end UpdateRelationship

section UpdateNode

variable {assignments : List (String × Option Value)}

theorem mem_relabel (labels old : List String) (l : String) :
    l ∈ relabel (some labels) old ↔ l ∈ labels ∨ (l ∈ old ∧ l ≠ "_") := by
  rw [relabel, List.mem_append, List.mem_filter, List.mem_eraseDups, List.mem_filter]
  simp only [Bool.or_eq_true, decide_eq_true_eq, Bool.not_eq_true', List.contains_eq_mem,
    decide_eq_false_iff_not]
  by_cases hnew : l ∈ labels <;> by_cases hold : l ∈ old <;> simp [hnew, hold]

/-- The node `n` with just the given labels and with its properties overwritten. -/
def Relabelled (n : Node) (labels : List String) (assignments : List (String × Option Value))
    (g : Graph) : Prop :=
  ∃ n' ∈ g.nodes, n'.id = n.id ∧ (∀ l, l ∈ n'.labels ↔ l ∈ labels) ∧
    n'.props = assign assignments n.props

theorem updateNodeStatement_relabels_iff {g : Graph} (conv : Conversion) (request : UpdateNodeRequest)
    {labels : List String} {n : Node} (hn : n ∈ g.nodes) (hid : n.id = request.targetId)
    (hlabels : request.labels = some labels)
    (htarget : (request.properties.getD .empty).get "targetId" = none)
    (hassign : (request.properties.getD .empty).assignments conv = some assignments) :
    Relabelled n labels assignments (updateNodeStatement conv request.labels
        (request.properties.getD .empty).keys
        ((Params.empty.param "targetId" (.str request.targetId)).paramAll conv
          (request.properties.getD .empty)) g).2 ↔
      ∀ l ∈ n.labels, l = "_" ∨ l ∈ labels := by
  rw [updateNodeStatement, setClauses_paramAll, hassign,
    string_paramAll conv request.targetId rfl, bound_of_get_eq_none htarget, hlabels, ← hid]
  have hedited : (⟨n.id, relabel (some labels) n.labels, assign assignments n.props⟩ : Node) ∈
      (g.editNodes (fun m => m.id = n.id) (relabel (some labels)) (assign assignments)).nodes :=
    Graph.mem_editNodes.2 (.inr ⟨n, hn, decide_eq_true rfl, rfl⟩)
  constructor
  · rintro ⟨n', hn', hsame, hexact, -⟩ l hl
    obtain rfl := Graph.node_eq_of_id hn' hedited hsame
    by_cases hlast : l = "_"
    · exact .inl hlast
    · exact .inr ((hexact l).1 ((mem_relabel labels n.labels l).2 (.inr ⟨hl, hlast⟩)))
  · intro hold
    refine ⟨_, hedited, rfl, fun l => ?_, rfl⟩
    rw [mem_relabel]
    constructor
    · rintro (hnew | ⟨hl, hne⟩)
      · exact hnew
      · exact (hold l hl).resolve_left hne
    · exact .inl

/-- Only the label `_` is ever taken away. -/
theorem updateNode_relabels_iff (env : Env) (w : World) (request : UpdateNodeRequest)
    (labels : List String) (n : Node) (hn : n ∈ w.graph.nodes) (hid : n.id = request.targetId)
    (hlabels : request.labels = some labels)
    (htarget : (request.properties.getD .empty).get "targetId" = none)
    (hassign : (request.properties.getD .empty).assignments conv = some assignments)
    (hdone : env.outcome w.clock = .done) :
    Relabelled n labels assignments
        (env.exec (updateNode conv request : Rest Event Prompt _) w).state.graph ↔
      ∀ l ∈ n.labels, l = "_" ∨ l ∈ labels := by
  have hgiven : ¬ (request.labels = none ∧ request.properties = none) := by
    rw [hlabels]
    rintro ⟨⟨⟩, -⟩
  rw [graph_updateNode env w hgiven, hdone, Outcome.after_done]
  exact updateNodeStatement_relabels_iff conv request hn hid hlabels htarget hassign

def skillGraph : Graph := emptyGraph.createNode ["Skill"] Props.empty

def skillNode : Node := ⟨emptyGraph.freshId, ["Skill"], Props.empty⟩

def labelledAs (labels : List String) : UpdateNodeRequest := ⟨skillNode.id, some labels, none⟩

theorem updateNode_skill :
    Relabelled skillNode ["Skill", "Knowledge"] []
        (Env.calm.exec (updateNode plainConversion (labelledAs ["Skill", "Knowledge"]) :
          Rest Empty Empty _) (.start skillGraph)).state.graph ↔
      ∀ l ∈ skillNode.labels, l = "_" ∨ l ∈ ["Skill", "Knowledge"] :=
  updateNode_relabels_iff Env.calm (.start skillGraph) (labelledAs ["Skill", "Knowledge"])
    ["Skill", "Knowledge"] skillNode (List.mem_singleton_self _) rfl rfl rfl rfl rfl

theorem skill_stays :
    ¬ ∀ (conv : Conversion) (env : Env) (w : World) (request : UpdateNodeRequest)
      (labels : List String) (n : Node) (assignments : List (String × Option Value)),
        n ∈ w.graph.nodes → n.id = request.targetId → request.labels = some labels → labels ≠ [] →
        (request.properties.getD .empty).get "targetId" = none →
        (request.properties.getD .empty).assignments conv = some assignments →
        env.outcome w.clock = .done →
        Relabelled n labels assignments
          (env.exec (updateNode conv request : Rest Empty Empty _) w).state.graph := by
  intro hall
  have hexact := hall plainConversion Env.calm (.start skillGraph) (labelledAs ["Knowledge"])
    ["Knowledge"] skillNode [] (List.mem_singleton_self _) rfl rfl (by decide) rfl rfl rfl
  rw [graph_updateNode _ _ (by rintro ⟨⟨⟩, -⟩)] at hexact
  have hmem : skillNode ∈ skillGraph.nodes := List.mem_singleton_self _
  have hiff := updateNodeStatement_relabels_iff plainConversion (labelledAs ["Knowledge"]) hmem rfl
    rfl rfl rfl
  exact absurd (hiff.1 hexact "Skill" (List.mem_singleton_self _)) (by decide)

end UpdateNode

end AtlasOfUs.GraphApi.Wire
