import AtlasOfUs.GraphApi.Parameters
import AtlasOfUs.Library.GraphFrame

namespace AtlasOfUs.GraphApi.Wire

open Library

variable {Event Prompt : Type} (conv : Conversion)

structure CreateRelationshipRequest where
  sourceId : ElementId
  targetId : ElementId
  relationshipType : String
  properties : Option PropertyMap

structure UpdateRelationshipRequest where
  targetId : ElementId
  relationshipType : String
  properties : Option PropertyMap

structure UpdateNodeRequest where
  targetId : ElementId
  labels : Option (List String)
  properties : Option PropertyMap

/-- `MATCH (source), (target) WHERE elementId(source) = $sourceId AND elementId(target) = $targetId
MERGE (source)-[r:type]->(target) SET r.key = $key, ... RETURN elementId(r) AS elementId`. -/
def mergeStatement (type : String) (keys : List String) (params : Params) : Statement := fun g =>
  match params.string "sourceId", params.string "targetId", setClauses conv params keys with
  | some s, some t, some assignments =>
      let g' := g.mergeEdge type s t (assign assignments)
      ((g'.edges.filter (Edge.between type s t)).map (fun r => [("elementId", .str r.id)]), g')
  | _, _, _ => ([], g)

/-- Create a relationship between two nodes (uses MERGE for idempotency). -/
def createRelationship (request : CreateRelationshipRequest) :
    Rest Event Prompt CreateRelationshipResult := do
  let properties := request.properties.getD .empty
  let params := ((Params.empty.param "sourceId" (.str request.sourceId)).param "targetId"
    (.str request.targetId)).paramAll conv properties
  match ← execute (mergeStatement conv request.relationshipType properties.keys params) with
  | .error e => .fail (.databaseError ("Database error: " ++ e))
  | .ok result =>
      match result.firstRow with
      | some row =>
          return ⟨(row.getString "elementId").getD "", request.relationshipType, request.sourceId,
            request.targetId⟩
      | none => .fail (.databaseError "Failed to get element ID after relationship creation")

/-- `MATCH (source)-[r]->(target) WHERE elementId(r) = $targetId CREATE (source)-[newR:type]->(target)
SET newR.key = $key, ... DELETE r RETURN newR AS r`. -/
def retypeStatement (type : String) (keys : List String) (params : Params) : Statement := fun g =>
  match (params.string "targetId").bind (fun i => g.edges.find? (fun r => r.id = i)),
    setClauses conv params keys with
  | some r, some assignments =>
      let g' := g.createEdge type r.source r.target (assign assignments Props.empty)
      ((g'.edges.filter (fun e => e.id = g.freshId)).map (fun e => [("r", conv.showEdge e)]),
        g'.deleteEdges (fun e => e.id = r.id))
  | _, _ => ([], g)

/-- `MATCH ()-[r]->() WHERE elementId(r) = $targetId SET r.key = $key, ... RETURN r`. -/
def setRelationshipStatement (keys : List String) (params : Params) : Statement := fun g =>
  match params.string "targetId", setClauses conv params keys with
  | some i, some assignments =>
      let g' := g.setEdges (fun r => r.id = i) (assign assignments)
      ((g'.edges.filter (fun r => r.id = i)).map (fun r => [("r", conv.showEdge r)]), g')
  | _, _ => ([], g)

def updateRelationshipStatement (type : String) (keys : List String) (params : Params) :
    Statement :=
  if type ≠ "" then retypeStatement conv type keys params
  else setRelationshipStatement conv keys params

def columnOf (column : String) (result : RowStream) : List Json :=
  result.rows.map (fun row => (row.get column).getD (.object []))

def updateRelationship (request : UpdateRelationshipRequest) : Rest Event Prompt (List Json) := do
  let props := request.properties.getD .empty
  let params := (Params.empty.param "targetId" (.str request.targetId)).paramAll conv props
  match ← execute (updateRelationshipStatement conv request.relationshipType props.keys params) with
  | .error e => .fail (.databaseError ("Database error: " ++ e))
  | .ok result => return columnOf "r" result

def relabel (labels : Option (List String)) (old : List String) : List String :=
  match labels with
  | none => old
  | some new => old.filter (fun l => l ≠ "_" || new.contains l) ++
      (new.filter (fun l => !old.contains l)).eraseDups

/-- `MATCH (n) WHERE elementId(n) = $targetId REMOVE n:_ SET ... SET n.key = $key, ... RETURN n`. -/
def updateNodeStatement (labels : Option (List String)) (keys : List String) (params : Params) :
    Statement := fun g =>
  match params.string "targetId", setClauses conv params keys with
  | some i, some assignments =>
      let g' := g.editNodes (fun n => n.id = i) (relabel labels) (assign assignments)
      ((g'.nodes.filter (fun n => n.id = i)).map (fun n => [("n", conv.showNode n)]), g')
  | _, _ => ([], g)

def updateNode (request : UpdateNodeRequest) : Rest Event Prompt (List Json) := do
  if request.labels.isNone && request.properties.isNone then
    .fail (.validationError "At least one of 'labels' or 'properties' must be provided")
  else do
    let props := request.properties.getD .empty
    let params := (Params.empty.param "targetId" (.str request.targetId)).paramAll conv props
    match ← execute (updateNodeStatement conv request.labels props.keys params) with
    | .error e => .fail (.databaseError ("Database error: " ++ e))
    | .ok result => return columnOf "n" result

variable {conv}

def MergeIdle (g : Graph) (type : String) (source target : Option ElementId)
    (assignments : Option (List (String × Option Value))) : Prop :=
  ∀ s t as, source = some s → target = some t → assignments = some as →
    s ∈ g.nodeIds → t ∈ g.nodeIds →
      (∃ e ∈ g.edges, Edge.between type s t e = true) ∧
        ∀ e ∈ g.edges, Edge.between type s t e = true → assign as e.props = e.props

def RelationshipIdle (g : Graph) (type : String) (element : Option ElementId)
    (assignments : Option (List (String × Option Value))) : Prop :=
  ∀ i as, element = some i → assignments = some as →
    ∀ r ∈ g.edges, r.id = i → type = "" ∧ assign as r.props = r.props

def NodeIdle (g : Graph) (labels : Option (List String)) (element : Option ElementId)
    (assignments : Option (List (String × Option Value))) : Prop :=
  ∀ i as, element = some i → assignments = some as →
    ∀ n ∈ g.nodes, n.id = i → relabel labels n.labels = n.labels ∧ assign as n.props = n.props

theorem onlyEdges_mergeStatement_iff {g : Graph} {type : String} {keys : List String}
    {params : Params} {source target : ElementId} :
    OnlyEdges (fun e => e.source = source ∧ e.target = target) g
        (mergeStatement conv type keys params g).2 ↔
      (params.string "sourceId" = some source ∧ params.string "targetId" = some target) ∨
        MergeIdle g type (params.string "sourceId") (params.string "targetId")
          (setClauses conv params keys) := by
  unfold mergeStatement
  cases params.string "sourceId" with
  | none => exact iff_of_true (.refl _ g) (.inr fun s t as hs => by cases hs)
  | some s =>
      cases params.string "targetId" with
      | none => exact iff_of_true (.refl _ g) (.inr fun s t as _ ht => by cases ht)
      | some t =>
          cases setClauses conv params keys with
          | none => exact iff_of_true (.refl _ g) (.inr fun s t as _ _ has => by cases has)
          | some as =>
              simp only [Option.some.injEq]
              refine Graph.onlyEdges_mergeEdge_iff.trans (or_congr_right ?_)
              constructor
              · rintro hidle _ _ _ ⟨⟩ ⟨⟩ ⟨⟩
                exact hidle
              · intro hidle
                exact hidle s t as rfl rfl rfl

theorem onlyEdge_setRelationshipStatement_iff {g : Graph} {keys : List String} {params : Params}
    {i : ElementId} :
    OnlyEdge i g (setRelationshipStatement conv keys params g).2 ↔
      params.string "targetId" = some i ∨
        RelationshipIdle g "" (params.string "targetId") (setClauses conv params keys) := by
  unfold setRelationshipStatement
  cases params.string "targetId" with
  | none => exact iff_of_true (.refl i g) (.inr fun i as hi => by cases hi)
  | some j =>
      rw [Option.some.injEq]
      cases setClauses conv params keys with
      | none => exact iff_of_true (.refl i g) (.inr fun i as _ has => by cases has)
      | some as =>
          refine Graph.onlyEdge_setEdges_iff.trans (or_congr_right ?_)
          constructor
          · rintro hidle _ _ ⟨⟩ ⟨⟩ r hr hid
            exact ⟨rfl, hidle r hr hid⟩
          · intro hidle r hr hid
            exact (hidle j as rfl rfl r hr hid).2

theorem onlyEdge_retypeStatement_iff {g : Graph} {type : String} {keys : List String}
    {params : Params} {i : ElementId} (htype : type ≠ "") :
    OnlyEdge i g (retypeStatement conv type keys params g).2 ↔
      params.string "targetId" = some i ∨
        RelationshipIdle g type (params.string "targetId") (setClauses conv params keys) := by
  unfold retypeStatement
  cases params.string "targetId" with
  | none => exact iff_of_true (.refl i g) (.inr fun i as hi => by cases hi)
  | some j =>
      simp only [Option.bind_some, Option.some.injEq]
      cases hfind : g.edges.find? (fun r => r.id = j) with
      | none =>
          refine iff_of_true (.refl i g) (.inr ?_)
          rintro _ as ⟨⟩ _ r hr hid
          exact absurd (decide_eq_true hid) (List.find?_eq_none.1 hfind r hr)
      | some r =>
          have hr := List.mem_of_find?_eq_some hfind
          have hid : r.id = j := by simpa using List.find?_some hfind
          subst hid
          cases setClauses conv params keys with
          | none => exact iff_of_true (.refl i g) (.inr fun i as _ has => by cases has)
          | some as =>
              refine (Graph.onlyEdge_replace_iff hr type _).trans (or_iff_left ?_).symm
              intro hidle
              exact htype (hidle r.id as rfl rfl r hr rfl).1

theorem onlyEdge_updateRelationshipStatement_iff {g : Graph} {type : String} {keys : List String}
    {params : Params} {i : ElementId} :
    OnlyEdge i g (updateRelationshipStatement conv type keys params g).2 ↔
      params.string "targetId" = some i ∨
        RelationshipIdle g type (params.string "targetId") (setClauses conv params keys) := by
  by_cases htype : type = ""
  · rw [updateRelationshipStatement, if_neg (not_not_intro htype), htype]
    exact onlyEdge_setRelationshipStatement_iff
  · rw [updateRelationshipStatement, if_pos htype]
    exact onlyEdge_retypeStatement_iff htype

theorem onlyNode_updateNodeStatement_iff {g : Graph} {labels : Option (List String)}
    {keys : List String} {params : Params} {i : ElementId} :
    OnlyNode i g (updateNodeStatement conv labels keys params g).2 ↔
      params.string "targetId" = some i ∨
        NodeIdle g labels (params.string "targetId") (setClauses conv params keys) := by
  unfold updateNodeStatement
  cases params.string "targetId" with
  | none => exact iff_of_true (.refl i g) (.inr fun i as hi => by cases hi)
  | some j =>
      rw [Option.some.injEq]
      cases setClauses conv params keys with
      | none => exact iff_of_true (.refl i g) (.inr fun i as _ has => by cases has)
      | some as =>
          refine Graph.onlyNode_editNodes_iff.trans (or_congr_right ?_)
          constructor
          · rintro hidle _ _ ⟨⟩ ⟨⟩
            exact hidle
          · intro hidle
            exact hidle j as rfl rfl

theorem graph_execute_bind {ε α : Type} {k : Except String RowStream → Service Event Prompt ε α}
    {env : Env} (hk : ∀ reply w, (env.exec (k reply) w).state = w) (q : Statement) (w : World) :
    (env.exec (execute q >>= k) w).state.graph = (env.outcome w.clock).after q w.graph := by
  rw [exec_bind, exec_execute, Execution.andThen_ok, hk]

theorem after_iff {P : Graph → Prop} {o : Outcome} {q : Statement} {g : Graph} (h : P g) :
    P (o.after q g) ↔ o.applied = false ∨ P (q g).2 := by
  unfold Outcome.after
  cases o.applied with
  | false => exact iff_of_true h (.inl rfl)
  | true => simp

theorem graph_createRelationship (env : Env) (w : World) (request : CreateRelationshipRequest) :
    (env.exec (createRelationship conv request : Rest Event Prompt _) w).state.graph =
      (env.outcome w.clock).after (mergeStatement conv request.relationshipType
        (request.properties.getD .empty).keys
        (((Params.empty.param "sourceId" (.str request.sourceId)).param "targetId"
          (.str request.targetId)).paramAll conv (request.properties.getD .empty))) w.graph := by
  refine graph_execute_bind (fun reply w => ?_) _ w
  cases reply with
  | error e => rfl
  | ok rs => cases hrow : rs.firstRow <;> simp only [hrow] <;> rfl

theorem graph_updateRelationship (env : Env) (w : World) (request : UpdateRelationshipRequest) :
    (env.exec (updateRelationship conv request : Rest Event Prompt _) w).state.graph =
      (env.outcome w.clock).after (updateRelationshipStatement conv request.relationshipType
        (request.properties.getD .empty).keys
        ((Params.empty.param "targetId" (.str request.targetId)).paramAll conv
          (request.properties.getD .empty))) w.graph := by
  refine graph_execute_bind (fun reply w => ?_) _ w
  cases reply <;> rfl

theorem graph_updateNode (env : Env) (w : World) {request : UpdateNodeRequest}
    (h : ¬ (request.labels = none ∧ request.properties = none)) :
    (env.exec (updateNode conv request : Rest Event Prompt _) w).state.graph =
      (env.outcome w.clock).after (updateNodeStatement conv request.labels
        (request.properties.getD .empty).keys
        ((Params.empty.param "targetId" (.str request.targetId)).paramAll conv
          (request.properties.getD .empty))) w.graph := by
  have hgiven : ¬ (request.labels.isNone && request.properties.isNone) = true := by
    rwa [Bool.and_eq_true, Option.isNone_iff_eq_none, Option.isNone_iff_eq_none]
  rw [updateNode, if_neg hgiven]
  refine graph_execute_bind (fun reply w => ?_) _ w
  cases reply <;> rfl

theorem mergeStatement_ofProperties {entries : Properties} (h : (entries.map Prod.fst).Nodup)
    (hkeeps : KeepsValues conv entries) (type : String) (source target : ElementId) :
    mergeStatement conv type (PropertyMap.ofProperties entries h).keys
        (((Params.empty.param "sourceId" (.str source)).param "targetId" (.str target)).paramAll conv
          (.ofProperties entries h)) =
      mergeRelationshipStatement type (boundId entries "sourceId" source)
        (boundId entries "targetId" target) entries := by
  funext g
  unfold mergeStatement mergeRelationshipStatement
  rw [setClauses_paramAll, assignments_ofProperties h hkeeps, string_paramAll conv source rfl,
    string_paramAll conv target rfl, bound_ofProperties, bound_ofProperties]
  cases boundId entries "sourceId" source with
  | none => rfl
  | some s =>
      cases boundId entries "targetId" target with
      | none => rfl
      | some t =>
          simp only [assign_some]

variable (conv)

/-- The parameters name the nodes of the request, or the merge writes nothing. -/
def CreateRelationshipRequest.Addressed (request : CreateRelationshipRequest) (g : Graph) : Prop :=
  let properties := request.properties.getD .empty
  let source := bound conv properties "sourceId" request.sourceId
  let target := bound conv properties "targetId" request.targetId
  (source = some request.sourceId ∧ target = some request.targetId) ∨
    MergeIdle g request.relationshipType source target (properties.assignments conv)

def UpdateRelationshipRequest.Addressed (request : UpdateRelationshipRequest) (g : Graph) : Prop :=
  let properties := request.properties.getD .empty
  let element := bound conv properties "targetId" request.targetId
  element = some request.targetId ∨
    RelationshipIdle g request.relationshipType element (properties.assignments conv)

def UpdateNodeRequest.Addressed (request : UpdateNodeRequest) (g : Graph) : Prop :=
  let properties := request.properties.getD .empty
  let element := bound conv properties "targetId" request.targetId
  element = some request.targetId ∨
    NodeIdle g request.labels element (properties.assignments conv)

variable {conv}

theorem createRelationship_addressed_iff (env : Env) (w : World)
    (request : CreateRelationshipRequest) :
    OnlyEdges (fun e => e.source = request.sourceId ∧ e.target = request.targetId) w.graph
        (env.exec (createRelationship conv request : Rest Event Prompt _) w).state.graph ↔
      (env.outcome w.clock).applied = false ∨ request.Addressed conv w.graph := by
  rw [graph_createRelationship]
  refine (after_iff (P := OnlyEdges _ w.graph) (.refl _ w.graph)).trans (or_congr_right ?_)
  rw [onlyEdges_mergeStatement_iff, string_paramAll conv request.sourceId rfl,
    string_paramAll conv request.targetId rfl, setClauses_paramAll]
  rfl

theorem updateRelationship_addressed_iff (env : Env) (w : World)
    (request : UpdateRelationshipRequest) :
    OnlyEdge request.targetId w.graph
        (env.exec (updateRelationship conv request : Rest Event Prompt _) w).state.graph ↔
      (env.outcome w.clock).applied = false ∨ request.Addressed conv w.graph := by
  rw [graph_updateRelationship]
  refine (after_iff (P := OnlyEdge _ w.graph) (.refl _ w.graph)).trans (or_congr_right ?_)
  rw [onlyEdge_updateRelationshipStatement_iff, string_paramAll conv request.targetId rfl,
    setClauses_paramAll]
  rfl

theorem updateNode_addressed_iff (env : Env) (w : World) (request : UpdateNodeRequest) :
    OnlyNode request.targetId w.graph
        (env.exec (updateNode conv request : Rest Event Prompt _) w).state.graph ↔
      (env.outcome w.clock).applied = false ∨ request.Addressed conv w.graph := by
  by_cases hgiven : request.labels = none ∧ request.properties = none
  · have hgraph : (env.exec (updateNode conv request : Rest Event Prompt _) w).state.graph =
        w.graph := by
      rw [updateNode, hgiven.1, hgiven.2]
      rfl
    rw [hgraph]
    refine iff_of_true (.refl _ w.graph) (.inr (.inl ?_))
    rw [hgiven.2]
    rfl
  · rw [graph_updateNode env w hgiven]
    refine (after_iff (P := OnlyNode _ w.graph) (.refl _ w.graph)).trans (or_congr_right ?_)
    rw [onlyNode_updateNodeStatement_iff, string_paramAll conv request.targetId rfl,
      setClauses_paramAll]
    rfl

/-- A write stays with the elements it is addressed to exactly if no property
named like a parameter of the builder sends it elsewhere. -/
theorem writes_addressed_iff (conv : Conversion) (env : Env) (w : World) :
    (∀ request : CreateRelationshipRequest,
      OnlyEdges (fun e => e.source = request.sourceId ∧ e.target = request.targetId) w.graph
          (env.exec (createRelationship conv request : Rest Event Prompt _) w).state.graph ↔
        (env.outcome w.clock).applied = false ∨ request.Addressed conv w.graph) ∧
    (∀ request : UpdateRelationshipRequest,
      OnlyEdge request.targetId w.graph
          (env.exec (updateRelationship conv request : Rest Event Prompt _) w).state.graph ↔
        (env.outcome w.clock).applied = false ∨ request.Addressed conv w.graph) ∧
    (∀ request : UpdateNodeRequest,
      OnlyNode request.targetId w.graph
          (env.exec (updateNode conv request : Rest Event Prompt _) w).state.graph ↔
        (env.outcome w.clock).applied = false ∨ request.Addressed conv w.graph) := by
  refine ⟨?_, ?_, ?_⟩
  · exact createRelationship_addressed_iff env w
  · exact updateRelationship_addressed_iff env w
  · exact updateNode_addressed_iff env w

def plainConversion : Conversion where
  print := fun _ => "{}"
  asF64 := fun i => i
  storeList := fun _ => none
  showNode := fun _ => .null
  showEdge := fun _ => .null

/-- Three nodes, and a request for an edge between the first two with a property
that has the name of a parameter. -/
def threeNodes : Graph :=
  ((emptyGraph.createNode [] Props.empty).createNode [] Props.empty).createNode [] Props.empty

def misdirected : CreateRelationshipRequest where
  sourceId := "4:"
  targetId := "4:1"
  relationshipType := "RELATES_TO"
  properties := some ⟨[("targetId", .str "4:11")], List.nodup_singleton _⟩

theorem misdirected_elsewhere :
    ¬ OnlyEdges (fun e => e.source = misdirected.sourceId ∧ e.target = misdirected.targetId)
      threeNodes (Env.calm.exec (createRelationship plainConversion misdirected :
        Rest Empty Empty _) (.start threeNodes)).state.graph := by
  intro h
  rcases (createRelationship_addressed_iff Env.calm (.start threeNodes) misdirected).1 h with
    hlost | ⟨-, htarget⟩ | hidle
  · cases hlost
  · revert htarget
    decide
  · obtain ⟨⟨e, he, -⟩, -⟩ := hidle "4:" "4:11" _ rfl rfl rfl (by decide) (by decide)
    cases he

end AtlasOfUs.GraphApi.Wire
