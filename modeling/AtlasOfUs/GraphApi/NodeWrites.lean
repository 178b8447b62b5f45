import AtlasOfUs.GraphApi.NodeService
import AtlasOfUs.Statements

namespace AtlasOfUs.GraphApi

open Library

variable {Event Prompt : Type}

def CreateNodeRequest.stored (request : CreateNodeRequest) (vector : Embedding) : Props :=
  (Properties.toProps request.properties).set "embedding" (.list (vector.map .float))

theorem exec_createNode_unembedded (codec : Codec) (request : CreateNodeRequest) {env : Env}
    {w : World} {e : String} (he : env.embedding w.clock = .error e) :
    (env.exec (createNode codec request false : Rest Event Prompt CreateNodeResult) w).state =
        w.tick ∧
      (env.exec (createNode codec request false : Rest Event Prompt CreateNodeResult) w).exit =
        .err (.embeddingFailed e) := by
  rw [createNode, exec_bind, exec_generateEmbedding, he]
  exact ⟨rfl, rfl⟩

theorem exec_createNode (codec : Codec) (request : CreateNodeRequest) {env : Env} {w : World}
    {vector : Embedding} (hv : env.embedding w.clock = .ok vector) :
    (env.exec (createNode codec request false : Rest Event Prompt CreateNodeResult) w).state =
        ⟨(env.outcome (w.clock + 1)).after
          (createNodeStatement request.labels (request.stored vector)) w.graph, w.clock + 2⟩ ∧
      ((env.outcome (w.clock + 1)).returnsRow = true → ∃ name,
        (env.exec (createNode codec request false : Rest Event Prompt CreateNodeResult) w).exit =
          .ok ⟨w.graph.freshId, name, request.labels⟩) ∧
      ((env.outcome (w.clock + 1)).returnsRow = false → ∃ e,
        (env.exec (createNode codec request false : Rest Event Prompt CreateNodeResult) w).exit =
          .err e) := by
  have hrow := (env.outcome (w.clock + 1)).firstRow_eq
    (createNodeStatement request.labels (request.stored vector) w.graph).1
  rw [Outcome.firstRow] at hrow
  rw [createNode, exec_bind, exec_generateEmbedding, Execution.andThen_ok, hv]
  simp only [Bool.false_eq_true, if_false]
  change Execution.state (Env.exec env (execute (createNodeStatement request.labels
    (request.stored vector)) >>= _) w.tick) = _ ∧ (_ → ∃ name, Execution.exit (Env.exec env
      (execute (createNodeStatement request.labels (request.stored vector)) >>= _) w.tick) = _) ∧
      (_ → ∃ e, Execution.exit (Env.exec env
      (execute (createNodeStatement request.labels (request.stored vector)) >>= _) w.tick) = _)
  rw [exec_bind, exec_execute, Execution.andThen_ok, World.tick_clock, World.tick_graph]
  cases hreply : (env.outcome (w.clock + 1)).reply
      (createNodeStatement request.labels (request.stored vector) w.graph).1 with
  | error e =>
      rw [hreply] at hrow
      cases hret : (env.outcome (w.clock + 1)).returnsRow with
      | true => simp [hret, createNodeStatement] at hrow
      | false => exact ⟨rfl, by simp, fun _ => ⟨_, rfl⟩⟩
  | ok rs =>
      rw [hreply] at hrow
      simp only at hrow
      cases hret : (env.outcome (w.clock + 1)).returnsRow with
      | true =>
          simp only [hret, createNodeStatement, if_true, List.head?_cons] at hrow
          simp [hrow, Row.getString, Row.get, Json.asStr]
      | false =>
          simp only [hret, Bool.false_eq_true, if_false] at hrow
          simp [hrow]

theorem createNode_ok {codec : Codec} {request : CreateNodeRequest} {env : Env} {w : World}
    {result : CreateNodeResult}
    (h : (env.exec (createNode codec request false : Rest Event Prompt _) w).exit = .ok result) :
    ∃ vector, env.embedding w.clock = .ok vector ∧ (env.outcome (w.clock + 1)).returnsRow = true ∧
      result.elementId = w.graph.freshId ∧
      (env.exec (createNode codec request false : Rest Event Prompt _) w).state =
        ⟨(env.outcome (w.clock + 1)).after
          (createNodeStatement request.labels (request.stored vector)) w.graph, w.clock + 2⟩ := by
  cases hv : env.embedding w.clock with
  | error e =>
      rw [(exec_createNode_unembedded codec request hv).2] at h
      cases h
  | ok vector =>
      obtain ⟨hstate, hok, herr⟩ := exec_createNode codec request hv
      cases hret : (env.outcome (w.clock + 1)).returnsRow with
      | true =>
          obtain ⟨name, hname⟩ := hok hret
          rw [hname] at h
          exact ⟨vector, rfl, rfl, congrArg CreateNodeResult.elementId (Exit.ok.inj h).symm, hstate⟩
      | false =>
          obtain ⟨e, he⟩ := herr hret
          rw [he] at h
          cases h

/-- Whatever fails, the graph has gained the one node of the request or nothing. -/
theorem createNode_graph (codec : Codec) (request : CreateNodeRequest) (env : Env) (w : World) :
    (env.exec (createNode codec request false : Rest Event Prompt CreateNodeResult) w).state.graph =
        w.graph ∨
      ∃ vector, (env.exec (createNode codec request false :
          Rest Event Prompt CreateNodeResult) w).state.graph =
        w.graph.createNode request.labels (request.stored vector) := by
  cases hv : env.embedding w.clock with
  | error e =>
      rw [(exec_createNode_unembedded codec request hv).1]
      exact .inl rfl
  | ok vector =>
      rw [(exec_createNode codec request hv).1]
      cases happ : (env.outcome (w.clock + 1)).applied with
      | true => exact .inr ⟨vector, by simp [Outcome.after, happ, createNodeStatement]⟩
      | false => exact .inl (by simp [Outcome.after, happ])

theorem mergeRelationshipStatement_nodes (type : String) (source target : Option ElementId)
    (properties : Properties) (g : Graph) :
    (mergeRelationshipStatement type source target properties g).2.nodes = g.nodes := by
  cases source <;> cases target <;> simp [mergeRelationshipStatement]

theorem mergeRelationshipStatement_rows {type : String} {source target : Option ElementId}
    {properties : Properties} {g : Graph} {row : Row}
    (h : row ∈ (mergeRelationshipStatement type source target properties g).1) :
    ∃ s t, source = some s ∧ target = some t ∧ s ∈ g.nodeIds ∧ t ∈ g.nodeIds := by
  cases source with
  | none => simp [mergeRelationshipStatement] at h
  | some s =>
      cases target with
      | none => simp [mergeRelationshipStatement] at h
      | some t =>
          simp only [mergeRelationshipStatement, List.mem_map] at h
          obtain ⟨e, he, -⟩ := h
          obtain ⟨he, hbetween⟩ := List.mem_filter.1 he
          have hmem := Graph.mem_nodeIds_of_between he hbetween
          rw [Graph.nodeIds, Graph.mergeEdge_nodes] at hmem
          exact ⟨s, t, rfl, rfl, hmem⟩

def CreateRelationshipRequest.statement (request : CreateRelationshipRequest) : Statement :=
  mergeRelationshipStatement request.relationshipType
    (boundId (request.properties.getD []) "sourceId" request.sourceId)
    (boundId (request.properties.getD []) "targetId" request.targetId)
    (request.properties.getD [])

theorem exec_createRelationship (request : CreateRelationshipRequest) (env : Env) (w : World) :
    (env.exec (createRelationship request : Rest Event Prompt CreateRelationshipResult) w).state =
        ⟨(env.outcome w.clock).after request.statement w.graph, w.clock + 1⟩ ∧
      ∀ result, (env.exec (createRelationship request :
          Rest Event Prompt CreateRelationshipResult) w).exit = .ok result →
        (env.outcome w.clock).returnsRow = true ∧ ∃ row, row ∈ (request.statement w.graph).1 := by
  have hrow := (env.outcome w.clock).firstRow_eq (request.statement w.graph).1
  rw [Outcome.firstRow] at hrow
  change Execution.state (Env.exec env (execute request.statement >>= _) w) = _ ∧
    ∀ result, Execution.exit (Env.exec env (execute request.statement >>= _) w) = _ → _
  rw [exec_bind, exec_execute, Execution.andThen_ok]
  cases hreply : (env.outcome w.clock).reply (request.statement w.graph).1 with
  | error e => exact ⟨rfl, fun result h => by cases h⟩
  | ok rs =>
      rw [hreply] at hrow
      simp only at hrow
      cases hfirst : rs.firstRow with
      | none =>
          simp only [hfirst]
          exact ⟨rfl, fun result h => by cases h⟩
      | some row =>
          simp only [hfirst]
          refine ⟨rfl, fun result _ => ?_⟩
          rw [hfirst] at hrow
          cases hret : (env.outcome w.clock).returnsRow with
          | true =>
              rw [hret, if_pos rfl] at hrow
              exact ⟨rfl, row, List.mem_of_head? hrow.symm⟩
          | false => simp [hret] at hrow

theorem isSome_createRelationship (request : CreateRelationshipRequest) (env : Env) (w : World) :
    (env.exec (createRelationship request :
        Rest Event Prompt CreateRelationshipResult) w).exit.toOption.isSome =
      ((env.outcome w.clock).returnsRow && (request.statement w.graph).1.head?.isSome) := by
  have hrow := (env.outcome w.clock).firstRow_eq (request.statement w.graph).1
  rw [Outcome.firstRow] at hrow
  change (Execution.exit (Env.exec env (execute request.statement >>= _) w)).toOption.isSome = _
  rw [exec_bind, exec_execute, Execution.andThen_ok]
  have hanswer : (if (env.outcome w.clock).returnsRow = true
      then (request.statement w.graph).1.head? else none).isSome =
        ((env.outcome w.clock).returnsRow && (request.statement w.graph).1.head?.isSome) := by
    cases (env.outcome w.clock).returnsRow <;> rfl
  rw [← hanswer, ← hrow]
  cases hreply : (env.outcome w.clock).reply (request.statement w.graph).1 with
  | error e => rfl
  | ok rs =>
      cases hfirst : rs.firstRow with
      | none =>
          simp only [hfirst]
          rfl
      | some row =>
          simp only [hfirst]
          rfl

theorem createRelationship_nodes (request : CreateRelationshipRequest) (env : Env) (w : World) :
    (env.exec (createRelationship request :
      Rest Event Prompt CreateRelationshipResult) w).state.graph.nodes = w.graph.nodes := by
  rw [(exec_createRelationship request env w).1]
  unfold Outcome.after
  split
  · exact mergeRelationshipStatement_nodes _ _ _ _ _
  · rfl

end AtlasOfUs.GraphApi
