import AtlasOfUs.Agent.StepUtils
import AtlasOfUs.GraphApi.RelationshipWrites

namespace AtlasOfUs.Agent

open Library Similarity GraphApi

def confirmed : Call (services SseEvent Prompt) → Bool
  | ⟨.execute _, .ok ⟨_ :: _, none⟩⟩ => true
  | ⟨.execute _, _⟩ => false
  | _ => true

abbrev Succeeded (calls : List (Call (services SseEvent Prompt))) : Prop :=
  ∀ call ∈ calls, confirmed call = true

theorem confirmed_execute {q : Statement} {reply : Except String RowStream}
    (h : confirmed ⟨.execute q, reply⟩ = true) : ∃ row rows, reply = .ok ⟨row :: rows, none⟩ := by
  obtain _ | ⟨_ | ⟨row, rows⟩, _ | _⟩ := reply
  · cases h
  · cases h
  · cases h
  · exact ⟨row, rows, rfl⟩
  · cases h

section Relationships

variable {env : Env} {w : World} {request : CreateRelationshipRequest}

theorem calls_createRelationship (request : CreateRelationshipRequest) (env : Env) (w : World) :
    (env.exec (createRelationship request : Rest SseEvent Prompt _) w).calls =
      [⟨.execute request.statement, (env.outcome w.clock).reply (request.statement w.graph).1⟩] := by
  change Execution.calls (Env.exec env (execute request.statement >>= _) w) = _
  rw [exec_bind, exec_execute, Execution.andThen_ok]
  cases hreply : (env.outcome w.clock).reply (request.statement w.graph).1 with
  | error e => rfl
  | ok rs =>
      cases hfirst : rs.firstRow with
      | none =>
          simp only [hfirst]
          rfl
      | some row =>
          simp only [hfirst]
          rfl

theorem exec_createRelationship_attempt {ε : Type} (request : CreateRelationshipRequest) (env : Env)
    (w : World) : ∃ result,
      env.exec ((createRelationship request).attempt : Service SseEvent Prompt ε _) w =
        ⟨.ok result, ⟨(env.outcome w.clock).after request.statement w.graph, w.clock + 1⟩,
          [⟨.execute request.statement,
            (env.outcome w.clock).reply (request.statement w.graph).1⟩]⟩ := by
  have hattempted : ∃ result, (env.exec (createRelationship request : Rest SseEvent Prompt _)
      w).exit.attempted = (.ok result : Exit ε (Except ServiceError CreateRelationshipResult)) := by
    change ∃ result, (Execution.exit (Env.exec env (execute request.statement >>= _) w)).attempted = _
    rw [exec_bind, exec_execute, Execution.andThen_ok]
    cases hreply : (env.outcome w.clock).reply (request.statement w.graph).1 with
    | error e => exact ⟨_, rfl⟩
    | ok rs =>
        cases hfirst : rs.firstRow with
        | none =>
            simp only [hfirst]
            exact ⟨_, rfl⟩
        | some row =>
            simp only [hfirst]
            exact ⟨_, rfl⟩
  obtain ⟨result, hresult⟩ := hattempted
  exists result
  rw [exec_attempt, hresult, (exec_createRelationship request env w).1, calls_createRelationship]

theorem after_confirmed (hbound : request.Bound) {o : Outcome} {g : Graph}
    (h : confirmed ⟨.execute request.statement, o.reply (request.statement g).1⟩ = true) :
    g.HasEnds request.key ∧ o.after request.statement g = g.upsert request.upsert := by
  obtain ⟨row, rows, hreply⟩ := confirmed_execute h
  obtain rfl := Outcome.done_of_reply hreply
  have hrows := Outcome.rows_of_reply hreply
  have hends : g.HasEnds request.key := by
    have hhead := CreateRelationshipRequest.head?_statement hbound g
    rw [hrows, List.head?_cons, Option.isSome_some] at hhead
    exact of_decide_eq_true hhead.symm
  refine ⟨hends, ?_⟩
  rw [CreateRelationshipRequest.after_statement hbound, if_pos ⟨hends, rfl⟩]

theorem linked_after_confirmed (hbound : request.Bound) {o : Outcome} {g : Graph}
    (h : confirmed ⟨.execute request.statement, o.reply (request.statement g).1⟩ = true)
    (type : String) (s t : ElementId) :
    (o.after request.statement g).Linked type s t ↔ g.Linked type s t ∨
      (request.relationshipType = type ∧ request.sourceId = s ∧ request.targetId = t) := by
  obtain ⟨hends, hafter⟩ := after_confirmed hbound h
  have hmerge : (g.upsert request.upsert).Linked type s t ↔ g.Linked type s t ∨
      ((request.relationshipType = type ∧ request.sourceId = s ∧ request.targetId = t) ∧
        request.sourceId ∈ g.nodeIds ∧ request.targetId ∈ g.nodeIds) := Graph.linked_mergeEdge
  rw [hafter, hmerge]
  exact or_congr_right (and_iff_left hends)

end Relationships

end AtlasOfUs.Agent
