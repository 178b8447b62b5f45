import AtlasOfUs.GraphApi.NodeWrites
import AtlasOfUs.Library.Ledger

namespace AtlasOfUs.GraphApi

open Library

variable {Event Prompt ε α : Type}

namespace CreateRelationshipRequest

def key (request : CreateRelationshipRequest) : LinkKey ElementId :=
  (request.relationshipType, request.sourceId, request.targetId)

def upsert (request : CreateRelationshipRequest) : Upsert ElementId Value :=
  ⟨request.key, setAll (request.properties.getD [])⟩

def Bound (request : CreateRelationshipRequest) : Prop :=
  boundId (request.properties.getD []) "sourceId" request.sourceId = some request.sourceId ∧
    boundId (request.properties.getD []) "targetId" request.targetId = some request.targetId

variable {request : CreateRelationshipRequest} {g : Graph}

theorem between_request {e : Edge} :
    Edge.between request.relationshipType request.sourceId request.targetId e = true ↔
      e.key = request.key := by
  have hkey : Edge.between request.key.1 request.key.2.1 request.key.2.2 e = true ↔
      e.key = request.key := Graph.between_key
  exact hkey

theorem statement_eq (h : request.Bound) (g : Graph) :
    request.statement g = (((g.upsert request.upsert).edges.filter fun e => e.key = request.key).map
      (fun r => [("elementId", .str r.id)]), g.upsert request.upsert) := by
  rw [statement, h.1, h.2]
  have hkey : (fun e : Edge => decide (e.key = request.key)) =
      Edge.between request.relationshipType request.sourceId request.targetId := by
    funext e
    rw [Bool.eq_iff_iff, decide_eq_true_iff]
    exact between_request.symm
  rw [hkey]
  rfl

theorem head?_statement (h : request.Bound) (g : Graph) :
    (request.statement g).1.head?.isSome = decide (g.HasEnds request.key) := by
  have hmerged : (g.upsert request.upsert).Linked request.relationshipType request.sourceId
      request.targetId ↔ g.HasEnds request.key := by
    refine Graph.linked_mergeEdge.trans ⟨?_, fun hends => .inr ⟨⟨rfl, rfl, rfl⟩, hends⟩⟩
    rintro (hold | ⟨-, hends⟩)
    · exact hold.mem
    · exact hends
  rw [statement_eq h, Bool.eq_iff_iff, decide_eq_true_iff, ← hmerged, List.head?_map,
    Option.isSome_map, Option.isSome_iff_ne_none, Ne, List.head?_eq_none_iff,
    List.filter_eq_nil_iff]
  constructor
  · intro hsome
    by_contra hnone
    exact hsome fun e he hkey => hnone ⟨e, he, between_request.2 (of_decide_eq_true hkey)⟩
  · rintro ⟨e, he, hbetween⟩ hnone
    exact hnone e he (decide_eq_true (between_request.1 hbetween))

theorem upsert_of_not_ends (h : ¬ g.HasEnds request.key) : g.upsert request.upsert = g :=
  Graph.mergeEdge_of_absent h

theorem after_statement (h : request.Bound) (o : Outcome) (g : Graph) :
    o.after request.statement g =
      if g.HasEnds request.key ∧ o.applied = true then g.upsert request.upsert else g := by
  rw [Outcome.after, statement_eq h]
  by_cases hends : g.HasEnds request.key
  · simp [hends]
  · simp [hends, upsert_of_not_ends hends]

theorem nodeIds_after (h : request.Bound) (o : Outcome) (g : Graph) :
    (o.after request.statement g).nodeIds = g.nodeIds := by
  rw [after_statement h]
  split
  · exact Graph.upsert_nodeIds
  · rfl

end CreateRelationshipRequest

section Answered

variable (env : Env) (request : α → CreateRelationshipRequest) (out : Outcome → Bool)

/-- Those of the items, each with its own statement from the call `clock` on,
whose statement comes out so between two nodes of the graph. -/
def answered (g : Graph) (clock : Nat) (items : List α) : List α :=
  ((items.zipIdx clock).filter fun x =>
    decide (g.HasEnds (request x.1).key) && out (env.outcome x.2)).map Prod.fst

@[simp] theorem answered_nil (g : Graph) (clock : Nat) :
    answered env request out g clock [] = [] := rfl

theorem answered_cons (g : Graph) (clock : Nat) (x : α) (items : List α) :
    answered env request out g clock (x :: items) =
      if g.HasEnds (request x).key ∧ out (env.outcome clock) = true
      then x :: answered env request out g (clock + 1) items
      else answered env request out g (clock + 1) items := by
  rw [answered, List.zipIdx_cons, List.filter_cons]
  by_cases hx : g.HasEnds (request x).key ∧ out (env.outcome clock) = true
  · rw [if_pos (by simp [hx]), if_pos hx]
    rfl
  · rw [if_neg (by simpa using hx), if_neg hx]
    rfl

theorem answered_congr {g g' : Graph} (h : g'.nodeIds = g.nodeIds) (clock : Nat) (items : List α) :
    answered env request out g' clock items = answered env request out g clock items := by
  have hends : ∀ key, decide (g'.HasEnds key) = decide (g.HasEnds key) := by
    intro key
    rw [decide_eq_decide, Graph.HasEnds, h, Graph.HasEnds]
  simp only [answered, hends]

theorem hasEnds_of_mem_answered {g : Graph} {clock : Nat} {items : List α} {x : α}
    (h : x ∈ answered env request out g clock items) : g.HasEnds (request x).key := by
  obtain ⟨y, hy, rfl⟩ := List.mem_map.1 h
  have hout := (List.mem_filter.1 hy).2
  rw [Bool.and_eq_true, decide_eq_true_iff] at hout
  exact hout.1

theorem mem_of_mem_answered {g : Graph} {clock : Nat} {items : List α} {x : α}
    (h : x ∈ answered env request out g clock items) : x ∈ items := by
  obtain ⟨⟨y, i⟩, hy, rfl⟩ := List.mem_map.1 h
  exact List.fst_mem_of_mem_zipIdx (List.mem_filter.1 hy).1

end Answered

def merges (requests : List CreateRelationshipRequest) (g : Graph) : Graph :=
  (requests.map (·.upsert)).foldl Graph.upsert g

theorem merges_cons (request : CreateRelationshipRequest)
    (requests : List CreateRelationshipRequest) (g : Graph) :
    merges (request :: requests) g = merges requests (g.upsert request.upsert) := rfl

theorem merges_append (requests requests' : List CreateRelationshipRequest) (g : Graph) :
    merges (requests ++ requests') g = merges requests' (merges requests g) := by
  rw [merges, List.map_append, List.foldl_append]
  rfl

@[simp] theorem merges_nodeIds (requests : List CreateRelationshipRequest) (g : Graph) :
    (merges requests g).nodeIds = g.nodeIds := by
  induction requests generalizing g with
  | nil => rfl
  | cons request requests ih => rw [merges_cons, ih, Graph.upsert_nodeIds]

theorem merges_answered_cons {env : Env} {request : α → CreateRelationshipRequest} {x : α}
    (hbound : (request x).Bound) (items : List α) (w : World) :
    merges ((answered env request Outcome.applied w.graph w.clock (x :: items)).map request)
        w.graph =
      merges ((answered env request Outcome.applied
        ((env.outcome w.clock).after (request x).statement w.graph) (w.clock + 1) items).map
          request) ((env.outcome w.clock).after (request x).statement w.graph) := by
  rw [answered_congr env request Outcome.applied
    (CreateRelationshipRequest.nodeIds_after hbound _ w.graph), answered_cons,
    CreateRelationshipRequest.after_statement hbound]
  by_cases hx : w.graph.HasEnds (request x).key ∧ (env.outcome w.clock).applied = true
  · rw [if_pos hx, if_pos hx, List.map_cons, merges_cons]
  · rw [if_neg hx, if_neg hx]

end AtlasOfUs.GraphApi
