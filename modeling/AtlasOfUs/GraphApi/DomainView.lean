import AtlasOfUs.GraphApi.DomainService
import AtlasOfUs.Statements
import Mathlib.Data.List.Dedup
import Mathlib.Data.Prod.Lex
import Mathlib.Data.String.Basic
import Mathlib.Algebra.Order.Field.Rat

namespace AtlasOfUs.GraphApi

open Library

inductive NodeType
  | knowledge
  | skill
  | trait
  | milestone
  deriving DecidableEq, Repr

namespace NodeType

def name : NodeType → String
  | knowledge => "knowledge"
  | skill => "skill"
  | trait => "trait"
  | milestone => "milestone"

def label : NodeType → String
  | knowledge => "Knowledge"
  | skill => "Skill"
  | trait => "Trait"
  | milestone => "Milestone"

def relType : NodeType → String
  | knowledge => "REQUIRES_KNOWLEDGE"
  | skill => "REQUIRES_SKILL"
  | trait => "REQUIRES_TRAIT"
  | milestone => "REQUIRES_MILESTONE"

/-- The property that only nodes of this type have, and its name in the result. -/
def detail : NodeType → String × String
  | knowledge => ("how_to_learn", "howToLearn")
  | skill => ("how_to_develop", "howToDevelop")
  | trait => ("measurement_criteria", "measurementCriteria")
  | milestone => ("how_to_achieve", "howToAchieve")

def threshold : NodeType → Option (String × String)
  | knowledge => some ("bloom_level", "bloomLevel")
  | skill => some ("dreyfus_level", "dreyfusLevel")
  | trait => some ("min_score", "minScore")
  | milestone => none

theorem relType_injective : Function.Injective relType := by
  intro type type' h
  cases type <;> cases type' <;> first | rfl | simp [relType] at h

def generalizes : NodeType → Bool
  | knowledge | skill => true
  | trait | milestone => false

end NodeType

structure NodeView where
  elementId : ElementId
  name : Option Value
  description : Option Value
  detail : Option Value
  threshold : Option Value
  generalizesTo : Option (ElementId × Option Value)
  deriving DecidableEq

structure LevelView where
  elementId : ElementId
  level : Option Value
  name : Option Value
  description : Option Value
  pointsRequired : Option Value
  nodes : NodeType → List NodeView

structure DomainView where
  elementId : ElementId
  name : Option Value
  description : Option Value
  levels : List LevelView

/-- `OPTIONAL MATCH (n)-[:GENERALIZES_TO]->(general:Label)`: one row for each match, else one of null. -/
def generalizations (g : Graph) (type : NodeType) (id : ElementId) :
    List (Option (ElementId × Option Value)) :=
  let found := (g.edges.filter (fun e => e.type = "GENERALIZES_TO" && e.source = id)).flatMap
    (fun e => (g.nodes.filter (isNode type.label e.target)).map (fun n => (n.id, n.props "name")))
  if type.generalizes && !found.isEmpty then found.map some else [none]

def nodeView (type : NodeType) (n : Node) (r : Edge)
    (generalizesTo : Option (ElementId × Option Value)) : NodeView where
  elementId := n.id
  name := n.props "name"
  description := n.props "description"
  detail := n.props type.detail.1
  threshold := type.threshold.bind (fun keys => r.props keys.1)
  generalizesTo := generalizesTo

/-- `collect(DISTINCT CASE WHEN n IS NOT NULL THEN ... END)` for one level and one
type. The other optional matches of the query repeat these rows, which DISTINCT undoes. -/
def nodeViews (g : Graph) (levelId : ElementId) (type : NodeType) : List NodeView :=
  ((g.edges.filter (fun r => r.type = type.relType && r.source = levelId)).flatMap (fun r =>
    (g.nodes.filter (isNode type.label r.target)).flatMap (fun n =>
      (generalizations g type n.id).map (nodeView type n r)))).dedup

def levelView (g : Graph) (l : Node) : LevelView where
  elementId := l.id
  level := l.props "level"
  name := l.props "name"
  description := l.props "description"
  pointsRequired := l.props "total_points_required"
  nodes := nodeViews g l.id

/-- How `ORDER BY` ranks a value: lists, strings, booleans, numbers, null. -/
def orderKey : Option Value → Nat ×ₗ ℚ ×ₗ String
  | some (.list _) => toLex (0, toLex (0, ""))
  | some (.str s) => toLex (1, toLex (0, s))
  | some (.bool b) => toLex (2, toLex ((b.toNat : ℚ), ""))
  | some (.int i) => toLex (3, toLex ((i : ℚ), ""))
  | some (.float q) => toLex (3, toLex (q, ""))
  | none => toLex (4, toLex (0, ""))

def levelBefore (a b : LevelView) : Bool := orderKey a.level ≤ orderKey b.level

def domainView (g : Graph) (d : Node) : DomainView where
  elementId := d.id
  name := d.props "name"
  description := d.props "description"
  levels := ((g.nodes.filter (isLevelOf g d.id)).map (levelView g)).mergeSort levelBefore

def NodeView.toJson (type : NodeType) (v : NodeView) : Json :=
  .object ([("elementId", .str v.elementId), ("type", .str type.name), ("name", propJson v.name),
    ("description", propJson v.description), (type.detail.2, propJson v.detail)] ++
    (type.threshold.map (fun keys => (keys.2, propJson v.threshold))).toList ++
    if type.generalizes then
      [("generalizesTo", (v.generalizesTo.map (fun general =>
        Json.object [("elementId", .str general.1), ("name", propJson general.2)])).getD .null)]
    else [])

def LevelView.toJson (v : LevelView) : Json :=
  .object [("elementId", .str v.elementId), ("level", propJson v.level), ("name", propJson v.name),
    ("description", propJson v.description), ("pointsRequired", propJson v.pointsRequired),
    ("knowledge", .array ((v.nodes .knowledge).map (NodeView.toJson .knowledge))),
    ("skills", .array ((v.nodes .skill).map (NodeView.toJson .skill))),
    ("traits", .array ((v.nodes .trait).map (NodeView.toJson .trait))),
    ("milestones", .array ((v.nodes .milestone).map (NodeView.toJson .milestone)))]

def DomainView.toJson (v : DomainView) : Json :=
  .object [("elementId", .str v.elementId), ("name", propJson v.name),
    ("description", propJson v.description), ("levels", .array (v.levels.map LevelView.toJson))]

/-- `MATCH (domain:Domain {name: $name}) ... RETURN {...} AS result`. -/
def getDomainStatement (name : String) : Statement := fun g =>
  ((g.nodes.filter (isNamed "Domain" name)).map (fun d => [("result", (domainView g d).toJson)]), g)

/-- Get a domain with all its levels and requirements. -/
def getDomain (name : String) : Api (Option Json) := do
  match ← execute (getDomainStatement name) with
  | .ok result =>
      match result.firstRow with
      | some row =>
          match (row.get "result").getD .null with
          | .null => return none
          | domainData => return some domainData
      | none => return none
  | .error e => .fail (.databaseError ("Database error: " ++ e))

theorem mem_nodeViews {g : Graph} {levelId : ElementId} {type : NodeType} {v : NodeView} :
    v ∈ nodeViews g levelId type ↔
      ∃ r ∈ g.edges, r.type = type.relType ∧ r.source = levelId ∧
        ∃ n ∈ g.nodes, isNode type.label r.target n = true ∧
          ∃ general ∈ generalizations g type n.id, v = nodeView type n r general := by
  simp only [nodeViews, List.mem_dedup, List.mem_flatMap, List.mem_filter, List.mem_map,
    Bool.and_eq_true, decide_eq_true_eq]
  constructor
  · rintro ⟨r, ⟨hr, htype, hsource⟩, n, ⟨hn, htarget⟩, general, hgeneral, rfl⟩
    exact ⟨r, hr, htype, hsource, n, hn, htarget, general, hgeneral, rfl⟩
  · rintro ⟨r, hr, htype, hsource, n, hn, htarget, general, hgeneral, rfl⟩
    exact ⟨r, ⟨hr, htype, hsource⟩, n, ⟨hn, htarget⟩, general, hgeneral, rfl⟩

theorem hasNode_of_mem_nodeViews {g : Graph} {levelId : ElementId} {type : NodeType} {v : NodeView}
    (h : v ∈ nodeViews g levelId type) : hasNode g type.label v.elementId = true := by
  obtain ⟨r, -, -, -, n, hn, htarget, general, -, rfl⟩ := mem_nodeViews.1 h
  refine List.any_eq_true.2 ⟨n, hn, ?_⟩
  simp only [isNode, Bool.and_eq_true, decide_eq_true_eq] at htarget ⊢
  exact ⟨rfl, htarget.2⟩

theorem mem_levels_domainView {g : Graph} {d : Node} {v : LevelView} :
    v ∈ (domainView g d).levels ↔ ∃ l ∈ g.nodes, isLevelOf g d.id l = true ∧ v = levelView g l := by
  simp only [domainView, List.mem_mergeSort, List.mem_map, List.mem_filter]
  constructor
  · rintro ⟨l, ⟨hl, hlevel⟩, rfl⟩
    exact ⟨l, hl, hlevel, rfl⟩
  · rintro ⟨l, hl, hlevel, rfl⟩
    exact ⟨l, ⟨hl, hlevel⟩, rfl⟩

section Order

theorem levelBefore_trans (a b c : LevelView) (hab : levelBefore a b = true)
    (hbc : levelBefore b c = true) : levelBefore a c = true := by
  simp only [levelBefore, decide_eq_true_eq] at hab hbc ⊢
  exact hab.trans hbc

theorem levelBefore_total (a b : LevelView) : (levelBefore a b || levelBefore b a) = true := by
  simp only [levelBefore, Bool.or_eq_true, decide_eq_true_eq]
  exact le_total _ _

theorem pairwise_levels_domainView (g : Graph) (d : Node) :
    ((domainView g d).levels.map LevelView.level).Pairwise (fun a b => orderKey a ≤ orderKey b) := by
  have hsorted := List.pairwise_mergeSort levelBefore_trans levelBefore_total
    ((g.nodes.filter (isLevelOf g d.id)).map (levelView g))
  rw [List.pairwise_map]
  exact hsorted.imp (fun {a b} h => by simpa [levelBefore] using h)

end Order

theorem exec_getDomain_graph (env : Env) (name : String) (w : World) :
    (env.exec (getDomain name) w).state.graph = w.graph := by
  have hkeep (o : Outcome) : o.after (getDomainStatement name) w.graph = w.graph := by
    rw [Outcome.after]
    split <;> rfl
  rw [getDomain, exec_bind, exec_execute, Execution.andThen_ok, hkeep]
  cases (env.outcome w.clock).reply (getDomainStatement name w.graph).1 with
  | error e => rfl
  | ok rs =>
      simp only
      split
      · split <;> rfl
      · rfl

theorem exec_getDomain {env : Env} {name : String} {w : World} {domainData : Json}
    (h : (env.exec (getDomain name) w).exit = .ok (some domainData)) :
    ∃ d ∈ w.graph.nodes, isNamed "Domain" name d = true ∧
      domainData = (domainView w.graph d).toJson := by
  have hrow := (env.outcome w.clock).firstRow_eq (getDomainStatement name w.graph).1
  rw [Outcome.firstRow] at hrow
  rw [getDomain, exec_bind, exec_execute, Execution.andThen_ok] at h
  cases hreply : (env.outcome w.clock).reply (getDomainStatement name w.graph).1 with
  | error e =>
      rw [hreply] at h
      cases h
  | ok rs =>
      rw [hreply] at hrow h
      simp only at hrow h
      rw [hrow] at h
      split_ifs at h with hret
      · cases hfound : w.graph.nodes.filter (isNamed "Domain" name) with
        | nil =>
            rw [getDomainStatement, hfound] at h
            cases h
        | cons d ds =>
            have hd : d ∈ w.graph.nodes.filter (isNamed "Domain" name) := hfound ▸ List.mem_cons_self
            rw [getDomainStatement, hfound] at h
            refine ⟨d, List.mem_of_mem_filter hd, (List.mem_filter.1 hd).2, ?_⟩
            exact (Option.some.inj (Exit.ok.inj h)).symm
      · cases h

theorem exec_getDomain_done {env : Env} (name : String) {w : World}
    (h : env.outcome w.clock = .done) :
    (env.exec (getDomain name) w).exit =
      .ok ((w.graph.nodes.find? (isNamed "Domain" name)).map fun d =>
        (domainView w.graph d).toJson) := by
  rw [getDomain, exec_bind, exec_execute, Execution.andThen_ok, h, Outcome.reply_done]
  simp only [RowStream.firstRow, getDomainStatement, List.head?_map, List.head?_filter]
  cases w.graph.nodes.find? (isNamed "Domain" name) with
  | none => rfl
  | some d => rfl

end AtlasOfUs.GraphApi
