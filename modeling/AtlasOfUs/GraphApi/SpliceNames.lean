import AtlasOfUs.GraphApi.SearchLiterals
import AtlasOfUs.Library.CypherEscapes

namespace AtlasOfUs.GraphApi.QueryText

open Library.Cypher Text

variable {α : Alphabet}

def propertyPieces (x key : String) : List Piece :=
  [.text (x ++ ".").toList, .bare key.toList, .text " = $".toList, .bare key.toList]

theorem render_propertyPieces (x key : String) :
    render (propertyPieces x key) = (setClause x key).toList := by
  simp [propertyPieces, setClause, render, Piece.render]

theorem allLegal_propertyPieces (x key : String) :
    AllLegal α (propertyPieces x key) ↔ Identifier α key.toList := by
  simp [propertyPieces, Piece.Legal]

theorem separated_propertyPieces {x : String} (hx : plain x.toList = true) (key : String)
    {rest : List Char} (hrest : Stops α rest) : Separated α rest (propertyPieces x key) := by
  have hdot : Closed α (x ++ ".").toList := by
    rw [String.toList_append]
    exact closed_of_plain hx (by decide)
  have hequals : Closed α (" =".toList ++ [' ']) := closed_of_plain (by decide) (by decide)
  refine ⟨.inl hdot, ?_, .inl (closed_dollar hequals), ?_, trivial⟩
  · exact stops_cons (α.part_delimiter ' ' (by decide)) _
  · exact hrest

def setPieces (x : String) (keys : List String) : List Piece :=
  joined ", ".toList (keys.map (propertyPieces x))

theorem render_setPieces (x : String) (keys : List String) :
    render (setPieces x keys) = (join ", " (keys.map (setClause x))).toList :=
  render_joined ", " (render_propertyPieces x) keys

theorem allLegal_setPieces (x : String) (keys : List String) :
    AllLegal α (setPieces x keys) ↔ ∀ key ∈ keys, Identifier α key.toList := by
  simp [setPieces, allLegal_propertyPieces]

theorem separated_setPieces {x : String} (hx : plain x.toList = true) (keys : List String)
    {rest : List Char} (hrest : Stops α rest) : Separated α rest (setPieces x keys) := by
  have hcomma : Closed α (",".toList ++ [' ']) := closed_of_plain (by decide) (by decide)
  apply separated_joined
  · exact hcomma
  · intro ps hps r hr
    obtain ⟨key, -, rfl⟩ := List.mem_map.1 hps
    exact separated_propertyPieces hx key hr
  · intro r
    exact stops_cons (α.part_delimiter ',' (by decide)) _
  · exact hrest

structure Spares (P : Piece → Prop) : Prop where
  text : ∀ s, '\\' ∉ s → P (.text s)
  bare : ∀ s, P (.bare s)

theorem spares_unslashed : Spares Piece.Unslashed := ⟨fun _ h => h, fun _ => trivial⟩

theorem spares_kept : Spares Piece.Kept := ⟨fun _ _ => trivial, fun _ => trivial⟩

theorem Spares.setPieces {P : Piece → Prop} (h : Spares P) {x : String} (hx : '\\' ∉ x.toList)
    (keys : List String) : ∀ p ∈ setPieces x keys, P p := by
  have hdot : '\\' ∉ (x ++ ".").toList := by
    rw [String.toList_append, List.mem_append, not_or]
    exact ⟨hx, by decide⟩
  rw [QueryText.setPieces, forall_mem_joined (h.text _ (by decide)), List.forall_mem_map]
  intro key _
  simp only [propertyPieces, List.forall_mem_cons]
  exact ⟨h.text _ hdot, h.bare _, h.text _ (by decide), h.bare _, List.forall_mem_nil _⟩

theorem unslashed_toString (depth : Int) : '\\' ∉ (toString depth).toList := by
  have hdigits : ∀ n : Nat, '\\' ∉ n.repr.toList := by
    intro n hslash
    rw [Nat.toList_repr] at hslash
    have hdigit := Nat.isDigit_of_mem_toDigits (by decide) (by decide) hslash
    exact absurd hdigit (by decide)
  cases depth with
  | ofNat n => exact hdigits n
  | negSucc n =>
      have hneg : (toString (Int.negSucc n)).toList = '-' :: (n + 1).repr.toList := by
        change ("-" ++ (n + 1).repr).toList = _
        rw [String.toList_append]
        rfl
      rw [hneg, List.mem_cons, not_or]
      exact ⟨by decide, hdigits _⟩

theorem unslashed_join {sep : String} {xs : List String} (hsep : '\\' ∉ sep.toList)
    (h : ∀ x ∈ xs, '\\' ∉ x.toList) : '\\' ∉ (join sep xs).toList := by
  induction xs with
  | nil => exact List.not_mem_nil
  | cons x xs ih =>
      rw [List.forall_mem_cons] at h
      cases xs with
      | nil => exact h.1
      | cons y ys =>
          rw [join, String.toList_append, String.toList_append, List.mem_append, List.mem_append,
            not_or, not_or]
          exact ⟨⟨h.1, hsep⟩, ih h.2⟩

theorem unslashed_ofList {cs : List Char} (h : '\\' ∉ cs) : '\\' ∉ (String.ofList cs).toList := by
  rwa [String.toList_ofList]

theorem unslashed_fragment (depth : Int) :
    '\\' ∉ (nodeWithRelationshipsQueryFragment depth).toList := by
  rw [nodeWithRelationshipsQueryFragment, String.toList_append, List.mem_append, not_or]
  refine ⟨by decide, unslashed_join (by decide) (List.forall_mem_cons.2 ⟨?_, ?_⟩)⟩
  · rw [String.toList_append, String.toList_append, List.mem_append, List.mem_append, not_or, not_or]
    exact ⟨⟨unslashed_ofList (by decide), unslashed_toString depth⟩, by decide⟩
  · repeat refine List.forall_mem_cons.2 ⟨unslashed_ofList (by decide), ?_⟩
    exact List.forall_mem_nil _

theorem plain_append {a b : String} (ha : plain a.toList = true) (hb : plain b.toList = true) :
    plain (a ++ b).toList = true := by
  rw [String.toList_append, plain, List.all_append, Bool.and_eq_true]
  exact ⟨ha, hb⟩

theorem closed_append {a b : String} (ha : plain a.toList = true) (hb : closes b.toList = true) :
    Closed α (a ++ b).toList := by
  rw [String.toList_append]
  exact closed_of_closes (closes_append ha hb)

section CreateNode

def labelPieces (labels : List String) : List Piece :=
  joined ":".toList (labels.map (fun label => [.bare label.toList]))

def createNodePieces (labels keys : List String) : List Piece :=
  .text ("CREATE (n" ++ ":").toList :: (labelPieces labels ++
    (.text ") SET ".toList :: (setPieces "n" keys ++
      [.text " RETURN elementId(n) AS elementId, n.name AS name".toList])))

theorem render_labelPieces (labels : List String) :
    render (labelPieces labels) = (join ":" labels).toList := by
  have hname : ∀ label : String, render [.bare label.toList] = (id label).toList := fun label => by
    simp [Piece.render]
  rw [labelPieces, render_joined ":" hname, List.map_id]

theorem separated_createNodePieces (labels keys : List String) :
    Separated α [] (createNodePieces labels keys) := by
  apply Separated.text_cons (closed_of_closes (by decide))
  apply Separated.append
  · apply separated_joined
    · exact closed_of_closes (by decide)
    · intro ps hps r hr
      obtain ⟨label, -, rfl⟩ := List.mem_map.1 hps
      exact ⟨hr, trivial⟩
    · intro r
      exact stops_cons (α.part_delimiter ':' (by decide)) _
    · exact stops_cons (α.part_delimiter ')' (by decide)) _
  · apply Separated.text_cons (closed_of_closes (by decide))
    apply Separated.append _ (separated_text _)
    apply separated_setPieces (by decide)
    exact stops_cons (α.part_delimiter ' ' (by decide)) _

theorem Spares.createNodePieces {P : Piece → Prop} (h : Spares P) (labels keys : List String) :
    ∀ p ∈ createNodePieces labels keys, P p := by
  simp only [QueryText.createNodePieces, labelPieces, List.forall_mem_cons, List.forall_mem_append,
    forall_mem_joined (h.text ":".toList (by decide)), List.forall_mem_map]
  exact ⟨h.text _ (by decide), fun _ _ => ⟨h.bare _, List.forall_mem_nil _⟩, h.text _ (by decide),
    h.setPieces (by decide) keys, h.text _ (by decide), List.forall_mem_nil _⟩

section

variable (hα : α.part '\\' = false)

include hα

theorem createNode_names_iff (labels keys : List String) :
    scan α (createNode labels keys).toList = some (expected α (createNodePieces labels keys)) ↔
      (∀ label ∈ labels, Identifier α label.toList) ∧ ∀ key ∈ keys, Identifier α key.toList := by
  have hlegal : AllLegal α (createNodePieces labels keys) ↔
      (∀ label ∈ labels, Identifier α label.toList) ∧ ∀ key ∈ keys, Identifier α key.toList := by
    simp [createNodePieces, labelPieces, allLegal_setPieces, Piece.Legal]
  have hrender : render (createNodePieces labels keys) = (createNode labels keys).toList := by
    simp only [createNodePieces, createNode, render_cons, render_append, render_nil, Piece.render,
      render_labelPieces, render_setPieces, String.toList_append, List.append_assoc,
      List.append_nil]
  rw [scan_eq_expected_iff hα (fun _ => hrender) (separated_createNodePieces labels keys)
    (spares_unslashed.createNodePieces labels keys), hlegal]
  exact and_iff_left (spares_kept.createNodePieces labels keys)

end

end CreateNode

section GetNodes

def matchPieces (labels : Option (List String)) : List Piece :=
  match labels with
  | some labels => joined "\n".toList (labels.map (fun label =>
      [.text "MATCH (node:".toList, .ticked label.toList, .text ")".toList]))
  | none => [.text "MATCH (node)".toList]

def conditionPieces (kv : String × String) : List Piece :=
  if kv.1 = "elementId" then [.text "elementId(node) = ".toList, .value kv.2.toList]
  else [.text "node.".toList, .bare kv.1.toList, .text " = ".toList, .value kv.2.toList]

def conditionsPieces (properties : PropertyMap) : List Piece :=
  joined " AND ".toList ((searched properties).map conditionPieces)

def getNodesPieces (labels : Option (List String)) (properties : PropertyMap) (depth : Int) :
    List Piece :=
  matchPieces labels ++
    ((if searched properties = [] then []
      else .text "\nWHERE ".toList :: conditionsPieces properties) ++
    [.text (nodeWithRelationshipsQueryFragment depth).toList])

/-- Labels that stay in their backticks, keys that are names and values that stay in their quotes. -/
def GetNodesLegal (α : Alphabet) (labels : Option (List String)) (properties : PropertyMap) : Prop :=
  (∀ label ∈ labels.getD [], '`' ∉ label.toList) ∧
    ∀ kv ∈ searched properties,
      (kv.1 = "elementId" ∨ Identifier α kv.1.toList) ∧ Unescaped kv.2.toList

theorem render_matchPieces (labels : Option (List String)) :
    render (matchPieces labels) = (matchText labels).toList := by
  cases labels with
  | none => exact List.append_nil _
  | some labels =>
      refine render_joined "\n" (fun label => ?_) labels
      simp only [render_cons, render_nil, Piece.render, String.toList_append, List.append_assoc,
        List.append_nil, List.cons_append, List.nil_append]
      rfl

theorem render_conditionPieces (kv : String × String) :
    render (conditionPieces kv) = (whereClause kv.1 kv.2).toList := by
  unfold conditionPieces whereClause
  by_cases hkey : kv.1 = "elementId"
  · rw [if_pos hkey, if_pos hkey]
    simp [Piece.render]
  · rw [if_neg hkey, if_neg hkey]
    simp [Piece.render]

theorem render_getNodesPieces (labels : Option (List String)) (properties : PropertyMap)
    (depth : Int) :
    render (getNodesPieces labels properties depth) =
      (getNodesWithRelationships labels properties depth).toList := by
  have hconditions : render (conditionsPieces properties) = (whereText properties).toList :=
    render_joined " AND " render_conditionPieces _
  unfold getNodesPieces getNodesWithRelationships
  rw [render_append, render_append, render_matchPieces, render_cons, render_nil, List.append_nil,
    String.toList_append, Piece.render]
  by_cases hnone : searched properties = []
  · rw [if_pos hnone, if_pos hnone]
    rfl
  · rw [if_neg hnone, if_neg hnone, render_cons, hconditions, String.toList_append,
      String.toList_append, List.append_assoc, List.append_assoc, List.append_assoc, Piece.render]

theorem separated_matchPieces (labels : Option (List String)) {rest : List Char}
    (hrest : Stops α rest) : Separated α rest (matchPieces labels) := by
  cases labels with
  | none =>
      exact Separated.text_cons (closed_of_closes (by decide)) trivial
  | some labels =>
      apply separated_joined
      · exact closed_of_closes (by decide)
      · intro ps hps r _
        obtain ⟨label, -, rfl⟩ := List.mem_map.1 hps
        apply Separated.text_cons (closed_of_closes (by decide))
        refine ⟨fun c hc => ?_, Separated.text_cons (closed_of_closes (by decide)) trivial⟩
        rw [← Option.some.inj hc]
        decide
      · intro r
        exact stops_cons (α.part_delimiter '\n' (by decide)) _
      · exact hrest

theorem separated_conditionPieces (kv : String × String) (rest : List Char) :
    Separated α rest (conditionPieces kv) := by
  unfold conditionPieces
  split
  · exact Separated.text_cons (closed_of_closes (by decide))
      ⟨trivial, trivial⟩
  · apply Separated.text_cons (closed_of_closes (by decide))
    refine ⟨stops_cons (α.part_delimiter ' ' (by decide)) _, ?_⟩
    exact Separated.text_cons (closed_of_closes (by decide)) ⟨trivial, trivial⟩

theorem separated_getNodesPieces (labels : Option (List String)) (properties : PropertyMap)
    (depth : Int) : Separated α [] (getNodesPieces labels properties depth) := by
  have hfragment := stops_fragment (α := α) depth
  apply Separated.append
  · apply separated_matchPieces
    by_cases hnone : searched properties = []
    · rw [if_pos hnone]
      simpa [Piece.render] using hfragment
    · rw [if_neg hnone]
      exact stops_cons (α.part_delimiter '\n' (by decide)) _
  · apply Separated.append _ (separated_text _)
    split
    · trivial
    · apply Separated.text_cons (closed_of_closes (by decide))
      apply separated_joined
      · exact closed_of_closes (by decide)
      · intro ps hps r _
        obtain ⟨kv, -, rfl⟩ := List.mem_map.1 hps
        exact separated_conditionPieces kv r
      · intro r
        exact stops_cons (α.part_delimiter ' ' (by decide)) _
      · simpa [Piece.render] using hfragment

theorem allLegal_conditionPieces (kv : String × String) :
    AllLegal α (conditionPieces kv) ↔
      (kv.1 = "elementId" ∨ Identifier α kv.1.toList) ∧ Unescaped kv.2.toList := by
  unfold conditionPieces
  by_cases hkey : kv.1 = "elementId"
  · rw [if_pos hkey]
    simp [Piece.Legal, hkey]
  · rw [if_neg hkey]
    simp [Piece.Legal, hkey]

theorem allLegal_getNodesPieces (labels : Option (List String)) (properties : PropertyMap)
    (depth : Int) :
    AllLegal α (getNodesPieces labels properties depth) ↔ GetNodesLegal α labels properties := by
  have hmatch : AllLegal α (matchPieces labels) ↔ ∀ label ∈ labels.getD [], '`' ∉ label.toList := by
    cases labels <;> simp [matchPieces, Piece.Legal]
  have hconditions : AllLegal α (if searched properties = [] then []
      else .text "\nWHERE ".toList :: conditionsPieces properties) ↔
      ∀ kv ∈ searched properties,
        (kv.1 = "elementId" ∨ Identifier α kv.1.toList) ∧ Unescaped kv.2.toList := by
    by_cases hnone : searched properties = []
    · simp [hnone]
    · rw [if_neg hnone, allLegal_cons, conditionsPieces, allLegal_joined, List.forall_mem_map]
      simp only [Piece.Legal, allLegal_conditionPieces, true_and]
  rw [getNodesPieces, allLegal_append, allLegal_append, hmatch, hconditions, GetNodesLegal]
  simp [Piece.Legal]

theorem unslashed_getNodesPieces (labels : Option (List String)) (properties : PropertyMap)
    (depth : Int) : ∀ p ∈ getNodesPieces labels properties depth, p.Unslashed := by
  have hmatch : ∀ p ∈ matchPieces labels, p.Unslashed := by
    cases labels with
    | none => simp [matchPieces, Piece.Unslashed]
    | some labels =>
        rw [matchPieces, forall_mem_joined (by simp [Piece.Unslashed]), List.forall_mem_map]
        simp [Piece.Unslashed]
  have hcondition : ∀ kv, ∀ p ∈ conditionPieces kv, p.Unslashed := by
    intro kv
    unfold conditionPieces
    split <;> simp [Piece.Unslashed]
  have hconditions : ∀ p ∈ (if searched properties = [] then []
      else .text "\nWHERE ".toList :: conditionsPieces properties), p.Unslashed := by
    split
    · exact List.forall_mem_nil _
    · rw [List.forall_mem_cons, conditionsPieces, forall_mem_joined (by simp [Piece.Unslashed]),
        List.forall_mem_map]
      exact ⟨by simp [Piece.Unslashed], fun kv _ => hcondition kv⟩
  rw [getNodesPieces, List.forall_mem_append, List.forall_mem_append, List.forall_mem_singleton]
  exact ⟨hmatch, hconditions, unslashed_fragment depth⟩

theorem kept_getNodesPieces (labels : Option (List String)) (properties : PropertyMap)
    (depth : Int) :
    (∀ p ∈ getNodesPieces labels properties depth, p.Kept) ↔
      ∀ label ∈ labels.getD [], escapes label.toList = false := by
  have hmatch : (∀ p ∈ matchPieces labels, p.Kept) ↔
      ∀ label ∈ labels.getD [], escapes label.toList = false := by
    cases labels with
    | none => simp [matchPieces, Piece.Kept]
    | some labels =>
        rw [matchPieces, forall_mem_joined trivial, List.forall_mem_map]
        simp [Piece.Kept]
  have hcondition : ∀ kv, ∀ p ∈ conditionPieces kv, p.Kept := by
    intro kv
    unfold conditionPieces
    split <;> simp [Piece.Kept]
  have hconditions : ∀ p ∈ (if searched properties = [] then []
      else .text "\nWHERE ".toList :: conditionsPieces properties), p.Kept := by
    split
    · exact List.forall_mem_nil _
    · rw [List.forall_mem_cons, conditionsPieces, forall_mem_joined trivial, List.forall_mem_map]
      exact ⟨trivial, fun kv _ => hcondition kv⟩
  rw [getNodesPieces, List.forall_mem_append, List.forall_mem_append, List.forall_mem_singleton,
    hmatch]
  exact and_iff_left ⟨hconditions, trivial⟩

theorem getNodes_names_iff (hα : α.part '\\' = false) (labels : Option (List String))
    (properties : PropertyMap) (depth : Int) :
    scan α (getNodesWithRelationships labels properties depth).toList =
        some (expected α (getNodesPieces labels properties depth)) ↔
      GetNodesLegal α labels properties ∧
        ∀ label ∈ labels.getD [], escapes label.toList = false := by
  rw [← allLegal_getNodesPieces labels properties depth, ← kept_getNodesPieces labels properties depth]
  apply scan_eq_expected_iff hα
  · exact fun _ => render_getNodesPieces labels properties depth
  · exact separated_getNodesPieces labels properties depth
  · exact unslashed_getNodesPieces labels properties depth

end GetNodes

section UpdateNode

def relabelPieces (labels : Option (List String)) : List Piece :=
  match labels with
  | some labels => .text "REMOVE n:_\n".toList :: labels.flatMap (fun label =>
      [.text "SET n:".toList, .ticked label.toList, .text "\n".toList])
  | none => []

def updateNodePieces (labels : Option (List String)) (keys : List String) : List Piece :=
  .text "MATCH (n)\nWHERE elementId(n) = $targetId\n".toList :: (relabelPieces labels ++
    ((if keys = [] then []
      else .text "SET ".toList :: (setPieces "n" keys ++ [.text "\n".toList])) ++
    [.text "RETURN n".toList]))

theorem toList_join_snoc (sep : String) (xs : List String) (y : String) :
    (join sep (xs ++ [y])).toList = xs.flatMap (fun x => x.toList ++ sep.toList) ++ y.toList := by
  induction xs with
  | nil => rfl
  | cons x xs ih =>
      obtain ⟨z, zs, hzs⟩ := List.exists_cons_of_ne_nil (List.append_ne_nil_of_right_ne_nil xs
        (List.cons_ne_nil y []))
      rw [List.cons_append, hzs, join, ← hzs, String.toList_append, String.toList_append, ih,
        List.flatMap_cons, List.append_assoc, List.append_assoc, List.append_assoc]

theorem render_updateNodePieces (labels : Option (List String)) (keys : List String) :
    render (updateNodePieces labels keys) = (updateNode labels keys).toList := by
  have hlabel : ∀ ls : List String, render (ls.flatMap (fun label =>
      [.text "SET n:".toList, .ticked label.toList, .text "\n".toList])) =
      (ls.map (fun label => "SET n:`" ++ label ++ "`")).flatMap
        (fun x => x.toList ++ "\n".toList) := by
    intro ls
    induction ls with
    | nil => rfl
    | cons l ls ih =>
        rw [List.flatMap_cons, List.map_cons, List.flatMap_cons, render_append, ih]
        simp [Piece.render]
  have hlabels : render (relabelPieces labels) =
      (relabelLines labels).flatMap (fun x => x.toList ++ "\n".toList) := by
    cases labels with
    | none => rfl
    | some ls =>
        rw [relabelPieces, render_cons, hlabel, relabelLines, List.flatMap_cons]
        rfl
  have hset : render (if keys = [] then []
      else .text "SET ".toList :: (setPieces "n" keys ++ [.text "\n".toList])) =
      (setLines keys).flatMap (fun x => x.toList ++ "\n".toList) := by
    unfold setLines
    by_cases hkeys : keys = []
    · rw [if_pos hkeys, if_pos hkeys]
      rfl
    · rw [if_neg hkeys, if_neg hkeys, List.flatMap_singleton, String.toList_append, render_cons,
        render_append, render_setPieces, render_cons, render_nil, List.append_nil,
        List.append_assoc]
      rfl
  have hhead : ["MATCH (n)", "WHERE elementId(n) = $targetId"].flatMap
      (fun x => x.toList ++ "\n".toList) =
      "MATCH (n)\nWHERE elementId(n) = $targetId\n".toList := rfl
  rw [updateNode, toList_join_snoc, List.flatMap_append, List.flatMap_append, hhead, ← hlabels,
    ← hset, updateNodePieces, render_cons, render_append, render_append, render_cons, render_nil,
    List.append_nil, List.append_assoc, List.append_assoc]
  rfl

theorem separated_updateNodePieces (labels : Option (List String)) (keys : List String) :
    Separated α [] (updateNodePieces labels keys) := by
  have hnewline : Closed α "\n".toList := closed_of_closes (by decide)
  have hlabel : ∀ (ls : List String) (rest : List Char), Separated α rest (ls.flatMap (fun label =>
      [.text "SET n:".toList, .ticked label.toList, .text "\n".toList])) := by
    intro ls rest
    induction ls with
    | nil => trivial
    | cons l ls ih =>
        rw [List.flatMap_cons]
        apply Separated.append _ ih
        apply Separated.text_cons (closed_of_closes (by decide))
        refine ⟨fun c hc => ?_, Separated.text_cons hnewline trivial⟩
        rw [← Option.some.inj hc]
        decide
  apply Separated.text_cons
  · exact closed_of_closes (by decide)
  · apply Separated.append
    · cases labels with
      | none => trivial
      | some ls =>
          apply Separated.text_cons (closed_of_closes (by decide))
          exact hlabel ls _
    · apply Separated.append _ (separated_text _)
      split
      · trivial
      · apply Separated.text_cons (closed_of_closes (by decide))
        apply Separated.append _ (separated_closed hnewline _)
        apply separated_setPieces (by decide)
        exact stops_cons (α.part_delimiter '\n' (by decide)) _

theorem unslashed_updateNodePieces (labels : Option (List String)) (keys : List String) :
    ∀ p ∈ updateNodePieces labels keys, p.Unslashed := by
  have hlabels : ∀ p ∈ relabelPieces labels, p.Unslashed := by
    cases labels with
    | none => exact List.forall_mem_nil _
    | some labels =>
        simp only [relabelPieces, List.forall_mem_cons, List.forall_mem_flatMap]
        simp [Piece.Unslashed]
  have hset : ∀ p ∈ (if keys = [] then []
      else .text "SET ".toList :: (setPieces "n" keys ++ [.text "\n".toList])), p.Unslashed := by
    split
    · exact List.forall_mem_nil _
    · rw [List.forall_mem_cons, List.forall_mem_append]
      exact ⟨by simp [Piece.Unslashed], spares_unslashed.setPieces (by decide) keys,
        by simp [Piece.Unslashed]⟩
  rw [updateNodePieces, List.forall_mem_cons, List.forall_mem_append, List.forall_mem_append]
  exact ⟨by simp [Piece.Unslashed], hlabels, hset, by simp [Piece.Unslashed]⟩

theorem kept_updateNodePieces (labels : Option (List String)) (keys : List String) :
    (∀ p ∈ updateNodePieces labels keys, p.Kept) ↔
      ∀ label ∈ labels.getD [], escapes label.toList = false := by
  have hlabels : (∀ p ∈ relabelPieces labels, p.Kept) ↔
      ∀ label ∈ labels.getD [], escapes label.toList = false := by
    cases labels with
    | none => simp [relabelPieces]
    | some labels =>
        simp only [relabelPieces, List.forall_mem_cons, List.forall_mem_flatMap]
        simp [Piece.Kept]
  have hset : ∀ p ∈ (if keys = [] then []
      else .text "SET ".toList :: (setPieces "n" keys ++ [.text "\n".toList])), p.Kept := by
    split
    · exact List.forall_mem_nil _
    · rw [List.forall_mem_cons, List.forall_mem_append]
      exact ⟨trivial, spares_kept.setPieces (by decide) keys, by simp [Piece.Kept]⟩
  rw [updateNodePieces, List.forall_mem_cons, List.forall_mem_append, List.forall_mem_append,
    hlabels]
  exact (and_iff_right trivial).trans (and_iff_left ⟨hset, by simp [Piece.Kept]⟩)

theorem updateNode_names_iff (hα : α.part '\\' = false) (labels : Option (List String))
    (keys : List String) :
    scan α (updateNode labels keys).toList = some (expected α (updateNodePieces labels keys)) ↔
      (∀ label ∈ labels.getD [], '`' ∉ label.toList ∧ escapes label.toList = false) ∧
        ∀ key ∈ keys, Identifier α key.toList := by
  have hlabels : AllLegal α (relabelPieces labels) ↔
      ∀ label ∈ labels.getD [], '`' ∉ label.toList := by
    cases labels <;> simp [relabelPieces, Piece.Legal]
  have hset : AllLegal α (if keys = [] then []
      else .text "SET ".toList :: (setPieces "n" keys ++ [.text "\n".toList])) ↔
      ∀ key ∈ keys, Identifier α key.toList := by
    by_cases hkeys : keys = []
    · simp [hkeys]
    · rw [if_neg hkeys, allLegal_cons, allLegal_append, allLegal_setPieces]
      simp [Piece.Legal]
  have hlegal : AllLegal α (updateNodePieces labels keys) ↔
      (∀ label ∈ labels.getD [], '`' ∉ label.toList) ∧ ∀ key ∈ keys, Identifier α key.toList := by
    rw [updateNodePieces, allLegal_cons, allLegal_append, allLegal_append, hlabels, hset]
    simp [Piece.Legal]
  rw [scan_eq_expected_iff hα (fun _ => render_updateNodePieces labels keys)
    (separated_updateNodePieces labels keys) (unslashed_updateNodePieces labels keys), hlegal,
    kept_updateNodePieces, and_right_comm, ← forall₂_and]

end UpdateNode

section Relationships

def relationshipSetPieces (before x : String) (keys : List String) : List Piece :=
  if keys = [] then [] else .text before.toList :: setPieces x keys

theorem render_relationshipSetPieces (before x : String) (keys : List String) :
    render (relationshipSetPieces before x keys) =
      (if keys = [] then "" else before ++ join ", " (keys.map (setClause x))).toList := by
  unfold relationshipSetPieces
  by_cases hkeys : keys = []
  · rw [if_pos hkeys, if_pos hkeys]
    rfl
  · rw [if_neg hkeys, if_neg hkeys, render_cons, render_setPieces, String.toList_append,
      Piece.render]

theorem allLegal_relationshipSetPieces (before x : String) (keys : List String) :
    AllLegal α (relationshipSetPieces before x keys) ↔ ∀ key ∈ keys, Identifier α key.toList := by
  unfold relationshipSetPieces
  by_cases hkeys : keys = []
  · simp [hkeys]
  · rw [if_neg hkeys, allLegal_cons, allLegal_setPieces]
    exact and_iff_right trivial

theorem separated_relationshipSetPieces {before x : String} (hbefore : Closed α before.toList)
    (hx : plain x.toList = true) (keys : List String) {rest : List Char} (hrest : Stops α rest) :
    Separated α rest (relationshipSetPieces before x keys) := by
  unfold relationshipSetPieces
  split
  · trivial
  · exact Separated.text_cons hbefore (separated_setPieces hx keys hrest)

def typedPieces (head type before x : String) (keys : List String) (last : String) : List Piece :=
  .text head.toList :: .bare type.toList :: .text "]->(target)".toList ::
    (relationshipSetPieces before x keys ++ [.text last.toList])

theorem render_typedPieces (head type before x : String) (keys : List String) (last : String) :
    render (typedPieces head type before x keys last) =
      (head ++ type ++ "]->(target)" ++
        (if keys = [] then "" else before ++ join ", " (keys.map (setClause x))) ++ last).toList := by
  simp only [typedPieces, render_cons, render_append, render_nil, render_relationshipSetPieces,
    Piece.render, String.toList_append, List.append_assoc, List.append_nil]

theorem allLegal_typedPieces (head type before x : String) (keys : List String) (last : String) :
    AllLegal α (typedPieces head type before x keys last) ↔
      Identifier α type.toList ∧ ∀ key ∈ keys, Identifier α key.toList := by
  simp only [typedPieces, allLegal_cons, allLegal_append, allLegal_nil,
    allLegal_relationshipSetPieces, Piece.Legal, true_and, and_true]

theorem separated_typedPieces {head before x last : String} (hhead : Closed α head.toList)
    (hbefore : Closed α before.toList) (hx : plain x.toList = true) (hlast : Stops α last.toList)
    (type : String) (keys : List String) :
    Separated α [] (typedPieces head type before x keys last) := by
  apply Separated.text_cons hhead
  refine ⟨stops_cons (α.part_delimiter ']' (by decide)) _, ?_⟩
  apply Separated.text_cons (closed_of_closes (by decide))
  apply Separated.append _ (separated_text _)
  apply separated_relationshipSetPieces hbefore hx
  rw [render_cons, render_nil, List.append_nil, List.append_nil]
  exact hlast

theorem Spares.typedPieces {P : Piece → Prop} (h : Spares P) {head before x last : String}
    (hhead : '\\' ∉ head.toList) (hbefore : '\\' ∉ before.toList) (hx : '\\' ∉ x.toList)
    (hlast : '\\' ∉ last.toList) (type : String) (keys : List String) :
    ∀ p ∈ typedPieces head type before x keys last, P p := by
  have hset : ∀ p ∈ relationshipSetPieces before x keys, P p := by
    unfold relationshipSetPieces
    split
    · exact List.forall_mem_nil _
    · exact List.forall_mem_cons.2 ⟨h.text _ hbefore, h.setPieces hx keys⟩
  simp only [QueryText.typedPieces, List.forall_mem_cons, List.forall_mem_append]
  exact ⟨h.text _ hhead, h.bare _, h.text _ (by decide), hset, h.text _ hlast,
    List.forall_mem_nil _⟩

def createRelationshipPieces (type : String) (keys : List String) : List Piece :=
  typedPieces
    ("\n            MATCH (source), (target)" ++
      "\n            WHERE elementId(source) = $sourceId AND elementId(target) = $targetId" ++
      "\n            MERGE (source)-[r:")
    type "\n            SET " "r" keys
    "\n            RETURN elementId(r) AS elementId\n            "

theorem Spares.createRelationshipPieces {P : Piece → Prop} (h : Spares P) (type : String)
    (keys : List String) : ∀ p ∈ createRelationshipPieces type keys, P p :=
  h.typedPieces (by decide +kernel) (by decide) (by decide) (by decide) type keys

theorem createRelationship_names_iff (hα : α.part '\\' = false) (type : String)
    (keys : List String) :
    scan α (createRelationship type keys).toList =
        some (expected α (createRelationshipPieces type keys)) ↔
      Identifier α type.toList ∧ ∀ key ∈ keys, Identifier α key.toList := by
  have hrender : render (createRelationshipPieces type keys) =
      (createRelationship type keys).toList := render_typedPieces _ _ _ _ _ _
  have hsep : Separated α [] (createRelationshipPieces type keys) := by
    apply separated_typedPieces
    · apply closed_append (plain_append (by decide) (by decide +kernel))
      decide
    · exact closed_of_closes (by decide)
    · decide
    · exact stops_cons (α.part_delimiter '\n' (by decide)) _
  rw [scan_eq_expected_iff hα (fun _ => hrender) hsep
    (spares_unslashed.createRelationshipPieces type keys), createRelationshipPieces,
    allLegal_typedPieces]
  exact and_iff_left (spares_kept.createRelationshipPieces type keys)

theorem replaceChars_of_no_dot {cs : List Char} (h : '.' ∉ cs) (r : List Char) (n : Nat) :
    replaceChars "r.".toList r n cs = cs := by
  induction cs generalizing n with
  | nil => cases n <;> rfl
  | cons c cs ih =>
      obtain ⟨-, hcs⟩ := not_or.1 (mt List.mem_cons.2 h)
      cases n with
      | zero => rfl
      | succ n =>
          have hno : "r.".toList.isPrefixOf (c :: cs) = false := by
            cases cs with
            | nil => simp [List.isPrefixOf]
            | cons d ds =>
                have hd : ('.' == d) = false :=
                  beq_eq_false_iff_ne.2 (not_or.1 (mt List.mem_cons.2 hcs)).1
                simp [List.isPrefixOf, hd]
          rw [replaceChars, hno, ih hcs]
          rfl

theorem replaceChars_before_clause {a : List Char} (h : '.' ∉ a) (b r : List Char) (n : Nat) :
    replaceChars "r.".toList r (a.length + n) (a ++ 'r' :: '.' :: b) =
      a ++ replaceChars "r.".toList r n ('r' :: '.' :: b) := by
  induction a with
  | nil => simp
  | cons c a ih =>
      obtain ⟨-, ha⟩ := not_or.1 (mt List.mem_cons.2 h)
      have hno : "r.".toList.isPrefixOf (c :: (a ++ 'r' :: '.' :: b)) = false := by
        cases a with
        | nil => simp [List.isPrefixOf]
        | cons d ds =>
            have hd : ('.' == d) = false :=
              beq_eq_false_iff_ne.2 (not_or.1 (mt List.mem_cons.2 ha)).1
            simp [List.isPrefixOf, hd]
      have hlength : (c :: a).length + n = (a.length + n) + 1 := by
        rw [List.length_cons]
        omega
      rw [hlength, List.cons_append, replaceChars, hno, ih ha]
      rfl

def clauseTail (key : String) : List Char := key.toList ++ (" = $".toList ++ key.toList)

theorem toList_setClause (x key : String) :
    (setClause x key).toList = x.toList ++ '.' :: clauseTail key := by
  simp [setClause, clauseTail]

theorem no_dot_clauseTail {key : String} (h : Identifier α key.toList) : '.' ∉ clauseTail key := by
  have hkey : '.' ∉ key.toList := fun hdot => by
    have hpart := h.2 '.' hdot
    rw [α.part_delimiter '.' (by decide)] at hpart
    cases hpart
  simp [clauseTail, hkey]

theorem exists_join_clauses (key : String) (keys : List String) :
    ∃ rest, (join ", " ((key :: keys).map (setClause "r"))).toList = 'r' :: '.' :: rest := by
  cases keys with
  | nil => exact ⟨_, toList_setClause "r" key⟩
  | cons key' keys =>
      refine ⟨clauseTail key ++ (", ".toList ++
        (join ", " ((key' :: keys).map (setClause "r"))).toList), ?_⟩
      rw [List.map_cons, List.map_cons, join, ← List.map_cons, String.toList_append,
        String.toList_append, toList_setClause, List.append_assoc, List.append_assoc]
      rfl

theorem replaceChars_clauses {keys : List String} (h : ∀ key ∈ keys, Identifier α key.toList)
    {n : Nat} (hn : (join ", " (keys.map (setClause "r"))).toList.length ≤ n) :
    replaceChars "r.".toList "newR.".toList n (join ", " (keys.map (setClause "r"))).toList =
      (join ", " (keys.map (setClause "newR"))).toList := by
  induction keys generalizing n with
  | nil => cases n <;> rfl
  | cons key keys ih =>
      have hdot := no_dot_clauseTail (h key List.mem_cons_self)
      cases keys with
      | nil =>
          simp only [List.map_cons, List.map_nil, join, toList_setClause] at hn ⊢
          cases n with
          | zero => cases hn
          | succ n =>
              change "newR.".toList ++ replaceChars "r.".toList _ n (clauseTail key) = _
              rw [replaceChars_of_no_dot hdot]
              rfl
      | cons key' keys =>
          have ih := fun m => @ih (fun k hk => h k (List.mem_cons_of_mem key hk)) m
          obtain ⟨rest, hrest⟩ := exists_join_clauses key' keys
          have htail : '.' ∉ clauseTail key ++ ", ".toList := by
            simp [hdot]
          have hsplit : (join ", " ((key :: key' :: keys).map (setClause "r"))).toList =
              'r' :: '.' :: ((clauseTail key ++ ", ".toList) ++ 'r' :: '.' :: rest) := by
            rw [List.map_cons, List.map_cons, join, ← List.map_cons, String.toList_append,
              String.toList_append, hrest, toList_setClause]
            simp
          have hsplit' : (join ", " ((key :: key' :: keys).map (setClause "newR"))).toList =
              "newR.".toList ++ ((clauseTail key ++ ", ".toList) ++
                (join ", " ((key' :: keys).map (setClause "newR"))).toList) := by
            rw [List.map_cons, List.map_cons, join, ← List.map_cons, String.toList_append,
              String.toList_append, toList_setClause]
            simp
          rw [hsplit] at hn ⊢
          rw [hrest] at ih
          obtain ⟨m, rfl⟩ : ∃ m, n = (clauseTail key ++ ", ".toList).length + m + 1 :=
            ⟨n - (clauseTail key ++ ", ".toList).length - 1, by
              simp only [List.length_cons, List.length_append] at hn ⊢
              omega⟩
          change "newR.".toList ++ replaceChars "r.".toList _ _ (_ ++ 'r' :: '.' :: rest) = _
          rw [replaceChars_before_clause htail, ih m, hsplit']
          simp only [List.length_cons, List.length_append] at hn ⊢
          omega

theorem replace_clauses {keys : List String} (h : ∀ key ∈ keys, Identifier α key.toList) :
    replace (join ", " (keys.map (setClause "r"))) "r." "newR." =
      join ", " (keys.map (setClause "newR")) := by
  rw [replace, replaceChars_clauses h (Nat.le_of_eq String.length_toList), String.ofList_toList]

def updateRelationshipPieces (type : String) (keys : List String) : List Piece :=
  if type ≠ "" then
    typedPieces
      ("\n                MATCH (source)-[r]->(target)" ++
        "\n                WHERE elementId(r) = $targetId" ++
        "\n                CREATE (source)-[newR:")
      type "\n                SET " "newR" keys
      "\n                DELETE r\n                RETURN newR AS r\n                "
  else if keys = [] then [.text (updateRelationship "" []).toList]
  else
    .text ("\n                MATCH ()-[r]->()" ++
      "\n                WHERE elementId(r) = $targetId" ++ "\n                SET ").toList ::
      (setPieces "r" keys ++ [.text "\n                RETURN r\n                ".toList])

theorem Spares.updateRelationshipPieces {P : Piece → Prop} (h : Spares P) (type : String)
    (keys : List String) : ∀ p ∈ updateRelationshipPieces type keys, P p := by
  unfold QueryText.updateRelationshipPieces
  split
  · exact h.typedPieces (by decide +kernel) (by decide) (by decide) (by decide +kernel) type keys
  · split
    · rw [List.forall_mem_singleton]
      exact h.text _ (by decide +kernel)
    · rw [List.forall_mem_cons, List.forall_mem_append, List.forall_mem_singleton]
      exact ⟨h.text _ (by decide +kernel), h.setPieces (by decide) keys, h.text _ (by decide)⟩

theorem allLegal_updateRelationshipPieces (type : String) (keys : List String) :
    AllLegal α (updateRelationshipPieces type keys) ↔
      (type ≠ "" → Identifier α type.toList) ∧ ∀ key ∈ keys, Identifier α key.toList := by
  unfold updateRelationshipPieces
  by_cases htype : type = ""
  · rw [if_neg (not_not_intro htype)]
    by_cases hkeys : keys = []
    · simp [hkeys, htype, Piece.Legal]
    · rw [if_neg hkeys, allLegal_cons, allLegal_append, allLegal_setPieces]
      simp [htype, Piece.Legal]
  · rw [if_pos htype, allLegal_typedPieces, forall_prop_of_true htype]

theorem render_updateRelationshipPieces {type : String} {keys : List String}
    (hlegal : AllLegal α (updateRelationshipPieces type keys)) :
    render (updateRelationshipPieces type keys) = (updateRelationship type keys).toList := by
  have hkeys := ((allLegal_updateRelationshipPieces type keys).1 hlegal).2
  by_cases htype : type = ""
  · rw [updateRelationshipPieces, if_neg (not_not_intro htype)]
    by_cases hnone : keys = []
    · rw [if_pos hnone, hnone, htype]
      exact List.append_nil _
    · rw [if_neg hnone, updateRelationship, if_neg (not_not_intro htype), if_neg hnone]
      simp only [render_cons, render_append, render_nil, render_setPieces, Piece.render,
        String.toList_append, List.append_assoc, List.append_nil]
  · rw [updateRelationshipPieces, if_pos htype, render_typedPieces, updateRelationship,
      if_pos htype, replace_clauses hkeys]

theorem separated_updateRelationshipPieces (type : String) (keys : List String) :
    Separated α [] (updateRelationshipPieces type keys) := by
  unfold updateRelationshipPieces
  split
  · apply separated_typedPieces
    · apply closed_append (plain_append (by decide) (by decide +kernel))
      decide
    · exact closed_of_closes (by decide)
    · decide
    · exact stops_cons (α.part_delimiter '\n' (by decide)) _
  · split
    · exact separated_text _
    · apply Separated.text_cons
      · apply closed_append (plain_append (by decide) (by decide +kernel))
        decide
      · apply Separated.append _ (separated_text _)
        apply separated_setPieces (by decide)
        rw [render_cons, render_nil, List.append_nil, List.append_nil]
        exact stops_cons (α.part_delimiter '\n' (by decide)) _

theorem updateRelationship_names_iff (hα : α.part '\\' = false) (type : String)
    (keys : List String) :
    scan α (updateRelationship type keys).toList =
        some (expected α (updateRelationshipPieces type keys)) ↔
      (type ≠ "" → Identifier α type.toList) ∧ ∀ key ∈ keys, Identifier α key.toList := by
  rw [scan_eq_expected_iff hα render_updateRelationshipPieces
    (separated_updateRelationshipPieces type keys)
    (spares_unslashed.updateRelationshipPieces type keys), allLegal_updateRelationshipPieces]
  exact and_iff_left (spares_kept.updateRelationshipPieces type keys)

end Relationships

theorem identifier_of_letters {s : List Char} (hne : s ≠ []) (hall : s.all Char.isAlpha = true) :
    Identifier α s := by
  have h := List.all_eq_true.1 hall
  cases s with
  | nil => exact absurd rfl hne
  | cons c cs =>
      exact ⟨α.start_letter c (h c List.mem_cons_self),
        fun d hd => α.part_of_start d (α.start_letter d (h d hd))⟩

theorem forall_withEmbedding (keys : List String) :
    (∀ key ∈ withEmbedding keys, Identifier α key.toList) ↔
      ∀ key ∈ keys, Identifier α key.toList := by
  have hembedding : Identifier α "embedding".toList :=
    identifier_of_letters (by decide) (by decide)
  unfold withEmbedding
  split
  · exact Iff.rfl
  · rw [List.forall_mem_append, List.forall_mem_singleton]
    exact and_iff_left hembedding

/-- In each of the five statements the labels, types and keys are tokens of their own, exactly if
those in backticks have no backtick and no escape, and those in the open are names. A search splices
its values too. -/
theorem splicedNames_iff (α : Alphabet) (hα : α.part '\\' = false) :
    (∀ labels properties depth,
      scan α (getNodesWithRelationships labels properties depth).toList =
          some (expected α (getNodesPieces labels properties depth)) ↔
        GetNodesLegal α labels properties ∧
          ∀ label ∈ labels.getD [], escapes label.toList = false) ∧
    (∀ labels keys,
      scan α (createNode labels (withEmbedding keys)).toList =
          some (expected α (createNodePieces labels (withEmbedding keys))) ↔
        (∀ label ∈ labels, Identifier α label.toList) ∧
          ∀ key ∈ keys, Identifier α key.toList) ∧
    (∀ labels keys,
      scan α (updateNode labels keys).toList = some (expected α (updateNodePieces labels keys)) ↔
        (∀ label ∈ labels.getD [], '`' ∉ label.toList ∧ escapes label.toList = false) ∧
          ∀ key ∈ keys, Identifier α key.toList) ∧
    (∀ type keys,
      scan α (createRelationship type keys).toList =
          some (expected α (createRelationshipPieces type keys)) ↔
        Identifier α type.toList ∧ ∀ key ∈ keys, Identifier α key.toList) ∧
    (∀ type keys,
      scan α (updateRelationship type keys).toList =
          some (expected α (updateRelationshipPieces type keys)) ↔
        (type ≠ "" → Identifier α type.toList) ∧ ∀ key ∈ keys, Identifier α key.toList) := by
  refine ⟨getNodes_names_iff hα, ?_, updateNode_names_iff hα, createRelationship_names_iff hα,
    updateRelationship_names_iff hα⟩
  intro labels keys
  rw [createNode_names_iff hα, forall_withEmbedding]

theorem splicedNames_ascii :
    scan ascii (updateNode (some ["Skill"]) ["name"]).toList =
        some (expected ascii (updateNodePieces (some ["Skill"]) ["name"])) ∧
      scan ascii (updateNode (some ["Skill\\u0060 DETACH DELETE n //"]) []).toList ≠
        some (expected ascii (updateNodePieces (some ["Skill\\u0060 DETACH DELETE n //"]) [])) := by
  have hupdate := (splicedNames_iff ascii (by decide)).2.2.1
  constructor
  · apply (hupdate _ _).2
    exact ⟨List.forall_mem_singleton.2 ⟨by decide, by decide⟩,
      List.forall_mem_singleton.2 ⟨rfl, List.all_eq_true.1 (by decide)⟩⟩
  · intro h
    exact absurd (((hupdate _ _).1 h).1 _ (List.mem_singleton_self _)).2 (by decide)

theorem spliced_type_injected :
    scan ascii (createRelationship "T]->(target) DETACH DELETE target //" []).toList ≠
      some (expected ascii
        (createRelationshipPieces "T]->(target) DETACH DELETE target //" [])) := by
  intro h
  obtain ⟨⟨-, hpart⟩, -⟩ := (createRelationship_names_iff (by decide) _ _).1 h
  have hbracket := hpart ']' (by decide)
  rw [ascii.part_delimiter ']' (by decide)] at hbracket
  cases hbracket

end AtlasOfUs.GraphApi.QueryText
