import AtlasOfUs.GraphApi.QueryText
import AtlasOfUs.Library.CypherLexer

namespace AtlasOfUs.GraphApi.QueryText

open Library.Cypher Text

variable {α : Alphabet}

theorem render_joined {γ : Type} (sep : String) {f : γ → String} {pieces : γ → List Piece}
    (h : ∀ x, render (pieces x) = (f x).toList) (xs : List γ) :
    render (joined sep.toList (xs.map pieces)) = (join sep (xs.map f)).toList := by
  induction xs with
  | nil => rfl
  | cons x xs ih =>
      cases xs with
      | nil => exact h x
      | cons y xs =>
          simp only [List.map_cons, joined, join, String.toList_append] at ih ⊢
          rw [render_append, h, ← ih]
          simp [render, Piece.render]

def wherePrefix (key : String) : String :=
  if key = "elementId" then "elementId(node) =" else "node." ++ key ++ " ="

def clausePieces (kv : String × String) : List Piece :=
  [.text ((wherePrefix kv.1).toList ++ [' ']), .value kv.2.toList]

/-- The conditions of a search: each value is to be one string literal. -/
def wherePieces (properties : PropertyMap) : List Piece :=
  joined " AND ".toList ((searched properties).map clausePieces)

theorem render_clausePieces (kv : String × String) :
    render (clausePieces kv) = (whereClause kv.1 kv.2).toList := by
  unfold whereClause clausePieces wherePrefix
  by_cases hkey : kv.1 = "elementId"
  · rw [if_pos hkey, if_pos hkey]
    simp [render, Piece.render]
  · rw [if_neg hkey, if_neg hkey]
    simp [render, Piece.render]

theorem render_wherePieces (properties : PropertyMap) :
    render (wherePieces properties) = (whereText properties).toList :=
  render_joined " AND " render_clausePieces _

theorem separated_wherePieces {properties : PropertyMap} {rest : List Char}
    (h : ∀ kv ∈ searched properties, Closed α ((wherePrefix kv.1).toList ++ [' ']))
    (hrest : Stops α rest) : Separated α rest (wherePieces properties) := by
  have hand : Closed α (" AND".toList ++ [' ']) := closed_of_plain (by decide) (by decide)
  apply separated_joined
  · exact hand
  · intro ps hps r _
    obtain ⟨kv, hkv, rfl⟩ := List.mem_map.1 hps
    exact ⟨.inl (h kv hkv), trivial, trivial⟩
  · intro r
    exact stops_cons (α.part_delimiter ' ' (by decide)) _
  · exact hrest

theorem legal_wherePieces {properties : PropertyMap}
    (h : ∀ kv ∈ searched properties, Unescaped kv.2.toList) :
    ∀ p ∈ wherePieces properties, p.Legal α := by
  intro p hp
  rcases mem_joined hp with rfl | ⟨ps, hps, hp⟩
  · trivial
  · obtain ⟨kv, hkv, rfl⟩ := List.mem_map.1 hps
    rcases List.mem_cons.1 hp with rfl | hp
    · trivial
    · rw [List.mem_singleton.1 hp]
      exact h kv hkv

/-- A search whose conditions keep to themselves: no key leaves the lexer inside
a token, and no value has a quote or a backslash. -/
def Tame (α : Alphabet) (properties : PropertyMap) : Prop :=
  ∀ kv ∈ searched properties,
    Closed α ((wherePrefix kv.1).toList ++ [' ']) ∧ Unescaped kv.2.toList

theorem lex_whereText_iff (properties : PropertyMap) :
    lex α (whereText properties).toList = expected α (wherePieces properties) ↔
      Tame α properties := by
  constructor
  · intro h kv hkv
    have hmem : clausePieces kv ∈ (searched properties).map clausePieces :=
      List.mem_map_of_mem hkv
    obtain ⟨before, after, hsplit⟩ := exists_joined_eq " AND ".toList hmem
    refine ⟨closed_of_lex_eq h hsplit, legal_of_lex_eq h (p := .value kv.2.toList) ?_⟩
    exact mem_joined_of_mem hmem (List.mem_cons_of_mem _ (List.mem_singleton_self _))
  · intro h
    rw [← render_wherePieces]
    apply lex_render
    · exact separated_wherePieces (fun kv hkv => (h kv hkv).1) fun c hc => nomatch hc
    · exact legal_wherePieces fun kv hkv => (h kv hkv).2

def searchPieces (labels : Option (List String)) (properties : PropertyMap) (depth : Int) :
    List Piece :=
  .text (matchText labels ++ "\nWHERE ").toList ::
    (wherePieces properties ++ [.text (nodeWithRelationshipsQueryFragment depth).toList])

theorem render_searchPieces {properties : PropertyMap} (h : searched properties ≠ [])
    (labels : Option (List String)) (depth : Int) :
    render (searchPieces labels properties depth) =
      (getNodesWithRelationships labels properties depth).toList := by
  rw [getNodesWithRelationships, if_neg h, searchPieces, render, List.flatMap_cons]
  change _ ++ render (_ ++ _) = _
  rw [render_append, render_wherePieces]
  simp [render, Piece.render]

theorem stops_fragment (depth : Int) :
    Stops α (nodeWithRelationshipsQueryFragment depth).toList := by
  rw [nodeWithRelationshipsQueryFragment, String.toList_append]
  exact stops_cons (α.part_delimiter '\n' (by decide)) _

theorem lex_search {labels : Option (List String)} {properties : PropertyMap}
    (hlabels : Closed α (matchText labels ++ "\nWHERE ").toList) (htame : Tame α properties)
    (h : searched properties ≠ []) (depth : Int) :
    lex α (getNodesWithRelationships labels properties depth).toList =
      expected α (searchPieces labels properties depth) := by
  rw [← render_searchPieces h]
  apply lex_render
  · apply Separated.text_cons hlabels
    apply Separated.append _ (separated_text _)
    apply separated_wherePieces fun kv hkv => (htame kv hkv).1
    rw [render, List.flatMap_singleton, List.append_nil]
    exact stops_fragment depth
  · intro p hp
    rcases List.mem_cons.1 hp with rfl | hp
    · trivial
    · rcases List.mem_append.1 hp with hp | hp
      · exact legal_wherePieces (fun kv hkv => (htame kv hkv).2) p hp
      · rw [List.mem_singleton.1 hp]
        trivial

/-- A token without what is in it, if it is a literal. -/
def shape : Token → Token
  | .literal quote _ _ => .literal quote [] []
  | t => t

theorem shape_expected_joined (sep : List Char) {xs ys : List (String × String)}
    (h : xs.map Prod.fst = ys.map Prod.fst) :
    (expected α (joined sep (xs.map clausePieces))).map shape =
      (expected α (joined sep (ys.map clausePieces))).map shape := by
  have hclause : ∀ x y : String × String, x.1 = y.1 →
      (expected α (clausePieces x)).map shape = (expected α (clausePieces y)).map shape := by
    intro x y hxy
    simp [expected, clausePieces, Piece.tokens, shape, hxy]
  induction xs generalizing ys with
  | nil =>
      rw [List.map_nil, eq_comm, List.map_eq_nil_iff] at h
      rw [h]
  | cons x xs ih =>
      cases ys with
      | nil => cases h
      | cons y ys =>
          obtain ⟨hxy, htail⟩ := List.cons.inj h
          cases xs with
          | nil =>
              rw [List.map_nil, eq_comm, List.map_eq_nil_iff] at htail
              rw [htail]
              exact hclause x y hxy
          | cons x' xs =>
              cases ys with
              | nil => cases htail
              | cons y' ys =>
                  have ih := ih htail
                  simp only [List.map_cons, joined] at ih ⊢
                  rw [expected_append, expected_append, List.map_append, List.map_append,
                    hclause x y hxy]
                  simp only [expected, List.flatMap_cons, List.map_append] at ih ⊢
                  rw [ih]

def SameKeys (properties properties' : PropertyMap) : Prop :=
  (searched properties).map Prod.fst = (searched properties').map Prod.fst

theorem shape_search_eq {labels : Option (List String)} {properties properties' : PropertyMap}
    (hkeys : SameKeys properties properties')
    (hlabels : Closed α (matchText labels ++ "\nWHERE ").toList) (htame : Tame α properties)
    (htame' : Tame α properties') (depth : Int) :
    (lex α (getNodesWithRelationships labels properties depth).toList).map shape =
      (lex α (getNodesWithRelationships labels properties' depth).toList).map shape := by
  by_cases h : searched properties = []
  · have h' : searched properties' = [] := by
      rw [SameKeys, h, List.map_nil, eq_comm, List.map_eq_nil_iff] at hkeys
      exact hkeys
    rw [getNodesWithRelationships, getNodesWithRelationships, if_pos h, if_pos h']
  · have h' : searched properties' ≠ [] := by
      intro h'
      rw [SameKeys, h', List.map_nil, List.map_eq_nil_iff] at hkeys
      exact h hkeys
    rw [lex_search hlabels htame h, lex_search hlabels htame' h']
    have hwhere := shape_expected_joined (α := α) " AND ".toList hkeys
    unfold searchPieces wherePieces
    rw [expected, expected, List.flatMap_cons, List.flatMap_cons, List.map_append, List.map_append]
    change _ ++ (expected α (_ ++ _)).map shape = _ ++ (expected α (_ ++ _)).map shape
    rw [expected_append, expected_append, List.map_append, List.map_append, hwhere]

/-- Every value is one literal of the statement exactly if the search is tame;
and tame searches that differ in their values only have the same tokens apart
from what is in the literals. -/
theorem searchValues_literal_iff (α : Alphabet) :
    (∀ properties, lex α (whereText properties).toList = expected α (wherePieces properties) ↔
      ∀ kv ∈ searched properties,
        Closed α ((wherePrefix kv.1).toList ++ [' ']) ∧ Unescaped kv.2.toList) ∧
    (∀ labels properties properties' depth, SameKeys properties properties' →
      Closed α (matchText labels ++ "\nWHERE ").toList → Tame α properties →
      Tame α properties' →
      (lex α (getNodesWithRelationships labels properties depth).toList).map shape =
        (lex α (getNodesWithRelationships labels properties' depth).toList).map shape) := by
  refine ⟨lex_whereText_iff, ?_⟩
  intro labels properties properties' depth hkeys hlabels htame htame'
  exact shape_search_eq hkeys hlabels htame htame' depth

def searchFor (value : String) : PropertyMap := ⟨[("name", .str value)], List.nodup_singleton _⟩

theorem tame_searchFor {value : String} (h : Unescaped (trim value).toList) :
    Tame ascii (searchFor value) := by
  have hclosed : Closed ascii ((wherePrefix (trim "name")).toList ++ [' ']) := by decide +kernel
  intro kv hkv
  rw [List.mem_singleton.1 hkv]
  exact ⟨hclosed, h⟩

theorem searchValues_literal_names :
    lex ascii (whereText (searchFor "Rust")).toList =
      expected ascii (wherePieces (searchFor "Rust")) ∧
    (lex ascii (getNodesWithRelationships (some ["Domain"]) (searchFor "Rust") 1).toList).map shape =
      (lex ascii (getNodesWithRelationships (some ["Domain"]) (searchFor "\"C\"") 1).toList).map
        shape := by
  obtain ⟨hliterals, hshape⟩ := searchValues_literal_iff ascii
  have hrust : Tame ascii (searchFor "Rust") := tame_searchFor (by unfold Unescaped; decide +kernel)
  have hquoted : Tame ascii (searchFor "\"C\"") :=
    tame_searchFor (by unfold Unescaped; decide +kernel)
  exact ⟨(hliterals _).2 hrust, hshape _ _ _ 1 rfl (by decide +kernel) hrust hquoted⟩

theorem searchValue_injected :
    lex ascii (whereText (searchFor "x' OR 'a'='a")).toList ≠
      expected ascii (wherePieces (searchFor "x' OR 'a'='a")) ∧
    (lex ascii (whereText (searchFor "x' OR 'a'='a")).toList).map shape ≠
      (lex ascii (whereText (searchFor "x")).toList).map shape := by
  decide +kernel

end AtlasOfUs.GraphApi.QueryText
