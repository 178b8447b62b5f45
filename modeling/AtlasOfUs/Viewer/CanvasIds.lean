import AtlasOfUs.GraphApi.DomainView
import AtlasOfUs.Viewer.HitTest
import Std.Data.String.ToNat

namespace AtlasOfUs.Viewer.NodeTree

open Library

section Response

def listMember (j : Json) (key : String) : Option (List Json) := (j.get key).bind Json.asArray

def DomainLevel.ofJson (j : Json) : DomainLevel where
  level := j.get "level"
  name := j.get "name"
  description := j.get "description"
  pointsRequired := j.get "pointsRequired"
  knowledge := listMember j "knowledge"
  skills := listMember j "skills"
  traits := listMember j "traits"
  milestones := listMember j "milestones"

/-- What the layout reads of a response; none for one without a list of levels. -/
def DomainData.ofJson (j : Json) : Option DomainData :=
  (listMember j "levels").map fun levels => ⟨levels.map DomainLevel.ofJson⟩

theorem ofJson_toJson (v : GraphApi.DomainView) :
    DomainData.ofJson v.toJson =
      some ⟨v.levels.map fun level => DomainLevel.ofJson level.toJson⟩ := by
  rw [DomainData.ofJson, listMember, GraphApi.DomainView.toJson, Json.get]
  simp [List.lookup_cons, Json.asArray]

end Response

def DomainLevel.items (level : DomainLevel) : NodeType → List DomainNode
  | .knowledge => level.knowledge.getD []
  | .skill => level.skills.getD []
  | .trait => level.traits.getD []
  | .milestone => level.milestones.getD []
  | .level => []

def itemTypes : List NodeType := [.knowledge, .skill, .trait, .milestone]

section Ids

variable (text : Json → String)

def nameText (item : DomainNode) : String := template text (item.get "name")

/-- In no list of a level two items have the same name. -/
def NamesDistinct (domainData : DomainData) : Prop :=
  ∀ level ∈ domainData.levels, ∀ type ∈ itemTypes, ((level.items type).map (nameText text)).Nodup

def levelId (levelIndex : Nat) : String := "level-" ++ toString levelIndex

def itemId (type : NodeType) (levelIndex : Nat) (name : String) : String :=
  typeName type ++ "-" ++ toString levelIndex ++ "-" ++ name

def levelIds (levelIndex : Nat) (level : DomainLevel) : List String :=
  levelId levelIndex :: itemTypes.flatMap fun type =>
    (level.items type).map fun item => itemId type levelIndex (nameText text item)

end Ids

section Texts

variable {type type' : NodeType} {i j : Nat} {name name' : String}

theorem typeName_injective : Function.Injective typeName := by
  intro type type' h
  cases type <;> cases type' <;> first | rfl | simp [typeName] at h

theorem dash_notMem_typeName (type : NodeType) : '-' ∉ (typeName type).toList := by
  cases type <;> simp [typeName]

theorem toList_toString (n : Nat) : (toString n).toList = Nat.toDigits 10 n := by
  rw [Nat.toString_eq_repr, Nat.repr_eq_ofList_toDigits, String.toList_ofList]

theorem dash_notMem_toString (n : Nat) : '-' ∉ (toString n).toList := by
  rw [toList_toString]
  intro hmem
  have hdigit := Nat.isDigit_of_mem_toDigits (b := 10) (by omega) (by omega) hmem
  simp [Char.isDigit] at hdigit

theorem toString_injective : Function.Injective (toString : Nat → String) := by
  intro m n h
  rw [Nat.toString_eq_repr, Nat.toString_eq_repr] at h
  exact Nat.repr_injective h

theorem toList_itemId (type : NodeType) (i : Nat) (name : String) :
    (itemId type i name).toList =
      (typeName type).toList ++ '-' :: ((toString i).toList ++ '-' :: name.toList) := by
  simp [itemId]

theorem toList_levelId (i : Nat) :
    (levelId i).toList = (typeName .level).toList ++ '-' :: (toString i).toList := by
  simp [levelId, typeName]

theorem eq_of_append_dash {u u' v v' : List Char} (hu : '-' ∉ u) (hu' : '-' ∉ u')
    (h : u ++ '-' :: v = u' ++ '-' :: v') : u = u' ∧ v = v' := by
  induction u generalizing u' with
  | nil =>
      cases u' with
      | nil => exact ⟨rfl, (List.cons.inj h).2⟩
      | cons c u' => exact absurd ((List.cons.inj h).1 ▸ List.mem_cons_self) hu'
  | cons c u ih =>
      cases u' with
      | nil => exact absurd ((List.cons.inj h).1 ▸ List.mem_cons_self) hu
      | cons c' u' =>
          obtain ⟨rfl, hrest⟩ := List.cons.inj h
          rw [List.mem_cons, not_or] at hu hu'
          obtain ⟨rfl, rfl⟩ := ih hu.2 hu'.2 hrest
          exact ⟨rfl, rfl⟩

theorem itemId_inj :
    itemId type i name = itemId type' j name' ↔ type = type' ∧ i = j ∧ name = name' := by
  constructor
  · intro h
    have hlist := congrArg String.toList h
    rw [toList_itemId, toList_itemId] at hlist
    obtain ⟨htype, hrest⟩ :=
      eq_of_append_dash (dash_notMem_typeName type) (dash_notMem_typeName type') hlist
    obtain ⟨hindex, hname⟩ :=
      eq_of_append_dash (dash_notMem_toString i) (dash_notMem_toString j) hrest
    exact ⟨typeName_injective (String.toList_injective htype),
      toString_injective (String.toList_injective hindex), String.toList_injective hname⟩
  · rintro ⟨rfl, rfl, rfl⟩
    rfl

theorem levelId_injective : Function.Injective levelId := by
  intro i j h
  have hlist := congrArg String.toList h
  rw [toList_levelId, toList_levelId] at hlist
  have hindex :=
    (eq_of_append_dash (dash_notMem_typeName .level) (dash_notMem_typeName .level) hlist).2
  exact toString_injective (String.toList_injective hindex)

theorem levelId_ne_itemId (htype : type ≠ .level) : levelId i ≠ itemId type j name := by
  intro h
  have hlist := congrArg String.toList h
  rw [toList_levelId, toList_itemId] at hlist
  have hname :=
    (eq_of_append_dash (dash_notMem_typeName .level) (dash_notMem_typeName type) hlist).1
  exact htype (typeName_injective (String.toList_injective hname)).symm

end Texts

section Nodes

variable {text : Json → String} {levelIndex : Nat} {centerX currentY : ℚ} {node : CanvasNode}

theorem flatMap_sections {β : Type} (level : DomainLevel) (f : NodeType → DomainNode → β) :
    ((sections level).flatMap fun s => s.items.map (f s.type)) =
      itemTypes.flatMap fun type => (level.items type).map (f type) := by
  rw [sections, flatMap_filter_nonempty]
  rfl

theorem map_id_placeSections (ss : List Section) :
    (placeSections text levelIndex centerX currentY ss).map CanvasNode.id =
      ss.flatMap fun s => s.items.map fun item => itemId s.type levelIndex (nameText text item) := by
  induction ss generalizing currentY with
  | nil => rfl
  | cons s rest ih =>
      rw [placeSections, List.map_append, ih, List.flatMap_cons, placeSection, map_mapIdx]
      congr 1
      apply List.ext_getElem
      · simp
      · intro i _ _
        simp [createCanvasNode, itemId, nameText]

theorem map_id_calculateLevelLayout (level : DomainLevel) :
    (calculateLevelLayout text levelIndex level).map CanvasNode.id =
      levelIds text levelIndex level := by
  rw [calculateLevelLayout, List.map_cons, map_id_placeSections,
    flatMap_sections level fun type item => itemId type levelIndex (nameText text item)]
  rfl

theorem map_id_calculateLayout (convert : Json → Option ℚ) (domainData : DomainData) :
    (calculateLayout convert text domainData).nodes.map CanvasNode.id =
      ((sortedLevels convert domainData).mapIdx (levelIds text)).flatten := by
  rw [calculateLayout, List.map_flatten, map_mapIdx]
  simp only [map_id_calculateLevelLayout]

theorem mem_levelIds {id : String} {level : DomainLevel} :
    id ∈ levelIds text levelIndex level ↔ id = levelId levelIndex ∨
      ∃ type ∈ itemTypes, ∃ item ∈ level.items type,
        itemId type levelIndex (nameText text item) = id := by
  simp only [levelIds, List.mem_cons, List.mem_flatMap, List.mem_map]

theorem ne_level_of_mem {type : NodeType} (h : type ∈ itemTypes) : type ≠ .level := by
  rintro rfl
  simp [itemTypes] at h

theorem disjoint_levelIds {i j : Nat} (hij : i ≠ j) (level level' : DomainLevel) :
    (levelIds text i level).Disjoint (levelIds text j level') := by
  intro id hi hj
  rcases mem_levelIds.1 hi with rfl | ⟨type, htype, item, -, rfl⟩ <;>
    rcases mem_levelIds.1 hj with heq | ⟨type', htype', item', -, heq⟩
  · exact hij (levelId_injective heq)
  · exact levelId_ne_itemId (ne_level_of_mem htype') heq.symm
  · exact levelId_ne_itemId (ne_level_of_mem htype) heq.symm
  · exact hij (itemId_inj.1 heq).2.1.symm

theorem nodup_levelIds_iff (levelIndex : Nat) (level : DomainLevel) :
    (levelIds text levelIndex level).Nodup ↔
      ∀ type ∈ itemTypes, ((level.items type).map (nameText text)).Nodup := by
  have hlist (type : NodeType) : ((level.items type).map fun item =>
      itemId type levelIndex (nameText text item)).Nodup ↔
        ((level.items type).map (nameText text)).Nodup := by
    have hinjective : Function.Injective (itemId type levelIndex) :=
      fun name name' h => (itemId_inj.1 h).2.2
    have hmap : ((level.items type).map fun item => itemId type levelIndex (nameText text item)) =
        ((level.items type).map (nameText text)).map (itemId type levelIndex) :=
      List.map_map.symm
    rw [hmap, List.nodup_map_iff hinjective]
  rw [levelIds, List.nodup_cons, List.nodup_flatMap]
  constructor
  · rintro ⟨-, hlists, -⟩ type htype
    exact (hlist type).1 (hlists type htype)
  · intro hlists
    refine ⟨?_, fun type htype => (hlist type).2 (hlists type htype), ?_⟩
    · intro hmem
      obtain ⟨type, htype, hitem⟩ := List.mem_flatMap.1 hmem
      obtain ⟨item, -, heq⟩ := List.mem_map.1 hitem
      exact levelId_ne_itemId (ne_level_of_mem htype) heq.symm
    · have htypes : itemTypes.Nodup := by decide
      refine htypes.imp fun hne id hid hid' => ?_
      obtain ⟨item, -, rfl⟩ := List.mem_map.1 hid
      obtain ⟨item', -, heq⟩ := List.mem_map.1 hid'
      exact hne (itemId_inj.1 heq).1.symm

theorem nodup_ids_iff (convert : Json → Option ℚ) (domainData : DomainData) :
    ((calculateLayout convert text domainData).nodes.map CanvasNode.id).Nodup ↔
      NamesDistinct text domainData := by
  have hsorted : (sortedLevels convert domainData).Perm domainData.levels :=
    List.mergeSort_perm _ _
  rw [map_id_calculateLayout, List.nodup_flatten]
  constructor
  · rintro ⟨hlevels, -⟩ level hlevel
    obtain ⟨i, hi, rfl⟩ := List.getElem_of_mem (hsorted.mem_iff.2 hlevel)
    refine (nodup_levelIds_iff i _).1 (hlevels _ ?_)
    exact List.mem_mapIdx.2 ⟨i, hi, rfl⟩
  · intro hnames
    constructor
    · intro ids hids
      obtain ⟨i, hi, rfl⟩ := List.mem_mapIdx.1 hids
      exact (nodup_levelIds_iff i _).2 (hnames _ (hsorted.mem_iff.1 (List.getElem_mem hi)))
    · rw [List.pairwise_iff_getElem]
      intro i j hi hj hij
      rw [List.getElem_mapIdx, List.getElem_mapIdx]
      exact disjoint_levelIds hij.ne _ _

end Nodes

section GetDomain

variable {env : Env} {name : String} {w : World} {domainData : Json}

/-- Hover and selection tell two nodes apart by their ids. -/
theorem canvasIds_nodup_iff
    (h : (env.exec (GraphApi.getDomain name) w).exit = .ok (some domainData)) :
    ∃ data, DomainData.ofJson domainData = some data ∧
      ∀ (convert : Json → Option ℚ) (text : Json → String),
        ((calculateLayout convert text data).nodes.map CanvasNode.id).Nodup ↔
          NamesDistinct text data := by
  obtain ⟨d, -, -, rfl⟩ := GraphApi.exec_getDomain h
  exact ⟨_, ofJson_toJson _, fun convert text => nodup_ids_iff convert _⟩

def twoOpenings : Graph :=
  let named (name : String) : Props := Props.empty.set "name" (.str name)
  let nodes := (((emptyGraph.createNode ["Domain"] (named "Chess")).createNode
    ["Domain_Level"] (named "Novice")).createNode ["Knowledge"] (named "Openings")).createNode
    ["Knowledge"] (named "Openings")
  ((nodes.createEdge "HAS_DOMAIN_LEVEL" (candidateId 0) (candidateId 1) Props.empty).createEdge
    "REQUIRES_KNOWLEDGE" (candidateId 1) (candidateId 2) Props.empty).createEdge
    "REQUIRES_KNOWLEDGE" (candidateId 1) (candidateId 3) Props.empty

theorem getDomain_twoOpenings :
    ∃ d ∈ twoOpenings.nodes, GraphApi.isNamed "Domain" "Chess" d = true ∧
      (Env.calm.exec (GraphApi.getDomain "Chess") (.start twoOpenings)).exit =
        .ok (some (GraphApi.domainView twoOpenings d).toJson) := by
  have hfound : (twoOpenings.nodes.find? (GraphApi.isNamed "Domain" "Chess")).isSome = true := by
    decide +kernel
  obtain ⟨d, hd⟩ := Option.isSome_iff_exists.1 hfound
  refine ⟨d, List.mem_of_find?_eq_some hd, List.find?_some hd, ?_⟩
  rw [GraphApi.exec_getDomain_done "Chess" rfl]
  simp only [World.start, hd, Option.map_some]

theorem canvasIds_chess :
    ∃ domainData, (Env.calm.exec (GraphApi.getDomain "Chess") (.start twoOpenings)).exit =
        .ok (some domainData) ∧
      ∃ data, DomainData.ofJson domainData = some data ∧
        ∀ (convert : Json → Option ℚ) (text : Json → String),
          ((calculateLayout convert text data).nodes.map CanvasNode.id).Nodup ↔
            NamesDistinct text data := by
  obtain ⟨d, -, -, hexec⟩ := getDomain_twoOpenings
  exact ⟨_, hexec, canvasIds_nodup_iff hexec⟩

theorem openings_share_id :
    ¬ ∀ (env : Env) (name : String) (w : World) (domainData : Json),
      (env.exec (GraphApi.getDomain name) w).exit = .ok (some domainData) →
        ∀ data, DomainData.ofJson domainData = some data →
          ∀ (convert : Json → Option ℚ) (text : Json → String),
            ((calculateLayout convert text data).nodes.map CanvasNode.id).Nodup := by
  intro hall
  obtain ⟨d, hd, hnamed, hexec⟩ := getDomain_twoOpenings
  have hids := hall Env.calm "Chess" _ _ hexec _ (ofJson_toJson _) (fun _ => none) fun _ => ""
  rw [nodup_ids_iff] at hids
  have hlevel : ∀ d ∈ twoOpenings.nodes, GraphApi.isNamed "Domain" "Chess" d = true →
      ∃ l ∈ twoOpenings.nodes, GraphApi.isLevelOf twoOpenings d.id l = true ∧
        (GraphApi.nodeViews twoOpenings l.id .knowledge).map GraphApi.NodeView.name =
          [some (.str "Openings"), some (.str "Openings")] := by
    decide +kernel
  obtain ⟨l, hl, hlevelOf, hnames⟩ := hlevel d hd hnamed
  have hmem := GraphApi.mem_levels_domainView.2 ⟨l, hl, hlevelOf, rfl⟩
  have htwice := hids _ (List.mem_map_of_mem hmem) .knowledge (by simp [itemTypes])
  have htexts : ((DomainLevel.ofJson (GraphApi.levelView twoOpenings l).toJson).items
      .knowledge).map (nameText fun _ => "") =
        ((GraphApi.nodeViews twoOpenings l.id .knowledge).map GraphApi.NodeView.name).map
          fun v => template (fun _ => "") (some (propJson v)) := by
    simp [DomainLevel.items, DomainLevel.ofJson, listMember, GraphApi.LevelView.toJson, Json.get,
      List.lookup_cons, Json.asArray, GraphApi.levelView, nameText, GraphApi.NodeView.toJson,
      Function.comp_def]
  rw [htexts, hnames] at htwice
  simp at htwice

end GetDomain

end AtlasOfUs.Viewer.NodeTree
