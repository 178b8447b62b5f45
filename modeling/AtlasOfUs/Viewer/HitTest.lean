import AtlasOfUs.Library.DistinctRows
import AtlasOfUs.Viewer.Layout

namespace AtlasOfUs.Viewer.NodeTree

open Library

section Positions

variable {text : Json → String} {levelIndex : Nat} {currentY centerX : ℚ} {s : Section}
  {ss : List Section} {node a b : CanvasNode}

theorem radius_pos (type : NodeType) : 0 < NODE_RADIUS type := by
  cases type <;> norm_num [NODE_RADIUS]

theorem radius_le (type : NodeType) : NODE_RADIUS type ≤ 45 := by
  cases type <;> norm_num [NODE_RADIUS]

theorem radius_le_of_ne {type : NodeType} (h : type ≠ .level) : NODE_RADIUS type ≤ 30 := by
  cases type with
  | level => exact absurd rfl h
  | knowledge | skill | trait | milestone => norm_num [NODE_RADIUS]

theorem mem_placeSection :
    node ∈ placeSection text levelIndex centerX currentY s ↔
      ∃ i, ∃ hi : i < s.items.length, createCanvasNode text (s.items[i]) s.type levelIndex
        (grid.cellX centerX s.items.length i) (grid.cellY currentY i) = node := by
  rw [placeSection, List.mem_mapIdx]

theorem placeSection_within (h : node ∈ placeSection text levelIndex centerX currentY s) :
    |node.x - centerX| ≤ 130 ∧ currentY ≤ node.y ∧
      node.y + 105 ≤ currentY + grid.rows s.items.length * 105 ∧ node.radius = NODE_RADIUS s.type := by
  obtain ⟨i, hi, rfl⟩ := mem_placeSection.1 h
  have hperRow : 0 < grid.perRow := by decide
  have hspacingX : 0 ≤ grid.spacingX := by norm_num [grid, LAYOUT.NODE_SPACING_X]
  have hspacingY : 0 ≤ grid.spacingY := by norm_num [grid, LAYOUT.NODE_SPACING_Y]
  refine ⟨?_, Grid.le_cellY hspacingY currentY i, ?_, rfl⟩
  · refine (Grid.abs_cellX_sub_le hperRow hspacingX centerX hi).trans_eq ?_
    norm_num [grid, LAYOUT.MAX_NODES_PER_ROW, LAYOUT.NODE_SPACING_X]
  · exact Grid.cellY_add_spacing_le hperRow hspacingY currentY hi

theorem placeSections_within (h : node ∈ placeSections text levelIndex centerX currentY ss) :
    |node.x - centerX| ≤ 130 ∧ currentY ≤ node.y ∧ ∃ type, node.radius = NODE_RADIUS type := by
  induction ss generalizing currentY with
  | nil => cases h
  | cons s rest ih =>
      rcases List.mem_append.1 h with hfirst | hrest
      · obtain ⟨hx, hy, -, hradius⟩ := placeSection_within hfirst
        exact ⟨hx, hy, s.type, hradius⟩
      · obtain ⟨hx, hy, hradius⟩ := ih hrest
        refine ⟨hx, le_trans ?_ hy, hradius⟩
        have hrows : (0 : ℚ) ≤ grid.rows s.items.length := Nat.cast_nonneg _
        rw [Section.height]
        split <;> norm_num [LAYOUT.NODE_SPACING_Y, LAYOUT.SECTION_GAP]; linarith

theorem apart_of_y {type type' : NodeType} (ha : a.radius = NODE_RADIUS type)
    (hb : b.radius = NODE_RADIUS type') (h : a.y + 110 ≤ b.y) : a.hitArea.Apart b.hitArea := by
  have hla := radius_le type
  have hlb := radius_le type'
  apply Disc.apart_of_below
  simp only [CanvasNode.hitArea, ha, hb]
  linarith

theorem placeSection_apart (hs : s.type ≠ .level) :
    (placeSection text levelIndex centerX currentY s).Pairwise
      fun a b => a.hitArea.Apart b.hitArea := by
  rw [List.pairwise_iff_getElem]
  intro i j hi hj hij
  have hpos := radius_pos s.type
  have hle := radius_le_of_ne hs
  simp only [placeSection, List.getElem_mapIdx]
  refine Grid.apart hij rfl rfl ?_ ?_ ?_ <;>
    simp only [CanvasNode.hitArea, createCanvasNode, grid, LAYOUT.NODE_SPACING_X,
      LAYOUT.NODE_SPACING_Y] <;> linarith

theorem placeSections_apart (hss : ∀ s ∈ ss, s.type ≠ .level) :
    (placeSections text levelIndex centerX currentY ss).Pairwise
      fun a b => a.hitArea.Apart b.hitArea := by
  induction ss generalizing currentY with
  | nil => exact List.Pairwise.nil
  | cons s rest ih =>
      obtain ⟨hs, hrest⟩ := List.forall_mem_cons.1 hss
      rw [placeSections, List.pairwise_append]
      refine ⟨placeSection_apart hs, ih hrest, fun a ha b hb => ?_⟩
      obtain ⟨-, -, hbottom, hradius⟩ := placeSection_within ha
      obtain ⟨-, htop, type, hradius'⟩ := placeSections_within hb
      apply apart_of_y hradius hradius'
      cases rest with
      | nil => cases hb
      | cons s' rest =>
          have hheight : s.height (s' :: rest) = grid.rows s.items.length * 105 + 70 := rfl
          rw [hheight] at htop
          linarith

end Positions

section Levels

variable {text : Json → String} {level level' : DomainLevel} {i j : Nat} {a b : CanvasNode}

theorem sections_type (level : DomainLevel) : ∀ s ∈ sections level, s.type ≠ .level := by
  intro s hs
  have hmem := (List.mem_filter.1 hs).1
  simp only [List.mem_cons, List.not_mem_nil, or_false] at hmem
  rcases hmem with rfl | rfl | rfl | rfl <;> simp

theorem calculateLevelLayout_apart (text : Json → String) (i : Nat) (level : DomainLevel) :
    (calculateLevelLayout text i level).Pairwise fun a b => a.hitArea.Apart b.hitArea := by
  rw [calculateLevelLayout, List.pairwise_cons]
  refine ⟨fun b hb => ?_, placeSections_apart (sections_type level)⟩
  obtain ⟨-, htop, type, hradius⟩ := placeSections_within hb
  have hheader : (levelHeader text level i (levelCenterX i) (-totalHeight level / 2)).radius =
      NODE_RADIUS .level := rfl
  exact apart_of_y hheader hradius htop

theorem calculateLevelLayout_within (h : a ∈ calculateLevelLayout text i level) :
    |a.x - levelCenterX i| ≤ 130 ∧ ∃ type, a.radius = NODE_RADIUS type := by
  rcases List.mem_cons.1 h with rfl | hmem
  · refine ⟨?_, .level, rfl⟩
    simp only [levelHeader, sub_self, abs_zero]
    norm_num
  · obtain ⟨hx, -, hradius⟩ := placeSections_within hmem
    exact ⟨hx, hradius⟩

theorem levels_apart (hij : i < j) (ha : a ∈ calculateLevelLayout text i level)
    (hb : b ∈ calculateLevelLayout text j level') : a.hitArea.Apart b.hitArea := by
  obtain ⟨hxa, type, hra⟩ := calculateLevelLayout_within ha
  obtain ⟨hxb, type', hrb⟩ := calculateLevelLayout_within hb
  have hla := radius_le type
  have hlb := radius_le type'
  have hxa' := (abs_le.1 hxa).2
  have hxb' := (abs_le.1 hxb).1
  have hnext : (i : ℚ) + 1 ≤ j := by exact_mod_cast hij
  apply Disc.apart_of_right
  simp only [CanvasNode.hitArea, hra, hrb, levelCenterX, LAYOUT.LEVEL_SPACING,
    LAYOUT.PADDING] at hxa' hxb' ⊢
  linarith

theorem calculateLayout_separate (convert : Json → Option ℚ) (text : Json → String)
    (domainData : DomainData) :
    Separate CanvasNode.hitArea (calculateLayout convert text domainData).nodes := by
  have hapart : (calculateLayout convert text domainData).nodes.Pairwise
      fun a b => a.hitArea.Apart b.hitArea := by
    rw [calculateLayout, List.pairwise_flatten]
    constructor
    · intro levelNodes hmem
      obtain ⟨i, hi, rfl⟩ := List.mem_mapIdx.1 hmem
      exact calculateLevelLayout_apart text i _
    · rw [List.pairwise_iff_getElem]
      intro i j hi hj hij a ha b hb
      rw [List.getElem_mapIdx] at ha hb
      exact levels_apart hij ha hb
  exact hapart.imp Disc.Apart.disjoint

end Levels

section Bounds

theorem circle_subset_calculateBounds {nodes : List CanvasNode} {node : CanvasNode}
    (h : node ∈ nodes) : node.circle.points ⊆ (calculateBounds nodes).points := by
  refine (Box.disc_subset_ofDisc node.circle).trans ?_
  cases nodes with
  | nil => cases h
  | cons first rest =>
      obtain ⟨hfirst, hrest⟩ :=
        Box.subset_foldl_union (fun n : CanvasNode => Box.ofDisc n.circle) rest (.ofDisc first.circle)
      rcases List.mem_cons.1 h with rfl | hmem
      · exact hfirst
      · exact hrest node hmem

end Bounds

section Occurrences

def levelOccurrences (levelIndex : Nat) (level : DomainLevel) : List (Nat × NodeType × Json) :=
  (levelIndex, .level, headerData level) ::
    ((level.knowledge.getD []).map (fun item => (levelIndex, .knowledge, item)) ++
      (level.skills.getD []).map (fun item => (levelIndex, .skill, item)) ++
      (level.traits.getD []).map (fun item => (levelIndex, .trait, item)) ++
      (level.milestones.getD []).map (fun item => (levelIndex, .milestone, item)))

def CanvasNode.occurrence (node : CanvasNode) : Nat × NodeType × Json :=
  (node.levelIndex, node.type, node.originalData)

variable (text : Json → String)

theorem placeSection_occurrences (levelIndex : Nat) (centerX currentY : ℚ) (s : Section) :
    (placeSection text levelIndex centerX currentY s).map CanvasNode.occurrence =
      s.items.map fun item => (levelIndex, s.type, item) := by
  rw [placeSection, map_mapIdx]
  exact mapIdx_eq_map (fun item => (levelIndex, s.type, item)) s.items

theorem placeSections_occurrences (levelIndex : Nat) (centerX currentY : ℚ) (ss : List Section) :
    (placeSections text levelIndex centerX currentY ss).map CanvasNode.occurrence =
      ss.flatMap fun s => s.items.map fun item => (levelIndex, s.type, item) := by
  induction ss generalizing currentY with
  | nil => rfl
  | cons s rest ih =>
      rw [placeSections, List.map_append, ih, placeSection_occurrences, List.flatMap_cons]

theorem flatMap_filter_nonempty {β : Type} (ss : List Section) (f : NodeType → DomainNode → β) :
    ((ss.filter fun s => 0 < s.items.length).flatMap fun s => s.items.map (f s.type)) =
      ss.flatMap fun s => s.items.map (f s.type) := by
  apply flatMap_filter_of_nil
  intro s hempty
  have hnil : s.items = [] := by simpa using hempty
  rw [hnil, List.map_nil]

theorem calculateLevelLayout_occurrences (levelIndex : Nat) (level : DomainLevel) :
    (calculateLevelLayout text levelIndex level).map CanvasNode.occurrence =
      levelOccurrences levelIndex level := by
  rw [calculateLevelLayout, List.map_cons, placeSections_occurrences, sections,
    flatMap_filter_nonempty _ fun type item => (levelIndex, type, item)]
  simp [levelOccurrences, levelHeader, CanvasNode.occurrence]

theorem calculateLayout_occurrences (convert : Json → Option ℚ) (domainData : DomainData) :
    (calculateLayout convert text domainData).nodes.map CanvasNode.occurrence =
      ((sortedLevels convert domainData).mapIdx levelOccurrences).flatten := by
  rw [calculateLayout, List.map_flatten, map_mapIdx]
  simp only [calculateLevelLayout_occurrences]

def DomainLevel.itemCount (level : DomainLevel) : Nat :=
  (level.knowledge.getD []).length + (level.skills.getD []).length +
    (level.traits.getD []).length + (level.milestones.getD []).length

theorem length_levelOccurrences (levelIndex : Nat) (level : DomainLevel) :
    (levelOccurrences levelIndex level).length = level.itemCount + 1 := by
  simp only [levelOccurrences, DomainLevel.itemCount, List.length_cons, List.length_append,
    List.length_map]

theorem length_nodes (convert : Json → Option ℚ) (domainData : DomainData) :
    (calculateLayout convert text domainData).nodes.length =
      (domainData.levels.map fun level => level.itemCount + 1).sum := by
  have hsorted : (sortedLevels convert domainData).Perm domainData.levels :=
    List.mergeSort_perm _ _
  have hlengths : ((sortedLevels convert domainData).mapIdx levelOccurrences).map List.length =
      (sortedLevels convert domainData).map fun level => level.itemCount + 1 := by
    rw [map_mapIdx]
    simp only [length_levelOccurrences]
    exact mapIdx_eq_map _ _
  rw [← List.length_map CanvasNode.occurrence, calculateLayout_occurrences, List.length_flatten,
    hlengths]
  exact (hsorted.map _).sum_eq

theorem length_connections (convert : Json → Option ℚ) (domainData : DomainData) :
    (calculateLayout convert text domainData).connections.length = domainData.levels.length - 1 := by
  have hheaders (levels : List DomainLevel) :
      ((levels.mapIdx (calculateLevelLayout text)).filterMap fun levelNodes =>
        levelNodes.find? fun n => n.type = .level).length = levels.length := by
    rw [List.length_filterMap_eq_countP, List.countP_eq_length.2, List.length_mapIdx]
    intro levelNodes hmem
    obtain ⟨i, hi, rfl⟩ := List.mem_mapIdx.1 hmem
    rfl
  simp only [calculateLayout, mainPath, List.length_zipWith, List.length_tail, hheaders,
    sortedLevels, List.length_mergeSort]
  omega

end Occurrences

/-- The nodes of the tree do not overlap, and a search finds the one at a point. -/
theorem calculateLayout_exact (convert : Json → Option ℚ) (text : Json → String)
    (domainData : DomainData) :
    let layout := calculateLayout convert text domainData
    (sortedLevels convert domainData).Perm domainData.levels ∧
      layout.nodes.map CanvasNode.occurrence =
        ((sortedLevels convert domainData).mapIdx levelOccurrences).flatten ∧
      layout.nodes.length = (domainData.levels.map fun level => level.itemCount + 1).sum ∧
      layout.connections.length = domainData.levels.length - 1 ∧
      (layout.nodes.Pairwise fun a b => Disjoint a.hitArea.points b.hitArea.points) ∧
      (∀ worldPos node, findNodeAtPosition worldPos layout.nodes = some node ↔
        node ∈ layout.nodes ∧ node.hitArea.Contains worldPos) ∧
      ∀ node ∈ layout.nodes, node.circle.points ⊆ layout.bounds.points := by
  intro layout
  have hseparate : Separate CanvasNode.hitArea layout.nodes :=
    calculateLayout_separate convert text domainData
  refine ⟨List.mergeSort_perm _ _, calculateLayout_occurrences text convert domainData,
    length_nodes text convert domainData, length_connections text convert domainData, hseparate,
    fun worldPos node => ?_, fun node hmem => circle_subset_calculateBounds hmem⟩
  rw [findNodeAtPosition, find?_contains_iff hseparate.reverse, List.mem_reverse]

end AtlasOfUs.Viewer.NodeTree
