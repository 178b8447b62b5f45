import AtlasOfUs.Editor.Interfaces
import AtlasOfUs.Library.Grid
import AtlasOfUs.Library.OrderedMap
import Mathlib.Tactic.NormNum

namespace AtlasOfUs.Editor.CreatorCanvas

open Library
open GraphApi (NodeType)

namespace LAYOUT

def SECTION_WIDTH : ℚ := 280
def SECTION_GAP : ℚ := 40
def NODE_SPACING_Y : ℚ := 90
def MAX_NODES_PER_ROW : Nat := 3
def NODE_SPACING_X : ℚ := 90
def SECTION_HEADER_HEIGHT : ℚ := 40

end LAYOUT

def NODE_RADIUS : NodeType → ℚ
  | .knowledge => 28
  | .skill => 28
  | .trait => 25
  | .milestone => 30

def grid : Grid ℚ := ⟨LAYOUT.MAX_NODES_PER_ROW, LAYOUT.NODE_SPACING_X, LAYOUT.NODE_SPACING_Y⟩

def calculateNodePositions (nodes : List EditableNode) (sectionCenterX startY : ℚ) :
    OrderedMap String Point :=
  OrderedMap.setAll (fun entry => some entry.1.id)
    (fun entry => ⟨grid.cellX sectionCenterX nodes.length entry.2, grid.cellY startY entry.2⟩)
    nodes.zipIdx .empty

def hitArea (node : EditableNode) (pos : Point) : Disc := ⟨pos, NODE_RADIUS node.type * (6 / 5)⟩

/-- The first node of a section whose area has the point. One without a position is skipped. -/
def findInSection (worldPos : Point) (nodes : List EditableNode)
    (positions : OrderedMap String Point) : Option EditableNode :=
  nodes.find? fun node =>
    match positions.get node.id with
    | none => false
    | some pos => (hitArea node pos).Contains worldPos

def startY : ℚ := -200 + LAYOUT.SECTION_HEADER_HEIGHT + 40

def findInSections (worldPos : Point) : ℚ → List (List EditableNode) → Option EditableNode
  | _, [] => none
  | currentX, nodes :: rest =>
      match findInSection worldPos nodes (calculateNodePositions nodes currentX startY) with
      | some node => some node
      | none => findInSections worldPos (currentX + (LAYOUT.SECTION_WIDTH + LAYOUT.SECTION_GAP)) rest

def sections (level : EditableDomainLevel) : List (List EditableNode) :=
  [level.knowledge, level.skills, level.traits, level.milestones]

def totalWidth (level : EditableDomainLevel) : ℚ :=
  (sections level).length * LAYOUT.SECTION_WIDTH +
    (((sections level).length : ℚ) - 1) * LAYOUT.SECTION_GAP

def firstX (level : EditableDomainLevel) : ℚ := -totalWidth level / 2 + LAYOUT.SECTION_WIDTH / 2

/-- The search does not read the list of all nodes that it is given. -/
def findNodeAtPosition (worldPos : Point) (_allNodes : List EditableNode)
    (level : EditableDomainLevel) : Option EditableNode :=
  findInSections worldPos (firstX level) (sections level)

section Placement

def placeNodes (nodes : List EditableNode) (positions : OrderedMap String Point) :
    List (EditableNode × Disc) :=
  nodes.filterMap fun node => (positions.get node.id).map fun pos => (node, hitArea node pos)

def placeSections : ℚ → List (List EditableNode) → List (EditableNode × Disc)
  | _, [] => []
  | currentX, nodes :: rest =>
      placeNodes nodes (calculateNodePositions nodes currentX startY) ++
        placeSections (currentX + (LAYOUT.SECTION_WIDTH + LAYOUT.SECTION_GAP)) rest

/-- The nodes of a level, each with the area that it is found in. -/
def placedNodes (level : EditableDomainLevel) : List (EditableNode × Disc) :=
  placeSections (firstX level) (sections level)

end Placement

section Search

variable {worldPos : Point}

theorem findInSection_eq (nodes : List EditableNode) (positions : OrderedMap String Point) :
    findInSection worldPos nodes positions =
      ((placeNodes nodes positions).find? fun placed =>
        decide (placed.2.Contains worldPos)).map Prod.fst := by
  have hhit : (fun node : EditableNode => match positions.get node.id with
      | none => false
      | some pos => decide ((hitArea node pos).Contains worldPos)) =
        fun node => ((positions.get node.id).map fun pos => (node, hitArea node pos)).any
          fun placed => decide (placed.2.Contains worldPos) := by
    funext node
    cases positions.get node.id with
    | none => rfl
    | some pos => rfl
  rw [findInSection, placeNodes, List.find?_filterMap, hhit]
  cases hfind : nodes.find? _ with
  | none => rfl
  | some node =>
      have hany := List.find?_some hfind
      rw [Option.bind_some]
      cases hpos : positions.get node.id with
      | none =>
          rw [hpos] at hany
          cases hany
      | some pos => rfl

theorem findInSections_eq (currentX : ℚ) (ss : List (List EditableNode)) :
    findInSections worldPos currentX ss =
      ((placeSections currentX ss).find? fun placed =>
        decide (placed.2.Contains worldPos)).map Prod.fst := by
  induction ss generalizing currentX with
  | nil => rfl
  | cons nodes rest ih =>
      rw [findInSections, placeSections, List.find?_append, findInSection_eq, ih]
      cases List.find? _ (placeNodes nodes (calculateNodePositions nodes currentX startY)) with
      | none => rfl
      | some placed => rfl

end Search

section Positions

variable {nodes : List EditableNode} {ss : List (List EditableNode)} {centerX : ℚ}
  {placed : EditableNode × Disc}

theorem radius_pos (type : NodeType) : 0 < NODE_RADIUS type := by
  cases type <;> norm_num [NODE_RADIUS]

theorem radius_le (type : NodeType) : NODE_RADIUS type ≤ 30 := by
  cases type <;> norm_num [NODE_RADIUS]

theorem get_calculateNodePositions (hids : (nodes.map EditableNode.id).Nodup) {i : Nat}
    (hi : i < nodes.length) (centerX startY : ℚ) :
    (calculateNodePositions nodes centerX startY).get (nodes[i]).id =
      some ⟨grid.cellX centerX nodes.length i, grid.cellY startY i⟩ := by
  have hkeys : (nodes.zipIdx.map fun entry => entry.1.id).Nodup := by
    have hfst : (nodes.zipIdx.map fun entry => entry.1.id) = nodes.map EditableNode.id := by
      conv_rhs => rw [← List.zipIdx_map_fst 0 nodes, List.map_map]
      rfl
    rw [hfst]
    exact hids
  have hmem : (nodes[i], i) ∈ nodes.zipIdx :=
    List.mem_zipIdx_iff_getElem?.2 (List.getElem?_eq_getElem hi)
  exact OrderedMap.get_setAll_of_mem .empty _ hkeys hmem

theorem placeNodes_eq (hids : (nodes.map EditableNode.id).Nodup) (centerX startY : ℚ) :
    placeNodes nodes (calculateNodePositions nodes centerX startY) =
      nodes.mapIdx fun i node => (node, hitArea node
        ⟨grid.cellX centerX nodes.length i, grid.cellY startY i⟩) := by
  apply filterMap_eq_mapIdx
  intro i hi
  rw [get_calculateNodePositions hids hi, Option.map_some]

theorem map_fst_placeNodes (hids : (nodes.map EditableNode.id).Nodup) (centerX startY : ℚ) :
    (placeNodes nodes (calculateNodePositions nodes centerX startY)).map Prod.fst = nodes := by
  rw [placeNodes_eq hids, map_mapIdx, mapIdx_eq_map, List.map_id']

theorem placeNodes_apart (hids : (nodes.map EditableNode.id).Nodup) (centerX startY : ℚ) :
    (placeNodes nodes (calculateNodePositions nodes centerX startY)).Pairwise
      fun a b => a.2.Apart b.2 := by
  rw [placeNodes_eq hids, List.pairwise_iff_getElem]
  intro i j hi hj hij
  rw [List.length_mapIdx] at hi hj
  rw [List.getElem_mapIdx, List.getElem_mapIdx]
  have hposi := radius_pos nodes[i].type
  have hposj := radius_pos nodes[j].type
  have hlei := radius_le nodes[i].type
  have hlej := radius_le nodes[j].type
  refine Grid.apart hij rfl rfl ?_ ?_ ?_ <;>
    simp only [hitArea, grid, LAYOUT.NODE_SPACING_X, LAYOUT.NODE_SPACING_Y] <;> linarith

theorem placeNodes_within (hids : (nodes.map EditableNode.id).Nodup)
    (h : placed ∈ placeNodes nodes (calculateNodePositions nodes centerX startY)) :
    |placed.2.centre.x - centerX| ≤ 90 ∧ placed.2.radius ≤ 36 := by
  rw [placeNodes_eq hids, List.mem_mapIdx] at h
  obtain ⟨i, hi, rfl⟩ := h
  constructor
  · have hspacing : 0 ≤ grid.spacingX := by norm_num [grid, LAYOUT.NODE_SPACING_X]
    refine (Grid.abs_cellX_sub_le (by decide) hspacing centerX hi).trans_eq ?_
    norm_num [grid, LAYOUT.MAX_NODES_PER_ROW, LAYOUT.NODE_SPACING_X]
  · have hle := radius_le nodes[i].type
    simp only [hitArea]
    linarith

theorem placeSections_within (hids : ∀ nodes ∈ ss, (nodes.map EditableNode.id).Nodup)
    (h : placed ∈ placeSections centerX ss) :
    centerX - 90 ≤ placed.2.centre.x ∧ placed.2.radius ≤ 36 := by
  induction ss generalizing centerX with
  | nil => cases h
  | cons nodes rest ih =>
      obtain ⟨hnodes, hrest⟩ := List.forall_mem_cons.1 hids
      rcases List.mem_append.1 h with hfirst | hlater
      · obtain ⟨hx, hradius⟩ := placeNodes_within hnodes hfirst
        exact ⟨by linarith [(abs_le.1 hx).1], hradius⟩
      · obtain ⟨hx, hradius⟩ := ih hrest hlater
        simp only [LAYOUT.SECTION_WIDTH, LAYOUT.SECTION_GAP] at hx
        exact ⟨by linarith, hradius⟩

theorem placeSections_apart (hids : ∀ nodes ∈ ss, (nodes.map EditableNode.id).Nodup)
    (centerX : ℚ) : (placeSections centerX ss).Pairwise fun a b => a.2.Apart b.2 := by
  induction ss generalizing centerX with
  | nil => exact List.Pairwise.nil
  | cons nodes rest ih =>
      obtain ⟨hnodes, hrest⟩ := List.forall_mem_cons.1 hids
      rw [placeSections, List.pairwise_append]
      refine ⟨placeNodes_apart hnodes centerX startY, ih hrest _, fun a ha b hb => ?_⟩
      obtain ⟨hax, har⟩ := placeNodes_within hnodes ha
      obtain ⟨hbx, hbr⟩ := placeSections_within hrest hb
      have hright := (abs_le.1 hax).2
      apply Disc.apart_of_right
      simp only [LAYOUT.SECTION_WIDTH, LAYOUT.SECTION_GAP] at hbx
      linarith

theorem map_fst_placeSections (hids : ∀ nodes ∈ ss, (nodes.map EditableNode.id).Nodup)
    (centerX : ℚ) : (placeSections centerX ss).map Prod.fst = ss.flatten := by
  induction ss generalizing centerX with
  | nil => rfl
  | cons nodes rest ih =>
      obtain ⟨hnodes, hrest⟩ := List.forall_mem_cons.1 hids
      rw [placeSections, List.map_append, map_fst_placeNodes hnodes, ih hrest, List.flatten_cons]

end Positions

/-- The nodes of the canvas do not overlap, and a search finds the one at a point. -/
theorem findNodeAtPosition_exact (level : EditableDomainLevel)
    (hids : ∀ nodes ∈ sections level, (nodes.map EditableNode.id).Nodup) :
    (placedNodes level).map Prod.fst =
        level.knowledge ++ level.skills ++ level.traits ++ level.milestones ∧
      ((placedNodes level).Pairwise fun a b => Disjoint a.2.points b.2.points) ∧
      ∀ worldPos allNodes node, findNodeAtPosition worldPos allNodes level = some node ↔
        ∃ area, (node, area) ∈ placedNodes level ∧ area.Contains worldPos := by
  have hseparate : Separate Prod.snd (placedNodes level) :=
    (placeSections_apart hids (firstX level)).imp Disc.Apart.disjoint
  refine ⟨?_, hseparate, fun worldPos allNodes node => ?_⟩
  · rw [placedNodes, map_fst_placeSections hids]
    simp [sections]
  · rw [findNodeAtPosition, findInSections_eq, Option.map_eq_some_iff]
    constructor
    · rintro ⟨placed, hfind, rfl⟩
      obtain ⟨hmem, hin⟩ := (find?_contains_iff hseparate worldPos placed).1 hfind
      exact ⟨placed.2, hmem, hin⟩
    · rintro ⟨area, hmem, hin⟩
      exact ⟨(node, area), (find?_contains_iff hseparate worldPos _).2 ⟨hmem, hin⟩, rfl⟩

def namedNode (id : String) (type : NodeType) (name : String) : EditableNode where
  id := id
  elementId := none
  type := type
  name := name
  description := ""
  howToLearn := none
  howToDevelop := none
  measurementCriteria := none
  howToAchieve := none
  bloomLevel := none
  dreyfusLevel := none
  minScore := none

/-- Two sections with one node each under the same id. -/
def noviceLevel : EditableDomainLevel where
  id := "level-1"
  elementId := none
  level := 1
  name := "Novice"
  description := ""
  pointsRequired := 50
  knowledge := [namedNode "a" .knowledge "Openings", namedNode "b" .knowledge "Endgames"]
  skills := [namedNode "a" .skill "Calculation"]
  traits := []
  milestones := []

theorem findNodeAtPosition_novice :
    (placedNodes noviceLevel).map Prod.fst = noviceLevel.knowledge ++ noviceLevel.skills ++
        noviceLevel.traits ++ noviceLevel.milestones ∧
      ((placedNodes noviceLevel).Pairwise fun a b => Disjoint a.2.points b.2.points) ∧
      ∀ worldPos allNodes node, findNodeAtPosition worldPos allNodes noviceLevel = some node ↔
        ∃ area, (node, area) ∈ placedNodes noviceLevel ∧ area.Contains worldPos :=
  findNodeAtPosition_exact noviceLevel (by decide +kernel)

end AtlasOfUs.Editor.CreatorCanvas
