import AtlasOfUs.Library.Grid
import AtlasOfUs.Viewer.NodeTree
import Mathlib.Data.List.Sort
import Mathlib.Tactic.NormNum

namespace AtlasOfUs.Viewer.NodeTree

open Library

section Data

/-- An item of the response: an object, whose members are read by their names. -/
abbrev DomainNode := Json

structure DomainLevel where
  level : Option Json
  name : Option Json
  description : Option Json
  pointsRequired : Option Json
  knowledge : Option (List DomainNode)
  skills : Option (List DomainNode)
  traits : Option (List DomainNode)
  milestones : Option (List DomainNode)

structure DomainData where
  levels : List DomainLevel

structure Requirement where
  bloomLevel : Option Json
  dreyfusLevel : Option Json
  minScore : Option Json

structure CanvasNode where
  id : String
  name : Option Json
  description : Option Json
  type : NodeType
  levelIndex : Nat
  x : ℚ
  y : ℚ
  radius : ℚ
  requirement : Option Requirement
  elementId : Option Json
  originalData : Json

structure Connection where
  source : CanvasNode
  target : CanvasNode
  isMainPath : Bool

structure LayoutResult where
  nodes : List CanvasNode
  connections : List Connection
  bounds : Box

end Data

namespace LAYOUT

def LEVEL_SPACING : ℚ := 500
def NODE_SPACING_X : ℚ := 130
def NODE_SPACING_Y : ℚ := 105
def SECTION_GAP : ℚ := 70
def PADDING : ℚ := 150
def LEVEL_HEADER_OFFSET : ℚ := 110
def MAX_NODES_PER_ROW : Nat := 3

end LAYOUT

def NODE_RADIUS : NodeType → ℚ
  | .level => 45
  | .knowledge => 28
  | .skill => 28
  | .trait => 25
  | .milestone => 30

def typeName : NodeType → String
  | .level => "level"
  | .knowledge => "knowledge"
  | .skill => "skill"
  | .trait => "trait"
  | .milestone => "milestone"

section Layout

/-- What a template puts in for a value. The parameter is for numbers, arrays and objects. -/
def template (text : Json → String) : Option Json → String
  | none => "undefined"
  | some .null => "null"
  | some (.bool b) => if b then "true" else "false"
  | some (.str s) => s
  | some v => text v

variable (convert : Json → Option ℚ) (text : Json → String)

/-- `a.level - b.level <= 0`. A level that has no number is taken for equal to any other. -/
def levelBefore (a b : DomainLevel) : Bool :=
  match a.level.bind (toNumber convert), b.level.bind (toNumber convert) with
  | some x, some y => x - y ≤ 0
  | _, _ => true

def sortedLevels (domainData : DomainData) : List DomainLevel :=
  domainData.levels.mergeSort (levelBefore convert)

structure Section where
  type : NodeType
  items : List DomainNode

/-- The lists of a level that are not empty, in the order in which they are placed. -/
def sections (level : DomainLevel) : List Section :=
  [⟨.knowledge, level.knowledge.getD []⟩, ⟨.skill, level.skills.getD []⟩,
    ⟨.trait, level.traits.getD []⟩, ⟨.milestone, level.milestones.getD []⟩].filter
      fun s => 0 < s.items.length

def grid : Grid ℚ := ⟨LAYOUT.MAX_NODES_PER_ROW, LAYOUT.NODE_SPACING_X, LAYOUT.NODE_SPACING_Y⟩

/-- What a section adds to `currentY`, with the gap to the next one if there is any. -/
def Section.height (s : Section) (rest : List Section) : ℚ :=
  grid.rows s.items.length * LAYOUT.NODE_SPACING_Y + if rest.isEmpty then 0 else LAYOUT.SECTION_GAP

def sectionsHeight : List Section → ℚ
  | [] => 0
  | s :: rest => s.height rest + sectionsHeight rest

def totalHeight (level : DomainLevel) : ℚ :=
  LAYOUT.LEVEL_HEADER_OFFSET + sectionsHeight (sections level)

def createCanvasNode (domainNode : DomainNode) (type : NodeType) (levelIndex : Nat) (x y : ℚ) :
    CanvasNode where
  id := typeName type ++ "-" ++ toString levelIndex ++ "-" ++ template text (domainNode.get "name")
  name := domainNode.get "name"
  description := domainNode.get "description"
  type := type
  levelIndex := levelIndex
  x := x
  y := y
  radius := NODE_RADIUS type
  requirement := some {
    bloomLevel := domainNode.get "bloomLevel"
    dreyfusLevel := domainNode.get "dreyfusLevel"
    minScore := domainNode.get "minScore" }
  elementId := domainNode.get "elementId"
  originalData := domainNode

def members (fields : List (String × Option Json)) : Json :=
  .object (fields.filterMap fun field => field.2.map fun v => (field.1, v))

def headerName (level : DomainLevel) : Json :=
  (level.name.filter truthy).getD (.str ("Level " ++ template text level.level))

def headerData (level : DomainLevel) : Json :=
  members [("level", level.level), ("name", level.name), ("description", level.description),
    ("pointsRequired", level.pointsRequired)]

def levelHeader (level : DomainLevel) (levelIndex : Nat) (x y : ℚ) : CanvasNode where
  id := "level-" ++ toString levelIndex
  name := some (headerName text level)
  description := level.description
  type := .level
  levelIndex := levelIndex
  x := x
  y := y
  radius := NODE_RADIUS .level
  requirement := none
  elementId := none
  originalData := headerData level

def placeSection (levelIndex : Nat) (levelCenterX currentY : ℚ) (s : Section) : List CanvasNode :=
  s.items.mapIdx fun itemIndex item =>
    createCanvasNode text item s.type levelIndex (grid.cellX levelCenterX s.items.length itemIndex)
      (grid.cellY currentY itemIndex)

def placeSections (levelIndex : Nat) (levelCenterX : ℚ) : ℚ → List Section → List CanvasNode
  | _, [] => []
  | currentY, s :: rest =>
      placeSection text levelIndex levelCenterX currentY s ++
        placeSections levelIndex levelCenterX (currentY + s.height rest) rest

def levelCenterX (levelIndex : Nat) : ℚ := levelIndex * LAYOUT.LEVEL_SPACING + LAYOUT.PADDING

def calculateLevelLayout (levelIndex : Nat) (level : DomainLevel) : List CanvasNode :=
  let currentY := -totalHeight level / 2
  levelHeader text level levelIndex (levelCenterX levelIndex) currentY ::
    placeSections text levelIndex (levelCenterX levelIndex) (currentY + LAYOUT.LEVEL_HEADER_OFFSET)
      (sections level)

def CanvasNode.circle (node : CanvasNode) : Disc := ⟨⟨node.x, node.y⟩, node.radius⟩

def calculateBounds : List CanvasNode → Box
  | [] => ⟨0, 0, 0, 0⟩
  | node :: nodes =>
      nodes.foldl (fun bounds node => bounds.union (.ofDisc node.circle)) (.ofDisc node.circle)

def mainPath (levelHeaders : List CanvasNode) : List Connection :=
  List.zipWith (fun source target => ⟨source, target, true⟩) levelHeaders levelHeaders.tail

def calculateLayout (domainData : DomainData) : LayoutResult :=
  let levelLayouts := (sortedLevels convert domainData).mapIdx (calculateLevelLayout text)
  let nodes := levelLayouts.flatten
  let levelHeaders := levelLayouts.filterMap fun levelNodes =>
    levelNodes.find? fun n => n.type = .level
  { nodes := nodes, connections := mainPath levelHeaders, bounds := calculateBounds nodes }

end Layout

def CanvasNode.hitArea (node : CanvasNode) : Disc := ⟨⟨node.x, node.y⟩, node.radius * (6 / 5)⟩

/-- The search is in reverse order: what is drawn last is on top. -/
def findNodeAtPosition (worldPos : Point) (nodes : List CanvasNode) : Option CanvasNode :=
  nodes.reverse.find? fun node => node.hitArea.Contains worldPos

end AtlasOfUs.Viewer.NodeTree
