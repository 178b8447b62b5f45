import AtlasOfUs.Library.Machine
import AtlasOfUs.Viewer.HitTest
import Mathlib.Tactic.FieldSimp
import Mathlib.Tactic.Ring

namespace AtlasOfUs.Viewer.NodeTree

open Library

structure Camera where
  x : ℚ
  y : ℚ
  zoom : ℚ
  deriving DecidableEq

namespace CAMERA

def MIN_ZOOM : ℚ := 1 / 4
def MAX_ZOOM : ℚ := 2

end CAMERA

def worldToScreen (world : Point) (camera : Camera) (canvasWidth canvasHeight : ℚ) : Point where
  x := (world.x - camera.x) * camera.zoom + canvasWidth / 2
  y := (world.y - camera.y) * camera.zoom + canvasHeight / 2

def screenToWorld (screen : Point) (camera : Camera) (canvasWidth canvasHeight : ℚ) : Point where
  x := (screen.x - canvasWidth / 2) / camera.zoom + camera.x
  y := (screen.y - canvasHeight / 2) / camera.zoom + camera.y

def calculateInitialCamera (bounds : Box) : Camera where
  x := (bounds.minX + bounds.maxX) / 2
  y := (bounds.minY + bounds.maxY) / 2
  zoom := 7 / 10

structure Rect where
  left : ℚ
  top : ℚ
  width : ℚ
  height : ℚ

def Rect.toCanvas (rect : Rect) (client : Point) : Point := ⟨client.x - rect.left, client.y - rect.top⟩

structure CanvasState where
  camera : Camera
  isDragging : Bool
  lastMousePos : Point
  dragStart : Point
  hoveredNode : Option CanvasNode
  selectedNode : Option CanvasNode

inductive CanvasEvent
  | mouseDown (client : Point)
  | mouseMove (client : Point)
  | mouseUp (client : Point)
  | mouseLeave
  | wheel (client : Point) (deltaY : ℚ)

section Handlers

variable (rect : Rect) (nodes : List CanvasNode) (s : CanvasState)

def nodeAt (client : Point) : Option CanvasNode :=
  findNodeAtPosition (screenToWorld (rect.toCanvas client) s.camera rect.width rect.height) nodes

def handleMouseDown (client : Point) : CanvasState :=
  { s with dragStart := client, isDragging := true, lastMousePos := client }

/-- `setHoveredNode`: the old node stays if the new one has its id. -/
def hovered (prev newHoveredNode : Option CanvasNode) : Option CanvasNode :=
  if prev.map CanvasNode.id = newHoveredNode.map CanvasNode.id then prev else newHoveredNode

def Camera.pan (camera : Camera) (dx dy : ℚ) : Camera :=
  { camera with x := camera.x - dx / camera.zoom, y := camera.y - dy / camera.zoom }

def handleMouseMove (client : Point) : CanvasState :=
  if s.isDragging then
    { s with
      camera := s.camera.pan (client.x - s.lastMousePos.x) (client.y - s.lastMousePos.y)
      lastMousePos := client }
  else
    { s with hoveredNode := hovered s.hoveredNode (nodeAt rect nodes s client) }

def handleMouseUp (client : Point) : CanvasState :=
  let wasClick := |client.x - s.dragStart.x| < 5 ∧ |client.y - s.dragStart.y| < 5
  { s with
    selectedNode := if wasClick then nodeAt rect nodes s client else s.selectedNode
    isDragging := false }

def handleMouseLeave : CanvasState := { s with isDragging := false, hoveredNode := none }

def Camera.wheel (camera : Camera) (mouse : Point) (deltaY : ℚ) : Camera :=
  let zoomFactor := if 0 < deltaY then 9 / 10 else 11 / 10
  let newZoom := max CAMERA.MIN_ZOOM (min CAMERA.MAX_ZOOM (camera.zoom * zoomFactor))
  let mouseWorldBefore := screenToWorld mouse camera rect.width rect.height
  let newCamera := { camera with zoom := newZoom }
  let mouseWorldAfter := screenToWorld mouse newCamera rect.width rect.height
  { newCamera with
    x := newCamera.x + (mouseWorldBefore.x - mouseWorldAfter.x)
    y := newCamera.y + (mouseWorldBefore.y - mouseWorldAfter.y) }

def handleWheel (client : Point) (deltaY : ℚ) : CanvasState :=
  { s with camera := s.camera.wheel rect (rect.toCanvas client) deltaY }

def CanvasEvent.apply (event : CanvasEvent) : CanvasState :=
  match event with
  | .mouseDown client => handleMouseDown s client
  | .mouseMove client => handleMouseMove rect nodes s client
  | .mouseUp client => handleMouseUp rect nodes s client
  | .mouseLeave => handleMouseLeave s
  | .wheel client deltaY => handleWheel rect s client deltaY

end Handlers

def mounted (camera : Camera) : CanvasState where
  camera := camera
  isDragging := false
  lastMousePos := ⟨0, 0⟩
  dragStart := ⟨0, 0⟩
  hoveredNode := none
  selectedNode := none

section Maps

variable {camera : Camera} (canvasWidth canvasHeight : ℚ)

def Camera.WithinLimits (camera : Camera) : Prop :=
  CAMERA.MIN_ZOOM ≤ camera.zoom ∧ camera.zoom ≤ CAMERA.MAX_ZOOM

theorem Camera.WithinLimits.zoom_ne_zero (h : camera.WithinLimits) : camera.zoom ≠ 0 := by
  have hmin : (0 : ℚ) < CAMERA.MIN_ZOOM := by norm_num [CAMERA.MIN_ZOOM]
  exact (hmin.trans_le h.1).ne'

theorem withinLimits_calculateInitialCamera (bounds : Box) :
    (calculateInitialCamera bounds).WithinLimits := by
  norm_num [Camera.WithinLimits, calculateInitialCamera, CAMERA.MIN_ZOOM, CAMERA.MAX_ZOOM]

theorem screenToWorld_worldToScreen (h : camera.zoom ≠ 0) (p : Point) :
    screenToWorld (worldToScreen p camera canvasWidth canvasHeight) camera canvasWidth
      canvasHeight = p := by
  rw [screenToWorld, worldToScreen, add_sub_cancel_right, add_sub_cancel_right,
    mul_div_cancel_right₀ _ h, mul_div_cancel_right₀ _ h, sub_add_cancel, sub_add_cancel]

theorem worldToScreen_screenToWorld (h : camera.zoom ≠ 0) (p : Point) :
    worldToScreen (screenToWorld p camera canvasWidth canvasHeight) camera canvasWidth
      canvasHeight = p := by
  rw [screenToWorld, worldToScreen, add_sub_cancel_right, add_sub_cancel_right,
    div_mul_cancel₀ _ h, div_mul_cancel₀ _ h, sub_add_cancel, sub_add_cancel]

theorem worldToScreen_pan (h : camera.zoom ≠ 0) (dx dy : ℚ) (p : Point) :
    worldToScreen p (camera.pan dx dy) canvasWidth canvasHeight =
      ⟨(worldToScreen p camera canvasWidth canvasHeight).x + dx,
        (worldToScreen p camera canvasWidth canvasHeight).y + dy⟩ := by
  rw [worldToScreen, worldToScreen, Camera.pan, Point.mk.injEq]
  constructor <;> field_simp <;> ring

theorem withinLimits_wheel (rect : Rect) (camera : Camera) (mouse : Point) (deltaY : ℚ) :
    (camera.wheel rect mouse deltaY).WithinLimits := by
  have hlimits : CAMERA.MIN_ZOOM ≤ CAMERA.MAX_ZOOM := by
    norm_num [CAMERA.MIN_ZOOM, CAMERA.MAX_ZOOM]
  exact ⟨le_max_left _ _, max_le hlimits (min_le_left _ _)⟩

theorem wheel_x (rect : Rect) (camera : Camera) (mouse : Point) (deltaY : ℚ) :
    (camera.wheel rect mouse deltaY).x = (mouse.x - rect.width / 2) / camera.zoom + camera.x -
      (mouse.x - rect.width / 2) / (camera.wheel rect mouse deltaY).zoom := by
  simp only [Camera.wheel, screenToWorld]
  ring

theorem wheel_y (rect : Rect) (camera : Camera) (mouse : Point) (deltaY : ℚ) :
    (camera.wheel rect mouse deltaY).y = (mouse.y - rect.height / 2) / camera.zoom + camera.y -
      (mouse.y - rect.height / 2) / (camera.wheel rect mouse deltaY).zoom := by
  simp only [Camera.wheel, screenToWorld]
  ring

theorem worldToScreen_wheel (rect : Rect) (camera : Camera) (mouse : Point) (deltaY : ℚ) :
    worldToScreen (screenToWorld mouse camera rect.width rect.height)
      (camera.wheel rect mouse deltaY) rect.width rect.height = mouse := by
  have hzoom := (withinLimits_wheel rect camera mouse deltaY).zoom_ne_zero
  rw [worldToScreen, wheel_x, wheel_y, screenToWorld]
  simp only [sub_sub_cancel, div_mul_cancel₀ _ hzoom, sub_add_cancel]

end Maps

section Events

def CanvasEvent.position : CanvasEvent → Option Point
  | .mouseDown client => some client
  | .mouseMove client => some client
  | .mouseUp _ => none
  | .mouseLeave => none
  | .wheel _ _ => none

def CanvasEvent.button : CanvasEvent → Option Bool
  | .mouseDown _ => some true
  | .mouseMove _ => none
  | .mouseUp _ => some false
  | .mouseLeave => some false
  | .wheel _ _ => none

def mousePosition (events : List CanvasEvent) : Option Point :=
  (events.filterMap CanvasEvent.position).getLast?

def pressed (events : List CanvasEvent) : Bool :=
  (events.filterMap CanvasEvent.button).getLast?.getD false

variable (event : CanvasEvent) (events : List CanvasEvent)

theorem getLast?_filterMap_append {α β : Type} (f : α → Option β) (xs : List α) (x : α) :
    ((xs ++ [x]).filterMap f).getLast? = (f x).or (xs.filterMap f).getLast? := by
  rw [List.filterMap_append]
  cases hx : f x with
  | none => simp [hx]
  | some y => simp [hx]

theorem mousePosition_append :
    mousePosition (events ++ [event]) = event.position.or (mousePosition events) :=
  getLast?_filterMap_append _ _ _

theorem pressed_append : pressed (events ++ [event]) = event.button.getD (pressed events) := by
  rw [pressed, getLast?_filterMap_append]
  cases event.button <;> rfl

end Events

section Run

variable {rect : Rect} {nodes : List CanvasNode} {s : CanvasState} {event : CanvasEvent}
  {events : List CanvasEvent} {camera : Camera}

def canvasAt (rect : Rect) (nodes : List CanvasNode) (events : List CanvasEvent) (camera : Camera)
    (k : Nat) : CanvasState :=
  stateAt (fun event s => event.apply rect nodes s) events (mounted camera) k

theorem withinLimits_apply (h : s.camera.WithinLimits) :
    (event.apply rect nodes s).camera.WithinLimits := by
  cases event with
  | mouseDown client => exact h
  | mouseMove client =>
      rw [CanvasEvent.apply, handleMouseMove]
      split
      · exact h
      · exact h
  | mouseUp client => exact h
  | mouseLeave => exact h
  | wheel client deltaY => exact withinLimits_wheel rect s.camera _ deltaY

theorem isDragging_apply :
    (event.apply rect nodes s).isDragging = event.button.getD s.isDragging := by
  cases event with
  | mouseMove client =>
      rw [CanvasEvent.apply, handleMouseMove]
      split <;> rfl
  | mouseDown | mouseUp | mouseLeave | wheel => rfl

/-- While dragging, the state keeps the position that the next step is measured from. -/
theorem lastMousePos_apply (hdragging : s.isDragging = true → mousePosition events = some s.lastMousePos)
    (h : (event.apply rect nodes s).isDragging = true) :
    mousePosition (events ++ [event]) = some (event.apply rect nodes s).lastMousePos := by
  rw [isDragging_apply] at h
  rw [mousePosition_append]
  cases event with
  | mouseDown client => rfl
  | mouseMove client =>
      have hdrag : s.isDragging = true := h
      rw [CanvasEvent.apply, handleMouseMove, if_pos hdrag]
      rfl
  | mouseUp client => cases h
  | mouseLeave => cases h
  | wheel client deltaY => exact hdragging h

theorem withinLimits_along (h : camera.WithinLimits) (k : Nat) :
    (canvasAt rect nodes events camera k).camera.WithinLimits :=
  holds_along (P := fun s : CanvasState => s.camera.WithinLimits) (C := fun _ _ => True)
    (fun _ _ _ hs => withinLimits_apply hs) h (fun _ _ _ => trivial) k

theorem dragging_along (rect : Rect) (nodes : List CanvasNode) (events : List CanvasEvent)
    (camera : Camera) (k : Nat) :
    (canvasAt rect nodes events camera k).isDragging = pressed (events.take k) ∧
      ((canvasAt rect nodes events camera k).isDragging = true →
        mousePosition (events.take k) = some (canvasAt rect nodes events camera k).lastMousePos) := by
  induction k with
  | zero =>
      refine ⟨rfl, ?_⟩
      rintro ⟨⟩
  | succ k ih =>
      obtain ⟨hpressed, hposition⟩ := ih
      rw [canvasAt] at *
      cases hk : events[k]? with
      | none =>
          rw [stateAt_succ_of_none _ hk, List.take_add_one, hk, Option.toList_none, List.append_nil]
          exact ⟨hpressed, hposition⟩
      | some event =>
          rw [stateAt_succ _ hk, List.take_add_one, hk, Option.toList_some, pressed_append,
            isDragging_apply, hpressed]
          refine ⟨rfl, fun h => lastMousePos_apply hposition ?_⟩
          rw [isDragging_apply, hpressed]
          exact h

/-- Zooming and dragging keep what is under the cursor under it. -/
theorem camera_correct (rect : Rect) (nodes : List CanvasNode) (events : List CanvasEvent)
    (camera : Camera) (hcamera : camera.WithinLimits) (k : Nat) :
    let before := (canvasAt rect nodes events camera k).camera
    let after := (canvasAt rect nodes events camera (k + 1)).camera
    let screen (world : Point) (camera : Camera) :=
      worldToScreen world camera rect.width rect.height
    let world (screen : Point) (camera : Camera) :=
      screenToWorld screen camera rect.width rect.height
    (CAMERA.MIN_ZOOM ≤ before.zoom ∧ before.zoom ≤ CAMERA.MAX_ZOOM) ∧
      (∀ p, world (screen p before) before = p ∧ screen (world p before) before = p) ∧
      (∀ client deltaY, events[k]? = some (.wheel client deltaY) →
        screen (world (rect.toCanvas client) before) after = rect.toCanvas client) ∧
      ∀ client, events[k]? = some (.mouseMove client) → pressed (events.take k) = true →
        ∃ last, mousePosition (events.take k) = some last ∧
          ∀ p, screen p after =
            ⟨(screen p before).x + (client.x - last.x), (screen p before).y + (client.y - last.y)⟩ := by
  intro before after screen world
  have hlimits : before.WithinLimits := withinLimits_along hcamera k
  obtain ⟨hpressed, hposition⟩ := dragging_along rect nodes events camera k
  refine ⟨hlimits, fun p => ⟨?_, ?_⟩, fun client deltaY hk => ?_, fun client hk hdown => ?_⟩
  · exact screenToWorld_worldToScreen _ _ hlimits.zoom_ne_zero p
  · exact worldToScreen_screenToWorld _ _ hlimits.zoom_ne_zero p
  · have hafter : after = before.wheel rect (rect.toCanvas client) deltaY :=
      congrArg CanvasState.camera (stateAt_succ _ hk _)
    rw [hafter]
    exact worldToScreen_wheel rect before _ deltaY
  · rw [hdown] at hpressed
    refine ⟨_, hposition hpressed, fun p => ?_⟩
    have hafter : after = (handleMouseMove rect nodes (canvasAt rect nodes events camera k)
        client).camera :=
      congrArg CanvasState.camera (stateAt_succ _ hk _)
    rw [handleMouseMove, if_pos hpressed] at hafter
    rw [hafter]
    exact worldToScreen_pan _ _ hlimits.zoom_ne_zero _ _ p

def dragAndZoom : List CanvasEvent :=
  [.mouseDown ⟨100, 100⟩, .mouseMove ⟨130, 90⟩, .wheel ⟨130, 90⟩ (-1), .mouseUp ⟨130, 90⟩]

theorem camera_dragged :
    (calculateInitialCamera ⟨0, 0, 0, 0⟩).WithinLimits ∧
      ∃ last, mousePosition (dragAndZoom.take 1) = some last ∧
        ∀ p, worldToScreen p
            (canvasAt ⟨0, 0, 800, 600⟩ [] dragAndZoom (calculateInitialCamera ⟨0, 0, 0, 0⟩) 2).camera
            800 600 =
          let before := worldToScreen p
            (canvasAt ⟨0, 0, 800, 600⟩ [] dragAndZoom (calculateInitialCamera ⟨0, 0, 0, 0⟩) 1).camera
            800 600
          ⟨before.x + (130 - last.x), before.y + (90 - last.y)⟩ :=
  ⟨withinLimits_calculateInitialCamera _,
    (camera_correct ⟨0, 0, 800, 600⟩ [] dragAndZoom _ (withinLimits_calculateInitialCamera _)
      1).2.2.2 ⟨130, 90⟩ rfl rfl⟩

end Run

end AtlasOfUs.Viewer.NodeTree
