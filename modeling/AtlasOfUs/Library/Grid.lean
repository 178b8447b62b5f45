import AtlasOfUs.Library.Discs
import Mathlib.Algebra.Order.Field.Basic
import Mathlib.Algebra.Order.Ring.Abs
import Mathlib.Data.Nat.Cast.Order.Field
import Mathlib.Tactic.Linarith
import Mathlib.Tactic.Ring
import Mathlib.Tactic.FieldSimp

namespace AtlasOfUs.Library

section Indexed

variable {α β γ : Type}

theorem map_mapIdx (f : β → γ) (g : Nat → α → β) (xs : List α) :
    (xs.mapIdx g).map f = xs.mapIdx fun i x => f (g i x) := by
  apply List.ext_getElem
  · simp
  · intro i _ _
    simp

theorem mapIdx_eq_map (f : α → β) (xs : List α) : (xs.mapIdx fun _ x => f x) = xs.map f := by
  apply List.ext_getElem
  · simp
  · intro i _ _
    simp

theorem filterMap_eq_mapIdx {f : α → Option β} {g : Nat → α → β} {xs : List α}
    (h : ∀ i, ∀ hi : i < xs.length, f xs[i] = some (g i xs[i])) : xs.filterMap f = xs.mapIdx g := by
  induction xs generalizing g with
  | nil => rfl
  | cons x xs ih =>
      have hx : f x = some (g 0 x) := h 0 (by simp)
      rw [List.filterMap_cons_some hx, List.mapIdx_cons, ih]
      intro i hi
      exact h (i + 1) (Nat.succ_lt_succ hi)

end Indexed

structure Grid (K : Type) where
  perRow : Nat
  spacingX : K
  spacingY : K

namespace Grid

variable {K : Type} (g : Grid K)

def row (index : Nat) : Nat := index / g.perRow

def col (index : Nat) : Nat := index % g.perRow

def rows (count : Nat) : Nat := (count + (g.perRow - 1)) / g.perRow

def itemsInRow (count row : Nat) : Nat := min g.perRow (count - row * g.perRow)

variable {g} {count i j : Nat}

theorem col_lt (hperRow : 0 < g.perRow) (i : Nat) : g.col i < g.perRow := Nat.mod_lt i hperRow

theorem row_mul_add_col (i : Nat) : g.row i * g.perRow + g.col i = i := Nat.div_add_mod' i g.perRow

theorem col_lt_itemsInRow (hperRow : 0 < g.perRow) (hi : i < count) :
    g.col i < g.itemsInRow count (g.row i) := by
  have hindex := row_mul_add_col (g := g) i
  rw [itemsInRow, lt_min_iff]
  exact ⟨col_lt hperRow i, by omega⟩

theorem row_lt_rows (hperRow : 0 < g.perRow) (hi : i < count) : g.row i < g.rows count := by
  rw [row, rows, Nat.div_lt_iff_lt_mul hperRow]
  have hle : count + (g.perRow - 1) < (count + (g.perRow - 1)) / g.perRow * g.perRow + g.perRow :=
    Nat.lt_div_mul_add hperRow
  omega

theorem row_le_row (hij : i ≤ j) : g.row i ≤ g.row j := Nat.div_le_div_right hij

theorem col_lt_col (hij : i < j) (hrow : g.row i = g.row j) : g.col i < g.col j := by
  have hi := row_mul_add_col (g := g) i
  have hj := row_mul_add_col (g := g) j
  rw [hrow] at hi
  omega

variable [Field K]

def rowWidth (g : Grid K) (count row : Nat) : K := ((g.itemsInRow count row : K) - 1) * g.spacingX

/-- The place of an item in a grid around `centerX` that starts at `top`. -/
def cellX (g : Grid K) (centerX : K) (count index : Nat) : K :=
  centerX - g.rowWidth count (g.row index) / 2 + g.col index * g.spacingX

def cellY (g : Grid K) (top : K) (index : Nat) : K := top + g.row index * g.spacingY

variable [LinearOrder K] [IsStrictOrderedRing K]

theorem abs_cellX_sub_le (hperRow : 0 < g.perRow) (hspacing : 0 ≤ g.spacingX) (centerX : K)
    (hi : i < count) :
    |g.cellX centerX count i - centerX| ≤ ((g.perRow : K) - 1) * g.spacingX / 2 := by
  have hcol : ((g.col i : K)) + 1 ≤ g.itemsInRow count (g.row i) := by
    exact_mod_cast col_lt_itemsInRow hperRow hi
  have hitems : (g.itemsInRow count (g.row i) : K) ≤ g.perRow := by
    exact_mod_cast min_le_left _ _
  have hnonneg : (0 : K) ≤ g.col i := Nat.cast_nonneg _
  rw [cellX, rowWidth, abs_le]
  constructor
  · have hwidth := mul_le_mul_of_nonneg_right hitems hspacing
    have hright := mul_nonneg hnonneg hspacing
    linarith
  · have hwidth := mul_le_mul_of_nonneg_right hitems hspacing
    have hright := mul_le_mul_of_nonneg_right hcol hspacing
    linarith

theorem le_cellY (hspacing : 0 ≤ g.spacingY) (top : K) (i : Nat) : top ≤ g.cellY top i :=
  le_add_of_nonneg_right (mul_nonneg (Nat.cast_nonneg _) hspacing)

theorem cellY_add_spacing_le (hperRow : 0 < g.perRow) (hspacing : 0 ≤ g.spacingY) (top : K)
    (hi : i < count) : g.cellY top i + g.spacingY ≤ top + g.rows count * g.spacingY := by
  have hrow : (g.row i : K) + 1 ≤ g.rows count := by exact_mod_cast row_lt_rows hperRow hi
  have hheight := mul_le_mul_of_nonneg_right hrow hspacing
  rw [cellY]
  linarith

theorem spacing_le_abs (hspacingX : 0 ≤ g.spacingX) (hspacingY : 0 ≤ g.spacingY) (count : Nat)
    (centerX top : K) (hij : i < j) :
    g.spacingX ≤ |g.cellX centerX count i - g.cellX centerX count j| ∨
      g.spacingY ≤ |g.cellY top i - g.cellY top j| := by
  rcases (row_le_row (g := g) hij.le).eq_or_lt with hrow | hrow
  · left
    have hcol : (g.col i : K) + 1 ≤ g.col j := by exact_mod_cast col_lt_col hij hrow
    have hstep := mul_le_mul_of_nonneg_right hcol hspacingX
    rw [abs_sub_comm, cellX, cellX, hrow]
    refine le_trans ?_ (le_abs_self _)
    linarith
  · right
    have hnext : (g.row i : K) + 1 ≤ g.row j := by exact_mod_cast hrow
    have hstep := mul_le_mul_of_nonneg_right hnext hspacingY
    rw [abs_sub_comm, cellY, cellY]
    refine le_trans ?_ (le_abs_self _)
    linarith

/-- Discs around two items of a grid do not meet if their radii together are below its spacing. -/
theorem apart {g : Grid ℚ} {d e : Disc} {centerX top : ℚ} (hij : i < j)
    (hd : d.centre = ⟨g.cellX centerX count i, g.cellY top i⟩)
    (he : e.centre = ⟨g.cellX centerX count j, g.cellY top j⟩)
    (hradius : 0 ≤ d.radius + e.radius) (hspacingX : d.radius + e.radius < g.spacingX)
    (hspacingY : d.radius + e.radius < g.spacingY) : d.Apart e := by
  have hx := hradius.trans hspacingX.le
  have hy := hradius.trans hspacingY.le
  rw [Disc.Apart, hd, he]
  rcases spacing_le_abs hx hy count centerX top hij with hcol | hrow
  · exact .inl (hspacingX.trans_le hcol)
  · exact .inr (hspacingY.trans_le hrow)

end Grid

end AtlasOfUs.Library
