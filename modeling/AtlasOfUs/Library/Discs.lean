import Mathlib.Analysis.Real.Sqrt
import Mathlib.Data.Set.Pairwise.Basic
import Mathlib.Data.List.Pairwise
import Mathlib.Order.CompletePartialOrder

namespace AtlasOfUs.Library

structure Point where
  x : ℚ
  y : ℚ
  deriving DecidableEq

structure Disc where
  centre : Point
  radius : ℚ

namespace Disc

/-- The points of the real plane at no more than the radius from the centre. -/
def points (d : Disc) : Set (ℝ × ℝ) :=
  {p | √((p.1 - d.centre.x) * (p.1 - d.centre.x) + (p.2 - d.centre.y) * (p.2 - d.centre.y)) ≤ d.radius}

def Contains (d : Disc) (p : Point) : Prop := ((p.x : ℝ), (p.y : ℝ)) ∈ d.points

theorem contains_iff (d : Disc) (p : Point) :
    d.Contains p ↔ 0 ≤ d.radius ∧
      (p.x - d.centre.x) * (p.x - d.centre.x) + (p.y - d.centre.y) * (p.y - d.centre.y) ≤
        d.radius ^ 2 := by
  rw [Contains, points, Set.mem_ofPred_eq, Real.sqrt_le_iff]
  dsimp only
  norm_cast

instance (d : Disc) (p : Point) : Decidable (d.Contains p) :=
  decidable_of_iff _ (d.contains_iff p).symm

variable {d e : Disc}

theorem abs_fst_le {p : ℝ × ℝ} (hp : p ∈ d.points) : |p.1 - d.centre.x| ≤ d.radius := by
  refine le_trans (Real.abs_le_sqrt ?_) hp
  have hy := mul_self_nonneg (p.2 - d.centre.y)
  rw [sq]
  linarith

theorem abs_snd_le {p : ℝ × ℝ} (hp : p ∈ d.points) : |p.2 - d.centre.y| ≤ d.radius := by
  refine le_trans (Real.abs_le_sqrt ?_) hp
  have hx := mul_self_nonneg (p.1 - d.centre.x)
  rw [sq]
  linarith

/-- The centres are further apart in one coordinate than the radii together. -/
def Apart (d e : Disc) : Prop :=
  d.radius + e.radius < |d.centre.x - e.centre.x| ∨ d.radius + e.radius < |d.centre.y - e.centre.y|

theorem apart_of_right (h : d.centre.x + (d.radius + e.radius) < e.centre.x) : d.Apart e := by
  left
  rw [abs_sub_comm]
  refine lt_of_lt_of_le ?_ (le_abs_self _)
  linarith

theorem apart_of_below (h : d.centre.y + (d.radius + e.radius) < e.centre.y) : d.Apart e := by
  right
  rw [abs_sub_comm]
  refine lt_of_lt_of_le ?_ (le_abs_self _)
  linarith

theorem Apart.disjoint (h : d.Apart e) : Disjoint d.points e.points := by
  rw [Set.disjoint_left]
  intro p hd he
  rcases h with hx | hy
  · have hgap : ((|d.centre.x - e.centre.x| : ℚ) : ℝ) ≤ d.radius + e.radius := by
      rw [Rat.cast_abs, Rat.cast_sub]
      calc |(d.centre.x : ℝ) - e.centre.x| ≤ |d.centre.x - p.1| + |p.1 - e.centre.x| :=
            abs_sub_le _ _ _
        _ ≤ d.radius + e.radius := by
            rw [abs_sub_comm]
            exact add_le_add (abs_fst_le hd) (abs_fst_le he)
    exact absurd (by exact_mod_cast hgap) hx.not_ge
  · have hgap : ((|d.centre.y - e.centre.y| : ℚ) : ℝ) ≤ d.radius + e.radius := by
      rw [Rat.cast_abs, Rat.cast_sub]
      calc |(d.centre.y : ℝ) - e.centre.y| ≤ |d.centre.y - p.2| + |p.2 - e.centre.y| :=
            abs_sub_le _ _ _
        _ ≤ d.radius + e.radius := by
            rw [abs_sub_comm]
            exact add_le_add (abs_snd_le hd) (abs_snd_le he)
    exact absurd (by exact_mod_cast hgap) hy.not_ge

end Disc

section HitTest

variable {α : Type} {area : α → Disc}

def Separate (area : α → Disc) (items : List α) : Prop :=
  items.Pairwise fun a b => Disjoint (area a).points (area b).points

theorem Separate.reverse {items : List α} (h : Separate area items) :
    Separate area items.reverse := by
  rw [Separate, List.pairwise_reverse]
  exact h.imp fun hab => hab.symm

/-- A search of separate items finds the one that has the point, whatever its direction. -/
theorem find?_contains_iff {items : List α} (h : Separate area items) (p : Point) (a : α) :
    items.find? (fun b => decide ((area b).Contains p)) = some a ↔
      a ∈ items ∧ (area a).Contains p := by
  induction items with
  | nil => simp
  | cons b rest ih =>
      obtain ⟨hb, hrest⟩ := List.pairwise_cons.1 h
      by_cases hin : (area b).Contains p
      · rw [List.find?_cons_of_pos (by simpa using hin), Option.some.injEq, List.mem_cons]
        constructor
        · rintro rfl
          exact ⟨.inl rfl, hin⟩
        · rintro ⟨rfl | hmem, ha⟩
          · rfl
          · exact absurd ha (Set.disjoint_left.1 (hb a hmem) hin)
      · rw [List.find?_cons_of_neg (by simpa using hin), ih hrest, List.mem_cons]
        constructor
        · rintro ⟨hmem, ha⟩
          exact ⟨.inr hmem, ha⟩
        · rintro ⟨rfl | hmem, ha⟩
          · exact absurd ha hin
          · exact ⟨hmem, ha⟩

end HitTest

section Boxes

structure Box where
  minX : ℚ
  maxX : ℚ
  minY : ℚ
  maxY : ℚ
  deriving DecidableEq

namespace Box

def points (b : Box) : Set (ℝ × ℝ) :=
  {p | (b.minX : ℝ) ≤ p.1 ∧ p.1 ≤ b.maxX ∧ b.minY ≤ p.2 ∧ p.2 ≤ b.maxY}

def ofDisc (d : Disc) : Box where
  minX := d.centre.x - d.radius
  maxX := d.centre.x + d.radius
  minY := d.centre.y - d.radius
  maxY := d.centre.y + d.radius

def union (b c : Box) : Box where
  minX := min b.minX c.minX
  maxX := max b.maxX c.maxX
  minY := min b.minY c.minY
  maxY := max b.maxY c.maxY

variable {b c : Box} {d : Disc}

theorem disc_subset_ofDisc (d : Disc) : d.points ⊆ (ofDisc d).points := by
  intro p hp
  have hx := abs_le.1 (Disc.abs_fst_le hp)
  have hy := abs_le.1 (Disc.abs_snd_le hp)
  simp only [points, ofDisc, Set.mem_ofPred_eq, Rat.cast_sub, Rat.cast_add]
  refine ⟨?_, ?_, ?_, ?_⟩ <;> linarith

theorem subset_union_left (b c : Box) : b.points ⊆ (b.union c).points := by
  rintro p ⟨h1, h2, h3, h4⟩
  refine ⟨le_trans ?_ h1, h2.trans ?_, le_trans ?_ h3, h4.trans ?_⟩ <;> simp [union]

theorem subset_union_right (b c : Box) : c.points ⊆ (b.union c).points := by
  rintro p ⟨h1, h2, h3, h4⟩
  refine ⟨le_trans ?_ h1, h2.trans ?_, le_trans ?_ h3, h4.trans ?_⟩ <;> simp [union]

theorem subset_foldl_union {α : Type} (box : α → Box) (items : List α) (b : Box) :
    b.points ⊆ (items.foldl (fun c a => c.union (box a)) b).points ∧
      ∀ a ∈ items, (box a).points ⊆ (items.foldl (fun c a => c.union (box a)) b).points := by
  induction items generalizing b with
  | nil => exact ⟨subset_rfl, by simp⟩
  | cons a items ih =>
      obtain ⟨hstart, hitems⟩ := ih (b.union (box a))
      rw [List.foldl_cons]
      refine ⟨(subset_union_left b _).trans hstart, ?_⟩
      intro a' ha'
      rcases List.mem_cons.1 ha' with rfl | hmem
      · exact (subset_union_right b _).trans hstart
      · exact hitems a' hmem

end Box

end Boxes

end AtlasOfUs.Library
