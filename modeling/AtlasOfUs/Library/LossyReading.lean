import Mathlib.Logic.Basic

namespace AtlasOfUs.Library

variable {α β : Type} {silent : α → Prop} {alike : α → α → Prop} {f : α → Option β}
  {xs ys zs : List α}

/-- The two lists can be matched entry by entry, passing over the silent ones. -/
inductive SameReading (silent : α → Prop) (alike : α → α → Prop) : List α → List α → Prop
  | nil : SameReading silent alike [] []
  | left {x : α} {xs ys : List α} (hx : silent x) (h : SameReading silent alike xs ys) :
      SameReading silent alike (x :: xs) ys
  | right {y : α} {xs ys : List α} (hy : silent y) (h : SameReading silent alike xs ys) :
      SameReading silent alike xs (y :: ys)
  | both {x y : α} {xs ys : List α} (hx : ¬ silent x) (hxy : alike x y)
      (h : SameReading silent alike xs ys) : SameReading silent alike (x :: xs) (y :: ys)

structure Lossy (f : α → Option β) (silent : α → Prop) (alike : α → α → Prop) : Prop where
  none_iff : ∀ x, f x = none ↔ silent x
  same_iff : ∀ x y, ¬ silent x → (f x = f y ↔ alike x y)

namespace Lossy

variable (hf : Lossy f silent alike)
include hf

theorem filterMap_silent {x : α} (hx : silent x) (xs : List α) :
    (x :: xs).filterMap f = xs.filterMap f :=
  List.filterMap_cons_none ((hf.none_iff x).2 hx)

theorem filterMap_heard {x : α} (hx : ¬ silent x) :
    ∃ b, f x = some b ∧ ∀ xs : List α, (x :: xs).filterMap f = b :: xs.filterMap f := by
  obtain ⟨b, hb⟩ := Option.ne_none_iff_exists'.1 (mt (hf.none_iff x).1 hx)
  exact ⟨b, hb, fun xs => List.filterMap_cons_some hb⟩

theorem filterMap_eq (h : SameReading silent alike xs ys) : xs.filterMap f = ys.filterMap f := by
  induction h with
  | nil => rfl
  | left hx _ ih => rw [hf.filterMap_silent hx, ih]
  | right hy _ ih => rw [hf.filterMap_silent hy, ih]
  | both hx hxy _ ih =>
      obtain ⟨b, hb, hcons⟩ := hf.filterMap_heard hx
      have hy := ((hf.same_iff _ _ hx).2 hxy).symm.trans hb
      rw [hcons, List.filterMap_cons_some hy, ih]

theorem sameReading_nil (h : ys.filterMap f = []) : SameReading silent alike [] ys := by
  induction ys with
  | nil => exact .nil
  | cons y ys ih =>
      have hy : silent y := by
        apply (hf.none_iff y).1
        exact List.filterMap_eq_nil_iff.1 h y List.mem_cons_self
      rw [hf.filterMap_silent hy] at h
      exact .right hy (ih h)

/-- The first entry that is heard on the left has its like on the right, after silent ones. -/
theorem sameReading_cons {x : α} (hx : ¬ silent x)
    (hxs : ∀ ys, xs.filterMap f = ys.filterMap f → SameReading silent alike xs ys)
    (h : (x :: xs).filterMap f = ys.filterMap f) : SameReading silent alike (x :: xs) ys := by
  obtain ⟨b, hb, hcons⟩ := hf.filterMap_heard hx
  rw [hcons] at h
  induction ys with
  | nil => cases h
  | cons y ys ih =>
      by_cases hy : silent y
      · rw [hf.filterMap_silent hy] at h
        exact .right hy (ih h)
      · obtain ⟨c, hc, hcons'⟩ := hf.filterMap_heard hy
        rw [hcons'] at h
        obtain ⟨rfl, htail⟩ := List.cons_eq_cons.1 h
        exact .both hx ((hf.same_iff x y hx).1 (hb.trans hc.symm)) (hxs ys htail)

theorem filterMap_eq_iff :
    xs.filterMap f = ys.filterMap f ↔ SameReading silent alike xs ys := by
  constructor
  · intro h
    induction xs generalizing ys with
    | nil => exact hf.sameReading_nil h.symm
    | cons x xs ih =>
        by_cases hx : silent x
        · rw [hf.filterMap_silent hx] at h
          exact .left hx (ih h)
        · exact hf.sameReading_cons hx (fun _ => ih) h
  · exact hf.filterMap_eq

end Lossy

end AtlasOfUs.Library
