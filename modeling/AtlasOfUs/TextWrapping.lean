import AtlasOfUs.Text
import Mathlib.Data.List.TakeWhile

namespace AtlasOfUs.Text

open Library

section Lists

variable {α : Type} {p : α → Bool} {c : α} {xs ys zs : List α}

theorem dropWhile_append_of_head (hc : p c = false) (hhead : ys.head? = some c) :
    (xs ++ ys).dropWhile p = xs.dropWhile p ++ ys := by
  obtain ⟨ys, rfl⟩ := List.head?_eq_some_iff.1 hhead
  induction xs with
  | nil => rw [List.nil_append, List.dropWhile_cons_of_neg (by simp [hc]), List.dropWhile_nil, List.nil_append]
  | cons x xs ih =>
      rw [List.cons_append, List.dropWhile_cons, List.dropWhile_cons]
      by_cases hx : p x = true
      · rw [if_pos hx, if_pos hx, ih]
      · rw [if_neg hx, if_neg hx, List.cons_append]

theorem findIdx?_of_notMem [BEq α] [LawfulBEq α] (h : c ∉ xs) :
    (xs ++ c :: ys).findIdx? (· == c) = some xs.length := by
  have hnone : xs.findIdx? (· == c) = none := by
    rw [List.findIdx?_eq_none_iff]
    intro x hx
    rw [beq_eq_false_iff_ne]
    rintro rfl
    exact h hx
  rw [List.findIdx?_append, hnone, Option.none_or, List.findIdx?_cons, beq_self_eq_true, if_pos rfl,
    Option.map_some, Nat.zero_add]

theorem dropPrefixes_once {pattern rest : List Char} {c : Char} (n : Nat)
    (hpattern : pattern.head? = some c) (hrest : rest.head? ≠ some c) :
    dropPrefixes pattern (n + 1) (pattern ++ rest) = rest := by
  obtain ⟨tail, rfl⟩ := List.head?_eq_some_iff.1 hpattern
  have hprefix : (c :: tail).isPrefixOf (c :: tail ++ rest) = true := by
    rw [List.isPrefixOf_iff_prefix]
    exact List.prefix_append _ _
  have hrest : (c :: tail).isPrefixOf rest = false := by
    rw [Bool.eq_false_iff, Ne, List.isPrefixOf_iff_prefix]
    rintro ⟨more, rfl⟩
    exact hrest rfl
  rw [dropPrefixes, if_pos hprefix, List.drop_left]
  cases n with
  | zero => rfl
  | succ n => rw [dropPrefixes, if_neg (by rw [hrest]; exact Bool.false_ne_true)]

end Lists

section Trim

variable {p : Char → Bool} {first last : Char} {before body behind : List Char}

theorem trimChars_append (hfirst : body.head? = some first) (hp : p first = false)
    (hlast : body.getLast? = some last) (hq : p last = false) :
    trimChars p (before ++ body ++ behind) =
      before.dropWhile p ++ body ++ (behind.reverse.dropWhile p).reverse := by
  have hback : (before.dropWhile p ++ body).reverse.head? = some last := by
    rw [List.head?_reverse, List.getLast?_append, hlast, Option.some_or]
  have hfront : (body ++ behind).head? = some first := by
    rw [List.head?_append, hfirst, Option.some_or]
  rw [trimChars, List.append_assoc, dropWhile_append_of_head hp hfront, ← List.append_assoc,
    List.reverse_append, dropWhile_append_of_head hq hback, List.reverse_append, List.reverse_reverse]

theorem trimChars_blank (hfirst : body.head? = some first) (hp : p first = false)
    (hlast : body.getLast? = some last) (hq : p last = false) (hbefore : ∀ c ∈ before, p c = true)
    (hbehind : ∀ c ∈ behind, p c = true) : trimChars p (before ++ body ++ behind) = body := by
  have hreverse : ∀ c ∈ behind.reverse, p c = true := fun c hc => hbehind c (List.mem_reverse.1 hc)
  rw [trimChars_append hfirst hp hlast hq, List.dropWhile_eq_nil_iff.2 hbefore,
    List.dropWhile_eq_nil_iff.2 hreverse, List.nil_append, List.reverse_nil, List.append_nil]

end Trim

section Find

variable {s : String} {c : Char} {before behind : List Char}

theorem find_of_notMem (h : s.toList = before ++ c :: behind) (hc : c ∉ before) :
    find s c = some before.length := by
  rw [find, h, findIdx?_of_notMem hc]

theorem rfind_of_notMem (h : s.toList = before ++ c :: behind) (hc : c ∉ behind) :
    rfind s c = some before.length := by
  have hreverse : s.toList.reverse = behind.reverse ++ c :: before.reverse := by
    rw [h, List.reverse_append, List.reverse_cons, List.append_assoc, List.singleton_append]
  have hlength : s.length = before.length + 1 + behind.length := by
    rw [← String.length_toList, h, List.length_append, List.length_cons]
    omega
  rw [rfind, hreverse, findIdx?_of_notMem (fun hmem => hc (List.mem_reverse.1 hmem)), Option.map_some,
    List.length_reverse, hlength]
  congr 1
  omega

theorem sliceInclusive_of_eq {ε : Type} {body : List Char} {n : Nat}
    (h : s.toList = before ++ body ++ behind) (hn : n + 1 = before.length + body.length) :
    (sliceInclusive s before.length n : Exit ε String) = .ok (String.ofList body) := by
  rw [sliceInclusive_of_le s (by omega), h, hn, List.append_assoc, List.drop_left, Nat.add_sub_cancel_left,
    List.take_left]

end Find

end AtlasOfUs.Text
