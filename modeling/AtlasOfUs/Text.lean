import AtlasOfUs.Library.Program
import Mathlib.Algebra.Ring.Int.Defs
import Mathlib.Data.List.Infix

namespace AtlasOfUs.Text

open Library

/-- The Unicode property White_Space, which `str::trim` strips. -/
def isWhiteSpace (c : Char) : Bool :=
  let n := c.toNat
  (9 ≤ n && n ≤ 13) || n = 0x20 || n = 0x85 || n = 0xA0 || n = 0x1680 ||
    (0x2000 ≤ n && n ≤ 0x200A) || n = 0x2028 || n = 0x2029 || n = 0x202F || n = 0x205F ||
    n = 0x3000

def trimChars (p : Char → Bool) (cs : List Char) : List Char :=
  ((cs.dropWhile p).reverse.dropWhile p).reverse

def trim (s : String) : String := String.ofList (trimChars isWhiteSpace s.toList)

/-- Positions count characters: every delimiter searched for is one byte wide,
so a range of them is in order, reversed or empty exactly as its bytes are. -/
def find (s : String) (c : Char) : Option Nat := s.toList.findIdx? (· == c)

def rfind (s : String) (c : Char) : Option Nat :=
  (s.toList.reverse.findIdx? (· == c)).map (fun i => s.length - 1 - i)

def sliceInclusive {ε : Type} (s : String) (first last : Nat) : Exit ε String :=
  if first ≤ last + 1 then .ok (String.ofList ((s.toList.drop first).take (last + 1 - first)))
  else .panicked

def takeBytes : Nat → List Char → Option (List Char)
  | 0, _ => some []
  | _ + 1, [] => none
  | n + 1, c :: cs =>
      if c.utf8Size ≤ n + 1 then (takeBytes (n + 1 - c.utf8Size) cs).map (c :: ·) else none

/-- `&s[..n]`, which panics where byte `n` is out of range or inside a character. -/
def sliceTo {ε : Type} (s : String) (n : Nat) : Exit ε String :=
  match takeBytes n s.toList with
  | some cs => .ok (String.ofList cs)
  | none => .panicked

def parseDigits (cs : List Char) : Option Nat :=
  if cs ≠ [] ∧ cs.all Char.isDigit then
    some (cs.foldl (fun n c => 10 * n + (c.toNat - '0'.toNat)) 0)
  else none

/-- `str::parse::<i64>`: an optional sign, then digits, within the range of `i64`. -/
def parseI64 (s : String) : Option Int := do
  let i ← match s.toList with
    | '-' :: cs => (parseDigits cs).map (fun n => -(n : Int))
    | '+' :: cs => (parseDigits cs).map (fun n => (n : Int))
    | cs => (parseDigits cs).map (fun n => (n : Int))
  if -2 ^ 63 ≤ i ∧ i < 2 ^ 63 then some i else none

def isInfix (pattern s : String) : Bool := s.toList.tails.any (pattern.toList.isPrefixOf ·)

def dropPrefixes (pattern : List Char) : Nat → List Char → List Char
  | 0, cs => cs
  | n + 1, cs =>
      if pattern.isPrefixOf cs then dropPrefixes pattern n (cs.drop pattern.length) else cs

/-- `str::trim_start_matches` with a pattern of at least one character. -/
def trimStartMatches (s pattern : String) : String :=
  String.ofList (dropPrefixes pattern.toList s.length s.toList)

def trimEndMatches (s pattern : String) : String :=
  String.ofList (dropPrefixes pattern.toList.reverse s.length s.toList.reverse).reverse

def join (sep : String) : List String → String
  | [] => ""
  | [s] => s
  | s :: t :: ss => s ++ sep ++ join sep (t :: ss)

def replaceChars (pattern replacement : List Char) : Nat → List Char → List Char
  | 0, cs => cs
  | _ + 1, [] => []
  | n + 1, c :: cs =>
      if pattern.isPrefixOf (c :: cs) then
        replacement ++ replaceChars pattern replacement n ((c :: cs).drop pattern.length)
      else c :: replaceChars pattern replacement n cs

def replace (s pattern replacement : String) : String :=
  String.ofList (replaceChars pattern.toList replacement.toList s.length s.toList)

theorem sliceInclusive_eq_panicked {ε : Type} (s : String) (first last : Nat) :
    (sliceInclusive s first last : Exit ε String) = .panicked ↔ last + 1 < first := by
  unfold sliceInclusive
  split
  · simpa using by omega
  · simpa using by omega

theorem sliceInclusive_of_le {ε : Type} (s : String) {first last : Nat} (h : first ≤ last + 1) :
    (sliceInclusive s first last : Exit ε String) =
      .ok (String.ofList ((s.toList.drop first).take (last + 1 - first))) := if_pos h

theorem sliceTo_eq_panicked {ε : Type} (s : String) (n : Nat) :
    (sliceTo s n : Exit ε String) = .panicked ↔ takeBytes n s.toList = none := by
  unfold sliceTo
  cases takeBytes n s.toList <;> simp

theorem isInfix_iff (pattern s : String) :
    isInfix pattern s = true ↔ pattern.toList <:+: s.toList := by
  simp only [isInfix, List.any_eq_true, List.mem_tails, List.isPrefixOf_iff_prefix]
  constructor
  · rintro ⟨t, hsuffix, hprefix⟩
    exact List.infix_iff_prefix_suffix.2 ⟨t, hprefix, hsuffix⟩
  · intro h
    obtain ⟨t, hprefix, hsuffix⟩ := List.infix_iff_prefix_suffix.1 h
    exact ⟨t, hsuffix, hprefix⟩

/-- A word after a separator occurs in a text that ends in another such word
only within the text before it or at the start of that word. -/
theorem separated_infix {α : Type} {sep : α} {u v d : List α} (hu : sep ∉ u) (hv : sep ∉ v) :
    sep :: u <:+: d ++ sep :: v ↔ sep :: u <:+: d ∨ u <+: v := by
  constructor
  · rintro ⟨x, y, hxy⟩
    rw [List.append_assoc, List.cons_append] at hxy
    rcases List.append_eq_append_iff.1 hxy with ⟨z, rfl, hz⟩ | ⟨z, rfl, hz⟩
    · cases z with
      | nil => exact .inr ⟨y, (List.cons.inj hz).2⟩
      | cons c z =>
          rw [List.cons_append, List.cons.injEq] at hz
          obtain ⟨rfl, hz⟩ := hz
          rcases List.append_eq_append_iff.1 hz with ⟨t, rfl, -⟩ | ⟨t, rfl, ht⟩
          · exact .inl ⟨x, t, by simp⟩
          · cases t with
            | nil => exact .inl ⟨x, [], by simp⟩
            | cons c' t =>
                rw [List.cons_append, List.cons.injEq] at ht
                exact absurd (by simp [ht.1]) hu
    · cases z with
      | nil => exact .inr ⟨y, (List.cons.inj hz).2.symm⟩
      | cons c z =>
          rw [List.cons_append, List.cons.injEq] at hz
          exact absurd (by simp [hz.2]) hv
  · rintro (⟨x, y, rfl⟩ | ⟨y, rfl⟩)
    · exact ⟨x, y ++ sep :: v, by simp⟩
    · exact ⟨d, y, by simp⟩

example : find "ab\x7d\x7b" '{' = some 3 ∧ rfind "ab\x7d\x7b" '}' = some 2 := by decide

end AtlasOfUs.Text
