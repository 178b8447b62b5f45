import AtlasOfUs.Library.PercentEncoding
import Mathlib.Data.List.DropRight

namespace AtlasOfUs.Library.UrlPath

abbrev Segment := List Char

def isStripped (c : Char) : Bool := c.toNat ≤ 0x20

def isSkipped (c : Char) : Bool := c = '\t' || c = '\n' || c = '\r'

def isSlash (c : Char) : Bool := c = '/' || c = '\\'

def isPathEnd (c : Char) : Bool := c = '?' || c = '#'

def escapes (c : Char) : Bool :=
  c.toNat ≤ 0x20 || 0x7F ≤ c.toNat || "\"<>`^".toList.contains c || c = '\x7b' || c = '\x7d'

def lower (segment : Segment) : Segment := segment.map Char.toLower

def isSingleDot (segment : Segment) : Bool := lower segment = ['.'] || lower segment = "%2e".toList

def isDoubleDot (segment : Segment) : Bool :=
  [['.', '.'], ".%2e".toList, "%2e.".toList, "%2e%2e".toList].contains (lower segment)

/-- The path after a segment. A dot segment is none of its own, but where it is
the last one, an empty segment takes its place. -/
def close (path : List Segment) (segment : Segment) (last : Bool) : List Segment :=
  if isDoubleDot segment then if last then path.dropLast ++ [[]] else path.dropLast
  else if isSingleDot segment then if last then path ++ [[]] else path
  else path ++ [segment]

def walk (path : List Segment) (segment : Segment) : List Char → List Segment
  | [] => close path segment true
  | c :: cs =>
      if isPathEnd c then close path segment true
      else if isSlash c then walk (close path segment false) [] cs
      else walk path (segment ++ [c]) cs

def clean (text : List Char) : List Char :=
  (text.rdropWhile isStripped).filter (fun c => !isSkipped c)

/-- The segments of the URL of these segments and a text after them. -/
def parse (base : List Segment) (text : List Char) : List Segment :=
  (walk base [] (clean text)).map (Percent.escape escapes)

def param (base : List Segment) (text : List Char) : Option (List Char) :=
  if (parse base text).dropLast = base then
    ((parse base text).getLast?.filter (· ≠ [])).bind fun segment =>
      Percent.readUtf8 (Percent.bytes segment)
  else none

/-- The text is one segment, and that segment stands for itself. -/
structure Plain (text : List Char) : Prop where
  nonempty : text ≠ []
  inside : ∀ c ∈ text, isSlash c = false ∧ isPathEnd c = false ∧ isSkipped c = false
  last : ∀ c, text.getLast? = some c → isStripped c = false
  dots : isSingleDot text = false ∧ isDoubleDot text = false
  escapes : Percent.escapeFree text = true

section Walk

def held (cs : List Char) : List Char := cs.filter fun c => !isPathEnd c && !isSlash c

variable {base path : List Segment} {segment text cs : List Char}

def Grown (base : List Segment) (text : List Char) (path : List Segment) : Prop :=
  ∃ k, ∃ parts : List Segment, path = base.take k ++ parts ∧ ∀ p ∈ parts, p.Sublist text

theorem Grown.snoc (h : Grown base text path) (hsegment : segment.Sublist text) :
    Grown base text (path ++ [segment]) := by
  obtain ⟨k, parts, rfl, hparts⟩ := h
  refine ⟨k, parts ++ [segment], List.append_assoc _ _ _, fun p hp => ?_⟩
  rcases List.mem_append.1 hp with hp | hp
  · exact hparts p hp
  · exact List.mem_singleton.1 hp ▸ hsegment

theorem Grown.dropLast (h : Grown base text path) : Grown base text path.dropLast := by
  obtain ⟨k, parts, rfl, hparts⟩ := h
  by_cases hempty : parts = []
  · refine ⟨min k base.length - 1, [], ?_, fun p hp => by cases hp⟩
    rw [hempty, List.append_nil, List.append_nil, List.dropLast_eq_take, List.length_take,
      List.take_take]
    congr 1
    omega
  · refine ⟨k, parts.dropLast, List.dropLast_append_of_ne_nil hempty, fun p hp => ?_⟩
    exact hparts p ((List.dropLast_sublist _).subset hp)

theorem Grown.close (h : Grown base text path) (hsegment : segment.Sublist text) (last : Bool) :
    Grown base text (close path segment last) := by
  unfold UrlPath.close
  split_ifs
  · exact h.dropLast.snoc (List.nil_sublist _)
  · exact h.dropLast
  · exact h.snoc (List.nil_sublist _)
  · exact h
  · exact h.snoc hsegment

theorem grown_walk (h : Grown base text path) (hrest : (segment ++ held cs).Sublist text) :
    Grown base text (walk path segment cs) := by
  have hsegment : segment.Sublist text := (List.sublist_append_left _ _).trans hrest
  induction cs generalizing path segment with
  | nil => exact h.close hsegment true
  | cons c cs ih =>
      unfold walk
      by_cases hend : isPathEnd c = true
      · rw [if_pos hend]
        exact h.close hsegment true
      rw [if_neg hend]
      by_cases hslash : isSlash c = true
      · rw [if_pos hslash]
        have hheld : (held cs).Sublist text := by
          refine ((List.Sublist.filter _ (List.sublist_cons_self c cs)).trans ?_).trans hrest
          exact List.sublist_append_right _ _
        exact ih (h.close hsegment false) (by rwa [List.nil_append]) (List.nil_sublist _)
      · rw [if_neg hslash]
        have hheld : held (c :: cs) = c :: held cs :=
          List.filter_cons_of_pos (by simp [hend, hslash])
        rw [hheld, List.append_cons] at hrest
        exact ih h hrest ((List.sublist_append_left _ _).trans hrest)

theorem walk_of_held (h : ∀ c ∈ cs, isSlash c = false ∧ isPathEnd c = false) :
    walk path segment cs = close path (segment ++ cs) true := by
  induction cs generalizing segment with
  | nil => rw [walk, List.append_nil]
  | cons c cs ih =>
      obtain ⟨hslash, hend⟩ := h c List.mem_cons_self
      rw [walk, hend, hslash, if_neg Bool.false_ne_true, if_neg Bool.false_ne_true,
        ih fun d hd => h d (List.mem_cons_of_mem _ hd), List.append_assoc, List.singleton_append]

end Walk

section Clean

variable {text : List Char}

theorem clean_sublist (text : List Char) : (clean text).Sublist text :=
  List.filter_sublist.trans (List.rdropWhile_prefix isStripped _).sublist

theorem clean_eq_iff : clean text = text ↔
    (∀ c ∈ text, isSkipped c = false) ∧ ∀ c, text.getLast? = some c → isStripped c = false := by
  constructor
  · intro h
    have hstrip : text.rdropWhile isStripped = text := by
      refine (List.rdropWhile_prefix isStripped _).eq_of_length_le ?_
      have hle := (List.filter_sublist (p := fun c => !isSkipped c)
        (l := text.rdropWhile isStripped)).length_le
      have heq := congrArg List.length h
      rw [clean] at heq
      omega
    constructor
    · intro c hc
      rw [← h, clean] at hc
      simpa using (List.mem_filter.1 hc).2
    · intro c hc
      have hne : text ≠ [] := by
        rintro rfl
        cases hc
      have hlast := List.rdropWhile_eq_self_iff.1 hstrip hne
      rw [List.getLast?_eq_getLast_of_ne_nil hne] at hc
      rwa [Option.some.inj hc, Bool.not_eq_true] at hlast
  · rintro ⟨hskipped, hlast⟩
    have hstrip : text.rdropWhile isStripped = text := by
      rw [List.rdropWhile_eq_self_iff]
      intro hne
      rw [hlast _ (List.getLast?_eq_getLast_of_ne_nil hne)]
      exact Bool.false_ne_true
    rw [clean, hstrip, List.filter_eq_self]
    intro c hc
    rw [hskipped c hc]
    rfl

end Clean

section Param

variable {base : List Segment} {text : List Char}

theorem keepsEscapes : Percent.KeepsEscapes escapes := by
  refine ⟨by decide, fun c hc => ?_⟩
  have hrange : 48 ≤ c.toNat ∧ c.toNat ≤ 57 ∨ 65 ≤ c.toNat ∧ c.toNat ≤ 70 ∨
      97 ≤ c.toNat ∧ c.toNat ≤ 102 := by
    by_contra hnone
    apply hc
    unfold Percent.hexValue
    rw [if_neg (by omega), if_neg (by omega), if_neg (by omega)]
  have hall : ∀ n < 103, 48 ≤ n ∧ n ≤ 57 ∨ 65 ≤ n ∧ n ≤ 70 ∨ 97 ≤ n ∧ n ≤ 102 →
      escapes (Char.ofNat n) = false := by decide
  rw [← Char.ofNat_toNat c]
  exact hall c.toNat (by omega) hrange

theorem encode_length_lt {p : List Char} (h : p.Sublist text) (hne : p ≠ text) :
    (Utf8.encode p).length < (Utf8.encode text).length := by
  induction h with
  | slnil => exact absurd rfl hne
  | @cons p text c h ih =>
      have hpos := Percent.encodeChar_length_pos c
      rw [Utf8.encode_cons, List.length_append]
      by_cases heq : p = text
      · rw [heq]
        omega
      · have hlt := ih heq
        omega
  | @cons_cons p text c h ih =>
      rw [Utf8.encode_cons, Utf8.encode_cons, List.length_append, List.length_append]
      have hlt := ih fun heq => hne (heq ▸ rfl)
      omega

theorem param_eq_self_iff (hbase : base.map (Percent.escape escapes) = base) :
    param base text = some text ↔ Plain text := by
  constructor
  · intro h
    rw [param] at h
    split at h
    swap
    · cases h
    rename_i hdrop
    obtain ⟨segment, hsegment, hread⟩ := Option.bind_eq_some_iff.1 h
    obtain ⟨hlast, hne⟩ := Option.filter_eq_some_iff.1 hsegment
    have hbytes := Percent.readUtf8_eq_some.1 hread
    have hparse : base ++ [segment] = parse base text := by
      rw [← List.dropLast_append_getLast? _ hlast, hdrop]
    have hgrown : Grown base (held (clean text)) (walk base [] (clean text)) :=
      grown_walk ⟨base.length, [], by rw [List.take_length, List.append_nil],
        fun p hp => by cases hp⟩ (List.Sublist.refl _)
    obtain ⟨k, parts, hwalk, hparts⟩ := hgrown
    have hsome : parts ≠ [] := by
      rintro rfl
      have hlength := congrArg List.length hparse
      rw [parse, hwalk, List.length_map, List.length_append, List.length_append,
        List.length_take, List.length_singleton, List.length_nil] at hlength
      omega
    obtain ⟨front, p, rfl⟩ := List.eq_nil_or_concat' parts |>.resolve_left hsome
    have hescaped : segment = Percent.escape escapes p := by
      rw [parse, hwalk, ← List.append_assoc, List.map_append, List.map_singleton] at hparse
      exact (List.append_inj' hparse rfl).2 |> List.singleton_inj.1
    have hheld : p.Sublist (held (clean text)) := hparts p (by simp)
    have hwhole : p = text := by
      by_contra hne
      have hlt := encode_length_lt
        ((hheld.trans List.filter_sublist).trans (clean_sublist text)) hne
      rw [hescaped, Percent.bytes_escape_kept keepsEscapes] at hbytes
      have hle := (Percent.bytes_length p).1
      rw [hbytes] at hle
      omega
    subst hwhole
    have hclean : clean p = p :=
      (clean_sublist p).antisymm (hheld.trans List.filter_sublist)
    rw [hclean] at hheld hwalk
    have hfree : held p = p := List.filter_sublist.antisymm hheld
    have hpath : ∀ c ∈ p, isSlash c = false ∧ isPathEnd c = false := by
      intro c hc
      have hkept := List.filter_eq_self.1 hfree c hc
      rw [Bool.and_eq_true, Bool.not_eq_true', Bool.not_eq_true'] at hkept
      exact ⟨hkept.2, hkept.1⟩
    have hnotEmpty : p ≠ [] := by
      rintro rfl
      exact of_decide_eq_true hne hescaped
    have hclose : close base p true = base.take k ++ (front ++ [p]) := by
      rw [← hwalk, walk_of_held hpath, List.nil_append]
    have hends : (close base p true).getLast? = some p := by
      rw [hclose, ← List.append_assoc, List.getLast?_append, List.getLast?_singleton]
      rfl
    have hdouble : isDoubleDot p = false := by
      by_contra hdot
      rw [close, if_pos (Bool.not_eq_false _ ▸ hdot), if_pos rfl,
        List.getLast?_concat] at hends
      exact hnotEmpty (Option.some.inj hends).symm
    have hsingle : isSingleDot p = false := by
      by_contra hdot
      rw [close, hdouble, if_neg Bool.false_ne_true, if_pos (Bool.not_eq_false _ ▸ hdot),
        if_pos rfl, List.getLast?_concat] at hends
      exact hnotEmpty (Option.some.inj hends).symm
    rw [hescaped, Percent.bytes_escape_kept keepsEscapes] at hbytes
    exact {
      nonempty := hnotEmpty
      inside := fun c hc =>
        ⟨(hpath c hc).1, (hpath c hc).2, (clean_eq_iff.1 hclean).1 c hc⟩
      last := (clean_eq_iff.1 hclean).2
      dots := ⟨hsingle, hdouble⟩
      escapes := Percent.bytes_eq_encode_iff.1 hbytes }
  · intro h
    have hclean : clean text = text := clean_eq_iff.2 ⟨fun c hc => (h.inside c hc).2.2, h.last⟩
    have hparse : parse base text = base ++ [Percent.escape escapes text] := by
      rw [parse, hclean, walk_of_held fun c hc => ⟨(h.inside c hc).1, (h.inside c hc).2.1⟩,
        List.nil_append, close, h.dots.2, h.dots.1, if_neg Bool.false_ne_true,
        if_neg Bool.false_ne_true, List.map_append, hbase]
      rfl
    have hsome : Percent.escape escapes text ≠ [] := by
      intro hnil
      have hbytes := Percent.bytes_escape_kept keepsEscapes text
      have hlt := encode_length_lt (List.nil_sublist text) h.nonempty.symm
      rw [hnil, Percent.bytes_of_escapeFree h.escapes] at hbytes
      rw [← hbytes] at hlt
      cases hlt
    rw [param, hparse, List.dropLast_concat, if_pos rfl, List.getLast?_concat, Option.filter_some,
      if_pos (decide_eq_true hsome), Option.bind_some, Percent.bytes_escape_kept keepsEscapes,
      Percent.bytes_of_escapeFree h.escapes, Percent.readUtf8_encode]

end Param

end AtlasOfUs.Library.UrlPath
