import AtlasOfUs.Library.UrlPath

namespace AtlasOfUs.Library

namespace Utf8.Decoder

/-- One for the replacement of a character that has begun and may not be finished. -/
def pending (d : Decoder) : Nat := if d.needed = 0 then 0 else 1

def lossy (bs : List Nat) : List Char :=
  (({} : Decoder).decode bs).2 ++
    List.replicate (({} : Decoder).decode bs).1.pending replacement

def Ranged (d : Decoder) : Prop := 0x80 ≤ d.lower ∧ d.upper ≤ 0xBF

theorem ranged_empty : Ranged {} := ⟨Nat.le_refl _, Nat.le_refl _⟩

theorem ranged_lead (b : Nat) : (lead b).1.Ranged := by
  unfold lead
  split_ifs <;> exact ⟨by simp, by simp⟩

theorem ranged_push {d : Decoder} (b : Nat) : (d.push b).1.Ranged := by
  unfold push
  split_ifs
  · exact ranged_lead b
  · exact ranged_empty
  · exact ⟨Nat.le_refl _, Nat.le_refl _⟩
  · exact ranged_lead b

theorem pending_le (d : Decoder) : d.pending ≤ 1 := by
  unfold pending
  split_ifs <;> omega

theorem lead_cases (b : Nat) : (∃ d, lead b = (d, [])) ∨ ∃ c, lead b = ({}, [c]) := by
  unfold lead
  split
  · exact .inr ⟨_, rfl⟩
  split
  · exact .inl ⟨_, rfl⟩
  split
  · exact .inl ⟨_, rfl⟩
  split
  · exact .inl ⟨_, rfl⟩
  · exact .inr ⟨_, rfl⟩

theorem length_lead (b : Nat) : (lead b).2.length + (lead b).1.pending ≤ 1 := by
  rcases lead_cases b with ⟨d, h⟩ | ⟨c, h⟩
  · rw [h]
    exact (Nat.zero_add _).trans_le (pending_le d)
  · rw [h]
    exact Nat.le_refl _

theorem length_push (d : Decoder) (b : Nat) :
    (d.push b).2.length + (d.push b).1.pending ≤ d.pending + 1 := by
  have hlead := length_lead b
  unfold push
  by_cases hneeded : d.needed = 0
  · rw [if_pos hneeded]
    omega
  have hpending : d.pending = 1 := if_neg hneeded
  rw [if_neg hneeded, hpending]
  split_ifs
  · exact Nat.le_succ 1
  · exact (Nat.zero_add _).trans_le ((pending_le _).trans (Nat.le_succ 1))
  · change (replacement :: (lead b).2).length + (lead b).1.pending ≤ 1 + 1
    rw [List.length_cons]
    omega

theorem decode_encodeChar_of_ranged {d : Decoder} (hd : d.Ranged) (c : Char) :
    d.decode (encodeChar c) = ({}, List.replicate d.pending replacement ++ [c]) := by
  have hfresh := decode_encodeChar c
  unfold pending
  by_cases hneeded : d.needed = 0
  · have hpush : ∀ b, d.push b = ({} : Decoder).push b := by
      intro b
      rw [push, if_pos hneeded, push, if_pos rfl]
    rw [if_pos hneeded]
    cases hbytes : encodeChar c with
    | nil => simp [hbytes] at hfresh
    | cons b bs =>
        rw [hbytes] at hfresh
        rw [decode, hpush]
        exact hfresh
  · rw [if_neg hneeded]
    cases hbytes : encodeChar c with
    | nil => simp [hbytes] at hfresh
    | cons b bs =>
        have hb : b < 0x80 ∨ 0xC0 ≤ b := by
          unfold encodeChar at hbytes
          simp only at hbytes
          split_ifs at hbytes <;> (obtain ⟨rfl, -⟩ := List.cons.inj hbytes) <;> omega
        obtain ⟨hlower, hupper⟩ := hd
        have hpush : d.push b = (((({} : Decoder).push b).1),
            replacement :: (({} : Decoder).push b).2) := by
          rw [push, if_neg hneeded, if_neg (by omega), push, if_pos rfl]
        rw [hbytes, decode] at hfresh
        rw [decode, hpush]
        obtain ⟨hstate, hout⟩ := Prod.mk.inj hfresh
        rw [Prod.mk.injEq]
        exact ⟨hstate, congrArg (replacement :: ·) hout⟩

end Utf8.Decoder

namespace Percent

open Utf8

/-- Text that is read character by character and escape by escape is not longer, and shorter where it
has an escape. -/
theorem length_decode_bytes {d : Decoder} (hd : d.Ranged) (cs : List Char) :
    (d.decode (bytes cs)).2.length + (d.decode (bytes cs)).1.pending ≤ d.pending + cs.length ∧
      ((d.decode (bytes cs)).2.length + (d.decode (bytes cs)).1.pending = d.pending + cs.length →
        escapeFree cs = true) := by
  induction cs using escape_induction generalizing d with
  | nil => exact ⟨by simp, fun _ => rfl⟩
  | plain c rest hbyte ih =>
      obtain ⟨hle, hfree⟩ := ih Decoder.ranged_empty
      have hzero : Decoder.pending {} = 0 := rfl
      rw [bytes_cons_of_none hbyte, Decoder.decode_append, Decoder.decode_encodeChar_of_ranged hd]
      simp only [List.length_append, List.length_replicate, List.length_cons, List.length_nil]
      rw [hzero] at hle hfree
      refine ⟨by omega, fun heq => ?_⟩
      rw [escapeFree, hbyte, hfree (by omega)]
      rfl
  | escaped a b rest byte hbyte _ _ ih =>
      obtain ⟨hle, -⟩ := ih (Decoder.ranged_push (d := d) byte)
      have hpush := Decoder.length_push d byte
      rw [bytes_cons_of_some hbyte, Decoder.decode]
      simp only [List.length_append, List.length_cons]
      exact ⟨by omega, fun heq => by omega⟩

theorem length_lossy (cs : List Char) :
    (Decoder.lossy (bytes cs)).length ≤ cs.length ∧
      ((Decoder.lossy (bytes cs)).length = cs.length → escapeFree cs = true) := by
  have hdecode := length_decode_bytes Decoder.ranged_empty cs
  rw [show Decoder.pending {} = 0 from rfl, Nat.zero_add] at hdecode
  rwa [Decoder.lossy, List.length_append, List.length_replicate]

theorem lossy_encode (cs : List Char) : Decoder.lossy (Utf8.encode cs) = cs := by
  rw [Decoder.lossy, Decoder.decode_encode]
  exact List.append_nil cs

section Marks

def isMark (c : Char) : Bool := c = '%' || "0123456789ABCDEF".toList.contains c

theorem isMark_digit (n : Nat) : isMark (digit n) = true := by
  by_cases hn : n < 16
  · have hall : ∀ n < 16, isMark (digit n) = true := by decide
    exact hall n hn
  · have hdefault : digit n = '0' := by
      rw [digit, List.getD_eq_getElem?_getD, List.getElem?_eq_none (Nat.le_of_not_lt hn)]
      rfl
    rw [hdefault]
    decide

theorem isMark_of_mem_encodeByte {b : Nat} {c : Char} (h : c ∈ encodeByte b) : isMark c = true := by
  rw [encodeByte, List.mem_cons, List.mem_cons, List.mem_singleton] at h
  rcases h with rfl | rfl | rfl
  · decide
  · exact isMark_digit _
  · exact isMark_digit _

variable {escapes : Char → Bool}

theorem isMark_of_mem_escapeChar {c x : Char} (hc : escapes c = true) (h : x ∈ escapeChar escapes c) :
    isMark x = true := by
  rw [escapeChar, if_pos hc] at h
  obtain ⟨b, -, hx⟩ := List.mem_flatMap.1 h
  exact isMark_of_mem_encodeByte hx

theorem escapeChar_of_not {c : Char} (h : escapes c = false) : escapeChar escapes c = [c] := by
  rw [escapeChar, h]
  rfl

theorem mem_escape {cs : List Char} {x : Char} (h : x ∈ escape escapes cs) :
    isMark x = true ∨ x ∈ cs ∧ escapes x = false := by
  obtain ⟨c, hc, hx⟩ := List.mem_flatMap.1 h
  cases hescapes : escapes c with
  | true => exact .inl (isMark_of_mem_escapeChar hescapes hx)
  | false =>
      rw [escapeChar_of_not hescapes, List.mem_singleton] at hx
      rw [hx]
      exact .inr ⟨hc, hescapes⟩

theorem takeWhile_escape {sep : Char} (hsep : escapes sep = false) (hmark : isMark sep = false)
    (cs : List Char) :
    (escape escapes cs).takeWhile (· ≠ sep) = escape escapes (cs.takeWhile (· ≠ sep)) := by
  induction cs with
  | nil => rfl
  | cons c cs ih =>
      rw [escape_cons]
      cases hc : escapes c with
      | true =>
          have hne : c ≠ sep := by
            rintro rfl
            rw [hsep] at hc
            cases hc
          have hall : ∀ x ∈ escapeChar escapes c, decide (x ≠ sep) = true := by
            intro x hx
            apply decide_eq_true
            rintro rfl
            rw [isMark_of_mem_escapeChar hc hx] at hmark
            cases hmark
          rw [List.takeWhile_append_of_pos hall, ih, List.takeWhile_cons_of_pos (by simpa using hne),
            escape_cons]
      | false =>
          rw [escapeChar_of_not hc, List.singleton_append]
          by_cases hne : c = sep
          · rw [List.takeWhile_cons_of_neg (by simp [hne]), List.takeWhile_cons_of_neg (by simp [hne])]
            rfl
          · rw [List.takeWhile_cons_of_pos (by simp [hne]), List.takeWhile_cons_of_pos (by simp [hne]),
              escape_cons, escapeChar_of_not hc, ih, List.singleton_append]

end Marks

theorem escapeFree_of_notMem {cs : List Char} (h : '%' ∉ cs) : escapeFree cs = true := by
  induction cs with
  | nil => rfl
  | cons c cs ih =>
      rw [List.mem_cons, not_or] at h
      rw [escapeFree, escapedByte_of_ne (Ne.symm h.1), ih h.2]
      rfl

section Mapped

structure KeepsMarks (f : Char → Char) : Prop where
  percent : ∀ c, f c = '%' ↔ c = '%'
  hex : ∀ c, hexValue (f c) = hexValue c

variable {f : Char → Char} {escapes : Char → Bool}

theorem escapedByte_map (h : KeepsMarks f) (c : Char) (rest : List Char) :
    escapedByte (f c) (rest.map f) = escapedByte c rest := by
  rcases rest with - | ⟨a, - | ⟨b, rest⟩⟩
  · rfl
  · rfl
  · simp only [List.map_cons, escapedByte, h.percent, h.hex]

/-- A text stands for the same bytes when it has been escaped, and what is changed is not. -/
theorem bytes_map_escape (h : KeepsMarks f) (hkeeps : KeepsEscapes escapes)
    (hmarks : ∀ c, isMark c = true → f c = c) (hescapes : ∀ c, escapes c = true → f c = c)
    (cs : List Char) : bytes ((escape escapes cs).map f) = bytes (cs.map f) := by
  have hmap : ∀ c, escapes c = true → (escapeChar escapes c).map f = escapeChar escapes c := by
    intro c hc
    refine (List.map_congr_left fun x hx => ?_).trans (List.map_id _)
    exact hmarks x (isMark_of_mem_escapeChar hc hx)
  have hone : ∀ c, escapes c = false → (escapeChar escapes c).map f = [f c] := by
    intro c hc
    rw [escapeChar_of_not hc, List.map_singleton]
  induction cs using escape_induction with
  | nil => rfl
  | plain c rest hbyte ih =>
      have hrest : escapedByte (f c) (rest.map f) = none := (escapedByte_map h c rest).trans hbyte
      rw [escape_cons, List.map_append, List.map_cons, bytes_cons_of_none hrest]
      cases hc : escapes c with
      | true => rw [hmap c hc, bytes_escapeChar (.inl hc), ih, hescapes c hc]
      | false =>
          have hbyte' : escapedByte (f c) ((escape escapes rest).map f) = none :=
            (escapedByte_map h c _).trans ((escapedByte_escape hkeeps c rest).trans hbyte)
          rw [hone c hc, List.singleton_append, bytes_cons_of_none hbyte', ih]
  | escaped a b rest byte hbyte ha hb ih =>
      have hbyte' : ∀ rest', escapedByte (f '%') (f a :: f b :: rest') = some byte := by
        intro rest'
        have hsame : escapedByte (f '%') ((a :: b :: rest).map f) = some byte :=
          (escapedByte_map h '%' _).trans hbyte
        exact hsame
      rw [escape_cons, escape_cons, escape_cons, List.map_append, List.map_append, List.map_append,
        hone _ hkeeps.1, hone _ (hkeeps.2 a ha), hone _ (hkeeps.2 b hb), List.map_cons, List.map_cons,
        List.map_cons, bytes_cons_of_some (hbyte' _)]
      change bytes (f '%' :: f a :: f b :: (escape escapes rest).map f) = _
      rw [bytes_cons_of_some (hbyte' _), ih]

end Mapped

end Percent

namespace UrlQuery

def escapes (c : Char) : Bool :=
  c.toNat ≤ 0x20 || 0x7F ≤ c.toNat || "\"#<>'".toList.contains c

/-- The text of a URL after its question mark, as its parser leaves it for the query. -/
def parse (text : List Char) : List Char :=
  Percent.escape escapes ((UrlPath.clean text).takeWhile (· ≠ '#'))

def plusToSpace (c : Char) : Char := if c = '+' then ' ' else c

def decode (cs : List Char) : List Char :=
  Utf8.Decoder.lossy (Percent.bytes (cs.map plusToSpace))

def pair (segment : List Char) : List Char × List Char :=
  (decode (segment.takeWhile (· ≠ '=')), decode ((segment.dropWhile (· ≠ '=')).drop 1))

def pairs (query : List Char) : List (List Char × List Char) :=
  ((query.splitOn '&').filter (· ≠ [])).map pair

def value (text : List Char) : List Char := decode ((parse text).takeWhile (· ≠ '&'))

/-- The text is one value, and that value stands for itself. -/
structure PlainValue (text : List Char) : Prop where
  inside : ∀ c ∈ text, c ≠ '&' ∧ c ≠ '#' ∧ c ≠ '+' ∧ UrlPath.isSkipped c = false
  last : ∀ c, text.getLast? = some c → UrlPath.isStripped c = false
  escapes : Percent.escapeFree text = true

def component (text : List Char) : List Char :=
  Percent.escape (fun c => !(c.isAlphanum || "-_.!~*'()".toList.contains c)) text

theorem keepsEscapes : Percent.KeepsEscapes escapes := by
  refine ⟨by decide, fun c hc => ?_⟩
  have hrange : 48 ≤ c.toNat ∧ c.toNat ≤ 57 ∨ 65 ≤ c.toNat ∧ c.toNat ≤ 70 ∨
      97 ≤ c.toNat ∧ c.toNat ≤ 102 := by
    by_contra hnone
    apply hc
    unfold Percent.hexValue
    rw [if_neg (by omega), if_neg (by omega), if_neg (by omega)]
  have hall : ∀ n < 103, 48 ≤ n ∧ n ≤ 57 ∨ 65 ≤ n ∧ n ≤ 70 ∨ 97 ≤ n ∧ n ≤ 102 →
      escapes (Char.ofNat n) = false := by decide
  rw [← Char.ofNat_toNat c]
  exact hall c.toNat (by omega) hrange

theorem plusToSpace_of_ne {c : Char} (h : c ≠ '+') : plusToSpace c = c := if_neg h

theorem keepsMarks_plusToSpace : Percent.KeepsMarks plusToSpace where
  percent c := by
    by_cases hc : c = '+'
    · subst hc
      decide
    · rw [plusToSpace_of_ne hc]
  hex c := by
    by_cases hc : c = '+'
    · subst hc
      decide
    · rw [plusToSpace_of_ne hc]

theorem decode_escape (cs : List Char) : decode (Percent.escape escapes cs) = decode cs := by
  have hne : ∀ c, Percent.isMark c = true ∨ escapes c = true → plusToSpace c = c := by
    rintro c (hc | hc) <;> apply plusToSpace_of_ne <;> rintro rfl <;> cases hc
  rw [decode, decode, Percent.bytes_map_escape keepsMarks_plusToSpace keepsEscapes
    (fun c hc => hne c (.inl hc)) (fun c hc => hne c (.inr hc))]

theorem length_decode (cs : List Char) : (decode cs).length ≤ cs.length := by
  have hle := (Percent.length_lossy (cs.map plusToSpace)).1
  rwa [List.length_map] at hle

theorem decode_eq_self_iff {cs : List Char} :
    decode cs = cs ↔ '+' ∉ cs ∧ Percent.escapeFree cs = true := by
  have hmap : '+' ∉ cs → cs.map plusToSpace = cs := by
    intro hplus
    refine (List.map_congr_left fun c hc => ?_).trans (List.map_id cs)
    exact plusToSpace_of_ne fun h => hplus (h ▸ hc)
  constructor
  · intro h
    have hfree := (Percent.length_lossy (cs.map plusToSpace)).2 (by
      rw [List.length_map]
      exact congrArg List.length h)
    have hplain : cs.map plusToSpace = cs := by
      rw [decode, Percent.bytes_of_escapeFree hfree, Percent.lossy_encode] at h
      exact h
    refine ⟨fun hmem => ?_, hplain ▸ hfree⟩
    have hkept : ∀ c ∈ cs, plusToSpace c = c := by
      have hid : cs.map plusToSpace = cs.map id := hplain.trans (List.map_id cs).symm
      exact List.map_inj_left.1 hid
    exact absurd (hkept '+' hmem) (by decide)
  · rintro ⟨hplus, hfree⟩
    rw [decode, hmap hplus, Percent.bytes_of_escapeFree hfree, Percent.lossy_encode]

section Value

variable {text : List Char}

theorem value_eq (text : List Char) :
    value text = decode (((UrlPath.clean text).takeWhile (· ≠ '#')).takeWhile (· ≠ '&')) := by
  rw [value, parse, Percent.takeWhile_escape (by decide) (by decide), decode_escape]

theorem value_eq_self_iff : value text = text ↔ PlainValue text := by
  have hhash : ((UrlPath.clean text).takeWhile (· ≠ '#')).Sublist (UrlPath.clean text) :=
    List.takeWhile_sublist _
  have hamp : (((UrlPath.clean text).takeWhile (· ≠ '#')).takeWhile (· ≠ '&')).Sublist
      ((UrlPath.clean text).takeWhile (· ≠ '#')) := List.takeWhile_sublist _
  have hclean := UrlPath.clean_sublist text
  rw [value_eq]
  constructor
  · intro h
    have hlength := congrArg List.length h
    have hle := length_decode
      (((UrlPath.clean text).takeWhile (· ≠ '#')).takeWhile (· ≠ '&'))
    have hwhole : ((UrlPath.clean text).takeWhile (· ≠ '#')).takeWhile (· ≠ '&') = text :=
      ((hamp.trans hhash).trans hclean).eq_of_length_le (by omega)
    have hcleaned : UrlPath.clean text = text := by
      refine hclean.eq_of_length_le ?_
      have hkept := (hamp.trans hhash).length_le
      rw [hwhole] at hkept
      exact hkept
    have hhashed : text.takeWhile (· ≠ '#') = text := by
      rw [hcleaned] at hwhole hamp
      refine (List.takeWhile_sublist _).eq_of_length_le ?_
      have hkept := hamp.length_le
      rwa [hwhole] at hkept
    have hamped : text.takeWhile (· ≠ '&') = text := by
      rwa [hcleaned, hhashed] at hwhole
    rw [hwhole] at h
    obtain ⟨hplus, hfree⟩ := decode_eq_self_iff.1 h
    obtain ⟨hskipped, hlast⟩ := UrlPath.clean_eq_iff.1 hcleaned
    refine ⟨fun c hc => ⟨?_, ?_, ?_, hskipped c hc⟩, hlast, hfree⟩
    · exact of_decide_eq_true (List.takeWhile_eq_self_iff.1 hamped c hc)
    · exact of_decide_eq_true (List.takeWhile_eq_self_iff.1 hhashed c hc)
    · exact fun heq => hplus (heq ▸ hc)
  · intro h
    rw [UrlPath.clean_eq_iff.2 ⟨fun c hc => (h.inside c hc).2.2.2, h.last⟩,
      List.takeWhile_eq_self_iff.2 fun c hc => decide_eq_true (h.inside c hc).2.1,
      List.takeWhile_eq_self_iff.2 fun c hc => decide_eq_true (h.inside c hc).1]
    exact decode_eq_self_iff.2 ⟨fun hplus => (h.inside _ hplus).2.2.1 rfl, h.escapes⟩

theorem value_component (text : List Char) : value (component text) = text := by
  have hin : ∀ c ∈ component text, c ≠ '&' ∧ c ≠ '#' ∧ c ≠ '+' ∧ UrlPath.isStripped c = false ∧
      UrlPath.isSkipped c = false := by
    intro c hc
    have hkept : Percent.isMark c = true ∨
        (c.isAlphanum || "-_.!~*'()".toList.contains c) = true := by
      rcases Percent.mem_escape hc with hmark | ⟨-, hkept⟩
      · exact .inl hmark
      · exact .inr (by simpa only [Bool.not_eq_false'] using hkept)
    refine ⟨?_, ?_, ?_, ?_, ?_⟩
    · rintro rfl
      exact absurd hkept (by decide)
    · rintro rfl
      exact absurd hkept (by decide)
    · rintro rfl
      exact absurd hkept (by decide)
    · by_contra hstripped
      have hlow : c.toNat ≤ 0x20 := by simpa [UrlPath.isStripped] using hstripped
      have hall : ∀ n ≤ 0x20, ¬ (Percent.isMark (Char.ofNat n) = true ∨
          ((Char.ofNat n).isAlphanum || "-_.!~*'()".toList.contains (Char.ofNat n)) = true) := by
        decide
      exact hall c.toNat hlow ((Char.ofNat_toNat c).symm ▸ hkept)
    · by_contra hskipped
      rw [Bool.not_eq_false, UrlPath.isSkipped, Bool.or_eq_true, Bool.or_eq_true, decide_eq_true_eq,
        decide_eq_true_eq, decide_eq_true_eq] at hskipped
      rcases hskipped with (rfl | rfl) | rfl
      · exact absurd hkept (by decide)
      · exact absurd hkept (by decide)
      · exact absurd hkept (by decide)
  have hclean : UrlPath.clean (component text) = component text :=
    UrlPath.clean_eq_iff.2 ⟨fun c hc => (hin c hc).2.2.2.2,
      fun c hc => (hin c (List.mem_of_getLast? hc)).2.2.2.1⟩
  rw [value_eq, hclean, List.takeWhile_eq_self_iff.2 fun c hc => decide_eq_true (hin c hc).2.1,
    List.takeWhile_eq_self_iff.2 fun c hc => decide_eq_true (hin c hc).1, decode]
  have hplus : (component text).map plusToSpace = component text :=
    (List.map_congr_left fun c hc => plusToSpace_of_ne (hin c hc).2.2.1).trans (List.map_id _)
  have hbytes : Percent.bytes (component text) = Utf8.encode text := by
    have h := @Percent.bytes_escape (fun c =>
      !(c.isAlphanum || "-_.!~*'()".toList.contains c)) (by decide) text []
    rwa [List.append_nil, Percent.bytes_nil, List.append_nil] at h
  rw [hplus, hbytes, Percent.lossy_encode]

theorem amp_notMem_component (text : List Char) : '&' ∉ component text := by
  intro hmem
  rcases Percent.mem_escape hmem with hmark | ⟨-, hkept⟩
  · cases hmark
  · cases hkept

theorem amp_notMem_parse (h : '&' ∉ text) : '&' ∉ parse text := by
  intro hmem
  rcases Percent.mem_escape hmem with hmark | ⟨hmem, -⟩
  · cases hmark
  · exact h ((UrlPath.clean_sublist text).subset ((List.takeWhile_sublist _).subset hmem))

end Value

section Fields

def isInert (c : Char) : Bool :=
  !escapes c && !UrlPath.isStripped c && !UrlPath.isSkipped c && c ≠ '#'

theorem rdropWhile_append {p : Char → Bool} {xs ys : List Char}
    (hlast : ∀ c ∈ xs, p c = false) : (xs ++ ys).rdropWhile p = xs ++ ys.rdropWhile p := by
  induction ys using List.reverseRecOn with
  | nil =>
      rw [List.append_nil, List.rdropWhile_nil, List.append_nil, List.rdropWhile_eq_self_iff]
      intro h
      rw [hlast _ (List.getLast_mem h)]
      exact Bool.false_ne_true
  | append_singleton ys y ih =>
      rw [← List.append_assoc]
      by_cases hy : p y = true
      · rw [List.rdropWhile_concat_pos _ _ _ hy, List.rdropWhile_concat_pos _ _ _ hy, ih]
      · rw [List.rdropWhile_concat_neg _ _ _ hy, List.rdropWhile_concat_neg _ _ _ hy,
          List.append_assoc]

theorem parse_append {front : List Char} (hfront : front.all isInert = true)
    (text : List Char) : parse (front ++ text) = front ++ parse text := by
  have hinert : ∀ c ∈ front, escapes c = false ∧ UrlPath.isStripped c = false ∧
      UrlPath.isSkipped c = false ∧ c ≠ '#' := by
    intro c hc
    have h := List.all_eq_true.1 hfront c hc
    simpa [isInert, and_assoc] using h
  have hclean : UrlPath.clean (front ++ text) = front ++ UrlPath.clean text := by
    rw [UrlPath.clean, rdropWhile_append fun c hc => (hinert c hc).2.1, List.filter_append,
      List.filter_eq_self.2 fun c hc => by rw [(hinert c hc).2.2.1]; rfl]
    rfl
  have hescape : Percent.escape escapes front = front := by
    rw [Percent.escape, List.flatMap_congr fun c hc =>
      Percent.escapeChar_of_not (hinert c hc).1]
    exact List.flatMap_singleton' front
  rw [parse, hclean, List.takeWhile_append_of_pos fun c hc => decide_eq_true (hinert c hc).2.2.2,
    Percent.escape_append, hescape]
  rfl

theorem pairs_cons {name : List Char} (hname : '=' ∉ name ∧ '&' ∉ name) (rest : List Char) :
    pairs (name ++ '=' :: rest) = (decode name, decode (rest.takeWhile (· ≠ '&'))) ::
      pairs ((rest.dropWhile (· ≠ '&')).drop 1) := by
  have hpair : ∀ v, pair (name ++ '=' :: v) = (decode name, decode v) := by
    intro v
    have hall : ∀ c ∈ name, decide (c ≠ '=') = true := fun c hc =>
      decide_eq_true fun heq => hname.1 (heq ▸ hc)
    rw [pair, List.takeWhile_append_of_pos hall, List.dropWhile_append_of_pos hall,
      List.takeWhile_cons_of_neg (by decide), List.dropWhile_cons_of_neg (by decide),
      List.append_nil]
    rfl
  by_cases hamp : '&' ∈ rest
  · obtain ⟨v, more, rfl, hv⟩ := List.eq_append_cons_of_mem hamp
    have hall : ∀ c ∈ v, decide (c ≠ '&') = true := fun c hc =>
      decide_eq_true fun heq => hv (heq ▸ hc)
    have hnot : '&' ∉ name ++ '=' :: v := by
      simp only [List.mem_append, List.mem_cons, not_or]
      exact ⟨hname.2, by decide, hv⟩
    have hsplit : (name ++ '=' :: (v ++ '&' :: more)).splitOn '&' =
        (name ++ '=' :: v) :: more.splitOn '&' := by
      rw [← List.splitOn_append_cons_self_of_not_mem hnot, List.append_assoc, List.cons_append]
    rw [pairs, hsplit, List.filter_cons_of_pos (by simp), List.map_cons, hpair,
      List.takeWhile_append_of_pos hall, List.dropWhile_append_of_pos hall,
      List.takeWhile_cons_of_neg (by decide), List.dropWhile_cons_of_neg (by decide),
      List.append_nil]
    rfl
  · have hall : ∀ c ∈ rest, decide (c ≠ '&') = true := fun c hc =>
      decide_eq_true fun heq => hamp (heq ▸ hc)
    have hnot : '&' ∉ name ++ '=' :: rest := by
      simp only [List.mem_append, List.mem_cons, not_or]
      exact ⟨hname.2, by decide, hamp⟩
    rw [pairs, List.splitOn_eq_singleton hnot, List.filter_cons_of_pos (by simp), List.map_cons, hpair,
      List.takeWhile_eq_self_iff.2 hall, List.dropWhile_eq_nil_iff.2 hall]
    rfl

def field (name : List Char) (ps : List (List Char × List Char)) : Option (List Char) :=
  match ps.filter (fun p => p.1 = name) with
  | [p] => some p.2
  | _ => none

end Fields

end UrlQuery

end AtlasOfUs.Library
