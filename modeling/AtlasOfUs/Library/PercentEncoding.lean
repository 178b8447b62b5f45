import AtlasOfUs.Library.Utf8

namespace AtlasOfUs.Library.Percent

def digit (n : Nat) : Char := "0123456789ABCDEF".toList.getD n '0'

def hexValue (c : Char) : Option Nat :=
  let n := c.toNat
  if 48 ≤ n ∧ n ≤ 57 then some (n - 48)
  else if 65 ≤ n ∧ n ≤ 70 then some (n - 55)
  else if 97 ≤ n ∧ n ≤ 102 then some (n - 87)
  else none

def encodeByte (b : Nat) : List Char := ['%', digit (b / 16), digit (b % 16)]

def escapeChar (escapes : Char → Bool) (c : Char) : List Char :=
  if escapes c then (Utf8.encodeChar c).flatMap encodeByte else [c]

def escape (escapes : Char → Bool) (cs : List Char) : List Char := cs.flatMap (escapeChar escapes)

def escapedByte (c : Char) (rest : List Char) : Option Nat :=
  match rest with
  | a :: b :: _ =>
      if c = '%' then (hexValue a).bind fun h => (hexValue b).map fun l => h * 16 + l else none
  | _ => none

/-- The bytes of a text after the first `skip` characters. What is no escape stands for itself. -/
def bytesFrom : Nat → List Char → List Nat
  | _, [] => []
  | skip + 1, _ :: rest => bytesFrom skip rest
  | 0, c :: rest =>
      match escapedByte c rest with
      | some b => b :: bytesFrom 2 rest
      | none => Utf8.encodeChar c ++ bytesFrom 0 rest

def bytes (cs : List Char) : List Nat := bytesFrom 0 cs

def escapeFree : List Char → Bool
  | [] => true
  | c :: rest => (escapedByte c rest).isNone && escapeFree rest

theorem escape_cons (escapes : Char → Bool) (c : Char) (cs : List Char) :
    escape escapes (c :: cs) = escapeChar escapes c ++ escape escapes cs :=
  List.flatMap_cons

theorem escape_append (escapes : Char → Bool) (cs ds : List Char) :
    escape escapes (cs ++ ds) = escape escapes cs ++ escape escapes ds :=
  List.flatMap_append

@[simp] theorem bytes_nil : bytes [] = [] := rfl

theorem bytes_cons_of_none {c : Char} {rest : List Char} (h : escapedByte c rest = none) :
    bytes (c :: rest) = Utf8.encodeChar c ++ bytes rest := by
  rw [bytes, bytesFrom, h]
  rfl

theorem bytes_cons_of_some {c a b : Char} {rest : List Char} {byte : Nat}
    (h : escapedByte c (a :: b :: rest) = some byte) :
    bytes (c :: a :: b :: rest) = byte :: bytes rest := by
  rw [bytes, bytesFrom, h]
  rfl

theorem escapedByte_of_ne {c : Char} (h : c ≠ '%') (rest : List Char) :
    escapedByte c rest = none := by
  unfold escapedByte
  split
  · rw [if_neg h]
  · rfl

theorem escapedByte_eq_some {c : Char} {rest : List Char} {byte : Nat}
    (h : escapedByte c rest = some byte) :
    c = '%' ∧ ∃ a b rest', rest = a :: b :: rest' ∧ hexValue a ≠ none ∧ hexValue b ≠ none := by
  unfold escapedByte at h
  split at h
  · rename_i a b rest'
    split at h
    · rename_i hc
      refine ⟨hc, a, b, rest', rfl, ?_, ?_⟩
      · rintro ha
        rw [ha] at h
        cases h
      · rintro hb
        cases ha : hexValue a <;> simp [ha, hb] at h
    · cases h
  · cases h

theorem escape_induction {P : List Char → Prop} (nil : P [])
    (plain : ∀ c rest, escapedByte c rest = none → P rest → P (c :: rest))
    (escaped : ∀ a b rest byte, escapedByte '%' (a :: b :: rest) = some byte → hexValue a ≠ none →
      hexValue b ≠ none → P rest → P ('%' :: a :: b :: rest)) (cs : List Char) : P cs := by
  induction hlen : cs.length using Nat.strongRecOn generalizing cs with
  | _ n ih =>
      cases cs with
      | nil => exact nil
      | cons c rest =>
          rw [List.length_cons] at hlen
          cases hbyte : escapedByte c rest with
          | none => exact plain c rest hbyte (ih rest.length (by omega) rest rfl)
          | some byte =>
              obtain ⟨rfl, a, b, rest, rfl, ha, hb⟩ := escapedByte_eq_some hbyte
              rw [List.length_cons, List.length_cons] at hlen
              exact escaped a b rest byte hbyte ha hb (ih rest.length (by omega) rest rfl)

section Bytes

theorem hexValue_digit {n : Nat} (h : n < 16) : hexValue (digit n) = some n := by
  have hall : ∀ n < 16, hexValue (digit n) = some n := by decide
  exact hall n h

theorem bytes_encodeByte {b : Nat} (h : b < 256) (rest : List Char) :
    bytes (encodeByte b ++ rest) = b :: bytes rest := by
  apply bytes_cons_of_some
  have hb : b / 16 * 16 + b % 16 = b := by omega
  rw [escapedByte, if_pos rfl, hexValue_digit (by omega), hexValue_digit (by omega),
    Option.bind_some, Option.map_some, hb]

theorem bytes_encodeBytes {bs : List Nat} (h : ∀ b ∈ bs, b < 256) (rest : List Char) :
    bytes (bs.flatMap encodeByte ++ rest) = bs ++ bytes rest := by
  induction bs with
  | nil => rfl
  | cons b bs ih =>
      rw [List.flatMap_cons, List.append_assoc, bytes_encodeByte (h b List.mem_cons_self),
        ih fun b hb => h b (List.mem_cons_of_mem _ hb)]
      rfl

theorem lt_of_mem_encodeChar {c : Char} {b : Nat} (h : b ∈ Utf8.encodeChar c) : b < 256 := by
  have hvalid := Utf8.Decoder.toNat_valid c
  simp only [Utf8.encodeChar] at h
  split_ifs at h <;> simp only [List.mem_cons, List.not_mem_nil, or_false] at h <;> omega

theorem encodeChar_length_pos (c : Char) : 0 < (Utf8.encodeChar c).length := by
  simp only [Utf8.encodeChar]
  split_ifs <;> exact Nat.succ_pos _

theorem bytes_escapeChar {escapes : Char → Bool} {c : Char} (h : escapes c = true ∨ c ≠ '%')
    (rest : List Char) :
    bytes (escapeChar escapes c ++ rest) = Utf8.encodeChar c ++ bytes rest := by
  unfold escapeChar
  by_cases hc : escapes c = true
  · rw [if_pos hc, bytes_encodeBytes fun b hb => lt_of_mem_encodeChar hb]
  · rw [if_neg hc]
    exact bytes_cons_of_none (escapedByte_of_ne (h.resolve_left hc) rest)

/-- Where percent signs are escaped themselves, nothing is taken for an escape that is none. -/
theorem bytes_escape {escapes : Char → Bool} (h : escapes '%' = true) (cs rest : List Char) :
    bytes (escape escapes cs ++ rest) = Utf8.encode cs ++ bytes rest := by
  induction cs with
  | nil => rfl
  | cons c cs ih =>
      have hc : escapes c = true ∨ c ≠ '%' := by
        by_cases hc : c = '%'
        · exact .inl (hc ▸ h)
        · exact .inr hc
      rw [escape_cons, List.append_assoc, bytes_escapeChar hc, ih, Utf8.encode_cons,
        List.append_assoc]

end Bytes

section Kept

variable {escapes : Char → Bool}

def KeepsEscapes (escapes : Char → Bool) : Prop :=
  escapes '%' = false ∧ ∀ c, hexValue c ≠ none → escapes c = false

theorem hexValue_percent : hexValue '%' = none := by decide

/-- Whether a percent sign starts an escape is not changed by escaping what follows. -/
theorem escapedByte_escape (h : KeepsEscapes escapes) (c : Char) (rest : List Char) :
    escapedByte c (escape escapes rest) = escapedByte c rest := by
  by_cases hc : c = '%'
  swap
  · rw [escapedByte_of_ne hc, escapedByte_of_ne hc]
  subst hc
  have hhead : ∀ d, escapes d = true → ∃ tail, escapeChar escapes d = '%' :: tail ∧ tail ≠ [] := by
    intro d hd
    rw [escapeChar, if_pos hd]
    cases hbytes : Utf8.encodeChar d with
    | nil =>
        have hpos := encodeChar_length_pos d
        rw [hbytes] at hpos
        cases hpos
    | cons b bs => exact ⟨_, rfl, List.cons_ne_nil _ _⟩
  have hdigit : ∀ d, escapes d = true → hexValue d = none := by
    intro d hd
    by_contra hne
    rw [h.2 d hne] at hd
    cases hd
  have hkept : ∀ d, escapes d = false → escapeChar escapes d = [d] := by
    intro d hd
    rw [escapeChar, hd]
    rfl
  cases rest with
  | nil => rfl
  | cons a rest =>
      rw [escape_cons]
      cases ha : escapes a with
      | true =>
          obtain ⟨tail, htail, hne⟩ := hhead a ha
          obtain ⟨x, tail, rfl⟩ := List.exists_cons_of_ne_nil hne
          rw [htail, List.cons_append, List.cons_append, escapedByte, if_pos rfl, hexValue_percent]
          cases rest with
          | nil => rfl
          | cons b rest =>
              rw [escapedByte, if_pos rfl, hdigit a ha]
              rfl
      | false =>
          rw [hkept a ha, List.singleton_append]
          cases rest with
          | nil => rfl
          | cons b rest =>
              rw [escape_cons]
              cases hb : escapes b with
              | true =>
                  obtain ⟨tail, htail, -⟩ := hhead b hb
                  rw [htail, List.cons_append, escapedByte, if_pos rfl, hexValue_percent, escapedByte,
                    if_pos rfl, hdigit b hb]
              | false =>
                  rw [hkept b hb, List.singleton_append]
                  rfl

theorem bytes_escape_kept (h : KeepsEscapes escapes) (cs : List Char) :
    bytes (escape escapes cs) = bytes cs := by
  induction cs using escape_induction with
  | nil => rfl
  | plain c rest hbyte ih =>
      rw [bytes_cons_of_none hbyte, escape_cons]
      cases hc : escapes c with
      | true => rw [bytes_escapeChar (.inl hc), ih]
      | false =>
          rw [escapeChar, hc]
          change bytes (c :: escape escapes rest) = _
          rw [bytes_cons_of_none ((escapedByte_escape h c rest).trans hbyte), ih]
  | escaped a b rest byte hbyte ha hb ih =>
      have hbyte' : escapedByte '%' (a :: b :: escape escapes rest) = some byte := hbyte
      rw [bytes_cons_of_some hbyte, escape_cons, escape_cons, escape_cons]
      simp only [escapeChar, h.1, h.2 a ha, h.2 b hb]
      change bytes ('%' :: a :: b :: escape escapes rest) = _
      rw [bytes_cons_of_some hbyte', ih]

end Kept

section Lengths

/-- An escape makes a text shorter, so a text that is its own decoding has none. -/
theorem bytes_length (cs : List Char) :
    (bytes cs).length ≤ (Utf8.encode cs).length ∧
      ((bytes cs).length = (Utf8.encode cs).length → escapeFree cs = true) := by
  induction cs using escape_induction with
  | nil => exact ⟨Nat.le_refl _, fun _ => rfl⟩
  | plain c rest hbyte ih =>
      obtain ⟨hle, hfree⟩ := ih
      rw [bytes_cons_of_none hbyte, Utf8.encode_cons, List.length_append, List.length_append]
      refine ⟨by omega, fun heq => ?_⟩
      rw [escapeFree, hbyte, hfree (by omega)]
      rfl
  | escaped a b rest byte hbyte _ _ ih =>
      rw [bytes_cons_of_some hbyte, Utf8.encode_cons, Utf8.encode_cons, Utf8.encode_cons,
        List.length_cons, List.length_append, List.length_append, List.length_append]
      have h1 := encodeChar_length_pos '%'
      have h2 := encodeChar_length_pos a
      have h3 := encodeChar_length_pos b
      exact ⟨by omega, fun heq => by omega⟩

theorem bytes_of_escapeFree {cs : List Char} (h : escapeFree cs = true) :
    bytes cs = Utf8.encode cs := by
  induction cs with
  | nil => rfl
  | cons c rest ih =>
      rw [escapeFree, Bool.and_eq_true, Option.isNone_iff_eq_none] at h
      rw [bytes_cons_of_none h.1, ih h.2, Utf8.encode_cons]

theorem bytes_eq_encode_iff {cs : List Char} :
    bytes cs = Utf8.encode cs ↔ escapeFree cs = true :=
  ⟨fun h => (bytes_length cs).2 (congrArg List.length h), bytes_of_escapeFree⟩

end Lengths

section Utf8

def readUtf8 (bs : List Nat) : Option (List Char) :=
  let text := (({} : Utf8.Decoder).decode bs).2
  if Utf8.encode text = bs then some text else none

theorem readUtf8_encode (cs : List Char) : readUtf8 (Utf8.encode cs) = some cs := by
  rw [readUtf8, Utf8.Decoder.decode_encode]
  exact if_pos rfl

theorem readUtf8_eq_some {bs : List Nat} {cs : List Char} :
    readUtf8 bs = some cs ↔ bs = Utf8.encode cs := by
  constructor
  · intro h
    rw [readUtf8] at h
    split at h
    · rename_i heq
      rw [← heq, Option.some.inj h]
    · cases h
  · rintro rfl
    exact readUtf8_encode cs

end Utf8

end AtlasOfUs.Library.Percent
