import Mathlib.Data.List.Basic

namespace AtlasOfUs.Library.Utf8

def encodeChar (c : Char) : List Nat :=
  let n := c.toNat
  if n < 0x80 then [n]
  else if n < 0x800 then [0xC0 + n / 64, 0x80 + n % 64]
  else if n < 0x10000 then [0xE0 + n / 4096, 0x80 + n / 64 % 64, 0x80 + n % 64]
  else [0xF0 + n / 262144, 0x80 + n / 4096 % 64, 0x80 + n / 64 % 64, 0x80 + n % 64]

def encode (cs : List Char) : List Nat := cs.flatMap encodeChar

theorem encode_cons (c : Char) (cs : List Char) : encode (c :: cs) = encodeChar c ++ encode cs :=
  List.flatMap_cons

/-- A streaming decoder: the value of the bytes read of a character, the number
of bytes it still needs and the range of the next one. -/
structure Decoder where
  codePoint : Nat := 0
  needed : Nat := 0
  lower : Nat := 0x80
  upper : Nat := 0xBF
  deriving DecidableEq

def replacement : Char := Char.ofNat 0xFFFD

namespace Decoder

def lead (b : Nat) : Decoder × List Char :=
  if b ≤ 0x7F then ({}, [Char.ofNat b])
  else if 0xC2 ≤ b ∧ b ≤ 0xDF then ({ codePoint := b % 32, needed := 1 }, [])
  else if 0xE0 ≤ b ∧ b ≤ 0xEF then
    (⟨b % 16, 2, if b = 0xE0 then 0xA0 else 0x80, if b = 0xED then 0x9F else 0xBF⟩, [])
  else if 0xF0 ≤ b ∧ b ≤ 0xF4 then
    (⟨b % 8, 3, if b = 0xF0 then 0x90 else 0x80, if b = 0xF4 then 0x8F else 0xBF⟩, [])
  else ({}, [replacement])

def push (d : Decoder) (b : Nat) : Decoder × List Char :=
  if d.needed = 0 then lead b
  else if d.lower ≤ b ∧ b ≤ d.upper then
    if d.needed = 1 then ({}, [Char.ofNat (d.codePoint * 64 + b % 64)])
    else ({ codePoint := d.codePoint * 64 + b % 64, needed := d.needed - 1 }, [])
  else ((lead b).1, replacement :: (lead b).2)

def decode (d : Decoder) : List Nat → Decoder × List Char
  | [] => (d, [])
  | b :: bs => (((d.push b).1.decode bs).1, (d.push b).2 ++ ((d.push b).1.decode bs).2)

@[simp] theorem decode_nil (d : Decoder) : d.decode [] = (d, []) := rfl

theorem decode_append (d : Decoder) (xs ys : List Nat) :
    d.decode (xs ++ ys) =
      (((d.decode xs).1.decode ys).1, (d.decode xs).2 ++ ((d.decode xs).1.decode ys).2) := by
  induction xs generalizing d with
  | nil => rfl
  | cons b xs ih => simp only [List.cons_append, decode, ih, List.append_assoc]

theorem decode_of_push {d d' : Decoder} {b : Nat} (h : d.push b = (d', [])) (bs : List Nat) :
    d.decode (b :: bs) = d'.decode bs := by
  rw [decode, h]
  rfl

theorem decode_of_push_last {d : Decoder} {b : Nat} {c : Char} (h : d.push b = ({}, [c])) :
    d.decode [b] = ({}, [c]) := by
  rw [decode, h]
  rfl

theorem push_continue {d : Decoder} {b : Nat} (hneeded : 1 < d.needed) (hlower : d.lower ≤ b)
    (hupper : b ≤ d.upper) :
    d.push b = ({ codePoint := d.codePoint * 64 + b % 64, needed := d.needed - 1 }, []) := by
  rw [push, if_neg (by omega), if_pos ⟨hlower, hupper⟩, if_neg (by omega)]

theorem push_last {d : Decoder} {b : Nat} (hneeded : d.needed = 1) (hlower : d.lower ≤ b)
    (hupper : b ≤ d.upper) : d.push b = ({}, [Char.ofNat (d.codePoint * 64 + b % 64)]) := by
  rw [push, if_neg (by omega), if_pos ⟨hlower, hupper⟩, if_pos hneeded]

theorem toNat_valid (c : Char) : c.toNat < 0xD800 ∨ 0xDFFF < c.toNat ∧ c.toNat < 0x110000 :=
  c.valid

theorem decode_last {d : Decoder} {c : Char} (hneeded : d.needed = 1) (hlower : d.lower ≤ 0x80)
    (hupper : d.upper = 0xBF) (hcode : d.codePoint = c.toNat / 64) :
    d.decode [0x80 + c.toNat % 64] = ({}, [c]) := by
  apply decode_of_push_last
  rw [push_last hneeded (by omega) (by omega), hcode,
    show c.toNat / 64 * 64 + (0x80 + c.toNat % 64) % 64 = c.toNat by omega, Char.ofNat_toNat]

theorem decode_encodeChar (c : Char) : ({} : Decoder).decode (encodeChar c) = ({}, [c]) := by
  have hvalid := toNat_valid c
  simp only [encodeChar]
  by_cases h1 : c.toNat < 0x80
  · rw [if_pos h1]
    apply decode_of_push_last
    rw [push, if_pos rfl, lead, if_pos (by omega), Char.ofNat_toNat]
  rw [if_neg h1]
  by_cases h2 : c.toNat < 0x800
  · rw [if_pos h2]
    have hlead : ({} : Decoder).push (0xC0 + c.toNat / 64) =
        ({ codePoint := (0xC0 + c.toNat / 64) % 32, needed := 1 }, []) := by
      rw [push, if_pos rfl, lead, if_neg (by omega), if_pos (by omega)]
    rw [decode_of_push hlead]
    apply decode_last rfl (Nat.le_refl _) rfl
    change (0xC0 + c.toNat / 64) % 32 = _
    omega
  rw [if_neg h2]
  by_cases h3 : c.toNat < 0x10000
  · rw [if_pos h3]
    have hlead : ({} : Decoder).push (0xE0 + c.toNat / 4096) =
        (⟨(0xE0 + c.toNat / 4096) % 16, 2,
          if 0xE0 + c.toNat / 4096 = 0xE0 then 0xA0 else 0x80,
          if 0xE0 + c.toNat / 4096 = 0xED then 0x9F else 0xBF⟩, []) := by
      rw [push, if_pos rfl, lead, if_neg (by omega), if_neg (by omega), if_pos (by omega)]
    rw [decode_of_push hlead, decode_of_push (push_continue (Nat.lt_succ_self 1) _ _)]
    · apply decode_last rfl (Nat.le_refl _) rfl
      change (0xE0 + c.toNat / 4096) % 16 * 64 + (0x80 + c.toNat / 64 % 64) % 64 = _
      omega
    · change (if _ then _ else _) ≤ _
      split <;> omega
    · change _ ≤ if _ then _ else _
      split <;> omega
  · rw [if_neg h3]
    have hlead : ({} : Decoder).push (0xF0 + c.toNat / 262144) =
        (⟨(0xF0 + c.toNat / 262144) % 8, 3,
          if 0xF0 + c.toNat / 262144 = 0xF0 then 0x90 else 0x80,
          if 0xF0 + c.toNat / 262144 = 0xF4 then 0x8F else 0xBF⟩, []) := by
      rw [push, if_pos rfl, lead, if_neg (by omega), if_neg (by omega), if_neg (by omega),
        if_pos (by omega)]
    have hsecond : (if 0xF0 + c.toNat / 262144 = 0xF0 then 0x90 else 0x80) ≤
        0x80 + c.toNat / 4096 % 64 ∧ 0x80 + c.toNat / 4096 % 64 ≤
          if 0xF0 + c.toNat / 262144 = 0xF4 then 0x8F else 0xBF := by
      constructor <;> split <;> omega
    have hthird : 0x80 + c.toNat / 64 % 64 ≤ 0xBF := by omega
    rw [decode_of_push hlead,
      decode_of_push (push_continue (Nat.lt_add_of_pos_right Nat.two_pos) hsecond.1 hsecond.2),
      decode_of_push (push_continue (Nat.lt_succ_self 1) (Nat.le_add_right _ _) hthird)]
    apply decode_last rfl (Nat.le_refl _) rfl
    change ((0xF0 + c.toNat / 262144) % 8 * 64 + (0x80 + c.toNat / 4096 % 64) % 64) * 64 +
      (0x80 + c.toNat / 64 % 64) % 64 = _
    omega

theorem decode_encode (cs : List Char) : ({} : Decoder).decode (encode cs) = ({}, cs) := by
  induction cs with
  | nil => rfl
  | cons c cs ih =>
      rw [encode_cons, decode_append, decode_encodeChar, ih]
      rfl

end Decoder

structure TextDecoder where
  decoder : Decoder := {}
  bomSeen : Bool := false

namespace TextDecoder

def bom : Char := Char.ofNat 0xFEFF

def decode (t : TextDecoder) (chunk : List Nat) : TextDecoder × List Char :=
  let (decoder, text) := t.decoder.decode chunk
  match text with
  | [] => (⟨decoder, t.bomSeen⟩, [])
  | c :: cs => (⟨decoder, true⟩, if c = bom ∧ t.bomSeen = false then cs else c :: cs)

def decodeAll (t : TextDecoder) : List (List Nat) → List (List Char)
  | [] => []
  | chunk :: chunks => (t.decode chunk).2 :: (t.decode chunk).1.decodeAll chunks

theorem decode_eq {t : TextDecoder} {chunk : List Nat}
    (h : t.bomSeen = true ∨ (t.decoder.decode chunk).2.head? ≠ some bom) :
    (t.decode chunk).1.decoder = (t.decoder.decode chunk).1 ∧
      (t.decode chunk).2 = (t.decoder.decode chunk).2 ∧
      ((t.decoder.decode chunk).2 ≠ [] ∨ t.bomSeen = true → (t.decode chunk).1.bomSeen = true) := by
  rw [decode]
  cases hd : t.decoder.decode chunk with
  | mk decoder text =>
      rw [hd] at h
      cases text with
      | nil => exact ⟨rfl, rfl, fun hseen => hseen.resolve_left (fun hne => hne rfl)⟩
      | cons c cs =>
          refine ⟨rfl, ?_, fun _ => rfl⟩
          apply if_neg
          rintro ⟨rfl, hseen⟩
          rcases h with h | h
          · rw [hseen] at h
            cases h
          · exact h rfl

/-- However the bytes are cut, the texts of the chunks make up the whole text,
unless that begins with a byte order mark. -/
theorem flatten_decodeAll {t : TextDecoder} {chunks : List (List Nat)}
    (h : t.bomSeen = true ∨ (t.decoder.decode chunks.flatten).2.head? ≠ some bom) :
    (t.decodeAll chunks).flatten = (t.decoder.decode chunks.flatten).2 := by
  induction chunks generalizing t with
  | nil => rfl
  | cons chunk chunks ih =>
      rw [List.flatten_cons, Decoder.decode_append] at h ⊢
      have hchunk : t.bomSeen = true ∨ (t.decoder.decode chunk).2.head? ≠ some bom := by
        refine h.imp_right fun hhead hbom => hhead ?_
        rw [List.head?_append, hbom]
        rfl
      obtain ⟨hdecoder, htext, hseen⟩ := decode_eq hchunk
      rw [decodeAll, List.flatten_cons, htext, ih, hdecoder]
      by_cases hempty : (t.decoder.decode chunk).2 = []
      · rw [hempty, List.nil_append] at h
        rw [hdecoder]
        exact h.imp_left (fun hbom => hseen (.inr hbom))
      · exact .inl (hseen (.inl hempty))

end TextDecoder

end AtlasOfUs.Library.Utf8
