import AtlasOfUs.Text

namespace AtlasOfUs.Text

inductive Digits : List Char → Nat → Prop
  | single {c : Char} (hc : c.isDigit = true) : Digits [c] (c.toNat - '0'.toNat)
  | snoc {cs : List Char} {n : Nat} {c : Char} (rest : Digits cs n) (hc : c.isDigit = true) :
      Digits (cs ++ [c]) (10 * n + (c.toNat - '0'.toNat))

inductive Numeral : List Char → Int → Prop
  | plain {cs : List Char} {n : Nat} (h : Digits cs n) : Numeral cs n
  | plus {cs : List Char} {n : Nat} (h : Digits cs n) : Numeral ('+' :: cs) n
  | minus {cs : List Char} {n : Nat} (h : Digits cs n) : Numeral ('-' :: cs) (-n)

theorem Digits.spec {cs : List Char} {n : Nat} (h : Digits cs n) :
    cs ≠ [] ∧ cs.all Char.isDigit = true := by
  induction h with
  | single hc => exact ⟨List.cons_ne_nil _ _, by rw [List.all_cons, hc, List.all_nil, Bool.and_self]⟩
  | snoc _ hc ih =>
      refine ⟨List.append_ne_nil_of_right_ne_nil _ (List.cons_ne_nil _ _), ?_⟩
      rw [List.all_append, ih.2, List.all_cons, hc, List.all_nil, Bool.and_self, Bool.and_self]

theorem Digits.head_isDigit {c : Char} {cs : List Char} {n : Nat} (h : Digits (c :: cs) n) :
    c.isDigit = true :=
  List.all_eq_true.1 h.spec.2 c List.mem_cons_self

theorem parseDigits_eq_some {cs : List Char} {n : Nat} : parseDigits cs = some n ↔ Digits cs n := by
  constructor
  · intro h
    rw [parseDigits] at h
    split at h
    case isFalse => cases h
    case isTrue hcs =>
      obtain rfl := Option.some.inj h
      obtain ⟨hne, hall⟩ := hcs
      clear h
      induction cs using List.reverseRecOn with
      | nil => exact absurd rfl hne
      | append_singleton cs c ih =>
          rw [List.all_append, Bool.and_eq_true, List.all_cons, List.all_nil, Bool.and_true] at hall
          rw [List.foldl_append]
          by_cases hnil : cs = []
          · subst hnil
            have hone : Digits ([] ++ [c]) (10 * 0 + (c.toNat - '0'.toNat)) := by
              rw [Nat.mul_zero, Nat.zero_add]
              exact .single hall.2
            exact hone
          · exact .snoc (ih hnil hall.1) hall.2
  · intro h
    rw [parseDigits, if_pos h.spec]
    congr 1
    induction h with
    | single _ => simp
    | snoc _ _ ih =>
        rw [List.foldl_append, ih]
        rfl

theorem Digits.unique {cs : List Char} {n m : Nat} (hn : Digits cs n) (hm : Digits cs m) : n = m :=
  Option.some.inj ((parseDigits_eq_some.2 hn).symm.trans (parseDigits_eq_some.2 hm))

theorem Numeral.unique {cs : List Char} {p q : Int} (hp : Numeral cs p) (hq : Numeral cs q) :
    p = q := by
  cases hp with
  | plain hn =>
      cases hq with
      | plain hm => rw [hn.unique hm]
      | plus _ | minus _ => exact absurd hn.head_isDigit (by decide)
  | plus hn =>
      cases hq with
      | plain hm => exact absurd hm.head_isDigit (by decide)
      | plus hm => rw [hn.unique hm]
  | minus hn =>
      cases hq with
      | plain hm => exact absurd hm.head_isDigit (by decide)
      | minus hm => rw [hn.unique hm]

theorem inRange_eq_some {read : Option Int} {p : Int} : (read.bind fun i =>
    if -2 ^ 63 ≤ i ∧ i < 2 ^ 63 then some i else none) = some p ↔
      read = some p ∧ -2 ^ 63 ≤ p ∧ p < 2 ^ 63 := by
  cases read with
  | none => simp
  | some i =>
      rw [Option.bind_some]
      split
      case isTrue h =>
        rw [Option.some.injEq]
        exact ⟨fun heq => ⟨heq, heq ▸ h⟩, And.left⟩
      case isFalse h =>
        apply iff_of_false
        · exact fun heq => by cases heq
        · rintro ⟨heq, hin⟩
          obtain rfl := Option.some.inj heq
          exact h hin

theorem signed_eq_some {cs : List Char} {sign : Int → Int} {p : Int} :
    ((parseDigits cs >>= fun n => pure (n : Int)).map sign = some p) ↔
      ∃ n, Digits cs n ∧ sign n = p := by
  constructor
  · intro h
    obtain ⟨i, hi, rfl⟩ := Option.map_eq_some_iff.1 h
    obtain ⟨n, hn, hin⟩ := Option.bind_eq_some_iff.1 hi
    obtain rfl := Option.some.inj hin
    exact ⟨n, parseDigits_eq_some.1 hn, rfl⟩
  · rintro ⟨n, h, rfl⟩
    rw [parseDigits_eq_some.2 h]
    rfl

theorem parseI64_eq_some {s : String} {p : Int} :
    parseI64 s = some p ↔ Numeral s.toList p ∧ -2 ^ 63 ≤ p ∧ p < 2 ^ 63 := by
  rw [parseI64]
  split
  case h_1 cs heq =>
    refine inRange_eq_some.trans (and_congr_left fun _ => signed_eq_some.trans ?_)
    rw [heq]
    constructor
    · rintro ⟨n, h, rfl⟩
      exact .minus h
    · intro h
      cases h with
      | plain h => exact absurd h.head_isDigit (by decide)
      | minus h => exact ⟨_, h, rfl⟩
  case h_2 cs heq =>
    refine inRange_eq_some.trans (and_congr_left fun _ => signed_eq_some.trans ?_)
    rw [heq]
    constructor
    · rintro ⟨n, h, rfl⟩
      exact .plus h
    · intro h
      cases h with
      | plain h => exact absurd h.head_isDigit (by decide)
      | plus h => exact ⟨_, h, rfl⟩
  case h_3 hminus hplus =>
    refine inRange_eq_some.trans (and_congr_left fun _ => signed_eq_some.trans ?_)
    constructor
    · rintro ⟨n, h, rfl⟩
      exact .plain h
    · generalize s.toList = cs at hminus hplus
      intro h
      cases h with
      | plain h => exact ⟨_, h, rfl⟩
      | plus h => exact absurd rfl (hplus _)
      | minus h => exact absurd rfl (hminus _)

theorem parseI64_of_numeral {s : String} {p : Int} (h : Numeral s.toList p) :
    parseI64 s = if -2 ^ 63 ≤ p ∧ p < 2 ^ 63 then some p else none := by
  split
  case isTrue hin => exact parseI64_eq_some.2 ⟨h, hin⟩
  case isFalse hout =>
    apply Option.eq_none_iff_forall_ne_some.2
    intro q hq
    obtain ⟨hnumeral, hin⟩ := parseI64_eq_some.1 hq
    exact hout (hnumeral.unique h ▸ hin)

end AtlasOfUs.Text
