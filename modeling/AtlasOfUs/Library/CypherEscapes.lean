import AtlasOfUs.Library.CypherLexer
import AtlasOfUs.Library.PercentEncoding

namespace AtlasOfUs.Library.Cypher

/-- What the reader of a statement is in the middle of: nothing, a backslash, or the digits of a
Unicode escape, with how many follow the next and the value so far. -/
inductive Reading
  | plain
  | slash
  | digits (left value : Nat)

def codeUnit (n : Nat) : Char := if 0xD800 ≤ n ∧ n < 0xE000 then Char.ofNat 0xFFFD else Char.ofNat n

/-- The text of a statement once its Unicode escapes are resolved, which happens before it is cut
into tokens. A backslash before any other character stays, with that character. -/
def resolveFrom : Reading → List Char → Option (List Char)
  | .plain, [] => some []
  | .slash, [] => some ['\\']
  | .digits _ _, [] => none
  | .plain, c :: cs =>
      if c = '\\' then resolveFrom .slash cs else (resolveFrom .plain cs).map (c :: ·)
  | .slash, c :: cs =>
      if c = 'u' then resolveFrom (.digits 3 0) cs
      else (resolveFrom .plain cs).map fun r => '\\' :: c :: r
  | .digits left value, c :: cs =>
      match Percent.hexValue c, left with
      | none, _ => none
      | some h, 0 => (resolveFrom .plain cs).map (codeUnit (value * 16 + h) :: ·)
      | some h, left + 1 => resolveFrom (.digits left (value * 16 + h)) cs

def resolve (cs : List Char) : Option (List Char) := resolveFrom .plain cs

def escapesFrom : Bool → List Char → Bool
  | _, [] => false
  | false, c :: cs => escapesFrom (c = '\\') cs
  | true, c :: cs => c = 'u' || escapesFrom false cs

def escapes (cs : List Char) : Bool := escapesFrom false cs

variable (α : Alphabet)

/-- The tokens of a statement, if its Unicode escapes have their digits. -/
def scan (cs : List Char) : Option (List Token) := (resolve cs).map (lex α)

section Resolving

def held (after : Bool) : List Char := if after then ['\\'] else []

def reading (after : Bool) : Reading := if after then .slash else .plain

theorem resolveFrom_of_not_escapes {after : Bool} {cs : List Char}
    (h : escapesFrom after cs = false) : resolveFrom (reading after) cs = some (held after ++ cs) := by
  induction cs generalizing after with
  | nil => cases after <;> rfl
  | cons c cs ih =>
      cases after with
      | false =>
          have ih := ih h
          by_cases hc : c = '\\'
          · rw [decide_eq_true hc] at ih
            rw [reading, if_neg Bool.false_ne_true, resolveFrom, if_pos hc, hc]
            exact ih
          · rw [decide_eq_false hc] at ih
            have hrest : resolveFrom .plain cs = some cs := ih
            rw [reading, if_neg Bool.false_ne_true, resolveFrom, if_neg hc, hrest]
            rfl
      | true =>
          obtain ⟨hc, hrest⟩ := Bool.or_eq_false_iff.1 h
          have hrest : resolveFrom .plain cs = some cs := ih hrest
          rw [reading, if_pos rfl, resolveFrom, if_neg (of_decide_eq_false hc), hrest]
          rfl

theorem resolve_of_not_escapes {cs : List Char} (h : escapes cs = false) :
    resolve cs = some cs := resolveFrom_of_not_escapes h

def Reading.least : Reading → List Char → List Char → Prop
  | .plain, cs, r => r.length ≤ cs.length
  | .slash, cs, r => r.length ≤ cs.length + 1
  | .digits left _, cs, r => r.length + left ≤ cs.length

theorem least_of_resolveFrom {m : Reading} {cs r : List Char} (h : resolveFrom m cs = some r) :
    m.least cs r := by
  induction cs generalizing m r with
  | nil =>
      cases m with
      | plain =>
          obtain rfl := Option.some.inj h
          exact Nat.le_refl _
      | slash =>
          obtain rfl := Option.some.inj h
          exact Nat.le_refl _
      | digits left value => cases h
  | cons c cs ih =>
      cases m with
      | plain =>
          rw [resolveFrom] at h
          split at h
          · exact ih h
          · obtain ⟨r, hr, rfl⟩ := Option.map_eq_some_iff.1 h
            exact Nat.succ_le_succ (ih hr)
      | slash =>
          rw [resolveFrom] at h
          split at h
          · have hdigits : r.length + 3 ≤ cs.length := ih h
            simp only [Reading.least, List.length_cons]
            omega
          · obtain ⟨r, hr, rfl⟩ := Option.map_eq_some_iff.1 h
            exact Nat.succ_le_succ (Nat.succ_le_succ (ih hr))
      | digits left value =>
          cases hc : Percent.hexValue c with
          | none =>
              simp only [resolveFrom, hc] at h
              cases h
          | some digit =>
              cases left with
              | zero =>
                  simp only [resolveFrom, hc] at h
                  obtain ⟨r, hr, rfl⟩ := Option.map_eq_some_iff.1 h
                  exact Nat.succ_le_succ (ih hr)
              | succ left =>
                  simp only [resolveFrom, hc] at h
                  exact Nat.succ_le_succ (ih h)

theorem length_of_escapesFrom {after : Bool} {cs r : List Char} (hescapes : escapesFrom after cs = true)
    (h : resolveFrom (reading after) cs = some r) :
    r.length + 5 ≤ (held after).length + cs.length := by
  induction cs generalizing after r with
  | nil => cases after <;> cases hescapes
  | cons c cs ih =>
      cases after with
      | false =>
          have hescapes : escapesFrom (c = '\\') cs = true := hescapes
          rw [reading, if_neg Bool.false_ne_true, resolveFrom] at h
          split at h
          · rename_i hc
            rw [decide_eq_true hc] at hescapes
            have hrest := ih hescapes h
            simp only [held] at hrest ⊢
            simpa [Nat.add_comm] using hrest
          · rename_i hc
            rw [decide_eq_false hc] at hescapes
            obtain ⟨r, hr, rfl⟩ := Option.map_eq_some_iff.1 h
            have hrest := ih hescapes hr
            simp only [held, Bool.false_eq_true, if_false, List.length_nil, List.length_cons]
              at hrest ⊢
            omega
      | true =>
          rw [reading, if_pos rfl, resolveFrom] at h
          split at h
          · have hdigits : r.length + 3 ≤ cs.length := least_of_resolveFrom h
            simp only [held, if_true, List.length_cons, List.length_nil]
            omega
          · rename_i hc
            obtain ⟨r, hr, rfl⟩ := Option.map_eq_some_iff.1 h
            have hescapes : escapesFrom false cs = true := by
              rw [escapesFrom, decide_eq_false hc, Bool.false_or] at hescapes
              exact hescapes
            have hrest := ih hescapes hr
            simp only [held, Bool.false_eq_true, if_false, if_true, List.length_nil,
              List.length_cons] at hrest ⊢
            omega

end Resolving

section Sizes

def Token.size : Token → Nat
  | .name s | .number s | .unfinished s => s.length
  | .quoted raw _ | .literal _ raw _ => raw.length + 2
  | .mark _ => 1
  | .comment raw => raw.length + 3

def sizes : List Token → Nat
  | [] => 0
  | t :: ts => t.size + sizes ts

def Mode.size : Mode → Nat
  | .neutral => 0
  | .word s => s.length
  | .backtick raw _ | .string _ raw _ => raw.length + 1
  | .tick raw _ | .escape _ raw _ | .line raw | .block raw => raw.length + 2
  | .slash => 1

variable {α}

@[simp] theorem sizes_nil : sizes [] = 0 := rfl

@[simp] theorem sizes_cons (t : Token) (ts : List Token) : sizes (t :: ts) = t.size + sizes ts :=
  rfl

@[simp] theorem sizes_append (ts us : List Token) : sizes (ts ++ us) = sizes ts + sizes us := by
  induction ts with
  | nil => rw [List.nil_append, sizes_nil, Nat.zero_add]
  | cons t ts ih => rw [List.cons_append, sizes_cons, sizes_cons, ih, Nat.add_assoc]

theorem size_wordToken (s : List Char) : (wordToken α s).size = s.length := by
  rw [wordToken]
  split <;> rfl

theorem size_begin (c : Char) : sizes (begin α c).1 + (begin α c).2.size = 1 := by
  unfold begin
  split
  · rfl
  · split
    · rfl
    · split
      · rfl
      · split <;> rfl

theorem size_step (m : Mode) (c : Char) :
    sizes (step α m c).1 + (step α m c).2.size = m.size + 1 := by
  have hbegin := size_begin (α := α) c
  cases m with
  | neutral => exact hbegin.trans (Nat.zero_add 1).symm
  | word s =>
      rw [step]
      split
      · simp [Mode.size]
      · rw [sizes_cons, size_wordToken, Nat.add_assoc, hbegin]
        rfl
  | backtick r n =>
      rw [step]
      split <;> simp [Mode.size]
  | tick r n =>
      rw [step]
      split
      · simp [Mode.size]
      · rw [sizes_cons, Nat.add_assoc, hbegin]
        rfl
  | string q r s =>
      rw [step]
      split
      · simp [Mode.size]
      · split <;> simp [Mode.size, Token.size]
  | escape q r s => simp [step, Mode.size]
  | slash =>
      rw [step]
      split
      · rfl
      · split
        · rfl
        · rw [sizes_cons, Nat.add_assoc, hbegin]
          rfl
  | line r =>
      rw [step]
      split <;> simp [Mode.size, Token.size]
  | block r =>
      rw [step]
      split <;> simp [Mode.size, Token.size]

theorem size_run (m : Mode) (cs : List Char) :
    sizes (run α m cs).1 + (run α m cs).2.size = m.size + cs.length := by
  induction cs generalizing m with
  | nil => simp [run]
  | cons c cs ih =>
      have hstep := size_step (α := α) m c
      have hrest := ih (step α m c).2
      change sizes (_ ++ _) + Mode.size (run α (step α m c).2 cs).2 = _
      rw [sizes_append, List.length_cons]
      omega

theorem size_flush (m : Mode) :
    sizes (flush α m) ≤ m.size ∧ m.size ≤ sizes (flush α m) + 2 := by
  cases m with
  | word s => simp [flush, size_wordToken, Mode.size]
  | _ => simp [flush, Mode.size, Token.size]

theorem size_lex (cs : List Char) :
    sizes (lex α cs) ≤ cs.length ∧ cs.length ≤ sizes (lex α cs) + 2 := by
  have hrun := size_run (α := α) .neutral cs
  obtain ⟨hle, hge⟩ := size_flush (α := α) (run α .neutral cs).2
  have hneutral : Mode.size .neutral = 0 := rfl
  rw [lex, sizes_append]
  omega

theorem not_escapes_of_lex_eq {cs r : List Char} (hr : resolve cs = some r)
    (h : lex α r = lex α cs) : escapes cs = false := by
  rw [← Bool.not_eq_true]
  intro hescapes
  have hshorter : r.length + 5 ≤ cs.length := by
    simpa [held] using length_of_escapesFrom hescapes hr
  have hle := (size_lex (α := α) r).1
  have hge := (size_lex (α := α) cs).2
  rw [h] at hle
  have hsame := (size_lex (α := α) r).2
  rw [h] at hsame
  omega

end Sizes

section Names

variable {α}

theorem escapesFrom_append {c : Char} (hslash : c ≠ '\\') (hu : c ≠ 'u') (after : Bool)
    (a b : List Char) :
    escapesFrom after (a ++ c :: b) = (escapesFrom after a || escapesFrom false b) := by
  induction a generalizing after with
  | nil => cases after <;> simp [escapesFrom, hslash, hu]
  | cons d a ih => cases after <;> simp [escapesFrom, ih, Bool.or_assoc]

theorem escapes_append_of_notMem {a : List Char} (h : '\\' ∉ a) (b : List Char) :
    escapes (a ++ b) = escapes b := by
  induction a with
  | nil => rfl
  | cons c a ih =>
      obtain ⟨hc, ha⟩ := not_or.1 (mt List.mem_cons.2 h)
      rw [List.cons_append, escapes, escapesFrom, decide_eq_false (Ne.symm hc)]
      exact ih ha

def Piece.Unslashed : Piece → Prop
  | .text s => '\\' ∉ s
  | .bare _ | .ticked _ | .value _ => True

def Piece.Kept : Piece → Prop
  | .ticked s => escapes s = false
  | .text _ | .bare _ | .value _ => True

theorem Identifier.unslashed (hα : α.part '\\' = false) {s : List Char} (h : Identifier α s) :
    '\\' ∉ s := by
  intro hslash
  have hpart := h.2 _ hslash
  rw [hα] at hpart
  cases hpart

theorem escapes_render_append (hα : α.part '\\' = false) {p : Piece} (hlegal : p.Legal α)
    (htext : p.Unslashed) (b : List Char) :
    escapes (p.render ++ b) = false ↔ p.Kept ∧ escapes b = false := by
  cases p with
  | text s =>
      rw [Piece.render, escapes_append_of_notMem htext]
      exact (and_iff_right trivial).symm
  | bare s =>
      rw [Piece.render, escapes_append_of_notMem (hlegal.unslashed hα)]
      exact (and_iff_right trivial).symm
  | ticked s =>
      have hsplit : Piece.render (.ticked s) ++ b = ['`'] ++ (s ++ '`' :: b) := by
        simp [Piece.render]
      rw [hsplit, escapes_append_of_notMem (by decide), escapes,
        escapesFrom_append (by decide) (by decide), Bool.or_eq_false_iff]
      rfl
  | value s =>
      have hnone : '\\' ∉ Piece.render (.value s) := by
        have hs := hlegal.2
        simp [Piece.render, hs]
      rw [escapes_append_of_notMem hnone]
      exact (and_iff_right trivial).symm

theorem escapes_render (hα : α.part '\\' = false) {ps : List Piece} (hlegal : AllLegal α ps)
    (htext : ∀ p ∈ ps, p.Unslashed) : escapes (render ps) = false ↔ ∀ p ∈ ps, p.Kept := by
  induction ps with
  | nil => simp [escapes, escapesFrom]
  | cons p ps ih =>
      rw [allLegal_cons] at hlegal
      rw [List.forall_mem_cons] at htext
      rw [render_cons, escapes_render_append hα hlegal.1 htext.1, ih hlegal.2 htext.2,
        List.forall_mem_cons]

/-- A statement written from a template has its tokens exactly if what was put in is legal, and
nothing of it is an escape. -/
theorem scan_eq_expected_iff (hα : α.part '\\' = false) {cs : List Char} {ps : List Piece}
    (hrender : AllLegal α ps → render ps = cs) (hsep : Separated α [] ps)
    (htext : ∀ p ∈ ps, p.Unslashed) :
    scan α cs = some (expected α ps) ↔ AllLegal α ps ∧ ∀ p ∈ ps, p.Kept := by
  constructor
  · intro h
    obtain ⟨r, hr, hlex⟩ := Option.map_eq_some_iff.1 h
    have hlegal : AllLegal α ps := fun p hp => legal_of_lex_eq hlex hp
    have hsame : lex α r = lex α cs := by
      rw [hlex, ← hrender hlegal, lex_render hsep hlegal]
    refine ⟨hlegal, (escapes_render hα hlegal htext).1 ?_⟩
    rw [hrender hlegal]
    exact not_escapes_of_lex_eq hr hsame
  · rintro ⟨hlegal, hkept⟩
    have hnone : escapes cs = false := by
      rw [← hrender hlegal]
      exact (escapes_render hα hlegal htext).2 hkept
    rw [scan, resolve_of_not_escapes hnone, Option.map_some, ← hrender hlegal,
      lex_render hsep hlegal]

end Names

end AtlasOfUs.Library.Cypher
