import Mathlib.Data.List.Nodup

namespace AtlasOfUs.Library.Cypher

/-- The characters an identifier starts with and goes on with. -/
structure Alphabet where
  start : Char → Bool
  part : Char → Bool
  start_letter : ∀ c, c.isAlpha = true → start c = true
  start_dollar : start '$' = false
  part_of_start : ∀ c, start c = true → part c = true
  part_delimiter : ∀ c ∈ [' ', '\n', ',', '.', ':', ')', ']', '`', '\'', '"', '/'], part c = false

inductive Token
  | name (s : List Char)
  | number (s : List Char)
  | quoted (raw name : List Char)
  | literal (quote : Char) (raw content : List Char)
  | mark (c : Char)
  | comment (raw : List Char)
  | unfinished (raw : List Char)
  deriving DecidableEq

/-- What the lexer is in the middle of, with the characters read of it. -/
inductive Mode
  | neutral
  | word (s : List Char)
  | backtick (raw name : List Char)
  | tick (raw name : List Char)
  | string (quote : Char) (raw content : List Char)
  | escape (quote : Char) (raw content : List Char)
  | slash
  | line (raw : List Char)
  | block (raw : List Char)
  deriving DecidableEq

def unescape (c : Char) : Char :=
  if c = 'n' then '\n' else if c = 't' then '\t' else if c = 'r' then '\r'
  else if c = 'b' then Char.ofNat 8 else if c = 'f' then Char.ofNat 12 else c

variable (α : Alphabet)

def wordToken (s : List Char) : Token :=
  if (s.head?.map α.start).getD false then .name s else .number s

def begin (c : Char) : List Token × Mode :=
  if α.start c || c.isDigit then ([], .word [c])
  else if c = '`' then ([], .backtick [] [])
  else if c = '\'' ∨ c = '"' then ([], .string c [] [])
  else if c = '/' then ([], .slash)
  else ([.mark c], .neutral)

def step (m : Mode) (c : Char) : List Token × Mode :=
  match m with
  | .neutral => begin α c
  | .word s =>
      if α.part c then ([], .word (s ++ [c])) else (wordToken α s :: (begin α c).1, (begin α c).2)
  | .backtick r n => if c = '`' then ([], .tick r n) else ([], .backtick (r ++ [c]) (n ++ [c]))
  | .tick r n =>
      -- a second backtick stands for one in the name
      if c = '`' then ([], .backtick (r ++ ['`', '`']) (n ++ ['`']))
      else (.quoted r n :: (begin α c).1, (begin α c).2)
  | .string q r s =>
      if c = '\\' then ([], .escape q r s)
      else if c = q then ([.literal q r s], .neutral)
      else ([], .string q (r ++ [c]) (s ++ [c]))
  | .escape q r s => ([], .string q (r ++ ['\\', c]) (s ++ [unescape c]))
  | .slash =>
      if c = '/' then ([], .line []) else if c = '*' then ([], .block [])
      else (.mark '/' :: (begin α c).1, (begin α c).2)
  | .line r => if c = '\n' then ([.comment r], .neutral) else ([], .line (r ++ [c]))
  | .block r =>
      if c = '/' ∧ r.getLast? = some '*' then ([.comment r], .neutral) else ([], .block (r ++ [c]))

def run (m : Mode) : List Char → List Token × Mode
  | [] => ([], m)
  | c :: cs => ((step α m c).1 ++ (run (step α m c).2 cs).1, (run (step α m c).2 cs).2)

def flush : Mode → List Token
  | .neutral => []
  | .word s => [wordToken α s]
  | .tick r n => [.quoted r n]
  | .slash => [.mark '/']
  | .backtick r _ | .string _ r _ | .escape _ r _ | .line r | .block r => [.unfinished r]

def lex (cs : List Char) : List Token := (run α .neutral cs).1 ++ flush α (run α .neutral cs).2

theorem run_append (m : Mode) (a b : List Char) :
    run α m (a ++ b) = ((run α m a).1 ++ (run α (run α m a).2 b).1, (run α (run α m a).2 b).2) := by
  induction a generalizing m with
  | nil => rfl
  | cons c a ih => simp only [List.cons_append, run, ih, List.append_assoc]

/-- The text ends where a token ends, so whatever follows is lexed on its own. -/
def Closed (cs : List Char) : Prop := (run α .neutral cs).2 = .neutral

instance (cs : List Char) : Decidable (Closed α cs) := inferInstanceAs (Decidable (_ = _))

variable {α}

theorem Closed.lex_append {a : List Char} (h : Closed α a) (b : List Char) :
    lex α (a ++ b) = lex α a ++ lex α b := by
  unfold Closed at h
  simp only [lex, run_append, h, flush, List.append_nil, List.append_assoc]

theorem Closed.append {a b : List Char} (ha : Closed α a) (hb : Closed α b) :
    Closed α (a ++ b) := by
  unfold Closed at ha hb ⊢
  rw [run_append, ha, hb]

section Words

def Identifier (α : Alphabet) (s : List Char) : Prop :=
  (s.head?.map α.start).getD false = true ∧ ∀ c ∈ s, α.part c = true

theorem not_start_of_not_part {c : Char} (h : α.part c = false) : α.start c = false := by
  cases hstart : α.start c with
  | false => rfl
  | true => rw [α.part_of_start c hstart] at h; cases h

theorem run_word {cs : List Char} (h : ∀ c ∈ cs, α.part c = true) (s : List Char) :
    run α (.word s) cs = ([], .word (s ++ cs)) := by
  induction cs generalizing s with
  | nil => rw [List.append_nil, run]
  | cons c cs ih =>
      have hstep : step α (.word s) c = ([], .word (s ++ [c])) := if_pos (h c List.mem_cons_self)
      rw [run, hstep, ih fun d hd => h d (List.mem_cons_of_mem c hd)]
      simp

theorem run_identifier {s : List Char} (h : Identifier α s) :
    run α .neutral s = ([], .word s) := by
  obtain ⟨hstart, hpart⟩ := h
  cases s with
  | nil => cases hstart
  | cons c cs =>
      have hbegin : step α .neutral c = ([], .word [c]) := by
        have hc : α.start c = true := hstart
        rw [step, begin, hc]
        rfl
      rw [run, hbegin, run_word fun d hd => hpart d (List.mem_cons_of_mem c hd)]
      rfl

theorem wordToken_identifier {s : List Char} (h : Identifier α s) : wordToken α s = .name s :=
  if_pos h.1

theorem run_cons_of_step {m : Mode} {t : Token} {c : Char}
    (h : step α m c = (t :: (begin α c).1, (begin α c).2)) (cs : List Char) :
    run α m (c :: cs) = (t :: (run α .neutral (c :: cs)).1, (run α .neutral (c :: cs)).2) := by
  rw [run, h]
  rfl

theorem lex_identifier_append {s rest : List Char} (h : Identifier α s)
    (hrest : ∀ c, rest.head? = some c → α.part c = false) :
    lex α (s ++ rest) = .name s :: lex α rest := by
  rw [lex, run_append, run_identifier h]
  cases rest with
  | nil => simp [run, flush, lex, wordToken_identifier h]
  | cons c cs =>
      have hstep : step α (.word s) c = (wordToken α s :: (begin α c).1, (begin α c).2) := by
        rw [step, hrest c rfl]
        rfl
      rw [run_cons_of_step hstep, wordToken_identifier h]
      rfl

theorem run_backtick {cs : List Char} (h : '`' ∉ cs) (r n : List Char) :
    run α (.backtick r n) cs = ([], .backtick (r ++ cs) (n ++ cs)) := by
  induction cs generalizing r n with
  | nil => rw [List.append_nil, List.append_nil, run]
  | cons c cs ih =>
      obtain ⟨hc, hcs⟩ := not_or.1 (mt List.mem_cons.2 h)
      have hstep : step α (.backtick r n) c = ([], .backtick (r ++ [c]) (n ++ [c])) :=
        if_neg (Ne.symm hc)
      rw [run, hstep, ih hcs]
      simp

theorem run_ticked {s : List Char} (h : '`' ∉ s) :
    run α .neutral ('`' :: s ++ ['`']) = ([], .tick s s) := by
  have hopen : step α .neutral '`' = ([], .backtick [] []) := by
    have hstart := not_start_of_not_part (α.part_delimiter '`' (by decide))
    rw [step, begin, hstart]
    rfl
  have hclose : step α (.backtick s s) '`' = ([], .tick s s) := rfl
  simp only [List.cons_append, run, hopen, run_append, run_backtick h, List.nil_append, hclose]

theorem lex_ticked_append {s rest : List Char} (h : '`' ∉ s)
    (hrest : ∀ c, rest.head? = some c → c ≠ '`') :
    lex α ('`' :: s ++ ['`'] ++ rest) = .quoted s s :: lex α rest := by
  rw [lex, run_append, run_ticked h]
  cases rest with
  | nil => rfl
  | cons c cs =>
      have hstep : step α (.tick s s) c = (.quoted s s :: (begin α c).1, (begin α c).2) :=
        if_neg (hrest c rfl)
      rw [run_cons_of_step hstep]
      rfl

/-- A text that stands for itself between single quotes. -/
def Unescaped (s : List Char) : Prop := '\'' ∉ s ∧ '\\' ∉ s

theorem run_string {cs : List Char} (h : Unescaped cs) (r s : List Char) :
    run α (.string '\'' r s) cs = ([], .string '\'' (r ++ cs) (s ++ cs)) := by
  induction cs generalizing r s with
  | nil => rw [List.append_nil, List.append_nil, run]
  | cons c cs ih =>
      obtain ⟨hquote, hquotes⟩ := not_or.1 (mt List.mem_cons.2 h.1)
      obtain ⟨hslash, hslashes⟩ := not_or.1 (mt List.mem_cons.2 h.2)
      have hstep : step α (.string '\'' r s) c = ([], .string '\'' (r ++ [c]) (s ++ [c])) := by
        rw [step, if_neg (Ne.symm hslash), if_neg (Ne.symm hquote)]
      rw [run, hstep, ih ⟨hquotes, hslashes⟩]
      simp

theorem run_literal {s : List Char} (h : Unescaped s) :
    run α .neutral ('\'' :: s ++ ['\'']) = ([.literal '\'' s s], .neutral) := by
  have hopen : step α .neutral '\'' = ([], .string '\'' [] []) := by
    have hstart := not_start_of_not_part (α.part_delimiter '\'' (by decide))
    rw [step, begin, hstart]
    rfl
  have hclose : step α (.string '\'' s s) '\'' = ([.literal '\'' s s], .neutral) := rfl
  simp only [List.cons_append, run, hopen, run_append, run_string h, List.nil_append, hclose,
    List.append_nil]

theorem lex_literal_append {s : List Char} (h : Unescaped s) (rest : List Char) :
    lex α ('\'' :: s ++ ['\''] ++ rest) = .literal '\'' s s :: lex α rest := by
  have hclosed : Closed α ('\'' :: s ++ ['\'']) := by
    rw [Closed, run_literal h]
  rw [hclosed.lex_append, lex, run_literal h]
  rfl

end Words

section WellFormed

def Shrinks (special : Char) (raw said : List Char) : Prop :=
  said.length ≤ raw.length ∧ (special ∈ raw → said.length < raw.length)

theorem Shrinks.nil (special : Char) : Shrinks special [] [] := ⟨Nat.le_refl 0, fun h => nomatch h⟩

theorem Shrinks.snoc {special c : Char} {raw said : List Char} (h : Shrinks special raw said)
    (hc : c ≠ special) : Shrinks special (raw ++ [c]) (said ++ [c]) := by
  refine ⟨by simpa using h.1, fun hmem => ?_⟩
  rcases List.mem_append.1 hmem with hmem | hmem
  · simpa using h.2 hmem
  · exact absurd (List.mem_singleton.1 hmem).symm hc

theorem Shrinks.snoc_two {special c d e : Char} {raw said : List Char}
    (h : Shrinks special raw said) : Shrinks special (raw ++ [c, d]) (said ++ [e]) := by
  have hlt : (said ++ [e]).length < (raw ++ [c, d]).length := by
    have hle := h.1
    simp only [List.length_append, List.length_cons, List.length_nil]
    omega
  exact ⟨Nat.le_of_lt hlt, fun _ => hlt⟩

theorem Shrinks.not_mem {special : Char} {s : List Char} (h : Shrinks special s s) :
    special ∉ s := fun hmem => Nat.lt_irrefl _ (h.2 hmem)

def QuotesEscaped (quote : Char) (raw : List Char) : Prop := quote ∈ raw → '\\' ∈ raw

theorem QuotesEscaped.nil (quote : Char) : QuotesEscaped quote [] := fun h => nomatch h

theorem QuotesEscaped.snoc {quote c : Char} {raw : List Char} (h : QuotesEscaped quote raw)
    (hc : c ≠ quote) : QuotesEscaped quote (raw ++ [c]) := fun hmem => by
  rcases List.mem_append.1 hmem with hmem | hmem
  · exact List.mem_append_left _ (h hmem)
  · exact absurd (List.mem_singleton.1 hmem).symm hc

variable (α) in
def Token.Ok : Token → Prop
  | .name s => Identifier α s
  | .quoted raw said => Shrinks '`' raw said
  | .literal quote raw said => Shrinks '\\' raw said ∧ QuotesEscaped quote raw
  | .unfinished _ => False
  | .number _ | .mark _ | .comment _ => True

variable (α) in
def Mode.Ok : Mode → Prop
  | .word s => s ≠ [] ∧ ∀ c ∈ s, α.part c = true ∨ ¬ (s.head?.map α.start).getD false = true
  | .backtick raw said | .tick raw said => Shrinks '`' raw said
  | .string quote raw said | .escape quote raw said =>
      Shrinks '\\' raw said ∧ QuotesEscaped quote raw
  | .neutral | .slash | .line _ | .block _ => True

theorem wordToken_ok {s : List Char} (h : Mode.Ok α (.word s)) : Token.Ok α (wordToken α s) := by
  unfold wordToken
  split
  case isTrue hstart => exact ⟨hstart, fun c hc => (h.2 c hc).resolve_right (not_not_intro hstart)⟩
  case isFalse => trivial

theorem begin_ok (c : Char) :
    (∀ t ∈ (begin α c).1, t.Ok α) ∧ (begin α c).2.Ok α := by
  unfold begin
  split
  case isTrue hword =>
    refine ⟨List.forall_mem_nil _, List.cons_ne_nil c [], fun d hd => ?_⟩
    rw [List.mem_singleton.1 hd]
    by_cases hstart : α.start c = true
    · exact .inl (α.part_of_start c hstart)
    · exact .inr hstart
  case isFalse =>
    split
    · exact ⟨List.forall_mem_nil _, .nil _⟩
    · split
      · exact ⟨List.forall_mem_nil _, .nil _, .nil _⟩
      · split
        · exact ⟨List.forall_mem_nil _, trivial⟩
        · refine ⟨fun t ht => ?_, trivial⟩
          rw [List.mem_singleton.1 ht]
          trivial

theorem begin_after_ok {t : Token} (ht : t.Ok α) (c : Char) :
    (∀ u ∈ t :: (begin α c).1, u.Ok α) ∧ (begin α c).2.Ok α := by
  refine ⟨fun u hu => ?_, (begin_ok c).2⟩
  rcases List.mem_cons.1 hu with rfl | hu
  · exact ht
  · exact (begin_ok c).1 u hu

theorem word_snoc_ok {s : List Char} {c : Char} (h : Mode.Ok α (.word s))
    (hc : α.part c = true) : Mode.Ok α (.word (s ++ [c])) := by
  refine ⟨by simp, fun d hd => ?_⟩
  rw [List.head?_append_of_ne_nil _ h.1]
  rcases List.mem_append.1 hd with hd | hd
  · exact h.2 d hd
  · rw [List.mem_singleton.1 hd]
    exact .inl hc

theorem step_ok {m : Mode} (hm : m.Ok α) (c : Char) :
    (∀ t ∈ (step α m c).1, t.Ok α) ∧ (step α m c).2.Ok α := by
  cases m with
  | neutral => exact begin_ok c
  | word s =>
      rw [step]
      split
      · exact ⟨List.forall_mem_nil _, word_snoc_ok hm ‹_›⟩
      · exact begin_after_ok (wordToken_ok hm) c
  | backtick r n =>
      rw [step]
      split
      · exact ⟨List.forall_mem_nil _, hm⟩
      · exact ⟨List.forall_mem_nil _, Shrinks.snoc hm ‹_›⟩
  | tick r n =>
      rw [step]
      split
      · exact ⟨List.forall_mem_nil _, Shrinks.snoc_two hm⟩
      · exact begin_after_ok (t := .quoted r n) hm c
  | string q r s =>
      rw [step]
      split
      · exact ⟨List.forall_mem_nil _, hm⟩
      · split
        · refine ⟨fun t ht => ?_, trivial⟩
          rw [List.mem_singleton.1 ht]
          exact hm
        · exact ⟨List.forall_mem_nil _, hm.1.snoc ‹_›, hm.2.snoc ‹_›⟩
  | escape q r s =>
      refine ⟨List.forall_mem_nil _, hm.1.snoc_two, fun _ => ?_⟩
      exact List.mem_append_right _ List.mem_cons_self
  | slash =>
      rw [step]
      split
      · exact ⟨List.forall_mem_nil _, trivial⟩
      · split
        · exact ⟨List.forall_mem_nil _, trivial⟩
        · exact begin_after_ok (t := .mark '/') trivial c
  | line r =>
      rw [step]
      split
      · refine ⟨fun t ht => ?_, trivial⟩
        rw [List.mem_singleton.1 ht]
        trivial
      · exact ⟨List.forall_mem_nil _, trivial⟩
  | block r =>
      rw [step]
      split
      · refine ⟨fun t ht => ?_, trivial⟩
        rw [List.mem_singleton.1 ht]
        trivial
      · exact ⟨List.forall_mem_nil _, trivial⟩

theorem run_ok {m : Mode} (hm : m.Ok α) (cs : List Char) :
    (∀ t ∈ (run α m cs).1, t.Ok α) ∧ (run α m cs).2.Ok α := by
  induction cs generalizing m with
  | nil => exact ⟨List.forall_mem_nil _, hm⟩
  | cons c cs ih =>
      obtain ⟨hstep, hnext⟩ := step_ok hm c
      obtain ⟨hrun, hend⟩ := ih hnext
      refine ⟨fun t ht => ?_, hend⟩
      rcases List.mem_append.1 ht with ht | ht
      · exact hstep t ht
      · exact hrun t ht

theorem ok_of_mem_lex {cs : List Char} {t : Token} (ht : t ∈ lex α cs) :
    t.Ok α ∨ ∃ raw, t = .unfinished raw := by
  obtain ⟨hrun, hend⟩ := run_ok (α := α) (m := .neutral) trivial cs
  rcases List.mem_append.1 ht with ht | ht
  · exact .inl (hrun t ht)
  · generalize (run α .neutral cs).2 = m at hend ht
    cases m with
    | neutral => cases ht
    | word s =>
        rw [List.mem_singleton.1 ht]
        exact .inl (wordToken_ok hend)
    | tick r n =>
        rw [List.mem_singleton.1 ht]
        exact .inl hend
    | slash =>
        rw [List.mem_singleton.1 ht]
        exact .inl trivial
    | backtick r n => exact .inr ⟨r, List.mem_singleton.1 ht⟩
    | string q r s | escape q r s => exact .inr ⟨r, List.mem_singleton.1 ht⟩
    | line r | block r => exact .inr ⟨r, List.mem_singleton.1 ht⟩

theorem ok_of_lex_append {cs : List Char} {ts us : List Token} (h : lex α cs = ts ++ us)
    (hus : us ≠ []) {t : Token} (ht : t ∈ ts) : t.Ok α := by
  obtain ⟨hrun, -⟩ := run_ok (α := α) (m := .neutral) trivial cs
  have hflush : (flush α (run α .neutral cs).2).length ≤ 1 := by
    generalize (run α .neutral cs).2 = m
    cases m <;> simp [flush]
  have hlength := congrArg List.length h
  have hpos := List.length_pos_of_ne_nil hus
  rw [lex, List.length_append, List.length_append] at hlength
  have hinit : ts <+: (run α .neutral cs).1 := by
    refine List.prefix_of_prefix_length_le ⟨us, h.symm⟩ (List.prefix_append _ _) ?_
    omega
  exact hrun t (hinit.subset ht)

end WellFormed

section Templates

/-- A part of a statement template: text, or a name or value put into it. -/
inductive Piece
  | text (s : List Char)
  | bare (s : List Char)
  | ticked (s : List Char)
  | value (s : List Char)

def Stops (α : Alphabet) (rest : List Char) : Prop :=
  ∀ c, rest.head? = some c → α.part c = false

namespace Piece

def render : Piece → List Char
  | .text s | .bare s => s
  | .ticked s => '`' :: s ++ ['`']
  | .value s => '\'' :: s ++ ['\'']

def tokens (α : Alphabet) : Piece → List Token
  | .text s => lex α s
  | .bare s => [.name s]
  | .ticked s => [.quoted s s]
  | .value s => [.literal '\'' s s]

def Legal (α : Alphabet) : Piece → Prop
  | .text _ => True
  | .bare s => Identifier α s
  | .ticked s => '`' ∉ s
  | .value s => Unescaped s

def Before (α : Alphabet) (rest : List Char) : Piece → Prop
  | .text s => Closed α s ∨ rest = []
  | .bare _ => Stops α rest
  | .ticked _ => ∀ c, rest.head? = some c → c ≠ '`'
  | .value _ => True

end Piece

def render (ps : List Piece) : List Char := ps.flatMap Piece.render

def expected (α : Alphabet) (ps : List Piece) : List Token := ps.flatMap (Piece.tokens α)

/-- No piece runs into the next one, or the last one into `rest`. -/
def Separated (α : Alphabet) (rest : List Char) : List Piece → Prop
  | [] => True
  | p :: ps => p.Before α (render ps ++ rest) ∧ Separated α rest ps

@[simp] theorem render_nil : render [] = [] := rfl

@[simp] theorem render_cons (p : Piece) (ps : List Piece) :
    render (p :: ps) = p.render ++ render ps := List.flatMap_cons

@[simp] theorem render_append (ps qs : List Piece) : render (ps ++ qs) = render ps ++ render qs :=
  List.flatMap_append

theorem Separated.append {ps qs : List Piece} {rest : List Char}
    (hps : Separated α (render qs ++ rest) ps) (hqs : Separated α rest qs) :
    Separated α rest (ps ++ qs) := by
  induction ps with
  | nil => exact hqs
  | cons p ps ih =>
      refine ⟨?_, ih hps.2⟩
      change p.Before α (render (ps ++ qs) ++ rest)
      rw [render_append, List.append_assoc]
      exact hps.1

theorem Separated.text_cons {s rest : List Char} {ps : List Piece} (h : Closed α s)
    (hps : Separated α rest ps) : Separated α rest (.text s :: ps) := ⟨.inl h, hps⟩

theorem separated_closed {s : List Char} (h : Closed α s) (rest : List Char) :
    Separated α rest [.text s] := ⟨.inl h, trivial⟩

theorem separated_text (s : List Char) : Separated α [] [.text s] := ⟨.inr rfl, trivial⟩

/-- A template filled with legal names and values has the tokens it is meant to have. -/
theorem lex_render {ps : List Piece} (hsep : Separated α [] ps) (hlegal : ∀ p ∈ ps, p.Legal α) :
    lex α (render ps) = expected α ps := by
  induction ps with
  | nil => rfl
  | cons p ps ih =>
      obtain ⟨hbefore, hsep⟩ := hsep
      have ih := ih hsep fun q hq => hlegal q (List.mem_cons_of_mem p hq)
      have hp := hlegal p List.mem_cons_self
      rw [List.append_nil] at hbefore
      rw [render, List.flatMap_cons, expected, List.flatMap_cons]
      change lex α (p.render ++ render ps) = p.tokens α ++ expected α ps
      rw [← ih]
      cases p with
      | text s =>
          rcases hbefore with hclosed | hend
          · exact hclosed.lex_append _
          · rw [hend, List.append_nil]
            exact (List.append_nil _).symm
      | bare s => exact lex_identifier_append hp hbefore
      | ticked s => exact lex_ticked_append hp hbefore
      | value s => exact lex_literal_append hp _

theorem legal_of_token {p : Piece} (h : ∀ t ∈ p.tokens α, (∃ s, p = .text s) ∨ t.Ok α) :
    p.Legal α := by
  cases p with
  | text s => trivial
  | bare s =>
      rcases h _ (List.mem_singleton_self _) with ⟨_, hp⟩ | hok
      · cases hp
      · exact hok
  | ticked s =>
      rcases h _ (List.mem_singleton_self _) with ⟨_, hp⟩ | hok
      · cases hp
      · exact hok.not_mem
  | value s =>
      rcases h _ (List.mem_singleton_self _) with ⟨_, hp⟩ | hok
      · cases hp
      · exact ⟨fun hquote => hok.1.not_mem (hok.2 hquote), hok.1.not_mem⟩

/-- Where a text has the tokens of a filled template, the names and values in it were legal. -/
theorem legal_of_lex_eq {cs : List Char} {ps : List Piece} (h : lex α cs = expected α ps)
    {p : Piece} (hp : p ∈ ps) : p.Legal α := by
  refine legal_of_token fun t ht => ?_
  have hmem : t ∈ lex α cs := h ▸ List.mem_flatMap.2 ⟨p, hp, ht⟩
  rcases ok_of_mem_lex hmem with hok | ⟨raw, rfl⟩
  · exact .inr hok
  · cases p with
    | text s => exact .inl ⟨s, rfl⟩
    | bare s | ticked s | value s => cases List.mem_singleton.1 ht

def plain (cs : List Char) : Bool := cs.all (fun c => c ≠ '`' && c ≠ '\'' && c ≠ '"' && c ≠ '/')

theorem run_plain {cs : List Char} (h : plain cs = true) {m : Mode}
    (hm : m = .neutral ∨ ∃ s, m = .word s) :
    (run α m cs).2 = .neutral ∨ ∃ s, (run α m cs).2 = .word s := by
  induction cs generalizing m with
  | nil => exact hm
  | cons c cs ih =>
      rw [plain, List.all_cons, Bool.and_eq_true] at h
      obtain ⟨hc, hcs⟩ := h
      have hbegin : (begin α c).2 = .neutral ∨ ∃ s, (begin α c).2 = .word s := by
        simp only [Bool.and_eq_true, decide_eq_true_eq] at hc
        obtain ⟨⟨⟨htick, hsingle⟩, hdouble⟩, hslash⟩ := hc
        by_cases hword : (α.start c || c.isDigit) = true
        · rw [begin, if_pos hword]
          exact .inr ⟨[c], rfl⟩
        · rw [begin, if_neg hword, if_neg htick, if_neg (not_or.2 ⟨hsingle, hdouble⟩),
            if_neg hslash]
          exact .inl rfl
      refine ih hcs ?_
      rcases hm with rfl | ⟨s, rfl⟩
      · exact hbegin
      · rw [step]
        split
        · exact .inr ⟨s ++ [c], rfl⟩
        · exact hbegin

theorem closed_of_plain {cs : List Char} {d : Char} (h : plain cs = true)
    (hd : d ∈ [' ', '\n', ',', '.', ':', ')', ']']) : Closed α (cs ++ [d]) := by
  have hpart : α.part d = false := α.part_delimiter d (by
    simp only [List.mem_cons, List.not_mem_nil, or_false] at hd ⊢
    tauto)
  have hdigit : d.isDigit = false ∧ d ≠ '`' ∧ d ≠ '\'' ∧ d ≠ '"' ∧ d ≠ '/' := by
    simp only [List.mem_cons, List.not_mem_nil, or_false] at hd
    rcases hd with rfl | rfl | rfl | rfl | rfl | rfl | rfl <;> decide
  obtain ⟨hdigit, htick, hsingle, hdouble, hslash⟩ := hdigit
  have hbegin : begin α d = ([.mark d], .neutral) := by
    rw [begin, not_start_of_not_part hpart, hdigit]
    simp [htick, hsingle, hdouble, hslash]
  rw [Closed, run_append]
  rcases run_plain (α := α) h (.inl rfl) with hm | ⟨s, hm⟩
  · rw [hm, run, step, hbegin]
    rfl
  · rw [hm, run, step, hpart, hbegin]
    rfl

def closes (cs : List Char) : Bool :=
  plain cs && (cs.getLast?.map [' ', '\n', ',', '.', ':', ')', ']'].contains).getD false

theorem closed_of_closes {cs : List Char} (h : closes cs = true) : Closed α cs := by
  rw [closes, Bool.and_eq_true] at h
  obtain ⟨hplain, hlast⟩ := h
  rcases List.eq_nil_or_concat cs with rfl | ⟨cs, d, rfl⟩
  · cases hlast
  · rw [List.concat_eq_append] at hplain hlast ⊢
    rw [List.getLast?_concat] at hlast
    rw [plain, List.all_append, Bool.and_eq_true] at hplain
    exact closed_of_plain hplain.1 (List.contains_iff_mem.1 hlast)

theorem closes_append {a b : List Char} (ha : plain a = true) (hb : closes b = true) :
    closes (a ++ b) = true := by
  rw [closes, Bool.and_eq_true] at hb ⊢
  refine ⟨?_, ?_⟩
  · rw [plain, List.all_append, Bool.and_eq_true]
    exact ⟨ha, hb.1⟩
  · cases b with
    | nil => cases hb.2
    | cons c b =>
        rw [List.getLast?_append_of_ne_nil _ (List.cons_ne_nil c b)]
        exact hb.2

theorem closed_dollar {cs : List Char} (h : Closed α cs) : Closed α (cs ++ ['$']) := by
  rw [Closed] at h
  have hbegin : begin α '$' = ([.mark '$'], .neutral) := by
    rw [begin, α.start_dollar]
    rfl
  rw [Closed, run_append, h, run, step, hbegin]
  rfl

def joined (sep : List Char) : List (List Piece) → List Piece
  | [] => []
  | [ps] => ps
  | ps :: qs :: pss => ps ++ .text sep :: joined sep (qs :: pss)

theorem stops_cons {c : Char} (h : α.part c = false) (cs : List Char) : Stops α (c :: cs) := by
  intro d hd
  rw [← Option.some.inj hd]
  exact h

theorem separated_joined {sep rest : List Char} {pss : List (List Piece)} (hclosed : Closed α sep)
    (h : ∀ ps ∈ pss, ∀ r, Stops α r → Separated α r ps) (hsep : ∀ r, Stops α (sep ++ r))
    (hrest : Stops α rest) : Separated α rest (joined sep pss) := by
  induction pss with
  | nil => trivial
  | cons ps pss ih =>
      cases pss with
      | nil => exact h ps List.mem_cons_self rest hrest
      | cons qs pss =>
          have ih := ih fun p hp => h p (List.mem_cons_of_mem ps hp)
          refine Separated.append ?_ ⟨.inl hclosed, ih⟩
          rw [render, List.flatMap_cons, List.append_assoc]
          exact h ps List.mem_cons_self _ (hsep _)

theorem mem_joined {sep : List Char} {pss : List (List Piece)} {p : Piece} :
    p ∈ joined sep pss → p = .text sep ∨ ∃ ps ∈ pss, p ∈ ps := by
  induction pss with
  | nil => exact fun h => nomatch h
  | cons ps pss ih =>
      cases pss with
      | nil => exact fun h => .inr ⟨ps, List.mem_cons_self, h⟩
      | cons qs pss =>
          intro h
          rcases List.mem_append.1 h with h | h
          · exact .inr ⟨ps, List.mem_cons_self, h⟩
          · rcases List.mem_cons.1 h with rfl | h
            · exact .inl rfl
            · rcases ih h with rfl | ⟨rs, hrs, hp⟩
              · exact .inl rfl
              · exact .inr ⟨rs, List.mem_cons_of_mem ps hrs, hp⟩

theorem mem_joined_of_mem {sep : List Char} {pss : List (List Piece)} {ps : List Piece} {p : Piece}
    (hps : ps ∈ pss) (hp : p ∈ ps) : p ∈ joined sep pss := by
  induction pss with
  | nil => cases hps
  | cons qs pss ih =>
      cases pss with
      | nil => exact List.mem_singleton.1 hps ▸ hp
      | cons rs pss =>
          rcases List.mem_cons.1 hps with rfl | hps
          · exact List.mem_append_left _ hp
          · exact List.mem_append_right _ (List.mem_cons_of_mem _ (ih hps))

theorem exists_joined_eq (sep : List Char) {pss : List (List Piece)} {ps : List Piece}
    (h : ps ∈ pss) : ∃ before after, joined sep pss = before ++ ps ++ after := by
  induction pss with
  | nil => cases h
  | cons qs pss ih =>
      cases pss with
      | nil => exact ⟨[], [], by simp [joined, List.mem_singleton.1 h]⟩
      | cons rs pss =>
          rcases List.mem_cons.1 h with rfl | h
          · exact ⟨[], _, rfl⟩
          · obtain ⟨before, after, heq⟩ := ih h
            refine ⟨qs ++ .text sep :: before, after, ?_⟩
            rw [joined, heq]
            simp

theorem closed_of_ok {cs : List Char} (h : ∀ t ∈ lex α (cs ++ [' ']), t.Ok α) :
    Closed α (cs ++ [' ']) := by
  have hblank : begin α ' ' = ([.mark ' '], .neutral) := by
    rw [begin, not_start_of_not_part (α.part_delimiter ' ' (by decide))]
    rfl
  have hrun : (run α .neutral (cs ++ [' '])).2 = (step α (run α .neutral cs).2 ' ').2 := by
    rw [run_append, run, run]
  have hlast : ∀ t ∈ flush α (step α (run α .neutral cs).2 ' ').2, t.Ok α := fun t ht =>
    h t (List.mem_append_right _ (hrun ▸ ht))
  rw [Closed, hrun]
  generalize (run α .neutral cs).2 = m at hlast
  cases m with
  | neutral => rw [step, hblank]
  | word s => rw [step, α.part_delimiter ' ' (by decide), hblank]; rfl
  | tick r n =>
      have hstep : (step α (.tick r n) ' ').2 = (begin α ' ').2 := rfl
      rw [hstep, hblank]
  | slash =>
      have hstep : (step α .slash ' ').2 = (begin α ' ').2 := rfl
      rw [hstep, hblank]
  | backtick r n => exact (hlast _ (List.mem_singleton_self _)).elim
  | escape q r s => exact (hlast _ (List.mem_singleton_self _)).elim
  | line r => exact (hlast _ (List.mem_singleton_self _)).elim
  | block r =>
      have hstep : step α (.block r) ' ' = ([], .block (r ++ [' '])) := by
        rw [step, if_neg fun hand => absurd hand.1 (by decide)]
      rw [hstep] at hlast
      exact (hlast _ (List.mem_singleton_self _)).elim
  | string q r s =>
      by_cases hq : ' ' = q
      · have hstep : step α (.string q r s) ' ' = ([.literal q r s], .neutral) := by
          rw [step, if_neg (by decide), if_pos hq]
        rw [hstep]
      · have hstep : step α (.string q r s) ' ' = ([], .string q (r ++ [' ']) (s ++ [' '])) := by
          rw [step, if_neg (by decide), if_neg hq]
        rw [hstep] at hlast
        exact (hlast _ (List.mem_singleton_self _)).elim

theorem expected_append (ps qs : List Piece) :
    expected α (ps ++ qs) = expected α ps ++ expected α qs := List.flatMap_append

/-- Where a text in front of a value has the tokens it has on its own, it is closed. -/
theorem closed_of_lex_eq {cs s v : List Char} {ps before after : List Piece}
    (h : lex α cs = expected α ps)
    (hps : ps = before ++ [.text (s ++ [' ']), .value v] ++ after) : Closed α (s ++ [' ']) := by
  refine closed_of_ok fun t ht => ?_
  have hsplit : lex α cs = (expected α before ++ lex α (s ++ [' '])) ++
      (.literal '\'' v v :: expected α after) := by
    rw [h, hps, expected_append, expected_append]
    simp [expected, Piece.tokens]
  exact ok_of_lex_append hsplit (List.cons_ne_nil _ _) (List.mem_append_right _ ht)

def AllLegal (α : Alphabet) (ps : List Piece) : Prop := ∀ p ∈ ps, p.Legal α

@[simp] theorem allLegal_nil : AllLegal α [] := List.forall_mem_nil _

@[simp] theorem allLegal_cons {p : Piece} {ps : List Piece} :
    AllLegal α (p :: ps) ↔ p.Legal α ∧ AllLegal α ps := List.forall_mem_cons

@[simp] theorem allLegal_append {ps qs : List Piece} :
    AllLegal α (ps ++ qs) ↔ AllLegal α ps ∧ AllLegal α qs := List.forall_mem_append

theorem forall_mem_joined {P : Piece → Prop} {sep : List Char} (hsep : P (.text sep))
    {pss : List (List Piece)} :
    (∀ p ∈ joined sep pss, P p) ↔ ∀ ps ∈ pss, ∀ p ∈ ps, P p := by
  constructor
  · intro h ps hps p hp
    exact h p (mem_joined_of_mem hps hp)
  · intro h p hp
    rcases mem_joined hp with rfl | ⟨ps, hps, hp⟩
    · exact hsep
    · exact h ps hps p hp

@[simp] theorem allLegal_joined {sep : List Char} {pss : List (List Piece)} :
    AllLegal α (joined sep pss) ↔ ∀ ps ∈ pss, AllLegal α ps := forall_mem_joined trivial

@[simp] theorem allLegal_flatMap {γ : Type} {f : γ → List Piece} {xs : List γ} :
    AllLegal α (xs.flatMap f) ↔ ∀ x ∈ xs, AllLegal α (f x) := List.forall_mem_flatMap

def ascii : Alphabet where
  start := fun c => c.isAlpha || c = '_'
  part := fun c => c.isAlphanum || c = '_'
  start_letter := fun c hc => by rw [hc]; rfl
  start_dollar := rfl
  part_of_start := fun c hc => by
    rw [Bool.or_eq_true] at hc ⊢
    exact hc.imp_left fun halpha => by rw [Char.isAlphanum, halpha]; rfl
  part_delimiter := fun c hc => by
    have hall : [' ', '\n', ',', '.', ':', ')', ']', '`', '\'', '"', '/'].all
        (fun c => !(c.isAlphanum || c = '_')) = true := by decide
    simpa using List.all_eq_true.1 hall c hc

end Templates

end AtlasOfUs.Library.Cypher
