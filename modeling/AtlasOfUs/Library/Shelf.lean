import Mathlib.Order.WithBot
import Mathlib.Data.List.Basic

namespace AtlasOfUs.Library

variable {κ β : Type} [LinearOrder κ]

structure Shelf (κ β : Type) [LinearOrder κ] where
  entries : List (κ × β)
  sorted : entries.Pairwise fun e e' => e.1 < e'.1

def Past (cursor : Option κ) (key : κ) : Prop := ∀ c, cursor = some c → c < key

instance (cursor : Option κ) (key : κ) : Decidable (Past cursor key) :=
  match cursor with
  | none => .isTrue fun c hc => by cases hc
  | some c => decidable_of_iff (c < key)
      ⟨fun h c' hc' => Option.some.inj hc' ▸ h, fun h => h c rfl⟩

theorem past_some {c key : κ} : Past (some c) key ↔ c < key :=
  ⟨fun h => h c rfl, fun h _ hc => Option.some.inj hc ▸ h⟩

namespace Shelf

variable (s : Shelf κ β)

def remove (key : κ) : Shelf κ β :=
  ⟨s.entries.filter fun e => e.1 ≠ key, s.sorted.filter _⟩

def put (key : κ) (value : β) : Shelf κ β where
  entries := (s.entries.filter fun e => e.1 < key) ++ (key, value) :: s.entries.filter fun e => key < e.1
  sorted := by
    refine List.pairwise_append.2 ⟨s.sorted.filter _,
      List.pairwise_cons.2 ⟨fun e he => ?_, s.sorted.filter _⟩, fun e he e' he' => ?_⟩
    · exact of_decide_eq_true (List.mem_filter.1 he).2
    · have hlt : e.1 < key := of_decide_eq_true (List.mem_filter.1 he).2
      rcases List.mem_cons.1 he' with rfl | he'
      · exact hlt
      · exact hlt.trans (of_decide_eq_true (List.mem_filter.1 he').2)

def beyond (cursor : Option κ) : List (κ × β) := s.entries.filter fun e => Past cursor e.1

variable {s} {cursor : Option κ} {key : κ} {value : β}

theorem sorted_beyond : (s.beyond cursor).Pairwise fun e e' => e.1 < e'.1 := s.sorted.filter _

theorem beyond_remove (h : ¬ Past cursor key) : (s.remove key).beyond cursor = s.beyond cursor := by
  rw [beyond, remove, List.filter_filter, beyond]
  apply List.filter_congr
  intro e _
  by_cases hpast : Past cursor e.1
  · have hne : e.1 ≠ key := fun heq => h (heq ▸ hpast)
    simp [hpast, hne]
  · simp [hpast]

theorem beyond_put (hpast : Past cursor key) (h : ∀ e ∈ s.beyond cursor, e.1 < key) :
    (s.put key value).beyond cursor = s.beyond cursor ++ [(key, value)] := by
  have hbelow : (s.entries.filter fun e => e.1 < key).filter (fun e => Past cursor e.1) =
      s.beyond cursor := by
    rw [List.filter_filter, beyond]
    apply List.filter_congr
    intro e he
    by_cases hpast : Past cursor e.1
    · have hlt := h e (List.mem_filter.2 ⟨he, decide_eq_true hpast⟩)
      simp [hpast, hlt]
    · simp [hpast]
  have habove : (s.entries.filter fun e => key < e.1) = [] := by
    rw [List.filter_eq_nil_iff]
    intro e he hlt
    have hlt : key < e.1 := of_decide_eq_true hlt
    have hpast' : Past cursor e.1 := fun c hc => (hpast c hc).trans hlt
    exact lt_asymm hlt (h e (List.mem_filter.2 ⟨he, decide_eq_true hpast'⟩))
  change ((s.entries.filter fun e => e.1 < key) ++ (key, value) ::
    s.entries.filter fun e => key < e.1).filter _ = _
  have hkey : [(key, value)].filter (fun e => Past cursor e.1) = [(key, value)] :=
    List.filter_eq_self.2 fun e he => decide_eq_true (List.mem_singleton.1 he ▸ hpast)
  rw [habove, List.filter_append, hbelow, hkey]

theorem beyond_next {e : κ × β} {rest : List (κ × β)} (h : s.beyond cursor = e :: rest) :
    s.beyond (some e.1) = rest := by
  have hsorted : (e :: rest).Pairwise fun e e' => e.1 < e'.1 := h ▸ sorted_beyond
  have he : Past cursor e.1 := by
    have hmem : e ∈ s.beyond cursor := h ▸ List.mem_cons_self
    exact of_decide_eq_true (List.mem_filter.1 hmem).2
  have hfilter : s.beyond (some e.1) = (s.beyond cursor).filter fun e' => e.1 < e'.1 := by
    rw [beyond, beyond, List.filter_filter]
    apply List.filter_congr
    intro e' _
    rw [Bool.eq_iff_iff, Bool.and_eq_true, decide_eq_true_eq, decide_eq_true_eq, decide_eq_true_eq,
      past_some]
    refine ⟨fun hlt => ⟨hlt, fun c hc => (he c hc).trans hlt⟩, And.left⟩
  rw [hfilter, h, List.filter_cons_of_neg (by simp), List.filter_eq_self]
  exact fun e' he' => decide_eq_true ((List.pairwise_cons.1 hsorted).1 e' he')

end Shelf

/-- What becomes of an entry that is visited: it goes to its new key, it is there under both, or
it stays. -/
inductive Visit
  | moved
  | copied
  | kept
  deriving DecidableEq

structure Sweep (κ β : Type) [LinearOrder κ] where
  shelf : Shelf κ β
  cursor : Option κ
  seen : List (κ × β)
  finished : Bool

namespace Sweep

variable (width : Nat) (move : κ → κ) (visits : Nat → κ × β → Visit)

def start (shelf : Shelf κ β) : Sweep κ β := ⟨shelf, none, [], false⟩

def visit (st : Sweep κ β) (e : κ × β) : Sweep κ β :=
  { st with
    seen := st.seen ++ [e]
    shelf := match visits st.seen.length e with
      | .moved => (st.shelf.put (move e.1) e.2).remove e.1
      | .copied => st.shelf.put (move e.1) e.2
      | .kept => st.shelf }

/-- The next page is listed and its entries are visited; the page tells if it is the last. -/
def turn (st : Sweep κ β) : Sweep κ β :=
  if st.finished then st
  else
    let listed := st.shelf.beyond st.cursor
    let page := listed.take width
    { page.foldl (visit move visits) st with
      cursor := (page.getLast?.map Prod.fst).or st.cursor
      finished := listed.length ≤ width }

def turns (shelf : Shelf κ β) (m : Nat) : Sweep κ β :=
  (turn width move visits)^[m] (start shelf)

/-- The entries that are put under new keys, of those that are visited from the `n`-th visit on. -/
def relocated : Nat → List (κ × β) → List (κ × β)
  | _, [] => []
  | n, e :: es => (if visits n e = .kept then [] else [(move e.1, e.2)]) ++ relocated (n + 1) es

def Close (es : List (κ × β)) : Prop := ∀ e ∈ es, ∀ e' ∈ es, e.1 < move e'.1

/-- What has been seen and what is ahead are the entries of the start, and then those that were put
under new keys, in the order in which they were met. -/
structure Rotates (shelf : Shelf κ β) (st : Sweep κ β) : Prop where
  close : Close move (st.shelf.beyond st.cursor)
  history : st.seen ++ st.shelf.beyond st.cursor = shelf.entries ++ relocated move visits 0 st.seen

variable {width move visits}

omit [LinearOrder κ] in
theorem relocated_append (n : Nat) (es es' : List (κ × β)) :
    relocated move visits n (es ++ es') =
      relocated move visits n es ++ relocated move visits (n + es.length) es' := by
  induction es generalizing n with
  | nil => rfl
  | cons e es ih =>
      rw [List.cons_append, relocated, relocated, ih, List.length_cons, List.append_assoc]
      congr 3
      omega

variable {st : Sweep κ β} {cursor : Option κ} {e : κ × β} {page rest : List (κ × β)}

theorem Close.next (hmono : StrictMono move) (h : Close move (e :: rest))
    (hsorted : (e :: rest).Pairwise fun e e' => e.1 < e'.1) (n : Nat) :
    Close move (rest ++ relocated move visits n [e]) := by
  have hself : e.1 < move e.1 := h e List.mem_cons_self e List.mem_cons_self
  intro a ha b hb
  have hnew : ∀ a ∈ relocated move visits n [e], a.1 = move e.1 := by
    intro a ha
    rw [relocated, relocated, List.append_nil] at ha
    split at ha
    · cases ha
    · rw [List.mem_singleton.1 ha]
  rcases List.mem_append.1 ha with ha | ha <;> rcases List.mem_append.1 hb with hb | hb
  · exact h a (List.mem_cons_of_mem _ ha) b (List.mem_cons_of_mem _ hb)
  · rw [hnew b hb]
    exact (h a (List.mem_cons_of_mem _ ha) e List.mem_cons_self).trans (hmono hself)
  · rw [hnew a ha]
    exact hmono ((List.pairwise_cons.1 hsorted).1 b hb)
  · rw [hnew a ha, hnew b hb]
    exact hmono hself

theorem beyond_visit (h : st.shelf.beyond cursor = e :: rest) (hclose : Close move (e :: rest)) :
    (visit move visits st e).shelf.beyond (some e.1) =
      rest ++ relocated move visits st.seen.length [e] := by
  have hrest := Shelf.beyond_next h
  have hput : (st.shelf.put (move e.1) e.2).beyond (some e.1) = rest ++ [(move e.1, e.2)] := by
    rw [Shelf.beyond_put (past_some.2 (hclose e List.mem_cons_self e List.mem_cons_self)), hrest]
    rw [hrest]
    exact fun e' he' => hclose e' (List.mem_cons_of_mem _ he') e List.mem_cons_self
  rw [relocated, relocated, List.append_nil]
  unfold visit
  cases visits st.seen.length e with
  | kept => exact hrest.trans (List.append_nil _).symm
  | copied => exact hput
  | moved => exact (Shelf.beyond_remove fun hpast => lt_irrefl _ (past_some.1 hpast)).trans hput

theorem foldl_visit (hmono : StrictMono move) (h : st.shelf.beyond cursor = page ++ rest) (hclose : Close move (page ++ rest)) :
    let st' := page.foldl (visit move visits) st
    st'.seen = st.seen ++ page ∧
      st'.shelf.beyond ((page.getLast?.map Prod.fst).or cursor) =
        rest ++ relocated move visits st.seen.length page ∧
      Close move (rest ++ relocated move visits st.seen.length page) := by
  induction page generalizing st cursor rest with
  | nil =>
      refine ⟨(List.append_nil _).symm, ?_, ?_⟩
      · exact h.trans (List.append_nil _).symm
      · simpa [relocated] using hclose
  | cons e page ih =>
      rw [List.cons_append] at h hclose
      have hsorted : (e :: (page ++ rest)).Pairwise fun e e' => e.1 < e'.1 := by
        rw [← h]
        exact Shelf.sorted_beyond
      have hvisit : (visit move visits st e).shelf.beyond (some e.1) = _ := beyond_visit h hclose
      have hnext : Close move (page ++ rest ++ relocated move visits st.seen.length [e]) :=
        hclose.next hmono hsorted st.seen.length
      rw [List.append_assoc] at hvisit hnext
      obtain ⟨hseen, hbeyond, hclose'⟩ := ih hvisit hnext
      have hlength : (visit move visits st e).seen.length = st.seen.length + 1 := by
        rw [visit, List.length_append, List.length_singleton]
      have hpage : relocated move visits st.seen.length [e] ++
          relocated move visits (visit move visits st e).seen.length page =
            relocated move visits st.seen.length (e :: page) := by
        rw [hlength]
        exact (relocated_append _ [e] page).symm
      have hlast : ((e :: page).getLast?.map Prod.fst).or cursor =
          (page.getLast?.map Prod.fst).or (some e.1) := by
        rw [List.getLast?_cons]
        cases page.getLast? <;> rfl
      rw [List.append_assoc, hpage] at hbeyond hclose'
      refine ⟨?_, hlast ▸ hbeyond, hclose'⟩
      rw [List.foldl_cons, hseen, visit, List.append_assoc, List.singleton_append]

variable {shelf : Shelf κ β}

theorem turn_of_finished (h : st.finished = true) : turn width move visits st = st := if_pos h

variable (width) in
theorem Rotates.turn (hmono : StrictMono move) (h : Rotates move visits shelf st)
    (hopen : st.finished = false) :
    let st' := turn width move visits st
    Rotates move visits shelf st' ∧ st'.seen = st.seen ++ (st.shelf.beyond st.cursor).take width ∧
      st'.finished = decide ((st.shelf.beyond st.cursor).length ≤ width) := by
  intro st'
  have hturn : st' = { ((st.shelf.beyond st.cursor).take width).foldl (visit move visits) st with
      cursor := (((st.shelf.beyond st.cursor).take width).getLast?.map Prod.fst).or st.cursor
      finished := decide ((st.shelf.beyond st.cursor).length ≤ width) } :=
    if_neg (by rw [hopen]; decide)
  have hsplit : st.shelf.beyond st.cursor = (st.shelf.beyond st.cursor).take width ++
      (st.shelf.beyond st.cursor).drop width := (List.take_append_drop _ _).symm
  have hhistory := h.history
  generalize (st.shelf.beyond st.cursor).take width = page at hturn hsplit ⊢
  generalize (st.shelf.beyond st.cursor).drop width = rest at hsplit
  obtain ⟨hseen, hbeyond, hclose⟩ := foldl_visit hmono hsplit (hsplit ▸ h.close)
  rw [hturn]
  refine ⟨⟨hbeyond ▸ hclose, ?_⟩, hseen, rfl⟩
  change (page.foldl (visit move visits) st).seen ++
    (page.foldl (visit move visits) st).shelf.beyond _ = _
  rw [hbeyond, hseen, relocated_append, Nat.zero_add, ← List.append_assoc shelf.entries, ← hhistory,
    hsplit]
  simp only [List.append_assoc]

/-- The visits after which the entry stays where it is. -/
def left (visits : Nat → κ × β → Visit) : Nat → List (κ × β) → Nat
  | _, [] => 0
  | n, e :: es => (if visits n e = .kept then 1 else 0) + left visits (n + 1) es

omit [LinearOrder κ] in
variable (move visits) in
theorem length_relocated (n : Nat) (es : List (κ × β)) :
    (relocated move visits n es).length + left visits n es = es.length := by
  induction es generalizing n with
  | nil => rfl
  | cons e es ih =>
      have hih := ih (n + 1)
      rw [relocated, left, List.length_append, List.length_cons]
      split
      · rw [List.length_nil]
        omega
      · rw [List.length_singleton]
        omega

omit [LinearOrder κ] in
theorem left_le_append (n : Nat) (es es' : List (κ × β)) :
    left visits n es ≤ left visits n (es ++ es') := by
  induction es generalizing n with
  | nil => exact Nat.zero_le _
  | cons e es ih => exact Nat.add_le_add_left (ih (n + 1)) _

theorem Rotates.length_beyond (h : Rotates move visits shelf st) :
    (st.shelf.beyond st.cursor).length + left visits 0 st.seen = shelf.entries.length := by
  have hlength := congrArg List.length h.history
  have hrelocated := length_relocated move visits 0 st.seen
  rw [List.length_append, List.length_append] at hlength
  omega

theorem rotates_start (hclose : Close move shelf.entries) :
    Rotates move visits shelf (start shelf) := by
  have hall : shelf.beyond none = shelf.entries :=
    List.filter_eq_self.2 fun e _ => decide_eq_true fun c hc => by cases hc
  refine ⟨?_, ?_⟩
  · change Close move (shelf.beyond none)
    rwa [hall]
  · exact hall.trans (List.append_nil _).symm

theorem turns_succ (m : Nat) : turns width move visits shelf (m + 1) =
    turn width move visits (turns width move visits shelf m) :=
  Function.iterate_succ_apply' _ _ _

theorem rotates_turns (hmono : StrictMono move) (hclose : Close move shelf.entries) (m : Nat) :
    Rotates move visits shelf (turns width move visits shelf m) := by
  induction m with
  | zero => exact rotates_start hclose
  | succ m ih =>
      rw [turns_succ]
      cases hopen : (turns width move visits shelf m).finished with
      | true => rwa [turn_of_finished hopen]
      | false => exact (ih.turn width hmono hopen).1

/-- The sweep is over after a page exactly if the entries that were left before it make up for what
a page does not hold. -/
theorem finished_iff (hmono : StrictMono move) (hclose : Close move shelf.entries) (m : Nat) :
    (turns width move visits shelf (m + 1)).finished = true ↔
      shelf.entries.length ≤ width + left visits 0 (turns width move visits shelf m).seen := by
  induction m with
  | zero =>
      have hstart : Rotates move visits shelf (start shelf) := rotates_start hclose
      have hturn := hstart.turn width hmono rfl
      have hlength := hstart.length_beyond
      rw [turns_succ]
      refine (Bool.eq_iff_iff.1 hturn.2.2).trans ?_
      rw [decide_eq_true_eq]
      change _ ↔ shelf.entries.length ≤ width + left visits 0 (start shelf).seen
      omega
  | succ m ih =>
      rw [turns_succ]
      have hrotates : Rotates move visits shelf (turns width move visits shelf (m + 1)) :=
        rotates_turns hmono hclose (m + 1)
      have hlength := hrotates.length_beyond
      cases hopen : (turns width move visits shelf (m + 1)).finished with
      | false =>
          rw [Bool.eq_iff_iff.1 (hrotates.turn width hmono hopen).2.2, decide_eq_true_eq]
          omega
      | true =>
          rw [turn_of_finished hopen, iff_true_left hopen]
          refine (ih.1 hopen).trans (Nat.add_le_add_left ?_ _)
          rw [turns_succ]
          cases hopen' : (turns width move visits shelf m).finished with
          | true => rw [turn_of_finished hopen']
          | false =>
              rw [((rotates_turns hmono hclose m).turn width hmono hopen').2.1]
              exact left_le_append _ _ _

theorem seen_foldl (st : Sweep κ β) (page : List (κ × β)) :
    (page.foldl (visit move visits) st).seen = st.seen ++ page := by
  induction page generalizing st with
  | nil => exact (List.append_nil _).symm
  | cons e page ih => rw [List.foldl_cons, ih, visit, List.append_assoc, List.singleton_append]

theorem seen_of_le (h : shelf.entries.length ≤ width) (m : Nat) :
    (turns width move visits shelf (m + 1)).finished = true ∧
      (turns width move visits shelf (m + 1)).seen = shelf.entries := by
  have hall : shelf.beyond none = shelf.entries :=
    List.filter_eq_self.2 fun e _ => decide_eq_true fun c hc => by cases hc
  induction m with
  | zero =>
      refine ⟨decide_eq_true ?_, ?_⟩
      · change (shelf.beyond none).length ≤ width
        rwa [hall]
      · change (((shelf.beyond none).take width).foldl (visit move visits) (start shelf)).seen = _
        rw [seen_foldl, hall, List.take_of_length_le h]
        rfl
  | succ m ih =>
      rw [turns_succ, turn_of_finished ih.1]
      exact ih

def after (move : κ → κ) (n : Nat) (e : κ × β) : κ × β := (move^[n] e.1, e.2)

omit [LinearOrder κ] in
theorem relocated_of_moved {n : Nat} {es : List (κ × β)}
    (h : ∀ r e, es[r]? = some e → visits (n + r) e ≠ .kept) :
    relocated move visits n es = es.map (after move 1) := by
  induction es generalizing n with
  | nil => rfl
  | cons e es ih =>
      have hhead : visits n e ≠ .kept := h 0 e rfl
      rw [relocated, if_neg hhead, List.map_cons, ih]
      · rfl
      · intro r e' he'
        have hr := h (r + 1) e' he'
        rwa [← Nat.add_assoc, Nat.add_right_comm] at hr

/-- While every entry is put under a new key, a sweep of more than one page goes round and round. -/
theorem seen_turns (hmono : StrictMono move) (hclose : Close move shelf.entries)
    (hlong : width < shelf.entries.length) {m : Nat}
    (hmoved : ∀ r < width * m, ∀ e ∈ shelf.entries, ∀ n, visits r (after move n e) ≠ .kept) :
    let st := turns width move visits shelf m
    st.finished = false ∧ st.seen.length = width * m ∧ ∀ r < width * m, st.seen[r]? =
      (shelf.entries[r % shelf.entries.length]?).map (after move (r / shelf.entries.length)) := by
  induction m with
  | zero => exact ⟨rfl, rfl, fun r hr => absurd hr (Nat.not_lt_zero r)⟩
  | succ m ih =>
      obtain ⟨hopen, hlength, hseen⟩ := ih fun r hr => hmoved r (by rw [Nat.mul_succ]; omega)
      have hrotates : Rotates move visits shelf (turns width move visits shelf m) :=
        rotates_turns hmono hclose m
      have hrelocated : relocated move visits 0 (turns width move visits shelf m).seen =
          (turns width move visits shelf m).seen.map (after move 1) := by
        apply relocated_of_moved
        intro r e he
        have hr : r < width * m := hlength ▸ (List.getElem?_eq_some_iff.1 he).1
        rw [hseen r hr] at he
        obtain ⟨e', he', rfl⟩ := Option.map_eq_some_iff.1 he
        rw [Nat.zero_add]
        exact hmoved r (by rw [Nat.mul_succ]; omega) e' (List.mem_of_getElem? he') _
      obtain ⟨-, hnext, hfinished⟩ := hrotates.turn width hmono hopen
      have hhistory := hrotates.history
      have hahead := hrotates.length_beyond
      have hleft : left visits 0 (turns width move visits shelf m).seen = 0 := by
        have hcount := length_relocated move visits 0
          (turns width move visits shelf m).seen
        rw [hrelocated, List.length_map] at hcount
        omega
      rw [hrelocated] at hhistory
      rw [turns_succ]
      generalize turns width move visits shelf m = st at *
      have hbeyond : (st.shelf.beyond st.cursor).length = shelf.entries.length := by omega
      have hlength' : (turn width move visits st).seen.length = width * (m + 1) := by
        rw [hnext, List.length_append, List.length_take, hlength, hbeyond, Nat.mul_succ]
        omega
      refine ⟨hfinished.trans (decide_eq_false (by omega)), hlength', fun r hr => ?_⟩
      have hget : (turn width move visits st).seen[r]? =
          (shelf.entries ++ st.seen.map (after move 1))[r]? := by
        rw [← hhistory, hnext]
        by_cases hold : r < st.seen.length
        · rw [List.getElem?_append_left hold, List.getElem?_append_left hold]
        · rw [List.getElem?_append_right (by omega), List.getElem?_append_right (by omega),
            List.getElem?_take_of_lt]
          rw [Nat.mul_succ] at hr
          omega
      rw [hget]
      by_cases hfirst : r < shelf.entries.length
      · rw [List.getElem?_append_left hfirst, Nat.mod_eq_of_lt hfirst, Nat.div_eq_of_lt hfirst]
        exact Option.map_id'.symm
      · rw [Nat.mul_succ] at hr
        obtain ⟨s, rfl⟩ := Nat.exists_eq_add_of_le (Nat.le_of_not_lt hfirst)
        have hround : after move 1 ∘ after move (s / shelf.entries.length) =
            after (β := β) move (s / shelf.entries.length + 1) := by
          funext e
          exact Prod.ext (Function.iterate_succ_apply' _ _ _).symm rfl
        rw [List.getElem?_append_right (Nat.le_add_right _ _), Nat.add_sub_cancel_left,
          List.getElem?_map, hseen s (by omega), Option.map_map, hround, Nat.add_mod_left,
          Nat.add_div_left s (by omega)]

end Sweep

end AtlasOfUs.Library
