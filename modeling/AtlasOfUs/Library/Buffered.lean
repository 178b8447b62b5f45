import AtlasOfUs.Library.Program
import Mathlib.Logic.Relation
import Mathlib.Data.List.Perm.Basic

namespace AtlasOfUs.Library

variable {I : Signature} {ε δ α β σ : Type}

namespace Proc

/-- The program comes to this point with these calls behind it. -/
inductive Follows (p : Proc I ε β) : List (Call I) → Proc I ε β → Prop
  | begun : Follows p [] p
  | reply {calls : List (Call I)} {o : I.Op} {k : I.Reply o → Proc I ε β}
      (h : Follows p calls (.call o k)) (r : I.Reply o) : Follows p (calls ++ [⟨o, r⟩]) (k r)

variable {calls : List (Call I)}

theorem Follows.of_call {o : I.Op} {k : I.Reply o → Proc I ε β} {q : Proc I ε β}
    (h : Follows (.call o k) calls q) :
    (calls = [] ∧ q = .call o k) ∨ ∃ r rest, calls = ⟨o, r⟩ :: rest ∧ Follows (k r) rest q := by
  induction h with
  | begun => exact .inl ⟨rfl, rfl⟩
  | @reply calls o' k' h r ih =>
      right
      rcases ih with ⟨rfl, hq⟩ | ⟨r', rest, rfl, hrest⟩
      · cases hq
        exact ⟨r, [], rfl, .begun⟩
      · exact ⟨r', rest ++ [⟨o', r⟩], rfl, hrest.reply r⟩

theorem Follows.of_ended {p q : Proc I ε β} (h : Follows p calls q)
    (hp : ∀ o k, p ≠ .call o k) : calls = [] ∧ q = p := by
  induction h with
  | begun => exact ⟨rfl, rfl⟩
  | @reply calls o k h r ih => exact absurd ih.2.symm (hp o k)

theorem Follows.of_ofExit {x : Exit ε β} {b : β} (h : Follows (ofExit x) calls (.done b)) :
    calls = [] ∧ x = .ok b := by
  obtain ⟨hcalls, hq⟩ := h.of_ended fun o k hcall => by cases x <;> cases hcall
  refine ⟨hcalls, ?_⟩
  cases x with
  | ok a =>
      cases hq
      rfl
  | err e | panicked => cases hq

theorem Follows.of_reply {o : I.Op} {k : I.Reply o → Proc I ε β} {r : I.Reply o} {q : Proc I ε β}
    (h : Follows (k r) calls q) : Follows (.call o k) (⟨o, r⟩ :: calls) q := by
  induction h with
  | begun => exact Follows.begun.reply r
  | @reply calls o' k' h r' ih => exact ih.reply r'

theorem Follows.of_bind {p : Proc I ε α} {f : α → Proc I ε β} {b : β}
    (h : Follows (p >>= f) calls (.done b)) :
    ∃ a before after, calls = before ++ after ∧ Follows p before (.done a) ∧
      Follows (f a) after (.done b) := by
  induction p generalizing calls with
  | done a => exact ⟨a, [], calls, rfl, .begun, h⟩
  | fail e =>
      obtain ⟨-, hq⟩ := Follows.of_ofExit (x := .err e) h
      cases hq
  | panic =>
      obtain ⟨-, hq⟩ := Follows.of_ofExit (x := .panicked) h
      cases hq
  | call o k ih =>
      rcases Follows.of_call h with ⟨-, hq⟩ | ⟨r, rest, rfl, hrest⟩
      · cases hq
      · obtain ⟨a, before, after, rfl, hp, hf⟩ := ih r hrest
        exact ⟨a, ⟨o, r⟩ :: before, after, rfl, hp.of_reply, hf⟩

end Proc

structure Flight (I : Signature) (ε α β : Type) where
  item : α
  calls : List (Call I)
  rest : Proc I ε β

structure Delivery (I : Signature) (ε α β : Type) where
  item : α
  calls : List (Call I)
  result : Except ε β

/-- A stream whose items' programs run side by side, and that delivers what they come to. -/
structure Buffer (I : Signature) (ε α β σ : Type) where
  waiting : List α
  flight : List (Flight I ε α β)
  delivered : List (Delivery I ε α β)
  state : σ

namespace Buffer

variable (h : Handler I σ) (f : α → Proc I ε β) (limit : Nat)

def start (xs : List α) (s : σ) : Buffer I ε α β σ := ⟨xs, [], [], s⟩

/-- The items start in their order as long as there is room. Those in flight make their calls, each
of them atomic, and are delivered once they have ended, in any order. -/
inductive Step : Buffer I ε α β σ → Buffer I ε α β σ → Prop
  | start {x : α} {waiting : List α} {flight : List (Flight I ε α β)}
      {delivered : List (Delivery I ε α β)} {s : σ} (room : flight.length < limit) :
      Step ⟨x :: waiting, flight, delivered, s⟩ ⟨waiting, flight ++ [⟨x, [], f x⟩], delivered, s⟩
  | call {waiting : List α} {before after : List (Flight I ε α β)}
      {delivered : List (Delivery I ε α β)} {s : σ} {x : α} {calls : List (Call I)} {o : I.Op}
      {k : I.Reply o → Proc I ε β} :
      Step ⟨waiting, before ++ ⟨x, calls, .call o k⟩ :: after, delivered, s⟩
        ⟨waiting, before ++ ⟨x, calls ++ [⟨o, (h o s).1⟩], k (h o s).1⟩ :: after, delivered,
          (h o s).2⟩
  | deliver {waiting : List α} {before after : List (Flight I ε α β)}
      {delivered : List (Delivery I ε α β)} {s : σ} {x : α} {calls : List (Call I)}
      {result : Except ε β} :
      Step ⟨waiting, before ++ ⟨x, calls, .ofExcept result⟩ :: after, delivered, s⟩
        ⟨waiting, before ++ after, delivered ++ [⟨x, calls, result⟩], s⟩

abbrev Reaches : Buffer I ε α β σ → Buffer I ε α β σ → Prop :=
  Relation.ReflTransGen (Step h f limit)

/-- The stream of these items can come to its end with these deliveries and this state. -/
def Delivers (xs : List α) (s : σ) (deliveries : List (Delivery I ε α β)) (s' : σ) : Prop :=
  Reaches h f limit (start xs s) ⟨[], [], deliveries, s'⟩

variable {h f limit} {b b' : Buffer I ε α β σ} {xs : List α} {s s' : σ}
  {deliveries : List (Delivery I ε α β)}

def items (b : Buffer I ε α β σ) : List α :=
  b.delivered.map (·.item) ++ b.flight.map (·.item) ++ b.waiting

theorem Step.items_perm (hstep : Step h f limit b b') : b'.items.Perm b.items := by
  cases hstep with
  | start room => simp [items]
  | call => simp [items]
  | @deliver waiting before after delivered s x calls result =>
      simp only [items, List.map_append, List.map_cons, List.map_nil, List.append_assoc,
        List.cons_append, List.nil_append]
      exact List.Perm.append_left _ List.perm_middle.symm

theorem Delivers.items_perm (hd : Delivers h f limit xs s deliveries s') :
    (deliveries.map (·.item)).Perm xs := by
  have hperm : ∀ b : Buffer I ε α β σ, Reaches h f limit (start xs s) b → b.items.Perm xs := by
    intro b hb
    induction hb with
    | refl => exact .refl _
    | tail _ hstep ih => exact hstep.items_perm.trans ih
  simpa [items] using hperm _ hd

/-- What is in flight and what is delivered has come from the programs. -/
structure Faithful (f : α → Proc I ε β) (b : Buffer I ε α β σ) : Prop where
  flight : ∀ x ∈ b.flight, (f x.item).Follows x.calls x.rest
  delivered : ∀ d ∈ b.delivered, (f d.item).Follows d.calls (.ofExcept d.result)

theorem Step.faithful (hstep : Step h f limit b b') (hb : b.Faithful f) : b'.Faithful f := by
  cases hstep with
  | start room =>
      refine ⟨?_, hb.delivered⟩
      intro x hx
      rcases List.mem_append.1 hx with hx | hx
      · exact hb.flight x hx
      · obtain rfl := List.mem_singleton.1 hx
        exact .begun
  | call =>
      refine ⟨?_, hb.delivered⟩
      intro x hx
      rcases List.mem_append.1 hx with hx | hx
      · exact hb.flight x (List.mem_append_left _ hx)
      · rcases List.mem_cons.1 hx with rfl | hx
        · exact (hb.flight _ (List.mem_append_right _ List.mem_cons_self)).reply _
        · exact hb.flight x (List.mem_append_right _ (List.mem_cons_of_mem _ hx))
  | deliver =>
      constructor
      · intro x hx
        apply hb.flight x
        rcases List.mem_append.1 hx with hx | hx
        · exact List.mem_append_left _ hx
        · exact List.mem_append_right _ (List.mem_cons_of_mem _ hx)
      · intro d hd
        rcases List.mem_append.1 hd with hd | hd
        · exact hb.delivered d hd
        · obtain rfl := List.mem_singleton.1 hd
          exact hb.flight _ (List.mem_append_right _ List.mem_cons_self)

theorem Delivers.follows (hd : Delivers h f limit xs s deliveries s') :
    ∀ d ∈ deliveries, (f d.item).Follows d.calls (.ofExcept d.result) := by
  have hfaithful : ∀ b : Buffer I ε α β σ, Reaches h f limit (start xs s) b → b.Faithful f := by
    intro b hb
    induction hb with
    | refl =>
        constructor
        · exact fun _ hx => absurd hx List.not_mem_nil
        · exact fun _ hd => absurd hd List.not_mem_nil
    | tail _ hstep ih => exact hstep.faithful ih
  exact (hfaithful _ hd).delivered

section OneAtATime

theorem Step.items_eq (hstep : Step h f 1 b b') (hb : b.flight.length ≤ 1) :
    b'.flight.length ≤ 1 ∧ b'.items = b.items := by
  cases hstep with
  | start room =>
      rw [Nat.lt_one_iff, List.length_eq_zero_iff] at room
      subst room
      exact ⟨Nat.le_refl 1, by simp [items]⟩
  | call => exact ⟨by simpa using hb, by simp [items]⟩
  | @deliver waiting before after delivered s x calls result =>
      simp only [List.length_append, List.length_cons] at hb
      obtain rfl := List.length_eq_zero_iff.1 (show before.length = 0 by omega)
      obtain rfl := List.length_eq_zero_iff.1 (show after.length = 0 by omega)
      exact ⟨Nat.zero_le 1, by simp [items]⟩

theorem Delivers.items_eq (hd : Delivers h f 1 xs s deliveries s') :
    deliveries.map (·.item) = xs := by
  have horder : ∀ b : Buffer I ε α β σ, Reaches h f 1 (start xs s) b →
      b.flight.length ≤ 1 ∧ b.items = xs := by
    intro b hb
    induction hb with
    | refl => exact ⟨Nat.zero_le 1, rfl⟩
    | tail _ hstep ih =>
        obtain ⟨hlength, hitems⟩ := hstep.items_eq ih.1
        exact ⟨hlength, hitems.trans ih.2⟩
  simpa [items] using (horder _ hd).2

def settled (h : Handler I σ) (f : α → Proc I ε β) (b : Buffer I ε α β σ) :
    Execution I δ (List (Except ε β)) σ :=
  let rest : Proc I δ (List (Except ε β)) := do
    let flown ← b.flight.mapM fun x => x.rest.attempt
    let waited ← b.waiting.mapM fun x => (f x).attempt
    return b.delivered.map (·.result) ++ flown ++ waited
  let x := rest.run h b.state
  ⟨x.exit, x.state, b.delivered.flatMap (·.calls) ++ b.flight.flatMap (·.calls) ++ x.calls⟩

theorem attempt_ofExcept (result : Except ε β) :
    ((Proc.ofExcept result : Proc I ε β).attempt : Proc I δ _) = .done result := by
  cases result <;> rfl

theorem Step.settled_eq (hstep : Step h f 1 b b') (hb : b.flight.length ≤ 1) :
    (settled h f b' : Execution I δ _ σ) = settled h f b := by
  cases hstep with
  | start room =>
      rw [Nat.lt_one_iff, List.length_eq_zero_iff] at room
      subst room
      simp [settled, List.mapM_cons]
  | @call waiting before after delivered s x calls o k =>
      simp only [List.length_append, List.length_cons] at hb
      obtain rfl := List.length_eq_zero_iff.1 (show before.length = 0 by omega)
      obtain rfl := List.length_eq_zero_iff.1 (show after.length = 0 by omega)
      simp [settled, List.mapM_cons, Proc.attempt, Proc.run_call]
  | @deliver waiting before after delivered s x calls result =>
      simp only [List.length_append, List.length_cons] at hb
      obtain rfl := List.length_eq_zero_iff.1 (show before.length = 0 by omega)
      obtain rfl := List.length_eq_zero_iff.1 (show after.length = 0 by omega)
      simp [settled, List.mapM_cons, attempt_ofExcept]

theorem Delivers.run_mapM (hd : Delivers h f 1 xs s deliveries s') :
    (xs.mapM fun x => (f x).attempt : Proc I δ _).run h s =
      ⟨.ok (deliveries.map (·.result)), s', deliveries.flatMap (·.calls)⟩ := by
  have hsettled : ∀ b : Buffer I ε α β σ, Reaches h f 1 (start xs s) b →
      b.flight.length ≤ 1 ∧ (settled h f b : Execution I δ _ σ) = settled h f (start xs s) := by
    intro b hb
    induction hb with
    | refl => exact ⟨Nat.zero_le 1, rfl⟩
    | tail _ hstep ih => exact ⟨(hstep.items_eq ih.1).1, (hstep.settled_eq ih.1).trans ih.2⟩
  have hrun := (hsettled _ hd).2.symm
  simp only [settled, start, List.mapM_nil, Proc.pure_eq, Proc.done_bind, List.map_nil,
    List.nil_append, List.append_nil, List.flatMap_nil, Proc.run_done, Proc.bind_done] at hrun
  exact hrun

end OneAtATime

section Sequential

variable (waiting : List α) (delivered : List (Delivery I ε α β))

theorem Step.call_alone (x : α) (calls : List (Call I)) (o : I.Op) (k : I.Reply o → Proc I ε β)
    (s : σ) : Step h f limit ⟨waiting, [⟨x, calls, .call o k⟩], delivered, s⟩
      ⟨waiting, [⟨x, calls ++ [⟨o, (h o s).1⟩], k (h o s).1⟩], delivered, (h o s).2⟩ :=
  @Step.call I ε α β σ h f limit waiting [] [] delivered s x calls o k

theorem Step.deliver_alone (x : α) (calls : List (Call I)) (result : Except ε β) (s : σ) :
    Step h f limit ⟨waiting, [⟨x, calls, .ofExcept result⟩], delivered, s⟩
      ⟨waiting, [], delivered ++ [⟨x, calls, result⟩], s⟩ :=
  @Step.deliver I ε α β σ h f limit waiting [] [] delivered s x calls result

theorem reaches_flight (x : α) (p : Proc I ε β) (calls : List (Call I)) (s : σ)
    {result : Except ε β} (hexit : ((p.attempt : Proc I δ _).run h s).exit = .ok result) :
    ∃ d : Delivery I ε α β, d.result = result ∧
      Reaches h f limit ⟨waiting, [⟨x, calls, p⟩], delivered, s⟩
        ⟨waiting, [], delivered ++ [d], ((p.attempt : Proc I δ _).run h s).state⟩ := by
  induction p generalizing calls s with
  | done a =>
      obtain rfl := Exit.ok.inj hexit
      exact ⟨⟨x, calls, .ok a⟩, rfl, .single (.deliver_alone waiting delivered x calls (.ok a) s)⟩
  | fail e =>
      obtain rfl := Exit.ok.inj hexit
      exact ⟨⟨x, calls, .error e⟩, rfl,
        .single (.deliver_alone waiting delivered x calls (.error e) s)⟩
  | panic => cases hexit
  | call o k ih =>
      obtain ⟨d, hresult, hreaches⟩ := ih (h o s).1 (calls ++ [⟨o, (h o s).1⟩]) (h o s).2 hexit
      exact ⟨d, hresult, .head (.call_alone waiting delivered x calls o k s) hreaches⟩

theorem reaches_of_run (hlimit : 0 < limit) (xs : List α) (s : σ) {results : List (Except ε β)}
    (hexit : ((xs.mapM fun x => (f x).attempt : Proc I δ _).run h s).exit = .ok results) :
    ∃ deliveries : List (Delivery I ε α β), deliveries.map (·.result) = results ∧
      Reaches h f limit ⟨xs, [], delivered, s⟩
        ⟨[], [], delivered ++ deliveries,
          ((xs.mapM fun x => (f x).attempt : Proc I δ _).run h s).state⟩ := by
  induction xs generalizing s delivered results with
  | nil =>
      obtain rfl := Exit.ok.inj hexit
      exact ⟨[], rfl, by rw [List.append_nil]; exact .refl⟩
  | cons x xs ih =>
      rw [List.mapM_cons, Proc.run_bind] at hexit
      obtain ⟨result, hx, hrest⟩ := Execution.exit_andThen_eq_ok hexit
      rw [Proc.run_bind] at hrest
      obtain ⟨results', hxs, hok⟩ := Execution.exit_andThen_eq_ok hrest
      obtain rfl := Exit.ok.inj hok
      obtain ⟨d, hresult, hflight⟩ := reaches_flight xs delivered x (f x) [] s hx
      obtain ⟨ds, hresults, hreaches⟩ := ih (delivered ++ [d]) _ hxs
      refine ⟨d :: ds, by rw [List.map_cons, hresult, hresults], ?_⟩
      rw [List.mapM_cons, Proc.run_bind, Execution.state_andThen hx, Proc.run_bind,
        Execution.state_andThen hxs]
      rw [List.append_assoc, List.singleton_append] at hreaches
      exact (Relation.ReflTransGen.head (.start hlimit) hflight).trans hreaches

theorem delivers_of_run (hlimit : 0 < limit) {results : List (Except ε β)}
    (hexit : ((xs.mapM fun x => (f x).attempt : Proc I δ _).run h s).exit = .ok results) :
    ∃ deliveries : List (Delivery I ε α β), deliveries.map (·.result) = results ∧
      Delivers h f limit xs s deliveries
        ((xs.mapM fun x => (f x).attempt : Proc I δ _).run h s).state :=
  reaches_of_run [] hlimit xs s hexit

end Sequential

end Buffer

end AtlasOfUs.Library
