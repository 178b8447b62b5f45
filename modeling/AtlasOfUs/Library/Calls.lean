import AtlasOfUs.Library.Triple

namespace AtlasOfUs.Library

variable {I : Signature} {ε δ α β σ γ : Type} {allowed : I.Op → Prop}

def Calls (allowed : I.Op → Prop) : Proc I ε α → Prop
  | .done _ | .fail _ | .panic => True
  | .call o k => allowed o ∧ ∀ r, Calls allowed (k r)

theorem Contract.toCalls {bad : (o : I.Op) → I.Reply o → Prop} {p : Proc I ε α}
    (h : Contract allowed bad p) : Calls allowed p := by
  induction p with
  | done a | fail e => trivial
  | panic => exact h.elim
  | call o k ih =>
      refine ⟨h.1, fun r => ?_⟩
      by_cases hr : bad o r
      · rw [(h.2 r).1 hr]
        trivial
      · exact ih r ((h.2 r).2 hr)

namespace Calls

theorem weaken {allowed' : I.Op → Prop} {p : Proc I ε α} (h : Calls allowed p)
    (hsub : ∀ o, allowed o → allowed' o) : Calls allowed' p := by
  induction p with
  | done a | fail e | panic => trivial
  | call o k ih => exact ⟨hsub o h.1, fun r => ih r (h.2 r)⟩

theorem bind {p : Proc I ε α} {f : α → Proc I ε β} (hp : Calls allowed p)
    (hf : ∀ a, Calls allowed (f a)) : Calls allowed (p >>= f) := by
  induction p with
  | done a => exact hf a
  | fail e | panic => trivial
  | call o k ih => exact ⟨hp.1, fun r => ih r (hp.2 r)⟩

theorem attempt {p : Proc I ε α} (hp : Calls allowed p) :
    Calls allowed (p.attempt : Proc I δ _) := by
  induction p with
  | done a | fail e | panic => trivial
  | call o k ih => exact ⟨hp.1, fun r => ih r (hp.2 r)⟩

theorem mapErr {p : Proc I ε α} {f : ε → δ} (hp : Calls allowed p) : Calls allowed (p.mapErr f) :=
  hp.attempt.bind (fun x => by cases x <;> trivial)

theorem ofExit (x : Exit ε α) : Calls allowed (Proc.ofExit x : Proc I ε α) := by
  cases x <;> trivial

theorem ofExcept (x : Except ε α) : Calls allowed (Proc.ofExcept x : Proc I ε α) := by
  cases x <;> trivial

theorem perform {o : I.Op} (ho : allowed o) : Calls allowed (Proc.perform o : Proc I ε _) :=
  ⟨ho, fun _ => trivial⟩

theorem mapM {f : α → Proc I ε β} (xs : List α) (hf : ∀ x ∈ xs, Calls allowed (f x)) :
    Calls allowed (xs.mapM f) := by
  induction xs with
  | nil => trivial
  | cons x xs ih =>
      rw [List.mapM_cons]
      exact (hf x List.mem_cons_self).bind (fun y =>
        (ih (fun z hz => hf z (List.mem_cons_of_mem _ hz))).bind (fun _ => trivial))

theorem foldlM {f : β → α → Proc I ε β} (xs : List α) (hf : ∀ b x, x ∈ xs → Calls allowed (f b x))
    (b : β) : Calls allowed (xs.foldlM f b) := by
  induction xs generalizing b with
  | nil => trivial
  | cons x xs ih =>
      rw [List.foldlM_cons]
      exact (hf b x List.mem_cons_self).bind
        (fun b' => ih (fun b y hy => hf b y (List.mem_cons_of_mem _ hy)) b')

theorem calls_allowed {p : Proc I ε α} (hp : Calls allowed p) (h : Handler I σ) (s : σ) :
    ∀ c ∈ (p.run h s).calls, allowed c.1 := by
  induction p generalizing s with
  | done a | fail e | panic => exact fun c hc => absurd hc List.not_mem_nil
  | call o k ih =>
      intro c hc
      rw [Proc.run_call, List.mem_cons] at hc
      rcases hc with rfl | hc
      · exact hp.1
      · exact ih _ (hp.2 _) _ c hc

theorem run_invariant {p : Proc I ε α} (hp : Calls allowed p) {h : Handler I σ} {P : σ → Prop}
    (hstep : ∀ o s, allowed o → P s → P (h o s).2) {s : σ} (hs : P s) : P (p.run h s).state := by
  induction p generalizing s with
  | done a | fail e | panic => exact hs
  | call o k ih => exact ih _ (hp.2 _) (hstep o s hp.1 hs)

theorem triple {p : Proc I ε α} (hp : Calls allowed p) {h : Handler I σ} {P : σ → Prop}
    (hstep : ∀ o s, allowed o → P s → P (h o s).2) : Triple h P p (fun _ => P) (fun _ => P) where
  value _ _ hs _ := hp.run_invariant hstep hs
  error _ _ hs _ := hp.run_invariant hstep hs

end Calls

/-- At most one of the calls that the program makes is of the kind `once`, every
other is allowed. -/
def CallsOnce (allowed once : I.Op → Prop) : Proc I ε α → Prop
  | .done _ | .fail _ | .panic => True
  | .call o k => allowed o ∧ (∀ r, CallsOnce allowed once (k r)) ∨
      once o ∧ ∀ r, Calls allowed (k r)

namespace CallsOnce

variable {once : I.Op → Prop}

theorem of_calls {p : Proc I ε α} (h : Calls allowed p) : CallsOnce allowed once p := by
  induction p with
  | done a | fail e | panic => trivial
  | call o k ih => exact .inl ⟨h.1, fun r => ih r (h.2 r)⟩

theorem weaken {allowed' once' : I.Op → Prop} {p : Proc I ε α} (h : CallsOnce allowed once p)
    (hallowed : ∀ o, allowed o → allowed' o) (honce : ∀ o, once o → once' o) :
    CallsOnce allowed' once' p := by
  induction p with
  | done a | fail e | panic => trivial
  | call o k ih =>
      rcases h with ⟨ho, hk⟩ | ⟨ho, hk⟩
      · exact .inl ⟨hallowed o ho, fun r => ih r (hk r)⟩
      · exact .inr ⟨honce o ho, fun r => (hk r).weaken hallowed⟩

theorem bind {p : Proc I ε α} {f : α → Proc I ε β} (hp : CallsOnce allowed once p)
    (hf : ∀ a, Calls allowed (f a)) : CallsOnce allowed once (p >>= f) := by
  induction p with
  | done a => exact of_calls (hf a)
  | fail e | panic => trivial
  | call o k ih =>
      rcases hp with ⟨ho, hk⟩ | ⟨ho, hk⟩
      · exact .inl ⟨ho, fun r => ih r (hk r)⟩
      · exact .inr ⟨ho, fun r => (hk r).bind hf⟩

theorem after {p : Proc I ε α} {f : α → Proc I ε β} (hp : Calls allowed p)
    (hf : ∀ a, CallsOnce allowed once (f a)) : CallsOnce allowed once (p >>= f) := by
  induction p with
  | done a => exact hf a
  | fail e | panic => trivial
  | call o k ih => exact .inl ⟨hp.1, fun r => ih r (hp.2 r)⟩

theorem attempt {p : Proc I ε α} (hp : CallsOnce allowed once p) :
    CallsOnce allowed once (p.attempt : Proc I δ _) := by
  induction p with
  | done a | fail e | panic => trivial
  | call o k ih =>
      rcases hp with ⟨ho, hk⟩ | ⟨ho, hk⟩
      · exact .inl ⟨ho, fun r => ih r (hk r)⟩
      · exact .inr ⟨ho, fun r => (hk r).attempt⟩

theorem mapErr {p : Proc I ε α} {f : ε → δ} (hp : CallsOnce allowed once p) :
    CallsOnce allowed once (p.mapErr f) :=
  hp.attempt.bind (fun x => by cases x <;> trivial)

theorem perform {o : I.Op} (ho : once o) : CallsOnce allowed once (Proc.perform o : Proc I ε _) :=
  .inr ⟨ho, fun _ => trivial⟩

theorem foldlM_cons {f : β → α → Proc I ε β} {b : β} {x : α} {xs : List α}
    (hx : CallsOnce allowed once (f b x)) (hxs : ∀ b, ∀ y ∈ xs, Calls allowed (f b y)) :
    CallsOnce allowed once ((x :: xs).foldlM f b) := by
  rw [List.foldlM_cons]
  exact hx.bind (fun b' => Calls.foldlM xs hxs b')

/-- What every allowed call keeps, and what the one call turns `P` into, holds after the run. -/
theorem run_invariant {p : Proc I ε α} (hp : CallsOnce allowed once p) {h : Handler I σ}
    {P Q : σ → Prop} (hPQ : ∀ s, P s → Q s) (hP : ∀ o s, allowed o → P s → P (h o s).2)
    (hQ : ∀ o s, allowed o → Q s → Q (h o s).2) (honce : ∀ o s, once o → P s → Q (h o s).2)
    {s : σ} (hs : P s) : Q (p.run h s).state := by
  induction p generalizing s with
  | done a | fail e | panic => exact hPQ s hs
  | call o k ih =>
      rcases hp with ⟨ho, hk⟩ | ⟨ho, hk⟩
      · exact ih _ (hk _) (hP o s ho hs)
      · exact (hk _).run_invariant hQ (honce o s ho hs)

end CallsOnce

section Redelivery

/-- The state before the `k`-th delivery of a message that is delivered again
and again to the same program. -/
def beforeDelivery (h : Handler I σ) (p : Proc I ε α) (s : σ) : Nat → σ
  | 0 => s
  | k + 1 => (p.run h (beforeDelivery h p s k)).state

/-- Once a call has changed what is seen of the state, neither that call nor a later one fails. -/
def SettledOnceTouched (h : Handler I σ) (failed : (o : I.Op) → I.Reply o → Prop) (view : σ → γ) :
    Proc I ε α → σ → Prop
  | .call o k, s =>
      (view (h o s).2 ≠ view s → ∀ c ∈ ((Proc.call o k).run h s).calls, ¬ failed c.1 c.2) ∧
        SettledOnceTouched h failed view (k (h o s).1) (h o s).2
  | .done _, _ | .fail _, _ | .panic, _ => True

theorem Proc.state_of_calls_nil {h : Handler I σ} {p : Proc I ε α} {s : σ}
    (hcalls : (p.run h s).calls = []) : (p.run h s).state = s := by
  cases p with
  | done a | fail e | panic => rfl
  | call o k =>
      rw [Proc.run_call] at hcalls
      cases hcalls

theorem SettledOnceTouched.view_eq {h : Handler I σ} {failed : (o : I.Op) → I.Reply o → Prop}
    {view : σ → γ} {p : Proc I ε α} {s : σ} (hp : SettledOnceTouched h failed view p s) {c : Call I}
    (hlast : (p.run h s).calls.getLast? = some c) (hfailed : failed c.1 c.2) :
    view (p.run h s).state = view s := by
  induction p generalizing s with
  | done a | fail e | panic => rfl
  | call o k ih =>
      have hsame : view (h o s).2 = view s := Classical.byContradiction fun htouched =>
        hp.1 htouched c (List.mem_of_getLast? hlast) hfailed
      rw [Proc.run_call] at hlast ⊢
      cases hcalls : ((k (h o s).1).run h (h o s).2).calls with
      | nil =>
          simp only
          rw [Proc.state_of_calls_nil hcalls, hsame]
      | cons c' cs =>
          rw [hcalls, List.getLast?_cons_cons, ← hcalls] at hlast
          exact (ih _ hp.2 hlast).trans hsame

end Redelivery

section Extension

variable {J : Signature} {τ : Type}

def Signature.plus (I J : Signature) : Signature where
  Op := I.Op ⊕ J.Op
  Reply := Sum.elim I.Reply J.Reply

def Proc.extend (J : Signature) : Proc I ε α → Proc (I.plus J) ε α
  | .done a => .done a
  | .fail e => .fail e
  | .panic => .panic
  | .call o k => .call (I := I.plus J) (.inl o) (fun r => (k r).extend J)

def Handler.plus (h : Handler I σ) (h' : Handler J τ) : Handler (I.plus J) (σ × τ)
  | .inl o, s => ((h o s.1).1, (h o s.1).2, s.2)
  | .inr o, s => ((h' o s.2).1, s.1, (h' o s.2).2)

theorem run_extend (h : Handler I σ) (h' : Handler J τ) (p : Proc I ε α) (s : σ × τ) :
    ((p.extend J).run (h.plus h') s).exit = (p.run h s.1).exit ∧
      ((p.extend J).run (h.plus h') s).state = ((p.run h s.1).state, s.2) := by
  induction p generalizing s with
  | done a | fail e | panic => exact ⟨rfl, rfl⟩
  | call o k ih => exact ih _ _

theorem calls_extend (h : Handler I σ) (h' : Handler J τ) (p : Proc I ε α) (s : σ × τ) :
    ((p.extend J).run (h.plus h') s).calls =
      (p.run h s.1).calls.map fun c => ⟨.inl c.1, c.2⟩ := by
  induction p generalizing s with
  | done a | fail e | panic => rfl
  | call o k ih =>
      rw [Proc.run_call, List.map_cons, ← ih _ (_, s.2)]
      rfl

variable {once : I.Op → Prop} {allowed' : J.Op → Prop}

theorem Calls.extend {p : Proc I ε α} (hp : Calls allowed p) :
    Calls (I := I.plus J) (Sum.elim allowed allowed') (p.extend J) := by
  induction p with
  | done a | fail e | panic => trivial
  | call o k ih => exact ⟨hp.1, fun r => ih r (hp.2 r)⟩

theorem CallsOnce.extend {p : Proc I ε α} (hp : CallsOnce allowed once p) {once' : J.Op → Prop} :
    CallsOnce (I := I.plus J) (Sum.elim allowed allowed') (Sum.elim once once') (p.extend J) := by
  induction p with
  | done a | fail e | panic => trivial
  | call o k ih =>
      rcases hp with ⟨ho, hk⟩ | ⟨ho, hk⟩
      · exact .inl ⟨ho, fun r => ih r (hk r)⟩
      · exact .inr ⟨ho, fun r => (hk r).extend⟩

end Extension

end AtlasOfUs.Library
