import AtlasOfUs.Library.Loop

namespace AtlasOfUs.Library

variable {I : Signature} {ε δ α β σ : Type}
  {allowed : I.Op → Prop} {bad : (o : I.Op) → I.Reply o → Prop}

/-- The program makes allowed calls only; a bad reply makes it panic at once
and nothing else does. -/
def Contract (allowed : I.Op → Prop) (bad : (o : I.Op) → I.Reply o → Prop) :
    Proc I ε α → Prop
  | .done _ | .fail _ => True
  | .panic => False
  | .call o k => allowed o ∧
      ∀ r, (bad o r → k r = .panic) ∧ (¬ bad o r → Contract allowed bad (k r))

namespace Contract

theorem done (a : α) : Contract allowed bad (Proc.done a : Proc I ε α) := trivial

theorem fail (e : ε) : Contract allowed bad (Proc.fail e : Proc I ε α) := trivial

theorem weaken {allowed' : I.Op → Prop} {p : Proc I ε α} (h : Contract allowed bad p)
    (hsub : ∀ o, allowed o → allowed' o) : Contract allowed' bad p := by
  induction p with
  | done a | fail e => trivial
  | panic => exact h.elim
  | call o k ih => exact ⟨hsub o h.1, fun r => ⟨(h.2 r).1, fun hr => ih r ((h.2 r).2 hr)⟩⟩

theorem bind {p : Proc I ε α} {f : α → Proc I ε β} (hp : Contract allowed bad p)
    (hf : ∀ a, Contract allowed bad (f a)) : Contract allowed bad (p >>= f) := by
  induction p with
  | done a => exact hf a
  | fail e => trivial
  | panic => exact hp.elim
  | call o k ih =>
      refine ⟨hp.1, fun r => ⟨fun hr => ?_, fun hr => ih r ((hp.2 r).2 hr)⟩⟩
      change (k r >>= f) = .panic
      rw [(hp.2 r).1 hr, Proc.panic_bind]

theorem attempt {p : Proc I ε α} (hp : Contract allowed bad p) :
    Contract allowed bad (p.attempt : Proc I δ _) := by
  induction p with
  | done a | fail e => trivial
  | panic => exact hp.elim
  | call o k ih =>
      refine ⟨hp.1, fun r => ⟨fun hr => ?_, fun hr => ih r ((hp.2 r).2 hr)⟩⟩
      change (k r).attempt = .panic
      rw [(hp.2 r).1 hr, Proc.attempt]

theorem mapErr {p : Proc I ε α} {f : ε → δ} (hp : Contract allowed bad p) :
    Contract allowed bad (p.mapErr f) :=
  hp.attempt.bind (fun x => by cases x <;> trivial)

theorem ofExcept (x : Except ε α) : Contract allowed bad (Proc.ofExcept x : Proc I ε α) := by
  cases x <;> trivial

theorem perform {o : I.Op} (ho : allowed o) (hb : ∀ r, ¬ bad o r) :
    Contract allowed bad (Proc.perform o : Proc I ε _) :=
  ⟨ho, fun r => ⟨fun hr => absurd hr (hb r), fun _ => trivial⟩⟩

theorem foldlM {f : β → α → Proc I ε β} (xs : List α)
    (hf : ∀ b x, x ∈ xs → Contract allowed bad (f b x)) (b : β) :
    Contract allowed bad (xs.foldlM f b) := by
  induction xs generalizing b with
  | nil => trivial
  | cons x xs ih =>
      rw [List.foldlM_cons]
      exact (hf b x List.mem_cons_self).bind
        (fun b' => ih (fun b y hy => hf b y (List.mem_cons_of_mem _ hy)) b')

theorem mapM {f : α → Proc I ε β} (xs : List α)
    (hf : ∀ x ∈ xs, Contract allowed bad (f x)) : Contract allowed bad (xs.mapM f) := by
  induction xs with
  | nil => trivial
  | cons x xs ih =>
      rw [List.mapM_cons]
      exact (hf x List.mem_cons_self).bind (fun y =>
        (ih (fun z hz => hf z (List.mem_cons_of_mem _ hz))).bind (fun _ => trivial))

/-- With its errors caught, a program that no reply makes panic always succeeds. -/
theorem attempt_infallible {p : Proc I ε α} (hp : Contract allowed (fun _ _ => False) p) :
    (p.attempt : Proc I δ _).Infallible := by
  induction p with
  | done a | fail e => trivial
  | panic => exact hp.elim
  | call o k ih => exact fun r => ih r ((hp.2 r).2 id)

theorem calls_allowed {p : Proc I ε α} (hp : Contract allowed bad p) (h : Handler I σ) (s : σ) :
    ∀ c ∈ (p.run h s).calls, allowed c.1 := by
  induction p generalizing s with
  | done a | fail e => simp
  | panic => exact hp.elim
  | call o k ih =>
      intro c hc
      rw [Proc.run_call, List.mem_cons] at hc
      rcases hc with rfl | hc
      · exact hp.1
      · by_cases hr : bad o (h o s).1
        · rw [(hp.2 _).1 hr] at hc
          simp at hc
        · exact ih _ ((hp.2 _).2 hr) _ c hc

theorem run_invariant {p : Proc I ε α} (hp : Contract allowed bad p) {h : Handler I σ}
    {P : σ → Prop} (hstep : ∀ o s, allowed o → P s → P (h o s).2) (s : σ) (hs : P s) :
    P (p.run h s).state := by
  induction p generalizing s with
  | done a | fail e => exact hs
  | panic => exact hp.elim
  | call o k ih =>
      rw [Proc.run_call]
      have hnext := hstep o s hp.1 hs
      by_cases hr : bad o (h o s).1
      · rw [(hp.2 _).1 hr]
        exact hnext
      · exact ih _ ((hp.2 _).2 hr) _ hnext

theorem panicked_iff {p : Proc I ε α} (hp : Contract allowed bad p) (h : Handler I σ) (s : σ) :
    (p.run h s).exit = .panicked ↔ ∃ c ∈ (p.run h s).calls, bad c.1 c.2 := by
  induction p generalizing s with
  | done a | fail e => simp
  | panic => exact hp.elim
  | call o k ih =>
      rw [Proc.run_call]
      by_cases hr : bad o (h o s).1
      · simp only [(hp.2 _).1 hr, Proc.run_panic, true_iff]
        exact ⟨⟨o, (h o s).1⟩, List.mem_cons_self, hr⟩
      · simp only [ih _ ((hp.2 _).2 hr), List.mem_cons, exists_eq_or_imp, hr, false_or]

end Contract

end AtlasOfUs.Library
