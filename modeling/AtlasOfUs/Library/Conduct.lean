import AtlasOfUs.Library.Loop

namespace AtlasOfUs.Library

variable {I : Signature} {ε δ α β σ : Type}

/-- How a program conducts itself under a handler: it does not panic, it raises
two measures of the state by at most `a` and `b` and never lowers them, and the
errors it is blamed for come right after a call that failed. -/
structure Conduct (h : Handler I σ) (failed : (o : I.Op) → I.Reply o → Prop) (μ ν : σ → Nat)
    (a b : Nat) (blamed : ε → Prop) (p : Proc I ε α) : Prop where
  exit_ne_panicked : ∀ s, (p.run h s).exit ≠ .panicked
  first : ∀ s, μ s ≤ μ (p.run h s).state ∧ μ (p.run h s).state ≤ μ s + a
  second : ∀ s, ν s ≤ ν (p.run h s).state ∧ ν (p.run h s).state ≤ ν s + b
  last_failed : ∀ s e, (p.run h s).exit = .err e → blamed e →
    ∃ c, (p.run h s).calls.getLast? = some c ∧ failed c.1 c.2

namespace Conduct

variable {h : Handler I σ} {failed : (o : I.Op) → I.Reply o → Prop} {μ ν : σ → Nat}
  {a b a' b' : Nat} {blamed : ε → Prop}

theorem done (x : α) : Conduct h failed μ ν a b blamed (Proc.done x : Proc I ε α) where
  exit_ne_panicked s := by simp
  first s := by simp
  second s := by simp
  last_failed s e he := by simp at he

theorem fail {e : ε} (he : ¬ blamed e) :
    Conduct h failed μ ν a b blamed (Proc.fail e : Proc I ε α) where
  exit_ne_panicked s := by simp
  first s := by simp
  second s := by simp
  last_failed s e' he' hblamed := by
    rw [Proc.run_fail, Exit.err.injEq] at he'
    exact absurd (he' ▸ hblamed) he

theorem weaken {p : Proc I ε α} (hp : Conduct h failed μ ν a b blamed p) (ha : a ≤ a')
    (hb : b ≤ b') : Conduct h failed μ ν a' b' blamed p where
  exit_ne_panicked := hp.exit_ne_panicked
  first s := ⟨(hp.first s).1, by have := (hp.first s).2; omega⟩
  second s := ⟨(hp.second s).1, by have := (hp.second s).2; omega⟩
  last_failed := hp.last_failed

theorem bind {p : Proc I ε α} {f : α → Proc I ε β} (hp : Conduct h failed μ ν a b blamed p)
    (hf : ∀ x, Conduct h failed μ ν a' b' blamed (f x)) :
    Conduct h failed μ ν (a + a') (b + b') blamed (p >>= f) where
  exit_ne_panicked s := by
    rw [Proc.run_bind]
    cases hx : (p.run h s).exit with
    | ok x =>
        rw [Execution.exit_andThen hx]
        exact (hf x).exit_ne_panicked _
    | err e => simp [Execution.exit_andThen_err hx]
    | panicked => exact absurd hx (hp.exit_ne_panicked s)
  first s := by
    have hfirst := hp.first s
    rw [Proc.run_bind]
    cases hx : (p.run h s).exit with
    | ok x =>
        have hnext := (hf x).first (p.run h s).state
        rw [Execution.state_andThen hx]
        omega
    | err e =>
        rw [Execution.state_andThen_err hx]
        omega
    | panicked => exact absurd hx (hp.exit_ne_panicked s)
  second s := by
    have hsecond := hp.second s
    rw [Proc.run_bind]
    cases hx : (p.run h s).exit with
    | ok x =>
        have hnext := (hf x).second (p.run h s).state
        rw [Execution.state_andThen hx]
        omega
    | err e =>
        rw [Execution.state_andThen_err hx]
        omega
    | panicked => exact absurd hx (hp.exit_ne_panicked s)
  last_failed s e he hblamed := by
    rw [Proc.run_bind] at he ⊢
    cases hx : (p.run h s).exit with
    | ok x =>
        rw [Execution.exit_andThen hx] at he
        obtain ⟨c, hc, hfailed⟩ := (hf x).last_failed _ e he hblamed
        refine ⟨c, ?_, hfailed⟩
        rw [Execution.calls_andThen hx, List.getLast?_append, hc]
        rfl
    | err e' =>
        rw [Execution.exit_andThen_err hx, Exit.err.injEq] at he
        rw [Execution.calls_andThen_err hx]
        exact hp.last_failed s e (he ▸ hx) hblamed
    | panicked => exact absurd hx (hp.exit_ne_panicked s)

theorem free_bind {p : Proc I ε α} {f : α → Proc I ε β} (hp : Conduct h failed μ ν 0 0 blamed p)
    (hf : ∀ x, Conduct h failed μ ν a b blamed (f x)) :
    Conduct h failed μ ν a b blamed (p >>= f) :=
  (hp.bind hf).weaken (by omega) (by omega)

theorem bind_free {p : Proc I ε α} {f : α → Proc I ε β} (hp : Conduct h failed μ ν a b blamed p)
    (hf : ∀ x, Conduct h failed μ ν 0 0 blamed (f x)) :
    Conduct h failed μ ν a b blamed (p >>= f) :=
  (hp.bind hf).weaken (by omega) (by omega)

theorem attempt {p : Proc I ε α} {blamed' : δ → Prop} (hp : Conduct h failed μ ν a b blamed p) :
    Conduct h failed μ ν a b blamed' (p.attempt : Proc I δ _) where
  exit_ne_panicked s := by
    rw [Proc.run_attempt]
    cases hx : (p.run h s).exit with
    | panicked => exact absurd hx (hp.exit_ne_panicked s)
    | _ => simp [Exit.attempted]
  first s := by
    rw [Proc.run_attempt]
    exact hp.first s
  second s := by
    rw [Proc.run_attempt]
    exact hp.second s
  last_failed s e he := by
    rw [Proc.run_attempt] at he
    cases hx : (p.run h s).exit <;> simp [Exit.attempted, hx] at he

theorem caught {p : Proc I ε α} {f : Except ε α → Proc I δ β} {blamed' : δ → Prop}
    (hp : Conduct h failed μ ν a b blamed p)
    (hf : ∀ x, (∃ y, f x = .done y) ∨ ∃ e e', x = .error e ∧ blamed e ∧ f x = .fail e') :
    Conduct h failed μ ν a b blamed' (p.attempt >>= f) where
  exit_ne_panicked s := by
    rw [Proc.run_bind, Proc.run_attempt]
    cases hx : (p.run h s).exit with
    | ok x => rcases hf (.ok x) with ⟨y, hy⟩ | ⟨e, e', -, -, hy⟩ <;> simp [Exit.attempted, hy]
    | err e => rcases hf (.error e) with ⟨y, hy⟩ | ⟨e, e', -, -, hy⟩ <;> simp [Exit.attempted, hy]
    | panicked => exact absurd hx (hp.exit_ne_panicked s)
  first s := by
    have hfirst := hp.first s
    rw [Proc.run_bind, Proc.run_attempt]
    cases hx : (p.run h s).exit with
    | ok x =>
        rcases hf (.ok x) with ⟨y, hy⟩ | ⟨e, e', -, -, hy⟩ <;> simpa [Exit.attempted, hy] using hfirst
    | err e =>
        rcases hf (.error e) with ⟨y, hy⟩ | ⟨e, e', -, -, hy⟩ <;>
          simpa [Exit.attempted, hy] using hfirst
    | panicked => exact absurd hx (hp.exit_ne_panicked s)
  second s := by
    have hsecond := hp.second s
    rw [Proc.run_bind, Proc.run_attempt]
    cases hx : (p.run h s).exit with
    | ok x =>
        rcases hf (.ok x) with ⟨y, hy⟩ | ⟨e, e', -, -, hy⟩ <;>
          simpa [Exit.attempted, hy] using hsecond
    | err e =>
        rcases hf (.error e) with ⟨y, hy⟩ | ⟨e, e', -, -, hy⟩ <;>
          simpa [Exit.attempted, hy] using hsecond
    | panicked => exact absurd hx (hp.exit_ne_panicked s)
  last_failed s e he _ := by
    rw [Proc.run_bind, Proc.run_attempt] at he ⊢
    cases hx : (p.run h s).exit with
    | ok x =>
        rcases hf (.ok x) with ⟨y, hy⟩ | ⟨e₁, e₂, hx', -, -⟩
        · simp [hx, Exit.attempted, hy] at he
        · cases hx'
    | err e₀ =>
        rcases hf (.error e₀) with ⟨y, hy⟩ | ⟨e₁, e₂, hx', hblamed, hy⟩
        · simp [hx, Exit.attempted, hy] at he
        · obtain ⟨c, hc, hfailed⟩ := hp.last_failed s e₀ hx ((Except.error.inj hx').symm ▸ hblamed)
          exact ⟨c, by simpa [Exit.attempted, hy] using hc, hfailed⟩
    | panicked => exact absurd hx (hp.exit_ne_panicked s)

theorem perform_bind {o : I.Op} {f : I.Reply o → Proc I ε β}
    (hμ : ∀ s, μ s ≤ μ (h o s).2 ∧ μ (h o s).2 ≤ μ s + a)
    (hν : ∀ s, ν s ≤ ν (h o s).2 ∧ ν (h o s).2 ≤ ν s + b)
    (hf : ∀ s, (∃ e, f (h o s).1 = .fail e ∧ (blamed e → failed o (h o s).1)) ∨
      Conduct h failed μ ν a' b' blamed (f (h o s).1)) :
    Conduct h failed μ ν (a + a') (b + b') blamed (Proc.perform o >>= f) where
  exit_ne_panicked s := by
    rw [Proc.run_bind, Proc.run_perform, Execution.andThen_ok]
    rcases hf s with ⟨e, hx, -⟩ | hx
    · simp [hx]
    · exact hx.exit_ne_panicked _
  first s := by
    have hcall := hμ s
    rw [Proc.run_bind, Proc.run_perform, Execution.andThen_ok]
    rcases hf s with ⟨e, hx, -⟩ | hx
    · simp only [hx, Proc.run_fail]
      omega
    · have hrest := hx.first (h o s).2
      simp only
      omega
  second s := by
    have hcall := hν s
    rw [Proc.run_bind, Proc.run_perform, Execution.andThen_ok]
    rcases hf s with ⟨e, hx, -⟩ | hx
    · simp only [hx, Proc.run_fail]
      omega
    · have hrest := hx.second (h o s).2
      simp only
      omega
  last_failed s e he hblamed := by
    rw [Proc.run_bind, Proc.run_perform, Execution.andThen_ok] at he ⊢
    rcases hf s with ⟨e', hx, hfailed⟩ | hx
    · simp only [hx, Proc.run_fail, Exit.err.injEq] at he
      exact ⟨⟨o, (h o s).1⟩, by simp [hx], hfailed (he ▸ hblamed)⟩
    · obtain ⟨c, hc, hfailed⟩ := hx.last_failed _ e he hblamed
      refine ⟨c, ?_, hfailed⟩
      rw [List.getLast?_append, hc]
      rfl

end Conduct

end AtlasOfUs.Library
