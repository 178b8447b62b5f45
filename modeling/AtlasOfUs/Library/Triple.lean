import AtlasOfUs.Library.Contract

namespace AtlasOfUs.Library

variable {I : Signature} {ε δ α β σ : Type}

/-- Partial correctness under a handler: from a state that satisfies `P`, a
value comes with `Q` and a reported error with `E`. -/
structure Triple (h : Handler I σ) (P : σ → Prop) (p : Proc I ε α) (Q : α → σ → Prop)
    (E : ε → σ → Prop) : Prop where
  value : ∀ s a, P s → (p.run h s).exit = .ok a → Q a (p.run h s).state
  error : ∀ s e, P s → (p.run h s).exit = .err e → E e (p.run h s).state

namespace Triple

variable {h : Handler I σ} {P P' : σ → Prop} {Q Q' : α → σ → Prop} {R : β → σ → Prop}
  {E E' : ε → σ → Prop}

theorem done {a : α} (ha : ∀ s, P s → Q a s) : Triple h P (Proc.done a : Proc I ε α) Q E where
  value s b hs hb := by
    obtain rfl := Exit.ok.inj hb
    exact ha s hs
  error s e hs he := by cases he

theorem fail {e : ε} (he : ∀ s, P s → E e s) : Triple h P (Proc.fail e : Proc I ε α) Q E where
  value s b hs hb := by cases hb
  error s e' hs he' := by
    obtain rfl := Exit.err.inj he'
    exact he s hs

theorem panic : Triple h P (Proc.panic : Proc I ε α) Q E where
  value s b hs hb := by cases hb
  error s e hs he := by cases he

theorem ofExit {x : Exit ε α} (hok : ∀ a s, x = .ok a → P s → Q a s)
    (herr : ∀ e s, x = .err e → P s → E e s) : Triple h P (Proc.ofExit x : Proc I ε α) Q E := by
  cases x with
  | ok a => exact done fun s hs => hok a s rfl hs
  | err e => exact fail fun s hs => herr e s rfl hs
  | panicked => exact panic

theorem perform {o : I.Op} {T : I.Reply o → σ → Prop} (ho : ∀ s, P s → T (h o s).1 (h o s).2) :
    Triple h P (Proc.perform o : Proc I ε (I.Reply o)) T E where
  value s a hs ha := by
    obtain rfl := Exit.ok.inj ha
    exact ho s hs
  error s e hs he := by cases he

theorem conseq {p : Proc I ε α} (hp : Triple h P p Q E) (hP : ∀ s, P' s → P s)
    (hQ : ∀ a s, Q a s → Q' a s) (hE : ∀ e s, E e s → E' e s) : Triple h P' p Q' E' where
  value s a hs ha := hQ a _ (hp.value s a (hP s hs) ha)
  error s e hs he := hE e _ (hp.error s e (hP s hs) he)

theorem bind {p : Proc I ε α} {f : α → Proc I ε β} (hp : Triple h P p Q E)
    (hf : ∀ a, Triple h (Q a) (f a) R E) : Triple h P (p >>= f) R E where
  value s b hs hb := by
    rw [Proc.run_bind] at hb ⊢
    obtain ⟨a, ha, hb⟩ := Execution.exit_andThen_eq_ok hb
    rw [Execution.state_andThen ha]
    exact (hf a).value _ b (hp.value s a hs ha) hb
  error s e hs he := by
    rw [Proc.run_bind] at he ⊢
    cases hexit : (p.run h s).exit with
    | ok a =>
        rw [Execution.exit_andThen hexit] at he
        rw [Execution.state_andThen hexit]
        exact (hf a).error _ e (hp.value s a hs hexit) he
    | err e' =>
        rw [Execution.exit_andThen_err hexit] at he
        rw [Execution.state_andThen_err hexit]
        obtain rfl := Exit.err.inj he
        exact hp.error s e' hs hexit
    | panicked =>
        rw [Execution.andThen, hexit] at he
        cases he

theorem mapErr {p : Proc I ε α} {f : ε → δ} {D : δ → σ → Prop}
    (hp : Triple h P p Q (fun e => D (f e))) : Triple h P (p.mapErr f) Q D where
  value s a hs ha := by
    rw [Proc.run_mapErr] at ha ⊢
    cases hexit : (p.run h s).exit with
    | ok b =>
        simp only [hexit, Exit.mapErr] at ha
        obtain rfl := Exit.ok.inj ha
        exact hp.value s b hs hexit
    | err e => simp [hexit, Exit.mapErr] at ha
    | panicked => simp [hexit, Exit.mapErr] at ha
  error s d hs hd := by
    rw [Proc.run_mapErr] at hd ⊢
    cases hexit : (p.run h s).exit with
    | ok b => simp [hexit, Exit.mapErr] at hd
    | err e =>
        simp only [hexit, Exit.mapErr] at hd
        obtain rfl := Exit.err.inj hd
        exact hp.error s e hs hexit
    | panicked => simp [hexit, Exit.mapErr] at hd

theorem attempt {p : Proc I ε α} {R : Except ε α → σ → Prop} {D : δ → σ → Prop}
    (hp : Triple h P p (fun a => R (.ok a)) (fun e => R (.error e))) :
    Triple h P (p.attempt : Proc I δ (Except ε α)) R D where
  value s r hs hr := by
    rw [Proc.run_attempt] at hr ⊢
    cases hexit : (p.run h s).exit with
    | ok a =>
        simp only [hexit, Exit.attempted] at hr
        obtain rfl := Exit.ok.inj hr
        exact hp.value s a hs hexit
    | err e =>
        simp only [hexit, Exit.attempted] at hr
        obtain rfl := Exit.ok.inj hr
        exact hp.error s e hs hexit
    | panicked => simp [hexit, Exit.attempted] at hr
  error s d hs hd := by
    rw [Proc.run_attempt] at hd
    cases hexit : (p.run h s).exit <;> simp [hexit, Exit.attempted] at hd

theorem attempt_bind {p : Proc I ε α} {f : Except ε α → Proc I δ β} {S : ε → σ → Prop}
    {R : β → σ → Prop} {D : δ → σ → Prop} (hp : Triple h P p Q S)
    (hok : ∀ a, Triple h (Q a) (f (.ok a)) R D) (herror : ∀ e, Triple h (S e) (f (.error e)) R D) :
    Triple h P (p.attempt >>= f) R D := by
  have hcaught : Triple h P (p.attempt : Proc I δ (Except ε α))
      (fun r s => (∀ a, r = .ok a → Q a s) ∧ ∀ e, r = .error e → S e s) D := by
    apply attempt
    constructor
    · intro s a hs ha
      refine ⟨fun b hb => ?_, fun e he => by cases he⟩
      cases hb
      exact hp.value s a hs ha
    · intro s e hs he
      refine ⟨fun b hb => (by cases hb), fun e' he' => ?_⟩
      cases he'
      exact hp.error s e hs he
  apply hcaught.bind
  intro r
  cases r with
  | ok a =>
      constructor
      · exact fun s b hs hb => (hok a).value s b (hs.1 a rfl) hb
      · exact fun s d hs hd => (hok a).error s d (hs.1 a rfl) hd
  | error e =>
      constructor
      · exact fun s b hs hb => (herror e).value s b (hs.2 e rfl) hb
      · exact fun s d hs hd => (herror e).error s d (hs.2 e rfl) hd

theorem of_infallible {p : Proc I ε α} (hi : p.Infallible) (hp : Triple h P p Q E') :
    Triple h P p Q E where
  value := hp.value
  error s e hs he := by
    obtain ⟨a, ha⟩ := hi.exit_eq h s
    rw [ha] at he
    cases he

theorem and {p : Proc I ε α} (hp : Triple h P p Q E) (hp' : Triple h P' p Q' E') :
    Triple h (fun s => P s ∧ P' s) p (fun a s => Q a s ∧ Q' a s)
      (fun e s => E e s ∧ E' e s) where
  value s a hs ha := ⟨hp.value s a hs.1 ha, hp'.value s a hs.2 ha⟩
  error s e hs he := ⟨hp.error s e hs.1 he, hp'.error s e hs.2 he⟩

/-- A fact that the precondition gives and that does not speak of the state
can be assumed. -/
theorem of_pre {φ : Prop} {p : Proc I ε α} (hφ : ∀ s, P s → φ) (hp : φ → Triple h P p Q E) :
    Triple h P p Q E where
  value s a hs ha := (hp (hφ s hs)).value s a hs ha
  error s e hs he := (hp (hφ s hs)).error s e hs he

theorem exists_pre {ι : Type} {P : ι → σ → Prop} {p : Proc I ε α}
    (hp : ∀ i, Triple h (P i) p Q E) : Triple h (fun s => ∃ i, P i s) p Q E where
  value s a hs ha := by
    obtain ⟨i, hs⟩ := hs
    exact (hp i).value s a hs ha
  error s e hs he := by
    obtain ⟨i, hs⟩ := hs
    exact (hp i).error s e hs he

theorem weaken {p : Proc I ε α} (hp : Triple h P p Q E) (hP : ∀ s, P' s → P s) :
    Triple h P' p Q E :=
  hp.conseq hP (fun _ _ h => h) (fun _ _ h => h)

theorem true (p : Proc I ε α) : Triple h P p (fun _ _ => True) (fun _ _ => True) :=
  ⟨fun _ _ _ _ => trivial, fun _ _ _ _ => trivial⟩

/-- The rule for a loop: the invariant relates the accumulator, the items still
to come and the state. -/
theorem foldlM (Inv : β → List α → σ → Prop) {f : β → α → Proc I ε β}
    (hf : ∀ b x xs, Triple h (Inv b (x :: xs)) (f b x) (fun b' => Inv b' xs) E) (xs : List α)
    (b : β) : Triple h (Inv b xs) (xs.foldlM f b) (fun b' => Inv b' []) E := by
  induction xs generalizing b with
  | nil => exact done (fun s hs => hs)
  | cons x xs ih =>
      rw [List.foldlM_cons]
      exact (hf b x xs).bind ih

/-- The rule for a loop that collects its results: the invariant relates those
there are, the items still to come and the state. -/
theorem mapM (Inv : List β → List α → σ → Prop) {f : α → Proc I ε β}
    (hf : ∀ ys x xs, Triple h (Inv ys (x :: xs)) (f x) (fun y => Inv (ys ++ [y]) xs) E)
    (xs : List α) (ys : List β) :
    Triple h (Inv ys xs) (xs.mapM f) (fun zs => Inv (ys ++ zs) []) E := by
  induction xs generalizing ys with
  | nil => exact done (fun s hs => by simpa using hs)
  | cons x xs ih =>
      rw [List.mapM_cons]
      refine (hf ys x xs).bind fun y => (ih (ys ++ [y])).bind fun zs => ?_
      exact done (fun s hs => by simpa using hs)

end Triple

end AtlasOfUs.Library
