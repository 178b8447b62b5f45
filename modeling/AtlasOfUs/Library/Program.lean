import Mathlib.Logic.Basic

namespace AtlasOfUs.Library

structure Signature where
  Op : Type
  Reply : Op → Type

/-- How a computation ends: with a value, with an error it reports, or by a
panic that unwinds past every handler. -/
inductive Exit (ε α : Type)
  | ok (a : α)
  | err (e : ε)
  | panicked
  deriving DecidableEq, Repr

/-- A program as the tree of the calls it makes. Every reply of the outside
world has its own subtree, so nothing is assumed about how calls are answered. -/
inductive Proc (I : Signature) (ε α : Type)
  | done (a : α)
  | fail (e : ε)
  | panic
  | call (o : I.Op) (k : I.Reply o → Proc I ε α)

variable {I : Signature} {ε δ α β γ σ : Type}

namespace Exit

def bind : Exit ε α → (α → Exit ε β) → Exit ε β
  | .ok a, f => f a
  | .err e, _ => .err e
  | .panicked, _ => .panicked

instance : Monad (Exit ε) where
  pure := .ok
  bind := bind

def ofExcept : Except ε α → Exit ε α
  | .ok a => .ok a
  | .error e => .err e

def attempted : Exit ε α → Exit δ (Except ε α)
  | .ok a => .ok (.ok a)
  | .err e => .ok (.error e)
  | .panicked => .panicked

def mapErr (f : ε → δ) : Exit ε α → Exit δ α
  | .ok a => .ok a
  | .err e => .err (f e)
  | .panicked => .panicked

def toOption : Exit ε α → Option α
  | .ok a => some a
  | .err _ => none
  | .panicked => none

@[simp] theorem toOption_ok (a : α) : (Exit.ok a : Exit ε α).toOption = some a := rfl
@[simp] theorem toOption_err (e : ε) : (Exit.err e : Exit ε α).toOption = none := rfl
@[simp] theorem toOption_panicked : (Exit.panicked : Exit ε α).toOption = none := rfl

theorem toOption_mapErr (f : ε → δ) (x : Exit ε α) : (x.mapErr f).toOption = x.toOption := by
  cases x <;> rfl

theorem toOption_eq_some {x : Exit ε α} {a : α} : x.toOption = some a ↔ x = .ok a := by
  cases x <;> simp

@[simp] theorem pure_eq (a : α) : (pure a : Exit ε α) = .ok a := rfl
@[simp] theorem ok_bind (a : α) (f : α → Exit ε β) : (Exit.ok a >>= f) = f a := rfl
@[simp] theorem err_bind (e : ε) (f : α → Exit ε β) : (Exit.err e >>= f) = .err e := rfl
@[simp] theorem panicked_bind (f : α → Exit ε β) : (Exit.panicked >>= f) = .panicked := rfl

instance : LawfulMonad (Exit ε) :=
  LawfulMonad.mk' _ (fun x => by cases x <;> rfl) (fun _ _ => rfl)
    (fun x _ _ => by cases x <;> rfl)

theorem bind_eq_panicked (x : Exit ε α) (f : α → Exit ε β) :
    (x >>= f) = .panicked ↔ x = .panicked ∨ ∃ a, x = .ok a ∧ f a = .panicked := by
  cases x <;> simp

theorem bind_eq_ok (x : Exit ε α) (f : α → Exit ε β) (b : β) :
    (x >>= f) = .ok b ↔ ∃ a, x = .ok a ∧ f a = .ok b := by
  cases x <;> simp

theorem mapM_ne_panicked {f : α → Exit ε β} (h : ∀ x, f x ≠ .panicked) (xs : List α) :
    xs.mapM f ≠ .panicked := by
  induction xs with
  | nil => simp
  | cons x xs ih =>
      intro hx
      rw [List.mapM_cons] at hx
      simp [bind_eq_panicked, h, ih] at hx

end Exit

namespace Proc

def bind : Proc I ε α → (α → Proc I ε β) → Proc I ε β
  | .done a, f => f a
  | .fail e, _ => .fail e
  | .panic, _ => .panic
  | .call o k, f => .call o (fun r => (k r).bind f)

instance : Monad (Proc I ε) where
  pure := .done
  bind := bind

@[simp] theorem pure_eq (a : α) : (pure a : Proc I ε α) = .done a := rfl
@[simp] theorem done_bind (a : α) (f : α → Proc I ε β) : (Proc.done a >>= f) = f a := rfl
@[simp] theorem fail_bind (e : ε) (f : α → Proc I ε β) : (Proc.fail e >>= f) = .fail e := rfl
@[simp] theorem panic_bind (f : α → Proc I ε β) : (Proc.panic >>= f) = .panic := rfl
@[simp] theorem call_bind (o : I.Op) (k : I.Reply o → Proc I ε α) (f : α → Proc I ε β) :
    (Proc.call o k >>= f) = .call o (fun r => k r >>= f) := rfl

theorem bind_done (p : Proc I ε α) : (p >>= Proc.done) = p := by
  induction p with
  | done a | fail e | panic => rfl
  | call o k ih =>
      rw [call_bind]
      congr 1
      funext r
      exact ih r

theorem bind_bind (p : Proc I ε α) (f : α → Proc I ε β) (g : β → Proc I ε γ) :
    (p >>= f >>= g) = (p >>= fun a => f a >>= g) := by
  induction p with
  | done a | fail e | panic => rfl
  | call o k ih =>
      simp only [call_bind]
      congr 1
      funext r
      exact ih r

instance : LawfulMonad (Proc I ε) :=
  LawfulMonad.mk' _ bind_done (fun _ _ => rfl) bind_bind

def perform (o : I.Op) : Proc I ε (I.Reply o) := .call o .done

def attempt : Proc I ε α → Proc I δ (Except ε α)
  | .done a => .done (.ok a)
  | .fail e => .done (.error e)
  | .panic => .panic
  | .call o k => .call o (fun r => (k r).attempt)

def ofExit : Exit ε α → Proc I ε α
  | .ok a => .done a
  | .err e => .fail e
  | .panicked => .panic

def ofExcept : Except ε α → Proc I ε α
  | .ok a => .done a
  | .error e => .fail e

@[simp] theorem ofExcept_ok (a : α) : (ofExcept (.ok a) : Proc I ε α) = .done a := rfl
@[simp] theorem ofExcept_error (e : ε) : (ofExcept (.error e) : Proc I ε α) = .fail e := rfl
@[simp] theorem ofExit_ok (a : α) : (ofExit (.ok a) : Proc I ε α) = .done a := rfl
@[simp] theorem ofExit_err (e : ε) : (ofExit (.err e) : Proc I ε α) = .fail e := rfl
@[simp] theorem ofExit_panicked : (ofExit .panicked : Proc I ε α) = .panic := rfl

def mapErr (f : ε → δ) (p : Proc I ε α) : Proc I δ α := do
  match ← p.attempt with
  | .ok a => return a
  | .error e => .fail (f e)

end Proc

abbrev Call (I : Signature) := (o : I.Op) × I.Reply o

structure Execution (I : Signature) (ε α σ : Type) where
  exit : Exit ε α
  state : σ
  calls : List (Call I)

namespace Execution

def andThen (x : Execution I ε α σ) (f : α → σ → Execution I ε β σ) : Execution I ε β σ :=
  match x.exit with
  | .ok a => ⟨(f a x.state).exit, (f a x.state).state, x.calls ++ (f a x.state).calls⟩
  | .err e => ⟨.err e, x.state, x.calls⟩
  | .panicked => ⟨.panicked, x.state, x.calls⟩

@[simp] theorem andThen_ok (a : α) (s : σ) (cs : List (Call I))
    (f : α → σ → Execution I ε β σ) :
    (⟨.ok a, s, cs⟩ : Execution I ε α σ).andThen f =
      ⟨(f a s).exit, (f a s).state, cs ++ (f a s).calls⟩ := rfl

@[simp] theorem andThen_err (e : ε) (s : σ) (cs : List (Call I))
    (f : α → σ → Execution I ε β σ) :
    (⟨.err e, s, cs⟩ : Execution I ε α σ).andThen f = ⟨.err e, s, cs⟩ := rfl

@[simp] theorem andThen_panicked (s : σ) (cs : List (Call I))
    (f : α → σ → Execution I ε β σ) :
    (⟨.panicked, s, cs⟩ : Execution I ε α σ).andThen f = ⟨.panicked, s, cs⟩ := rfl

theorem exit_andThen {x : Execution I ε α σ} {a : α} (h : x.exit = .ok a)
    (f : α → σ → Execution I ε β σ) : (x.andThen f).exit = (f a x.state).exit := by
  rw [andThen, h]

theorem state_andThen {x : Execution I ε α σ} {a : α} (h : x.exit = .ok a)
    (f : α → σ → Execution I ε β σ) : (x.andThen f).state = (f a x.state).state := by
  rw [andThen, h]

theorem exit_andThen_eq_ok {x : Execution I ε α σ} {f : α → σ → Execution I ε β σ} {b : β}
    (h : (x.andThen f).exit = .ok b) : ∃ a, x.exit = .ok a ∧ (f a x.state).exit = .ok b := by
  cases hexit : x.exit with
  | ok a => exact ⟨a, rfl, by rwa [exit_andThen hexit] at h⟩
  | err e | panicked =>
      rw [andThen, hexit] at h
      cases h

theorem toOption_andThen (x : Execution I ε α σ) (f : α → σ → Execution I ε β σ) :
    (x.andThen f).exit.toOption =
      x.exit.toOption.bind (fun a => (f a x.state).exit.toOption) := by
  cases hexit : x.exit with
  | ok a => rw [exit_andThen hexit, Exit.toOption_ok, Option.bind_some]
  | err e | panicked =>
      rw [andThen, hexit]
      rfl

theorem state_andThen_of_none {x : Execution I ε α σ} (h : x.exit.toOption = none)
    (f : α → σ → Execution I ε β σ) : (x.andThen f).state = x.state := by
  cases hexit : x.exit with
  | ok a => simp [hexit] at h
  | err e | panicked => rw [andThen, hexit]

theorem calls_andThen_of_none {x : Execution I ε α σ} (h : x.exit.toOption = none)
    (f : α → σ → Execution I ε β σ) : (x.andThen f).calls = x.calls := by
  cases hexit : x.exit with
  | ok a => simp [hexit] at h
  | err e | panicked => rw [andThen, hexit]

theorem exit_andThen_err {x : Execution I ε α σ} {e : ε} (h : x.exit = .err e)
    (f : α → σ → Execution I ε β σ) : (x.andThen f).exit = .err e := by
  rw [andThen, h]

theorem calls_andThen {x : Execution I ε α σ} {a : α} (h : x.exit = .ok a)
    (f : α → σ → Execution I ε β σ) : (x.andThen f).calls = x.calls ++ (f a x.state).calls := by
  rw [andThen, h]

theorem calls_andThen_err {x : Execution I ε α σ} {e : ε} (h : x.exit = .err e)
    (f : α → σ → Execution I ε β σ) : (x.andThen f).calls = x.calls := by
  rw [andThen, h]

theorem state_andThen_err {x : Execution I ε α σ} {e : ε} (h : x.exit = .err e)
    (f : α → σ → Execution I ε β σ) : (x.andThen f).state = x.state := by
  rw [andThen, h]

end Execution

abbrev Handler (I : Signature) (σ : Type) := (o : I.Op) → σ → I.Reply o × σ

namespace Proc

def run (h : Handler I σ) : Proc I ε α → σ → Execution I ε α σ
  | .done a, s => ⟨.ok a, s, []⟩
  | .fail e, s => ⟨.err e, s, []⟩
  | .panic, s => ⟨.panicked, s, []⟩
  | .call o k, s =>
      let next := (k (h o s).1).run h (h o s).2
      ⟨next.exit, next.state, ⟨o, (h o s).1⟩ :: next.calls⟩

@[simp] theorem run_done (h : Handler I σ) (a : α) (s : σ) :
    (done a : Proc I ε α).run h s = ⟨.ok a, s, []⟩ := rfl
@[simp] theorem run_fail (h : Handler I σ) (e : ε) (s : σ) :
    (fail e : Proc I ε α).run h s = ⟨.err e, s, []⟩ := rfl
@[simp] theorem run_panic (h : Handler I σ) (s : σ) :
    (panic : Proc I ε α).run h s = ⟨.panicked, s, []⟩ := rfl

theorem run_call (h : Handler I σ) (o : I.Op) (k : I.Reply o → Proc I ε α) (s : σ) :
    (call o k).run h s =
      ⟨((k (h o s).1).run h (h o s).2).exit, ((k (h o s).1).run h (h o s).2).state,
        ⟨o, (h o s).1⟩ :: ((k (h o s).1).run h (h o s).2).calls⟩ := rfl

@[simp] theorem run_perform (h : Handler I σ) (o : I.Op) (s : σ) :
    (perform o : Proc I ε _).run h s = ⟨.ok (h o s).1, (h o s).2, [⟨o, (h o s).1⟩]⟩ := rfl

theorem run_bind (h : Handler I σ) (p : Proc I ε α) (f : α → Proc I ε β) (s : σ) :
    (p >>= f).run h s = (p.run h s).andThen (fun a => (f a).run h) := by
  induction p generalizing s with
  | done a => simp
  | fail e | panic => rfl
  | call o k ih =>
      simp only [call_bind, run_call, ih]
      cases hx : (k (h o s).1).run h (h o s).2 with
      | mk exit state calls => cases exit <;> simp

theorem run_attempt (h : Handler I σ) (p : Proc I ε α) (s : σ) :
    (p.attempt : Proc I δ _).run h s =
      ⟨(p.run h s).exit.attempted, (p.run h s).state, (p.run h s).calls⟩ := by
  induction p generalizing s with
  | done a | fail e | panic => rfl
  | call o k ih => simp only [attempt, run_call, ih]

theorem run_mapErr (h : Handler I σ) (f : ε → δ) (p : Proc I ε α) (s : σ) :
    (p.mapErr f).run h s = ⟨(p.run h s).exit.mapErr f, (p.run h s).state, (p.run h s).calls⟩ := by
  rw [mapErr, run_bind, run_attempt]
  cases hx : p.run h s with
  | mk exit state calls => cases exit <;> simp [Exit.attempted, Exit.mapErr]

end Proc

end AtlasOfUs.Library
