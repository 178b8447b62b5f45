import AtlasOfUs.Library.Calls
import Mathlib.Data.List.Perm.Basic

namespace AtlasOfUs.Library

section Recording

variable {I : Signature} {ε α σ : Type} {h : Handler I σ}

def recording (h : Handler I σ) : Handler I (σ × List (Call I)) := fun o s =>
  ((h o s.1).1, (h o s.1).2, s.2 ++ [⟨o, (h o s.1).1⟩])

theorem run_recording (h : Handler I σ) (p : Proc I ε α) (s : σ × List (Call I)) :
    (p.run (recording h) s).exit = (p.run h s.1).exit ∧
      (p.run (recording h) s).state = ((p.run h s.1).state, s.2 ++ (p.run h s.1).calls) := by
  induction p generalizing s with
  | done a | fail e | panic => exact ⟨rfl, by rw [Proc.run]; simp⟩
  | call o k ih =>
      obtain ⟨hexit, hstate⟩ := ih (h o s.1).1 (recording h o s).2
      refine ⟨hexit, hstate.trans ?_⟩
      rw [Proc.run_call, recording, List.append_assoc]
      rfl

namespace Triple

variable {P : σ × List (Call I) → Prop} {Q : α → σ × List (Call I) → Prop}
  {E : ε → σ × List (Call I) → Prop} {p : Proc I ε α}

theorem recorded {P : σ → Prop} {Q : α → σ → Prop} {E : ε → σ → Prop} (hp : Triple h P p Q E) :
    Triple (recording h) (fun s => P s.1) p (fun a s => Q a s.1) (fun e s => E e s.1) where
  value s a hs ha := by
    obtain ⟨hexit, hstate⟩ := run_recording h p s
    rw [hstate]
    exact hp.value s.1 a hs (hexit.symm.trans ha)
  error s e hs he := by
    obtain ⟨hexit, hstate⟩ := run_recording h p s
    rw [hstate]
    exact hp.error s.1 e hs (hexit.symm.trans he)

theorem recorded_value (hp : Triple (recording h) P p Q E) {s : σ} {a : α} (hs : P (s, []))
    (ha : (p.run h s).exit = .ok a) : Q a ((p.run h s).state, (p.run h s).calls) := by
  obtain ⟨hexit, hstate⟩ := run_recording h p (s, [])
  have hq := hp.value (s, []) a hs (hexit.trans ha)
  rwa [hstate] at hq

theorem recorded_error (hp : Triple (recording h) P p Q E) {s : σ} {e : ε} (hs : P (s, []))
    (he : (p.run h s).exit = .err e) : E e ((p.run h s).state, (p.run h s).calls) := by
  obtain ⟨hexit, hstate⟩ := run_recording h p (s, [])
  have hq := hp.error (s, []) e hs (hexit.trans he)
  rwa [hstate] at hq

end Triple

end Recording

section Tally

variable {I : Signature} {ε α β κ σ : Type} {f : Call I → Option κ} {ks ks' : List κ}
  {s : σ × List (Call I)}

theorem filterMap_cons_eq (g : α → Option κ) (x : α) (xs : List α) :
    (x :: xs).filterMap g = (g x).toList ++ xs.filterMap g := by
  cases hx : g x with
  | none => rw [List.filterMap_cons_none hx, Option.toList_none, List.nil_append]
  | some k => rw [List.filterMap_cons_some hx, Option.toList_some, List.singleton_append]

theorem filterMap_snoc (g : α → Option κ) (xs : List α) (x : α) :
    (xs ++ [x]).filterMap g = xs.filterMap g ++ (g x).toList := by
  rw [List.filterMap_append, filterMap_cons_eq, List.filterMap_nil, List.append_nil]

theorem filterMap_modify (g : α → Option κ) (f : α → α) {xs : List α} {i : Nat}
    (hf : ∀ x, xs[i]? = some x → g (f x) = g x) : (xs.modify i f).filterMap g = xs.filterMap g := by
  induction xs generalizing i with
  | nil => cases i <;> rfl
  | cons x xs ih =>
      cases i with
      | zero =>
          rw [List.modify_zero_cons, filterMap_cons_eq, filterMap_cons_eq, hf x rfl]
      | succ i =>
          rw [List.modify_succ_cons, filterMap_cons_eq, filterMap_cons_eq, ih hf]

theorem perm_swap_last (xs ys zs : List κ) : (xs ++ ys ++ zs).Perm (xs ++ zs ++ ys) := by
  rw [List.append_assoc, List.append_assoc]
  exact List.Perm.append_left xs List.perm_append_comm

def Tallied (f : Call I → Option κ) (ks : List κ) (s : σ × List (Call I)) : Prop :=
  (s.2.filterMap f).Perm ks

theorem tallied_nil (s : σ) : Tallied f [] ((s, []) : σ × List (Call I)) := List.Perm.refl []

theorem Tallied.perm (hs : Tallied f ks s) (hks : ks.Perm ks') : Tallied f ks' s := hs.trans hks

theorem Tallied.snoc (hs : Tallied f ks s) {call : Call I} (hcall : f call = none) (x : σ) :
    Tallied f ks (x, s.2 ++ [call]) := by
  rw [Tallied, filterMap_snoc, hcall, Option.toList_none, List.append_nil]
  exact hs

namespace Triple

variable {h : Handler I σ}

theorem filterMap_record (o : I.Op) (s : σ × List (Call I)) :
    (recording h o s).2.2.filterMap f = s.2.filterMap f ++ (f ⟨o, (h o s.1).1⟩).toList := by
  have hrecord : (recording h o s).2.2 = s.2 ++ [⟨o, (h o s.1).1⟩] := rfl
  rw [hrecord, filterMap_snoc]

theorem tally_perform (o : I.Op) {E : ε → σ × List (Call I) → Prop} :
    Triple (recording h) (Tallied f ks) (Proc.perform o : Proc I ε (I.Reply o))
      (fun reply => Tallied f (ks ++ (f ⟨o, reply⟩).toList)) E := by
  apply Triple.perform
  intro s hs
  rw [Tallied, filterMap_record]
  exact List.Perm.append_right _ hs

theorem tally_quiet {p : Proc I ε α} (hp : Calls (fun o => ∀ reply, f ⟨o, reply⟩ = none) p) :
    Triple (recording h) (Tallied f ks) p (fun _ => Tallied f ks) (fun _ => Tallied f ks) := by
  apply hp.triple
  exact fun o s ho hs => hs.snoc (ho _) _

end Triple

end Tally

end AtlasOfUs.Library
