import AtlasOfUs.Library.Program
import Mathlib.Data.List.Forall2
import Mathlib.Data.List.Nodup

namespace AtlasOfUs.Library

variable {I : Signature} {ε δ α β σ : Type}

namespace Proc

/-- The program reports no error and does not panic, whatever it is told. -/
def Infallible : Proc I ε α → Prop
  | .done _ => True
  | .fail _ | .panic => False
  | .call _ k => ∀ r, (k r).Infallible

namespace Infallible

theorem done (a : α) : (Proc.done a : Proc I ε α).Infallible := trivial

theorem perform (o : I.Op) : (Proc.perform o : Proc I ε _).Infallible := fun _ => trivial

theorem bind {p : Proc I ε α} {f : α → Proc I ε β} (hp : p.Infallible)
    (hf : ∀ a, (f a).Infallible) : (p >>= f).Infallible := by
  induction p with
  | done a => exact hf a
  | fail e | panic => exact hp.elim
  | call o k ih => exact fun r => ih r (hp r)

theorem mapM {f : α → Proc I ε β} (hf : ∀ x, (f x).Infallible) (xs : List α) :
    (xs.mapM f).Infallible := by
  induction xs with
  | nil => trivial
  | cons x xs ih =>
      rw [List.mapM_cons]
      exact (hf x).bind (fun _ => ih.bind (fun _ => trivial))

theorem exit_eq {p : Proc I ε α} (hp : p.Infallible) (h : Handler I σ) (s : σ) :
    ∃ a, (p.run h s).exit = .ok a := by
  induction p generalizing s with
  | done a => exact ⟨a, rfl⟩
  | fail e | panic => exact hp.elim
  | call o k ih => exact ih _ (hp _) _

end Infallible

/-- The states a loop passes through, one for each item. -/
def after (h : Handler I σ) (f : α → Proc I ε β) (xs : List α) (s : σ) : σ :=
  xs.foldl (fun s x => ((f x).run h s).state) s

theorem run_mapM {f : α → Proc I ε β} (hf : ∀ x, (f x).Infallible) (h : Handler I σ)
    (xs : List α) (s : σ) : ∃ ys, ((xs.mapM f).run h s).exit = .ok ys ∧
      ((xs.mapM f).run h s).state = after h f xs s ∧ ys.length = xs.length ∧
      ∀ i x y, xs[i]? = some x → ys[i]? = some y →
        ((f x).run h (after h f (xs.take i) s)).exit = .ok y := by
  induction xs generalizing s with
  | nil => exact ⟨[], rfl, rfl, rfl, by simp⟩
  | cons x xs ih =>
      obtain ⟨y, hy⟩ := (hf x).exit_eq h s
      obtain ⟨ys, hexit, hstate, hlen, hget⟩ := ih ((f x).run h s).state
      refine ⟨y :: ys, ?_, ?_, by simp [hlen], ?_⟩
      · rw [List.mapM_cons, run_bind, Execution.exit_andThen hy, run_bind,
          Execution.exit_andThen hexit]
        rfl
      · rw [List.mapM_cons, run_bind, Execution.state_andThen hy, run_bind,
          Execution.state_andThen hexit]
        exact hstate
      · intro i x' y' hx' hy'
        cases i with
        | zero =>
            rw [List.getElem?_cons_zero, Option.some.injEq] at hx' hy'
            subst hx' hy'
            exact hy
        | succ i => exact hget i x' y' hx' hy'

theorem after_take_succ (h : Handler I σ) (f : α → Proc I ε β) {xs : List α} {i : Nat} {x : α}
    (hx : xs[i]? = some x) (s : σ) :
    after h f (xs.take (i + 1)) s = ((f x).run h (after h f (xs.take i) s)).state := by
  rw [after, after, List.take_add_one, hx, Option.toList_some, List.foldl_append]
  rfl

/-- What each round keeps exactly under its condition, a loop keeps exactly if every round meets
its condition where it starts. -/
theorem after_iff (h : Handler I σ) {f : α → Proc I ε β} {P : σ → Prop} {C : α → σ → Prop}
    {xs : List α} (hround : ∀ x ∈ xs, ∀ s, P ((f x).run h s).state ↔ P s ∧ C x s) (s : σ) :
    P (after h f xs s) ↔
      P s ∧ ∀ (i : Nat) x, xs[i]? = some x → C x (after h f (xs.take i) s) := by
  induction xs generalizing s with
  | nil => exact (and_iff_left fun i x hx => by cases hx).symm
  | cons x xs ih =>
      have hrest := ih (fun y hy => hround y (List.mem_cons_of_mem x hy)) ((f x).run h s).state
      refine hrest.trans ((and_congr_left' (hround x List.mem_cons_self s)).trans ?_)
      rw [and_assoc]
      refine and_congr_right fun _ => ?_
      constructor
      · rintro ⟨hx, hxs⟩ i y hy
        cases i with
        | zero =>
            obtain rfl := Option.some.inj hy
            exact hx
        | succ i => exact hxs i y hy
      · exact fun hall => ⟨hall 0 x rfl, fun i y hy => hall (i + 1) y hy⟩

theorem after_rel (h : Handler I σ) {f : α → Proc I ε β} {R : σ → σ → Prop} (hrefl : ∀ s, R s s)
    (htrans : ∀ {s t u}, R s t → R t u → R s u) (hstep : ∀ x s, R s ((f x).run h s).state)
    (xs : List α) (s : σ) {i j : Nat} (hij : i ≤ j) :
    R (after h f (xs.take i) s) (after h f (xs.take j) s) := by
  induction hij with
  | refl => exact hrefl _
  | @step j hij ih =>
      cases hx : xs[j]? with
      | some x =>
          rw [after_take_succ h f hx]
          exact htrans ih (hstep x _)
      | none =>
          rw [List.take_add_one, hx, Option.toList_none, List.append_nil]
          exact ih

theorem mapM_ok_cons {f : α → Proc I ε β} {h : Handler I σ} {x : α} {xs : List α} {ys : List β} {s : σ}
    (hok : (((x :: xs).mapM f).run h s).exit = .ok ys) :
    ∃ y ys', ys = y :: ys' ∧ ((f x).run h s).exit = .ok y ∧
      ((xs.mapM f).run h ((f x).run h s).state).exit = .ok ys' := by
  rw [List.mapM_cons, run_bind] at hok
  obtain ⟨y, hy, hok⟩ := Execution.exit_andThen_eq_ok hok
  rw [run_bind] at hok
  obtain ⟨ys', hys, hok⟩ := Execution.exit_andThen_eq_ok hok
  exact ⟨y, ys', (Exit.ok.inj hok).symm, hy, hys⟩

theorem state_mapM_cons {f : α → Proc I ε β} {h : Handler I σ} {x : α} {y : β} {s : σ}
    (hy : ((f x).run h s).exit = .ok y) (xs : List α) :
    (((x :: xs).mapM f).run h s).state = ((xs.mapM f).run h ((f x).run h s).state).state := by
  rw [List.mapM_cons, run_bind, Execution.state_andThen hy, run_bind]
  cases hys : ((xs.mapM f).run h ((f x).run h s).state).exit with
  | ok ys => rw [Execution.state_andThen hys]; rfl
  | err e => rw [Execution.state_andThen_err hys]
  | panicked => rw [Execution.andThen, hys]

theorem run_mapM_ok {f : α → Proc I ε β} {h : Handler I σ} {xs : List α} {ys : List β} {s : σ}
    (hok : ((xs.mapM f).run h s).exit = .ok ys) :
    ys.length = xs.length ∧ ∀ (k : Nat) x, xs[k]? = some x → ∃ y, ys[k]? = some y ∧
      ((f x).run h (((xs.take k).mapM f).run h s).state).exit = .ok y := by
  induction xs generalizing ys s with
  | nil =>
      obtain rfl := Exit.ok.inj hok
      exact ⟨rfl, fun k x hx => by cases hx⟩
  | cons x xs ih =>
      obtain ⟨y, ys', rfl, hy, hys⟩ := mapM_ok_cons hok
      obtain ⟨hlength, hrounds⟩ := ih hys
      refine ⟨by simp [hlength], fun k x' hx' => ?_⟩
      cases k with
      | zero =>
          obtain rfl := Option.some.inj hx'
          exact ⟨y, rfl, hy⟩
      | succ k =>
          obtain ⟨y', hy', hround⟩ := hrounds k x' hx'
          refine ⟨y', hy', ?_⟩
          rwa [List.take_succ_cons, state_mapM_cons hy]

end Proc

theorem exists_crossing {P : Nat → Prop} {n : Nat} (h0 : ¬ P 0) (hn : P n) :
    ∃ i < n, ¬ P i ∧ P (i + 1) := by
  induction n with
  | zero => exact absurd hn h0
  | succ n ih =>
      by_cases h : P n
      · obtain ⟨i, hi, hcross⟩ := ih h
        exact ⟨i, Nat.lt_succ_of_lt hi, hcross⟩
      · exact ⟨n, n.lt_succ_self, h, hn⟩

/-- Where the `i`-th of the values that are there comes from: from position `i`
exactly if nothing is missing up to there, else from later on. -/
theorem filterMap_id_getElem? {xs : List (Option α)} {i : Nat} {a : α}
    (h : (xs.filterMap id)[i]? = some a) : ∃ f, i ≤ f ∧ xs[f]? = some (some a) ∧
      (f = i ↔ ∀ j ≤ i, ∃ b, xs[j]? = some (some b)) := by
  induction xs generalizing i with
  | nil => simp at h
  | cons x xs ih =>
      cases x with
      | none =>
          obtain ⟨f, hf, hget, -⟩ := ih h
          refine ⟨f + 1, by omega, hget, ?_⟩
          refine iff_of_false (by omega) (fun hall => ?_)
          obtain ⟨b, hb⟩ := hall 0 (Nat.zero_le _)
          simp at hb
      | some b =>
          cases i with
          | zero =>
              refine ⟨0, Nat.le_refl 0, by simpa using h, ?_⟩
              exact iff_of_true rfl (fun j hj => ⟨b, by simp [Nat.le_zero.1 hj]⟩)
          | succ i =>
              obtain ⟨f, hf, hget, hiff⟩ := ih h
              refine ⟨f + 1, by omega, hget, ?_⟩
              rw [Nat.add_right_cancel_iff, hiff]
              constructor
              · intro hall j hj
                cases j with
                | zero => exact ⟨b, rfl⟩
                | succ j => exact hall j (by omega)
              · exact fun hall j hj => hall (j + 1) (by omega)

theorem mapM_eq_some {f : α → Option β} {xs : List α} {ys : List β} :
    xs.mapM f = some ys ↔ List.Forall₂ (fun x y => f x = some y) xs ys := by
  induction xs generalizing ys with
  | nil => cases ys <;> simp
  | cons x xs ih =>
      rw [List.mapM_cons]
      constructor
      · intro h
        obtain ⟨y, hy, h⟩ := Option.bind_eq_some_iff.1 h
        obtain ⟨zs, hzs, h⟩ := Option.bind_eq_some_iff.1 h
        obtain rfl := Option.some.inj h
        exact .cons hy (ih.1 hzs)
      · rintro (_ | ⟨hy, hys⟩)
        simp [hy, ih.2 hys]

theorem Exit.mapM_eq_ok {f : α → Exit ε β} {xs : List α} {ys : List β} :
    xs.mapM f = .ok ys ↔ List.Forall₂ (fun x y => f x = .ok y) xs ys := by
  induction xs generalizing ys with
  | nil => cases ys <;> simp
  | cons x xs ih =>
      rw [List.mapM_cons]
      cases hx : f x with
      | ok y =>
          cases hxs : xs.mapM f with
          | ok zs => cases ys <;> simp [← ih, hx, hxs]
          | err e | panicked => cases ys <;> simp [← ih, hxs]
      | err e | panicked => cases ys <;> simp [hx]

theorem length_filterMap_le_of_forall₂ {f : α → Option β} {xs : List α} {rs : List (Option β)}
    (h : List.Forall₂ (fun x r => (f x).isSome → r.isSome) xs rs) :
    (xs.filterMap f).length ≤ (rs.filterMap id).length := by
  induction h with
  | nil => simp
  | @cons x r _ _ hr _ ih =>
      cases hf : f x with
      | none =>
          rw [List.filterMap_cons_none hf]
          cases r with
          | none => exact ih
          | some b => exact Nat.le_succ_of_le ih
      | some a =>
          obtain ⟨b, rfl⟩ := Option.isSome_iff_exists.1 (hr (by simp [hf]))
          rw [List.filterMap_cons_some hf]
          exact Nat.succ_le_succ ih

/-- Where a result is there whenever it should be, the results that are there
are those that should be only if each one is as it should be. -/
theorem filterMap_id_eq_iff {f : α → Option β} {S : α → Prop} {xs : List α} {rs : List (Option β)}
    (h : List.Forall₂ (fun x r => ((f x).isSome → r.isSome) ∧ (r = f x ↔ S x)) xs rs) :
    rs.filterMap id = xs.filterMap f ↔ ∀ x ∈ xs, S x := by
  induction h with
  | nil => simp
  | @cons x r xs rs hr hrs ih =>
      have hle := length_filterMap_le_of_forall₂ (hrs.imp (fun _ _ h => h.1))
      rw [List.forall_mem_cons, ← hr.2, ← ih]
      cases hf : f x with
      | none =>
          cases r with
          | none => simp [hf]
          | some b =>
              have hkept : (some b :: rs).filterMap id = b :: rs.filterMap id := rfl
              rw [hkept, List.filterMap_cons_none hf]
              refine iff_of_false (fun heq => ?_) (by simp)
              have := congrArg List.length heq
              rw [List.length_cons] at this
              omega
      | some a =>
          obtain ⟨b, rfl⟩ := Option.isSome_iff_exists.1 (hr.1 (by simp [hf]))
          have hkept : (some b :: rs).filterMap id = b :: rs.filterMap id := rfl
          rw [hkept, List.filterMap_cons_some hf, List.cons.injEq, Option.some.injEq]

theorem exists_getElem?_of_forall₂ {R : α → β → Prop} {xs : List α} {ys : List β}
    (h : List.Forall₂ R xs ys) {i : Nat} {y : β} (hy : ys[i]? = some y) :
    ∃ x, xs[i]? = some x ∧ R x y := by
  induction h generalizing i with
  | nil => cases hy
  | @cons x _ _ _ hxy _ ih =>
      cases i with
      | zero =>
          obtain rfl := Option.some.inj hy
          exact ⟨x, rfl, hxy⟩
      | succ i => exact ih hy

theorem exists_mem_of_forall₂ {R : α → β → Prop} {xs : List α} {ys : List β}
    (h : List.Forall₂ R xs ys) {y : β} (hy : y ∈ ys) : ∃ x ∈ xs, R x y := by
  obtain ⟨i, hi⟩ := List.mem_iff_getElem?.1 hy
  obtain ⟨x, hx, hxy⟩ := exists_getElem?_of_forall₂ h hi
  exact ⟨x, List.mem_of_getElem? hx, hxy⟩

theorem map_eq_map_of_forall₂ {γ : Type} {R : α → β → Prop} {f : α → γ} {g : β → γ} {xs : List α}
    {ys : List β} (h : List.Forall₂ R xs ys) (hfg : ∀ x y, R x y → g y = f x) : ys.map g = xs.map f := by
  induction h with
  | nil => rfl
  | cons hxy _ ih => rw [List.map_cons, List.map_cons, hfg _ _ hxy, ih]

theorem zipWith_eq_of_forall₂ {γ : Type} {R : α → β → Prop} {f : γ → β → δ} {g : γ → α → δ}
    {xs : List α} {ys : List β} (h : List.Forall₂ R xs ys)
    (hfg : ∀ x ∈ xs, ∀ y, R x y → ∀ c, f c y = g c x) (cs : List γ) :
    List.zipWith f cs ys = List.zipWith g cs xs := by
  induction h generalizing cs with
  | nil => rw [List.zipWith_nil_right, List.zipWith_nil_right]
  | cons hxy _ ih =>
      cases cs with
      | nil => rfl
      | cons c cs =>
          rw [List.forall_mem_cons] at hfg
          rw [List.zipWith_cons_cons, List.zipWith_cons_cons, hfg.1 _ hxy c, ih hfg.2]

theorem exists_forall₂ {R : α → β → Prop} {xs : List α} (h : ∀ x ∈ xs, ∃ y, R x y) :
    ∃ ys, List.Forall₂ R xs ys := by
  induction xs with
  | nil => exact ⟨[], .nil⟩
  | cons x xs ih =>
      obtain ⟨y, hy⟩ := h x List.mem_cons_self
      obtain ⟨ys, hys⟩ := ih (fun x hx => h x (List.mem_cons_of_mem _ hx))
      exact ⟨y :: ys, .cons hy hys⟩

theorem forall₂_mapM_state {τ : Type} (f : α → StateM τ β) (xs : List α) (t : τ) :
    List.Forall₂ (fun x y => ∃ t, (f x t).1 = y) xs ((xs.mapM f) t).1 := by
  induction xs generalizing t with
  | nil => exact .nil
  | cons x xs ih =>
      rw [List.mapM_cons]
      exact .cons ⟨t, rfl⟩ (ih (f x t).2)

theorem filter_flatten_zipWith {γ : Type} [DecidableEq α] {f : α → β → List γ} {key : γ → α}
    (hkey : ∀ a b, ∀ c ∈ f a b, key c = a) {as : List α} {bs : List β} (hnodup : as.Nodup) {i : Nat}
    {a : α} {b : β} (ha : as[i]? = some a) (hb : bs[i]? = some b) :
    (List.zipWith f as bs).flatten.filter (fun c => key c = a) = f a b := by
  induction as generalizing bs i with
  | nil => cases ha
  | cons x xs ih =>
      rw [List.nodup_cons] at hnodup
      cases bs with
      | nil => cases hb
      | cons y ys =>
          rw [List.zipWith_cons_cons, List.flatten_cons, List.filter_append]
          cases i with
          | zero =>
              obtain rfl : x = a := Option.some.inj ha
              obtain rfl : y = b := Option.some.inj hb
              have hown : (f x y).filter (fun c => key c = x) = f x y :=
                List.filter_eq_self.2 (fun c hc => by simpa using hkey x y c hc)
              have hrest : (List.zipWith f xs ys).flatten.filter (fun c => key c = x) = [] := by
                refine List.filter_eq_nil_iff.2 (fun c hc => ?_)
                obtain ⟨block, hblock, hc⟩ := List.mem_flatten.1 hc
                obtain ⟨j, hj, rfl⟩ := List.mem_iff_getElem.1 hblock
                rw [List.getElem_zipWith] at hc
                rw [decide_eq_true_eq, hkey _ _ c hc]
                rintro rfl
                exact hnodup.1 (List.getElem_mem _)
              rw [hown, hrest, List.append_nil]
          | succ i =>
              have hother : (f x y).filter (fun c => key c = a) = [] := by
                refine List.filter_eq_nil_iff.2 (fun c hc => ?_)
                rw [decide_eq_true_eq, hkey x y c hc]
                rintro rfl
                exact hnodup.1 (List.mem_of_getElem? ha)
              rw [hother, List.nil_append]
              exact ih hnodup.2 ha hb

section Writes

def modifyAll (writes : List (Nat × (α → α))) (xs : List α) : List α :=
  writes.foldl (fun xs write => xs.modify write.1 write.2) xs

variable {writes : List (Nat × (α → α))} {i : Nat}

theorem length_modifyAll (xs : List α) : (modifyAll writes xs).length = xs.length := by
  induction writes generalizing xs with
  | nil => rfl
  | cons write writes ih =>
      rw [modifyAll, List.foldl_cons, ← modifyAll, ih, List.length_modify]

theorem getElem?_modifyAll_of_notMem (h : i ∉ writes.map Prod.fst) (xs : List α) :
    (modifyAll writes xs)[i]? = xs[i]? := by
  induction writes generalizing xs with
  | nil => rfl
  | cons write writes ih =>
      rw [List.map_cons, List.mem_cons, not_or] at h
      rw [modifyAll, List.foldl_cons, ← modifyAll, ih h.2,
        List.getElem?_modify_ne write.2 xs (Ne.symm h.1)]

theorem getElem?_modifyAll_of_mem (hnodup : (writes.map Prod.fst).Nodup) {f : α → α}
    (h : (i, f) ∈ writes) (xs : List α) : (modifyAll writes xs)[i]? = xs[i]?.map f := by
  induction writes generalizing xs with
  | nil => cases h
  | cons write writes ih =>
      rw [List.map_cons, List.nodup_cons] at hnodup
      rw [modifyAll, List.foldl_cons, ← modifyAll]
      rcases List.mem_cons.1 h with rfl | h
      · rw [getElem?_modifyAll_of_notMem hnodup.1, List.getElem?_modify_eq]
        rfl
      · have hne : write.1 ≠ i := fun heq => hnodup.1 (heq ▸ List.mem_map_of_mem h)
        rw [ih hnodup.2 h, List.getElem?_modify_ne write.2 xs hne]

theorem map_modifyAll {β : Type} {g : α → β} (h : ∀ write ∈ writes, ∀ x, g (write.2 x) = g x)
    (xs : List α) : (modifyAll writes xs).map g = xs.map g := by
  induction writes generalizing xs with
  | nil => rfl
  | cons write writes ih =>
      rw [modifyAll, List.foldl_cons, ← modifyAll,
        ih fun write' hwrite => h write' (List.mem_cons_of_mem _ hwrite)]
      apply List.ext_getElem?
      intro j
      rw [List.getElem?_map, List.getElem?_map]
      by_cases hj : write.1 = j
      · subst hj
        rw [List.getElem?_modify_eq]
        cases xs[write.1]? with
        | none => rfl
        | some x => exact congrArg some (h write List.mem_cons_self x)
      · rw [List.getElem?_modify_ne write.2 xs hj]

end Writes

end AtlasOfUs.Library
