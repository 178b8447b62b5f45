import AtlasOfUs.Library.Tally

namespace AtlasOfUs.Library

variable {I : Signature} {ε α κ σ : Type} {f : Call I → Option κ} {settles : Call I → Prop}
  {booked booked' pending pending' : List κ} {calls : List (Call I)} {call : Call I}
  {s : σ × List (Call I)}

def Outstanding (f : Call I → Option κ) (settles : Call I → Prop) (calls : List (Call I)) : Prop :=
  ∃ before call after, calls = before ++ call :: after ∧ (f call).isSome ∧
    ∀ later ∈ after, ¬ settles later

theorem Outstanding.snoc (h : Outstanding f settles calls) (hcall : ¬ settles call) :
    Outstanding f settles (calls ++ [call]) := by
  obtain ⟨before, yielding, after, rfl, hyields, hafter⟩ := h
  refine ⟨before, yielding, after ++ [call], by rw [List.append_assoc, List.cons_append], hyields, ?_⟩
  intro later hlater
  rcases List.mem_append.1 hlater with hlater | hlater
  · exact hafter later hlater
  · rwa [List.mem_singleton.1 hlater]

theorem outstanding_last (hyields : (f call).isSome) : Outstanding f settles (calls ++ [call]) :=
  ⟨calls, call, [], rfl, hyields, fun _ hlater => absurd hlater List.not_mem_nil⟩

/-- Nothing is outstanding once every yield has been followed by a call that settles it. -/
theorem not_outstanding_iff : ¬ Outstanding f settles calls ↔
    ∀ before call after, calls = before ++ call :: after → (f call).isSome →
      ∃ later ∈ after, settles later := by
  simp only [Outstanding, not_exists, not_and, not_forall, not_not, exists_prop]

theorem not_outstanding_of_settled {before after : List (Call I)} (hsettles : settles call)
    (hnone : ∀ c ∈ call :: after, f c = none) : ¬ Outstanding f settles (before ++ call :: after) := by
  rintro ⟨front, yielding, back, hsplit, hyields, hback⟩
  have hfront : ∀ c ∈ call :: after, c ≠ yielding := by
    rintro c hc rfl
    rw [hnone c hc] at hyields
    cases hyields
  rcases List.append_eq_append_iff.1 hsplit with ⟨middle, -, hmiddle⟩ | ⟨middle, -, hmiddle⟩
  · apply hfront yielding _ rfl
    rw [hmiddle]
    exact List.mem_append_right middle List.mem_cons_self
  · cases middle with
    | nil =>
        obtain ⟨rfl, -⟩ := List.cons.inj hmiddle
        exact hfront yielding List.mem_cons_self rfl
    | cons first middle =>
        obtain ⟨rfl, rfl⟩ := List.cons.inj hmiddle
        exact hback call (List.mem_append_right middle List.mem_cons_self) hsettles

/-- What the calls came to is booked or still pending, and while something is
pending something is outstanding. -/
structure Posted (f : Call I → Option κ) (settles : Call I → Prop) (booked pending : List κ)
    (s : σ × List (Call I)) : Prop where
  tallied : Tallied f (booked ++ pending) s
  outstanding : pending ≠ [] → Outstanding f settles s.2

namespace Posted

theorem of_tallied (h : Tallied f booked s) : Posted f settles booked [] s where
  tallied := by rwa [List.append_nil]
  outstanding hne := absurd rfl hne

theorem regroup (h : Posted f settles booked pending s)
    (hperm : (booked ++ pending).Perm (booked' ++ pending'))
    (hpending : pending' ≠ [] → pending ≠ []) : Posted f settles booked' pending' s where
  tallied := h.tallied.perm hperm
  outstanding hne := h.outstanding (hpending hne)

theorem snoc (h : Posted f settles booked pending s) (hnone : f call = none)
    (hcall : ¬ settles call) (x : σ) : Posted f settles booked pending (x, s.2 ++ [call]) where
  tallied := h.tallied.snoc hnone x
  outstanding hne := (h.outstanding hne).snoc hcall

theorem prepend {x : σ} {before : List (Call I)} (h : Posted f settles booked pending (x, calls))
    (hbefore : before.filterMap f = []) :
    Posted f settles booked pending (x, before ++ calls) where
  tallied := by
    rw [Tallied, List.filterMap_append, hbefore, List.nil_append]
    exact h.tallied
  outstanding hne := by
    obtain ⟨front, yielding, back, hsplit, hyields, hback⟩ := h.outstanding hne
    have hcalls : calls = front ++ yielding :: back := hsplit
    exact ⟨before ++ front, yielding, back, by rw [hcalls, List.append_assoc], hyields, hback⟩

theorem settled_nil (h : Posted f settles booked [] s) : Tallied f booked s := by
  have htallied := h.tallied
  rwa [List.append_nil] at htallied

theorem settled (h : Posted f settles booked pending s) (hsettled : ¬ Outstanding f settles s.2) :
    Tallied f booked s := by
  by_cases hpending : pending = []
  · rw [hpending] at h
    exact h.settled_nil
  · exact absurd (h.outstanding hpending) hsettled

end Posted

namespace Triple

variable {h : Handler I σ}

theorem posted_plain {p : Proc I ε α} (hp : Calls (fun o => ∀ reply, f ⟨o, reply⟩ = none) p) :
    Triple (recording h) (Posted f settles booked []) p (fun _ => Posted f settles booked [])
      (fun _ => Posted f settles booked []) := by
  apply (tally_quiet hp).conseq
  · exact fun s hs => hs.settled_nil
  · exact fun _ _ hs => Posted.of_tallied hs
  · exact fun _ _ hs => Posted.of_tallied hs

theorem posted_idle {p : Proc I ε α}
    (hp : Calls (fun o => ∀ reply, f ⟨o, reply⟩ = none ∧ ¬ settles ⟨o, reply⟩) p) :
    Triple (recording h) (Posted f settles booked pending) p
      (fun _ => Posted f settles booked pending) (fun _ => Posted f settles booked pending) := by
  apply hp.triple
  exact fun o s ho hs => hs.snoc (ho _).1 (ho _).2 _

theorem posted_perform {o : I.Op} {E : ε → σ × List (Call I) → Prop}
    (ho : ∀ reply, ¬ settles ⟨o, reply⟩) :
    Triple (recording h) (Posted f settles booked pending)
      (Proc.perform o : Proc I ε (I.Reply o))
      (fun reply => Posted f settles booked (pending ++ (f ⟨o, reply⟩).toList)) E := by
  apply Triple.perform
  intro s hs
  constructor
  · rw [Tallied, filterMap_record, ← List.append_assoc]
    exact List.Perm.append_right _ hs.tallied
  · intro hne
    have hne : pending ++ (f ⟨o, (h o s.1).1⟩).toList ≠ [] := hne
    cases hyield : f ⟨o, (h o s.1).1⟩ with
    | some k => exact outstanding_last (by rw [hyield]; rfl)
    | none =>
        rw [hyield, Option.toList_none, List.append_nil] at hne
        exact (hs.outstanding hne).snoc (ho _)

end Triple

end AtlasOfUs.Library
