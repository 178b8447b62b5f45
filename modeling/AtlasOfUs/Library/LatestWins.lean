import AtlasOfUs.Library.Requests

namespace AtlasOfUs.Library

variable {σ ε ρ α β γ : Type}

/-- A client that shows a value. Some inputs set it to a value of the client's own and every response
sets it to its content. What the client does otherwise is up to a part of its state that responses
leave alone. -/
structure Displays (client : Client σ ε ρ α) (shown : σ → β) (own : β) (content : α → β) (part : σ → γ)
    (resets : ε → γ → Bool) : Prop where
  shown_of_resets : ∀ e s, resets e (part s) = true → shown (client.handle e s).1 = own
  shown_of_not_resets : ∀ e s, resets e (part s) = false → shown (client.handle e s).1 = shown s
  shown_receive : ∀ r a s, shown (client.receive r a s) = content a
  handle_part : ∀ e s s', part s = part s' →
    part (client.handle e s).1 = part (client.handle e s').1 ∧
      (client.handle e s).2 = (client.handle e s').2
  receive_part : ∀ r a s, part (client.receive r a s) = part s

section Latest

variable (client : Client σ ε ρ α) (respond : Nat → α) (part : σ → γ) (resets : ε → γ → Bool)

/-- What set the shown value last, of what came before and this happening: the response with this
number, or the client itself. -/
def setter (happening : Happening ε) (t : Traffic σ ρ) (before : Option Nat) : Option Nat :=
  match happening with
  | .input e => if resets e (part t.state) then none else before
  | .arrival k => if k < t.sent.length ∧ k ∉ t.answered then some k else before

def latest : List (Happening ε) → Traffic σ ρ → Option Nat → Option Nat
  | [], _, before => before
  | happening :: rest, t, before =>
      latest rest (client.step respond happening t) (setter part resets happening t before)

end Latest

def valueOf (respond : Nat → α) (own : β) (content : α → β) : Option Nat → β
  | none => own
  | some k => content (respond k)

/-- The value is the client's own where nothing is to be asked, else the content of a response to
the request. -/
def Answers (respond : Nat → α) (own : β) (content : α → β) (sent : List ρ) (value : β)
    (wanted : Option ρ) : Prop :=
  (wanted = none → value = own) ∧
    ∀ r, wanted = some r → ∃ k, sent[k]? = some r ∧ value = content (respond k)

/-- The setter is the client itself where nothing is to be asked, else a response to the request. -/
def SetFor (sent : List ρ) (last : Option Nat) (wanted : Option ρ) : Prop :=
  (wanted = none → last = none) ∧ ∀ r, wanted = some r → ∃ k, sent[k]? = some r ∧ last = some k

section Setters

variable {client : Client σ ε ρ α} {respond : Nat → α} {part : σ → γ} {resets : ε → γ → Bool}
  {t : Traffic σ ρ} {k : Nat}

theorem setter_arrival {r : ρ} (h : t.Awaits k r) (before : Option Nat) :
    setter part resets (.arrival k) t before = some k :=
  if_pos ⟨(List.getElem?_eq_some_iff.1 h.1).1, h.2⟩

theorem setter_arrival_of_not (h : ∀ r, ¬ t.Awaits k r) (before : Option Nat) :
    setter part resets (.arrival k) t before = before := by
  apply if_neg
  rintro ⟨hlt, hnot⟩
  exact h t.sent[k] ⟨List.getElem?_eq_getElem hlt, hnot⟩

theorem latest_agree {shown : σ → β} {own : β} {content : α → β}
    (hclient : Displays client shown own content part resets) (respond respond' : Nat → α)
    {happenings : List (Happening ε)} {t' : Traffic σ ρ} (hpart : part t.state = part t'.state)
    (hsent : t.sent = t'.sent) (hanswered : t.answered = t'.answered) (before : Option Nat) :
    latest client respond part resets happenings t before =
      latest client respond' part resets happenings t' before := by
  induction happenings generalizing t t' before with
  | nil => rfl
  | cons happening rest ih =>
      have hsame : setter part resets happening t before = setter part resets happening t' before := by
        cases happening with
        | input e => rw [setter, setter, hpart]
        | arrival k => rw [setter, setter, hsent, hanswered]
      obtain ⟨hpart', hsent', hanswered'⟩ := Client.run_agree hclient.handle_part hclient.receive_part
        respond respond' [happening] hpart hsent hanswered
      rw [latest, latest, hsame]
      exact ih hpart' hsent' hanswered' _

theorem shown_run {shown : σ → β} {own : β} {content : α → β}
    (hclient : Displays client shown own content part resets) {happenings : List (Happening ε)}
    {before : Option Nat} (h : shown t.state = valueOf respond own content before) :
    shown (client.run respond happenings t).state =
      valueOf respond own content (latest client respond part resets happenings t before) := by
  induction happenings generalizing t before with
  | nil => exact h
  | cons happening rest ih =>
      have hstep : shown (client.step respond happening t).state =
          valueOf respond own content (setter part resets happening t before) := by
        cases happening with
        | input e =>
            cases hresets : resets e (part t.state) with
            | true =>
                rw [setter, hresets]
                exact hclient.shown_of_resets e t.state hresets
            | false =>
                rw [setter, hresets]
                exact (hclient.shown_of_not_resets e t.state hresets).trans h
        | arrival k =>
            by_cases hawaits : ∃ r, t.Awaits k r
            · obtain ⟨r, hr⟩ := hawaits
              rw [Client.step_arrival hr, setter_arrival hr]
              exact hclient.shown_receive r (respond k) t.state
            · have hnone : ∀ r, ¬ t.Awaits k r := fun r hr => hawaits ⟨r, hr⟩
              rwa [Client.step_arrival_of_not hnone, setter_arrival_of_not hnone]
      exact ih hstep

end Setters

/-- The value that a setter leaves answers the request, whatever the responses hold, just if the
setter is one for it. -/
theorem answers_iff_setFor (own : β) (content : α → β) {x y : α} (hx : content x = own)
    (hy : content y ≠ own) (sent : List ρ) (last : Option Nat) (wanted : Option ρ) :
    (∀ respond, Answers respond own content sent (valueOf respond own content last) wanted) ↔
      SetFor sent last wanted := by
  constructor
  · intro hall
    cases last with
    | none =>
        refine ⟨fun _ => rfl, fun r hr => ?_⟩
        obtain ⟨k, -, hk⟩ := (hall (fun _ => y)).2 r hr
        exact absurd hk.symm hy
    | some j =>
        refine ⟨fun hnone => absurd ((hall (fun _ => y)).1 hnone) hy, fun r hr => ?_⟩
        obtain ⟨k, hsent, hk⟩ := (hall (fun i => if i = j then y else x)).2 r hr
        by_cases hkj : k = j
        · subst hkj
          exact ⟨k, hsent, rfl⟩
        · have hvalue : content y = own := by
            simpa only [valueOf, if_pos, if_neg hkj, hx] using hk
          exact absurd hvalue hy
  · rintro ⟨hnone, hsome⟩ respond
    constructor
    · intro hwanted
      rw [hnone hwanted]
      rfl
    · intro r hr
      obtain ⟨k, hsent, hlast⟩ := hsome r hr
      rw [hlast]
      exact ⟨k, hsent, rfl⟩

end AtlasOfUs.Library
