import AtlasOfUs.Editor.NodeSearchPanel

namespace AtlasOfUs.Editor

open Library
open GraphApi (NodeType)

structure NameCheck where
  creator : DomainCreator
  originalDomainName : String
  isDomainAvailable : Bool

namespace NameCheck

def SkipsValidation (cases : CaseMapping) (s : NameCheck) (name : String) : Prop :=
  s.creator.isEditMode = true ∧ capitalizeFirstLetter cases name = s.originalDomainName

instance (cases : CaseMapping) (s : NameCheck) (name : String) :
    Decidable (s.SkipsValidation cases name) :=
  inferInstanceAs (Decidable (_ ∧ _))

def rename (name : String) (s : NameCheck) : NameCheck :=
  { s with creator := { s.creator with domain := { s.creator.domain with name := name } } }

/-- `handleDomainNameChange` up to its request, which has the name to validate. -/
def handleDomainNameChange (cases : CaseMapping) (name : String) (s : NameCheck) :
    NameCheck × Option String :=
  if s.SkipsValidation cases name then ({ s.rename name with isDomainAvailable := true }, none)
  else (s.rename name, some (capitalizeFirstLetter cases name))

def receive (validation : Option Bool) (s : NameCheck) : NameCheck :=
  { s with isDomainAvailable := validation.getD false }

def client (cases : CaseMapping) : Client NameCheck String String (Option Bool) where
  handle := handleDomainNameChange cases
  receive := fun _ validation s => receive validation s

/-- The creator once the domain to edit, if any, is loaded. -/
def opened (creator : DomainCreator) (originalDomainName : String) : NameCheck :=
  ⟨creator, originalDomainName, true⟩

variable (cases : CaseMapping) (creator : DomainCreator) (originalDomainName : String)
  (happenings : List (Happening String))

def session (respond : Nat → Option Bool) : Traffic NameCheck String :=
  (client cases).run respond happenings ⟨opened creator originalDomainName, [], []⟩

def lastTyped : List (Happening String) → Option String
  | [] => none
  | .input name :: rest => some ((lastTyped rest).getD name)
  | .arrival _ :: rest => lastTyped rest

def wanted (s : NameCheck) (name : String) : Option String :=
  if s.SkipsValidation cases name then none else some (capitalizeFirstLetter cases name)

def mode (s : NameCheck) : Bool × String := (s.creator.isEditMode, s.originalDomainName)

def skips (name : String) (mode : Bool × String) : Bool :=
  mode.1 && capitalizeFirstLetter cases name = mode.2

/-- What set the flag last in a session: the response with this number, or the creator, for which
its own name is available. The responses' contents play no part in it. -/
def lastSetter : Option Nat :=
  latest (client cases) (fun _ => none) mode (skips cases) happenings
    ⟨opened creator originalDomainName, [], []⟩ none

/-- Whatever the server answers, once all responses are there the flag answers for the name that
was typed last. -/
def ShowsLatest : Prop :=
  ∀ respond name, lastTyped happenings = some name →
    (session cases creator originalDomainName happenings respond).Answered →
      Answers respond true (fun validation => validation.getD false)
        (session cases creator originalDomainName happenings respond).sent
        (session cases creator originalDomainName happenings respond).state.isDomainAvailable
        (wanted cases (opened creator originalDomainName) name)

/-- Once all responses are there, the flag was last set by a response for the name that was typed
last, or by the creator if that is the domain's own. -/
def LatestSetsFlag : Prop :=
  ∀ name, lastTyped happenings = some name →
    (session cases creator originalDomainName happenings (fun _ => none)).Answered →
      SetFor (session cases creator originalDomainName happenings (fun _ => none)).sent
        (lastSetter cases creator originalDomainName happenings)
        (wanted cases (opened creator originalDomainName) name)

section Sessions

variable {cases creator originalDomainName happenings}

theorem skips_mode (name : String) (s : NameCheck) :
    skips cases name (mode s) = decide (s.SkipsValidation cases name) := by
  rw [Bool.eq_iff_iff, decide_eq_true_iff, skips, Bool.and_eq_true, decide_eq_true_iff]
  rfl

/-- The creator shows a flag that it sets at times and that every response replaces. -/
theorem displays :
    Displays (client cases) NameCheck.isDomainAvailable true (fun validation => validation.getD false)
      mode (skips cases) where
  shown_of_resets := by
    intro name s h
    rw [skips_mode] at h
    have hskips : s.SkipsValidation cases name := of_decide_eq_true h
    have hhandle : ((client cases).handle name s).1 = { s.rename name with isDomainAvailable := true } :=
      congrArg Prod.fst (if_pos hskips)
    rw [hhandle]
  shown_of_not_resets := by
    intro name s h
    rw [skips_mode] at h
    have hchecks : ¬ s.SkipsValidation cases name := of_decide_eq_false h
    have hhandle : ((client cases).handle name s).1 = s.rename name :=
      congrArg Prod.fst (if_neg hchecks)
    rw [hhandle, rename]
  shown_receive := fun _ _ _ => rfl
  handle_part := by
    intro name s s' h
    have hskips : s.SkipsValidation cases name ↔ s'.SkipsValidation cases name := by
      have hiff : _ = decide (s.SkipsValidation cases name) := skips_mode name s
      rw [h, skips_mode] at hiff
      exact (decide_eq_decide.1 hiff).symm
    by_cases hs : s.SkipsValidation cases name
    · have hhandle : (client cases).handle name s = (_, none) := if_pos hs
      have hhandle' : (client cases).handle name s' = (_, none) := if_pos (hskips.1 hs)
      rw [hhandle, hhandle']
      exact ⟨h, rfl⟩
    · have hhandle : (client cases).handle name s = (_, some _) := if_neg hs
      have hhandle' : (client cases).handle name s' = (_, some _) := if_neg (fun hs' => hs (hskips.2 hs'))
      rw [hhandle, hhandle']
      exact ⟨h, rfl⟩
  receive_part := fun _ _ _ => rfl

theorem session_agree (respond respond' : Nat → Option Bool) :
    (session cases creator originalDomainName happenings respond).sent =
        (session cases creator originalDomainName happenings respond').sent ∧
      (session cases creator originalDomainName happenings respond).answered =
        (session cases creator originalDomainName happenings respond').answered :=
  (Client.run_agree displays.handle_part displays.receive_part respond respond' happenings rfl rfl
    rfl).2

theorem answered_agree (respond respond' : Nat → Option Bool) :
    (session cases creator originalDomainName happenings respond).Answered ↔
      (session cases creator originalDomainName happenings respond').Answered := by
  have hagree : (session cases creator originalDomainName happenings respond).sent = _ ∧ _ :=
    session_agree respond respond'
  simp only [Traffic.Answered, Traffic.Awaits, hagree.1, hagree.2]

theorem isDomainAvailable_session (respond : Nat → Option Bool) :
    (session cases creator originalDomainName happenings respond).state.isDomainAvailable =
      valueOf respond true (fun validation => validation.getD false)
        (lastSetter cases creator originalDomainName happenings) := by
  rw [lastSetter, latest_agree displays _ respond rfl rfl rfl]
  exact shown_run displays rfl

end Sessions

/-- The flag of a run is right just if the response that came last is one for the last name. -/
theorem showsLatest_iff :
    ShowsLatest cases creator originalDomainName happenings ↔
      LatestSetsFlag cases creator originalDomainName happenings := by
  have hiff : ∀ name, _ ↔ _ := fun name =>
    answers_iff_setFor true (fun validation : Option Bool => validation.getD false)
      (x := some true) (y := none) rfl Bool.false_ne_true
      (session cases creator originalDomainName happenings (fun _ => none)).sent
      (lastSetter cases creator originalDomainName happenings)
      (wanted cases (opened creator originalDomainName) name)
  constructor
  · intro hshows name hname hanswered
    apply (hiff name).1
    intro respond
    have hanswers := hshows respond name hname ((answered_agree _ respond).1 hanswered)
    rwa [isDomainAvailable_session, (session_agree respond (fun _ => none)).1] at hanswers
  · intro hset respond name hname hanswered
    rw [isDomainAvailable_session, (session_agree respond (fun _ => none)).1]
    exact (hiff name).2 (hset name hname ((answered_agree respond _).1 hanswered)) respond

end NameCheck

/-- The panel shows the results of its last query and type, and the creator the answer for the
last name, just in the runs in which no older response arrives after the one that is for it. -/
theorem latestRequest_wins_iff (filterType : NodeType)
    (searching : List (Happening NodeSearchPanel.Input)) (cases : CaseMapping)
    (creator : DomainCreator) (originalDomainName : String) (naming : List (Happening String)) :
    (NodeSearchPanel.ShowsLatest filterType searching ↔
      NodeSearchPanel.LatestSetsResults filterType searching) ∧
    (NameCheck.ShowsLatest cases creator originalDomainName naming ↔
      NameCheck.LatestSetsFlag cases creator originalDomainName naming) :=
  ⟨NodeSearchPanel.showsLatest_iff filterType searching,
    NameCheck.showsLatest_iff cases creator originalDomainName naming⟩

def blankCreator : DomainCreator := ⟨false, ⟨none, "", "", []⟩, [], 0, none, 0⟩

/-- The slower response to the first query replaces the results of the second, and the same
happens to a name that is typed on. -/
theorem slowerResponse_wins :
    ¬ NodeSearchPanel.ShowsLatest .knowledge
        [.input (.changeQuery "a"), .input .timeout, .input (.changeQuery "ab"), .input .timeout,
          .arrival 1, .arrival 0] ∧
      ¬ NameCheck.ShowsLatest asciiCases blankCreator ""
        [.input "a", .input "ab", .arrival 1, .arrival 0] := by
  rw [NodeSearchPanel.showsLatest_iff, NameCheck.showsLatest_iff]
  constructor
  · intro h
    have hset := h ⟨by decide +kernel, Traffic.answered_of_forall_lt (by decide +kernel)⟩
    rw [show NodeSearchPanel.lastSetter _ _ = some 0 by decide +kernel,
      show NodeSearchPanel.wanted _ = some (NodeSearchPanel.request "ab" .knowledge) by
        decide +kernel] at hset
    obtain ⟨k, hsent, hk⟩ := hset.2 _ rfl
    obtain rfl := Option.some.inj hk
    revert hsent
    decide +kernel
  · intro h
    have hset := h "ab" rfl (Traffic.answered_of_forall_lt (by decide +kernel))
    rw [show NameCheck.lastSetter _ _ _ _ = some 0 by decide +kernel,
      show NameCheck.wanted _ _ _ = some "Ab" by decide +kernel] at hset
    obtain ⟨k, hsent, hk⟩ := hset.2 _ rfl
    obtain rfl := Option.some.inj hk
    revert hsent
    decide +kernel

end AtlasOfUs.Editor
