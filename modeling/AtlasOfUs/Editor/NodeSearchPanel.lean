import AtlasOfUs.Editor.DomainCreator
import AtlasOfUs.Library.LatestWins

namespace AtlasOfUs.Editor

open Library
open GraphApi (NodeType)

def NODE_TYPE_LABELS : NodeType → String
  | .knowledge => "Knowledge"
  | .skill => "Skill"
  | .trait => "Trait"
  | .milestone => "Milestone"

structure SearchNodesRequest where
  query : String
  labels : List String
  limit : Nat
  deriving DecidableEq

structure NodeSearchPanel where
  query : String
  results : List SearchNodeResult
  isLoading : Bool
  activeType : NodeType
  /-- The pending timer, with the values that its callback has captured. -/
  debounce : Option (String × NodeType)

namespace NodeSearchPanel

inductive Input
  | changeQuery (query : String)
  | handleTypeChange (type : NodeType)
  | timeout
  deriving DecidableEq

def request (searchQuery : String) (type : NodeType) : SearchNodesRequest :=
  ⟨searchQuery, [NODE_TYPE_LABELS type], 20⟩

def searchNodes (searchQuery : String) (type : NodeType) (s : NodeSearchPanel) :
    NodeSearchPanel × Option SearchNodesRequest :=
  if trim searchQuery = "" then ({ s with results := [] }, none)
  else ({ s with isLoading := true }, some (request searchQuery type))

/-- The effect on the query and the type, which runs when one of them has changed: the timer starts
again. -/
def debounced (query : String) (activeType : NodeType) (s : NodeSearchPanel) : NodeSearchPanel :=
  if query = s.query ∧ activeType = s.activeType then s
  else { s with query := query, activeType := activeType, debounce := some (query, activeType) }

def handle : Input → NodeSearchPanel → NodeSearchPanel × Option SearchNodesRequest
  | .changeQuery query, s => (debounced query s.activeType s, none)
  | .handleTypeChange type, s => ({ debounced s.query type s with results := [] }, none)
  | .timeout, s =>
      match s.debounce with
      | some (query, type) => searchNodes query type { s with debounce := none }
      | none => (s, none)

/-- The rest of `searchNodes`: a failed request has no results. -/
def receive (response : Option (List SearchNodeResult)) (s : NodeSearchPanel) : NodeSearchPanel :=
  { s with results := response.getD [], isLoading := false }

def client : Client NodeSearchPanel Input SearchNodesRequest (Option (List SearchNodeResult)) where
  handle := handle
  receive := fun _ response s => receive response s

theorem client_handle (input : Input) (s : NodeSearchPanel) : client.handle input s = handle input s :=
  rfl

/-- The panel once it is shown: the effect has run for the first time. -/
def opened (filterType : NodeType) : NodeSearchPanel where
  query := ""
  results := []
  isLoading := false
  activeType := filterType
  debounce := some ("", filterType)

def session (filterType : NodeType) (respond : Nat → Option (List SearchNodeResult))
    (happenings : List (Happening Input)) : Traffic NodeSearchPanel SearchNodesRequest :=
  client.run respond happenings ⟨opened filterType, [], []⟩

/-- All timers have fired and all responses have arrived. -/
def Settled (t : Traffic NodeSearchPanel SearchNodesRequest) : Prop :=
  t.state.debounce = none ∧ t.Answered

/-- The request for the query and the type that the panel has. A blank query is not searched for. -/
def wanted (s : NodeSearchPanel) : Option SearchNodesRequest :=
  if trim s.query = "" then none else some (request s.query s.activeType)

/-- The panel shows the results of its query and type: no spinner, and the nodes of a response to
the request for them. -/
def ShowsResults (respond : Nat → Option (List SearchNodeResult))
    (t : Traffic NodeSearchPanel SearchNodesRequest) : Prop :=
  t.state.isLoading = false ∧
    Answers respond [] (fun response => response.getD []) t.sent t.state.results (wanted t.state)

section Parts

def controls (s : NodeSearchPanel) : String × NodeType × Option (String × NodeType) :=
  (s.query, s.activeType, s.debounce)

def clears (input : Input) (controls : String × NodeType × Option (String × NodeType)) : Bool :=
  match input, controls.2.2 with
  | .handleTypeChange _, _ => true
  | .timeout, some (query, _) => trim query = ""
  | _, _ => false

theorem controls_eq_iff {s s' : NodeSearchPanel} :
    controls s = controls s' ↔
      s.query = s'.query ∧ s.activeType = s'.activeType ∧ s.debounce = s'.debounce := by
  simp only [controls, Prod.mk.injEq]

theorem controls_debounced {s s' : NodeSearchPanel} (h : controls s = controls s') (query : String)
    (activeType : NodeType) :
    controls (debounced query activeType s) = controls (debounced query activeType s') := by
  obtain ⟨hquery, htype, -⟩ := controls_eq_iff.1 h
  by_cases hsame : query = s.query ∧ activeType = s.activeType
  · have hsame' : query = s'.query ∧ activeType = s'.activeType := by rwa [← hquery, ← htype]
    rwa [debounced, debounced, if_pos hsame, if_pos hsame']
  · have hsame' : ¬ (query = s'.query ∧ activeType = s'.activeType) := by rwa [← hquery, ← htype]
    rw [debounced, debounced, if_neg hsame, if_neg hsame']
    rfl

theorem results_debounced (query : String) (activeType : NodeType) (s : NodeSearchPanel) :
    (debounced query activeType s).results = s.results := by
  rw [debounced]
  split_ifs <;> rfl

theorem isLoading_debounced (query : String) (activeType : NodeType) (s : NodeSearchPanel) :
    (debounced query activeType s).isLoading = s.isLoading := by
  rw [debounced]
  split_ifs <;> rfl

theorem handle_timeout_of_none {s : NodeSearchPanel} (h : s.debounce = none) :
    handle .timeout s = (s, none) := by
  rw [handle.eq_def]
  simp only [h]

theorem handle_timeout_of_some {s : NodeSearchPanel} {timer : String × NodeType}
    (h : s.debounce = some timer) :
    handle .timeout s = searchNodes timer.1 timer.2 { s with debounce := none } := by
  rw [handle.eq_def]
  simp only [h]

theorem clears_timeout_of_some {s : NodeSearchPanel} {timer : String × NodeType}
    (h : s.debounce = some timer) : clears .timeout (controls s) = decide (trim timer.1 = "") := by
  simp only [clears, controls, h]

theorem clears_timeout_of_none {s : NodeSearchPanel} (h : s.debounce = none) :
    clears .timeout (controls s) = false := by
  simp only [clears, controls, h]

/-- The panel shows a list that it clears at times and that every response replaces. -/
theorem displays :
    Displays client NodeSearchPanel.results [] (fun response => response.getD []) controls clears where
  shown_of_resets := by
    intro input s h
    cases input with
    | changeQuery query => cases h
    | handleTypeChange type => rfl
    | timeout =>
        cases hd : s.debounce with
        | none =>
            rw [clears_timeout_of_none hd] at h
            cases h
        | some timer =>
            rw [clears_timeout_of_some hd] at h
            have hblank : trim timer.1 = "" := of_decide_eq_true h
            rw [client_handle, handle_timeout_of_some hd, searchNodes, if_pos hblank]
  shown_of_not_resets := by
    intro input s h
    cases input with
    | changeQuery query => exact results_debounced query s.activeType s
    | handleTypeChange type => cases h
    | timeout =>
        cases hd : s.debounce with
        | none => rw [client_handle, handle_timeout_of_none hd]
        | some timer =>
            rw [clears_timeout_of_some hd] at h
            have hfilled : ¬ trim timer.1 = "" := of_decide_eq_false h
            rw [client_handle, handle_timeout_of_some hd, searchNodes, if_neg hfilled]
  shown_receive := fun _ _ _ => rfl
  handle_part := by
    intro input s s' h
    obtain ⟨hquery, htype, hd⟩ := controls_eq_iff.1 h
    cases input with
    | changeQuery query =>
        constructor
        · have hnext := controls_debounced h query s.activeType
          rwa [show debounced query s.activeType s' = debounced query s'.activeType s' by
            rw [htype]] at hnext
        · rfl
    | handleTypeChange type =>
        constructor
        · have hnext := controls_debounced h s.query type
          rwa [show debounced s.query type s' = debounced s'.query type s' by
            rw [hquery]] at hnext
        · rfl
    | timeout =>
        cases hd' : s'.debounce with
        | none =>
            rw [hd'] at hd
            rw [client_handle, client_handle, handle_timeout_of_none hd, handle_timeout_of_none hd']
            exact ⟨h, rfl⟩
        | some timer =>
            rw [hd'] at hd
            rw [client_handle, client_handle, handle_timeout_of_some hd, handle_timeout_of_some hd']
            have hfired : controls { s with debounce := none } = controls { s' with debounce := none } :=
              controls_eq_iff.2 ⟨hquery, htype, rfl⟩
            by_cases hblank : trim timer.1 = ""
            · rw [searchNodes, searchNodes, if_pos hblank, if_pos hblank]
              exact ⟨hfired, rfl⟩
            · rw [searchNodes, searchNodes, if_neg hblank, if_neg hblank]
              exact ⟨hfired, rfl⟩
  receive_part := fun _ _ _ => rfl

end Parts

section Loading

variable {t : Traffic NodeSearchPanel SearchNodesRequest}

/-- Only requests that are sent are answered, and while the spinner turns a response is missing. -/
def Waiting (t : Traffic NodeSearchPanel SearchNodesRequest) : Prop :=
  (∀ k ∈ t.answered, k < t.sent.length) ∧ (t.state.isLoading = true → ¬ t.Answered)

theorem answered_mono {s s' : NodeSearchPanel} {sent more : List SearchNodesRequest}
    {answered : List Nat} (h : ¬ Traffic.Answered ⟨s, sent, answered⟩) :
    ¬ Traffic.Answered ⟨s', sent ++ more, answered⟩ := by
  intro hall
  apply h
  rintro k r ⟨hk, hnot⟩
  obtain ⟨hlt, -⟩ := List.getElem?_eq_some_iff.1 hk
  exact hall k r ⟨(List.getElem?_append_left hlt).trans hk, hnot⟩

theorem waiting_of_request {s' : NodeSearchPanel} {request : Option SearchNodesRequest}
    (h : Waiting t) (hloading : s'.isLoading = true → t.state.isLoading = true ∨ request.isSome) :
    Waiting ⟨s', t.sent ++ request.toList, t.answered⟩ := by
  obtain ⟨hbound, hwaiting⟩ := h
  refine ⟨fun k hk => ?_, fun hs => ?_⟩
  · have hlt := hbound k hk
    simp only [List.length_append]
    omega
  · rcases hloading hs with hold | hnew
    · exact answered_mono (hwaiting hold)
    · obtain ⟨r, rfl⟩ := Option.isSome_iff_exists.1 hnew
      intro hall
      apply hall t.sent.length r
      refine ⟨List.getElem?_concat_length, fun hmem => ?_⟩
      exact Nat.lt_irrefl _ (hbound _ hmem)

theorem isLoading_handle (input : Input) (s : NodeSearchPanel)
    (h : (handle input s).1.isLoading = true) :
    s.isLoading = true ∨ (handle input s).2.isSome := by
  cases input with
  | changeQuery query =>
      rw [handle, isLoading_debounced] at h
      exact .inl h
  | handleTypeChange type =>
      have hsame : (handle (.handleTypeChange type) s).1.isLoading = s.isLoading :=
        isLoading_debounced s.query type s
      exact .inl (hsame ▸ h)
  | timeout =>
      cases hd : s.debounce with
      | none =>
          rw [handle_timeout_of_none hd] at h
          exact .inl h
      | some timer =>
          rw [handle_timeout_of_some hd, searchNodes] at h ⊢
          split_ifs at h ⊢ with hblank
          · exact .inl h
          · exact .inr rfl

theorem waiting_session (filterType : NodeType) (respond : Nat → Option (List SearchNodeResult))
    (happenings : List (Happening Input)) : Waiting (session filterType respond happenings) := by
  apply Client.run_keeps
  · exact ⟨fun k hk => absurd hk List.not_mem_nil, fun h => Bool.noConfusion h⟩
  · intro happening t h
    cases happening with
    | input input => exact waiting_of_request h (isLoading_handle input t.state)
    | arrival k =>
        rcases Client.arrival_cases client respond k t with ⟨r, hr⟩ | hsame
        · rw [Client.step_arrival hr]
          refine ⟨fun j hj => ?_, fun hloading => Bool.noConfusion hloading⟩
          rcases List.mem_cons.1 hj with rfl | hj
          · exact (List.getElem?_eq_some_iff.1 hr.1).1
          · exact h.1 j hj
        · rwa [hsame]

end Loading

/-- What set the results last in a session: the response with this number, or the panel, which
clears them. The responses' contents play no part in it. -/
def lastSetter (filterType : NodeType) (happenings : List (Happening Input)) : Option Nat :=
  latest client (fun _ => none) controls clears happenings ⟨opened filterType, [], []⟩ none

/-- Whatever the server answers, a settled panel shows the results of its query and type. -/
def ShowsLatest (filterType : NodeType) (happenings : List (Happening Input)) : Prop :=
  ∀ respond, Settled (session filterType respond happenings) →
    ShowsResults respond (session filterType respond happenings)

/-- In a settled panel the results were last set by a response to a request for its query and
type, or cleared last if the query is blank. -/
def LatestSetsResults (filterType : NodeType) (happenings : List (Happening Input)) : Prop :=
  Settled (session filterType (fun _ => none) happenings) →
    SetFor (session filterType (fun _ => none) happenings).sent (lastSetter filterType happenings)
      (wanted (session filterType (fun _ => none) happenings).state)

section Sessions

variable (filterType : NodeType) (happenings : List (Happening Input))

theorem session_agree (respond respond' : Nat → Option (List SearchNodeResult)) :
    controls (session filterType respond happenings).state =
        controls (session filterType respond' happenings).state ∧
      (session filterType respond happenings).sent = (session filterType respond' happenings).sent ∧
      (session filterType respond happenings).answered =
        (session filterType respond' happenings).answered :=
  Client.run_agree displays.handle_part displays.receive_part respond respond' happenings rfl rfl rfl

theorem settled_agree (respond respond' : Nat → Option (List SearchNodeResult)) :
    Settled (session filterType respond happenings) ↔
      Settled (session filterType respond' happenings) := by
  obtain ⟨hcontrols, hsent, hanswered⟩ := session_agree filterType happenings respond respond'
  obtain ⟨-, -, hd⟩ := controls_eq_iff.1 hcontrols
  rw [Settled, Settled, Traffic.Answered, Traffic.Answered, hd]
  simp only [Traffic.Awaits, hsent, hanswered]

theorem results_session (respond : Nat → Option (List SearchNodeResult)) :
    (session filterType respond happenings).state.results =
      valueOf respond [] (fun response => response.getD []) (lastSetter filterType happenings) := by
  rw [lastSetter, latest_agree displays _ respond rfl rfl rfl]
  exact shown_run displays rfl

theorem wanted_agree {s s' : NodeSearchPanel} (h : controls s = controls s') :
    wanted s = wanted s' := by
  obtain ⟨hquery, htype, -⟩ := controls_eq_iff.1 h
  rw [wanted, wanted, hquery, htype]

/-- The panel of a run is right just if the response that came last is one for its last query and
type. -/
theorem showsLatest_iff : ShowsLatest filterType happenings ↔ LatestSetsResults filterType happenings := by
  have hiff := answers_iff_setFor ([] : List SearchNodeResult)
    (fun response => response.getD []) (x := none)
    (y := some [(⟨"", [], ⟨"", none, none, none, none, none⟩⟩ : SearchNodeResult)]) rfl
    (List.cons_ne_nil _ _) (session filterType (fun _ => none) happenings).sent
    (lastSetter filterType happenings) (wanted (session filterType (fun _ => none) happenings).state)
  constructor
  · intro hshows hsettled
    apply hiff.1
    intro respond
    obtain ⟨hcontrols, hsent, -⟩ := session_agree filterType happenings respond (fun _ => none)
    have hanswers := (hshows respond ((settled_agree filterType happenings _ respond).1 hsettled)).2
    rwa [results_session, hsent, wanted_agree hcontrols] at hanswers
  · intro hset respond hsettled
    obtain ⟨hcontrols, hsent, -⟩ := session_agree filterType happenings respond (fun _ => none)
    have hwaiting := (waiting_session filterType respond happenings).2
    constructor
    · exact Bool.eq_false_iff.2 (fun hloading => hwaiting hloading hsettled.2)
    · rw [results_session, hsent, wanted_agree hcontrols]
      exact hiff.2 (hset ((settled_agree filterType happenings respond _).1 hsettled)) respond

end Sessions

end NodeSearchPanel

end AtlasOfUs.Editor
