import AtlasOfUs.Agent.Models
import AtlasOfUs.Text

namespace AtlasOfUs.Agent

open Library Similarity

def SIMILARITY_THRESHOLD_LOW : ℚ := 70 / 100
def SIMILARITY_THRESHOLD_HIGH : ℚ := 95 / 100

/-- A parser's result: a value, a reported error, or a slice that panics. -/
abbrev Parsed (α : Type) := Exit String α

def okOr {α : Type} (x : Option α) (error : String) : Parsed α :=
  match x with
  | some a => .ok a
  | none => .err error

def mapParsed {α : Type} (x : Except String α) (f : String → String) : Parsed α :=
  match x with
  | .ok a => .ok a
  | .error e => .err (f e)

def preview (trimmed : String) : Parsed String :=
  if trimmed.utf8ByteSize > 200 then Text.sliceTo trimmed 200 else .ok trimmed

def findOrPreview (trimmed : String) (position : Option Nat) (message : String) : Parsed Nat :=
  match position with
  | some i => .ok i
  | none => do
      let shown ← preview trimmed
      .err (message ++ shown)

def parseConceptList (codec : Codec) (response : String) : Parsed (List String) := do
  let trimmed := Text.trim response
  let first ← findOrPreview trimmed (Text.find trimmed '[')
    "No JSON array found in response. Preview: "
  let last ← findOrPreview trimmed (Text.rfind trimmed ']')
    "No closing bracket found. Preview: "
  if last ≤ first then
    .err "Invalid JSON array structure"
  else do
    let jsonStr ← Text.sliceInclusive trimmed first last
    mapParsed (codec.strings jsonStr)
      (fun e => "Failed to parse JSON array: " ++ e ++ ". Content: " ++ jsonStr)

def checkRange (guard : Option String) (first last : Nat) : Parsed Unit :=
  match guard with
  | some message => if last ≤ first then .err message else .ok ()
  | none => .ok ()

/-- From the first opening to the last closing brace of a reply. With a `guard`
message a reversed or empty range is refused; without one it is sliced as it is. -/
def parseObject (codec : Codec) (noObject noClosing : String) (guard : Option String)
    (response : String) : Parsed Json := do
  let trimmed := Text.trim response
  let first ← okOr (Text.find trimmed '{') noObject
  let last ← okOr (Text.rfind trimmed '}') noClosing
  checkRange guard first last
  let jsonStr ← Text.sliceInclusive trimmed first last
  mapParsed (codec.value jsonStr) ("Failed to parse JSON: " ++ ·)

def nonNull (s : String) : Bool := s ≠ "" && s ≠ "null"

def strField (j : Json) (key : String) : Option String := (j.get key).bind Json.asStr

def VerifiedConcept.createNew (name : String) : VerifiedConcept := ⟨name, .createNew⟩

def VerifiedConcept.useExisting (name : String) (elementId : ElementId) : VerifiedConcept :=
  ⟨name, .useExisting elementId⟩

def VerifiedConcept.createAndGeneralize (name : String) (generalizesToId : ElementId)
    (generalizesToName : String) (needsCreation : Bool) : VerifiedConcept :=
  ⟨name, .createAndGeneralize generalizesToId generalizesToName needsCreation⟩

def readVerification (parsed : Json) (concept : String) : Parsed VerifiedConcept := do
  let decision ← okOr (strField parsed "decision") "Missing 'decision' field"
  let existingNode := (strField parsed "existing_node_name").filter nonNull
  let suggestedTarget := (strField parsed "suggested_target").filter nonNull
  if decision = "use_existing" then do
    let nodeName ← okOr existingNode "Missing existing_node_name for use_existing"
    return .useExisting concept nodeName
  else if decision = "create_new" then
    return .createNew concept
  else if decision = "create_and_generalize" then do
    let targetName ← okOr (suggestedTarget <|> existingNode)
      "Missing target for create_and_generalize (need existing_node_name or suggested_target)"
    return .createAndGeneralize concept "" targetName false
  else
    .err ("Unknown decision: " ++ decision)

def parseVerificationResponse (codec : Codec) (response concept : String) :
    Parsed VerifiedConcept := do
  let parsed ← parseObject codec "No JSON object found in response" "No closing brace found"
    (some "Invalid JSON object structure") response
  readVerification parsed concept

def determineActionByScore (concept : String) (similarNodes : List SimilarNodeResult) :
    Option VerifiedConcept :=
  match similarNodes with
  | [] => some (.createNew concept)
  | top :: _ =>
      if top.score < SIMILARITY_THRESHOLD_LOW then some (.createNew concept)
      else if top.score ≥ SIMILARITY_THRESHOLD_HIGH then some (.useExisting concept top.id)
      else none

/-- A reply without the two braces in order, which an unguarded slice panics on. -/
def reversed (response : String) (opening closing : Char) : Bool :=
  let trimmed := Text.trim response
  match Text.find trimmed opening, Text.rfind trimmed closing with
  | some first, some last => last + 1 < first
  | _, _ => false

/-- A reply whose preview would cut a character: long, without one of its brackets. -/
def previewCuts (response : String) : Bool :=
  let trimmed := Text.trim response
  ((Text.find trimmed '[').isNone || (Text.rfind trimmed ']').isNone) &&
    trimmed.utf8ByteSize > 200 && (Text.takeBytes 200 trimmed.toList).isNone

theorem okOr_ne_panicked {α : Type} (x : Option α) (e : String) : okOr x e ≠ .panicked := by
  cases x <;> simp [okOr]

theorem mapParsed_ne_panicked {α : Type} (x : Except String α) (f : String → String) :
    mapParsed x f ≠ .panicked := by
  cases x <;> simp [mapParsed]

theorem preview_eq_panicked (trimmed : String) :
    preview trimmed = .panicked ↔
      200 < trimmed.utf8ByteSize ∧ Text.takeBytes 200 trimmed.toList = none := by
  unfold preview
  split
  · rename_i h
    rw [Text.sliceTo_eq_panicked]
    exact ⟨fun hn => ⟨h, hn⟩, fun hn => hn.2⟩
  · rename_i h
    simp only [reduceCtorEq, false_iff, not_and]
    omega

theorem findOrPreview_eq_panicked (trimmed : String) (position : Option Nat) (message : String) :
    findOrPreview trimmed position message = .panicked ↔
      position = none ∧ preview trimmed = .panicked := by
  cases position with
  | some i => simp [findOrPreview]
  | none =>
      rw [findOrPreview, Exit.bind_eq_panicked]
      simp

theorem findOrPreview_eq_ok (trimmed : String) (position : Option Nat) (message : String) (i : Nat) :
    findOrPreview trimmed position message = .ok i ↔ position = some i := by
  cases position with
  | some j => simp [findOrPreview]
  | none =>
      rw [findOrPreview]
      cases preview trimmed <;> simp

theorem parseConceptList_panics (codec : Codec) (response : String) :
    parseConceptList codec response = .panicked ↔ previewCuts response = true := by
  have hrange : ∀ first last : Nat,
      (if last ≤ first then .err "Invalid JSON array structure"
        else do
          let jsonStr ← Text.sliceInclusive (Text.trim response) first last
          mapParsed (codec.strings jsonStr)
            (fun e => "Failed to parse JSON array: " ++ e ++ ". Content: " ++ jsonStr) :
          Parsed (List String)) ≠ .panicked := by
    intro first last
    split
    · simp
    · rename_i h
      rw [Text.sliceInclusive_of_le _ (by omega), Exit.ok_bind]
      exact mapParsed_ne_panicked _ _
  simp only [parseConceptList, Exit.bind_eq_panicked, findOrPreview_eq_panicked,
    findOrPreview_eq_ok, preview_eq_panicked, hrange, and_false, exists_false, or_false]
  cases hf : Text.find (Text.trim response) '[' <;>
    cases hr : Text.rfind (Text.trim response) ']' <;> simp [previewCuts, hf, hr]

theorem checkRange_ne_panicked (guard : Option String) (first last : Nat) :
    checkRange guard first last ≠ .panicked := by
  unfold checkRange
  split
  · split <;> simp
  · simp

theorem checkRange_guarded (message : String) (first last : Nat) (u : Unit) :
    checkRange (some message) first last = .ok u ↔ first < last := by
  by_cases h : last ≤ first
  · simp [checkRange, h]
  · simpa [checkRange, h] using Nat.lt_of_not_le h

theorem parseObject_guarded (codec : Codec) (noObject noClosing message response : String) :
    parseObject codec noObject noClosing (some message) response ≠ .panicked := by
  intro h
  simp only [parseObject, Exit.bind_eq_panicked, okOr_ne_panicked, checkRange_ne_panicked,
    mapParsed_ne_panicked, Text.sliceInclusive_eq_panicked, checkRange_guarded, false_or, and_false,
    exists_false, or_false] at h
  obtain ⟨first, -, last, -, -, hlt, hgt⟩ := h
  omega

theorem parseObject_unguarded (codec : Codec) (noObject noClosing response : String) :
    parseObject codec noObject noClosing none response = .panicked ↔
      reversed response '{' '}' = true := by
  simp only [parseObject, Exit.bind_eq_panicked, okOr_ne_panicked, checkRange_ne_panicked,
    mapParsed_ne_panicked, Text.sliceInclusive_eq_panicked, false_or, and_false, exists_false, or_false]
  cases hf : Text.find (Text.trim response) '{' <;>
    cases hr : Text.rfind (Text.trim response) '}' <;> simp [reversed, hf, hr, okOr, checkRange]

theorem readVerification_ne_panicked (parsed : Json) (concept : String) :
    readVerification parsed concept ≠ .panicked := by
  intro h
  simp only [readVerification, Exit.bind_eq_panicked, okOr_ne_panicked, false_or] at h
  obtain ⟨decision, -, h⟩ := h
  split_ifs at h <;> simp [Exit.bind_eq_panicked, okOr_ne_panicked] at h

end AtlasOfUs.Agent
