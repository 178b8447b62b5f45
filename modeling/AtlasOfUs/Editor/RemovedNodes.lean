import AtlasOfUs.Editor.Session

namespace AtlasOfUs.Editor

open Library
open GraphApi (NodeType UpdateDomainRequest)

def Requires (request : UpdateDomainRequest) (id : ElementId) : Prop :=
  ∃ level ∈ request.levels, ∃ r ∈ level.requirements.entries, r.nodeElementId = some id

instance (request : UpdateDomainRequest) (id : ElementId) : Decidable (Requires request id) :=
  inferInstanceAs (Decidable (∃ level ∈ request.levels, ∃ r ∈ level.requirements.entries,
    r.nodeElementId = some id))

def RemovedGone (request : UpdateDomainRequest) : Prop :=
  ∀ id ∈ request.removedNodeElementIds, ¬ Requires request id

instance (request : UpdateDomainRequest) : Decidable (RemovedGone request) :=
  inferInstanceAs (Decidable (∀ id ∈ request.removedNodeElementIds, ¬ Requires request id))

section Step

variable (cases : CaseMapping) (creator : DomainCreator)

theorem requires_iff (id : ElementId) :
    Requires (domainToUpdateRequest cases creator) id ↔
      ∃ i type n, ShownAt creator.domain i type n ∧ n.elementId = some id := by
  constructor
  · rintro ⟨level, hlevel, r, hr, hid⟩
    obtain ⟨editable, hmem, rfl⟩ := List.mem_map.1 hlevel
    rw [entries_levelRequest] at hr
    obtain ⟨⟨type, n⟩, hn, rfl⟩ := List.mem_map.1 hr
    obtain ⟨i, hi, rfl⟩ := List.mem_iff_getElem.1 hmem
    rw [requirementOf_nodeElementId] at hid
    exact ⟨i, type, n, ⟨_, List.getElem?_eq_getElem hi, mem_entries.1 hn⟩, hid⟩
  · rintro ⟨i, type, n, ⟨level, hlevel, hn⟩, hid⟩
    refine ⟨levelRequest level, List.mem_map_of_mem (List.mem_of_getElem? hlevel), requirementOf type n,
      ?_, (requirementOf_nodeElementId type n).trans hid⟩
    rw [entries_levelRequest]
    exact List.mem_map_of_mem (f := fun e => requirementOf e.1 e.2) (mem_entries.2 hn)

theorem removedGone_iff :
    RemovedGone (domainToUpdateRequest cases creator) ↔
      ∀ id ∈ creator.removedNodeElementIds, ∀ i type n, ShownAt creator.domain i type n →
        n.elementId ≠ some id := by
  refine forall₂_congr fun id _ => ?_
  rw [requires_iff]
  simp only [not_exists, not_and]

/-- The update request that a save submits, if it submits one. -/
def DomainCreator.submittedUpdate (creator : DomainCreator) : Option UpdateDomainRequest :=
  if validateDomain creator.domain = [] ∧ creator.isUpdate = true then
    some (domainToUpdateRequest cases creator)
  else none

theorem submittedUpdate_eq_some {creator : DomainCreator} {request : UpdateDomainRequest}
    (h : creator.submittedUpdate cases = some request) :
    (validateDomain creator.domain = [] ∧ creator.isUpdate = true) ∧
      request = domainToUpdateRequest cases creator := by
  rw [DomainCreator.submittedUpdate] at h
  split_ifs at h with hsaves
  exact ⟨hsaves, (Option.some.inj h).symm⟩

theorem handleSave_submittedUpdate {creator : DomainCreator} {request : UpdateDomainRequest}
    (h : creator.submittedUpdate cases = some request) :
    handleSave cases creator = do
      let result ← HttpService.updateDomain request
      return savedOrError result "Failed to update domain" := by
  obtain ⟨⟨hvalid, hupdate⟩, rfl⟩ := submittedUpdate_eq_some cases h
  simp only [handleSave, hvalid, hupdate, ne_eq, not_true_eq_false, if_false, if_true]

end Step

section History

structure Place where
  level : Nat
  type : NodeType
  nodeId : String

def Shows (id : ElementId) (place : Place) (s : Session) : Prop :=
  ∃ n, ShownAt s.creator.domain place.level place.type n ∧ n.id = place.nodeId ∧
    n.elementId = some id

namespace Edit

def Removes (id : ElementId) (edit : Edit) (s : Session) : Prop :=
  match edit with
  | .removeNode nodeId type => id ∈ removedId (s.creator.nodeToRemove nodeId type)
  | _ => False

def TakesOff (place : Place) (edit : Edit) (s : Session) : Prop :=
  match edit with
  | .removeNode nodeId type => place = ⟨s.creator.selectedLevelIndex, type, nodeId⟩
  | _ => False

def Adds (uuid : Nat → String) (id : ElementId) (place : Place) (edit : Edit) (s : Session) : Prop :=
  match edit with
  | .addNodeFromSearch result =>
      result.elementId = id ∧ s.creator.selectedLevelIndex < s.creator.domain.levels.length ∧
        place = ⟨s.creator.selectedLevelIndex, getNodeTypeFromLabels result.labels,
          (searchResultToEditableNode uuid result (getNodeTypeFromLabels result.labels)
            s.creator.drawn).1.id⟩
  | _ => False

end Edit

variable (env : Env) (uuid : Nat → String) (codec : Codec) (edits : List Edit) (start : Session)

def TakenOff (place : Place) (m k : Nat) : Prop :=
  ∃ l, m ≤ l ∧ l < k ∧ ∃ edit, edits[l]? = some edit ∧
    edit.TakesOff place (sessionAt env uuid codec edits start l)

/-- Whenever an element id is put on the list of the removed ones, every other place that shows it
then, and every one at which it is added after that, is taken off too before the `k`-th edit. -/
def RemovedEverywhere (k : Nat) : Prop :=
  ∀ j < k, ∀ edit, edits[j]? = some edit → ∀ id,
    edit.Removes id (sessionAt env uuid codec edits start j) →
      (∀ place, Shows id place (sessionAt env uuid codec edits start j) →
        TakenOff env uuid codec edits start place j k) ∧
      ∀ l, j < l → l < k → ∀ edit', edits[l]? = some edit' → ∀ place,
        edit'.Adds uuid id place (sessionAt env uuid codec edits start l) →
          TakenOff env uuid codec edits start place (l + 1) k

variable {id : ElementId} {place : Place}

theorem unaffected (p : Prop) : p ↔ False ∨ p ∧ ¬ False := by
  simp

theorem removed_apply_iff (edit : Edit) (s : Session) :
    id ∈ (edit.apply env uuid codec s).creator.removedNodeElementIds ↔
      edit.Removes id s ∨ id ∈ s.creator.removedNodeElementIds ∧ ¬ False := by
  cases edit with
  | addNewNode name description type props =>
      refine Iff.trans ?_ (unaffected _)
      simp only [Edit.apply]
      split
      · rename_i creator' hexit
        rcases handleAddNewNode_cases env uuid codec s.creator hexit with
          ⟨message, rfl⟩ | ⟨node, rfl, -⟩ <;> exact Iff.rfl
      · exact Iff.rfl
  | removeNode nodeId type =>
      rw [and_iff_left not_false]
      exact List.mem_append.trans or_comm
  | _ => exact unaffected _

theorem shows_apply_iff (edit : Edit) (s : Session) :
    Shows id place (edit.apply env uuid codec s) ↔
      edit.Adds uuid id place s ∨ Shows id place s ∧ ¬ edit.TakesOff place s := by
  cases edit with
  | selectLevel index => exact unaffected _
  | changeName name => exact unaffected _
  | changeDescription description => exact unaffected _
  | updateLevel name description pointsRequired =>
      refine Iff.trans ?_ (unaffected _)
      exact exists_congr fun n => and_congr_left fun _ => shownAt_handleLevelUpdate _ _ _ _ _ _ n
  | updateNodeRequirement nodeId type requirement =>
      refine Iff.trans ?_ (unaffected _)
      exact shownAt_updateNodeRequirement s.creator nodeId type requirement _ _ _ _
  | addNodeFromSearch result =>
      have hshown := shownAt_addNode s.creator (getNodeTypeFromLabels result.labels)
        (searchResultToEditableNode uuid result (getNodeTypeFromLabels result.labels))
      have hnew : ((searchResultToEditableNode uuid result (getNodeTypeFromLabels result.labels))
          s.creator.drawn).1.elementId = some result.elementId := by
        cases getNodeTypeFromLabels result.labels <;> rfl
      constructor
      · rintro ⟨n, hn, hplace, hid⟩
        rcases (hshown _ _ n).1 hn with hold | ⟨hlevel, hselected, htype, rfl⟩
        · exact .inr ⟨⟨n, hold, hplace, hid⟩, not_false⟩
        · refine .inl ⟨Option.some.inj (hnew.symm.trans hid), hselected ▸ hlevel, ?_⟩
          rw [hselected, hplace, ← htype]
      · rintro (⟨rfl, hlevel, rfl⟩ | ⟨⟨n, hn, hplace, hid⟩, -⟩)
        · exact ⟨_, (hshown _ _ _).2 (.inr ⟨hlevel, rfl, rfl, rfl⟩), rfl, hnew⟩
        · exact ⟨n, (hshown _ _ n).2 (.inl hn), hplace, hid⟩
  | addNewNode name description type props =>
      refine Iff.trans ?_ (unaffected _)
      simp only [Edit.apply]
      split
      · rename_i creator' hexit
        rcases handleAddNewNode_cases env uuid codec s.creator hexit with
          ⟨message, rfl⟩ | ⟨node, rfl, hnode⟩
        · exact Iff.rfl
        · refine exists_congr fun n => ⟨fun ⟨hn, hplace, hid⟩ => ?_, fun ⟨hn, hplace, hid⟩ => ?_⟩
          · rcases (shownAt_addNode _ _ _ _ _ n).1 hn with hold | ⟨-, -, -, rfl⟩
            · exact ⟨hold, hplace, hid⟩
            · rw [hnode] at hid
              cases hid
          · exact ⟨(shownAt_addNode _ _ _ _ _ n).2 (.inl hn), hplace, hid⟩
      · exact Iff.rfl
  | removeNode nodeId type =>
      have hshown := shownAt_removeNode s.creator nodeId type
      have hplaces (n : EditableNode) (hplace : n.id = place.nodeId) :
          (s.creator.selectedLevelIndex = place.level ∧ place.type = type ∧ n.id = nodeId) ↔
            place = ⟨s.creator.selectedLevelIndex, type, nodeId⟩ := by
        obtain ⟨level, type', nodeId'⟩ := place
        simp only [Place.mk.injEq]
        rw [hplace, eq_comm]
      constructor
      · rintro ⟨n, hn, hplace, hid⟩
        obtain ⟨hold, hkept⟩ := (hshown _ _ n).1 hn
        exact .inr ⟨⟨n, hold, hplace, hid⟩, fun htaken => hkept ((hplaces n hplace).2 htaken)⟩
      · rintro (hfalse | ⟨⟨n, hn, hplace, hid⟩, hnot⟩)
        · cases hfalse
        · refine ⟨n, (hshown _ _ n).2 ⟨hn, fun htaken => hnot ((hplaces n hplace).1 htaken)⟩, hplace, hid⟩

theorem not_takenOff_iff {m k : Nat} :
    ¬ TakenOff env uuid codec edits start place m k ↔
      Lasts (Edit.apply env uuid codec) (Edit.TakesOff place) edits start m k := by
  constructor
  · exact fun h l hml hl edit hedit htakes => h ⟨l, hml, hl, edit, hedit, htakes⟩
  · rintro h ⟨l, hml, hl, edit, hedit, htakes⟩
    exact h l hml hl edit hedit htakes

/-- What the removed list and the levels are made of, in terms of the edits before. -/
theorem removedGone_iff_removedEverywhere (hstart : start.creator.removedNodeElementIds = [])
    (k : Nat) :
    RemovedGone (domainToUpdateRequest cases (sessionAt env uuid codec edits start k).creator) ↔
      RemovedEverywhere env uuid codec edits start k := by
  have hgone : RemovedGone (domainToUpdateRequest cases
      (sessionAt env uuid codec edits start k).creator) ↔
      ∀ id ∈ (sessionAt env uuid codec edits start k).creator.removedNodeElementIds,
        ∀ place, ¬ Shows id place (sessionAt env uuid codec edits start k) := by
    rw [removedGone_iff]
    refine forall₂_congr fun id _ => ⟨fun h place => ?_, fun h i type n hn hid => ?_⟩
    · rintro ⟨n, hn, -, hid⟩
      exact h _ _ n hn hid
    · exact h ⟨i, type, n.id⟩ ⟨n, hn, rfl, hid⟩
  have hremoved (id : ElementId) :
      id ∈ (sessionAt env uuid codec edits start k).creator.removedNodeElementIds ↔
        ∃ j < k, ∃ edit, edits[j]? = some edit ∧
          edit.Removes id (sessionAt env uuid codec edits start j) := by
    have hnone : id ∉ start.creator.removedNodeElementIds := by
      rw [hstart]
      exact List.not_mem_nil
    refine Iff.trans (holds_iff_since (P := fun s => id ∈ s.creator.removedNodeElementIds)
      (fun edit s => removed_apply_iff env uuid codec edit s) hnone k)
      (exists_congr fun j => and_congr_right fun _ => and_iff_left ?_)
    exact fun _ _ _ _ _ => not_false
  have hshows (id : ElementId) (place : Place) {j : Nat} (hj : j ≤ k) :
      Shows id place (sessionAt env uuid codec edits start k) ↔
        Shows id place (sessionAt env uuid codec edits start j) ∧
            ¬ TakenOff env uuid codec edits start place j k ∨
          ∃ l, j ≤ l ∧ l < k ∧ (∃ edit, edits[l]? = some edit ∧
              edit.Adds uuid id place (sessionAt env uuid codec edits start l)) ∧
            ¬ TakenOff env uuid codec edits start place (l + 1) k := by
    simp only [not_takenOff_iff]
    exact holds_iff_since_from (fun edit s => shows_apply_iff env uuid codec edit s) hj
  rw [hgone]
  constructor
  · intro h j hj edit hedit id hremoves
    have hid := (hremoved id).2 ⟨j, hj, edit, hedit, hremoves⟩
    refine ⟨fun place hplace => ?_, fun l hjl hl edit' hedit' place hadds => ?_⟩
    · by_contra hnot
      exact h id hid place ((hshows id place hj.le).2 (.inl ⟨hplace, hnot⟩))
    · by_contra hnot
      exact h id hid place ((hshows id place hj.le).2
        (.inr ⟨l, hjl.le, hl, ⟨edit', hedit', hadds⟩, hnot⟩))
  · intro h id hid place hplace
    obtain ⟨j, hj, edit, hedit, hremoves⟩ := (hremoved id).1 hid
    obtain ⟨hthere, hadded⟩ := h j hj edit hedit id hremoves
    rcases (hshows id place hj.le).1 hplace with ⟨hbefore, hnot⟩ | ⟨l, hjl, hl, ⟨edit', hedit', hadds⟩, hnot⟩
    · exact hnot (hthere place hbefore)
    · rcases hjl.lt_or_eq with hjl | rfl
      · exact hnot (hadded l hjl hl edit' hedit' place hadds)
      · cases hedit.symm.trans hedit'
        cases edit <;> first | exact hremoves | exact hadds

variable (cases)

/-- In the update request that a save submits at some moment of a session no removed node is still
required, exactly if every node that was removed by then has been removed everywhere. -/
theorem submittedUpdate_removedGone_iff (data : DomainData) (w : World) (k : Nat)
    {request : UpdateDomainRequest}
    (hsubmits : (sessionAt env uuid codec edits ⟨loadedCreator uuid data, w⟩ k).creator.submittedUpdate
      cases = some request) :
    (handleSave cases (sessionAt env uuid codec edits ⟨loadedCreator uuid data, w⟩ k).creator = do
        let result ← HttpService.updateDomain request
        return savedOrError result "Failed to update domain") ∧
      (RemovedGone request ↔
        RemovedEverywhere env uuid codec edits ⟨loadedCreator uuid data, w⟩ k) := by
  refine ⟨handleSave_submittedUpdate cases hsubmits, ?_⟩
  obtain ⟨-, rfl⟩ := submittedUpdate_eq_some cases hsubmits
  exact removedGone_iff_removedEverywhere env uuid codec edits _ rfl k

end History

section Shared

def openings : DomainNode where
  elementId := "4:1"
  type := .knowledge
  name := "Openings"
  description := none
  howToLearn := none
  howToDevelop := none
  measurementCriteria := none
  howToAchieve := none
  bloomLevel := some "Remember"
  dreyfusLevel := none
  minScore := none

def endgames : DomainNode := { openings with elementId := "4:4", name := "Endgames" }

/-- Both levels of the domain require the same two nodes. -/
def sharedOpenings : DomainData where
  elementId := "4:0"
  name := "Chess"
  description := some "The game"
  levels := [
    ⟨"4:2", 1, "Novice", none, 50, [openings, endgames], [], [], []⟩,
    ⟨"4:3", 2, "Expert", none, 150, [openings, endgames], [], [], []⟩]

def chessSession (edits : List Edit) (k : Nat) : Session :=
  sessionAt Env.calm candidateId silentCodec edits
    ⟨loadedCreator candidateId sharedOpenings, World.start emptyGraph⟩ k

def removedFromBoth : List Edit :=
  [.removeNode (candidateId 6) .knowledge, .selectLevel 1, .removeNode (candidateId 9) .knowledge]

theorem submittedUpdate_removedGone_iff_chess :
    RemovedGone (domainToUpdateRequest asciiCases (chessSession removedFromBoth 3).creator) ↔
      RemovedEverywhere Env.calm candidateId silentCodec removedFromBoth
        ⟨loadedCreator candidateId sharedOpenings, World.start emptyGraph⟩ 3 :=
  (submittedUpdate_removedGone_iff Env.calm candidateId silentCodec removedFromBoth asciiCases
    sharedOpenings (World.start emptyGraph) 3 (if_pos (by decide +kernel))).2

/-- Removed from the first level only, the node counts as removed, and the request that is submitted
then still requires it at the second. -/
theorem sharedOpenings_not_gone :
    ∃ request, (chessSession [.removeNode (candidateId 6) .knowledge] 1).creator.submittedUpdate
        asciiCases = some request ∧ ¬ RemovedGone request :=
  ⟨_, if_pos (by decide +kernel), by decide +kernel⟩

end Shared

end AtlasOfUs.Editor
