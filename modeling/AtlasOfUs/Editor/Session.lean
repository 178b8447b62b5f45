import AtlasOfUs.Editor.DomainCreator
import AtlasOfUs.Library.Machine
import AtlasOfUs.GraphApi.Undisturbed

namespace AtlasOfUs.Editor

open Library
open GraphApi (NodeType)

/-- The editor together with the server that it talks to. -/
structure Session where
  creator : DomainCreator
  world : World

inductive Edit
  | selectLevel (index : Nat)
  | changeName (name : String)
  | changeDescription (description : String)
  | updateLevel (name description : String) (pointsRequired : Int)
  | addNodeFromSearch (result : SearchNodeResult)
  | addNewNode (name description : String) (type : NodeType) (props : TypeSpecificProps)
  | removeNode (nodeId : String) (type : NodeType)
  | updateNodeRequirement (nodeId : String) (type : NodeType) (requirement : RequirementUpdate)

variable (env : Env) (uuid : Nat → String) (codec : Codec)

def Edit.apply (edit : Edit) (s : Session) : Session :=
  match edit with
  | .selectLevel index => { s with creator := { s.creator with selectedLevelIndex := index } }
  | .changeName name =>
      { s with creator := { s.creator with domain := { s.creator.domain with name := name } } }
  | .changeDescription description =>
      { s with creator := { s.creator with
          domain := { s.creator.domain with description := description } } }
  | .updateLevel name description pointsRequired =>
      { s with creator := handleLevelUpdate name description pointsRequired s.creator }
  | .addNodeFromSearch result =>
      { s with creator := handleAddNodeFromSearch uuid result s.creator }
  | .addNewNode name description type props =>
      let x := env.exec (handleAddNewNode uuid codec name description type props s.creator) s.world
      ⟨match x.exit with
        | .ok creator => creator
        | _ => s.creator, x.state⟩
  | .removeNode nodeId type => { s with creator := handleRemoveNode nodeId type s.creator }
  | .updateNodeRequirement nodeId type requirement =>
      { s with creator := handleUpdateNodeRequirement nodeId type requirement s.creator }

def sessionAt (edits : List Edit) (s : Session) (k : Nat) : Session :=
  stateAt (Edit.apply env uuid codec) edits s k

def newCreator : DomainCreator :=
  let (domain, drawn) := createEmptyDomain uuid 0
  { isEditMode := false
    domain := domain
    removedNodeElementIds := []
    selectedLevelIndex := 0
    saveError := none
    drawn := drawn }

def loadedCreator (data : DomainData) : DomainCreator :=
  let (domain, drawn) := domainDataToEditableDomain uuid data (newCreator uuid).drawn
  { newCreator uuid with
    isEditMode := true
    domain := domain
    drawn := drawn }

/-- The printer that a similarity conflict would use; the parsers are not called. -/
def silentCodec : Codec where
  value := fun _ => .error ""
  strings := fun _ => .error ""
  float := fun _ => ""

section Shown

/-- The entry stands at the `i`-th level, in the list of the type. -/
def ShownAt (domain : EditableDomain) (i : Nat) (type : NodeType) (n : EditableNode) : Prop :=
  ∃ level, domain.levels[i]? = some level ∧ n ∈ level.nodes type

variable (creator : DomainCreator)

theorem shownAt_modifyLevel (f : EditableDomainLevel → EditableDomainLevel) (i : Nat) (type : NodeType)
    (n : EditableNode) :
    ShownAt (creator.modifyLevel f).domain i type n ↔
      ∃ level, creator.domain.levels[i]? = some level ∧
        n ∈ (if creator.selectedLevelIndex = i then f level else level).nodes type := by
  simp only [ShownAt, DomainCreator.modifyLevel, List.getElem?_modify]
  cases creator.domain.levels[i]? <;> simp

theorem shownAt_modifyNodes (type : NodeType) (f : List EditableNode → List EditableNode) (i : Nat)
    (type' : NodeType) (n : EditableNode) :
    ShownAt (creator.modifyLevel (fun level => level.modifyNodes type f)).domain i type' n ↔
      ∃ level, creator.domain.levels[i]? = some level ∧
        n ∈ (if creator.selectedLevelIndex = i ∧ type' = type then f (level.nodes type)
          else level.nodes type') := by
  rw [shownAt_modifyLevel]
  refine exists_congr fun level => and_congr_right fun _ => ?_
  by_cases hi : creator.selectedLevelIndex = i
  · by_cases htype : type' = type
    · subst htype
      simp [hi]
    · simp [hi, htype, EditableDomainLevel.nodes_modifyNodes_ne level f htype]
  · simp [hi]

theorem shownAt_addNode (type : NodeType) (node : Draw EditableNode) (i : Nat) (type' : NodeType)
    (n : EditableNode) :
    ShownAt (creator.addNode type node).domain i type' n ↔
      ShownAt creator.domain i type' n ∨
        (i < creator.domain.levels.length ∧ creator.selectedLevelIndex = i ∧ type' = type ∧
          n = (node creator.drawn).1) := by
  have hadded := shownAt_modifyNodes creator type (fun nodes => nodes ++ [(node creator.drawn).1]) i type' n
  refine hadded.trans ?_
  constructor
  · rintro ⟨level, hlevel, hn⟩
    split_ifs at hn with hselected
    · rw [List.mem_append, List.mem_singleton] at hn
      rcases hn with hold | hnew
      · exact Or.inl ⟨level, hlevel, hselected.2 ▸ hold⟩
      · exact Or.inr ⟨(List.getElem?_eq_some_iff.1 hlevel).1, hselected.1, hselected.2, hnew⟩
    · exact Or.inl ⟨level, hlevel, hn⟩
  · rintro (⟨level, hlevel, hn⟩ | ⟨hi, hselected, htype, hnew⟩)
    · refine ⟨level, hlevel, ?_⟩
      split_ifs with hselected
      · exact List.mem_append_left _ (hselected.2 ▸ hn)
      · exact hn
    · refine ⟨_, List.getElem?_eq_getElem hi, ?_⟩
      rw [if_pos ⟨hselected, htype⟩, hnew]
      exact List.mem_append_right _ List.mem_cons_self

theorem shownAt_removeNode (nodeId : String) (type : NodeType) (i : Nat) (type' : NodeType)
    (n : EditableNode) :
    ShownAt (handleRemoveNode nodeId type creator).domain i type' n ↔
      ShownAt creator.domain i type' n ∧
        ¬ (creator.selectedLevelIndex = i ∧ type' = type ∧ n.id = nodeId) := by
  have hremoved := shownAt_modifyNodes creator type
    (fun nodes => nodes.filter (fun n => n.id ≠ nodeId)) i type' n
  refine hremoved.trans ?_
  constructor
  · rintro ⟨level, hlevel, hn⟩
    split_ifs at hn with hselected
    · obtain ⟨hn, hid⟩ := List.mem_filter.1 hn
      exact ⟨⟨level, hlevel, hselected.2 ▸ hn⟩, fun h => by simp [h.2.2] at hid⟩
    · exact ⟨⟨level, hlevel, hn⟩, fun h => hselected ⟨h.1, h.2.1⟩⟩
  · rintro ⟨⟨level, hlevel, hn⟩, hkept⟩
    refine ⟨level, hlevel, ?_⟩
    split_ifs with hselected
    · refine List.mem_filter.2 ⟨hselected.2 ▸ hn, ?_⟩
      simpa using fun hid => hkept ⟨hselected.1, hselected.2, hid⟩
    · exact hn

theorem shownAt_updateNodeRequirement (nodeId : String) (type : NodeType)
    (requirement : RequirementUpdate) (i : Nat) (type' : NodeType) (nodeId' : String)
    (id : Option ElementId) :
    (∃ n, ShownAt (handleUpdateNodeRequirement nodeId type requirement creator).domain i type' n ∧
        n.id = nodeId' ∧ n.elementId = id) ↔
      ∃ n, ShownAt creator.domain i type' n ∧ n.id = nodeId' ∧ n.elementId = id := by
  have hupdated := fun n => shownAt_modifyNodes creator type (fun nodes => nodes.map
    (fun n => if n.id = nodeId then requirement.apply n else n)) i type' n
  have hsame (n : EditableNode) :
      (if n.id = nodeId then requirement.apply n else n).id = n.id ∧
        (if n.id = nodeId then requirement.apply n else n).elementId = n.elementId := by
    split <;> exact ⟨rfl, rfl⟩
  constructor
  · rintro ⟨n, hn, rfl, rfl⟩
    obtain ⟨level, hlevel, hn⟩ := (hupdated n).1 hn
    split_ifs at hn with hselected
    · obtain ⟨m, hm, rfl⟩ := List.mem_map.1 hn
      exact ⟨m, ⟨level, hlevel, hselected.2 ▸ hm⟩, (hsame m).1.symm, (hsame m).2.symm⟩
    · exact ⟨n, ⟨level, hlevel, hn⟩, rfl, rfl⟩
  · rintro ⟨n, ⟨level, hlevel, hn⟩, rfl, rfl⟩
    by_cases hselected : creator.selectedLevelIndex = i ∧ type' = type
    · refine ⟨_, (hupdated _).2 ⟨level, hlevel, ?_⟩, hsame n⟩
      rw [if_pos hselected]
      exact List.mem_map_of_mem (hselected.2 ▸ hn)
    · refine ⟨n, (hupdated n).2 ⟨level, hlevel, ?_⟩, rfl, rfl⟩
      rwa [if_neg hselected]

theorem shownAt_handleLevelUpdate (name description : String) (pointsRequired : Int) (i : Nat)
    (type : NodeType) (n : EditableNode) :
    ShownAt (handleLevelUpdate name description pointsRequired creator).domain i type n ↔
      ShownAt creator.domain i type n := by
  refine (shownAt_modifyLevel creator _ i type n).trans ?_
  refine exists_congr fun level => and_congr_right fun _ => ?_
  by_cases hselected : creator.selectedLevelIndex = i
  · rw [if_pos hselected]
    cases type <;> simp only [EditableDomainLevel.nodes]
  · rw [if_neg hselected]

theorem handleAddNewNode_cases {name description : String} {type : NodeType} {props : TypeSpecificProps}
    {w : World} {creator' : DomainCreator}
    (h : (env.exec (handleAddNewNode uuid codec name description type props creator) w).exit =
      .ok creator') :
    (∃ message, creator' = { creator with saveError := some message }) ∨
      ∃ node : Draw EditableNode, creator' = creator.addNode type node ∧
        ∀ k, (node k).1.elementId = none := by
  rw [handleAddNewNode, exec_bind] at h
  cases hexit : (env.exec (HttpService.createNode codec
      (createNodeRequest name description type props)) w).exit with
  | ok result =>
      have hid := HttpService.createNode_elementId hexit
      rw [Execution.exit_andThen hexit] at h
      cases hsuccess : result.success with
      | true =>
          simp only [hsuccess, if_true] at h
          refine Or.inr ⟨_, (Exit.ok.inj h).symm, fun k => ?_⟩
          rw [hid]
          cases type <;> rfl
      | false =>
          simp only [hsuccess, Bool.false_eq_true, if_false] at h
          exact Or.inl ⟨_, (Exit.ok.inj h).symm⟩
  | err e =>
      rw [Execution.exit_andThen_err hexit] at h
      cases h
  | panicked =>
      rw [Execution.andThen, hexit] at h
      cases h

end Shown

section Requests

def requirementOf (type : NodeType) (n : EditableNode) : GraphApi.Requirement :=
  match type with
  | .knowledge => (knowledgeRequirement n).toRequirement
  | .skill => (skillRequirement n).toRequirement
  | .trait => (traitRequirement n).toRequirement
  | .milestone => (milestoneRequirement n).toRequirement

/-- The entries of a level in the order in which they are saved. -/
def EditableDomainLevel.entries (level : EditableDomainLevel) : List (NodeType × EditableNode) :=
  level.knowledge.map (fun n => (.knowledge, n)) ++ level.skills.map (fun n => (.skill, n)) ++
    level.traits.map (fun n => (.trait, n)) ++ level.milestones.map (fun n => (.milestone, n))

@[simp] theorem requirementOf_label (type : NodeType) (n : EditableNode) :
    (requirementOf type n).label = type.label := by
  cases type <;> rfl

@[simp] theorem requirementOf_relType (type : NodeType) (n : EditableNode) :
    (requirementOf type n).relType = type.relType := by
  cases type <;> rfl

@[simp] theorem requirementOf_nodeElementId (type : NodeType) (n : EditableNode) :
    (requirementOf type n).nodeElementId = n.elementId := by
  cases type <;> rfl

@[simp] theorem requirementOf_newNode (type : NodeType) (n : EditableNode) :
    (requirementOf type n).newNode = none := by
  cases type <;> rfl

theorem scoreOrDefault_ne_zero (minScore : Option Int) : scoreOrDefault minScore ≠ 0 := by
  cases minScore with
  | none => simp [scoreOrDefault]
  | some score =>
      rw [scoreOrDefault]
      split
      · simp
      · assumption

theorem scoreOrDefault_eq {minScore : Option Int} (h : minScore ≠ some 0) :
    scoreOrDefault minScore = minScore.getD 50 := by
  cases minScore with
  | none => rfl
  | some score =>
      have hne : score ≠ 0 := fun hzero => h (congrArg some hzero)
      simp [scoreOrDefault, hne]

theorem mem_entries {level : EditableDomainLevel} {type : NodeType} {n : EditableNode} :
    (type, n) ∈ level.entries ↔ n ∈ level.nodes type := by
  cases type <;> simp [EditableDomainLevel.entries, EditableDomainLevel.nodes]

theorem entries_levelRequest (level : EditableDomainLevel) :
    (levelRequest level).requirements.entries = level.entries.map (fun e => requirementOf e.1 e.2) := by
  simp [levelRequest, GraphApi.LevelRequirements.entries, EditableDomainLevel.entries, requirementOf,
    Function.comp_def]

theorem onlyExisting_levelRequests (levels : List EditableDomainLevel) :
    GraphApi.OnlyExisting (levels.map levelRequest) := by
  intro level hlevel r hr
  obtain ⟨editable, -, rfl⟩ := List.mem_map.1 hlevel
  rw [entries_levelRequest] at hr
  obtain ⟨e, -, rfl⟩ := List.mem_map.1 hr
  exact requirementOf_newNode _ _

end Requests

end AtlasOfUs.Editor
