import AtlasOfUs.Editor.Session

namespace AtlasOfUs.Editor

open Library
open GraphApi (NodeType NodeView LevelView DomainView)

section Reading

def optStringProp (v : Option Value) : Option (Option String) := optString (propJson v)

def readNode (type : NodeType) (v : NodeView) : Option DomainNode := do
  let name ← (propJson v.name).asStr
  let description ← optStringProp v.description
  let detail ← optStringProp v.detail
  match type with
  | .knowledge =>
      return ⟨v.elementId, type, name, description, detail, none, none, none,
        ← optStringProp v.threshold, none, none⟩
  | .skill =>
      return ⟨v.elementId, type, name, description, none, detail, none, none, none,
        ← optStringProp v.threshold, none⟩
  | .trait =>
      return ⟨v.elementId, type, name, description, none, none, detail, none, none, none,
        ← optNumber (propJson v.threshold)⟩
  | .milestone =>
      return ⟨v.elementId, type, name, description, none, none, none, detail, none, none, none⟩

theorem nodeOfJson_toJson (type : NodeType) (v : NodeView) :
    DomainNode.ofJson (v.toJson type) = readNode type v := by
  cases type
  all_goals
    simp [DomainNode.ofJson, NodeView.toJson, readNode, field, Json.get, List.lookup_cons, NodeType.detail,
      NodeType.threshold, NodeType.generalizes, NodeType.name, nodeType, Json.asStr, optString, optNumber,
      optStringProp]

def readLevel (v : LevelView) : Option DomainLevel := do
  return {
    elementId := v.elementId
    level := ← number (propJson v.level)
    name := ← (propJson v.name).asStr
    description := ← optStringProp v.description
    pointsRequired := ← number (propJson v.pointsRequired)
    knowledge := ← (v.nodes .knowledge).mapM (readNode .knowledge)
    skills := ← (v.nodes .skill).mapM (readNode .skill)
    traits := ← (v.nodes .trait).mapM (readNode .trait)
    milestones := ← (v.nodes .milestone).mapM (readNode .milestone) }

theorem levelOfJson_toJson (v : LevelView) : DomainLevel.ofJson v.toJson = readLevel v := by
  have hnode (type : NodeType) : DomainNode.ofJson ∘ NodeView.toJson type = readNode type :=
    funext (nodeOfJson_toJson type)
  simp [DomainLevel.ofJson, LevelView.toJson, readLevel, field, Json.get, List.lookup_cons, listOf,
    Json.asArray, Json.asStr, hnode, optStringProp]

def readDomain (v : DomainView) : Option DomainData := do
  return {
    elementId := v.elementId
    name := ← (propJson v.name).asStr
    description := ← optStringProp v.description
    levels := ← v.levels.mapM readLevel }

theorem domainOfJson_toJson (v : DomainView) : DomainData.ofJson v.toJson = readDomain v := by
  have hlevel : DomainLevel.ofJson ∘ LevelView.toJson = readLevel := funext levelOfJson_toJson
  simp [DomainData.ofJson, DomainView.toJson, readDomain, field, Json.get, List.lookup_cons, listOf,
    Json.asArray, Json.asStr, hlevel, optStringProp]

theorem readNode_id {type : NodeType} {v : NodeView} {n : DomainNode} (h : readNode type v = some n) :
    n.elementId = v.elementId ∧ n.type = type := by
  simp only [readNode, Option.bind_eq_bind, Option.bind_eq_some_iff] at h
  obtain ⟨name, -, description, -, detail, -, h⟩ := h
  cases type with
  | milestone =>
      obtain rfl := Option.some.inj h
      exact ⟨rfl, rfl⟩
  | _ =>
      obtain ⟨threshold, -, h⟩ := Option.bind_eq_some_iff.1 h
      obtain rfl := Option.some.inj h
      exact ⟨rfl, rfl⟩

theorem readLevel_eq_some {v : LevelView} {level : DomainLevel} :
    readLevel v = some level ↔
      level.elementId = v.elementId ∧ number (propJson v.level) = some level.level ∧
        (propJson v.name).asStr = some level.name ∧
        optStringProp v.description = some level.description ∧
        number (propJson v.pointsRequired) = some level.pointsRequired ∧
        ∀ type, List.Forall₂ (fun v n => readNode type v = some n) (v.nodes type) (level.nodes type) := by
  simp only [readLevel, Option.bind_eq_bind, Option.bind_eq_some_iff, mapM_eq_some, Option.pure_def]
  constructor
  · rintro ⟨number, hlevel, name, hname, description, hdescription, points, hpoints, knowledge, hk,
      skills, hs, traits, ht, milestones, hm, h⟩
    obtain rfl := Option.some.inj h
    refine ⟨rfl, hlevel, hname, hdescription, hpoints, fun type => ?_⟩
    cases type
    · exact hk
    · exact hs
    · exact ht
    · exact hm
  · rintro ⟨hid, hlevel, hname, hdescription, hpoints, hnodes⟩
    refine ⟨_, hlevel, _, hname, _, hdescription, _, hpoints, _, hnodes .knowledge, _, hnodes .skill, _,
      hnodes .trait, _, hnodes .milestone, ?_⟩
    rw [← hid]
    rfl

theorem readDomain_eq_some {v : DomainView} {data : DomainData} :
    readDomain v = some data ↔
      data.elementId = v.elementId ∧ (propJson v.name).asStr = some data.name ∧
        optStringProp v.description = some data.description ∧
        List.Forall₂ (fun v level => readLevel v = some level) v.levels data.levels := by
  simp only [readDomain, Option.bind_eq_bind, Option.bind_eq_some_iff, mapM_eq_some, Option.pure_def]
  constructor
  · rintro ⟨name, hname, description, hdescription, levels, hlevels, h⟩
    obtain rfl := Option.some.inj h
    exact ⟨rfl, hname, hdescription, hlevels⟩
  · rintro ⟨hid, hname, hdescription, hlevels⟩
    refine ⟨_, hname, _, hdescription, _, hlevels, ?_⟩
    rw [← hid]

theorem hasNode_of_readDomain {g : Graph} {d : Node} {data : DomainData}
    (h : readDomain (GraphApi.domainView g d) = some data) {level : DomainLevel}
    (hlevel : level ∈ data.levels) {type : NodeType} {n : DomainNode} (hn : n ∈ level.nodes type) :
    GraphApi.hasNode g type.label n.elementId = true := by
  obtain ⟨-, -, -, hlevels⟩ := readDomain_eq_some.1 h
  obtain ⟨v, hv, hread⟩ := exists_mem_of_forall₂ hlevels hlevel
  obtain ⟨l, -, -, rfl⟩ := GraphApi.mem_levels_domainView.1 hv
  obtain ⟨-, -, -, -, -, hnodes⟩ := readLevel_eq_some.1 hread
  obtain ⟨view, hview, hnode⟩ := exists_mem_of_forall₂ (hnodes type) hn
  rw [(readNode_id hnode).1]
  exact GraphApi.hasNode_of_mem_nodeViews hview

end Reading

section Loaded

variable (uuid : Nat → String)

theorem levels_loaded (data : DomainData) :
    List.Forall₂ (fun level editable => ∃ k, (domainLevelToEditableLevel uuid level k).1 = editable)
      data.levels (loadedCreator uuid data).domain.levels :=
  forall₂_mapM_state _ _ _

theorem nodes_loaded (level : DomainLevel) (k : Nat) (type : NodeType) :
    List.Forall₂ (fun node editable => ∃ k, (domainNodeToEditableNode uuid node k).1 = editable)
      (level.nodes type) ((domainLevelToEditableLevel uuid level k).1.nodes type) := by
  cases type <;> exact forall₂_mapM_state _ _ _

theorem shownAt_loaded {data : DomainData} {i : Nat} {type : NodeType} {n : EditableNode}
    (h : ShownAt (loadedCreator uuid data).domain i type n) :
    ∃ level ∈ data.levels, ∃ node ∈ level.nodes type, n.elementId = some node.elementId := by
  obtain ⟨editable, hlevel, hn⟩ := h
  obtain ⟨level, hget, k, rfl⟩ := exists_getElem?_of_forall₂ (levels_loaded uuid data) hlevel
  obtain ⟨node, hnode, k', rfl⟩ := exists_mem_of_forall₂ (nodes_loaded uuid level k type) hn
  exact ⟨level, List.mem_of_getElem? hget, node, hnode, rfl⟩

end Loaded

end AtlasOfUs.Editor
