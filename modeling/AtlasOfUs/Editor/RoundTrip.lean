import AtlasOfUs.Editor.Known
import AtlasOfUs.GraphApi.WrittenView

namespace AtlasOfUs.Editor

open Library
open GraphApi (NodeType hasNode isNode isLevelOf IsLevel Written Stores OnlyExisting levelNode
  levelLink keptEdges UpdateDomainRequest WellFormed domainView openingWrites requirements)
open HttpService (orElse)

section Normal

/-- The node with the requirement that is saved for it: what it lacks is filled
in with what the editor starts from. -/
def normalNode (type : NodeType) (n : DomainNode) : DomainNode :=
  match type with
  | .knowledge => { n with bloomLevel := some (orElse n.bloomLevel "Remember") }
  | .skill => { n with dreyfusLevel := some (orElse n.dreyfusLevel "Novice") }
  | .trait => { n with minScore := some (n.minScore.getD 50) }
  | .milestone => n

def requirementProps (type : NodeType) (n : DomainNode) : GraphApi.Properties :=
  match type with
  | .knowledge => (n.bloomLevel.map (fun level => ("bloom_level", .str level))).toList
  | .skill => (n.dreyfusLevel.map (fun level => ("dreyfus_level", .str level))).toList
  | .trait => (n.minScore.map (fun score => ("min_score", .int score))).toList
  | .milestone => []

def existing (type : NodeType) (n : DomainNode) : GraphApi.Requirement :=
  ⟨type.label, type.relType, some n.elementId, none, requirementProps type n⟩

def DomainLevel.entries (level : DomainLevel) : List (NodeType × DomainNode) :=
  level.knowledge.map (fun n => (.knowledge, n)) ++ level.skills.map (fun n => (.skill, n)) ++
    level.traits.map (fun n => (.trait, n)) ++ level.milestones.map (fun n => (.milestone, n))

theorem mem_domainLevel_entries {level : DomainLevel} {type : NodeType} {n : DomainNode} :
    (type, n) ∈ level.entries ↔ n ∈ level.nodes type := by
  cases type <;> simp [DomainLevel.entries, DomainLevel.nodes]

theorem DomainLevel.map_entries {β : Type} (level : DomainLevel) (f : NodeType → DomainNode → β) :
    level.entries.map (fun e => f e.1 e.2) =
      (level.nodes .knowledge).map (f .knowledge) ++ (level.nodes .skill).map (f .skill) ++
        (level.nodes .trait).map (f .trait) ++ (level.nodes .milestone).map (f .milestone) := by
  simp [DomainLevel.entries, DomainLevel.nodes, Function.comp_def]

theorem DomainLevel.filter_entries (level : DomainLevel) (type : NodeType) :
    level.entries.filter (fun e => e.1 = type) = (level.nodes type).map (fun n => (type, n)) := by
  cases type <;> simp [DomainLevel.entries, DomainLevel.nodes, List.filter_map, Function.comp_def]

theorem EditableDomainLevel.map_entries {β : Type} (level : EditableDomainLevel)
    (f : NodeType → EditableNode → β) :
    level.entries.map (fun e => f e.1 e.2) =
      (level.nodes .knowledge).map (f .knowledge) ++ (level.nodes .skill).map (f .skill) ++
        (level.nodes .trait).map (f .trait) ++ (level.nodes .milestone).map (f .milestone) := by
  simp [EditableDomainLevel.entries, EditableDomainLevel.nodes, Function.comp_def]

/-- No trait of the response asks for a score of zero. -/
def NoZeroScore (data : DomainData) : Prop :=
  ∀ level ∈ data.levels, ∀ n ∈ level.traits, n.minScore ≠ some 0

instance (data : DomainData) : Decidable (NoZeroScore data) :=
  inferInstanceAs (Decidable (∀ level ∈ data.levels, ∀ n ∈ level.traits, n.minScore ≠ some 0))

end Normal

section Request

/-- The request asks for the level: the same fields and the same nodes with their
requirements, in the same order. -/
structure AsksFor (level : DomainLevel) (asked : GraphApi.DomainLevel) : Prop where
  number : asked.level = level.level
  name : asked.name = level.name
  description : asked.description.getD "" = level.description.getD ""
  pointsRequired : asked.pointsRequired = level.pointsRequired
  requirements : asked.requirements.entries =
    level.entries.map (fun e => existing e.1 (normalNode e.1 e.2))

/-- The request asks for the domain as it is, under its normalised name. -/
structure SameDomain (cases : CaseMapping) (data : DomainData) (request : UpdateDomainRequest) :
    Prop where
  elementId : request.domainElementId = data.elementId
  name : request.domain.name = capitalizeFirstLetter cases (trim data.name)
  description : request.domain.description = trim (data.description.getD "")
  levels : List.Forall₂ AsksFor data.levels request.levels
  removed : request.removedNodeElementIds = []

variable (uuid : Nat → String) (cases : CaseMapping)

theorem requirementOf_loaded {type : NodeType} {n : DomainNode}
    (h : type = .trait → n.minScore ≠ some 0) (k : Nat) :
    requirementOf type (domainNodeToEditableNode uuid n k).1 = existing type (normalNode type n) := by
  cases type with
  | trait =>
      have hscore := scoreOrDefault_eq (h rfl)
      simp only [requirementOf, traitRequirement, existing, normalNode, requirementProps, ← hscore]
      rfl
  | _ => rfl

theorem map_requirementOf_loaded {level : DomainLevel} (h : ∀ n ∈ level.traits, n.minScore ≠ some 0)
    (k : Nat) (type : NodeType) :
    ((domainLevelToEditableLevel uuid level k).1.nodes type).map (requirementOf type) =
      (level.nodes type).map (fun n => existing type (normalNode type n)) := by
  have hscore (n : DomainNode) (hn : n ∈ level.nodes type) : type = .trait → n.minScore ≠ some 0 := by
    rintro rfl
    exact h n hn
  refine map_eq_map_of_forall₂ ((List.forall₂_and_left _ _).2 ⟨hscore, nodes_loaded uuid level k type⟩) ?_
  rintro n _ ⟨hn, k', rfl⟩
  exact requirementOf_loaded uuid hn k'

theorem asksFor_loaded {level : DomainLevel} (h : ∀ n ∈ level.traits, n.minScore ≠ some 0) (k : Nat) :
    AsksFor level (levelRequest (domainLevelToEditableLevel uuid level k).1) where
  number := rfl
  name := rfl
  description := by
    change (if level.description.getD "" = "" then none else some (level.description.getD "")).getD "" = _
    split
    · rename_i hempty
      exact hempty.symm
    · rfl
  pointsRequired := rfl
  requirements := by
    have hnodes := map_requirementOf_loaded uuid h k
    rw [entries_levelRequest, EditableDomainLevel.map_entries, hnodes, hnodes, hnodes, hnodes]
    exact (level.map_entries (fun type n => existing type (normalNode type n))).symm

theorem loadedCreator_elementId (data : DomainData) :
    (loadedCreator uuid data).domain.elementId = some data.elementId := rfl

theorem loadedCreator_name (data : DomainData) : (loadedCreator uuid data).domain.name = data.name := rfl

theorem loadedCreator_description (data : DomainData) :
    (loadedCreator uuid data).domain.description = data.description.getD "" := rfl

theorem sameDomain_loaded {data : DomainData} (h : NoZeroScore data) :
    SameDomain cases data (domainToUpdateRequest cases (loadedCreator uuid data)) where
  elementId := by simp only [domainToUpdateRequest, loadedCreator_elementId, Option.getD_some]
  name := by simp only [domainToUpdateRequest, domainInfo, loadedCreator_name]
  description := by simp only [domainToUpdateRequest, domainInfo, loadedCreator_description]
  levels := by
    refine List.forall₂_map_right_iff.2 ?_
    have hlevels := (List.forall₂_and_left _ _).2 ⟨h, levels_loaded uuid data⟩
    refine hlevels.imp (fun level editable hlevel => ?_)
    obtain ⟨hscore, k, rfl⟩ := hlevel
    exact asksFor_loaded uuid hscore k
  removed := rfl

end Request

section Stored

def listed (type : NodeType) (n : DomainNode) : ElementId × Option Value :=
  (n.elementId, type.threshold.bind fun keys => (requirementProps type n).toProps keys.1)

def startThreshold : NodeType → Option Value
  | .knowledge => some (.str "Remember")
  | .skill => some (.str "Novice")
  | .trait => some (.int 50)
  | .milestone => none

def filledIn (type : NodeType) (r : ElementId × Option Value) : ElementId × Option Value :=
  if r.2 = none ∨ r.2 = some (.str "") then (r.1, startThreshold type) else r

theorem listed_eq (type : NodeType) (n : DomainNode) :
    listed type n = (n.elementId, match type with
      | .knowledge => n.bloomLevel.map .str
      | .skill => n.dreyfusLevel.map .str
      | .trait => n.minScore.map .int
      | .milestone => none) := by
  have hlookup {γ : Type} (key : String) (f : γ → Value) (v : Option γ) :
      GraphApi.Properties.toProps (v.map fun v => (key, f v)).toList key = v.map f := by
    cases v <;> simp [GraphApi.Properties.toProps]
  cases type with
  | knowledge => exact congrArg _ (hlookup "bloom_level" .str n.bloomLevel)
  | skill => exact congrArg _ (hlookup "dreyfus_level" .str n.dreyfusLevel)
  | trait => exact congrArg _ (hlookup "min_score" .int n.minScore)
  | milestone => rfl

theorem filledIn_level {type : NodeType} {start : String}
    (hstart : startThreshold type = some (.str start)) (id : ElementId) (level : Option String) :
    filledIn type (id, level.map .str) = (id, some (.str (orElse level start))) := by
  cases level with
  | none => simp [filledIn, hstart, orElse]
  | some level => by_cases hempty : level = "" <;> simp [filledIn, hstart, hempty, orElse]

theorem listed_normalNode (type : NodeType) (n : DomainNode) :
    listed type (normalNode type n) = filledIn type (listed type n) := by
  rw [listed_eq, listed_eq]
  cases type with
  | knowledge | skill => exact (filledIn_level rfl _ _).symm
  | trait => cases hscore : n.minScore <;> simp [filledIn, startThreshold, normalNode, hscore]
  | milestone => rfl

def ListsEachOnce (g : Graph) (level : DomainLevel) : Prop :=
  ∀ type, ((level.nodes type).map (listed type)).Perm
    ((requirements g type level.elementId).map (GraphApi.requirementOf type))

def savedLevel (id : ElementId) (level : DomainLevel) : Node :=
  ⟨id, ["Domain_Level"], GraphApi.Properties.toProps [("level", .int level.level),
    ("name", .str level.name), ("description", .str (level.description.getD "")),
    ("total_points_required", .int level.pointsRequired)]⟩

def savedLinks (id : ElementId) (level : DomainLevel) :
    List (String × ElementId × ElementId × Props) :=
  level.entries.map fun e =>
    (e.1.relType, id, e.2.elementId, (requirementProps e.1 (normalNode e.1 e.2)).toProps)

def storedDomain (cases : CaseMapping) (data : DomainData) (d : Node) : Node :=
  { d with
    props := (d.props.set "name" (.str (capitalizeFirstLetter cases (trim data.name)))).set
      "description" (.str (trim (data.description.getD ""))) }

/-- The graph after a domain was saved as the response gives it: its levels are
other nodes with the same requirements, and all that is neither the domain nor
one of its levels is as it was. -/
structure StoredAgain (cases : CaseMapping) (g : Graph) (data : DomainData) (final : Graph)
    (ids : List ElementId) : Prop where
  length : ids.length = data.levels.length
  nodes : final.nodes = ((g.nodes.filter fun n => !isLevelOf g data.elementId n).map fun n =>
      if isNode "Domain" data.elementId n then storedDomain cases data n else n) ++
    List.zipWith savedLevel ids data.levels
  edges : ∃ es, final.edges = keptEdges data.elementId g ++ es ∧ es.map Edge.content =
    ids.map (levelLink data.elementId) ++ (List.zipWith savedLinks ids data.levels).flatten
  requirements : ∀ (i : Nat) id level, ids[i]? = some id → data.levels[i]? = some level →
    ListsEachOnce g level → ∀ type, ((requirements final type id).map (GraphApi.requirementOf type)).Perm
      ((requirements g type level.elementId).map fun r => filledIn type (GraphApi.requirementOf type r))

end Stored

/-- None of the nodes that the domain is or requires is one of its levels. -/
structure Apart (g : Graph) (data : DomainData) : Prop where
  domain : ¬ IsLevel g data.elementId data.elementId
  required : ∀ level ∈ data.levels, ∀ type, ∀ n ∈ level.nodes type,
    ¬ IsLevel g data.elementId n.elementId

section Rewritten

variable {g final : Graph} {d : Node} {data : DomainData} {cases : CaseMapping}
  {request : UpdateDomainRequest} {progress : Bool} {ids : List ElementId}
  (hread : readDomain (domainView g d) = some data) (hapart : Apart g data)
  (hsame : SameDomain cases data request)

include hsame

theorem zipWith_levelNode_eq : List.zipWith levelNode ids request.levels =
    List.zipWith savedLevel ids data.levels := by
  refine zipWith_eq_of_forall₂ hsame.levels (fun level _ asked hasks id => ?_) ids
  simp [levelNode, GraphApi.levelProps, savedLevel, hasks.number, hasks.name, hasks.description,
    hasks.pointsRequired]

include hread hapart

theorem hasNode_required {level : DomainLevel} (hlevel : level ∈ data.levels) {type : NodeType}
    {n : DomainNode} (hn : n ∈ level.nodes type) :
    hasNode (openingWrites request progress true true g) type.label n.elementId = true := by
  rw [GraphApi.hasNode_openingWrites, hsame.elementId]
  exact ⟨hasNode_of_readDomain hread hlevel hn, hapart.required level hlevel type n hn⟩

theorem levelLinks_eq {level : DomainLevel} (hlevel : level ∈ data.levels)
    {asked : GraphApi.DomainLevel} (hasks : AsksFor level asked) (id : ElementId) :
    GraphApi.levelLinks (openingWrites request progress true true g) id asked = savedLinks id level := by
  rw [GraphApi.levelLinks, hasks.requirements, List.filterMap_map, savedLinks,
    ← List.filterMap_eq_map]
  refine List.filterMap_congr fun e he => ?_
  have hnode : hasNode (openingWrites request progress true true g) e.1.label e.2.elementId = true :=
    hasNode_required hread hapart hsame hlevel (mem_domainLevel_entries.1 he)
  have hnormal : (normalNode e.1 e.2).elementId = e.2.elementId := by cases e.1 <;> rfl
  simp [GraphApi.linkOf, existing, hnormal, hnode]

theorem zipWith_levelLinks_eq :
    List.zipWith (GraphApi.levelLinks (openingWrites request progress true true g)) ids request.levels =
      List.zipWith savedLinks ids data.levels :=
  zipWith_eq_of_forall₂ hsame.levels
    (fun _ hlevel _ hasks => levelLinks_eq hread hapart hsame hlevel hasks) ids

variable (hwritten : Written (openingWrites request progress true true g) final data.elementId
  request.levels ids)

include hwritten

theorem requirements_saved {i : Nat} {id : ElementId} {level : DomainLevel} (hid : ids[i]? = some id)
    (hlevel : data.levels[i]? = some level) (type : NodeType) :
    (requirements final type id).map (GraphApi.requirementOf type) =
      (level.nodes type).map fun n => filledIn type (listed type n) := by
  have hmem : level ∈ data.levels := List.mem_of_getElem? hlevel
  obtain ⟨asked, hasked, hasks⟩ := exists_getElem?_of_forall₂ hsame.levels.flip hlevel
  have hkeep (e : NodeType × DomainNode) (he : e ∈ level.entries) :
      (decide (e.1.relType = type.relType) && hasNode final type.label e.2.elementId) =
        decide (e.1 = type) := by
    by_cases htype : e.1 = type
    · have hopened : hasNode (openingWrites request progress true true g) e.1.label e.2.elementId =
          true := hasNode_required hread hapart hsame hmem (mem_domainLevel_entries.1 he)
      have hlabel : type.label ≠ "Domain_Level" := by cases type <;> simp [NodeType.label]
      rw [htype] at hopened
      simp [htype, GraphApi.hasNode_append_levelNodes hwritten.nodes hlabel, hopened]
    · simp [htype, NodeType.relType_injective.ne htype]
  rw [hwritten.requirements_eq hid hasked, levelLinks_eq hread hapart hsame hmem hasks, savedLinks,
    List.filter_map, List.map_map]
  refine (congrArg (List.map _) (List.filter_congr hkeep)).trans ?_
  rw [level.filter_entries, List.map_map]
  refine List.map_congr_left fun n _ => ?_
  have hnormal : (normalNode type n).elementId = n.elementId := by cases type <;> rfl
  rw [← listed_normalNode]
  exact Prod.ext hnormal.symm rfl

theorem storedAgain_of_written : StoredAgain cases g data final ids where
  length := hwritten.length.trans hsame.levels.length_eq.symm
  nodes := by
    rw [hwritten.nodes, GraphApi.openingWrites_nodes, GraphApi.keptNodes, hsame.elementId,
      zipWith_levelNode_eq hsame]
    have hrenamed : GraphApi.renamedDomain request = storedDomain cases data := by
      funext d
      rw [GraphApi.renamedDomain, hsame.name, hsame.description, storedDomain]
    rw [hrenamed]
  edges := by
    obtain ⟨es, hedges, hcontent⟩ := hwritten.edges
    rw [GraphApi.openingWrites_edges hsame.removed, hsame.elementId] at hedges
    rw [zipWith_levelLinks_eq hread hapart hsame] at hcontent
    exact ⟨es, hedges, hcontent⟩
  requirements i id level hid hlevel honce type := by
    rw [requirements_saved hread hapart hsame hwritten hid hlevel type]
    have hperm := (honce type).map (filledIn type)
    rw [List.map_map, List.map_map] at hperm
    exact hperm

end Rewritten

section Saved

variable {env : Env} {w : World} {data : DomainData} {cases : CaseMapping}

theorem updateDomain_sameDomain (henv : GraphApi.Undisturbed env) {d : Node}
    {request : UpdateDomainRequest} (hsame : SameDomain cases data request)
    (honly : OnlyExisting request.levels) (hread : readDomain (domainView w.graph d) = some data)
    (hd : d ∈ w.graph.nodes) (hlabel : d.hasLabel "Domain" = true) (hapart : Apart w.graph data)
    (hform : WellFormed request.domain request.levels) :
    (∃ result, (env.exec (GraphApi.updateDomain request) w).exit = .ok result) ∧
      ∃ ids, StoredAgain cases w.graph data
        (env.exec (GraphApi.updateDomain request) w).state.graph ids := by
  obtain ⟨hid, -, -, -⟩ := readDomain_eq_some.1 hread
  have hthere : hasNode w.graph "Domain" request.domainElementId = true := by
    refine List.any_eq_true.2 ⟨d, hd, ?_⟩
    rw [isNode, hlabel, hsame.elementId, hid]
    simp [domainView]
  obtain ⟨result, hresult⟩ := GraphApi.updateDomain_undisturbed_ok henv hform hthere
  obtain ⟨-, -, -, -, progress, hstores⟩ := GraphApi.updateDomain_undisturbed henv honly hresult
  have hkept : hasNode (openingWrites request progress true true w.graph) "Domain"
      request.domainElementId = true := by
    rw [GraphApi.hasNode_openingWrites, hsame.elementId]
    exact ⟨hsame.elementId ▸ hthere, hapart.domain⟩
  refine ⟨⟨result, hresult⟩, ?_⟩
  rcases hstores with ⟨-, ids, hwritten⟩ | ⟨hgone, -⟩
  · rw [hsame.elementId] at hwritten
    exact ⟨ids, storedAgain_of_written hread hapart hsame hwritten⟩
  · rw [hkept] at hgone
    cases hgone

/-- The request that a domain leads to when it is loaded and not edited. -/
def uneditedRequest (uuid : Nat → String) (cases : CaseMapping) (data : DomainData) :
    UpdateDomainRequest :=
  domainToUpdateRequest cases (loadedCreator uuid data)

theorem onlyExisting_uneditedRequest (uuid : Nat → String) :
    OnlyExisting (uneditedRequest uuid cases data).levels :=
  onlyExisting_levelRequests (loadedCreator uuid data).domain.levels

end Saved

section MachineLearning

def graphWithRegression : Graph :=
  emptyGraph.createNode ["Knowledge"] (GraphApi.Properties.toProps [("name", .str "Regression")])

def machineLearning : GraphApi.CreateDomainRequest where
  domain := ⟨"Machine Learning", "Learning from data"⟩
  levels := [⟨1, "Novice", none, 50, { GraphApi.noRequirements with
    knowledge := [⟨some (candidateId 0), none, "Apply"⟩] }⟩]

def machineLearningStored : World :=
  (Env.calm.exec (GraphApi.createDomain machineLearning) (World.start graphWithRegression)).state

def regression : DomainNode where
  elementId := candidateId 0
  type := .knowledge
  name := "Regression"
  description := none
  howToLearn := none
  howToDevelop := none
  measurementCriteria := none
  howToAchieve := none
  bloomLevel := some "Apply"
  dreyfusLevel := none
  minScore := none

def machineLearningData : DomainData where
  elementId := candidateId 1
  name := "Machine Learning"
  description := some "Learning from data"
  levels := [⟨candidateId 2, 1, "Novice", some "", 50, [regression], [], [], []⟩]

def fetched (exit : Exit GraphApi.ServiceError (Option Json)) : Option DomainData :=
  match exit with
  | .ok response => response.bind DomainData.ofJson
  | _ => none

theorem fetched_eq_some {exit : Exit GraphApi.ServiceError (Option Json)} {data : DomainData}
    (h : fetched exit = some data) :
    ∃ response, exit = .ok (some response) ∧ DomainData.ofJson response = some data := by
  cases exit with
  | ok response =>
      obtain ⟨response, rfl, hdata⟩ := Option.bind_eq_some_iff.1 h
      exact ⟨response, rfl, hdata⟩
  | _ => cases h

theorem machineLearning_fetched : ∃ response,
    (Env.calm.exec (HttpService.fetchDomain "Machine Learning") machineLearningStored).exit =
      .ok (some response) ∧ DomainData.ofJson response = some machineLearningData :=
  fetched_eq_some (by decide +kernel)

def graphWithGeneralRegression : Graph :=
  let named (name : String) : Props := GraphApi.Properties.toProps [("name", .str name)]
  (((graphWithRegression.createNode ["Knowledge"] (named "Statistics")).createNode ["Knowledge"]
    (named "Modelling")).createEdge "GENERALIZES_TO" (candidateId 0) (candidateId 1) Props.empty).createEdge
      "GENERALIZES_TO" (candidateId 0) (candidateId 2) Props.empty

def generalStored : World :=
  (Env.calm.exec (GraphApi.createDomain machineLearning) (World.start graphWithGeneralRegression)).state

def generalData : DomainData :=
  { machineLearningData with
    elementId := candidateId 5
    levels := [⟨candidateId 6, 1, "Novice", some "", 50, [regression, regression], [], [], []⟩] }

def requiresKnowledge (g : Graph) : List (ElementId × ElementId) :=
  (g.edges.filter (fun e => e.type = "REQUIRES_KNOWLEDGE")).map (fun e => (e.source, e.target))

theorem apart_machineLearning : Apart machineLearningStored.graph machineLearningData where
  domain := by decide +kernel
  required level hlevel type n hn := by
    obtain rfl := List.mem_singleton.1 hlevel
    cases type with
    | knowledge =>
        obtain rfl := List.mem_singleton.1 hn
        decide +kernel
    | _ => cases hn

end MachineLearning

end AtlasOfUs.Editor
