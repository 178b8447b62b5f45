import AtlasOfUs.GraphApi.NodeCreation
import AtlasOfUs.GraphApi.RequirementClashes
import AtlasOfUs.GraphApi.Storage
import AtlasOfUs.Library.Machine
import AtlasOfUs.Library.GraphInvariants
import AtlasOfUs.Worker.Creation

namespace AtlasOfUs

open Library

section Text

def strProp (props : Props) (key : String) : String := ((props key).bind Value.asStr).getD ""

/-- The text that a node is embedded for, as `create_node` puts it together. -/
def textOf (props : Props) : String := strProp props "name" ++ ": " ++ strProp props "description"

def isComponent (labels : List String) : Bool := labels.any GraphApi.componentLabels.contains

def vectorValue (vector : Embedding) : Value := .list (vector.map .float)

variable (embed : String → Embedding)

def CarriesEmbedding (labels : List String) (props : Props) : Prop :=
  isComponent labels = true → props "embedding" = some (vectorValue (embed (textOf props)))

def Embedded (g : Graph) : Prop := g.AllNodes (CarriesEmbedding embed)

variable {embed} {labels : List String} {props : Props}

theorem vectorValue_injective : Function.Injective vectorValue := by
  intro v v' h
  exact List.map_injective_iff.2 (fun _ _ => Scalar.float.inj) (Value.list.inj h)

theorem carriesEmbedding_of_not (h : isComponent labels = false) :
    CarriesEmbedding embed labels props := by
  intro hcomponent
  rw [h] at hcomponent
  cases hcomponent

/-- What carries the embedding of some text carries its own if both have one embedding. -/
theorem carriesEmbedding_iff {text : String}
    (h : isComponent labels = true → props "embedding" = some (vectorValue (embed text))) :
    CarriesEmbedding embed labels props ↔
      (isComponent labels = true → embed (textOf props) = embed text) := by
  refine forall_congr' fun hcomponent => ?_
  rw [h hcomponent, Option.some.injEq, vectorValue_injective.eq_iff]
  exact eq_comm

end Text

def EmbedsBy {Event Prompt : Type} (embed : String → Embedding)
    (calls : List (Call (services Event Prompt))) : Prop :=
  ∀ text (reply : Except String Embedding),
    (⟨.embed text, reply⟩ : Call (services Event Prompt)) ∈ calls → reply = .ok (embed text)

variable {embed : String → Embedding} {env : Env} {g : Graph}

section NodeService

open GraphApi

variable {conv : Conversion}

/-- The text of the node as it is stored. An object has been printed. -/
def GraphApi.Wire.CreateNodeRequest.storedText (conv : Conversion)
    (request : Wire.CreateNodeRequest) : String :=
  let stored := fun key => ((request.properties.get key).bind fun v =>
    (jsonValueToBoltType conv v).stored conv).getD none
  strProp stored "name" ++ ": " ++ strProp stored "description"

theorem textOf_created {request : Wire.CreateNodeRequest} {embedding : Embedding}
    {assignments : List (String × Option Value)}
    (h : (request.finalProperties embedding).assignments conv = some assignments) :
    textOf (assign assignments Props.empty) = request.storedText conv := by
  have hkept : ∀ key, key ≠ "embedding" → assign assignments Props.empty key =
      ((request.properties.get key).bind fun v => (jsonValueToBoltType conv v).stored conv).getD
        none := by
    intro key hkey
    rw [assign, PropertyMap.lookup_assignments h, Wire.CreateNodeRequest.finalProperties,
      PropertyMap.get_insert, if_neg hkey]
    rfl
  rw [textOf, strProp, strProp, hkept "name" (by decide), hkept "description" (by decide)]
  rfl

theorem embedding_created (hvectors : StoresVectors conv) {request : Wire.CreateNodeRequest}
    {embedding : Embedding} {assignments : List (String × Option Value)}
    (h : (request.finalProperties embedding).assignments conv = some assignments) :
    assign assignments Props.empty "embedding" = some (vectorValue embedding) := by
  rw [assign, PropertyMap.lookup_assignments h, Wire.CreateNodeRequest.finalProperties,
    PropertyMap.get_insert, if_pos rfl, Option.bind_some, stored_embedding hvectors]
  rfl

/-- The request creates no component, or one whose text is stored as it was embedded. -/
def GraphApi.Wire.CreateNodeRequest.KeepsText (embed : String → Embedding) (env : Env)
    (conv : Conversion) (checkSimilarity : Bool) (request : Wire.CreateNodeRequest) : Prop :=
  (checkSimilarity = true → Wire.passesCheck (env.similar 1) = true) →
    (env.outcome (if checkSimilarity then 2 else 1)).applied = true →
    ((request.finalProperties (embed request.textToEmbed)).assignments conv).isSome = true →
    isComponent request.labels = true →
      embed (request.storedText conv) = embed request.textToEmbed

theorem embedded_statement_iff (hvectors : StoresVectors conv) (request : Wire.CreateNodeRequest)
    (h : Embedded embed g) :
    Embedded embed (request.statement conv (embed request.textToEmbed) g).2 ↔
      (((request.finalProperties (embed request.textToEmbed)).assignments conv).isSome = true →
        isComponent request.labels = true →
          embed (request.storedText conv) = embed request.textToEmbed) := by
  rw [Wire.statement_eq]
  cases has : (request.finalProperties (embed request.textToEmbed)).assignments conv with
  | none => exact iff_of_true h fun hsome => by cases hsome
  | some assignments =>
      refine (Graph.allNodes_createNode_iff.trans (and_iff_right h)).trans ?_
      rw [carriesEmbedding_iff fun _ => embedding_created hvectors has, textOf_created has]
      exact (imp_iff_right rfl).symm

theorem embedded_createNode_iff (codec : Codec) (request : Wire.CreateNodeRequest)
    (checkSimilarity : Bool) (hvectors : StoresVectors conv) (h : Embedded embed g)
    (hembeds : EmbedsBy embed (env.exec (Wire.createNode conv codec request checkSimilarity :
      Rest Empty Empty CreateNodeResult) (.start g)).calls) :
    Embedded embed (env.exec (Wire.createNode conv codec request checkSimilarity :
        Rest Empty Empty CreateNodeResult) (.start g)).state.graph ↔
      request.KeepsText embed env conv checkSimilarity := by
  have hvector : env.embedding (World.start g).clock = .ok (embed request.textToEmbed) :=
    hembeds _ _ ((Wire.embed_mem_createNode_iff codec request checkSimilarity env (.start g) _ _).2
      ⟨rfl, rfl⟩)
  rw [Wire.graph_createNode codec request checkSimilarity hvector, Wire.CreateNodeRequest.KeepsText]
  have hafter : ∀ o : Outcome,
      Embedded embed (o.after (request.statement conv (embed request.textToEmbed)) g) ↔
        (o.applied = true → ((request.finalProperties
          (embed request.textToEmbed)).assignments conv).isSome = true →
            isComponent request.labels = true →
              embed (request.storedText conv) = embed request.textToEmbed) := by
    intro o
    rw [Wire.after_iff h, embedded_statement_iff hvectors request h]
    cases o.applied <;> simp
  cases checkSimilarity with
  | false =>
      simp only [Bool.false_eq_true, if_false, false_imp_iff, true_imp_iff]
      exact hafter _
  | true =>
      simp only [if_true, true_imp_iff]
      by_cases hpasses : Wire.passesCheck (env.similar 1) = true
      · have hpasses' : Wire.passesCheck (env.similar ((World.start g).clock + 1)) = true := hpasses
        rw [if_pos hpasses', imp_iff_right hpasses]
        exact hafter _
      · have hpasses' : ¬ Wire.passesCheck (env.similar ((World.start g).clock + 1)) = true := hpasses
        rw [if_neg hpasses']
        exact iff_of_true h fun hp => absurd hp hpasses

/-- A node of the labels and properties gets an embedding of its new text: it is given one, or the
new text has the embedding of the old one, or the node, no component so far, has one at hand. -/
def GivesEmbedding (embed : String → Embedding) (assignments : List (String × Option Value))
    (labels : List String) (props : Props) : Prop :=
  let text := textOf (assign assignments props)
  match assignments.lookup "embedding" with
  | some given => given = some (vectorValue (embed text))
  | none =>
      if isComponent labels then embed text = embed (textOf props)
      else props "embedding" = some (vectorValue (embed text))

theorem carriesEmbedding_assign_iff {assignments : List (String × Option Value)}
    {labels labels' : List String} {props : Props} (h : CarriesEmbedding embed labels props) :
    CarriesEmbedding embed labels' (assign assignments props) ↔
      (isComponent labels' = true → GivesEmbedding embed assignments labels props) := by
  refine forall_congr' fun _ => ?_
  rw [GivesEmbedding]
  cases hlookup : assignments.lookup "embedding" with
  | some given =>
      have hgiven : assign assignments props "embedding" = given := by rw [assign, hlookup]; rfl
      rw [hgiven]
  | none =>
      have hkept : assign assignments props "embedding" = props "embedding" := by
        rw [assign, hlookup]
        rfl
      rw [hkept]
      by_cases hcomponent : isComponent labels = true
      · rw [if_pos hcomponent, h hcomponent, Option.some.injEq, vectorValue_injective.eq_iff]
        exact eq_comm
      · rw [if_neg hcomponent]

/-- The node that the update reaches gets an embedding of its new text, if it is a component then. -/
def GraphApi.Wire.UpdateNodeRequest.KeepsText (embed : String → Embedding) (env : Env)
    (conv : Conversion) (request : Wire.UpdateNodeRequest) (g : Graph) : Prop :=
  let properties := request.properties.getD .empty
  (env.outcome 0).applied = true → ∀ i assignments,
    bound conv properties "targetId" request.targetId = some i →
    properties.assignments conv = some assignments → ∀ n ∈ g.nodes, n.id = i →
      isComponent (Wire.relabel request.labels n.labels) = true →
        GivesEmbedding embed assignments n.labels n.props

theorem embedded_updateNodeStatement_iff (request : Wire.UpdateNodeRequest)
    (h : Embedded embed g) :
    Embedded embed (Wire.updateNodeStatement conv request.labels
        (request.properties.getD .empty).keys
        ((Params.empty.param "targetId" (.str request.targetId)).paramAll conv
          (request.properties.getD .empty)) g).2 ↔
      ∀ i assignments, bound conv (request.properties.getD .empty) "targetId" request.targetId =
          some i →
        (request.properties.getD .empty).assignments conv = some assignments →
          ∀ n ∈ g.nodes, n.id = i → isComponent (Wire.relabel request.labels n.labels) = true →
            GivesEmbedding embed assignments n.labels n.props := by
  rw [Wire.updateNodeStatement, setClauses_paramAll, string_paramAll conv request.targetId rfl]
  cases bound conv (request.properties.getD .empty) "targetId" request.targetId with
  | none => exact iff_of_true h fun i _ hi => by cases hi
  | some i =>
      cases (request.properties.getD .empty).assignments conv with
      | none => exact iff_of_true h fun _ as _ has => by cases has
      | some assignments =>
          refine (Graph.allNodes_editNodes_iff h).trans ?_
          constructor
          · rintro hedited _ _ ⟨⟩ ⟨⟩ n hn hid
            exact (carriesEmbedding_assign_iff (h n hn)).1 (hedited n hn (decide_eq_true hid))
          · intro hgives n hn hid
            exact (carriesEmbedding_assign_iff (h n hn)).2
              (hgives i assignments rfl rfl n hn (of_decide_eq_true hid))

theorem givesEmbedding_of_untouched {assignments : List (String × Option Value)}
    {labels : List String} {props : Props} (hcomponent : isComponent labels = true)
    (h : ∀ key ∈ ["name", "description", "embedding"], assignments.lookup key = none) :
    GivesEmbedding embed assignments labels props := by
  have hkept : ∀ key ∈ ["name", "description", "embedding"],
      assign assignments props key = props key := by
    intro key hkey
    rw [assign, h key hkey, Option.getD_none]
  rw [GivesEmbedding, h "embedding" (by decide)]
  simp only [hcomponent, if_true, textOf, strProp]
  rw [hkept "name" (by decide), hkept "description" (by decide)]

theorem embedded_updateNode_iff (request : Wire.UpdateNodeRequest) (h : Embedded embed g) :
    Embedded embed (env.exec (Wire.updateNode conv request : Rest Empty Empty _)
        (.start g)).state.graph ↔
      request.KeepsText embed env conv g := by
  rw [Wire.UpdateNodeRequest.KeepsText]
  by_cases hgiven : request.labels = none ∧ request.properties = none
  · obtain ⟨hlabels, hproperties⟩ := hgiven
    have hgraph : (env.exec (Wire.updateNode conv request : Rest Empty Empty _)
        (.start g)).state.graph = g := by
      rw [Wire.updateNode, hlabels, hproperties]
      rfl
    rw [hgraph, hlabels, hproperties]
    refine iff_of_true h fun _ i assignments _ has n _ _ hcomponent => ?_
    obtain rfl : [] = assignments := Option.some.inj has
    exact givesEmbedding_of_untouched hcomponent fun _ _ => rfl
  · rw [Wire.graph_updateNode env _ hgiven]
    refine (Wire.after_iff (P := Embedded embed) h).trans ?_
    refine (or_congr_right (embedded_updateNodeStatement_iff request h)).trans ?_
    change (env.outcome 0).applied = false ∨ _ ↔ _
    cases (env.outcome 0).applied <;> simp

end NodeService

section DomainService

open GraphApi

def GraphApi.Requirement.FindsComponent (env : Env) (r : Requirement) (w : World) : Prop :=
  ∀ data, r.nodeElementId = none → r.newNode = some data → (env.outcome w.clock).applied = true →
    (named w.graph r.label data.name).isSome = true

def FindsComponents (env : Env) (domainId : ElementId) (levels : List DomainLevel) (w : World) :
    Prop :=
  ∀ (i : Nat) level levelId, levels[i]? = some level →
    (collectedIds env domainId levels w)[i]? = some levelId → ∀ (k : Nat) r,
      level.requirements.entries[k]? = some r →
        r.FindsComponent env (entryWorld env domainId levels w i level levelId k)

theorem componentProps_embedding (label : String) (data : NewNodeData) :
    (componentProps label data).toProps "embedding" = none := by
  rw [Properties.toProps, List.lookup_eq_none_iff]
  intro kv hkv
  rw [componentProps] at hkv
  split_ifs at hkv
  all_goals
    simp only [List.mem_append, List.mem_cons, List.not_mem_nil, or_false, Option.mem_toList,
      Option.map_eq_some_iff, reduceCtorEq] at hkv
    grind

theorem isComponent_singleton {label : String} (h : label ∈ componentLabels) :
    isComponent [label] = true := by
  rw [isComponent, List.any_cons, List.contains_iff_mem.2 h, Bool.true_or]

theorem embedded_mergeComponent_iff {label : String} (data : NewNodeData)
    (hlabel : label ∈ componentLabels) :
    Embedded embed (mergeComponentStatement label data.name (componentProps label data) g).2 ↔
      Embedded embed g ∧ (named g label data.name).isSome = true := by
  rw [mergeComponentStatement, named, ← List.head?_filter]
  cases g.nodes.filter (isNamed label data.name) with
  | cons n ns => exact (and_iff_left rfl).symm
  | nil =>
      refine iff_of_false (fun hmerged => ?_) fun hnamed => Bool.false_ne_true hnamed.2
      have hcarries := (Graph.allNodes_createNode_iff.1 hmerged).2 (isComponent_singleton hlabel)
      rw [componentProps_embedding] at hcarries
      cases hcarries

theorem embedded_processRequirement_iff (levelId : ElementId) {r : Requirement}
    (hlabel : r.label ∈ componentLabels) (w : World) :
    Embedded embed (env.exec (processRequirement levelId r) w).state.graph ↔
      Embedded embed w.graph ∧ r.FindsComponent env w := by
  rw [Embedded, Graph.allNodes_congr (processRequirement_nodes env levelId w r), ← Embedded,
    Requirement.FindsComponent, beforeLink]
  cases r.nodeElementId with
  | some existingId => exact (and_iff_left fun data hnone => by cases hnone).symm
  | none =>
      cases r.newNode with
      | none => exact (and_iff_left fun data _ hdata => by cases hdata).symm
      | some data =>
          simp only [Outcome.after]
          cases (env.outcome w.clock).applied with
          | false => exact (and_iff_left fun _ _ _ happlied => by cases happlied).symm
          | true =>
              refine (embedded_mergeComponent_iff data hlabel).trans (and_congr_right fun _ => ?_)
              constructor
              · rintro hnamed _ - ⟨⟩ -
                exact hnamed
              · exact fun hfinds => hfinds data trivial rfl rfl

theorem embedded_entries_iff (levelId : ElementId) (requirements : LevelRequirements) (w : World) :
    Embedded embed (beforeEntry env levelId w requirements.entries
        requirements.entries.length).graph ↔
      Embedded embed w.graph ∧ ∀ (k : Nat) r, requirements.entries[k]? = some r →
        r.FindsComponent env (beforeEntry env levelId w requirements.entries k) := by
  rw [beforeEntry, List.take_length]
  exact Proc.after_iff env.handler (P := fun w : World => Embedded embed w.graph)
    (fun r hr s => embedded_processRequirement_iff levelId (entries_kind hr).1 s) w

theorem isComponent_level : isComponent ["Domain_Level"] = false := by decide

theorem isComponent_domain : isComponent ["Domain"] = false := by decide

theorem embedded_createLevel_iff (domainId : ElementId) (level : DomainLevel) (w : World) :
    Embedded embed (env.exec (createLevel domainId level) w).state.graph ↔ Embedded embed w.graph := by
  rw [(exec_createLevel env domainId level w).2, Outcome.after]
  split
  · rw [createLevelStatement]
    split
    · rw [Embedded, Graph.allNodes_congr (Graph.createEdge_nodes _ _ _ _ _),
        Graph.allNodes_createNode_iff]
      exact and_iff_left (carriesEmbedding_of_not isComponent_level)
    · exact Iff.rfl
  · exact Iff.rfl

variable (env) in
theorem embedded_afterCreation_iff (domainId : ElementId) (levels : List DomainLevel) (w : World) :
    Embedded embed (afterCreation env domainId levels w).graph ↔ Embedded embed w.graph := by
  rw [afterCreation, beforeLevel, List.take_length]
  refine (Proc.after_iff env.handler (P := fun w : World => Embedded embed w.graph)
    (C := fun _ _ => True) (fun level _ s => ?_) w).trans (and_iff_left fun _ _ _ => trivial)
  exact (embedded_createLevel_iff domainId level s).trans (and_iff_left trivial).symm

theorem embedded_processLevel_iff (ids : List ElementId) (entry : DomainLevel × Nat) (w : World) :
    Embedded embed (env.exec (processLevel ids entry) w).state.graph ↔
      Embedded embed w.graph ∧ ∀ levelId, ids[entry.2]? = some levelId → ∀ (k : Nat) r,
        entry.1.requirements.entries[k]? = some r →
          r.FindsComponent env (beforeEntry env levelId w entry.1.requirements.entries k) := by
  rw [exec_processLevel]
  cases ids[entry.2]? with
  | none => exact (and_iff_left fun _ hid => by cases hid).symm
  | some levelId =>
      simp only [exec_processLevelRequirements]
      refine (embedded_entries_iff levelId entry.1.requirements w).trans (and_congr_right fun _ => ?_)
      constructor
      · rintro hall _ ⟨⟩
        exact hall
      · exact fun hall => hall levelId rfl

theorem embedded_storeLevels_iff (domainId : ElementId) (levels : List DomainLevel) (w : World) :
    Embedded embed (env.exec (storeLevels domainId levels) w).state.graph ↔
      Embedded embed w.graph ∧ FindsComponents env domainId levels w := by
  rw [exec_storeLevels_state, levelWorld, beforeRequirements, ← List.length_zipIdx, List.take_length]
  refine (Proc.after_iff env.handler (P := fun w : World => Embedded embed w.graph)
    (fun entry _ s => embedded_processLevel_iff _ entry s) _).trans ?_
  rw [embedded_afterCreation_iff]
  refine and_congr_right fun _ => ?_
  constructor
  · intro hall i level levelId hlevel hid
    exact hall i (level, i) (by simp [List.getElem?_zipIdx, hlevel]) levelId hid
  · intro hall i entry hentry levelId hid
    rw [List.getElem?_zipIdx, Option.map_eq_some_iff] at hentry
    obtain ⟨level, hlevel, rfl⟩ := hentry
    rw [Nat.zero_add] at hid
    exact hall i level levelId hlevel hid

theorem embedded_call_iff {α β : Type} {levels : List DomainLevel} {domainOf : α → ElementId}
    {p : Api α} {call : Api β} {finish : α → List CreatedNodeInfo → β} {w : World}
    (hcall : call = p >>= fun a => storeLevels (domainOf a) levels >>= fun nodes =>
      .done (finish a nodes)) :
    Embedded embed (env.exec call w).state.graph ↔ Embedded embed (env.exec p w).state.graph ∧
      ∀ domainId w', loopStart (env.exec p w) domainOf = some (domainId, w') →
        FindsComponents env domainId levels w' := by
  rw [hcall, exec_bind, loopStart]
  cases hopen : (env.exec p w).exit with
  | ok a =>
      obtain ⟨nodes, hnodes, -⟩ := exec_storeLevels env (domainOf a) levels (env.exec p w).state
      rw [Execution.state_andThen hopen, exec_bind, Execution.state_andThen hnodes]
      refine (embedded_storeLevels_iff (domainOf a) levels _).trans (and_congr_right fun _ => ?_)
      constructor
      · rintro hfinds _ _ ⟨⟩
        exact hfinds
      · exact fun hfinds => hfinds _ _ rfl
  | err e | panicked =>
      rw [Execution.state_andThen_of_none (by rw [hopen]; rfl)]
      exact (and_iff_left fun _ _ hstart => by cases hstart).symm

theorem embedded_createDomain_iff (request : CreateDomainRequest) (h : Embedded embed g) :
    Embedded embed (env.exec (createDomain request) (.start g)).state.graph ↔
      ∀ domainId w, createStart env (.start g) request = some (domainId, w) →
        FindsComponents env domainId request.levels w := by
  have hcreated : ∀ g', Embedded embed g' →
      Embedded embed (g'.createNode ["Domain"] (domainProps request.domain)) := fun g' hg' =>
    Graph.allNodes_createNode_iff.2 ⟨hg', carriesEmbedding_of_not isComponent_domain⟩
  have hopen : Embedded embed (env.exec (openDomain request) (.start g)).state.graph := by
    rcases openDomain_cases env (.start g) request with ⟨-, hgraph | hgraph⟩ | ⟨-, -, -, -, hstate⟩
    · rwa [hgraph]
    · rw [hgraph]
      exact hcreated g h
    · rw [hstate]
      exact after_cases (fun _ => id) hcreated _ h
  exact (embedded_call_iff (createDomain_eq request)).trans (and_iff_right hopen)

def GraphApi.UpdateDomainRequest.Removes (env : Env) (request : UpdateDomainRequest) (g : Graph)
    (n : Node) : Prop :=
  let w := World.start g
  env.outcome (progressed env w request).clock = .done ∧
    (env.outcome (renamed env w request).clock).applied = true ∧
    isLevelOf (renamed env w request).graph request.domainElementId n = true

/-- The domain that is renamed is no component, or its new text has the embedding of the old one, or
it is removed. -/
def GraphApi.UpdateDomainRequest.KeepsText (embed : String → Embedding) (env : Env)
    (request : UpdateDomainRequest) (g : Graph) : Prop :=
  Admitted env (.start g) request →
    (env.outcome (progressed env (.start g) request).clock).applied = true →
    ∀ n ∈ g.nodes, isNode "Domain" request.domainElementId n = true →
      isComponent n.labels = true → ¬ request.Removes env g n →
        embed (request.domain.name ++ ": " ++ request.domain.description) = embed (textOf n.props)

def renamedProps (domain : DomainInfo) (props : Props) : Props :=
  (props.set "name" (.str domain.name)).set "description" (.str domain.description)

theorem carriesEmbedding_renamed_iff {labels : List String} {props : Props}
    (h : CarriesEmbedding embed labels props) (domain : DomainInfo) :
    CarriesEmbedding embed labels (renamedProps domain props) ↔ (isComponent labels = true →
      embed (domain.name ++ ": " ++ domain.description) = embed (textOf props)) := by
  have hkept : isComponent labels = true →
      renamedProps domain props "embedding" = some (vectorValue (embed (textOf props))) := by
    intro hcomponent
    rw [renamedProps, Props.set_ne _ _ (by decide), Props.set_ne _ _ (by decide)]
    exact h hcomponent
  exact carriesEmbedding_iff hkept

section Reopen

variable (request : UpdateDomainRequest)

theorem progressed_nodes : (progressed env (.start g) request).graph.nodes = g.nodes := by
  rw [progressed, afterProgress]
  split
  · rfl
  · rw [Outcome.after]
    split <;> rfl

theorem embedded_renamed_iff (h : Embedded embed g) :
    Embedded embed (renamed env (.start g) request).graph ↔
      ((env.outcome (progressed env (.start g) request).clock).applied = true →
        ∀ n ∈ g.nodes, isNode "Domain" request.domainElementId n = true →
          isComponent n.labels = true →
            embed (request.domain.name ++ ": " ++ request.domain.description) =
              embed (textOf n.props)) := by
  have hstart : Embedded embed (progressed env (.start g) request).graph :=
    (Graph.allNodes_congr (progressed_nodes request)).2 h
  rw [renamed, afterRename, Outcome.after]
  cases (env.outcome (progressed env (.start g) request).clock).applied with
  | false => exact iff_of_true hstart fun happlied => by cases happlied
  | true =>
      rw [imp_iff_right rfl, ← @progressed_nodes env g request, if_pos rfl]
      change Graph.AllNodes (Graph.setNodes _ _ (renamedProps request.domain)) _ ↔ _
      refine (Graph.allNodes_setNodes_iff hstart).trans ?_
      refine forall₂_congr fun n hn => forall_congr' fun _ => ?_
      exact carriesEmbedding_renamed_iff (hstart n hn) request.domain

theorem embedded_cleared_iff (h : Embedded embed g)
    (hdone : env.outcome (progressed env (.start g) request).clock = .done) :
    Embedded embed (cleared env (.start g) request).graph ↔
      ∀ n ∈ g.nodes, isNode "Domain" request.domainElementId n = true →
        isComponent n.labels = true → ¬ request.Removes env g n →
          embed (request.domain.name ++ ": " ++ request.domain.description) =
            embed (textOf n.props) := by
  have hstart : Embedded embed (progressed env (.start g) request).graph :=
    (Graph.allNodes_congr (progressed_nodes request)).2 h
  have hremoves : ∀ n, request.Removes env g n ↔
      (env.outcome (renamed env (.start g) request).clock).applied = true ∧
        isLevelOf (renamed env (.start g) request).graph request.domainElementId n = true :=
    fun n => and_iff_right hdone
  rw [cleared, afterDeletion, Outcome.after]
  cases happlied : (env.outcome (renamed env (.start g) request).clock).applied with
  | false =>
      refine (embedded_renamed_iff request h).trans ?_
      rw [hdone]
      refine (imp_iff_right rfl).trans ?_
      refine forall₂_congr fun n _ => forall₂_congr fun _ _ => (imp_iff_right fun hremoved => ?_).symm
      rw [hremoves, happlied] at hremoved
      cases hremoved.1
  | true =>
      have hset : (renamed env (.start g) request).graph =
          (progressed env (.start g) request).graph.setNodes (isNode "Domain" request.domainElementId)
            (renamedProps request.domain) := by
        rw [renamed, afterRename, hdone]
        rfl
      rw [if_pos rfl]
      change Graph.AllNodes (Graph.detachDelete _ (isLevelOf (renamed env (.start g) request).graph
        request.domainElementId)) _ ↔ _
      rw [← @progressed_nodes env g request]
      nth_rewrite 1 [hset]
      refine (Graph.allNodes_setNodes_detachDelete_iff hstart).trans ?_
      refine forall₂_congr fun n hn => forall_congr' fun _ => ?_
      rw [carriesEmbedding_renamed_iff (hstart n hn), hremoves, happlied, and_iff_right rfl,
        Bool.not_eq_true]
      exact ⟨fun hkept hcomponent hstays => hkept hstays hcomponent,
        fun hkept hstays hcomponent => hkept hcomponent hstays⟩

theorem embedded_reopenDomain_iff (h : Embedded embed g) :
    Embedded embed (env.exec (reopenDomain request) (.start g)).state.graph ↔
      request.KeepsText embed env g := by
  have hlost : env.outcome (progressed env (.start g) request).clock ≠ .done → ∀ n,
      ¬ request.Removes env g n := fun hne n hremoved => hne hremoved.1
  have hcleared := @embedded_cleared_iff embed env g request h
  rw [UpdateDomainRequest.KeepsText]
  rcases reopenDomain_cases env (.start g) request with
    ⟨hadm, -, hgraph⟩ | ⟨hadm, hne, -, hstate⟩ | ⟨hadm, hdone, -, -, hstate⟩ |
      ⟨hadm, hdone, -, -, hstate⟩
  · rw [hgraph]
    exact iff_of_true h fun h => absurd h hadm
  · rw [hstate, imp_iff_right hadm]
    refine (embedded_renamed_iff request h).trans (imp_congr_right fun _ => ?_)
    refine forall₂_congr fun n _ => forall₂_congr fun _ _ => ?_
    exact (imp_iff_right (hlost hne n)).symm
  · rw [hstate, imp_iff_right hadm, hcleared hdone, hdone]
    exact (imp_iff_right rfl).symm
  · rw [hstate, imp_iff_right hadm, hcleared hdone, hdone]
    exact (imp_iff_right rfl).symm

theorem embedded_updateDomain_iff (h : Embedded embed g) :
    Embedded embed (env.exec (updateDomain request) (.start g)).state.graph ↔
      request.KeepsText embed env g ∧
        ∀ domainId w, updateStart env (.start g) request = some (domainId, w) →
          FindsComponents env domainId request.levels w :=
  (embedded_call_iff (updateDomain_eq request)).trans
    (and_congr_left' (embedded_reopenDomain_iff request h))

end Reopen

end DomainService

section Worker

open Worker

/-- The text of the node that the worker makes of the properties. -/
def Worker.GeneratedProperties.text (props : GeneratedProperties) : String :=
  props.name ++ ": " ++ (props.fields.lookup "description").getD ""

theorem textOf_stored (props : GeneratedProperties) (vector : Embedding) :
    textOf (props.stored vector) = props.text := by
  have hdescription : (props.stored vector) "description" =
      (props.fields.lookup "description").map .str := by
    rw [GeneratedProperties.stored, if_neg (by decide), if_neg (by decide)]
  rw [textOf, GeneratedProperties.text, strProp, strProp, hdescription]
  cases props.fields.lookup "description" <;> rfl

theorem isComponent_label (type : NodeType) : isComponent [type.label] = true := by
  cases type <;> decide

theorem carriesEmbedding_stored_iff (type : NodeType) (props : GeneratedProperties) :
    CarriesEmbedding embed [type.label] (props.stored (embed props.name)) ↔
      embed props.text = embed props.name := by
  rw [carriesEmbedding_iff fun _ => rfl, textOf_stored]
  exact imp_iff_right (isComponent_label type)

/-- A node that the job makes has the embedding of its name. -/
def Worker.NodeGenerationJob.KeepsText (embed : String → Embedding) (env : Env)
    (codec : WorkerCodec) (config : Config) (job : NodeGenerationJob) : Prop :=
  config.anthropicApiKey.isSome = true → ∀ props, job.generated codec env = some props →
    (env.outcome (job.generationCall env + 2)).applied = true → embed props.text = embed props.name

theorem embedded_processJob_iff (codec : WorkerCodec) (config : Config) (job : NodeGenerationJob)
    (h : Embedded embed g)
    (hembeds : EmbedsBy embed (env.exec (processJob codec config job) (.start g)).calls) :
    Embedded embed (env.exec (processJob codec config job) (.start g)).state.graph ↔
      job.KeepsText embed env codec config := by
  rw [NodeGenerationJob.KeepsText]
  cases hkey : config.anthropicApiKey with
  | none =>
      have hgraph : (env.exec (processJob codec config job) (.start g)).state.graph = g := by
        rw [processJob_eq, hkey]
        rfl
      rw [hgraph]
      exact iff_of_true h fun hsome => by cases hsome
  | some key =>
      have hmakes := makes_processJob codec hkey env job g
      rw [Option.isSome_some, imp_iff_right rfl]
      cases hgenerated : job.generated codec env with
      | none =>
          refine iff_of_true ?_ fun _ hprops => by cases hprops
          exact (Graph.allNodes_congr (hmakes.none hgenerated)).2 h
      | some props =>
          have hvector := hembeds _ _ (hmakes.embedded props hgenerated)
          have hnodes := hmakes.made props _ hgenerated hvector
          rw [Embedded, Graph.allNodes_congr hnodes, Outcome.after]
          cases (env.outcome (job.generationCall env + 2)).applied with
          | false => exact iff_of_true h fun _ _ happlied => by cases happlied
          | true =>
              refine (Graph.allNodes_createNode_iff.trans (and_iff_right h)).trans
                ((carriesEmbedding_stored_iff job.nodeType props).trans ?_)
              constructor
              · rintro hsame _ ⟨⟩ -
                exact hsame
              · exact fun hall => hall props rfl rfl

end Worker

section Run

open GraphApi

/-- What writes nodes, each with its arguments and the answers of the outside world. -/
inductive NodeWriter
  | createNode (env : Env) (conv : Conversion) (codec : Codec) (request : Wire.CreateNodeRequest)
      (checkSimilarity : Bool)
  | updateNode (env : Env) (conv : Conversion) (request : Wire.UpdateNodeRequest)
  | createDomain (env : Env) (request : CreateDomainRequest)
  | updateDomain (env : Env) (request : UpdateDomainRequest)
  | processJob (env : Env) (codec : Worker.WorkerCodec) (config : Worker.Config)
      (job : Worker.NodeGenerationJob)

namespace NodeWriter

def run : NodeWriter → Graph → Graph
  | createNode env conv codec request checkSimilarity, g =>
      (env.exec (Wire.createNode conv codec request checkSimilarity : Rest Empty Empty _)
        (.start g)).state.graph
  | updateNode env conv request, g =>
      (env.exec (Wire.updateNode conv request : Rest Empty Empty _) (.start g)).state.graph
  | createDomain env request, g => (env.exec (GraphApi.createDomain request) (.start g)).state.graph
  | updateDomain env request, g => (env.exec (GraphApi.updateDomain request) (.start g)).state.graph
  | processJob env codec config job, g =>
      (env.exec (Worker.processJob codec config job) (.start g)).state.graph

/-- Every embedding call succeeds and vectors are stored as they are sent. Only two of the writers
embed anything. -/
def EmbeddingsSucceed (embed : String → Embedding) : NodeWriter → Graph → Prop
  | createNode env conv codec request checkSimilarity, g => StoresVectors conv ∧
      EmbedsBy embed (env.exec (Wire.createNode conv codec request checkSimilarity :
        Rest Empty Empty _) (.start g)).calls
  | processJob env codec config job, g =>
      EmbedsBy embed (env.exec (Worker.processJob codec config job) (.start g)).calls
  | updateNode .., _ | createDomain .., _ | updateDomain .., _ => True

/-- What is written keeps text and embedding together. -/
def KeepsText (embed : String → Embedding) : NodeWriter → Graph → Prop
  | createNode env conv _ request checkSimilarity, _ =>
      request.KeepsText embed env conv checkSimilarity
  | updateNode env conv request, g => request.KeepsText embed env conv g
  | createDomain env request, g => ∀ domainId w,
      createStart env (.start g) request = some (domainId, w) →
        FindsComponents env domainId request.levels w
  | updateDomain env request, g => request.KeepsText embed env g ∧ ∀ domainId w,
      updateStart env (.start g) request = some (domainId, w) →
        FindsComponents env domainId request.levels w
  | processJob env codec config job, _ => job.KeepsText embed env codec config

theorem embedded_run_iff (writer : NodeWriter) (g : Graph) (hembeds : writer.EmbeddingsSucceed embed g)
    (h : Embedded embed g) : Embedded embed (writer.run g) ↔ writer.KeepsText embed g := by
  cases writer with
  | createNode env conv codec request checkSimilarity =>
      exact embedded_createNode_iff codec request checkSimilarity hembeds.1 h hembeds.2
  | updateNode env conv request => exact embedded_updateNode_iff request h
  | createDomain env request => exact embedded_createDomain_iff request h
  | updateDomain env request => exact embedded_updateDomain_iff request h
  | processJob env codec config job => exact embedded_processJob_iff codec config job h hembeds

end NodeWriter

def GraphApi.Bolt.number : Bolt → Option Scalar
  | .float q => some (.float q)
  | _ => none

/-- A store that keeps lists of numbers, and a model that knows of a text its length. -/
def listConversion : Conversion :=
  { Wire.plainConversion with
    storeList := fun vs => (vs.mapM Bolt.number).map .list }

def lengthVector (text : String) : Embedding := [(text.length : ℚ)]

theorem listConversion_storesVectors : StoresVectors listConversion := by
  intro vector
  have hall : (vector.map Bolt.float).mapM Bolt.number = some (vector.map .float) := by
    rw [mapM_eq_some, List.forall₂_map_left_iff, List.forall₂_map_right_iff, List.forall₂_same]
    exact fun _ _ => rfl
  exact congrArg (Option.map Value.list) hall

def openings : Wire.CreateNodeRequest where
  labels := ["Knowledge"]
  properties := ⟨[("name", .str "Openings"), ("description", .str "The first moves")], by decide⟩

def howToLearnOpenings : Wire.UpdateNodeRequest where
  targetId := emptyGraph.freshId
  labels := none
  properties := some ⟨[("how_to_learn", .str "Play")], by decide⟩

def openingsCreated : NodeWriter :=
  .createNode { Env.calm with embedding := fun _ => .ok (lengthVector openings.textToEmbed) }
    listConversion ⟨fun _ => .error "", fun _ => .error "", fun _ => ""⟩ openings false

def chess : CreateDomainRequest where
  domain := ⟨"Chess", ""⟩
  levels := [⟨1, "Novice", none, 100,
    ⟨[⟨none, some ⟨"Openings", "The first moves", none, none, none, none⟩, "Remember"⟩], [], [], []⟩⟩]

instance (embed : String → Embedding) (g : Graph) : Decidable (Embedded embed g) :=
  inferInstanceAs (Decidable (∀ n ∈ g.nodes, isComponent n.labels = true →
    n.props "embedding" = some (vectorValue (embed (textOf n.props)))))

end Run

end AtlasOfUs
