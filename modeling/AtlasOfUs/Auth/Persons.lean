import AtlasOfUs.Agent.Emissions
import AtlasOfUs.Auth.Overlap
import AtlasOfUs.GraphApi.DomainStatements
import AtlasOfUs.GraphApi.NodeCreation
import AtlasOfUs.Library.GraphInvariants
import AtlasOfUs.Viewer.ProgressPage
import AtlasOfUs.Worker.Emissions

namespace AtlasOfUs.Auth

open Library GraphApi

def persons (g : Graph) : List Node := g.nodes.filter (Node.hasLabel "Person")

/-- Every person has the labels that a signup gives, and so none that other parts of the graph have. -/
def PlainPersons (g : Graph) : Prop := ∀ n ∈ persons g, n.labels = userLabels

def KeepsPersons (q : Statement) : Prop := ∀ g, PlainPersons g → persons (q g).2 = persons g

section Graph

variable {g g' : Graph}

theorem mem_persons {n : Node} : n ∈ persons g ↔ n ∈ g.nodes ∧ n.hasLabel "Person" = true :=
  List.mem_filter

theorem PlainPersons.congr (h : PlainPersons g) (hsame : persons g' = persons g) :
    PlainPersons g' := by
  intro n hn
  rw [hsame] at hn
  exact h n hn

theorem persons_of_nodes (h : g'.nodes = g.nodes) : persons g' = persons g := by
  rw [persons, h, persons]

theorem persons_createNode (labels : List String) (props : Props) :
    persons (g.createNode labels props) =
      if labels.contains "Person" = true then persons g ++ [⟨g.freshId, labels, props⟩]
      else persons g := by
  have hlabel : Node.hasLabel "Person" (⟨g.freshId, labels, props⟩ : Node) =
      labels.contains "Person" := rfl
  rw [persons, Graph.createNode_nodes, List.filter_append, List.filter_singleton, hlabel, persons]
  cases labels.contains "Person" with
  | true => rfl
  | false => exact List.append_nil _

theorem PlainPersons.not_hasLabel (h : PlainPersons g) {n : Node} (hn : n ∈ persons g)
    {label : String} (hlabel : userLabels.contains label = false) : n.hasLabel label = false := by
  rw [Node.hasLabel, h n hn]
  exact hlabel

theorem persons_editNodes {p : Node → Bool} {ls : List String → List String} {f : Props → Props}
    (h : ∀ n ∈ g.nodes, p n = true →
      n.hasLabel "Person" = false ∧ (ls n.labels).contains "Person" = false) :
    persons (g.editNodes p ls f) = persons g := by
  have hlabel : ∀ n ∈ g.nodes,
      Node.hasLabel "Person" (if p n then ⟨n.id, ls n.labels, f n.props⟩ else n) =
        Node.hasLabel "Person" n := by
    intro n hn
    by_cases hp : p n = true
    · rw [if_pos hp, (h n hn hp).1]
      exact (h n hn hp).2
    · rw [if_neg hp]
  have hpersons : persons (g.editNodes p ls f) = (g.nodes.filter fun n =>
      Node.hasLabel "Person" (if p n then ⟨n.id, ls n.labels, f n.props⟩ else n)).map
        fun n => if p n then ⟨n.id, ls n.labels, f n.props⟩ else n := List.filter_map
  rw [hpersons, List.filter_congr hlabel]
  refine (List.map_congr_left fun n hn => ?_).trans (List.map_id _)
  obtain ⟨hn, hperson⟩ := mem_persons.1 hn
  refine if_neg fun hp => ?_
  rw [(h n hn hp).1] at hperson
  cases hperson

theorem persons_setNodes {p : Node → Bool} {f : Props → Props}
    (h : ∀ n ∈ persons g, p n = false) : persons (g.setNodes p f) = persons g := by
  refine (persons_of_nodes (Graph.setNodes_nodes_eq p f)).trans
    (persons_editNodes fun n hn hp => ?_)
  have hperson : n.hasLabel "Person" = false := by
    by_contra hperson
    rw [Bool.not_eq_false] at hperson
    rw [h n (mem_persons.2 ⟨hn, hperson⟩)] at hp
    cases hp
  exact ⟨hperson, hperson⟩

theorem persons_detachDelete {p : Node → Bool} (h : ∀ n ∈ persons g, p n = false) :
    persons (g.detachDelete p) = persons g := by
  rw [persons, Graph.detachDelete_nodes, List.filter_filter, persons]
  apply List.filter_congr
  intro n hn
  by_cases hperson : n.hasLabel "Person" = true
  · rw [h n (mem_persons.2 ⟨hn, hperson⟩), hperson]
    rfl
  · rw [Bool.not_eq_true] at hperson
    rw [hperson]
    rfl

end Graph

section Statements

theorem keepsPersons_of_nodes {q : Statement} (h : ∀ g, (q g).2.nodes = g.nodes) : KeepsPersons q :=
  fun g _ => persons_of_nodes (h g)

theorem keepsPersons_read {q : Statement} (h : ∀ g, (q g).2 = g) : KeepsPersons q :=
  keepsPersons_of_nodes fun g => congrArg Library.Graph.nodes (h g)

theorem keepsPersons_create {labels : List String} (h : labels.contains "Person" = false)
    (props : Props) : KeepsPersons (GraphApi.createNodeStatement labels props) := by
  intro g _
  refine (persons_createNode labels props).trans ?_
  rw [h, if_neg Bool.false_ne_true]

theorem keepsPersons_merge (request : GraphApi.CreateRelationshipRequest) :
    KeepsPersons request.statement :=
  keepsPersons_of_nodes fun _ => mergeRelationshipStatement_nodes _ _ _ _ _

theorem not_person_component {label : String} (h : label ∈ componentLabels) :
    [label].contains "Person" = false := by
  have hall : ∀ label ∈ componentLabels, [label].contains "Person" = false := by decide
  exact hall label h

theorem keepsPersons_store {q : Statement} (hq : StoreStatement q) : KeepsPersons q := by
  intro g _
  cases hq with
  | level domainId level =>
      rw [createLevelStatement]
      split
      · refine (persons_of_nodes (Graph.createEdge_nodes _ _ _ _ _)).trans ?_
        exact persons_createNode _ _
      · rfl
  | requirement h =>
      cases h with
      | component hr hd =>
          have hlabel := not_person_component (entries_kind hr).1
          rw [mergeComponentStatement]
          split
          · refine (persons_createNode _ _).trans ?_
            rw [hlabel, if_neg Bool.false_ne_true]
          · rfl
      | link hr nodeId =>
          rw [linkStatement]
          split
          · exact persons_of_nodes (Graph.createEdge_nodes _ _ _ _ _)
          · rfl

theorem keepsPersons_createDomain {request : GraphApi.CreateDomainRequest} {q : Statement}
    (hq : CreateStatement request q) : KeepsPersons q := by
  cases hq with
  | check => exact keepsPersons_read fun _ => rfl
  | create => exact fun g _ => persons_createNode _ _
  | store h => exact keepsPersons_store h

/-- A domain that is renamed and a level that is deleted have labels that no person has. -/
theorem keepsPersons_updateDomain {request : GraphApi.UpdateDomainRequest} {q : Statement}
    (hq : UpdateStatement request q) : KeepsPersons q := by
  cases hq with
  | verify => exact keepsPersons_read fun _ => rfl
  | deleteProgress => exact keepsPersons_of_nodes fun _ => rfl
  | update =>
      refine fun g hg => persons_setNodes fun n hn => ?_
      rw [isNode, hg.not_hasLabel hn (by decide)]
      exact Bool.and_false _
  | deleteLevels =>
      refine fun g hg => persons_detachDelete fun n hn => ?_
      rw [isLevelOf, hg.not_hasLabel hn (by decide)]
      rfl
  | store h => exact keepsPersons_store h

end Statements

section Agents

open Agent

variable {statement : Statement → Prop} (codec : Codec) (tables : DomainArchitectStep.CharTables)

def agentLabels : List String := ["Domain", "Domain_Level"] ++ componentLabels

theorem emits_agent (h : ∀ label ∈ agentLabels, ∀ props, statement (createNodeStatement [label] props))
    (hmerge : ∀ request : CreateRelationshipRequest, statement request.statement) (agent : AgentType)
    (context : AgentContext) :
    Emits statement (fun _ => True) (executeAgent codec tables agent context) := by
  cases agent with
  | domainArchitect =>
      exact DomainArchitectStep.emits_execute codec tables (h _ (by decide)) (h _ (by decide))
        (fun _ _ => hmerge _) (fun _ => trivial) context
  | knowledgeGenerator | skillGenerator =>
      exact GeneratorKind.emits_execute codec (h _ (by decide)) (fun _ _ => hmerge _)
        (fun _ => trivial) context
  | traitGenerator =>
      exact TraitGeneratorStep.emits_execute codec (h _ (by decide)) (fun _ => trivial) context
  | milestoneGenerator =>
      exact MilestoneGeneratorStep.emits_execute codec (h _ (by decide)) (fun _ => trivial) context
  | levelDistributor =>
      exact LevelDistributorStep.emits_execute codec hmerge (fun _ _ => trivial) context
  | prerequisiteMapper =>
      exact PrerequisiteMapperStep.emits_execute codec hmerge (fun _ _ => trivial) context

theorem emits_generation
    (h : ∀ label ∈ agentLabels, ∀ props, statement (createNodeStatement [label] props))
    (hmerge : ∀ request : CreateRelationshipRequest, statement request.statement)
    (domainName : String) (description : Option String) :
    Emits statement (fun _ => True) (generateDomain codec tables domainName description) := by
  have hcheck : Emits statement (fun _ => True) (checkDomainExists domainName) :=
    (emits_similarTo _ _ _).bind fun _ => trivial
  apply hcheck.bind
  intro existing
  cases existing with
  | some name => exact Emits.send_bind trivial trivial
  | none =>
      apply Emits.send_bind trivial
      apply Calls.bind (Calls.foldlM _ (fun acc x _ => ?_) _)
      · exact fun acc => Emits.send_bind trivial trivial
      · rw [runAgent_eq]
        apply Emits.send_bind trivial
        apply (emits_agent codec tables h hmerge x.1 acc.1).attempt.bind
        exact fun result => emits_afterAgent (fun _ _ => trivial) x.1 acc.2 result

theorem keepsPersons_generation (domainName : String) (description : Option String) :
    Emits KeepsPersons (fun _ => True) (generateDomain codec tables domainName description) := by
  refine emits_generation codec tables (fun label hlabel => ?_) keepsPersons_merge domainName description
  have hall : ∀ label ∈ agentLabels, [label].contains "Person" = false := by decide
  exact keepsPersons_create (hall label hlabel)

end Agents

theorem persons_exec {Event Prompt ε α : Type} {event : Event → Prop} {p : Service Event Prompt ε α}
    (hp : Emits KeepsPersons event p) (env : Env) (w : World) (hw : PlainPersons w.graph) :
    persons (env.exec p w).state.graph = persons w.graph := by
  refine hp.maintains (P := fun g => persons g = persons w.graph) (fun q g hq hg => ?_) env w rfl
  exact (hq g (hw.congr hg)).trans hg

end AtlasOfUs.Auth
