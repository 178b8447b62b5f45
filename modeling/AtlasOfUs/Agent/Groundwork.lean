import AtlasOfUs.Agent.Accounts
import AtlasOfUs.Agent.ArchitectRun
import AtlasOfUs.Library.Ledger

namespace AtlasOfUs.Agent

open Library Similarity GraphApi

def requirementTypes : List String :=
  ["REQUIRES_KNOWLEDGE", "REQUIRES_SKILL", "REQUIRES_TRAIT", "REQUIRES_MILESTONE"]

def IsRequirement (key : LinkKey ElementId) : Bool := requirementTypes.contains key.1

def DomainGraphRegistry.levelIds (r : DomainGraphRegistry) : List ElementId :=
  r.domainLevels.map (·.elementId)

def requirementsOf (levels : List ElementId) (g : Graph) : List Edge :=
  g.part fun key => IsRequirement key && levels.contains key.2.1

def openingAgents : Agents := allAgents.zipIdx.take 5

def closingAgents : Agents := allAgents.zipIdx.drop 5

section Requirements

def KeepsRequirements (q : Statement) : Prop :=
  ∀ g, (q g).2.part IsRequirement = g.part IsRequirement

theorem keepsRequirements_create (labels : List String) (props : Props) :
    KeepsRequirements (createNodeStatement labels props) := fun _ => rfl

theorem keepsRequirements_merge {type : String} (h : type ∉ requirementTypes)
    (source target : ElementId) :
    KeepsRequirements (CreateRelationshipRequest.mk source target type none).statement := by
  intro g
  have hother : ∀ e : Edge, Edge.between type source target e = true → IsRequirement e.key = false := by
    intro e he
    have hkey : e.type = type := (Graph.between_iff.1 he).1
    rw [IsRequirement, Bool.eq_false_iff, Ne, List.contains_iff_mem]
    exact fun hmem => h (hkey ▸ hmem)
  exact Graph.filter_edges_mergeEdge hother

variable (codec : Codec) (tables : DomainArchitectStep.CharTables)

theorem emits_openingAgent {agent : AgentType} (hdistributor : agent ≠ .levelDistributor)
    (hmapper : agent ≠ .prerequisiteMapper) (context : AgentContext) :
    Emits KeepsRequirements (fun _ => True) (executeAgent codec tables agent context) := by
  have hgeneralizes : "GENERALIZES_TO" ∉ requirementTypes := by decide
  cases agent with
  | domainArchitect =>
      exact DomainArchitectStep.emits_execute codec tables (keepsRequirements_create _)
        (keepsRequirements_create _) (keepsRequirements_merge (by decide)) (fun _ => trivial) context
  | knowledgeGenerator =>
      exact GeneratorKind.emits_execute codec (keepsRequirements_create _)
        (keepsRequirements_merge hgeneralizes) (fun _ => trivial) context
  | skillGenerator =>
      exact GeneratorKind.emits_execute codec (keepsRequirements_create _)
        (keepsRequirements_merge hgeneralizes) (fun _ => trivial) context
  | traitGenerator =>
      exact TraitGeneratorStep.emits_execute codec (keepsRequirements_create _) (fun _ => trivial)
        context
  | milestoneGenerator =>
      exact MilestoneGeneratorStep.emits_execute codec (keepsRequirements_create _)
        (fun _ => trivial) context
  | levelDistributor => exact absurd rfl hdistributor
  | prerequisiteMapper => exact absurd rfl hmapper

theorem emits_opening (context : AgentContext) :
    Emits KeepsRequirements (fun _ => True)
      (openingAgents.foldlM (runAgent codec tables) (context, {})) := by
  apply Calls.foldlM
  intro acc x hx
  have hagent : x.1 ≠ .levelDistributor ∧ x.1 ≠ .prerequisiteMapper := by
    have hall : ∀ y ∈ openingAgents, y.1 ≠ .levelDistributor ∧ y.1 ≠ .prerequisiteMapper := by decide
    exact hall x hx
  rw [runAgent_eq]
  apply Emits.send_bind trivial
  apply (emits_openingAgent codec tables hagent.1 hagent.2 acc.1).attempt.bind
  exact fun result => emits_afterAgent (fun _ _ => trivial) x.1 acc.2 result

theorem requirements_opening (env : Env) (context : AgentContext) (w : World) :
    (env.exec (openingAgents.foldlM (runAgent codec tables) (context, {})) w).state.graph.part
      IsRequirement = w.graph.part IsRequirement := by
  apply (emits_opening codec tables context).maintains
    (P := fun g => g.part IsRequirement = w.graph.part IsRequirement)
  · exact fun q g hq hg => (hq g).trans hg
  · rfl

end Requirements

section Levels

variable (codec : Codec) {env : Env} {ids : List ElementId}

theorem triple_emits {P : Graph → Prop} {statement : Statement → Prop} {event : SseEvent → Prop}
    {ε α : Type} {p : Service SseEvent Prompt ε α} (hp : Emits statement event p)
    (hstep : ∀ q g, statement q → P g → P (q g).2) :
    Triple (Env.handler env) (fun w => P w.graph) p (fun _ w => P w.graph) (fun _ w => P w.graph) := by
  apply hp.triple
  intro o w ho hw
  exact handler_graph env (fun _ => id) o (fun q hq g => by subst hq; exact hstep q g ho) w hw

theorem holding_send {ε : Type} (event : SseEvent) :
    Triple (Env.handler env) (fun w => ids ⊆ w.graph.nodeIds)
      (send event : Service SseEvent Prompt ε Unit) (fun _ w => ids ⊆ w.graph.nodeIds)
      (fun _ _ => True) :=
  Triple.perform fun _ hw => hw

def FreshLevels (ids : List ElementId) (r : DomainGraphRegistry) : Prop :=
  ∀ id ∈ r.levelIds, id ∉ ids

theorem FreshLevels.addDomainLevel {context : AgentContext} (h : FreshLevels ids context.domainGraph)
    {n : CreatedNode} (hn : n.elementId ∉ ids) :
    FreshLevels ids (context.addDomainLevel n).domainGraph := by
  intro id hid
  have hlevels : (context.addDomainLevel n).domainGraph.levelIds =
      context.domainGraph.levelIds ++ [n.elementId] := List.map_append
  rw [hlevels, List.mem_append, List.mem_singleton] at hid
  rcases hid with hid | rfl
  · exact h id hid
  · exact hn

namespace DomainArchitectStep

variable (tables : CharTables)

theorem fresh_createLevel (domainId : ElementId) (context : AgentContext) (info : LevelInfo) :
    Triple (Env.handler env)
      (fun w => ids ⊆ w.graph.nodeIds ∧ FreshLevels ids context.domainGraph)
      (createLevel codec domainId context info)
      (fun context' w => ids ⊆ w.graph.nodeIds ∧ FreshLevels ids context'.domainGraph)
      (fun _ _ => True) := by
  apply Triple.of_pre (fun _ hs => hs.2)
  intro hfresh
  apply Triple.bind (Triple.weaken (Triple.mapErr (triple_storeNode env codec (levelRequest info) ids))
    fun _ hs => hs.1)
  intro level
  apply Triple.of_pre (fun _ hs => hs.1)
  intro hlevel
  let request : CreateRelationshipRequest := ⟨domainId, level.elementId, "HAS_DOMAIN_LEVEL", none⟩
  have hlink : Triple (Env.handler env) (fun w => ids ⊆ w.graph.nodeIds)
      ((storeRelationship codec request).failingIn context) (fun _ w => ids ⊆ w.graph.nodeIds)
      (fun _ _ => True) := by
    apply (Triple.mapErr (triple_storeRelationship env codec domainId level.elementId
      "HAS_DOMAIN_LEVEL" ids)).conseq (fun _ hs => hs) _ (fun _ _ hs => hs)
    exact fun _ _ hs => (List.append_subset.1 hs).1
  apply (hlink.weaken fun _ hs => hs.2).bind
  intro _
  apply (holding_send _).bind
  intro _
  apply Triple.done
  intro w hw
  exact ⟨hw, hfresh.addDomainLevel hlevel⟩

theorem fresh_execute {context : AgentContext} (hnone : context.domainGraph.domainLevels = []) :
    Triple (Env.handler env) (fun w => ids ⊆ w.graph.nodeIds) (execute codec tables context)
      (fun context' _ => FreshLevels ids context'.domainGraph) (fun _ _ => True) := by
  apply (holding_send _).bind
  intro _
  have hstore : Triple (Env.handler env) (fun w => ids ⊆ w.graph.nodeIds)
      ((storeNode codec (domainRequest context.domainName (context.description.getD ""))).failingIn
        context) (fun _ w => ids ⊆ w.graph.nodeIds) (fun _ _ => True) := by
    apply (Triple.mapErr (triple_storeNode env codec _ ids)).conseq (fun _ hs => hs) _
      (fun _ _ hs => hs)
    exact fun _ _ hs => hs.2
  apply hstore.bind
  intro domain
  apply (holding_send _).bind
  intro _
  have hqueue : Triple (Env.handler env) (fun w => ids ⊆ w.graph.nodeIds)
      (queueAvatarGeneration tables context.domainName domain.elementId)
      (fun _ w => ids ⊆ w.graph.nodeIds) (fun _ _ => True) := by
    have hquiet : Emits (fun _ => False) (fun _ => True)
        (queueAvatarGeneration tables context.domainName domain.elementId) :=
      emits_queueAvatarGeneration tables (fun _ _ => trivial) context.domainName domain.elementId
    apply (triple_emits (P := fun g => ids ⊆ g.nodeIds) hquiet fun _ _ hq => hq.elim).conseq
    · exact fun _ hs => hs
    · exact fun _ _ hs => hs
    · exact fun _ _ _ => trivial
  apply hqueue.bind
  intro _
  apply (holding_send _).bind
  intro _
  let founded := context.setDomain (.new context.domainName domain.elementId "Domain")
  have hloop := Triple.foldlM (h := Env.handler env)
    (fun context (_ : List LevelInfo) w =>
      ids ⊆ w.graph.nodeIds ∧ FreshLevels ids context.domainGraph)
    (fun context info _ => fresh_createLevel codec domain.elementId context info)
    (getLevelStructure context.domainName) founded
  apply hloop.conseq _ (fun _ _ hs => hs.2) (fun _ _ hs => hs)
  intro w hw
  refine ⟨hw, fun id hid => ?_⟩
  have hlevels : founded.domainGraph.levelIds = [] := congrArg (List.map CreatedNode.elementId) hnone
  rw [hlevels] at hid
  cases hid

end DomainArchitectStep

end Levels

section Opening

variable (codec : Codec) (tables : DomainArchitectStep.CharTables) {env : Env} {ids : List ElementId}

theorem levelIds_of_share {r r' : DomainGraphRegistry}
    (h : r'.share .domainArchitect = r.share .domainArchitect) : r'.levelIds = r.levelIds := by
  have hlevels : (r'.share .domainArchitect).domainLevels = (r.share .domainArchitect).domainLevels :=
    congrArg DomainGraphRegistry.domainLevels h
  exact congrArg (List.map CreatedNode.elementId) hlevels

theorem FreshLevels.of_share {r r' : DomainGraphRegistry} (h : FreshLevels ids r)
    (hshare : r'.share .domainArchitect = r.share .domainArchitect) : FreshLevels ids r' := by
  rw [FreshLevels, levelIds_of_share hshare]
  exact h

theorem fresh_runArchitect {context : AgentContext} (hempty : context.domainGraph = {})
    (stats : DomainStatistics) :
    Triple (Env.handler env) (fun w => ids ⊆ w.graph.nodeIds)
      (runAgent codec tables (context, stats) (.domainArchitect, 0))
      (fun acc _ => FreshLevels ids acc.1.domainGraph) (fun _ _ => True) := by
  rw [runAgent_eq]
  apply (holding_send _).bind
  intro _
  have hnone : context.domainGraph.domainLevels = [] := by rw [hempty]
  apply Triple.attempt_bind (DomainArchitectStep.fresh_execute codec tables hnone)
  · intro context'
    apply Triple.of_pre (fun _ hs => hs)
    intro hfresh
    apply (Triple.true _).bind
    intro _
    exact Triple.done fun _ _ => hfresh
  · intro failure
    apply (Triple.true _).bind
    intro _
    apply (Triple.true _).bind
    intro _
    exact Triple.fail fun _ _ => trivial

def Opened (ids : List ElementId) (acc : AgentContext × DomainStatistics) (rest : Agents)
    (s : Recorded) : Prop :=
  ∃ done, (Standing done (rest ++ closingAgents) acc.1.domainGraph acc.2 ∧
    FreshLevels ids acc.1.domainGraph ∧ ∀ x ∈ rest, x.1 ≠ .domainArchitect) ∧
      Entered done acc.1.domainGraph s

theorem opened_runAgent (acc : AgentContext × DomainStatistics) (x : AgentType × Nat)
    (rest : Agents) :
    Triple (recorder env) (Opened ids acc (x :: rest)) (runAgent codec tables acc x)
      (fun acc' => Opened ids acc' rest) (fun _ _ => True) := by
  obtain ⟨context, stats⟩ := acc
  apply Triple.exists_pre
  intro done
  apply Triple.of_pre (fun _ hs => hs.1)
  rintro ⟨hstanding, hfresh, hrest⟩
  apply (entered_runAgent codec tables hstanding).conseq (fun _ hs => hs.2)
  · intro acc' s hs
    have hx : .domainArchitect ≠ x.1 := Ne.symm (hrest x List.mem_cons_self)
    exact ⟨done ++ [x], ⟨hs.1.1, hfresh.of_share (hs.1.2 .domainArchitect hx),
      fun y hy => hrest y (List.mem_cons_of_mem _ hy)⟩, hs.2⟩
  · exact fun _ _ _ => trivial

/-- What the opening agents leave behind: the registry without requirements, its
levels new. -/
theorem opening_ok {context : AgentContext} (hempty : context.domainGraph = {}) {w : World}
    {acc : AgentContext × DomainStatistics}
    (h : (env.exec (openingAgents.foldlM (runAgent codec tables) (context, {})) w).exit = .ok acc) :
    Standing openingAgents closingAgents acc.1.domainGraph acc.2 ∧
      FreshLevels w.graph.nodeIds acc.1.domainGraph := by
  let ids := w.graph.nodeIds
  have hsplit : openingAgents = (.domainArchitect, 0) :: openingAgents.tail := rfl
  have hstart : Standing [] (((.domainArchitect, 0) :: openingAgents.tail) ++ closingAgents)
      context.domainGraph {} := by
    rw [hempty]
    exact standing_start
  have hentering : Triple (recorder env) (Entered [] context.domainGraph)
      (runAgent codec tables (context, {}) (.domainArchitect, 0)) _ _ :=
    entered_runAgent codec tables hstart
  have hfresh : Triple (Env.handler env) (fun w => ids ⊆ w.graph.nodeIds)
      (runAgent codec tables (context, {}) (.domainArchitect, 0))
      (fun acc _ => FreshLevels ids acc.1.domainGraph) _ :=
    fresh_runArchitect codec tables hempty {}
  have hfirst := hentering.and hfresh.recorded
  have hrun : Triple (recorder env)
      (fun s => Entered [] context.domainGraph s ∧ ids ⊆ s.1.graph.nodeIds)
      (openingAgents.foldlM (runAgent codec tables) (context, {}))
      (fun acc s => Opened ids acc [] s) (fun _ _ => True) := by
    rw [hsplit, List.foldlM_cons]
    apply Triple.bind (hfirst.conseq (fun _ hs => hs) (fun _ _ hs => hs) (fun _ _ _ => trivial))
    intro acc
    apply (Triple.foldlM (Opened ids) (opened_runAgent codec tables) openingAgents.tail acc).weaken
    rintro s ⟨⟨⟨hstanding, -⟩, hentered⟩, hfresh⟩
    exact ⟨_, ⟨hstanding, hfresh, by decide⟩, hentered⟩
  have hentered : Entered [] context.domainGraph ((w, []) : Recorded) := by
    rw [hempty]
    exact entered_start w
  obtain ⟨done, ⟨hstanding, hfresh, -⟩, -⟩ :=
    hrun.recorded_value ⟨hentered, List.Subset.refl _⟩ h
  have hdone : openingAgents = done := List.append_cancel_right hstanding.agents
  rw [hdone]
  exact ⟨hstanding, hfresh⟩

theorem opening_unrequired {context : AgentContext} (hempty : context.domainGraph = {}) {w : World}
    {acc : AgentContext × DomainStatistics}
    (h : (env.exec (openingAgents.foldlM (runAgent codec tables) (context, {})) w).exit = .ok acc) :
    requirementsOf acc.1.domainGraph.levelIds
        (env.exec (openingAgents.foldlM (runAgent codec tables) (context, {})) w).state.graph = [] ∧
      acc.1.domainGraph.levelRequirements = [] := by
  obtain ⟨hstanding, hfresh⟩ := opening_ok codec tables hempty h
  constructor
  · rw [requirementsOf, Graph.part, List.filter_eq_nil_iff]
    intro e he hrequires
    rw [Bool.and_eq_true, List.contains_iff_mem] at hrequires
    have hkept : e ∈ w.graph.part IsRequirement := by
      rw [← requirements_opening codec tables env context w]
      exact Graph.mem_part.2 ⟨he, hrequires.1⟩
    exact hfresh e.source hrequires.2 (w.graph.source_mem e (Graph.mem_part.1 hkept).1)
  · have hshare : acc.1.domainGraph.share .levelDistributor = {} :=
      hstanding.fresh (.levelDistributor, 5) (by decide)
    exact congrArg DomainGraphRegistry.levelRequirements hshare

end Opening

end AtlasOfUs.Agent
