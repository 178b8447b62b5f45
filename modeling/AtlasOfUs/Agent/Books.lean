import AtlasOfUs.Agent.Emissions
import AtlasOfUs.Agent.Record
import Mathlib.Data.List.Dedup

namespace AtlasOfUs.Agent

open Library Similarity GraphApi

def CreatedNode.view (n : CreatedNode) : String × String × Bool := (n.name, n.label, n.wasReused)

def SseEvent.announcedBy (agent : AgentType) : SseEvent → Option (String × String × Bool)
  | .nodeCreated a name label wasReused => if a = agent then some (name, label, wasReused) else none
  | _ => none

def DomainGraphRegistry.share (r : DomainGraphRegistry) : AgentType → DomainGraphRegistry
  | .domainArchitect => { domain := r.domain, domainLevels := r.domainLevels }
  | .knowledgeGenerator => { knowledge := r.knowledge }
  | .skillGenerator => { skills := r.skills }
  | .traitGenerator => { traits := r.traits }
  | .milestoneGenerator => { milestones := r.milestones }
  | .levelDistributor => { levelRequirements := r.levelRequirements }
  | .prerequisiteMapper => { prerequisites := r.prerequisites }

def DomainGraphRegistry.nodesBy (r : DomainGraphRegistry) (agent : AgentType) : List CreatedNode :=
  (r.share agent).allNodes

/-- What the agents have announced is what the registry has of each of them. -/
def Mirrors (r : DomainGraphRegistry) (events : List SseEvent) : Prop :=
  ∀ agent, events.filterMap (SseEvent.announcedBy agent) = (r.nodesBy agent).map CreatedNode.view

def KeepsOthers (agent : AgentType) (r r' : DomainGraphRegistry) : Prop :=
  ∀ other, other ≠ agent → r'.share other = r.share other

def Unlinked (r : DomainGraphRegistry) : Prop :=
  r.levelRequirements = [] ∧ r.generalizations = [] ∧ r.prerequisites = []

def Linking (q : Statement) : Prop :=
  ∃ request : CreateRelationshipRequest,
    q = request.statement ∧ request.relationshipType ≠ "HAS_DOMAIN_LEVEL"

/-- The database confirms such a relationship with a row. -/
def Confirms : AgentCall → Prop
  | ⟨.execute q, reply⟩ =>
      Linking q ∧ ∃ rs row, reply = Except.ok rs ∧ RowStream.firstRow rs = some row
  | _ => False

structure Books (agent : AgentType) (r₀ r : DomainGraphRegistry) (s : Recorded) : Prop where
  mirrors : Mirrors r (sent s.2)
  others : KeepsOthers agent r₀ r
  links : Unlinked r ↔ ∀ call ∈ s.2, ¬ Confirms call

structure Files (agent : AgentType) (n : CreatedNode) (r r' : DomainGraphRegistry) : Prop where
  own : r'.nodesBy agent = r.nodesBy agent ++ [n]
  others : KeepsOthers agent r r'
  links : Unlinked r' ↔ Unlinked r

section Registry

variable {agent : AgentType} {r r' r'' : DomainGraphRegistry}

theorem KeepsOthers.refl : KeepsOthers agent r r := fun _ _ => rfl

theorem KeepsOthers.trans (h : KeepsOthers agent r r') (h' : KeepsOthers agent r' r'') :
    KeepsOthers agent r r'' :=
  fun other hne => (h' other hne).trans (h other hne)

theorem SseEvent.announcedBy_of_quiet {e : SseEvent} (h : e.announces = false)
    (agent : AgentType) : e.announcedBy agent = none := by
  cases e <;> first | rfl | cases h

theorem files_level (context : AgentContext) (n : CreatedNode) :
    Files .domainArchitect n context.domainGraph (context.addDomainLevel n).domainGraph where
  own := by
    simp [DomainGraphRegistry.nodesBy, DomainGraphRegistry.share, DomainGraphRegistry.allNodes,
      AgentContext.addDomainLevel]
  others := fun other hne => by cases other <;> first | rfl | exact absurd rfl hne
  links := Iff.rfl

theorem files_knowledge (context : AgentContext) (n : CreatedNode) :
    Files .knowledgeGenerator n context.domainGraph (context.addKnowledge n).domainGraph where
  own := by
    simp [DomainGraphRegistry.nodesBy, DomainGraphRegistry.share, DomainGraphRegistry.allNodes,
      AgentContext.addKnowledge]
  others := fun other hne => by cases other <;> first | rfl | exact absurd rfl hne
  links := Iff.rfl

theorem files_skill (context : AgentContext) (n : CreatedNode) :
    Files .skillGenerator n context.domainGraph (context.addSkill n).domainGraph where
  own := by
    simp [DomainGraphRegistry.nodesBy, DomainGraphRegistry.share, DomainGraphRegistry.allNodes,
      AgentContext.addSkill]
  others := fun other hne => by cases other <;> first | rfl | exact absurd rfl hne
  links := Iff.rfl

theorem files_trait (context : AgentContext) (n : CreatedNode) :
    Files .traitGenerator n context.domainGraph (context.addTrait n).domainGraph where
  own := by
    simp [DomainGraphRegistry.nodesBy, DomainGraphRegistry.share, DomainGraphRegistry.allNodes,
      AgentContext.addTrait]
  others := fun other hne => by cases other <;> first | rfl | exact absurd rfl hne
  links := Iff.rfl

theorem files_milestone (context : AgentContext) (n : CreatedNode) :
    Files .milestoneGenerator n context.domainGraph (context.addMilestone n).domainGraph where
  own := by
    simp [DomainGraphRegistry.nodesBy, DomainGraphRegistry.share, DomainGraphRegistry.allNodes,
      AgentContext.addMilestone]
  others := fun other hne => by cases other <;> first | rfl | exact absurd rfl hne
  links := Iff.rfl

theorem files_domain {context : AgentContext}
    (h : context.domainGraph.share .domainArchitect = {}) (n : CreatedNode) :
    Files .domainArchitect n context.domainGraph (context.setDomain n).domainGraph where
  own := by
    have hdomain : context.domainGraph.domain = none := congrArg (·.domain) h
    have hlevels : context.domainGraph.domainLevels = [] := congrArg (·.domainLevels) h
    simp [DomainGraphRegistry.nodesBy, DomainGraphRegistry.share, DomainGraphRegistry.allNodes,
      AgentContext.setDomain, hdomain, hlevels]
  others := fun other hne => by cases other <;> first | rfl | exact absurd rfl hne
  links := Iff.rfl

end Registry

namespace Books

variable {agent : AgentType} {r₀ r r' : DomainGraphRegistry} {s : Recorded} {n : CreatedNode}

theorem announce (h : Books agent r₀ r s) (hfiles : Files agent n r r') {label : String}
    (hlabel : n.label = label) :
    Books agent r₀ r' (s.note (.nodeCreated agent n.name label n.wasReused)) where
  mirrors other := by
    rw [s.sent_note, List.filterMap_append, h.mirrors other]
    by_cases hother : other = agent
    · subst hother
      simp [hfiles.own, SseEvent.announcedBy, CreatedNode.view, hlabel]
    · have hsame : r'.nodesBy other = r.nodesBy other :=
        congrArg DomainGraphRegistry.allNodes (hfiles.others other hother)
      simp [hsame, SseEvent.announcedBy, Ne.symm hother]
  others := h.others.trans hfiles.others
  links := by
    rw [hfiles.links, h.links, Recorded.note]
    simp [Confirms, or_imp, forall_and]

theorem quiet (h : Books agent r₀ r s) (env : Env) {o : Op SseEvent Prompt}
    (ho : Emission (fun q => ¬ Linking q) (fun e => e.announces = false) o) :
    Books agent r₀ r (recorder env o s).2 where
  mirrors other := by
    cases o with
    | send e =>
        refine (congrArg (List.filterMap _) (s.sent_note e)).trans ?_
        rw [List.filterMap_append, h.mirrors other, List.filterMap_cons_none]
        · exact List.append_nil _
        · exact SseEvent.announcedBy_of_quiet ho other
    | _ => exact (congrArg (List.filterMap _) (s.sent_unsent (by simp) _)).trans (h.mirrors other)
  others := h.others
  links := by
    have hnot : ¬ Confirms ⟨o, (env.handler o s.1).1⟩ := by
      cases o with
      | execute q => exact fun hconfirms => ho hconfirms.1
      | _ => exact id
    change Unlinked r ↔ ∀ call ∈ s.2 ++ [(⟨o, (env.handler o s.1).1⟩ : AgentCall)], ¬ Confirms call
    rw [h.links]
    simp [hnot, or_imp, forall_and]

end Books

section Rules

variable {env : Env} {agent : AgentType} {r₀ r : DomainGraphRegistry} {context : AgentContext}
  {ε α : Type}

abbrev Unbooked (p : Service SseEvent Prompt ε α) : Prop :=
  Emits (fun q => ¬ Linking q) (fun e => e.announces = false) p

theorem books_quiet {p : Service SseEvent Prompt ε α} (hp : Unbooked p) :
    Triple (recorder env) (Books agent r₀ r) p (fun _ => Books agent r₀ r)
      (fun _ => Books agent r₀ r) :=
  hp.triple fun _ _ ho hs => hs.quiet env ho

theorem books_send {e : SseEvent} (he : e.announces = false) (s : Recorded)
    (hs : Books agent r₀ r s) : Books agent r₀ r (s.note e) :=
  hs.quiet .calm (o := .send e) he

abbrev BooksOf (agent : AgentType) (r₀ : DomainGraphRegistry) (failure : String × AgentContext) :
    Recorded → Prop :=
  Books agent r₀ failure.2.domainGraph

theorem books_failingIn {p : Step α} (hp : Unbooked p) :
    Triple (recorder env) (Books agent r₀ context.domainGraph) (p.failingIn context)
      (fun _ => Books agent r₀ context.domainGraph) (BooksOf agent r₀) :=
  Triple.mapErr (books_quiet hp)

theorem books_failingIn_knowing {p : Step α} {φ : α → Prop} (hp : Unbooked p)
    (hφ : Triple (recorder env) (fun _ => True) p (fun a _ => φ a) (fun _ _ => True)) :
    Triple (recorder env) (Books agent r₀ context.domainGraph) (p.failingIn context)
      (fun a s => Books agent r₀ context.domainGraph s ∧ φ a) (BooksOf agent r₀) :=
  Triple.mapErr (((books_quiet hp).and hφ).conseq (fun _ h => ⟨h, trivial⟩) (fun _ _ h => h)
    (fun _ _ h => h.1))

theorem books_announceAll {f : AgentContext → CreatedNode → ContextStep AgentContext}
    {add : AgentContext → CreatedNode → AgentContext} {label : String}
    (hf : ∀ context n, f context n =
      (send (.nodeCreated agent n.name label n.wasReused) >>= fun _ => Proc.done (add context n)))
    (hfiles : ∀ context n, Files agent n context.domainGraph (add context n).domainGraph)
    {nodes : List CreatedNode} (hlabels : ∀ n ∈ nodes, n.label = label) :
    Triple (recorder env) (Books agent r₀ context.domainGraph) (nodes.foldlM f context)
      (fun context' => Books agent r₀ context'.domainGraph) (BooksOf agent r₀) := by
  let Inv := fun (context : AgentContext) (rest : List CreatedNode) (s : Recorded) =>
    Books agent r₀ context.domainGraph s ∧ ∀ n ∈ rest, n.label = label
  refine Triple.conseq (Triple.foldlM Inv (fun context n rest => ?_) nodes context)
    (fun s hs => ⟨hs, hlabels⟩) (fun _ _ h => h.1) (fun _ _ h => h)
  rw [hf]
  refine Triple.of_pre (fun _ h => h.2) fun hrest => ?_
  refine record_send_bind (fun s hs => hs.1.announce (hfiles context n) ?_) ?_
  · exact hrest n List.mem_cons_self
  · exact Triple.done fun s hs => ⟨hs, fun m hm => hrest m (List.mem_cons_of_mem _ hm)⟩

theorem not_linking_createNode (labels : List String) (props : Props) :
    ¬ Linking (createNodeStatement labels props) := by
  rintro ⟨request, hsame, -⟩
  have hrows := congrArg (fun q : Statement => (q emptyGraph).1) hsame
  have hmem : [("elementId", Json.str emptyGraph.freshId), ("name", propJson (props "name"))] ∈
      (request.statement emptyGraph).1 := by
    rw [← hrows]
    exact List.mem_singleton.2 rfl
  obtain ⟨s, t, -, -, hs, -⟩ := mergeRelationshipStatement_rows hmem
  exact List.not_mem_nil hs

def bareGraph (ids : List ElementId) : Graph where
  nodes := ids.dedup.map (fun id => ⟨id, [], Props.empty⟩)
  edges := []
  supply := emptyGraph.supply
  issued := 0
  nodeIds_nodup := by
    rw [List.map_map]
    exact (List.map_id ids.dedup).symm ▸ ids.nodup_dedup
  edgeIds_nodup := List.nodup_nil
  source_mem := fun _ he => absurd he List.not_mem_nil
  target_mem := fun _ he => absurd he List.not_mem_nil

theorem mem_nodeIds_bareGraph {ids : List ElementId} {id : ElementId} (h : id ∈ ids) :
    id ∈ (bareGraph ids).nodeIds :=
  Graph.mem_nodeIds.2 ⟨_, List.mem_map_of_mem (List.mem_dedup.2 h), rfl⟩

theorem type_of_mem_merged {type : String} {source target : Option ElementId}
    {properties : Properties} {g : Graph} (hg : g.edges = []) {e : Edge}
    (he : e ∈ (mergeRelationshipStatement type source target properties g).2.edges) :
    e.type = type := by
  have hnone : e ∉ g.edges := hg ▸ List.not_mem_nil
  cases source with
  | none => exact absurd he hnone
  | some s =>
      cases target with
      | none => exact absurd he hnone
      | some t =>
          change e ∈ (g.mergeEdge type s t (setAll properties)).edges at he
          rw [Graph.mergeEdge, hg, List.any_nil, if_neg Bool.false_ne_true,
            Graph.createEdge_edges] at he
          split at he
          · rw [hg] at he
            rw [List.mem_singleton.1 he]
          · exact absurd he hnone

theorem not_linking_level (domainId levelId : ElementId) :
    ¬ Linking (CreateRelationshipRequest.statement
      ⟨domainId, levelId, "HAS_DOMAIN_LEVEL", none⟩) := by
  rintro ⟨request, hsame, hne⟩
  let g := bareGraph [domainId, levelId]
  have hedges : ⟨g.freshId, "HAS_DOMAIN_LEVEL", domainId, levelId, setAll [] Props.empty⟩ ∈
      (CreateRelationshipRequest.statement ⟨domainId, levelId, "HAS_DOMAIN_LEVEL", none⟩
        g).2.edges := by
    change _ ∈ (g.createEdge "HAS_DOMAIN_LEVEL" domainId levelId (setAll [] Props.empty)).edges
    rw [Graph.createEdge_of_mem (mem_nodeIds_bareGraph (by simp)) (mem_nodeIds_bareGraph (by simp))]
    exact List.mem_append_right _ (List.mem_singleton.2 rfl)
  rw [hsame] at hedges
  exact hne (type_of_mem_merged rfl hedges).symm

end Rules

end AtlasOfUs.Agent
