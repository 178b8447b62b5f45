import AtlasOfUs.Agent.Listing

namespace AtlasOfUs.Agent

open Library

def unseen (seen : List ElementId) (n : CreatedNode) : Bool × List ElementId :=
  insertKey seen n.elementId

def cleared (_seen : List ElementId) : List ElementId := []

/-- The body of `deduplicate`: one set goes through the five lists and is
cleared between them. -/
def DomainGraphRegistry.deduplicateWithOneSet (r : DomainGraphRegistry) : DomainGraphRegistry :=
  let (knowledge, seen) := retain unseen [] r.knowledge
  let (skills, seen) := retain unseen (cleared seen) r.skills
  let (traits, seen) := retain unseen (cleared seen) r.traits
  let (milestones, seen) := retain unseen (cleared seen) r.milestones
  let (domainLevels, _) := retain unseen (cleared seen) r.domainLevels
  { r with knowledge, skills, traits, milestones, domainLevels }

theorem retain_unseen (nodes : List CreatedNode) :
    (retain unseen [] nodes).1 = retainUnseen [] nodes :=
  (retainUnseen_eq [] nodes).symm

theorem deduplicateWithOneSet_eq (r : DomainGraphRegistry) :
    r.deduplicateWithOneSet = r.deduplicate := by
  rw [DomainGraphRegistry.deduplicate, ← retain_unseen, ← retain_unseen, ← retain_unseen,
    ← retain_unseen, ← retain_unseen]
  rfl

inductive NodeList
  | domainLevels
  | knowledge
  | skills
  | traits
  | milestones

def DomainGraphRegistry.nodes (r : DomainGraphRegistry) : NodeList → List CreatedNode
  | .domainLevels => r.domainLevels
  | .knowledge => r.knowledge
  | .skills => r.skills
  | .traits => r.traits
  | .milestones => r.milestones

def DomainGraphRegistry.ids (r : DomainGraphRegistry) (list : NodeList) : List ElementId :=
  (r.nodes list).map (·.elementId)

theorem nodes_deduplicate (r : DomainGraphRegistry) (list : NodeList) :
    r.deduplicate.nodes list = firsts (·.elementId) (r.nodes list) := by
  cases list <;> exact retainUnseen_nil _

theorem firstsOf_deduplicate (r : DomainGraphRegistry) (list : NodeList) :
    FirstsOf (·.elementId) (r.nodes list) (r.deduplicate.nodes list) := by
  rw [nodes_deduplicate]
  exact firstsOf_firsts _ _

theorem mem_ids_deduplicate (r : DomainGraphRegistry) (list : NodeList) (id : ElementId) :
    id ∈ r.deduplicate.ids list ↔ id ∈ r.ids list :=
  (firstsOf_deduplicate r list).keys id

theorem deduplicate_deduplicate (r : DomainGraphRegistry) :
    r.deduplicate.deduplicate = r.deduplicate :=
  (deduplicate_eq_self_iff _).2 (listsOnce_deduplicate r)

/-- `r'` is `r` with every node list cut down to the first entry of each id. -/
structure DomainGraphRegistry.Deduplicates (r r' : DomainGraphRegistry) : Prop where
  lists : ∀ list, FirstsOf (·.elementId) (r.nodes list) (r'.nodes list)
  shared : ∀ list list' id, id ∈ r.ids list → id ∈ r.ids list' → id ∈ r'.ids list ∧ id ∈ r'.ids list'
  domain : r'.domain = r.domain
  levelRequirements : r'.levelRequirements = r.levelRequirements
  generalizations : r'.generalizations = r.generalizations
  prerequisites : r'.prerequisites = r.prerequisites

theorem deduplicates_deduplicate (r : DomainGraphRegistry) : r.Deduplicates r.deduplicate where
  lists := firstsOf_deduplicate r
  shared list list' id hid hid' :=
    ⟨(mem_ids_deduplicate r list id).2 hid, (mem_ids_deduplicate r list' id).2 hid'⟩
  domain := rfl
  levelRequirements := rfl
  generalizations := rfl
  prerequisites := rfl

/-- Every list keeps the first entry of each of its ids, in its order, nothing else
changes, and a second pass finds nothing to drop. -/
theorem deduplicateWithOneSet_faithful (r : DomainGraphRegistry) :
    r.Deduplicates r.deduplicateWithOneSet ∧
      r.deduplicateWithOneSet.deduplicateWithOneSet = r.deduplicateWithOneSet := by
  rw [deduplicateWithOneSet_eq, deduplicateWithOneSet_eq]
  exact ⟨deduplicates_deduplicate r, deduplicate_deduplicate r⟩

section Find

def DomainGraphRegistry.findById (r : DomainGraphRegistry) (elementId : ElementId) :
    Option CreatedNode :=
  r.allNodes.find? (·.elementId = elementId)

theorem allNodes_eq_nodes (r : DomainGraphRegistry) :
    r.allNodes = r.domain.toList ++ r.nodes .domainLevels ++ r.nodes .knowledge ++ r.nodes .skills ++
      r.nodes .traits ++ r.nodes .milestones := rfl

theorem findById_deduplicate (r : DomainGraphRegistry) (elementId : ElementId) :
    r.deduplicate.findById elementId = r.findById elementId := by
  have hfirst : ∀ list, (r.deduplicate.nodes list).find? (·.elementId = elementId) =
      (r.nodes list).find? (·.elementId = elementId) :=
    fun list => (firstsOf_deduplicate r list).first elementId
  have hdomain : r.deduplicate.domain = r.domain := rfl
  rw [DomainGraphRegistry.findById, DomainGraphRegistry.findById, allNodes_eq_nodes,
    allNodes_eq_nodes]
  simp only [List.find?_append, hfirst, hdomain]

end Find

end AtlasOfUs.Agent
