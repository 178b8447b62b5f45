import AtlasOfUs.GraphApi.FaithfulView
import AtlasOfUs.GraphApi.Undisturbed

namespace AtlasOfUs.GraphApi

open Library

def renamedDomain (request : UpdateDomainRequest) (d : Node) : Node :=
  { d with
    props := (d.props.set "name" (.str request.domain.name)).set "description"
      (.str request.domain.description) }

/-- The nodes that an update keeps, the domain under the name that it gets. -/
def keptNodes (request : UpdateDomainRequest) (g : Graph) : List Node :=
  (g.nodes.filter fun n => !isLevelOf g request.domainElementId n).map fun n =>
    if isNode "Domain" request.domainElementId n then renamedDomain request n else n

theorem openingWrites_nodes (request : UpdateDomainRequest) (progress : Bool) (g : Graph) :
    (openingWrites request progress true true g).nodes = keptNodes request g := by
  have hnodes := progress_nodes progress request.removedNodeElementIds g
  have hrenamed : (beforeDeletion request progress true g).nodes = g.nodes.map fun n =>
      if isNode "Domain" request.domainElementId n then renamedDomain request n else n := by
    rw [← hnodes]
    rfl
  have hlevels : (openingWrites request progress true true g).nodes =
      (beforeDeletion request progress true g).nodes.filter
        fun n => !isLevelOf g request.domainElementId n := by
    rw [← isLevelOf_beforeDeletion request progress true g]
    rfl
  rw [hlevels, hrenamed, List.filter_map, keptNodes]
  congr 2
  funext n
  rw [Function.comp_apply]
  congr 1
  apply isLevelOf_congr
  · split <;> rfl
  · split <;> rfl

def keptEdges (domainId : ElementId) (g : Graph) : List Edge :=
  g.edges.filter fun e => !decide (IsLevel g domainId e.source) && !decide (IsLevel g domainId e.target)

theorem beforeDeletion_edges {request : UpdateDomainRequest}
    (hremoved : request.removedNodeElementIds = []) (progress : Bool) (g : Graph) :
    (beforeDeletion request progress true g).edges = g.edges := by
  cases progress with
  | false => rfl
  | true =>
      change (g.edges.filter fun e =>
        !request.removedNodeElementIds.any fun i => isProgressOf g "User" i e) = g.edges
      simp [hremoved]

theorem openingWrites_edges {request : UpdateDomainRequest}
    (hremoved : request.removedNodeElementIds = []) (progress : Bool) (g : Graph) :
    (openingWrites request progress true true g).edges = keptEdges request.domainElementId g := by
  have hdoomed (id : ElementId) : (Graph.doomed (beforeDeletion request progress true g)
      (isLevelOf (beforeDeletion request progress true g) request.domainElementId)).contains id =
        decide (IsLevel g request.domainElementId id) := by
    rw [List.contains_eq_mem, decide_eq_decide]
    exact mem_doomed_beforeDeletion request progress true g
  have hdeleted : (openingWrites request progress true true g).edges =
      (beforeDeletion request progress true g).edges.filter fun e =>
        !(Graph.doomed (beforeDeletion request progress true g)
            (isLevelOf (beforeDeletion request progress true g) request.domainElementId)).contains e.source &&
          !(Graph.doomed (beforeDeletion request progress true g)
            (isLevelOf (beforeDeletion request progress true g) request.domainElementId)).contains e.target :=
    rfl
  rw [hdeleted, beforeDeletion_edges hremoved, keptEdges]
  simp only [hdoomed]

def contentRequirement (type : NodeType) (c : String × ElementId × ElementId × Props) :
    ElementId × Option Value :=
  (c.2.2.1, type.threshold.bind fun keys => c.2.2.2 keys.1)

/-- A written level requires what the links to it say, of the nodes that are there. -/
theorem Written.requirements_eq {g final : Graph} {domainId : ElementId} {levels : List DomainLevel}
    {ids : List ElementId} (h : Written g final domainId levels ids) {i : Nat} {id : ElementId}
    {level : DomainLevel} (hid : ids[i]? = some id) (hlevel : levels[i]? = some level) (type : NodeType) :
    (requirements final type id).map (requirementOf type) =
      ((levelLinks g id level).filter fun c =>
        c.1 = type.relType && hasNode final type.label c.2.2.1).map (contentRequirement type) := by
  have hrequires : type.relType ∈ requiresTypes := by
    cases type <;> simp [NodeType.relType, requiresTypes]
  have hfilter : requirements final type id = (requiresFrom final id).filter fun e =>
      e.type = type.relType && hasNode final type.label e.target := by
    rw [requirements, requiresFrom, List.filter_filter]
    refine List.filter_congr fun e _ => ?_
    by_cases htype : e.type = type.relType
    · simp [htype, hrequires, Bool.and_comm]
    · simp [htype]
  rw [hfilter, ← h.requiresFrom_content hid hlevel, List.filter_map, List.map_map]
  rfl

end AtlasOfUs.GraphApi
