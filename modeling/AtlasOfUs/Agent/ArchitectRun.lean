import AtlasOfUs.Agent.DomainArchitect
import AtlasOfUs.GraphApi.NodeWrites
import AtlasOfUs.Library.Triple

namespace AtlasOfUs.Agent

open Library GraphApi

section Writes

variable (env : Env) {P : World → Prop} {ε : Type}

theorem triple_send (event : SseEvent) (hP : ∀ w, P w → P w.tick) :
    Triple (Env.handler env) P (send event : Service SseEvent Prompt ε Unit) (fun _ => P)
      (fun _ _ => False) :=
  Triple.perform fun w hw => hP w hw

theorem triple_storeNode (codec : Codec) (request : CreateNodeRequest) (ids : List ElementId) :
    Triple (Env.handler env) (fun w => ids ⊆ w.graph.nodeIds) (storeNode codec request)
      (fun result w => result.elementId ∉ ids ∧ ids ⊆ w.graph.nodeIds) (fun _ _ => True) := by
  refine Triple.mapErr ⟨fun w result hids hok => ?_, fun _ _ _ _ => trivial⟩
  obtain ⟨vector, -, -, hid, -⟩ := createNode_ok hok
  refine ⟨fun hmem => w.graph.freshId_notMem_nodeIds (hid ▸ hids hmem), fun id hmem => ?_⟩
  rcases createNode_graph codec request env w with hg | ⟨v, hg⟩
  · rw [show ((createNode codec request false).run env.handler w).state.graph = w.graph from hg]
    exact hids hmem
  · rw [show ((createNode codec request false).run env.handler w).state.graph = _ from hg]
    simp [hids hmem]

theorem triple_storeRelationship (codec : Codec) (source target : ElementId) (type : String)
    (ids : List ElementId) :
    Triple (Env.handler env) (fun w => ids ⊆ w.graph.nodeIds)
      (storeRelationship codec ⟨source, target, type, none⟩)
      (fun _ w => ids ++ [target] ⊆ w.graph.nodeIds) (fun _ _ => True) := by
  refine Triple.mapErr ⟨fun w result hids hok => ?_, fun _ _ _ _ => trivial⟩
  obtain ⟨-, row, hrow⟩ := (exec_createRelationship _ env w).2 result hok
  obtain ⟨s, t, -, ht, -, hmem⟩ := mergeRelationshipStatement_rows hrow
  obtain rfl : target = t := Option.some.inj ht
  have hnodes := @createRelationship_nodes SseEvent Prompt ⟨source, target, type, none⟩ env w
  change ids ++ [target] ⊆ Graph.nodeIds (env.exec (createRelationship _ : Rest SseEvent Prompt _)
    w).state.graph
  rw [Graph.nodeIds, hnodes]
  exact List.append_subset.2 ⟨hids, List.cons_subset.2 ⟨hmem, List.nil_subset _⟩⟩

end Writes

namespace DomainArchitectStep

variable (codec : Codec) (tables : CharTables)

def ArchitectLevels (domainName : String) (levels : List CreatedNode) : Prop :=
  levels.map (·.name) = (getLevelStructure domainName).map (·.name) ∧
    (levels.map (·.elementId)).Nodup

/-- While levels are still to come, those there are have ids of their own, all
of nodes in the graph. -/
def LevelsSoFar (domainName : String) (context : AgentContext) (rest : List LevelInfo)
    (w : World) : Prop :=
  context.domainGraph.domainLevels.map (·.name) ++ rest.map (·.name) =
      (getLevelStructure domainName).map (·.name) ∧
    (context.domainGraph.domainLevels.map (·.elementId)).Nodup ∧
    context.domainGraph.domainLevels.map (·.elementId) ⊆ w.graph.nodeIds

theorem triple_createLevel (env : Env) (domainName : String) (domainId : ElementId)
    (context : AgentContext) (info : LevelInfo) (rest : List LevelInfo) :
    Triple (Env.handler env) (LevelsSoFar domainName context (info :: rest))
      (createLevel codec domainId context info)
      (fun context' => LevelsSoFar domainName context' rest) (fun _ _ => True) := by
  refine Triple.of_pre (fun _ h => h.1) fun hnames => Triple.of_pre (fun _ h => h.2.1) fun hnodup => ?_
  refine ((Triple.mapErr (triple_storeNode env codec _ _)).weaken fun _ h => h.2.2).bind
    fun level => ?_
  refine Triple.of_pre (fun _ h => h.1) fun hnew => ?_
  refine ((Triple.mapErr (triple_storeRelationship env codec _ _ _ _)).weaken fun _ h => h.2).bind
    fun _ => ?_
  refine ((triple_send env _ fun _ h => h).conseq (fun _ h => h) (fun _ _ h => h)
    (fun _ _ h => h.elim)).bind fun _ => ?_
  refine Triple.done fun w hw => ⟨?_, ?_, ?_⟩
  · simpa [AgentContext.addDomainLevel, CreatedNode.new] using hnames
  · simp only [AgentContext.addDomainLevel, CreatedNode.new, List.map_append, List.map_cons,
      List.map_nil]
    refine List.nodup_append.2 ⟨hnodup, List.nodup_singleton _, fun a ha b hb hab => hnew ?_⟩
    rwa [hab, List.mem_singleton.1 hb] at ha
  · simpa [AgentContext.addDomainLevel, CreatedNode.new] using hw

/-- However the outside world answers, an architect that succeeds leaves the
five levels of the domain in order, with ids of their own. -/
theorem execute_architectLevels {env : Env} {w : World} {domainName : String}
    {description : Option String} {context : AgentContext}
    (h : (env.exec (execute codec tables ⟨domainName, description, none, {}⟩) w).exit = .ok context) :
    ArchitectLevels domainName context.domainGraph.domainLevels := by
  have htriple : Triple (Env.handler env) (fun _ => True)
      (execute codec tables ⟨domainName, description, none, {}⟩)
      (fun context w => LevelsSoFar domainName context [] w) (fun _ _ => True) := by
    refine (Triple.true _).bind fun _ => (Triple.true _).bind fun domain => ?_
    refine (Triple.true _).bind fun _ => (Triple.true _).bind fun _ => (Triple.true _).bind fun _ => ?_
    refine (Triple.foldlM _ (triple_createLevel codec env domainName domain.elementId)
      (getLevelStructure domainName) _).weaken fun w _ => ?_
    exact ⟨rfl, List.nodup_nil, List.nil_subset _⟩
  obtain ⟨hnames, hnodup, -⟩ := htriple.value w context trivial h
  exact ⟨by simpa using hnames, hnodup⟩

end DomainArchitectStep

end AtlasOfUs.Agent
