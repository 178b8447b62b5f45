import AtlasOfUs.Agent.Emissions
import AtlasOfUs.GraphApi.AddressedWrites
import AtlasOfUs.GraphApi.RequirementClashes
import AtlasOfUs.Library.Machine
import AtlasOfUs.Worker.Effects
import AtlasOfUs.Worker.Redelivery
import AtlasOfUs.Worker.Stages

namespace AtlasOfUs

open Library

variable {g : Graph} {env : Env}

section Relationships

open GraphApi

theorem simple_mergeRelationship (type : String) (source target : Option ElementId)
    (properties : Properties) (h : g.Simple) :
    (mergeRelationshipStatement type source target properties g).2.Simple := by
  cases source with
  | none => exact h
  | some s =>
      cases target with
      | none => exact h
      | some t => exact h.mergeEdge

variable {conv : Conversion}

theorem simple_mergeStatement (type : String) (keys : List String) (params : Params)
    (h : g.Simple) : (Wire.mergeStatement conv type keys params g).2.Simple := by
  rw [Wire.mergeStatement]
  cases params.string "sourceId" with
  | none => exact h
  | some s =>
      cases params.string "targetId" with
      | none => exact h
      | some t =>
          cases setClauses conv params keys with
          | none => exact h
          | some assignments => exact h.mergeEdge

theorem simple_createRelationship (request : Wire.CreateRelationshipRequest) (h : g.Simple) :
    (env.exec (Wire.createRelationship conv request : Rest Empty Empty _)
      (.start g)).state.graph.Simple := by
  rw [Wire.graph_createRelationship]
  exact after_cases (fun _ => id) (fun g hg => simple_mergeStatement _ _ _ hg) _ h

def GraphApi.Wire.UpdateRelationshipRequest.Retypes (conv : Conversion)
    (request : Wire.UpdateRelationshipRequest) (g : Graph) : Prop :=
  let properties := request.properties.getD .empty
  request.relationshipType ≠ "" → (properties.assignments conv).isSome = true →
    ∀ r ∈ g.edges, bound conv properties "targetId" request.targetId = some r.id →
      ∀ e ∈ g.edges, e.key = (request.relationshipType, r.source, r.target) → e.id = r.id

/-- A relationship is changed without a second one of its kind exactly if there is none yet. -/
theorem simple_updateRelationship_iff (request : Wire.UpdateRelationshipRequest) (h : g.Simple) :
    (env.exec (Wire.updateRelationship conv request : Rest Empty Empty _)
        (.start g)).state.graph.Simple ↔
      (env.outcome 0).applied = false ∨ request.Retypes conv g := by
  rw [Wire.graph_updateRelationship]
  refine (Wire.after_iff h).trans (or_congr_right ?_)
  rw [Wire.updateRelationshipStatement, Wire.UpdateRelationshipRequest.Retypes]
  by_cases htype : request.relationshipType = ""
  · rw [if_neg (not_not_intro htype), Wire.setRelationshipStatement]
    refine iff_of_true ?_ fun hne => absurd htype hne
    split
    · exact h.setEdges _ _
    · exact h
  · rw [if_pos htype, Wire.retypeStatement, setClauses_paramAll,
      string_paramAll conv request.targetId rfl]
    cases hbound : bound conv (request.properties.getD .empty) "targetId" request.targetId with
    | none => exact iff_of_true h fun _ _ r _ hr => by cases hr
    | some i =>
        cases hfind : g.edges.find? (fun r => r.id = i) with
        | none =>
            simp only [Option.bind_some, hfind]
            refine iff_of_true h fun _ _ r hr hid => ?_
            have hne := List.find?_eq_none.1 hfind r hr
            rw [Option.some.injEq] at hid
            simp [hid] at hne
        | some r =>
            have hr := List.mem_of_find?_eq_some hfind
            have hid : r.id = i := by simpa using List.find?_some hfind
            subst hid
            cases hassigned : (request.properties.getD .empty).assignments conv with
            | none =>
                simp only [Option.bind_some, hfind]
                exact iff_of_true h fun _ hsome => by cases hsome
            | some assignments =>
                simp only [Option.bind_some, hfind]
                refine (Graph.simple_replaceEdge_iff h hr).trans ?_
                constructor
                · intro hnone _ _ r' hr' hid
                  obtain rfl := Graph.edge_eq_of_id hr hr' (Option.some.inj hid)
                  exact hnone
                · intro hnone
                  exact hnone htype rfl r hr rfl

end Relationships

section Distributor

open Agent

theorem simple_distributeLevels (codec : Codec) (context : AgentContext) (h : g.Simple) :
    (env.exec (LevelDistributorStep.execute codec context) (.start g)).state.graph.Simple := by
  have hemits : Emits (fun q => ∀ g, Library.Graph.Simple g → (q g).2.Simple) (fun _ => True)
      (LevelDistributorStep.execute codec context) :=
    LevelDistributorStep.emits_execute codec
      (fun request g hg => simple_mergeRelationship _ _ _ _ hg) (fun _ _ => trivial) context
  exact hemits.maintains (P := Library.Graph.Simple) (fun q g hq hg => hq g hg) env _ h

end Distributor

section Worker

open Worker

/-- A node that the job takes over is not required by its level yet. -/
def Worker.NodeGenerationJob.TakesOver (codec : WorkerCodec) (env : Env) (job : NodeGenerationJob)
    (g : Graph) : Prop :=
  ∀ id name, job.decision codec env 0 = some (.useExisting id name) →
    ∀ level ∈ job.assignedLevel, ¬ g.Linked job.nodeType.levelRelationship level.elementId id

theorem levelRelationship_ne (type : NodeType) : type.levelRelationship ≠ "GENERALIZES_TO" := by
  cases type <;> decide

theorem not_linked_fresh {g' : Graph} (h : g'.edges = g.edges) (type : String) (s t : ElementId) :
    ¬ g'.Linked type s g.freshId ∧ ¬ g'.Linked type g.freshId t := by
  refine ⟨?_, ?_⟩
  · rintro ⟨e, he, hbetween⟩
    rw [h] at he
    exact g.freshId_notMem_nodeIds (Graph.mem_nodeIds_of_between he hbetween).2
  · rintro ⟨e, he, hbetween⟩
    rw [h] at he
    exact g.freshId_notMem_nodeIds (Graph.mem_nodeIds_of_between he hbetween).1

theorem after_createNode_edges (o : Outcome) (label name : String) (props : Props) (g : Graph) :
    (o.after (createNodeStatement label name props) g).edges = g.edges := by
  rw [Outcome.after]
  split <;> rfl

theorem Worker.Begun.simple {job : NodeGenerationJob} {o : Option Outcome} {g' : Graph}
    (h : Begun env job g o g') (hg : g.Simple) :
    g'.Simple ∧ ∀ type s, type ≠ "GENERALIZES_TO" → ¬ g'.Linked type s g.freshId := by
  cases h with
  | none => exact ⟨hg, fun type s _ => (not_linked_fresh rfl type s s).1⟩
  | made name props n =>
      have hedges := after_createNode_edges (env.outcome n) job.nodeType.label name props g
      exact ⟨hg.of_edges hedges, fun type s _ => (not_linked_fresh hedges type s s).1⟩
  | generalized name props n m target =>
      have hedges := after_createNode_edges (env.outcome n) job.nodeType.label name props g
      refine after_cases (P := fun g' : Graph => g'.edges = g.edges) (Q := fun g' : Graph => g'.Simple ∧
        ∀ type s, type ≠ "GENERALIZES_TO" → ¬ g'.Linked type s g.freshId) (fun g₁ hg₁ => ?_)
        (fun g₁ hg₁ => ?_) (env.outcome m) hedges
      · exact ⟨hg.of_edges hg₁, fun type s _ => (not_linked_fresh hg₁ type s s).1⟩
      · refine ⟨(hg.of_edges hg₁).createEdge (not_linked_fresh hg₁ _ target target).2, ?_⟩
        intro type s htype hlinked
        rcases Graph.linked_createEdge.1 hlinked with hlinked | ⟨⟨hsame, -⟩, -⟩
        · exact (not_linked_fresh hg₁ type s s).1 hlinked
        · exact htype hsame.symm

theorem simple_processJob (codec : WorkerCodec) (config : Config) (job : NodeGenerationJob)
    (h : g.Simple) (htakes : job.TakesOver codec env g) :
    (env.exec (processJob codec config job) (.start g)).state.graph.Simple := by
  have hprocessed : ∀ id g', Processed codec env 0 job g id g' → g'.Simple := by
    rintro id g' ⟨decision, wasReused, g₁, hdecision, hresolved, hassigned⟩
    have hready : g₁.Simple ∧ ∀ level ∈ job.assignedLevel,
        ¬ g₁.Linked job.nodeType.levelRelationship level.elementId id := by
      cases hresolved with
      | reused id name => exact ⟨h, htakes id name hdecision⟩
      | made hbegun hrow =>
          obtain ⟨hsimple, hapart⟩ := hbegun.simple h
          exact ⟨hsimple, fun level _ => hapart _ _ (levelRelationship_ne job.nodeType)⟩
    cases hassigned with
    | none hlevel => exact hready.1
    | linked hlevel n =>
        exact after_cases (P := fun g₂ : Graph => g₂.Simple ∧ ∀ level ∈ job.assignedLevel,
            ¬ g₂.Linked job.nodeType.levelRelationship level.elementId id)
          (fun _ => And.left) (fun g₂ hg₂ => hg₂.1.createEdge (hg₂.2 _ hlevel)) (env.outcome n) hready
  obtain ⟨hvalue, herror⟩ := triple_processJob (g := g) config 0
  cases hexit : (env.exec (processJob codec config job) (.start g)).exit with
  | ok result =>
      obtain ⟨id, -, hdone⟩ := hvalue _ result rfl hexit
      exact hprocessed id _ hdone
  | err e =>
      rcases herror _ e rfl hexit with ⟨o, hbegun⟩ | ⟨id, hdone⟩
      · exact (hbegun.simple h).1
      · exact hprocessed id _ hdone
  | panicked => exact absurd hexit ((creates_processJob codec config job).exit_ne_panicked _)

end Worker

section Run

open GraphApi

/-- What creates edges, each with its arguments and the answers of the outside world. -/
inductive EdgeWriter
  | createRelationship (env : Env) (conv : Conversion) (request : Wire.CreateRelationshipRequest)
  | updateRelationship (env : Env) (conv : Conversion) (request : Wire.UpdateRelationshipRequest)
  | createDomain (env : Env) (request : CreateDomainRequest)
  | updateDomain (env : Env) (request : UpdateDomainRequest)
  | distributeLevels (env : Env) (codec : Codec) (context : Agent.AgentContext)
  | processJob (env : Env) (codec : Worker.WorkerCodec) (config : Worker.Config)
      (job : Worker.NodeGenerationJob)

namespace EdgeWriter

def run : EdgeWriter → Graph → Graph
  | createRelationship env conv request, g =>
      (env.exec (Wire.createRelationship conv request : Rest Empty Empty _) (.start g)).state.graph
  | updateRelationship env conv request, g =>
      (env.exec (Wire.updateRelationship conv request : Rest Empty Empty _) (.start g)).state.graph
  | createDomain env request, g => (env.exec (GraphApi.createDomain request) (.start g)).state.graph
  | updateDomain env request, g => (env.exec (GraphApi.updateDomain request) (.start g)).state.graph
  | distributeLevels env codec context, g =>
      (env.exec (Agent.LevelDistributorStep.execute codec context) (.start g)).state.graph
  | processJob env codec config job, g =>
      (env.exec (Worker.processJob codec config job) (.start g)).state.graph

/-- No edge is created without a look whether it is there already, or there is none. -/
def Apart : EdgeWriter → Graph → Prop
  | createRelationship .., _ | distributeLevels .., _ => True
  | updateRelationship env conv request, g =>
      (env.outcome 0).applied = false ∨ request.Retypes conv g
  | createDomain env request, g =>
      StoresSimply env request.levels (createStart env (.start g) request)
  | updateDomain env request, g =>
      StoresSimply env request.levels (updateStart env (.start g) request)
  | processJob env codec _ job, g => job.TakesOver codec env g

theorem simple_run (writer : EdgeWriter) (g : Graph) (hapart : writer.Apart g) (h : g.Simple) :
    (writer.run g).Simple := by
  cases writer with
  | createRelationship env conv request => exact simple_createRelationship request h
  | updateRelationship env conv request =>
      exact (simple_updateRelationship_iff request h).2 hapart
  | createDomain env request => exact simple_createDomain env h request hapart
  | updateDomain env request => exact simple_updateDomain env h request hapart
  | distributeLevels env codec context => exact simple_distributeLevels codec context h
  | processJob env codec config job => exact simple_processJob codec config job h hapart

end EdgeWriter

/-- A level and a piece of knowledge that it does not require yet. -/
def levelAndOpenings : Graph := Worker.graphWithLevel.createNode ["Knowledge"] Props.empty

def openingsFound : Env :=
  { Env.calm with similar := fun _ => .ok [⟨some "Openings", none, some (candidateId 1), some 1⟩] }

def openingsTaken : EdgeWriter :=
  .processJob openingsFound Worker.firstGameCodec ⟨some "key"⟩
    { Worker.firstGame with nodeType := .knowledge, nodeName := "Openings" }

/-- A domain with one level, which requires the knowledge of the graph and a new one. -/
def endgameDomain : CreateDomainRequest where
  domain := ⟨"Endgame", ""⟩
  levels := [⟨1, "Endgame Novice", none, 100,
    ⟨[⟨some (candidateId 1), none, "Apply"⟩,
      ⟨none, some ⟨"Opposition", "", none, none, none, none⟩, "Remember"⟩], [], [], []⟩⟩]

theorem endgameDomain_storesSimply : StoresSimply Env.calm endgameDomain.levels
    (createStart Env.calm (.start (openingsTaken.run levelAndOpenings)) endgameDomain) := by
  let opened := Env.calm.exec (openDomain endgameDomain) (.start (openingsTaken.run levelAndOpenings))
  have hopened : opened.exit = .ok (openingsTaken.run levelAndOpenings).freshId := by decide +kernel
  have hnone : named opened.state.graph "Knowledge" "Opposition" = none := by decide +kernel
  have hold : candidateId 1 ∈ opened.state.graph.nodeIds := by decide +kernel
  intro domainId w hstart
  rw [createStart, loopStart,
    show (Env.calm.exec (openDomain endgameDomain) _).exit = _ from hopened] at hstart
  obtain ⟨-, rfl⟩ := Prod.mk.inj (Option.some.inj hstart)
  refine ⟨fun _ _ _ => rfl, fun level hlevel => ?_⟩
  obtain rfl := List.mem_singleton.1 hlevel
  refine List.pairwise_pair.2 ?_
  rintro ⟨-, ⟨id, ⟨hid, -⟩, data, hdata, hnamed⟩, -⟩
  obtain rfl := Option.some.inj hdata
  obtain rfl : id = candidateId 1 := hid
  rcases hnamed with hnamed | ⟨-, hnew⟩
  · exact absurd (hnone.symm.trans hnamed) (by simp)
  · exact hnew hold

end Run

end AtlasOfUs
