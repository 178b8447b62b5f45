import AtlasOfUs.Agent.Alignment
import AtlasOfUs.Agent.Confirmations

namespace AtlasOfUs.Agent

open Library Similarity GraphApi

def VerifiedConcept.Generalizes (c : VerifiedConcept) (target : ElementId) : Prop :=
  ∃ name needed, c.action = .createAndGeneralize target name needed

section Nodes

variable {α : Type} {G : Generation α} {env : Env} {verified : List VerifiedConcept}
  {asked : List (Call (services SseEvent Prompt))} {nodes : List CreatedNode} {w w' : World}

theorem Stored.edges {request : CreateNodeRequest} {id : ElementId}
    (h : Stored env request w id w') : w'.graph.edges = w.graph.edges := by
  obtain ⟨vector, -, -, rfl⟩ := h
  rw [Outcome.after]
  split
  · rfl
  · rfl

theorem Generation.Aligned.edges (h : G.Aligned env verified asked w nodes w') :
    w'.graph.edges = w.graph.edges := by
  induction h with
  | nil => rfl
  | reused _ _ ih => exact ih
  | made _ _ _ hstored _ ih => exact ih.trans hstored.edges

theorem linked_congr {g g' : Graph} (h : g'.edges = g.edges) {type : String} {s t : ElementId} :
    g'.Linked type s t ↔ g.Linked type s t := by
  rw [Graph.Linked, h]
  rfl

theorem Generation.Aligned.unlinked (h : G.Aligned env verified asked w nodes w') {i : Nat}
    {c : VerifiedConcept} {node : CreatedNode} (hc : verified[i]? = some c)
    (hnode : nodes[i]? = some node) (haction : ∀ id, c.action ≠ .useExisting id) (type : String)
    (t : ElementId) : ¬ w'.graph.Linked type node.elementId t := by
  induction h generalizing i with
  | nil => cases hc
  | reused hreuse _ ih =>
      cases i with
      | zero =>
          obtain rfl := Option.some.inj hc
          exact absurd hreuse (haction _)
      | succ i => exact ih hc hnode
  | made _ _ _ hstored rest ih =>
      cases i with
      | zero =>
          obtain rfl := Option.some.inj hnode
          rw [linked_congr (rest.edges.trans hstored.edges)]
          obtain ⟨vector, -, rfl, -⟩ := hstored
          exact fun hlinked => Graph.freshId_notMem_nodeIds _ hlinked.mem.1
      | succ i => exact ih hc hnode

end Nodes

def Found (verified : List VerifiedConcept) (created : List CreatedNode) : Prop :=
  ∀ c ∈ verified, ∀ t, c.Generalizes t → ∃ node ∈ created, node.name = c.name

/-- Some concept with this target finds an entry with this id. -/
def Reaches (verified : List VerifiedConcept) (created : List CreatedNode) (s t : ElementId) : Prop :=
  ∃ c ∈ verified, c.Generalizes t ∧
    ∃ source, created.find? (·.name = c.name) = some source ∧ source.elementId = s

namespace GeneratorKind

variable {kind : GeneratorKind} {env : Env} {created : List CreatedNode}

theorem generalizes_iff {name generalName : String} {target t : ElementId} {needed : Bool} :
    VerifiedConcept.Generalizes ⟨name, .createAndGeneralize target generalName needed⟩ t ↔
      target = t := by
  constructor
  · rintro ⟨_, _, h⟩
    cases h
    rfl
  · rintro rfl
    exact ⟨_, _, rfl⟩

theorem exec_linkGeneralization (kind : GeneratorKind) (env : Env) {name : String}
    {source : CreatedNode} (hfind : created.find? (·.name = name) = some source)
    (target : ElementId) (generalName : String) (needed : Bool) (context : AgentContext)
    (w : World) :
    let request : CreateRelationshipRequest := ⟨source.elementId, target, "GENERALIZES_TO", none⟩
    ∃ context', env.exec (kind.linkGeneralization created context
        ⟨name, .createAndGeneralize target generalName needed⟩) w =
      ⟨.ok context', ⟨(env.outcome w.clock).after request.statement w.graph, w.clock + 1⟩,
        [⟨.execute request.statement,
          (env.outcome w.clock).reply (request.statement w.graph).1⟩]⟩ := by
  intro request
  obtain ⟨result, hattempt⟩ : ∃ result, env.exec ((createRelationship request).attempt :
      ContextStep (Except ServiceError CreateRelationshipResult)) w = _ :=
    exec_createRelationship_attempt request env w
  simp only [linkGeneralization, hfind]
  rw [exec_bind, hattempt, Execution.andThen_ok]
  cases result with
  | ok _ => exact ⟨_, rfl⟩
  | error _ => exact ⟨_, rfl⟩

theorem exec_linkGeneralization_none {name target generalName : String} {needed : Bool}
    (hfind : created.find? (·.name = name) = none) (context : AgentContext) (w : World) :
    env.exec (kind.linkGeneralization created context
        ⟨name, .createAndGeneralize target generalName needed⟩) w =
      ⟨.err ("Node not found: " ++ name, context), w, []⟩ := by
  simp only [linkGeneralization, hfind]
  rfl

/-- Pass 7 comes to its end just if no concept misses its entry, and where its statements have
succeeded it has added the links of the concepts, each from the first entry with the name. -/
theorem pass7_links (concepts : List VerifiedConcept) (context : AgentContext) (w : World) :
    ((∃ context', (env.exec (kind.pass7CreateGeneralizationRelationships concepts created context)
        w).exit = .ok context') ↔ Found concepts created) ∧
      (Succeeded (env.exec (kind.pass7CreateGeneralizationRelationships concepts created context)
          w).calls → Found concepts created → ∀ s t,
        ((env.exec (kind.pass7CreateGeneralizationRelationships concepts created context)
            w).state.graph.Linked "GENERALIZES_TO" s t ↔
          w.graph.Linked "GENERALIZES_TO" s t ∨ Reaches concepts created s t)) := by
  induction concepts generalizing context w with
  | nil =>
      constructor
      · exact iff_of_true ⟨context, rfl⟩ fun c hc => absurd hc List.not_mem_nil
      · intro _ _ s t
        exact (or_iff_left fun ⟨c, hc, _⟩ => List.not_mem_nil hc).symm
  | cons c concepts ih =>
      have hskip : (∀ t, ¬ c.Generalizes t) → (Found (c :: concepts) created ↔ Found concepts created) ∧
          ∀ s t, Reaches (c :: concepts) created s t ↔ Reaches concepts created s t := by
        intro hnot
        constructor
        · rw [Found, List.forall_mem_cons]
          exact and_iff_right fun t ht => absurd ht (hnot t)
        · intro s t
          rw [Reaches, List.exists_mem_cons_iff]
          exact or_iff_right fun h => hnot t h.1
      obtain ⟨name, action⟩ := c
      rw [pass7CreateGeneralizationRelationships, List.foldlM_cons]
      cases action with
      | useExisting id | createNew =>
          obtain ⟨hfound, hreaches⟩ := hskip fun t ⟨_, _, h⟩ => by cases h
          simp only [hfound, hreaches]
          exact ih context w
      | createAndGeneralize target generalName needed =>
          cases hfind : created.find? (·.name = name) with
          | none =>
              have hmissing : ¬ Found (⟨name, .createAndGeneralize target generalName needed⟩ ::
                  concepts) created := by
                intro h
                obtain ⟨node, hnode, hname⟩ :=
                  h _ List.mem_cons_self target (generalizes_iff.2 rfl)
                have hno := List.find?_eq_none.1 hfind node hnode
                exact hno (decide_eq_true hname)
              constructor
              · apply iff_of_false _ hmissing
                rintro ⟨context', h⟩
                rw [exec_bind, exec_linkGeneralization_none hfind, Execution.andThen_err] at h
                cases h
              · exact fun _ h => absurd h hmissing
          | some source =>
              obtain ⟨context', hexec⟩ :=
                exec_linkGeneralization kind env hfind target generalName needed context w
              have hname : source.name = name := by simpa using List.find?_some hfind
              have hfound : Found (⟨name, .createAndGeneralize target generalName needed⟩ ::
                  concepts) created ↔ Found concepts created := by
                rw [Found, List.forall_mem_cons]
                exact and_iff_right fun _ _ => ⟨source, List.mem_of_find?_eq_some hfind, hname⟩
              have hreaches : ∀ s t, Reaches (⟨name, .createAndGeneralize target generalName
                  needed⟩ :: concepts) created s t ↔
                    (source.elementId = s ∧ target = t) ∨ Reaches concepts created s t := by
                intro s t
                rw [Reaches, List.exists_mem_cons_iff, generalizes_iff]
                apply or_congr_left
                constructor
                · rintro ⟨htarget, source', hfind', hid⟩
                  obtain rfl := Option.some.inj (hfind.symm.trans hfind')
                  exact ⟨hid, htarget⟩
                · rintro ⟨hid, htarget⟩
                  exact ⟨htarget, source, hfind, hid⟩
              obtain ⟨hexit, hlinked⟩ := ih context' ⟨(env.outcome w.clock).after _ w.graph, w.clock + 1⟩
              rw [hfound, exec_bind, hexec, Execution.andThen_ok]
              refine ⟨hexit, ?_⟩
              intro hsucceeded hall s t
              have hrest := hlinked (fun call hcall => hsucceeded call
                (List.mem_append_right _ hcall)) hall s t
              rw [hreaches, ← or_assoc]
              refine hrest.trans (or_congr_left ?_)
              have hmerge := linked_after_confirmed ⟨rfl, rfl⟩ (hsucceeded _ List.mem_cons_self)
                "GENERALIZES_TO" s t
              exact hmerge.trans (or_congr_right (and_iff_right rfl))

end GeneratorKind

/-- The node of each concept to be linked is linked to the target of the concept. -/
def OwnLinks (verified : List VerifiedConcept) (created : List CreatedNode) (g : Graph) : Prop :=
  ∀ (i : Nat) (c : VerifiedConcept) (node : CreatedNode) (t : ElementId), verified[i]? = some c →
    c.Generalizes t → created[i]? = some node → g.Linked "GENERALIZES_TO" node.elementId t

/-- Each concept to be linked has some concept with its target that finds the entry of its node. -/
def Covered (verified : List VerifiedConcept) (created : List CreatedNode) : Prop :=
  ∀ (i : Nat) (c : VerifiedConcept) (node : CreatedNode) (t : ElementId), verified[i]? = some c →
    c.Generalizes t → created[i]? = some node → Reaches verified created node.elementId t

/-- Pass 7 fails just if some concept to be linked finds no entry of its name, and it links the
nodes of the concepts themselves just if these are among the entries that are found. -/
theorem GeneratorKind.pass7_iff {kind : GeneratorKind} (hkind : kind = knowledgeKind ∨ kind = skillKind)
    {codec : Codec} {env : Env} {verified : List VerifiedConcept} {w w' : World}
    {deliveries : List (Delivered (String × Option String) NodeProperties)}
    {properties : List NodeProperties} {created : List CreatedNode} (context : AgentContext)
    (hdelivers : Buffer.Delivers env.handler (kind.generation codec context).ask BATCH_SIZE
      (verified.filterMap conceptToGenerate) w deliveries w')
    (hcollect : collect (deliveries.map (·.result)) = .ok properties)
    (hpass6 : (env.exec (kind.pass6CreateNodes codec verified properties) w').exit = .ok created) :
    let created6 := (env.exec (kind.pass6CreateNodes codec verified properties) w').state
    let pass7 := env.exec (kind.pass7CreateGeneralizationRelationships verified created context)
      created6
    ((∃ context', pass7.exit = .ok context') ↔ Found verified created) ∧
      (Succeeded pass7.calls →
        ((∃ context', pass7.exit = .ok context') ∧ OwnLinks verified created pass7.state.graph ↔
          Found verified created ∧ Covered verified created)) := by
  intro created6 pass7
  obtain ⟨hexit, hlinked⟩ : ((∃ context', pass7.exit = .ok context') ↔ _) ∧ _ :=
    kind.pass7_links verified context created6
  refine ⟨hexit, fun hsucceeded => ?_⟩
  rw [hexit]
  apply and_congr_right
  intro hfound
  obtain ⟨-, haligned⟩ := (passesAligned codec context hkind env verified w w' deliveries
    properties hdelivers hcollect).2 created hpass6
  apply forall_congr'
  intro i
  apply forall_congr'
  intro c
  apply forall_congr'
  intro node
  apply forall_congr'
  intro t
  apply imp_congr_right
  intro hc
  apply imp_congr_right
  intro hgeneralizes
  apply imp_congr_right
  intro hnode
  have hnew : ∀ id, c.action ≠ .useExisting id := by
    obtain ⟨name, needed, haction⟩ := hgeneralizes
    rw [haction]
    exact fun id => ConceptAction.noConfusion
  rw [hlinked hsucceeded hfound]
  exact or_iff_right (haligned.unlinked hc hnode hnew "GENERALIZES_TO" t)

section Branching

open GeneratorKind

/-- Every reply gives the properties of a node with this name. -/
def naming (name : String) : Codec where
  value := fun _ => .ok (.object [("name", .str name)])
  strings := fun _ => .ok []
  float := fun _ => ""

def versioned : World := World.start (emptyGraph.createNode ["Knowledge"] Props.empty)

def branching : List VerifiedConcept :=
  [.createAndGeneralize "Branching" (candidateId 0) "Version control" false]

def namedProperties (name : String) : NodeProperties := ⟨name, knowledgeKind.keys.map fun key => (key, "")⟩

theorem branching_generated :
    (replying.exec ((branching.filterMap conceptToGenerate).mapM
      fun x => ((knowledgeKind.generation (naming "Branching") webContext).ask x).attempt : Step _)
        versioned).exit = .ok [.ok (namedProperties "Branching")] := by
  decide +kernel

def branchingNodes : List CreatedNode := [.new "Branching" (candidateId 1) "Knowledge"]

def branchingStored : World :=
  (replying.exec (knowledgeKind.pass6CreateNodes (naming "Branching") branching
    [namedProperties "Branching"]) versioned.tick).state

theorem pass7_iff_branching :
    (∃ deliveries, Buffer.Delivers replying.handler
      (knowledgeKind.generation (naming "Branching") webContext).ask BATCH_SIZE
        (branching.filterMap conceptToGenerate) versioned deliveries versioned.tick) ∧
    OwnLinks branching branchingNodes
      (replying.exec (knowledgeKind.pass7CreateGeneralizationRelationships branching branchingNodes
        webContext) branchingStored).state.graph := by
  obtain ⟨deliveries, hresults, hdelivers⟩ := Buffer.delivers_of_run Nat.zero_lt_one
    branching_generated
  have hcollect : collect (deliveries.map (·.result)) = .ok [namedProperties "Branching"] := by
    rw [hresults]
    rfl
  have hdelivers : Buffer.Delivers replying.handler
      (knowledgeKind.generation (naming "Branching") webContext).ask BATCH_SIZE
        (branching.filterMap conceptToGenerate) versioned deliveries versioned.tick := hdelivers
  refine ⟨⟨deliveries, hdelivers⟩, ?_⟩
  have hpass6 : (replying.exec (knowledgeKind.pass6CreateNodes (naming "Branching") branching
      [namedProperties "Branching"]) versioned.tick).exit = .ok branchingNodes := by
    decide +kernel
  have hiff := (GeneratorKind.pass7_iff (.inl rfl) webContext hdelivers hcollect hpass6).2
    (by decide +kernel)
  apply And.right
  apply hiff.2
  constructor
  · intro c hc t _
    obtain rfl := List.mem_singleton.1 hc
    exact ⟨_, List.mem_singleton_self _, rfl⟩
  · intro i c node t hc hgeneralizes hnode
    obtain rfl := List.mem_singleton.1 (List.mem_of_getElem? hc)
    obtain rfl := List.mem_singleton.1 (List.mem_of_getElem? hnode)
    exact ⟨_, List.mem_singleton_self _, hgeneralizes, _, rfl, rfl⟩

/-- A reply that calls the concept by another name: the node is created, and is not found. -/
theorem branching_not_found :
    (replying.exec (knowledgeKind.pass5GenerateProperties (naming "Branches") webContext branching)
      versioned).exit = .ok [namedProperties "Branches"] ∧
    (replying.exec (knowledgeKind.pass6CreateNodes (naming "Branches") branching
      [namedProperties "Branches"]) versioned.tick).exit =
        .ok [.new "Branches" (candidateId 1) "Knowledge"] ∧
    (replying.exec (knowledgeKind.pass7CreateGeneralizationRelationships branching
      [.new "Branches" (candidateId 1) "Knowledge"] webContext)
      (replying.exec (knowledgeKind.pass6CreateNodes (naming "Branches") branching
        [namedProperties "Branches"]) versioned.tick).state).exit =
        .err ("Node not found: Branching", webContext) := by
  refine ⟨by decide +kernel, by decide +kernel, rfl⟩

end Branching

end AtlasOfUs.Agent
