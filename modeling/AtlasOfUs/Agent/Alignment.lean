import AtlasOfUs.Agent.ReuseDecisions
import AtlasOfUs.Agent.TraitGenerator
import AtlasOfUs.GraphApi.NodeWrites
import AtlasOfUs.Library.Buffered
import Mathlib.Data.List.Forall2

namespace AtlasOfUs.Agent

open Library Similarity GraphApi

variable {α β : Type}

abbrev Delivered (α β : Type) := Delivery (services SseEvent Prompt) String α β

def BATCH_SIZE : Nat := 1

/-- What the generators do with a concept that is not reused, once they have its properties. -/
def createdNext (codec : Codec) (label : String) (nodes : List CreatedNode) (props : NodeProperties)
    (rest : List NodeProperties) : Step (List CreatedNode × List NodeProperties) := do
  let result ← storeNode codec (props.request label)
  return (nodes ++ [.new props.name result.elementId label], rest)

section Streams

variable {env : Env} {w w' : World} {deliveries : List (Delivered α β)}

theorem collect_eq_ok {results : List (Except String β)} {values : List β} :
    collect results = .ok values ↔
      List.Forall₂ (fun result value => result = .ok value) results values := by
  induction results generalizing values with
  | nil => cases values <;> simp [collect]
  | cons result results ih =>
      cases result with
      | error e =>
          rw [collect]
          apply iff_of_false
          · exact fun h => by cases h
          · rintro (_ | ⟨h, -⟩)
            cases h
      | ok a =>
          cases values with
          | nil =>
              rw [collect]
              cases collect results <;> simp [Except.map]
          | cons value values =>
              rw [collect, List.forall₂_cons, ← ih]
              cases collect results <;> simp [Except.map]

theorem follows_ask {prompt : Prompt} {parse : String → Parsed α} {a : α}
    {calls : List (Call (services SseEvent Prompt))}
    (h : (ask prompt parse).Follows calls (.done a)) :
    ∃ text, calls = [⟨.generate prompt, .ok text⟩] ∧ parse text = .ok a := by
  rcases Proc.Follows.of_call h with ⟨-, hq⟩ | ⟨reply, rest, rfl, hrest⟩
  · cases hq
  · cases reply with
    | error e =>
        obtain ⟨-, hq⟩ := Proc.Follows.of_ofExit (x := .err _) hrest
        cases hq
    | ok text =>
        obtain ⟨rfl, hparsed⟩ := Proc.Follows.of_ofExit (x := parse text) hrest
        exact ⟨text, rfl, hparsed⟩

end Streams

/-- The node was stored with these properties: the id is the one that the database gave it. -/
def Stored (env : Env) (request : CreateNodeRequest) (w : World) (id : ElementId) (w' : World) :
    Prop :=
  ∃ vector, env.embedding w.clock = .ok vector ∧ id = w.graph.freshId ∧
    w' = ⟨(env.outcome (w.clock + 1)).after
      (createNodeStatement request.labels (request.stored vector)) w.graph, w.clock + 2⟩

section Stores

variable {env : Env} {w : World} {codec : Codec} {request : CreateNodeRequest}

theorem storeNode_ok {result : CreateNodeResult}
    (h : (env.exec (storeNode codec request) w).exit = .ok result) :
    Stored env request w result.elementId (env.exec (storeNode codec request) w).state := by
  rw [storeNode, exec_mapErr] at h ⊢
  have hcreate : (env.exec (createNode codec request false : Rest SseEvent Prompt _) w).exit =
      .ok result := by
    cases hexit : (env.exec (createNode codec request false : Rest SseEvent Prompt _) w).exit with
    | ok a =>
        rw [hexit] at h
        obtain rfl : a = result := Exit.ok.inj h
        rfl
    | err e | panicked =>
        rw [hexit] at h
        cases h
  obtain ⟨vector, hvector, -, hid, hstate⟩ := createNode_ok hcreate
  exact ⟨vector, hvector, hid, hstate⟩

theorem storeNode_err {e : String} (h : (env.exec (storeNode codec request) w).exit = .err e) :
    ∃ error, e = ServiceError.toString codec error := by
  rw [storeNode, exec_mapErr] at h
  cases hexit : (env.exec (createNode codec request false : Rest SseEvent Prompt _) w).exit with
  | err error =>
      rw [hexit] at h
      exact ⟨error, (Exit.err.inj h).symm⟩
  | ok a | panicked =>
      rw [hexit] at h
      cases h

theorem exec_createdNext (env : Env) (codec : Codec) (label : String) (nodes : List CreatedNode)
    (props : NodeProperties) (rest : List NodeProperties) (w : World) :
    (∃ id, (env.exec (createdNext codec label nodes props rest) w).exit =
        .ok (nodes ++ [.new props.name id label], rest) ∧
      Stored env (props.request label) w id
        (env.exec (createdNext codec label nodes props rest) w).state) ∨
    (∃ error, (env.exec (createdNext codec label nodes props rest) w).exit =
      .err (ServiceError.toString codec error)) ∨
    (env.exec (createdNext codec label nodes props rest) w).exit = .panicked := by
  rw [createdNext, exec_bind]
  cases hstore : (env.exec (storeNode codec (props.request label)) w).exit with
  | ok result =>
      left
      rw [Execution.exit_andThen hstore, Execution.state_andThen hstore]
      exact ⟨result.elementId, rfl, storeNode_ok hstore⟩
  | err e =>
      obtain ⟨error, rfl⟩ := storeNode_err hstore
      exact .inr (.inl ⟨error, Execution.exit_andThen_err hstore _⟩)
  | panicked =>
      right
      right
      rw [Execution.andThen, hstore]

theorem append_ne_append (a b : String) (ha : a.toList ≠ []) (hb : b.toList ≠ [])
    (hne : a.toList.head? ≠ b.toList.head?) (rest rest' : String) : a ++ rest ≠ b ++ rest' := by
  intro h
  have hhead := congrArg (fun s => s.toList.head?) h
  simp only [String.toList_append] at hhead
  rw [List.head?_append_of_ne_nil _ ha, List.head?_append_of_ne_nil _ hb] at hhead
  exact hne hhead

theorem toString_ne_missing (error : ServiceError) (rest : String) :
    ServiceError.toString codec error ≠ "Missing" ++ rest := by
  have hprefix : ∃ before after, ServiceError.toString codec error = before ++ after ∧
      before.toList ≠ [] ∧ before.toList.head? ≠ some 'M' := by
    cases error with
    | databaseError message => exact ⟨_, message, rfl, by decide, by decide⟩
    | embeddingFailed message => exact ⟨_, message, rfl, by decide, by decide⟩
    | similarNodeExists score details =>
        have heq : "Similar node exists (score: " ++ codec.float score ++ "): " ++ details =
            "Similar node exists (score: " ++ (codec.float score ++ ("): " ++ details)) := by
          rw [String.append_assoc, String.append_assoc]
        exact ⟨_, _, heq, by decide, by decide⟩
    | notFound message => exact ⟨_, message, rfl, by decide, by decide⟩
    | validationError message => exact ⟨_, message, rfl, by decide, by decide⟩
  obtain ⟨before, after, heq, hne, hhead⟩ := hprefix
  rw [heq]
  exact append_ne_append before "Missing" hne (by decide) hhead after rest

end Stores

/-- What the generators do not share of the passes that generate properties and create nodes. -/
structure Generation (α : Type) where
  label : String
  missing : String
  item : VerifiedConcept → Option α
  prompt : α → Prompt
  parse : α → String → Parsed NodeProperties

namespace Generation

variable (G : Generation α) (env : Env) (codec : Codec)

def ask (x : α) : Step NodeProperties := Agent.ask (G.prompt x) (G.parse x)

/-- The nodes of the concepts, with the replies they are made from and the worlds they are made in.
Each concept that is not a reuse has the next reply, and it is the reply to its own prompt. -/
inductive Aligned : List VerifiedConcept → List (Call (services SseEvent Prompt)) → World →
    List CreatedNode → World → Prop
  | nil (w : World) : Aligned [] [] w [] w
  | reused {c : VerifiedConcept} {id : ElementId} {verified : List VerifiedConcept}
      {asked : List (Call (services SseEvent Prompt))} {nodes : List CreatedNode} {w w' : World}
      (haction : c.action = .useExisting id) (rest : Aligned verified asked w nodes w') :
      Aligned (c :: verified) asked w (.reused c.name id G.label :: nodes) w'
  | made {c : VerifiedConcept} {x : α} {text : String} {props : NodeProperties} {id : ElementId}
      {verified : List VerifiedConcept} {asked : List (Call (services SseEvent Prompt))}
      {nodes : List CreatedNode} {w w₁ w' : World}
      (haction : ∀ id, c.action ≠ .useExisting id) (hitem : G.item c = some x)
      (hparse : G.parse x text = .ok props)
      (hstored : Stored env (props.request G.label) w id w₁)
      (rest : Aligned verified asked w₁ nodes w') :
      Aligned (c :: verified) (⟨.generate (G.prompt x), .ok text⟩ :: asked) w
        (.new props.name id G.label :: nodes) w'

abbrev Create := List CreatedNode × List NodeProperties → VerifiedConcept →
  Step (List CreatedNode × List NodeProperties)

def Handles (create : Create) (c : VerifiedConcept) : Prop :=
  (∃ id, c.action = .useExisting id ∧ G.item c = none ∧
    ∀ acc, create acc c = .done (acc.1 ++ [.reused c.name id G.label], acc.2)) ∨
  ((∀ id, c.action ≠ .useExisting id) ∧ ∃ x, G.item c = some x ∧
    ∀ nodes props rest, create (nodes, props :: rest) c = createdNext codec G.label nodes props rest)

variable {G env codec}

theorem Aligned.forall₂ {verified : List VerifiedConcept}
    {asked : List (Call (services SseEvent Prompt))} {nodes : List CreatedNode} {w w' : World}
    (h : G.Aligned env verified asked w nodes w') :
    List.Forall₂ (fun c node => node.wasReused = true ↔ ∃ id, c.action = .useExisting id)
      verified nodes := by
  induction h with
  | nil => exact .nil
  | reused haction rest ih => exact .cons (iff_of_true rfl ⟨_, haction⟩) ih
  | made haction hitem hparse hstored rest ih =>
      exact .cons (iff_of_false Bool.false_ne_true fun ⟨id, hid⟩ => haction id hid) ih

theorem aligned_foldlM {create : Create} (hmissing : ∃ rest, G.missing = "Missing" ++ rest)
    {verified : List VerifiedConcept} (hcreate : ∀ c ∈ verified, G.Handles codec create c)
    {deliveries : List (Delivered α NodeProperties)} {properties : List NodeProperties}
    (hitems : deliveries.map (·.item) = verified.filterMap G.item)
    (hfollows : ∀ d ∈ deliveries, (G.ask d.item).Follows d.calls (.ofExcept d.result))
    (hok : List.Forall₂ (fun result value => result = .ok value) (deliveries.map (·.result))
      properties) (nodes : List CreatedNode) (w : World) :
    (env.exec (verified.foldlM create (nodes, properties)) w).exit ≠ .err G.missing ∧
      ∀ out, (env.exec (verified.foldlM create (nodes, properties)) w).exit = .ok out →
        ∃ made, out.1 = nodes ++ made ∧
          G.Aligned env verified (deliveries.flatMap (·.calls)) w made
            (env.exec (verified.foldlM create (nodes, properties)) w).state := by
  induction verified generalizing deliveries properties nodes w with
  | nil =>
      obtain rfl := List.map_eq_nil_iff.1 hitems
      constructor
      · intro h
        cases h
      · intro out h
        obtain rfl := Exit.ok.inj h
        exact ⟨[], (List.append_nil _).symm, .nil w⟩
  | cons c verified ih =>
      have hrest : ∀ c ∈ verified, G.Handles codec create c :=
        fun c hc => hcreate c (List.mem_cons_of_mem _ hc)
      rw [List.foldlM_cons]
      rcases hcreate c List.mem_cons_self with ⟨id, haction, hitem, hstep⟩ |
        ⟨haction, x, hitem, hstep⟩
      · rw [hstep, Proc.done_bind]
        rw [List.filterMap_cons_none hitem] at hitems
        obtain ⟨hne, hall⟩ := ih hrest hitems hfollows hok
          (nodes ++ [.reused c.name id G.label]) w
        refine ⟨hne, fun out hout => ?_⟩
        obtain ⟨made, hmade, haligned⟩ := hall out hout
        refine ⟨.reused c.name id G.label :: made, ?_, .reused haction haligned⟩
        rw [hmade, List.append_assoc, List.singleton_append]
      · rw [List.filterMap_cons_some hitem] at hitems
        cases deliveries with
        | nil => cases hitems
        | cons d deliveries =>
            obtain ⟨hx, hitems⟩ : d.item = x ∧ _ := List.cons.inj hitems
            rw [List.map_cons] at hok
            cases hok with
            | @cons _ props _ rest hresult hok =>
                replace hresult : d.result = .ok props := hresult
                have hd := hfollows d List.mem_cons_self
                rw [hresult, hx] at hd
                obtain ⟨text, hcalls, hparse⟩ := follows_ask hd
                rw [hstep, exec_bind]
                rcases exec_createdNext env codec G.label nodes props rest w with
                  ⟨id, hexit, hstored⟩ | ⟨error, hexit⟩ | hexit
                · obtain ⟨hne, hall⟩ := ih hrest hitems
                    (fun d hd => hfollows d (List.mem_cons_of_mem _ hd)) hok
                    (nodes ++ [.new props.name id G.label])
                    (env.exec (createdNext codec G.label nodes props rest) w).state
                  rw [Execution.exit_andThen hexit, Execution.state_andThen hexit]
                  refine ⟨hne, fun out hout => ?_⟩
                  obtain ⟨made, hmade, haligned⟩ := hall out hout
                  refine ⟨.new props.name id G.label :: made, ?_, ?_⟩
                  · rw [hmade, List.append_assoc, List.singleton_append]
                  · rw [List.flatMap_cons, hcalls]
                    exact .made haction hitem hparse hstored haligned
                · obtain ⟨rest', hrest'⟩ := hmissing
                  rw [Execution.exit_andThen_err hexit, hrest']
                  constructor
                  · exact fun h => toString_ne_missing error rest' (Exit.err.inj h)
                  · exact fun out h => by cases h
                · rw [Execution.andThen, hexit]
                  constructor
                  · exact fun h => by cases h
                  · exact fun out h => by cases h

/-- Pass 5 comes to properties for these concepts, with its questions in flight as the batch size
allows, and pass 6 then walks the concepts with them. -/
def PassesAligned (G : Generation α) (env : Env)
    (pass6 : List NodeProperties → Step (List CreatedNode)) (verified : List VerifiedConcept) :
    Prop :=
  ∀ (w w' : World) (deliveries : List (Delivered α NodeProperties))
    (properties : List NodeProperties),
    Buffer.Delivers env.handler G.ask BATCH_SIZE (verified.filterMap G.item) w deliveries w' →
    collect (deliveries.map (·.result)) = .ok properties →
    (env.exec (pass6 properties) w').exit ≠ .err G.missing ∧
      ∀ created, (env.exec (pass6 properties) w').exit = .ok created →
        List.Forall₂ (fun c node => node.wasReused = true ↔ ∃ id, c.action = .useExisting id)
          verified created ∧
        G.Aligned env verified (deliveries.flatMap (·.calls)) w' created
          (env.exec (pass6 properties) w').state

theorem passesAligned {create : Create} {verified : List VerifiedConcept}
    (hmissing : ∃ rest, G.missing = "Missing" ++ rest)
    (hcreate : ∀ c ∈ verified, G.Handles codec create c) :
    G.PassesAligned env (fun properties => do
      let (created, _) ← verified.foldlM create ([], properties)
      return created) verified := by
  intro w w' deliveries properties hdelivers hcollect
  obtain ⟨hne, hall⟩ := aligned_foldlM hmissing hcreate hdelivers.items_eq hdelivers.follows
    (collect_eq_ok.1 hcollect) [] w'
  rw [exec_bind]
  constructor
  · intro herr
    cases hexit : (env.exec (verified.foldlM create ([], properties)) w').exit with
    | ok out =>
        rw [Execution.exit_andThen hexit] at herr
        cases herr
    | err e =>
        rw [Execution.exit_andThen_err hexit] at herr
        exact hne (hexit.trans (congrArg Exit.err (Exit.err.inj herr)))
    | panicked =>
        rw [Execution.andThen, hexit] at herr
        cases herr
  · intro created hok
    obtain ⟨out, hout, hcreated⟩ := Execution.exit_andThen_eq_ok hok
    obtain rfl := Exit.ok.inj hcreated
    obtain ⟨made, hmade, haligned⟩ := hall out hout
    rw [Execution.state_andThen hout]
    rw [List.nil_append] at hmade
    have haligned' : G.Aligned env verified (deliveries.flatMap (·.calls)) w' out.1
        (env.exec (verified.foldlM create ([], properties)) w').state := by rwa [hmade]
    exact ⟨haligned'.forall₂, haligned'⟩

end Generation

namespace GeneratorKind

variable (kind : GeneratorKind) (codec : Codec) (context : AgentContext)

def generation : Generation (String × Option String) where
  label := kind.label
  missing := kind.missingProperties
  item := conceptToGenerate
  prompt := fun concept => kind.propertiesPrompt context.domainName concept.1 concept.2
  parse := fun concept response => kind.parseKindProperties codec response concept.1

theorem handles (c : VerifiedConcept) :
    (kind.generation codec context).Handles codec (kind.createConceptNode codec) c := by
  obtain ⟨name, action⟩ := c
  cases action with
  | useExisting id => exact .inl ⟨id, rfl, rfl, fun acc => rfl⟩
  | createNew =>
      right
      exact ⟨fun id => ConceptAction.noConfusion, _, rfl, fun nodes props rest => rfl⟩
  | createAndGeneralize id target needed =>
      right
      exact ⟨fun id => ConceptAction.noConfusion, _, rfl, fun nodes props rest => rfl⟩

variable {kind} in
theorem passesAligned (h : kind = knowledgeKind ∨ kind = skillKind) (env : Env)
    (verified : List VerifiedConcept) : (kind.generation codec context).PassesAligned env
      (kind.pass6CreateNodes codec verified) verified := by
  have hmissing : ∃ rest, kind.missingProperties = "Missing" ++ rest := by
    rcases h with rfl | rfl
    · exact ⟨" properties for concept", rfl⟩
    · exact ⟨" properties", rfl⟩
  exact Generation.passesAligned hmissing fun c _ => kind.handles codec context c

end GeneratorKind

namespace TraitGeneratorStep

variable (codec : Codec) (context : AgentContext)

def generation : Generation String where
  label := "Trait"
  missing := "Missing properties"
  item := conceptToGenerate
  prompt := .traitProperties
  parse := fun conceptName response => parseTraitProperties codec response conceptName

theorem pass4_eq (verified : List VerifiedConcept) :
    pass4GenerateProperties codec verified =
      batch (generation codec).ask (verified.filterMap conceptToGenerate) := rfl

/-- The decision about a trait is to create it or to reuse a node. -/
def Simple (c : VerifiedConcept) : Prop :=
  ∀ id name needed, c.action ≠ .createAndGeneralize id name needed

theorem handles {c : VerifiedConcept} (h : Simple c) :
    (generation codec).Handles codec (createConceptNode codec) c := by
  obtain ⟨name, action⟩ := c
  cases action with
  | useExisting id => exact .inl ⟨id, rfl, rfl, fun acc => rfl⟩
  | createNew =>
      right
      exact ⟨fun id => ConceptAction.noConfusion, _, rfl, fun nodes props rest => rfl⟩
  | createAndGeneralize id target needed => exact absurd rfl (h id target needed)

variable {codec} in
theorem simple_parseTraitVerification {response concept : String} {top : SimilarNodeResult}
    {similarNodes : List SimilarNodeResult} {c : VerifiedConcept}
    (h : parseTraitVerification codec response concept top similarNodes = .ok c) : Simple c := by
  obtain ⟨parsed, -, hread⟩ := (Exit.bind_eq_ok _ _ _).1 h
  obtain ⟨decision, -, hread⟩ := (Exit.bind_eq_ok _ _ _).1 hread
  intro id name needed haction
  split at hread
  · split at hread
    · obtain rfl := Exit.ok.inj hread
      cases haction
    · obtain rfl := Exit.ok.inj hread
      cases haction
  · obtain rfl := Exit.ok.inj hread
    cases haction

theorem triple_verifyMatch (env : Env) (found : String × List SimilarNodeResult) :
    Triple (Env.handler env) (fun _ => True) (verifyMatch codec context found)
      (fun c _ => Simple c) (fun _ _ => True) := by
  obtain ⟨concept, similarNodes⟩ := found
  have hnew : Simple (.createNew concept) := fun id name needed => ConceptAction.noConfusion
  have hreuse : ∀ id, Simple (.useExisting concept id) :=
    fun _ id name needed => ConceptAction.noConfusion
  apply (Triple.true _).bind
  intro _
  cases similarNodes with
  | nil => exact Triple.done fun _ _ => hnew
  | cons top rest =>
      simp only []
      split
      · exact Triple.done fun _ _ => hnew
      · split
        · exact Triple.done fun _ _ => hreuse top.id
        · constructor
          · intro w c _ hc
            obtain ⟨reply, -, hparse⟩ := ((exec_ask env _ _ w).2 c).1 hc
            exact simple_parseTraitVerification hparse
          · exact fun _ _ _ _ => trivial

theorem simple_pass3 {env : Env} {results : List (String × List SimilarNodeResult)}
    {verified : List VerifiedConcept} {w : World}
    (h : (env.exec (pass3VerifyMatches codec context results) w).exit = .ok verified) :
    ∀ c ∈ verified, Simple c := by
  have hloop : Triple (Env.handler env) (fun _ => True) (pass3VerifyMatches codec context results)
      (fun verified _ => ∀ c ∈ verified, Simple c) (fun _ _ => True) := by
    apply (Triple.mapM (fun verified _ _ => ∀ c ∈ verified, Simple c) ?_ results []).weaken
    · exact fun _ _ c hc => absurd hc List.not_mem_nil
    · intro verified found rest
      apply Triple.of_pre (fun _ h => h)
      intro hverified
      apply (triple_verifyMatch codec context env found).conseq (fun _ _ => trivial)
      · intro c _ hc c' hc'
        rcases List.mem_append.1 hc' with hc' | hc'
        · exact hverified c' hc'
        · rwa [List.mem_singleton.1 hc']
      · exact fun _ _ h => h
  exact hloop.value w verified trivial h

end TraitGeneratorStep

/-- The passes that generate properties and create nodes stay aligned, for any concepts in the
knowledge and the skill generator and for any that pass 3 comes to in the trait generator. -/
theorem passes_aligned (env : Env) (codec : Codec) (context : AgentContext) :
    (∀ kind : GeneratorKind, kind = knowledgeKind ∨ kind = skillKind →
      ∀ verified : List VerifiedConcept, (kind.generation codec context).PassesAligned env
        (kind.pass6CreateNodes codec verified) verified) ∧
    ∀ (results : List (String × List SimilarNodeResult)) (verified : List VerifiedConcept)
      (w : World),
      (env.exec (TraitGeneratorStep.pass3VerifyMatches codec context results) w).exit =
        .ok verified →
      (TraitGeneratorStep.generation codec).PassesAligned env
        (TraitGeneratorStep.pass5CreateNodes codec verified) verified := by
  constructor
  · intro kind hkind verified
    exact GeneratorKind.passesAligned codec context hkind env verified
  · intro results verified w h
    have hsimple := TraitGeneratorStep.simple_pass3 codec context h
    exact Generation.passesAligned ⟨" properties", rfl⟩ fun c hc =>
      TraitGeneratorStep.handles codec (hsimple c hc)

section Branches

open GeneratorKind

def branchConcepts : List VerifiedConcept :=
  [.useExisting "Version control" "4:7", .createNew "Branches"]

def branchProperties (keys : List String) : NodeProperties := ⟨"Branches", keys.map fun key => (key, "")⟩

def branchGeneration : Generation (String × Option String) :=
  knowledgeKind.generation (reuseCodec "Git") webContext

theorem branches_generated :
    (replying.exec ((branchConcepts.filterMap branchGeneration.item).mapM
      fun x => (branchGeneration.ask x).attempt : Step _) (World.start emptyGraph)).exit =
      .ok [.ok (branchProperties knowledgeKind.keys)] := by
  decide +kernel

theorem passes_aligned_branches :
    (∃ deliveries w' created asked,
      Buffer.Delivers replying.handler branchGeneration.ask BATCH_SIZE
        (branchConcepts.filterMap branchGeneration.item) (World.start emptyGraph) deliveries w' ∧
      created = [.reused "Version control" "4:7" "Knowledge",
        .new "Branches" (candidateId 0) "Knowledge"] ∧
      branchGeneration.Aligned replying branchConcepts asked w' created
        (replying.exec (knowledgeKind.pass6CreateNodes (reuseCodec "Git") branchConcepts
          [branchProperties knowledgeKind.keys]) w').state) ∧
    (TraitGeneratorStep.generation (reuseCodec "Git")).PassesAligned replying
      (TraitGeneratorStep.pass5CreateNodes (reuseCodec "Git") [.createNew "Patience"])
      [.createNew "Patience"] := by
  constructor
  · obtain ⟨deliveries, hresults, hdelivers⟩ :=
      Buffer.delivers_of_run (Nat.zero_lt_one) branches_generated
    obtain ⟨-, haligned⟩ := (passes_aligned replying (reuseCodec "Git") webContext).1 knowledgeKind
      (.inl rfl) branchConcepts _ _ deliveries _ hdelivers (by rw [hresults]; rfl)
    exact ⟨deliveries, _, _, _, hdelivers, rfl, (haligned _ (by decide +kernel)).2⟩
  · exact (passes_aligned replying (reuseCodec "Git") webContext).2 [("Patience", [])]
      [.createNew "Patience"] (World.start emptyGraph) (by decide +kernel)

end Branches

end AtlasOfUs.Agent
