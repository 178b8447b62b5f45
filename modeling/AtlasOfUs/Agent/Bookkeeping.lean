import AtlasOfUs.Agent.Books

namespace AtlasOfUs.Agent

open Library Similarity GraphApi

/-- A link has just been confirmed and is not in the registry yet. -/
structure Linked (agent : AgentType) (r₀ r : DomainGraphRegistry) (s : Recorded) : Prop where
  mirrors : Mirrors r (sent s.2)
  others : KeepsOthers agent r₀ r
  confirmed : ∃ call ∈ s.2, Confirms call

structure Links (agent : AgentType) (r r' : DomainGraphRegistry) : Prop where
  nodes : ∀ other, r'.nodesBy other = r.nodesBy other
  others : KeepsOthers agent r r'
  linked : ¬ Unlinked r'

section Linking

variable {env : Env} {agent : AgentType} {r₀ r r' : DomainGraphRegistry} {s s₀ : Recorded}

theorem Linked.record (h : Linked agent r₀ r s) (hlinks : Links agent r r') :
    Books agent r₀ r' s where
  mirrors other := by rw [hlinks.nodes other, h.mirrors other]
  others := h.others.trans hlinks.others
  links := by
    obtain ⟨call, hcall, hconfirms⟩ := h.confirmed
    exact iff_of_false hlinks.linked fun hnone => hnone call hcall hconfirms

theorem sent_executed {q : Statement} {reply : Except String RowStream}
    (h : s.2 = s₀.2 ++ [⟨.execute q, reply⟩]) : sent s.2 = sent s₀.2 := by
  rw [h]
  exact s₀.sent_unsent (o := .execute q) (by simp) reply

theorem Books.unconfirmed (h : Books agent r₀ r s₀) {q : Statement}
    {reply : Except String RowStream} (hs : s.2 = s₀.2 ++ [⟨.execute q, reply⟩])
    (hreply : ∀ rs, reply = .ok rs → rs.firstRow = none) : Books agent r₀ r s where
  mirrors := sent_executed hs ▸ h.mirrors
  others := h.others
  links := by
    have hnot : ¬ Confirms ⟨.execute q, reply⟩ := by
      rintro ⟨-, rs, row, hok, hrow⟩
      rw [hreply rs hok] at hrow
      cases hrow
    rw [h.links, hs]
    simp [hnot, or_imp, forall_and]

theorem Books.confirmed (h : Books agent r₀ r s₀) {q : Statement} (hq : Linking q)
    {rs : RowStream} {row : Row} (hrow : rs.firstRow = some row)
    (hs : s.2 = s₀.2 ++ [⟨.execute q, .ok rs⟩]) : Linked agent r₀ r s where
  mirrors := sent_executed hs ▸ h.mirrors
  others := h.others
  confirmed := ⟨⟨.execute q, .ok rs⟩, by rw [hs]; exact List.mem_append_right _ (List.mem_singleton.2 rfl),
    hq, rs, row, rfl, hrow⟩

theorem books_createRelationship {request : CreateRelationshipRequest}
    (hlink : request.relationshipType ≠ "HAS_DOMAIN_LEVEL") :
    Triple (recorder env) (Books agent r₀ r)
      (createRelationship request : Service SseEvent Prompt ServiceError CreateRelationshipResult)
      (fun _ => Linked agent r₀ r) (fun _ => Books agent r₀ r) := by
  refine Triple.bind (Q := fun reply s => ∃ s₀, Books agent r₀ r s₀ ∧
    s.2 = s₀.2 ++ [⟨.execute request.statement, reply⟩])
    (Triple.perform fun s hs => ⟨s, hs, rfl⟩) fun reply => ?_
  cases reply with
  | error e =>
      refine Triple.fail fun s hs => ?_
      obtain ⟨s₀, hbooks, hs⟩ := hs
      exact hbooks.unconfirmed hs (by simp)
  | ok rs =>
      cases hrow : rs.firstRow with
      | none =>
          simp only [hrow]
          refine Triple.fail fun s hs => ?_
          obtain ⟨s₀, hbooks, hs⟩ := hs
          exact hbooks.unconfirmed hs (by simpa using hrow)
      | some row =>
          simp only [hrow]
          refine Triple.done fun s hs => ?_
          obtain ⟨s₀, hbooks, hs⟩ := hs
          exact hbooks.confirmed ⟨request, rfl, hlink⟩ hrow hs

end Linking

theorem links_generalization (agent : AgentType) (context : AgentContext)
    (link : GeneralizationLink) :
    Links agent context.domainGraph (context.addGeneralization link).domainGraph where
  nodes := fun other => by cases other <;> rfl
  others := fun other _ => by cases other <;> rfl
  linked := by simp [Unlinked, AgentContext.addGeneralization]

theorem links_requirement (context : AgentContext) (req : LevelRequirement) :
    Links .levelDistributor context.domainGraph (context.addLevelRequirement req).domainGraph where
  nodes := fun other => by cases other <;> rfl
  others := fun other hne => by cases other <;> first | rfl | exact absurd rfl hne
  linked := by simp [Unlinked, AgentContext.addLevelRequirement]

theorem links_prerequisite (context : AgentContext) (link : PrerequisiteLink) :
    Links .prerequisiteMapper context.domainGraph (context.addPrerequisite link).domainGraph where
  nodes := fun other => by cases other <;> rfl
  others := fun other hne => by cases other <;> first | rfl | exact absurd rfl hne
  linked := by simp [Unlinked, AgentContext.addPrerequisite]

theorem labelled_snoc {label : String} {nodes : List CreatedNode} {m : CreatedNode}
    (hnodes : ∀ n ∈ nodes, n.label = label) (hm : m.label = label) :
    ∀ n ∈ nodes ++ [m], n.label = label := by
  intro n hn
  rcases List.mem_append.1 hn with hn | hn
  · exact hnodes n hn
  · rwa [List.mem_singleton.1 hn]

namespace GeneratorKind

variable {env : Env} {kind : GeneratorKind} {r₀ : DomainGraphRegistry} (codec : Codec)

def Filing (kind : GeneratorKind) : Prop :=
  ∀ context n, Files kind.agent n context.domainGraph (kind.addNode context n).domainGraph

section Labels

variable {σ : Type} {h : Handler (services SseEvent Prompt) σ}

theorem labelled_pass4 (verified : List VerifiedConcept) :
    Triple h (fun _ => True) (kind.pass4CreateMissingTargets codec verified)
      (fun r _ => ∀ n ∈ r.2, n.label = kind.label) (fun _ _ => True) := by
  let Inv := fun (acc : List VerifiedConcept × List CreatedNode)
    (_ : List (Nat × String × NodeProperties)) (_ : σ) => ∀ n ∈ acc.2, n.label = kind.label
  refine (Triple.true _).bind fun properties => ?_
  refine (Triple.foldlM Inv (fun acc target rest => ?_) properties (verified, [])).weaken
    fun _ _ n hn => absurd hn List.not_mem_nil
  refine Triple.of_pre (fun _ hacc => hacc) fun hacc => ?_
  exact (Triple.true _).bind fun result => Triple.done fun _ _ => labelled_snoc hacc rfl

theorem labelled_pass6 (verified : List VerifiedConcept) (properties : List NodeProperties) :
    Triple h (fun _ => True) (kind.pass6CreateNodes codec verified properties)
      (fun created _ => ∀ n ∈ created, n.label = kind.label) (fun _ _ => True) := by
  let Inv := fun (acc : List CreatedNode × List NodeProperties) (_ : List VerifiedConcept)
    (_ : σ) => ∀ n ∈ acc.1, n.label = kind.label
  refine Triple.bind (Q := fun acc _ => ∀ n ∈ acc.1, n.label = kind.label) ?_
    fun acc => Triple.done fun _ hacc => hacc
  refine (Triple.foldlM Inv (fun acc concept rest => ?_) verified ([], properties)).weaken
    fun _ _ n hn => absurd hn List.not_mem_nil
  refine Triple.of_pre (fun _ hacc => hacc) fun hacc => ?_
  unfold createConceptNode
  split
  · exact Triple.done fun _ _ => labelled_snoc hacc rfl
  · split
    · exact Triple.fail fun _ _ => trivial
    · exact (Triple.true _).bind fun result => Triple.done fun _ _ => labelled_snoc hacc rfl

end Labels

theorem books_linkGeneralization (created : List CreatedNode) (context : AgentContext)
    (concept : VerifiedConcept) :
    Triple (recorder env) (Books kind.agent r₀ context.domainGraph)
      (kind.linkGeneralization created context concept)
      (fun context' => Books kind.agent r₀ context'.domainGraph) (BooksOf kind.agent r₀) := by
  unfold linkGeneralization
  split
  · split
    · exact Triple.fail fun _ hs => hs
    · have htype : "GENERALIZES_TO" ≠ "HAS_DOMAIN_LEVEL" := by decide
      apply Triple.attempt_bind (books_createRelationship htype)
      · exact fun _ => Triple.done fun _ hs => hs.record (links_generalization _ _ _)
      · exact fun _ => Triple.done fun _ hs => hs
  · exact Triple.done fun _ hs => hs

theorem books_createTargets (hk : kind.Filing) (context : AgentContext)
    (verified : List VerifiedConcept) :
    Triple (recorder env) (Books kind.agent r₀ context.domainGraph)
      (kind.createTargets codec context verified)
      (fun result => Books kind.agent r₀ result.1.domainGraph) (BooksOf kind.agent r₀) := by
  unfold createTargets
  simp only
  split
  · refine record_send_bind (books_send rfl) ?_
    refine (books_failingIn_knowing (emits_pass4 codec (not_linking_createNode _) verified)
      (labelled_pass4 codec verified)).bind fun targets => ?_
    refine Triple.of_pre (fun _ hs => hs.2) fun hlabels => ?_
    refine ((books_announceAll (fun _ _ => rfl) hk hlabels).weaken fun _ hs => hs.1).bind
      fun context' => ?_
    exact Triple.done fun _ hs => hs
  · exact Triple.done fun _ hs => hs

theorem Filing.books_execute (hk : kind.Filing) (context : AgentContext) :
    Triple (recorder env) (Books kind.agent r₀ context.domainGraph) (kind.execute codec context)
      (fun context' => Books kind.agent r₀ context'.domainGraph) (BooksOf kind.agent r₀) := by
  refine record_send_bind (books_send rfl) ?_
  refine (books_failingIn (emits_pass1 codec context)).bind fun concepts => ?_
  refine record_send_bind (books_send rfl) (record_send_bind (books_send rfl) ?_)
  refine (books_failingIn (emits_pass2 concepts)).bind fun results => ?_
  refine record_send_bind (books_send rfl) ?_
  refine (books_failingIn (emits_pass3 codec (fun _ he => he) context results)).bind
    fun verified => ?_
  refine (books_createTargets codec hk context verified).bind fun targets => ?_
  refine record_send_bind (books_send rfl) ?_
  refine (books_failingIn (emits_pass5 codec targets.1 targets.2)).bind fun properties => ?_
  refine record_send_bind (books_send rfl) ?_
  refine (books_failingIn_knowing (emits_pass6 codec (not_linking_createNode _) targets.2 properties)
    (labelled_pass6 codec targets.2 properties)).bind fun created => ?_
  refine Triple.of_pre (fun _ hs => hs.2) fun hlabels => ?_
  refine ((Triple.foldlM (fun context _ => Books kind.agent r₀ context.domainGraph)
    (fun context concept _ => books_linkGeneralization created context concept)
    targets.2 targets.1).weaken fun _ hs => hs.1).bind fun context' => ?_
  exact books_announceAll (fun _ _ => rfl) hk hlabels

end GeneratorKind

section Steps

variable {env : Env} {r₀ : DomainGraphRegistry} (codec : Codec)

namespace TraitGeneratorStep

theorem labelled_pass5 {σ : Type} {h : Handler (services SseEvent Prompt) σ}
    (verified : List VerifiedConcept) (properties : List NodeProperties) :
    Triple h (fun _ => True) (pass5CreateNodes codec verified properties)
      (fun created _ => ∀ n ∈ created, n.label = "Trait") (fun _ _ => True) := by
  let Inv := fun (acc : List CreatedNode × List NodeProperties) (_ : List VerifiedConcept)
    (_ : σ) => ∀ n ∈ acc.1, n.label = "Trait"
  refine Triple.bind (Q := fun acc _ => ∀ n ∈ acc.1, n.label = "Trait") ?_
    fun acc => Triple.done fun _ hacc => hacc
  refine (Triple.foldlM Inv (fun acc concept rest => ?_) verified ([], properties)).weaken
    fun _ _ n hn => absurd hn List.not_mem_nil
  refine Triple.of_pre (fun _ hacc => hacc) fun hacc => ?_
  unfold createConceptNode
  split
  · exact Triple.done fun _ _ => labelled_snoc hacc rfl
  · split
    · exact Triple.fail fun _ _ => trivial
    · exact (Triple.true _).bind fun result => Triple.done fun _ _ => labelled_snoc hacc rfl
  · exact Triple.done fun _ _ => hacc

theorem books_execute (context : AgentContext) :
    Triple (recorder env) (Books .traitGenerator r₀ context.domainGraph) (execute codec context)
      (fun context' => Books .traitGenerator r₀ context'.domainGraph)
      (BooksOf .traitGenerator r₀) := by
  refine record_send_bind (books_send rfl) ?_
  refine (books_failingIn (emits_ask _ _)).bind fun concepts => ?_
  refine record_send_bind (books_send rfl) ?_
  refine (books_failingIn (emits_pass2 concepts)).bind fun results => ?_
  refine (books_failingIn (emits_pass3 codec (fun _ he => he) context results)).bind
    fun verified => ?_
  refine (books_failingIn (emits_batch fun _ => emits_ask _ _)).bind fun properties => ?_
  refine (books_failingIn_knowing (emits_pass5 codec (not_linking_createNode _) verified properties)
    (labelled_pass5 codec verified properties)).bind fun created => ?_
  refine Triple.of_pre (fun _ hs => hs.2) fun hlabels => ?_
  exact (books_announceAll (fun _ _ => rfl) files_trait hlabels).weaken fun _ hs => hs.1

end TraitGeneratorStep

namespace MilestoneGeneratorStep

theorem labelled_createNodes {σ : Type} {h : Handler (services SseEvent Prompt) σ}
    (properties : List NodeProperties) :
    Triple h (fun _ => True) (createNodes codec properties)
      (fun created _ => ∀ n ∈ created, n.label = "Milestone") (fun _ _ => True) := by
  let Inv := fun (created : List CreatedNode) (_ : List NodeProperties) (_ : σ) =>
    ∀ n ∈ created, n.label = "Milestone"
  refine (Triple.mapM Inv (fun created props rest => ?_) properties []).weaken
    fun _ _ n hn => absurd hn List.not_mem_nil
  refine Triple.of_pre (fun _ hcreated => hcreated) fun hcreated => ?_
  exact (Triple.true _).bind fun result => Triple.done fun _ _ => labelled_snoc hcreated rfl

theorem books_execute (context : AgentContext) :
    Triple (recorder env) (Books .milestoneGenerator r₀ context.domainGraph) (execute codec context)
      (fun context' => Books .milestoneGenerator r₀ context'.domainGraph)
      (BooksOf .milestoneGenerator r₀) := by
  refine record_send_bind (books_send rfl) ?_
  refine (books_failingIn (emits_ask _ _)).bind fun concepts => ?_
  refine record_send_bind (books_send rfl) ?_
  refine (books_failingIn (emits_batch fun _ => emits_ask _ _)).bind fun properties => ?_
  refine (books_failingIn_knowing (emits_createNodes codec (not_linking_createNode _) properties)
    (labelled_createNodes codec properties)).bind fun created => ?_
  refine Triple.of_pre (fun _ hs => hs.2) fun hlabels => ?_
  exact (books_announceAll (fun _ _ => rfl) files_milestone hlabels).weaken fun _ hs => hs.1

end MilestoneGeneratorStep

theorem requiresType_ne_level {componentType relType : String}
    (h : requiresType componentType = some relType) : relType ≠ "HAS_DOMAIN_LEVEL" := by
  unfold requiresType at h
  split_ifs at h <;> obtain rfl := Option.some.inj h <;> decide

theorem triple_ask {σ α : Type} {h : Handler (services SseEvent Prompt) σ} {prompt : Prompt}
    {parse : String → Parsed α} {φ : α → Prop} (hφ : ∀ text a, parse text = .ok a → φ a) :
    Triple h (fun _ => True) (ask prompt parse) (fun a _ => φ a) (fun _ _ => True) := by
  refine (Triple.true (P := fun _ => True) _).bind fun reply => ?_
  cases reply with
  | error e => exact Triple.fail fun _ _ => trivial
  | ok text => exact Triple.ofExit (fun a _ ha _ => hφ text a ha) (fun _ _ _ _ => trivial)

namespace LevelDistributorStep

theorem emits_analyze {statement : Statement → Prop} {event : SseEvent → Prop}
    (hevent : ∀ e, e.announces = false → event e) (context : AgentContext) :
    Emits statement event (analyzeLevelAssignments codec context) :=
  (Calls.mapM _ fun _ _ => Emits.send_bind (hevent _ rfl) (emits_ask _ _)).bind fun _ => trivial

theorem books_createLevelRelationship (acc : Nat × AgentContext) (assignment : LevelAssignment) :
    Triple (recorder env) (Books .levelDistributor r₀ acc.2.domainGraph)
      (createLevelRelationship acc assignment)
      (fun acc' => Books .levelDistributor r₀ acc'.2.domainGraph) (fun _ _ => False) := by
  unfold createLevelRelationship
  split
  · exact Triple.done fun _ hs => hs
  · next relType htype =>
      apply Triple.attempt_bind (books_createRelationship (requiresType_ne_level htype))
      · exact fun _ => Triple.done fun _ hs => hs.record (links_requirement _ _)
      · exact fun _ => Triple.done fun _ hs => hs

theorem books_execute (context : AgentContext) :
    Triple (recorder env) (Books .levelDistributor r₀ context.domainGraph) (execute codec context)
      (fun context' => Books .levelDistributor r₀ context'.domainGraph)
      (BooksOf .levelDistributor r₀) := by
  refine (books_failingIn (emits_analyze codec (fun _ he => he) context)).bind fun assignments => ?_
  refine record_send_bind (books_send rfl) (record_send_bind (books_send rfl) ?_)
  refine Triple.bind (Triple.mapErr ((Triple.foldlM
    (fun acc _ => Books .levelDistributor r₀ acc.2.domainGraph)
    (fun acc assignment _ => books_createLevelRelationship acc assignment)
    assignments (0, context)).conseq (fun _ h => h) (fun _ _ h => h) (fun _ _ h => h.elim)))
    fun result => ?_
  exact record_send_bind (books_send rfl) (Triple.done fun _ hs => hs)

end LevelDistributorStep

namespace PrerequisiteMapperStep

theorem emits_analyze {statement : Statement → Prop} {event : SseEvent → Prop}
    (hevent : ∀ e, e.announces = false → event e) (context : AgentContext) :
    Emits statement event (analyzePrerequisites codec context) :=
  (Calls.mapM _ fun _ _ => Emits.send_bind (hevent _ rfl) (emits_ask _ _)).bind fun _ => trivial

theorem readRequirement_type {context : AgentContext} {sourceId : ElementId} {sourceName : String}
    {req : Json} {prereq : PrerequisiteRelationship}
    (h : readRequirement context sourceId sourceName req = some prereq) :
    requiresType ((strField req "type").getD "") = some prereq.relationshipType := by
  simp only [readRequirement, Option.bind_eq_bind, Option.bind_eq_some_iff, Option.pure_def,
    Option.some.injEq] at h
  obtain ⟨targetId, -, relType, htype, rfl⟩ := h
  exact htype

theorem readPrerequisite_ok {context : AgentContext} {sourceType : String} {entry : Json}
    {prereqs : List PrerequisiteRelationship}
    (h : readPrerequisite context sourceType entry = .ok prereqs) :
    ∀ prereq ∈ prereqs, ∃ sourceId sourceName req,
      findElementId context sourceName sourceType = some sourceId ∧
      readRequirement context sourceId sourceName req = some prereq := by
  rw [readPrerequisite, Exit.bind_eq_ok] at h
  obtain ⟨sourceName, -, h⟩ := h
  cases hsource : findElementId context sourceName sourceType with
  | none =>
      rw [hsource] at h
      obtain rfl := Exit.ok.inj h
      exact fun _ hmem => absurd hmem List.not_mem_nil
  | some sourceId =>
      rw [hsource] at h
      obtain rfl := Exit.ok.inj h
      intro prereq hmem
      obtain ⟨req, -, hreq⟩ := List.mem_filterMap.1 hmem
      exact ⟨sourceId, sourceName, req, hsource, hreq⟩

theorem parsePrerequisites_ok {codec : Codec} {response : String} {context : AgentContext}
    {sourceType : String} {prereqs : List PrerequisiteRelationship}
    (h : parsePrerequisites codec response context sourceType = .ok prereqs) :
    ∀ prereq ∈ prereqs, ∃ sourceId sourceName req,
      findElementId context sourceName sourceType = some sourceId ∧
      readRequirement context sourceId sourceName req = some prereq := by
  simp only [parsePrerequisites, Exit.bind_eq_ok] at h
  obtain ⟨parsed, -, entries, -, lists, hlists, h⟩ := h
  obtain rfl := Exit.ok.inj h
  intro prereq hmem
  obtain ⟨list, hlist, hmem⟩ := List.mem_flatten.1 hmem
  obtain ⟨entry, -, hread⟩ := exists_mem_of_forall₂ (Exit.mapM_eq_ok.1 hlists) hlist
  exact readPrerequisite_ok hread prereq hmem

theorem typed_analyzePrerequisites {σ : Type} {h : Handler (services SseEvent Prompt) σ}
    (context : AgentContext) :
    Triple h (fun _ => True) (analyzePrerequisites codec context)
      (fun prereqs _ => ∀ prereq ∈ prereqs, prereq.relationshipType ≠ "HAS_DOMAIN_LEVEL")
      (fun _ _ => True) := by
  let Typed := fun (lists : List (List PrerequisiteRelationship)) =>
    ∀ list ∈ lists, ∀ prereq ∈ list, prereq.relationshipType ≠ "HAS_DOMAIN_LEVEL"
  refine Triple.bind (Q := fun lists _ => Typed lists) ?_ fun lists => Triple.done fun _ hs => ?_
  · refine (Triple.mapM (fun lists _ _ => Typed lists) (fun lists sourceType rest => ?_)
      ["Skill", "Milestone"] []).weaken fun _ _ _ hlist => absurd hlist List.not_mem_nil
    refine Triple.of_pre (fun _ hs => hs) fun htyped => (Triple.true _).bind fun _ => ?_
    refine (triple_ask (fun text prereqs hparse => ?_)).weaken fun _ _ => trivial
    intro list hlist
    rcases List.mem_append.1 hlist with hlist | hlist
    · exact htyped list hlist
    · intro prereq hmem
      rw [List.mem_singleton.1 hlist] at hmem
      obtain ⟨sourceId, sourceName, req, -, hread⟩ := parsePrerequisites_ok hparse prereq hmem
      exact requiresType_ne_level (readRequirement_type hread)
  · intro prereq hmem
    obtain ⟨list, hlist, hmem⟩ := List.mem_flatten.1 hmem
    exact hs list hlist prereq hmem

theorem books_createPrerequisiteRelationship (acc : Nat × AgentContext)
    {prereq : PrerequisiteRelationship} (htype : prereq.relationshipType ≠ "HAS_DOMAIN_LEVEL") :
    Triple (recorder env) (Books .prerequisiteMapper r₀ acc.2.domainGraph)
      (createPrerequisiteRelationship acc prereq)
      (fun acc' => Books .prerequisiteMapper r₀ acc'.2.domainGraph) (fun _ _ => False) := by
  apply Triple.attempt_bind (books_createRelationship htype)
  · exact fun _ => Triple.done fun _ hs => hs.record (links_prerequisite _ _)
  · exact fun _ => Triple.done fun _ hs => hs

theorem books_execute (context : AgentContext) :
    Triple (recorder env) (Books .prerequisiteMapper r₀ context.domainGraph)
      (execute codec context)
      (fun context' => Books .prerequisiteMapper r₀ context'.domainGraph)
      (BooksOf .prerequisiteMapper r₀) := by
  refine (books_failingIn_knowing (emits_analyze codec (fun _ he => he) context)
    (typed_analyzePrerequisites codec context)).bind fun prereqs => ?_
  refine Triple.of_pre (fun _ hs => hs.2) fun htyped => ?_
  refine record_send_bind (fun s hs => books_send rfl s hs.1) (record_send_bind (books_send rfl) ?_)
  let Inv := fun (acc : Nat × AgentContext) (rest : List PrerequisiteRelationship) (s : Recorded) =>
    Books .prerequisiteMapper r₀ acc.2.domainGraph s ∧
      ∀ prereq ∈ rest, prereq.relationshipType ≠ "HAS_DOMAIN_LEVEL"
  refine Triple.bind (Triple.mapErr ((Triple.foldlM (E := fun _ _ => False) Inv
    (fun acc prereq rest => ?_) prereqs (0, context)).conseq (fun _ hs => ⟨hs, htyped⟩)
      (fun _ _ hs => hs.1) (fun _ _ hs => hs.elim))) fun result => ?_
  · refine Triple.of_pre (fun _ hs => hs.2) fun hrest => ?_
    refine (books_createPrerequisiteRelationship acc (hrest prereq List.mem_cons_self)).conseq
      (fun _ hs => hs.1) (fun _ _ hs => ⟨hs, fun p hp => ?_⟩) (fun _ _ hs => hs)
    exact hrest p (List.mem_cons_of_mem _ hp)
  · exact record_send_bind (books_send rfl) (Triple.done fun _ hs => hs)

end PrerequisiteMapperStep

namespace DomainArchitectStep

variable (tables : CharTables)

theorem infallible_queueAvatarGeneration (domainName : String) (elementId : ElementId) :
    (queueAvatarGeneration tables domainName elementId).Infallible := by
  refine (Proc.Infallible.perform _).bind fun configured => ?_
  cases configured with
  | false => trivial
  | true =>
      refine (Proc.Infallible.perform _).bind fun result => ?_
      cases result with
      | ok _ => exact Proc.Infallible.perform _
      | error _ => trivial

theorem books_createLevel (domainId : ElementId) (context : AgentContext) (info : LevelInfo) :
    Triple (recorder env) (Books .domainArchitect r₀ context.domainGraph)
      (createLevel codec domainId context info)
      (fun context' => Books .domainArchitect r₀ context'.domainGraph)
      (BooksOf .domainArchitect r₀) := by
  refine (books_failingIn (emits_storeNode codec (not_linking_createNode _))).bind fun level => ?_
  refine (books_failingIn (Calls.mapErr (emits_createRelationship
    (not_linking_level domainId level.elementId)))).bind fun _ => ?_
  exact record_send_bind (fun s hs => hs.announce (files_level context _) rfl)
    (Triple.done fun _ hs => hs)

theorem books_execute {context : AgentContext}
    (hfresh : context.domainGraph.share .domainArchitect = {}) :
    Triple (recorder env) (Books .domainArchitect r₀ context.domainGraph)
      (execute codec tables context)
      (fun context' => Books .domainArchitect r₀ context'.domainGraph)
      (BooksOf .domainArchitect r₀) := by
  refine record_send_bind (books_send rfl) ?_
  refine (books_failingIn (emits_storeNode codec (not_linking_createNode _))).bind fun domain => ?_
  refine record_send_bind (fun s hs => hs.announce (files_domain hfresh _) rfl) ?_
  refine (Triple.of_infallible (infallible_queueAvatarGeneration tables _ _)
    (books_quiet (emits_queueAvatarGeneration tables (fun _ he => he) _ _))).bind fun _ => ?_
  refine record_send_bind (books_send rfl) ?_
  exact Triple.foldlM (fun context _ => Books .domainArchitect r₀ context.domainGraph)
    (fun context info _ => books_createLevel codec domain.elementId context info) _ _

end DomainArchitectStep

theorem books_executeAgent (tables : DomainArchitectStep.CharTables) {agent : AgentType}
    {context : AgentContext} (hfresh : context.domainGraph.share agent = {}) :
    Triple (recorder env) (Books agent r₀ context.domainGraph)
      (executeAgent codec tables agent context)
      (fun context' => Books agent r₀ context'.domainGraph) (BooksOf agent r₀) := by
  cases agent with
  | domainArchitect => exact DomainArchitectStep.books_execute codec tables hfresh
  | knowledgeGenerator =>
      have hfiling : knowledgeKind.Filing := files_knowledge
      exact hfiling.books_execute codec context
  | skillGenerator =>
      have hfiling : skillKind.Filing := files_skill
      exact hfiling.books_execute codec context
  | traitGenerator => exact TraitGeneratorStep.books_execute codec context
  | milestoneGenerator => exact MilestoneGeneratorStep.books_execute codec context
  | levelDistributor => exact LevelDistributorStep.books_execute codec context
  | prerequisiteMapper => exact PrerequisiteMapperStep.books_execute codec context

end Steps

end AtlasOfUs.Agent
