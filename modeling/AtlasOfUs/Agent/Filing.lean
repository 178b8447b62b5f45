import AtlasOfUs.Agent.Bookkeeping
import AtlasOfUs.Agent.Supplies
import AtlasOfUs.Library.Outstanding

namespace AtlasOfUs.Agent

open Library Similarity GraphApi

def newIds (nodes : List CreatedNode) : List ElementId :=
  (nodes.filter (fun n => !n.wasReused)).map (·.elementId)

def createdId : AgentCall → Option ElementId
  | ⟨.execute q, reply⟩ =>
      match madeLabel q, reply with
      | some _, .ok rs => rs.firstRow.map (fun row => (row.getString "elementId").getD "")
      | _, _ => none
  | _ => none

/-- The run goes on past what it has created: the language model is asked again,
the image queue is looked up for the domain, or a level is linked to its domain. -/
def MovesOn : AgentCall → Prop
  | ⟨.generate _, _⟩ | ⟨.queueConfigured, _⟩ => True
  | ⟨.execute q, reply⟩ =>
      (∃ domainId levelId,
        q = CreateRelationshipRequest.statement ⟨domainId, levelId, "HAS_DOMAIN_LEVEL", none⟩) ∧
      ∃ rs row, reply = Except.ok rs ∧ RowStream.firstRow rs = some row
  | _ => False

section Statements

variable {label : String} {props : Props} {q : Statement}

theorem createdId_unmade (hq : madeLabel q = none) (reply : Except String RowStream) :
    createdId ⟨.execute q, reply⟩ = none := by
  simp [createdId, hq]

theorem createdId_create (o : Outcome) (g : Graph) :
    createdId ⟨.execute (createNodeStatement [label] props),
        o.reply (createNodeStatement [label] props g).1⟩ =
      if o.returnsRow then some g.freshId else none := by
  have hrow := o.firstRow_eq (createNodeStatement [label] props g).1
  rw [Outcome.firstRow] at hrow
  simp only [createdId, madeLabel_createNode]
  cases hreply : o.reply (createNodeStatement [label] props g).1 with
  | error e =>
      rw [hreply] at hrow
      cases hret : o.returnsRow with
      | true => simp [hret, createNodeStatement] at hrow
      | false => rfl
  | ok rs =>
      rw [hreply] at hrow
      simp only at hrow
      change Option.map _ rs.firstRow = _
      rw [hrow]
      cases o.returnsRow <;> rfl

theorem not_movesOn_made (hq : (madeLabel q).isSome) (reply : Except String RowStream) :
    ¬ MovesOn ⟨.execute q, reply⟩ := by
  rintro ⟨⟨domainId, levelId, rfl⟩, -⟩
  rw [madeLabel_merge] at hq
  cases hq

theorem not_movesOn_link {request : CreateRelationshipRequest}
    (hlink : request.relationshipType ≠ "HAS_DOMAIN_LEVEL") (reply : Except String RowStream) :
    ¬ MovesOn ⟨.execute request.statement, reply⟩ := by
  rintro ⟨⟨domainId, levelId, hsame⟩, -⟩
  exact not_linking_level domainId levelId ⟨request, hsame.symm, hlink⟩

end Statements

section Registry

variable {agent : AgentType} {r r' : DomainGraphRegistry} {n : CreatedNode}

theorem newIds_append (ns ms : List CreatedNode) : newIds (ns ++ ms) = newIds ns ++ newIds ms := by
  rw [newIds, List.filter_append, List.map_append]
  rfl

theorem newIds_reused (nodes : List CreatedNode) (name : String) (id : ElementId) (label : String) :
    newIds (nodes ++ [.reused name id label]) = newIds nodes := by
  rw [newIds_append]
  exact List.append_nil _

theorem newIds_perm {ns ms : List CreatedNode} (h : ns.Perm ms) : (newIds ns).Perm (newIds ms) :=
  (h.filter _).map _

theorem allNodes_flatMap (r : DomainGraphRegistry) : r.allNodes = allAgents.flatMap r.nodesBy := by
  simp [allAgents, DomainGraphRegistry.nodesBy, DomainGraphRegistry.share,
    DomainGraphRegistry.allNodes]

theorem Files.perm (h : Files agent n r r') : r'.allNodes.Perm (r.allNodes ++ [n]) := by
  have hothers : ∀ other, other ≠ agent → r'.nodesBy other = r.nodesBy other :=
    fun other hne => congrArg DomainGraphRegistry.allNodes (h.others other hne)
  have hown := h.own
  rw [allNodes_flatMap, allNodes_flatMap, List.perm_iff_count]
  intro m
  simp only [allAgents, List.flatMap_cons, List.flatMap_nil, List.count_append]
  cases agent <;> simp [hown, hothers] <;> omega

theorem Files.perm_newIds (h : Files agent n r r') :
    (newIds r.allNodes ++ newIds [n]).Perm (newIds r'.allNodes) := by
  rw [← newIds_append]
  exact (newIds_perm h.perm).symm

theorem KeepsOthers.allNodes (h : KeepsOthers agent r r')
    (hagent : agent = .levelDistributor ∨ agent = .prerequisiteMapper) :
    r'.allNodes = r.allNodes := by
  rw [allNodes_flatMap, allNodes_flatMap]
  apply List.flatMap_congr
  intro other _
  by_cases hother : other = agent
  · rcases hagent with rfl | rfl
    · rw [hother]
      rfl
    · rw [hother]
      rfl
  · exact congrArg DomainGraphRegistry.allNodes (h other hother)

end Registry

section Rules

variable {env : Env} {r : DomainGraphRegistry} {context : AgentContext}
  {booked pending : List ElementId} {ε α : Type}

/-- What a run has created is in the registry or still to be put there. -/
abbrev Filed (r : DomainGraphRegistry) (pending : List ElementId) : Recorded → Prop :=
  Posted createdId MovesOn (newIds r.allNodes) pending

def PartlyFiled (r : DomainGraphRegistry) (s : Recorded) : Prop := ∃ pending, Filed r pending s

/-- An error leaves a registry that may lack what was still to be put there. -/
abbrev FiledOf (failure : String × AgentContext) : Recorded → Prop :=
  PartlyFiled failure.2.domainGraph

theorem unyielding {p : Service SseEvent Prompt ε α}
    (hp : Emits (fun q => madeLabel q = none) (fun _ => True) p) :
    Calls (I := services SseEvent Prompt) (fun o => ∀ reply, createdId ⟨o, reply⟩ = none) p := by
  apply hp.weaken
  intro o ho reply
  cases o with
  | execute q => exact createdId_unmade ho reply
  | _ => rfl

theorem filed_plain {p : Service SseEvent Prompt ε α}
    (hp : Emits (fun q => madeLabel q = none) (fun _ => True) p) :
    Triple (recorder env) (Filed r []) p (fun _ => Filed r []) (fun _ => PartlyFiled r) :=
  (Triple.posted_plain (unyielding hp)).conseq (fun _ hs => hs) (fun _ _ hs => hs)
    (fun _ _ hs => ⟨[], hs⟩)

theorem posted_note (e : SseEvent) (s : Recorded) (hs : Posted createdId MovesOn booked pending s) :
    Posted createdId MovesOn booked pending (s.note e) :=
  hs.snoc rfl id _

theorem filed_failingIn {p : Step α} {Q : α → Recorded → Prop}
    (hp : Triple (recorder env) (Filed context.domainGraph pending) p Q
      (fun _ => PartlyFiled context.domainGraph)) :
    Triple (recorder env) (Filed context.domainGraph pending) (p.failingIn context) Q FiledOf :=
  Triple.mapErr hp

theorem filed_storeNode {codec : Codec} {request : CreateNodeRequest} {label : String}
    (hlabel : request.labels = [label]) :
    Triple (recorder env) (Filed r pending) (storeNode codec request)
      (fun result => Filed r (pending ++ [result.elementId])) (fun _ => PartlyFiled r) := by
  have hmade : ∀ props, madeLabel (createNodeStatement request.labels props) = some label := by
    rw [hlabel]
    exact madeLabel_createNode label
  apply Triple.mapErr
  apply Triple.bind (Q := fun _ => Filed r pending) (Triple.perform fun s hs => hs.snoc rfl id _)
  intro embedding
  cases embedding with
  | error e => exact Triple.fail fun _ hs => ⟨pending, hs⟩
  | ok embedding =>
      let q := createNodeStatement request.labels
        ((Properties.toProps request.properties).set "embedding" (.list (embedding.map .float)))
      have hq : madeLabel q = some label := hmade _
      have hexecute : Triple (recorder env) (Filed r pending)
          (execute q : Service SseEvent Prompt ServiceError (Except String RowStream))
          (fun reply => Filed r (pending ++ (createdId ⟨.execute q, reply⟩).toList))
          (fun _ => PartlyFiled r) :=
        Triple.posted_perform fun reply => not_movesOn_made (by rw [hq]; rfl) reply
      apply hexecute.bind
      intro reply
      cases reply with
      | error e =>
          apply Triple.fail
          intro s hs
          exact ⟨pending, by simpa [createdId, hq] using hs⟩
      | ok rs =>
          simp only
          cases hrow : rs.firstRow with
          | none =>
              apply Triple.fail
              intro s hs
              exact ⟨pending, by simpa [createdId, hq, hrow] using hs⟩
          | some row =>
              apply Triple.done
              intro s hs
              simpa [createdId, hq, hrow] using hs

theorem posted_link {request : CreateRelationshipRequest}
    (hlink : request.relationshipType ≠ "HAS_DOMAIN_LEVEL") :
    Triple (recorder env) (Posted createdId MovesOn booked pending)
      (createRelationship request : Service SseEvent Prompt ServiceError CreateRelationshipResult)
      (fun _ => Posted createdId MovesOn booked pending)
      (fun _ => Posted createdId MovesOn booked pending) := by
  apply Triple.posted_idle
  apply (Calls.perform fun reply => ⟨createdId_unmade (madeLabel_merge request) reply,
    not_movesOn_link hlink reply⟩).bind
  intro reply
  cases reply with
  | error e => trivial
  | ok rs => cases h : rs.firstRow <;> simp [h, Calls]

/-- The row that links a level lets the run move on, so that nothing need be
outstanding after it. -/
theorem posted_level (domainId levelId : ElementId) :
    Triple (recorder env) (Posted createdId MovesOn booked pending)
      (createRelationship ⟨domainId, levelId, "HAS_DOMAIN_LEVEL", none⟩ :
        Service SseEvent Prompt ServiceError CreateRelationshipResult)
      (fun _ => Tallied createdId (booked ++ pending))
      (fun _ => Posted createdId MovesOn booked pending) := by
  let request : CreateRelationshipRequest := ⟨domainId, levelId, "HAS_DOMAIN_LEVEL", none⟩
  have hnone := createdId_unmade (madeLabel_merge request)
  have hexecute : Triple (recorder env) (Posted createdId MovesOn booked pending)
      (execute request.statement : Service SseEvent Prompt ServiceError (Except String RowStream))
      (fun reply s => Tallied createdId (booked ++ pending) s ∧
        ((∀ rs, reply = .ok rs → rs.firstRow = none) → Posted createdId MovesOn booked pending s))
      (fun _ => Posted createdId MovesOn booked pending) := by
    apply Triple.perform
    intro s hs
    refine ⟨hs.tallied.snoc (hnone _) _, fun hrow => hs.snoc (hnone _) ?_ _⟩
    rintro ⟨-, rs, row, hok, hfirst⟩
    rw [hrow rs hok] at hfirst
    cases hfirst
  apply hexecute.bind
  intro reply
  cases reply with
  | error e => exact Triple.fail fun s hs => hs.2 fun rs hok => by cases hok
  | ok rs =>
      simp only
      cases hrow : rs.firstRow with
      | none =>
          apply Triple.fail
          intro s hs
          apply hs.2
          intro rs' hok
          obtain rfl := Except.ok.inj hok
          exact hrow
      | some row => exact Triple.done fun s hs => hs.1

/-- The announcements take the nodes over into the registry, one after the other. -/
theorem filed_announceAll {agent : AgentType} {label : String}
    {f : AgentContext → CreatedNode → ContextStep AgentContext}
    {add : AgentContext → CreatedNode → AgentContext}
    (hf : ∀ context n, f context n =
      (send (.nodeCreated agent n.name label n.wasReused) >>= fun _ => Proc.done (add context n)))
    (hfiles : ∀ context n, Files agent n context.domainGraph (add context n).domainGraph)
    (nodes : List CreatedNode) :
    Triple (recorder env) (Filed context.domainGraph (newIds nodes)) (nodes.foldlM f context)
      (fun context' => Filed context'.domainGraph []) FiledOf := by
  let Inv := fun (context : AgentContext) (rest : List CreatedNode) =>
    Filed context.domainGraph (newIds rest)
  refine Triple.foldlM Inv (fun context n rest => ?_) nodes context
  have hsplit : newIds (n :: rest) = newIds [n] ++ newIds rest := newIds_append [n] rest
  simp only [Inv]
  rw [hf, hsplit]
  apply record_send_bind (posted_note _)
  apply Triple.done
  intro s hs
  apply hs.regroup
  · rw [← List.append_assoc]
    exact List.Perm.append_right _ (hfiles context n).perm_newIds
  · exact List.append_ne_nil_of_right_ne_nil _

end Rules

section Steps

variable {env : Env} {r : DomainGraphRegistry} {pending : List ElementId} (codec : Codec)

theorem filed_create {α : Type} {label : String} (props : NodeProperties) {ids : List ElementId}
    {f : CreateNodeResult → α} {idsOf : α → List ElementId}
    (hf : ∀ result, idsOf (f result) = ids ++ [result.elementId]) :
    Triple (recorder env) (Filed r ids)
      (do
        let result ← storeNode codec (props.request label)
        return f result : Step α)
      (fun a => Filed r (idsOf a)) (fun _ => PartlyFiled r) := by
  have hstore : Triple (recorder env) (Filed r ids) (storeNode codec (props.request label))
      (fun result => Filed r (ids ++ [result.elementId])) (fun _ => PartlyFiled r) :=
    filed_storeNode rfl
  apply hstore.bind
  intro result
  apply Triple.done
  intro s hs
  rwa [hf]

theorem filed_concepts {f : List CreatedNode × List NodeProperties → VerifiedConcept →
      Step (List CreatedNode × List NodeProperties)}
    (hf : ∀ acc concept, Triple (recorder env) (Filed r (newIds acc.1)) (f acc concept)
      (fun acc' => Filed r (newIds acc'.1)) (fun _ => PartlyFiled r))
    (verified : List VerifiedConcept) (properties : List NodeProperties) :
    Triple (recorder env) (Filed r [])
      (do
        let (created, _) ← verified.foldlM f ([], properties)
        return created : Step (List CreatedNode))
      (fun created => Filed r (newIds created)) (fun _ => PartlyFiled r) := by
  let Inv := fun (acc : List CreatedNode × List NodeProperties) (_ : List VerifiedConcept) =>
    Filed r (newIds acc.1)
  apply Triple.bind (Triple.foldlM Inv (fun acc concept _ => hf acc concept) verified
    ([], properties))
  intro acc
  exact Triple.done fun _ hs => hs

namespace GeneratorKind

variable {kind : GeneratorKind}

theorem filed_pass4 (verified : List VerifiedConcept) :
    Triple (recorder env) (Filed r []) (kind.pass4CreateMissingTargets codec verified)
      (fun result => Filed r (newIds result.2)) (fun _ => PartlyFiled r) := by
  apply (filed_plain (emits_genericProperties codec _)).bind
  intro properties
  let Inv := fun (acc : List VerifiedConcept × List CreatedNode)
    (_ : List (Nat × String × NodeProperties)) => Filed r (newIds acc.2)
  refine Triple.foldlM Inv (fun acc target rest => ?_) properties (verified, [])
  exact filed_create codec target.2.2 fun _ => newIds_append _ _

theorem filed_createConceptNode (acc : List CreatedNode × List NodeProperties)
    (concept : VerifiedConcept) :
    Triple (recorder env) (Filed r (newIds acc.1)) (kind.createConceptNode codec acc concept)
      (fun acc' => Filed r (newIds acc'.1)) (fun _ => PartlyFiled r) := by
  rw [createConceptNode.eq_def]
  split
  · apply Triple.done
    intro s hs
    rwa [newIds_reused]
  · cases acc.2 with
    | nil => exact Triple.fail fun _ hs => ⟨_, hs⟩
    | cons props rest => exact filed_create codec props fun _ => newIds_append _ _

theorem filed_pass6 (verified : List VerifiedConcept) (properties : List NodeProperties) :
    Triple (recorder env) (Filed r []) (kind.pass6CreateNodes codec verified properties)
      (fun created => Filed r (newIds created)) (fun _ => PartlyFiled r) :=
  filed_concepts (filed_createConceptNode codec) verified properties

theorem filed_linkGeneralization (created : List CreatedNode) (context : AgentContext)
    (concept : VerifiedConcept) :
    Triple (recorder env) (Filed context.domainGraph pending)
      (kind.linkGeneralization created context concept)
      (fun context' => Filed context'.domainGraph pending) FiledOf := by
  unfold linkGeneralization
  split
  · split
    · exact Triple.fail fun _ hs => ⟨pending, hs⟩
    · have htype : "GENERALIZES_TO" ≠ "HAS_DOMAIN_LEVEL" := by decide
      apply Triple.attempt_bind (posted_link htype)
      · exact fun _ => Triple.done fun _ hs => hs
      · exact fun _ => Triple.done fun _ hs => hs
  · exact Triple.done fun _ hs => hs

theorem filed_createTargets (hk : kind.Filing) (context : AgentContext)
    (verified : List VerifiedConcept) :
    Triple (recorder env) (Filed context.domainGraph []) (kind.createTargets codec context verified)
      (fun result => Filed result.1.domainGraph []) FiledOf := by
  unfold createTargets
  simp only
  split
  · apply record_send_bind (posted_note _)
    apply (filed_failingIn (filed_pass4 codec verified)).bind
    intro targets
    apply (filed_announceAll (fun _ _ => rfl) hk targets.2).bind
    intro context'
    exact Triple.done fun _ hs => hs
  · exact Triple.done fun _ hs => hs

theorem Filing.filed_execute (hk : kind.Filing) (context : AgentContext) :
    Triple (recorder env) (Filed context.domainGraph []) (kind.execute codec context)
      (fun context' => Filed context'.domainGraph []) FiledOf := by
  apply record_send_bind (posted_note _)
  apply (filed_failingIn (filed_plain (emits_pass1 codec context))).bind
  intro concepts
  apply record_send_bind (posted_note _)
  apply record_send_bind (posted_note _)
  apply (filed_failingIn (filed_plain (emits_pass2 concepts))).bind
  intro results
  apply record_send_bind (posted_note _)
  apply (filed_failingIn (filed_plain (emits_pass3 codec (fun _ _ => trivial) context results))).bind
  intro verified
  apply (filed_createTargets codec hk context verified).bind
  intro targets
  apply record_send_bind (posted_note _)
  apply (filed_failingIn (filed_plain (emits_pass5 codec targets.1 targets.2))).bind
  intro properties
  apply record_send_bind (posted_note _)
  apply (filed_failingIn (filed_pass6 codec targets.2 properties)).bind
  intro created
  let Inv := fun (context : AgentContext) (_ : List VerifiedConcept) =>
    Filed context.domainGraph (newIds created)
  have hlink : Triple (recorder env) (Filed targets.1.domainGraph (newIds created))
      (kind.pass7CreateGeneralizationRelationships targets.2 created targets.1)
      (fun context' => Filed context'.domainGraph (newIds created)) FiledOf :=
    Triple.foldlM Inv (fun context concept _ => filed_linkGeneralization created context concept)
      targets.2 targets.1
  apply hlink.bind
  intro context'
  exact filed_announceAll (fun _ _ => rfl) hk created

end GeneratorKind

namespace TraitGeneratorStep

theorem filed_createConceptNode (acc : List CreatedNode × List NodeProperties)
    (concept : VerifiedConcept) :
    Triple (recorder env) (Filed r (newIds acc.1)) (createConceptNode codec acc concept)
      (fun acc' => Filed r (newIds acc'.1)) (fun _ => PartlyFiled r) := by
  rw [createConceptNode.eq_def]
  split
  · apply Triple.done
    intro s hs
    rwa [newIds_reused]
  · cases acc.2 with
    | nil => exact Triple.fail fun _ hs => ⟨_, hs⟩
    | cons props rest => exact filed_create codec props fun _ => newIds_append _ _
  · exact Triple.done fun _ hs => hs

theorem filed_pass5 (verified : List VerifiedConcept) (properties : List NodeProperties) :
    Triple (recorder env) (Filed r []) (pass5CreateNodes codec verified properties)
      (fun created => Filed r (newIds created)) (fun _ => PartlyFiled r) :=
  filed_concepts (filed_createConceptNode codec) verified properties

theorem filed_execute (context : AgentContext) :
    Triple (recorder env) (Filed context.domainGraph []) (execute codec context)
      (fun context' => Filed context'.domainGraph []) FiledOf := by
  apply record_send_bind (posted_note _)
  apply (filed_failingIn (filed_plain (emits_ask _ _))).bind
  intro concepts
  apply record_send_bind (posted_note _)
  apply (filed_failingIn (filed_plain (emits_pass2 concepts))).bind
  intro results
  apply (filed_failingIn (filed_plain (emits_pass3 codec (fun _ _ => trivial) context results))).bind
  intro verified
  apply (filed_failingIn (filed_plain (emits_batch fun _ => emits_ask _ _))).bind
  intro properties
  apply (filed_failingIn (filed_pass5 codec verified properties)).bind
  intro created
  exact filed_announceAll (fun _ _ => rfl) files_trait created

end TraitGeneratorStep

namespace MilestoneGeneratorStep

theorem filed_createNodes (properties : List NodeProperties) :
    Triple (recorder env) (Filed r []) (createNodes codec properties)
      (fun created => Filed r (newIds created)) (fun _ => PartlyFiled r) := by
  let Inv := fun (created : List CreatedNode) (_ : List NodeProperties) => Filed r (newIds created)
  refine Triple.mapM Inv (fun created props rest => ?_) properties []
  exact filed_create codec props fun _ => newIds_append _ _

theorem filed_execute (context : AgentContext) :
    Triple (recorder env) (Filed context.domainGraph []) (execute codec context)
      (fun context' => Filed context'.domainGraph []) FiledOf := by
  apply record_send_bind (posted_note _)
  apply (filed_failingIn (filed_plain (emits_ask _ _))).bind
  intro concepts
  apply record_send_bind (posted_note _)
  apply (filed_failingIn (filed_plain (emits_batch fun _ => emits_ask _ _))).bind
  intro properties
  apply (filed_failingIn (filed_createNodes codec properties)).bind
  intro created
  exact filed_announceAll (fun _ _ => rfl) files_milestone created

end MilestoneGeneratorStep

namespace DomainArchitectStep

variable (tables : CharTables)

theorem filed_createLevel (domainId : ElementId) (context : AgentContext) (info : LevelInfo) :
    Triple (recorder env) (Filed context.domainGraph []) (createLevel codec domainId context info)
      (fun context' => Filed context'.domainGraph []) FiledOf := by
  apply (filed_failingIn (filed_storeNode rfl)).bind
  intro level
  let node := CreatedNode.new info.name level.elementId "Domain_Level"
  let request : CreateRelationshipRequest := ⟨domainId, level.elementId, "HAS_DOMAIN_LEVEL", none⟩
  have hlink : Triple (recorder env) (Filed context.domainGraph [level.elementId])
      ((storeRelationship codec request).failingIn context)
      (fun _ => Tallied createdId (newIds context.domainGraph.allNodes ++ newIds [node])) FiledOf := by
    apply Triple.mapErr
    apply Triple.mapErr
    apply (posted_level domainId level.elementId).conseq
    · exact fun _ hs => hs
    · exact fun _ _ hs => hs
    · exact fun _ _ hs => ⟨_, hs⟩
  apply hlink.bind
  intro _
  apply record_send_bind (fun s hs => Tallied.snoc hs rfl _)
  apply Triple.done
  intro s hs
  exact Posted.of_tallied (hs.perm (files_level context node).perm_newIds)

theorem tallied_queueAvatarGeneration {ids : List ElementId} (domainName : String)
    (elementId : ElementId) {E : String × AgentContext → Recorded → Prop} :
    Triple (recorder env) (Tallied createdId ids) (queueAvatarGeneration tables domainName elementId)
      (fun _ => Tallied createdId ids) E :=
  Triple.of_infallible (infallible_queueAvatarGeneration tables domainName elementId)
    (Triple.tally_quiet (unyielding
      (emits_queueAvatarGeneration tables (fun _ _ => trivial) domainName elementId)))

theorem filed_execute {context : AgentContext}
    (hfresh : context.domainGraph.share .domainArchitect = {}) :
    Triple (recorder env) (Filed context.domainGraph []) (execute codec tables context)
      (fun context' => Filed context'.domainGraph []) FiledOf := by
  apply record_send_bind (posted_note _)
  apply (filed_failingIn (filed_storeNode rfl)).bind
  intro domain
  let node := CreatedNode.new context.domainName domain.elementId "Domain"
  apply record_send_bind (posted_note _)
  apply ((tallied_queueAvatarGeneration tables _ _).weaken fun _ hs => hs.tallied).bind
  intro _
  apply record_send_bind (fun s hs => Tallied.snoc hs rfl _)
  let Inv := fun (context : AgentContext) (_ : List LevelInfo) => Filed context.domainGraph []
  apply (Triple.foldlM Inv (fun context info _ => filed_createLevel codec domain.elementId context
    info) _ _).weaken
  intro s hs
  exact Posted.of_tallied (Tallied.perm hs (files_domain hfresh node).perm_newIds)

end DomainArchitectStep

section Run

variable (tables : DomainArchitectStep.CharTables)

theorem filed_linking {agent : AgentType} {context : AgentContext}
    (hfresh : context.domainGraph.share agent = {})
    (hagent : agent = .levelDistributor ∨ agent = .prerequisiteMapper)
    (hplain : Emits (fun q => madeLabel q = none) (fun _ => True)
      (executeAgent codec tables agent context)) :
    Triple (recorder env)
      (fun s => Filed context.domainGraph [] s ∧
        Books agent context.domainGraph context.domainGraph s)
      (executeAgent codec tables agent context) (fun context' => Filed context'.domainGraph [])
      FiledOf := by
  apply ((filed_plain hplain).and (books_executeAgent codec tables hfresh)).conseq
  · exact fun _ hs => hs
  · rintro context' s ⟨hfiled, hbooks⟩
    rwa [Filed, hbooks.others.allNodes hagent]
  · rintro failure s ⟨⟨pending, hfiled⟩, hbooks⟩
    exact ⟨pending, by rwa [Filed, hbooks.others.allNodes hagent]⟩

theorem filed_executeAgent {agent : AgentType} {context : AgentContext}
    (hfresh : context.domainGraph.share agent = {}) :
    Triple (recorder env)
      (fun s => Filed context.domainGraph [] s ∧
        Books agent context.domainGraph context.domainGraph s)
      (executeAgent codec tables agent context) (fun context' => Filed context'.domainGraph [])
      FiledOf := by
  cases agent with
  | domainArchitect =>
      exact (DomainArchitectStep.filed_execute codec tables hfresh).weaken fun _ hs => hs.1
  | knowledgeGenerator =>
      have hfiling : knowledgeKind.Filing := files_knowledge
      exact (hfiling.filed_execute codec context).weaken fun _ hs => hs.1
  | skillGenerator =>
      have hfiling : skillKind.Filing := files_skill
      exact (hfiling.filed_execute codec context).weaken fun _ hs => hs.1
  | traitGenerator => exact (TraitGeneratorStep.filed_execute codec context).weaken fun _ hs => hs.1
  | milestoneGenerator =>
      exact (MilestoneGeneratorStep.filed_execute codec context).weaken fun _ hs => hs.1
  | levelDistributor =>
      exact filed_linking codec tables hfresh (.inl rfl)
        (LevelDistributorStep.emits_execute codec madeLabel_merge (fun _ _ => trivial) context)
  | prerequisiteMapper =>
      exact filed_linking codec tables hfresh (.inr rfl)
        (PrerequisiteMapperStep.emits_execute codec madeLabel_merge (fun _ _ => trivial) context)

end Run

end Steps

end AtlasOfUs.Agent
