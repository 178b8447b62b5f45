import AtlasOfUs.Agent.Orchestrator
import AtlasOfUs.Emissions
import AtlasOfUs.GraphApi.NodeWrites

namespace AtlasOfUs.Agent

open Library Similarity GraphApi

variable {statement : Statement → Prop} {event : SseEvent → Prop} {ε α β : Type}

theorem emits_ask (prompt : Prompt) (parse : String → Parsed α) :
    Emits statement event (ask prompt parse) := by
  refine (Calls.perform trivial).bind fun reply => ?_
  cases reply with
  | error e => trivial
  | ok response => exact Calls.ofExit _

theorem emits_executeSimilarityQuery (label : Option String) (limit : Int) (key : SearchKey) :
    Emits statement event (executeSimilarityQuery label limit key :
      Service SseEvent Prompt String (List SimilarNodeResult)) :=
  (Calls.perform trivial).bind fun rows => (Calls.ofExcept rows).bind fun _ => trivial

theorem emits_similarTo (label : String) (limit : Int) (text : String) :
    Emits statement event (similarTo label limit text) :=
  Calls.mapErr ((Emits.generateEmbedding _).bind fun v =>
    (Calls.ofExcept v).bind fun _ => emits_executeSimilarityQuery _ _ _)

theorem emits_batch {f : α → Step β} {xs : List α} (h : ∀ x, Emits statement event (f x)) :
    Emits statement event (batch f xs) :=
  (Calls.mapM xs fun x _ => (h x).attempt).bind fun rs => Calls.ofExcept (collect rs)

theorem emits_createRelationship {request : CreateRelationshipRequest} {Event Prompt : Type}
    {event : Event → Prop} (h : statement request.statement) :
    Emits statement event (createRelationship request :
      Service Event Prompt ServiceError CreateRelationshipResult) := by
  refine (Emits.execute h).bind fun result => ?_
  cases result with
  | error e => trivial
  | ok result => cases h : result.firstRow <;> simp [h, Calls]

theorem emits_createNode (codec : Codec) {request : CreateNodeRequest} {Event Prompt : Type}
    {event : Event → Prop} (h : ∀ props, statement (createNodeStatement request.labels props)) :
    Emits statement event (createNode codec request false :
      Service Event Prompt ServiceError CreateNodeResult) := by
  refine (Emits.generateEmbedding _).bind fun embedding => ?_
  cases embedding with
  | error e => trivial
  | ok embedding =>
      refine (Emits.execute (h _)).bind fun result => ?_
      cases result with
      | error e => trivial
      | ok result => cases h : result.firstRow <;> simp [h, Calls]

theorem emits_storeNode (codec : Codec) {request : CreateNodeRequest}
    (h : ∀ props, statement (createNodeStatement request.labels props)) :
    Emits statement event (storeNode codec request) :=
  (emits_createNode codec h).mapErr

theorem emitsOnce_createNode (codec : Codec) {request : CreateNodeRequest}
    {once : Statement → Prop} {Event Prompt : Type} {event : Event → Prop}
    (h : ∀ vector, once (createNodeStatement request.labels (request.stored vector))) :
    EmitsOnce statement once event (createNode codec request false :
      Service Event Prompt ServiceError CreateNodeResult) := by
  refine CallsOnce.after (Emits.generateEmbedding _) fun embedding => ?_
  cases embedding with
  | error e => trivial
  | ok embedding =>
      refine (EmitsOnce.execute (h embedding)).bind fun result => ?_
      cases result with
      | error e => trivial
      | ok result => cases h : result.firstRow <;> simp [h, Calls]

def SseEvent.announces : SseEvent → Bool
  | .nodeCreated .. => true
  | _ => false

theorem emits_note {e : SseEvent} (hevent : ∀ e, e.announces = false → event e)
    (he : e.announces = false) : Emits statement event (send e : Service SseEvent Prompt ε Unit) :=
  Emits.send (hevent e he)

namespace GeneratorKind

variable {kind : GeneratorKind} (codec : Codec)

theorem emits_pass1 (context : AgentContext) :
    Emits statement event (kind.pass1Conceptualize codec context) :=
  emits_ask _ _

theorem emits_pass2 (concepts : List String) :
    Emits statement event (kind.pass2SimilaritySearch concepts) :=
  emits_batch fun _ => (emits_similarTo _ _ _).bind fun _ => trivial

theorem emits_resolveDecision (concept : String) (similar : List SimilarNodeResult)
    (verdict : VerifiedConcept) :
    Emits statement event (kind.resolveDecision concept similar verdict) := by
  unfold resolveDecision
  split
  · unfold resolveTarget
    split
    · trivial
    · refine (emits_similarTo _ _ _).bind fun results => ?_
      split <;> trivial
  · trivial

theorem emits_report (hevent : ∀ e, e.announces = false → event e) (concept : String)
    (decision : VerifiedConcept) : Emits statement event (kind.report concept decision) := by
  unfold report
  split
  · exact emits_note hevent rfl
  · trivial

theorem emits_pass3 (hevent : ∀ e, e.announces = false → event e) (context : AgentContext)
    (results : List (String × List SimilarNodeResult)) :
    Emits statement event (kind.pass3VerifyMatches codec context results) := by
  refine Calls.mapM results fun found _ => ?_
  refine Emits.send_bind (hevent _ rfl) ?_
  split
  · exact (emits_report hevent _ _).bind fun _ => trivial
  · refine (emits_ask _ _).bind fun verdict => ?_
    refine (emits_resolveDecision _ _ _).bind fun decision => ?_
    exact (emits_report hevent _ _).bind fun _ => trivial

theorem emits_genericProperties (targets : List (Nat × String)) :
    Emits statement event (batch (fun target : Nat × String => do
      let props ← ask (kind.genericPrompt target.2)
        (fun response => kind.parseKindProperties codec response target.2)
      return (target.1, target.2, props)) targets) :=
  emits_batch fun _ => (emits_ask _ _).bind fun _ => trivial

theorem emits_pass4 (h : ∀ props, statement (createNodeStatement [kind.label] props))
    (verified : List VerifiedConcept) :
    Emits statement event (kind.pass4CreateMissingTargets codec verified) := by
  refine (emits_genericProperties codec _).bind fun properties => ?_
  refine Calls.foldlM properties (fun _ _ _ => ?_) _
  exact (emits_storeNode codec h).bind fun _ => trivial

theorem emits_pass5 (context : AgentContext) (verified : List VerifiedConcept) :
    Emits statement event (kind.pass5GenerateProperties codec context verified) :=
  emits_batch fun _ => emits_ask _ _

theorem emits_pass6 (h : ∀ props, statement (createNodeStatement [kind.label] props))
    (verified : List VerifiedConcept) (properties : List NodeProperties) :
    Emits statement event (kind.pass6CreateNodes codec verified properties) := by
  refine (Calls.foldlM verified (fun acc concept _ => ?_) _).bind fun _ => trivial
  unfold createConceptNode
  split
  · trivial
  · split
    · trivial
    · exact (emits_storeNode codec h).bind fun _ => trivial

theorem emits_pass7 (h : ∀ source target,
      statement (CreateRelationshipRequest.mk source target "GENERALIZES_TO" none).statement)
    (verified : List VerifiedConcept) (created : List CreatedNode) (context : AgentContext) :
    Emits statement event
      (kind.pass7CreateGeneralizationRelationships verified created context) := by
  refine Calls.foldlM verified (fun context concept _ => ?_) context
  unfold linkGeneralization
  split
  · split
    · trivial
    · refine (emits_createRelationship (h _ _)).attempt.bind fun result => ?_
      cases result <;> trivial
  · trivial

theorem emits_announce (hevent : ∀ e, event e) (nodes : List CreatedNode) (context : AgentContext) :
    Emits statement event (nodes.foldlM kind.announce context) := by
  refine Calls.foldlM nodes (fun _ _ _ => ?_) context
  exact Emits.send_bind (hevent _) trivial

theorem emits_createTargets (h : ∀ props, statement (createNodeStatement [kind.label] props))
    (hevent : ∀ e, event e) (context : AgentContext) (verified : List VerifiedConcept) :
    Emits statement event (kind.createTargets codec context verified) := by
  unfold createTargets
  simp only
  split
  · refine Emits.send_bind (hevent _) ((emits_pass4 codec h verified).mapErr.bind fun targets => ?_)
    exact (emits_announce hevent _ _).bind fun _ => trivial
  · trivial

theorem emits_execute (h : ∀ props, statement (createNodeStatement [kind.label] props))
    (hmerge : ∀ source target,
      statement (CreateRelationshipRequest.mk source target "GENERALIZES_TO" none).statement)
    (hevent : ∀ e, event e) (context : AgentContext) :
    Emits statement event (kind.execute codec context) := by
  refine Emits.send_bind (hevent _) ?_
  refine (emits_pass1 codec context).mapErr.bind fun concepts => ?_
  refine Emits.send_bind (hevent _) (Emits.send_bind (hevent _) ?_)
  refine (emits_pass2 concepts).mapErr.bind fun results => ?_
  refine Emits.send_bind (hevent _) ?_
  refine (emits_pass3 codec (fun e _ => hevent e) context results).mapErr.bind fun verified => ?_
  refine (emits_createTargets codec h hevent context verified).bind fun targets => ?_
  refine Emits.send_bind (hevent _) ?_
  refine (emits_pass5 codec targets.1 targets.2).mapErr.bind fun properties => ?_
  refine Emits.send_bind (hevent _) ?_
  refine (emits_pass6 codec h targets.2 properties).mapErr.bind fun created => ?_
  refine (emits_pass7 hmerge targets.2 created targets.1).bind fun context => ?_
  exact emits_announce hevent created context

end GeneratorKind

variable (codec : Codec)

namespace TraitGeneratorStep

theorem emits_pass2 (concepts : List String) :
    Emits statement event (pass2SimilaritySearch concepts) :=
  emits_batch fun _ => (emits_similarTo _ _ _).bind fun _ => trivial

theorem emits_pass3 (hevent : ∀ e, e.announces = false → event e) (context : AgentContext)
    (results : List (String × List SimilarNodeResult)) :
    Emits statement event (pass3VerifyMatches codec context results) := by
  refine Calls.mapM results fun found _ => ?_
  refine Emits.send_bind (hevent _ rfl) ?_
  split
  · trivial
  · split
    · trivial
    · split
      · trivial
      · exact emits_ask _ _

theorem emits_pass5 (h : ∀ props, statement (createNodeStatement ["Trait"] props))
    (verified : List VerifiedConcept) (properties : List NodeProperties) :
    Emits statement event (pass5CreateNodes codec verified properties) := by
  refine (Calls.foldlM verified (fun acc concept _ => ?_) _).bind fun _ => trivial
  unfold createConceptNode
  split
  · trivial
  · split
    · trivial
    · exact (emits_storeNode codec h).bind fun _ => trivial
  · trivial

theorem emits_execute (h : ∀ props, statement (createNodeStatement ["Trait"] props))
    (hevent : ∀ e, event e) (context : AgentContext) :
    Emits statement event (execute codec context) := by
  refine Emits.send_bind (hevent _) ?_
  refine (emits_ask _ _).mapErr.bind fun concepts => ?_
  refine Emits.send_bind (hevent _) ?_
  refine (emits_pass2 concepts).mapErr.bind fun results => ?_
  refine (emits_pass3 codec (fun e _ => hevent e) context results).mapErr.bind fun verified => ?_
  refine (emits_batch fun _ => emits_ask _ _).mapErr.bind fun properties => ?_
  refine (emits_pass5 codec h verified properties).mapErr.bind fun created => ?_
  refine Calls.foldlM created (fun _ _ _ => ?_) context
  exact Emits.send_bind (hevent _) trivial

end TraitGeneratorStep

namespace MilestoneGeneratorStep

theorem emits_createNodes (h : ∀ props, statement (createNodeStatement ["Milestone"] props))
    (properties : List NodeProperties) :
    Emits statement event (createNodes codec properties) := by
  refine Calls.mapM properties fun _ _ => ?_
  exact (emits_storeNode codec h).bind fun _ => trivial

theorem emits_execute (h : ∀ props, statement (createNodeStatement ["Milestone"] props))
    (hevent : ∀ e, event e) (context : AgentContext) :
    Emits statement event (execute codec context) := by
  refine Emits.send_bind (hevent _) ?_
  refine (emits_ask _ _).mapErr.bind fun concepts => ?_
  refine Emits.send_bind (hevent _) ?_
  refine (emits_batch fun _ => emits_ask _ _).mapErr.bind fun properties => ?_
  refine (emits_createNodes codec h properties).mapErr.bind fun created => ?_
  refine Calls.foldlM created (fun _ _ _ => ?_) context
  exact Emits.send_bind (hevent _) trivial

end MilestoneGeneratorStep

namespace LevelDistributorStep

theorem emits_createLevelRelationship
    (h : ∀ request : CreateRelationshipRequest, statement request.statement)
    (acc : Nat × AgentContext) (assignment : LevelAssignment) :
    Emits statement event (createLevelRelationship acc assignment) := by
  unfold createLevelRelationship
  split
  · trivial
  · refine (emits_createRelationship (h _)).attempt.bind fun result => ?_
    cases result <;> trivial

theorem emits_execute (h : ∀ request : CreateRelationshipRequest, statement request.statement)
    (hevent : ∀ e, e.announces = false → event e) (context : AgentContext) :
    Emits statement event (execute codec context) := by
  refine Calls.bind (Calls.mapErr (Calls.bind (Calls.mapM _ fun type _ => ?_) fun _ => trivial))
    fun assignments => ?_
  · exact Emits.send_bind (hevent _ rfl) (emits_ask _ _)
  · refine Emits.send_bind (hevent _ rfl) (Emits.send_bind (hevent _ rfl) ?_)
    refine (Calls.foldlM assignments (fun acc assignment _ =>
      emits_createLevelRelationship h acc assignment) _).mapErr.bind fun result => ?_
    exact Emits.send_bind (hevent _ rfl) trivial

end LevelDistributorStep

namespace PrerequisiteMapperStep

theorem emits_createPrerequisiteRelationship
    (h : ∀ request : CreateRelationshipRequest, statement request.statement)
    (acc : Nat × AgentContext) (prereq : PrerequisiteRelationship) :
    Emits statement event (createPrerequisiteRelationship acc prereq) := by
  refine (emits_createRelationship (h _)).attempt.bind fun result => ?_
  cases result <;> trivial

theorem emits_execute (h : ∀ request : CreateRelationshipRequest, statement request.statement)
    (hevent : ∀ e, e.announces = false → event e) (context : AgentContext) :
    Emits statement event (execute codec context) := by
  refine Calls.bind (Calls.mapErr (Calls.bind (Calls.mapM _ fun type _ => ?_) fun _ => trivial))
    fun prerequisites => ?_
  · exact Emits.send_bind (hevent _ rfl) (emits_ask _ _)
  · refine Emits.send_bind (hevent _ rfl) (Emits.send_bind (hevent _ rfl) ?_)
    refine (Calls.foldlM prerequisites (fun acc prereq _ =>
      emits_createPrerequisiteRelationship h acc prereq) _).mapErr.bind fun result => ?_
    exact Emits.send_bind (hevent _ rfl) trivial

end PrerequisiteMapperStep

namespace DomainArchitectStep

variable (tables : CharTables)

theorem emits_queueAvatarGeneration (hevent : ∀ e, e.announces = false → event e)
    (domainName : String) (elementId : ElementId) :
    Emits statement event (queueAvatarGeneration tables domainName elementId) := by
  refine (Calls.perform trivial).bind fun configured => ?_
  cases configured with
  | false => trivial
  | true =>
      refine (Calls.perform trivial).bind fun result => ?_
      cases result with
      | ok _ => exact Emits.send (hevent _ rfl)
      | error e => trivial

theorem emits_createLevel (h : ∀ props, statement (createNodeStatement ["Domain_Level"] props))
    (hmerge : ∀ source target,
      statement (CreateRelationshipRequest.mk source target "HAS_DOMAIN_LEVEL" none).statement)
    (hevent : ∀ e, event e) (domainId : ElementId) (context : AgentContext) (info : LevelInfo) :
    Emits statement event (createLevel codec domainId context info) := by
  refine (emits_storeNode codec h).mapErr.bind fun level => ?_
  refine (emits_createRelationship (hmerge _ _)).mapErr.mapErr.bind fun _ => ?_
  exact Emits.send_bind (hevent _) trivial

theorem emits_execute (hdomain : ∀ props, statement (createNodeStatement ["Domain"] props))
    (hlevel : ∀ props, statement (createNodeStatement ["Domain_Level"] props))
    (hmerge : ∀ source target,
      statement (CreateRelationshipRequest.mk source target "HAS_DOMAIN_LEVEL" none).statement)
    (hevent : ∀ e, event e) (context : AgentContext) :
    Emits statement event (execute codec tables context) := by
  refine Emits.send_bind (hevent _) ((emits_storeNode codec hdomain).mapErr.bind fun domain => ?_)
  refine Emits.send_bind (hevent _) ?_
  refine Calls.bind (emits_queueAvatarGeneration tables (fun e _ => hevent e) _ _) fun _ => ?_
  refine Emits.send_bind (hevent _) (Calls.foldlM _ (fun context info _ => ?_) _)
  exact emits_createLevel codec hlevel hmerge hevent domain.elementId context info

end DomainArchitectStep

def afterAgent (agent : AgentType) (stats : DomainStatistics)
    (result : Except (String × AgentContext) AgentContext) : Step (AgentContext × DomainStatistics) := do
  match result with
  | .ok context => do
      let counts := countAgentNodes agent context
      send (.agentCompleted agent counts.1 counts.2)
      return (context, updateStats stats agent context)
  | .error (e, context) => do
      send (.agentFailed agent e)
      send (.failed e (some agent) (some context.domainGraph))
      .fail e

theorem runAgent_eq (tables : DomainArchitectStep.CharTables)
    (acc : AgentContext × DomainStatistics) (agent : AgentType × Nat) :
    runAgent codec tables acc agent =
      (send (.agentStarted agent.1 (agent.2 + 1) agent.1.displayName) >>= fun _ =>
        (executeAgent codec tables agent.1 acc.1).attempt >>= afterAgent agent.1 acc.2) := rfl

theorem emits_afterAgent (hevent : ∀ e, e.announces = false → event e) (agent : AgentType)
    (stats : DomainStatistics) (result : Except (String × AgentContext) AgentContext) :
    Emits statement event (afterAgent agent stats result) := by
  cases result with
  | ok context => exact Emits.send_bind (hevent _ rfl) trivial
  | error failure => exact Emits.send_bind (hevent _ rfl) (Emits.send_bind (hevent _ rfl) trivial)

end AtlasOfUs.Agent
