import AtlasOfUs.Agent.AsyncGeneration
import AtlasOfUs.Agent.Emissions
import AtlasOfUs.Agent.Events
import AtlasOfUs.GraphApi.DomainStatements
import AtlasOfUs.GraphApi.DomainView
import AtlasOfUs.Library.Machine

namespace AtlasOfUs

open Library GraphApi

def domains (g : Graph) : List Node := g.nodes.filter (Node.hasLabel "Domain")

def DistinctNames (g : Graph) : Prop :=
  ∀ d ∈ domains g, ∀ d' ∈ domains g, ∀ name, d.props "name" = some name →
    d'.props "name" = some name → d = d'

def NameTaken (g : Graph) (name : String) : Prop :=
  ∃ d ∈ domains g, d.props "name" = some (.str name)

section Domains

variable {g g' : Graph}

theorem mem_domains {d : Node} : d ∈ domains g ↔ d ∈ g.nodes ∧ d.hasLabel "Domain" = true :=
  List.mem_filter

theorem isNamed_iff {name : String} {d : Node} :
    isNamed "Domain" name d = true ↔
      d.hasLabel "Domain" = true ∧ d.props "name" = some (.str name) := by
  rw [isNamed, Bool.and_eq_true, decide_eq_true_eq]

theorem DistinctNames.of_subset (h : DistinctNames g) (hsub : domains g' ⊆ domains g) :
    DistinctNames g' :=
  fun d hd d' hd' => h d (hsub hd) d' (hsub hd')

theorem domains_subset_of_nodes (h : g'.nodes ⊆ g.nodes) : domains g' ⊆ domains g := by
  intro d hd
  obtain ⟨hd, hlabel⟩ := mem_domains.1 hd
  exact mem_domains.2 ⟨h hd, hlabel⟩

theorem domains_createNode_of_not {labels : List String} (h : labels.contains "Domain" = false)
    (props : Props) : domains (g.createNode labels props) = domains g := by
  have hlabel : Node.hasLabel "Domain" (⟨g.freshId, labels, props⟩ : Node) = false := h
  rw [domains, Graph.createNode_nodes, List.filter_append, List.filter_singleton, hlabel]
  exact List.append_nil _

theorem domains_createNode (props : Props) :
    domains (g.createNode ["Domain"] props) = domains g ++ [⟨g.freshId, ["Domain"], props⟩] := by
  rw [domains, Graph.createNode_nodes, List.filter_append]
  rfl

theorem DistinctNames.createNode (h : DistinctNames g) {props : Props} {name : String}
    (hname : props "name" = some (.str name)) (hfree : ¬ NameTaken g name) :
    DistinctNames (g.createNode ["Domain"] props) := by
  intro d hd d' hd' value hvalue hvalue'
  rw [domains_createNode, List.mem_append, List.mem_singleton] at hd hd'
  rcases hd with hd | rfl <;> rcases hd' with hd' | rfl
  · exact h d hd d' hd' value hvalue hvalue'
  · have hsame : some value = some (.str name) := hvalue'.symm.trans hname
    exact absurd ⟨d, hd, hvalue.trans hsame⟩ hfree
  · have hsame : some value = some (.str name) := hvalue.symm.trans hname
    exact absurd ⟨d', hd', hvalue'.trans hsame⟩ hfree
  · rfl

theorem DistinctNames.getDomain (h : DistinctNames g) (name : String) :
    (getDomainStatement name g).1.length ≤ 1 := by
  have hnodup : (g.nodes.filter (isNamed "Domain" name)).Nodup :=
    (List.Nodup.of_map _ g.nodeIds_nodup).filter _
  have hsame : ∀ d ∈ g.nodes.filter (isNamed "Domain" name),
      ∀ d' ∈ g.nodes.filter (isNamed "Domain" name), d = d' := by
    intro d hd d' hd'
    obtain ⟨hd, hnamed⟩ := List.mem_filter.1 hd
    obtain ⟨hd', hnamed'⟩ := List.mem_filter.1 hd'
    obtain ⟨hlabel, hname⟩ := isNamed_iff.1 hnamed
    obtain ⟨hlabel', hname'⟩ := isNamed_iff.1 hnamed'
    exact h d (mem_domains.2 ⟨hd, hlabel⟩) d' (mem_domains.2 ⟨hd', hlabel'⟩) _ hname hname'
  rw [getDomainStatement, List.length_map]
  cases hfound : g.nodes.filter (isNamed "Domain" name) with
  | nil => exact Nat.zero_le 1
  | cons d ds =>
      cases ds with
      | nil => exact Nat.le_refl 1
      | cons d' ds =>
          rw [hfound] at hsame hnodup
          have heq : d = d' := hsame d List.mem_cons_self d' (by simp)
          rw [heq] at hnodup
          exact absurd List.mem_cons_self (List.nodup_cons.1 hnodup).1

end Domains

section Create

def KeepsDomains (q : Statement) : Prop := ∀ g, domains (q g).2 = domains g

def AddsDomain (name : String) (q : Statement) : Prop :=
  ∃ props : Props, props "name" = some (.str name) ∧ ∀ g, (q g).2 = g.createNode ["Domain"] props

def NameFresh (name : String) (g : Graph) : Prop := DistinctNames g ∧ ¬ NameTaken g name

theorem KeepsDomains.distinctNames {q : Statement} (hq : KeepsDomains q) {g : Graph}
    (hg : DistinctNames g) : DistinctNames (q g).2 :=
  hg.of_subset (hq g ▸ List.Subset.refl _)

theorem KeepsDomains.nameFresh {q : Statement} (hq : KeepsDomains q) {g : Graph} {name : String}
    (hg : NameFresh name g) : NameFresh name (q g).2 := by
  refine ⟨hq.distinctNames hg.1, ?_⟩
  rw [NameTaken, hq g]
  exact hg.2

theorem AddsDomain.distinctNames {q : Statement} {name : String} (hq : AddsDomain name q)
    {g : Graph} (hg : NameFresh name g) : DistinctNames (q g).2 := by
  obtain ⟨props, hname, hgraph⟩ := hq
  rw [hgraph]
  exact hg.1.createNode hname hg.2

/-- A program that adds one domain of a free name, and touches no other, keeps the names apart. -/
theorem distinctNames_emitsOnce {Event Prompt ε α : Type} {event : Event → Prop} {name : String}
    {p : Service Event Prompt ε α} (hp : EmitsOnce KeepsDomains (AddsDomain name) event p)
    (env : Env) (w : World) (hw : NameFresh name w.graph) :
    DistinctNames (env.exec p w).state.graph :=
  hp.maintains (fun _ hg => hg.1) (fun _ _ hq => hq.nameFresh) (fun _ _ hq => hq.distinctNames)
    (fun _ _ hq => hq.distinctNames) env w hw

theorem keepsDomains_create {label : String} (h : label ≠ "Domain") (props : Props) :
    KeepsDomains (createNodeStatement [label] props) := by
  intro g
  apply domains_createNode_of_not
  simpa using h.symm

theorem keepsDomains_merge (request : CreateRelationshipRequest) : KeepsDomains request.statement := by
  intro g
  rw [domains, CreateRelationshipRequest.statement, mergeRelationshipStatement_nodes]
  rfl

theorem label_ne_domain {requirements : LevelRequirements} {r : Requirement}
    (h : r ∈ requirements.entries) : r.label ≠ "Domain" := by
  simp only [LevelRequirements.entries, List.mem_append, List.mem_map] at h
  rcases h with ((⟨k, -, rfl⟩ | ⟨k, -, rfl⟩) | ⟨k, -, rfl⟩) | ⟨k, -, rfl⟩
  · exact fun h => absurd h (by decide : "Knowledge" ≠ "Domain")
  · exact fun h => absurd h (by decide : "Skill" ≠ "Domain")
  · exact fun h => absurd h (by decide : "Trait" ≠ "Domain")
  · exact fun h => absurd h (by decide : "Milestone" ≠ "Domain")

theorem keepsDomains_store {q : Statement} (hq : StoreStatement q) : KeepsDomains q := by
  intro g
  cases hq with
  | level domainId level =>
      rw [createLevelStatement]
      split
      · rw [domains, Graph.createEdge_nodes]
        exact domains_createNode_of_not rfl _
      · rfl
  | requirement h =>
      cases h with
      | component hr hd =>
          rw [mergeComponentStatement]
          split
          · apply domains_createNode_of_not
            simpa using (label_ne_domain hr).symm
          · rfl
      | link hr nodeId =>
          rw [linkStatement]
          split
          · rw [domains, Graph.createEdge_nodes]
            rfl
          · rfl

end Create

section Requests

variable (env : Env) (w : World)

/-- The exact-name guard lets no taken name through unless the stream of its
reply breaks before the row. -/
theorem not_nameTaken_of_free {name : String} (hfree : NameFree env w name)
    (hcheck : NameTaken w.graph name → ∀ applied e, env.outcome w.clock ≠ .cut applied 0 e) :
    ¬ NameTaken w.graph name := by
  intro htaken
  obtain ⟨d, hd, hname⟩ := id htaken
  obtain ⟨hd, hlabel⟩ := mem_domains.1 hd
  have hfound : d ∈ w.graph.nodes.filter (isNamed "Domain" name) :=
    List.mem_filter.2 ⟨hd, isNamed_iff.2 ⟨hlabel, hname⟩⟩
  obtain ⟨rs, hreply, hfirst⟩ := hfree
  rw [checkStatement] at hreply
  cases hnodes : w.graph.nodes.filter (isNamed "Domain" name) with
  | nil =>
      rw [hnodes] at hfound
      cases hfound
  | cons first rest =>
      rw [hnodes] at hreply
      cases hout : env.outcome w.clock with
      | done =>
          rw [hout] at hreply
          obtain rfl := Except.ok.inj hreply
          cases hfirst
      | failed applied e =>
          rw [hout] at hreply
          cases hreply
      | cut applied delivered e =>
          rw [hout] at hreply
          obtain rfl := Except.ok.inj hreply
          cases delivered with
          | zero => exact hcheck htaken applied e hout
          | succ n => cases hfirst

theorem emitsOnce_createDomainNode (request : CreateDomainRequest) :
    EmitsOnce KeepsDomains (AddsDomain request.domain.name) (fun _ => True)
      (createDomainNode request.domain) := by
  have hadds : AddsDomain request.domain.name
      (createDomainStatement request.domain.name request.domain.description) :=
    ⟨domainProps request.domain, rfl, fun _ => rfl⟩
  refine (EmitsOnce.execute hadds).bind fun reply => ?_
  cases reply with
  | error e => trivial
  | ok result => cases h : result.firstRow <;> simp [h, Calls]

theorem distinctNames_createDomain (request : CreateDomainRequest) (hw : DistinctNames w.graph)
    (hcheck : NameTaken w.graph request.domain.name →
      ∀ applied e, env.outcome w.clock ≠ .cut applied 0 e) :
    DistinctNames (env.exec (createDomain request) w).state.graph := by
  by_cases hform : WellFormed request.domain request.levels
  · obtain ⟨hstate, hcases⟩ := exec_checkDomainName env w request.domain.name
    rw [createDomain, openDomain, validateRequest_of_wellFormed hform, Proc.done_bind, bind_assoc,
      exec_bind]
    rcases hcases with ⟨hfree, hexit⟩ | ⟨e, hexit⟩
    · rw [Execution.state_andThen hexit, hstate]
      have honce : EmitsOnce KeepsDomains (AddsDomain request.domain.name) (fun _ => True)
          (createDomainNode request.domain >>= fun domainElementId => do
            let createdNodes ← storeLevels domainElementId request.levels
            return (⟨true, domainElementId, request.domain.name, createdNodes⟩ :
              CreateDomainResult)) := by
        refine (emitsOnce_createDomainNode request).bind fun domainId => ?_
        refine Calls.bind ?_ fun _ => trivial
        exact Emits.of_runs ((runs_storeLevels domainId request.levels).mono
          fun _ => keepsDomains_store)
      exact distinctNames_emitsOnce honce env w.tick ⟨hw, not_nameTaken_of_free env w hfree hcheck⟩
    · rw [Execution.state_andThen_err hexit, hstate]
      exact hw
  · obtain ⟨message, hmessage⟩ := validateRequest_of_not_wellFormed hform
    rw [createDomain, openDomain, hmessage, Proc.fail_bind, Proc.fail_bind]
    exact hw

/-- The domain of the id, if there is one, is the only one that may have the name. -/
def Reserved (domainId : ElementId) (name : String) (g : Graph) : Prop :=
  ∀ d ∈ domains g, d.id = domainId →
    ∀ d' ∈ domains g, d'.props "name" = some (.str name) → d'.id = domainId

def NamesReserved (domainId : ElementId) (name : String) (g : Graph) : Prop :=
  DistinctNames g ∧ Reserved domainId name g

theorem NamesReserved.of_subset {domainId : ElementId} {name : String} {g g' : Graph}
    (h : NamesReserved domainId name g) (hsub : domains g' ⊆ domains g) :
    NamesReserved domainId name g' :=
  ⟨h.1.of_subset hsub, fun d hd hid d' hd' => h.2 d (hsub hd) hid d' (hsub hd')⟩

theorem mem_domains_update {domainId : ElementId} {name description : String} {g : Graph} {d : Node}
    (h : d ∈ domains (renameStatement domainId name description g).2) :
    (d ∈ domains g ∧ d.id ≠ domainId) ∨
      (∃ r ∈ domains g, r.id = domainId ∧ d.id = domainId ∧
        d = { r with props :=
          (r.props.set "name" (.str name)).set "description" (.str description) } ∧
        d.props "name" = some (.str name)) := by
  obtain ⟨hd, hlabel⟩ := mem_domains.1 h
  obtain ⟨r, hr, rfl⟩ := List.mem_map.1 hd
  by_cases hnode : isNode "Domain" domainId r = true
  · rw [if_pos hnode] at hlabel ⊢
    rw [isNode, Bool.and_eq_true, decide_eq_true_eq] at hnode
    exact .inr ⟨r, mem_domains.2 ⟨hr, hnode.2⟩, hnode.1, hnode.1, rfl, rfl⟩
  · rw [if_neg hnode] at hlabel ⊢
    refine .inl ⟨mem_domains.2 ⟨hr, hlabel⟩, fun hid => hnode ?_⟩
    rw [isNode, Bool.and_eq_true, decide_eq_true_eq]
    exact ⟨hid, hlabel⟩

theorem NamesReserved.update {domainId : ElementId} {name : String} {g : Graph}
    (h : NamesReserved domainId name g) (description : String) :
    NamesReserved domainId name (renameStatement domainId name description g).2 := by
  constructor
  · intro d hd d' hd' value hvalue hvalue'
    rcases mem_domains_update hd with ⟨hd, hne⟩ | ⟨r, hr, hrid, hid, hdr, hname⟩ <;>
      rcases mem_domains_update hd' with ⟨hd', hne'⟩ | ⟨r', hr', hrid', hid', hdr', hname'⟩
    · exact h.1 d hd d' hd' value hvalue hvalue'
    · have hsame : some value = some (.str name) := hvalue'.symm.trans hname'
      exact absurd (h.2 r' hr' hrid' d hd (hvalue.trans hsame)) hne
    · have hsame : some value = some (.str name) := hvalue.symm.trans hname
      exact absurd (h.2 r hr hrid d' hd' (hvalue'.trans hsame)) hne'
    · have heq : r = r' := Graph.node_eq_of_id (mem_domains.1 hr).1 (mem_domains.1 hr').1
        (hrid.trans hrid'.symm)
      rw [hdr, hdr', heq]
  · intro d hd hid d' hd' hname
    rcases mem_domains_update hd with ⟨-, hne⟩ | ⟨r, hr, hrid, -, -, -⟩
    · exact absurd hid hne
    · rcases mem_domains_update hd' with ⟨hd', -⟩ | ⟨-, -, -, hid', -, -⟩
      · exact h.2 r hr hrid d' hd' hname
      · exact hid'

theorem distinctNames_updateDomain (request : UpdateDomainRequest) (hw : DistinctNames w.graph)
    (hname : WellFormed request.domain request.levels →
      Reserved request.domainElementId request.domain.name w.graph) :
    DistinctNames (env.exec (updateDomain request) w).state.graph := by
  by_cases hform : WellFormed request.domain request.levels
  · refine ((runs_updateDomain request).maintains
      (P := NamesReserved request.domainElementId request.domain.name) (fun q g hq hg => ?_) env w
      ⟨hw, hname hform⟩).1
    cases hq with
    | verify => exact hg
    | deleteProgress => exact hg.of_subset (List.Subset.refl _)
    | update => exact hg.update _
    | deleteLevels => exact hg.of_subset (domains_subset_of_nodes (List.filter_subset_self _))
    | store h => exact hg.of_subset (keepsDomains_store h g ▸ List.Subset.refl _)
  · obtain ⟨message, hmessage⟩ := validateRequest_of_not_wellFormed hform
    rw [updateDomain, reopenDomain, hmessage, Proc.fail_bind, Proc.fail_bind]
    exact hw

end Requests

section Agents

open Agent

variable (env : Env) (w : World) (codec : Codec) (tables : DomainArchitectStep.CharTables)

theorem addsDomain_request (domainName description : String) (vector : Embedding) :
    AddsDomain domainName (createNodeStatement
      (DomainArchitectStep.domainRequest domainName description).labels
      ((DomainArchitectStep.domainRequest domainName description).stored vector)) :=
  ⟨_, rfl, fun _ => rfl⟩

theorem emitsOnce_architect (context : AgentContext) :
    EmitsOnce KeepsDomains (AddsDomain context.domainName) (fun _ => True)
      (DomainArchitectStep.execute codec tables context) := by
  refine EmitsOnce.send_bind trivial ?_
  refine (emitsOnce_createNode codec (addsDomain_request _ _)).mapErr.mapErr.bind fun domain => ?_
  refine Emits.send_bind trivial ?_
  refine Calls.bind (DomainArchitectStep.emits_queueAvatarGeneration tables (fun _ _ => trivial)
    _ _) fun _ => ?_
  refine Emits.send_bind trivial ?_
  refine Calls.foldlM _ (fun context info _ => ?_) _
  exact DomainArchitectStep.emits_createLevel codec (keepsDomains_create (by decide))
    (fun _ _ => keepsDomains_merge _) (fun _ => trivial) _ context info

theorem emits_executeAgent {agent : AgentType} (h : agent ≠ .domainArchitect)
    (context : AgentContext) :
    Emits KeepsDomains (fun _ => True) (executeAgent codec tables agent context) := by
  cases agent with
  | domainArchitect => exact absurd rfl h
  | knowledgeGenerator =>
      have hlabel : knowledgeKind.label ≠ "Domain" := by decide
      exact GeneratorKind.emits_execute codec (keepsDomains_create hlabel)
        (fun _ _ => keepsDomains_merge _) (fun _ => trivial) context
  | skillGenerator =>
      have hlabel : skillKind.label ≠ "Domain" := by decide
      exact GeneratorKind.emits_execute codec (keepsDomains_create hlabel)
        (fun _ _ => keepsDomains_merge _) (fun _ => trivial) context
  | traitGenerator =>
      exact TraitGeneratorStep.emits_execute codec (keepsDomains_create (by decide))
        (fun _ => trivial) context
  | milestoneGenerator =>
      exact MilestoneGeneratorStep.emits_execute codec (keepsDomains_create (by decide))
        (fun _ => trivial) context
  | levelDistributor =>
      exact LevelDistributorStep.emits_execute codec keepsDomains_merge (fun _ _ => trivial) context
  | prerequisiteMapper =>
      exact PrerequisiteMapperStep.emits_execute codec keepsDomains_merge (fun _ _ => trivial) context

theorem emitsOnce_runWorkflow (domainName : String) (description : Option String) :
    EmitsOnce KeepsDomains (AddsDomain domainName) (fun _ => True)
      (runWorkflow codec tables domainName description) := by
  refine EmitsOnce.send_bind trivial ?_
  refine CallsOnce.bind (CallsOnce.foldlM_cons ?_ fun acc agent hagent => ?_) fun acc => ?_
  · rw [runAgent_eq]
    refine EmitsOnce.send_bind trivial ?_
    exact (emitsOnce_architect codec tables _).attempt.bind (emits_afterAgent (fun _ _ => trivial) _ _)
  · have hrest : agent.1 ≠ .domainArchitect := by
      rintro heq
      have hmem := List.mem_map_of_mem (f := Prod.fst) hagent
      rw [heq] at hmem
      revert hmem
      decide
    rw [runAgent_eq]
    refine Emits.send_bind trivial ?_
    exact (emits_executeAgent codec tables hrest _).attempt.bind (emits_afterAgent (fun _ _ => trivial) _ _)
  · exact Emits.send_bind trivial trivial

theorem emits_checkDomainExists (domainName : String) :
    Emits (fun _ => False) (fun _ => True) (checkDomainExists domainName) :=
  (emits_similarTo _ _ _).bind fun _ => trivial

theorem distinctNames_generateDomain (domainName : String) (description : Option String)
    (hw : DistinctNames w.graph)
    (hcheck : NameTaken w.graph domainName → ¬ PassesCheck env w.clock) :
    DistinctNames (env.exec (generateDomain codec tables domainName description) w).state.graph := by
  have hgraph : (env.exec (checkDomainExists domainName) w).state.graph = w.graph :=
    (emits_checkDomainExists domainName).maintains (P := fun g => g = w.graph)
      (fun q g hq => hq.elim) env w rfl
  obtain ⟨-, -, hcases⟩ := exec_checkDomainExists env w domainName
  rw [generateDomain, exec_bind]
  rcases hcases with ⟨hpass, hexit⟩ | ⟨-, ⟨name, hexit⟩ | ⟨error, hexit⟩⟩
  · rw [Execution.state_andThen hexit]
    refine distinctNames_emitsOnce (emitsOnce_runWorkflow codec tables domainName description) env _ ?_
    rw [hgraph]
    exact ⟨hw, fun htaken => hcheck htaken hpass⟩
  · rw [Execution.state_andThen hexit]
    change DistinctNames (env.exec (checkDomainExists domainName) w).state.graph
    rw [hgraph]
    exact hw
  · rw [Execution.state_andThen_err hexit, hgraph]
    exact hw

section Async

open AsyncGeneration

variable (async : AsyncEnv) (asyncCodec : AsyncCodec) (request : GenerateDomainRequest)

/-- The endpoint's program changes the graph by its database statements alone. -/
abbrev AsyncEmits {ε α : Type} (p : Async ε α) : Prop :=
  Calls (I := (services Empty AsyncPrompt).plus asyncCalls)
    (Sum.elim (Emission KeepsDomains (fun _ => True)) (fun _ => True)) p

abbrev AsyncEmitsOnce {ε α : Type} (name : String) (p : Async ε α) : Prop :=
  CallsOnce (I := (services Empty AsyncPrompt).plus asyncCalls)
    (Sum.elim (Emission KeepsDomains (fun _ => True)) (fun _ => True))
    (Sum.elim (Executes (AddsDomain name)) (fun _ => False)) p

theorem emitsOnce_createDomainAndLevels (domainName : String) (description : Option String) :
    EmitsOnce KeepsDomains (AddsDomain domainName) (fun _ => True)
      (createDomainAndLevels codec domainName description) := by
  refine (emitsOnce_createNode codec (addsDomain_request _ _)).bind fun domain => ?_
  refine Calls.bind (Calls.foldlM _ (fun levels entry _ => ?_) _) fun _ => trivial
  refine Calls.bind (emits_createNode codec (keepsDomains_create (by decide))) fun level => ?_
  exact (emits_createRelationship (keepsDomains_merge _)).bind fun _ => trivial

theorem asyncEmits_queueConcepts {ε : Type} (generation : Generation)
    (concepts : ConceptualizedDomain) :
    AsyncEmits (queueConcepts generation concepts : Async ε UInt32) :=
  calls_queueConcepts generation concepts

theorem asyncEmits_conceptualizeAllNodes (domainName : String) (description : Option String) :
    AsyncEmits (conceptualizeAllNodes asyncCodec domainName description) :=
  calls_conceptualizeAllNodes asyncCodec (fun _ => trivial) domainName description

theorem emits_queueAvatar {ε : Type} (domainName : String) (domainElementId : ElementId) :
    Emits KeepsDomains (fun _ => True)
      (queueAvatar tables domainName domainElementId : Service Empty AsyncPrompt ε Unit) := by
  refine (Calls.perform trivial).bind fun configured => ?_
  cases configured with
  | false => trivial
  | true => exact (Calls.perform trivial).bind fun _ => trivial

theorem emitsOnce_startGeneration :
    AsyncEmitsOnce request.domainName (startGeneration asyncCodec tables request) := by
  refine CallsOnce.after (Calls.perform trivial) fun nanos => ?_
  refine CallsOnce.bind (CallsOnce.mapErr (CallsOnce.extend ?_)) fun created => ?_
  · exact emitsOnce_createDomainAndLevels _ _ _
  · refine Calls.bind (Calls.extend (emits_queueAvatar tables _ _)) fun _ => ?_
    refine Calls.bind (asyncEmits_conceptualizeAllNodes _ _ _).mapErr fun concepts => ?_
    exact (asyncEmits_queueConcepts _ _).bind fun _ => trivial

theorem distinctNames_startGeneration (g : Graph) (clock : Nat) (hg : NameFresh request.domainName g) :
    DistinctNames ((startGeneration asyncCodec tables request).run
      (env.handler.plus async.handler) (World.start g, clock)).state.1.graph := by
  refine (emitsOnce_startGeneration tables asyncCodec request).run_invariant
    (P := fun s : World × Nat => NameFresh request.domainName s.1.graph)
    (Q := fun s : World × Nat => DistinctNames s.1.graph) (fun s hs => hs.1) (fun o s ho => ?_)
    (fun o s ho => ?_) (fun o s ho => ?_) hg
  · cases o with
    | inl o =>
        refine handler_graph env (fun _ => id) o (fun q hq g => ?_) s.1
        subst hq
        exact KeepsDomains.nameFresh ho
    | inr o => exact id
  · cases o with
    | inl o =>
        refine handler_graph env (fun _ => id) o (fun q hq g => ?_) s.1
        subst hq
        exact KeepsDomains.distinctNames ho
    | inr o => exact id
  · cases o with
    | inl o =>
        refine handler_graph env (fun _ hg => hg.1) o (fun q hq g => ?_) s.1
        subst hq
        exact AddsDomain.distinctNames ho
    | inr o => exact ho.elim

theorem distinctNames_generateDomainAsync (g : Graph) (hg : DistinctNames g)
    (hcheck : NameTaken g request.domainName →
      request.isValid = false ∨ async.nodeQueueConfigured = false) :
    DistinctNames
      (execAsync env async (generateDomainAsync asyncCodec tables request) g).state.1.graph := by
  rw [generateDomainAsync]
  cases hvalid : request.isValid with
  | false => exact hg
  | true =>
      rw [Bool.not_true, if_neg Bool.false_ne_true]
      cases hqueue : async.nodeQueueConfigured with
      | false =>
          rw [execAsync, Proc.run_bind]
          change DistinctNames ((ite (async.nodeQueueConfigured = true) _ _ : Async _ _).run _
            (World.start g, 1)).state.1.graph
          rw [hqueue, if_neg Bool.false_ne_true]
          exact hg
      | true =>
          have hfree : ¬ NameTaken g request.domainName := fun htaken => by
            rcases hcheck htaken with h | h
            · rw [hvalid] at h
              cases h
            · rw [hqueue] at h
              cases h
          rw [execAsync, Proc.run_bind]
          change DistinctNames ((ite (async.nodeQueueConfigured = true) _ _ : Async _ _).run _
            (World.start g, 1)).state.1.graph
          rw [hqueue, if_pos rfl]
          exact distinctNames_startGeneration env tables async asyncCodec request g 1 ⟨hg, hfree⟩

end Async

end Agents

section Run

open Agent

/-- What creates or names a domain, each with its arguments and with the answers
of the outside world while it runs. -/
inductive DomainWriter
  | createDomain (env : Env) (request : CreateDomainRequest)
  | updateDomain (env : Env) (request : UpdateDomainRequest)
  | generateDomain (env : Env) (codec : Codec) (tables : DomainArchitectStep.CharTables)
      (domainName : String) (description : Option String)
  | generateDomainAsync (env : Env) (async : AsyncEnv) (codec : AsyncCodec)
      (tables : DomainArchitectStep.CharTables) (request : GenerateDomainRequest)

namespace DomainWriter

def run : DomainWriter → Graph → Graph
  | createDomain env request, g =>
      (env.exec (GraphApi.createDomain request) (World.start g)).state.graph
  | updateDomain env request, g =>
      (env.exec (GraphApi.updateDomain request) (World.start g)).state.graph
  | generateDomain env codec tables domainName description, g =>
      (env.exec (Agent.generateDomain codec tables domainName description)
        (World.start g)).state.graph
  | generateDomainAsync env async codec tables request, g =>
      (execAsync env async (AsyncGeneration.generateDomainAsync codec tables request) g).state.1.graph

def AsksFreeName : DomainWriter → Graph → Prop
  | createDomain env request, g =>
      NameTaken g request.domain.name → ∀ applied e, env.outcome 0 ≠ .cut applied 0 e
  | updateDomain _ request, g =>
      WellFormed request.domain request.levels →
        Reserved request.domainElementId request.domain.name g
  | generateDomain env _ _ domainName _, g => NameTaken g domainName → ¬ PassesCheck env 0
  | generateDomainAsync _ async _ _ request, g =>
      NameTaken g request.domainName →
        request.isValid = false ∨ async.nodeQueueConfigured = false

theorem distinctNames_run (writer : DomainWriter) (g : Graph) (hasks : writer.AsksFreeName g)
    (hg : DistinctNames g) : DistinctNames (writer.run g) := by
  cases writer with
  | createDomain env request => exact distinctNames_createDomain env _ request hg hasks
  | updateDomain env request => exact distinctNames_updateDomain env _ request hg hasks
  | generateDomain env codec tables domainName description =>
      exact distinctNames_generateDomain env _ codec tables domainName description hg hasks
  | generateDomainAsync env async codec tables request =>
      exact distinctNames_generateDomainAsync env tables async codec request g hg hasks

end DomainWriter

/-- As long as every writer asks for a free name, or is stopped by its guard, no
two domains have the same name and `get_domain` finds one at most. -/
theorem distinctNames_along (writers : List DomainWriter) (g : Graph) (hg : DistinctNames g)
    (hasks : ∀ k (writer : DomainWriter), writers[k]? = some writer →
      writer.AsksFreeName (stateAt DomainWriter.run writers g k)) (k : Nat) :
    DistinctNames (stateAt DomainWriter.run writers g k) ∧
      ∀ name, (getDomainStatement name (stateAt DomainWriter.run writers g k)).1.length ≤ 1 := by
  have hdistinct : DistinctNames (stateAt DomainWriter.run writers g k) :=
    holds_along (C := DomainWriter.AsksFreeName) DomainWriter.distinctNames_run hg hasks k
  exact ⟨hdistinct, hdistinct.getDomain⟩

def plainTables : DomainArchitectStep.CharTables := ⟨id, fun _ => true⟩

def emptyCodec : AsyncCodec where
  value := fun _ => .error "expected value"
  strings := fun _ => .error "expected value"
  float := fun _ => ""
  concepts := fun _ => .ok ⟨[], [], [], []⟩
  violations := fun _ => ""

def readyQueue : AsyncEnv where
  now := fun _ => 0
  nodeQueueConfigured := true
  provider := fun _ => .ok ()
  nodeQueue := fun _ => .ok ()

def createChess : DomainWriter :=
  .createDomain Env.calm ⟨⟨"Chess", ""⟩, [⟨1, "Chess Novice", none, 100, ⟨[], [], [], []⟩⟩]⟩

def updateChess : DomainWriter :=
  .updateDomain Env.calm
    ⟨candidateId 0, ⟨"Xiangqi", ""⟩, [⟨1, "Xiangqi Novice", none, 100, ⟨[], [], [], []⟩⟩], []⟩

/-- The existence check finds a domain that is similar enough. -/
def generateXiangqi : DomainWriter :=
  .generateDomain
    { Env.calm with similar := fun _ => .ok [⟨some "Xiangqi", none, some (candidateId 0), some 1⟩] }
    emptyCodec.toCodec plainTables "Xiangqi" none

def generateAsync (domainName : String) : DomainWriter :=
  .generateDomainAsync Env.calm readyQueue emptyCodec plainTables ⟨domainName, none⟩

theorem distinctNames_chess : DistinctNames emptyGraph ∧ ∀ k,
    DistinctNames (stateAt DomainWriter.run
      [createChess, updateChess, generateXiangqi, generateAsync "Go"] emptyGraph k) ∧
      ∀ name, (getDomainStatement name (stateAt DomainWriter.run
        [createChess, updateChess, generateXiangqi, generateAsync "Go"] emptyGraph k)).1.length ≤ 1 := by
  have hstart : DistinctNames emptyGraph := fun d hd => absurd hd List.not_mem_nil
  refine ⟨hstart, distinctNames_along _ _ hstart fun k writer hwriter => ?_⟩
  rcases k with _ | _ | _ | _ | k
  · obtain rfl := Option.some.inj hwriter
    rintro - applied e ⟨⟩
  · obtain rfl := Option.some.inj hwriter
    rintro -
    unfold Reserved
    decide +kernel
  · obtain rfl := Option.some.inj hwriter
    rintro - ⟨vector, rows, -, hrows, hlow⟩
    obtain rfl := Except.ok.inj hrows
    have hscore := hlow _ rfl
    revert hscore
    decide +kernel
  · obtain rfl := Option.some.inj hwriter
    intro htaken
    revert htaken
    unfold NameTaken
    decide +kernel
  · cases hwriter

theorem chess_generated_twice :
    ¬ ∀ (writers : List DomainWriter) (g : Graph), DistinctNames g → ∀ k,
      DistinctNames (stateAt DomainWriter.run writers g k) ∧
        ∀ name, (getDomainStatement name (stateAt DomainWriter.run writers g k)).1.length ≤ 1 := by
  intro h
  have hone := (h [generateAsync "Chess", generateAsync "Chess"] emptyGraph
    (fun d hd => absurd hd List.not_mem_nil) 2).2 "Chess"
  have htwo : (getDomainStatement "Chess" (stateAt DomainWriter.run
      [generateAsync "Chess", generateAsync "Chess"] emptyGraph 2)).1.length = 2 := by
    rw [getDomainStatement, List.length_map]
    decide +kernel
  omega

end Run

end AtlasOfUs
