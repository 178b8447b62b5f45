import AtlasOfUs.Agent.Emissions
import AtlasOfUs.Agent.Relationships
import AtlasOfUs.Agent.ReuseDecisions
import AtlasOfUs.GraphApi.DomainStatements
import AtlasOfUs.Library.GraphInvariants
import AtlasOfUs.Library.Machine
import AtlasOfUs.Worker.Redelivery
import AtlasOfUs.Worker.Emissions

namespace AtlasOfUs

open Library

def thresholdKey (type : String) : Option String :=
  [("REQUIRES_KNOWLEDGE", "bloom_level"), ("REQUIRES_SKILL", "dreyfus_level"),
    ("REQUIRES_TRAIT", "min_score")].lookup type

def HasThreshold (e : Edge) : Prop := ∀ key ∈ thresholdKey e.type, (e.props key).isSome = true

/-- Every requirement of a level carries its threshold. -/
def Graded (g : Graph) : Prop := g.EdgesLeaving "Domain_Level" HasThreshold

theorem hasThreshold_of_none {type : String} (h : thresholdKey type = none) (id s t : ElementId)
    (props : Props) : HasThreshold ⟨id, type, s, t, props⟩ := by
  intro key hkey
  rw [h] at hkey
  cases hkey

theorem hasThreshold_of_key {type key : String} (h : thresholdKey type = some key)
    (id s t : ElementId) {props : Props} (hprop : (props key).isSome = true) :
    HasThreshold ⟨id, type, s, t, props⟩ := by
  intro key' hkey
  rw [h, Option.mem_some] at hkey
  rwa [← hkey]

theorem thresholdKey_knowledge : thresholdKey "REQUIRES_KNOWLEDGE" = some "bloom_level" := by decide

theorem thresholdKey_skill : thresholdKey "REQUIRES_SKILL" = some "dreyfus_level" := by decide

theorem thresholdKey_trait : thresholdKey "REQUIRES_TRAIT" = some "min_score" := by decide

theorem thresholdKey_milestone : thresholdKey "REQUIRES_MILESTONE" = none := by decide

section DomainService

open GraphApi

theorem hasThreshold_entry {requirements : LevelRequirements} {r : Requirement}
    (h : r ∈ requirements.entries) (id s t : ElementId) :
    HasThreshold ⟨id, r.relType, s, t, Properties.toProps r.properties⟩ := by
  simp only [LevelRequirements.entries, List.mem_append, List.mem_map] at h
  rcases h with ((⟨k, -, rfl⟩ | ⟨k, -, rfl⟩) | ⟨k, -, rfl⟩) | ⟨k, -, rfl⟩
  · exact hasThreshold_of_key thresholdKey_knowledge id s t rfl
  · exact hasThreshold_of_key thresholdKey_skill id s t rfl
  · exact hasThreshold_of_key thresholdKey_trait id s t rfl
  · exact hasThreshold_of_none thresholdKey_milestone id s t _

theorem graded_storeStatement {q : Statement} (hq : StoreStatement q) {g : Graph} (hg : Graded g) :
    Graded (q g).2 := by
  cases hq with
  | level domainId level =>
      unfold createLevelStatement
      split
      · exact (hg.createNode _ _).createEdge fun _ => hasThreshold_of_none (by decide) _ _ _ _
      · exact hg
  | requirement h =>
      cases h with
      | component hr hd =>
          unfold mergeComponentStatement
          split
          · exact hg.createNode _ _
          · exact hg
      | link hr nodeId =>
          unfold linkStatement
          split
          · exact hg.createEdge fun _ => hasThreshold_entry hr _ _ _
          · exact hg

theorem graded_createDomain (env : Env) (request : CreateDomainRequest) (w : World)
    (hw : Graded w.graph) : Graded (env.exec (createDomain request) w).state.graph := by
  refine (runs_createDomain request).maintains (fun q g hq hg => ?_) env w hw
  cases hq with
  | check => exact hg
  | create => exact hg.createNode _ _
  | store h => exact graded_storeStatement h hg

theorem graded_updateDomain (env : Env) (request : UpdateDomainRequest) (w : World)
    (hw : Graded w.graph) : Graded (env.exec (updateDomain request) w).state.graph := by
  refine (runs_updateDomain request).maintains (fun q g hq hg => ?_) env w hw
  cases hq with
  | verify => exact hg
  | deleteProgress => exact hg.deleteEdges _
  | update => exact hg.setNodes _ _
  | deleteLevels => exact hg.detachDelete _
  | store h => exact graded_storeStatement h hg

end DomainService

section Distributor

open Agent Agent.LevelDistributorStep GraphApi

def Agent.LevelDistributorStep.LevelAssignment.isGraded (a : LevelAssignment) : Bool :=
  match a.proficiency with
  | some proficiency =>
      a.componentType ≠ "Trait" || (Text.parseI64 proficiency).isSome
  | none => a.componentType = "Milestone"

def Agent.LevelDistributorStep.LevelAssignment.isLinked (a : LevelAssignment) (g : Graph) : Bool :=
  g.edges.any (fun e => requiresType a.componentType = some e.type && e.source = a.levelId &&
    e.target = a.componentId)

/-- The reply for each type of component, of which there is one call after each
event, assigns no component without its threshold to a level that does not
require it already. -/
def DistributesGraded (codec : Codec) (env : Env) (context : AgentContext) (w : World) : Prop :=
  ∀ i componentType, ["Knowledge", "Skill", "Trait", "Milestone"][i]? = some componentType →
    ∀ response assignments, env.llm (w.clock + 2 * i + 1) = .ok response →
      parseLevelAssignments codec response context componentType = .ok assignments →
      ∀ a ∈ assignments,
        a.isGraded = true ∨ a.isLinked w.graph = true

variable (codec : Codec) (context : AgentContext) (env : Env)

theorem exec_analyzeType (componentType : String) (w : World) :
    (env.exec (analyzeType codec context componentType) w).state = w.tick.tick ∧
      ∀ assignments, (env.exec (analyzeType codec context componentType) w).exit = .ok assignments →
        ∃ response, env.llm (w.clock + 1) = .ok response ∧
          parseLevelAssignments codec response context componentType = .ok assignments := by
  obtain ⟨hstate, hexit⟩ := exec_ask env
    (.levelAssignment context.domainName (buildContextForType context componentType))
    (fun response => parseLevelAssignments codec response context componentType) w.tick
  rw [analyzeType, exec_bind, exec_send, Execution.andThen_ok]
  exact ⟨hstate, fun assignments h => (hexit assignments).1 h⟩

theorem exec_mapM_analyzeType (types : List String) (w : World) :
    (env.exec (types.mapM (analyzeType codec context)) w).state.graph = w.graph ∧
      ∀ lists, (env.exec (types.mapM (analyzeType codec context)) w).exit = .ok lists →
        ∀ a ∈ lists.flatten, ∃ i componentType response assignments,
          types[i]? = some componentType ∧ env.llm (w.clock + 2 * i + 1) = .ok response ∧
          parseLevelAssignments codec response context componentType = .ok assignments ∧
          a ∈ assignments := by
  induction types generalizing w with
  | nil =>
      refine ⟨rfl, fun lists h a ha => ?_⟩
      obtain rfl := Exit.ok.inj h
      cases ha
  | cons type types ih =>
      obtain ⟨hstate, hexit⟩ := exec_analyzeType codec context env type w
      obtain ⟨hgraph, hrest⟩ := ih w.tick.tick
      rw [List.mapM_cons, exec_bind]
      cases hhead : (env.exec (analyzeType codec context type) w).exit with
      | err e =>
          rw [Execution.state_andThen_err hhead, Execution.exit_andThen_err hhead, hstate]
          exact ⟨rfl, fun lists h => by cases h⟩
      | panicked =>
          rw [Execution.andThen, hhead, hstate]
          exact ⟨rfl, fun lists h => by cases h⟩
      | ok assignments =>
          rw [Execution.state_andThen hhead, Execution.exit_andThen hhead, hstate, exec_bind]
          cases htail : (env.exec (types.mapM (analyzeType codec context)) w.tick.tick).exit with
          | err e =>
              rw [Execution.state_andThen_err htail, Execution.exit_andThen_err htail]
              exact ⟨hgraph, fun lists h => by cases h⟩
          | panicked =>
              rw [Execution.andThen, htail]
              exact ⟨hgraph, fun lists h => by cases h⟩
          | ok tail =>
              rw [Execution.state_andThen htail, Execution.exit_andThen htail]
              refine ⟨hgraph, fun lists h a ha => ?_⟩
              obtain rfl := Exit.ok.inj h
              rw [List.flatten_cons, List.mem_append] at ha
              rcases ha with ha | ha
              · obtain ⟨response, hreply, hparse⟩ := hexit assignments hhead
                exact ⟨0, type, response, assignments, rfl, hreply, hparse, ha⟩
              · obtain ⟨i, type', response, assignments', htype, hreply, hparse, ha⟩ :=
                  hrest tail htail a ha
                refine ⟨i + 1, type', response, assignments', htype, ?_, hparse, ha⟩
                have hclock : w.clock + 2 * (i + 1) + 1 = w.clock + 1 + 1 + 2 * i + 1 := by omega
                rw [hclock]
                exact hreply

theorem requiresType_eq_some {componentType relType : String}
    (h : requiresType componentType = some relType) :
    (componentType = "Knowledge" ∧ relType = "REQUIRES_KNOWLEDGE") ∨
      (componentType = "Skill" ∧ relType = "REQUIRES_SKILL") ∨
      (componentType = "Trait" ∧ relType = "REQUIRES_TRAIT") ∨
      (componentType = "Milestone" ∧ relType = "REQUIRES_MILESTONE") := by
  rw [requiresType] at h
  grind

theorem hasThreshold_setAll {a : LevelAssignment} {relType : String}
    (htype : requiresType a.componentType = some relType) (ha : a.isGraded = true)
    (id s t : ElementId) (props : Props) :
    HasThreshold ⟨id, relType, s, t,
      setAll ((a.proficiency.map (proficiencyProps a.componentType)).getD []) props⟩ := by
  rw [LevelAssignment.isGraded] at ha
  rcases requiresType_eq_some htype with ⟨hcomponent, rfl⟩ | ⟨hcomponent, rfl⟩ |
    ⟨hcomponent, rfl⟩ | ⟨hcomponent, rfl⟩
  · cases hp : a.proficiency with
    | none => simp [hp, hcomponent] at ha
    | some proficiency =>
        rw [hcomponent]
        exact hasThreshold_of_key thresholdKey_knowledge id s t rfl
  · cases hp : a.proficiency with
    | none => simp [hp, hcomponent] at ha
    | some proficiency =>
        rw [hcomponent]
        exact hasThreshold_of_key thresholdKey_skill id s t rfl
  · cases hp : a.proficiency with
    | none => simp [hp, hcomponent] at ha
    | some proficiency =>
        simp only [hp, hcomponent, ne_eq, not_true_eq_false, decide_false, Bool.false_or,
          Option.isSome_iff_exists] at ha
        obtain ⟨score, hscore⟩ := ha
        have hprops : proficiencyProps "Trait" proficiency = [("min_score", .int score)] := by
          simp [proficiencyProps, hscore]
        rw [hcomponent, Option.map_some, Option.getD_some, hprops]
        exact hasThreshold_of_key thresholdKey_trait id s t rfl
  · exact hasThreshold_of_none thresholdKey_milestone id s t _

theorem HasThreshold.setAll {e : Edge} (h : HasThreshold e) (properties : Properties) :
    HasThreshold { e with props := GraphApi.setAll properties e.props } := by
  intro key hkey
  have hkept := h key hkey
  change ((properties.lookup key).orElse (fun _ => e.props key)).isSome = true
  cases properties.lookup key with
  | none => exact hkept
  | some value => rfl

theorem isLinked_iff {g : Graph} {a : LevelAssignment} :
    a.isLinked g = true ↔ ∃ e ∈ g.edges,
      requiresType a.componentType = some e.type ∧ e.source = a.levelId ∧
        e.target = a.componentId := by
  simp [LevelAssignment.isLinked, and_assoc]

/-- A level requires what it required, and so the statement for a component that
it requires creates no edge. -/
def StaysGraded (g₀ g : Graph) : Prop :=
  Graded g ∧ ∀ a : LevelAssignment, a.isLinked g₀ = true → a.isLinked g = true

theorem isLinked_mergeEdge {g : Graph} {type : String} {s t : ElementId} {f : Props → Props}
    {a : LevelAssignment} (h : a.isLinked g = true) :
    a.isLinked (g.mergeEdge type s t f) = true := by
  obtain ⟨e, he, htype, hsource, htarget⟩ := isLinked_iff.1 h
  rw [isLinked_iff, Graph.mergeEdge]
  split
  · by_cases hp : Edge.between type s t e = true
    · exact ⟨{ e with props := f e.props }, Graph.mem_setEdges.2 (.inr ⟨e, he, hp, rfl⟩), htype,
        hsource, htarget⟩
    · exact ⟨e, Graph.mem_setEdges.2 (.inl ⟨he, Bool.eq_false_iff.2 hp⟩), htype, hsource, htarget⟩
  · refine ⟨e, ?_, htype, hsource, htarget⟩
    rw [Graph.createEdge_edges]
    split
    · exact List.mem_append_left _ he
    · exact he

theorem staysGraded_merge {g₀ : Graph} {a : LevelAssignment}
    {relType : String} (htype : requiresType a.componentType = some relType) {g : Graph}
    (hg : StaysGraded g₀ g)
    (ha : a.isGraded = true ∨ a.isLinked g₀ = true) :
    StaysGraded g₀ (g.mergeEdge relType a.levelId a.componentId
      (setAll ((a.proficiency.map (proficiencyProps a.componentType)).getD []))) := by
  refine ⟨hg.1.mergeEdge (fun e he => he.setAll _) fun hany => ?_,
    fun b hb => isLinked_mergeEdge (hg.2 b hb)⟩
  rcases ha with ha | ha
  · exact hasThreshold_setAll htype ha _ _ _ _
  · obtain ⟨e, he, htype', hsource, htarget⟩ := isLinked_iff.1 (hg.2 a ha)
    have hrel : relType = e.type := Option.some.inj (htype.symm.trans htype')
    have hbetween : Edge.between relType a.levelId a.componentId e = true := by
      simp [Edge.between, hrel, hsource, htarget]
    exact absurd hbetween (Bool.not_eq_true _ ▸ List.any_eq_false.1 hany e he)

theorem proficiencyProps_ids (componentType proficiency : String) :
    (proficiencyProps componentType proficiency).lookup "sourceId" = none ∧
      (proficiencyProps componentType proficiency).lookup "targetId" = none := by
  rw [proficiencyProps]
  grind

theorem boundId_proficiency (a : LevelAssignment) (given : ElementId) :
    boundId ((a.proficiency.map (proficiencyProps a.componentType)).getD []) "sourceId" given =
        some given ∧
      boundId ((a.proficiency.map (proficiencyProps a.componentType)).getD []) "targetId" given =
        some given := by
  cases a.proficiency with
  | none => exact ⟨rfl, rfl⟩
  | some proficiency =>
      obtain ⟨hsource, htarget⟩ := proficiencyProps_ids a.componentType proficiency
      rw [Option.map_some, Option.getD_some, boundId, boundId, hsource, htarget]
      exact ⟨rfl, rfl⟩

theorem emits_createLevelRelationship {g₀ : Graph} (acc : Nat × AgentContext)
    {a : LevelAssignment}
    (ha : a.isGraded = true ∨ a.isLinked g₀ = true) :
    Emits (fun q => ∀ g, StaysGraded g₀ g → StaysGraded g₀ (q g).2) (fun _ => True)
      (createLevelRelationship acc a) := by
  unfold createLevelRelationship
  split
  · trivial
  · next relType htype =>
      refine (emits_createRelationship fun g hg => ?_).attempt.bind fun result => ?_
      · have hprops : (if ((a.proficiency.map (proficiencyProps a.componentType)).getD []).isEmpty
            then none else some ((a.proficiency.map (proficiencyProps a.componentType)).getD [])).getD
              [] = (a.proficiency.map (proficiencyProps a.componentType)).getD [] := by
          cases (a.proficiency.map (proficiencyProps a.componentType)).getD [] <;> rfl
        rw [CreateRelationshipRequest.statement, hprops, (boundId_proficiency a a.levelId).1,
          (boundId_proficiency a a.componentId).2]
        exact staysGraded_merge htype hg ha
      · cases result <;> trivial

theorem exec_analyzeLevelAssignments (w : World)
    (hcond : DistributesGraded codec env context w) :
    (env.exec (analyzeLevelAssignments codec context) w).state.graph = w.graph ∧
      ∀ assignments, (env.exec (analyzeLevelAssignments codec context) w).exit = .ok assignments →
        ∀ a ∈ assignments, a.isGraded = true ∨ a.isLinked w.graph = true := by
  obtain ⟨hgraph, hreplies⟩ :=
    exec_mapM_analyzeType codec context env ["Knowledge", "Skill", "Trait", "Milestone"] w
  rw [analyzeLevelAssignments, exec_bind]
  cases hlists : (env.exec (["Knowledge", "Skill", "Trait", "Milestone"].mapM
      (analyzeType codec context)) w).exit with
  | err e =>
      rw [Execution.state_andThen_err hlists, Execution.exit_andThen_err hlists]
      exact ⟨hgraph, fun assignments h => by cases h⟩
  | panicked =>
      rw [Execution.andThen, hlists]
      exact ⟨hgraph, fun assignments h => by cases h⟩
  | ok lists =>
      rw [Execution.state_andThen hlists, Execution.exit_andThen hlists]
      refine ⟨hgraph, fun assignments h a ha => ?_⟩
      obtain rfl := Exit.ok.inj h
      obtain ⟨i, type, response, parsed, htype, hreply, hparse, ha⟩ := hreplies lists hlists a ha
      exact hcond i type htype response parsed hreply hparse a ha

theorem graded_distribute (w : World) (hcond : DistributesGraded codec env context w)
    (hw : Graded w.graph) :
    Graded (env.exec (LevelDistributorStep.execute codec context) w).state.graph := by
  obtain ⟨hgraph, hassigned⟩ := exec_analyzeLevelAssignments codec context env w hcond
  rw [LevelDistributorStep.execute, exec_bind, Step.failingIn, exec_mapErr]
  cases hexit : (env.exec (analyzeLevelAssignments codec context) w).exit with
  | err e => exact hgraph ▸ hw
  | panicked => exact hgraph ▸ hw
  | ok assignments =>
      have hstart : StaysGraded w.graph
          (env.exec (analyzeLevelAssignments codec context) w).state.graph := by
        rw [hgraph]
        exact ⟨hw, fun a ha => ha⟩
      have hkeeps : ∀ p : ContextStep AgentContext,
          Emits (fun q => ∀ g, StaysGraded w.graph g → StaysGraded w.graph (q g).2)
            (fun _ => True) p →
          StaysGraded w.graph (env.exec p
            (env.exec (analyzeLevelAssignments codec context) w).state).state.graph :=
        fun p hp => hp.maintains (fun q g hq => hq g) env _ hstart
      refine (hkeeps _ (Emits.send_bind trivial (Emits.send_bind trivial ?_))).1
      refine Calls.bind (Calls.mapErr (Calls.foldlM assignments (fun acc a ha =>
        emits_createLevelRelationship acc (hassigned assignments hexit a ha)) _)) fun result => ?_
      exact Emits.send_bind trivial trivial

end Distributor

section Worker

open Worker

def IsLevel (g : Graph) (id : ElementId) : Prop :=
  ∃ n ∈ g.nodes, n.id = id ∧ n.hasLabel "Domain_Level" = true

def Worker.NodeGenerationJob.LinksGraded (job : NodeGenerationJob) (g : Graph) : Prop :=
  job.nodeType = .milestone ∨ ∀ level ∈ job.assignedLevel, ¬ IsLevel g level.elementId

def NoNewLevel (g₀ g : Graph) : Prop := Graded g ∧ ∀ id, IsLevel g id → IsLevel g₀ id

theorem NoNewLevel.createEdge {g₀ g : Graph} (h : NoNewLevel g₀ g) {type : String}
    {s t : ElementId} (hnew : IsLevel g s → HasThreshold ⟨g.freshId, type, s, t, Props.empty⟩) :
    NoNewLevel g₀ (g.createEdge type s t Props.empty) := by
  refine ⟨h.1.createEdge hnew, fun id hid => h.2 id ?_⟩
  rwa [IsLevel, Graph.createEdge_nodes] at hid

theorem noNewLevel_jobStatement {job : NodeGenerationJob} {g₀ : Graph} (hjob : job.LinksGraded g₀)
    {q : Statement} (hq : JobStatement job q) {g : Graph} (hg : NoNewLevel g₀ g) :
    NoNewLevel g₀ (q g).2 := by
  cases hq with
  | create name props =>
      refine ⟨hg.1.createNode _ _, fun id hid => hg.2 id ?_⟩
      obtain ⟨n, hn, hid, hlabel⟩ := hid
      rw [createNodeStatement, Graph.createNode_nodes, List.mem_append, List.mem_singleton] at hn
      rcases hn with hn | rfl
      · exact ⟨n, hn, hid, hlabel⟩
      · exact absurd hlabel (Bool.eq_false_iff.1 (job.nodeType.label_ne_level))
  | generalize source target =>
      exact hg.createEdge fun _ => hasThreshold_of_none (by decide) _ _ _ _
  | assign hlevel nodeId =>
      refine hg.createEdge fun hsource => ?_
      rcases hjob with htype | hnone
      · rw [htype]
        exact hasThreshold_of_none thresholdKey_milestone _ _ _ _
      · exact absurd (hg.2 _ hsource) (hnone _ hlevel)

theorem graded_handleSqsEvent (codec : WorkerCodec) (config : Config) (records : List SqsRecord)
    (env : Env) (w : World)
    (hjobs : ∀ record ∈ records, ∀ job, record.job codec = some job → job.LinksGraded w.graph)
    (hw : Graded w.graph) :
    Graded (env.exec (handleSqsEvent codec config records) w).state.graph := by
  have hemits : Emits _ (fun _ => True) (handleSqsEvent codec config records) :=
    emits_handleSqsEvent codec config records
  refine (hemits.maintains (P := NoNewLevel w.graph) (fun q g hq hg => ?_) env w
    ⟨hw, fun id hid => hid⟩).1
  obtain ⟨record, hrecord, job, hjob, hq⟩ := hq
  exact noNewLevel_jobStatement (hjobs record hrecord job hjob) hq hg

end Worker

section Run

open GraphApi

/-- What writes requirements of levels, each with its arguments and with the
answers of the outside world while it runs. -/
inductive Writer
  | createDomain (env : Env) (request : CreateDomainRequest)
  | updateDomain (env : Env) (request : UpdateDomainRequest)
  | distributeLevels (env : Env) (codec : Codec) (context : Agent.AgentContext)
  | processJobs (env : Env) (codec : Worker.WorkerCodec) (config : Worker.Config)
      (records : List Worker.SqsRecord)

namespace Writer

def run : Writer → Graph → Graph
  | createDomain env request, g =>
      (env.exec (GraphApi.createDomain request) (World.start g)).state.graph
  | updateDomain env request, g =>
      (env.exec (GraphApi.updateDomain request) (World.start g)).state.graph
  | distributeLevels env codec context, g =>
      (env.exec (Agent.LevelDistributorStep.execute codec context) (World.start g)).state.graph
  | processJobs env codec config records, g =>
      (env.exec (Worker.handleSqsEvent codec config records) (World.start g)).state.graph

/-- No requirement without its threshold is asked for. -/
def AsksGraded : Writer → Graph → Prop
  | createDomain _ _, _ | updateDomain _ _, _ => True
  | distributeLevels env codec context, g => DistributesGraded codec env context (World.start g)
  | processJobs _ codec _ records, g =>
      ∀ record ∈ records, ∀ job, record.job codec = some job → job.LinksGraded g

theorem graded_run (writer : Writer) (g : Graph) (hasks : writer.AsksGraded g) (hg : Graded g) :
    Graded (writer.run g) := by
  cases writer with
  | createDomain env request => exact graded_createDomain env request _ hg
  | updateDomain env request => exact graded_updateDomain env request _ hg
  | distributeLevels env codec context => exact graded_distribute codec context env _ hasks hg
  | processJobs env codec config records =>
      exact graded_handleSqsEvent codec config records env _ hasks hg

end Writer

/-- As long as no writer is asked for a requirement without its threshold, every
requirement of a level has one. -/
theorem graded_along (writers : List Writer) (g : Graph) (hg : Graded g)
    (hasks : ∀ k (writer : Writer), writers[k]? = some writer →
      writer.AsksGraded (stateAt Writer.run writers g k)) (k : Nat) :
    Graded (stateAt Writer.run writers g k) :=
  holds_along (C := Writer.AsksGraded) Writer.graded_run hg hasks k

def chessWithOpenings : Graph := Worker.graphWithLevel.createNode ["Knowledge"] Props.empty

def chessContext : Agent.AgentContext where
  domainName := "Chess"
  description := none
  domainGraph :=
    { domainLevels := [.new "Chess Novice" (candidateId 0) "Domain_Level"]
      knowledge := [.new "Openings" (candidateId 1) "Knowledge"] }

def openingsCodec : Codec where
  value := fun _ => .ok (.object [("level_assignments", .array [.object
    [("component", .str "Openings"), ("level", .int 1), ("proficiency", .str "Remember")]])])
  strings := fun _ => .error "expected value"
  float := fun _ => ""

def openingsDistributed : Writer :=
  .distributeLevels { Env.calm with llm := fun _ => .ok "\x7b\x7d" } openingsCodec chessContext

theorem openings_assigned {componentType : String}
    (htype : componentType ∈ ["Knowledge", "Skill", "Trait", "Milestone"]) :
    Agent.LevelDistributorStep.parseLevelAssignments openingsCodec "\x7b\x7d" chessContext
        componentType = .ok [⟨candidateId 0, candidateId 1, "Openings", "Knowledge",
          some "Remember"⟩] ∨
      Agent.LevelDistributorStep.parseLevelAssignments openingsCodec "\x7b\x7d" chessContext
        componentType = .ok [] := by
  simp only [List.mem_cons, List.not_mem_nil, or_false] at htype
  rcases htype with rfl | rfl | rfl | rfl <;> decide +kernel

theorem graded_openings : Graded chessWithOpenings ∧ ∀ k, Graded (stateAt Writer.run
    [openingsDistributed, .processJobs Env.calm Worker.firstGameCodec ⟨some "key"⟩ [⟨some "1"⟩]]
      chessWithOpenings k) := by
  have hstart : Graded chessWithOpenings := fun e he => absurd he List.not_mem_nil
  refine ⟨hstart, graded_along _ _ hstart fun k writer hwriter => ?_⟩
  rcases k with _ | _ | k
  · obtain rfl := Option.some.inj hwriter
    intro i componentType htype response assignments hreply hparse a ha
    obtain rfl := Except.ok.inj hreply
    rcases openings_assigned (List.mem_of_getElem? htype) with hassigned | hassigned
    · rw [hassigned] at hparse
      obtain rfl := Exit.ok.inj hparse
      rw [List.mem_singleton.1 ha]
      exact .inl rfl
    · rw [hassigned] at hparse
      obtain rfl := Exit.ok.inj hparse
      cases ha
  · obtain rfl := Option.some.inj hwriter
    intro record hrecord job hjob
    obtain rfl := List.mem_singleton.1 hrecord
    obtain rfl := Option.some.inj hjob
    exact .inl rfl
  · cases hwriter

/-- The job links a piece of knowledge to a level, as the distributor does, and leaves out the
threshold. -/
def openingsJob : Worker.NodeGenerationJob :=
  { Worker.firstGame with nodeType := .knowledge, nodeName := "Openings" }

def openingsJobCodec : Worker.WorkerCodec :=
  { Worker.firstGameCodec with
    job := fun _ => .ok openingsJob
    knowledge := fun _ => .ok ⟨"Openings", "", "", "", "", "", "", "", ""⟩ }

theorem exists_ungraded {g : Graph} (h : g.edges.any (fun e => e.type = "REQUIRES_KNOWLEDGE" &&
    (e.props "bloom_level").isNone && g.nodes.any (fun n => n.id = e.source &&
      n.hasLabel "Domain_Level")) = true) : ¬ Graded g := by
  intro hg
  obtain ⟨e, he, h⟩ := List.any_eq_true.1 h
  simp only [Bool.and_eq_true, decide_eq_true_eq, List.any_eq_true] at h
  obtain ⟨⟨htype, hnone⟩, hleaves⟩ := h
  have hkey : thresholdKey e.type = some "bloom_level" := htype ▸ thresholdKey_knowledge
  have hsome := hg e he hleaves "bloom_level" hkey
  rw [Option.isNone_iff_eq_none.1 hnone] at hsome
  cases hsome

theorem openings_ungraded :
    ¬ ∀ (writers : List Writer) (g : Graph), Graded g → ∀ k,
      Graded (stateAt Writer.run writers g k) := by
  intro h
  refine exists_ungraded ?_ (h [.processJobs Env.calm openingsJobCodec ⟨some "key"⟩ [⟨some "1"⟩]]
    Worker.graphWithLevel (fun e he => absurd he List.not_mem_nil) 1)
  decide +kernel

end Run

end AtlasOfUs
