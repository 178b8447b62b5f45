import AtlasOfUs.Agent.Confirmations
import AtlasOfUs.Agent.RequirementList
import AtlasOfUs.Numerals

namespace AtlasOfUs.Agent.LevelDistributorStep

open Library Similarity GraphApi

def Scored (g : Graph) (levelId traitId : ElementId) (score : Int) : Prop :=
  g.Holds ("REQUIRES_TRAIT", levelId, traitId) fun props => props "min_score" = some (.int score)

instance (g : Graph) (levelId traitId : ElementId) (score : Int) :
    Decidable (Scored g levelId traitId score) :=
  inferInstanceAs (Decidable (g.Holds _ _))

/-- An assignment as the prompt asks for it, its proficiency apart. -/
def InFormat (assignment : Json) : Prop :=
  ∃ componentName level, strField assignment "component" = some componentName ∧
    assignment.get "level" = some (.int level) ∧ 1 ≤ level ∧ level ≤ 5

/-- The proficiency is this integer, as a number or as a text. -/
def WritesInteger (assignment : Json) (score : Int) : Prop :=
  assignment.get "proficiency" = some (.int score) ∨
    ∃ text : String, assignment.get "proficiency" = some (.str text) ∧ Text.Numeral text.toList score

def Assigns (context : AgentContext) (levelId traitId : ElementId) (assignment : Json) : Prop :=
  ∃ componentName level, strField assignment "component" = some componentName ∧
    (assignment.get "level").bind Json.asI64 = some level ∧
    findElementId context componentName "Trait" = some traitId ∧
    (findLevel context.domainGraph.domainLevels level).map (·.elementId) = some levelId

section Reading

variable {context : AgentContext} {componentType : String} {assignment : Json}
  {levelId traitId : ElementId}

theorem readAssignment_inFormat (h : InFormat assignment) :
    ∃ attached, readAssignment context componentType assignment = .ok attached := by
  obtain ⟨componentName, level, hname, hlevel, hlow, hhigh⟩ := h
  have hread : (assignment.get "level").bind Json.asI64 = some level := by
    rw [hlevel, Option.bind_some, Json.asI64, if_pos]
    omega
  rw [readAssignment, hname, hread, okOr, okOr, Exit.ok_bind, Exit.ok_bind]
  split
  · exact ⟨_, rfl⟩
  · exact ⟨_, rfl⟩

theorem readAssignment_assigns {attached : Option LevelAssignment}
    (hread : readAssignment context "Trait" assignment = .ok attached)
    (h : Assigns context levelId traitId assignment) : ∃ componentName,
      attached = some ⟨levelId, traitId, componentName, "Trait", strField assignment "proficiency"⟩ := by
  obtain ⟨componentName, level, hname, hlevel, rfl⟩ := readAssignment_ok hread
  obtain ⟨componentName', level', hname', hlevel', hid, hl⟩ := h
  obtain rfl := Option.some.inj (hname.symm.trans hname')
  obtain rfl := Option.some.inj (hlevel.symm.trans hlevel')
  obtain ⟨l, hfind, rfl⟩ := Option.map_eq_some_iff.1 hl
  rw [attachment, hid, hfind]
  exact ⟨componentName, rfl⟩

theorem assigns_of_readAssignment {a : LevelAssignment}
    (hread : readAssignment context "Trait" assignment = .ok (some a)) :
    a.componentType = "Trait" ∧ Assigns context a.levelId a.componentId assignment := by
  obtain ⟨componentName, level, hname, hlevel, hattached⟩ := readAssignment_ok hread
  obtain ⟨id, hid, hattached⟩ := Option.bind_eq_some_iff.1 hattached.symm
  obtain ⟨l, hl, rfl⟩ := Option.map_eq_some_iff.1 hattached
  refine ⟨rfl, componentName, level, hname, hlevel, hid, ?_⟩
  rw [hl]
  rfl

theorem parseLevelAssignments_of_read {codec : Codec} {response : String} {assignments : List Json}
    {results : List (Option LevelAssignment)}
    (hreply : replyAssignments codec response = .ok assignments)
    (hread : assignments.mapM (readAssignment context componentType) = .ok results) :
    parseLevelAssignments codec response context componentType = .ok (results.filterMap id) := by
  obtain ⟨parsed, hparsed, harray⟩ := (Exit.bind_eq_ok _ _ _).1 hreply
  rw [parseLevelAssignments, hparsed, Exit.ok_bind, harray, Exit.ok_bind, hread]
  rfl

theorem parseLevelAssignments_inFormat {codec : Codec} {response : String}
    {earlier later : List Json}
    (hreply : replyAssignments codec response = .ok (earlier ++ assignment :: later))
    (hformat : ∀ a ∈ earlier ++ assignment :: later, InFormat a)
    (hassigns : Assigns context levelId traitId assignment)
    (hother : ∀ other ∈ earlier ++ later, ¬ Assigns context levelId traitId other) :
    ∃ before a after, parseLevelAssignments codec response context "Trait" =
        .ok (before ++ a :: after) ∧
      a.levelId = levelId ∧ a.componentId = traitId ∧ a.componentType = "Trait" ∧
      a.proficiency = strField assignment "proficiency" ∧
      ∀ b ∈ before ++ after, ¬ (b.levelId = levelId ∧ b.componentId = traitId) := by
  let Read : Json → Option LevelAssignment → Prop :=
    fun x result => readAssignment context "Trait" x = .ok result
  have hall : ∀ x ∈ earlier ++ assignment :: later, ∃ result, Read x result :=
    fun x hx => readAssignment_inFormat (hformat x hx)
  obtain ⟨first, hfirst⟩ := exists_forall₂ fun x hx => hall x (List.mem_append_left _ hx)
  obtain ⟨last, hlast⟩ := exists_forall₂ fun x hx =>
    hall x (List.mem_append_right _ (List.mem_cons_of_mem _ hx))
  obtain ⟨result, hresult⟩ := hall assignment (List.mem_append_right _ List.mem_cons_self)
  have hread : (earlier ++ assignment :: later).mapM (readAssignment context "Trait") =
      .ok (first ++ result :: last) :=
    Exit.mapM_eq_ok.2 (List.rel_append hfirst (.cons hresult hlast))
  obtain ⟨componentName, rfl⟩ := readAssignment_assigns hresult hassigns
  refine ⟨first.filterMap id,
    ⟨levelId, traitId, componentName, "Trait", strField assignment "proficiency"⟩,
    last.filterMap id, ?_, rfl, rfl, rfl, rfl, ?_⟩
  · rw [parseLevelAssignments_of_read hreply hread, List.filterMap_append]
    rfl
  · rintro b hb ⟨rfl, rfl⟩
    rw [← List.filterMap_append] at hb
    obtain ⟨read, hmem, hb⟩ := List.mem_filterMap.1 hb
    obtain rfl : read = some b := hb
    obtain ⟨other, hmem, hother'⟩ := exists_mem_of_forall₂ (List.rel_append hfirst hlast) hmem
    exact hother other hmem (assigns_of_readAssignment hother').2

end Reading

section Loop

variable (env : Env)

def typed (assignments : List LevelAssignment) : List LevelAssignment :=
  assignments.filter fun a => (requiresType a.componentType).isSome

/-- The loop comes to its end, and where its statements succeed it has merged every
assignment of a known type. -/
theorem run_createLevelRelationships (assignments : List LevelAssignment)
    (acc : Nat × AgentContext) (w : World) :
    (∃ acc', (env.exec (assignments.foldlM createLevelRelationship acc) w).exit = .ok acc') ∧
      (Succeeded (env.exec (assignments.foldlM createLevelRelationship acc) w).calls →
        (env.exec (assignments.foldlM createLevelRelationship acc) w).state.graph =
            merges ((typed assignments).map (·.request)) w.graph ∧
          ∀ a ∈ typed assignments, w.graph.HasEnds a.request.key) := by
  induction assignments generalizing acc w with
  | nil => exact ⟨⟨acc, rfl⟩, fun _ => ⟨rfl, fun a ha => absurd ha List.not_mem_nil⟩⟩
  | cons a assignments ih =>
      rw [List.foldlM_cons]
      cases htype : (requiresType a.componentType).isSome with
      | false =>
          have hstep : createLevelRelationship acc a = .done acc := by
            have hnone : ¬ (requiresType a.componentType).isSome = true := by
              rw [htype]
              exact Bool.false_ne_true
            rw [createLevelRelationship, Option.not_isSome_iff_eq_none.1 hnone]
            rfl
          have htyped : typed (a :: assignments) = typed assignments :=
            List.filter_cons_of_neg (by rw [htype]; exact Bool.false_ne_true)
          rw [hstep, Proc.done_bind, htyped]
          exact ih acc w
      | true =>
          have htyped : typed (a :: assignments) = a :: typed assignments :=
            List.filter_cons_of_pos htype
          obtain ⟨count, hrun⟩ := exec_createLevelRelationship env htype acc w
          obtain ⟨hexit, hmerged⟩ :=
            ih _ ⟨(env.outcome w.clock).after a.request.statement w.graph, w.clock + 1⟩
          rw [exec_bind, hrun, Execution.andThen_ok, htyped]
          refine ⟨hexit, fun hsucceeded => ?_⟩
          obtain ⟨hends, hafter⟩ :=
            after_confirmed a.bound_request (hsucceeded _ List.mem_cons_self)
          obtain ⟨hgraph, hrest⟩ :=
            hmerged fun call hcall => hsucceeded call (List.mem_append_right _ hcall)
          refine ⟨hgraph.trans ?_, ?_⟩
          · rw [hafter]
            rfl
          intro b hb
          rcases List.mem_cons.1 hb with rfl | hb
          · exact hends
          · have hafterwards := hrest b hb
            rw [hafter] at hafterwards
            exact Graph.hasEnds_upsert.1 hafterwards

theorem holds_merges_of_ne {requests : List CreateRelationshipRequest} {key : LinkKey ElementId}
    {P : Props → Prop} (h : ∀ r ∈ requests, r.key ≠ key) (g : Graph) :
    (merges requests g).Holds key P ↔ g.Holds key P := by
  induction requests generalizing g with
  | nil => rfl
  | cons r requests ih =>
      rw [merges_cons, ih fun r' hr' => h r' (List.mem_cons_of_mem _ hr')]
      exact Graph.holds_upsert_of_ne (h r List.mem_cons_self)

theorem key_of_trait {a : LevelAssignment} (h : a.componentType = "Trait") :
    a.request.key = ("REQUIRES_TRAIT", a.levelId, a.componentId) := by
  rw [LevelAssignment.request, h]
  rfl

theorem props_of_trait {a : LevelAssignment} (h : a.componentType = "Trait") :
    a.props = ((a.proficiency.bind Text.parseI64).map fun score => ("min_score", Value.int score)).toList := by
  rw [LevelAssignment.props, h]
  cases a.proficiency with
  | none => rfl
  | some proficiency =>
      rw [Option.map_some, Option.getD_some, Option.bind_some]
      cases hread : Text.parseI64 proficiency with
      | none => simp [proficiencyProps, hread]
      | some score => simp [proficiencyProps, hread]

/-- The merge of an assignment of a trait sets the score that can be read, and
leaves what there is where none can. -/
theorem scored_upsert {a : LevelAssignment} (h : a.componentType = "Trait") {g : Graph}
    (hends : g.HasEnds a.request.key) (score : Int) :
    Scored (g.upsert a.request.upsert) a.levelId a.componentId score ↔
      a.proficiency.bind Text.parseI64 = some score ∨
        a.proficiency.bind Text.parseI64 = none ∧ Scored g a.levelId a.componentId score := by
  have hset : ∀ props, a.request.upsert.set props = setAll a.props props := by
    intro props
    rw [← a.request_properties]
    rfl
  rw [Scored, ← key_of_trait h]
  refine (Graph.holds_upsert_self hends).trans ?_
  simp only [hset, props_of_trait h]
  cases hread : a.proficiency.bind Text.parseI64 with
  | none =>
      have hkept : ∀ props : Props, setAll [] props = props := fun props => rfl
      simp only [Option.map_none, Option.toList_none, hkept]
      rw [or_iff_left fun h => (by cases h.2), or_iff_right fun h => (by cases h), true_and,
        Scored, ← key_of_trait h]
      rfl
  | some read =>
      have hwritten : ∀ props : Props, setAll [("min_score", .int read)] props "min_score" =
          some (.int score) ↔ some read = some score := by
        intro props
        constructor
        · intro h
          cases h
          rfl
        · intro h
          cases h
          rfl
      simp only [Option.map_some, Option.toList_some, hwritten]
      rw [or_iff_left fun h : some read = none ∧ _ => by cases h.1]
      constructor
      · rintro (⟨_, -, -, h⟩ | ⟨-, h⟩)
        · exact h
        · exact h
      · intro h
        by_cases hmem : a.request.upsert.key ∈ g.edges.map Edge.key
        · obtain ⟨e, he, hkey⟩ := List.mem_map.1 hmem
          exact .inl ⟨e, he, hkey, h⟩
        · exact .inr ⟨hmem, h⟩

theorem scored_createLevelRelationships {before after : List LevelAssignment} {a : LevelAssignment}
    (h : a.componentType = "Trait")
    (hother : ∀ b ∈ before ++ after, b.componentType = "Trait" →
      ¬ (b.levelId = a.levelId ∧ b.componentId = a.componentId))
    (context : AgentContext) (w : World)
    (hsucceeded : Succeeded
      (env.exec (createLevelRelationships (before ++ a :: after) context) w).calls) (score : Int) :
    Scored (env.exec (createLevelRelationships (before ++ a :: after) context) w).state.graph
        a.levelId a.componentId score ↔
      a.proficiency.bind Text.parseI64 = some score ∨
        a.proficiency.bind Text.parseI64 = none ∧ Scored w.graph a.levelId a.componentId score := by
  obtain ⟨hgraph, hends⟩ := (run_createLevelRelationships env (before ++ a :: after) (0, context)
    w).2 hsucceeded
  have hfar : ∀ bs : List LevelAssignment, (∀ b ∈ bs, b ∈ before ++ after) →
      ∀ r ∈ (typed bs).map (·.request), r.key ≠ ("REQUIRES_TRAIT", a.levelId, a.componentId) := by
    intro bs hbs r hr hkey
    obtain ⟨b, hb, rfl⟩ := List.mem_map.1 hr
    obtain ⟨hb, htype⟩ := List.mem_filter.1 hb
    obtain ⟨type, htype⟩ := Option.isSome_iff_exists.1 htype
    have hrequest : b.request.key = (type, b.levelId, b.componentId) := by
      rw [LevelAssignment.request, htype]
      rfl
    obtain ⟨rfl, hids⟩ := Prod.mk.inj (hrequest.symm.trans hkey)
    apply hother b (hbs b hb) _ (Prod.mk.inj hids)
    rcases requiresType_eq_some htype with ⟨-, h⟩ | ⟨-, h⟩ | ⟨h, -⟩ | ⟨-, h⟩
    · exact absurd h (by decide)
    · exact absurd h (by decide)
    · exact h
    · exact absurd h (by decide)
  have htyped : typed (before ++ a :: after) = typed before ++ a :: typed after := by
    rw [typed, List.filter_append, List.filter_cons_of_pos (by rw [h]; rfl)]
    rfl
  rw [createLevelRelationships, hgraph, htyped, List.map_append, List.map_cons, merges_append,
    merges_cons, Scored, holds_merges_of_ne (hfar after fun b hb => List.mem_append_right _ hb)]
  have ha : w.graph.HasEnds a.request.key := by
    apply hends
    rw [htyped]
    exact List.mem_append_right _ List.mem_cons_self
  have hends' : (merges ((typed before).map (·.request)) w.graph).HasEnds a.request.key := by
    rwa [Graph.HasEnds, merges_nodeIds]
  refine (scored_upsert h hends' score).trans ?_
  rw [Scored, holds_merges_of_ne (hfar before fun b hb => List.mem_append_left _ hb)]
  rfl

end Loop

/-- A score survives just if it is written as a text, in the range of the scores that are kept,
or was there before. -/
theorem trait_score_iff (codec : Codec) (context : AgentContext) (env : Env) (w : World)
    (response : String) (before after : List LevelAssignment) {earlier later : List Json}
    {assignment : Json} {levelId traitId : ElementId} {score : Int}
    (hreply : replyAssignments codec response = .ok (earlier ++ assignment :: later))
    (hformat : ∀ a ∈ earlier ++ assignment :: later, InFormat a)
    (hassigns : Assigns context levelId traitId assignment)
    (hscore : WritesInteger assignment score)
    (hother : ∀ other ∈ earlier ++ later, ¬ Assigns context levelId traitId other)
    (hrest : ∀ b ∈ before ++ after, b.componentType = "Trait" →
      ¬ (b.levelId = levelId ∧ b.componentId = traitId)) :
    ∃ attached, parseLevelAssignments codec response context "Trait" = .ok attached ∧
      let created := env.exec (createLevelRelationships (before ++ attached ++ after) context) w
      (∃ acc, created.exit = .ok acc) ∧
      (Succeeded created.calls → (Scored created.state.graph levelId traitId score ↔
        ((∃ text, assignment.get "proficiency" = some (.str text)) ∧
          -2 ^ 63 ≤ score ∧ score < 2 ^ 63) ∨ Scored w.graph levelId traitId score)) := by
  obtain ⟨first, a, last, hparse, rfl, rfl, htype, hproficiency, hattached⟩ :=
    parseLevelAssignments_inFormat hreply hformat hassigns hother
  refine ⟨first ++ a :: last, hparse, ?_⟩
  have hlist : before ++ (first ++ a :: last) ++ after = (before ++ first) ++ a :: (last ++ after) := by
    simp
  rw [hlist]
  refine ⟨(run_createLevelRelationships env _ (0, context) w).1, fun hsucceeded => ?_⟩
  have hothers : ∀ b ∈ (before ++ first) ++ (last ++ after), b.componentType = "Trait" →
      ¬ (b.levelId = a.levelId ∧ b.componentId = a.componentId) := by
    intro b hb hb'
    rw [List.append_assoc, List.mem_append] at hb
    rcases hb with hb | hb
    · exact hrest b (List.mem_append_left _ hb) hb'
    · rw [← List.append_assoc, List.mem_append] at hb
      rcases hb with hb | hb
      · exact hattached b hb
      · exact hrest b (List.mem_append_right _ hb) hb'
  rw [scored_createLevelRelationships env htype hothers context w hsucceeded score, hproficiency,
    strField]
  rcases hscore with hnumber | ⟨text, htext, hnumeral⟩
  · have hdropped : ((some (Json.int score)).bind Json.asStr).bind Text.parseI64 = none := rfl
    rw [hnumber, hdropped, or_iff_right fun h => (by cases h), and_iff_right rfl,
      or_iff_right fun ⟨⟨text, h⟩, _⟩ => (by cases h)]
  · have hread : ((some (Json.str text)).bind Json.asStr).bind Text.parseI64 =
        if -2 ^ 63 ≤ score ∧ score < 2 ^ 63 then some score else none :=
      Text.parseI64_of_numeral hnumeral
    rw [htext, hread]
    by_cases hin : -2 ^ 63 ≤ score ∧ score < 2 ^ 63
    · rw [if_pos hin]
      exact iff_of_true (.inl rfl) (.inl ⟨⟨text, rfl⟩, hin⟩)
    · rw [if_neg hin, or_iff_right fun h => (by cases h), and_iff_right rfl,
        or_iff_right fun h => hin h.2]

section Patience

def patienceAssignment (proficiency : Json) : Json :=
  .object [("component", .str "Patience"), ("component_type", .str "Trait"), ("level", .int 1),
    ("proficiency", proficiency)]

/-- Every reply assigns the trait to the first level, with this proficiency. -/
def patienceCodec (proficiency : Json) : Codec where
  value := fun _ => .ok (.object [("level_assignments", .array [patienceAssignment proficiency])])
  strings := fun _ => .ok []
  float := fun _ => ""

def patienceGraph : Graph :=
  (emptyGraph.createNode ["Domain_Level"] Props.empty).createNode ["Trait"] Props.empty

def patienceContext : AgentContext where
  domainName := "Chess"
  description := none
  domainGraph :=
    { domainLevels := [.new "Chess Novice" (candidateId 0) "Domain_Level"]
      traits := [.new "Patience" (candidateId 1) "Trait"] }

def patienceAttached (proficiency : Option String) : List LevelAssignment :=
  [⟨candidateId 0, candidateId 1, "Patience", "Trait", proficiency⟩]

theorem trait_score_iff_text :
    parseLevelAssignments (patienceCodec (.str "60")) "{}" patienceContext "Trait" =
        .ok (patienceAttached (some "60")) ∧
      Scored (Env.calm.exec (createLevelRelationships (patienceAttached (some "60")) patienceContext)
        (World.start patienceGraph)).state.graph (candidateId 0) (candidateId 1) 60 := by
  have hparse : parseLevelAssignments (patienceCodec (.str "60")) "{}" patienceContext
      "Trait" = .ok (patienceAttached (some "60")) := by
    decide +kernel
  have hformat : ∀ a ∈ [] ++ [patienceAssignment (.str "60")], InFormat a := by
    intro a ha
    obtain rfl := List.mem_singleton.1 ha
    exact ⟨"Patience", 1, rfl, rfl, by decide, by decide⟩
  have hassigns : Assigns patienceContext (candidateId 0) (candidateId 1)
      (patienceAssignment (.str "60")) := ⟨"Patience", 1, rfl, rfl, by decide +kernel, by decide +kernel⟩
  have hnumeral : Text.Numeral "60".toList 60 := (Text.parseI64_eq_some.1 (by decide +kernel)).1
  obtain ⟨attached, hattached, -, hscored⟩ := trait_score_iff (patienceCodec (.str "60"))
    patienceContext Env.calm (World.start patienceGraph) "{}" [] [] rfl hformat hassigns
    (.inr ⟨"60", rfl, hnumeral⟩) (fun _ h => by cases h) (fun _ h => by cases h)
  obtain rfl := Exit.ok.inj (hparse.symm.trans hattached)
  exact ⟨hparse, (hscored (by decide +kernel)).2 (.inl ⟨⟨_, rfl⟩, by decide⟩)⟩

theorem patience_number_dropped :
    parseLevelAssignments (patienceCodec (.int 60)) "{}" patienceContext "Trait" =
        .ok (patienceAttached none) ∧
      Succeeded (Env.calm.exec (createLevelRelationships (patienceAttached none) patienceContext)
        (World.start patienceGraph)).calls ∧
      (Env.calm.exec (createLevelRelationships (patienceAttached none) patienceContext)
        (World.start patienceGraph)).state.graph.Linked "REQUIRES_TRAIT" (candidateId 0)
          (candidateId 1) ∧
      ¬ Scored (Env.calm.exec (createLevelRelationships (patienceAttached none) patienceContext)
        (World.start patienceGraph)).state.graph (candidateId 0) (candidateId 1) 60 := by
  refine ⟨by decide +kernel, by decide +kernel, Graph.linked_iff.2 (by decide +kernel),
    by decide +kernel⟩

end Patience

end AtlasOfUs.Agent.LevelDistributorStep
