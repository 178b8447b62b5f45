import AtlasOfUs.Agent.ArchitectRun
import AtlasOfUs.Agent.Relationships

namespace AtlasOfUs.Agent.LevelDistributorStep

open Library DomainArchitectStep

def numberedLevel (levels : List CreatedNode) (level : Int) : Option CreatedNode :=
  if 1 ≤ level ∧ level ≤ 5 then levels[(level - 1).toNat]? else none

/-- Where the search by name finds the level of that number: always for the
first one, for a later one unless the domain's own name has its word after a
space. -/
def Resolves (domainName : String) (level : Int) : Prop :=
  level = 1 ∨ (2 ≤ level ∧ level ≤ 5) ∧ Text.isInfix (" " ++ levelWord level) domainName = false

instance (domainName : String) (level : Int) : Decidable (Resolves domainName level) :=
  inferInstanceAs (Decidable (_ ∨ _))

theorem space_notMem_levelWord (level : Int) : ' ' ∉ (levelWord level).toList := by
  unfold levelWord
  split_ifs <;> decide

/-- The word of a level occurs in a level's name in the part that is the
domain's name, or as the word that ends it. -/
theorem isInfix_levelWord {node : CreatedNode} {domainName : String} {m : Int}
    (h : node.name = domainName ++ (" " ++ levelWord m)) (n : Int) :
    Text.isInfix (" " ++ levelWord n) node.name =
      (Text.isInfix (" " ++ levelWord n) domainName ||
        (levelWord n).toList.isPrefixOf (levelWord m).toList) := by
  rw [h, Bool.eq_iff_iff, Bool.or_eq_true, Text.isInfix_iff, Text.isInfix_iff,
    List.isPrefixOf_iff_prefix, String.toList_append, String.toList_append, String.toList_append]
  exact Text.separated_infix (space_notMem_levelWord n) (space_notMem_levelWord m)

theorem architectLevels_cases {domainName : String} {levels : List CreatedNode}
    (h : ArchitectLevels domainName levels) :
    ∃ a b c d e, levels = [a, b, c, d, e] ∧ a.name = domainName ++ (" " ++ levelWord 1) ∧
      b.name = domainName ++ (" " ++ levelWord 2) ∧ c.name = domainName ++ (" " ++ levelWord 3) ∧
      d.name = domainName ++ (" " ++ levelWord 4) ∧ e.name = domainName ++ (" " ++ levelWord 5) := by
  obtain ⟨hnames, -⟩ := h
  simp only [getLevelStructure, List.map_cons, List.map_nil, List.map_eq_cons_iff,
    List.map_eq_nil_iff] at hnames
  obtain ⟨a, _, rfl, ha, b, _, rfl, hb, c, _, rfl, hc, d, _, rfl, hd, e, _, rfl, he, rfl⟩ := hnames
  exact ⟨a, b, c, d, e, rfl, ha, hb, hc, hd, he⟩

theorem findLevel_first {levels : List CreatedNode} {first : CreatedNode} (hhead : levels.head? = some first)
    {level : Int} (h : Text.isInfix (" " ++ levelWord level) first.name = true) :
    findLevel levels level = some first := by
  cases levels with
  | nil => cases hhead
  | cons a rest =>
      obtain rfl := Option.some.inj hhead
      simp [findLevel, h]

theorem findLevel_architect {domainName : String} {levels : List CreatedNode}
    (h : ArchitectLevels domainName levels) (level : Int) :
    findLevel levels level =
      if Resolves domainName level then numberedLevel levels level else levels.head? := by
  obtain ⟨a, b, c, d, e, rfl, ha, hb, hc, hd, he⟩ := architectLevels_cases h
  by_cases hone : level = 1
  · subst hone
    rw [if_pos (.inl rfl), findLevel_first rfl]
    · rfl
    · rw [isInfix_levelWord ha]
      exact Bool.or_eq_true_iff.2 (.inr rfl)
  · by_cases hin : 2 ≤ level ∧ level ≤ 5
    · cases hword : Text.isInfix (" " ++ levelWord level) domainName with
      | true =>
          rw [if_neg (by simp [Resolves, hone, hword]), findLevel_first rfl]
          · rfl
          · rw [isInfix_levelWord ha, hword]
            rfl
      | false =>
          rw [if_pos (.inr ⟨hin, hword⟩)]
          obtain rfl | rfl | rfl | rfl : level = 2 ∨ level = 3 ∨ level = 4 ∨ level = 5 := by omega
          all_goals
            simp only [findLevel, List.find?_cons, isInfix_levelWord ha, isInfix_levelWord hb,
              isInfix_levelWord hc, isInfix_levelWord hd, isInfix_levelWord he, hword]
            rfl
    · have hcatch : levelWord level = "" := by
        unfold levelWord
        split_ifs <;> first | rfl | omega
      rw [if_neg (by simp [Resolves, hone, hin]), findLevel_first rfl]
      · rfl
      · rw [isInfix_levelWord ha, hcatch]
        exact Bool.or_eq_true_iff.2 (.inr rfl)

def attachment (context : AgentContext) (componentType componentName : String)
    (proficiency : Option String) (l : Option CreatedNode) : Option LevelAssignment :=
  (findElementId context componentName componentType).bind (fun componentId =>
    l.map (fun l => ⟨l.elementId, componentId, componentName, componentType, proficiency⟩))

/-- What an assignment means: its level by number, not by name. -/
def numberedAssignment (context : AgentContext) (componentType : String) (assignment : Json) :
    Option LevelAssignment := do
  let componentName ← strField assignment "component"
  let level ← (assignment.get "level").bind Json.asI64
  attachment context componentType componentName (strField assignment "proficiency")
    (numberedLevel context.domainGraph.domainLevels level)

/-- The level of every known component of the reply is found by its word. -/
def Resolvable (domainName : String) (context : AgentContext) (componentType : String)
    (assignment : Json) : Prop :=
  ∀ componentName level, strField assignment "component" = some componentName →
    (assignment.get "level").bind Json.asI64 = some level →
    (findElementId context componentName componentType).isSome → Resolves domainName level

theorem findLevel_eq_iff {domainName : String} {levels : List CreatedNode}
    (h : ArchitectLevels domainName levels) (level : Int) :
    (findLevel levels level).map (·.elementId) = (numberedLevel levels level).map (·.elementId) ↔
      Resolves domainName level := by
  rw [findLevel_architect h]
  by_cases hr : Resolves domainName level
  · simp [hr]
  · rw [if_neg hr]
    refine iff_of_false (fun heq => ?_) hr
    obtain ⟨a, b, c, d, e, rfl, -⟩ := architectLevels_cases h
    have hnodup := h.2
    by_cases hin : 2 ≤ level ∧ level ≤ 5
    · obtain rfl | rfl | rfl | rfl : level = 2 ∨ level = 3 ∨ level = 4 ∨ level = 5 := by omega
      all_goals
        simp [numberedLevel] at heq
        simp [heq] at hnodup
    · have hone : level ≠ 1 := fun h => hr (.inl h)
      rw [numberedLevel, if_neg (by omega)] at heq
      cases heq

theorem readAssignment_ok {context : AgentContext} {componentType : String} {assignment : Json}
    {attached : Option LevelAssignment}
    (h : readAssignment context componentType assignment = .ok attached) :
    ∃ componentName level, strField assignment "component" = some componentName ∧
      (assignment.get "level").bind Json.asI64 = some level ∧
      attached = attachment context componentType componentName (strField assignment "proficiency")
        (findLevel context.domainGraph.domainLevels level) := by
  cases hname : strField assignment "component" with
  | none => simp [readAssignment, hname, okOr] at h
  | some componentName =>
      cases hlevel : (assignment.get "level").bind Json.asI64 with
      | none => simp [readAssignment, hname, hlevel, okOr] at h
      | some level =>
          refine ⟨componentName, level, rfl, rfl, ?_⟩
          simp only [readAssignment, hname, hlevel, okOr, Exit.ok_bind] at h
          cases hid : findElementId context componentName componentType <;>
            cases hl : findLevel context.domainGraph.domainLevels level <;>
              simp_all [attachment]

theorem findLevel_isSome {domainName : String} {levels : List CreatedNode}
    (h : ArchitectLevels domainName levels) (level : Int) : (findLevel levels level).isSome := by
  rw [findLevel_architect h]
  obtain ⟨a, b, c, d, e, rfl, -⟩ := architectLevels_cases h
  split
  · rename_i hr
    have hin : level = 1 ∨ level = 2 ∨ level = 3 ∨ level = 4 ∨ level = 5 := by
      rcases hr with hone | ⟨hin, -⟩ <;> omega
    obtain rfl | rfl | rfl | rfl | rfl := hin <;> rfl
  · rfl

/-- One assignment of an accepted reply: a known component is always attached
somewhere, and where it belongs exactly if its level resolves. -/
theorem readAssignment_iff {domainName : String} {context : AgentContext} {componentType : String}
    {assignment : Json} {attached : Option LevelAssignment}
    (hlevels : ArchitectLevels domainName context.domainGraph.domainLevels)
    (h : readAssignment context componentType assignment = .ok attached) :
    ((numberedAssignment context componentType assignment).isSome → attached.isSome) ∧
      (attached = numberedAssignment context componentType assignment ↔
        Resolvable domainName context componentType assignment) := by
  obtain ⟨componentName, level, hname, hlevel, rfl⟩ := readAssignment_ok h
  have hnumbered : numberedAssignment context componentType assignment =
      attachment context componentType componentName (strField assignment "proficiency")
        (numberedLevel context.domainGraph.domainLevels level) := by
    rw [numberedAssignment, hname, hlevel]
    rfl
  have hresolvable : Resolvable domainName context componentType assignment ↔
      ((findElementId context componentName componentType).isSome → Resolves domainName level) := by
    simp [Resolvable, hname, hlevel]
  obtain ⟨l, hl⟩ := Option.isSome_iff_exists.1 (findLevel_isSome hlevels level)
  have hiff := findLevel_eq_iff hlevels level
  rw [hnumbered, hresolvable, ← hiff, hl, attachment, attachment]
  cases findElementId context componentName componentType with
  | none => simp
  | some componentId => cases numberedLevel context.domainGraph.domainLevels level <;> simp

def replyAssignments (codec : Codec) (response : String) : Parsed (List Json) := do
  let parsed ← parseObject codec "No JSON object found" "No closing brace found" none response
  okOr ((parsed.get "level_assignments").bind Json.asArray) "Missing level_assignments array"

theorem parseLevelAssignments_ok {codec : Codec} {response : String} {context : AgentContext}
    {componentType : String} {attached : List LevelAssignment}
    (h : parseLevelAssignments codec response context componentType = .ok attached) :
    ∃ assignments results, replyAssignments codec response = .ok assignments ∧
      List.Forall₂ (fun a r => readAssignment context componentType a = .ok r) assignments results ∧
      attached = results.filterMap id := by
  rw [parseLevelAssignments] at h
  rw [replyAssignments]
  cases hparsed : parseObject codec "No JSON object found" "No closing brace found" none response with
  | ok parsed =>
      rw [hparsed, Exit.ok_bind] at h
      cases harray : okOr ((parsed.get "level_assignments").bind Json.asArray)
          "Missing level_assignments array" with
      | ok assignments =>
          rw [harray, Exit.ok_bind] at h
          cases hread : assignments.mapM (readAssignment context componentType) with
          | ok results =>
              rw [hread, Exit.ok_bind, Exit.pure_eq, Exit.ok.injEq] at h
              exact ⟨assignments, results, harray, Exit.mapM_eq_ok.1 hread, h.symm⟩
          | err e | panicked =>
              rw [hread] at h
              cases h
      | err e | panicked =>
          rw [harray] at h
          cases h
  | err e | panicked =>
      rw [hparsed] at h
      cases h

/-- In every domain that the architect has laid out, the distributor attaches
the assignments of an accepted reply to the levels they number exactly if each
of their levels is the first one, or a later one whose word the domain's name
does not contain. -/
theorem parseLevelAssignments_iff (codec : Codec) (tables : CharTables) (env : Env) (w : World)
    (domainName : String) (description : Option String) (architect context : AgentContext)
    (hrun : (env.exec (DomainArchitectStep.execute codec tables
      ⟨domainName, description, none, {}⟩) w).exit = .ok architect)
    (hlevels : context.domainGraph.domainLevels = architect.domainGraph.domainLevels)
    (response componentType : String) (attached : List LevelAssignment)
    (hparse : parseLevelAssignments codec response context componentType = .ok attached) :
    ∃ assignments, replyAssignments codec response = .ok assignments ∧
      (attached = assignments.filterMap (numberedAssignment context componentType) ↔
        ∀ a ∈ assignments, Resolvable domainName context componentType a) := by
  have harchitect : ArchitectLevels domainName context.domainGraph.domainLevels :=
    hlevels ▸ execute_architectLevels codec tables hrun
  obtain ⟨assignments, results, hreply, hread, rfl⟩ := parseLevelAssignments_ok hparse
  exact ⟨assignments, hreply,
    filterMap_id_eq_iff (hread.imp fun _ _ h => readAssignment_iff harchitect h)⟩

section Scrum

deriving instance DecidableEq for AgentContext

def plainTables : CharTables := ⟨id, Char.isAlphanum⟩

/-- A parser that finds one assignment in every reply, to the given level. -/
def scrumCodec (level : Int) : Codec where
  value := fun _ => .ok (.object [("level_assignments", .array
    [.object [("component", .str "Scrum"), ("level", .int level)]])])
  strings := fun _ => .ok []
  float := fun _ => ""

def scrumArchitect : AgentContext :=
  ⟨"Agile Developing", none, some "4:",
    { domain := some (.new "Agile Developing" "4:" "Domain")
      domainLevels :=
        [.new "Agile Developing Novice" "4:1" "Domain_Level",
          .new "Agile Developing Developing" "4:111" "Domain_Level",
          .new "Agile Developing Competent" "4:11111" "Domain_Level",
          .new "Agile Developing Advanced" "4:1111111" "Domain_Level",
          .new "Agile Developing Master" "4:111111111" "Domain_Level"] }⟩

def scrumContext : AgentContext := scrumArchitect.addKnowledge (.new "Scrum" "4:k" "Knowledge")

theorem parseLevelAssignments_scrum :
    ∃ assignments, replyAssignments (scrumCodec 3) "\x7b\x7d" = .ok assignments ∧
      ([⟨"4:11111", "4:k", "Scrum", "Knowledge", none⟩] =
          assignments.filterMap (numberedAssignment scrumContext "Knowledge") ↔
        ∀ a ∈ assignments, Resolvable "Agile Developing" scrumContext "Knowledge" a) :=
  parseLevelAssignments_iff (scrumCodec 3) plainTables Env.calm (World.start emptyGraph)
    "Agile Developing" none scrumArchitect scrumContext (by decide +kernel) rfl "\x7b\x7d" "Knowledge" _
    (by decide +kernel)

/-- In the domain "Agile Developing" the second level is searched for by a word
of the domain's name, and level seven by the empty word: both end up at the first. -/
theorem scrum_misplaced :
    (Env.calm.exec (DomainArchitectStep.execute (scrumCodec 2) plainTables
      ⟨"Agile Developing", none, none, {}⟩) (World.start emptyGraph)).exit = .ok scrumArchitect ∧
    parseLevelAssignments (scrumCodec 2) "\x7b\x7d" scrumContext "Knowledge" =
      .ok [⟨"4:1", "4:k", "Scrum", "Knowledge", none⟩] ∧
    (∀ assignments, replyAssignments (scrumCodec 2) "\x7b\x7d" = .ok assignments →
      assignments.filterMap (numberedAssignment scrumContext "Knowledge") =
        [⟨"4:111", "4:k", "Scrum", "Knowledge", none⟩]) ∧
    parseLevelAssignments (scrumCodec 7) "\x7b\x7d" scrumContext "Knowledge" =
      .ok [⟨"4:1", "4:k", "Scrum", "Knowledge", none⟩] ∧
    (∀ assignments, replyAssignments (scrumCodec 7) "\x7b\x7d" = .ok assignments →
      assignments.filterMap (numberedAssignment scrumContext "Knowledge") = []) := by
  refine ⟨by decide +kernel, by decide +kernel, fun assignments h => ?_, by decide +kernel,
    fun assignments h => ?_⟩
  · obtain rfl := Exit.ok.inj h
    decide +kernel
  · obtain rfl := Exit.ok.inj h
    decide +kernel

end Scrum

end AtlasOfUs.Agent.LevelDistributorStep
