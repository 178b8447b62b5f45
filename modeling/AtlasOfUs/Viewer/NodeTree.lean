import AtlasOfUs.Library.OrderedMap
import AtlasOfUs.Viewer.ForceGraph
import Mathlib.Algebra.Order.Ring.Unbundled.Rat

namespace AtlasOfUs.Viewer

open Library

def BLOOM_LEVELS : List String :=
  ["Remember", "Understand", "Apply", "Analyze", "Evaluate", "Create"]

def DREYFUS_LEVELS : List String :=
  ["Novice", "Advanced Beginner", "Competent", "Proficient", "Expert"]

inductive NodeType
  | knowledge
  | skill
  | trait
  | milestone
  | level
  deriving DecidableEq

/-- The field `minScore`. The server sends `null` for an edge without a score. -/
inductive MinScore
  | undefined
  | null
  | number (score : ℚ)

structure Requirement where
  bloomLevel : Option String
  dreyfusLevel : Option String
  minScore : MinScore

structure CanvasNode where
  type : NodeType
  requirement : Option Requirement
  elementId : Option ElementId

def CanvasNode.required (node : CanvasNode) : Requirement :=
  node.requirement.getD ⟨none, none, .undefined⟩

abbrev ProgressProps := List (String × Json)

abbrev UserProgressMap := OrderedMap ElementId ProgressProps

section Values

def truthy : Json → Bool
  | .null => false
  | .bool b => b
  | .int i => i ≠ 0
  | .float q => q ≠ 0
  | .str s => s ≠ ""
  | .array _ => true
  | .object _ => true

def number : Json → Option ℚ
  | .int i => some i
  | .float q => some q
  | _ => none

/-- The number that a comparison takes a value for. The parameter is for strings, arrays and
objects, where it may be `NaN`. -/
def toNumber (convert : Json → Option ℚ) : Json → Option ℚ
  | .null => some 0
  | .bool b => some (if b then 1 else 0)
  | .int i => some i
  | .float q => some q
  | v => convert v

def indexOf (levels : List String) : Json → Int
  | .str s => if s ∈ levels then levels.idxOf s else -1
  | _ => -1

def atLeast (convert : Json → Option ℚ) (userValue : Json) (required : ℚ) : Bool :=
  match toNumber convert userValue with
  | some userNumber => required ≤ userNumber
  | none => false

end Values

/-- The comparison of levels, the same for knowledge and skills. It is left out where the
requirement is falsy. -/
def levelMet (levels : List String) (required : Option String) (userLevel : Option Json) : Bool :=
  match required.filter (· ≠ "") with
  | none => true
  | some required =>
      match userLevel.filter truthy with
      | none => false
      | some userLevel => indexOf levels (.str required) ≤ indexOf levels userLevel

def scoreMet (convert : Json → Option ℚ) (required : MinScore) (userScore : Option Json) : Bool :=
  match required, userScore with
  | .undefined, _ => true
  | _, none => false
  -- `null` compares like zero
  | .null, some userScore => atLeast convert userScore 0
  | .number required, some userScore => atLeast convert userScore required

def isNodeRequirementMet (convert : Json → Option ℚ) (node : CanvasNode)
    (userProgressMap : UserProgressMap) : Bool :=
  match node.elementId.filter (· ≠ "") with
  | none => false
  | some elementId =>
      match userProgressMap.get elementId with
      | none => false
      | some userProgress =>
          match node.type with
          | .knowledge =>
              levelMet BLOOM_LEVELS node.required.bloomLevel (userProgress.lookup "bloom_level")
          | .skill =>
              levelMet DREYFUS_LEVELS node.required.dreyfusLevel
                (userProgress.lookup "dreyfus_level")
          | .trait => scoreMet convert node.required.minScore (userProgress.lookup "score")
          | .milestone => true
          | .level => true

/-- Both levels are on the ladder, and the user's is not below the required one. -/
def Reaches (levels : List String) (required : Option String) (userLevel : Option Json) : Prop :=
  ∀ level, required = some level → level ∈ levels ∧
    ∃ reached, userLevel = some (.str reached) ∧ reached ∈ levels ∧
      levels.idxOf level ≤ levels.idxOf reached

def Scores (required : MinScore) (userScore : Option Json) : Prop :=
  ∀ score, required = .number score → ∃ reached, userScore.bind number = some reached ∧ score ≤ reached

/-- The map has an entry for the node that meets what the node requires. -/
def RequirementMet (userProgressMap : UserProgressMap) (node : CanvasNode) (elementId : ElementId) :
    Prop :=
  ∃ userProgress, userProgressMap.get elementId = some userProgress ∧
    match node.type with
    | .knowledge =>
        Reaches BLOOM_LEVELS node.required.bloomLevel (userProgress.lookup "bloom_level")
    | .skill =>
        Reaches DREYFUS_LEVELS node.required.dreyfusLevel (userProgress.lookup "dreyfus_level")
    | .trait => Scores node.required.minScore (userProgress.lookup "score")
    | .milestone => True
    | .level => True

def Placed (levels : List String) (required : Option String) (userLevel : Option Json) : Prop :=
  ∀ level, required = some level →
    level ∈ levels ∨ (level ≠ "" ∧ userLevel.filter truthy = none)

/-- No other value is taken for a number that is high enough, and a `null` is not asked of a user
without a score. -/
def Scored (convert : Json → Option ℚ) (required : MinScore) (userScore : Option Json) : Prop :=
  match required with
  | .undefined => True
  | .null => ∃ v, userScore = some v ∧ atLeast convert v 0 = true
  | .number score => ∀ v, userScore = some v → number v = none → atLeast convert v score = false

/-- The requirement of the node and the entry of the user are ones that the code can compare. -/
def Comparable (convert : Json → Option ℚ) (node : CanvasNode) (userProgress : ProgressProps) :
    Prop :=
  match node.type with
  | .knowledge => Placed BLOOM_LEVELS node.required.bloomLevel (userProgress.lookup "bloom_level")
  | .skill =>
      Placed DREYFUS_LEVELS node.required.dreyfusLevel (userProgress.lookup "dreyfus_level")
  | .trait => Scored convert node.required.minScore (userProgress.lookup "score")
  | .milestone => True
  | .level => True

section Levels

variable {levels : List String}

theorem indexOf_of_mem {level : String} (h : level ∈ levels) :
    indexOf levels (.str level) = levels.idxOf level := if_pos h

theorem indexOf_of_notMem {level : String} (h : level ∉ levels) :
    indexOf levels (.str level) = -1 := if_neg h

theorem neg_one_le_indexOf (v : Json) : -1 ≤ indexOf levels v := by
  cases v with
  | str s =>
      by_cases h : s ∈ levels
      · rw [indexOf_of_mem h]
        omega
      · rw [indexOf_of_notMem h]
  | _ => exact Int.le_refl _

theorem le_indexOf_iff (k : Nat) (v : Json) :
    (k : Int) ≤ indexOf levels v ↔ ∃ s, v = .str s ∧ s ∈ levels ∧ k ≤ levels.idxOf s := by
  constructor
  · intro h
    cases v with
    | str s =>
        by_cases hs : s ∈ levels
        · rw [indexOf_of_mem hs] at h
          exact ⟨s, rfl, hs, by omega⟩
        · rw [indexOf_of_notMem hs] at h
          omega
    | _ => exact absurd h (by simp only [indexOf]; omega)
  · rintro ⟨s, rfl, hs, hle⟩
    rw [indexOf_of_mem hs]
    omega

theorem levelMet_of_mem {level : String} (hempty : "" ∉ levels) (h : level ∈ levels)
    (userLevel : Option Json) :
    levelMet levels (some level) userLevel = true ↔ Reaches levels (some level) userLevel := by
  have hne : level ≠ "" := fun heq => hempty (heq ▸ h)
  have hreaches : Reaches levels (some level) userLevel ↔
      ∃ v, userLevel = some v ∧ (levels.idxOf level : Int) ≤ indexOf levels v := by
    constructor
    · intro hr
      obtain ⟨-, reached, hreached, hmem, hle⟩ := hr level rfl
      exact ⟨_, hreached, (le_indexOf_iff _ _).2 ⟨reached, rfl, hmem, hle⟩⟩
    · rintro ⟨v, rfl, hle⟩ _ ⟨⟩
      obtain ⟨reached, rfl, hmem, hle'⟩ := (le_indexOf_iff _ _).1 hle
      exact ⟨h, reached, rfl, hmem, hle'⟩
  rw [hreaches, levelMet, Option.filter_some_pos (by simpa using hne)]
  cases userLevel with
  | none => simp
  | some v =>
      cases ht : truthy v with
      | true => simp [Option.filter, ht, indexOf_of_mem h]
      | false =>
          have hnot : ¬ (levels.idxOf level : Int) ≤ indexOf levels v := by
            intro hle
            obtain ⟨s, rfl, hs, -⟩ := (le_indexOf_iff _ _).1 hle
            rw [truthy, decide_eq_false_iff_not, not_not] at ht
            exact hempty (ht ▸ hs)
          simp [Option.filter, ht, hnot]

theorem levelMet_of_notMem {level : String} (h : level ∉ levels) (hne : level ≠ "")
    (userLevel : Option Json) :
    levelMet levels (some level) userLevel = (userLevel.filter truthy).isSome := by
  rw [levelMet, Option.filter_some_pos (by simpa using hne)]
  cases hv : userLevel.filter truthy with
  | none => rfl
  | some v =>
      simp only [Option.isSome_some]
      rw [decide_eq_true_iff, indexOf_of_notMem h]
      exact neg_one_le_indexOf v

theorem levelMet_iff (hempty : "" ∉ levels) (required : Option String) (userLevel : Option Json) :
    (levelMet levels required userLevel = true ↔ Reaches levels required userLevel) ↔
      Placed levels required userLevel := by
  cases required with
  | none =>
      have hmet : levelMet levels none userLevel = true := rfl
      exact iff_of_true (iff_of_true hmet fun _ h => by cases h) fun _ h => by cases h
  | some level =>
      by_cases hmem : level ∈ levels
      · apply iff_of_true (levelMet_of_mem hempty hmem userLevel)
        rintro _ ⟨⟩
        exact .inl hmem
      · have hreaches : ¬ Reaches levels (some level) userLevel := fun h => hmem (h level rfl).1
        rw [iff_false_right hreaches]
        have hplaced : Placed levels (some level) userLevel ↔
            level ≠ "" ∧ userLevel.filter truthy = none := by
          constructor
          · intro h
            exact (h level rfl).resolve_left hmem
          · rintro h _ ⟨⟩
            exact .inr h
        rw [hplaced]
        by_cases hne : level = ""
        · subst hne
          simp [levelMet, Option.filter]
        · rw [levelMet_of_notMem hmem hne, Bool.not_eq_true, Option.isSome_eq_false_iff,
            Option.isNone_iff_eq_none, and_iff_right hne]

end Levels

section ScoreValues

variable {convert : Json → Option ℚ}

theorem atLeast_of_number {v : Json} {n : ℚ} (h : number v = some n) (required : ℚ) :
    atLeast convert v required = true ↔ required ≤ n := by
  have hnumber : toNumber convert v = some n := by
    cases v with
    | int i => exact h
    | float q => exact h
    | _ => cases h
  rw [atLeast, hnumber]
  exact decide_eq_true_iff

theorem scoreMet_iff (required : MinScore) (userScore : Option Json) :
    (scoreMet convert required userScore = true ↔ Scores required userScore) ↔
      Scored convert required userScore := by
  cases required with
  | undefined => exact iff_of_true (iff_of_true rfl fun _ h => by cases h) trivial
  | null =>
      have hscores : Scores .null userScore := fun _ h => by cases h
      rw [iff_true_right hscores]
      cases userScore with
      | none => simp [scoreMet, Scored]
      | some v => simp [scoreMet, Scored]
  | number score =>
      cases userScore with
      | none => simp [scoreMet, Scores, Scored]
      | some v =>
          have hscores : Scores (.number score) (some v) ↔ ∃ n, number v = some n ∧ score ≤ n := by
            constructor
            · intro h
              exact h score rfl
            · rintro h _ ⟨⟩
              exact h
          have hmet : scoreMet convert (.number score) (some v) = atLeast convert v score := rfl
          rw [hscores, hmet]
          cases hn : number v with
          | none => simp [Scored, hn]
          | some n => simp [Scored, hn, atLeast_of_number hn]

end ScoreValues

/-- The check is right about a node just where it can compare what the node requires with what the
user has. -/
theorem isNodeRequirementMet_iff (convert : Json → Option ℚ) (userProgressMap : UserProgressMap)
    (node : CanvasNode) {elementId : ElementId} (hid : node.elementId = some elementId)
    (hne : elementId ≠ "") :
    (isNodeRequirementMet convert node userProgressMap = true ↔
        RequirementMet userProgressMap node elementId) ↔
      ∀ userProgress, userProgressMap.get elementId = some userProgress →
        Comparable convert node userProgress := by
  rw [isNodeRequirementMet, RequirementMet, hid, Option.filter_some_pos (by simpa using hne)]
  simp only []
  cases hget : userProgressMap.get elementId with
  | none => simp
  | some userProgress =>
      simp only [Option.some.injEq, exists_eq_left', forall_eq', Comparable]
      cases node.type with
      | knowledge => exact levelMet_iff (by decide) _ _
      | skill => exact levelMet_iff (by decide) _ _
      | trait => exact scoreMet_iff _ _
      | milestone => simp
      | level => simp

/-- A user at a level that is on the ladder, and a requirement in another spelling. -/
def beginner : UserProgressMap := OrderedMap.empty.set "4:1" [("bloom_level", .str "Remember")]

def misspelled : CanvasNode := ⟨.knowledge, some ⟨some "apply", none, .undefined⟩, some "4:1"⟩

theorem misspelled_met :
    isNodeRequirementMet (fun _ => none) misspelled beginner = true ∧
      ¬ RequirementMet beginner misspelled "4:1" := by
  constructor
  · decide
  · rintro ⟨userProgress, -, hreaches⟩
    have hmem : "apply" ∈ BLOOM_LEVELS := (hreaches "apply" rfl).1
    exact absurd hmem (by decide)

theorem isNodeRequirementMet_iff_misspelled :
    (isNodeRequirementMet (fun _ => none) misspelled beginner = true ↔
        RequirementMet beginner misspelled "4:1") ↔
      ∀ userProgress, beginner.get "4:1" = some userProgress →
        Comparable (fun _ => none) misspelled userProgress :=
  isNodeRequirementMet_iff (fun _ => none) beginner misspelled rfl (by decide)

def completionTypes : List String := ["HAS_KNOWLEDGE", "HAS_SKILL", "HAS_TRAIT", "ACHIEVED"]

def progressProps : Json → ProgressProps
  | .object fields => fields
  | _ => []

def completedNode (r : Neo4jRelationship) : Option ElementId :=
  if r.type ∈ completionTypes then some r.endElementId else none

def userProgressMap (loggedIn : Bool) (relationships : Option (List Neo4jRelationship)) :
    UserProgressMap :=
  match loggedIn, relationships with
  | true, some relationships =>
      OrderedMap.setAll completedNode (fun r => progressProps r.props) relationships .empty
  | _, _ => .empty

/-- The entry of a node is of the last relationship by which the user has completed it. -/
theorem get_userProgressMap (relationships : List Neo4jRelationship) (elementId : ElementId) :
    (userProgressMap true (some relationships)).get elementId =
      (relationships.filter fun r => r.type ∈ completionTypes ∧ r.endElementId = elementId).getLast?.map
        fun r => progressProps r.props := by
  have hfilter : (relationships.filter fun r => completedNode r = some elementId) =
      relationships.filter fun r => r.type ∈ completionTypes ∧ r.endElementId = elementId := by
    apply List.filter_congr
    intro r _
    rw [completedNode, decide_eq_decide]
    by_cases h : r.type ∈ completionTypes <;> simp [h]
  rw [userProgressMap, OrderedMap.get_setAll, OrderedMap.get_empty, Option.or_none, hfilter]

end AtlasOfUs.Viewer
