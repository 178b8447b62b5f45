import AtlasOfUs.Agent.Relationships
import AtlasOfUs.Agent.TraitGenerator

namespace AtlasOfUs.Agent

open Library Similarity

def Returns {α : Type} (x : Parsed α) : Prop := (∃ a, x = .ok a) ∨ ∃ e, x = .err e

theorem returns_iff {α : Type} {x : Parsed α} : Returns x ↔ x ≠ .panicked := by
  cases x with
  | ok a => exact iff_of_true (.inl ⟨a, rfl⟩) (by simp)
  | err e => exact iff_of_true (.inr ⟨e, rfl⟩) (by simp)
  | panicked =>
      refine iff_of_false ?_ (by simp)
      rintro (⟨a, h⟩ | ⟨e, h⟩) <;> cases h

/-- The parsers that slice an object out of a reply, with what they are given besides. -/
inductive ObjectParser
  | verificationResponse (concept : String)
  | knowledgeProperties (conceptName : String)
  | skillProperties (conceptName : String)
  | traitVerification (concept : String) (top : SimilarNodeResult)
      (similarNodes : List SimilarNodeResult)
  | traitProperties (conceptName : String)
  | milestoneProperties (conceptName : String)
  | levelAssignments (context : AgentContext) (componentType : String)
  | prerequisites (context : AgentContext) (sourceType : String)

namespace ObjectParser

variable (codec : Codec)

/-- The parser returns a value or an error for the reply. -/
def Answers (response : String) : ObjectParser → Prop
  | verificationResponse concept => Returns (parseVerificationResponse codec response concept)
  | knowledgeProperties name => Returns (knowledgeKind.parseKindProperties codec response name)
  | skillProperties name => Returns (skillKind.parseKindProperties codec response name)
  | traitVerification concept top similarNodes =>
      Returns (TraitGeneratorStep.parseTraitVerification codec response concept top similarNodes)
  | traitProperties name => Returns (parseTraitProperties codec response name)
  | milestoneProperties name => Returns (parseMilestoneProperties codec response name)
  | levelAssignments context componentType =>
      Returns (LevelDistributorStep.parseLevelAssignments codec response context componentType)
  | prerequisites context sourceType =>
      Returns (PrerequisiteMapperStep.parsePrerequisites codec response context sourceType)

def isGuarded : ObjectParser → Bool
  | verificationResponse _ | knowledgeProperties _ => true
  | _ => false

theorem parseVerificationResponse_ne_panicked (response concept : String) :
    parseVerificationResponse codec response concept ≠ .panicked := by
  rw [parseVerificationResponse, Ne, Exit.bind_eq_panicked]
  rintro (h | ⟨parsed, -, h⟩)
  · exact parseObject_guarded codec _ _ _ response h
  · exact readVerification_ne_panicked parsed concept h

theorem parseTraitVerification_panics (response concept : String) (top : SimilarNodeResult)
    (similarNodes : List SimilarNodeResult) :
    TraitGeneratorStep.parseTraitVerification codec response concept top similarNodes = .panicked ↔
      reversed response '{' '}' = true := by
  rw [TraitGeneratorStep.parseTraitVerification, Exit.bind_eq_panicked, parseObject_unguarded]
  refine or_iff_left ?_
  rintro ⟨parsed, -, h⟩
  exact TraitGeneratorStep.readTraitVerification_ne_panicked parsed concept top similarNodes h

theorem parseProperties_unguarded (keys : List String) (response name : String) :
    parseProperties codec none keys response name = .panicked ↔
      reversed response '{' '}' = true := by
  rw [parseProperties_panics, parseObject_unguarded]

/-- Two of the parsers answer every reply; the others abort where the last
closing brace stands before the first opening one, with a character between. -/
theorem answers_iff (parser : ObjectParser) (response : String) :
    parser.Answers codec response ↔
      parser.isGuarded = true ∨ reversed response '{' '}' = false := by
  have hguarded : ∀ {α : Type} {x : Parsed α}, x ≠ .panicked →
      (Returns x ↔ true = true ∨ reversed response '{' '}' = false) :=
    fun h => iff_of_true (returns_iff.2 h) (.inl rfl)
  have hunguarded : ∀ {α : Type} {x : Parsed α}, (x = .panicked ↔ reversed response '{' '}' = true) →
      (Returns x ↔ false = true ∨ reversed response '{' '}' = false) := by
    intro α x h
    rw [returns_iff, Ne, h]
    simp
  cases parser with
  | verificationResponse concept =>
      exact hguarded (parseVerificationResponse_ne_panicked codec response concept)
  | knowledgeProperties name =>
      refine hguarded fun h => ?_
      exact parseObject_guarded codec _ _ _ response
        ((parseProperties_panics codec _ _ response name).1 h)
  | skillProperties name => exact hunguarded (parseProperties_unguarded codec _ response name)
  | traitVerification concept top similarNodes =>
      exact hunguarded (parseTraitVerification_panics codec response concept top similarNodes)
  | traitProperties name => exact hunguarded (parseProperties_unguarded codec _ response name)
  | milestoneProperties name => exact hunguarded (parseProperties_unguarded codec _ response name)
  | levelAssignments context componentType =>
      exact hunguarded (LevelDistributorStep.parseLevelAssignments_panics codec response context
        componentType)
  | prerequisites context sourceType =>
      exact hunguarded (PrerequisiteMapperStep.parsePrerequisites_panics codec response context
        sourceType)

end ObjectParser

def emptyCodec : Codec where
  value := fun _ => .ok (.object [])
  strings := fun _ => .ok []
  float := fun _ => ""

theorem traitProperties_aborts :
    ¬ ∀ (codec : Codec) (parser : ObjectParser) (response : String), parser.Answers codec response := by
  intro hall
  have h := hall emptyCodec (.traitProperties "Patience") "\x7d or \x7b"
  rw [ObjectParser.Answers, returns_iff] at h
  exact h (by decide +kernel)

/-- The list parser aborts on the previews of long replies: where one of the
brackets is missing and the limit of 200 bytes falls within a character. -/
theorem parseConceptList_returns_iff (codec : Codec) (response : String) :
    Returns (parseConceptList codec response) ↔ previewCuts response = false := by
  rw [returns_iff, Ne, parseConceptList_panics, Bool.not_eq_true]

theorem parseConceptList_aborts :
    ¬ ∀ (codec : Codec) (response : String), Returns (parseConceptList codec response) := by
  intro hall
  have htrim : Text.trim (String.ofList (List.replicate 67 '€')) =
      String.ofList (List.replicate 67 '€') := by
    rw [Text.trim, String.toList_ofList]
    decide +kernel
  have hcuts : previewCuts (String.ofList (List.replicate 67 '€')) = true := by
    rw [previewCuts]
    simp only [htrim, Text.find, Text.rfind, String.toList_ofList]
    decide +kernel
  have h := hall emptyCodec (String.ofList (List.replicate 67 '€'))
  rw [returns_iff, Ne, parseConceptList_panics] at h
  exact h hcuts

end AtlasOfUs.Agent
