import AtlasOfUs.Worker.Processors
import Mathlib.Algebra.Order.Ring.Unbundled.Rat

namespace AtlasOfUs.Worker

open Library Similarity

/-- What the decision carries is one node of the list, with its id and its name. -/
def ConceptDecision.From (similarNodes : List SimilarNodeResult) : ConceptDecision → Prop
  | .useExisting id name | .createAndGeneralize id name =>
      ∃ node ∈ similarNodes, node.id = id ∧ node.name = name
  | .createNew => True

section Score

variable {similarNodes : List SimilarNodeResult} {thresholds : SimilarityThresholds}
  {decision : ConceptDecision}

theorem decideByScore_reuse {top : SimilarNodeResult} {rest : List SimilarNodeResult}
    (h : thresholds.autoReuse ≤ top.score) :
    decideByScore (top :: rest) thresholds = some (.useExisting top.id top.name) := by
  have hfilter : (some top).filter (fun top => decide (thresholds.autoReuse ≤ top.score)) = some top :=
    Option.filter_some_pos (decide_eq_true h)
  rw [decideByScore, List.head?_cons, hfilter]

/-- The best score is too low to reuse the node, and decides if it is low enough to create one. -/
theorem decideByScore_of_lt {top : SimilarNodeResult} {rest : List SimilarNodeResult}
    (h : top.score < thresholds.autoReuse) :
    decideByScore (top :: rest) thresholds =
      if top.score < thresholds.autoCreate then some .createNew else none := by
  have hfilter : (some top).filter (fun top => decide (thresholds.autoReuse ≤ top.score)) = none :=
    Option.filter_some_neg (decide_eq_false (Rat.not_le.2 h))
  rw [decideByScore, List.head?_cons, hfilter]
  rfl

theorem decideByScore_nil (h : 0 < thresholds.autoCreate) :
    decideByScore [] thresholds = some .createNew := if_pos h

theorem from_decideByScore (h : decideByScore similarNodes thresholds = some decision) :
    decision.From similarNodes := by
  cases similarNodes with
  | nil =>
      change (if 0 < thresholds.autoCreate then some ConceptDecision.createNew else none) = _ at h
      split at h
      · obtain rfl := Option.some.inj h
        trivial
      · cases h
  | cons best others =>
      by_cases hreuse : thresholds.autoReuse ≤ best.score
      · rw [decideByScore_reuse hreuse] at h
        obtain rfl := Option.some.inj h
        exact ⟨best, List.mem_cons_self, rfl, rfl⟩
      · rw [decideByScore_of_lt (not_le.1 hreuse)] at h
        split at h
        · obtain rfl := Option.some.inj h
          trivial
        · cases h

theorem from_decideByVerification (similarNodes : List SimilarNodeResult)
    (verification : VerificationResponse) :
    (decideByVerification similarNodes verification).From similarNodes := by
  rw [decideByVerification]
  split
  · split
    · rename_i node hnode
      refine ⟨node, ?_, rfl, rfl⟩
      rcases Option.or_eq_some_iff.1 hnode with hfound | ⟨-, hhead⟩
      · exact List.mem_of_find?_eq_some hfound
      · exact List.mem_of_mem_head? hhead
    · trivial
  · split
    · split
      · split
        · rename_i target htarget
          exact ⟨target, List.mem_of_find?_eq_some htarget, rfl, rfl⟩
        · trivial
      · trivial
    · trivial

theorem decideByScore_eq_none (hpositive : 0 < thresholds.autoCreate)
    (h : decideByScore similarNodes thresholds = none) :
    ∃ best others, similarNodes = best :: others ∧ thresholds.autoCreate ≤ best.score ∧
      best.score < thresholds.autoReuse := by
  cases similarNodes with
  | nil =>
      rw [decideByScore_nil hpositive] at h
      cases h
  | cons best others =>
      by_cases hreuse : thresholds.autoReuse ≤ best.score
      · rw [decideByScore_reuse hreuse] at h
        cases h
      · have hreuse := not_le.1 hreuse
        rw [decideByScore_of_lt hreuse] at h
        by_cases hcreate : best.score < thresholds.autoCreate
        · rw [if_pos hcreate] at h
          cases h
        · exact ⟨best, others, rfl, not_lt.1 hcreate, hreuse⟩

end Score

section Run

def Consulted (calls : List (Call (services Empty WorkerPrompt))) : Prop :=
  ∃ prompt reply, (⟨.generate prompt, reply⟩ : Call (services Empty WorkerPrompt)) ∈ calls

variable (codec : WorkerCodec) (env : Env) (w : World) (conceptName domainName nodeLabel : String)
  {similarNodes : List SimilarNodeResult} {thresholds : SimilarityThresholds}

def decisionRun (similarNodes : List SimilarNodeResult) (thresholds : SimilarityThresholds) :
    Execution (services Empty WorkerPrompt) ProcessingError ConceptDecision World :=
  env.exec (decideConceptAction codec conceptName similarNodes thresholds domainName nodeLabel) w

theorem decisionRun_some {decision : ConceptDecision}
    (h : decideByScore similarNodes thresholds = some decision) :
    decisionRun codec env w conceptName domainName nodeLabel similarNodes thresholds =
      ⟨.ok decision, w, []⟩ := by
  rw [decisionRun, decideConceptAction, h]
  rfl

/-- Where the score decides nothing the language model is asked, and what it says decides. -/
theorem decisionRun_none (h : decideByScore similarNodes thresholds = none) :
    Consulted (decisionRun codec env w conceptName domainName nodeLabel similarNodes thresholds).calls ∧
      ∀ decision, (decisionRun codec env w conceptName domainName nodeLabel similarNodes
        thresholds).exit = .ok decision → decision.From similarNodes := by
  rw [decisionRun, decideConceptAction, h]
  simp only [verifyWithLlm, askJson, bind_assoc]
  rw [exec_bind]
  have hask : ∀ prompt, env.exec (generate prompt : Processing _) w =
      ⟨.ok (env.llm w.clock), w.tick, [⟨.generate prompt, env.llm w.clock⟩]⟩ := fun _ => rfl
  rw [hask, Execution.andThen_ok]
  refine ⟨⟨_, _, List.mem_append_left _ (List.mem_singleton_self _)⟩, fun decision hexit => ?_⟩
  cases hreply : env.llm w.clock with
  | error e =>
      rw [hreply] at hexit
      cases hexit
  | ok response =>
      rw [hreply] at hexit
      cases hparse : codec.verification (extractJson response) with
      | error e =>
          simp only [hparse] at hexit
          cases hexit
      | ok verification =>
          simp only [hparse] at hexit
          obtain rfl := Exit.ok.inj hexit
          exact from_decideByVerification similarNodes verification

/-- What a decision carries is one of the nodes found; the language model is asked only about a best
score between the thresholds; above them the best node is taken, below them a new one is made; and
no error is reported unless the language model was asked. -/
theorem decideConceptAction_sound
    (hsorted : similarNodes.Pairwise fun a b => b.score ≤ a.score)
    (hthresholds : thresholds = .standard ∨ thresholds = .traitNode) :
    (∀ decision, (decisionRun codec env w conceptName domainName nodeLabel similarNodes
        thresholds).exit = .ok decision → decision.From similarNodes) ∧
    (Consulted (decisionRun codec env w conceptName domainName nodeLabel similarNodes thresholds).calls →
      ∃ best ∈ similarNodes, (∀ node ∈ similarNodes, node.score ≤ best.score) ∧
        thresholds.autoCreate ≤ best.score ∧ best.score < thresholds.autoReuse) ∧
    ((∃ node ∈ similarNodes, thresholds.autoReuse ≤ node.score) →
      ∃ best ∈ similarNodes, (∀ node ∈ similarNodes, node.score ≤ best.score) ∧
        (decisionRun codec env w conceptName domainName nodeLabel similarNodes thresholds).exit =
          .ok (.useExisting best.id best.name)) ∧
    ((∀ node ∈ similarNodes, node.score < thresholds.autoCreate) →
      (decisionRun codec env w conceptName domainName nodeLabel similarNodes thresholds).exit =
        .ok .createNew) ∧
    ∀ e, (decisionRun codec env w conceptName domainName nodeLabel similarNodes thresholds).exit = .err e →
      Consulted (decisionRun codec env w conceptName domainName nodeLabel similarNodes thresholds).calls := by
  have hpositive : 0 < thresholds.autoCreate := by
    rcases hthresholds with rfl | rfl <;> decide +kernel
  have hdistance : thresholds.autoCreate ≤ thresholds.autoReuse := by
    rcases hthresholds with rfl | rfl <;> decide +kernel
  have hbest : ∀ best others, similarNodes = best :: others →
      best ∈ similarNodes ∧ ∀ node ∈ similarNodes, node.score ≤ best.score := by
    rintro best others rfl
    refine ⟨List.mem_cons_self, fun node hnode => ?_⟩
    rcases List.mem_cons.1 hnode with rfl | hnode
    · exact le_refl _
    · exact (List.pairwise_cons.1 hsorted).1 node hnode
  cases hscore : decideByScore similarNodes thresholds with
  | none =>
      obtain ⟨best, others, hlist, hcreate, hreuse⟩ := decideByScore_eq_none hpositive hscore
      obtain ⟨hmem, hmax⟩ := hbest best others hlist
      obtain ⟨hconsulted, hfrom⟩ :=
        decisionRun_none codec env w conceptName domainName nodeLabel hscore
      refine ⟨hfrom, fun _ => ⟨best, hmem, hmax, hcreate, hreuse⟩, ?_, ?_, fun _ _ => hconsulted⟩
      · rintro ⟨node, hnode, hhigh⟩
        exact absurd (lt_of_le_of_lt (hmax node hnode) hreuse) (not_lt.2 hhigh)
      · exact fun hlow => absurd (hlow best hmem) (not_lt.2 hcreate)
  | some decision =>
      have hrun := decisionRun_some codec env w conceptName domainName nodeLabel hscore
      rw [hrun]
      refine ⟨?_, ?_, ?_, ?_, fun e he => by cases he⟩
      · rintro decision' hexit
        obtain rfl := Exit.ok.inj hexit
        exact from_decideByScore hscore
      · rintro ⟨prompt, reply, hmem⟩
        cases hmem
      · rintro ⟨node, hnode, hhigh⟩
        obtain ⟨best, others, hlist⟩ := List.exists_cons_of_ne_nil (List.ne_nil_of_mem hnode)
        obtain ⟨hmem, hmax⟩ := hbest best others hlist
        refine ⟨best, hmem, hmax, ?_⟩
        rw [hlist, decideByScore_reuse (hhigh.trans (hmax node hnode))] at hscore
        rw [Option.some.inj hscore]
      · intro hlow
        cases similarNodes with
        | nil =>
            rw [decideByScore_nil hpositive] at hscore
            rw [Option.some.inj hscore]
        | cons best others =>
            have hbelow := hlow best List.mem_cons_self
            rw [decideByScore_of_lt (lt_of_lt_of_le hbelow hdistance), if_pos hbelow] at hscore
            rw [Option.some.inj hscore]

def scaleNodes : List SimilarNodeResult :=
  [⟨"Scales", none, "4:1", 80 / 100⟩, ⟨"Modes", none, "4:2", 72 / 100⟩]

def deafCodec : WorkerCodec where
  job := fun _ => .error "expected value"
  verification := fun _ => .error "expected value"
  knowledge := fun _ => .error "expected value"
  skill := fun _ => .error "expected value"
  trait := fun _ => .error "expected value"
  milestone := fun _ => .error "expected value"

/-- The reply is not read, so the run fails, and it is about a score between the thresholds. -/
theorem decideConceptAction_sound_scales :
    ∃ best ∈ scaleNodes, (∀ node ∈ scaleNodes, node.score ≤ best.score) ∧
      SimilarityThresholds.standard.autoCreate ≤ best.score ∧
      best.score < SimilarityThresholds.standard.autoReuse := by
  have hsorted : scaleNodes.Pairwise fun a b => b.score ≤ a.score := by decide +kernel
  obtain ⟨-, hasked, -, -, herror⟩ := decideConceptAction_sound deafCodec .calm (.start emptyGraph)
    "Scales" "Piano" "Skill" hsorted (.inl rfl)
  have hexit : (decisionRun deafCodec .calm (.start emptyGraph) "Scales" "Piano" "Skill" scaleNodes
      .standard).exit = .err (.invalidData
        "Failed to parse LLM verification response: expected value. Response was: ") := by
    decide +kernel
  exact hasked (herror _ hexit)

end Run

end AtlasOfUs.Worker
