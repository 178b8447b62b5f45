import Mathlib.Algebra.Order.Ring.Rat
import AtlasOfUs.Library.Machine

namespace AtlasOfUs.ImageGen

open Library

/-- What has been added to the pipeline since its weights were loaded. -/
structure GenerationPipe where
  lora : Bool
  slicing : Bool
  tiling : Bool
  deriving DecidableEq

structure EditPipe where
  slicing : Bool
  tiling : Bool
  deriving DecidableEq

structure Globals where
  generationPipe : Option GenerationPipe
  editPipe : Option EditPipe
  deriving DecidableEq

/-- The steps at which something may be raised while a pipeline is loaded. -/
inductive LoadStep
  | scheduler
  | weights
  | lora
  | slicing
  | tiling
  deriving DecidableEq

section Pipelines

def unloadGenerationPipeline (g : Globals) : Globals := { g with generationPipe := none }

def unloadEditPipeline (g : Globals) : Globals := { g with editPipe := none }

variable {α : Type}

/-- The steps that follow on the weights: the globals at each moment, and the pipeline if no step
raises anything. -/
def configure (raised : Option LoadStep) (resident : α → Globals) :
    List (LoadStep × (α → α)) → α → List Globals × Option α
  | [], pipe => ([resident pipe], some pipe)
  | (step, add) :: steps, pipe =>
      if raised = some step then ([resident pipe], none)
      else
        let (moments, result) := configure raised resident steps (add pipe)
        (resident pipe :: moments, result)

def getGenerationPipeline (raised : Option LoadStep) (g : Globals) :
    List Globals × Option GenerationPipe :=
  match g.generationPipe with
  | some pipe => ([g], some pipe)
  | none =>
      let g := unloadEditPipeline g
      if raised = some .scheduler ∨ raised = some .weights then ([g], none)
      else
        let (moments, result) := configure raised
          (fun pipe => { g with generationPipe := some pipe })
          [(.lora, fun pipe => { pipe with lora := true }),
            (.slicing, fun pipe => { pipe with slicing := true }),
            (.tiling, fun pipe => { pipe with tiling := true })] ⟨false, false, false⟩
        (g :: moments, result)

def getEditPipeline (raised : Option LoadStep) (g : Globals) : List Globals × Option EditPipe :=
  match g.editPipe with
  | some pipe => ([g], some pipe)
  | none =>
      let g := unloadGenerationPipeline g
      if raised = some .weights then ([g], none)
      else
        let (moments, result) := configure raised
          (fun pipe => { g with editPipe := some pipe })
          [(.slicing, fun pipe => { pipe with slicing := true }),
            (.tiling, fun pipe => { pipe with tiling := true })] ⟨false, false⟩
        (g :: moments, result)

end Pipelines

section Requests

structure GenerateRequest where
  prompt : String
  width : Int
  height : Int
  numInferenceSteps : Int
  trueCfgScale : ℚ

def GenerateRequest.valid (r : GenerateRequest) : Bool :=
  r.prompt ≠ "" && (256 ≤ r.width && r.width ≤ 2048 && r.width % 64 = 0) &&
    (256 ≤ r.height && r.height ≤ 2048 && r.height % 64 = 0) &&
    (1 ≤ r.numInferenceSteps && r.numInferenceSteps ≤ 100) &&
    (1 ≤ r.trueCfgScale && r.trueCfgScale ≤ 20)

/-- A request, with what is raised while its pipeline is loaded and whether the pipeline then makes
an image of it. -/
inductive Request
  | healthcheck
  | generate (request : GenerateRequest) (raised : Option LoadStep) (made : Bool)
  | edit (contentType prompt : String) (numInferenceSteps : Int) (readable : Bool)
      (raised : Option LoadStep) (made : Bool)

inductive Response
  | health (generationModelLoaded editModelLoaded : Bool)
  | generated (pipe : GenerationPipe)
  | edited (pipe : EditPipe)
  | error (status : Nat)
  deriving DecidableEq

/-- The globals at each moment of a request, and the response. -/
def respond (g : Globals) : Request → List Globals × Response
  | .healthcheck => ([g], .health g.generationPipe.isSome g.editPipe.isSome)
  | .generate request raised made =>
      if request.valid then
        match getGenerationPipeline raised g with
        | (moments, some pipe) => (moments, if made then .generated pipe else .error 500)
        | (moments, none) => (moments, .error 500)
      else ([g], .error 422)
  | .edit contentType prompt numInferenceSteps readable raised made =>
      if prompt ≠ "" ∧ 1 ≤ numInferenceSteps ∧ numInferenceSteps ≤ 100 then
        if contentType ∈ ["image/png", "image/jpeg", "image/jpg"] then
          if readable then
            match getEditPipeline raised g with
            | (moments, some pipe) => (moments, if made then .edited pipe else .error 500)
            | (moments, none) => (moments, .error 500)
          else ([g], .error 500)
        else ([g], .error 400)
      else ([g], .error 422)

theorem respond_generate (request : GenerateRequest) (raised : Option LoadStep) (made : Bool)
    (g : Globals) :
    respond g (.generate request raised made) =
      if request.valid = true then
        ((getGenerationPipeline raised g).1,
          match (getGenerationPipeline raised g).2 with
          | some pipe => if made then .generated pipe else .error 500
          | none => .error 500)
      else ([g], .error 422) := by
  rw [respond]
  rcases getGenerationPipeline raised g with ⟨moments, _ | pipe⟩ <;> rfl

theorem respond_edit (contentType prompt : String) (numInferenceSteps : Int) (readable : Bool)
    (raised : Option LoadStep) (made : Bool) (g : Globals) :
    (respond g (.edit contentType prompt numInferenceSteps readable raised made)).1 =
      if (prompt ≠ "" ∧ 1 ≤ numInferenceSteps ∧ numInferenceSteps ≤ 100) ∧
          contentType ∈ ["image/png", "image/jpeg", "image/jpg"] ∧ readable = true then
        (getEditPipeline raised g).1
      else [g] := by
  rw [respond]
  split <;> rename_i hform
  · split <;> rename_i htype
    · split <;> rename_i hreadable
      · rw [if_pos ⟨hform, htype, hreadable⟩]
        rcases getEditPipeline raised g with ⟨moments, _ | pipe⟩ <;> rfl
      · rw [if_neg (fun h => hreadable h.2.2)]
    · rw [if_neg (fun h => htype h.2.1)]
  · rw [if_neg (fun h => hform h.1)]

def after (request : Request) (g : Globals) : Globals := (respond g request).1.getLast?.getD g

/-- The process starts when the generation pipeline has been loaded. -/
def preloadModels (raised : Option LoadStep) : Option Globals :=
  match getGenerationPipeline raised ⟨none, none⟩ with
  | (moments, some _) => moments.getLast?
  | (_, none) => none

def globalsAt (start : Globals) (requests : List Request) (k : Nat) : Globals :=
  stateAt after requests start k

end Requests

section Residents

variable {g : Globals} {raised : Option LoadStep}

def Exclusive (g : Globals) : Prop := g.generationPipe = none ∨ g.editPipe = none

/-- Weights are loaded only where no other pipeline is. -/
def Vacates (g g' : Globals) : Prop :=
  (g.generationPipe = none → g'.generationPipe ≠ none → g.editPipe = none) ∧
    (g.editPipe = none → g'.editPipe ≠ none → g.generationPipe = none)

theorem Vacates.refl (g : Globals) : Vacates g g :=
  ⟨fun h h' => absurd h h', fun h h' => absurd h h'⟩

variable {α : Type} {resident : α → Globals} {steps : List (LoadStep × (α → α))}

theorem mem_configure {m : Globals} {pipe : α} (h : m ∈ (configure raised resident steps pipe).1) :
    ∃ pipe', m = resident pipe' := by
  induction steps generalizing pipe with
  | nil => exact ⟨pipe, List.mem_singleton.1 h⟩
  | cons step steps ih =>
      rw [configure] at h
      split at h
      · exact ⟨pipe, List.mem_singleton.1 h⟩
      · rcases List.mem_cons.1 h with rfl | h
        · exact ⟨pipe, rfl⟩
        · exact ih h

theorem chain_configure {R : Globals → Globals → Prop}
    (h : ∀ pipe pipe', R (resident pipe) (resident pipe')) {g : Globals}
    (hg : ∀ pipe, R g (resident pipe)) (pipe : α) :
    (g :: (configure raised resident steps pipe).1).IsChain R := by
  induction steps generalizing g pipe with
  | nil => exact .cons_cons (hg pipe) (.singleton _)
  | cons step steps ih =>
      rw [configure]
      split
      · exact .cons_cons (hg pipe) (.singleton _)
      · exact .cons_cons (hg pipe) (ih (h pipe) _)

structure Guarded (g : Globals) (moments : List Globals) : Prop where
  exclusive : ∀ m ∈ moments, Exclusive m
  vacates : (g :: moments).IsChain Vacates

/-- Loading that starts from globals where the other pipeline has gone, and keeps them so. -/
theorem guarded_load {vacated : Globals} (hvacated : Vacates g vacated)
    (hexclusive : Exclusive vacated) (hresident : ∀ pipe, Exclusive (resident pipe))
    (hload : ∀ pipe, Vacates vacated (resident pipe))
    (hkept : ∀ pipe pipe', Vacates (resident pipe) (resident pipe')) (pipe : α) :
    Guarded g (vacated :: (configure raised resident steps pipe).1) := by
  refine ⟨fun m hm => ?_, .cons_cons hvacated (chain_configure hkept hload pipe)⟩
  rcases List.mem_cons.1 hm with rfl | hm
  · exact hexclusive
  · obtain ⟨pipe', rfl⟩ := mem_configure hm
    exact hresident pipe'

theorem guarded_unload {vacated : Globals} (hvacated : Vacates g vacated)
    (hexclusive : Exclusive vacated) : Guarded g [vacated] :=
  ⟨fun _ hm => List.mem_singleton.1 hm ▸ hexclusive, .cons_cons hvacated (.singleton _)⟩

theorem guarded_self (h : Exclusive g) : Guarded g [g] := guarded_unload (.refl g) h

theorem guarded_getGenerationPipeline (h : Exclusive g) (raised : Option LoadStep) :
    Guarded g (getGenerationPipeline raised g).1 := by
  unfold getGenerationPipeline
  cases hpipe : g.generationPipe with
  | some pipe => exact guarded_self h
  | none =>
      have hunloaded : Vacates g (unloadEditPipeline g) :=
        ⟨fun _ hne => absurd hpipe hne, fun _ hne => absurd rfl hne⟩
      have hexclusive : Exclusive (unloadEditPipeline g) := .inr rfl
      simp only []
      split
      · exact guarded_unload hunloaded hexclusive
      · refine guarded_load hunloaded hexclusive (fun _ => .inr rfl) ?_ ?_ _
        · exact fun _ => ⟨fun _ _ => rfl, fun _ hne => absurd rfl hne⟩
        · exact fun _ _ =>
            ⟨fun hnone => absurd hnone (Option.some_ne_none _), fun _ hne => absurd rfl hne⟩

theorem guarded_getEditPipeline (h : Exclusive g) (raised : Option LoadStep) :
    Guarded g (getEditPipeline raised g).1 := by
  unfold getEditPipeline
  cases hpipe : g.editPipe with
  | some pipe => exact guarded_self h
  | none =>
      have hunloaded : Vacates g (unloadGenerationPipeline g) :=
        ⟨fun _ hne => absurd rfl hne, fun _ hne => absurd hpipe hne⟩
      have hexclusive : Exclusive (unloadGenerationPipeline g) := .inl rfl
      simp only []
      split
      · exact guarded_unload hunloaded hexclusive
      · refine guarded_load hunloaded hexclusive (fun _ => .inl rfl) ?_ ?_ _
        · exact fun _ => ⟨fun _ hne => absurd rfl hne, fun _ _ => rfl⟩
        · exact fun _ _ =>
            ⟨fun _ hne => absurd rfl hne, fun hnone => absurd hnone (Option.some_ne_none _)⟩

theorem guarded_respond (h : Exclusive g) (request : Request) :
    Guarded g (respond g request).1 := by
  cases request with
  | healthcheck => exact guarded_self h
  | generate request raised made =>
      rw [respond_generate]
      split
      · exact guarded_getGenerationPipeline h raised
      · exact guarded_self h
  | edit contentType prompt numInferenceSteps readable raised made =>
      rw [respond_edit]
      split
      · exact guarded_getEditPipeline h raised
      · exact guarded_self h

theorem exclusive_after (request : Request) (g : Globals) (h : Exclusive g) :
    Exclusive (after request g) := by
  rw [after]
  cases hlast : (respond g request).1.getLast? with
  | none => exact h
  | some m => exact (guarded_respond h request).exclusive m (List.mem_of_getLast? hlast)

theorem exclusive_preloadModels {start : Globals} (h : preloadModels raised = some start) :
    Exclusive start := by
  unfold preloadModels at h
  split at h
  · next moments pipe heq =>
      have hguarded := guarded_getGenerationPipeline (g := ⟨none, none⟩) (.inl rfl) raised
      rw [heq] at hguarded
      exact hguarded.exclusive start (List.mem_of_getLast? h)
  · cases h

/-- At every moment of every request, whatever fails, at most one pipeline is there, and weights are
only loaded once the other pipeline has gone. -/
theorem pipelines_exclusive {start : Globals} (hstart : preloadModels raised = some start)
    (requests : List Request) (k : Nat) (request : Request) :
    (∀ m ∈ (respond (globalsAt start requests k) request).1, Exclusive m) ∧
      (globalsAt start requests k :: (respond (globalsAt start requests k) request).1).IsChain
        Vacates := by
  have hall : Exclusive (globalsAt start requests k) :=
    holds_along (C := fun _ _ => True) (fun request g _ h => exclusive_after request g h)
      (exclusive_preloadModels hstart) (fun _ _ _ => trivial) k
  exact ⟨(guarded_respond hall request).exclusive, (guarded_respond hall request).vacates⟩

/-- An image is edited, and then the LoRA cannot be loaded when one is to be generated again. -/
def portraitRequests : List Request :=
  [.edit "image/png" "add a hat" 50 true none true,
    .generate ⟨"a portrait", 1024, 1024, 8, 1⟩ (some .lora) true]

theorem pipelines_exclusive_portrait :
    (∀ m ∈ (respond (globalsAt ⟨some ⟨true, true, true⟩, none⟩ portraitRequests 1)
        (.generate ⟨"a portrait", 1024, 1024, 8, 1⟩ (some .lora) true)).1, Exclusive m) ∧
      (globalsAt ⟨some ⟨true, true, true⟩, none⟩ portraitRequests 1 ::
        (respond (globalsAt ⟨some ⟨true, true, true⟩, none⟩ portraitRequests 1)
          (.generate ⟨"a portrait", 1024, 1024, 8, 1⟩ (some .lora) true)).1).IsChain Vacates :=
  pipelines_exclusive (by decide : preloadModels none = _) portraitRequests 1 _

end Residents

section Weights

variable {g : Globals} {raised : Option LoadStep}

def leftBy : Option LoadStep → Option GenerationPipe
  | some .scheduler | some .weights => none
  | some .lora => some ⟨false, false, false⟩
  | some .slicing => some ⟨true, false, false⟩
  | some .tiling => some ⟨true, true, false⟩
  | none => some ⟨true, true, true⟩

theorem getLast?_getGenerationPipeline (h : g.generationPipe = none) :
    (getGenerationPipeline raised g).1.getLast? = some ⟨leftBy raised, none⟩ := by
  obtain ⟨pipe, edit⟩ := g
  cases h
  rcases raised with _ | _ | _ | _ | _ | _ <;> rfl

variable (raised) in
theorem getLast?_getEditPipeline (h : g.editPipe = none) :
    ∃ edit, (getEditPipeline raised g).1.getLast? = some ⟨none, edit⟩ := by
  obtain ⟨pipe, edit⟩ := g
  cases h
  rcases raised with _ | _ | _ | _ | _ | _ <;> exact ⟨_, rfl⟩

/-- The pipeline that is handed out is the one that was there, or a complete one. -/
theorem getGenerationPipeline_result {pipe : GenerationPipe}
    (h : (getGenerationPipeline raised g).2 = some pipe) :
    g.generationPipe = some pipe ∨ g.generationPipe = none ∧ pipe = ⟨true, true, true⟩ := by
  obtain ⟨generation, edit⟩ := g
  cases generation with
  | some there => exact .inl h
  | none => rcases raised with _ | _ | _ | _ | _ | _ <;> cases h; exact .inr ⟨rfl, rfl⟩

def LacksLora (g : Globals) : Prop := ∃ pipe, g.generationPipe = some pipe ∧ pipe.lora = false

/-- The request loads the generation pipeline and its LoRA cannot be loaded. -/
def Request.losesLora (request : Request) (g : Globals) : Prop :=
  match request with
  | .generate request raised _ =>
      request.valid = true ∧ g.generationPipe = none ∧ raised = some .lora
  | _ => False

/-- The request loads the edit pipeline, and unloads the other for it. -/
def Request.loadsEdit (request : Request) (g : Globals) : Prop :=
  match request with
  | .edit contentType prompt numInferenceSteps readable _ _ =>
      (prompt ≠ "" ∧ 1 ≤ numInferenceSteps ∧ numInferenceSteps ≤ 100) ∧
        contentType ∈ ["image/png", "image/jpeg", "image/jpg"] ∧ readable = true ∧ g.editPipe = none
  | _ => False

theorem lacksLora_leftBy : LacksLora ⟨leftBy raised, none⟩ ↔ raised = some .lora := by
  rcases raised with _ | _ | _ | _ | _ | _ <;> simp [LacksLora, leftBy]

theorem after_generate (request : GenerateRequest) (raised : Option LoadStep) (made : Bool)
    (g : Globals) :
    after (.generate request raised made) g =
      if request.valid = true ∧ g.generationPipe = none then ⟨leftBy raised, none⟩ else g := by
  rw [after, respond_generate]
  by_cases hvalid : request.valid = true
  · rw [if_pos hvalid]
    cases hpipe : g.generationPipe with
    | none =>
        rw [getLast?_getGenerationPipeline hpipe, if_pos ⟨hvalid, rfl⟩, Option.getD_some]
    | some pipe =>
        rw [if_neg (fun h => Option.some_ne_none _ h.2)]
        simp [getGenerationPipeline, hpipe]
  · rw [if_neg hvalid, if_neg (fun h => hvalid h.1)]
    rfl

theorem generationPipe_after_of_loadsEdit {request : Request} (h : request.loadsEdit g) :
    (after request g).generationPipe = none := by
  cases request with
  | healthcheck => cases h
  | generate request raised made => cases h
  | edit contentType prompt numInferenceSteps readable raised made =>
      obtain ⟨hform, htype, hreadable, hpipe⟩ := h
      obtain ⟨edit, hlast⟩ := getLast?_getEditPipeline raised hpipe
      rw [after, respond_edit, if_pos ⟨hform, htype, hreadable⟩, hlast, Option.getD_some]

theorem after_edit_of_not_loadsEdit {contentType prompt : String} {numInferenceSteps : Int}
    {readable made : Bool}
    (h : ¬ (Request.edit contentType prompt numInferenceSteps readable raised made).loadsEdit g) :
    after (.edit contentType prompt numInferenceSteps readable raised made) g = g := by
  rw [after, respond_edit]
  split <;> rename_i hreached
  · cases hpipe : g.editPipe with
    | none => exact absurd ⟨hreached.1, hreached.2.1, hreached.2.2, hpipe⟩ h
    | some pipe => simp [getEditPipeline, hpipe]
  · rfl

/-- A request leaves the pipeline without its LoRA exactly if the LoRA cannot be loaded now, or it
was missing and the pipeline stays. -/
theorem lacksLora_after (request : Request) (g : Globals) :
    LacksLora (after request g) ↔
      request.losesLora g ∨ LacksLora g ∧ ¬ request.loadsEdit g := by
  cases request with
  | healthcheck => simp [Request.losesLora, Request.loadsEdit, after, respond]
  | generate request raised made =>
      rw [after_generate]
      split <;> rename_i hloads
      · have hnot : ¬ LacksLora g := by
          rintro ⟨pipe, hpipe, -⟩
          exact absurd (hloads.2.symm.trans hpipe) (Option.some_ne_none pipe).symm
        rw [lacksLora_leftBy]
        simp [Request.losesLora, hloads, hnot]
      · have hnot : ¬ (Request.generate request raised made).losesLora g :=
          fun h => hloads ⟨h.1, h.2.1⟩
        simp [hnot, Request.loadsEdit]
  | edit contentType prompt numInferenceSteps readable raised made =>
      by_cases hloads :
          (Request.edit contentType prompt numInferenceSteps readable raised made).loadsEdit g
      · have hnot : ¬ LacksLora
            (after (.edit contentType prompt numInferenceSteps readable raised made) g) := by
          rintro ⟨pipe, hpipe, -⟩
          exact absurd ((generationPipe_after_of_loadsEdit hloads).symm.trans hpipe)
            (Option.some_ne_none pipe).symm
        simp [hnot, hloads, Request.losesLora]
      · rw [after_edit_of_not_loadsEdit hloads]
        simp [hloads, Request.losesLora]

theorem not_lacksLora_preloadModels {start : Globals} (h : preloadModels raised = some start) :
    ¬ LacksLora start := by
  rcases raised with _ | _ | _ | _ | _ | _ <;> cases h
  rintro ⟨pipe, hpipe, hlora⟩
  cases hpipe
  cases hlora

theorem pipe_of_generated {request : Request} {pipe : GenerationPipe}
    (h : (respond g request).2 = .generated pipe) :
    g.generationPipe = some pipe ∨ g.generationPipe = none ∧ pipe = ⟨true, true, true⟩ := by
  cases request with
  | healthcheck => cases h
  | generate request raised made =>
      rw [respond_generate] at h
      split at h
      · cases hresult : (getGenerationPipeline raised g).2 with
        | none =>
            rw [hresult] at h
            cases h
        | some there =>
            rw [hresult] at h
            cases made <;> cases h
            exact getGenerationPipeline_result hresult
      · cases h
  | edit contentType prompt numInferenceSteps readable raised made =>
      rw [respond] at h
      split at h
      · split at h
        · split at h
          · rcases heq : getEditPipeline raised g with ⟨moments, _ | edit⟩ <;>
              cases made <;> simp [heq] at h
          · cases h
        · cases h
      · cases h

/-- An image is made without the LoRA exactly where loading the LoRA has failed since the pipeline
was last unloaded: the pipeline is kept, and no later request loads the LoRA again. -/
theorem generated_without_lora_iff {start : Globals} (hstart : preloadModels raised = some start)
    (requests : List Request) {k : Nat} {request : Request} {pipe : GenerationPipe}
    (hmade : (respond (globalsAt start requests k) request).2 = .generated pipe) :
    pipe.lora = false ↔
      ∃ j < k, (∃ failed, requests[j]? = some failed ∧
          failed.losesLora (globalsAt start requests j)) ∧
        ∀ l, j < l → l < k → ∀ other, requests[l]? = some other →
          ¬ other.loadsEdit (globalsAt start requests l) := by
  have hpipe : pipe.lora = false ↔ LacksLora (globalsAt start requests k) := by
    rcases pipe_of_generated hmade with hthere | ⟨hnone, rfl⟩
    · exact ⟨fun hlora => ⟨pipe, hthere, hlora⟩,
        fun ⟨pipe', hthere', hlora⟩ => Option.some.inj (hthere.symm.trans hthere') ▸ hlora⟩
    · refine ⟨fun hlora => Bool.noConfusion hlora, fun ⟨pipe', hthere', _⟩ => ?_⟩
      exact absurd (hnone.symm.trans hthere') (Option.some_ne_none pipe').symm
  rw [hpipe]
  exact holds_iff_since lacksLora_after (not_lacksLora_preloadModels hstart) k

theorem generated_without_lora_iff_portrait :
    ∃ j < 2, (∃ failed, portraitRequests[j]? = some failed ∧
        failed.losesLora (globalsAt ⟨some ⟨true, true, true⟩, none⟩ portraitRequests j)) ∧
      ∀ l, j < l → l < 2 → ∀ other, portraitRequests[l]? = some other →
        ¬ other.loadsEdit (globalsAt ⟨some ⟨true, true, true⟩, none⟩ portraitRequests l) :=
  (generated_without_lora_iff (by decide : preloadModels none = _) portraitRequests
    (by decide : (respond (globalsAt ⟨some ⟨true, true, true⟩, none⟩ portraitRequests 2)
      (.generate ⟨"a portrait", 1024, 1024, 8, 1⟩ none true)).2 =
        .generated ⟨false, false, false⟩)).1 rfl

end Weights

end AtlasOfUs.ImageGen
