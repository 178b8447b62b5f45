import AtlasOfUs.Library.GraphInvariants
import AtlasOfUs.Worker.Decisions
import AtlasOfUs.Worker.Stages

namespace AtlasOfUs

open Library

section Unfailing

variable {Event Prompt ε α : Type} {env : Env}

theorem Outcome.eq_done {o : Outcome} {q : Statement} {rows : List Row}
    (h : ¬ Op.fails (.execute q : Op Event Prompt) (o.reply rows)) : o = .done := by
  cases o with
  | done => rfl
  | failed applied e => exact absurd (.inl ⟨e, rfl⟩) h
  | cut applied n e => exact absurd (.inr ⟨_, e, rfl, rfl⟩) h

theorem exec_unfailing (p : Service Event Prompt ε α) (w : World)
    (h : ∀ call ∈ (env.exec p w).calls, ¬ Op.fails call.1 call.2) :
    env.exec p w = ({ env with outcome := fun _ => .done } : Env).exec p w := by
  induction p generalizing w with
  | done a | fail e | panic => rfl
  | call o k ih =>
      obtain ⟨hfirst, hrest⟩ := List.forall_mem_cons.1 h
      have hstep : env.handler o w = ({ env with outcome := fun _ => .done } : Env).handler o w := by
        cases o with
        | execute q =>
            have hdone := Outcome.eq_done hfirst
            simp only [Env.handler, hdone]
        | _ => rfl
      have hnext := ih (env.handler o w).1 (env.handler o w).2 hrest
      rw [Env.exec, Env.exec, Proc.run_call, Proc.run_call, ← hstep]
      rw [Env.exec, Env.exec] at hnext
      rw [hnext]

theorem unfailing_calm (p : Service Event Prompt ε α) (w : World) :
    ∀ call ∈ (Env.calm.exec p w).calls, ¬ Op.fails call.1 call.2 := by
  induction p generalizing w with
  | done a | fail e | panic => exact fun call hcall => absurd hcall List.not_mem_nil
  | call o k ih =>
      intro call hcall
      rw [Env.exec, Proc.run_call] at hcall
      rcases List.mem_cons.1 hcall with rfl | hcall
      · cases o with
        | execute q =>
            rintro (⟨e, he⟩ | ⟨rs, e, hrs, he⟩)
            · cases he
            · obtain rfl := Except.ok.inj hrs
              cases he
        | _ => simp [Op.fails, Env.handler, Env.calm]
      · exact ih _ _ call hcall

end Unfailing

namespace Worker

open Similarity

section Decision

variable {codec : WorkerCodec} {env : Env} {job : NodeGenerationJob} {clock : Nat} {id : ElementId}
  {name : String}

theorem mem_of_useExisting (h : job.decision codec env clock = some (.useExisting id name)) :
    ∃ rows, env.similar (clock + 1) = .ok rows ∧ ∃ row ∈ rows, row.id.getD "" = id := by
  rw [NodeGenerationJob.decision] at h
  split at h
  · cases h
  · obtain ⟨vector, -, h⟩ := Option.bind_eq_some_iff.1 h
    obtain ⟨rows, hrows, h⟩ := Option.bind_eq_some_iff.1 h
    have hfrom : (ConceptDecision.useExisting id name).From (rows.map SimilarNodeResult.ofRow) := by
      rcases Option.or_eq_some_iff.1 h with hscore | ⟨-, hverified⟩
      · exact from_decideByScore hscore
      · obtain ⟨verification, -, hverified⟩ := Option.map_eq_some_iff.1 hverified
        rw [← hverified]
        exact from_decideByVerification _ verification
    obtain ⟨node, hmem, hid, -⟩ := hfrom
    obtain ⟨row, hrow, rfl⟩ := List.mem_map.1 hmem
    refine ⟨rows, ?_, row, hrow, hid⟩
    cases hreply : env.similar (clock + 1) with
    | error e =>
        rw [hreply] at hrows
        cases hrows
    | ok rows' =>
        rw [hreply] at hrows
        exact congrArg _ (Option.some.inj hrows)

end Decision

section Level

theorem toNat_determineLevel (suggestedLevel : Option UInt8) :
    (determineLevel suggestedLevel).toNat = max 1 (min 5 (suggestedLevel.getD 3).toNat) := by
  rw [determineLevel]
  generalize suggestedLevel.getD 3 = level
  rw [clamp]
  split
  · rename_i hlow
    have hlow : level.toNat < 1 := UInt8.lt_iff_toNat_lt.1 hlow
    change 1 = _
    omega
  · rename_i hlow
    have hlow : ¬ level.toNat < 1 := fun h => hlow (UInt8.lt_iff_toNat_lt.2 h)
    split
    · rename_i hhigh
      have hhigh : 5 < level.toNat := UInt8.lt_iff_toNat_lt.1 hhigh
      change 5 = _
      omega
    · rename_i hhigh
      have hhigh : ¬ 5 < level.toNat := fun h => hhigh (UInt8.lt_iff_toNat_lt.2 h)
      omega

theorem determineLevel_mem (suggestedLevel : Option UInt8) :
    determineLevel suggestedLevel ∈ [(1 : UInt8), 2, 3, 4, 5] := by
  have hlevel := toNat_determineLevel suggestedLevel
  have hcases : (determineLevel suggestedLevel).toNat = 1 ∨ (determineLevel suggestedLevel).toNat = 2 ∨
      (determineLevel suggestedLevel).toNat = 3 ∨ (determineLevel suggestedLevel).toNat = 4 ∨
      (determineLevel suggestedLevel).toNat = 5 := by
    omega
  simp only [List.mem_cons, List.not_mem_nil, or_false, ← UInt8.toNat_inj]
  exact hcases

variable {job : NodeGenerationJob} {g g' : Graph}

structure LevelsReady (job : NodeGenerationJob) (g : Graph) : Prop where
  numbers : job.domainLevels.map (·.level) = [1, 2, 3, 4, 5]
  stored : ∀ level ∈ job.domainLevels, g.labelled "Domain_Level" level.elementId = true

theorem assignedLevel_of_numbers (h : job.domainLevels.map (·.level) = [1, 2, 3, 4, 5]) :
    ∃ level, job.assignedLevel = some level ∧ level ∈ job.domainLevels ∧
      level.level = determineLevel job.suggestedLevel := by
  have hnumber : determineLevel job.suggestedLevel ∈ job.domainLevels.map (·.level) := by
    rw [h]
    exact determineLevel_mem job.suggestedLevel
  obtain ⟨level, hlevel, hnumber⟩ := List.mem_map.1 hnumber
  cases hfound : job.assignedLevel with
  | none => exact absurd (decide_eq_true hnumber) (List.find?_eq_none.1 hfound level hlevel)
  | some level =>
      exact ⟨level, rfl, List.mem_of_find?_eq_some hfound, by simpa using List.find?_some hfound⟩

def Places (job : NodeGenerationJob) (e : Edge) : Prop :=
  e.type = job.nodeType.levelRelationship ∧ ∃ level ∈ job.domainLevels,
    level.level.toNat = max 1 (min 5 (job.suggestedLevel.getD 3).toNat) ∧ e.source = level.elementId

def FindsStored (env : Env) (g : Graph) : Prop :=
  ∀ rows, env.similar 1 = .ok rows → ∀ row ∈ rows, ∃ id ∈ g.nodeIds, row.id = some id

variable {codec : WorkerCodec} {env : Env} {id : ElementId}

/-- Where every statement is carried out, making a node leaves the levels and their edges alone. -/
theorem Begun.frame (hdone : ∀ n, env.outcome n = .done) {o : Outcome}
    (h : Begun env job g (some o) g') :
    g'.edgesLeaving "Domain_Level" = g.edgesLeaving "Domain_Level" ∧ g.freshId ∈ g'.nodeIds ∧
      ∀ i, g'.labelled "Domain_Level" i = g.labelled "Domain_Level" i := by
  have hlabel := job.nodeType.label_ne_level
  cases h with
  | made name props n =>
      rw [hdone, Outcome.after_done, createNodeStatement]
      refine ⟨Graph.edgesLeaving_createNode hlabel, ?_, Graph.labelled_createNode hlabel⟩
      rw [Graph.createNode_nodeIds]
      exact List.mem_append_right _ (List.mem_singleton_self _)
  | generalized name props n m target =>
      rw [hdone, hdone, Outcome.after_done, Outcome.after_done, createNodeStatement, connectStatement]
      have hfresh : (g.createNode [job.nodeType.label] props).labelled "Domain_Level" g.freshId = false := by
        rw [Graph.labelled_createNode hlabel, Graph.labelled_freshId]
      refine ⟨?_, ?_, fun i => ?_⟩
      · rw [Graph.edgesLeaving_createEdge_of_not hfresh, Graph.edgesLeaving_createNode hlabel]
      · rw [Graph.createEdge_nodeIds, Graph.createNode_nodeIds]
        exact List.mem_append_right _ (List.mem_singleton_self _)
      · rw [Graph.labelled_createEdge, Graph.labelled_createNode hlabel]

theorem Processed.places (hdone : ∀ n, env.outcome n = .done) (hfinds : FindsStored env g)
    (hready : LevelsReady job g) (h : Processed codec env 0 job g id g') :
    (∃ e, g'.edgesLeaving "Domain_Level" = g.edgesLeaving "Domain_Level" ++ [e] ∧ Places job e ∧
        e.target = id) ∧
      ∀ i, g'.labelled "Domain_Level" i = g.labelled "Domain_Level" i := by
  obtain ⟨decision, wasReused, g₁, hdecision, hresolved, hassigned⟩ := h
  have hnode : g₁.edgesLeaving "Domain_Level" = g.edgesLeaving "Domain_Level" ∧ id ∈ g₁.nodeIds ∧
      ∀ i, g₁.labelled "Domain_Level" i = g.labelled "Domain_Level" i := by
    cases hresolved with
    | reused id name =>
        obtain ⟨rows, hrows, row, hrow, hid⟩ := mem_of_useExisting hdecision
        obtain ⟨found, hfound, hsome⟩ := hfinds rows hrows row hrow
        rw [hsome] at hid
        obtain rfl : found = id := hid
        exact ⟨rfl, hfound, fun i => rfl⟩
    | made hbegun hrow => exact hbegun.frame hdone
  obtain ⟨hedges, hid, hlabels⟩ := hnode
  obtain ⟨level, hlevel, hmem, hnumber⟩ := assignedLevel_of_numbers hready.numbers
  cases hassigned with
  | none hnone =>
      rw [hlevel] at hnone
      cases hnone
  | linked hsome n =>
      obtain rfl := Option.some.inj (hlevel.symm.trans hsome)
      have hsource : g₁.labelled "Domain_Level" level.elementId = true := by
        rw [hlabels]
        exact hready.stored level hmem
      rw [hdone, Outcome.after_done, connectStatement]
      refine ⟨⟨_, by rw [Graph.edgesLeaving_createEdge hsource hid, hedges], ⟨rfl, level, hmem, ?_, rfl⟩, rfl⟩,
        fun i => ?_⟩
      · rw [hnumber, toNat_determineLevel]
      · rw [Graph.labelled_createEdge, hlabels]

end Level

section Run

variable (codec : WorkerCodec) (config : Config)

structure Delivery where
  env : Env
  job : NodeGenerationJob

def Delivery.run (delivery : Delivery) (g : Graph) :
    Execution (services Empty WorkerPrompt) ProcessingError NodeGenerationResult World :=
  delivery.env.exec (processJob codec config delivery.job) (.start g)

/-- The processors handle the jobs one after the other without any error, with these results. -/
inductive Handled : Graph → List Delivery → List NodeGenerationResult → Graph → Prop
  | nil (g : Graph) : Handled g [] [] g
  | cons {g g' : Graph} {delivery : Delivery} {deliveries : List Delivery}
      {result : NodeGenerationResult} {results : List NodeGenerationResult}
      (hok : (delivery.run codec config g).exit = .ok result)
      (hcalls : ∀ call ∈ (delivery.run codec config g).calls, ¬ Op.fails call.1 call.2)
      (hfinds : FindsStored delivery.env g)
      (hrest : Handled (delivery.run codec config g).state.graph deliveries results g') :
      Handled g (delivery :: deliveries) (result :: results) g'

variable {codec config} {g g' : Graph}

theorem Delivery.places {delivery : Delivery} {result : NodeGenerationResult}
    (hok : (delivery.run codec config g).exit = .ok result)
    (hcalls : ∀ call ∈ (delivery.run codec config g).calls, ¬ Op.fails call.1 call.2)
    (hfinds : FindsStored delivery.env g) (hready : LevelsReady delivery.job g) :
    (∃ e, (delivery.run codec config g).state.graph.edgesLeaving "Domain_Level" =
        g.edgesLeaving "Domain_Level" ++ [e] ∧ Places delivery.job e ∧
        result.elementId = some e.target) ∧
      ∀ i, (delivery.run codec config g).state.graph.labelled "Domain_Level" i =
        g.labelled "Domain_Level" i := by
  let calm : Env := { delivery.env with outcome := fun _ => .done }
  have hrun : delivery.run codec config g = calm.exec (processJob codec config delivery.job) (.start g) :=
    exec_unfailing _ _ hcalls
  rw [hrun] at hok ⊢
  obtain ⟨id, hid, hprocessed⟩ := (triple_processJob config 0).value _ result rfl hok
  have hfinds : FindsStored calm g := hfinds
  obtain ⟨⟨e, hedges, hplaces, htarget⟩, hlabels⟩ :=
    hprocessed.places (fun _ => rfl) hfinds hready
  exact ⟨⟨e, hedges, hplaces, by rw [hid, htarget]⟩, hlabels⟩

/-- The levels gain one edge for each job, in the order in which the jobs are handled. -/
theorem Handled.places {deliveries : List Delivery} {results : List NodeGenerationResult}
    (h : Handled codec config g deliveries results g')
    (hready : ∀ delivery ∈ deliveries, LevelsReady delivery.job g) :
    ∃ gained, g'.edgesLeaving "Domain_Level" = g.edgesLeaving "Domain_Level" ++ gained ∧
      List.Forall₂ (fun delivery e => Places delivery.job e) deliveries gained ∧
      List.Forall₂ (fun result (e : Edge) => result.elementId = some e.target) results gained := by
  induction h with
  | nil g => exact ⟨[], (List.append_nil _).symm, .nil, .nil⟩
  | @cons g g' delivery deliveries result results hok hcalls hfinds hrest ih =>
      obtain ⟨hfirst, hothers⟩ := List.forall_mem_cons.1 hready
      obtain ⟨⟨e, hedges, hplaces, htarget⟩, hlabels⟩ := Delivery.places hok hcalls hfinds hfirst
      have hkept : ∀ delivery' ∈ deliveries,
          LevelsReady delivery'.job (delivery.run codec config g).state.graph := by
        intro delivery' hmem
        obtain ⟨hnumbers, hstored⟩ := hothers delivery' hmem
        exact ⟨hnumbers, fun level hlevel => (hlabels _).trans (hstored level hlevel)⟩
      obtain ⟨gained, hgained, hall, htargets⟩ := ih hkept
      refine ⟨e :: gained, ?_, .cons hplaces hall, .cons htarget htargets⟩
      rw [hgained, hedges, List.append_assoc]
      rfl

end Run

end Worker

end AtlasOfUs
