import AtlasOfUs.GraphApi.Opening

namespace AtlasOfUs.GraphApi

open Library

variable (env : Env) (domainId : ElementId) (levels : List DomainLevel) (ids : List ElementId)
  (w : World)

def beforeLevel (i : Nat) : World :=
  Proc.after env.handler (createLevel domainId) (levels.take i) w

def beforeRequirements (i : Nat) : World :=
  Proc.after env.handler (processLevel ids) (levels.zipIdx.take i) w

/-- The node was created by the statement of the `i`-th requested level. -/
def CreatedFor (i : Nat) (id : ElementId) : Prop :=
  id ∉ (beforeLevel env domainId levels w i).graph.nodeIds ∧
    id ∈ (beforeLevel env domainId levels w (i + 1)).graph.nodeIds

/-- The edge was created while the requirements of the `i`-th level were processed. -/
def AddedFor (i : Nat) (e : Edge) : Prop :=
  e.id ∉ (beforeRequirements env levels ids w i).graph.edgeIds ∧
    e ∈ (beforeRequirements env levels ids w (i + 1)).graph.edges

/-- The level creations up to the `i`-th all gave their row back and the `i`-th took effect. -/
def KeepsPlace (clock i : Nat) : Prop :=
  (∀ j ≤ i, (env.outcome (clock + j)).returnsRow = true) ∧ (env.outcome (clock + i)).applied = true

def levelRows : List (Option ElementId) :=
  (List.range levels.length).map (fun i =>
    if (env.outcome (w.clock + i)).returnsRow then
      levelRow (beforeLevel env domainId levels w i).graph domainId
    else none)

section Creation

theorem beforeLevel_succ {i : Nat} {level : DomainLevel} (h : levels[i]? = some level) :
    beforeLevel env domainId levels w (i + 1) =
      ⟨(env.outcome (beforeLevel env domainId levels w i).clock).after
          (createLevelStatement domainId level) (beforeLevel env domainId levels w i).graph,
        (beforeLevel env domainId levels w i).clock + 1⟩ := by
  rw [beforeLevel, Proc.after_take_succ _ _ h]
  exact (exec_createLevel env domainId level _).2

theorem beforeLevel_clock {i : Nat} (h : i ≤ levels.length) :
    (beforeLevel env domainId levels w i).clock = w.clock + i := by
  induction i with
  | zero => rfl
  | succ i ih =>
      rw [beforeLevel_succ env domainId levels w (List.getElem?_eq_getElem h), ih (by omega)]
      rfl

theorem beforeLevel_mono {i j : Nat} (hij : i ≤ j) :
    (beforeLevel env domainId levels w i).graph.nodes.Sublist
      (beforeLevel env domainId levels w j).graph.nodes := by
  refine Proc.after_rel env.handler (R := fun s t => s.graph.nodes.Sublist t.graph.nodes)
    (fun s => List.Sublist.refl _) (fun h h' => h.trans h') (fun level s => ?_) levels w hij
  rw [← Env.exec, (exec_createLevel env domainId level s).2, Outcome.after]
  split
  · rw [createLevelStatement_nodes]
    exact List.sublist_append_left _ _
  · exact List.Sublist.refl _

theorem hasDomain_beforeLevel (i : Nat) :
    hasNode (beforeLevel env domainId levels w i).graph "Domain" domainId =
      hasNode w.graph "Domain" domainId := by
  refine Proc.after_rel env.handler
    (R := fun s t => hasNode t.graph "Domain" domainId = hasNode s.graph "Domain" domainId)
    (fun s => rfl) (fun h h' => h'.trans h) (fun level s => ?_) levels w (Nat.zero_le i)
  rw [← Env.exec, (exec_createLevel env domainId level s).2, Outcome.after]
  split
  · rw [hasNode, createLevelStatement_nodes, List.any_append]
    cases h : hasNode s.graph "Domain" domainId with
    | true => rw [hasNode] at h; simp [h]
    | false => rw [hasNode] at h; simp [h]
  · rfl

theorem exec_createLevels :
    (env.exec (createLevels domainId levels) w).exit =
        .ok ((levelRows env domainId levels w).filterMap id) ∧
      (env.exec (createLevels domainId levels) w).state =
        beforeLevel env domainId levels w levels.length := by
  obtain ⟨ys, hexit, hstate, hlen, hget⟩ :=
    Proc.run_mapM (createLevel_infallible domainId) env.handler levels w
  have hrows : ys = levelRows env domainId levels w := by
    refine List.ext_getElem (by simp [levelRows, hlen]) (fun i hi hi' => ?_)
    have hi : i < levels.length := hlen ▸ hi
    have hround := hget i _ _ (List.getElem?_eq_getElem hi) (List.getElem?_eq_getElem (hlen ▸ hi))
    rw [← Env.exec, (exec_createLevel env domainId _ _).1, Exit.ok.injEq] at hround
    rw [← hround, ← beforeLevel, beforeLevel_clock env domainId levels w hi.le]
    simp [levelRows]
  rw [createLevels, exec_bind]
  rw [← Env.exec] at hexit hstate
  rw [Execution.exit_andThen hexit, Execution.state_andThen hexit, hrows, hstate]
  exact ⟨rfl, by rw [beforeLevel, List.take_length]; rfl⟩

theorem levelRows_getElem? {i : Nat} {id : ElementId}
    (h : (levelRows env domainId levels w)[i]? = some (some id)) :
    i < levels.length ∧ (env.outcome (w.clock + i)).returnsRow = true ∧
      hasNode w.graph "Domain" domainId = true ∧
      id = (beforeLevel env domainId levels w i).graph.freshId := by
  have hi : i < levels.length := by
    have := (List.getElem?_eq_some_iff.1 h).1
    simpa [levelRows] using this
  rw [levelRows, List.getElem?_map, List.getElem?_range hi] at h
  simp only [Option.map_some, Option.some.injEq, levelRow, hasDomain_beforeLevel] at h
  split_ifs at h with hret hd
  exact ⟨hi, hret, hd, (Option.some.inj h).symm⟩

theorem levelRows_isSome {i : Nat} (hi : i < levels.length)
    (hd : hasNode w.graph "Domain" domainId = true) :
    (∃ id, (levelRows env domainId levels w)[i]? = some (some id)) ↔
      (env.outcome (w.clock + i)).returnsRow = true := by
  rw [levelRows, List.getElem?_map, List.getElem?_range hi]
  simp [levelRow, hasDomain_beforeLevel, hd]

theorem beforeLevel_ids_subset {i j : Nat} (hij : i ≤ j) :
    (beforeLevel env domainId levels w i).graph.nodeIds ⊆
      (beforeLevel env domainId levels w j).graph.nodeIds :=
  ((beforeLevel_mono env domainId levels w hij).map _).subset

theorem createdFor_freshId {i : Nat} (hi : i < levels.length)
    (hd : hasNode w.graph "Domain" domainId = true) :
    CreatedFor env domainId levels w i (beforeLevel env domainId levels w i).graph.freshId ↔
      (env.outcome (w.clock + i)).applied = true := by
  have hnew := Graph.freshId_notMem_nodeIds (beforeLevel env domainId levels w i).graph
  have hdi := hasDomain_beforeLevel env domainId levels w i
  have hlevel : levels[i]? = some levels[i] := List.getElem?_eq_getElem hi
  rw [CreatedFor, beforeLevel_succ env domainId levels w hlevel,
    beforeLevel_clock env domainId levels w hi.le]
  cases happ : (env.outcome (w.clock + i)).applied with
  | false => simp [Outcome.after, happ]
  | true =>
      simp only [Outcome.after, happ, if_true, iff_true]
      refine ⟨hnew, ?_⟩
      rw [Graph.nodeIds, createLevelStatement_nodes, hdi, hd]
      simp

/-- A collected id belongs to the level at its position exactly if that level
keeps its place; otherwise the node was created for a later level, or not at all. -/
theorem createdFor_iff {i : Nat} {levelId : ElementId}
    (h : ((levelRows env domainId levels w).filterMap id)[i]? = some levelId) :
    CreatedFor env domainId levels w i levelId ↔ KeepsPlace env w.clock i := by
  obtain ⟨f, hf, hget, hplace⟩ := filterMap_id_getElem? h
  obtain ⟨hfl, hret, hd, rfl⟩ := levelRows_getElem? env domainId levels w hget
  have hreturned : (∀ j ≤ i, ∃ b, (levelRows env domainId levels w)[j]? = some (some b)) ↔
      ∀ j ≤ i, (env.outcome (w.clock + j)).returnsRow = true :=
    forall₂_congr fun j hj => levelRows_isSome env domainId levels w (by omega) hd
  rw [hreturned] at hplace
  by_cases hfi : f = i
  · subst hfi
    rw [createdFor_freshId env domainId levels w hfl hd]
    exact ⟨fun happ => ⟨hplace.1 rfl, happ⟩, fun hkeep => hkeep.2⟩
  · refine iff_of_false (fun hcreated => ?_) (fun hkeep => hfi (hplace.2 hkeep.1))
    have hsub := beforeLevel_ids_subset env domainId levels w (show i + 1 ≤ f by omega)
    exact Graph.freshId_notMem_nodeIds _ (hsub hcreated.2)

end Creation

section Requirements

theorem processLevel_infallible (entry : DomainLevel × Nat) :
    (processLevel ids entry).Infallible := by
  unfold processLevel
  split
  · exact Proc.Infallible.done _
  · refine (runs_processLevelRequirements _ _).attempt_infallible.bind (fun result => ?_)
    cases result <;> exact Proc.Infallible.done _

/-- One round of the requirement loop: nothing without an id, else growth at that id. -/
theorem exec_processLevel (entry : DomainLevel × Nat) :
    (env.exec (processLevel ids entry) w).state =
      match ids[entry.2]? with
      | none => w
      | some levelId =>
          (env.exec (processLevelRequirements levelId entry.1.requirements) w).state := by
  unfold processLevel
  cases ids[entry.2]? with
  | none => rfl
  | some levelId =>
      obtain ⟨nodes, hnodes⟩ :=
        (processLevelRequirements_infallible levelId entry.1.requirements).exit_eq env.handler w
      rw [← Env.exec] at hnodes
      simp only
      rw [exec_bind, exec_attempt, hnodes]
      rfl

theorem beforeRequirements_succ_eq {i : Nat} {level : DomainLevel} (h : levels[i]? = some level) :
    beforeRequirements env levels ids w (i + 1) =
      match ids[i]? with
      | none => beforeRequirements env levels ids w i
      | some levelId => beforeEntry env levelId (beforeRequirements env levels ids w i)
          level.requirements.entries level.requirements.entries.length := by
  have hentry : levels.zipIdx[i]? = some (level, i) := by simp [List.getElem?_zipIdx, h]
  rw [beforeRequirements, Proc.after_take_succ _ _ hentry, ← Env.exec, exec_processLevel,
    ← beforeRequirements]
  cases ids[i]? with
  | none => rfl
  | some levelId => exact exec_processLevelRequirements env levelId _ level.requirements

theorem beforeRequirements_succ {i : Nat} {level : DomainLevel} (h : levels[i]? = some level) :
    (ids[i]? = none ∧ beforeRequirements env levels ids w (i + 1) =
        beforeRequirements env levels ids w i) ∨
      ∃ levelId, ids[i]? = some levelId ∧
        Growth levelId (beforeRequirements env levels ids w i).graph
          (beforeRequirements env levels ids w (i + 1)).graph := by
  rw [beforeRequirements_succ_eq env levels ids w h]
  cases hid : ids[i]? with
  | none => exact Or.inl ⟨rfl, rfl⟩
  | some levelId =>
      refine Or.inr ⟨levelId, rfl, ?_⟩
      have hgrowth := growth_processLevelRequirements env levelId level.requirements
        (beforeRequirements env levels ids w i)
      rwa [exec_processLevelRequirements] at hgrowth

theorem beforeRequirements_mono {i j : Nat} (hij : i ≤ j) :
    (beforeRequirements env levels ids w i).graph.edges ⊆
      (beforeRequirements env levels ids w j).graph.edges := by
  refine Proc.after_rel env.handler (R := fun s t => s.graph.edges ⊆ t.graph.edges)
    (fun s => List.Subset.refl _) (fun h h' => List.Subset.trans h h') (fun entry s => ?_) _ w hij
  rw [← Env.exec, exec_processLevel]
  split
  · exact List.Subset.refl _
  · obtain ⟨ns, es, -, he, -⟩ := growth_processLevelRequirements env _ entry.1.requirements s
    rw [he]
    exact List.subset_append_left _ _

theorem exec_processLevels :
    ∃ nodes, (env.exec (processLevels ids levels) w).exit = .ok nodes ∧
      (env.exec (processLevels ids levels) w).state =
        beforeRequirements env levels ids w levels.length := by
  obtain ⟨ys, hexit, hstate, -⟩ :=
    Proc.run_mapM (processLevel_infallible ids) env.handler levels.zipIdx w
  rw [← Env.exec] at hexit hstate
  rw [processLevels, exec_bind, Execution.exit_andThen hexit, Execution.state_andThen hexit, hstate]
  exact ⟨_, rfl, by rw [beforeRequirements, ← List.length_zipIdx, List.take_length]; rfl⟩

/-- A requirement of the `i`-th level is linked, to the id at its position. -/
def LinkedAt (i : Nat) : Prop :=
  ∃ levelId level k r, ids[i]? = some levelId ∧ levels[i]? = some level ∧
    level.requirements.entries[k]? = some r ∧
      Links env levelId
        (beforeEntry env levelId (beforeRequirements env levels ids w i) level.requirements.entries k) r

theorem exists_addedFor_iff (i : Nat) :
    (∃ e, AddedFor env levels ids w i e) ↔ LinkedAt env levels ids w i := by
  have hnew : (∃ e, AddedFor env levels ids w i e) ↔
      ∃ e ∈ (beforeRequirements env levels ids w (i + 1)).graph.edges,
        e.id ∉ (beforeRequirements env levels ids w i).graph.edgeIds :=
    exists_congr fun e => and_comm
  rw [hnew]
  cases hlevel : levels[i]? with
  | none =>
      have hi : levels.length ≤ i := List.getElem?_eq_none_iff.1 hlevel
      have hsame : beforeRequirements env levels ids w (i + 1) = beforeRequirements env levels ids w i := by
        rw [beforeRequirements, beforeRequirements, List.take_of_length_le (by simp; omega),
          List.take_of_length_le (by simp; omega)]
      rw [hsame]
      refine iff_of_false ?_ ?_
      · rintro ⟨e, he, hnot⟩
        exact hnot (Graph.id_mem_edgeIds he)
      · rintro ⟨levelId, level, k, r, -, hlevel', -⟩
        rw [hlevel] at hlevel'
        cases hlevel'
  | some level =>
      rw [beforeRequirements_succ_eq env levels ids w hlevel]
      cases hid : ids[i]? with
      | none =>
          refine iff_of_false ?_ ?_
          · rintro ⟨e, he, hnot⟩
            exact hnot (Graph.id_mem_edgeIds he)
          · rintro ⟨levelId, level, k, r, hid', -⟩
            rw [hid] at hid'
            cases hid'
      | some levelId =>
          simp only [exists_new_edge_iff, LinkedAt, hid, hlevel, Option.some.injEq]
          constructor
          · rintro ⟨k, r, hr, hlinks⟩
            exact ⟨levelId, level, k, r, rfl, rfl, hr, hlinks⟩
          · rintro ⟨levelId', level', k, r, rfl, rfl, hr, hlinks⟩
            exact ⟨k, r, hr, hlinks⟩

/-- An edge added for a level is a REQUIRES edge that leaves the id at its position. -/
theorem AddedFor.source {i : Nat} {e : Edge} (h : AddedFor env levels ids w i e) :
    ids[i]? = some e.source ∧ e.type ∈ requiresTypes ∧ i < levels.length := by
  have hnot : e ∉ (beforeRequirements env levels ids w i).graph.edges :=
    fun he => h.1 (Graph.id_mem_edgeIds he)
  by_cases hi : i < levels.length
  · rcases beforeRequirements_succ env levels ids w (List.getElem?_eq_getElem hi) with
      ⟨-, hsame⟩ | ⟨levelId, hid, ns, es, -, hedges, -, hes⟩
    · exact absurd (hsame ▸ h.2) hnot
    · have hmem : e ∈ es := by
        have he := h.2
        rw [hedges, List.mem_append] at he
        exact he.resolve_left hnot
      exact ⟨(hes e hmem).1 ▸ hid, (hes e hmem).2, hi⟩
  · have hsame : beforeRequirements env levels ids w (i + 1) = beforeRequirements env levels ids w i := by
      rw [beforeRequirements, beforeRequirements, List.take_of_length_le (by simp; omega),
        List.take_of_length_le (by simp; omega)]
    exact absurd (hsame ▸ h.2) hnot

theorem AddedFor.unique {i j : Nat} {e : Edge} (hi : AddedFor env levels ids w i e)
    (hj : AddedFor env levels ids w j e) : i = j := by
  rcases Nat.lt_trichotomy i j with hij | hij | hij
  · exact absurd (Graph.id_mem_edgeIds (beforeRequirements_mono env levels ids w hij hi.2)) hj.1
  · exact hij
  · exact absurd (Graph.id_mem_edgeIds (beforeRequirements_mono env levels ids w hij hj.2)) hi.1

/-- Every edge that the requirement loop leaves behind was there before or was
added for one level. -/
theorem exists_addedFor {e : Edge}
    (he : e ∈ (beforeRequirements env levels ids w levels.length).graph.edges)
    (hnew : e ∉ w.graph.edges) : ∃ i, AddedFor env levels ids w i e := by
  obtain ⟨i, -, hbefore, hafter⟩ :=
    exists_crossing (P := fun i => e ∈ (beforeRequirements env levels ids w i).graph.edges) hnew he
  refine ⟨i, fun hid => ?_, hafter⟩
  obtain ⟨f, hf, hfe⟩ := List.mem_map.1 hid
  have hf' := beforeRequirements_mono env levels ids w i.le_succ hf
  exact hbefore (Graph.edge_eq_of_id hf' hafter hfe ▸ hf)

theorem linkedAt_of_any {i : Nat}
    (h : (beforeRequirements env levels ids w (i + 1)).graph.edges.any (fun e =>
      !(beforeRequirements env levels ids w i).graph.edgeIds.contains e.id) = true) :
    LinkedAt env levels ids w i := by
  obtain ⟨e, he, hnew⟩ := List.any_eq_true.1 h
  exact (exists_addedFor_iff env levels ids w i).1 ⟨e, by simpa using hnew, he⟩

end Requirements

def collectedIds : List ElementId := (levelRows env domainId levels w).filterMap id

def afterCreation : World := beforeLevel env domainId levels w levels.length

theorem exec_storeLevels :
    ∃ nodes, (env.exec (storeLevels domainId levels) w).exit = .ok nodes ∧
      (env.exec (storeLevels domainId levels) w).state =
        beforeRequirements env levels (collectedIds env domainId levels w)
          (afterCreation env domainId levels w) levels.length := by
  obtain ⟨hexit, hstate⟩ := exec_createLevels env domainId levels w
  rw [storeLevels, exec_bind, Execution.exit_andThen hexit, Execution.state_andThen hexit, hstate]
  exact exec_processLevels env levels _ _

theorem afterCreation_edges :
    ∃ es, (afterCreation env domainId levels w).graph.edges = w.graph.edges ++ es ∧
      ∀ e ∈ es, e.type = "HAS_DOMAIN_LEVEL" := by
  refine Proc.after_rel env.handler
    (R := fun s t => ∃ es, t.graph.edges = s.graph.edges ++ es ∧ ∀ e ∈ es, e.type = "HAS_DOMAIN_LEVEL")
    (fun s => ⟨[], by simp, by simp⟩) ?_ (fun level s => ?_) levels w (Nat.zero_le levels.length)
  · rintro s t u ⟨es, he, hes⟩ ⟨es', he', hes'⟩
    exact ⟨es ++ es', by simp [he', he], fun e h => (List.mem_append.1 h).elim (hes e) (hes' e)⟩
  · rw [← Env.exec, (exec_createLevel env domainId level s).2, Outcome.after]
    split
    · exact createLevelStatement_edges domainId level s.graph
    · exact ⟨[], by simp, by simp⟩

def AddedForLevel (i : Nat) (e : Edge) : Prop :=
  AddedFor env levels (collectedIds env domainId levels w) (afterCreation env domainId levels w) i e

/-- Every REQUIRES edge of `final` that the loops created, starting in `w`, starts
at the level node created for the very level whose requirements it was created for. -/
def Aligned (final : Graph) : Prop :=
  ∀ e ∈ final.edges, e.type ∈ requiresTypes → e ∉ w.graph.edges →
    ∃ i, AddedForLevel env domainId levels w i e ∧ CreatedFor env domainId levels w i e.source

def PlacesKept : Prop :=
  ∀ i, LinkedAt env levels (collectedIds env domainId levels w) (afterCreation env domainId levels w) i →
    KeepsPlace env w.clock i

theorem storeLevels_aligned_iff :
    Aligned env domainId levels w (env.exec (storeLevels domainId levels) w).state.graph ↔
      PlacesKept env domainId levels w := by
  obtain ⟨nodes, -, hstate⟩ := exec_storeLevels env domainId levels w
  obtain ⟨es, hedges, hes⟩ := afterCreation_edges env domainId levels w
  rw [Aligned, hstate]
  constructor
  · intro haligned i hlinked
    obtain ⟨e, he⟩ := (exists_addedFor_iff env levels _ _ i).2 hlinked
    have hi : i < levels.length := he.source.2.2
    obtain ⟨hid, htype, -⟩ := he.source
    have hfinal := beforeRequirements_mono env levels _ _ hi he.2
    have hnew : e ∉ w.graph.edges := fun hw => he.1 <| Graph.id_mem_edgeIds <|
      beforeRequirements_mono env levels _ _ (Nat.zero_le i)
        (show e ∈ (afterCreation env domainId levels w).graph.edges from
          hedges ▸ List.mem_append_left _ hw)
    obtain ⟨j, hj, hcreated⟩ := haligned e hfinal htype hnew
    have hji : j = i := AddedFor.unique env levels _ _ hj he
    subst hji
    exact (createdFor_iff env domainId levels w hid).1 hcreated
  · intro hkept e he htype hnew
    have hnew' : e ∉ (afterCreation env domainId levels w).graph.edges := by
      rw [hedges, List.mem_append]
      rintro (hw | hlevel)
      · exact hnew hw
      · rw [hes e hlevel] at htype
        simp [requiresTypes] at htype
    obtain ⟨i, hi⟩ := exists_addedFor env levels _ _ he hnew'
    obtain ⟨hid, -⟩ := hi.source
    have hlinked := (exists_addedFor_iff env levels _ _ i).1 ⟨e, hi⟩
    exact ⟨i, hi, (createdFor_iff env domainId levels w hid).2 (hkept i hlinked)⟩

section Calls

def loopStart {α : Type} (x : Execution (services Empty Empty) ServiceError α World)
    (domainOf : α → ElementId) : Option (ElementId × World) :=
  match x.exit with
  | .ok a => some (domainOf a, x.state)
  | _ => none

def createStart (request : CreateDomainRequest) : Option (ElementId × World) :=
  loopStart (env.exec (openDomain request) w) (fun domainId => domainId)

def updateStart (request : UpdateDomainRequest) : Option (ElementId × World) :=
  loopStart (env.exec (reopenDomain request) w) (fun _ => request.domainElementId)

/-- No edge is created before the loops, and those created in them are aligned. -/
def CallAligned (start : Option (ElementId × World)) (final : Graph) : Prop :=
  match start with
  | none => final.edges ⊆ w.graph.edges
  | some (domainId, w') =>
      w'.graph.edges ⊆ w.graph.edges ∧ Aligned env domainId levels w' final

def CallKeepsPlaces (start : Option (ElementId × World)) : Prop :=
  ∀ domainId w', start = some (domainId, w') → PlacesKept env domainId levels w'

/-- A call that opens a domain without creating an edge and then runs the loops. -/
theorem callAligned_iff {α β : Type} (domainOf : α → ElementId) {p : Api α} {call : Api β}
    (hsub : (env.exec p w).state.graph.edges ⊆ w.graph.edges)
    (finish : α → List CreatedNodeInfo → β)
    (hcall : call = p >>= fun a => storeLevels (domainOf a) levels >>= fun nodes =>
      .done (finish a nodes)) :
    CallAligned env levels w (loopStart (env.exec p w) domainOf) (env.exec call w).state.graph ↔
      CallKeepsPlaces env levels (loopStart (env.exec p w) domainOf) := by
  rw [hcall, exec_bind]
  cases hx : env.exec p w with
  | mk exit state calls =>
      rw [hx] at hsub
      cases exit with
      | ok a =>
          obtain ⟨nodes, hnodes, -⟩ := exec_storeLevels env (domainOf a) levels state
          rw [Execution.andThen_ok, exec_bind, Execution.state_andThen hnodes]
          simp only [loopStart, CallAligned, CallKeepsPlaces, Option.some.injEq, Prod.mk.injEq]
          constructor
          · rintro ⟨-, haligned⟩ domainId w' ⟨rfl, rfl⟩
            exact (storeLevels_aligned_iff env _ levels state).1 haligned
          · intro hkept
            exact ⟨hsub, (storeLevels_aligned_iff env _ levels state).2 (hkept _ _ ⟨rfl, rfl⟩)⟩
      | err e => exact iff_of_true hsub (by simp [CallKeepsPlaces, loopStart])
      | panicked => exact iff_of_true hsub (by simp [CallKeepsPlaces, loopStart])

theorem createDomain_aligned_iff (request : CreateDomainRequest) :
    CallAligned env request.levels w (createStart env w request)
        (env.exec (createDomain request) w).state.graph ↔
      CallKeepsPlaces env request.levels (createStart env w request) :=
  callAligned_iff env _ w (fun domainId => domainId) (openDomain_edges_subset env w request)
    (fun domainId nodes => ⟨true, domainId, request.domain.name, nodes⟩) (createDomain_eq request)

theorem updateDomain_aligned_iff (request : UpdateDomainRequest) :
    CallAligned env request.levels w (updateStart env w request)
        (env.exec (updateDomain request) w).state.graph ↔
      CallKeepsPlaces env request.levels (updateStart env w request) :=
  callAligned_iff env _ w (fun _ => request.domainElementId) (reopenDomain_edges_subset env w request)
    (fun count nodes => ⟨true, request.domainElementId, request.domain.name, nodes, count⟩)
    (updateDomain_eq request)

/-- Both calls attach the requirements of every level to the node of that level
exactly if no level that gets an edge has lost its place. -/
theorem requirements_aligned_iff :
    (∀ request : CreateDomainRequest,
      CallAligned env request.levels w (createStart env w request)
          (env.exec (createDomain request) w).state.graph ↔
        CallKeepsPlaces env request.levels (createStart env w request)) ∧
    ∀ request : UpdateDomainRequest,
      CallAligned env request.levels w (updateStart env w request)
          (env.exec (updateDomain request) w).state.graph ↔
        CallKeepsPlaces env request.levels (updateStart env w request) :=
  ⟨createDomain_aligned_iff env w, updateDomain_aligned_iff env w⟩

/-- The third statement of the run, the first level creation, fails. -/
def firstLevelFails : Env :=
  { Env.calm with outcome := fun n => if n = 2 then .failed false "timeout" else .done }

def graphWithKnowledge : Graph := emptyGraph.createNode ["Knowledge"] Props.empty

def noRequirements : LevelRequirements := ⟨[], [], [], []⟩

/-- Two levels, of which only the first requires something. -/
def twoLevels : CreateDomainRequest where
  domain := ⟨"Chess", ""⟩
  levels := [
    ⟨1, "Novice", none, 0, { noRequirements with
      knowledge := [⟨some (graphWithKnowledge.nodeIds.headD ""), none, "Remember"⟩] }⟩,
    ⟨2, "Expert", none, 10, noRequirements⟩]

/-- With its own creation failed, the first level has its requirement attached
to the node of the second. -/
theorem twoLevels_not_aligned :
    ¬ CallAligned firstLevelFails twoLevels.levels (World.start graphWithKnowledge)
      (createStart firstLevelFails (World.start graphWithKnowledge) twoLevels)
      (firstLevelFails.exec (createDomain twoLevels) (World.start graphWithKnowledge)).state.graph := by
  rw [createDomain_aligned_iff]
  intro hkept
  let opened := firstLevelFails.exec (openDomain twoLevels) (World.start graphWithKnowledge)
  let domainId : ElementId := graphWithKnowledge.freshId
  have hopened : opened.exit = .ok domainId := by decide +kernel
  have hclock : opened.state.clock = 2 := by decide +kernel
  have hstart : createStart firstLevelFails (World.start graphWithKnowledge) twoLevels =
      some (domainId, opened.state) := by
    rw [createStart, loopStart, show (firstLevelFails.exec (openDomain twoLevels) _).exit = _ from hopened]
  have hplace := hkept domainId opened.state hstart 0 (linkedAt_of_any _ _ _ _ (by decide +kernel))
  have hreturned := hplace.1 0 (Nat.le_refl 0)
  rw [hclock] at hreturned
  cases hreturned

end Calls

end AtlasOfUs.GraphApi
