import AtlasOfUs.GraphApi.UpdateFailure
import AtlasOfUs.Auth.Signup
import Mathlib.Data.Set.Card

namespace AtlasOfUs.GraphApi

open Library Auth

variable {env : Env} {w : World} {request : UpdateDomainRequest}

/-- The users are the nodes that login and the profile look up. -/
def isProgress (g : Graph) (r : Edge) : Bool :=
  progressTypes.contains r.type && hasNode g "Person" r.source

/-- What the clean-up of an update owes: no user keeps progress on a removed
node, all other progress is there as before, and the count is exact. -/
def ProgressCleaned (removed : List ElementId) (g final : Graph) (count : Int) : Prop :=
  (∀ r ∈ final.edges, isProgress final r = true → r.target ∉ removed) ∧
  (∀ r ∈ g.edges, isProgress g r = true → r.target ∉ removed → r ∈ final.edges) ∧
  count = Set.ncard {r | r ∈ g.edges ∧ isProgress g r = true ∧ r ∉ final.edges}

theorem exec_updateDomain_ok {result : UpdateDomainResult}
    (h : (env.exec (updateDomain request) w).exit = .ok result) :
    (env.exec (reopenDomain request) w).exit = .ok result.affectedUserProgressCount ∧
      (env.exec (updateDomain request) w).state =
        (env.exec (storeLevels request.domainElementId request.levels)
          (env.exec (reopenDomain request) w).state).state := by
  obtain ⟨count, nodes, hopen, rfl, -, hstate⟩ := exec_call_ok env w (updateDomain_eq request) h
  exact ⟨hopen, hstate⟩

section BySignup

variable {g : Graph} (husers : UsersBySignup g)
include husers

theorem hasNode_user_eq_false (id : ElementId) : hasNode g "User" id = false := by
  by_contra h
  obtain ⟨n, hn, hid⟩ := List.any_eq_true.1 (Bool.eq_true_of_not_eq_false h)
  simp only [isNode, Bool.and_eq_true] at hid
  have hlabels := husers n hn (Or.inr hid.2)
  simp [Node.hasLabel, hlabels, userLabels] at hid

theorem isProgressOf_user_eq_false (id : ElementId) (r : Edge) :
    isProgressOf g "User" id r = false := by
  simp [isProgressOf, hasNode_user_eq_false husers]

theorem not_isNode_of_user {n : Node} (hn : n ∈ g.nodes) (hlabel : n.hasLabel "Person" = true)
    (domainId : ElementId) :
    isNode "Domain" domainId n = false ∧ isLevelOf g domainId n = false := by
  have hlabels := husers n hn (Or.inl hlabel)
  simp [isNode, isLevelOf, Node.hasLabel, hlabels, userLabels]

end BySignup

section Writes

variable (request) (progress : Bool) {g : Graph} (husers : UsersBySignup g)

/-- The graph after all writes that come before the loops. -/
def opened (progress : Bool) (g : Graph) : Graph := openingWrites request progress true true g

include husers

theorem mem_opened_edges_iff {r : Edge} (hr : r ∈ g.edges) (hprogress : isProgress g r = true) :
    r ∈ (opened request progress g).edges ↔ ¬ IsLevel g request.domainElementId r.target := by
  constructor
  · intro hkept hold
    obtain ⟨-, -, hdoomed⟩ := Graph.mem_detachDelete_edges.1 hkept
    exact hdoomed ((mem_doomed_beforeDeletion request progress true g).2 hold)
  · intro htarget
    refine mem_openingWrites_edges request progress true true g hr
      (fun i _ => isProgressOf_user_eq_false husers i r) ?_ htarget
    rintro ⟨l, hl, hlevel, hsource⟩
    simp only [isProgress, Bool.and_eq_true] at hprogress
    obtain ⟨n, hn, hid⟩ := List.any_eq_true.1 hprogress.2
    simp only [isNode, Bool.and_eq_true, decide_eq_true_eq] at hid
    have hsame : n = l := Graph.node_eq_of_id hn hl (hid.1.trans hsource.symm)
    have huser := (not_isNode_of_user husers hn hid.2 request.domainElementId).2
    rw [hsame, hlevel] at huser
    cases huser

theorem hasNode_person {final : Graph} (hext : Extends (opened request progress g) final)
    (id : ElementId) : hasNode final "Person" id = hasNode g "Person" id := by
  obtain ⟨ns, es, hnodes, -, hns, -⟩ := hext
  rw [Bool.eq_iff_iff]
  constructor
  · intro h
    obtain ⟨n, hn, hid⟩ := List.any_eq_true.1 h
    rw [hnodes, List.mem_append] at hn
    rcases hn with hn | hn
    · obtain ⟨m, hm, hmid, hmlabels⟩ := exists_of_mem_openingWrites_nodes request progress true true g hn
      refine List.any_eq_true.2 ⟨m, hm, ?_⟩
      rwa [isNode, Node.hasLabel, hmid, hmlabels]
    · obtain ⟨l, hl, hlabels⟩ := hns n hn
      simp only [isNode, Bool.and_eq_true, Node.hasLabel, hlabels, List.contains_cons] at hid
      simp only [componentLabels, List.mem_cons] at hl
      simp at hid hl
      rcases hl with rfl | rfl | rfl | rfl | rfl <;> simp at hid
  · intro h
    obtain ⟨n, hn, hid⟩ := List.any_eq_true.1 h
    have hlabel : n.hasLabel "Person" = true := by
      simp only [isNode, Bool.and_eq_true] at hid
      exact hid.2
    obtain ⟨hdomain, hlevel⟩ := not_isNode_of_user husers hn hlabel request.domainElementId
    have hkept := mem_openingWrites_nodes request progress true true g hn hdomain hlevel
    exact List.any_eq_true.2 ⟨n, by rw [hnodes]; exact List.mem_append_left _ hkept, hid⟩

omit husers in
theorem mem_final_edges_iff {final : Graph} (hext : Extends (opened request progress g) final)
    {r : Edge} (htype : progressTypes.contains r.type = true) :
    r ∈ final.edges ↔ r ∈ (opened request progress g).edges := by
  obtain ⟨ns, es, -, hedges, -, hes⟩ := hext
  rw [hedges, List.mem_append, or_iff_left]
  intro hr
  have hstored := hes r hr
  simp [requiresTypes, progressTypes] at htype hstored
  rcases htype with h | h | h | h <;> simp [h] at hstored

/-- Where nothing is left to count, the clean-up has done its duty exactly if
there was no progress for it, on removed nodes or on the old levels. -/
theorem progressCleaned_iff {final : Graph} (hext : Extends (opened request progress g) final)
    (removed : List ElementId) :
    ProgressCleaned removed g final 0 ↔ ∀ r ∈ g.edges, isProgress g r = true →
      r.target ∉ removed ∧ ¬ IsLevel g request.domainElementId r.target := by
  have hfinal {r : Edge} (hr : r ∈ g.edges) (hprogress : isProgress g r = true) :
      r ∈ final.edges ↔ ¬ IsLevel g request.domainElementId r.target := by
    rw [mem_final_edges_iff request progress hext, mem_opened_edges_iff request progress husers hr hprogress]
    simp only [isProgress, Bool.and_eq_true] at hprogress
    exact hprogress.1
  have hsame (r : Edge) : isProgress final r = isProgress g r := by
    rw [isProgress, isProgress, hasNode_person request progress husers hext]
  constructor
  · rintro ⟨hgone, -, hcount⟩ r hr hprogress
    have hfinite : {r | r ∈ g.edges ∧ isProgress g r = true ∧ r ∉ final.edges}.Finite :=
      g.edges.finite_toSet.subset (fun r hr => hr.1)
    have hempty := (Set.ncard_eq_zero hfinite).1 (Int.ofNat_eq_zero.1 hcount.symm)
    have hkept : r ∈ final.edges := by
      by_contra hlost
      exact Set.notMem_empty r (hempty ▸ ⟨hr, hprogress, hlost⟩)
    refine ⟨hgone r hkept (by rw [hsame, hprogress]), (hfinal hr hprogress).1 hkept⟩
  · intro hnone
    refine ⟨fun r hr hprogress => ?_, fun r hr hprogress _ => ?_, ?_⟩
    · rw [hsame] at hprogress
      have htype : progressTypes.contains r.type = true := by
        simp only [isProgress, Bool.and_eq_true] at hprogress
        exact hprogress.1
      have hopened := (mem_final_edges_iff request progress hext htype).1 hr
      exact (hnone r (openingWrites_edges_subset request progress true true g hopened) hprogress).1
    · exact (hfinal hr hprogress).2 (hnone r hr hprogress).2
    · have hempty : {r | r ∈ g.edges ∧ isProgress g r = true ∧ r ∉ final.edges} = ∅ := by
        refine Set.eq_empty_of_forall_notMem ?_
        rintro r ⟨hr, hprogress, hlost⟩
        exact hlost ((hfinal hr hprogress).2 (hnone r hr hprogress).2)
      rw [hempty, Set.ncard_empty]
      rfl

end Writes

theorem deletedCount_eq_zero (husers : UsersBySignup w.graph) (removed : List ElementId) :
    deletedCount env w removed = 0 := by
  rw [deletedCount]
  split_ifs
  · rfl
  · have hnone : removed.flatMap (fun i => w.graph.edges.filter (isProgressOf w.graph "User" i)) = [] := by
      rw [List.flatMap_eq_nil_iff]
      intro i _
      rw [List.filter_eq_nil_iff]
      intro r _
      simp [isProgressOf_user_eq_false husers]
    rw [hnone]
    rfl

/-- With users made by signup the clean-up deletes nothing: it is right exactly
where no user has progress on a removed node or on a level that is replaced. -/
theorem updateDomain_progressCleaned_iff (husers : UsersBySignup w.graph)
    (hdone : ∀ n, env.outcome n = .done) {result : UpdateDomainResult}
    (hok : (env.exec (updateDomain request) w).exit = .ok result) :
    ProgressCleaned request.removedNodeElementIds w.graph
        (env.exec (updateDomain request) w).state.graph result.affectedUserProgressCount ↔
      ∀ r ∈ w.graph.edges, isProgress w.graph r = true →
        r.target ∉ request.removedNodeElementIds ∧
          ¬ IsLevel w.graph request.domainElementId r.target := by
  obtain ⟨hcount, hstate⟩ := exec_updateDomain_ok hok
  obtain ⟨-, -, -, hdeleted, hworld⟩ := reopenDomain_ok env w request hcount
  obtain ⟨progress, hopened⟩ := cleared_eq_openingWrites env w request (hdone _) (hdone _)
  have hzero : result.affectedUserProgressCount = 0 :=
    hdeleted.trans (deletedCount_eq_zero (w := w.tick) husers _)
  have hext := extends_storeLevels env request.domainElementId request.levels (cleared env w request)
  rw [hopened, ← opened] at hext
  rw [hzero, hstate, hworld]
  exact progressCleaned_iff request progress husers hext request.removedNodeElementIds

section Learner

/-- A domain, a piece of knowledge and a user who has it. -/
def graphWithLearner : Graph :=
  let g := ((emptyGraph.createNode ["Domain"] (Properties.toProps [("name", .str "Chess")])).createNode
    ["Knowledge"] Props.empty).createNode userLabels Props.empty
  g.createEdge "HAS_KNOWLEDGE" (g.nodeIds.getD 2 "") (g.nodeIds.getD 1 "") Props.empty

def removing (removed : List ElementId) : UpdateDomainRequest where
  domainElementId := graphWithLearner.nodeIds.getD 0 ""
  domain := ⟨"Chess", ""⟩
  levels := [⟨1, "Novice", none, 0, ⟨[], [], [], []⟩⟩]
  removedNodeElementIds := removed

theorem removing_knowledge_not_cleaned :
    ¬ ∀ (env : Env) (w : World) (request : UpdateDomainRequest) (result : UpdateDomainResult),
      UsersBySignup w.graph → (∀ n, env.outcome n = .done) →
        (env.exec (updateDomain request) w).exit = .ok result →
        ProgressCleaned request.removedNodeElementIds w.graph
          (env.exec (updateDomain request) w).state.graph result.affectedUserProgressCount := by
  intro h
  let request := removing [graphWithLearner.nodeIds.getD 1 ""]
  have hok : (Env.calm.exec (updateDomain request) (World.start graphWithLearner)).exit =
      .ok ⟨true, request.domainElementId, "Chess", [], 0⟩ := by decide +kernel
  have hclean := h Env.calm (World.start graphWithLearner) request _ (by decide +kernel)
    (fun _ => rfl) hok
  have hkept : (Env.calm.exec (updateDomain (removing [graphWithLearner.nodeIds.getD 1 ""]))
      (World.start graphWithLearner)).state.graph.edges.any (fun r =>
        isProgress (Env.calm.exec (updateDomain (removing [graphWithLearner.nodeIds.getD 1 ""]))
          (World.start graphWithLearner)).state.graph r &&
            r.target = graphWithLearner.nodeIds.getD 1 "") = true := by decide +kernel
  obtain ⟨r, hr, hprogress⟩ := List.any_eq_true.1 hkept
  simp only [Bool.and_eq_true, decide_eq_true_eq] at hprogress
  exact hclean.1 r hr hprogress.1 (List.mem_singleton.2 hprogress.2)

theorem removing_domain_cleaned :
    ProgressCleaned [graphWithLearner.nodeIds.getD 0 ""] graphWithLearner
      (Env.calm.exec (updateDomain (removing [graphWithLearner.nodeIds.getD 0 ""]))
        (World.start graphWithLearner)).state.graph 0 := by
  have hok : (Env.calm.exec (updateDomain (removing [graphWithLearner.nodeIds.getD 0 ""]))
      (World.start graphWithLearner)).exit =
        .ok ⟨true, graphWithLearner.nodeIds.getD 0 "", "Chess", [], 0⟩ := by decide +kernel
  exact (updateDomain_progressCleaned_iff (by decide +kernel) (fun _ => rfl) hok).2
    (by decide +kernel)

end Learner

end AtlasOfUs.GraphApi
