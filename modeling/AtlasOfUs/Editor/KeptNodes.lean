import AtlasOfUs.Editor.Known
import AtlasOfUs.Editor.Saving

namespace AtlasOfUs.Editor

open Library
open GraphApi (NodeType hasNode IsLevel Written Stores OnlyExisting requiresFrom levelNode linkOf levelLinks)
open HttpService (orElse SavedDomain)

section Displayed

/-- The requirement on display: the badge of the canvas, and without one what
the requirement editor opens with. -/
def displayed (type : NodeType) (n : EditableNode) : GraphApi.Properties :=
  match type with
  | .knowledge => [("bloom_level", .str (orElse n.bloomLevel "Remember"))]
  | .skill => [("dreyfus_level", .str (orElse n.dreyfusLevel "Novice"))]
  | .trait => [("min_score", .int (n.minScore.getD 50))]
  | .milestone => []

def shownEdge (e : NodeType × EditableNode) : String × Option ElementId × Props :=
  (e.1.relType, e.2.elementId, GraphApi.Properties.toProps (displayed e.1 e.2))

def storedEdge (e : Edge) : String × Option ElementId × Props := (e.type, some e.target, e.props)

def SavedLevel (final : Graph) (id : ElementId) (level : EditableDomainLevel) : Prop :=
  levelNode id (levelRequest level) ∈ final.nodes ∧
    ((requiresFrom final id).map storedEdge).Perm (level.entries.map shownEdge)

/-- The domain's levels in the graph are the levels of the editor. -/
def Saved (final : Graph) (domainId : ElementId) (levels : List EditableDomainLevel) : Prop :=
  ∃ ids : List ElementId, ids.Nodup ∧ (∀ id, IsLevel final domainId id ↔ id ∈ ids) ∧
    List.Forall₂ (SavedLevel final) ids levels

def Spared (s : Session) (id : ElementId) : Prop :=
  s.creator.isUpdate = true → ¬ IsLevel s.world.graph (s.creator.domain.elementId.getD "") id

/-- Every entry has the id of a node that the save spares, no score on display is
zero, and the save spares the domain. -/
structure Savable (s : Session) : Prop where
  domain : Spared s (s.creator.domain.elementId.getD "")
  entry : ∀ i type n, ShownAt s.creator.domain i type n → ∃ id, n.elementId = some id ∧ Spared s id
  score : ∀ i n, ShownAt s.creator.domain i .trait n → n.minScore ≠ some 0

theorem savable_iff {s : Session} :
    Savable s ↔ Spared s (s.creator.domain.elementId.getD "") ∧
      ∀ level ∈ s.creator.domain.levels, ∀ e ∈ level.entries,
        (∃ id ∈ e.2.elementId, Spared s id) ∧ (e.1 = .trait → e.2.minScore ≠ some 0) := by
  constructor
  · intro h
    refine ⟨h.domain, fun level hlevel e he => ?_⟩
    obtain ⟨i, hi⟩ := List.mem_iff_getElem?.1 hlevel
    have hshown : ShownAt s.creator.domain i e.1 e.2 := ⟨level, hi, mem_entries.1 he⟩
    exact ⟨h.entry i e.1 e.2 hshown, fun htrait => h.score i e.2 (htrait ▸ hshown)⟩
  · rintro ⟨hdomain, hentries⟩
    refine ⟨hdomain, ?_, ?_⟩
    · rintro i type n ⟨level, hlevel, hn⟩
      exact (hentries level (List.mem_of_getElem? hlevel) (type, n) (mem_entries.2 hn)).1
    · rintro i n ⟨level, hlevel, hn⟩
      exact (hentries level (List.mem_of_getElem? hlevel) (.trait, n) (mem_entries.2 hn)).2 rfl

instance (s : Session) (id : ElementId) : Decidable (Spared s id) :=
  inferInstanceAs (Decidable (_ → ¬ _))

instance (s : Session) : Decidable (Savable s) := decidable_of_iff _ savable_iff.symm

theorem properties_requirementOf {type : NodeType} {n : EditableNode}
    (h : type = .trait → n.minScore ≠ some 0) :
    (requirementOf type n).properties = displayed type n := by
  cases type with
  | trait =>
      have hscore := scoreOrDefault_eq (h rfl)
      simp [requirementOf, traitRequirement, GraphApi.TraitRequirement.toRequirement, displayed, hscore]
  | _ => rfl

theorem linkOf_requirementOf {g : Graph} {levelId : ElementId} {type : NodeType} {n : EditableNode}
    {id : ElementId} (hid : n.elementId = some id) (hnode : hasNode g type.label id = true) :
    linkOf g levelId (requirementOf type n) =
      some (type.relType, levelId, id, (requirementOf type n).properties.toProps) := by
  simp [linkOf, hid, hnode]

theorem mem_levelLinks_levelRequest {g : Graph} {levelId : ElementId} {level : EditableDomainLevel}
    {c : String × ElementId × ElementId × Props} (h : c ∈ levelLinks g levelId (levelRequest level)) :
    ∃ type n id, hasNode g type.label id = true ∧
      c = (type.relType, levelId, id, (requirementOf type n).properties.toProps) := by
  obtain ⟨r, hr, id, -, hnode, rfl⟩ := GraphApi.levelLinks_content h
  rw [entries_levelRequest] at hr
  obtain ⟨⟨type, n⟩, -, rfl⟩ := List.mem_map.1 hr
  exact ⟨type, n, id, by simpa using hnode, by simp⟩

end Displayed

section Written

variable {g final : Graph} {domainId : ElementId} {levels : List EditableDomainLevel}
  {ids : List ElementId}

theorem map_storedEdge (es : List Edge) :
    es.map storedEdge = (es.map Edge.content).map (fun c => (c.1, some c.2.2.1, c.2.2.2)) := by
  rw [List.map_map]
  rfl

/-- A written level has the edges of its entries if every entry shows a node that
is there and no score of zero. -/
theorem savedLevel_of_written (h : Written g final domainId (levels.map levelRequest) ids) {i : Nat}
    {id : ElementId} {level : EditableDomainLevel} (hid : ids[i]? = some id)
    (hlevel : levels[i]? = some level)
    (hentry : ∀ type, ∀ n ∈ level.nodes type,
      ∃ t, n.elementId = some t ∧ hasNode g type.label t = true)
    (hscore : ∀ n ∈ level.nodes .trait, n.minScore ≠ some 0) : SavedLevel final id level := by
  have hrequest : (levels.map levelRequest)[i]? = some (levelRequest level) := by simp [hlevel]
  constructor
  · rw [h.nodes, List.mem_append]
    refine Or.inr (List.mem_of_getElem? (i := i) ?_)
    rw [List.getElem?_zipWith, hid, hrequest]
  · have hlink (e : NodeType × EditableNode) (he : e ∈ level.entries) :
        (linkOf g id (requirementOf e.1 e.2)).map (fun c => (c.1, some c.2.2.1, c.2.2.2)) =
          some (shownEdge e) := by
      obtain ⟨type, n⟩ := e
      have hn := mem_entries.1 he
      obtain ⟨t, ht, hnode⟩ := hentry type n hn
      have hproperties : (requirementOf type n).properties = displayed type n :=
        properties_requirementOf (fun htrait => hscore n (htrait ▸ hn))
      simp [linkOf_requirementOf ht hnode, hproperties, shownEdge, ht]
    have hlinks : (levelLinks g id (levelRequest level)).map (fun c => (c.1, some c.2.2.1, c.2.2.2)) =
        level.entries.map shownEdge := by
      rw [levelLinks, entries_levelRequest, List.filterMap_map, List.map_filterMap,
        ← List.filterMap_eq_map]
      exact List.filterMap_congr hlink
    rw [map_storedEdge, h.requiresFrom_content hid hrequest, hlinks]

/-- An edge that a written level has for an entry tells of its node and its score. -/
theorem entry_of_savedLevel (h : Written g final domainId (levels.map levelRequest) ids)
    {id : ElementId} (hid : id ∈ ids) {level : EditableDomainLevel} (hsaved : SavedLevel final id level)
    {type : NodeType} {n : EditableNode} (hn : n ∈ level.nodes type) :
    (∃ t, n.elementId = some t ∧ hasNode g type.label t = true) ∧
      (type = .trait → n.minScore ≠ some 0) := by
  have hshown : shownEdge (type, n) ∈ level.entries.map shownEdge :=
    List.mem_map_of_mem (mem_entries.2 hn)
  obtain ⟨j, hj, rfl⟩ := List.mem_iff_getElem.1 hid
  have hj' : j < levels.length := by simpa [h.length] using hj
  have hrequest : (levels.map levelRequest)[j]? = some (levelRequest levels[j]) := by simp [hj']
  rw [← hsaved.2.mem_iff, map_storedEdge,
    h.requiresFrom_content (List.getElem?_eq_getElem hj) hrequest] at hshown
  obtain ⟨c, hc, hsame⟩ := List.mem_map.1 hshown
  obtain ⟨type', m, t, hnode, rfl⟩ := mem_levelLinks_levelRequest hc
  simp only [shownEdge, Prod.mk.injEq] at hsame
  obtain ⟨htype, ht, hprops⟩ := hsame
  obtain rfl := NodeType.relType_injective htype
  refine ⟨⟨t, ht.symm, hnode⟩, ?_⟩
  rintro rfl hzero
  have hscore := congrFun hprops "min_score"
  have hstored : scoreOrDefault m.minScore = 0 := by
    simpa [requirementOf, traitRequirement, GraphApi.TraitRequirement.toRequirement, displayed, hzero,
      GraphApi.Properties.toProps, List.lookup_cons] using hscore
  exact scoreOrDefault_ne_zero _ hstored

theorem saved_iff_of_written (h : Written g final domainId (levels.map levelRequest) ids)
    (hd : hasNode g "Domain" domainId = true) (hnone : ∀ id, ¬ IsLevel g domainId id) :
    Saved final domainId levels ↔
      ∀ level ∈ levels, ∀ type, ∀ n ∈ level.nodes type,
        (∃ t, n.elementId = some t ∧ hasNode g type.label t = true) ∧
          (type = .trait → n.minScore ≠ some 0) := by
  constructor
  · rintro ⟨ids', -, hlevels, hsaved⟩ level hlevel type n hn
    obtain ⟨id, hid, hsaved⟩ := exists_mem_of_forall₂ hsaved hlevel
    have hwritten : id ∈ ids := (h.isLevel_iff hd hnone id).1 ((hlevels id).2 hid)
    exact entry_of_savedLevel h hwritten hsaved hn
  · intro hentries
    refine ⟨ids, h.nodup, h.isLevel_iff hd hnone, ?_⟩
    refine List.forall₂_of_length_eq_of_get (by simp [h.length]) (fun i hi hi' => ?_)
    have hlevel := List.getElem_mem hi'
    exact savedLevel_of_written h (List.getElem?_eq_getElem hi) (List.getElem?_eq_getElem hi')
      (fun type n hn => (hentries _ hlevel type n hn).1)
      (fun n hn => (hentries _ hlevel .trait n hn).2 rfl)

theorem not_saved_of_no_level (hnone : ∀ id, ¬ IsLevel final domainId id) (hlevels : levels ≠ []) :
    ¬ Saved final domainId levels := by
  rintro ⟨ids, -, hids, hsaved⟩
  cases hsaved with
  | nil => exact hlevels rfl
  | cons hlevel _ => exact hnone _ ((hids _).2 List.mem_cons_self)

end Written

section Session

variable {env : Env} {cases : CaseMapping} {s : Session} {saved : SavedDomain}

/-- A save on an opened graph that keeps exactly the spared nodes saves every
entry exactly if the session is savable. -/
theorem saved_iff_of_stores {g final : Graph} {domainId : ElementId}
    (hstores : Stores g final domainId (s.creator.domain.levels.map levelRequest))
    (hnone : ∀ id, ¬ IsLevel g domainId id) (hlevels : s.creator.domain.levels ≠ [])
    (hdomain : hasNode g "Domain" domainId = true ↔ Spared s (s.creator.domain.elementId.getD ""))
    (hnodes : ∀ (type : NodeType) id, hasNode g type.label id = true ↔
      hasNode s.world.graph type.label id = true ∧ Spared s id)
    (hknown : Known s) : Saved final domainId s.creator.domain.levels ↔ Savable s := by
  rcases hstores with ⟨hd, ids, hwritten⟩ | ⟨hd, hfinal⟩
  · rw [saved_iff_of_written hwritten hd hnone]
    constructor
    · intro hentries
      refine ⟨hdomain.1 hd, ?_, ?_⟩
      · rintro i type n ⟨level, hlevel, hn⟩
        obtain ⟨⟨id, hid, hnode⟩, -⟩ := hentries level (List.mem_of_getElem? hlevel) type n hn
        exact ⟨id, hid, ((hnodes type id).1 hnode).2⟩
      · rintro i n ⟨level, hlevel, hn⟩
        exact (hentries level (List.mem_of_getElem? hlevel) .trait n hn).2 rfl
    · intro hsavable level hlevel type n hn
      obtain ⟨i, hi⟩ := List.mem_iff_getElem?.1 hlevel
      have hshown : ShownAt s.creator.domain i type n := ⟨level, hi, hn⟩
      obtain ⟨id, hid, hspared⟩ := hsavable.entry i type n hshown
      refine ⟨⟨id, hid, (hnodes type id).2 ⟨hknown i type n hshown id hid, hspared⟩⟩, ?_⟩
      rintro rfl
      exact hsavable.score i n hshown
  · refine iff_of_false (not_saved_of_no_level hfinal hlevels) (fun hsavable => ?_)
    rw [hdomain.2 hsavable.domain] at hd
    cases hd

theorem hasNode_createdDomain (g : Graph) (props : Props) (type : NodeType) (id : ElementId) :
    hasNode (g.createNode ["Domain"] props) type.label id = hasNode g type.label id := by
  have hlabel : type.label ≠ "Domain" := by cases type <;> simp [NodeType.label]
  simp [hasNode, GraphApi.isNode, Node.hasLabel, hlabel]

theorem handleSave_saved_iff (henv : GraphApi.Undisturbed env) (hknown : Known s)
    (h : (env.exec (handleSave cases s.creator) s.world).exit = .ok (.ok saved)) :
    Saved (env.exec (handleSave cases s.creator) s.world).state.graph saved.elementId
      s.creator.domain.levels ↔ Savable s := by
  rcases handleSave_cases h with ⟨hupdate, result, hresult, rfl, hstate⟩ |
    ⟨hupdate, w', result, hgraph, hresult, rfl, hstate⟩
  · obtain ⟨hid, -, hlevels, hd, progress, hstores⟩ := GraphApi.updateDomain_undisturbed henv
      (onlyExisting_levelRequests s.creator.domain.levels) hresult
    have hspared (id : ElementId) : Spared s id ↔
        ¬ IsLevel s.world.graph (s.creator.domain.elementId.getD "") id :=
      ⟨fun h => h hupdate, fun h _ => h⟩
    rw [hstate, hid]
    refine saved_iff_of_stores hstores (fun id => GraphApi.not_isLevel_deleted _ _ id)
      (fun hnil => hlevels (congrArg (List.map levelRequest) hnil)) ?_ (fun type id => ?_) hknown
    · rw [GraphApi.hasNode_openingWrites, hspared]
      exact and_iff_right hd
    · rw [GraphApi.hasNode_openingWrites, hspared]
      rfl
  · obtain ⟨hid, -, hlevels, hstores⟩ := GraphApi.createDomain_undisturbed henv
      (onlyExisting_levelRequests s.creator.domain.levels) hresult
    have hspared (id : ElementId) : Spared s id := fun h => by simp [hupdate] at h
    rw [hstate, hid]
    refine saved_iff_of_stores hstores
      (fun id => GraphApi.not_isLevel_created (domainToCreateRequest cases s.creator.domain) .done id)
      (fun hnil => hlevels (congrArg (List.map levelRequest) hnil)) ?_ (fun type id => ?_) hknown
    · refine iff_of_true ?_ (hspared _)
      simp [hasNode, GraphApi.isNode, Node.hasLabel]
    · rw [hasNode_createdDomain, hgraph]
      exact (and_iff_left (hspared id)).symm

/-- After any edits, a save that nothing disturbs stores every entry on display,
and nothing else, exactly if the session is savable. -/
theorem handleSave_saved_along_iff {uuid : Nat → String} {codec : Codec} {start : Session}
    {edits : List Edit} (henv : GraphApi.Undisturbed env) (hopens : Opens env uuid start)
    (hpossible : ∀ k edit, edits[k]? = some edit → Possible edit (sessionAt env uuid codec edits start k))
    (hs : s = sessionAt env uuid codec edits start edits.length)
    (h : (env.exec (handleSave cases s.creator) s.world).exit = .ok (.ok saved)) :
    Saved (env.exec (handleSave cases s.creator) s.world).state.graph saved.elementId
      s.creator.domain.levels ↔ Savable s :=
  handleSave_saved_iff henv (hs ▸ known_sessionAt env uuid codec hopens hpossible edits.length) h

end Session

section Chess

def foundOpenings : SearchNodeResult where
  elementId := GraphApi.graphWithKnowledge.nodeIds.headD ""
  labels := ["Knowledge"]
  props := ⟨"Openings", none, none, none, none, none⟩

/-- A new domain whose levels all require the openings, but for the first one. -/
def allButFirst : List Edit :=
  [.changeName "Chess", .changeDescription "The game"] ++
    [1, 2, 3, 4].flatMap (fun i => [.selectLevel i, .addNodeFromSearch foundOpenings]) ++
    [.selectLevel 0]

def chessStart : Session := ⟨newCreator candidateId, World.start GraphApi.graphWithKnowledge⟩

/-- The session whose last edit is made on the first level. -/
def chessEdited (last : Edit) : Session :=
  sessionAt Env.calm candidateId silentCodec (allButFirst ++ [last]) chessStart
    (allButFirst ++ [last]).length

theorem possible_chessEdited {last : Edit}
    (hlast : ∀ result, last = .addNodeFromSearch result → result = foundOpenings) (k : Nat) (edit : Edit)
    (hedit : (allButFirst ++ [last])[k]? = some edit) :
    Possible edit (sessionAt Env.calm candidateId silentCodec (allButFirst ++ [last]) chessStart k) := by
  refine possible_of_foundIn _ _ _ (fun result hresult => ?_) k edit hedit
  have hopenings : result = foundOpenings := by
    rcases List.mem_append.1 hresult with hfirst | hsecond
    · simpa [allButFirst] using hfirst
    · exact hlast result (List.mem_singleton.1 hsecond).symm
  subst hopenings
  exact ⟨_, List.mem_cons_self, rfl, rfl, .knowledge, List.mem_cons_self⟩

def newEndgames : Edit := .addNewNode "Endgames" "Few pieces" .knowledge ⟨none, none, none, none⟩

/-- A node that the first level gets through the modal is not required after the save. -/
theorem newEndgames_not_saved :
    Opens Env.calm candidateId chessStart ∧
      (∀ k edit, (allButFirst ++ [newEndgames])[k]? = some edit →
        Possible edit (sessionAt Env.calm candidateId silentCodec (allButFirst ++ [newEndgames])
          chessStart k)) ∧
      (Env.calm.exec (handleSave asciiCases (chessEdited newEndgames).creator)
        (chessEdited newEndgames).world).exit = .ok (.ok ⟨candidateId 2, "Chess"⟩) ∧
      ¬ Saved (Env.calm.exec (handleSave asciiCases (chessEdited newEndgames).creator)
          (chessEdited newEndgames).world).state.graph (candidateId 2)
        (chessEdited newEndgames).creator.domain.levels := by
  have hpossible := @possible_chessEdited newEndgames (fun result h => by cases h)
  have hexit : (Env.calm.exec (handleSave asciiCases (chessEdited newEndgames).creator)
      (chessEdited newEndgames).world).exit = .ok (.ok ⟨candidateId 2, "Chess"⟩) := by
    decide +kernel
  have hknown : Known (chessEdited newEndgames) :=
    known_sessionAt Env.calm candidateId silentCodec (.create _) hpossible _
  have hlost : ¬ Savable (chessEdited newEndgames) := by decide +kernel
  refine ⟨.create _, hpossible, hexit, ?_⟩
  rwa [handleSave_saved_iff GraphApi.undisturbed_calm hknown hexit]

theorem foundOpenings_saved :
    Saved (Env.calm.exec (handleSave asciiCases (chessEdited (.addNodeFromSearch foundOpenings)).creator)
        (chessEdited (.addNodeFromSearch foundOpenings)).world).state.graph (candidateId 1)
      (chessEdited (.addNodeFromSearch foundOpenings)).creator.domain.levels := by
  have hpossible := @possible_chessEdited (.addNodeFromSearch foundOpenings)
    (fun result h => (Edit.addNodeFromSearch.inj h).symm)
  have hexit : (Env.calm.exec (handleSave asciiCases
      (chessEdited (.addNodeFromSearch foundOpenings)).creator)
      (chessEdited (.addNodeFromSearch foundOpenings)).world).exit =
        .ok (.ok ⟨candidateId 1, "Chess"⟩) := by
    decide +kernel
  exact (handleSave_saved_along_iff GraphApi.undisturbed_calm (.create _) hpossible rfl hexit).2
    (by decide +kernel)

end Chess

end AtlasOfUs.Editor
