import AtlasOfUs.Agent.Alignment
import AtlasOfUs.Library.Loop

namespace AtlasOfUs.Agent

open Library Similarity GraphApi

namespace GeneratorKind

variable (kind : GeneratorKind) (codec : Codec) (env : Env)

def generateTarget (target : Nat × String) : Step (Nat × String × NodeProperties) := do
  let props ← ask (kind.genericPrompt target.2)
    (fun response => kind.parseKindProperties codec response target.2)
  return (target.1, target.2, props)

theorem pass4_eq (verified : List VerifiedConcept) :
    kind.pass4CreateMissingTargets codec verified = (do
      let properties ← batch (kind.generateTarget codec) (targetsToCreate verified)
      properties.foldlM (kind.createTarget codec) (verified, [])) := rfl

/-- The delivery has read these properties from the reply to the prompt of its own target. -/
def Answered (d : Delivered (Nat × String) (Nat × String × NodeProperties))
    (property : Nat × String × NodeProperties) : Prop :=
  d.item = (property.1, property.2.1) ∧ ∃ text,
    d.calls = [⟨.generate (kind.genericPrompt property.2.1), .ok text⟩] ∧
      kind.parseKindProperties codec text property.2.1 = .ok property.2.2

/-- The targets are stored one after the other, with these properties and under these ids. -/
inductive StoredAll (label : String) :
    List (Nat × String × NodeProperties) → World → List ElementId → World → Prop
  | nil (w : World) : StoredAll label [] w [] w
  | cons {property : Nat × String × NodeProperties}
      {properties : List (Nat × String × NodeProperties)} {id : ElementId} {ids : List ElementId}
      {w w₁ w' : World} (stored : Stored env (property.2.2.request label) w id w₁)
      (rest : StoredAll label properties w₁ ids w') :
      StoredAll label (property :: properties) w (id :: ids) w'

def resolution (property : Nat × String × NodeProperties) (id : ElementId) :
    Nat × (VerifiedConcept → VerifiedConcept) :=
  (property.1, fun c => { c with action := .createAndGeneralize id property.2.1 false })

def targetNode (label : String) (property : Nat × String × NodeProperties) (id : ElementId) :
    CreatedNode := .new property.2.1 id label

variable {kind codec env} {deliveries : List (Delivered (Nat × String) (Nat × String × NodeProperties))}
  {properties : List (Nat × String × NodeProperties)} {verified : List VerifiedConcept} {w w' : World}

theorem follows_generateTarget {target : Nat × String}
    {calls : List (Call (services SseEvent Prompt))} {property : Nat × String × NodeProperties}
    (h : (kind.generateTarget codec target).Follows calls (.done property)) :
    (property.1, property.2.1) = target ∧ ∃ text,
      calls = [⟨.generate (kind.genericPrompt target.2), .ok text⟩] ∧
        kind.parseKindProperties codec text target.2 = .ok property.2.2 := by
  obtain ⟨props, before, after, rfl, hask, hdone⟩ := h.of_bind
  obtain ⟨rfl, hproperty⟩ := Proc.Follows.of_ofExit (x := .ok _) hdone
  obtain ⟨text, rfl, hparse⟩ := follows_ask hask
  cases hproperty
  exact ⟨rfl, text, rfl, hparse⟩

theorem answered {limit : Nat}
    (hd : Buffer.Delivers env.handler (kind.generateTarget codec) limit (targetsToCreate verified) w
      deliveries w') (hcollect : collect (deliveries.map (·.result)) = .ok properties) :
    List.Forall₂ (kind.Answered codec) deliveries properties := by
  have hfollows := hd.follows
  have hresults := collect_eq_ok.1 hcollect
  rw [List.forall₂_map_left_iff] at hresults
  clear hd hcollect
  induction hresults with
  | nil => exact .nil
  | @cons d property deliveries properties hresult _ ih =>
      apply List.Forall₂.cons
      · have hd := hfollows d List.mem_cons_self
        rw [hresult] at hd
        obtain ⟨hitem, text, hcalls, hparse⟩ := follows_generateTarget hd
        rw [← hitem] at hcalls hparse
        exact ⟨hitem.symm, text, hcalls, hparse⟩
      · exact ih fun d hd => hfollows d (List.mem_cons_of_mem _ hd)

theorem createTarget_ok {acc acc' : List VerifiedConcept × List CreatedNode}
    {property : Nat × String × NodeProperties}
    (h : (env.exec (kind.createTarget codec acc property) w).exit = .ok acc') :
    ∃ id, Stored env (property.2.2.request kind.label) w id
        (env.exec (kind.createTarget codec acc property) w).state ∧
      acc' = (acc.1.modify (resolution property id).1 (resolution property id).2,
        acc.2 ++ [targetNode kind.label property id]) := by
  rw [createTarget, exec_bind] at h ⊢
  obtain ⟨result, hstore, hok⟩ := Execution.exit_andThen_eq_ok h
  obtain rfl := Exit.ok.inj hok
  rw [Execution.state_andThen hstore]
  exact ⟨result.elementId, storeNode_ok hstore, rfl⟩

theorem createTargets_ok {acc acc' : List VerifiedConcept × List CreatedNode}
    (h : (env.exec (properties.foldlM (kind.createTarget codec) acc) w).exit = .ok acc') :
    ∃ ids, StoredAll env kind.label properties w ids
        (env.exec (properties.foldlM (kind.createTarget codec) acc) w).state ∧
      acc' = (modifyAll (List.zipWith resolution properties ids) acc.1,
        acc.2 ++ List.zipWith (targetNode kind.label) properties ids) := by
  induction properties generalizing acc w with
  | nil =>
      obtain rfl := Exit.ok.inj h
      exact ⟨[], .nil w, Prod.ext rfl (List.append_nil acc.2).symm⟩
  | cons property properties ih =>
      rw [List.foldlM_cons, exec_bind] at h ⊢
      obtain ⟨acc₁, hfirst, hrest⟩ := Execution.exit_andThen_eq_ok h
      obtain ⟨id, hstored, rfl⟩ := createTarget_ok hfirst
      obtain ⟨ids, hall, rfl⟩ := ih hrest
      rw [Execution.state_andThen hfirst]
      refine ⟨id :: ids, .cons hstored hall, ?_⟩
      rw [List.zipWith_cons_cons, List.zipWith_cons_cons, List.append_assoc, List.singleton_append]
      rfl

theorem StoredAll.length {label : String} {ids : List ElementId}
    (h : StoredAll env label properties w ids w') : ids.length = properties.length := by
  induction h with
  | nil => rfl
  | cons _ _ ih => rw [List.length_cons, List.length_cons, ih]

section Targets

variable {i : Nat} {name : String}

theorem mem_targetsToCreate : (i, name) ∈ targetsToCreate verified ↔
    ∃ c, verified[i]? = some c ∧ missingTarget c = some name := by
  rw [targetsToCreate, List.mem_filterMap]
  constructor
  · rintro ⟨⟨c, j⟩, hmem, hname⟩
    obtain ⟨target, hmissing, heq⟩ := Option.map_eq_some_iff.1 hname
    cases heq
    exact ⟨c, List.mem_zipIdx_iff_getElem?.1 hmem, hmissing⟩
  · rintro ⟨c, hc, hmissing⟩
    refine ⟨(c, i), List.mem_zipIdx_iff_getElem?.2 hc, ?_⟩
    rw [hmissing]
    rfl

theorem sublist_filterMap {γ : Type} {f : α → Option β} {g : β → γ} {k : α → γ}
    (h : ∀ x y, f x = some y → g y = k x) (xs : List α) :
    ((xs.filterMap f).map g).Sublist (xs.map k) := by
  induction xs with
  | nil => exact .slnil
  | cons x xs ih =>
      cases hx : f x with
      | none =>
          rw [List.filterMap_cons_none hx]
          exact ih.cons (k x)
      | some y =>
          rw [List.filterMap_cons_some hx, List.map_cons, h x y hx]
          exact ih.cons_cons (k x)

theorem nodup_targetsToCreate (verified : List VerifiedConcept) :
    ((targetsToCreate verified).map Prod.fst).Nodup := by
  have hsublist : ((targetsToCreate verified).map Prod.fst).Sublist
      (verified.zipIdx.map Prod.snd) := by
    apply sublist_filterMap
    intro x target htarget
    obtain ⟨name, -, rfl⟩ := Option.map_eq_some_iff.1 htarget
    rfl
  rw [List.zipIdx_map_snd] at hsublist
  exact hsublist.nodup List.nodup_range'

end Targets

section Resolution

variable {ids : List ElementId}

theorem map_fst_resolutions (h : ids.length = properties.length) :
    (List.zipWith resolution properties ids).map Prod.fst = properties.map Prod.fst := by
  induction properties generalizing ids with
  | nil => rfl
  | cons property properties ih =>
      cases ids with
      | nil => cases h
      | cons id ids =>
          rw [List.zipWith_cons_cons, List.map_cons, List.map_cons, ih (Nat.succ.inj h)]
          rfl

theorem map_name_targetNodes {label : String} (h : ids.length = properties.length) :
    (List.zipWith (targetNode label) properties ids).map (·.name) = properties.map (·.2.1) := by
  induction properties generalizing ids with
  | nil => rfl
  | cons property properties ih =>
      cases ids with
      | nil => cases h
      | cons id ids =>
          rw [List.zipWith_cons_cons, List.map_cons, List.map_cons, ih (Nat.succ.inj h)]
          rfl

theorem targets_perm {limit : Nat}
    (hd : Buffer.Delivers env.handler (kind.generateTarget codec) limit (targetsToCreate verified) w
      deliveries w') (h : List.Forall₂ (kind.Answered codec) deliveries properties) :
    (properties.map fun property => (property.1, property.2.1)).Perm (targetsToCreate verified) := by
  have hitems : deliveries.map (·.item) = properties.map fun property => (property.1, property.2.1) := by
    clear hd
    induction h with
    | nil => rfl
    | cons hd _ ih => rw [List.map_cons, List.map_cons, ih, hd.1]
  rw [← hitems]
  exact hd.items_perm

theorem nodup_resolutions (hlength : ids.length = properties.length)
    (hperm : (properties.map fun property => (property.1, property.2.1)).Perm
      (targetsToCreate verified)) :
    ((List.zipWith resolution properties ids).map Prod.fst).Nodup := by
  rw [map_fst_resolutions hlength]
  have hfst := (hperm.map Prod.fst).nodup_iff.2 (nodup_targetsToCreate verified)
  rwa [List.map_map] at hfst

theorem resolved_missing (hlength : ids.length = properties.length)
    (hperm : (properties.map fun property => (property.1, property.2.1)).Perm
      (targetsToCreate verified)) {i : Nat} {c : VerifiedConcept} {name : String}
    (hc : verified[i]? = some c) (hmissing : missingTarget c = some name) :
    ∃ (k : Nat) (props : NodeProperties) (id : ElementId),
      properties[k]? = some (i, name, props) ∧ ids[k]? = some id ∧
        (modifyAll (List.zipWith resolution properties ids) verified)[i]? =
          some { c with action := .createAndGeneralize id name false } := by
  obtain ⟨⟨j, name', props⟩, hmem, heq⟩ :=
    List.mem_map.1 (hperm.mem_iff.2 (mem_targetsToCreate.2 ⟨c, hc, hmissing⟩))
  obtain ⟨rfl, rfl⟩ := Prod.mk.inj heq
  obtain ⟨k, hk⟩ := List.mem_iff_getElem?.1 hmem
  obtain ⟨hlt, -⟩ := List.getElem?_eq_some_iff.1 hk
  have hid : ids[k]? = some ids[k] := List.getElem?_eq_getElem (hlength ▸ hlt)
  have hwrite : resolution (j, name', props) ids[k] ∈ List.zipWith resolution properties ids := by
    apply List.mem_of_getElem? (i := k)
    rw [List.getElem?_zipWith, hk, hid]
  refine ⟨k, props, _, hk, hid, ?_⟩
  rw [getElem?_modifyAll_of_mem (nodup_resolutions hlength hperm) hwrite, hc]
  rfl

theorem resolved_other (hlength : ids.length = properties.length)
    (hperm : (properties.map fun property => (property.1, property.2.1)).Perm
      (targetsToCreate verified)) {i : Nat} {c : VerifiedConcept}
    (hc : verified[i]? = some c) (hmissing : missingTarget c = none) :
    (modifyAll (List.zipWith resolution properties ids) verified)[i]? = some c := by
  rw [getElem?_modifyAll_of_notMem, hc]
  rw [map_fst_resolutions hlength]
  intro hmem
  obtain ⟨property, hproperty, rfl⟩ := List.mem_map.1 hmem
  obtain ⟨c', hc', hmissing'⟩ := mem_targetsToCreate.1
    (hperm.mem_iff.1 (List.mem_map_of_mem hproperty))
  obtain rfl := Option.some.inj (hc.symm.trans hc')
  rw [hmissing] at hmissing'
  cases hmissing'

end Resolution

/-- Pass 4 resolves what was missing and nothing else, in whatever order the properties come. -/
theorem pass4_resolves {limit : Nat}
    (hdelivers : Buffer.Delivers env.handler (kind.generateTarget codec) limit
      (targetsToCreate verified) w deliveries w')
    (hcollect : collect (deliveries.map (·.result)) = .ok properties)
    {verified' : List VerifiedConcept} {created : List CreatedNode}
    (hok : (env.exec (properties.foldlM (kind.createTarget codec) (verified, [])) w').exit =
      .ok (verified', created)) :
    (∀ c ∈ verified', missingTarget c = none) ∧ verified'.map (·.name) = verified.map (·.name) ∧
    List.Forall₂ (kind.Answered codec) deliveries properties ∧
    ∃ ids, StoredAll env kind.label properties w' ids
        (env.exec (properties.foldlM (kind.createTarget codec) (verified, [])) w').state ∧
      ∀ (i : Nat) (c : VerifiedConcept), verified[i]? = some c →
        (missingTarget c = none → verified'[i]? = some c) ∧
        ∀ name, missingTarget c = some name → ∃ (k : Nat) (props : NodeProperties) (id : ElementId),
          properties[k]? = some (i, name, props) ∧ ids[k]? = some id ∧
            verified'[i]? = some { c with action := .createAndGeneralize id name false } := by
  have hanswered := answered hdelivers hcollect
  have hperm := targets_perm hdelivers hanswered
  obtain ⟨ids, hstored, hresult⟩ := createTargets_ok hok
  obtain ⟨rfl, rfl⟩ := Prod.mk.inj hresult
  have hlength := hstored.length
  refine ⟨?_, ?_, hanswered, ids, hstored, ?_⟩
  · intro c' hc'
    obtain ⟨i, hi⟩ := List.mem_iff_getElem?.1 hc'
    obtain ⟨hlt, -⟩ := List.getElem?_eq_some_iff.1 hi
    rw [length_modifyAll] at hlt
    have hc : verified[i]? = some verified[i] := List.getElem?_eq_getElem hlt
    cases hmissing : missingTarget verified[i] with
    | none =>
        rw [resolved_other hlength hperm hc hmissing] at hi
        rwa [← Option.some.inj hi]
    | some name =>
        obtain ⟨k, props, id, -, -, hresolved⟩ := resolved_missing hlength hperm hc hmissing
        rw [hresolved] at hi
        rw [← Option.some.inj hi]
        rfl
  · apply map_modifyAll
    intro write hwrite c
    obtain ⟨k, hk⟩ := List.mem_iff_getElem?.1 hwrite
    rw [List.getElem?_zipWith] at hk
    split at hk
    · rw [← Option.some.inj hk]
      rfl
    · cases hk
  · intro i c hc
    exact ⟨resolved_other hlength hperm hc, fun name => resolved_missing hlength hperm hc⟩

/-- Each missing target is created once, and the concepts that name it share what is created. -/
structure OneEach (verified verified' : List VerifiedConcept) (created : List CreatedNode) : Prop where
  once : ∀ name, (created.filter fun node => node.name = name).length ≤ 1
  shared : ∀ (i j : Nat) (c c' : VerifiedConcept) (name : String), verified[i]? = some c →
    missingTarget c = some name → verified[j]? = some c' → missingTarget c' = some name →
      verified'[i]?.map (·.action) = verified'[j]?.map (·.action)

theorem once_iff (created : List CreatedNode) :
    (∀ name, (created.filter fun node => node.name = name).length ≤ 1) ↔
      (created.map (·.name)).Nodup := by
  rw [List.nodup_iff_count_le_one]
  apply forall_congr'
  intro name
  rw [List.count, List.countP_map, List.countP_eq_length_filter]
  rfl

/-- Pass 4 creates one node for each missing target just if no two concepts miss the same. -/
theorem pass4_oneEach_iff {limit : Nat}
    (hdelivers : Buffer.Delivers env.handler (kind.generateTarget codec) limit
      (targetsToCreate verified) w deliveries w')
    (hcollect : collect (deliveries.map (·.result)) = .ok properties)
    {verified' : List VerifiedConcept} {created : List CreatedNode}
    (hok : (env.exec (properties.foldlM (kind.createTarget codec) (verified, [])) w').exit =
      .ok (verified', created)) :
    (∃ ids, StoredAll env kind.label properties w' ids
        (env.exec (properties.foldlM (kind.createTarget codec) (verified, [])) w').state ∧
      created = List.zipWith (targetNode kind.label) properties ids) ∧
    (OneEach verified verified' created ↔ ((targetsToCreate verified).map Prod.snd).Nodup) := by
  have hperm := targets_perm hdelivers (answered hdelivers hcollect)
  obtain ⟨ids, hstored, hresult⟩ := createTargets_ok hok
  obtain ⟨rfl, rfl⟩ := Prod.mk.inj hresult
  rw [List.nil_append]
  have hnames : (List.zipWith (targetNode kind.label) properties ids).map (·.name) =
      (properties.map fun property => (property.1, property.2.1)).map Prod.snd := by
    rw [map_name_targetNodes hstored.length, List.map_map]
    rfl
  have honce : (∀ name, ((List.zipWith (targetNode kind.label) properties ids).filter
      fun node => node.name = name).length ≤ 1) ↔
        ((targetsToCreate verified).map Prod.snd).Nodup := by
    rw [once_iff, hnames, (hperm.map Prod.snd).nodup_iff]
  refine ⟨⟨ids, hstored, rfl⟩, ?_⟩
  constructor
  · exact fun h => honce.1 h.once
  · intro hnodup
    refine ⟨honce.2 hnodup, ?_⟩
    intro i j c c' name hi hc hj hc'
    have hsame : (i, name) = (j, name) := List.inj_on_of_nodup_map hnodup
      (mem_targetsToCreate.2 ⟨c, hi, hc⟩) (mem_targetsToCreate.2 ⟨c', hj, hc'⟩) rfl
    rw [(Prod.mk.inj hsame).1]

section Algorithms

/-- Two concepts with one target, and neither finds it. -/
def algorithmConcepts : List VerifiedConcept :=
  [.createAndGeneralize "Sorting" "" "Algorithms" true,
    .createAndGeneralize "Searching" "" "Algorithms" true]

def algorithmProperties : List (Nat × String × NodeProperties) :=
  [0, 1].map fun i => (i, "Algorithms", ⟨"Algorithms", knowledgeKind.keys.map fun key => (key, "")⟩)

theorem algorithms_generated :
    (replying.exec ((targetsToCreate algorithmConcepts).mapM
      fun target => (knowledgeKind.generateTarget (reuseCodec "Git") target).attempt : Step _)
        (World.start emptyGraph)).exit = .ok (algorithmProperties.map .ok) := by
  decide +kernel

def resolvedAlgorithms : List VerifiedConcept :=
  [.createAndGeneralize "Sorting" (candidateId 0) "Algorithms" false,
    .createAndGeneralize "Searching" (candidateId 1) "Algorithms" false]

def createdAlgorithms : List CreatedNode :=
  [.new "Algorithms" (candidateId 0) "Knowledge", .new "Algorithms" (candidateId 1) "Knowledge"]

theorem algorithms_created :
    (replying.exec (algorithmProperties.foldlM
      (knowledgeKind.createTarget (reuseCodec "Git")) (algorithmConcepts, []))
        (replying.exec ((targetsToCreate algorithmConcepts).mapM fun target =>
          (knowledgeKind.generateTarget (reuseCodec "Git") target).attempt : Step _)
            (World.start emptyGraph)).state).exit = .ok (resolvedAlgorithms, createdAlgorithms) := by
  decide +kernel

theorem pass4_resolves_algorithms :
    ∃ deliveries w', Buffer.Delivers replying.handler
        (knowledgeKind.generateTarget (reuseCodec "Git")) 2 (targetsToCreate algorithmConcepts)
          (World.start emptyGraph) deliveries w' ∧
      List.Forall₂ (knowledgeKind.Answered (reuseCodec "Git")) deliveries algorithmProperties ∧
      ∃ ids, StoredAll replying "Knowledge" algorithmProperties w' ids
        (replying.exec (algorithmProperties.foldlM (knowledgeKind.createTarget (reuseCodec "Git"))
          (algorithmConcepts, [])) w').state := by
  obtain ⟨deliveries, hresults, hdelivers⟩ :=
    Buffer.delivers_of_run Nat.zero_lt_two algorithms_generated
  have hcollect : collect (deliveries.map (·.result)) = .ok algorithmProperties := by
    rw [hresults]
    rfl
  obtain ⟨-, -, hanswered, ids, hstored, -⟩ := pass4_resolves hdelivers hcollect algorithms_created
  exact ⟨deliveries, _, hdelivers, hanswered, ids, hstored⟩

theorem pass4_oneEach_iff_algorithms :
    OneEach algorithmConcepts resolvedAlgorithms createdAlgorithms ↔
      ((targetsToCreate algorithmConcepts).map Prod.snd).Nodup := by
  obtain ⟨deliveries, hresults, hdelivers⟩ :=
    Buffer.delivers_of_run Nat.zero_lt_two algorithms_generated
  have hcollect : collect (deliveries.map (·.result)) = .ok algorithmProperties := by
    rw [hresults]
    rfl
  exact (pass4_oneEach_iff hdelivers hcollect algorithms_created).2

theorem algorithms_twice :
    (replying.exec (knowledgeKind.pass4CreateMissingTargets (reuseCodec "Git") algorithmConcepts)
        (World.start emptyGraph)).exit = .ok (resolvedAlgorithms, createdAlgorithms) ∧
      ¬ OneEach algorithmConcepts resolvedAlgorithms createdAlgorithms := by
  constructor
  · decide +kernel
  · intro h
    exact absurd (h.once "Algorithms") (by decide)

end Algorithms

end GeneratorKind

end AtlasOfUs.Agent
