import AtlasOfUs.Editor.Loaded

namespace AtlasOfUs.Editor

open Library
open GraphApi (NodeType Api CreateNodeRequest hasNode)

section Grows

def growing : (services Empty Empty).Op → Prop
  | .execute q => ∀ g : Graph, g.nodes.Sublist (q g).2.nodes
  | _ => True

abbrev Grows {ε α : Type} (p : Service Empty Empty ε α) : Prop :=
  Contract (I := services Empty Empty) growing (fun _ _ => False) p

theorem Grows.nodes_sublist {ε α : Type} {p : Service Empty Empty ε α} (hp : Grows p) (env : Env)
    (w : World) : w.graph.nodes.Sublist (env.exec p w).state.graph.nodes := by
  refine hp.run_invariant (P := fun s : World => w.graph.nodes.Sublist s.graph.nodes)
    (fun o s ho hs => ?_) w (List.Sublist.refl _)
  cases o with
  | execute q =>
      change w.graph.nodes.Sublist ((env.outcome s.clock).after q s.graph).nodes
      rw [Outcome.after]
      split
      · exact hs.trans (ho s.graph)
      · exact hs
  | _ => exact hs

theorem grows_checkSimilar (codec : Codec) (embedding : Embedding) :
    Grows (GraphApi.checkSimilar codec embedding : Service Empty Empty GraphApi.ServiceError Unit) := by
  have hfind : Grows (Similarity.findSimilarNodes { embedding := some embedding, limit := some 1 }) :=
    Contract.bind (Contract.perform trivial (fun _ => id))
      (fun rows => (Contract.ofExcept rows).bind (fun _ => trivial))
  refine hfind.attempt.bind (fun result => ?_)
  cases result with
  | error e => trivial
  | ok rows =>
      cases rows with
      | nil => trivial
      | cons top rest =>
          simp only
          split <;> trivial

theorem grows_createNode (codec : Codec) (request : CreateNodeRequest) :
    Grows (GraphApi.createNode codec request true : Service Empty Empty GraphApi.ServiceError _) := by
  refine Contract.bind (Contract.perform trivial (fun _ => id)) (fun embedding => ?_)
  cases embedding with
  | error e => trivial
  | ok embedding =>
      refine (grows_checkSimilar codec embedding).bind (fun _ => ?_)
      refine Contract.bind (Contract.perform (fun g => ?_) (fun _ => id)) (fun result => ?_)
      · exact List.sublist_append_left _ _
      · cases result with
        | error e => trivial
        | ok result => cases h : result.firstRow <;> simp [h, Contract]

theorem grows_handleAddNewNode (uuid : Nat → String) (codec : Codec) (name description : String)
    (type : NodeType) (props : TypeSpecificProps) (creator : DomainCreator) :
    Grows (handleAddNewNode uuid codec name description type props creator) := by
  refine Contract.bind (Contract.bind ((grows_createNode codec _).attempt.bind (fun result => ?_))
    (fun response => ?_)) (fun result => ?_)
  · cases result with
    | ok result => trivial
    | error e => cases e <;> trivial
  · cases response <;> trivial
  · split <;> trivial

end Grows

def Known (s : Session) : Prop :=
  ∀ i type n, ShownAt s.creator.domain i type n → ∀ id, n.elementId = some id →
    hasNode s.world.graph type.label id = true

/-- The result is of a search: a node that is there and has one of the labels
that the search asks for. -/
def FoundIn (g : Graph) (result : SearchNodeResult) : Prop :=
  ∃ n ∈ g.nodes, n.id = result.elementId ∧ n.labels = result.labels ∧
    ∃ type : NodeType, type.label ∈ n.labels

def Possible (edit : Edit) (s : Session) : Prop :=
  match edit with
  | .addNodeFromSearch result => FoundIn s.world.graph result
  | _ => True

/-- The editor opens on a new domain or on one that it has fetched. -/
inductive Opens (env : Env) (uuid : Nat → String) : Session → Prop
  | create (w : World) : Opens env uuid ⟨newCreator uuid, w⟩
  | load {domainName : String} {w : World} {response : Json} {data : DomainData}
      (hresponse : (env.exec (HttpService.fetchDomain domainName) w).exit = .ok (some response))
      (hdata : DomainData.ofJson response = some data) :
      Opens env uuid
        ⟨loadedCreator uuid data, (env.exec (HttpService.fetchDomain domainName) w).state⟩

theorem label_getNodeTypeFromLabels {labels : List String} {type : NodeType} (h : type.label ∈ labels) :
    (getNodeTypeFromLabels labels).label ∈ labels := by
  unfold getNodeTypeFromLabels
  split_ifs with hk hs ht hm
  · simpa [NodeType.label] using hk
  · simpa [NodeType.label] using hs
  · simpa [NodeType.label] using ht
  · simpa [NodeType.label] using hm
  · refine absurd h ?_
    cases type <;> simp_all [NodeType.label]

theorem exec_fetchDomain {env : Env} {domainName : String} {w : World} {response : Json}
    (h : (env.exec (HttpService.fetchDomain domainName) w).exit = .ok (some response)) :
    (∃ d ∈ w.graph.nodes, GraphApi.isNamed "Domain" domainName d = true ∧
        response = (GraphApi.domainView w.graph d).toJson) ∧
      (env.exec (HttpService.fetchDomain domainName) w).state.graph = w.graph := by
  have hgraph := GraphApi.exec_getDomain_graph env domainName w
  rw [HttpService.fetchDomain, GraphApi.Handlers.getDomain, exec_bind, exec_bind, exec_attempt] at h ⊢
  cases hexit : (env.exec (GraphApi.getDomain domainName) w).exit with
  | ok result =>
      rw [hexit] at h
      cases result with
      | none => cases h
      | some domainData =>
          obtain rfl : domainData = response := Option.some.inj (Exit.ok.inj h)
          exact ⟨GraphApi.exec_getDomain hexit, hgraph⟩
  | err e =>
      rw [hexit] at h
      cases h
  | panicked =>
      rw [hexit] at h
      cases h

section Session

variable (env : Env) (uuid : Nat → String) (codec : Codec)

theorem not_shownAt_new (i : Nat) (type : NodeType) (n : EditableNode) :
    ¬ ShownAt (newCreator uuid).domain i type n := by
  rintro ⟨level, hlevel, hn⟩
  have hlevels : List.Forall₂ (fun x level => ∃ k, (createEmptyLevel uuid x k).1 = level) [1, 2, 3, 4, 5]
      (newCreator uuid).domain.levels := forall₂_mapM_state _ _ _
  obtain ⟨x, -, k, rfl⟩ := exists_getElem?_of_forall₂ hlevels hlevel
  cases type <;> cases hn

theorem known_of_opens {s : Session} (h : Opens env uuid s) : Known s := by
  cases h with
  | create w => exact fun i type n hn => absurd hn (not_shownAt_new uuid i type n)
  | load hresponse hdata =>
      obtain ⟨⟨d, -, -, rfl⟩, hgraph⟩ := exec_fetchDomain hresponse
      rw [domainOfJson_toJson] at hdata
      intro i type n hn id hid
      obtain ⟨level, hlevel, node, hnode, heq⟩ := shownAt_loaded uuid hn
      obtain rfl : node.elementId = id := Option.some.inj (heq.symm.trans hid)
      simp only [hgraph]
      exact hasNode_of_readDomain hdata hlevel hnode

theorem known_apply {edit : Edit} {s : Session} (hpossible : Possible edit s) (h : Known s) :
    Known (edit.apply env uuid codec s) := by
  cases edit with
  | selectLevel index => exact h
  | changeName name => exact h
  | changeDescription description => exact h
  | updateLevel name description pointsRequired =>
      intro i type n hn
      exact h i type n ((shownAt_handleLevelUpdate _ _ _ _ i type n).1 hn)
  | addNodeFromSearch result =>
      intro i type n hn id hid
      rcases (shownAt_addNode _ _ _ i type n).1 hn with hold | ⟨-, -, rfl, rfl⟩
      · exact h i type n hold id hid
      · have hnew : ((searchResultToEditableNode uuid result (getNodeTypeFromLabels result.labels))
            s.creator.drawn).1.elementId = some result.elementId := by
          cases getNodeTypeFromLabels result.labels <;> rfl
        obtain rfl : result.elementId = id := Option.some.inj (hnew.symm.trans hid)
        obtain ⟨node, hnode, hnodeId, hlabels, type, hlabel⟩ := hpossible
        refine List.any_eq_true.2 ⟨node, hnode, ?_⟩
        rw [hlabels] at hlabel
        simp only [GraphApi.isNode, Node.hasLabel, hlabels, hnodeId, decide_true, Bool.true_and]
        exact List.elem_eq_true_of_mem (label_getNodeTypeFromLabels hlabel)
  | addNewNode name description type props =>
      have hgrows := (grows_handleAddNewNode uuid codec name description type props s.creator).nodes_sublist
        env s.world
      intro i type' n hn id hid
      refine GraphApi.hasNode_of_sublist hgrows ?_
      simp only [Edit.apply] at hn
      split at hn
      · rename_i creator' hexit
        rcases handleAddNewNode_cases env uuid codec s.creator hexit with
          ⟨message, rfl⟩ | ⟨node, rfl, hnode⟩
        · exact h i type' n hn id hid
        · rcases (shownAt_addNode _ _ _ i type' n).1 hn with hold | ⟨-, -, -, rfl⟩
          · exact h i type' n hold id hid
          · rw [hnode] at hid
            cases hid
      · exact h i type' n hn id hid
  | removeNode nodeId type =>
      intro i type' n hn
      exact h i type' n ((shownAt_removeNode _ _ _ i type' n).1 hn).1
  | updateNodeRequirement nodeId type requirement =>
      intro i type' n hn id hid
      obtain ⟨m, hm, -, hmid⟩ := (shownAt_updateNodeRequirement _ nodeId type requirement i type'
        n.id (some id)).1 ⟨n, hn, rfl, hid⟩
      exact h i type' m hm id hmid

theorem nodes_sublist_apply (edit : Edit) (s : Session) :
    s.world.graph.nodes.Sublist (edit.apply env uuid codec s).world.graph.nodes := by
  cases edit with
  | addNewNode name description type props =>
      exact (grows_handleAddNewNode uuid codec name description type props s.creator).nodes_sublist env
        s.world
  | _ => exact List.Sublist.refl _

theorem possible_of_foundIn {s : Session} {edits : List Edit}
    (hfound : ∀ result, Edit.addNodeFromSearch result ∈ edits → FoundIn s.world.graph result) (k : Nat)
    (edit : Edit) (hedit : edits[k]? = some edit) :
    Possible edit (sessionAt env uuid codec edits s k) := by
  have hnodes : s.world.graph.nodes.Sublist (sessionAt env uuid codec edits s k).world.graph.nodes :=
    holds_along (P := fun t : Session => s.world.graph.nodes.Sublist t.world.graph.nodes)
      (fun edit t _ h => h.trans (nodes_sublist_apply env uuid codec edit t)) (List.Sublist.refl _)
      (C := fun _ _ => True) (fun _ _ _ => trivial) k
  cases edit with
  | addNodeFromSearch result =>
      obtain ⟨n, hn, hresult⟩ := hfound result (List.mem_of_getElem? hedit)
      exact ⟨n, hnodes.subset hn, hresult⟩
  | _ => trivial

theorem known_sessionAt {s : Session} (hopens : Opens env uuid s) {edits : List Edit}
    (hpossible : ∀ k edit, edits[k]? = some edit → Possible edit (sessionAt env uuid codec edits s k))
    (k : Nat) : Known (sessionAt env uuid codec edits s k) :=
  holds_along (fun _ _ hedit hknown => known_apply env uuid codec hedit hknown)
    (known_of_opens env uuid hopens) hpossible k

end Session

end AtlasOfUs.Editor
