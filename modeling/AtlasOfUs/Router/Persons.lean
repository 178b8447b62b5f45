import AtlasOfUs.Auth.Persons
import AtlasOfUs.GraphApi.WriteEffects
import AtlasOfUs.Router.Requests

namespace AtlasOfUs.Router

open Library GraphApi Auth Similarity

section Names

open Cypher

variable (α : Alphabet)

def LegalKeys (properties : PropertyMap) : Prop :=
  ∀ key ∈ properties.keys, Identifier α key.toList

instance (properties : PropertyMap) : Decidable (LegalKeys α properties) :=
  inferInstanceAs (Decidable (∀ key ∈ properties.keys, Identifier α key.toList))

end Names

/-- What is spliced into a statement keeps its place, and no node becomes a
person, is one that is changed, or is made as one. -/
def JsonCall.LeavesPersons (setup : Setup) (g : Graph) : JsonCall → Prop
  | .getNodes params => ∀ search, params.search setup.fromStr = some search →
      search.Intended setup.database.alphabet
  | .getNodeWithRelationshipsBySearchTerm params => 0 ≤ params.depth.getD 1
  | .searchNodes params => TextSearch.Intended
      ⟨params.labels.map NodeQueryParams.splitLabels, params.query, params.limit.getD 20⟩
  | .createNode request =>
      (∀ label ∈ request.labels, Cypher.Identifier setup.database.alphabet label.toList) ∧
        LegalKeys setup.database.alphabet request.properties ∧ "Person" ∉ request.labels
  | .updateNode request =>
      (∀ label ∈ request.labels.getD [], '`' ∉ label.toList ∧ label ≠ "Person") ∧
        LegalKeys setup.database.alphabet (request.properties.getD .empty) ∧
        ∀ i, bound setup.conv (request.properties.getD .empty) "targetId" request.targetId = some i →
          ∀ n ∈ persons g, n.id ≠ i
  | .createRelationship request =>
      Cypher.Identifier setup.database.alphabet request.relationshipType.toList ∧
        LegalKeys setup.database.alphabet (request.properties.getD .empty)
  | .updateRelationship request =>
      (request.relationshipType ≠ "" →
        Cypher.Identifier setup.database.alphabet request.relationshipType.toList) ∧
        LegalKeys setup.database.alphabet (request.properties.getD .empty)
  | _ => True

section Handlers

variable {event : Empty → Prop} {ε α β : Type} {q : Statement}

theorem emits_answer {p : Service Empty Empty ε α} {statement : Statement → Prop}
    (hp : Emits statement event p) {δ : Type} (f : Except ε α → β) :
    Emits statement event (do return f (← p.attempt) : Service Empty Empty δ β) :=
  hp.attempt.bind fun _ => trivial

theorem emits_getNodesWithRelationships {database : Server} {labels : Option (List String)}
    {properties : Option PropertyMap} {depth : Int}
    (h : Search.Intended database.alphabet ⟨labels, properties.getD .empty, depth⟩) :
    Emits KeepsPersons event (getNodesWithRelationships database labels properties depth) := by
  have hread : KeepsPersons (database.read ⟨labels, properties.getD .empty, depth⟩) := by
    refine keepsPersons_read fun g => ?_
    rw [Server.read, if_pos h]
  refine (Emits.execute hread).bind fun reply => ?_
  cases reply <;> trivial

theorem emits_getNodes {setup : Setup} {params : NodeQueryParams}
    (h : ∀ search, params.search setup.fromStr = some search →
      search.Intended setup.database.alphabet) :
    Emits KeepsPersons event
      (GraphApi.Handlers.getNodes setup.database setup.fromStr params) := by
  unfold NodeQueryParams.search at h
  unfold GraphApi.Handlers.getNodes
  cases hproperties : params.properties with
  | none =>
      rw [hproperties] at h
      exact emits_answer (emits_getNodesWithRelationships (h _ rfl)) _
  | some text =>
      rw [hproperties] at h
      change ∀ search, (setup.fromStr text).map _ = some search → _ at h
      rw [Option.map_some]
      cases hparsed : setup.fromStr text with
      | none => trivial
      | some properties =>
          rw [hparsed] at h
          exact emits_answer (emits_getNodesWithRelationships (h _ rfl)) _

theorem emits_bySearchTerm {database : Server} {index : VectorIndex}
    {params : GetNodeWithRelationshipsBySearchTermParams} (h : 0 ≤ params.depth.getD 1) :
    Emits KeepsPersons event
      (GraphApi.Handlers.getNodeWithRelationshipsBySearchTerm database index params) := by
  refine Calls.bind (Calls.attempt ?_) fun result => ?_
  · refine (Emits.generateEmbedding _).bind fun embedding => ?_
    cases embedding with
    | error e => trivial
    | ok embedding =>
        have hread : KeepsPersons (database.readNearest index embedding (params.depth.getD 1)) := by
          refine keepsPersons_read fun g => ?_
          rw [Server.readNearest, if_pos h]
        refine (Emits.execute hread).bind fun reply => ?_
        cases reply with
        | error e => trivial
        | ok result => cases hmapped : BoltMapping.mapBolt4ToBolt5 (result.rows.map nodeData) <;>
            simp [hmapped, Calls]
  · cases result <;> trivial

theorem emits_findSimilar (request : FindSimilarNodesRequest) {statement : Statement → Prop} :
    Emits statement event (Similarity.findSimilarNodes request :
      Service Empty Empty String (List SimilarNodeResult)) := by
  have hquery : ∀ label limit key, Emits statement event (executeSimilarityQuery label limit key :
      Service Empty Empty String (List SimilarNodeResult)) := fun label limit key =>
    (Calls.perform trivial).bind fun rows => (Calls.ofExcept rows).bind fun _ => trivial
  unfold Similarity.findSimilarNodes
  split
  · exact hquery _ _ _
  · exact hquery _ _ _
  · exact (Emits.generateEmbedding _).bind fun vector => (Calls.ofExcept vector).bind fun _ =>
      hquery _ _ _
  · trivial

theorem emits_checkSimilar (codec : Codec) (embedding : Embedding) {statement : Statement → Prop} :
    Emits statement event (checkSimilar codec embedding : Rest Empty Empty Unit) := by
  refine (emits_findSimilar _).attempt.bind fun result => ?_
  cases result with
  | error e => trivial
  | ok rows =>
      cases rows with
      | nil => trivial
      | cons top rest =>
          simp only
          split <;> trivial

theorem emits_createNode {setup : Setup} {request : Wire.CreateNodeRequest}
    (h : "Person" ∉ request.labels) :
    Emits KeepsPersons event
      (Wire.Handlers.createNode setup.conv setup.codec.toCodec request) := by
  refine emits_answer ((Emits.generateEmbedding _).bind fun embedding => ?_) _
  cases embedding with
  | error e => trivial
  | ok embedding =>
      refine (emits_checkSimilar _ _).bind fun _ => ?_
      have hlabel : request.labels.contains "Person" = false := by simpa using h
      have hcreate : KeepsPersons (request.statement setup.conv embedding) := by
        intro g hg
        rw [Wire.statement_eq]
        cases (request.finalProperties embedding).assignments setup.conv with
        | none => rfl
        | some assignments => exact keepsPersons_create hlabel _ g hg
      refine (Emits.execute hcreate).bind fun reply => ?_
      cases reply with
      | error e => trivial
      | ok result => cases hrow : result.firstRow <;> simp [hrow, Calls]

theorem emits_createRelationship (conv : Conversion) (request : Wire.CreateRelationshipRequest) :
    Emits KeepsPersons event (GraphApi.Handlers.createRelationship conv request) := by
  have hmerge : ∀ type keys params, KeepsPersons (Wire.mergeStatement conv type keys params) := by
    intro type keys params
    refine keepsPersons_of_nodes fun g => ?_
    unfold Wire.mergeStatement
    split
    · exact Graph.mergeEdge_nodes _ _ _ _ _
    · rfl
  refine emits_answer ((Emits.execute (hmerge _ _ _)).bind fun reply => ?_) _
  cases reply with
  | error e => trivial
  | ok result => cases hrow : result.firstRow <;> simp [hrow, Calls]

theorem emits_updateRelationship (conv : Conversion) (request : Wire.UpdateRelationshipRequest) :
    Emits KeepsPersons event (Wire.Handlers.updateRelationship conv request) := by
  have hupdate : ∀ type keys params,
      KeepsPersons (Wire.updateRelationshipStatement conv type keys params) := by
    intro type keys params
    refine keepsPersons_of_nodes fun g => ?_
    unfold Wire.updateRelationshipStatement
    split
    · unfold Wire.retypeStatement
      split
      · exact (Graph.deleteEdges_nodes _ _).trans (Graph.createEdge_nodes _ _ _ _ _)
      · rfl
    · unfold Wire.setRelationshipStatement
      split <;> rfl
  refine emits_answer ((Emits.execute (hupdate _ _ _)).bind fun reply => ?_) _
  cases reply <;> trivial

theorem emits_deleteRelationship (id : ElementId) :
    Emits KeepsPersons event (GraphApi.Handlers.deleteRelationship id) := by
  have hdelete : KeepsPersons (deleteRelationshipStatement id) := keepsPersons_of_nodes fun _ => rfl
  refine emits_answer ((Emits.execute hdelete).bind fun reply => ?_) _
  cases reply with
  | error e => trivial
  | ok result => cases hrow : result.firstRow <;> simp [hrow, Calls]

theorem emits_getSimilarNodes (request : FindSimilarNodesRequest) :
    Emits KeepsPersons event (GraphApi.Handlers.getSimilarNodes request) := by
  refine Calls.bind (Calls.attempt ?_) fun result => ?_
  · unfold GraphApi.findSimilarNodes
    simp only
    split
    · trivial
    · refine (emits_findSimilar _).attempt.bind fun result => ?_
      cases result <;> trivial
  · cases result with
    | ok result => trivial
    | error e => cases e <;> trivial

theorem emits_searchNodes {database : Server} {lower : String → String} {params : SearchNodesParams}
    (h : TextSearch.Intended
      ⟨params.labels.map NodeQueryParams.splitLabels, params.query, params.limit.getD 20⟩) :
    Emits KeepsPersons event (GraphApi.Handlers.searchNodes database lower params) := by
  have hread : KeepsPersons (database.searchByName lower
      ⟨params.labels.map NodeQueryParams.splitLabels, params.query, params.limit.getD 20⟩) := by
    refine keepsPersons_read fun g => ?_
    rw [Server.searchByName, if_pos h]
  refine emits_answer ((Emits.execute hread).bind fun reply => ?_) _
  cases reply <;> trivial

theorem emits_getDomain (name : String) :
    Emits KeepsPersons event (GraphApi.Handlers.getDomain name) := by
  refine Calls.bind (Calls.attempt ?_) fun result => ?_
  · have hread : KeepsPersons (getDomainStatement name) := keepsPersons_read fun _ => rfl
    refine (Emits.execute hread).bind fun reply => ?_
    cases reply with
    | error e => trivial
    | ok result =>
        cases hrow : result.firstRow with
        | none => simp [hrow, Calls]
        | some row =>
            simp only [hrow]
            split <;> trivial
  · rcases result with e | domain
    · trivial
    · cases domain <;> trivial

theorem emits_validateDomainName (name : String) :
    Emits KeepsPersons event (GraphApi.Handlers.validateDomainName name) := by
  refine Calls.bind (Calls.attempt ?_) fun result => ?_
  · have hread : KeepsPersons (findDomainStatement name) := keepsPersons_read fun _ => rfl
    refine (Emits.execute hread).bind fun reply => ?_
    cases reply with
    | error e => trivial
    | ok result => cases hrow : result.firstRow <;> simp [hrow, Calls]
  · cases result with
    | error e => trivial
    | ok validation =>
        simp only
        split <;> trivial

theorem emits_createDomain (request : CreateDomainRequest) :
    Emits KeepsPersons event (GraphApi.Handlers.createDomain request) := by
  refine Calls.bind (Calls.attempt (Emits.of_runs ((runs_createDomain request).mono
    fun _ => keepsPersons_createDomain))) fun result => ?_
  cases result with
  | ok result => trivial
  | error e => cases e <;> trivial

theorem emits_updateDomain (request : UpdateDomainRequest) :
    Emits KeepsPersons event (GraphApi.Handlers.updateDomain request) := by
  refine Calls.bind (Calls.attempt (Emits.of_runs ((runs_updateDomain request).mono
    fun _ => keepsPersons_updateDomain))) fun result => ?_
  cases result with
  | ok result => trivial
  | error e => cases e <;> trivial

theorem emits_getUserProfile (database : Server) (username : String) :
    Emits KeepsPersons event (Profile.Handlers.getUserProfile database username) := by
  have hread : KeepsPersons (Profile.profileStatement database username) :=
    keepsPersons_read fun _ => rfl
  refine emits_answer ((Emits.execute hread).bind fun reply => ?_) _
  cases reply <;> trivial

end Handlers

section Calls

variable {setup : Setup} {env : Env} {g : Graph}

theorem state_answer {ε δ α β : Type} (p : Service Empty Empty ε α) (f : Except ε α → β) (w : World) :
    (env.exec (do return f (← p.attempt) : Service Empty Empty δ β) w).state =
      (env.exec p w).state := by
  rw [exec_bind, exec_attempt]
  cases (env.exec p w).exit <;> rfl

theorem persons_updateNode {request : Wire.UpdateNodeRequest}
    (hlabels : ∀ label ∈ request.labels.getD [], label ≠ "Person")
    (hother : ∀ i, bound setup.conv (request.properties.getD .empty) "targetId" request.targetId =
      some i → ∀ n ∈ persons g, n.id ≠ i) :
    persons (setup.respondJson env (.updateNode request) g).2 = persons g := by
  have hstate : (setup.respondJson env (.updateNode request) g).2 =
      (env.exec (Wire.updateNode setup.conv request : Api _) (World.start g)).state.graph :=
    congrArg World.graph (state_answer _ _ _)
  rw [hstate]
  by_cases hgiven : request.labels = none ∧ request.properties = none
  · rw [Wire.updateNode, hgiven.1, hgiven.2]
    rfl
  · rw [Wire.graph_updateNode env _ hgiven, Outcome.after]
    split
    · rw [Wire.updateNodeStatement, setClauses_paramAll,
        string_paramAll setup.conv request.targetId rfl]
      cases hbound : bound setup.conv (request.properties.getD .empty) "targetId"
          request.targetId with
      | none => rfl
      | some i =>
          cases (request.properties.getD .empty).assignments setup.conv with
          | none => rfl
          | some assignments =>
              refine persons_editNodes fun n hn hid => ?_
              have hno : "Person" ∉ n.labels := fun hperson =>
                hother i hbound n (mem_persons.2 ⟨hn, List.contains_iff_mem.2 hperson⟩)
                  (of_decide_eq_true hid)
              refine ⟨by simpa [Node.hasLabel] using hno, ?_⟩
              rw [← Bool.not_eq_true, List.contains_iff_mem]
              cases hnew : request.labels with
              | none => exact hno
              | some labels =>
                  rw [hnew] at hlabels
                  rw [Wire.mem_relabel]
                  rintro (hnew | ⟨hold, -⟩)
                  · exact hlabels _ hnew rfl
                  · exact hno hold
    · rfl

theorem persons_respondJson {call : JsonCall} (h : call.LeavesPersons setup g)
    (hg : PlainPersons g) : persons (setup.respondJson env call g).2 = persons g := by
  have hemits : ∀ {p : Api (Except GraphApi.Handlers.ErrorResponse Json)},
      Emits KeepsPersons (fun _ => True) p → persons (env.exec p (World.start g)).state.graph =
        persons g := fun hp => persons_exec hp env (World.start g) hg
  cases call with
  | createEmbeddingFromText text =>
      exact hemits ((Emits.generateEmbedding text).bind fun _ => trivial)
  | getNodes params => exact hemits (emits_getNodes h)
  | getNodeWithRelationshipsBySearchTerm params => exact hemits (emits_bySearchTerm h)
  | createNode request => exact hemits (emits_createNode h.2.2)
  | updateNode request => exact persons_updateNode (fun label hl => (h.1 label hl).2) h.2.2
  | createRelationship request => exact hemits (emits_createRelationship _ request)
  | updateRelationship request => exact hemits (emits_updateRelationship _ request)
  | deleteRelationship id => exact hemits (emits_deleteRelationship id)
  | getSimilarNodes request => exact hemits (emits_getSimilarNodes request)
  | searchNodes params => exact hemits (emits_searchNodes h)
  | getDomain name => exact hemits (emits_getDomain name)
  | validateDomainName name => exact hemits (emits_validateDomainName name)
  | createDomain request => exact hemits (emits_createDomain request)
  | updateDomain request => exact hemits (emits_updateDomain request)
  | getUserProfile username => exact hemits (emits_getUserProfile _ username)

def SecureCall.LeavesPersons (setup : Setup) (g : Graph) : SecureCall → Prop
  | .json call => call.LeavesPersons setup g
  | .generateDomain _ => True

theorem persons_respond {call : SecureCall} (h : call.LeavesPersons setup g)
    (hg : PlainPersons g) : persons (setup.respond env call g).2 = persons g := by
  cases call with
  | json call => exact persons_respondJson h hg
  | generateDomain request =>
      unfold Setup.respond Agent.generateDomainSse
      simp only
      split
      · next generation hstarted =>
          split at hstarted
          · cases hstarted
          · split at hstarted
            · obtain rfl := Except.ok.inj hstarted
              exact persons_exec (keepsPersons_generation _ _ _ _) env (World.start g) hg
            · cases hstarted
      · rfl

end Calls

end AtlasOfUs.Router
