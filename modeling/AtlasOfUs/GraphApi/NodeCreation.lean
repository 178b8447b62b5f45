import AtlasOfUs.GraphApi.AddressedWrites
import AtlasOfUs.GraphApi.NodeWrites

namespace AtlasOfUs.GraphApi

open Library Similarity

variable {conv : Conversion}

namespace PropertyMap

def insert (properties : PropertyMap) (key : String) (value : Json) : PropertyMap where
  entries := properties.entries.filter (fun kv => kv.1 ≠ key) ++ [(key, value)]
  keys_nodup := by
    refine nodup_map_append_singleton Prod.fst ?_ fun hmem => ?_
    · exact properties.keys_nodup.sublist (List.filter_sublist.map _)
    · obtain ⟨kv, hkv, hkey⟩ := List.mem_map.1 hmem
      exact of_decide_eq_true (List.mem_filter.1 hkv).2 hkey

theorem lookup_filter_ne {α : Type} (entries : List (String × α)) {key key' : String}
    (h : key' ≠ key) :
    (entries.filter (fun kv => kv.1 ≠ key)).lookup key' = entries.lookup key' := by
  induction entries with
  | nil => rfl
  | cons kv entries ih =>
      by_cases hkey : kv.1 = key
      · have hne : (key' == kv.1) = false := beq_eq_false_iff_ne.2 fun heq => h (heq.trans hkey)
        rw [List.filter_cons_of_neg (by simp [hkey]), ih, List.lookup_cons, hne]
      · rw [List.filter_cons_of_pos (by simp [hkey]), List.lookup_cons, List.lookup_cons, ih]

theorem get_insert (properties : PropertyMap) (key : String) (value : Json) (key' : String) :
    (properties.insert key value).get key' =
      if key' = key then some value else properties.get key' := by
  rw [get, insert, List.lookup_append, get]
  by_cases hkey : key' = key
  · have hnone : (properties.entries.filter (fun kv => kv.1 ≠ key)).lookup key' = none := by
      rw [List.lookup_eq_none_iff]
      intro kv hkv
      rw [bne_iff_ne, hkey]
      exact fun heq => of_decide_eq_true (List.mem_filter.1 hkv).2 heq.symm
    rw [hnone, Option.none_or, if_pos hkey, hkey, List.lookup_cons, BEq.rfl]
  · have hbeq : (key' == key) = false := beq_eq_false_iff_ne.2 hkey
    rw [lookup_filter_ne properties.entries hkey, if_neg hkey, List.lookup_cons, hbeq,
      List.lookup_nil, Option.or_none]

theorem lookup_assignments {properties : PropertyMap}
    {assignments : List (String × Option Value)}
    (h : properties.assignments conv = some assignments) (key : String) :
    assignments.lookup key =
      (properties.get key).bind fun v => (jsonValueToBoltType conv v).stored conv := by
  rw [PropertyMap.assignments, mapM_eq_some] at h
  rw [get]
  generalize properties.entries = entries at h
  induction h with
  | nil => rfl
  | @cons kv a kvs as hkv _ ih =>
      obtain ⟨v, hv, rfl⟩ := Option.map_eq_some_iff.1 hkv
      rw [List.lookup_cons, List.lookup_cons]
      cases hkey : key == kv.1 with
      | true => exact hv.symm
      | false => exact ih

end PropertyMap

def StoresVectors (conv : Conversion) : Prop :=
  ∀ vector : Embedding, conv.storeList (vector.map .float) = some (.list (vector.map .float))

theorem stored_embedding (h : StoresVectors conv) (vector : Embedding) :
    (jsonValueToBoltType conv (.array (vector.map .float))).stored conv =
      some (some (.list (vector.map .float))) := by
  have hsent : ∀ v : Embedding, jsonValuesToBoltTypes conv (v.map .float) = v.map .float := by
    intro v
    induction v with
    | nil => rfl
    | cons q v ih => rw [List.map_cons, jsonValuesToBoltTypes, ih, jsonValueToBoltType, List.map_cons]
  rw [jsonValueToBoltType, hsent, Bolt.stored, h vector, Option.map_some]

namespace Wire

variable {Event Prompt : Type} (conv)

structure CreateNodeRequest where
  labels : List String
  properties : PropertyMap

def strProperty (properties : PropertyMap) (key : String) : String :=
  ((properties.get key).bind Json.asStr).getD ""

def CreateNodeRequest.textToEmbed (request : CreateNodeRequest) : String :=
  strProperty request.properties "name" ++ ": " ++ strProperty request.properties "description"

def CreateNodeRequest.finalProperties (request : CreateNodeRequest) (embedding : Embedding) :
    PropertyMap :=
  request.properties.insert "embedding" (.array (embedding.map .float))

/-- `CREATE (n:labels) SET n.key = $key, ... RETURN elementId(n) AS elementId, n.name AS name`. -/
def createNodeStatement (labels : List String) (keys : List String) (params : Params) :
    Statement := fun g =>
  match setClauses conv params keys with
  | some assignments =>
      GraphApi.createNodeStatement labels (assign assignments Props.empty) g
  | none => ([], g)

def CreateNodeRequest.statement (request : CreateNodeRequest) (embedding : Embedding) : Statement :=
  createNodeStatement conv request.labels (request.finalProperties embedding).keys
    (Params.empty.paramAll conv (request.finalProperties embedding))

def storeNode (request : CreateNodeRequest) (embedding : Embedding) :
    Rest Event Prompt CreateNodeResult := do
  match ← execute (request.statement conv embedding) with
  | .error e => .fail (.databaseError ("Database error: " ++ e))
  | .ok result =>
      match result.firstRow with
      | some row =>
          return ⟨(row.getString "elementId").getD "", (row.getString "name").getD "", request.labels⟩
      | none => .fail (.databaseError "Failed to get element ID after node creation")

def createNode (codec : Codec) (request : CreateNodeRequest) (checkSimilarity : Bool) :
    Rest Event Prompt CreateNodeResult := do
  match ← generateEmbedding request.textToEmbed with
  | .error e => .fail (.embeddingFailed e)
  | .ok embedding =>
      if checkSimilarity then checkSimilar codec embedding
      storeNode conv request embedding

variable {conv}

/-- The similarity check lets a node pass whose nearest neighbour is far enough, if it has any. -/
def passesCheck (reply : Except String (List SimilarRow)) : Bool :=
  match reply with
  | .ok [] => true
  | .ok (top :: _) => !decide ((SimilarNodeResult.ofRow top).score > 7 / 10)
  | .error _ => false

theorem exec_checkSimilar (codec : Codec) (embedding : Embedding) (env : Env) (w : World) :
    (env.exec (checkSimilar codec embedding : Rest Event Prompt Unit) w).state = w.tick ∧
      ((env.exec (checkSimilar codec embedding : Rest Event Prompt Unit) w).exit = .ok () ↔
        passesCheck (env.similar w.clock) = true) := by
  have hquery : (findSimilarNodes { embedding := some embedding, limit := some 1 } :
      Service Event Prompt String _) = executeSimilarityQuery none 1 (.embedding embedding) := rfl
  rw [checkSimilar, exec_bind, exec_attempt, hquery, executeSimilarityQuery, exec_bind,
    exec_queryNodes, Execution.andThen_ok]
  cases env.similar w.clock with
  | error e => exact ⟨rfl, iff_of_false (fun h => by cases h) (fun h => by cases h)⟩
  | ok rows =>
      cases rows with
      | nil => exact ⟨rfl, iff_of_true rfl rfl⟩
      | cons top rest =>
          by_cases hscore : (SimilarNodeResult.ofRow top).score > 7 / 10
          · refine ⟨?_, iff_of_false (fun h => ?_) (by simp [passesCheck, hscore])⟩
            · simp [Exit.attempted, hscore]
            · simp [Exit.attempted, hscore] at h
          · refine ⟨?_, iff_of_true ?_ (by simp [passesCheck, hscore])⟩
            · simp [Exit.attempted, hscore]
            · simp [Exit.attempted, hscore]

theorem state_storeNode (request : CreateNodeRequest) (embedding : Embedding) (env : Env)
    (w : World) :
    (env.exec (storeNode conv request embedding : Rest Event Prompt CreateNodeResult) w).state =
      ⟨(env.outcome w.clock).after (request.statement conv embedding) w.graph, w.clock + 1⟩ := by
  rw [storeNode, exec_bind, exec_execute, Execution.andThen_ok]
  cases (env.outcome w.clock).reply (request.statement conv embedding w.graph).1 with
  | error e => rfl
  | ok result => cases hrow : result.firstRow <;> simp [hrow]

abbrev EmbedsNothing {ε α : Type} (p : Service Event Prompt ε α) : Prop :=
  Contract (I := services Event Prompt) (fun o => ∀ text, o ≠ .embed text) (fun _ _ => False) p

theorem embedsNothing_checkSimilar (codec : Codec) (embedding : Embedding) :
    EmbedsNothing (checkSimilar codec embedding : Rest Event Prompt Unit) := by
  have hfind : EmbedsNothing (findSimilarNodes { embedding := some embedding, limit := some 1 } :
      Service Event Prompt String _) :=
    Contract.bind (Contract.perform (fun _ => nofun) fun _ => id)
      fun rows => (Contract.ofExcept rows).bind fun _ => trivial
  refine hfind.attempt.bind fun result => ?_
  cases result with
  | error e => trivial
  | ok rows =>
      cases rows with
      | nil => trivial
      | cons top rest =>
          simp only
          split <;> trivial

theorem embedsNothing_storeNode (request : CreateNodeRequest) (embedding : Embedding) :
    EmbedsNothing (storeNode conv request embedding : Rest Event Prompt CreateNodeResult) := by
  refine Contract.bind (Contract.perform (fun _ => nofun) fun _ => id) fun reply => ?_
  cases reply with
  | error e => trivial
  | ok result => cases hrow : result.firstRow <;> simp [hrow, Contract]

theorem embed_mem_createNode_iff (codec : Codec) (request : CreateNodeRequest)
    (checkSimilarity : Bool) (env : Env) (w : World) (text : String)
    (reply : Except String Embedding) :
    (⟨.embed text, reply⟩ : Call (services Event Prompt)) ∈
        (env.exec (createNode conv codec request checkSimilarity :
          Rest Event Prompt CreateNodeResult) w).calls ↔
      text = request.textToEmbed ∧ reply = env.embedding w.clock := by
  rw [createNode, exec_bind, exec_generateEmbedding, Execution.andThen_ok]
  constructor
  · intro hcall
    rcases List.mem_append.1 hcall with hcall | hcall
    · cases List.mem_singleton.1 hcall
      exact ⟨rfl, rfl⟩
    · have hrest : ∀ vector, EmbedsNothing (do
          if checkSimilarity then checkSimilar codec vector
          storeNode conv request vector : Rest Event Prompt CreateNodeResult) := by
        intro vector
        cases checkSimilarity with
        | false => exact embedsNothing_storeNode request vector
        | true =>
            exact (embedsNothing_checkSimilar codec vector).bind
              fun _ => embedsNothing_storeNode request vector
      cases hvector : env.embedding w.clock with
      | error e =>
          rw [hvector] at hcall
          cases hcall
      | ok vector =>
          rw [hvector] at hcall
          exact absurd rfl ((hrest vector).calls_allowed env.handler w.tick _ hcall text)
  · rintro ⟨rfl, rfl⟩
    exact List.mem_append_left _ (List.mem_singleton_self _)

/-- With an embedding at hand a request that passes the check, if there is one, creates its node as
the database pleases. -/
theorem graph_createNode (codec : Codec) (request : CreateNodeRequest) (checkSimilarity : Bool)
    {env : Env} {w : World} {vector : Embedding} (hv : env.embedding w.clock = .ok vector) :
    (env.exec (createNode conv codec request checkSimilarity :
        Rest Event Prompt CreateNodeResult) w).state.graph =
      match checkSimilarity with
      | false => (env.outcome (w.clock + 1)).after (request.statement conv vector) w.graph
      | true =>
          if passesCheck (env.similar (w.clock + 1)) then
            (env.outcome (w.clock + 2)).after (request.statement conv vector) w.graph
          else w.graph := by
  rw [createNode, exec_bind, exec_generateEmbedding, Execution.andThen_ok, hv]
  cases checkSimilarity with
  | false =>
      simp only [Bool.false_eq_true, if_false]
      exact congrArg World.graph (state_storeNode request vector env w.tick)
  | true =>
      obtain ⟨hstate, hexit⟩ := @exec_checkSimilar Event Prompt codec vector env w.tick
      simp only [if_true]
      change World.graph (Execution.state (Env.exec env (checkSimilar codec vector >>= _) w.tick)) = _
      rw [exec_bind]
      cases hchecked : (env.exec (checkSimilar codec vector : Rest Event Prompt Unit) w.tick).exit with
      | ok u =>
          have hpasses : passesCheck (env.similar (w.clock + 1)) = true := hexit.1 hchecked
          rw [Execution.state_andThen hchecked, hstate, if_pos hpasses]
          exact congrArg World.graph (state_storeNode request vector env w.tick.tick)
      | err e | panicked =>
          have hfails : ¬ passesCheck (env.similar (w.clock + 1)) = true := by
            intro hpasses
            rw [hexit.2 hpasses] at hchecked
            cases hchecked
          rw [Execution.state_andThen_of_none (by rw [hchecked]; rfl), hstate, if_neg hfails]
          rfl

theorem statement_eq (request : CreateNodeRequest) (embedding : Embedding) (g : Graph) :
    request.statement conv embedding g =
      match (request.finalProperties embedding).assignments conv with
      | some assignments =>
          GraphApi.createNodeStatement request.labels (assign assignments Props.empty) g
      | none => ([], g) := by
  rw [CreateNodeRequest.statement, createNodeStatement, setClauses_paramAll]

section Typed

theorem asStr_toJson (v : Value) : v.toJson.asStr = v.asStr := by
  cases v <;> rfl

theorem strProperty_ofProperties {entries : Properties} (h : (entries.map Prod.fst).Nodup)
    (key : String) :
    strProperty (.ofProperties entries h) key = GraphApi.strProperty entries key := by
  rw [strProperty, GraphApi.strProperty, PropertyMap.get, PropertyMap.ofProperties, lookup_map_snd]
  cases entries.lookup key with
  | none => rfl
  | some v => rw [Option.map_some, Option.bind_some, Option.bind_some, asStr_toJson]

theorem assignments_insert {properties : PropertyMap} {key : String} {value : Json}
    {stored : Option Value} (h : (properties.assignments conv).isSome = true)
    (hvalue : (jsonValueToBoltType conv value).stored conv = some stored) :
    ((properties.insert key value).assignments conv).isSome = true := by
  obtain ⟨assignments, has⟩ := Option.isSome_iff_exists.1 h
  rw [PropertyMap.assignments, mapM_eq_some] at has
  have hall : ∀ kv ∈ (properties.insert key value).entries, ∃ a,
      ((jsonValueToBoltType conv kv.2).stored conv).map (fun v => (kv.1, v)) = some a := by
    intro kv hkv
    rcases List.mem_append.1 hkv with hkv | hkv
    · obtain ⟨i, hi⟩ := List.mem_iff_getElem?.1 (List.mem_of_mem_filter hkv)
      obtain ⟨a, -, ha⟩ := exists_getElem?_of_forall₂ has.flip hi
      exact ⟨a, ha⟩
    · obtain rfl := List.mem_singleton.1 hkv
      exact ⟨(key, stored), by rw [hvalue, Option.map_some]⟩
  obtain ⟨as, has⟩ := exists_forall₂ hall
  rw [PropertyMap.assignments, mapM_eq_some.2 has]
  rfl

/-- For properties that the server keeps, the statement is the one of the services. -/
theorem createNodeStatement_ofProperties {entries : Properties} (h : (entries.map Prod.fst).Nodup)
    (hkeeps : KeepsValues conv entries) (hvectors : StoresVectors conv) (labels : List String)
    (embedding : Embedding) :
    CreateNodeRequest.statement conv ⟨labels, .ofProperties entries h⟩ embedding =
      GraphApi.createNodeStatement labels
        (CreateNodeRequest.stored ⟨labels, entries⟩ embedding) := by
  have hentries := assignments_ofProperties h hkeeps
  have hinserted : (((PropertyMap.ofProperties entries h).insert "embedding"
      (.array (embedding.map .float))).assignments conv).isSome = true :=
    assignments_insert (by rw [hentries]; rfl) (stored_embedding hvectors embedding)
  obtain ⟨assignments, has⟩ := Option.isSome_iff_exists.1 hinserted
  have hprops : assign assignments Props.empty =
      GraphApi.CreateNodeRequest.stored ⟨labels, entries⟩ embedding := by
    funext key
    rw [assign, PropertyMap.lookup_assignments has, PropertyMap.get_insert,
      GraphApi.CreateNodeRequest.stored]
    by_cases hkey : key = "embedding"
    · rw [if_pos hkey, Option.bind_some, stored_embedding hvectors, hkey, Props.set_self]
      rfl
    · rw [if_neg hkey, Props.set_ne _ _ hkey, ← PropertyMap.lookup_assignments hentries,
        lookup_map_snd, Properties.toProps]
      cases entries.lookup key <;> rfl
  funext g
  rw [statement_eq, CreateNodeRequest.finalProperties, has, ← hprops]

theorem createNode_ofProperties {entries : Properties} (h : (entries.map Prod.fst).Nodup)
    (hkeeps : KeepsValues conv entries) (hvectors : StoresVectors conv) (codec : Codec)
    (labels : List String) (checkSimilarity : Bool) :
    (createNode conv codec ⟨labels, .ofProperties entries h⟩ checkSimilarity :
        Rest Event Prompt CreateNodeResult) =
      GraphApi.createNode codec ⟨labels, entries⟩ checkSimilarity := by
  have htext : CreateNodeRequest.textToEmbed ⟨labels, .ofProperties entries h⟩ =
      GraphApi.strProperty entries "name" ++ ": " ++ GraphApi.strProperty entries "description" := by
    rw [CreateNodeRequest.textToEmbed, strProperty_ofProperties, strProperty_ofProperties]
  rw [createNode, GraphApi.createNode, htext]
  simp only [storeNode, createNodeStatement_ofProperties h hkeeps hvectors]
  rfl

end Typed

end Wire

end AtlasOfUs.GraphApi
