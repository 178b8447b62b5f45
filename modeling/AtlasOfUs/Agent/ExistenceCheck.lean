import AtlasOfUs.Agent.Events
import AtlasOfUs.Common.Similarity
import AtlasOfUs.Worker.Processors

namespace AtlasOfUs.Similarity

open Library

variable {Event Prompt : Type} (index : VectorIndex) (env : Env)

/-- What a request searches with and the world it does so in. -/
def searchKey (w : World) (request : FindSimilarNodesRequest) : Option (SearchKey × World) :=
  match request.nodeId, request.embedding, request.text with
  | some id, _, _ => some (.nodeId id, w)
  | none, some vector, _ => some (.embedding vector, w)
  | none, none, some _ => (env.embedding w.clock).toOption.map (fun v => (.embedding v, w.tick))
  | none, none, none => none

/-- The node id has priority over the embedding and the embedding over the text. -/
theorem searchKey_cases {w w' : World} {request : FindSimilarNodesRequest} {key : SearchKey}
    (h : searchKey env w request = some (key, w')) :
    (∃ id, request.nodeId = some id ∧ key = .nodeId id ∧ w' = w) ∨
    (request.nodeId = none ∧ ∃ vector, request.embedding = some vector ∧
      key = .embedding vector ∧ w' = w) ∨
    (request.nodeId = none ∧ request.embedding = none ∧ ∃ text vector, request.text = some text ∧
      env.embedding w.clock = .ok vector ∧ key = .embedding vector ∧ w' = w.tick) := by
  unfold searchKey at h
  split at h
  case h_1 id hid =>
    obtain ⟨rfl, rfl⟩ := Prod.mk.inj (Option.some.inj h)
    exact .inl ⟨id, hid, rfl, rfl⟩
  case h_2 vector hid hvector =>
    obtain ⟨rfl, rfl⟩ := Prod.mk.inj (Option.some.inj h)
    exact .inr (.inl ⟨hid, vector, hvector, rfl, rfl⟩)
  case h_3 text hid hvector htext =>
    obtain ⟨vector, hok, heq⟩ := Option.map_eq_some_iff.1 h
    obtain ⟨rfl, rfl⟩ := Prod.mk.inj heq
    refine .inr (.inr ⟨hid, hvector, text, vector, htext, ?_, rfl, rfl⟩)
    cases hembed : env.embedding w.clock with
    | error e => rw [hembed] at hok; cases hok
    | ok u => rw [hembed] at hok; rw [Option.some.inj hok]
  case h_4 => cases h

/-- The index answers every search of a run from the graph `g`. -/
def AnsweredBy (g : Graph) (calls : List (Call (services Event Prompt))) : Prop :=
  ∀ label limit key reply, ⟨.queryNodes label limit key, reply⟩ ∈ calls →
    reply = index.answer g label limit key

variable {index env}

def isSearch (c : Call (services Event Prompt)) : Bool :=
  match c with
  | ⟨.queryNodes .., _⟩ => true
  | _ => false

structure Searches {ε : Type} (env : Env) (w : World) (label : Option String) (limit : Int)
    (key : SearchKey) (x : Execution (services Event Prompt) ε (List SimilarNodeResult) World) :
    Prop where
  asked : x.calls.filter isSearch = [⟨.queryNodes label limit key, env.similar w.clock⟩]
  read : ∀ rows, env.similar w.clock = .ok rows → x.exit = .ok (rows.map SimilarNodeResult.ofRow)

theorem Searches.afterEmbedding {ε : Type} {w : World} {label : Option String} {limit : Int}
    {key : SearchKey} {v : Embedding}
    {f : Except String Embedding → Service Event Prompt ε (List SimilarNodeResult)}
    (h : Searches env w.tick label limit key (env.exec (f (.ok v)) w.tick))
    (hv : env.embedding w.clock = .ok v) (text : String) :
    Searches env w.tick label limit key (env.exec (generateEmbedding text >>= f) w) := by
  rw [exec_bind, exec_generateEmbedding, Execution.andThen_ok, hv]
  exact ⟨h.asked, h.read⟩

theorem searches_executeSimilarityQuery (w : World) (label : Option String) (limit : Int)
    (key : SearchKey) :
    Searches env w label limit key
      (env.exec (executeSimilarityQuery label limit key : Service Event Prompt String _) w) := by
  rw [executeSimilarityQuery, exec_bind, exec_queryNodes, Execution.andThen_ok]
  refine ⟨?_, fun rows hrows => ?_⟩
  · cases env.similar w.clock <;> rfl
  · rw [hrows]
    rfl

theorem searches_worker_executeSimilarityQuery (w : World) (label : Option String) (limit : Int)
    (key : SearchKey) :
    Searches env w label limit key
      (env.exec (Worker.executeSimilarityQuery label limit key) w) := by
  rw [Worker.executeSimilarityQuery, exec_bind, exec_queryNodes, Execution.andThen_ok]
  refine ⟨?_, fun rows hrows => ?_⟩
  · cases env.similar w.clock <;> rfl
  · rw [hrows]
    rfl

theorem searches_findSimilarNodes {w w' : World} {request : FindSimilarNodesRequest}
    {key : SearchKey} (hkey : searchKey env w request = some (key, w')) :
    Searches env w' request.label (request.limit.getD 5) key
      (env.exec (findSimilarNodes request : Service Event Prompt String _) w) := by
  rcases searchKey_cases env hkey with ⟨id, hid, rfl, rfl⟩ | ⟨hid, vector, hvector, rfl, rfl⟩ |
    ⟨hid, hvector, text, vector, htext, hembed, rfl, rfl⟩
  · simp only [findSimilarNodes, hid]
    exact searches_executeSimilarityQuery _ _ _ _
  · simp only [findSimilarNodes, hid, hvector]
    exact searches_executeSimilarityQuery _ _ _ _
  · simp only [findSimilarNodes, hid, hvector, htext]
    refine Searches.afterEmbedding ?_ hembed text
    exact searches_executeSimilarityQuery _ _ _ _

theorem searches_worker_findSimilarNodes {w w' : World} {request : FindSimilarNodesRequest}
    {key : SearchKey} (hkey : searchKey env w request = some (key, w')) :
    Searches env w' request.label (request.limit.getD 5) key
      (env.exec (Worker.findSimilarNodes request) w) := by
  rcases searchKey_cases env hkey with ⟨id, hid, rfl, rfl⟩ | ⟨hid, vector, hvector, rfl, rfl⟩ |
    ⟨hid, hvector, text, vector, htext, hembed, rfl, rfl⟩
  · simp only [Worker.findSimilarNodes, hid]
    exact searches_worker_executeSimilarityQuery _ _ _ _
  · simp only [Worker.findSimilarNodes, hid, hvector]
    exact searches_worker_executeSimilarityQuery _ _ _ _
  · simp only [Worker.findSimilarNodes, hid, hvector, htext]
    refine Searches.afterEmbedding ?_ hembed text
    exact searches_worker_executeSimilarityQuery _ _ _ _

theorem Searches.answeredBy_iff {ε : Type} {w : World} {g : Graph} {label : Option String}
    {limit : Int} {key : SearchKey}
    {x : Execution (services Event Prompt) ε (List SimilarNodeResult) World}
    (h : Searches env w label limit key x) :
    AnsweredBy index g x.calls ↔ env.similar w.clock = index.answer g label limit key := by
  constructor
  · intro hindex
    apply hindex label limit key
    have hmem : ⟨.queryNodes label limit key, env.similar w.clock⟩ ∈ x.calls.filter isSearch := by
      rw [h.asked]
      exact List.mem_singleton_self _
    exact (List.mem_filter.1 hmem).1
  · intro hanswer label' limit' key' reply hmem
    have hmem : ⟨.queryNodes label' limit' key', reply⟩ ∈ x.calls.filter isSearch :=
      List.mem_filter.2 ⟨hmem, rfl⟩
    rw [h.asked, List.mem_singleton] at hmem
    cases hmem
    exact hanswer

theorem Searches.exit_eq {ε : Type} {w : World} {g : Graph} {label : Option String} {limit : Int}
    {key : SearchKey} {v : Embedding}
    {x : Execution (services Event Prompt) ε (List SimilarNodeResult) World}
    (h : Searches env w label limit key x) (hindex : AnsweredBy index g x.calls)
    (hv : index.searchVector g key = some v) :
    x.exit = .ok ((index.rows g limit v (VectorIndex.wanted label key)).map
      SimilarNodeResult.ofRow) :=
  h.read _ ((h.answeredBy_iff.1 hindex).trans (index.answer_eq hv label limit))

/-- The search returns the best of what it was asked for. -/
def SearchComplete (index : VectorIndex) (g : Graph) (request : FindSimilarNodesRequest)
    (key : SearchKey) (v : Embedding) {ε : Type} (exit : Exit ε (List SimilarNodeResult)) : Prop :=
  ∃ results, exit = .ok results ∧
    index.Complete g request.label (request.limit.getD 5) key v results

theorem searchComplete_iff {index : VectorIndex} {g : Graph} {request : FindSimilarNodesRequest}
    {key : SearchKey} {v : Embedding} {ε : Type} {exit : Exit ε (List SimilarNodeResult)}
    (h : exit = .ok ((index.rows g (request.limit.getD 5) v
      (VectorIndex.wanted request.label key)).map SimilarNodeResult.ofRow)) :
    SearchComplete index g request key v exit ↔
      index.Reaches g request.label (request.limit.getD 5) key v := by
  rw [← index.complete_iff]
  constructor
  · rintro ⟨results, hexit, hcomplete⟩
    rw [h] at hexit
    rwa [Exit.ok.inj hexit]
  · exact fun hcomplete => ⟨_, h, hcomplete⟩

end AtlasOfUs.Similarity

namespace AtlasOfUs.Agent

open Library Similarity

def DomainReaches (index : VectorIndex) (g : Graph) (v : Embedding) : Prop :=
  ∃ n ∈ index.nodes g, n.hasLabel "Domain" = true ∧ DOMAIN_SIMILARITY_THRESHOLD ≤ index.score v n

/-- The check answers with a domain that reaches the threshold. -/
def DomainFound (index : VectorIndex) (g : Graph) (v : Embedding)
    (exit : Exit String (Option String)) : Prop :=
  ∃ n ∈ index.nodes g, n.hasLabel "Domain" = true ∧
    DOMAIN_SIMILARITY_THRESHOLD ≤ index.score v n ∧ exit = .ok (some (index.result v n).name)

theorem rows_domain (index : VectorIndex) (g : Graph) (v : Embedding) :
    (index.rows g 1 v (VectorIndex.wanted (some "Domain") (.embedding v))).map
        SimilarNodeResult.ofRow =
      ((index.best g 1 v).filter (Node.hasLabel "Domain")).map (index.result v) := by
  rw [index.rows_eq, List.map_map]
  rfl

abbrev domainSearch (domainName : String) : FindSimilarNodesRequest :=
  { text := some domainName, label := some "Domain", limit := some 1 }

theorem searches_domainSearch {env : Env} {w : World} {v : Embedding}
    (hv : env.embedding w.clock = .ok v) (domainName : String) :
    Searches env w.tick (some "Domain") 1 (.embedding v)
      (env.exec (findSimilarNodes (domainSearch domainName) : Step _) w) := by
  have hkey : searchKey env w (domainSearch domainName) = some (.embedding v, w.tick) := by
    rw [searchKey, hv]
    rfl
  exact searches_findSimilarNodes hkey

theorem calls_checkDomainExists (env : Env) (w : World) (domainName : String) :
    (env.exec (checkDomainExists domainName) w).calls =
      (env.exec (findSimilarNodes (domainSearch domainName) : Step _) w).calls := by
  rw [checkDomainExists, exec_bind, similarTo, exec_mapErr]
  cases hexit : (env.exec (findSimilarNodes (domainSearch domainName) : Step _) w).exit with
  | ok results => exact List.append_nil _
  | err e | panicked => rfl

theorem exit_checkDomainExists {index : VectorIndex} {env : Env} {w : World} {v : Embedding}
    {domainName : String} (hv : env.embedding w.clock = .ok v)
    (hindex : AnsweredBy index w.graph (env.exec (checkDomainExists domainName) w).calls) :
    (env.exec (checkDomainExists domainName) w).exit =
      .ok (existingDomain (((index.best w.graph 1 v).filter (Node.hasLabel "Domain")).map
        (index.result v))) := by
  rw [calls_checkDomainExists] at hindex
  have hexit := (searches_domainSearch hv domainName).exit_eq hindex rfl
  rw [checkDomainExists, exec_bind, similarTo, exec_mapErr, hexit]
  exact congrArg (fun results => Exit.ok (existingDomain results)) (rows_domain index w.graph v)

theorem existingDomain_result (index : VectorIndex) (v : Embedding) (n : Node) (ns : List Node) :
    existingDomain ((n :: ns).map (index.result v)) =
      if index.score v n ≥ DOMAIN_SIMILARITY_THRESHOLD then some (index.result v n).name
      else none := rfl

theorem domainFound_iff {index : VectorIndex} {env : Env} {w : World} {v : Embedding}
    {domainName : String} (hv : env.embedding w.clock = .ok v)
    (hindex : AnsweredBy index w.graph (env.exec (checkDomainExists domainName) w).calls) :
    (DomainReaches index w.graph v → DomainFound index w.graph v
        (env.exec (checkDomainExists domainName) w).exit) ↔
      (∀ n ∈ index.best w.graph 1 v, n.hasLabel "Domain" = true) ∨
        ¬ DomainReaches index w.graph v := by
  rw [exit_checkDomainExists hv hindex]
  have htop := index.isTop_best w.graph 1 v
  have hlength := htop.length
  generalize index.best w.graph 1 v = best at htop hlength
  constructor
  · intro hfinds
    by_cases hreach : DomainReaches index w.graph v
    · obtain ⟨n, -, -, -, hsome⟩ := hfinds hreach
      refine .inl fun m hm => ?_
      have hsingle : best = [m] := by
        have hle : best.length ≤ 1 := hlength ▸ Nat.min_le_left 1 _
        match best, hm, hle with
        | [b], hm, _ => rw [List.mem_singleton.1 hm]
      by_contra hlabel
      rw [hsingle, List.filter_cons_of_neg hlabel] at hsome
      cases hsome
    · exact .inr hreach
  · rintro (hdomains | hnone) hreach
    · obtain ⟨n, hn, -, hscore⟩ := hreach
      cases best with
      | nil =>
          have hpos := List.length_pos_of_mem hn
          simp only [List.length_nil] at hlength
          omega
      | cons top rest =>
          have hmem : top ∈ top :: rest := List.mem_cons_self
          have hle : DOMAIN_SIMILARITY_THRESHOLD ≤ index.score v top :=
            le_trans hscore (htop.head_le rfl hn)
          refine ⟨top, htop.subset hmem, hdomains top hmem, hle, ?_⟩
          rw [List.filter_cons_of_pos (hdomains top hmem), existingDomain_result, if_pos hle]
    · exact absurd hreach hnone

/-- The search takes the index's best nodes first and filters them afterwards.
So it is complete exactly where that loses nothing, and the existence check
misses a domain wherever some other node is nearer. -/
theorem findSimilarNodes_complete_iff (index : VectorIndex) (env : Env) (w : World) :
    (∀ request key w' v, searchKey env w request = some (key, w') →
      index.searchVector w.graph key = some v →
      (AnsweredBy index w.graph (env.exec (findSimilarNodes request : Step _) w).calls →
        (SearchComplete index w.graph request key v
            (env.exec (findSimilarNodes request : Step _) w).exit ↔
          index.Reaches w.graph request.label (request.limit.getD 5) key v)) ∧
      (AnsweredBy index w.graph (env.exec (Worker.findSimilarNodes request) w).calls →
        (SearchComplete index w.graph request key v
            (env.exec (Worker.findSimilarNodes request) w).exit ↔
          index.Reaches w.graph request.label (request.limit.getD 5) key v))) ∧
    (∀ domainName v, env.embedding w.clock = .ok v →
      AnsweredBy index w.graph (env.exec (checkDomainExists domainName) w).calls →
      ((DomainReaches index w.graph v → DomainFound index w.graph v
          (env.exec (checkDomainExists domainName) w).exit) ↔
        (∀ n ∈ index.best w.graph 1 v, n.hasLabel "Domain" = true) ∨
          ¬ DomainReaches index w.graph v)) := by
  refine ⟨fun request key w' v hkey hv => ⟨fun hindex => ?_, fun hindex => ?_⟩, ?_⟩
  · exact searchComplete_iff ((searches_findSimilarNodes hkey).exit_eq hindex hv)
  · exact searchComplete_iff ((searches_worker_findSimilarNodes hkey).exit_eq hindex hv)
  · intro domainName v hv hindex
    exact domainFound_iff hv hindex

/-- An index that scores by the inner product with the stored embedding. -/
def productIndex : VectorIndex :=
  .exact (fun n => match n.props "embedding" with
      | some (.list vs) => some (vs.map (fun c => match c with
          | .float q => q
          | _ => 0))
      | _ => none)
    (fun v u => (List.zipWith (· * ·) v u).foldr (· + ·) 0)

def embedded (name : String) (vector : Embedding) : Props :=
  (Props.empty.set "name" (.str name)).set "embedding" (.list (vector.map .float))

def scrumDomain : Graph := emptyGraph.createNode ["Domain"] (embedded "Scrum" [9 / 10])

/-- A domain close to the text, and a piece of knowledge that is closer. -/
def scrumGraph : Graph := scrumDomain.createNode ["Knowledge"] (embedded "Scrum roles" [1])

def scrumEnv (g : Graph) : Env :=
  { Env.calm with
    embedding := fun _ => .ok [1]
    similar := fun _ => productIndex.answer g (some "Domain") 1 (.embedding [1]) }

theorem searchKey_scrum (g : Graph) :
    searchKey (scrumEnv g) (.start g) (domainSearch "Scrum") =
      some (.embedding [1], (World.start g).tick) := rfl

theorem searches_scrum (g : Graph) :
    Searches (scrumEnv g) (World.start g).tick (some "Domain") 1 (.embedding [1])
      ((scrumEnv g).exec (findSimilarNodes (domainSearch "Scrum") : Step _) (.start g)) :=
  searches_findSimilarNodes (searchKey_scrum g)

theorem answeredBy_scrum (g : Graph) :
    AnsweredBy productIndex g
      ((scrumEnv g).exec (findSimilarNodes (domainSearch "Scrum") : Step _) (.start g)).calls :=
  (searches_scrum g).answeredBy_iff.2 rfl

theorem answeredBy_check_scrum (g : Graph) :
    AnsweredBy productIndex g
      ((scrumEnv g).exec (checkDomainExists "Scrum") (.start g)).calls := by
  rw [calls_checkDomainExists]
  exact answeredBy_scrum g

theorem domainReaches_scrum :
    DomainReaches productIndex scrumDomain [1] ∧ DomainReaches productIndex scrumGraph [1] := by
  unfold DomainReaches
  decide +kernel

theorem findSimilarNodes_complete_scrum :
    SearchComplete productIndex scrumDomain (domainSearch "Scrum") (.embedding [1]) [1]
      ((scrumEnv scrumDomain).exec (findSimilarNodes (domainSearch "Scrum") : Step _)
        (.start scrumDomain)).exit ∧
    SearchComplete productIndex scrumDomain (domainSearch "Scrum") (.embedding [1]) [1]
      ((scrumEnv scrumDomain).exec (Worker.findSimilarNodes (domainSearch "Scrum"))
        (.start scrumDomain)).exit ∧
    DomainFound productIndex scrumDomain [1]
      ((scrumEnv scrumDomain).exec (checkDomainExists "Scrum") (.start scrumDomain)).exit := by
  obtain ⟨hsearch, hcheck⟩ := findSimilarNodes_complete_iff productIndex (scrumEnv scrumDomain)
    (.start scrumDomain)
  obtain ⟨hrest, hworker⟩ := hsearch _ _ _ [1] (searchKey_scrum scrumDomain) rfl
  have hdomains : ∀ n ∈ productIndex.best scrumDomain 1 [1], n.hasLabel "Domain" = true := by
    decide +kernel
  refine ⟨(hrest (answeredBy_scrum _)).2 (.inl hdomains), (hworker ?_).2 (.inl hdomains),
    (hcheck "Scrum" [1] rfl (answeredBy_check_scrum _)).2 (.inl hdomains) domainReaches_scrum.1⟩
  exact (searches_worker_findSimilarNodes (searchKey_scrum scrumDomain)).answeredBy_iff.2 rfl

theorem scrum_missed :
    DomainReaches productIndex scrumGraph [1] ∧
    AnsweredBy productIndex scrumGraph
      ((scrumEnv scrumGraph).exec (checkDomainExists "Scrum") (.start scrumGraph)).calls ∧
    ¬ SearchComplete productIndex scrumGraph (domainSearch "Scrum") (.embedding [1]) [1]
      ((scrumEnv scrumGraph).exec (findSimilarNodes (domainSearch "Scrum") : Step _)
        (.start scrumGraph)).exit ∧
    ((scrumEnv scrumGraph).exec (checkDomainExists "Scrum") (.start scrumGraph)).exit =
      .ok none := by
  have hindex := answeredBy_check_scrum scrumGraph
  have hnone : ∀ n ∈ productIndex.best scrumGraph 1 [1], n.hasLabel "Domain" = false := by
    decide +kernel
  refine ⟨domainReaches_scrum.2, hindex, ?_, ?_⟩
  · rw [searchComplete_iff ((searches_scrum scrumGraph).exit_eq (answeredBy_scrum _) rfl)]
    rintro (hall | hall)
    · revert hall
      decide +kernel
    · obtain ⟨n, hn, hlabel, -⟩ := domainReaches_scrum.2
      rw [hnone n (hall n hn hlabel)] at hlabel
      cases hlabel
  · rw [exit_checkDomainExists rfl hindex]
    decide +kernel

end AtlasOfUs.Agent
