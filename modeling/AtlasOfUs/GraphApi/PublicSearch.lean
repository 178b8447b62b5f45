import AtlasOfUs.Auth.Signup
import AtlasOfUs.GraphApi.NodeQuery
import Mathlib.Data.List.Forall2

namespace AtlasOfUs

def Outcome.delivered {α : Type} (o : Outcome) (results : List α) : List α :=
  match o with
  | .done => results
  | .failed .. => []
  | .cut _ n _ => results.take n

end AtlasOfUs

namespace AtlasOfUs.GraphApi

open Library BoltMapping

section Lists

variable {α : Type} {p : α → Bool} {d d' : α → Prop}

theorem take_filter_eq {xs ys : List α}
    (h : List.Forall₂ (fun x y => x = y ∨ d x ∧ d' y) xs ys) (k : Nat)
    (hx : ∀ x ∈ (xs.filter p).take k, ¬ d x) (hy : ∀ y ∈ (ys.filter p).take k, ¬ d' y) :
    (xs.filter p).take k = (ys.filter p).take k := by
  induction h generalizing k with
  | nil => rfl
  | @cons x y xs ys hxy h ih =>
      have hskip : p x = false → p y = false →
          ((x :: xs).filter p).take k = ((y :: ys).filter p).take k := by
        intro hpx hpy
        rw [List.filter_cons_of_neg (by simp [hpx])] at hx ⊢
        rw [List.filter_cons_of_neg (by simp [hpy])] at hy ⊢
        exact ih k hx hy
      cases k with
      | zero => rfl
      | succ k =>
          rcases hxy with rfl | ⟨hdx, hdy⟩
          · cases hpx : p x with
            | false => exact hskip hpx hpx
            | true =>
                rw [List.filter_cons_of_pos hpx, List.take_succ_cons] at hx hy
                rw [List.filter_cons_of_pos hpx, List.filter_cons_of_pos hpx, List.take_succ_cons,
                  List.take_succ_cons]
                rw [ih k (fun x' hx' => hx x' (List.mem_cons_of_mem _ hx'))
                  (fun y' hy' => hy y' (List.mem_cons_of_mem _ hy'))]
          · apply hskip
            · by_contra hpx
              rw [Bool.not_eq_false] at hpx
              rw [List.filter_cons_of_pos hpx, List.take_succ_cons] at hx
              exact hx x List.mem_cons_self hdx
            · by_contra hpy
              rw [Bool.not_eq_false] at hpy
              rw [List.filter_cons_of_pos hpy, List.take_succ_cons] at hy
              exact hy y List.mem_cons_self hdy

theorem filter_eq {xs ys : List α}
    (h : List.Forall₂ (fun x y => x = y ∨ d x ∧ d' y) xs ys)
    (hx : ∀ x ∈ xs.filter p, ¬ d x) (hy : ∀ y ∈ ys.filter p, ¬ d' y) :
    xs.filter p = ys.filter p := by
  have htake := take_filter_eq (p := p) h (xs.length + ys.length)
    (fun x hx' => hx x (List.mem_of_mem_take hx')) (fun y hy' => hy y (List.mem_of_mem_take hy'))
  have hlen : ∀ zs : List α, (zs.filter p).length ≤ zs.length := fun zs => List.length_filter_le _ zs
  rw [List.take_of_length_le (le_trans (hlen xs) (Nat.le_add_right _ _)),
    List.take_of_length_le (le_trans (hlen ys) (Nat.le_add_left _ _))] at htake
  exact htake

theorem mem_and_of_forall₂ {r : α → α → Prop} {xs ys : List α} (h : List.Forall₂ r xs ys) :
    List.Forall₂ (fun x y => r x y ∧ x ∈ xs ∧ y ∈ ys) xs ys := by
  rw [List.forall₂_iff_zip] at h ⊢
  exact ⟨h.1, fun hab => ⟨h.2 hab, List.of_mem_zip hab⟩⟩

end Lists

structure Rehashed (n n' : Node) : Prop where
  id_eq : n'.id = n.id
  labels_eq : n'.labels = n.labels
  props_eq : ∀ key, n.hasLabel "Person" = true ∧ key = "password" ∨ n'.props key = n.props key

/-- Two graphs that differ only in the passwords of persons. -/
structure SamePublicly (g g' : Graph) : Prop where
  nodes : List.Forall₂ Rehashed g.nodes g'.nodes
  edges : g'.edges = g.edges

theorem Rehashed.symm {n n' : Node} (h : Rehashed n n') : Rehashed n' n where
  id_eq := h.id_eq.symm
  labels_eq := h.labels_eq.symm
  props_eq := fun key => by
    rcases h.props_eq key with hkey | hkey
    · left
      rw [Node.hasLabel, h.labels_eq]
      exact hkey
    · exact .inr hkey.symm

theorem SamePublicly.symm {g g' : Graph} (h : SamePublicly g g') : SamePublicly g' g where
  nodes := List.Forall₂.flip (h.nodes.imp fun _ _ hn => hn.symm)
  edges := h.edges.symm

theorem Rehashed.eq {n n' : Node} (h : Rehashed n n')
    (hpassword : n'.props "password" = n.props "password") : n' = n := by
  rcases n with ⟨i, ls, ps⟩
  rcases n' with ⟨i', ls', ps'⟩
  obtain ⟨rfl, rfl, hprops⟩ := h
  have hps : ps' = ps := by
    funext key
    rcases hprops key with ⟨-, rfl⟩ | hkey
    · exact hpassword
    · exact hkey
  rw [hps]

def Differs (g' : Graph) (n : Node) : Prop :=
  ∃ n' ∈ g'.nodes, n'.id = n.id ∧ n'.props "password" ≠ n.props "password"

theorem SamePublicly.eq_or_differs {g g' : Graph} (h : SamePublicly g g') :
    List.Forall₂ (fun n n' => n = n' ∨ Differs g' n ∧ Differs g n') g.nodes g'.nodes := by
  refine (mem_and_of_forall₂ h.nodes).imp fun n n' hn => ?_
  obtain ⟨hrehashed, hmem, hmem'⟩ := hn
  by_cases hpassword : n'.props "password" = n.props "password"
  · exact .inl (hrehashed.eq hpassword).symm
  · exact .inr ⟨⟨n', hmem', hrehashed.id_eq, hpassword⟩,
      ⟨n, hmem, hrehashed.id_eq.symm, Ne.symm hpassword⟩⟩

def Search.roots (search : Search) (o : Outcome) (g : Graph) : List Node :=
  o.delivered (g.nodes.filter search.isRoot)

def Search.shown (search : Search) (o : Outcome) (g : Graph) : List Node :=
  (search.roots o g).flatMap (fun n => n :: affiliates g search.depth.toNat n.id)

/-- No node that the search shows has another password in the other graph. -/
def Search.Unexposed (search : Search) (o : Outcome) (g g' : Graph) : Prop :=
  ∀ n ∈ search.shown o g, ¬ Differs g' n

theorem Search.Unexposed.root {search : Search} {o : Outcome} {g g' : Graph}
    (h : search.Unexposed o g g') : ∀ n ∈ search.roots o g, ¬ Differs g' n := fun n hn =>
  h n (List.mem_flatMap.2 ⟨n, hn, List.mem_cons_self⟩)

theorem Search.Unexposed.affiliate {search : Search} {o : Outcome} {g g' : Graph}
    (h : search.Unexposed o g g') {n : Node} (hn : n ∈ search.roots o g) :
    ∀ m ∈ affiliates g search.depth.toNat n.id, ¬ Differs g' m := fun m hm =>
  h m (List.mem_flatMap.2 ⟨n, hn, List.mem_cons_of_mem _ hm⟩)

theorem roots_eq {search : Search} {o : Outcome} {g g' : Graph} (h : SamePublicly g g')
    (hg : search.Unexposed o g g') (hg' : search.Unexposed o g' g) :
    search.roots o g = search.roots o g' := by
  have hroot := hg.root
  have hroot' := hg'.root
  unfold Search.roots at hroot hroot' ⊢
  cases o with
  | done => exact filter_eq h.eq_or_differs hroot hroot'
  | failed applied e => rfl
  | cut applied n e => exact take_filter_eq h.eq_or_differs n hroot hroot'

theorem affiliates_eq {search : Search} {o : Outcome} {g g' : Graph} (h : SamePublicly g g')
    (hg : search.Unexposed o g g') (hg' : search.Unexposed o g' g) {n : Node}
    (hn : n ∈ search.roots o g) :
    affiliates g search.depth.toNat n.id = affiliates g' search.depth.toNat n.id := by
  have hn' : n ∈ search.roots o g' := roots_eq h hg hg' ▸ hn
  have haffiliate := hg'.affiliate hn'
  unfold affiliates at haffiliate ⊢
  rw [h.edges] at haffiliate ⊢
  exact filter_eq h.eq_or_differs (hg.affiliate hn) haffiliate

section Response

variable (server : Server)

/-- One root of the response, with its relationships and affiliates. -/
def entry (g : Graph) (depth : Nat) (n : Node) : Json :=
  mapResult [("node", server.nodeWithMeta n),
    ("relationships", .array ((onTrails g.edges depth n.id).map server.relationshipWithMeta)),
    ("affiliatedNodes", .array ((affiliates g depth n.id).map server.nodeWithMeta))]

def boltNode (n : Node) : Json := mapBolt4ToBolt5Node (server.nodeWithMeta n)

theorem entry_eq (g : Graph) (depth : Nat) (n : Node) :
    entry server g depth n =
      .object [("Values", .array [boltNode server n,
          .array (((onTrails g.edges depth n.id).map server.relationshipWithMeta).map
            mapBolt4ToBolt5Relationship),
          .array ((affiliates g depth n.id).map (boltNode server))]),
        ("Keys", .array [.str "node", .str "relationships", .str "affiliatedNodes"])] := by
  rw [entry, mapResult_columns, List.map_map (g := mapBolt4ToBolt5Node)]
  rfl

theorem mapBolt4ToBolt5_searchRows (g : Graph) (depth : Nat) (ns : List Node) :
    mapBolt4ToBolt5 ((ns.map (server.searchRow g depth)).map nodeData) =
      .array (ns.map (entry server g depth)) := by
  rw [List.map_map]
  exact mapBolt4ToBolt5_rows (fun n => rfl) ns

/-- What a request comes to with the graph and the clock at its start. -/
def respond (fromStr : String → Option PropertyMap) (params : NodeQueryParams) (env : Env)
    (clock : Nat) (g : Graph) : Exit ServiceError (Except Handlers.ErrorResponse Json) :=
  (env.exec (Handlers.getNodes server fromStr params) ⟨g, clock⟩).exit

def fetched (reply : Except String RowStream) : Except ServiceError Json :=
  (reply.mapError (fun e => .databaseError ("Database error: " ++ e))).map
    (fun result => mapBolt4ToBolt5 (result.rows.map nodeData))

def searchResponse (search : Search) (o : Outcome) (g : Graph) :
    Except Handlers.ErrorResponse Json :=
  match o with
  | .failed .. => .error ⟨500, .null⟩
  | _ => .ok (.array ((search.roots o g).map (entry server g search.depth.toNat)))

variable {server} {fromStr : String → Option PropertyMap} {params : NodeQueryParams}

theorem respond_malformed (h : params.search fromStr = none) (env : Env) (clock : Nat) (g : Graph) :
    respond server fromStr params env clock g = .ok (.error ⟨400, .null⟩) := by
  rcases params with ⟨labels, properties, depth⟩
  cases properties with
  | none => cases h
  | some text =>
      have hparse : fromStr text = none := Option.map_eq_none_iff.1 h
      simp only [respond, Handlers.getNodes, Option.map_some, hparse]
      rfl

theorem exit_getNodesWithRelationships (labels : Option (List String))
    (properties : Option PropertyMap) (depth : Int) (env : Env) (w : World) :
    (env.exec (getNodesWithRelationships server labels properties depth) w).exit =
      .ofExcept (fetched ((env.outcome w.clock).reply
        (server.read ⟨labels, properties.getD .empty, depth⟩ w.graph).1)) := by
  rw [getNodesWithRelationships, exec_bind, exec_execute]
  cases (env.outcome w.clock).reply _ <;> rfl

theorem exit_nodesResponse (labels : Option (List String)) (properties : Option PropertyMap)
    (depth : Int) (env : Env) (w : World) :
    (env.exec ((getNodesWithRelationships server labels properties depth).attempt >>=
        fun result => pure (Handlers.nodesResponse result) : Api _) w).exit =
      .ok (Handlers.nodesResponse (fetched ((env.outcome w.clock).reply
        (server.read ⟨labels, properties.getD .empty, depth⟩ w.graph).1))) := by
  rw [exec_bind, exec_attempt, exit_getNodesWithRelationships]
  cases fetched _ <;> rfl

theorem respond_search {search : Search} (h : params.search fromStr = some search) (env : Env)
    (clock : Nat) (g : Graph) :
    respond server fromStr params env clock g =
      .ok (Handlers.nodesResponse
        (fetched ((env.outcome clock).reply (server.read search g).1))) := by
  rcases params with ⟨labels, properties, depth⟩
  cases properties with
  | none =>
      obtain rfl := Option.some.inj h
      exact exit_nodesResponse _ none _ env ⟨g, clock⟩
  | some text =>
      obtain ⟨ps, hparse, rfl⟩ := Option.map_eq_some_iff.1 h
      simp only [respond, Handlers.getNodes, Option.map_some, hparse]
      exact exit_nodesResponse _ (some ps) _ env ⟨g, clock⟩

theorem respond_intended {search : Search} (h : params.search fromStr = some search)
    (hread : search.Intended server.alphabet) (env : Env) (clock : Nat) (g : Graph) :
    respond server fromStr params env clock g =
      .ok (searchResponse server search (env.outcome clock) g) := by
  rw [respond_search h, Server.read, if_pos hread]
  unfold searchResponse
  cases env.outcome clock with
  | done => exact congrArg (Exit.ok ∘ Except.ok) (mapBolt4ToBolt5_searchRows server g _ _)
  | failed applied e => rfl
  | cut applied n e =>
      refine congrArg (Exit.ok ∘ Except.ok) ?_
      rw [← List.map_take]
      exact mapBolt4ToBolt5_searchRows server g _ _

end Response

section Exposure

variable {server : Server} {search : Search} {o : Outcome} {g g' : Graph}

theorem toJson_injective : Function.Injective Value.toJson := by
  have hscalar : Function.Injective Scalar.toJson := by
    intro v v' h
    cases v <;> cases v' <;> simp_all [Scalar.toJson]
  intro v v' h
  cases v <;> cases v' <;> simp only [Value.toJson, reduceCtorEq, Json.bool.injEq, Json.int.injEq,
    Json.float.injEq, Json.str.injEq, Json.array.injEq] at h
  all_goals first | rw [h] | rw [List.map_injective_iff.2 hscalar h]

theorem lookup_listed (keys : List String) (props : Props) (key : String) :
    (keys.filterMap (fun k => (props k).map (fun v => (k, v.toJson)))).lookup key =
      (if key ∈ keys then props key else none).map Value.toJson := by
  induction keys with
  | nil => rfl
  | cons k keys ih =>
      by_cases hkey : key = k
      · subst hkey
        rw [if_pos List.mem_cons_self]
        cases hprop : props key with
        | none =>
            rw [List.filterMap_cons_none (by rw [hprop]; rfl), ih, hprop, ite_self]
        | some v =>
            rw [List.filterMap_cons_some (b := (key, v.toJson)) (by rw [hprop]; rfl),
              List.lookup_cons, BEq.rfl]
            rfl
      · have hmem : key ∈ k :: keys ↔ key ∈ keys := by simp [hkey]
        simp only [hmem]
        cases hprop : props k with
        | none => rw [List.filterMap_cons_none (by rw [hprop]; rfl), ih]
        | some v =>
            rw [List.filterMap_cons_some (b := (k, v.toJson)) (by rw [hprop]; rfl),
              List.lookup_cons, beq_eq_false_iff_ne.2 hkey]
            exact ih

theorem lookup_properties {key : String} (hkey : key ∈ server.propertyKeys) (props : Props) :
    (server.properties props).lookup key = (props key).map Value.toJson := by
  rw [Server.properties, lookup_listed, if_pos hkey]

theorem lookup_without {removed : List String} {key : String} (h : key ∉ removed)
    (fields : Fields) : (without removed fields).lookup key = fields.lookup key := by
  unfold without
  induction fields with
  | nil => rfl
  | cons field fields ih =>
      by_cases hkey : key = field.1
      · rw [List.filter_cons_of_pos (by simpa [← hkey] using h), List.lookup_cons,
          List.lookup_cons, hkey, BEq.rfl]
      · rw [List.lookup_cons, beq_eq_false_iff_ne.2 hkey]
        cases hremoved : removed.contains field.1 with
        | true => rw [List.filter_cons_of_neg (by simpa using hremoved), ih]
        | false =>
            rw [List.filter_cons_of_pos (by simpa using hremoved), List.lookup_cons,
              beq_eq_false_iff_ne.2 hkey, ih]

theorem boltNode_injective (hkey : "password" ∈ server.propertyKeys) {n n' : Node}
    (h : boltNode server n = boltNode server n') :
    n.id = n'.id ∧ n.props "password" = n'.props "password" := by
  rw [boltNode, boltNode, Server.nodeWithMeta, Server.nodeWithMeta, mapBolt4ToBolt5Node_nested,
    mapBolt4ToBolt5Node_nested] at h
  simp only [Json.object.injEq, List.cons.injEq, Prod.mk.injEq, Json.str.injEq, true_and] at h
  obtain ⟨-, hid, -, hprops, -⟩ := h
  refine ⟨hid, ?_⟩
  have hlookup := congrArg (fun fields : Fields => fields.lookup "password") hprops
  simp only [lookup_without (show "password" ∉ ["embedding"] by decide),
    lookup_properties hkey] at hlookup
  exact Option.map_injective toJson_injective hlookup

theorem mem_shown_iff {n : Node} :
    n ∈ search.shown o g ↔ ∃ r ∈ search.roots o g,
      n = r ∨ n ∈ affiliates g search.depth.toNat r.id := by
  simp only [Search.shown, List.mem_flatMap, List.mem_cons]

theorem mem_of_mem_roots {n : Node} (h : n ∈ search.roots o g) : n ∈ g.nodes := by
  unfold Search.roots at h
  cases o with
  | done => exact List.mem_of_mem_filter h
  | failed applied e => cases h
  | cut applied k e => exact List.mem_of_mem_filter (List.mem_of_mem_take h)

/-- Where the same entries come back, each node that one search shows has the
same password in the other graph. -/
theorem unexposed_of_entries (hkey : "password" ∈ server.propertyKeys)
    (h : (search.roots o g).map (entry server g search.depth.toNat) =
      (search.roots o g').map (entry server g' search.depth.toNat)) :
    search.Unexposed o g g' := by
  have htwin : ∀ n ∈ search.shown o g, ∃ m ∈ g'.nodes, boltNode server n = boltNode server m := by
    intro n hn
    obtain ⟨r, hr, hn⟩ := mem_shown_iff.1 hn
    have hentry := List.mem_map_of_mem (f := entry server g search.depth.toNat) hr
    rw [h] at hentry
    obtain ⟨r', hr', hentry⟩ := List.mem_map.1 hentry
    rw [entry_eq, entry_eq] at hentry
    simp only [Json.object.injEq, Json.array.injEq, List.cons.injEq, Prod.mk.injEq, true_and,
      and_true] at hentry
    obtain ⟨hroot, -, haffiliates⟩ := hentry
    rcases hn with rfl | hn
    · exact ⟨r', mem_of_mem_roots hr', hroot.symm⟩
    · have hnode := List.mem_map_of_mem (f := boltNode server) hn
      rw [← haffiliates] at hnode
      obtain ⟨m, hm, hnode⟩ := List.mem_map.1 hnode
      exact ⟨m, List.mem_of_mem_filter hm, hnode.symm⟩
  intro n hn hdiffers
  obtain ⟨n', hn', hid, hpassword⟩ := hdiffers
  obtain ⟨m, hm, hnode⟩ := htwin n hn
  obtain ⟨hmid, hmpassword⟩ := boltNode_injective hkey hnode
  have heq : n' = m := Graph.node_eq_of_id hn' hm (hid.trans hmid)
  exact hpassword (heq ▸ hmpassword.symm)

theorem searchResponse_eq_iff (hkey : "password" ∈ server.propertyKeys) (h : SamePublicly g g') :
    searchResponse server search o g = searchResponse server search o g' ↔
      search.Unexposed o g g' ∧ search.Unexposed o g' g := by
  constructor
  · intro heq
    have hentries : (search.roots o g).map (entry server g search.depth.toNat) =
        (search.roots o g').map (entry server g' search.depth.toNat) := by
      unfold searchResponse at heq
      cases o with
      | failed applied e => rfl
      | done => exact Json.array.inj (Except.ok.inj heq)
      | cut applied k e => exact Json.array.inj (Except.ok.inj heq)
    exact ⟨unexposed_of_entries hkey hentries, unexposed_of_entries hkey hentries.symm⟩
  · rintro ⟨hg, hg'⟩
    have hentries : (search.roots o g).map (entry server g search.depth.toNat) =
        (search.roots o g').map (entry server g' search.depth.toNat) := by
      rw [← roots_eq h hg hg']
      refine List.map_congr_left fun n hn => ?_
      rw [entry, entry, affiliates_eq h hg hg' hn, h.edges]
    unfold searchResponse
    cases o with
    | failed applied e => rfl
    | done => exact congrArg (Except.ok ∘ Json.array) hentries
    | cut applied k e => exact congrArg (Except.ok ∘ Json.array) hentries

end Exposure

theorem respond_unintended {server : Server} {fromStr : String → Option PropertyMap}
    {params : NodeQueryParams} {search : Search} (h : params.search fromStr = some search)
    (hread : ¬ search.Intended server.alphabet) (env : Env) (clock : Nat) {g g' : Graph}
    (hrows : (server.other search.text g).1 = (server.other search.text g').1) :
    respond server fromStr params env clock g = respond server fromStr params env clock g' := by
  rw [respond_search h, respond_search h, Server.read, if_neg hread, hrows]

/-- Of two graphs that differ only in passwords a request gets the same response
exactly if no node with another password is among the roots it is shown or what
they reach. Where something leaves its place in the statement, the same results
are the same response. -/
theorem getNodes_confidential_iff (server : Server) (fromStr : String → Option PropertyMap)
    (params : NodeQueryParams) (env : Env) (clock : Nat) {g g' : Graph}
    (hkey : "password" ∈ server.propertyKeys) (h : SamePublicly g g') :
    (params.search fromStr = none →
      respond server fromStr params env clock g = respond server fromStr params env clock g') ∧
    ∀ search, params.search fromStr = some search →
      (search.Intended server.alphabet →
        (respond server fromStr params env clock g = respond server fromStr params env clock g' ↔
          search.Unexposed (env.outcome clock) g g' ∧ search.Unexposed (env.outcome clock) g' g)) ∧
      (¬ search.Intended server.alphabet →
        (server.other search.text g).1 = (server.other search.text g').1 →
        respond server fromStr params env clock g =
          respond server fromStr params env clock g') := by
  refine ⟨fun hmalformed => ?_, fun search hsearch => ⟨fun hread => ?_, fun hread hrows => ?_⟩⟩
  · rw [respond_malformed hmalformed, respond_malformed hmalformed]
  · rw [respond_intended hsearch hread, respond_intended hsearch hread, Exit.ok.injEq]
    exact searchResponse_eq_iff hkey h
  · exact respond_unintended hsearch hread env clock hrows

section Landing

/-- A database that knows the properties of users and is sent nothing but searches. -/
def userServer : Server where
  alphabet := Cypher.ascii
  number := fun _ => 0
  propertyKeys := ["name", "username", "password", "phone"]
  other := fun _ g => ([], g)

def userAndDomain (hash : String) : Graph :=
  (Auth.createUserStatement "ada" hash "555" emptyGraph).2.createNode ["Domain"]
    (Props.empty.set "name" (.str "Rust"))

theorem samePublicly_userAndDomain (hash hash' : String) :
    SamePublicly (userAndDomain hash) (userAndDomain hash') where
  nodes := by
    refine .cons ⟨rfl, rfl, fun key => ?_⟩ (.cons ⟨rfl, rfl, fun key => .inr rfl⟩ .nil)
    by_cases hkey : key = "password"
    · exact .inl ⟨rfl, hkey⟩
    · right
      simp [Auth.userProps, Props.set, hkey]
  edges := rfl

def labelled (label : String) : NodeQueryParams := ⟨some label, none, none⟩

def labelledSearch (label : String) : Search :=
  ⟨some (NodeQueryParams.splitLabels label), .empty, 1⟩

theorem password_of_domain {hash : String} {n : Node} (hn : n ∈ (userAndDomain hash).nodes)
    (hid : n.id = "4:1") : n.props "password" = none := by
  have huser : emptyGraph.freshId ≠ "4:1" := by decide +kernel
  rcases List.mem_cons.1 hn with rfl | hn
  · exact absurd hid huser
  · rw [List.mem_singleton.1 hn]
    rfl

theorem shown_of_mem {search : Search} {o : Outcome} {g : Graph} {n : Node}
    (h : n ∈ search.shown o g) : n ∈ g.nodes := by
  obtain ⟨r, hr, rfl | hn⟩ := mem_shown_iff.1 h
  · exact mem_of_mem_roots hr
  · exact List.mem_of_mem_filter hn

theorem unexposed_domain {hash : String} (hash' : String)
    (h : ((labelledSearch "Domain").shown .done (userAndDomain hash)).map Node.id = ["4:1"]) :
    (labelledSearch "Domain").Unexposed .done (userAndDomain hash) (userAndDomain hash') := by
  rintro n hn ⟨n', hn', hid, hpassword⟩
  have hmem : n.id ∈ ["4:1"] := h ▸ List.mem_map_of_mem hn
  rw [List.mem_singleton] at hmem
  apply hpassword
  rw [password_of_domain (shown_of_mem hn) hmem, password_of_domain hn' (hid.trans hmem)]

theorem getNodes_confidential_domains :
    respond userServer (fun _ => none) (labelled "Domain") .calm 0 (userAndDomain "hash of a") =
      respond userServer (fun _ => none) (labelled "Domain") .calm 0
        (userAndDomain "hash of b") := by
  obtain ⟨-, hsearch⟩ := getNodes_confidential_iff userServer (fun _ => none) (labelled "Domain")
    .calm 0 (by decide) (samePublicly_userAndDomain "hash of a" "hash of b")
  refine ((hsearch (labelledSearch "Domain") rfl).1 (by decide +kernel)).2 ⟨?_, ?_⟩
  · exact unexposed_domain _ (by decide +kernel)
  · exact unexposed_domain _ (by decide +kernel)

/-- The landing page's route gives a password hash away to whoever asks for persons. -/
theorem person_password_shown :
    SamePublicly (userAndDomain "hash of a") (userAndDomain "hash of b") ∧
      respond userServer (fun _ => none) (labelled "Person") .calm 0 (userAndDomain "hash of a") ≠
        respond userServer (fun _ => none) (labelled "Person") .calm 0
          (userAndDomain "hash of b") := by
  refine ⟨samePublicly_userAndDomain _ _, fun h => ?_⟩
  have hsearch : (labelled "Person").search (fun _ => none) = some (labelledSearch "Person") := rfl
  have hintended : (labelledSearch "Person").Intended userServer.alphabet := by decide +kernel
  rw [respond_intended hsearch hintended, respond_intended hsearch hintended, Exit.ok.injEq,
    searchResponse_eq_iff (by decide) (samePublicly_userAndDomain _ _)] at h
  have hroot : (userAndDomain "hash of a").nodes.head (by decide) ∈
      (labelledSearch "Person").roots .done (userAndDomain "hash of a") :=
    List.mem_filter.2 ⟨List.head_mem _, by decide +kernel⟩
  refine h.1.root _ hroot ⟨(userAndDomain "hash of b").nodes.head (by decide), List.head_mem _, rfl, ?_⟩
  decide

end Landing

end AtlasOfUs.GraphApi
