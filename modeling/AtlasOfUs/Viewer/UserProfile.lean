import AtlasOfUs.Editor.NodeFetch
import AtlasOfUs.Library.UrlPath

namespace AtlasOfUs.Profile

open Library GraphApi BoltMapping

def outgoing (g : Graph) (i : ElementId) : List Edge := g.edges.filter fun r => r.source = i

/-- `collect(distinct m)` of the nodes that the edges lead to. -/
def affiliates (g : Graph) (i : ElementId) : List Node :=
  g.nodes.filter fun m => (outgoing g i).any fun r => r.target = m.id

def generals (g : Graph) (i : ElementId) : List ElementId :=
  (((outgoing g i).filter fun r => r.type = "GENERALIZES_TO").map Edge.target).eraseDups

def isUser (username : String) (n : Node) : Bool :=
  n.hasLabel "Person" && n.props "username" = some (.str username)

section Service

variable (server : Server)

def affiliateWithMeta (m : Node) (general : Json) : Json :=
  .object [("id", .int (server.number m.id)), ("elementId", .str m.id),
    ("labels", .array (m.labels.map .str)), ("props", .object (server.properties m.props)),
    ("generalizesToElementId", general)]

def affiliateRows (g : Graph) (m : Node) : List Json :=
  match generals g m.id with
  | [] => [affiliateWithMeta server m .null]
  | generals => generals.map fun general => affiliateWithMeta server m (.str general)

def profileRow (g : Graph) (n : Node) : Row :=
  [("node", server.nodeWithMeta n),
    ("relationships", .array ((outgoing g n.id).map server.relationshipWithMeta)),
    ("affiliatedNodes", .array ((affiliates g n.id).flatMap (affiliateRows server g)))]

/-- `MATCH (node:Person) WHERE node.username = $username OPTIONAL MATCH (node)-[r]->(m) ...`. -/
def profileStatement (username : String) : Statement := fun g =>
  ((g.nodes.filter (isUser username)).map (profileRow server g), g)

def getUserProfile (username : String) : Api Json := do
  match ← execute (profileStatement server username) with
  | .ok result => return mapBolt4ToBolt5 (result.rows.map nodeData)
  | .error e => .fail (.databaseError ("Database error: " ++ e))

def Handlers.getUserProfile (username : String) :
    Api (Except GraphApi.Handlers.ErrorResponse Json) := do
  return GraphApi.Handlers.nodesResponse (← (Profile.getUserProfile server username).attempt)

end Service

end AtlasOfUs.Profile

namespace AtlasOfUs.Viewer

open Library GraphApi BoltMapping Profile Editor

/-- The server as a browser meets it: the database, the path that its URLs have
before `secure`, and what it answers where the profile route is not taken. -/
structure Site where
  server : Server
  base : List UrlPath.Segment
  base_escaped : base.map (Percent.escape UrlPath.escapes) = base
  elsewhere : String → Api (Except GraphApi.Handlers.ErrorResponse Json)

namespace Site

variable (site : Site)

/-- `/api/secure/profile/user-profile`, with a parameter after it. -/
def profileRoute : List UrlPath.Segment :=
  site.base ++ ["secure".toList, "profile".toList, "user-profile".toList]

def routed (username : String) : Option String :=
  (UrlPath.param site.profileRoute username.toList).map String.ofList

/-- The client's `fetchNodes` on `secure/profile/user-profile/${username}`. -/
def fetchUserProfile (username : String) : Api Neo4jApiResponse :=
  HttpService.fetchNodes (match site.routed username with
    | some routed => Profile.Handlers.getUserProfile site.server routed
    | none => site.elsewhere username)

end Site

section Answer

variable (server : Server)

def profileOf (g : Graph) (n : Node) : Neo4jApiResponse :=
  ⟨some (mapBolt4ToBolt5Node (server.nodeWithMeta n)),
    some (.array (((outgoing g n.id).map server.relationshipWithMeta).map mapBolt4ToBolt5Relationship)),
    some (.array (((affiliates g n.id).flatMap (affiliateRows server g)).map mapBolt4ToBolt5Node))⟩

theorem readNodes_profileRows (g : Graph) (ns : List Node) :
    HttpService.readNodes (mapBolt4ToBolt5 ((ns.map (profileRow server g)).map nodeData)) =
      ns.head?.map (profileOf server g) := by
  rw [List.map_map, show (nodeData ∘ profileRow server g) = fun n => Json.object
      [("node", server.nodeWithMeta n),
        ("relationships", .array ((outgoing g n.id).map server.relationshipWithMeta)),
        ("affiliatedNodes", .array ((affiliates g n.id).flatMap (affiliateRows server g)))] from rfl,
    mapBolt4ToBolt5_rows fun _ => rfl]
  cases ns <;> rfl

def delivered (g : Graph) (o : Outcome) (ns : List Node) : Neo4jApiResponse :=
  if o.returnsRow then (ns.head?.map (profileOf server g)).getD HttpService.noNodes
  else HttpService.noNodes

theorem exec_fetchHandler (env : Env) (username : String) (w : World) :
    let execution := env.exec
      (HttpService.fetchNodes (Profile.Handlers.getUserProfile server username)) w
    execution.state = ⟨w.graph, w.clock + 1⟩ ∧ execution.exit = .ok (delivered server w.graph
      (env.outcome w.clock) (w.graph.nodes.filter (isUser username))) := by
  have hafter : (env.outcome w.clock).after (profileStatement server username) w.graph = w.graph :=
    ite_self _
  have hexec : env.exec (HttpService.fetchNodes (Profile.Handlers.getUserProfile server username)) w =
      ⟨.ok (match (env.outcome w.clock).reply (profileStatement server username w.graph).1 with
        | .ok result =>
            (HttpService.readNodes (mapBolt4ToBolt5 (result.rows.map nodeData))).getD
              HttpService.noNodes
        | .error _ => HttpService.noNodes), ⟨w.graph, w.clock + 1⟩,
        [⟨.execute (profileStatement server username),
          (env.outcome w.clock).reply (profileStatement server username w.graph).1⟩]⟩ := by
    rw [HttpService.fetchNodes, Profile.Handlers.getUserProfile, Profile.getUserProfile, exec_bind,
      exec_bind, exec_attempt, exec_bind, exec_execute, Execution.andThen_ok, hafter]
    cases (env.outcome w.clock).reply (profileStatement server username w.graph).1 <;> rfl
  refine ⟨by rw [hexec], ?_⟩
  rw [hexec, delivered]
  refine congrArg Exit.ok ?_
  cases env.outcome w.clock with
  | done =>
      exact congrArg (fun r => r.getD HttpService.noNodes) (readNodes_profileRows server w.graph _)
  | failed applied e => rfl
  | cut applied n e =>
      have hread := readNodes_profileRows server w.graph
        ((w.graph.nodes.filter (isUser username)).take n)
      rw [List.map_take] at hread
      refine (congrArg (fun r => r.getD HttpService.noNodes) hread).trans ?_
      cases n with
      | zero => rfl
      | succ n =>
          rw [Outcome.returnsRow, decide_eq_true (Nat.succ_pos n), if_pos rfl, List.head?_take,
            if_neg (Nat.succ_ne_zero n)]

end Answer

structure OnlyUser (g : Graph) (username : String) (p : Node) : Prop where
  mem : p ∈ g.nodes
  isUser : isUser username p = true
  only : ∀ n ∈ g.nodes, Profile.isUser username n = true → n = p

theorem OnlyUser.congr {g g' : Graph} {username : String} {p : Node} (h : OnlyUser g username p)
    (hnodes : g'.nodes = g.nodes) : OnlyUser g' username p :=
  ⟨hnodes ▸ h.mem, h.isUser, hnodes ▸ h.only⟩

theorem OnlyUser.filter {g : Graph} {username : String} {p : Node} (h : OnlyUser g username p) :
    g.nodes.filter (Profile.isUser username) = [p] := by
  have hall : ∀ n ∈ g.nodes.filter (Profile.isUser username), n = p := by
    intro n hn
    obtain ⟨hmem, hname⟩ := List.mem_filter.1 hn
    exact h.only n hmem hname
  have hnodup : (g.nodes.filter (Profile.isUser username)).Nodup :=
    (List.Nodup.of_map _ g.nodeIds_nodup).filter _
  rw [List.eq_replicate_of_mem hall] at hnodup ⊢
  have hpos : 0 < (g.nodes.filter (Profile.isUser username)).length :=
    List.length_pos_of_mem (List.mem_filter.2 ⟨h.mem, h.isUser⟩)
  have hle := List.nodup_replicate.1 hnodup
  rw [show (g.nodes.filter (Profile.isUser username)).length = 1 by omega]
  rfl

section Route

variable (site : Site) (username : String)

theorem routed_eq_self_iff :
    site.routed username = some username ↔ UrlPath.Plain username.toList := by
  have hbase : site.profileRoute.map (Percent.escape UrlPath.escapes) = site.profileRoute := by
    rw [Site.profileRoute, List.map_append, site.base_escaped]
    congr 1
  rw [← UrlPath.param_eq_self_iff hbase, Site.routed, Option.map_eq_some_iff]
  constructor
  · rintro ⟨text, htext, rfl⟩
    exact htext.trans (by rw [String.toList_ofList])
  · intro h
    exact ⟨_, h, String.ofList_toList⟩

variable {username}

theorem exec_fetchUserProfile (hplain : UrlPath.Plain username.toList) {w : World} {p : Node}
    (hp : OnlyUser w.graph username p) (env : Env) :
    let execution := env.exec (site.fetchUserProfile username) w
    execution.state = ⟨w.graph, w.clock + 1⟩ ∧ execution.exit = .ok
      (if (env.outcome w.clock).returnsRow then profileOf site.server w.graph p
        else HttpService.noNodes) := by
  have h := exec_fetchHandler site.server env username w
  rw [hp.filter] at h
  rw [Site.fetchUserProfile, (routed_eq_self_iff site username).2 hplain]
  exact h

theorem profileOf_ne_noNodes (server : Server) (g : Graph) (n : Node) :
    profileOf server g n ≠ HttpService.noNodes := by
  intro h
  exact mapBolt4ToBolt5Node_ne_empty _ (Option.some.inj (congrArg Neo4jApiResponse.nodeRoot h))

/-- The site with other answers where the profile route is not taken. -/
def Site.answering (site : Site) (elsewhere : String → Api (Except GraphApi.Handlers.ErrorResponse Json)) :
    Site := { site with elsewhere := elsewhere }

@[simp] theorem Site.routed_answering (site : Site)
    (elsewhere : String → Api (Except GraphApi.Handlers.ErrorResponse Json)) (username : String) :
    (site.answering elsewhere).routed username = site.routed username := rfl

def userAlone (username : String) : Graph :=
  emptyGraph.createNode ["Person"] (Props.empty.set "username" (.str username))

theorem onlyUser_userAlone (username : String) : OnlyUser (userAlone username) username
    ⟨emptyGraph.freshId, ["Person"], Props.empty.set "username" (.str username)⟩ := by
  refine ⟨List.mem_singleton_self _, ?_, fun n hn _ => List.mem_singleton.1 hn⟩
  simp [isUser, Node.hasLabel]

theorem exit_fetchUserProfile_astray (h : site.routed username ≠ some username) :
    (Env.calm.exec ((site.answering fun _ => .done (.error ⟨404, .null⟩)).fetchUserProfile username)
      (.start (userAlone username))).exit = .ok HttpService.noNodes := by
  rw [Site.fetchUserProfile, Site.routed_answering]
  cases hrouted : site.routed username with
  | none => rfl
  | some other =>
      have hnobody : (userAlone username).nodes.filter (Profile.isUser other) = [] := by
        refine List.filter_eq_nil_iff.2 fun n hn hname => h ?_
        obtain rfl := List.mem_singleton.1 hn
        rw [Profile.isUser, Bool.and_eq_true, decide_eq_true_eq] at hname
        have hsame := (Props.set_self Props.empty "username" (Value.str username)).symm.trans hname.2
        rw [hrouted, Value.str.inj (Option.some.inj hsame)]
      refine (exec_fetchHandler site.server .calm other _).2.trans ?_
      change Exit.ok (delivered _ (userAlone username) _ ((userAlone username).nodes.filter _)) = _
      rw [hnobody]
      rfl

variable (username)

/-- Whatever else the site answers and whoever else there is, a user is shown the own profile just
if the username can stand in a path. -/
theorem fetchUserProfile_own_iff :
    (∀ (elsewhere : String → Api (Except GraphApi.Handlers.ErrorResponse Json)) (env : Env) (w : World)
        (p : Node), OnlyUser w.graph username p → env.outcome w.clock = .done →
      (env.exec ((site.answering elsewhere).fetchUserProfile username) w).exit =
        .ok (profileOf site.server w.graph p)) ↔ UrlPath.Plain username.toList := by
  constructor
  · intro hown
    rw [← routed_eq_self_iff site]
    by_contra hastray
    have hprofile := hown (fun _ => .done (.error ⟨404, .null⟩)) .calm
      (.start (userAlone username)) _ (onlyUser_userAlone username) rfl
    rw [exit_fetchUserProfile_astray site hastray] at hprofile
    exact profileOf_ne_noNodes _ _ _ (Exit.ok.inj hprofile).symm
  · intro hplain elsewhere env w p hp hdone
    have h := (exec_fetchUserProfile (site.answering elsewhere) hplain hp env).2
    rw [hdone] at h
    exact h

end Route

end AtlasOfUs.Viewer
