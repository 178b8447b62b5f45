import AtlasOfUs.Viewer.ProgressPage
import AtlasOfUs.GraphApi.PublicSearch
import AtlasOfUs.Library.GraphLinks

namespace AtlasOfUs.Viewer

open Library GraphApi BoltMapping Profile Editor

def IsProgress (user : ElementId) (r : Edge) : Prop := r.source = user ∧ r.type ∈ completionTypes

instance (user : ElementId) (r : Edge) : Decidable (IsProgress user r) :=
  inferInstanceAs (Decidable (_ ∧ _))

def progressEdge (g : Graph) (user elementId : ElementId) : Option Edge :=
  (g.edges.filter fun r => IsProgress user r ∧ r.target = elementId).getLast?

def showing (server : Server) (user : Node) (g : Graph) : DomainPage :=
  ⟨true, some (profileOf server g user)⟩

def lost : DomainPage := ⟨true, some HttpService.noNodes⟩

section Reading

variable (server : Server) {user : Node} (g : Graph)

theorem userElementId_showing (hid : user.id ≠ "") :
    (showing server user g).userElementId = some user.id :=
  Option.filter_some_pos (decide_eq_true hid)

theorem username_showing {username : String} (hkey : "username" ∈ server.propertyKeys)
    (hname : user.props "username" = some (.str username)) (hne : username ≠ "") :
    (showing server user g).username = some username := by
  have hfield : field (field (showing server user g).nodeRoot "Props") "username" =
      .str username := by
    change ((without ["embedding"] (server.properties user.props)).lookup "username").getD .null = _
    rw [lookup_without (by decide), lookup_properties hkey, hname]
    rfl
  rw [DomainPage.username, hfield]
  exact Option.filter_some_pos (decide_eq_true hne)

def relationshipOf (r : Edge) : Neo4jRelationship :=
  ⟨r.id, r.source, r.target, r.type, .object (server.properties r.props)⟩

theorem relationships_showing : (showing server user g).relationships =
    some ((outgoing g user.id).map (relationshipOf server)) := by
  change some (List.map neo4jRelationship (List.map mapBolt4ToBolt5Relationship
    ((outgoing g user.id).map server.relationshipWithMeta))) = _
  rw [List.map_map, List.map_map]
  rfl

theorem filter_relationships (elementId : ElementId) :
    (((outgoing g user.id).map (relationshipOf server)).filter fun r =>
        r.type ∈ completionTypes ∧ r.endElementId = elementId).getLast? =
      (progressEdge g user.id elementId).map (relationshipOf server) := by
  rw [List.filter_map, List.getLast?_map, outgoing, List.filter_filter, progressEdge]
  congr 3
  funext r
  simp only [IsProgress, relationshipOf, Function.comp_apply, and_assoc, Bool.decide_and]
  exact Bool.and_comm _ _

theorem get_userProgressMap_showing (elementId : ElementId) :
    (showing server user g).userProgressMap.get elementId =
      (progressEdge g user.id elementId).map fun r => server.properties r.props := by
  rw [DomainPage.userProgressMap, relationships_showing]
  refine (get_userProgressMap _ _).trans ?_
  rw [filter_relationships, Option.map_map]
  rfl

theorem get_relationshipIdMap_showing (elementId : ElementId) :
    (showing server user g).relationshipIdMap.get elementId =
      (progressEdge g user.id elementId).map Edge.id := by
  have hkeyed : ∀ rs : List Neo4jRelationship, (rs.filter fun r => completedNode r = some elementId) =
      rs.filter fun r => r.type ∈ completionTypes ∧ r.endElementId = elementId := by
    intro rs
    apply List.filter_congr
    intro r _
    rw [completedNode, decide_eq_decide]
    by_cases h : r.type ∈ completionTypes <;> simp [h]
  rw [DomainPage.relationshipIdMap, relationships_showing]
  change (OrderedMap.setAll _ _ _ .empty).get elementId = _
  rw [OrderedMap.get_setAll, OrderedMap.get_empty, Option.or_none, hkeyed, filter_relationships,
    Option.map_map]
  rfl

end Reading

section Statements

variable (conv : Conversion)

def assigned (properties : PropertyMap) : List (String × Option Value) :=
  (properties.assignments conv).getD []

def markStatement (user target : ElementId) (type : String) (properties : PropertyMap) : Statement :=
  Wire.mergeStatement conv type properties.keys
    (((Params.empty.param "sourceId" (.str user)).param "targetId" (.str target)).paramAll conv
      properties)

def Action.statement (user : ElementId) (g : Graph) : Action → Option Statement
  | .mark node levelOrScore date proofUrl =>
      (node.elementId.filter (· ≠ "")).bind fun target => (relationshipType node.type).map fun type =>
        markStatement conv user target type (progressProperties node.type levelOrScore date proofUrl)
  | .remove elementId =>
      (((progressEdge g user elementId).map Edge.id).filter (· ≠ "")).map deleteRelationshipStatement

def Action.acknowledged (o : Outcome) (rows : List Row) : Action → Bool
  | .mark .. => (o.firstRow rows).isSome
  | .remove _ => (o.reply rows).toOption.isSome

section Results

variable {ε δ α β : Type} {env : Env} {w : World}

theorem exec_return {p : Service Empty Empty ε α} {a : α} (h : (env.exec p w).exit = .ok a)
    (f : α → β) :
    (env.exec (p >>= fun a => return f a) w).exit = .ok (f a) ∧
      (env.exec (p >>= fun a => return f a) w).state = (env.exec p w).state := by
  rw [exec_bind, Execution.exit_andThen h, Execution.state_andThen h]
  exact ⟨rfl, rfl⟩

theorem exec_attempt_return {p : Service Empty Empty ε α} {result : Except ε α}
    (h : (env.exec p w).exit = .ofExcept result) (f : Except ε α → β) :
    (env.exec (p.attempt >>= fun r => return f r : Service Empty Empty δ β) w).exit = .ok (f result) ∧
      (env.exec (p.attempt >>= fun r => return f r : Service Empty Empty δ β) w).state =
        (env.exec p w).state := by
  have hattempt : (env.exec (p.attempt : Service Empty Empty δ _) w).exit = .ok result := by
    rw [exec_attempt, h]
    cases result <;> rfl
  obtain ⟨hexit, hstate⟩ := exec_return hattempt f
  exact ⟨hexit, hstate.trans (by rw [exec_attempt])⟩

end Results

theorem nodes_markStatement (user target : ElementId) (type : String) (properties : PropertyMap)
    (g : Graph) : (markStatement conv user target type properties g).2.nodes = g.nodes := by
  unfold markStatement Wire.mergeStatement
  split
  · exact g.mergeEdge_nodes _ _ _ _
  · rfl

theorem Action.nodes_statement {user : ElementId} {shown : Graph} {action : Action} {q : Statement}
    (h : action.statement conv user shown = some q) (g : Graph) : (q g).2.nodes = g.nodes := by
  cases action with
  | mark node levelOrScore date proofUrl =>
      obtain ⟨target, -, h⟩ := Option.bind_eq_some_iff.1 h
      obtain ⟨type, -, rfl⟩ := Option.map_eq_some_iff.1 h
      exact nodes_markStatement conv _ _ _ _ g
  | remove elementId =>
      obtain ⟨relId, -, rfl⟩ := Option.map_eq_some_iff.1 h
      rfl

theorem Action.nodes_after {user : ElementId} {shown : Graph} {action : Action} {q : Statement}
    (h : action.statement conv user shown = some q) (o : Outcome) (g : Graph) :
    (o.after q g).nodes = g.nodes := by
  unfold Outcome.after
  split
  · exact nodes_statement conv h g
  · rfl

theorem exec_createRelationship (env : Env) (w : World) (request : Wire.CreateRelationshipRequest) :
    let q := Wire.mergeStatement conv request.relationshipType (request.properties.getD .empty).keys
      (((Params.empty.param "sourceId" (.str request.sourceId)).param "targetId"
        (.str request.targetId)).paramAll conv (request.properties.getD .empty))
    let execution := env.exec (Wire.createRelationship conv request : Api _) w
    execution.state = ⟨(env.outcome w.clock).after q w.graph, w.clock + 1⟩ ∧
      ∃ result, execution.exit = .ofExcept result ∧
        result.toOption.isSome = ((env.outcome w.clock).firstRow (q w.graph).1).isSome := by
  intro q execution
  have hexec : execution = env.exec (Wire.createRelationship conv request : Api _) w := rfl
  rw [Wire.createRelationship, exec_bind, exec_execute, Execution.andThen_ok] at hexec
  rw [hexec, Outcome.firstRow]
  cases (env.outcome w.clock).reply (q w.graph).1 with
  | error e => exact ⟨rfl, .error _, rfl, rfl⟩
  | ok rows =>
      cases hrow : rows.firstRow with
      | none =>
          simp only [hrow]
          exact ⟨rfl, .error _, rfl, rfl⟩
      | some row =>
          simp only [hrow]
          exact ⟨rfl, .ok _, rfl, rfl⟩

theorem exec_createUserProgress (env : Env) (w : World) (user target : ElementId) (type : String)
    (properties : PropertyMap) :
    let q := markStatement conv user target type properties
    let execution := env.exec
      (HttpService.createUserProgress conv user target (some type) properties) w
    execution.state = ⟨(env.outcome w.clock).after q w.graph, w.clock + 1⟩ ∧
      ∃ response, execution.exit = .ok response ∧
        response.success = ((env.outcome w.clock).firstRow (q w.graph).1).isSome := by
  intro q execution
  obtain ⟨hstate, result, hexit, hsome⟩ := exec_createRelationship conv env w
    ⟨user, target, type, some properties⟩
  obtain ⟨hhandler, hhandlerState⟩ := exec_attempt_return (δ := ServiceError) hexit
    GraphApi.Handlers.relationshipResponse
  obtain ⟨hclient, hclientState⟩ := exec_return hhandler
    (HttpService.ProgressResponse.of "Failed to create progress")
  refine ⟨(hclientState.trans hhandlerState).trans hstate, _, hclient, ?_⟩
  refine Eq.trans ?_ hsome
  cases result <;> rfl

theorem exec_deleteUserProgress (env : Env) (w : World) (relId : ElementId) :
    let q := deleteRelationshipStatement relId
    let execution := env.exec (HttpService.deleteUserProgress relId) w
    execution.state = ⟨(env.outcome w.clock).after q w.graph, w.clock + 1⟩ ∧
      ∃ response, execution.exit = .ok response ∧
        response.success = ((env.outcome w.clock).reply (q w.graph).1).toOption.isSome := by
  intro q execution
  have hservice : ∃ result, (env.exec (GraphApi.deleteRelationship relId) w).exit = .ofExcept result ∧
      result.toOption.isSome = ((env.outcome w.clock).reply (q w.graph).1).toOption.isSome ∧
      (env.exec (GraphApi.deleteRelationship relId) w).state =
        ⟨(env.outcome w.clock).after q w.graph, w.clock + 1⟩ := by
    rw [GraphApi.deleteRelationship, exec_bind, exec_execute, Execution.andThen_ok]
    cases (env.outcome w.clock).reply (deleteRelationshipStatement relId w.graph).1 with
    | error e => exact ⟨.error _, rfl, rfl, rfl⟩
    | ok rows =>
        cases hrow : rows.firstRow with
        | none =>
            simp only [hrow]
            exact ⟨.ok _, rfl, rfl, rfl⟩
        | some row =>
            simp only [hrow]
            exact ⟨.ok _, rfl, rfl, rfl⟩
  obtain ⟨result, hexit, hsome, hstate⟩ := hservice
  obtain ⟨hhandler, hhandlerState⟩ := exec_attempt_return (δ := ServiceError) hexit
    GraphApi.Handlers.deletedResponse
  obtain ⟨hclient, hclientState⟩ := exec_return hhandler
    (HttpService.ProgressResponse.of "Failed to delete progress")
  refine ⟨(hclientState.trans hhandlerState).trans hstate, _, hclient, ?_⟩
  refine Eq.trans ?_ hsome
  cases result <;> rfl

end Statements

structure Account (site : Site) (username : String) (user : Node) : Prop where
  plain : UrlPath.Plain username.toList
  listed : "username" ∈ site.server.propertyKeys
  name : user.props "username" = some (.str username)
  id : user.id ≠ ""

section Steps

variable {site : Site} {conv : Conversion} {username : String} {user : Node}
  (account : Account site username user) {g : Graph} {w : World} (env : Env)
include account

theorem username_showing_account (g : Graph) :
    (showing site.server user g).username = some username := by
  refine username_showing site.server g account.listed account.name ?_
  rintro rfl
  exact account.plain.nonempty rfl

theorem exec_refreshProfileData (hg : OnlyUser w.graph username user) :
    let execution := env.exec (refreshProfileData site (showing site.server user g)) w
    execution.exit = .ok (if (env.outcome w.clock).returnsRow then showing site.server user w.graph
      else lost) ∧ execution.state = ⟨w.graph, w.clock + 1⟩ := by
  intro execution
  obtain ⟨hstate, hexit⟩ := exec_fetchUserProfile site account.plain hg env
  have hexec : execution = env.exec (site.fetchUserProfile username >>= fun data =>
      return if data.nodeRoot.any truthy then { showing site.server user g with profileData := some data }
        else showing site.server user g) w := by
    change env.exec (refreshProfileData site (showing site.server user g)) w = _
    rw [refreshProfileData, username_showing_account account]
    rfl
  obtain ⟨hreturn, hreturnState⟩ := exec_return hexit
    (fun data => if data.nodeRoot.any truthy then
      { showing site.server user g with profileData := some data } else showing site.server user g)
  rw [hexec, hreturn, hreturnState, hstate]
  refine ⟨?_, rfl⟩
  split <;> rfl

/-- After an action that succeeded the page is refreshed, after any other it stays. -/
theorem exec_refreshIf (hg : OnlyUser w.graph username user) (response : HttpService.ProgressResponse) :
    let execution := env.exec (refreshIf site (showing site.server user g) response) w
    (execution.exit.toOption.getD (showing site.server user g), execution.state) =
      if response.success then (if (env.outcome w.clock).returnsRow then
          showing site.server user w.graph else lost, ⟨w.graph, w.clock + 1⟩)
        else (showing site.server user g, w) := by
  intro execution
  have hexec : execution = env.exec (refreshIf site (showing site.server user g) response) w := rfl
  rw [refreshIf] at hexec
  by_cases hsuccess : response.success = true
  · rw [if_pos hsuccess] at hexec
    obtain ⟨hexit, hstate⟩ := exec_refreshProfileData account env (g := g) hg
    rw [if_pos hsuccess, hexec, hexit, hstate]
    rfl
  · rw [if_neg hsuccess] at hexec
    rw [if_neg hsuccess, hexec]
    rfl

theorem act_of_write {action : Action} {write : Api HttpService.ProgressResponse} {w' : World}
    {response : HttpService.ProgressResponse}
    (hhandle : (showing site.server user g).handle site conv action =
      write >>= refreshIf site (showing site.server user g))
    (hexit : (env.exec write w).exit = .ok response) (hstate : (env.exec write w).state = w')
    (hw' : OnlyUser w'.graph username user) :
    act site conv env action (showing site.server user g, w) =
      if response.success then (if (env.outcome w'.clock).returnsRow then
          showing site.server user w'.graph else lost, ⟨w'.graph, w'.clock + 1⟩)
        else (showing site.server user g, w') := by
  rw [act, hhandle, exec_bind, Execution.exit_andThen hexit, Execution.state_andThen hexit, hstate]
  exact exec_refreshIf account env hw' response

theorem act_of_none {action : Action} (h : action.statement conv user.id g = none) :
    act site conv env action (showing site.server user g, w) = (showing site.server user g, w) := by
  cases action with
  | mark node levelOrScore date proofUrl =>
      rw [act, DomainPage.handle, handleMarkComplete, userElementId_showing site.server g account.id]
      cases htarget : node.elementId.filter (· ≠ "") with
      | none => rfl
      | some target =>
          cases htype : relationshipType node.type with
          | none => rfl
          | some type =>
              rw [Action.statement, htarget, htype] at h
              cases h
  | remove elementId =>
      rw [act, DomainPage.handle, handleRemoveProgress, get_relationshipIdMap_showing,
        Option.map_eq_none_iff.1 h]
      rfl

theorem act_of_some {action : Action} {q : Statement} (hw : OnlyUser w.graph username user)
    (h : action.statement conv user.id g = some q) :
    act site conv env action (showing site.server user g, w) =
      let o := env.outcome w.clock
      let g' := o.after q w.graph
      if action.acknowledged o (q w.graph).1 then
        (if (env.outcome (w.clock + 1)).returnsRow then showing site.server user g' else lost,
          ⟨g', w.clock + 2⟩)
      else (showing site.server user g, ⟨g', w.clock + 1⟩) := by
  have hafter : OnlyUser ((env.outcome w.clock).after q w.graph) username user :=
    hw.congr (action.nodes_after conv h _ _)
  cases action with
  | mark node levelOrScore date proofUrl =>
      obtain ⟨target, htarget, h⟩ := Option.bind_eq_some_iff.1 h
      obtain ⟨type, htype, rfl⟩ := Option.map_eq_some_iff.1 h
      obtain ⟨hstate, response, hexit, hsuccess⟩ := exec_createUserProgress conv env w user.id target
        type (progressProperties node.type levelOrScore date proofUrl)
      have hhandle : (showing site.server user g).handle site conv
          (.mark node levelOrScore date proofUrl) =
          HttpService.createUserProgress conv user.id target (some type)
            (progressProperties node.type levelOrScore date proofUrl) >>=
            refreshIf site (showing site.server user g) := by
        rw [DomainPage.handle, handleMarkComplete, userElementId_showing site.server g account.id,
          htarget, htype]
        rfl
      rw [act_of_write account env hhandle hexit hstate hafter, hsuccess]
      rfl
  | remove elementId =>
      obtain ⟨relId, hrelId, rfl⟩ := Option.map_eq_some_iff.1 h
      obtain ⟨hstate, response, hexit, hsuccess⟩ := exec_deleteUserProgress env w relId
      have hhandle : (showing site.server user g).handle site conv (.remove elementId) =
          HttpService.deleteUserProgress relId >>= refreshIf site (showing site.server user g) := by
        rw [DomainPage.handle, handleRemoveProgress, get_relationshipIdMap_showing, hrelId]
        rfl
      rw [act_of_write account env hhandle hexit hstate hafter, hsuccess]
      rfl

omit account in
theorem act_lost (action : Action) : act site conv env action (lost, w) = (lost, w) := by
  cases action with
  | mark node levelOrScore date proofUrl => rfl
  | remove elementId => rfl

end Steps

end AtlasOfUs.Viewer
