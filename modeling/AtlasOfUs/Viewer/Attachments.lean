import AtlasOfUs.GraphApi.NodeCreation
import AtlasOfUs.ObjectStore
import AtlasOfUs.Viewer.ProgressRuns

namespace AtlasOfUs.Viewer

open Library GraphApi BoltMapping Profile Editor ObjectStore

structure ProofFile where
  name : String
  data : Bytes

/-- What becomes of an attachment: a window shows it, or it is stored under a name. -/
inductive Attachment
  | opened (data : Bytes) (type : String)
  | downloaded (data : Bytes) (filename : List Char)

section Panel

def uploadProofFile (elementId : Option ElementId) (proofFile : Option ProofFile) (timestamp : Nat)
    (fate : Fate) (store : Store) : Option String × Store :=
  match proofFile, elementId with
  | some file, some id =>
      let key := proofKey id timestamp file.name
      match uploadS3Object (uploadQuery key) file.data fate store with
      | (.ok _, store) => (some key, store)
      | (.error _, store) => (none, store)
  | _, _ => (none, store)

/-- `userProofUrl`, which the page hands to the panel of the node. -/
def DomainPage.userProofUrl (page : DomainPage) (elementId : ElementId) : Option String :=
  ((page.userProgressMap.get elementId).bind (·.lookup "proof_url")).bind Json.asStr

def viewableTypes : List String := ["image/", "application/pdf"]

def canView (type : String) : Bool := viewableTypes.any fun t => type.startsWith t

def openOrDownload (data : Bytes) (type : String) (filename : List Char) : Attachment :=
  if canView type then .opened data type else .downloaded data filename

/-- The browser reads the type of the blob from the header of the response. -/
def handleViewAttachment (infer : Bytes → Option String) (blobType : String → String)
    (userProofUrl : Option String) (fate : Fate) (store : Store) : Option Attachment :=
  (userProofUrl.filter (· ≠ "")).bind fun key =>
    ((returnS3Object infer (objectQuery key) fate store).toOption).map fun (data, type) =>
      openOrDownload data (blobType type) (cleanFilename key)

/-- What happens on the page of a domain, and to the objects, while somebody else uses them too. -/
inductive PanelEvent
  | save (node : CanvasNode) (levelOrScore : LevelOrScore) (date : String)
      (proofFile : Option ProofFile) (timestamp : Nat) (fate : Fate)
  | remove (elementId : ElementId)
  | foreign (bucket key : String) (data : Bytes)

abbrev PanelState := (DomainPage × World) × Store

def PanelEvent.step (site : Site) (conv : Conversion) (env : Env) (event : PanelEvent)
    (s : PanelState) : PanelState :=
  match event with
  | .save node levelOrScore date proofFile timestamp fate =>
      let (proofUrl, store) := uploadProofFile node.elementId proofFile timestamp fate s.2
      (act site conv env (.mark node levelOrScore date proofUrl) s.1, store)
  | .remove elementId => (act site conv env (.remove elementId) s.1, s.2)
  | .foreign bucket key data => (s.1, s.2.put bucket key data)

end Panel

section Events

def uploaded (elementId : Option ElementId) (proofFile : Option ProofFile) (timestamp : Nat)
    (fate : Fate) : Option String :=
  match elementId, proofFile, fate with
  | some id, some file, .done =>
      if file.data = [] then none else some (proofKey id timestamp file.name)
  | _, _, _ => none

theorem uploaded_some (id : ElementId) (file : ProofFile) (timestamp : Nat) (fate : Fate) :
    uploaded (some id) (some file) timestamp fate =
      if file.data ≠ [] ∧ fate = .done then some (proofKey id timestamp file.name) else none := by
  cases fate
  case done =>
      change (if file.data = [] then none else _) = _
      by_cases hempty : file.data = []
      · rw [if_pos hempty, if_neg fun h => h.1 hempty]
      · rw [if_neg hempty, if_pos ⟨hempty, rfl⟩]
  all_goals exact (if_neg fun h => by cases h.2).symm

theorem uploadProofFile_some (id : ElementId) (file : ProofFile) (timestamp : Nat) (fate : Fate)
    (store : Store) :
    uploadProofFile (some id) (some file) timestamp fate store =
      match uploadS3Object (uploadQuery (proofKey id timestamp file.name)) file.data fate store with
      | (.ok _, store) => (some (proofKey id timestamp file.name), store)
      | (.error _, store) => (none, store) := rfl

theorem uploaded_eq_some {elementId : Option ElementId} {proofFile : Option ProofFile}
    {timestamp : Nat} {fate : Fate} {key : String}
    (h : uploaded elementId proofFile timestamp fate = some key) :
    ∃ id file, elementId = some id ∧ proofFile = some file ∧ fate = .done ∧ file.data ≠ [] ∧
      key = proofKey id timestamp file.name := by
  unfold uploaded at h
  split at h
  case h_1 id file =>
      by_cases hempty : file.data = []
      · rw [if_pos hempty] at h
        cases h
      · rw [if_neg hempty] at h
        exact ⟨id, file, rfl, rfl, rfl, hempty, (Option.some.inj h).symm⟩
  case h_2 => cases h

theorem proofKey_ne (elementId : String) (timestamp : Nat) (name : String) :
    proofKey elementId timestamp name ≠ "" := by
  intro hempty
  have hlist := toList_proofKey elementId timestamp name
  rw [hempty] at hlist
  cases hlist

def proofObject (elementId : Option ElementId) (proofFile : Option ProofFile) (timestamp : Nat)
    (fate : Fate) : Option (String × String × Bytes) :=
  match elementId, proofFile with
  | some id, some file =>
      if file.data ≠ [] ∧ (fate = .done ∨ fate = .failed true) then
        some (bucketName, proofKey id timestamp file.name, file.data)
      else none
  | _, _ => none

theorem uploadProofFile_eq (elementId : Option ElementId) (proofFile : Option ProofFile)
    (timestamp : Nat) (fate : Fate) (store : Store) :
    uploadProofFile elementId proofFile timestamp fate store =
      (uploaded elementId proofFile timestamp fate,
        ((proofObject elementId proofFile timestamp fate).map
          fun o => store.put o.1 o.2.1 o.2.2).getD store) := by
  cases proofFile with
  | none => cases elementId <;> rfl
  | some file =>
      cases elementId with
      | none => rfl
      | some id =>
          rw [uploadProofFile_some, uploaded_some, proofObject]
          by_cases hempty : file.data = []
          · rw [hempty, uploadS3Object_nil (ofQuery_uploadQuery _)]
            simp
          · rw [uploadS3Object_of_ne hempty (ofQuery_uploadQuery _)]
            rcases fate with - | (- | -) | - <;> simp [hempty]

def PanelEvent.action : PanelEvent → Option Action
  | .save node levelOrScore date proofFile timestamp fate =>
      some (.mark node levelOrScore date (uploaded node.elementId proofFile timestamp fate))
  | .remove elementId => some (.remove elementId)
  | .foreign .. => none

def PanelEvent.written : PanelEvent → Option (String × String × Bytes)
  | .save node _ _ proofFile timestamp fate => proofObject node.elementId proofFile timestamp fate
  | .remove _ => none
  | .foreign bucket key data => some (bucket, key, data)

/-- An event is an action on the page, if it is any, and beside it a write to the objects. -/
theorem PanelEvent.step_eq (site : Site) (conv : Conversion) (env : Env) (event : PanelEvent)
    (s : PanelState) : event.step site conv env s =
      ((event.action.map fun action => act site conv env action s.1).getD s.1,
        (event.written.map fun o => s.2.put o.1 o.2.1 o.2.2).getD s.2) := by
  cases event with
  | save node levelOrScore date proofFile timestamp fate =>
      rw [step, uploadProofFile_eq]
      rfl
  | remove elementId => rfl
  | foreign bucket key data => rfl

end Events

section Sources

variable {conv : Conversion} {user : ElementId} {origin origin' : ElementId → String → Prop}
  {shown g : Graph}

def Sourced (user : ElementId) (origin : ElementId → String → Prop) (g : Graph) : Prop :=
  ∀ e ∈ g.edges, IsProgress user e → ∀ key, e.props "proof_url" = some (.str key) →
    origin e.target key

theorem Sourced.mono (h : Sourced user origin g) (himp : ∀ id key, origin id key → origin' id key) :
    Sourced user origin' g := fun e he hprogress key hkey => himp _ _ (h e he hprogress key hkey)

def Action.Lays : Action → ElementId → String → Prop
  | .mark node _ _ proofUrl, id, key => node.elementId = some id ∧ proofUrl = some key
  | .remove _, _, _ => False

theorem get_proofUrl (type : NodeType) (levelOrScore : LevelOrScore) (date : String)
    (proofUrl : Option String) : (progressProperties type levelOrScore date proofUrl).get "proof_url" =
      (proofUrl.filter (· ≠ "")).map Json.str := by
  have hcompletion : (completion type levelOrScore date).toList.lookup "proof_url" = none := by
    cases type <;> rfl
  rw [PropertyMap.get, progressProperties, List.lookup_append, hcompletion]
  cases proofUrl.filter (· ≠ "") <;> rfl

theorem assign_proofUrl (type : NodeType) (levelOrScore : LevelOrScore) (date : String)
    (proofUrl : Option String) (props : Props) :
    assign (assigned conv (progressProperties type levelOrScore date proofUrl)) props "proof_url" =
      ((proofUrl.filter (· ≠ "")).map Value.str).or (props "proof_url") := by
  rw [assign, PropertyMap.lookup_assignments
    (assignments_progressProperties conv type levelOrScore date proofUrl), get_proofUrl]
  cases proofUrl.filter (· ≠ "") <;> rfl

theorem Sourced.statement {action : Action} {q : Statement} (h : Sourced user origin g)
    (hq : action.statement conv user shown = some q)
    (hlays : ∀ id key, action.Lays id key → origin id key) : Sourced user origin (q g).2 := by
  cases action with
  | remove elementId =>
      obtain ⟨relId, -, rfl⟩ := Option.map_eq_some_iff.1 hq
      exact fun e he => h e (List.mem_of_mem_filter he)
  | mark node levelOrScore date proofUrl =>
      obtain ⟨target, htarget, hq⟩ := Option.bind_eq_some_iff.1 hq
      obtain ⟨type, -, rfl⟩ := Option.map_eq_some_iff.1 hq
      have hnew : ∀ key, ((proofUrl.filter (· ≠ "")).map Value.str) = some (.str key) →
          origin target key := by
        intro key hkey
        obtain ⟨url, hurl, hvalue⟩ := Option.map_eq_some_iff.1 hkey
        obtain rfl := Value.str.inj hvalue
        exact hlays target url ⟨(Option.filter_eq_some_iff.1 htarget).1,
          (Option.filter_eq_some_iff.1 hurl).1⟩
      rw [markStatement_eq]
      intro e he hprogress key hkey
      rcases Graph.mem_mergeEdge.1 he with ⟨he, -⟩ | ⟨r, hr, hb, rfl⟩ | ⟨-, -, -, rfl⟩
      · exact h e he hprogress key hkey
      · change assign _ r.props "proof_url" = _ at hkey
        rw [assign_proofUrl, Option.or_eq_some_iff] at hkey
        rcases hkey with hkey | ⟨-, hkey⟩
        · change origin r.target key
          rw [(Graph.between_iff.1 hb).2.2]
          exact hnew key hkey
        · exact h r hr hprogress key hkey
      · change assign _ Props.empty "proof_url" = _ at hkey
        rw [assign_proofUrl, Option.or_eq_some_iff] at hkey
        rcases hkey with hkey | ⟨-, hkey⟩
        · exact hnew key hkey
        · cases hkey

end Sources

section Runs

variable {site : Site} {conv : Conversion} {env : Env} {username : String} {user : Node}
  {origin origin' : ElementId → String → Prop} {g : Graph} {s : DomainPage × World}

structure Traced (site : Site) (user : Node) (origin : ElementId → String → Prop) (g : Graph)
    (s : DomainPage × World) : Prop where
  frame : OnlyEdges (IsProgress user.id) g s.2.graph
  kept : Sourced user.id origin s.2.graph
  page : s.1 = lost ∨ ∃ shown, s.1 = showing site.server user shown ∧
    Sourced user.id origin shown ∧ Recognised user.id shown s.2.graph

theorem Traced.mono (h : Traced site user origin g s)
    (himp : ∀ id key, origin id key → origin' id key) : Traced site user origin' g s where
  frame := h.frame
  kept := h.kept.mono himp
  page := h.page.imp_right fun ⟨shown, hpage, hshown, hrecognised⟩ =>
    ⟨shown, hpage, hshown.mono himp, hrecognised⟩

variable (account : Account site username user) {action : Action}
include account

/-- Beside the page an action leaves a graph that is as it was, or as the statement has it. -/
theorem graph_act (hw : OnlyUser s.2.graph username user) {shown : Graph}
    (hpage : s.1 = showing site.server user shown) :
    (act site conv env action s).2.graph = s.2.graph ∨
      ∃ q, action.statement conv user.id shown = some q ∧
        (act site conv env action s).2.graph = (q s.2.graph).2 := by
  have hs : s = (showing site.server user shown, s.2) := Prod.ext hpage rfl
  rw [hs]
  cases hq : action.statement conv user.id shown with
  | none => exact .inl (by rw [act_of_none account env hq])
  | some q =>
      have hafter : (env.outcome s.2.clock).after q s.2.graph = s.2.graph ∨
          (env.outcome s.2.clock).after q s.2.graph = (q s.2.graph).2 := by
        unfold Outcome.after
        split
        · exact .inr rfl
        · exact .inl rfl
      have hgraph : (act site conv env action (showing site.server user shown, s.2)).2.graph =
          (env.outcome s.2.clock).after q s.2.graph := by
        rw [act_of_some account env hw hq]
        simp only []
        split <;> rfl
      rw [hgraph]
      exact hafter.imp_right fun h => ⟨q, rfl, h⟩

theorem Traced.act (hg : OnlyUser g username user) (h : Traced site user origin g s)
    (hlays : ∀ id key, action.Lays id key → origin id key) :
    Traced site user origin g (act site conv env action s) := by
  rcases h.page with hlost | ⟨shown, hpage, hshown, hrecognised⟩
  · have hs : s = (lost, s.2) := Prod.ext hlost rfl
    rw [hs, act_lost, ← hs]
    exact h
  · have hw : OnlyUser s.2.graph username user := hg.congr h.frame.nodes
    have hs : s = (showing site.server user shown, s.2) := Prod.ext hpage rfl
    obtain ⟨hframe, hcases⟩ := act_cases conv env account hw hrecognised action
    rw [← hs] at hframe hcases
    have hkept : Sourced user.id origin (Viewer.act site conv env action s).2.graph := by
      rcases graph_act account hw hpage with hgraph | ⟨q, hq, hgraph⟩
      · exact hgraph ▸ h.kept
      · exact hgraph ▸ h.kept.statement hq hlays
    refine ⟨OnlyEdges.trans h.frame hframe, hkept, ?_⟩
    rcases hcases with ⟨-, hpage⟩ | ⟨-, hpage⟩ | ⟨-, -, hpage⟩
    · exact .inr ⟨shown, hpage, hshown, hrecognised.mono hframe⟩
    · exact .inr ⟨_, hpage, hkept, recognised_self _ _⟩
    · exact .inl hpage

end Runs

section Panel

variable (site : Site) (conv : Conversion) (user : Node) (env : Env)

/-- The page with the world, and the objects, before the `k`-th event. -/
def panelAt (w : World) (store : Store) (events : List PanelEvent) (k : Nat) : PanelState :=
  stateAt (PanelEvent.step site conv env) events ((showing site.server user w.graph, w), store) k

/-- The file was uploaded for the node by the `j`-th event, and has this key. -/
def SavedAt (events : List PanelEvent) (j : Nat) (id : ElementId) (key : String) (file : ProofFile) :
    Prop :=
  ∃ node levelOrScore date timestamp,
    events[j]? = some (.save node levelOrScore date (some file) timestamp .done) ∧
      node.elementId = some id ∧ file.data ≠ [] ∧ key = proofKey id timestamp file.name

/-- No event after the `j`-th writes an object of this key. -/
def Unwritten (events : List PanelEvent) (j k : Nat) (key : String) : Prop :=
  ∀ i event, j < i → i < k → events[i]? = some event → ∀ o, event.written = some o →
    (o.1, o.2.1) ≠ (bucketName, key)

def KeyOf (w : World) (events : List PanelEvent) (k : Nat) (id : ElementId) (key : String) : Prop :=
  (∃ e ∈ w.graph.edges, IsProgress user.id e ∧ e.target = id ∧
    e.props "proof_url" = some (.str key)) ∨ ∃ j < k, ∃ file, SavedAt events j id key file

variable {site conv user env} {username : String} {w : World} {store : Store}
  {events : List PanelEvent} {k j : Nat} {id : ElementId} {key : String} {file : ProofFile}

theorem panelAt_succ {event : PanelEvent} (h : events[k]? = some event) :
    panelAt site conv user env w store events (k + 1) =
      event.step site conv env (panelAt site conv user env w store events k) :=
  stateAt_succ _ h _

theorem panelAt_succ_of_none (h : events[k]? = none) :
    panelAt site conv user env w store events (k + 1) =
      panelAt site conv user env w store events k :=
  stateAt_succ_of_none _ h _

theorem KeyOf.succ (h : KeyOf user w events k id key) : KeyOf user w events (k + 1) id key :=
  h.imp_right fun ⟨j, hj, hfile⟩ => ⟨j, Nat.lt_succ_of_lt hj, hfile⟩

theorem keyOf_of_lays {event : PanelEvent} {action : Action} (hk : events[k]? = some event)
    (haction : event.action = some action) (h : action.Lays id key) :
    KeyOf user w events (k + 1) id key := by
  cases event with
  | foreign bucket key data => cases haction
  | remove elementId =>
      obtain rfl := Option.some.inj haction
      cases h
  | save node levelOrScore date proofFile timestamp fate =>
      obtain rfl := Option.some.inj haction
      obtain ⟨hid, hkey⟩ := h
      obtain ⟨id', file, hid', rfl, rfl, hdata, hkey⟩ := uploaded_eq_some hkey
      obtain rfl := Option.some.inj (hid.symm.trans hid')
      exact .inr ⟨k, Nat.lt_succ_self k, file, node, levelOrScore, date, timestamp, hk, hid, hdata,
        hkey⟩

theorem traced_panelAt (account : Account site username user) (hw : OnlyUser w.graph username user)
    (store : Store) (events : List PanelEvent) (k : Nat) :
    Traced site user (KeyOf user w events k) w.graph
      (panelAt site conv user env w store events k).1 := by
  induction k with
  | zero =>
      have hsourced : Sourced user.id (KeyOf user w events 0) w.graph :=
        fun e he hprogress key hkey => .inl ⟨e, he, hprogress, rfl, hkey⟩
      exact ⟨.refl _ _, hsourced, .inr ⟨w.graph, rfl, hsourced, recognised_self _ _⟩⟩
  | succ k ih =>
      have hmono : Traced site user (KeyOf user w events (k + 1)) w.graph
          (panelAt site conv user env w store events k).1 := ih.mono fun _ _ => KeyOf.succ
      cases hk : events[k]? with
      | none =>
          rw [panelAt_succ_of_none hk]
          exact hmono
      | some event =>
          rw [panelAt_succ hk, event.step_eq]
          cases haction : event.action with
          | none => exact hmono
          | some action =>
              exact hmono.act account hw fun id key hlays => keyOf_of_lays hk haction hlays

theorem object_stays (h : SavedAt events j id key file) (hjk : j < k)
    (hunwritten : Unwritten events j k key) :
    (panelAt site conv user env w store events k).2 bucketName key = some file.data := by
  induction k with
  | zero => exact absurd hjk (Nat.not_lt_zero j)
  | succ k ih =>
      rcases Nat.lt_succ_iff_lt_or_eq.1 hjk with hlt | rfl
      · have hbefore := ih hlt fun i event hji hik => hunwritten i event hji (Nat.lt_succ_of_lt hik)
        cases hk : events[k]? with
        | none =>
            rw [panelAt_succ_of_none hk, hbefore]
        | some event =>
            rw [panelAt_succ hk, event.step_eq]
            cases hwritten : event.written with
            | none => exact hbefore
            | some o =>
                have hother := hunwritten k event hlt (Nat.lt_succ_self k) hk o hwritten
                refine (Store.put_of_ne _ _ ?_).trans hbefore
                rintro ⟨hbucket, hkey⟩
                exact hother (Prod.ext hbucket.symm hkey.symm)
      · obtain ⟨node, levelOrScore, date, timestamp, hj, hid, hdata, rfl⟩ := h
        have hwritten : (PanelEvent.save node levelOrScore date (some file) timestamp .done).written =
            some (bucketName, proofKey id timestamp file.name, file.data) := by
          rw [PanelEvent.written, hid]
          exact if_pos ⟨hdata, .inl rfl⟩
        rw [panelAt_succ hj, PanelEvent.step_eq, hwritten]
        simp only [Option.map_some, Option.getD_some, Store.put_self]

theorem view_of_object {infer : Bytes → Option String} {blobType : String → String} {store : Store}
    {timestamp : Nat} (h : store bucketName (proofKey id timestamp file.name) = some file.data) :
    handleViewAttachment infer blobType (some (proofKey id timestamp file.name)) .done store =
      some (openOrDownload file.data (blobType (contentType infer file.data))
        (sanitizedName file.name)) := by
  obtain ⟨-, hkey, hname⟩ := proofKey_kept id timestamp file.name
  have hfilter : (some (proofKey id timestamp file.name)).filter (· ≠ "") =
      some (proofKey id timestamp file.name) :=
    Option.filter_some_pos (decide_eq_true (proofKey_ne id timestamp file.name))
  rw [handleViewAttachment, hfilter, Option.bind_some, returnS3Object, hkey, hname]
  simp only [h]
  rfl

theorem mem_of_userProofUrl {shown : Graph}
    (h : (showing site.server user shown).userProofUrl id = some key) :
    ∃ e ∈ shown.edges, IsProgress user.id e ∧ e.target = id ∧
      e.props "proof_url" = some (.str key) := by
  rw [DomainPage.userProofUrl, get_userProgressMap_showing] at h
  obtain ⟨value, h, hvalue⟩ := Option.bind_eq_some_iff.1 h
  obtain ⟨props, hprops, hlookup⟩ := Option.bind_eq_some_iff.1 h
  obtain ⟨e, he, rfl⟩ := Option.map_eq_some_iff.1 hprops
  obtain ⟨hmem, hprogress, htarget⟩ := mem_of_progressEdge he
  refine ⟨e, hmem, hprogress, htarget, ?_⟩
  rw [Server.properties, lookup_listed] at hlookup
  obtain ⟨v, hv, rfl⟩ := Option.map_eq_some_iff.1 hlookup
  split at hv
  · rw [hv]
    cases v with
    | str text =>
        obtain rfl := Option.some.inj hvalue
        rfl
    | bool _ | int _ | float _ | list _ => cases hvalue
  · cases hv

/-- What the page offers for a node is a file that was there at first or has been uploaded for this
node since; and unless another object was written over it, that file is what a window shows, or what is
stored under the name that the upload made of its own. -/
theorem userProofUrl_stands (infer : Bytes → Option String) (blobType : String → String)
    (account : Account site username user) (hw : OnlyUser w.graph username user) (store : Store)
    (events : List PanelEvent) (k : Nat)
    (h : (panelAt site conv user env w store events k).1.1.userProofUrl id = some key) :
    (∃ e ∈ w.graph.edges, IsProgress user.id e ∧ e.target = id ∧
        e.props "proof_url" = some (.str key)) ∨
      ∃ j < k, ∃ file, SavedAt events j id key file ∧ (Unwritten events j k key →
        handleViewAttachment infer blobType (some key) .done
            (panelAt site conv user env w store events k).2 =
          some (openOrDownload file.data (blobType (contentType infer file.data))
            (sanitizedName file.name))) := by
  have htraced : Traced site user (KeyOf user w events k) w.graph
      (panelAt site conv user env w store events k).1 := traced_panelAt account hw store events k
  rcases htraced.page with hlost | ⟨shown, hpage, hshown, -⟩
  · rw [hlost] at h
    cases h
  · rw [hpage] at h
    obtain ⟨e, he, hprogress, rfl, hkey⟩ := mem_of_userProofUrl h
    refine (hshown e he hprogress key hkey).imp_right ?_
    rintro ⟨j, hj, file, hsaved⟩
    refine ⟨j, hj, file, hsaved, fun hunwritten => ?_⟩
    have hobject : (panelAt site conv user env w store events k).2 bucketName key =
        some file.data := object_stays hsaved hj hunwritten
    obtain ⟨node, levelOrScore, date, timestamp, -, -, -, rfl⟩ := hsaved
    exact view_of_object hobject

end Panel

section Kept

/-- The key of the file that is kept for a node, after an event. -/
def PanelEvent.keep (nodeIds : List ElementId) (id : ElementId) (key : Option String) :
    PanelEvent → Option String
  | .save node _ _ proofFile timestamp fate =>
      if node.elementId = some id ∧ id ≠ "" ∧ id ∈ nodeIds ∧ node.type ≠ .level then
        (uploaded node.elementId proofFile timestamp fate).or key
      else key
  | .remove elementId => if id = elementId then none else key
  | .foreign .. => key

def Record.key (r : Record) (id : ElementId) : Option String :=
  (r id).bind fun props => ((props "proof_url").map Value.toJson).bind Json.asStr

variable {conv : Conversion} {nodeIds : List ElementId} {id : ElementId}

theorem key_apply (r : Record) {event : PanelEvent} {action : Action}
    (h : event.action = some action) :
    Record.key (action.apply conv nodeIds r) id = event.keep nodeIds id (r.key id) := by
  cases event with
  | foreign bucket key data => cases h
  | remove elementId =>
      obtain rfl := Option.some.inj h
      change Option.bind (if id = elementId then none else r id) _ = if id = elementId then none else _
      split <;> rfl
  | save node levelOrScore date proofFile timestamp fate =>
      obtain rfl := Option.some.inj h
      change Option.bind (if _ then some _ else r id) _ = if _ then _ else _
      split
      · have hfilter : (uploaded node.elementId proofFile timestamp fate).filter (· ≠ "") =
            uploaded node.elementId proofFile timestamp fate := by
          cases hkey : uploaded node.elementId proofFile timestamp fate with
          | none => rfl
          | some key =>
              obtain ⟨id', file, -, -, -, -, rfl⟩ := uploaded_eq_some hkey
              exact Option.filter_some_pos (decide_eq_true (proofKey_ne _ _ _))
        rw [Option.bind_some, assign_proofUrl, hfilter]
        cases uploaded node.elementId proofFile timestamp fate with
        | some key => rfl
        | none => cases hr : r id <;> simp [Record.key, hr, Props.empty]
      · rfl

variable {site : Site} {username : String} {user : Node} {env : Env} {kind : ElementId → String}
  {w : World}

theorem userProofUrl_showing (hlisted : "proof_url" ∈ site.server.propertyKeys) (g : Graph)
    (id : ElementId) :
    (showing site.server user g).userProofUrl id = Record.key (record user.id g) id := by
  rw [DomainPage.userProofUrl, get_userProgressMap_showing, Record.key, record]
  cases progressEdge g user.id id with
  | none => rfl
  | some e =>
      simp only [Option.map_some, Option.bind_some]
      rw [lookup_properties hlisted]

variable (conv env) in
/-- Before each event the page shows the progress, and the key is the one that the events before it
make of the first. -/
theorem panelAt_done (account : Account site username user) (hdone : ∀ n, env.outcome n = .done)
    (hw : InOrder username user kind w.graph) (store : Store) (events : List PanelEvent)
    (hfits : ∀ event ∈ events, ∀ action, event.action = some action → action.Fits kind) (k : Nat)
    (id : ElementId) :
    ∃ w', (panelAt site conv user env w store events k).1 =
        (showing site.server user w'.graph, w') ∧ InOrder username user kind w'.graph ∧
      w'.graph.nodes = w.graph.nodes ∧ Record.key (record user.id w'.graph) id =
        (events.take k).foldl (PanelEvent.keep w.graph.nodeIds id)
          (Record.key (record user.id w.graph) id) := by
  induction k with
  | zero => exact ⟨w, rfl, hw, rfl, rfl⟩
  | succ k ih =>
      obtain ⟨w', hpage, horder, hnodes, hkey⟩ := ih
      cases hk : events[k]? with
      | none =>
          rw [panelAt_succ_of_none hk, List.take_add_one, hk, Option.toList_none, List.append_nil]
          exact ⟨w', hpage, horder, hnodes, hkey⟩
      | some event =>
          have hmem : event ∈ events := List.mem_of_getElem? hk
          rw [panelAt_succ hk, event.step_eq, List.take_add_one, hk, Option.toList_some,
            List.foldl_append, ← hkey, hpage]
          cases haction : event.action with
          | none =>
              refine ⟨w', rfl, horder, hnodes, ?_⟩
              cases event with
              | foreign bucket key data => rfl
              | save node levelOrScore date proofFile timestamp fate => cases haction
              | remove elementId => cases haction
          | some action =>
              have hstep : ∃ w'', act site conv env action (showing site.server user w'.graph, w') =
                    (showing site.server user w''.graph, w'') ∧
                  InOrder username user kind w''.graph ∧
                  OnlyEdges (IsProgress user.id) w'.graph w''.graph ∧
                  record user.id w''.graph =
                    action.apply conv w'.graph.nodeIds (record user.id w'.graph) := by
                have hfit := hfits event hmem action haction
                cases action with
                | mark node levelOrScore date proofUrl => exact act_mark account hdone horder hfit
                | remove elementId => exact act_remove account hdone horder elementId
              obtain ⟨w'', hact, horder', hframe, hrecord⟩ := hstep
              refine ⟨w'', hact, horder', hframe.nodes.trans hnodes, ?_⟩
              have hids : w'.graph.nodeIds = w.graph.nodeIds := by
                rw [Graph.nodeIds, hnodes, Graph.nodeIds]
              rw [hrecord, key_apply _ haction, hids]
              rfl

/-- Where the database does what it is asked, every node keeps the file that was uploaded last, also
when it is marked again without one, until its completion is removed. -/
theorem userProofUrl_refines (account : Account site username user)
    (hlisted : "proof_url" ∈ site.server.propertyKeys) (hdone : ∀ n, env.outcome n = .done)
    (hw : InOrder username user kind w.graph) (store : Store) (events : List PanelEvent)
    (hfits : ∀ event ∈ events, ∀ action, event.action = some action → action.Fits kind) (k : Nat)
    (id : ElementId) :
    (panelAt site conv user env w store events k).1.1.userProofUrl id =
      (events.take k).foldl (PanelEvent.keep w.graph.nodeIds id)
        (Record.key (record user.id w.graph) id) := by
  obtain ⟨w', hpage, -, -, hkey⟩ := panelAt_done conv env account hdone hw store events hfits k id
  rw [← hkey, hpage, userProofUrl_showing hlisted]

end Kept

section Ada

def proofSite : Site :=
  { adaSite with
    server := { userServer with propertyKeys := "proof_url" :: userServer.propertyKeys } }

theorem account_proofSite : Account proofSite "ada" ada :=
  ⟨plain_ada, by decide, by simp [ada, Auth.userProps, Props.set], by decide⟩

/-- A file is uploaded for a node, which is then marked again without one. -/
def saveTwice : List PanelEvent :=
  [.save ⟨.skill, none, some "4:1"⟩ (.level "Novice") "" (some ⟨"my photo.png", [7]⟩) 5 .done,
    .save ⟨.skill, none, some "4:1"⟩ (.level "Competent") "" none 9 .done]

theorem saveTwice_fits : ∀ event ∈ saveTwice, ∀ action, event.action = some action →
    action.Fits fun _ => "HAS_SKILL" := by
  intro event hevent action haction
  simp only [saveTwice, List.mem_cons, List.not_mem_nil, or_false] at hevent
  rcases hevent with rfl | rfl
  all_goals
    obtain rfl := Option.some.inj haction
    rintro id type - ⟨⟩
    rfl

theorem userProofUrl_refines_ada :
    (panelAt proofSite Wire.plainConversion ada .calm (.start (userAndDomain "hash")) (fun _ _ => none)
        saveTwice 2).1.1.userProofUrl "4:1" =
      (saveTwice.take 2).foldl (PanelEvent.keep (userAndDomain "hash").nodeIds "4:1")
        (Record.key (record ada.id (userAndDomain "hash")) "4:1") :=
  userProofUrl_refines account_proofSite List.mem_cons_self (fun _ => rfl)
    (w := .start (userAndDomain "hash")) inOrder_ada _ saveTwice saveTwice_fits 2 "4:1"

theorem userProofUrl_stands_ada :
    let events := saveTwice
    let w := World.start (userAndDomain "hash")
    let key := proofKey "4:1" 5 "my photo.png"
    (∃ e ∈ w.graph.edges, IsProgress ada.id e ∧ e.target = "4:1" ∧
        e.props "proof_url" = some (.str key)) ∨
      ∃ j < 2, ∃ file, SavedAt events j "4:1" key file ∧ (Unwritten events j 2 key →
        handleViewAttachment (fun _ => some "image/png") id (some key) .done
            (panelAt proofSite Wire.plainConversion ada .calm w (fun _ _ => none) events 2).2 =
          some (openOrDownload file.data (contentType (fun _ => some "image/png") file.data)
            (sanitizedName file.name))) :=
  userProofUrl_stands (fun _ => some "image/png") id account_proofSite inOrder_ada.present _ saveTwice 2 (by
    obtain ⟨w', hpage, -, -, hkey⟩ := panelAt_done Wire.plainConversion .calm account_proofSite
      (fun _ => rfl) (w := .start (userAndDomain "hash")) inOrder_ada (fun _ _ => none) saveTwice
      saveTwice_fits 2 "4:1"
    rw [hpage, userProofUrl_showing List.mem_cons_self, hkey]
    rfl)

end Ada

end AtlasOfUs.Viewer
