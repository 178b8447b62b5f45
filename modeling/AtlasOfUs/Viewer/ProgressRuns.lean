import AtlasOfUs.Viewer.ProgressActions
import AtlasOfUs.Library.Machine

namespace AtlasOfUs.Viewer

open Library GraphApi Profile

section Statements

variable (conv : Conversion)

theorem exists_stored_string (s : String) :
    ∃ v, (jsonValueToBoltType conv (.str s)).stored conv = some v := ⟨_, rfl⟩

theorem exists_stored_levelOrScore (levelOrScore : LevelOrScore) :
    ∃ v, (jsonValueToBoltType conv levelOrScore.toJson).stored conv = some v := by
  cases levelOrScore with
  | level name => exact ⟨_, rfl⟩
  | score number =>
      rw [LevelOrScore.toJson]
      split
      · rw [jsonValueToBoltType]
        split <;> exact ⟨_, rfl⟩
      · exact ⟨_, rfl⟩

theorem assignments_progressProperties (type : NodeType) (levelOrScore : LevelOrScore) (date : String)
    (proofUrl : Option String) :
    (progressProperties type levelOrScore date proofUrl).assignments conv =
      some (assigned conv (progressProperties type levelOrScore date proofUrl)) := by
  have hsome : ∀ entries : List (String × Json),
      (∀ kv ∈ entries, ∃ v, (jsonValueToBoltType conv kv.2).stored conv = some v) →
      ∃ as, entries.mapM (fun kv =>
        ((jsonValueToBoltType conv kv.2).stored conv).map fun v => (kv.1, v)) = some as := by
    intro entries h
    induction entries with
    | nil => exact ⟨[], rfl⟩
    | cons kv entries ih =>
        obtain ⟨v, hv⟩ := h kv List.mem_cons_self
        obtain ⟨as, has⟩ := ih fun kv' hkv' => h kv' (List.mem_cons_of_mem _ hkv')
        exact ⟨(kv.1, v) :: as, by rw [List.mapM_cons, hv, has]; rfl⟩
  obtain ⟨as, has⟩ := hsome (progressProperties type levelOrScore date proofUrl).entries (by
    intro kv hkv
    rcases List.mem_append.1 hkv with hkv | hkv
    · cases type with
      | knowledge | skill | trait =>
          obtain rfl := List.mem_singleton.1 hkv
          exact exists_stored_levelOrScore conv levelOrScore
      | milestone =>
          obtain rfl := List.mem_singleton.1 hkv
          exact exists_stored_string conv date
      | level => cases hkv
    · obtain ⟨url, -, rfl⟩ := Option.map_eq_some_iff.1 (Option.mem_toList.1 hkv)
      exact exists_stored_string conv url)
  have hassign : (progressProperties type levelOrScore date proofUrl).assignments conv = some as := has
  rw [assigned, hassign]
  rfl

theorem get_progressProperties (type : NodeType) (levelOrScore : LevelOrScore) (date : String)
    (proofUrl : Option String) {key : String}
    (hkey : key ∉ ["bloom_level", "dreyfus_level", "score", "date", "proof_url"]) :
    (progressProperties type levelOrScore date proofUrl).get key = none := by
  rw [PropertyMap.get, List.lookup_eq_none_iff]
  intro kv hkv
  rw [bne_iff_ne]
  rintro rfl
  apply hkey
  rcases List.mem_append.1 hkv with hkv | hkv
  · cases type <;> simp [completion] at hkv <;> simp [hkv]
  · obtain ⟨url, -, rfl⟩ := Option.map_eq_some_iff.1 (Option.mem_toList.1 hkv)
    simp

theorem markStatement_eq (user target : ElementId) (type : String) (nodeType : NodeType)
    (levelOrScore : LevelOrScore) (date : String) (proofUrl : Option String) (g : Graph) :
    let properties := progressProperties nodeType levelOrScore date proofUrl
    markStatement conv user target type properties g =
      let merged := g.mergeEdge type user target (assign (assigned conv properties))
      ((merged.edges.filter (Edge.between type user target)).map fun r => [("elementId", .str r.id)],
        merged) := by
  intro properties
  exact @Wire.mergeStatement_request _ ⟨user, target, type, some properties⟩ _
    (get_progressProperties _ _ _ _ (by decide)) (get_progressProperties _ _ _ _ (by decide))
    (assignments_progressProperties conv _ _ _ _) g

theorem relationshipType_mem {type : NodeType} {name : String} (h : relationshipType type = some name) :
    name ∈ completionTypes := by
  cases type <;> cases h <;> decide

end Statements

section Frame

variable {conv : Conversion} {user : ElementId} {g shown : Graph} {q : Statement}

def Recognised (user : ElementId) (shown g : Graph) : Prop :=
  ∀ e ∈ shown.edges, IsProgress user e → ∀ e' ∈ g.edges, e'.id = e.id → IsProgress user e'

theorem recognised_self (user : ElementId) (g : Graph) : Recognised user g g := by
  intro e he hprogress e' he' hid
  rwa [Graph.edge_eq_of_id he' he hid]

theorem mem_of_progressEdge {id : ElementId} {e : Edge} (h : progressEdge g user id = some e) :
    e ∈ g.edges ∧ IsProgress user e ∧ e.target = id := by
  obtain ⟨he, hselected⟩ := List.mem_filter.1 (List.mem_of_getLast? h)
  exact ⟨he, of_decide_eq_true hselected⟩

theorem onlyEdges_merge {type : String} {target : ElementId} {f : Props → Props}
    (htype : type ∈ completionTypes) :
    OnlyEdges (IsProgress user) g (g.mergeEdge type user target f) := by
  refine ⟨g.mergeEdge_nodes type user target f, fun e hother => ?_⟩
  have hbetween : ∀ r : Edge, Edge.between type user target r = true → IsProgress user r := by
    intro r hr
    obtain ⟨rfl, hsource, -⟩ := Graph.between_iff.1 hr
    exact ⟨hsource, htype⟩
  rw [Graph.mem_mergeEdge]
  constructor
  · rintro (⟨he, -⟩ | ⟨r, -, hr, rfl⟩ | ⟨-, -, -, rfl⟩)
    · exact he
    · exact absurd (hbetween r hr) hother
    · exact absurd ⟨rfl, htype⟩ hother
  · intro he
    exact .inl ⟨he, Bool.eq_false_iff.2 fun hr => hother (hbetween e hr)⟩

theorem Action.onlyEdges_statement {action : Action} (h : action.statement conv user shown = some q)
    (hrecognised : Recognised user shown g) : OnlyEdges (IsProgress user) g (q g).2 := by
  cases action with
  | mark node levelOrScore date proofUrl =>
      obtain ⟨target, -, h⟩ := Option.bind_eq_some_iff.1 h
      obtain ⟨type, htype, rfl⟩ := Option.map_eq_some_iff.1 h
      rw [markStatement_eq]
      exact onlyEdges_merge (relationshipType_mem htype)
  | remove elementId =>
      obtain ⟨relId, hrelId, rfl⟩ := Option.map_eq_some_iff.1 h
      obtain ⟨e, hedge, rfl⟩ := Option.map_eq_some_iff.1 (Option.filter_eq_some_iff.1 hrelId).1
      obtain ⟨he, hprogress, -⟩ := mem_of_progressEdge hedge
      refine ⟨rfl, fun e' hother => ?_⟩
      change e' ∈ g.edges.filter _ ↔ _
      rw [List.mem_filter, and_iff_left_of_imp]
      intro he'
      rw [Bool.not_eq_true', decide_eq_false_iff_not]
      exact fun hid => hother (hrecognised e he hprogress e' he' hid)

theorem OnlyEdges.trans {addressed : Edge → Prop} {g g' g'' : Graph} (h : OnlyEdges addressed g g')
    (h' : OnlyEdges addressed g' g'') : OnlyEdges addressed g g'' :=
  ⟨h'.nodes.trans h.nodes, fun e he => (h'.edges e he).trans (h.edges e he)⟩

theorem Recognised.mono {g' : Graph} (h : Recognised user shown g)
    (hframe : OnlyEdges (IsProgress user) g g') : Recognised user shown g' := by
  intro e he hprogress e' he' hid
  by_contra hother
  exact hother (h e he hprogress e' ((hframe.edges e' hother).1 he') hid)

end Frame

section Trace

variable (site : Site) (conv : Conversion) (user : Node) (env : Env)

/-- The page before the `k`-th action after it shows the progress, and the world. -/
def before (w : World) (actions : List Action) (k : Nat) : DomainPage × World :=
  stateAt (act site conv env) actions (showing site.server user w.graph, w) k

def Heard (shown : Graph) (w : World) (action : Action) : Prop :=
  ∃ q, action.statement conv user.id shown = some q ∧
    action.acknowledged (env.outcome w.clock) (q w.graph).1 = true

/-- The page, which shows the progress, is told that its `j`-th action succeeded. -/
def HeardAt (w : World) (actions : List Action) (j : Nat) : Prop :=
  ∃ action shown, actions[j]? = some action ∧
    (before site conv user env w actions j).1 = showing site.server user shown ∧
    Heard conv user env shown (before site conv user env w actions j).2 action

/-- The page shows the graph as it was after the last action that was heard of to have succeeded:
the one before the `j`-th, or none if `j` is 0. -/
structure UpToDate (w : World) (actions : List Action) (k j : Nat) : Prop where
  le : j ≤ k
  last : ∀ i, j = i + 1 → HeardAt site conv user env w actions i
  page : (before site conv user env w actions k).1 =
    showing site.server user (before site conv user env w actions j).2.graph
  unheard : ∀ i action, j ≤ i → i < k → actions[i]? = some action →
    ¬ Heard conv user env (before site conv user env w actions j).2.graph
      (before site conv user env w actions i).2 action

/-- The `j`-th action was heard of, but the refresh after it failed, and that was the last call. -/
structure LostAt (w : World) (actions : List Action) (k j : Nat) : Prop where
  lt : j < k
  state : before site conv user env w actions k = before site conv user env w actions (j + 1)
  page : (before site conv user env w actions k).1 = lost
  heard : HeardAt site conv user env w actions j
  failed : (env.outcome ((before site conv user env w actions j).2.clock + 1)).returnsRow = false

variable {site conv user env}

theorem LostAt.stays {w : World} {actions : List Action} {k j : Nat}
    (h : LostAt site conv user env w actions k j)
    (hsame : before site conv user env w actions (k + 1) = before site conv user env w actions k) :
    LostAt site conv user env w actions (k + 1) j where
  lt := Nat.lt_succ_of_lt h.lt
  state := hsame.trans h.state
  page := hsame ▸ h.page
  heard := h.heard
  failed := h.failed

variable {username : String} (account : Account site username user) {shown : Graph} {w : World}
include account

variable (conv env) in
/-- What one action does to a page that shows the progress as it was in some graph. -/
theorem act_cases (hw : OnlyUser w.graph username user) (hrecognised : Recognised user.id shown w.graph)
    (action : Action) :
    let s' := act site conv env action (showing site.server user shown, w)
    OnlyEdges (IsProgress user.id) w.graph s'.2.graph ∧
      ((¬ Heard conv user env shown w action ∧ s'.1 = showing site.server user shown) ∨
        (Heard conv user env shown w action ∧ s'.1 = showing site.server user s'.2.graph) ∨
        (Heard conv user env shown w action ∧ (env.outcome (w.clock + 1)).returnsRow = false ∧
          s'.1 = lost)) := by
  intro s'
  have hs' : s' = act site conv env action (showing site.server user shown, w) := rfl
  cases hq : action.statement conv user.id shown with
  | none =>
      rw [act_of_none account env hq] at hs'
      rw [hs']
      refine ⟨.refl _ _, .inl ⟨?_, rfl⟩⟩
      rintro ⟨q, hq', -⟩
      rw [hq] at hq'
      cases hq'
  | some q =>
      have hframe : OnlyEdges (IsProgress user.id) w.graph
          ((env.outcome w.clock).after q w.graph) := by
        unfold Outcome.after
        split
        · exact action.onlyEdges_statement hq hrecognised
        · exact .refl _ _
      rw [act_of_some account env hw hq] at hs'
      by_cases hheard : action.acknowledged (env.outcome w.clock) (q w.graph).1 = true
      · have hknown : Heard conv user env shown w action := ⟨q, hq, hheard⟩
        simp only [hheard, if_true] at hs'
        rw [hs']
        refine ⟨hframe, .inr ?_⟩
        split
        case isTrue => exact .inl ⟨hknown, rfl⟩
        case isFalse hfailed => exact .inr ⟨hknown, Bool.eq_false_iff.2 hfailed, rfl⟩
      · simp only [hheard] at hs'
        rw [hs']
        refine ⟨hframe, .inl ⟨?_, rfl⟩⟩
        rintro ⟨q', hq', hheard'⟩
        rw [hq] at hq'
        obtain rfl := Option.some.inj hq'
        exact hheard hheard'

/-- In every run of the page, however the database fails, the page touches nothing but progress of
its user. It shows the progress as the server had it when it last answered, or it has lost the
profile after a refresh that failed, and then nothing happens any more. -/
theorem domainPage_trace (hw : OnlyUser w.graph username user) (actions : List Action) (k : Nat) :
    OnlyEdges (IsProgress user.id) w.graph (before site conv user env w actions k).2.graph ∧
      ((∃ j, UpToDate site conv user env w actions k j) ∨
        ∃ j, LostAt site conv user env w actions k j) := by
  suffices h : OnlyEdges (IsProgress user.id) w.graph (before site conv user env w actions k).2.graph ∧
      ((∃ j, UpToDate site conv user env w actions k j ∧
          Recognised user.id (before site conv user env w actions j).2.graph
            (before site conv user env w actions k).2.graph) ∨
        ∃ j, LostAt site conv user env w actions k j) from
    ⟨h.1, h.2.imp_left fun ⟨j, hj, _⟩ => ⟨j, hj⟩⟩
  induction k with
  | zero =>
      refine ⟨.refl _ _, .inl ⟨0, ⟨Nat.le_refl 0, ?_, rfl, ?_⟩, recognised_self _ _⟩⟩
      · intro i hi
        cases hi
      · intro i action _ hi
        exact absurd hi (Nat.not_lt_zero i)
  | succ k ih =>
      obtain ⟨hframe, hpage⟩ := ih
      cases hk : actions[k]? with
      | none =>
          have hsame : before site conv user env w actions (k + 1) =
              before site conv user env w actions k := stateAt_succ_of_none _ hk _
          rw [hsame]
          refine ⟨hframe, hpage.imp ?_ fun ⟨j, hj⟩ => ⟨j, hj.stays hsame⟩⟩
          rintro ⟨j, hj, hrecognised⟩
          refine ⟨j, ⟨Nat.le_succ_of_le hj.le, hj.last, hsame ▸ hj.page, ?_⟩, hrecognised⟩
          intro i action hji hi hget
          rcases Nat.lt_succ_iff_lt_or_eq.1 hi with hi | rfl
          · exact hj.unheard i action hji hi hget
          · rw [hk] at hget
            cases hget
      | some action =>
          have hnext : before site conv user env w actions (k + 1) =
              act site conv env action (before site conv user env w actions k) :=
            stateAt_succ _ hk _
          rcases hpage with ⟨j, hj, hrecognised⟩ | ⟨j, hj⟩
          · have hstate : before site conv user env w actions k =
                (showing site.server user (before site conv user env w actions j).2.graph,
                  (before site conv user env w actions k).2) := Prod.ext hj.page rfl
            obtain ⟨hstep, hcases⟩ := act_cases conv env account
              (hw.congr hframe.nodes) hrecognised action
            rw [← hstate, ← hnext] at hstep hcases
            refine ⟨OnlyEdges.trans hframe hstep, ?_⟩
            have hlast (hheard : Heard conv user env (before site conv user env w actions j).2.graph
                (before site conv user env w actions k).2 action) :
                HeardAt site conv user env w actions k := ⟨action, _, hk, hj.page, hheard⟩
            rcases hcases with ⟨hunheard, hpage⟩ | ⟨hheard, hpage⟩ | ⟨hheard, hfailed, hpage⟩
            · refine .inl ⟨j, ⟨Nat.le_succ_of_le hj.le, hj.last, hpage, ?_⟩, hrecognised.mono hstep⟩
              intro i action' hji hi hget
              rcases Nat.lt_succ_iff_lt_or_eq.1 hi with hi | rfl
              · exact hj.unheard i action' hji hi hget
              · obtain rfl := Option.some.inj (hk.symm.trans hget)
                exact hunheard
            · refine .inl ⟨k + 1, ⟨Nat.le_refl _, ?_, hpage, ?_⟩, recognised_self _ _⟩
              · intro i hi
                obtain rfl := Nat.succ.inj hi
                exact hlast hheard
              · intro i action' hle hlt
                omega
            · exact .inr ⟨k, Nat.lt_succ_self k, rfl, hpage, hlast hheard, hfailed⟩
          · have hsame : before site conv user env w actions (k + 1) =
                before site conv user env w actions k := by
              rw [hnext]
              have hstate : before site conv user env w actions k =
                  (lost, (before site conv user env w actions k).2) := Prod.ext hj.page rfl
              rw [hstate, act_lost]
            rw [hsame]
            exact ⟨hframe, .inr ⟨j, hj.stays hsame⟩⟩

end Trace

/-- A user has one edge of progress on a node at most, of the type that the node asks for. -/
structure Tidy (kind : ElementId → String) (user : ElementId) (g : Graph) : Prop where
  kind : ∀ e ∈ g.edges, IsProgress user e → e.type = kind e.target
  single : ∀ e ∈ g.edges, ∀ e' ∈ g.edges, IsProgress user e → IsProgress user e' →
    e.target = e'.target → e = e'

structure Named (g : Graph) : Prop where
  edges : ∀ e ∈ g.edges, e.id ≠ ""
  supply : ∀ n ids, g.supply.fresh n ids ≠ ""

/-- A record of progress: the properties that are kept for each completed node. -/
abbrev Record := ElementId → Option Props

def record (user : ElementId) (g : Graph) : Record := fun id => (progressEdge g user id).map Edge.props

def Action.apply (conv : Conversion) (nodeIds : List ElementId) (r : Record) : Action → Record
  | .mark node levelOrScore date proofUrl => fun id =>
      if node.elementId = some id ∧ id ≠ "" ∧ id ∈ nodeIds ∧ node.type ≠ .level then
        some (assign (assigned conv (progressProperties node.type levelOrScore date proofUrl))
          ((r id).getD Props.empty))
      else r id
  | .remove elementId => fun id => if id = elementId then none else r id

section Tidy

variable {kind : ElementId → String} {user : ElementId} {g : Graph}

theorem Tidy.progressEdge_eq_some (h : Tidy kind user g) {id : ElementId} {e : Edge} :
    progressEdge g user id = some e ↔ e ∈ g.edges ∧ IsProgress user e ∧ e.target = id := by
  refine ⟨mem_of_progressEdge, fun ⟨he, hprogress, htarget⟩ => ?_⟩
  cases hlast : progressEdge g user id with
  | none =>
      rw [progressEdge, List.getLast?_eq_none_iff, List.filter_eq_nil_iff] at hlast
      exact absurd (decide_eq_true ⟨hprogress, htarget⟩) (hlast e he)
  | some e' =>
      obtain ⟨he', hprogress', htarget'⟩ := mem_of_progressEdge hlast
      rw [h.single e' he' e he hprogress' hprogress (htarget'.trans htarget.symm)]

theorem Tidy.progressEdge_eq_none (h : Tidy kind user g) {id : ElementId} :
    progressEdge g user id = none ↔ ∀ e ∈ g.edges, IsProgress user e → e.target ≠ id := by
  rw [Option.eq_none_iff_forall_ne_some]
  constructor
  · intro hnone e he hprogress htarget
    exact hnone e (h.progressEdge_eq_some.2 ⟨he, hprogress, htarget⟩)
  · intro hall e hsome
    obtain ⟨he, hprogress, htarget⟩ := h.progressEdge_eq_some.1 hsome
    exact hall e he hprogress htarget

theorem Tidy.progressEdge_congr {g' : Graph} (h : Tidy kind user g) (h' : Tidy kind user g')
    {id : ElementId} (hsame : ∀ e, IsProgress user e → e.target = id → (e ∈ g'.edges ↔ e ∈ g.edges)) :
    progressEdge g' user id = progressEdge g user id := by
  apply Option.ext
  intro e
  rw [h'.progressEdge_eq_some, h.progressEdge_eq_some]
  constructor
  · rintro ⟨he, hprogress, htarget⟩
    exact ⟨(hsame e hprogress htarget).1 he, hprogress, htarget⟩
  · rintro ⟨he, hprogress, htarget⟩
    exact ⟨(hsame e hprogress htarget).2 he, hprogress, htarget⟩

variable {type : String} {target : ElementId} {f : Props → Props}

theorem Tidy.merge (h : Tidy kind user g) (hkind : type = kind target) :
    Tidy kind user (g.mergeEdge type user target f) := by
  have hbetween : ∀ r ∈ g.edges, IsProgress user r → r.target = target →
      Edge.between type user target r = true := by
    intro r hr hprogress htarget
    exact Graph.between_iff.2 ⟨(h.kind r hr hprogress).trans (htarget ▸ hkind.symm), hprogress.1, htarget⟩
  have hnone : g.edges.any (Edge.between type user target) = false →
      ∀ r ∈ g.edges, Edge.between type user target r ≠ true := by
    intro hany r hr hb
    rw [List.any_eq_true.2 ⟨r, hr, hb⟩] at hany
    cases hany
  constructor
  · intro e he hprogress
    rcases Graph.mem_mergeEdge.1 he with ⟨he, -⟩ | ⟨r, hr, hb, rfl⟩ | ⟨-, -, -, rfl⟩
    · exact h.kind e he hprogress
    · exact h.kind r hr hprogress
    · exact hkind
  · intro e he e' he' hprogress hprogress' htarget
    rcases Graph.mem_mergeEdge.1 he with ⟨he, hb⟩ | ⟨r, hr, hb, rfl⟩ | ⟨hany, -, -, rfl⟩
    · have hother : e.target ≠ target := by
        intro heq
        rw [hbetween e he hprogress heq] at hb
        cases hb
      rcases Graph.mem_mergeEdge.1 he' with ⟨he', -⟩ | ⟨r', -, hb', rfl⟩ | ⟨-, -, -, rfl⟩
      · exact h.single e he e' he' hprogress hprogress' htarget
      · exact absurd (htarget.trans (Graph.between_iff.1 hb').2.2) hother
      · exact absurd htarget hother
    · have hsame := (Graph.between_iff.1 hb).2.2
      rcases Graph.mem_mergeEdge.1 he' with ⟨he', hb'⟩ | ⟨r', hr', -, rfl⟩ | ⟨hany, -, -, rfl⟩
      · rw [hbetween e' he' hprogress' (htarget.symm.trans hsame)] at hb'
        cases hb'
      · rw [h.single r hr r' hr' hprogress hprogress' htarget]
      · exact absurd hb (hnone hany r hr)
    · rcases Graph.mem_mergeEdge.1 he' with ⟨he', hb'⟩ | ⟨r', hr', hb', rfl⟩ | ⟨-, -, -, rfl⟩
      · rw [hbetween e' he' hprogress' htarget.symm] at hb'
        cases hb'
      · exact absurd hb' (hnone hany r' hr')
      · rfl

/-- The properties of the node are overwritten, or are there for the first time. -/
theorem Tidy.record_merge (h : Tidy kind user g) (htype : type ∈ completionTypes)
    (hkind : type = kind target) (huser : user ∈ g.nodeIds) (id : ElementId) :
    record user (g.mergeEdge type user target f) id =
      if id = target ∧ target ∈ g.nodeIds then some (f ((record user g id).getD Props.empty))
      else record user g id := by
  have h' := h.merge (f := f) hkind
  by_cases hid : id = target
  · subst hid
    rw [record, record]
    cases hold : progressEdge g user id with
    | some r =>
        obtain ⟨hr, hprogress, htarget⟩ := h.progressEdge_eq_some.1 hold
        have hb : Edge.between type user id r = true :=
          Graph.between_iff.2 ⟨(h.kind r hr hprogress).trans (htarget ▸ hkind.symm), hprogress.1, htarget⟩
        have hnew : progressEdge (g.mergeEdge type user id f) user id =
            some { r with props := f r.props } :=
          h'.progressEdge_eq_some.2
            ⟨Graph.mem_mergeEdge.2 (.inr (.inl ⟨r, hr, hb, rfl⟩)), hprogress, htarget⟩
        rw [hnew, if_pos ⟨rfl, htarget ▸ g.target_mem r hr⟩]
        rfl
    | none =>
        have hany : g.edges.any (Edge.between type user id) = false := by
          rw [Bool.eq_false_iff]
          intro hany
          obtain ⟨r, hr, hb⟩ := List.any_eq_true.1 hany
          obtain ⟨rfl, hsource, htarget⟩ := Graph.between_iff.1 hb
          exact h.progressEdge_eq_none.1 hold r hr ⟨hsource, htype⟩ htarget
        by_cases hmem : id ∈ g.nodeIds
        · have hnew : progressEdge (g.mergeEdge type user id f) user id =
              some ⟨g.freshId, type, user, id, f Props.empty⟩ :=
            h'.progressEdge_eq_some.2
              ⟨Graph.mem_mergeEdge.2 (.inr (.inr ⟨hany, huser, hmem, rfl⟩)), ⟨rfl, htype⟩, rfl⟩
          rw [hnew, if_pos ⟨rfl, hmem⟩]
          rfl
        · rw [Graph.mergeEdge_of_absent fun hmem' => hmem hmem'.2, hold, if_neg fun hmem' => hmem hmem'.2]
  · rw [if_neg fun hmem => hid hmem.1, record, record]
    congr 1
    refine h.progressEdge_congr h' fun e hprogress htarget => ?_
    rw [Graph.mem_mergeEdge]
    constructor
    · rintro (⟨he, -⟩ | ⟨r, -, hb, rfl⟩ | ⟨-, -, -, rfl⟩)
      · exact he
      · exact absurd (htarget.symm.trans (Graph.between_iff.1 hb).2.2) hid
      · exact absurd htarget.symm hid
    · intro he
      exact .inl ⟨he, Bool.eq_false_iff.2 fun hb =>
        hid (htarget.symm.trans (Graph.between_iff.1 hb).2.2)⟩

theorem Tidy.delete (h : Tidy kind user g) (p : Edge → Bool) : Tidy kind user (g.deleteEdges p) where
  kind := fun e he => h.kind e (List.mem_of_mem_filter he)
  single := fun e he e' he' =>
    h.single e (List.mem_of_mem_filter he) e' (List.mem_of_mem_filter he')

theorem Tidy.record_delete (h : Tidy kind user g) {elementId : ElementId} {e : Edge}
    (he : progressEdge g user elementId = some e) (id : ElementId) :
    record user (g.deleteEdges fun r => r.id = e.id) id =
      if id = elementId then none else record user g id := by
  obtain ⟨hmem, hprogress, htarget⟩ := h.progressEdge_eq_some.1 he
  have h' := h.delete fun r => decide (r.id = e.id)
  have hkept : ∀ r, r ∈ (g.deleteEdges fun r => decide (r.id = e.id)).edges ↔
      r ∈ g.edges ∧ r.id ≠ e.id := by
    intro r
    rw [Graph.deleteEdges_edges, List.mem_filter, Bool.not_eq_true', decide_eq_false_iff_not]
  by_cases hid : id = elementId
  · rw [if_pos hid, record, h'.progressEdge_eq_none.2, Option.map_none]
    intro r hr hprogress' htarget'
    obtain ⟨hr, hne⟩ := (hkept r).1 hr
    refine hne ?_
    rw [h.single r hr e hmem hprogress' hprogress (htarget'.trans (hid.trans htarget.symm))]
  · rw [if_neg hid, record, record]
    congr 1
    refine h.progressEdge_congr h' fun r hprogress' htarget' => ?_
    rw [hkept, and_iff_left_of_imp]
    rintro hr hsame
    rw [Graph.edge_eq_of_id hr hmem hsame] at htarget'
    exact hid (htarget'.symm.trans htarget)

omit kind in
theorem supply_mergeEdge (g : Graph) (type : String) (s t : ElementId) (f : Props → Props) :
    (g.mergeEdge type s t f).supply = g.supply := by
  unfold Graph.mergeEdge
  split
  · rfl
  · unfold Graph.createEdge
    split <;> rfl

theorem Named.merge (h : Named g) : Named (g.mergeEdge type user target f) where
  edges := by
    intro e he
    rcases Graph.mem_mergeEdge.1 he with ⟨he, -⟩ | ⟨r, hr, -, rfl⟩ | ⟨-, -, -, rfl⟩
    · exact h.edges e he
    · exact h.edges r hr
    · exact h.supply _ _
  supply := by
    rw [supply_mergeEdge]
    exact h.supply

theorem Named.delete (h : Named g) (p : Edge → Bool) : Named (g.deleteEdges p) :=
  ⟨fun e he => h.edges e (List.mem_of_mem_filter he), h.supply⟩

end Tidy

section Refinement

variable {site : Site} {conv : Conversion} {username : String} {user : Node} {env : Env}
  {kind : ElementId → String}

structure InOrder (username : String) (user : Node) (kind : ElementId → String) (g : Graph) : Prop where
  present : OnlyUser g username user
  tidy : Tidy kind user.id g
  named : Named g

def Action.Fits (kind : ElementId → String) : Action → Prop
  | .mark node .. => ∀ id type, node.elementId = some id → relationshipType node.type = some type →
      type = kind id
  | .remove _ => True

variable (account : Account site username user) (hdone : ∀ n, env.outcome n = .done) {w : World}
include account hdone

theorem act_done (hw : OnlyUser w.graph username user) {action : Action} {q : Statement}
    (hq : action.statement conv user.id w.graph = some q)
    (hack : action.acknowledged .done (q w.graph).1 = true ∨ (q w.graph).2 = w.graph) :
    ∃ w', w'.graph = (q w.graph).2 ∧ act site conv env action (showing site.server user w.graph, w) =
      (showing site.server user w'.graph, w') := by
  have hstep := act_of_some account env hw hq
  simp only [hdone, Outcome.after_done] at hstep
  by_cases h : action.acknowledged .done (q w.graph).1 = true
  · rw [if_pos h] at hstep
    exact ⟨⟨(q w.graph).2, w.clock + 2⟩, rfl, hstep⟩
  · rw [if_neg h] at hstep
    refine ⟨⟨(q w.graph).2, w.clock + 1⟩, rfl, ?_⟩
    rw [hstep, hack.resolve_left h]

theorem act_mark (h : InOrder username user kind w.graph) {node : CanvasNode}
    {levelOrScore : LevelOrScore} {date : String} {proofUrl : Option String}
    (hfits : (Action.mark node levelOrScore date proofUrl).Fits kind) :
    let action := Action.mark node levelOrScore date proofUrl
    ∃ w', act site conv env action (showing site.server user w.graph, w) =
        (showing site.server user w'.graph, w') ∧ InOrder username user kind w'.graph ∧
      OnlyEdges (IsProgress user.id) w.graph w'.graph ∧
      record user.id w'.graph = action.apply conv w.graph.nodeIds (record user.id w.graph) := by
  intro action
  cases htarget : node.elementId.filter (· ≠ "") with
  | none =>
      have hnone : action.statement conv user.id w.graph = none := by
        change Option.bind _ _ = _
        rw [htarget]
        rfl
      refine ⟨w, act_of_none account env hnone, h, .refl _ _, ?_⟩
      funext id
      refine (if_neg ?_).symm
      rintro ⟨hid, hne, -⟩
      rw [hid] at htarget
      exact absurd htarget (by simp [Option.filter, hne])
  | some target =>
      obtain ⟨hid, hne⟩ := Option.filter_eq_some_iff.1 htarget
      cases htype : relationshipType node.type with
      | none =>
          have hnone : action.statement conv user.id w.graph = none := by
            change Option.bind _ _ = _
            rw [htarget, htype]
            rfl
          refine ⟨w, act_of_none account env hnone, h, .refl _ _, ?_⟩
          funext id
          refine (if_neg ?_).symm
          rintro ⟨-, -, -, hlevel⟩
          cases hnode : node.type <;> rw [hnode] at htype hlevel
          case level => exact hlevel rfl
          all_goals cases htype
      | some type =>
          have hq : action.statement conv user.id w.graph = some (markStatement conv user.id target type
              (progressProperties node.type levelOrScore date proofUrl)) := by
            change Option.bind _ _ = _
            rw [htarget, htype]
            rfl
          obtain ⟨f, hf⟩ : ∃ f, assign (assigned conv
            (progressProperties node.type levelOrScore date proofUrl)) = f := ⟨_, rfl⟩
          have hmark : markStatement conv user.id target type
              (progressProperties node.type levelOrScore date proofUrl) w.graph =
              (((w.graph.mergeEdge type user.id target f).edges.filter
                (Edge.between type user.id target)).map fun r => [("elementId", .str r.id)],
                w.graph.mergeEdge type user.id target f) := by
            rw [← hf]
            exact markStatement_eq conv user.id target type node.type levelOrScore date proofUrl w.graph
          have hmerged := congrArg Prod.snd hmark
          have huser : user.id ∈ w.graph.nodeIds := Graph.id_mem_nodeIds h.present.mem
          have hkind : type = kind target := hfits target type hid htype
          have hcompletion := relationshipType_mem htype
          have hlevel : node.type ≠ .level := by
            intro hlevel
            rw [hlevel] at htype
            cases htype
          have hack : action.acknowledged .done (markStatement conv user.id target type
              (progressProperties node.type levelOrScore date proofUrl) w.graph).1 = true ∨
              (markStatement conv user.id target type
                (progressProperties node.type levelOrScore date proofUrl) w.graph).2 = w.graph := by
            rw [hmark]
            by_cases hmem : target ∈ w.graph.nodeIds
            · left
              obtain ⟨e, he, hb⟩ := List.any_eq_true.1
                ((w.graph.any_between_mergeEdge type user.id target f).2 ⟨huser, hmem⟩)
              obtain ⟨r, rs, hrs⟩ := List.exists_cons_of_ne_nil
                (List.ne_nil_of_mem (List.mem_filter.2 ⟨he, hb⟩))
              change (Outcome.done.firstRow _).isSome = true
              rw [hrs]
              rfl
            · exact .inr (Graph.mergeEdge_of_absent fun hboth => hmem hboth.2)
          obtain ⟨w', hw', hact⟩ := act_done account hdone h.present hq hack
          rw [hmerged] at hw'
          refine ⟨w', hact, ?_, hw' ▸ onlyEdges_merge hcompletion, ?_⟩
          · rw [hw']
            exact ⟨h.present.congr (w.graph.mergeEdge_nodes _ _ _ _), h.tidy.merge hkind, h.named.merge⟩
          · funext id
            rw [hw', h.tidy.record_merge hcompletion hkind huser]
            change _ = if _ then some (assign _ _) else _
            rw [hf, hid]
            by_cases hsame : id = target
            · subst hsame
              by_cases hmem : id ∈ w.graph.nodeIds
              · rw [if_pos ⟨rfl, hmem⟩, if_pos ⟨rfl, of_decide_eq_true hne, hmem, hlevel⟩]
              · rw [if_neg fun hboth => hmem hboth.2, if_neg fun hboth => hmem hboth.2.2.1]
            · rw [if_neg fun hboth => hsame hboth.1,
                if_neg fun hboth => hsame (Option.some.inj hboth.1).symm]

theorem act_remove (h : InOrder username user kind w.graph) (elementId : ElementId) :
    let action := Action.remove elementId
    ∃ w', act site conv env action (showing site.server user w.graph, w) =
        (showing site.server user w'.graph, w') ∧ InOrder username user kind w'.graph ∧
      OnlyEdges (IsProgress user.id) w.graph w'.graph ∧
      record user.id w'.graph = action.apply conv w.graph.nodeIds (record user.id w.graph) := by
  intro action
  cases hedge : progressEdge w.graph user.id elementId with
  | none =>
      have hnone : action.statement conv user.id w.graph = none := by
        change Option.map _ (Option.filter _ (Option.map _ _)) = _
        rw [hedge]
        rfl
      refine ⟨w, act_of_none account env hnone, h, .refl _ _, ?_⟩
      funext id
      change _ = if _ then _ else _
      by_cases hid : id = elementId
      · rw [if_pos hid, record, hid, hedge]
        rfl
      · rw [if_neg hid]
  | some e =>
      have he := (mem_of_progressEdge hedge).1
      have hq : action.statement conv user.id w.graph = some (deleteRelationshipStatement e.id) := by
        change Option.map _ (Option.filter _ (Option.map _ _)) = _
        rw [hedge, Option.map_some, Option.filter_some_pos (by simpa using h.named.edges e he)]
        rfl
      obtain ⟨w', hw', hact⟩ := act_done account hdone h.present hq (.inl rfl)
      have hframe := action.onlyEdges_statement hq (recognised_self user.id w.graph)
      rw [← hw'] at hframe
      refine ⟨w', hact, ?_, hframe, ?_⟩
      · rw [hw']
        exact ⟨h.present.congr rfl, h.tidy.delete _, h.named.delete _⟩
      · funext id
        rw [hw']
        exact h.tidy.record_delete hedge id

/-- Where the database does what it is asked, the page keeps the record of the user: it shows what
the actions make of what was there, and nobody else's edges change. -/
theorem domainPage_refines (hw : InOrder username user kind w.graph) (actions : List Action)
    (hfits : ∀ action ∈ actions, action.Fits kind) :
    let final := actions.foldl (fun s action => act site conv env action s)
      (showing site.server user w.graph, w)
    OnlyEdges (IsProgress user.id) w.graph final.2.graph ∧
      ∀ id, final.1.userProgressMap.get id =
        (actions.foldl (Action.apply conv w.graph.nodeIds) (record user.id w.graph) id).map
          site.server.properties := by
  suffices h : ∃ w', actions.foldl (fun s action => act site conv env action s)
        (showing site.server user w.graph, w) = (showing site.server user w'.graph, w') ∧
      OnlyEdges (IsProgress user.id) w.graph w'.graph ∧
      record user.id w'.graph =
        actions.foldl (Action.apply conv w.graph.nodeIds) (record user.id w.graph) by
    obtain ⟨w', hfinal, hframe, hrecord⟩ := h
    intro final
    have hfinal' : final = (showing site.server user w'.graph, w') := hfinal
    rw [hfinal', ← hrecord]
    refine ⟨hframe, fun id => ?_⟩
    rw [get_userProgressMap_showing, record, Option.map_map]
    rfl
  induction actions generalizing w with
  | nil => exact ⟨w, rfl, .refl _ _, rfl⟩
  | cons action actions ih =>
      have hstep : ∃ w', act site conv env action (showing site.server user w.graph, w) =
            (showing site.server user w'.graph, w') ∧ InOrder username user kind w'.graph ∧
          OnlyEdges (IsProgress user.id) w.graph w'.graph ∧
          record user.id w'.graph = action.apply conv w.graph.nodeIds (record user.id w.graph) := by
        cases action with
        | mark node levelOrScore date proofUrl =>
            exact act_mark account hdone hw (hfits _ List.mem_cons_self)
        | remove elementId => exact act_remove account hdone hw elementId
      obtain ⟨w', hact, horder, hframe, hrecord⟩ := hstep
      obtain ⟨w'', hrun, hframe', hrecord'⟩ := ih horder fun action haction =>
        hfits action (List.mem_cons_of_mem _ haction)
      have hids : w'.graph.nodeIds = w.graph.nodeIds := by
        rw [Graph.nodeIds, hframe.nodes, Graph.nodeIds]
      refine ⟨w'', ?_, OnlyEdges.trans hframe hframe', ?_⟩
      · rw [List.foldl_cons, hact, hrun]
      · rw [hrecord', hids, hrecord, List.foldl_cons]

end Refinement

section Ada

def adaSite : Site := ⟨userServer, [], rfl, fun _ => .done (.error ⟨404, .null⟩)⟩

def ada : Node := ⟨emptyGraph.freshId, Auth.userLabels, Auth.userProps "ada" "hash" "555"⟩

theorem plain_ada : UrlPath.Plain "ada".toList where
  nonempty := by decide
  inside := by
    intro c hc
    obtain rfl | rfl : c = 'a' ∨ c = 'd' := by simpa [or_comm, or_left_comm] using hc
    · decide
    · decide
  last := by
    intro c hc
    obtain rfl : 'a' = c := Option.some.inj hc
    decide
  dots := by decide
  escapes := by decide

theorem account_ada : Account adaSite "ada" ada :=
  ⟨plain_ada, by decide, by simp [ada, Auth.userProps, Props.set], by decide⟩

theorem elementIds_fresh_ne (n : Nat) (ids : List ElementId) : elementIds.fresh n ids ≠ "" := by
  have hcandidate : ∀ k, candidateId k ≠ "" := by
    intro k hk
    have hlength := congrArg String.length hk
    simp [candidateId] at hlength
  have hfresh : elementIds.fresh n ids = (((List.range (ids.length + 1)).map
      fun k => candidateId (n + k)).find? fun i => !ids.contains i).getD "" := rfl
  rw [hfresh]
  cases hfind : ((List.range (ids.length + 1)).map fun k => candidateId (n + k)).find?
      fun i => !ids.contains i with
  | some i =>
      obtain ⟨k, -, rfl⟩ := List.mem_map.1 (List.mem_of_find?_eq_some hfind)
      exact hcandidate _
  | none =>
      have hnodup : ((List.range (ids.length + 1)).map fun k => candidateId (n + k)).Nodup :=
        List.nodup_range.map fun a b h => Nat.add_left_cancel (candidateId_injective h)
      have hsub : ((List.range (ids.length + 1)).map fun k => candidateId (n + k)) ⊆ ids :=
        fun i hi => by simpa using List.find?_eq_none.1 hfind i hi
      have hle := (List.subperm_of_subset hnodup hsub).length_le
      simp at hle

theorem inOrder_ada : InOrder "ada" ada (fun _ => "HAS_SKILL") (userAndDomain "hash") where
  present := by
    refine ⟨List.mem_cons_self, by decide, fun n hn hname => ?_⟩
    rcases List.mem_cons.1 hn with rfl | hn
    · rfl
    · obtain rfl := List.mem_singleton.1 hn
      exact absurd hname (by decide)
  tidy := ⟨fun e he => absurd he List.not_mem_nil, fun e he => absurd he List.not_mem_nil⟩
  named := ⟨fun e he => absurd he List.not_mem_nil, elementIds_fresh_ne⟩

def markCompetent : Action := .mark ⟨.skill, none, some "4:1"⟩ (.level "Competent") "" none

theorem markCompetent_fits : markCompetent.Fits fun _ => "HAS_SKILL" := by
  rintro id type - ⟨⟩
  rfl

theorem domainPage_refines_ada :
    let final := [markCompetent, .remove "4:1", markCompetent].foldl
      (fun s action => act adaSite Wire.plainConversion .calm action s)
      (showing userServer ada (userAndDomain "hash"), .start (userAndDomain "hash"))
    OnlyEdges (IsProgress ada.id) (userAndDomain "hash") final.2.graph ∧
      ∀ id, final.1.userProgressMap.get id =
        ([markCompetent, .remove "4:1", markCompetent].foldl
          (Action.apply Wire.plainConversion (userAndDomain "hash").nodeIds)
          (record ada.id (userAndDomain "hash")) id).map userServer.properties :=
  domainPage_refines account_ada (fun _ => rfl) (w := .start (userAndDomain "hash")) inOrder_ada
    [markCompetent, .remove "4:1", markCompetent] (by
      intro action haction
      simp only [List.mem_cons, List.not_mem_nil, or_false] at haction
      rcases haction with rfl | rfl | rfl
      exacts [markCompetent_fits, trivial, markCompetent_fits])

def failedRefresh : Env :=
  { Env.calm with outcome := fun n => if n = 1 then .failed false "timeout" else .done }

theorem domainPage_trace_ada :
    let actions := [markCompetent, .remove "4:1"]
    let w := World.start (userAndDomain "hash")
    OnlyEdges (IsProgress ada.id) w.graph
        (before adaSite Wire.plainConversion ada failedRefresh w actions 2).2.graph ∧
      ((∃ j, UpToDate adaSite Wire.plainConversion ada failedRefresh w actions 2 j) ∨
        ∃ j, LostAt adaSite Wire.plainConversion ada failedRefresh w actions 2 j) :=
  domainPage_trace account_ada inOrder_ada.present [markCompetent, .remove "4:1"] 2

end Ada

end AtlasOfUs.Viewer
