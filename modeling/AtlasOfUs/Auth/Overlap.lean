import AtlasOfUs.Auth.Login
import AtlasOfUs.Library.Interleaving

namespace AtlasOfUs.Auth

open Library

/-- A signup request that has arrived, and the salt that its password is hashed with. -/
structure Attempt where
  request : SignUpRequest
  salt : String

section Phases

variable (credentials : Credentials) (r : SignUpRequest)

def insertUser : AuthApi AuthResponse :=
  match credentials.hashPassword r.password with
  | none => .fail internalError
  | some hashedPassword => do
      match ← runStatement (createUserStatement r.username hashedPassword r.phone) with
      | .error _ => .fail internalError
      | .ok _ =>
          match credentials.generateToken r.username with
          | some token => return ⟨token⟩
          | none => .fail internalError

theorem signup_eq : signup credentials r =
    if r.valid = false then .fail invalidRequest
    else checkTaken r >>= fun _ => insertUser credentials r := by
  rw [signup]
  rcases Bool.eq_false_or_eq_true r.valid with hvalid | hvalid
  · rw [if_neg (by simp [hvalid]), if_neg (by simp [hvalid])]
    congr 1
  · rw [if_pos hvalid, if_pos hvalid]

def afterCheck : Except String RowStream → AuthApi AuthResponse
  | .error _ => .fail internalError
  | .ok rs =>
      if rs.error.isSome then .fail internalError
      else if rs.rows ≠ [] then .fail alreadyExists
      else insertUser credentials r

def afterInsert : Except String RowStream → AuthApi AuthResponse
  | .error _ => .fail internalError
  | .ok rs =>
      match rs.error, credentials.generateToken r.username with
      | none, some token => .done ⟨token⟩
      | _, _ => .fail internalError

variable {credentials r}

theorem signup_valid (hvalid : r.valid = true) : signup credentials r =
    .call (.execute (takenStatement r.username r.phone)) (afterCheck credentials r) := by
  rw [signup_eq, if_neg (by simp [hvalid])]
  change Proc.call _ _ = Proc.call _ _
  congr 1
  funext reply
  cases reply with
  | error e => rfl
  | ok rs =>
      rw [afterCheck]
      change (if _ then _ else if _ then _ else Proc.done ()) >>= _ = _
      by_cases herror : rs.error.isSome = true
      · rw [if_pos herror, if_pos herror]
        rfl
      · rw [if_neg herror, if_neg herror]
        by_cases hrows : rs.rows ≠ []
        · rw [if_pos hrows, if_pos hrows]
          rfl
        · rw [if_neg hrows, if_neg hrows]
          rfl

theorem insertUser_hashed {hash : String} (hhash : credentials.hashPassword r.password = some hash) :
    insertUser credentials r =
      .call (.execute (createUserStatement r.username hash r.phone)) (afterInsert credentials r) := by
  rw [insertUser, hhash]
  change Proc.call _ _ = Proc.call _ _
  congr 1
  funext reply
  cases reply with
  | error e => rfl
  | ok rs =>
      rcases rs with ⟨rows, error⟩
      cases error with
      | some e => rfl
      | none =>
          rw [afterInsert]
          cases credentials.generateToken r.username <;> rfl

variable (credentials r)

def Pending (p : AuthApi AuthResponse) : Prop :=
  p = insertUser credentials r ∧ ∃ hash, credentials.hashPassword r.password = some hash

inductive Stage (p : AuthApi AuthResponse) : Prop
  | arrived (hvalid : r.valid = true) (hp : p = signup credentials r)
  | pending (hvalid : r.valid = true) (hp : Pending credentials r p)
  | accepted (response : AuthResponse) (hp : p = .done response)
  | refused (error : ErrorResponse) (hp : p = .fail error)

variable {credentials r}

theorem stage_signup : Stage credentials r (signup credentials r) := by
  by_cases hvalid : r.valid = true
  · exact .arrived hvalid rfl
  · rw [Bool.not_eq_true] at hvalid
    rw [signup_eq, if_pos hvalid]
    exact .refused _ rfl

theorem not_pending_done (response : AuthResponse) : ¬ Pending credentials r (.done response) := by
  rintro ⟨heq, hash, hhash⟩
  rw [insertUser_hashed hhash] at heq
  cases heq

theorem not_pending_fail (error : ErrorResponse) : ¬ Pending credentials r (.fail error) := by
  rintro ⟨heq, hash, hhash⟩
  rw [insertUser_hashed hhash] at heq
  cases heq

variable (credentials r) in
theorem afterCheck_cases (reply : Except String RowStream) :
    (∃ error, afterCheck credentials r reply = .fail error) ∨
      reply = .ok ⟨[], none⟩ ∧ Pending credentials r (afterCheck credentials r reply) := by
  cases reply with
  | error e => exact .inl ⟨_, rfl⟩
  | ok rs =>
      rcases rs with ⟨rows, error⟩
      cases error with
      | some e => exact .inl ⟨_, rfl⟩
      | none =>
          cases rows with
          | cons row rows => exact .inl ⟨_, rfl⟩
          | nil =>
              cases hhash : credentials.hashPassword r.password with
              | none =>
                  left
                  refine ⟨internalError, ?_⟩
                  simp [afterCheck, insertUser, hhash]
              | some hash => exact .inr ⟨rfl, rfl, hash, hhash⟩

variable (credentials r) in
theorem afterInsert_cases (reply : Except String RowStream) :
    (∃ error, afterInsert credentials r reply = .fail error) ∨
      ∃ rows token, reply = .ok ⟨rows, none⟩ ∧ credentials.generateToken r.username = some token ∧
        afterInsert credentials r reply = .done ⟨token⟩ := by
  cases reply with
  | error e => exact .inl ⟨_, rfl⟩
  | ok rs =>
      rcases rs with ⟨rows, error⟩
      cases error with
      | some e => exact .inl ⟨_, rfl⟩
      | none =>
          cases htoken : credentials.generateToken r.username with
          | none => exact .inl ⟨internalError, by simp [afterInsert, htoken]⟩
          | some token => exact .inr ⟨rows, token, rfl, rfl, by simp [afterInsert, htoken]⟩

end Phases

def Free (r : SignUpRequest) (g : Graph) : Prop :=
  ∀ n ∈ g.nodes, n.hasLabel "Person" = true →
    n.props "username" ≠ some (.str r.username) ∧ n.props "phone" ≠ some (.str r.phone)

theorem free_of_no_rows {r : SignUpRequest} {g : Graph}
    (h : (takenStatement r.username r.phone g).1 = []) : Free r g := by
  intro n hn hperson
  have hskip := List.filter_eq_nil_iff.1 (List.map_eq_nil_iff.1 h) n hn
  simp only [hperson, Bool.true_and, Bool.or_eq_true, decide_eq_true_eq, not_or] at hskip
  exact ⟨hskip.2, hskip.1⟩

def Shares (r s : SignUpRequest) : Prop := r.username = s.username ∨ r.phone = s.phone

section Creation

variable {r s : SignUpRequest} {hash : String} {g : Graph}

theorem mem_createUser {n : Node} :
    n ∈ (createUserStatement r.username hash r.phone g).2.nodes ↔
      n ∈ g.nodes ∨ n = ⟨g.freshId, userLabels, userProps r.username hash r.phone⟩ := by
  simp [createUserStatement]

theorem DistinctAccounts.createUser (hg : DistinctAccounts g) (hfree : Free r g) :
    DistinctAccounts (createUserStatement r.username hash r.phone g).2 := by
  have hnew : ∀ n ∈ g.nodes, n.hasLabel "Person" = true → ∀ key ∈ ["username", "phone"],
      n.props key ≠ userProps r.username hash r.phone key := by
    intro n hn hperson key hkey
    obtain ⟨hname, hphone⟩ := hfree n hn hperson
    simp only [List.mem_cons, List.not_mem_nil, or_false] at hkey
    rcases hkey with rfl | rfl
    · exact hname
    · exact hphone
  intro n hn m hm hnp hmp key hkey v hnv hmv
  rcases mem_createUser.1 hn with hn | rfl <;> rcases mem_createUser.1 hm with hm | rfl
  · exact hg n hn m hm hnp hmp key hkey v hnv hmv
  · exact absurd (hnv.trans hmv.symm) (hnew n hn hnp key hkey)
  · exact absurd (hmv.trans hnv.symm) (hnew m hm hmp key hkey)
  · rfl

theorem Free.createUser (hfree : Free s g) (hshares : ¬ Shares r s) :
    Free s (createUserStatement r.username hash r.phone g).2 := by
  intro n hn hperson
  rcases mem_createUser.1 hn with hn | rfl
  · exact hfree n hn hperson
  · rw [Shares, not_or] at hshares
    refine ⟨fun h => hshares.1 ?_, fun h => hshares.2 ?_⟩
    · exact Value.str.inj (Option.some.inj h)
    · exact Value.str.inj (Option.some.inj h)

end Creation

section Service

variable (accounts : Accounts) (attempts : List Attempt)

abbrev SignupPool := Pool (services Empty Empty) ErrorResponse AuthResponse World

def Attempt.program (a : Attempt) : AuthApi AuthResponse :=
  signup (accounts.credentials a.salt) a.request

/-- All the requests on their way, none of them served yet. -/
def arrivals (w : World) : SignupPool := ⟨attempts.map (Attempt.program accounts), w⟩

/-- Where it is the turn of a request that is about to create its user, no other
such request has its username or its phone number. -/
def Unrivalled (i : Nat) (pool : SignupPool) : Prop :=
  ∀ (a b : Attempt) (j : Nat) (p q : AuthApi AuthResponse), attempts[i]? = some a →
    attempts[j]? = some b → j ≠ i → pool.programs[i]? = some p → pool.programs[j]? = some q →
    Pending (accounts.credentials a.salt) a.request p →
    Pending (accounts.credentials b.salt) b.request q → ¬ Shares a.request b.request

/-- The account of a successful signup, as it is stored. -/
def Stored (a : Attempt) (response : AuthResponse) (g : Graph) : Prop :=
  a.request.valid = true ∧ accounts.generateToken a.request.username = some response.token ∧
    ∃ hash, accounts.hashPassword a.salt a.request.password = some hash ∧
      ∃ n ∈ g.nodes, n.hasLabel "Person" = true ∧
        n.props "username" = some (.str a.request.username) ∧ n.props "password" = some (.str hash)

structure Served (pool : SignupPool) : Prop where
  length : pool.programs.length = attempts.length
  stage : ∀ (i : Nat) (a : Attempt) (p : AuthApi AuthResponse), attempts[i]? = some a →
    pool.programs[i]? = some p → Stage (accounts.credentials a.salt) a.request p
  distinct : DistinctAccounts pool.state.graph
  free : ∀ (i : Nat) (a : Attempt) (p : AuthApi AuthResponse), attempts[i]? = some a →
    pool.programs[i]? = some p → Pending (accounts.credentials a.salt) a.request p →
      Free a.request pool.state.graph
  stored : ∀ (i : Nat) (a : Attempt) (response : AuthResponse), attempts[i]? = some a →
    pool.programs[i]? = some (.done response) → Stored accounts a response pool.state.graph

variable {accounts attempts}

theorem arrivals_getElem {w : World} {i : Nat} {a : Attempt} {p : AuthApi AuthResponse}
    (ha : attempts[i]? = some a) (hp : (arrivals accounts attempts w).programs[i]? = some p) :
    p = a.program accounts := by
  rw [arrivals, List.getElem?_map, ha] at hp
  exact (Option.some.inj hp).symm

theorem signup_ne_done (credentials : Credentials) (r : SignUpRequest) (response : AuthResponse) :
    signup credentials r ≠ .done response := by
  intro h
  by_cases hvalid : r.valid = true
  · rw [signup_valid hvalid] at h
    cases h
  · rw [signup_eq, if_pos (by simpa using hvalid)] at h
    cases h

/-- The check reads and the insertion writes, so what is to be checked is not pending. -/
theorem not_pending_signup (credentials : Credentials) (r : SignUpRequest) :
    ¬ Pending credentials r (signup credentials r) := by
  rintro ⟨heq, hash, hhash⟩
  rw [insertUser_hashed hhash] at heq
  by_cases hvalid : r.valid = true
  · rw [signup_valid hvalid] at heq
    have hstatement := Op.execute.inj (Proc.call.inj heq).1
    have hnodes := congrArg (fun q : Statement => (q emptyGraph).2.nodes.length) hstatement
    cases hnodes
  · rw [signup_eq, if_pos (by simpa using hvalid)] at heq
    cases heq

theorem served_arrivals {w : World} (hw : DistinctAccounts w.graph) :
    Served accounts attempts (arrivals accounts attempts w) where
  length := List.length_map _
  stage i a p ha hp := by
    rw [arrivals_getElem ha hp]
    exact stage_signup
  distinct := hw
  free i a p ha hp hpending := by
    rw [arrivals_getElem ha hp] at hpending
    exact absurd hpending (not_pending_signup _ _)
  stored i a response ha hp := absurd (arrivals_getElem ha hp).symm (signup_ne_done _ _ _)

theorem Stored.mono {a : Attempt} {response : AuthResponse} {g g' : Graph}
    (h : Stored accounts a response g) (hsub : ∀ n ∈ g.nodes, n ∈ g'.nodes) :
    Stored accounts a response g' := by
  obtain ⟨hvalid, htoken, hash, hhash, n, hn, hnode⟩ := h
  exact ⟨hvalid, htoken, hash, hhash, n, hsub n hn, hnode⟩

theorem Served.update {pool : SignupPool} (hs : Served accounts attempts pool) {i : Nat}
    {a : Attempt} {p q : AuthApi AuthResponse} {w : World} (ha : attempts[i]? = some a)
    (hp : pool.programs[i]? = some p) (hstage : Stage (accounts.credentials a.salt) a.request q)
    (hdistinct : DistinctAccounts w.graph)
    (hfree : Pending (accounts.credentials a.salt) a.request q → Free a.request w.graph)
    (hothers : ∀ (j : Nat) (b : Attempt) (r : AuthApi AuthResponse), j ≠ i → attempts[j]? = some b →
      pool.programs[j]? = some r → Pending (accounts.credentials b.salt) b.request r →
        Free b.request w.graph)
    (hstored : ∀ response, q = .done response → Stored accounts a response w.graph)
    (hsub : ∀ n ∈ pool.state.graph.nodes, n ∈ w.graph.nodes) :
    Served accounts attempts ⟨pool.programs.set i q, w⟩ where
  length := (List.length_set ..).trans hs.length
  stage j b r hb hr := by
    by_cases hij : i = j
    · subst hij
      obtain rfl := Option.some.inj (ha.symm.trans hb)
      obtain rfl := Option.some.inj ((Pool.programs_set_self hp).symm.trans hr)
      exact hstage
    · exact hs.stage j b r hb ((Pool.programs_set_ne hij).symm.trans hr)
  distinct := hdistinct
  free j b r hb hr hpending := by
    by_cases hij : i = j
    · subst hij
      obtain rfl := Option.some.inj (ha.symm.trans hb)
      obtain rfl := Option.some.inj ((Pool.programs_set_self hp).symm.trans hr)
      exact hfree hpending
    · exact hothers j b r (Ne.symm hij) hb ((Pool.programs_set_ne hij).symm.trans hr) hpending
  stored j b response hb hr := by
    by_cases hij : i = j
    · subst hij
      obtain rfl := Option.some.inj (ha.symm.trans hb)
      exact hstored response (Option.some.inj ((Pool.programs_set_self hp).symm.trans hr))
    · exact (hs.stored j b response hb ((Pool.programs_set_ne hij).symm.trans hr)).mono hsub

theorem step_execute {env : Env} {pool : SignupPool} {i : Nat} {q : Statement}
    {k : Except String RowStream → AuthApi AuthResponse}
    (hp : pool.programs[i]? = some (.call (.execute q) k)) :
    pool.step env.handler i =
      ⟨pool.programs.set i (k ((env.outcome pool.state.clock).reply (q pool.state.graph).1)),
        ⟨(env.outcome pool.state.clock).after q pool.state.graph, pool.state.clock + 1⟩⟩ :=
  Pool.step_call hp

theorem after_taken (o : Outcome) (username phone : String) (g : Graph) :
    o.after (takenStatement username phone) g = g :=
  ite_self g

/-- The check changes nothing and lets a request on only if its name and number are free. -/
theorem Served.check {env : Env} {pool : SignupPool} (hs : Served accounts attempts pool) {i : Nat}
    {a : Attempt} (ha : attempts[i]? = some a) (hvalid : a.request.valid = true)
    (hp : pool.programs[i]? = some (signup (accounts.credentials a.salt) a.request)) :
    Served accounts attempts (pool.step env.handler i) := by
  have hcall := hp
  rw [signup_valid hvalid] at hcall
  rw [step_execute hcall, after_taken]
  generalize hreply : (env.outcome pool.state.clock).reply
    (takenStatement a.request.username a.request.phone pool.state.graph).1 = reply
  rcases afterCheck_cases (accounts.credentials a.salt) a.request reply with
    ⟨e, he⟩ | ⟨rfl, hpending⟩
  · rw [he]
    refine hs.update ha hp (.refused e rfl) hs.distinct (fun h => absurd h (not_pending_fail e))
      (fun j b r _ => hs.free j b r) (fun _ h => ?_) (fun _ hn => hn)
    cases h
  · refine hs.update ha hp (.pending hvalid hpending) hs.distinct (fun _ => ?_)
      (fun j b r _ => hs.free j b r) (fun response h => ?_) (fun _ hn => hn)
    · apply free_of_no_rows
      exact Outcome.rows_of_reply hreply
    · rw [h] at hpending
      exact absurd hpending (not_pending_done response)

/-- The insertion keeps accounts distinct, and leaves the names and numbers of
the others free where no rival is on its way. -/
theorem Served.insert {env : Env} {pool : SignupPool} (hs : Served accounts attempts pool) {i : Nat}
    {a : Attempt} {p : AuthApi AuthResponse} (ha : attempts[i]? = some a)
    (hvalid : a.request.valid = true) (hp : pool.programs[i]? = some p)
    (hpending : Pending (accounts.credentials a.salt) a.request p)
    (hrivals : Unrivalled accounts attempts i pool) :
    Served accounts attempts (pool.step env.handler i) := by
  have hfree := hs.free i a p ha hp hpending
  have hothers : ∀ (j : Nat) (b : Attempt) (r : AuthApi AuthResponse), j ≠ i →
      attempts[j]? = some b → pool.programs[j]? = some r →
      Pending (accounts.credentials b.salt) b.request r → Free b.request pool.state.graph ∧
        ¬ Shares a.request b.request := fun j b r hij hb hr hother =>
    ⟨hs.free j b r hb hr hother, hrivals a b j p r ha hb hij hp hr hpending hother⟩
  obtain ⟨rfl, hash, hhash⟩ := hpending
  have hcall := hp
  rw [insertUser_hashed hhash] at hcall
  rw [step_execute hcall]
  generalize hreply : (env.outcome pool.state.clock).reply
    (createUserStatement a.request.username hash a.request.phone pool.state.graph).1 = reply
  have hnodes : ∀ P : Graph → Prop, P pool.state.graph →
      P (createUserStatement a.request.username hash a.request.phone pool.state.graph).2 →
      P ((env.outcome pool.state.clock).after
        (createUserStatement a.request.username hash a.request.phone) pool.state.graph) := by
    intro P hold hnew
    rw [Outcome.after]
    split
    · exact hnew
    · exact hold
  refine hs.update ha hp ?_ ?_ ?_ ?_ ?_ ?_
  · rcases afterInsert_cases (accounts.credentials a.salt) a.request reply with
      ⟨e, he⟩ | ⟨rows, token, -, -, hdone⟩
    · exact .refused e he
    · exact .accepted _ hdone
  · exact hnodes _ hs.distinct (hs.distinct.createUser hfree)
  · rcases afterInsert_cases (accounts.credentials a.salt) a.request reply with
      ⟨e, he⟩ | ⟨rows, token, -, -, hdone⟩
    · rw [he]
      exact fun h => absurd h (not_pending_fail e)
    · rw [hdone]
      exact fun h => absurd h (not_pending_done _)
  · intro j b r hij hb hr hother
    obtain ⟨hfreeb, hshares⟩ := hothers j b r hij hb hr hother
    exact hnodes (Free b.request) hfreeb (hfreeb.createUser hshares)
  · intro response h
    rcases afterInsert_cases (accounts.credentials a.salt) a.request reply with
      ⟨e, he⟩ | ⟨rows, token, hok, htoken, hdone⟩
    · rw [he] at h
      cases h
    · rw [hdone] at h
      obtain rfl := Proc.done.inj h
      have happlied := Outcome.done_of_reply (hreply.trans hok)
      rw [happlied]
      exact ⟨hvalid, htoken, hash, hhash, _, mem_createUser.2 (.inr rfl), rfl, rfl, rfl⟩
  · exact hnodes (fun g => ∀ n ∈ pool.state.graph.nodes, n ∈ g.nodes) (fun n hn => hn)
      (fun n hn => mem_createUser.2 (.inl hn))

theorem Served.step {env : Env} {pool : SignupPool} (hs : Served accounts attempts pool) {i : Nat}
    (hrivals : Unrivalled accounts attempts i pool) :
    Served accounts attempts (pool.step env.handler i) := by
  rcases Pool.step_cases env.handler i pool with hstep | ⟨o, k, hp, -⟩
  · rw [hstep]
    exact hs
  · obtain ⟨hlt, -⟩ := List.getElem?_eq_some_iff.1 hp
    rw [hs.length] at hlt
    have ha := List.getElem?_eq_getElem hlt
    rcases hs.stage i _ _ ha hp with ⟨hvalid, hsignup⟩ | ⟨hvalid, hpending⟩ | ⟨_, hdone⟩ | ⟨_, hfail⟩
    · exact hs.check ha hvalid (hp.trans (congrArg some hsignup))
    · exact hs.insert ha hvalid hp hpending hrivals
    · cases hdone
    · cases hfail

/-- No two persons share a username or a phone number, and who was told that
the signup succeeded can log in. -/
def AccountsUsable (accounts : Accounts) (attempts : List Attempt) (pool : SignupPool) : Prop :=
  DistinctAccounts pool.state.graph ∧
    ∀ (i : Nat) (a : Attempt) (response : AuthResponse), attempts[i]? = some a →
      pool.programs[i]? = some (.done response) →
      ∀ (env : Env) (clock : Nat), env.outcome clock = .done →
        (env.exec (login accounts ⟨a.request.username, a.request.password⟩)
          ⟨pool.state.graph, clock⟩).exit = .ok response

theorem Served.accountsUsable {pool : SignupPool} (hs : Served accounts attempts pool) :
    AccountsUsable accounts attempts pool := by
  refine ⟨hs.distinct, fun i a response ha hp env clock hdone => ?_⟩
  obtain ⟨hvalid, htoken, hash, hhash, n, hn, hperson, hname, hpassword⟩ :=
    hs.stored i a response ha hp
  apply login_of_distinct hs.distinct hn hperson hname hpassword hhash htoken _ hdone
  simp only [SignUpRequest.valid, Bool.and_eq_true] at hvalid
  rw [LoginRequest.valid, Bool.and_eq_true]
  exact hvalid.1

/-- Any number of signups, interleaved in any way and with any failures, keep
accounts usable as long as no two that share a username or a phone number are
between their check and their insertion at once. -/
theorem signup_accountsUsable (accounts : Accounts) (attempts : List Attempt) (env : Env) (w : World)
    (schedule : List Nat) (hw : DistinctAccounts w.graph)
    (hrivals : ∀ k i, schedule[k]? = some i → Unrivalled accounts attempts i
      ((arrivals accounts attempts w).before env.handler schedule k)) (k : Nat) :
    AccountsUsable accounts attempts
      ((arrivals accounts attempts w).before env.handler schedule k) := by
  have hserved : Served accounts attempts
      ((arrivals accounts attempts w).before env.handler schedule k) :=
    holds_along (fun i pool hrivals hs => hs.step hrivals) (served_arrivals hw) hrivals k
  exact hserved.accountsUsable

end Service

section Example

def plainAccounts : Accounts where
  hashPassword _ password := some password
  verifyPassword given hash := some (decide (given = hash))
  generateToken username := some username
  verify_iff h _ := by
    obtain rfl := Option.some.inj h
    rfl

def adaAndBob : List Attempt := [⟨⟨"ada", "secret", "1"⟩, ""⟩, ⟨⟨"bob", "word", "2"⟩, ""⟩]

def adaTwice : List Attempt := [⟨⟨"ada", "secret", "1"⟩, ""⟩, ⟨⟨"ada", "word", "2"⟩, ""⟩]

theorem distinctAccounts_empty : DistinctAccounts emptyGraph :=
  fun _ hn => absurd hn List.not_mem_nil

theorem adaAndBob_unrivalled (i : Nat) (pool : SignupPool) :
    Unrivalled plainAccounts adaAndBob i pool := by
  intro a b j p q ha hb hij _ _ _ _
  have hlt : ∀ {k : Nat} {c : Attempt}, adaAndBob[k]? = some c → k = 0 ∨ k = 1 := by
    intro k c hk
    obtain ⟨hlt, -⟩ := List.getElem?_eq_some_iff.1 hk
    have hlength : adaAndBob.length = 2 := rfl
    omega
  rw [Shares]
  rcases hlt ha with rfl | rfl <;> rcases hlt hb with rfl | rfl
  · exact absurd rfl hij
  · obtain rfl := Option.some.inj ha
    obtain rfl := Option.some.inj hb
    decide
  · obtain rfl := Option.some.inj ha
    obtain rfl := Option.some.inj hb
    decide
  · exact absurd rfl hij

theorem adaAndBob_accountsUsable :
    AccountsUsable plainAccounts adaAndBob
      ((arrivals plainAccounts adaAndBob (.start emptyGraph)).before Env.calm.handler
        [0, 1, 1, 0] 4) :=
  signup_accountsUsable plainAccounts adaAndBob .calm (.start emptyGraph) [0, 1, 1, 0]
    distinctAccounts_empty (fun _ i _ => adaAndBob_unrivalled i _) 4

/-- Two signups for one name that both check before either inserts: both succeed
and neither user can log in. -/
theorem signup_overlap_locks_out :
    ¬ ∀ (accounts : Accounts) (attempts : List Attempt) (env : Env) (w : World)
      (schedule : List Nat), DistinctAccounts w.graph → ∀ k, AccountsUsable accounts attempts
        ((arrivals accounts attempts w).before env.handler schedule k) := by
  intro h
  obtain ⟨-, hlogin⟩ := h plainAccounts adaTwice .calm (.start emptyGraph) [0, 1, 0, 1]
    distinctAccounts_empty 4
  have hlocked := hlogin 0 ⟨⟨"ada", "secret", "1"⟩, ""⟩ ⟨"ada"⟩ rfl rfl .calm 0 rfl
  cases hlocked

end Example

end AtlasOfUs.Auth
