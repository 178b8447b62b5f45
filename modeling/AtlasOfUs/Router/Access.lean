import AtlasOfUs.Router.Accounts

namespace AtlasOfUs.Router

open Library GraphApi Auth

section Step

variable {setup : Setup} {request : Request} {g : Graph}

def Call.LeavesPersons (setup : Setup) (g : Graph) : Call → Prop
  | .publicGetNodes params => (JsonCall.getNodes params).LeavesPersons setup g
  | .secure _ call => call.LeavesPersons setup g
  | _ => True

def Request.credentials (setup : Setup) (request : Request) : Credentials :=
  (setup.keys.accounts request.now).credentials request.salt

def newcomer (g : Graph) (r : SignUpRequest) (hash : String) : Node :=
  ⟨g.freshId, userLabels, userProps r.username hash r.phone⟩

theorem persons_createUser (g : Graph) (r : SignUpRequest) (hash : String) :
    persons (createUserStatement r.username hash r.phone g).2 = persons g ++ [newcomer g r hash] := by
  refine (persons_createNode _ _).trans ?_
  rw [if_pos (by decide)]
  rfl

theorem serve_register (setup : Setup) {r : SignUpRequest} (hcall : request.call = .register r)
    (g : Graph) :
    ∃ exit, (setup.serve request g).1 = .register exit ∧
      SignupEnd (request.credentials setup) r request.env g exit (setup.serve request g).2 := by
  rw [Setup.serve, hcall]
  exact ⟨_, rfl, signup_end _ _ _ _⟩

theorem serve_login {given : LoginRequest} (hcall : request.call = .login given) (g : Graph) :
    (setup.serve request g).1 = .login (request.env.exec
      (login (setup.keys.accounts request.now) given) (World.start g)).exit := by
  rw [Setup.serve, hcall]

theorem persons_serve (hleaves : request.call.LeavesPersons setup g) (hg : PlainPersons g) :
    persons (setup.serve request g).2 = persons g ∨
      ∃ r hash, request.call = .register r ∧ Free r g ∧
        setup.keys.hashPassword request.salt r.password = some hash ∧
          (setup.serve request g).2 = (createUserStatement r.username hash r.phone g).2 := by
  cases hcall : request.call with
  | healthcheck =>
      rw [Setup.serve, hcall]
      exact .inl rfl
  | register r =>
      obtain ⟨exit, -, hend⟩ := serve_register setup hcall g
      rcases hend.graph with ⟨hsame, -⟩ | ⟨hash, hfree, hhash, hafter⟩
      · rw [hsame]
        exact .inl rfl
      · exact .inr ⟨r, hash, rfl, hfree, hhash, hafter⟩
  | login given =>
      left
      rw [Setup.serve, hcall]
      exact congrArg Auth.persons (login_state _ _ _ _)
  | publicGetNodes params =>
      rw [hcall] at hleaves
      rw [Setup.serve, hcall]
      exact .inl (persons_respondJson hleaves hg)
  | secure authorization call =>
      left
      rw [hcall] at hleaves
      rw [Setup.serve, hcall]
      simp only
      cases setup.keys.jwtAuthMiddleware request.now authorization with
      | none => rfl
      | some claims => exact persons_respond hleaves hg

/-- Every person is a user as signups make them, with a name and a phone number of its own. -/
structure Sound (g : Graph) : Prop where
  plain : PlainPersons g
  distinct : DistinctAccounts g

theorem distinctAccounts_congr {g' : Graph} (hsame : persons g' = persons g)
    (hg : DistinctAccounts g) : DistinctAccounts g' := by
  intro n hn m hm hnp hmp
  have hn' := mem_persons.2 ⟨hn, hnp⟩
  have hm' := mem_persons.2 ⟨hm, hmp⟩
  rw [hsame] at hn' hm'
  exact hg n (mem_persons.1 hn').1 m (mem_persons.1 hm').1 hnp hmp

theorem plainPersons_serve (hleaves : request.call.LeavesPersons setup g) (hg : PlainPersons g) :
    PlainPersons (setup.serve request g).2 := by
  rcases persons_serve hleaves hg with hsame | ⟨r, hash, -, -, -, hafter⟩
  · exact hg.congr hsame
  · intro n hn
    rw [hafter, persons_createUser, List.mem_append, List.mem_singleton] at hn
    rcases hn with hn | rfl
    · exact hg n hn
    · rfl

theorem Sound.serve (hleaves : request.call.LeavesPersons setup g) (hg : Sound g) :
    Sound (setup.serve request g).2 := by
  refine ⟨plainPersons_serve hleaves hg.plain, ?_⟩
  rcases persons_serve hleaves hg.plain with hsame | ⟨r, hash, -, hfree, -, hafter⟩
  · exact distinctAccounts_congr hsame hg.distinct
  · rw [hafter]
    exact hg.distinct.createUser hfree

theorem mem_persons_serve (hleaves : request.call.LeavesPersons setup g) (hg : PlainPersons g)
    {n : Node} (hn : n ∈ persons g) : n ∈ persons (setup.serve request g).2 := by
  rcases persons_serve hleaves hg with hsame | ⟨r, hash, -, -, -, hafter⟩
  · rwa [hsame]
  · rw [hafter, persons_createUser]
    exact List.mem_append_left _ hn

end Step

section Run

variable {setup : Setup} {requests : List Request} {g : Graph}

/-- From the one request to the other, persons are left to the signups. -/
def LeavesPersons (setup : Setup) (requests : List Request) (g : Graph) (first last : Nat) : Prop :=
  ∀ k request, first ≤ k → k < last → requests[k]? = some request →
    request.call.LeavesPersons setup (setup.graphAt requests g k)

theorem LeavesPersons.mono {first last first' last' : Nat}
    (h : LeavesPersons setup requests g first last) (hfirst : first ≤ first') (hlast : last' ≤ last) :
    LeavesPersons setup requests g first' last' :=
  fun k request hk hk' => h k request (hfirst.trans hk) (hk'.trans_le hlast)

theorem graphAt_succ {k : Nat} {request : Request} (h : requests[k]? = some request) :
    setup.graphAt requests g (k + 1) = (setup.serve request (setup.graphAt requests g k)).2 :=
  stateAt_succ _ h g

theorem graphAt_succ_of_none {k : Nat} (h : requests[k]? = none) :
    setup.graphAt requests g (k + 1) = setup.graphAt requests g k :=
  stateAt_succ_of_none _ h g

theorem responseAt_eq {k : Nat} {request : Request} (h : requests[k]? = some request) :
    setup.responseAt requests g k =
      some (setup.serve request (setup.graphAt requests g k)).1 := by
  rw [Setup.responseAt, h, Option.map_some]

theorem kept_between {P : Graph → Prop} {first last : Nat}
    (hleaves : LeavesPersons setup requests g first last)
    (hstep : ∀ (request : Request) (g : Graph), request.call.LeavesPersons setup g → P g →
      P (setup.serve request g).2) (hle : first ≤ last) (hfirst : P (setup.graphAt requests g first)) :
    P (setup.graphAt requests g last) := by
  induction last, hle using Nat.le_induction with
  | base => exact hfirst
  | succ k hk ih =>
      have hbefore := ih (hleaves.mono le_rfl (Nat.le_succ k))
      cases hrequest : requests[k]? with
      | none => rwa [graphAt_succ_of_none hrequest]
      | some request =>
          rw [graphAt_succ hrequest]
          exact hstep request _ (hleaves k request hk (Nat.lt_succ_self k) hrequest) hbefore

theorem sound_at {first last : Nat} (hleaves : LeavesPersons setup requests g first last)
    (hle : first ≤ last) (hg : Sound (setup.graphAt requests g first)) :
    Sound (setup.graphAt requests g last) :=
  kept_between hleaves (fun _ _ => Sound.serve) hle hg

theorem mem_persons_at {first last : Nat} (hleaves : LeavesPersons setup requests g first last)
    (hle : first ≤ last) (hg : PlainPersons (setup.graphAt requests g first)) {n : Node}
    (hn : n ∈ persons (setup.graphAt requests g first)) :
    n ∈ persons (setup.graphAt requests g last) :=
  (kept_between (P := fun g => PlainPersons g ∧ n ∈ persons g) hleaves
    (fun _ _ hcall h => ⟨plainPersons_serve hcall h.1, mem_persons_serve hcall h.1 h.2⟩) hle
    ⟨hg, hn⟩).2

end Run

section Demo

def firstDay : Jwt where
  encode _ claims := if claims = Keys.claimsOf 0 claims.sub then some claims.sub else none
  decode _ now token := if now ≤ 86460 then some (Keys.claimsOf 0 token) else none
  decode_encode := by
    intro secret claims token h now
    split at h
    · next hclaims =>
        obtain rfl := Option.some.inj h
        rw [← hclaims, show claims.exp + leeway = 86460 by rw [hclaims]; rfl]
    · cases h

def plainKeys : Keys where
  hashPassword := plainAccounts.hashPassword
  verifyPassword := plainAccounts.verifyPassword
  verify_iff := plainAccounts.verify_iff
  jwt := firstDay
  jwtSecretVar := none

def plainSetup : Setup where
  keys := plainKeys
  database := ⟨Cypher.ascii, fun _ => 0, [], fun _ g => ([], g)⟩
  conv := Wire.plainConversion
  codec :=
    { value := fun _ => .error "expected value"
      strings := fun _ => .error "expected value"
      float := fun _ => ""
      concepts := fun _ => .error "expected value"
      violations := fun _ => "" }
  tables := ⟨id, fun _ => true⟩
  index := .exact (fun _ => none) (fun _ _ => 0)
  lower := id
  fromStr := fun _ => none

def signsUp (username password phone : String) : Request :=
  ⟨0, "", Env.calm, .register ⟨username, password, phone⟩⟩

def logsIn (username password : String) : Request := ⟨0, "", Env.calm, .login ⟨username, password⟩⟩

def asks (now : Nat) (token : String) (call : JsonCall) : Request :=
  ⟨now, "", Env.calm, .secure (Keys.authorization token) (.json call)⟩

end Demo

section Tokens

variable {setup : Setup} {requests : List Request} {g : Graph}

/-- The name and the password that a call asks for a token with. -/
def Call.account : Call → Option (String × String)
  | .register r => some (r.username, r.password)
  | .login given => some (given.username, given.password)
  | _ => none

/-- At the `j`-th request, which came at this time with this name and password, the token was
handed out. -/
def HandedOut (setup : Setup) (requests : List Request) (g : Graph) (j now : Nat)
    (username password token : String) : Prop :=
  ∃ request response, requests[j]? = some request ∧ request.now = now ∧
    request.call.account = some (username, password) ∧
      setup.responseAt requests g j = some response ∧ response.token = some token

/-- The `i`-th request is a signup that has created the user it was asked for. -/
structure Opens (setup : Setup) (requests : List Request) (g : Graph) (i : Nat) (r : SignUpRequest)
    (hash : String) : Prop where
  asked : ∃ request, requests[i]? = some request ∧ request.call = .register r ∧
    setup.keys.hashPassword request.salt r.password = some hash
  free : Free r (setup.graphAt requests g i)
  created : setup.graphAt requests g (i + 1) =
    (createUserStatement r.username hash r.phone (setup.graphAt requests g i)).2

/-- The password is that of the account, which was there before the first request or was opened by
the `j`-th or one before it. -/
inductive Owns (setup : Setup) (requests : List Request) (g : Graph) (j : Nat)
    (username password : String) : Prop
  | before (n : Node) (hash : String) (hn : n ∈ persons g)
      (hname : n.props "username" = some (.str username))
      (hstored : n.props "password" = some (.str hash))
      (hverified : setup.keys.verifyPassword password hash = some true)
  | opened (i : Nat) (r : SignUpRequest) (hash : String) (hi : i ≤ j)
      (hopens : Opens setup requests g i r hash) (hname : r.username = username)
      (hpassword : r.password = password)

def Accounted (setup : Setup) (requests : List Request) (g : Graph) (k : Nat) : Prop :=
  ∀ n ∈ persons (setup.graphAt requests g k), n ∈ persons g ∨
    ∃ i r hash, i < k ∧ Opens setup requests g i r hash ∧
      n.props = userProps r.username hash r.phone

theorem plainPersons_at {first last : Nat} (hleaves : LeavesPersons setup requests g first last)
    (hle : first ≤ last) (hg : PlainPersons (setup.graphAt requests g first)) :
    PlainPersons (setup.graphAt requests g last) :=
  kept_between hleaves (fun _ _ => plainPersons_serve) hle hg

theorem accounted_at {k : Nat} (hleaves : LeavesPersons setup requests g 0 k)
    (hg : PlainPersons g) : Accounted setup requests g k := by
  induction k with
  | zero => exact fun n hn => .inl hn
  | succ k ih =>
      have hbefore := hleaves.mono le_rfl (Nat.le_succ k)
      have hearlier : ∀ n ∈ persons (setup.graphAt requests g k), n ∈ persons g ∨
          ∃ i r hash, i < k + 1 ∧ Opens setup requests g i r hash ∧
            n.props = userProps r.username hash r.phone := by
        intro n hn
        rcases ih hbefore n hn with hn | ⟨i, r, hash, hi, h⟩
        · exact .inl hn
        · exact .inr ⟨i, r, hash, hi.trans (Nat.lt_succ_self k), h⟩
      intro n hn
      cases hrequest : requests[k]? with
      | none =>
          rw [graphAt_succ_of_none hrequest] at hn
          exact hearlier n hn
      | some request =>
          rw [graphAt_succ hrequest] at hn
          rcases persons_serve (hleaves k request k.zero_le (Nat.lt_succ_self k) hrequest)
            (plainPersons_at hbefore k.zero_le hg) with hsame | ⟨r, hash, hcall, hfree, hhash, hafter⟩
          · rw [hsame] at hn
            exact hearlier n hn
          · have hopens : Opens setup requests g k r hash :=
              ⟨⟨request, hrequest, hcall, hhash⟩, hfree, (graphAt_succ hrequest).trans hafter⟩
            rw [hafter, persons_createUser, List.mem_append, List.mem_singleton] at hn
            rcases hn with hn | rfl
            · exact hearlier n hn
            · exact .inr ⟨k, r, hash, Nat.lt_succ_self k, hopens, rfl⟩

theorem mem_personsNamed {username : String} {n : Node} :
    n ∈ personsNamed g username ↔ n ∈ persons g ∧ n.props "username" = some (.str username) := by
  rw [personsNamed, List.mem_filter, decide_eq_true_eq]

theorem owns_of_login {j : Nat} {request : Request} {given : LoginRequest} {response : AuthResponse}
    (hleaves : LeavesPersons setup requests g 0 j) (hg : PlainPersons g)
    (h : (request.env.exec (login (setup.keys.accounts request.now) given)
      (World.start (setup.graphAt requests g j))).exit = .ok response) :
    Owns setup requests g j given.username given.password := by
  obtain ⟨-, n, hash, hnamed, hstored, hverified⟩ := named_of_login h
  obtain ⟨hn, hname⟩ := mem_personsNamed.1 (hnamed ▸ List.mem_singleton_self n)
  rcases accounted_at hleaves hg n hn with hn | ⟨i, r, hash', hi, hopens, hprops⟩
  · exact .before n hash hn hname hstored hverified
  · obtain ⟨request', -, -, hhash⟩ := hopens.asked
    rw [hprops] at hname hstored
    obtain rfl : hash' = hash := Value.str.inj (Option.some.inj hstored)
    have hsame : given.password = r.password := by
      rw [show (setup.keys.accounts request.now).verifyPassword = setup.keys.verifyPassword from rfl,
        setup.keys.verify_iff hhash] at hverified
      exact of_decide_eq_true (Option.some.inj hverified)
    exact .opened i r hash' hi.le hopens (Value.str.inj (Option.some.inj hname)) hsame.symm

/-- A token that is handed out was made for the name at that time, and its holder knows the
password of the account. -/
theorem handedOut_owns {j now : Nat} {username password token : String}
    (hleaves : LeavesPersons setup requests g 0 j) (hg : PlainPersons g)
    (h : HandedOut setup requests g j now username password token) :
    setup.keys.generateToken now username = some token ∧
      Owns setup requests g j username password := by
  obtain ⟨request, response, hrequest, rfl, haccount, hresponse, htoken⟩ := h
  rw [responseAt_eq hrequest] at hresponse
  obtain rfl := Option.some.inj hresponse
  cases hcall : request.call with
  | register r =>
      obtain ⟨exit, hexit, hend⟩ := serve_register setup hcall (setup.graphAt requests g j)
      rw [hcall, Call.account] at haccount
      rw [hexit] at htoken
      obtain ⟨hname, hpassword⟩ := Prod.mk.inj (Option.some.inj haccount)
      have hafter : setup.graphAt requests g (j + 1) =
          (setup.serve request (setup.graphAt requests g j)).2 := graphAt_succ hrequest
      generalize (setup.serve request (setup.graphAt requests g j)).2 = after at hend hafter
      cases hend with
      | refused error | failed error => cases htoken
      | created hvalid hfree hhash hmade =>
          obtain rfl := Option.some.inj htoken
          subst hname hpassword
          exact ⟨hmade, .opened j r _ le_rfl ⟨⟨request, hrequest, hcall, hhash⟩, hfree, hafter⟩ rfl rfl⟩
  | login given =>
      rw [hcall, Call.account] at haccount
      rw [serve_login hcall] at htoken
      obtain ⟨hname, hpassword⟩ := Prod.mk.inj (Option.some.inj haccount)
      subst hname hpassword
      cases hexit : (request.env.exec (login (setup.keys.accounts request.now) given)
          (World.start (setup.graphAt requests g j))).exit with
      | ok response =>
          rw [hexit] at htoken
          obtain rfl := Option.some.inj htoken
          exact ⟨(named_of_login hexit).1, owns_of_login hleaves hg hexit⟩
      | err error | panicked =>
          rw [hexit] at htoken
          cases htoken
  | healthcheck | publicGetNodes params | secure authorization call =>
      rw [hcall] at haccount
      cases haccount

theorem respond_ne_unauthorized (env : Env) (call : SecureCall) (g : Graph) :
    (setup.respond env call g).1 ≠ .unauthorized := by
  cases call with
  | json call => nofun
  | generateDomain request =>
      unfold Setup.respond
      simp only
      split <;> nofun

theorem serve_secure {request : Request} {authorization : Option String} {call : SecureCall}
    (hcall : request.call = .secure authorization call) (g : Graph) :
    (setup.serve request g).1 ≠ .unauthorized ↔
      (setup.keys.jwtAuthMiddleware request.now authorization).isSome := by
  rw [Setup.serve, hcall]
  simp only
  cases setup.keys.jwtAuthMiddleware request.now authorization with
  | none => simp
  | some claims => simpa using respond_ne_unauthorized request.env call g

/-- No token passes the check but one that the server has handed out. -/
def Unforged (setup : Setup) (requests : List Request) (g : Graph) : Prop :=
  ∀ k request authorization call token, requests[k]? = some request →
    request.call = .secure authorization call → Keys.bearer authorization = some token →
      (setup.keys.jwt.decode setup.keys.jwtSecret request.now token).isSome →
        ∃ j < k, ∃ now username password, HandedOut setup requests g j now username password token

/-- In every run in which persons are left to the signups and tokens are not
forged, a call behind the token check is answered exactly to who bears a token
that was handed out at most a day and a minute ago, to one who gave the password of the account. -/
theorem served_iff_authentic (setup : Setup) {requests : List Request} {g : Graph}
    (hg : PlainPersons g) {k : Nat} (hleaves : LeavesPersons setup requests g 0 k)
    (hunforged : Unforged setup requests g) {request : Request} (hk : requests[k]? = some request)
    {authorization : Option String} {call : SecureCall}
    (hcall : request.call = .secure authorization call) :
    setup.responseAt requests g k ≠ some .unauthorized ↔
      ∃ j < k, ∃ now username password token, Keys.bearer authorization = some token ∧
        HandedOut setup requests g j now username password token ∧ request.now ≤ now + 86460 ∧
          Owns setup requests g j username password := by
  rw [responseAt_eq hk, ne_eq, Option.some.injEq, ← ne_eq, serve_secure hcall, Keys.jwtAuthMiddleware]
  constructor
  · intro hpassed
    cases hbearer : Keys.bearer authorization with
    | none =>
        rw [hbearer] at hpassed
        cases hpassed
    | some token =>
        rw [hbearer, Option.bind_some] at hpassed
        obtain ⟨j, hj, now, username, password, hout⟩ :=
          hunforged k request authorization call token hk hcall hbearer hpassed
        obtain ⟨hmade, howns⟩ := handedOut_owns (hleaves.mono le_rfl hj.le) hg hout
        refine ⟨j, hj, now, username, password, token, rfl, hout, ?_, howns⟩
        rw [Keys.decode_generated hmade] at hpassed
        by_contra hlate
        rw [if_neg hlate] at hpassed
        cases hpassed
  · rintro ⟨j, hj, now, username, password, token, hbearer, hout, htime, -⟩
    obtain ⟨hmade, -⟩ := handedOut_owns (hleaves.mono le_rfl hj.le) hg hout
    rw [hbearer, Option.bind_some, Keys.decode_generated hmade, if_pos htime]
    rfl

def adaAsks : List Request :=
  [signsUp "ada" "secret" "1", asks 3600 "ada" (.getDomain "Chess")]

theorem handedOut_ada :
    HandedOut plainSetup adaAsks emptyGraph 0 0 "ada" "secret" "ada" :=
  ⟨signsUp "ada" "secret" "1", .register (.ok ⟨"ada"⟩), rfl, rfl, rfl, rfl, rfl⟩

theorem plainPersons_empty : PlainPersons emptyGraph := fun _ hn => absurd hn List.not_mem_nil

theorem unforged_adaAsks : Unforged plainSetup adaAsks emptyGraph := by
  intro k request authorization call token hk hcall hbearer hpassed
  match k with
  | 0 =>
      obtain rfl := Option.some.inj hk
      cases hcall
  | 1 =>
      obtain rfl := Option.some.inj hk
      obtain ⟨rfl, -⟩ := Call.secure.inj hcall
      rw [Keys.bearer_authorization] at hbearer
      obtain rfl := Option.some.inj hbearer
      exact ⟨0, by decide, 0, "ada", "secret", handedOut_ada⟩
  | k + 2 => cases hk

theorem leavesPersons_adaAsks : LeavesPersons plainSetup adaAsks emptyGraph 0 1 := by
  intro k request _ hk hrequest
  obtain rfl : k = 0 := by omega
  obtain rfl := Option.some.inj hrequest
  trivial

theorem adaAsks_served :
    plainSetup.responseAt adaAsks emptyGraph 1 ≠ some .unauthorized ↔
      ∃ j < 1, ∃ now username password token,
        Keys.bearer (Keys.authorization "ada") = some token ∧
        HandedOut plainSetup adaAsks emptyGraph j now username password token ∧
        3600 ≤ now + 86460 ∧ Owns plainSetup adaAsks emptyGraph j username password :=
  served_iff_authentic plainSetup plainPersons_empty leavesPersons_adaAsks unforged_adaAsks rfl rfl

end Tokens

section Standing

variable {setup : Setup} {requests : List Request} {g : Graph}

/-- What the account is to the `k`-th request: a login by its name gets in with this password and with
no other, and nobody can sign up with its name or its phone number. -/
structure Stands (setup : Setup) (requests : List Request) (g : Graph) (k : Nat)
    (username phone password : String) : Prop where
  login : ∀ request given token, requests[k]? = some request → request.call = .login given →
    given.username = username → given.valid = true → request.env.outcome 0 = .done →
      setup.keys.generateToken request.now username = some token →
        setup.responseAt requests g k = some (.login (if given.password = password then .ok ⟨token⟩
          else .err (.unauthorized, "invalid username or password")))
  register : ∀ request r, requests[k]? = some request → request.call = .register r →
    r.username = username ∨ r.phone = phone →
      ∃ error, setup.responseAt requests g k = some (.register (.err error))

/-- The node of an account, with a hash of its password. -/
structure Account (setup : Setup) (n : Node) (username phone password : String) : Prop where
  name : n.props "username" = some (.str username)
  phone : n.props "phone" = some (.str phone)
  stored : ∃ salt hash, setup.keys.hashPassword salt password = some hash ∧
    n.props "password" = some (.str hash)

theorem personsNamed_eq_singleton (hg : Sound g) {n : Node} (hn : n ∈ persons g) {username : String}
    (hname : n.props "username" = some (.str username)) : personsNamed g username = [n] := by
  have hnodes : (persons g).Nodup := (List.Nodup.of_map _ g.nodeIds_nodup).filter _
  apply filter_eq_singleton hnodes hn (decide_eq_true hname)
  intro m hm hmatch
  obtain ⟨hm, hmp⟩ := mem_persons.1 hm
  obtain ⟨hn, hnp⟩ := mem_persons.1 hn
  exact hg.distinct m hm n hn hmp hnp "username" (by simp) _ (of_decide_eq_true hmatch) hname

theorem Account.stands {k : Nat} (hg : Sound (setup.graphAt requests g k)) {n : Node}
    (hn : n ∈ persons (setup.graphAt requests g k)) {username phone password : String}
    (haccount : Account setup n username phone password) :
    Stands setup requests g k username phone password where
  login request given token hrequest hcall hname hvalid hdone htoken := by
    obtain ⟨salt, hash, hhash, hstored⟩ := haccount.stored
    subst hname
    have hnamed := personsNamed_eq_singleton hg hn haccount.name
    rw [responseAt_eq hrequest, serve_login hcall]
    exact congrArg (fun exit => some (Response.login exit))
      (login_named hnamed hstored hhash htoken hvalid hdone)
  register request r hrequest hcall hshares := by
    obtain ⟨exit, hexit, hend⟩ := serve_register setup hcall
      (setup.graphAt requests g k)
    rw [responseAt_eq hrequest, hexit]
    generalize (setup.serve request (setup.graphAt requests g k)).2 = after at hend
    cases hend with
    | refused error | failed error => exact ⟨error, rfl⟩
    | created hvalid hfree hhash htoken =>
        obtain ⟨hnode, hperson⟩ := mem_persons.1 hn
        obtain ⟨hname, hphone⟩ := hfree n hnode hperson
        rcases hshares with rfl | rfl
        · exact absurd haccount.name hname
        · exact absurd haccount.phone hphone

theorem Account.stands_later {first k : Nat} (hleaves : LeavesPersons setup requests g first k)
    (hle : first ≤ k) (hg : Sound (setup.graphAt requests g first)) {n : Node}
    (hn : n ∈ persons (setup.graphAt requests g first)) {username phone password : String}
    (haccount : Account setup n username phone password) :
    Stands setup requests g k username phone password :=
  haccount.stands (sound_at hleaves hle hg) (mem_persons_at hleaves hle hg.plain hn)

/-- Who was told that the signup succeeded keeps the account: in every run in
which persons are left to the signups, its name goes with the password that was
registered, and with no other, and is not given away again. -/
theorem account_stands (setup : Setup) {requests : List Request} {g : Graph} (hg : Sound g)
    {i k : Nat} (hik : i < k) (hleaves : LeavesPersons setup requests g 0 k) {request : Request}
    (hrequest : requests[i]? = some request) {r : SignUpRequest} (hcall : request.call = .register r)
    {response : AuthResponse}
    (hresponse : setup.responseAt requests g i = some (.register (.ok response))) :
    Stands setup requests g k r.username r.phone r.password := by
  have hbefore : Sound (setup.graphAt requests g i) :=
    sound_at (hleaves.mono le_rfl hik.le) i.zero_le hg
  have hsound : Sound (setup.graphAt requests g (i + 1)) :=
    sound_at (hleaves.mono le_rfl hik) (i + 1).zero_le hg
  obtain ⟨exit, hexit, hend⟩ := serve_register setup hcall (setup.graphAt requests g i)
  rw [responseAt_eq hrequest, hexit] at hresponse
  obtain rfl := Response.register.inj (Option.some.inj hresponse)
  have hafter : setup.graphAt requests g (i + 1) =
      (setup.serve request (setup.graphAt requests g i)).2 := graphAt_succ hrequest
  generalize (setup.serve request (setup.graphAt requests g i)).2 = after at hend hafter
  cases hend with
  | @created hash token hvalid hfree hhash htoken =>
      have hn : newcomer (setup.graphAt requests g i) r hash ∈
          persons (setup.graphAt requests g (i + 1)) := by
        rw [hafter, persons_createUser]
        exact List.mem_append_right _ (List.mem_singleton_self _)
      exact Account.stands_later (hleaves.mono (i + 1).zero_le le_rfl) hik hsound hn
        ⟨rfl, rfl, request.salt, hash, hhash, rfl⟩

def adaReturns : List Request := [signsUp "ada" "secret" "1", logsIn "ada" "secret"]

theorem sound_empty : Sound emptyGraph := ⟨plainPersons_empty, distinctAccounts_empty⟩

theorem adaReturns_stands : Stands plainSetup adaReturns emptyGraph 1 "ada" "1" "secret" := by
  have hleaves : LeavesPersons plainSetup adaReturns emptyGraph 0 1 := by
    intro k request _ hk hrequest
    obtain rfl : k = 0 := by omega
    obtain rfl := Option.some.inj hrequest
    trivial
  have hresponse : plainSetup.responseAt adaReturns emptyGraph 0 =
      some (.register (.ok ⟨"ada"⟩)) := rfl
  exact account_stands plainSetup sound_empty Nat.one_pos hleaves rfl rfl hresponse

end Standing

section Takeover

variable {setup : Setup} {requests : List Request} {g : Graph}

def passwordChange (id : ElementId) (hash : String) : Wire.UpdateNodeRequest :=
  ⟨id, none, some ⟨[("password", .str hash)], List.nodup_singleton _⟩⟩

def withPassword (hash : String) : Props → Props :=
  assign [("password", some (.str hash))]

theorem graph_passwordChange {env : Env} (hdone : env.outcome 0 = .done) (id : ElementId)
    (hash : String) (g : Graph) :
    (setup.respondJson env (.updateNode (passwordChange id hash)) g).2 =
      g.editNodes (fun n => n.id = id) (Wire.relabel none) (withPassword hash) := by
  have hstate : (setup.respondJson env (.updateNode (passwordChange id hash)) g).2 =
      (env.exec (Wire.updateNode setup.conv (passwordChange id hash) : Api _)
        (World.start g)).state.graph := congrArg World.graph (state_answer _ _ _)
  rw [hstate, Wire.graph_updateNode env _ (by rintro ⟨-, ⟨⟩⟩), World.start, hdone,
    Outcome.after_done]
  rfl

theorem exists_of_mem_edited {id : ElementId} {hash : String} {n' : Node}
    (hn' : n' ∈ (g.editNodes (fun n => n.id = id) (Wire.relabel none) (withPassword hash)).nodes) :
    ∃ n ∈ g.nodes, n' = (if n.id = id then ⟨n.id, n.labels, withPassword hash n.props⟩ else n) ∧
      n'.labels = n.labels ∧ ∀ key ∈ ["username", "phone"], n'.props key = n.props key := by
  obtain ⟨n, hn, rfl⟩ := List.mem_map.1 hn'
  refine ⟨n, hn, ?_⟩
  by_cases hid : n.id = id
  · rw [if_pos (decide_eq_true hid), if_pos hid]
    exact ⟨rfl, rfl, by simp [withPassword, assign, List.lookup_cons]⟩
  · rw [if_neg (by simpa using hid), if_neg hid]
    exact ⟨rfl, rfl, fun _ _ => rfl⟩

theorem sound_passwordChange (hg : Sound g) (id : ElementId) (hash : String) :
    Sound (g.editNodes (fun n => n.id = id) (Wire.relabel none) (withPassword hash)) where
  plain n' hn' := by
    obtain ⟨hn', hperson⟩ := mem_persons.1 hn'
    obtain ⟨n, hn, -, hlabels, -⟩ := exists_of_mem_edited hn'
    rw [Node.hasLabel, hlabels] at hperson
    rw [hlabels]
    exact hg.plain n (mem_persons.2 ⟨hn, hperson⟩)
  distinct := by
    intro n' hn' m' hm' hnp hmp key hkey v hnv hmv
    obtain ⟨n, hn, hn', hnlabels, hnprops⟩ := exists_of_mem_edited hn'
    obtain ⟨m, hm, hm', hmlabels, hmprops⟩ := exists_of_mem_edited hm'
    rw [Node.hasLabel, hnlabels] at hnp
    rw [Node.hasLabel, hmlabels] at hmp
    rw [hnprops key hkey] at hnv
    rw [hmprops key hkey] at hmv
    obtain rfl := hg.distinct n hn m hm hnp hmp key hkey v hnv hmv
    rw [hn', hm']

theorem mem_persons_passwordChange {n : Node} (hn : n ∈ persons g) (hash : String) :
    (⟨n.id, n.labels, withPassword hash n.props⟩ : Node) ∈
      persons (g.editNodes (fun m => m.id = n.id) (Wire.relabel none) (withPassword hash)) := by
  obtain ⟨hmem, hperson⟩ := mem_persons.1 hn
  refine mem_persons.2 ⟨List.mem_map.2 ⟨n, hmem, ?_⟩, hperson⟩
  rw [if_pos (decide_eq_true rfl)]
  rfl

/-- The token says whose it is, and nothing asks: with a token that was handed out to whomever, one
call sets the password of any account, and from then on that account stands with the new one. -/
theorem takeover_stands (setup : Setup) {requests : List Request} {g : Graph} (hg : Sound g)
    {j k l : Nat} (hjk : j < k) (hkl : k < l) (hbefore : LeavesPersons setup requests g 0 k)
    (hafter : LeavesPersons setup requests g (k + 1) l) {now : Nat} {holder secret token : String}
    (hout : HandedOut setup requests g j now holder secret token) {request : Request}
    (hrequest : requests[k]? = some request) (htime : request.now ≤ now + 86460)
    (hdone : request.env.outcome 0 = .done) {n : Node}
    (hn : n ∈ persons (setup.graphAt requests g k)) {username phone : String}
    (hname : n.props "username" = some (.str username))
    (hphone : n.props "phone" = some (.str phone)) {salt password hash : String}
    (hhash : setup.keys.hashPassword salt password = some hash)
    (hcall : request.call = .secure (Keys.authorization token)
      (.json (.updateNode (passwordChange n.id hash)))) :
    Stands setup requests g l username phone password := by
  obtain ⟨hmade, -⟩ := handedOut_owns (hbefore.mono le_rfl hjk.le) hg.plain hout
  have hsound : Sound (setup.graphAt requests g k) := sound_at hbefore k.zero_le hg
  have hnext : setup.graphAt requests g (k + 1) =
      (setup.graphAt requests g k).editNodes (fun m => m.id = n.id) (Wire.relabel none)
        (withPassword hash) := by
    rw [graphAt_succ hrequest, Setup.serve, hcall]
    simp only
    rw [Keys.jwtAuthMiddleware_generated hmade, if_pos htime]
    exact graph_passwordChange hdone n.id hash _
  have haccount : Account setup ⟨n.id, n.labels, withPassword hash n.props⟩ username phone password := by
    refine ⟨?_, ?_, salt, hash, hhash, rfl⟩
    · rw [← hname]
      rfl
    · rw [← hphone]
      rfl
  refine Account.stands_later hafter hkl ?_ ?_ haccount
  · rw [hnext]
    exact sound_passwordChange hsound n.id hash
  · rw [hnext]
    exact mem_persons_passwordChange hn hash

def bobsNode : Node :=
  newcomer (createUserStatement "ada" "secret" "1" emptyGraph).2 ⟨"bob", "word", "2"⟩ "word"

/-- Ada and Bob sign up, Ada writes a password into Bob's node and logs in as him. -/
def adaAsBob : List Request :=
  [signsUp "ada" "secret" "1", signsUp "bob" "word" "2",
    asks 0 "ada" (.updateNode (passwordChange bobsNode.id "mine")), logsIn "bob" "mine"]

theorem adaAsBob_stands : Stands plainSetup adaAsBob emptyGraph 3 "bob" "2" "mine" := by
  have hbefore : LeavesPersons plainSetup adaAsBob emptyGraph 0 2 := by
    intro k request _ hk hrequest
    match k with
    | 0 | 1 =>
        obtain rfl := Option.some.inj hrequest
        trivial
    | k + 2 => omega
  have hout : HandedOut plainSetup adaAsBob emptyGraph 0 0 "ada" "secret" "ada" :=
    ⟨signsUp "ada" "secret" "1", .register (.ok ⟨"ada"⟩), rfl, rfl, rfl, rfl, rfl⟩
  have hafter : LeavesPersons plainSetup adaAsBob emptyGraph 3 3 := by
    intro k request hk hk'
    omega
  have hbob : bobsNode ∈ persons (plainSetup.graphAt adaAsBob emptyGraph 2) :=
    List.mem_cons_of_mem _ (List.mem_singleton_self _)
  have hhash : plainSetup.keys.hashPassword "" "mine" = some "mine" := rfl
  exact takeover_stands plainSetup sound_empty Nat.two_pos (Nat.lt_succ_self 2) hbefore hafter hout rfl
    (by decide) rfl hbob rfl rfl hhash rfl

end Takeover

end AtlasOfUs.Router
