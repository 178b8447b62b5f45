import AtlasOfUs.Auth.Overlap
import AtlasOfUs.Router.Persons

namespace AtlasOfUs.Auth

open Library

section Service

variable {credentials : Credentials} {r : SignUpRequest} {env : Env} {g : Graph}

/-- A program that starts with a statement that reads goes on in the graph as it is. -/
theorem exec_read_bind {ε α : Type} {q : Statement} (hq : ∀ g, (q g).2 = g)
    (k : Except String RowStream → Service Empty Empty ε α) (env : Env) (g : Graph) :
    (env.exec (execute q >>= k) (World.start g)).exit =
        (env.exec (k ((env.outcome 0).reply (q g).1)) ⟨g, 1⟩).exit ∧
      (env.exec (execute q >>= k) (World.start g)).state =
        (env.exec (k ((env.outcome 0).reply (q g).1)) ⟨g, 1⟩).state := by
  have hafter : (⟨(env.outcome 0).after q g, 1⟩ : World) = ⟨g, 1⟩ := by
    rw [Outcome.after, hq, ite_self]
  rw [exec_bind, exec_execute, Execution.andThen_ok, ← hafter]
  exact ⟨rfl, rfl⟩

theorem exec_checkTaken (r : SignUpRequest) (env : Env) (g : Graph) :
    (env.exec (checkTaken r) (World.start g)).state = ⟨g, 1⟩ ∧
      ((∃ error, (env.exec (checkTaken r) (World.start g)).exit = .err error) ∨
        (env.exec (checkTaken r) (World.start g)).exit = .ok () ∧ Free r g) := by
  obtain ⟨hexit, hstate⟩ := exec_read_bind (q := takenStatement r.username r.phone)
    (fun _ => rfl) _ env g
  rw [checkTaken, hexit, hstate]
  cases hreply : (env.outcome 0).reply (takenStatement r.username r.phone g).1 with
  | error e => exact ⟨rfl, .inl ⟨_, rfl⟩⟩
  | ok rs =>
      rcases rs with ⟨rows, error⟩
      cases error with
      | some e => exact ⟨rfl, .inl ⟨_, rfl⟩⟩
      | none =>
          cases rows with
          | cons row rows => exact ⟨rfl, .inl ⟨_, rfl⟩⟩
          | nil => exact ⟨rfl, .inr ⟨rfl, free_of_no_rows (Outcome.rows_of_reply hreply)⟩⟩

/-- What a signup may come to: it has created nobody, or, where it found nobody in its way, the user it
was asked for, and it hands a token out only once that user is created. -/
inductive SignupEnd (credentials : Credentials) (r : SignUpRequest) (env : Env) (g : Graph) :
    Exit ErrorResponse AuthResponse → Graph → Prop
  | refused (error : ErrorResponse) : SignupEnd credentials r env g (.err error) g
  | failed (error : ErrorResponse) {hash : String} (hvalid : r.valid = true) (hfree : Free r g)
      (hhash : credentials.hashPassword r.password = some hash) :
      SignupEnd credentials r env g (.err error)
        ((env.outcome 1).after (createUserStatement r.username hash r.phone) g)
  | created {hash token : String} (hvalid : r.valid = true) (hfree : Free r g)
      (hhash : credentials.hashPassword r.password = some hash)
      (htoken : credentials.generateToken r.username = some token) :
      SignupEnd credentials r env g (.ok ⟨token⟩)
        (createUserStatement r.username hash r.phone g).2

theorem SignupEnd.graph {exit : Exit ErrorResponse AuthResponse} {after : Graph}
    (h : SignupEnd credentials r env g exit after) :
    (after = g ∧ ∃ error, exit = .err error) ∨
      ∃ hash, Free r g ∧ credentials.hashPassword r.password = some hash ∧
        after = (createUserStatement r.username hash r.phone g).2 := by
  cases h with
  | refused error => exact .inl ⟨rfl, error, rfl⟩
  | failed error hvalid hfree hhash =>
      rw [Outcome.after]
      split
      · exact .inr ⟨_, hfree, hhash, rfl⟩
      · exact .inl ⟨rfl, error, rfl⟩
  | created hvalid hfree hhash htoken => exact .inr ⟨_, hfree, hhash, rfl⟩

theorem insertUser_end {hash : String} (hvalid : r.valid = true) (hfree : Free r g)
    (hhash : credentials.hashPassword r.password = some hash) (env : Env) :
    SignupEnd credentials r env g (env.exec (insertUser credentials r) ⟨g, 1⟩).exit
      (env.exec (insertUser credentials r) ⟨g, 1⟩).state.graph := by
  have hfailed : SignupEnd credentials r env g (.err internalError)
      ((env.outcome 1).after (createUserStatement r.username hash r.phone) g) :=
    .failed internalError hvalid hfree hhash
  simp only [insertUser, hhash]
  rw [exec_bind, exec_runStatement, Execution.andThen_ok]
  cases houtcome : env.outcome 1 with
  | done =>
      cases htoken : credentials.generateToken r.username with
      | none =>
          rw [houtcome] at hfailed
          exact hfailed
      | some token => exact .created hvalid hfree hhash htoken
  | failed applied e | cut applied n e =>
      rw [houtcome] at hfailed
      exact hfailed

theorem signup_end (credentials : Credentials) (r : SignUpRequest) (env : Env) (g : Graph) :
    SignupEnd credentials r env g (env.exec (signup credentials r) (World.start g)).exit
      (env.exec (signup credentials r) (World.start g)).state.graph := by
  rw [signup_eq]
  by_cases hvalid : r.valid = true
  · rw [if_neg (by simp [hvalid]), exec_bind]
    obtain ⟨hstate, ⟨error, hexit⟩ | ⟨hexit, hfree⟩⟩ := exec_checkTaken r env g
    · rw [Execution.exit_andThen_err hexit, Execution.state_andThen_err hexit, hstate]
      exact .refused error
    · rw [Execution.exit_andThen hexit, Execution.state_andThen hexit, hstate]
      cases hhash : credentials.hashPassword r.password with
      | none =>
          rw [insertUser, hhash]
          exact .refused internalError
      | some hash => exact insertUser_end hvalid hfree hhash env
  · rw [if_pos (by simpa using hvalid)]
    exact .refused invalidRequest

variable {accounts : Accounts} {given : LoginRequest}

def personsNamed (g : Graph) (username : String) : List Node :=
  (persons g).filter fun n => n.props "username" = some (.str username)

theorem passwordStatement_eq (username : String) (g : Graph) :
    passwordStatement username g =
      ((personsNamed g username).map fun n => [("n.password", propJson (n.props "password"))], g) := by
  rw [passwordStatement, personsNamed, persons, List.filter_filter]
  congr 3
  funext n
  exact Bool.and_comm _ _

theorem login_state (accounts : Accounts) (given : LoginRequest) (env : Env) (g : Graph) :
    (env.exec (login accounts given) (World.start g)).state.graph = g := by
  unfold login
  by_cases hvalid : given.valid = false
  · rw [if_pos hvalid]
    rfl
  · rw [if_neg hvalid, (exec_read_bind (fun _ => rfl) _ env g).2]
    cases (env.outcome 0).reply (passwordStatement given.username g).1 with
    | error e => rfl
    | ok rs =>
        simp only
        split
        · rfl
        · cases verifyRow accounts given rs.rows <;> rfl

theorem login_done (accounts : Accounts) (hvalid : given.valid = true) {env : Env}
    (hdone : env.outcome 0 = .done) (g : Graph) :
    (env.exec (login accounts given) (World.start g)).exit =
      match verifyRow accounts given (passwordStatement given.username g).1 with
      | .ok response => .ok response
      | .error e => .err e := by
  rw [login, if_neg (by simp [hvalid]), (exec_read_bind (fun _ => rfl) _ env g).1, hdone]
  simp only [Outcome.reply_done, Option.isSome_none, Bool.false_eq_true, if_false]
  cases verifyRow accounts given (passwordStatement given.username g).1 <;> rfl

theorem done_of_login {env : Env} {response : AuthResponse}
    (h : (env.exec (login accounts given) (World.start g)).exit = .ok response) :
    given.valid = true ∧ env.outcome 0 = .done := by
  rw [login] at h
  by_cases hvalid : given.valid = false
  · rw [if_pos hvalid] at h
    cases h
  · rw [if_neg hvalid, (exec_read_bind (fun _ => rfl) _ env g).1] at h
    refine ⟨by simpa using hvalid, ?_⟩
    cases hreply : (env.outcome 0).reply (passwordStatement given.username g).1 with
    | error e =>
        rw [hreply] at h
        cases h
    | ok rs =>
        rcases rs with ⟨rows, error⟩
        cases error with
        | some e =>
            rw [hreply] at h
            cases h
        | none => exact Outcome.done_of_reply hreply

theorem asStr_propJson {v : Option Value} {s : String} :
    (propJson v).asStr = some s ↔ v = some (.str s) := by
  rcases v with - | v
  · simp [propJson, Json.asStr]
  · cases v <;> simp [propJson, Value.toJson, Json.asStr]

theorem verifyRow_eq_ok {rows : List Row} {response : AuthResponse}
    (h : verifyRow accounts given rows = .ok response) :
    accounts.generateToken given.username = some response.token ∧ ∃ row hash, rows = [row] ∧
      row.getString "n.password" = some hash ∧
        accounts.verifyPassword given.password hash = some true := by
  unfold verifyRow at h
  split at h
  · next row =>
      split at h
      · cases h
      · next hash hhash =>
          split at h
          · next hverified =>
              split at h
              · next token htoken =>
                  obtain rfl := Except.ok.inj h
                  exact ⟨htoken, row, hash, rfl, hhash, hverified⟩
              · cases h
          · cases h
          · cases h
  · cases h

/-- A login hands a token out to who knows the password of the one person of the name. -/
theorem named_of_login {env : Env} {response : AuthResponse}
    (h : (env.exec (login accounts given) (World.start g)).exit = .ok response) :
    accounts.generateToken given.username = some response.token ∧ ∃ n hash,
      personsNamed g given.username = [n] ∧ n.props "password" = some (.str hash) ∧
        accounts.verifyPassword given.password hash = some true := by
  obtain ⟨hvalid, hdone⟩ := done_of_login h
  rw [login_done accounts hvalid hdone] at h
  cases hverify : verifyRow accounts given (passwordStatement given.username g).1 with
  | error e =>
      rw [hverify] at h
      cases h
  | ok response' =>
      rw [hverify] at h
      obtain rfl := Exit.ok.inj h
      obtain ⟨htoken, row, hash, hrows, hhash, hverified⟩ := verifyRow_eq_ok hverify
      refine ⟨htoken, ?_⟩
      rw [passwordStatement_eq] at hrows
      obtain ⟨n, hnamed, rfl⟩ := List.map_eq_singleton_iff.1 hrows
      refine ⟨n, hash, hnamed, ?_, hverified⟩
      exact asStr_propJson.1 hhash

theorem login_named {n : Node} {salt password hash token : String}
    (hnamed : personsNamed g given.username = [n]) (hstored : n.props "password" = some (.str hash))
    (hhash : accounts.hashPassword salt password = some hash)
    (htoken : accounts.generateToken given.username = some token) (hvalid : given.valid = true)
    {env : Env} (hdone : env.outcome 0 = .done) :
    (env.exec (login accounts given) (World.start g)).exit =
      if given.password = password then .ok ⟨token⟩
      else .err (.unauthorized, "invalid username or password") := by
  have hrows : (passwordStatement given.username g).1 = [[("n.password", .str hash)]] := by
    rw [passwordStatement_eq, hnamed, List.map_singleton, hstored]
    rfl
  have hget : Row.getString [("n.password", Json.str hash)] "n.password" = some hash := rfl
  rw [login_done accounts hvalid hdone, hrows, verifyRow]
  simp only [hget, accounts.verify_iff hhash]
  by_cases hpassword : given.password = password
  · simp [hpassword, htoken]
  · simp [hpassword]

end Service

end AtlasOfUs.Auth
