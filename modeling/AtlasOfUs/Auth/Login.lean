import AtlasOfUs.Auth.Signup
import AtlasOfUs.Library.DistinctRows

namespace AtlasOfUs.Auth

open Library

structure LoginRequest where
  username : String
  password : String

inductive LoginStatus
  | badRequest
  | unauthorized
  | internalServerError
  deriving DecidableEq

abbrev LoginError := LoginStatus × String

/-- The password functions of the server, with the salt that a hash is made
with. A hash verifies the password it was made of and no other. -/
structure Accounts where
  hashPassword : String → String → Option String
  verifyPassword : String → String → Option Bool
  generateToken : String → Option String
  verify_iff : ∀ {salt password hash}, hashPassword salt password = some hash →
    ∀ given, verifyPassword given hash = some (decide (given = password))

def Accounts.credentials (accounts : Accounts) (salt : String) : Credentials where
  hashPassword := accounts.hashPassword salt
  generateToken := accounts.generateToken

def LoginRequest.valid (r : LoginRequest) : Bool := r.username ≠ "" && r.password ≠ ""

/-- `MATCH (n:Person) WHERE n.username = $username RETURN n.password`. -/
def passwordStatement (username : String) : Statement := fun g =>
  ((g.nodes.filter (fun n => n.hasLabel "Person" && n.props "username" = some (.str username))).map
    (fun n => [("n.password", propJson (n.props "password"))]), g)

def loginFailed : LoginError := (.internalServerError, "internal server error")

def verifyRow (accounts : Accounts) (r : LoginRequest) (rows : List Row) :
    Except LoginError AuthResponse :=
  match rows with
  | [row] =>
      match row.getString "n.password" with
      | none => .error loginFailed
      | some storedPassword =>
          match accounts.verifyPassword r.password storedPassword with
          | some true =>
              match accounts.generateToken r.username with
              | some token => .ok ⟨token⟩
              | none => .error loginFailed
          | some false => .error (.unauthorized, "invalid username or password")
          | none => .error loginFailed
  | _ => .error (.unauthorized, "Username and password combo not found!")

def login (accounts : Accounts) (r : LoginRequest) : Service Empty Empty LoginError AuthResponse := do
  if r.valid = false then .fail (.badRequest, "invalid request")
  else
    match ← execute (passwordStatement r.username) with
    | .error _ => .fail loginFailed
    | .ok rs =>
        if rs.error.isSome then .fail loginFailed
        else Proc.ofExcept (verifyRow accounts r rs.rows)

/-- No two persons have a username or a phone number in common. -/
def DistinctAccounts (g : Graph) : Prop :=
  ∀ n ∈ g.nodes, ∀ m ∈ g.nodes, n.hasLabel "Person" = true → m.hasLabel "Person" = true →
    ∀ key ∈ ["username", "phone"], ∀ v, n.props key = some v → m.props key = some v → n = m

/-- Where usernames are distinct, the owner of an account gets in with the
password that its hash was made of. -/
theorem login_of_distinct {accounts : Accounts} {g : Graph} (hg : DistinctAccounts g) {n : Node}
    (hn : n ∈ g.nodes) (hperson : n.hasLabel "Person" = true) {username password salt hash : String}
    {token : String} (hname : n.props "username" = some (.str username))
    (hstored : n.props "password" = some (.str hash))
    (hhash : accounts.hashPassword salt password = some hash)
    (htoken : accounts.generateToken username = some token)
    (hvalid : (LoginRequest.mk username password).valid = true) {env : Env} {clock : Nat}
    (hdone : env.outcome clock = .done) :
    (env.exec (login accounts ⟨username, password⟩) ⟨g, clock⟩).exit = .ok ⟨token⟩ := by
  have hrows : (passwordStatement username g).1 = [[("n.password", .str hash)]] := by
    have hfilter : g.nodes.filter (fun m => m.hasLabel "Person" &&
        decide (m.props "username" = some (.str username))) = [n] := by
      apply filter_eq_singleton (List.Nodup.of_map _ g.nodeIds_nodup) hn
      · simp [hperson, hname]
      · intro m hm hmatch
        rw [Bool.and_eq_true, decide_eq_true_eq] at hmatch
        exact hg m hm n hn hmatch.1 hperson "username" (by simp) _ hmatch.2 hname
    rw [passwordStatement, hfilter, List.map_singleton, hstored]
    rfl
  rw [login, if_neg (by simp [hvalid]), exec_bind, exec_execute, Execution.andThen_ok, hdone,
    Outcome.reply_done, hrows]
  have hverify : verifyRow accounts ⟨username, password⟩ [[("n.password", .str hash)]] =
      .ok ⟨token⟩ := by
    simp [verifyRow, Row.getString, Row.get, Json.asStr, accounts.verify_iff hhash, htoken]
  simp [hverify]

end AtlasOfUs.Auth
