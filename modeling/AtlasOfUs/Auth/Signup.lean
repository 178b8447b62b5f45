import AtlasOfUs.Statements

namespace AtlasOfUs.Auth

open Library

structure SignUpRequest where
  username : String
  password : String
  phone : String

inductive StatusCode
  | badRequest
  | notAcceptable
  | internalServerError
  deriving DecidableEq

abbrev ErrorResponse := StatusCode × String

structure AuthResponse where
  token : String

structure Credentials where
  hashPassword : String → Option String
  generateToken : String → Option String

def SignUpRequest.valid (r : SignUpRequest) : Bool :=
  r.username ≠ "" && r.password ≠ "" && r.phone ≠ ""

def invalidRequest : ErrorResponse := (.badRequest, "invalid request")

def internalError : ErrorResponse := (.internalServerError, "internal server error")

def alreadyExists : ErrorResponse :=
  (.notAcceptable, "Username or phone number already exists!")

/-- `MATCH (n:Person) WHERE n.phone = $phone OR n.username = $username RETURN n`. -/
def takenStatement (username phone : String) : Statement := fun g =>
  ((g.nodes.filter (fun n => n.hasLabel "Person" &&
    (n.props "phone" = some (.str phone) || n.props "username" = some (.str username)))).map
      (fun n => [("n", .str n.id)]), g)

def userLabels : List String := ["Person", "L3"]

def userProps (username password phone : String) : Props :=
  ((Props.empty.set "username" (.str username)).set "password" (.str password)).set "phone"
    (.str phone)

/-- `CREATE (p:Person:L3 { username: $username, password: $password, phone: $phone })`. -/
def createUserStatement (username password phone : String) : Statement := fun g =>
  ([], g.createNode userLabels (userProps username password phone))

abbrev AuthApi (α : Type) := Service Empty Empty ErrorResponse α

/-- No user of that name or phone number; a stream that breaks is an error. -/
def checkTaken (r : SignUpRequest) : AuthApi Unit := do
  match ← execute (takenStatement r.username r.phone) with
  | .error _ => .fail internalError
  | .ok rs =>
      if rs.error.isSome then .fail internalError
      else if rs.rows ≠ [] then .fail alreadyExists
      else return ()

def signup (credentials : Credentials) (r : SignUpRequest) : AuthApi AuthResponse := do
  if r.valid = false then .fail invalidRequest
  else
    checkTaken r
    match credentials.hashPassword r.password with
    | none => .fail internalError
    | some hashedPassword =>
        match ← runStatement (createUserStatement r.username hashedPassword r.phone) with
        | .error _ => .fail internalError
        | .ok _ =>
            match credentials.generateToken r.username with
            | some token => return ⟨token⟩
            | none => .fail internalError

/-- Every user node carries the labels that `signup` gives. -/
def UsersBySignup (g : Graph) : Prop :=
  ∀ n ∈ g.nodes, n.hasLabel "Person" ∨ n.hasLabel "User" → n.labels = userLabels

instance (g : Graph) : Decidable (UsersBySignup g) :=
  inferInstanceAs (Decidable (∀ n ∈ g.nodes, n.hasLabel "Person" ∨ n.hasLabel "User" →
    n.labels = userLabels))

/-- The statements of a signup: a read, and the creation of one user. -/
inductive SignupStatement : Statement → Prop
  | taken (username phone : String) : SignupStatement (takenStatement username phone)
  | create (username password phone : String) :
      SignupStatement (createUserStatement username password phone)

theorem runs_signup (credentials : Credentials) (r : SignUpRequest) :
    Runs SignupStatement (signup credentials r) := by
  unfold signup
  split
  · trivial
  · refine Contract.bind ?_ (fun _ => ?_)
    · refine (Runs.execute (.taken r.username r.phone)).bind (fun reply => ?_)
      cases reply with
      | error e => trivial
      | ok rs => cases h : rs.error <;> by_cases hrows : rs.rows = [] <;> simp [h, hrows, Contract]
    · cases credentials.hashPassword r.password with
      | none => trivial
      | some hashedPassword =>
          refine (Runs.runStatement (.create r.username hashedPassword r.phone)).bind (fun reply => ?_)
          cases reply with
          | error e => trivial
          | ok _ => cases credentials.generateToken r.username <;> trivial

theorem usersBySignup_step {q : Statement} (hq : SignupStatement q) {g : Graph}
    (hg : UsersBySignup g) : UsersBySignup (q g).2 := by
  cases hq with
  | taken username phone => exact hg
  | create username password phone =>
      intro n hn hlabel
      simp only [createUserStatement, Graph.createNode_nodes, List.mem_append,
        List.mem_singleton] at hn
      rcases hn with hn | rfl
      · exact hg n hn hlabel
      · rfl

theorem signup_usersBySignup (credentials : Credentials) (r : SignUpRequest) (env : Env) (w : World)
    (hw : UsersBySignup w.graph) :
    UsersBySignup (env.exec (signup credentials r) w).state.graph :=
  (runs_signup credentials r).maintains (fun _ _ hq hg => usersBySignup_step hq hg) env w hw

end AtlasOfUs.Auth
