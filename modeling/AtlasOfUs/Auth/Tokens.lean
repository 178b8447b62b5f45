import AtlasOfUs.Auth.Login

namespace AtlasOfUs.Auth

structure JwtClaims where
  sub : String
  exp : Nat
  iat : Nat
  iss : String
  deriving DecidableEq

def leeway : Nat := 60

/-- The token functions with HS256, each of the secret. What was encoded is
decoded until it has expired. -/
structure Jwt where
  encode : String → JwtClaims → Option String
  decode : String → Nat → String → Option JwtClaims
  decode_encode : ∀ {secret : String} {claims : JwtClaims} {token : String},
    encode secret claims = some token → ∀ now,
      decode secret now token = if now ≤ claims.exp + leeway then some claims else none

/-- What the server is set up with: its password and token functions, and the
environment variable of the secret. -/
structure Keys where
  hashPassword : String → String → Option String
  verifyPassword : String → String → Option Bool
  verify_iff : ∀ {salt password hash}, hashPassword salt password = some hash →
    ∀ given, verifyPassword given hash = some (decide (given = password))
  jwt : Jwt
  jwtSecretVar : Option String

namespace Keys

variable (keys : Keys)

def jwtSecret : String := keys.jwtSecretVar.getD "your-secret-key"

def claimsOf (now : Nat) (username : String) : JwtClaims :=
  ⟨username, now + 24 * 60 * 60, now, username⟩

def generateToken (now : Nat) (username : String) : Option String :=
  keys.jwt.encode keys.jwtSecret (claimsOf now username)

def accounts (now : Nat) : Accounts where
  hashPassword := keys.hashPassword
  verifyPassword := keys.verifyPassword
  generateToken := keys.generateToken now
  verify_iff := keys.verify_iff

def bearer (header : Option String) : Option String :=
  header.bind fun auth =>
    if "Bearer ".toList <+: auth.toList then some (String.ofList (auth.toList.drop 7)) else none

def jwtAuthMiddleware (now : Nat) (header : Option String) : Option JwtClaims :=
  (bearer header).bind (keys.jwt.decode keys.jwtSecret now)

def authorization (token : String) : Option String := some ("Bearer " ++ token)

theorem bearer_authorization (token : String) : bearer (authorization token) = some token := by
  have htext : ("Bearer " ++ token).toList = "Bearer ".toList ++ token.toList := String.toList_append
  rw [bearer, authorization, Option.bind_some, htext, if_pos (List.prefix_append _ _)]
  change some (String.ofList token.toList) = some token
  rw [String.ofList_toList]

variable {keys} {now : Nat} {username token : String}

theorem decode_generated (htoken : keys.generateToken now username = some token) (later : Nat) :
    keys.jwt.decode keys.jwtSecret later token =
      if later ≤ now + 86460 then some (claimsOf now username) else none :=
  keys.jwt.decode_encode htoken later

theorem jwtAuthMiddleware_generated (htoken : keys.generateToken now username = some token)
    (later : Nat) : keys.jwtAuthMiddleware later (authorization token) =
      if later ≤ now + 86460 then some (claimsOf now username) else none := by
  rw [jwtAuthMiddleware, bearer_authorization, Option.bind_some, decode_generated htoken]

end Keys

end AtlasOfUs.Auth
