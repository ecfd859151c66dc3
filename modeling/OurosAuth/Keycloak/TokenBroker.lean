import Mathlib.Data.List.Infix
import OurosAuth.Core.Errors
import OurosAuth.Core.Runtime
import OurosAuth.Identity.Repository

namespace OurosAuth

/-!
# The Keycloak token broker

`KeycloakTokenBroker` relays a grant to Keycloak and checks the access token of the answer.  The
claims of a token are whatever JSON its payload holds, so each operation on them is modelled with
the exception it raises on a value of the wrong shape.

* `audienceSet`, `hasAccountRole`, `positiveDatabaseId` — the checks on the claims;
* `KeycloakTokenResponse.modelValidate` — the schema of the token document;
* `TokenBroker.exchangeToken` — one grant.
-/

/-! ### JSON values -/

/-- A decoded JSON value.  The entries of an object are those of a dictionary, one for a key; a
    number with a fraction or an exponent is kept as written. -/
inductive JsonValue
  | null
  | bool (b : Bool)
  | int (n : ℤ)
  | float (literal : String)
  | str (s : String)
  | list (items : List JsonValue)
  | object (entries : List (String × JsonValue))

namespace JsonValue

/-- `isinstance(value, str)` -/
def isStr : JsonValue → Bool
  | .str _ => true
  | _ => false

/-- `isinstance(value, list)` -/
def isList : JsonValue → Bool
  | .list _ => true
  | _ => false

/-- `isinstance(value, dict)` -/
def isDict : JsonValue → Bool
  | .object _ => true
  | _ => false

/-- `value == s` for a string `s`; no other value equals one. -/
def equalsStr (value : JsonValue) (s : String) : Bool :=
  match value with
  | .str s' => s' = s
  | _ => false

@[simp] theorem equalsStr_iff {value : JsonValue} {s : String} :
    value.equalsStr s = true ↔ value = .str s := by
  cases value <;> simp [equalsStr]

/-- Has the value a hash? -/
def hashable : JsonValue → Bool
  | .list _ => false
  | .object _ => false
  | _ => true

/-- The string a value is. -/
def asStr? : JsonValue → Option String
  | .str s => some s
  | _ => none

end JsonValue

/-- The claims of a decoded token. -/
abbrev TokenClaims := List (String × JsonValue)

/-- `claims.get(key)` -/
def getClaim (claims : TokenClaims) (key : String) : JsonValue := (claims.lookup key).getD .null

/-! ### What is raised -/

/-- `raise KeycloakTokenBrokerUnavailable(message)` -/
def unavailable {α : Type} (message : String) : Except CallRaised α :=
  .error (.api (.keycloakTokenBrokerUnavailable message))

/-! ### Bodies -/

/-- A body, as the JSON parser takes it. -/
inductive JsonBody
  | absent
  /-- `JSONDecodeError` at this position -/
  | malformed (position : ℕ)
  /-- no text, or a number with more digits than `int` converts: another `ValueError` -/
  | undecodable
  /-- nested deeper than the parser recurses -/
  | tooDeep
  | document (value : JsonValue)

/-- `request.json()` and `response.json()` -/
def JsonBody.json : JsonBody → Except PyError JsonValue
  | .document value => .ok value
  | .tooDeep => .error .recursionError
  | _ => .error .valueError

/-! ### Operations on values -/

/-- `set(items)` -/
def setOf (items : List JsonValue) : Except CallRaised (List JsonValue) :=
  if items.all JsonValue.hashable then .ok items else .error (.python .typeError)

/-- `value in members` for a set of strings. -/
def inStrings (value : JsonValue) (members : List String) : Except CallRaised Bool :=
  if value.hashable then .ok (members.any value.equalsStr) else .error (.python .typeError)

/-- `s in container` -/
def containsStr (container : JsonValue) (s : String) : Except CallRaised Bool :=
  match container with
  | .list items => .ok (items.any (·.equalsStr s))
  | .object entries => .ok (entries.any fun entry => entry.1 = s)
  | .str text => .ok (decide (s.toList <:+: text.toList))
  | _ => .error (.python .typeError)

/-- `value.get(key)` -/
def getKey (value : JsonValue) (key : String) : Except CallRaised JsonValue :=
  match value with
  | .object entries => .ok ((entries.lookup key).getD .null)
  | _ => .error (.python .attributeError)

/-- `str.isdecimal`; the ASCII digits are `0` to `9`. -/
def isDecimal (rt : Runtime) (s : String) : Bool :=
  s ≠ "" && s.toList.all fun c => if c.toNat < 128 then c.isDigit else rt.isDecimalDigit c

/-- The number that a string of ASCII digits writes. -/
def decimalValue (s : String) : ℕ := s.toList.foldl (fun n c => 10 * n + (c.toNat - '0'.toNat)) 0

/-- How many digits the interpreter converts, `sys.get_int_max_str_digits()`. -/
def maxStrDigits : ℕ := 4300

/-- `int(s)` for a string of ASCII digits. -/
def intOfDigits (s : String) : Except CallRaised ℤ :=
  if maxStrDigits < s.length then .error (.python .valueError) else .ok (decimalValue s)

/-! ### The checks on the claims -/

/-- `VALID_ACCOUNT_TYPES` -/
def validAccountTypes : List String := ["farm_owner", "company_employee", "admin"]

/-- `INVALID_DATABASE_ID_DETAIL` -/
def invalidDatabaseIdDetail : String := "invalid database_id claim"

/-- `REQUIRED_FIRST_PARTY_AUDIENCES` -/
def requiredFirstPartyAudiences : List String :=
  ["ms-spring-api", "ms-telemetry-dashboard-service", "ms-ai-server", "ms-ai-server-mcp-exchange",
    "ms-mcp-server-ouros-knowledge-codemode", "ms-ouros-audience-engine"]

/-- `_audience_set` -/
def audienceSet (value : JsonValue) : Except CallRaised (List JsonValue) :=
  match value with
  | .str s => .ok [.str s]
  | .list items => if items.all JsonValue.isStr then setOf items else .ok []
  | _ => .ok []

/-- `_positive_database_id` -/
def positiveDatabaseId (rt : Runtime) (value : JsonValue) : Except CallRaised ℤ :=
  match value with
  -- asked first: a `bool` is an `int` too, and `True` would pass as 1
  | .bool _ => unavailable invalidDatabaseIdDetail
  | .int numericId =>
    if numericId ≤ 0 then unavailable invalidDatabaseIdDetail else .ok numericId
  | .str s =>
    if isAscii s && isDecimal rt s then
      match intOfDigits s with
      | .error _ => unavailable invalidDatabaseIdDetail
      | .ok numericId =>
        if numericId ≤ 0 then unavailable invalidDatabaseIdDetail else .ok numericId
    else unavailable invalidDatabaseIdDetail
  | _ => unavailable invalidDatabaseIdDetail

/-- `realm_access.get("roles") if isinstance(realm_access, dict) else None` -/
def realmRoles (realmAccess : JsonValue) : Except CallRaised JsonValue :=
  if realmAccess.isDict then getKey realmAccess "roles" else .ok .null

/-- The condition on the account role, negated; the disjuncts are tried in order. -/
def hasAccountRole (accountType roles : JsonValue) : Except CallRaised Bool :=
  match accountType with
  | .str s => do
    -- a string hashes, so the membership test of the set cannot raise here
    if !(← inStrings (.str s) validAccountTypes) then return false
    if !roles.isList then return false
    containsStr roles s
  | _ => .ok false

/-- What `get_signing_key_from_jwt` and `decode` raise. -/
inductive DecodeError
  | invalidTokenError
  | pyJWKClientError
  | valueError

/-- How the token request ends. -/
inductive PostOutcome
  /-- `httpx.HTTPError` -/
  | httpError
  /-- anything else: a field of the form has no UTF-8 encoding, or closing the client fails -/
  | raised (error : PyError)
  | response (status : ℕ) (body : JsonBody)

/-! ### The token document -/

/-- `KeycloakTokenResponse` -/
structure KeycloakTokenResponse where
  accessToken : String
  expiresIn : ℤ
  refreshExpiresIn : Option ℤ
  refreshToken : Option String
  tokenType : String
  scope : Option String
  accessToken_ne : accessToken ≠ ""
  expiresIn_pos : 0 < expiresIn
  refreshExpiresIn_nonneg : ∀ n ∈ refreshExpiresIn, 0 ≤ n
  tokenType_eq : tokenType = "Bearer"

/-- A field with the default `None`. -/
def optionalField {α : Type} (read : JsonValue → Option α) : Option JsonValue → Option (Option α)
  | none => some none
  | some .null => some none
  | some value => (read value).map some

/-- `KeycloakTokenResponse.model_validate`; `laxInt` is what the schema library reads as an `int`,
    and `none` its `ValidationError`. -/
def KeycloakTokenResponse.modelValidate (laxInt : JsonValue → Option ℤ) (body : JsonValue) :
    Option KeycloakTokenResponse :=
  match body with
  | .object entries => do
    let accessToken ← (entries.lookup "access_token").bind JsonValue.asStr?
    let expiresIn ← (entries.lookup "expires_in").bind laxInt
    let refreshExpiresIn ← optionalField laxInt (entries.lookup "refresh_expires_in")
    let refreshToken ← optionalField JsonValue.asStr? (entries.lookup "refresh_token")
    let tokenType ← (entries.lookup "token_type").bind JsonValue.asStr?
    let scope ← optionalField JsonValue.asStr? (entries.lookup "scope")
    if h : accessToken ≠ "" ∧ 0 < expiresIn ∧ (∀ n ∈ refreshExpiresIn, 0 ≤ n) ∧
        tokenType = "Bearer" then
      some ⟨accessToken, expiresIn, refreshExpiresIn, refreshToken, tokenType, scope,
        h.1, h.2.1, h.2.2.1, h.2.2.2⟩
    else none
  | _ => none

/-- `KeycloakTokenResponse.model_validate(response.json())`; a `ValidationError` is a
    `ValueError`. -/
def KeycloakTokenResponse.ofBody (laxInt : JsonValue → Option ℤ) (body : JsonBody) :
    Except PyError KeycloakTokenResponse := do
  match modelValidate laxInt (← body.json) with
  | some tokenResponse => return tokenResponse
  | none => .error .valueError

/-! ### The broker -/

/-- A form, field by field. -/
abbrev Form := List (String × String)

/-- `KeycloakTokenBroker`, with its transport, its token decoder and the schema library. -/
structure TokenBroker where
  clientId : String
  clientSecret : Option String
  scope : String
  post : Form → PostOutcome
  decode : String → Except DecodeError TokenClaims
  laxInt : JsonValue → Option ℤ

namespace TokenBroker

/-- `_validate_access_token_contract` -/
def validateAccessTokenContract (rt : Runtime) (broker : TokenBroker) (token : String) :
    Except CallRaised TokenClaims :=
  match broker.decode token with
  | .error _ => unavailable "Keycloak issued an access token that failed local validation"
  | .ok claims => do
    let audiences ← audienceSet (getClaim claims "aud")
    if !requiredFirstPartyAudiences.all fun audience => audiences.any (·.equalsStr audience) then
      unavailable "Keycloak access token is missing required Ouros audiences"
    else if !(getClaim claims "azp").equalsStr broker.clientId then
      unavailable "Keycloak access token was not issued to the official broker"
    else do
      let roles ← realmRoles (getClaim claims "realm_access")
      if !(← hasAccountRole (getClaim claims "account_type") roles) then
        unavailable "Keycloak access token is missing the signed Ouros account role"
      else do
        let _ ← positiveDatabaseId rt (getClaim claims "database_id")
        return claims

/-- `_exchange_token` -/
def exchangeToken (rt : Runtime) (broker : TokenBroker) (form : Form) :
    Except CallRaised KeycloakTokenResponse :=
  match broker.clientSecret with
  | none => unavailable "broker client secret is not configured"
  | some _ =>
    match broker.post form with
    | .httpError => unavailable "Keycloak token endpoint unavailable"
    | .raised error => .error (.python error)
    | .response status body =>
      if status = 400 ∨ status = 401 then .error (.api .invalidCredentials)
      else if status ≠ 200 then unavailable "Keycloak token endpoint rejected request"
      else
        match KeycloakTokenResponse.ofBody broker.laxInt body with
        | .error error =>
          -- `except (ValueError, TypeError)`
          if error.isValueError = true ∨ error = .typeError then
            unavailable "invalid Keycloak token response"
          else .error (.python error)
        | .ok tokenResponse => do
          -- a `PyJWKClientConnectionError` is a `PyJWKClientError`, and caught in the check itself
          let _ ← broker.validateAccessTokenContract rt tokenResponse.accessToken
          return tokenResponse

/-- The form of `issue_password_token` -/
def passwordForm (broker : TokenBroker) (secret email password : String) : Form :=
  [("grant_type", "password"), ("client_id", broker.clientId), ("client_secret", secret),
    ("username", email), ("password", password), ("scope", broker.scope)]

/-- `issue_password_token` -/
def issuePasswordToken (rt : Runtime) (broker : TokenBroker) (email password : String) :
    Except CallRaised KeycloakTokenResponse :=
  match broker.clientSecret with
  | none => unavailable "broker client secret is not configured"
  | some secret => broker.exchangeToken rt (broker.passwordForm secret email password)

/-- The form of `refresh_token` -/
def refreshForm (broker : TokenBroker) (secret token : String) : Form :=
  [("grant_type", "refresh_token"), ("client_id", broker.clientId), ("client_secret", secret),
    ("refresh_token", token)]

/-- `refresh_token` -/
def refreshToken (rt : Runtime) (broker : TokenBroker) (token : String) :
    Except CallRaised KeycloakTokenResponse :=
  match broker.clientSecret with
  | none => unavailable "broker client secret is not configured"
  | some secret => broker.exchangeToken rt (broker.refreshForm secret token)

end TokenBroker

end OurosAuth
