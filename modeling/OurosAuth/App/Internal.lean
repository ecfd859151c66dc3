import OurosAuth.App.Bodies
import OurosAuth.Identity.Resolution
import OurosAuth.Keycloak.ServiceToken

namespace OurosAuth

open ListTables

/-!
# The internal API

The routes Keycloak's user storage reads accounts through, from the request to the tables.

* `InternalApi.serve` — the body is parsed, then the caller is checked, then the parameters, and
  only then is a route entered;
* `internal_reserves_401` — who is refused, and that they learn nothing about the accounts;
* `metrics_token_learns_nothing` — nor does the one other service with a token;
* `internal_round_trip` / `internal_email_round_trip` — one lookup answers what another did;
* `internal_hides_hashes` — what an answer tells of a stored hash.
-/

/-! ### The service -/

/-- `AccountType.realm_role` -/
def AccountType.realmRole : AccountType → String
  | .farmOwner => "farm_owner"
  | .companyEmployee => "company_employee"
  | .admin => "admin"

/-- `IdentityResponse` -/
structure IdentityResponse where
  id : ℤ
  email : String
  accountType : AccountType
  realmRole : String
  name : Option String
  farmId : Option ℤ
  enterpriseId : Option ℤ
  firstAccess : Option Bool
  deriving DecidableEq

/-- `IdentityResponse.from_identity` -/
def IdentityResponse.fromIdentity (identity : StoredIdentity) : IdentityResponse where
  id := identity.databaseId
  email := identity.email
  accountType := identity.accountType
  realmRole := identity.accountType.realmRole
  name := identity.name
  farmId := identity.farmId
  enterpriseId := identity.enterpriseId
  firstAccess := identity.firstAccess

/-- The database behind the repository: does it answer, and which parameters can be sent to it? -/
structure ReadDatabase where
  tables : IdentityTables
  available : Bool
  textFits : String → Bool
  idFits : AccountType → ℤ → Bool

/-- What a call of the service raises. -/
inductive ServiceRaised
  | api (error : ApiError)
  /-- an exception of the driver -/
  | database

/-- A query by address. -/
def ReadDatabase.byAddress {α : Type} (db : ReadDatabase) (rt : Runtime) (email : String)
    (answer : Except ApiError α) : Except ServiceRaised α :=
  if db.available = true ∧ db.textFits (rt.normalizeEmail email) = true then
    answer.mapError .api
  else .error .database

namespace AuthService

/-- `AuthService.verify_credentials`, with the response it builds -/
def verifyCredentials (rt : Runtime) (db : ReadDatabase) (request : CredentialVerificationRequest) :
    Except ServiceRaised IdentityResponse :=
  (db.byAddress rt request.email (OurosAuth.verifyCredentials rt db.tables request.email
    request.password request.accountType)).map IdentityResponse.fromIdentity

/-- `AuthService.lookup_identity_by_email` -/
def lookupIdentityByEmail (rt : Runtime) (db : ReadDatabase) (email : String) :
    Except ServiceRaised (Option IdentityResponse) :=
  (db.byAddress rt email (OurosAuth.lookupIdentityByEmail rt db.tables email)).map fun found =>
    found.map IdentityResponse.fromIdentity

/-- `AuthService.lookup_identity_by_external_id` -/
def lookupIdentityByExternalId (db : ReadDatabase) (accountType : AccountType) (databaseId : ℤ) :
    Except ServiceRaised (Option IdentityResponse) :=
  if db.available = true ∧ db.idFits accountType databaseId = true then
    .ok ((findByExternalId db.tables accountType databaseId).map IdentityResponse.fromIdentity)
  else .error .database

end AuthService

/-! ### Requests and responses -/

/-- A path under `/internal/v1`, with the parameters as they arrive. -/
inductive InternalCall
  | identityByEmail (email : Option String)
  | identityByExternalId (accountType databaseId : String)
  | credentialsVerify (body : JsonBody)

structure InternalRequest where
  authorization : Option String
  call : InternalCall

inductive InternalBody
  | identity (identity : IdentityResponse)
  /-- `CredentialVerificationResponse`, which is always `authenticated` -/
  | verified (identity : IdentityResponse)
  | detail (text : String)
  | invalid (errors : List FieldError)
  deriving DecidableEq

structure InternalResponse where
  status : ℕ
  body : InternalBody
  wwwAuthenticate : Option String
  deriving DecidableEq

/-- An exception nobody handles. -/
def internalServerError : InternalResponse := ⟨500, .detail "Internal Server Error", none⟩

/-- A request whose parameters are refused. -/
def unprocessable (errors : List FieldError) : InternalResponse := ⟨422, .invalid errors, none⟩

/-- The response to a body the framework refuses. -/
def BodyRefusal.toInternal : BodyRefusal → InternalResponse
  | .invalid errors => unprocessable errors
  | .unparsable => ⟨400, .detail unparsableDetail, none⟩

/-- The handlers of the application. -/
def ServiceRaised.toInternal : ServiceRaised → InternalResponse
  | .api error => ⟨error.response.status, .detail error.response.detail, none⟩
  | .database => internalServerError

/-! ### The routes -/

/-- What the internal routes are wired to. -/
structure InternalApi where
  rt : Runtime
  jwt : JwtDecode
  serviceTokenVerifier : ServiceTokenVerifier
  /-- an `int` parameter of a path -/
  intParameter : String → Option ℤ

/-- What `require_keycloak_service` and `require_metrics_bearer` do with a verifier. -/
def requireBearer (rt : Runtime) (jwt : JwtDecode) (verifier : ServiceTokenVerifier)
    (detail : String) (authorization : Option String) : Except InternalResponse Unit :=
  match verifier.verifyAuthorizationHeader rt jwt authorization with
  | .ok _ => .ok ()
  | .error (.serviceAuthentication _) => .error ⟨401, .detail detail, some "Bearer"⟩
  | .error (.python _) => .error internalServerError

/-- `require_metrics_bearer` -/
def requireMetricsBearer (rt : Runtime) (jwt : JwtDecode)
    (metricsTokenVerifier : ServiceTokenVerifier) (authorization : Option String) :
    Except InternalResponse Unit :=
  requireBearer rt jwt metricsTokenVerifier "Invalid metrics credentials." authorization

namespace InternalApi

variable (api : InternalApi) (db : ReadDatabase)

/-- `require_keycloak_service` -/
def requireKeycloakService (authorization : Option String) : Except InternalResponse Unit :=
  requireBearer api.rt api.jwt api.serviceTokenVerifier "Invalid service credentials."
    authorization

/-- How both lookups end. -/
def lookupResponse : Except ServiceRaised (Option IdentityResponse) → InternalResponse
  | .ok (some identity) => ⟨200, .identity identity, none⟩
  | .ok none => ⟨404, .detail "Identity not found.", none⟩
  | .error raised => raised.toInternal

/-- `lookup_identity_by_email` -/
def lookupIdentityByEmail (email : String) : InternalResponse :=
  lookupResponse (AuthService.lookupIdentityByEmail api.rt db email)

/-- `lookup_identity_by_external_id` -/
def lookupIdentityByExternalId (accountType : AccountType) (databaseId : ℤ) : InternalResponse :=
  lookupResponse (AuthService.lookupIdentityByExternalId db accountType databaseId)

/-- `verify_internal_credentials` -/
def verifyInternalCredentials (payload : CredentialVerificationRequest) : InternalResponse :=
  match AuthService.verifyCredentials api.rt db payload with
  | .ok identity => ⟨200, .verified identity, none⟩
  | .error (.api .invalidCredentials) => ⟨403, .detail "Credenciais inválidas.", none⟩
  | .error raised => raised.toInternal

/-- A request whose caller is trusted: its parameters are checked, and its route is entered. -/
def enter (call : InternalCall) : InternalResponse :=
  match call with
  | .identityByEmail none => unprocessable [⟨["query", "email"], none⟩]
  | .identityByEmail (some email) =>
    if hasLength 3 255 email = true then api.lookupIdentityByEmail db email
    else unprocessable [⟨["query", "email"], none⟩]
  | .identityByExternalId accountType databaseId =>
    match AccountType.ofValue? accountType, api.intParameter databaseId with
    | some accountType, some databaseId => lookupIdentityByExternalId db accountType databaseId
    | some _, none => unprocessable [⟨["path", "database_id"], none⟩]
    | none, some _ => unprocessable [⟨["path", "account_type"], none⟩]
    | none, none =>
        unprocessable [⟨["path", "account_type"], none⟩, ⟨["path", "database_id"], none⟩]
  | .credentialsVerify body =>
    match credentialVerificationRequest api.rt body with
    | .ok payload => api.verifyInternalCredentials db payload
    | .error errors => unprocessable errors

/-- The response to a body that cannot be parsed, which nothing else is looked at for. -/
def unparsed : InternalCall → Option InternalResponse
  | .credentialsVerify body => (parseRefusal body).map BodyRefusal.toInternal
  | _ => none

/-- A request to the internal API. -/
def serve (request : InternalRequest) : InternalResponse :=
  match unparsed request.call with
  | some response => response
  | none =>
    match api.requireKeycloakService request.authorization with
    | .error response => response
    | .ok _ => api.enter db request.call

end InternalApi

variable {rt : Runtime} {jwt : JwtDecode} {api : InternalApi} {db : ReadDatabase}
  {request : InternalRequest} {call : InternalCall}

/-! ### Who is refused -/

/-- Does the header carry a token of Keycloak's user storage? -/
def InternalApi.Accepts (api : InternalApi) (authorization : Option String) : Prop :=
  api.requireKeycloakService authorization = .ok ()

/-- The errors a credential check raises. -/
theorem verifyCredentials_error {tables : IdentityTables} {email password : String}
    {accountType : Option AccountType} {error : ApiError}
    (h : verifyCredentials rt tables email password accountType = .error error) :
    error = .invalidCredentials ∨ error = .ambiguousIdentity := by
  unfold verifyCredentials at h
  split at h
  · exact Or.inl (Except.error.inj h).symm
  · exact absurd h (by simp)
  · exact Or.inr (Except.error.inj h).symm

/-- The one error a lookup raises. -/
theorem lookupIdentityByEmail_error {tables : IdentityTables} {email : String} {error : ApiError}
    (h : lookupIdentityByEmail rt tables email = .error error) : error = .ambiguousIdentity := by
  unfold lookupIdentityByEmail at h
  split at h
  · exact absurd h (by simp)
  · exact absurd h (by simp)
  · exact (Except.error.inj h).symm

/-- The response to an address, or to credentials, that more than one account has. -/
def ambiguousResponse : InternalResponse := (ServiceRaised.api .ambiguousIdentity).toInternal

/-- How a lookup by address ends. -/
theorem lookupIdentityByEmail_eq (api : InternalApi) (db : ReadDatabase) (email : String) :
    api.lookupIdentityByEmail db email =
      if db.available = true ∧ db.textFits (api.rt.normalizeEmail email) = true then
        match lookupIdentityByEmail api.rt db.tables email with
        | .ok found => InternalApi.lookupResponse (.ok (found.map IdentityResponse.fromIdentity))
        | .error _ => ambiguousResponse
      else internalServerError := by
  unfold InternalApi.lookupIdentityByEmail AuthService.lookupIdentityByEmail
    ReadDatabase.byAddress
  split_ifs with hanswers
  · cases hlookup : lookupIdentityByEmail api.rt db.tables email with
    | ok found => rfl
    | error error => rw [lookupIdentityByEmail_error hlookup]; rfl
  · rfl

/-- How a credential verification ends. -/
theorem verifyInternalCredentials_eq (api : InternalApi) (db : ReadDatabase)
    (payload : CredentialVerificationRequest) :
    api.verifyInternalCredentials db payload =
      if db.available = true ∧ db.textFits (api.rt.normalizeEmail payload.email) = true then
        match verifyCredentials api.rt db.tables payload.email payload.password
          payload.accountType with
        | .ok identity => ⟨200, .verified (.fromIdentity identity), none⟩
        | .error .invalidCredentials => ⟨403, .detail "Credenciais inválidas.", none⟩
        | .error _ => ambiguousResponse
      else internalServerError := by
  unfold InternalApi.verifyInternalCredentials AuthService.verifyCredentials
    ReadDatabase.byAddress
  split_ifs with hanswers
  · cases hverify : verifyCredentials api.rt db.tables payload.email payload.password
      payload.accountType with
    | ok identity => rfl
    | error error =>
      rcases verifyCredentials_error hverify with rfl | rfl
      · rfl
      · rfl
  · rfl

/-- The statuses of a route that has been entered. -/
def EnteredStatus (status : ℕ) : Prop := status ∈ [200, 403, 404, 409, 422, 500]

instance (status : ℕ) : Decidable (EnteredStatus status) := inferInstanceAs (Decidable (_ ∈ _))

theorem lookupResponse_status (found : Option IdentityResponse) :
    EnteredStatus (InternalApi.lookupResponse (.ok found)).status := by
  cases found with
  | none => exact (by decide : EnteredStatus 404)
  | some identity => exact (by decide : EnteredStatus 200)

theorem enter_status (api : InternalApi) (db : ReadDatabase) (call : InternalCall) :
    EnteredStatus (api.enter db call).status := by
  cases call with
  | identityByEmail email =>
    cases email with
    | none => exact (by decide : EnteredStatus 422)
    | some email =>
      simp only [InternalApi.enter, lookupIdentityByEmail_eq]
      split_ifs
      · split
        · exact lookupResponse_status _
        · exact (by decide : EnteredStatus 409)
      · exact (by decide : EnteredStatus 500)
      · exact (by decide : EnteredStatus 422)
  | identityByExternalId accountType databaseId =>
    simp only [InternalApi.enter]
    split
    · unfold InternalApi.lookupIdentityByExternalId AuthService.lookupIdentityByExternalId
      split_ifs
      · exact lookupResponse_status _
      · exact (by decide : EnteredStatus 500)
    all_goals exact (by decide : EnteredStatus 422)
  | credentialsVerify body =>
    simp only [InternalApi.enter]
    split
    · rw [verifyInternalCredentials_eq]
      split_ifs
      · split
        · exact (by decide : EnteredStatus 200)
        · exact (by decide : EnteredStatus 403)
        · exact (by decide : EnteredStatus 409)
      · exact (by decide : EnteredStatus 500)
    · exact (by decide : EnteredStatus 422)

/-- What a token check answers. -/
theorem requireBearer_cases (rt : Runtime) (jwt : JwtDecode) (verifier : ServiceTokenVerifier)
    (detail : String) (authorization : Option String) :
    (requireBearer rt jwt verifier detail authorization = .ok () ∧
        ∃ claims, verifier.verifyAuthorizationHeader rt jwt authorization = .ok claims) ∨
      (requireBearer rt jwt verifier detail authorization =
          .error ⟨401, .detail detail, some "Bearer"⟩ ∧
        ∃ message, verifier.verifyAuthorizationHeader rt jwt authorization =
          .error (.serviceAuthentication message)) ∨
      (requireBearer rt jwt verifier detail authorization = .error internalServerError ∧
        ∃ error, verifier.verifyAuthorizationHeader rt jwt authorization =
          .error (.python error)) := by
  unfold requireBearer
  cases verifier.verifyAuthorizationHeader rt jwt authorization with
  | ok claims => exact Or.inl ⟨rfl, claims, rfl⟩
  | error raised =>
    cases raised with
    | serviceAuthentication message => exact Or.inr (Or.inl ⟨rfl, message, rfl⟩)
    | python error => exact Or.inr (Or.inr ⟨rfl, error, rfl⟩)

theorem requireBearer_eq_ok {verifier : ServiceTokenVerifier} {detail : String}
    {authorization : Option String}
    (h : requireBearer rt jwt verifier detail authorization = .ok ()) :
    ∃ claims, verifier.verifyAuthorizationHeader rt jwt authorization = .ok claims := by
  rcases requireBearer_cases rt jwt verifier detail authorization with
    ⟨-, hverify⟩ | ⟨hrequire, -⟩ | ⟨hrequire, -⟩
  · exact hverify
  · exact absurd (hrequire.symm.trans h) (by simp)
  · exact absurd (hrequire.symm.trans h) (by simp)

/-- A body that cannot be parsed is answered 422 or 400, and with no account. -/
theorem unparsed_eq_some {response : InternalResponse}
    (h : InternalApi.unparsed call = some response) :
    ∃ refusal : BodyRefusal, response = refusal.toInternal := by
  unfold InternalApi.unparsed at h
  split at h
  · obtain ⟨refusal, -, rfl⟩ := Option.map_eq_some_iff.mp h
    exact ⟨refusal, rfl⟩
  · exact absurd h (by simp)

/-- A refused body is not refused for its caller. -/
theorem toInternal_status (refusal : BodyRefusal) : refusal.toInternal.status ≠ 401 := by
  cases refusal with
  | invalid errors => exact (by decide : 422 ≠ 401)
  | unparsable => exact (by decide : 400 ≠ 401)

/-- Without an accepted token the accounts are not looked at. -/
theorem serve_of_not_accepts {authorization : Option String} (h : ¬ api.Accepts authorization)
    (call : InternalCall) (db db' : ReadDatabase) :
    api.serve db ⟨authorization, call⟩ = api.serve db' ⟨authorization, call⟩ := by
  unfold InternalApi.serve
  dsimp only
  cases InternalApi.unparsed call with
  | some response => rfl
  | none =>
    cases hrequire : api.requireKeycloakService authorization with
    | ok => exact absurd hrequire h
    | error response => rfl

/-- **401 is for service tokens.** It is answered exactly for a token the verifier refuses, whatever
    the accounts are; and a request without an accepted token learns nothing about them. -/
theorem internal_reserves_401 (api : InternalApi) (request : InternalRequest) :
    (∀ db, (api.serve db request).status = 401 ↔
        InternalApi.unparsed request.call = none ∧
          ∃ message, api.serviceTokenVerifier.verifyAuthorizationHeader api.rt api.jwt
            request.authorization = .error (.serviceAuthentication message)) ∧
      (∀ db, (api.serve db request).status = 401 →
        (api.serve db request).wwwAuthenticate = some "Bearer") ∧
      (¬ api.Accepts request.authorization →
        ∀ db db', api.serve db request = api.serve db' request) := by
  rw [← and_assoc]
  refine ⟨?_, fun h db db' => serve_of_not_accepts h request.call db db'⟩
  unfold InternalApi.serve
  -- a body that is not JSON is answered before the token is looked at
  cases hparsed : InternalApi.unparsed request.call with
  | some response =>
    obtain ⟨refusal, rfl⟩ := unparsed_eq_some hparsed
    have hstatus := toInternal_status refusal
    refine ⟨fun _ => ?_, fun _ h => absurd h hstatus⟩
    exact ⟨fun h => absurd h hstatus, fun h => absurd h.1 (by simp)⟩
  | none =>
    -- what runs behind an accepted token never answers 401
    have hentered : ∀ db, (api.enter db request.call).status ≠ 401 := by
      intro db h
      have hstatus := enter_status api db request.call
      rw [h] at hstatus
      exact absurd hstatus (by decide)
    unfold InternalApi.requireKeycloakService
    rcases requireBearer_cases api.rt api.jwt api.serviceTokenVerifier
        "Invalid service credentials." request.authorization with
      ⟨hrequire, claims, hverify⟩ | ⟨hrequire, message, hverify⟩ | ⟨hrequire, error, hverify⟩
    · rw [hrequire, hverify]
      refine ⟨fun db => ?_, fun db h => absurd h (hentered db)⟩
      exact ⟨fun h => absurd h (hentered db), by simp⟩
    · rw [hrequire, hverify]
      exact ⟨fun db => by simp, fun _ _ => rfl⟩
    · rw [hrequire, hverify]
      have hserver : internalServerError.status ≠ 401 := by decide
      refine ⟨fun db => ?_, fun _ h => absurd h hserver⟩
      exact ⟨fun h => absurd h hserver, by simp⟩

/-- **The scraper's token.** Whoever may read the metrics learns nothing from the internal API, so
    long as the two clients differ. -/
theorem metrics_token_learns_nothing {settings : ServiceTokenSettings api.rt}
    {metricsTokenVerifier : ServiceTokenVerifier} {authorization : Option String}
    (hjwt : ReadsOwnClaims api.jwt)
    (hinternal : internalVerifier? api.rt settings = some api.serviceTokenVerifier)
    (hmetrics : metricsVerifier? api.rt settings = some metricsTokenVerifier)
    (hclients : settings.keycloakInternalClientId ≠
      api.rt.strip settings.metricsKeycloakAuthorizedParty)
    (h : requireMetricsBearer api.rt api.jwt metricsTokenVerifier authorization = .ok ())
    (call : InternalCall) (db db' : ReadDatabase) :
    api.serve db ⟨authorization, call⟩ = api.serve db' ⟨authorization, call⟩ := by
  refine serve_of_not_accepts (fun haccepts => ?_) call db db'
  obtain ⟨claims, hverify⟩ := requireBearer_eq_ok haccepts
  obtain ⟨claims', hverify'⟩ := requireBearer_eq_ok h
  exact verifiers_disjoint hjwt hinternal hmetrics hclients hverify hverify'

/-- The internal API of a small deployment. -/
def InternalApi.sample : InternalApi where
  rt := Runtime.sample
  jwt := sampleJwt
  serviceTokenVerifier := sampleInternalVerifier
  intParameter := fun s =>
    if s.toList.all Char.isDigit then
      some (s.toList.foldl (fun n c => 10 * n + (c.toNat - '0'.toNat)) 0)
    else none

def ReadDatabase.sample (tables : IdentityTables) : ReadDatabase where
  tables := tables
  available := true
  textFits := fun s => decide ('\x00' ∉ s.toList)
  idFits := fun _ n => decide (-9223372036854775808 ≤ n ∧ n < 9223372036854775808)

/-- The token of Prometheus does not tell a service with accounts from one without. -/
theorem metrics_token_learns_nothing_sample :
    InternalApi.sample.serve (.sample sharedTables)
        ⟨some "bearer of-prometheus", .identityByEmail (some "bia@ouros.app")⟩ =
      InternalApi.sample.serve (.sample ⟨[], [], []⟩)
        ⟨some "bearer of-prometheus", .identityByEmail (some "bia@ouros.app")⟩ := by
  have hinternal : internalVerifier? Runtime.sample ServiceTokenSettings.sample =
      some sampleInternalVerifier := by decide
  have hmetrics : metricsVerifier? Runtime.sample ServiceTokenSettings.sample =
      some sampleMetricsVerifier := by decide
  exact metrics_token_learns_nothing sampleJwt_readsOwnClaims hinternal hmetrics (by decide)
    (by decide) _ _ _

/-! ### Round trips -/

/-- The account an answer describes. -/
def InternalResponse.identity? (response : InternalResponse) : Option IdentityResponse :=
  match response.body with
  | .identity identity => some identity
  | .verified identity => some identity
  | .detail _ => none
  | .invalid _ => none

@[simp] theorem unprocessable_identity? (errors : List FieldError) :
    (unprocessable errors).identity? = none := rfl

@[simp] theorem internalServerError_identity? : internalServerError.identity? = none := rfl

@[simp] theorem ambiguousResponse_identity? : ambiguousResponse.identity? = none := rfl

/-- What is found by id stands in the tables. -/
theorem mem_of_findByExternalId {tables : IdentityTables} {accountType : AccountType}
    {databaseId : ℤ} {i : StoredIdentity}
    (h : findByExternalId tables accountType databaseId = some i) : i ∈ tables.identities := by
  unfold findByExternalId at h
  obtain ⟨row, hrow, rfl⟩ := Option.map_eq_some_iff.mp h
  have hmem : rowToIdentity row ∈ (findByIdSql tables databaseId accountType).map rowToIdentity :=
    List.mem_map_of_mem (List.mem_of_mem_head? hrow)
  simp only [IdentityTables.identities, List.mem_append]
  cases accountType with
  | farmOwner =>
    rw [findByIdSql, map_selectWhere FarmOwnerRow.identity fun _ => rfl] at hmem
    exact Or.inl (Or.inl (List.map_subset _ (List.filter_subset_self _) hmem))
  | companyEmployee =>
    rw [findByIdSql, map_selectWhere CompanyEmployeeRow.identity fun _ => rfl] at hmem
    exact Or.inl (Or.inr (List.map_subset _ (List.filter_subset_self _) hmem))
  | admin =>
    rw [findByIdSql, map_selectWhere AdmRow.identity fun _ => rfl] at hmem
    exact Or.inr (List.map_subset _ (List.filter_subset_self _) hmem)

/-- What a lookup by address finds stands in the tables. -/
theorem mem_of_lookupIdentityByEmail {tables : IdentityTables} {email : String}
    {i : StoredIdentity} (h : lookupIdentityByEmail rt tables email = .ok (some i)) :
    i ∈ tables.identities := by
  unfold lookupIdentityByEmail at h
  split at h
  · exact absurd h (by simp)
  · rename_i j hj
    obtain rfl := Option.some.inj (Except.ok.inj h)
    exact (mem_findByEmail.mp (hj ▸ List.mem_cons_self)).1
  · exact absurd h (by simp)

/-- An account in an answer is one of the tables, and the database answered. -/
theorem enter_identity {answer : IdentityResponse}
    (h : (api.enter db call).identity? = some answer) :
    db.available = true ∧ ∃ i ∈ db.tables.identities, answer = .fromIdentity i := by
  cases call with
  | identityByEmail email =>
    cases email with
    | none => exact absurd h (by simp [InternalApi.enter])
    | some email =>
      simp only [InternalApi.enter, lookupIdentityByEmail_eq] at h
      split_ifs at h with hlength hanswers
      · split at h
        · rename_i found hfound
          cases found with
          | none =>
            exact absurd h (by simp [InternalApi.lookupResponse, InternalResponse.identity?])
          | some i =>
            exact ⟨hanswers.1, i, mem_of_lookupIdentityByEmail hfound, (Option.some.inj h).symm⟩
        · exact absurd h (by simp)
      · exact absurd h (by simp)
      · exact absurd h (by simp)
  | identityByExternalId accountType databaseId =>
    simp only [InternalApi.enter] at h
    split at h
    · rename_i t n _ _
      unfold InternalApi.lookupIdentityByExternalId AuthService.lookupIdentityByExternalId at h
      split_ifs at h with hanswers
      · cases hfound : findByExternalId db.tables t n with
        | none =>
          rw [hfound] at h
          exact absurd h (by simp [InternalApi.lookupResponse, InternalResponse.identity?])
        | some i =>
          rw [hfound] at h
          exact ⟨hanswers.1, i, mem_of_findByExternalId hfound, (Option.some.inj h).symm⟩
      · exact absurd h (by simp [InternalApi.lookupResponse, ServiceRaised.toInternal,
          internalServerError, InternalResponse.identity?])
    all_goals exact absurd h (by simp)
  | credentialsVerify body =>
    simp only [InternalApi.enter] at h
    split at h
    · rw [verifyInternalCredentials_eq] at h
      split_ifs at h with hanswers
      · split at h
        · rename_i i hverify
          exact ⟨hanswers.1, i, (mem_findByEmail.mp (verifyCredentials_ok hverify).1).1,
            (Option.some.inj h).symm⟩
        · exact absurd h (by simp [InternalResponse.identity?])
        · exact absurd h (by simp)
      · exact absurd h (by simp)
    · exact absurd h (by simp)

/-- A request that got an account was let through. -/
theorem serve_identity {answer : IdentityResponse}
    (h : (api.serve db request).identity? = some answer) :
    api.requireKeycloakService request.authorization = .ok () ∧
      (api.enter db request.call).identity? = some answer := by
  unfold InternalApi.serve at h
  cases hparsed : InternalApi.unparsed request.call with
  | some response =>
    rw [hparsed] at h
    obtain ⟨refusal, rfl⟩ := unparsed_eq_some hparsed
    cases refusal with
    | invalid errors => exact absurd h (by simp [BodyRefusal.toInternal])
    | unparsable =>
      exact absurd h (by simp [BodyRefusal.toInternal, InternalResponse.identity?])
  | none =>
    rw [hparsed] at h
    unfold InternalApi.requireKeycloakService at h ⊢
    rcases requireBearer_cases api.rt api.jwt api.serviceTokenVerifier
        "Invalid service credentials." request.authorization with
      ⟨hrequire, -⟩ | ⟨hrequire, -⟩ | ⟨hrequire, -⟩
    · rw [hrequire] at h
      exact ⟨hrequire, h⟩
    · rw [hrequire] at h
      exact absurd h (by simp [InternalResponse.identity?])
    · rw [hrequire] at h
      exact absurd h (by simp)

/-- **Storage ids.** An account that any internal route answered is found again under the type and
    id of the answer, as the same answer. -/
theorem internal_round_trip {answer : IdentityResponse} (hids : db.tables.UniqueIds)
    (hstored : db.idFits answer.accountType answer.id = true)
    (hint : api.intParameter (toString answer.id) = some answer.id)
    (h : (api.serve db request).identity? = some answer) :
    api.serve db ⟨request.authorization,
        .identityByExternalId answer.accountType.value (toString answer.id)⟩ =
      ⟨200, .identity answer, none⟩ := by
  obtain ⟨hrequire, hentered⟩ := serve_identity h
  obtain ⟨havailable, i, hi, rfl⟩ := enter_identity hentered
  have hquery : AuthService.lookupIdentityByExternalId db i.accountType i.databaseId =
      .ok (some (.fromIdentity i)) := by
    rw [AuthService.lookupIdentityByExternalId, if_pos ⟨havailable, hstored⟩,
      findByExternalId_of_mem hids hi, Option.map_some]
  have hint' : api.intParameter (toString i.databaseId) = some i.databaseId := hint
  unfold InternalApi.serve
  simp only [InternalApi.unparsed, hrequire, InternalApi.enter, IdentityResponse.fromIdentity,
    AccountType.ofValue?_value, hint']
  rw [InternalApi.lookupIdentityByExternalId, hquery]
  rfl

/-- Ana signs in as the employee she is. -/
def anaVerifies : InternalRequest :=
  ⟨some "bearer of-keycloak", .credentialsVerify (.document (.object
    [("email", .str "ana@ouros.app"), ("password", .str "Outra@123")]))⟩

/-- What is answered about her. -/
def anaEmployee : IdentityResponse :=
  ⟨7, "ana@ouros.app", .companyEmployee, "company_employee", none, none, some 5, none⟩

theorem internal_round_trip_ana :
    (InternalApi.sample.serve (.sample sharedTables) anaVerifies).identity? = some anaEmployee ∧
      InternalApi.sample.serve (.sample sharedTables)
          ⟨some "bearer of-keycloak", .identityByExternalId "company_employee" "7"⟩ =
        ⟨200, .identity anaEmployee, none⟩ := by
  have hverified : (InternalApi.sample.serve (.sample sharedTables) anaVerifies).identity? =
      some anaEmployee := by decide +kernel
  exact ⟨hverified, internal_round_trip ⟨by decide, by decide, by decide⟩ (by decide)
    (by decide +kernel) hverified⟩

/-- **Addresses.** Asked for the address of such an answer, the lookup answers the same account if
    it is the only one with that address, and otherwise calls it ambiguous. -/
theorem internal_email_round_trip {answer : IdentityResponse}
    (haddress : api.rt.pgLower answer.email = api.rt.normalizeEmail answer.email)
    (hlength : hasLength 3 255 answer.email = true)
    (htext : db.textFits (api.rt.normalizeEmail answer.email) = true)
    (h : (api.serve db request).identity? = some answer) :
    api.serve db ⟨request.authorization, .identityByEmail (some answer.email)⟩ =
      if (db.tables.withEmail api.rt answer.email).length = 1 then ⟨200, .identity answer, none⟩
      else ambiguousResponse := by
  obtain ⟨hrequire, hentered⟩ := serve_identity h
  obtain ⟨havailable, i, hi, rfl⟩ := enter_identity hentered
  have hserve : api.serve db ⟨request.authorization, .identityByEmail (some i.email)⟩ =
      api.lookupIdentityByEmail db i.email := by
    unfold InternalApi.serve
    simp only [InternalApi.unparsed, hrequire, InternalApi.enter]
    exact if_pos hlength
  -- the query sorts what it finds, and only the number of accounts matters here
  have hperm : (findByEmail api.rt db.tables i.email none).Perm
      (db.tables.withEmail api.rt i.email) := by
    simpa [IdentityTables.withEmail] using findByEmail_perm api.rt db.tables i.email none
  have himem : i ∈ findByEmail api.rt db.tables i.email none :=
    mem_findByEmail.mpr ⟨hi, haddress, Or.inl rfl⟩
  show api.serve db ⟨request.authorization, .identityByEmail (some i.email)⟩ =
    if (db.tables.withEmail api.rt i.email).length = 1 then ⟨200, .identity (.fromIdentity i), none⟩
    else ambiguousResponse
  rw [hserve, lookupIdentityByEmail_eq, if_pos ⟨havailable, htext⟩, ← hperm.length_eq]
  -- the account itself is among those found, so none at all cannot happen
  unfold lookupIdentityByEmail
  split
  · rename_i hfound
    split at hfound
    · rename_i hnil
      exact absurd himem (by simp [hnil])
    · rename_i j hj
      obtain rfl := Except.ok.inj hfound
      rw [hj] at himem ⊢
      obtain rfl := List.mem_singleton.mp himem
      rfl
    · exact absurd hfound (by simp)
  · rename_i error hfound
    split at hfound
    · exact absurd hfound (by simp)
    · exact absurd hfound (by simp)
    · rename_i j j' rest hj
      rw [hj, if_neg (by simp)]

/-- Ana's address has three accounts. -/
theorem internal_email_round_trip_ana :
    InternalApi.sample.serve (.sample sharedTables)
        ⟨some "bearer of-keycloak", .identityByEmail (some "ana@ouros.app")⟩ =
      ambiguousResponse := by
  have hverified : (InternalApi.sample.serve (.sample sharedTables) anaVerifies).identity? =
      some anaEmployee := by decide +kernel
  have hanswer := internal_email_round_trip (by decide) (by decide) (by decide) hverified
  rwa [if_neg (by decide +kernel)] at hanswer

/-! ### Stored hashes -/

/-- Two rows that differ in their hashes only, and in those as `hashes` allows. -/
def ApartFromHash {ρ : Type} (hash : ρ → String) (withHash : ρ → String → ρ)
    (hashes : String → String → Prop) (row row' : ρ) : Prop :=
  hashes (hash row) (hash row') ∧ row' = withHash row (hash row')

def FarmOwnerRow.withPassword (row : FarmOwnerRow) (password : String) : FarmOwnerRow :=
  { row with password := password }

def CompanyEmployeeRow.withPassword (row : CompanyEmployeeRow) (password : String) :
    CompanyEmployeeRow :=
  { row with password := password }

def AdmRow.withPassword (row : AdmRow) (password : String) : AdmRow :=
  { row with password := password }

def NormalizedRow.withPasswordHash (row : NormalizedRow) (passwordHash : String) : NormalizedRow :=
  { row with passwordHash := passwordHash }

def StoredIdentity.withPasswordHash (i : StoredIdentity) (passwordHash : String) :
    StoredIdentity :=
  { i with passwordHash := passwordHash }

/-- Tables with the same accounts in the same order, apart from their hashes. -/
structure IdentityTables.ApartFromHashes (hashes : String → String → Prop)
    (tables tables' : IdentityTables) : Prop where
  farmOwners : List.Forall₂
    (ApartFromHash FarmOwnerRow.password FarmOwnerRow.withPassword hashes)
    tables.farmOwners tables'.farmOwners
  companyEmployees : List.Forall₂
    (ApartFromHash CompanyEmployeeRow.password CompanyEmployeeRow.withPassword hashes)
    tables.companyEmployees tables'.companyEmployees
  adms : List.Forall₂ (ApartFromHash AdmRow.password AdmRow.withPassword hashes)
    tables.adms tables'.adms

section
variable {hashes : String → String → Prop} {tables tables' : IdentityTables}

theorem rowToIdentity_apartFromHash {row row' : NormalizedRow}
    (h : ApartFromHash NormalizedRow.passwordHash NormalizedRow.withPasswordHash hashes row row') :
    ApartFromHash StoredIdentity.passwordHash StoredIdentity.withPasswordHash hashes
      (rowToIdentity row) (rowToIdentity row') := by
  obtain ⟨hhash, hrow⟩ := h
  rw [hrow]
  exact ⟨hhash, rfl⟩

/-- Answers do not show the hash. -/
theorem fromIdentity_eq_of_apartFromHash {i i' : StoredIdentity}
    (h : ApartFromHash StoredIdentity.passwordHash StoredIdentity.withPasswordHash hashes i i') :
    IdentityResponse.fromIdentity i' = .fromIdentity i := by
  rw [h.2]
  rfl

/-- A select keeps rows in step when its filter does not look at the hash. -/
theorem selectWhere_apartFromHash {ρ : Type} {hash : ρ → String} {withHash : ρ → String → ρ}
    {columns : ρ → NormalizedRow} {keep : ρ → Bool} {rows rows' : List ρ}
    (h : List.Forall₂ (ApartFromHash hash withHash hashes) rows rows')
    (hkeep : ∀ row p, keep (withHash row p) = keep row)
    (hhash : ∀ row, (columns row).passwordHash = hash row)
    (hcolumns : ∀ row p, columns (withHash row p) = (columns row).withPasswordHash p) :
    List.Forall₂
      (ApartFromHash NormalizedRow.passwordHash NormalizedRow.withPasswordHash hashes)
      (selectWhere columns keep rows) (selectWhere columns keep rows') := by
  unfold selectWhere
  rw [List.forall₂_map_left_iff, List.forall₂_map_right_iff]
  refine (forall₂_filter ?_ h).imp ?_
  · rintro row row' ⟨-, hrow⟩
    rw [hrow, hkeep]
  · rintro row row' ⟨hrelated, hrow⟩
    refine ⟨?_, ?_⟩
    · rw [hhash, hhash]
      exact hrelated
    · rw [hhash row', ← hcolumns, ← hrow]

/-- The union of the three tables. -/
theorem findIdentitiesUnion_apartFromHash (rt : Runtime)
    (h : tables.ApartFromHashes hashes tables') (wanted : String) :
    List.Forall₂
      (ApartFromHash NormalizedRow.passwordHash NormalizedRow.withPasswordHash hashes)
      (findIdentitiesUnion rt tables wanted) (findIdentitiesUnion rt tables' wanted) := by
  unfold findIdentitiesUnion
  refine List.rel_append (List.rel_append ?_ ?_) ?_
  · exact selectWhere_apartFromHash h.farmOwners (fun _ _ => rfl) (fun _ => rfl) fun _ _ => rfl
  · exact selectWhere_apartFromHash h.companyEmployees (fun _ _ => rfl) (fun _ => rfl)
      fun _ _ => rfl
  · exact selectWhere_apartFromHash h.adms (fun _ _ => rfl) (fun _ => rfl) fun _ _ => rfl

/-- A lookup by address answers the same accounts in the same order. -/
theorem findByEmail_apartFromHash (rt : Runtime) (h : tables.ApartFromHashes hashes tables')
    (email : String) (accountType : Option AccountType) :
    List.Forall₂
      (ApartFromHash StoredIdentity.passwordHash StoredIdentity.withPasswordHash hashes)
      (findByEmail rt tables email accountType) (findByEmail rt tables' email accountType) := by
  unfold findByEmail findIdentitiesSql
  rw [List.forall₂_map_left_iff, List.forall₂_map_right_iff]
  have hunion := findIdentitiesUnion_apartFromHash rt h (rt.normalizeEmail email)
  refine (forall₂_insertionSort _ _ ?_ (forall₂_filter ?_ hunion)).imp fun _ _ =>
    rowToIdentity_apartFromHash
  · rintro a a' b b' ⟨-, hb⟩ ⟨-, hb'⟩
    rw [hb, hb']
    exact Iff.rfl
  · rintro a b ⟨-, hb⟩
    rw [hb]
    rfl

/-- So does a lookup by id. -/
theorem findByExternalId_apartFromHash (h : tables.ApartFromHashes hashes tables')
    (accountType : AccountType) (databaseId : ℤ) :
    (findByExternalId tables' accountType databaseId).map IdentityResponse.fromIdentity =
      (findByExternalId tables accountType databaseId).map IdentityResponse.fromIdentity := by
  have hrows : List.Forall₂
      (ApartFromHash NormalizedRow.passwordHash NormalizedRow.withPasswordHash hashes)
      (findByIdSql tables databaseId accountType) (findByIdSql tables' databaseId accountType) := by
    cases accountType with
    | farmOwner =>
      exact selectWhere_apartFromHash h.farmOwners (fun _ _ => rfl) (fun _ => rfl) fun _ _ => rfl
    | companyEmployee =>
      exact selectWhere_apartFromHash h.companyEmployees (fun _ _ => rfl) (fun _ => rfl)
        fun _ _ => rfl
    | admin =>
      exact selectWhere_apartFromHash h.adms (fun _ _ => rfl) (fun _ => rfl) fun _ _ => rfl
  unfold findByExternalId
  generalize findByIdSql tables databaseId accountType = rows at hrows
  generalize findByIdSql tables' databaseId accountType = rows' at hrows
  cases hrows with
  | nil => rfl
  | cons hrow _ =>
    exact congrArg some (fromIdentity_eq_of_apartFromHash (rowToIdentity_apartFromHash hrow))

/-- The lookup by address, as the service answers it. -/
theorem lookupIdentityByEmail_apartFromHash (rt : Runtime)
    (h : tables.ApartFromHashes hashes tables') (email : String) :
    (lookupIdentityByEmail rt tables' email).map (Option.map IdentityResponse.fromIdentity) =
      (lookupIdentityByEmail rt tables email).map (Option.map IdentityResponse.fromIdentity) := by
  have hfound := findByEmail_apartFromHash rt h email none
  unfold lookupIdentityByEmail
  generalize findByEmail rt tables email none = found at hfound
  generalize findByEmail rt tables' email none = found' at hfound
  cases hfound with
  | nil => rfl
  | cons hi htail =>
    cases htail with
    | nil =>
      simp only [Except.map, Option.map_some, fromIdentity_eq_of_apartFromHash hi]
    | cons => rfl

/-- Credentials are verified alike by hashes that answer their password alike. -/
theorem verifyCredentials_apartFromHash (rt : Runtime) {password : String}
    (h : tables.ApartFromHashes hashes tables')
    (hpassword : ∀ hash hash', hashes hash hash' →
      rt.verifyPassword password hash = rt.verifyPassword password hash')
    (email : String) (accountType : Option AccountType) :
    (verifyCredentials rt tables' email password accountType).map IdentityResponse.fromIdentity =
      (verifyCredentials rt tables email password accountType).map
        IdentityResponse.fromIdentity := by
  have hmatches := forall₂_filter (p := fun i => rt.verifyPassword password i.passwordHash)
    (q := fun i => rt.verifyPassword password i.passwordHash)
    (fun i i' hi => hpassword _ _ hi.1) (findByEmail_apartFromHash rt h email accountType)
  unfold verifyCredentials
  generalize (findByEmail rt tables email accountType).filter _ = found at hmatches
  generalize (findByEmail rt tables' email accountType).filter _ = found' at hmatches
  cases hmatches with
  | nil => rfl
  | cons hi htail =>
    cases htail with
    | nil => simp only [Except.map, fromIdentity_eq_of_apartFromHash hi]
    | cons => rfl

end

/-- The password a request presents. -/
def InternalCall.password? : InternalCall → Option String
  | .credentialsVerify (.document (.object entries)) =>
      match entries.lookup "password" with
      | some (.str password) => some password
      | _ => none
  | _ => none

/-- The model of a request holds the password the request presents. -/
theorem password?_of_eq_ok {body : JsonBody} {payload : CredentialVerificationRequest}
    (h : credentialVerificationRequest rt body = .ok payload) :
    (InternalCall.credentialsVerify body).password? = some payload.password := by
  obtain ⟨entries, email, password, rfl, -, hpassword, hvalidate⟩ :=
    credentialVerificationRequest_eq_ok h
  unfold CredentialVerificationRequest.validate at hvalidate
  split at hvalidate
  · exact absurd hvalidate (by simp)
  · split_ifs at hvalidate
    have hpayload := congrArg CredentialVerificationRequest.password (Option.some.inj hvalidate)
    simp only [InternalCall.password?, hpassword, ← hpayload]

/-- A query answers alike when what it answers is read alike. -/
theorem byAddress_map_congr {α β : Type} {f : α → β} {answer answer' : Except ApiError α}
    (tables' : IdentityTables) (rt : Runtime) (email : String)
    (h : answer'.map f = answer.map f) :
    (ReadDatabase.byAddress { db with tables := tables' } rt email answer').map f =
      (db.byAddress rt email answer).map f := by
  have hswap : ∀ x : Except ApiError α, (x.mapError ServiceRaised.api).map f =
      (x.map f).mapError .api := fun x => by cases x <;> rfl
  unfold ReadDatabase.byAddress
  split_ifs
  · rw [hswap, hswap, h]
  · rfl

/-- **Stored hashes.** Two databases that differ in their password hashes only are told apart by no
    internal request, unless one of the hashes verifies the very password the request presents and
    its counterpart does not. -/
theorem internal_hides_hashes {tables' : IdentityTables}
    (h : db.tables.ApartFromHashes (fun hash hash' => ∀ password ∈ request.call.password?,
      api.rt.verifyPassword password hash = api.rt.verifyPassword password hash') tables') :
    api.serve { db with tables := tables' } request = api.serve db request := by
  -- the token check reads no table, so the two answers can differ behind it only
  have henter : api.enter { db with tables := tables' } request.call =
      api.enter db request.call := by
    obtain ⟨authorization, call⟩ := request
    cases call with
    | identityByEmail email =>
      cases email with
      | none => rfl
      | some email =>
        have hlookup : AuthService.lookupIdentityByEmail api.rt
            { db with tables := tables' } email =
              AuthService.lookupIdentityByEmail api.rt db email :=
          byAddress_map_congr tables' api.rt email
            (lookupIdentityByEmail_apartFromHash api.rt h email)
        simp only [InternalApi.enter, InternalApi.lookupIdentityByEmail, hlookup]
    | identityByExternalId accountType databaseId =>
      simp only [InternalApi.enter, InternalApi.lookupIdentityByExternalId,
        AuthService.lookupIdentityByExternalId, findByExternalId_apartFromHash h]
    | credentialsVerify body =>
      -- the one route that looks at a hash, and at that with the password of the body
      simp only [InternalApi.enter]
      cases hpayload : credentialVerificationRequest api.rt body with
      | error errors => rfl
      | ok payload =>
        have hpassword := password?_of_eq_ok hpayload
        have hverify : AuthService.verifyCredentials api.rt { db with tables := tables' } payload =
            AuthService.verifyCredentials api.rt db payload := by
          refine byAddress_map_congr tables' api.rt payload.email ?_
          exact verifyCredentials_apartFromHash api.rt h (fun _ _ hhash => hhash _ hpassword)
            payload.email payload.accountType
        simp only [InternalApi.verifyInternalCredentials, hverify]
  unfold InternalApi.serve
  rw [henter]

/-- The tables above with another hash for each account of Ana. -/
def rehashedTables : IdentityTables where
  farmOwners := [⟨7, "ana@ouros.app", "bcrypt:Nova@1234", some "Ana", some 3, some true⟩,
    ⟨8, "bia@ouros.app", "bcrypt:Senha@123", none, none, none⟩]
  companyEmployees := [⟨7, "ana@ouros.app", "bcrypt:Outra@123", none, some 5⟩]
  adms := [⟨1, "ana@ouros.app", "bcrypt:Nova@1234", none⟩]

/-- Ana's own request does not tell these two from one another. -/
theorem internal_hides_hashes_ana :
    InternalApi.sample.serve (.sample rehashedTables) anaVerifies =
      InternalApi.sample.serve (.sample sharedTables) anaVerifies := by
  have hhash : ∀ hash hash' : String,
      decide (hash = "bcrypt:Outra@123") = decide (hash' = "bcrypt:Outra@123") →
        ∀ password ∈ anaVerifies.call.password?,
          Runtime.sample.verifyPassword password hash =
            Runtime.sample.verifyPassword password hash' := by
    rintro hash hash' hsame password ⟨⟩
    exact hsame
  show InternalApi.sample.serve { ReadDatabase.sample sharedTables with tables := rehashedTables }
    anaVerifies = _
  refine internal_hides_hashes ⟨?_, ?_, ?_⟩
  · exact .cons ⟨hhash _ _ (by decide), rfl⟩ (.cons ⟨hhash _ _ (by decide), rfl⟩ .nil)
  · exact .cons ⟨hhash _ _ (by decide), rfl⟩ .nil
  · exact .cons ⟨hhash _ _ (by decide), rfl⟩ .nil

end OurosAuth
