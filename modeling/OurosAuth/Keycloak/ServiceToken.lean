import OurosAuth.Keycloak.Contract

namespace OurosAuth

/-!
# Service tokens

`KeycloakServiceTokenVerifier`, which guards the internal API and the metrics with one verifier
each.

* `ServiceTokenVerifier` — a verifier that could be built: neither of its values is blank;
* `verifyAuthorizationHeader` — the header, the token and its authorized party;
* `verifiers_disjoint` — no header passes two verifiers with different authorized parties.
-/

/-- The settings the verifiers read, with the two checks of `validate_pool_sizes` on them. -/
structure ServiceTokenSettings (rt : Runtime) where
  keycloakInternalAudience : String
  keycloakInternalClientId : String
  keycloakMetricsAudience : String
  metricsKeycloakAuthorizedParty : String
  metricsAudience_ne : rt.strip keycloakMetricsAudience ≠ ""
  metricsParty_ne : rt.strip metricsKeycloakAuthorizedParty ≠ ""

/-- `KeycloakServiceTokenVerifier` -/
structure ServiceTokenVerifier where
  audience : String
  clientId : String
  audience_ne : audience ≠ ""
  clientId_ne : clientId ≠ ""
  deriving DecidableEq

/-- `KeycloakServiceTokenVerifier.__init__`; `none` is its `ValueError`. -/
def ServiceTokenVerifier.new? (rt : Runtime) (settings : ServiceTokenSettings rt)
    (audience clientId : Option String) : Option ServiceTokenVerifier :=
  let audience := (audience.map rt.strip).getD settings.keycloakInternalAudience
  let clientId := (clientId.map rt.strip).getD settings.keycloakInternalClientId
  if h : audience ≠ "" ∧ clientId ≠ "" then some ⟨audience, clientId, h.1, h.2⟩ else none

/-- `service_token_verifier` of `_resolve_dependencies` -/
def internalVerifier? (rt : Runtime) (settings : ServiceTokenSettings rt) :
    Option ServiceTokenVerifier :=
  ServiceTokenVerifier.new? rt settings none none

/-- `metrics_token_verifier` of `_resolve_dependencies` -/
def metricsVerifier? (rt : Runtime) (settings : ServiceTokenSettings rt) :
    Option ServiceTokenVerifier :=
  ServiceTokenVerifier.new? rt settings (some settings.keycloakMetricsAudience)
    (some settings.metricsKeycloakAuthorizedParty)

/-- What a verifier raises: `ServiceAuthenticationError`, or what it does not catch. -/
inductive VerifierRaised
  | serviceAuthentication (message : String)
  | python (error : PyError)

/-- How `jwt` reads a token for an audience: signature, issuer, audience and lifetime. -/
abbrev JwtDecode := String → String → Except DecodeError TokenClaims

/-- `_decode` -/
def ServiceTokenVerifier.decode (verifier : ServiceTokenVerifier) (jwt : JwtDecode)
    (token : String) : Except VerifierRaised TokenClaims :=
  match jwt verifier.audience token with
  | .error .invalidTokenError => .error (.serviceAuthentication "invalid service token")
  | .error .pyJWKClientError => .error (.serviceAuthentication "invalid service token")
  | .error .valueError => .error (.python .valueError)
  | .ok payload =>
    if (getClaim payload "azp").equalsStr verifier.clientId then .ok payload
    else .error (.serviceAuthentication "unexpected authorized party")

/-- The token of an `Authorization` header, or why it has none. -/
def bearerToken (rt : Runtime) (authorization : Option String) : Except VerifierRaised String :=
  match authorization with
  | none => .error (.serviceAuthentication "missing bearer token")
  | some header =>
    -- `partition(" ")`
    let scheme := String.ofList (header.toList.takeWhile (· ≠ ' '))
    let token := String.ofList ((header.toList.dropWhile (· ≠ ' ')).drop 1)
    if ' ' ∉ header.toList ∨ rt.lower scheme ≠ "bearer" ∨ rt.strip token = "" then
      .error (.serviceAuthentication "invalid bearer token")
    else .ok (rt.strip token)

/-- `verify_authorization_header` -/
def ServiceTokenVerifier.verifyAuthorizationHeader (verifier : ServiceTokenVerifier)
    (rt : Runtime) (jwt : JwtDecode) (authorization : Option String) :
    Except VerifierRaised TokenClaims :=
  match bearerToken rt authorization with
  | .error raised => .error raised
  | .ok token => verifier.decode jwt token

variable {rt : Runtime} {settings : ServiceTokenSettings rt}
  {verifier verifier' : ServiceTokenVerifier} {jwt : JwtDecode} {authorization : Option String}
  {claims : TokenClaims}

/-- **What a verifier accepts**: a bearer token that is valid for its audience and was issued to
    its own client. -/
theorem verifyAuthorizationHeader_eq_ok :
    verifier.verifyAuthorizationHeader rt jwt authorization = .ok claims ↔
      ∃ token, bearerToken rt authorization = .ok token ∧ jwt verifier.audience token = .ok claims ∧
        getClaim claims "azp" = .str verifier.clientId := by
  unfold ServiceTokenVerifier.verifyAuthorizationHeader
  cases bearerToken rt authorization with
  | error raised => simp
  | ok token =>
    simp only [ServiceTokenVerifier.decode, Except.ok.injEq, exists_eq_left']
    cases jwt verifier.audience token with
    | error error => cases error <;> simp
    | ok payload =>
      by_cases hazp : (getClaim payload "azp").equalsStr verifier.clientId = true
      · simp only [hazp, if_true, Except.ok.injEq]
        exact ⟨fun h => ⟨h, h ▸ JsonValue.equalsStr_iff.mp hazp⟩, And.left⟩
      · simp only [hazp, if_false, reduceCtorEq, false_iff, Except.ok.injEq]
        rintro ⟨rfl, hclient⟩
        exact hazp (JsonValue.equalsStr_iff.mpr hclient)

/-- The metrics verifier can always be built. -/
theorem metricsVerifier?_eq (rt : Runtime) (settings : ServiceTokenSettings rt) :
    ∃ verifier, metricsVerifier? rt settings = some verifier ∧
      verifier.audience = rt.strip settings.keycloakMetricsAudience ∧
      verifier.clientId = rt.strip settings.metricsKeycloakAuthorizedParty :=
  ⟨_, dif_pos ⟨settings.metricsAudience_ne, settings.metricsParty_ne⟩, rfl, rfl⟩

/-- The verifier of the internal API takes the settings as they are. -/
theorem internalVerifier?_eq_some :
    internalVerifier? rt settings = some verifier ↔
      verifier.audience = settings.keycloakInternalAudience ∧
        verifier.clientId = settings.keycloakInternalClientId := by
  unfold internalVerifier? ServiceTokenVerifier.new?
  simp only [Option.map_none, Option.getD_none]
  split_ifs with h
  · rw [Option.some.injEq]
    constructor
    · rintro rfl
      exact ⟨rfl, rfl⟩
    · rintro ⟨haudience, hclient⟩
      cases verifier
      simp only [ServiceTokenVerifier.mk.injEq]
      exact ⟨haudience.symm, hclient.symm⟩
  · simp only [false_iff]
    rintro ⟨haudience, hclient⟩
    exact h ⟨haudience ▸ verifier.audience_ne, hclient ▸ verifier.clientId_ne⟩

/-- `jwt.decode` checks a token against an audience; what it answers are the token's own claims. -/
def ReadsOwnClaims (jwt : JwtDecode) : Prop :=
  ∀ audience audience' token claims claims', jwt audience token = .ok claims →
    jwt audience' token = .ok claims' → claims = claims'

/-- **One door for each client.** Of the two verifiers, with different clients, no header passes
    both. -/
theorem verifiers_disjoint {claims' : TokenClaims} (hjwt : ReadsOwnClaims jwt)
    (hinternal : internalVerifier? rt settings = some verifier)
    (hmetrics : metricsVerifier? rt settings = some verifier')
    (hclients : settings.keycloakInternalClientId ≠
      rt.strip settings.metricsKeycloakAuthorizedParty)
    (hverify : verifier.verifyAuthorizationHeader rt jwt authorization = .ok claims) :
    verifier'.verifyAuthorizationHeader rt jwt authorization ≠ .ok claims' := by
  intro hverify'
  obtain ⟨-, hclient⟩ := internalVerifier?_eq_some.mp hinternal
  obtain ⟨built, hbuilt, -, hclient'⟩ := metricsVerifier?_eq rt settings
  obtain rfl := Option.some.inj (hbuilt.symm.trans hmetrics)
  obtain ⟨token, htoken, hdecode, hazp⟩ := verifyAuthorizationHeader_eq_ok.mp hverify
  obtain ⟨token', htoken', hdecode', hazp'⟩ := verifyAuthorizationHeader_eq_ok.mp hverify'
  obtain rfl := Except.ok.inj (htoken.symm.trans htoken')
  obtain rfl := hjwt _ _ _ _ _ hdecode hdecode'
  have hsame := JsonValue.str.inj (hazp.symm.trans hazp')
  exact hclients (by rw [← hclient, ← hclient', hsame])

/-! ### Two tokens of a realm -/

/-- The default settings. -/
def ServiceTokenSettings.sample : ServiceTokenSettings Runtime.sample where
  keycloakInternalAudience := "ms-auth-service-internal"
  keycloakInternalClientId := "keycloak-user-storage"
  keycloakMetricsAudience := "ms-auth-service"
  metricsKeycloakAuthorizedParty := "ouros-prometheus"
  metricsAudience_ne := by decide
  metricsParty_ne := by decide

/-- The claims of two tokens. -/
def sampleServiceClaims (token : String) : TokenClaims :=
  [("azp", .str (if token = "of-keycloak" then "keycloak-user-storage" else "ouros-prometheus"))]

/-- A realm that has issued one token to each client. -/
def sampleJwt : JwtDecode := fun audience token =>
  if (audience, token) ∈ [("ms-auth-service-internal", "of-keycloak"),
      ("ms-auth-service", "of-prometheus")] then .ok (sampleServiceClaims token)
  else .error .invalidTokenError

theorem sampleJwt_readsOwnClaims : ReadsOwnClaims sampleJwt := by
  intro audience audience' token claims claims' h h'
  unfold sampleJwt at h h'
  split_ifs at h h'
  exact (Except.ok.inj h).symm.trans (Except.ok.inj h')

def sampleInternalVerifier : ServiceTokenVerifier :=
  ⟨"ms-auth-service-internal", "keycloak-user-storage", by decide, by decide⟩

def sampleMetricsVerifier : ServiceTokenVerifier :=
  ⟨"ms-auth-service", "ouros-prometheus", by decide, by decide⟩

end OurosAuth
