import OurosAuth.EmailOtp.Login
import OurosAuth.EmailOtp.ResetRuns
import OurosAuth.PasswordReset.Confirm
import OurosAuth.PasswordReset.Start

namespace OurosAuth

open KeyValue Traced

/-!
# The application

All routes over one `EmailOtpService` and one `PasswordResetService`: the two login routes, the
three routes of the password reset and the direct password grant, any number of requests to each,
interleaved step by step over the shared stores.  The other routes (metadata, health, metrics,
credential verification, token refresh, logout) read and write nothing that these do, and send no
password grant.  The rate limiter can only refuse a request, and its counters are no records.

* `AppState` — the login system, the reset flow and the confirm system with one clock and one pair
  of stores;
* `appStep` — a step of one of the three, or of a route that spans two of them.
-/

/-- Everything the routes share. -/
structure AppState where
  otp : OtpState
  logins : ℕ → LoginCall
  blacklist : Dict String ℚ
  minted : List Claims
  confirms : ℕ → ConfirmCall

def AppState.init (now : Instant) : AppState :=
  ⟨OtpState.init now, fun _ => .idle, Dict.empty, [], fun _ => .idle⟩

/-- What the login system sees. -/
def AppState.loginState (s : AppState) : LoginState := ⟨s.otp, s.logins⟩

/-- What the confirm system sees. -/
def AppState.confirmState (s : AppState) : ConfirmState :=
  ⟨s.otp.now, ⟨s.otp.stores.redis, s.blacklist⟩, s.minted, s.confirms⟩

/-- Replace what the login system sees. -/
def AppState.setLogin (s : AppState) (t : LoginState) : AppState :=
  { s with otp := t.otp, logins := t.calls }

/-- Replace the stores and the calls the confirm system sees. -/
def AppState.setConfirm (s : AppState) (t : ConfirmState) : AppState :=
  { s with
    otp := { s.otp with stores := { s.otp.stores with redis := t.store.redis } }
    blacklist := t.store.blacklist
    minted := t.minted
    confirms := t.calls }

/-- What the steps leave in the history. -/
inductive AppEvent
  /-- the credentials of a `/v1/auth/login/start` request were verified for this identity, and the
      challenge is for it -/
  | credentialsVerified (challengeId email password : String) (identity : StoredIdentity)
  /-- the lookup of a `/v1/auth/password/reset/start` request answered these identities, and the
      challenge is for one of them -/
  | lookedUp (challengeId email : String) (accountType : Option AccountType)
      (identities : List StoredIdentity)
  | login (event : LoginEvent)
  | reset (event : ResetEvent)
  | confirm (event : ConfirmEvent)
  /-- `/v1/auth/token` sent a password grant to Keycloak -/
  | directGrant (email : String)

/-- The steps of the application. -/
inductive AppLabel
  | tick (t : Instant)
  /-- `start_native_login`, up to the saved challenge; the tables hold this at the lookup -/
  | startLogin (tables : IdentityTables) (email password challengeId code : String)
      (readAt : Instant)
  /-- a step of `verify_native_login` or `verify_web_login`, or the end of a login delivery -/
  | login (l : LoginLabel)
  /-- `start_password_reset` -/
  | startReset (tables : IdentityTables) (email : String) (accountType : Option AccountType)
      (challengeId code : String) (readAt : Instant)
  | resetDelivered (challengeId : String) (outcome : Delivery)
  /-- `verify_password_reset`; `jti` is the id of the token it may mint -/
  | verifyReset (challengeId email code : String) (readAt : Instant) (jti : String)
  /-- a step of `confirm_password_reset` -/
  | confirm (l : ConfirmLabel)
  /-- `issue_keycloak_token` -/
  | passwordToken (email : String)

/-- The login steps that are not `start`: a submission has passed the request validation. -/
def LoginLabel.isVerifyStep (rt : Runtime) : LoginLabel → Bool
  | .tick _ => false
  | .start _ _ _ _ => false
  | .load _ _ _ code => isCodeField rt code
  | _ => true

/-- The confirm steps that are steps of its route. -/
def ConfirmLabel.isRouteStep : ConfirmLabel → Bool
  | .tick _ => false
  | .mint _ _ _ _ => false
  | _ => true

/-- A step of the login system. -/
def AppState.onLogin (s : AppState) (rt : Runtime) (svc : OtpService) (l : LoginLabel) :
    Option (AppState × List AppEvent) :=
  (loginStep rt svc s.loginState l).map fun r => (s.setLogin r.1, r.2.map .login)

/-- A step of the reset flow. -/
def AppState.onReset (s : AppState) (rt : Runtime) (svc : OtpService) (l : ResetLabel) :
    Option (AppState × List AppEvent) :=
  (resetStep rt svc s.otp l).map fun r => ({ s with otp := r.1 }, r.2.map .reset)

/-- A step of the confirm system. -/
def AppState.onConfirm (s : AppState) (rt : Runtime) (svc : OtpService) (settings : Settings)
    (l : ConfirmLabel) : Option (AppState × List AppEvent) :=
  (confirmStep rt svc.usesRedis settings.passwordResetTokenTtlSeconds s.confirmState l).map fun r =>
    (s.setConfirm r.1, r.2.map .confirm)

/-- `verify_code`: the token minted on what `verify_password_reset` answered.  A record without a
    database id raises. -/
def AppState.mintFor (s : AppState) (rt : Runtime) (svc : OtpService) (settings : Settings)
    (jti : String) (verdict : ResetVerdict) : Option (AppState × List AppEvent) :=
  match verdict with
  | .accepted r =>
    match r.databaseId.asInt? with
    | some databaseId =>
        s.onConfirm rt svc settings (.mint jti r.email.toText r.accountType.toText databaseId)
    | none => some (s, [])
  | _ => some (s, [])

/-- One step of the application. -/
def appStep (rt : Runtime) (svc : OtpService) (settings : Settings) (s : AppState) :
    AppLabel → Option (AppState × List AppEvent)
  | .tick t => s.onReset rt svc (.tick t)
  | .startLogin tables email password challengeId code readAt =>
      -- the challenge is for the stored address, not for the submitted one
      match verifyCredentials rt tables email password none with
      | .error _ => some (s, [])
      | .ok identity =>
        (s.onLogin rt svc (.start challengeId identity.email code readAt)).map fun r =>
          (r.1, r.2 ++ [.credentialsVerified challengeId email password identity])
  | .login l => if l.isVerifyStep rt = true then s.onLogin rt svc l else none
  | .startReset tables email accountType challengeId code readAt =>
      let identities := findByEmail rt tables (rt.normalizeEmail email) accountType
      match eligibleIdentity identities with
      -- nobody, or more than one: no challenge
      | none => some (s, [])
      | some identity =>
        (s.onReset rt svc (.start challengeId identity.email identity.accountType.value
          identity.databaseId code readAt)).map fun r =>
            (r.1, r.2 ++ [.lookedUp challengeId email accountType identities])
  | .resetDelivered challengeId outcome => s.onReset rt svc (.delivered challengeId outcome)
  | .verifyReset challengeId email code readAt jti =>
      -- the token is minted in the same step; nothing it depends on can change in between
      if isCodeField rt code = true then
        (s.onReset rt svc (.verify challengeId email code readAt)).bind fun r =>
          (r.1.mintFor rt svc settings jti
            (s.otp.stores.verifyReset rt svc s.otp.now readAt challengeId email code).1).map
              fun r' => (r'.1, r'.2 ++ r.2)
      else none
  | .confirm l => if l.isRouteStep = true then s.onConfirm rt svc settings l else none
  | .passwordToken email =>
      -- `require_password_broker`
      if settings.keycloakPasswordBrokerEnabled then some (s, [.directGrant email])
      else some (s, [])

/-- The application. -/
def appSystem (rt : Runtime) (svc : OtpService) (settings : Settings) :
    Traced.System AppState AppLabel AppEvent := ⟨appStep rt svc settings⟩

/-! ### What one step can do -/

variable {rt : Runtime} {svc : OtpService} {settings : Settings} {s s' : AppState}
  {es : List AppEvent}

theorem onLogin_eq_some {l : LoginLabel} (hstep : s.onLogin rt svc l = some (s', es)) :
    ∃ t les, loginStep rt svc s.loginState l = some (t, les) ∧ s' = s.setLogin t ∧
      es = les.map .login := by
  unfold AppState.onLogin at hstep
  rw [Option.map_eq_some_iff] at hstep
  obtain ⟨⟨t, les⟩, hlogin, heq⟩ := hstep
  rw [Prod.mk.injEq] at heq
  exact ⟨t, les, hlogin, heq.1.symm, heq.2.symm⟩

theorem onReset_eq_some {l : ResetLabel} (hstep : s.onReset rt svc l = some (s', es)) :
    ∃ otp res, resetStep rt svc s.otp l = some (otp, res) ∧ s' = { s with otp := otp } ∧
      es = res.map .reset := by
  unfold AppState.onReset at hstep
  rw [Option.map_eq_some_iff] at hstep
  obtain ⟨⟨otp, res⟩, hreset, heq⟩ := hstep
  rw [Prod.mk.injEq] at heq
  exact ⟨otp, res, hreset, heq.1.symm, heq.2.symm⟩

theorem onConfirm_eq_some {l : ConfirmLabel}
    (hstep : s.onConfirm rt svc settings l = some (s', es)) :
    ∃ t ces, confirmStep rt svc.usesRedis settings.passwordResetTokenTtlSeconds s.confirmState l =
        some (t, ces) ∧ s' = s.setConfirm t ∧ es = ces.map .confirm := by
  unfold AppState.onConfirm at hstep
  rw [Option.map_eq_some_iff] at hstep
  obtain ⟨⟨t, ces⟩, hconfirm, heq⟩ := hstep
  rw [Prod.mk.injEq] at heq
  exact ⟨t, ces, hconfirm, heq.1.symm, heq.2.symm⟩

/-- `start_native_login` refuses the credentials, or creates a challenge for their identity. -/
theorem appStep_startLogin {tables : IdentityTables} {email password challengeId code : String}
    {readAt : Instant}
    (hstep : appStep rt svc settings s
      (.startLogin tables email password challengeId code readAt) = some (s', es)) :
    s' = s ∧ es = [] ∨
      ∃ identity les, verifyCredentials rt tables email password none = .ok identity ∧
        s.onLogin rt svc (.start challengeId identity.email code readAt) = some (s', les) ∧
        es = les ++ [.credentialsVerified challengeId email password identity] := by
  simp only [appStep] at hstep
  split at hstep
  · rw [Option.some.injEq, Prod.mk.injEq] at hstep
    exact Or.inl ⟨hstep.1.symm, hstep.2.symm⟩
  · rename_i identity hok
    rw [Option.map_eq_some_iff] at hstep
    obtain ⟨⟨s₁, les⟩, hlogin, heq⟩ := hstep
    rw [Prod.mk.injEq] at heq
    obtain ⟨rfl, rfl⟩ := heq
    exact Or.inr ⟨identity, les, hok, hlogin, rfl⟩

theorem appStep_login {l : LoginLabel}
    (hstep : appStep rt svc settings s (.login l) = some (s', es)) :
    l.isVerifyStep rt = true ∧ s.onLogin rt svc l = some (s', es) := by
  simp only [appStep] at hstep
  split_ifs at hstep with hroute
  exact ⟨hroute, hstep⟩

/-- `start_password_reset` finds nobody, or creates a challenge for the identity. -/
theorem appStep_startReset {tables : IdentityTables} {email challengeId code : String}
    {accountType : Option AccountType} {readAt : Instant}
    (hstep : appStep rt svc settings s
      (.startReset tables email accountType challengeId code readAt) = some (s', es)) :
    s' = s ∧ es = [] ∨
      ∃ identity res,
        eligibleIdentity (findByEmail rt tables (rt.normalizeEmail email) accountType) =
          some identity ∧
        s.onReset rt svc (.start challengeId identity.email identity.accountType.value
          identity.databaseId code readAt) = some (s', res) ∧
        es = res ++ [.lookedUp challengeId email accountType
          (findByEmail rt tables (rt.normalizeEmail email) accountType)] := by
  simp only [appStep] at hstep
  split at hstep
  · rw [Option.some.injEq, Prod.mk.injEq] at hstep
    exact Or.inl ⟨hstep.1.symm, hstep.2.symm⟩
  · rename_i identity heligible
    rw [Option.map_eq_some_iff] at hstep
    obtain ⟨⟨s₁, res⟩, hreset, heq⟩ := hstep
    rw [Prod.mk.injEq] at heq
    obtain ⟨rfl, rfl⟩ := heq
    exact Or.inr ⟨identity, res, heligible, hreset, rfl⟩

theorem appStep_confirm {l : ConfirmLabel}
    (hstep : appStep rt svc settings s (.confirm l) = some (s', es)) :
    l.isRouteStep = true ∧ s.onConfirm rt svc settings l = some (s', es) := by
  simp only [appStep] at hstep
  split_ifs at hstep with hroute
  exact ⟨hroute, hstep⟩

/-- A direct grant changes nothing here. -/
theorem appStep_passwordToken {email : String}
    (hstep : appStep rt svc settings s (.passwordToken email) = some (s', es)) :
    s' = s ∧ es = if settings.keycloakPasswordBrokerEnabled then [.directGrant email] else [] := by
  simp only [appStep] at hstep
  split_ifs at hstep ⊢ <;>
  · rw [Option.some.injEq, Prod.mk.injEq] at hstep
    exact ⟨hstep.1.symm, hstep.2.symm⟩

end OurosAuth
