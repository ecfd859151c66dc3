import OurosAuth.App.Routes

namespace OurosAuth

open KeyValue Traced

/-!
# What a grant and a password update rest on

Two correspondence assertions about the application: which events stand before a password grant,
and which before an update sent to Spring.  The steps that keep them are in
`App/Authorisation.lean`.

* `Origin` — where a stored record comes from: every record of either flow was written by a `start`
  of its flow, whatever key a request chose and whatever was saved back;
* `Origin.of_login_accept` — a login submission that is accepted matches a login challenge, so no
  reset challenge, nor an id the caller made up, can stand in for one;
* `LoginAuthorised`, `ResetAuthorised` — the two assertions;
* `AppInv` — the invariant of all routes, with its frame rules.
-/

variable {rt : Runtime} {svc : OtpService} {settings : Settings}

/-! ### Where records come from -/

/-- What a reset challenge for an identity is created with. -/
def StoredIdentity.resetStart (identity : StoredIdentity) (code : String) (expiresAt : ℤ) :
    ResetStart :=
  ⟨identity.email, identity.accountType.value, identity.databaseId, code, expiresAt⟩

/-- A login challenge was created for this identity, whose credentials had been verified. -/
structure LoginStarted (rt : Runtime) (h : List AppEvent) (challengeId : String)
    (identity : StoredIdentity) (code : String) (expiresAt : ℤ) : Prop where
  started : .login (.started challengeId identity.email code expiresAt) ∈ h
  verified : ∃ tables email password,
    .credentialsVerified challengeId email password identity ∈ h ∧
      verifyCredentials rt tables email password none = .ok identity

/-- A reset challenge was created for this identity, the only resettable one its lookup
    answered. -/
structure ResetStarted (rt : Runtime) (h : List AppEvent) (challengeId : String)
    (identity : StoredIdentity) (code : String) (expiresAt : ℤ) : Prop where
  started : .reset (.started challengeId (identity.resetStart code expiresAt)) ∈ h
  lookedUp : ∃ tables email accountType,
    .lookedUp challengeId email accountType
        (findByEmail rt tables (rt.normalizeEmail email) accountType) ∈ h ∧
      eligibleIdentity (findByEmail rt tables (rt.normalizeEmail email) accountType) = some identity

/-- Where the record under a key comes from. -/
inductive Origin (rt : Runtime) (svc : OtpService) (h : List AppEvent) (key : String)
    (r : Record) : Prop
  | login (challengeId : String) (identity : StoredIdentity) (code : String)
      (expiresAt attempts : ℤ) :
      LoginStarted rt h challengeId identity code expiresAt →
      isChallengeToken challengeId = true → key = storeKey svc .login challengeId →
      r = storedLogin rt svc challengeId identity.email code expiresAt attempts →
      Origin rt svc h key r
  | reset (challengeId : String) (identity : StoredIdentity) (code : String)
      (expiresAt attempts databaseId : ℤ) :
      ResetStarted rt h challengeId identity code expiresAt →
      isOtpCode code = true → Small expiresAt →
      (svc.usesRedis = false → databaseId = identity.databaseId) →
      key = storeKey svc .reset challengeId →
      r = storedReset rt svc challengeId (identity.resetStart code expiresAt) attempts databaseId →
      Origin rt svc h key r

variable {h h' : List AppEvent} {key challengeId email code : String} {r : Record}
  {identity : StoredIdentity} {expiresAt : ℤ}

theorem LoginStarted.mono (hs : LoginStarted rt h challengeId identity code expiresAt)
    (hsub : h ⊆ h') : LoginStarted rt h' challengeId identity code expiresAt := by
  obtain ⟨hstarted, tables, email, password, hmem, hok⟩ := hs
  exact ⟨hsub hstarted, tables, email, password, hsub hmem, hok⟩

theorem ResetStarted.mono (hs : ResetStarted rt h challengeId identity code expiresAt)
    (hsub : h ⊆ h') : ResetStarted rt h' challengeId identity code expiresAt := by
  obtain ⟨hstarted, tables, email, accountType, hmem, hok⟩ := hs
  exact ⟨hsub hstarted, tables, email, accountType, hsub hmem, hok⟩

theorem Origin.mono (ho : Origin rt svc h key r) (hsub : h ⊆ h') : Origin rt svc h' key r := by
  cases ho with
  | login challengeId identity code expiresAt attempts hs htoken hkey hr =>
    exact .login challengeId identity code expiresAt attempts (hs.mono hsub) htoken hkey hr
  | reset challengeId identity code expiresAt attempts databaseId hs hcode hsmall hid hkey hr =>
    exact .reset challengeId identity code expiresAt attempts databaseId (hs.mono hsub) hcode hsmall
      hid hkey hr

/-- Counting an attempt does not change where a record comes from. -/
theorem Origin.withAttempts (ho : Origin rt svc h key r) (n : ℤ) :
    Origin rt svc h key (r.withAttempts n) := by
  cases ho with
  | login challengeId identity code expiresAt attempts hs htoken hkey hr =>
    exact .login challengeId identity code expiresAt n hs htoken hkey (by rw [hr]; rfl)
  | reset challengeId identity code expiresAt attempts databaseId hs hcode hsmall hid hkey hr =>
    exact .reset challengeId identity code expiresAt n databaseId hs hcode hsmall hid hkey
      (by rw [hr]; rfl)

/-! ### Keys of the two flows -/

/-- The prefixes of the two flows differ. -/
theorem redisKey_login_ne_reset (challengeId challengeId' : String) :
    redisKey .login challengeId ≠ redisKey .reset challengeId' :=
  append_ne_append (by decide) (by decide) (by decide) _ _

/-- No `:` stands in a challenge id. -/
theorem colon_not_mem_challengeToken (h : isChallengeToken challengeId = true) :
    ':' ∉ challengeId.toList := by
  intro hmem
  simp only [isChallengeToken, Bool.and_eq_true] at h
  have hurlsafe := List.all_eq_true.mp h.2 ':' hmem
  exact absurd hurlsafe (by decide)

/-- The two flows share no key. -/
theorem storeKey_login_ne_reset (htoken : isChallengeToken challengeId = true)
    (challengeId' : String) :
    storeKey svc .login challengeId ≠ storeKey svc .reset challengeId' := by
  unfold storeKey
  split
  · exact redisKey_login_ne_reset challengeId challengeId'
  · intro hkey
    refine colon_not_mem_challengeToken htoken ?_
    have hlist : challengeId = "reset:" ++ challengeId' := hkey
    rw [hlist, String.toList_append]
    exact List.mem_append_left _ (by decide)

/-- **No stand-in for a login challenge.** A login submission that matches the record it loaded,
    under whatever id, matches a login challenge with that id. -/
theorem Origin.of_login_accept (hmac : HmacCollisionFree rt svc.hmacSecret)
    (ho : Origin rt svc h (storeKey svc .login challengeId) r) {c : CheckedRecord}
    (hc : r.checked? = some c) (hemail : c.email = rt.normalizeEmail email)
    (hdigest : c.codeDigest = codeDigest rt svc challengeId code) (hcode : code.length = 6) :
    ∃ identity, LoginStarted rt h challengeId identity code c.expiresAt ∧
      rt.normalizeEmail identity.email = rt.normalizeEmail email := by
  cases ho with
  | login challengeId' identity code' expiresAt attempts hs _ hkey hr =>
    obtain rfl := storeKey_inj hkey
    rw [hr, storedLogin_checked?, Option.some.injEq] at hc
    subst hc
    -- the same id in both payloads, so the codes are what is left
    have hpayload := hmac hdigest
    have hsame : code' = code := (String.append_right_inj _).mp hpayload
    subst hsame
    exact ⟨identity, hs, hemail⟩
  | reset challengeId' identity code' expiresAt attempts databaseId hs hcode' _ _ hkey hr =>
    rw [hr, storedReset_checked?, Option.some.injEq] at hc
    subst hc
    -- the digest names the id it was made for, and the key says it is another one
    have hlength : code'.length = code.length := (isOtpCode_length hcode').trans hcode.symm
    obtain ⟨rfl, -⟩ := codeDigest_inj hmac hlength hdigest
    unfold storeKey at hkey
    split at hkey
    · exact absurd hkey (redisKey_login_ne_reset _ _)
    · have hlen := congrArg String.length (show challengeId' = "reset:" ++ challengeId' from hkey)
      rw [String.length_append] at hlen
      have hprefix : "reset:".length = 6 := by decide
      omega

/-! ### The two assertions -/

/-- Before: credentials were verified for an identity with this address, a login challenge was
    created for it, and within its lifetime call `i` submitted its id and its code with this
    e-mail. -/
def LoginAuthorised (rt : Runtime) (h : List AppEvent) (i : ℕ)
    (challengeId email : String) : Prop :=
  ∃ mid past code n identity expiresAt,
    h = mid ++ .login (.submitted i challengeId email code n) :: past ∧
    LoginStarted rt past challengeId identity code expiresAt ∧
    rt.normalizeEmail identity.email = rt.normalizeEmail email ∧ n < expiresAt

/-- Before: a lookup answered exactly one resettable identity, this account, a reset challenge was
    created for it, and within its lifetime a call submitted its code with the address of that
    identity and was handed the challenge. -/
def ResetAuthorised (rt : Runtime) (h : List AppEvent) (accountType : String) (databaseId : ℤ) :
    Prop :=
  ∃ mid past challengeId email code clock r identity expiresAt,
    h = mid ++ .reset (.verify challengeId email code clock (.accepted r)) :: past ∧
    ResetStarted rt past challengeId identity code expiresAt ∧
    rt.normalizeEmail email = rt.normalizeEmail identity.email ∧ clock < expiresAt ∧
    accountType = identity.accountType.value ∧ databaseId = identity.databaseId

/-- What has to stand before an event.  Updates are spoken for by the in-memory store only. -/
def AppJustified (rt : Runtime) (svc : OtpService) (settings : Settings) (past : List AppEvent) :
    AppEvent → Prop
  | .login (.granted i challengeId email) => LoginAuthorised rt past i challengeId email
  | .directGrant _ => settings.keycloakPasswordBrokerEnabled = true
  | .confirm (.posted _ _ request) => svc.usesRedis = false →
      ResetAuthorised rt past request.accountType request.id
  | _ => True

theorem LoginAuthorised.append {i : ℕ} (ha : LoginAuthorised rt h i challengeId email)
    (es : List AppEvent) : LoginAuthorised rt (es ++ h) i challengeId email := by
  obtain ⟨mid, past, code, n, identity, expiresAt, rfl, hrest⟩ := ha
  exact ⟨es ++ mid, past, code, n, identity, expiresAt, by rw [List.append_assoc], hrest⟩

theorem ResetAuthorised.append {accountType : String} {databaseId : ℤ}
    (ha : ResetAuthorised rt h accountType databaseId) (es : List AppEvent) :
    ResetAuthorised rt (es ++ h) accountType databaseId := by
  obtain ⟨mid, past, challengeId, email, code, clock, r, identity, expiresAt, rfl, hrest⟩ := ha
  exact ⟨es ++ mid, past, challengeId, email, code, clock, r, identity, expiresAt,
    by rw [List.append_assoc], hrest⟩

/-! ### The invariant -/

/-- Call `i` submitted this to a record that came from a `start`. -/
def Submission (rt : Runtime) (svc : OtpService) (now : Instant) (h : List AppEvent) (i : ℕ)
    (challengeId email code : String) (r : Record) : Prop :=
  ∃ mid past n, h = mid ++ .login (.submitted i challengeId email code n) :: past ∧
    n ≤ now.whole ∧ code.length = 6 ∧ Origin rt svc past (storeKey svc .login challengeId) r

/-- What the state of a login call rests on. -/
def LoginCallKept (rt : Runtime) (svc : OtpService) (now : Instant) (h : List AppEvent) (i : ℕ) :
    LoginCall → Prop
  | .loaded challengeId email code r => Submission rt svc now h i challengeId email code r
  | .decided challengeId email code r d =>
      Submission rt svc now h i challengeId email code r ∧
      (∀ r' ttlSeconds, d = .resave r' ttlSeconds → ∃ n, r' = r.withAttempts n) ∧
      (d = .accept → LoginAuthorised rt h i challengeId email)
  | .verified challengeId email => LoginAuthorised rt h i challengeId email
  | _ => True

/-- The token a confirm call works with. -/
def ConfirmCall.token? : ConfirmCall → Option Claims
  | .checked claims _ _ => some claims
  | .reserved claims _ => some claims
  | .posting claims => some claims
  | .failed claims _ => some claims
  | _ => none

/-- What both assertions rest on. -/
structure AppInv (rt : Runtime) (svc : OtpService) (settings : Settings) (s : AppState)
    (h : List AppEvent) : Prop where
  stored : ∀ key r, s.otp.stores.recordAt svc key = some r → Origin rt svc h key r
  logins : ∀ i, LoginCallKept rt svc s.otp.now h i (s.logins i)
  minted : svc.usesRedis = false → ∀ claims ∈ s.minted,
    ResetAuthorised rt h claims.accountType claims.databaseId
  confirms : ∀ i claims, (s.confirms i).token? = some claims → claims ∈ s.minted
  justified : Justified (AppJustified rt svc settings) h

theorem appInv_init (now : Instant) : AppInv rt svc settings (AppState.init now) [] where
  stored := by
    intro key r hr
    simp [AppState.init, OtpState.init] at hr
  logins := fun _ => trivial
  minted := by simp [AppState.init]
  confirms := by simp [AppState.init, ConfirmCall.token?]
  justified := trivial

theorem Submission.later {now now' : Instant} {i : ℕ}
    (hs : Submission rt svc now h i challengeId email code r) (hle : now.seconds ≤ now'.seconds)
    (es : List AppEvent) : Submission rt svc now' (es ++ h) i challengeId email code r := by
  obtain ⟨mid, past, n, rfl, hn, hrest⟩ := hs
  exact ⟨es ++ mid, past, n, by rw [List.append_assoc], hn.trans (Instant.whole_mono hle), hrest⟩

/-- Time and events keep what a call rests on. -/
theorem LoginCallKept.later {now now' : Instant} {i : ℕ} {call : LoginCall}
    (hk : LoginCallKept rt svc now h i call) (hle : now.seconds ≤ now'.seconds)
    (es : List AppEvent) : LoginCallKept rt svc now' (es ++ h) i call := by
  cases call with
  | loaded challengeId email code r => exact Submission.later hk hle es
  | decided challengeId email code r d =>
    obtain ⟨hsub, hresave, haccept⟩ := hk
    exact ⟨hsub.later hle es, hresave, fun hd => (haccept hd).append es⟩
  | verified challengeId email => exact LoginAuthorised.append hk es
  | idle => trivial
  | granted => trivial
  | raised => trivial

variable {s s' : AppState} {es : List AppEvent}

/-- **Frame rule.** A step keeps the invariant when it accounts for the records it stores, the
    calls it moves, the tokens it mints and the events it emits. -/
theorem AppInv.step (hinv : AppInv rt svc settings s h)
    (hstored : ∀ key r, s'.otp.stores.recordAt svc key = some r →
      s.otp.stores.recordAt svc key = some r ∨ Origin rt svc (es ++ h) key r)
    (hnow : s.otp.now.seconds ≤ s'.otp.now.seconds)
    (hlogins : ∀ i, s'.logins i = s.logins i ∨
      LoginCallKept rt svc s'.otp.now (es ++ h) i (s'.logins i))
    (hminted : svc.usesRedis = false → ∀ claims ∈ s'.minted, claims ∈ s.minted ∨
      ResetAuthorised rt (es ++ h) claims.accountType claims.databaseId)
    (hconfirms : ∀ i claims, (s'.confirms i).token? = some claims → claims ∈ s'.minted)
    (hjustified : ∀ after e before, es = after ++ e :: before →
      AppJustified rt svc settings (before ++ h) e) : AppInv rt svc settings s' (es ++ h) where
  stored := fun key r hr => (hstored key r hr).elim
    (fun hold => (hinv.stored key r hold).mono (List.subset_append_right es h)) id
  logins := fun i => by
    rcases hlogins i with hsame | hnew
    · rw [hsame]
      exact (hinv.logins i).later hnow es
    · exact hnew
  minted := fun hmem claims hclaims => (hminted hmem claims hclaims).elim
    (fun hold => (hinv.minted hmem claims hold).append es) id
  confirms := hconfirms
  justified := hinv.justified.append hjustified

/-- A step of the shared service alone: nothing is minted and no confirm call moves. -/
theorem AppInv.serviceStep (hinv : AppInv rt svc settings s h)
    (hstored : ∀ key r, s'.otp.stores.recordAt svc key = some r →
      s.otp.stores.recordAt svc key = some r ∨ Origin rt svc (es ++ h) key r)
    (hnow : s.otp.now.seconds ≤ s'.otp.now.seconds)
    (hlogins : ∀ i, s'.logins i = s.logins i ∨
      LoginCallKept rt svc s'.otp.now (es ++ h) i (s'.logins i))
    (hminted : s'.minted = s.minted) (hconfirms : s'.confirms = s.confirms)
    (hjustified : ∀ after e before, es = after ++ e :: before →
      AppJustified rt svc settings (before ++ h) e) : AppInv rt svc settings s' (es ++ h) := by
  refine hinv.step hstored hnow hlogins (fun _ claims hclaims => Or.inl ?_) ?_ hjustified
  · rwa [hminted] at hclaims
  · rw [hminted, hconfirms]
    exact hinv.confirms

end OurosAuth
