import OurosAuth.Core.Errors
import OurosAuth.EmailOtp.Store
import OurosAuth.Identity.Repository
import OurosAuth.Lib.Traced

namespace OurosAuth

open KeyValue

/-!
# Confirming a password reset

`PasswordResetService.confirm_reset`: check the reset token and the new password, reserve the
token, send the update to the Spring API, and release the reservation if that fails.  Other
calls run between these steps, and time passes.

* `confirmCheck` — everything before the reservation;
* `ReservationStore` — the marks in Redis, or the process-local map;
* `confirmStep` — one step of the system of all calls, with one inversion lemma per label.
-/

variable {rt : Runtime}

/-! ### Tokens -/

/-- The claims of a reset token. -/
structure Claims where
  sub : String
  accountType : String
  databaseId : ℤ
  purpose : String
  jti : String
  iat : ℤ
  exp : ℤ
  deriving DecidableEq

/-- `_mint_reset_token`; `now` is `int(time.time())` and `jti` a fresh `uuid4`. -/
def mintResetToken (ttlSeconds : ℕ) (now : ℤ) (jti email accountType : String) (databaseId : ℤ) :
    Claims where
  sub := email
  accountType := accountType
  databaseId := databaseId
  purpose := "password_reset"
  jti := jti
  iat := now
  exp := now + ttlSeconds

/-- What the decoder makes of a token, its times apart. -/
inductive ResetToken
  /-- a `PyJWTError`: no token at all, or none signed with the key of the service -/
  | refused
  /-- another exception -/
  | raises (error : PyError)
  | signed (claims : Claims)
  deriving DecidableEq

/-- The claims of a token that is signed. -/
def ResetToken.claims? : ResetToken → Option Claims
  | .signed claims => some claims
  | _ => none

/-- `raise PasswordResetTokenInvalidError(message)` -/
def tokenInvalid {α : Type} (message : String) : Except CallRaised α :=
  .error (.api (.passwordResetTokenInvalid message))

/-- `_verify_reset_token`.  PyJWT refuses a signed token whose `exp` has come or whose `iat` has
    not. -/
def verifyResetToken (now : Instant) (token : ResetToken) : Except CallRaised Claims :=
  match token with
  | .refused => tokenInvalid "Token de recuperação inválido ou expirado."
  | .raises error =>
    -- `except (jwt.PyJWTError, ValueError)`
    if error.isValueError = true then tokenInvalid "Token de recuperação inválido ou expirado."
    else .error (.python error)
  | .signed claims =>
    -- `ExpiredSignatureError` and `ImmatureSignatureError`
    if (claims.exp : ℚ) ≤ now.seconds ∨ now.seconds < claims.iat then
      tokenInvalid "Token de recuperação inválido ou expirado."
    else if claims.purpose ≠ "password_reset" then
      tokenInvalid "Token de recuperação com finalidade inválida."
    else .ok claims

/-- Does `CREDENTIAL_COMPLEXITY_PATTERN` match the whole password? -/
def credentialComplexity (rt : Runtime) (password : String) : Bool :=
  8 ≤ password.length && password.length ≤ 20 && !password.toList.contains '\n' &&
    password.toList.any (fun c => 'a' ≤ c && c ≤ 'z') &&
    password.toList.any (fun c => 'A' ≤ c && c ≤ 'Z') &&
    password.toList.any rt.isDecimalDigit &&
    password.toList.any fun c =>
      !('a' ≤ c && c ≤ 'z' || 'A' ≤ c && c ≤ 'Z' || '0' ≤ c && c ≤ '9')

/-- What is said of a password that does not match. -/
def complexityDetail : String :=
  "A senha deve ter entre 8 e 20 caracteres, incluindo pelo menos " ++
    "uma letra maiúscula, uma minúscula, um número e um caractere especial"

/-- `confirm_reset` up to the reservation. -/
def confirmCheck (rt : Runtime) (now : Instant) (token : ResetToken) (newPassword : String) :
    Except CallRaised Claims :=
  match verifyResetToken now token with
  | .error e => .error e
  | .ok claims =>
    if credentialComplexity rt newPassword = false then tokenInvalid complexityDetail
    else
      -- `AccountType(...)` raises on another text, and is caught under the same message
      match AccountType.ofValue? claims.accountType with
      | none => tokenInvalid "Tipo de conta inválido para redefinição."
      | some accountType =>
        if accountType.resettable = true then .ok claims
        else tokenInvalid "Tipo de conta inválido para redefinição."

/-- Only a signed, live reset token of a resettable account type passes. -/
theorem confirmCheck_ok {now : Instant} {token : ResetToken} {newPassword : String}
    {claims : Claims} (h : confirmCheck rt now token newPassword = .ok claims) :
    token = .signed claims ∧ now.seconds < claims.exp ∧ claims.purpose = "password_reset" ∧
      ∃ t, AccountType.ofValue? claims.accountType = some t ∧ t.resettable = true := by
  unfold confirmCheck at h
  split at h
  · exact absurd h (by simp)
  · rename_i claims' hverify
    have hclaims : claims' = claims ∧
        ∃ t, AccountType.ofValue? claims.accountType = some t ∧ t.resettable = true := by
      split at h
      · exact absurd h (by simp [tokenInvalid])
      · split at h
        · exact absurd h (by simp [tokenInvalid])
        · rename_i t ht
          split at h
          · rename_i hreset
            rw [Except.ok.injEq] at h
            exact ⟨h, t, h ▸ ht, hreset⟩
          · exact absurd h (by simp [tokenInvalid])
    obtain ⟨rfl, htype⟩ := hclaims
    unfold verifyResetToken tokenInvalid at hverify
    split at hverify
    · exact absurd hverify (by simp)
    · split_ifs at hverify
    · split_ifs at hverify with htime hpurpose
      rw [Except.ok.injEq] at hverify
      rw [not_or, not_le] at htime
      subst hverify
      exact ⟨rfl, htime.1, not_not.mp hpurpose, htype⟩

/-! ### Reservations -/

/-- Where reservations are kept: Redis, or the process-local map from `jti` to the time its
    reservation ends. -/
structure ReservationStore where
  redis : Redis
  blacklist : Dict String ℚ

/-- `_BLACKLIST_PREFIX + jti` -/
def blacklistKey (jti : String) : String := "ouros:auth:password-reset:blacklist:" ++ jti

theorem blacklistKey_inj {jti jti' : String} (h : blacklistKey jti = blacklistKey jti') :
    jti = jti' := (String.append_right_inj _).mp h

/-- `_cleanup_blacklist_memory` -/
def cleanupBlacklist (now : Instant) (blacklist : Dict String ℚ) : Dict String ℚ :=
  blacklist.filter fun _ endsAt => decide (now.seconds < endsAt)

/-- `_reserve_token` at time `now`; without Redis the clock was read at `clockAt`, before the
    lock was taken.  Answers whether the token is now reserved for the caller. -/
def ReservationStore.reserve (st : ReservationStore) (usesRedis : Bool) (now clockAt : Instant)
    (jti : String) (ttlSeconds : ℤ) : Bool × ReservationStore :=
  if usesRedis then
    -- `SET … NX EX`: one command, and no other call between the look and the write
    let r := st.redis.setNxEx now.seconds (blacklistKey jti) .mark (max ttlSeconds 1 : ℤ)
    (r.1, { st with redis := r.2 })
  else
    let blacklist := cleanupBlacklist clockAt st.blacklist
    match blacklist.get? jti with
    | some _ => (false, { st with blacklist := blacklist })
    | none => (true, { st with blacklist := blacklist.set jti (clockAt.seconds + ttlSeconds) })

/-- `_release_token` -/
def ReservationStore.release (st : ReservationStore) (usesRedis : Bool) (jti : String) :
    ReservationStore :=
  if usesRedis then { st with redis := st.redis.del (blacklistKey jti) }
  else { st with blacklist := st.blacklist.erase jti }

/-! ### The Spring call -/

/-- The body of the `POST` to `/internal/v1/password-reset`. -/
structure SpringRequest where
  accountType : String
  id : ℤ
  newPassword : String
  deriving DecidableEq

/-- How the `POST` can end, the closing of its client included. -/
inductive SpringOutcome
  /-- the answer is read, and its status decides -/
  | status (code : ℕ)
  /-- Spring answered 200 and the call raises all the same: the answer is lost, its body breaks off
      or cannot be decoded, or the client fails to close; `caught` for an exception of the next
      constructor -/
  | okThenRaised (caught : Bool)
  /-- `httpx.TimeoutException` or `httpx.NetworkError` -/
  | networkError
  /-- any other exception -/
  | otherException
  deriving DecidableEq

/-- Did Spring answer 200? -/
def SpringOutcome.acknowledges : SpringOutcome → Bool
  | .status code => code = 200
  | .okThenRaised _ => true
  | _ => false

/-- Does the call raise after Spring has answered 200? -/
def SpringOutcome.raisesAfterOk : SpringOutcome → Bool
  | .okThenRaised _ => true
  | _ => false

/-- `_call_spring_internal_reset` on the outcome: `none` when it returns, otherwise the error it
    raises (`none` inside for an exception without a handler). -/
def SpringOutcome.failure : SpringOutcome → Option (Option ApiError)
  | .status 200 => none
  | .status 404 =>
      some (some (.passwordResetTokenInvalid "Usuário não encontrado para redefinição de senha."))
  | .status 400 =>
      some (some (.passwordResetTokenInvalid "Dados inválidos para redefinição de senha."))
  | .status 401 =>
      some (some (.passwordResetUnavailable "Erro de autenticação interna entre serviços."))
  | .status _ => some (some (.passwordResetUnavailable
      "Serviço de redefinição de senha temporariamente indisponível."))
  | .okThenRaised true => some (some (.passwordResetUnavailable
      "Serviço de redefinição de senha temporariamente indisponível."))
  | .okThenRaised false => some none
  | .networkError => some (some (.passwordResetUnavailable
      "Serviço de redefinição de senha temporariamente indisponível."))
  | .otherException => some none

/-- The call returns when the answer is a 200 and nothing else is raised. -/
theorem SpringOutcome.failure_eq_none {outcome : SpringOutcome} :
    outcome.failure = none ↔ outcome = .status 200 := by
  unfold SpringOutcome.failure
  constructor
  · intro h
    split at h <;> first | rfl | exact absurd h (by simp)
  · rintro rfl
    rfl

/-- Returning and being acknowledged are the same, but for an exception after the 200. -/
theorem SpringOutcome.failure_iff_acknowledges (outcome : SpringOutcome) :
    (outcome.failure = none ↔ outcome.acknowledges = true) ↔ outcome.raisesAfterOk = false := by
  rw [SpringOutcome.failure_eq_none]
  cases outcome <;> simp [SpringOutcome.acknowledges, SpringOutcome.raisesAfterOk]

/-- Where one call of `confirm_reset` stands. -/
inductive ConfirmCall
  | idle
  /-- token and password were accepted at `checkedAt` -/
  | checked (claims : Claims) (newPassword : String) (checkedAt : Instant)
  /-- the token is reserved for this call -/
  | reserved (claims : Claims) (newPassword : String)
  /-- the `POST` is in flight -/
  | posting (claims : Claims)
  /-- the `POST` failed with this error, the release is still to come -/
  | failed (claims : Claims) (error : Option ApiError)
  /-- the call returned -/
  | confirmed
  | raised (error : Option ApiError)

/-- The token whose reservation the call holds. -/
def ConfirmCall.holds : ConfirmCall → Option Claims
  | .reserved claims _ => some claims
  | .posting claims => some claims
  | .failed claims _ => some claims
  | _ => none

/-- The steps of the system. -/
inductive ConfirmLabel
  | tick (t : Instant)
  /-- `verify_code` mints a token -/
  | mint (jti email accountType : String) (databaseId : ℤ)
  /-- call `i` checks its token and password -/
  | submit (i : ℕ) (token : ResetToken) (newPassword : String)
  /-- call `i` computed the remaining lifetime at `measuredAt` and reserves -/
  | reserve (i : ℕ) (measuredAt clockAt : Instant)
  | post (i : ℕ)
  | respond (i : ℕ) (outcome : SpringOutcome)
  | release (i : ℕ)

/-- What the steps leave in the history. -/
inductive ConfirmEvent
  | minted (claims : Claims)
  | posted (i : ℕ) (claims : Claims) (request : SpringRequest)
  /-- Spring answered 200 -/
  | acknowledged (i : ℕ) (claims : Claims)
  /-- the call keeps its reservation, and returns -/
  | returned (i : ℕ) (claims : Claims)
  /-- the call is going to release its reservation -/
  | failed (i : ℕ) (claims : Claims)
  deriving DecidableEq

/-- Clock, reservations, signed reset tokens and calls. -/
structure ConfirmState where
  now : Instant
  store : ReservationStore
  minted : List Claims
  calls : ℕ → ConfirmCall

def ConfirmState.init (now : Instant) : ConfirmState :=
  ⟨now, ⟨Dict.empty, Dict.empty⟩, [], fun _ => .idle⟩

/-- Move call `i` to `call`. -/
def ConfirmState.setCall (s : ConfirmState) (i : ℕ) (call : ConfirmCall) : ConfirmState :=
  { s with calls := Function.update s.calls i call }

@[simp] theorem ConfirmState.setCall_now (s : ConfirmState) (i : ℕ) (call : ConfirmCall) :
    (s.setCall i call).now = s.now := rfl

@[simp] theorem ConfirmState.setCall_store (s : ConfirmState) (i : ℕ) (call : ConfirmCall) :
    (s.setCall i call).store = s.store := rfl

@[simp] theorem ConfirmState.setCall_minted (s : ConfirmState) (i : ℕ) (call : ConfirmCall) :
    (s.setCall i call).minted = s.minted := rfl

@[simp] theorem ConfirmState.setCall_self (s : ConfirmState) (i : ℕ) (call : ConfirmCall) :
    (s.setCall i call).calls i = call := Function.update_self ..

theorem ConfirmState.setCall_ne (s : ConfirmState) {i j : ℕ} (call : ConfirmCall) (h : j ≠ i) :
    (s.setCall i call).calls j = s.calls j := Function.update_of_ne h ..

/-! ### The step function -/

/-- One step of the confirm system.  Only this service signs tokens of purpose
    `password_reset`: whatever else verifies has another purpose. -/
def confirmStep (rt : Runtime) (usesRedis : Bool) (tokenTtlSeconds : ℕ) (s : ConfirmState) :
    ConfirmLabel → Option (ConfirmState × List ConfirmEvent)
  | .tick t => if s.now.seconds ≤ t.seconds then some ({ s with now := t }, []) else none
  | .mint jti email accountType databaseId =>
      -- a `uuid4` that no earlier token has
      if s.minted.all (fun claims => claims.jti ≠ jti) = true then
        let claims := mintResetToken tokenTtlSeconds s.now.whole jti email accountType databaseId
        some ({ s with minted := claims :: s.minted }, [.minted claims])
      else none
  | .submit i token newPassword =>
      match s.calls i with
      | .idle =>
        if ∀ claims ∈ token.claims?, claims ∈ s.minted ∨ claims.purpose ≠ "password_reset" then
          match confirmCheck rt s.now token newPassword with
          | .error e => some (s.setCall i (.raised e.error?), [])
          | .ok claims => some (s.setCall i (.checked claims newPassword s.now), [])
        else none
      | _ => none
  | .reserve i measuredAt clockAt =>
      match s.calls i with
      | .checked claims newPassword checkedAt =>
        if checkedAt.seconds ≤ measuredAt.seconds ∧ measuredAt.seconds ≤ clockAt.seconds ∧
            clockAt.seconds ≤ s.now.seconds then
          -- measured before the call to the store, whose own reading is `clockAt`
          let remainingTtl := max (claims.exp - measuredAt.whole) 1
          let r := s.store.reserve usesRedis s.now clockAt claims.jti remainingTtl
          let call := if r.1 then .reserved claims newPassword
            else .raised (some (.passwordResetTokenInvalid "Token já utilizado ou inválido."))
          some ({ s with store := r.2 }.setCall i call, [])
        else none
      | _ => none
  | .post i =>
      match s.calls i with
      | .reserved claims newPassword =>
          some (s.setCall i (.posting claims),
            [.posted i claims ⟨claims.accountType, claims.databaseId, newPassword⟩])
      | _ => none
  | .respond i outcome =>
      match s.calls i with
      | .posting claims =>
        let answered := if outcome.acknowledges then [.acknowledged i claims] else []
        match outcome.failure with
        -- the reservation stays behind as the mark of a used token
        | none => some (s.setCall i .confirmed, .returned i claims :: answered)
        -- `except Exception`: whatever Spring answered
        | some error => some (s.setCall i (.failed claims error), .failed i claims :: answered)
      | _ => none
  | .release i =>
      match s.calls i with
      | .failed claims error =>
          some ({ s with store := s.store.release usesRedis claims.jti }.setCall i (.raised error),
            [])
      | _ => none

/-- The confirm system. -/
def confirmSystem (rt : Runtime) (usesRedis : Bool) (tokenTtlSeconds : ℕ) :
    Traced.System ConfirmState ConfirmLabel ConfirmEvent :=
  ⟨confirmStep rt usesRedis tokenTtlSeconds⟩

/-! ### What one step can do -/

variable {usesRedis : Bool} {tokenTtlSeconds : ℕ} {s s' : ConfirmState} {es : List ConfirmEvent}

theorem confirmStep_tick {t : Instant}
    (h : confirmStep rt usesRedis tokenTtlSeconds s (.tick t) = some (s', es)) :
    s.now.seconds ≤ t.seconds ∧ s' = { s with now := t } ∧ es = [] := by
  simp only [confirmStep] at h
  split_ifs at h with hle
  rw [Option.some.injEq, Prod.mk.injEq] at h
  exact ⟨hle, h.1.symm, h.2.symm⟩

theorem confirmStep_mint {jti email accountType : String} {databaseId : ℤ}
    (h : confirmStep rt usesRedis tokenTtlSeconds s (.mint jti email accountType databaseId) =
      some (s', es)) :
    ∃ claims, claims = mintResetToken tokenTtlSeconds s.now.whole jti email accountType databaseId ∧
      (∀ old ∈ s.minted, old.jti ≠ claims.jti) ∧
      s' = { s with minted := claims :: s.minted } ∧ es = [.minted claims] := by
  simp only [confirmStep] at h
  split_ifs at h with hfresh
  rw [Option.some.injEq, Prod.mk.injEq] at h
  refine ⟨_, rfl, fun old hold => ?_, h.1.symm, h.2.symm⟩
  have := List.all_eq_true.mp hfresh old hold
  simpa [mintResetToken] using this

/-- A submission ends the call, or leaves it with a token this service signed. -/
theorem confirmStep_submit {i : ℕ} {token : ResetToken} {newPassword : String}
    (h : confirmStep rt usesRedis tokenTtlSeconds s (.submit i token newPassword) =
      some (s', es)) :
    s.calls i = .idle ∧ es = [] ∧
      ((∃ e, s' = s.setCall i (.raised e)) ∨
        ∃ claims, confirmCheck rt s.now token newPassword = .ok claims ∧ claims ∈ s.minted ∧
          s' = s.setCall i (.checked claims newPassword s.now)) := by
  simp only [confirmStep] at h
  split at h
  · rename_i hidle
    split_ifs at h with hsigned
    split at h
    · rename_i e _
      rw [Option.some.injEq, Prod.mk.injEq] at h
      exact ⟨hidle, h.2.symm, Or.inl ⟨e.error?, h.1.symm⟩⟩
    · rename_i claims hcheck
      rw [Option.some.injEq, Prod.mk.injEq] at h
      obtain ⟨htoken, -, hpurpose, -⟩ := confirmCheck_ok hcheck
      have hsome : claims ∈ token.claims? := by rw [htoken]; rfl
      have hminted := (hsigned claims hsome).resolve_right (not_not.mpr hpurpose)
      exact ⟨hidle, h.2.symm, Or.inr ⟨claims, hcheck, hminted, h.1.symm⟩⟩
  · exact absurd h (by simp)

/-- A reservation attempt leaves the call holding the token, or ends it. -/
theorem confirmStep_reserve {i : ℕ} {measuredAt clockAt : Instant}
    (h : confirmStep rt usesRedis tokenTtlSeconds s (.reserve i measuredAt clockAt) =
      some (s', es)) :
    ∃ claims newPassword checkedAt, s.calls i = .checked claims newPassword checkedAt ∧
      measuredAt.seconds ≤ clockAt.seconds ∧ clockAt.seconds ≤ s.now.seconds ∧ es = [] ∧
      ∃ ok store, s.store.reserve usesRedis s.now clockAt claims.jti
          (max (claims.exp - measuredAt.whole) 1) = (ok, store) ∧
        s' = { s with store := store }.setCall i
          (if ok then .reserved claims newPassword
            else .raised (some (.passwordResetTokenInvalid "Token já utilizado ou inválido."))) := by
  simp only [confirmStep] at h
  split at h
  · rename_i claims newPassword checkedAt hcall
    generalize hres : s.store.reserve usesRedis s.now clockAt claims.jti
      (max (claims.exp - measuredAt.whole) 1) = res at h
    split at h
    · rename_i htimes
      rw [Option.some.injEq, Prod.mk.injEq] at h
      exact ⟨claims, newPassword, checkedAt, hcall, htimes.2.1, htimes.2.2, h.2.symm, res.1, res.2,
        hres, h.1.symm⟩
    · exact absurd h (by simp)
  · exact absurd h (by simp)

theorem confirmStep_post {i : ℕ}
    (h : confirmStep rt usesRedis tokenTtlSeconds s (.post i) = some (s', es)) :
    ∃ claims newPassword, s.calls i = .reserved claims newPassword ∧
      s' = s.setCall i (.posting claims) ∧
      es = [.posted i claims ⟨claims.accountType, claims.databaseId, newPassword⟩] := by
  simp only [confirmStep] at h
  split at h
  · rename_i claims newPassword hcall
    rw [Option.some.injEq, Prod.mk.injEq] at h
    exact ⟨claims, newPassword, hcall, h.1.symm, h.2.symm⟩
  · exact absurd h (by simp)

/-- An answer ends the call, or leaves it with a reservation to release; a 200 may come first in
    both cases. -/
theorem confirmStep_respond {i : ℕ} {outcome : SpringOutcome}
    (h : confirmStep rt usesRedis tokenTtlSeconds s (.respond i outcome) = some (s', es)) :
    ∃ claims answered, s.calls i = .posting claims ∧
      answered = (if outcome.acknowledges then [.acknowledged i claims] else []) ∧
      ((outcome = .status 200 ∧ s' = s.setCall i .confirmed ∧ es = .returned i claims :: answered) ∨
        ∃ error, outcome.failure = some error ∧ s' = s.setCall i (.failed claims error) ∧
          es = .failed i claims :: answered) := by
  simp only [confirmStep] at h
  split at h
  · rename_i claims hcall
    refine ⟨claims, _, hcall, rfl, ?_⟩
    split at h
    · rename_i hreturns
      rw [Option.some.injEq, Prod.mk.injEq] at h
      exact Or.inl ⟨SpringOutcome.failure_eq_none.mp hreturns, h.1.symm, h.2.symm⟩
    · rename_i error herror
      rw [Option.some.injEq, Prod.mk.injEq] at h
      exact Or.inr ⟨error, herror, h.1.symm, h.2.symm⟩
  · exact absurd h (by simp)

theorem confirmStep_release {i : ℕ}
    (h : confirmStep rt usesRedis tokenTtlSeconds s (.release i) = some (s', es)) :
    ∃ claims error, s.calls i = .failed claims error ∧
      s' = { s with store := s.store.release usesRedis claims.jti }.setCall i (.raised error) ∧
      es = [] := by
  simp only [confirmStep] at h
  split at h
  · rename_i claims error hcall
    rw [Option.some.injEq, Prod.mk.injEq] at h
    exact ⟨claims, error, hcall, h.1.symm, h.2.symm⟩
  · exact absurd h (by simp)

/-- A reservation touches no key of Redis but its mark. -/
theorem redis_reserve_ne {st store : ReservationStore} {ok : Bool} {now clockAt : Instant}
    {jti key : String} {ttlSeconds : ℤ} (hne : key ≠ blacklistKey jti)
    (h : st.reserve usesRedis now clockAt jti ttlSeconds = (ok, store)) :
    store.redis.get? key = st.redis.get? key := by
  unfold ReservationStore.reserve at h
  split at h
  · obtain ⟨-, rfl⟩ := Prod.mk.inj h
    unfold ExpiringStore.setNxEx
    split
    · rfl
    · exact Dict.get?_set_ne _ _ hne
  · dsimp only at h
    split at h <;> obtain ⟨-, rfl⟩ := Prod.mk.inj h <;> rfl

theorem redis_release_ne {st : ReservationStore} {jti key : String} (hne : key ≠ blacklistKey jti) :
    (st.release usesRedis jti).redis.get? key = st.redis.get? key := by
  unfold ReservationStore.release
  split
  · exact Dict.get?_erase_ne _ hne
  · rfl

/-- A step touches no key of Redis but the marks. -/
theorem confirmStep_redis {l : ConfirmLabel} {key : String} (hne : ∀ jti, key ≠ blacklistKey jti)
    (h : confirmStep rt usesRedis tokenTtlSeconds s l = some (s', es)) :
    s'.store.redis.get? key = s.store.redis.get? key := by
  cases l with
  | tick t =>
    obtain ⟨-, rfl, -⟩ := confirmStep_tick h
    rfl
  | mint jti email accountType databaseId =>
    obtain ⟨claims, -, -, rfl, -⟩ := confirmStep_mint h
    rfl
  | submit i token newPassword =>
    obtain ⟨-, -, ⟨e, rfl⟩ | ⟨claims, -, -, rfl⟩⟩ := confirmStep_submit h <;> rfl
  | reserve i measuredAt clockAt =>
    obtain ⟨claims, newPassword, checkedAt, -, -, -, -, ok, store, hreserve, rfl⟩ :=
      confirmStep_reserve h
    exact redis_reserve_ne (hne claims.jti) hreserve
  | post i =>
    obtain ⟨claims, newPassword, -, rfl, -⟩ := confirmStep_post h
    rfl
  | respond i outcome =>
    obtain ⟨claims, answered, -, -, ⟨-, rfl, -⟩ | ⟨error, -, rfl, -⟩⟩ := confirmStep_respond h <;>
      rfl
  | release i =>
    obtain ⟨claims, error, -, rfl, -⟩ := confirmStep_release h
    exact redis_release_ne (hne claims.jti)

end OurosAuth
