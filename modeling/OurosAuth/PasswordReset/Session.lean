import OurosAuth.Core.Requests
import OurosAuth.EmailOtp.Reset
import OurosAuth.PasswordReset.Start
import OurosAuth.RateLimit.Memory

namespace OurosAuth

open KeyValue

/-!
# What a client sees of a password reset

A client sends requests to `/v1/auth/password/reset/start` and `/v1/auth/password/reset/verify`,
one after another, and reads the replies.

* `ResetRequest`, `ResetReply` — the requests, with the clock readings taken while one is served,
  and the replies;
* `World` — what the client cannot see: the identity tables, the random draws, how creating a
  challenge went and when an e-mail delivery failed;
* `startReset`, `verifyCode` — the two service calls;
* `resetSession` — all of a client's requests, served in order.
-/

/-! ### Requests and replies -/

/-- The challenge a verify request names. -/
inductive Target
  /-- the one handed out in the reply to request `k` -/
  | answered (k : ℕ)
  /-- an id that comes from elsewhere -/
  | literal (challengeId : String)
  deriving DecidableEq

/-- A request to one of the two routes. -/
inductive ResetRequest
  /-- the expiry is computed at `readAt`, the record saved at `savedAt` -/
  | start (ip email : String) (accountType : Option AccountType) (readAt savedAt : Instant)
  /-- the clock is read at `readAt` for the script, which runs at `now` -/
  | verify (target : Target) (email code : String) (readAt now : Instant)

/-- The reply to a request. -/
inductive ResetReply
  /-- 422: a field was refused -/
  | unprocessable
  /-- 500: an exception without a handler -/
  | internalError
  | error (e : ApiError)
  | started (challengeId maskedEmail : String) (expiresIn : ℕ)
  /-- a reset token with these claims -/
  | verified (email accountType : String) (databaseId : ℤ)
  deriving DecidableEq

/-- The reply up to the value of a challenge id. -/
def ResetReply.erased : ResetReply → ResetReply
  | .started _ maskedEmail expiresIn => .started "" maskedEmail expiresIn
  | reply => reply

/-- The challenge id in a reply. -/
def ResetReply.challengeId? : ResetReply → Option String
  | .started challengeId _ _ => some challengeId
  | _ => none

/-- The id a request names; an id that was never handed out cannot be named. -/
def Target.resolve (replies : List ResetReply) : Target → String
  | .answered k => (replies[k]?.bind ResetReply.challengeId?).getD ""
  | .literal challengeId => challengeId

/-! ### What the client cannot see -/

/-- How `start_password_reset` ends when it is called. -/
inductive Creation
  | saved
  /-- `EmailOtpUnavailable`; a write whose answer was lost may have gone through -/
  | unavailable (written : Bool)
  deriving DecidableEq

/-- Everything that may differ between two sessions with the same requests. -/
structure World where
  tables : IdentityTables
  /-- the id `start_reset` draws when it serves request `k` -/
  responseId : ℕ → String
  /-- the id `start_password_reset` draws then -/
  challengeId : ℕ → String
  /-- the code it draws and mails -/
  code : ℕ → String
  creation : ℕ → Creation
  /-- the requests whose delivery fails just before request `n` is served -/
  failures : ℕ → List ℕ

/-- A limiter: it sees the address and the e-mail of a request, and the clock. -/
structure Limiter (σ : Type) where
  init : σ
  /-- `check_password_reset_attempt`: `none`, or the seconds of `RateLimitExceeded` -/
  check : σ → String → String → Instant → Option ℕ × σ

/-- The process-local limiter. -/
def memoryLimiter (rt : Runtime) : Limiter MemoryLimiter where
  init := ⟨Dict.empty, 0⟩
  check := fun limiter ip email t =>
    let (increments, limiter) := limiter.checkRules rt ip email
      (passwordResetRules.map fun rule => (rule, t.seconds))
    let retryAfter := longestRetryAfter (increments.map fun i => (i.rule, i.counted))
    (if retryAfter = 0 then none else some retryAfter, limiter)

/-! ### The service calls -/

/-- The account a start request is for, if `start_reset` finds exactly one. -/
def World.accountFor (w : World) (rt : Runtime) (email : String)
    (accountType : Option AccountType) : Option StoredIdentity :=
  eligibleIdentity (findByEmail rt w.tables (rt.normalizeEmail email) accountType)

/-- The record `start_password_reset` stores when it serves request `n`. -/
def World.recordFor (w : World) (rt : Runtime) (svc : OtpService) (n : ℕ)
    (identity : StoredIdentity) (readAt : Instant) : Record :=
  resetRecord rt svc (w.challengeId n) identity.email identity.accountType.value
    identity.databaseId (w.code n) readAt.whole

/-- `EmailOtpService.start_password_reset`, serving request `n`: the id of the challenge, or `none`
    for `EmailOtpUnavailable`, and the stores. -/
def World.startPasswordReset (w : World) (rt : Runtime) (settings : Settings) (n : ℕ)
    (stores : OtpStores) (identity : StoredIdentity) (readAt savedAt : Instant) :
    Option String × OtpStores :=
  match settings.requireReady with
  | .error _ => (none, stores)
  | .ok svc =>
    let saved := stores.save svc savedAt .reset (w.challengeId n)
      (w.recordFor rt svc n identity readAt) svc.ttlSeconds
    match w.creation n with
    | .saved => (some (w.challengeId n), saved)
    -- the caller cannot tell whether Redis took the write
    | .unavailable written => (none, if written then saved else stores)

/-- `PasswordResetService.start_reset`, serving request `n`. -/
def World.startReset (w : World) (rt : Runtime) (settings : Settings) (n : ℕ) (stores : OtpStores)
    (email : String) (accountType : Option AccountType) (readAt savedAt : Instant) :
    ResetReply × OtpStores :=
  let maskedEmail := maskEmail (rt.normalizeEmail email)
  -- the response object is built first, and its address may be refused
  if hasLength 3 255 maskedEmail = true then
    match w.accountFor rt email accountType with
    | none => (.started (w.responseId n) maskedEmail settings.ourosEmailOtpTtlSeconds, stores)
    | some identity =>
      -- `EmailOtpUnavailable` is caught, and the drawn id is answered in its place
      let (challenge, stores) :=
        w.startPasswordReset rt settings n stores identity readAt savedAt
      (.started (challenge.getD (w.responseId n)) maskedEmail settings.ourosEmailOtpTtlSeconds,
        stores)
  else (.internalError, stores)

/-- `PasswordResetService.verify_code` -/
def verifyCode (rt : Runtime) (settings : Settings) (stores : OtpStores)
    (challengeId email code : String) (readAt now : Instant) : ResetReply × OtpStores :=
  match settings.requireReady with
  | .error e => (.error e, stores)
  | .ok svc =>
    let res := stores.verifyReset rt svc now readAt challengeId email code
    let reply :=
      match res.1.result with
      | .error e => .error e
      | .ok r =>
        -- `int(record["database_id"])`
        match r.databaseId.asInt? with
        | some databaseId => .verified r.email.toText r.accountType.toText databaseId
        | none => .internalError
    (reply, res.2)

/-- The deliveries that fail just before request `n`; where no challenge was created there is
    nothing to delete. -/
def World.failDeliveries (w : World) (settings : Settings) (n : ℕ) (stores : OtpStores) :
    OtpStores :=
  match settings.requireReady with
  | .error _ => stores
  | .ok svc =>
    ((w.failures n).filter (· < n)).foldl
      (fun stores k => stores.delete svc .reset (w.challengeId k)) stores

/-! ### Sessions -/

/-- The state of the service, and the replies so far, oldest first. -/
structure ResetSession (σ : Type) where
  stores : OtpStores
  limiter : σ
  replies : List ResetReply

variable {σ : Type}

/-- Serve one request. -/
def ResetSession.serve (s : ResetSession σ) (rt : Runtime) (settings : Settings)
    (limiter : Limiter σ) (w : World) (request : ResetRequest) : ResetSession σ :=
  let n := s.replies.length
  let stores := w.failDeliveries settings n s.stores
  match request with
  | .start ip email accountType readAt savedAt =>
    -- validation comes before the route, so a refused field costs no attempt
    match emailField rt email with
    | none => ⟨stores, s.limiter, s.replies ++ [.unprocessable]⟩
    | some email =>
      match limiter.check s.limiter ip email readAt with
      | (some retryAfter, l) =>
          ⟨stores, l, s.replies ++ [.error (.rateLimitExceeded retryAfter)]⟩
      | (none, l) =>
        let (reply, stores) := w.startReset rt settings n stores email accountType readAt savedAt
        ⟨stores, l, s.replies ++ [reply]⟩
  | .verify target email code readAt now =>
    let challengeId := target.resolve s.replies
    match emailField rt email with
    | none => ⟨stores, s.limiter, s.replies ++ [.unprocessable]⟩
    | some email =>
      if challengeIdField challengeId = true ∧ isCodeField rt code = true then
        let (reply, stores) := verifyCode rt settings stores challengeId email code readAt now
        ⟨stores, s.limiter, s.replies ++ [reply]⟩
      else ⟨stores, s.limiter, s.replies ++ [.unprocessable]⟩

/-- Serve the requests in order. -/
def resetSession (rt : Runtime) (settings : Settings) (limiter : Limiter σ) (w : World)
    (requests : List ResetRequest) : ResetSession σ :=
  requests.foldl (fun s request => s.serve rt settings limiter w request)
    ⟨OtpStores.empty, limiter.init, []⟩

end OurosAuth
