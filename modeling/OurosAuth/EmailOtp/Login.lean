import OurosAuth.EmailOtp.Store
import OurosAuth.Lib.Traced

namespace OurosAuth

/-!
# Native-login challenges

`EmailOtpService.start` and `verify`, with the routes that forward a password grant once
`verify` has returned.  `verify` is not one step: it loads the record, compares in the
process, and then deletes or re-saves the record, and other requests may run in between.

* `decideVerify` — the process-local part: what a loaded record and a submission lead to;
* `LoginCall` — where one `verify` call stands between its store operations;
* `loginStep` — one step of the system of all calls over the shared store, with one
  inversion lemma per label (`loginStep_load`, `loginStep_check`, …).
-/

variable {rt : Runtime} {svc : OtpService}

/-! ### The decision between load and write -/

/-- What `verify` does after the comparison. -/
inductive VerifyDecision
  /-- malformed, expired or exhausted: delete, then `EmailOtpInvalidError` -/
  | reject
  /-- `hmac.compare_digest` on a string that is not ASCII -/
  | typeError
  /-- the failed attempt that reaches the limit: delete, then `EmailOtpInvalidError` -/
  | lockOut
  /-- a failed attempt below the limit: save the record back, then `EmailOtpInvalidError` -/
  | resave (r : Record) (ttlSeconds : ℤ)
  /-- both match: delete, then return -/
  | accept
  deriving DecidableEq

/-- The body of `verify` between `_load` and its last store operation; `now` is
    `int(time.time())`. -/
def decideVerify (rt : Runtime) (svc : OtpService) (now : ℤ) (challengeId email code : String)
    (r : Record) : VerifyDecision :=
  match r.checked? with
  | none => .reject
  | some c =>
    if c.expiresAt ≤ now ∨ (svc.maxAttempts : ℤ) ≤ c.attempts then .reject
    -- `compare_digest` on the two addresses comes first, whatever the code is; the digests are
    -- hexadecimal and always comparable
    else if ¬ (isAscii c.email = true ∧ isAscii (rt.normalizeEmail email) = true) then .typeError
    else if c.email = rt.normalizeEmail email ∧
        c.codeDigest = codeDigest rt svc challengeId code then .accept
    else if (svc.maxAttempts : ℤ) ≤ c.attempts + 1 then .lockOut
    else .resave (r.withAttempts (c.attempts + 1)) (max (c.expiresAt - now) 1)

/-- A call that has compared its submission and found it wrong. -/
def VerifyDecision.isWrong : VerifyDecision → Bool
  | .lockOut => true
  | .resave _ _ => true
  | _ => false

/-- Only a live record below the limit whose e-mail and digest match is accepted. -/
theorem decideVerify_accept {now : ℤ} {challengeId email code : String} {r : Record}
    (h : decideVerify rt svc now challengeId email code r = .accept) :
    ∃ c, r.checked? = some c ∧ now < c.expiresAt ∧ c.attempts < svc.maxAttempts ∧
      c.email = rt.normalizeEmail email ∧ c.codeDigest = codeDigest rt svc challengeId code := by
  unfold decideVerify at h
  split at h
  · exact absurd h (by simp)
  · rename_i c hc
    split_ifs at h with h1 h2 h3
    rw [not_or, not_le, not_le] at h1
    exact ⟨c, hc, h1.1, h1.2, h3⟩

/-- A lock-out happens on the last attempt below the limit. -/
theorem decideVerify_lockOut {now : ℤ} {challengeId email code : String} {r : Record}
    (h : decideVerify rt svc now challengeId email code r = .lockOut) :
    ∃ c, r.checked? = some c ∧ c.attempts < svc.maxAttempts ∧
      (svc.maxAttempts : ℤ) ≤ c.attempts + 1 := by
  unfold decideVerify at h
  split at h
  · exact absurd h (by simp)
  · rename_i c hc
    split_ifs at h with h1 h2 h3 h4
    rw [not_or, not_le, not_le] at h1
    exact ⟨c, hc, h1.2, h4⟩

/-- A record is saved back with one more attempt, still below the limit. -/
theorem decideVerify_resave {now : ℤ} {challengeId email code : String} {r r' : Record}
    {ttlSeconds : ℤ}
    (h : decideVerify rt svc now challengeId email code r = .resave r' ttlSeconds) :
    ∃ c, r.checked? = some c ∧ c.attempts + 1 < svc.maxAttempts ∧
      r' = r.withAttempts (c.attempts + 1) := by
  unfold decideVerify at h
  split at h
  · exact absurd h (by simp)
  · rename_i c hc
    split_ifs at h with h1 h2 h3 h4
    rw [VerifyDecision.resave.injEq] at h
    exact ⟨c, hc, not_le.mp h4, h.1.symm⟩

/-- The record of a login challenge that counts `attempts`. -/
def storedLogin (rt : Runtime) (svc : OtpService) (challengeId email code : String)
    (expiresAt attempts : ℤ) : Record where
  email := .str (rt.normalizeEmail email)
  codeDigest := .str (codeDigest rt svc challengeId code)
  attempts := .num attempts
  expiresAt := .num expiresAt

/-- The record `start` writes counts no attempt. -/
theorem loginRecord_eq_storedLogin (rt : Runtime) (svc : OtpService)
    (challengeId email code : String) (now : ℤ) :
    loginRecord rt svc challengeId email code now =
      storedLogin rt svc challengeId email code (now + svc.ttlSeconds) 0 := rfl

@[simp] theorem storedLogin_checked? (challengeId email code : String) (expiresAt attempts : ℤ) :
    (storedLogin rt svc challengeId email code expiresAt attempts).checked? =
      some ⟨rt.normalizeEmail email, codeDigest rt svc challengeId code, attempts, expiresAt⟩ := rfl

/-! ### Calls, labels and events -/

/-- Where one call of a login-verify route stands. -/
inductive LoginCall
  | idle
  /-- `_load` answered with `r` -/
  | loaded (challengeId email code : String) (r : Record)
  /-- the comparison on `r` is done, the store operation is still to come -/
  | decided (challengeId email code : String) (r : Record) (d : VerifyDecision)
  /-- `verify` returned normally -/
  | verified (challengeId email : String)
  /-- the password grant was sent to Keycloak -/
  | granted
  /-- the call raised -/
  | raised
  deriving DecidableEq

/-- Is the call between its `GET` of this challenge and its `SET` or `DEL`? -/
def LoginCall.inWindow (challengeId : String) : LoginCall → Prop
  | .loaded c _ _ _ => c = challengeId
  | .decided c _ _ _ _ => c = challengeId
  | _ => False

/-- The steps of the system. -/
inductive LoginLabel
  | tick (t : Instant)
  /-- `start` for a verified identity: the record is saved -/
  | start (challengeId email code : String) (readAt : Instant)
  | delivered (challengeId : String) (outcome : Delivery)
  /-- call `i` loads the record -/
  | load (i : ℕ) (challengeId email code : String)
  /-- call `i` reads the clock and compares -/
  | check (i : ℕ)
  /-- call `i` deletes or saves the record and ends -/
  | write (i : ℕ)
  /-- the route of call `i` forwards the password grant -/
  | grant (i : ℕ)

/-- What the steps leave in the history. -/
inductive LoginEvent
  | started (challengeId email code : String) (expiresAt : ℤ)
  /-- call `i` submitted this to an existing challenge, at this whole second -/
  | submitted (i : ℕ) (challengeId email code : String) (now : ℤ)
  /-- call `i` compared a wrong e-mail or code with the stored ones -/
  | comparedWrong (i : ℕ) (challengeId : String)
  /-- call `i` deleted the challenge: consumed, locked out or expired -/
  | removed (i : ℕ) (challengeId : String)
  | returned (i : ℕ) (challengeId : String)
  | granted (i : ℕ) (challengeId email : String)
  deriving DecidableEq

/-- The service state and every call of a login-verify route. -/
structure LoginState where
  otp : OtpState
  calls : ℕ → LoginCall

/-- No challenge and no call yet. -/
def LoginState.init (now : Instant) : LoginState := ⟨OtpState.init now, fun _ => .idle⟩

/-- Move call `i` to `call`. -/
def LoginState.setCall (s : LoginState) (i : ℕ) (call : LoginCall) : LoginState :=
  { s with calls := Function.update s.calls i call }

/-- Replace the stores. -/
def LoginState.setStores (s : LoginState) (stores : OtpStores) : LoginState :=
  { s with otp := { s.otp with stores := stores } }

@[simp] theorem setCall_otp (s : LoginState) (i : ℕ) (call : LoginCall) :
    (s.setCall i call).otp = s.otp := rfl

@[simp] theorem setCall_calls_self (s : LoginState) (i : ℕ) (call : LoginCall) :
    (s.setCall i call).calls i = call := Function.update_self ..

theorem setCall_calls_ne (s : LoginState) {i j : ℕ} (call : LoginCall) (h : j ≠ i) :
    (s.setCall i call).calls j = s.calls j := Function.update_of_ne h ..

@[simp] theorem setStores_calls (s : LoginState) (stores : OtpStores) :
    (s.setStores stores).calls = s.calls := rfl

@[simp] theorem setStores_stores (s : LoginState) (stores : OtpStores) :
    (s.setStores stores).otp.stores = stores := rfl

@[simp] theorem setStores_issued (s : LoginState) (stores : OtpStores) :
    (s.setStores stores).otp.issued = s.otp.issued := rfl

@[simp] theorem setStores_now (s : LoginState) (stores : OtpStores) :
    (s.setStores stores).otp.now = s.otp.now := rfl

/-! ### The step function -/

/-- The store operation that ends a `verify` call. -/
def VerifyDecision.store (svc : OtpService) (now : Instant) (challengeId : String)
    (st : OtpStores) : VerifyDecision → OtpStores
  | .resave r ttlSeconds => st.save svc now .login challengeId r ttlSeconds
  | _ => st.delete svc .login challengeId

/-- How a `verify` call ends after its store operation. -/
def VerifyDecision.ending (challengeId email : String) : VerifyDecision → LoginCall
  | .accept => .verified challengeId email
  | _ => .raised

/-- The events of the store operation, newest first. -/
def VerifyDecision.events (i : ℕ) (challengeId : String) : VerifyDecision → List LoginEvent
  | .resave _ _ => []
  | .accept => [.returned i challengeId, .removed i challengeId]
  | _ => [.removed i challengeId]

/-- One step of the login system. -/
def loginStep (rt : Runtime) (svc : OtpService) (s : LoginState) :
    LoginLabel → Option (LoginState × List LoginEvent)
  | .tick t => (s.otp.tick t).map fun otp => ({ s with otp := otp }, [])
  | .start challengeId email code readAt =>
      if isOtpCode code = true then
        (s.otp.create svc .login challengeId readAt
          (loginRecord rt svc challengeId email code readAt.whole)).map fun otp =>
            ({ s with otp := otp },
              [.started challengeId email code (readAt.whole + svc.ttlSeconds)])
      else none
  | .delivered challengeId outcome =>
      (s.otp.delivered svc .login challengeId outcome).map fun otp => ({ s with otp := otp }, [])
  | .load i challengeId email code =>
      match s.calls i with
      | .idle =>
        let loaded := s.otp.stores.load svc s.otp.now .login challengeId
        match loaded.1 with
        | none => some ((s.setStores loaded.2).setCall i .raised, [])
        | some r =>
            some ((s.setStores loaded.2).setCall i (.loaded challengeId email code r),
              [.submitted i challengeId email code s.otp.now.whole])
      | _ => none
  | .check i =>
      match s.calls i with
      | .loaded challengeId email code r =>
        let d := decideVerify rt svc s.otp.now.whole challengeId email code r
        if d = .typeError then some (s.setCall i .raised, [])
        else
          some (s.setCall i (.decided challengeId email code r d),
            if d.isWrong then [.comparedWrong i challengeId] else [])
      | _ => none
  | .write i =>
      match s.calls i with
      | .decided challengeId email _ _ d =>
          some ((s.setStores (d.store svc s.otp.now challengeId s.otp.stores)).setCall i
              (d.ending challengeId email),
            d.events i challengeId)
      | _ => none
  | .grant i =>
      match s.calls i with
      | .verified challengeId email => some (s.setCall i .granted, [.granted i challengeId email])
      | _ => none

/-- The login system: all `verify` calls of all replicas over one store. -/
def loginSystem (rt : Runtime) (svc : OtpService) :
    Traced.System LoginState LoginLabel LoginEvent := ⟨loginStep rt svc⟩

/-! ### What one step can do -/

variable {s s' : LoginState} {es : List LoginEvent}

theorem loginStep_tick {t : Instant} (h : loginStep rt svc s (.tick t) = some (s', es)) :
    s.otp.now.seconds ≤ t.seconds ∧ s' = { s with otp := { s.otp with now := t } } ∧ es = [] := by
  simp only [loginStep, Option.map_eq_some_iff, Prod.mk.injEq] at h
  obtain ⟨otp, htick, rfl, rfl⟩ := h
  obtain ⟨hle, rfl⟩ := tick_eq_some.mp htick
  exact ⟨hle, rfl, rfl⟩

theorem loginStep_start {challengeId email code : String} {readAt : Instant}
    (h : loginStep rt svc s (.start challengeId email code readAt) = some (s', es)) :
    isOtpCode code = true ∧
      s.otp.create svc .login challengeId readAt
        (loginRecord rt svc challengeId email code readAt.whole) = some s'.otp ∧
      s'.calls = s.calls ∧
      es = [.started challengeId email code (readAt.whole + svc.ttlSeconds)] := by
  simp only [loginStep] at h
  split at h
  · rename_i hcode
    simp only [Option.map_eq_some_iff, Prod.mk.injEq] at h
    obtain ⟨otp, hcreate, rfl, rfl⟩ := h
    exact ⟨hcode, hcreate, rfl, rfl⟩
  · exact absurd h (by simp)

theorem loginStep_delivered {challengeId : String} {outcome : Delivery}
    (h : loginStep rt svc s (.delivered challengeId outcome) = some (s', es)) :
    s.otp.delivered svc .login challengeId outcome = some s'.otp ∧ s'.calls = s.calls ∧
      es = [] := by
  simp only [loginStep, Option.map_eq_some_iff, Prod.mk.injEq] at h
  obtain ⟨otp, hdel, rfl, rfl⟩ := h
  exact ⟨hdel, rfl, rfl⟩

/-- A load ends the call, or leaves it holding the record it found. -/
theorem loginStep_load {i : ℕ} {challengeId email code : String}
    (h : loginStep rt svc s (.load i challengeId email code) = some (s', es)) :
    s.calls i = .idle ∧
      ((∃ r, (s.otp.stores.load svc s.otp.now .login challengeId).1 = some r ∧
          s' = (s.setStores (s.otp.stores.load svc s.otp.now .login challengeId).2).setCall i
            (.loaded challengeId email code r) ∧
          es = [.submitted i challengeId email code s.otp.now.whole]) ∨
        (s' = (s.setStores (s.otp.stores.load svc s.otp.now .login challengeId).2).setCall i
            .raised ∧ es = [])) := by
  simp only [loginStep] at h
  split at h
  · rename_i hidle
    refine ⟨hidle, ?_⟩
    split at h
    · rw [Option.some.injEq, Prod.mk.injEq] at h
      exact Or.inr ⟨h.1.symm, h.2.symm⟩
    · rename_i r hr
      rw [Option.some.injEq, Prod.mk.injEq] at h
      exact Or.inl ⟨r, hr, h.1.symm, h.2.symm⟩
  · exact absurd h (by simp)

/-- A check ends the call on a type error, or leaves it with its decision. -/
theorem loginStep_check {i : ℕ} (h : loginStep rt svc s (.check i) = some (s', es)) :
    ∃ challengeId email code r, s.calls i = .loaded challengeId email code r ∧
      ((s' = s.setCall i .raised ∧ es = []) ∨
        ∃ d, decideVerify rt svc s.otp.now.whole challengeId email code r = d ∧
          d ≠ .typeError ∧
          s' = s.setCall i (.decided challengeId email code r d) ∧
          es = if d.isWrong then [.comparedWrong i challengeId] else []) := by
  simp only [loginStep] at h
  split at h
  · rename_i challengeId email code r hcall
    refine ⟨challengeId, email, code, r, hcall, ?_⟩
    split at h
    · rw [Option.some.injEq, Prod.mk.injEq] at h
      exact Or.inl ⟨h.1.symm, h.2.symm⟩
    · rename_i hd
      rw [Option.some.injEq, Prod.mk.injEq] at h
      exact Or.inr ⟨_, rfl, hd, h.1.symm, h.2.symm⟩
  · exact absurd h (by simp)

theorem loginStep_write {i : ℕ} (h : loginStep rt svc s (.write i) = some (s', es)) :
    ∃ challengeId email code r d, s.calls i = .decided challengeId email code r d ∧
      s' = (s.setStores (d.store svc s.otp.now challengeId s.otp.stores)).setCall i
        (d.ending challengeId email) ∧
      es = d.events i challengeId := by
  simp only [loginStep] at h
  split at h
  · rename_i challengeId email code r d hcall
    rw [Option.some.injEq, Prod.mk.injEq] at h
    exact ⟨challengeId, email, code, r, d, hcall, h.1.symm, h.2.symm⟩
  · exact absurd h (by simp)

theorem loginStep_grant {i : ℕ} (h : loginStep rt svc s (.grant i) = some (s', es)) :
    ∃ challengeId email, s.calls i = .verified challengeId email ∧
      s' = s.setCall i .granted ∧ es = [.granted i challengeId email] := by
  simp only [loginStep] at h
  split at h
  · rename_i challengeId email hcall
    rw [Option.some.injEq, Prod.mk.injEq] at h
    exact ⟨challengeId, email, hcall, h.1.symm, h.2.symm⟩
  · exact absurd h (by simp)

/-! ### What a call does next -/

/-- A load that finds a record. -/
theorem loginStep_load_some {i : ℕ} {challengeId email code : String} {r : Record}
    (hidle : s.calls i = .idle)
    (hload : (s.otp.stores.load svc s.otp.now .login challengeId).1 = some r) :
    loginStep rt svc s (.load i challengeId email code) =
      some ((s.setStores (s.otp.stores.load svc s.otp.now .login challengeId).2).setCall i
          (.loaded challengeId email code r),
        [.submitted i challengeId email code s.otp.now.whole]) := by
  simp only [loginStep, hidle, hload]

/-- A load that finds none. -/
theorem loginStep_load_none {i : ℕ} {challengeId email code : String} (hidle : s.calls i = .idle)
    (hload : (s.otp.stores.load svc s.otp.now .login challengeId).1 = none) :
    loginStep rt svc s (.load i challengeId email code) =
      some ((s.setStores (s.otp.stores.load svc s.otp.now .login challengeId).2).setCall i .raised,
        []) := by
  simp only [loginStep, hidle, hload]

theorem loginStep_check_typeError {i : ℕ} {challengeId email code : String} {r : Record}
    (hcall : s.calls i = .loaded challengeId email code r)
    (htype : decideVerify rt svc s.otp.now.whole challengeId email code r = .typeError) :
    loginStep rt svc s (.check i) = some (s.setCall i .raised, []) := by
  simp only [loginStep, hcall, if_pos htype]

theorem loginStep_check_decided {i : ℕ} {challengeId email code : String} {r : Record}
    {d : VerifyDecision} (hcall : s.calls i = .loaded challengeId email code r)
    (hd : decideVerify rt svc s.otp.now.whole challengeId email code r = d)
    (htype : d ≠ .typeError) :
    loginStep rt svc s (.check i) =
      some (s.setCall i (.decided challengeId email code r d),
        if d.isWrong then [.comparedWrong i challengeId] else []) := by
  simp only [loginStep, hcall, hd, if_neg htype]

theorem loginStep_write_decided {i : ℕ} {challengeId email code : String} {r : Record}
    {d : VerifyDecision} (hcall : s.calls i = .decided challengeId email code r d) :
    loginStep rt svc s (.write i) =
      some ((s.setStores (d.store svc s.otp.now challengeId s.otp.stores)).setCall i
          (d.ending challengeId email), d.events i challengeId) := by
  simp only [loginStep, hcall]

/-- Calls in a window after one call moved: that call, or a call that was there before. -/
theorem inWindow_of_setCall {s : LoginState} {i j : ℕ} {call : LoginCall} {challengeId : String}
    (h : ((s.setCall i call).calls j).inWindow challengeId) :
    call.inWindow challengeId ∨ (s.calls j).inWindow challengeId := by
  by_cases hj : j = i
  · subst hj
    rw [setCall_calls_self] at h
    exact Or.inl h
  · rw [setCall_calls_ne _ _ hj] at h
    exact Or.inr h

/-! ### Reading the history -/

/-- The calls whose `verify` on this challenge returned normally. -/
def returnsOf (challengeId : String) (h : List LoginEvent) : List ℕ :=
  h.filterMap fun e =>
    match e with
    | .returned i c => if c = challengeId then some i else none
    | _ => none

/-- The calls that forwarded a password grant for this challenge. -/
def grantsOf (challengeId : String) (h : List LoginEvent) : List ℕ :=
  h.filterMap fun e =>
    match e with
    | .granted i c _ => if c = challengeId then some i else none
    | _ => none

/-- The calls whose submission was compared with this challenge and failed. -/
def wrongOf (challengeId : String) (h : List LoginEvent) : List ℕ :=
  h.filterMap fun e =>
    match e with
    | .comparedWrong i c => if c = challengeId then some i else none
    | _ => none

/-- The calls that found this challenge in the store and submitted to it. -/
def submittersOf (challengeId : String) (h : List LoginEvent) : List ℕ :=
  h.filterMap fun e =>
    match e with
    | .submitted i c _ _ _ => if c = challengeId then some i else none
    | _ => none

/-- The events of a store operation record no grant, failed comparison or submission. -/
theorem grantsOf_events (d : VerifyDecision) (i : ℕ) (challengeId challengeId' : String)
    (h : List LoginEvent) :
    grantsOf challengeId' (d.events i challengeId ++ h) = grantsOf challengeId' h := by
  cases d <;> rfl

theorem wrongOf_events (d : VerifyDecision) (i : ℕ) (challengeId challengeId' : String)
    (h : List LoginEvent) :
    wrongOf challengeId' (d.events i challengeId ++ h) = wrongOf challengeId' h := by
  cases d <;> rfl

theorem submittersOf_events (d : VerifyDecision) (i : ℕ) (challengeId challengeId' : String)
    (h : List LoginEvent) :
    submittersOf challengeId' (d.events i challengeId ++ h) = submittersOf challengeId' h := by
  cases d <;> rfl

/-- Only an accepting store operation records a return, of its own call. -/
theorem returnsOf_events (d : VerifyDecision) (i : ℕ) (challengeId challengeId' : String)
    (h : List LoginEvent) :
    returnsOf challengeId' (d.events i challengeId ++ h) =
      if d = .accept ∧ challengeId = challengeId' then i :: returnsOf challengeId' h
      else returnsOf challengeId' h := by
  cases d <;> simp [VerifyDecision.events, returnsOf]
  split <;> simp_all

/-- A removal is recorded for the call's own challenge. -/
theorem removed_mem_events {d : VerifyDecision} {i j : ℕ} {challengeId challengeId' : String}
    (h : LoginEvent.removed j challengeId' ∈ d.events i challengeId) :
    challengeId' = challengeId := by
  cases d <;> simp only [VerifyDecision.events, List.mem_cons, List.not_mem_nil, or_false,
    reduceCtorEq, false_or, LoginEvent.removed.injEq] at h
  all_goals exact h.2

/-- A store operation that is not a save leaves the challenge without a record. -/
theorem record?_store_eq_none {d : VerifyDecision} {st : OtpStores} {now : Instant}
    {challengeId : String} (h : ∀ r ttlSeconds, d ≠ .resave r ttlSeconds) :
    (d.store svc now challengeId st).record? svc .login challengeId = none := by
  cases d
  case resave r ttlSeconds => exact absurd rfl (h r ttlSeconds)
  all_goals exact recordAt_delete_self

/-- A store operation adds no record for another challenge. -/
theorem record?_of_store {d : VerifyDecision} {st : OtpStores} {now : Instant}
    {challengeId challengeId' : String} {r : Record} (hne : challengeId' ≠ challengeId)
    (h : (d.store svc now challengeId st).record? svc .login challengeId' = some r) :
    st.record? svc .login challengeId' = some r := by
  have hkey : storeKey svc .login challengeId' ≠ storeKey svc .login challengeId :=
    fun heq => hne (storeKey_inj heq)
  cases d
  case resave r' ttl => exact recordAt_of_recordAt_save hkey h
  all_goals exact recordAt_of_recordAt_delete h

/-- A record of another challenge was there before a new challenge was saved. -/
theorem record?_of_create {s s' : OtpState} {challengeId challengeId' : String} {r r' : Record}
    {readAt : Instant} (hcreate : s.create svc .login challengeId readAt r = some s')
    (hne : challengeId' ≠ challengeId)
    (h : s'.stores.record? svc .login challengeId' = some r') :
    s.stores.record? svc .login challengeId' = some r' := by
  obtain ⟨-, -, -, rfl⟩ := create_eq_some.mp hcreate
  exact recordAt_of_recordAt_save (fun heq => hne (storeKey_inj heq)) h

/-- The end of a delivery adds no record. -/
theorem record?_of_delivered {s s' : OtpState} {flow : Flow} {challengeId challengeId' : String}
    {r : Record} {outcome : Delivery}
    (hdel : s.delivered svc flow challengeId outcome = some s')
    (h : s'.stores.record? svc .login challengeId' = some r) :
    s.stores.record? svc .login challengeId' = some r := by
  obtain ⟨-, -, -, -, hst | hst⟩ := delivered_eq_some hdel
  · rwa [hst] at h
  · rw [hst] at h
    exact recordAt_of_recordAt_delete h

/-! ### Only issued challenges are worked on -/

/-- Every stored challenge, and every challenge a call works on, was issued. -/
structure IssuedIds (svc : OtpService) (s : LoginState) : Prop where
  stored : ∀ challengeId r, s.otp.stores.record? svc .login challengeId = some r →
    challengeId ∈ s.otp.issued
  window : ∀ i challengeId, (s.calls i).inWindow challengeId → challengeId ∈ s.otp.issued

theorem issuedIds_init (now : Instant) : IssuedIds svc (LoginState.init now) where
  stored := by
    intro challengeId r h
    simp [LoginState.init, OtpState.init, OtpStores.record?] at h
  window := by simp [LoginState.init, LoginCall.inWindow]

/-- A step that adds no record keeps the invariant when the calls it moves to a window work on
    an issued challenge. -/
theorem IssuedIds.frame (hinv : IssuedIds svc s)
    (hstore : ∀ challengeId r, s'.otp.stores.record? svc .login challengeId = some r →
      s.otp.stores.record? svc .login challengeId = some r)
    (hissued : s'.otp.issued = s.otp.issued)
    (hwindow : ∀ i challengeId, (s'.calls i).inWindow challengeId →
      challengeId ∈ s.otp.issued) : IssuedIds svc s' where
  stored challengeId r h := hissued ▸ hinv.stored challengeId r (hstore challengeId r h)
  window i challengeId h := hissued ▸ hwindow i challengeId h

/-- Every step keeps the invariant. -/
theorem issuedIds_step {l : LoginLabel} (hinv : IssuedIds svc s)
    (h : loginStep rt svc s l = some (s', es)) : IssuedIds svc s' := by
  -- a record comes from `create`, or from a write-back by a call that had loaded one
  cases l with
  | tick t =>
    obtain ⟨-, rfl, -⟩ := loginStep_tick h
    exact hinv.frame (fun _ _ h => h) rfl hinv.window
  | start challengeId email code readAt =>
    obtain ⟨-, hcreate, hcalls, -⟩ := loginStep_start h
    have hissued : s'.otp.issued = challengeId :: s.otp.issued := by
      rw [(create_eq_some.mp hcreate).2.2.2]
    constructor
    · intro a r hr
      rw [hissued, List.mem_cons]
      by_cases ha : a = challengeId
      · exact Or.inl ha
      · exact Or.inr (hinv.stored a r (record?_of_create hcreate ha hr))
    · intro i a hwin
      rw [hcalls] at hwin
      rw [hissued]
      exact List.mem_cons_of_mem _ (hinv.window i a hwin)
  | delivered challengeId outcome =>
    obtain ⟨hdel, hcalls, -⟩ := loginStep_delivered h
    refine hinv.frame (fun a r => record?_of_delivered hdel) (delivered_eq_some hdel).2.2.1 ?_
    rw [hcalls]
    exact hinv.window
  | load i challengeId email code =>
    obtain ⟨-, ⟨r, hr, rfl, -⟩ | ⟨rfl, -⟩⟩ := loginStep_load h
    · refine hinv.frame (fun a r' => recordAt_of_recordAt_load) rfl fun j a hwin => ?_
      rcases inWindow_of_setCall hwin with heq | hold
      · exact heq ▸ hinv.stored challengeId r (recordAt_of_load hr)
      · exact hinv.window j a hold
    · refine hinv.frame (fun a r' => recordAt_of_recordAt_load) rfl fun j a hwin => ?_
      exact (inWindow_of_setCall hwin).elim False.elim (hinv.window j a)
  | check i =>
    obtain ⟨challengeId, email, code, r, hcall, ⟨rfl, -⟩ | ⟨d, -, -, rfl, -⟩⟩ := loginStep_check h
    · refine hinv.frame (fun _ _ h => h) rfl fun j a hwin => ?_
      exact (inWindow_of_setCall hwin).elim False.elim (hinv.window j a)
    · refine hinv.frame (fun _ _ h => h) rfl fun j a hwin => ?_
      rcases inWindow_of_setCall hwin with heq | hold
      · exact heq ▸ hinv.window i challengeId (by rw [hcall]; rfl)
      · exact hinv.window j a hold
  | write i =>
    obtain ⟨challengeId, email, code, r, d, hcall, rfl, -⟩ := loginStep_write h
    have hid : challengeId ∈ s.otp.issued := hinv.window i challengeId (by rw [hcall]; rfl)
    have hending : ∀ a, ¬ (d.ending challengeId email).inWindow a := by
      cases d <;> simp [VerifyDecision.ending, LoginCall.inWindow]
    constructor
    · intro a r' hr
      by_cases ha : a = challengeId
      · exact ha ▸ hid
      · exact hinv.stored a r' (record?_of_store ha hr)
    · intro j a hwin
      exact (inWindow_of_setCall hwin).elim (fun h => absurd h (hending a)) (hinv.window j a)
  | grant i =>
    obtain ⟨challengeId, email, -, rfl, -⟩ := loginStep_grant h
    refine hinv.frame (fun _ _ h => h) rfl fun j a hwin => ?_
    exact (inWindow_of_setCall hwin).elim False.elim (hinv.window j a)

/-- The step lemma on configurations. -/
theorem issuedIds_next {c c' : Traced.Config LoginState LoginEvent} {l : LoginLabel}
    (hinv : IssuedIds svc c.state) (hnext : (loginSystem rt svc).next c l = some c') :
    IssuedIds svc c'.state := by
  obtain ⟨es, hstep, -⟩ := (loginSystem rt svc).next_eq_some.mp hnext
  exact issuedIds_step hinv hstep

/-! ### Runs for examples -/

/-- The steps of one verification that nothing interrupts. -/
def verifyAlone (i : ℕ) (code : String) : List LoginLabel :=
  [.load i sampleToken "ana@ouros.app" code, .check i, .write i]

end OurosAuth
