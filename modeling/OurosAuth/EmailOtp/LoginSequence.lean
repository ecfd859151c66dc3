import OurosAuth.Core.Requests
import OurosAuth.EmailOtp.Frame

namespace OurosAuth

open KeyValue Traced

/-!
# Login verifications one after another

`EmailOtpService.verify` with nothing between its load and its last store operation, and the
sequential specification a sequence of such calls is held against.

* `OtpStores.verify` — one call from beginning to end; `verify_runs` and `verifyAll_runs` say that
  such calls are runs of the login system;
* `AsSpecified` — what every call of a sequence may answer, given the answers before it;
* `TracksChallenge` — what a lookup finds of the challenge after those answers;
* `verify_as_specified_iff` — the calls answer as specified exactly when every call made while the
  challenge is open compares ASCII addresses (`AsciiWhileOpen`).
-/

/-! ### One call, then the next -/

/-- A call of `verify`, with the times at which it loads the record, checks it, and saves or deletes
    it. -/
structure VerifyCall where
  email : String
  code : String
  loadAt : Instant
  checkAt : Instant
  writeAt : Instant
  load_le : loadAt.seconds ≤ checkAt.seconds
  check_le : checkAt.seconds ≤ writeAt.seconds

/-- How a call of `verify` ends. -/
inductive VerifyOutcome
  /-- it returned normally -/
  | returned
  /-- it raised `EmailOtpInvalidError` -/
  | otpInvalid
  /-- it raised the `TypeError` of `hmac.compare_digest` -/
  | typeError
  deriving DecidableEq

/-- The outcome of a call after its decision. -/
def VerifyDecision.outcome : VerifyDecision → VerifyOutcome
  | .accept => .returned
  | .typeError => .typeError
  | _ => .otpInvalid

/-- `EmailOtpService.verify`: how it ends and the stores afterwards. -/
def OtpStores.verify (st : OtpStores) (rt : Runtime) (svc : OtpService) (challengeId : String)
    (call : VerifyCall) : VerifyOutcome × OtpStores :=
  let loaded := st.load svc call.loadAt .login challengeId
  match loaded.1 with
  | none => (.otpInvalid, loaded.2)
  | some r =>
    let d := decideVerify rt svc call.checkAt.whole challengeId call.email call.code r
    if d = .typeError then (.typeError, loaded.2)
    else (d.outcome, d.store svc call.writeAt challengeId loaded.2)

/-- Each call of a sequence with its outcome. -/
def verifyAll (rt : Runtime) (svc : OtpService) (challengeId : String) :
    OtpStores → List VerifyCall → List (VerifyCall × VerifyOutcome)
  | _, [] => []
  | st, call :: calls =>
      let res := st.verify rt svc challengeId call
      (call, res.1) :: verifyAll rt svc challengeId res.2 calls

/-- Each call begins when the one before it has ended, the first no earlier than `t`. -/
def OneByOne : Instant → List VerifyCall → Prop
  | _, [] => True
  | t, call :: calls => t.seconds ≤ call.loadAt.seconds ∧ OneByOne call.writeAt calls

variable {rt : Runtime} {svc : OtpService} {challengeId email code : String} {expiresAt : ℤ}

/-- A call that finds no record. -/
theorem verify_of_load_none {st : OtpStores} {call : VerifyCall}
    (hload : (st.load svc call.loadAt .login challengeId).1 = none) :
    st.verify rt svc challengeId call =
      (.otpInvalid, (st.load svc call.loadAt .login challengeId).2) := by
  unfold OtpStores.verify
  simp only [hload]

/-- A call that finds a record and compares two strings of which one is not ASCII. -/
theorem verify_of_typeError {st : OtpStores} {call : VerifyCall} {r : Record}
    (hload : (st.load svc call.loadAt .login challengeId).1 = some r)
    (hd : decideVerify rt svc call.checkAt.whole challengeId call.email call.code r = .typeError) :
    st.verify rt svc challengeId call =
      (.typeError, (st.load svc call.loadAt .login challengeId).2) := by
  unfold OtpStores.verify
  simp only [hload, hd, if_true]

/-- A call that finds a record and decides otherwise. -/
theorem verify_of_decided {st : OtpStores} {call : VerifyCall} {r : Record} {d : VerifyDecision}
    (hload : (st.load svc call.loadAt .login challengeId).1 = some r)
    (hd : decideVerify rt svc call.checkAt.whole challengeId call.email call.code r = d)
    (htype : d ≠ .typeError) :
    st.verify rt svc challengeId call =
      (d.outcome,
        d.store svc call.writeAt challengeId (st.load svc call.loadAt .login challengeId).2) := by
  unfold OtpStores.verify
  simp only [hload, hd, if_neg htype]

/-! ### A call is a run of the login system -/

/-- Where a call of the login system stands when `verify` has ended so. -/
def VerifyOutcome.ending (challengeId email : String) : VerifyOutcome → LoginCall
  | .returned => .verified challengeId email
  | _ => .raised

theorem ending_outcome (challengeId email : String) (d : VerifyDecision) :
    d.outcome.ending challengeId email = d.ending challengeId email := by
  cases d <;> rfl

variable {c : Config LoginState LoginEvent} {i : ℕ}

/-- The configuration at a later time. -/
def laterConfig (c : Config LoginState LoginEvent) (t : Instant) : Config LoginState LoginEvent :=
  ⟨{ c.state with otp := { c.state.otp with now := t } }, c.history⟩

/-- The clock moves on. -/
theorem reaches_tick {c' : Config LoginState LoginEvent} {t : Instant}
    (h : (loginSystem rt svc).Reaches c c') (hle : c'.state.otp.now.seconds ≤ t.seconds) :
    (loginSystem rt svc).Reaches c (laterConfig c' t) := by
  have hstep : (loginSystem rt svc).step c'.state (.tick t) =
      some ((laterConfig c' t).state, []) := by
    show (c'.state.otp.tick t).map _ = _
    rw [tick_eq_some.mpr ⟨hle, rfl⟩]
    rfl
  exact h.step _ hstep

theorem reaches_step {c' : Config LoginState LoginEvent} {l : LoginLabel} {s' : LoginState}
    {es : List LoginEvent} (h : (loginSystem rt svc).Reaches c c')
    (hstep : loginStep rt svc c'.state l = some (s', es)) :
    (loginSystem rt svc).Reaches c ⟨s', es ++ c'.history⟩ := h.step _ hstep

/-- **One call.** Nothing between its steps, `verify` is a run of call `i`. -/
theorem verify_runs (challengeId : String) (call : VerifyCall) (hidle : c.state.calls i = .idle)
    (hle : c.state.otp.now.seconds ≤ call.loadAt.seconds) :
    ∃ c', (loginSystem rt svc).Reaches c c' ∧ c'.state.otp.now = call.writeAt ∧
      c'.state.otp.stores = (c.state.otp.stores.verify rt svc challengeId call).2 ∧
      c'.state.calls i =
        (c.state.otp.stores.verify rt svc challengeId call).1.ending challengeId call.email ∧
      ∀ j, j ≠ i → c'.state.calls j = c.state.calls j := by
  let d := laterConfig c call.loadAt
  have hstart : (loginSystem rt svc).Reaches c d := reaches_tick (.refl _ c) hle
  have hidle' : d.state.calls i = .idle := hidle
  -- the call ends without a record, by the TypeError of the comparison, or with a write
  cases hload : (d.state.otp.stores.load svc d.state.otp.now .login challengeId).1 with
  | none =>
    have hverify : c.state.otp.stores.verify rt svc challengeId call = _ :=
      verify_of_load_none hload
    have hstep : loginStep rt svc d.state (.load i challengeId call.email call.code) =
        some (_, _) :=
      loginStep_load_none hidle' hload
    have hloaded := reaches_step hstart hstep
    have hended := reaches_tick hloaded (call.load_le.trans call.check_le)
    rw [hverify]
    exact ⟨_, hended, rfl, rfl, setCall_calls_self .., fun j hj => setCall_calls_ne _ _ hj⟩
  | some r =>
    have hstep : loginStep rt svc d.state (.load i challengeId call.email call.code) =
        some (_, _) :=
      loginStep_load_some hidle' hload
    have hloaded := reaches_step hstart hstep
    have hlater := reaches_tick hloaded call.load_le
    by_cases htype : decideVerify rt svc call.checkAt.whole challengeId call.email call.code r =
        .typeError
    · have hverify : c.state.otp.stores.verify rt svc challengeId call = _ :=
        verify_of_typeError hload htype
      have hchecked := reaches_step hlater (loginStep_check_typeError (setCall_calls_self ..) htype)
      have hended := reaches_tick hchecked call.check_le
      rw [hverify]
      refine ⟨_, hended, rfl, rfl, setCall_calls_self .., fun j hj => ?_⟩
      exact (setCall_calls_ne _ _ hj).trans (setCall_calls_ne _ _ hj)
    · have hverify : c.state.otp.stores.verify rt svc challengeId call = _ :=
        verify_of_decided hload rfl htype
      have hchecked := reaches_step hlater
        (loginStep_check_decided (setCall_calls_self ..) rfl htype)
      have hwritten := reaches_step (reaches_tick hchecked call.check_le)
        (loginStep_write_decided (setCall_calls_self ..))
      rw [hverify]
      refine ⟨_, hwritten, rfl, rfl, ?_, fun j hj => ?_⟩
      · rw [ending_outcome]
        exact setCall_calls_self ..
      · exact (setCall_calls_ne _ _ hj).trans
          ((setCall_calls_ne _ _ hj).trans (setCall_calls_ne _ _ hj))

/-- **A sequence of calls.** Calls on one challenge, one after another, are a run of the calls from
    `i` on, and each of them stands where its outcome puts it. -/
theorem verifyAll_runs {calls : List VerifyCall} (hidle : ∀ j, i ≤ j → c.state.calls j = .idle)
    (horder : OneByOne c.state.otp.now calls) :
    ∃ c', (loginSystem rt svc).Reaches c c' ∧ (∀ j, j < i → c'.state.calls j = c.state.calls j) ∧
      ∀ k call outcome,
        (verifyAll rt svc challengeId c.state.otp.stores calls)[k]? = some (call, outcome) →
        c'.state.calls (i + k) = outcome.ending challengeId call.email := by
  induction calls generalizing c i with
  | nil => exact ⟨c, .refl _ c, fun j _ => rfl, by simp [verifyAll]⟩
  | cons call calls ih =>
    obtain ⟨hle, hrest⟩ := horder
    -- the first call is call `i`, the others begin at `i + 1`
    obtain ⟨c₁, hreach, hnow, hstores, hcall, hframe⟩ := verify_runs challengeId call
      (hidle i le_rfl) hle
    have hidle' : ∀ j, i + 1 ≤ j → c₁.state.calls j = .idle := fun j hj =>
      (hframe j (by omega)).trans (hidle j (by omega))
    obtain ⟨c', hreach', hbelow, hends⟩ := ih hidle' (hnow ▸ hrest)
    refine ⟨c', hreach.trans _ hreach', fun j hj => ?_, fun k call' outcome hk => ?_⟩
    · exact (hbelow j (by omega)).trans (hframe j (by omega))
    · cases k with
      | zero =>
        obtain ⟨rfl, rfl⟩ := Prod.mk.inj (Option.some.inj hk)
        exact (hbelow i (by omega)).trans hcall
      | succ k =>
        have hend := hends k call' outcome (by rw [hstores]; exact hk)
        rwa [Nat.add_right_comm] at hend

/-! ### The specification -/

/-- Does the call submit the e-mail and the code of the challenge? -/
def VerifyCall.IsRight (rt : Runtime) (email code : String) (call : VerifyCall) : Prop :=
  rt.normalizeEmail call.email = rt.normalizeEmail email ∧ call.code = code

instance (call : VerifyCall) : Decidable (call.IsRight rt email code) :=
  inferInstanceAs (Decidable (_ ∧ _))

/-- How many of these calls did not return normally. -/
def failures (earlier : List VerifyOutcome) : ℕ := earlier.countP (· ≠ .returned)

/-- What a call may answer after the calls with the outcomes `earlier`. -/
structure AnswersRight (rt : Runtime) (svc : OtpService) (email code : String) (expiresAt : ℤ)
    (earlier : List VerifyOutcome) (call : VerifyCall) (outcome : VerifyOutcome) : Prop where
  returns_iff : outcome = .returned ↔ call.IsRight rt email code ∧ call.checkAt.whole < expiresAt ∧
    .returned ∉ earlier ∧ failures earlier < svc.maxAttempts
  generic : outcome ≠ .returned → outcome = .otpInvalid

/-- **The sequential specification.** Every call of the sequence answers as it may after the calls
    before it; `earlier` has their outcomes, newest first. -/
def AsSpecified (rt : Runtime) (svc : OtpService) (email code : String) (expiresAt : ℤ) :
    List VerifyOutcome → List (VerifyCall × VerifyOutcome) → Prop
  | _, [] => True
  | earlier, (call, outcome) :: rest =>
      AnswersRight rt svc email code expiresAt earlier call outcome ∧
        AsSpecified rt svc email code expiresAt (outcome :: earlier) rest

/-- Every call made while the challenge is open, that is before its expiry, after fewer than
    `max_attempts` wrong submissions and before a right one, compares ASCII addresses; `wrong` is
    the number of wrong submissions so far. -/
def AsciiWhileOpen (rt : Runtime) (svc : OtpService) (email code : String) (expiresAt : ℤ) :
    ℕ → List VerifyCall → Prop
  | _, [] => True
  | wrong, call :: calls =>
      wrong < svc.maxAttempts → call.checkAt.whole < expiresAt →
        (isAscii (rt.normalizeEmail email) = true ∧
          isAscii (rt.normalizeEmail call.email) = true) ∧
        (¬ call.IsRight rt email code →
          AsciiWhileOpen rt svc email code expiresAt (wrong + 1) calls)

/-- The attempts counted on the challenge after these outcomes, when it still is there. -/
def counted (svc : OtpService) (earlier : List VerifyOutcome) : Option ℕ :=
  if .returned ∉ earlier ∧ failures earlier < svc.maxAttempts then some (failures earlier) else none

theorem counted_eq_some {earlier : List VerifyOutcome} {n : ℕ} :
    counted svc earlier = some n ↔
      .returned ∉ earlier ∧ failures earlier < svc.maxAttempts ∧ failures earlier = n := by
  unfold counted
  split_ifs with hopen
  · rw [Option.some.injEq]
    exact ⟨fun h => ⟨hopen.1, hopen.2, h⟩, fun h => h.2.2⟩
  · exact ⟨fun h => absurd h (by simp), fun h => absurd ⟨h.1, h.2.1⟩ hopen⟩

theorem counted_eq_none {earlier : List VerifyOutcome} :
    counted svc earlier = none ↔ ¬ (.returned ∉ earlier ∧ failures earlier < svc.maxAttempts) := by
  unfold counted
  split_ifs with hopen
  · exact iff_of_false (by simp) (not_not_intro hopen)
  · exact iff_of_true rfl hopen

@[simp] theorem failures_cons_otpInvalid (earlier : List VerifyOutcome) :
    failures (.otpInvalid :: earlier) = failures earlier + 1 := by
  unfold failures
  rw [List.countP_cons_of_pos (by decide)]

/-- What is closed stays closed. -/
theorem counted_cons_of_none {earlier : List VerifyOutcome} {outcome : VerifyOutcome}
    (h : counted svc earlier = none) : counted svc (outcome :: earlier) = none := by
  rw [counted_eq_none] at h ⊢
  rintro ⟨hreturned, hlt⟩
  refine h ⟨fun hmem => hreturned (List.mem_cons_of_mem _ hmem), lt_of_le_of_lt ?_ hlt⟩
  unfold failures
  rw [List.countP_cons]
  exact Nat.le_add_right ..

/-- A failed call counts one attempt, until the limit. -/
theorem counted_cons_otpInvalid {earlier : List VerifyOutcome} {n : ℕ}
    (h : counted svc earlier = some n) :
    counted svc (.otpInvalid :: earlier) =
      if n + 1 < svc.maxAttempts then some (n + 1) else none := by
  obtain ⟨hreturned, -, rfl⟩ := counted_eq_some.mp h
  have hmem : VerifyOutcome.returned ∉ VerifyOutcome.otpInvalid :: earlier := by
    simp [hreturned]
  unfold counted
  simp only [failures_cons_otpInvalid, hmem, not_false_eq_true, true_and]

/-! ### What the stores show -/

/-- From `now` on, lookups before the expiry find the challenge with `attempts` counted, or do not
    find it; a later one finds at most a record that has expired. -/
structure TracksChallenge (rt : Runtime) (svc : OtpService) (challengeId email code : String)
    (expiresAt : ℤ) (now : Instant) (st : OtpStores) (attempts : Option ℕ) : Prop where
  live : ∀ t : Instant, now.seconds ≤ t.seconds → t.whole < expiresAt →
    st.find? svc t (storeKey svc .login challengeId) =
      attempts.map fun n => storedLogin rt svc challengeId email code expiresAt n
  dated : ∀ (t : Instant) (r : Record), now.seconds ≤ t.seconds →
    st.find? svc t (storeKey svc .login challengeId) = some r → r.expiresAt = .num expiresAt

variable {now now' : Instant} {st st' : OtpStores} {attempts attempts' : Option ℕ} {n : ℕ}

theorem TracksChallenge.later
    (h : TracksChallenge rt svc challengeId email code expiresAt now st attempts)
    (hle : now.seconds ≤ now'.seconds) :
    TracksChallenge rt svc challengeId email code expiresAt now' st attempts :=
  ⟨fun t ht => h.live t (hle.trans ht), fun t r ht => h.dated t r (hle.trans ht)⟩

theorem TracksChallenge.keeps
    (h : TracksChallenge rt svc challengeId email code expiresAt now st attempts)
    (hkeeps : st.Keeps svc (storeKey svc .login challengeId) now st') :
    TracksChallenge rt svc challengeId email code expiresAt now st' attempts :=
  ⟨fun t ht hlive => (hkeeps t ht).trans (h.live t ht hlive),
    fun t r ht hfound => h.dated t r ht ((hkeeps t ht).symm.trans hfound)⟩

/-- After the expiry nothing depends on the attempts. -/
theorem TracksChallenge.of_expired
    (h : TracksChallenge rt svc challengeId email code expiresAt now st attempts)
    (hexpired : expiresAt ≤ now.whole) :
    TracksChallenge rt svc challengeId email code expiresAt now st attempts' :=
  ⟨fun _ ht hlive => absurd (hexpired.trans (Instant.whole_mono ht)) (not_le.mpr hlive), h.dated⟩

theorem tracksChallenge_delete :
    TracksChallenge rt svc challengeId email code expiresAt now
      (st.delete svc .login challengeId) none :=
  ⟨fun _ _ _ => find?_delete_self,
    fun _ _ _ hfound => absurd (find?_delete_self.symm.trans hfound) (by simp)⟩

/-- A saved record is tracked when Redis keeps it until its expiry at least. -/
theorem tracksChallenge_save {ttlSeconds : ℤ}
    (hkeep : (expiresAt : ℚ) ≤ now.seconds + (max ttlSeconds 1 : ℤ)) :
    TracksChallenge rt svc challengeId email code expiresAt now
      (st.save svc now .login challengeId
        (storedLogin rt svc challengeId email code expiresAt n) ttlSeconds) (some n) := by
  refine ⟨fun t _ hlive => find?_save_self rfl hlive hkeep, fun t r _ hfound => ?_⟩
  have hrecord := recordAt_of_find? hfound
  rw [recordAt_save_self, Option.some.injEq] at hrecord
  rw [← hrecord]
  rfl

/-- `start` leaves the challenge with no attempt counted. -/
theorem tracksChallenge_start {c c' : Config LoginState LoginEvent} {startAt : Instant}
    (hstart : (loginSystem rt svc).next c (.start challengeId email code startAt) = some c') :
    isOtpCode code = true ∧
      TracksChallenge rt svc challengeId email code (startAt.whole + svc.ttlSeconds)
      c'.state.otp.now c'.state.otp.stores (counted svc []) := by
  obtain ⟨es, hstep, -⟩ := (loginSystem rt svc).next_eq_some.mp hstart
  obtain ⟨hcode, hcreate, -, -⟩ := loginStep_start hstep
  obtain ⟨-, -, hle, hotp⟩ := create_eq_some.mp hcreate
  refine ⟨hcode, ?_⟩
  have hcounted : counted svc [] = some 0 :=
    counted_eq_some.mpr ⟨by simp, svc.attempts_ge, rfl⟩
  rw [hcounted, hotp, loginRecord_eq_storedLogin]
  refine tracksChallenge_save ?_
  have hwhole := startAt.whole_le
  have hmax : ((svc.ttlSeconds : ℤ) : ℚ) ≤ (max (svc.ttlSeconds : ℤ) 1 : ℤ) := by
    exact_mod_cast le_max_left _ _
  push_cast at hmax ⊢
  linarith

/-! ### What one call does to it -/

variable {call : VerifyCall}

/-- With a collision-free HMAC the comparison of `verify` is whether the call is right. -/
theorem isRight_iff (hmac : HmacCollisionFree rt svc.hmacSecret) (hcode : isOtpCode code = true)
    (hfield : isCodeField rt call.code = true) :
    rt.normalizeEmail email = rt.normalizeEmail call.email ∧
        codeDigest rt svc challengeId code = codeDigest rt svc challengeId call.code ↔
      call.IsRight rt email code := by
  have hlen : code.length = call.code.length :=
    (isOtpCode_length hcode).trans (isCodeField_length hfield).symm
  unfold VerifyCall.IsRight
  constructor
  · rintro ⟨hemail, hdigest⟩
    exact ⟨hemail.symm, (codeDigest_inj hmac hlen hdigest).2.symm⟩
  · rintro ⟨hemail, heq⟩
    exact ⟨hemail.symm, by rw [heq]⟩

/-- A record that has expired is rejected. -/
theorem decideVerify_of_expired {t : ℤ} {email' code' : String} {r : Record}
    (hdate : r.expiresAt = .num expiresAt) (hexpired : expiresAt ≤ t) :
    decideVerify rt svc t challengeId email' code' r = .reject := by
  unfold decideVerify
  cases hc : r.checked? with
  | none => rfl
  | some chk =>
    have hchk := (Record.checked?_eq_some.mp hc).2.1
    rw [hdate] at hchk
    obtain rfl := Option.some.inj hchk
    exact if_pos (Or.inl hexpired)

/-- What is decided on a live record below the limit. -/
theorem decideVerify_storedLogin {t : ℤ} {email' code' : String} (hlive : t < expiresAt)
    (hlt : n < svc.maxAttempts) :
    decideVerify rt svc t challengeId email' code'
        (storedLogin rt svc challengeId email code expiresAt n) =
      if ¬ (isAscii (rt.normalizeEmail email) = true ∧
          isAscii (rt.normalizeEmail email') = true) then .typeError
      else if rt.normalizeEmail email = rt.normalizeEmail email' ∧
          codeDigest rt svc challengeId code = codeDigest rt svc challengeId code' then .accept
      else if n + 1 < svc.maxAttempts then
        .resave (storedLogin rt svc challengeId email code expiresAt (n + 1 : ℕ))
          (max (expiresAt - t) 1)
      else .lockOut := by
  have hopen : ¬ (expiresAt ≤ t ∨ (svc.maxAttempts : ℤ) ≤ n) := by omega
  unfold decideVerify
  simp only [storedLogin_checked?, if_neg hopen]
  have hlimit : (svc.maxAttempts : ℤ) ≤ n + 1 ↔ ¬ n + 1 < svc.maxAttempts := by omega
  simp only [hlimit, ite_not]
  rfl

/-- A call on a challenge that is closed fails, and leaves it closed. -/
theorem TracksChallenge.closed_call
    (h : TracksChallenge rt svc challengeId email code expiresAt now st attempts)
    (hle : now.seconds ≤ call.loadAt.seconds)
    (hclosed : attempts = none ∨ expiresAt ≤ call.checkAt.whole) :
    (st.verify rt svc challengeId call).1 = .otpInvalid ∧
      ∀ attempts', (attempts' = none ∨ expiresAt ≤ call.checkAt.whole →
        TracksChallenge rt svc challengeId email code expiresAt call.writeAt
          (st.verify rt svc challengeId call).2 attempts') := by
  have hwrite := Instant.whole_mono call.check_le
  cases hload : (st.load svc call.loadAt .login challengeId).1 with
  | none =>
    rw [verify_of_load_none hload]
    have hkept : TracksChallenge rt svc challengeId email code expiresAt call.writeAt
        (st.load svc call.loadAt .login challengeId).2 attempts :=
      ((h.later hle).keeps (keeps_load _)).later (call.load_le.trans call.check_le)
    refine ⟨rfl, fun attempts' hclosed' => ?_⟩
    by_cases hexpired : expiresAt ≤ call.checkAt.whole
    · exact hkept.of_expired (hexpired.trans hwrite)
    · rw [hclosed'.resolve_right hexpired, ← hclosed.resolve_right hexpired]
      exact hkept
  | some r =>
    have hfound := (load_eq_find? st svc call.loadAt .login challengeId).symm.trans hload
    have hdate := h.dated call.loadAt r hle hfound
    -- a challenge that is gone is found by no lookup before the expiry
    have hexpired : expiresAt ≤ call.checkAt.whole := by
      rcases hclosed with rfl | hexpired
      · by_contra hlive
        have hload_live := lt_of_le_of_lt (Instant.whole_mono call.load_le) (not_le.mp hlive)
        exact absurd (hfound.symm.trans (h.live call.loadAt hle hload_live)) (by simp)
      · exact hexpired
    have hreject : decideVerify rt svc call.checkAt.whole challengeId call.email call.code r =
        .reject := decideVerify_of_expired hdate hexpired
    rw [verify_of_decided hload hreject (by simp)]
    exact ⟨rfl, fun _ _ => tracksChallenge_delete.of_expired (hexpired.trans hwrite)⟩

/-- A call on an open challenge loads its record. -/
theorem TracksChallenge.loads
    (h : TracksChallenge rt svc challengeId email code expiresAt now st (some n))
    (hle : now.seconds ≤ call.loadAt.seconds) (hlive : call.checkAt.whole < expiresAt) :
    (st.load svc call.loadAt .login challengeId).1 =
      some (storedLogin rt svc challengeId email code expiresAt n) := by
  rw [load_eq_find?]
  exact h.live call.loadAt hle (lt_of_le_of_lt (Instant.whole_mono call.load_le) hlive)

/-- A call on an open challenge that compares an address beyond ASCII raises the `TypeError`. -/
theorem TracksChallenge.typeError_call
    (h : TracksChallenge rt svc challengeId email code expiresAt now st (some n))
    (hlt : n < svc.maxAttempts) (hle : now.seconds ≤ call.loadAt.seconds)
    (hlive : call.checkAt.whole < expiresAt)
    (hascii : ¬ (isAscii (rt.normalizeEmail email) = true ∧
      isAscii (rt.normalizeEmail call.email) = true)) :
    (st.verify rt svc challengeId call).1 = .typeError := by
  have hd : decideVerify rt svc call.checkAt.whole challengeId call.email call.code
      (storedLogin rt svc challengeId email code expiresAt n) = _ :=
    decideVerify_storedLogin hlive hlt
  rw [if_pos hascii] at hd
  rw [verify_of_typeError (h.loads hle hlive) hd]

/-- A call on an open challenge that compares ASCII addresses returns exactly when it is right; a
    wrong one counts. -/
theorem TracksChallenge.open_call (hmac : HmacCollisionFree rt svc.hmacSecret)
    (hcode : isOtpCode code = true) (hfield : isCodeField rt call.code = true)
    (h : TracksChallenge rt svc challengeId email code expiresAt now st (some n))
    (hlt : n < svc.maxAttempts) (hle : now.seconds ≤ call.loadAt.seconds)
    (hlive : call.checkAt.whole < expiresAt)
    (hascii : isAscii (rt.normalizeEmail email) = true ∧
      isAscii (rt.normalizeEmail call.email) = true) :
    (st.verify rt svc challengeId call).1 =
        (if call.IsRight rt email code then .returned else .otpInvalid) ∧
      TracksChallenge rt svc challengeId email code expiresAt call.writeAt
        (st.verify rt svc challengeId call).2
        (if call.IsRight rt email code then none
          else if n + 1 < svc.maxAttempts then some (n + 1) else none) := by
  have hload := h.loads hle hlive
  have hd : decideVerify rt svc call.checkAt.whole challengeId call.email call.code
      (storedLogin rt svc challengeId email code expiresAt n) = _ :=
    decideVerify_storedLogin hlive hlt
  simp only [if_neg (not_not_intro hascii), isRight_iff hmac hcode hfield] at hd
  split_ifs at hd ⊢ with hright hbelow
  · rw [verify_of_decided hload hd (by simp)]
    exact ⟨rfl, tracksChallenge_delete⟩
  · rw [verify_of_decided hload hd (by simp)]
    refine ⟨rfl, tracksChallenge_save ?_⟩
    -- the fresh time to live reaches the expiry again
    have hwhole := call.checkAt.whole_le
    have hmax : ((expiresAt - call.checkAt.whole : ℤ) : ℚ) ≤
        (max (max (expiresAt - call.checkAt.whole) 1) 1 : ℤ) := by
      exact_mod_cast (le_max_left _ _).trans (le_max_left _ _)
    have hle' := call.check_le
    push_cast at hmax ⊢
    linarith
  · rw [verify_of_decided hload hd (by simp)]
    exact ⟨rfl, tracksChallenge_delete⟩

/-! ### The sequence -/

variable {earlier : List VerifyOutcome} {calls : List VerifyCall}

/-- A call on a closed challenge answers as specified, and the challenge stays closed. -/
theorem TracksChallenge.answers_closed
    (h : TracksChallenge rt svc challengeId email code expiresAt now st (counted svc earlier))
    (hle : now.seconds ≤ call.loadAt.seconds)
    (hclosed : counted svc earlier = none ∨ expiresAt ≤ call.checkAt.whole) :
    AnswersRight rt svc email code expiresAt earlier call
        (st.verify rt svc challengeId call).1 ∧
      (counted svc ((st.verify rt svc challengeId call).1 :: earlier) = none ∨
        expiresAt ≤ call.writeAt.whole) ∧
      TracksChallenge rt svc challengeId email code expiresAt call.writeAt
        (st.verify rt svc challengeId call).2
        (counted svc ((st.verify rt svc challengeId call).1 :: earlier)) := by
  obtain ⟨hinvalid, htracks⟩ := h.closed_call hle hclosed
  refine ⟨⟨iff_of_false ?_ ?_, fun _ => hinvalid⟩, ?_, htracks _ ?_⟩
  · rw [hinvalid]
    decide
  · rintro ⟨-, hlive, hopen⟩
    exact hclosed.elim (fun hnone => counted_eq_none.mp hnone hopen) (not_le.mpr hlive)
  · exact hclosed.imp counted_cons_of_none fun hexpired =>
      hexpired.trans (Instant.whole_mono call.check_le)
  · exact hclosed.imp_left counted_cons_of_none

/-- Once the challenge is closed every call answers as specified. -/
theorem specified_of_closed (horder : OneByOne now calls)
    (h : TracksChallenge rt svc challengeId email code expiresAt now st (counted svc earlier))
    (hclosed : counted svc earlier = none ∨ expiresAt ≤ now.whole) :
    AsSpecified rt svc email code expiresAt earlier (verifyAll rt svc challengeId st calls) := by
  induction calls generalizing now st earlier with
  | nil => trivial
  | cons call calls ih =>
    obtain ⟨hle, hrest⟩ := horder
    have hstart := Instant.whole_mono (hle.trans call.load_le)
    obtain ⟨hanswers, hclosed', htracks⟩ := h.answers_closed hle (hclosed.imp_right hstart.trans')
    exact ⟨hanswers, ih hrest htracks hclosed'⟩

/-- Past the limit nothing is asked of the addresses. -/
theorem asciiWhileOpen_of_le (hle : svc.maxAttempts ≤ n) (calls : List VerifyCall) :
    AsciiWhileOpen rt svc email code expiresAt n calls := by
  cases calls with
  | nil => trivial
  | cons call calls => exact fun hlt => absurd hle (not_le.mpr hlt)

/-- **Run of the specification.** From an open challenge on, the calls answer as specified exactly
    when those made while it is open compare ASCII addresses. -/
theorem specified_iff (hmac : HmacCollisionFree rt svc.hmacSecret) (hcode : isOtpCode code = true)
    (hfields : ∀ call ∈ calls, isCodeField rt call.code = true) (horder : OneByOne now calls)
    (hopen : counted svc earlier = some n)
    (h : TracksChallenge rt svc challengeId email code expiresAt now st (counted svc earlier)) :
    AsSpecified rt svc email code expiresAt earlier (verifyAll rt svc challengeId st calls) ↔
      AsciiWhileOpen rt svc email code expiresAt n calls := by
  induction calls generalizing now st earlier n with
  | nil => exact Iff.rfl
  | cons call calls ih =>
    obtain ⟨hle, hrest⟩ := horder
    have hfield := hfields call List.mem_cons_self
    have hfields' : ∀ call ∈ calls, isCodeField rt call.code = true := fun call' hmem =>
      hfields call' (List.mem_cons_of_mem _ hmem)
    obtain ⟨hreturned, hbelow, hn⟩ := counted_eq_some.mp hopen
    rcases le_or_gt expiresAt call.checkAt.whole with hexpired | hlive
    · -- too late: the challenge is closed from here on
      obtain ⟨hanswers, hclosed, htracks⟩ := h.answers_closed hle (Or.inr hexpired)
      refine iff_of_true ⟨hanswers, specified_of_closed hrest htracks hclosed⟩ ?_
      exact fun _ hlive => absurd hexpired (not_le.mpr hlive)
    have hopen' := hopen ▸ h
    have hlt : n < svc.maxAttempts := hn ▸ hbelow
    by_cases hascii : isAscii (rt.normalizeEmail email) = true ∧
        isAscii (rt.normalizeEmail call.email) = true
    · obtain ⟨houtcome, htracks⟩ := hopen'.open_call hmac hcode hfield hlt hle hlive hascii
      by_cases hright : call.IsRight rt email code
      · -- the right submission closes the challenge
        rw [if_pos hright] at houtcome htracks
        have hclosed : counted svc (.returned :: earlier) = none :=
          counted_eq_none.mpr fun hnone => hnone.1 List.mem_cons_self
        refine iff_of_true ⟨⟨?_, ?_⟩, ?_⟩ fun _ _ => ⟨hascii, fun hwrong => absurd hright hwrong⟩
        · exact iff_of_true houtcome ⟨hright, hlive, hreturned, hbelow⟩
        · exact fun hne => absurd houtcome hne
        · rw [houtcome]
          exact specified_of_closed hrest (by rwa [hclosed]) (Or.inl hclosed)
      · -- a wrong one counts
        rw [if_neg hright] at houtcome htracks
        have hanswers : AnswersRight rt svc email code expiresAt earlier call
            (st.verify rt svc challengeId call).1 :=
          ⟨iff_of_false (by rw [houtcome]; decide) fun hspec => hright hspec.1, fun _ => houtcome⟩
        have hcounted := counted_cons_otpInvalid hopen
        -- the challenge stays open for the rest, or this was the last attempt
        have hgoal : AsSpecified rt svc email code expiresAt (.otpInvalid :: earlier)
              (verifyAll rt svc challengeId (st.verify rt svc challengeId call).2 calls) ↔
            AsciiWhileOpen rt svc email code expiresAt (n + 1) calls := by
          split_ifs at hcounted htracks with hnext
          · exact ih hfields' hrest hcounted (by rwa [hcounted])
          · exact iff_of_true (specified_of_closed hrest (by rwa [hcounted]) (Or.inl hcounted))
              (asciiWhileOpen_of_le (not_lt.mp hnext) calls)
        constructor
        · rintro ⟨-, hspec⟩
          rw [houtcome] at hspec
          exact fun _ _ => ⟨hascii, fun _ => hgoal.mp hspec⟩
        · intro hspec
          refine ⟨hanswers, ?_⟩
          rw [houtcome]
          exact hgoal.mpr ((hspec hlt hlive).2 hright)
    · -- the `TypeError` is no answer of the specification
      have htype := hopen'.typeError_call hlt hle hlive hascii
      refine iff_of_false ?_ fun hspec => hascii (hspec hlt hlive).1
      rintro ⟨hanswers, -⟩
      have hgeneric := hanswers.generic (by rw [htype]; decide)
      rw [htype] at hgeneric
      exact absurd hgeneric (by decide)

/-- **Sequential specification.** For a challenge `start` created and any sequence of verifications
    of it, one after another: a call returns exactly if its e-mail and code are those of the
    challenge, it has not expired, no earlier call returned and fewer than `max_attempts` failed,
    and every other call raises `EmailOtpInvalidError`; provided, and only if, every call made while
    the challenge is open compares ASCII addresses. -/
theorem verify_as_specified_iff (hmac : HmacCollisionFree rt svc.hmacSecret)
    {c c' : Config LoginState LoginEvent} {startAt : Instant}
    (hstart : (loginSystem rt svc).next c (.start challengeId email code startAt) = some c')
    (hfields : ∀ call ∈ calls, isCodeField rt call.code = true)
    (horder : OneByOne c'.state.otp.now calls) :
    AsSpecified rt svc email code (startAt.whole + svc.ttlSeconds) []
        (verifyAll rt svc challengeId c'.state.otp.stores calls) ↔
      AsciiWhileOpen rt svc email code (startAt.whole + svc.ttlSeconds) 0 calls := by
  obtain ⟨hcode, htracks⟩ := tracksChallenge_start hstart
  exact specified_iff hmac hcode hfields horder
    (counted_eq_some.mpr ⟨by simp, svc.attempts_ge, rfl⟩) htracks

/-- A submission all at one time. -/
def sampleCall (email code : String) : VerifyCall :=
  ⟨email, code, sampleNow, sampleNow, sampleNow, le_rfl, le_rfl⟩

/-- A wrong code, then the right one, twice. -/
theorem verify_as_specified_sample :
    ∃ c', (loginSystem .sample (.sample true)).next (Config.start (LoginState.init sampleNow))
        (.start sampleToken "ana@ouros.app" "123456" sampleNow) = some c' ∧
      AsSpecified .sample (.sample true) "ana@ouros.app" "123456" (sampleNow.whole + 300) []
        (verifyAll .sample (.sample true) sampleToken c'.state.otp.stores
          [sampleCall "ana@ouros.app" "000000", sampleCall "ana@ouros.app" "123456",
            sampleCall "ana@ouros.app" "123456"]) := by
  obtain ⟨c', hstart, hnow⟩ := Option.map_eq_some_iff.mp
    (by decide +kernel :
      ((loginSystem .sample (.sample true)).next (Config.start (LoginState.init sampleNow))
        (.start sampleToken "ana@ouros.app" "123456" sampleNow)).map (fun c' => c'.state.otp.now) =
          some sampleNow)
  have horder : OneByOne c'.state.otp.now
      [sampleCall "ana@ouros.app" "000000", sampleCall "ana@ouros.app" "123456",
        sampleCall "ana@ouros.app" "123456"] := by
    rw [hnow]
    exact ⟨le_rfl, le_rfl, le_rfl, trivial⟩
  have hascii : AsciiWhileOpen .sample (.sample true) "ana@ouros.app" "123456"
      (sampleNow.whole + 300) 0
      [sampleCall "ana@ouros.app" "000000", sampleCall "ana@ouros.app" "123456",
        sampleCall "ana@ouros.app" "123456"] :=
    fun _ _ => ⟨by decide, fun _ _ _ => ⟨by decide, fun hwrong => absurd (by decide) hwrong⟩⟩
  exact ⟨c', hstart, (verify_as_specified_iff (sample_hmacCollisionFree _) hstart
    (by decide +kernel) horder).mpr hascii⟩

/-- **An address beyond ASCII.** The validator accepts `"aná@ouros.app"`; its owner submits the
    right code in time, and `verify` raises the `TypeError` of `hmac.compare_digest`. -/
theorem non_ascii_address_raises :
    emailField .sample "aná@ouros.app" = some "aná@ouros.app" ∧
    ∃ c', (loginSystem .sample (.sample true)).next (Config.start (LoginState.init sampleNow))
        (.start sampleToken "aná@ouros.app" "123456" sampleNow) = some c' ∧
      verifyAll .sample (.sample true) sampleToken c'.state.otp.stores
        [sampleCall "aná@ouros.app" "123456"] =
          [(sampleCall "aná@ouros.app" "123456", .typeError)] ∧
      ¬ AsSpecified .sample (.sample true) "aná@ouros.app" "123456" (sampleNow.whole + 300) []
        (verifyAll .sample (.sample true) sampleToken c'.state.otp.stores
          [sampleCall "aná@ouros.app" "123456"]) := by
  obtain ⟨c', hstart, houtcome⟩ := Option.map_eq_some_iff.mp
    (by decide +kernel :
      ((loginSystem .sample (.sample true)).next (Config.start (LoginState.init sampleNow))
        (.start sampleToken "aná@ouros.app" "123456" sampleNow)).map (fun c' =>
          (c'.state.otp.stores.verify .sample (.sample true) sampleToken
            (sampleCall "aná@ouros.app" "123456")).1) = some .typeError)
  have hall : verifyAll .sample (.sample true) sampleToken c'.state.otp.stores
      [sampleCall "aná@ouros.app" "123456"] =
        [(sampleCall "aná@ouros.app" "123456", .typeError)] := by
    rw [verifyAll, houtcome]
    rfl
  refine ⟨by decide +kernel, c', hstart, hall, ?_⟩
  rw [hall]
  rintro ⟨hanswers, -⟩
  exact absurd (hanswers.generic (by decide)) (by decide)

end OurosAuth
