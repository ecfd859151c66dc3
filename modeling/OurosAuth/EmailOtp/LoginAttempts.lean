import OurosAuth.EmailOtp.Login

namespace OurosAuth

open Traced

/-!
# Is the attempt limit of a native-login challenge kept?

`verify` reads the attempts counter with the record, adds one in the process and writes the
record back, so a failed attempt is counted only if nothing comes between.

* `Limited` — at most `max_attempts` submissions were compared and failed, and a stored record
  counts them all when none is waiting to be written back;
* `login_attempt_limit` — every run in which calls compare only with the record that is in the
  store, while no other failed comparison is waiting (`ComparesFresh`), keeps every challenge
  limited;
* `login_limit_overrun` — a run without that condition with one failed comparison too many.
-/

variable {rt : Runtime} {svc : OtpService}

/-! ### The condition and the invariant -/

/-- The challenge and the decision of a failed comparison that is not written back yet. -/
def LoginCall.pending : LoginCall → Option (String × VerifyDecision)
  | .decided challengeId _ _ _ d => if d.isWrong then some (challengeId, d) else none
  | _ => none

/-- The challenge a failed comparison is waiting to be written back to. -/
def LoginCall.failedOn (call : LoginCall) : Option String := call.pending.map Prod.fst

/-- The challenge and the record a call is about to compare its submission with. -/
def LoginCall.comparesWith : LoginCall → Option (String × Record)
  | .loaded challengeId _ _ r => some (challengeId, r)
  | _ => none

/-- A call compares only with the record that is in the store, while no failed comparison of
    another call on the challenge is waiting to be written back. -/
def ComparesFresh (svc : OtpService) (c : Config LoginState LoginEvent) : LoginLabel → Prop
  | .check i => ∀ x ∈ (c.state.calls i).comparesWith,
      c.state.otp.stores.record? svc .login x.1 = some x.2 ∧
      ∀ j ∈ submittersOf x.1 c.history, (c.state.calls j).failedOn ≠ some x.1
  | _ => True

instance (svc : OtpService) (c : Config LoginState LoginEvent) :
    ∀ l, Decidable (ComparesFresh svc c l)
  | .check i => inferInstanceAs (Decidable (∀ x ∈ (c.state.calls i).comparesWith,
      c.state.otp.stores.record? svc .login x.1 = some x.2 ∧
      ∀ j ∈ submittersOf x.1 c.history, (c.state.calls j).failedOn ≠ some x.1))
  | .tick _ | .start .. | .delivered .. | .load .. | .write _ | .grant _ => isTrue trivial

/-- The number of failed comparisons with a challenge. -/
def wrongCount (challengeId : String) (h : List LoginEvent) : ℕ := (wrongOf challengeId h).length

/-- What the attempt limit rests on. -/
structure AttemptCount (svc : OtpService) (c : Config LoginState LoginEvent) : Prop where
  window_submitter : ∀ i challengeId, (c.state.calls i).inWindow challengeId →
    i ∈ submittersOf challengeId c.history
  wrong_issued : ∀ challengeId, wrongCount challengeId c.history ≠ 0 →
    challengeId ∈ c.state.otp.issued
  wrong_le : ∀ challengeId, wrongCount challengeId c.history ≤ svc.maxAttempts
  stored_count : ∀ challengeId r, c.state.otp.stores.record? svc .login challengeId = some r →
    r.attempts = .num (wrongCount challengeId c.history) ∨
      ∃ i, (c.state.calls i).failedOn = some challengeId
  resave_count : ∀ i challengeId r ttlSeconds,
    (c.state.calls i).pending = some (challengeId, .resave r ttlSeconds) →
    r.attempts = .num (wrongCount challengeId c.history)
  failed_unique : ∀ i j challengeId, (c.state.calls i).failedOn = some challengeId →
    (c.state.calls j).failedOn = some challengeId → i = j

theorem attemptCount_init (now : Instant) :
    AttemptCount svc (Config.start (LoginState.init now)) where
  window_submitter := by simp [LoginState.init, LoginCall.inWindow]
  wrong_issued := by simp [wrongCount, wrongOf]
  wrong_le := by simp [wrongCount, wrongOf]
  stored_count := by
    intro challengeId r h
    simp [LoginState.init, OtpState.init, OtpStores.record?] at h
  resave_count := by simp [LoginState.init, LoginCall.pending]
  failed_unique := by simp [LoginState.init, LoginCall.failedOn, LoginCall.pending]

/-- A failed comparison keeps its call in the window. -/
theorem inWindow_of_failedOn {call : LoginCall} {challengeId : String}
    (h : call.failedOn = some challengeId) : call.inWindow challengeId := by
  cases call
  case decided challengeId' email code r d =>
    simp only [LoginCall.failedOn, LoginCall.pending] at h
    split at h
    · simpa [LoginCall.inWindow] using h
    · exact absurd h (by simp)
  all_goals exact absurd h (by simp [LoginCall.failedOn, LoginCall.pending])

/-! ### What each step keeps -/

/-- A step that adds no record, compares nothing and moves no waiting call keeps the invariant. -/
theorem AttemptCount.frame {c c' : Config LoginState LoginEvent} (hinv : AttemptCount svc c)
    (hwindow : ∀ i challengeId, (c'.state.calls i).inWindow challengeId →
      i ∈ submittersOf challengeId c'.history)
    (hissued : ∀ challengeId ∈ c.state.otp.issued, challengeId ∈ c'.state.otp.issued)
    (hstore : ∀ challengeId r, c'.state.otp.stores.record? svc .login challengeId = some r →
      c.state.otp.stores.record? svc .login challengeId = some r)
    (hpending : ∀ i, (c'.state.calls i).pending = (c.state.calls i).pending)
    (hwrong : ∀ challengeId, wrongOf challengeId c'.history = wrongOf challengeId c.history) :
    AttemptCount svc c' where
  window_submitter := hwindow
  wrong_issued challengeId h := by
    rw [wrongCount, hwrong] at h
    exact hissued challengeId (hinv.wrong_issued challengeId h)
  wrong_le challengeId := by
    rw [wrongCount, hwrong]
    exact hinv.wrong_le challengeId
  stored_count challengeId r h := by
    simp only [wrongCount, hwrong, LoginCall.failedOn, hpending]
    exact hinv.stored_count challengeId r (hstore challengeId r h)
  resave_count i challengeId r ttlSeconds h := by
    rw [hpending] at h
    rw [wrongCount, hwrong]
    exact hinv.resave_count i challengeId r ttlSeconds h
  failed_unique i j challengeId hi hj := by
    simp only [LoginCall.failedOn, hpending] at hi hj
    exact hinv.failed_unique i j challengeId hi hj

/-- Moving a call that is not waiting, to a call that is not waiting, leaves the waiting calls. -/
theorem pending_setCall {s : LoginState} {i : ℕ} {call : LoginCall}
    (hold : (s.calls i).pending = none) (hnew : call.pending = none) (j : ℕ) :
    ((s.setCall i call).calls j).pending = (s.calls j).pending := by
  by_cases hj : j = i
  · subst hj
    rw [setCall_calls_self, hnew, hold]
  · rw [setCall_calls_ne _ _ hj]

/-- A call that waits for nothing before and after its move, and comes into a window by submitting,
    keeps the invariant. -/
theorem AttemptCount.move {c c' : Config LoginState LoginEvent} {i : ℕ} {call : LoginCall}
    {stores : OtpStores} (hinv : AttemptCount svc c) (hold : (c.state.calls i).pending = none)
    (hnew : call.pending = none) (hs : c'.state = (c.state.setStores stores).setCall i call)
    (hstore : ∀ challengeId r, stores.record? svc .login challengeId = some r →
      c.state.otp.stores.record? svc .login challengeId = some r)
    (hcall : ∀ challengeId, call.inWindow challengeId → i ∈ submittersOf challengeId c'.history)
    (hsubmitters : ∀ challengeId,
      submittersOf challengeId c.history ⊆ submittersOf challengeId c'.history)
    (hwrong : ∀ challengeId, wrongOf challengeId c'.history = wrongOf challengeId c.history) :
    AttemptCount svc c' := by
  refine hinv.frame (fun j a h => ?_) (by simp [hs]) (fun a r h => ?_) (fun j => ?_) hwrong
  · rw [hs] at h
    by_cases hj : j = i
    · subst hj
      rw [setCall_calls_self] at h
      exact hcall a h
    · rw [setCall_calls_ne _ _ hj] at h
      exact hsubmitters a (hinv.window_submitter j a h)
  · rw [hs] at h
    exact hstore a r h
  · rw [hs]
    exact pending_setCall (s := c.state.setStores _) hold hnew j

/-- Calls in a window stay submitters when one call moves within its window or out of it. -/
theorem AttemptCount.submitter_setCall {c : Config LoginState LoginEvent} {s : LoginState} {i j : ℕ}
    {call : LoginCall} {challengeId : String} (hinv : AttemptCount svc c)
    (hcalls : s.calls = c.state.calls)
    (hcall : ∀ a, call.inWindow a → (c.state.calls i).inWindow a)
    (h : ((s.setCall i call).calls j).inWindow challengeId) :
    j ∈ submittersOf challengeId c.history := by
  by_cases hj : j = i
  · subst hj
    rw [setCall_calls_self] at h
    exact hinv.window_submitter j challengeId (hcall challengeId h)
  · rw [setCall_calls_ne _ _ hj, hcalls] at h
    exact hinv.window_submitter j challengeId h

/-- A new challenge starts at zero attempts, and nothing was compared with it before. -/
theorem AttemptCount.start {c c' : Config LoginState LoginEvent}
    {challengeId email code : String} {readAt : Instant} {now : ℤ}
    (hinv : AttemptCount svc c)
    (hcreate : c.state.otp.create svc .login challengeId readAt
      (loginRecord rt svc challengeId email code now) = some c'.state.otp)
    (hcalls : c'.state.calls = c.state.calls)
    (hsubmitters : ∀ a, submittersOf a c'.history = submittersOf a c.history)
    (hwrong : ∀ a, wrongOf a c'.history = wrongOf a c.history) : AttemptCount svc c' := by
  obtain ⟨-, hnew, -, hotp⟩ := create_eq_some.mp hcreate
  have hissued : c'.state.otp.issued = challengeId :: c.state.otp.issued := by rw [hotp]
  constructor
  case window_submitter =>
    intro i a h
    rw [hcalls] at h
    rw [hsubmitters]
    exact hinv.window_submitter i a h
  case wrong_issued =>
    intro a h
    rw [wrongCount, hwrong] at h
    rw [hissued]
    exact List.mem_cons_of_mem _ (hinv.wrong_issued a h)
  case wrong_le =>
    intro a
    rw [wrongCount, hwrong]
    exact hinv.wrong_le a
  case stored_count =>
    intro a r hr
    by_cases ha : a = challengeId
    · -- the id is new, and only issued ids have been compared
      subst ha
      have hzero : wrongCount a c.history = 0 := by
        by_contra hne
        exact hnew (hinv.wrong_issued a hne)
      have hrec : c'.state.otp.stores.record? svc .login a =
          some (loginRecord rt svc a email code now) := by
        rw [hotp]
        exact recordAt_save_self
      left
      rw [hr, Option.some.injEq] at hrec
      rw [hrec, wrongCount, hwrong, ← wrongCount, hzero]
      rfl
    · rw [wrongCount, hwrong, hcalls]
      exact hinv.stored_count a r (record?_of_create hcreate ha hr)
  case resave_count =>
    intro i a r ttl h
    rw [hcalls] at h
    rw [wrongCount, hwrong]
    exact hinv.resave_count i a r ttl h
  case failed_unique =>
    rw [hcalls]
    exact hinv.failed_unique

/-- A failed comparison with a record that counts `n` attempts stays within the limit. -/
theorem isWrong_count {now : ℤ} {challengeId email code : String} {r : Record} {n : ℕ}
    (hwrong : (decideVerify rt svc now challengeId email code r).isWrong = true)
    (hcount : r.attempts = .num n) :
    n + 1 ≤ svc.maxAttempts ∧
      ∀ r' ttlSeconds, decideVerify rt svc now challengeId email code r = .resave r' ttlSeconds →
        r'.attempts = .num (n + 1 : ℕ) := by
  have hatt : ∀ {k : CheckedRecord}, r.checked? = some k → k.attempts = n := by
    intro k hk
    have h := Record.attempts_of_checked? hk
    rw [hcount] at h
    exact (Option.some.inj h).symm
  cases hd : decideVerify rt svc now challengeId email code r with
  | lockOut =>
    obtain ⟨k, hk, hlt, -⟩ := decideVerify_lockOut hd
    rw [hatt hk] at hlt
    exact ⟨by omega, fun r' ttl h => absurd h (by simp)⟩
  | resave r₁ ttl₁ =>
    obtain ⟨k, hk, hlt, hr₁⟩ := decideVerify_resave hd
    rw [hatt hk] at hlt hr₁
    refine ⟨by omega, fun r' ttl h => ?_⟩
    rw [VerifyDecision.resave.injEq] at h
    rw [← h.1, hr₁]
    simp [Record.withAttempts]
  | reject => rw [hd] at hwrong; exact absurd hwrong (by simp [VerifyDecision.isWrong])
  | typeError => rw [hd] at hwrong; exact absurd hwrong (by simp [VerifyDecision.isWrong])
  | accept => rw [hd] at hwrong; exact absurd hwrong (by simp [VerifyDecision.isWrong])

/-- A failed comparison with the stored record, with none waiting, is the next one counted. -/
theorem AttemptCount.compare {c c' : Config LoginState LoginEvent} {i : ℕ} {now : ℤ}
    {challengeId email code : String} {r : Record} {d : VerifyDecision}
    (hids : IssuedIds svc c.state) (hinv : AttemptCount svc c)
    (hcall : c.state.calls i = .loaded challengeId email code r)
    (hstored : c.state.otp.stores.record? svc .login challengeId = some r)
    (halone : ∀ j ∈ submittersOf challengeId c.history,
      (c.state.calls j).failedOn ≠ some challengeId)
    (hd : decideVerify rt svc now challengeId email code r = d) (hwrong : d.isWrong = true)
    (hs : c'.state = c.state.setCall i (.decided challengeId email code r d))
    (hhist : c'.history = .comparedWrong i challengeId :: c.history) : AttemptCount svc c' := by
  -- no comparison waits, so the stored record counts every one there was
  have hnone : ∀ j, (c.state.calls j).failedOn ≠ some challengeId := fun j hj =>
    halone j (hinv.window_submitter j challengeId (inWindow_of_failedOn hj)) hj
  have hcount : r.attempts = .num (wrongCount challengeId c.history) :=
    (hinv.stored_count challengeId r hstored).resolve_right fun ⟨j, hj⟩ => hnone j hj
  subst hd
  obtain ⟨hle, hresave⟩ := isWrong_count hwrong hcount
  have hself : wrongCount challengeId c'.history = wrongCount challengeId c.history + 1 := by
    simp [wrongCount, wrongOf, hhist]
  have hother : ∀ a, a ≠ challengeId → wrongCount a c'.history = wrongCount a c.history := by
    intro a ha
    simp [wrongCount, wrongOf, hhist, ha.symm]
  have hpending : ∀ j, j ≠ i → (c'.state.calls j).pending = (c.state.calls j).pending := by
    intro j hj
    rw [hs, setCall_calls_ne _ _ hj]
  have hpend : (c'.state.calls i).pending =
      some (challengeId, decideVerify rt svc now challengeId email code r) := by
    rw [hs, setCall_calls_self]
    exact if_pos hwrong
  have hfail : ∀ {j a}, (c'.state.calls j).failedOn = some a →
      (j = i ∧ a = challengeId) ∨ (j ≠ i ∧ a ≠ challengeId ∧
        (c.state.calls j).failedOn = some a) := by
    intro j a h
    by_cases hj : j = i
    · subst hj
      simp only [LoginCall.failedOn, hpend, Option.map_some, Option.some.injEq] at h
      exact Or.inl ⟨rfl, h.symm⟩
    · rw [LoginCall.failedOn, hpending j hj] at h
      refine Or.inr ⟨hj, ?_, h⟩
      rintro rfl
      exact hnone j h
  constructor
  case window_submitter =>
    intro j a h
    have hsub : submittersOf a c'.history = submittersOf a c.history := by
      simp [submittersOf, hhist]
    rw [hsub]
    rw [hs] at h
    exact hinv.submitter_setCall rfl (fun b hb => by rw [hcall]; exact hb) h
  case wrong_issued =>
    intro a h
    rw [hs]
    by_cases ha : a = challengeId
    · exact ha ▸ hids.stored challengeId r hstored
    · rw [hother a ha] at h
      exact hinv.wrong_issued a h
  case wrong_le =>
    intro a
    by_cases ha : a = challengeId
    · rw [ha, hself]
      exact hle
    · rw [hother a ha]
      exact hinv.wrong_le a
  case stored_count =>
    intro a r' hr
    by_cases ha : a = challengeId
    · -- from now on call `i` waits
      exact Or.inr ⟨i, by rw [LoginCall.failedOn, hpend, ha]; rfl⟩
    · rw [hs] at hr
      rw [hother a ha]
      refine (hinv.stored_count a r' hr).imp_right fun ⟨j, hj⟩ => ⟨j, ?_⟩
      have hji : j ≠ i := by
        rintro rfl
        rw [hcall] at hj
        exact absurd hj (by simp [LoginCall.failedOn, LoginCall.pending])
      rw [LoginCall.failedOn, hpending j hji]
      exact hj
  case resave_count =>
    intro j a r' ttl h
    by_cases hj : j = i
    · rw [hj, hpend, Option.some.injEq, Prod.mk.injEq] at h
      rw [← h.1, hself]
      exact hresave r' ttl h.2
    · rw [hpending j hj] at h
      have ha : a ≠ challengeId := by
        rintro rfl
        exact hnone j (by rw [LoginCall.failedOn, h]; rfl)
      rw [hother a ha]
      exact hinv.resave_count j a r' ttl h
  case failed_unique =>
    intro j k a hj hk
    rcases hfail hj with ⟨rfl, rfl⟩ | ⟨-, hne, hj⟩
    · rcases hfail hk with ⟨rfl, -⟩ | ⟨-, hne, -⟩
      · rfl
      · exact absurd rfl hne
    · rcases hfail hk with ⟨-, rfl⟩ | ⟨-, -, hk⟩
      · exact absurd rfl hne
      · exact hinv.failed_unique j k a hj hk

/-- Writing a failed comparison back stores the count, or ends the challenge. -/
theorem AttemptCount.writeBack {c c' : Config LoginState LoginEvent} {i : ℕ}
    {challengeId email code : String} {r : Record} {d : VerifyDecision}
    (hinv : AttemptCount svc c) (hcall : c.state.calls i = .decided challengeId email code r d)
    (hs : c'.state = (c.state.setStores
      (d.store svc c.state.otp.now challengeId c.state.otp.stores)).setCall i
        (d.ending challengeId email))
    (hhist : c'.history = d.events i challengeId ++ c.history) : AttemptCount svc c' := by
  -- the comparison was counted when it was made, not when its result is written
  have hcount : ∀ a, wrongCount a c'.history = wrongCount a c.history := fun a => by
    rw [wrongCount, hhist, wrongOf_events, wrongCount]
  have hended : (c'.state.calls i).pending = none := by
    rw [hs, setCall_calls_self]
    cases d <;> rfl
  have hpending : ∀ j, j ≠ i → (c'.state.calls j).pending = (c.state.calls j).pending := by
    intro j hj
    rw [hs, setCall_calls_ne _ _ hj]
    rfl
  have hback : ∀ {j x}, (c'.state.calls j).pending = some x →
      (c.state.calls j).pending = some x := by
    intro j x h
    by_cases hj : j = i
    · rw [hj, hended] at h
      exact absurd h (by simp)
    · rwa [hpending j hj] at h
  constructor
  case window_submitter =>
    intro j a h
    rw [hhist, submittersOf_events]
    rw [hs] at h
    refine hinv.submitter_setCall rfl (fun b hb => ?_) h
    cases d <;> exact absurd hb (by simp [VerifyDecision.ending, LoginCall.inWindow])
  case wrong_issued =>
    intro a h
    rw [hcount] at h
    rw [hs]
    exact hinv.wrong_issued a h
  case wrong_le =>
    intro a
    rw [hcount]
    exact hinv.wrong_le a
  case stored_count =>
    intro a r' hr
    rw [hs] at hr
    rw [hcount]
    by_cases ha : a = challengeId
    · -- the write-back makes the record count again, or takes it away
      subst ha
      left
      cases d
      case resave r₁ ttl =>
        have hr₁ : r' = r₁ := Option.some.inj (hr.symm.trans recordAt_save_self)
        rw [hr₁]
        exact hinv.resave_count i a r₁ ttl (by rw [hcall]; rfl)
      all_goals exact absurd (hr.symm.trans recordAt_delete_self) (by simp)
    · refine (hinv.stored_count a r' (record?_of_store ha hr)).imp_right fun hfailed => ?_
      obtain ⟨j, hj⟩ := hfailed
      refine ⟨j, ?_⟩
      -- call `i` has the record of `challengeId`, and this one is another challenge
      have hji : j ≠ i := by
        rintro rfl
        have hin := inWindow_of_failedOn hj
        rw [hcall] at hin
        exact ha hin.symm
      rw [LoginCall.failedOn, hpending j hji]
      exact hj
  case resave_count =>
    intro j a r' ttl h
    rw [hcount]
    exact hinv.resave_count j a r' ttl (hback h)
  case failed_unique =>
    intro j k a hj hk
    simp only [LoginCall.failedOn, Option.map_eq_some_iff] at hj hk
    obtain ⟨x, hx, hxa⟩ := hj
    obtain ⟨y, hy, hya⟩ := hk
    exact hinv.failed_unique j k a (by rw [LoginCall.failedOn, hback hx, Option.map_some, hxa])
      (by rw [LoginCall.failedOn, hback hy, Option.map_some, hya])

/-- **Step lemma for the attempt limit.** -/
theorem attemptCount_next {c c' : Config LoginState LoginEvent} {l : LoginLabel}
    (hids : IssuedIds svc c.state) (hinv : AttemptCount svc c) (hfresh : ComparesFresh svc c l)
    (hnext : (loginSystem rt svc).next c l = some c') : AttemptCount svc c' := by
  obtain ⟨es, hstep, hhist⟩ := (loginSystem rt svc).next_eq_some.mp hnext
  change loginStep rt svc c.state l = some (c'.state, es) at hstep
  cases l with
  | tick t =>
    obtain ⟨-, hs, rfl⟩ := loginStep_tick hstep
    refine hinv.frame (fun i a h => ?_) (by simp [hs]) (by simp [hs]) (by simp [hs])
      (by simp [hhist])
    rw [hhist]
    exact hinv.window_submitter i a (by rwa [hs] at h)
  | start challengeId email code readAt =>
    obtain ⟨-, hcreate, hcalls, rfl⟩ := loginStep_start hstep
    refine hinv.start hcreate hcalls ?_ ?_ <;> simp [hhist, submittersOf, wrongOf]
  | delivered challengeId outcome =>
    obtain ⟨hdel, hcalls, rfl⟩ := loginStep_delivered hstep
    obtain ⟨-, -, hissued, -, -⟩ := delivered_eq_some hdel
    refine hinv.frame (fun i a h => ?_) (by simp [hissued]) (fun a r => record?_of_delivered hdel)
      (by simp [hcalls]) (by simp [hhist])
    rw [hhist]
    exact hinv.window_submitter i a (by rwa [hcalls] at h)
  | load i challengeId email code =>
    obtain ⟨hidle, hcase⟩ := loginStep_load hstep
    have hwaiting : (c.state.calls i).pending = none := by rw [hidle]; rfl
    rcases hcase with ⟨r, hr, hs, rfl⟩ | ⟨hs, rfl⟩
    · -- the call comes into the window and is written down as a submitter
      refine hinv.move hwaiting rfl hs (fun _ _ => recordAt_of_recordAt_load) (fun a ha => ?_)
        (fun a => ?_) (by simp [hhist, wrongOf])
      · have hsame : challengeId = a := ha
        simp [hhist, submittersOf, hsame]
      · rw [hhist, submittersOf, submittersOf, List.filterMap_append]
        exact List.subset_append_right _ _
    · exact hinv.move hwaiting rfl hs (fun _ _ => recordAt_of_recordAt_load)
        (fun a ha => False.elim ha) (by simp [hhist]) (by simp [hhist])
  | check i =>
    obtain ⟨challengeId, email, code, r, hcall, ⟨hs, rfl⟩ | ⟨d, hd, -, hs, rfl⟩⟩ :=
      loginStep_check hstep
    · exact hinv.move (by rw [hcall]; rfl) rfl hs (fun _ _ hr => hr) (fun a ha => False.elim ha)
        (by simp [hhist]) (by simp [hhist])
    · obtain ⟨hstored, halone⟩ := hfresh (challengeId, r) (by rw [hcall]; rfl)
      -- only a wrong submission counts; the others decide and wait for nothing
      by_cases hwrong : d.isWrong = true
      · exact hinv.compare hids hcall hstored halone hd hwrong hs (by simpa [hwrong] using hhist)
      · rw [if_neg hwrong, List.nil_append] at hhist
        have hsubmitted : i ∈ submittersOf challengeId c'.history := by
          rw [hhist]
          exact hinv.window_submitter i challengeId (by rw [hcall]; rfl)
        refine hinv.move (by rw [hcall]; rfl) (by simp [LoginCall.pending, hwrong]) hs
          (fun _ _ hr => hr) (fun a ha => ?_) (by simp [hhist]) (by simp [hhist])
        have hsame : challengeId = a := ha
        exact hsame ▸ hsubmitted
  | write i =>
    obtain ⟨challengeId, email, code, r, d, hcall, hs, rfl⟩ := loginStep_write hstep
    exact hinv.writeBack hcall hs hhist
  | grant i =>
    obtain ⟨challengeId, email, hcall, hs, rfl⟩ := loginStep_grant hstep
    exact hinv.move (by rw [hcall]; rfl) rfl hs (fun _ _ hr => hr) (fun a ha => False.elim ha)
      (by simp [hhist, submittersOf]) (by simp [hhist, wrongOf])

/-! ### Whole runs -/

/-- The attempt limit of a challenge: at most `max_attempts` comparisons failed, and when none
    is waiting to be written back the stored record counts them all. -/
def Limited (svc : OtpService) (challengeId : String) (c : Config LoginState LoginEvent) : Prop :=
  wrongCount challengeId c.history ≤ svc.maxAttempts ∧
  ∀ r, c.state.otp.stores.record? svc .login challengeId = some r →
    (∀ i, (c.state.calls i).failedOn ≠ some challengeId) →
    r.attempts = .num (wrongCount challengeId c.history)

/-- **Attempt limit.** In every run in which calls compare only with the record that is in the
    store, while no other failed comparison is waiting to be written back, every challenge is
    limited. -/
theorem login_attempt_limit {now : Instant} {ls : List LoginLabel}
    {c : Config LoginState LoginEvent}
    (hmeets : (loginSystem rt svc).Meets (ComparesFresh svc)
      (Config.start (LoginState.init now)) ls)
    (hrun : (loginSystem rt svc).run (Config.start (LoginState.init now)) ls = some c)
    (challengeId : String) : Limited svc challengeId c := by
  have hinv : IssuedIds svc c.state ∧ AttemptCount svc c :=
    (loginSystem rt svc).invariant_run_of_meets
      (I := fun c => IssuedIds svc c.state ∧ AttemptCount svc c)
      (fun _ _ _ h hcond hnext => ⟨issuedIds_next h.1 hnext, attemptCount_next h.1 h.2 hcond hnext⟩)
      ⟨issuedIds_init now, attemptCount_init now⟩ hmeets hrun
  obtain ⟨-, hinv⟩ := hinv
  exact ⟨hinv.wrong_le challengeId, fun r hr hnone =>
    (hinv.stored_count challengeId r hr).resolve_right fun ⟨i, hi⟩ => hnone i hi⟩

/-- A wrong and a right code that load the challenge together, and another wrong code between the
    two writes. -/
def sampleCrossing : List LoginLabel :=
  [.start sampleToken "ana@ouros.app" "123456" sampleNow,
    .load 0 sampleToken "ana@ouros.app" "000000", .load 1 sampleToken "ana@ouros.app" "123456",
    .check 1, .check 0, .write 0, .load 2 sampleToken "ana@ouros.app" "111111",
    .delivered sampleToken .sent, .check 2, .write 2]

theorem login_attempt_limit_crossing :
    ∃ c, (loginSystem .sample (.sample true)).run (Config.start (LoginState.init sampleNow))
        sampleCrossing = some c ∧
      wrongOf sampleToken c.history = [2, 0] ∧ Limited (.sample true) sampleToken c := by
  obtain ⟨c, hc, hwrong⟩ := Option.map_eq_some_iff.mp
    (by decide +kernel :
      ((loginSystem .sample (.sample true)).run (Config.start (LoginState.init sampleNow))
        sampleCrossing).map (fun c => wrongOf sampleToken c.history) = some [2, 0])
  exact ⟨c, hc, hwrong, login_attempt_limit (by decide +kernel) hc sampleToken⟩

/-- **The attempt limit fails.** Six wrong submissions load the challenge together, and all six
    are compared with it although `max_attempts` is five. -/
theorem login_limit_overrun :
    ∃ ls c, (loginSystem .sample (.sample true)).run (Config.start (LoginState.init sampleNow)) ls =
        some c ∧
      wrongOf sampleToken c.history = [5, 4, 3, 2, 1, 0] ∧
        ¬ Limited (.sample true) sampleToken c := by
  let ls : List LoginLabel :=
    .start sampleToken "ana@ouros.app" "123456" sampleNow ::
      ((List.range 6).map (fun i => .load i sampleToken "ana@ouros.app" "000000") ++
        (List.range 6).map .check)
  obtain ⟨c, hc, hout⟩ := Option.map_eq_some_iff.mp
    (by decide +kernel :
      ((loginSystem .sample (.sample true)).run (Config.start (LoginState.init sampleNow)) ls).map
        (fun c => wrongOf sampleToken c.history) = some [5, 4, 3, 2, 1, 0])
  refine ⟨ls, c, hc, hout, fun hlim => ?_⟩
  have hle := hlim.1
  rw [wrongCount, hout] at hle
  exact absurd hle (by decide)

end OurosAuth
