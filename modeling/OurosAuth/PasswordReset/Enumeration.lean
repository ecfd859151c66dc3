import OurosAuth.PasswordReset.Session

namespace OurosAuth

open KeyValue

/-!
# Does a password reset reveal an account?

Two clients send the same requests in two worlds, which differ in the tables, the random draws,
the creations and the deliveries, and neither submits a code that was mailed.

* `World.locksOut` — the request that is the `max_attempts`-th submission to a live, real
  challenge;
* `publicReply` — the reply to a request, as far as it depends on the requests alone and on
  whether it locks a challenge out;
* `ChallengeKept` — what is stored for a challenge, against the requests that named it;
* `replies_equal_iff` — the replies agree exactly when the same requests lock out in both worlds.
-/

variable {σ : Type} {rt : Runtime} {settings : Settings} {svc : OtpService} {limiter : Limiter σ}
  {w : World}

/-! ### What the requests alone decide -/

/-- When the service starts on a request. -/
def ResetRequest.arrives : ResetRequest → Instant
  | .start _ _ _ readAt _ => readAt
  | .verify _ _ _ readAt _ => readAt

/-- When it has worked on the stores. -/
def ResetRequest.ends : ResetRequest → Instant
  | .start _ _ _ _ savedAt => savedAt
  | .verify _ _ _ _ now => now

/-- The requests are served one after another. -/
structure InTurn (requests : List ResetRequest) : Prop where
  forward : ∀ r ∈ requests, r.arrives.seconds ≤ r.ends.seconds
  ordered : requests.Pairwise fun a b => a.ends.seconds ≤ b.arrives.seconds

/-- The limiter after these requests. -/
def Limiter.after (limiter : Limiter σ) (rt : Runtime) (requests : List ResetRequest) : σ :=
  requests.foldl (fun l request =>
    match request with
    | .start ip email _ readAt _ =>
      match emailField rt email with
      | none => l
      | some email => (limiter.check l ip email readAt).2
    | .verify _ _ _ _ _ => l) limiter.init

/-- The reply to a start request, up to its challenge id. -/
def startReply (rt : Runtime) (settings : Settings) (limiter : Limiter σ) (l : σ)
    (ip email : String)
    (readAt : Instant) : ResetReply :=
  match emailField rt email with
  | none => .unprocessable
  | some email =>
    match (limiter.check l ip email readAt).1 with
    | some retryAfter => .error (.rateLimitExceeded retryAfter)
    | none =>
      if hasLength 3 255 (maskEmail (rt.normalizeEmail email)) = true then
        .started "" (maskEmail (rt.normalizeEmail email)) settings.ourosEmailOtpTtlSeconds
      else .internalError

/-- Is request `k` answered with a challenge id? -/
def handsOut (rt : Runtime) (settings : Settings) (limiter : Limiter σ)
    (requests : List ResetRequest) (k : ℕ) : Bool :=
  match requests[k]? with
  | some (.start ip email _ readAt _) =>
    (startReply rt settings limiter (limiter.after rt (requests.take k)) ip email
      readAt).challengeId?.isSome
  | _ => false

/-- Does request `n` name a challenge id of the right shape? -/
def Target.named (rt : Runtime) (settings : Settings) (limiter : Limiter σ)
    (requests : List ResetRequest) (n : ℕ) : Target → Bool
  | .answered k => k < n && handsOut rt settings limiter requests k
  | .literal challengeId => challengeIdField challengeId

/-- The reply to request `n`, up to its challenge id, when it submits no mailed code. -/
def publicReply (rt : Runtime) (settings : Settings) (limiter : Limiter σ)
    (requests : List ResetRequest) (n : ℕ) (locked : Bool) : ResetRequest → ResetReply
  | .start ip email _ readAt _ =>
      startReply rt settings limiter (limiter.after rt (requests.take n)) ip email readAt
  | .verify target email code _ _ =>
      if (emailField rt email).isSome = true ∧
          target.named rt settings limiter requests n = true ∧ isCodeField rt code = true then
        if locked then .error .passwordResetOtpAttemptsExceeded else .error .passwordResetOtpInvalid
      else .unprocessable

/-! ### Locking out -/

/-- The account and the times of the challenge created for request `k`, if one was created and
    handed out. -/
def World.opened (w : World) (rt : Runtime) (settings : Settings) (limiter : Limiter σ)
    (requests : List ResetRequest) (k : ℕ) : Option (StoredIdentity × Instant × Instant) :=
  match requests[k]? with
  | some (.start _ email accountType readAt savedAt) =>
    if handsOut rt settings limiter requests k = true ∧ w.creation k = .saved then
      ((emailField rt email).bind fun email => w.accountFor rt email accountType).map
        fun identity => (identity, readAt, savedAt)
    else none
  | _ => none

/-- Is this a submission to the challenge handed out for request `k`? -/
def ResetRequest.isGuess (rt : Runtime) (k : ℕ) : ResetRequest → Bool
  | .verify target email code _ _ =>
      target = .answered k && (emailField rt email).isSome && isCodeField rt code
  | .start _ _ _ _ _ => false

/-- The submissions to that challenge before request `n`. -/
def guesses (rt : Runtime) (requests : List ResetRequest) (k n : ℕ) : ℕ :=
  ((requests.take n).drop (k + 1)).countP (·.isGuess rt k)

/-- Does a challenge created at `createdAt` and saved at `savedAt` still live at a call that reads
    the clock at `readAt` and comes to the store at `now`? -/
def inLifetime (settings : Settings) (createdAt savedAt readAt now : Instant) : Bool :=
  if settings.redisUrl.isSome then
    readAt.whole < createdAt.whole + settings.ourosEmailOtpTtlSeconds &&
      now.seconds < savedAt.seconds + settings.ourosEmailOtpTtlSeconds
  else now.whole < createdAt.whole + settings.ourosEmailOtpTtlSeconds

/-- Has the delivery for request `k` failed before the end of request `n - 1`? -/
def World.failedBefore (w : World) (k n : ℕ) : Bool :=
  (List.range n).any fun j => k < j && (w.failures j).contains k

/-- Is request `n` the `max_attempts`-th submission to a challenge that was created, whose delivery
    has not failed, within its lifetime? -/
def World.locksOut (w : World) (rt : Runtime) (settings : Settings) (limiter : Limiter σ)
    (requests : List ResetRequest) (n : ℕ) : Bool :=
  match requests[n]? with
  | some (.verify (.answered k) email code readAt now) =>
    match w.opened rt settings limiter requests k with
    | some (_, createdAt, savedAt) =>
        k < n && (ResetRequest.verify (.answered k) email code readAt now).isGuess rt k &&
          inLifetime settings createdAt savedAt readAt now && !w.failedBefore k (n + 1) &&
          guesses rt requests k n + 1 = settings.ourosEmailOtpMaxAttempts
    | none => false
  | _ => false

/-- What is promised of a world: the draws are fresh, and no verify request carries the code that
    was mailed for the challenge it names. -/
structure World.Admissible (w : World) (rt : Runtime) (settings : Settings) (limiter : Limiter σ)
    (requests : List ResetRequest) : Prop where
  challenge_token : ∀ k < requests.length, isChallengeToken (w.challengeId k) = true
  response_token : ∀ k < requests.length, isChallengeToken (w.responseId k) = true
  challenge_inj : ∀ k < requests.length, ∀ k' < requests.length,
    w.challengeId k = w.challengeId k' → k = k'
  response_ne : ∀ k < requests.length, ∀ k' < requests.length, w.responseId k ≠ w.challengeId k'
  literal_ne : ∀ r ∈ requests, ∀ challengeId email code readAt now,
    r = .verify (.literal challengeId) email code readAt now →
    ∀ k < requests.length, challengeId ≠ w.challengeId k
  code_otp : ∀ k < requests.length, isOtpCode (w.code k) = true
  blind : ∀ r ∈ requests, ∀ k email code readAt now,
    r = .verify (.answered k) email code readAt now →
    w.opened rt settings limiter requests k ≠ none → code ≠ w.code k

/-! ### What is stored for a challenge -/

/-- What the challenge for request `k` is created with. -/
def World.startFor (w : World) (svc : OtpService) (k : ℕ) (identity : StoredIdentity)
    (createdAt : Instant) : ResetStart :=
  ⟨identity.email, identity.accountType.value, identity.databaseId, w.code k,
    createdAt.whole + svc.ttlSeconds⟩

/-- Some request came when the challenge was over. -/
def Over (svc : OtpService) (served : List ResetRequest) (createdAt savedAt : Instant) : Prop :=
  ∃ r ∈ served, ¬ svc.finds (createdAt.whole + svc.ttlSeconds) (savedAt.seconds + svc.ttlSeconds)
    r.arrives r.ends

/-- What the store holds for the challenge of request `k` after `n` requests and the failures up
    to `m`: nothing, for a reason, or the record that has counted every submission. -/
def ChallengeKept (rt : Runtime) (svc : OtpService) (w : World) (requests : List ResetRequest)
    (n m : ℕ) (stores : OtpStores) (k : ℕ) (identity : StoredIdentity)
    (createdAt savedAt : Instant) : Prop :=
  (stores.Lacks svc .reset (w.challengeId k) ∧
      (w.failedBefore k m = true ∨ svc.maxAttempts ≤ guesses rt requests k n ∨
        Over svc (requests.take n) createdAt savedAt)) ∨
    ∃ (attempts : ℕ) (databaseId : ℤ),
      stores.Holds svc .reset (w.challengeId k)
        (storedReset rt svc (w.challengeId k) (w.startFor svc k identity createdAt) attempts
          databaseId) (savedAt.seconds + svc.ttlSeconds) ∧
      attempts < svc.maxAttempts ∧ w.failedBefore k m = false ∧
      (attempts = guesses rt requests k n ∨ Over svc (requests.take n) createdAt savedAt)

/-- What the store holds after `n` requests and the failures up to `m`. -/
structure StoresKept (rt : Runtime) (settings : Settings) (svc : OtpService) (limiter : Limiter σ)
    (w : World) (requests : List ResetRequest) (n m : ℕ) (stores : OtpStores) : Prop where
  foreign : ∀ challengeId, (∀ k < n, challengeId ≠ w.challengeId k) →
    stores.Lacks svc .reset challengeId
  opened : ∀ k < n, ∀ identity createdAt savedAt,
    w.opened rt settings limiter requests k = some (identity, createdAt, savedAt) →
    ChallengeKept rt svc w requests n m stores k identity createdAt savedAt

variable {requests : List ResetRequest} {n m k : ℕ} {stores : OtpStores}
  {identity : StoredIdentity} {createdAt savedAt : Instant}

theorem inLifetime_iff (hready : settings.requireReady = .ok svc)
    {createdAt savedAt readAt now : Instant} :
    inLifetime settings createdAt savedAt readAt now = true ↔
      svc.finds (createdAt.whole + svc.ttlSeconds)
        (savedAt.seconds + svc.ttlSeconds) readAt now := by
  obtain ⟨-, httl, -, hredis⟩ := requireReady_eq_ok hready
  unfold inLifetime OtpService.finds
  rw [httl, hredis]
  split <;> simp

/-- A challenge that was over stays over. -/
theorem Over.not_finds (hturn : InTurn requests) {r : ResetRequest} (hr : requests[n]? = some r)
    (hover : Over svc (requests.take n) createdAt savedAt) :
    ¬ svc.finds (createdAt.whole + svc.ttlSeconds) (savedAt.seconds + svc.ttlSeconds) r.arrives
      r.ends := by
  obtain ⟨old, hold, hnot⟩ := hover
  intro hfinds
  refine hnot (hfinds.earlier ?_ ?_)
  all_goals
    obtain ⟨i, hi, rfl⟩ := List.getElem_of_mem hold
    rw [List.length_take] at hi
    rw [List.getElem_take]
    obtain ⟨hn, rfl⟩ := List.getElem?_eq_some_iff.mp hr
    have hbefore := (List.pairwise_iff_getElem.mp hturn.ordered) i n (by omega) hn (by omega)
    have hforward := hturn.forward requests[i] (List.getElem_mem (by omega))
    have hforward' := hturn.forward _ (List.getElem_mem hn)
    linarith

theorem Over.succ (hover : Over svc (requests.take n) createdAt savedAt) :
    Over svc (requests.take (n + 1)) createdAt savedAt := by
  obtain ⟨r, hr, hnot⟩ := hover
  exact ⟨r, (List.take_sublist_take_left (Nat.le_succ n)).subset hr, hnot⟩

theorem over_of_request {r : ResetRequest} (hr : requests[n]? = some r)
    (hnot : ¬ svc.finds (createdAt.whole + svc.ttlSeconds) (savedAt.seconds + svc.ttlSeconds)
      r.arrives r.ends) : Over svc (requests.take (n + 1)) createdAt savedAt := by
  refine ⟨r, ?_, hnot⟩
  rw [List.take_add_one, hr]
  exact List.mem_append_right _ (List.mem_singleton_self r)

/-- A request adds to the submissions of an earlier challenge when it is one. -/
theorem guesses_succ {r : ResetRequest} (hr : requests[n]? = some r) (hk : k < n) :
    guesses rt requests k (n + 1) =
      guesses rt requests k n + if r.isGuess rt k = true then 1 else 0 := by
  have hlen : k + 1 ≤ (requests.take n).length := by
    obtain ⟨hn, -⟩ := List.getElem?_eq_some_iff.mp hr
    rw [List.length_take]
    omega
  unfold guesses
  rw [List.take_add_one, hr, Option.toList_some, List.drop_append_of_le_length hlen,
    List.countP_append,
    List.countP_singleton]

/-- Nothing has been submitted to a challenge that was just created. -/
theorem guesses_self (rt : Runtime) (requests : List ResetRequest) (n : ℕ) :
    guesses rt requests n (n + 1) = 0 := by
  have hnil : (requests.take (n + 1)).drop (n + 1) = [] := by
    apply List.drop_eq_nil_of_le
    rw [List.length_take]
    exact min_le_left _ _
  rw [guesses, hnil, List.countP_nil]

theorem failedBefore_succ (w : World) (k n : ℕ) :
    w.failedBefore k (n + 1) = (w.failedBefore k n || (k < n && (w.failures n).contains k)) := by
  unfold World.failedBefore
  rw [List.range_succ, List.any_append, List.any_cons, List.any_nil, Bool.or_false]

/-! ### Failed deliveries -/

/-- Deleting a list of challenges, one after another. -/
theorem lacks_foldl_delete {challengeId : String} (ids : List ℕ) (f : ℕ → String)
    (h : stores.Lacks svc .reset challengeId) :
    (ids.foldl (fun stores k => stores.delete svc .reset (f k)) stores).Lacks svc .reset
      challengeId := by
  induction ids generalizing stores with
  | nil => exact h
  | cons j ids ih => exact ih h.delete

theorem lacks_foldl_delete_of_mem {ids : List ℕ} (f : ℕ → String) (hk : k ∈ ids) :
    (ids.foldl (fun stores k => stores.delete svc .reset (f k)) stores).Lacks svc .reset (f k) := by
  induction ids generalizing stores with
  | nil => exact absurd hk List.not_mem_nil
  | cons j ids ih =>
    rcases List.mem_cons.mp hk with rfl | hk
    · exact lacks_foldl_delete ids f lacks_delete_self
    · exact ih hk

theorem holds_foldl_delete {challengeId : String} {r : Record} {deadline : ℚ} {ids : List ℕ}
    (f : ℕ → String) (hne : ∀ j ∈ ids, challengeId ≠ f j)
    (h : stores.Holds svc .reset challengeId r deadline) :
    (ids.foldl (fun stores k => stores.delete svc .reset (f k)) stores).Holds svc .reset challengeId
      r deadline := by
  induction ids generalizing stores with
  | nil => exact h
  | cons j ids ih =>
    exact ih (fun j' hj' => hne j' (List.mem_cons_of_mem _ hj'))
      (h.delete (hne j List.mem_cons_self))

/-- The deliveries that fail before request `n` remove their own challenges and no other. -/
theorem StoresKept.failDeliveries (hready : settings.requireReady = .ok svc)
    (hadm : w.Admissible rt settings limiter requests) (hn : n < requests.length)
    (hkept : StoresKept rt settings svc limiter w requests n n stores) :
    StoresKept rt settings svc limiter w requests n (n + 1)
      (w.failDeliveries settings n stores) := by
  have hfail : w.failDeliveries settings n stores = ((w.failures n).filter (· < n)).foldl
      (fun stores k => stores.delete svc .reset (w.challengeId k)) stores := by
    rw [World.failDeliveries, hready]
  rw [hfail]
  constructor
  · intro challengeId hforeign
    exact lacks_foldl_delete _ w.challengeId (hkept.foreign challengeId hforeign)
  · intro k hk identity createdAt savedAt hopened
    by_cases hfailing : k ∈ w.failures n
    · -- its own delivery is among those that fail now
      left
      have hmem : k ∈ (w.failures n).filter (· < n) :=
        List.mem_filter.mpr ⟨hfailing, decide_eq_true hk⟩
      refine ⟨lacks_foldl_delete_of_mem w.challengeId hmem, Or.inl ?_⟩
      rw [failedBefore_succ]
      simp [hk, hfailing]
    · have hsame : w.failedBefore k (n + 1) = w.failedBefore k n := by
        rw [failedBefore_succ]
        simp [hfailing]
      have hne : ∀ j ∈ (w.failures n).filter (· < n), w.challengeId k ≠ w.challengeId j := by
        intro j hj heq
        obtain ⟨hjn, hlt⟩ := List.mem_filter.mp hj
        have hjk := hadm.challenge_inj k (by omega) j (by have := of_decide_eq_true hlt; omega) heq
        exact hfailing (hjk ▸ hjn)
      rcases hkept.opened k hk identity createdAt savedAt hopened with
        ⟨hlacks, hwhy⟩ | ⟨attempts, databaseId, hholds, hlimit, halive, hcount⟩
      · exact Or.inl ⟨lacks_foldl_delete _ w.challengeId hlacks, by rwa [hsame]⟩
      · exact Or.inr ⟨attempts, databaseId, holds_foldl_delete w.challengeId hne hholds, hlimit,
          by rwa [hsame], hcount⟩

/-! ### One request -/

/-- A request that is no submission to the challenge, and leaves it in the store if the clock
    allows. -/
theorem ChallengeKept.other {stores' : OtpStores} {r : ResetRequest} (hr : requests[n]? = some r)
    (hk : k < n) (hguess : r.isGuess rt k = false)
    (hlacks : stores.Lacks svc .reset (w.challengeId k) →
      stores'.Lacks svc .reset (w.challengeId k))
    (hholds : ∀ record deadline, stores.Holds svc .reset (w.challengeId k) record deadline →
      stores'.Kept svc .reset (w.challengeId k) record deadline r.ends)
    (hkept : ChallengeKept rt svc w requests n m stores k identity createdAt savedAt) :
    ChallengeKept rt svc w requests (n + 1) m stores' k identity createdAt savedAt := by
  have hsame : guesses rt requests k (n + 1) = guesses rt requests k n := by
    rw [guesses_succ hr hk, hguess]
    rfl
  rcases hkept with ⟨hold, hwhy⟩ | ⟨attempts, databaseId, hold, hlimit, halive, hcount⟩
  · refine Or.inl ⟨hlacks hold, ?_⟩
    rw [hsame]
    exact hwhy.imp id (Or.imp id Over.succ)
  · rcases hholds _ _ hold with hnew | ⟨hnew, hmemory, hexpired⟩
    · right
      refine ⟨attempts, databaseId, hnew, hlimit, halive, ?_⟩
      rw [hsame]
      exact hcount.imp id Over.succ
    · left
      refine ⟨hnew, Or.inr (Or.inr (over_of_request hr ?_))⟩
      have hle : createdAt.whole + svc.ttlSeconds ≤ r.ends.whole := hexpired _ rfl
      rw [OtpService.finds, if_neg (by simp [hmemory])]
      exact not_lt.mpr hle

/-- The attempts a stored record can count. -/
theorem small_attempts {attempts : ℕ} (h : attempts < svc.maxAttempts) :
    Small attempts ∧ Small (attempts + 1 : ℤ) := by
  have hmax := svc.attempts_le
  exact ⟨⟨by omega, by omega⟩, by omega, by omega⟩

/-- **A submission to a challenge.** It is refused as exceeded exactly when it locks the challenge
    out, as invalid otherwise, and counted. -/
theorem ChallengeKept.guess {email code : String} {readAt now : Instant}
    (hturn : InTurn requests)
    (hr : requests[n]? = some (.verify (.answered k) email code readAt now))
    (hk : k < n)
    (hguess : (ResetRequest.verify (.answered k) email code readAt now).isGuess rt k = true)
    (hwrong : ∀ email', ¬ (w.startFor svc k identity createdAt).Matches rt svc (w.challengeId k)
      email' code) (email' : String)
    (hkept : ChallengeKept rt svc w requests n m stores k identity createdAt savedAt) :
    let res := stores.verifyReset rt svc now readAt (w.challengeId k) email' code
    ChallengeKept rt svc w requests (n + 1) m res.2 k identity createdAt savedAt ∧
      (svc.finds (createdAt.whole + svc.ttlSeconds) (savedAt.seconds + svc.ttlSeconds) readAt now ∧
          w.failedBefore k m = false ∧ guesses rt requests k n + 1 = svc.maxAttempts →
        res.1.result = .error .passwordResetOtpAttemptsExceeded) ∧
      (¬ (svc.finds (createdAt.whole + svc.ttlSeconds) (savedAt.seconds + svc.ttlSeconds) readAt
            now ∧ w.failedBefore k m = false ∧ guesses rt requests k n + 1 = svc.maxAttempts) →
        res.1.result = .error .passwordResetOtpInvalid) := by
  intro res
  -- this request is one more submission to the challenge
  have hsucc : guesses rt requests k (n + 1) = guesses rt requests k n + 1 := by
    rw [guesses_succ hr hk, hguess]
    rfl
  rcases hkept with ⟨hold, hwhy⟩ | ⟨attempts, databaseId, hold, hlimit, halive, hcount⟩
  · -- nothing stored: the call finds nothing
    have hlacks : res.2.Lacks svc .reset (w.challengeId k) := (verifyReset_lacks hold).2
    have hres : res.1.result = .error .passwordResetOtpInvalid := by
      have habsent : res.1 = .absent := (verifyReset_lacks hold).1
      rw [habsent]
      rfl
    refine ⟨Or.inl ⟨hlacks, ?_⟩, ?_, fun _ => hres⟩
    · rw [hsucc]
      exact hwhy.imp id (Or.imp (by omega) Over.succ)
    · rintro ⟨hfinds, hnotfailed, hlast⟩
      rcases hwhy with hfailed | hmany | hover
      · exact absurd (hfailed.symm.trans hnotfailed) (by simp)
      · omega
      · exact absurd hfinds (hover.not_finds hturn hr)
  · obtain ⟨hn, hn1⟩ := small_attempts hlimit
    have hexpires : Small (w.startFor svc k identity createdAt).expiresAt :=
      small_expiresAt svc createdAt
    by_cases hfinds : svc.finds (createdAt.whole + svc.ttlSeconds)
        (savedAt.seconds + svc.ttlSeconds) readAt now
    · -- alive, so the record has counted every submission
      have hattempts : attempts = guesses rt requests k n :=
        hcount.resolve_right fun hover => hover.not_finds hturn hr hfinds
      obtain ⟨hlocked, hcounted⟩ := verifyReset_wrong hold hn hn1 (by omega) hexpires hfinds
        (hwrong email')
      by_cases hlast : attempts + 1 = svc.maxAttempts
      · obtain ⟨hverdict, hlacks⟩ := hlocked (by omega)
        have hres : res.1.result = .error .passwordResetOtpAttemptsExceeded := by
          rw [hverdict]
          rfl
        refine ⟨Or.inl ⟨hlacks, Or.inr (Or.inl ?_)⟩, fun _ => hres, fun hnot => ?_⟩
        · rw [hsucc]
          omega
        · exact absurd ⟨hfinds, halive, by omega⟩ hnot
      · obtain ⟨hverdict, databaseId', hholds⟩ := hcounted (by omega)
        have hres : res.1.result = .error .passwordResetOtpInvalid := by
          rw [hverdict]
          rfl
        refine ⟨Or.inr ⟨attempts + 1, databaseId', ?_, by omega, halive, Or.inl ?_⟩, ?_,
          fun _ => hres⟩
        · exact_mod_cast hholds
        · rw [hsucc, hattempts]
        · rintro ⟨-, -, hlast'⟩
          omega
    · -- over: refused without a count
      obtain ⟨hres, hstores⟩ := verifyReset_expired hold hn hn1 hexpires hfinds
      have hover : Over svc (requests.take (n + 1)) createdAt savedAt := over_of_request hr hfinds
      refine ⟨?_, fun hall => absurd hall.1 hfinds, fun _ => hres⟩
      rcases hstores with hholds | hlacks
      · exact Or.inr ⟨attempts, databaseId, hholds, hlimit, halive, Or.inr hover⟩
      · exact Or.inl ⟨hlacks, Or.inr (Or.inr hover)⟩

/-- A request keeps what is stored when it keeps every challenge and accounts for a new one. -/
theorem StoresKept.serve {stores' : OtpStores}
    (hkept : StoresKept rt settings svc limiter w requests n (n + 1) stores)
    (hforeign : ∀ challengeId, (∀ k < n + 1, challengeId ≠ w.challengeId k) →
      stores.Lacks svc .reset challengeId → stores'.Lacks svc .reset challengeId)
    (hold : ∀ k < n, ∀ identity createdAt savedAt,
      w.opened rt settings limiter requests k = some (identity, createdAt, savedAt) →
      ChallengeKept rt svc w requests n (n + 1) stores k identity createdAt savedAt →
      ChallengeKept rt svc w requests (n + 1) (n + 1) stores' k identity createdAt savedAt)
    (hnew : ∀ identity createdAt savedAt,
      w.opened rt settings limiter requests n = some (identity, createdAt, savedAt) →
      ChallengeKept rt svc w requests (n + 1) (n + 1) stores' n identity createdAt savedAt) :
    StoresKept rt settings svc limiter w requests (n + 1) (n + 1) stores' where
  foreign := fun challengeId hid => hforeign challengeId hid
    (hkept.foreign challengeId fun k hk => hid k (Nat.lt_succ_of_lt hk))
  opened := by
    intro k hk identity createdAt savedAt hopened
    rcases Nat.lt_succ_iff_lt_or_eq.mp hk with hlt | rfl
    · exact hold k hlt identity createdAt savedAt hopened
        (hkept.opened k hlt identity createdAt savedAt hopened)
    · exact hnew identity createdAt savedAt hopened

/-- A request that leaves the stores alone and submits to no challenge. -/
theorem StoresKept.quiet {r : ResetRequest} (hr : requests[n]? = some r)
    (hkept : StoresKept rt settings svc limiter w requests n (n + 1) stores)
    (hguess : ∀ k < n, w.opened rt settings limiter requests k ≠ none → r.isGuess rt k = false)
    (hnew : w.opened rt settings limiter requests n = none) :
    StoresKept rt settings svc limiter w requests (n + 1) (n + 1) stores := by
  refine hkept.serve (fun _ _ hlacks => hlacks) ?_
    (fun _ _ _ h => absurd (hnew.symm.trans h) (by simp))
  intro k hk identity createdAt savedAt hopened hchallenge
  have hnot := hguess k hk (by rw [hopened]; simp)
  exact hchallenge.other hr hk hnot id fun _ _ hholds => Or.inl hholds

/-- A request that saves a record under the id drawn for it. -/
theorem StoresKept.save {ip email : String} {accountType : Option AccountType} {record : Record}
    {readAt savedAt : Instant} {ttlSeconds : ℤ}
    (hadm : w.Admissible rt settings limiter requests)
    (hr : requests[n]? = some (.start ip email accountType readAt savedAt))
    (hkept : StoresKept rt settings svc limiter w requests n (n + 1) stores)
    (hnew : ∀ identity createdAt savedAt',
      w.opened rt settings limiter requests n = some (identity, createdAt, savedAt') →
      ChallengeKept rt svc w requests (n + 1) (n + 1)
        (stores.save svc savedAt .reset (w.challengeId n) record ttlSeconds) n identity createdAt
        savedAt') :
    StoresKept rt settings svc limiter w requests (n + 1) (n + 1)
      (stores.save svc savedAt .reset (w.challengeId n) record ttlSeconds) := by
  obtain ⟨hn, -⟩ := List.getElem?_eq_some_iff.mp hr
  refine hkept.serve (fun id hid hlacks => hlacks.save (hid n (Nat.lt_succ_self n))) ?_ hnew
  intro k hk identity createdAt savedAt' hopened hchallenge
  have hne : w.challengeId k ≠ w.challengeId n := fun heq => by
    have := hadm.challenge_inj k (by omega) n hn heq
    omega
  exact hchallenge.other hr hk rfl (fun hlacks => hlacks.save hne)
    fun _ _ hholds => hholds.save hne

/-! ### The session -/

/-- The challenge id in the reply to request `k`. -/
def World.handed (w : World) (rt : Runtime) (settings : Settings) (limiter : Limiter σ)
    (requests : List ResetRequest) (k : ℕ) : String :=
  if (w.opened rt settings limiter requests k).isSome then w.challengeId k else w.responseId k

/-- The session after `n` requests. -/
structure SessionKept (rt : Runtime) (settings : Settings) (svc : OtpService) (limiter : Limiter σ)
    (w : World) (requests : List ResetRequest) (n : ℕ) (s : ResetSession σ) : Prop where
  length : s.replies.length = n
  limiter_eq : s.limiter = limiter.after rt (requests.take n)
  handed : ∀ k < n, (s.replies[k]?.bind ResetReply.challengeId?) =
    if handsOut rt settings limiter requests k = true then
      some (w.handed rt settings limiter requests k) else none
  stores : StoresKept rt settings svc limiter w requests n n s.stores

variable {s : ResetSession σ}

theorem sessionKept_init :
    SessionKept rt settings svc limiter w requests 0 ⟨OtpStores.empty, limiter.init, []⟩ where
  length := rfl
  limiter_eq := rfl
  handed := fun k hk => absurd hk (Nat.not_lt_zero k)
  stores := ⟨fun challengeId _ => lacks_empty svc .reset challengeId,
    fun k hk => absurd hk (Nat.not_lt_zero k)⟩

theorem challengeIdField_of_token {challengeId : String} (h : isChallengeToken challengeId = true) :
    challengeIdField challengeId = true := by
  have hlen : challengeId.length = 43 := by
    simp only [isChallengeToken, Bool.and_eq_true, decide_eq_true_eq] at h
    exact h.1
  simp [challengeIdField, hasLength, hlen]

theorem resolve_answered (hkept : SessionKept rt settings svc limiter w requests n s) (k : ℕ) :
    (Target.answered k).resolve s.replies =
      if k < n ∧ handsOut rt settings limiter requests k = true then
        w.handed rt settings limiter requests k else "" := by
  show (s.replies[k]?.bind ResetReply.challengeId?).getD "" = _
  by_cases hk : k < n
  · rw [hkept.handed k hk]
    by_cases hout : handsOut rt settings limiter requests k = true
    · rw [if_pos hout, if_pos ⟨hk, hout⟩]
      rfl
    · rw [if_neg hout, if_neg fun h => hout h.2]
      rfl
  · have hnone : s.replies[k]? = none := by
      rw [List.getElem?_eq_none_iff, hkept.length]
      exact not_lt.mp hk
    rw [hnone, if_neg fun h => hk h.1]
    rfl

/-- A request names an id of the right shape when it names one it was handed, or a literal one. -/
theorem challengeIdField_resolve (hadm : w.Admissible rt settings limiter requests)
    (hn : n ≤ requests.length) (hkept : SessionKept rt settings svc limiter w requests n s)
    (target : Target) :
    challengeIdField (target.resolve s.replies) = target.named rt settings limiter requests n := by
  cases target with
  | literal challengeId => rfl
  | answered k =>
    rw [resolve_answered hkept k]
    unfold Target.named
    by_cases hk : k < n ∧ handsOut rt settings limiter requests k = true
    · rw [if_pos hk]
      have htoken : isChallengeToken (w.handed rt settings limiter requests k) = true := by
        unfold World.handed
        split
        · exact hadm.challenge_token k (by omega)
        · exact hadm.response_token k (by omega)
      simp [challengeIdField_of_token htoken, hk.1, hk.2]
    · rw [if_neg hk]
      have hempty : challengeIdField "" = false := by decide
      rw [hempty]
      rcases not_and_or.mp hk with hlate | hout
      · simp [hlate]
      · simp [hout]

/-- A challenge was opened by a start request that was answered with its id. -/
theorem opened_eq_some
    (h : w.opened rt settings limiter requests k = some (identity, createdAt, savedAt)) :
    ∃ ip email accountType email', requests[k]? =
      some (.start ip email accountType createdAt savedAt) ∧
      handsOut rt settings limiter requests k = true ∧ w.creation k = .saved ∧
      emailField rt email = some email' ∧ w.accountFor rt email' accountType = some identity := by
  unfold World.opened at h
  split at h
  · rename_i ip email accountType readAt savedAt' hr
    split_ifs at h with hout
    obtain ⟨i, hi, heq⟩ := Option.map_eq_some_iff.mp h
    obtain ⟨email', hemail, haccount⟩ := Option.bind_eq_some_iff.mp hi
    simp only [Prod.mk.injEq] at heq
    obtain ⟨rfl, rfl, rfl⟩ := heq
    exact ⟨ip, email, accountType, email', hr, hout.1, hout.2, hemail, haccount⟩
  · exact absurd h (by simp)

theorem opened_eq_none_of_handsOut (hout : handsOut rt settings limiter requests k = false) :
    w.opened rt settings limiter requests k = none := by
  cases hopened : w.opened rt settings limiter requests k with
  | none => rfl
  | some opened =>
    obtain ⟨identity, createdAt, savedAt⟩ := opened
    obtain ⟨_, _, _, _, -, hhands, -⟩ := opened_eq_some hopened
    exact absurd (hout.symm.trans hhands) (by simp)

/-- The session goes on by one reply. -/
theorem SessionKept.next {stores' : OtpStores} {l : σ} {reply : ResetReply}
    (hkept : SessionKept rt settings svc limiter w requests n s)
    (hlimiter : l = limiter.after rt (requests.take (n + 1)))
    (hreply : reply.challengeId? = if handsOut rt settings limiter requests n = true then
      some (w.handed rt settings limiter requests n) else none)
    (hstores : StoresKept rt settings svc limiter w requests (n + 1) (n + 1) stores') :
    SessionKept rt settings svc limiter w requests (n + 1)
      ⟨stores', l, s.replies ++ [reply]⟩ where
  length := by rw [List.length_append, hkept.length, List.length_singleton]
  limiter_eq := hlimiter
  handed := by
    intro k hk
    rcases Nat.lt_succ_iff_lt_or_eq.mp hk with hlt | rfl
    · rw [List.getElem?_append_left (by rw [hkept.length]; exact hlt)]
      exact hkept.handed k hlt
    · rw [List.getElem?_append_right hkept.length.le, hkept.length, Nat.sub_self]
      exact hreply
  stores := hstores

/-- A challenge that was just created is held, and counts nothing. -/
theorem challengeKept_created (n : ℕ) (stores : OtpStores) (identity : StoredIdentity)
    (readAt savedAt : Instant) :
    ChallengeKept rt svc w requests (n + 1) (n + 1)
      (stores.save svc savedAt .reset (w.challengeId n) (w.recordFor rt svc n identity readAt)
        svc.ttlSeconds) n identity readAt savedAt := by
  have hmax : max (svc.ttlSeconds : ℤ) 1 = svc.ttlSeconds := by
    have := svc.ttl_ge
    omega
  have hholds : (stores.save svc savedAt .reset (w.challengeId n)
      (w.recordFor rt svc n identity readAt) svc.ttlSeconds).Holds svc .reset (w.challengeId n)
        (w.recordFor rt svc n identity readAt)
          (savedAt.seconds + (max (svc.ttlSeconds : ℤ) 1 : ℤ)) :=
    holds_save_self
  rw [hmax] at hholds
  have hfailed : w.failedBefore n (n + 1) = false := by
    rw [World.failedBefore, List.any_eq_false]
    intro j hj
    have hlt := List.mem_range.mp hj
    have hnot : ¬ n < j := by omega
    simp [hnot]
  have hpos := svc.attempts_ge
  exact Or.inr ⟨0, identity.databaseId, hholds, by omega, hfailed,
    Or.inl (guesses_self rt requests n).symm⟩

/-- What one start request does to a session. -/
theorem SessionKept.start {ip email : String} {accountType : Option AccountType}
    {readAt savedAt : Instant} (hready : settings.requireReady = .ok svc)
    (hadm : w.Admissible rt settings limiter requests)
    (hr : requests[n]? = some (.start ip email accountType readAt savedAt))
    (hkept : SessionKept rt settings svc limiter w requests n s) :
    let s' := s.serve rt settings limiter w (.start ip email accountType readAt savedAt)
    SessionKept rt settings svc limiter w requests (n + 1) s' ∧
      ∃ reply, s'.replies = s.replies ++ [reply] ∧
        reply.erased = startReply rt settings limiter (limiter.after rt (requests.take n)) ip email
          readAt := by
  intro s'
  obtain ⟨hn, -⟩ := List.getElem?_eq_some_iff.mp hr
  have hstores := hkept.stores.failDeliveries hready hadm hn
  have hout : handsOut rt settings limiter requests n = (startReply rt settings limiter
      (limiter.after rt (requests.take n)) ip email readAt).challengeId?.isSome := by
    rw [handsOut, hr]
  have hafter : limiter.after rt (requests.take (n + 1)) =
      match emailField rt email with
      | none => limiter.after rt (requests.take n)
      | some email => (limiter.check (limiter.after rt (requests.take n)) ip email readAt).2 := by
    rw [Limiter.after, List.take_add_one, hr, List.foldl_append]
    rfl
  have hquiet : handsOut rt settings limiter requests n = false →
      StoresKept rt settings svc limiter w requests (n + 1) (n + 1)
        (w.failDeliveries settings n s.stores) := fun hnot =>
    hstores.quiet hr (fun _ _ _ => rfl) (opened_eq_none_of_handsOut hnot)
  simp only [s', ResetSession.serve, hkept.length]
  unfold startReply at hout ⊢
  -- along the branches of the route: the address, the limiter, the mask, the account, the store
  cases hemail : emailField rt email with
  | none =>
    rw [hemail] at hafter hout
    simp only at hafter hout ⊢
    have hnot : handsOut rt settings limiter requests n = false := hout
    refine ⟨hkept.next (hafter ▸ hkept.limiter_eq) (by rw [hnot]; rfl) (hquiet hnot), _, rfl, rfl⟩
  | some v =>
    rw [hemail] at hafter hout
    simp only [← hkept.limiter_eq] at hafter hout ⊢
    cases hcheck : limiter.check s.limiter ip v readAt with
    | mk answer l =>
    rw [hcheck] at hafter hout
    cases answer with
    | some retryAfter =>
      have hnot : handsOut rt settings limiter requests n = false := hout
      refine ⟨hkept.next hafter.symm (by rw [hnot]; rfl) (hquiet hnot), _, rfl, rfl⟩
    | none =>
      simp only [World.startReset] at hout ⊢
      by_cases hmask : hasLength 3 255 (maskEmail (rt.normalizeEmail v)) = true
      · rw [if_pos hmask] at hout
        have hhands : handsOut rt settings limiter requests n = true := hout
        simp only [hmask, if_true]
        -- the id that is handed out is the one of the challenge, if there is one
        have hopened : w.opened rt settings limiter requests n = if w.creation n = .saved then
            (w.accountFor rt v accountType).map fun identity => (identity, readAt, savedAt)
            else none := by
          unfold World.opened
          rw [hr]
          simp only [hhands, hemail, true_and, Option.bind_some]
        cases haccount : w.accountFor rt v accountType with
        | none =>
          rw [haccount] at hopened
          have hnone : w.opened rt settings limiter requests n = none := by
            rw [hopened]
            split <;> rfl
          refine ⟨hkept.next hafter.symm ?_ (hstores.quiet hr (fun _ _ _ => rfl) hnone),
            _, rfl, rfl⟩
          rw [if_pos hhands, World.handed, hnone]
          rfl
        | some identity =>
          rw [haccount] at hopened
          simp only [World.startPasswordReset, hready]
          cases hcreation : w.creation n with
          | saved =>
            have hsome : w.opened rt settings limiter requests n =
                some (identity, readAt, savedAt) := by
              rw [hopened, if_pos hcreation]
              rfl
            refine ⟨hkept.next hafter.symm ?_ (hstores.save hadm hr ?_), _, rfl, rfl⟩
            · rw [if_pos hhands, World.handed, hsome]
              rfl
            · intro identity' createdAt savedAt' heq
              obtain ⟨rfl, rfl, rfl⟩ : identity = identity' ∧ readAt = createdAt ∧
                  savedAt = savedAt' := by
                simpa [Prod.mk.injEq] using hsome.symm.trans heq
              exact challengeKept_created n _ identity readAt savedAt
          | unavailable written =>
            -- whatever was written, its id goes to nobody
            have hnone : w.opened rt settings limiter requests n = none := by
              rw [hopened, if_neg (by simp [hcreation])]
            refine ⟨hkept.next hafter.symm ?_ ?_, _, rfl, rfl⟩
            · rw [if_pos hhands, World.handed, hnone]
              rfl
            · cases written with
              | true => exact hstores.save hadm hr fun _ _ _ heq =>
                  absurd (hnone.symm.trans heq) (by simp)
              | false => exact hstores.quiet hr (fun _ _ _ => rfl) hnone
      · rw [if_neg hmask] at hout
        have hnot : handsOut rt settings limiter requests n = false := hout
        simp only [hmask]
        refine ⟨hkept.next hafter.symm (by rw [hnot]; rfl) (hquiet hnot), _, rfl, rfl⟩

/-- A submission under an id that no challenge was created with. -/
theorem StoresKept.verifyForeign {challengeId : String} {r : ResetRequest} (email code : String)
    (readAt : Instant) (hr : requests[n]? = some r)
    (hkept : StoresKept rt settings svc limiter w requests n (n + 1) stores)
    (hid : ∀ k < n, challengeId ≠ w.challengeId k)
    (hguess : ∀ k < n, w.opened rt settings limiter requests k ≠ none → r.isGuess rt k = false)
    (hnew : w.opened rt settings limiter requests n = none) :
    let res := stores.verifyReset rt svc r.ends readAt challengeId email code
    res.1 = .absent ∧ StoresKept rt settings svc limiter w requests (n + 1) (n + 1) res.2 := by
  intro res
  have hlacks := hkept.foreign challengeId hid
  refine ⟨(verifyReset_lacks hlacks).1, hkept.serve ?_ ?_
    (fun _ _ _ h => absurd (hnew.symm.trans h) (by simp))⟩
  · intro id _ hlacks'
    by_cases hsame : id = challengeId
    · rw [hsame]
      exact (verifyReset_lacks hlacks).2
    · exact hlacks'.verifyReset hsame
  · intro k hk identity createdAt savedAt hopened hchallenge
    have hne : w.challengeId k ≠ challengeId := (hid k hk).symm
    exact hchallenge.other hr hk (hguess k hk (by rw [hopened]; simp))
      (fun hlacks' => hlacks'.verifyReset hne) fun _ _ hholds => hholds.verifyReset hne

/-- A submission to a challenge that was created. -/
theorem StoresKept.verifyGuess {email code : String} {readAt now : Instant} (email' : String)
    (hmac : HmacCollisionFree rt svc.hmacSecret) (hturn : InTurn requests)
    (hadm : w.Admissible rt settings limiter requests)
    (hr : requests[n]? = some (.verify (.answered k) email code readAt now)) (hk : k < n)
    (hguess : (ResetRequest.verify (.answered k) email code readAt now).isGuess rt k = true)
    (hopened : w.opened rt settings limiter requests k = some (identity, createdAt, savedAt))
    (hkept : StoresKept rt settings svc limiter w requests n (n + 1) stores) :
    let res := stores.verifyReset rt svc now readAt (w.challengeId k) email' code
    let locks := svc.finds (createdAt.whole + svc.ttlSeconds) (savedAt.seconds + svc.ttlSeconds)
      readAt now ∧ w.failedBefore k (n + 1) = false ∧ guesses rt requests k n + 1 = svc.maxAttempts
    StoresKept rt settings svc limiter w requests (n + 1) (n + 1) res.2 ∧
      (locks → res.1.result = .error .passwordResetOtpAttemptsExceeded) ∧
      (¬ locks → res.1.result = .error .passwordResetOtpInvalid) := by
  intro res locks
  obtain ⟨hn, hget⟩ := List.getElem?_eq_some_iff.mp hr
  have hmem : ResetRequest.verify (.answered k) email code readAt now ∈ requests :=
    hget ▸ List.getElem_mem hn
  have hcode : code.length = 6 := by
    simp only [ResetRequest.isGuess, Bool.and_eq_true] at hguess
    exact isCodeField_length hguess.2
  -- the submitted code is not the mailed one, so the digests differ
  have hwrong : ∀ email', ¬ (w.startFor svc k identity createdAt).Matches rt svc (w.challengeId k)
      email' code := by
    intro email' hmatch
    have hlen : (w.code k).length = code.length :=
      (isOtpCode_length (hadm.code_otp k (by omega))).trans hcode.symm
    have hsame : w.code k = code := (codeDigest_inj hmac hlen hmatch.2).2
    exact hadm.blind _ hmem k email code readAt now rfl (by rw [hopened]; simp) hsame.symm
  obtain ⟨hself, hreply⟩ := ChallengeKept.guess hturn hr hk hguess hwrong email'
    (hkept.opened k hk identity createdAt savedAt hopened)
  refine ⟨hkept.serve ?_ ?_ ?_, hreply⟩
  · intro id hid hlacks
    exact hlacks.verifyReset (hid k (by omega))
  · intro j hj identity' createdAt' savedAt' hopened' hchallenge
    by_cases hjk : j = k
    · -- the challenge that was submitted to
      subst hjk
      obtain ⟨rfl, rfl, rfl⟩ : identity = identity' ∧ createdAt = createdAt' ∧
          savedAt = savedAt' := by
        simpa [Prod.mk.injEq] using hopened.symm.trans hopened'
      exact hself
    · have hne : w.challengeId j ≠ w.challengeId k := fun heq =>
        hjk (hadm.challenge_inj j (by omega) k (by omega) heq)
      have hnot :
        (ResetRequest.verify (.answered k) email code readAt now).isGuess rt j = false := by
        simp [ResetRequest.isGuess, Ne.symm hjk]
      exact hchallenge.other hr hj hnot (fun hlacks => hlacks.verifyReset hne)
        fun _ _ hholds => hholds.verifyReset hne
  · intro identity' createdAt' savedAt' hopened'
    obtain ⟨_, _, _, _, hstart, -⟩ := opened_eq_some hopened'
    exact absurd (hr.symm.trans hstart) (by simp)

theorem verifyCode_of_error {challengeId email code : String} {readAt now : Instant} {e : ApiError}
    (hready : settings.requireReady = .ok svc)
    (h : (stores.verifyReset rt svc now readAt challengeId email code).1.result = .error e) :
    verifyCode rt settings stores challengeId email code readAt now =
      (.error e, (stores.verifyReset rt svc now readAt challengeId email code).2) := by
  rw [verifyCode, hready]
  simp only [h]

/-- A submission that passes the field checks is refused, as exceeded when it locks a challenge
    out. -/
theorem SessionKept.submit {target : Target} {email code : String} {readAt now : Instant}
    (email' : String) (hready : settings.requireReady = .ok svc)
    (hmac : HmacCollisionFree rt svc.hmacSecret)
    (hturn : InTurn requests) (hadm : w.Admissible rt settings limiter requests)
    (hr : requests[n]? = some (.verify target email code readAt now))
    (hkept : SessionKept rt settings svc limiter w requests n s)
    (hstores : StoresKept rt settings svc limiter w requests n (n + 1) stores)
    (hemail : (emailField rt email).isSome = true) (hcode : isCodeField rt code = true)
    (hnamed : target.named rt settings limiter requests n = true) :
    ∃ stores', verifyCode rt settings stores (target.resolve s.replies) email' code readAt now =
        (if w.locksOut rt settings limiter requests n = true then
          .error .passwordResetOtpAttemptsExceeded else .error .passwordResetOtpInvalid, stores') ∧
      StoresKept rt settings svc limiter w requests (n + 1) (n + 1) stores' := by
  obtain ⟨hn, hget⟩ := List.getElem?_eq_some_iff.mp hr
  have hmem : ResetRequest.verify target email code readAt now ∈ requests :=
    hget ▸ List.getElem_mem hn
  have hnone : w.opened rt settings limiter requests n = none := by
    apply opened_eq_none_of_handsOut
    rw [handsOut, hr]
  -- an id of no challenge: nothing is found, and nothing locked out
  have hforeign : (∀ k < n, target.resolve s.replies ≠ w.challengeId k) →
      (∀ k < n, w.opened rt settings limiter requests k ≠ none →
        (ResetRequest.verify target email code readAt now).isGuess rt k = false) →
      w.locksOut rt settings limiter requests n = false →
      ∃ stores', verifyCode rt settings stores (target.resolve s.replies) email' code readAt now =
          (if w.locksOut rt settings limiter requests n = true then
            .error .passwordResetOtpAttemptsExceeded else .error .passwordResetOtpInvalid,
            stores') ∧
        StoresKept rt settings svc limiter w requests (n + 1) (n + 1) stores' := by
    intro hid hguess hlocks
    obtain ⟨habsent, hstores'⟩ := hstores.verifyForeign email' code readAt hr hid hguess hnone
    refine ⟨_, ?_, hstores'⟩
    have hinvalid : (stores.verifyReset rt svc now readAt (target.resolve s.replies) email'
        code).1.result = .error .passwordResetOtpInvalid := by
      have habsent' : (stores.verifyReset rt svc now readAt (target.resolve s.replies) email'
        code).1 = .absent := habsent
      rw [habsent']
      rfl
    rw [verifyCode_of_error hready hinvalid, hlocks]
    rfl
  cases target with
  | literal challengeId =>
    apply hforeign
    · intro k hk
      exact hadm.literal_ne _ hmem challengeId email code readAt now rfl k (by omega)
    · intro k _ _
      simp [ResetRequest.isGuess]
    · rw [World.locksOut, hr]
  | answered k =>
    have hk : k < n ∧ handsOut rt settings limiter requests k = true := by
      simpa [Target.named] using hnamed
    have hresolve : (Target.answered k).resolve s.replies =
        w.handed rt settings limiter requests k := by
      rw [resolve_answered hkept k, if_pos hk]
    cases hopened : w.opened rt settings limiter requests k with
    | none =>
      -- the id in the reply was drawn for show
      have hresponse : w.handed rt settings limiter requests k = w.responseId k := by
        rw [World.handed, hopened]
        rfl
      apply hforeign
      · intro j hj
        rw [hresolve, hresponse]
        exact hadm.response_ne k (by omega) j (by omega)
      · intro j _ hj
        have hjk : j ≠ k := fun heq => hj (heq ▸ hopened)
        simp [ResetRequest.isGuess, Ne.symm hjk]
      · rw [World.locksOut, hr]
        simp only [hopened]
    | some opened =>
      obtain ⟨identity, createdAt, savedAt⟩ := opened
      have hchallenge : w.handed rt settings limiter requests k = w.challengeId k := by
        rw [World.handed, hopened]
        rfl
      have hguess :
        (ResetRequest.verify (.answered k) email code readAt now).isGuess rt k = true := by
        simp [ResetRequest.isGuess, hemail, hcode]
      obtain ⟨-, httl, hmax, -⟩ := requireReady_eq_ok hready
      have hlocks : w.locksOut rt settings limiter requests n = true ↔
          svc.finds (createdAt.whole + svc.ttlSeconds) (savedAt.seconds + svc.ttlSeconds) readAt
              now ∧ w.failedBefore k (n + 1) = false ∧
            guesses rt requests k n + 1 = svc.maxAttempts := by
        rw [World.locksOut, hr]
        simp only [hopened, hguess, hk.1, hmax, Bool.and_eq_true, decide_eq_true_eq, true_and,
          Bool.not_eq_true', inLifetime_iff hready, and_true, decide_true, and_assoc]
      obtain ⟨hstores', hexceeded, hinvalid⟩ := hstores.verifyGuess email' hmac hturn hadm
        hr hk.1 hguess hopened
      rw [hresolve, hchallenge]
      refine ⟨_, ?_, hstores'⟩
      by_cases hlock : w.locksOut rt settings limiter requests n = true
      · rw [if_pos hlock, verifyCode_of_error hready (hexceeded (hlocks.mp hlock))]
      · rw [if_neg hlock, verifyCode_of_error hready (hinvalid fun h => hlock (hlocks.mpr h))]

/-- What one verify request does to a session. -/
theorem SessionKept.verify {target : Target} {email code : String} {readAt now : Instant}
    (hready : settings.requireReady = .ok svc) (hmac : HmacCollisionFree rt svc.hmacSecret)
    (hturn : InTurn requests) (hadm : w.Admissible rt settings limiter requests)
    (hr : requests[n]? = some (.verify target email code readAt now))
    (hkept : SessionKept rt settings svc limiter w requests n s) :
    let s' := s.serve rt settings limiter w (.verify target email code readAt now)
    SessionKept rt settings svc limiter w requests (n + 1) s' ∧
      ∃ reply, s'.replies = s.replies ++ [reply] ∧
        reply.erased = publicReply rt settings limiter requests n
          (w.locksOut rt settings limiter requests n) (.verify target email code readAt now) := by
  intro s'
  obtain ⟨hn, hget⟩ := List.getElem?_eq_some_iff.mp hr
  have hstores := hkept.stores.failDeliveries hready hadm hn
  have hafter : s.limiter = limiter.after rt (requests.take (n + 1)) := by
    rw [hkept.limiter_eq, Limiter.after, Limiter.after, List.take_add_one, hr, List.foldl_append]
    rfl
  have hnot : handsOut rt settings limiter requests n = false := by
    rw [handsOut, hr]
  have hnone : w.opened rt settings limiter requests n = none := opened_eq_none_of_handsOut hnot
  have hid := challengeIdField_resolve hadm hn.le hkept target
  -- a refused request submits nothing
  have hrefused : ¬ ((emailField rt email).isSome = true ∧
      target.named rt settings limiter requests n = true ∧ isCodeField rt code = true) →
      SessionKept rt settings svc limiter w requests (n + 1)
        ⟨w.failDeliveries settings n s.stores, s.limiter, s.replies ++ [.unprocessable]⟩ := by
    intro hnotAll
    refine hkept.next hafter (by rw [hnot]; rfl) (hstores.quiet hr ?_ hnone)
    intro k hk hopened
    by_contra hguess
    obtain ⟨htarget, hemail, hcode⟩ : target = .answered k ∧
        (emailField rt email).isSome = true ∧ isCodeField rt code = true := by
      simpa [ResetRequest.isGuess] using hguess
    refine hnotAll ⟨hemail, ?_, hcode⟩
    have hout : handsOut rt settings limiter requests k = true := by
      by_contra hout
      exact hopened (opened_eq_none_of_handsOut (by simpa using hout))
    rw [htarget]
    simp [Target.named, hk, hout]
  simp only [s', ResetSession.serve, hkept.length, publicReply]
  cases hemail : emailField rt email with
  | none =>
    simp only
    refine ⟨hrefused (by simp [hemail]), .unprocessable, rfl, ?_⟩
    rw [if_neg (by simp)]
    rfl
  | some v =>
    simp only [hid]
    by_cases hfields : target.named rt settings limiter requests n = true ∧
        isCodeField rt code = true
    · rw [if_pos hfields, if_pos ⟨rfl, hfields⟩]
      obtain ⟨stores', hcall, hstores'⟩ := hkept.submit v hready hmac hturn hadm hr hstores
        (by rw [hemail]; rfl) hfields.2 hfields.1
      rw [hcall]
      refine ⟨hkept.next hafter ?_ hstores', _, rfl, ?_⟩
      · rw [hnot]
        split <;> rfl
      · split <;> rfl
    · rw [if_neg hfields, if_neg fun h => hfields h.2]
      exact ⟨hrefused fun h => hfields h.2, .unprocessable, rfl, rfl⟩

/-! ### Whole sessions -/

/-- **Run of a session.** Every reply is the public one, given whether its request locks a challenge
    out. -/
theorem session_kept (hready : settings.requireReady = .ok svc)
    (hmac : HmacCollisionFree rt svc.hmacSecret) (hturn : InTurn requests)
    (hadm : w.Admissible rt settings limiter requests) (n : ℕ) (hn : n ≤ requests.length) :
    let s := resetSession rt settings limiter w (requests.take n)
    SessionKept rt settings svc limiter w requests n s ∧
      ∀ k < n, s.replies[k]?.map ResetReply.erased = requests[k]?.map
        (publicReply rt settings limiter requests k
          (w.locksOut rt settings limiter requests k)) := by
  induction n with
  | zero => exact ⟨sessionKept_init, fun k hk => absurd hk (Nat.not_lt_zero k)⟩
  | succ n ih =>
    obtain ⟨hkept, hreplies⟩ := ih (by omega)
    have hr : requests[n]? = some requests[n] := List.getElem?_eq_getElem hn
    have hserve : resetSession rt settings limiter w (requests.take (n + 1)) =
        (resetSession rt settings limiter w (requests.take n)).serve rt settings limiter w
          requests[n] := by
      rw [resetSession, List.take_add_one, hr, List.foldl_append]
      rfl
    have hstep : SessionKept rt settings svc limiter w requests (n + 1)
        (resetSession rt settings limiter w (requests.take (n + 1))) ∧
        ∃ reply, (resetSession rt settings limiter w (requests.take (n + 1))).replies =
          (resetSession rt settings limiter w (requests.take n)).replies ++ [reply] ∧
          reply.erased = publicReply rt settings limiter requests n
            (w.locksOut rt settings limiter requests n) requests[n] := by
      rw [hserve]
      generalize requests[n] = request at hr
      cases request with
      | start ip email accountType readAt savedAt => exact hkept.start hready hadm hr
      | verify target email code readAt now => exact hkept.verify hready hmac hturn hadm hr
    obtain ⟨hkept', reply, hlist, herased⟩ := hstep
    refine ⟨hkept', fun k hk => ?_⟩
    rw [hlist]
    rcases Nat.lt_succ_iff_lt_or_eq.mp hk with hlt | rfl
    · rw [List.getElem?_append_left (by rw [hkept.length]; exact hlt)]
      exact hreplies k hlt
    · rw [List.getElem?_append_right hkept.length.le, hkept.length, Nat.sub_self, hr]
      exact congrArg some herased

/-- A request that locks a challenge out is answered as such, and would be refused otherwise. -/
theorem publicReply_of_locksOut {r : ResetRequest} (hr : requests[n]? = some r)
    (hlocks : w.locksOut rt settings limiter requests n = true) :
    publicReply rt settings limiter requests n true r ≠
      publicReply rt settings limiter requests n false r := by
  unfold World.locksOut at hlocks
  rw [hr] at hlocks
  split at hlocks
  · rename_i k email code readAt now heq
    obtain rfl := Option.some.inj heq
    split at hlocks
    · rename_i identity createdAt savedAt hopened
      obtain ⟨_, _, _, _, -, hhands, -⟩ := opened_eq_some hopened
      simp only [Bool.and_eq_true, ResetRequest.isGuess, decide_eq_true_eq] at hlocks
      obtain ⟨⟨⟨⟨hk, ⟨-, hemail⟩, hcode⟩, -⟩, -⟩, -⟩ := hlocks
      have hfields : (emailField rt email).isSome = true ∧
          (Target.answered k).named rt settings limiter requests n = true ∧
          isCodeField rt code = true :=
        ⟨hemail, by simp [Target.named, hk, hhands], hcode⟩
      simp only [publicReply]
      rw [if_pos hfields, if_pos hfields]
      decide
    · exact absurd hlocks (by simp)
  · exact absurd hlocks (by simp)

/-- **What the replies reveal.** For the same requests, the replies in two worlds are the same, up
    to the challenge ids, exactly when the same requests are the `max_attempts`-th submission to a
    live, real challenge in both. -/
theorem replies_equal_iff {w₁ w₂ : World} (henabled : settings.ourosEmailOtpEnabled = true)
    (hmac : ∀ secret, settings.ourosEmailOtpHmacSecret = some secret → HmacCollisionFree rt secret)
    (hturn : InTurn requests) (h₁ : w₁.Admissible rt settings limiter requests)
    (h₂ : w₂.Admissible rt settings limiter requests) :
    (resetSession rt settings limiter w₁ requests).replies.map ResetReply.erased =
        (resetSession rt settings limiter w₂ requests).replies.map ResetReply.erased ↔
      ∀ n < requests.length, w₁.locksOut rt settings limiter requests n =
        w₂.locksOut rt settings limiter requests n := by
  obtain ⟨svc, hready, -⟩ := requireReady_of_enabled settings henabled
  have hcollision := hmac svc.hmacSecret (requireReady_eq_ok hready).1
  obtain ⟨hkept₁, hreplies₁⟩ := session_kept hready hcollision hturn h₁ requests.length le_rfl
  obtain ⟨hkept₂, hreplies₂⟩ := session_kept hready hcollision hturn h₂ requests.length le_rfl
  rw [List.take_length] at hkept₁ hkept₂ hreplies₁ hreplies₂
  constructor
  · intro hequal n hn
    have hr : requests[n]? = some requests[n] := List.getElem?_eq_getElem hn
    have hreply := congrArg (fun replies : List ResetReply => replies[n]?) hequal
    simp only [List.getElem?_map] at hreply
    rw [hreplies₁ n hn, hreplies₂ n hn, hr] at hreply
    have hsame := Option.some.inj hreply
    by_contra hdiffer
    -- one of the two worlds locks out where the other does not, and the replies differ there
    rcases Bool.eq_false_or_eq_true (w₁.locksOut rt settings limiter requests n) with hl | hl
    · have hother : w₂.locksOut rt settings limiter requests n = false := by
        simpa [hl] using hdiffer
      rw [hl, hother] at hsame
      exact publicReply_of_locksOut hr hl hsame
    · have hother : w₂.locksOut rt settings limiter requests n = true := by simpa [hl] using hdiffer
      rw [hl, hother] at hsame
      exact publicReply_of_locksOut hr hother hsame.symm
  · intro hlocks
    refine List.ext_getElem? fun n => ?_
    rw [List.getElem?_map, List.getElem?_map]
    by_cases hn : n < requests.length
    · rw [hreplies₁ n hn, hreplies₂ n hn, hlocks n hn]
    · have hlate₁ : requests.length ≤ n := not_lt.mp hn
      rw [List.getElem?_eq_none (by rw [hkept₁.length]; exact hlate₁),
        List.getElem?_eq_none (by rw [hkept₂.length]; exact hlate₁)]

/-! ### An account and none -/

/-- Ids for concrete sessions. -/
def sampleId (kind : Char) (k : ℕ) : String :=
  String.ofList (kind :: (List.replicate (42 - k) 'a' ++ List.replicate k 'b'))

/-- The number is the number of `b`s. -/
theorem sampleId_inj {kind kind' : Char} {k k' : ℕ} (h : sampleId kind k = sampleId kind' k') :
    kind = kind' ∧ k = k' := by
  have hlist := congrArg String.toList h
  rw [sampleId, sampleId, String.toList_ofList, String.toList_ofList, List.cons.injEq] at hlist
  refine ⟨hlist.1, ?_⟩
  have hcount := congrArg (List.count 'b') hlist.2
  simpa [List.count_replicate] using hcount

theorem isChallengeToken_sampleId {kind : Char} {k : ℕ} (hkind : isUrlsafe kind = true)
    (hk : k ≤ 42) : isChallengeToken (sampleId kind k) = true := by
  have hletters : isUrlsafe 'a' = true ∧ isUrlsafe 'b' = true := by decide
  rw [isChallengeToken, sampleId, String.length_ofList, String.toList_ofList, Bool.and_eq_true,
    decide_eq_true_eq]
  constructor
  · rw [List.length_cons, List.length_append, List.length_replicate, List.length_replicate]
    omega
  · simp [hkind, hletters]

/-- A world with these tables, in which every creation and delivery succeeds. -/
def sampleWorld (tables : IdentityTables) : World where
  tables := tables
  responseId := sampleId 'r'
  challengeId := sampleId 'c'
  code := fun _ => "123456"
  creation := fun _ => .saved
  failures := fun _ => []

/-- One start request, and `m` wrong codes for what it hands out. -/
def sampleGuesses (m : ℕ) : List ResetRequest :=
  .start "203.0.113.7" "ana@ouros.app" none sampleNow sampleNow ::
    List.replicate m (.verify (.answered 0) "ana@ouros.app" "000000" sampleNow sampleNow)

theorem sampleGuesses_inTurn (m : ℕ) : InTurn (sampleGuesses m) := by
  have hall : ∀ r ∈ sampleGuesses m, r.arrives = sampleNow ∧ r.ends = sampleNow := by
    intro r hr
    rcases List.mem_cons.mp hr with rfl | hr
    · exact ⟨rfl, rfl⟩
    · rw [List.eq_of_mem_replicate hr]
      exact ⟨rfl, rfl⟩
  constructor
  · intro r hr
    rw [(hall r hr).1, (hall r hr).2]
  · refine List.Pairwise.imp_of_mem (fun {a b} ha hb _ => ?_) (List.pairwise_of_forall
      (R := fun _ _ => True) fun _ _ => trivial)
    rw [(hall a ha).2, (hall b hb).1]

theorem sampleWorld_admissible (tables : IdentityTables) {m : ℕ} (hm : m ≤ 5) :
    (sampleWorld tables).Admissible Runtime.sample (Settings.sample none)
      (memoryLimiter Runtime.sample) (sampleGuesses m) := by
  have hlen : (sampleGuesses m).length ≤ 6 := by
    rw [sampleGuesses, List.length_cons, List.length_replicate]
    omega
  have hverify : ∀ r ∈ sampleGuesses m, ∀ target email code readAt now,
      r = .verify target email code readAt now → target = .answered 0 ∧ code = "000000" := by
    intro r hr target email code readAt now heq
    rcases List.mem_cons.mp hr with rfl | hr
    · exact absurd heq (by simp)
    · have hsame := (List.eq_of_mem_replicate hr).symm.trans heq
      simp only [ResetRequest.verify.injEq] at hsame
      exact ⟨hsame.1.symm, hsame.2.2.1.symm⟩
  constructor
  · exact fun k hk => isChallengeToken_sampleId (by decide) (by omega)
  · exact fun k hk => isChallengeToken_sampleId (by decide) (by omega)
  · exact fun k hk k' hk' heq => (sampleId_inj heq).2
  · exact fun k hk k' hk' heq => absurd (sampleId_inj heq).1 (by decide)
  · intro r hr challengeId email code readAt now heq
    exact absurd (hverify r hr _ email code readAt now heq).1 (by simp)
  · intro k _
    show isOtpCode "123456" = true
    decide
  · intro r hr k email code readAt now heq _
    rw [(hverify r hr _ email code readAt now heq).2]
    show "000000" ≠ "123456"
    decide

/-- Four wrong codes do not tell an account from none. -/
theorem replies_equal_four :
    (resetSession Runtime.sample (Settings.sample none) (memoryLimiter Runtime.sample)
        (sampleWorld ⟨[⟨7, "ana@ouros.app", "bcrypt:Senha@123", none, none, none⟩], [], []⟩)
        (sampleGuesses 4)).replies.map ResetReply.erased =
      (resetSession Runtime.sample (Settings.sample none) (memoryLimiter Runtime.sample)
        (sampleWorld ⟨[], [], []⟩) (sampleGuesses 4)).replies.map ResetReply.erased :=
  (replies_equal_iff rfl (fun secret _ => sample_hmacCollisionFree secret) (sampleGuesses_inTurn 4)
    (sampleWorld_admissible _ (by norm_num)) (sampleWorld_admissible _ (by norm_num))).mpr
      (by decide +kernel)

/-- **The fifth tells.** With the account the fifth wrong code is answered 429, without it 400. -/
theorem fifth_guess_reveals :
    ∃ w₁ w₂ : World,
      w₁.Admissible Runtime.sample (Settings.sample none) (memoryLimiter Runtime.sample)
        (sampleGuesses 5) ∧
      w₂.Admissible Runtime.sample (Settings.sample none) (memoryLimiter Runtime.sample)
        (sampleGuesses 5) ∧
      InTurn (sampleGuesses 5) ∧
      (resetSession Runtime.sample (Settings.sample none) (memoryLimiter Runtime.sample) w₁
          (sampleGuesses 5)).replies.map ResetReply.erased ≠
        (resetSession Runtime.sample (Settings.sample none) (memoryLimiter Runtime.sample) w₂
          (sampleGuesses 5)).replies.map ResetReply.erased :=
  ⟨sampleWorld ⟨[⟨7, "ana@ouros.app", "bcrypt:Senha@123", none, none, none⟩], [], []⟩,
    sampleWorld ⟨[], [], []⟩, sampleWorld_admissible _ le_rfl, sampleWorld_admissible _ le_rfl,
    sampleGuesses_inTurn 5,
    by decide +kernel⟩

end OurosAuth
