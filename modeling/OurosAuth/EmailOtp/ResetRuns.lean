import OurosAuth.EmailOtp.Reset
import OurosAuth.Lib.Traced

namespace OurosAuth

open KeyValue Traced

/-!
# Runs of the reset flow

`start_password_reset`, the delivery that ends in the background, `verify_password_reset` and the
clock, in any order and by any number of clients, over either backend.

* `ResetSafe` — the invariant that ties the stored counter, and whether there is a record at all,
  to the history of the challenge;
* `reset_safety` — what every run keeps: a challenge is handed out at most once, compared with at
  most `max_attempts` wrong submissions, never handed out after that or after its expiry, and
  never back once it is gone.
-/

variable {rt : Runtime} {svc : OtpService}

/-! ### Labels, events and steps -/

/-- The steps of the reset flow. -/
inductive ResetLabel
  | tick (t : Instant)
  /-- `start_password_reset`: the record is saved and the delivery scheduled -/
  | start (challengeId email accountType : String) (databaseId : ℤ) (code : String)
      (readAt : Instant)
  /-- `_deliver_password_reset_email` ends -/
  | delivered (challengeId : String) (outcome : Delivery)
  /-- `verify_password_reset`, which read the clock at `readAt` -/
  | verify (challengeId email code : String) (readAt : Instant)

/-- What the steps leave in the history. -/
inductive ResetEvent
  | started (challengeId : String) (start : ResetStart)
  /-- a call read this whole second and answered with this verdict -/
  | verify (challengeId email code : String) (clock : ℤ) (verdict : ResetVerdict)
  deriving DecidableEq

/-- One step of the reset flow. -/
def resetStep (rt : Runtime) (svc : OtpService) (s : OtpState) :
    ResetLabel → Option (OtpState × List ResetEvent)
  | .tick t => (s.tick t).map fun s' => (s', [])
  | .start challengeId email accountType databaseId code readAt =>
      if isOtpCode code = true then
        (s.create svc .reset challengeId readAt
          (resetRecord rt svc challengeId email accountType databaseId code readAt.whole)).map
            fun s' => (s', [.started challengeId
              ⟨email, accountType, databaseId, code, readAt.whole + svc.ttlSeconds⟩])
      else none
  | .delivered challengeId outcome =>
      (s.delivered svc .reset challengeId outcome).map fun s' => (s', [])
  | .verify challengeId email code readAt =>
      if readAt.seconds ≤ s.now.seconds then
        let res := s.stores.verifyReset rt svc s.now readAt challengeId email code
        some ({ s with stores := res.2 },
          [.verify challengeId email code (resetClock svc s.now readAt) res.1])
      else none

/-- The reset flow as a system. -/
def resetSystem (rt : Runtime) (svc : OtpService) : Traced.System OtpState ResetLabel ResetEvent :=
  ⟨resetStep rt svc⟩

variable {s s' : OtpState} {es : List ResetEvent}

theorem resetStep_tick {t : Instant} (h : resetStep rt svc s (.tick t) = some (s', es)) :
    s.now.seconds ≤ t.seconds ∧ s' = { s with now := t } ∧ es = [] := by
  simp only [resetStep, Option.map_eq_some_iff, Prod.mk.injEq] at h
  obtain ⟨s₁, htick, rfl, rfl⟩ := h
  obtain ⟨hle, rfl⟩ := tick_eq_some.mp htick
  exact ⟨hle, rfl, rfl⟩

theorem resetStep_start {challengeId email accountType code : String} {databaseId : ℤ}
    {readAt : Instant}
    (h : resetStep rt svc s (.start challengeId email accountType databaseId code readAt) =
      some (s', es)) :
    isOtpCode code = true ∧
      s.create svc .reset challengeId readAt
        (resetRecord rt svc challengeId email accountType databaseId code readAt.whole) = some s' ∧
      es = [.started challengeId
        ⟨email, accountType, databaseId, code, readAt.whole + svc.ttlSeconds⟩] := by
  simp only [resetStep] at h
  split at h
  · rename_i hcode
    simp only [Option.map_eq_some_iff, Prod.mk.injEq] at h
    obtain ⟨s₁, hcreate, rfl, rfl⟩ := h
    exact ⟨hcode, hcreate, rfl⟩
  · exact absurd h (by simp)

theorem resetStep_delivered {challengeId : String} {outcome : Delivery}
    (h : resetStep rt svc s (.delivered challengeId outcome) = some (s', es)) :
    s.delivered svc .reset challengeId outcome = some s' ∧ es = [] := by
  simp only [resetStep, Option.map_eq_some_iff, Prod.mk.injEq] at h
  obtain ⟨s₁, hdel, rfl, rfl⟩ := h
  exact ⟨hdel, rfl⟩

theorem resetStep_verify {challengeId email code : String} {readAt : Instant}
    (h : resetStep rt svc s (.verify challengeId email code readAt) = some (s', es)) :
    s' = { s with
      stores := (s.stores.verifyReset rt svc s.now readAt challengeId email code).2 } ∧
    es = [.verify challengeId email code (resetClock svc s.now readAt)
      (s.stores.verifyReset rt svc s.now readAt challengeId email code).1] := by
  simp only [resetStep] at h
  split at h
  · rw [Option.some.injEq, Prod.mk.injEq] at h
    exact ⟨h.1.symm, h.2.symm⟩
  · exact absurd h (by simp)

/-- A step of the flow touches the keys of its own challenges only. -/
theorem resetStep_redis {l : ResetLabel} {key : String}
    (hkey : ∀ challengeId, key ≠ redisKey .reset challengeId)
    (hstep : resetStep rt svc s l = some (s', es)) :
    s'.stores.redis.get? key = s.stores.redis.get? key := by
  cases l with
  | tick t =>
    obtain ⟨-, rfl, -⟩ := resetStep_tick hstep
    rfl
  | start challengeId email accountType databaseId code readAt =>
    obtain ⟨-, hcreate, -⟩ := resetStep_start hstep
    obtain ⟨-, -, -, rfl⟩ := create_eq_some.mp hcreate
    exact redis_save_ne (hkey challengeId)
  | delivered challengeId outcome =>
    obtain ⟨hdel, -⟩ := resetStep_delivered hstep
    obtain ⟨-, -, -, -, hst⟩ := delivered_eq_some hdel
    rcases hst with hst | hst <;> rw [hst]
    exact redis_delete_ne (hkey challengeId)
  | verify challengeId email code readAt =>
    obtain ⟨rfl, -⟩ := resetStep_verify hstep
    exact redis_verifyReset_ne (hkey challengeId)

/-! ### Reading the history -/

/-- The number of calls that compared a wrong e-mail or code with the challenge. -/
def wrongVerifies (challengeId : String) (h : List ResetEvent) : ℕ :=
  h.countP fun e =>
    match e with
    | .verify c _ _ _ verdict => c = challengeId && verdict.isWrong
    | _ => false

/-- The number of calls the challenge was handed out to. -/
def acceptedVerifies (challengeId : String) (h : List ResetEvent) : ℕ :=
  h.countP fun e =>
    match e with
    | .verify c _ _ _ verdict => c = challengeId && verdict.isAccepted
    | _ => false

/-- The number of submissions compared with the challenge. -/
def comparedVerifies (challengeId : String) (h : List ResetEvent) : ℕ :=
  wrongVerifies challengeId h + acceptedVerifies challengeId h

@[simp] theorem wrongVerifies_started (challengeId challengeId' : String) (start : ResetStart)
    (h : List ResetEvent) :
    wrongVerifies challengeId (.started challengeId' start :: h) = wrongVerifies challengeId h := by
  simp [wrongVerifies]

@[simp] theorem acceptedVerifies_started (challengeId challengeId' : String) (start : ResetStart)
    (h : List ResetEvent) :
    acceptedVerifies challengeId (.started challengeId' start :: h) =
      acceptedVerifies challengeId h := by
  simp [acceptedVerifies]

theorem wrongVerifies_verify (challengeId challengeId' email code : String) (clock : ℤ)
    (verdict : ResetVerdict) (h : List ResetEvent) :
    wrongVerifies challengeId (.verify challengeId' email code clock verdict :: h) =
      wrongVerifies challengeId h +
        if challengeId' = challengeId ∧ verdict.isWrong = true then 1 else 0 := by
  simp [wrongVerifies, List.countP_cons]

theorem acceptedVerifies_verify (challengeId challengeId' email code : String) (clock : ℤ)
    (verdict : ResetVerdict) (h : List ResetEvent) :
    acceptedVerifies challengeId (.verify challengeId' email code clock verdict :: h) =
      acceptedVerifies challengeId h +
        if challengeId' = challengeId ∧ verdict.isAccepted = true then 1 else 0 := by
  simp [acceptedVerifies, List.countP_cons]

/-- A call is handed the challenge only below the limit and before its expiry. -/
def AcceptJustified (svc : OtpService) (past : List ResetEvent) : ResetEvent → Prop
  | .verify challengeId _ _ clock verdict => verdict.isAccepted = true →
      wrongVerifies challengeId past < svc.maxAttempts ∧
      ∀ start, .started challengeId start ∈ past → clock < start.expiresAt
  | _ => True

/-! ### The invariant -/

/-- What reset safety rests on. -/
structure ResetSafe (rt : Runtime) (svc : OtpService) (s : OtpState) (h : List ResetEvent) :
    Prop where
  stored : ∀ challengeId r, s.stores.record? svc .reset challengeId = some r →
    ∃ start d, .started challengeId start ∈ h ∧
      r = storedReset rt svc challengeId start (wrongVerifies challengeId h) d ∧
      wrongVerifies challengeId h < svc.maxAttempts ∧ acceptedVerifies challengeId h = 0
  started_issued : ∀ challengeId start, .started challengeId start ∈ h → challengeId ∈ s.issued
  compared_issued : ∀ challengeId, comparedVerifies challengeId h ≠ 0 → challengeId ∈ s.issued
  started_unique : ∀ challengeId start start', .started challengeId start ∈ h →
    .started challengeId start' ∈ h → start = start'
  started_small : ∀ challengeId start, .started challengeId start ∈ h → Small start.expiresAt
  budget : ∀ challengeId, comparedVerifies challengeId h ≤ svc.maxAttempts
  once : ∀ challengeId, acceptedVerifies challengeId h ≤ 1
  justified : Justified (AcceptJustified svc) h

theorem resetSafe_init (now : Instant) : ResetSafe rt svc (OtpState.init now) [] where
  stored := by
    intro challengeId r h
    simp [OtpState.init, OtpStores.record?] at h
  started_issued := by simp
  compared_issued := by simp [comparedVerifies, wrongVerifies, acceptedVerifies]
  started_unique := by simp
  started_small := by simp
  budget := by simp [comparedVerifies, wrongVerifies, acceptedVerifies]
  once := by simp [acceptedVerifies]
  justified := trivial

/-- Losing records keeps the invariant. -/
theorem ResetSafe.frame {h : List ResetEvent} (hinv : ResetSafe rt svc s h)
    (hstore : ∀ challengeId r, s'.stores.record? svc .reset challengeId = some r →
      s.stores.record? svc .reset challengeId = some r)
    (hissued : ∀ challengeId ∈ s.issued, challengeId ∈ s'.issued) : ResetSafe rt svc s' h :=
  { hinv with
    stored := fun challengeId r hr => hinv.stored challengeId r (hstore challengeId r hr)
    started_issued := fun challengeId start hmem =>
      hissued challengeId (hinv.started_issued challengeId start hmem)
    compared_issued := fun challengeId hne =>
      hissued challengeId (hinv.compared_issued challengeId hne) }

/-- A new challenge has no past. -/
theorem ResetSafe.start {h : List ResetEvent} {challengeId email accountType code : String}
    {databaseId : ℤ} {readAt : Instant} (hinv : ResetSafe rt svc s h)
    (hcreate : s.create svc .reset challengeId readAt
      (resetRecord rt svc challengeId email accountType databaseId code readAt.whole) = some s') :
    ResetSafe rt svc s' (.started challengeId
      ⟨email, accountType, databaseId, code, readAt.whole + svc.ttlSeconds⟩ :: h) := by
  obtain ⟨-, hnew, -, rfl⟩ := create_eq_some.mp hcreate
  have hzero : comparedVerifies challengeId h = 0 := by
    by_contra hne
    exact hnew (hinv.compared_issued challengeId hne)
  obtain ⟨hwrong, haccepted⟩ := Nat.add_eq_zero_iff.mp hzero
  have hfresh : ∀ start, .started challengeId start ∉ h :=
    fun start hmem => hnew (hinv.started_issued challengeId start hmem)
  have hcompared : ∀ a start, comparedVerifies a (.started challengeId start :: h) =
      comparedVerifies a h := by simp [comparedVerifies]
  constructor
  case stored =>
    intro a r hr
    simp only [wrongVerifies_started, acceptedVerifies_started]
    by_cases ha : a = challengeId
    · -- the saved record counts nothing, and nothing was compared with its id before
      subst ha
      have hsaved := Option.some.inj (hr.symm.trans recordAt_save_self)
      refine ⟨_, databaseId, List.mem_cons_self, ?_, ?_, haccepted⟩
      · rw [hsaved, hwrong]
        exact resetRecord_eq_storedReset ..
      · rw [hwrong]
        exact svc.attempts_ge
    · have hold := recordAt_of_recordAt_save (fun heq => ha (storeKey_inj heq)) hr
      obtain ⟨start, d, hmem, hrest⟩ := hinv.stored a r hold
      exact ⟨start, d, List.mem_cons_of_mem _ hmem, hrest⟩
  case started_issued =>
    intro a start hmem
    rcases List.mem_cons.mp hmem with heq | hmem
    · rw [ResetEvent.started.injEq] at heq
      exact heq.1 ▸ List.mem_cons_self
    · exact List.mem_cons_of_mem _ (hinv.started_issued a start hmem)
  case compared_issued =>
    intro a hne
    rw [hcompared] at hne
    exact List.mem_cons_of_mem _ (hinv.compared_issued a hne)
  case started_unique =>
    intro a start start' hmem hmem'
    rcases List.mem_cons.mp hmem with heq | hmem <;> rcases List.mem_cons.mp hmem' with heq' | hmem'
    · rw [ResetEvent.started.injEq] at heq heq'
      rw [heq.2, heq'.2]
    · rw [ResetEvent.started.injEq] at heq
      exact absurd hmem' (heq.1 ▸ hfresh start')
    · rw [ResetEvent.started.injEq] at heq'
      exact absurd hmem (heq'.1 ▸ hfresh start)
    · exact hinv.started_unique a start start' hmem hmem'
  case started_small =>
    intro a start hmem
    rcases List.mem_cons.mp hmem with heq | hmem
    · rw [ResetEvent.started.injEq] at heq
      rw [heq.2]
      exact small_expiresAt svc readAt
    · exact hinv.started_small a start hmem
  case budget =>
    intro a
    rw [hcompared]
    exact hinv.budget a
  case once =>
    intro a
    rw [acceptedVerifies_started]
    exact hinv.once a
  case justified => exact ⟨trivial, hinv.justified⟩

/-- The stored record of a safe history is one of the flow's, with small numbers. -/
theorem ResetSafe.storedReset {h : List ResetEvent} (hinv : ResetSafe rt svc s h)
    {challengeId : String} {r : Record}
    (hr : s.stores.record? svc .reset challengeId = some r) :
    ∃ start n d, r = OurosAuth.storedReset rt svc challengeId start n d ∧ Small n ∧ Small (n + 1) ∧
      Small start.expiresAt := by
  obtain ⟨start, d, hmem, rfl, hlt, -⟩ := hinv.stored challengeId r hr
  have hmax := svc.attempts_le
  exact ⟨start, _, d, rfl, ⟨by omega, by omega⟩, ⟨by omega, by omega⟩,
    hinv.started_small challengeId start hmem⟩

/-- What one call leaves of the challenge it named fits what it adds to the history. -/
theorem ResetSafe.verify_self {h : List ResetEvent} (challengeId email code : String)
    (readAt : Instant) (hinv : ResetSafe rt svc s h) :
    let res := s.stores.verifyReset rt svc s.now readAt challengeId email code
    let clock := resetClock svc s.now readAt
    let h' := .verify challengeId email code clock res.1 :: h
    (∀ r, res.2.record? svc .reset challengeId = some r → ∃ start d,
      .started challengeId start ∈ h ∧
      r = OurosAuth.storedReset rt svc challengeId start (wrongVerifies challengeId h') d ∧
      wrongVerifies challengeId h' < svc.maxAttempts ∧ acceptedVerifies challengeId h' = 0) ∧
    (comparedVerifies challengeId h' ≠ 0 → challengeId ∈ s.issued) ∧
    comparedVerifies challengeId h' ≤ svc.maxAttempts ∧
    acceptedVerifies challengeId h' ≤ 1 ∧
    (res.1.isAccepted = true → wrongVerifies challengeId h < svc.maxAttempts ∧
      ∀ start, .started challengeId start ∈ h → clock < start.expiresAt) := by
  intro res clock h'
  have hwrong' : wrongVerifies challengeId h' =
      wrongVerifies challengeId h + if res.1.isWrong = true then 1 else 0 := by
    simp [h', wrongVerifies_verify]
  have haccepted' : acceptedVerifies challengeId h' =
      acceptedVerifies challengeId h + if res.1.isAccepted = true then 1 else 0 := by
    simp [h', acceptedVerifies_verify]
  have hbudget : wrongVerifies challengeId h + acceptedVerifies challengeId h ≤ svc.maxAttempts :=
    hinv.budget challengeId
  simp only [comparedVerifies, hwrong', haccepted']
  rcases verifyReset_cases s.now readAt email code (fun r hr => hinv.storedReset hr) with
    ⟨hnotWrong, hnotAccepted, hkeep⟩ | ⟨start, n, d, hr, hlive, hlt, hcase⟩
  · -- nothing was compared
    change res.1.isWrong = false at hnotWrong
    change res.1.isAccepted = false at hnotAccepted
    simp only [hnotWrong, hnotAccepted, Bool.false_eq_true, if_false, Nat.add_zero]
    exact ⟨fun r hr => hinv.stored challengeId r (hkeep r hr), hinv.compared_issued challengeId,
      hbudget, hinv.once challengeId, fun h => absurd h (by simp)⟩
  · -- the record of the store is the one the history speaks of, so their counters agree
    obtain ⟨start', d', hmem, heq, hbelow, hzero⟩ := hinv.stored challengeId _ hr
    obtain ⟨hn, hexp, hsame⟩ := storedReset_congr heq
    have hid : challengeId ∈ s.issued := hinv.started_issued challengeId start' hmem
    rcases hcase with ⟨hv, -, hgone⟩ | ⟨hv, hgone⟩ | ⟨hv, hnext, d₁, hkept, -⟩
    · -- right: handed out and gone
      change res.1 = _ at hv
      change res.2.record? svc .reset challengeId = none at hgone
      simp only [hv, hgone, ResetVerdict.isWrong, ResetVerdict.isAccepted, hzero]
      refine ⟨fun r h => absurd h (by simp), fun _ => hid, ?_, ?_, fun _ => ⟨hbelow, ?_⟩⟩
      · simp only [if_true, Bool.false_eq_true, if_false]
        omega
      · simp
      · intro start'' hmem'
        rw [hinv.started_unique challengeId start'' start' hmem' hmem, ← hexp]
        exact hlive
    · -- wrong, and the last attempt: gone
      change res.1 = _ at hv
      change res.2.record? svc .reset challengeId = none at hgone
      simp only [hv, hgone, ResetVerdict.isWrong, ResetVerdict.isAccepted, hzero]
      refine ⟨fun r h => absurd h (by simp), fun _ => hid, ?_, by simp,
        fun h => absurd h (by simp)⟩
      simp only [if_true, Bool.false_eq_true, if_false]
      omega
    · -- wrong: kept with one more attempt
      change res.1 = _ at hv
      change res.2.record? svc .reset challengeId = _ at hkept
      simp only [hv, hkept, ResetVerdict.isWrong, ResetVerdict.isAccepted, hzero]
      refine ⟨fun r h => ⟨start', d₁, hmem, ?_, ?_, by simp⟩, fun _ => hid, ?_, by simp,
        fun h => absurd h (by simp)⟩
      · rw [← Option.some.inj h, hsame, hn]
        simp
      · simp only [if_true]
        omega
      · simp only [if_true, Bool.false_eq_true, if_false]
        omega

/-- A call keeps the invariant. -/
theorem ResetSafe.verify {h : List ResetEvent} {challengeId email code : String}
    {readAt : Instant} (hinv : ResetSafe rt svc s h) :
    ResetSafe rt svc
      { s with stores := (s.stores.verifyReset rt svc s.now readAt challengeId email code).2 }
      (.verify challengeId email code (resetClock svc s.now readAt)
        (s.stores.verifyReset rt svc s.now readAt challengeId email code).1 :: h) := by
  obtain ⟨hself, hissued, hbudget, honce, hjust⟩ := hinv.verify_self challengeId email code readAt
  -- from here on only `verify_self` speaks of the named challenge
  generalize hres : s.stores.verifyReset rt svc s.now readAt challengeId email code = res at *
  generalize resetClock svc s.now readAt = clock at *
  have hwrong : ∀ a, a ≠ challengeId →
      wrongVerifies a (.verify challengeId email code clock res.1 :: h) = wrongVerifies a h := by
    intro a ha
    simp [wrongVerifies_verify, ha.symm]
  have haccepted : ∀ a, a ≠ challengeId →
      acceptedVerifies a (.verify challengeId email code clock res.1 :: h) =
        acceptedVerifies a h := by
    intro a ha
    simp [acceptedVerifies_verify, ha.symm]
  have hstarted : ∀ a start, .started a start ∈ (.verify challengeId email code clock res.1 :: h) →
      ResetEvent.started a start ∈ h := by simp
  constructor
  case stored =>
    intro a r hr
    by_cases ha : a = challengeId
    · subst ha
      obtain ⟨start, d, hmem, hrest⟩ := hself r hr
      exact ⟨start, d, List.mem_cons_of_mem _ hmem, hrest⟩
    · have hold : s.stores.record? svc .reset a = some r :=
        recordAt_of_verifyReset (fun heq => ha (storeKey_inj heq)) (by rw [hres]; exact hr)
      obtain ⟨start, d, hmem, hrest⟩ := hinv.stored a r hold
      rw [hwrong a ha, haccepted a ha]
      exact ⟨start, d, List.mem_cons_of_mem _ hmem, hrest⟩
  case started_issued =>
    exact fun a start hmem => hinv.started_issued a start (hstarted a start hmem)
  case compared_issued =>
    intro a hne
    by_cases ha : a = challengeId
    · subst ha
      exact hissued hne
    · rw [comparedVerifies, hwrong a ha, haccepted a ha] at hne
      exact hinv.compared_issued a hne
  case started_unique =>
    exact fun a start start' hmem hmem' =>
      hinv.started_unique a start start' (hstarted a start hmem) (hstarted a start' hmem')
  case started_small =>
    exact fun a start hmem => hinv.started_small a start (hstarted a start hmem)
  case budget =>
    intro a
    by_cases ha : a = challengeId
    · subst ha
      exact hbudget
    · rw [comparedVerifies, hwrong a ha, haccepted a ha]
      exact hinv.budget a
  case once =>
    intro a
    by_cases ha : a = challengeId
    · subst ha
      exact honce
    · rw [haccepted a ha]
      exact hinv.once a
  case justified => exact ⟨hjust, hinv.justified⟩

/-- **Step lemma for reset safety.** -/
theorem resetSafe_step {h : List ResetEvent} {l : ResetLabel} (hinv : ResetSafe rt svc s h)
    (hstep : resetStep rt svc s l = some (s', es)) : ResetSafe rt svc s' (es ++ h) := by
  cases l with
  | tick t =>
    obtain ⟨-, rfl, rfl⟩ := resetStep_tick hstep
    exact hinv.frame (fun _ _ hr => hr) (fun _ hmem => hmem)
  | start challengeId email accountType databaseId code readAt =>
    obtain ⟨-, hcreate, rfl⟩ := resetStep_start hstep
    exact hinv.start hcreate
  | delivered challengeId outcome =>
    obtain ⟨hdel, rfl⟩ := resetStep_delivered hstep
    obtain ⟨-, -, hissued, -, hst⟩ := delivered_eq_some hdel
    refine hinv.frame (fun a r hr => ?_) (fun a hmem => by rwa [hissued])
    rcases hst with hst | hst <;> rw [hst] at hr
    · exact hr
    · exact recordAt_of_recordAt_delete hr
  | verify challengeId email code readAt =>
    obtain ⟨rfl, rfl⟩ := resetStep_verify hstep
    exact hinv.verify

/-! ### What is gone stays gone -/

/-- **Step lemma for removal.** No step brings back the record of an issued challenge. -/
theorem resetStep_gone {l : ResetLabel} {challengeId : String} (hid : challengeId ∈ s.issued)
    (hgone : s.stores.find? svc s.now (storeKey svc .reset challengeId) = none)
    (hstep : resetStep rt svc s l = some (s', es)) :
    challengeId ∈ s'.issued ∧
      s'.stores.find? svc s'.now (storeKey svc .reset challengeId) = none := by
  -- it is enough that a record found afterwards was found before
  have hback : ∀ {st : OtpStores} {now : Instant},
      (∀ r, st.find? svc now (storeKey svc .reset challengeId) = some r →
        s.stores.find? svc s.now (storeKey svc .reset challengeId) = some r) →
      st.find? svc now (storeKey svc .reset challengeId) = none := by
    intro st now hof
    refine Option.eq_none_iff_forall_ne_some.mpr fun r hr => ?_
    rw [hof r hr] at hgone
    exact absurd hgone (by simp)
  cases l with
  | tick t =>
    obtain ⟨hle, rfl, -⟩ := resetStep_tick hstep
    exact ⟨hid, hback fun r hr => find?_of_later hle hr⟩
  | start challengeId' email accountType databaseId code readAt =>
    obtain ⟨-, hcreate, -⟩ := resetStep_start hstep
    obtain ⟨-, hnew, -, rfl⟩ := create_eq_some.mp hcreate
    have hne : challengeId ≠ challengeId' := fun heq => hnew (heq ▸ hid)
    exact ⟨List.mem_cons_of_mem _ hid,
      hback fun r hr => find?_of_save (fun heq => hne (storeKey_inj heq)) hr⟩
  | delivered challengeId' outcome =>
    obtain ⟨hdel, -⟩ := resetStep_delivered hstep
    obtain ⟨-, hnow, hissued, -, hst⟩ := delivered_eq_some hdel
    refine ⟨by rwa [hissued], ?_⟩
    rw [hnow]
    rcases hst with hst | hst <;> rw [hst]
    · exact hgone
    · exact hback fun r hr => find?_of_delete hr
  | verify challengeId' email code readAt =>
    obtain ⟨rfl, -⟩ := resetStep_verify hstep
    exact ⟨hid, find?_verifyReset_eq_none hgone⟩

/-! ### Whole runs -/

/-- **Reset OTP safety.** In every run of the reset flow, over either backend:

    * at most one call is handed a challenge;
    * at most `max_attempts` wrong submissions are compared with it;
    * a call is handed the challenge only while fewer than `max_attempts` wrong ones were
      compared, and only when the whole second it read is before the expiry;
    * a challenge that is gone from the store at some point of the run is gone from then on. -/
theorem reset_safety {now : Instant} {ls ls' : List ResetLabel} {c c' : Config OtpState ResetEvent}
    (hrun : (resetSystem rt svc).run (Config.start (OtpState.init now)) ls = some c)
    (hrun' : (resetSystem rt svc).run c ls' = some c') (challengeId : String) :
    acceptedVerifies challengeId c'.history ≤ 1 ∧
    wrongVerifies challengeId c'.history ≤ svc.maxAttempts ∧
    (∀ after email code clock r past,
      c'.history = after ++ .verify challengeId email code clock (.accepted r) :: past →
      wrongVerifies challengeId past < svc.maxAttempts ∧
      ∀ start, .started challengeId start ∈ past → clock < start.expiresAt) ∧
    (challengeId ∈ c.state.issued →
      c.state.stores.find? svc c.state.now (storeKey svc .reset challengeId) = none →
      c'.state.stores.find? svc c'.state.now (storeKey svc .reset challengeId) = none) := by
  -- one invariant over the whole run gives the first three parts, another from `c` on the last
  have hsafe : ResetSafe rt svc c'.state c'.history := by
    have hwhole : (resetSystem rt svc).run (Config.start (OtpState.init now)) (ls ++ ls') =
        some c' := by rw [System.run_append, hrun]; exact hrun'
    refine (resetSystem rt svc).invariant_run (I := fun c => ResetSafe rt svc c.state c.history)
      (fun d l d' hd hnext => ?_) (resetSafe_init now) hwhole
    obtain ⟨es, hstep, hhist⟩ := (resetSystem rt svc).next_eq_some.mp hnext
    rw [hhist]
    exact resetSafe_step hd hstep
  refine ⟨hsafe.once challengeId, (Nat.le_add_right _ _).trans (hsafe.budget challengeId), ?_, ?_⟩
  · intro after email code clock r past hhist
    have hjust := hsafe.justified
    rw [hhist] at hjust
    exact hjust.of_append rfl
  · intro hid hgone
    refine ((resetSystem rt svc).invariant_run
      (I := fun c => challengeId ∈ c.state.issued ∧
        c.state.stores.find? svc c.state.now (storeKey svc .reset challengeId) = none)
      (fun d l d' hd hnext => ?_) ⟨hid, hgone⟩ hrun').2
    obtain ⟨es, hstep, -⟩ := (resetSystem rt svc).next_eq_some.mp hnext
    exact resetStep_gone hd.1 hd.2 hstep

/-- A wrong code, and after it the right one twice. -/
theorem reset_safety_sample :
    ∃ c c', (resetSystem .sample (.sample true)).run (Config.start (OtpState.init sampleNow))
        [.start sampleToken "ana@ouros.app" "farm_owner" 7 "123456" sampleNow,
          .verify sampleToken "ana@ouros.app" "000000" sampleNow] = some c ∧
      (resetSystem .sample (.sample true)).run c
        [.verify sampleToken "ana@ouros.app" "123456" sampleNow,
          .verify sampleToken "ana@ouros.app" "123456" sampleNow] = some c' ∧
      acceptedVerifies sampleToken c'.history ≤ 1 ∧ wrongVerifies sampleToken c'.history ≤ 5 := by
  obtain ⟨c', hc'⟩ := Option.isSome_iff_exists.mp
    (by decide +kernel :
      ((resetSystem .sample (.sample true)).run (Config.start (OtpState.init sampleNow))
        ([.start sampleToken "ana@ouros.app" "farm_owner" 7 "123456" sampleNow,
          .verify sampleToken "ana@ouros.app" "000000" sampleNow] ++
        [.verify sampleToken "ana@ouros.app" "123456" sampleNow,
          .verify sampleToken "ana@ouros.app" "123456" sampleNow])).isSome = true)
  rw [System.run_append, Option.bind_eq_some_iff] at hc'
  obtain ⟨c, hrun, hrun'⟩ := hc'
  obtain ⟨honce, hlimit, -⟩ := reset_safety hrun hrun' sampleToken
  exact ⟨c, c', hrun, hrun', honce, hlimit⟩

end OurosAuth
