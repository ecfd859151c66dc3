import OurosAuth.EmailOtp.Reset

namespace OurosAuth

open KeyValue

/-!
# Do the two reset backends agree?

The Lua script and the process-local branch of `verify_password_reset` are two programs for one
function.  They store one challenge, and are asked the same questions at the same times.

* `Twins` — the two stores hold the challenge with the same record, or neither shows it;
* `BackendsAgree` — every sequence of calls has the same outcomes, and what is returned carries
  the e-mail, account type and database id of the challenge;
* `backends_agree_iff` — they agree exactly when a record is never written back
  (`max_attempts = 1`), or its database id survives cjson (`roundTrip 14`);
* `agree_of_short_id` — so they agree on every challenge for an id of at most fourteen digits.
-/

variable {rt : Runtime} {svc : OtpService} {challengeId : String} {start : ResetStart}
  {databaseId : ℤ}

/-- The service with the backend chosen. -/
def OtpService.onBackend (svc : OtpService) (usesRedis : Bool) : OtpService :=
  { svc with usesRedis := usesRedis }

/-- One call of `verify_password_reset`; its clock readings all fall on one instant. -/
structure ResetCall where
  time : Instant
  email : String
  code : String

/-- What a sequence of calls on a challenge returns or raises, call by call. -/
def resetOutcomes (rt : Runtime) (svc : OtpService) (challengeId : String) :
    OtpStores → List ResetCall → List (Except ApiError Record)
  | _, [] => []
  | st, call :: calls =>
      let res := st.verifyReset rt svc call.time call.time challengeId call.email call.code
      res.1.result :: resetOutcomes rt svc challengeId res.2 calls

/-- Each call takes place no earlier than the one before it, the first no earlier than `t`. -/
def InOrder : Instant → List ResetCall → Prop
  | _, [] => True
  | t, call :: calls => t.seconds ≤ call.time.seconds ∧ InOrder call.time calls

/-! ### The simulation -/

/-- How the two stores stand to each other at time `t`: the challenge is gone from both, or both
    hold one record, which Redis keeps until its expiry at least. -/
inductive Twins (rt : Runtime) (svc : OtpService) (challengeId : String) (start : ResetStart)
    (databaseId : ℤ) (t : Instant) (redis : Redis) (memory : Dict String Record) : Prop
  | gone (hredis : redis.get t.seconds (redisKey .reset challengeId) = none)
      (hmemory : memory.get? (memKey .reset challengeId) = none)
  | stored (attempts : ℤ) (deadline : ℚ) (hnonneg : 0 ≤ attempts)
      (hlt : attempts < svc.maxAttempts) (hdeadline : (start.expiresAt : ℚ) ≤ deadline)
      (hredis : redis.get? (redisKey .reset challengeId) =
        some ⟨.document (storedReset rt svc challengeId start attempts databaseId), some deadline⟩)
      (hmemory : memory.get? (memKey .reset challengeId) =
        some (storedReset rt svc challengeId start attempts databaseId))

variable {t t' : Instant} {redis : Redis} {memory : Dict String Record}

/-- Time keeps the stores together. -/
theorem Twins.later (h : Twins rt svc challengeId start databaseId t redis memory)
    (hle : t.seconds ≤ t'.seconds) : Twins rt svc challengeId start databaseId t' redis memory := by
  cases h with
  | gone hredis hmemory => exact .gone (ExpiringStore.get_eq_none_of_le hle hredis) hmemory
  | stored attempts deadline hnonneg hlt hdeadline hredis hmemory =>
    exact .stored attempts deadline hnonneg hlt hdeadline hredis hmemory

/-- After an expired call the challenge is gone from Redis. -/
theorem script_expired (key email digest : String) {now : Instant} {attempts : ℤ}
    (hget : redis.get now.seconds key = none ∨ redis.get now.seconds key =
      some (.document (storedReset rt svc challengeId start attempts databaseId)))
    (hattempts : Small attempts) (hsucc : Small (attempts + 1)) (hexpires : Small start.expiresAt)
    (hexp : start.expiresAt ≤ now.whole) :
    let res := verifyResetScript now.seconds key email digest now.whole svc.maxAttempts redis
    res.1.result = .error .passwordResetOtpInvalid ∧ res.2.get now.seconds key = none := by
  rcases hget with hget | hget
  · rw [verifyResetScript_absent hget]
    exact ⟨rfl, hget⟩
  · intro res
    have hres : res = (.rejected, redis.del key) := by
      simp only [res]
      rw [verifyResetScript_stored hget hattempts hsucc hexpires (Small.instant now), if_pos hexp]
    rw [hres]
    exact ⟨rfl, ExpiringStore.get_del_self ..⟩

/-- **Step of the simulation.** One call has one outcome on both stores, hands out the challenge
    as it was created, and keeps the stores together. -/
theorem Twins.verify {now : Instant} (email code : String) (hexpires : Small start.expiresAt)
    (hkeep : svc.maxAttempts = 1 ∨ Decimal.roundTrip 14 databaseId = databaseId)
    (h : Twins rt svc challengeId start databaseId now redis memory) :
    let a := verifyResetScript now.seconds (redisKey .reset challengeId) (rt.normalizeEmail email)
      (codeDigest rt svc challengeId code) now.whole svc.maxAttempts redis
    let b := verifyResetMemory rt svc now challengeId email code memory
    a.1.result = b.1.result ∧
      (∀ r, a.1.result = .ok r →
        ∃ attempts, r = storedReset rt svc challengeId start attempts databaseId) ∧
      Twins rt svc challengeId start databaseId now a.2 b.2 := by
  cases h with
  | gone hredis hmemory =>
    have hclean := get?_cleanupMemory_none now hmemory
    rw [verifyResetScript_absent hredis, verifyResetMemory_absent hclean]
    exact ⟨rfl, fun r hr => absurd hr (by simp [ResetVerdict.result]), .gone hredis hclean⟩
  | stored attempts deadline hnonneg hlt hdeadline hredis hmemory =>
    have hmax := svc.attempts_le
    have hattempts : Small attempts := ⟨hnonneg, by omega⟩
    have hsucc : Small (attempts + 1) := ⟨by omega, by omega⟩
    have hget : redis.get now.seconds (redisKey .reset challengeId) = none ∨
        redis.get now.seconds (redisKey .reset challengeId) =
          some (.document (storedReset rt svc challengeId start attempts databaseId)) := by
      by_cases halive : now.seconds < deadline
      · exact Or.inr (ExpiringStore.get_of_liveEntry
          (ExpiringStore.liveEntry_of_alive hredis (decide_eq_true halive)))
      · exact Or.inl (ExpiringStore.get_of_liveEntry_none
          (ExpiringStore.liveEntry_of_expired hredis (by simpa [Entry.alive] using halive)))
    by_cases hexp : start.expiresAt ≤ now.whole
    · -- expired: Redis rejects or has dropped the key, the map has dropped the record
      have hclean : (cleanupMemory now memory).get? (memKey .reset challengeId) = none :=
        get?_cleanupMemory_expired hmemory rfl hexp
      obtain ⟨hres, hgone⟩ := script_expired _ (rt.normalizeEmail email)
        (codeDigest rt svc challengeId code) hget hattempts hsucc hexpires hexp
      rw [verifyResetMemory_absent hclean]
      exact ⟨hres, fun r hr => absurd (hres.symm.trans hr) (by simp), .gone hgone hclean⟩
    · -- alive: both decide on the same record
      have hlive : now.seconds < deadline :=
        lt_of_lt_of_le (Instant.seconds_lt_of_whole_lt (not_le.mp hexp)) hdeadline
      have hentry : redis.liveEntry now.seconds (redisKey .reset challengeId) =
          some ⟨.document (storedReset rt svc challengeId start attempts databaseId),
            some deadline⟩ :=
        ExpiringStore.liveEntry_of_alive hredis (decide_eq_true hlive)
      have hgetSome : redis.get now.seconds (redisKey .reset challengeId) =
          some (.document (storedReset rt svc challengeId start attempts databaseId)) :=
        ExpiringStore.get_of_liveEntry hentry
      have hclean : (cleanupMemory now memory).get? (memKey .reset challengeId) =
          some (storedReset rt svc challengeId start attempts databaseId) := by
        rw [cleanupMemory, Dict.get?_filter, Option.filter_eq_some_iff]
        exact ⟨hmemory, decide_eq_true (not_le.mp hexp)⟩
      rw [verifyResetScript_stored hgetSome hattempts hsucc hexpires (Small.instant now),
        verifyResetMemory_stored hclean, if_neg hexp, if_neg (not_le.mpr hlt),
        if_neg (not_le.mpr hlt)]
      by_cases hmatch : start.Matches rt svc challengeId email code
      · have hboth : rt.normalizeEmail start.email = rt.normalizeEmail email ∧
            codeDigest rt svc challengeId start.code = codeDigest rt svc challengeId code := hmatch
        rw [if_pos hmatch, if_pos hboth]
        exact ⟨rfl, fun r hr => ⟨attempts, (Except.ok.inj hr).symm⟩,
          .gone (ExpiringStore.get_del_self ..) (Dict.get?_erase_self ..)⟩
      · have hboth : ¬ (rt.normalizeEmail start.email = rt.normalizeEmail email ∧
            codeDigest rt svc challengeId start.code = codeDigest rt svc challengeId code) := hmatch
        rw [if_neg hmatch, if_neg hboth]
        by_cases hlast : (svc.maxAttempts : ℤ) ≤ attempts + 1
        · rw [if_pos hlast, if_pos hlast]
          exact ⟨rfl, fun r hr => absurd hr (by simp [ResetVerdict.result]),
            .gone (ExpiringStore.get_del_self ..) (Dict.get?_erase_self ..)⟩
        · rw [if_neg hlast, if_neg hlast]
          -- a re-encoded record is the same record if its id is, or if it is never re-encoded
          have hsame : Decimal.roundTrip 14 databaseId = databaseId :=
            hkeep.resolve_left fun hone => by omega
          refine ⟨rfl, fun r hr => absurd hr (by simp [ResetVerdict.result]), ?_⟩
          refine .stored (attempts + 1) deadline (by omega) (by omega) hdeadline ?_
            (Dict.get?_set_self ..)
          rw [hsame]
          show (Dict.set ..).get? _ = _
          rw [Dict.get?_set_self, hentry]
          rfl

/-- **Run of the simulation.** -/
theorem Twins.outcomes {st st' : OtpStores} {calls : List ResetCall}
    (hexpires : Small start.expiresAt)
    (hkeep : svc.maxAttempts = 1 ∨ Decimal.roundTrip 14 databaseId = databaseId)
    (horder : InOrder t calls)
    (h : Twins rt svc challengeId start databaseId t st.redis st'.memory) :
    resetOutcomes rt (svc.onBackend true) challengeId st calls =
      resetOutcomes rt (svc.onBackend false) challengeId st' calls ∧
    ∀ r, .ok r ∈ resetOutcomes rt (svc.onBackend true) challengeId st calls →
      ∃ attempts, r = storedReset rt svc challengeId start attempts databaseId := by
  induction calls generalizing t st st' with
  | nil => exact ⟨rfl, fun r hr => absurd hr List.not_mem_nil⟩
  | cons call calls ih =>
    obtain ⟨hle, hrest⟩ := horder
    obtain ⟨hsame, hstored, htwins⟩ := (h.later hle).verify call.email call.code hexpires hkeep
    obtain ⟨hcalls, hmem⟩ := @ih call.time
      (st.verifyReset rt (svc.onBackend true) call.time call.time challengeId call.email
        call.code).2
      (st'.verifyReset rt (svc.onBackend false) call.time call.time challengeId call.email
        call.code).2 hrest htwins
    refine ⟨congrArg₂ List.cons hsame hcalls, fun r hr => ?_⟩
    rcases List.mem_cons.mp hr with heq | hr
    · exact hstored r heq.symm
    · exact hmem r hr

/-! ### Agreement -/

/-- The two backends agree on a challenge created at `readAt`: whenever its record came to be
    saved, every sequence of calls has the same outcomes on both, and a record they return has
    the e-mail, account type and database id it was created with. -/
def BackendsAgree (rt : Runtime) (svc : OtpService) (st : OtpStores)
    (challengeId email accountType : String) (databaseId : ℤ) (code : String)
    (readAt : Instant) : Prop :=
  ∀ savedAt calls, readAt.seconds ≤ savedAt.seconds → InOrder savedAt calls →
    let outcomes := fun usesRedis =>
      resetOutcomes rt (svc.onBackend usesRedis) challengeId
        (st.save (svc.onBackend usesRedis) savedAt .reset challengeId
          (resetRecord rt svc challengeId email accountType databaseId code readAt.whole)
          svc.ttlSeconds) calls
    outcomes true = outcomes false ∧
    ∀ r, .ok r ∈ outcomes true → r.email = .str (rt.normalizeEmail email) ∧
      r.accountType = .str accountType ∧ r.databaseId = .num databaseId

/-- A saved challenge stands in both stores. -/
theorem twins_save (st : OtpStores) (challengeId email accountType : String) (databaseId : ℤ)
    (code : String) {readAt savedAt : Instant} (hle : readAt.seconds ≤ savedAt.seconds) :
    let r := resetRecord rt svc challengeId email accountType databaseId code readAt.whole
    Twins rt svc challengeId ⟨email, accountType, databaseId, code, readAt.whole + svc.ttlSeconds⟩
      databaseId savedAt
      (st.save (svc.onBackend true) savedAt .reset challengeId r svc.ttlSeconds).redis
      (st.save (svc.onBackend false) savedAt .reset challengeId r svc.ttlSeconds).memory := by
  have hpos := svc.attempts_ge
  refine .stored 0 (savedAt.seconds + svc.ttlSeconds) le_rfl (by omega) ?_ ?_ ?_
  · have h := readAt.whole_le
    push_cast
    linarith
  · have hmax : max (svc.ttlSeconds : ℤ) 1 = svc.ttlSeconds := by
      have := svc.ttl_ge
      omega
    show (ExpiringStore.setEx ..).get? _ = _
    rw [ExpiringStore.setEx, Dict.get?_set_self, hmax]
    rfl
  · exact Dict.get?_set_self ..

/-- The outcome of a wrong and then the right submission, when the record is written back in
    between: the database id comes back as cjson wrote it. -/
theorem redis_returns_roundTrip (st : OtpStores) (challengeId email accountType : String)
    (databaseId : ℤ) (code : String) (readAt : Instant) (email' code' : String)
    (hattempts : svc.maxAttempts ≠ 1)
    (hwrong : ¬ (rt.normalizeEmail email = rt.normalizeEmail email' ∧
      codeDigest rt svc challengeId code = codeDigest rt svc challengeId code')) :
    .ok (storedReset rt svc challengeId
        ⟨email, accountType, databaseId, code, readAt.whole + svc.ttlSeconds⟩ 1
        (Decimal.roundTrip 14 databaseId)) ∈
      resetOutcomes rt (svc.onBackend true) challengeId
        (st.save (svc.onBackend true) readAt .reset challengeId
          (resetRecord rt svc challengeId email accountType databaseId code readAt.whole)
          svc.ttlSeconds)
        [⟨readAt, email', code'⟩, ⟨readAt, email, code⟩] := by
  let start : ResetStart :=
    ⟨email, accountType, databaseId, code, readAt.whole + svc.ttlSeconds⟩
  let key := redisKey .reset challengeId
  have htwo : ¬ (svc.maxAttempts : ℤ) ≤ 1 := by
    have := svc.attempts_ge
    omega
  have hexpires : Small start.expiresAt := small_expiresAt svc readAt
  have hexp : ¬ start.expiresAt ≤ readAt.whole := by
    have := svc.ttl_ge
    show ¬ readAt.whole + svc.ttlSeconds ≤ readAt.whole
    omega
  generalize hsaved : (st.save (svc.onBackend true) readAt .reset challengeId
    (resetRecord rt svc challengeId email accountType databaseId code readAt.whole)
    svc.ttlSeconds) = saved
  have hget : saved.redis.get readAt.seconds key =
      some (.document (storedReset rt svc challengeId start 0 databaseId)) := by
    rw [← hsaved]
    refine ExpiringStore.get_setEx_self _ _ _ _ ?_
    have hpos : (0 : ℤ) < max (svc.ttlSeconds : ℤ) 1 := lt_max_of_lt_right zero_lt_one
    exact_mod_cast hpos
  -- the wrong submission has the record written back
  have hfirst : verifyResetScript readAt.seconds key (rt.normalizeEmail email')
      (codeDigest rt svc challengeId code') readAt.whole svc.maxAttempts saved.redis =
      (.wrong, saved.redis.setKeepTtl readAt.seconds key (.document
        (storedReset rt svc challengeId start 1 (Decimal.roundTrip 14 databaseId)))) := by
    rw [verifyResetScript_stored hget ⟨le_rfl, by norm_num⟩ ⟨by norm_num, by norm_num⟩ hexpires
      (Small.instant readAt), if_neg hexp, if_neg (by omega), if_neg hwrong, if_neg (by omega)]
    rfl
  have hget' := ExpiringStore.get_setKeepTtl_self (s := saved.redis) (t := readAt.seconds)
    (k := key) (.document
      (storedReset rt svc challengeId start 1 (Decimal.roundTrip 14 databaseId))) (by simp [hget])
  have hsecond : (verifyResetScript readAt.seconds key (rt.normalizeEmail email)
      (codeDigest rt svc challengeId code) readAt.whole svc.maxAttempts
      (saved.redis.setKeepTtl readAt.seconds key (.document
        (storedReset rt svc challengeId start 1 (Decimal.roundTrip 14 databaseId))))).1 =
      .accepted (storedReset rt svc challengeId start 1 (Decimal.roundTrip 14 databaseId)) := by
    rw [verifyResetScript_stored hget' ⟨zero_le_one, by norm_num⟩ ⟨by norm_num, by norm_num⟩
      hexpires (Small.instant readAt), if_neg hexp, if_neg htwo, if_pos ⟨rfl, rfl⟩]
  refine List.mem_cons_of_mem _ (List.mem_cons.mpr (Or.inl ?_))
  show _ = (verifyResetScript readAt.seconds key (rt.normalizeEmail email)
    (codeDigest rt svc challengeId code) readAt.whole svc.maxAttempts
    (verifyResetScript readAt.seconds key (rt.normalizeEmail email')
      (codeDigest rt svc challengeId code') readAt.whole svc.maxAttempts saved.redis).2).1.result
  rw [hfirst, hsecond]
  rfl

/-- A database id that cjson keeps, or never writes, keeps the backends together. -/
theorem agree_of_kept (st : OtpStores) (challengeId email accountType : String)
    (databaseId : ℤ) (code : String) (readAt : Instant)
    (hkeep : svc.maxAttempts = 1 ∨ Decimal.roundTrip 14 databaseId = databaseId) :
    BackendsAgree rt svc st challengeId email accountType databaseId code readAt := by
  intro savedAt calls hle horder
  obtain ⟨hsame, hstored⟩ := Twins.outcomes (small_expiresAt svc readAt) hkeep horder
    (twins_save st challengeId email accountType databaseId code hle)
  refine ⟨hsame, fun r hr => ?_⟩
  obtain ⟨attempts, rfl⟩ := hstored r hr
  exact ⟨rfl, rfl, rfl⟩

/-- Fourteen digits are what the script prints: the backends agree on every shorter id, however
    many wrong codes come before the right one. -/
theorem agree_of_short_id (st : OtpStores) (challengeId email accountType : String)
    (databaseId : ℤ) (code : String) (readAt : Instant) (hid : databaseId.natAbs < 10 ^ 14) :
    BackendsAgree rt svc st challengeId email accountType databaseId code readAt := by
  have hkept : Decimal.roundTrip 14 databaseId = databaseId :=
    Decimal.roundTrip_of_lt (by norm_num) (by norm_num) hid
  exact agree_of_kept st challengeId email accountType databaseId code readAt (Or.inr hkept)

/-- **Agreement.** The backends agree on a challenge exactly when its record is never written
    back, or its database id survives cjson. -/
theorem backends_agree_iff (st : OtpStores) (challengeId email accountType : String)
    (databaseId : ℤ) (code : String) (readAt : Instant)
    (hwrong : ∃ email' code', ¬ (rt.normalizeEmail email = rt.normalizeEmail email' ∧
      codeDigest rt svc challengeId code = codeDigest rt svc challengeId code')) :
    BackendsAgree rt svc st challengeId email accountType databaseId code readAt ↔
      svc.maxAttempts = 1 ∨ Decimal.roundTrip 14 databaseId = databaseId := by
  constructor
  · intro hagree
    by_contra hnot
    obtain ⟨hattempts, hid⟩ := not_or.mp hnot
    obtain ⟨email', code', hwrong⟩ := hwrong
    have hret := (hagree readAt [⟨readAt, email', code'⟩, ⟨readAt, email, code⟩] le_rfl
      ⟨le_rfl, le_rfl, trivial⟩).2 _
      (redis_returns_roundTrip st challengeId email accountType databaseId code readAt email' code'
        hattempts hwrong)
    exact hid (Json.num.inj hret.2.2)
  · exact agree_of_kept st challengeId email accountType databaseId code readAt

/-- Seven is an id both backends return. -/
theorem backends_agree_seven :
    BackendsAgree .sample (.sample true) OtpStores.empty sampleToken "ana@ouros.app" "farm_owner" 7
      "123456" sampleNow :=
  (backends_agree_iff OtpStores.empty sampleToken "ana@ouros.app" "farm_owner" 7 "123456" sampleNow
    ⟨"ana@ouros.app", "000000", by decide⟩).mpr (Or.inr (by decide +kernel))

/-- **The backends disagree.** After one wrong code, Redis returns another database id than the
    challenge was created for. -/
theorem backends_disagree :
    ¬ BackendsAgree .sample (.sample true) OtpStores.empty sampleToken "ana@ouros.app" "farm_owner"
      123456789012345678 "123456" sampleNow := by
  intro hagree
  have hsame := (hagree sampleNow
    [⟨sampleNow, "ana@ouros.app", "000000"⟩, ⟨sampleNow, "ana@ouros.app", "123456"⟩] le_rfl
    ⟨le_rfl, le_rfl, trivial⟩).1
  revert hsame
  decide +kernel

end OurosAuth
