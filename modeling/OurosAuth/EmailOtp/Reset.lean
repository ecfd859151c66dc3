import OurosAuth.EmailOtp.Store
import OurosAuth.Lib.Decimal

namespace OurosAuth

open KeyValue

/-!
# Password-reset challenges

`verify_password_reset` in its two forms: the Lua script Redis runs atomically, and the branch
under `_memory_lock`.  Both answer with a `ResetVerdict`, which says what the call did to the
challenge; `ResetVerdict.result` is what the caller of `verify_password_reset` sees.

* `verifyResetScript`, `verifyResetMemory` — the two branches, from the source;
* `storedReset` — the records the reset flow keeps, whatever number of attempts they count;
* `verifyResetScript_stored`, `verifyResetMemory_stored` — what each branch does with one.
-/

/-! ### Verdicts -/

/-- What one call did to the challenge it named. -/
inductive ResetVerdict
  /-- no such challenge -/
  | absent
  /-- malformed, of another purpose or expired: deleted -/
  | rejected
  /-- already at the limit: deleted -/
  | exhausted
  /-- compared, wrong, counted -/
  | wrong
  /-- compared, wrong, and the limit is reached: deleted -/
  | lockedOut
  /-- compared and right: deleted and handed out -/
  | accepted (r : Record)
  deriving DecidableEq

/-- The record `verify_password_reset` returns, or the error it raises. -/
def ResetVerdict.result : ResetVerdict → Except ApiError Record
  | .absent => .error .passwordResetOtpInvalid
  | .rejected => .error .passwordResetOtpInvalid
  | .exhausted => .error .passwordResetOtpAttemptsExceeded
  | .wrong => .error .passwordResetOtpInvalid
  | .lockedOut => .error .passwordResetOtpAttemptsExceeded
  | .accepted r => .ok r

/-- Was a wrong e-mail or code compared with the stored ones? -/
def ResetVerdict.isWrong : ResetVerdict → Bool
  | .wrong => true
  | .lockedOut => true
  | _ => false

/-- Did the call return the record? -/
def ResetVerdict.isAccepted : ResetVerdict → Bool
  | .accepted _ => true
  | _ => false

/-! ### The Lua script -/

/-- `cjson.decode` of a field: numbers become doubles. -/
def Json.cjsonDecode : Json → Json
  | .num n => .num (Decimal.toDouble n)
  | j => j

/-- `cjson.encode` of a field, as the next reader takes it: numbers are printed with 14
    significant digits. -/
def Json.cjsonEncode : Json → Json
  | .num n => .num (Decimal.toDouble (Decimal.printDigits 14 n))
  | j => j

/-- Apply a function to every field. -/
def Record.mapFields (f : Json → Json) (r : Record) : Record where
  email := f r.email
  accountType := f r.accountType
  databaseId := f r.databaseId
  codeDigest := f r.codeDigest
  attempts := f r.attempts
  expiresAt := f r.expiresAt
  purpose := f r.purpose

/-- `_VERIFY_PASSWORD_RESET_SCRIPT`, run by Redis at time `t` as one command.  `email`, `digest`,
    `now` and `maxAttempts` are `ARGV[1]` to `ARGV[4]`. -/
def verifyResetScript (t : ℚ) (key email digest : String) (now : ℤ) (maxAttempts : ℕ)
    (redis : Redis) : ResetVerdict × Redis :=
  match redis.get t key with
  | none => (.absent, redis)
  | some (.document raw) =>
    let record := raw.mapFields Json.cjsonDecode
    match record.email, record.codeDigest, record.expiresAt, record.attempts with
    | .str recordEmail, .str recordDigest, .num expiresAt, .num attempts =>
      -- `tonumber` reads the clock and the limit as doubles too
      if record.purpose ≠ .str "password_reset" ∨ expiresAt ≤ Decimal.toDouble now then
        (.rejected, redis.del key)
      else if Decimal.toDouble maxAttempts ≤ attempts then (.exhausted, redis.del key)
      else if recordEmail ≠ email ∨ recordDigest ≠ digest then
        let counted := Decimal.toDouble (attempts + 1)
        if Decimal.toDouble maxAttempts ≤ counted then (.lockedOut, redis.del key)
        else
          -- the whole record is encoded anew, the database id with it
          (.wrong, redis.setKeepTtl t key
            (.document ((record.withAttempts counted).mapFields Json.cjsonEncode)))
      -- what is handed out is the text that was read, not the decoded record
      else (.accepted raw, redis.del key)
    | _, _, _, _ => (.rejected, redis.del key)
  -- not JSON, or not an object
  | some _ => (.rejected, redis.del key)

/-! ### The process-local branch -/

/-- The branch of `verify_password_reset` under `_memory_lock`. -/
def verifyResetMemory (rt : Runtime) (svc : OtpService) (now : Instant)
    (challengeId email code : String) (memory : Dict String Record) :
    ResetVerdict × Dict String Record :=
  let memory := cleanupMemory now memory
  let key := memKey .reset challengeId
  match memory.get? key with
  | none => (.absent, memory)
  | some record =>
    match record.checked? with
    | none => (.rejected, memory.erase key)
    | some c =>
      if record.purpose ≠ .str "password_reset" then (.rejected, memory.erase key)
      -- no look at the expiry: the cleanup has dropped what expired
      else if (svc.maxAttempts : ℤ) ≤ c.attempts then (.exhausted, memory.erase key)
      else if ¬ (c.email = rt.normalizeEmail email ∧
          c.codeDigest = codeDigest rt svc challengeId code) then
        if (svc.maxAttempts : ℤ) ≤ c.attempts + 1 then (.lockedOut, memory.erase key)
        else (.wrong, memory.set key (record.withAttempts (c.attempts + 1)))
      else (.accepted record, memory.erase key)

/-- `verify_password_reset`.  With Redis, `readAt` is when `int(time.time())` was taken for
    the script's arguments; without, the clock is read under the lock. -/
def OtpStores.verifyReset (st : OtpStores) (rt : Runtime) (svc : OtpService)
    (now readAt : Instant) (challengeId email code : String) : ResetVerdict × OtpStores :=
  if svc.usesRedis then
    let r := verifyResetScript now.seconds (redisKey .reset challengeId) (rt.normalizeEmail email)
      (codeDigest rt svc challengeId code) readAt.whole svc.maxAttempts st.redis
    (r.1, { st with redis := r.2 })
  else
    let r := verifyResetMemory rt svc now challengeId email code st.memory
    (r.1, { st with memory := r.2 })

/-- The whole-second clock value the call compares the expiry with. -/
def resetClock (svc : OtpService) (now readAt : Instant) : ℤ :=
  if svc.usesRedis then readAt.whole else now.whole

/-! ### The records of the flow -/

/-- What a reset challenge was created for. -/
structure ResetStart where
  email : String
  accountType : String
  databaseId : ℤ
  code : String
  expiresAt : ℤ
  deriving DecidableEq

/-- The record of a reset challenge that counts `attempts`; `databaseId` is what the store has
    made of the one it was created for. -/
def storedReset (rt : Runtime) (svc : OtpService) (challengeId : String) (start : ResetStart)
    (attempts databaseId : ℤ) : Record where
  email := .str (rt.normalizeEmail start.email)
  accountType := .str start.accountType
  databaseId := .num databaseId
  codeDigest := .str (codeDigest rt svc challengeId start.code)
  attempts := .num attempts
  expiresAt := .num start.expiresAt
  purpose := .str "password_reset"

/-- Does a submission match what the challenge was created for? -/
def ResetStart.Matches (rt : Runtime) (svc : OtpService) (challengeId : String) (start : ResetStart)
    (email code : String) : Prop :=
  rt.normalizeEmail start.email = rt.normalizeEmail email ∧
    codeDigest rt svc challengeId start.code = codeDigest rt svc challengeId code

instance (rt : Runtime) (svc : OtpService) (challengeId : String) (start : ResetStart)
    (email code : String) : Decidable (start.Matches rt svc challengeId email code) :=
  inferInstanceAs (Decidable (_ ∧ _))

/-- The record `start_password_reset` writes counts no attempt. -/
theorem resetRecord_eq_storedReset (rt : Runtime) (svc : OtpService)
    (challengeId email accountType : String) (databaseId : ℤ) (code : String) (now : ℤ) :
    resetRecord rt svc challengeId email accountType databaseId code now =
      storedReset rt svc challengeId
        ⟨email, accountType, databaseId, code, now + svc.ttlSeconds⟩ 0 databaseId := rfl

variable {rt : Runtime} {svc : OtpService} {challengeId email code : String} {start : ResetStart}
  {attempts databaseId : ℤ}

@[simp] theorem storedReset_checked? :
    (storedReset rt svc challengeId start attempts databaseId).checked? =
      some ⟨rt.normalizeEmail start.email, codeDigest rt svc challengeId start.code, attempts,
        start.expiresAt⟩ := rfl

@[simp] theorem storedReset_withAttempts (n : ℤ) :
    (storedReset rt svc challengeId start attempts databaseId).withAttempts n =
      storedReset rt svc challengeId start n databaseId := rfl

/-- Two stored records that agree count the same attempts and stay equal with other ones. -/
theorem storedReset_congr {start' : ResetStart} {n n' d d' : ℤ}
    (h : storedReset rt svc challengeId start n d = storedReset rt svc challengeId start' n' d') :
    n = n' ∧ start.expiresAt = start'.expiresAt ∧ ∀ m k,
      storedReset rt svc challengeId start m k = storedReset rt svc challengeId start' m k := by
  simp only [storedReset, Record.mk.injEq, Json.str.injEq, Json.num.injEq] at h
  obtain ⟨hemail, htype, -, hdigest, hn, hexp, -⟩ := h
  exact ⟨hn, hexp, fun m k => by rw [storedReset, storedReset, hemail, htype, hdigest, hexp]⟩

/-- Numbers that cjson keeps: clock values, and counters up to the limit. -/
def Small (n : ℤ) : Prop := 0 ≤ n ∧ n < 10 ^ 13

theorem Small.toDouble {n : ℤ} (h : Small n) : Decimal.toDouble n = n :=
  Decimal.toDouble_of_lt (by have := h.1; have := h.2; omega)

theorem Small.printDigits {n : ℤ} (h : Small n) : Decimal.printDigits 14 n = n :=
  Decimal.printDigits_of_lt (by norm_num) (by have := h.1; have := h.2; omega)

theorem Small.instant (t : Instant) : Small t.whole :=
  ⟨t.whole_nonneg, lt_trans t.whole_lt_max (by norm_num)⟩

theorem small_maxAttempts (svc : OtpService) : Small svc.maxAttempts :=
  ⟨by omega, by have := svc.attempts_le; omega⟩

/-- A clock value with the lifetime of a challenge added is still a number cjson keeps. -/
theorem small_expiresAt (svc : OtpService) (readAt : Instant) :
    Small (readAt.whole + svc.ttlSeconds) := by
  have hnonneg := readAt.whole_nonneg
  have hmax := readAt.whole_lt_max
  have httl := svc.ttl_le
  constructor <;> omega

/-- The script on a challenge that is not there. -/
theorem verifyResetScript_absent {t : ℚ} {key digest : String} {now : ℤ} {maxAttempts : ℕ}
    {redis : Redis} (hget : redis.get t key = none) :
    verifyResetScript t key email digest now maxAttempts redis = (.absent, redis) := by
  rw [verifyResetScript, hget]

/-- The process-local branch on a challenge that is not there. -/
theorem verifyResetMemory_absent {now : Instant} {memory : Dict String Record}
    (hget : (cleanupMemory now memory).get? (memKey .reset challengeId) = none) :
    verifyResetMemory rt svc now challengeId email code memory =
      (.absent, cleanupMemory now memory) := by
  simp only [verifyResetMemory, hget]

/-- **The script on a stored record.** Only the database id can change. -/
theorem verifyResetScript_stored {t : ℚ} {key digest : String} {now : ℤ} {redis : Redis}
    (hget : redis.get t key =
      some (.document (storedReset rt svc challengeId start attempts databaseId)))
    (hattempts : Small attempts) (hsucc : Small (attempts + 1)) (hexpires : Small start.expiresAt)
    (hnow : Small now) :
    verifyResetScript t key email digest now svc.maxAttempts redis =
      if start.expiresAt ≤ now then (.rejected, redis.del key)
      else if (svc.maxAttempts : ℤ) ≤ attempts then (.exhausted, redis.del key)
      else if rt.normalizeEmail start.email = email ∧
          codeDigest rt svc challengeId start.code = digest then
        (.accepted (storedReset rt svc challengeId start attempts databaseId), redis.del key)
      else if (svc.maxAttempts : ℤ) ≤ attempts + 1 then (.lockedOut, redis.del key)
      else
        (.wrong, redis.setKeepTtl t key (.document (storedReset rt svc challengeId start
          (attempts + 1) (Decimal.roundTrip 14 databaseId)))) := by
  have hmax := (small_maxAttempts svc).toDouble
  unfold verifyResetScript
  rw [hget]
  -- small numbers come through doubles and `%.14g` as they are; the id need not be small
  simp only [storedReset, Record.mapFields, Json.cjsonDecode, hattempts.toDouble,
    hexpires.toDouble, hnow.toDouble, hsucc.toDouble, hmax, ne_eq, not_true_eq_false, false_or,
    Record.withAttempts, Json.cjsonEncode, hsucc.printDigits, hexpires.printDigits]
  -- the script's ifs, in its order
  by_cases hexp : start.expiresAt ≤ now
  · rw [if_pos hexp, if_pos hexp]
  rw [if_neg hexp, if_neg hexp]
  by_cases hlim : (svc.maxAttempts : ℤ) ≤ attempts
  · rw [if_pos hlim, if_pos hlim]
  rw [if_neg hlim, if_neg hlim]
  by_cases hmatch : rt.normalizeEmail start.email = email ∧
      codeDigest rt svc challengeId start.code = digest
  · rw [if_neg (by simp [hmatch.1, hmatch.2]), if_pos hmatch]
  · rw [if_pos (not_and_or.mp hmatch), if_neg hmatch]
    rfl

/-- **The process-local branch on a stored record.** -/
theorem verifyResetMemory_stored {now : Instant} {memory : Dict String Record}
    (hget : (cleanupMemory now memory).get? (memKey .reset challengeId) =
      some (storedReset rt svc challengeId start attempts databaseId)) :
    verifyResetMemory rt svc now challengeId email code memory =
      if (svc.maxAttempts : ℤ) ≤ attempts then
        (.exhausted, (cleanupMemory now memory).erase (memKey .reset challengeId))
      else if start.Matches rt svc challengeId email code then
        (.accepted (storedReset rt svc challengeId start attempts databaseId),
          (cleanupMemory now memory).erase (memKey .reset challengeId))
      else if (svc.maxAttempts : ℤ) ≤ attempts + 1 then
        (.lockedOut, (cleanupMemory now memory).erase (memKey .reset challengeId))
      else
        (.wrong, (cleanupMemory now memory).set (memKey .reset challengeId)
          (storedReset rt svc challengeId start (attempts + 1) databaseId)) := by
  unfold verifyResetMemory
  simp only [hget, storedReset_checked?]
  have hpurpose : (storedReset rt svc challengeId start attempts databaseId).purpose =
    .str "password_reset" := rfl
  rw [if_neg (not_not.mpr hpurpose)]
  by_cases hlim : (svc.maxAttempts : ℤ) ≤ attempts
  · rw [if_pos hlim, if_pos hlim]
  rw [if_neg hlim, if_neg hlim]
  by_cases hmatch : start.Matches rt svc challengeId email code
  · rw [if_pos hmatch]
    exact if_neg (not_not.mpr hmatch)
  · rw [if_neg hmatch]
    exact if_pos hmatch

/-! ### What one call can do to the stores -/

variable {st : OtpStores} {now readAt : Instant}

/-- The script leaves the store alone, deletes its key, or rewrites a live document under it. -/
theorem verifyResetScript_store (t : ℚ) (key email digest : String) (now : ℤ) (maxAttempts : ℕ)
    (redis : Redis) :
    (verifyResetScript t key email digest now maxAttempts redis).2 = redis ∨
    (verifyResetScript t key email digest now maxAttempts redis).2 = redis.del key ∨
    ∃ raw r, redis.get t key = some (.document raw) ∧
      (verifyResetScript t key email digest now maxAttempts redis).2 =
        redis.setKeepTtl t key (.document r) := by
  unfold verifyResetScript
  split
  · exact Or.inl rfl
  · rename_i raw hget
    dsimp only
    split
    · split_ifs
      all_goals first
        | exact Or.inr (Or.inl rfl)
        | exact Or.inr (Or.inr ⟨raw, _, hget, rfl⟩)
    · exact Or.inr (Or.inl rfl)
  · exact Or.inr (Or.inl rfl)

/-- The process-local branch cleans up, and then leaves the map alone, deletes its key, or
    rewrites a record under it. -/
theorem verifyResetMemory_store (rt : Runtime) (svc : OtpService) (now : Instant)
    (challengeId email code : String) (memory : Dict String Record) :
    (verifyResetMemory rt svc now challengeId email code memory).2 = cleanupMemory now memory ∨
    (verifyResetMemory rt svc now challengeId email code memory).2 =
      (cleanupMemory now memory).erase (memKey .reset challengeId) ∨
    ∃ r, (cleanupMemory now memory).get? (memKey .reset challengeId) ≠ none ∧
      (verifyResetMemory rt svc now challengeId email code memory).2 =
        (cleanupMemory now memory).set (memKey .reset challengeId) r := by
  unfold verifyResetMemory
  dsimp only
  split
  · exact Or.inl rfl
  · rename_i record hget
    split
    · exact Or.inr (Or.inl rfl)
    · split_ifs
      all_goals first
        | exact Or.inr (Or.inl rfl)
        | exact Or.inr (Or.inr ⟨_, by simp [hget], rfl⟩)

/-- A call touches no other key of Redis. -/
theorem redis_verifyReset_ne {key : String} (hne : key ≠ redisKey .reset challengeId) :
    (st.verifyReset rt svc now readAt challengeId email code).2.redis.get? key =
      st.redis.get? key := by
  unfold OtpStores.verifyReset
  split
  · rcases verifyResetScript_store now.seconds (redisKey .reset challengeId)
      (rt.normalizeEmail email) (codeDigest rt svc challengeId code) readAt.whole svc.maxAttempts
      st.redis with hst | hst | ⟨raw, r, -, hst⟩ <;> dsimp only <;> rw [hst]
    · exact Dict.get?_erase_ne _ hne
    · exact Dict.get?_set_ne _ _ hne
  · rfl

/-- A call adds no record under another key. -/
theorem recordAt_of_verifyReset {key : String} {r : Record}
    (hne : key ≠ storeKey svc .reset challengeId)
    (h : (st.verifyReset rt svc now readAt challengeId email code).2.recordAt svc key = some r) :
    st.recordAt svc key = some r := by
  unfold OtpStores.verifyReset OtpStores.recordAt at *
  unfold storeKey at hne
  by_cases hr : svc.usesRedis = true
  · simp only [hr, if_true] at h hne ⊢
    rcases verifyResetScript_store now.seconds (redisKey .reset challengeId)
      (rt.normalizeEmail email) (codeDigest rt svc challengeId code) readAt.whole svc.maxAttempts
      st.redis with hst | hst | ⟨raw, r', -, hst⟩ <;> rw [hst] at h
    · exact h
    · rwa [ExpiringStore.peek_del_ne _ hne] at h
    · rwa [ExpiringStore.peek_setKeepTtl_ne _ _ _ hne] at h
  · simp only [hr, Bool.false_eq_true, if_false] at h hne ⊢
    suffices hclean : (cleanupMemory now st.memory).get? key = some r from get?_cleanupMemory hclean
    rcases verifyResetMemory_store rt svc now challengeId email code st.memory
      with hst | hst | ⟨r', -, hst⟩ <;> rw [hst] at h
    · exact h
    · rwa [Dict.get?_erase_ne _ hne] at h
    · rwa [Dict.get?_set_ne _ _ hne] at h

/-- A call brings no record back under any key. -/
theorem find?_verifyReset_eq_none {key : String} (h : st.find? svc now key = none) :
    (st.verifyReset rt svc now readAt challengeId email code).2.find? svc now key = none := by
  unfold OtpStores.verifyReset OtpStores.find? at *
  by_cases hr : svc.usesRedis = true
  · simp only [hr, if_true] at h ⊢
    rcases verifyResetScript_store now.seconds (redisKey .reset challengeId)
      (rt.normalizeEmail email) (codeDigest rt svc challengeId code) readAt.whole svc.maxAttempts
      st.redis with hst | hst | ⟨raw, r', hget, hst⟩ <;> rw [hst]
    · exact h
    · by_cases hk : key = redisKey .reset challengeId
      · rw [hk, ExpiringStore.get_del_self]
      · rwa [ExpiringStore.get_del_ne _ _ hk]
    · by_cases hk : key = redisKey .reset challengeId
      · rw [hk, hget] at h
        exact absurd h (by simp)
      · rwa [ExpiringStore.setKeepTtl, ExpiringStore.get_set_ne _ _ _ hk]
  · simp only [hr, Bool.false_eq_true, if_false] at h ⊢
    rcases verifyResetMemory_store rt svc now challengeId email code st.memory
      with hst | hst | ⟨r', hget, hst⟩ <;> rw [hst]
    · rwa [get?_cleanupMemory_twice]
    · by_cases hk : key = memKey .reset challengeId
      · rw [cleanupMemory, Dict.get?_filter, hk, Dict.get?_erase_self]
        rfl
      · rwa [get?_cleanupMemory_congr now (Dict.get?_erase_ne _ hk), get?_cleanupMemory_twice]
    · by_cases hk : key = memKey .reset challengeId
      · rw [hk] at h
        exact absurd h hget
      · rwa [get?_cleanupMemory_congr now (Dict.get?_set_ne _ _ hk), get?_cleanupMemory_twice]

/-- **What one call can do to its challenge.** When the store holds nothing but records of the
    flow under the challenge, a call that compares nothing adds nothing, and a call that
    compares finds the challenge alive and below the limit, and consumes it, counts one more
    attempt, or ends it. -/
theorem verifyReset_cases (now readAt : Instant) (email code : String)
    (hstored : ∀ r, st.record? svc .reset challengeId = some r → ∃ start n d,
      r = storedReset rt svc challengeId start n d ∧ Small n ∧ Small (n + 1) ∧
        Small start.expiresAt) :
    let res := st.verifyReset rt svc now readAt challengeId email code
    (res.1.isWrong = false ∧ res.1.isAccepted = false ∧
      ∀ r, res.2.record? svc .reset challengeId = some r →
        st.record? svc .reset challengeId = some r) ∨
    ∃ start n d, st.record? svc .reset challengeId =
      some (storedReset rt svc challengeId start n d) ∧
      resetClock svc now readAt < start.expiresAt ∧ n < svc.maxAttempts ∧
      ((res.1 = .accepted (storedReset rt svc challengeId start n d) ∧
          start.Matches rt svc challengeId email code ∧
          res.2.record? svc .reset challengeId = none) ∨
        (res.1 = .lockedOut ∧ res.2.record? svc .reset challengeId = none) ∨
        (res.1 = .wrong ∧ n + 1 < svc.maxAttempts ∧
          ∃ d', res.2.record? svc .reset challengeId =
              some (storedReset rt svc challengeId start (n + 1) d') ∧
            (svc.usesRedis = false → d' = d))) := by
  intro res
  unfold OtpStores.record? OtpStores.recordAt storeKey at *
  simp only [res, OtpStores.verifyReset, resetClock]
  clear res
  -- on each backend the verdicts up to the comparison are the left case, the rest the right one
  by_cases hr : svc.usesRedis = true
  · simp only [hr, if_true] at hstored ⊢
    cases hget : st.redis.get now.seconds (redisKey .reset challengeId) with
    | none =>
      left
      rw [verifyResetScript_absent hget]
      exact ⟨rfl, rfl, fun r hr' => hr'⟩
    | some v =>
      have hpeek := ExpiringStore.peek_of_get hget
      rw [hpeek] at hstored ⊢
      cases v with
      | document r =>
        obtain ⟨start, n, d, rfl, hn, hn1, he⟩ := hstored r rfl
        rw [verifyResetScript_stored hget hn hn1 he (Small.instant readAt)]
        split_ifs with h1 h2 h3 h4
        · left; simp [ResetVerdict.isWrong, ResetVerdict.isAccepted]
        · left; simp [ResetVerdict.isWrong, ResetVerdict.isAccepted]
        · right
          exact ⟨start, n, d, rfl, not_le.mp h1, not_le.mp h2, Or.inl ⟨rfl, h3, by simp⟩⟩
        · right
          exact ⟨start, n, d, rfl, not_le.mp h1, not_le.mp h2, Or.inr (Or.inl ⟨rfl, by simp⟩)⟩
        · right
          exact ⟨start, n, d, rfl, not_le.mp h1, not_le.mp h2,
            Or.inr (Or.inr ⟨rfl, not_le.mp h4, Decimal.roundTrip 14 d, by simp, by simp⟩)⟩
      | _ => left; simp [verifyResetScript, hget, ResetVerdict.isWrong, ResetVerdict.isAccepted]
  · simp only [hr, Bool.false_eq_true, if_false] at hstored ⊢
    cases hget : (cleanupMemory now st.memory).get? (memKey .reset challengeId) with
    | none =>
      left
      rw [verifyResetMemory_absent hget]
      exact ⟨rfl, rfl, fun r hr' => get?_cleanupMemory hr'⟩
    | some r =>
      have hold := get?_cleanupMemory hget
      rw [hold] at hstored ⊢
      obtain ⟨start, n, d, rfl, -, -, -⟩ := hstored r rfl
      have hlive : now.whole < start.expiresAt := expiresAt_of_get?_cleanupMemory rfl hget
      rw [verifyResetMemory_stored hget]
      split_ifs with h2 h3 h4
      · left; simp [ResetVerdict.isWrong, ResetVerdict.isAccepted]
      · right
        exact ⟨start, n, d, rfl, hlive, not_le.mp h2, Or.inl ⟨rfl, h3, by simp⟩⟩
      · right
        exact ⟨start, n, d, rfl, hlive, not_le.mp h2, Or.inr (Or.inl ⟨rfl, by simp⟩)⟩
      · right
        exact ⟨start, n, d, rfl, hlive, not_le.mp h2,
          Or.inr (Or.inr ⟨rfl, not_le.mp h4, d, by simp, fun _ => rfl⟩)⟩

/-- **A stored challenge stays what it was created for**, whatever its counter says: a call keeps
    its record, deletes it or counts, and is handed it only for the code it was created with,
    before its expiry. -/
theorem verifyReset_origin (now readAt : Instant) (email code : String) {n d : ℤ}
    (hr : st.record? svc .reset challengeId = some (storedReset rt svc challengeId start n d))
    (hexpires : Small start.expiresAt) :
    let res := st.verifyReset rt svc now readAt challengeId email code
    (∀ r, res.2.record? svc .reset challengeId = some r →
      ∃ n' d', r = storedReset rt svc challengeId start n' d' ∧
        (svc.usesRedis = false → d' = d)) ∧
    ∀ r, res.1 = .accepted r → r = storedReset rt svc challengeId start n d ∧
      start.Matches rt svc challengeId email code ∧
        resetClock svc now readAt < start.expiresAt := by
  intro res
  unfold OtpStores.record? OtpStores.recordAt storeKey at *
  simp only [res, OtpStores.verifyReset, resetClock]
  clear res
  by_cases hredis : svc.usesRedis = true
  · simp only [hredis, if_true] at hr ⊢
    cases hget : st.redis.get now.seconds (redisKey .reset challengeId) with
    | none =>
      rw [verifyResetScript_absent hget]
      exact ⟨fun r hr' => ⟨n, d, Option.some.inj (hr'.symm.trans hr), by simp⟩, by simp⟩
    | some v =>
      rw [ExpiringStore.peek_of_get hget] at hr
      have hv : v = .document (storedReset rt svc challengeId start n d) := by
        cases v with
        | document r => rw [Option.some.inj hr]
        | _ => exact absurd hr (by simp)
      subst hv
      -- the counter is not known to be small here, so the script is unfolded, not rewritten with
      -- `verifyResetScript_stored`
      unfold verifyResetScript
      rw [hget]
      simp only [storedReset, Record.mapFields, Json.cjsonDecode, hexpires.toDouble,
        (Small.instant readAt).toDouble, ne_eq, not_true_eq_false, false_or, Record.withAttempts,
        Json.cjsonEncode, hexpires.printDigits]
      split_ifs with h1 h2 h3 h4
      · simp
      · simp
      · simp
      · refine ⟨fun r hr' => ?_, by simp⟩
        rw [ExpiringStore.peek_setKeepTtl_self] at hr'
        exact ⟨_, _, (Option.some.inj hr').symm, by simp⟩
      · refine ⟨by simp, fun r hr' => ⟨(ResetVerdict.accepted.inj hr').symm, ?_, not_le.mp h1⟩⟩
        exact not_not.mp fun hnot => h3 (not_and_or.mp hnot)
  · simp only [hredis, Bool.false_eq_true, if_false] at hr ⊢
    cases hget : (cleanupMemory now st.memory).get? (memKey .reset challengeId) with
    | none =>
      rw [verifyResetMemory_absent hget]
      exact ⟨fun r hr' => absurd (hget.symm.trans hr') (by simp), by simp⟩
    | some r =>
      obtain rfl := Option.some.inj (hr.symm.trans (get?_cleanupMemory hget))
      have hlive : now.whole < start.expiresAt := expiresAt_of_get?_cleanupMemory rfl hget
      rw [verifyResetMemory_stored hget]
      split_ifs with h2 h3 h4
      · simp
      · exact ⟨by simp, fun r hr' => ⟨(ResetVerdict.accepted.inj hr').symm, h3, hlive⟩⟩
      · simp
      · refine ⟨fun r hr' => ⟨n + 1, d, ?_, fun _ => rfl⟩, by simp⟩
        exact (Option.some.inj ((Dict.get?_set_self _ _ _).symm.trans hr')).symm

/-! ### One challenge at a time -/

/-- Does a call that reads the clock at `readAt` and comes to the store at `now` find a challenge
    with this expiry, which Redis drops at `deadline`, alive? -/
def OtpService.finds (svc : OtpService) (expiresAt : ℤ) (deadline : ℚ) (readAt now : Instant) :
    Prop :=
  if svc.usesRedis then readAt.whole < expiresAt ∧ now.seconds < deadline
  else now.whole < expiresAt

/-- What a call did not find alive no later call does. -/
theorem OtpService.finds.earlier {expiresAt : ℤ} {deadline : ℚ} {readAt' now' : Instant}
    (h : svc.finds expiresAt deadline readAt' now') (hread : readAt.seconds ≤ readAt'.seconds)
    (hnow : now.seconds ≤ now'.seconds) : svc.finds expiresAt deadline readAt now := by
  unfold OtpService.finds at *
  split at h
  · rw [if_pos ‹_›]
    exact ⟨(Instant.whole_mono hread).trans_lt h.1, hnow.trans_lt h.2⟩
  · rw [if_neg ‹_›]
    exact (Instant.whole_mono hnow).trans_lt h

variable {deadline : ℚ} {challengeId' : String}

/-- A call on a challenge that is not there finds nothing and leaves nothing. -/
theorem verifyReset_lacks (h : st.Lacks svc .reset challengeId) :
    (st.verifyReset rt svc now readAt challengeId email code).1 = .absent ∧
      (st.verifyReset rt svc now readAt challengeId email code).2.Lacks svc .reset challengeId := by
  unfold OtpStores.verifyReset OtpStores.Lacks at *
  by_cases hr : svc.usesRedis = true
  · simp only [hr, if_true] at h ⊢
    have hget : st.redis.get now.seconds (redisKey .reset challengeId) = none :=
      ExpiringStore.get_of_liveEntry_none (ExpiringStore.liveEntry_eq_none _ h)
    rw [verifyResetScript_absent hget]
    exact ⟨rfl, h⟩
  · simp only [hr, Bool.false_eq_true, if_false] at h ⊢
    have hclean := get?_cleanupMemory_none now h
    rw [verifyResetMemory_absent hclean]
    exact ⟨rfl, hclean⟩

/-- A call brings nothing back under another id. -/
theorem OtpStores.Lacks.verifyReset (hne : challengeId ≠ challengeId')
    (h : st.Lacks svc .reset challengeId) :
    (st.verifyReset rt svc now readAt challengeId' email code).2.Lacks svc .reset challengeId := by
  unfold OtpStores.Lacks at *
  by_cases hr : svc.usesRedis = true
  · simp only [hr, if_true] at h ⊢
    exact (redis_verifyReset_ne (redisKey_ne hne)).trans h
  · simp only [hr, Bool.false_eq_true, if_false] at h ⊢
    have hclean := get?_cleanupMemory_none now h
    simp only [OtpStores.verifyReset, hr, Bool.false_eq_true, if_false]
    rcases verifyResetMemory_store rt svc now challengeId' email code st.memory
      with hst | hst | ⟨r, -, hst⟩ <;> rw [hst]
    · exact hclean
    · exact (Dict.get?_erase_ne _ (memKey_ne hne)).trans hclean
    · exact (Dict.get?_set_ne _ _ (memKey_ne hne)).trans hclean

/-- A call on one challenge keeps another. -/
theorem OtpStores.Holds.verifyReset {r : Record} (hne : challengeId ≠ challengeId')
    (h : st.Holds svc .reset challengeId r deadline) :
    (st.verifyReset rt svc now readAt challengeId' email code).2.Kept svc .reset challengeId r
      deadline now := by
  unfold OtpStores.Kept OtpStores.Holds OtpStores.Lacks at *
  by_cases hr : svc.usesRedis = true
  · simp only [hr, if_true] at h ⊢
    exact Or.inl ((redis_verifyReset_ne (redisKey_ne hne)).trans h)
  · simp only [hr, Bool.false_eq_true, if_false] at h ⊢
    -- whatever the call wrote, it left the record as the cleanup did
    have hother : ∀ memory : Dict String Record,
        memory.get? (memKey .reset challengeId) =
          (cleanupMemory now st.memory).get? (memKey .reset challengeId) →
        memory.get? (memKey .reset challengeId) = some r ∨
          memory.get? (memKey .reset challengeId) = none ∧ True ∧
            ∀ expiresAt, r.expiresAt.asInt? = some expiresAt → expiresAt ≤ now.whole := by
      intro memory hmemory
      rw [hmemory]
      exact (get?_cleanupMemory_cases now h).imp id fun hgone => ⟨hgone.1, trivial, hgone.2⟩
    simp only [OtpStores.verifyReset, hr, Bool.false_eq_true, if_false]
    apply hother
    rcases verifyResetMemory_store rt svc now challengeId' email code st.memory
      with hst | hst | ⟨r', -, hst⟩ <;> rw [hst]
    · exact Dict.get?_erase_ne _ (memKey_ne hne)
    · exact Dict.get?_set_ne _ _ (memKey_ne hne)

/-- A call that does not find its challenge alive is refused, and at most removes it. -/
theorem verifyReset_expired {n d : ℤ}
    (h : st.Holds svc .reset challengeId (storedReset rt svc challengeId start n d) deadline)
    (hn : Small n) (hn1 : Small (n + 1)) (hexpires : Small start.expiresAt)
    (hfinds : ¬ svc.finds start.expiresAt deadline readAt now) :
    let res := st.verifyReset rt svc now readAt challengeId email code
    res.1.result = .error .passwordResetOtpInvalid ∧
      (res.2.Holds svc .reset challengeId (storedReset rt svc challengeId start n d) deadline ∨
        res.2.Lacks svc .reset challengeId) := by
  intro res
  unfold OtpStores.Holds OtpStores.Lacks OtpService.finds at *
  simp only [res, OtpStores.verifyReset]
  clear res
  by_cases hr : svc.usesRedis = true
  · simp only [hr, if_true] at h hfinds ⊢
    by_cases halive : now.seconds < deadline
    · -- Redis still has it, and the script sees that it has expired
      have hget : st.redis.get now.seconds (redisKey .reset challengeId) =
          some (.document (storedReset rt svc challengeId start n d)) :=
        ExpiringStore.get_of_liveEntry
          (ExpiringStore.liveEntry_of_alive h (decide_eq_true halive))
      have hexp : start.expiresAt ≤ readAt.whole := not_lt.mp fun hlt => hfinds ⟨hlt, halive⟩
      rw [verifyResetScript_stored hget hn hn1 hexpires (Small.instant readAt), if_pos hexp]
      exact ⟨rfl, Or.inr (Dict.get?_erase_self ..)⟩
    · -- Redis has dropped it
      have hget : st.redis.get now.seconds (redisKey .reset challengeId) = none :=
        ExpiringStore.get_of_liveEntry_none
          (ExpiringStore.liveEntry_of_expired h (by simpa [Entry.alive] using halive))
      rw [verifyResetScript_absent hget]
      exact ⟨rfl, Or.inl h⟩
  · simp only [hr, Bool.false_eq_true, if_false] at h hfinds ⊢
    have hclean : (cleanupMemory now st.memory).get? (memKey .reset challengeId) = none :=
      get?_cleanupMemory_expired h rfl (not_lt.mp hfinds)
    rw [verifyResetMemory_absent hclean]
    exact ⟨rfl, Or.inr hclean⟩

/-- **A wrong submission to a live challenge** is counted, and the last one removes it. -/
theorem verifyReset_wrong {n d : ℤ}
    (h : st.Holds svc .reset challengeId (storedReset rt svc challengeId start n d) deadline)
    (hn : Small n) (hn1 : Small (n + 1)) (hlimit : n < svc.maxAttempts)
    (hexpires : Small start.expiresAt) (hfinds : svc.finds start.expiresAt deadline readAt now)
    (hwrong : ¬ start.Matches rt svc challengeId email code) :
    let res := st.verifyReset rt svc now readAt challengeId email code
    (n + 1 = svc.maxAttempts → res.1 = .lockedOut ∧ res.2.Lacks svc .reset challengeId) ∧
      (n + 1 ≠ svc.maxAttempts → res.1 = .wrong ∧ ∃ d',
        res.2.Holds svc .reset challengeId (storedReset rt svc challengeId start (n + 1) d')
          deadline) := by
  intro res
  unfold OtpStores.Holds OtpStores.Lacks OtpService.finds at *
  simp only [res, OtpStores.verifyReset]
  clear res
  by_cases hr : svc.usesRedis = true
  · simp only [hr, if_true] at h hfinds ⊢
    obtain ⟨hexp, halive⟩ := hfinds
    have hentry : st.redis.liveEntry now.seconds (redisKey .reset challengeId) =
        some ⟨.document (storedReset rt svc challengeId start n d), some deadline⟩ :=
      ExpiringStore.liveEntry_of_alive h (decide_eq_true halive)
    have hget : st.redis.get now.seconds (redisKey .reset challengeId) =
        some (.document (storedReset rt svc challengeId start n d)) :=
      ExpiringStore.get_of_liveEntry hentry
    have hboth : ¬ (rt.normalizeEmail start.email = rt.normalizeEmail email ∧
        codeDigest rt svc challengeId start.code = codeDigest rt svc challengeId code) := hwrong
    rw [verifyResetScript_stored hget hn hn1 hexpires (Small.instant readAt),
      if_neg (not_le.mpr hexp),
      if_neg (not_le.mpr hlimit), if_neg hboth]
    constructor
    · intro hlast
      rw [if_pos hlast.ge]
      exact ⟨rfl, Dict.get?_erase_self ..⟩
    · intro hmore
      rw [if_neg (by omega)]
      refine ⟨rfl, Decimal.roundTrip 14 d, ?_⟩
      -- `KEEPTTL`: the entry keeps the deadline it had
      show (Dict.set ..).get? _ = _
      rw [Dict.get?_set_self, hentry]
      rfl
  · simp only [hr, Bool.false_eq_true, if_false] at h hfinds ⊢
    have hclean : (cleanupMemory now st.memory).get? (memKey .reset challengeId) =
        some (storedReset rt svc challengeId start n d) := by
      rw [cleanupMemory, Dict.get?_filter, Option.filter_eq_some_iff]
      exact ⟨h, decide_eq_true hfinds⟩
    rw [verifyResetMemory_stored hclean, if_neg (not_le.mpr hlimit), if_neg hwrong]
    constructor
    · intro hlast
      rw [if_pos hlast.ge]
      exact ⟨rfl, Dict.get?_erase_self ..⟩
    · intro hmore
      rw [if_neg (by omega)]
      exact ⟨rfl, d, Dict.get?_set_self ..⟩

end OurosAuth
