import OurosAuth.EmailOtp.Store
import OurosAuth.RateLimit.Rules

namespace OurosAuth

open KeyValue

/-!
# The limiter over Redis

`RateLimiter._REDIS_SCRIPT`, which Redis runs as one command, and the branch of `_increment` that
calls it.

* `rateLimitScript` — `INCR`, `EXPIRE` on the first count, `TTL`;
* `rateLimitScript_fresh`, `rateLimitScript_counted` — what it does to a key without a counter and
  to one with a live counter;
* `rateKey_ne_redisKey` — the counters and the challenges have different keys.
-/

/-- The integer a value stands for, if it is one. -/
def RedisValue.asInteger? : RedisValue → Option ℕ
  | .counter n => some n
  | .mark => some 1
  | _ => none

/-- `INCR`: the new count and the store, or an error for a value that is not an integer. -/
def incr (t : ℚ) (key : String) (redis : Redis) : Option (ℕ × Redis) :=
  match redis.get t key with
  | none => some (1, redis.set key ⟨.counter 1, none⟩)
  | some value =>
    value.asInteger?.map fun n => (n + 1, redis.setKeepTtl t key (.counter (n + 1)))

/-- `_REDIS_SCRIPT`, run by Redis at time `t`: the count, the time to live and the store. -/
def rateLimitScript (t : ℚ) (key : String) (windowSeconds : ℕ) (redis : Redis) :
    Option ((ℕ × ℤ) × Redis) :=
  (incr t key redis).map fun (current, redis) =>
    let redis := if current = 1 then redis.expire t key windowSeconds else redis
    ((current, redis.ttl t key), redis)

/-- `_increment` when Redis answers. -/
def redisIncrement (t : ℚ) (key : String) (windowSeconds : ℕ) (redis : Redis) :
    Option (Counted × Redis) :=
  (rateLimitScript t key windowSeconds redis).map fun (result, redis) =>
    (⟨result.1, (max result.2 1).toNat⟩, redis)

variable {t : ℚ} {key key' : String} {windowSeconds n : ℕ} {redis redis' : Redis}
    {counted : Counted}
  {deadline : ℚ}

theorem retryAfter_of_redisIncrement
    (h : redisIncrement t key windowSeconds redis = some (counted, redis')) :
    1 ≤ counted.retryAfter := by
  obtain ⟨r, -, hr⟩ := Option.map_eq_some_iff.mp h
  rw [← (Prod.mk.inj hr).1]
  show 1 ≤ (max _ (1 : ℤ)).toNat
  omega

/-- An increment touches no other key. -/
theorem redisIncrement_other (h : redisIncrement t key windowSeconds redis = some (counted, redis'))
    (hne : key' ≠ key) : redis'.get? key' = redis.get? key' := by
  obtain ⟨⟨result, redis₂⟩, hscript, hr⟩ := Option.map_eq_some_iff.mp h
  obtain ⟨-, rfl⟩ := Prod.mk.inj hr
  obtain ⟨⟨current, redis₁⟩, hincr, hr⟩ := Option.map_eq_some_iff.mp hscript
  obtain ⟨-, rfl⟩ := Prod.mk.inj hr
  have hfirst : redis₁.get? key' = redis.get? key' := by
    unfold incr at hincr
    split at hincr
    · obtain ⟨-, rfl⟩ := Prod.mk.inj (Option.some.inj hincr)
      exact Dict.get?_set_ne _ _ hne
    · obtain ⟨n, -, hn⟩ := Option.map_eq_some_iff.mp hincr
      obtain ⟨-, rfl⟩ := Prod.mk.inj hn
      exact Dict.get?_set_ne _ _ hne
  rw [← hfirst]
  split_ifs
  · exact ExpiringStore.get?_expire_ne _ _ _ hne
  · rfl

/-- Without a live counter the script opens a window. -/
theorem redisIncrement_fresh_eq (windowSeconds : ℕ) (hget : redis.get t key = none) :
    redisIncrement t key windowSeconds redis = some (⟨1, max windowSeconds 1⟩,
      (redis.set key ⟨.counter 1, none⟩).set key ⟨.counter 1, some (t + windowSeconds)⟩) := by
  have hincr : incr t key redis = some (1, redis.set key ⟨.counter 1, none⟩) := by
    rw [incr, hget]
  have hlive : ExpiringStore.liveEntry (redis.set key ⟨.counter 1, none⟩) t key =
      some ⟨.counter 1, none⟩ :=
    ExpiringStore.liveEntry_of_alive (Dict.get?_set_self ..) rfl
  have hexpire : ExpiringStore.expire (redis.set key ⟨.counter 1, none⟩) t key windowSeconds =
      (redis.set key ⟨.counter 1, none⟩).set key ⟨.counter 1, some (t + windowSeconds)⟩ := by
    rw [ExpiringStore.expire, hlive]
  have httl : max (ExpiringStore.ttl ((redis.set key ⟨.counter 1, none⟩).set key
      ⟨.counter 1, some (t + windowSeconds)⟩) t key) 1 = max (windowSeconds : ℤ) 1 := by
    rw [ExpiringStore.ttl, ExpiringStore.liveEntry, Dict.get?_set_self]
    by_cases hw : 0 < windowSeconds
    · have halive : t < t + windowSeconds := by
        have : (0 : ℚ) < windowSeconds := by exact_mod_cast hw
        linarith
      have hround : ⌊t + windowSeconds - t + 1 / 2⌋ = (windowSeconds : ℤ) := by
        rw [Int.floor_eq_iff]
        push_cast
        constructor <;> linarith
      simp only [Option.filter, Entry.alive, halive, decide_true, if_true, hround]
    · -- a window of no length is over at once, and the key has no time to live
      have hzero : windowSeconds = 0 := by omega
      simp [Option.filter, Entry.alive, hzero]
  have hnat : (max (windowSeconds : ℤ) 1).toNat = max windowSeconds 1 := by omega
  simp only [redisIncrement, rateLimitScript, hincr, Option.map_some, if_true, hexpire, httl, hnat]

theorem redisIncrement_fresh (hget : redis.get t key = none)
    (h : redisIncrement t key windowSeconds redis = some (counted, redis')) :
    counted.count = 1 ∧ redis'.get? key = some ⟨.counter 1, some (t + windowSeconds)⟩ := by
  rw [redisIncrement_fresh_eq windowSeconds hget] at h
  obtain ⟨rfl, rfl⟩ := Prod.mk.inj (Option.some.inj h)
  exact ⟨rfl, Dict.get?_set_self _ _ _⟩

/-- A live counter counts on in its window. -/
theorem redisIncrement_counted_eq (windowSeconds : ℕ)
    (hlive : redis.liveEntry t key = some ⟨.counter n, some deadline⟩) (hn : n ≠ 0) :
    redisIncrement t key windowSeconds redis =
      some (⟨n + 1, (max ⌊deadline - t + 1 / 2⌋ 1).toNat⟩,
        redis.set key ⟨.counter (n + 1), some deadline⟩) := by
  have hget : redis.get t key = some (.counter n) := ExpiringStore.get_of_liveEntry hlive
  have hincr : incr t key redis =
      some (n + 1, redis.set key ⟨.counter (n + 1), some deadline⟩) := by
    simp only [incr, hget, RedisValue.asInteger?, ExpiringStore.setKeepTtl, hlive]
    rfl
  have halive : t < deadline := of_decide_eq_true (Option.filter_eq_some_iff.mp hlive).2
  have httl : ExpiringStore.ttl (redis.set key ⟨.counter (n + 1), some deadline⟩) t key =
      ⌊deadline - t + 1 / 2⌋ := by
    have hkept : (⟨.counter (n + 1), some deadline⟩ : Entry RedisValue).alive t = true :=
      decide_eq_true halive
    rw [ExpiringStore.ttl, ExpiringStore.liveEntry_of_alive (Dict.get?_set_self ..) hkept]
  have hone : n + 1 ≠ 1 := by omega
  simp only [redisIncrement, rateLimitScript, hincr, Option.map_some, if_neg hone, httl]

theorem redisIncrement_counted (hlive : redis.liveEntry t key = some ⟨.counter n, some deadline⟩)
    (hn : n ≠ 0) (h : redisIncrement t key windowSeconds redis = some (counted, redis')) :
    counted.count = n + 1 ∧ redis'.get? key = some ⟨.counter (n + 1), some deadline⟩ := by
  rw [redisIncrement_counted_eq windowSeconds hlive hn] at h
  obtain ⟨rfl, rfl⟩ := Prod.mk.inj (Option.some.inj h)
  exact ⟨rfl, Dict.get?_set_self _ _ _⟩

/-- A counter is not a challenge. -/
theorem rateKey_ne_redisKey (rt : Runtime) (rule : RateLimitRule) (value : String) (flow : Flow)
    (challengeId : String) : rateKey rt rule value ≠ redisKey flow challengeId := by
  unfold rateKey
  rw [String.append_assoc, String.append_assoc]
  cases flow with
  | login => exact append_ne_append (by decide) (by decide) (by decide) _ _
  | reset => exact append_ne_append (by decide) (by decide) (by decide) _ _

end OurosAuth
