import OurosAuth.RateLimit.Memory
import OurosAuth.RateLimit.Redis

namespace OurosAuth

open KeyValue

/-!
# The in-process limiter refines the one over Redis

The same calls of `_increment`, answered by the map and by Redis.

* `Mirrors` — both stores hold the same live counters under the keys of the calls;
* `Mirrors.increment` — one call keeps that, and is answered alike;
* `memory_refines_redis` — a sequence of calls is, as long as the map is not full.
-/

/-- What the map answers to the calls. -/
def memoryAnswers : MemoryLimiter → List IncrementCall → List Counted
  | _, [] => []
  | l, call :: rest =>
    let done := l.increment call.key call.windowSeconds call.now
    done.counted :: memoryAnswers done.limiter rest

/-- What Redis answers to the calls, unless the script fails. -/
def redisAnswers : Redis → List IncrementCall → Option (List Counted)
  | _, [] => some []
  | redis, call :: rest =>
    (redisIncrement call.now call.key call.windowSeconds redis).bind fun (counted, redis) =>
      (redisAnswers redis rest).map (counted :: ·)

/-- No call finds the map at its entry bound. -/
def Roomy : MemoryLimiter → List IncrementCall → Prop
  | _, [] => True
  | l, call :: rest =>
    l.memory.size < memoryMaxEntries ∧
      Roomy (l.increment call.key call.windowSeconds call.now).limiter rest

/-- Equal counts, and at most one second between the two waits. -/
def Counted.Agrees (a b : Counted) : Prop :=
  a.count = b.count ∧ a.retryAfter ≤ b.retryAfter + 1 ∧ b.retryAfter ≤ a.retryAfter + 1

/-- The entry Redis keeps for a counter. -/
def Counter.entry (counter : Counter) : Entry RedisValue :=
  ⟨.counter counter.count, some counter.expiresAt⟩

/-- From `now` on, both stores show the same counters under these keys. -/
structure Mirrors (keys : List String) (now : ℚ) (l : MemoryLimiter) (redis : Redis) : Prop where
  same : ∀ key ∈ keys, ∀ t, now ≤ t →
    redis.liveEntry t key = (liveCounter l.memory t key).map Counter.entry
  counted : ∀ key ∈ keys, ∀ t, now ≤ t → ∀ counter, liveCounter l.memory t key = some counter →
    counter.count ≠ 0

variable {keys : List String} {now t : ℚ} {key : String} {windowSeconds : ℕ} {l : MemoryLimiter}
  {redis : Redis} {counter : Counter}

/-! ### The entry bound -/

/-- Below the bound nothing is evicted. -/
theorem evicted_eq_none (hroom : l.memory.size < memoryMaxEntries) (key : String)
    (windowSeconds : ℕ) (now : ℚ) : (l.increment key windowSeconds now).evicted = none := by
  have hsize : (l.maintain now).memory.size ≤ l.memory.size := by
    unfold MemoryLimiter.maintain MemoryLimiter.maintainWithin
    split_ifs
    · exact Dict.size_filter_le _ _
    · exact le_rfl
  show victim (l.maintain now).memory key = none
  rw [victim, victimWithin, if_neg]
  rintro ⟨-, hfull⟩
  omega

/-! ### The two waits -/

/-- Truncating and rounding a positive time differ by one at most. -/
theorem waits_agree {d : ℚ} (hd : 0 ≤ d) :
    (max (pyInt d) 1).toNat ≤ (max ⌊d + 1 / 2⌋ 1).toNat + 1 ∧
      (max ⌊d + 1 / 2⌋ 1).toNat ≤ (max (pyInt d) 1).toNat + 1 := by
  rw [pyInt_eq_floor hd]
  have hlow : ⌊d⌋ ≤ ⌊d + 1 / 2⌋ := Int.floor_le_floor (by linarith)
  have hhigh : ⌊d + 1 / 2⌋ ≤ ⌊d⌋ + 1 := by
    rw [← Int.floor_add_one]
    exact Int.floor_le_floor (by linarith)
  omega

/-! ### One call -/

/-- A counter is alive in Redis exactly as long as in the map. -/
theorem filter_entry (counter : Counter) (t : ℚ) :
    ((some counter.entry).filter fun e => e.alive t) =
      ((some counter).filter fun counter => decide (t < counter.expiresAt)).map Counter.entry := by
  by_cases h : t < counter.expiresAt <;> simp [Option.filter, Counter.entry, Entry.alive, h]

/-- Redis continues the counter the map would continue, and is answered alike. -/
theorem Mirrors.redisAnswer (h : Mirrors keys now l redis) (hkey : key ∈ keys) (hle : now ≤ t)
    (windowSeconds : ℕ) :
    ∃ counted redis', redisIncrement t key windowSeconds redis = some (counted, redis') ∧
      (l.increment key windowSeconds t).counted.Agrees counted ∧
      redis'.get? key =
        some (nextCounter (liveCounter l.memory t key) windowSeconds t).entry := by
  have hsame := h.same key hkey t hle
  -- the map answers from the next counter; the script has to come to the same count and wait
  have hanswer : (l.increment key windowSeconds t).counted =
      let counter := nextCounter (liveCounter l.memory t key) windowSeconds t
      ⟨counter.count, (max (pyInt (counter.expiresAt - t)) 1).toNat⟩ := by
    rw [increment_eq]
  rw [hanswer]
  cases hlive : liveCounter l.memory t key with
  | none =>
    rw [hlive] at hsame
    have hget : redis.get t key = none := ExpiringStore.get_of_liveEntry_none hsame
    refine ⟨_, _, redisIncrement_fresh_eq windowSeconds hget, ?_, Dict.get?_set_self _ _ _⟩
    -- a window that begins now ends a whole window later, and `TTL` says the same
    have hwindow : pyInt (t + windowSeconds - t) = windowSeconds := by
      rw [add_sub_cancel_left, pyInt_eq_floor (Nat.cast_nonneg _), Int.floor_natCast]
    have hwait : (max (pyInt (t + windowSeconds - t)) 1).toNat = max windowSeconds 1 := by
      rw [hwindow]
      omega
    refine ⟨rfl, ?_⟩
    simp only [nextCounter, hwait]
    omega
  | some counter =>
    rw [hlive] at hsame
    have hcount := h.counted key hkey t hle counter hlive
    refine ⟨_, _, redisIncrement_counted_eq windowSeconds hsame hcount, ?_,
      Dict.get?_set_self _ _ _⟩
    have halive : t < counter.expiresAt := of_decide_eq_true (Option.filter_eq_some_iff.mp hlive).2
    exact ⟨rfl, waits_agree (sub_nonneg.mpr halive.le)⟩

/-- **Step of the simulation.** A call on a mirrored key is answered alike and leaves the stores
    mirrored. -/
theorem Mirrors.increment (h : Mirrors keys now l redis) (hkey : key ∈ keys) (hle : now ≤ t)
    (windowSeconds : ℕ) (hroom : l.memory.size < memoryMaxEntries) :
    ∃ counted redis', redisIncrement t key windowSeconds redis = some (counted, redis') ∧
      (l.increment key windowSeconds t).counted.Agrees counted ∧
      Mirrors keys t (l.increment key windowSeconds t).limiter redis' := by
  obtain ⟨counted, redis', hredis, hagrees, hget⟩ := h.redisAnswer hkey hle windowSeconds
  obtain ⟨-, -, -, hself, hother⟩ := increment_spec l key windowSeconds t
  rw [evicted_eq_none hroom] at hother
  refine ⟨counted, redis', hredis, hagrees, ?_, ?_⟩
  · intro key' hkey' t' hle'
    by_cases hne : key' = key
    · subst hne
      rw [ExpiringStore.liveEntry, hget, filter_entry, hself t' hle']
    · rw [hother t' key' hle' hne, if_neg (by simp), ← h.same key' hkey' t' (hle.trans hle')]
      exact ExpiringStore.liveEntry_congr t' (redisIncrement_other hredis hne)
  · intro key' hkey' t' hle' counter hcounter
    by_cases hne : key' = key
    · subst hne
      rw [hself t' hle'] at hcounter
      obtain rfl := Option.some.inj (Option.filter_eq_some_iff.mp hcounter).1
      unfold nextCounter
      split <;> simp
    · rw [hother t' key' hle' hne, if_neg (by simp)] at hcounter
      exact h.counted key' hkey' t' (hle.trans hle') counter hcounter

/-! ### A sequence of calls -/

/-- **Run of the simulation.** -/
theorem Mirrors.answers (calls : List IncrementCall) :
    ∀ (now : ℚ) (l : MemoryLimiter) (redis : Redis), Mirrors keys now l redis →
      (∀ call ∈ calls, call.key ∈ keys) → (now :: calls.map IncrementCall.now).IsChain (· ≤ ·) →
      Roomy l calls →
      ∃ answers, redisAnswers redis calls = some answers ∧
        List.Forall₂ Counted.Agrees (memoryAnswers l calls) answers := by
  induction calls with
  | nil => exact fun _ _ _ _ _ _ _ => ⟨[], rfl, List.Forall₂.nil⟩
  | cons call rest ih =>
    intro now l redis h hkeys hchain hroomy
    rw [List.map_cons, List.isChain_cons_cons] at hchain
    obtain ⟨counted, redis', hredis, hagrees, h'⟩ :=
      h.increment (hkeys call List.mem_cons_self) hchain.1 call.windowSeconds hroomy.1
    obtain ⟨answers, hrest, hall⟩ := ih call.now _ redis' h'
      (fun call hcall => hkeys call (List.mem_cons_of_mem _ hcall)) hchain.2 hroomy.2
    refine ⟨counted :: answers, ?_, List.Forall₂.cons hagrees hall⟩
    rw [redisAnswers, hredis, Option.bind_some]
    show (redisAnswers redis' rest).map (counted :: ·) = _
    rw [hrest, Option.map_some]

/-- A limiter that has counted nothing mirrors a Redis without the keys. -/
theorem mirrors_empty (now : ℚ) (operations : ℕ) (habsent : ∀ key ∈ keys, redis.get? key = none) :
    Mirrors keys now ⟨Dict.empty, operations⟩ redis := by
  constructor
  · intro key hkey t _
    rw [ExpiringStore.liveEntry_eq_none t (habsent key hkey)]
    rfl
  · intro key _ t _ counter hcounter
    exact absurd hcounter (by simp [liveCounter])

/-- **Refinement.** Calls at times that do not go back, over any keys and windows, are answered by
    the map as by Redis, with waits at most a second apart, as long as no call finds the map at its
    entry bound.  The readings are exact here; `time.monotonic` and the sum `now + window_seconds`
    are doubles, so within one rounding of the end of a window the two may tell differently. -/
theorem memory_refines_redis (calls : List IncrementCall) (operations : ℕ)
    (hchain : (calls.map IncrementCall.now).IsChain (· ≤ ·))
    (habsent : ∀ call ∈ calls, redis.get? call.key = none)
    (hroomy : Roomy ⟨Dict.empty, operations⟩ calls) :
    ∃ answers, redisAnswers redis calls = some answers ∧
      List.Forall₂ Counted.Agrees (memoryAnswers ⟨Dict.empty, operations⟩ calls) answers := by
  cases calls with
  | nil => exact ⟨[], rfl, List.Forall₂.nil⟩
  | cons call rest =>
    have hmirrors : Mirrors ((call :: rest).map IncrementCall.key) call.now
        ⟨Dict.empty, operations⟩ redis := by
      refine mirrors_empty call.now operations fun key hkey => ?_
      obtain ⟨call', hcall', rfl⟩ := List.mem_map.mp hkey
      exact habsent call' hcall'
    refine hmirrors.answers (call :: rest) call.now _ redis
      (fun call' hcall' => List.mem_map_of_mem hcall') ?_ hroomy
    rw [List.map_cons, List.isChain_cons_cons]
    exact ⟨le_rfl, by simpa using hchain⟩

/-- Three calls under one key, the last exactly when its window ends. -/
theorem memory_refines_redis_sample :
    ∃ answers, redisAnswers Dict.empty [⟨"k", 10, 0⟩, ⟨"k", 10, 7 / 2⟩, ⟨"k", 10, 10⟩] =
        some answers ∧
      List.Forall₂ Counted.Agrees (memoryAnswers ⟨Dict.empty, 0⟩
        [⟨"k", 10, 0⟩, ⟨"k", 10, 7 / 2⟩, ⟨"k", 10, 10⟩]) answers :=
  memory_refines_redis _ 0 (by decide +kernel) (fun _ _ => rfl) (by
    refine ⟨by decide +kernel, by decide +kernel, by decide +kernel, trivial⟩)

end OurosAuth
