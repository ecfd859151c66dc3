import OurosAuth.Lib.Dict
import OurosAuth.Lib.Traced
import OurosAuth.RateLimit.Rules
import Mathlib.Data.List.MinMax

namespace OurosAuth

open KeyValue Traced

/-!
# The in-process fallback limiter

`RateLimiter` without Redis: the branch of `_increment` under `_memory_lock`, and the two checks
over it.  Nothing in that branch suspends the event loop, so a check runs as one step; each of
its increments reads `monotonic()` anew.

* `MemoryLimiter.increment` — one counter, with the counter it evicts from a full map;
* `MemoryLimiter.checkRules` — the increments of one check, in order;
* `limiterSystem` — the runs of the limiter; its events are the increments, each with the
  decision of the check it belongs to.
-/

/-- A value of the map: the count and the end of its window. -/
structure Counter where
  count : ℕ
  expiresAt : ℚ
  deriving DecidableEq

/-- The process-local state of a `RateLimiter`. -/
structure MemoryLimiter where
  memory : Dict String Counter
  operations : ℕ

/-- `_MEMORY_MAX_ENTRIES` -/
def memoryMaxEntries : ℕ := 10000

/-- `_MEMORY_CLEANUP_INTERVAL` -/
def memoryCleanupInterval : ℕ := 128

/-- `RateLimiter._cleanup_memory` -/
def cleanupCounters (now : ℚ) (memory : Dict String Counter) : Dict String Counter :=
  memory.filter fun _ counter => decide (now < counter.expiresAt)

/-- The key `_evict_soonest_expiring_entry` removes: the first among those that expire
    soonest. -/
def soonestExpiring (memory : Dict String Counter) : Option String :=
  (memory.entries.argmin fun entry => entry.2.expiresAt).map Prod.fst

/-- What one increment did. -/
structure Incremented where
  counted : Counted
  /-- The counter that made room for this one. -/
  evicted : Option String
  limiter : MemoryLimiter

/-- How `_increment` begins, when the map may hold `maxEntries` counters: it counts the operation,
    and cleans up every so often or when the map is full. -/
def MemoryLimiter.maintainWithin (maxEntries : ℕ) (l : MemoryLimiter) (now : ℚ) : MemoryLimiter :=
  if memoryCleanupInterval ≤ l.operations + 1 ∨ maxEntries ≤ l.memory.size then
    ⟨cleanupCounters now l.memory, 0⟩
  else ⟨l.memory, l.operations + 1⟩

def MemoryLimiter.maintain (l : MemoryLimiter) (now : ℚ) : MemoryLimiter :=
  l.maintainWithin memoryMaxEntries now

/-- The counter that has to go before `key` is written. -/
def victimWithin (maxEntries : ℕ) (memory : Dict String Counter) (key : String) : Option String :=
  if memory.get? key = none ∧ maxEntries ≤ memory.size then soonestExpiring memory else none

def victim (memory : Dict String Counter) (key : String) : Option String :=
  victimWithin memoryMaxEntries memory key

/-- The map without the victim. -/
def evict (memory : Dict String Counter) : Option String → Dict String Counter
  | none => memory
  | some key => memory.erase key

/-- `_increment`, the branch under `_memory_lock`. -/
def MemoryLimiter.incrementWithin (maxEntries : ℕ) (l : MemoryLimiter) (key : String)
    (windowSeconds : ℕ) (now : ℚ) : Incremented :=
  let l := l.maintainWithin maxEntries now
  let counter : Counter :=
    match l.memory.get? key with
    | none => ⟨1, now + windowSeconds⟩
    | some current =>
      -- still in the map when the last cleanup came too early for it
      if current.expiresAt ≤ now then ⟨1, now + windowSeconds⟩
      else ⟨current.count + 1, current.expiresAt⟩
  let evicted := victimWithin maxEntries l.memory key
  { counted := ⟨counter.count, (max (pyInt (counter.expiresAt - now)) 1).toNat⟩
    evicted := evicted
    limiter := ⟨(evict l.memory evicted).set key counter, l.operations⟩ }

/-- An increment of the application, whose maps have the bound of the class. -/
def MemoryLimiter.increment (l : MemoryLimiter) (key : String) (windowSeconds : ℕ) (now : ℚ) :
    Incremented :=
  l.incrementWithin memoryMaxEntries key windowSeconds now

/-- A call of `_increment`, with the time it is made at. -/
structure IncrementCall where
  key : String
  windowSeconds : ℕ
  now : ℚ

/-- One increment of a check: its rule, its clock reading and what it did. -/
structure RuleIncrement where
  rule : RateLimitRule
  value : String
  readAt : ℚ
  counted : Counted
  evicted : Option String

/-- The increments of one check, in order, and the limiter after them. -/
def MemoryLimiter.checkRules (rt : Runtime) (ip email : String) :
    MemoryLimiter → List (RateLimitRule × ℚ) → List RuleIncrement × MemoryLimiter
  | l, [] => ([], l)
  | l, (rule, readAt) :: rest =>
    let value := rule.dimension.value rt ip email
    let done := l.increment (rateKey rt rule value) rule.windowSeconds readAt
    let (increments, l') := checkRules rt ip email done.limiter rest
    (⟨rule, value, readAt, done.counted, done.evicted⟩ :: increments, l')

/-- A call of `check_credentials_attempt` or `check_password_reset_attempt`, with the clock
    reading of each of its increments. -/
structure LimiterCall where
  check : LimiterCheck
  ip : String
  email : String
  readings : List ℚ

/-- One increment, with the decision of its check. -/
structure Attempt where
  rule : RateLimitRule
  value : String
  readAt : ℚ
  evicted : Option String
  admitted : Bool
  deriving DecidableEq

/-- The limiter and the last clock reading. -/
structure LimiterState where
  now : ℚ
  limiter : MemoryLimiter

/-- A limiter no request has reached. -/
def LimiterState.init (now : ℚ) : LimiterState := ⟨now, Dict.empty, 0⟩

/-- Is the check let through, or does it raise `RateLimitExceeded`? -/
def admits (increments : List RuleIncrement) : Bool :=
  decide (longestRetryAfter (increments.map fun inc => (inc.rule, inc.counted)) = 0)

/-- The event of an increment, once its check is decided. -/
def RuleIncrement.toAttempt (admitted : Bool) (inc : RuleIncrement) : Attempt :=
  ⟨inc.rule, inc.value, inc.readAt, inc.evicted, admitted⟩

/-- One check, with its events newest first.  The clock does not go back, within a check or between
    two. -/
def limiterStep (rt : Runtime) (settings : Settings) (s : LimiterState) (call : LimiterCall) :
    Option (LimiterState × List Attempt) :=
  if call.readings.length = (settings.rules call.check).length ∧
      (s.now :: call.readings).IsChain (· ≤ ·) then
    let r := s.limiter.checkRules rt call.ip call.email
      ((settings.rules call.check).zip call.readings)
    some (⟨call.readings.getLastD s.now, r.2⟩, (r.1.map (·.toAttempt (admits r.1))).reverse)
  else none

/-- The runs of the limiter. -/
def limiterSystem (rt : Runtime) (settings : Settings) : System LimiterState LimiterCall Attempt :=
  ⟨limiterStep rt settings⟩

/-! ### What an increment sees -/

/-- The counter an increment at time `t` would continue. -/
def liveCounter (memory : Dict String Counter) (t : ℚ) (key : String) : Option Counter :=
  (memory.get? key).filter fun counter => decide (t < counter.expiresAt)

variable {rt : Runtime} {settings : Settings} {memory : Dict String Counter} {l : MemoryLimiter}
  {now t : ℚ} {key key' : String} {windowSeconds : ℕ}

/-- The cleanup removes nothing an increment would see. -/
theorem liveCounter_cleanup (hle : now ≤ t) :
    liveCounter (cleanupCounters now memory) t key = liveCounter memory t key := by
  unfold liveCounter cleanupCounters
  rw [Dict.get?_filter, Option.filter_filter]
  congr 1
  funext counter
  rw [Bool.and_eq_right_iff_imp]
  simp only [decide_eq_true_eq]
  exact hle.trans_lt

theorem liveCounter_set_self (counter : Counter) :
    liveCounter (memory.set key counter) t key =
      (some counter).filter fun counter => decide (t < counter.expiresAt) := by
  rw [liveCounter, Dict.get?_set_self]

theorem liveCounter_set_ne (counter : Counter) (h : key' ≠ key) :
    liveCounter (memory.set key counter) t key' = liveCounter memory t key' := by
  rw [liveCounter, Dict.get?_set_ne _ _ h, liveCounter]

/-- An eviction removes the victim alone. -/
theorem liveCounter_evict (evicted : Option String) :
    liveCounter (evict memory evicted) t key =
      if evicted = some key then none else liveCounter memory t key := by
  cases evicted with
  | none => simp [evict]
  | some victim =>
    rw [evict, liveCounter, Dict.get?_erase]
    by_cases h : key = victim
    · simp [h]
    · rw [if_neg h, if_neg fun heq => h (Option.some.inj heq).symm, liveCounter]

/-- The cleanup does not show. -/
theorem liveCounter_maintainWithin (maxEntries : ℕ) (hle : now ≤ t) :
    liveCounter (l.maintainWithin maxEntries now).memory t key = liveCounter l.memory t key := by
  unfold MemoryLimiter.maintainWithin
  split_ifs
  · exact liveCounter_cleanup hle
  · rfl

theorem liveCounter_maintain (hle : now ≤ t) :
    liveCounter (l.maintain now).memory t key = liveCounter l.memory t key :=
  liveCounter_maintainWithin memoryMaxEntries hle

/-- What is evicted is in the map. -/
theorem get?_of_victim (h : victim memory key = some key') : memory.get? key' ≠ none := by
  unfold victim victimWithin soonestExpiring at h
  split_ifs at h
  obtain ⟨entry, hentry, rfl⟩ := Option.map_eq_some_iff.mp h
  rw [← Dict.mem_keys_iff]
  exact List.mem_map_of_mem (List.argmin_mem hentry)

/-- A counter never makes room for itself. -/
theorem victim_ne_self : victim memory key ≠ some key := by
  intro h
  have hne := get?_of_victim h
  unfold victim victimWithin at h
  split_ifs at h with hguard
  exact hne hguard.1

/-! ### One increment -/

/-- The counter an increment writes. -/
def nextCounter (live : Option Counter) (windowSeconds : ℕ) (now : ℚ) : Counter :=
  match live with
  | none => ⟨1, now + windowSeconds⟩
  | some current => ⟨current.count + 1, current.expiresAt⟩

/-- An increment continues the live counter, or starts a new one. -/
theorem counter_eq_nextCounter (memory : Dict String Counter) :
    (match memory.get? key with
      | none => (⟨1, now + windowSeconds⟩ : Counter)
      | some current =>
        if current.expiresAt ≤ now then ⟨1, now + windowSeconds⟩
        else ⟨current.count + 1, current.expiresAt⟩) =
      nextCounter (liveCounter memory now key) windowSeconds now := by
  unfold liveCounter nextCounter
  cases memory.get? key with
  | none => rfl
  | some current =>
    by_cases h : current.expiresAt ≤ now
    · simp [h, Option.filter, not_lt.mpr h]
    · simp [h, Option.filter, not_le.mp h]

/-- An increment maintains the map, makes room and writes the next counter. -/
theorem incrementWithin_eq (maxEntries : ℕ) (l : MemoryLimiter) (key : String) (windowSeconds : ℕ)
    (now : ℚ) :
    l.incrementWithin maxEntries key windowSeconds now =
      let memory := (l.maintainWithin maxEntries now).memory
      let counter := nextCounter (liveCounter l.memory now key) windowSeconds now
      { counted := ⟨counter.count, (max (pyInt (counter.expiresAt - now)) 1).toNat⟩
        evicted := victimWithin maxEntries memory key
        limiter := ⟨(evict memory (victimWithin maxEntries memory key)).set key counter,
          (l.maintainWithin maxEntries now).operations⟩ } := by
  unfold MemoryLimiter.incrementWithin
  simp only [counter_eq_nextCounter, liveCounter_maintainWithin maxEntries le_rfl]

theorem increment_eq (l : MemoryLimiter) (key : String) (windowSeconds : ℕ) (now : ℚ) :
    l.increment key windowSeconds now =
      let memory := (l.maintain now).memory
      let counter := nextCounter (liveCounter l.memory now key) windowSeconds now
      { counted := ⟨counter.count, (max (pyInt (counter.expiresAt - now)) 1).toNat⟩
        evicted := victim memory key
        limiter := ⟨(evict memory (victim memory key)).set key counter,
          (l.maintain now).operations⟩ } :=
  incrementWithin_eq memoryMaxEntries l key windowSeconds now

/-- **One increment.** It continues the live counter under its key, removes at most the counter it
    reports, and touches no other. -/
theorem increment_spec (l : MemoryLimiter) (key : String) (windowSeconds : ℕ) (now : ℚ) :
    let counter := nextCounter (liveCounter l.memory now key) windowSeconds now
    let done := l.increment key windowSeconds now
    done.counted.count = counter.count ∧ 1 ≤ done.counted.retryAfter ∧ done.evicted ≠ some key ∧
      (∀ t, now ≤ t → liveCounter done.limiter.memory t key =
        (some counter).filter fun counter => decide (t < counter.expiresAt)) ∧
      ∀ t key', now ≤ t → key' ≠ key → liveCounter done.limiter.memory t key' =
        if done.evicted = some key' then none else liveCounter l.memory t key' := by
  intro counter done
  have hdone : done = _ := increment_eq l key windowSeconds now
  rw [hdone]
  refine ⟨rfl, ?_, victim_ne_self, fun t _ => liveCounter_set_self _, fun t key' hle hne => ?_⟩
  · show 1 ≤ (max _ (1 : ℤ)).toNat
    omega
  · -- another key: written by nobody, evicted perhaps, and the cleanup does not show
    rw [liveCounter_set_ne _ hne, liveCounter_evict, liveCounter_maintain hle]

/-- Without a live counter the count starts again. -/
theorem count_of_liveCounter_none (h : liveCounter l.memory now key = none) :
    (l.increment key windowSeconds now).counted.count = 1 := by
  rw [(increment_spec l key windowSeconds now).1, h]
  rfl

/-- Another key that has no live counter gets none. -/
theorem liveCounter_increment_none (hle : now ≤ t) (hne : key' ≠ key)
    (h : liveCounter l.memory t key' = none) :
    liveCounter (l.increment key windowSeconds now).limiter.memory t key' = none := by
  obtain ⟨-, -, -, -, hother⟩ := increment_spec l key windowSeconds now
  rw [hother t key' hle hne, h, ite_self]

/-! ### One check -/

theorem checkRules_cons (ip email : String) (l : MemoryLimiter) (rule : RateLimitRule) (readAt : ℚ)
    (rest : List (RateLimitRule × ℚ)) :
    let value := rule.dimension.value rt ip email
    let done := l.increment (rateKey rt rule value) rule.windowSeconds readAt
    let r := done.limiter.checkRules rt ip email rest
    l.checkRules rt ip email ((rule, readAt) :: rest) =
      (⟨rule, value, readAt, done.counted, done.evicted⟩ :: r.1, r.2) := rfl

/-- Every exceeded rule asks for a wait. -/
theorem retryAfter_of_checkRules (ip email : String) (pairs : List (RateLimitRule × ℚ)) :
    ∀ (l : MemoryLimiter), ∀ inc ∈ (l.checkRules rt ip email pairs).1,
      1 ≤ inc.counted.retryAfter := by
  induction pairs with
  | nil => exact fun _ _ h => absurd h List.not_mem_nil
  | cons pair rest ih =>
    intro l inc hinc
    rw [checkRules_cons] at hinc
    rcases List.mem_cons.mp hinc with rfl | hinc
    · exact (increment_spec _ _ _ _).2.1
    · exact ih _ inc hinc

/-- **Admission.** A check is let through exactly when each of its counters is within its rule's
    limit. -/
theorem admits_iff (ip email : String) (l : MemoryLimiter) (pairs : List (RateLimitRule × ℚ)) :
    admits (l.checkRules rt ip email pairs).1 = true ↔
      ∀ inc ∈ (l.checkRules rt ip email pairs).1, inc.counted.count ≤ inc.rule.limit := by
  rw [admits, decide_eq_true_eq, longestRetryAfter_eq_zero]
  · simp
  · intro rc hrc
    obtain ⟨inc, hinc, rfl⟩ := List.mem_map.mp hrc
    exact retryAfter_of_checkRules ip email pairs l inc hinc

end OurosAuth
