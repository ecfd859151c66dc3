import OurosAuth.RateLimit.Memory

namespace OurosAuth

open KeyValue Traced

/-!
# Is `Retry-After` long enough?

`_increment` answers the whole seconds that are left of the window, and at least one; a rejected
check answers the longest of these waits.

* `LongEnough` — once the wait is over, the windows of the exceeded rules have ended, and the next
  check of the same client is not rejected by any of them;
* `EndsOnTime` — the last of these windows ends a whole number of seconds after the check, or
  within one second of it;
* `long_enough_iff` — the two are the same.
-/

/-- The increments of a check. -/
def LimiterCall.increments (rt : Runtime) (settings : Settings) (call : LimiterCall)
    (l : MemoryLimiter) : List RuleIncrement :=
  (l.checkRules rt call.ip call.email ((settings.rules call.check).zip call.readings)).1

/-- What the check raises `RateLimitExceeded` with, and the handler answers in `Retry-After`; the
    check is let through when it is 0. -/
def LimiterCall.retryAfter (rt : Runtime) (settings : Settings) (call : LimiterCall)
    (l : MemoryLimiter) : ℕ :=
  longestRetryAfter ((call.increments rt settings l).map fun inc => (inc.rule, inc.counted))

/-- The rule of this increment is exceeded. -/
def RuleIncrement.Exceeds (inc : RuleIncrement) : Prop := inc.rule.limit < inc.counted.count

instance : DecidablePred RuleIncrement.Exceeds := fun inc =>
  inferInstanceAs (Decidable (inc.rule.limit < inc.counted.count))

/-- The key this increment counts under. -/
def RuleIncrement.key (rt : Runtime) (inc : RuleIncrement) : String := rateKey rt inc.rule inc.value

/-- When the window that is open under a key at time `t` ends. -/
def windowEnd (l : MemoryLimiter) (t : ℚ) (key : String) : Option ℚ :=
  (liveCounter l.memory t key).map Counter.expiresAt

/-- After the wait that `call` is answered at time `t`, every window it exceeded has ended, and the
    next check of the same address and e-mail exceeds none of these rules. -/
def LongEnough (rt : Runtime) (settings : Settings) (s s₁ : LimiterState) (call : LimiterCall)
    (t : ℚ) : Prop :=
  ∀ inc ∈ call.increments rt settings s.limiter, inc.Exceeds →
    (∃ e, windowEnd s.limiter t (inc.key rt) = some e ∧
      e ≤ t + call.retryAfter rt settings s.limiter) ∧
    ∀ later s₂ es, later.ip = call.ip → later.email = call.email →
      (∀ r ∈ later.readings, t + call.retryAfter rt settings s.limiter ≤ r) →
      limiterStep rt settings s₁ later = some (s₂, es) →
      ∀ inc' ∈ later.increments rt settings s₁.limiter, inc'.rule = inc.rule → ¬ inc'.Exceeds

/-- The last of the exceeded windows ends a whole number of seconds after `t`, or at most one second
    after it. -/
def EndsOnTime (rt : Runtime) (settings : Settings) (s : LimiterState) (call : LimiterCall)
    (t : ℚ) : Prop :=
  ∃ inc ∈ call.increments rt settings s.limiter, inc.Exceeds ∧
    ∃ e, windowEnd s.limiter t (inc.key rt) = some e ∧
      (∀ inc' ∈ call.increments rt settings s.limiter, inc'.Exceeds →
        ∀ e', windowEnd s.limiter t (inc'.key rt) = some e' → e' ≤ e) ∧
      (e - t ≤ 1 ∨ ∃ n : ℤ, e - t = n)

variable {rt : Runtime} {settings : Settings} {check : LimiterCheck} {ip email key : String}
  {l : MemoryLimiter} {t : ℚ} {rule : RateLimitRule} {inc : RuleIncrement}

/-! ### Truncation -/

/-- The whole seconds of a time cover it, from one second on, exactly when nothing is cut off. -/
theorem le_max_floor_iff {d : ℚ} : d ≤ max (⌊d⌋ : ℚ) 1 ↔ d ≤ 1 ∨ ∃ n : ℤ, d = n := by
  constructor
  · intro h
    rcases le_max_iff.mp h with hfloor | hone
    · exact Or.inr ⟨⌊d⌋, le_antisymm hfloor (Int.floor_le d)⟩
    · exact Or.inl hone
  · rintro (h | ⟨n, rfl⟩)
    · exact h.trans (le_max_right _ _)
    · rw [Int.floor_intCast]
      exact le_max_left _ _

/-- The wait of one increment, from what is left of its window. -/
theorem wait_eq {d : ℚ} (hd : 0 ≤ d) : (((max (pyInt d) 1).toNat : ℕ) : ℚ) = max (⌊d⌋ : ℚ) 1 := by
  rw [pyInt_eq_floor hd]
  have hpos : (0 : ℤ) ≤ max ⌊d⌋ 1 := zero_le_one.trans (le_max_right _ _)
  have hcast : (((max ⌊d⌋ 1).toNat : ℤ) : ℚ) = ((max ⌊d⌋ 1 : ℤ) : ℚ) := by
    rw [Int.toNat_of_nonneg hpos]
  rw [← Int.cast_natCast, hcast, Int.cast_max, Int.cast_one]

/-! ### One increment -/

/-- An exceeded rule found its counter live. -/
theorem increment_exceeds {limit windowSeconds : ℕ} (hlimit : 1 ≤ limit)
    (hexceeds : limit < (l.increment key windowSeconds t).counted.count) :
    ∃ counter, liveCounter l.memory t key = some counter ∧
      (l.increment key windowSeconds t).counted.retryAfter =
        (max (pyInt (counter.expiresAt - t)) 1).toNat ∧
      ∀ t', t ≤ t' → counter.expiresAt ≤ t' →
        liveCounter (l.increment key windowSeconds t).limiter.memory t' key = none := by
  obtain ⟨-, -, -, hself, -⟩ := increment_spec l key windowSeconds t
  cases hlive : liveCounter l.memory t key with
  | none =>
    rw [count_of_liveCounter_none hlive] at hexceeds
    omega
  | some counter =>
    refine ⟨counter, rfl, ?_, fun t' hle hended => ?_⟩
    · rw [increment_eq, hlive]
      rfl
    · rw [hself t' hle, hlive]
      simp [nextCounter, Option.filter, not_lt.mpr hended]

/-! ### One check -/

/-- The key a rule counts this client under. -/
def clientKey (rt : Runtime) (ip email : String) (rule : RateLimitRule) : String :=
  rateKey rt rule (rule.dimension.value rt ip email)

/-- Every increment is of a rule of the check, under the key of the client. -/
theorem mem_checkRules (pairs : List (RateLimitRule × ℚ)) :
    ∀ {l : MemoryLimiter}, inc ∈ (l.checkRules rt ip email pairs).1 →
      inc.rule ∈ pairs.map Prod.fst ∧ inc.key rt = clientKey rt ip email inc.rule := by
  induction pairs with
  | nil => exact fun h => absurd h List.not_mem_nil
  | cons pair rest ih =>
    intro l h
    rw [checkRules_cons] at h
    rcases List.mem_cons.mp h with rfl | h
    · exact ⟨List.mem_cons_self, rfl⟩
    · exact ⟨List.mem_cons_of_mem _ (ih h).1, (ih h).2⟩

/-- Two rules of a check count under two keys. -/
theorem clientKey_ne {rule' : RateLimitRule} (h : rule ∈ settings.rules check)
    (h' : rule' ∈ settings.rules check) (hne : rule ≠ rule') :
    clientKey rt ip email rule ≠ clientKey rt ip email rule' :=
  fun hkey => hne (rateKey_inj h h' hkey).1

/-- **Frame.** The other rules of a check start no counter under the key of a rule. -/
theorem liveCounter_checkRules_none (hrule : rule ∈ settings.rules check)
    (pairs : List (RateLimitRule × ℚ)) :
    ∀ {l : MemoryLimiter}, (∀ p ∈ pairs, p.1 ∈ settings.rules check ∧ p.1 ≠ rule ∧ p.2 ≤ t) →
      liveCounter l.memory t (clientKey rt ip email rule) = none →
      liveCounter (l.checkRules rt ip email pairs).2.memory t (clientKey rt ip email rule) =
        none := by
  induction pairs with
  | nil => exact fun _ h => h
  | cons pair rest ih =>
    intro l hpairs h
    obtain ⟨hmem, hne, hle⟩ := hpairs pair List.mem_cons_self
    rw [checkRules_cons]
    exact ih (fun p hp => hpairs p (List.mem_cons_of_mem _ hp))
      (liveCounter_increment_none hle (clientKey_ne hrule hmem hne.symm) h)

/-- **An exceeded rule.** Its window was open before the check, the wait is what is left of it, and
    once it has ended there is no counter under its key. -/
theorem exceeds_of_checkRules (pairs : List (RateLimitRule × ℚ)) :
    ∀ {l : MemoryLimiter}, (∀ p ∈ pairs, p.1 ∈ settings.rules check ∧ p.2 = t) →
      (pairs.map Prod.fst).Nodup → inc ∈ (l.checkRules rt ip email pairs).1 → inc.Exceeds →
      ∃ counter, liveCounter l.memory t (inc.key rt) = some counter ∧
        inc.counted.retryAfter = (max (pyInt (counter.expiresAt - t)) 1).toNat ∧
        ∀ t', t ≤ t' → counter.expiresAt ≤ t' →
          liveCounter (l.checkRules rt ip email pairs).2.memory t' (inc.key rt) = none := by
  induction pairs with
  | nil => exact fun _ _ h => absurd h List.not_mem_nil
  | cons pair rest ih =>
    obtain ⟨rule, readAt⟩ := pair
    intro l hpairs hnodup hinc hexceeds
    obtain ⟨hrule, rfl⟩ := hpairs (rule, readAt) List.mem_cons_self
    have hrest : ∀ p ∈ rest, p.1 ∈ settings.rules check ∧ p.2 = readAt :=
      fun p hp => hpairs p (List.mem_cons_of_mem _ hp)
    rw [List.map_cons, List.nodup_cons] at hnodup
    have hother : ∀ p ∈ rest, p.1 ≠ rule := by
      intro p hp heq
      exact hnodup.1 (heq ▸ List.mem_map.mpr ⟨p, hp, rfl⟩)
    rw [checkRules_cons] at hinc ⊢
    rcases List.mem_cons.mp hinc with rfl | hinc
    · obtain ⟨counter, hlive, hwait, hended⟩ := increment_exceeds (one_le_limit hrule) hexceeds
      refine ⟨counter, hlive, hwait, fun t' hle hexp => ?_⟩
      exact liveCounter_checkRules_none hrule rest
        (fun p hp => ⟨(hrest p hp).1, hother p hp, (hrest p hp).2.le.trans hle⟩)
        (hended t' hle hexp)
    · obtain ⟨counter, hlive, hwait, hended⟩ := ih hrest hnodup.2 hinc hexceeds
      refine ⟨counter, ?_, hwait, hended⟩
      -- the increment before it has left this counter alone
      obtain ⟨hmem, hkey⟩ := mem_checkRules rest hinc
      obtain ⟨p, hp, hprule⟩ := List.mem_map.mp hmem
      have hne : inc.key rt ≠ clientKey rt ip email rule := by
        rw [hkey, ← hprule]
        exact clientKey_ne (hrest p hp).1 hrule (hother p hp)
      obtain ⟨-, -, -, -, hframe⟩ := increment_spec l (clientKey rt ip email rule)
        rule.windowSeconds readAt
      have hsame := hframe readAt (inc.key rt) le_rfl hne
      split_ifs at hsame with hevicted
      · exact absurd (hsame.symm.trans hlive) (by simp)
      · exact hsame.symm.trans hlive

/-- **After the window.** Where a rule has no live counter, it counts one. -/
theorem count_of_checkRules (hrule : rule ∈ settings.rules check)
    (pairs : List (RateLimitRule × ℚ)) :
    ∀ {l : MemoryLimiter} {ended : ℚ}, (∀ p ∈ pairs, p.1 ∈ settings.rules check) →
      (pairs.map Prod.fst).Nodup → (ended :: pairs.map Prod.snd).IsChain (· ≤ ·) →
      (∀ t, ended ≤ t → liveCounter l.memory t (clientKey rt ip email rule) = none) →
      inc ∈ (l.checkRules rt ip email pairs).1 → inc.rule = rule → inc.counted.count = 1 := by
  induction pairs with
  | nil => exact fun _ _ _ _ h => absurd h List.not_mem_nil
  | cons pair rest ih =>
    obtain ⟨rule', readAt⟩ := pair
    intro l ended hmem hnodup hchain hnone hinc heq
    rw [List.map_cons, List.isChain_cons_cons] at hchain
    rw [List.map_cons, List.nodup_cons] at hnodup
    rw [checkRules_cons] at hinc
    rcases List.mem_cons.mp hinc with rfl | hinc
    · -- the rule itself comes next, and finds no live counter
      obtain rfl : rule' = rule := heq
      show (l.increment (clientKey rt ip email rule') _ _).counted.count = 1
      exact count_of_liveCounter_none (hnone readAt hchain.1)
    · -- another rule first: it counts under another key, and an eviction does no harm
      have hne : rule ≠ rule' := by
        rintro rfl
        exact hnodup.1 (heq ▸ (mem_checkRules rest hinc).1)
      refine ih (fun p hp => hmem p (List.mem_cons_of_mem _ hp)) hnodup.2 hchain.2 ?_ hinc heq
      intro t ht
      exact liveCounter_increment_none ht
        (clientKey_ne hrule (hmem _ List.mem_cons_self) hne) (hnone t (hchain.1.trans ht))

/-! ### One call -/

/-- What a step of the limiter is. -/
theorem limiterStep_eq_some {s s' : LimiterState} {call : LimiterCall} {es : List Attempt}
    (h : limiterStep rt settings s call = some (s', es)) :
    call.readings.length = (settings.rules call.check).length ∧
      (s.now :: call.readings).IsChain (· ≤ ·) ∧
      s'.limiter = (s.limiter.checkRules rt call.ip call.email
        ((settings.rules call.check).zip call.readings)).2 := by
  unfold limiterStep at h
  split_ifs at h with hguard
  obtain ⟨rfl, -⟩ := Prod.mk.inj (Option.some.inj h)
  exact ⟨hguard.1, hguard.2, rfl⟩

variable {s s₁ : LimiterState} {call : LimiterCall} {es : List Attempt}

/-- The wait of an exceeded rule is the time left of its window, cut to whole seconds. -/
theorem exceeds_spec (hat : ∀ r ∈ call.readings, r = t)
    (hstep : limiterStep rt settings s call = some (s₁, es))
    (hinc : inc ∈ call.increments rt settings s.limiter) (hexceeds : inc.Exceeds) :
    ∃ e, windowEnd s.limiter t (inc.key rt) = some e ∧ t < e ∧
      (inc.counted.retryAfter : ℚ) = max (⌊e - t⌋ : ℚ) 1 ∧
      ∀ t', t ≤ t' → e ≤ t' → liveCounter s₁.limiter.memory t' (inc.key rt) = none := by
  obtain ⟨hlength, -, hs₁⟩ := limiterStep_eq_some hstep
  obtain ⟨counter, hlive, hwait, hended⟩ := exceeds_of_checkRules (t := t)
    ((settings.rules call.check).zip call.readings)
    (fun p hp => ⟨(List.of_mem_zip hp).1, hat _ (List.of_mem_zip hp).2⟩)
    (by rw [List.map_fst_zip hlength.ge]; exact nodup_rules settings call.check) hinc hexceeds
  have ht : t < counter.expiresAt := of_decide_eq_true (Option.filter_eq_some_iff.mp hlive).2
  refine ⟨counter.expiresAt, by rw [windowEnd, hlive, Option.map_some], ht, ?_, ?_⟩
  · rw [hwait, wait_eq (sub_nonneg.mpr ht.le)]
  · rw [hs₁]
    exact hended

/-- Once its window has ended, a rule is not exceeded by the next check. -/
theorem not_exceeds_of_ended {later : LimiterCall} {s₂ : LimiterState} {es₂ : List Attempt}
    {ended : ℚ} (hread : ∀ r ∈ later.readings, ended ≤ r)
    (hstep : limiterStep rt settings s₁ later = some (s₂, es₂))
    (hnone : ∀ t, ended ≤ t →
      liveCounter s₁.limiter.memory t (clientKey rt later.ip later.email rule) = none)
    (hinc : inc ∈ later.increments rt settings s₁.limiter) (hrule : inc.rule = rule) :
    ¬ inc.Exceeds := by
  obtain ⟨hlength, hchain, -⟩ := limiterStep_eq_some hstep
  have hfst : ((settings.rules later.check).zip later.readings).map Prod.fst =
      settings.rules later.check := List.map_fst_zip hlength.ge
  have hsnd : ((settings.rules later.check).zip later.readings).map Prod.snd = later.readings :=
    List.map_snd_zip hlength.le
  have hmem : rule ∈ settings.rules later.check := by
    have h := (mem_checkRules _ hinc).1
    rwa [hfst, hrule] at h
  have hordered : (ended :: later.readings).IsChain (· ≤ ·) := by
    cases hreadings : later.readings with
    | nil => simp
    | cons r rest =>
      rw [hreadings] at hchain hread
      rw [List.isChain_cons_cons] at hchain ⊢
      exact ⟨hread r List.mem_cons_self, hchain.2⟩
  have hcount := count_of_checkRules hmem ((settings.rules later.check).zip later.readings)
    (fun p hp => (List.of_mem_zip hp).1) (by rw [hfst]; exact nodup_rules settings later.check)
    (by rwa [hsnd]) hnone hinc hrule
  have hlimit := one_le_limit hmem
  rw [RuleIncrement.Exceeds, hcount, hrule]
  omega

/-! ### The wait -/

/-- Of finitely many times one is the last. -/
theorem exists_last {increments : List RuleIncrement} {inc : RuleIncrement}
    (end_ : RuleIncrement → ℚ) (h : inc ∈ increments ∧ inc.Exceeds) :
    ∃ last ∈ increments, last.Exceeds ∧
      ∀ inc' ∈ increments, inc'.Exceeds → end_ inc' ≤ end_ last := by
  have hmem : ∀ inc, inc ∈ increments.filter (fun inc => decide inc.Exceeds) ↔
      inc ∈ increments ∧ inc.Exceeds := by
    intro inc
    rw [List.mem_filter, decide_eq_true_eq]
  cases hlast : (increments.filter fun inc => decide inc.Exceeds).argmax end_ with
  | none =>
    rw [List.argmax_eq_none] at hlast
    exact absurd ((hmem inc).mpr h) (hlast ▸ List.not_mem_nil)
  | some last =>
    obtain ⟨hin, hexceeds⟩ := (hmem last).mp (List.argmax_mem hlast)
    exact ⟨last, hin, hexceeds, fun inc' hin' hexceeds' =>
      List.le_of_mem_argmax ((hmem inc').mpr ⟨hin', hexceeds'⟩) hlast⟩

/-- **The wait.** A rejected check answers the time left of the last window it exceeds, cut to whole
    seconds. -/
theorem retryAfter_eq (hat : ∀ r ∈ call.readings, r = t)
    (hstep : limiterStep rt settings s call = some (s₁, es))
    (hrejected : 0 < call.retryAfter rt settings s.limiter) :
    ∃ inc ∈ call.increments rt settings s.limiter, inc.Exceeds ∧
      ∃ e, windowEnd s.limiter t (inc.key rt) = some e ∧
        (∀ inc' ∈ call.increments rt settings s.limiter, inc'.Exceeds →
          ∀ e', windowEnd s.limiter t (inc'.key rt) = some e' → e' ≤ e) ∧
        (call.retryAfter rt settings s.limiter : ℚ) = max (⌊e - t⌋ : ℚ) 1 := by
  obtain ⟨hbound, hattained⟩ := longestRetryAfter_spec
    ((call.increments rt settings s.limiter).map fun inc => (inc.rule, inc.counted))
  obtain ⟨rc, hrc, hexceeds, hlongest⟩ := hattained hrejected
  obtain ⟨longest, hmem, rfl⟩ := List.mem_map.mp hrc
  obtain ⟨last, hlast, hlastExceeds, hmax⟩ := exists_last
    (fun inc => (windowEnd s.limiter t (inc.key rt)).getD 0) ⟨hmem, hexceeds⟩
  obtain ⟨e, he, -, hwait, -⟩ := exceeds_spec hat hstep hlast hlastExceeds
  have hends : ∀ inc' ∈ call.increments rt settings s.limiter, inc'.Exceeds →
      ∀ e', windowEnd s.limiter t (inc'.key rt) = some e' → e' ≤ e := by
    intro inc' hmem' hexceeds' e' he'
    have h := hmax inc' hmem' hexceeds'
    rwa [he, he', Option.getD_some, Option.getD_some] at h
  refine ⟨last, hlast, hlastExceeds, e, he, hends, ?_⟩
  -- the longest wait is no longer than that of the last window, and the other way round
  obtain ⟨e', he', -, hwait', -⟩ := exceeds_spec hat hstep hmem hexceeds
  have hle := hends longest hmem hexceeds e' he'
  refine le_antisymm ?_ ?_
  · have hfloor : (⌊e' - t⌋ : ℚ) ≤ ⌊e - t⌋ := by
      exact_mod_cast Int.floor_le_floor (sub_le_sub_right hle t)
    calc (call.retryAfter rt settings s.limiter : ℚ) = longest.counted.retryAfter := by
          exact_mod_cast hlongest.symm
      _ = max (⌊e' - t⌋ : ℚ) 1 := hwait'
      _ ≤ max (⌊e - t⌋ : ℚ) 1 := max_le_max_right 1 hfloor
  · rw [← hwait]
    exact_mod_cast hbound _ (List.mem_map_of_mem hlast) hlastExceeds

/-- **When the wait is long enough.** A check rejected at time `t` answers a long enough wait
    exactly when the last of the windows it exceeds ends on time. -/
theorem long_enough_iff (hat : ∀ r ∈ call.readings, r = t)
    (hstep : limiterStep rt settings s call = some (s₁, es))
    (hrejected : 0 < call.retryAfter rt settings s.limiter) :
    LongEnough rt settings s s₁ call t ↔ EndsOnTime rt settings s call t := by
  obtain ⟨last, hlast, hexceeds, e, he, hends, hwait⟩ := retryAfter_eq hat hstep hrejected
  constructor
  · intro henough
    obtain ⟨e', he', hle⟩ := (henough last hlast hexceeds).1
    obtain rfl : e = e' := Option.some.inj (he.symm.trans he')
    rw [hwait, ← sub_le_iff_le_add'] at hle
    exact ⟨last, hlast, hexceeds, e, he, hends, le_max_floor_iff.mp hle⟩
  · rintro ⟨last', hlast', hexceeds', e', he', hends', hwhole⟩ inc hinc hexc
    obtain rfl : e = e' :=
      le_antisymm (hends' last hlast hexceeds e he) (hends last' hlast' hexceeds' e' he')
    have hcovers : e ≤ t + call.retryAfter rt settings s.limiter := by
      rw [hwait, ← sub_le_iff_le_add']
      exact le_max_floor_iff.mpr hwhole
    obtain ⟨ending, hending, hlt, -, hnone⟩ := exceeds_spec hat hstep hinc hexc
    have hended : ending ≤ t + call.retryAfter rt settings s.limiter :=
      (hends inc hinc hexc ending hending).trans hcovers
    refine ⟨⟨ending, hending, hended⟩, ?_⟩
    intro later s₂ es₂ hip hemail hread hlater inc' hinc' hsame
    have hkey : inc.key rt = clientKey rt later.ip later.email inc.rule := by
      rw [hip, hemail]
      exact (mem_checkRules _ hinc).2
    refine not_exceeds_of_ended hread hlater (fun t' ht' => ?_) hinc' hsame
    rw [← hkey]
    exact hnone t' (hlt.le.trans (hended.trans ht')) (hended.trans ht')

/-- A request of one client to start a reset, at time `t`. -/
def resetAttempt (t : ℚ) : LimiterCall :=
  ⟨.passwordReset, "203.0.113.9", "ana@ouros.app", [t, t]⟩

/-- Three attempts at 0 open a window that ends at 60; the fourth comes at 1, and the 59 seconds it
    is answered are enough. -/
theorem long_enough_sample :
    ∃ c s₁ es, (limiterSystem .sample (.sample none)).run (Config.start (LimiterState.init 0))
        (List.replicate 3 (resetAttempt 0)) = some c ∧
      limiterStep .sample (.sample none) c.state (resetAttempt 1) = some (s₁, es) ∧
      (resetAttempt 1).retryAfter .sample (.sample none) c.state.limiter = 59 ∧
      LongEnough .sample (.sample none) c.state s₁ (resetAttempt 1) 1 := by
  have hrun : ((limiterSystem .sample (.sample none)).run (Config.start (LimiterState.init 0))
    (List.replicate 3 (resetAttempt 0))).isSome = true := by decide +kernel
  have hstep : (limiterStep .sample (.sample none) (Option.get _ hrun).state
    (resetAttempt 1)).isSome = true := by decide +kernel +revert
  have hwait : (resetAttempt 1).retryAfter .sample (.sample none)
      (Option.get _ hrun).state.limiter = 59 := by decide +kernel +revert
  have hends : ∀ inc ∈ (resetAttempt 1).increments .sample (.sample none)
      (Option.get _ hrun).state.limiter, inc.Exceeds →
        windowEnd (Option.get _ hrun).state.limiter 1 (inc.key .sample) = some 60 := by
    decide +kernel +revert
  have hat : ∀ r ∈ (resetAttempt 1).readings, r = 1 := by decide +kernel
  have hget := (Option.some_get hstep).symm
  have hpos : 0 < (resetAttempt 1).retryAfter .sample (.sample none)
      (Option.get _ hrun).state.limiter := by rw [hwait]; decide
  refine ⟨_, (Option.get _ hstep).1, (Option.get _ hstep).2, (Option.some_get hrun).symm, hget,
    hwait, (long_enough_iff hat hget hpos).mpr ?_⟩
  obtain ⟨inc, hinc, hexceeds, e, he, hlast, -⟩ := retryAfter_eq hat hget hpos
  refine ⟨inc, hinc, hexceeds, e, he, hlast, Or.inr ⟨59, ?_⟩⟩
  obtain rfl : e = 60 := Option.some.inj (he.symm.trans (hends inc hinc hexceeds))
  norm_num

/-- **The wait is too short.** Three attempts at half a second open a window that ends at 60.5.  The
    fourth comes at 1 and is told to wait 59 seconds, but at 60 the rule still rejects. -/
theorem retry_after_too_short :
    ∃ c s₁ es, (limiterSystem .sample (.sample none)).run (Config.start (LimiterState.init 0))
        (List.replicate 3 (resetAttempt (1 / 2))) = some c ∧
      limiterStep .sample (.sample none) c.state (resetAttempt 1) = some (s₁, es) ∧
      (resetAttempt 1).retryAfter .sample (.sample none) c.state.limiter = 59 ∧
      ¬ LongEnough .sample (.sample none) c.state s₁ (resetAttempt 1) 1 := by
  have hrun : ((limiterSystem .sample (.sample none)).run (Config.start (LimiterState.init 0))
    (List.replicate 3 (resetAttempt (1 / 2)))).isSome = true := by decide +kernel
  have hstep : (limiterStep .sample (.sample none) (Option.get _ hrun).state
    (resetAttempt 1)).isSome = true := by decide +kernel +revert
  have hlater : (limiterStep .sample (.sample none) (Option.get _ hstep).1
    (resetAttempt 60)).isSome = true := by decide +kernel +revert
  have hwait : (resetAttempt 1).retryAfter .sample (.sample none)
      (Option.get _ hrun).state.limiter = 59 := by decide +kernel +revert
  have hfirst : ∃ inc ∈ (resetAttempt 1).increments .sample (.sample none)
      (Option.get _ hrun).state.limiter, inc.rule = resetIpRule ∧ inc.Exceeds := by
    decide +kernel +revert
  have hagain : ∃ inc ∈ (resetAttempt 60).increments .sample (.sample none)
      (Option.get _ hstep).1.limiter, inc.rule = resetIpRule ∧ inc.Exceeds := by
    decide +kernel +revert
  refine ⟨_, (Option.get _ hstep).1, (Option.get _ hstep).2, (Option.some_get hrun).symm,
    (Option.some_get hstep).symm, hwait, fun henough => ?_⟩
  obtain ⟨inc, hinc, hrule, hexceeds⟩ := hfirst
  obtain ⟨inc', hinc', hrule', hexceeds'⟩ := hagain
  refine (henough inc hinc hexceeds).2 (resetAttempt 60) _ _ rfl rfl ?_
    (Option.some_get hlater).symm inc' hinc' (hrule'.trans hrule.symm) hexceeds'
  intro r hr
  obtain rfl : r = 60 := by simpa [resetAttempt] using hr
  rw [hwait]
  norm_num

end OurosAuth
