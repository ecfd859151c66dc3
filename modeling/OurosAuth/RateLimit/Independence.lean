import OurosAuth.Lib.Keyed
import OurosAuth.RateLimit.Bounded
import OurosAuth.RateLimit.Redis
import OurosAuth.RateLimit.RetryAfter
import Mathlib.Data.List.Dedup
import Mathlib.Data.List.Flatten

namespace OurosAuth

open KeyValue Traced Keyed

/-!
# Clients do not count for one another

A counter belongs to one rule and one address or e-mail, so a client's answers depend on the
requests that share its address or its e-mail, and on no others.

* `memoryStore`, `redisStore` — both backends as stores of the library, and their independence;
* `limiter_isolated` — a request to the in-process limiter, after any run of requests;
* `redis_isolated` — the increments of a client among those of all replicas.
-/

/-! ### The two backends -/

/-- The map. -/
def memoryStore : Store MemoryLimiter String ℚ IncrementCall Counted where
  step l call :=
    let done := l.increment call.key call.windowSeconds call.now
    (done.counted, done.limiter)
  key := IncrementCall.key
  time := IncrementCall.now

/-- Redis; a script that fails changes nothing. -/
def redisStore : Store Redis String ℚ IncrementCall (Option Counted) where
  step redis call :=
    match redisIncrement call.now call.key call.windowSeconds redis with
    | some (counted, redis) => (some counted, redis)
    | none => (none, redis)
  key := IncrementCall.key
  time := IncrementCall.now

/-- The call makes no other counter go. -/
def EvictsNothing (l : MemoryLimiter) (call : IncrementCall) : Prop :=
  (l.increment call.key call.windowSeconds call.now).evicted = none

/-- From time `t` on both maps show the same counter under the key. -/
def SameCounter (t : ℚ) (key : String) (l l' : MemoryLimiter) : Prop :=
  ∀ t', t ≤ t' → liveCounter l.memory t' key = liveCounter l'.memory t' key

/-- **The map.** Below its bound, its keys do not interfere. -/
theorem memory_independent : Independent memoryStore EvictsNothing SameCounter where
  equiv _ _ :=
    ⟨fun _ _ _ => rfl, fun h t' ht' => (h t' ht').symm,
      fun h h' t' ht' => (h t' ht').trans (h' t' ht')⟩
  later hle h t' ht' := h t' (hle.trans ht')
  answer := by
    intro l l' call h
    have hlive : liveCounter l.memory call.now call.key = liveCounter l'.memory call.now call.key :=
      h call.now le_rfl
    show (l.increment _ _ _).counted = (l'.increment _ _ _).counted
    rw [increment_eq, increment_eq]
    dsimp only
    rw [hlive]
  keep := by
    intro l l' call h t' ht'
    obtain ⟨-, -, -, hself, -⟩ := increment_spec l call.key call.windowSeconds call.now
    obtain ⟨-, -, -, hself', -⟩ := increment_spec l' call.key call.windowSeconds call.now
    have hlive : liveCounter l.memory call.now call.key = liveCounter l'.memory call.now call.key :=
      h call.now le_rfl
    show liveCounter (l.increment _ _ _).limiter.memory t' call.key =
      liveCounter (l'.increment _ _ _).limiter.memory t' call.key
    rw [hself t' ht', hself' t' ht', hlive]
  frame := by
    intro l call key hfits hne t' ht'
    obtain ⟨-, -, -, -, hother⟩ := increment_spec l call.key call.windowSeconds call.now
    show liveCounter (l.increment _ _ _).limiter.memory t' key = liveCounter l.memory t' key
    rw [hother t' key ht' hne, if_neg]
    rw [show (l.increment _ _ _).evicted = none from hfits]
    exact fun heq => absurd heq (by simp)

section Redis
variable {t : ℚ} {key : String} {redis redis' : Redis} {windowSeconds : ℕ}

/-- What `INCR` does to a key depends on the entry under it. -/
theorem incr_congr (t : ℚ) (h : redis.get? key = redis'.get? key) :
    (incr t key redis = none ∧ incr t key redis' = none) ∨
      ∃ n after after', incr t key redis = some (n, after) ∧ incr t key redis' = some (n, after') ∧
        after.get? key = after'.get? key := by
  have hlive := ExpiringStore.liveEntry_congr t h.symm
  unfold incr
  rw [ExpiringStore.get_congr t h.symm]
  cases redis.get t key with
  | none => exact Or.inr ⟨1, _, _, rfl, rfl, by rw [Dict.get?_set_self, Dict.get?_set_self]⟩
  | some value =>
    dsimp only
    cases value.asInteger? with
    | none => exact Or.inl ⟨rfl, rfl⟩
    | some n =>
      refine Or.inr ⟨n + 1, _, _, rfl, rfl, ?_⟩
      rw [ExpiringStore.setKeepTtl, ExpiringStore.setKeepTtl, Dict.get?_set_self,
        Dict.get?_set_self, hlive]

/-- So does `EXPIRE`. -/
theorem get?_expire_congr (t : ℚ) (ttl : ℚ) (h : redis.get? key = redis'.get? key) :
    (redis.expire t key ttl).get? key = (redis'.expire t key ttl).get? key := by
  unfold ExpiringStore.expire
  rw [ExpiringStore.liveEntry_congr t h.symm]
  cases redis.liveEntry t key with
  | none => exact h
  | some e => rw [Dict.get?_set_self, Dict.get?_set_self]

/-- And so does the whole script. -/
theorem redisIncrement_congr (t : ℚ) (windowSeconds : ℕ)
    (h : redis.get? key = redis'.get? key) :
    (redisIncrement t key windowSeconds redis = none ∧
        redisIncrement t key windowSeconds redis' = none) ∨
      ∃ counted after after', redisIncrement t key windowSeconds redis = some (counted, after) ∧
        redisIncrement t key windowSeconds redis' = some (counted, after') ∧
        after.get? key = after'.get? key := by
  unfold redisIncrement rateLimitScript
  rcases incr_congr t h with ⟨hnone, hnone'⟩ | ⟨n, after, after', hincr, hincr', hget⟩
  · rw [hnone, hnone']
    exact Or.inl ⟨rfl, rfl⟩
  · rw [hincr, hincr']
    have hexpired : (if n = 1 then after.expire t key windowSeconds else after).get? key =
        (if n = 1 then after'.expire t key windowSeconds else after').get? key := by
      split_ifs
      · exact get?_expire_congr t windowSeconds hget
      · exact hget
    refine Or.inr ⟨_, _, _, rfl, ?_, hexpired⟩
    simp only [Option.map_some, ExpiringStore.ttl, ExpiringStore.liveEntry_congr t hexpired]

/-- **Redis.** Its keys do not interfere at all. -/
theorem redis_independent :
    Independent redisStore (fun _ _ => True) fun _ key redis redis' =>
      redis.get? key = redis'.get? key where
  equiv _ _ := ⟨fun _ => rfl, Eq.symm, Eq.trans⟩
  later _ h := h
  answer := by
    intro redis redis' call h
    have h : redis.get? call.key = redis'.get? call.key := h
    simp only [redisStore]
    rcases redisIncrement_congr call.now call.windowSeconds h with
      ⟨hnone, hnone'⟩ | ⟨counted, after, after', hsome, hsome', -⟩
    · rw [hnone, hnone']
    · rw [hsome, hsome']
  keep := by
    intro redis redis' call h
    have h : redis.get? call.key = redis'.get? call.key := h
    simp only [redisStore]
    rcases redisIncrement_congr call.now call.windowSeconds h with
      ⟨hnone, hnone'⟩ | ⟨counted, after, after', hsome, hsome', hget⟩
    · rw [hnone, hnone']
      exact h
    · rw [hsome, hsome']
      exact hget
  frame := by
    intro redis call key _ hne
    simp only [redisStore]
    cases hincrement : redisIncrement call.now call.key call.windowSeconds redis with
    | none => rfl
    | some r => exact redisIncrement_other hincrement hne

end Redis

/-! ### Room in the map -/

/-- Every key of the map is listed. -/
def KeysAmong (keys : List String) (l : MemoryLimiter) : Prop :=
  ∀ key, l.memory.get? key ≠ none → key ∈ keys

section Room
variable {keys : List String} {l : MemoryLimiter} {call : IncrementCall}

/-- With fewer keys about than the map can hold, nothing has to go. -/
theorem evictsNothing_of_keysAmong (hkeys : keys.dedup.length ≤ memoryMaxEntries)
    (hamong : KeysAmong keys l) (hcall : call.key ∈ keys) : EvictsNothing l call := by
  obtain ⟨-, hevicted, -⟩ :=
    incrementWithin_parts memoryMaxEntries l call.key call.windowSeconds call.now
  refine hevicted.trans ?_
  generalize hmaintained : (l.maintainWithin memoryMaxEntries call.now).memory = memory
  unfold victimWithin
  refine if_neg fun ⟨hnew, hfull⟩ => ?_
  -- the new key and those of the map are among the listed ones
  have hnodup : (call.key :: memory.entries.map Prod.fst).Nodup := by
    refine List.nodup_cons.mpr ⟨fun hmem => ?_, memory.nodup⟩
    exact (Dict.mem_keys_iff _ _).mp hmem hnew
  have hsubset : call.key :: memory.entries.map Prod.fst ⊆ keys.dedup := by
    intro key hkey
    rw [List.mem_dedup]
    rcases List.mem_cons.mp hkey with rfl | hkey
    · exact hcall
    · obtain ⟨counter, hcounter⟩ := Option.ne_none_iff_exists'.mp
        ((Dict.mem_keys_iff _ _).mp hkey)
      rw [← hmaintained] at hcounter
      exact hamong key (by rw [get?_of_maintainWithin hcounter]; simp)
  have hle := (List.subperm_of_subset hnodup hsubset).length_le
  rw [List.length_cons, List.length_map] at hle
  have hsize : memory.size = memory.entries.length := rfl
  omega

theorem keysAmong_increment (hamong : KeysAmong keys l) (hcall : call.key ∈ keys) :
    KeysAmong keys (memoryStore.step l call).2 := by
  obtain ⟨-, -, hmemory⟩ :=
    incrementWithin_parts memoryMaxEntries l call.key call.windowSeconds call.now
  intro key hkey
  by_cases heq : key = call.key
  · rw [heq]
    exact hcall
  · have hget : (l.increment call.key call.windowSeconds call.now).limiter.memory.get? key ≠ none :=
      hkey
    rw [MemoryLimiter.increment, hmemory, Dict.get?_set_ne _ _ heq, get?_evict] at hget
    split_ifs at hget
    · exact absurd rfl hget
    · obtain ⟨counter, hcounter⟩ := Option.ne_none_iff_exists'.mp hget
      exact hamong key (by rw [get?_of_maintainWithin hcounter]; simp)

/-- A stream over few enough keys evicts nothing. -/
theorem meets_evictsNothing {calls : List IncrementCall}
    (hkeys : keys.dedup.length ≤ memoryMaxEntries) (hamong : KeysAmong keys l)
    (hcalls : ∀ call ∈ calls, call.key ∈ keys) : memoryStore.Meets EvictsNothing l calls :=
  memoryStore.meets_of_invariant (I := KeysAmong keys)
    (fun _ _ hc h => evictsNothing_of_keysAmong hkeys h (hcalls _ hc))
    (fun _ _ hc h => keysAmong_increment h (hcalls _ hc)) hamong

end Room

/-! ### Requests -/

section Requests
variable {rt : Runtime} {settings : Settings}

/-- The increments of these rules for a client. -/
def ruleCalls (rt : Runtime) (ip email : String) (pairs : List (RateLimitRule × ℚ)) :
    List IncrementCall :=
  pairs.map fun p => ⟨clientKey rt ip email p.1, p.1.windowSeconds, p.2⟩

/-- The increments of a request. -/
def LimiterCall.calls (rt : Runtime) (settings : Settings) (call : LimiterCall) :
    List IncrementCall :=
  ruleCalls rt call.ip call.email ((settings.rules call.check).zip call.readings)

/-- Do two requests share a counter? -/
def LimiterCall.Shares (rt : Runtime) (call other : LimiterCall) : Prop :=
  other.check = call.check ∧ (rt.sha256Hex other.ip = rt.sha256Hex call.ip ∨
    rt.sha256Hex (rt.normalizeEmail other.email) = rt.sha256Hex (rt.normalizeEmail call.email))

instance (rt : Runtime) (call : LimiterCall) : DecidablePred (call.Shares rt) := fun _ =>
  inferInstanceAs (Decidable (_ ∧ _))

/-- A check is a stream of calls to the map. -/
theorem checkRules_eq_answers (rt : Runtime) (ip email : String)
    (pairs : List (RateLimitRule × ℚ)) :
    ∀ l : MemoryLimiter,
      (l.checkRules rt ip email pairs).1.map (fun inc => (inc.rule, inc.counted)) =
          (pairs.map Prod.fst).zip
            ((memoryStore.answers l (ruleCalls rt ip email pairs)).map Prod.snd) ∧
        (l.checkRules rt ip email pairs).2 = memoryStore.after l (ruleCalls rt ip email pairs) := by
  induction pairs with
  | nil => exact fun _ => ⟨rfl, rfl⟩
  | cons pair rest ih =>
    intro l
    obtain ⟨hanswers, hafter⟩ := ih (l.increment (clientKey rt ip email pair.1)
      pair.1.windowSeconds pair.2).limiter
    rw [checkRules_cons]
    exact ⟨congrArg _ hanswers, hafter⟩

theorem map_time_calls {call : LimiterCall}
    (hlength : call.readings.length = (settings.rules call.check).length) :
    (call.calls rt settings).map memoryStore.time = call.readings := by
  unfold LimiterCall.calls ruleCalls
  rw [List.map_map]
  exact List.map_snd_zip hlength.le

/-- A rule belongs to one check. -/
theorem check_eq_of_rule {check check' : LimiterCheck} {rule : RateLimitRule}
    (h : rule ∈ settings.rules check) (h' : rule ∈ settings.rules check') : check = check' := by
  have hnames : ∀ name ∈ (settings.rules .credentials).map RateLimitRule.name,
      name ∉ (settings.rules .passwordReset).map RateLimitRule.name := by
    show ∀ name ∈ ["ip-burst", "ip-minute", "ip-fifteen-minutes", "email-fifteen-minutes"],
      name ∉ ["password-reset-ip-minute", "password-reset-email-15min"]
    decide
  cases check with
  | credentials =>
    cases check' with
    | credentials => rfl
    | passwordReset =>
      exact absurd (List.mem_map_of_mem h') (hnames _ (List.mem_map_of_mem h))
  | passwordReset =>
    cases check' with
    | credentials => exact absurd (List.mem_map_of_mem h) (hnames _ (List.mem_map_of_mem h'))
    | passwordReset => rfl

/-- Two requests with a key in common share a counter. -/
theorem shares_of_key {call other : LimiterCall} {c c' : IncrementCall}
    (hc : c ∈ call.calls rt settings) (hc' : c' ∈ other.calls rt settings)
    (hkey : c.key = c'.key) : call.Shares rt other := by
  obtain ⟨⟨rule, readAt⟩, hp, rfl⟩ := List.mem_map.mp hc
  obtain ⟨⟨rule', readAt'⟩, hp', rfl⟩ := List.mem_map.mp hc'
  have hrule := (List.of_mem_zip hp).1
  have hrule' := (List.of_mem_zip hp').1
  obtain ⟨rfl, hdigest⟩ := rateKey_inj hrule hrule' hkey
  refine ⟨check_eq_of_rule hrule' hrule, ?_⟩
  cases hdimension : rule.dimension with
  | ip =>
    rw [hdimension] at hdigest
    exact Or.inl hdigest.symm
  | email =>
    rw [hdimension] at hdigest
    exact Or.inr hdigest.symm

/-- The keys of a request see the same increments whether the requests that share none of its
    counters are there or not. -/
theorem filter_shares (call : LimiterCall) (history : List LimiterCall) :
    (history.flatMap (LimiterCall.calls rt settings)).filter
        (fun c => c.key ∈ (call.calls rt settings).map IncrementCall.key) =
      ((history.filter (call.Shares rt)).flatMap (LimiterCall.calls rt settings)).filter
        fun c => c.key ∈ (call.calls rt settings).map IncrementCall.key := by
  induction history with
  | nil => rfl
  | cons other history ih =>
    rw [List.flatMap_cons, List.filter_append, ih]
    by_cases hshares : call.Shares rt other
    · rw [List.filter_cons_of_pos (by simpa using hshares), List.flatMap_cons, List.filter_append]
    · have hnone : (other.calls rt settings).filter
          (fun c => c.key ∈ (call.calls rt settings).map IncrementCall.key) = [] := by
        rw [List.filter_eq_nil_iff]
        intro c hc hkey
        obtain ⟨c', hc', heq⟩ := List.mem_map.mp (of_decide_eq_true hkey)
        exact hshares (shares_of_key hc' hc heq)
      rw [List.filter_cons_of_neg (by simpa using hshares), hnone, List.nil_append]

/-! ### Runs -/

/-- A chain in two parts, the second going on where the first ends. -/
theorem isChain_cons_append_iff {l m : List ℚ} {a : ℚ} :
    (a :: (l ++ m)).IsChain (· ≤ ·) ↔
      (a :: l).IsChain (· ≤ ·) ∧ (l.getLastD a :: m).IsChain (· ≤ ·) := by
  induction l generalizing a with
  | nil => simp
  | cons b l ih =>
    rw [List.cons_append, List.isChain_cons_cons, List.isChain_cons_cons, ih, and_assoc,
      List.getLastD_cons]

/-- A step of the limiter, as a guard and what it does. -/
theorem limiterStep_eq_some_iff {s s' : LimiterState} {call : LimiterCall} {es : List Attempt} :
    limiterStep rt settings s call = some (s', es) ↔
      (call.readings.length = (settings.rules call.check).length ∧
        (s.now :: call.readings).IsChain (· ≤ ·)) ∧
      s' = ⟨call.readings.getLastD s.now, memoryStore.after s.limiter (call.calls rt settings)⟩ ∧
      es = ((call.increments rt settings s.limiter).map
        (·.toAttempt (admits (call.increments rt settings s.limiter)))).reverse := by
  have hafter := (checkRules_eq_answers rt call.ip call.email
    ((settings.rules call.check).zip call.readings) s.limiter).2
  unfold limiterStep
  split_ifs with hguard
  · rw [Option.some.injEq, Prod.mk.injEq, and_iff_right hguard]
    refine and_congr ?_ eq_comm
    rw [LimiterCall.calls, ← hafter]
    exact eq_comm
  · simp [hguard]

/-- A run is a stream of calls to the map, at times that do not go back. -/
theorem run_eq_after {history : List LimiterCall} {c c' : Config LimiterState Attempt}
    (hrun : (limiterSystem rt settings).run c history = some c') :
    c'.state.limiter = memoryStore.after c.state.limiter
        (history.flatMap (LimiterCall.calls rt settings)) ∧
      (∀ call ∈ history, call.readings.length = (settings.rules call.check).length) ∧
      (c.state.now :: (history.flatMap LimiterCall.readings ++ [c'.state.now])).IsChain
        (· ≤ ·) := by
  induction history generalizing c with
  | nil =>
    obtain rfl := Option.some.inj hrun
    refine ⟨rfl, fun call hcall => absurd hcall List.not_mem_nil, ?_⟩
    show [c.state.now, c.state.now].IsChain (· ≤ ·)
    simp
  | cons call history ih =>
    rw [System.run_cons, Option.bind_eq_some_iff] at hrun
    obtain ⟨c₁, hnext, hrun⟩ := hrun
    obtain ⟨es, hstep, -⟩ := (limiterSystem rt settings).next_eq_some.mp hnext
    obtain ⟨⟨hlength, hreadings⟩, hstate, -⟩ := limiterStep_eq_some_iff.mp hstep
    obtain ⟨hlimiter, hlengths, hchain⟩ := ih hrun
    rw [hstate] at hlimiter hchain
    refine ⟨?_, List.forall_mem_cons.mpr ⟨hlength, hlengths⟩, ?_⟩
    · rw [hlimiter, List.flatMap_cons, memoryStore.after_append]
    · rw [List.flatMap_cons, List.append_assoc]
      exact isChain_cons_append_iff.mpr ⟨hreadings, hchain⟩

/-- Such a stream of requests runs. -/
theorem exists_run {history : List LimiterCall} {c : Config LimiterState Attempt}
    (hlengths : ∀ call ∈ history, call.readings.length = (settings.rules call.check).length)
    (hchain : (c.state.now :: history.flatMap LimiterCall.readings).IsChain (· ≤ ·)) :
    ∃ c', (limiterSystem rt settings).run c history = some c' := by
  induction history generalizing c with
  | nil => exact ⟨c, rfl⟩
  | cons call history ih =>
    rw [List.flatMap_cons, isChain_cons_append_iff] at hchain
    obtain ⟨hlength, hlengths⟩ := List.forall_mem_cons.mp hlengths
    have hstep : limiterStep rt settings c.state call = some (_, _) :=
      limiterStep_eq_some_iff.mpr ⟨⟨hlength, hchain.1⟩, rfl, rfl⟩
    simp only [System.run_cons, (limiterSystem rt settings).next_of_step hstep, Option.bind_some]
    exact ih hlengths hchain.2

/-- The keys of a request cannot tell the map after a run from the map after the part of the run
    that shares a counter with it. -/
theorem sameCounter_after {history : List LimiterCall} {call : LimiterCall} {start : ℚ}
    {c c' : Config LimiterState Attempt} {keys : List String}
    (hrun : (limiterSystem rt settings).run (Config.start (LimiterState.init start)) history =
      some c)
    (hrun' : (limiterSystem rt settings).run (Config.start (LimiterState.init start))
      (history.filter (call.Shares rt)) = some c')
    (hkeys : keys.dedup.length ≤ memoryMaxEntries)
    (hlisted : ∀ other ∈ history, ∀ inc ∈ other.calls rt settings, inc.key ∈ keys) :
    ∀ inc ∈ call.calls rt settings,
      SameCounter c.state.now inc.key c.state.limiter c'.state.limiter := by
  obtain ⟨hlimiter, hlengths, hchain⟩ := run_eq_after hrun
  obtain ⟨hlimiter', -, -⟩ := run_eq_after hrun'
  have hempty : KeysAmong keys (LimiterState.init start).limiter := fun key h => absurd rfl h
  have hall : ∀ inc ∈ history.flatMap (LimiterCall.calls rt settings), inc.key ∈ keys := by
    intro inc hinc
    obtain ⟨other, hother, hinc⟩ := List.mem_flatMap.mp hinc
    exact hlisted other hother inc hinc
  have hsub : ((history.filter (call.Shares rt)).flatMap (LimiterCall.calls rt settings)).Sublist
      (history.flatMap (LimiterCall.calls rt settings)) := List.filter_sublist.flatMap _
  have htimes : (history.flatMap (LimiterCall.calls rt settings)).map memoryStore.time =
      history.flatMap LimiterCall.readings := by
    rw [List.map_flatMap]
    exact List.flatMap_congr fun other hother => map_time_calls (hlengths other hother)
  rw [← htimes] at hchain
  -- both runs show these keys what their own part of the stream does
  have hproject : ∀ cs : List IncrementCall,
      cs.Sublist (history.flatMap (LimiterCall.calls rt settings)) → ∀ key,
        key ∈ (call.calls rt settings).map IncrementCall.key →
          SameCounter c.state.now key (memoryStore.after (LimiterState.init start).limiter cs)
            (memoryStore.after (LimiterState.init start).limiter
              (cs.filter fun inc => inc.key ∈ (call.calls rt settings).map IncrementCall.key)) := by
    intro cs hcs
    have hkeysOf : ∀ inc ∈ cs, inc.key ∈ keys := fun inc hinc => hall inc (hcs.subset hinc)
    refine memory_independent.after_filter _ ?_
      (meets_evictsNothing hkeys hempty hkeysOf)
      (meets_evictsNothing hkeys hempty fun inc hinc => hkeysOf inc (List.mem_of_mem_filter hinc))
      fun key _ => (memory_independent.equiv start key).refl _
    exact hchain.sublist (((hcs.map _).append_right _).cons_cons _)
  intro inc hinc
  have hmem := List.mem_map_of_mem (f := IncrementCall.key) hinc
  have hequiv := memory_independent.equiv c.state.now inc.key
  have hfull := hproject _ (List.Sublist.refl _) inc.key hmem
  have hpart := hproject _ hsub inc.key hmem
  rw [← filter_shares] at hpart
  rw [hlimiter, hlimiter']
  exact hequiv.trans hfull (hequiv.symm hpart)

/-- **Clients do not count for one another.** As long as the counters fit into the map, a request is
    answered as if only those before it that share its address or its e-mail had been made. -/
theorem limiter_isolated {history : List LimiterCall} {call : LimiterCall} {start : ℚ}
    {c c₁ : Config LimiterState Attempt}
    (hrun : (limiterSystem rt settings).run (Config.start (LimiterState.init start)) history =
      some c)
    (hnext : (limiterSystem rt settings).next c call = some c₁)
    (hkeys : ((history.flatMap (LimiterCall.calls rt settings) ++ call.calls rt settings).map
      IncrementCall.key).dedup.length ≤ memoryMaxEntries) :
    ∃ c', (limiterSystem rt settings).run (Config.start (LimiterState.init start))
        (history.filter (call.Shares rt)) = some c' ∧
      call.retryAfter rt settings c.state.limiter =
        call.retryAfter rt settings c'.state.limiter := by
  obtain ⟨-, hlengths, hchain⟩ := run_eq_after hrun
  have hsub : (history.filter (call.Shares rt)).Sublist history := List.filter_sublist
  obtain ⟨c', hrun'⟩ : ∃ c', (limiterSystem rt settings).run
      (Config.start (LimiterState.init start)) (history.filter (call.Shares rt)) = some c' := by
    refine exists_run (fun other hother => hlengths other (hsub.subset hother)) ?_
    refine hchain.sublist (List.Sublist.cons_cons _ ?_)
    exact (hsub.flatMap _).trans (List.sublist_append_left _ _)
  refine ⟨c', hrun', ?_⟩
  have hempty : ∀ keys, KeysAmong keys (LimiterState.init start).limiter := fun _ _ h =>
    absurd rfl h
  -- the request finds room in both maps
  have hroom : ∀ cs : List IncrementCall,
      cs.Sublist (history.flatMap (LimiterCall.calls rt settings)) →
        memoryStore.Meets EvictsNothing
          (memoryStore.after (LimiterState.init start).limiter cs) (call.calls rt settings) := by
    intro cs hcs
    have hmeets : memoryStore.Meets EvictsNothing (LimiterState.init start).limiter
        (cs ++ call.calls rt settings) :=
      meets_evictsNothing hkeys (hempty _) fun inc hinc =>
        List.mem_map_of_mem ((hcs.append_right _).subset hinc)
    exact ((memoryStore.meets_append _ _ _ _).mp hmeets).2
  obtain ⟨es, hstep, -⟩ := (limiterSystem rt settings).next_eq_some.mp hnext
  obtain ⟨⟨hlength, hreadings⟩, -, -⟩ := limiterStep_eq_some_iff.mp hstep
  have hanswers : memoryStore.answers c.state.limiter (call.calls rt settings) =
      memoryStore.answers c'.state.limiter (call.calls rt settings) := by
    refine memory_independent.answers_eq (t := c.state.now) ?_ ?_ ?_ ?_
    · rw [map_time_calls hlength]
      exact hreadings
    · rw [(run_eq_after hrun).1]
      exact hroom _ (List.Sublist.refl _)
    · rw [(run_eq_after hrun').1]
      exact hroom _ (hsub.flatMap _)
    · refine sameCounter_after hrun hrun' hkeys fun other hother inc hinc => ?_
      exact List.mem_map_of_mem
        (List.mem_append_left _ (List.mem_flatMap.mpr ⟨other, hother, hinc⟩))
  unfold LimiterCall.retryAfter LimiterCall.increments
  rw [(checkRules_eq_answers _ _ _ _ _).1, (checkRules_eq_answers _ _ _ _ _).1]
  exact congrArg (fun answers => longestRetryAfter (List.zip _ (answers.map Prod.snd))) hanswers

/-- A login attempt of a client. -/
def loginAttempt (ip email : String) (t : ℚ) : LimiterCall :=
  ⟨.credentials, ip, email, [t, t, t, t]⟩

/-- Two strangers and Ana herself, before her second attempt. -/
def beforeAna : List LimiterCall :=
  [loginAttempt "10.0.0.7" "bia@ouros.app" 0, loginAttempt "10.0.0.1" "ana@ouros.app" 1,
    loginAttempt "10.0.0.8" "eva@ouros.app" 2]

theorem limiter_isolated_ana :
    ∃ c c', (limiterSystem Runtime.sample (.sample none)).run
        (Config.start (LimiterState.init 0)) beforeAna = some c ∧
      (limiterSystem Runtime.sample (.sample none)).run (Config.start (LimiterState.init 0))
        [loginAttempt "10.0.0.1" "ana@ouros.app" 1] = some c' ∧
      (loginAttempt "10.0.0.1" "ana@ouros.app" 3).retryAfter Runtime.sample (.sample none)
          c.state.limiter =
        (loginAttempt "10.0.0.1" "ana@ouros.app" 3).retryAfter Runtime.sample (.sample none)
          c'.state.limiter := by
  have hnext : ∃ c c₁, (limiterSystem Runtime.sample (.sample none)).run
      (Config.start (LimiterState.init 0)) beforeAna = some c ∧
        (limiterSystem Runtime.sample (.sample none)).next c
          (loginAttempt "10.0.0.1" "ana@ouros.app" 3) = some c₁ := ⟨_, _, rfl, rfl⟩
  obtain ⟨c, c₁, hrun, hnext⟩ := hnext
  obtain ⟨c', hrun', hanswer⟩ := limiter_isolated hrun hnext (by decide +kernel)
  have hfilter : beforeAna.filter
      ((loginAttempt "10.0.0.1" "ana@ouros.app" 3).Shares Runtime.sample) =
        [loginAttempt "10.0.0.1" "ana@ouros.app" 1] := by
    unfold beforeAna
    rw [List.filter_cons_of_neg (by decide), List.filter_cons_of_pos (by decide),
      List.filter_cons_of_neg (by decide), List.filter_nil]
  rw [hfilter] at hrun'
  exact ⟨c, c', hrun, hrun', hanswer⟩

/-- **Nor in Redis.** Among the increments of all replicas, in any order, those under the keys of a
    client are answered as if there were no others. -/
theorem redis_isolated (settings : Settings) (ip email : String) {redis : Redis}
    {calls : List IncrementCall} (hchain : (calls.map IncrementCall.now).IsChain (· ≤ ·)) :
    (redisStore.answers redis calls).filter
        (fun a => a.1.key ∈ settings.allRules.map (clientKey rt ip email)) =
      redisStore.answers redis
        (calls.filter fun c => c.key ∈ settings.allRules.map (clientKey rt ip email)) := by
  cases calls with
  | nil => rfl
  | cons first rest =>
    have htrue : ∀ (redis : Redis) (cs : List IncrementCall),
        redisStore.Meets (fun _ _ => True) redis cs := fun redis cs =>
      redisStore.meets_of_invariant (I := fun _ => True) (fun _ _ _ _ => trivial)
        (fun _ _ _ _ => trivial) trivial
    refine redis_independent.answers_filter
      (fun key => key ∈ settings.allRules.map (clientKey rt ip email)) (t := first.now) ?_
      (htrue _ _) (htrue _ _) fun _ _ => rfl
    rw [List.map_cons] at hchain ⊢
    exact List.isChain_cons_cons.mpr ⟨le_rfl, hchain⟩

/-- A stranger's increment between two of Ana's. -/
theorem redis_isolated_ana :
    ((redisStore.answers Dict.empty
      [⟨clientKey Runtime.sample "10.0.0.1" "ana@ouros.app" resetIpRule, 60, 0⟩,
        ⟨clientKey Runtime.sample "10.0.0.7" "bia@ouros.app" resetIpRule, 60, 1⟩,
        ⟨clientKey Runtime.sample "10.0.0.1" "ana@ouros.app" resetIpRule, 60, 2⟩]).filter
        fun a => a.1.key ∈ (Settings.sample none).allRules.map
          (clientKey Runtime.sample "10.0.0.1" "ana@ouros.app")).map Prod.snd =
      [some ⟨1, 60⟩, some ⟨2, 58⟩] := by
  rw [redis_isolated (.sample none) "10.0.0.1" "ana@ouros.app" (by decide +kernel)]
  decide +kernel

end Requests

end OurosAuth
