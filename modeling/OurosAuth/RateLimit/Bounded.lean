import OurosAuth.RateLimit.Memory

namespace OurosAuth

open KeyValue Traced

/-!
# The fallback map stays bounded

`_MEMORY_MAX_ENTRIES` is a class attribute, and the bound is a parameter here; under the bound of
the class `incrementWithin` is `increment`.

* `counterSystem` — the runs of `_increment` on one map; the history lists the evicted keys;
* `Represents` — what one increment may do to the map;
* `incrementWithin_represents` — one increment from a map within the bound;
* `represents_reachable` — from every reachable map, and the expiry of a counter over a run.
-/

/-- One call, no earlier than the one before it.  Its event is the key it evicts. -/
def counterStep (maxEntries : ℕ) (s : LimiterState) (call : IncrementCall) :
    Option (LimiterState × List String) :=
  if s.now ≤ call.now then
    let done := s.limiter.incrementWithin maxEntries call.key call.windowSeconds call.now
    some (⟨call.now, done.limiter⟩, done.evicted.toList)
  else none

/-- The runs of `_increment`. -/
def counterSystem (maxEntries : ℕ) : System LimiterState IncrementCall String :=
  ⟨counterStep maxEntries⟩

/-! ### What an increment may do -/

/-- The increment of `key` at time `now`, from the map `before`. -/
structure Represents (maxEntries : ℕ) (before : Dict String Counter) (key : String) (now : ℚ)
    (done : Incremented) : Prop where
  /-- The map stays within its bound. -/
  size_le : done.limiter.memory.size ≤ maxEntries
  /-- It holds the incremented key, with the count that is returned. -/
  written : ∃ counter, done.limiter.memory.get? key = some counter ∧
    counter.count = done.counted.count
  /-- A live counter goes on, and ends when it would have ended. -/
  continues : ∀ counter, before.get? key = some counter → now < counter.expiresAt →
    done.limiter.memory.get? key = some ⟨counter.count + 1, counter.expiresAt⟩
  /-- Every other counter that is still there is as it was. -/
  kept : ∀ key' ≠ key, ∀ counter, done.limiter.memory.get? key' = some counter →
    before.get? key' = some counter
  /-- Besides expired counters, only the evicted one is removed. -/
  removed : ∀ key' counter, before.get? key' = some counter → now < counter.expiresAt →
    done.limiter.memory.get? key' = none → done.evicted = some key'
  /-- An unexpired counter is removed only for a new key, from a map full of unexpired counters,
      and it is one of those that expire first. -/
  evicts : ∀ key' counter, before.get? key' = some counter → now < counter.expiresAt →
    done.limiter.memory.get? key' = none →
      before.get? key = none ∧ before.size = maxEntries ∧
        ∀ other c, before.get? other = some c →
          now < c.expiresAt ∧ counter.expiresAt ≤ c.expiresAt

variable {maxEntries windowSeconds : ℕ} {l : MemoryLimiter} {memory : Dict String Counter}
  {key key' : String} {now : ℚ} {counter : Counter} {c c' : Config LimiterState String}

/-! ### Maintenance -/

/-- The maintenance removes expired counters, or nothing. -/
theorem maintainWithin_memory (maxEntries : ℕ) (l : MemoryLimiter) (now : ℚ) :
    (l.maintainWithin maxEntries now).memory = cleanupCounters now l.memory ∨
      (l.maintainWithin maxEntries now).memory = l.memory ∧ l.memory.size < maxEntries := by
  unfold MemoryLimiter.maintainWithin
  split_ifs with h
  · exact Or.inl rfl
  · rw [not_or, not_le, not_le] at h
    exact Or.inr ⟨rfl, h.2⟩

theorem get?_cleanupCounters :
    (cleanupCounters now memory).get? key = some counter ↔
      memory.get? key = some counter ∧ now < counter.expiresAt := by
  rw [cleanupCounters, Dict.get?_filter, Option.filter_eq_some_iff, decide_eq_true_eq]

/-- A counter the maintenance leaves was there before. -/
theorem get?_of_maintainWithin
    (h : (l.maintainWithin maxEntries now).memory.get? key = some counter) :
    l.memory.get? key = some counter := by
  rcases maintainWithin_memory maxEntries l now with heq | ⟨heq, -⟩
  · rw [heq, get?_cleanupCounters] at h
    exact h.1
  · rwa [heq] at h

/-- An unexpired counter outlives the maintenance. -/
theorem maintainWithin_get? (h : l.memory.get? key = some counter)
    (hlive : now < counter.expiresAt) :
    (l.maintainWithin maxEntries now).memory.get? key = some counter := by
  rcases maintainWithin_memory maxEntries l now with heq | ⟨heq, -⟩
  · rw [heq, get?_cleanupCounters]
    exact ⟨h, hlive⟩
  · rwa [heq]

theorem size_maintainWithin_le : (l.maintainWithin maxEntries now).memory.size ≤ l.memory.size := by
  rcases maintainWithin_memory maxEntries l now with heq | ⟨heq, -⟩
  · rw [heq]
    exact Dict.size_filter_le _ _
  · rw [heq]

/-- A map that is still full after the maintenance was full of unexpired counters. -/
theorem full_of_maintainWithin (hsize : l.memory.size ≤ maxEntries)
    (hfull : maxEntries ≤ (l.maintainWithin maxEntries now).memory.size) :
    (l.maintainWithin maxEntries now).memory = l.memory ∧ l.memory.size = maxEntries ∧
      ∀ key counter, l.memory.get? key = some counter → now < counter.expiresAt := by
  rcases maintainWithin_memory maxEntries l now with heq | ⟨heq, hlt⟩
  · rw [heq] at hfull ⊢
    -- the cleanup has found nothing to remove
    have hall := Dict.all_of_size_filter (hsize.trans hfull)
    refine ⟨Dict.filter_eq_self _ hall, ?_, fun key counter hget => ?_⟩
    · exact le_antisymm hsize (hfull.trans (Dict.size_filter_le _ _))
    · exact of_decide_eq_true (hall _ ((Dict.mem_entries_iff _ _ _).mpr hget))
  · rw [heq] at hfull
    omega

/-! ### Eviction -/

/-- The victim is in the map, and no counter expires before it. -/
theorem soonestExpiring_spec (h : soonestExpiring memory = some key) :
    ∃ counter, memory.get? key = some counter ∧
      ∀ other c, memory.get? other = some c → counter.expiresAt ≤ c.expiresAt := by
  obtain ⟨entry, hentry, rfl⟩ := Option.map_eq_some_iff.mp h
  refine ⟨entry.2, (Dict.mem_entries_iff _ _ _).mp (List.argmin_mem hentry), fun other c hc => ?_⟩
  have hmem : (other, c) ∈ memory.entries := (Dict.mem_entries_iff _ _ _).mpr hc
  exact List.le_of_mem_argmin (f := fun entry => entry.2.expiresAt) hmem hentry

/-- A full map has a victim. -/
theorem soonestExpiring_ne_none (h : 0 < memory.size) : soonestExpiring memory ≠ none := by
  unfold soonestExpiring
  rw [ne_eq, Option.map_eq_none_iff, List.argmin_eq_none]
  exact List.ne_nil_of_length_pos h

/-- A counter is evicted only for a new key, from a full map. -/
theorem victimWithin_eq_some (h : victimWithin maxEntries memory key = some key') :
    memory.get? key = none ∧ maxEntries ≤ memory.size ∧ soonestExpiring memory = some key' := by
  unfold victimWithin at h
  split_ifs at h with hguard
  exact ⟨hguard.1, hguard.2, h⟩

/-- An eviction removes the victim alone. -/
theorem get?_evict (evicted : Option String) :
    (evict memory evicted).get? key' = if evicted = some key' then none else memory.get? key' := by
  cases evicted with
  | none => rw [evict, if_neg (by simp)]
  | some victim =>
    rw [evict, Dict.get?_erase]
    by_cases h : key' = victim
    · rw [if_pos h, if_pos (by rw [h])]
    · rw [if_neg h, if_neg fun heq => h (Option.some.inj heq).symm]

/-- There is room for the key when it is written. -/
theorem size_set_evict_le (hmax : 1 ≤ maxEntries) (hsize : memory.size ≤ maxEntries)
    (counter : Counter) :
    ((evict memory (victimWithin maxEntries memory key)).set key counter).size ≤ maxEntries := by
  by_cases hnew : memory.get? key = none
  · by_cases hfull : maxEntries ≤ memory.size
    · -- one goes, one comes
      rw [victimWithin, if_pos ⟨hnew, hfull⟩]
      have hne : soonestExpiring memory ≠ none := soonestExpiring_ne_none (by omega)
      obtain ⟨victim, hvictim⟩ := Option.ne_none_iff_exists'.mp hne
      obtain ⟨old, hold, -⟩ := soonestExpiring_spec hvictim
      have hlt := Dict.size_erase_lt memory (k := victim) (by rw [hold]; simp)
      have hgone : (memory.erase victim).get? key = none := by
        rw [Dict.get?_erase, hnew, ite_self]
      rw [hvictim, evict, Dict.size_set_of_not_mem _ _ hgone]
      omega
    · rw [victimWithin, if_neg fun h => hfull h.2, evict, Dict.size_set_of_not_mem _ _ hnew]
      omega
  · rw [victimWithin, if_neg fun h => hnew h.1, evict, Dict.size_set_of_mem _ _ hnew]
    exact hsize

/-! ### One increment -/

/-- What an increment counts, what it evicts, and the map it leaves. -/
theorem incrementWithin_parts (maxEntries : ℕ) (l : MemoryLimiter) (key : String)
    (windowSeconds : ℕ) (now : ℚ) :
    let done := l.incrementWithin maxEntries key windowSeconds now
    let memory := (l.maintainWithin maxEntries now).memory
    let counter := nextCounter (liveCounter l.memory now key) windowSeconds now
    done.counted.count = counter.count ∧ done.evicted = victimWithin maxEntries memory key ∧
      done.limiter.memory =
        (evict memory (victimWithin maxEntries memory key)).set key counter := by
  intro done memory counter
  have hdone : done = _ := incrementWithin_eq maxEntries l key windowSeconds now
  rw [hdone]
  exact ⟨rfl, rfl, rfl⟩

/-- **Step lemma.** One increment of a map within its bound. -/
theorem incrementWithin_represents (hmax : 1 ≤ maxEntries) (hsize : l.memory.size ≤ maxEntries)
    (key : String) (windowSeconds : ℕ) (now : ℚ) :
    Represents maxEntries l.memory key now
      (l.incrementWithin maxEntries key windowSeconds now) := by
  obtain ⟨hcount, hevicted, hmemory⟩ := incrementWithin_parts maxEntries l key windowSeconds now
  generalize l.incrementWithin maxEntries key windowSeconds now = done at hcount hevicted hmemory ⊢
  -- an unexpired counter that is gone was the victim
  have hvictim : ∀ key' counter, l.memory.get? key' = some counter → now < counter.expiresAt →
      done.limiter.memory.get? key' = none →
        victimWithin maxEntries (l.maintainWithin maxEntries now).memory key = some key' := by
    intro key' counter hget hlive hgone
    have hne : key' ≠ key := by
      rintro rfl
      rw [hmemory, Dict.get?_set_self] at hgone
      exact absurd hgone (by simp)
    rw [hmemory, Dict.get?_set_ne _ _ hne, get?_evict, maintainWithin_get? hget hlive] at hgone
    by_contra hnot
    rw [if_neg hnot] at hgone
    exact absurd hgone (by simp)
  refine ⟨?_, ?_, ?_, ?_, ?_, ?_⟩
  · rw [hmemory]
    exact size_set_evict_le hmax (size_maintainWithin_le.trans hsize) _
  · exact ⟨_, by rw [hmemory, Dict.get?_set_self], hcount.symm⟩
  · intro counter hget hlive
    have hlive' : liveCounter l.memory now key = some counter := by
      rw [liveCounter, hget, Option.filter_some, if_pos (decide_eq_true hlive)]
    rw [hmemory, Dict.get?_set_self, hlive']
    rfl
  · intro key' hne counter hget
    rw [hmemory, Dict.get?_set_ne _ _ hne, get?_evict] at hget
    split_ifs at hget
    exact get?_of_maintainWithin hget
  · intro key' counter hget hlive hgone
    rw [hevicted]
    exact hvictim key' counter hget hlive hgone
  · intro key' counter hget hlive hgone
    obtain ⟨hnew, hfull, hsoonest⟩ := victimWithin_eq_some (hvictim key' counter hget hlive hgone)
    obtain ⟨heq, hsame, hunexpired⟩ := full_of_maintainWithin hsize hfull
    rw [heq] at hnew hsoonest
    obtain ⟨first, hfirst, hle⟩ := soonestExpiring_spec hsoonest
    obtain rfl : first = counter := Option.some.inj (hfirst.symm.trans hget)
    exact ⟨hnew, hsame, fun other c hc => ⟨hunexpired other c hc, hle other c hc⟩⟩

/-! ### Runs -/

theorem counterStep_eq_some {s s' : LimiterState} {call : IncrementCall} {evicted : List String}
    (h : counterStep maxEntries s call = some (s', evicted)) :
    s.now ≤ call.now ∧
      let done := s.limiter.incrementWithin maxEntries call.key call.windowSeconds call.now
      s' = ⟨call.now, done.limiter⟩ ∧ evicted = done.evicted.toList := by
  unfold counterStep at h
  split_ifs at h with hle
  rw [Option.some.injEq, Prod.mk.injEq] at h
  exact ⟨hle, h.1.symm, h.2.symm⟩

/-- **Run lemma.** Every reachable map is within its bound. -/
theorem size_le_of_run (hmax : 1 ≤ maxEntries) {calls : List IncrementCall}
    (h0 : c.state.limiter.memory.size ≤ maxEntries)
    (hrun : (counterSystem maxEntries).run c calls = some c') :
    c'.state.limiter.memory.size ≤ maxEntries := by
  refine (counterSystem maxEntries).invariant_run
    (I := fun d => d.state.limiter.memory.size ≤ maxEntries) ?_ h0 hrun
  intro d call d' hsize hnext
  obtain ⟨evicted, hstep, -⟩ := (counterSystem maxEntries).next_eq_some.mp hnext
  obtain ⟨-, hs', -⟩ := counterStep_eq_some hstep
  rw [hs']
  exact (incrementWithin_represents hmax hsize _ _ _).size_le

/-- Until a live counter expires or is evicted, it is there with the expiry it had. -/
theorem expiresAt_of_run (hmax : 1 ≤ maxEntries) {s : LimiterState}
    (hsize : s.limiter.memory.size ≤ maxEntries) (hget : s.limiter.memory.get? key = some counter)
    {calls : List IncrementCall}
    (hrun : (counterSystem maxEntries).run (Config.start s) calls = some c')
    (hlive : c'.state.now < counter.expiresAt) (hkept : key ∉ c'.history) :
    ∃ counter', c'.state.limiter.memory.get? key = some counter' ∧
      counter'.expiresAt = counter.expiresAt := by
  -- the bound comes along: an increment keeps other counters only in a map within it
  have hinv : c'.state.limiter.memory.size ≤ maxEntries ∧
      (c'.state.now < counter.expiresAt → key ∉ c'.history →
        ∃ counter', c'.state.limiter.memory.get? key = some counter' ∧
          counter'.expiresAt = counter.expiresAt) := by
    refine (counterSystem maxEntries).invariant_run
      (I := fun d => d.state.limiter.memory.size ≤ maxEntries ∧
        (d.state.now < counter.expiresAt → key ∉ d.history →
          ∃ counter', d.state.limiter.memory.get? key = some counter' ∧
            counter'.expiresAt = counter.expiresAt))
      ?_ ⟨hsize, fun _ _ => ⟨counter, hget, rfl⟩⟩ hrun
    rintro d call d' ⟨hsize, hcounter⟩ hnext
    obtain ⟨evicted, hstep, hhist⟩ := (counterSystem maxEntries).next_eq_some.mp hnext
    obtain ⟨hle, hs', rfl⟩ := counterStep_eq_some hstep
    have hrep := incrementWithin_represents hmax hsize call.key call.windowSeconds call.now
    rw [hs', hhist]
    refine ⟨hrep.size_le, fun hlive hkept => ?_⟩
    rw [List.mem_append, not_or, Option.mem_toList] at hkept
    obtain ⟨counter', hget', hexp⟩ := hcounter (hle.trans_lt hlive) hkept.2
    have hlive' : call.now < counter'.expiresAt := hexp ▸ hlive
    by_cases hkey : key = call.key
    · subst hkey
      exact ⟨_, hrep.continues counter' hget' hlive', hexp⟩
    · rcases Option.eq_none_or_eq_some (((d.state.limiter.incrementWithin maxEntries call.key
        call.windowSeconds call.now).limiter.memory).get? key) with hgone | ⟨now', hnow'⟩
      · exact absurd (hrep.removed key counter' hget' hlive' hgone) hkept.1
      · -- a counter the increment left is the one that was there
        have hsame : now' = counter' :=
          Option.some.inj ((hrep.kept key hkey now' hnow').symm.trans hget')
        exact ⟨now', hnow', hsame ▸ hexp⟩
  exact hinv.2 hlive hkept

/-- **The representation invariant.** In every reachable state the map is within its bound, one
    more increment does what it may, and no later increment moves the expiry of a counter. -/
theorem represents_reachable (hmax : 1 ≤ maxEntries) (start : ℚ)
    (hreach : (counterSystem maxEntries).Reaches (Config.start (LimiterState.init start)) c) :
    c.state.limiter.memory.size ≤ maxEntries ∧
      (∀ call : IncrementCall, c.state.now ≤ call.now →
        Represents maxEntries c.state.limiter.memory call.key call.now
          (c.state.limiter.incrementWithin maxEntries call.key call.windowSeconds call.now)) ∧
      ∀ key counter, c.state.limiter.memory.get? key = some counter → ∀ calls c',
        (counterSystem maxEntries).run (Config.start c.state) calls = some c' →
        c'.state.now < counter.expiresAt → key ∉ c'.history →
        ∃ counter', c'.state.limiter.memory.get? key = some counter' ∧
          counter'.expiresAt = counter.expiresAt := by
  obtain ⟨calls, hrun⟩ := hreach
  have hsize : c.state.limiter.memory.size ≤ maxEntries :=
    size_le_of_run hmax (Nat.zero_le _) hrun
  refine ⟨hsize, fun call _ => incrementWithin_represents hmax hsize _ _ _, ?_⟩
  intro key counter hget calls c' hrun' hlive hkept
  exact expiresAt_of_run hmax hsize hget hrun' hlive hkept

/-- Two counters fill a map of two, and the third evicts the one that expires first. -/
theorem represents_two :
    ∃ c, (counterSystem 2).run (Config.start (LimiterState.init 0))
        [⟨"first", 60, 0⟩, ⟨"second", 120, 1⟩] = some c ∧
      let done := c.state.limiter.incrementWithin 2 "third" 180 2
      done.evicted = some "first" ∧ Represents 2 c.state.limiter.memory "third" 2 done := by
  obtain ⟨c, hc⟩ : ∃ c, (counterSystem 2).run (Config.start (LimiterState.init 0))
      [⟨"first", 60, 0⟩, ⟨"second", 120, 1⟩] = some c := ⟨_, rfl⟩
  have hrep := (represents_reachable (by decide) 0 ⟨_, hc⟩).2.1 ⟨"third", 180, 2⟩
  obtain rfl := Option.some.inj (hc.symm.trans rfl)
  exact ⟨_, hc, by decide +kernel, hrep (by decide +kernel)⟩

end OurosAuth
