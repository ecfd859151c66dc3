import OurosAuth.Lib.Windows
import OurosAuth.RateLimit.Memory

namespace OurosAuth

open KeyValue Traced Windows

/-!
# The limits of the fallback limiter

The windows of a rule and a value are read off the history of a run (`attemptsOf`), and compared
with the counter the map holds under their key.

* `Tracks` — the map shows an increment exactly the open window;
* `increment_tracks` — one increment keeps that, and the limit of every window;
* `fallback_limit` — in every run, no window admits more than the limit, when an eviction of the
  counter closes its window (`marksOf`);
* `fallback_overrun` — evictions are not harmless: one address that keeps trying with new e-mails
  is let through a fourth time within a minute.
-/

/-- What an event is to a rule and a value. -/
def Attempt.mark? (rule : RateLimitRule) (value : String) (a : Attempt) : Option (Mark ℚ) :=
  if a.rule = rule ∧ a.value = value then some (.attempt a.readAt a.admitted) else none

/-- The attempts that carry a value, as a rule counts them. -/
def attemptsOf (rule : RateLimitRule) (value : String) (history : List Attempt) : List (Mark ℚ) :=
  history.filterMap (Attempt.mark? rule value)

/-- The attempts that carry a value, and the evictions of their counter. -/
def marksOf (rt : Runtime) (rule : RateLimitRule) (value : String) (history : List Attempt) :
    List (Mark ℚ) :=
  history.filterMap fun a =>
    if a.evicted = some (rateKey rt rule value) then some .close else a.mark? rule value

/-- No other value of the history has the digest of `value`. -/
def DigestUnique (rt : Runtime) (value : String) (history : List Attempt) : Prop :=
  ∀ a ∈ history, rt.sha256Hex a.value = rt.sha256Hex value → a.value = value

variable {rt : Runtime} {settings : Settings} {rule rule' : RateLimitRule} {value value' : String}
  {check check' : LimiterCheck} {now readAt : ℚ} {l : MemoryLimiter} {wins : List (Window ℚ)}
  {history : List Attempt} {a : Attempt} {memory : Dict String Counter}

/-- Without evictions the marks are the attempts. -/
theorem marksOf_eq_attemptsOf (h : ∀ a ∈ history, a.evicted ≠ some (rateKey rt rule value)) :
    marksOf rt rule value history = attemptsOf rule value history :=
  List.filterMap_congr fun a ha => if_neg (h a ha)

theorem marksOf_cons_evicted (history : List Attempt)
    (h : a.evicted = some (rateKey rt rule value)) :
    marksOf rt rule value (a :: history) = .close :: marksOf rt rule value history :=
  List.filterMap_cons_some (if_pos h)

theorem marksOf_cons_attempt (history : List Attempt)
    (h : a.evicted ≠ some (rateKey rt rule value)) (hrule : a.rule = rule)
    (hvalue : a.value = value) :
    marksOf rt rule value (a :: history) =
      .attempt a.readAt a.admitted :: marksOf rt rule value history :=
  List.filterMap_cons_some ((if_neg h).trans (if_pos ⟨hrule, hvalue⟩))

theorem marksOf_cons_other (history : List Attempt)
    (h : a.evicted ≠ some (rateKey rt rule value))
    (hother : ¬ (a.rule = rule ∧ a.value = value)) :
    marksOf rt rule value (a :: history) = marksOf rt rule value history :=
  List.filterMap_cons_none ((if_neg h).trans (if_neg hother))

/-! ### What the map holds -/

/-- The counter that stands for a window. -/
def counterOf (rule : RateLimitRule) (win : Window ℚ) : Counter :=
  ⟨win.attempts, win.opening + rule.windowSeconds⟩

/-- From `now` on, an increment sees exactly the open window. -/
def Tracks (rt : Runtime) (rule : RateLimitRule) (value : String) (now : ℚ)
    (memory : Dict String Counter) (wins : List (Window ℚ)) : Prop :=
  ∀ t, now ≤ t → liveCounter memory t (rateKey rt rule value) =
    (openAt (rule.windowSeconds : ℚ) wins t).map (counterOf rule)

/-- The counter an increment writes stands for the window its attempt falls into. -/
theorem nextCounter_eq_counterOf (rule : RateLimitRule) (wins : List (Window ℚ)) (readAt : ℚ)
    (admitted : Bool) :
    nextCounter ((openAt (rule.windowSeconds : ℚ) wins readAt).map (counterOf rule))
        rule.windowSeconds readAt =
      counterOf rule (hit (rule.windowSeconds : ℚ) wins readAt admitted) := by
  unfold hit
  cases openAt (rule.windowSeconds : ℚ) wins readAt <;> rfl

/-- A window an attempt falls into has not been closed. -/
theorem closed_hit (length t : ℚ) (admitted : Bool) :
    (hit length wins t admitted).closed = false := by
  unfold hit
  cases hopen : openAt length wins t with
  | none => rfl
  | some win =>
    have h := (Option.filter_eq_some_iff.mp hopen).2
    unfold Window.isOpen at h
    rw [Bool.and_eq_true, Bool.not_eq_true'] at h
    exact h.1

/-- An attempt is still in its window exactly while its counter is alive. -/
theorem map_counterOf_filter (win : Window ℚ) (t : ℚ) (hclosed : win.closed = false) :
    ((some win).filter fun win => win.isOpen (rule.windowSeconds : ℚ) t).map (counterOf rule) =
      (some (counterOf rule win)).filter fun counter => decide (t < counter.expiresAt) := by
  by_cases ht : t < win.opening + rule.windowSeconds
  · simp [Option.filter, Window.isOpen, counterOf, hclosed, ht]
  · simp [Option.filter, Window.isOpen, counterOf, ht]

/-- The map is in step with the windows, and no window admitted more than the limit. -/
structure InLimit (rt : Runtime) (rule : RateLimitRule) (value : String) (now : ℚ)
    (memory : Dict String Counter) (history : List Attempt) : Prop where
  tracks : Tracks rt rule value now memory
    (windows rule.windowSeconds (marksOf rt rule value history))
  within : Within rule.limit (windows (rule.windowSeconds : ℚ) (marksOf rt rule value history))

/-- The empty map and the empty history. -/
theorem inLimit_init (rt : Runtime) (rule : RateLimitRule) (value : String) (now : ℚ) :
    InLimit rt rule value now Dict.empty [] :=
  ⟨fun _ _ => rfl, within_nil _⟩

/-- **Step lemma.** An increment keeps the map in step with the windows, and the limit of the
    windows when its check is admitted only within the limit. -/
theorem increment_inLimit (hrule : rule ∈ settings.rules check)
    (hrule' : rule' ∈ settings.rules check') {admitted : Bool}
    (hvalue : rt.sha256Hex value' = rt.sha256Hex value → value' = value) (hle : now ≤ readAt)
    (h : InLimit rt rule value now l.memory history) {done : Incremented}
    (hdone : l.increment (rateKey rt rule' value') rule'.windowSeconds readAt = done)
    (hlimit : admitted = true → done.counted.count ≤ rule'.limit) {event : Attempt}
    (hevent : event = ⟨rule', value', readAt, done.evicted, admitted⟩) :
    InLimit rt rule value readAt done.limiter.memory (event :: history) := by
  obtain ⟨hcount, -, hself, hlive, hother⟩ :=
    increment_spec l (rateKey rt rule' value') rule'.windowSeconds readAt
  rw [hdone] at hcount hself hlive hother
  have hevicted : event.evicted = done.evicted := by rw [hevent]
  by_cases hkey : rateKey rt rule' value' = rateKey rt rule value
  · obtain ⟨rfl, hdigest⟩ := rateKey_inj hrule' hrule hkey
    obtain rfl := hvalue hdigest
    -- the counter goes on as the window does: both are reopened when they are over
    have hnext := nextCounter_eq_counterOf rule' (windows rule'.windowSeconds
      (marksOf rt rule' value' history)) readAt admitted
    rw [← h.tracks readAt hle] at hnext
    have hmarks := marksOf_cons_attempt history (hevicted ▸ hself) (by rw [hevent])
      (by rw [hevent])
    constructor
    · rw [hmarks, windows_cons, hevent]
      intro t ht
      rw [hlive t ht, hnext]
      exact (map_counterOf_filter _ t (closed_hit _ _ _)).symm
    · rw [hmarks, windows_cons, hevent]
      refine h.within.attempt fun hadm => ?_
      have hle := hlimit hadm
      rw [hcount, hnext] at hle
      exact hle
  · have hmark : ¬ (rule' = rule ∧ value' = value) := fun h => hkey (by rw [h.1, h.2])
    -- another key: its counter may have been the victim, which closes the window
    by_cases hev : done.evicted = some (rateKey rt rule value)
    · have hmarks := marksOf_cons_evicted history (hevicted.trans hev)
      constructor
      · rw [hmarks, windows_cons]
        intro t ht
        rw [hother t _ ht (Ne.symm hkey), if_pos hev, mark, openAt_close]
        rfl
      · rw [hmarks]
        exact h.within.close
    · have hmarks := marksOf_cons_other history (hevicted ▸ hev) (by rwa [hevent])
      constructor
      · rw [hmarks]
        intro t ht
        rw [hother t _ ht (Ne.symm hkey), if_neg hev]
        exact h.tracks t (hle.trans ht)
      · rw [hmarks]
        exact h.within

/-- **One check.** Induction on its rules; every increment reports the decision of the whole
    check. -/
theorem checkRules_inLimit (hrule : rule ∈ settings.rules check) (ip email : String)
    {admitted : Bool} (pairs : List (RateLimitRule × ℚ)) :
    ∀ {l : MemoryLimiter} {now : ℚ} {history : List Attempt},
      (∀ pair ∈ pairs, pair.1 ∈ settings.rules check') →
      (now :: pairs.map Prod.snd).IsChain (· ≤ ·) →
      (admitted = true → ∀ inc ∈ (l.checkRules rt ip email pairs).1,
        inc.counted.count ≤ inc.rule.limit) →
      (∀ inc ∈ (l.checkRules rt ip email pairs).1,
        rt.sha256Hex inc.value = rt.sha256Hex value → inc.value = value) →
      InLimit rt rule value now l.memory history →
      InLimit rt rule value ((pairs.map Prod.snd).getLastD now)
        (l.checkRules rt ip email pairs).2.memory
        (((l.checkRules rt ip email pairs).1.map (·.toAttempt admitted)).reverse ++ history) := by
  induction pairs with
  | nil => exact fun _ _ _ _ h => h
  | cons pair rest ih =>
    obtain ⟨rule', readAt⟩ := pair
    intro l now history hrules hchain hlimit hvalue h
    rw [checkRules_cons] at hlimit hvalue ⊢
    rw [List.map_cons, List.isChain_cons_cons] at hchain
    have hstep := increment_inLimit hrule (hrules _ List.mem_cons_self)
      (hvalue _ List.mem_cons_self) hchain.1 h rfl
      (fun hadm => hlimit hadm _ List.mem_cons_self) rfl
    have hrest := ih (fun pair hpair => hrules pair (List.mem_cons_of_mem _ hpair)) hchain.2
      (fun hadm inc hinc => hlimit hadm inc (List.mem_cons_of_mem _ hinc))
      (fun inc hinc => hvalue inc (List.mem_cons_of_mem _ hinc)) hstep
    rw [List.map_cons, List.map_cons, List.reverse_cons, List.append_assoc, List.getLastD_cons]
    exact hrest

/-! ### The limit over a run -/

theorem limiterStep_inLimit {s s' : LimiterState} {call : LimiterCall} {es : List Attempt}
    (hrule : rule ∈ settings.rules check) (hstep : limiterStep rt settings s call = some (s', es))
    (h : DigestUnique rt value history → InLimit rt rule value s.now s.limiter.memory history)
    (hunique : DigestUnique rt value (es ++ history)) :
    InLimit rt rule value s'.now s'.limiter.memory (es ++ history) := by
  unfold limiterStep at hstep
  split_ifs at hstep with hguard
  obtain ⟨hlength, hchain⟩ := hguard
  obtain ⟨rfl, rfl⟩ := Prod.mk.inj (Option.some.inj hstep)
  have hreadings : ((settings.rules call.check).zip call.readings).map Prod.snd = call.readings :=
    List.map_snd_zip hlength.le
  have hinv := checkRules_inLimit hrule call.ip call.email
    ((settings.rules call.check).zip call.readings) (fun pair hpair => (List.of_mem_zip hpair).1)
    (by rwa [hreadings]) (admits_iff call.ip call.email s.limiter _).mp
    (fun inc hinc => hunique (inc.toAttempt _)
      (List.mem_append_left _ (List.mem_reverse.mpr (List.mem_map_of_mem hinc))))
    (h fun a ha => hunique a (List.mem_append_right _ ha))
  rw [hreadings] at hinv
  exact hinv

/-- **The limit of the fallback limiter.** In every run, at most `limit` attempts of a value are
    admitted in a window, where an eviction of the counter closes the window; if the counter is
    never evicted the windows are those of the attempts alone.  The ends of the windows are exact;
    the source rounds `now + window_seconds` to a double. -/
theorem fallback_limit (hrule : rule ∈ settings.rules check) (value : String) {start : ℚ}
    {calls : List LimiterCall} {c : Config LimiterState Attempt}
    (hrun : (limiterSystem rt settings).run (Config.start (LimiterState.init start)) calls = some c)
    (hdigest : DigestUnique rt value c.history) :
    (∀ win ∈ windows (rule.windowSeconds : ℚ) (marksOf rt rule value c.history),
        win.admitted ≤ rule.limit) ∧
      ((∀ a ∈ c.history, a.evicted ≠ some (rateKey rt rule value)) →
        ∀ win ∈ windows (rule.windowSeconds : ℚ) (attemptsOf rule value c.history),
          win.admitted ≤ rule.limit) := by
  have hinv : DigestUnique rt value c.history →
      InLimit rt rule value c.state.now c.state.limiter.memory c.history := by
    refine System.invariant_run _ (I := fun c => DigestUnique rt value c.history →
      InLimit rt rule value c.state.now c.state.limiter.memory c.history) ?_
      (fun _ => inLimit_init rt rule value start) hrun
    intro c call c' h hnext hunique
    obtain ⟨es, hstep, hhist⟩ := (limiterSystem rt settings).next_eq_some.mp hnext
    rw [hhist] at hunique ⊢
    exact limiterStep_inLimit hrule hstep h hunique
  have hwithin := (hinv hdigest).within
  refine ⟨fun win hwin => (hwithin win hwin).2, fun hnever win hwin => ?_⟩
  rw [← marksOf_eq_attemptsOf hnever] at hwin
  exact (hwithin win hwin).2

/-- Five requests of one address within a minute: two of them are rejected. -/
theorem fallback_limit_sample :
    ∃ c, (limiterSystem .sample (.sample none)).run (Config.start (LimiterState.init 0))
        (List.replicate 5 ⟨.passwordReset, "203.0.113.9", "ana@ouros.app", [0, 0]⟩) = some c ∧
      (∀ win ∈ windows (resetIpRule.windowSeconds : ℚ)
          (marksOf .sample resetIpRule "203.0.113.9" c.history),
        win.admitted ≤ resetIpRule.limit) ∧
      ((∀ a ∈ c.history, a.evicted ≠ some (rateKey .sample resetIpRule "203.0.113.9")) →
        ∀ win ∈ windows (resetIpRule.windowSeconds : ℚ)
            (attemptsOf resetIpRule "203.0.113.9" c.history),
          win.admitted ≤ resetIpRule.limit) := by
  obtain ⟨c, hc⟩ := Option.isSome_iff_exists.mp (by decide +kernel :
    ((limiterSystem .sample (.sample none)).run (Config.start (LimiterState.init 0))
      (List.replicate 5 ⟨.passwordReset, "203.0.113.9", "ana@ouros.app", [0, 0]⟩)).isSome = true)
  have hrule : resetIpRule ∈ (Settings.sample none).rules .passwordReset := by decide
  exact ⟨c, hc, fallback_limit hrule "203.0.113.9" hc fun a _ h => sample_digestCollisionFree h⟩

/-! ### What an eviction undoes -/

/-- Among live counters the cleanup finds nothing. -/
theorem maintain_memory_of_live (h : ∀ e ∈ l.memory.entries, now < e.2.expiresAt) :
    (l.maintain now).memory = l.memory := by
  unfold MemoryLimiter.maintain MemoryLimiter.maintainWithin
  split_ifs
  · show cleanupCounters now l.memory = l.memory
    exact Dict.filter_eq_self _ fun e he => decide_eq_true (h e he)
  · rfl

/-- An increment among live counters, as one write. -/
theorem increment_of_live (h : ∀ e ∈ l.memory.entries, now < e.2.expiresAt) (key : String)
    (windowSeconds : ℕ) :
    (l.increment key windowSeconds now).evicted = victim l.memory key ∧
      (l.increment key windowSeconds now).counted.count =
        (nextCounter (l.memory.get? key) windowSeconds now).count ∧
      (l.increment key windowSeconds now).limiter.memory =
        (evict l.memory (victim l.memory key)).set key
          (nextCounter (l.memory.get? key) windowSeconds now) := by
  have hlive : liveCounter l.memory now key = l.memory.get? key := by
    unfold liveCounter
    cases hkey : l.memory.get? key with
    | none => rfl
    | some counter =>
      have hcounter := h _ ((Dict.mem_entries_iff _ _ _).mpr hkey)
      simp [Option.filter, hcounter]
  rw [increment_eq, maintain_memory_of_live h, hlive]
  exact ⟨rfl, rfl, rfl⟩

/-- The address of the concrete run. -/
def floodIp : String := "203.0.113.9"

/-- Its e-mails, no two the same. -/
def floodEmail (i : ℕ) : String := "u" ++ i.repr ++ "@mail.example"

theorem floodEmail_inj {i j : ℕ} (h : floodEmail i = floodEmail j) : i = j := by
  have hrepr : i.repr = j.repr := by
    unfold floodEmail at h
    exact (String.append_right_inj _).mp ((String.append_left_inj _).mp h)
  rw [Nat.repr_eq_ofList_toDigits, Nat.repr_eq_ofList_toDigits, String.ofList_inj] at hrepr
  rw [← @Nat.ofDigitChars_ten_toDigits i, hrepr, Nat.ofDigitChars_ten_toDigits]

/-- The `i`-th reset request of the concrete run; all of them come within one clock reading. -/
def floodCall (i : ℕ) : LimiterCall := ⟨.passwordReset, floodIp, floodEmail i, [0, 0]⟩

/-- The key of the address. -/
def floodIpKey : String := rateKey .sample resetIpRule floodIp

/-- The key of an e-mail. -/
def floodEmailKey (i : ℕ) : String := rateKey .sample resetEmailRule (floodEmail i)

theorem floodEmailKey_ne (i : ℕ) : floodEmailKey i ≠ floodIpKey := by
  intro h
  have hip : resetIpRule ∈ (Settings.sample none).rules .passwordReset := by decide
  have hemail : resetEmailRule ∈ (Settings.sample none).rules .passwordReset := by decide
  exact absurd (rateKey_inj hemail hip h).1 (by decide)

theorem floodEmailKey_inj {i j : ℕ} (h : floodEmailKey i = floodEmailKey j) : i = j :=
  floodEmail_inj (sample_digestCollisionFree ((String.append_right_inj _).mp h))

/-- A map that holds the counter of the address at `count` and one counter for each of the first
    `n` e-mails. -/
structure Flooded (n count : ℕ) (memory : Dict String Counter) : Prop where
  size : memory.size = n + min count 1
  ip : memory.get? floodIpKey = if count = 0 then none else some ⟨count, 60⟩
  others : ∀ e ∈ memory.entries, e.1 = floodIpKey ∨ e.2.expiresAt = 900
  fresh : ∀ i, n ≤ i → memory.get? (floodEmailKey i) = none

namespace Flooded

variable {n count : ℕ}

theorem empty : Flooded 0 0 Dict.empty :=
  ⟨rfl, rfl, fun _ h => absurd h List.not_mem_nil, fun _ _ => rfl⟩

theorem live (h : Flooded n count memory) : ∀ e ∈ memory.entries, (0 : ℚ) < e.2.expiresAt := by
  intro e he
  rcases h.others e he with hkey | hlate
  · have hget := (Dict.mem_entries_iff memory e.1 e.2).mp he
    rw [hkey, h.ip] at hget
    split_ifs at hget
    rw [← Option.some.inj hget]
    norm_num
  · rw [hlate]
    norm_num

/-- The counter of the address expires before every other. -/
theorem soonest (h : Flooded n count memory) (hcount : count ≠ 0) :
    soonestExpiring memory = some floodIpKey := by
  have hmem : (floodIpKey, ⟨count, 60⟩) ∈ memory.entries := by
    rw [Dict.mem_entries_iff, h.ip, if_neg hcount]
  cases hmin : memory.entries.argmin fun entry => entry.2.expiresAt with
  | none =>
    rw [List.argmin_eq_none.mp hmin] at hmem
    exact absurd hmem List.not_mem_nil
  | some e =>
    rw [soonestExpiring, hmin, Option.map_some]
    rcases h.others e (List.argmin_mem hmin) with hkey | hlate
    · rw [hkey]
    · have hle := List.le_of_mem_argmin hmem hmin
      rw [hlate] at hle
      exact absurd hle (by norm_num)

theorem set_ip (h : Flooded n count memory) :
    Flooded n (count + 1) (memory.set floodIpKey ⟨count + 1, 60⟩) where
  size := by
    by_cases hcount : count = 0
    · rw [Dict.size_set_of_not_mem _ _ (by rw [h.ip, if_pos hcount]), h.size]
      omega
    · rw [Dict.size_set_of_mem _ _ (by simp [h.ip, hcount]), h.size]
      omega
  ip := by rw [Dict.get?_set_self, if_neg (Nat.succ_ne_zero _)]
  others := fun e he => by
    by_cases hkey : e.1 = floodIpKey
    · exact Or.inl hkey
    · rw [Dict.mem_entries_iff, Dict.get?_set_ne _ _ hkey, ← Dict.mem_entries_iff] at he
      exact h.others e he
  fresh := fun i hi => by
    rw [Dict.get?_set_ne _ _ (floodEmailKey_ne i)]
    exact h.fresh i hi

theorem set_email (h : Flooded n count memory) :
    Flooded (n + 1) count (memory.set (floodEmailKey n) ⟨1, 900⟩) where
  size := by
    rw [Dict.size_set_of_not_mem _ _ (h.fresh n le_rfl), h.size]
    omega
  ip := by
    rw [Dict.get?_set_ne _ _ (floodEmailKey_ne n).symm]
    exact h.ip
  others := fun e he => by
    rw [Dict.mem_entries_iff, Dict.get?_set] at he
    split_ifs at he with hkey
    · rw [← Option.some.inj he]
      exact Or.inr rfl
    · exact h.others e ((Dict.mem_entries_iff _ _ _).mpr he)
  fresh := fun i hi => by
    rw [Dict.get?_set_ne _ _ fun heq => by have := floodEmailKey_inj heq; omega]
    exact h.fresh i (by omega)

/-- With room in the map, an increment of the address counts on. -/
theorem increment_ip (h : Flooded n count l.memory) (hroom : n < memoryMaxEntries) :
    let done := l.increment floodIpKey 60 0
    done.evicted = none ∧ done.counted.count = count + 1 ∧
      Flooded n (count + 1) done.limiter.memory := by
  intro done
  have hvictim : victim l.memory floodIpKey = none := by
    refine if_neg fun hguard => ?_
    have hsize := h.size
    rw [h.ip] at hguard
    split_ifs at hguard <;> simp at hguard
    omega
  have hnext : nextCounter (l.memory.get? floodIpKey) 60 0 = ⟨count + 1, 60⟩ := by
    rw [h.ip]
    by_cases hcount : count = 0
    · simp [hcount, nextCounter]
    · simp [hcount, nextCounter]
  obtain ⟨hevicted, hcount, hmemory⟩ := increment_of_live h.live floodIpKey 60
  refine ⟨hevicted.trans hvictim, by rw [hcount, hnext], ?_⟩
  rw [hmemory, hvictim, hnext]
  exact h.set_ip

/-- With room in the map, a new e-mail gets a counter of its own. -/
theorem increment_email (h : Flooded n count l.memory)
    (hroom : n + min count 1 < memoryMaxEntries) :
    let done := l.increment (floodEmailKey n) 900 0
    done.evicted = none ∧ done.counted.count = 1 ∧ Flooded (n + 1) count done.limiter.memory := by
  intro done
  have hvictim : victim l.memory (floodEmailKey n) = none :=
    if_neg fun hguard => by
      rw [h.size] at hguard
      omega
  have hnext : nextCounter (l.memory.get? (floodEmailKey n)) 900 0 = ⟨1, 900⟩ := by
    rw [h.fresh n le_rfl]
    simp [nextCounter]
  obtain ⟨hevicted, hcount, hmemory⟩ := increment_of_live h.live (floodEmailKey n) 900
  refine ⟨hevicted.trans hvictim, by rw [hcount, hnext], ?_⟩
  rw [hmemory, hvictim, hnext]
  exact h.set_email

/-- In a full map, a new e-mail takes the place of the address. -/
theorem evicts_ip (h : Flooded n count l.memory) (hcount : count ≠ 0)
    (hfull : memoryMaxEntries ≤ n + min count 1) :
    (l.increment (floodEmailKey n) 900 0).evicted = some floodIpKey := by
  rw [(increment_of_live h.live (floodEmailKey n) 900).1, victim, victimWithin,
    if_pos ⟨h.fresh n le_rfl, by rwa [h.size]⟩]
  exact h.soonest hcount

end Flooded

/-- One request of the concrete run. -/
theorem floodCall_step (l : MemoryLimiter) (i : ℕ) :
    let first := l.increment floodIpKey 60 0
    let second := first.limiter.increment (floodEmailKey i) 900 0
    let admitted := decide (first.counted.count ≤ 3 ∧ second.counted.count ≤ 5)
    limiterStep .sample (.sample none) ⟨0, l⟩ (floodCall i) =
      some (⟨0, second.limiter⟩,
        [⟨resetEmailRule, floodEmail i, 0, second.evicted, admitted⟩,
          ⟨resetIpRule, floodIp, 0, first.evicted, admitted⟩]) := by
  intro first second admitted
  have hcheck : l.checkRules .sample floodIp (floodEmail i)
    [(resetIpRule, 0), (resetEmailRule, 0)] =
      ([⟨resetIpRule, floodIp, 0, first.counted, first.evicted⟩,
        ⟨resetEmailRule, floodEmail i, 0, second.counted, second.evicted⟩], second.limiter) := by
    rw [checkRules_cons, checkRules_cons]
    rfl
  have hadmits : admits (l.checkRules .sample floodIp (floodEmail i)
      [(resetIpRule, 0), (resetEmailRule, 0)]).1 = admitted := by
    rw [Bool.eq_iff_iff, admits_iff, hcheck, decide_eq_true_eq]
    simp [resetIpRule, resetEmailRule]
  rw [hcheck] at hadmits
  have hpairs : ((Settings.sample none).rules .passwordReset).zip [(0 : ℚ), 0] =
      [(resetIpRule, 0), (resetEmailRule, 0)] := rfl
  unfold limiterStep floodCall
  simp only [hpairs, hcheck, hadmits]
  rw [if_pos ⟨rfl, by simp⟩]
  rfl

/-- The windows of the address in a history. -/
def floodWindows (history : List Attempt) : List (Window ℚ) :=
  windows 60 (attemptsOf resetIpRule floodIp history)

/-- **One request of the run.** It adds one attempt of the address. -/
theorem flood_next (l : MemoryLimiter) (history : List Attempt) (i : ℕ) :
    let first := l.increment floodIpKey 60 0
    let second := first.limiter.increment (floodEmailKey i) 900 0
    let admitted := decide (first.counted.count ≤ 3 ∧ second.counted.count ≤ 5)
    ∃ history', (limiterSystem .sample (.sample none)).next ⟨⟨0, l⟩, history⟩ (floodCall i) =
        some ⟨⟨0, second.limiter⟩, history'⟩ ∧
      floodWindows history' = attempt 60 (floodWindows history) 0 admitted := by
  intro first second admitted
  refine ⟨[⟨resetEmailRule, floodEmail i, 0, second.evicted, admitted⟩,
    ⟨resetIpRule, floodIp, 0, first.evicted, admitted⟩] ++ history, ?_, ?_⟩
  · show Option.map _ (limiterStep .sample (.sample none) ⟨0, l⟩ (floodCall i)) = _
    rw [floodCall_step]
    rfl
  · have hrule : resetEmailRule ≠ resetIpRule := by decide
    simp only [floodWindows, attemptsOf, List.cons_append, List.nil_append, List.filterMap_cons,
      Attempt.mark?, hrule, false_and, and_self, if_false, if_true, windows_cons]
    rfl

/-- The first requests of the run. -/
def floodCalls (n : ℕ) : List LimiterCall := (List.range n).map floodCall

/-- One more request. -/
theorem floodCalls_succ {n : ℕ} {c c' : Config LimiterState Attempt} {start : ℚ}
    (hrun : (limiterSystem .sample (.sample none)).run (Config.start (LimiterState.init start))
      (floodCalls n) = some c)
    (hnext : (limiterSystem .sample (.sample none)).next c (floodCall n) = some c') :
    (limiterSystem .sample (.sample none)).run (Config.start (LimiterState.init start))
      (floodCalls (n + 1)) = some c' := by
  rw [floodCalls, List.range_succ, List.map_append, System.run_append]
  rw [floodCalls] at hrun
  rw [hrun, Option.bind_some, List.map_singleton, System.run_cons, hnext, Option.bind_some,
    System.run_nil]

theorem attempt_single (attempts admitted : ℕ) (b : Bool) :
    attempt (60 : ℚ) [⟨0, attempts, admitted, false⟩] 0 b =
      [⟨0, attempts + 1, admitted + if b then 1 else 0, false⟩] := by
  have hopen : openAt (60 : ℚ) [⟨0, attempts, admitted, false⟩] 0 =
      some ⟨0, attempts, admitted, false⟩ := by
    simp [openAt, Option.filter, Window.isOpen]
  rw [attempt, hit, hopen]
  rfl

/-- While the map has room, the address is admitted three times and no more. -/
theorem flood_run (n : ℕ) (hn : n < memoryMaxEntries) :
    ∃ l history, (limiterSystem .sample (.sample none)).run (Config.start (LimiterState.init 0))
        (floodCalls n) = some ⟨⟨0, l⟩, history⟩ ∧
      Flooded n n l.memory ∧
      floodWindows history = if n = 0 then [] else [⟨0, n, min n 3, false⟩] := by
  induction n with
  | zero => exact ⟨_, _, rfl, Flooded.empty, rfl⟩
  | succ n ih =>
    obtain ⟨l, history, hrun, hflooded, hwindows⟩ := ih (by omega)
    obtain ⟨-, hcount, hfirst⟩ := hflooded.increment_ip (by omega)
    obtain ⟨-, hcount', hsecond⟩ := hfirst.increment_email (by omega)
    obtain ⟨history', hnext, hwindows'⟩ := flood_next l history n
    refine ⟨_, history', floodCalls_succ hrun hnext, hsecond, ?_⟩
    rw [hwindows', hwindows, hcount, hcount', if_neg (Nat.succ_ne_zero n)]
    by_cases hzero : n = 0
    · subst hzero
      rfl
    · have hadmitted : (min n 3 + if decide (n + 1 ≤ 3 ∧ 1 ≤ 5) then 1 else 0) =
          min (n + 1) 3 := by
        split_ifs with hlimit <;> simp only [decide_eq_true_eq] at hlimit <;> omega
      rw [if_neg hzero, attempt_single, hadmitted]

/-- **The limit fails.** One address asks for the reset of ever new e-mails.  It is rejected from
    the fourth request on, until its own counter is evicted for the e-mail of a rejected one; then
    it is admitted a fourth time in its minute. -/
theorem fallback_overrun :
    ∃ c, (limiterSystem .sample (.sample none)).run (Config.start (LimiterState.init 0))
        (floodCalls 10001) = some c ∧
      DigestUnique .sample floodIp c.history ∧
      resetIpRule ∈ (Settings.sample none).rules .passwordReset ∧
      ∃ win ∈ windows (resetIpRule.windowSeconds : ℚ) (attemptsOf resetIpRule floodIp c.history),
        ¬ win.admitted ≤ resetIpRule.limit := by
  obtain ⟨l, history, hrun, hflooded, hwindows⟩ := flood_run 9999 (by decide)
  -- the 10 000th request fills the map, and its e-mail evicts the counter of the address
  obtain ⟨-, hcount, hfirst⟩ := hflooded.increment_ip (by decide)
  have hevicts := hfirst.evicts_ip (by decide) (by decide)
  obtain ⟨history₁, hnext₁, hwindows₁⟩ := flood_next l history 9999
  generalize (l.increment floodIpKey 60 0).limiter = l₁ at *
  have hip : liveCounter (l₁.increment (floodEmailKey 9999) 900 0).limiter.memory 0 floodIpKey =
      none := by
    obtain ⟨-, -, -, -, hother⟩ := increment_spec l₁ (floodEmailKey 9999) 900 0
    rw [hother 0 _ le_rfl (floodEmailKey_ne _).symm, if_pos hevicts]
  have hemail : liveCounter (l₁.increment (floodEmailKey 9999) 900 0).limiter.memory 0
      (floodEmailKey 10000) = none := by
    refine liveCounter_increment_none le_rfl (fun h => absurd (floodEmailKey_inj h) (by decide)) ?_
    rw [liveCounter, hfirst.fresh 10000 (by decide)]
    rfl
  -- so the last request finds no counter, neither for the address nor for its e-mail
  obtain ⟨history₂, hnext₂, hwindows₂⟩ :=
    flood_next (l₁.increment (floodEmailKey 9999) 900 0).limiter history₁ 10000
  have hwindow : floodWindows history₂ = [⟨0, 10001, 4, false⟩] := by
    rw [hwindows₂, count_of_liveCounter_none hip, count_of_liveCounter_none
      (liveCounter_increment_none le_rfl (floodEmailKey_ne _) hemail), hwindows₁, hwindows, hcount,
      if_neg (by decide), attempt_single, attempt_single]
    simp
  refine ⟨_, floodCalls_succ (floodCalls_succ hrun hnext₁) hnext₂,
    fun a _ h => sample_digestCollisionFree h, by decide, ⟨0, 10001, 4, false⟩, ?_, by decide⟩
  have hmem : (⟨0, 10001, 4, false⟩ : Window ℚ) ∈ floodWindows history₂ := by
    rw [hwindow]
    exact List.mem_singleton_self _
  exact hmem

end OurosAuth
