import OurosAuth.RateLimit.Fallback
import OurosAuth.RateLimit.Refinement

namespace OurosAuth

open KeyValue Traced Windows

/-!
# The limiter of many replicas over one Redis

`_increment` as a whole, on any number of replicas that share a Redis: a check is a request that
goes through its rules one by one, suspended at every `await`, and each time Redis does not answer
it counts in the map of its own replica.

* `failoverStep` — one step of one check, of a client, or of Redis losing what it holds;
* `redisMarks`, `mapAttempts` — the attempts of a value as Redis and the map of a replica saw them;
* `failover_limit` — whatever is lost and whenever, no window of either admits more than the limit
  of those it answered, and whoever is let through was answered once under every rule.

A script that runs after its check has given up counts in Redis as well, beside the count in the map
that the check was answered from.  It takes a place in the window of Redis, but its check is not one
of those Redis answered: a check let through by a map may stand in Redis only as such a script.
-/

/-- Where a check is suspended in `_increment`. -/
inductive IncrementPhase
  /-- before the first look at `self._redis` -/
  | enter
  /-- in `connect` -/
  | connecting
  /-- in `eval` -/
  | evaluating
  /-- in `close`, after `eval` raised -/
  | closing
  /-- before `_memory_lock` -/
  | counting
  deriving DecidableEq

/-- A check under way: the rules still to be counted, the first of them in the given phase, and
    what the others were answered. -/
structure RunningCheck where
  replica : ℕ
  check : LimiterCheck
  ip : String
  email : String
  pending : List RateLimitRule
  phase : IncrementPhase
  counts : List (RateLimitRule × Counted)

/-- A check, from its request to its decision. -/
inductive CheckState
  | idle
  | running (r : RunningCheck)
  /-- let through, or `RateLimitExceeded` when there is something to wait for -/
  | ended (check : LimiterCheck) (ip email : String) (retryAfter : ℕ)

/-- Redis, and every replica's clock, client and map. -/
structure FailoverState where
  redisNow : ℚ
  redis : Redis
  /-- Scripts whose check no longer waits for an answer; they may still run. -/
  abandoned : List (RateLimitRule × String)
  monotonic : ℕ → ℚ
  /-- Is `self._redis` set? -/
  connected : ℕ → Bool
  limiters : ℕ → MemoryLimiter
  checks : ℕ → CheckState

/-- Replicas that have counted nothing, over a Redis with any content. -/
def FailoverState.init (redisNow : ℚ) (redis : Redis) (monotonic : ℕ → ℚ) : FailoverState :=
  ⟨redisNow, redis, [], monotonic, fun _ => false, fun _ => ⟨Dict.empty, 0⟩, fun _ => .idle⟩

/-- The steps of the replicas, of the clients they share with other tasks, and of Redis. -/
inductive FailoverLabel
  | begin (id replica : ℕ) (check : LimiterCheck) (ip email : String)
  | enter (id : ℕ)
  | connect (id : ℕ) (succeeds : Bool)
  /-- `eval` is answered -/
  | eval (id : ℕ) (t : ℚ)
  /-- a `RedisError` or `OSError` takes the place of the answer -/
  | giveUp (id : ℕ)
  | close (id : ℕ)
  | count (id : ℕ) (t : ℚ)
  /-- `connect`, `ping` or `close` called from elsewhere -/
  | client (replica : ℕ) (connected : Bool)
  /-- Redis runs the script of a check that has given up -/
  | late (n : ℕ) (t : ℚ)
  /-- Redis comes back without its keys -/
  | emptied

/-- Who counted. -/
inductive CountSource
  | redis
  | map (replica : ℕ)
  deriving DecidableEq

/-- What the steps leave in the history. -/
inductive FailoverEvent
  | counted (id : ℕ) (source : CountSource) (rule : RateLimitRule) (value : String) (readAt : ℚ)
      (answer : Counted) (evicted : Option String)
  /-- Redis ran a script late; its check turned to the map of its replica -/
  | unanswered (rule : RateLimitRule) (value : String) (readAt : ℚ)
  | emptied

/-- The value a check is counted under. -/
def RunningCheck.value (rt : Runtime) (r : RunningCheck) (rule : RateLimitRule) : String :=
  rule.dimension.value rt r.ip r.email

/-- The check once the first of its pending rules is counted; after the last one it is decided. -/
def RunningCheck.answered (r : RunningCheck) (rule : RateLimitRule) (rest : List RateLimitRule)
    (answer : Counted) : CheckState :=
  let counts := r.counts ++ [(rule, answer)]
  match rest with
  | [] => .ended r.check r.ip r.email (longestRetryAfter counts)
  | _ :: _ => .running { r with pending := rest, phase := .enter, counts := counts }

namespace FailoverState

/-- Replace one check. -/
def setCheck (s : FailoverState) (id : ℕ) (k : CheckState) : FailoverState :=
  { s with checks := Function.update s.checks id k }

/-- The check, if it is suspended in this phase. -/
def runningAt (s : FailoverState) (id : ℕ) (phase : IncrementPhase) : Option RunningCheck :=
  match s.checks id with
  | .running r => if r.phase = phase then some r else none
  | _ => none

/-- The check, if it is suspended in this phase, with the rule it is about to count. -/
def pendingAt (s : FailoverState) (id : ℕ) (phase : IncrementPhase) :
    Option (RunningCheck × RateLimitRule × List RateLimitRule) :=
  (s.runningAt id phase).bind fun r =>
    match r.pending with
    | [] => none
    | rule :: rest => some (r, rule, rest)

/-- `_increment` up to its first `await`. -/
def onEnter (s : FailoverState) (settings : Settings) (id : ℕ) (r : RunningCheck) :
    FailoverState :=
  let phase :=
    if s.connected r.replica = true then .evaluating
    else if settings.redisUrl.isSome = true then .connecting
    else .counting
  s.setCheck id (.running { r with phase := phase })

/-- The end of `connect`; another task may have connected in the meantime. -/
def onConnect (s : FailoverState) (id : ℕ) (r : RunningCheck) (succeeds : Bool) : FailoverState :=
  let connected := s.connected r.replica || succeeds
  { s with connected := Function.update s.connected r.replica connected }.setCheck id
    (.running { r with phase := if connected then .evaluating else .counting })

/-- The end of `eval`, when it is answered. -/
def onEval (s : FailoverState) (rt : Runtime) (id : ℕ) (r : RunningCheck) (rule : RateLimitRule)
    (rest : List RateLimitRule) (t : ℚ) : FailoverState × List FailoverEvent :=
  let value := r.value rt rule
  match redisIncrement t (rateKey rt rule value) rule.windowSeconds s.redis with
  | some (answer, redis) =>
      ({ s with redisNow := t, redis := redis }.setCheck id (r.answered rule rest answer),
        [.counted id .redis rule value t answer none])
  | none =>
      -- the script raised
      ({ s with redisNow := t }.setCheck id (.running { r with phase := .closing }), [])

/-- A script runs whose check has given up. -/
def onLate (s : FailoverState) (rt : Runtime) (n : ℕ) (rule : RateLimitRule) (value : String)
    (t : ℚ) : FailoverState × List FailoverEvent :=
  let abandoned := s.abandoned.eraseIdx n
  match redisIncrement t (rateKey rt rule value) rule.windowSeconds s.redis with
  | some (_, redis) =>
      ({ s with redisNow := t, redis := redis, abandoned := abandoned }, [.unanswered rule value t])
  | none => ({ s with redisNow := t, abandoned := abandoned }, [])

/-- The branch of `_increment` under `_memory_lock`. -/
def onCount (s : FailoverState) (rt : Runtime) (id : ℕ) (r : RunningCheck) (rule : RateLimitRule)
    (rest : List RateLimitRule) (t : ℚ) : FailoverState × List FailoverEvent :=
  let value := r.value rt rule
  let done := (s.limiters r.replica).increment (rateKey rt rule value) rule.windowSeconds t
  ({ s with
      monotonic := Function.update s.monotonic r.replica t
      limiters := Function.update s.limiters r.replica done.limiter }.setCheck id
      (r.answered rule rest done.counted),
    [.counted id (.map r.replica) rule value t done.counted done.evicted])

end FailoverState

/-- One step.  Neither the clock of Redis nor that of a replica goes back. -/
def failoverStep (rt : Runtime) (settings : Settings) (s : FailoverState) :
    FailoverLabel → Option (FailoverState × List FailoverEvent)
  | .begin id replica check ip email =>
      match s.checks id with
      | .idle =>
          some (s.setCheck id
            (.running ⟨replica, check, ip, email, settings.rules check, .enter, []⟩), [])
      | _ => none
  | .enter id => (s.runningAt id .enter).map fun r => (s.onEnter settings id r, [])
  | .connect id succeeds =>
      (s.runningAt id .connecting).map fun r => (s.onConnect id r succeeds, [])
  | .eval id t =>
      (s.pendingAt id .evaluating).bind fun (r, rule, rest) =>
        if s.redisNow ≤ t then some (s.onEval rt id r rule rest t) else none
  | .giveUp id =>
      (s.pendingAt id .evaluating).map fun (r, rule, _) =>
        ({ s with abandoned := (rule, r.value rt rule) :: s.abandoned }.setCheck id
          (.running { r with phase := .closing }), [])
  | .close id =>
      (s.runningAt id .closing).map fun r =>
        ({ s with connected := Function.update s.connected r.replica false }.setCheck id
          (.running { r with phase := .counting }), [])
  | .count id t =>
      (s.pendingAt id .counting).bind fun (r, rule, rest) =>
        if s.monotonic r.replica ≤ t then some (s.onCount rt id r rule rest t) else none
  | .client replica connected =>
      if connected = true ∧ settings.redisUrl = none then none
      else some ({ s with connected := Function.update s.connected replica connected }, [])
  | .late n t =>
      s.abandoned[n]?.bind fun (rule, value) =>
        if s.redisNow ≤ t then some (s.onLate rt n rule value t) else none
  | .emptied => some ({ s with redis := Dict.empty }, [.emptied])

/-- The runs of the replicas. -/
def failoverSystem (rt : Runtime) (settings : Settings) :
    System FailoverState FailoverLabel FailoverEvent := ⟨failoverStep rt settings⟩

/-! ### What the stores see of a value -/

/-- What an event is to the windows of Redis, when `admitted` says which of the attempts that Redis
    answered are admitted.  A late script takes a place in its window and admits nobody: if its
    check is let through, the map of its replica lets it through. -/
def FailoverEvent.redisMark? (admitted : ℕ → RateLimitRule → Counted → Bool) (rule : RateLimitRule)
    (value : String) : FailoverEvent → Option (Mark ℚ)
  | .counted id .redis rule' value' t answer _ =>
      if rule' = rule ∧ value' = value then some (.attempt t (admitted id rule' answer))
      else none
  | .counted _ (.map _) _ _ _ _ _ => none
  | .unanswered rule' value' t =>
      if rule' = rule ∧ value' = value then some (.attempt t false) else none
  | .emptied => some .close

/-- The attempts of a value Redis counted for a rule, late scripts among them, and the losses of
    its counter. -/
def redisMarks (admitted : ℕ → RateLimitRule → Counted → Bool) (rule : RateLimitRule)
    (value : String) (history : List FailoverEvent) : List (Mark ℚ) :=
  history.filterMap (FailoverEvent.redisMark? admitted rule value)

/-- What an event is to the map of a replica. -/
def FailoverEvent.attempt? (admitted : ℕ → RateLimitRule → Counted → Bool) (replica : ℕ) :
    FailoverEvent → Option Attempt
  | .counted id (.map replica') rule value t answer evicted =>
      if replica' = replica then some ⟨rule, value, t, evicted, admitted id rule answer⟩
      else none
  | _ => none

/-- The attempts the map of a replica counted. -/
def mapAttempts (admitted : ℕ → RateLimitRule → Counted → Bool) (replica : ℕ)
    (history : List FailoverEvent) : List Attempt :=
  history.filterMap (FailoverEvent.attempt? admitted replica)

/-- Was the check let through? -/
def FailoverState.letThrough (s : FailoverState) (id : ℕ) : Bool :=
  match s.checks id with
  | .ended _ _ _ retryAfter => decide (retryAfter = 0)
  | _ => false

/-- The answer a check was given by an event. -/
def FailoverEvent.answer? (id : ℕ) : FailoverEvent → Option (RateLimitRule × String × Counted)
  | .counted id' _ rule value _ answer _ => if id' = id then some (rule, value, answer) else none
  | _ => none

/-- The answers a check was given, in order. -/
def answersTo (id : ℕ) (history : List FailoverEvent) :
    List (RateLimitRule × String × Counted) :=
  (history.filterMap (FailoverEvent.answer? id)).reverse

/-- The value an event is about. -/
def FailoverEvent.value? : FailoverEvent → Option String
  | .counted _ _ _ value _ _ _ => some value
  | .unanswered _ value _ => some value
  | .emptied => none

/-- No other value of the history has the digest of `value`. -/
def ValueUnique (rt : Runtime) (value : String) (history : List FailoverEvent) : Prop :=
  ∀ e ∈ history, ∀ value', e.value? = some value' →
    rt.sha256Hex value' = rt.sha256Hex value → value' = value

variable {rt : Runtime} {settings : Settings} {s s' : FailoverState} {label : FailoverLabel}
  {es history : List FailoverEvent} {rule rule' : RateLimitRule} {value value' : String}
  {check check' : LimiterCheck} {id : ℕ} {admitted : ℕ → RateLimitRule → Counted → Bool}

/-! ### What a step can do -/

/-- A step of a check that counts nothing. -/
inductive QuietMove (settings : Settings) : CheckState → CheckState → Prop
  | begin (replica : ℕ) (check : LimiterCheck) (ip email : String) :
      QuietMove settings .idle
        (.running ⟨replica, check, ip, email, settings.rules check, .enter, []⟩)
  | phase (r : RunningCheck) (phase : IncrementPhase) :
      QuietMove settings (.running r) (.running { r with phase := phase })

/-- What one step does to the stores and to the checks. -/
inductive FailoverMove (rt : Runtime) (settings : Settings) (s : FailoverState) :
    FailoverState → List FailoverEvent → Prop
  | quiet {s' : FailoverState} (redis : s'.redis = s.redis) (redisNow : s.redisNow ≤ s'.redisNow)
      (limiters : s'.limiters = s.limiters) (monotonic : s'.monotonic = s.monotonic)
      (abandoned : ∀ script ∈ s'.abandoned, script ∈ s.abandoned ∨
        ∃ id r, s.checks id = .running r ∧ script.1 ∈ r.pending)
      (checks : ∀ id, s'.checks id = s.checks id ∨
        QuietMove settings (s.checks id) (s'.checks id)) :
      FailoverMove rt settings s s' []
  | answered {id : ℕ} {r : RunningCheck} {rule : RateLimitRule} {rest : List RateLimitRule} {t : ℚ}
      {answer : Counted} {redis : Redis} (running : s.checks id = .running r)
      (pending : r.pending = rule :: rest) (clock : s.redisNow ≤ t)
      (increment : redisIncrement t (rateKey rt rule (r.value rt rule)) rule.windowSeconds s.redis =
        some (answer, redis)) :
      FailoverMove rt settings s
        ({ s with redisNow := t, redis := redis }.setCheck id (r.answered rule rest answer))
        [.counted id .redis rule (r.value rt rule) t answer none]
  | late {rule : RateLimitRule} {value : String} {t : ℚ} {answer : Counted} {redis : Redis}
      {abandoned : List (RateLimitRule × String)} (script : (rule, value) ∈ s.abandoned)
      (rest : ∀ script ∈ abandoned, script ∈ s.abandoned) (clock : s.redisNow ≤ t)
      (increment : redisIncrement t (rateKey rt rule value) rule.windowSeconds s.redis =
        some (answer, redis)) :
      FailoverMove rt settings s
        { s with redisNow := t, redis := redis, abandoned := abandoned } [.unanswered rule value t]
  | counted {id : ℕ} {r : RunningCheck} {rule : RateLimitRule} {rest : List RateLimitRule} {t : ℚ}
      (running : s.checks id = .running r) (pending : r.pending = rule :: rest)
      (clock : s.monotonic r.replica ≤ t) :
      FailoverMove rt settings s (s.onCount rt id r rule rest t).1
        (s.onCount rt id r rule rest t).2
  | emptied : FailoverMove rt settings s { s with redis := Dict.empty } [.emptied]

theorem runningAt_eq_some {phase : IncrementPhase} {r : RunningCheck}
    (h : s.runningAt id phase = some r) : s.checks id = .running r := by
  unfold FailoverState.runningAt at h
  split at h
  · rename_i r' hr'
    split_ifs at h
    rw [hr', Option.some.inj h]
  · exact absurd h (by simp)

theorem pendingAt_eq_some {phase : IncrementPhase} {r : RunningCheck}
    {rest : List RateLimitRule} (h : s.pendingAt id phase = some (r, rule, rest)) :
    s.checks id = .running r ∧ r.pending = rule :: rest := by
  obtain ⟨r', hr', h⟩ := Option.bind_eq_some_iff.mp h
  split at h
  · exact absurd h (by simp)
  · rename_i hpending
    simp only [Option.some.injEq, Prod.mk.injEq] at h
    obtain ⟨rfl, rfl, rfl⟩ := h
    exact ⟨runningAt_eq_some hr', hpending⟩

/-- Replacing a check by itself in another phase is a quiet step. -/
theorem FailoverMove.ofPhase {r : RunningCheck} {phase : IncrementPhase} (t : FailoverState)
    (hrunning : s.checks id = .running r) (hredis : t.redis = s.redis)
    (hclock : s.redisNow ≤ t.redisNow) (hlimiters : t.limiters = s.limiters)
    (hmonotonic : t.monotonic = s.monotonic)
    (habandoned : ∀ script ∈ t.abandoned, script ∈ s.abandoned ∨ script.1 ∈ r.pending)
    (hchecks : t.checks = s.checks) :
    FailoverMove rt settings s (t.setCheck id (.running { r with phase := phase })) [] := by
  refine .quiet hredis hclock hlimiters hmonotonic (fun script hscript => ?_) fun id' => ?_
  · exact (habandoned script hscript).imp_right fun h => ⟨id, r, hrunning, h⟩
  · show Function.update t.checks id _ id' = _ ∨ QuietMove _ _ (Function.update t.checks id _ id')
    rw [hchecks]
    by_cases hid : id' = id
    · subst hid
      rw [Function.update_self, hrunning]
      exact Or.inr (.phase r phase)
    · rw [Function.update_of_ne hid]
      exact Or.inl rfl

/-- **Inversion.** Every step is one of these. -/
theorem failoverStep_move (h : failoverStep rt settings s label = some (s', es)) :
    FailoverMove rt settings s s' es := by
  -- most steps move one check from phase to phase and touch no counter
  cases label with
  | begin id replica check ip email =>
    simp only [failoverStep] at h
    split at h
    · rename_i hidle
      obtain ⟨rfl, rfl⟩ := Prod.mk.inj (Option.some.inj h)
      refine .quiet rfl le_rfl rfl rfl (fun _ => Or.inl) fun id' => ?_
      show Function.update s.checks id _ id' = _ ∨ QuietMove _ _ (Function.update s.checks id _ id')
      by_cases hid : id' = id
      · subst hid
        rw [Function.update_self, hidle]
        exact Or.inr (.begin replica check ip email)
      · rw [Function.update_of_ne hid]
        exact Or.inl rfl
    · exact absurd h (by simp)
  | enter id =>
    obtain ⟨r, hr, h⟩ := Option.map_eq_some_iff.mp h
    obtain ⟨rfl, rfl⟩ := Prod.mk.inj h
    exact .ofPhase s (runningAt_eq_some hr) rfl le_rfl rfl rfl (fun _ => Or.inl) rfl
  | connect id succeeds =>
    obtain ⟨r, hr, h⟩ := Option.map_eq_some_iff.mp h
    obtain ⟨rfl, rfl⟩ := Prod.mk.inj h
    exact .ofPhase _ (runningAt_eq_some hr) rfl le_rfl rfl rfl (fun _ => Or.inl) rfl
  | eval id t =>
    obtain ⟨⟨r, rule, rest⟩, hr, h⟩ := Option.bind_eq_some_iff.mp h
    obtain ⟨hrunning, hpending⟩ := pendingAt_eq_some hr
    dsimp only at h
    split_ifs at h with hclock
    dsimp only [FailoverState.onEval] at h
    split at h
    · rename_i answer redis hincrement
      obtain ⟨rfl, rfl⟩ := Prod.mk.inj (Option.some.inj h)
      exact .answered hrunning hpending hclock hincrement
    · obtain ⟨rfl, rfl⟩ := Prod.mk.inj (Option.some.inj h)
      exact .ofPhase _ hrunning rfl hclock rfl rfl (fun _ => Or.inl) rfl
  | giveUp id =>
    obtain ⟨⟨r, rule, rest⟩, hr, h⟩ := Option.map_eq_some_iff.mp h
    obtain ⟨rfl, rfl⟩ := Prod.mk.inj h
    obtain ⟨hrunning, hpending⟩ := pendingAt_eq_some hr
    refine .ofPhase _ hrunning rfl le_rfl rfl rfl (fun script hscript => ?_) rfl
    rcases List.mem_cons.mp hscript with rfl | hscript
    · exact Or.inr (hpending ▸ List.mem_cons_self)
    · exact Or.inl hscript
  | close id =>
    obtain ⟨r, hr, h⟩ := Option.map_eq_some_iff.mp h
    obtain ⟨rfl, rfl⟩ := Prod.mk.inj h
    exact .ofPhase _ (runningAt_eq_some hr) rfl le_rfl rfl rfl (fun _ => Or.inl) rfl
  | count id t =>
    obtain ⟨⟨r, rule, rest⟩, hr, h⟩ := Option.bind_eq_some_iff.mp h
    obtain ⟨hrunning, hpending⟩ := pendingAt_eq_some hr
    dsimp only at h
    split_ifs at h with hclock
    obtain ⟨rfl, rfl⟩ := Prod.mk.inj (Option.some.inj h)
    exact .counted hrunning hpending hclock
  | client replica connected =>
    simp only [failoverStep] at h
    split_ifs at h
    obtain ⟨rfl, rfl⟩ := Prod.mk.inj (Option.some.inj h)
    exact .quiet rfl le_rfl rfl rfl (fun _ => Or.inl) fun _ => Or.inl rfl
  | late n t =>
    obtain ⟨⟨rule, value⟩, hscript, h⟩ := Option.bind_eq_some_iff.mp h
    dsimp only at h
    split_ifs at h with hclock
    have hrest : ∀ script ∈ s.abandoned.eraseIdx n, script ∈ s.abandoned :=
      fun _ => List.mem_of_mem_eraseIdx
    dsimp only [FailoverState.onLate] at h
    split at h
    · rename_i answer redis hincrement
      obtain ⟨rfl, rfl⟩ := Prod.mk.inj (Option.some.inj h)
      exact .late (List.mem_of_getElem? hscript) hrest hclock hincrement
    · obtain ⟨rfl, rfl⟩ := Prod.mk.inj (Option.some.inj h)
      exact .quiet rfl hclock rfl rfl (fun script hmem => Or.inl (hrest script hmem))
        fun _ => Or.inl rfl
  | emptied =>
    obtain ⟨rfl, rfl⟩ := Prod.mk.inj (Option.some.inj h)
    exact .emptied

/-! ### The counters of Redis -/

/-- From `now` on Redis shows exactly the open window of the value, and no window admitted more
    than the limit. -/
structure RedisFollows (rt : Runtime) (rule : RateLimitRule) (value : String) (now : ℚ)
    (redis : Redis) (marks : List (Mark ℚ)) : Prop where
  shows : ∀ t, now ≤ t → redis.liveEntry t (rateKey rt rule value) =
    ((openAt (rule.windowSeconds : ℚ) (windows rule.windowSeconds marks) t).map
      (counterOf rule)).map Counter.entry
  within : Within rule.limit (windows (rule.windowSeconds : ℚ) marks)

/-- The script continues the counter it finds, or starts a new one. -/
theorem redisIncrement_nextCounter {t : ℚ} {key : String} {windowSeconds : ℕ}
    {redis redis' : Redis} {answer : Counted} {live : Option Counter}
    (hlive : redis.liveEntry t key = live.map Counter.entry)
    (hcount : ∀ counter ∈ live, counter.count ≠ 0)
    (h : redisIncrement t key windowSeconds redis = some (answer, redis')) :
    answer.count = (nextCounter live windowSeconds t).count ∧
      redis'.get? key = some (nextCounter live windowSeconds t).entry := by
  cases live with
  | none => exact redisIncrement_fresh (ExpiringStore.get_of_liveEntry_none hlive) h
  | some counter => exact redisIncrement_counted hlive (hcount counter rfl) h

/-- **Step lemma for Redis.** A script under any rule and value keeps Redis in step with the
    windows, and their limit when its attempt is admitted only within the limit. -/
theorem RedisFollows.counted {now t : ℚ} {redis redis' : Redis} {marks : List (Mark ℚ)}
    {answer : Counted} (flag : Bool) (h : RedisFollows rt rule value now redis marks)
    (hrule : rule ∈ settings.rules check) (hrule' : rule' ∈ settings.rules check')
    (hvalue : rt.sha256Hex value' = rt.sha256Hex value → value' = value) (hle : now ≤ t)
    (hincrement : redisIncrement t (rateKey rt rule' value') rule'.windowSeconds redis =
      some (answer, redis'))
    (hflag : flag = true → answer.count ≤ rule'.limit) {marks' : List (Mark ℚ)}
    (hmarks : marks' =
      if rule' = rule ∧ value' = value then .attempt t flag :: marks else marks) :
    RedisFollows rt rule value t redis' marks' := by
  -- keys are equal for one rule and one value only, so another script writes another key
  by_cases hkey : rateKey rt rule' value' = rateKey rt rule value
  · obtain ⟨rfl, hdigest⟩ := rateKey_inj hrule' hrule hkey
    obtain rfl := hvalue hdigest
    rw [if_pos ⟨rfl, rfl⟩] at hmarks
    subst hmarks
    have hcounted : ∀ counter ∈ (openAt (rule'.windowSeconds : ℚ)
        (windows rule'.windowSeconds marks) t).map (counterOf rule'), counter.count ≠ 0 := by
      intro counter hcounter
      obtain ⟨win, hwin, rfl⟩ := Option.map_eq_some_iff.mp hcounter
      exact attempts_ne_zero (mem_of_openAt hwin)
    obtain ⟨hcount, hget⟩ := redisIncrement_nextCounter (h.shows t hle) hcounted hincrement
    rw [nextCounter_eq_counterOf rule' _ t flag] at hcount hget
    constructor
    · intro t' _
      rw [ExpiringStore.liveEntry, hget, filter_entry, windows_cons]
      exact congrArg _ (map_counterOf_filter _ t' (closed_hit _ _ _)).symm
    · rw [windows_cons]
      exact h.within.attempt fun hadm => (hcount.symm.le).trans (hflag hadm)
  · rw [if_neg fun heq => hkey (by rw [heq.1, heq.2])] at hmarks
    subst hmarks
    refine ⟨fun t' hle' => ?_, h.within⟩
    rw [← h.shows t' (hle.trans hle')]
    exact ExpiringStore.liveEntry_congr t' (redisIncrement_other hincrement (Ne.symm hkey))

/-- A Redis without keys has no open window. -/
theorem RedisFollows.emptied {now : ℚ} {redis : Redis} {marks : List (Mark ℚ)}
    (h : RedisFollows rt rule value now redis marks) :
    RedisFollows rt rule value now Dict.empty (.close :: marks) := by
  refine ⟨fun t _ => ?_, ?_⟩
  · rw [windows_cons, mark, openAt_close]
    rfl
  · rw [windows_cons]
    exact h.within.close

/-! ### Every store along a run -/

/-- Is the attempt within its limit? -/
def allowed (_ : ℕ) (rule : RateLimitRule) (answer : Counted) : Bool :=
  decide (answer.count ≤ rule.limit)

/-- All stores are in step with the windows of the value; an attempt counts as admitted when its
    own answer allows it. -/
structure Follows (rt : Runtime) (rule : RateLimitRule) (value : String) (s : FailoverState)
    (history : List FailoverEvent) : Prop where
  redis : RedisFollows rt rule value s.redisNow s.redis
    (redisMarks allowed rule value history)
  maps : ∀ replica, InLimit rt rule value (s.monotonic replica) (s.limiters replica).memory
    (mapAttempts allowed replica history)

/-- The answers a check was given, as it remembers them. -/
def tagged (rt : Runtime) (ip email : String) (counts : List (RateLimitRule × Counted)) :
    List (RateLimitRule × String × Counted) :=
  counts.map fun rc => (rc.1, rc.1.dimension.value rt ip email, rc.2)

/-- A check remembers the answers it was given, one for each rule it is past, and decides on
    them. -/
def CheckState.Accounts (rt : Runtime) (settings : Settings)
    (answers : List (RateLimitRule × String × Counted)) : CheckState → Prop
  | .idle => answers = []
  | .running r =>
      answers = tagged rt r.ip r.email r.counts ∧
        r.counts.map Prod.fst ++ r.pending = settings.rules r.check ∧
        ∀ rc ∈ r.counts, 1 ≤ rc.2.retryAfter
  | .ended check ip email retryAfter =>
      ∃ counts, answers = tagged rt ip email counts ∧ counts.map Prod.fst = settings.rules check ∧
        (∀ rc ∈ counts, 1 ≤ rc.2.retryAfter) ∧ retryAfter = longestRetryAfter counts

/-- Every check accounts for its answers, and every script is one of a rule. -/
structure Accounted (rt : Runtime) (settings : Settings) (s : FailoverState)
    (history : List FailoverEvent) : Prop where
  checks : ∀ id, (s.checks id).Accounts rt settings (answersTo id history)
  scripts : ∀ script ∈ s.abandoned, ∃ check, script.1 ∈ settings.rules check

/-- A rule a check has yet to count is one of its rules. -/
theorem Accounted.mem_rules (h : Accounted rt settings s history) {r : RunningCheck}
    (hrunning : s.checks id = .running r) (hmem : rule ∈ r.pending) :
    rule ∈ settings.rules r.check := by
  have hchecks := h.checks id
  rw [hrunning] at hchecks
  rw [← hchecks.2.1]
  exact List.mem_append_right _ hmem

theorem tagged_append (rt : Runtime) (ip email : String) (counts : List (RateLimitRule × Counted))
    (rule : RateLimitRule) (answer : Counted) :
    tagged rt ip email (counts ++ [(rule, answer)]) =
      tagged rt ip email counts ++ [(rule, rule.dimension.value rt ip email, answer)] :=
  List.map_append

/-- One more answer. -/
theorem Accounts.answered {r : RunningCheck} {rest : List RateLimitRule} {answer : Counted}
    {answers : List (RateLimitRule × String × Counted)}
    (h : (CheckState.running r).Accounts rt settings answers) (hpending : r.pending = rule :: rest)
    (hretry : 1 ≤ answer.retryAfter) :
    (r.answered rule rest answer).Accounts rt settings
      (answers ++ [(rule, r.value rt rule, answer)]) := by
  obtain ⟨hanswers, hrules, hpos⟩ := h
  rw [hpending] at hrules
  have htagged : answers ++ [(rule, r.value rt rule, answer)] =
      tagged rt r.ip r.email (r.counts ++ [(rule, answer)]) := by
    rw [tagged_append, hanswers, RunningCheck.value]
  have hpos' : ∀ rc ∈ r.counts ++ [(rule, answer)], 1 ≤ rc.2.retryAfter := by
    intro rc hrc
    rcases List.mem_append.mp hrc with hrc | hrc
    · exact hpos rc hrc
    · rw [List.mem_singleton.mp hrc]
      exact hretry
  unfold RunningCheck.answered
  cases rest with
  | nil =>
    refine ⟨_, htagged, ?_, hpos', rfl⟩
    rw [List.map_append, ← hrules]
    rfl
  | cons rule₂ rest =>
    refine ⟨htagged, ?_, hpos'⟩
    rw [← hrules, List.map_append, List.append_assoc]
    rfl

/-- A quiet step of a check answers nothing. -/
theorem QuietMove.accounts {k k' : CheckState}
    {answers : List (RateLimitRule × String × Counted)} (hmove : QuietMove settings k k')
    (h : k.Accounts rt settings answers) : k'.Accounts rt settings answers := by
  cases hmove with
  | begin replica check ip email => exact ⟨h, rfl, fun _ hrc => absurd hrc List.not_mem_nil⟩
  | phase r phase => exact h

theorem answersTo_cons_counted (id : ℕ) (source : CountSource) (rule : RateLimitRule)
    (value : String) (t : ℚ) (answer : Counted) (evicted : Option String)
    (history : List FailoverEvent) :
    answersTo id (.counted id source rule value t answer evicted :: history) =
      answersTo id history ++ [(rule, value, answer)] := by
  simp [answersTo, FailoverEvent.answer?]

theorem answersTo_cons_other {id id' : ℕ} (h : id' ≠ id) (source : CountSource)
    (rule : RateLimitRule) (value : String) (t : ℚ) (answer : Counted) (evicted : Option String)
    (history : List FailoverEvent) :
    answersTo id (.counted id' source rule value t answer evicted :: history) =
      answersTo id history := by
  simp [answersTo, FailoverEvent.answer?, h]

/-- A check that is answered accounts for it; the other checks are not concerned. -/
theorem Accounted.answered (h : Accounted rt settings s history) (s' : FailoverState)
    {r : RunningCheck}
    {rest : List RateLimitRule} {answer : Counted} (hrunning : s.checks id = .running r)
    (hpending : r.pending = rule :: rest) (hretry : 1 ≤ answer.retryAfter)
    (habandoned : s'.abandoned = s.abandoned)
    (hchecks : s'.checks = Function.update s.checks id (r.answered rule rest answer))
    (source : CountSource) (t : ℚ) (evicted : Option String) :
    Accounted rt settings s'
      (.counted id source rule (r.value rt rule) t answer evicted :: history) := by
  refine ⟨fun id' => ?_, habandoned ▸ h.scripts⟩
  rw [hchecks]
  by_cases hid : id' = id
  · subst hid
    have hrun := h.checks id'
    rw [hrunning] at hrun
    rw [Function.update_self, answersTo_cons_counted]
    exact Accounts.answered hrun hpending hretry
  · rw [Function.update_of_ne hid, answersTo_cons_other (Ne.symm hid)]
    exact h.checks id'

/-- **Step lemma for the checks.** -/
theorem FailoverMove.accounted (hmove : FailoverMove rt settings s s' es)
    (h : Accounted rt settings s history) : Accounted rt settings s' (es ++ history) := by
  cases hmove with
  | quiet _ _ _ _ habandoned hchecks =>
    refine ⟨fun id => ?_, fun script hscript => ?_⟩
    · rcases hchecks id with heq | hmove
      · exact heq ▸ h.checks id
      · exact hmove.accounts (h.checks id)
    · rcases habandoned script hscript with hold | ⟨id, r, hrunning, hmem⟩
      · exact h.scripts script hold
      · exact ⟨r.check, h.mem_rules hrunning hmem⟩
  | answered hrunning hpending _ hincrement =>
    refine h.answered _ hrunning hpending ?_ ?_ ?_ _ _ _
    · exact retryAfter_of_redisIncrement hincrement
    · rfl
    · rfl
  | late _ hrest _ _ => exact ⟨h.checks, fun script hscript => h.scripts script (hrest _ hscript)⟩
  | counted hrunning hpending _ =>
    refine h.answered _ hrunning hpending ?_ ?_ ?_ _ _ _
    · exact (increment_spec _ _ _ _).2.1
    · rfl
    · rfl
  | emptied => exact ⟨h.checks, h.scripts⟩

theorem ValueUnique.tail (h : ValueUnique rt value (es ++ history)) :
    ValueUnique rt value history :=
  fun e he => h e (List.mem_append_right _ he)

theorem ValueUnique.head {e : FailoverEvent} (h : ValueUnique rt value ([e] ++ history))
    (he : e.value? = some value') : rt.sha256Hex value' = rt.sha256Hex value → value' = value :=
  h e List.mem_cons_self value' he

/-- One more event, for the windows of Redis. -/
theorem redisMarks_cons {e : FailoverEvent} {m : Mark ℚ} (history : List FailoverEvent)
    (h : e.redisMark? admitted rule value =
      if rule' = rule ∧ value' = value then some m else none) :
    redisMarks admitted rule value (e :: history) =
      if rule' = rule ∧ value' = value then m :: redisMarks admitted rule value history
      else redisMarks admitted rule value history := by
  unfold redisMarks
  rw [List.filterMap_cons, h]
  split_ifs <;> rfl

/-- One more event of a replica's own map. -/
theorem mapAttempts_cons_self (admitted : ℕ → RateLimitRule → Counted → Bool)
    (id replica : ℕ) (rule : RateLimitRule) (value : String) (t : ℚ) (answer : Counted)
    (evicted : Option String) (history : List FailoverEvent) :
    mapAttempts admitted replica
        (.counted id (.map replica) rule value t answer evicted :: history) =
      ⟨rule, value, t, evicted, admitted id rule answer⟩ ::
        mapAttempts admitted replica history := by
  simp [mapAttempts, FailoverEvent.attempt?]

/-- One more event of another replica's map. -/
theorem mapAttempts_cons_other {replica replica' : ℕ} (h : replica' ≠ replica)
    (admitted : ℕ → RateLimitRule → Counted → Bool) (id : ℕ) (rule : RateLimitRule)
    (value : String) (t : ℚ) (answer : Counted) (evicted : Option String)
    (history : List FailoverEvent) :
    mapAttempts admitted replica
        (.counted id (.map replica') rule value t answer evicted :: history) =
      mapAttempts admitted replica history := by
  simp [mapAttempts, FailoverEvent.attempt?, h]

/-- **Step lemma for the stores.** -/
theorem FailoverMove.follows (hmove : FailoverMove rt settings s s' es)
    (hrule : rule ∈ settings.rules check) (haccounted : Accounted rt settings s history)
    (hunique : ValueUnique rt value (es ++ history)) (h : Follows rt rule value s history) :
    Follows rt rule value s' (es ++ history) := by
  cases hmove with
  | quiet hredis hclock hlimiters hmonotonic _ _ =>
    constructor
    · rw [hredis]
      exact ⟨fun t hle => h.redis.shows t (hclock.trans hle), h.redis.within⟩
    · intro replica
      rw [hlimiters, hmonotonic]
      exact h.maps replica
  | @answered id r rule' rest t answer redis hrunning hpending hclock hincrement =>
    have hrule' := haccounted.mem_rules hrunning (hpending ▸ List.mem_cons_self)
    refine ⟨?_, h.maps⟩
    exact h.redis.counted (allowed id rule' answer) hrule hrule' (hunique.head rfl) hclock
      hincrement of_decide_eq_true (redisMarks_cons _ (by rfl))
  | @late rule' value' t answer redis _ hscript _ hclock hincrement =>
    -- the answer reaches nobody, so the attempt admits nobody
    obtain ⟨check', hrule'⟩ := haccounted.scripts _ hscript
    refine ⟨?_, h.maps⟩
    exact h.redis.counted false hrule hrule' (hunique.head rfl) hclock hincrement
      (fun hfalse => absurd hfalse Bool.false_ne_true) (redisMarks_cons _ (by rfl))
  | @counted id r rule' rest t hrunning hpending hclock =>
    have hrule' := haccounted.mem_rules hrunning (hpending ▸ List.mem_cons_self)
    refine ⟨h.redis, fun replica => ?_⟩
    show InLimit rt rule value (Function.update s.monotonic r.replica t replica)
      (Function.update s.limiters r.replica _ replica).memory _
    -- the map of one replica counts, those of the others wait
    by_cases hreplica : replica = r.replica
    · subst hreplica
      rw [Function.update_self, Function.update_self]
      have hinLimit := increment_inLimit hrule hrule' (hunique.head rfl) hclock
        (h.maps r.replica) rfl (of_decide_eq_true (p := _ ≤ rule'.limit)) rfl
      exact (mapAttempts_cons_self allowed id r.replica rule' _ t _ _ history).symm ▸ hinLimit
    · rw [Function.update_of_ne hreplica, Function.update_of_ne hreplica]
      exact (mapAttempts_cons_other (Ne.symm hreplica) allowed id rule' _ t _ _ history).symm ▸
        h.maps replica
  | emptied => exact ⟨h.redis.emptied, h.maps⟩

/-! ### Who is let through -/

/-- Who is let through was within the limit of every rule. -/
theorem Accounted.le_limit (h : Accounted rt settings s history) {answer : Counted}
    (hthrough : s.letThrough id = true) (hmem : (rule, value, answer) ∈ answersTo id history) :
    answer.count ≤ rule.limit := by
  have hchecks := h.checks id
  unfold FailoverState.letThrough at hthrough
  split at hthrough
  · rename_i check ip email retryAfter hended
    rw [hended] at hchecks
    obtain ⟨counts, hanswers, -, hpos, rfl⟩ := hchecks
    have hlimit := (longestRetryAfter_eq_zero hpos).mp (of_decide_eq_true hthrough)
    rw [hanswers] at hmem
    obtain ⟨rc, hrc, heq⟩ := List.mem_map.mp hmem
    obtain ⟨rfl, -, rfl⟩ := Prod.mk.injEq .. ▸ heq
    exact hlimit rc hrc
  · exact absurd hthrough Bool.false_ne_true

/-- An answer in the history is one of its check. -/
theorem mem_answersTo {source : CountSource} {t : ℚ} {answer : Counted} {evicted : Option String}
    (h : .counted id source rule value t answer evicted ∈ history) :
    (rule, value, answer) ∈ answersTo id history :=
  List.mem_reverse.mpr (List.mem_filterMap.mpr ⟨_, h, by simp [FailoverEvent.answer?]⟩)

/-- Pointwise comparable marks. -/
theorem forall₂_filterMap_below {α : Type*} {f g : α → Option (Mark ℚ)} {xs : List α}
    (h : ∀ x ∈ xs, Option.Rel Mark.Below (f x) (g x)) :
    List.Forall₂ Mark.Below (xs.filterMap f) (xs.filterMap g) := by
  induction xs with
  | nil => exact .nil
  | cons x xs ih =>
    have hrest := ih fun y hy => h y (List.mem_cons_of_mem x hy)
    have hx := h x List.mem_cons_self
    cases hf : f x with
    | none =>
      rw [hf] at hx
      cases hg : g x with
      | none => rwa [List.filterMap_cons_none hf, List.filterMap_cons_none hg]
      | some _ => exact absurd (hg ▸ hx) (by simp)
    | some m =>
      rw [hf] at hx
      cases hg : g x with
      | none => exact absurd (hg ▸ hx) (by simp)
      | some m' =>
        rw [List.filterMap_cons_some hf, List.filterMap_cons_some hg]
        rw [hg] at hx
        exact .cons (by simpa using hx) hrest

/-- Redis admits no more of those let through than of those within its own limit. -/
theorem Accounted.redisMarks_below (h : Accounted rt settings s history) (rule : RateLimitRule)
    (value : String) :
    List.Forall₂ Mark.Below (redisMarks (fun id _ _ => s.letThrough id) rule value history)
      (redisMarks allowed rule value history) := by
  refine forall₂_filterMap_below fun e he => ?_
  cases e with
  | counted id source rule' value' t answer evicted =>
    cases source with
    | redis =>
      simp only [FailoverEvent.redisMark?]
      split_ifs
      · exact .some (.attempt t fun hthrough =>
          decide_eq_true (h.le_limit hthrough (mem_answersTo he)))
      · exact .none
    | map replica => exact .none
  | unanswered rule' value' t =>
    simp only [FailoverEvent.redisMark?]
    split_ifs
    · exact .some (.attempt t id)
    · exact .none
  | emptied => exact .some .close

/-- So does the map of a replica. -/
theorem Accounted.mapMarks_below (h : Accounted rt settings s history) (rule : RateLimitRule)
    (value : String) (replica : ℕ) :
    List.Forall₂ Mark.Below
      (marksOf rt rule value (mapAttempts (fun id _ _ => s.letThrough id) replica history))
      (marksOf rt rule value (mapAttempts allowed replica history)) := by
  unfold marksOf mapAttempts
  rw [List.filterMap_filterMap, List.filterMap_filterMap]
  refine forall₂_filterMap_below fun e he => ?_
  cases e with
  | counted id source rule' value' t answer evicted =>
    cases source with
    | redis => exact .none
    | map replica' =>
      simp only [FailoverEvent.attempt?]
      split_ifs
      · simp only [Option.bind_some]
        split_ifs
        · exact .some .close
        · simp only [Attempt.mark?]
          split_ifs
          · exact .some (.attempt t fun hthrough =>
              decide_eq_true (h.le_limit hthrough (mem_answersTo he)))
          · exact .none
      · exact .none
  | unanswered rule' value' t => exact .none
  | emptied => exact .none

/-- Along every run the checks account for their answers and the stores follow the windows. -/
theorem failover_invariant (hrule : rule ∈ settings.rules check) (value : String)
    {redisNow : ℚ} {redis : Redis} {monotonic : ℕ → ℚ} {labels : List FailoverLabel}
    {c : Config FailoverState FailoverEvent}
    (hfresh : redis.get? (rateKey rt rule value) = none)
    (hrun : (failoverSystem rt settings).run
      (Config.start (FailoverState.init redisNow redis monotonic)) labels = some c) :
    Accounted rt settings c.state c.history ∧
      (ValueUnique rt value c.history → Follows rt rule value c.state c.history) := by
  refine System.invariant_run _ (I := fun c => Accounted rt settings c.state c.history ∧
    (ValueUnique rt value c.history → Follows rt rule value c.state c.history)) ?_ ?_ hrun
  · rintro c label c' ⟨haccounted, hfollows⟩ hnext
    obtain ⟨es, hstep, hhist⟩ := (failoverSystem rt settings).next_eq_some.mp hnext
    have hmove := failoverStep_move hstep
    rw [hhist]
    exact ⟨hmove.accounted haccounted,
      fun hunique => hmove.follows hrule haccounted hunique (hfollows hunique.tail)⟩
  · refine ⟨⟨fun _ => rfl, fun _ hscript => absurd hscript List.not_mem_nil⟩, fun _ => ?_⟩
    exact ⟨⟨fun t _ => ExpiringStore.liveEntry_eq_none t hfresh, within_nil _⟩,
      fun replica => inLimit_init rt rule value (monotonic replica)⟩

/-- **The limit of the replicas together.** In every run, whenever and wherever Redis is reached,
    answers, stays silent, runs a script late or loses its keys: of the checks that are let through,
    no window of the counter in Redis, which all replicas share, holds more than `limit` that Redis
    answered, and no window of the counter in a replica's map more than `limit` that this map
    answered; and each of them was answered once under every rule of its check, by Redis or by a
    map.  The script of a check that gave up on Redis may run besides. -/
theorem failover_limit (hrule : rule ∈ settings.rules check) (value : String)
    {redisNow : ℚ} {redis : Redis} {monotonic : ℕ → ℚ} {labels : List FailoverLabel}
    {c : Config FailoverState FailoverEvent}
    (hfresh : redis.get? (rateKey rt rule value) = none)
    (hrun : (failoverSystem rt settings).run
      (Config.start (FailoverState.init redisNow redis monotonic)) labels = some c)
    (hunique : ValueUnique rt value c.history) :
    let through := fun id (_ : RateLimitRule) (_ : Counted) => c.state.letThrough id
    (∀ win ∈ windows (rule.windowSeconds : ℚ) (redisMarks through rule value c.history),
        win.admitted ≤ rule.limit) ∧
      (∀ replica, ∀ win ∈ windows (rule.windowSeconds : ℚ)
          (marksOf rt rule value (mapAttempts through replica c.history)),
        win.admitted ≤ rule.limit) ∧
      ∀ id check ip email, c.state.checks id = .ended check ip email 0 →
        (answersTo id c.history).map (fun answer => (answer.1, answer.2.1)) =
          (settings.rules check).map fun rule => (rule, rule.dimension.value rt ip email) := by
  intro through
  obtain ⟨haccounted, hfollows⟩ := failover_invariant hrule value hfresh hrun
  obtain ⟨hredis, hmaps⟩ := hfollows hunique
  refine ⟨fun win hwin => ?_, fun replica win hwin => ?_, fun id check ip email hended => ?_⟩
  · have hbelow := haccounted.redisMarks_below rule value
    exact (hredis.within.of_below (windows_below hbelow) win hwin).2
  · have hbelow := haccounted.mapMarks_below rule value replica
    exact ((hmaps replica).within.of_below (windows_below hbelow) win hwin).2
  · have hchecks := haccounted.checks id
    rw [hended] at hchecks
    obtain ⟨counts, hanswers, hrules, -, -⟩ := hchecks
    rw [hanswers, ← hrules, tagged, List.map_map, List.map_map]
    rfl

/-- Two replicas answer one address; the second loses Redis in the middle of its check, and the
    script it gave up on runs after all. -/
def outageRun : List FailoverLabel :=
  [.begin 0 0 .passwordReset "203.0.113.9" "ana@ouros.app",
    .enter 0, .connect 0 true, .eval 0 0, .enter 0, .eval 0 1,
    .begin 1 1 .passwordReset "203.0.113.9" "rui@ouros.app",
    .enter 1, .connect 1 true, .giveUp 1, .close 1, .count 1 5, .late 0 2, .emptied,
    .enter 1, .connect 1 false, .count 1 6]

theorem failover_limit_outage :
    ∃ c, (failoverSystem .sample (.sample (some "redis://cache:6379/0"))).run
        (Config.start (FailoverState.init 0 Dict.empty fun _ => 0)) outageRun = some c ∧
      let through := fun id (_ : RateLimitRule) (_ : Counted) => c.state.letThrough id
      (∀ win ∈ windows (resetIpRule.windowSeconds : ℚ)
          (redisMarks through resetIpRule "203.0.113.9" c.history),
        win.admitted ≤ resetIpRule.limit) ∧
      (∀ replica, ∀ win ∈ windows (resetIpRule.windowSeconds : ℚ)
          (marksOf .sample resetIpRule "203.0.113.9" (mapAttempts through replica c.history)),
        win.admitted ≤ resetIpRule.limit) ∧
      ∀ id check ip email, c.state.checks id = .ended check ip email 0 →
        (answersTo id c.history).map (fun answer => (answer.1, answer.2.1)) =
          ((Settings.sample (some "redis://cache:6379/0")).rules check).map
            fun rule => (rule, rule.dimension.value .sample ip email) := by
  obtain ⟨c, hc⟩ := Option.isSome_iff_exists.mp (by decide +kernel :
    ((failoverSystem .sample (.sample (some "redis://cache:6379/0"))).run
      (Config.start (FailoverState.init 0 Dict.empty fun _ => 0)) outageRun).isSome = true)
  have hrule : resetIpRule ∈ (Settings.sample (some "redis://cache:6379/0")).rules .passwordReset :=
    by decide
  exact ⟨c, hc, failover_limit hrule "203.0.113.9" rfl hc
    fun _ _ _ _ h => sample_digestCollisionFree h⟩

end OurosAuth
