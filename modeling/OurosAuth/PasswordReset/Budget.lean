import OurosAuth.EmailOtp.ResetRuns
import OurosAuth.PasswordReset.Start
import OurosAuth.RateLimit.Redis
import Mathlib.Algebra.Order.BigOperators.Group.List
import Mathlib.Data.List.Perm.Subperm
import Mathlib.Logic.Function.Basic

namespace OurosAuth

open KeyValue Traced

/-!
# The brute-force budget of a password reset

The routes `start_password_reset` and `verify_password_reset` over one Redis: a start request goes
through its two counters, one command each, and is then answered or rejected; verify requests, the
clock and the deliveries run in between.

A **lifetime** of a counter is named by its deadline: all increments between two expiries of a key
see one deadline.

* `CounterKept` — what a counter says about the requests it counted;
* `StartsKept` — a request that was let through was counted within every limit;
* `reset_budget` — the challenges of the requests of one lifetime are compared with at most
  `5 * max_attempts` submissions.
-/

/-! ### Labels, events and steps -/

/-- Where one start request stands. -/
inductive StartCall
  | idle
  /-- the counters of `counted` were incremented, those of `rest` are still to come -/
  | counting (ip email : String) (counted : List (RateLimitRule × Counted))
      (rest : List RateLimitRule)
  /-- the limiter let the request through -/
  | admitted (email : String)
  | rejected (error : ApiError)
  | answered

/-- The steps of the system. -/
inductive BudgetLabel
  | tick (t : Instant)
  | delivered (challengeId : String) (outcome : Delivery)
  | verify (challengeId email code : String) (readAt : Instant)
  /-- start request `i` arrives -/
  | request (i : ℕ) (ip email : String)
  /-- request `i` increments its next counter -/
  | increment (i : ℕ)
  /-- `start_reset` of request `i`, for which the lookup answered `identities` -/
  | answer (i : ℕ) (identities : List StoredIdentity) (challengeId code : String)
      (readAt : Instant)

/-- What the steps leave in the history. -/
inductive BudgetEvent
  /-- request `i` brought the counter `key` to `count`, in the lifetime that ends at `deadline` -/
  | counted (i : ℕ) (rule : RateLimitRule) (key : String) (deadline : Option ℚ) (count : ℕ)
  /-- request `i` created a challenge -/
  | created (i : ℕ) (challengeId : String)
  | reset (event : ResetEvent)
  deriving DecidableEq

/-- The reset flow and every start request. -/
structure BudgetState where
  otp : OtpState
  starts : ℕ → StartCall

def BudgetState.init (now : Instant) : BudgetState := ⟨OtpState.init now, fun _ => .idle⟩

/-- Move request `i` to `call`. -/
def BudgetState.setStart (s : BudgetState) (i : ℕ) (call : StartCall) : BudgetState :=
  { s with starts := Function.update s.starts i call }

/-- Where a request goes from its last counter. -/
def startVerdict (email : String) (counted : List (RateLimitRule × Counted)) : StartCall :=
  if longestRetryAfter counted = 0 then .admitted email
  else .rejected (.rateLimitExceeded (longestRetryAfter counted))

/-- A step of the reset flow. -/
def BudgetState.background (s : BudgetState) (rt : Runtime) (svc : OtpService) (l : ResetLabel) :
    Option (BudgetState × List BudgetEvent) :=
  (resetStep rt svc s.otp l).map fun r => ({ s with otp := r.1 }, r.2.map .reset)

/-- One step. -/
def budgetStep (rt : Runtime) (svc : OtpService) (s : BudgetState) :
    BudgetLabel → Option (BudgetState × List BudgetEvent)
  | .tick t => s.background rt svc (.tick t)
  | .delivered challengeId outcome => s.background rt svc (.delivered challengeId outcome)
  | .verify challengeId email code readAt =>
      s.background rt svc (.verify challengeId email code readAt)
  | .request i ip email =>
      match s.starts i with
      | .idle => some (s.setStart i (.counting ip email [] passwordResetRules), [])
      | _ => none
  | .increment i =>
      match s.starts i with
      | .counting ip email counted (rule :: rest) =>
        let key := rateKey rt rule (rule.dimension.value rt ip email)
        (redisIncrement s.otp.now.seconds key rule.windowSeconds s.otp.stores.redis).map
          fun (done, redis) =>
            let counted := counted ++ [(rule, done)]
            -- every rule is counted before the longest wait is reported
            let call := if rest = [] then startVerdict email counted
              else .counting ip email counted rest
            ({ s with otp := { s.otp with stores := { s.otp.stores with redis := redis } } }.setStart
                i call,
              [.counted i rule key ((redis.get? key).bind Entry.deadline) done.count])
      | _ => none
  | .answer i identities challengeId code readAt =>
      match s.starts i with
      | .admitted _ =>
        match eligibleIdentity identities with
        -- answered as if there were a challenge
        | none => some (s.setStart i .answered, [])
        | some identity =>
          (s.background rt svc (.start challengeId identity.email identity.accountType.value
            identity.databaseId code readAt)).map fun r =>
              (r.1.setStart i .answered, .created i challengeId :: r.2)
      | _ => none

/-- The system. -/
def budgetSystem (rt : Runtime) (svc : OtpService) :
    Traced.System BudgetState BudgetLabel BudgetEvent := ⟨budgetStep rt svc⟩

variable {rt : Runtime} {svc : OtpService} {s s' : BudgetState} {es h : List BudgetEvent}

@[simp] theorem setStart_otp (s : BudgetState) (i : ℕ) (call : StartCall) :
    (s.setStart i call).otp = s.otp := rfl

@[simp] theorem setStart_self (s : BudgetState) (i : ℕ) (call : StartCall) :
    (s.setStart i call).starts i = call := Function.update_self ..

theorem setStart_ne (s : BudgetState) {i j : ℕ} (call : StartCall) (hne : j ≠ i) :
    (s.setStart i call).starts j = s.starts j := Function.update_of_ne hne ..

/-! ### What one step can do -/

theorem background_eq_some {l : ResetLabel} (hstep : s.background rt svc l = some (s', es)) :
    ∃ otp res, resetStep rt svc s.otp l = some (otp, res) ∧ s' = { s with otp := otp } ∧
      es = res.map .reset := by
  obtain ⟨⟨otp, res⟩, hreset, heq⟩ := Option.map_eq_some_iff.mp hstep
  obtain ⟨rfl, rfl⟩ := Prod.mk.inj heq
  exact ⟨otp, res, hreset, rfl, rfl⟩

theorem budgetStep_request {i : ℕ} {ip email : String}
    (hstep : budgetStep rt svc s (.request i ip email) = some (s', es)) :
    s.starts i = .idle ∧ s' = s.setStart i (.counting ip email [] passwordResetRules) ∧
      es = [] := by
  simp only [budgetStep] at hstep
  split at hstep
  · rename_i hidle
    rw [Option.some.injEq, Prod.mk.injEq] at hstep
    exact ⟨hidle, hstep.1.symm, hstep.2.symm⟩
  · exact absurd hstep (by simp)

/-- An increment counts the request, and decides it after its last counter. -/
theorem budgetStep_increment {i : ℕ} (hstep : budgetStep rt svc s (.increment i) = some (s', es)) :
    ∃ ip email counted rule rest done redis,
      s.starts i = .counting ip email counted (rule :: rest) ∧
      redisIncrement s.otp.now.seconds (rateKey rt rule (rule.dimension.value rt ip email))
        rule.windowSeconds s.otp.stores.redis = some (done, redis) ∧
      s' = { s with otp := { s.otp with stores := { s.otp.stores with redis := redis } } }.setStart i
        (if rest = [] then startVerdict email (counted ++ [(rule, done)])
          else .counting ip email (counted ++ [(rule, done)]) rest) ∧
      es = [.counted i rule (rateKey rt rule (rule.dimension.value rt ip email))
        ((redis.get? (rateKey rt rule (rule.dimension.value rt ip email))).bind Entry.deadline)
        done.count] := by
  simp only [budgetStep] at hstep
  split at hstep
  · rename_i ip email counted rule rest hcall
    obtain ⟨⟨done, redis⟩, hincr, heq⟩ := Option.map_eq_some_iff.mp hstep
    obtain ⟨rfl, rfl⟩ := Prod.mk.inj heq
    exact ⟨ip, email, counted, rule, rest, done, redis, hcall, hincr, rfl, rfl⟩
  · exact absurd hstep (by simp)

/-- A request that was let through is answered with a challenge it created, or without one. -/
theorem budgetStep_answer {i : ℕ} {identities : List StoredIdentity} {challengeId code : String}
    {readAt : Instant}
    (hstep : budgetStep rt svc s (.answer i identities challengeId code readAt) = some (s', es)) :
    ∃ email, s.starts i = .admitted email ∧
      ((s' = s.setStart i .answered ∧ es = []) ∨
        ∃ l otp res, resetStep rt svc s.otp l = some (otp, res) ∧
          s' = { s with otp := otp }.setStart i .answered ∧
          es = .created i challengeId :: res.map .reset) := by
  simp only [budgetStep] at hstep
  split at hstep
  · rename_i email hcall
    refine ⟨email, hcall, ?_⟩
    split at hstep
    · rw [Option.some.injEq, Prod.mk.injEq] at hstep
      exact Or.inl ⟨hstep.1.symm, hstep.2.symm⟩
    · obtain ⟨⟨s₁, es₁⟩, hback, heq⟩ := Option.map_eq_some_iff.mp hstep
      obtain ⟨rfl, rfl⟩ := Prod.mk.inj heq
      obtain ⟨otp, res, hreset, rfl, rfl⟩ := background_eq_some hback
      exact Or.inr ⟨_, otp, res, hreset, rfl, rfl⟩
  · exact absurd hstep (by simp)

/-! ### Reading the history -/

/-- The events of the reset flow. -/
def resetEvents (h : List BudgetEvent) : List ResetEvent :=
  h.filterMap fun e =>
    match e with
    | .reset event => some event
    | _ => none

/-- The requests a lifetime of a counter counted within the limit. -/
def ticketsOf (key : String) (deadline : Option ℚ) (h : List BudgetEvent) : List ℕ :=
  h.filterMap fun e =>
    match e with
    | .counted i rule key' deadline' count =>
        if key' = key ∧ deadline' = deadline ∧ count ≤ rule.limit then some i else none
    | _ => none

/-- Did a lifetime of a counter count the request? -/
def countedIn (key : String) (deadline : Option ℚ) (h : List BudgetEvent) (i : ℕ) : Bool :=
  h.any fun e =>
    match e with
    | .counted j _ key' deadline' _ => j = i && key' = key && deadline' = deadline
    | _ => false

/-- The challenges created, with the request each is from. -/
def creations (h : List BudgetEvent) : List (ℕ × String) :=
  h.filterMap fun e =>
    match e with
    | .created i challengeId => some (i, challengeId)
    | _ => none

/-- The challenges created by the requests a lifetime of a counter counted. -/
def challengesIn (key : String) (deadline : Option ℚ) (h : List BudgetEvent) : List String :=
  ((creations h).filter fun creation => countedIn key deadline h creation.1).map Prod.snd

/-- How many submissions were compared with one of them. -/
def comparedIn (key : String) (deadline : Option ℚ) (h : List BudgetEvent) : ℕ :=
  ((challengesIn key deadline h).map fun challengeId =>
    comparedVerifies challengeId (resetEvents h)).sum

@[simp] theorem resetEvents_counted (i : ℕ) (rule : RateLimitRule) (key : String)
    (deadline : Option ℚ) (count : ℕ) (h : List BudgetEvent) :
    resetEvents (.counted i rule key deadline count :: h) = resetEvents h := rfl

@[simp] theorem resetEvents_created (i : ℕ) (challengeId : String) (h : List BudgetEvent) :
    resetEvents (.created i challengeId :: h) = resetEvents h := rfl

theorem resetEvents_append (res : List ResetEvent) (h : List BudgetEvent) :
    resetEvents (res.map .reset ++ h) = res ++ resetEvents h := by
  induction res with
  | nil => rfl
  | cons e res ih => exact congrArg (e :: ·) ih

/-- Events of the flow and creations count no request. -/
theorem ticketsOf_append (key : String) (deadline : Option ℚ) (res : List ResetEvent)
    (h : List BudgetEvent) :
    ticketsOf key deadline (res.map .reset ++ h) = ticketsOf key deadline h := by
  induction res with
  | nil => rfl
  | cons e res ih => exact ih

theorem creations_append (res : List ResetEvent) (h : List BudgetEvent) :
    creations (res.map .reset ++ h) = creations h := by
  induction res with
  | nil => rfl
  | cons e res ih => exact ih

theorem mem_ticketsOf {key : String} {deadline : Option ℚ} {i : ℕ} :
    i ∈ ticketsOf key deadline h ↔
      ∃ rule count, .counted i rule key deadline count ∈ h ∧ count ≤ rule.limit := by
  unfold ticketsOf
  rw [List.mem_filterMap]
  constructor
  · rintro ⟨e, he, heq⟩
    cases e with
    | counted j rule key' deadline' count =>
      simp only [Option.ite_none_right_eq_some, Option.some.injEq] at heq
      obtain ⟨⟨rfl, rfl, hle⟩, rfl⟩ := heq
      exact ⟨rule, count, he, hle⟩
    | created _ _ => exact absurd heq (by simp)
    | reset _ => exact absurd heq (by simp)
  · rintro ⟨rule, count, hmem, hle⟩
    exact ⟨_, hmem, by simp [hle]⟩

theorem countedIn_iff {key : String} {deadline : Option ℚ} {i : ℕ} :
    countedIn key deadline h i = true ↔ ∃ rule count, .counted i rule key deadline count ∈ h := by
  unfold countedIn
  rw [List.any_eq_true]
  constructor
  · rintro ⟨e, he, heq⟩
    cases e with
    | counted j rule key' deadline' count =>
      simp only [Bool.and_eq_true, decide_eq_true_eq] at heq
      obtain ⟨⟨rfl, rfl⟩, rfl⟩ := heq
      exact ⟨rule, count, he⟩
    | created _ _ => exact absurd heq (by simp)
    | reset _ => exact absurd heq (by simp)
  · rintro ⟨rule, count, hmem⟩
    exact ⟨_, hmem, by simp⟩

theorem mem_creations {i : ℕ} {challengeId : String} :
    (i, challengeId) ∈ creations h ↔ .created i challengeId ∈ h := by
  unfold creations
  rw [List.mem_filterMap]
  constructor
  · rintro ⟨e, he, heq⟩
    cases e with
    | created j c =>
      obtain ⟨rfl, rfl⟩ := Prod.mk.inj (Option.some.inj heq)
      exact he
    | counted _ _ _ _ _ => exact absurd heq (by simp)
    | reset _ => exact absurd heq (by simp)
  · intro hmem
    exact ⟨_, hmem, rfl⟩

/-! ### The counters -/

/-- What a counter says about the requests it counted: those within the limit are no more than the
    limit, in any lifetime, and no more than the counter, in the present one. -/
structure CounterKept (key : String) (limit : ℕ) (redis : Redis) (h : List BudgetEvent) : Prop where
  absent : redis.get? key = none → ∀ i rule d n, .counted i rule key d n ∉ h
  present : ∀ e, redis.get? key = some e → ∃ n d, e = ⟨.counter n, some d⟩ ∧ n ≠ 0 ∧
    (ticketsOf key (some d) h).length ≤ n ∧
    ∀ i rule d' m, .counted i rule key d' m ∈ h → ∃ q, d' = some q ∧ q ≤ d
  limited : ∀ d, (ticketsOf key d h).length ≤ limit

theorem counterKept_init (key : String) (limit : ℕ) (now : Instant) :
    CounterKept key limit (OtpState.init now).stores.redis [] where
  absent := by simp
  present := by simp [OtpState.init, OtpStores.empty]
  limited := by simp [ticketsOf]

variable {key : String} {limit : ℕ} {redis redis' : Redis}

/-- Steps that leave the counter alone and count nothing keep what it says. -/
theorem CounterKept.frame {h' : List BudgetEvent} (hkept : CounterKept key limit redis h)
    (hredis : redis'.get? key = redis.get? key)
    (hcounted : ∀ i rule d n, .counted i rule key d n ∈ h' ↔ .counted i rule key d n ∈ h)
    (htickets : ∀ d, ticketsOf key d h' = ticketsOf key d h) : CounterKept key limit redis' h' where
  absent := fun hnone i rule d n hmem =>
    hkept.absent (hredis ▸ hnone) i rule d n ((hcounted i rule d n).mp hmem)
  present := fun e he => by
    obtain ⟨n, d, rfl, hn, hlen, hlater⟩ := hkept.present e (hredis ▸ he)
    exact ⟨n, d, rfl, hn, by rwa [htickets],
      fun i rule d' m hmem => hlater i rule d' m ((hcounted i rule d' m).mp hmem)⟩
  limited := fun d => by rw [htickets]; exact hkept.limited d

theorem ticketsOf_counted (i : ℕ) (rule : RateLimitRule) (d d' : Option ℚ) (n : ℕ) :
    ticketsOf key d (.counted i rule key d' n :: h) =
      if d' = d ∧ n ≤ rule.limit then i :: ticketsOf key d h else ticketsOf key d h := by
  unfold ticketsOf
  rw [List.filterMap_cons]
  by_cases hticket : d' = d ∧ n ≤ rule.limit
  · simp [hticket]
  · simp [hticket]

/-- **Step lemma for a counter.** An increment opens a new lifetime, or adds one to the present
    count. -/
theorem CounterKept.increment {i : ℕ} {rule : RateLimitRule} {t : ℚ} {done : Counted}
    (hkept : CounterKept key rule.limit redis h) (hwindow : 0 < rule.windowSeconds)
    (hincr : redisIncrement t key rule.windowSeconds redis = some (done, redis')) :
    CounterKept key rule.limit redis'
      (.counted i rule key ((redis'.get? key).bind Entry.deadline) done.count :: h) := by
  cases hlive : redis.liveEntry t key with
  | none =>
    obtain ⟨hcount, hself⟩ :=
      redisIncrement_fresh (ExpiringStore.get_of_liveEntry_none hlive) hincr
    -- every earlier lifetime is over
    have hpast : ∀ j rule' d n, .counted j rule' key d n ∈ h → ∃ q, d = some q ∧ q ≤ t := by
      intro j rule' d n hmem
      cases he : redis.get? key with
      | none => exact absurd hmem (hkept.absent he j rule' d n)
      | some e =>
        obtain ⟨m, d₀, rfl, -, -, hlater⟩ := hkept.present e he
        obtain ⟨q, rfl, hq⟩ := hlater j rule' d n hmem
        have hdead : ¬ t < d₀ := by
          intro hlt
          have halive : Entry.alive (⟨.counter m, some d₀⟩ : Entry RedisValue) t = true :=
            decide_eq_true hlt
          rw [ExpiringStore.liveEntry_of_alive he halive] at hlive
          exact absurd hlive (by simp)
        exact ⟨q, rfl, hq.trans (not_lt.mp hdead)⟩
    have hempty : ticketsOf key (some (t + rule.windowSeconds)) h = [] := by
      refine List.eq_nil_iff_forall_not_mem.mpr fun j hj => ?_
      obtain ⟨rule', n, hmem, -⟩ := mem_ticketsOf.mp hj
      obtain ⟨q, hq, hle⟩ := hpast j rule' _ n hmem
      have hpos : (0 : ℚ) < rule.windowSeconds := by exact_mod_cast hwindow
      rw [← Option.some.inj hq] at hle
      linarith
    rw [hself, hcount]
    constructor
    case absent => intro hnone; rw [hself] at hnone; exact absurd hnone (by simp)
    case present =>
      intro e he
      obtain rfl := Option.some.inj (hself.symm.trans he)
      refine ⟨1, t + rule.windowSeconds, rfl, one_ne_zero, ?_, ?_⟩
      · rw [ticketsOf_counted, hempty]
        split_ifs <;> simp
      · intro j rule' d' m hmem
        rcases List.mem_cons.mp hmem with heq | hmem
        · cases heq
          exact ⟨_, rfl, le_rfl⟩
        · obtain ⟨q, rfl, hq⟩ := hpast j rule' d' m hmem
          have hpos : (0 : ℚ) < rule.windowSeconds := by exact_mod_cast hwindow
          exact ⟨q, rfl, by linarith⟩
    case limited =>
      intro d
      rw [ticketsOf_counted]
      split_ifs with hticket
      · obtain ⟨rfl, hle⟩ := hticket
        show (_ :: ticketsOf key (some (t + rule.windowSeconds)) h).length ≤ rule.limit
        rw [hempty]
        exact hle
      · exact hkept.limited d
  | some e =>
    obtain ⟨he, -⟩ := Option.filter_eq_some_iff.mp hlive
    obtain ⟨n, d₀, rfl, hn, hlen, hlater⟩ := hkept.present e he
    obtain ⟨hcount, hself⟩ := redisIncrement_counted hlive hn hincr
    rw [hself, hcount]
    constructor
    case absent => intro hnone; rw [hself] at hnone; exact absurd hnone (by simp)
    case present =>
      intro e' he'
      obtain rfl := Option.some.inj (hself.symm.trans he')
      refine ⟨n + 1, d₀, rfl, by omega, ?_, ?_⟩
      · rw [ticketsOf_counted]
        split_ifs
        · exact Nat.succ_le_succ hlen
        · omega
      · intro j rule' d' m hmem
        rcases List.mem_cons.mp hmem with heq | hmem
        · cases heq
          exact ⟨_, rfl, le_rfl⟩
        · exact hlater j rule' d' m hmem
    case limited =>
      intro d
      rw [ticketsOf_counted]
      split_ifs with hticket
      · obtain ⟨rfl, hle⟩ := hticket
        exact (Nat.succ_le_succ hlen).trans hle
      · exact hkept.limited d

/-! ### The requests -/

/-- What the state of a request says about an increment of its own. -/
def StartCall.Counts (rule : RateLimitRule) (n : ℕ) : StartCall → Prop
  | .idle => False
  | .counting _ _ counted _ => ∃ retryAfter, (rule, ⟨n, retryAfter⟩) ∈ counted
  | .admitted _ => n ≤ rule.limit
  | .rejected _ => True
  | .answered => n ≤ rule.limit

/-- Requests are let through only within every limit, and create one challenge at most. -/
structure StartsKept (starts : ℕ → StartCall) (h : List BudgetEvent) : Prop where
  counts : ∀ i rule key d n, .counted i rule key d n ∈ h → (starts i).Counts rule n
  created : ∀ i challengeId, .created i challengeId ∈ h → starts i = .answered
  once : ((creations h).map Prod.fst).Nodup
  counting : ∀ i ip email counted rest, starts i = .counting ip email counted rest →
    (∀ rc ∈ counted, 1 ≤ rc.2.retryAfter) ∧ ∀ rule ∈ rest, rule ∈ passwordResetRules

theorem startsKept_init (now : Instant) : StartsKept (BudgetState.init now).starts [] where
  counts := by simp
  created := by simp
  once := by simp [creations]
  counting := by simp [BudgetState.init]

/-- Events of the flow say nothing about the requests. -/
theorem StartsKept.append (hkept : StartsKept s.starts h) (res : List ResetEvent) :
    StartsKept s.starts (res.map .reset ++ h) where
  counts := fun i rule key d n hmem => hkept.counts i rule key d n (by simpa using hmem)
  created := fun i challengeId hmem => hkept.created i challengeId (by simpa using hmem)
  once := by
    rw [creations_append]
    exact hkept.once
  counting := hkept.counting

/-- A request moves on. -/
theorem StartsKept.move {i : ℕ} {call : StartCall} (hkept : StartsKept s.starts h)
    (hcounts : ∀ rule n, (s.starts i).Counts rule n → call.Counts rule n)
    (hopen : s.starts i ≠ .answered)
    (hcounting : ∀ ip email counted rest, call = .counting ip email counted rest →
      (∀ rc ∈ counted, 1 ≤ rc.2.retryAfter) ∧ ∀ rule ∈ rest, rule ∈ passwordResetRules) :
    StartsKept (s.setStart i call).starts h where
  counts := fun j rule key d n hmem => by
    have hold := hkept.counts j rule key d n hmem
    by_cases hj : j = i
    · subst hj
      rw [setStart_self]
      exact hcounts rule n hold
    · rwa [setStart_ne s call hj]
  created := fun j challengeId hmem => by
    have hold := hkept.created j challengeId hmem
    by_cases hj : j = i
    · exact absurd (hj ▸ hold) hopen
    · rwa [setStart_ne s call hj]
  once := hkept.once
  counting := fun j ip email counted rest hj => by
    by_cases hji : j = i
    · subst hji
      rw [setStart_self] at hj
      exact hcounting ip email counted rest hj
    · rw [setStart_ne s call hji] at hj
      exact hkept.counting j ip email counted rest hj

/-- An increment is remembered until the request is decided, and then it was within the limit or
    the request is rejected. -/
theorem StartsKept.increment {i : ℕ} {ip email key : String}
    {counted : List (RateLimitRule × Counted)}
    {rule : RateLimitRule} {rest : List RateLimitRule} {done : Counted} {d : Option ℚ}
    (hkept : StartsKept s.starts h) (hcall : s.starts i = .counting ip email counted (rule :: rest))
    (hretry : 1 ≤ done.retryAfter) :
    StartsKept (s.setStart i (if rest = [] then startVerdict email (counted ++ [(rule, done)])
        else .counting ip email (counted ++ [(rule, done)]) rest)).starts
      (.counted i rule key d done.count :: h) := by
  obtain ⟨hwaits, hrules⟩ := hkept.counting i ip email counted (rule :: rest) hcall
  have hwaits' : ∀ rc ∈ counted ++ [(rule, done)], 1 ≤ rc.2.retryAfter := by
    intro rc hrc
    rcases List.mem_append.mp hrc with hrc | hrc
    · exact hwaits rc hrc
    · rw [List.mem_singleton.mp hrc]
      exact hretry
  -- what the new state says about every increment the request remembers
  have hcounts : ∀ rule' n, (∃ retryAfter, (rule', ⟨n, retryAfter⟩) ∈ counted ++ [(rule, done)]) →
      (if rest = [] then startVerdict email (counted ++ [(rule, done)])
        else .counting ip email (counted ++ [(rule, done)]) rest).Counts rule' n := by
    rintro rule' n ⟨retryAfter, hmem⟩
    split_ifs
    · unfold startVerdict
      split_ifs with hzero
      · exact (longestRetryAfter_eq_zero hwaits').mp hzero _ hmem
      · trivial
    · exact ⟨retryAfter, hmem⟩
  have hmoved : StartsKept (s.setStart i (if rest = [] then
      startVerdict email (counted ++ [(rule, done)])
        else .counting ip email (counted ++ [(rule, done)]) rest)).starts h := by
    refine hkept.move (fun rule' n hold => hcounts rule' n ?_) (by simp [hcall]) ?_
    · rw [hcall] at hold
      obtain ⟨retryAfter, hmem⟩ := hold
      exact ⟨retryAfter, List.mem_append_left _ hmem⟩
    · intro ip' email' counted' rest' heq
      split_ifs at heq
      · unfold startVerdict at heq
        split_ifs at heq
      · cases heq
        exact ⟨hwaits', fun rule' hrule' => hrules rule' (List.mem_cons_of_mem _ hrule')⟩
  refine { hmoved with counts := fun j rule' key' d' n hmem => ?_, created := ?_ }
  · rcases List.mem_cons.mp hmem with heq | hmem
    · cases heq
      rw [setStart_self]
      exact hcounts rule done.count ⟨done.retryAfter, by simp⟩
    · exact hmoved.counts j rule' key' d' n hmem
  · intro j challengeId hmem
    exact hmoved.created j challengeId (by simpa using hmem)

/-- A request that was let through creates its challenge. -/
theorem StartsKept.create {i : ℕ} {email challengeId : String} (hkept : StartsKept s.starts h)
    (hcall : s.starts i = .admitted email) :
    StartsKept (s.setStart i .answered).starts (.created i challengeId :: h) := by
  have hmoved : StartsKept (s.setStart i .answered).starts h := by
    refine hkept.move (fun rule n hold => ?_) (by simp [hcall]) (by simp)
    rw [hcall] at hold
    exact hold
  refine { hmoved with counts := ?_, created := fun j c hmem => ?_, once := ?_ }
  · intro j rule key d n hmem
    exact hmoved.counts j rule key d n (by simpa using hmem)
  · rcases List.mem_cons.mp hmem with heq | hmem
    · cases heq
      rw [setStart_self]
    · exact hmoved.created j c hmem
  · show ((i, challengeId) :: creations h |>.map Prod.fst).Nodup
    rw [List.map_cons, List.nodup_cons]
    refine ⟨fun hmem => ?_, hkept.once⟩
    obtain ⟨⟨j, c⟩, hcreation, rfl⟩ := List.mem_map.mp hmem
    have hanswered := hkept.created j c (mem_creations.mp hcreation)
    rw [hcall] at hanswered
    exact absurd hanswered (by simp)

/-! ### Whole runs -/

/-- The key of the counter `password-reset-email-15min` of an e-mail. -/
def resetEmailKey (rt : Runtime) (email : String) : String :=
  rateKey rt resetEmailRule (rt.normalizeEmail email)

/-- What the budget rests on. -/
structure BudgetKept (rt : Runtime) (svc : OtpService) (key : String) (s : BudgetState)
    (h : List BudgetEvent) : Prop where
  safe : ResetSafe rt svc s.otp (resetEvents h)
  counter : CounterKept key resetEmailRule.limit s.otp.stores.redis h
  starts : StartsKept s.starts h

/-- A step of the reset flow keeps all three. -/
theorem BudgetKept.background {email : String} {otp : OtpState} {l : ResetLabel}
    {res : List ResetEvent} (hkept : BudgetKept rt svc (resetEmailKey rt email) s h)
    (hreset : resetStep rt svc s.otp l = some (otp, res)) :
    BudgetKept rt svc (resetEmailKey rt email) { s with otp := otp } (res.map .reset ++ h) where
  safe := by
    rw [resetEvents_append]
    exact resetSafe_step hkept.safe hreset
  counter := by
    have hredis := resetStep_redis
      (fun challengeId => rateKey_ne_redisKey rt resetEmailRule (rt.normalizeEmail email) .reset
        challengeId) hreset
    exact hkept.counter.frame hredis (by simp) fun d => ticketsOf_append _ d res h
  starts := hkept.starts.append res

/-- An increment keeps all three. -/
theorem BudgetKept.increment {email : String} {i : ℕ}
    (hkept : BudgetKept rt svc (resetEmailKey rt email) s h)
    (hstep : budgetStep rt svc s (.increment i) = some (s', es)) :
    BudgetKept rt svc (resetEmailKey rt email) s' (es ++ h) := by
  obtain ⟨ip, email', counted, rule, rest, done, redis, hcall, hincr, rfl, rfl⟩ :=
    budgetStep_increment hstep
  have hrule : rule ∈ passwordResetRules :=
    (hkept.starts.counting i ip email' counted _ hcall).2 rule List.mem_cons_self
  have hwindow : 0 < rule.windowSeconds := by
    rcases List.mem_cons.mp hrule with rfl | hrule
    · decide
    · rw [List.mem_singleton.mp hrule]
      decide
  constructor
  case safe =>
    -- the records of the challenges have other keys
    refine hkept.safe.frame (fun challengeId r hr => ?_) (fun _ hmem => hmem)
    rw [setStart_otp] at hr
    by_cases hredis : svc.usesRedis = true
    · have hkey : storeKey svc .reset challengeId = redisKey .reset challengeId := if_pos hredis
      have hne := (rateKey_ne_redisKey rt rule (rule.dimension.value rt ip email') .reset
        challengeId).symm
      unfold OtpStores.record? at hr ⊢
      rwa [hkey, recordAt_redis_congr (redisIncrement_other hincr hne), ← hkey] at hr
    · unfold OtpStores.record? OtpStores.recordAt at hr ⊢
      simpa only [hredis, Bool.false_eq_true, if_false] using hr
  case counter =>
    by_cases hkey : rateKey rt rule (rule.dimension.value rt ip email') = resetEmailKey rt email
    · have hsame : rule = resetEmailRule := by
        have hmem : resetEmailRule ∈ (Settings.sample none).rules .passwordReset := by decide
        have hmem' : rule ∈ (Settings.sample none).rules .passwordReset := hrule
        exact (rateKey_inj hmem' hmem hkey).1
      subst hsame
      rw [hkey] at hincr ⊢
      exact hkept.counter.increment hwindow hincr
    · refine hkept.counter.frame (redisIncrement_other hincr (Ne.symm hkey)) ?_ ?_
      · simp [Ne.symm hkey]
      · intro d
        exact List.filterMap_cons_none (by simp [hkey])
  case starts => exact hkept.starts.increment hcall (retryAfter_of_redisIncrement hincr)

/-- **Step lemma for the budget.** -/
theorem budgetKept_step {email : String} {l : BudgetLabel}
    (hkept : BudgetKept rt svc (resetEmailKey rt email) s h)
    (hstep : budgetStep rt svc s l = some (s', es)) :
    BudgetKept rt svc (resetEmailKey rt email) s' (es ++ h) := by
  -- only `increment` and `answer` of a request move the counter and the list of challenges
  cases l with
  | tick t =>
    obtain ⟨otp, res, hreset, rfl, rfl⟩ := background_eq_some hstep
    exact hkept.background hreset
  | delivered challengeId outcome =>
    obtain ⟨otp, res, hreset, rfl, rfl⟩ := background_eq_some hstep
    exact hkept.background hreset
  | verify challengeId email' code readAt =>
    obtain ⟨otp, res, hreset, rfl, rfl⟩ := background_eq_some hstep
    exact hkept.background hreset
  | request i ip email' =>
    obtain ⟨hidle, rfl, rfl⟩ := budgetStep_request hstep
    refine ⟨hkept.safe, hkept.counter, hkept.starts.move (fun rule n hold => ?_)
      (by simp [hidle]) ?_⟩
    · rw [hidle] at hold
      exact hold.elim
    · intro ip' email'' counted rest heq
      cases heq
      exact ⟨by simp, fun rule hrule => hrule⟩
  | increment i => exact hkept.increment hstep
  | answer i identities challengeId code readAt =>
    obtain ⟨email', hcall, hcase⟩ := budgetStep_answer hstep
    rcases hcase with ⟨rfl, rfl⟩ | ⟨l, otp, res, hreset, rfl, rfl⟩
    · refine ⟨hkept.safe, hkept.counter, hkept.starts.move (fun rule n hold => ?_) (by simp [hcall])
        (by simp)⟩
      rw [hcall] at hold
      exact hold
    · obtain ⟨hsafe, hcounter, hstarts⟩ := hkept.background hreset
      exact ⟨hsafe, hcounter.frame rfl (by simp) (fun _ => rfl), hstarts.create hcall⟩

/-- A lifetime of a counter admits requests for at most `limit` challenges. -/
theorem BudgetKept.challengesIn_length (hkept : BudgetKept rt svc key s h) (deadline : Option ℚ) :
    (challengesIn key deadline h).length ≤ resetEmailRule.limit := by
  have hnodup : (((creations h).filter fun creation =>
      countedIn key deadline h creation.1).map Prod.fst).Nodup :=
    hkept.starts.once.sublist (List.filter_sublist.map _)
  have hsub : ((creations h).filter fun creation =>
      countedIn key deadline h creation.1).map Prod.fst ⊆ ticketsOf key deadline h := by
    intro i hi
    obtain ⟨⟨j, challengeId⟩, hmem, rfl⟩ := List.mem_map.mp hi
    obtain ⟨hcreation, hcounted⟩ := List.mem_filter.mp hmem
    obtain ⟨rule, n, hevent⟩ := countedIn_iff.mp hcounted
    have hanswered := hkept.starts.created j challengeId (mem_creations.mp hcreation)
    have hcounts := hkept.starts.counts j rule key deadline n hevent
    rw [hanswered] at hcounts
    exact mem_ticketsOf.mpr ⟨rule, n, hevent, hcounts⟩
  have hlength := (hnodup.subperm hsub).length_le
  rw [List.length_map] at hlength
  rw [challengesIn, List.length_map]
  exact hlength.trans (hkept.counter.limited deadline)

/-- **The brute-force budget.** In every run, for every e-mail and every lifetime of its counter:
    the challenges created by the start requests counted in that lifetime are compared with at
    most `5 * max_attempts` submissions. -/
theorem reset_budget {now : Instant} {ls : List BudgetLabel} {c : Config BudgetState BudgetEvent}
    (hrun : (budgetSystem rt svc).run (Config.start (BudgetState.init now)) ls = some c)
    (email : String) (deadline : Option ℚ) :
    comparedIn (resetEmailKey rt email) deadline c.history ≤ 5 * svc.maxAttempts := by
  have hkept : BudgetKept rt svc (resetEmailKey rt email) c.state c.history := by
    refine (budgetSystem rt svc).invariant_run
      (I := fun c => BudgetKept rt svc (resetEmailKey rt email) c.state c.history)
      (fun d l d' hd hnext => ?_)
      ⟨resetSafe_init now, counterKept_init _ _ now, startsKept_init now⟩ hrun
    obtain ⟨es, hstep, hhist⟩ := (budgetSystem rt svc).next_eq_some.mp hnext
    rw [hhist]
    exact budgetKept_step hd hstep
  have hsum : comparedIn (resetEmailKey rt email) deadline c.history ≤
      (challengesIn (resetEmailKey rt email) deadline c.history).length * svc.maxAttempts := by
    refine (List.sum_le_card_nsmul _ svc.maxAttempts fun n hn => ?_).trans_eq ?_
    · obtain ⟨challengeId, -, rfl⟩ := List.mem_map.mp hn
      exact hkept.safe.budget challengeId
    · rw [List.length_map]
      rfl
  exact hsum.trans (Nat.mul_le_mul_right _ (hkept.challengesIn_length deadline))

/-- The error a request ends with. -/
def StartCall.error? : StartCall → Option ApiError
  | .rejected e => some e
  | _ => none

/-- Four start requests from one address, that increment the counters in turn; two of them get a
    challenge, and there is a wrong code for each. -/
def sampleRequests : List BudgetLabel :=
  (List.range 4).map (fun i => .request i "203.0.113.7" "ana@ouros.app") ++
    (List.range 4).map .increment ++ (List.range 4).map .increment ++
    [.answer 1 [sampleIdentity] sampleToken "123456" sampleNow,
      .verify sampleToken "ana@ouros.app" "000000" sampleNow,
      .answer 0 [sampleIdentity] sampleOtherToken "654321" sampleNow, .delivered sampleToken .sent,
      .verify sampleOtherToken "ana@ouros.app" "000000" sampleNow]

/-- The fourth request is rejected, and the lifetime that counts the others has spent two
    submissions of its budget. -/
theorem reset_budget_sample :
    ∃ c, (budgetSystem Runtime.sample (OtpService.sample true)).run
        (Config.start (BudgetState.init sampleNow)) sampleRequests = some c ∧
      (c.state.starts 3).error? = some (.rateLimitExceeded 60) ∧
      comparedIn (resetEmailKey Runtime.sample "ana@ouros.app") (some 1700000900) c.history = 2 ∧
      comparedIn (resetEmailKey Runtime.sample "ana@ouros.app") (some 1700000900) c.history ≤
        5 * (OtpService.sample true).maxAttempts := by
  obtain ⟨c, hrun, hout⟩ := Option.map_eq_some_iff.mp
    (by decide +kernel : ((budgetSystem Runtime.sample (OtpService.sample true)).run
        (Config.start (BudgetState.init sampleNow)) sampleRequests).map (fun c =>
          ((c.state.starts 3).error?,
            comparedIn (resetEmailKey Runtime.sample "ana@ouros.app") (some 1700000900)
              c.history)) = some (some (.rateLimitExceeded 60), 2))
  obtain ⟨hrejected, hspent⟩ := Prod.mk.inj hout
  exact ⟨c, hrun, hrejected, hspent, reset_budget hrun "ana@ouros.app" (some 1700000900)⟩

end OurosAuth
