import Mathlib.Logic.Function.Basic
import OurosAuth.Lib.Traced
import OurosAuth.Core.Settings

namespace OurosAuth

open Traced

/-!
# The shared Redis client

`RateLimiter`, `EmailOtpService` and `PasswordResetService` each keep one Redis client in a field.
A task that finds the field empty creates a client under a lock; a task that met a Redis error
closes the client and empties the field, without the lock.  Between two awaits a task runs alone.

* `ClientHolder` — what the three services do differently;
* `clientSystem` — any number of tasks, each step from one await to the next;
* `Effect`, `effect_of_step` — what a step can do to the shared state;
* `WellFormed` — the lock is held exactly while a new client is tried, and then the field is empty;
* `no_leak_iff` — no client is leaked exactly as long as every closing task that resumes finds the
  field empty or on a closed client, and every `ping` ends with an answer or a Redis error.
-/

/-- A failure of an awaited call. -/
inductive ClientFailure
  /-- `RedisError` or `OSError`, a timeout among them -/
  | redisError
  /-- anything else, such as the cancellation of the task -/
  | other
  deriving DecidableEq

/-- How a call ends. -/
inductive ClientResult
  | client (c : ℕ)
  | done
  | error (e : ApiError)
  | raised (failure : ClientFailure)
  deriving DecidableEq

/-- What the three services do differently. -/
structure ClientHolder where
  /-- Is `redis_url` configured? -/
  usesRedis : Bool
  /-- the end of a call without a Redis URL -/
  unconfigured : ClientResult
  /-- the end of a call whose `ping` fails -/
  unreachable : ClientResult
  /-- the end of a call with a client -/
  obtained : ℕ → ClientResult

/-- `RateLimiter.connect` -/
def Settings.rateLimiterClient (s : Settings) : ClientHolder where
  usesRedis := s.redisUrl.isSome
  unconfigured := .done
  unreachable := .raised .redisError
  obtained := fun _ => .done

/-- `EmailOtpService._redis_client` -/
def Settings.emailOtpClient (s : Settings) : ClientHolder where
  usesRedis := s.redisUrl.isSome
  unconfigured := .error (.emailOtpUnavailable "Redis is not configured")
  unreachable := .error (.emailOtpUnavailable "Redis is unavailable")
  obtained := .client

/-- `PasswordResetService._redis_client` -/
def Settings.passwordResetClient (s : Settings) : ClientHolder where
  usesRedis := s.redisUrl.isSome
  unconfigured := .error (.passwordResetUnavailable "Redis is not configured")
  unreachable := .error (.passwordResetUnavailable "Redis is unavailable")
  obtained := .client

/-! ### Tasks and steps -/

/-- Where a task is suspended. -/
inductive ClientTask
  | idle
  /-- at `async with self._redis_lock` -/
  | waiting
  /-- in the lock, at `await client.ping()` -/
  | pinging (c : ℕ)
  /-- in the lock, at `await client.aclose()` after a failed `ping` -/
  | discarding (c : ℕ)
  /-- at `await self._redis.aclose()` -/
  | closing (c : ℕ)
  deriving DecidableEq

/-- Is the task inside the lock? -/
def ClientTask.inLock : ClientTask → Bool
  | .pinging _ | .discarding _ => true
  | .idle | .waiting | .closing _ => false

/-- One service: its client field, its lock and its tasks.  Clients are numbered in the order in
    which they are created. -/
structure ClientState where
  /-- `self._redis` -/
  held : Option ℕ
  /-- `self._redis_lock`, with the task that has it -/
  lock : Option ℕ
  created : ℕ
  /-- the clients on which `aclose` has been called -/
  closed : List ℕ
  tasks : ℕ → ClientTask

/-- A service after its constructor. -/
def ClientState.init : ClientState := ⟨none, none, 0, [], fun _ => .idle⟩

/-- Task `i` moves on to `t`. -/
def ClientState.setTask (s : ClientState) (i : ℕ) (t : ClientTask) : ClientState :=
  { s with tasks := Function.update s.tasks i t }

/-- The next piece of a task, up to the next await. -/
inductive ClientAction
  /-- the first check of the field -/
  | obtain (i : ℕ)
  /-- the lock is free, and a waiting task acquires it; which one is open, and so is what runs in
      between when nobody has to wait -/
  | enter (i : ℕ)
  /-- the wait for the lock ends in an exception -/
  | abandon (i : ℕ)
  /-- `client.ping()` returns -/
  | pinged (i : ℕ) (answer : Except ClientFailure Unit)
  /-- `client.aclose()` returns, after a failed `ping` -/
  | discarded (i : ℕ) (answer : Except ClientFailure Unit)
  /-- `close` or `_close_redis` begins -/
  | close (i : ℕ)
  /-- `self._redis.aclose()` returns -/
  | closed (i : ℕ) (answer : Except ClientFailure Unit)
  deriving DecidableEq

/-- What a step shows. -/
inductive ClientEvent
  | finished (i : ℕ) (result : ClientResult)
  /-- task `i`, done with closing client `c`, drops client `d` from the field -/
  | dropped (i c d : ℕ)
  deriving DecidableEq

/-- One step of one task. -/
def clientStep (holder : ClientHolder) (s : ClientState) :
    ClientAction → Option (ClientState × List ClientEvent)
  | .obtain i =>
    match s.tasks i with
    | .idle =>
      if holder.usesRedis = false then some (s, [.finished i holder.unconfigured])
      else
        match s.held with
        | some c => some (s, [.finished i (holder.obtained c)])
        | none => some (s.setTask i .waiting, [])
    | _ => none
  | .enter i =>
    match s.tasks i, s.lock with
    | .waiting, none =>
      match s.held with
      | some c => some (s.setTask i .idle, [.finished i (holder.obtained c)])
      | none =>
        some ({ s with lock := some i, created := s.created + 1 }.setTask i
          (.pinging s.created), [])
    | _, _ => none
  | .abandon i =>
    match s.tasks i with
    | .waiting => some (s.setTask i .idle, [.finished i (.raised .other)])
    | _ => none
  | .pinged i answer =>
    match s.tasks i with
    | .pinging c =>
      match answer with
      | .ok () =>
        some ({ s with held := some c, lock := none }.setTask i .idle,
          [.finished i (holder.obtained c)])
      | .error .redisError =>
        some ({ s with closed := c :: s.closed }.setTask i (.discarding c), [])
      -- no handler: the exception leaves the lock, and nothing refers to the client any more
      | .error .other =>
        some ({ s with lock := none }.setTask i .idle, [.finished i (.raised .other)])
    | _ => none
  | .discarded i answer =>
    match s.tasks i with
    | .discarding _ =>
      match answer with
      | .ok () => some ({ s with lock := none }.setTask i .idle, [.finished i holder.unreachable])
      | .error failure =>
        some ({ s with lock := none }.setTask i .idle, [.finished i (.raised failure)])
    | _ => none
  | .close i =>
    match s.tasks i with
    | .idle =>
      match s.held with
      | some c => some ({ s with closed := c :: s.closed }.setTask i (.closing c), [])
      | none => some (s, [.finished i .done])
    | _ => none
  | .closed i answer =>
    match s.tasks i with
    | .closing c =>
      match answer with
      -- the field is emptied whatever it holds by now
      | .ok () =>
        some ({ s with held := none }.setTask i .idle,
          .finished i .done :: (s.held.map (.dropped i c)).toList)
      | .error failure => some (s.setTask i .idle, [.finished i (.raised failure)])
    | _ => none

/-- Any number of tasks over one service. -/
def clientSystem (holder : ClientHolder) : System ClientState ClientAction ClientEvent :=
  ⟨clientStep holder⟩

/-! ### Leaks -/

/-- The client is closed, held in the field, or being tried by the task in the lock. -/
def ClientState.Accounted (s : ClientState) (c : ℕ) : Prop :=
  c ∈ s.closed ∨ s.held = some c ∨ ∃ i, s.lock = some i ∧ s.tasks i = .pinging c

/-- No client is leaked, and no closing task has dropped an open one. -/
structure NoLeak (conf : Config ClientState ClientEvent) : Prop where
  accounted : ∀ c < conf.state.created, conf.state.Accounted c
  dropped : ∀ i c d, .dropped i c d ∈ conf.history → d ∈ conf.state.closed

/-- A task that is done with closing finds the field empty or on a closed client, and a `ping` ends
    with an answer or with a Redis error. -/
def Careful (conf : Config ClientState ClientEvent) : ClientAction → Prop
  | .pinged i answer => ∀ c, conf.state.tasks i = .pinging c → answer ≠ .error .other
  | .closed i answer =>
    ∀ c, conf.state.tasks i = .closing c → answer = .ok () →
      ∀ d, conf.state.held = some d → d ∈ conf.state.closed
  | _ => True

variable {holder : ClientHolder} {s s' : ClientState} {l : ClientAction} {es : List ClientEvent}
  {i j c d : ℕ} {t : ClientTask}

/-! ### What a step can do -/

/-- The effects of a step on the shared state. -/
inductive Effect (s : ClientState) : ClientAction → ClientState → List ClientEvent → Prop
  /-- The call ends where it began. -/
  | same {l : ClientAction} {i : ℕ} {result : ClientResult} : Effect s l s [.finished i result]
  /-- A task moves on outside the lock. -/
  | move {l : ClientAction} {i : ℕ} {t : ClientTask} {es : List ClientEvent}
      (before : (s.tasks i).inLock = false) (after : t.inLock = false)
      (quiet : ∀ j c d, .dropped j c d ∉ es) : Effect s l (s.setTask i t) es
  | create {i : ℕ} (free : s.lock = none) (empty : s.held = none) :
      Effect s (.enter i)
        ({ s with lock := some i, created := s.created + 1 }.setTask i (.pinging s.created)) []
  | install {i c : ℕ} {result : ClientResult} (task : s.tasks i = .pinging c) :
      Effect s (.pinged i (.ok ())) ({ s with held := some c, lock := none }.setTask i .idle)
        [.finished i result]
  | refuse {i c : ℕ} (task : s.tasks i = .pinging c) :
      Effect s (.pinged i (.error .redisError))
        ({ s with closed := c :: s.closed }.setTask i (.discarding c)) []
  | forget {i c : ℕ} (task : s.tasks i = .pinging c) :
      Effect s (.pinged i (.error .other)) ({ s with lock := none }.setTask i .idle)
        [.finished i (.raised .other)]
  | release {i c : ℕ} {answer : Except ClientFailure Unit} {result : ClientResult}
      (task : s.tasks i = .discarding c) :
      Effect s (.discarded i answer) ({ s with lock := none }.setTask i .idle)
        [.finished i result]
  | startClose {i c : ℕ} (task : s.tasks i = .idle) (held : s.held = some c) :
      Effect s (.close i) ({ s with closed := c :: s.closed }.setTask i (.closing c)) []
  | clear {i c : ℕ} (task : s.tasks i = .closing c) :
      Effect s (.closed i (.ok ())) ({ s with held := none }.setTask i .idle)
        (.finished i .done :: (s.held.map (.dropped i c)).toList)

/-- **Inversion of a step.** -/
theorem effect_of_step (h : clientStep holder s l = some (s', es)) :
    Effect s l s' es := by
  -- `same` where the coroutine goes on without an effect, `move` where only its own place changes
  cases l with
  | obtain i =>
    simp only [clientStep] at h
    split at h
    · rename_i htask
      split at h
      · cases h
        exact .same
      · split at h
        · cases h
          exact .same
        · cases h
          exact .move (by rw [htask]; rfl) rfl (by simp)
    · cases h
  | enter i =>
    simp only [clientStep] at h
    split at h
    · rename_i htask hlock
      split at h
      · cases h
        exact .move (by rw [htask]; rfl) rfl (by simp)
      · rename_i hheld
        cases h
        exact .create hlock hheld
    · cases h
  | abandon i =>
    simp only [clientStep] at h
    split at h
    · rename_i htask
      cases h
      exact .move (by rw [htask]; rfl) rfl (by simp)
    · cases h
  | pinged i answer =>
    simp only [clientStep] at h
    split at h
    · rename_i c htask
      split at h
      · cases h
        exact .install htask
      · cases h
        exact .refuse htask
      · cases h
        exact .forget htask
    · cases h
  | discarded i answer =>
    simp only [clientStep] at h
    split at h
    · rename_i c htask
      split at h
      · cases h
        exact .release htask
      · cases h
        exact .release htask
    · cases h
  | close i =>
    simp only [clientStep] at h
    split at h
    · rename_i htask
      split at h
      · rename_i c hheld
        cases h
        exact .startClose htask hheld
      · cases h
        exact .same
    · cases h
  | closed i answer =>
    simp only [clientStep] at h
    split at h
    · rename_i c htask
      split at h
      · cases h
        exact .clear htask
      · cases h
        exact .move (by rw [htask]; rfl) rfl (by simp)
    · cases h

/-! ### The lock -/

@[simp] theorem setTask_held : (s.setTask i t).held = s.held := rfl

@[simp] theorem setTask_lock : (s.setTask i t).lock = s.lock := rfl

@[simp] theorem setTask_tasks_self : (s.setTask i t).tasks i = t := Function.update_self ..

theorem setTask_tasks_of_ne (h : j ≠ i) : (s.setTask i t).tasks j = s.tasks j :=
  Function.update_of_ne h ..

/-- A `ping` that is still under way after a task moved on was under way before. -/
theorem pinging_of_setTask (ht : ∀ c, t ≠ .pinging c) (h : (s.setTask i t).tasks j = .pinging c) :
    j ≠ i ∧ s.tasks j = .pinging c := by
  by_cases hj : j = i
  · subst hj
    rw [setTask_tasks_self] at h
    exact absurd h (ht c)
  · rw [setTask_tasks_of_ne hj] at h
    exact ⟨hj, h⟩

/-- The lock is held exactly while a new client is tried, and the field is empty meanwhile. -/
structure WellFormed (s : ClientState) : Prop where
  lock_iff : ∀ i, s.lock = some i ↔ (s.tasks i).inLock = true
  empty_of_lock : ∀ i, s.lock = some i → s.held = none
  held_lt : ∀ c, s.held = some c → c < s.created
  closed_lt : ∀ c ∈ s.closed, c < s.created
  pinging_lt : ∀ i c, s.tasks i = .pinging c → c < s.created
  pinging_open : ∀ i c, s.tasks i = .pinging c → c ∉ s.closed

namespace WellFormed

theorem init : WellFormed .init where
  lock_iff := by simp [ClientState.init, ClientTask.inLock]
  empty_of_lock := fun _ _ => rfl
  held_lt := by simp [ClientState.init]
  closed_lt := by simp [ClientState.init]
  pinging_lt := by simp [ClientState.init]
  pinging_open := by simp [ClientState.init]

theorem lock_of_pinging (h : WellFormed s) (htask : s.tasks i = .pinging c) : s.lock = some i :=
  (h.lock_iff i).mpr (by rw [htask]; rfl)

theorem lock_of_discarding (h : WellFormed s) (htask : s.tasks i = .discarding c) :
    s.lock = some i :=
  (h.lock_iff i).mpr (by rw [htask]; rfl)

/-- Nobody else is in the lock. -/
theorem inLock_of_ne (h : WellFormed s) (hlock : s.lock = some i) (hj : j ≠ i) :
    (s.tasks j).inLock = false := by
  rw [Bool.eq_false_iff]
  intro hin
  have hlock' := (h.lock_iff j).mpr hin
  exact hj (Option.some.inj (hlock'.symm.trans hlock))

/-- A task moves on and the lock stays as it is. -/
theorem lock_iff_setTask (h : WellFormed s) (hsame : (s.tasks i).inLock = t.inLock) (j : ℕ) :
    s.lock = some j ↔ ((s.setTask i t).tasks j).inLock = true := by
  by_cases hj : j = i
  · subst hj
    rw [setTask_tasks_self, ← hsame, h.lock_iff]
  · rw [setTask_tasks_of_ne hj, h.lock_iff]

/-- The task in the lock leaves it, and the field may get a client. -/
theorem leave (h : WellFormed s) (hlock : s.lock = some i) {held : Option ℕ}
    (hheld : ∀ c, held = some c → c < s.created) :
    WellFormed ({ s with held := held, lock := none }.setTask i .idle) where
  lock_iff j := by
    by_cases hj : j = i
    · subst hj
      simp [ClientTask.inLock]
    · have hout := h.inLock_of_ne hlock hj
      rw [setTask_tasks_of_ne hj, setTask_lock, hout]
      simp
  empty_of_lock j hj := by cases hj
  held_lt := hheld
  closed_lt := h.closed_lt
  pinging_lt j d hj := h.pinging_lt j d (pinging_of_setTask (by simp) hj).2
  pinging_open j d hj := h.pinging_open j d (pinging_of_setTask (by simp) hj).2

/-- A task moves on and the lock stays as it is; the field may lose its client, and clients may be
    closed that nobody is trying. -/
theorem stay (h : WellFormed s) (hsame : (s.tasks i).inLock = t.inLock) (ht : ∀ c, t ≠ .pinging c)
    {held : Option ℕ} {closed : List ℕ} (hheld : ∀ c, held = some c → s.held = some c)
    (hclosed : ∀ c ∈ closed, c < s.created)
    (hopen : ∀ j c, j ≠ i → s.tasks j = .pinging c → c ∉ closed) :
    WellFormed ({ s with held := held, closed := closed }.setTask i t) where
  lock_iff := h.lock_iff_setTask hsame
  empty_of_lock j hlock := by
    show held = none
    cases hcase : held with
    | none => rfl
    | some c =>
      have hempty := h.empty_of_lock j hlock
      rw [hheld c hcase] at hempty
      cases hempty
  held_lt c hc := h.held_lt c (hheld c hc)
  closed_lt := hclosed
  pinging_lt j c hj := h.pinging_lt j c (pinging_of_setTask ht hj).2
  pinging_open j c hj := hopen j c (pinging_of_setTask ht hj).1 (pinging_of_setTask ht hj).2

/-- A task takes the free lock and creates a client, which is not closed yet. -/
theorem create (h : WellFormed s) (hfree : s.lock = none) (hempty : s.held = none) :
    WellFormed
      ({ s with lock := some i, created := s.created + 1 }.setTask i (.pinging s.created)) := by
  have hout : ∀ j, (s.tasks j).inLock = false := fun j => by
    rw [Bool.eq_false_iff, ne_eq, ← h.lock_iff, hfree]
    simp
  have hping : ∀ j d, ({ s with lock := some i, created := s.created + 1 }.setTask i
      (.pinging s.created)).tasks j = .pinging d → d = s.created := by
    intro j d hj
    by_cases hij : j = i
    · subst hij
      rw [setTask_tasks_self, ClientTask.pinging.injEq] at hj
      exact hj.symm
    · have hin := hout j
      rw [setTask_tasks_of_ne hij] at hj
      rw [hj] at hin
      cases hin
  exact {
    lock_iff := fun j => by
      by_cases hij : j = i
      · subst hij
        simp [ClientTask.inLock]
      · rw [setTask_tasks_of_ne hij, hout j, setTask_lock]
        simp [Ne.symm hij]
    empty_of_lock := fun _ _ => hempty
    held_lt := fun d hd => Nat.lt_succ_of_lt (h.held_lt d hd)
    closed_lt := fun d hd => Nat.lt_succ_of_lt (h.closed_lt d hd)
    pinging_lt := fun j d hj => hping j d hj ▸ Nat.lt_succ_self s.created
    pinging_open := fun j d hj hclosed =>
      absurd (h.closed_lt d hclosed) (hping j d hj ▸ Nat.lt_irrefl s.created) }

/-- **Step lemma.** -/
theorem step (h : WellFormed s) (heffect : Effect s l s' es) : WellFormed s' := by
  cases heffect with
  | same => exact h
  | @move _ i t _ before after _ =>
    apply h.stay (before.trans after.symm) _ (fun _ hc => hc) h.closed_lt
    · exact fun j c _ hj => h.pinging_open j c hj
    · intro c ht
      rw [ht] at after
      cases after
  | create free empty => exact h.create free empty
  | @install i c _ task =>
    exact h.leave (h.lock_of_pinging task) fun d hd => Option.some.inj hd ▸ h.pinging_lt i c task
  | @refuse i c task =>
    apply h.stay (by rw [task]; rfl) (by simp) (fun _ hd => hd)
    · exact List.forall_mem_cons.mpr ⟨h.pinging_lt i c task, h.closed_lt⟩
    · -- nobody else is in the lock
      intro j d hne hj
      have hout := h.inLock_of_ne (h.lock_of_pinging task) hne
      rw [hj] at hout
      cases hout
  | forget task => exact h.leave (h.lock_of_pinging task) h.held_lt
  | release task => exact h.leave (h.lock_of_discarding task) h.held_lt
  | @startClose i c task held =>
    apply h.stay (by rw [task]; rfl) (by simp) (fun _ hd => hd)
    · exact List.forall_mem_cons.mpr ⟨h.held_lt c held, h.closed_lt⟩
    · -- while a client is tried the field is empty, and there is nothing to close
      intro j d _ hj
      have hempty := h.empty_of_lock j (h.lock_of_pinging hj)
      rw [held] at hempty
      cases hempty
  | @clear i c task =>
    apply h.stay (by rw [task]; rfl) (by simp) (by simp) h.closed_lt
    exact fun j d _ hj => h.pinging_open j d hj

end WellFormed

/-! ### Steps without a leak -/

/-- A client that is being tried is still being tried when another task moves on. -/
theorem pinged_setTask (h : ∃ j, s.lock = some j ∧ s.tasks j = .pinging c)
    (htask : ∀ c, s.tasks i ≠ .pinging c) :
    ∃ j, s.lock = some j ∧ (s.setTask i t).tasks j = .pinging c := by
  obtain ⟨j, hlock, hping⟩ := h
  have hj : j ≠ i := fun heq => htask c (heq ▸ hping)
  exact ⟨j, hlock, (setTask_tasks_of_ne hj).trans hping⟩

variable {conf conf' : Config ClientState ClientEvent}

/-- A careful step leaves every client accounted for. -/
theorem accounted_step (hwf : WellFormed conf.state) (h : NoLeak conf) (hcareful : Careful conf l)
    (heffect : Effect conf.state l s' es) (hc : c < s'.created) : s'.Accounted c := by
  have hold := fun hc => h.accounted c hc
  cases heffect with
  | same => exact hold hc
  | move before after quiet =>
    rcases hold hc with hclosed | hheld | hping
    · exact Or.inl hclosed
    · exact Or.inr (Or.inl hheld)
    · exact Or.inr (Or.inr (pinged_setTask hping fun d hd => by rw [hd] at before; cases before))
  | @create i free empty =>
    rcases Nat.lt_succ_iff_lt_or_eq.mp hc with hlt | rfl
    · rcases hold hlt with hclosed | hheld | ⟨j, hlock, -⟩
      · exact Or.inl hclosed
      · rw [empty] at hheld
        cases hheld
      · rw [free] at hlock
        cases hlock
    · exact Or.inr (Or.inr ⟨i, rfl, setTask_tasks_self⟩)
  | @install i d _ task =>
    have hlock := hwf.lock_of_pinging task
    rcases hold hc with hclosed | hheld | ⟨j, hlock', hping⟩
    · exact Or.inl hclosed
    · rw [hwf.empty_of_lock i hlock] at hheld
      cases hheld
    · -- the client under trial is the one that goes into the field
      obtain rfl : j = i := Option.some.inj (hlock'.symm.trans hlock)
      obtain rfl : c = d := ClientTask.pinging.inj (hping.symm.trans task)
      exact Or.inr (Or.inl rfl)
  | @refuse i d task =>
    -- `aclose` is called before the task is suspended again
    have hlock := hwf.lock_of_pinging task
    rcases hold hc with hclosed | hheld | ⟨j, hlock', hping⟩
    · exact Or.inl (List.mem_cons_of_mem d hclosed)
    · rw [hwf.empty_of_lock i hlock] at hheld
      cases hheld
    · obtain rfl : j = i := Option.some.inj (hlock'.symm.trans hlock)
      obtain rfl : c = d := ClientTask.pinging.inj (hping.symm.trans task)
      exact Or.inl List.mem_cons_self
  | forget task => exact absurd rfl (hcareful _ task)
  | @release i d _ _ task =>
    rcases hold hc with hclosed | hheld | ⟨j, hlock, hping⟩
    · exact Or.inl hclosed
    · exact Or.inr (Or.inl hheld)
    · have hlock' := hwf.lock_of_discarding task
      obtain rfl : j = i := Option.some.inj (hlock.symm.trans hlock')
      rw [task] at hping
      cases hping
  | @startClose i d task held =>
    -- the field keeps the client until the task resumes
    rcases hold hc with hclosed | hheld | hping
    · exact Or.inl (List.mem_cons_of_mem d hclosed)
    · rw [held, Option.some.injEq] at hheld
      exact Or.inl (hheld ▸ List.mem_cons_self)
    · exact Or.inr (Or.inr (pinged_setTask hping (by simp [task])))
  | @clear i d task =>
    rcases hold hc with hclosed | hheld | hping
    · exact Or.inl hclosed
    · exact Or.inl (hcareful d task rfl c hheld)
    · exact Or.inr (Or.inr (pinged_setTask hping (by simp [task])))

/-- Closed clients stay closed. -/
theorem closed_subset_of_effect (heffect : Effect s l s' es) : s.closed ⊆ s'.closed := by
  cases heffect with
  | refuse | startClose => exact List.subset_cons_self _ _
  | same | move | create | install | forget | release | clear => exact List.Subset.refl _

/-- A careful step drops closed clients only. -/
theorem dropped_step (h : NoLeak conf) (hcareful : Careful conf l)
    (heffect : Effect conf.state l s' es) (hmem : .dropped i c d ∈ es ++ conf.history) :
    d ∈ s'.closed := by
  have hsubset := closed_subset_of_effect heffect
  rcases List.mem_append.mp hmem with hnew | hold
  · cases heffect with
    | same | create | install | refuse | forget | release | startClose => simp at hnew
    | move before after quiet => exact absurd hnew (quiet i c d)
    | @clear j e task =>
      simp only [List.mem_cons, reduceCtorEq, false_or, Option.mem_toList,
        Option.map_eq_some_iff, ClientEvent.dropped.injEq] at hnew
      obtain ⟨_, hheld, -, -, rfl⟩ := hnew
      exact hcareful e task rfl _ hheld
  · exact hsubset (h.dropped i c d hold)

/-- **Step lemma.** A careful step leaks nothing. -/
theorem NoLeak.step (hwf : WellFormed conf.state) (h : NoLeak conf) (hcareful : Careful conf l)
    (hnext : (clientSystem holder).next conf l = some conf') : NoLeak conf' := by
  obtain ⟨es, hstep, hhist⟩ := (clientSystem holder).next_eq_some.mp hnext
  have heffect := effect_of_step hstep
  constructor
  · exact fun c hc => accounted_step hwf h hcareful heffect hc
  · exact fun i c d hmem => dropped_step h hcareful heffect (hhist ▸ hmem)

/-- Every run keeps the lock in order. -/
theorem wellFormed_of_run {ls : List ClientAction}
    (hrun : (clientSystem holder).run (Config.start .init) ls = some conf) :
    WellFormed conf.state := by
  refine (clientSystem holder).invariant_run (I := fun conf => WellFormed conf.state) ?_
    WellFormed.init hrun
  intro conf l conf' h hnext
  obtain ⟨es, hstep, -⟩ := (clientSystem holder).next_eq_some.mp hnext
  exact h.step (effect_of_step hstep)

/-! ### Steps with a leak -/

/-- A `ping` that ends in another exception leaks the client it tried. -/
theorem leak_of_forget (holder : ClientHolder) (hwf : WellFormed conf.state)
    (htask : conf.state.tasks i = .pinging c) :
    ∃ conf', (clientSystem holder).next conf (.pinged i (.error .other)) = some conf' ∧
      ¬ NoLeak conf' := by
  refine ⟨_, (clientSystem holder).next_of_step (by
    simp only [clientSystem, clientStep, htask]
    rfl), fun h => ?_⟩
  rcases h.accounted c (hwf.pinging_lt i c htask) with hclosed | hheld | ⟨j, hlock, -⟩
  · exact hwf.pinging_open i c htask hclosed
  · have hempty := hwf.empty_of_lock i (hwf.lock_of_pinging htask)
    rw [setTask_held, hempty] at hheld
    cases hheld
  · cases hlock

/-- A closing task that resumes on an open client leaks it. -/
theorem leak_of_clear (holder : ClientHolder) (hwf : WellFormed conf.state)
    (htask : conf.state.tasks i = .closing c)
    (hheld : conf.state.held = some d) (hopen : d ∉ conf.state.closed) :
    ∃ conf', (clientSystem holder).next conf (.closed i (.ok ())) = some conf' ∧
      ¬ NoLeak conf' := by
  refine ⟨_, (clientSystem holder).next_of_step (by
    simp only [clientSystem, clientStep, htask]
    rfl), fun h => ?_⟩
  rcases h.accounted d (hwf.held_lt d hheld) with hclosed | hheld' | ⟨j, hlock, -⟩
  · exact hopen hclosed
  · cases hheld'
  · -- the lock is free while the field holds a client
    have hempty := hwf.empty_of_lock j hlock
    rw [hheld] at hempty
    cases hempty

/-- A step after which nothing is leaked was careful. -/
theorem careful_of_next (holder : ClientHolder) (hwf : WellFormed conf.state)
    (h : ∀ conf', (clientSystem holder).next conf l = some conf' → NoLeak conf') :
    Careful conf l := by
  cases l with
  | obtain | enter | abandon | discarded | close => trivial
  | pinged i answer =>
    rintro c htask rfl
    obtain ⟨conf', hnext, hleak⟩ := leak_of_forget holder hwf htask
    exact hleak (h conf' hnext)
  | closed i answer =>
    rintro c htask rfl d hheld
    by_contra hopen
    obtain ⟨conf', hnext, hleak⟩ := leak_of_clear holder hwf htask hheld hopen
    exact hleak (h conf' hnext)

/-! ### Runs -/

/-- **No client is leaked.** A run leaks nothing at any point if and only if each of its steps is
    careful. -/
theorem no_leak_iff (holder : ClientHolder) (ls : List ClientAction) :
    (∀ ls₁ ls₂ conf, ls = ls₁ ++ ls₂ →
        (clientSystem holder).run (Config.start .init) ls₁ = some conf → NoLeak conf) ↔
      (clientSystem holder).Meets Careful (Config.start .init) ls := by
  constructor
  · intro h
    rw [System.meets_iff_forall_split]
    intro ls₁ l ls₂ conf hsplit hrun
    apply careful_of_next holder (wellFormed_of_run hrun)
    intro conf' hnext
    apply h (ls₁ ++ [l]) ls₂ conf'
    · rw [hsplit, List.append_assoc]
      rfl
    · rw [System.run_append, hrun, Option.bind_some, System.run_cons, hnext]
      rfl
  · rintro hmeets ls₁ ls₂ conf rfl hrun
    have hinv : WellFormed conf.state ∧ NoLeak conf := by
      refine (clientSystem holder).invariant_run_of_meets
        (I := fun conf => WellFormed conf.state ∧ NoLeak conf) ?_ ⟨WellFormed.init, ?_⟩
        (hmeets.of_append) hrun
      · rintro conf l conf' ⟨hwf, h⟩ hcareful hnext
        obtain ⟨es, hstep, -⟩ := (clientSystem holder).next_eq_some.mp hnext
        exact ⟨hwf.step (effect_of_step hstep), h.step hwf hcareful hnext⟩
      · exact ⟨fun c hc => absurd hc (Nat.not_lt_zero c), fun i c d hmem => by simp at hmem⟩
    exact hinv.2

/-- Two tasks close client 0.  When the first is done, task 3 installs client 1; when the second is
    done, it empties the field. -/
def twoClosers : List ClientAction :=
  [.obtain 0, .enter 0, .pinged 0 (.ok ()), .close 1, .close 2, .closed 1 (.ok ()),
    .obtain 3, .enter 3, .pinged 3 (.ok ()), .closed 2 (.ok ())]

/-- The run ends with a leak: task 2, done with client 0, has dropped the open client 1. -/
def LeaksNewer (holder : ClientHolder) : Prop :=
  ∃ conf, (clientSystem holder).run (Config.start .init) twoClosers = some conf ∧
    .dropped 2 0 1 ∈ conf.history ∧ 1 ∉ conf.state.closed ∧ ¬ NoLeak conf

/-- **A newer client is dropped**, whichever of the services it belongs to. -/
theorem newer_client_dropped :
    LeaksNewer (Settings.sample (some "redis://redis:6379/0")).rateLimiterClient ∧
      LeaksNewer (Settings.sample (some "redis://redis:6379/0")).emailOtpClient ∧
      LeaksNewer (Settings.sample (some "redis://redis:6379/0")).passwordResetClient := by
  refine ⟨?_, ?_, ?_⟩
  all_goals
    refine ⟨_, rfl, by decide, by decide, fun h => ?_⟩
    exact absurd (h.dropped 2 0 1 (by decide)) (by decide)

end OurosAuth
