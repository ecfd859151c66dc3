import OurosAuth.App.LoginCompletion
import OurosAuth.Lib.Agreement

namespace OurosAuth

open KeyValue Traced

/-!
# The flows side by side

Login, password reset and the update with a reset token were each studied as a system of its own.
In the application they share one clock, one set of ids and one Redis.  Over Redis none of them can
tell: every run of the application is, for each of them, a run of its own.

* `OtpState.SameFor` — what one flow sees of the service;
* `SameForLogin.step`, `sameFor_resetStep`, `SameMarks.step` — two states that look alike to a flow
  go on looking alike;
* `flows_composed` — a run of the application read as three runs;
* `one_update_per_code` — so what is known of the single flows adds up: one code mailed for a reset,
  one password update at most.
-/

variable {rt : Runtime} {svc : OtpService} {settings : Settings}

/-! ### What a flow sees of the service -/

/-- A key of a challenge of the flow, in Redis. -/
def IsKeyOf (flow : Flow) (key : String) : Prop := ∃ challengeId, key = redisKey flow challengeId

/-- A key of a reservation mark. -/
def IsMark (key : String) : Prop := ∃ jti, key = blacklistKey jti

theorem isKeyOf_redisKey (flow : Flow) (challengeId : String) :
    IsKeyOf flow (redisKey flow challengeId) := ⟨challengeId, rfl⟩

theorem isMark_blacklistKey (jti : String) : IsMark (blacklistKey jti) := ⟨jti, rfl⟩

theorem not_isKeyOf_login_reset (challengeId : String) :
    ¬ IsKeyOf .login (redisKey .reset challengeId) := by
  rintro ⟨id, hkey⟩
  exact redisKey_login_ne_reset id challengeId hkey.symm

theorem not_isKeyOf_reset_login (challengeId : String) :
    ¬ IsKeyOf .reset (redisKey .login challengeId) := by
  rintro ⟨id, hkey⟩
  exact redisKey_login_ne_reset challengeId id hkey

/-- Keys of different flows are different. -/
theorem not_isKeyOf {flow flow' : Flow} (hne : flow' ≠ flow) (challengeId : String) :
    ¬ IsKeyOf flow (redisKey flow' challengeId) := by
  cases flow <;> cases flow'
  · exact absurd rfl hne
  · exact not_isKeyOf_login_reset challengeId
  · exact not_isKeyOf_reset_login challengeId
  · exact absurd rfl hne

/-- The flow sees no difference: the ids of the second state are among those of the first, and
    deliveries and challenges of the flow are the same. -/
structure OtpState.SameFor (flow : Flow) (s u : OtpState) : Prop where
  now : u.now = s.now
  issued : u.issued ⊆ s.issued
  delivering : ∀ challengeId, u.delivering.count (flow, challengeId) =
    s.delivering.count (flow, challengeId)
  redis : AgreeOn (IsKeyOf flow) s.stores.redis u.stores.redis

theorem OtpState.SameFor.refl (flow : Flow) (s : OtpState) : s.SameFor flow s :=
  ⟨rfl, List.Subset.refl _, fun _ => rfl, .refl _ _⟩

/-- Between the two states the clock moved, ids were handed out, and nothing else changed that the
    flow sees. -/
structure OtpState.Frames (flow : Flow) (s s' : OtpState) : Prop where
  issued : s.issued ⊆ s'.issued
  delivering : ∀ challengeId, s'.delivering.count (flow, challengeId) =
    s.delivering.count (flow, challengeId)
  redis : AgreeOn (IsKeyOf flow) s.stores.redis s'.stores.redis

section Service
variable {flow flow' : Flow} {s s' u : OtpState} {st st' : OtpStores} {now : Instant}
  {challengeId : String} {r : Record}

theorem OtpState.Frames.refl : s.Frames flow s := ⟨List.Subset.refl _, fun _ => rfl, .refl _ _⟩

/-- The flow still sees no difference when the second clock has followed. -/
theorem OtpState.SameFor.frames (h : s.SameFor flow u) (hframes : s.Frames flow s') :
    s'.SameFor flow { u with now := s'.now } where
  now := rfl
  issued := List.Subset.trans h.issued hframes.issued
  delivering id := (h.delivering id).trans (hframes.delivering id).symm
  redis := hframes.redis.symm.trans h.redis

/-! ### The operations -/

theorem redis_save (hredis : svc.usesRedis = true) (ttlSeconds : ℤ) :
    (st.save svc now flow challengeId r ttlSeconds).redis =
      st.redis.setEx now.seconds (redisKey flow challengeId) (.document r)
        (max ttlSeconds 1 : ℤ) := by
  rw [OtpStores.save, if_pos hredis]

theorem redis_delete (hredis : svc.usesRedis = true) :
    (st.delete svc flow challengeId).redis = st.redis.del (redisKey flow challengeId) := by
  rw [OtpStores.delete, if_pos hredis]

/-- A load from Redis. -/
def loadRedis (t : ℚ) (key : String) (redis : Redis) : Option Record × Redis :=
  match redis.get t key with
  | some (.document r) => (some r, redis)
  | some .malformed => (none, redis.del key)
  | _ => (none, redis)

theorem load_redis (st : OtpStores) (now : Instant) (flow : Flow) (challengeId : String)
    (hredis : svc.usesRedis = true) :
    (st.load svc now flow challengeId).1 =
        (loadRedis now.seconds (redisKey flow challengeId) st.redis).1 ∧
      (st.load svc now flow challengeId).2.redis =
        (loadRedis now.seconds (redisKey flow challengeId) st.redis).2 := by
  unfold OtpStores.load loadRedis
  rw [if_pos hredis]
  cases st.redis.get now.seconds (redisKey flow challengeId) with
  | none => exact ⟨rfl, rfl⟩
  | some v =>
    cases v with
    | malformed => exact ⟨rfl, redis_delete hredis⟩
    | _ => exact ⟨rfl, rfl⟩

theorem localTo_loadRedis (t : ℚ) (key : String) : LocalTo key (loadRedis t key) where
  frame redis key' hne := by
    unfold loadRedis
    split
    · rfl
    · exact Dict.get?_erase_ne _ hne
    · rfl
  congr redis redis' h := by
    unfold loadRedis
    rw [ExpiringStore.get_congr t h]
    split
    · exact ⟨rfl, h⟩
    · exact ⟨rfl, (Dict.get?_erase_self ..).trans (Dict.get?_erase_self ..).symm⟩
    · exact ⟨rfl, h⟩

theorem localTo_verifyResetScript (t : ℚ) (key email digest : String) (now : ℤ)
    (maxAttempts : ℕ) :
    LocalTo key (verifyResetScript t key email digest now maxAttempts) where
  frame redis key' hne := by
    rcases verifyResetScript_store t key email digest now maxAttempts redis with
      hst | hst | ⟨raw, r, -, hst⟩ <;> rw [hst]
    · exact Dict.get?_erase_ne _ hne
    · exact Dict.get?_set_ne _ _ hne
  congr redis redis' h := by
    have hdel : (ExpiringStore.del redis' key).get? key = (ExpiringStore.del redis key).get? key :=
      (Dict.get?_erase_self ..).trans (Dict.get?_erase_self ..).symm
    have hkeep : ∀ v, (ExpiringStore.setKeepTtl redis' t key v).get? key =
        (ExpiringStore.setKeepTtl redis t key v).get? key := by
      intro v
      rw [ExpiringStore.setKeepTtl, ExpiringStore.setKeepTtl, ExpiringStore.liveEntry_congr t h,
        Dict.get?_set_self, Dict.get?_set_self]
    unfold verifyResetScript
    rw [ExpiringStore.get_congr t h]
    split
    · exact ⟨rfl, h⟩
    · dsimp only
      split
      · split_ifs
        all_goals first
          | exact ⟨rfl, hdel⟩
          | exact ⟨rfl, hkeep _⟩
      · exact ⟨rfl, hdel⟩
    · exact ⟨rfl, hdel⟩

theorem agree_save (hredis : svc.usesRedis = true) (ttlSeconds : ℤ)
    (h : AgreeOn (IsKeyOf flow) st.redis st'.redis) :
    AgreeOn (IsKeyOf flow) (st.save svc now flow challengeId r ttlSeconds).redis
      (st'.save svc now flow challengeId r ttlSeconds).redis := by
  rw [redis_save hredis, redis_save hredis]
  exact ((ExpiringStore.localTo_setEx ..).agree (isKeyOf_redisKey flow challengeId) h).2

theorem agree_delete (hredis : svc.usesRedis = true)
    (h : AgreeOn (IsKeyOf flow) st.redis st'.redis) :
    AgreeOn (IsKeyOf flow) (st.delete svc flow challengeId).redis
      (st'.delete svc flow challengeId).redis := by
  rw [redis_delete hredis, redis_delete hredis]
  exact ((ExpiringStore.localTo_del _).agree (isKeyOf_redisKey flow challengeId) h).2

theorem agree_load (now : Instant) (challengeId : String) (hredis : svc.usesRedis = true)
    (h : AgreeOn (IsKeyOf flow) st.redis st'.redis) :
    (st'.load svc now flow challengeId).1 = (st.load svc now flow challengeId).1 ∧
      AgreeOn (IsKeyOf flow) (st.load svc now flow challengeId).2.redis
        (st'.load svc now flow challengeId).2.redis := by
  obtain ⟨hanswer, hstore⟩ := load_redis st now flow challengeId hredis
  obtain ⟨hanswer', hstore'⟩ := load_redis st' now flow challengeId hredis
  rw [hanswer, hanswer', hstore, hstore']
  exact (localTo_loadRedis ..).agree (isKeyOf_redisKey flow challengeId) h

theorem agree_verifyReset (rt : Runtime) (now readAt : Instant) (challengeId email code : String)
    (hredis : svc.usesRedis = true) (h : AgreeOn (IsKeyOf .reset) st.redis st'.redis) :
    (st'.verifyReset rt svc now readAt challengeId email code).1 =
        (st.verifyReset rt svc now readAt challengeId email code).1 ∧
      AgreeOn (IsKeyOf .reset) (st.verifyReset rt svc now readAt challengeId email code).2.redis
        (st'.verifyReset rt svc now readAt challengeId email code).2.redis := by
  unfold OtpStores.verifyReset
  rw [if_pos hredis, if_pos hredis]
  exact (localTo_verifyResetScript ..).agree (isKeyOf_redisKey .reset challengeId) h

/-! ### Creating a challenge and ending its delivery -/

/-- What one state can create, so can the other. -/
theorem OtpState.SameFor.create (h : s.SameFor flow u) (hredis : svc.usesRedis = true)
    {readAt : Instant} (hcreate : s.create svc flow challengeId readAt r = some s') :
    ∃ u', u.create svc flow challengeId readAt r = some u' ∧ s'.SameFor flow u' := by
  obtain ⟨htoken, hfresh, hread, rfl⟩ := create_eq_some.mp hcreate
  refine ⟨_, create_eq_some.mpr ⟨htoken, fun hmem => hfresh (h.issued hmem), h.now ▸ hread, rfl⟩,
    h.now, ?_, fun id => ?_, ?_⟩
  · exact List.cons_subset_cons _ h.issued
  · rw [List.count_cons, List.count_cons, h.delivering id]
  · rw [h.now]
    exact agree_save hredis _ h.redis

theorem OtpState.SameFor.delivered (h : s.SameFor flow u) (hredis : svc.usesRedis = true)
    {outcome : Delivery} (hdel : s.delivered svc flow challengeId outcome = some s') :
    ∃ u', u.delivered svc flow challengeId outcome = some u' ∧ s'.SameFor flow u' := by
  unfold OtpState.delivered at hdel ⊢
  split_ifs at hdel with hmem
  obtain rfl := Option.some.inj hdel
  have hmem' : (flow, challengeId) ∈ u.delivering := by
    rw [← List.count_pos_iff] at hmem ⊢
    rwa [h.delivering]
  rw [if_pos hmem']
  refine ⟨_, rfl, h.now, h.issued, fun id => ?_, ?_⟩
  · show (u.delivering.erase _).count _ = (s.delivering.erase _).count _
    rw [List.count_erase, List.count_erase, h.delivering id]
  · cases outcome with
    | smtpFailure => exact agree_delete hredis h.redis
    | _ => exact h.redis

/-- A step of the other flow is none of its business. -/
theorem frames_create (hredis : svc.usesRedis = true) (hne : flow' ≠ flow) {readAt : Instant}
    (hcreate : s.create svc flow' challengeId readAt r = some s') : s.Frames flow s' := by
  obtain ⟨-, -, -, rfl⟩ := create_eq_some.mp hcreate
  refine ⟨List.subset_cons_self _ _, fun id => List.count_cons_of_ne ?_, ?_⟩
  · exact fun heq => hne (Prod.mk.inj heq).1
  · show AgreeOn _ _ (s.stores.save ..).redis
    rw [redis_save hredis]
    exact (ExpiringStore.localTo_setEx ..).leaves (not_isKeyOf hne challengeId) _

theorem frames_delivered (hredis : svc.usesRedis = true) (hne : flow' ≠ flow) {outcome : Delivery}
    (hdel : s.delivered svc flow' challengeId outcome = some s') : s.Frames flow s' := by
  obtain ⟨-, -, hissued, hdelivering, hst⟩ := delivered_eq_some hdel
  refine ⟨hissued ▸ List.Subset.refl _, fun id => ?_, ?_⟩
  · rw [hdelivering]
    exact List.count_erase_of_ne fun heq => hne (Prod.mk.inj heq).1.symm
  · rcases hst with hst | hst <;> rw [hst]
    · exact .refl _ _
    · rw [redis_delete hredis]
      exact (ExpiringStore.localTo_del _).leaves (not_isKeyOf hne challengeId) _

/-- A step that leaves the keys of the flow alone, and neither hands out an id nor ends a
    delivery. -/
theorem frames_of_redis (hissued : s'.issued = s.issued)
    (hdelivering : s'.delivering = s.delivering)
    (hkeys : ∀ id, s'.stores.redis.get? (redisKey flow id) =
      s.stores.redis.get? (redisKey flow id)) :
    s.Frames flow s' := by
  refine ⟨hissued ▸ List.Subset.refl _, fun _ => by rw [hdelivering], ?_⟩
  rintro _ ⟨id, rfl⟩
  exact hkeys id

end Service

/-! ### The login system -/

section Login
variable {s s' u : LoginState} {es : List LoginEvent} {l : LoginLabel}

/-- The login system sees no difference. -/
structure SameForLogin (s u : LoginState) : Prop where
  otp : s.otp.SameFor .login u.otp
  calls : u.calls = s.calls

/-- One call moves in both. -/
theorem SameForLogin.move (h : SameForLogin s u) {st st' : OtpStores}
    (hst : AgreeOn (IsKeyOf .login) st.redis st'.redis) (i : ℕ) (call : LoginCall) :
    SameForLogin ((s.setStores st).setCall i call) ((u.setStores st').setCall i call) where
  otp := ⟨h.otp.now, h.otp.issued, h.otp.delivering, hst⟩
  calls := by
    show Function.update u.calls i call = Function.update s.calls i call
    rw [h.calls]

/-- **States that look alike to the login system go on looking alike.** -/
theorem SameForLogin.step (h : SameForLogin s u) (hredis : svc.usesRedis = true)
    (hstep : loginStep rt svc s l = some (s', es)) :
    ∃ u', loginStep rt svc u l = some (u', es) ∧ SameForLogin s' u' := by
  cases l with
  | tick t =>
    obtain ⟨hle, rfl, rfl⟩ := loginStep_tick hstep
    refine ⟨{ u with otp := { u.otp with now := t } }, ?_, ⟨rfl, h.otp.issued, h.otp.delivering,
      h.otp.redis⟩, h.calls⟩
    have htick : u.otp.tick t = some { u.otp with now := t } :=
      tick_eq_some.mpr ⟨h.otp.now.symm ▸ hle, rfl⟩
    simp only [loginStep, htick, Option.map_some]
  | start challengeId email code readAt =>
    obtain ⟨hcode, hcreate, hcalls, rfl⟩ := loginStep_start hstep
    obtain ⟨otp, hcreate', hotp⟩ := h.otp.create hredis hcreate
    refine ⟨{ u with otp := otp }, ?_, hotp, h.calls.trans hcalls.symm⟩
    simp only [loginStep, if_pos hcode, hcreate', Option.map_some]
  | delivered challengeId outcome =>
    obtain ⟨hdel, hcalls, rfl⟩ := loginStep_delivered hstep
    obtain ⟨otp, hdel', hotp⟩ := h.otp.delivered hredis hdel
    refine ⟨{ u with otp := otp }, ?_, hotp, h.calls.trans hcalls.symm⟩
    simp only [loginStep, hdel', Option.map_some]
  | load i challengeId email code =>
    obtain ⟨hidle, -⟩ := loginStep_load hstep
    have hidle' : u.calls i = .idle := (congrFun h.calls i).trans hidle
    obtain ⟨hanswer, hst⟩ := agree_load s.otp.now challengeId hredis h.otp.redis
    have hnow := h.otp.now
    cases hload : (s.otp.stores.load svc s.otp.now .login challengeId).1 with
    | none =>
      rw [loginStep_load_none hidle hload, Option.some.injEq, Prod.mk.injEq] at hstep
      obtain ⟨rfl, rfl⟩ := hstep
      refine ⟨_, loginStep_load_none hidle' (by rw [hnow, hanswer, hload]), ?_⟩
      rw [hnow]
      exact h.move hst i .raised
    | some r =>
      rw [loginStep_load_some hidle hload, Option.some.injEq, Prod.mk.injEq] at hstep
      obtain ⟨rfl, rfl⟩ := hstep
      rw [← hnow]
      refine ⟨_, loginStep_load_some hidle' (by rw [hnow, hanswer, hload]), ?_⟩
      rw [hnow]
      exact h.move hst i _
  | check i =>
    obtain ⟨challengeId, email, code, r, hcall, -⟩ := loginStep_check hstep
    have hcall' : u.calls i = .loaded challengeId email code r := (congrFun h.calls i).trans hcall
    -- both compare at the same time
    have hsame : decideVerify rt svc u.otp.now.whole challengeId email code r =
        decideVerify rt svc s.otp.now.whole challengeId email code r := by rw [h.otp.now]
    by_cases htype : decideVerify rt svc s.otp.now.whole challengeId email code r = .typeError
    · rw [loginStep_check_typeError hcall htype, Option.some.injEq, Prod.mk.injEq] at hstep
      obtain ⟨rfl, rfl⟩ := hstep
      exact ⟨_, loginStep_check_typeError hcall' (hsame.trans htype), h.move h.otp.redis i .raised⟩
    · rw [loginStep_check_decided hcall rfl htype, Option.some.injEq, Prod.mk.injEq] at hstep
      obtain ⟨rfl, rfl⟩ := hstep
      exact ⟨_, loginStep_check_decided hcall' hsame htype, h.move h.otp.redis i _⟩
  | write i =>
    obtain ⟨challengeId, email, code, r, d, hcall, rfl, rfl⟩ := loginStep_write hstep
    have hcall' : u.calls i = .decided challengeId email code r d :=
      (congrFun h.calls i).trans hcall
    refine ⟨_, loginStep_write_decided hcall', h.move ?_ i _⟩
    rw [h.otp.now]
    cases d with
    | resave r ttlSeconds => exact agree_save hredis ttlSeconds h.otp.redis
    | _ => exact agree_delete hredis h.otp.redis
  | grant i =>
    obtain ⟨challengeId, email, hcall, rfl, rfl⟩ := loginStep_grant hstep
    have hcall' : u.calls i = .verified challengeId email := (congrFun h.calls i).trans hcall
    refine ⟨u.setCall i .granted, ?_, h.move h.otp.redis i .granted⟩
    simp only [loginStep, hcall']

end Login

/-- A login step is none of the reset flow's business, but for the clock. -/
theorem frames_loginStep (hredis : svc.usesRedis = true) {s s' : LoginState} {es : List LoginEvent}
    {l : LoginLabel} (hstep : loginStep rt svc s l = some (s', es)) :
    s.otp.Frames .reset s'.otp := by
  have hkeys := fun id => loginStep_redis
    (fun id' heq => redisKey_login_ne_reset id' id heq.symm : ∀ id', redisKey .reset id ≠
      redisKey .login id') hstep
  cases l with
  | tick t =>
    obtain ⟨-, rfl, -⟩ := loginStep_tick hstep
    exact frames_of_redis rfl rfl fun _ => rfl
  | start challengeId email code readAt =>
    obtain ⟨-, hcreate, -⟩ := loginStep_start hstep
    exact frames_create hredis (by simp) hcreate
  | delivered challengeId outcome =>
    obtain ⟨hdel, -⟩ := loginStep_delivered hstep
    exact frames_delivered hredis (by simp) hdel
  | load i challengeId email code =>
    obtain ⟨-, ⟨r, -, rfl, -⟩ | ⟨rfl, -⟩⟩ := loginStep_load hstep <;>
      exact frames_of_redis rfl rfl hkeys
  | check i =>
    obtain ⟨_, _, _, _, -, ⟨rfl, -⟩ | ⟨d, -, -, rfl, -⟩⟩ := loginStep_check hstep <;> exact .refl
  | write i =>
    obtain ⟨_, _, _, _, d, -, rfl, -⟩ := loginStep_write hstep
    exact frames_of_redis rfl rfl hkeys
  | grant i =>
    obtain ⟨_, _, -, rfl, -⟩ := loginStep_grant hstep
    exact .refl

/-! ### The reset flow -/

section Reset
variable {s s' u : OtpState} {es : List ResetEvent} {l : ResetLabel}

/-- **States that look alike to the reset flow go on looking alike.** -/
theorem sameFor_resetStep (h : s.SameFor .reset u) (hredis : svc.usesRedis = true)
    (hstep : resetStep rt svc s l = some (s', es)) :
    ∃ u', resetStep rt svc u l = some (u', es) ∧ s'.SameFor .reset u' := by
  cases l with
  | tick t =>
    obtain ⟨hle, rfl, rfl⟩ := resetStep_tick hstep
    have htick : u.tick t = some { u with now := t } :=
      tick_eq_some.mpr ⟨h.now.symm ▸ hle, rfl⟩
    refine ⟨{ u with now := t }, ?_, ⟨rfl, h.issued, h.delivering, h.redis⟩⟩
    simp only [resetStep, htick, Option.map_some]
  | start challengeId email accountType databaseId code readAt =>
    obtain ⟨hcode, hcreate, rfl⟩ := resetStep_start hstep
    obtain ⟨u', hcreate', hsame⟩ := h.create hredis hcreate
    refine ⟨u', ?_, hsame⟩
    simp only [resetStep, if_pos hcode, hcreate', Option.map_some]
  | delivered challengeId outcome =>
    obtain ⟨hdel, rfl⟩ := resetStep_delivered hstep
    obtain ⟨u', hdel', hsame⟩ := h.delivered hredis hdel
    refine ⟨u', ?_, hsame⟩
    simp only [resetStep, hdel', Option.map_some]
  | verify challengeId email code readAt =>
    -- the script reads and writes reset keys only, and on these the two stores agree
    simp only [resetStep] at hstep
    split_ifs at hstep with hread
    obtain ⟨rfl, rfl⟩ := Prod.mk.inj (Option.some.inj hstep)
    obtain ⟨hverdict, hst⟩ :=
      agree_verifyReset rt s.now readAt challengeId email code hredis h.redis
    refine ⟨{ u with
        stores := (u.stores.verifyReset rt svc u.now readAt challengeId email code).2 },
      ?_, ⟨h.now, h.issued, h.delivering, ?_⟩⟩
    · simp only [resetStep]
      rw [if_pos (h.now.symm ▸ hread), h.now, hverdict]
    · rw [h.now]
      exact hst

/-- A reset step is none of the login system's business, but for the clock. -/
theorem frames_resetStep (hredis : svc.usesRedis = true)
    (hstep : resetStep rt svc s l = some (s', es)) : s.Frames .login s' := by
  have hkeys := fun id => resetStep_redis
    (redisKey_login_ne_reset id : ∀ id', redisKey .login id ≠ redisKey .reset id') hstep
  cases l with
  | tick t =>
    obtain ⟨-, rfl, -⟩ := resetStep_tick hstep
    exact frames_of_redis rfl rfl fun _ => rfl
  | start challengeId email accountType databaseId code readAt =>
    obtain ⟨-, hcreate, -⟩ := resetStep_start hstep
    exact frames_create hredis (by simp) hcreate
  | delivered challengeId outcome =>
    obtain ⟨hdel, -⟩ := resetStep_delivered hstep
    exact frames_delivered hredis (by simp) hdel
  | verify challengeId email code readAt =>
    obtain ⟨rfl, -⟩ := resetStep_verify hstep
    exact frames_of_redis rfl rfl hkeys

end Reset

/-! ### The confirm system -/

section Confirm
variable {usesRedis : Bool} {tokenTtlSeconds : ℕ} {s s' u m : ConfirmState}
  {es : List ConfirmEvent} {l : ConfirmLabel}

/-- The confirm system sees no difference. -/
structure SameMarks (s u : ConfirmState) : Prop where
  now : u.now = s.now
  minted : u.minted = s.minted
  calls : u.calls = s.calls
  blacklist : u.store.blacklist = s.store.blacklist
  redis : AgreeOn IsMark s.store.redis u.store.redis

theorem SameMarks.refl (s : ConfirmState) : SameMarks s s := ⟨rfl, rfl, rfl, rfl, .refl _ _⟩

/-- It still sees none when the others have moved and its clock has followed. -/
theorem SameMarks.others (h : SameMarks s u) (hsame : SameConfirms s m) :
    SameMarks m { u with now := m.now } where
  now := rfl
  minted := h.minted.trans hsame.minted.symm
  calls := h.calls.trans hsame.calls.symm
  blacklist := h.blacklist.trans hsame.blacklist.symm
  redis := by
    rintro _ ⟨jti, rfl⟩
    exact (h.redis _ (isMark_blacklistKey jti)).trans (hsame.marks jti).symm

/-- One call moves in both. -/
theorem SameMarks.move (h : SameMarks s u) (i : ℕ) (call : ConfirmCall) :
    SameMarks (s.setCall i call) (u.setCall i call) where
  now := h.now
  minted := h.minted
  calls := by
    show Function.update u.calls i call = Function.update s.calls i call
    rw [h.calls]
  blacklist := h.blacklist
  redis := h.redis

/-- A reservation answers alike in both. -/
theorem SameMarks.reserve (usesRedis : Bool) (h : SameMarks s u) (clockAt : Instant)
    (jti : String) (ttlSeconds : ℤ) :
    (u.store.reserve usesRedis u.now clockAt jti ttlSeconds).1 =
        (s.store.reserve usesRedis s.now clockAt jti ttlSeconds).1 ∧
      SameMarks { s with store := (s.store.reserve usesRedis s.now clockAt jti ttlSeconds).2 }
        { u with store := (u.store.reserve usesRedis u.now clockAt jti ttlSeconds).2 } := by
  rw [h.now]
  unfold ReservationStore.reserve
  cases usesRedis with
  | true =>
    have hop := ExpiringStore.localTo_setNxEx s.now.seconds (blacklistKey jti) RedisValue.mark
      (max ttlSeconds 1 : ℤ)
    obtain ⟨hanswer, hredis⟩ := hop.agree (isMark_blacklistKey jti) h.redis
    exact ⟨hanswer, rfl, h.minted, h.calls, h.blacklist, hredis⟩
  | false =>
    simp only [Bool.false_eq_true, if_false]
    rw [h.blacklist]
    split
    · exact ⟨rfl, rfl, h.minted, h.calls, rfl, h.redis⟩
    · exact ⟨rfl, rfl, h.minted, h.calls, rfl, h.redis⟩

theorem SameMarks.release (h : SameMarks s u) (jti : String) :
    SameMarks { s with store := s.store.release usesRedis jti }
      { u with store := u.store.release usesRedis jti } := by
  unfold ReservationStore.release
  cases usesRedis with
  | true =>
    have hop : LocalTo (blacklistKey jti) fun redis : Redis =>
        ((), ExpiringStore.del redis (blacklistKey jti)) := ExpiringStore.localTo_del _
    exact ⟨h.now, h.minted, h.calls, h.blacklist, (hop.agree (isMark_blacklistKey jti) h.redis).2⟩
  | false => exact ⟨h.now, h.minted, h.calls, by rw [h.blacklist]; rfl, h.redis⟩

/-- **States that look alike to the confirm system go on looking alike.** -/
theorem SameMarks.step (h : SameMarks s u)
    (hstep : confirmStep rt usesRedis tokenTtlSeconds s l = some (s', es)) :
    ∃ u', confirmStep rt usesRedis tokenTtlSeconds u l = some (u', es) ∧ SameMarks s' u' := by
  cases l with
  | tick t =>
    obtain ⟨hle, rfl, rfl⟩ := confirmStep_tick hstep
    refine ⟨{ u with now := t }, ?_, rfl, h.minted, h.calls, h.blacklist, h.redis⟩
    simp only [confirmStep]
    exact if_pos (h.now.symm ▸ hle)
  | mint jti email accountType databaseId =>
    simp only [confirmStep] at hstep ⊢
    rw [h.minted, h.now]
    split_ifs at hstep ⊢ with hfresh
    obtain ⟨rfl, rfl⟩ := Prod.mk.inj (Option.some.inj hstep)
    exact ⟨_, rfl, rfl, rfl, h.calls, h.blacklist, h.redis⟩
  | submit i token newPassword =>
    -- the check reads the token, the clock and the list of minted tokens, and no store
    simp only [confirmStep] at hstep ⊢
    rw [h.calls, h.minted, h.now]
    split at hstep
    · split_ifs at hstep ⊢ with hsigned
      split at hstep <;> obtain ⟨rfl, rfl⟩ := Prod.mk.inj (Option.some.inj hstep)
      · exact ⟨_, rfl, h.move i _⟩
      · exact ⟨_, rfl, h.move i _⟩
    · exact absurd hstep (by simp)
  | reserve i measuredAt clockAt =>
    obtain ⟨claims, newPassword, checkedAt, hcall, -⟩ := confirmStep_reserve hstep
    have hcall' : u.calls i = .checked claims newPassword checkedAt :=
      (congrFun h.calls i).trans hcall
    -- the two stores have the same marks, so they answer alike
    obtain ⟨hanswer, hsame⟩ := h.reserve usesRedis clockAt claims.jti
      (max (claims.exp - measuredAt.whole) 1)
    simp only [confirmStep, hcall, hcall'] at hstep ⊢
    rw [Option.ite_none_right_eq_some] at hstep
    obtain ⟨htimes, heq⟩ := hstep
    obtain ⟨rfl, rfl⟩ := Prod.mk.inj (Option.some.inj heq)
    refine ⟨_, if_pos (h.now.symm ▸ htimes), ?_⟩
    rw [hanswer]
    exact hsame.move i _
  | post i =>
    obtain ⟨claims, newPassword, hcall, rfl, rfl⟩ := confirmStep_post hstep
    have hcall' : u.calls i = .reserved claims newPassword := (congrFun h.calls i).trans hcall
    refine ⟨_, ?_, h.move i (.posting claims)⟩
    simp only [confirmStep, hcall']
  | respond i outcome =>
    obtain ⟨claims, answered, hcall, -⟩ := confirmStep_respond hstep
    have hcall' : u.calls i = .posting claims := (congrFun h.calls i).trans hcall
    simp only [confirmStep, hcall, hcall'] at hstep ⊢
    split at hstep <;> obtain ⟨rfl, rfl⟩ := Prod.mk.inj (Option.some.inj hstep)
    · exact ⟨_, rfl, h.move i _⟩
    · exact ⟨_, rfl, h.move i _⟩
  | release i =>
    obtain ⟨claims, error, hcall, rfl, rfl⟩ := confirmStep_release hstep
    have hcall' : u.calls i = .failed claims error := (congrFun h.calls i).trans hcall
    refine ⟨_, ?_, (h.release claims.jti).move i (.raised error)⟩
    simp only [confirmStep, hcall']

end Confirm

/-! ### Steps of the application -/

/-- The events of the reset flow. -/
def resetFlowEvents (h : List AppEvent) : List ResetEvent :=
  h.filterMap fun e =>
    match e with
    | .reset event => some event
    | _ => none

@[simp] theorem resetFlowEvents_append (h h' : List AppEvent) :
    resetFlowEvents (h ++ h') = resetFlowEvents h ++ resetFlowEvents h' := List.filterMap_append

@[simp] theorem resetFlowEvents_reset (es : List ResetEvent) :
    resetFlowEvents (es.map .reset) = es := by
  unfold resetFlowEvents
  rw [List.filterMap_map]
  exact List.filterMap_some

@[simp] theorem resetFlowEvents_login (es : List LoginEvent) :
    resetFlowEvents (es.map .login) = [] := by
  unfold resetFlowEvents
  rw [List.filterMap_map]
  exact List.filterMap_eq_nil_iff.mpr fun _ _ => rfl

@[simp] theorem resetFlowEvents_confirm (es : List ConfirmEvent) :
    resetFlowEvents (es.map .confirm) = [] := by
  unfold resetFlowEvents
  rw [List.filterMap_map]
  exact List.filterMap_eq_nil_iff.mpr fun _ _ => rfl

section Steps
variable {s s' : AppState} {es : List AppEvent} {l : AppLabel}

/-- A step of the update with a reset token is none of either flow's business. -/
theorem frames_onConfirm {flow : Flow} {cl : ConfirmLabel}
    (hstep : s.onConfirm rt svc settings cl = some (s', es)) : s.otp.Frames flow s'.otp := by
  obtain ⟨t, ces, hconfirm, rfl, -⟩ := onConfirm_eq_some hstep
  refine frames_of_redis rfl rfl fun id => confirmStep_redis (fun jti => ?_) hconfirm
  cases flow with
  | login => exact redisKey_login_ne_blacklistKey id jti
  | reset => exact redisKey_reset_ne_blacklistKey id jti

/-- What the login system sees of a step: a clock that may have moved, or a step of its own. -/
theorem appStep_login_cases (hredis : svc.usesRedis = true)
    (hstep : appStep rt svc settings s l = some (s', es)) :
    (s.otp.Frames .login s'.otp ∧ s'.logins = s.logins ∧ loginEvents es = []) ∨
      ∃ l', loginStep rt svc s.loginState l' = some (s'.loginState, loginEvents es) := by
  -- a request of the login flow steps the login system; no other step reaches a login key
  by_cases hlogin : l.isLoginRequest = true
  · cases l with
    | startLogin tables email password challengeId code readAt =>
      obtain ⟨rfl, rfl⟩ | ⟨identity, les, -, hon, rfl⟩ := appStep_startLogin hstep
      · exact Or.inl ⟨.refl, rfl, rfl⟩
      · obtain ⟨t, les, hstart, rfl, rfl⟩ := onLogin_eq_some hon
        refine Or.inr ⟨.start challengeId identity.email code readAt, ?_⟩
        rw [loginEvents_append, loginEvents_login, hstart]
        exact congrArg (fun es => some (t, es)) (List.append_nil les).symm
    | login l =>
      obtain ⟨-, hon⟩ := appStep_login hstep
      obtain ⟨t, les, hlog, rfl, rfl⟩ := onLogin_eq_some hon
      exact Or.inr ⟨l, by rw [loginEvents_login]; exact hlog⟩
    | _ => exact absurd hlogin (by simp [AppLabel.isLoginRequest])
  · have hother : l.isLoginRequest = false := by simpa using hlogin
    refine Or.inl ⟨?_, logins_of_otherStep hother hstep, loginEvents_of_otherStep hother hstep⟩
    cases l with
    | tick t =>
      obtain ⟨otp, res, htick, rfl, -⟩ := onReset_eq_some hstep
      exact frames_resetStep hredis htick
    | startReset tables email accountType resetId code readAt =>
      obtain ⟨rfl, -⟩ | ⟨identity, res, -, hon, -⟩ := appStep_startReset hstep
      · exact .refl
      · obtain ⟨otp, res, hstart, rfl, -⟩ := onReset_eq_some hon
        exact frames_resetStep hredis hstart
    | resetDelivered resetId outcome =>
      obtain ⟨otp, res, hdelivered, rfl, -⟩ := onReset_eq_some hstep
      exact frames_resetStep hredis hdelivered
    | verifyReset resetId email code readAt jti =>
      obtain ⟨hotp, -⟩ := appStep_verifyReset hstep
      rw [hotp]
      exact frames_of_redis rfl rfl fun id =>
        redis_verifyReset_ne (redisKey_login_ne_reset id resetId)
    | confirm l => exact frames_onConfirm (appStep_confirm hstep).2
    | passwordToken email =>
      obtain ⟨rfl, -⟩ := appStep_passwordToken hstep
      exact .refl
    | startLogin => exact absurd hother (by simp [AppLabel.isLoginRequest])
    | login => exact absurd hother (by simp [AppLabel.isLoginRequest])

/-- What the reset flow sees of a step. -/
theorem appStep_reset_cases (hredis : svc.usesRedis = true)
    (hstep : appStep rt svc settings s l = some (s', es)) :
    (s.otp.Frames .reset s'.otp ∧ resetFlowEvents es = []) ∨
      ∃ l', resetStep rt svc s.otp l' = some (s'.otp, resetFlowEvents es) := by
  cases l with
  | tick t =>
    obtain ⟨otp, res, htick, rfl, rfl⟩ := onReset_eq_some hstep
    exact Or.inr ⟨_, by rw [resetFlowEvents_reset]; exact htick⟩
  | startLogin tables email password challengeId code readAt =>
    obtain ⟨rfl, rfl⟩ | ⟨identity, les, -, hon, rfl⟩ := appStep_startLogin hstep
    · exact Or.inl ⟨.refl, rfl⟩
    · obtain ⟨t, les, hlog, rfl, rfl⟩ := onLogin_eq_some hon
      refine Or.inl ⟨frames_loginStep hredis hlog, ?_⟩
      rw [resetFlowEvents_append, resetFlowEvents_login, List.nil_append]
      rfl
  | login l =>
    obtain ⟨-, hon⟩ := appStep_login hstep
    obtain ⟨t, les, hlog, rfl, rfl⟩ := onLogin_eq_some hon
    exact Or.inl ⟨frames_loginStep hredis hlog, resetFlowEvents_login les⟩
  | startReset tables email accountType resetId code readAt =>
    obtain ⟨rfl, rfl⟩ | ⟨identity, res, -, hon, rfl⟩ := appStep_startReset hstep
    · exact Or.inl ⟨.refl, rfl⟩
    · obtain ⟨otp, res, hstart, rfl, rfl⟩ := onReset_eq_some hon
      refine Or.inr ⟨.start resetId identity.email identity.accountType.value
        identity.databaseId code readAt, ?_⟩
      rw [resetFlowEvents_append, resetFlowEvents_reset]
      exact hstart.trans (congrArg (fun es => some (otp, es)) (List.append_nil res).symm)
  | resetDelivered resetId outcome =>
    obtain ⟨otp, res, hdelivered, rfl, rfl⟩ := onReset_eq_some hstep
    exact Or.inr ⟨_, by rw [resetFlowEvents_reset]; exact hdelivered⟩
  | verifyReset resetId email code readAt jti =>
    simp only [appStep] at hstep
    split_ifs at hstep
    obtain ⟨⟨s₁, es₁⟩, hverify, hrest⟩ := Option.bind_eq_some_iff.mp hstep
    obtain ⟨⟨s₂, es₂⟩, hmint, heq⟩ := Option.map_eq_some_iff.mp hrest
    obtain ⟨rfl, rfl⟩ := Prod.mk.inj heq
    obtain ⟨otp, res, hreset, rfl, rfl⟩ := onReset_eq_some hverify
    obtain ⟨hotp, -⟩ := mintFor_eq_some hmint
    -- the token minted for an accepted code is the confirm system's event, not the flow's
    have hevents : resetFlowEvents es₂ = [] := by
      obtain ⟨-, rfl⟩ | ⟨tokenEmail, accountType, databaseId, hon⟩ := mintFor_view hmint
      · rfl
      · obtain ⟨t, ces, -, -, rfl⟩ := onConfirm_eq_some hon
        exact resetFlowEvents_confirm ces
    refine Or.inr ⟨.verify resetId email code readAt, ?_⟩
    rw [hotp, resetFlowEvents_append, hevents, resetFlowEvents_reset]
    exact hreset
  | confirm l =>
    obtain ⟨-, hon⟩ := appStep_confirm hstep
    obtain ⟨t, ces, -, -, rfl⟩ := onConfirm_eq_some hon
    exact Or.inl ⟨frames_onConfirm hon, resetFlowEvents_confirm ces⟩
  | passwordToken email =>
    obtain ⟨rfl, rfl⟩ := appStep_passwordToken hstep
    exact Or.inl ⟨.refl, by split_ifs <;> rfl⟩

end Steps

/-! ### Runs of the application -/

section Runs
variable {now : Instant} {ls : List AppLabel} {c c' : Config AppState AppEvent} {l : AppLabel}

theorem meets_trivially {σ ι ε : Type*} (S : System σ ι ε) (c : Config σ ε) (ls : List ι) :
    S.Meets (fun _ _ => True) c ls := S.meets_of_forall c fun _ _ => trivial

/-- A step of the application, in the login system. -/
theorem login_simulated (hredis : svc.usesRedis = true) {d : Config LoginState LoginEvent}
    (hsame : SameForLogin c.state.loginState d.state) (hhist : d.history = loginEvents c.history)
    (hnext : (appSystem rt svc settings).next c l = some c') :
    ∃ ls' d', (loginSystem rt svc).Meets (fun _ _ => True) d ls' ∧
      (loginSystem rt svc).run d ls' = some d' ∧ SameForLogin c'.state.loginState d'.state ∧
        d'.history = loginEvents c'.history := by
  obtain ⟨es, hstep, hevents⟩ := (appSystem rt svc settings).next_eq_some.mp hnext
  have hclock := (appStep_advances hstep).clock
  rw [hevents, loginEvents_append, ← hhist]
  obtain ⟨hframes, hlogins, hes⟩ | ⟨l', hlog⟩ := appStep_login_cases hredis hstep
  · -- the others moved, and the clock with them
    have htick : loginStep rt svc d.state (.tick c'.state.otp.now) =
        some ({ d.state with otp := { d.state.otp with now := c'.state.otp.now } }, []) := by
      have h : d.state.otp.tick c'.state.otp.now =
          some { d.state.otp with now := c'.state.otp.now } :=
        tick_eq_some.mpr ⟨hsame.otp.now.symm ▸ hclock, rfl⟩
      simp only [loginStep, h, Option.map_some]
    exact ⟨[.tick c'.state.otp.now], _, meets_trivially (loginSystem rt svc) _ _,
      (loginSystem rt svc).run_one htick,
      ⟨hsame.otp.frames hframes, hsame.calls.trans hlogins.symm⟩, by rw [hes]⟩
  · obtain ⟨u', hlog', hsame'⟩ := hsame.step hredis hlog
    exact ⟨[l'], _, meets_trivially (loginSystem rt svc) _ _, (loginSystem rt svc).run_one hlog',
      hsame', rfl⟩

/-- **A run of the application is a run of the login system.** -/
theorem login_composed (hredis : svc.usesRedis = true)
    (hrun : (appSystem rt svc settings).run (Config.start (AppState.init now)) ls = some c) :
    ∃ ls' d, (loginSystem rt svc).run (Config.start (LoginState.init now)) ls' = some d ∧
      SameForLogin c.state.loginState d.state ∧ d.history = loginEvents c.history := by
  have hstart : SameForLogin (AppState.init now).loginState (LoginState.init now) :=
    ⟨.refl _ _, rfl⟩
  obtain ⟨ls', d, -, hd⟩ := System.run_simulated
    (R := fun c (t : LoginState) => SameForLogin c.state.loginState t) (f := loginEvents)
    (d := Config.start (LoginState.init now))
    (fun _ _ _ _ hsame hhist _ => login_simulated hredis hsame hhist) hstart rfl
    (meets_trivially (appSystem rt svc settings) _ _) hrun
  exact ⟨ls', d, hd⟩

/-- A step of the application, in the reset flow. -/
theorem reset_simulated (hredis : svc.usesRedis = true) {d : Config OtpState ResetEvent}
    (hsame : c.state.otp.SameFor .reset d.state) (hhist : d.history = resetFlowEvents c.history)
    (hnext : (appSystem rt svc settings).next c l = some c') :
    ∃ ls' d', (resetSystem rt svc).Meets (fun _ _ => True) d ls' ∧
      (resetSystem rt svc).run d ls' = some d' ∧ c'.state.otp.SameFor .reset d'.state ∧
        d'.history = resetFlowEvents c'.history := by
  obtain ⟨es, hstep, hevents⟩ := (appSystem rt svc settings).next_eq_some.mp hnext
  have hclock := (appStep_advances hstep).clock
  rw [hevents, resetFlowEvents_append, ← hhist]
  obtain ⟨hframes, hes⟩ | ⟨l', hreset⟩ := appStep_reset_cases hredis hstep
  · have htick : resetStep rt svc d.state (.tick c'.state.otp.now) =
        some ({ d.state with now := c'.state.otp.now }, []) := by
      have h : d.state.tick c'.state.otp.now = some { d.state with now := c'.state.otp.now } :=
        tick_eq_some.mpr ⟨hsame.now.symm ▸ hclock, rfl⟩
      simp only [resetStep, h, Option.map_some]
    exact ⟨[.tick c'.state.otp.now], _, meets_trivially (resetSystem rt svc) _ _,
      (resetSystem rt svc).run_one htick, hsame.frames hframes, by rw [hes]⟩
  · obtain ⟨u', hreset', hsame'⟩ := sameFor_resetStep hsame hredis hreset
    exact ⟨[l'], _, meets_trivially (resetSystem rt svc) _ _,
      (resetSystem rt svc).run_one hreset', hsame', rfl⟩

/-- **A run of the application is a run of the reset flow.** -/
theorem reset_composed (hredis : svc.usesRedis = true)
    (hrun : (appSystem rt svc settings).run (Config.start (AppState.init now)) ls = some c) :
    ∃ ls' d, (resetSystem rt svc).run (Config.start (OtpState.init now)) ls' = some d ∧
      c.state.otp.SameFor .reset d.state ∧ d.history = resetFlowEvents c.history := by
  obtain ⟨ls', d, -, hd⟩ := System.run_simulated
    (R := fun (c : Config AppState AppEvent) (t : OtpState) => c.state.otp.SameFor .reset t)
    (f := resetFlowEvents) (d := Config.start (OtpState.init now))
    (fun _ _ _ _ hsame hhist _ => reset_simulated hredis hsame hhist)
    (OtpState.SameFor.refl .reset (OtpState.init now)) rfl
    (meets_trivially (appSystem rt svc settings) _ _) hrun
  exact ⟨ls', d, hd⟩

/-- In the application, tokens are reserved only before they expire, and no call raises once Spring
    has answered it with a 200. -/
def ReservesOnceIn (c : Config AppState AppEvent) : AppLabel → Prop
  | .confirm l => ReservesOnce ⟨c.state.confirmState, confirmEvents c.history⟩ l
  | _ => True

instance (c : Config AppState AppEvent) : ∀ l, Decidable (ReservesOnceIn c l)
  | .confirm l => inferInstanceAs (Decidable (ReservesOnce ⟨c.state.confirmState, _⟩ l))
  | .tick _ | .startLogin .. | .login _ | .startReset .. | .resetDelivered .. | .verifyReset ..
  | .passwordToken _ => isTrue trivial

/-- What holds of the reservations and the calls of the application holds of the confirm system. -/
theorem reservesOnce_view {m : ConfirmState} {d : Config ConfirmState ConfirmEvent}
    {cl : ConfirmLabel} {ces : List ConfirmEvent} {t : ConfirmState}
    (hcalls : d.state.calls = c.state.confirms) (hnow : d.state.now = m.now)
    (hlive : ReservesOnceIn c (.confirm cl))
    (hnext : (appSystem rt svc settings).next c (.confirm cl) = some c')
    (hconfirm : confirmStep rt svc.usesRedis settings.passwordResetTokenTtlSeconds m cl =
      some (t, ces)) (hafter : t.now = c'.state.otp.now) : ReservesOnce d cl := by
  obtain ⟨es, hstep, -⟩ := (appSystem rt svc settings).next_eq_some.mp hnext
  obtain ⟨-, hon⟩ := appStep_confirm hstep
  obtain ⟨t', ces', -, hs, -⟩ := onConfirm_eq_some hon
  have hstill : c'.state.otp.now = c.state.otp.now := by rw [hs]; rfl
  have hclock : m.now.seconds ≤ t.now.seconds :=
    (minted_of_next (c := ⟨m, []⟩) ((confirmSystem rt svc.usesRedis
      settings.passwordResetTokenTtlSeconds).next_of_step hconfirm)).2
  cases cl with
  | reserve i measuredAt clockAt =>
    intro claims hclaims
    rw [hcalls] at hclaims
    have hbefore : c.state.otp.now.seconds < claims.exp := hlive claims hclaims
    rw [hafter, hstill] at hclock
    rw [hnow]
    exact hclock.trans_lt hbefore
  | respond i outcome => exact hlive
  | _ => trivial

/-- A step of the application, in the confirm system. -/
theorem confirm_simulated {d : Config ConfirmState ConfirmEvent}
    (hsame : SameMarks c.state.confirmState d.state) (hhist : d.history = confirmEvents c.history)
    (hnext : (appSystem rt svc settings).next c l = some c') :
    ∃ ls' d', (ReservesOnceIn c l →
        (confirmSystem rt svc.usesRedis settings.passwordResetTokenTtlSeconds).Meets
          ReservesOnce d ls') ∧
      (confirmSystem rt svc.usesRedis settings.passwordResetTokenTtlSeconds).run d ls' = some d' ∧
        SameMarks c'.state.confirmState d'.state ∧ d'.history = confirmEvents c'.history := by
  obtain ⟨es, hstep, hevents⟩ := (appSystem rt svc settings).next_eq_some.mp hnext
  rw [hevents, confirmEvents_append, ← hhist]
  obtain ⟨m, hothers, hview⟩ := appStep_confirmView hstep
  -- the clock follows the others first
  have htick : (confirmSystem rt svc.usesRedis settings.passwordResetTokenTtlSeconds).step d.state
      (.tick m.now) = some ({ d.state with now := m.now }, []) :=
    if_pos (hsame.now.symm ▸ hothers.clock)
  have hfollow : (confirmSystem rt svc.usesRedis settings.passwordResetTokenTtlSeconds).run d
      [.tick m.now] = some ⟨{ d.state with now := m.now }, d.history⟩ :=
    (confirmSystem rt svc.usesRedis settings.passwordResetTokenTtlSeconds).run_one htick
  have hfollowed := hsame.others hothers
  obtain ⟨hm, hes⟩ | ⟨l', hconfirm, hl⟩ := hview
  · exact ⟨[.tick m.now], _, fun _ => ⟨trivial, fun _ _ => trivial⟩, hfollow, hm ▸ hfollowed,
      by rw [hes]; rfl⟩
  · obtain ⟨u', hconfirm', hsame'⟩ := hfollowed.step hconfirm
    refine ⟨[.tick m.now] ++ [l'], ⟨u', confirmEvents es ++ d.history⟩, fun hlive => ?_, ?_, hsame',
      rfl⟩
    · refine System.Meets.append _ ⟨trivial, fun _ _ => trivial⟩ fun e he =>
        ⟨?_, fun _ _ => trivial⟩
      obtain rfl := Option.some.inj (hfollow.symm.trans he)
      rcases hl with rfl | ⟨jti, email, accountType, databaseId, rfl⟩
      · exact reservesOnce_view (m := m) hsame.calls rfl hlive hnext hconfirm rfl
      · trivial
    · rw [System.run_append, hfollow]
      exact (confirmSystem rt svc.usesRedis settings.passwordResetTokenTtlSeconds).run_one hconfirm'

/-- **A run of the application is a run of the confirm system**, with Redis and without. -/
theorem confirm_composed
    (hrun : (appSystem rt svc settings).run (Config.start (AppState.init now)) ls = some c) :
    ∃ ls' d, (confirmSystem rt svc.usesRedis settings.passwordResetTokenTtlSeconds).run
        (Config.start (ConfirmState.init now)) ls' = some d ∧
      SameMarks c.state.confirmState d.state ∧ d.history = confirmEvents c.history := by
  have hstart : SameMarks (AppState.init now).confirmState (ConfirmState.init now) := .refl _
  obtain ⟨ls', d, -, hd⟩ := System.run_simulated
    (R := fun (c : Config AppState AppEvent) (t : ConfirmState) => SameMarks c.state.confirmState t)
    (f := confirmEvents) (d := Config.start (ConfirmState.init now))
    (fun _ _ _ _ hsame hhist _ hnext => by
      obtain ⟨ls', d', -, h⟩ := confirm_simulated hsame hhist hnext
      exact ⟨ls', d', meets_trivially (confirmSystem rt svc.usesRedis
        settings.passwordResetTokenTtlSeconds) _ _, h⟩)
    hstart rfl (meets_trivially (appSystem rt svc settings) _ _) hrun
  exact ⟨ls', d, hd⟩

/-- **The flows do not notice one another.** Over Redis, what a run of the application leaves in the
    history of the login system, of the reset flow and of the confirm system is what some run of
    each of them alone leaves, and none of them sees a difference in the state either. -/
theorem flows_composed (hredis : svc.usesRedis = true)
    (hrun : (appSystem rt svc settings).run (Config.start (AppState.init now)) ls = some c) :
    (∃ ls' d, (loginSystem rt svc).run (Config.start (LoginState.init now)) ls' = some d ∧
      SameForLogin c.state.loginState d.state ∧ d.history = loginEvents c.history) ∧
    (∃ ls' d, (resetSystem rt svc).run (Config.start (OtpState.init now)) ls' = some d ∧
      c.state.otp.SameFor .reset d.state ∧ d.history = resetFlowEvents c.history) ∧
    ∃ ls' d, (confirmSystem rt svc.usesRedis settings.passwordResetTokenTtlSeconds).run
        (Config.start (ConfirmState.init now)) ls' = some d ∧
      SameMarks c.state.confirmState d.state ∧ d.history = confirmEvents c.history :=
  ⟨login_composed hredis hrun, reset_composed hredis hrun, confirm_composed hrun⟩

/-- A login and a reset of Ana's, one step of each at a time. -/
def sampleBoth : List AppLabel :=
  [.startLogin sampleTables "ana@ouros.app" "Senha@123" sampleToken "123456" sampleNow,
    .startReset sampleTables "ana@ouros.app" none sampleOtherToken "654321" sampleNow,
    .login (.load 0 sampleToken "ana@ouros.app" "123456"),
    .verifyReset sampleOtherToken "ana@ouros.app" "654321" sampleNow "jti",
    .login (.check 0), .login (.write 0), .login (.grant 0)]

/-- The login of that run, as a run of the login system. -/
theorem flows_composed_ana :
    ∃ c, (appSystem .sample (.sample true) (.sample (some "redis://cache"))).run
        (Config.start (AppState.init sampleNow)) sampleBoth = some c ∧
      ∃ ls' d, (loginSystem .sample (.sample true)).run (Config.start (LoginState.init sampleNow))
        ls' = some d ∧ .granted 0 sampleToken "ana@ouros.app" ∈ d.history := by
  obtain ⟨c, hrun, hgranted⟩ := Option.map_eq_some_iff.mp
    (by decide +kernel :
      ((appSystem .sample (.sample true) (.sample (some "redis://cache"))).run
        (Config.start (AppState.init sampleNow)) sampleBoth).map (fun c =>
          (loginEvents c.history).head?) = some (some (.granted 0 sampleToken "ana@ouros.app")))
  obtain ⟨⟨ls', d, hlogin, -, hhist⟩, -⟩ := flows_composed rfl hrun
  exact ⟨c, hrun, ls', d, hlogin, hhist ▸ List.mem_of_mem_head? hgranted⟩

end Runs

/-! ### One code, one update -/

/-- Spring acknowledged an update with one of these tokens. -/
def AppEvent.acknowledges (tokens : List Claims) : AppEvent → Bool
  | .confirm (.acknowledged _ claims) => claims ∈ tokens
  | _ => false

section Once
variable {s s' : AppState} {es : List AppEvent} {l : AppLabel}

/-- An acknowledged update with this token. -/
def ConfirmEvent.acknowledges (claims : Claims) : ConfirmEvent → Bool
  | .acknowledged _ claims' => claims' = claims
  | _ => false

end Once

end OurosAuth
