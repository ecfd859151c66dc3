import OurosAuth.App.Authorisation
import OurosAuth.EmailOtp.Frame

namespace OurosAuth

open KeyValue Traced

/-!
# Login and reset challenges apart

The two flows share one store and take the challenge id from the request.  Redis keeps them apart by
prefix, whatever the id.  In the process-local map the key of a login challenge is its bare id, and
`"reset:" ++ challengeId` the key of a reset challenge, so `verify` with an id of that shape works
on a reset challenge.  `verify_password_reset` looks at the `purpose` of the record it finds;
`verify` does not.

* `AddressesReset` — a login verification that names a live reset challenge and gets as far as the
  comparison;
* `IsolationKept` — as long as there is none: what the reset records and the login calls look like;
* `keeps_of_loginRequest`, `keeps_of_resetRequest` — what one step of either flow leaves alone.
-/

variable {rt : Runtime} {svc : OtpService} {settings : Settings}

/-! ### Keys of the two flows -/

/-- A login key is a reset key only in the process-local map, and only for an id of one shape. -/
theorem storeKey_login_eq_reset {challengeId resetId : String} :
    storeKey svc .login challengeId = storeKey svc .reset resetId ↔
      svc.usesRedis = false ∧ challengeId = memKey .reset resetId := by
  unfold storeKey
  by_cases hr : svc.usesRedis = true
  · rw [if_pos hr, if_pos hr]
    simp [hr, redisKey_login_ne_reset]
  · rw [if_neg hr, if_neg hr]
    exact ⟨fun hkey => ⟨by simpa using hr, hkey⟩, And.right⟩

/-- A reservation mark of a reset token is under no key of a login challenge. -/
theorem redisKey_login_ne_blacklistKey (challengeId jti : String) :
    redisKey .login challengeId ≠ blacklistKey jti :=
  append_ne_append (by decide) (by decide) (by decide) _ _

/-! ### Requests of the two flows -/

/-- A step of a login route. -/
def AppLabel.isLoginRequest : AppLabel → Bool
  | .startLogin _ _ _ _ _ _ => true
  | .login _ => true
  | _ => false

/-- A step of a route of the password reset. -/
def AppLabel.isResetRequest : AppLabel → Bool
  | .startReset _ _ _ _ _ _ => true
  | .resetDelivered _ _ => true
  | .verifyReset _ _ _ _ _ => true
  | .confirm _ => true
  | _ => false

/-- `hmac.compare_digest` accepts both e-mails. -/
def Comparable (rt : Runtime) (email : String) (r : Record) : Prop :=
  ∃ recordEmail, r.email.asStr? = some recordEmail ∧ isAscii recordEmail = true ∧
    isAscii (rt.normalizeEmail email) = true

/-- A login verification that names a reset challenge which has not expired, with an e-mail the
    comparison accepts. -/
def AddressesReset (rt : Runtime) (svc : OtpService) (s : AppState) : AppLabel → Prop
  | .login (.load _ challengeId email _) =>
      svc.usesRedis = false ∧ ∃ resetId r, challengeId = memKey .reset resetId ∧
        s.otp.stores.find? svc s.otp.now challengeId = some r ∧ Comparable rt email r
  | _ => False

/-! ### The invariant -/

/-- A login call does no harm to a reset challenge: it is about to raise a type error, or the
    challenge it works on has expired. -/
def Harmless (rt : Runtime) (svc : OtpService) (s : AppState) : LoginCall → Prop
  | .loaded challengeId email _ r => ∀ resetId, challengeId = memKey .reset resetId →
      resetId ∈ s.otp.issued ∧ ¬ Comparable rt email r ∧
        (∃ c, r.checked? = some c ∧ c.attempts < svc.maxAttempts) ∧
        ∀ r', s.otp.stores.find? svc s.otp.now challengeId = some r' → r'.expiresAt = r.expiresAt
  | .decided challengeId _ _ _ d => ∀ resetId, challengeId = memKey .reset resetId →
      resetId ∈ s.otp.issued ∧ d = .reject ∧
        s.otp.stores.find? svc s.otp.now challengeId = none
  | _ => True

/-- What holds of the process-local map as long as no login call addresses a reset challenge. -/
structure MapKept (rt : Runtime) (svc : OtpService) (s : AppState) : Prop where
  stored : ∀ resetId r, s.otp.stores.find? svc s.otp.now (memKey .reset resetId) = some r →
    resetId ∈ s.otp.issued ∧ ∃ c, r.checked? = some c ∧ c.attempts < svc.maxAttempts
  calls : ∀ i, Harmless rt svc s (s.logins i)

/-- What isolation rests on. -/
structure IsolationKept (rt : Runtime) (svc : OtpService) (s : AppState) : Prop where
  delivering : ∀ challengeId, (Flow.login, challengeId) ∈ s.otp.delivering →
    isChallengeToken challengeId = true
  memory : svc.usesRedis = false → MapKept rt svc s

theorem isolationKept_init (now : Instant) : IsolationKept rt svc (AppState.init now) where
  delivering := by simp [AppState.init, OtpState.init]
  memory := fun hmem => by
    refine ⟨fun resetId r hfound => ?_, fun i => trivial⟩
    exact absurd hfound (by
      simp [AppState.init, OtpState.init, OtpStores.empty, OtpStores.find?, hmem, cleanupMemory,
        Dict.get?_filter])

variable {s s' : AppState} {es : List AppEvent}

/-- The live reset records after a step: those before it, some with one attempt more, and that of a
    challenge just created. -/
def Continues (svc : OtpService) (s s' : AppState) : Prop :=
  ∀ resetId r', s'.otp.stores.find? svc s'.otp.now (memKey .reset resetId) = some r' →
    (∃ r, s.otp.stores.find? svc s.otp.now (memKey .reset resetId) = some r ∧
      (r' = r ∨ ∃ n : ℤ, n < svc.maxAttempts ∧ r' = r.withAttempts n)) ∨
    resetId ∉ s.otp.issued ∧ resetId ∈ s'.otp.issued ∧
      ∃ c, r'.checked? = some c ∧ c.attempts < svc.maxAttempts

/-- A harmless call stays harmless while other parties move. -/
theorem Harmless.later {call : LoginCall} (hcall : Harmless rt svc s call)
    (hcont : Continues svc s s') (hissued : s.otp.issued ⊆ s'.otp.issued) :
    Harmless rt svc s' call := by
  cases call with
  | loaded challengeId email code r =>
    rintro resetId rfl
    obtain ⟨hid, hcomparable, hchecked, hexpires⟩ := hcall resetId rfl
    refine ⟨hissued hid, hcomparable, hchecked, fun r' hfound => ?_⟩
    rcases hcont resetId r' hfound with ⟨r₀, hr₀, rfl | ⟨n, -, rfl⟩⟩ | ⟨hfresh, -⟩
    · exact hexpires r' hr₀
    · exact hexpires r₀ hr₀
    · exact absurd hid hfresh
  | decided challengeId email code r d =>
    rintro resetId rfl
    obtain ⟨hid, hd, hgone⟩ := hcall resetId rfl
    refine ⟨hissued hid, hd, Option.eq_none_iff_forall_ne_some.mpr fun r' hfound => ?_⟩
    rcases hcont resetId r' hfound with ⟨r₀, hr₀, -⟩ | ⟨hfresh, -⟩
    · exact absurd (hgone.symm.trans hr₀) (by simp)
    · exact hfresh hid
  | idle => trivial
  | verified challengeId email => trivial
  | granted => trivial
  | raised => trivial

/-- **Frame rule.** A step keeps the invariant when it accounts for the live reset records and for
    the calls it moves. -/
theorem MapKept.step (hkept : MapKept rt svc s) (hcont : Continues svc s s')
    (hissued : s.otp.issued ⊆ s'.otp.issued)
    (hcalls : ∀ i, s'.logins i = s.logins i ∨ Harmless rt svc s' (s'.logins i)) :
    MapKept rt svc s' where
  stored := fun resetId r' hfound => by
    rcases hcont resetId r' hfound with ⟨r, hr, hsame | ⟨n, hn, rfl⟩⟩ | ⟨-, hid, hchecked⟩
    · obtain ⟨hid, hchecked⟩ := hkept.stored resetId r hr
      exact ⟨hissued hid, hsame ▸ hchecked⟩
    · obtain ⟨hid, c, hc, -⟩ := hkept.stored resetId r hr
      exact ⟨hissued hid, _, Record.checked?_withAttempts hc n, hn⟩
    · exact ⟨hid, hchecked⟩
  calls := fun i => by
    rcases hcalls i with hsame | hmoved
    · rw [hsame]
      exact (hkept.calls i).later hcont hissued
    · exact hmoved

/-- Stores that keep every reset key continue the records. -/
theorem continues_of_keeps (hmem : svc.usesRedis = false) (hnow : s'.otp.now = s.otp.now)
    (hkeeps : ∀ resetId,
      s.otp.stores.Keeps svc (storeKey svc .reset resetId) s.otp.now s'.otp.stores) :
    Continues svc s s' := by
  intro resetId r' hfound
  have hkey : storeKey svc .reset resetId = memKey .reset resetId := by simp [storeKey, hmem]
  have hsame := hkeeps resetId s.otp.now le_rfl
  rw [hkey] at hsame
  rw [hnow, hsame] at hfound
  exact Or.inl ⟨r', hfound, Or.inl rfl⟩

/-! ### Login steps -/

/-- **No step of a login route changes a live reset record.** -/
theorem keeps_of_loginRequest {l : AppLabel} (hkept : IsolationKept rt svc s)
    (hlogin : l.isLoginRequest = true) (hstep : appStep rt svc settings s l = some (s', es))
    (resetId : String) :
    s.otp.stores.Keeps svc (storeKey svc .reset resetId) s.otp.now s'.otp.stores := by
  cases l with
  | startLogin tables email password challengeId code readAt =>
    obtain ⟨rfl, -⟩ | ⟨identity, les, -, hlog, -⟩ := appStep_startLogin hstep
    · exact .refl
    · obtain ⟨t, les, hstart, rfl, -⟩ := onLogin_eq_some hlog
      obtain ⟨-, hcreate, -⟩ := loginStep_start hstart
      have htoken := (create_eq_some.mp hcreate).1
      exact keeps_create (storeKey_login_ne_reset htoken resetId).symm hcreate
  | login l =>
    obtain ⟨hroute, hon⟩ := appStep_login hstep
    obtain ⟨t, les, hlog, rfl, -⟩ := onLogin_eq_some hon
    cases l with
    | tick t => exact absurd hroute (by simp [LoginLabel.isVerifyStep])
    | start challengeId email code readAt =>
      exact absurd hroute (by simp [LoginLabel.isVerifyStep])
    | delivered challengeId outcome =>
      obtain ⟨hdel, -⟩ := loginStep_delivered hlog
      have htoken := hkept.delivering challengeId (delivered_eq_some hdel).1
      exact keeps_delivered (storeKey_login_ne_reset htoken resetId).symm hdel
    | load i challengeId email code =>
      obtain ⟨-, ⟨r, -, rfl, -⟩ | ⟨rfl, -⟩⟩ := loginStep_load hlog
      · exact keeps_load _
      · exact keeps_load _
    | check i =>
      obtain ⟨challengeId, email, code, r, -, ⟨rfl, -⟩ | ⟨d, -, -, rfl, -⟩⟩ := loginStep_check hlog
      · exact .refl
      · exact .refl
    | write i =>
      obtain ⟨challengeId, email, code, r, d, hcall, rfl, -⟩ := loginStep_write hlog
      by_cases hkey : storeKey svc .login challengeId = storeKey svc .reset resetId
      · obtain ⟨hmem, hid⟩ := storeKey_login_eq_reset.mp hkey
        have hharmless := (hkept.memory hmem).calls i
        rw [show s.logins i = _ from hcall] at hharmless
        obtain ⟨-, rfl, hgone⟩ := hharmless resetId hid
        -- what the call deletes has expired
        have hbare : storeKey svc .login challengeId = challengeId := by
          simp [storeKey, hmem, memKey]
        rw [← hkey, hbare]
        intro t hle
        have hbefore : s.otp.stores.find? svc t challengeId = none :=
          find?_eq_none_of_later hle hgone
        exact (find?_delete_eq_none hbefore).trans hbefore.symm
      · exact keeps_store d (Ne.symm hkey)
    | grant i =>
      obtain ⟨challengeId, email, -, rfl, -⟩ := loginStep_grant hlog
      exact .refl
  | _ => exact absurd hlogin (by simp [AppLabel.isLoginRequest])

/-- On a record whose e-mail cannot be compared the submission is rejected or raises. -/
theorem decideVerify_of_not_comparable {now : ℤ} {challengeId email code : String} {r : Record}
    {c : CheckedRecord} (hc : r.checked? = some c) (hattempts : c.attempts < svc.maxAttempts)
    (hcomparable : ¬ Comparable rt email r) :
    decideVerify rt svc now challengeId email code r =
      if c.expiresAt ≤ now then .reject else .typeError := by
  have hascii : ¬ (isAscii c.email = true ∧ isAscii (rt.normalizeEmail email) = true) :=
    fun h => hcomparable ⟨c.email, (Record.checked?_eq_some.mp hc).1, h.1, h.2⟩
  unfold decideVerify
  rw [hc]
  by_cases hexpired : c.expiresAt ≤ now
  · simp only [hexpired, true_or, if_true]
  · simp only [hexpired, not_le.mpr hattempts, or_self, if_false, hascii,
      not_false_eq_true, if_true]

/-- A call that names no live reset challenge becomes harmless when it has loaded its record. -/
theorem harmless_loaded {i : ℕ} {challengeId email code : String} {r : Record}
    (hmem : svc.usesRedis = false) (hkept : MapKept rt svc s)
    (hspares : ¬ AddressesReset rt svc s (.login (.load i challengeId email code)))
    (hload : (s.otp.stores.load svc s.otp.now .login challengeId).1 = some r)
    (hnow : s'.otp.now = s.otp.now) (hissued : s'.otp.issued = s.otp.issued)
    (hstores : s'.otp.stores = (s.otp.stores.load svc s.otp.now .login challengeId).2) :
    Harmless rt svc s' (.loaded challengeId email code r) := by
  rintro resetId rfl
  have hfound : s.otp.stores.find? svc s.otp.now (memKey .reset resetId) = some r := by
    rwa [load_eq_find?, storeKey, if_neg (by simp [hmem])] at hload
  obtain ⟨hid, hchecked⟩ := hkept.stored resetId r hfound
  refine ⟨hissued ▸ hid, fun hcomparable => ?_, hchecked, fun r' hr' => ?_⟩
  · exact hspares ⟨hmem, resetId, r, rfl, hfound, hcomparable⟩
  · rw [hstores, hnow, keeps_load _ s.otp.now le_rfl, hfound] at hr'
    rw [Option.some.inj hr']

/-- A harmless call stays so when it has compared. -/
theorem harmless_decided {challengeId email code : String} {r : Record} {d : VerifyDecision}
    (hmem : svc.usesRedis = false)
    (hcall : Harmless rt svc s (.loaded challengeId email code r))
    (hd : decideVerify rt svc s.otp.now.whole challengeId email code r = d)
    (htype : d ≠ .typeError) : Harmless rt svc s (.decided challengeId email code r d) := by
  rintro resetId rfl
  obtain ⟨hid, hcomparable, ⟨c, hc, hattempts⟩, hexpires⟩ := hcall resetId rfl
  rw [decideVerify_of_not_comparable hc hattempts hcomparable] at hd
  split at hd
  · -- the loaded record has expired, and the stored one with it
    rename_i hexpired
    refine ⟨hid, hd.symm, Option.eq_none_iff_forall_ne_some.mpr fun r' hr' => ?_⟩
    have hsame : r'.expiresAt.asInt? = some c.expiresAt := by
      rw [hexpires r' hr']
      exact (Record.checked?_eq_some.mp hc).2.1
    rw [OtpStores.find?, if_neg (by simp [hmem])] at hr'
    have hlive := expiresAt_of_get?_cleanupMemory hsame hr'
    omega
  · exact absurd hd.symm htype

/-- The login routes keep the invariant while they address no reset challenge. -/
theorem MapKept.loginRequest {l : AppLabel} (hmem : svc.usesRedis = false)
    (hkept : IsolationKept rt svc s) (hspares : ¬ AddressesReset rt svc s l)
    (hlogin : l.isLoginRequest = true) (hstep : appStep rt svc settings s l = some (s', es)) :
    MapKept rt svc s' := by
  have hkeeps := keeps_of_loginRequest hkept hlogin hstep
  have hmap := hkept.memory hmem
  -- one call moves, and the others stay as harmless as they were
  have hmove : ∀ (i : ℕ) (call : LoginCall) (stores : OtpStores),
      s' = s.setLogin ((s.loginState.setStores stores).setCall i call) →
      Harmless rt svc s' call → MapKept rt svc s' := by
    rintro i call stores rfl hcall
    refine hmap.step (continues_of_keeps hmem rfl hkeeps) (List.Subset.refl _) fun j => ?_
    by_cases hj : j = i
    · subst hj
      right
      have hself : (s.setLogin ((s.loginState.setStores stores).setCall j call)).logins j = call :=
        setCall_calls_self _ j call
      rwa [hself]
    · exact Or.inl (setCall_calls_ne _ call hj)
  cases l with
  | startLogin tables email password challengeId code readAt =>
    obtain ⟨rfl, -⟩ | ⟨identity, les, -, hlog, -⟩ := appStep_startLogin hstep
    · exact hmap
    · obtain ⟨t, les, hstart, rfl, -⟩ := onLogin_eq_some hlog
      obtain ⟨-, hcreate, hcalls, -⟩ := loginStep_start hstart
      obtain ⟨-, -, -, hotp⟩ := create_eq_some.mp hcreate
      have hnow : t.otp.now = s.otp.now := by rw [hotp]; rfl
      have hissued : t.otp.issued = challengeId :: s.otp.issued := by rw [hotp]; rfl
      refine hmap.step (continues_of_keeps hmem hnow hkeeps) ?_ fun i => Or.inl (congrFun hcalls i)
      exact hissued ▸ List.subset_cons_self _ _
  | login l =>
    obtain ⟨hroute, hon⟩ := appStep_login hstep
    obtain ⟨t, les, hlog, rfl, -⟩ := onLogin_eq_some hon
    cases l with
    | tick t => exact absurd hroute (by simp [LoginLabel.isVerifyStep])
    | start challengeId email code readAt =>
      exact absurd hroute (by simp [LoginLabel.isVerifyStep])
    | delivered challengeId outcome =>
      obtain ⟨hdel, hcalls, -⟩ := loginStep_delivered hlog
      obtain ⟨-, hnow, hissued, -⟩ := delivered_eq_some hdel
      refine hmap.step (continues_of_keeps hmem hnow hkeeps) ?_ fun i => Or.inl (congrFun hcalls i)
      exact hissued ▸ List.Subset.refl _
    | load i challengeId email code =>
      obtain ⟨-, ⟨r, hload, rfl, -⟩ | ⟨rfl, -⟩⟩ := loginStep_load hlog
      · exact hmove i _ _ rfl (harmless_loaded hmem hmap hspares hload rfl rfl rfl)
      · exact hmove i _ _ rfl trivial
    | check i =>
      obtain ⟨challengeId, email, code, r, hcall, ⟨rfl, -⟩ | ⟨d, hd, htype, rfl, -⟩⟩ :=
        loginStep_check hlog
      · exact hmove i _ s.otp.stores rfl trivial
      · have hloaded := hmap.calls i
        rw [show s.logins i = _ from hcall] at hloaded
        exact hmove i _ s.otp.stores rfl (harmless_decided hmem hloaded hd htype)
    | write i =>
      obtain ⟨challengeId, email, code, r, d, hcall, rfl, -⟩ := loginStep_write hlog
      exact hmove i _ _ rfl (by cases d <;> trivial)
    | grant i =>
      obtain ⟨challengeId, email, -, rfl, -⟩ := loginStep_grant hlog
      exact hmove i _ s.otp.stores rfl trivial
  | _ => exact absurd hlogin (by simp [AppLabel.isLoginRequest])

/-! ### Reset steps -/

/-- Minting a token changes neither a challenge nor a login call. -/
theorem mintFor_eq_some {jti : String} {verdict : ResetVerdict}
    (hstep : s.mintFor rt svc settings jti verdict = some (s', es)) :
    s'.otp = s.otp ∧ s'.logins = s.logins := by
  have hnothing : some (s, []) = some (s', es) → s'.otp = s.otp ∧ s'.logins = s.logins := by
    intro heq
    rw [Option.some.injEq, Prod.mk.injEq] at heq
    obtain ⟨rfl, -⟩ := heq
    exact ⟨rfl, rfl⟩
  cases verdict with
  | accepted r =>
    simp only [AppState.mintFor] at hstep
    split at hstep
    · obtain ⟨t, ces, hconfirm, rfl, -⟩ := onConfirm_eq_some hstep
      obtain ⟨claims, -, -, rfl, -⟩ := confirmStep_mint hconfirm
      exact ⟨rfl, rfl⟩
    · exact hnothing hstep
  | absent => exact hnothing hstep
  | rejected => exact hnothing hstep
  | exhausted => exact hnothing hstep
  | wrong => exact hnothing hstep
  | lockedOut => exact hnothing hstep

/-- `verify_password_reset` leaves its stores, whatever is minted afterwards. -/
theorem appStep_verifyReset {challengeId email code jti : String} {readAt : Instant}
    (hstep : appStep rt svc settings s (.verifyReset challengeId email code readAt jti) =
      some (s', es)) :
    s'.otp = { s.otp with
        stores := (s.otp.stores.verifyReset rt svc s.otp.now readAt challengeId email code).2 } ∧
      s'.logins = s.logins := by
  simp only [appStep] at hstep
  split at hstep
  · rw [Option.bind_eq_some_iff] at hstep
    obtain ⟨⟨s₁, es₁⟩, hverify, hmint⟩ := hstep
    rw [Option.map_eq_some_iff] at hmint
    obtain ⟨⟨s₂, es₂⟩, hmint, heq⟩ := hmint
    obtain ⟨rfl, -⟩ := Prod.mk.inj heq
    obtain ⟨otp, res, hreset, rfl, -⟩ := onReset_eq_some hverify
    obtain ⟨rfl, -⟩ := resetStep_verify hreset
    exact mintFor_eq_some hmint
  · exact absurd hstep (by simp)

/-- **No step of a reset route changes a live login record.** -/
theorem keeps_of_resetRequest {l : AppLabel} (hreset : l.isResetRequest = true)
    (hstep : appStep rt svc settings s l = some (s', es)) {challengeId : String}
    (htoken : isChallengeToken challengeId = true) :
    s.otp.stores.Keeps svc (storeKey svc .login challengeId) s.otp.now s'.otp.stores := by
  cases l with
  | startReset tables email accountType resetId code readAt =>
    obtain ⟨rfl, -⟩ | ⟨identity, res, -, hon, -⟩ := appStep_startReset hstep
    · exact .refl
    · obtain ⟨otp, res, hstart, rfl, -⟩ := onReset_eq_some hon
      obtain ⟨-, hcreate, -⟩ := resetStep_start hstart
      exact keeps_create (storeKey_login_ne_reset htoken resetId) hcreate
  | resetDelivered resetId outcome =>
    obtain ⟨otp, res, hdelivered, rfl, rfl⟩ := onReset_eq_some hstep
    obtain ⟨hdel, -⟩ := resetStep_delivered hdelivered
    exact keeps_delivered (storeKey_login_ne_reset htoken resetId) hdel
  | verifyReset resetId email code readAt jti =>
    obtain ⟨hotp, -⟩ := appStep_verifyReset hstep
    rw [hotp]
    exact keeps_verifyReset (storeKey_login_ne_reset htoken resetId)
  | confirm l =>
    obtain ⟨-, hon⟩ := appStep_confirm hstep
    obtain ⟨t, ces, hconfirm, rfl, -⟩ := onConfirm_eq_some hon
    -- reservations share Redis with the challenges, under a prefix of their own
    by_cases hr : svc.usesRedis = true
    · refine keeps_of_redis hr ?_
      rw [storeKey, if_pos hr]
      exact confirmStep_redis (redisKey_login_ne_blacklistKey challengeId) hconfirm
    · exact keeps_of_memory (by simpa using hr) (Or.inl rfl)
  | _ => exact absurd hreset (by simp [AppLabel.isResetRequest])

/-- A verification of a reset challenge leaves its live record, or adds an attempt to it. -/
theorem find?_verifyReset_self {st : OtpStores} {now readAt : Instant}
    {resetId email code : String} {r' : Record} (hmem : svc.usesRedis = false)
    (h : (st.verifyReset rt svc now readAt resetId email code).2.find? svc now
      (memKey .reset resetId) = some r') :
    ∃ r, st.find? svc now (memKey .reset resetId) = some r ∧
      (r' = r ∨ ∃ n : ℤ, n < svc.maxAttempts ∧ r' = r.withAttempts n) := by
  have hr : ¬ svc.usesRedis = true := by simp [hmem]
  unfold OtpStores.find? at h ⊢
  rw [if_neg hr] at h ⊢
  have hstored := get?_cleanupMemory h
  rw [OtpStores.verifyReset, if_neg hr] at hstored
  unfold verifyResetMemory at hstored
  dsimp only at hstored
  split at hstored
  · exact ⟨r', hstored, Or.inl rfl⟩
  · rename_i r hfound
    refine ⟨r, hfound, Or.inr ?_⟩
    have hgone : ¬ ((cleanupMemory now st.memory).erase (memKey .reset resetId)).get?
        (memKey .reset resetId) = some r' := by simp
    split at hstored
    · exact absurd hstored hgone
    · rename_i c hc
      -- every end but a counted wrong code deletes the record
      split_ifs at hstored with _ _ _ hlimit
      · exact absurd hstored hgone
      · exact absurd hstored hgone
      · exact absurd hstored hgone
      · exact absurd hstored hgone
      · refine ⟨c.attempts + 1, not_le.mp hlimit, ?_⟩
        have hset : ((cleanupMemory now st.memory).set (memKey .reset resetId)
            (r.withAttempts (c.attempts + 1))).get? (memKey .reset resetId) = some r' := hstored
        rw [Dict.get?_set_self] at hset
        exact (Option.some.inj hset).symm

/-- The routes of the password reset keep the invariant. -/
theorem MapKept.resetRequest {l : AppLabel} (hmem : svc.usesRedis = false)
    (hkept : MapKept rt svc s) (hreset : l.isResetRequest = true)
    (hstep : appStep rt svc settings s l = some (s', es)) : MapKept rt svc s' := by
  have hkey : ∀ resetId, storeKey svc .reset resetId = memKey .reset resetId := by
    simp [storeKey, hmem]
  cases l with
  | startReset tables email accountType resetId code readAt =>
    obtain ⟨rfl, -⟩ | ⟨identity, res, -, hon, -⟩ := appStep_startReset hstep
    · exact hkept
    · obtain ⟨otp, res, hstart, rfl, -⟩ := onReset_eq_some hon
      obtain ⟨-, hcreate, -⟩ := resetStep_start hstart
      obtain ⟨-, hfresh, -, hotp⟩ := create_eq_some.mp hcreate
      have hissued : otp.issued = resetId :: s.otp.issued := by rw [hotp]
      refine hkept.step (fun id r' hfound => ?_) (hissued ▸ List.subset_cons_self _ _)
        fun i => Or.inl rfl
      have hnow : otp.now = s.otp.now := by rw [hotp]
      by_cases hid : id = resetId
      · -- the record found is the one just saved
        subst hid
        right
        refine ⟨hfresh, hissued ▸ List.mem_cons_self, ?_⟩
        dsimp only at hfound
        rw [hotp, OtpStores.find?, if_neg (by simp [hmem]), OtpStores.save,
          if_neg (by simp [hmem])] at hfound
        have hsaved := get?_cleanupMemory hfound
        rw [Dict.get?_set_self, Option.some.injEq] at hsaved
        rw [← hsaved]
        refine ⟨_, resetRecord_checked? .., ?_⟩
        have hmax := svc.attempts_ge
        show (0 : ℤ) < svc.maxAttempts
        omega
      · -- a record under another key is the one that was there
        left
        have hne : storeKey svc .reset id ≠ storeKey svc .reset resetId :=
          fun heq => hid (storeKey_inj heq)
        have hkeeps := keeps_create hne hcreate s.otp.now le_rfl
        rw [hkey] at hkeeps
        dsimp only at hfound
        rw [hnow, hkeeps] at hfound
        exact ⟨r', hfound, Or.inl rfl⟩
  | resetDelivered resetId outcome =>
    obtain ⟨otp, res, hdelivered, rfl, rfl⟩ := onReset_eq_some hstep
    obtain ⟨hdel, -⟩ := resetStep_delivered hdelivered
    obtain ⟨-, hnow, hissued, -, hst⟩ := delivered_eq_some hdel
    refine hkept.step (fun id r' hfound => Or.inl ⟨r', ?_, Or.inl rfl⟩)
      (hissued ▸ List.Subset.refl _) fun i => Or.inl rfl
    dsimp only at hfound
    rw [hnow] at hfound
    rcases hst with hst | hst <;> rw [hst] at hfound
    · exact hfound
    · exact find?_of_delete hfound
  | verifyReset resetId email code readAt jti =>
    obtain ⟨hotp, hlogins⟩ := appStep_verifyReset hstep
    refine hkept.step (fun id r' hfound => Or.inl ?_) (by rw [hotp]; exact List.Subset.refl _)
      fun i => Or.inl (congrFun hlogins i)
    rw [hotp] at hfound
    by_cases hid : id = resetId
    · subst hid
      exact find?_verifyReset_self hmem hfound
    · have hne : storeKey svc .reset id ≠ storeKey svc .reset resetId :=
        fun heq => hid (storeKey_inj heq)
      have hkeeps : s.otp.stores.Keeps svc (storeKey svc .reset id) s.otp.now
          (s.otp.stores.verifyReset rt svc s.otp.now readAt resetId email code).2 :=
        keeps_verifyReset hne
      rw [hkey] at hkeeps
      exact ⟨r', hkeeps s.otp.now le_rfl ▸ hfound, Or.inl rfl⟩
  | confirm l =>
    obtain ⟨-, hon⟩ := appStep_confirm hstep
    obtain ⟨t, ces, hconfirm, rfl, -⟩ := onConfirm_eq_some hon
    exact hkept.step (continues_of_keeps hmem rfl fun id => keeps_of_memory hmem (Or.inl rfl))
      (List.Subset.refl _) fun i => Or.inl rfl
  | _ => exact absurd hreset (by simp [AppLabel.isResetRequest])

/-! ### Runs -/

/-- Time passing, or a direct password grant. -/
theorem MapKept.otherStep {l : AppLabel} (hkept : MapKept rt svc s)
    (hlogin : l.isLoginRequest = false)
    (hreset : l.isResetRequest = false) (hstep : appStep rt svc settings s l = some (s', es)) :
    MapKept rt svc s' := by
  cases l with
  | tick t =>
    obtain ⟨otp, res, htick, rfl, rfl⟩ := onReset_eq_some hstep
    obtain ⟨hle, rfl, rfl⟩ := resetStep_tick htick
    refine hkept.step (fun id r' hfound => Or.inl ⟨r', ?_, Or.inl rfl⟩) (List.Subset.refl _)
      fun i => Or.inl rfl
    exact find?_of_later hle hfound
  | passwordToken email =>
    obtain ⟨rfl, -⟩ := appStep_passwordToken hstep
    exact hkept
  | startLogin tables email password challengeId code readAt =>
    exact absurd hlogin (by simp [AppLabel.isLoginRequest])
  | login l => exact absurd hlogin (by simp [AppLabel.isLoginRequest])
  | _ => exact absurd hreset (by simp [AppLabel.isResetRequest])

/-- The clock moves forward, and a login delivery is under way for a new challenge or an old one. -/
structure OtpState.Advances (s s' : OtpState) : Prop where
  clock : s.now.seconds ≤ s'.now.seconds
  delivering : ∀ challengeId, (Flow.login, challengeId) ∈ s'.delivering →
    (Flow.login, challengeId) ∈ s.delivering ∨ isChallengeToken challengeId = true

theorem advances_of_eq {otp otp' : OtpState} (hnow : otp'.now = otp.now)
    (hdelivering : otp'.delivering = otp.delivering) : otp.Advances otp' :=
  ⟨hnow ▸ le_rfl, fun _ hmem => Or.inl (hdelivering ▸ hmem)⟩

theorem advances_create {otp otp' : OtpState} {flow : Flow} {id : String} {readAt : Instant}
    {r : Record} (hcreate : otp.create svc flow id readAt r = some otp') : otp.Advances otp' := by
  obtain ⟨htoken, -, -, rfl⟩ := create_eq_some.mp hcreate
  refine ⟨le_rfl, fun challengeId hmem => ?_⟩
  rcases List.mem_cons.mp hmem with heq | hold
  · exact Or.inr ((Prod.mk.inj heq).2 ▸ htoken)
  · exact Or.inl hold

theorem advances_delivered {otp otp' : OtpState} {flow : Flow} {id : String} {outcome : Delivery}
    (hdel : otp.delivered svc flow id outcome = some otp') : otp.Advances otp' := by
  obtain ⟨-, hnow, -, hdelivering, -⟩ := delivered_eq_some hdel
  exact ⟨hnow ▸ le_rfl, fun _ hmem => Or.inl (List.mem_of_mem_erase (hdelivering ▸ hmem))⟩

theorem appStep_advances {l : AppLabel} (hstep : appStep rt svc settings s l = some (s', es)) :
    s.otp.Advances s'.otp := by
  -- only a delivery that ends takes an id off the list, and only `tick` moves the clock
  cases l with
  | tick t =>
    obtain ⟨otp, res, htick, rfl, rfl⟩ := onReset_eq_some hstep
    obtain ⟨hle, rfl, -⟩ := resetStep_tick htick
    exact ⟨hle, fun _ hmem => Or.inl hmem⟩
  | startLogin tables email password challengeId code readAt =>
    obtain ⟨rfl, -⟩ | ⟨identity, les, -, hlog, -⟩ := appStep_startLogin hstep
    · exact advances_of_eq rfl rfl
    · obtain ⟨t, les, hstart, rfl, -⟩ := onLogin_eq_some hlog
      exact advances_create (loginStep_start hstart).2.1
  | login l =>
    obtain ⟨hroute, hon⟩ := appStep_login hstep
    obtain ⟨t, les, hlog, rfl, -⟩ := onLogin_eq_some hon
    cases l with
    | tick t => exact absurd hroute (by simp [LoginLabel.isVerifyStep])
    | start challengeId email code readAt =>
      exact absurd hroute (by simp [LoginLabel.isVerifyStep])
    | delivered challengeId outcome => exact advances_delivered (loginStep_delivered hlog).1
    | load i challengeId email code =>
      obtain ⟨-, ⟨r, -, rfl, -⟩ | ⟨rfl, -⟩⟩ := loginStep_load hlog <;> exact advances_of_eq rfl rfl
    | check i =>
      obtain ⟨challengeId, email, code, r, -, ⟨rfl, -⟩ | ⟨d, -, -, rfl, -⟩⟩ := loginStep_check hlog
        <;> exact advances_of_eq rfl rfl
    | write i =>
      obtain ⟨challengeId, email, code, r, d, -, rfl, -⟩ := loginStep_write hlog
      exact advances_of_eq rfl rfl
    | grant i =>
      obtain ⟨challengeId, email, -, rfl, -⟩ := loginStep_grant hlog
      exact advances_of_eq rfl rfl
  | startReset tables email accountType resetId code readAt =>
    obtain ⟨rfl, -⟩ | ⟨identity, res, -, hon, -⟩ := appStep_startReset hstep
    · exact advances_of_eq rfl rfl
    · obtain ⟨otp, res, hstart, rfl, -⟩ := onReset_eq_some hon
      exact advances_create (resetStep_start hstart).2.1
  | resetDelivered resetId outcome =>
    obtain ⟨otp, res, hdelivered, rfl, rfl⟩ := onReset_eq_some hstep
    exact advances_delivered (resetStep_delivered hdelivered).1
  | verifyReset resetId email code readAt jti =>
    obtain ⟨hotp, -⟩ := appStep_verifyReset hstep
    exact advances_of_eq (by rw [hotp]) (by rw [hotp])
  | confirm l =>
    obtain ⟨-, hon⟩ := appStep_confirm hstep
    obtain ⟨t, ces, -, rfl, -⟩ := onConfirm_eq_some hon
    exact advances_of_eq rfl rfl
  | passwordToken email =>
    obtain ⟨rfl, -⟩ := appStep_passwordToken hstep
    exact advances_of_eq rfl rfl

/-- **Every step that addresses no reset challenge keeps the invariant.** -/
theorem isolationKept_step {l : AppLabel} (hkept : IsolationKept rt svc s)
    (hspares : ¬ AddressesReset rt svc s l) (hstep : appStep rt svc settings s l = some (s', es)) :
    IsolationKept rt svc s' where
  delivering := fun challengeId hmem =>
    ((appStep_advances hstep).delivering challengeId hmem).elim (hkept.delivering challengeId) id
  memory := fun hmem => by
    by_cases hlogin : l.isLoginRequest = true
    · exact MapKept.loginRequest hmem hkept hspares hlogin hstep
    · by_cases hreset : l.isResetRequest = true
      · exact (hkept.memory hmem).resetRequest hmem hreset hstep
      · exact (hkept.memory hmem).otherStep (by simpa using hlogin) (by simpa using hreset) hstep

/-- What every step of a run leaves under a key, the run leaves under it. -/
theorem keeps_run {I : AppState → Prop} {P : AppState → AppLabel → Prop} {key : String}
    (hstep : ∀ s l s' es, I s → P s l → appStep rt svc settings s l = some (s', es) →
      I s' ∧ s.otp.stores.Keeps svc key s.otp.now s'.otp.stores)
    {c c' : Config AppState AppEvent} {ls : List AppLabel} (hI : I c.state)
    (hmeets : (appSystem rt svc settings).Meets (fun c l => P c.state l) c ls)
    (hrun : (appSystem rt svc settings).run c ls = some c') :
    c.state.otp.stores.Keeps svc key c'.state.otp.now c'.state.otp.stores := by
  suffices hend : I c'.state ∧ c.state.otp.now.seconds ≤ c'.state.otp.now.seconds ∧
      c.state.otp.stores.Keeps svc key c'.state.otp.now c'.state.otp.stores from hend.2.2
  refine (appSystem rt svc settings).invariant_run_of_meets
    (I := fun d => I d.state ∧ c.state.otp.now.seconds ≤ d.state.otp.now.seconds ∧
      c.state.otp.stores.Keeps svc key d.state.otp.now d.state.otp.stores)
    (fun d l d' hd hcond hnext => ?_) ⟨hI, le_rfl, .refl⟩ hmeets hrun
  obtain ⟨es, happ, -⟩ := (appSystem rt svc settings).next_eq_some.mp hnext
  obtain ⟨hI', hkeeps⟩ := hstep _ _ _ _ hd.1 hcond happ
  have hclock := (appStep_advances happ).clock
  refine ⟨hI', hd.2.1.trans hclock, hd.2.2.trans (fun t ht => ?_) hclock⟩
  exact hkeeps t (hclock.trans ht)

/-- A step of neither flow leaves the stores alone. -/
theorem keeps_of_otherStep {l : AppLabel} {key : String} (hlogin : l.isLoginRequest = false)
    (hreset : l.isResetRequest = false) (hstep : appStep rt svc settings s l = some (s', es)) :
    s.otp.stores.Keeps svc key s.otp.now s'.otp.stores := by
  cases l with
  | tick t =>
    obtain ⟨otp, res, htick, rfl, rfl⟩ := onReset_eq_some hstep
    obtain ⟨-, rfl, -⟩ := resetStep_tick htick
    exact .refl
  | passwordToken email =>
    obtain ⟨rfl, -⟩ := appStep_passwordToken hstep
    exact .refl
  | startLogin tables email password challengeId code readAt =>
    exact absurd hlogin (by simp [AppLabel.isLoginRequest])
  | login l => exact absurd hlogin (by simp [AppLabel.isLoginRequest])
  | _ => exact absurd hreset (by simp [AppLabel.isResetRequest])

/-! ### A verification that addresses a reset challenge -/

/-- On a live record that can be compared the submission is accepted, locks the challenge out or
    counts an attempt. -/
theorem decideVerify_of_comparable {now : ℤ} {challengeId email code : String} {r : Record}
    {c : CheckedRecord} (hc : r.checked? = some c) (hlive : now < c.expiresAt)
    (hattempts : c.attempts < svc.maxAttempts) (hcomparable : Comparable rt email r) :
    (∃ ttlSeconds, decideVerify rt svc now challengeId email code r =
      .resave (r.withAttempts (c.attempts + 1)) ttlSeconds) ∨
    decideVerify rt svc now challengeId email code r = .lockOut ∨
    decideVerify rt svc now challengeId email code r = .accept := by
  obtain ⟨recordEmail, hemail, hascii, hascii'⟩ := hcomparable
  have hsame : c.email = recordEmail := by
    rw [(Record.checked?_eq_some.mp hc).1] at hemail
    exact Option.some.inj hemail
  subst hsame
  unfold decideVerify
  rw [hc]
  simp only [not_le.mpr hlive, not_le.mpr hattempts, or_self, if_false, hascii, hascii',
    and_self, not_true_eq_false]
  split_ifs
  · exact Or.inr (Or.inr rfl)
  · exact Or.inr (Or.inl rfl)
  · exact Or.inl ⟨_, rfl⟩

/-- A step of a login route forward. -/
theorem next_login {c : Config AppState AppEvent} {l : LoginLabel} {t : LoginState}
    {les : List LoginEvent} (hroute : l.isVerifyStep rt = true)
    (hlog : loginStep rt svc c.state.loginState l = some (t, les)) :
    (appSystem rt svc settings).next c (.login l) =
      some ⟨c.state.setLogin t, les.map .login ++ c.history⟩ := by
  refine (appSystem rt svc settings).next_of_step ?_
  show appStep rt svc settings c.state (.login l) = _
  rw [appStep, if_pos hroute, AppState.onLogin, hlog, Option.map_some]

/-- The steps of one login verification that nothing interrupts. -/
def loginVerifyAlone (i : ℕ) (challengeId email code : String) : List AppLabel :=
  [.login (.load i challengeId email code), .login (.check i), .login (.write i)]

/-- **A verification that addresses a reset challenge changes or removes its record.** -/
theorem addressesReset_changes {c : Config AppState AppEvent} {i : ℕ}
    {challengeId email code : String} (hkept : IsolationKept rt svc c.state)
    (hidle : c.state.logins i = .idle) (hcode : isCodeField rt code = true)
    (haddresses : AddressesReset rt svc c.state (.login (.load i challengeId email code))) :
    ∃ resetId c', (appSystem rt svc settings).run c (loginVerifyAlone i challengeId email code) =
        some c' ∧
      challengeId = memKey .reset resetId ∧
      ¬ c.state.otp.stores.Keeps svc (storeKey svc .reset resetId) c.state.otp.now
          c'.state.otp.stores := by
  obtain ⟨hmem, resetId, r, rfl, hfound, hcomparable⟩ := haddresses
  have hr : ¬ svc.usesRedis = true := by simp [hmem]
  have hkey : storeKey svc .reset resetId = memKey .reset resetId := by simp [storeKey, hmem]
  obtain ⟨-, chk, hchk, hattempts⟩ := (hkept.memory hmem).stored resetId r hfound
  have hlive : c.state.otp.now.whole < chk.expiresAt := by
    rw [OtpStores.find?, if_neg hr] at hfound
    exact expiresAt_of_get?_cleanupMemory (Record.checked?_eq_some.mp hchk).2.1 hfound
  have hload : (c.state.otp.stores.load svc c.state.otp.now .login (memKey .reset resetId)).1 =
      some r := by
    rwa [load_eq_find?, storeKey, if_neg hr]
  -- the store operation leaves another record, or none
  have hlogin : storeKey svc .login (memKey .reset resetId) = memKey .reset resetId := by
    simp only [storeKey, if_neg hr]
    rfl
  have hdelete : ∀ st : OtpStores, (st.delete svc .login (memKey .reset resetId)).find? svc
      c.state.otp.now (memKey .reset resetId) ≠ some r := by
    intro st hsame
    have hgone : (st.delete svc .login (memKey .reset resetId)).find? svc c.state.otp.now
        (storeKey svc .login (memKey .reset resetId)) = none := find?_delete_self
    rw [hlogin, hsame] at hgone
    exact absurd hgone (by simp)
  obtain ⟨d, hd, htype, hchanges⟩ : ∃ d,
      decideVerify rt svc c.state.otp.now.whole (memKey .reset resetId) email code r = d ∧
      d ≠ .typeError ∧ ∀ st : OtpStores,
        (d.store svc c.state.otp.now (memKey .reset resetId) st).find? svc c.state.otp.now
          (memKey .reset resetId) ≠ some r := by
    rcases decideVerify_of_comparable hchk hlive hattempts hcomparable with
      ⟨ttlSeconds, hd⟩ | hd | hd
    · -- saved back with one attempt more
      refine ⟨_, hd, by simp, fun st hsame => ?_⟩
      rw [OtpStores.find?, if_neg hr] at hsame
      have hstored := get?_cleanupMemory hsame
      have hcounted : some (r.withAttempts (chk.attempts + 1)) = some r := by
        rw [← hstored, VerifyDecision.store, OtpStores.save, if_neg hr]
        exact (Dict.get?_set_self ..).symm
      have hattempts' := (Record.checked?_eq_some.mp hchk).2.2.1
      rw [← Option.some.inj hcounted] at hattempts'
      have hcount : chk.attempts + 1 = chk.attempts := Option.some.inj hattempts'
      omega
    · exact ⟨_, hd, by simp, hdelete⟩
    · exact ⟨_, hd, by simp, hdelete⟩
  -- the three steps of the call, one state after the other
  let st := (c.state.otp.stores.load svc c.state.otp.now .login (memKey .reset resetId)).2
  let s₁ := c.state.setLogin ((c.state.loginState.setStores st).setCall i
    (.loaded (memKey .reset resetId) email code r))
  let s₂ := s₁.setLogin (s₁.loginState.setCall i (.decided (memKey .reset resetId) email code r d))
  let s₃ := s₂.setLogin ((s₂.loginState.setStores
    (d.store svc c.state.otp.now (memKey .reset resetId) st)).setCall i
      (d.ending (memKey .reset resetId) email))
  obtain ⟨h₁, hnext₁⟩ : ∃ h₁, (appSystem rt svc settings).next c
      (.login (.load i (memKey .reset resetId) email code)) = some ⟨s₁, h₁⟩ :=
    ⟨_, next_login hcode (loginStep_load_some hidle hload)⟩
  obtain ⟨h₂, hnext₂⟩ : ∃ h₂, (appSystem rt svc settings).next ⟨s₁, h₁⟩ (.login (.check i)) =
      some ⟨s₂, h₂⟩ :=
    ⟨_, next_login rfl (loginStep_check_decided (setCall_calls_self _ i _) hd htype)⟩
  obtain ⟨h₃, hnext₃⟩ : ∃ h₃, (appSystem rt svc settings).next ⟨s₂, h₂⟩ (.login (.write i)) =
      some ⟨s₃, h₃⟩ :=
    ⟨_, next_login rfl (loginStep_write_decided (setCall_calls_self _ i _))⟩
  refine ⟨resetId, ⟨s₃, h₃⟩, ?_, rfl, fun hkeeps => ?_⟩
  · rw [loginVerifyAlone, System.run_cons, hnext₁, Option.bind_some, System.run_cons, hnext₂,
      Option.bind_some, System.run_cons, hnext₃, Option.bind_some, System.run_nil]
  · rw [hkey] at hkeeps
    exact hchanges st (hkeeps.found hfound)

/-! ### Isolation -/

/-- The two challenge spaces do not touch from here on, in runs whose steps meet `cond`: whatever
    the login routes do, no lookup of a reset challenge notices, and the other way round. -/
structure IsolatedAt (rt : Runtime) (svc : OtpService) (settings : Settings)
    (cond : AppState → AppLabel → Prop) (c : Config AppState AppEvent) : Prop where
  login : ∀ ls c', (appSystem rt svc settings).Meets (fun d l => cond d.state l) c ls →
    (appSystem rt svc settings).run c ls = some c' → (∀ l ∈ ls, l.isResetRequest = false) →
    ∀ resetId, c.state.otp.stores.Keeps svc (storeKey svc .reset resetId) c'.state.otp.now
      c'.state.otp.stores
  reset : ∀ ls c', (appSystem rt svc settings).Meets (fun d l => cond d.state l) c ls →
    (appSystem rt svc settings).run c ls = some c' → (∀ l ∈ ls, l.isLoginRequest = false) →
    ∀ challengeId, isChallengeToken challengeId = true →
      c.state.otp.stores.Keeps svc (storeKey svc .login challengeId) c'.state.otp.now
        c'.state.otp.stores

/-- **Isolation of the challenge spaces.** In every run of the application in which no login
    verification over the process-local store is given `"reset:"` and the id of a live reset
    challenge, neither flow changes or removes a live record of the other.  And the condition is
    exact: a verification that is given such an id, with an e-mail the comparison accepts, changes
    or removes the record when it runs alone. -/
theorem challenge_spaces_isolated {now : Instant} {ls : List AppLabel}
    {c : Config AppState AppEvent}
    (hmeets : (appSystem rt svc settings).Meets (fun d l => ¬ AddressesReset rt svc d.state l)
      (Config.start (AppState.init now)) ls)
    (hrun : (appSystem rt svc settings).run (Config.start (AppState.init now)) ls = some c) :
    IsolatedAt rt svc settings (fun s l => ¬ AddressesReset rt svc s l) c ∧
    ∀ i challengeId email code, c.state.logins i = .idle → isCodeField rt code = true →
      AddressesReset rt svc c.state (.login (.load i challengeId email code)) →
      ∃ resetId c', (appSystem rt svc settings).run c (loginVerifyAlone i challengeId email code) =
          some c' ∧
        challengeId = memKey .reset resetId ∧
        ¬ c.state.otp.stores.Keeps svc (storeKey svc .reset resetId) c.state.otp.now
            c'.state.otp.stores := by
  have hkept : IsolationKept rt svc c.state :=
    (appSystem rt svc settings).invariant_run_of_meets (I := fun d => IsolationKept rt svc d.state)
      (fun d l d' hd hspares hnext => by
        obtain ⟨es, hstep, -⟩ := (appSystem rt svc settings).next_eq_some.mp hnext
        exact isolationKept_step hd hspares hstep)
      (isolationKept_init now) hmeets hrun
  refine ⟨⟨?_, ?_⟩, fun i challengeId email code hidle hcode => ?_⟩
  · intro ls' c' hmeets' hrun' hlabels resetId
    refine keeps_run (I := IsolationKept rt svc)
      (P := fun s l => ¬ AddressesReset rt svc s l ∧ l.isResetRequest = false)
      (fun s l s' es hs hcond hstep => ?_) hkept
      (hmeets'.and _ ((appSystem rt svc settings).meets_of_forall c hlabels)) hrun'
    refine ⟨isolationKept_step hs hcond.1 hstep, ?_⟩
    by_cases hlogin : l.isLoginRequest = true
    · exact keeps_of_loginRequest hs hlogin hstep resetId
    · exact keeps_of_otherStep (by simpa using hlogin) hcond.2 hstep
  · -- the other direction needs no condition: a login key never begins with `reset:`
    intro ls' c' _ hrun' hlabels challengeId htoken
    refine keeps_run (I := fun _ => True) (P := fun _ l => l.isLoginRequest = false)
      (fun s l s' es _ hcond hstep => ⟨trivial, ?_⟩) trivial
      ((appSystem rt svc settings).meets_of_forall c hlabels) hrun'
    by_cases hreset : l.isResetRequest = true
    · exact keeps_of_resetRequest hreset hstep htoken
    · exact keeps_of_otherStep hcond (by simpa using hreset) hstep
  · exact addressesReset_changes hkept hidle hcode

/-- An id the service hands out addresses no reset challenge. -/
theorem not_addressesReset_of_token {s : AppState} {i : ℕ} {challengeId email code : String}
    (htoken : isChallengeToken challengeId = true) :
    ¬ AddressesReset rt svc s (.login (.load i challengeId email code)) := by
  rintro ⟨hmem, resetId, r, hid, -⟩
  exact storeKey_login_ne_reset htoken resetId (storeKey_login_eq_reset.mpr ⟨hmem, hid⟩)

/-- Nor does an e-mail the comparison refuses. -/
theorem not_addressesReset_of_nonAscii {s : AppState} {i : ℕ} {challengeId email code : String}
    (hascii : isAscii (rt.normalizeEmail email) = false) :
    ¬ AddressesReset rt svc s (.login (.load i challengeId email code)) := by
  rintro ⟨-, resetId, r, -, -, recordEmail, -, -, haccepted⟩
  exact absurd (hascii.symm.trans haccepted) (by simp)

/-- Both challenges are created.  A login verification names the reset challenge, with an e-mail
    that is not ASCII, and another one is carried to its grant. -/
def sampleProbe : List AppLabel :=
  [.startReset sampleTables "ana@ouros.app" none sampleToken "123456" sampleNow,
    .startLogin sampleTables "ana@ouros.app" "Senha@123" sampleOtherToken "654321" sampleNow,
    .login (.load 0 ("reset:" ++ sampleToken) "aná@ouros.app" "000000"),
    .login (.load 1 sampleOtherToken "ana@ouros.app" "654321"),
    .login (.check 0), .login (.check 1), .login (.write 1), .login (.grant 1)]

/-- Neither addresses a reset challenge, in the process-local store. -/
theorem challenge_spaces_isolated_sample :
    ∃ c, (appSystem Runtime.sample (OtpService.sample false) (Settings.sample none)).run
        (Config.start (AppState.init sampleNow)) sampleProbe = some c ∧
      IsolatedAt Runtime.sample (OtpService.sample false) (Settings.sample none)
        (fun s l => ¬ AddressesReset Runtime.sample (OtpService.sample false) s l) c := by
  obtain ⟨c, hc⟩ := Option.isSome_iff_exists.mp
    (by decide +kernel :
      ((appSystem Runtime.sample (OtpService.sample false) (Settings.sample none)).run
        (Config.start (AppState.init sampleNow)) sampleProbe).isSome = true)
  have hprobe : ∀ l ∈ sampleProbe, ∀ s,
      ¬ AddressesReset Runtime.sample (OtpService.sample false) s l := by
    intro l hl s
    simp only [sampleProbe, List.mem_cons, List.not_mem_nil, or_false] at hl
    rcases hl with rfl | rfl | rfl | rfl | rfl | rfl | rfl | rfl
    · exact id
    · exact id
    · exact not_addressesReset_of_nonAscii (by decide +kernel)
    · exact not_addressesReset_of_token (by decide +kernel)
    all_goals exact id
  have hmeets : (appSystem Runtime.sample (OtpService.sample false) (Settings.sample none)).Meets
      (fun d l => ¬ AddressesReset Runtime.sample (OtpService.sample false) d.state l)
      (Config.start (AppState.init sampleNow)) sampleProbe := by
    refine (appSystem _ _ _).meets_iff_forall_split.mpr fun ls₁ l ls₂ d hsplit _ => ?_
    refine hprobe l ?_ d.state
    rw [hsplit]
    exact List.mem_append_right _ List.mem_cons_self
  exact ⟨c, hc, (challenge_spaces_isolated hmeets hc).1⟩

/-- The attempts a lookup finds under the key of the sample reset challenge. -/
def resetAttempts (c : Config AppState AppEvent) : Option Json :=
  (c.state.otp.stores.find? (OtpService.sample false) c.state.otp.now
    (memKey .reset sampleToken)).map Record.attempts

/-- Wrong login verifications with `"reset:"` and the id of the reset challenge. -/
def sampleIntrusion (n : ℕ) : List AppLabel :=
  (List.range n).flatMap fun i =>
    loginVerifyAlone i ("reset:" ++ sampleToken) "ana@ouros.app" "000000"

/-- **Isolation fails.** Over the process-local store, a login verification with the id
    `"reset:" ++ sampleToken` counts an attempt against the reset challenge, and five of them delete
    it. -/
theorem login_consumes_reset :
    ∃ c c₁ c₅, (appSystem Runtime.sample (OtpService.sample false) (Settings.sample none)).run
        (Config.start (AppState.init sampleNow))
        [.startReset sampleTables "ana@ouros.app" none sampleToken "123456" sampleNow] = some c ∧
      (appSystem Runtime.sample (OtpService.sample false) (Settings.sample none)).run c
        (sampleIntrusion 1) = some c₁ ∧
      (appSystem Runtime.sample (OtpService.sample false) (Settings.sample none)).run c
        (sampleIntrusion 5) = some c₅ ∧
      resetAttempts c = some (.num 0) ∧ resetAttempts c₁ = some (.num 1) ∧ resetAttempts c₅ = none ∧
      ¬ IsolatedAt Runtime.sample (OtpService.sample false) (Settings.sample none)
        (fun _ _ => True) c := by
  obtain ⟨c, hc, hrest⟩ := Option.bind_eq_some_iff.mp
    (by decide +kernel :
      ((appSystem Runtime.sample (OtpService.sample false) (Settings.sample none)).run
        (Config.start (AppState.init sampleNow))
        [.startReset sampleTables "ana@ouros.app" none sampleToken "123456" sampleNow]).bind
          (fun c =>
            ((appSystem Runtime.sample (OtpService.sample false) (Settings.sample none)).run c
              (sampleIntrusion 1)).bind fun c₁ =>
            ((appSystem Runtime.sample (OtpService.sample false) (Settings.sample none)).run c
              (sampleIntrusion 5)).map fun c₅ =>
            (resetAttempts c, resetAttempts c₁, resetAttempts c₅,
              decide (c₁.state.otp.now = c.state.otp.now))) =
        some (some (.num 0), some (.num 1), none, true))
  obtain ⟨c₁, hc₁, hrest⟩ := Option.bind_eq_some_iff.mp hrest
  obtain ⟨c₅, hc₅, hout⟩ := Option.map_eq_some_iff.mp hrest
  simp only [Prod.mk.injEq, decide_eq_true_eq] at hout
  obtain ⟨hbefore, hone, hfive, hnow⟩ := hout
  refine ⟨c, c₁, c₅, hc, hc₁, hc₅, hbefore, hone, hfive, fun hisolated => ?_⟩
  have hkeeps := hisolated.login (sampleIntrusion 1) c₁
    ((appSystem _ _ _).meets_of_forall c fun _ _ => trivial) hc₁ (by decide) sampleToken
  -- were the flows isolated, the first intrusion would have left the record as it was
  have hsame : resetAttempts c₁ = resetAttempts c := by
    rw [hnow] at hkeeps
    unfold resetAttempts
    rw [hnow]
    exact congrArg (Option.map Record.attempts) (hkeeps c.state.otp.now le_rfl)
  rw [hone, hbefore] at hsame
  exact absurd hsame (by decide)

end OurosAuth
