import OurosAuth.App.Confirming

namespace OurosAuth

open KeyValue Traced

/-!
# A reset that goes through

What the flow forbids is settled elsewhere; this is what it grants.  A user who is sent a code and
types it in before it expires gets a token, and the update with that token reaches Spring, whatever
requests of other clients come in between.

* `Pending` — the challenge waits, with so many wrong submissions counted;
* `Served` — the token is for one call alone, and that call is on its way;
* `reset_goes_through` — both, one after the other.
-/

variable {rt : Runtime} {svc : OtpService} {settings : Settings}

/-! ### The challenge -/

section Challenge
variable {st : OtpStores} {now readAt t : Instant} {challengeId email code : String}
  {start : ResetStart} {n : ℤ}

/-- With Redis the record a lookup finds is the document under its key. -/
theorem redis_get_of_find? {key : String} {r : Record} (hr : svc.usesRedis = true)
    (hfound : st.find? svc t key = some r) : st.redis.get t.seconds key = some (.document r) := by
  unfold OtpStores.find? at hfound
  rw [if_pos hr] at hfound
  split at hfound
  · rename_i r' hget
    rw [hget, Option.some.inj hfound]
  · exact absurd hfound (by simp)

/-- A wrong submission below the limit leaves the challenge to be found as long as before, with one
    attempt more. -/
theorem find?_verifyReset_wrong (hle : now.seconds ≤ t.seconds)
    (hread : readAt.seconds ≤ now.seconds) (hlive : t.whole < start.expiresAt)
    (hid : svc.usesRedis = true → Decimal.roundTrip 14 start.databaseId = start.databaseId)
    (hexpires : Small start.expiresAt) (hn : 0 ≤ n) (hlimit : n + 1 < svc.maxAttempts)
    (hwrong : ¬ start.Matches rt svc challengeId email code)
    (hfound : st.find? svc t (storeKey svc .reset challengeId) =
      some (storedReset rt svc challengeId start n start.databaseId)) :
    (st.verifyReset rt svc now readAt challengeId email code).2.find? svc t
        (storeKey svc .reset challengeId) =
      some (storedReset rt svc challengeId start (n + 1) start.databaseId) := by
  have hmax := (small_maxAttempts svc).2
  have hsmall : Small n := ⟨hn, by omega⟩
  have hsucc : Small (n + 1) := ⟨by omega, by omega⟩
  have hnow := find?_of_later hle hfound
  unfold storeKey at hfound hnow ⊢
  by_cases hr : svc.usesRedis = true
  · rw [if_pos hr] at hfound hnow ⊢
    have hbefore : readAt.whole < start.expiresAt :=
      (Instant.whole_mono (hread.trans hle)).trans_lt hlive
    have hboth : ¬ (rt.normalizeEmail start.email = rt.normalizeEmail email ∧
        codeDigest rt svc challengeId start.code = codeDigest rt svc challengeId code) := hwrong
    unfold OtpStores.verifyReset OtpStores.find?
    rw [if_pos hr, if_pos hr, verifyResetScript_stored (redis_get_of_find? hr hnow) hsmall hsucc
      hexpires (Small.instant readAt), if_neg (not_le.mpr hbefore), if_neg (by omega),
      if_neg hboth, if_neg (by omega), hid hr]
    -- the rewritten entry lives as long as the old one
    have hkept := ExpiringStore.get_setKeepTtl_later
      (.document (storedReset rt svc challengeId start (n + 1) start.databaseId)) hle
      (redis_get_of_find? hr hfound)
    rw [hkept]
  · unfold OtpStores.find? at hfound hnow ⊢
    unfold OtpStores.verifyReset
    simp only [hr, Bool.false_eq_true, if_false] at hfound hnow ⊢
    rw [verifyResetMemory_stored hnow, if_neg (by omega), if_neg hwrong, if_neg (by omega)]
    show (cleanupMemory t (Dict.set ..)).get? _ = _
    rw [cleanupMemory, Dict.get?_filter, Dict.get?_set_self]
    exact Option.filter_eq_some_iff.mpr ⟨rfl, decide_eq_true hlive⟩

/-- **The right code.** A submission that matches a challenge which is found below the limit is
    handed the record. -/
theorem verifyReset_right (hread : readAt.seconds ≤ now.seconds)
    (hlive : now.whole < start.expiresAt) (hexpires : Small start.expiresAt) (hn : 0 ≤ n)
    (hlimit : n < svc.maxAttempts) (hright : start.Matches rt svc challengeId email code)
    (hfound : st.find? svc now (storeKey svc .reset challengeId) =
      some (storedReset rt svc challengeId start n start.databaseId)) :
    (st.verifyReset rt svc now readAt challengeId email code).1 =
      .accepted (storedReset rt svc challengeId start n start.databaseId) := by
  have hmax := (small_maxAttempts svc).2
  unfold storeKey at hfound
  unfold OtpStores.verifyReset
  by_cases hr : svc.usesRedis = true
  · rw [if_pos hr] at hfound ⊢
    have hbefore : readAt.whole < start.expiresAt := (Instant.whole_mono hread).trans_lt hlive
    have hboth : rt.normalizeEmail start.email = rt.normalizeEmail email ∧
        codeDigest rt svc challengeId start.code = codeDigest rt svc challengeId code := hright
    rw [verifyResetScript_stored (redis_get_of_find? hr hfound) ⟨hn, by omega⟩
      ⟨by omega, by omega⟩ hexpires (Small.instant readAt), if_neg (not_le.mpr hbefore),
      if_neg (by omega), if_pos hboth]
  · unfold OtpStores.find? at hfound
    simp only [hr, Bool.false_eq_true, if_false] at hfound ⊢
    rw [verifyResetMemory_stored hfound, if_neg (by omega), if_pos hright]

end Challenge

section Waiting
variable {s s' : AppState} {es : List AppEvent} {l : AppLabel} {challengeId : String}
  {start : ResetStart} {t : Instant} {n : ℕ}

/-- Lookups of the challenge until `t` find its record, with `n` wrong submissions counted. -/
def Pending (rt : Runtime) (svc : OtpService) (challengeId : String) (start : ResetStart)
    (t : Instant) (n : ℕ) (s : AppState) : Prop :=
  challengeId ∈ s.otp.issued ∧
    s.otp.stores.find? svc t (storeKey svc .reset challengeId) =
      some (storedReset rt svc challengeId start n start.databaseId)

/-- Is this a submission to the challenge? -/
def AppLabel.submitsTo (challengeId : String) : AppLabel → Bool
  | .verifyReset challengeId' _ _ _ _ => challengeId' = challengeId
  | _ => false

/-- How often the challenge is submitted to. -/
def submissions (challengeId : String) (ls : List AppLabel) : ℕ :=
  ls.countP (AppLabel.submitsTo challengeId)

/-- The step takes nothing away from the challenge: no submission that matches it, no failed
    delivery of its e-mail, no login verification under the key of a reset challenge. -/
structure Spares (rt : Runtime) (svc : OtpService) (challengeId : String) (start : ResetStart)
    (s : AppState) (l : AppLabel) : Prop where
  isolated : ¬ AddressesReset rt svc s l
  wrong : ∀ email code readAt jti, l = .verifyReset challengeId email code readAt jti →
    ¬ start.Matches rt svc challengeId email code
  delivered : l ≠ .resetDelivered challengeId .smtpFailure

/-- Ids handed out stay handed out. -/
theorem issued_of_appStep (hstep : appStep rt svc settings s l = some (s', es)) :
    s.otp.issued ⊆ s'.otp.issued := by
  -- both flows hand their ids out through `create`, which only adds to the list
  have hcreate : ∀ {flow : Flow} {id : String} {readAt : Instant} {r : Record}
      {otp otp' : OtpState}, otp.create svc flow id readAt r = some otp' →
        otp.issued ⊆ otp'.issued := by
    intro flow id readAt r otp otp' h
    obtain ⟨-, -, -, rfl⟩ := create_eq_some.mp h
    exact List.subset_cons_self _ _
  cases l with
  | tick t =>
    obtain ⟨otp, res, htick, rfl, -⟩ := onReset_eq_some hstep
    obtain ⟨-, rfl, -⟩ := resetStep_tick htick
    exact List.Subset.refl _
  | startLogin tables email password challengeId code readAt =>
    obtain ⟨rfl, -⟩ | ⟨identity, les, -, hlog, -⟩ := appStep_startLogin hstep
    · exact List.Subset.refl _
    · obtain ⟨otp, les, hstart, rfl, -⟩ := onLogin_eq_some hlog
      exact hcreate (loginStep_start hstart).2.1
  | login l =>
    obtain ⟨hroute, hon⟩ := appStep_login hstep
    obtain ⟨otp, les, hlog, rfl, -⟩ := onLogin_eq_some hon
    cases l with
    | tick t => exact absurd hroute (by simp [LoginLabel.isVerifyStep])
    | start challengeId email code readAt =>
      exact absurd hroute (by simp [LoginLabel.isVerifyStep])
    | delivered challengeId outcome =>
      obtain ⟨hdel, -⟩ := loginStep_delivered hlog
      obtain ⟨-, -, hissued, -⟩ := delivered_eq_some hdel
      exact hissued ▸ List.Subset.refl _
    | load i challengeId email code =>
      obtain ⟨-, ⟨r, -, rfl, -⟩ | ⟨rfl, -⟩⟩ := loginStep_load hlog <;> exact List.Subset.refl _
    | check i =>
      obtain ⟨_, _, _, _, -, ⟨rfl, -⟩ | ⟨d, -, -, rfl, -⟩⟩ := loginStep_check hlog <;>
        exact List.Subset.refl _
    | write i =>
      obtain ⟨_, _, _, _, _, -, rfl, -⟩ := loginStep_write hlog
      exact List.Subset.refl _
    | grant i =>
      obtain ⟨_, _, -, rfl, -⟩ := loginStep_grant hlog
      exact List.Subset.refl _
  | startReset tables email accountType resetId code readAt =>
    obtain ⟨rfl, -⟩ | ⟨identity, res, -, hon, -⟩ := appStep_startReset hstep
    · exact List.Subset.refl _
    · obtain ⟨otp, res, hstart, rfl, -⟩ := onReset_eq_some hon
      exact hcreate (resetStep_start hstart).2.1
  | resetDelivered resetId outcome =>
    obtain ⟨otp, res, hdelivered, rfl, -⟩ := onReset_eq_some hstep
    obtain ⟨-, -, hissued, -⟩ := delivered_eq_some (resetStep_delivered hdelivered).1
    exact hissued ▸ List.Subset.refl _
  | verifyReset resetId email code readAt jti =>
    obtain ⟨hotp, -⟩ := appStep_verifyReset hstep
    rw [hotp]
    exact List.Subset.refl _
  | confirm l =>
    obtain ⟨-, hon⟩ := appStep_confirm hstep
    obtain ⟨otp, ces, -, rfl, -⟩ := onConfirm_eq_some hon
    exact List.Subset.refl _
  | passwordToken email =>
    obtain ⟨rfl, -⟩ := appStep_passwordToken hstep
    exact List.Subset.refl _

/-- The clock of a submission was read before the call came to the store. -/
theorem readAt_of_verifyReset {email code jti : String} {readAt : Instant}
    (hstep : appStep rt svc settings s (.verifyReset challengeId email code readAt jti) =
      some (s', es)) : readAt.seconds ≤ s.otp.now.seconds := by
  simp only [appStep] at hstep
  split_ifs at hstep
  obtain ⟨⟨s₁, es₁⟩, hverify, -⟩ := Option.bind_eq_some_iff.mp hstep
  obtain ⟨otp, res, hreset, -⟩ := onReset_eq_some hverify
  simp only [resetStep] at hreset
  split_ifs at hreset with hread
  exact hread

/-- A reset step leaves the challenge waiting, or adds a wrong submission to it. -/
theorem Pending.resetRequest (h : Pending rt svc challengeId start t n s)
    (hreset : l.isResetRequest = true) (hspares : Spares rt svc challengeId start s l)
    (hstep : appStep rt svc settings s l = some (s', es)) (hle : s.otp.now.seconds ≤ t.seconds)
    (hlive : t.whole < start.expiresAt) (hexpires : Small start.expiresAt)
    (hid : svc.usesRedis = true → Decimal.roundTrip 14 start.databaseId = start.databaseId)
    (hlimit : n + 1 < svc.maxAttempts ∨ l.submitsTo challengeId = false) :
    s'.otp.stores.find? svc t (storeKey svc .reset challengeId) =
      some (storedReset rt svc challengeId start (n + if l.submitsTo challengeId then 1 else 0 : ℕ)
        start.databaseId) := by
  obtain ⟨hissued, hfound⟩ := h
  have hother : ∀ resetId, challengeId ≠ resetId →
      storeKey svc .reset challengeId ≠ storeKey svc .reset resetId :=
    fun resetId hne hkey => hne (storeKey_inj hkey)
  cases l with
  | startReset tables email accountType resetId code readAt =>
    show _ = some (storedReset rt svc challengeId start (n : ℕ) start.databaseId)
    obtain ⟨rfl, -⟩ | ⟨identity, res, -, hon, -⟩ := appStep_startReset hstep
    · exact hfound
    · obtain ⟨otp, res, hstart, rfl, -⟩ := onReset_eq_some hon
      obtain ⟨-, hcreate, -⟩ := resetStep_start hstart
      -- a new challenge has a new id
      obtain ⟨-, hfresh, -⟩ := create_eq_some.mp hcreate
      have hne : challengeId ≠ resetId := fun heq => hfresh (heq ▸ hissued)
      exact (keeps_create (hother resetId hne) hcreate t hle).trans hfound
  | resetDelivered resetId outcome =>
    show _ = some (storedReset rt svc challengeId start (n : ℕ) start.databaseId)
    obtain ⟨otp, res, hdelivered, rfl, -⟩ := onReset_eq_some hstep
    obtain ⟨hdel, -⟩ := resetStep_delivered hdelivered
    by_cases hsame : challengeId = resetId
    · subst hsame
      have houtcome : outcome ≠ .smtpFailure := fun heq => hspares.delivered (heq ▸ rfl)
      unfold OtpState.delivered at hdel
      split_ifs at hdel
      obtain rfl := Option.some.inj hdel
      cases outcome with
      | sent => exact hfound
      | smtpFailure => exact absurd rfl houtcome
      | otherFailure => exact hfound
    · exact (keeps_delivered (hother resetId hsame) hdel t hle).trans hfound
  | verifyReset resetId email code readAt jti =>
    obtain ⟨hotp, -⟩ := appStep_verifyReset hstep
    rw [hotp]
    by_cases hsame : resetId = challengeId
    · subst hsame
      have hsubmits : (AppLabel.verifyReset resetId email code readAt jti).submitsTo resetId =
          true := decide_eq_true rfl
      rw [hsubmits] at hlimit ⊢
      have hread : readAt.seconds ≤ s.otp.now.seconds := readAt_of_verifyReset hstep
      have hwrong := hspares.wrong email code readAt jti rfl
      have hbelow := hlimit.resolve_right (by simp)
      rw [if_pos rfl, Nat.cast_add, Nat.cast_one]
      exact find?_verifyReset_wrong hle hread hlive hid hexpires (by omega) (by omega) hwrong hfound
    · have hsubmits : (AppLabel.verifyReset resetId email code readAt jti).submitsTo challengeId =
          false := decide_eq_false hsame
      rw [hsubmits]
      exact (keeps_verifyReset (hother resetId (Ne.symm hsame)) t hle).trans hfound
  | confirm l =>
    show _ = some (storedReset rt svc challengeId start (n : ℕ) start.databaseId)
    obtain ⟨-, hon⟩ := appStep_confirm hstep
    obtain ⟨otp, ces, hconfirm, rfl, -⟩ := onConfirm_eq_some hon
    have hkeeps : s.otp.stores.Keeps svc (storeKey svc .reset challengeId) s.otp.now
        { s.otp.stores with redis := otp.store.redis } := by
      by_cases hr : svc.usesRedis = true
      · refine keeps_of_redis hr ?_
        rw [storeKey, if_pos hr]
        exact confirmStep_redis (redisKey_reset_ne_blacklistKey challengeId) hconfirm
      · exact keeps_of_memory (by simpa using hr) (Or.inl rfl)
    exact (hkeeps t hle).trans hfound
  | _ => exact absurd hreset (by simp [AppLabel.isResetRequest])

/-- **A waiting challenge waits on**, through every step that spares it. -/
theorem pending_step (h : Pending rt svc challengeId start t n s) (hkept : IsolationKept rt svc s)
    (hspares : Spares rt svc challengeId start s l)
    (hstep : appStep rt svc settings s l = some (s', es)) (hle : s.otp.now.seconds ≤ t.seconds)
    (hlive : t.whole < start.expiresAt) (hexpires : Small start.expiresAt)
    (hid : svc.usesRedis = true → Decimal.roundTrip 14 start.databaseId = start.databaseId)
    (hlimit : n + 1 < svc.maxAttempts ∨ l.submitsTo challengeId = false) :
    Pending rt svc challengeId start t (n + if l.submitsTo challengeId then 1 else 0) s' := by
  refine ⟨issued_of_appStep hstep h.1, ?_⟩
  by_cases hreset : l.isResetRequest = true
  · exact h.resetRequest hreset hspares hstep hle hlive hexpires hid hlimit
  · have hsubmits : l.submitsTo challengeId = false := by
      cases l with
      | verifyReset => exact absurd rfl hreset
      | _ => rfl
    rw [hsubmits]
    have hkeeps : s.otp.stores.Keeps svc (storeKey svc .reset challengeId) s.otp.now
        s'.otp.stores := by
      by_cases hlogin : l.isLoginRequest = true
      · exact keeps_of_loginRequest hkept hlogin hstep challengeId
      · exact keeps_of_otherStep (by simpa using hlogin) (by simpa using hreset) hstep
    exact (hkeeps t hle).trans h.2

/-- The clock of a run does not go back. -/
theorem clock_of_run {c c' : Config AppState AppEvent} {ls : List AppLabel}
    (hrun : (appSystem rt svc settings).run c ls = some c') :
    c.state.otp.now.seconds ≤ c'.state.otp.now.seconds := by
  refine (appSystem rt svc settings).invariant_run
    (I := fun d => c.state.otp.now.seconds ≤ d.state.otp.now.seconds) ?_ le_rfl hrun
  intro d l d' hd hnext
  obtain ⟨es, hstep, -⟩ := (appSystem rt svc settings).next_eq_some.mp hnext
  exact hd.trans (appStep_advances hstep).clock

/-- And through every run of such steps, up to the attempt limit. -/
theorem pending_run {c c' : Config AppState AppEvent} {ls : List AppLabel}
    (hkept : IsolationKept rt svc c.state) (h : Pending rt svc challengeId start t n c.state)
    (hspares : (appSystem rt svc settings).Meets
      (fun d l => Spares rt svc challengeId start d.state l) c ls)
    (hrun : (appSystem rt svc settings).run c ls = some c')
    (hle : c'.state.otp.now.seconds ≤ t.seconds) (hlive : t.whole < start.expiresAt)
    (hexpires : Small start.expiresAt)
    (hid : svc.usesRedis = true → Decimal.roundTrip 14 start.databaseId = start.databaseId)
    (hfew : n + submissions challengeId ls < svc.maxAttempts) :
    Pending rt svc challengeId start t (n + submissions challengeId ls) c'.state := by
  -- on the labels; `n` counts the wrong codes so far, so that the limit is one of the whole run
  induction ls generalizing c n with
  | nil =>
    obtain rfl := Option.some.inj hrun
    exact h
  | cons l ls ih =>
    rw [System.run_cons, Option.bind_eq_some_iff] at hrun
    obtain ⟨c₁, hnext, hrun⟩ := hrun
    obtain ⟨hspare, hrest⟩ := hspares
    obtain ⟨es, hstep, -⟩ := (appSystem rt svc settings).next_eq_some.mp hnext
    have hcount : submissions challengeId (l :: ls) =
        (if l.submitsTo challengeId then 1 else 0) + submissions challengeId ls := by
      rw [submissions, List.countP_cons, Nat.add_comm]
      rfl
    rw [hcount, ← Nat.add_assoc] at hfew ⊢
    have hbefore := ((appStep_advances hstep).clock.trans (clock_of_run hrun)).trans hle
    -- a step that submits uses up one of the attempts left, any other step leaves them
    have hlimit : n + 1 < svc.maxAttempts ∨ l.submitsTo challengeId = false := by
      by_cases hsubmits : l.submitsTo challengeId = true
      · rw [if_pos hsubmits] at hfew
        exact Or.inl (by omega)
      · exact Or.inr (by simpa using hsubmits)
    exact ih (isolationKept_step hkept hspare.isolated hstep)
      (pending_step h hkept hspare hstep hbefore hlive hexpires hid hlimit) (hrest c₁ hnext) hrun
      hfew

/-- The token of a challenge that was handed out at this time. -/
def ResetStart.token (rt : Runtime) (settings : Settings) (start : ResetStart) (now : Instant)
    (jti : String) : Claims :=
  mintResetToken settings.passwordResetTokenTtlSeconds now.whole jti (rt.normalizeEmail start.email)
    start.accountType start.databaseId

/-- A fresh id is minted. -/
theorem confirmStep_mint_fresh {usesRedis : Bool} {tokenTtlSeconds : ℕ} {s : ConfirmState}
    {jti email accountType : String} {databaseId : ℤ}
    (hfresh : ∀ old ∈ s.minted, old.jti ≠ jti) :
    confirmStep rt usesRedis tokenTtlSeconds s (.mint jti email accountType databaseId) =
      some ({ s with
          minted := mintResetToken tokenTtlSeconds s.now.whole jti email accountType databaseId ::
            s.minted },
        [.minted (mintResetToken tokenTtlSeconds s.now.whole jti email accountType
          databaseId)]) := by
  simp only [confirmStep]
  exact if_pos (List.all_eq_true.mpr fun old hold => decide_eq_true (hfresh old hold))

/-- **The right code gets a token.** -/
theorem next_verifyReset_right {c : Config AppState AppEvent} {readAt : Instant}
    {email code jti : String} (h : Pending rt svc challengeId start c.state.otp.now n c.state)
    (hlive : c.state.otp.now.whole < start.expiresAt) (hexpires : Small start.expiresAt)
    (hbelow : n < svc.maxAttempts) (hcode : isCodeField rt code = true)
    (hright : start.Matches rt svc challengeId email code)
    (hread : readAt.seconds ≤ c.state.otp.now.seconds)
    (hfresh : ∀ old ∈ c.state.minted, old.jti ≠ jti) :
    ∃ c', (appSystem rt svc settings).next c (.verifyReset challengeId email code readAt jti) =
        some c' ∧
      c'.state.otp.now = c.state.otp.now ∧
      c'.state.minted = start.token rt settings c.state.otp.now jti :: c.state.minted ∧
      c'.state.confirms = c.state.confirms ∧ c'.state.blacklist = c.state.blacklist ∧
      ∀ key, (∀ id, key ≠ redisKey .reset id) →
        c'.state.otp.stores.redis.get? key = c.state.otp.stores.redis.get? key := by
  have hverdict := verifyReset_right hread hlive hexpires (Int.natCast_nonneg n) (by omega) hright
    h.2
  -- one request: the verdict of the flow, then the token minted for the record it accepted
  have hstep : appStep rt svc settings c.state (.verifyReset challengeId email code readAt jti) =
      some ({ c.state with
        otp := { c.state.otp with
          stores := (c.state.otp.stores.verifyReset rt svc c.state.otp.now readAt challengeId email
            code).2 }
        minted := start.token rt settings c.state.otp.now jti :: c.state.minted },
      [.confirm (.minted (start.token rt settings c.state.otp.now jti)),
        .reset (.verify challengeId email code (resetClock svc c.state.otp.now readAt)
          (.accepted (storedReset rt svc challengeId start n start.databaseId)))]) := by
    simp only [appStep, if_pos hcode, AppState.onReset, resetStep, if_pos hread, Option.map_some,
      Option.bind_some, hverdict]
    simp only [AppState.mintFor, storedReset, Json.asInt?, AppState.onConfirm]
    rw [confirmStep_mint_fresh hfresh]
    rfl
  exact ⟨_, (appSystem rt svc settings).next_of_step hstep, rfl, rfl, rfl, rfl,
    fun key hne => redis_verifyReset_ne (hne challengeId)⟩

end Waiting

/-! ### The token -/

section Token
variable {usesRedis : Bool} {tokenTtlSeconds : ℕ} {s s' : ConfirmState} {es h : List ConfirmEvent}
  {l : ConfirmLabel} {i j : ℕ} {claims cl : Claims} {newPassword : String}

/-- The update that goes with a token. -/
def Claims.update (claims : Claims) (newPassword : String) : SpringRequest :=
  ⟨claims.accountType, claims.databaseId, newPassword⟩

/-- How far call `i` has come with its token.  It ends in an error only when its `POST` did. -/
inductive Serving (usesRedis : Bool) (i : ℕ) (claims : Claims) (newPassword : String)
    (s : ConfirmState) (h : List ConfirmEvent) : ConfirmCall → Prop
  | idle : s.store.Unmarked usesRedis claims.jti →
      Serving usesRedis i claims newPassword s h .idle
  | checked (checkedAt : Instant) : s.store.Unmarked usesRedis claims.jti →
      checkedAt.seconds ≤ s.now.seconds →
      Serving usesRedis i claims newPassword s h (.checked claims newPassword checkedAt)
  | reserved : Serving usesRedis i claims newPassword s h (.reserved claims newPassword)
  | posting : .posted i claims (claims.update newPassword) ∈ h →
      Serving usesRedis i claims newPassword s h (.posting claims)
  | confirmed : .posted i claims (claims.update newPassword) ∈ h → .acknowledged i claims ∈ h →
      Serving usesRedis i claims newPassword s h .confirmed
  | failed (error : Option ApiError) : .failed i claims ∈ h →
      Serving usesRedis i claims newPassword s h (.failed claims error)
  | raised (error : Option ApiError) : .failed i claims ∈ h →
      Serving usesRedis i claims newPassword s h (.raised error)

/-- The token is there for call `i` alone. -/
structure Served (usesRedis : Bool) (i : ℕ) (claims : Claims) (newPassword : String)
    (s : ConfirmState) (h : List ConfirmEvent) : Prop where
  minted : claims ∈ s.minted
  valid : (claims.iat : ℚ) ≤ s.now.seconds
  others : ∀ j, j ≠ i → ∀ cl, (s.calls j).claims? = some cl → cl.jti ≠ claims.jti
  call : Serving usesRedis i claims newPassword s h (s.calls i)

/-- Only call `i` is given the token, and with this password. -/
def GivenTo (i : ℕ) (claims : Claims) (newPassword : String) : ConfirmLabel → Prop
  | .submit j token password =>
      if j = i then token = .signed claims ∧ password = newPassword
      else ∀ cl ∈ token.claims?, cl.jti ≠ claims.jti
  | _ => True

/-- Where a call stands stays true as the store keeps its mark and the history grows. -/
theorem Serving.later {call : ConfirmCall} (hcall : Serving usesRedis i claims newPassword s h call)
    (hclock : s.now.seconds ≤ s'.now.seconds)
    (hmark : s.store.Unmarked usesRedis claims.jti → s'.store.Unmarked usesRedis claims.jti) :
    Serving usesRedis i claims newPassword s' (es ++ h) call := by
  have hsub := List.subset_append_right es h
  cases hcall with
  | idle hfree => exact .idle (hmark hfree)
  | checked checkedAt hfree hle => exact .checked checkedAt (hmark hfree) (hle.trans hclock)
  | reserved => exact .reserved
  | posting hposted => exact .posting (hsub hposted)
  | confirmed hposted hacked => exact .confirmed (hsub hposted) (hsub hacked)
  | failed error hfailed => exact .failed error (hsub hfailed)
  | raised error hfailed => exact .raised error (hsub hfailed)

/-- **Frame rule.** A step that does not move call `i`. -/
theorem Served.frame (hserved : Served usesRedis i claims newPassword s h)
    (hminted : s.minted ⊆ s'.minted) (hclock : s.now.seconds ≤ s'.now.seconds)
    (hmark : s.store.Unmarked usesRedis claims.jti → s'.store.Unmarked usesRedis claims.jti)
    (hown : s'.calls i = s.calls i)
    (hothers : ∀ j, j ≠ i → s'.calls j = s.calls j ∨
      ∀ cl, (s'.calls j).claims? = some cl → cl.jti ≠ claims.jti) :
    Served usesRedis i claims newPassword s' (es ++ h) where
  minted := hminted hserved.minted
  valid := hserved.valid.trans hclock
  others := fun j hj => (hothers j hj).elim (fun hsame => hsame ▸ hserved.others j hj) id
  call := hown ▸ hserved.call.later hclock hmark

/-- Another call moves, with another token. -/
theorem Served.otherCall (hserved : Served usesRedis i claims newPassword s h) {call : ConfirmCall}
    {store : ReservationStore} (hj : j ≠ i)
    (hmark : s.store.Unmarked usesRedis claims.jti → store.Unmarked usesRedis claims.jti)
    (hcall : ∀ cl, call.claims? = some cl → cl.jti ≠ claims.jti) :
    Served usesRedis i claims newPassword ({ s with store := store }.setCall j call) (es ++ h) := by
  refine hserved.frame (List.Subset.refl _) le_rfl hmark (ConfirmState.setCall_ne _ _ hj.symm)
    fun k hk => ?_
  by_cases hkj : k = j
  · subst hkj
    rw [ConfirmState.setCall_self]
    exact Or.inr hcall
  · exact Or.inl (ConfirmState.setCall_ne _ _ hkj)

/-- Call `i` itself moves. -/
theorem Served.ownCall (hserved : Served usesRedis i claims newPassword s h) {call : ConfirmCall}
    {store : ReservationStore}
    (hcall : Serving usesRedis i claims newPassword ({ s with store := store }.setCall i call)
      (es ++ h) call) :
    Served usesRedis i claims newPassword ({ s with store := store }.setCall i call) (es ++ h) where
  minted := hserved.minted
  valid := hserved.valid
  others := fun j hj => by
    rw [ConfirmState.setCall_ne _ _ hj]
    exact hserved.others j hj
  call := by rwa [ConfirmState.setCall_self]

/-- **A step of the confirm system leaves the token to call `i`**, and brings the call closer to its
    end. -/
theorem served_step (hserved : Served usesRedis i claims newPassword s h)
    (hgiven : GivenTo i claims newPassword l)
    (hgood : confirmCheck rt s.now (.signed claims) newPassword = .ok claims)
    (hstep : confirmStep rt usesRedis tokenTtlSeconds s l = some (s', es)) :
    Served usesRedis i claims newPassword s' (es ++ h) := by
  cases l with
  | tick t =>
    obtain ⟨hle, rfl, -⟩ := confirmStep_tick hstep
    exact hserved.frame (List.Subset.refl _) hle id rfl fun _ _ => Or.inl rfl
  | mint jti email accountType databaseId =>
    obtain ⟨cl, -, -, rfl, -⟩ := confirmStep_mint hstep
    exact hserved.frame (List.subset_cons_self _ _) le_rfl id rfl fun _ _ => Or.inl rfl
  | submit j token password =>
    -- what another call submits carries another token
    by_cases hj : j = i
    · subst hj
      simp only [GivenTo, if_true] at hgiven
      obtain ⟨rfl, rfl⟩ := hgiven
      obtain ⟨hidle, -⟩ := confirmStep_submit hstep
      simp only [confirmStep, hidle, hgood] at hstep
      split_ifs at hstep
      obtain ⟨rfl, -⟩ := Prod.mk.inj (Option.some.inj hstep)
      have hcall := hserved.call
      rw [hidle] at hcall
      cases hcall with
      | idle hfree => exact hserved.ownCall (.checked s.now hfree le_rfl)
    · simp only [GivenTo, if_neg hj] at hgiven
      obtain ⟨-, -, ⟨e, rfl⟩ | ⟨cl, hcheck, -, rfl⟩⟩ := confirmStep_submit hstep
      · exact hserved.otherCall hj id (by simp [ConfirmCall.claims?, ConfirmCall.holds])
      · refine hserved.otherCall hj id fun cl' hcl => ?_
        obtain rfl := Option.some.inj hcl
        exact hgiven _ (by rw [(confirmCheck_ok hcheck).1]; rfl)
  | reserve j measuredAt clockAt =>
    -- only call `i` asks for the mark of this token; a mark for another jti leaves it free
    obtain ⟨cl, password, checkedAt, hcalled, -, -, -, ok, store, hreserve, rfl⟩ :=
      confirmStep_reserve hstep
    by_cases hj : j = i
    · subst hj
      have hcall := hserved.call
      rw [hcalled] at hcall
      cases hcall with
      | checked _ hfree _ =>
        obtain rfl := hfree.reserve hreserve
        exact hserved.ownCall .reserved
    · have hne : cl.jti ≠ claims.jti := hserved.others j hj cl (by rw [hcalled]; rfl)
      refine hserved.otherCall hj (fun hfree => hfree.of_reserve (fun _ => hne.symm) hreserve) ?_
      intro cl' hcl
      cases ok with
      | true => exact Option.some.inj hcl ▸ hne
      | false => exact absurd hcl (by simp [ConfirmCall.claims?, ConfirmCall.holds])
  | post j =>
    obtain ⟨cl, password, hcalled, rfl, rfl⟩ := confirmStep_post hstep
    by_cases hj : j = i
    · subst hj
      have hcall := hserved.call
      rw [hcalled] at hcall
      cases hcall with
      | reserved => exact hserved.ownCall (.posting List.mem_cons_self)
    · have hne : cl.jti ≠ claims.jti := hserved.others j hj cl (by rw [hcalled]; rfl)
      exact hserved.otherCall hj id fun cl' hcl => Option.some.inj hcl ▸ hne
  | respond j outcome =>
    obtain ⟨cl, answered, hcalled, rfl, hend⟩ := confirmStep_respond hstep
    by_cases hj : j = i
    · subst hj
      have hcall := hserved.call
      rw [hcalled] at hcall
      cases hcall with
      | posting hposted =>
        -- Spring acknowledged, or the call goes on to release its reservation
        obtain ⟨rfl, rfl, rfl⟩ | ⟨error, -, rfl, rfl⟩ := hend
        · exact hserved.ownCall (.confirmed (List.mem_append_right _ hposted)
            (List.mem_cons_of_mem _ List.mem_cons_self))
        · exact hserved.ownCall (.failed error List.mem_cons_self)
    · have hne : cl.jti ≠ claims.jti := hserved.others j hj cl (by rw [hcalled]; rfl)
      obtain ⟨-, rfl, rfl⟩ | ⟨error, -, rfl, rfl⟩ := hend
      · exact hserved.otherCall hj id (by simp [ConfirmCall.claims?, ConfirmCall.holds])
      · exact hserved.otherCall hj id fun cl' hcl => Option.some.inj hcl ▸ hne
  | release j =>
    obtain ⟨cl, error, hcalled, rfl, -⟩ := confirmStep_release hstep
    by_cases hj : j = i
    · subst hj
      have hcall := hserved.call
      rw [hcalled] at hcall
      cases hcall with
      | failed _ hfailed => exact hserved.ownCall (.raised error (List.mem_append_right _ hfailed))
    · exact hserved.otherCall hj (fun hfree => hfree.release)
        (by simp [ConfirmCall.claims?, ConfirmCall.holds])

/-- The others' steps leave the token to call `i`. -/
theorem Served.sameConfirms (hserved : Served usesRedis i claims newPassword s h)
    (hsame : SameConfirms s s') : Served usesRedis i claims newPassword s' h := by
  show Served usesRedis i claims newPassword s' ([] ++ h)
  exact hserved.frame (hsame.minted ▸ List.Subset.refl _) hsame.clock hsame.unmarked
    (by rw [hsame.calls]) fun j _ => Or.inl (by rw [hsame.calls])

/-- A token for a resettable account passes the checks while it lives, with a password that meets
    the rules. -/
theorem confirmCheck_token {start : ResetStart} {accountType : AccountType} {mintedAt now : Instant}
    {jti : String} (htype : start.accountType = accountType.value)
    (hreset : accountType.resettable = true)
    (hpassword : credentialComplexity rt newPassword = true)
    (hafter : mintedAt.seconds ≤ now.seconds)
    (hlive : now.seconds < (start.token rt settings mintedAt jti).exp) :
    confirmCheck rt now (.signed (start.token rt settings mintedAt jti)) newPassword =
      .ok (start.token rt settings mintedAt jti) := by
  have hiat : ((start.token rt settings mintedAt jti).iat : ℚ) ≤ now.seconds :=
    mintedAt.whole_le.trans hafter
  have hverify : verifyResetToken now (.signed (start.token rt settings mintedAt jti)) =
      .ok (start.token rt settings mintedAt jti) := by
    unfold verifyResetToken
    dsimp only
    rw [if_neg (not_or.mpr ⟨not_le.mpr hlive, not_lt.mpr hiat⟩)]
    exact if_neg (not_not.mpr rfl)
  have hof : AccountType.ofValue? (start.token rt settings mintedAt jti).accountType =
      some accountType := by
    show AccountType.ofValue? start.accountType = _
    rw [htype, AccountType.ofValue?_value]
  unfold confirmCheck
  rw [hverify]
  dsimp only
  rw [if_neg (by simp [hpassword]), hof]
  exact if_pos hreset

end Token

/-! ### Runs of the application -/

section Runs
variable {i : ℕ} {claims : Claims} {newPassword : String} {c c' : Config AppState AppEvent}
  {l : AppLabel}

/-- The token is there for call `i` alone, in the application. -/
def ServedIn (svc : OtpService) (i : ℕ) (claims : Claims) (newPassword : String)
    (c : Config AppState AppEvent) : Prop :=
  Served svc.usesRedis i claims newPassword c.state.confirmState (confirmEvents c.history)

/-- No other request carries the token. -/
def AppLabel.GivenTo (i : ℕ) (claims : Claims) (newPassword : String) (l : AppLabel) : Prop :=
  ∀ l', l = .confirm l' → OurosAuth.GivenTo i claims newPassword l'

/-- A step of the application leaves the token to call `i`. -/
theorem servedIn_next (hserved : ServedIn svc i claims newPassword c)
    (hgiven : l.GivenTo i claims newPassword)
    (hgood : ∀ now : Instant, c.state.otp.now.seconds ≤ now.seconds →
      now.seconds ≤ c'.state.otp.now.seconds →
        confirmCheck rt now (.signed claims) newPassword = .ok claims)
    (hnext : (appSystem rt svc settings).next c l = some c') :
    ServedIn svc i claims newPassword c' := by
  obtain ⟨es, hstep, hhist⟩ := (appSystem rt svc settings).next_eq_some.mp hnext
  unfold ServedIn at hserved ⊢
  rw [hhist, confirmEvents_append]
  obtain ⟨m, hsame, ⟨hm, hes⟩ | ⟨l', hconfirm, hl⟩⟩ := appStep_confirmView hstep
  · rw [hes, ← hm]
    exact hserved.sameConfirms hsame
  · have hgiven' : OurosAuth.GivenTo i claims newPassword l' := by
      rcases hl with hl | ⟨jti, email, accountType, databaseId, rfl⟩
      · exact hgiven l' hl
      · trivial
    have hlater : m.now.seconds ≤ c'.state.otp.now.seconds :=
      (minted_of_next (c := ⟨m, []⟩) ((confirmSystem rt svc.usesRedis
        settings.passwordResetTokenTtlSeconds).next_of_step hconfirm)).2
    exact served_step (hserved.sameConfirms hsame) hgiven' (hgood m.now hsame.clock hlater) hconfirm

/-- A step of call `i`, of those that follow one another when Spring answers with a 200. -/
def AppLabel.isStepOf (i : ℕ) : AppLabel → Bool
  | .confirm (.submit j _ _) => j = i
  | .confirm (.reserve j _ _) => j = i
  | .confirm (.post j) => j = i
  | .confirm (.respond j (.status 200)) => j = i
  | _ => false

/-- By steps of its own call `i` gets its update to Spring, who acknowledges it. -/
def Finishes (rt : Runtime) (svc : OtpService) (settings : Settings) (i : ℕ) (claims : Claims)
    (newPassword : String) : Config AppState AppEvent → Prop :=
  (appSystem rt svc settings).CanReach (fun l => l.isStepOf i = true) fun c =>
    .confirm (.posted i claims (claims.update newPassword)) ∈ c.history ∧
      .confirm (.acknowledged i claims) ∈ c.history

theorem mem_of_mem_confirmEvents {h : List AppEvent} {e : ConfirmEvent} :
    e ∈ confirmEvents h ↔ .confirm e ∈ h := by
  unfold confirmEvents
  rw [List.mem_filterMap]
  constructor
  · rintro ⟨event, hmem, heq⟩
    cases event <;> simp at heq
    exact heq ▸ hmem
  · exact fun hmem => ⟨_, hmem, rfl⟩

/-- A step of the confirm system forward. -/
theorem next_confirm {l : ConfirmLabel} {t : ConfirmState} {ces : List ConfirmEvent}
    (hroute : l.isRouteStep = true)
    (hconfirm : confirmStep rt svc.usesRedis settings.passwordResetTokenTtlSeconds
      c.state.confirmState l = some (t, ces)) :
    (appSystem rt svc settings).next c (.confirm l) =
      some ⟨c.state.setConfirm t, ces.map .confirm ++ c.history⟩ := by
  refine (appSystem rt svc settings).next_of_step ?_
  show appStep rt svc settings c.state (.confirm l) = _
  rw [appStep, if_pos hroute, AppState.onConfirm, hconfirm, Option.map_some]

/-- A `POST` in flight can be answered. -/
theorem finishes_posting (hcall : c.state.confirms i = .posting claims)
    (hposted : .confirm (.posted i claims (claims.update newPassword)) ∈ c.history) :
    Finishes rt svc settings i claims newPassword c := by
  have hstep : confirmStep rt svc.usesRedis settings.passwordResetTokenTtlSeconds
      c.state.confirmState (.respond i (.status 200)) =
        some (c.state.confirmState.setCall i .confirmed,
          [.returned i claims, .acknowledged i claims]) := by
    simp only [confirmStep, AppState.confirmState, hcall, SpringOutcome.failure]
    rfl
  have hdone : Finishes rt svc settings i claims newPassword
      ⟨c.state.setConfirm (c.state.confirmState.setCall i .confirmed),
        [.returned i claims, .acknowledged i claims].map .confirm ++ c.history⟩ :=
    .here _ ⟨List.mem_append_right _ hposted, List.mem_cons_of_mem _ List.mem_cons_self⟩
  exact hdone.before _ (next_confirm rfl hstep) (by simp [AppLabel.isStepOf])

/-- A reserved token can be sent. -/
theorem finishes_reserved (hcall : c.state.confirms i = .reserved claims newPassword) :
    Finishes rt svc settings i claims newPassword c := by
  have hstep : confirmStep rt svc.usesRedis settings.passwordResetTokenTtlSeconds
      c.state.confirmState (.post i) = some (c.state.confirmState.setCall i (.posting claims),
        [.posted i claims (claims.update newPassword)]) := by
    simp only [confirmStep, AppState.confirmState, hcall]
    rfl
  exact (finishes_posting (ConfirmState.setCall_self _ i _) List.mem_cons_self).before _
    (next_confirm rfl hstep) (by simp [AppLabel.isStepOf])

/-- A token without a mark can be reserved. -/
theorem finishes_checked {checkedAt : Instant}
    (hcall : c.state.confirms i = .checked claims newPassword checkedAt)
    (hfree : c.state.confirmState.store.Unmarked svc.usesRedis claims.jti)
    (hle : checkedAt.seconds ≤ c.state.otp.now.seconds) :
    Finishes rt svc settings i claims newPassword c := by
  generalize hreserve : c.state.confirmState.store.reserve svc.usesRedis c.state.otp.now
    c.state.otp.now claims.jti (max (claims.exp - c.state.otp.now.whole) 1) = r
  have hok : r.1 = true := hfree.reserve hreserve
  have hstep : confirmStep rt svc.usesRedis settings.passwordResetTokenTtlSeconds
      c.state.confirmState (.reserve i c.state.otp.now c.state.otp.now) =
        some ({ c.state.confirmState with store := r.2 }.setCall i (.reserved claims newPassword),
          []) := by
    have hcalled : c.state.confirmState.calls i = .checked claims newPassword checkedAt := hcall
    simp only [confirmStep, hcalled]
    rw [if_pos ⟨hle, le_rfl, le_rfl⟩]
    show some (_, _) = _
    have hres : c.state.confirmState.store.reserve svc.usesRedis c.state.confirmState.now
      c.state.otp.now claims.jti (max (claims.exp - c.state.otp.now.whole) 1) = r := hreserve
    rw [hres, if_pos hok]
  exact (finishes_reserved (ConfirmState.setCall_self _ i _)).before _ (next_confirm rfl hstep)
    (by simp [AppLabel.isStepOf])

/-- And a call that has not begun can submit it. -/
theorem finishes_idle (hcall : c.state.confirms i = .idle)
    (hfree : c.state.confirmState.store.Unmarked svc.usesRedis claims.jti)
    (hminted : claims ∈ c.state.minted)
    (hgood : confirmCheck rt c.state.otp.now (.signed claims) newPassword = .ok claims) :
    Finishes rt svc settings i claims newPassword c := by
  have hstep : confirmStep rt svc.usesRedis settings.passwordResetTokenTtlSeconds
      c.state.confirmState (.submit i (.signed claims) newPassword) =
        some (c.state.confirmState.setCall i (.checked claims newPassword c.state.otp.now),
          []) := by
    have hcalled : c.state.confirmState.calls i = .idle := hcall
    have hchecked : confirmCheck rt c.state.confirmState.now (.signed claims) newPassword =
        .ok claims := hgood
    simp only [confirmStep, hcalled, hchecked]
    refine if_pos fun cl hcl => Or.inl ?_
    rw [← Option.some.inj hcl]
    exact hminted
  have hnext : Finishes rt svc settings i claims newPassword
      ⟨c.state.setConfirm (c.state.confirmState.setCall i
        (.checked claims newPassword c.state.otp.now)), c.history⟩ :=
    finishes_checked (ConfirmState.setCall_self _ i _) hfree le_rfl
  exact hnext.before _ (next_confirm rfl hstep) (by simp [AppLabel.isStepOf])

/-- **Wherever the call stands, it can finish**, unless its update has failed. -/
theorem finishes_of_served (hserved : ServedIn svc i claims newPassword c)
    (hgood : confirmCheck rt c.state.otp.now (.signed claims) newPassword = .ok claims) :
    .confirm (.failed i claims) ∈ c.history ∨
      Finishes rt svc settings i claims newPassword c := by
  have hcall := hserved.call
  generalize hcalled : c.state.confirmState.calls i = call at hcall
  cases hcall with
  | idle hfree => exact Or.inr (finishes_idle hcalled hfree hserved.minted hgood)
  | checked checkedAt hfree hle => exact Or.inr (finishes_checked hcalled hfree hle)
  | reserved => exact Or.inr (finishes_reserved hcalled)
  | posting hposted =>
    exact Or.inr (finishes_posting hcalled (mem_of_mem_confirmEvents.mp hposted))
  | confirmed hposted hacked =>
    exact Or.inr (.here _
      ⟨mem_of_mem_confirmEvents.mp hposted, mem_of_mem_confirmEvents.mp hacked⟩)
  | failed error hfailed => exact Or.inl (mem_of_mem_confirmEvents.mp hfailed)
  | raised error hfailed => exact Or.inl (mem_of_mem_confirmEvents.mp hfailed)

/-- While the token lives, a run in which no other request carries it leaves it to call `i`. -/
theorem servedIn_run {ls : List AppLabel} (hserved : ServedIn svc i claims newPassword c)
    (hgiven : ∀ l ∈ ls, l.GivenTo i claims newPassword)
    (hgood : ∀ now : Instant, c.state.otp.now.seconds ≤ now.seconds →
      now.seconds ≤ c'.state.otp.now.seconds →
        confirmCheck rt now (.signed claims) newPassword = .ok claims)
    (hrun : (appSystem rt svc settings).run c ls = some c') :
    ServedIn svc i claims newPassword c' := by
  induction ls generalizing c with
  | nil =>
    obtain rfl := Option.some.inj hrun
    exact hserved
  | cons l ls ih =>
    rw [System.run_cons, Option.bind_eq_some_iff] at hrun
    obtain ⟨c₁, hnext, hrun⟩ := hrun
    obtain ⟨hl, hls⟩ := List.forall_mem_cons.mp hgiven
    obtain ⟨es, hstep, -⟩ := (appSystem rt svc settings).next_eq_some.mp hnext
    have hfirst := (appStep_advances hstep).clock
    have hlast := clock_of_run hrun
    refine ih (servedIn_next hserved hl (fun now hle hlater => ?_) hnext) hls
      (fun now hle hlater => ?_) hrun
    · exact hgood now hle (hlater.trans hlast)
    · exact hgood now (hfirst.trans hle) hlater

/-- A challenge that was just created waits until it expires. -/
theorem pending_startReset {tables : IdentityTables} {email challengeId code : String}
    {accountType : Option AccountType} {readAt t : Instant} {identity : StoredIdentity}
    (heligible : eligibleIdentity (findByEmail rt tables (rt.normalizeEmail email) accountType) =
      some identity)
    (hnext : (appSystem rt svc settings).next c
      (.startReset tables email accountType challengeId code readAt) = some c')
    (hlive : t.whole < readAt.whole + svc.ttlSeconds) :
    isOtpCode code = true ∧ Pending rt svc challengeId
      (identity.resetStart code (readAt.whole + svc.ttlSeconds)) t 0 c'.state := by
  obtain ⟨es, hstep, -⟩ := (appSystem rt svc settings).next_eq_some.mp hnext
  have hstep : appStep rt svc settings c.state
    (.startReset tables email accountType challengeId code readAt) = some (c'.state, es) := hstep
  simp only [appStep, heligible] at hstep
  obtain ⟨⟨s₁, res⟩, hon, heq⟩ := Option.map_eq_some_iff.mp hstep
  obtain ⟨rfl, -⟩ := Prod.mk.inj heq
  obtain ⟨otp, res, hstart, hs, -⟩ := onReset_eq_some hon
  obtain ⟨hcode, hcreate, -⟩ := resetStep_start hstart
  obtain ⟨-, -, hread, hotp⟩ := create_eq_some.mp hcreate
  refine ⟨hcode, ?_⟩
  unfold Pending
  rw [hs, hotp]
  refine ⟨List.mem_cons_self, find?_save_self rfl hlive ?_⟩
  -- Redis counts the lifetime from the save, which comes after the reading
  have hread' := readAt.whole_le.trans hread
  have httl : (svc.ttlSeconds : ℚ) ≤ (max (svc.ttlSeconds : ℤ) 1 : ℤ) := by
    exact_mod_cast le_max_left _ _
  push_cast at httl ⊢
  linarith

/-- A token nobody has seen the id of before is there for whichever call comes first. -/
theorem servedIn_fresh {start : ResetStart} {jti : String}
    (htokens : TokensKept svc.usesRedis ⟨c.state.confirmState, confirmEvents c.history⟩)
    (hfresh : ∀ old ∈ c.state.minted, old.jti ≠ jti) (hnow : c'.state.otp.now = c.state.otp.now)
    (hminted : c'.state.minted = start.token rt settings c.state.otp.now jti :: c.state.minted)
    (hconfirms : c'.state.confirms = c.state.confirms)
    (hblacklist : c'.state.blacklist = c.state.blacklist)
    (hredis : ∀ key, (∀ id, key ≠ redisKey .reset id) →
      c'.state.otp.stores.redis.get? key = c.state.otp.stores.redis.get? key)
    (hidle : c'.state.confirms i = .idle) :
    ServedIn svc i (start.token rt settings c.state.otp.now jti) newPassword c' where
  minted := by
    show _ ∈ c'.state.minted
    rw [hminted]
    exact List.mem_cons_self
  valid := by
    show _ ≤ c'.state.otp.now.seconds
    rw [hnow]
    exact c.state.otp.now.whole_le
  others := fun j _ cl hcl => by
    have hbefore : (c.state.confirms j).claims? = some cl := hconfirms ▸ hcl
    exact hfresh cl (htokens.call_minted j cl hbefore)
  call := by
    -- a mark is set by a call that has the token, and no call has seen this id
    have hbefore := htokens.unmarked jti hfresh
    rw [show c'.state.confirmState.calls i = .idle from hidle]
    apply Serving.idle
    show c'.state.confirmState.store.Unmarked svc.usesRedis jti
    unfold ReservationStore.Unmarked at hbefore ⊢
    rwa [show c'.state.confirmState.store.blacklist = c.state.blacklist from hblacklist,
      show c'.state.confirmState.store.redis.get? (blacklistKey jti) =
          c.state.otp.stores.redis.get? (blacklistKey jti) from
        hredis _ fun id => (redisKey_reset_ne_blacklistKey id jti).symm]

/-- **A reset goes through.** Somebody whose address finds exactly one resettable account asks for a
    code.  Whatever others do, as long as the challenge is spared and fewer than `max_attempts`
    wrong codes are tried, the code is accepted until it expires.  And whatever others do then with
    tokens of their own, the update with the new password can be sent to Spring as long as the token
    lives. -/
theorem reset_goes_through {now readAt clock : Instant} {tables : IdentityTables}
    {email challengeId code submitted jti : String} {accountType : Option AccountType}
    {identity : StoredIdentity} {earlier meanwhile : List AppLabel}
    {c₀ c₁ c₂ : Config AppState AppEvent} (hdigits : ∀ ch : Char, ch.isDigit = true →
      rt.isDecimalDigit ch = true)
    (hearlier : (appSystem rt svc settings).Meets (fun d l => ¬ AddressesReset rt svc d.state l)
      (Config.start (AppState.init now)) earlier)
    (hrun : (appSystem rt svc settings).run (Config.start (AppState.init now)) earlier = some c₀)
    (heligible : eligibleIdentity (findByEmail rt tables (rt.normalizeEmail email) accountType) =
      some identity)
    (hid : svc.usesRedis = true → Decimal.roundTrip 14 identity.databaseId = identity.databaseId)
    (hstart : (appSystem rt svc settings).next c₀
      (.startReset tables email accountType challengeId code readAt) = some c₁)
    (hspares : (appSystem rt svc settings).Meets (fun d l => Spares rt svc challengeId
      (identity.resetStart code (readAt.whole + svc.ttlSeconds)) d.state l) c₁ meanwhile)
    (hfew : submissions challengeId meanwhile < svc.maxAttempts)
    (hmeanwhile : (appSystem rt svc settings).run c₁ meanwhile = some c₂)
    (hemail : rt.normalizeEmail submitted = rt.normalizeEmail identity.email)
    (hlive : c₂.state.otp.now.whole < readAt.whole + svc.ttlSeconds)
    (hclock : clock.seconds ≤ c₂.state.otp.now.seconds)
    (hfresh : ∀ old ∈ c₂.state.minted, old.jti ≠ jti) :
    let claims := (identity.resetStart code (readAt.whole + svc.ttlSeconds)).token rt settings
      c₂.state.otp.now jti
    ∃ c₃, (appSystem rt svc settings).next c₂
        (.verifyReset challengeId submitted code clock jti) = some c₃ ∧
      claims ∈ c₃.state.minted ∧
      ∀ i newPassword afterwards c₄, c₃.state.confirms i = .idle →
        credentialComplexity rt newPassword = true →
        (∀ l ∈ afterwards, l.GivenTo i claims newPassword) →
        (appSystem rt svc settings).run c₃ afterwards = some c₄ →
        c₄.state.otp.now.seconds < claims.exp →
        claims.update newPassword =
            ⟨identity.accountType.value, identity.databaseId, newPassword⟩ ∧
          (.confirm (.failed i claims) ∈ c₄.history ∨
            Finishes rt svc settings i claims newPassword c₄) := by
  intro claims
  -- the challenge waits from its creation to the submission
  have hkept₀ : IsolationKept rt svc c₀.state :=
    (appSystem rt svc settings).invariant_run_of_meets (I := fun d => IsolationKept rt svc d.state)
      (fun d l d' hd hspare hnext => by
        obtain ⟨es, hstep, -⟩ := (appSystem rt svc settings).next_eq_some.mp hnext
        exact isolationKept_step hd hspare hstep)
      (isolationKept_init now) hearlier hrun
  obtain ⟨es, hstep, -⟩ := (appSystem rt svc settings).next_eq_some.mp hstart
  have hstep : appStep rt svc settings c₀.state
    (.startReset tables email accountType challengeId code readAt) = some (c₁.state, es) := hstep
  have hkept₁ : IsolationKept rt svc c₁.state := isolationKept_step
    (l := .startReset tables email accountType challengeId code readAt) hkept₀ (fun h => h) hstep
  obtain ⟨hcode, hwaits⟩ := pending_startReset heligible hstart hlive
  have hexpires := small_expiresAt svc readAt
  have hpending := pending_run hkept₁ hwaits hspares hmeanwhile le_rfl hlive hexpires hid
    (by rwa [Nat.zero_add])
  rw [Nat.zero_add] at hpending
  -- the right code gets the token
  have hfield : isCodeField rt code = true := by
    simp only [isOtpCode, isCodeField, Bool.and_eq_true] at hcode ⊢
    exact ⟨hcode.1, List.all_eq_true.mpr fun ch hch =>
      hdigits ch (List.all_eq_true.mp hcode.2 ch hch)⟩
  obtain ⟨c₃, hnext, hnow, hminted, hconfirms, hblacklist, hredis⟩ :=
    next_verifyReset_right hpending hlive hexpires hfew hfield ⟨hemail.symm, rfl⟩ hclock hfresh
  refine ⟨c₃, hnext, by rw [hminted]; exact List.mem_cons_self, ?_⟩
  intro i newPassword afterwards c₄ hidle hpassword hgiven hafterwards hexp
  -- the token is free, and passes the checks until it expires
  have hrun₂ : (appSystem rt svc settings).run (Config.start (AppState.init now))
      (earlier ++ .startReset tables email accountType challengeId code readAt :: meanwhile) =
        some c₂ := by
    rw [System.run_append, hrun, Option.bind_some, System.run_cons, hstart, Option.bind_some]
    exact hmeanwhile
  have hserved : ServedIn svc i claims newPassword c₃ := servedIn_fresh (tokensKept_run hrun₂)
    hfresh hnow hminted hconfirms hblacklist hredis hidle
  obtain ⟨-, hreset⟩ := mem_of_eligibleIdentity heligible
  have hgood : ∀ t : Instant, c₃.state.otp.now.seconds ≤ t.seconds →
      t.seconds ≤ c₄.state.otp.now.seconds →
        confirmCheck rt t (.signed claims) newPassword = .ok claims := fun t hle hlater =>
    confirmCheck_token rfl hreset hpassword (hnow ▸ hle) (hlater.trans_lt hexp)
  exact ⟨rfl, finishes_of_served (servedIn_run hserved hgiven hgood hafterwards)
    (hgood _ (clock_of_run hafterwards) le_rfl)⟩

/-- What comes between a request of Ana's and her code: the e-mail is sent, and somebody guesses. -/
def sampleMeanwhile : List AppLabel :=
  [.resetDelivered sampleToken .sent,
    .verifyReset sampleToken "ana@ouros.app" "000000" sampleNow "unused"]

/-- What comes between her code and the update: somebody submits a token that was not signed here,
    and she submits hers. -/
def sampleAfterwards (claims : Claims) : List AppLabel :=
  [.confirm (.submit 1 .refused "Senha@456"), .confirm (.submit 0 (.signed claims) "Senha@456")]

/-- Her token. -/
def sampleResetToken : Claims :=
  (sampleIdentity.resetStart "123456" (sampleNow.whole + 300)).token .sample
    (.sample (some "redis://cache")) sampleNow "jti"

/-- A call that works with no token and has not ended has not begun. -/
theorem ConfirmCall.eq_idle {call : ConfirmCall} (hclaims : call.claims? = none)
    (hfinished : call.isFinished = false) : call = .idle := by
  cases call with
  | idle => rfl
  | checked => exact absurd hclaims (by simp [ConfirmCall.claims?])
  | reserved => exact absurd hclaims (by simp [ConfirmCall.claims?, ConfirmCall.holds])
  | posting => exact absurd hclaims (by simp [ConfirmCall.claims?, ConfirmCall.holds])
  | failed => exact absurd hclaims (by simp [ConfirmCall.claims?, ConfirmCall.holds])
  | confirmed => exact absurd hfinished (by simp [ConfirmCall.isFinished])
  | raised => exact absurd hfinished (by simp [ConfirmCall.isFinished])

/-- Ana's reset, over Redis. -/
theorem reset_goes_through_ana :
    ∃ c₂ c₃ c₄, (appSystem .sample (.sample true) (.sample (some "redis://cache"))).run
        (Config.start (AppState.init sampleNow))
        (.startReset sampleTables "ana@ouros.app" none sampleToken "123456" sampleNow ::
          sampleMeanwhile) = some c₂ ∧
      (appSystem .sample (.sample true) (.sample (some "redis://cache"))).next c₂
        (.verifyReset sampleToken "ana@ouros.app" "123456" sampleNow "jti") = some c₃ ∧
      (appSystem .sample (.sample true) (.sample (some "redis://cache"))).run c₃
        (sampleAfterwards sampleResetToken) = some c₄ ∧
      (.confirm (.failed 0 sampleResetToken) ∈ c₄.history ∨
        Finishes .sample (.sample true) (.sample (some "redis://cache")) 0 sampleResetToken
          "Senha@456" c₄) := by
  -- the run is evaluated once, with all that the hypotheses ask of the states on its way
  obtain ⟨c₁, hstart, hrest⟩ := Option.bind_eq_some_iff.mp
    (by decide +kernel :
      ((appSystem .sample (.sample true) (.sample (some "redis://cache"))).next
        (Config.start (AppState.init sampleNow))
        (.startReset sampleTables "ana@ouros.app" none sampleToken "123456" sampleNow)).bind
          (fun c₁ =>
            ((appSystem .sample (.sample true) (.sample (some "redis://cache"))).run c₁
              sampleMeanwhile).bind fun c₂ =>
            ((appSystem .sample (.sample true) (.sample (some "redis://cache"))).next c₂
              (.verifyReset sampleToken "ana@ouros.app" "123456" sampleNow "jti")).bind fun c₃ =>
            ((appSystem .sample (.sample true) (.sample (some "redis://cache"))).run c₃
              (sampleAfterwards sampleResetToken)).map fun c₄ =>
            (c₂.state.otp.now, c₂.state.minted, (c₃.state.confirms 0).claims?,
              (c₃.state.confirms 0).isFinished, c₄.state.otp.now)) =
        some (sampleNow, [], none, false, sampleNow))
  obtain ⟨c₂, hmeanwhile, hrest⟩ := Option.bind_eq_some_iff.mp hrest
  obtain ⟨c₃, hverify, hrest⟩ := Option.bind_eq_some_iff.mp hrest
  obtain ⟨c₄, hafterwards, hout⟩ := Option.map_eq_some_iff.mp hrest
  simp only [Prod.mk.injEq] at hout
  obtain ⟨hnow, hminted, hclaims, hfinished, hlater⟩ := hout
  refine ⟨c₂, c₃, c₄, ?_, hverify, hafterwards, ?_⟩
  · rw [System.run_cons, hstart]
    exact hmeanwhile
  have hspares : (appSystem .sample (.sample true) (.sample (some "redis://cache"))).Meets
      (fun d l => Spares .sample (.sample true) sampleToken
        (sampleIdentity.resetStart "123456" (sampleNow.whole + 300)) d.state l) c₁
      sampleMeanwhile :=
    ⟨⟨id, by simp, by simp⟩, fun _ _ => ⟨⟨id, fun email code readAt jti heq => by
      obtain ⟨-, rfl, rfl, -, -⟩ := AppLabel.verifyReset.inj heq
      decide +kernel, by simp⟩, fun _ _ => trivial⟩⟩
  have hnothing : (appSystem .sample (.sample true) (.sample (some "redis://cache"))).Meets
      (fun d l => ¬ AddressesReset .sample (.sample true) d.state l)
      (Config.start (AppState.init sampleNow)) [] := trivial
  have hfresh : ∀ old ∈ c₂.state.minted, old.jti ≠ "jti" := by
    rw [hminted]
    exact fun old hold => absurd hold List.not_mem_nil
  have hemail : Runtime.sample.normalizeEmail "ana@ouros.app" =
      Runtime.sample.normalizeEmail sampleIdentity.email := rfl
  obtain ⟨c₃', hverify', -, hthrough⟩ := reset_goes_through (fun _ h => h) hnothing rfl
    (by decide +kernel :
      eligibleIdentity (findByEmail .sample sampleTables (Runtime.sample.normalizeEmail
        "ana@ouros.app") none) = some sampleIdentity)
    (fun _ => by decide +kernel) hstart hspares (by decide +kernel) hmeanwhile hemail
    (by rw [hnow]; decide +kernel) (hnow ▸ le_rfl : sampleNow.seconds ≤ c₂.state.otp.now.seconds)
    hfresh
  obtain rfl := Option.some.inj (hverify'.symm.trans hverify)
  rw [hnow] at hthrough
  have hgiven : ∀ l ∈ sampleAfterwards sampleResetToken,
      l.GivenTo 0 sampleResetToken "Senha@456" := by
    intro l hl
    -- the first submission is of a forged token, the second is Ana's own
    rcases List.mem_pair.mp hl with rfl | rfl <;> rintro l' ⟨⟩
    · exact fun _ h => absurd h (by simp [ResetToken.claims?])
    · exact ⟨rfl, rfl⟩
  exact (hthrough 0 "Senha@456" (sampleAfterwards sampleResetToken) c₄
    (ConfirmCall.eq_idle hclaims hfinished) (by decide +kernel) hgiven hafterwards
    (by rw [hlater]; decide +kernel)).2

end Runs

end OurosAuth
