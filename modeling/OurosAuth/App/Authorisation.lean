import OurosAuth.App.Correspondence

namespace OurosAuth

open KeyValue Traced

/-!
# Every route keeps the correspondence

The invariant `AppInv` through every step of the application, and the two assertions it carries.

* `AppInv.moveLogin`, `AppInv.moveConfirm` — what one login or confirm call owes to the invariant
  when it moves;
* `AppInv.loginStep`, `AppInv.resetStep`, `AppInv.confirmStep` — the steps of the three parts;
* `appInv_step` — a step of the application;
* `grant_authorised` — no password grant without the second factor;
* `update_authorised` — no password update without a completed reset of that account.
-/

variable {rt : Runtime} {svc : OtpService} {settings : Settings} {s s' : AppState}
  {h es : List AppEvent}

/-- Events that nothing has to stand before are justified anywhere. -/
theorem justified_of_forall (hes : ∀ e ∈ es, ∀ past, AppJustified rt svc settings past e) :
    ∀ after e before, es = after ++ e :: before →
      AppJustified rt svc settings (before ++ h) e := by
  intro after e before heq
  have hmem : e ∈ es := by
    rw [heq]
    exact List.mem_append_right _ List.mem_cons_self
  exact hes e hmem _

/-- A single event is justified when the history before the step justifies it. -/
theorem justified_singleton {e : AppEvent} (he : AppJustified rt svc settings h e) :
    ∀ after e' before, [e] = after ++ e' :: before →
      AppJustified rt svc settings (before ++ h) e' := by
  intro after e' before heq
  cases after with
  | nil =>
    obtain ⟨rfl, rfl⟩ := List.cons.inj heq
    exact he
  | cons a after => exact absurd (List.cons.inj heq).2 (by simp)

/-! ### Login calls -/

/-- A login call moves, and leaves stores whose records are accounted for. -/
theorem AppInv.moveLogin {i : ℕ} {call : LoginCall} {stores : OtpStores}
    (hinv : AppInv rt svc settings s h)
    (hstored : ∀ key r, stores.recordAt svc key = some r →
      s.otp.stores.recordAt svc key = some r ∨ Origin rt svc (es ++ h) key r)
    (hcall : LoginCallKept rt svc s.otp.now (es ++ h) i call)
    (hjustified : ∀ after e before, es = after ++ e :: before →
      AppJustified rt svc settings (before ++ h) e) :
    AppInv rt svc settings (s.setLogin ((s.loginState.setStores stores).setCall i call))
      (es ++ h) := by
  refine hinv.serviceStep hstored le_rfl ?_ rfl rfl hjustified
  intro j
  by_cases hj : j = i
  · subst hj
    have hself : (s.setLogin ((s.loginState.setStores stores).setCall j call)).logins j = call :=
      setCall_calls_self _ j call
    rw [hself]
    exact Or.inr hcall
  · exact Or.inl (setCall_calls_ne _ call hj)

/-- The load of a submission: the record it finds came from a `start`. -/
theorem AppInv.load {i : ℕ} {challengeId email code : String} (hinv : AppInv rt svc settings s h)
    (hcode : code.length = 6)
    (hstep : s.onLogin rt svc (.load i challengeId email code) = some (s', es)) :
    AppInv rt svc settings s' (es ++ h) := by
  obtain ⟨t, les, hlogin, rfl, rfl⟩ := onLogin_eq_some hstep
  obtain ⟨-, ⟨r, hr, rfl, rfl⟩ | ⟨rfl, rfl⟩⟩ := loginStep_load hlogin
  · have horigin := hinv.stored _ r (recordAt_of_load hr)
    refine hinv.moveLogin (fun _ _ hrec => Or.inl (recordAt_of_recordAt_load hrec)) ?_ ?_
    · exact ⟨[], h, s.otp.now.whole, rfl, le_rfl, hcode, horigin⟩
    · exact justified_singleton trivial
  · refine hinv.moveLogin (fun _ _ hrec => Or.inl (recordAt_of_recordAt_load hrec)) trivial ?_
    exact justified_of_forall (by simp)

/-- The comparison of a submission: what it accepts is authorised, and what it wants saved back
    is the record it loaded. -/
theorem AppInv.check {i : ℕ} (hmac : HmacCollisionFree rt svc.hmacSecret)
    (hinv : AppInv rt svc settings s h) (hstep : s.onLogin rt svc (.check i) = some (s', es)) :
    AppInv rt svc settings s' (es ++ h) := by
  obtain ⟨t, les, hlogin, rfl, rfl⟩ := onLogin_eq_some hstep
  obtain ⟨challengeId, email, code, r, hcall, ⟨rfl, rfl⟩ | ⟨d, hd, -, rfl, rfl⟩⟩ :=
    loginStep_check hlogin
  · exact hinv.moveLogin (fun _ _ hrec => Or.inl hrec) trivial (justified_of_forall (by simp))
  · have hkept := hinv.logins i
    rw [show s.logins i = .loaded challengeId email code r from hcall] at hkept
    refine hinv.moveLogin (fun _ _ hrec => Or.inl hrec) ⟨?_, ?_, ?_⟩ ?_
    · exact Submission.later hkept le_rfl _
    · intro r' ttlSeconds hresave
      obtain ⟨c, -, -, hr'⟩ := decideVerify_resave (hd.trans hresave)
      exact ⟨_, hr'⟩
    · intro haccept
      obtain ⟨mid, past, n, rfl, hn, hcode, horigin⟩ := hkept
      obtain ⟨c, hc, hlive, -, hemail, hdigest⟩ := decideVerify_accept (hd.trans haccept)
      obtain ⟨identity, hstarted, haddress⟩ :=
        horigin.of_login_accept hmac hc hemail hdigest hcode
      have hauth : LoginAuthorised rt
          (mid ++ .login (.submitted i challengeId email code n) :: past) i challengeId email :=
        ⟨mid, past, code, n, identity, c.expiresAt, rfl, hstarted, haddress, hn.trans_lt hlive⟩
      exact hauth.append _
    · refine justified_of_forall fun e he past => ?_
      rw [List.mem_map] at he
      obtain ⟨le, hle, rfl⟩ := he
      split at hle
      · rw [List.mem_singleton.mp hle]
        trivial
      · exact absurd hle (by simp)

/-- The store operation of a submission: a record saved back came from where it was loaded
    from, whatever has happened to the challenge meanwhile. -/
theorem AppInv.write {i : ℕ} (hinv : AppInv rt svc settings s h)
    (hstep : s.onLogin rt svc (.write i) = some (s', es)) :
    AppInv rt svc settings s' (es ++ h) := by
  obtain ⟨t, les, hlogin, rfl, rfl⟩ := onLogin_eq_some hstep
  obtain ⟨challengeId, email, code, r, d, hcall, rfl, rfl⟩ := loginStep_write hlogin
  have hkept := hinv.logins i
  rw [show s.logins i = .decided challengeId email code r d from hcall] at hkept
  obtain ⟨hsubmission, hresave, haccept⟩ := hkept
  refine hinv.moveLogin ?_ ?_ ?_
  · intro key r' hrec
    cases d with
    | resave saved ttlSeconds =>
      -- the record as the call loaded it, with another counter
      by_cases hkey : key = storeKey svc .login challengeId
      · subst hkey
        have hsaved : (s.otp.stores.save svc s.otp.now .login challengeId saved
            ttlSeconds).recordAt svc (storeKey svc .login challengeId) = some r' := hrec
        rw [recordAt_save_self, Option.some.injEq] at hsaved
        subst hsaved
        obtain ⟨n, rfl⟩ := hresave saved ttlSeconds rfl
        obtain ⟨mid, past, -, rfl, -, -, horigin⟩ := hsubmission
        right
        refine (horigin.withAttempts n).mono fun e he => ?_
        exact List.mem_append_right _ (List.mem_append_right _ (List.mem_cons_of_mem _ he))
      · exact Or.inl (recordAt_of_recordAt_save hkey hrec)
    | _ => exact Or.inl (recordAt_of_recordAt_delete hrec)
  · cases d with
    | accept => exact (haccept rfl).append _
    | _ => trivial
  · refine justified_of_forall fun e he past => ?_
    rw [List.mem_map] at he
    obtain ⟨le, hle, rfl⟩ := he
    cases d <;> simp only [VerifyDecision.events, List.mem_cons, List.not_mem_nil, or_false] at hle
    case accept => rcases hle with rfl | rfl <;> trivial
    all_goals
      rw [hle]
      trivial

/-- The grant is sent by a call whose submission was accepted. -/
theorem AppInv.grant {i : ℕ} (hinv : AppInv rt svc settings s h)
    (hstep : s.onLogin rt svc (.grant i) = some (s', es)) :
    AppInv rt svc settings s' (es ++ h) := by
  obtain ⟨t, les, hlogin, rfl, rfl⟩ := onLogin_eq_some hstep
  obtain ⟨challengeId, email, hcall, rfl, rfl⟩ := loginStep_grant hlogin
  have hkept := hinv.logins i
  rw [show s.logins i = .verified challengeId email from hcall] at hkept
  exact hinv.moveLogin (fun _ _ hrec => Or.inl hrec) trivial (justified_singleton hkept)

/-- A login challenge is created for the identity whose credentials were verified. -/
theorem AppInv.startLogin {tables : IdentityTables}
    {email password challengeId code : String} {readAt : Instant} {identity : StoredIdentity}
    {les : List AppEvent} (hinv : AppInv rt svc settings s h)
    (hok : verifyCredentials rt tables email password none = .ok identity)
    (hstep : s.onLogin rt svc (.start challengeId identity.email code readAt) = some (s', les)) :
    AppInv rt svc settings s'
      ((les ++ [.credentialsVerified challengeId email password identity]) ++ h) := by
  obtain ⟨t, les, hlogin, rfl, rfl⟩ := onLogin_eq_some hstep
  obtain ⟨-, hcreate, hcalls, rfl⟩ := loginStep_start hlogin
  obtain ⟨htoken, -, -, hotp⟩ := create_eq_some.mp hcreate
  have hstarted : LoginStarted rt
      ([.login (.started challengeId identity.email code (readAt.whole + svc.ttlSeconds)),
        .credentialsVerified challengeId email password identity] ++ h) challengeId identity code
      (readAt.whole + svc.ttlSeconds) :=
    ⟨by simp, tables, email, password, by simp, hok⟩
  refine hinv.serviceStep ?_ ?_ ?_ rfl rfl ?_
  · intro key r hrec
    have hsave : (s.otp.stores.save svc s.otp.now .login challengeId
        (loginRecord rt svc challengeId identity.email code readAt.whole)
        svc.ttlSeconds).recordAt svc key = some r := by
      rw [show (s.setLogin t).otp = _ from hotp] at hrec
      exact hrec
    by_cases hkey : key = storeKey svc .login challengeId
    · subst hkey
      rw [recordAt_save_self, Option.some.injEq] at hsave
      subst hsave
      exact Or.inr (.login challengeId identity code _ 0 hstarted htoken rfl rfl)
    · exact Or.inl (recordAt_of_recordAt_save hkey hsave)
  · rw [show (s.setLogin t).otp = _ from hotp]
    exact le_rfl
  · exact fun i => Or.inl (congrFun hcalls i)
  · refine justified_of_forall fun e he past => ?_
    simp only [List.map_cons, List.map_nil, List.cons_append, List.nil_append, List.mem_cons,
      List.not_mem_nil, or_false] at he
    rcases he with rfl | rfl <;> trivial

/-- The end of a delivery brings no record. -/
theorem AppInv.delivered {flow : Flow} {challengeId : String} {outcome : Delivery} {otp : OtpState}
    (hinv : AppInv rt svc settings s h)
    (hdel : s.otp.delivered svc flow challengeId outcome = some otp) :
    AppInv rt svc settings { s with otp := otp } h := by
  obtain ⟨-, hnow, -, -, hst⟩ := delivered_eq_some hdel
  have hrecord : ∀ key r, otp.stores.recordAt svc key = some r →
      s.otp.stores.recordAt svc key = some r := by
    intro key r hrec
    rcases hst with hst | hst <;> rw [hst] at hrec
    · exact hrec
    · exact recordAt_of_recordAt_delete hrec
  have hkept : AppInv rt svc settings { s with otp := otp } ([] ++ h) :=
    hinv.serviceStep (fun key r hrec => Or.inl (hrecord key r hrec))
      (congrArg Instant.seconds hnow).ge (fun _ => Or.inl rfl) rfl rfl
      (justified_of_forall (by simp))
  exact hkept

/-- **The login routes.** -/
theorem AppInv.loginStep {l : LoginLabel} (hmac : HmacCollisionFree rt svc.hmacSecret)
    (hinv : AppInv rt svc settings s h) (hroute : l.isVerifyStep rt = true)
    (hstep : s.onLogin rt svc l = some (s', es)) : AppInv rt svc settings s' (es ++ h) := by
  cases l with
  | tick t => exact absurd hroute (by simp [LoginLabel.isVerifyStep])
  | start challengeId email code readAt => exact absurd hroute (by simp [LoginLabel.isVerifyStep])
  | delivered challengeId outcome =>
    obtain ⟨t, les, hlogin, rfl, rfl⟩ := onLogin_eq_some hstep
    obtain ⟨hdel, hcalls, rfl⟩ := loginStep_delivered hlogin
    have hstate : s.setLogin t = { s with otp := t.otp } := by
      unfold AppState.setLogin
      rw [hcalls]
      rfl
    rw [hstate]
    exact hinv.delivered hdel
  | load i challengeId email code => exact hinv.load (isCodeField_length hroute) hstep
  | check i => exact hinv.check hmac hstep
  | write i => exact hinv.write hstep
  | grant i => exact hinv.grant hstep

/-! ### Reset challenges -/

/-- A record under the key of a reset challenge came from a `start` of that challenge. -/
theorem Origin.of_reset_key {challengeId : String} {r : Record}
    (ho : Origin rt svc h (storeKey svc .reset challengeId) r) :
    ∃ identity code expiresAt attempts databaseId,
      ResetStarted rt h challengeId identity code expiresAt ∧ isOtpCode code = true ∧
      Small expiresAt ∧ (svc.usesRedis = false → databaseId = identity.databaseId) ∧
      r = storedReset rt svc challengeId (identity.resetStart code expiresAt) attempts
        databaseId := by
  cases ho with
  | login challengeId' identity code expiresAt attempts _ htoken hkey _ =>
    exact absurd hkey.symm (storeKey_login_ne_reset htoken challengeId)
  | reset challengeId' identity code expiresAt attempts databaseId hs hcode hsmall hid hkey hr =>
    obtain rfl := storeKey_inj hkey
    exact ⟨identity, code, expiresAt, attempts, databaseId, hs, hcode, hsmall, hid, hr⟩

/-- A reset challenge is created for the only resettable identity of the lookup. -/
theorem AppInv.startReset {tables : IdentityTables} {email challengeId code : String}
    {accountType : Option AccountType} {readAt : Instant} {identity : StoredIdentity}
    {res : List AppEvent} (hinv : AppInv rt svc settings s h)
    (heligible : eligibleIdentity (findByEmail rt tables (rt.normalizeEmail email) accountType) =
      some identity)
    (hstep : s.onReset rt svc (.start challengeId identity.email identity.accountType.value
      identity.databaseId code readAt) = some (s', res)) :
    AppInv rt svc settings s' ((res ++ [.lookedUp challengeId email accountType
      (findByEmail rt tables (rt.normalizeEmail email) accountType)]) ++ h) := by
  obtain ⟨otp, res, hreset, rfl, rfl⟩ := onReset_eq_some hstep
  obtain ⟨hcode, hcreate, rfl⟩ := resetStep_start hreset
  obtain ⟨-, -, -, rfl⟩ := create_eq_some.mp hcreate
  have hstarted : ResetStarted rt
      ([.reset (.started challengeId (identity.resetStart code (readAt.whole + svc.ttlSeconds))),
        .lookedUp challengeId email accountType
          (findByEmail rt tables (rt.normalizeEmail email) accountType)] ++ h) challengeId identity
      code (readAt.whole + svc.ttlSeconds) :=
    ⟨by simp, tables, email, accountType, by simp, heligible⟩
  refine hinv.serviceStep ?_ le_rfl (fun _ => Or.inl rfl) rfl rfl ?_
  · intro key r hrec
    have hsave : (s.otp.stores.save svc s.otp.now .reset challengeId
        (resetRecord rt svc challengeId identity.email identity.accountType.value
          identity.databaseId code readAt.whole) svc.ttlSeconds).recordAt svc key = some r := hrec
    by_cases hkey : key = storeKey svc .reset challengeId
    · subst hkey
      rw [recordAt_save_self, Option.some.injEq] at hsave
      subst hsave
      exact Or.inr (.reset challengeId identity code _ 0 identity.databaseId hstarted hcode
        (small_expiresAt svc readAt) (fun _ => rfl) rfl rfl)
    · exact Or.inl (recordAt_of_recordAt_save hkey hsave)
  · refine justified_of_forall fun e he past => ?_
    simp only [List.map_cons, List.map_nil, List.cons_append, List.nil_append, List.mem_cons,
      List.not_mem_nil, or_false] at he
    rcases he with rfl | rfl <;> trivial

/-- A call of `verify_password_reset` leaves records of the challenge it named as they came, and a
    record it hands out authorises the account it was stored for. -/
theorem AppInv.verifyReset {challengeId email code : String} {readAt : Instant}
    (hmac : HmacCollisionFree rt svc.hmacSecret) (hinv : AppInv rt svc settings s h)
    (hcode : code.length = 6)
    (hstep : s.onReset rt svc (.verify challengeId email code readAt) = some (s', es)) :
    AppInv rt svc settings s' (es ++ h) ∧
      ∀ r, (s.otp.stores.verifyReset rt svc s.otp.now readAt challengeId email code).1 =
          .accepted r →
        ∃ databaseId, r.databaseId.asInt? = some databaseId ∧ (svc.usesRedis = false →
          ResetAuthorised rt (es ++ h) r.accountType.toText databaseId) := by
  obtain ⟨otp, res, hreset, rfl, rfl⟩ := onReset_eq_some hstep
  obtain ⟨rfl, rfl⟩ := resetStep_verify hreset
  set verdict := (s.otp.stores.verifyReset rt svc s.otp.now readAt challengeId email code).1
    with hverdict
  have hrule : (∀ r, (s.otp.stores.verifyReset rt svc s.otp.now readAt challengeId email
        code).2.record? svc .reset challengeId = some r →
      Origin rt svc h (storeKey svc .reset challengeId) r) ∧
      ∀ r, verdict = .accepted r → ∃ databaseId, r.databaseId.asInt? = some databaseId ∧
        (svc.usesRedis = false → ResetAuthorised rt
          (.reset (.verify challengeId email code (resetClock svc s.otp.now readAt) verdict) :: h)
          r.accountType.toText databaseId) := by
    cases hold : s.otp.stores.record? svc .reset challengeId with
    | none =>
      -- nothing stored: nothing compared, nothing handed out
      rcases @verifyReset_cases rt svc challengeId s.otp.stores s.otp.now readAt email code
          (fun r hr => absurd (hold.symm.trans hr) (by simp))
        with ⟨-, haccepted, hrest⟩ | ⟨start, n, d, hsome, -⟩
      · refine ⟨fun r hr => absurd (hold.symm.trans (hrest r hr)) (by simp), fun r hr => ?_⟩
        rw [← hverdict, hr] at haccepted
        exact absurd haccepted (by simp [ResetVerdict.isAccepted])
      · exact absurd (hold.symm.trans hsome) (by simp)
    | some r₀ =>
      obtain ⟨identity, code', expiresAt, attempts, databaseId, hstarted, hcode', hsmall, hid,
        rfl⟩ :=
        (hinv.stored _ r₀ hold).of_reset_key
      obtain ⟨hkept, haccept⟩ :=
        @verifyReset_origin rt svc challengeId _ s.otp.stores s.otp.now readAt email code _ _ hold
          hsmall
      constructor
      · intro r hr
        obtain ⟨n', d', rfl, hd'⟩ := hkept r hr
        exact .reset challengeId identity code' expiresAt n' d' hstarted hcode' hsmall
          (fun hmem => (hd' hmem).trans (hid hmem)) rfl rfl
      · -- equal digests are digests of equal codes
        intro r hr
        obtain ⟨rfl, ⟨haddress, hdigest⟩, hlive⟩ := haccept r (hverdict.symm.trans hr)
        obtain ⟨-, hsame⟩ := codeDigest_inj hmac
          ((isOtpCode_length hcode').trans hcode.symm) hdigest
        have hsame : code' = code := hsame
        subst hsame
        refine ⟨databaseId, rfl, fun hmem => ?_⟩
        rw [hr]
        exact ⟨[], h, challengeId, email, code', _, _, identity, expiresAt, rfl, hstarted,
          haddress.symm, hlive, rfl, hid hmem⟩
  refine ⟨hinv.serviceStep ?_ le_rfl (fun _ => Or.inl rfl) rfl rfl (justified_singleton trivial),
    hrule.2⟩
  intro key r hrec
  by_cases hkey : key = storeKey svc .reset challengeId
  · subst hkey
    exact Or.inr ((hrule.1 r hrec).mono (List.subset_append_right _ h))
  · exact Or.inl (recordAt_of_verifyReset hkey hrec)

/-! ### Confirm calls -/

/-- A reservation writes marks, and a mark is no record. -/
theorem document_of_reserve {st store : ReservationStore} {usesRedis ok : Bool}
    {now clockAt : Instant} {jti key : String} {ttlSeconds : ℤ} {r : Record}
    (hreserve : st.reserve usesRedis now clockAt jti ttlSeconds = (ok, store))
    (hpeek : store.redis.peek key = some (.document r)) :
    st.redis.peek key = some (.document r) := by
  unfold ReservationStore.reserve at hreserve
  split at hreserve
  · rw [Prod.mk.injEq] at hreserve
    obtain ⟨-, rfl⟩ := hreserve
    unfold ExpiringStore.setNxEx at hpeek
    split at hpeek
    · exact hpeek
    · by_cases hkey : key = blacklistKey jti
      · rw [hkey, ExpiringStore.peek_setEx_self] at hpeek
        exact absurd hpeek (by simp)
      · rwa [ExpiringStore.peek_setEx_ne _ _ _ _ hkey] at hpeek
  · dsimp only at hreserve
    split at hreserve <;> rw [Prod.mk.injEq] at hreserve <;> obtain ⟨-, rfl⟩ := hreserve <;>
      exact hpeek

theorem document_of_release {st : ReservationStore} {usesRedis : Bool} {jti key : String}
    {r : Record} (hpeek : (st.release usesRedis jti).redis.peek key = some (.document r)) :
    st.redis.peek key = some (.document r) := by
  unfold ReservationStore.release at hpeek
  split at hpeek
  · by_cases hkey : key = blacklistKey jti
    · rw [hkey, ExpiringStore.peek_del_self] at hpeek
      exact absurd hpeek (by simp)
    · rwa [ExpiringStore.peek_del_ne _ hkey] at hpeek
  · exact hpeek

/-- A confirm call moves, holding at most a token that was minted, and leaves no new record. -/
theorem AppInv.moveConfirm {i : ℕ} {call : ConfirmCall} {store : ReservationStore}
    (hinv : AppInv rt svc settings s h)
    (hstored : ∀ key r, store.redis.peek key = some (.document r) →
      s.otp.stores.redis.peek key = some (.document r))
    (hcall : ∀ claims, call.token? = some claims → claims ∈ s.minted)
    (hjustified : ∀ after e before, es = after ++ e :: before →
      AppJustified rt svc settings (before ++ h) e) :
    AppInv rt svc settings
      (s.setConfirm ({ s.confirmState with store := store }.setCall i call)) (es ++ h) := by
  refine hinv.step ?_ le_rfl (fun _ => Or.inl rfl) (fun _ claims hclaims => Or.inl hclaims) ?_
    hjustified
  · intro key r hrec
    left
    unfold OtpStores.recordAt at hrec ⊢
    split
    · rename_i hredis
      rw [if_pos hredis] at hrec
      split at hrec
      · rename_i r' hpeek
        rw [hstored key r' hpeek]
        exact hrec
      · exact absurd hrec (by simp)
    · rename_i hredis
      rwa [if_neg hredis] at hrec
  · -- the call that moved, and the others
    intro j claims hclaims
    by_cases hj : j = i
    · subst hj
      have hself :
        (s.setConfirm ({ s.confirmState with store := store }.setCall j call)).confirms j =
          call := ConfirmState.setCall_self _ j call
      rw [hself] at hclaims
      exact hcall claims hclaims
    · have hother :
        (s.setConfirm ({ s.confirmState with store := store }.setCall i call)).confirms j =
          s.confirms j := ConfirmState.setCall_ne _ call hj
      rw [hother] at hclaims
      exact hinv.confirms j claims hclaims

/-- Neither the end of a call nor an answer of Spring asserts anything. -/
theorem justified_answer {i : ℕ} {claims : Claims} {outcome : SpringOutcome} {e : ConfirmEvent}
    (he : ∀ past, AppJustified rt svc settings past (.confirm e)) :
    ∀ after e' before,
      (e :: if outcome.acknowledges then [.acknowledged i claims] else []).map AppEvent.confirm =
        after ++ e' :: before →
      AppJustified rt svc settings (before ++ h) e' := by
  refine justified_of_forall fun e' he' past => ?_
  obtain ⟨ce, hce, rfl⟩ := List.mem_map.mp he'
  rcases List.mem_cons.mp hce with rfl | hanswered
  · exact he past
  · split_ifs at hanswered
    · rw [List.mem_singleton.mp hanswered]
      trivial
    · exact absurd hanswered (by simp)

/-- **The confirm route.** -/
theorem AppInv.confirmStep {l : ConfirmLabel} (hinv : AppInv rt svc settings s h)
    (hroute : l.isRouteStep = true) (hstep : s.onConfirm rt svc settings l = some (s', es)) :
    AppInv rt svc settings s' (es ++ h) := by
  obtain ⟨t, ces, hconfirm, rfl, rfl⟩ := onConfirm_eq_some hstep
  cases l with
  | tick t => exact absurd hroute (by simp [ConfirmLabel.isRouteStep])
  | mint jti email accountType databaseId =>
    exact absurd hroute (by simp [ConfirmLabel.isRouteStep])
  | submit i token newPassword =>
    obtain ⟨-, rfl, ⟨e, rfl⟩ | ⟨claims, -, hminted, rfl⟩⟩ := confirmStep_submit hconfirm
    · exact hinv.moveConfirm (fun _ _ hpeek => hpeek) (by simp [ConfirmCall.token?])
        (justified_of_forall (by simp))
    · refine hinv.moveConfirm (fun _ _ hpeek => hpeek) (fun claims' hclaims => ?_)
        (justified_of_forall (by simp))
      exact Option.some.inj hclaims ▸ hminted
  | reserve i measuredAt clockAt =>
    obtain ⟨claims, newPassword, checkedAt, hcall, -, -, rfl, ok, store, hreserve, rfl⟩ :=
      confirmStep_reserve hconfirm
    have hminted : claims ∈ s.minted :=
      hinv.confirms i claims (by rw [show s.confirms i = _ from hcall]; rfl)
    refine hinv.moveConfirm (fun _ _ hpeek => document_of_reserve hreserve hpeek) ?_
      (justified_of_forall (by simp))
    intro claims' hclaims
    cases ok with
    | true => exact Option.some.inj hclaims ▸ hminted
    | false => exact absurd hclaims (by simp [ConfirmCall.token?])
  | post i =>
    obtain ⟨claims, newPassword, hcall, rfl, rfl⟩ := confirmStep_post hconfirm
    have hminted : claims ∈ s.minted :=
      hinv.confirms i claims (by rw [show s.confirms i = _ from hcall]; rfl)
    refine hinv.moveConfirm (fun _ _ hpeek => hpeek) (fun claims' hclaims => ?_)
      (justified_singleton fun hmem => hinv.minted hmem claims hminted)
    exact Option.some.inj hclaims ▸ hminted
  | respond i outcome =>
    obtain ⟨claims, answered, hcall, rfl, ⟨-, rfl, rfl⟩ | ⟨error, -, rfl, rfl⟩⟩ :=
      confirmStep_respond hconfirm
    · exact hinv.moveConfirm (fun _ _ hpeek => hpeek) (by simp [ConfirmCall.token?])
        (justified_answer fun _ => trivial)
    · have hminted : claims ∈ s.minted :=
        hinv.confirms i claims (by rw [show s.confirms i = _ from hcall]; rfl)
      refine hinv.moveConfirm (fun _ _ hpeek => hpeek) (fun claims' hclaims => ?_)
        (justified_answer fun _ => trivial)
      exact Option.some.inj hclaims ▸ hminted
  | release i =>
    obtain ⟨claims, error, hcall, rfl, rfl⟩ := confirmStep_release hconfirm
    exact hinv.moveConfirm (fun _ _ hpeek => document_of_release hpeek)
      (by simp [ConfirmCall.token?]) (justified_of_forall (by simp))

/-- A token is minted for an account whose reset was completed. -/
theorem AppInv.mint {jti email accountType : String} {databaseId : ℤ}
    (hinv : AppInv rt svc settings s h)
    (hauth : svc.usesRedis = false → ResetAuthorised rt h accountType databaseId)
    (hstep : s.onConfirm rt svc settings (.mint jti email accountType databaseId) = some (s', es)) :
    AppInv rt svc settings s' (es ++ h) := by
  obtain ⟨t, ces, hconfirm, rfl, rfl⟩ := onConfirm_eq_some hstep
  obtain ⟨claims, hclaims, -, rfl, rfl⟩ := confirmStep_mint hconfirm
  refine hinv.step (fun _ _ hrec => Or.inl hrec) le_rfl (fun _ => Or.inl rfl) ?_ ?_
    (justified_singleton trivial)
  · intro hmem claims' hmem'
    rcases List.mem_cons.mp hmem' with rfl | hold
    · rw [hclaims]
      exact Or.inr ((hauth hmem).append _)
    · exact Or.inl hold
  · intro i claims' htoken
    exact List.mem_cons_of_mem _ (hinv.confirms i claims' htoken)

/-! ### The application -/

/-- What `verify_code` adds to a verification that was answered. -/
theorem AppInv.mintFor {jti : String} {verdict : ResetVerdict} (hinv : AppInv rt svc settings s h)
    (hauth : ∀ r, verdict = .accepted r → ∃ databaseId, r.databaseId.asInt? = some databaseId ∧
      (svc.usesRedis = false → ResetAuthorised rt h r.accountType.toText databaseId))
    (hstep : s.mintFor rt svc settings jti verdict = some (s', es)) :
    AppInv rt svc settings s' (es ++ h) := by
  have hnothing : some (s, []) = some (s', es) → AppInv rt svc settings s' (es ++ h) := by
    intro heq
    rw [Option.some.injEq, Prod.mk.injEq] at heq
    obtain ⟨rfl, rfl⟩ := heq
    exact hinv
  cases verdict with
  | accepted r =>
    obtain ⟨databaseId, hid, hauth⟩ := hauth r rfl
    have hmint : s.onConfirm rt svc settings
        (.mint jti r.email.toText r.accountType.toText databaseId) = some (s', es) := by
      rw [← hstep, AppState.mintFor, hid]
    exact hinv.mint hauth hmint
  | absent => exact hnothing hstep
  | rejected => exact hnothing hstep
  | exhausted => exact hnothing hstep
  | wrong => exact hnothing hstep
  | lockedOut => exact hnothing hstep

/-- **Every step of the application keeps the invariant.** -/
theorem appInv_step {l : AppLabel} (hmac : HmacCollisionFree rt svc.hmacSecret)
    (hinv : AppInv rt svc settings s h) (hstep : appStep rt svc settings s l = some (s', es)) :
    AppInv rt svc settings s' (es ++ h) := by
  cases l with
  | tick t =>
    obtain ⟨otp, res, hreset, rfl, rfl⟩ := onReset_eq_some hstep
    obtain ⟨hle, rfl, rfl⟩ := resetStep_tick hreset
    exact hinv.serviceStep (fun _ _ hrec => Or.inl hrec) hle (fun _ => Or.inl rfl) rfl rfl
      (justified_of_forall (by simp))
  | startLogin tables email password challengeId code readAt =>
    obtain ⟨rfl, rfl⟩ | ⟨identity, les, hok, hlogin, rfl⟩ := appStep_startLogin hstep
    · exact hinv
    · exact hinv.startLogin hok hlogin
  | login l =>
    obtain ⟨hroute, hlogin⟩ := appStep_login hstep
    exact hinv.loginStep hmac hroute hlogin
  | startReset tables email accountType challengeId code readAt =>
    obtain ⟨rfl, rfl⟩ | ⟨identity, res, heligible, hreset, rfl⟩ := appStep_startReset hstep
    · exact hinv
    · exact hinv.startReset heligible hreset
  | resetDelivered challengeId outcome =>
    obtain ⟨otp, res, hreset, rfl, rfl⟩ := onReset_eq_some hstep
    obtain ⟨hdel, rfl⟩ := resetStep_delivered hreset
    exact hinv.delivered hdel
  | verifyReset challengeId email code readAt jti =>
    -- two halves of one step: the verification, and the token minted on what it answered
    simp only [appStep] at hstep
    split_ifs at hstep with hcode
    rw [Option.bind_eq_some_iff] at hstep
    obtain ⟨⟨s₁, res⟩, hreset, hmap⟩ := hstep
    rw [Option.map_eq_some_iff] at hmap
    obtain ⟨⟨s₂, ces⟩, hmint, heq⟩ := hmap
    rw [Prod.mk.injEq] at heq
    obtain ⟨rfl, rfl⟩ := heq
    obtain ⟨hinv₁, hauth⟩ := hinv.verifyReset hmac (isCodeField_length hcode) hreset
    rw [List.append_assoc]
    exact hinv₁.mintFor hauth hmint
  | confirm l =>
    obtain ⟨hroute, hconfirm⟩ := appStep_confirm hstep
    exact hinv.confirmStep hroute hconfirm
  | passwordToken email =>
    obtain ⟨rfl, rfl⟩ := appStep_passwordToken hstep
    split_ifs with hbroker
    · exact hinv.serviceStep (fun _ _ hrec => Or.inl hrec) le_rfl (fun _ => Or.inl rfl) rfl rfl
        (justified_singleton hbroker)
    · exact hinv

/-- The invariant holds at the end of every run. -/
theorem appInv_run {now : Instant} {ls : List AppLabel} {c : Config AppState AppEvent}
    (hmac : HmacCollisionFree rt svc.hmacSecret)
    (hrun : (appSystem rt svc settings).run ⟨AppState.init now, []⟩ ls = some c) :
    AppInv rt svc settings c.state c.history := by
  refine (appSystem rt svc settings).invariant_run
    (I := fun c => AppInv rt svc settings c.state c.history) ?_ (appInv_init now) hrun
  intro c l c' hinv hnext
  obtain ⟨es, hstep, hhist⟩ := (appSystem rt svc settings).next_eq_some.mp hnext
  rw [hhist]
  exact appInv_step hmac hinv hstep

/-! ### The assertions -/

/-- The address of a password grant sent to Keycloak. -/
def AppEvent.grantFor? : AppEvent → Option String
  | .login (.granted _ _ email) => some email
  | .directGrant email => some email
  | _ => none

/-- **No password login without the second factor.** With the broker disabled, whatever the
    requests and however they interleave, before every password grant for an address the
    credentials of an identity with that address were verified, a login challenge was created for
    it, and within its lifetime its id and its code were submitted with that address. -/
theorem grant_authorised {now : Instant} {ls : List AppLabel} {c : Config AppState AppEvent}
    (hmac : HmacCollisionFree rt svc.hmacSecret)
    (hbroker : settings.keycloakPasswordBrokerEnabled = false)
    (hrun : (appSystem rt svc settings).run ⟨AppState.init now, []⟩ ls = some c) :
    ∀ after e past email, c.history = after ++ e :: past → e.grantFor? = some email →
      ∃ i challengeId, LoginAuthorised rt past i challengeId email := by
  intro after e past email hsplit hgrant
  have hjustified := (appInv_run hmac hrun).justified
  rw [hsplit] at hjustified
  have he := hjustified.of_append
  cases e with
  | login le =>
    cases le with
    | granted i challengeId email' =>
      obtain rfl := Option.some.inj hgrant
      exact ⟨i, challengeId, he⟩
    | _ => exact absurd hgrant (by simp [AppEvent.grantFor?])
  | directGrant email' => exact absurd (hbroker.symm.trans he) (by simp)
  | _ => exact absurd hgrant (by simp [AppEvent.grantFor?])

/-- Tables with one farm owner, for concrete runs. -/
def sampleTables : IdentityTables :=
  ⟨[⟨7, "ana@ouros.app", "bcrypt:Senha@123", none, none, none⟩], [], []⟩

/-- A login from the verified credentials to the forwarded grant. -/
def sampleLogin : List AppLabel :=
  .startLogin sampleTables "ana@ouros.app" "Senha@123" sampleToken "123456" sampleNow ::
    (verifyAlone 0 "123456" ++ [LoginLabel.grant 0]).map .login

/-- The grant of one login, over Redis. -/
theorem grant_authorised_sample :
    ∃ c e past, (appSystem Runtime.sample (OtpService.sample true)
        (Settings.sample (some "redis://cache"))).run ⟨AppState.init sampleNow, []⟩ sampleLogin =
          some c ∧
      c.history = e :: past ∧ e.grantFor? = some "ana@ouros.app" ∧
      ∃ i challengeId, LoginAuthorised Runtime.sample past i challengeId "ana@ouros.app" := by
  obtain ⟨c, hrun, hhead⟩ := Option.map_eq_some_iff.mp
    (by decide +kernel : ((appSystem Runtime.sample (OtpService.sample true)
        (Settings.sample (some "redis://cache"))).run ⟨AppState.init sampleNow, []⟩ sampleLogin).map
          (fun c => c.history.head?.bind AppEvent.grantFor?) = some (some "ana@ouros.app"))
  obtain ⟨e, he, hgrant⟩ := Option.bind_eq_some_iff.mp hhead
  obtain ⟨past, hhist⟩ := List.head?_eq_some_iff.mp he
  exact ⟨c, e, past, hrun, hhist, hgrant,
    grant_authorised (sample_hmacCollisionFree _) rfl hrun [] e past _ hhist hgrant⟩

/-- What an update sent to Spring changes. -/
def AppEvent.updateFor? : AppEvent → Option SpringRequest
  | .confirm (.posted _ _ request) => some request
  | _ => none

/-- **No password update without a completed reset of that account.** With the in-memory store,
    whatever the requests and however they interleave, before every update sent to Spring a lookup
    answered that account as its only resettable one, a challenge was created for it, and within its
    lifetime the code of the challenge was submitted with the address of the account. -/
theorem update_authorised {now : Instant} {ls : List AppLabel} {c : Config AppState AppEvent}
    (hmac : HmacCollisionFree rt svc.hmacSecret) (hmemory : svc.usesRedis = false)
    (hrun : (appSystem rt svc settings).run ⟨AppState.init now, []⟩ ls = some c) :
    ∀ after e past request, c.history = after ++ e :: past → e.updateFor? = some request →
      ResetAuthorised rt past request.accountType request.id ∧
        request.accountType ≠ AccountType.admin.value := by
  intro after e past request hsplit hupdate
  have hjustified := (appInv_run hmac hrun).justified
  rw [hsplit] at hjustified
  have he := hjustified.of_append
  have hauth : ResetAuthorised rt past request.accountType request.id := by
    cases e with
    | confirm ce =>
      cases ce with
      | posted i claims request' =>
        obtain rfl := Option.some.inj hupdate
        exact he hmemory
      | _ => exact absurd hupdate (by simp [AppEvent.updateFor?])
    | _ => exact absurd hupdate (by simp [AppEvent.updateFor?])
  refine ⟨hauth, ?_⟩
  obtain ⟨_, _, _, _, _, _, _, identity, _, -, hstarted, -, -, htype, -⟩ := hauth
  obtain ⟨tables, email, accountType, -, heligible⟩ := hstarted.lookedUp
  have hresettable := (mem_of_eligibleIdentity heligible).2
  rw [htype]
  intro hadmin
  cases hidentity : identity.accountType <;> rw [hidentity] at hadmin hresettable
  · exact absurd hadmin (by decide)
  · exact absurd hadmin (by decide)
  · exact absurd hresettable (by decide)

/-- A reset from the request to the update, after a wrong code. -/
def sampleReset : List AppLabel :=
  [.startReset sampleTables "ana@ouros.app" none sampleToken "123456" sampleNow,
    .resetDelivered sampleToken .sent,
    .verifyReset sampleToken "ana@ouros.app" "000000" sampleNow "unused",
    .verifyReset sampleToken "ana@ouros.app" "123456" sampleNow "jti",
    .confirm (.submit 0
      (.signed (mintResetToken 600 sampleNow.whole "jti" "ana@ouros.app" "farm_owner" 7))
      "Senha@456"),
    .confirm (.reserve 0 sampleNow sampleNow), .confirm (.post 0)]

/-- The update of one reset, in memory. -/
theorem update_authorised_sample :
    ∃ c e past, (appSystem Runtime.sample (OtpService.sample false) (Settings.sample none)).run
        ⟨AppState.init sampleNow, []⟩ sampleReset = some c ∧
      c.history = e :: past ∧ e.updateFor? = some ⟨"farm_owner", 7, "Senha@456"⟩ ∧
      ResetAuthorised Runtime.sample past "farm_owner" 7 ∧
        "farm_owner" ≠ AccountType.admin.value := by
  obtain ⟨c, hrun, hhead⟩ := Option.map_eq_some_iff.mp
    (by decide +kernel : ((appSystem Runtime.sample (OtpService.sample false)
        (Settings.sample none)).run ⟨AppState.init sampleNow, []⟩ sampleReset).map
          (fun c => c.history.head?.bind AppEvent.updateFor?) =
            some (some ⟨"farm_owner", 7, "Senha@456"⟩))
  obtain ⟨e, he, hupdate⟩ := Option.bind_eq_some_iff.mp hhead
  obtain ⟨past, hhist⟩ := List.head?_eq_some_iff.mp he
  exact ⟨c, e, past, hrun, hhist, hupdate,
    update_authorised (sample_hmacCollisionFree _) rfl hrun [] e past _ hhist hupdate⟩

end OurosAuth
