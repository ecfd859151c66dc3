import OurosAuth.App.Isolation
import OurosAuth.PasswordReset.Reservations

namespace OurosAuth

open KeyValue Traced

/-!
# The confirm system inside the application

`confirm_reset` was studied with nothing around it.  In the application its reservations share Redis
with the challenges of both flows, and its tokens are minted by `verify_code`.

* `SameConfirms` — a step in which the confirm system sees at most the clock move;
* `appStep_confirmView` — a step of the application is such a step, then at most one step of the
  confirm system: the system the other modules study is the one that runs here;
* `tokensKept_run` — so what they prove of reset tokens holds in every run of the application.
-/

variable {rt : Runtime} {svc : OtpService} {settings : Settings}

/-! ### What the confirm system sees -/

/-- The events of the confirm system. -/
def confirmEvents (h : List AppEvent) : List ConfirmEvent :=
  h.filterMap fun e =>
    match e with
    | .confirm event => some event
    | _ => none

@[simp] theorem confirmEvents_append (h h' : List AppEvent) :
    confirmEvents (h ++ h') = confirmEvents h ++ confirmEvents h' := List.filterMap_append

@[simp] theorem confirmEvents_confirm (es : List ConfirmEvent) :
    confirmEvents (es.map .confirm) = es := by
  unfold confirmEvents
  rw [List.filterMap_map]
  exact List.filterMap_some

@[simp] theorem confirmEvents_login (es : List LoginEvent) :
    confirmEvents (es.map .login) = [] := by
  unfold confirmEvents
  rw [List.filterMap_map]
  exact List.filterMap_eq_nil_iff.mpr fun _ _ => rfl

@[simp] theorem confirmEvents_reset (es : List ResetEvent) :
    confirmEvents (es.map .reset) = [] := by
  unfold confirmEvents
  rw [List.filterMap_map]
  exact List.filterMap_eq_nil_iff.mpr fun _ _ => rfl

/-- Time may have passed, and no mark, token or call has changed. -/
structure SameConfirms (s s' : ConfirmState) : Prop where
  clock : s.now.seconds ≤ s'.now.seconds
  minted : s'.minted = s.minted
  calls : s'.calls = s.calls
  blacklist : s'.store.blacklist = s.store.blacklist
  marks : ∀ jti, s'.store.redis.get? (blacklistKey jti) = s.store.redis.get? (blacklistKey jti)

theorem SameConfirms.refl (s : ConfirmState) : SameConfirms s s :=
  ⟨le_rfl, rfl, rfl, rfl, fun _ => rfl⟩

variable {s s' : AppState} {es : List AppEvent}

/-- A step of the shared service is one when it leaves the marks alone. -/
theorem sameConfirms_of_otp {otp : OtpState} {logins : ℕ → LoginCall}
    (hclock : s.otp.now.seconds ≤ otp.now.seconds)
    (hmarks : ∀ jti, otp.stores.redis.get? (blacklistKey jti) =
      s.otp.stores.redis.get? (blacklistKey jti)) :
    SameConfirms s.confirmState ({ s with otp := otp, logins := logins } : AppState).confirmState :=
  ⟨hclock, rfl, rfl, rfl, hmarks⟩

/-! ### The flows leave the marks alone -/

/-- A mark is under no key of a reset challenge. -/
theorem redisKey_reset_ne_blacklistKey (challengeId jti : String) :
    redisKey .reset challengeId ≠ blacklistKey jti := by
  intro hkey
  -- the prefixes part after `ouros:auth:password-reset`
  have hchar : (redisKey .reset challengeId).toList[25]? = (blacklistKey jti).toList[25]? := by
    rw [hkey]
  unfold redisKey blacklistKey at hchar
  rw [String.toList_append, String.toList_append, List.getElem?_append_left (by decide),
    List.getElem?_append_left (by decide)] at hchar
  exact absurd hchar (by decide)

theorem redis_load_ne {st : OtpStores} {now : Instant} {flow : Flow} {challengeId key : String}
    (hne : key ≠ redisKey flow challengeId) :
    (st.load svc now flow challengeId).2.redis.get? key = st.redis.get? key := by
  unfold OtpStores.load
  split
  · split
    · rfl
    · exact redis_delete_ne hne
    · rfl
  · rfl

/-- A step of the login flow touches the keys of its own challenges only. -/
theorem loginStep_redis {t t' : LoginState} {les : List LoginEvent} {l : LoginLabel} {key : String}
    (hkey : ∀ challengeId, key ≠ redisKey .login challengeId)
    (hstep : loginStep rt svc t l = some (t', les)) :
    t'.otp.stores.redis.get? key = t.otp.stores.redis.get? key := by
  cases l with
  | tick now =>
    obtain ⟨-, rfl, -⟩ := loginStep_tick hstep
    rfl
  | start challengeId email code readAt =>
    obtain ⟨-, hcreate, -⟩ := loginStep_start hstep
    obtain ⟨-, -, -, hotp⟩ := create_eq_some.mp hcreate
    rw [hotp]
    exact redis_save_ne (hkey challengeId)
  | delivered challengeId outcome =>
    obtain ⟨hdel, -⟩ := loginStep_delivered hstep
    obtain ⟨-, -, -, -, hst⟩ := delivered_eq_some hdel
    rcases hst with hst | hst <;> rw [hst]
    exact redis_delete_ne (hkey challengeId)
  | load i challengeId email code =>
    obtain ⟨-, ⟨r, -, rfl, -⟩ | ⟨rfl, -⟩⟩ := loginStep_load hstep <;>
      exact redis_load_ne (hkey challengeId)
  | check i =>
    obtain ⟨_, _, _, _, -, ⟨rfl, -⟩ | ⟨d, -, -, rfl, -⟩⟩ := loginStep_check hstep <;> rfl
  | write i =>
    obtain ⟨challengeId, _, _, _, d, -, rfl, -⟩ := loginStep_write hstep
    cases d with
    | resave r ttlSeconds => exact redis_save_ne (hkey challengeId)
    | _ => exact redis_delete_ne (hkey challengeId)
  | grant i =>
    obtain ⟨_, _, -, rfl, -⟩ := loginStep_grant hstep
    rfl

/-- A login step is nothing to the confirm system. -/
theorem sameConfirms_onLogin {l : LoginLabel} (hstep : s.onLogin rt svc l = some (s', es))
    (hclock : s.otp.now.seconds ≤ s'.otp.now.seconds) :
    SameConfirms s.confirmState s'.confirmState ∧ confirmEvents es = [] := by
  obtain ⟨t, les, hlog, rfl, rfl⟩ := onLogin_eq_some hstep
  refine ⟨sameConfirms_of_otp hclock fun jti => ?_, confirmEvents_login les⟩
  exact loginStep_redis (fun id => (redisKey_login_ne_blacklistKey id jti).symm) hlog

/-- Nor is a step of the reset flow. -/
theorem sameConfirms_onReset {l : ResetLabel} (hstep : s.onReset rt svc l = some (s', es))
    (hclock : s.otp.now.seconds ≤ s'.otp.now.seconds) :
    SameConfirms s.confirmState s'.confirmState ∧ confirmEvents es = [] := by
  obtain ⟨otp, res, hreset, rfl, rfl⟩ := onReset_eq_some hstep
  refine ⟨sameConfirms_of_otp hclock fun jti => ?_, confirmEvents_reset res⟩
  exact resetStep_redis (fun id => (redisKey_reset_ne_blacklistKey id jti).symm) hreset

/-! ### Steps of the application -/

/-- What the confirm system saw of a step that ended in `s'` with these events: the others', then
    perhaps a step of its own, which is the labelled one or the minting of a token. -/
def ConfirmView (rt : Runtime) (svc : OtpService) (settings : Settings) (s : ConfirmState)
    (l : AppLabel) (s' : ConfirmState) (es : List ConfirmEvent) : Prop :=
  ∃ m, SameConfirms s m ∧ ((m = s' ∧ es = []) ∨
    ∃ l', confirmStep rt svc.usesRedis settings.passwordResetTokenTtlSeconds m l' = some (s', es) ∧
      (l = .confirm l' ∨ ∃ jti email accountType databaseId,
        l' = .mint jti email accountType databaseId))

/-- A step of a route of the confirm system lets no time pass. -/
theorem now_of_confirmStep {usesRedis : Bool} {tokenTtlSeconds : ℕ} {t t' : ConfirmState}
    {ces : List ConfirmEvent} {l : ConfirmLabel} (hl : ∀ now, l ≠ .tick now)
    (hstep : confirmStep rt usesRedis tokenTtlSeconds t l = some (t', ces)) : t'.now = t.now := by
  cases l with
  | tick now => exact absurd rfl (hl now)
  | mint jti email accountType databaseId =>
    obtain ⟨_, -, -, rfl, -⟩ := confirmStep_mint hstep
    rfl
  | submit i token newPassword =>
    obtain ⟨-, -, ⟨e, rfl⟩ | ⟨_, -, -, rfl⟩⟩ := confirmStep_submit hstep <;> rfl
  | reserve i measuredAt clockAt =>
    obtain ⟨_, _, _, -, -, -, -, ok, store, -, rfl⟩ := confirmStep_reserve hstep
    rfl
  | post i =>
    obtain ⟨_, _, -, rfl, -⟩ := confirmStep_post hstep
    rfl
  | respond i outcome =>
    obtain ⟨_, _, -, -, ⟨-, rfl, -⟩ | ⟨error, -, rfl, -⟩⟩ := confirmStep_respond hstep <;> rfl
  | release i =>
    obtain ⟨_, _, -, rfl, -⟩ := confirmStep_release hstep
    rfl

/-- What a step of the confirm system leaves is what it sees next. -/
theorem onConfirm_view {l : ConfirmLabel} (hl : ∀ now, l ≠ .tick now)
    (hstep : s.onConfirm rt svc settings l = some (s', es)) :
    confirmStep rt svc.usesRedis settings.passwordResetTokenTtlSeconds s.confirmState l =
      some (s'.confirmState, confirmEvents es) := by
  obtain ⟨t, ces, hconfirm, rfl, rfl⟩ := onConfirm_eq_some hstep
  have hnow : t.now = s.otp.now := now_of_confirmStep hl hconfirm
  rw [hconfirm, confirmEvents_confirm, AppState.confirmState, AppState.setConfirm, ← hnow]

theorem mintFor_view {jti : String} {verdict : ResetVerdict}
    (hstep : s.mintFor rt svc settings jti verdict = some (s', es)) :
    (s' = s ∧ es = []) ∨ ∃ email accountType databaseId,
      s.onConfirm rt svc settings (.mint jti email accountType databaseId) = some (s', es) := by
  unfold AppState.mintFor at hstep
  split at hstep
  · split at hstep
    · exact Or.inr ⟨_, _, _, hstep⟩
    · obtain ⟨rfl, rfl⟩ := Prod.mk.inj (Option.some.inj hstep)
      exact Or.inl ⟨rfl, rfl⟩
  · obtain ⟨rfl, rfl⟩ := Prod.mk.inj (Option.some.inj hstep)
    exact Or.inl ⟨rfl, rfl⟩

/-- **The application simulates the confirm system.** -/
theorem appStep_confirmView {l : AppLabel} (hstep : appStep rt svc settings s l = some (s', es)) :
    ConfirmView rt svc settings s.confirmState l s'.confirmState (confirmEvents es) := by
  have hclock := (appStep_advances hstep).clock
  have hothers : SameConfirms s.confirmState s'.confirmState ∧ confirmEvents es = [] →
      ConfirmView rt svc settings s.confirmState l s'.confirmState (confirmEvents es) :=
    fun h => ⟨_, h.1, Or.inl ⟨rfl, h.2⟩⟩
  cases l with
  | tick t => exact hothers (sameConfirms_onReset hstep hclock)
  | startLogin tables email password challengeId code readAt =>
    obtain ⟨rfl, rfl⟩ | ⟨identity, les, -, hon, rfl⟩ := appStep_startLogin hstep
    · exact hothers ⟨.refl _, rfl⟩
    · obtain ⟨hsame, hevents⟩ := sameConfirms_onLogin hon hclock
      exact hothers ⟨hsame, by rw [confirmEvents_append, hevents]; rfl⟩
  | login l =>
    obtain ⟨-, hon⟩ := appStep_login hstep
    exact hothers (sameConfirms_onLogin hon hclock)
  | startReset tables email accountType challengeId code readAt =>
    obtain ⟨rfl, rfl⟩ | ⟨identity, res, -, hon, rfl⟩ := appStep_startReset hstep
    · exact hothers ⟨.refl _, rfl⟩
    · obtain ⟨hsame, hevents⟩ := sameConfirms_onReset hon hclock
      exact hothers ⟨hsame, by rw [confirmEvents_append, hevents]; rfl⟩
  | resetDelivered challengeId outcome => exact hothers (sameConfirms_onReset hstep hclock)
  | verifyReset challengeId email code readAt jti =>
    simp only [appStep] at hstep
    split_ifs at hstep
    obtain ⟨⟨s₁, es₁⟩, hverify, hrest⟩ := Option.bind_eq_some_iff.mp hstep
    obtain ⟨⟨s₂, es₂⟩, hmint, heq⟩ := Option.map_eq_some_iff.mp hrest
    obtain ⟨rfl, rfl⟩ := Prod.mk.inj heq
    have hsame := sameConfirms_onReset hverify (by
      obtain ⟨otp, res, hreset, rfl, -⟩ := onReset_eq_some hverify
      obtain ⟨rfl, -⟩ := resetStep_verify hreset
      exact le_rfl)
    rw [confirmEvents_append, hsame.2, List.append_nil]
    refine ⟨s₁.confirmState, hsame.1, ?_⟩
    -- the token is minted after the verdict
    obtain ⟨rfl, rfl⟩ | ⟨tokenEmail, accountType, databaseId, hon⟩ := mintFor_view hmint
    · exact Or.inl ⟨rfl, rfl⟩
    · exact Or.inr ⟨_, onConfirm_view (by simp) hon, Or.inr ⟨_, _, _, _, rfl⟩⟩
  | confirm l =>
    obtain ⟨hroute, hon⟩ := appStep_confirm hstep
    refine ⟨_, .refl _, Or.inr ⟨l, onConfirm_view (fun now heq => ?_) hon, Or.inl rfl⟩⟩
    rw [heq] at hroute
    exact absurd hroute (by simp [ConfirmLabel.isRouteStep])
  | passwordToken email =>
    obtain ⟨rfl, rfl⟩ := appStep_passwordToken hstep
    refine hothers ⟨.refl _, ?_⟩
    split_ifs <;> rfl

/-! ### Tokens in the application -/

variable {usesRedis : Bool} {t t' : ConfirmState}

/-- A store without a mark for a token has none after a step of the others. -/
theorem SameConfirms.unmarked (h : SameConfirms t t') {jti : String}
    (hfree : t.store.Unmarked usesRedis jti) : t'.store.Unmarked usesRedis jti := by
  unfold ReservationStore.Unmarked at hfree ⊢
  rwa [h.marks, h.blacklist]

theorem SameConfirms.protects (h : SameConfirms t t') {claims : Claims}
    (hprot : t.store.Protects usesRedis t.now claims) :
    t'.store.Protects usesRedis t'.now claims := by
  have hlater := hprot.later h.clock
  unfold ReservationStore.Protects at hlater ⊢
  rwa [h.marks, h.blacklist]

/-- The others' steps keep the tokens. -/
theorem TokensKept.others {h : List ConfirmEvent} (hkept : TokensKept usesRedis ⟨t, h⟩)
    (hsame : SameConfirms t t') : TokensKept usesRedis ⟨t', h⟩ :=
  hkept.frame hsame.minted (fun i claims hi => hkept.call_minted i claims (hsame.calls ▸ hi))
    (fun j => by rw [hsame.calls]) (fun _ => Iff.rfl) hsame.clock (fun _ => hsame.protects)
    fun _ => hsame.unmarked

/-- **Tokens in the application.** Whatever the other routes do to the shared store, a reset token
    that has not expired is free, held by one call, or used. -/
theorem tokensKept_run {now : Instant} {ls : List AppLabel} {c : Config AppState AppEvent}
    (hrun : (appSystem rt svc settings).run (Config.start (AppState.init now)) ls = some c) :
    TokensKept svc.usesRedis ⟨c.state.confirmState, confirmEvents c.history⟩ := by
  refine (appSystem rt svc settings).invariant_run
    (I := fun d => TokensKept svc.usesRedis ⟨d.state.confirmState, confirmEvents d.history⟩)
    (fun d l d' hd hnext => ?_) (tokensKept_init now) hrun
  obtain ⟨es, hstep, hhist⟩ := (appSystem rt svc settings).next_eq_some.mp hnext
  obtain ⟨m, hsame, ⟨hm, hes⟩ | ⟨l', hconfirm, -⟩⟩ := appStep_confirmView hstep
  · rw [hhist, confirmEvents_append, hes, ← hm]
    exact hd.others hsame
  · rw [hhist, confirmEvents_append]
    exact tokensKept_next (hd.others hsame)
      ((confirmSystem rt svc.usesRedis settings.passwordResetTokenTtlSeconds).next_of_step hconfirm)

end OurosAuth
