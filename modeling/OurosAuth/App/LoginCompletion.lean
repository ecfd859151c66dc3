import OurosAuth.App.Completion

namespace OurosAuth

open KeyValue Traced

/-!
# A login that goes through

The login flow works on its record in three steps (load, compare, write), so what a user is granted
has to be argued over every interleaving of her call with the calls of others.

* `SameLogins`, `appStep_loginView` — a step of the application is nothing to the login system, or a
  step of it;
* `TokensIssued` — nobody works on a challenge before it is created;
* `Guessing` — what somebody else's call can do to the challenge: count one attempt;
* `Answering` — how far her own call has come;
* `login_goes_through` — so the code is accepted until it expires, and the grant reaches Keycloak.
-/

variable {rt : Runtime} {svc : OtpService} {settings : Settings}

/-! ### What the login system sees -/

/-- The events of the login system. -/
def loginEvents (h : List AppEvent) : List LoginEvent :=
  h.filterMap fun e =>
    match e with
    | .login event => some event
    | _ => none

@[simp] theorem loginEvents_append (h h' : List AppEvent) :
    loginEvents (h ++ h') = loginEvents h ++ loginEvents h' := List.filterMap_append

@[simp] theorem loginEvents_login (es : List LoginEvent) : loginEvents (es.map .login) = es := by
  unfold loginEvents
  rw [List.filterMap_map]
  exact List.filterMap_some

@[simp] theorem loginEvents_reset (es : List ResetEvent) : loginEvents (es.map .reset) = [] := by
  unfold loginEvents
  rw [List.filterMap_map]
  exact List.filterMap_eq_nil_iff.mpr fun _ _ => rfl

@[simp] theorem loginEvents_confirm (es : List ConfirmEvent) :
    loginEvents (es.map .confirm) = [] := by
  unfold loginEvents
  rw [List.filterMap_map]
  exact List.filterMap_eq_nil_iff.mpr fun _ _ => rfl

theorem mem_loginEvents {h : List AppEvent} {e : LoginEvent} :
    e ∈ loginEvents h ↔ .login e ∈ h := by
  unfold loginEvents
  rw [List.mem_filterMap]
  constructor
  · rintro ⟨event, hmem, heq⟩
    cases event <;> simp at heq
    exact heq ▸ hmem
  · exact fun hmem => ⟨_, hmem, rfl⟩

/-- Time may have passed and ids may have been handed out; no login call and no login challenge has
    changed. -/
structure SameLogins (svc : OtpService) (s s' : LoginState) : Prop where
  clock : s.otp.now.seconds ≤ s'.otp.now.seconds
  calls : s'.calls = s.calls
  issued : s.otp.issued ⊆ s'.otp.issued
  keeps : ∀ challengeId, isChallengeToken challengeId = true →
    s.otp.stores.Keeps svc (storeKey svc .login challengeId) s.otp.now s'.otp.stores

theorem SameLogins.refl (s : LoginState) : SameLogins svc s s :=
  ⟨le_rfl, rfl, List.Subset.refl _, fun _ _ => .refl⟩

variable {s s' : AppState} {es : List AppEvent} {l : AppLabel}

/-- The other routes move no login call. -/
theorem logins_of_otherStep (hlogin : l.isLoginRequest = false)
    (hstep : appStep rt svc settings s l = some (s', es)) : s'.logins = s.logins := by
  cases l with
  | tick t =>
    obtain ⟨otp, res, -, rfl, -⟩ := onReset_eq_some hstep
    rfl
  | startReset tables email accountType resetId code readAt =>
    obtain ⟨rfl, -⟩ | ⟨identity, res, -, hon, -⟩ := appStep_startReset hstep
    · rfl
    · obtain ⟨otp, res, -, rfl, -⟩ := onReset_eq_some hon
      rfl
  | resetDelivered resetId outcome =>
    obtain ⟨otp, res, -, rfl, -⟩ := onReset_eq_some hstep
    rfl
  | verifyReset resetId email code readAt jti => exact (appStep_verifyReset hstep).2
  | confirm l =>
    obtain ⟨-, hon⟩ := appStep_confirm hstep
    obtain ⟨t, ces, -, rfl, -⟩ := onConfirm_eq_some hon
    rfl
  | passwordToken email =>
    obtain ⟨rfl, -⟩ := appStep_passwordToken hstep
    rfl
  | startLogin => exact absurd hlogin (by simp [AppLabel.isLoginRequest])
  | login => exact absurd hlogin (by simp [AppLabel.isLoginRequest])

/-- Nor do they leave an event of the login system. -/
theorem loginEvents_of_otherStep (hlogin : l.isLoginRequest = false)
    (hstep : appStep rt svc settings s l = some (s', es)) : loginEvents es = [] := by
  cases l with
  | tick t =>
    obtain ⟨otp, res, -, -, rfl⟩ := onReset_eq_some hstep
    exact loginEvents_reset res
  | startReset tables email accountType resetId code readAt =>
    obtain ⟨-, rfl⟩ | ⟨identity, res, -, hon, rfl⟩ := appStep_startReset hstep
    · rfl
    · obtain ⟨otp, res, -, -, rfl⟩ := onReset_eq_some hon
      rw [loginEvents_append, loginEvents_reset]
      rfl
  | resetDelivered resetId outcome =>
    obtain ⟨otp, res, -, -, rfl⟩ := onReset_eq_some hstep
    exact loginEvents_reset res
  | verifyReset resetId email code readAt jti =>
    simp only [appStep] at hstep
    split_ifs at hstep
    obtain ⟨⟨s₁, es₁⟩, hverify, hrest⟩ := Option.bind_eq_some_iff.mp hstep
    obtain ⟨⟨s₂, es₂⟩, hmint, heq⟩ := Option.map_eq_some_iff.mp hrest
    obtain ⟨rfl, rfl⟩ := Prod.mk.inj heq
    obtain ⟨otp, res, -, -, rfl⟩ := onReset_eq_some hverify
    rw [loginEvents_append, loginEvents_reset, List.append_nil]
    -- a refused code mints nothing, an accepted one leaves an event of the confirm system
    obtain ⟨-, rfl⟩ | ⟨tokenEmail, accountType, databaseId, hon⟩ := mintFor_view hmint
    · rfl
    · obtain ⟨t, ces, -, -, rfl⟩ := onConfirm_eq_some hon
      exact loginEvents_confirm ces
  | confirm l =>
    obtain ⟨-, hon⟩ := appStep_confirm hstep
    obtain ⟨t, ces, -, -, rfl⟩ := onConfirm_eq_some hon
    exact loginEvents_confirm ces
  | passwordToken email =>
    obtain ⟨-, rfl⟩ := appStep_passwordToken hstep
    split_ifs <;> rfl
  | startLogin => exact absurd hlogin (by simp [AppLabel.isLoginRequest])
  | login => exact absurd hlogin (by simp [AppLabel.isLoginRequest])

/-- **The application simulates the login system.**  A step of it is nothing to the login system, or
    a step there: the labelled one, or the start of a login. -/
theorem appStep_loginView (hstep : appStep rt svc settings s l = some (s', es)) :
    SameLogins svc s.loginState s'.loginState ∧ loginEvents es = [] ∨
      ∃ l', loginStep rt svc s.loginState l' = some (s'.loginState, loginEvents es) ∧
        (l = .login l' ∨ ∃ challengeId email code readAt,
          l' = .start challengeId email code readAt) := by
  by_cases hlogin : l.isLoginRequest = true
  · cases l with
    | startLogin tables email password challengeId code readAt =>
      obtain ⟨rfl, rfl⟩ | ⟨identity, les, -, hon, rfl⟩ := appStep_startLogin hstep
      · exact Or.inl ⟨.refl _, rfl⟩
      · obtain ⟨t, les, hstart, rfl, rfl⟩ := onLogin_eq_some hon
        refine Or.inr ⟨.start challengeId identity.email code readAt, ?_, Or.inr ⟨_, _, _, _, rfl⟩⟩
        -- the check of the password is the application's own event
        have hevents : loginEvents (les.map .login ++
            [.credentialsVerified challengeId email password identity]) = les := by
          rw [loginEvents_append, loginEvents_login]
          exact List.append_nil les
        rw [hevents]
        exact hstart
    | login l =>
      obtain ⟨-, hon⟩ := appStep_login hstep
      obtain ⟨t, les, hlog, rfl, rfl⟩ := onLogin_eq_some hon
      refine Or.inr ⟨l, ?_, Or.inl rfl⟩
      rw [loginEvents_login]
      exact hlog
    | _ => exact absurd hlogin (by simp [AppLabel.isLoginRequest])
  · have hother : l.isLoginRequest = false := by simpa using hlogin
    refine Or.inl ⟨⟨(appStep_advances hstep).clock, logins_of_otherStep hother hstep,
      issued_of_appStep hstep, fun challengeId htoken => ?_⟩, loginEvents_of_otherStep hother hstep⟩
    by_cases hreset : l.isResetRequest = true
    · exact keeps_of_resetRequest hreset hstep htoken
    · exact keeps_of_otherStep hother (by simpa using hreset) hstep

/-! ### Before the challenge is created -/

section Logins
variable {t t' : LoginState} {les : List LoginEvent} {ll : LoginLabel}

/-- Nobody has come across a challenge whose id was not handed out.  Ids that are no token are left
    out: in the process-local map some of them are keys of reset challenges. -/
structure TokensIssued (svc : OtpService) (t : LoginState) : Prop where
  found : ∀ challengeId r, isChallengeToken challengeId = true →
    t.otp.stores.find? svc t.otp.now (storeKey svc .login challengeId) = some r →
      challengeId ∈ t.otp.issued
  window : ∀ i challengeId, isChallengeToken challengeId = true →
    (t.calls i).inWindow challengeId → challengeId ∈ t.otp.issued

theorem tokensIssued_init (now : Instant) : TokensIssued svc (LoginState.init now) where
  found := fun challengeId r _ hfound => by
    have hrecord := recordAt_of_find? hfound
    rw [show (LoginState.init now).otp.stores = OtpStores.empty from rfl, recordAt_empty] at hrecord
    exact absurd hrecord (by simp)
  window := by simp [LoginState.init, LoginCall.inWindow]

/-- A step that lets nothing more be found, and moves calls to windows of handed-out ids. -/
theorem TokensIssued.frame (h : TokensIssued svc t)
    (hclock : t.otp.now.seconds ≤ t'.otp.now.seconds) (hissued : t.otp.issued ⊆ t'.otp.issued)
    (hfound : ∀ challengeId r, isChallengeToken challengeId = true →
      t'.otp.stores.find? svc t'.otp.now (storeKey svc .login challengeId) = some r →
        t.otp.stores.find? svc t'.otp.now (storeKey svc .login challengeId) = some r)
    (hwindow : ∀ i challengeId, isChallengeToken challengeId = true →
      (t'.calls i).inWindow challengeId →
        (t.calls i).inWindow challengeId ∨ challengeId ∈ t.otp.issued) : TokensIssued svc t' where
  found challengeId r htoken hr :=
    hissued (h.found challengeId r htoken (find?_of_later hclock (hfound challengeId r htoken hr)))
  window i challengeId htoken hi :=
    (hwindow i challengeId htoken hi).elim
      (fun hold => hissued (h.window i challengeId htoken hold)) fun hmem => hissued hmem

theorem TokensIssued.others (h : TokensIssued svc t) (hsame : SameLogins svc t t') :
    TokensIssued svc t' :=
  h.frame hsame.clock hsame.issued
    (fun challengeId _ htoken hr => (hsame.keeps challengeId htoken _ hsame.clock).symm.trans hr)
    fun _ _ _ hi => Or.inl (hsame.calls ▸ hi)

/-- One call moves. -/
theorem TokensIssued.move (h : TokensIssued svc t) {i : ℕ} {call : LoginCall} (stores : OtpStores)
    (hfound : ∀ challengeId r, isChallengeToken challengeId = true →
      stores.find? svc t.otp.now (storeKey svc .login challengeId) = some r →
        t.otp.stores.find? svc t.otp.now (storeKey svc .login challengeId) = some r ∨
          challengeId ∈ t.otp.issued)
    (hcall : ∀ challengeId, isChallengeToken challengeId = true → call.inWindow challengeId →
      challengeId ∈ t.otp.issued) :
    TokensIssued svc ((t.setStores stores).setCall i call) where
  found challengeId r htoken hr :=
    (hfound challengeId r htoken hr).elim (h.found challengeId r htoken) id
  window j challengeId htoken hj :=
    (inWindow_of_setCall hj).elim (hcall challengeId htoken) (h.window j challengeId htoken)

/-- **The login routes come across a challenge only after it was created.** -/
theorem tokensIssued_loginStep (h : TokensIssued svc t)
    (hstep : loginStep rt svc t ll = some (t', les)) : TokensIssued svc t' := by
  cases ll with
  | tick now =>
    obtain ⟨hle, rfl, -⟩ := loginStep_tick hstep
    exact h.frame hle (List.Subset.refl _) (fun _ _ _ => id) fun _ _ _ => Or.inl
  | start challengeId email code readAt =>
    obtain ⟨-, hcreate, hcalls, -⟩ := loginStep_start hstep
    obtain ⟨-, -, -, hotp⟩ := create_eq_some.mp hcreate
    have hissued : t'.otp.issued = challengeId :: t.otp.issued := by rw [hotp]
    have hnow : t'.otp.now = t.otp.now := by rw [hotp]
    constructor
    · intro id r htoken hr
      rw [hissued]
      by_cases hid : id = challengeId
      · exact hid ▸ List.mem_cons_self
      · have hkeeps := keeps_create (fun hkey => hid (storeKey_inj hkey)) hcreate _ le_rfl
        rw [hnow, hkeeps] at hr
        exact List.mem_cons_of_mem _ (h.found id r htoken hr)
    · intro i id htoken hi
      rw [hcalls] at hi
      exact hissued ▸ List.mem_cons_of_mem _ (h.window i id htoken hi)
  | delivered challengeId outcome =>
    obtain ⟨hdel, hcalls, -⟩ := loginStep_delivered hstep
    obtain ⟨-, hnow, hissued, -, hst⟩ := delivered_eq_some hdel
    refine h.frame (hnow ▸ le_rfl) (hissued ▸ List.Subset.refl _) (fun id r _ hr => ?_)
      fun i id _ hi => Or.inl (hcalls ▸ hi)
    rcases hst with hst | hst <;> rw [hst] at hr
    · exact hr
    · exact find?_of_delete hr
  | load i challengeId email code =>
    obtain ⟨-, ⟨r, hload, rfl, -⟩ | ⟨rfl, -⟩⟩ := loginStep_load hstep
    · refine h.move _ (fun id r' _ hr => Or.inl ((keeps_load _ _ le_rfl).symm.trans hr)) ?_
      rintro id htoken rfl
      -- the call found the record it now holds
      exact h.found challengeId r htoken ((load_eq_find? ..).symm.trans hload)
    · exact h.move _ (fun id r' _ hr => Or.inl ((keeps_load _ _ le_rfl).symm.trans hr))
        fun _ _ => False.elim
  | check i =>
    obtain ⟨challengeId, email, code, r, hcall, ⟨rfl, -⟩ | ⟨d, -, -, rfl, -⟩⟩ :=
      loginStep_check hstep
    · exact h.move t.otp.stores (fun _ _ _ => Or.inl) fun _ _ => False.elim
    · refine h.move t.otp.stores (fun _ _ _ => Or.inl) ?_
      rintro id htoken rfl
      exact h.window i challengeId htoken (by rw [hcall]; rfl)
  | write i =>
    obtain ⟨challengeId, email, code, r, d, hcall, rfl, -⟩ := loginStep_write hstep
    refine h.move _ (fun id r' htoken hr => ?_) fun id _ hin => ?_
    · by_cases hid : id = challengeId
      · exact Or.inr (hid ▸ h.window i challengeId (hid ▸ htoken) (by rw [hcall]; rfl))
      · have hkeeps : t.otp.stores.Keeps svc (storeKey svc .login id) t.otp.now
            (d.store svc t.otp.now challengeId t.otp.stores) :=
          keeps_store d fun hkey => hid (storeKey_inj hkey)
        exact Or.inl ((hkeeps _ le_rfl).symm.trans hr)
    · cases d <;> exact absurd hin (by simp [VerifyDecision.ending, LoginCall.inWindow])
  | grant i =>
    obtain ⟨challengeId, email, -, rfl, -⟩ := loginStep_grant hstep
    exact h.move t.otp.stores (fun _ _ _ => Or.inl) fun _ _ => False.elim

end Logins

theorem tokensIssued_run {now : Instant} {ls : List AppLabel} {c : Config AppState AppEvent}
    (hrun : (appSystem rt svc settings).run (Config.start (AppState.init now)) ls = some c) :
    TokensIssued svc c.state.loginState := by
  refine (appSystem rt svc settings).invariant_run
    (I := fun d => TokensIssued svc d.state.loginState) (fun d l d' hd hnext => ?_)
    (tokensIssued_init now) hrun
  obtain ⟨es, hstep, -⟩ := (appSystem rt svc settings).next_eq_some.mp hnext
  obtain ⟨hsame, -⟩ | ⟨l', hlog, -⟩ := appStep_loginView hstep
  · exact hd.others hsame
  · exact tokensIssued_loginStep hd hlog

/-! ### The challenge -/

/-- What a login challenge was created for. -/
structure LoginStart where
  challengeId : String
  email : String
  code : String
  expiresAt : ℤ

/-- Its record, with so many attempts counted. -/
def LoginStart.record (rt : Runtime) (svc : OtpService) (start : LoginStart) (attempts : ℤ) :
    Record :=
  storedLogin rt svc start.challengeId start.email start.code start.expiresAt attempts

/-- Does a submission match what the challenge was created for? -/
def LoginStart.Matches (rt : Runtime) (svc : OtpService) (start : LoginStart)
    (email code : String) : Prop :=
  rt.normalizeEmail start.email = rt.normalizeEmail email ∧
    codeDigest rt svc start.challengeId start.code = codeDigest rt svc start.challengeId code

instance (rt : Runtime) (svc : OtpService) (start : LoginStart) (email code : String) :
    Decidable (start.Matches rt svc email code) := inferInstanceAs (Decidable (_ ∧ _))

section Challenge
variable {start : LoginStart} {now t : Instant} {email code : String} {n k : ℕ}

/-- `verify` on the record of the challenge. -/
theorem decideVerify_record (rt : Runtime) (svc : OtpService) (start : LoginStart) (now : ℤ)
    (email code : String) (n : ℕ) :
    decideVerify rt svc now start.challengeId email code (start.record rt svc n) =
      if start.expiresAt ≤ now ∨ (svc.maxAttempts : ℤ) ≤ n then .reject
      else if ¬ (isAscii (rt.normalizeEmail start.email) = true ∧
          isAscii (rt.normalizeEmail email) = true) then .typeError
      else if start.Matches rt svc email code then .accept
      else if (svc.maxAttempts : ℤ) ≤ n + 1 then .lockOut
      else .resave (start.record rt svc (n + 1 : ℕ)) (max (start.expiresAt - now) 1) := rfl

/-- The right code is accepted. -/
theorem decideVerify_right (hlive : now.whole < start.expiresAt) (hlimit : n < svc.maxAttempts)
    (hascii : isAscii (rt.normalizeEmail start.email) = true)
    (hright : start.Matches rt svc email code) :
    decideVerify rt svc now.whole start.challengeId email code (start.record rt svc n) =
      .accept := by
  have hboth : isAscii (rt.normalizeEmail start.email) = true ∧
      isAscii (rt.normalizeEmail email) = true := ⟨hascii, hright.1 ▸ hascii⟩
  rw [decideVerify_record, if_neg (by omega), if_neg (not_not.mpr hboth), if_pos hright]

/-- A wrong submission below the limit raises, or counts one attempt. -/
theorem decideVerify_guess (hlive : now.whole < start.expiresAt) (hlimit : n + 1 < svc.maxAttempts)
    (hwrong : ¬ start.Matches rt svc email code) :
    decideVerify rt svc now.whole start.challengeId email code (start.record rt svc n) =
        .typeError ∨
      decideVerify rt svc now.whole start.challengeId email code (start.record rt svc n) =
        .resave (start.record rt svc (n + 1 : ℕ)) (max (start.expiresAt - now.whole) 1) := by
  have hbelow : ¬ (svc.maxAttempts : ℤ) ≤ n + 1 := by omega
  rw [decideVerify_record, if_neg (by omega), if_neg hwrong, if_neg hbelow]
  by_cases hcompare : isAscii (rt.normalizeEmail start.email) = true ∧
      isAscii (rt.normalizeEmail email) = true
  · exact Or.inr (if_neg (not_not.mpr hcompare))
  · exact Or.inl (if_pos hcompare)

/-- What such a call saves is found as long as before. -/
theorem find?_store_guess (rt : Runtime) (svc : OtpService) (st : OtpStores) (n : ℕ)
    {checkedAt : Instant} (hchecked : checkedAt.seconds ≤ now.seconds)
    (hlive : t.whole < start.expiresAt) :
    (VerifyDecision.store svc now start.challengeId st
        (.resave (start.record rt svc n) (max (start.expiresAt - checkedAt.whole) 1))).find? svc t
      (storeKey svc .login start.challengeId) = some (start.record rt svc n) := by
  refine find?_save_self rfl hlive ?_
  have hwhole := checkedAt.whole_le.trans hchecked
  have httl : ((start.expiresAt - checkedAt.whole : ℤ) : ℚ) ≤
      (max (max (start.expiresAt - checkedAt.whole) 1) 1 : ℤ) := by
    exact_mod_cast (le_max_left _ _).trans (le_max_left _ _)
  push_cast at httl ⊢
  linarith

/-- Somebody else's call, if it is in the window of the challenge: it submitted something wrong, and
    is about to count one attempt.  `k` is how often others have submitted. -/
def Guessing (rt : Runtime) (svc : OtpService) (start : LoginStart) (now : Instant) (k : ℕ) :
    LoginCall → Prop
  | .loaded challengeId email code r => challengeId = start.challengeId →
      ¬ start.Matches rt svc email code ∧ ∃ n : ℕ, n < k ∧ r = start.record rt svc n
  | .decided challengeId _ _ _ d => challengeId = start.challengeId →
      ∃ (n : ℕ) (checkedAt : Instant), n ≤ k ∧ checkedAt.seconds ≤ now.seconds ∧
        d = .resave (start.record rt svc n) (max (start.expiresAt - checkedAt.whole) 1)
  | _ => True

/-- A call outside the window is no guess. -/
theorem guessing_of_not_inWindow {call : LoginCall}
    (h : ¬ call.inWindow start.challengeId) : Guessing rt svc start now k call := by
  cases call with
  | loaded challengeId email code r => exact fun heq => absurd heq h
  | decided challengeId email code r d => exact fun heq => absurd heq h
  | _ => trivial

theorem Guessing.mono {call : LoginCall} {now' : Instant} {k' : ℕ}
    (h : Guessing rt svc start now k call) (hclock : now.seconds ≤ now'.seconds) (hk : k ≤ k') :
    Guessing rt svc start now' k' call := by
  cases call with
  | loaded challengeId email code r =>
    intro heq
    obtain ⟨hwrong, n, hn, hr⟩ := h heq
    exact ⟨hwrong, n, hn.trans_le hk, hr⟩
  | decided challengeId email code r d =>
    intro heq
    obtain ⟨n, checkedAt, hn, hchecked, hd⟩ := h heq
    exact ⟨n, checkedAt, hn.trans hk, hchecked.trans hclock, hd⟩
  | _ => trivial

/-- How far call `i` has come, which submits the right code before `t`. -/
inductive Answering (rt : Runtime) (svc : OtpService) (start : LoginStart) (i : ℕ)
    (submitted : String) (t : Instant) (st : OtpStores) (h : List LoginEvent) : LoginCall → Prop
  /-- it has not begun, and the challenge is there for it -/
  | idle : (st.find? svc t (storeKey svc .login start.challengeId)).isSome →
      Answering rt svc start i submitted t st h .idle
  | loaded (n : ℕ) : n < svc.maxAttempts → Answering rt svc start i submitted t st h
      (.loaded start.challengeId submitted start.code (start.record rt svc n))
  | decided (r : Record) : Answering rt svc start i submitted t st h
      (.decided start.challengeId submitted start.code r .accept)
  | verified : Answering rt svc start i submitted t st h (.verified start.challengeId submitted)
  | granted : .granted i start.challengeId submitted ∈ h →
      Answering rt svc start i submitted t st h .granted

/-- Only a call that has not begun depends on the store. -/
theorem Answering.frame {i : ℕ} {submitted : String} {st st' : OtpStores} {es h : List LoginEvent}
    {call : LoginCall} (hcall : Answering rt svc start i submitted t st h call)
    (hstore : (st.find? svc t (storeKey svc .login start.challengeId)).isSome →
      (st'.find? svc t (storeKey svc .login start.challengeId)).isSome) :
    Answering rt svc start i submitted t st' (es ++ h) call := by
  cases hcall with
  | idle hfound => exact .idle (hstore hfound)
  | loaded n hn => exact .loaded n hn
  | decided r => exact .decided r
  | verified => exact .verified
  | granted hmem => exact .granted (List.mem_append_right _ hmem)

/-- A lookup of the challenge finds its record, with at most `k` attempts counted, or nothing. -/
def LoginStart.KeptIn (rt : Runtime) (svc : OtpService) (start : LoginStart) (k : ℕ)
    (now : Instant) (st : OtpStores) : Prop :=
  ∀ r, st.find? svc now (storeKey svc .login start.challengeId) = some r →
    ∃ n : ℕ, n ≤ k ∧ r = start.record rt svc n

/-- Call `i` can answer the challenge, whatever the others' guesses do. -/
structure Answerable (rt : Runtime) (svc : OtpService) (start : LoginStart) (i : ℕ)
    (submitted : String) (t : Instant) (k : ℕ) (s : LoginState) (h : List LoginEvent) : Prop where
  issued : start.challengeId ∈ s.otp.issued
  kept : start.KeptIn rt svc k s.otp.now s.otp.stores
  others : ∀ j, j ≠ i → Guessing rt svc start s.otp.now k (s.calls j)
  call : Answering rt svc start i submitted t s.otp.stores h (s.calls i)

/-- The step takes nothing away from the challenge: call `i` submits the right thing to it, nobody
    else does, and its e-mail is not given up. -/
def LoginLabel.Spares (rt : Runtime) (svc : OtpService) (start : LoginStart) (i : ℕ)
    (submitted : String) : LoginLabel → Prop
  | .load j challengeId email code =>
      if j = i then challengeId = start.challengeId ∧ email = submitted ∧ code = start.code
      else challengeId = start.challengeId → ¬ start.Matches rt svc email code
  | .delivered challengeId outcome => challengeId = start.challengeId → outcome ≠ .smtpFailure
  | _ => True

/-- Somebody else submits to the challenge. -/
def LoginLabel.isGuess (challengeId : String) (i : ℕ) : LoginLabel → Bool
  | .load j challengeId' _ _ => j ≠ i ∧ challengeId' = challengeId
  | _ => false

variable {i j k' : ℕ} {submitted : String} {s s' : LoginState} {les past : List LoginEvent}
  {ll : LoginLabel}

/-- A step that moves no call. -/
theorem Answerable.frame (h : Answerable rt svc start i submitted t k s past)
    (hclock : s.otp.now.seconds ≤ s'.otp.now.seconds) (hle : s'.otp.now.seconds ≤ t.seconds)
    (hissued : s.otp.issued ⊆ s'.otp.issued) (hcalls : s'.calls = s.calls)
    (hkeeps : s.otp.stores.Keeps svc (storeKey svc .login start.challengeId) s.otp.now
      s'.otp.stores) :
    Answerable rt svc start i submitted t k s' (les ++ past) where
  issued := hissued h.issued
  kept r hr := h.kept r (find?_of_later hclock ((hkeeps _ hclock).symm.trans hr))
  others j hj := hcalls ▸ (h.others j hj).mono hclock le_rfl
  call := by
    rw [hcalls]
    exact h.call.frame fun hfound => (hkeeps t (hclock.trans hle)) ▸ hfound

/-- Call `i` moves. -/
theorem Answerable.ownCall {call : LoginCall} (st : OtpStores)
    (h : Answerable rt svc start i submitted t k s past)
    (hkept : start.KeptIn rt svc k s.otp.now st)
    (hcall : Answering rt svc start i submitted t st (les ++ past) call) :
    Answerable rt svc start i submitted t k ((s.setStores st).setCall i call) (les ++ past) where
  issued := h.issued
  kept := hkept
  others j hj := by
    rw [setCall_calls_ne _ _ hj]
    exact h.others j hj
  call := by
    rw [setCall_calls_self]
    exact hcall

/-- Another call moves. -/
theorem Answerable.otherCall {call : LoginCall} (st : OtpStores)
    (h : Answerable rt svc start i submitted t k s past) (hj : j ≠ i) (hk : k ≤ k')
    (hcall : Guessing rt svc start s.otp.now k' call) (hkept : start.KeptIn rt svc k' s.otp.now st)
    (hstore : (s.otp.stores.find? svc t (storeKey svc .login start.challengeId)).isSome →
      (st.find? svc t (storeKey svc .login start.challengeId)).isSome) :
    Answerable rt svc start i submitted t k' ((s.setStores st).setCall j call) (les ++ past) where
  issued := h.issued
  kept := hkept
  others m hm := by
    by_cases hmj : m = j
    · subst hmj
      rwa [setCall_calls_self]
    · rw [setCall_calls_ne _ _ hmj]
      exact (h.others m hm).mono le_rfl hk
  call := by
    rw [setCall_calls_ne _ _ (Ne.symm hj)]
    exact h.call.frame hstore

theorem LoginStart.KeptIn.keeps {st st' : OtpStores} (h : start.KeptIn rt svc k now st)
    (hkeeps : st.Keeps svc (storeKey svc .login start.challengeId) now st') (hk : k ≤ k') :
    start.KeptIn rt svc k' now st' := fun r hr => by
  obtain ⟨n, hn, hrecord⟩ := h r ((hkeeps now le_rfl).symm.trans hr)
  exact ⟨n, hn.trans hk, hrecord⟩

/-- More guesses may be allowed for. -/
theorem Answerable.mono (h : Answerable rt svc start i submitted t k s past) (hk : k ≤ k') :
    Answerable rt svc start i submitted t k' s past where
  issued := h.issued
  kept := h.kept.keeps .refl hk
  others j hj := (h.others j hj).mono le_rfl hk
  call := h.call

/-- Somebody loads the challenge. -/
theorem Answerable.load {challengeId email code : String}
    (h : Answerable rt svc start i submitted t k s past)
    (hspares : LoginLabel.Spares rt svc start i submitted (.load j challengeId email code))
    (hstep : loginStep rt svc s (.load j challengeId email code) = some (s', les))
    (hle : s.otp.now.seconds ≤ t.seconds) (hfew : k < svc.maxAttempts) :
    Answerable rt svc start i submitted t
      (k + if (LoginLabel.load j challengeId email code).isGuess start.challengeId i then 1 else 0)
      s' (les ++ past) := by
  have hkeeps : ∀ key, s.otp.stores.Keeps svc key s.otp.now
      (s.otp.stores.load svc s.otp.now .login challengeId).2 := keeps_load
  by_cases hj : j = i
  · subst hj
    simp only [LoginLabel.Spares, if_true] at hspares
    obtain ⟨rfl, rfl, rfl⟩ := hspares
    rw [if_neg (by simp [LoginLabel.isGuess]), Nat.add_zero]
    obtain ⟨hidle, -⟩ := loginStep_load hstep
    have hcall := h.call
    rw [hidle] at hcall
    cases hcall with
    | idle hfound =>
      -- the record is there for it
      obtain ⟨r, hr⟩ := Option.isSome_iff_exists.mp hfound
      have hnow := find?_of_later hle hr
      obtain ⟨n, hn, rfl⟩ := h.kept r hnow
      rw [loginStep_load_some hidle ((load_eq_find? ..).trans hnow), Option.some.injEq,
        Prod.mk.injEq] at hstep
      obtain ⟨rfl, rfl⟩ := hstep
      exact h.ownCall _ (h.kept.keeps (hkeeps _) le_rfl) (.loaded n (hn.trans_lt hfew))
  · simp only [LoginLabel.Spares, if_neg hj] at hspares
    have hstore : (s.otp.stores.find? svc t (storeKey svc .login start.challengeId)).isSome →
        ((s.otp.stores.load svc s.otp.now .login challengeId).2.find? svc t
          (storeKey svc .login start.challengeId)).isSome :=
      fun hfound => (hkeeps _ t hle).symm ▸ hfound
    have hkept := h.kept.keeps (hkeeps _) (Nat.le_add_right k
      (if (LoginLabel.load j challengeId email code).isGuess start.challengeId i then 1 else 0))
    obtain ⟨-, ⟨r, hload, rfl, -⟩ | ⟨rfl, -⟩⟩ := loginStep_load hstep
    · refine h.otherCall _ hj (Nat.le_add_right _ _) (fun heq => ⟨hspares heq, ?_⟩) hkept hstore
      subst heq
      obtain ⟨n, hn, rfl⟩ := h.kept r ((load_eq_find? ..).symm.trans hload)
      rw [if_pos (by simp [LoginLabel.isGuess, hj])]
      exact ⟨n, by omega, rfl⟩
    · exact h.otherCall _ hj (Nat.le_add_right _ _) trivial hkept hstore

/-- Somebody compares. -/
theorem Answerable.check (h : Answerable rt svc start i submitted t k s past)
    (hstep : loginStep rt svc s (.check j) = some (s', les))
    (hlive : s.otp.now.whole < start.expiresAt) (hfew : k < svc.maxAttempts)
    (hascii : isAscii (rt.normalizeEmail start.email) = true)
    (hright : start.Matches rt svc submitted start.code) :
    Answerable rt svc start i submitted t k s' (les ++ past) := by
  obtain ⟨challengeId, email, code, r, hcalled, hend⟩ := loginStep_check hstep
  by_cases hj : j = i
  · subst hj
    have hcall := h.call
    rw [hcalled] at hcall
    cases hcall with
    | loaded n hn =>
      have haccept := decideVerify_right hlive hn hascii hright
      rw [loginStep_check_decided hcalled haccept (by simp), Option.some.injEq,
        Prod.mk.injEq] at hstep
      obtain ⟨rfl, rfl⟩ := hstep
      exact h.ownCall s.otp.stores h.kept (.decided _)
  · have hguess := h.others j hj
    rw [hcalled] at hguess
    obtain ⟨rfl, -⟩ | ⟨d, hd, htype, rfl, -⟩ := hend
    · exact h.otherCall s.otp.stores hj le_rfl trivial h.kept id
    · refine h.otherCall s.otp.stores hj le_rfl (fun heq => ?_) h.kept id
      subst heq
      obtain ⟨hwrong, n, hn, rfl⟩ := hguess rfl
      have hbelow : n + 1 < svc.maxAttempts := by omega
      rcases decideVerify_guess hlive hbelow hwrong with hraise | hcount
      · exact absurd (hd.symm.trans hraise) htype
      · exact ⟨n + 1, s.otp.now, hn, le_rfl, hd.symm.trans hcount⟩

/-- Somebody writes. -/
theorem Answerable.write (h : Answerable rt svc start i submitted t k s past)
    (hstep : loginStep rt svc s (.write j) = some (s', les)) (hle : s.otp.now.seconds ≤ t.seconds)
    (hlive : t.whole < start.expiresAt) :
    Answerable rt svc start i submitted t k s' (les ++ past) := by
  obtain ⟨challengeId, email, code, r, d, hcalled, rfl, rfl⟩ := loginStep_write hstep
  by_cases hj : j = i
  · subst hj
    have hcall := h.call
    rw [hcalled] at hcall
    cases hcall with
    | decided r =>
      refine h.ownCall _ (fun r' hr => ?_) .verified
      have hgone : (s.otp.stores.delete svc .login start.challengeId).find? svc s.otp.now
          (storeKey svc .login start.challengeId) = none := find?_delete_self
      exact absurd (hgone.symm.trans hr) (by simp)
  · have hguess := h.others j hj
    rw [hcalled] at hguess
    have hending : Guessing rt svc start s.otp.now k (d.ending challengeId email) := by
      cases d <;> trivial
    by_cases hid : challengeId = start.challengeId
    · subst hid
      obtain ⟨n, checkedAt, hn, hchecked, rfl⟩ := hguess rfl
      -- what it saves is found until the challenge expires
      have hsaved := find?_store_guess rt svc s.otp.stores n hchecked hlive
      refine h.otherCall _ hj le_rfl hending (fun r' hr => ⟨n, hn, ?_⟩) fun _ => by rw [hsaved]; rfl
      exact Option.some.inj (hr.symm.trans (find?_of_later hle hsaved))
    · have hkeeps : s.otp.stores.Keeps svc (storeKey svc .login start.challengeId) s.otp.now
          (d.store svc s.otp.now challengeId s.otp.stores) :=
        keeps_store d fun hkey => hid (storeKey_inj hkey).symm
      exact h.otherCall _ hj le_rfl hending (h.kept.keeps hkeeps le_rfl)
        fun hfound => (hkeeps t hle).symm ▸ hfound

/-- **A step that spares the challenge leaves it to call `i`**, with one guess more at most. -/
theorem answerable_loginStep (h : Answerable rt svc start i submitted t k s past)
    (hspares : ll.Spares rt svc start i submitted) (hstep : loginStep rt svc s ll = some (s', les))
    (hle : s'.otp.now.seconds ≤ t.seconds) (hclock : s.otp.now.seconds ≤ s'.otp.now.seconds)
    (hlive : t.whole < start.expiresAt) (hfew : k < svc.maxAttempts)
    (hascii : isAscii (rt.normalizeEmail start.email) = true)
    (hright : start.Matches rt svc submitted start.code) :
    Answerable rt svc start i submitted t
      (k + if ll.isGuess start.challengeId i then 1 else 0) s' (les ++ past) := by
  have hnow := hclock.trans hle
  have hopen : s.otp.now.whole < start.expiresAt := (Instant.whole_mono hnow).trans_lt hlive
  cases ll with
  | tick now =>
    obtain ⟨-, rfl, -⟩ := loginStep_tick hstep
    exact h.frame hclock hle (List.Subset.refl _) rfl .refl
  | start challengeId email code readAt =>
    -- a new challenge has an id that was not handed out, so it is saved under another key
    obtain ⟨-, hcreate, hcalls, -⟩ := loginStep_start hstep
    obtain ⟨-, hfresh, -, hotp⟩ := create_eq_some.mp hcreate
    have hne : storeKey svc .login start.challengeId ≠ storeKey svc .login challengeId :=
      fun hkey => hfresh (storeKey_inj hkey ▸ h.issued)
    refine h.frame hclock hle ?_ hcalls (keeps_create hne hcreate)
    rw [hotp]
    exact List.subset_cons_self _ _
  | delivered challengeId outcome =>
    obtain ⟨hdel, hcalls, -⟩ := loginStep_delivered hstep
    obtain ⟨-, -, hissued, -⟩ := delivered_eq_some hdel
    refine h.frame hclock hle (hissued ▸ List.Subset.refl _) hcalls ?_
    by_cases hid : challengeId = start.challengeId
    · -- only a delivery that was given up deletes the record
      have houtcome := hspares hid
      unfold OtpState.delivered at hdel
      split_ifs at hdel
      rw [← Option.some.inj hdel]
      cases outcome with
      | smtpFailure => exact absurd rfl houtcome
      | _ => exact .refl
    · exact keeps_delivered (fun hkey => hid (storeKey_inj hkey).symm) hdel
  | load j challengeId email code => exact h.load hspares hstep hnow hfew
  | check j => exact h.check hstep hopen hfew hascii hright
  | write j => exact h.write hstep hnow hlive
  | grant j =>
    obtain ⟨challengeId, email, hcalled, rfl, rfl⟩ := loginStep_grant hstep
    by_cases hj : j = i
    · subst hj
      have hcall := h.call
      rw [hcalled] at hcall
      cases hcall with
      | verified => exact h.ownCall s.otp.stores h.kept (.granted List.mem_cons_self)
    · exact h.otherCall s.otp.stores hj le_rfl trivial h.kept id

/-- The others' routes leave the challenge to call `i`. -/
theorem Answerable.sameLogins (h : Answerable rt svc start i submitted t k s past)
    (htoken : isChallengeToken start.challengeId = true) (hsame : SameLogins svc s s')
    (hle : s'.otp.now.seconds ≤ t.seconds) : Answerable rt svc start i submitted t k s' past := by
  show Answerable rt svc start i submitted t k s' ([] ++ past)
  exact h.frame hsame.clock hle hsame.issued hsame.calls (hsame.keeps _ htoken)

end Challenge

/-! ### Runs of the application -/

section Runs
variable {start : LoginStart} {i k : ℕ} {submitted : String} {t : Instant}
  {c c' : Config AppState AppEvent}

/-- Call `i` can answer the challenge, in the application. -/
def AnswerableIn (rt : Runtime) (svc : OtpService) (start : LoginStart) (i : ℕ)
    (submitted : String) (t : Instant) (k : ℕ) (c : Config AppState AppEvent) : Prop :=
  Answerable rt svc start i submitted t k c.state.loginState (loginEvents c.history)

/-- A step of the application takes nothing away from the challenge. -/
def AppLabel.SparesLogin (rt : Runtime) (svc : OtpService) (start : LoginStart) (i : ℕ)
    (submitted : String) (l : AppLabel) : Prop :=
  ∀ l', l = .login l' → l'.Spares rt svc start i submitted

/-- Somebody else submits to the login challenge. -/
def AppLabel.isGuess (challengeId : String) (i : ℕ) : AppLabel → Bool
  | .login l => l.isGuess challengeId i
  | _ => false

/-- How often others submit to the login challenge. -/
def loginGuesses (challengeId : String) (i : ℕ) (ls : List AppLabel) : ℕ :=
  ls.countP (AppLabel.isGuess challengeId i)

theorem answerableIn_next (h : AnswerableIn rt svc start i submitted t k c)
    (htoken : isChallengeToken start.challengeId = true)
    (hspares : l.SparesLogin rt svc start i submitted)
    (hnext : (appSystem rt svc settings).next c l = some c')
    (hle : c'.state.otp.now.seconds ≤ t.seconds) (hlive : t.whole < start.expiresAt)
    (hfew : k < svc.maxAttempts) (hascii : isAscii (rt.normalizeEmail start.email) = true)
    (hright : start.Matches rt svc submitted start.code) :
    AnswerableIn rt svc start i submitted t
      (k + if l.isGuess start.challengeId i then 1 else 0) c' := by
  obtain ⟨es, hstep, hhist⟩ := (appSystem rt svc settings).next_eq_some.mp hnext
  unfold AnswerableIn
  rw [hhist, loginEvents_append]
  obtain ⟨hsame, hes⟩ | ⟨l', hlog, hl⟩ := appStep_loginView hstep
  · rw [hes]
    exact (Answerable.mono h (Nat.le_add_right _ _)).sameLogins htoken hsame hle
  · have hclock := (appStep_advances hstep).clock
    rcases hl with rfl | ⟨challengeId, email, code, readAt, rfl⟩
    · exact answerable_loginStep h (hspares l' rfl) hlog hle hclock hlive hfew hascii hright
    · have hstart : (LoginLabel.start challengeId email code readAt).Spares rt svc start i
          submitted := trivial
      exact (answerable_loginStep h hstart hlog hle hclock hlive hfew hascii hright).mono
        (Nat.le_add_right _ _)

/-- **Through every run that spares the challenge**, up to the attempt limit. -/
theorem answerableIn_run {ls : List AppLabel} (h : AnswerableIn rt svc start i submitted t k c)
    (htoken : isChallengeToken start.challengeId = true)
    (hspares : ∀ l ∈ ls, l.SparesLogin rt svc start i submitted)
    (hrun : (appSystem rt svc settings).run c ls = some c')
    (hle : c'.state.otp.now.seconds ≤ t.seconds) (hlive : t.whole < start.expiresAt)
    (hfew : k + loginGuesses start.challengeId i ls < svc.maxAttempts)
    (hascii : isAscii (rt.normalizeEmail start.email) = true)
    (hright : start.Matches rt svc submitted start.code) :
    AnswerableIn rt svc start i submitted t (k + loginGuesses start.challengeId i ls) c' := by
  induction ls generalizing c k with
  | nil =>
    obtain rfl := Option.some.inj hrun
    exact h
  | cons l ls ih =>
    rw [System.run_cons, Option.bind_eq_some_iff] at hrun
    obtain ⟨c₁, hnext, hrun⟩ := hrun
    obtain ⟨hl, hls⟩ := List.forall_mem_cons.mp hspares
    have hcount : loginGuesses start.challengeId i (l :: ls) =
        (if l.isGuess start.challengeId i then 1 else 0) + loginGuesses start.challengeId i ls := by
      rw [loginGuesses, List.countP_cons, Nat.add_comm]
      rfl
    rw [hcount, ← Nat.add_assoc] at hfew ⊢
    exact ih (answerableIn_next h htoken hl hnext ((clock_of_run hrun).trans hle) hlive (by omega)
      hascii hright) hls hrun hfew

/-- A step of call `i`. -/
def AppLabel.isLoginStepOf (i : ℕ) : AppLabel → Bool
  | .login (.load j _ _ _) => j = i
  | .login (.check j) => j = i
  | .login (.write j) => j = i
  | .login (.grant j) => j = i
  | _ => false

/-- By steps of its own call `i` gets its password grant to Keycloak. -/
def Grants (rt : Runtime) (svc : OtpService) (settings : Settings) (i : ℕ)
    (challengeId submitted : String) : Config AppState AppEvent → Prop :=
  (appSystem rt svc settings).CanReach (fun l => l.isLoginStepOf i = true) fun c =>
    .login (.granted i challengeId submitted) ∈ c.history

theorem grants_verified {challengeId : String}
    (hcall : c.state.logins i = .verified challengeId submitted) :
    Grants rt svc settings i challengeId submitted c := by
  have hstep : loginStep rt svc c.state.loginState (.grant i) =
      some (c.state.loginState.setCall i .granted, [.granted i challengeId submitted]) := by
    simp only [loginStep, AppState.loginState, hcall]
  have hdone : Grants rt svc settings i challengeId submitted
      ⟨c.state.setLogin (c.state.loginState.setCall i .granted),
        [LoginEvent.granted i challengeId submitted].map .login ++ c.history⟩ :=
    .here _ List.mem_cons_self
  exact hdone.before _ (next_login rfl hstep) (by simp [AppLabel.isLoginStepOf])

theorem grants_decided {challengeId code : String} {r : Record}
    (hcall : c.state.logins i = .decided challengeId submitted code r .accept) :
    Grants rt svc settings i challengeId submitted c :=
  (grants_verified (setCall_calls_self _ i _)).before _
    (next_login rfl (loginStep_write_decided hcall)) (by simp [AppLabel.isLoginStepOf])

theorem grants_loaded {challengeId code : String} {r : Record}
    (hcall : c.state.logins i = .loaded challengeId submitted code r)
    (haccept : decideVerify rt svc c.state.otp.now.whole challengeId submitted code r = .accept) :
    Grants rt svc settings i challengeId submitted c :=
  (grants_decided (setCall_calls_self _ i _)).before _
    (next_login rfl (loginStep_check_decided hcall haccept (by simp)))
    (by simp [AppLabel.isLoginStepOf])

theorem grants_idle {challengeId code : String} {r : Record} (hcode : isCodeField rt code = true)
    (hcall : c.state.logins i = .idle)
    (hfound : c.state.otp.stores.find? svc c.state.otp.now (storeKey svc .login challengeId) =
      some r)
    (haccept : decideVerify rt svc c.state.otp.now.whole challengeId submitted code r = .accept) :
    Grants rt svc settings i challengeId submitted c := by
  have hload : (c.state.loginState.otp.stores.load svc c.state.loginState.otp.now .login
      challengeId).1 = some r := (load_eq_find? ..).trans hfound
  have hroute : (LoginLabel.load i challengeId submitted code).isVerifyStep rt = true := hcode
  have hloaded : Grants rt svc settings i challengeId submitted
      ⟨c.state.setLogin ((c.state.loginState.setStores
          (c.state.otp.stores.load svc c.state.otp.now .login challengeId).2).setCall i
            (.loaded challengeId submitted code r)),
        [LoginEvent.submitted i challengeId submitted code c.state.otp.now.whole].map .login ++
          c.history⟩ := grants_loaded (setCall_calls_self _ i _) haccept
  exact hloaded.before _ (next_login hroute (loginStep_load_some hcall hload))
    (by simp [AppLabel.isLoginStepOf])

/-- **Wherever the call stands, its grant can be sent.** -/
theorem grants_of_answerable (h : AnswerableIn rt svc start i submitted t k c)
    (hle : c.state.otp.now.seconds ≤ t.seconds) (hlive : t.whole < start.expiresAt)
    (hfew : k < svc.maxAttempts) (hcode : isCodeField rt start.code = true)
    (hascii : isAscii (rt.normalizeEmail start.email) = true)
    (hright : start.Matches rt svc submitted start.code) :
    Grants rt svc settings i start.challengeId submitted c := by
  have hopen : c.state.otp.now.whole < start.expiresAt := (Instant.whole_mono hle).trans_lt hlive
  have hcall := h.call
  generalize hcalled : c.state.loginState.calls i = call at hcall
  cases hcall with
  | idle hfound =>
    obtain ⟨r, hr⟩ := Option.isSome_iff_exists.mp hfound
    have hnow := find?_of_later hle hr
    obtain ⟨n, hn, rfl⟩ := h.kept r hnow
    exact grants_idle hcode hcalled hnow
      (decideVerify_right hopen (hn.trans_lt hfew) hascii hright)
  | loaded n hn => exact grants_loaded hcalled (decideVerify_right hopen hn hascii hright)
  | decided r => exact grants_decided hcalled
  | verified => exact grants_verified hcalled
  | granted hmem => exact .here _ (mem_loginEvents.mp hmem)

/-- A challenge that was just created can be answered by every call that has not begun. -/
theorem answerableIn_startLogin {tables : IdentityTables} {email password challengeId code : String}
    {readAt : Instant} {identity : StoredIdentity} (htokens : TokensIssued svc c.state.loginState)
    (hverified : verifyCredentials rt tables email password none = .ok identity)
    (hnext : (appSystem rt svc settings).next c
      (.startLogin tables email password challengeId code readAt) = some c')
    (hidle : c'.state.logins i = .idle) (hlive : t.whole < readAt.whole + svc.ttlSeconds) :
    isOtpCode code = true ∧ isChallengeToken challengeId = true ∧
      AnswerableIn rt svc ⟨challengeId, identity.email, code, readAt.whole + svc.ttlSeconds⟩ i
        submitted t 0 c' := by
  obtain ⟨es, hstep, -⟩ := (appSystem rt svc settings).next_eq_some.mp hnext
  have hstep : appStep rt svc settings c.state
    (.startLogin tables email password challengeId code readAt) = some (c'.state, es) := hstep
  simp only [appStep, hverified] at hstep
  obtain ⟨⟨s₁, res⟩, hon, heq⟩ := Option.map_eq_some_iff.mp hstep
  obtain ⟨rfl, -⟩ := Prod.mk.inj heq
  obtain ⟨s', les, hstart, hs, -⟩ := onLogin_eq_some hon
  obtain ⟨hcode, hcreate, hcalls, -⟩ := loginStep_start hstart
  obtain ⟨htoken, hfresh, hread, hotp⟩ := create_eq_some.mp hcreate
  have hstate : c'.state.loginState = s' := by rw [hs]; rfl
  refine ⟨hcode, htoken, ?_⟩
  unfold AnswerableIn
  rw [hstate]
  refine ⟨?_, fun r hr => ⟨0, le_rfl, ?_⟩, fun j _ => guessing_of_not_inWindow fun hin => ?_, ?_⟩
  · rw [hotp]
    exact List.mem_cons_self
  · have hrecord := recordAt_of_find? hr
    rw [hotp] at hrecord
    exact Option.some.inj (hrecord.symm.trans recordAt_save_self)
  · -- nobody has loaded it yet
    rw [hcalls] at hin
    exact hfresh (htokens.window j challengeId htoken hin)
  · -- the map keeps the record until its expiry, Redis for the whole time to live
    rw [show s'.calls i = .idle from hstate ▸ hidle]
    have hread' : (readAt.whole : ℚ) ≤ c.state.otp.now.seconds := readAt.whole_le.trans hread
    have httl : (svc.ttlSeconds : ℚ) ≤ (max (svc.ttlSeconds : ℤ) 1 : ℤ) := by
      exact_mod_cast le_max_left _ _
    have hkeep : ((readAt.whole + svc.ttlSeconds : ℤ) : ℚ) ≤
        c.state.otp.now.seconds + (max (svc.ttlSeconds : ℤ) 1 : ℤ) := by
      push_cast at httl ⊢
      linarith
    rw [hotp]
    exact .idle (Option.isSome_iff_exists.mpr ⟨_, find?_save_self rfl hlive hkeep⟩)

/-- **A login goes through.** Somebody with the right password is sent a code.  Whatever others do,
    as long as the e-mail is not given up and they submit fewer than `max_attempts` wrong codes, and
    however their verifications and hers interleave, hers can be brought to the password grant until
    the code expires. -/
theorem login_goes_through {now readAt : Instant} {tables : IdentityTables}
    {email password challengeId code : String} {identity : StoredIdentity}
    {earlier meanwhile : List AppLabel} {c₀ c₁ c₂ : Config AppState AppEvent}
    (hdigits : ∀ ch : Char, ch.isDigit = true → rt.isDecimalDigit ch = true)
    (hrun : (appSystem rt svc settings).run (Config.start (AppState.init now)) earlier = some c₀)
    (hverified : verifyCredentials rt tables email password none = .ok identity)
    (hascii : isAscii (rt.normalizeEmail identity.email) = true)
    (hstart : (appSystem rt svc settings).next c₀
      (.startLogin tables email password challengeId code readAt) = some c₁)
    (hidle : c₁.state.logins i = .idle)
    (hemail : rt.normalizeEmail submitted = rt.normalizeEmail identity.email)
    (hspares : ∀ l ∈ meanwhile, l.SparesLogin rt svc
      ⟨challengeId, identity.email, code, readAt.whole + svc.ttlSeconds⟩ i submitted)
    (hfew : loginGuesses challengeId i meanwhile < svc.maxAttempts)
    (hmeanwhile : (appSystem rt svc settings).run c₁ meanwhile = some c₂)
    (hlive : c₂.state.otp.now.whole < readAt.whole + svc.ttlSeconds) :
    Grants rt svc settings i challengeId submitted c₂ := by
  have hle := clock_of_run hmeanwhile
  obtain ⟨hcode, htoken, hanswerable⟩ :=
    answerableIn_startLogin (tokensIssued_run hrun) hverified hstart hidle hlive
  -- the codes the service draws are digits, and the schema's pattern takes every digit
  have hfield : isCodeField rt code = true := by
    simp only [isOtpCode, isCodeField, Bool.and_eq_true] at hcode ⊢
    exact ⟨hcode.1, List.all_eq_true.mpr fun ch hch =>
      hdigits ch (List.all_eq_true.mp hcode.2 ch hch)⟩
  have hfew' : 0 + loginGuesses challengeId i meanwhile < svc.maxAttempts := by omega
  exact grants_of_answerable
    (answerableIn_run hanswerable htoken hspares hmeanwhile le_rfl hlive hfew' hascii
      ⟨hemail.symm, rfl⟩)
    le_rfl hlive hfew' hfield hascii ⟨hemail.symm, rfl⟩

/-- Ana's verification and a guess of somebody else, step by step in each other's way. -/
def sampleInterleaving : List AppLabel :=
  [.login (.delivered sampleToken .sent), .login (.load 1 sampleToken "ana@ouros.app" "000000"),
    .login (.load 0 sampleToken "ana@ouros.app" "123456"), .login (.check 1), .login (.check 0),
    .login (.write 1)]

/-- Ana's login, over Redis. -/
theorem login_goes_through_ana :
    ∃ c₂, (appSystem .sample (.sample true) (.sample (some "redis://cache"))).run
        (Config.start (AppState.init sampleNow))
        (.startLogin sampleTables "ana@ouros.app" "Senha@123" sampleToken "123456" sampleNow ::
          sampleInterleaving) = some c₂ ∧
      Grants .sample (.sample true) (.sample (some "redis://cache")) 0 sampleToken "ana@ouros.app"
        c₂ := by
  obtain ⟨c₁, hstart, hrest⟩ := Option.bind_eq_some_iff.mp
    (by decide +kernel :
      ((appSystem .sample (.sample true) (.sample (some "redis://cache"))).next
        (Config.start (AppState.init sampleNow))
        (.startLogin sampleTables "ana@ouros.app" "Senha@123" sampleToken "123456"
          sampleNow)).bind (fun c₁ =>
            ((appSystem .sample (.sample true) (.sample (some "redis://cache"))).run c₁
              sampleInterleaving).map fun c₂ => (c₁.state.logins 0, c₂.state.otp.now)) =
        some (.idle, sampleNow))
  obtain ⟨c₂, hmeanwhile, hout⟩ := Option.map_eq_some_iff.mp hrest
  obtain ⟨hidle, hnow⟩ := Prod.mk.inj hout
  refine ⟨c₂, ?_, ?_⟩
  · rw [System.run_cons, hstart]
    exact hmeanwhile
  have hspares : ∀ l ∈ sampleInterleaving, l.SparesLogin .sample (.sample true)
      ⟨sampleToken, sampleIdentity.email, "123456",
        sampleNow.whole + (OtpService.sample true).ttlSeconds⟩ 0 "ana@ouros.app" := by
    intro l hl l' heq
    subst heq
    simp only [sampleInterleaving, List.mem_cons, AppLabel.login.injEq, List.not_mem_nil,
      or_false] at hl
    -- the guess of call 1 is the one submission that is not Ana's
    rcases hl with rfl | rfl | rfl | rfl | rfl | rfl
    · exact fun _ => by simp
    · exact fun _ => by decide +kernel
    · exact ⟨rfl, rfl, rfl⟩
    · trivial
    · trivial
    · trivial
  have hverified : verifyCredentials .sample sampleTables "ana@ouros.app" "Senha@123" none =
      .ok sampleIdentity := by rfl
  have hnothing : (appSystem .sample (.sample true) (.sample (some "redis://cache"))).run
      (Config.start (AppState.init sampleNow)) [] = some (Config.start (AppState.init sampleNow)) :=
    rfl
  exact login_goes_through (fun _ h => h) hnothing hverified (by decide +kernel) hstart hidle rfl
    hspares (by decide +kernel) hmeanwhile (by rw [hnow]; decide +kernel)

end Runs

end OurosAuth
