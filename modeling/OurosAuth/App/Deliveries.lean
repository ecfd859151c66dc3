import OurosAuth.App.Authorisation
import OurosAuth.Core.Requests
import OurosAuth.EmailOtp.Frame

namespace OurosAuth

open KeyValue Traced

/-!
# What a failed delivery leaves behind

A challenge is saved before its e-mail is built and sent, by `start` while the request waits and by
`_deliver_password_reset_email` in the background.  Both delete it again when an `OSError` or an
`SMTPException` comes back.

* `sendEmail` — building a message for a recipient, then whatever the rest raises;
* `LeavesNothing` — no lookup finds the challenge, and every other one answers as before;
* `failed_delivery_leaves_nothing_iff` — when that is so.
-/

/-! ### Building and sending -/

/-- The exceptions building or sending a message can raise. -/
inductive SendError
  | osError
  | smtpException
  | valueError
  /-- `_dispatch_email` without a host or without credentials -/
  | emailOtpUnavailable
  /-- any other `Exception` -/
  | other
  deriving DecidableEq

/-- Is it an `OSError`?  `SMTPException` is a subclass. -/
def SendError.isOSError : SendError → Bool
  | .osError => true
  | .smtpException => true
  | _ => false

/-- The characters `str.splitlines` splits at. -/
def isLineBreak (c : Char) : Bool :=
  ['\n', '\r', '\x0b', '\x0c', '\x1c', '\x1d', '\x1e', '\u0085', '\u2028', '\u2029'].contains c

/-- `str.splitlines`; `line` is the line read so far, backwards. -/
def splitLines (line : List Char) : List Char → List (List Char)
  | [] => if line = [] then [] else [line.reverse]
  -- one break, not two
  | '\r' :: '\n' :: cs => line.reverse :: splitLines [] cs
  | c :: cs => if isLineBreak c then line.reverse :: splitLines [] cs else splitLines (c :: line) cs

/-- `message["To"] = recipient`: a header value of more than one line is a `ValueError`. -/
def headerRefused (recipient : String) : Bool := 1 < (splitLines [] recipient.toList).length

/-- `_send_email` and `_send_password_reset_email`; `rest` is how the rest of the message and its
    dispatch end. -/
def sendEmail (recipient : String) (rest : Except SendError Unit) : Except SendError Unit :=
  if headerRefused recipient = true then .error .valueError else rest

/-- What the handler of the service makes of it. -/
def Delivery.ofSend : Except SendError Unit → Delivery
  | .ok () => .sent
  | .error e => if e.isOSError then .smtpFailure else .otherFailure

/-! ### The end of a delivery -/

/-- After a delivery no lookup finds its challenge, now or later, and every other record is found as
    it was. -/
structure LeavesNothing (svc : OtpService) (flow : Flow) (challengeId : String) (s s' : OtpState) :
    Prop where
  gone : ∀ t : Instant, s.now.seconds ≤ t.seconds →
    s'.stores.find? svc t (storeKey svc flow challengeId) = none
  others : ∀ key, key ≠ storeKey svc flow challengeId → s.stores.Keeps svc key s.now s'.stores

variable {rt : Runtime} {svc : OtpService} {settings : Settings} {flow : Flow}
  {challengeId : String} {outcome : Delivery}

/-- The stores after a delivery. -/
theorem delivered_stores {s s' : OtpState}
    (h : s.delivered svc flow challengeId outcome = some s') :
    s'.stores = if outcome = .smtpFailure then s.stores.delete svc flow challengeId
      else s.stores := by
  unfold OtpState.delivered at h
  split at h
  · obtain rfl := Option.some.inj h
    cases outcome <;> rfl
  · exact absurd h (by simp)

/-- A delivery leaves nothing when its failure was caught, or there was nothing left. -/
theorem delivered_leavesNothing_iff {s s' : OtpState}
    (h : s.delivered svc flow challengeId outcome = some s') :
    LeavesNothing svc flow challengeId s s' ↔
      outcome = .smtpFailure ∨
        s.stores.find? svc s.now (storeKey svc flow challengeId) = none := by
  have hothers : ∀ key, key ≠ storeKey svc flow challengeId →
      s.stores.Keeps svc key s.now s'.stores := fun key hne => keeps_delivered hne h
  have hst := delivered_stores h
  split_ifs at hst with hcaught
  · refine iff_of_true ⟨fun t _ => ?_, hothers⟩ (Or.inl hcaught)
    rw [hst, find?_delete_self]
  · -- the stores are as they were, so the challenge is gone if it was
    constructor
    · intro hnothing
      have hgone := hnothing.gone s.now le_rfl
      rw [hst] at hgone
      exact Or.inr hgone
    · intro hcond
      have hgone := hcond.resolve_left hcaught
      refine ⟨fun t hle => ?_, hothers⟩
      rw [hst]
      exact find?_eq_none_of_later hle hgone

/-! ### Deliveries of the application -/

/-- The end of a delivery, of either flow. -/
def deliveryLabel : Flow → String → Delivery → AppLabel
  | .login, challengeId, outcome => .login (.delivered challengeId outcome)
  | .reset, challengeId, outcome => .resetDelivered challengeId outcome

/-- The challenge a step creates. -/
def AppLabel.creates? : AppLabel → Option (Flow × String)
  | .startLogin _ _ _ challengeId _ _ => some (.login, challengeId)
  | .startReset _ _ _ challengeId _ _ => some (.reset, challengeId)
  | _ => none

variable {c c' : Config AppState AppEvent} {l : AppLabel}

theorem next_delivery
    (hnext : (appSystem rt svc settings).next c (deliveryLabel flow challengeId outcome) =
      some c') :
    c.state.otp.delivered svc flow challengeId outcome = some c'.state.otp := by
  obtain ⟨es, hstep, -⟩ := (appSystem rt svc settings).next_eq_some.mp hnext
  change appStep rt svc settings c.state (deliveryLabel flow challengeId outcome) =
    some (c'.state, es) at hstep
  cases flow with
  | login =>
    obtain ⟨-, hlogin⟩ := appStep_login hstep
    obtain ⟨t, les, hlog, hs, -⟩ := onLogin_eq_some hlogin
    rw [hs]
    exact (loginStep_delivered hlog).1
  | reset =>
    obtain ⟨otp, res, hreset, hs, -⟩ := onReset_eq_some hstep
    rw [hs]
    exact (resetStep_delivered hreset).1

/-- Creating a challenge changes no other record. -/
theorem keeps_of_creates {key : String} (hcreates : l.creates? = some (flow, challengeId))
    (hnext : (appSystem rt svc settings).next c l = some c')
    (hne : key ≠ storeKey svc flow challengeId) :
    c.state.otp.stores.Keeps svc key c.state.otp.now c'.state.otp.stores := by
  obtain ⟨es, hstep, -⟩ := (appSystem rt svc settings).next_eq_some.mp hnext
  change appStep rt svc settings c.state l = some (c'.state, es) at hstep
  cases l with
  | startLogin tables email password id code readAt =>
    obtain ⟨rfl, rfl⟩ := Prod.mk.inj (Option.some.inj hcreates)
    obtain ⟨hs, -⟩ | ⟨identity, les, -, hlog, -⟩ := appStep_startLogin hstep
    · rw [hs]
      exact .refl
    · obtain ⟨t, les, hstart, hs, -⟩ := onLogin_eq_some hlog
      rw [hs]
      exact keeps_create hne (loginStep_start hstart).2.1
  | startReset tables email accountType id code readAt =>
    obtain ⟨rfl, rfl⟩ := Prod.mk.inj (Option.some.inj hcreates)
    obtain ⟨hs, -⟩ | ⟨identity, res, -, hon, -⟩ := appStep_startReset hstep
    · rw [hs]
      exact .refl
    · obtain ⟨otp, res, hstart, hs, -⟩ := onReset_eq_some hon
      rw [hs]
      exact keeps_create hne (resetStep_start hstart).2.1
  | _ => exact absurd hcreates (by simp [AppLabel.creates?])

/-- **What a failed delivery leaves.** In either flow, and whatever other requests do meanwhile:
    creating the challenge changes no other record, and when its delivery has failed the challenge
    is gone and every other record is as it was, exactly if the exception was an `OSError` or
    nothing was left of the challenge before. -/
theorem failed_delivery_leaves_nothing_iff {recipient : String} {rest : Except SendError Unit}
    {e : SendError} (hfail : sendEmail recipient rest = .error e)
    (hnext : (appSystem rt svc settings).next c
      (deliveryLabel flow challengeId (.ofSend (sendEmail recipient rest))) = some c') :
    (∀ l d d', l.creates? = some (flow, challengeId) →
      (appSystem rt svc settings).next d l = some d' → ∀ key, key ≠ storeKey svc flow challengeId →
      d.state.otp.stores.Keeps svc key d.state.otp.now d'.state.otp.stores) ∧
    (LeavesNothing svc flow challengeId c.state.otp c'.state.otp ↔
      e.isOSError = true ∨
        c.state.otp.stores.find? svc c.state.otp.now (storeKey svc flow challengeId) = none) := by
  refine ⟨fun l d d' hcreates hcreate key hne => keeps_of_creates hcreates hcreate hne, ?_⟩
  rw [delivered_leavesNothing_iff (next_delivery hnext), hfail]
  refine or_congr_left ?_
  show (if e.isOSError = true then Delivery.smtpFailure else .otherFailure) = .smtpFailure ↔ _
  split_ifs with hcaught
  · exact iff_of_true rfl hcaught
  · exact iff_of_false (by simp) hcaught

/-- `start_native_login` for the identity with that e-mail. -/
def sampleStart (email : String) : List AppLabel :=
  [.startLogin ⟨[⟨7, email, "bcrypt:Senha@123", none, none, none⟩], [], []⟩ email "Senha@123"
    sampleToken "123456" sampleNow]

/-- The record of the sample challenge. -/
def sampleChallenge (c : Config AppState AppEvent) : Option Record :=
  c.state.otp.stores.find? (OtpService.sample true) c.state.otp.now
    (storeKey (OtpService.sample true) .login sampleToken)

/-- The server refuses the message: the challenge is gone. -/
theorem failed_delivery_leaves_nothing_sample :
    ∃ c c', (appSystem Runtime.sample (OtpService.sample true) (Settings.sample none)).run
        (Config.start (AppState.init sampleNow)) (sampleStart "ana@ouros.app") = some c ∧
      (appSystem Runtime.sample (OtpService.sample true) (Settings.sample none)).next c
        (deliveryLabel .login sampleToken
          (.ofSend (sendEmail "ana@ouros.app" (.error .smtpException)))) = some c' ∧
      (sampleChallenge c).isSome = true ∧
      LeavesNothing (OtpService.sample true) .login sampleToken c.state.otp c'.state.otp := by
  obtain ⟨c, hc, hrest⟩ := Option.bind_eq_some_iff.mp
    (by decide +kernel :
      ((appSystem Runtime.sample (OtpService.sample true) (Settings.sample none)).run
        (Config.start (AppState.init sampleNow)) (sampleStart "ana@ouros.app")).bind
          (fun c => ((appSystem Runtime.sample (OtpService.sample true) (Settings.sample none)).next
              c (deliveryLabel .login sampleToken
                (.ofSend (sendEmail "ana@ouros.app" (.error .smtpException))))).map
            fun _ => (sampleChallenge c).isSome) = some true)
  obtain ⟨c', hnext, hsaved⟩ := Option.map_eq_some_iff.mp hrest
  exact ⟨c, c', hc, hnext, hsaved, (failed_delivery_leaves_nothing_iff
    (by decide +kernel : sendEmail "ana@ouros.app" (.error .smtpException) = .error .smtpException)
    hnext).2.mpr (Or.inl rfl)⟩

/-- **A challenge left behind.**  The validator lets a line break inside an e-mail through, and an
    identity with such an e-mail gets a challenge; the message cannot be addressed, `start` raises
    the `ValueError` on, and the challenge stays. -/
theorem undeliverable_challenge_stays :
    ∃ c c', (appSystem Runtime.sample (OtpService.sample true) (Settings.sample none)).run
        (Config.start (AppState.init sampleNow)) (sampleStart "ana\nb@ouros.app") = some c ∧
      (appSystem Runtime.sample (OtpService.sample true) (Settings.sample none)).next c
        (deliveryLabel .login sampleToken (.ofSend (sendEmail "ana\nb@ouros.app" (.ok ())))) =
          some c' ∧
      emailField Runtime.sample "ana\nb@ouros.app" = some "ana\nb@ouros.app" ∧
      sendEmail "ana\nb@ouros.app" (.ok ()) = .error .valueError ∧
      sampleChallenge c' = sampleChallenge c ∧ (sampleChallenge c).isSome = true ∧
      ¬ LeavesNothing (OtpService.sample true) .login sampleToken c.state.otp c'.state.otp := by
  obtain ⟨c, hc, hrest⟩ := Option.bind_eq_some_iff.mp
    (by decide +kernel :
      ((appSystem Runtime.sample (OtpService.sample true) (Settings.sample none)).run
        (Config.start (AppState.init sampleNow)) (sampleStart "ana\nb@ouros.app")).bind
          (fun c => ((appSystem Runtime.sample (OtpService.sample true) (Settings.sample none)).next
              c (deliveryLabel .login sampleToken
                (.ofSend (sendEmail "ana\nb@ouros.app" (.ok ()))))).map
            fun c' => (decide (sampleChallenge c' = sampleChallenge c), (sampleChallenge c').isSome,
              decide (c'.state.otp.now = c.state.otp.now))) = some (true, true, true))
  obtain ⟨c', hnext, hout⟩ := Option.map_eq_some_iff.mp hrest
  simp only [Prod.mk.injEq, decide_eq_true_eq] at hout
  obtain ⟨hsame, hstays, hnow⟩ := hout
  refine ⟨c, c', hc, hnext, by decide +kernel, by decide +kernel, hsame, hsame ▸ hstays,
    fun hnothing => ?_⟩
  have hgone : sampleChallenge c' = none := by
    unfold sampleChallenge
    rw [hnow]
    exact hnothing.gone c.state.otp.now le_rfl
  rw [hgone] at hstays
  exact absurd hstays (by decide)

end OurosAuth
