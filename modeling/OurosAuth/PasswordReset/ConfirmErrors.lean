import OurosAuth.PasswordReset.Reservations

namespace OurosAuth

open KeyValue Traced

/-!
# What a confirmation answers when a dependency fails

`confirm_reset` as one function of its request and of what its dependencies do: the token decoder,
the reservation store at the connection, the `SET` and the `DEL`, and the HTTP client at the `POST`
and at the text of the answer; and what either raises when it is closed.

* `confirmReset` — every path through the function, the release after a failure included;
* `confirmReset_of_run` — a call of the confirm system that runs alone ends as it says;
* `confirm_errors_reported_iff` — when the caller sees one of the errors of the service.
-/

/-! ### What the dependencies do -/

/-- The subclasses of `httpx.TransportError`. -/
inductive TransportError
  | connectTimeout
  | readTimeout
  | writeTimeout
  | poolTimeout
  | connectError
  | readError
  | writeError
  | closeError
  | localProtocolError
  | remoteProtocolError
  | unsupportedProtocol
  | proxyError
  deriving DecidableEq

/-- Is it an `httpx.TimeoutException`? -/
def TransportError.isTimeout : TransportError → Bool
  | .connectTimeout => true
  | .readTimeout => true
  | .writeTimeout => true
  | .poolTimeout => true
  | _ => false

/-- Is it an `httpx.NetworkError`? -/
def TransportError.isNetwork : TransportError → Bool
  | .connectError => true
  | .readError => true
  | .writeError => true
  | .closeError => true
  | _ => false

/-- An exception for which the application has no handler. -/
inductive Unhandled
  | transport (e : TransportError)
  /-- an exception of `httpx` that is no `TransportError`: a `DecodingError`, an `InvalidURL` -/
  | httpx
  | python (e : PyError)
  deriving DecidableEq

/-- `except (httpx.TimeoutException, httpx.NetworkError)` -/
def Unhandled.isCaught : Unhandled → Bool
  | .transport e => e.isTimeout || e.isNetwork
  | _ => false

/-- How `client.post` ends. -/
inductive PostReply
  /-- an answer, and what `response.text` raises if it is read -/
  | response (code : ℕ) (text : Option PyError)
  /-- an exception, of `AsyncClient` or of its `post`, and the status Spring answered with if it
      did: the answer may be lost, or its body break off or have no decoding.  The password may have
      no UTF-8 encoding, as one with a lone surrogate has not. -/
  | raised (answered : Option ℕ) (e : Unhandled)
  deriving DecidableEq

/-- The status Spring answered with. -/
def PostReply.answered : PostReply → Option ℕ
  | .response code _ => some code
  | .raised answered _ => answered

/-- What the HTTP client does in a call: how its `post` ends, and what its `aclose` raises. -/
structure SpringReply where
  post : PostReply
  close : Option Unhandled
  deriving DecidableEq

/-- What the clients of Redis raise. -/
inductive StoreFailure
  | redisError
  | osError
  deriving DecidableEq

/-- How an operation on the reservation store ends; the process-local map always answers.  A client
    that fails is closed, and its `aclose` may raise as well. -/
inductive StoreReply (α : Type)
  /-- the `PING` of a new connection fails -/
  | unreachable (e : StoreFailure) (close : Option PyError)
  /-- the command itself fails -/
  | failed (e : StoreFailure) (close : Option PyError)
  | answered (a : α)
  deriving DecidableEq

/-- What leaves `confirm_reset`. -/
inductive ConfirmRaised
  | api (e : ApiError)
  | unhandled (e : Unhandled)
  deriving DecidableEq

/-- An exception of the checks, as it leaves the call. -/
def CallRaised.toConfirm : CallRaised → ConfirmRaised
  | .api e => .api e
  | .python e => .unhandled (.python e)

/-! ### The function -/

/-- A call comes before `raise e`: closing a client, or quoting an answer in a log line.  What it
    raises takes the place of `e`. -/
def raiseAfter (call : Option PyError) (e : ApiError) : Except ConfirmRaised Unit :=
  .error (call.elim (.api e) fun e' => .unhandled (.python e'))

/-- `_reserve_token`; the answer is whether the token is now reserved for the caller. -/
def reserveToken : StoreReply Bool → Except ConfirmRaised Unit
  | .unreachable _ close => raiseAfter close (.passwordResetUnavailable "Redis is unavailable")
  | .failed _ close => raiseAfter close (.passwordResetUnavailable "Redis reservation failed")
  | .answered false =>
    .error (.api (.passwordResetTokenInvalid "Token já utilizado ou inválido."))
  | .answered true => .ok ()

/-- `_release_token` -/
def releaseToken : StoreReply Unit → Except ConfirmRaised Unit
  | .unreachable _ close => raiseAfter close (.passwordResetUnavailable "Redis is unavailable")
  | .failed _ close =>
    raiseAfter close (.passwordResetUnavailable "Redis reservation release failed")
  | .answered () => .ok ()

/-- `PasswordResetUnavailable` of the Spring call -/
def springUnavailable : ApiError :=
  .passwordResetUnavailable "Serviço de redefinição de senha temporariamente indisponível."

/-- What the status of an answer makes of the call. -/
def springStatus (code : ℕ) (text : Option PyError) : Except ConfirmRaised Unit :=
  if code = 200 then .ok ()
  else if code = 404 then
    .error (.api (.passwordResetTokenInvalid "Usuário não encontrado para redefinição de senha."))
  else if code = 400 then
    raiseAfter text (.passwordResetTokenInvalid "Dados inválidos para redefinição de senha.")
  else if code = 401 then
    .error (.api (.passwordResetUnavailable "Erro de autenticação interna entre serviços."))
  else raiseAfter text springUnavailable

/-- `_call_spring_internal_reset` -/
def callSpringInternalReset (reply : SpringReply) : Except ConfirmRaised Unit :=
  match reply.close with
  -- raised in the `finally` clause, in place of whatever came before
  | some e => .error (.unhandled e)
  | none =>
    match reply.post with
    | .raised _ e => .error (if e.isCaught = true then .api springUnavailable else .unhandled e)
    | .response code text => springStatus code text

/-- `confirm_reset` -/
def confirmReset (rt : Runtime) (now : Instant) (token : ResetToken) (newPassword : String)
    (reserve : StoreReply Bool) (spring : SpringReply) (release : StoreReply Unit) :
    Except ConfirmRaised String :=
  match confirmCheck rt now token newPassword with
  | .error e => .error e.toConfirm
  | .ok _ =>
    match reserveToken reserve with
    | .error e => .error e
    | .ok () =>
      match callSpringInternalReset spring with
      | .ok () => .ok "Senha redefinida com sucesso."
      | .error e =>
        -- `except Exception: … raise`: an error of the release takes the place of the first one
        match releaseToken release with
        | .error e' => .error e'
        | .ok () => .error e

variable {rt : Runtime} {now : Instant} {token : ResetToken} {newPassword : String}
  {spring : SpringReply}

/-! ### Which errors they are -/

/-- An error of `confirm_reset`, with the status the application gives it. -/
inductive ConfirmError : ApiError → ℕ → Prop
  | tokenInvalid (message : String) : ConfirmError (.passwordResetTokenInvalid message) 400
  | unavailable (message : String) : ConfirmError (.passwordResetUnavailable message) 503

/-- The application's handlers give these errors these statuses. -/
theorem ConfirmError.response {e : ApiError} {status : ℕ} (h : ConfirmError e status) :
    e.response.status = status := by
  cases h <;> rfl

/-- The decoder raises an exception that is neither a `PyJWTError` nor a `ValueError`. -/
def ResetToken.Uncaught (token : ResetToken) : Prop :=
  ∃ e : PyError, token = .raises e ∧ e.isValueError = false

/-- What `tokenInvalid` raises. -/
theorem eq_of_tokenInvalid {α : Type} {message : String} {e : CallRaised}
    (h : (tokenInvalid message : Except CallRaised α) = .error e) :
    e = .api (.passwordResetTokenInvalid message) := (Except.error.inj h).symm

/-- Reading the token refuses it, or lets an exception of the decoder out. -/
theorem verifyResetToken_error {e : CallRaised} (h : verifyResetToken now token = .error e) :
    (token.Uncaught ∧ ∃ e', e = .python e') ∨
      ¬ token.Uncaught ∧ ∃ message, e = .api (.passwordResetTokenInvalid message) := by
  unfold verifyResetToken at h
  cases token with
  | refused => exact Or.inr ⟨by simp [ResetToken.Uncaught], _, eq_of_tokenInvalid h⟩
  | raises e' =>
    by_cases hvalue : e'.isValueError = true
    · simp only [if_pos hvalue] at h
      exact Or.inr ⟨by simp [ResetToken.Uncaught, hvalue], _, eq_of_tokenInvalid h⟩
    · simp only [if_neg hvalue] at h
      exact Or.inl ⟨⟨e', rfl, Bool.eq_false_iff.mpr hvalue⟩, e', (Except.error.inj h).symm⟩
  | signed claims =>
    refine Or.inr ⟨by simp [ResetToken.Uncaught], ?_⟩
    dsimp only at h
    split_ifs at h
    · exact ⟨_, eq_of_tokenInvalid h⟩
    · exact ⟨_, eq_of_tokenInvalid h⟩

/-- So do all the checks. -/
theorem confirmCheck_error {e : CallRaised} (h : confirmCheck rt now token newPassword = .error e) :
    (token.Uncaught ∧ ∃ e', e = .python e') ∨
      ¬ token.Uncaught ∧ ∃ message, e = .api (.passwordResetTokenInvalid message) := by
  unfold confirmCheck at h
  cases hverify : verifyResetToken now token with
  | error e' =>
    rw [hverify] at h
    obtain rfl := Except.error.inj h
    exact verifyResetToken_error hverify
  | ok claims =>
    have hdecoded : ¬ token.Uncaught := by
      rintro ⟨e', rfl, hvalue⟩
      simp [verifyResetToken, hvalue] at hverify
    refine Or.inr ⟨hdecoded, ?_⟩
    simp only [hverify] at h
    split at h
    · exact ⟨_, eq_of_tokenInvalid h⟩
    · split at h
      · exact ⟨_, eq_of_tokenInvalid h⟩
      · split at h
        · exact absurd h (by simp)
        · exact ⟨_, eq_of_tokenInvalid h⟩

/-- After that call its exception or the error is raised. -/
theorem raiseAfter_cases (call : Option PyError) (e : ApiError) :
    (call = none ∧ raiseAfter call e = .error (.api e)) ∨
      ∃ e', call = some e' ∧ raiseAfter call e = .error (.unhandled (.python e')) := by
  cases call with
  | none => exact Or.inl ⟨rfl, rfl⟩
  | some e' => exact Or.inr ⟨e', rfl, rfl⟩

/-- The store fails, and so does the closing of its client. -/
def StoreReply.Uncaught {α : Type} (reply : StoreReply α) : Prop :=
  ∃ e e', reply = .unreachable e (some e') ∨ reply = .failed e (some e')

/-- How a call ends that a dependency may spoil: it returns, raises an error of the service, or lets
    an exception out. -/
inductive CallEnds (returns uncaught : Prop) : Except ConfirmRaised Unit → Prop
  | returned (h : returns) (hcaught : ¬ uncaught) : CallEnds returns uncaught (.ok ())
  | reported (h : ¬ returns) (hcaught : ¬ uncaught) {e : ApiError} {status : ℕ}
      (he : ConfirmError e status) : CallEnds returns uncaught (.error (.api e))
  | escaped (h : ¬ returns) (huncaught : uncaught) (e : Unhandled) :
      CallEnds returns uncaught (.error (.unhandled e))

/-- A failing store. -/
theorem CallEnds.raiseAfter {returns uncaught : Prop} {close : Option PyError} {e : ApiError}
    {status : ℕ} (h : ¬ returns) (he : ConfirmError e status)
    (hclose : uncaught ↔ close ≠ none) :
    CallEnds returns uncaught (OurosAuth.raiseAfter close e) := by
  rcases raiseAfter_cases close e with ⟨rfl, hraised⟩ | ⟨e', rfl, hraised⟩
  · rw [hraised]
    exact .reported h (by simp [hclose]) he
  · rw [hraised]
    exact .escaped h (by simp [hclose]) _

/-- The reservation returns when it is fresh. -/
theorem reserveToken_ends (reserve : StoreReply Bool) :
    CallEnds (reserve = .answered true) reserve.Uncaught (reserveToken reserve) := by
  cases reserve with
  | unreachable e close =>
    exact .raiseAfter (by simp) (.unavailable _) (by cases close <;> simp [StoreReply.Uncaught])
  | failed e close =>
    exact .raiseAfter (by simp) (.unavailable _) (by cases close <;> simp [StoreReply.Uncaught])
  | answered fresh =>
    cases fresh with
    | false => exact .reported (by simp) (by simp [StoreReply.Uncaught]) (.tokenInvalid _)
    | true => exact .returned rfl (by simp [StoreReply.Uncaught])

/-- The release returns when it is answered. -/
theorem releaseToken_ends (release : StoreReply Unit) :
    CallEnds (release = .answered ()) release.Uncaught (releaseToken release) := by
  cases release with
  | unreachable e close =>
    exact .raiseAfter (by simp) (.unavailable _) (by cases close <;> simp [StoreReply.Uncaught])
  | failed e close =>
    exact .raiseAfter (by simp) (.unavailable _) (by cases close <;> simp [StoreReply.Uncaught])
  | answered _ => exact .returned rfl (by simp [StoreReply.Uncaught])

/-- The Spring call returns: a 200 is read to its end, and the client closes. -/
def SpringReply.Returns (reply : SpringReply) : Prop :=
  reply.close = none ∧ ∃ text, reply.post = .response 200 text

/-- The Spring call ends in an exception that nothing catches: of the client, when it closes or in
    its `post`, or of the text of an answer that a log line quotes. -/
def SpringReply.Uncaught (reply : SpringReply) : Prop :=
  reply.close ≠ none ∨
    (∃ answered e, reply.post = .raised answered e ∧ e.isCaught = false) ∨
    ∃ code e, reply.post = .response code (some e) ∧ code ∉ [200, 401, 404]

/-- An answer of status 200 returns, and every other raises: an error of the service, or an
    exception of a text that is quoted. -/
theorem springStatus_ends (code : ℕ) (text : Option PyError) :
    CallEnds (code = 200) (text ≠ none ∧ code ∉ [200, 401, 404]) (springStatus code text) := by
  unfold springStatus
  split_ifs with h200 h404 h400 h401
  · exact .returned h200 (by simp [h200])
  · exact .reported h200 (by simp [h404]) (.tokenInvalid _)
  · exact .raiseAfter h200 (.tokenInvalid _) (by simp [h400])
  · exact .reported h200 (by simp [h401]) (.unavailable _)
  · exact .raiseAfter h200 (.unavailable _) (by simp [h200, h401, h404])

/-- The call returns on a 200 that is read to its end, raises an error of the service, or lets an
    exception out. -/
theorem callSpringInternalReset_ends (reply : SpringReply) :
    CallEnds reply.Returns reply.Uncaught (callSpringInternalReset reply) := by
  obtain ⟨post, close⟩ := reply
  unfold callSpringInternalReset
  cases close with
  | some e => exact .escaped (by simp [SpringReply.Returns]) (Or.inl (by simp)) e
  | none =>
    cases post with
    | raised answered e =>
      have hno : ¬ SpringReply.Returns ⟨.raised answered e, none⟩ := by simp [SpringReply.Returns]
      by_cases hcaught : e.isCaught = true
      · simp only [if_pos hcaught]
        exact .reported hno (by simp [SpringReply.Uncaught, hcaught]) (.unavailable _)
      · simp only [if_neg hcaught]
        exact .escaped hno (Or.inr (Or.inl ⟨answered, e, rfl, by simpa using hcaught⟩)) e
    | response code text =>
      have hreturns : SpringReply.Returns ⟨.response code text, none⟩ ↔ code = 200 := by
        simp [SpringReply.Returns]
      have huncaught : SpringReply.Uncaught ⟨.response code text, none⟩ ↔
          text ≠ none ∧ code ∉ [200, 401, 404] := by
        cases text <;> simp [SpringReply.Uncaught]
      rw [hreturns, huncaught]
      exact springStatus_ends code text

/-! ### The calls of the confirm system -/

/-- The error a call of the confirm system ends with. -/
def ConfirmRaised.error? : ConfirmRaised → Option ApiError
  | .api e => some e
  | .unhandled _ => none

theorem CallRaised.error?_toConfirm (e : CallRaised) : e.toConfirm.error? = e.error? := by
  cases e <;> rfl

/-- How a call of the confirm system with this result ends. -/
def ConfirmCall.ofResult : Except ConfirmRaised String → ConfirmCall
  | .ok _ => .confirmed
  | .error e => .raised e.error?

/-- The reply as the confirm system sees it. -/
def SpringReply.outcome (reply : SpringReply) : SpringOutcome :=
  match reply.close, reply.post with
  | some _, post => if post.answered = some 200 then .okThenRaised false else .otherException
  | none, .raised answered e =>
    if answered = some 200 then .okThenRaised e.isCaught
    else if e.isCaught = true then .networkError
    else .otherException
  | none, .response code text =>
    if text ≠ none ∧ code ∉ [200, 401, 404] then .otherException else .status code

/-- An answer whose text is not read, or is read without an exception. -/
theorem failure_status {code : ℕ} {text : Option PyError}
    (hread : text = none ∨ code ∈ [200, 401, 404]) :
    (SpringOutcome.status code).failure =
      match springStatus code text with
      | .ok () => none
      | .error e => some e.error? := by
  have hlog : ∀ e : ApiError, code ∉ [200, 401, 404] →
      raiseAfter text e = .error (.api e) := by
    intro e hcode
    rw [hread.resolve_right hcode]
    rfl
  unfold springStatus SpringOutcome.failure
  split_ifs with h200 h404 h400 h401
  · rw [h200]
    rfl
  · rw [h404]
    rfl
  · rw [hlog _ (by simp [h400]), h400]
    rfl
  · rw [h401]
    rfl
  · rw [hlog _ (by simp [h200, h401, h404])]
    split <;> first | rfl | simp_all

/-- The confirm system answers a reply as `_call_spring_internal_reset` does. -/
theorem failure_outcome (reply : SpringReply) :
    reply.outcome.failure =
      match callSpringInternalReset reply with
      | .ok () => none
      | .error e => some e.error? := by
  obtain ⟨post, close⟩ := reply
  unfold SpringReply.outcome callSpringInternalReset
  cases close with
  | some e =>
    dsimp only
    split_ifs <;> rfl
  | none =>
    cases post with
    | raised answered e =>
      dsimp only
      cases hcaught : e.isCaught <;> split_ifs <;> first | rfl | simp_all
    | response code text =>
      dsimp only
      split_ifs with hquoted
      · -- the exception of the text takes the place of the error
        have hends := springStatus_ends code text
        generalize springStatus code text = result at hends ⊢
        cases hends with
        | returned h hcaught => exact absurd hquoted hcaught
        | reported h hcaught he => exact absurd hquoted hcaught
        | escaped h huncaught e => rfl
      · rw [not_and_or] at hquoted
        exact failure_status (hquoted.imp not_not.mp not_not.mp)

/-- Spring's 200 is acknowledged in the confirm system. -/
theorem acknowledges_outcome (reply : SpringReply) :
    reply.outcome.acknowledges = true ↔ reply.post.answered = some 200 := by
  obtain ⟨post, close⟩ := reply
  unfold SpringReply.outcome
  cases close with
  | some e =>
    dsimp only
    split_ifs with h <;> simp [SpringOutcome.acknowledges, h]
  | none =>
    cases post with
    | raised answered e =>
      dsimp only
      split_ifs with h <;> simp_all [SpringOutcome.acknowledges, PostReply.answered]
    | response code text =>
      dsimp only
      split_ifs with h
      · simp only [SpringOutcome.acknowledges, PostReply.answered, Bool.false_eq_true,
          Option.some.injEq, false_iff]
        rintro rfl
        exact h.2 (by simp)
      · simp [SpringOutcome.acknowledges, PostReply.answered]

variable {usesRedis : Bool} {tokenTtlSeconds : ℕ}

/-- A run of one step and more. -/
theorem run_of_step {s s' : ConfirmState} {h es : List ConfirmEvent} {l : ConfirmLabel}
    {ls : List ConfirmLabel} {c : Config ConfirmState ConfirmEvent}
    (hstep : confirmStep rt usesRedis tokenTtlSeconds s l = some (s', es))
    (hrun : (confirmSystem rt usesRedis tokenTtlSeconds).run ⟨s', es ++ h⟩ ls = some c) :
    (confirmSystem rt usesRedis tokenTtlSeconds).run ⟨s, h⟩ (l :: ls) = some c := by
  have hnext : (confirmSystem rt usesRedis tokenTtlSeconds).next ⟨s, h⟩ l = some ⟨s', es ++ h⟩ :=
    (confirmSystem rt usesRedis tokenTtlSeconds).next_of_step hstep
  rw [System.run_cons, hnext, Option.bind_some]
  exact hrun

/-- Only the answer of Spring is an acknowledgement. -/
theorem acknowledged_mem_iff {i : ℕ} {claims : Claims} {request : SpringRequest}
    {e : ConfirmEvent} (he : ∀ cl, e ≠ .acknowledged i cl) :
    (∃ cl, .acknowledged i cl ∈
        (e :: if spring.outcome.acknowledges then [.acknowledged i claims] else []) ++
          [.posted i claims request]) ↔
      spring.post.answered = some 200 := by
  rw [← acknowledges_outcome]
  constructor
  · rintro ⟨cl, hmem⟩
    by_contra hnot
    simp only [if_neg hnot, List.cons_append, List.nil_append, List.mem_cons, List.not_mem_nil,
      or_false] at hmem
    exact hmem.elim (fun h => he cl h.symm) (by simp)
  · intro hack
    exact ⟨claims, by simp [hack]⟩

/-- **A call that runs alone ends as `confirmReset` says**, with a store that answers; and it is
    acknowledged if its `POST` was sent and Spring answered 200. -/
theorem confirmReset_of_run {s : ConfirmState} {h : List ConfirmEvent} {i : ℕ} {reserved : Bool}
    (hidle : s.calls i = .idle)
    (hsigned : ∀ claims ∈ token.claims?, claims ∈ s.minted ∨ claims.purpose ≠ "password_reset")
    (hreserved : ∀ claims, confirmCheck rt s.now token newPassword = .ok claims →
      (s.store.reserve usesRedis s.now s.now claims.jti (max (claims.exp - s.now.whole) 1)).1 =
        reserved) :
    ∃ ls c es, (∀ l ∈ ls, ConfirmLabel.call? l = some i) ∧
      (confirmSystem rt usesRedis tokenTtlSeconds).run ⟨s, h⟩ ls = some c ∧
      c.state.calls i =
        .ofResult (confirmReset rt s.now token newPassword (.answered reserved) spring
          (.answered ())) ∧
      c.history = es ++ h ∧
      ((∃ claims, .acknowledged i claims ∈ es) ↔
        (∃ claims, confirmCheck rt s.now token newPassword = .ok claims) ∧ reserved = true ∧
          spring.post.answered = some 200) := by
  unfold confirmReset
  -- the run stops at the first step that ends the call
  cases hcheck : confirmCheck rt s.now token newPassword with
  | error e =>
    have hsubmit : confirmStep rt usesRedis tokenTtlSeconds s (.submit i token newPassword) =
        some (s.setCall i (.raised e.error?), []) := by
      simp only [confirmStep, hidle, hcheck, if_pos hsigned]
    refine ⟨[_], _, [], by simp [ConfirmLabel.call?], run_of_step hsubmit rfl, ?_, rfl, by simp⟩
    rw [ConfirmCall.ofResult, e.error?_toConfirm]
    exact ConfirmState.setCall_self ..
  | ok claims =>
    let s₁ := s.setCall i (.checked claims newPassword s.now)
    have hsubmit : confirmStep rt usesRedis tokenTtlSeconds s (.submit i token newPassword) =
        some (s₁, []) := by
      simp only [confirmStep, hidle, hcheck, if_pos hsigned, s₁]
    let r := s.store.reserve usesRedis s.now s.now claims.jti (max (claims.exp - s.now.whole) 1)
    let s₂ := { s₁ with store := r.2 }.setCall i
      (if reserved then .reserved claims newPassword
        else .raised (some (.passwordResetTokenInvalid "Token já utilizado ou inválido.")))
    have hreserve : confirmStep rt usesRedis tokenTtlSeconds s₁ (.reserve i s.now s.now) =
        some (s₂, []) := by
      have hcall : s₁.calls i = .checked claims newPassword s.now := ConfirmState.setCall_self ..
      simp only [confirmStep, hcall, s₂, ← hreserved claims hcheck]
      exact if_pos ⟨le_rfl, le_rfl, le_rfl⟩
    cases reserved with
    | false =>
      exact ⟨[_, _], _, [], by simp [ConfirmLabel.call?],
        run_of_step hsubmit (run_of_step hreserve rfl), ConfirmState.setCall_self .., rfl, by simp⟩
    | true =>
      let s₃ := s₂.setCall i (.posting claims)
      have hpost : confirmStep rt usesRedis tokenTtlSeconds s₂ (.post i) =
          some (s₃, [.posted i claims ⟨claims.accountType, claims.databaseId, newPassword⟩]) := by
        have hcall : s₂.calls i = .reserved claims newPassword := ConfirmState.setCall_self ..
        simp only [confirmStep, hcall, s₃]
      have hposting : s₃.calls i = .posting claims := ConfirmState.setCall_self ..
      have hfailure := failure_outcome spring
      let answered : List ConfirmEvent :=
        if spring.outcome.acknowledges then [.acknowledged i claims] else []
      simp only [reserveToken, releaseToken]
      cases hcall : callSpringInternalReset spring with
      | ok _ =>
        rw [hcall] at hfailure
        have hrespond : confirmStep rt usesRedis tokenTtlSeconds s₃ (.respond i spring.outcome) =
            some (s₃.setCall i .confirmed, .returned i claims :: answered) := by
          simp only [confirmStep, hposting, hfailure, answered]
        refine ⟨[_, _, _, _], _, _, by simp [ConfirmLabel.call?],
          run_of_step hsubmit (run_of_step hreserve (run_of_step hpost (run_of_step hrespond rfl))),
          ConfirmState.setCall_self .., (List.append_assoc _ [_] h).symm, ?_⟩
        rw [acknowledged_mem_iff (by simp)]
        simp
      | error e =>
        rw [hcall] at hfailure
        let s₄ := s₃.setCall i (.failed claims e.error?)
        have hrespond : confirmStep rt usesRedis tokenTtlSeconds s₃ (.respond i spring.outcome) =
            some (s₄, .failed i claims :: answered) := by
          simp only [confirmStep, hposting, hfailure, s₄, answered]
        have hfailed : s₄.calls i = .failed claims e.error? := ConfirmState.setCall_self ..
        have hrelease : confirmStep rt usesRedis tokenTtlSeconds s₄ (.release i) =
            some ({ s₄ with store := s₄.store.release usesRedis claims.jti }.setCall i
              (.raised e.error?), []) := by
          simp only [confirmStep, hfailed]
        refine ⟨[_, _, _, _, _], _, _, by simp [ConfirmLabel.call?],
          run_of_step hsubmit (run_of_step hreserve (run_of_step hpost
            (run_of_step hrespond (run_of_step hrelease rfl)))), ConfirmState.setCall_self ..,
          (List.append_assoc _ [_] h).symm, ?_⟩
        rw [acknowledged_mem_iff (by simp)]
        simp

/-! ### Every outcome is reported -/

/-- Success is reported only for a 200, and otherwise an error of the service, which the application
    maps to 400 or 503. -/
def Reported (spring : SpringReply) : Except ConfirmRaised String → Prop
  | .ok _ => spring.post.answered = some 200
  | .error (.api e) => ConfirmError e e.response.status
  | .error (.unhandled _) => False

/-- What has to happen for an exception to get out: the decoder raises what nothing catches, or the
    checks pass, and then the client of the store fails to close after the reservation or the
    release has failed, or the Spring call raises what nothing catches and is released from. -/
def Escapes (rt : Runtime) (now : Instant) (token : ResetToken) (newPassword : String)
    (reserve : StoreReply Bool) (spring : SpringReply) (release : StoreReply Unit) : Prop :=
  token.Uncaught ∨
    (∃ claims, confirmCheck rt now token newPassword = .ok claims) ∧
      (reserve.Uncaught ∨
        reserve = .answered true ∧ ¬ spring.Returns ∧
          (release.Uncaught ∨ spring.Uncaught ∧ release = .answered ()))

theorem ConfirmError.reported {e : ApiError} {status : ℕ} (h : ConfirmError e status) :
    ConfirmError e e.response.status := h.response ▸ h

/-- **Errors of a confirmation.** Whatever the request and whatever its dependencies do, the caller
    gets a success only for a 200, or one of the two errors, exactly unless an exception that
    nothing catches comes from the decoder, from closing the client of the store, or from the Spring
    call. -/
theorem confirm_errors_reported_iff (rt : Runtime) (now : Instant) (token : ResetToken)
    (newPassword : String) (reserve : StoreReply Bool) (spring : SpringReply)
    (release : StoreReply Unit) :
    Reported spring (confirmReset rt now token newPassword reserve spring release) ↔
      ¬ Escapes rt now token newPassword reserve spring release := by
  unfold confirmReset Escapes
  cases hcheck : confirmCheck rt now token newPassword with
  | error e =>
    rcases confirmCheck_error hcheck with ⟨huncaught, e', rfl⟩ | ⟨hcaught, message, rfl⟩
    · exact iff_of_false id (not_not.mpr (Or.inl huncaught))
    · exact iff_of_true (ConfirmError.tokenInvalid message).reported (by simp [hcaught])
  | ok claims =>
    have htoken : ¬ token.Uncaught := by
      rintro ⟨e, rfl, -⟩
      exact absurd (confirmCheck_ok hcheck).1 (by simp)
    have hchecked : ∃ claims', (.ok claims : Except CallRaised Claims) = .ok claims' := ⟨_, rfl⟩
    have hreserve := reserveToken_ends reserve
    have hspring := callSpringInternalReset_ends spring
    have hrelease := releaseToken_ends release
    generalize reserveToken reserve = reserved at hreserve ⊢
    generalize callSpringInternalReset spring = called at hspring ⊢
    generalize releaseToken release = released at hrelease ⊢
    simp only [htoken, hchecked, true_and, false_or]
    cases hreserve with
    | escaped h huncaught e => exact iff_of_false id (not_not.mpr (Or.inl huncaught))
    | reported h hcaught he => exact iff_of_true he.reported (by simp [h, hcaught])
    | returned hfresh hcaught =>
      cases hspring with
      | returned hreturns hread =>
        refine iff_of_true ?_ (by simp [hcaught, hreturns])
        obtain ⟨-, text, hpost⟩ := hreturns
        show spring.post.answered = some 200
        rw [hpost]
        rfl
      | reported hfails hread he =>
        -- a translated failure, reported unless the release replaces it
        cases hrelease with
        | returned h hkept => exact iff_of_true he.reported (by simp [hcaught, hread, hkept])
        | reported h hkept he' => exact iff_of_true he'.reported (by simp [hcaught, hread, hkept])
        | escaped h hlost e' =>
          exact iff_of_false id (not_not.mpr (Or.inr ⟨hfresh, hfails, Or.inl hlost⟩))
      | escaped hfails huncaught e =>
        -- an untranslated one, which only a failing release hides
        cases hrelease with
        | returned h hkept =>
          exact iff_of_false id (not_not.mpr (Or.inr ⟨hfresh, hfails, Or.inr ⟨huncaught, h⟩⟩))
        | reported h hkept he' => exact iff_of_true he'.reported (by simp [hcaught, h, hkept])
        | escaped h hlost e' =>
          exact iff_of_false id (not_not.mpr (Or.inr ⟨hfresh, hfails, Or.inl hlost⟩))

/-- Spring closes the connection without an answer. -/
def disconnected : SpringReply := ⟨.raised none (.transport .remoteProtocolError), none⟩

/-- **An error escapes.** The token is valid and was reserved, and the `httpx.RemoteProtocolError`
    leaves `confirm_reset`. -/
theorem protocol_error_escapes :
    confirmReset .sample sampleLate (.signed sampleClaims) "Segredo#2024" (.answered true)
        disconnected (.answered ()) = .error (.unhandled (.transport .remoteProtocolError)) ∧
      ¬ Reported disconnected (confirmReset .sample sampleLate (.signed sampleClaims)
        "Segredo#2024" (.answered true) disconnected (.answered ())) := by
  have hraised : confirmReset .sample sampleLate (.signed sampleClaims) "Segredo#2024"
      (.answered true) disconnected (.answered ()) =
        .error (.unhandled (.transport .remoteProtocolError)) := by decide +kernel
  exact ⟨hraised, by rw [hraised]; exact id⟩

end OurosAuth
