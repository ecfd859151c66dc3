import OurosAuth.Lib.Text
import OurosAuth.PasswordReset.Session

namespace OurosAuth

open Text

/-!
# An address on its way through the service

The request models check the length of the raw address and store its normal form; routes build
further models from the stored form, and answer a masked one.

* `CredentialVerificationRequest`, `TokenLoginRequest` and the other models, with `validate` for
  the constructor;
* `startNativeLogin` — `start_native_login`, with both places where a model may refuse;
* `accepted_again_iff` — when an accepted address is accepted again;
* `mask_fits_iff` — when its mask fits the responses.
-/

/-! ### The request models -/

/-- `validate_password_length` -/
def passwordField (password : String) : Bool := !(password.length = 0 || 128 < password.length)

/-- `CredentialVerificationRequest` -/
structure CredentialVerificationRequest where
  email : String
  password : String
  accountType : Option AccountType

/-- `TokenLoginRequest` -/
structure TokenLoginRequest where
  email : String
  password : String

/-- `NativeLoginVerifyRequest` -/
structure NativeLoginVerifyRequest extends TokenLoginRequest where
  challengeId : String
  code : String

/-- `PasswordResetStartRequest` -/
structure PasswordResetStartRequest where
  email : String
  accountType : Option AccountType

/-- `PasswordResetVerifyRequest` -/
structure PasswordResetVerifyRequest where
  challengeId : String
  email : String
  code : String

variable (rt : Runtime)

def CredentialVerificationRequest.validate (email password : String)
    (accountType : Option AccountType) : Option CredentialVerificationRequest :=
  match emailField rt email with
  | none => none
  | some email =>
    if passwordField password = true then some ⟨email, password, accountType⟩ else none

def TokenLoginRequest.validate (email password : String) : Option TokenLoginRequest :=
  match emailField rt email with
  | none => none
  | some email => if passwordField password = true then some ⟨email, password⟩ else none

def NativeLoginVerifyRequest.validate (email password challengeId code : String) :
    Option NativeLoginVerifyRequest :=
  match TokenLoginRequest.validate rt email password with
  | none => none
  | some login =>
    if challengeIdField challengeId = true ∧ isCodeField rt code = true then
      some ⟨login, challengeId, code⟩
    else none

def PasswordResetStartRequest.validate (email : String) (accountType : Option AccountType) :
    Option PasswordResetStartRequest :=
  match emailField rt email with
  | none => none
  | some email => some ⟨email, accountType⟩

def PasswordResetVerifyRequest.validate (challengeId email code : String) :
    Option PasswordResetVerifyRequest :=
  match emailField rt email with
  | none => none
  | some email =>
    if challengeIdField challengeId = true ∧ isCodeField rt code = true then
      some ⟨challengeId, email, code⟩
    else none

/-- `v` is the address of a request that was sent with the address `s`. -/
inductive AcceptedEmail (s : String) : String → Prop
  | tokenLogin {password : String} {request : TokenLoginRequest}
      (h : TokenLoginRequest.validate rt s password = some request) :
      AcceptedEmail s request.email
  | nativeLoginVerify {password challengeId code : String} {request : NativeLoginVerifyRequest}
      (h : NativeLoginVerifyRequest.validate rt s password challengeId code = some request) :
      AcceptedEmail s request.email
  | passwordResetStart {accountType : Option AccountType} {request : PasswordResetStartRequest}
      (h : PasswordResetStartRequest.validate rt s accountType = some request) :
      AcceptedEmail s request.email
  | passwordResetVerify {challengeId code : String} {request : PasswordResetVerifyRequest}
      (h : PasswordResetVerifyRequest.validate rt challengeId s code = some request) :
      AcceptedEmail s request.email

/-! ### The route -/

/-- `NativeLoginStartResponse` -/
structure NativeLoginStartResponse where
  challengeId : String
  expiresIn : ℕ
  maskedEmail : String
  challengeId_length : hasLength 20 256 challengeId = true
  expiresIn_pos : 0 < expiresIn
  maskedEmail_length : hasLength 3 255 maskedEmail = true

def NativeLoginStartResponse.validate (challengeId : String) (expiresIn : ℕ)
    (maskedEmail : String) : Option NativeLoginStartResponse :=
  if h : hasLength 20 256 challengeId = true ∧ 0 < expiresIn ∧ hasLength 3 255 maskedEmail = true
  then some ⟨challengeId, expiresIn, maskedEmail, h.1, h.2.1, h.2.2⟩
  else none

/-- `EmailOtpChallenge` -/
structure EmailOtpChallenge where
  challengeId : String
  expiresIn : ℕ
  maskedEmail : String

/-- What `EmailOtpService.start` returns.  `stored` is the id of the challenge once it is stored and
    its code is mailed, or the error on the way there. -/
def emailOtpStart (svc : OtpService) (stored : Except ApiError String) (email : String) :
    Except ApiError EmailOtpChallenge :=
  stored.map fun challengeId =>
    ⟨challengeId, svc.ttlSeconds, maskEmail (rt.normalizeEmail email)⟩

/-- What leaves `start_native_login`; a refused model has no handler. -/
inductive LoginStartRaised
  | api (error : ApiError)
  /-- the rebuilt request is refused, before anything is stored -/
  | requestRefused
  /-- the response is refused, after the challenge was stored and the code mailed -/
  | responseRefused

/-- `start_native_login`, once the rate limiter has let the request through. -/
def startNativeLogin (svc : OtpService) (tables : IdentityTables)
    (stored : Except ApiError String) (payload : TokenLoginRequest) :
    Except LoginStartRaised NativeLoginStartResponse :=
  match CredentialVerificationRequest.validate rt payload.email payload.password none with
  | none => .error .requestRefused
  | some credentials =>
    match verifyCredentials rt tables credentials.email credentials.password
        credentials.accountType with
    | .error e => .error (.api e)
    | .ok identity =>
      -- the address of the account, not the submitted one
      match emailOtpStart rt svc stored identity.email with
      | .error e => .error (.api e)
      | .ok challenge =>
        match NativeLoginStartResponse.validate challenge.challengeId challenge.expiresIn
            challenge.maskedEmail with
        | none => .error .responseRefused
        | some response => .ok response

/-- A runtime whose text methods read these tables. -/
def Runtime.withText (rt : Runtime) (t : CharTables) : Runtime :=
  { rt with strip := t.strip, lower := t.lower }

/-- The address `v` is accepted again by the models the routes rebuild, unchanged, and the
    normalisation of the limiter, the OTP service and the repository leaves it alone. -/
structure AcceptedAgain (v : String) : Prop where
  credentialVerification : ∀ password accountType, passwordField password = true →
    CredentialVerificationRequest.validate rt v password accountType =
      some ⟨v, password, accountType⟩
  tokenLogin : ∀ password, passwordField password = true →
    TokenLoginRequest.validate rt v password = some ⟨v, password⟩
  fixed : rt.normalizeEmail v = v

/-- The mask of `v` fits the responses: `start_reset` never fails on it, and `start_native_login`
    does not fail once a challenge is stored for an account with this address. -/
structure MaskFits (settings : Settings) (svc : OtpService) (v : String) : Prop where
  bound : hasLength 3 255 (maskEmail (rt.normalizeEmail v)) = true
  startReset : ∀ (w : World) n stores accountType readAt savedAt,
    (w.startReset rt settings n stores v accountType readAt savedAt).1 ≠ .internalError
  startNativeLogin : ∀ tables challengeId password, challengeId.length = 43 →
    (∀ identity ∈ findByEmail rt tables v none, rt.normalizeEmail identity.email = v) →
    startNativeLogin rt svc tables (.ok challengeId) ⟨v, password⟩ ≠ .error .responseRefused

variable {rt} {t : CharTables} {s v : String}

/-! ### What acceptance says -/

/-- All four models share the field. -/
theorem AcceptedEmail.emailField (h : AcceptedEmail rt s v) : emailField rt s = some v := by
  have hlogin : ∀ {password : String} {request : TokenLoginRequest},
      TokenLoginRequest.validate rt s password = some request →
        OurosAuth.emailField rt s = some request.email := by
    intro password request h
    unfold TokenLoginRequest.validate at h
    split at h
    · exact absurd h (by simp)
    · rename_i email hemail
      split_ifs at h
      rw [← Option.some.inj h]
      exact hemail
  cases h with
  | tokenLogin h => exact hlogin h
  | nativeLoginVerify h =>
    unfold NativeLoginVerifyRequest.validate at h
    split at h
    · exact absurd h (by simp)
    · rename_i login hvalid
      split_ifs at h
      rw [← Option.some.inj h]
      exact hlogin hvalid
  | passwordResetStart h =>
    unfold PasswordResetStartRequest.validate at h
    split at h
    · exact absurd h (by simp)
    · rename_i email hemail
      rw [← Option.some.inj h]
      exact hemail
  | passwordResetVerify h =>
    unfold PasswordResetVerifyRequest.validate at h
    split at h
    · exact absurd h (by simp)
    · rename_i email hemail
      split_ifs at h
      rw [← Option.some.inj h]
      exact hemail

/-- What the four models accept is what the field accepts. -/
theorem acceptedEmail_iff : AcceptedEmail rt s v ↔ OurosAuth.emailField rt s = some v := by
  refine ⟨AcceptedEmail.emailField, fun h => ?_⟩
  have hvalid : PasswordResetStartRequest.validate rt s none = some ⟨v, none⟩ := by
    rw [PasswordResetStartRequest.validate, h]
  exact .passwordResetStart hvalid

/-- What `validate_email_shape` demands of a normal form. -/
structure EmailShape (v : String) : Prop where
  oneAt : v.toList.count '@' = 1
  noBlank : ' ' ∉ v.toList
  localPart : (partitionAt v).1 ≠ ""
  domain : (partitionAt v).2 ≠ ""

theorem validateEmailShape_eq_some :
    validateEmailShape rt s = some v ↔ v = rt.normalizeEmail s ∧ EmailShape v := by
  unfold validateEmailShape
  dsimp only
  constructor
  · intro h
    split_ifs at h with hat hparts
    rw [not_or, not_not] at hat
    rw [not_or] at hparts
    obtain rfl := Option.some.inj h
    exact ⟨rfl, hat.1, hat.2, hparts.1, hparts.2⟩
  · rintro ⟨rfl, hshape⟩
    rw [if_neg, if_neg]
    · rw [not_or]
      exact ⟨hshape.localPart, hshape.domain⟩
    · rw [not_or, not_not]
      exact ⟨hshape.oneAt, hshape.noBlank⟩

theorem emailField_iff :
    emailField rt s = some v ↔
      hasLength 3 255 s = true ∧ v = rt.normalizeEmail s ∧ EmailShape v := by
  unfold emailField
  split_ifs with hlength
  · rw [validateEmailShape_eq_some, and_iff_right hlength]
  · simp [hlength]

/-- An address is its local part, the separator and its domain. -/
theorem length_eq_of_at (h : '@' ∈ v.toList) :
    v.length = (partitionAt v).1.length + 1 + (partitionAt v).2.length := by
  have hrest : v.toList.dropWhile (· ≠ '@') ≠ [] := by
    intro hnil
    rw [List.dropWhile_eq_nil_iff] at hnil
    exact absurd (hnil '@' h) (by simp)
  have hsplit := congrArg List.length
    (List.takeWhile_append_dropWhile (p := (· ≠ '@')) (l := v.toList))
  have hpos := List.length_pos_iff.mpr hrest
  rw [List.length_append] at hsplit
  rw [partitionAt, String.length_ofList, String.length_ofList, List.length_drop,
    ← String.length_toList]
  omega

theorem EmailShape.at_mem (h : EmailShape v) : '@' ∈ v.toList :=
  List.count_pos_iff.mp (by rw [h.oneAt]; exact one_pos)

theorem length_pos_of_ne {s : String} (h : s ≠ "") : 0 < s.length := by
  rw [← String.length_toList, List.length_pos_iff]
  exact fun hnil => h (String.toList_inj.mp hnil)

/-- An address has three characters at least. -/
theorem EmailShape.three_le_length (h : EmailShape v) : 3 ≤ v.length := by
  have hlocal := length_pos_of_ne h.localPart
  have hdomain := length_pos_of_ne h.domain
  have hlength := length_eq_of_at h.at_mem
  omega

/-! ### Normal forms -/

theorem normalizeEmail_withText (rt : Runtime) (t : CharTables) (s : String) :
    (rt.withText t).normalizeEmail s = t.lower (t.strip s) := rfl

/-- A normal form is its own normal form. -/
theorem normalizeEmail_normalizeEmail (rt : Runtime) (t : CharTables) (s : String) :
    (rt.withText t).normalizeEmail ((rt.withText t).normalizeEmail s) =
      (rt.withText t).normalizeEmail s := by
  rw [normalizeEmail_withText, normalizeEmail_withText, CharTables.strip_lower_strip,
    CharTables.lower_lower]

/-- The normal form grows by one character for each `İ`. -/
theorem length_normalizeEmail (rt : Runtime) (t : CharTables) (s : String) :
    ((rt.withText t).normalizeEmail s).length =
      (t.strip s).length + (t.strip s).toList.count 'İ' := by
  rw [normalizeEmail_withText, CharTables.length_lower]

/-! ### Concrete tables -/

/-- The letters the tables of the examples map. -/
def asciiUpper : List (Char × Char) :=
  "ABCDEFGHIJKLMNOPQRSTUVWXYZ".toList.zip "abcdefghijklmnopqrstuvwxyz".toList

/-- The lower-case mapping of the examples: ASCII, and the one character that grows. -/
def asciiToLower (c : Char) : List Char :=
  if c = 'İ' then ['i', '\u0307'] else [(asciiUpper.lookup c).getD c]

/-- The white space of the examples. -/
def asciiSpace : List Char := [' ', '\t', '\n', '\r', '\x0b', '\x0c']

theorem asciiToLower_cases (c : Char) :
    (c = 'İ' ∧ asciiToLower c = ['i', '\u0307']) ∨
      (∃ p ∈ asciiUpper, p.1 = c ∧ asciiToLower c = [p.2]) ∨
      c ≠ 'İ' ∧ asciiToLower c = [c] := by
  by_cases hdot : c = 'İ'
  · exact Or.inl ⟨hdot, if_pos hdot⟩
  · have hlower : asciiToLower c = [(asciiUpper.lookup c).getD c] := if_neg hdot
    cases hlookup : asciiUpper.lookup c with
    | none => exact Or.inr (Or.inr ⟨hdot, by rw [hlower, hlookup]; rfl⟩)
    | some d =>
      refine Or.inr (Or.inl ⟨(c, d), ?_, rfl, by rw [hlower, hlookup]; rfl⟩)
      obtain ⟨l₁, l₂, heq, -⟩ := List.lookup_eq_some_iff.mp hlookup
      rw [heq]
      simp

/-- Tables for examples. -/
def asciiTables : CharTables where
  isSpace c := decide (c ∈ asciiSpace)
  toLower := asciiToLower
  isCased c := c.isAlpha
  isCaseIgnorable c := decide (c ∈ ['\'', '.', ':', '^', '`', '\u0307'])
  length_toLower := by
    intro c
    rcases asciiToLower_cases c with ⟨rfl, h⟩ | ⟨p, hp, rfl, h⟩ | ⟨hne, h⟩
    · rw [h]
      rfl
    · have hall : ∀ p ∈ asciiUpper, p.1 ≠ 'İ' := by decide
      rw [h, if_neg (hall p hp)]
      rfl
    · rw [h, if_neg hne]
      rfl
  toLower_mapped := by
    intro c hsigma d hd
    rcases asciiToLower_cases c with ⟨rfl, h⟩ | ⟨p, hp, rfl, h⟩ | ⟨hne, h⟩
    · rw [h, List.mem_pair] at hd
      rcases hd with rfl | rfl
      · decide
      · decide
    · have hall : ∀ p ∈ asciiUpper, p.2 ≠ 'Σ' ∧ asciiToLower p.2 = [p.2] := by decide
      rw [h, List.mem_singleton] at hd
      rw [hd]
      exact hall p hp
    · rw [h, List.mem_singleton] at hd
      subst hd
      exact ⟨hsigma, h⟩
  toLower_sigma := by decide
  toLower_at := by decide
  eq_of_mapped := by
    intro c d hd hspace
    rw [decide_eq_true_eq] at hspace
    rcases asciiToLower_cases c with ⟨rfl, h⟩ | ⟨p, hp, rfl, h⟩ | ⟨hne, h⟩
    · rw [h, List.mem_pair] at hd
      rcases hd with rfl | rfl
      · exact absurd hspace (by decide)
      · exact absurd hspace (by decide)
    · have hall : ∀ p ∈ asciiUpper, ¬ (p.2 ∈ asciiSpace ∨ p.2 = '@') := by decide
      rw [h, List.mem_singleton] at hd
      rw [hd] at hspace
      exact absurd hspace (hall p hp)
    · rw [h, List.mem_singleton] at hd
      exact hd
  sigma_not_space := by decide

/-- The runtime of the concrete addresses. -/
def sampleText : Runtime := Runtime.sample.withText asciiTables

/-- An address given by its characters, without white space, that has this normal form, is
    accepted. -/
theorem emailField_ofList {l l' : List Char}
    (hspace : l.all (fun c => !asciiTables.isSpace c) = true)
    (hlower : asciiTables.lowerFrom [] l = l') (hlength : 3 ≤ l.length ∧ l.length ≤ 255)
    (hat : l'.count '@' = 1) (hblank : ' ' ∉ l') (hlocal : l'.takeWhile (· ≠ '@') ≠ [])
    (hdomain : (l'.dropWhile (· ≠ '@')).drop 1 ≠ []) :
    emailField sampleText (String.ofList l) = some (String.ofList l') := by
  have hne : ∀ {l : List Char}, l ≠ [] → String.ofList l ≠ "" := by
    intro l hl heq
    exact hl (by simpa using congrArg String.toList heq)
  have htrimmed : asciiTables.Trimmed l :=
    CharTables.trimmed_of_forall (by simpa [List.all_eq_true] using hspace)
  refine emailField_iff.mpr ⟨?_, ?_, ?_, ?_, hne ?_, hne ?_⟩
  · rw [hasLength, String.length_ofList]
    simpa using hlength
  · rw [sampleText, normalizeEmail_withText, CharTables.strip, CharTables.lower,
      String.toList_ofList, String.toList_ofList, CharTables.trim_of_trimmed htrimmed, hlower]
  · rwa [String.toList_ofList]
  · rwa [String.toList_ofList]
  · rwa [String.toList_ofList]
  · rwa [String.toList_ofList]

/-! ### Accepted again -/

/-- An accepted address passes the field again when it is short enough. -/
theorem emailField_again_iff (h : emailField (rt.withText t) s = some v) :
    emailField (rt.withText t) v = some v ↔
      (t.strip s).length + (t.strip s).toList.count 'İ' ≤ 255 := by
  obtain ⟨-, rfl, hshape⟩ := emailField_iff.mp h
  rw [emailField_iff, normalizeEmail_normalizeEmail, ← length_normalizeEmail rt, hasLength,
    Bool.and_eq_true, decide_eq_true_eq, decide_eq_true_eq]
  constructor
  · exact fun hagain => hagain.1.2
  · exact fun hle => ⟨⟨hshape.three_le_length, hle⟩, rfl, hshape⟩

/-- **Accepted again.** An accepted address is accepted again, unchanged, exactly when what is left
    after stripping, with every `İ` counted twice, has at most 255 characters. -/
theorem accepted_again_iff (h : AcceptedEmail (rt.withText t) s v) :
    AcceptedAgain (rt.withText t) v ↔
      (t.strip s).length + (t.strip s).toList.count 'İ' ≤ 255 := by
  rw [← emailField_again_iff h.emailField]
  constructor
  · intro hagain
    -- any valid password will do: the address is the same field in every model
    have hlogin := hagain.tokenLogin "password" (by decide)
    exact (AcceptedEmail.tokenLogin hlogin).emailField
  · intro hfield
    obtain ⟨-, hv, -⟩ := emailField_iff.mp hfield
    refine ⟨fun password accountType hpassword => ?_, fun password hpassword => ?_, hv.symm⟩
    · rw [CredentialVerificationRequest.validate, hfield]
      exact if_pos hpassword
    · rw [TokenLoginRequest.validate, hfield]
      exact if_pos hpassword

/-- Stripped and in lower case, an address is accepted again. -/
theorem accepted_again_sample : AcceptedAgain sampleText "ana@ouros.app" := by
  have haccepted : AcceptedEmail sampleText " Ana@Ouros.app\n" "ana@ouros.app" :=
    acceptedEmail_iff.mpr (by decide)
  exact (accepted_again_iff haccepted).mpr (by decide)

/-- An address of 255 characters that has 256 in lower case. -/
def dottedAddress : List Char := 'İ' :: (List.replicate 252 'a' ++ ['@', 'b'])

/-- **An accepted address is refused.** It has 255 characters, and its normal form 256. -/
theorem dotted_address_refused :
    ∃ v, AcceptedEmail sampleText (String.ofList dottedAddress) v ∧
      ¬ AcceptedAgain sampleText v := by
  let v := 'i' :: '\u0307' :: (List.replicate 252 'a' ++ ['@', 'b'])
  have hspace : dottedAddress.all (fun c => !asciiTables.isSpace c) = true := by decide +kernel
  have hfield : emailField sampleText (String.ofList dottedAddress) = some (String.ofList v) :=
    emailField_ofList hspace (by decide +kernel) (by decide +kernel) (by decide +kernel)
      (by decide +kernel) (by decide +kernel) (by decide +kernel)
  refine ⟨String.ofList v, acceptedEmail_iff.mpr hfield, fun hagain => ?_⟩
  have hlogin := hagain.tokenLogin "password" (by decide)
  have hlength := (emailField_iff.mp (AcceptedEmail.tokenLogin hlogin).emailField).1
  rw [hasLength, String.length_ofList] at hlength
  exact absurd hlength (by decide +kernel)

/-! ### The mask -/

/-- The mask shows one character of the local part, and the whole domain. -/
theorem length_maskEmail (h : EmailShape v) :
    (maskEmail v).length = 5 + (partitionAt v).2.length := by
  have hlocal : 0 < (partitionAt v).1.toList.length := by
    rw [String.length_toList]
    exact length_pos_of_ne h.localPart
  have hstars : "***@".length = 4 := by decide
  rw [maskEmail, if_pos h.at_mem, String.length_append, String.length_append, String.length_ofList,
    List.length_take, hstars]
  omega

/-- The domain of a normal form grows by its own `İ` alone. -/
theorem length_domain_normalizeEmail (rt : Runtime) (t : CharTables) (s : String) :
    (partitionAt ((rt.withText t).normalizeEmail s)).2.length =
      (partitionAt (t.strip s)).2.length + (partitionAt (t.strip s)).2.toList.count 'İ' := by
  rw [partitionAt, partitionAt, String.length_ofList, String.length_ofList, String.toList_ofList,
    normalizeEmail_withText, CharTables.length_dropWhile_at_lower]

/-- `start_reset` fails when the mask does not fit, and only then. -/
theorem startReset_internalError_iff (settings : Settings) (w : World) (n : ℕ) (stores : OtpStores)
    (email : String) (accountType : Option AccountType) (readAt savedAt : Instant) :
    (w.startReset rt settings n stores email accountType readAt savedAt).1 = .internalError ↔
      ¬ hasLength 3 255 (maskEmail (rt.normalizeEmail email)) = true := by
  unfold World.startReset
  dsimp only
  split_ifs with hmask
  · cases w.accountFor rt email accountType <;> simp [hmask]
  · simp [hmask]

/-- Once a challenge is stored, `start_native_login` fails only when the mask of the account's
    address does not fit. -/
theorem startNativeLogin_responseRefused {svc : OtpService} {tables : IdentityTables}
    {challengeId : String} {payload : TokenLoginRequest} (hid : challengeId.length = 43)
    (hrefused :
      startNativeLogin rt svc tables (.ok challengeId) payload = .error .responseRefused) :
    ∃ identity ∈ findByEmail rt tables (rt.normalizeEmail payload.email) none,
      ¬ hasLength 3 255 (maskEmail (rt.normalizeEmail identity.email)) = true := by
  unfold startNativeLogin at hrefused
  split at hrefused
  · exact absurd hrefused (by simp)
  · rename_i credentials hcredentials
    have hemail : credentials.email = rt.normalizeEmail payload.email ∧
        credentials.accountType = none := by
      unfold CredentialVerificationRequest.validate at hcredentials
      split at hcredentials
      · exact absurd hcredentials (by simp)
      · rename_i email hfield
        split_ifs at hcredentials
        rw [← Option.some.inj hcredentials]
        exact ⟨(emailField_iff.mp hfield).2.1, rfl⟩
    split at hrefused
    · exact absurd hrefused (by simp)
    · -- the credentials are verified, so the challenge is the one that was stored
      rename_i identity hverified
      rw [hemail.1, hemail.2] at hverified
      refine ⟨identity, (verifyCredentials_ok hverified).1, fun hmask => ?_⟩
      have hchallenge : hasLength 20 256 challengeId = true := by
        rw [hasLength, hid]
        decide
      have hpos : 0 < svc.ttlSeconds := lt_of_lt_of_le (by decide) svc.ttl_ge
      simp [emailOtpStart, Except.map, NativeLoginStartResponse.validate, hchallenge, hpos, hmask]
        at hrefused

/-- **The mask.** The mask of an accepted address fits the responses exactly when the domain, with
    every `İ` counted twice, has at most 250 characters. -/
theorem mask_fits_iff (settings : Settings) (svc : OtpService)
    (h : AcceptedEmail (rt.withText t) s v) :
    MaskFits (rt.withText t) settings svc v ↔
      (partitionAt (t.strip s)).2.length + (partitionAt (t.strip s)).2.toList.count 'İ' ≤ 250 := by
  obtain ⟨-, rfl, hshape⟩ := emailField_iff.mp h.emailField
  have hbound : hasLength 3 255 (maskEmail ((rt.withText t).normalizeEmail
      ((rt.withText t).normalizeEmail s))) = true ↔
      (partitionAt (t.strip s)).2.length + (partitionAt (t.strip s)).2.toList.count 'İ' ≤ 250 := by
    rw [normalizeEmail_normalizeEmail, hasLength, length_maskEmail hshape,
      length_domain_normalizeEmail, Bool.and_eq_true, decide_eq_true_eq, decide_eq_true_eq]
    omega
  constructor
  · exact fun hfits => hbound.mp hfits.bound
  · intro hle
    have hmask := hbound.mpr hle
    refine ⟨hmask, fun w n stores accountType readAt savedAt herror => ?_, ?_⟩
    · exact (startReset_internalError_iff ..).mp herror hmask
    · intro tables challengeId password hid hstored hrefused
      obtain ⟨identity, hmem, hnot⟩ := startNativeLogin_responseRefused hid hrefused
      rw [normalizeEmail_normalizeEmail] at hmem
      rw [hstored identity hmem, ← normalizeEmail_normalizeEmail rt t s] at hnot
      exact hnot hmask

/-- The mask of an ordinary address fits. -/
theorem mask_fits_sample : MaskFits sampleText (.sample none) (.sample false) "ana@ouros.app" := by
  have haccepted : AcceptedEmail sampleText " Ana@Ouros.app\n" "ana@ouros.app" :=
    acceptedEmail_iff.mpr (by decide)
  exact (mask_fits_iff (.sample none) (.sample false) haccepted).mpr (by decide)

/-- An address of 255 characters with nearly all of them in the domain. -/
def longDomainAddress : List Char := 'a' :: '@' :: List.replicate 253 'b'

/-- **A mask does not fit.** The address has 255 characters, and its mask 258. -/
theorem long_domain_refused :
    ∃ v, AcceptedEmail sampleText (String.ofList longDomainAddress) v ∧
      ¬ MaskFits sampleText (.sample none) (.sample false) v := by
  let v := String.ofList longDomainAddress
  have hspace : longDomainAddress.all (fun c => !asciiTables.isSpace c) = true := by
    decide +kernel
  have hfield : emailField sampleText v = some v :=
    emailField_ofList hspace (by decide +kernel) (by decide +kernel) (by decide +kernel)
      (by decide +kernel) (by decide +kernel) (by decide +kernel)
  obtain ⟨-, hnormal, hshape⟩ := emailField_iff.mp hfield
  refine ⟨v, acceptedEmail_iff.mpr hfield, fun hfits => ?_⟩
  have hbound := hfits.bound
  rw [← hnormal, hasLength, length_maskEmail hshape, partitionAt, String.length_ofList,
    String.toList_ofList] at hbound
  exact absurd hbound (by decide +kernel)

end OurosAuth
