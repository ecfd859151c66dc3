import Mathlib.Data.List.ReduceOption
import OurosAuth.Keycloak.TokenBroker
import OurosAuth.PasswordReset.ConfirmRuns

namespace OurosAuth

/-!
# The secrets of a password reset

`_get_reset_jwt_secret` signs the reset tokens, `_get_internal_service_secret` is what Spring is
shown.  Both go through the same five settings, each in an order of its own, and end at a text that
stands in the source.

* `chooseSecret` — the two passes over an order: a long secret, or else any;
* `chooseSecret_eq_fallback_iff`, `chooseSecret_append_of_long`, `chooseSecret_append_of_short` —
  where the choice comes from;
* `ResetSecrets.confirmToken` — the checks of `confirm_reset` on a token that may be anyone's, so
  that its claims are whatever JSON was signed; `claimsCheck_minted` is about the service's own.
-/

/-! ### Choosing a secret -/

/-- The first secret of at least 32 characters, or else the first that is not empty. -/
def chooseSecret (order : List (Option String)) (fallback : String) : String :=
  match order.reduceOption.find? fun secret => decide (32 ≤ secret.length) with
  | some secret => secret
  | none => (order.reduceOption.find? fun secret => decide (secret ≠ "")).getD fallback

/-- Is there a secret of at least 32 characters? -/
def HasLong (order : List (Option String)) : Prop :=
  ∃ secret, some secret ∈ order ∧ 32 ≤ secret.length

variable {order order' : List (Option String)} {fallback secret : String}

/-- What a pass finds is configured, and what the pass looks for. -/
theorem of_find?_reduceOption {p : String → Prop} [DecidablePred p]
    (h : (order.reduceOption.find? fun secret => decide (p secret)) = some secret) :
    some secret ∈ order ∧ p secret :=
  ⟨List.reduceOption_mem_iff.mp (List.mem_of_find?_eq_some h), by simpa using List.find?_some h⟩

/-- A pass that finds nothing. -/
theorem find?_reduceOption_eq_none {p : String → Prop} [DecidablePred p] :
    (order.reduceOption.find? fun secret => decide (p secret)) = none ↔
      ∀ secret, some secret ∈ order → ¬ p secret := by
  simp only [List.find?_eq_none, List.reduceOption_mem_iff, decide_eq_true_eq]

/-- The first pass finds the same long secret, whatever comes after it. -/
theorem chooseSecret_append_of_long (h : HasLong order) (order' : List (Option String))
    (fallback fallback' : String) :
    chooseSecret (order ++ order') fallback = chooseSecret order fallback' ∧
      some (chooseSecret order fallback') ∈ order ∧
      32 ≤ (chooseSecret order fallback').length := by
  obtain ⟨long, hmem, hlong⟩ := h
  unfold chooseSecret
  rw [List.reduceOption_append, List.find?_append]
  cases hfind : order.reduceOption.find? fun secret => decide (32 ≤ secret.length) with
  | none => exact absurd hlong (find?_reduceOption_eq_none.mp hfind long hmem)
  | some secret => exact ⟨rfl, of_find?_reduceOption hfind⟩

/-- Short secrets give way to a long one that comes after them. -/
theorem chooseSecret_append_of_short (h : ¬ HasLong order) (h' : HasLong order')
    (fallback fallback' : String) :
    chooseSecret (order ++ order') fallback = chooseSecret order' fallback' := by
  obtain ⟨long, hmem, hlong⟩ := h'
  have hnone : (order.reduceOption.find? fun secret => decide (32 ≤ secret.length)) = none :=
    find?_reduceOption_eq_none.mpr fun secret hsecret hlength => h ⟨secret, hsecret, hlength⟩
  unfold chooseSecret
  rw [List.reduceOption_append, List.find?_append, hnone, Option.none_or]
  cases hfind : order'.reduceOption.find? fun secret => decide (32 ≤ secret.length) with
  | none => exact absurd hlong (find?_reduceOption_eq_none.mp hfind long hmem)
  | some secret => rfl

/-- The text of the source is chosen when nothing is configured, or when it is configured. -/
theorem chooseSecret_eq_fallback_iff
    (hfallback : ∀ secret, some secret ∈ order → secret ≠ fallback) :
    chooseSecret order fallback = fallback ↔ ∀ secret, some secret ∈ order → secret = "" := by
  unfold chooseSecret
  cases hlong : order.reduceOption.find? fun secret => decide (32 ≤ secret.length) with
  | some long =>
    obtain ⟨hmem, hlength⟩ := of_find?_reduceOption hlong
    constructor
    · intro heq
      exact absurd heq (hfallback long hmem)
    · intro hempty
      rw [hempty long hmem] at hlength
      exact absurd hlength (by decide)
  | none =>
    cases hany : order.reduceOption.find? fun secret => decide (secret ≠ "") with
    | some secret =>
      obtain ⟨hmem, hne⟩ := of_find?_reduceOption hany
      constructor
      · intro heq
        exact absurd heq (hfallback secret hmem)
      · intro hempty
        exact absurd (hempty secret hmem) hne
    | none =>
      refine ⟨fun _ secret hmem => ?_, fun _ => rfl⟩
      exact not_ne_iff.mp (find?_reduceOption_eq_none.mp hany secret hmem)

/-- A secret that is chosen is configured, or the text of the source. -/
theorem chooseSecret_mem (order : List (Option String)) (fallback : String) :
    some (chooseSecret order fallback) ∈ order ∨ chooseSecret order fallback = fallback := by
  unfold chooseSecret
  cases hlong : order.reduceOption.find? fun secret => decide (32 ≤ secret.length) with
  | some long => exact Or.inl (of_find?_reduceOption hlong).1
  | none =>
    cases hany : order.reduceOption.find? fun secret => decide (secret ≠ "") with
    | some secret => exact Or.inl (of_find?_reduceOption hany).1
    | none => exact Or.inr rfl

/-! ### The two secrets of the service -/

/-- The secrets in the settings, beside the one of the e-mail codes. -/
structure ResetSecrets (settings : Settings) where
  internalServiceSecret : Option String
  internalServiceKey : Option String
  springJwtSecret : Option String
  passwordResetJwtSecret : Option String

/-- The last resort of `_get_reset_jwt_secret`, which anyone can read. -/
def publishedResetSecret : String := "ouros-dev-password-reset-secret-key-32-chars-minimum"

/-- The last resort of `_get_internal_service_secret`. -/
def publishedServiceSecret : String := "ouros-dev-internal-service-secret-key-32-chars-minimum"

namespace ResetSecrets

variable {settings : Settings} (secrets : ResetSecrets settings)

/-- The secrets of this service, in the order in which both functions take them. -/
def own : List (Option String) :=
  [secrets.passwordResetJwtSecret, settings.ourosEmailOtpHmacSecret]

/-- The secrets it may share with Spring. -/
def shared : List (Option String) :=
  [secrets.internalServiceSecret, secrets.internalServiceKey, secrets.springJwtSecret]

/-- `_get_reset_jwt_secret` -/
def getResetJwtSecret : String := chooseSecret (secrets.own ++ secrets.shared) publishedResetSecret

/-- `_get_internal_service_secret` -/
def getInternalServiceSecret : String :=
  chooseSecret (secrets.shared ++ secrets.own) publishedServiceSecret

end ResetSecrets

/-! ### Tokens of anyone -/

/-- What `jwt.decode` raises. -/
inductive ResetDecodeError
  | pyJwtError
  | python (error : PyError)

/-- How `jwt` reads a token with a key at a time: signature, lifetime and required claims. -/
abbrev ResetDecode := String → Instant → String → Except ResetDecodeError TokenClaims

/-- `_verify_reset_token` -/
def verifyTokenClaims (decode : ResetDecode) (key : String) (now : Instant) (token : String) :
    Except CallRaised TokenClaims :=
  match decode key now token with
  | .error .pyJwtError => tokenInvalid "Token de recuperação inválido ou expirado."
  | .error (.python error) =>
    if error.isValueError = true then tokenInvalid "Token de recuperação inválido ou expirado."
    else .error (.python error)
  | .ok claims =>
    if (getClaim claims "purpose").equalsStr "password_reset" = true then .ok claims
    else tokenInvalid "Token de recuperação com finalidade inválida."

/-- What `confirm_reset` takes from the claims to its reservation and its update. -/
structure ResetClaims where
  jti : JsonValue
  accountType : AccountType
  databaseId : ℤ
  exp : ℤ

/-- The checks of `confirm_reset` on the claims, up to the reservation; `int` is the interpreter's.
    Nothing catches what it raises. -/
def claimsCheck (rt : Runtime) (int : JsonValue → Except PyError ℤ) (claims : TokenClaims)
    (newPassword : String) : Except CallRaised ResetClaims :=
  if credentialComplexity rt newPassword = false then tokenInvalid complexityDetail
  else
    match int (getClaim claims "database_id") with
    | .error error => .error (.python error)
    | .ok databaseId =>
      match (getClaim claims "account_type").asStr?.bind AccountType.ofValue? with
      | none => tokenInvalid "Tipo de conta inválido para redefinição."
      | some accountType =>
        if accountType.resettable = true then
          match int (getClaim claims "exp") with
          | .error error => .error (.python error)
          | .ok exp => .ok ⟨getClaim claims "jti", accountType, databaseId, exp⟩
        else tokenInvalid "Tipo de conta inválido para redefinição."

/-- `confirm_reset` up to the reservation. -/
def ResetSecrets.confirmToken {settings : Settings} (secrets : ResetSecrets settings) (rt : Runtime)
    (decode : ResetDecode) (int : JsonValue → Except PyError ℤ) (now : Instant) (token : String)
    (newPassword : String) : Except CallRaised ResetClaims :=
  match verifyTokenClaims decode secrets.getResetJwtSecret now token with
  | .error e => .error e
  | .ok claims => claimsCheck rt int claims newPassword

/-- The payload of `_mint_reset_token`. -/
def Claims.payload (claims : Claims) : TokenClaims :=
  [("sub", .str claims.sub), ("account_type", .str claims.accountType),
    ("database_id", .int claims.databaseId), ("purpose", .str claims.purpose),
    ("jti", .str claims.jti), ("iat", .int claims.iat), ("exp", .int claims.exp)]

variable {settings : Settings} {rt : Runtime} {now : Instant} {newPassword : String}
  {claims claims' : TokenClaims} {decode : ResetDecode} {int : JsonValue → Except PyError ℤ}
  {token : String}

/-- A token of the service itself, as long as it lives, passes these checks when it passes
    `confirmCheck`, and with the claims it was minted with. -/
theorem claimsCheck_minted {claims : Claims} (hint : ∀ n, int (.int n) = .ok n)
    (hlive : ¬ ((claims.exp : ℚ) ≤ now.seconds ∨ now.seconds < claims.iat))
    (hpurpose : claims.purpose = "password_reset") :
    confirmCheck rt now (.signed claims) newPassword = .ok claims ↔
      ∃ accountType, AccountType.ofValue? claims.accountType = some accountType ∧
        claimsCheck rt int claims.payload newPassword =
          .ok ⟨.str claims.jti, accountType, claims.databaseId, claims.exp⟩ := by
  have hverify : verifyResetToken now (.signed claims) = .ok claims := by
    simp only [verifyResetToken, if_neg hlive, hpurpose, ne_eq, not_true_eq_false, if_false]
  have haccount : getClaim claims.payload "account_type" = .str claims.accountType := rfl
  have hid : getClaim claims.payload "database_id" = .int claims.databaseId := rfl
  have hexp : getClaim claims.payload "exp" = .int claims.exp := rfl
  have hjti : getClaim claims.payload "jti" = .str claims.jti := rfl
  unfold confirmCheck claimsCheck
  simp only [hverify, haccount, hid, hexp, hjti, hint, JsonValue.asStr?, Option.bind_some]
  by_cases hcomplex : credentialComplexity rt newPassword = false
  · simp [hcomplex, tokenInvalid]
  · simp only [if_neg hcomplex]
    cases htype : AccountType.ofValue? claims.accountType with
    | none => simp [tokenInvalid]
    | some accountType =>
      by_cases hreset : accountType.resettable = true
      · simp [hreset]
      · simp [hreset, tokenInvalid]

/-- A token that is signed with the text of the source, and with none of the configured secrets:
    `jwt` reads it with the one and raises `InvalidSignatureError` with each of the others. -/
structure Forged (decode : ResetDecode) (secrets : ResetSecrets settings) (now : Instant)
    (token : String) (claims : TokenClaims) : Prop where
  reads : decode publishedResetSecret now token = .ok claims
  refused : ∀ secret, some secret ∈ secrets.own ++ secrets.shared →
    decode secret now token = .error .pyJwtError

/-- **Forged tokens.** A token signed with the text of the source passes the checks of
    `confirm_reset` if and only if its claims do and no secret is configured: the route does not ask
    whether e-mail codes are enabled. -/
theorem forged_token_iff (secrets : ResetSecrets settings) {checked : ResetClaims}
    (hforged : Forged decode secrets now token claims) :
    secrets.confirmToken rt decode int now token newPassword = .ok checked ↔
      (∀ secret, some secret ∈ secrets.own ++ secrets.shared → secret = "") ∧
        getClaim claims "purpose" = .str "password_reset" ∧
          claimsCheck rt int claims newPassword = .ok checked := by
  have hpublished : ∀ secret, some secret ∈ secrets.own ++ secrets.shared →
      secret ≠ publishedResetSecret := by
    rintro secret hmem rfl
    exact absurd (hforged.reads.symm.trans (hforged.refused _ hmem)) (by simp)
  rw [← chooseSecret_eq_fallback_iff hpublished]
  unfold ResetSecrets.confirmToken verifyTokenClaims ResetSecrets.getResetJwtSecret
  rcases chooseSecret_mem (secrets.own ++ secrets.shared) publishedResetSecret with hmem | hkey
  · -- a configured secret is the key, and does not read the token
    rw [hforged.refused _ hmem]
    exact iff_of_false (by simp [tokenInvalid]) fun h => hpublished _ hmem h.1
  · rw [hkey, hforged.reads]
    by_cases hpurpose : (getClaim claims "purpose").equalsStr "password_reset" = true
    · have hclaim := JsonValue.equalsStr_iff.mp hpurpose
      simp only [hclaim, true_and]
      rw [← hclaim, if_pos hpurpose]
    · have hother : getClaim claims "purpose" ≠ .str "password_reset" :=
        fun h => hpurpose (JsonValue.equalsStr_iff.mpr h)
      simp [hpurpose, hother, tokenInvalid]

/-- A service without any secret: e-mail codes are disabled. -/
def bareSettings : Settings :=
  { Settings.sample none with
    ourosEmailOtpEnabled := false
    ourosEmailOtpHmacSecret := none
    otp_validated := fun h => absurd h Bool.false_ne_true }

def bareSecrets : ResetSecrets bareSettings := ⟨none, none, none, none⟩

/-- Someone's claims about account 7, its id as a string. -/
def forgedPayload : TokenClaims :=
  [("sub", .str "eve"), ("account_type", .str "farm_owner"), ("database_id", .str "7"),
    ("purpose", .str "password_reset"), ("jti", .str "1"), ("iat", .int 0),
    ("exp", .int 1800000000)]

/-- How one token that was signed with the text of the source is read. -/
def forgedDecode : ResetDecode := fun key _ token =>
  if key = publishedResetSecret ∧ token = "forged" then .ok forgedPayload else .error .pyJwtError

/-- `int` of a number, or of a string of ASCII digits. -/
def digitsInt : JsonValue → Except PyError ℤ
  | .int n => .ok n
  | .str s =>
    if s ≠ "" ∧ s.toList.all Char.isDigit = true then .ok (decimalValue s) else .error .valueError
  | _ => .error .typeError

/-- The service without any secret takes the token. -/
theorem forged_token_bare :
    bareSecrets.confirmToken .sample forgedDecode digitsInt sampleNow "forged" "Senha@123" =
      .ok ⟨.str "1", .farmOwner, 7, 1800000000⟩ := by
  have hnone : ∀ secret, some secret ∉ bareSecrets.own ++ bareSecrets.shared := by
    simp [ResetSecrets.own, ResetSecrets.shared, bareSecrets, bareSettings]
  have hforged : Forged forgedDecode bareSecrets sampleNow "forged" forgedPayload :=
    ⟨rfl, fun secret hmem => absurd hmem (hnone secret)⟩
  refine (forged_token_iff bareSecrets hforged).mpr ⟨fun secret hmem => ?_, rfl, ?_⟩
  · exact absurd hmem (hnone secret)
  · rfl

/-- **The reset key.** Where e-mail codes are enabled, so that a reset can be started at all, tokens
    are signed with a secret of this service's own, of at least 32 characters.  Spring is shown one
    of the secrets meant for it, or, where none of these is as long, the key of the tokens. -/
theorem reset_key_own (secrets : ResetSecrets settings)
    (henabled : settings.ourosEmailOtpEnabled = true) :
    (some secrets.getResetJwtSecret ∈ secrets.own ∧ 32 ≤ secrets.getResetJwtSecret.length) ∧
      ((some secrets.getInternalServiceSecret ∈ secrets.shared ∧
          32 ≤ secrets.getInternalServiceSecret.length) ∨
        (¬ HasLong secrets.shared ∧
          secrets.getInternalServiceSecret = secrets.getResetJwtSecret)) := by
  have hown : HasLong secrets.own := by
    obtain ⟨⟨secret, hsecret, hlong⟩, -⟩ := settings.otp_validated henabled
    exact ⟨secret, by simp [ResetSecrets.own, hsecret], hlong⟩
  obtain ⟨hreset, hkey⟩ := chooseSecret_append_of_long hown secrets.shared
    publishedResetSecret publishedResetSecret
  unfold ResetSecrets.getResetJwtSecret ResetSecrets.getInternalServiceSecret
  rw [hreset]
  refine ⟨hkey, ?_⟩
  by_cases hshared : HasLong secrets.shared
  · obtain ⟨hservice, hmem⟩ := chooseSecret_append_of_long hshared secrets.own
      publishedServiceSecret publishedServiceSecret
    rw [hservice]
    exact Or.inl hmem
  · exact Or.inr ⟨hshared, chooseSecret_append_of_short hshared hown _ _⟩

/-- With nothing but the secret of the e-mail codes, Spring is shown the key of the tokens. -/
theorem reset_key_own_shown :
    let secrets : ResetSecrets (Settings.sample none) := ⟨none, none, none, none⟩
    secrets.getInternalServiceSecret = secrets.getResetJwtSecret := by
  intro secrets
  obtain ⟨-, ⟨hmem, -⟩ | ⟨-, hshown⟩⟩ := reset_key_own secrets rfl
  · exact absurd hmem (by simp [ResetSecrets.shared, secrets])
  · exact hshown

end OurosAuth
