import OurosAuth.App.Addresses
import OurosAuth.Keycloak.TokenBroker

namespace OurosAuth

/-!
# Bodies of requests

A route with a request model is entered only once the framework has parsed and validated the body;
what the route itself checks comes after.

* `parseRefusal` — bodies that cannot be parsed;
* `credentialVerificationRequest`, `nativeLoginVerifyRequest` — the models, field by field.
-/

/-- One entry of a 422: where, and the text when a validator of the source raised it. -/
structure FieldError where
  loc : List String
  valueError : Option String
  deriving DecidableEq

/-- Why a route is not entered. -/
inductive BodyRefusal
  /-- 422 -/
  | invalid (errors : List FieldError)
  /-- 400 -/
  | unparsable
  deriving DecidableEq

/-- The `detail` of a 400. -/
def unparsableDetail : String := "There was an error parsing the body"

/-- A body that cannot be parsed. -/
def parseRefusal : JsonBody → Option BodyRefusal
  | .malformed position => some (.invalid [⟨["body", toString position], none⟩])
  | .undecodable => some .unparsable
  | .tooDeep => some .unparsable
  | _ => none

/-! ### Fields -/

/-- The field `email`. -/
def bodyEmail (rt : Runtime) (value : Option JsonValue) : Except FieldError String :=
  match value with
  | some (.str raw) =>
    if hasLength 3 255 raw = true then
      match validateEmailShape rt raw with
      | some email => .ok email
      | none => .error ⟨["body", "email"], some "invalid email"⟩
    else .error ⟨["body", "email"], none⟩
  | _ => .error ⟨["body", "email"], none⟩

/-- The field `password`. -/
def bodyPassword (value : Option JsonValue) : Except FieldError String :=
  match value with
  | some (.str raw) =>
    if passwordField raw = true then .ok raw
    else .error ⟨["body", "password"],
      some "password length must be between 1 and 128 characters"⟩
  | _ => .error ⟨["body", "password"], none⟩

/-- The field `account_type`. -/
def bodyAccountType (value : Option JsonValue) : Except FieldError (Option AccountType) :=
  match value with
  | none => .ok none
  | some .null => .ok none
  | some (.str raw) =>
    match AccountType.ofValue? raw with
    | some accountType => .ok (some accountType)
    | none => .error ⟨["body", "account_type"], none⟩
  | some _ => .error ⟨["body", "account_type"], none⟩

/-- The field `challenge_id`. -/
def bodyChallengeId (value : Option JsonValue) : Except FieldError String :=
  match value with
  | some (.str raw) =>
    if challengeIdField raw = true then .ok raw else .error ⟨["body", "challenge_id"], none⟩
  | _ => .error ⟨["body", "challenge_id"], none⟩

/-- The field `code`. -/
def bodyCode (rt : Runtime) (value : Option JsonValue) : Except FieldError String :=
  match value with
  | some (.str raw) =>
    if isCodeField rt raw = true then .ok raw else .error ⟨["body", "code"], none⟩
  | _ => .error ⟨["body", "code"], none⟩

/-- The error of a field, if it has one. -/
def fieldErrors {α : Type} : Except FieldError α → List FieldError
  | .ok _ => []
  | .error error => [error]

/-- `CredentialVerificationRequest` from a body; every field is checked. -/
def credentialVerificationRequest (rt : Runtime) (body : JsonBody) :
    Except (List FieldError) CredentialVerificationRequest :=
  match body with
  | .document (.object entries) =>
    match bodyEmail rt (entries.lookup "email"), bodyPassword (entries.lookup "password"),
        bodyAccountType (entries.lookup "account_type") with
    | .ok email, .ok password, .ok accountType => .ok ⟨email, password, accountType⟩
    | email, password, accountType =>
        .error (fieldErrors email ++ fieldErrors password ++ fieldErrors accountType)
  | _ => .error [⟨["body"], none⟩]

/-- `NativeLoginVerifyRequest` from a body. -/
def nativeLoginVerifyRequest (rt : Runtime) (body : JsonBody) :
    Except (List FieldError) NativeLoginVerifyRequest :=
  match body with
  | .document (.object entries) =>
    match bodyEmail rt (entries.lookup "email"), bodyPassword (entries.lookup "password"),
        bodyChallengeId (entries.lookup "challenge_id"), bodyCode rt (entries.lookup "code") with
    | .ok email, .ok password, .ok challengeId, .ok code =>
        .ok ⟨⟨email, password⟩, challengeId, code⟩
    | email, password, challengeId, code =>
        .error (fieldErrors email ++ fieldErrors password ++ fieldErrors challengeId ++
          fieldErrors code)
  | _ => .error [⟨["body"], none⟩]

/-- A body that is parsed, and then validated. -/
def validated {α : Type} (validate : JsonBody → Except (List FieldError) α) (body : JsonBody) :
    Except BodyRefusal α :=
  match parseRefusal body with
  | some refusal => .error refusal
  | none => (validate body).mapError .invalid

variable {rt : Runtime}

/-- A body is accepted as the model that its three fields pass. -/
theorem credentialVerificationRequest_eq_ok {body : JsonBody}
    {payload : CredentialVerificationRequest}
    (h : credentialVerificationRequest rt body = .ok payload) :
    ∃ entries email password, body = .document (.object entries) ∧
      entries.lookup "email" = some (.str email) ∧
      entries.lookup "password" = some (.str password) ∧
      CredentialVerificationRequest.validate rt email password payload.accountType =
        some payload := by
  unfold credentialVerificationRequest at h
  split at h
  · rename_i entries
    split at h
    · rename_i email password accountType hemail hpassword haccountType
      obtain rfl := Except.ok.inj h
      unfold bodyEmail at hemail
      unfold bodyPassword at hpassword
      split at hemail
      · rename_i raw hraw
        split at hpassword
        · rename_i raw' hraw'
          refine ⟨entries, raw, raw', rfl, hraw, hraw', ?_⟩
          split_ifs at hemail hpassword with hlength hpasswordField
          split at hemail
          · rename_i email' hshape
            obtain rfl := Except.ok.inj hemail
            obtain rfl := Except.ok.inj hpassword
            have hfield : emailField rt raw = some email' := by
              rw [emailField, if_pos hlength, hshape]
            simp only [CredentialVerificationRequest.validate, hfield, if_pos hpasswordField]
          · exact absurd hemail (by simp)
        · exact absurd hpassword (by simp)
      · exact absurd hemail (by simp)
    · exact absurd h (by simp)
  · exact absurd h (by simp)

end OurosAuth
