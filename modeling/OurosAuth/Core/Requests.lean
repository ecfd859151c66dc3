import OurosAuth.Core.Runtime

namespace OurosAuth

/-!
# Fields of a request

The checks of `schemas/auth.py` on the fields the routes share, and the masked address the
challenge responses show.

* `emailField` — the length bounds on the raw string, then `validate_email_shape`;
* `challengeIdField` — a challenge id is any string of 20 to 256 characters;
* `maskEmail` — `EmailOtpService._mask_email`.
-/

/-- `str.partition("@")`, without the separator. -/
def partitionAt (s : String) : String × String :=
  (String.ofList (s.toList.takeWhile (· ≠ '@')),
    String.ofList ((s.toList.dropWhile (· ≠ '@')).drop 1))

/-- `CredentialVerificationRequest.validate_email_shape`; `none` is its `ValueError`. -/
def validateEmailShape (rt : Runtime) (value : String) : Option String :=
  let normalized := rt.normalizeEmail value
  if normalized.toList.count '@' ≠ 1 ∨ ' ' ∈ normalized.toList then none
  else
    let (localPart, domain) := partitionAt normalized
    if localPart = "" ∨ domain = "" then none else some normalized

/-- A field of `min_length` and `max_length` characters. -/
def hasLength (minLength maxLength : ℕ) (value : String) : Bool :=
  minLength ≤ value.length && value.length ≤ maxLength

/-- The field `email`: what the request object holds, or `none` when the request is refused. -/
def emailField (rt : Runtime) (value : String) : Option String :=
  if hasLength 3 255 value = true then validateEmailShape rt value else none

/-- The field `challenge_id`. -/
def challengeIdField (value : String) : Bool := hasLength 20 256 value

/-- `EmailOtpService._mask_email` -/
def maskEmail (email : String) : String :=
  if '@' ∈ email.toList then
    String.ofList ((partitionAt email).1.toList.take 1) ++ "***@" ++ (partitionAt email).2
  else "***"

example : maskEmail "ana@ouros.app" = "a***@ouros.app" := by decide

end OurosAuth
