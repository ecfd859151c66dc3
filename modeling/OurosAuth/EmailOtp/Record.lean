import OurosAuth.Core.Settings
import Mathlib.Data.List.Basic

namespace OurosAuth

/-!
# Challenge records

What `EmailOtpService` stores for one challenge.  A record is a JSON object, so its fields
are read back loosely typed and checked on use (`Record.checked?`); `loginRecord` and
`resetRecord` are the two shapes the service writes.

* `codeDigest` — the HMAC over `challenge_id:code` stored in place of the code;
  `codeDigest_inj` says what a collision-free HMAC gives: equal digests of six-character
  codes mean equal challenge ids and equal codes.
* `Flow` — the native-login and the password-reset flow share the service and differ in
  their key prefixes.
-/

/-- The JSON values a record can hold (`null` also stands for an absent field). -/
inductive Json
  | null
  | bool (b : Bool)
  | num (n : ℤ)
  | str (s : String)
  deriving DecidableEq

/-- The value when `isinstance(x, int)`; a Python boolean is an integer. -/
def Json.asInt? : Json → Option ℤ
  | .num n => some n
  | .bool b => some (if b then 1 else 0)
  | _ => none

/-- The value when `isinstance(x, str)`. -/
def Json.asStr? : Json → Option String
  | .str s => some s
  | _ => none

/-- `str(x)` -/
def Json.toText : Json → String
  | .null => "None"
  | .bool b => if b then "True" else "False"
  | .num n => toString n
  | .str s => s

/-- A stored challenge. -/
structure Record where
  email : Json
  accountType : Json := .null
  databaseId : Json := .null
  codeDigest : Json
  attempts : Json
  expiresAt : Json
  purpose : Json := .null
  deriving DecidableEq

/-- The fields of a record that passed the type checks. -/
structure CheckedRecord where
  email : String
  codeDigest : String
  attempts : ℤ
  expiresAt : ℤ
  deriving DecidableEq

/-- The type checks both `verify` and `verify_password_reset` start with. -/
def Record.checked? (r : Record) : Option CheckedRecord :=
  match r.email.asStr?, r.expiresAt.asInt?, r.attempts.asInt?, r.codeDigest.asStr? with
  | some email, some expiresAt, some attempts, some codeDigest =>
      some ⟨email, codeDigest, attempts, expiresAt⟩
  | _, _, _, _ => none

/-- `record["attempts"] = attempts` -/
def Record.withAttempts (r : Record) (attempts : ℤ) : Record := { r with attempts := .num attempts }

/-- The checked fields are the stored ones, each of its type. -/
theorem Record.checked?_eq_some {r : Record} {c : CheckedRecord} :
    r.checked? = some c ↔ r.email.asStr? = some c.email ∧ r.expiresAt.asInt? = some c.expiresAt ∧
      r.attempts.asInt? = some c.attempts ∧ r.codeDigest.asStr? = some c.codeDigest := by
  unfold Record.checked?
  constructor
  · intro h
    split at h
    · rename_i email expiresAt attempts codeDigest h1 h2 h3 h4
      obtain rfl := Option.some.inj h
      exact ⟨h1, h2, h3, h4⟩
    · exact absurd h (by simp)
  · rintro ⟨h1, h2, h3, h4⟩
    rw [h1, h2, h3, h4]

/-- Counting an attempt changes no other checked field. -/
theorem Record.checked?_withAttempts {r : Record} {c : CheckedRecord} (h : r.checked? = some c)
    (n : ℤ) : (r.withAttempts n).checked? = some { c with attempts := n } := by
  obtain ⟨hemail, hexpires, -, hdigest⟩ := checked?_eq_some.mp h
  exact checked?_eq_some.mpr ⟨hemail, hexpires, rfl, hdigest⟩

/-- The checked attempts are the stored ones. -/
theorem Record.attempts_of_checked? {r : Record} {c : CheckedRecord} (h : r.checked? = some c) :
    r.attempts.asInt? = some c.attempts := (checked?_eq_some.mp h).2.2.1

/-- The two flows that share the service. -/
inductive Flow
  | login
  | reset
  deriving DecidableEq

/-! ### The stored code -/

/-- The payload `f"{challenge_id}:{code}"`. -/
def codePayload (challengeId code : String) : String := challengeId ++ ":" ++ code

/-- `EmailOtpService._code_digest` -/
def codeDigest (rt : Runtime) (svc : OtpService) (challengeId code : String) : String :=
  rt.hmacSha256Hex svc.hmacSecret (codePayload challengeId code)

/-- Payloads whose codes have one length split in one way only. -/
theorem codePayload_inj {challengeId challengeId' code code' : String}
    (hlen : code.length = code'.length)
    (h : codePayload challengeId code = codePayload challengeId' code') :
    challengeId = challengeId' ∧ code = code' := by
  have hlist := congrArg String.toList h
  simp only [codePayload, String.toList_append] at hlist
  obtain ⟨hid, hcode⟩ :=
    List.append_inj' hlist (by rwa [String.length_toList, String.length_toList])
  obtain ⟨hid, -⟩ := List.append_inj' hid rfl
  exact ⟨String.toList_inj.mp hid, String.toList_inj.mp hcode⟩

/-- **A digest pins its challenge and its code.** -/
theorem codeDigest_inj {rt : Runtime} {svc : OtpService}
    (hmac : HmacCollisionFree rt svc.hmacSecret) {challengeId challengeId' code code' : String}
    (hlen : code.length = code'.length)
    (h : codeDigest rt svc challengeId code = codeDigest rt svc challengeId' code') :
    challengeId = challengeId' ∧ code = code' :=
  codePayload_inj hlen (hmac h)

/-- The alphabet of `secrets.token_urlsafe`. -/
def isUrlsafe (c : Char) : Bool := c.isAlphanum || c = '-' || c = '_'

/-- Could `secrets.token_urlsafe(32)` return this?  32 bytes are 43 characters. -/
def isChallengeToken (s : String) : Bool := s.length = 43 && s.toList.all isUrlsafe

/-- One challenge id, for concrete runs. -/
def sampleToken : String := "twoU7h4V16qUvYEOwG9Mt3o0bo8zrva_6uPXxEQtepM"

/-- Another one. -/
def sampleOtherToken : String := "Qk3vJ8zT1yXw5uRs7nLbG2hFdC9aPq4eM6oVxYtZ0Ii"

/-- Could `f"{secrets.randbelow(1_000_000):06d}"` return this? -/
def isOtpCode (s : String) : Bool := s.length = 6 && s.toList.all Char.isDigit

theorem isOtpCode_length {s : String} (h : isOtpCode s = true) : s.length = 6 := by
  simp only [isOtpCode, Bool.and_eq_true, decide_eq_true_eq] at h
  exact h.1

/-- The field `code` of a request, pattern `^\d{6}$`. -/
def isCodeField (rt : Runtime) (s : String) : Bool :=
  s.length = 6 && s.toList.all rt.isDecimalDigit

theorem isCodeField_length {rt : Runtime} {s : String} (h : isCodeField rt s = true) :
    s.length = 6 := by
  simp only [isCodeField, Bool.and_eq_true, decide_eq_true_eq] at h
  exact h.1

/-! ### The two shapes written -/

/-- The record `start` stores; `now` is `int(time.time())`. -/
def loginRecord (rt : Runtime) (svc : OtpService) (challengeId email code : String) (now : ℤ) :
    Record where
  email := .str (rt.normalizeEmail email)
  codeDigest := .str (codeDigest rt svc challengeId code)
  attempts := .num 0
  expiresAt := .num (now + svc.ttlSeconds)

/-- The record `start_password_reset` stores. -/
def resetRecord (rt : Runtime) (svc : OtpService) (challengeId email accountType : String)
    (databaseId : ℤ) (code : String) (now : ℤ) : Record where
  email := .str (rt.normalizeEmail email)
  accountType := .str accountType
  databaseId := .num databaseId
  codeDigest := .str (codeDigest rt svc challengeId code)
  attempts := .num 0
  expiresAt := .num (now + svc.ttlSeconds)
  purpose := .str "password_reset"

@[simp] theorem loginRecord_checked? (rt : Runtime) (svc : OtpService)
    (challengeId email code : String) (now : ℤ) :
    (loginRecord rt svc challengeId email code now).checked? =
      some ⟨rt.normalizeEmail email, codeDigest rt svc challengeId code, 0,
        now + svc.ttlSeconds⟩ := rfl

@[simp] theorem resetRecord_checked? (rt : Runtime) (svc : OtpService)
    (challengeId email accountType : String) (databaseId : ℤ) (code : String) (now : ℤ) :
    (resetRecord rt svc challengeId email accountType databaseId code now).checked? =
      some ⟨rt.normalizeEmail email, codeDigest rt svc challengeId code, 0,
        now + svc.ttlSeconds⟩ := rfl

end OurosAuth
