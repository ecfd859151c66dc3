import Mathlib.Data.Rat.Floor
import Mathlib.Tactic.NormNum

namespace OurosAuth

/-!
# What the service takes from its runtime

* `Runtime` — the string and hash functions whose results the service only stores and
  compares; nothing below depends on what they compute, so they stay parameters.
* `HmacCollisionFree` / `DigestCollisionFree` — the two cryptographic assumptions.
* `pyInt` — truncation of a clock value, `int(x)`.
* `Instant` — a reading of `time.time()`.
-/

/-- Library functions the service calls. -/
structure Runtime where
  /-- `str.strip` -/
  strip : String → String
  /-- `str.lower` -/
  lower : String → String
  /-- `lower()` of the database -/
  pgLower : String → String
  /-- `\d` of a pattern: a Unicode decimal digit -/
  isDecimalDigit : Char → Bool
  /-- `verify_password`: raw password, stored bcrypt hash -/
  verifyPassword : String → String → Bool
  /-- `hmac.new(key, payload, hashlib.sha256).hexdigest()` -/
  hmacSha256Hex : String → String → String
  /-- `hashlib.sha256(value).hexdigest()` -/
  sha256Hex : String → String

/-- `email.strip().lower()`, the normalisation every layer applies. -/
def Runtime.normalizeEmail (rt : Runtime) (email : String) : String := rt.lower (rt.strip email)

/-- No two payloads have one HMAC under the service's key. -/
def HmacCollisionFree (rt : Runtime) (key : String) : Prop :=
  Function.Injective (rt.hmacSha256Hex key)

/-- No two values have one SHA-256 digest. -/
def DigestCollisionFree (rt : Runtime) : Prop := Function.Injective rt.sha256Hex

/-- A runtime for examples.  Lower-case addresses are their own normal form, and the hashes
    keep their input, so they are collision free. -/
def Runtime.sample : Runtime where
  strip := id
  lower := id
  pgLower := id
  isDecimalDigit := Char.isDigit
  verifyPassword := fun raw encoded => encoded = "bcrypt:" ++ raw
  hmacSha256Hex := fun key payload => "hmac:" ++ key ++ ":" ++ payload
  sha256Hex := fun value => "sha256:" ++ value

theorem sample_hmacCollisionFree (key : String) : HmacCollisionFree Runtime.sample key :=
  fun _ _ h => (String.append_right_inj _).mp h

theorem sample_digestCollisionFree : DigestCollisionFree Runtime.sample :=
  fun _ _ h => (String.append_right_inj _).mp h

/-- `str.isascii` -/
def isAscii (s : String) : Bool := s.toList.all fun c => decide (c.toNat < 128)

/-! ### Clock values -/

/-- `int(x)`: truncation towards zero. -/
def pyInt (q : ℚ) : ℤ := q.num.tdiv q.den

/-- On the non-negative clock values truncation is the floor. -/
theorem pyInt_eq_floor {q : ℚ} (h : 0 ≤ q) : pyInt q = ⌊q⌋ := by
  rw [pyInt, Int.tdiv_eq_ediv_of_nonneg (Rat.num_nonneg.mpr h), Rat.floor_def']

/-- A reading of `time.time()`.  The interpreter keeps the clock as a signed 64-bit count
    of nanoseconds, so no reading reaches `2⁶³ / 10⁹` seconds. -/
structure Instant where
  seconds : ℚ
  nonneg : 0 ≤ seconds
  lt_max : seconds < 9223372037
  deriving DecidableEq

namespace Instant

/-- `int(time.time())` -/
def whole (t : Instant) : ℤ := pyInt t.seconds

theorem whole_eq_floor (t : Instant) : t.whole = ⌊t.seconds⌋ := pyInt_eq_floor t.nonneg

theorem whole_nonneg (t : Instant) : 0 ≤ t.whole := by
  rw [whole_eq_floor]
  exact Int.floor_nonneg.mpr t.nonneg

/-- The whole seconds of a reading are its integer part. -/
theorem whole_le (t : Instant) : (t.whole : ℚ) ≤ t.seconds := by
  rw [whole_eq_floor]
  exact Int.floor_le _

theorem seconds_lt (t : Instant) : t.seconds < t.whole + 1 := by
  rw [whole_eq_floor]
  exact Int.lt_floor_add_one _

theorem whole_lt_max (t : Instant) : t.whole < 9223372037 := by
  have h : (t.whole : ℚ) < 9223372037 := lt_of_le_of_lt t.whole_le t.lt_max
  exact_mod_cast h

theorem whole_mono {t t' : Instant} (h : t.seconds ≤ t'.seconds) : t.whole ≤ t'.whole := by
  rw [whole_eq_floor, whole_eq_floor]
  exact Int.floor_le_floor h

/-- A reading whose whole seconds are before an integer is before it. -/
theorem seconds_lt_of_whole_lt {t : Instant} {n : ℤ} (h : t.whole < n) : t.seconds < n := by
  have hnext : ((t.whole + 1 : ℤ) : ℚ) ≤ n := by exact_mod_cast h
  push_cast at hnext
  exact lt_of_lt_of_le t.seconds_lt hnext

/-- A reading of a whole number of seconds, for examples. -/
def ofNat (n : ℕ) (h : n < 9223372037) : Instant where
  seconds := n
  nonneg := Nat.cast_nonneg n
  lt_max := by exact_mod_cast h

end Instant

/-- When the concrete runs take place. -/
def sampleNow : Instant := .ofNat 1700000000 (by norm_num)

end OurosAuth
