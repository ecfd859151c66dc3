import Mathlib.Data.Nat.Size
import Mathlib.Data.Nat.Log
import Mathlib.Data.Int.Basic
import Mathlib.Tactic.Ring
import Mathlib.Tactic.Linarith

namespace Decimal

/-!
# Integers through floating point and fixed-precision printing

What is left of an integer that is read as an IEEE-754 double and printed with a fixed
number of significant decimal digits, both rounding to nearest with ties to even.

* `roundTo m n` — the multiple of `m` nearest to `n`;
* `toDouble n` — `n` as a double (53 significant bits);
* `printDigits p n` — the value of `n` printed with `p` significant decimal digits;
* `roundTrip p n` — printed with `p` digits and read back: the identity on every integer
  of at most `p ≤ 15` digits (`roundTrip_of_lt`).
-/

/-- The multiple of `m` nearest to the natural number `n`, ties to the even multiple. -/
def roundNat (m n : ℕ) : ℕ :=
  let q := n / m
  let r := n % m
  if 2 * r < m then q * m
  else if m < 2 * r then (q + 1) * m
  else if q % 2 = 0 then q * m else (q + 1) * m

/-- `roundNat` on the magnitude of an integer. -/
def roundTo (m : ℕ) (n : ℤ) : ℤ := n.sign * roundNat m n.natAbs

/-- The integer read as a double: rounded to 53 significant bits. -/
def toDouble (n : ℤ) : ℤ := roundTo (2 ^ (Nat.size n.natAbs - 53)) n

/-- The integer printed with `p` significant decimal digits. -/
def printDigits (p : ℕ) (n : ℤ) : ℤ := roundTo (10 ^ (Nat.log 10 n.natAbs + 1 - p)) n

/-- A number read as a double, printed with `p` digits and read back as a double. -/
def roundTrip (p : ℕ) (n : ℤ) : ℤ := toDouble (printDigits p (toDouble n))

theorem roundNat_one (n : ℕ) : roundNat 1 n = n := by
  simp [roundNat, Nat.mod_one]

theorem roundTo_one (n : ℤ) : roundTo 1 n = n := by
  rw [roundTo, roundNat_one]
  exact Int.sign_mul_natAbs n

/-- Integers of at most 53 bits are doubles. -/
theorem toDouble_of_lt {n : ℤ} (h : n.natAbs < 2 ^ 53) : toDouble n = n := by
  have hsize : Nat.size n.natAbs ≤ 53 := Nat.size_le.mpr h
  rw [toDouble, Nat.sub_eq_zero_of_le hsize, pow_zero, roundTo_one]

/-- Integers of at most `p` digits are printed exactly. -/
theorem printDigits_of_lt {p : ℕ} {n : ℤ} (hp : 0 < p) (h : n.natAbs < 10 ^ p) :
    printDigits p n = n := by
  have hlog : Nat.log 10 n.natAbs < p := by
    rcases Nat.eq_zero_or_pos n.natAbs with h0 | hpos
    · rw [h0, Nat.log_zero_right]
      exact hp
    · exact (Nat.log_lt_iff_lt_pow (by norm_num) hpos.ne').mpr h
  rw [printDigits, Nat.sub_eq_zero_of_le hlog, pow_zero, roundTo_one]

/-- **Short integers survive.** An integer of at most `p ≤ 15` digits is read back as
    itself. -/
theorem roundTrip_of_lt {p : ℕ} {n : ℤ} (hp : 0 < p) (hp15 : p ≤ 15) (h : n.natAbs < 10 ^ p) :
    roundTrip p n = n := by
  have hbits : n.natAbs < 2 ^ 53 :=
    lt_of_lt_of_le h ((Nat.pow_le_pow_right (by norm_num) hp15).trans (by norm_num))
  rw [roundTrip, toDouble_of_lt hbits, printDigits_of_lt hp h, toDouble_of_lt hbits]

-- Nineteen digits do not fit: the low five are lost to the printing.
example : roundTrip 14 123456789012345678 = 123456789012350000 := by decide +kernel

end Decimal
