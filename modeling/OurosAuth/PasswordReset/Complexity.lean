import OurosAuth.Lib.Pattern
import OurosAuth.PasswordReset.ConfirmErrors

namespace OurosAuth

open Patterns

/-!
# The new-password pattern

`CREDENTIAL_COMPLEXITY_PATTERN`, run by the backtracking matcher, against the language it stands
for.

* `credentialComplexityPattern` — four lookaheads and a bounded repetition of the dot;
* `fullmatch_eq_credentialComplexity` — its matches, class by class;
* `ComplexPassword` — the language: no line break, neither LF nor CR;
* `complexity_as_documented_iff` — the two differ on the passwords whose only fault is a CR.
-/

/-! ### The pattern -/

/-- `.`, without `DOTALL` -/
def dot (c : Char) : Bool := c ≠ '\n'

/-- `[a-z]` -/
def isLowerLetter (c : Char) : Bool := 'a' ≤ c && c ≤ 'z'

/-- `[A-Z]` -/
def isUpperLetter (c : Char) : Bool := 'A' ≤ c && c ≤ 'Z'

/-- `[^a-zA-Z0-9]` -/
def isSpecial (c : Char) : Bool :=
  !('a' ≤ c && c ≤ 'z' || 'A' ≤ c && c ≤ 'Z' || '0' ≤ c && c ≤ '9')

/-- `(?=.*[…])` -/
def lookFor (p : Char → Bool) : Pattern Char := .ahead ((Pattern.many dot).seq (Pattern.one p))

/-- `CREDENTIAL_COMPLEXITY_PATTERN` -/
def credentialComplexityPattern (rt : Runtime) : Pattern Char :=
  (lookFor isLowerLetter).seq ((lookFor isUpperLetter).seq ((lookFor rt.isDecimalDigit).seq
    ((lookFor isSpecial).seq (.chars dot 8 (some 20)))))

/-- `PasswordResetConfirmRequest`: the token and the password it holds, or `none` when a field is
    refused. -/
def passwordResetConfirmRequest (rt : Runtime) (resetToken newPassword : String) :
    Option (String × String) :=
  if 1 ≤ resetToken.length ∧
      (credentialComplexityPattern rt).fullmatch newPassword.toList = true then
    some (resetToken, newPassword)
  else none

/-! ### The language -/

/-- What the pattern is documented to accept. -/
structure ComplexPassword (rt : Runtime) (password : String) : Prop where
  least : 8 ≤ password.length
  most : password.length ≤ 20
  noLineFeed : '\n' ∉ password.toList
  noCarriageReturn : '\r' ∉ password.toList
  lower : ∃ c ∈ password.toList, isLowerLetter c = true
  upper : ∃ c ∈ password.toList, isUpperLetter c = true
  digit : ∃ c ∈ password.toList, rt.isDecimalDigit c = true
  special : ∃ c ∈ password.toList, isSpecial c = true

/-- The pattern accepts the language, and a password with a line break is refused by the request and
    by `confirm_reset`, whatever the token and the dependencies. -/
def AsDocumented (rt : Runtime) (password : String) : Prop :=
  ((credentialComplexityPattern rt).fullmatch password.toList = true ↔
    ComplexPassword rt password) ∧
  ('\n' ∈ password.toList ∨ '\r' ∈ password.toList →
    (∀ resetToken, passwordResetConfirmRequest rt resetToken password = none) ∧
    ∀ now token reserve spring release,
      ∃ e, confirmReset rt now token password reserve spring release = .error e)

variable {rt : Runtime} {password : String} {p : Char → Bool} {r : Pattern Char} {s : List Char}

/-! ### What matches -/

/-- A lookahead finds its character, if there is no line feed in the way. -/
theorem fullmatch_lookFor (hdot : ∀ c ∈ s, dot c = true) :
    ((lookFor p).seq r).fullmatch s = true ↔ (∃ c ∈ s, p c = true) ∧ r.fullmatch s = true := by
  rw [lookFor, Pattern.fullmatch_ahead_seq, Pattern.exists_mem_ends_find_of_forall hdot]

/-- The dot reaches everything but a line feed. -/
theorem dot_iff : (∀ c ∈ s, dot c = true) ↔ '\n' ∉ s := by
  simp only [dot, ne_eq, decide_not, Bool.not_eq_true', decide_eq_false_iff_not]
  exact ⟨fun h hmem => h _ hmem rfl, fun h c hc heq => h (heq ▸ hc)⟩

/-- Whatever the lookaheads see, the repetition at the end has to reach the end. -/
theorem dot_of_fullmatch (hmatch : (credentialComplexityPattern rt).fullmatch s = true) :
    ∀ c ∈ s, dot c = true := by
  unfold credentialComplexityPattern lookFor at hmatch
  rw [Pattern.fullmatch_ahead_seq, Pattern.fullmatch_ahead_seq, Pattern.fullmatch_ahead_seq,
    Pattern.fullmatch_ahead_seq, Pattern.fullmatch_chars] at hmatch
  exact hmatch.2.2.2.2.1

/-- **The accepted passwords.** -/
theorem fullmatch_complexity_iff :
    (credentialComplexityPattern rt).fullmatch password.toList = true ↔
      8 ≤ password.length ∧ password.length ≤ 20 ∧ '\n' ∉ password.toList ∧
        (∃ c ∈ password.toList, isLowerLetter c = true) ∧
        (∃ c ∈ password.toList, isUpperLetter c = true) ∧
        (∃ c ∈ password.toList, rt.isDecimalDigit c = true) ∧
        ∃ c ∈ password.toList, isSpecial c = true := by
  by_cases hdot : ∀ c ∈ password.toList, dot c = true
  · rw [credentialComplexityPattern, fullmatch_lookFor hdot, fullmatch_lookFor hdot,
      fullmatch_lookFor hdot, fullmatch_lookFor hdot, Pattern.fullmatch_chars,
      ← String.length_toList]
    constructor
    · rintro ⟨hlower, hupper, hdigit, hspecial, -, hleast, hmost⟩
      exact ⟨hleast, hmost, dot_iff.mp hdot, hlower, hupper, hdigit, hspecial⟩
    · rintro ⟨hleast, hmost, -, hlower, hupper, hdigit, hspecial⟩
      exact ⟨hlower, hupper, hdigit, hspecial, hdot, hleast, hmost⟩
  · constructor
    · exact fun hmatch => absurd (dot_of_fullmatch hmatch) hdot
    · exact fun h => absurd (dot_iff.mpr h.2.2.1) hdot

/-- The check of `confirm_reset` is the pattern. -/
theorem fullmatch_eq_credentialComplexity (rt : Runtime) (password : String) :
    (credentialComplexityPattern rt).fullmatch password.toList =
      credentialComplexity rt password := by
  rw [Bool.eq_iff_iff, fullmatch_complexity_iff, credentialComplexity]
  simp only [Bool.and_eq_true, decide_eq_true_eq, Bool.not_eq_true', List.contains_eq_mem,
    decide_eq_false_iff_not, List.any_eq_true, isLowerLetter, isUpperLetter, isSpecial, and_assoc]

/-! ### What is refused -/

/-- A password that does not match is refused by the request. -/
theorem passwordResetConfirmRequest_eq_none
    (h : (credentialComplexityPattern rt).fullmatch password.toList = false) (resetToken : String) :
    passwordResetConfirmRequest rt resetToken password = none := by
  rw [passwordResetConfirmRequest, if_neg]
  simp [h]

/-- It is refused by `confirm_reset` too. -/
theorem confirmReset_refuses
    (h : (credentialComplexityPattern rt).fullmatch password.toList = false) (now : Instant)
    (token : ResetToken) (reserve : StoreReply Bool) (spring : SpringReply)
    (release : StoreReply Unit) :
    ∃ e, confirmReset rt now token password reserve spring release = .error e := by
  rw [fullmatch_eq_credentialComplexity] at h
  have hcheck : ∃ e, confirmCheck rt now token password = .error e := by
    unfold confirmCheck
    cases verifyResetToken now token with
    | error e => exact ⟨e, rfl⟩
    | ok claims => exact ⟨_, if_pos h⟩
  obtain ⟨e, he⟩ := hcheck
  exact ⟨e.toConfirm, by rw [confirmReset, he]⟩

/-- The carriage return is a special character to the pattern. -/
theorem isSpecial_carriageReturn : isSpecial '\r' = true := by decide

/-- **When the pattern is as documented.** Unless the password has a carriage return and is
    otherwise in order: 8 to 20 characters, no line feed, a letter of each case and a digit. -/
theorem complexity_as_documented_iff (rt : Runtime) (password : String) :
    AsDocumented rt password ↔
      ('\r' ∈ password.toList →
        password.length < 8 ∨ 20 < password.length ∨ '\n' ∈ password.toList ∨
          (∀ c ∈ password.toList, isLowerLetter c = false) ∨
          (∀ c ∈ password.toList, isUpperLetter c = false) ∨
          ∀ c ∈ password.toList, rt.isDecimalDigit c = false) := by
  constructor
  · rintro ⟨hiff, -⟩ hreturn
    by_contra hnot
    simp only [not_or, not_lt, not_forall, Bool.not_eq_false, exists_prop] at hnot
    obtain ⟨hleast, hmost, hfeed, hlower, hupper, hdigit⟩ := hnot
    -- the carriage return is the special character, whatever else there is
    have hmatch := fullmatch_complexity_iff.mpr ⟨hleast, hmost, hfeed, hlower, hupper, hdigit,
      '\r', hreturn, isSpecial_carriageReturn⟩
    exact (hiff.mp hmatch).noCarriageReturn hreturn
  · intro hcond
    have hno : (credentialComplexityPattern rt).fullmatch password.toList = true →
        '\r' ∉ password.toList := by
      intro hmatch hreturn
      obtain ⟨hleast, hmost, hfeed, ⟨a, ha, hlower⟩, ⟨b, hb, hupper⟩, ⟨d, hd, hdigit⟩, -⟩ :=
        fullmatch_complexity_iff.mp hmatch
      rcases hcond hreturn with h | h | h | h | h | h
      · omega
      · omega
      · exact hfeed h
      · exact absurd (h a ha) (by simp [hlower])
      · exact absurd (h b hb) (by simp [hupper])
      · exact absurd (h d hd) (by simp [hdigit])
    refine ⟨⟨fun hmatch => ?_, fun h => ?_⟩, fun hbreak => ?_⟩
    · obtain ⟨hleast, hmost, hfeed, hlower, hupper, hdigit, hspecial⟩ :=
        fullmatch_complexity_iff.mp hmatch
      exact ⟨hleast, hmost, hfeed, hno hmatch, hlower, hupper, hdigit, hspecial⟩
    · exact fullmatch_complexity_iff.mpr
        ⟨h.least, h.most, h.noLineFeed, h.lower, h.upper, h.digit, h.special⟩
    · have hfails : (credentialComplexityPattern rt).fullmatch password.toList = false := by
        rw [← Bool.not_eq_true]
        intro hmatch
        rcases hbreak with hfeed | hreturn
        · exact (fullmatch_complexity_iff.mp hmatch).2.2.1 hfeed
        · exact hno hmatch hreturn
      exact ⟨passwordResetConfirmRequest_eq_none hfails, confirmReset_refuses hfails⟩

-- The line breaks of the tests are refused.
example : ∀ password ∈ ["ValidPass1!\n", "ValidPass1!\r\n", "Valid\nPass1!"],
    (credentialComplexityPattern .sample).fullmatch password.toList = false := by decide

/-- **A line break is accepted.** A carriage return may even be the special character. -/
theorem carriage_return_accepted :
    passwordResetConfirmRequest .sample "token" "ValidPass1\r" = some ("token", "ValidPass1\r") ∧
      ¬ AsDocumented .sample "ValidPass1\r" := by
  refine ⟨by decide, fun h => ?_⟩
  have hcomplex := h.1.mp (by decide)
  exact hcomplex.noCarriageReturn (by decide)

end OurosAuth
