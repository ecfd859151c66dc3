import OurosAuth.Core.Settings
import Mathlib.Data.List.Induction
import Mathlib.Data.List.Nodup

namespace OurosAuth

/-!
# Rate-limit rules

The rules of `RateLimiter.check_credentials_attempt` and `check_password_reset_attempt`, and the
keys of their counters.  `rateKey_inj`: a key belongs to one rule and one digest.
-/

/-- What a rule counts by. -/
inductive Dimension
  | ip
  | email
  deriving DecidableEq

/-- `RateLimitRule` -/
structure RateLimitRule where
  name : String
  limit : ℕ
  windowSeconds : ℕ
  dimension : Dimension
  deriving DecidableEq

/-- The two checks of the limiter. -/
inductive LimiterCheck
  | credentials
  | passwordReset
  deriving DecidableEq

/-- The first rule `check_password_reset_attempt` builds. -/
def resetIpRule : RateLimitRule := ⟨"password-reset-ip-minute", 3, 60, .ip⟩

/-- The second rule `check_password_reset_attempt` builds. -/
def resetEmailRule : RateLimitRule := ⟨"password-reset-email-15min", 5, 15 * 60, .email⟩

/-- The rules `check_password_reset_attempt` goes through, in order. -/
def passwordResetRules : List RateLimitRule := [resetIpRule, resetEmailRule]

/-- The rules each check goes through, in order; those of the credentials are
    `RateLimiter._rules`. -/
def Settings.rules (s : Settings) : LimiterCheck → List RateLimitRule
  | .credentials =>
      [⟨"ip-burst", s.authRateLimitIpBurst, s.authRateLimitIpBurstWindowSeconds, .ip⟩,
        ⟨"ip-minute", s.authRateLimitIpPerMinute, 60, .ip⟩,
        ⟨"ip-fifteen-minutes", s.authRateLimitIpPer15Minutes, 15 * 60, .ip⟩,
        ⟨"email-fifteen-minutes", s.authRateLimitEmailPer15Minutes, 15 * 60, .email⟩]
  | .passwordReset => passwordResetRules

/-- The value a request is counted under. -/
def Dimension.value (rt : Runtime) (ip email : String) : Dimension → String
  | .ip => ip
  | .email => rt.normalizeEmail email

/-- The key of a rule's counter for a value. -/
def rateKey (rt : Runtime) (rule : RateLimitRule) (value : String) : String :=
  "ouros:auth:rate-limit:" ++ rule.name ++ ":" ++ rt.sha256Hex value

/-- What `_increment` answers: the count in the current window, and when to retry. -/
structure Counted where
  count : ℕ
  retryAfter : ℕ
  deriving DecidableEq

/-- The loop both checks share: the longest wait among the rules that are exceeded. -/
def longestRetryAfter (counted : List (RateLimitRule × Counted)) : ℕ :=
  counted.foldl (fun longest rc =>
    if rc.1.limit < rc.2.count then max longest rc.2.retryAfter else longest) 0

/-! ### Admission -/

private theorem foldl_retryAfter_eq_zero (counted : List (RateLimitRule × Counted))
    (hpos : ∀ rc ∈ counted, 1 ≤ rc.2.retryAfter) (longest : ℕ) :
    counted.foldl (fun longest rc =>
        if rc.1.limit < rc.2.count then max longest rc.2.retryAfter else longest) longest = 0 ↔
      longest = 0 ∧ ∀ rc ∈ counted, rc.2.count ≤ rc.1.limit := by
  induction counted generalizing longest with
  | nil => simp
  | cons rc counted ih =>
    rw [List.foldl_cons, ih fun rc' hrc' => hpos rc' (List.mem_cons_of_mem _ hrc')]
    have hrc := hpos rc List.mem_cons_self
    split_ifs with hlimit
    · constructor
      · intro h
        omega
      · intro h
        exact absurd (h.2 rc List.mem_cons_self) (by omega)
    · constructor
      · rintro ⟨hzero, hall⟩
        refine ⟨hzero, fun rc' hrc' => ?_⟩
        rcases List.mem_cons.mp hrc' with rfl | hrc'
        · omega
        · exact hall rc' hrc'
      · rintro ⟨hzero, hall⟩
        exact ⟨hzero, fun rc' hrc' => hall rc' (List.mem_cons_of_mem _ hrc')⟩

/-- An attempt is admitted exactly when no rule is exceeded. -/
theorem longestRetryAfter_eq_zero {counted : List (RateLimitRule × Counted)}
    (hpos : ∀ rc ∈ counted, 1 ≤ rc.2.retryAfter) :
    longestRetryAfter counted = 0 ↔ ∀ rc ∈ counted, rc.2.count ≤ rc.1.limit := by
  rw [longestRetryAfter, foldl_retryAfter_eq_zero counted hpos]
  exact and_iff_right rfl

/-- The longest wait is the wait of an exceeded rule, and no exceeded rule asks for more. -/
theorem longestRetryAfter_spec (counted : List (RateLimitRule × Counted)) :
    (∀ rc ∈ counted, rc.1.limit < rc.2.count → rc.2.retryAfter ≤ longestRetryAfter counted) ∧
      (0 < longestRetryAfter counted →
        ∃ rc ∈ counted, rc.1.limit < rc.2.count ∧ rc.2.retryAfter = longestRetryAfter counted) := by
  unfold longestRetryAfter
  -- from the right, since the fold has seen the rules before the last one
  induction counted using List.reverseRecOn with
  | nil => exact ⟨fun rc hrc => absurd hrc List.not_mem_nil, fun h => absurd h (lt_irrefl 0)⟩
  | append_singleton counted last ih =>
    rw [List.foldl_append, List.foldl_cons, List.foldl_nil]
    generalize counted.foldl (fun longest (rc : RateLimitRule × Counted) =>
      if rc.1.limit < rc.2.count then max longest rc.2.retryAfter else longest) 0 = longest at ih ⊢
    obtain ⟨hle, hattained⟩ := ih
    by_cases hlast : last.1.limit < last.2.count
    · rw [if_pos hlast]
      constructor
      · intro rc hrc hexceeded
        rcases List.mem_append.mp hrc with hrc | hrc
        · exact (hle rc hrc hexceeded).trans (le_max_left _ _)
        · rw [List.mem_singleton.mp hrc]
          exact le_max_right _ _
      · intro hpos
        rcases le_or_gt longest last.2.retryAfter with h | h
        · exact ⟨last, List.mem_append_right _ List.mem_cons_self, hlast, (max_eq_right h).symm⟩
        · obtain ⟨rc, hrc, hexceeded, heq⟩ := hattained (by omega)
          exact ⟨rc, List.mem_append_left _ hrc, hexceeded, heq.trans (max_eq_left h.le).symm⟩
    · rw [if_neg hlast]
      constructor
      · intro rc hrc hexceeded
        rcases List.mem_append.mp hrc with hrc | hrc
        · exact hle rc hrc hexceeded
        · rw [List.mem_singleton.mp hrc] at hexceeded
          exact absurd hexceeded hlast
      · intro hpos
        obtain ⟨rc, hrc, hexceeded, heq⟩ := hattained hpos
        exact ⟨rc, List.mem_append_left _ hrc, hexceeded, heq⟩

/-! ### Keys -/

variable {rt : Runtime} {settings : Settings}

/-- The rules of both checks. -/
def Settings.allRules (s : Settings) : List RateLimitRule :=
  s.rules .credentials ++ s.rules .passwordReset

theorem mem_allRules {check : LimiterCheck} {rule : RateLimitRule}
    (h : rule ∈ settings.rules check) : rule ∈ settings.allRules := by
  cases check
  · exact List.mem_append_left _ h
  · exact List.mem_append_right _ h

/-- Every limit lets one attempt through. -/
theorem one_le_limit {check : LimiterCheck} {rule : RateLimitRule}
    (h : rule ∈ settings.rules check) : 1 ≤ rule.limit := by
  cases check with
  | credentials =>
    simp only [Settings.rules, List.mem_cons, List.not_mem_nil, or_false] at h
    rcases h with rfl | rfl | rfl | rfl
    · exact settings.ipBurst_ge
    · exact settings.ipPerMinute_ge
    · exact settings.ipPer15Minutes_ge
    · exact settings.emailPer15Minutes_ge
  | passwordReset =>
    simp only [Settings.rules, passwordResetRules, List.mem_cons, List.not_mem_nil, or_false] at h
    rcases h with rfl | rfl <;> decide

/-- No check has a rule twice. -/
theorem nodup_rules (settings : Settings) (check : LimiterCheck) :
    (settings.rules check).Nodup := by
  have hnames : ((settings.rules check).map RateLimitRule.name).Nodup := by
    cases check
    · show ["ip-burst", "ip-minute", "ip-fifteen-minutes", "email-fifteen-minutes"].Nodup
      decide
    · show ["password-reset-ip-minute", "password-reset-email-15min"].Nodup
      decide
  exact hnames.of_map _

/-- The settings choose limits, not names. -/
theorem allRules_names (settings : Settings) :
    settings.allRules.map RateLimitRule.name =
      ["ip-burst", "ip-minute", "ip-fifteen-minutes", "email-fifteen-minutes",
        "password-reset-ip-minute", "password-reset-email-15min"] := rfl

/-- A rule is determined by its name. -/
theorem rule_eq_of_name {check check' : LimiterCheck} {rule rule' : RateLimitRule}
    (h : rule ∈ settings.rules check) (h' : rule' ∈ settings.rules check')
    (hname : rule.name = rule'.name) : rule = rule' := by
  have hnodup : (settings.allRules.map RateLimitRule.name).Nodup := by
    rw [allRules_names]
    decide
  exact List.inj_on_of_nodup_map hnodup (mem_allRules h) (mem_allRules h') hname

/-- No rule name contains the separator of the keys. -/
theorem colon_not_mem_name {check : LimiterCheck} {rule : RateLimitRule}
    (h : rule ∈ settings.rules check) : ':' ∉ rule.name.toList := by
  have hmem := List.mem_map_of_mem (f := RateLimitRule.name) (mem_allRules h)
  rw [allRules_names] at hmem
  have hall : ∀ name ∈ ["ip-burst", "ip-minute", "ip-fifteen-minutes", "email-fifteen-minutes",
      "password-reset-ip-minute", "password-reset-email-15min"], ':' ∉ name.toList := by decide
  exact hall _ hmem

/-- What stands before the first separator is determined. -/
private theorem append_colon_inj {a a' b b' : List Char} (ha : ':' ∉ a) (ha' : ':' ∉ a')
    (h : a ++ ':' :: b = a' ++ ':' :: b') : a = a' ∧ b = b' := by
  induction a generalizing a' with
  | nil =>
    cases a' with
    | nil => exact ⟨rfl, (List.cons.inj h).2⟩
    | cons c a' => exact absurd ((List.cons.inj h).1 ▸ List.mem_cons_self) ha'
  | cons c a ih =>
    cases a' with
    | nil => exact absurd ((List.cons.inj h).1 ▸ List.mem_cons_self) ha
    | cons c' a' =>
      obtain ⟨hc, hrest⟩ := List.cons.inj h
      obtain ⟨rfl, rfl⟩ := ih (fun hm => ha (List.mem_cons_of_mem _ hm))
        (fun hm => ha' (List.mem_cons_of_mem _ hm)) hrest
      exact ⟨by rw [hc], rfl⟩

/-- **A key belongs to one rule and one digest.** -/
theorem rateKey_inj {check check' : LimiterCheck} {rule rule' : RateLimitRule}
    {value value' : String} (h : rule ∈ settings.rules check) (h' : rule' ∈ settings.rules check')
    (hkey : rateKey rt rule value = rateKey rt rule' value') :
    rule = rule' ∧ rt.sha256Hex value = rt.sha256Hex value' := by
  unfold rateKey at hkey
  rw [String.append_assoc, String.append_assoc, String.append_assoc, String.append_assoc,
    String.append_right_inj] at hkey
  have hlist := congrArg String.toList hkey
  have hcolon : ":".toList = [':'] := by decide
  rw [String.toList_append, String.toList_append, String.toList_append, String.toList_append,
    hcolon, List.singleton_append, List.singleton_append] at hlist
  obtain ⟨hname, hvalue⟩ := append_colon_inj (colon_not_mem_name h) (colon_not_mem_name h') hlist
  exact ⟨rule_eq_of_name h h' (String.toList_inj.mp hname), String.toList_inj.mp hvalue⟩

end OurosAuth
