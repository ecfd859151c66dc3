import OurosAuth.Core.Errors
import OurosAuth.Core.Runtime

namespace OurosAuth

/-!
# Settings

The part of `Settings` the modelled services read.  The bounds that pydantic checks when
the object is built are fields of the structure, so a settings value that the application
could not have started with cannot be written down.

`OtpService` is what `EmailOtpService` works with once `_require_ready` has passed.
-/

/-- `core/config.py`, the fields read below. -/
structure Settings where
  redisUrl : Option String
  authRateLimitIpBurst : ℕ
  authRateLimitIpBurstWindowSeconds : ℕ
  authRateLimitIpPerMinute : ℕ
  authRateLimitIpPer15Minutes : ℕ
  authRateLimitEmailPer15Minutes : ℕ
  keycloakPasswordBrokerEnabled : Bool
  ourosEmailOtpEnabled : Bool
  ourosEmailOtpHmacSecret : Option String
  ourosEmailOtpTtlSeconds : ℕ
  ourosEmailOtpMaxAttempts : ℕ
  ourosSmtpHost : Option String
  passwordResetTokenTtlSeconds : ℕ
  ipBurst_ge : 1 ≤ authRateLimitIpBurst
  ipBurstWindow_ge : 1 ≤ authRateLimitIpBurstWindowSeconds
  ipPerMinute_ge : 1 ≤ authRateLimitIpPerMinute
  ipPer15Minutes_ge : 1 ≤ authRateLimitIpPer15Minutes
  emailPer15Minutes_ge : 1 ≤ authRateLimitEmailPer15Minutes
  otpTtl_ge : 60 ≤ ourosEmailOtpTtlSeconds
  otpTtl_le : ourosEmailOtpTtlSeconds ≤ 900
  otpAttempts_ge : 1 ≤ ourosEmailOtpMaxAttempts
  otpAttempts_le : ourosEmailOtpMaxAttempts ≤ 10
  resetTtl_ge : 60 ≤ passwordResetTokenTtlSeconds
  resetTtl_le : passwordResetTokenTtlSeconds ≤ 3600
  /-- `validate_pool_sizes`: OTP needs a secret of 32 characters and an SMTP host. -/
  otp_validated : ourosEmailOtpEnabled = true →
    (∃ secret, ourosEmailOtpHmacSecret = some secret ∧ 32 ≤ secret.length) ∧
    (∃ host, ourosSmtpHost = some host ∧ host ≠ "")

/-- The default settings with OTP enabled, for examples. -/
def Settings.sample (redisUrl : Option String) : Settings where
  redisUrl := redisUrl
  authRateLimitIpBurst := 3
  authRateLimitIpBurstWindowSeconds := 10
  authRateLimitIpPerMinute := 5
  authRateLimitIpPer15Minutes := 20
  authRateLimitEmailPer15Minutes := 5
  keycloakPasswordBrokerEnabled := false
  ourosEmailOtpEnabled := true
  ourosEmailOtpHmacSecret := some "an-otp-secret-of-at-least-32-chars"
  ourosEmailOtpTtlSeconds := 300
  ourosEmailOtpMaxAttempts := 5
  ourosSmtpHost := some "smtp.ouros.app"
  passwordResetTokenTtlSeconds := 600
  ipBurst_ge := by norm_num
  ipBurstWindow_ge := by norm_num
  ipPerMinute_ge := by norm_num
  ipPer15Minutes_ge := by norm_num
  emailPer15Minutes_ge := by norm_num
  otpTtl_ge := by norm_num
  otpTtl_le := by norm_num
  otpAttempts_ge := by norm_num
  otpAttempts_le := by norm_num
  resetTtl_ge := by norm_num
  resetTtl_le := by norm_num
  otp_validated := fun _ => ⟨⟨_, rfl, by decide⟩, _, rfl, by decide⟩

/-- The configuration of an `EmailOtpService` that is ready to work. -/
structure OtpService where
  hmacSecret : String
  ttlSeconds : ℕ
  maxAttempts : ℕ
  /-- Is `redis_url` configured? -/
  usesRedis : Bool
  ttl_ge : 60 ≤ ttlSeconds
  ttl_le : ttlSeconds ≤ 900
  attempts_ge : 1 ≤ maxAttempts
  attempts_le : maxAttempts ≤ 10

/-- The default OTP settings, for examples. -/
def OtpService.sample (usesRedis : Bool) : OtpService where
  hmacSecret := "an-otp-secret-of-at-least-32-chars"
  ttlSeconds := 300
  maxAttempts := 5
  usesRedis := usesRedis
  ttl_ge := by norm_num
  ttl_le := by norm_num
  attempts_ge := by norm_num
  attempts_le := by norm_num

/-- `EmailOtpService._require_ready`, with what it leaves available. -/
def Settings.requireReady (s : Settings) : Except ApiError OtpService :=
  if s.ourosEmailOtpEnabled = false then
    .error (.emailOtpUnavailable "email OTP is disabled")
  else
    match s.ourosEmailOtpHmacSecret with
    | none => .error (.emailOtpUnavailable "email OTP configuration is incomplete")
    | some secret =>
      if s.ourosSmtpHost.getD "" = "" then
        .error (.emailOtpUnavailable "email OTP configuration is incomplete")
      else
        .ok {
          hmacSecret := secret
          ttlSeconds := s.ourosEmailOtpTtlSeconds
          maxAttempts := s.ourosEmailOtpMaxAttempts
          usesRedis := s.redisUrl.isSome
          ttl_ge := s.otpTtl_ge
          ttl_le := s.otpTtl_le
          attempts_ge := s.otpAttempts_ge
          attempts_le := s.otpAttempts_le }

/-- What a ready service takes from the settings. -/
theorem requireReady_eq_ok {s : Settings} {svc : OtpService} (h : s.requireReady = .ok svc) :
    s.ourosEmailOtpHmacSecret = some svc.hmacSecret ∧
      svc.ttlSeconds = s.ourosEmailOtpTtlSeconds ∧ svc.maxAttempts = s.ourosEmailOtpMaxAttempts ∧
      svc.usesRedis = s.redisUrl.isSome := by
  unfold Settings.requireReady at h
  split at h
  · exact absurd h (by simp)
  · split at h
    · exact absurd h (by simp)
    · rename_i secret hsecret
      split at h
      · exact absurd h (by simp)
      · rw [Except.ok.injEq] at h
        subst h
        exact ⟨hsecret, rfl, rfl, rfl⟩

/-- Settings that pass validation with OTP enabled are ready. -/
theorem requireReady_of_enabled (s : Settings) (h : s.ourosEmailOtpEnabled = true) :
    ∃ svc, s.requireReady = .ok svc ∧ svc.ttlSeconds = s.ourosEmailOtpTtlSeconds ∧
      svc.maxAttempts = s.ourosEmailOtpMaxAttempts := by
  obtain ⟨⟨secret, hsecret, -⟩, host, hhost, hne⟩ := s.otp_validated h
  unfold Settings.requireReady
  rw [if_neg (by simp [h]), hsecret, hhost]
  simp only [Option.getD_some, if_neg hne]
  exact ⟨_, rfl, rfl, rfl⟩

end OurosAuth
