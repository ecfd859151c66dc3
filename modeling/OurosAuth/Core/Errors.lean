import Mathlib.Data.Nat.Notation

namespace OurosAuth

/-!
# Errors and the responses they become

`ApiError` lists the exceptions the services raise on purpose (`core/errors.py`, and
`KeycloakTokenBrokerUnavailable`); `ApiError.response` is the application's table of
exception handlers: status code, `detail` text and, for a throttled request, the
`Retry-After` header.  `PyError` lists what else is raised: no handler is registered for it, and
the client sees a 500.
-/

/-- The exceptions with a registered handler. -/
inductive ApiError
  | invalidCredentials
  | ambiguousIdentity
  | rateLimitExceeded (retryAfter : ℕ)
  | emailOtpInvalid
  | emailOtpUnavailable (reason : String)
  | passwordResetOtpInvalid
  | passwordResetOtpAttemptsExceeded
  | passwordResetTokenInvalid (message : String)
  | passwordResetUnavailable (message : String)
  | keycloakTokenBrokerUnavailable (message : String)
  deriving DecidableEq

/-- The exceptions of Python and of the libraries that no handler of the application knows. -/
inductive PyError
  | assertionError
  | attributeError
  | osError
  | recursionError
  | typeError
  | unicodeEncodeError
  | valueError
  /-- one that is no subclass of these -/
  | other
  deriving DecidableEq

/-- `isinstance(error, ValueError)` -/
def PyError.isValueError : PyError → Bool
  | .unicodeEncodeError => true
  | .valueError => true
  | _ => false

/-- What a call can raise. -/
inductive CallRaised
  | api (error : ApiError)
  | python (error : PyError)
  deriving DecidableEq

/-- The error of a call that has a handler. -/
def CallRaised.error? : CallRaised → Option ApiError
  | .api error => some error
  | .python _ => none

/-- What the client of a failed request sees. -/
structure ErrorResponse where
  status : ℕ
  detail : String
  retryAfter : Option ℕ := none
  deriving DecidableEq

/-- The exception handlers of `create_app`. -/
def ApiError.response : ApiError → ErrorResponse
  | .invalidCredentials => ⟨401, "Credenciais inválidas.", none⟩
  | .ambiguousIdentity =>
      ⟨409, "As credenciais correspondem a mais de uma conta. Informe account_type.", none⟩
  | .rateLimitExceeded retryAfter =>
      ⟨429, "Muitas tentativas. Tente novamente mais tarde.", some (max retryAfter 1)⟩
  | .emailOtpInvalid => ⟨401, "Código inválido ou expirado.", none⟩
  | .emailOtpUnavailable _ =>
      ⟨503, "Verificação por e-mail temporariamente indisponível.", none⟩
  | .passwordResetOtpInvalid => ⟨400, "Código inválido, incorreto ou expirado.", none⟩
  | .passwordResetOtpAttemptsExceeded =>
      ⟨429, "Número máximo de tentativas de digitação do código excedido.", none⟩
  | .passwordResetTokenInvalid message =>
      ⟨400, if message = "" then "Token de recuperação inválido ou expirado." else message, none⟩
  | .passwordResetUnavailable _ =>
      ⟨503, "Serviço de recuperação de senha temporariamente indisponível.", none⟩
  | .keycloakTokenBrokerUnavailable _ =>
      ⟨503, "Autenticação temporariamente indisponível.", none⟩

end OurosAuth
