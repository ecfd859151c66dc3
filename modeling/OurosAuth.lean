import OurosAuth.Lib.Dict
import OurosAuth.Lib.ExpiringStore
import OurosAuth.Lib.Traced
import OurosAuth.Lib.Decimal
import OurosAuth.Lib.Lists
import OurosAuth.Core.Runtime
import OurosAuth.Core.Errors
import OurosAuth.Core.Settings
import OurosAuth.Core.RedisClient
import OurosAuth.EmailOtp.Record
import OurosAuth.EmailOtp.Store
import OurosAuth.EmailOtp.Login
import OurosAuth.EmailOtp.LoginSingleUse
import OurosAuth.EmailOtp.LoginAttempts
import OurosAuth.EmailOtp.Reset
import OurosAuth.EmailOtp.ResetRuns
import OurosAuth.EmailOtp.Frame
import OurosAuth.EmailOtp.LoginSequence
import OurosAuth.Identity.Repository
import OurosAuth.Identity.Relation
import OurosAuth.Identity.Resolution
import OurosAuth.PasswordReset.Confirm
import OurosAuth.PasswordReset.ConfirmRuns
import OurosAuth.PasswordReset.Reservations
import OurosAuth.PasswordReset.ConfirmErrors
import OurosAuth.EmailOtp.ResetBackends
import OurosAuth.Lib.Windows
import OurosAuth.RateLimit.Rules
import OurosAuth.RateLimit.Memory
import OurosAuth.RateLimit.Bounded
import OurosAuth.RateLimit.RetryAfter
import OurosAuth.RateLimit.Fallback
import OurosAuth.RateLimit.Redis
import OurosAuth.RateLimit.Refinement
import OurosAuth.RateLimit.Failover
import OurosAuth.Keycloak.TokenBroker
import OurosAuth.Keycloak.Contract
import OurosAuth.PasswordReset.Start
import OurosAuth.PasswordReset.Budget
import OurosAuth.App.Routes
import OurosAuth.App.Correspondence
import OurosAuth.App.Authorisation
import OurosAuth.App.Deliveries
import OurosAuth.App.Isolation
import OurosAuth.Core.Requests
import OurosAuth.Lib.Pattern
import OurosAuth.PasswordReset.Complexity
import OurosAuth.PasswordReset.Session
import OurosAuth.PasswordReset.Enumeration
import OurosAuth.App.Addresses
import OurosAuth.App.Bodies
import OurosAuth.App.Metrics
import OurosAuth.App.WebRoutes
import OurosAuth.App.WebSession
import OurosAuth.App.WebPrivacy
import OurosAuth.Keycloak.ServiceToken
import OurosAuth.App.Internal
import OurosAuth.Lib.Keyed
import OurosAuth.RateLimit.Independence
import OurosAuth.App.Confirming
import OurosAuth.App.Completion
import OurosAuth.App.LoginCompletion
import OurosAuth.App.Composition
import OurosAuth.Lib.Agreement
import OurosAuth.Lib.Sessions
import OurosAuth.App.Mail
import OurosAuth.Identity.Connection
import OurosAuth.PasswordReset.Secrets
