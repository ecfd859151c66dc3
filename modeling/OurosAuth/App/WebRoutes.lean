import OurosAuth.App.Bodies
import OurosAuth.Keycloak.Contract
import Mathlib.Data.List.DropRight

namespace OurosAuth

/-!
# The routes of the browser session

The three routes under `/v1/auth/web`, which keep the refresh token of a browser in a cookie that
no script can read.

* `webAllowedOrigins`, `Trusted` — who may call them;
* `verifyWebLogin`, `refreshWebSession`, `logoutWebSession` — the routes, each of the first two cut
  where it waits for Keycloak; the first is entered with a valid body only;
* `beginWebRefresh_ok`, `refreshCookie_accepted` — what they let through, and the cookie they set.
-/

/-- The settings the web session reads. -/
structure WebSettings where
  environment : String
  ourosWebAllowedOrigins : String

/-! ### Origins -/

/-- `str.rstrip("/")` -/
def rstripSlash (s : String) : String := String.ofList (s.toList.rdropWhile (· = '/'))

/-- `str.split(",")` -/
def splitCommas (s : String) : List String := (s.toList.splitOn ',').map String.ofList

/-- The environments of a developer's machine. -/
def developmentEnvironments : List String := ["development", "dev", "local"]

/-- `Settings.web_allowed_origins` -/
def WebSettings.webAllowedOrigins (rt : Runtime) (settings : WebSettings) : List String :=
  let configured := ((splitCommas settings.ourosWebAllowedOrigins).filter fun origin =>
    decide (rt.strip origin ≠ "")).map fun origin => rstripSlash (rt.strip origin)
  if configured ≠ [] then configured
  else if rt.lower settings.environment ∈ developmentEnvironments then ["http://localhost:5173"]
  else []

/-! ### Requests and responses -/

/-- What a route reads of a request. -/
structure WebRequest where
  /-- the header `Origin` -/
  origin : Option String
  /-- the header `x-forwarded-proto` -/
  forwardedProto : Option String
  /-- `request.url.scheme` -/
  scheme : String
  /-- the cookie `ouros_web_refresh` -/
  cookie : Option String
  body : JsonBody

/-- The cookie `ouros_web_refresh` of a response. -/
structure SetCookie where
  value : String
  maxAge : Option ℤ
  httponly : Bool
  secure : Bool
  samesite : String
  path : String
  deriving DecidableEq

/-- `WebAccessTokenResponse` -/
structure WebAccessTokenResponse where
  accessToken : String
  expiresIn : ℤ
  refreshExpiresIn : Option ℤ
  tokenType : String
  scope : Option String
  deriving DecidableEq

/-- The body of a response. -/
inductive WebBody
  | detail (text : String)
  | token (token : WebAccessTokenResponse)
  | invalid (errors : List FieldError)
  | empty
  deriving DecidableEq

structure WebResponse where
  status : ℕ
  body : WebBody
  setCookie : Option SetCookie
  deriving DecidableEq

/-- The response of a request that ended in an error; it carries no cookie. -/
def ErrorResponse.toWeb (error : ErrorResponse) : WebResponse :=
  ⟨error.status, .detail error.detail, none⟩

/-- The response to a body the framework refuses. -/
def BodyRefusal.toWeb : BodyRefusal → WebResponse
  | .invalid errors => ⟨422, .invalid errors, none⟩
  | .unparsable => ⟨400, .detail unparsableDetail, none⟩

/-- The response of a call that raised. -/
def CallRaised.toWeb : CallRaised → WebResponse
  | .api error => error.response.toWeb
  -- no handler is registered for it
  | .python _ => ⟨500, .detail "Internal Server Error", none⟩

/-- What the service takes from the interpreter and its JSON library. -/
structure PyValues where
  /-- `str(value)` of a value that is no string; a nested one may be too deep -/
  str : JsonValue → Except PyError String
  /-- `bool(x)` of a number with a fraction or an exponent -/
  floatTruth : String → Bool

/-- `bool(value)` -/
def PyValues.truth (py : PyValues) : JsonValue → Bool
  | .null => false
  | .bool b => b
  | .int n => n ≠ 0
  | .float literal => py.floatTruth literal
  | .str s => s ≠ ""
  | .list items => !items.isEmpty
  | .object entries => !entries.isEmpty

/-- `str(value)` -/
def PyValues.toStr (py : PyValues) : JsonValue → Except PyError String
  | .str s => .ok s
  | value => py.str value

/-! ### The routes -/

/-- `require_web_origin` -/
def requireWebOrigin (rt : Runtime) (settings : WebSettings) (origin : Option String) :
    Except ErrorResponse Unit :=
  let origin := rstripSlash (origin.getD "")
  if origin = "" ∨ origin ∉ settings.webAllowedOrigins rt then
    .error ⟨403, "Origem não autorizada.", none⟩
  else .ok ()

/-- `is_secure_request` -/
def isSecureRequest (rt : Runtime) (settings : WebSettings) (request : WebRequest) : Bool :=
  rt.lower (request.forwardedProto.getD request.scheme) = "https" ||
    rt.lower settings.environment ∉ developmentEnvironments

/-- The cookie both responses below write. -/
def refreshCookie (secure : Bool) (value : String) (maxAge : Option ℤ) : SetCookie :=
  ⟨value, maxAge, true, secure, if secure then "none" else "lax", "/v1/auth/web"⟩

/-- Does the browser take the cookie?  `SameSite=None` needs `Secure`. -/
def SetCookie.accepted (cookie : SetCookie) : Bool := cookie.samesite ≠ "none" || cookie.secure

/-- `set_web_refresh_cookie`, for a token that a cookie can carry: `set_cookie` raises on characters
    beyond Latin-1, and browsers drop a cookie of more than 4096 bytes. -/
def setWebRefreshCookie (rt : Runtime) (settings : WebSettings) (request : WebRequest)
    (token : KeycloakTokenResponse) : Option SetCookie :=
  match token.refreshToken with
  | none => none
  | some refreshToken =>
    if refreshToken = "" then none
    else
      -- Max-Age=0 would delete the cookie
      let maxAge := token.refreshExpiresIn.filter fun n => decide (n ≠ 0)
      some (refreshCookie (isSecureRequest rt settings request) refreshToken maxAge)

/-- `web_access_token_response` -/
def webAccessTokenResponse (token : KeycloakTokenResponse) : WebAccessTokenResponse :=
  ⟨token.accessToken, token.expiresIn, token.refreshExpiresIn, token.tokenType, token.scope⟩

/-- How `verify_web_login` and `refresh_web_session` end, once Keycloak has answered. -/
def grantResponse (rt : Runtime) (settings : WebSettings) (request : WebRequest)
    (answer : Except CallRaised KeycloakTokenResponse) : WebResponse :=
  match answer with
  | .error raised => raised.toWeb
  | .ok token =>
      ⟨200, .token (webAccessTokenResponse token), setWebRefreshCookie rt settings request token⟩

/-- The body of `verify_web_login`, which the framework reads before it enters the route. -/
def verifyPayload (rt : Runtime) (body : JsonBody) : Except BodyRefusal NativeLoginVerifyRequest :=
  validated (nativeLoginVerifyRequest rt) body

/-- `verify_web_login` up to the token request, with the credentials to send; `otp` is how
    `email_otp.verify` ends. -/
def beginWebLogin (rt : Runtime) (settings : WebSettings) (request : WebRequest)
    (otp : Except CallRaised Unit) : Except WebResponse TokenLoginRequest := do
  let payload ← (verifyPayload rt request.body).mapError BodyRefusal.toWeb
  (requireWebOrigin rt settings request.origin).mapError ErrorResponse.toWeb
  otp.mapError CallRaised.toWeb
  -- the model for the broker checks the stored address once more; nobody handles its refusal
  match TokenLoginRequest.validate rt payload.email payload.password with
  | some credentials => return credentials
  | none => .error (CallRaised.python .valueError).toWeb

/-- The refresh token in the body of a request. -/
def bodyRefreshToken (py : PyValues) (body : JsonBody) : Except PyError (Option String) := do
  match ← body.json with
  | .object entries =>
      match entries.lookup "refresh_token" with
      | some value => if py.truth value then some <$> py.toStr value else return none
      | none => return none
  | _ => return none

/-- Where a refresh token comes from. -/
inductive RefreshSource
  | cookie
  | body
  deriving DecidableEq

/-- A request without a refresh token. -/
def sessionExpired : WebResponse := ⟨401, .detail "Sessão expirada. Faça login novamente.", none⟩

/-- `refresh_web_session` up to the token request: the token to send, and where it comes from. -/
def beginWebRefresh (rt : Runtime) (py : PyValues) (settings : WebSettings)
    (request : WebRequest) : Except WebResponse (RefreshSource × String) := do
  (requireWebOrigin rt settings request.origin).mapError ErrorResponse.toWeb
  match request.cookie.filter (· ≠ "") with
  | some token => .ok (.cookie, token)
  | none =>
    match bodyRefreshToken py request.body with
    | .error error =>
      -- `except (JSONDecodeError, UnicodeDecodeError, ValueError)`
      if error.isValueError = true then .error sessionExpired
      else .error (CallRaised.python error).toWeb
    | .ok token =>
      match token.filter (· ≠ "") with
      | some token => .ok (.body, token)
      | none => .error sessionExpired

/-- `verify_web_login` -/
def verifyWebLogin (rt : Runtime) (settings : WebSettings) (broker : TokenBroker)
    (request : WebRequest) (otp : Except CallRaised Unit) : WebResponse :=
  match beginWebLogin rt settings request otp with
  | .error response => response
  | .ok credentials =>
      grantResponse rt settings request
        (broker.issuePasswordToken rt credentials.email credentials.password)

/-- `refresh_web_session` -/
def refreshWebSession (rt : Runtime) (py : PyValues) (settings : WebSettings)
    (broker : TokenBroker) (request : WebRequest) : WebResponse :=
  match beginWebRefresh rt py settings request with
  | .error response => response
  | .ok (_, token) => grantResponse rt settings request (broker.refreshToken rt token)

/-- `logout_web_session` -/
def logoutWebSession (rt : Runtime) (settings : WebSettings) (request : WebRequest) :
    WebResponse :=
  match requireWebOrigin rt settings request.origin with
  | .error error => error.toWeb
  | .ok _ =>
      ⟨204, .empty, some (refreshCookie (isSecureRequest rt settings request) "" (some 0))⟩

/-! ### Trusted origins -/

/-- The origins the web session is open to. -/
def Trusted (rt : Runtime) (settings : WebSettings) (origin : Option String) : Prop :=
  rstripSlash (origin.getD "") ≠ "" ∧
    rstripSlash (origin.getD "") ∈ settings.webAllowedOrigins rt

/-- The response of the routes to every other. -/
def forbidden : WebResponse := ⟨403, .detail "Origem não autorizada.", none⟩

/-- What a page of such an origin can be answered: the response above, or what the framework says of
    a body it refuses, without a look at the origin. -/
def Refused (rt : Runtime) (body : JsonBody) (response : WebResponse) : Prop :=
  response = forbidden ∨
    ∃ refusal, verifyPayload rt body = .error refusal ∧ response = refusal.toWeb

variable {rt : Runtime} {py : PyValues} {settings : WebSettings} {origin : Option String}
  {request : WebRequest} {token : String}

theorem requireWebOrigin_of_trusted (h : Trusted rt settings origin) :
    requireWebOrigin rt settings origin = .ok () :=
  if_neg (not_or.mpr ⟨h.1, not_not.mpr h.2⟩)

theorem requireWebOrigin_of_not_trusted (h : ¬ Trusted rt settings origin) :
    requireWebOrigin rt settings origin = .error ⟨403, "Origem não autorizada.", none⟩ := by
  refine if_pos ?_
  by_contra hnot
  rw [not_or, not_not] at hnot
  exact h hnot

/-- An origin as it is written in the settings, between two commas. -/
structure WrittenOrigin (rt : Runtime) (origin : String) : Prop where
  ne : origin ≠ ""
  strip : rt.strip origin = origin
  comma : ',' ∉ origin.toList
  slash : rstripSlash origin = origin

/-- Origins written with commas between them are read back. -/
theorem webAllowedOrigins_intercalate (environment : String) {origins : List String}
    (hne : origins ≠ []) (horigins : ∀ o ∈ origins, WrittenOrigin rt o) :
    (WebSettings.mk environment (",".intercalate origins)).webAllowedOrigins rt = origins := by
  have hsplit : splitCommas (",".intercalate origins) = origins := by
    unfold splitCommas
    have hcomma : ",".toList = [','] := by decide
    rw [String.toList_intercalate, hcomma, List.splitOn_intercalate ',' ?_ (by simpa using hne),
      List.map_map]
    · exact List.map_id'' (fun o => String.ofList_toList) origins
    · intro l hl
      obtain ⟨o, ho, rfl⟩ := List.mem_map.mp hl
      exact (horigins o ho).comma
  have hfilter : origins.filter (fun o => decide (rt.strip o ≠ "")) = origins := by
    refine List.filter_eq_self.mpr fun o ho => decide_eq_true ?_
    rw [(horigins o ho).strip]
    exact (horigins o ho).ne
  have hmap : origins.map (fun o => rstripSlash (rt.strip o)) = origins := by
    refine (List.map_congr_left fun o ho => ?_).trans (List.map_id origins)
    rw [(horigins o ho).strip, (horigins o ho).slash]
    rfl
  unfold WebSettings.webAllowedOrigins
  simp only [hsplit, hfilter, hmap, if_pos hne]

/-- **Trusted origins.** The session is open to a request exactly when its `Origin`, apart from
    slashes at its end, is one of the origins written in the settings. -/
theorem trusted_iff_written (environment : String) {origins : List String}
    (hne : origins ≠ []) (horigins : ∀ o ∈ origins, WrittenOrigin rt o) :
    Trusted rt ⟨environment, ",".intercalate origins⟩ origin ↔
      ∃ header, origin = some header ∧ rstripSlash header ∈ origins := by
  unfold Trusted
  rw [webAllowedOrigins_intercalate environment hne horigins]
  constructor
  · rintro ⟨hempty, hmem⟩
    cases origin with
    | none => exact absurd (by decide) hempty
    | some header => exact ⟨header, rfl, hmem⟩
  · rintro ⟨header, rfl, hmem⟩
    exact ⟨(horigins _ hmem).ne, hmem⟩

theorem trusted_iff_written_two :
    Trusted .sample ⟨"production", ",".intercalate ["https://a.example", "https://b.example"]⟩
        (some "https://b.example/") ↔
      ∃ header, some "https://b.example/" = some header ∧
        rstripSlash header ∈ ["https://a.example", "https://b.example"] := by
  refine trusted_iff_written "production" (by decide) fun o ho => ?_
  simp only [List.mem_cons, List.not_mem_nil, or_false] at ho
  rcases ho with rfl | rfl
  · exact ⟨by decide, rfl, by decide, by decide +kernel⟩
  · exact ⟨by decide, rfl, by decide, by decide +kernel⟩

/-! ### What the routes answer -/

/-- A login that reaches the origin check of an untrusted page is refused there. -/
theorem beginWebLogin_of_not_trusted (otp : Except CallRaised Unit)
    (hnot : ¬ Trusted rt settings request.origin) :
    ∃ response, beginWebLogin rt settings request otp = .error response ∧
      Refused rt request.body response := by
  unfold beginWebLogin
  cases hpayload : verifyPayload rt request.body with
  | error refusal => exact ⟨refusal.toWeb, rfl, Or.inr ⟨refusal, hpayload, rfl⟩⟩
  | ok payload =>
    rw [requireWebOrigin_of_not_trusted hnot]
    exact ⟨forbidden, rfl, Or.inl rfl⟩

theorem beginWebLogin_ok {otp : Except CallRaised Unit} {credentials : TokenLoginRequest}
    (h : beginWebLogin rt settings request otp = .ok credentials) :
    Trusted rt settings request.origin := by
  by_contra hnot
  obtain ⟨response, hresponse, -⟩ := beginWebLogin_of_not_trusted otp hnot
  exact absurd (hresponse.symm.trans h) (by simp)

theorem beginWebLogin_error {otp : Except CallRaised Unit} {response : WebResponse}
    (h : beginWebLogin rt settings request otp = .error response)
    (hnot : ¬ Trusted rt settings request.origin) : Refused rt request.body response := by
  obtain ⟨response', hresponse, hrefused⟩ := beginWebLogin_of_not_trusted otp hnot
  obtain rfl := Except.error.inj (hresponse.symm.trans h)
  exact hrefused

/-- A refresh of an untrusted page is refused before its body is read. -/
theorem beginWebRefresh_of_not_trusted (hnot : ¬ Trusted rt settings request.origin) :
    beginWebRefresh rt py settings request = .error forbidden := by
  unfold beginWebRefresh
  rw [requireWebOrigin_of_not_trusted hnot]
  rfl

/-- A refresh that is sent on comes from a trusted origin, and its token from the cookie or, for
    want of one, from the body. -/
theorem beginWebRefresh_ok {source : RefreshSource}
    (h : beginWebRefresh rt py settings request = .ok (source, token)) :
    Trusted rt settings request.origin ∧ (source = .cookie → request.cookie = some token) := by
  have htrusted : Trusted rt settings request.origin := by
    by_contra hnot
    rw [beginWebRefresh_of_not_trusted hnot] at h
    exact absurd h (by simp)
  refine ⟨htrusted, ?_⟩
  rintro rfl
  simp only [beginWebRefresh, requireWebOrigin_of_trusted htrusted, Except.mapError, bind,
    Except.bind] at h
  split at h
  · rename_i token' hcookie
    obtain ⟨-, rfl⟩ := Prod.mk.inj (Except.ok.inj h)
    exact (Option.filter_eq_some_iff.mp hcookie).1
  · split at h
    · split_ifs at h
    · split at h
      · exact absurd (Except.ok.inj h) (by simp)
      · exact absurd h (by simp)

theorem beginWebRefresh_error {response : WebResponse}
    (h : beginWebRefresh rt py settings request = .error response)
    (hnot : ¬ Trusted rt settings request.origin) : Refused rt request.body response := by
  rw [beginWebRefresh_of_not_trusted hnot] at h
  exact Or.inl (Except.error.inj h).symm

theorem logoutWebSession_of_not_trusted (hnot : ¬ Trusted rt settings request.origin) :
    logoutWebSession rt settings request = forbidden := by
  rw [logoutWebSession, requireWebOrigin_of_not_trusted hnot]
  rfl

theorem logoutWebSession_of_trusted (h : Trusted rt settings request.origin) :
    logoutWebSession rt settings request =
      ⟨204, .empty, some (refreshCookie (isSecureRequest rt settings request) "" (some 0))⟩ := by
  rw [logoutWebSession, requireWebOrigin_of_trusted h]

/-- No script reads the cookie, and every browser takes it. -/
theorem refreshCookie_accepted (secure : Bool) (value : String) (maxAge : Option ℤ) :
    (refreshCookie secure value maxAge).httponly = true ∧
      (refreshCookie secure value maxAge).accepted = true := by
  cases secure <;> simp [refreshCookie, SetCookie.accepted]

/-- Cookies of a response delete the one of the session, if there are any. -/
def WebResponse.OnlyDeletes (response : WebResponse) : Prop :=
  ∀ cookie ∈ response.setCookie, ∃ secure, cookie = refreshCookie secure "" (some 0)

theorem onlyDeletes_of_none {response : WebResponse} (h : response.setCookie = none) :
    response.OnlyDeletes :=
  fun _ hcookie => absurd (h ▸ hcookie) (by simp)

theorem CallRaised.toWeb_setCookie (raised : CallRaised) : raised.toWeb.setCookie = none := by
  cases raised <;> rfl

theorem BodyRefusal.toWeb_setCookie (refusal : BodyRefusal) : refusal.toWeb.setCookie = none := by
  cases refusal <;> rfl

/-- A login that ends before Keycloak is asked brings no cookie. -/
theorem beginWebLogin_setCookie {otp : Except CallRaised Unit} {response : WebResponse}
    (h : beginWebLogin rt settings request otp = .error response) : response.OnlyDeletes := by
  refine onlyDeletes_of_none ?_
  unfold beginWebLogin at h
  cases hpayload : verifyPayload rt request.body with
  | error refusal =>
    rw [hpayload] at h
    obtain rfl := Except.error.inj h
    exact refusal.toWeb_setCookie
  | ok payload =>
    cases horigin : requireWebOrigin rt settings request.origin with
    | error error =>
      rw [hpayload, horigin] at h
      obtain rfl := Except.error.inj h
      rfl
    | ok _ =>
      cases otp with
      | error raised =>
        rw [hpayload, horigin] at h
        obtain rfl := Except.error.inj h
        exact raised.toWeb_setCookie
      | ok _ =>
        simp only [hpayload, horigin, Except.mapError, bind, Except.bind] at h
        split at h
        · exact absurd h (by simp [pure, Except.pure])
        · obtain rfl := Except.error.inj h
          rfl

/-- Nor does such a refresh. -/
theorem beginWebRefresh_setCookie {response : WebResponse}
    (h : beginWebRefresh rt py settings request = .error response) : response.OnlyDeletes := by
  refine onlyDeletes_of_none ?_
  unfold beginWebRefresh at h
  cases horigin : requireWebOrigin rt settings request.origin with
  | error error =>
    rw [horigin] at h
    obtain rfl := Except.error.inj h
    rfl
  | ok _ =>
    simp only [horigin, Except.mapError, bind, Except.bind] at h
    split at h
    · exact absurd h (by simp)
    · split at h
      · split_ifs at h
        · obtain rfl := Except.error.inj h
          rfl
        · obtain rfl := Except.error.inj h
          rfl
      · split at h
        · exact absurd h (by simp)
        · obtain rfl := Except.error.inj h
          rfl

/-- A logout brings no cookie but the one that deletes. -/
theorem logoutWebSession_setCookie : (logoutWebSession rt settings request).OnlyDeletes := by
  intro cookie hcookie
  unfold logoutWebSession at hcookie
  split at hcookie
  · exact absurd hcookie (by simp [ErrorResponse.toWeb])
  · exact ⟨_, (Option.mem_some_iff.mp hcookie).symm⟩

end OurosAuth
