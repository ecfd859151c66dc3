import OurosAuth.App.WebRoutes
import OurosAuth.Lib.Traced

namespace OurosAuth

open Traced

/-!
# The browser session

A browser that calls the routes of the session: any number of requests from any page, each
suspended while Keycloak is asked, their responses received in any order.

* `webStep` — one step of the browser, the service or Keycloak;
* `Rooted`, `lastStored` — where a refresh token comes from, and which one the browser holds;
* `web_session_rooted` — where the cookie, and every token the service sends on, comes from;
* `web_logout_final` — after a logout with no request in flight, nothing is left to send.
-/

/-! ### A browser and its requests -/

/-- A request as a page makes it; `attach` says whether the browser sends its cookie along, and
    takes the cookies of the response. -/
structure PageRequest where
  origin : Option String
  forwardedProto : Option String
  scheme : String
  body : JsonBody
  attach : Bool

/-- The cookie `ouros_web_refresh` as the browser keeps it. -/
structure JarCookie where
  value : String
  expires : Option ℚ
  httponly : Bool

/-- A request, from the page to its response. -/
inductive WebCall
  | idle
  /-- the service waits for Keycloak -/
  | granting (page : PageRequest) (request : WebRequest) (form : Form)
  | answered (page : PageRequest) (response : WebResponse)
  | received

/-- The browser, its clock, and its requests. -/
structure BrowserState where
  now : ℚ
  jar : Option JarCookie
  calls : ℕ → WebCall

def BrowserState.init (now : ℚ) : BrowserState := ⟨now, none, fun _ => .idle⟩

/-- The grants the routes send. -/
inductive WebGrant
  | password
  | refresh (source : RefreshSource) (token : String)
  deriving DecidableEq

/-- What the steps leave in the history. -/
inductive WebEvent
  /-- a grant goes to Keycloak for a request of this origin -/
  | sent (id : ℕ) (origin : Option String) (grant : WebGrant)
  /-- the token response the service accepts holds this refresh token -/
  | issued (id : ℕ) (token : String)
  /-- the browser keeps a refresh token -/
  | stored (id : ℕ) (token : String)
  /-- the browser drops its cookie -/
  | cleared (id : ℕ)
  /-- what the page sees of its response -/
  | visible (id : ℕ) (page : PageRequest) (status : ℕ) (body : WebBody)

/-- The steps of pages, service and Keycloak. -/
inductive WebLabel
  | tick (t : ℚ)
  /-- `verify_web_login` up to the token request -/
  | verify (id : ℕ) (page : PageRequest) (otp : Except CallRaised Unit)
  /-- `refresh_web_session` up to the token request -/
  | refresh (id : ℕ) (page : PageRequest)
  /-- `logout_web_session` -/
  | logout (id : ℕ) (page : PageRequest)
  /-- the token request ends -/
  | keycloak (id : ℕ) (outcome : PostOutcome)
  /-- the response reaches the browser -/
  | receive (id : ℕ)

namespace BrowserState

/-- The cookie the browser still sends. -/
def liveCookie (s : BrowserState) : Option JarCookie :=
  s.jar.filter fun cookie => match cookie.expires with
    | none => true
    | some expires => decide (s.now < expires)

/-- A page's request on the wire. -/
def request (s : BrowserState) (page : PageRequest) : WebRequest :=
  ⟨page.origin, page.forwardedProto, page.scheme,
    if page.attach then s.liveCookie.map JarCookie.value else none, page.body⟩

/-- Replace one request. -/
def setCall (s : BrowserState) (id : ℕ) (k : WebCall) : BrowserState :=
  { s with calls := Function.update s.calls id k }

/-- The service answers without asking Keycloak. -/
def answer (s : BrowserState) (id : ℕ) (page : PageRequest) (response : WebResponse) :
    BrowserState × List WebEvent :=
  (s.setCall id (.answered page response), [])

/-- The service asks Keycloak, unless it has no client secret. -/
def ask (s : BrowserState) (broker : TokenBroker) (id : ℕ) (page : PageRequest)
    (form : String → Form) (grant : WebGrant) : BrowserState × List WebEvent :=
  match broker.clientSecret with
  | none =>
      let error := ApiError.keycloakTokenBrokerUnavailable "broker client secret is not configured"
      s.answer id page error.response.toWeb
  | some secret =>
      (s.setCall id (.granting page (s.request page) (form secret)), [.sent id page.origin grant])

end BrowserState

/-- The token an accepted token response hands out. -/
def issuedBy (id : ℕ) (answer : Except CallRaised KeycloakTokenResponse) : List WebEvent :=
  match answer with
  | .error _ => []
  | .ok token => (token.refreshToken.toList.map fun token => .issued id token)

/-- What the browser makes of a cookie. -/
def SetCookie.kept (now : ℚ) (cookie : SetCookie) : Option JarCookie :=
  match cookie.maxAge with
  | none => some ⟨cookie.value, none, cookie.httponly⟩
  | some n => if n ≤ 0 then none else some ⟨cookie.value, some (now + n), cookie.httponly⟩

/-- The cookie of a response that the browser looks at. -/
def PageRequest.cookieOf (page : PageRequest) (response : WebResponse) : Option SetCookie :=
  if page.attach then response.setCookie.filter SetCookie.accepted else none

/-- The browser receives a response. -/
def BrowserState.receive (s : BrowserState) (id : ℕ) (page : PageRequest)
    (response : WebResponse) : BrowserState × List WebEvent :=
  let visible := WebEvent.visible id page response.status response.body
  match page.cookieOf response with
  | none => (s.setCall id .received, [visible])
  | some cookie =>
    match cookie.kept s.now with
    | none => ({ s with jar := none }.setCall id .received, [.cleared id, visible])
    | some kept =>
        ({ s with jar := some kept }.setCall id .received, [.stored id kept.value, visible])

/-- One step. -/
def webStep (rt : Runtime) (py : PyValues) (settings : WebSettings) (broker : TokenBroker)
    (s : BrowserState) : WebLabel → Option (BrowserState × List WebEvent)
  | .tick t => if s.now ≤ t then some ({ s with now := t }, []) else none
  | .verify id page otp =>
      match s.calls id with
      | .idle =>
        match beginWebLogin rt settings (s.request page) otp with
        | .error response => some (s.answer id page response)
        | .ok credentials =>
            some (s.ask broker id page
              (fun secret => broker.passwordForm secret credentials.email credentials.password)
              .password)
      | _ => none
  | .refresh id page =>
      match s.calls id with
      | .idle =>
        match beginWebRefresh rt py settings (s.request page) with
        | .error response => some (s.answer id page response)
        | .ok (source, token) =>
            some (s.ask broker id page (fun secret => broker.refreshForm secret token)
              (.refresh source token))
      | _ => none
  | .logout id page =>
      match s.calls id with
      | .idle => some (s.answer id page (logoutWebSession rt settings (s.request page)))
      | _ => none
  | .keycloak id outcome =>
      match s.calls id with
      | .granting page request form =>
          let answer := { broker with post := fun _ => outcome }.exchangeToken rt form
          some (s.setCall id (.answered page (grantResponse rt settings request answer)),
            issuedBy id answer)
      | _ => none
  | .receive id =>
      match s.calls id with
      | .answered page response => some (s.receive id page response)
      | _ => none

/-- The runs of the browser. -/
def webSystem (rt : Runtime) (py : PyValues) (settings : WebSettings) (broker : TokenBroker) :
    System BrowserState WebLabel WebEvent := ⟨webStep rt py settings broker⟩

variable {rt : Runtime} {py : PyValues} {settings : WebSettings} {broker : TokenBroker}
  {s s' : BrowserState} {label : WebLabel} {es history : List WebEvent} {id : ℕ}
  {origin : Option String} {request : WebRequest} {page : PageRequest} {token : String}

/-! ### What a step can do -/

/-- What one step does, and to whom. -/
inductive WebMove (rt : Runtime) (settings : WebSettings) (s : BrowserState) :
    BrowserState → List WebEvent → Prop
  | tick {t : ℚ} (clock : s.now ≤ t) : WebMove rt settings s { s with now := t } []
  | answered {id : ℕ} {page : PageRequest} {response : WebResponse}
      (untrusted : ¬ Trusted rt settings page.origin → Refused rt page.body response)
      (cookie : response.OnlyDeletes) :
      WebMove rt settings s (s.setCall id (.answered page response)) []
  | asked {id : ℕ} {page : PageRequest} {form : Form} {grant : WebGrant}
      (trusted : Trusted rt settings page.origin)
      (cookie : ∀ token, grant = .refresh .cookie token → s.jar.map JarCookie.value = some token) :
      WebMove rt settings s (s.setCall id (.granting page (s.request page) form))
        [.sent id page.origin grant]
  | granted {id : ℕ} {page : PageRequest} {request : WebRequest} {form : Form}
      (answer : Except CallRaised KeycloakTokenResponse)
      (granting : s.calls id = .granting page request form) :
      WebMove rt settings s
        (s.setCall id (.answered page (grantResponse rt settings request answer)))
        (issuedBy id answer)
  | received {id : ℕ} {page : PageRequest} {response : WebResponse}
      (answered : s.calls id = .answered page response) :
      WebMove rt settings s (s.receive id page response).1 (s.receive id page response).2

/-- A cookie that is sent is the one in the jar. -/
theorem jar_of_request (h : (s.request page).cookie = some token) :
    s.jar.map JarCookie.value = some token := by
  simp only [BrowserState.request, BrowserState.liveCookie] at h
  split_ifs at h
  obtain ⟨cookie, hcookie, rfl⟩ := Option.map_eq_some_iff.mp h
  rw [(Option.filter_eq_some_iff.mp hcookie).1, Option.map_some]

@[simp] theorem request_origin (s : BrowserState) (page : PageRequest) :
    (s.request page).origin = page.origin := rfl

@[simp] theorem request_body (s : BrowserState) (page : PageRequest) :
    (s.request page).body = page.body := rfl

/-- A request the service answers itself. -/
theorem WebMove.ofAnswer {response : WebResponse} (h : s.answer id page response = (s', es))
    (huntrusted : ¬ Trusted rt settings (s.request page).origin →
      Refused rt (s.request page).body response)
    (hcookie : response.OnlyDeletes) : WebMove rt settings s s' es := by
  obtain ⟨rfl, rfl⟩ := Prod.mk.inj h
  rw [request_origin, request_body] at huntrusted
  exact .answered huntrusted hcookie

/-- A request that asks Keycloak. -/
theorem WebMove.ofAsk {form : String → Form} {grant : WebGrant}
    (h : s.ask broker id page form grant = (s', es))
    (htrusted : Trusted rt settings (s.request page).origin)
    (hcookie : ∀ token, grant = .refresh .cookie token → s.jar.map JarCookie.value = some token) :
    WebMove rt settings s s' es := by
  rw [request_origin] at htrusted
  unfold BrowserState.ask at h
  split at h
  · exact .ofAnswer h (fun hnot => absurd htrusted hnot) (onlyDeletes_of_none rfl)
  · obtain ⟨rfl, rfl⟩ := Prod.mk.inj h
    exact .asked htrusted hcookie

/-- **Inversion.** Every step is one of these. -/
theorem webStep_move (h : webStep rt py settings broker s label = some (s', es)) :
    WebMove rt settings s s' es := by
  cases label with
  | tick t =>
    simp only [webStep] at h
    split_ifs at h with hclock
    obtain ⟨rfl, rfl⟩ := Prod.mk.inj (Option.some.inj h)
    exact .tick hclock
  | verify id page otp =>
    simp only [webStep] at h
    split at h
    · split at h
      · rename_i response hresponse
        exact .ofAnswer (Option.some.inj h) (beginWebLogin_error hresponse)
          (beginWebLogin_setCookie hresponse)
      · rename_i credentials hok
        exact .ofAsk (Option.some.inj h) (beginWebLogin_ok hok) fun _ heq => absurd heq (by simp)
    · exact absurd h (by simp)
  | refresh id page =>
    simp only [webStep] at h
    split at h
    · split at h
      · rename_i response hresponse
        exact .ofAnswer (Option.some.inj h) (beginWebRefresh_error hresponse)
          (beginWebRefresh_setCookie hresponse)
      · rename_i source token hok
        obtain ⟨htrusted, hcookie⟩ := beginWebRefresh_ok hok
        -- a token from the body need not be in the jar
        refine .ofAsk (Option.some.inj h) htrusted fun token' heq => ?_
        obtain ⟨rfl, rfl⟩ := WebGrant.refresh.inj heq
        exact jar_of_request (hcookie rfl)
    · exact absurd h (by simp)
  | logout id page =>
    simp only [webStep] at h
    split at h
    · exact .ofAnswer (Option.some.inj h)
        (fun hnot => Or.inl (logoutWebSession_of_not_trusted hnot)) logoutWebSession_setCookie
    · exact absurd h (by simp)
  | keycloak id outcome =>
    simp only [webStep] at h
    split at h
    · rename_i page request form hgranting
      obtain ⟨rfl, rfl⟩ := Prod.mk.inj (Option.some.inj h)
      exact .granted _ hgranting
    · exact absurd h (by simp)
  | receive id =>
    simp only [webStep] at h
    split at h
    · rename_i page response hanswered
      rw [Option.some.injEq] at h
      have hmove : WebMove rt settings s _ _ := .received hanswered
      rwa [h] at hmove
    · exact absurd h (by simp)

/-! ### Where a refresh token comes from -/

/-- A token that goes back, over refreshes from the cookie, to a login or to a token a page put in
    a body, all of them at trusted origins. -/
inductive Rooted (rt : Runtime) (settings : WebSettings) (history : List WebEvent) : String → Prop
  | login {id : ℕ} {origin : Option String} {token : String} (trusted : Trusted rt settings origin)
      (sent : .sent id origin .password ∈ history) (issued : .issued id token ∈ history) :
      Rooted rt settings history token
  | given {id : ℕ} {origin : Option String} {body token : String}
      (trusted : Trusted rt settings origin)
      (sent : .sent id origin (.refresh .body body) ∈ history)
      (issued : .issued id token ∈ history) : Rooted rt settings history token
  | renewed {id : ℕ} {origin : Option String} {cookie token : String}
      (root : Rooted rt settings history cookie) (trusted : Trusted rt settings origin)
      (sent : .sent id origin (.refresh .cookie cookie) ∈ history)
      (issued : .issued id token ∈ history) : Rooted rt settings history token

theorem Rooted.mono {history' : List WebEvent} (h : Rooted rt settings history token)
    (hsub : history ⊆ history') : Rooted rt settings history' token := by
  induction h with
  | login htrusted hsent hissued => exact .login htrusted (hsub hsent) (hsub hissued)
  | given htrusted hsent hissued => exact .given htrusted (hsub hsent) (hsub hissued)
  | renewed _ htrusted hsent hissued ih => exact .renewed ih htrusted (hsub hsent) (hsub hissued)

/-- The token the browser stored last, unless it has dropped it since. -/
def lastStored : List WebEvent → Option String
  | [] => none
  | .stored _ token :: _ => some token
  | .cleared _ :: _ => none
  | _ :: past => lastStored past

/-- A grant is sent for a trusted origin only, and a cookie only as it was stored last. -/
def SentAsStored (rt : Runtime) (settings : WebSettings) (past : List WebEvent) : WebEvent → Prop
  | .sent _ origin grant =>
      Trusted rt settings origin ∧ ∀ token, grant = .refresh .cookie token →
        lastStored past = some token ∧ Rooted rt settings past token
  | _ => True

/-- A response the service can give: a refusal for an untrusted origin, and no cookie that is
    not hidden from scripts, taken by the browser and either rooted or a deletion. -/
structure Proper (rt : Runtime) (settings : WebSettings) (history : List WebEvent)
    (page : PageRequest) (response : WebResponse) : Prop where
  untrusted : ¬ Trusted rt settings page.origin → Refused rt page.body response
  hidden : ∀ cookie ∈ response.setCookie, cookie.httponly = true
  accepted : ∀ cookie ∈ response.setCookie, cookie.accepted = true
  rooted : ∀ cookie ∈ response.setCookie, ∀ now kept, cookie.kept now = some kept →
    Rooted rt settings history kept.value

/-- What a page of an untrusted origin sees. -/
def SeesRefusal (rt : Runtime) (page : PageRequest) (status : ℕ) (body : WebBody) : Prop :=
  (status = 403 ∧ body = .detail "Origem não autorizada.") ∨
    ∃ refusal, verifyPayload rt page.body = .error refusal ∧ status = refusal.toWeb.status ∧
      body = refusal.toWeb.body

/-- The invariant of the browser session. -/
structure SessionInvariant (rt : Runtime) (settings : WebSettings) (s : BrowserState)
    (history : List WebEvent) : Prop where
  jar : s.jar.map JarCookie.value = lastStored history
  hidden : ∀ cookie ∈ s.jar, cookie.httponly = true
  rooted : ∀ cookie ∈ s.jar, Rooted rt settings history cookie.value
  trusted : ∀ id origin grant, .sent id origin grant ∈ history → Trusted rt settings origin
  renewed : ∀ id origin token, .sent id origin (.refresh .cookie token) ∈ history →
    Rooted rt settings history token
  stored : Justified (SentAsStored rt settings) history
  granting : ∀ id page request form, s.calls id = .granting page request form →
    ∃ grant, .sent id page.origin grant ∈ history
  answered : ∀ id page response, s.calls id = .answered page response →
    Proper rt settings history page response
  visible : ∀ id page status body, .visible id page status body ∈ history →
    ¬ Trusted rt settings page.origin → SeesRefusal rt page status body

theorem Proper.mono {history' : List WebEvent} {response : WebResponse}
    (h : Proper rt settings history page response) (hsub : history ⊆ history') :
    Proper rt settings history' page response :=
  ⟨h.untrusted, h.hidden, h.accepted,
    fun cookie hcookie now kept hkept => (h.rooted cookie hcookie now kept hkept).mono hsub⟩

/-- What Keycloak issues for a request of a trusted origin is rooted. -/
theorem SessionInvariant.rooted_of_issued (h : SessionInvariant rt settings s history)
    {history' : List WebEvent} (hsub : history ⊆ history') {grant : WebGrant}
    (hsent : .sent id origin grant ∈ history) (hissued : .issued id token ∈ history') :
    Rooted rt settings history' token := by
  have htrusted := h.trusted id origin grant hsent
  cases grant with
  | password => exact .login htrusted (hsub hsent) hissued
  | refresh source token' =>
    cases source with
    | cookie =>
      have hroot := (h.renewed id origin token' hsent).mono hsub
      exact .renewed hroot htrusted (hsub hsent) hissued
    | body => exact .given htrusted (hsub hsent) hissued

/-! ### One step keeps the invariant -/

/-- Replacing one request by an answered one. -/
theorem answered_setCall {response : WebResponse} {k : ℕ → WebCall}
    (hcall : Proper rt settings history page response)
    (hold : ∀ id page response, k id = .answered page response →
      Proper rt settings history page response) :
    ∀ id' page' response', Function.update k id (.answered page response) id' =
      .answered page' response' → Proper rt settings history page' response' := by
  intro id' page' response' h
  by_cases hid : id' = id
  · subst hid
    rw [Function.update_self] at h
    obtain ⟨rfl, rfl⟩ := WebCall.answered.inj h
    exact hcall
  · rw [Function.update_of_ne hid] at h
    exact hold id' page' response' h

/-- The browser keeps a cookie as it is. -/
theorem kept_eq_some {cookie : SetCookie} {now : ℚ} {kept : JarCookie}
    (h : cookie.kept now = some kept) :
    kept.value = cookie.value ∧ kept.httponly = cookie.httponly := by
  unfold SetCookie.kept at h
  split at h
  · exact Option.some.inj h ▸ ⟨rfl, rfl⟩
  · split_ifs at h
    exact Option.some.inj h ▸ ⟨rfl, rfl⟩

/-- A cookie that deletes leaves nothing behind. -/
theorem kept_deletion (secure : Bool) (now : ℚ) :
    (refreshCookie secure "" (some 0)).kept now = none := rfl

/-- A response of the service itself is proper. -/
theorem proper_of_deletion {response : WebResponse} (history : List WebEvent)
    (huntrusted : ¬ Trusted rt settings page.origin → Refused rt page.body response)
    (hcookie : response.OnlyDeletes) : Proper rt settings history page response := by
  refine ⟨huntrusted, fun cookie hmem => ?_, fun cookie hmem => ?_,
    fun cookie hmem now kept hkept => ?_⟩ <;> obtain ⟨secure, rfl⟩ := hcookie cookie hmem
  · exact (refreshCookie_accepted secure "" (some 0)).1
  · exact (refreshCookie_accepted secure "" (some 0)).2
  · exact absurd hkept (by rw [kept_deletion]; simp)

/-- The cookie of an accepted token response holds the token that was issued. -/
theorem proper_of_grant (history : List WebEvent)
    (answer : Except CallRaised KeycloakTokenResponse) (htrusted : Trusted rt settings page.origin)
    (hrooted : ∀ token, .issued id token ∈ issuedBy id answer →
      Rooted rt settings history token) :
    Proper rt settings history page (grantResponse rt settings request answer) := by
  -- a cookie is set by an accepted document only, and holds the refresh token of that document
  have hshape : ∀ cookie ∈ (grantResponse rt settings request answer).setCookie,
      ∃ secure token maxAge, cookie = refreshCookie secure token maxAge ∧
        .issued id token ∈ issuedBy id answer := by
    intro cookie hcookie
    cases answer with
    | error raised =>
      exact absurd hcookie (by simp [grantResponse, raised.toWeb_setCookie])
    | ok answer =>
      simp only [grantResponse, setWebRefreshCookie] at hcookie
      split at hcookie
      · exact absurd hcookie (by simp)
      · rename_i refreshToken htoken
        split_ifs at hcookie
        · exact absurd hcookie (by simp)
        · refine ⟨_, refreshToken, _, (Option.mem_some_iff.mp hcookie).symm, ?_⟩
          simp [issuedBy, htoken]
  refine ⟨fun hnot => absurd htrusted hnot, fun cookie hmem => ?_, fun cookie hmem => ?_,
    fun cookie hmem now kept hkept => ?_⟩ <;>
    obtain ⟨secure, token, maxAge, rfl, hissued⟩ := hshape cookie hmem
  · exact (refreshCookie_accepted secure token maxAge).1
  · exact (refreshCookie_accepted secure token maxAge).2
  · have hvalue : kept.value = token := (kept_eq_some hkept).1
    exact hvalue ▸ hrooted token hissued

/-- Events that neither touch the jar nor are grants. -/
def WebEvent.isSilent : WebEvent → Bool
  | .issued _ _ => true
  | .visible _ _ _ _ => true
  | _ => false

theorem lastStored_append_silent (hsilent : ∀ e ∈ es, e.isSilent = true) :
    lastStored (es ++ history) = lastStored history := by
  induction es with
  | nil => rfl
  | cons e es ih =>
    have hrest := ih fun e' he' => hsilent e' (List.mem_cons_of_mem e he')
    have he := hsilent e List.mem_cons_self
    cases e with
    | issued id token => exact hrest
    | visible id page status body => exact hrest
    | sent id origin grant => exact absurd he (by simp [WebEvent.isSilent])
    | stored id token => exact absurd he (by simp [WebEvent.isSilent])
    | cleared id => exact absurd he (by simp [WebEvent.isSilent])

theorem issuedBy_silent (answer : Except CallRaised KeycloakTokenResponse) :
    ∀ e ∈ issuedBy id answer, e.isSilent = true := by
  intro e he
  cases answer with
  | error raised => exact absurd he List.not_mem_nil
  | ok token =>
    obtain ⟨token', -, rfl⟩ := List.mem_map.mp he
    rfl

/-- Nothing but a grant needs to be justified. -/
theorem justified_of_not_sent (h : Justified (SentAsStored rt settings) history)
    (hsent : ∀ id origin grant, .sent id origin grant ∉ es) :
    Justified (SentAsStored rt settings) (es ++ history) := by
  refine h.append fun after e before heq => ?_
  cases e with
  | sent id origin grant =>
    exact absurd (heq ▸ List.mem_append_right after List.mem_cons_self) (hsent id origin grant)
  | issued => trivial
  | stored => trivial
  | cleared => trivial
  | visible => trivial

/-- A request found in another state than the one just written is an old one. -/
theorem update_eq_of_ne {k : ℕ → WebCall} {call target : WebCall} {id' : ℕ} (hne : call ≠ target)
    (h : Function.update k id call id' = target) : k id' = target := by
  by_cases hid : id' = id
  · subst hid
    exact absurd ((Function.update_self id' call k).symm.trans h) hne
  · rwa [Function.update_of_ne hid] at h

/-- The jar, the clock and the requests after a response. -/
theorem receive_cases (s : BrowserState) (id : ℕ) (page : PageRequest) (response : WebResponse) :
    s.receive id page response = (s.setCall id .received,
        [.visible id page response.status response.body]) ∨
      ∃ cookie ∈ response.setCookie, s.receive id page response =
        match cookie.kept s.now with
        | none => ({ s with jar := none }.setCall id .received,
            [.cleared id, .visible id page response.status response.body])
        | some kept => ({ s with jar := some kept }.setCall id .received,
            [.stored id kept.value, .visible id page response.status response.body]) := by
  unfold BrowserState.receive PageRequest.cookieOf
  split_ifs
  · cases hcookie : response.setCookie.filter SetCookie.accepted with
    | none => exact Or.inl rfl
    | some cookie => exact Or.inr ⟨cookie, (Option.filter_eq_some_iff.mp hcookie).1, rfl⟩
  · exact Or.inl rfl

/-- A step that sends no grant and touches no cookie. -/
theorem SessionInvariant.extend (h : SessionInvariant rt settings s history)
    (hsilent : ∀ e ∈ es, e.isSilent = true) (hjar : s'.jar = s.jar)
    (hgranting : ∀ id page request form, s'.calls id = .granting page request form →
      s.calls id = .granting page request form)
    (hanswered : ∀ id page response, s'.calls id = .answered page response →
      Proper rt settings (es ++ history) page response)
    (hvisible : ∀ id page status body, .visible id page status body ∈ es →
      ¬ Trusted rt settings page.origin → SeesRefusal rt page status body) :
    SessionInvariant rt settings s' (es ++ history) := by
  have hsub : history ⊆ es ++ history := List.subset_append_right es history
  have hsent : ∀ id origin grant, .sent id origin grant ∉ es :=
    fun _ _ _ hmem => absurd (hsilent _ hmem) (by simp [WebEvent.isSilent])
  refine ⟨?_, hjar ▸ h.hidden, fun cookie hcookie => ?_, fun id origin grant hmem => ?_,
    fun id origin token hmem => ?_, justified_of_not_sent h.stored hsent,
    fun id page request form hcall => ?_, hanswered, fun id page status body hmem => ?_⟩
  · rw [hjar, lastStored_append_silent hsilent]
    exact h.jar
  · exact (h.rooted cookie (hjar ▸ hcookie)).mono hsub
  · exact h.trusted id origin grant ((List.mem_append.mp hmem).resolve_left (hsent _ _ _))
  · exact (h.renewed id origin token
      ((List.mem_append.mp hmem).resolve_left (hsent _ _ _))).mono hsub
  · obtain ⟨grant, hgrant⟩ := h.granting id page request form (hgranting id page request form hcall)
    exact ⟨grant, hsub hgrant⟩
  · rcases List.mem_append.mp hmem with hmem | hmem
    · exact hvisible id page status body hmem
    · exact h.visible id page status body hmem

/-- The browser takes or drops a cookie. -/
theorem SessionInvariant.setJar (h : SessionInvariant rt settings s history)
    {jar : Option JarCookie} {status : ℕ} {body : WebBody} {e : WebEvent}
    (hlast : ∀ past, lastStored (e :: past) = jar.map JarCookie.value)
    (hsent : ∀ id origin grant, e ≠ .sent id origin grant)
    (hnot : ∀ id page status body, e ≠ .visible id page status body)
    (hhidden : ∀ cookie ∈ jar, cookie.httponly = true)
    (hrooted : ∀ cookie ∈ jar, Rooted rt settings history cookie.value)
    (hvisible : ¬ Trusted rt settings page.origin → SeesRefusal rt page status body) :
    SessionInvariant rt settings ({ s with jar := jar }.setCall id .received)
      ([e, .visible id page status body] ++ history) := by
  have hsub : history ⊆ [e, .visible id page status body] ++ history :=
    List.subset_append_right _ history
  -- neither of the two events sends a grant
  have hsent' : ∀ id' origin' grant',
      .sent id' origin' grant' ∉ [e, .visible id page status body] := by
    intro id' origin' grant' hmem
    rcases List.mem_cons.mp hmem with heq | hmem
    · exact hsent _ _ _ heq.symm
    · exact absurd (List.mem_singleton.mp hmem) (by simp)
  refine ⟨(hlast _).symm, hhidden, fun cookie hcookie => (hrooted cookie hcookie).mono hsub,
    fun id' origin' grant' hmem => ?_, fun id' origin' token' hmem => ?_,
    justified_of_not_sent h.stored hsent', fun id' page' request' form' hcall => ?_,
    fun id' page' response' hcall => ?_, fun id' page' status' body' hmem => ?_⟩
  · exact h.trusted id' origin' grant' ((List.mem_append.mp hmem).resolve_left (hsent' _ _ _))
  · exact (h.renewed id' origin' token'
      ((List.mem_append.mp hmem).resolve_left (hsent' _ _ _))).mono hsub
  · obtain ⟨grant, hgrant⟩ := h.granting id' page' request' form'
      (update_eq_of_ne (by simp) hcall)
    exact ⟨grant, hsub hgrant⟩
  · exact (h.answered id' page' response' (update_eq_of_ne (by simp) hcall)).mono hsub
  · rcases List.mem_cons.mp hmem with heq | hmem
    · exact absurd heq.symm (hnot _ _ _ _)
    · rcases List.mem_cons.mp hmem with heq | hmem
      · obtain ⟨-, rfl, rfl, rfl⟩ := WebEvent.visible.inj heq
        exact hvisible
      · exact h.visible id' page' status' body' hmem

/-- A grant is sent. -/
theorem SessionInvariant.ask (h : SessionInvariant rt settings s history) (form : Form)
    {grant : WebGrant} (htrusted : Trusted rt settings page.origin)
    (hcookie : ∀ token, grant = .refresh .cookie token →
      s.jar.map JarCookie.value = some token) :
    SessionInvariant rt settings (s.setCall id (.granting page (s.request page) form))
      ([.sent id page.origin grant] ++ history) := by
  have hsub : history ⊆ [.sent id page.origin grant] ++ history :=
    List.subset_append_right _ history
  have hgrant : .sent id page.origin grant ∈ [.sent id page.origin grant] ++ history :=
    List.mem_cons_self
  -- a cookie that goes out is in the jar, and so it is rooted and was stored last
  have hjar : ∀ token, grant = .refresh .cookie token →
      lastStored history = some token ∧ Rooted rt settings history token := by
    intro token hsame
    obtain ⟨cookie, hjar, rfl⟩ := Option.map_eq_some_iff.mp (hcookie token hsame)
    exact ⟨h.jar.symm.trans (hcookie _ hsame), h.rooted cookie hjar⟩
  refine ⟨h.jar, h.hidden, fun cookie hmem => (h.rooted cookie hmem).mono hsub,
    fun id' origin' grant' hmem => ?_, fun id' origin' token' hmem => ?_,
    ⟨⟨htrusted, hjar⟩, h.stored⟩, fun id' page' request' form' hcall => ?_,
    fun id' page' response' hcall => ?_, fun id' page' status' body' hmem => ?_⟩
  · rcases List.mem_cons.mp hmem with heq | hmem
    · obtain ⟨-, rfl, -⟩ := WebEvent.sent.inj heq
      exact htrusted
    · exact h.trusted id' origin' grant' hmem
  · rcases List.mem_cons.mp hmem with heq | hmem
    · obtain ⟨-, -, hsame⟩ := WebEvent.sent.inj heq
      exact (hjar token' hsame.symm).2.mono hsub
    · exact (h.renewed id' origin' token' hmem).mono hsub
  · by_cases hid : id' = id
    · subst hid
      have hself := (Function.update_self id' _ s.calls).symm.trans hcall
      obtain ⟨rfl, -⟩ := WebCall.granting.inj hself
      exact ⟨grant, hgrant⟩
    · obtain ⟨grant', hgrant'⟩ := h.granting id' page' request' form'
        ((Function.update_of_ne hid _ _).symm.trans hcall)
      exact ⟨grant', hsub hgrant'⟩
  · exact (h.answered id' page' response' (update_eq_of_ne (by simp) hcall)).mono hsub
  · rcases List.mem_cons.mp hmem with heq | hmem
    · exact absurd heq (by simp)
    · exact h.visible id' page' status' body' hmem

/-- What is proper for a page of an untrusted origin is a refusal to its eyes. -/
theorem Proper.seesRefusal {response : WebResponse}
    (h : Proper rt settings history page response) (hnot : ¬ Trusted rt settings page.origin) :
    SeesRefusal rt page response.status response.body := by
  rcases h.untrusted hnot with rfl | ⟨refusal, hrefusal, rfl⟩
  · exact Or.inl ⟨rfl, rfl⟩
  · exact Or.inr ⟨refusal, hrefusal, rfl, rfl⟩

/-- A response is received. -/
theorem SessionInvariant.receive (h : SessionInvariant rt settings s history)
    {response : WebResponse} (hproper : Proper rt settings history page response) :
    SessionInvariant rt settings (s.receive id page response).1
      ((s.receive id page response).2 ++ history) := by
  rcases receive_cases s id page response with heq | ⟨cookie, hcookie, heq⟩ <;> rw [heq]
  · refine h.extend (fun e he => ?_) rfl (fun _ _ _ _ => update_eq_of_ne (by simp))
      (fun id' page' response' hcall => ?_) fun id' page' status' body' hmem => ?_
    · rw [List.mem_singleton.mp he]
      rfl
    · exact (h.answered id' page' response' (update_eq_of_ne (by simp) hcall)).mono
        (List.subset_append_right _ history)
    · obtain ⟨-, rfl, rfl, rfl⟩ := WebEvent.visible.inj (List.mem_singleton.mp hmem)
      exact hproper.seesRefusal
  · -- the cookie is looked at: it empties the jar, or takes its place there
    cases hkept : cookie.kept s.now with
    | none =>
      exact h.setJar (fun _ => rfl) (by simp) (by simp) (fun _ hmem => absurd hmem (by simp))
        (fun _ hmem => absurd hmem (by simp)) hproper.seesRefusal
    | some kept =>
      refine h.setJar (fun _ => rfl) (by simp) (by simp) (fun cookie' hmem => ?_)
        (fun cookie' hmem => ?_) hproper.seesRefusal
      · obtain rfl := Option.mem_some_iff.mp hmem
        exact (kept_eq_some hkept).2.trans (hproper.hidden cookie hcookie)
      · obtain rfl := Option.mem_some_iff.mp hmem
        exact hproper.rooted cookie hcookie s.now _ hkept

/-- **Step lemma.** -/
theorem WebMove.keeps (hmove : WebMove rt settings s s' es)
    (h : SessionInvariant rt settings s history) :
    SessionInvariant rt settings s' (es ++ history) := by
  -- one case for each way a page, the API and Keycloak can move
  cases hmove with
  | tick _ =>
    exact h.extend (fun _ he => absurd he List.not_mem_nil) rfl (fun _ _ _ _ => id) h.answered
      fun _ _ _ _ he => absurd he List.not_mem_nil
  | answered huntrusted hcookie =>
    refine h.extend (fun _ he => absurd he List.not_mem_nil) rfl
      (fun _ _ _ _ => update_eq_of_ne (by simp)) ?_
      fun _ _ _ _ he => absurd he List.not_mem_nil
    exact answered_setCall (proper_of_deletion history huntrusted hcookie) h.answered
  | asked htrusted hcookie => exact h.ask _ htrusted hcookie
  | @granted id page request form answer hgranting =>
    obtain ⟨grant, hgrant⟩ := h.granting id page request form hgranting
    have hsub : history ⊆ issuedBy id answer ++ history := List.subset_append_right _ history
    have hrooted : ∀ token, .issued id token ∈ issuedBy id answer →
        Rooted rt settings (issuedBy id answer ++ history) token :=
      fun token hissued => h.rooted_of_issued hsub hgrant (List.mem_append_left history hissued)
    refine h.extend (issuedBy_silent answer) rfl
      (fun _ _ _ _ => update_eq_of_ne (by simp)) ?_ fun _ _ _ _ he => ?_
    · refine answered_setCall ?_ fun id page response hcall =>
        (h.answered id page response hcall).mono hsub
      exact proper_of_grant _ answer (h.trusted id _ grant hgrant) hrooted
    · cases answer with
      | error raised => exact absurd he List.not_mem_nil
      | ok token =>
        obtain ⟨_, -, heq⟩ := List.mem_map.mp he
        exact absurd heq (by simp)
  | @received id page response hanswered => exact h.receive (h.answered id page response hanswered)

/-! ### Whole runs -/

/-- The invariant along a run. -/
theorem sessionInvariant_of_run {start : ℚ} {labels : List WebLabel}
    {c : Config BrowserState WebEvent}
    (hrun : (webSystem rt py settings broker).run (Config.start (BrowserState.init start)) labels =
      some c) : SessionInvariant rt settings c.state c.history := by
  refine System.invariant_run _ (I := fun c => SessionInvariant rt settings c.state c.history)
    ?_ ?_ hrun
  · intro c label c' h hnext
    obtain ⟨es, hstep, hhist⟩ := (webSystem rt py settings broker).next_eq_some.mp hnext
    rw [hhist]
    exact (webStep_move hstep).keeps h
  · refine ⟨rfl, fun _ hmem => absurd hmem (by simp [BrowserState.init]),
      fun _ hmem => absurd hmem (by simp [BrowserState.init]),
      fun _ _ _ hmem => absurd hmem List.not_mem_nil,
      fun _ _ _ hmem => absurd hmem List.not_mem_nil, trivial,
      fun _ _ _ _ hcall => absurd hcall (by simp [BrowserState.init]),
      fun _ _ _ hcall => absurd hcall (by simp [BrowserState.init]),
      fun _ _ _ _ hmem => absurd hmem List.not_mem_nil⟩

/-- **Where a session comes from.** In every run of a browser, with any number of requests in
    flight: the cookie is hidden from scripts, and goes back to a login or a body at a trusted
    origin; Keycloak is asked for trusted origins only, and with a cookie only as it was stored
    last; and a page of another origin sees the refusal of its origin, or of the body it sent, and
    nothing else, whatever it asks. -/
theorem web_session_rooted {start : ℚ} {labels : List WebLabel} {c : Config BrowserState WebEvent}
    (hrun : (webSystem rt py settings broker).run (Config.start (BrowserState.init start)) labels =
      some c) :
    (∀ cookie ∈ c.state.jar, cookie.httponly = true ∧ lastStored c.history = some cookie.value ∧
        Rooted rt settings c.history cookie.value) ∧
      (∀ after id origin grant past, c.history = after ++ .sent id origin grant :: past →
        Trusted rt settings origin ∧ ∀ token, grant = .refresh .cookie token →
          lastStored past = some token ∧ Rooted rt settings past token) ∧
      ∀ id page status body, .visible id page status body ∈ c.history →
        ¬ Trusted rt settings page.origin → SeesRefusal rt page status body := by
  have h := sessionInvariant_of_run hrun
  refine ⟨fun cookie hcookie => ?_, fun after id origin grant past hsplit => ?_, h.visible⟩
  · have hjar := h.jar
    rw [Option.mem_def.mp hcookie, Option.map_some] at hjar
    exact ⟨h.hidden cookie hcookie, hjar.symm, h.rooted cookie hcookie⟩
  · have hstored := h.stored
    rw [hsplit] at hstored
    exact hstored.of_append

/-! ### The routes as a whole -/

/-- The transport is asked about one form only. -/
theorem exchangeToken_post (broker : TokenBroker) (form : Form) :
    { broker with post := fun _ => broker.post form }.exchangeToken rt form =
      broker.exchangeToken rt form := rfl

/-- A request, its answer by Keycloak if it is asked, and the response the browser then awaits. -/
def Answers (rt : Runtime) (py : PyValues) (settings : WebSettings) (broker : TokenBroker)
    (s : BrowserState) (id : ℕ) (label : WebLabel) (response : WebResponse) : Prop :=
  ∃ s₁ es₁, webStep rt py settings broker s label = some (s₁, es₁) ∧
    ((∃ page, s₁.calls id = .answered page response) ∨
      ∃ page request form s₂ es₂, s₁.calls id = .granting page request form ∧
        webStep rt py settings broker s₁ (.keycloak id (broker.post form)) = some (s₂, es₂) ∧
        s₂.calls id = .answered page response)

theorem calls_setCall (s : BrowserState) (id : ℕ) (k : WebCall) :
    (s.setCall id k).calls id = k := by
  simp [BrowserState.setCall]

/-- The service answers at once. -/
theorem answers_of_answer (page : PageRequest) {response : WebResponse}
    (hstep : webStep rt py settings broker s label = some (s.answer id page response)) :
    Answers rt py settings broker s id label response :=
  ⟨_, _, hstep, Or.inl ⟨page, calls_setCall _ _ _⟩⟩

theorem calls_setCall_of_ne (s : BrowserState) {id id' : ℕ} (h : id' ≠ id) (k : WebCall) :
    (s.setCall id k).calls id' = s.calls id' := by
  simp [BrowserState.setCall, h]

/-- Asking Keycloak and taking its answer is one call of the broker. -/
theorem answers_of_ask (grant : WebGrant) (form : String → Form)
    {call : Except CallRaised KeycloakTokenResponse}
    (hstep : webStep rt py settings broker s label = some (s.ask broker id page form grant))
    (hcall : call = match broker.clientSecret with
      | none => unavailable "broker client secret is not configured"
      | some secret => broker.exchangeToken rt (form secret)) :
    Answers rt py settings broker s id label
      (grantResponse rt settings (s.request page) call) := by
  unfold BrowserState.ask at hstep
  cases hsecret : broker.clientSecret with
  | none =>
    rw [hsecret] at hstep hcall
    refine ⟨_, _, hstep, Or.inl ⟨page, ?_⟩⟩
    rw [hcall]
    exact calls_setCall _ _ _
  | some secret =>
    rw [hsecret] at hstep hcall
    have hkeycloak : webStep rt py settings broker
        (s.setCall id (.granting page (s.request page) (form secret)))
        (.keycloak id (broker.post (form secret))) =
          some ((s.setCall id (.granting page (s.request page) (form secret))).setCall id
              (.answered page (grantResponse rt settings (s.request page)
                (broker.exchangeToken rt (form secret)))),
            issuedBy id (broker.exchangeToken rt (form secret))) := by
      simp only [webStep, calls_setCall, exchangeToken_post]
    refine ⟨_, _, hstep, Or.inr ⟨_, _, _, _, _, calls_setCall _ _ _, hkeycloak, ?_⟩⟩
    rw [hcall]
    exact calls_setCall _ _ _

/-- **The steps are the routes.** -/
theorem web_routes_answered (hidle : s.calls id = .idle) (page : PageRequest) :
    (∀ otp, Answers rt py settings broker s id (.verify id page otp)
        (verifyWebLogin rt settings broker (s.request page) otp)) ∧
      Answers rt py settings broker s id (.refresh id page)
        (refreshWebSession rt py settings broker (s.request page)) ∧
      Answers rt py settings broker s id (.logout id page)
        (logoutWebSession rt settings (s.request page)) := by
  refine ⟨fun otp => ?_, ?_, ?_⟩
  · unfold verifyWebLogin
    cases hbegin : beginWebLogin rt settings (s.request page) otp with
    | error response =>
      apply answers_of_answer page
      simp only [webStep, hidle, hbegin]
    | ok credentials =>
      refine answers_of_ask .password
        (fun secret => broker.passwordForm secret credentials.email credentials.password) ?_ rfl
      simp only [webStep, hidle, hbegin]
  · unfold refreshWebSession
    cases hbegin : beginWebRefresh rt py settings (s.request page) with
    | error response =>
      apply answers_of_answer page
      simp only [webStep, hidle, hbegin]
    | ok sent =>
      refine answers_of_ask (.refresh sent.1 sent.2)
        (fun secret => broker.refreshForm secret sent.2) ?_ rfl
      simp only [webStep, hidle, hbegin]
  · apply answers_of_answer page
    simp only [webStep, hidle]

/-! ### Logging out -/

/-- A request that will bring no cookie: it is not under way, or its answer holds none. -/
def WebCall.BringsNothing : WebCall → Prop
  | .idle => True
  | .granting _ _ _ => False
  | .answered _ response => response.OnlyDeletes
  | .received => True

/-- Nothing of a session is left: no cookie, and no response that would bring one. -/
structure LoggedOut (s : BrowserState) : Prop where
  jar : s.jar = none
  calls : ∀ id, (s.calls id).BringsNothing

/-- A step that neither logs in nor brings a refresh token of its own. -/
def WebLabel.isAnonymous (py : PyValues) : WebLabel → Bool
  | .verify _ _ _ => false
  | .refresh _ page =>
      match bodyRefreshToken py page.body with
      | .ok (some _) => false
      | _ => true
  | _ => true

/-- Replacing one request by one that brings nothing. -/
theorem bringsNothing_setCall {s : BrowserState} {k : WebCall} (hk : k.BringsNothing) (id : ℕ)
    (h : ∀ id', id' ≠ id → (s.calls id').BringsNothing) (id' : ℕ) :
    ((s.setCall id k).calls id').BringsNothing := by
  by_cases hid : id' = id
  · subst hid
    rwa [calls_setCall]
  · rw [calls_setCall_of_ne _ hid]
    exact h id' hid

/-- One more response that brings no cookie. -/
theorem LoggedOut.answer (h : LoggedOut s) (id : ℕ) (page : PageRequest) {response : WebResponse}
    (hcookie : response.OnlyDeletes) : LoggedOut (s.answer id page response).1 :=
  ⟨h.jar, bringsNothing_setCall (k := .answered page response) hcookie id fun id' _ => h.calls id'⟩

/-- A response with a deletion leaves the jar empty. -/
theorem LoggedOut.receive (h : LoggedOut s) {response : WebResponse}
    (hcall : s.calls id = .answered page response) :
    LoggedOut (s.receive id page response).1 ∧
      ∀ id' origin grant, .sent id' origin grant ∉ (s.receive id page response).2 := by
  have hcookie : response.OnlyDeletes := by
    have hbrings := h.calls id
    rwa [hcall] at hbrings
  have hreceived : ∀ jar : Option JarCookie, jar = none →
      LoggedOut ({ s with jar := jar }.setCall id .received) := by
    rintro _ rfl
    exact ⟨rfl, bringsNothing_setCall (k := .received) trivial id fun id' _ => h.calls id'⟩
  rcases receive_cases s id page response with heq | ⟨cookie, hmem, heq⟩
  · rw [heq]
    exact ⟨hreceived s.jar h.jar, by simp⟩
  · obtain ⟨secure, rfl⟩ := hcookie cookie hmem
    rw [heq, kept_deletion]
    exact ⟨hreceived none rfl, by simp⟩

/-- The browser receives a deletion for a request that its cookies went with. -/
theorem receive_deletion (s : BrowserState) (id : ℕ) (hattach : page.attach = true) (status : ℕ)
    (body : WebBody) (secure : Bool) :
    s.receive id page ⟨status, body, some (refreshCookie secure "" (some 0))⟩ =
      ({ s with jar := none }.setCall id .received,
        [.cleared id, .visible id page status body]) := by
  unfold BrowserState.receive PageRequest.cookieOf
  rw [if_pos hattach, Option.filter_some, if_pos (refreshCookie_accepted secure "" (some 0)).2]
  rfl

/-- Without a cookie and a body token a refresh is refused. -/
theorem beginWebRefresh_of_loggedOut (h : LoggedOut s)
    (hbody : ∀ token, bodyRefreshToken py page.body ≠ .ok (some token)) :
    ∃ response, beginWebRefresh rt py settings (s.request page) = .error response := by
  have hcookie : (s.request page).cookie = none := by
    simp [BrowserState.request, BrowserState.liveCookie, h.jar]
  by_cases htrusted : Trusted rt settings page.origin
  · simp only [beginWebRefresh, request_origin, request_body, requireWebOrigin_of_trusted htrusted,
      hcookie, Except.mapError, bind, Except.bind, Option.filter_none]
    cases hread : bodyRefreshToken py page.body with
    | error error =>
      dsimp only
      split_ifs <;> exact ⟨_, rfl⟩
    | ok token =>
      cases token with
      | none => exact ⟨_, rfl⟩
      | some token => exact absurd hread (hbody token)
  · exact ⟨forbidden, beginWebRefresh_of_not_trusted htrusted⟩

/-- **Step lemma.** An anonymous step of a browser without a session asks Keycloak nothing. -/
theorem LoggedOut.step (h : LoggedOut s) (hlabel : label.isAnonymous py = true)
    (hstep : webStep rt py settings broker s label = some (s', es)) :
    LoggedOut s' ∧ ∀ id origin grant, .sent id origin grant ∉ es := by
  cases label with
  | tick t =>
    simp only [webStep] at hstep
    split_ifs at hstep
    obtain ⟨rfl, rfl⟩ := Prod.mk.inj (Option.some.inj hstep)
    exact ⟨⟨h.jar, h.calls⟩, by simp⟩
  | verify id page otp => exact absurd hlabel Bool.false_ne_true
  | refresh id page =>
    have hbody : ∀ token, bodyRefreshToken py page.body ≠ .ok (some token) := by
      intro token htoken
      simp [WebLabel.isAnonymous, htoken] at hlabel
    obtain ⟨response, hresponse⟩ : ∃ response,
        beginWebRefresh rt py settings (s.request page) = .error response :=
      beginWebRefresh_of_loggedOut h hbody
    simp only [webStep, hresponse] at hstep
    split at hstep
    · obtain ⟨rfl, rfl⟩ := Prod.mk.inj (Option.some.inj hstep)
      exact ⟨h.answer id page (beginWebRefresh_setCookie hresponse), by simp⟩
    · exact absurd hstep (by simp)
  | logout id page =>
    simp only [webStep] at hstep
    split at hstep
    · obtain ⟨rfl, rfl⟩ := Prod.mk.inj (Option.some.inj hstep)
      exact ⟨h.answer id page logoutWebSession_setCookie, by simp⟩
    · exact absurd hstep (by simp)
  | keycloak id outcome =>
    simp only [webStep] at hstep
    split at hstep
    · rename_i page request form hcall
      -- no request of a browser that has logged out waits for Keycloak
      have hbrings := h.calls id
      rw [hcall] at hbrings
      exact hbrings.elim
    · exact absurd hstep (by simp)
  | receive id =>
    simp only [webStep] at hstep
    split at hstep
    · rename_i page response hcall
      have hreceive := h.receive hcall
      rwa [Option.some.inj hstep] at hreceive
    · exact absurd hstep (by simp)

/-- What the clock leaves alone while a response is on its way. -/
theorem run_ticks {c c' : Config BrowserState WebEvent} {ticks : List ℚ}
    (hrun : (webSystem rt py settings broker).run c (ticks.map .tick) = some c') :
    c'.state.calls = c.state.calls ∧ c'.history = c.history := by
  refine (webSystem rt py settings broker).invariant_run_of_meets
    (I := fun d => d.state.calls = c.state.calls ∧ d.history = c.history)
    ?_ ⟨rfl, rfl⟩ ((webSystem rt py settings broker).meets_of_forall
      (p := fun label => ∃ t, label = .tick t) c ?_) hrun
  · rintro d label d' ⟨hcalls, hhist⟩ ⟨t, rfl⟩ hnext
    obtain ⟨es, hstep, hhist'⟩ := (webSystem rt py settings broker).next_eq_some.mp hnext
    simp only [webSystem, webStep] at hstep
    split_ifs at hstep
    obtain ⟨hstate, rfl⟩ := Prod.mk.inj (Option.some.inj hstep)
    exact ⟨by rw [← hstate]; exact hcalls, by rw [hhist']; exact hhist⟩
  · intro label hlabel
    obtain ⟨t, -, rfl⟩ := List.mem_map.mp hlabel
    exact ⟨t, rfl⟩

/-- The steps by which a browser logs out. -/
theorem loggedOut_of_logout {c c₁ c₂ c₃ : Config BrowserState WebEvent} {ticks : List ℚ}
    (htrusted : Trusted rt settings page.origin) (hattach : page.attach = true)
    (hidle : c.state.calls id = .idle)
    (hquiet : ∀ id', id' ≠ id → c.state.calls id' = .idle ∨ c.state.calls id' = .received)
    (hlogout : (webSystem rt py settings broker).next c (.logout id page) = some c₁)
    (hticks : (webSystem rt py settings broker).run c₁ (ticks.map .tick) = some c₂)
    (hreceive : (webSystem rt py settings broker).next c₂ (.receive id) = some c₃) :
    LoggedOut c₃.state ∧
      ∀ id origin grant, .sent id origin grant ∈ c₃.history →
        .sent id origin grant ∈ c.history := by
  obtain ⟨es₁, hstep₁, hhist₁⟩ := (webSystem rt py settings broker).next_eq_some.mp hlogout
  obtain ⟨es₃, hstep₃, hhist₃⟩ := (webSystem rt py settings broker).next_eq_some.mp hreceive
  have hstep₁' : webStep rt py settings broker c.state (.logout id page) =
      some (c.state.answer id page (logoutWebSession rt settings (c.state.request page))) := by
    simp only [webStep, hidle]
  obtain ⟨hstate₁, rfl⟩ := Prod.mk.inj (Option.some.inj (hstep₁.symm.trans hstep₁'))
  -- the answer is there at once, and time does not change it on its way
  obtain ⟨hcalls₂, hhist₂⟩ := run_ticks hticks
  have hcall : c₂.state.calls id = .answered page ⟨204, .empty,
      some (refreshCookie (isSecureRequest rt settings (c.state.request page)) "" (some 0))⟩ := by
    have htrusted' : Trusted rt settings (c.state.request page).origin := htrusted
    rw [hcalls₂, hstate₁, ← logoutWebSession_of_trusted htrusted']
    exact calls_setCall _ _ _
  have hstep₃' : webStep rt py settings broker c₂.state (.receive id) =
      some ({ c₂.state with jar := none }.setCall id .received,
        [.cleared id, .visible id page 204 .empty]) := by
    simp only [webStep, hcall, receive_deletion _ _ hattach]
  obtain ⟨hstate₃, rfl⟩ := Prod.mk.inj (Option.some.inj (hstep₃.symm.trans hstep₃'))
  refine ⟨⟨congrArg BrowserState.jar hstate₃, ?_⟩, fun id' origin grant hmem => ?_⟩
  · rw [hstate₃]
    refine bringsNothing_setCall (s := { c₂.state with jar := none }) (k := .received) trivial id
      fun id' hid => ?_
    -- the other requests are where they were before the logout
    have hold : c₂.state.calls id' = c.state.calls id' := by
      rw [hcalls₂, hstate₁]
      exact calls_setCall_of_ne _ hid _
    show (c₂.state.calls id').BringsNothing
    rw [hold]
    rcases hquiet id' hid with hcall' | hcall' <;> rw [hcall'] <;> trivial
  · rw [hhist₃, hhist₂, hhist₁] at hmem
    simpa using hmem

/-- **Logging out is final.** Once a browser has logged out with no other request in flight, and
    as long as it neither logs in nor brings a refresh token of its own, Keycloak is asked nothing
    and no cookie comes back. -/
theorem web_logout_final {c c' : Config BrowserState WebEvent} {ticks : List ℚ}
    {labels : List WebLabel} (htrusted : Trusted rt settings page.origin)
    (hattach : page.attach = true) (hidle : c.state.calls id = .idle)
    (hquiet : ∀ id', id' ≠ id → c.state.calls id' = .idle ∨ c.state.calls id' = .received)
    (hanonymous : ∀ label ∈ labels, label.isAnonymous py = true)
    (hrun : (webSystem rt py settings broker).run c
      (.logout id page :: (ticks.map .tick ++ .receive id :: labels)) = some c') :
    c'.state.jar = none ∧
      ∀ id origin grant, .sent id origin grant ∈ c'.history →
        .sent id origin grant ∈ c.history := by
  obtain ⟨c₁, hlogout, hrun⟩ := Option.bind_eq_some_iff.mp hrun
  rw [System.run_append] at hrun
  obtain ⟨c₂, hticks, hrun⟩ := Option.bind_eq_some_iff.mp hrun
  obtain ⟨c₃, hreceive, hrun⟩ := Option.bind_eq_some_iff.mp hrun
  have hstart := loggedOut_of_logout htrusted hattach hidle hquiet hlogout hticks hreceive
  refine And.imp_left LoggedOut.jar ((webSystem rt py settings broker).invariant_run_of_meets
    (I := fun d => LoggedOut d.state ∧ ∀ id origin grant, .sent id origin grant ∈ d.history →
      .sent id origin grant ∈ c.history) ?_ hstart
    ((webSystem rt py settings broker).meets_of_forall c₃ hanonymous) hrun)
  rintro d label d' ⟨hout, hsent⟩ hlabel hnext
  obtain ⟨es, hstep, hhist⟩ := (webSystem rt py settings broker).next_eq_some.mp hnext
  obtain ⟨hout', hnone⟩ := hout.step hlabel hstep
  refine ⟨hout', fun id origin grant hmem => ?_⟩
  rw [hhist] at hmem
  exact hsent id origin grant ((List.mem_append.mp hmem).resolve_left (hnone _ _ _))

/-- The settings of a developer's machine. -/
def developerSettings : WebSettings := ⟨"development", ""⟩

/-- A page of the frontend a developer runs. -/
def developerPage : PageRequest := ⟨some "http://localhost:5173", none, "http", .absent, true⟩

/-- The page on which Ana enters her code. -/
def codePage : PageRequest := { developerPage with
  body := .document (.object [("email", .str "ana@ouros.app"), ("password", .str "p@ssw0rd"),
    ("challenge_id", .str sampleToken), ("code", .str "123456")]) }

/-- An interpreter for examples, in which every number counts as true. -/
def samplePyValues : PyValues := ⟨fun _ => .ok "", fun _ => true⟩

/-- Ana logs in while two pages of another origin try the session, one with an empty body. -/
def sessionLabels : List WebLabel :=
  [.verify 0 codePage (.ok ()),
    .refresh 1 { developerPage with origin := some "https://evil.example" },
    .verify 3 { developerPage with origin := some "https://evil.example" } (.ok ()),
    .keycloak 0 (.response 200 (.document (.object [("access_token", .str "access"),
      ("expires_in", .int 600), ("token_type", .str "Bearer"), ("refresh_token", .str "first")]))),
    .receive 0, .receive 1, .receive 3, .refresh 2 developerPage]

theorem web_session_rooted_login :
    ∃ c, (webSystem .sample samplePyValues developerSettings sampleBroker).run
        (Config.start (BrowserState.init 0)) sessionLabels = some c ∧
      (∀ cookie ∈ c.state.jar, cookie.httponly = true ∧
        lastStored c.history = some cookie.value ∧
          Rooted .sample developerSettings c.history cookie.value) ∧
      (∀ after id origin grant past, c.history = after ++ .sent id origin grant :: past →
        Trusted .sample developerSettings origin ∧ ∀ token, grant = .refresh .cookie token →
          lastStored past = some token ∧ Rooted .sample developerSettings past token) ∧
      ∀ id page status body, .visible id page status body ∈ c.history →
        ¬ Trusted .sample developerSettings page.origin → SeesRefusal .sample page status body := by
  obtain ⟨c, hc⟩ := Option.isSome_iff_exists.mp (by decide +kernel :
    ((webSystem .sample samplePyValues developerSettings sampleBroker).run
      (Config.start (BrowserState.init 0)) sessionLabels).isSome = true)
  exact ⟨c, hc, web_session_rooted hc⟩

/-- A browser with a session and nothing in flight. -/
def signedIn : Config BrowserState WebEvent :=
  Config.start ⟨0, some ⟨"first", none, true⟩, fun _ => .idle⟩

theorem web_logout_final_signedIn :
    ∃ c, (webSystem .sample samplePyValues developerSettings sampleBroker).run signedIn
        (.logout 0 developerPage ::
          ([1, 2].map .tick ++ .receive 0 :: [.refresh 1 developerPage, .receive 1])) = some c ∧
      c.state.jar = none ∧
      ∀ id origin grant, .sent id origin grant ∈ c.history →
        .sent id origin grant ∈ signedIn.history := by
  obtain ⟨c, hc⟩ := Option.isSome_iff_exists.mp (by decide +kernel :
    ((webSystem .sample samplePyValues developerSettings sampleBroker).run signedIn
      (.logout 0 developerPage ::
        ([1, 2].map .tick ++ .receive 0 :: [.refresh 1 developerPage, .receive 1]))).isSome = true)
  have htrusted : Trusted .sample developerSettings developerPage.origin :=
    ⟨by decide +kernel, by decide +kernel⟩
  exact ⟨c, hc, web_logout_final htrusted rfl rfl (fun _ _ => Or.inl rfl) (by decide) hc⟩

end OurosAuth
