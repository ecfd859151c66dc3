import OurosAuth.App.WebSession

namespace OurosAuth

open Traced

/-!
# Pages learn nothing about refresh tokens

Two runs of a browser with the same requests, in which Keycloak's answers differ in nothing but the
refresh tokens they hand out.

* `SameButTokens` — labels that differ in those alone;
* `Alike` — what is then the same in the two browsers;
* `web_tokens_hidden` — pages see the same responses in both.
-/

/-- Does the document hand out a refresh token? -/
def KeycloakTokenResponse.handsOut (token : KeycloakTokenResponse) : Bool :=
  token.refreshToken.getD "" ≠ ""

/-- Token documents that differ in the refresh token alone. -/
structure SameDocument (token token' : KeycloakTokenResponse) : Prop where
  accessToken : token.accessToken = token'.accessToken
  expiresIn : token.expiresIn = token'.expiresIn
  refreshExpiresIn : token.refreshExpiresIn = token'.refreshExpiresIn
  tokenType : token.tokenType = token'.tokenType
  scope : token.scope = token'.scope
  handsOut : token.handsOut = token'.handsOut

/-- Bodies that are read to such documents, or not read for the same reason. -/
inductive SameRead : Except PyError KeycloakTokenResponse →
    Except PyError KeycloakTokenResponse → Prop
  | error (error : PyError) : SameRead (.error error) (.error error)
  | ok {token token' : KeycloakTokenResponse} (h : SameDocument token token') :
      SameRead (.ok token) (.ok token')

/-- Answers of Keycloak that differ in the refresh token alone. -/
inductive SameOutcome (laxInt : JsonValue → Option ℤ) : PostOutcome → PostOutcome → Prop
  | httpError : SameOutcome laxInt .httpError .httpError
  | raised (error : PyError) : SameOutcome laxInt (.raised error) (.raised error)
  | response (status : ℕ) {body body' : JsonBody}
      (document : SameRead (KeycloakTokenResponse.ofBody laxInt body)
        (KeycloakTokenResponse.ofBody laxInt body')) :
      SameOutcome laxInt (.response status body) (.response status body')

/-- Steps that differ in the refresh tokens Keycloak hands out. -/
inductive SameButTokens (laxInt : JsonValue → Option ℤ) : WebLabel → WebLabel → Prop
  | same (label : WebLabel) : SameButTokens laxInt label label
  | keycloak (id : ℕ) {outcome outcome' : PostOutcome} (h : SameOutcome laxInt outcome outcome') :
      SameButTokens laxInt (.keycloak id outcome) (.keycloak id outcome')

/-- Does the page see the event? -/
def WebEvent.isVisible : WebEvent → Bool
  | .visible _ _ _ _ => true
  | _ => false

/-- What pages see. -/
def visibleEvents (history : List WebEvent) : List WebEvent := history.filter WebEvent.isVisible

theorem SameOutcome.refl (laxInt : JsonValue → Option ℤ) (outcome : PostOutcome) :
    SameOutcome laxInt outcome outcome := by
  cases outcome with
  | httpError => exact .httpError
  | raised error => exact .raised error
  | response status body =>
    refine .response status ?_
    cases KeycloakTokenResponse.ofBody laxInt body with
    | error error => exact .error error
    | ok token => exact .ok ⟨rfl, rfl, rfl, rfl, rfl, rfl⟩

/-! ### What is the same in both browsers -/

/-- Cookies with other tokens. -/
structure JarCookie.Alike (cookie cookie' : JarCookie) : Prop where
  expires : cookie.expires = cookie'.expires
  httponly : cookie.httponly = cookie'.httponly
  value_ne : cookie.value ≠ ""
  value_ne' : cookie'.value ≠ ""

/-- Two tokens. -/
def Tokens (token token' : String) : Prop := token ≠ "" ∧ token' ≠ ""

/-- Requests with other cookies. -/
structure WebRequest.Alike (request request' : WebRequest) : Prop where
  origin : request.origin = request'.origin
  forwardedProto : request.forwardedProto = request'.forwardedProto
  scheme : request.scheme = request'.scheme
  cookie : Option.Rel Tokens request.cookie request'.cookie
  body : request.body = request'.body

/-- Cookies of responses: other tokens with all else the same, or the same deletion. -/
inductive SetCookie.Alike : SetCookie → SetCookie → Prop
  | token (secure : Bool) {value value' : String} (maxAge : Option ℤ) (h : Tokens value value') :
      Alike (refreshCookie secure value maxAge) (refreshCookie secure value' maxAge)
  | deletion (secure : Bool) :
      Alike (refreshCookie secure "" (some 0)) (refreshCookie secure "" (some 0))

/-- Responses with other cookies. -/
structure WebResponse.Alike (response response' : WebResponse) : Prop where
  status : response.status = response'.status
  body : response.body = response'.body
  setCookie : Option.Rel SetCookie.Alike response.setCookie response'.setCookie

/-- Requests of pages in the same place. -/
inductive WebCall.Alike : WebCall → WebCall → Prop
  | idle : Alike .idle .idle
  | granting (page : PageRequest) {request request' : WebRequest} (form form' : Form)
      (h : request.Alike request') :
      Alike (.granting page request form) (.granting page request' form')
  | answered (page : PageRequest) {response response' : WebResponse}
      (h : response.Alike response') :
      Alike (.answered page response) (.answered page response')
  | received : Alike .received .received

/-- Two browsers that differ in their tokens. -/
structure BrowserState.Alike (s s' : BrowserState) : Prop where
  now : s.now = s'.now
  jar : Option.Rel JarCookie.Alike s.jar s'.jar
  calls : ∀ id, (s.calls id).Alike (s'.calls id)

variable {rt : Runtime} {py : PyValues} {settings : WebSettings} {broker : TokenBroker}
  {s s' : BrowserState} {id : ℕ} {page : PageRequest} {r r' : WebRequest}

/-- A response that brings no cookie is the same for both. -/
theorem WebResponse.Alike.of_onlyDeletes {response : WebResponse} (h : response.OnlyDeletes) :
    response.Alike response := by
  refine ⟨rfl, rfl, ?_⟩
  cases hcookie : response.setCookie with
  | none => exact .none
  | some cookie =>
    obtain ⟨secure, rfl⟩ := h cookie hcookie
    exact .some (.deletion secure)

theorem CallRaised.toWeb_alike (raised : CallRaised) : raised.toWeb.Alike raised.toWeb :=
  .of_onlyDeletes (onlyDeletes_of_none raised.toWeb_setCookie)

/-- Both browsers put their cookie, if any, on the same requests. -/
theorem BrowserState.Alike.request (h : s.Alike s') (page : PageRequest) :
    (s.request page).Alike (s'.request page) := by
  refine ⟨rfl, rfl, rfl, ?_, rfl⟩
  show Option.Rel Tokens (if page.attach then s.liveCookie.map JarCookie.value else none)
    (if page.attach then s'.liveCookie.map JarCookie.value else none)
  split_ifs
  · unfold BrowserState.liveCookie
    have hjar := h.jar
    rw [← h.now]
    generalize s.jar = jar at hjar ⊢
    generalize s'.jar = jar' at hjar ⊢
    cases hjar with
    | none => exact .none
    | @some cookie cookie' hcookie =>
      have hexpires := hcookie.expires
      simp only [Option.filter_some, ← hexpires]
      split_ifs
      · exact .some ⟨hcookie.value_ne, hcookie.value_ne'⟩
      · exact .none
  · exact .none

theorem WebRequest.Alike.isSecureRequest (h : r.Alike r') :
    isSecureRequest rt settings r = isSecureRequest rt settings r' := by
  unfold OurosAuth.isSecureRequest
  rw [h.forwardedProto, h.scheme]

theorem WebRequest.Alike.beginWebLogin (h : r.Alike r') (otp : Except CallRaised Unit) :
    beginWebLogin rt settings r otp = beginWebLogin rt settings r' otp := by
  unfold OurosAuth.beginWebLogin
  rw [h.origin, h.body]

/-- Both refreshes are refused alike, or both sent on. -/
theorem WebRequest.Alike.beginWebRefresh (h : r.Alike r') (rt : Runtime) (py : PyValues)
    (settings : WebSettings) :
    (∃ response, OurosAuth.beginWebRefresh rt py settings r = .error response ∧
        OurosAuth.beginWebRefresh rt py settings r' = .error response) ∨
      ∃ source token token', OurosAuth.beginWebRefresh rt py settings r = .ok (source, token) ∧
        OurosAuth.beginWebRefresh rt py settings r' = .ok (source, token') := by
  unfold OurosAuth.beginWebRefresh
  rw [← h.origin, ← h.body]
  cases requireWebOrigin rt settings r.origin with
  | error error => exact Or.inl ⟨error.toWeb, rfl, rfl⟩
  | ok _ =>
    have hcookie := h.cookie
    generalize r.cookie = cookie at hcookie ⊢
    generalize r'.cookie = cookie' at hcookie ⊢
    cases hcookie with
    | @some token token' htokens =>
      refine Or.inr ⟨.cookie, token, token', ?_, ?_⟩
      · rw [Option.filter_some, if_pos (decide_eq_true htokens.1)]
        rfl
      · rw [Option.filter_some, if_pos (decide_eq_true htokens.2)]
        rfl
    | none =>
      -- without a cookie both read the same body
      simp only [Except.mapError, bind, Except.bind, Option.filter_none]
      cases bodyRefreshToken py r.body with
      | error error =>
        dsimp only
        split_ifs <;> exact Or.inl ⟨_, rfl, rfl⟩
      | ok token =>
        dsimp only
        cases token.filter (· ≠ "") with
        | none => exact Or.inl ⟨_, rfl, rfl⟩
        | some token => exact Or.inr ⟨.body, token, token, rfl, rfl⟩

theorem WebRequest.Alike.logoutWebSession (h : r.Alike r') :
    (logoutWebSession rt settings r).Alike (logoutWebSession rt settings r') := by
  unfold OurosAuth.logoutWebSession
  rw [← h.origin, h.isSecureRequest]
  cases requireWebOrigin rt settings r.origin with
  | error error => exact .of_onlyDeletes (onlyDeletes_of_none rfl)
  | ok _ => exact ⟨rfl, rfl, .some (.deletion _)⟩

/-! ### One step -/

/-- A cookie is set for a document that hands out a token, and for no other. -/
theorem setWebRefreshCookie_cases (rt : Runtime) (settings : WebSettings) (request : WebRequest)
    (token : KeycloakTokenResponse) :
    (token.handsOut = false ∧ setWebRefreshCookie rt settings request token = none) ∨
      token.handsOut = true ∧ ∃ value, value ≠ "" ∧
        setWebRefreshCookie rt settings request token =
          some (refreshCookie (isSecureRequest rt settings request) value
            (token.refreshExpiresIn.filter fun n => decide (n ≠ 0))) := by
  unfold KeycloakTokenResponse.handsOut setWebRefreshCookie
  cases token.refreshToken with
  | none => exact Or.inl ⟨rfl, rfl⟩
  | some value =>
    by_cases hvalue : value = ""
    · exact Or.inl ⟨by simp [hvalue], by simp [hvalue]⟩
    · exact Or.inr ⟨by simp [hvalue], value, hvalue, if_neg hvalue⟩

/-- Both routes end alike. -/
theorem WebRequest.Alike.grantResponse (h : r.Alike r') {token token' : KeycloakTokenResponse}
    (hdocument : SameDocument token token') :
    (grantResponse rt settings r (.ok token)).Alike
      (grantResponse rt settings r' (.ok token')) := by
  refine ⟨rfl, ?_, ?_⟩
  · show WebBody.token (webAccessTokenResponse token) = .token (webAccessTokenResponse token')
    unfold webAccessTokenResponse
    rw [hdocument.accessToken, hdocument.expiresIn, hdocument.refreshExpiresIn,
      hdocument.tokenType, hdocument.scope]
  · show Option.Rel SetCookie.Alike (setWebRefreshCookie rt settings r token)
      (setWebRefreshCookie rt settings r' token')
    have hhands := hdocument.handsOut
    rcases setWebRefreshCookie_cases rt settings r token with
      ⟨hnone, hcookie⟩ | ⟨hsome, value, hvalue, hcookie⟩ <;>
    rcases setWebRefreshCookie_cases rt settings r' token' with
      ⟨hnone', hcookie'⟩ | ⟨hsome', value', hvalue', hcookie'⟩ <;>
    rw [hcookie, hcookie']
    -- one browser cannot be given a cookie that the other is not
    · exact .none
    · exact absurd (hnone.symm.trans (hhands.trans hsome')) (by simp)
    · exact absurd (hsome.symm.trans (hhands.trans hnone')) (by simp)
    · rw [← hdocument.refreshExpiresIn, h.isSecureRequest]
      exact .some (.token _ _ ⟨hvalue, hvalue'⟩)

/-- The broker accepts both answers of Keycloak, or refuses both with one error. -/
theorem exchangeToken_alike (rt : Runtime) {outcome outcome' : PostOutcome} (form form' : Form)
    (h : SameOutcome broker.laxInt outcome outcome') :
    (∃ raised, { broker with post := fun _ => outcome }.exchangeToken rt form = .error raised ∧
        { broker with post := fun _ => outcome' }.exchangeToken rt form' = .error raised) ∨
      ∃ token token', { broker with post := fun _ => outcome }.exchangeToken rt form = .ok token ∧
        { broker with post := fun _ => outcome' }.exchangeToken rt form' = .ok token' ∧
        SameDocument token token' := by
  unfold TokenBroker.exchangeToken
  cases broker.clientSecret with
  | none => exact Or.inl ⟨_, rfl, rfl⟩
  | some secret =>
    cases h with
    | httpError => exact Or.inl ⟨_, rfl, rfl⟩
    | raised error => exact Or.inl ⟨_, rfl, rfl⟩
    | @response status body body' hdocument =>
      dsimp only
      split_ifs
      · exact Or.inl ⟨_, rfl, rfl⟩
      · exact Or.inl ⟨_, rfl, rfl⟩
      · generalize KeycloakTokenResponse.ofBody broker.laxInt body = document at hdocument ⊢
        generalize KeycloakTokenResponse.ofBody broker.laxInt body' = document' at hdocument ⊢
        cases hdocument with
        | error error =>
          dsimp only
          split_ifs <;> exact Or.inl ⟨_, rfl, rfl⟩
        | @ok token token' hsame =>
          -- the contract of the access token does not read the transport
          have hcheck : ∀ post : Form → PostOutcome,
              TokenBroker.validateAccessTokenContract rt
                  ⟨broker.clientId, some secret, broker.scope, post, broker.decode, broker.laxInt⟩
                  token.accessToken =
                broker.validateAccessTokenContract rt token.accessToken := fun _ => rfl
          dsimp only
          rw [← hsame.accessToken, hcheck, hcheck]
          cases broker.validateAccessTokenContract rt token.accessToken with
          | error raised => exact Or.inl ⟨raised, rfl, rfl⟩
          | ok _ => exact Or.inr ⟨token, token', rfl, rfl, hsame⟩

/-- Results of a step that pages cannot tell apart. -/
def StepAlike (result result' : BrowserState × List WebEvent) : Prop :=
  result.1.Alike result'.1 ∧ visibleEvents result.2 = visibleEvents result'.2

theorem BrowserState.Alike.setCall (h : s.Alike s') (id : ℕ) {k k' : WebCall} (hk : k.Alike k') :
    (s.setCall id k).Alike (s'.setCall id k') := by
  refine ⟨h.now, h.jar, fun id' => ?_⟩
  show (Function.update s.calls id k id').Alike (Function.update s'.calls id k' id')
  by_cases hid : id' = id
  · subst hid
    rwa [Function.update_self, Function.update_self]
  · rw [Function.update_of_ne hid, Function.update_of_ne hid]
    exact h.calls id'

theorem BrowserState.Alike.setJar (h : s.Alike s') {jar jar' : Option JarCookie}
    (hjar : Option.Rel JarCookie.Alike jar jar') :
    BrowserState.Alike { s with jar := jar } { s' with jar := jar' } := ⟨h.now, hjar, h.calls⟩

theorem BrowserState.Alike.answer (h : s.Alike s') (id : ℕ) (page : PageRequest)
    {response response' : WebResponse} (hresponse : response.Alike response') :
    StepAlike (s.answer id page response) (s'.answer id page response') :=
  ⟨h.setCall id (.answered page hresponse), rfl⟩

theorem BrowserState.Alike.ask (h : s.Alike s') (id : ℕ) (page : PageRequest)
    (form form' : String → Form) (grant grant' : WebGrant) :
    StepAlike (s.ask broker id page form grant) (s'.ask broker id page form' grant') := by
  unfold BrowserState.ask
  cases broker.clientSecret with
  | none => exact h.answer id page (.of_onlyDeletes (onlyDeletes_of_none rfl))
  | some secret => exact ⟨h.setCall id (.granting page _ _ (h.request page)), rfl⟩

/-- Both browsers keep their cookie, or both drop it. -/
theorem SetCookie.Alike.kept {cookie cookie' : SetCookie} (h : cookie.Alike cookie') {now now' : ℚ}
    (hnow : now = now') : Option.Rel JarCookie.Alike (cookie.kept now) (cookie'.kept now') := by
  subst hnow
  cases h with
  | token secure maxAge htokens =>
    cases maxAge with
    | none => exact .some ⟨rfl, rfl, htokens.1, htokens.2⟩
    | some n =>
      show Option.Rel JarCookie.Alike (if n ≤ 0 then none else some _)
        (if n ≤ 0 then none else some _)
      split_ifs
      · exact .none
      · exact .some ⟨rfl, rfl, htokens.1, htokens.2⟩
  | deletion secure => exact .none

theorem SetCookie.Alike.accepted {cookie cookie' : SetCookie} (h : cookie.Alike cookie') :
    cookie.accepted = true ∧ cookie'.accepted = true := by
  cases h with
  | token secure maxAge _ =>
    exact ⟨(refreshCookie_accepted secure _ maxAge).2, (refreshCookie_accepted secure _ maxAge).2⟩
  | deletion secure =>
    exact ⟨(refreshCookie_accepted secure _ _).2, (refreshCookie_accepted secure _ _).2⟩

/-- The browser looks at the cookies of both responses, or of neither. -/
theorem WebResponse.Alike.cookieOf {response response' : WebResponse}
    (h : response.Alike response') (page : PageRequest) :
    Option.Rel SetCookie.Alike (page.cookieOf response) (page.cookieOf response') := by
  unfold PageRequest.cookieOf
  split_ifs
  · have hcookie := h.setCookie
    generalize response.setCookie = cookie at hcookie ⊢
    generalize response'.setCookie = cookie' at hcookie ⊢
    cases hcookie with
    | none => exact .none
    | @some cookie cookie' halike =>
      obtain ⟨haccepted, haccepted'⟩ := halike.accepted
      rw [Option.filter_some, if_pos haccepted, Option.filter_some, if_pos haccepted']
      exact .some halike
  · exact .none

theorem BrowserState.Alike.receive (h : s.Alike s') (id : ℕ) (page : PageRequest)
    {response response' : WebResponse} (hresponse : response.Alike response') :
    StepAlike (s.receive id page response) (s'.receive id page response') := by
  unfold BrowserState.receive
  rw [← hresponse.status, ← hresponse.body]
  have hcookie := hresponse.cookieOf page
  generalize page.cookieOf response = cookie at hcookie ⊢
  generalize page.cookieOf response' = cookie' at hcookie ⊢
  cases hcookie with
  | none => exact ⟨h.setCall id .received, rfl⟩
  | @some cookie cookie' halike =>
    have hkept := halike.kept h.now
    dsimp only
    generalize cookie.kept s.now = kept at hkept ⊢
    generalize cookie'.kept s'.now = kept' at hkept ⊢
    cases hkept with
    | none => exact ⟨(h.setJar .none).setCall id .received, rfl⟩
    | some hjar => exact ⟨(h.setJar (.some hjar)).setCall id .received, rfl⟩

theorem visibleEvents_issuedBy (id : ℕ) (answer : Except CallRaised KeycloakTokenResponse) :
    visibleEvents (issuedBy id answer) = [] := by
  refine List.filter_eq_nil_iff.mpr fun e he => ?_
  cases answer with
  | error raised => exact absurd he List.not_mem_nil
  | ok token =>
    obtain ⟨_, -, rfl⟩ := List.mem_map.mp he
    exact Bool.false_ne_true

/-- Keycloak answers both browsers. -/
theorem BrowserState.Alike.keycloak (h : s.Alike s') (id : ℕ) {outcome outcome' : PostOutcome}
    (houtcome : SameOutcome broker.laxInt outcome outcome') :
    Option.Rel StepAlike (webStep rt py settings broker s (.keycloak id outcome))
      (webStep rt py settings broker s' (.keycloak id outcome')) := by
  simp only [webStep]
  have hcall := h.calls id
  generalize s.calls id = k at hcall ⊢
  generalize s'.calls id = k' at hcall ⊢
  cases hcall with
  | @granting page request request' form form' hrequest =>
    dsimp only
    rcases exchangeToken_alike rt form form' houtcome with
      ⟨raised, heq, heq'⟩ | ⟨token, token', heq, heq', hdocument⟩
    · rw [heq, heq']
      exact .some ⟨h.setCall id (.answered _ (CallRaised.toWeb_alike raised)), rfl⟩
    · rw [heq, heq']
      refine .some ⟨h.setCall id (.answered _ (hrequest.grantResponse hdocument)), ?_⟩
      rw [visibleEvents_issuedBy, visibleEvents_issuedBy]
  | idle => exact .none
  | answered => exact .none
  | received => exact .none

/-- **Step lemma.** From browsers that differ in their tokens, steps that differ in theirs lead to
    such browsers again, and pages see the same. -/
theorem webStep_alike {label label' : WebLabel} (h : s.Alike s')
    (hlabel : SameButTokens broker.laxInt label label') :
    Option.Rel StepAlike (webStep rt py settings broker s label)
      (webStep rt py settings broker s' label') := by
  cases hlabel with
  | same label =>
    cases label with
    | tick t =>
      simp only [webStep, ← h.now]
      split_ifs
      · exact .some ⟨⟨rfl, h.jar, h.calls⟩, rfl⟩
      · exact .none
    | verify id page otp =>
      -- a login does not read the cookie
      simp only [webStep, ← (h.request page).beginWebLogin]
      have hcall := h.calls id
      generalize s.calls id = k at hcall ⊢
      generalize s'.calls id = k' at hcall ⊢
      cases hcall with
      | idle =>
        dsimp only
        cases hbegin : beginWebLogin rt settings (s.request page) otp with
        | error response =>
          exact .some (h.answer id page (.of_onlyDeletes (beginWebLogin_setCookie hbegin)))
        | ok _ => exact .some (h.ask id page _ _ _ _)
      | granting => exact .none
      | answered => exact .none
      | received => exact .none
    | refresh id page =>
      simp only [webStep]
      have hcall := h.calls id
      generalize s.calls id = k at hcall ⊢
      generalize s'.calls id = k' at hcall ⊢
      cases hcall with
      | idle =>
        rcases (h.request page).beginWebRefresh rt py settings with
          ⟨response, heq, heq'⟩ | ⟨source, token, token', heq, heq'⟩
        · rw [heq, heq']
          exact .some (h.answer id page (.of_onlyDeletes (beginWebRefresh_setCookie heq)))
        · rw [heq, heq']
          exact .some (h.ask id page _ _ _ _)
      | granting => exact .none
      | answered => exact .none
      | received => exact .none
    | logout id page =>
      simp only [webStep]
      have hcall := h.calls id
      generalize s.calls id = k at hcall ⊢
      generalize s'.calls id = k' at hcall ⊢
      cases hcall with
      | idle => exact .some (h.answer id page (h.request page).logoutWebSession)
      | granting => exact .none
      | answered => exact .none
      | received => exact .none
    | keycloak id outcome => exact h.keycloak id (.refl _ outcome)
    | receive id =>
      simp only [webStep]
      have hcall := h.calls id
      generalize s.calls id = k at hcall ⊢
      generalize s'.calls id = k' at hcall ⊢
      cases hcall with
      | answered page hresponse => exact .some (h.receive id page hresponse)
      | idle => exact .none
      | granting => exact .none
      | received => exact .none
  | keycloak id houtcome => exact h.keycloak id houtcome

/-! ### Whole runs -/

/-- **Pages learn nothing about refresh tokens.** For every run and every other choice of the
    refresh tokens Keycloak hands out, among those a cookie can carry, the same requests run as
    well, and every page sees the same statuses and bodies. -/
theorem web_tokens_hidden {start : ℚ} {labels labels' : List WebLabel}
    {c : Config BrowserState WebEvent}
    (hlabels : List.Forall₂ (SameButTokens broker.laxInt) labels labels')
    (hrun : (webSystem rt py settings broker).run (Config.start (BrowserState.init start)) labels =
      some c) :
    ∃ c', (webSystem rt py settings broker).run (Config.start (BrowserState.init start)) labels' =
        some c' ∧ visibleEvents c'.history = visibleEvents c.history := by
  have hstart : (BrowserState.init start).Alike (BrowserState.init start) :=
    ⟨rfl, .none, fun _ => .idle⟩
  have hrel : Option.Rel (fun d d' => BrowserState.Alike d.state d'.state ∧
        visibleEvents d.history = visibleEvents d'.history)
      ((webSystem rt py settings broker).run (Config.start (BrowserState.init start)) labels)
      ((webSystem rt py settings broker).run (Config.start (BrowserState.init start)) labels') := by
    refine System.run_rel (R := BrowserState.Alike)
      (E := fun es es' => visibleEvents es = visibleEvents es') ?_ ?_ hlabels hstart rfl
    · intro es es' past past' hes hpast
      unfold visibleEvents at hes hpast ⊢
      rw [List.filter_append, List.filter_append, hes, hpast]
    · intro s s' l l' h hl
      exact webStep_alike h hl
  rw [hrun] at hrel
  generalize (webSystem rt py settings broker).run (Config.start (BrowserState.init start))
    labels' = r at hrel ⊢
  cases hrel with
  | some h => exact ⟨_, rfl, h.2.symm⟩

/-- A token document of Keycloak with this refresh token. -/
def documentWith (refreshToken : String) : PostOutcome :=
  .response 200 (.document (.object [("access_token", .str "rotated-access-token"),
    ("expires_in", .int 600), ("token_type", .str "Bearer"),
    ("refresh_token", .str refreshToken)]))

/-- A login and a refresh from the cookie it left. -/
def sessionRun (first second : String) : List WebLabel :=
  [.verify 0 codePage (.ok ()),
    .keycloak 0 (documentWith first), .receive 0, .refresh 1 developerPage,
    .keycloak 1 (documentWith second), .receive 1]

theorem sessionRun_sameButTokens (first second first' second' : String)
    (h : first ≠ "" ∧ second ≠ "" ∧ first' ≠ "" ∧ second' ≠ "") :
    List.Forall₂ (SameButTokens sampleBroker.laxInt) (sessionRun first second)
      (sessionRun first' second') := by
  have hdocument : ∀ token token' : String, token ≠ "" → token' ≠ "" →
      SameOutcome sampleBroker.laxInt (documentWith token) (documentWith token') := by
    intro token token' hne hne'
    refine .response 200 (.ok ⟨rfl, rfl, rfl, rfl, rfl, ?_⟩)
    show decide (token ≠ "") = decide (token' ≠ "")
    rw [decide_eq_true hne, decide_eq_true hne']
  exact .cons (.same _) (.cons (.keycloak 0 (hdocument _ _ h.1 h.2.2.1)) (.cons (.same _)
    (.cons (.same _) (.cons (.keycloak 1 (hdocument _ _ h.2.1 h.2.2.2)) (.cons (.same _) .nil)))))

theorem web_tokens_hidden_session :
    ∃ c c', (webSystem .sample samplePyValues developerSettings sampleBroker).run
        (Config.start (BrowserState.init 0)) (sessionRun "first" "second") = some c ∧
      (webSystem .sample samplePyValues developerSettings sampleBroker).run
        (Config.start (BrowserState.init 0)) (sessionRun "third" "fourth") = some c' ∧
      visibleEvents c'.history = visibleEvents c.history := by
  obtain ⟨c, hc⟩ := Option.isSome_iff_exists.mp (by decide +kernel :
    ((webSystem .sample samplePyValues developerSettings sampleBroker).run
      (Config.start (BrowserState.init 0)) (sessionRun "first" "second")).isSome = true)
  obtain ⟨c', hc', hvisible⟩ := web_tokens_hidden
    (sessionRun_sameButTokens "first" "second" "third" "fourth" (by decide)) hc
  exact ⟨c, c', hc, hc', hvisible⟩

end OurosAuth
