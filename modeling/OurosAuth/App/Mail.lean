import OurosAuth.App.Completion
import OurosAuth.App.Deliveries
import OurosAuth.Lib.Sessions

namespace OurosAuth

open KeyValue Traced Sessions

/-!
# The session with the mail server

`_build_email_message` and `_dispatch_email`: a message with a code in it, and the commands it is
handed to the server by.  Any command may raise; the service catches an `OSError` and nothing else.

* `SmtpSettings` — the settings of the client, as `validate_pool_sizes` lets them through;
* `SmtpSettings.InOrder` — what has to come before each command;
* `mail_session` — neither the password nor the code leaves before the connection is protected, and
  a session that was opened is closed;
* `AppEvent.created?`, `created_once` — the address and the code a challenge was created with;
* `kept_challenge_mailed` — a challenge that outlives its delivery was mailed: this code, to this
  address.
-/

/-! ### The message -/

/-- What `EmailMessage` is given; the HTML alternative shows the same code. -/
structure EmailMessage where
  subject : String
  sender : String
  recipient : String
  text : String
  deriving DecidableEq

/-- What building a message depends on besides its own arguments. -/
structure MessageParts where
  /-- the `From` header, or `none` when it is refused with a `ValueError` -/
  sender : Option String
  /-- the HTML alternative and the logo file, and what the header parser raises for a recipient
      without a line break: an `IndexError` for `ana@,<`, and others -/
  alternative : Except SendError Unit

/-- `ttl_minutes` -/
def OtpService.ttlMinutes (svc : OtpService) : ℕ := max (svc.ttlSeconds / 60) 1

/-- The subject of a mail. -/
def Flow.subject (code : String) : Flow → String
  | .reset => code ++ " é seu código de recuperação de senha Ouros"
  | .login => code ++ " é seu código de acesso Ouros"

/-- `text_body` -/
def Flow.textBody (svc : OtpService) (code : String) : Flow → String
  | .reset =>
      "Seu código para recuperação de senha no Ouros é:\n\n" ++ code ++ "\n\n" ++
        "Ele expira em " ++ toString svc.ttlMinutes ++ " minuto(s).\n\n" ++
        "Nunca compartilhe este código. Se você não solicitou a redefinição de senha da sua " ++
        "conta Ouros, desconsidere este e-mail. Sua senha atual permanecerá inalterada."
  | .login =>
      "Seu código de acesso Ouros é:\n\n" ++ code ++ "\n\n" ++
        "Ele expira em " ++ toString svc.ttlMinutes ++ " minuto(s).\n" ++
        "Nunca compartilhe este código. Se você não tentou entrar, ignore esta mensagem."

/-- `_build_email_message` -/
def buildEmailMessage (svc : OtpService) (parts : MessageParts) (recipient code : String)
    (purpose : Flow) : Except SendError EmailMessage :=
  match parts.sender with
  | none => .error .valueError
  | some sender =>
    if headerRefused recipient = true then .error .valueError
    else
      match parts.alternative with
      | .error e => .error e
      | .ok () => .ok ⟨purpose.subject code, sender, recipient, purpose.textBody svc code⟩

/-! ### The client -/

/-- The settings of the mail client beside the host. -/
structure SmtpSettings (settings : Settings) where
  ourosSmtpPort : ℕ
  ourosSmtpAuth : Bool
  ourosSmtpStarttls : Bool
  ourosSmtpSsl : Bool
  ourosSmtpUser : Option String
  ourosSmtpPassword : Option String
  /-- `validate_pool_sizes`: at most one kind of TLS -/
  tls_validated : ¬ (ourosSmtpStarttls = true ∧ ourosSmtpSsl = true)
  /-- `validate_pool_sizes`: credentials, when they are to be used -/
  auth_validated : settings.ourosEmailOtpEnabled = true → ourosSmtpAuth = true →
    (∃ user, ourosSmtpUser = some user ∧ user ≠ "") ∧ ∃ password, ourosSmtpPassword = some password

/-- The commands of `smtplib` the service uses. -/
inductive SmtpCommand
  /-- the constructor, of `SMTP_SSL` or of `SMTP` -/
  | connect (host : String) (port : ℕ) (ssl : Bool)
  | ehlo
  | starttls
  | login (user password : String)
  | sendMessage (message : EmailMessage)
  | quit
  | close
  deriving DecidableEq

/-- What a command raises. -/
inductive SmtpRaised
  /-- `SMTPServerDisconnected` -/
  | serverDisconnected
  | other (e : SendError)
  deriving DecidableEq

/-- The exception as the service sees it. -/
def SmtpRaised.toSend : SmtpRaised → SendError
  | .serverDisconnected => .smtpException
  | .other e => e

/-- A command of a session, and what came back. -/
abbrev SmtpExchange := Exchange SmtpCommand SmtpRaised

variable {settings : Settings}

section Client
variable (smtp : SmtpSettings settings) (server : Peer SmtpCommand SmtpRaised)

/-- `if not self._smtp_ssl: …` -/
def SmtpSettings.greet : Session SmtpCommand SmtpRaised Unit :=
  if smtp.ourosSmtpSsl = true then pure ()
  else do
    issue server .ehlo
    if smtp.ourosSmtpStarttls = true then do
      issue server .starttls
      issue server .ehlo
    else pure ()

/-- `if self._smtp_auth: …` -/
def SmtpSettings.authenticate : Session SmtpCommand SmtpRaised Unit :=
  if smtp.ourosSmtpAuth = true then
    match smtp.ourosSmtpUser, smtp.ourosSmtpPassword with
    | some user, some password =>
      if user = "" then raise (.other .emailOtpUnavailable) else issue server (.login user password)
    | _, _ => raise (.other .emailOtpUnavailable)
  else pure ()

/-- `SMTP.__exit__`: it says goodbye unless the server is gone, and closes the socket. -/
def smtpExit : Session SmtpCommand SmtpRaised Unit :=
  ensuring
    (recover (issue server .quit) fun e => if e = .serverDisconnected then some () else none)
    (issue server .close)

/-- `_dispatch_email` -/
def SmtpSettings.dispatchEmail (message : EmailMessage) : Session SmtpCommand SmtpRaised Unit :=
  let host := settings.ourosSmtpHost.getD ""
  if host = "" then raise (.other .emailOtpUnavailable)
  else do
    issue server (.connect host smtp.ourosSmtpPort smtp.ourosSmtpSsl)
    ensuring
      (do
        smtp.greet server
        smtp.authenticate server
        issue server (.sendMessage message))
      (smtpExit server)

/-- `_send_email` and `_send_password_reset_email`: how sending ends, and the session it leaves. -/
def SmtpSettings.sendCode (svc : OtpService) (parts : MessageParts) (recipient code : String)
    (purpose : Flow) : Except SendError Unit × List SmtpExchange :=
  match buildEmailMessage svc parts recipient code purpose with
  | .error e => (.error e, [])
  | .ok message =>
    let session := smtp.dispatchEmail server message []
    (session.1.mapError SmtpRaised.toSend, session.2)

end Client

/-! ### What has to come before a command -/

/-- The server has answered the connection, and no goodbye has been sent. -/
structure SmtpSettings.Open (smtp : SmtpSettings settings) (past : List SmtpExchange) : Prop where
  connected : ∃ host port, (.connect host port smtp.ourosSmtpSsl, none) ∈ past
  noQuit : ∀ answer, (.quit, answer) ∉ past
  noClose : ∀ answer, (.close, answer) ∉ past

/-- Where TLS is configured, the connection is protected by now. -/
structure SmtpSettings.Protected (smtp : SmtpSettings settings) (past : List SmtpExchange) :
    Prop where
  ssl : smtp.ourosSmtpSsl = true → ∃ host port, (.connect host port true, none) ∈ past
  starttls : smtp.ourosSmtpStarttls = true → (.starttls, none) ∈ past

/-- Where credentials are configured, the server has taken them. -/
def SmtpSettings.LoggedIn (smtp : SmtpSettings settings) (past : List SmtpExchange) : Prop :=
  smtp.ourosSmtpAuth = true → ∃ user password, (.login user password, none) ∈ past

/-- A message has been handed over, or tried to. -/
def Mailed (past : List SmtpExchange) : Prop :=
  ∃ message answer, (.sendMessage message, answer) ∈ past

/-- What has to come before a command. -/
def SmtpSettings.InOrder (smtp : SmtpSettings settings) (past : List SmtpExchange) :
    SmtpExchange → Prop
  | (.connect _ _ ssl, _) => past = [] ∧ ssl = smtp.ourosSmtpSsl
  | (.ehlo, _) => smtp.Open past
  | (.starttls, _) => smtp.Open past
  | (.login user password, _) => smtp.Open past ∧ smtp.Protected past ∧
      smtp.ourosSmtpUser = some user ∧ smtp.ourosSmtpPassword = some password
  | (.sendMessage _, _) =>
      smtp.Open past ∧ smtp.Protected past ∧ smtp.LoggedIn past ∧ ¬ Mailed past
  | (.quit, _) => smtp.Open past
  | (.close, _) => (∃ answer, (.quit, answer) ∈ past) ∧ ∀ answer, (.close, answer) ∉ past

/-- What a session with the server has to be, for this message and this end. -/
structure SoundSession (smtp : SmtpSettings settings) (message : EmailMessage)
    (result : Except SmtpRaised Unit) (h : List SmtpExchange) : Prop where
  inOrder : Justified smtp.InOrder h
  /-- a connection the server has answered is closed, and nothing comes after that -/
  closed : (∃ host port ssl, (.connect host port ssl, none) ∈ h) →
    ∃ answer rest, h = (.close, answer) :: rest
  /-- the service raises nothing of its own -/
  blamed : ∀ e, result = .error e → ∃ command, (command, some e) ∈ h
  sent : result = .ok () → (.sendMessage message, none) ∈ h
  only : ∀ m answer, (.sendMessage m, answer) ∈ h → m = message
  /-- a message the server has taken is reported as lost only when the goodbye fails -/
  late : ∀ e, result = .error e → (.sendMessage message, none) ∈ h →
    (.quit, some e) ∈ h ∨ (.close, some e) ∈ h

/-! ### The body of the session -/

section Body
variable {smtp : SmtpSettings settings} {message : EmailMessage} {h : List SmtpExchange}
  {command : SmtpCommand} {answer : Option SmtpRaised} {e : SmtpRaised}
  {server : Peer SmtpCommand SmtpRaised}

/-- What holds between the connection and the goodbye. -/
structure SmtpSettings.Talking (smtp : SmtpSettings settings) (message : EmailMessage)
    (h : List SmtpExchange) : Prop where
  inOrder : Justified smtp.InOrder h
  isOpen : smtp.Open h
  only : ∀ m answer, (.sendMessage m, answer) ∈ h → m = message

/-- What holds when a command of the body has raised. -/
structure SmtpSettings.Broken (smtp : SmtpSettings settings) (message : EmailMessage)
    (e : SmtpRaised) (h : List SmtpExchange) : Prop where
  talking : smtp.Talking message h
  blamed : ∃ command, (command, some e) ∈ h
  unsent : (.sendMessage message, none) ∉ h

/-- Another command than the goodbye keeps the session open. -/
theorem SmtpSettings.Open.cons (ho : smtp.Open h) (hquit : command ≠ .quit)
    (hclose : command ≠ .close) : smtp.Open ((command, answer) :: h) where
  connected := by
    obtain ⟨host, port, hmem⟩ := ho.connected
    exact ⟨host, port, List.mem_cons_of_mem _ hmem⟩
  noQuit answer' hmem := by
    rcases List.mem_cons.mp hmem with heq | hmem
    · exact hquit (congrArg Prod.fst heq).symm
    · exact ho.noQuit answer' hmem
  noClose answer' hmem := by
    rcases List.mem_cons.mp hmem with heq | hmem
    · exact hclose (congrArg Prod.fst heq).symm
    · exact ho.noClose answer' hmem

theorem SmtpSettings.Protected.cons (hp : smtp.Protected h) (x : SmtpExchange) :
    smtp.Protected (x :: h) where
  ssl hssl := by
    obtain ⟨host, port, hmem⟩ := hp.ssl hssl
    exact ⟨host, port, List.mem_cons_of_mem _ hmem⟩
  starttls hstarttls := List.mem_cons_of_mem _ (hp.starttls hstarttls)

/-- A command of the body, in its place. -/
theorem SmtpSettings.Talking.cons (ht : smtp.Talking message h)
    (horder : smtp.InOrder h (command, answer)) (hquit : command ≠ .quit)
    (hclose : command ≠ .close) (honly : ∀ m, command = .sendMessage m → m = message) :
    smtp.Talking message ((command, answer) :: h) where
  inOrder := ⟨horder, ht.inOrder⟩
  isOpen := ht.isOpen.cons hquit hclose
  only m answer' hmem := by
    rcases List.mem_cons.mp hmem with heq | hmem
    · exact honly m (congrArg Prod.fst heq).symm
    · exact ht.only m answer' hmem

/-- A command of the body that raises. -/
theorem SmtpSettings.Talking.broken (ht : smtp.Talking message h) (hunsent : ¬ Mailed h)
    (horder : smtp.InOrder h (command, some e)) (hquit : command ≠ .quit)
    (hclose : command ≠ .close) (honly : ∀ m, command = .sendMessage m → m = message) :
    smtp.Broken message e ((command, some e) :: h) where
  talking := ht.cons horder hquit hclose honly
  blamed := ⟨command, List.mem_cons_self⟩
  unsent hmem := by
    rcases List.mem_cons.mp hmem with heq | hmem
    · exact absurd (congrArg Prod.snd heq) (by simp)
    · exact hunsent ⟨message, none, hmem⟩

theorem not_mailed_cons (hunsent : ¬ Mailed h) (hcommand : ∀ m, command ≠ .sendMessage m) :
    ¬ Mailed ((command, answer) :: h) := by
  rintro ⟨m, answer', hmem⟩
  rcases List.mem_cons.mp hmem with heq | hmem
  · exact hcommand m (congrArg Prod.fst heq).symm
  · exact hunsent ⟨m, answer', hmem⟩

/-- The body so far: open, and the message still to come. -/
def SmtpSettings.Greeting (smtp : SmtpSettings settings) (message : EmailMessage)
    (h : List SmtpExchange) : Prop := smtp.Talking message h ∧ ¬ Mailed h

/-- A command of the body other than the message. -/
theorem triple_command {P R : List SmtpExchange → Prop}
    (hP : ∀ past, P past → smtp.Greeting message past)
    (horder : ∀ past answer, P past → smtp.InOrder past (command, answer))
    (hcommand : ∀ m, command ≠ .sendMessage m) (hquit : command ≠ .quit)
    (hclose : command ≠ .close)
    (hR : ∀ past, P past → smtp.Greeting message ((command, none) :: past) →
      R ((command, none) :: past)) :
    Triple P (issue server command) (fun _ => R) (smtp.Broken message) := by
  refine Triple.issue (fun past hpast => ?_) fun past e hpast => ?_
  · obtain ⟨ht, hunsent⟩ := hP past hpast
    exact hR past hpast ⟨ht.cons (horder past none hpast) hquit hclose
      fun m hm => absurd hm (hcommand m), not_mailed_cons hunsent hcommand⟩
  · obtain ⟨ht, hunsent⟩ := hP past hpast
    exact ht.broken hunsent (horder past (some e) hpast) hquit hclose
      fun m hm => absurd hm (hcommand m)

/-- The greeting protects the connection, where TLS is not on from the start. -/
theorem triple_greet : Triple (smtp.Greeting message) (smtp.greet server)
    (fun _ past => smtp.Greeting message past ∧ smtp.Protected past) (smtp.Broken message) := by
  unfold SmtpSettings.greet
  refine Triple.ite (fun hssl => ?_) fun hssl => ?_
  · -- TLS came with the connection, so STARTTLS is off
    refine Triple.pure fun past hpast => ⟨hpast, ⟨fun _ => ?_, fun hstarttls => ?_⟩⟩
    · obtain ⟨host, port, hmem⟩ := hpast.1.isOpen.connected
      exact ⟨host, port, hssl ▸ hmem⟩
    · exact absurd ⟨hstarttls, hssl⟩ smtp.tls_validated
  · refine Triple.bind (R := fun _ => smtp.Greeting message) ?_ fun _ => ?_
    · exact triple_command (fun _ h => h) (fun _ _ h => h.1.isOpen) (by simp) (by simp) (by simp)
        fun _ _ h => h
    · refine Triple.ite (fun _ => ?_) fun hplain => ?_
      · refine Triple.bind (R := fun _ past => smtp.Greeting message past ∧ smtp.Protected past)
          ?_ fun _ => ?_
        · exact triple_command (fun _ h => h) (fun _ _ h => h.1.isOpen) (by simp) (by simp)
            (by simp) fun _ _ h => ⟨h, ⟨fun h => absurd h hssl, fun _ => List.mem_cons_self⟩⟩
        · exact triple_command (fun _ h => h.1) (fun _ _ h => h.1.1.isOpen) (by simp) (by simp)
            (by simp) fun _ hpast h => ⟨h, hpast.2.cons _⟩
      · exact Triple.pure fun past hpast =>
          ⟨hpast, ⟨fun h => absurd h hssl, fun h => absurd h hplain⟩⟩

/-- A login is tried on a protected connection, with the configured credentials. -/
theorem triple_authenticate (henabled : settings.ourosEmailOtpEnabled = true) :
    Triple (fun past => smtp.Greeting message past ∧ smtp.Protected past) (smtp.authenticate server)
      (fun _ past => smtp.Greeting message past ∧ smtp.Protected past ∧ smtp.LoggedIn past)
      (smtp.Broken message) := by
  unfold SmtpSettings.authenticate
  refine Triple.ite (fun hauth => ?_) fun hnone => ?_
  · -- the settings have both, or they would not have been validated
    obtain ⟨⟨user, huser, hne⟩, password, hpassword⟩ := smtp.auth_validated henabled hauth
    rw [huser, hpassword]
    simp only [if_neg hne]
    exact triple_command (fun _ h => h.1) (fun _ _ h => ⟨h.1.1.isOpen, h.2, huser, hpassword⟩)
      (by simp) (by simp) (by simp)
      fun _ hpast h => ⟨h, hpast.2.cons _, fun _ => ⟨user, password, List.mem_cons_self⟩⟩
  · exact Triple.pure fun past hpast => ⟨hpast.1, hpast.2, fun h => absurd h hnone⟩

/-- What holds when the body has ended, one way or the other. -/
structure SmtpSettings.Ended (smtp : SmtpSettings settings) (message : EmailMessage)
    (result : Except SmtpRaised Unit) (h : List SmtpExchange) : Prop where
  inOrder : Justified smtp.InOrder h
  blamed : ∀ e, result = .error e → ∃ command, (command, some e) ∈ h
  sent : result = .ok () → (.sendMessage message, none) ∈ h
  unsent : ∀ e, result = .error e → (.sendMessage message, none) ∉ h
  only : ∀ m answer, (.sendMessage m, answer) ∈ h → m = message

/-- The body of the session. -/
theorem triple_body (henabled : settings.ourosEmailOtpEnabled = true) :
    Triple (smtp.Greeting message)
      (do
        smtp.greet server
        smtp.authenticate server
        issue server (.sendMessage message))
      (fun _ past => smtp.Open past ∧ smtp.Ended message (.ok ()) past)
      (fun e past => smtp.Open past ∧ smtp.Ended message (.error e) past) := by
  refine Triple.mono (P := smtp.Greeting message)
    (Q := fun _ past => smtp.Talking message past ∧ (.sendMessage message, none) ∈ past)
    (E := smtp.Broken message) ?_ (fun _ h => h) ?_ ?_
  · refine Triple.bind triple_greet fun _ => Triple.bind (triple_authenticate henabled) fun _ => ?_
    refine Triple.issue (fun past hpast => ?_) fun past e hpast => ?_
    · obtain ⟨⟨ht, hunsent⟩, hprotected, hloggedIn⟩ := hpast
      exact ⟨ht.cons ⟨ht.isOpen, hprotected, hloggedIn, hunsent⟩ (by simp) (by simp)
        fun m hm => (SmtpCommand.sendMessage.inj hm).symm, List.mem_cons_self⟩
    · obtain ⟨⟨ht, hunsent⟩, hprotected, hloggedIn⟩ := hpast
      exact ht.broken hunsent ⟨ht.isOpen, hprotected, hloggedIn, hunsent⟩ (by simp) (by simp)
        fun m hm => (SmtpCommand.sendMessage.inj hm).symm
  · intro _ past ⟨ht, hsent⟩
    exact ⟨ht.isOpen, ht.inOrder, by simp, fun _ => hsent, by simp, ht.only⟩
  · intro e past hb
    refine ⟨hb.talking.isOpen, hb.talking.inOrder, ?_, by simp, ?_, hb.talking.only⟩
    · rintro e' heq
      cases heq
      exact hb.blamed
    · exact fun _ _ => hb.unsent

/-! ### The goodbye -/

/-- A command after the message keeps what the body ended with. -/
theorem SmtpSettings.Ended.cons {result : Except SmtpRaised Unit}
    (he : smtp.Ended message result h) (horder : smtp.InOrder h (command, answer))
    (hcommand : ∀ m, command ≠ .sendMessage m) :
    smtp.Ended message result ((command, answer) :: h) where
  inOrder := ⟨horder, he.inOrder⟩
  blamed e heq := by
    obtain ⟨c, hmem⟩ := he.blamed e heq
    exact ⟨c, List.mem_cons_of_mem _ hmem⟩
  sent heq := List.mem_cons_of_mem _ (he.sent heq)
  unsent e heq hmem := by
    rcases List.mem_cons.mp hmem with hnew | hmem
    · exact hcommand message (congrArg Prod.fst hnew).symm
    · exact he.unsent e heq hmem
  only m answer' hmem := by
    rcases List.mem_cons.mp hmem with hnew | hmem
    · exact absurd (congrArg Prod.fst hnew).symm (hcommand m)
    · exact he.only m answer' hmem

/-- What holds after the goodbye: it has been tried, and `late` is its exception, if it raised one
    that the exit lets through. -/
structure SmtpSettings.Parted (smtp : SmtpSettings settings) (message : EmailMessage)
    (result : Except SmtpRaised Unit) (late : Option SmtpRaised) (h : List SmtpExchange) :
    Prop where
  ended : smtp.Ended message result h
  quit : ∃ answer, (.quit, answer) ∈ h
  noClose : ∀ answer, (.close, answer) ∉ h
  raised : ∀ e, late = some e → (.quit, some e) ∈ h

theorem triple_quit (result : Except SmtpRaised Unit) :
    Triple (fun past => smtp.Open past ∧ smtp.Ended message result past)
      (recover (issue server .quit) fun e => if e = .serverDisconnected then some () else none)
      (fun _ => smtp.Parted message result none)
      (fun e => smtp.Parted message result (some e)) := by
  have hquit : Triple (fun past => smtp.Open past ∧ smtp.Ended message result past)
      (issue server .quit) (fun _ => smtp.Parted message result none)
      (fun e => smtp.Parted message result (some e)) := by
    refine Triple.issue (fun past hpast => ?_) fun past e hpast => ?_
    · exact ⟨hpast.2.cons hpast.1 (by simp), ⟨none, List.mem_cons_self⟩,
        by simpa using hpast.1.noClose, by simp⟩
    · refine ⟨hpast.2.cons hpast.1 (by simp), ⟨some e, List.mem_cons_self⟩,
        by simpa using hpast.1.noClose, ?_⟩
      rintro e' heq
      cases heq
      exact List.mem_cons_self
  apply hquit.recover
  · -- a server that is gone has been told goodbye as well as it can be
    intro e _ past _ hp
    exact ⟨hp.ended, hp.quit, hp.noClose, by simp⟩
  · intro e past _ hp
    exact hp

/-- The socket is closed last. -/
theorem SmtpSettings.Parted.close {result : Except SmtpRaised Unit} {late : Option SmtpRaised}
    (hp : smtp.Parted message result late h) (final : Except SmtpRaised Unit)
    (hfinal : (final = result ∧ late = none) ∨ ∃ e, final = .error e ∧
      (late = some e ∨ answer = some e)) :
    SoundSession smtp message final ((.close, answer) :: h) := by
  have he : smtp.Ended message result ((.close, answer) :: h) :=
    hp.ended.cons ⟨hp.quit, hp.noClose⟩ (by simp)
  refine ⟨he.inOrder, fun _ => ⟨answer, h, rfl⟩, ?_, ?_, he.only, ?_⟩
  · intro e heq
    obtain ⟨rfl, -⟩ | ⟨e', rfl, hlate | rfl⟩ := hfinal
    · exact he.blamed e heq
    · cases heq
      exact ⟨.quit, List.mem_cons_of_mem _ (hp.raised e hlate)⟩
    · cases heq
      exact ⟨.close, List.mem_cons_self⟩
  · intro heq
    obtain ⟨rfl, -⟩ | ⟨e', rfl, -⟩ := hfinal
    · exact he.sent heq
    · exact absurd heq (by simp)
  · intro e heq hmem
    obtain ⟨rfl, -⟩ | ⟨e', rfl, hlate | rfl⟩ := hfinal
    · exact absurd hmem (he.unsent e heq)
    · cases heq
      exact Or.inl (List.mem_cons_of_mem _ (hp.raised e hlate))
    · cases heq
      exact Or.inr List.mem_cons_self

/-- The exit of the `with` block, after either end of its body. -/
theorem triple_exit (result : Except SmtpRaised Unit) :
    Triple (fun past => smtp.Open past ∧ smtp.Ended message result past) (smtpExit server)
      (fun _ => SoundSession smtp message result)
      (fun e => SoundSession smtp message (.error e)) := by
  unfold smtpExit
  refine Triple.ensuring (triple_quit result) (fun _ => ?_) fun e => ?_
  · exact Triple.issue (fun past hp => hp.close result (Or.inl ⟨rfl, rfl⟩))
      fun past e hp => hp.close (.error e) (Or.inr ⟨e, rfl, Or.inr rfl⟩)
  · exact Triple.issue (fun past hp => hp.close (.error e) (Or.inr ⟨e, rfl, Or.inl rfl⟩))
      fun past e' hp => hp.close (.error e') (Or.inr ⟨e', rfl, Or.inr rfl⟩)

end Body

/-! ### The session -/

/-- A session with the server is sound, whatever the server answers. -/
theorem dispatchEmail_sound (smtp : SmtpSettings settings)
    (henabled : settings.ourosEmailOtpEnabled = true) (server : Peer SmtpCommand SmtpRaised)
    (message : EmailMessage) :
    SoundSession smtp message (smtp.dispatchEmail server message []).1
      (smtp.dispatchEmail server message []).2 := by
  have htriple : Triple (· = []) (smtp.dispatchEmail server message)
      (fun _ => SoundSession smtp message (.ok ()))
      (fun e => SoundSession smtp message (.error e)) := by
    obtain ⟨-, host, hhost, hne⟩ := settings.otp_validated henabled
    unfold SmtpSettings.dispatchEmail
    rw [hhost]
    simp only [Option.getD_some, if_neg hne]
    refine Triple.bind (R := fun _ => smtp.Greeting message) ?_ fun _ => ?_
    · refine Triple.issue (fun past hpast => ?_) fun past e hpast => ?_
      · rw [hpast]
        exact ⟨⟨⟨⟨rfl, rfl⟩, trivial⟩,
          ⟨⟨host, smtp.ourosSmtpPort, List.mem_singleton_self _⟩, by simp, by simp⟩, by simp⟩,
          by simp [Mailed]⟩
      · -- the connection failed: there is nothing to close
        rw [hpast]
        exact ⟨⟨⟨rfl, rfl⟩, trivial⟩, by simp, fun e' heq => by cases heq; simp, by simp, by simp,
          by simp⟩
    · exact Triple.ensuring (triple_body henabled) (fun _ => triple_exit (.ok ()))
        fun e => triple_exit (.error e)
  obtain ⟨hok, herror⟩ := triple_iff.mp htriple [] rfl
  rcases hrun : smtp.dispatchEmail server message [] with ⟨r, h⟩
  cases r with
  | ok u => exact hok u h hrun
  | error e => exact herror e h hrun

section Sending
variable {rt : Runtime} {svc : OtpService} {parts : MessageParts} {recipient code : String}
  {purpose flow : Flow} {challengeId : String} {c c' : Config AppState AppEvent}

/-- **The session with the mail server.** Whatever the server answers: a message that cannot be
    built opens no session.  The password and the message leave only on a connection protected as
    configured, the message only after the login, and once; a connection is closed in the end; and a
    message the server has taken is reported as lost only when the goodbye fails. -/
theorem mail_session (smtp : SmtpSettings settings)
    (henabled : settings.ourosEmailOtpEnabled = true) (server : Peer SmtpCommand SmtpRaised)
    (svc : OtpService) (parts : MessageParts) (recipient code : String) (purpose : Flow) :
    (∃ e, buildEmailMessage svc parts recipient code purpose = .error e ∧
      smtp.sendCode server svc parts recipient code purpose = (.error e, [])) ∨
    ∃ message result, buildEmailMessage svc parts recipient code purpose = .ok message ∧
      (smtp.sendCode server svc parts recipient code purpose).1 =
        result.mapError SmtpRaised.toSend ∧
      SoundSession smtp message result
        (smtp.sendCode server svc parts recipient code purpose).2 := by
  unfold SmtpSettings.sendCode
  cases hbuild : buildEmailMessage svc parts recipient code purpose with
  | error e => exact Or.inl ⟨e, rfl, rfl⟩
  | ok message =>
    exact Or.inr ⟨message, _, rfl, rfl, dispatchEmail_sound smtp henabled server message⟩

/-- A client that greets the server in the clear, protects the connection and logs in. -/
def SmtpSettings.sample : SmtpSettings (Settings.sample none) where
  ourosSmtpPort := 587
  ourosSmtpAuth := true
  ourosSmtpStarttls := true
  ourosSmtpSsl := false
  ourosSmtpUser := some "otp"
  ourosSmtpPassword := some "smtp-password"
  tls_validated := by decide
  auth_validated := fun _ _ => ⟨⟨_, rfl, by decide⟩, _, rfl⟩

def sampleParts : MessageParts := ⟨some "Ouros <no-reply@ouros.local>", .ok ()⟩

/-- A server that answers everything but the goodbye. -/
def rudeServer : Peer SmtpCommand SmtpRaised := fun _ command =>
  if command = .quit then some (.other .smtpException) else none

/-- The rude server has the message, and the service reports it as lost. -/
theorem mail_session_rude :
    ∃ message, (SmtpSettings.sample.sendCode rudeServer (.sample false) sampleParts "ana@ouros.app"
        "123456" .login) = (.error .smtpException,
          [(.close, none), (.quit, some (.other .smtpException)), (.sendMessage message, none),
            (.login "otp" "smtp-password", none), (.ehlo, none), (.starttls, none), (.ehlo, none),
            (.connect "smtp.ouros.app" 587 false, none)]) ∧
      ∃ result, SoundSession SmtpSettings.sample message result
        (SmtpSettings.sample.sendCode rudeServer (.sample false) sampleParts "ana@ouros.app"
          "123456" .login).2 := by
  obtain ⟨e, hbuild, -⟩ | ⟨message, result, hbuild, -, hsound⟩ :=
    mail_session SmtpSettings.sample rfl rudeServer (.sample false) sampleParts "ana@ouros.app"
      "123456" .login
  · have hok : (buildEmailMessage (.sample false) sampleParts "ana@ouros.app" "123456"
        .login).isOk = true := by decide +kernel
    rw [hbuild] at hok
    exact absurd hok Bool.false_ne_true
  · refine ⟨message, ?_, result, hsound⟩
    unfold SmtpSettings.sendCode
    rw [hbuild]
    rfl

/-! ### What a challenge was created with -/

/-- A new challenge: its id, and the address and the code it is for. -/
structure NewChallenge where
  flow : Flow
  challengeId : String
  email : String
  code : String
  deriving DecidableEq

/-- The challenge an event created. -/
def AppEvent.created? : AppEvent → Option NewChallenge
  | .login (.started challengeId email code _) => some ⟨.login, challengeId, email, code⟩
  | .reset (.started challengeId start) => some ⟨.reset, challengeId, start.email, start.code⟩
  | _ => none

/-- An id that is taken in `s'` and was not in `s`. -/
structure Fresh (s s' : OtpState) (challengeId : String) : Prop where
  token : isChallengeToken challengeId = true
  fresh : challengeId ∉ s.issued
  taken : challengeId ∈ s'.issued

/-- These events create nothing, or one challenge under a fresh id. -/
def CreatesFresh (s s' : AppState) (es : List AppEvent) : Prop :=
  (∀ e ∈ es, e.created? = none) ∨
    ∃ x : NewChallenge, Fresh s.otp s'.otp x.challengeId ∧
      ∀ e ∈ es, ∀ y, e.created? = some y → y = x

/-- A step of a verification creates no challenge. -/
theorem created?_of_loginStep {t t' : LoginState} {les : List LoginEvent} {l : LoginLabel}
    (hroute : l.isVerifyStep rt = true) (hstep : loginStep rt svc t l = some (t', les)) :
    ∀ e ∈ les.map AppEvent.login, e.created? = none := by
  intro e he
  obtain ⟨le, hle, rfl⟩ := List.mem_map.mp he
  cases l with
  | tick now => exact absurd hroute (by simp [LoginLabel.isVerifyStep])
  | start id email code readAt => exact absurd hroute (by simp [LoginLabel.isVerifyStep])
  | delivered id outcome =>
    obtain ⟨-, -, rfl⟩ := loginStep_delivered hstep
    exact absurd hle List.not_mem_nil
  | load i id email code =>
    obtain ⟨-, ⟨r, -, -, rfl⟩ | ⟨-, rfl⟩⟩ := loginStep_load hstep
    · rw [List.mem_singleton.mp hle]
      rfl
    · exact absurd hle List.not_mem_nil
  | check i =>
    obtain ⟨id, _, _, _, -, ⟨-, rfl⟩ | ⟨d, -, -, -, rfl⟩⟩ := loginStep_check hstep
    · exact absurd hle List.not_mem_nil
    · split_ifs at hle
      · rw [List.mem_singleton.mp hle]
        rfl
      · exact absurd hle List.not_mem_nil
  | write i =>
    obtain ⟨id, _, _, _, d, -, -, rfl⟩ := loginStep_write hstep
    -- an accepted code leaves two events, any other decision one
    cases d <;> simp only [VerifyDecision.events, List.mem_cons, List.not_mem_nil, or_false] at hle
    case accept => rcases hle with rfl | rfl <;> rfl
    all_goals
      rw [hle]
      rfl
  | grant i =>
    obtain ⟨_, _, -, -, rfl⟩ := loginStep_grant hstep
    rw [List.mem_singleton.mp hle]
    rfl

/-- Creating a challenge takes a fresh id. -/
theorem fresh_of_create {s s' : OtpState} {readAt : Instant} {r : Record}
    (h : s.create svc flow challengeId readAt r = some s') : Fresh s s' challengeId := by
  obtain ⟨htoken, hfresh, -, rfl⟩ := create_eq_some.mp h
  exact ⟨htoken, hfresh, List.mem_cons_self⟩

/-- A token creates no challenge. -/
theorem created?_of_mintFor {s s' : AppState} {es : List AppEvent} {jti : String}
    {verdict : ResetVerdict} (hstep : s.mintFor rt svc settings jti verdict = some (s', es)) :
    ∀ e ∈ es, e.created? = none := by
  unfold AppState.mintFor at hstep
  split at hstep
  · split at hstep
    · obtain ⟨t, ces, -, -, rfl⟩ := onConfirm_eq_some hstep
      intro e he
      obtain ⟨ce, -, rfl⟩ := List.mem_map.mp he
      rfl
    · obtain ⟨-, rfl⟩ := Prod.mk.inj (Option.some.inj hstep)
      simp
  · obtain ⟨-, rfl⟩ := Prod.mk.inj (Option.some.inj hstep)
    simp

/-- A challenge under a fresh id, and an event that creates nothing. -/
theorem createsFresh_pair {s s' : AppState} {x : NewChallenge} {e e' : AppEvent}
    (hfresh : Fresh s.otp s'.otp x.challengeId) (hcreated : e.created? = some x)
    (hother : e'.created? = none) : CreatesFresh s s' [e, e'] := by
  refine Or.inr ⟨x, hfresh, fun e₁ he y hy => ?_⟩
  simp only [List.mem_cons, List.not_mem_nil, or_false] at he
  rcases he with rfl | rfl
  · exact Option.some.inj (hy.symm.trans hcreated)
  · exact absurd (hother.symm.trans hy) (by simp)

/-- **Step lemma for creations.** -/
theorem createsFresh_step {s s' : AppState} {es : List AppEvent} {l : AppLabel}
    (hstep : appStep rt svc settings s l = some (s', es)) : CreatesFresh s s' es := by
  -- only the two requests for a code create a challenge
  cases l with
  | tick t =>
    obtain ⟨otp, res, htick, -, rfl⟩ := onReset_eq_some hstep
    obtain ⟨-, -, rfl⟩ := resetStep_tick htick
    exact Or.inl (by simp)
  | startLogin tables email password id code readAt =>
    obtain ⟨-, rfl⟩ | ⟨identity, les, -, hon, rfl⟩ := appStep_startLogin hstep
    · exact Or.inl (by simp)
    · obtain ⟨t, les, hstart, rfl, rfl⟩ := onLogin_eq_some hon
      obtain ⟨-, hcreate, -, rfl⟩ := loginStep_start hstart
      exact createsFresh_pair (x := ⟨.login, id, identity.email, code⟩) (fresh_of_create hcreate)
        rfl rfl
  | login l =>
    obtain ⟨hroute, hon⟩ := appStep_login hstep
    obtain ⟨t, les, hlog, -, rfl⟩ := onLogin_eq_some hon
    exact Or.inl (created?_of_loginStep hroute hlog)
  | startReset tables email accountType id code readAt =>
    obtain ⟨-, rfl⟩ | ⟨identity, res, -, hon, rfl⟩ := appStep_startReset hstep
    · exact Or.inl (by simp)
    · obtain ⟨otp, res, hstart, rfl, rfl⟩ := onReset_eq_some hon
      obtain ⟨-, hcreate, rfl⟩ := resetStep_start hstart
      exact createsFresh_pair (x := ⟨.reset, id, identity.email, code⟩) (fresh_of_create hcreate)
        rfl rfl
  | resetDelivered id outcome =>
    obtain ⟨otp, res, hdelivered, -, rfl⟩ := onReset_eq_some hstep
    obtain ⟨-, rfl⟩ := resetStep_delivered hdelivered
    exact Or.inl (by simp)
  | verifyReset id email code readAt jti =>
    simp only [appStep] at hstep
    split_ifs at hstep
    obtain ⟨⟨s₁, es₁⟩, hverify, hrest⟩ := Option.bind_eq_some_iff.mp hstep
    obtain ⟨⟨s₂, es₂⟩, hmint, heq⟩ := Option.map_eq_some_iff.mp hrest
    obtain ⟨rfl, rfl⟩ := Prod.mk.inj heq
    obtain ⟨otp, res, hreset, rfl, rfl⟩ := onReset_eq_some hverify
    obtain ⟨-, rfl⟩ := resetStep_verify hreset
    refine Or.inl fun e he => ?_
    rcases List.mem_append.mp he with he | he
    · exact created?_of_mintFor hmint e he
    · rw [List.map_singleton, List.mem_singleton] at he
      rw [he]
      rfl
  | confirm l =>
    obtain ⟨-, hon⟩ := appStep_confirm hstep
    obtain ⟨t, ces, -, -, rfl⟩ := onConfirm_eq_some hon
    refine Or.inl fun e he => ?_
    obtain ⟨ce, -, rfl⟩ := List.mem_map.mp he
    rfl
  | passwordToken email =>
    obtain ⟨-, rfl⟩ := appStep_passwordToken hstep
    refine Or.inl fun e he => ?_
    split_ifs at he
    · rw [List.mem_singleton.mp he]
      rfl
    · exact absurd he List.not_mem_nil

/-- Ids are given out once. -/
structure CreatedOnce (s : AppState) (h : List AppEvent) : Prop where
  token : ∀ e ∈ h, ∀ x, e.created? = some x → isChallengeToken x.challengeId = true
  issued : ∀ e ∈ h, ∀ x, e.created? = some x → x.challengeId ∈ s.otp.issued
  unique : ∀ e ∈ h, ∀ e' ∈ h, ∀ x y, e.created? = some x → e'.created? = some y →
    x.challengeId = y.challengeId → x = y

theorem CreatedOnce.next (h : CreatedOnce c.state c.history) {l : AppLabel}
    (hnext : (appSystem rt svc settings).next c l = some c') :
    CreatedOnce c'.state c'.history := by
  obtain ⟨es, hstep, hhist⟩ := (appSystem rt svc settings).next_eq_some.mp hnext
  have hgrown : c.state.otp.issued ⊆ c'.state.otp.issued := issued_of_appStep hstep
  rw [hhist]
  obtain hnone | ⟨x, hx, honly⟩ := createsFresh_step hstep
  · -- whatever was created was created before
    have hold : ∀ e ∈ es ++ c.history, ∀ y, e.created? = some y → e ∈ c.history := by
      intro e he y hy
      refine (List.mem_append.mp he).resolve_left fun hnew => ?_
      exact absurd ((hnone e hnew).symm.trans hy) (by simp)
    exact ⟨fun e he y hy => h.token e (hold e he y hy) y hy,
      fun e he y hy => hgrown (h.issued e (hold e he y hy) y hy),
      fun e he e' he' y z hy hz => h.unique e (hold e he y hy) e' (hold e' he' z hz) y z hy hz⟩
  · -- a new challenge has an id that no earlier one has
    have hsplit : ∀ e ∈ es ++ c.history, ∀ y, e.created? = some y → y = x ∨ e ∈ c.history :=
      fun e he y hy => (List.mem_append.mp he).imp_left fun hnew => honly e hnew y hy
    have hother : ∀ e ∈ c.history, ∀ y, e.created? = some y → y.challengeId ≠ x.challengeId :=
      fun e he y hy heq => hx.fresh (heq ▸ h.issued e he y hy)
    constructor
    case token =>
      intro e he y hy
      rcases hsplit e he y hy with rfl | hold
      · exact hx.token
      · exact h.token e hold y hy
    case issued =>
      intro e he y hy
      rcases hsplit e he y hy with rfl | hold
      · exact hx.taken
      · exact hgrown (h.issued e hold y hy)
    case unique =>
      intro e he e' he' y z hy hz heq
      -- two new ones are the same, a new and an old one differ in their ids
      rcases hsplit e he y hy with rfl | hold <;> rcases hsplit e' he' z hz with rfl | hold'
      · rfl
      · exact absurd heq.symm (hother e' hold' z hz)
      · exact absurd heq (hother e hold y hy)
      · exact h.unique e hold e' hold' y z hy hz heq

/-- No two challenges of a run share an id. -/
theorem created_once {now : Instant} {ls : List AppLabel}
    (hrun : (appSystem rt svc settings).run (Config.start (AppState.init now)) ls = some c) :
    CreatedOnce c.state c.history :=
  (appSystem rt svc settings).invariant_run (I := fun d => CreatedOnce d.state d.history)
    (fun _ _ _ hd hnext => hd.next hnext) ⟨by simp, by simp, by simp⟩ hrun

/-- A record is one for this address and this code. -/
structure Record.MadeFor (rt : Runtime) (svc : OtpService) (challengeId email code : String)
    (r : Record) : Prop where
  address : r.email = .str (rt.normalizeEmail email)
  digest : r.codeDigest = .str (OurosAuth.codeDigest rt svc challengeId code)

/-- A record that is found is one for what its challenge was created with. -/
theorem madeFor_of_found {now : Instant} {ls : List AppLabel} {email code : String} {r : Record}
    (hmac : HmacCollisionFree rt svc.hmacSecret)
    (hrun : (appSystem rt svc settings).run (Config.start (AppState.init now)) ls = some c)
    (hcreated : ∃ e ∈ c.history, e.created? = some ⟨flow, challengeId, email, code⟩)
    (hfound : c.state.otp.stores.find? svc c.state.otp.now (storeKey svc flow challengeId) =
      some r) : r.MadeFor rt svc challengeId email code := by
  obtain ⟨e, he, hcreation⟩ := hcreated
  have honce := created_once hrun
  cases (appInv_run hmac hrun).stored _ r (recordAt_of_find? hfound) with
  | login id identity code' expiresAt attempts hstarted htoken hkey hr =>
    cases flow with
    | login =>
      obtain rfl := storeKey_inj hkey
      have hsame := honce.unique e he _ hstarted.started _ _ hcreation rfl rfl
      obtain ⟨-, -, rfl, rfl⟩ := NewChallenge.mk.inj hsame
      exact ⟨hr ▸ rfl, hr ▸ rfl⟩
    | reset => exact absurd hkey.symm (storeKey_login_ne_reset htoken challengeId)
  | reset id identity code' expiresAt attempts databaseId hstarted _ _ _ hkey hr =>
    cases flow with
    | login => exact absurd hkey (storeKey_login_ne_reset (honce.token e he _ hcreation) id)
    | reset =>
      obtain rfl := storeKey_inj hkey
      have hsame := honce.unique e he _ hstarted.started _ _ hcreation rfl rfl
      obtain ⟨-, -, rfl, rfl⟩ := NewChallenge.mk.inj hsame
      exact ⟨hr ▸ rfl, hr ▸ rfl⟩

/-! ### The challenge behind a mail -/

/-- What a delivery leaves of a challenge: all of it, unless the failure was caught. -/
theorem find?_delivered {s s' : OtpState} {outcome : Delivery}
    (h : s.delivered svc flow challengeId outcome = some s') :
    s'.stores.find? svc s'.now (storeKey svc flow challengeId) =
      if outcome = .smtpFailure then none
      else s.stores.find? svc s.now (storeKey svc flow challengeId) := by
  obtain ⟨-, hnow, -⟩ := delivered_eq_some h
  rw [delivered_stores h, hnow]
  split_ifs
  · exact find?_delete_self
  · rfl

/-- A sending that ends without an exception has handed the message to the server. -/
theorem sent_of_sendCode (smtp : SmtpSettings settings)
    (henabled : settings.ourosEmailOtpEnabled = true) (server : Peer SmtpCommand SmtpRaised)
    (hresult : (smtp.sendCode server svc parts recipient code flow).1 = .ok ()) :
    ∃ message, buildEmailMessage svc parts recipient code flow = .ok message ∧
      (.sendMessage message, none) ∈ (smtp.sendCode server svc parts recipient code flow).2 ∧
      SoundSession smtp message (.ok ())
        (smtp.sendCode server svc parts recipient code flow).2 := by
  unfold SmtpSettings.sendCode at hresult ⊢
  cases hbuild : buildEmailMessage svc parts recipient code flow with
  | error e =>
    rw [hbuild] at hresult
    exact absurd hresult (by simp)
  | ok message =>
    rw [hbuild] at hresult
    have hsound := dispatchEmail_sound smtp henabled server message
    cases hrun : (smtp.dispatchEmail server message []).1 with
    | error e =>
      simp only [hrun] at hresult
      exact absurd hresult (by simp [Except.mapError])
    | ok u =>
      rw [hrun] at hsound
      exact ⟨message, rfl, hsound.sent rfl, hsound⟩

/-- **A challenge that is kept was mailed.** Take any run in which a challenge was created for an
    address and with a code, and the delivery that sends this code to this address.  If afterwards
    the challenge is found, then it was found before, and as a record for this address and this
    code; and the server has taken the message, in a session as it has to be, unless the exception
    was one the service has no handler for. -/
theorem kept_challenge_mailed (smtp : SmtpSettings settings)
    (henabled : settings.ourosEmailOtpEnabled = true) (server : Peer SmtpCommand SmtpRaised)
    {now : Instant} {ls : List AppLabel} {email : String} {r : Record}
    (hmac : HmacCollisionFree rt svc.hmacSecret)
    (hrun : (appSystem rt svc settings).run (Config.start (AppState.init now)) ls = some c)
    (hcreated : ∃ e ∈ c.history, e.created? = some ⟨flow, challengeId, email, code⟩)
    (hnext : (appSystem rt svc settings).next c (deliveryLabel flow challengeId
      (.ofSend (smtp.sendCode server svc parts (rt.normalizeEmail email) code flow).1)) = some c')
    (hkept : c'.state.otp.stores.find? svc c'.state.otp.now (storeKey svc flow challengeId) =
      some r) :
    c.state.otp.stores.find? svc c.state.otp.now (storeKey svc flow challengeId) = some r ∧
      r.MadeFor rt svc challengeId email code ∧
      ((∃ message,
          buildEmailMessage svc parts (rt.normalizeEmail email) code flow = .ok message ∧
          (.sendMessage message, none) ∈
            (smtp.sendCode server svc parts (rt.normalizeEmail email) code flow).2 ∧
          SoundSession smtp message (.ok ())
            (smtp.sendCode server svc parts (rt.normalizeEmail email) code flow).2) ∨
        ∃ e, (smtp.sendCode server svc parts (rt.normalizeEmail email) code flow).1 = .error e ∧
          e.isOSError = false) := by
  have hfound := find?_delivered (next_delivery hnext)
  rw [hkept] at hfound
  -- what is found has not been deleted, so no `OSError` was caught
  split_ifs at hfound with hcaught
  refine ⟨hfound.symm, madeFor_of_found hmac hrun hcreated hfound.symm, ?_⟩
  cases hresult : (smtp.sendCode server svc parts (rt.normalizeEmail email) code flow).1 with
  | error e =>
    -- an exception that is kept quiet about would have deleted the challenge
    rw [hresult] at hcaught
    refine Or.inr ⟨e, rfl, ?_⟩
    by_contra hos
    exact hcaught (if_pos (by simpa using hos))
  | ok u => exact Or.inl (sent_of_sendCode smtp henabled server hresult)

/-- A server that answers everything. -/
def politeServer : Peer SmtpCommand SmtpRaised := fun _ _ => none

/-- How the code for Ana is sent. -/
def sampleSending : Except SendError Unit × List SmtpExchange :=
  SmtpSettings.sample.sendCode politeServer (.sample true) sampleParts
    (Runtime.sample.normalizeEmail "ana@ouros.app") "123456" .login

/-- Ana's challenge is kept, and the polite server has the message with its code. -/
theorem kept_challenge_mailed_ana :
    ∃ c c' r, (appSystem Runtime.sample (.sample true) (.sample none)).run
        (Config.start (AppState.init sampleNow)) (sampleStart "ana@ouros.app") = some c ∧
      (appSystem Runtime.sample (.sample true) (.sample none)).next c
        (deliveryLabel .login sampleToken (.ofSend sampleSending.1)) = some c' ∧
      sampleChallenge c' = some r ∧
      r.MadeFor .sample (.sample true) sampleToken "ana@ouros.app" "123456" ∧
      ∃ message, (.sendMessage message, none) ∈ sampleSending.2 := by
  obtain ⟨c, hc, hrest⟩ := Option.bind_eq_some_iff.mp
    (by decide +kernel :
      ((appSystem Runtime.sample (.sample true) (.sample none)).run
        (Config.start (AppState.init sampleNow)) (sampleStart "ana@ouros.app")).bind
          (fun c => ((appSystem Runtime.sample (.sample true) (.sample none)).next c
              (deliveryLabel .login sampleToken (.ofSend sampleSending.1))).map
            fun c' => (c.history.any fun e => decide (e.created? =
                some ⟨.login, sampleToken, "ana@ouros.app", "123456"⟩),
              (sampleChallenge c').isSome)) = some (true, true))
  obtain ⟨c', hnext, hout⟩ := Option.map_eq_some_iff.mp hrest
  obtain ⟨hcreated, hstays⟩ := Prod.mk.inj hout
  obtain ⟨e, he, hcreation⟩ := List.any_eq_true.mp hcreated
  obtain ⟨r, hr⟩ := Option.isSome_iff_exists.mp hstays
  obtain ⟨-, hmade, ⟨message, -, hmem, -⟩ | ⟨e', hfail, -⟩⟩ :=
    kept_challenge_mailed SmtpSettings.sample rfl politeServer (sample_hmacCollisionFree _) hc
      ⟨e, he, of_decide_eq_true hcreation⟩ hnext hr
  · exact ⟨c, c', r, hc, hnext, hr, hmade, message, hmem⟩
  · have hsent : sampleSending.1.isOk = true := by decide +kernel
    rw [show sampleSending.1 = .error e' from hfail] at hsent
    exact absurd hsent Bool.false_ne_true

end Sending

end OurosAuth
