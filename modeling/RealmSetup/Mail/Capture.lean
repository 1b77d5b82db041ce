import RealmSetup.Config
import RealmSetup.Mail.Message

/-!
# Captured mail

A client of the server that captures the mail of a realm: it lists messages, reads one, deletes all,
and waits for a message to arrive.
-/

namespace RealmSetup

/-- A client of a server that captures mail. -/
structure MailCapture where
  base : Url.Base
  /-- How to wait unless it is said otherwise. -/
  policy : PollPolicy

/-- An attempt in the surroundings of a client that sends no tokens. -/
abbrev HostAttempt (α : Type) : Type := Attempt Host α

namespace MailCapture

/-- The client of the server at an address. -/
def ofUrl (url : Url) : Except Error MailCapture :=
  match Url.Base.of? url with
  | some base => .ok ⟨base, .standard⟩
  | none => .error (.config (.invalidUrl "mail capture" none))

/-- The client that a configuration describes, if mail is captured. -/
def ofConfig? (config : Config) : Option MailCapture :=
  config.mailUrl.map fun base => ⟨base, config.poll⟩

/-- The address of something about messages. -/
def endpoint (m : MailCapture) (segments : List String) : Url :=
  m.base.below ("api" :: "v1" :: segments)

/-- Sends a request that must succeed. -/
def send (method : Method) (url : Url) : HostAttempt Reply := do
  let reply ← exchange ⟨method, url, none, .empty⟩
  Attempt.ofExcept (reply.ensureSuccess method url)
  return reply

def getJson {α : Type} (url : Url) (decoder : Json.Decoder α) : HostAttempt α := do
  let reply ← send .get url
  Attempt.ofExcept (reply.decode url decoder)

variable (m : MailCapture)

def deleteAll : HostAttempt Unit := do
  let _ ← send .delete (m.endpoint ["messages"])

/-- Lists messages, the latest first. -/
def listMessages : HostAttempt (List MessageSummary) := do
  return (← getJson (m.endpoint ["messages"]) MessageList.decoder).messages

def getMessage (id : String) : HostAttempt Message :=
  getJson (m.endpoint ["message", id]) Message.decoder

/-- What is waited for, in words. -/
def criteria (address : String) (subject : Option String) : String :=
  "mail to " ++ address ++ subject.elim "" fun s => " with subject containing \"" ++ s ++ "\""

/-- Answers a call of a poll for messages. -/
def serveWatch : (c : Watch.Call) → Program Host (Watch.Answer MessageSummary c)
  | .fetch => m.listMessages.run
  | .elapsed => Program.call (I := Host) .elapsed
  | .sleep d => Program.call (I := Host) (.sleep d)
  | .note n => Program.call (I := Host) (.note n)

/-- Waits for a message to an address, with a text in its subject if asked for. -/
def waitForMessage (address : String) (subject : Option String) (policy : PollPolicy) :
    HostAttempt Message := do
  let watch := policy.poll (criteria address subject) fun s : MessageSummary =>
    s.accepts address subject
  let summary ← Attempt.ofProgram (watch.run.interpret m.serveWatch)
  m.getMessage summary.id

end MailCapture

end RealmSetup
