import RealmSetup.Json.Decode
import RealmSetup.Mail.Code
import RealmSetup.Text.LowerCase

/-!
# Captured messages

What is known of a captured message: in a listing its sender, recipients, subject and the beginning of
its text; by itself also its text in both forms.  A code is looked for in the plain text, or in the
other form if the plain text is blank.
-/

namespace RealmSetup

/-- An address of a sender or recipient. -/
structure Mailbox where
  name : String
  address : String
  deriving DecidableEq, Repr

namespace Mailbox

def json (m : Mailbox) : Json := .members [("Name", .text m.name), ("Address", .text m.address)]

def jsonOrNull (m : Option Mailbox) : Json := (m.map json).getD .null

def decoder : Json.Decoder Mailbox :=
  (Json.Record.of Mailbox.mk
    |>.optional "Name" Json.string ""
    |>.required "Address" Json.string).decode

end Mailbox

/-- A message in a listing. -/
structure MessageSummary where
  id : String
  sender : Option Mailbox
  recipients : List Mailbox
  subject : String
  snippet : String
  deriving DecidableEq, Repr

namespace MessageSummary

def json (m : MessageSummary) : Json :=
  .members
    [("ID", .text m.id), ("From", Mailbox.jsonOrNull m.sender),
      ("To", .array (m.recipients.map Mailbox.json)), ("Subject", .text m.subject),
      ("Snippet", .text m.snippet)]

def decoder : Json.Decoder MessageSummary :=
  (Json.Record.of MessageSummary.mk
    |>.required "ID" Json.string
    |>.optional "From" (Json.nullable Mailbox.decoder) none
    |>.optional "To" (Json.list Mailbox.decoder) []
    |>.optional "Subject" Json.string ""
    |>.optional "Snippet" Json.string "").decode

/-- Whether a message goes to an address and, if asked for, has a text in its subject, whatever the
case of letters. -/
def accepts (m : MessageSummary) (address : String) (subject : Option String) : Bool :=
  m.recipients.any (fun r => Text.equalIgnoringAsciiCase r.address address)
    && subject.all fun needle => Text.contains (Text.lower m.subject) (Text.lower needle)

end MessageSummary

/-- A listing of messages. -/
structure MessageList where
  /-- The messages, the latest first. -/
  messages : List MessageSummary

def MessageList.decoder : Json.Decoder MessageList :=
  (Json.Record.of MessageList.mk
    |>.optional "messages" (Json.list MessageSummary.decoder) []).decode

/-- A message with its text. -/
structure Message where
  id : String
  sender : Option Mailbox
  recipients : List Mailbox
  subject : String
  text : String
  html : String
  deriving DecidableEq, Repr

namespace Message

def json (m : Message) : Json :=
  .members
    [("ID", .text m.id), ("From", Mailbox.jsonOrNull m.sender),
      ("To", .array (m.recipients.map Mailbox.json)), ("Subject", .text m.subject),
      ("Text", .text m.text), ("HTML", .text m.html)]

def decoder : Json.Decoder Message :=
  (Json.Record.of Message.mk
    |>.required "ID" Json.string
    |>.optional "From" (Json.nullable Mailbox.decoder) none
    |>.optional "To" (Json.list Mailbox.decoder) []
    |>.optional "Subject" Json.string ""
    |>.optional "Text" Json.string ""
    |>.optional "HTML" Json.string "").decode

def code? (m : Message) (alphabet : String) (lengths : Nat × Nat) : Option String :=
  Code.find? (if Text.allBlank m.text then m.html else m.text) alphabet lengths

end Message

end RealmSetup
