import RealmSetup.Auth.Bearer
import RealmSetup.Auth.Token
import RealmSetup.Text.Quoted
import RealmSetup.Url.Segments

/-!
# Tokens granted for a password

A grant exchanges the name and password of an administrator for a token, keeps the token, and renews
it when its end comes near.  A refused or failed grant leaves what is kept as it was.

The reply to a grant is read in this order: its status, which has to be 200; what its body is said to
be; whether there is a body; its shape.  A refusal explains itself in a body of its own.  The end of a
token may lie outside the calendar; nothing goes on then.
-/

namespace RealmSetup

/-- An instant lies outside the calendar. -/
inductive Overflow where
  /-- An instant lies outside the calendar. -/
  | outOfCalendar
  deriving DecidableEq, Repr

def Overflow.message : Overflow → String
  | .outOfCalendar => "resulting value is out of range"

/-- What a grant needs to know. -/
structure Grant where
  tokenUrl : Url
  /-- The client on whose behalf a token is asked for. -/
  clientId : String
  username : String
  password : Secret
  /-- How much of the life of a token may be left when it is renewed. -/
  refreshWindow : Duration

namespace Grant

def request (g : Grant) : Request where
  method := .post
  url := g.tokenUrl
  bearer := none
  body := .form
    [("grant_type", "password"), ("username", g.username), ("password", g.password.expose),
      ("client_id", g.clientId)]

/-! ## Replies -/

/-- Why a grant was refused, as the server tells it. -/
structure Refusal where
  error : String
  description : Option String
  uri : Option String

namespace Refusal

def record : Json.Record Refusal :=
  Json.Record.of Refusal.mk
    |>.required "error" Json.string
    |>.optional "error_description" (Json.nullable Json.string) none
    |>.optional "error_uri" (Json.nullable Json.string) none

def text (r : Refusal) : String :=
  r.error ++ r.description.elim "" (": " ++ ·) ++ r.uri.elim "" fun uri => " (see " ++ uri ++ ")"

end Refusal

/-- What a server grants. -/
structure Granted where
  accessToken : Secret
  /-- The life of the token in seconds. -/
  expiresIn : Option Nat

namespace Granted

/-- The fields of a reply that grants a token; those that are not used have to be texts all the
same. -/
def record : Json.Record (KeyMap Json → Granted) :=
  Json.Record.of (fun token _ expiresIn _ _ _ => Granted.mk token expiresIn)
    |>.required "access_token" Secret.decoder
    |>.required "token_type" Json.string
    |>.optional "expires_in" (Json.nullable (Json.natBelow UInt64.size)) none
    |>.optional "refresh_token" (Json.nullable Json.string) none
    |>.optional "scope" (Json.nullable Json.string) none

/-- The life of the token in nanoseconds, unless it is longer than a signed number of 64 bits of
seconds. -/
def lifetime (g : Granted) : Option Int :=
  g.expiresIn.bind fun secs => if secs < UInt64.size / 2 then some (secs * 1000000000) else none

end Granted

/-- The name under which the shape of a reply is complained about. -/
def endpointName : String := "token endpoint"

/-- Finds a shape in the body of a reply. -/
def decodeBody {α : Type} (decoder : Json.Decoder α) (bytes : List UInt8) : Except Error α :=
  match Json.decodeFirst decoder (Utf8.glyphs bytes) with
  | .ok a => .ok a
  | .error fault => .error (.decode endpointName fault)

/-- Whether a byte of a header is shown as it is. -/
def isPlainByte (b : UInt8) : Bool := (32 ≤ b && b < 127) || b == 9

def headerByte (b : UInt8) : List Char :=
  if b == 34 then ['\\', '"']
  else if isPlainByte b then [Char.ofNat b.toNat]
  else '\\' :: 'x' :: Nat.toDigits 16 b.toNat

/-- A header between quotation marks. -/
def headerText (value : String) : String :=
  String.ofList ('"' :: (Utf8.encode value).flatMap headerByte ++ ['"'])

/-- Whether what a body is said to be is JSON, perhaps with parameters. -/
def saysJson (value : String) : Bool :=
  (Utf8.encode value).all isPlainByte
    && "application/json".toList.isPrefixOf (value.toList.map Char.toLower)

def readRefusal (bytes : List UInt8) : Error :=
  if bytes.isEmpty then .tokenRejected "server returned empty error response"
  else
    match decodeBody Refusal.record.decode bytes with
    | .ok refusal => .tokenRejected refusal.text
    | .error e => e

def read (reply : Reply) : Except Error Granted := do
  let bytes ← reply.bytes
  if reply.status ≠ 200 then throw (readRefusal bytes)
  match reply.contentType with
  | some value =>
    if !saysJson value then
      throw (.tokenRejected ("unexpected response Content-Type: " ++ headerText value
        ++ ", should be `application/json`"))
  | none => pure ()
  if bytes.isEmpty then throw (.tokenRejected "server returned empty response body")
  decodeBody (Granted.record.decodeOpen Json.deepest) bytes

/-! ## The source -/

/-- The token that is kept, in surroundings where an instant can lie outside the calendar. -/
abbrev Keeping (α : Type) : Type := StateT (Option AdminToken) (ExceptT Overflow (Program Host)) α

def ask (c : Host.Call) : Keeping (Host.Answer c) :=
  liftM (n := Keeping) (liftM (n := ExceptT Overflow (Program Host)) (Program.call (I := Host) c))

/-- Ends because an instant lies outside the calendar. -/
def overflow {α : Type} : Keeping α :=
  fun _ => ExceptT.mk (pure (.error .outOfCalendar))

/-- The lifetime of a token as it is logged. -/
def lifetimeText (lifetime : Option Int) : String :=
  match lifetime with
  | none => "None"
  | some nanos => "Some(" ++ toString (nanos / 1000000000) ++ "s)"

/-- Asks the server for a token. -/
def fetch (g : Grant) : Keeping (Except Error AdminToken) := do
  let issuedAt ← ask .now
  match (← ask (.exchange g.request) : Except String Reply) with
  | .error cause => return .error (networkFailure cause)
  | .ok reply =>
    match read reply with
    | .error e => return .error e
    | .ok granted =>
      ask (.note (.logged ⟨.debug, "obtained admin token",
        [("lifetime", .text (lifetimeText granted.lifetime))]⟩))
      match AdminToken.issue? granted.accessToken issuedAt granted.lifetime with
      | some token => return .ok token
      | none => overflow

/-- The token that is kept, if it need not be renewed, or else a new one, which is kept. -/
def access (g : Grant) : Keeping (Except Error Secret) := do
  let now ← ask .now
  match (← get).filter fun t => !t.needsRefresh now g.refreshWindow.nanos with
  | some token => return .ok token.secret
  | none =>
    match ← g.fetch with
    | .error e => return .error e
    | .ok token =>
      set (some token)
      return .ok token.secret

/-- Answers a call to a source of tokens. -/
def serve (g : Grant) : (c : Bearer.Call) → Keeping (Bearer.Answer c)
  | .get => g.access
  | .drop => set (none : Option AdminToken)

/-- Answers the calls of a client that sends tokens. -/
def serveSite (g : Grant) : (c : Site.Call) → Keeping (Site.Answer c)
  | .inl c => g.serve c
  | .inr c => ask c

/-- Runs a client that sends tokens granted for a password. -/
def run {α : Type} (g : Grant) (p : Program Site α) : Keeping α :=
  p.interpret g.serveSite

/-- The beginning of the text of a grant for developers; the window follows. -/
def debugHead (g : Grant) : String :=
  "PasswordGrantTokenSource \x7b token_url: " ++ Text.quoted g.tokenUrl.text ++ ", username: "
    ++ Text.quoted g.username

end Grant

end RealmSetup
