import RealmSetup.Auth.Bearer
import RealmSetup.Flow.Remote
import RealmSetup.Text.Quoted
import RealmSetup.Url.Segments

/-!
# A client of an admin server

A client sends each request with a token that it asks for right before.  When the token is refused it
has it dropped and sends the request once more with another; the second reply stands whatever it is.

Replies are read in one of four ways: the request must succeed; or it may also have been done before;
or the body is looked into; or there may be nothing to look into.
-/

namespace RealmSetup

/-- A client of an admin server. -/
structure AdminClient where
  base : Url.Base

/-- An attempt in the surroundings of a client that sends tokens. -/
abbrev SiteAttempt (α : Type) : Type := Attempt Site α

namespace AdminClient

def ofUrl (url : Url) : Except Error AdminClient :=
  match Url.Base.of? url with
  | some base => .ok ⟨base⟩
  | none => .error (.config (.invalidUrl "base" none))

def debug (c : AdminClient) : String :=
  "AdminClient \x7b base_url: " ++ Text.quoted c.base.url.text ++ " \x7d"

def endpoint (c : AdminClient) (segments : List String) : Url :=
  c.base.below ("admin" :: "realms" :: segments)

/-! ## Sending -/

/-- Whether a token can be sent. -/
def isSendable (token : Secret) : Bool :=
  token.expose.toList.all fun c => c == '\t' || (0x20 ≤ c.toNat && c.toNat ≠ 0x7F)

def sendOnce (method : Method) (url : Url) (body : RequestBody) : SiteAttempt Reply := do
  let token ← bearerToken
  if isSendable token then exchange ⟨method, url, some token, body⟩
  else throw (networkFailure "the token cannot be sent")

/-- Sends a request, a second time if the token was refused. -/
def send (method : Method) (url : Url) (body : RequestBody) : SiteAttempt Reply := do
  let reply ← sendOnce method url body
  if reply.status = 401 then
    ExceptT.lift (log .debug "admin token rejected, refreshing"
      [("method", .text method.label), ("path", .text url.pathText)])
    dropToken
    sendOnce method url body
  else return reply

/-- Sends a request that must succeed. -/
def execute (method : Method) (url : Url) (body : RequestBody) : SiteAttempt Unit := do
  let reply ← send method url body
  Attempt.ofExcept (reply.ensureSuccess method url)

/-- Sends a request that creates something, which may be there already. -/
def create (url : Url) (body : Json) : SiteAttempt Creation := do
  let reply ← send .post url (.json body)
  if reply.status = 409 then
    ExceptT.lift (log .debug "resource already exists" [("path", .text url.pathText)])
    return .alreadyExists
  Attempt.ofExcept (reply.ensureSuccess .post url)
  return .created

def getJson {α : Type} (url : Url) (decoder : Json.Decoder α) : SiteAttempt α := do
  let reply ← send .get url .empty
  Attempt.ofExcept (reply.ensureSuccess .get url)
  Attempt.ofExcept (reply.decode url decoder)

/-- Reads something that may not be there. -/
def getOptionalJson {α : Type} (url : Url) (decoder : Json.Decoder α) :
    SiteAttempt (Option α) := do
  let reply ← send .get url .empty
  if reply.status = 404 then return none
  Attempt.ofExcept (reply.ensureSuccess .get url)
  return some (← Attempt.ofExcept (reply.decode url decoder))

end AdminClient

end RealmSetup
