import RealmSetup.Error
import RealmSetup.Secret
import RealmSetup.Text.Utf8

/-!
# Requests and replies

What is sent to a server and what comes back.  A reply may break off before its body is complete; that
is noticed only by who reads the body.
-/

namespace RealmSetup

/-- What a request is to do. -/
inductive Method where
  | get
  | post
  | put
  | delete
  deriving DecidableEq, Repr

def Method.label : Method → String
  | .get => "GET"
  | .post => "POST"
  | .put => "PUT"
  | .delete => "DELETE"

/-- The body of a request. -/
inductive RequestBody where
  | empty
  | json (value : Json)
  | form (fields : List (String × String))

/-- A request to a server. -/
structure Request where
  method : Method
  url : Url
  bearer : Option Secret
  body : RequestBody

/-- A reply of a server. -/
structure Reply where
  status : Nat
  contentType : Option String
  /-- The bytes of the body; nothing if the reply breaks off. -/
  body : Option (List UInt8)

def networkFailure (cause : String) : Error := .transport (.network cause)

namespace Reply

def isSuccess (r : Reply) : Bool := 200 ≤ r.status && r.status ≤ 299

def bytes (r : Reply) : Except Error (List UInt8) :=
  match r.body with
  | some bytes => .ok bytes
  | none => .error (networkFailure "the reply breaks off")

/-- The body as text; nothing of a reply that breaks off. -/
def text (r : Reply) : String :=
  match r.body with
  | some bytes => Utf8.lossy bytes
  | none => ""

/-- Finds a shape in the body of a reply from an address. -/
def decode {α : Type} (r : Reply) (url : Url) (decoder : Json.Decoder α) : Except Error α := do
  let bytes ← r.bytes
  match Json.decodeFirst decoder (Utf8.glyphs bytes) with
  | .ok a => return a
  | .error fault => throw (.decode url.pathText fault)

/-- The error of a refused request. -/
def rejection (r : Reply) (method : Method) (url : Url) : Error :=
  .remoteRejected method.label url.pathText r.status r.text

/-- Insists on a status of success. -/
def ensureSuccess (r : Reply) (method : Method) (url : Url) : Except Error Unit :=
  if r.isSuccess then .ok () else .error (r.rejection method url)

end Reply

end RealmSetup
