import RealmSetup.Flow.State
import RealmSetup.Json.Decode
import RealmSetup.Time.Duration
import RealmSetup.Url.Basic

/-!
# Errors

What can go wrong, by cause.  Every error ends the operation it arises in.  `Error.message` is the
text shown for an error and `Error.sources` lists the texts of the causes below it.
-/

namespace RealmSetup

/-- Why a store of secrets failed. -/
inductive StoreError where
  /-- The record could not be written as text or read from it. -/
  | serialization (message : String)
  /-- The medium failed. -/
  | backend (message : String)
  deriving DecidableEq, Repr

def StoreError.message : StoreError → String
  | .serialization message => "Serialization error: " ++ message ++ "."
  | .backend message => "Backend failure: " ++ message ++ "."

/-- What is wrong with a configuration. -/
inductive ConfigError where
  /-- The transport could not be set up. -/
  | clientBuild (cause : String)
  /-- A request could not be put together. -/
  | requestBuild (cause : String)
  /-- An address is none, or nothing can lie below it. -/
  | invalidUrl (what : String) (cause : Option Url.ParseError)
  /-- A setting that is needed was not given. -/
  | missing (setting : String)
  /-- The name or password of the administrator is empty. -/
  | emptyCredentials
  /-- A pause of no length would never let time pass. -/
  | zeroPollInterval
  /-- An environment variable holds a value that is of no use. -/
  | invalidEnv (name : String)
  deriving DecidableEq, Repr

namespace ConfigError

def message : ConfigError → String
  | .clientBuild _ => "HTTP client could not be constructed."
  | .requestBuild cause => cause
  | .invalidUrl what _ => "The " ++ what ++ " URL is invalid."
  | .missing setting => "Missing required setting `" ++ setting ++ "`."
  | .emptyCredentials => "Admin credentials must not be empty."
  | .zeroPollInterval => "Poll interval must be greater than zero."
  | .invalidEnv name => "Environment variable `" ++ name ++ "` holds an invalid value."

/-- The texts of the causes below a fault of a configuration. -/
def sources : ConfigError → List String
  | .clientBuild cause => [cause]
  | .invalidUrl _ (some cause) => [cause.message]
  | _ => []

end ConfigError

/-- What went wrong between the two ends of a connection. -/
inductive TransportError where
  /-- The connection failed. -/
  | network (cause : String)
  /-- Reading or writing failed. -/
  | io (cause : String)
  deriving DecidableEq, Repr

namespace TransportError

def message : TransportError → String
  | .network _ => "Network error occurred while calling the remote service."
  | .io _ => "I/O error occurred while calling the remote service."

/-- The texts of the causes below a failure of the transport. -/
def sources : TransportError → List String
  | .network cause => [cause]
  | .io cause => [cause]

end TransportError

/-- What can go wrong while realms are set up. -/
inductive Error where
  /-- The store of secrets failed. -/
  | storage (cause : StoreError)
  /-- The configuration is at fault. -/
  | config (cause : ConfigError)
  /-- The transport failed. -/
  | transport (cause : TransportError)
  /-- A parent has no child of the kind looked for. -/
  | resolutionFailed (parent key : String)
  /-- A parent has several children of the kind looked for, so that one cannot be told from another. -/
  | ambiguousResolution (parent key : String) (found : Nat)
  /-- The server refused a call. -/
  | remoteRejected (method endpoint : String) (status : Nat) (body : String)
  /-- Time ran out before anything that was waited for came. -/
  | timeout (criteria : String) (elapsed : Duration)
  /-- An answer does not have the shape looked for. -/
  | decode (endpoint : String) (fault : Json.Fault)
  /-- No token was granted. -/
  | tokenRejected (reason : String)
  /-- A value that is relied on is not there. -/
  | missingValue (what : String)
  /-- A node was to move to a state it cannot move to. -/
  | invalidTransition (node : String) (current next : BuildState)
  deriving DecidableEq, Repr

namespace Error

def message : Error → String
  | .storage cause => cause.message
  | .config cause => cause.message
  | .transport cause => cause.message
  | .resolutionFailed parent key => "No child of `" ++ parent ++ "` matches " ++ key ++ "."
  | .ambiguousResolution parent key found =>
    toString found ++ " children of `" ++ parent ++ "` match " ++ key ++ "; refusing to guess."
  | .remoteRejected method endpoint status body =>
    method ++ " " ++ endpoint ++ " was rejected with status " ++ toString status ++ ": " ++ body
  | .timeout criteria elapsed =>
    "Timed out after " ++ elapsed.text ++ " waiting for " ++ criteria ++ "."
  | .decode endpoint _ => "Response from " ++ endpoint ++ " could not be decoded."
  | .tokenRejected reason => "Admin token request was rejected: " ++ reason ++ "."
  | .missingValue what => "Missing " ++ what ++ "."
  | .invalidTransition node current next =>
    "Node `" ++ node ++ "` cannot move from " ++ current.label ++ " to " ++ next.label ++ "."

/-- The texts of the causes below an error. -/
def sources : Error → List String
  | .storage cause => [cause.message]
  | .config cause => cause.sources
  | .transport cause => cause.sources
  | _ => []

end Error

/-- The state of `node` after a move, or the error of a move that is not allowed. -/
def BuildState.advance (current : BuildState) (node : String) (next : BuildState) :
    Except Error BuildState :=
  match current.advance? next with
  | some state => .ok state
  | none => .error (.invalidTransition node current next)

end RealmSetup
