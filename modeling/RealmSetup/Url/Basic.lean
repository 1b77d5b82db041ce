/-!
# Addresses

An address of a resource, taken apart by the URL standard.  The parts hold their text as it is
written, percent-encoded where need be, so that `Url.text` only puts them together.

A path is either one piece of text, as in `mailto:x`, or a list of segments.  An address whose path is
in one piece cannot be a base: there is nothing below it.
-/

namespace RealmSetup

/-- The path of an address. -/
inductive Url.Path where
  /-- One piece of text that names nothing below it. -/
  | whole (text : String)
  /-- Segments, each after a slash. -/
  | segments (names : List String)
  deriving DecidableEq, Repr

/-- Whether a path would be read as a host, if none stood in front of it. -/
def Url.Path.looksLikeHost : Url.Path → Bool
  | .segments ("" :: _ :: _) => true
  | _ => false

/-- An address of a resource. -/
structure Url where
  /-- The scheme, in lower case. -/
  scheme : String
  /-- The user name; empty if none. -/
  username : String
  /-- The password; empty if none. -/
  password : String
  /-- The host, if the address names an authority. -/
  host : Option String
  /-- The port, if it is not the one the scheme stands for. -/
  port : Option Nat
  path : Url.Path
  /-- Whether `/.` stands in front of the path, so that its beginning is not read as a host. -/
  guarded : Bool
  /-- What stands after the question mark. -/
  query : Option String
  /-- What stands after the hash sign. -/
  fragment : Option String
  deriving DecidableEq, Repr

namespace Url

/-- Why a text is no address. -/
inductive ParseError where
  /-- A host is needed and none is given. -/
  | emptyHost
  /-- The host holds characters that no name may hold. -/
  | invalidName
  /-- The port is no number of 16 bits. -/
  | invalidPort
  /-- The host looks like an IPv4 address and is none. -/
  | invalidIpv4
  /-- The host stands in brackets and is no IPv6 address. -/
  | invalidIpv6
  /-- The host of a scheme without rules of its own holds a character that separates parts. -/
  | invalidCharacter
  | noScheme
  deriving DecidableEq, Repr

def ParseError.message : ParseError → String
  | .emptyHost => "empty host"
  | .invalidName => "invalid international domain name"
  | .invalidPort => "invalid port number"
  | .invalidIpv4 => "invalid IPv4 address"
  | .invalidIpv6 => "invalid IPv6 address"
  | .invalidCharacter => "invalid domain character"
  | .noScheme => "relative URL without a base"

/-! ## Schemes -/

/-- The port a scheme stands for. -/
def defaultPort? : String → Option Nat
  | "http" => some 80
  | "https" => some 443
  | "ws" => some 80
  | "wss" => some 443
  | "ftp" => some 21
  | _ => none

/-- Whether a scheme is one of those with rules of their own. -/
def isSpecial (scheme : String) : Bool :=
  scheme == "file" || (defaultPort? scheme).isSome

/-! ## Text -/

def pathText (u : Url) : String :=
  match u.path with
  | .whole text => text
  | .segments names => names.foldl (fun text name => text ++ "/" ++ name) ""

/-- User name, password, host and port as text. -/
def authorityText (u : Url) (host : String) : String :=
  let password := if u.password = "" then "" else ":" ++ u.password
  let user := u.username ++ password
  let port := u.port.elim "" fun p => ":" ++ toString p
  (if user = "" then "" else user ++ "@") ++ host ++ port

/-- What stands between the scheme and the path. -/
def frontText (u : Url) : String :=
  match u.host with
  | some host => "//" ++ u.authorityText host
  | none => if u.guarded then "/." else ""

def text (u : Url) : String :=
  u.scheme ++ ":" ++ u.frontText ++ u.pathText ++ u.query.elim "" ("?" ++ ·)
    ++ u.fragment.elim "" ("#" ++ ·)

/-- Whether nothing lies below an address. -/
def cannotBeBase (u : Url) : Bool :=
  match u.path with
  | .whole _ => true
  | .segments _ => false

end Url

end RealmSetup
