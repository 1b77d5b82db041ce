import RealmSetup.Url.Host
import RealmSetup.Url.Path

/-!
# Reading addresses

`Url.parse` reads an address by the URL standard.  Blanks at both ends and tabs and line breaks
anywhere are dropped first.  Then come, in this order: the scheme; for schemes with rules of their
own any number of slashes of either kind, for others two slashes if there are any; user name and
password up to the last `@`, host and port; the path, in which `.` and `..` are worked off segment by
segment; the query and the fragment.
-/

namespace RealmSetup.Url

open Percent

/-! ## The parts of a text -/

/-- The path that begins with a slash, which has been read. -/
def trailOf (scheme : String) (cs : List Char) : Trail :=
  let special := isSpecial scheme
  Trail.root.walk (scheme == "file") (encode inPathSet)
    (cs.splitOnP fun c => c == '/' || (special && c == '\\'))

/-- An address without its last parts, which `finish` adds. -/
structure Front where
  scheme : String
  username : List Char
  password : List Char
  host : Option String
  port : Option Nat

/-- Divides a text before the first character that `stop` accepts. -/
def upTo (stop : Char → Bool) (cs : List Char) : List Char × List Char :=
  (cs.takeWhile fun c => !stop c, cs.dropWhile fun c => !stop c)

/-- Whether a character ends the path. -/
def endsPath (c : Char) : Bool := c == '?' || c == '#'

/-- Whether a character ends the authority. -/
def endsAuthority (special : Bool) (c : Char) : Bool :=
  c == '/' || endsPath c || (special && c == '\\')

/-- Completes an address with its path and with the query and fragment that follow it. -/
def finish (front : Front) (path : Path) (rest : List Char) : Url :=
  let (queryPart, fragmentPart) := upTo (· == '#') rest
  { scheme := front.scheme
    username := String.ofList front.username
    password := String.ofList front.password
    host := front.host
    port := front.port
    path
    guarded := front.host.isNone && path.looksLikeHost
    query :=
      match queryPart with
      | '?' :: cs => some (String.ofList (encode (inQuerySet (isSpecial front.scheme)) cs))
      | _ => none
    fragment :=
      match fragmentPart with
      | '#' :: cs => some (String.ofList (encode inFragmentSet cs))
      | _ => none }

/-- Reads the path and what follows it after an authority. -/
def finishFrom (front : Front) (cs : List Char) : Url :=
  let (pathPart, rest) := upTo endsPath cs
  let special := isSpecial front.scheme
  match pathPart with
  | [] => finish front (if special then .segments [""] else .segments []) rest
  | c :: cs' =>
    let separated := c == '/' || (special && c == '\\')
    finish front ((trailOf front.scheme (if separated then cs' else pathPart)).path false) rest

/-- Divides an authority at its last `@`. -/
def splitUser (cs : List Char) : Option (List Char × List Char) :=
  let (back, front) := upTo (· == '@') cs.reverse
  match front with
  | _ :: user => some (user.reverse, back.reverse)
  | [] => none

/-- The length of a host in front of a port: up to the first colon outside brackets. -/
def hostLength (inBrackets : Bool) : List Char → Nat
  | [] => 0
  | ':' :: rest => if inBrackets then hostLength inBrackets rest + 1 else 0
  | '[' :: rest => hostLength true rest + 1
  | ']' :: rest => hostLength false rest + 1
  | _ :: rest => hostLength inBrackets rest + 1

/-- The port a text names; none if it names none or the one its scheme stands for. -/
def portOf (scheme : String) (digits : List Char) : Except ParseError (Option Nat) :=
  if digits.isEmpty then .ok none
  else if digits.all Char.isDigit then
    match numberIn? 10 digits with
    | some n =>
      if 65535 < n then .error .invalidPort
      else .ok (if defaultPort? scheme = some n then none else some n)
    | none => .error .invalidPort
  else .error .invalidPort

/-- Reads an authority and what follows it. -/
def parseAuthority (scheme : String) (cs : List Char) : Except ParseError Url := do
  let special := isSpecial scheme
  let (authority, rest) := upTo (endsAuthority special) cs
  let (user, place) := (splitUser authority).getD ([], authority)
  if user.isEmpty && place.isEmpty && !authority.isEmpty && !rest.isEmpty then
    throw .emptyHost
  let (name, password) := upTo (· == ':') user
  let username := encode inUserinfoSet name
  let password := encode inUserinfoSet (password.drop 1)
  let length := hostLength false place
  let hostPart := place.take length
  let portPart := place.drop length
  if special && hostPart.isEmpty then throw .emptyHost
  let host ← if special then domainHost hostPart else plainHost hostPart
  if host = "" && !portPart.isEmpty then throw .emptyHost
  let (digits, stray) := upTo (· == '\\') (portPart.drop 1)
  let port ← portOf scheme digits
  if host = "" && !(username.isEmpty && password.isEmpty) then throw .emptyHost
  return finishFrom ⟨scheme, username, password, some host, port⟩ (stray ++ rest)

/-- An address of a file on a host, given its path and what follows it. -/
def fileAt (host : String) (cs : List Char) : Url :=
  let (pathPart, rest) := upTo endsPath cs
  let trail := trailOf "file" pathPart
  finish ⟨"file", [], [], some (if trail.onDrive then "" else host), none⟩ (trail.path true)
    (withoutBreaks rest)

/-- What stands after a slash of either kind, if a text begins with one. -/
def afterSlash? (cs : List Char) : Option (List Char) :=
  match cs.dropWhile isBreak with
  | '/' :: rest => some rest
  | '\\' :: rest => some rest
  | _ => none

/-- Reads what follows the scheme `file`, line breaks included.  The slash after a host belongs to the
path, of which it is the beginning; without a host the path begins before it. -/
def parseFile (cs : List Char) : Except ParseError Url := do
  match afterSlash? cs with
  | none => return fileAt "" cs
  | some afterFirst =>
    match afterSlash? afterFirst with
    | none => return fileAt "" afterFirst
    | some afterBoth =>
      let (hostPart, rest) := upTo (endsAuthority true) afterBoth
      let name := withoutBreaks hostPart
      if isDrive name then return fileAt "" afterBoth
      let host ← if name.isEmpty then .ok "" else domainHost name
      if host = "" || host = "localhost" then return fileAt "" rest
      return fileAt host ((afterSlash? rest).getD rest)

/-- Reads what follows a scheme other than `file` and its colon. -/
def parseAfterScheme (scheme : String) (cs : List Char) : Except ParseError Url :=
  let front : Front := ⟨scheme, [], [], none, none⟩
  if isSpecial scheme then parseAuthority scheme (cs.dropWhile fun c => c == '/' || c == '\\')
  else
    match cs with
    | '/' :: '/' :: rest => parseAuthority scheme rest
    | '/' :: rest =>
      let (pathPart, rest) := upTo endsPath rest
      .ok (finish front ((trailOf scheme pathPart).path false) rest)
    | _ =>
      let (pathPart, rest) := upTo endsPath cs
      .ok (finish front (.whole (String.ofList (encode isControl pathPart))) rest)

/-! ## Whole texts -/

/-- Whether a character is dropped at both ends of a text. -/
def isEdge (c : Char) : Bool := c.toNat ≤ 0x20

/-- A text without the characters that are dropped at its ends. -/
def trimmed (s : String) : List Char :=
  ((s.toList.dropWhile isEdge).reverse.dropWhile isEdge).reverse

/-- Whether a character stands in a scheme after its first. -/
def isSchemeChar (c : Char) : Bool :=
  c.isAlphanum || c == '+' || c == '-' || c == '.'

def parse (s : String) : Except ParseError Url :=
  let raw := trimmed s
  let (name, rest) := upTo (fun c => !isSchemeChar c) (withoutBreaks raw)
  match rest with
  | ':' :: rest =>
    if name.head?.any Char.isAlpha then
      let scheme := String.ofList (name.map Char.toLower)
      if scheme = "file" then parseFile ((raw.dropWhile (· != ':')).drop 1)
      else parseAfterScheme scheme rest
    else .error .noScheme
  | _ => .error .noScheme

end RealmSetup.Url
