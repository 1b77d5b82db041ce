import RealmSetup.Json.Number
import RealmSetup.KeyMap

/-!
# JSON values

A value is null, a truth value, a number, a text, a list of values, or an object.  The members of an
object are listed in the order of their names, each name once; `Json.ofMap` and `Json.members` build
objects that way.

`compact` prints a value without blanks.
-/

namespace RealmSetup

/-- A JSON value. -/
inductive Json where
  | null
  | bool (b : Bool)
  | number (n : Json.Number)
  | text (s : String)
  | array (items : List Json)
  /-- Named values, in the order of their names. -/
  | object (members : List (String × Json))

namespace Json

instance : Inhabited Json := ⟨null⟩

/-! ## Building values -/

def int (i : Int) : Json := .number (.int i)

def nat (n : Nat) : Json := .number (.int n)

def texts (ss : List String) : Json := .array (ss.map .text)

/-- A text that may be missing, shown as `null` then. -/
def textOrNull (s : Option String) : Json := (s.map Json.text).getD .null

def ofMap (m : KeyMap Json) : Json := .object m.entries

/-- An object with the given members, the last one of a name winning. -/
def members (ms : List (String × Json)) : Json := ofMap (KeyMap.ofList ms)

def ofTexts (m : KeyMap String) : Json := ofMap (m.map .text)

/-! ## Looking into values -/

/-- The member of an object with the given name. -/
def get? (j : Json) (name : String) : Option Json :=
  match j with
  | .object ms => KeyMap.lookup name ms
  | _ => none

def text? : Json → Option String
  | .text s => some s
  | _ => none

def int? : Json → Option Int
  | .number (.int i) => some i
  | _ => none

def bool? : Json → Option Bool
  | .bool b => some b
  | _ => none

def array? : Json → Option (List Json)
  | .array items => some items
  | _ => none

def object? : Json → Option (List (String × Json))
  | .object ms => some ms
  | _ => none

/-! ## Printing -/

/-- A hexadecimal digit in lower case. -/
def hexDigit (n : Nat) : Char := Nat.digitChar n

/-- How a character stands inside quotes: quote, backslash and control characters are escaped, the
rest stand for themselves. -/
def escape (c : Char) : List Char :=
  if c = '"' then ['\\', '"']
  else if c = '\\' then ['\\', '\\']
  else if c = '\n' then ['\\', 'n']
  else if c = '\r' then ['\\', 'r']
  else if c = '\t' then ['\\', 't']
  else if c = '\x08' then ['\\', 'b']
  else if c = '\x0C' then ['\\', 'f']
  else if c.toNat < 0x20 then
    ['\\', 'u', '0', '0', hexDigit (c.toNat / 16), hexDigit (c.toNat % 16)]
  else [c]

def quote (s : String) : List Char :=
  '"' :: s.toList.flatMap escape ++ ['"']

mutual

/-- A value without blanks. -/
def compact : Json → List Char
  | .null => ['n', 'u', 'l', 'l']
  | .bool true => ['t', 'r', 'u', 'e']
  | .bool false => ['f', 'a', 'l', 's', 'e']
  | .number n => n.text
  | .text s => quote s
  | .array [] => ['[', ']']
  | .array (j :: items) => '[' :: compact j ++ compactItems items
  | .object [] => ['{', '}']
  | .object ((name, j) :: ms) => '{' :: quote name ++ ':' :: compact j ++ compactMembers ms

/-- The items of a list after the first, with the bracket that closes it. -/
def compactItems : List Json → List Char
  | [] => [']']
  | j :: items => ',' :: compact j ++ compactItems items

/-- The members of an object after the first, with the brace that closes it. -/
def compactMembers : List (String × Json) → List Char
  | [] => ['}']
  | (name, j) :: ms => ',' :: quote name ++ ':' :: compact j ++ compactMembers ms

end

/-- The text of a value without blanks. -/
def render (j : Json) : String := String.ofList j.compact

end Json

end RealmSetup
