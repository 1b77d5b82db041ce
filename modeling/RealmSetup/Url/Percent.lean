import RealmSetup.Text.Utf8

/-!
# Percent-encoding

Inside an address a character that would be misread is written as its bytes, each as a percent sign
and two hexadecimal digits.  Which ASCII characters are written so depends on the part of the
address; characters outside ASCII always are.  The parts differ by the sets below, each of them a
condition on a character.

Form fields follow a rule of their own: letters, digits and `*-._` stand for themselves, a space
becomes a plus sign, and everything else is percent-encoded.
-/

namespace RealmSetup.Percent

/-! ## Sets of characters -/

/-- Control characters. -/
def isControl (c : Char) : Bool := c.toNat < 0x20 || c.toNat == 0x7F

/-- Characters encoded in a fragment. -/
def inFragmentSet (c : Char) : Bool :=
  isControl c || c == ' ' || c == '"' || c == '<' || c == '>' || c == '\x60'

/-- Characters encoded in a path. -/
def inPathSet (c : Char) : Bool :=
  inFragmentSet c || c == '#' || c == '?' || c == '\x7b' || c == '\x7d'

/-- Characters encoded in a user name or password. -/
def inUserinfoSet (c : Char) : Bool :=
  inPathSet c || c == '/' || c == ':' || c == ';' || c == '=' || c == '@' || c == '[' || c == '\\'
    || c == ']' || c == '^' || c == '|'

/-- Characters encoded in one segment that is added to a path.  A backslash separates segments in
addresses of a special scheme. -/
def inSegmentSet (special : Bool) (c : Char) : Bool :=
  inPathSet c || c == '/' || c == '%' || (special && c == '\\')

/-- Characters encoded in a query. -/
def inQuerySet (special : Bool) (c : Char) : Bool :=
  isControl c || c == ' ' || c == '"' || c == '#' || c == '<' || c == '>' || (special && c == '\'')

/-! ## Encoding -/

/-- A hexadecimal digit in upper case. -/
def hexDigit (n : Nat) : Char :=
  if n < 10 then Char.ofNat ('0'.toNat + n) else Char.ofNat ('A'.toNat + (n - 10))

/-- A byte as a percent sign and two digits. -/
def encodeByte (b : UInt8) : List Char :=
  ['%', hexDigit (b.toNat / 16), hexDigit (b.toNat % 16)]

/-- A character as its bytes. -/
def encodeChar (c : Char) : List Char :=
  (String.utf8EncodeChar c).flatMap encodeByte

/-- Encodes the characters of a set and those outside ASCII. -/
def encode (inSet : Char → Bool) (cs : List Char) : List Char :=
  cs.flatMap fun c => if 0x80 ≤ c.toNat || inSet c then encodeChar c else [c]

/-- The value of a hexadecimal digit. -/
def hexValue? (c : Char) : Option Nat :=
  if '0' ≤ c ∧ c ≤ '9' then some (c.toNat - '0'.toNat)
  else if 'a' ≤ c ∧ c ≤ 'f' then some (c.toNat - 'a'.toNat + 10)
  else if 'A' ≤ c ∧ c ≤ 'F' then some (c.toNat - 'A'.toNat + 10)
  else none

/-- The bytes a text stands for; a percent sign without two digits stands for itself. -/
def decode : List Char → List UInt8
  | [] => []
  | '%' :: a :: b :: rest =>
    match hexValue? a, hexValue? b with
    | some a, some b => UInt8.ofNat (a * 16 + b) :: decode rest
    | _, _ => 0x25 :: decode (a :: b :: rest)
  | c :: rest => String.utf8EncodeChar c ++ decode rest

/-! ## Form fields -/

/-- Whether a character stands for itself in a form field. -/
def plainInForm (c : Char) : Bool :=
  c.isAlphanum || c == '*' || c == '-' || c == '.' || c == '_'

def formField (s : String) : List Char :=
  s.toList.flatMap fun c =>
    if plainInForm c then [c] else if c = ' ' then ['+'] else encodeChar c

def form : List (String × String) → List Char
  | [] => []
  | [(name, value)] => formField name ++ '=' :: formField value
  | (name, value) :: more => formField name ++ '=' :: formField value ++ '&' :: form more

end RealmSetup.Percent
