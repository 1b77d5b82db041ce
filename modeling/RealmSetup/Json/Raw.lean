import RealmSetup.Json.Number
import RealmSetup.Text.Utf8

/-!
# Reading JSON as far as it goes

`Raw.read` reads one value from the beginning of a text and never fails: where the text is damaged or
ends early the value is *broken* there, and what was read before that place is kept.  A shape is then
looked for in the order of the text, so that whichever comes first decides, a member of the wrong
shape or the broken place.

A text between quotes can be well-formed enough to be skipped and still stand for no text, when it
holds half of a surrogate pair or bytes that are no character; it is then read as `Raw.text none`.
Whatever follows the value is returned unread.
-/

namespace RealmSetup.Json

/-- A value as far as it could be read. -/
inductive Raw where
  /-- No value stands here. -/
  | broken
  | null
  | bool (b : Bool)
  | number (l : Literal)
  /-- A text, unless what stands between the quotes is none. -/
  | text (s : Option String)
  /-- The items of a list, and whether its end was reached. -/
  | array (items : List Raw) (closed : Bool)
  /-- The members of an object, and whether its end was reached. -/
  | object (members : List (Option String × Raw)) (closed : Bool)

namespace Raw

/-- Whether the end of a value was reached. -/
def isComplete : Raw → Bool
  | .broken => false
  | .array _ closed => closed
  | .object _ closed => closed
  | _ => true

/-- Whether a value is of a kind that can be told, so that it can be of the wrong kind. -/
def isTelling : Raw → Bool
  | .broken => false
  | .text none => false
  | .number l => l.number?.isSome
  | _ => true

/-! ## Tokens -/

/-- Drops the blanks in front. -/
def skipBlanks : List Glyph → List Glyph
  | [] => []
  | g :: rest =>
    if g = .char ' ' ∨ g = .char '\t' ∨ g = .char '\n' ∨ g = .char '\r' then skipBlanks rest
    else g :: rest

/-- Drops the given characters in front, if they stand there. -/
def expect : List Char → List Glyph → Option (List Glyph)
  | [], gs => some gs
  | c :: cs, .char d :: gs => if c = d then expect cs gs else none
  | _ :: _, _ => none

/-- Whether a character is a decimal digit. -/
def isDigit (c : Char) : Bool := '0' ≤ c && c ≤ '9'

/-- Splits off the digits in front. -/
def takeDigits : List Glyph → List Char × List Glyph
  | .char c :: gs =>
    if isDigit c then
      let (ds, rest) := takeDigits gs
      (c :: ds, rest)
    else ([], .char c :: gs)
  | gs => ([], gs)

/-- Reads the fraction of a number, if there is one. -/
def readFraction : List Glyph → Option (Option (List Char) × List Glyph)
  | .char '.' :: gs =>
    match takeDigits gs with
    | ([], _) => none
    | (ds, rest) => some (some ds, rest)
  | gs => some (none, gs)

/-- Reads the digits of an exponent whose sign has been read. -/
def readExponentDigits (negative : Bool) (gs : List Glyph) :
    Option (Option (Bool × List Char) × List Glyph) :=
  match takeDigits gs with
  | ([], _) => none
  | (ds, rest) => some (some (negative, ds), rest)

/-- Reads an exponent whose mark has been read. -/
def readExponentSign : List Glyph → Option (Option (Bool × List Char) × List Glyph)
  | .char '+' :: gs => readExponentDigits false gs
  | .char '-' :: gs => readExponentDigits true gs
  | gs => readExponentDigits false gs

/-- Reads the exponent of a number, if there is one. -/
def readExponent : List Glyph → Option (Option (Bool × List Char) × List Glyph)
  | .char 'e' :: gs => readExponentSign gs
  | .char 'E' :: gs => readExponentSign gs
  | gs => some (none, gs)

/-- Reads a number whose sign has been read.  A zero in front stands alone. -/
def readNumber (negative : Bool) (gs : List Glyph) : Option (Literal × List Glyph) :=
  match takeDigits gs with
  | ([], _) => none
  | ('0' :: _ :: _, _) => none
  | (whole, gs) =>
    match readFraction gs with
    | none => none
    | some (fraction, gs) =>
      match readExponent gs with
      | none => none
      | some (exponent, gs) => some (⟨negative, whole, fraction, exponent⟩, gs)

/-- The value of a hexadecimal digit. -/
def hexValue? : Glyph → Option Nat
  | .char c =>
    if '0' ≤ c ∧ c ≤ '9' then some (c.toNat - '0'.toNat)
    else if 'a' ≤ c ∧ c ≤ 'f' then some (c.toNat - 'a'.toNat + 10)
    else if 'A' ≤ c ∧ c ≤ 'F' then some (c.toNat - 'A'.toNat + 10)
    else none
  | .damaged => none

/-- The value of four hexadecimal digits. -/
def hexQuad? (a b c d : Glyph) : Option Nat :=
  match hexValue? a, hexValue? b, hexValue? c, hexValue? d with
  | some a, some b, some c, some d => some (((a * 16 + b) * 16 + c) * 16 + d)
  | _, _, _, _ => none

/-- The character a letter after a backslash stands for. -/
def escaped? : Char → Option Char
  | '"' => some '"'
  | '\\' => some '\\'
  | '/' => some '/'
  | 'b' => some '\x08'
  | 'f' => some '\x0C'
  | 'n' => some '\n'
  | 'r' => some '\r'
  | 't' => some '\t'
  | _ => none

/-- Whether a code unit is the first half of a surrogate pair. -/
def isHighSurrogate (n : Nat) : Bool := 0xD800 ≤ n && n ≤ 0xDBFF

/-- Whether a code unit is the second half of a surrogate pair. -/
def isLowSurrogate (n : Nat) : Bool := 0xDC00 ≤ n && n ≤ 0xDFFF

/-- The text between quotes so far, or nothing once it is known to be none. -/
abbrev Collected := Option (List Char)

/-- Takes in one more character. -/
def Collected.push (acc : Collected) (c : Char) : Collected :=
  acc.map (c :: ·)

/-- Reads a text up to its closing quote, where `acc` holds its characters so far, the last one
first. -/
def readText (acc : Collected) : List Glyph → Option (Option String × List Glyph)
  | [] => none
  | .damaged :: gs => readText none gs
  | .char '"' :: gs => some (acc.map fun cs => String.ofList cs.reverse, gs)
  | .char '\\' :: .char 'u' :: a :: b :: c :: d :: .char '\\' :: .char 'u' :: e :: f :: g :: h :: gs =>
    match hexQuad? a b c d with
    | none => none
    | some n =>
      if isHighSurrogate n then
        match hexQuad? e f g h with
        | none => none
        | some m =>
          if isLowSurrogate m then
            readText (acc.push (Char.ofNat (0x10000 + (n - 0xD800) * 0x400 + (m - 0xDC00)))) gs
          else readText none gs
      else
        let acc := if isLowSurrogate n then none else acc.push (Char.ofNat n)
        readText acc (.char '\\' :: .char 'u' :: e :: f :: g :: h :: gs)
  | .char '\\' :: .char 'u' :: a :: b :: c :: d :: gs =>
    match hexQuad? a b c d with
    | none => none
    | some n =>
      readText (if isHighSurrogate n || isLowSurrogate n then none else acc.push (Char.ofNat n)) gs
  | .char '\\' :: .char c :: gs =>
    match escaped? c with
    | none => none
    | some e => readText (acc.push e) gs
  | .char '\\' :: _ => none
  | .char c :: gs => if c.toNat < 0x20 then none else readText (acc.push c) gs
  termination_by gs => gs.length

/-! ## Values -/

/-- The value of a word of which the first letter has been read. -/
def readWord (rest : List Char) (value : Raw) (gs : List Glyph) : Raw × List Glyph :=
  match expect rest gs with
  | none => (.broken, [])
  | some gs => (value, gs)

/-- The value of a number, if there is one. -/
def numberOrBroken : Option (Literal × List Glyph) → Raw × List Glyph
  | none => (.broken, [])
  | some (l, gs) => (.number l, gs)

mutual

/-- Reads one value, blanks in front allowed.  No text needs more `fuel` than twice its length. -/
def readValue : Nat → List Glyph → Raw × List Glyph
  | 0, _ => (.broken, [])
  | fuel + 1, gs =>
    match skipBlanks gs with
    | .char 'n' :: gs => readWord ['u', 'l', 'l'] .null gs
    | .char 't' :: gs => readWord ['r', 'u', 'e'] (.bool true) gs
    | .char 'f' :: gs => readWord ['a', 'l', 's', 'e'] (.bool false) gs
    | .char '"' :: gs =>
      match readText (some []) gs with
      | none => (.broken, [])
      | some (s, gs) => (.text s, gs)
    | .char '[' :: gs =>
      match skipBlanks gs with
      | .char ']' :: gs => (.array [] true, gs)
      | gs =>
        let (items, closed, gs) := readItems fuel gs
        (.array items closed, gs)
    | .char '{' :: gs =>
      match skipBlanks gs with
      | .char '}' :: gs => (.object [] true, gs)
      | .char '"' :: gs =>
        let (members, closed, gs) := readMembers fuel gs
        (.object members closed, gs)
      | _ => (.object [] false, [])
    | .char '-' :: gs => numberOrBroken (readNumber true gs)
    | gs => numberOrBroken (readNumber false gs)

/-- Reads the items of a list from the beginning of one of them, with the closing bracket. -/
def readItems : Nat → List Glyph → List Raw × Bool × List Glyph
  | 0, _ => ([], false, [])
  | fuel + 1, gs =>
    let (item, gs) := readValue fuel gs
    if item.isComplete then
      match skipBlanks gs with
      | .char ',' :: gs =>
        let (items, closed, gs) := readItems fuel gs
        (item :: items, closed, gs)
      | .char ']' :: gs => ([item], true, gs)
      | _ => ([item], false, [])
    else ([item], false, [])

/-- Reads the members of an object from behind the quote that opens a name, with the closing brace. -/
def readMembers : Nat → List Glyph → List (Option String × Raw) × Bool × List Glyph
  | 0, _ => ([], false, [])
  | fuel + 1, gs =>
    match readText (some []) gs with
    | none => ([], false, [])
    | some (name, gs) =>
      match skipBlanks gs with
      | .char ':' :: gs =>
        let (value, gs) := readValue fuel gs
        if value.isComplete then
          match skipBlanks gs with
          | .char ',' :: gs =>
            match skipBlanks gs with
            | .char '"' :: gs =>
              let (members, closed, gs) := readMembers fuel gs
              ((name, value) :: members, closed, gs)
            | _ => ([(name, value)], false, [])
          | .char '}' :: gs => ([(name, value)], true, gs)
          | _ => ([(name, value)], false, [])
        else ([(name, value)], false, [])
      | _ => ([(name, .broken)], false, [])

end

/-- Reads one value from the beginning of a text; the second part is what follows it. -/
def read (gs : List Glyph) : Raw × List Glyph :=
  readValue (2 * gs.length + 2) gs

end Raw

end RealmSetup.Json
