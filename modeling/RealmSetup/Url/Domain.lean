import RealmSetup.Text.Canonical
import RealmSetup.Url.Direction
import RealmSetup.Url.Joining
import RealmSetup.Url.NameTable
import RealmSetup.Url.Percent
import RealmSetup.Url.Punycode

/-!
# Domain names

Names of domains are compared in one form.  `Domain.ofText?` brings a name into it: characters that
look the same are replaced by one of them, those that show nothing are left out, the rest is composed,
and the name is divided into labels at its points.  `Domain.ascii` is the form in which a name is
looked up, with the labels outside ASCII in Punycode.

A label that begins with `xn--` is one in Punycode already.  It has to stand for a label outside ASCII
that is in the common form.
-/

namespace RealmSetup.Url

/-- A label of a domain name. -/
structure Label where
  shown : List Char
  /-- The characters it is looked up by. -/
  ascii : List Char
  deriving DecidableEq, Repr

/-- A domain name: its labels, the first one in front. -/
structure Domain where
  labels : List Label
  deriving DecidableEq, Repr

/-! ## Characters -/

/-- The characters a name may be written with. -/
def allowedRanges : List (Nat × Nat) := Text.tableRanges allowedTable

/-- The characters that are left out of a name. -/
def ignoredRanges : List (Nat × Nat) := Text.tableRanges ignoredTable

/-- The runs of characters with one other character in place of each. -/
def shiftRows : List (List Nat) := Text.tableRows shiftTable

/-- The characters with others in their place. -/
def replacementRows : List (List Nat) := Text.tableRows replacementTable

/-- The code point in place of another, by one run. -/
def shiftBy? (n : Nat) : List Nat → Option Nat
  | [first, last, step, target] =>
    if first ≤ n && n ≤ last then
      if step = 0 then some target
      else if (n - first) % step = 0 then some (target + (n - first)) else none
    else none
  | _ => none

/-- The code points in place of another, if it is replaced. -/
def replacement? (n : Nat) : Option (List Nat) :=
  match shiftRows.findSome? (shiftBy? n) with
  | some m => some [m]
  | none => (replacementRows.find? fun row => row.head? = some n).map (·.drop 1)

/-- What becomes of a character in a name; nothing if no name may be written with it. -/
def mapChar? (c : Char) : Option (List Char) :=
  let n := c.toNat
  if n < 0x80 then some [c.toLower]
  else if Text.inRanges ignoredRanges n then some []
  else if Text.inRanges allowedRanges n then
    match replacement? n with
    | some ms => some (ms.map Char.ofNat)
    | none => some [c]
  else none

/-- Whether a character separates parts of an address, so that it stands in no host. -/
def isForbiddenInHost (c : Char) : Bool :=
  c == '\x00' || c == '\t' || c == '\n' || c == '\r' || c == ' ' || c == '#' || c == '/' || c == ':'
    || c == '<' || c == '>' || c == '?' || c == '@' || c == '[' || c == '\\' || c == ']' || c == '^'
    || c == '|'

/-- Whether a character stands in no domain name. -/
def isForbiddenInDomain (c : Char) : Bool :=
  isForbiddenInHost c || Percent.isControl c || c == '%'

def isAscii (c : Char) : Bool := c.toNat < 0x80

/-! ## Labels -/

/-- How many characters a label outside ASCII may have. -/
def longestLabel : Nat := 1000

/-- How many characters may follow `xn--` in a label. -/
def longestEncoded : Nat := 2000

def common? (cs : List Char) : Option (List Char) :=
  (cs.mapM mapChar?).map fun parts => Text.composed parts.flatten

/-- Whether a label in the common form may stand in a name, other labels aside. -/
def isLabel (shown : List Char) : Bool :=
  !shown.any isForbiddenInDomain
    && (shown.all isAscii
      || (!shown.head?.any isMark && joinersFit [] shown && shown.length ≤ longestLabel))

namespace Label

/-- The label that a part of a name in the common form is. -/
def ofText? (cs : List Char) : Option Label :=
  match cs with
  | 'x' :: 'n' :: '-' :: '-' :: encoded =>
    if encoded.isEmpty || encoded.getLast? = some '-' || longestEncoded < encoded.length then none
    else do
      let shown ← Punycode.decode? encoded
      if common? shown = some shown && isLabel shown then some ⟨shown, cs⟩ else none
  | _ =>
    if isLabel cs then
      some ⟨cs, if cs.all isAscii then cs else 'x' :: 'n' :: '-' :: '-' :: Punycode.encode cs⟩
    else none

end Label

/-! ## Names -/

namespace Domain

/-- Whether the direction of every label is plain, if there is one that goes from right to left. -/
def hasDirections (labels : List Label) : Bool :=
  !labels.any (fun l => l.shown.any turnsDirection) || labels.all fun l => hasDirection l.shown

/-- The name that a text stands for. -/
def ofText? (cs : List Char) : Option Domain := do
  let labels ← ((← common? cs).splitOn '.').mapM Label.ofText?
  if hasDirections labels then some ⟨labels⟩ else none

/-- The form in which a name is looked up. -/
def ascii (d : Domain) : List Char :=
  ['.'].intercalate (d.labels.map Label.ascii)

end Domain

end RealmSetup.Url
