import RealmSetup.Url.Basic
import RealmSetup.Url.Domain

/-!
# Hosts

The host of an address is a name, an IPv4 address or an IPv6 address in brackets.  Schemes with rules
of their own read names as domain names, after percent-encoding has been undone, and a name whose last
label is a number has to be an IPv4 address, whose numbers may be decimal, octal (with `0` in front) or
hexadecimal (with `0x`).  Other schemes keep the name as it is written.

Addresses are printed in one form: four decimal numbers, or eight hexadecimal groups of which the
first longest run of two or more zeros is left out.
-/

namespace RealmSetup.Url

/-! ## IPv4 -/

/-- A number read in a base of at most sixteen, most significant digit first. -/
def numberIn? (base : Nat) (digits : List Char) : Option Nat :=
  digits.foldlM (fun n c => do
    let d ← Percent.hexValue? c
    if d < base then some (n * base + d) else none) 0

/-- A number of an IPv4 address, its base told by its beginning. -/
def ipv4Number? : List Char → Option Nat
  | [] => none
  | '0' :: 'x' :: rest => numberIn? 16 rest
  | '0' :: 'X' :: rest => numberIn? 16 rest
  | '0' :: d :: rest => numberIn? 8 (d :: rest)
  | digits => numberIn? 10 digits

/-- The labels of a name without the empty one after a final point. -/
def labels (name : List Char) : List (List Char) :=
  let all := name.splitOn '.'
  if all.getLast? = some [] then all.dropLast else all

/-- Whether the last label of a name is a number, so that the name has to be an IPv4 address. -/
def endsInNumber (name : List Char) : Bool :=
  match (labels name).getLast? with
  | none => false
  | some last => (!last.isEmpty && last.all Char.isDigit) || (ipv4Number? last).isSome

/-- The value of an IPv4 address of one to four numbers, the last of which fills the places that are
left. -/
def ipv4Value? (numbers : List Nat) : Option Nat :=
  match numbers.getLast? with
  | none => none
  | some last =>
    let front := numbers.dropLast
    if 4 < numbers.length || front.any (255 < ·) || Nat.pow 256 (4 - front.length) ≤ last then none
    else some (front.foldr (fun n (place, sum) => (place + 1, sum + n * Nat.pow 256 place))
      (4 - front.length, last)).2

/-- The four numbers of an IPv4 address. -/
def ipv4Text (value : Nat) : String :=
  String.intercalate "." ([3, 2, 1, 0].map fun place => toString (value / Nat.pow 256 place % 256))

def ipv4 (name : List Char) : Except ParseError String :=
  match (labels name).mapM ipv4Number? with
  | none => .error .invalidIpv4
  | some numbers =>
    match ipv4Value? numbers with
    | none => .error .invalidIpv4
    | some value => .ok (ipv4Text value)

/-! ## IPv6 -/

/-- A group of one to four hexadecimal digits. -/
def group? (digits : List Char) : Option Nat :=
  if digits.isEmpty || 4 < digits.length then none else numberIn? 16 digits

/-- A number of up to 255 without zeros in front. -/
def byte? (digits : List Char) : Option Nat :=
  if digits.isEmpty || (1 < digits.length && digits.head? = some '0') then none
  else (numberIn? 10 digits).bind fun n => if n ≤ 255 then some n else none

/-- The groups between colons; at the end of the address the last may be an IPv4 address, which makes
two groups. -/
def groups? (atEnd : Bool) : List (List Char) → Option (List Nat)
  | [] => some []
  | [last] =>
    if atEnd && last.contains '.' then
      match (last.splitOn '.').mapM byte? with
      | some [a, b, c, d] => some [a * 256 + b, c * 256 + d]
      | _ => none
    else (group? last).map fun g => [g]
  | digits :: rest => do
    let g ← group? digits
    let more ← groups? atEnd rest
    return g :: more

/-- The groups in a text between colons, which may be empty. -/
def groupsIn? (atEnd : Bool) (cs : List Char) : Option (List Nat) :=
  if cs.isEmpty then some [] else groups? atEnd (cs.splitOn ':')

/-- Divides a text at the first double colon. -/
def splitGap : List Char → Option (List Char × List Char)
  | [] => none
  | ':' :: ':' :: rest => some ([], rest)
  | c :: rest => (splitGap rest).map fun (before, after) => (c :: before, after)

/-- The eight groups of an IPv6 address. -/
def ipv6Groups? (cs : List Char) : Option (List Nat) :=
  match splitGap cs with
  | some (before, after) => do
    let front ← groupsIn? false before
    let back ← groupsIn? true after
    if front.length + back.length ≤ 7 then
      some (front ++ List.replicate (8 - front.length - back.length) 0 ++ back)
    else none
  | none => do
    let all ← groupsIn? true cs
    if all.length = 8 then some all else none

/-- The length of the longest run of zeros that begins within a list, and what stands before it. -/
def longestZeros : List Nat → List Nat × Nat
  | [] => ([], 0)
  | g :: rest =>
    let here := ((g :: rest).takeWhile (· == 0)).length
    let (before, later) := longestZeros rest
    if later ≤ here then ([], here) else (g :: before, later)

/-- Groups with colons between them. -/
def groupsText (groups : List Nat) : String :=
  String.intercalate ":" (groups.map fun g => String.ofList (Nat.toDigits 16 g))

/-- The text of an IPv6 address, in brackets. -/
def ipv6Text (groups : List Nat) : String :=
  let (before, zeros) := longestZeros groups
  let inside :=
    if zeros < 2 then groupsText groups
    else groupsText before ++ "::" ++ groupsText (groups.drop (before.length + zeros))
  "[" ++ inside ++ "]"

/-- The host in brackets, of which the opening one has been read. -/
def ipv6 (cs : List Char) : Except ParseError String :=
  if cs.getLast? = some ']' then
    match ipv6Groups? cs.dropLast with
    | some groups => .ok (ipv6Text groups)
    | none => .error .invalidIpv6
  else .error .invalidIpv6

/-! ## Names -/

/-- The host of an address of a scheme with rules of its own. -/
def domainHost (cs : List Char) : Except ParseError String :=
  match cs with
  | '[' :: rest => ipv6 rest
  | _ =>
    match Utf8.decode? (Percent.decode cs) with
    | none => .error .invalidName
    | some text =>
      match Domain.ofText? text.toList with
      | none => .error .invalidName
      | some domain =>
        let name := domain.ascii
        if name.isEmpty then .error .emptyHost
        else if endsInNumber name then ipv4 name
        else .ok (String.ofList name)

/-- The host of an address of another scheme. -/
def plainHost (cs : List Char) : Except ParseError String :=
  match cs with
  | '[' :: rest => ipv6 rest
  | _ =>
    if cs.any isForbiddenInHost then .error .invalidCharacter
    else .ok (String.ofList (Percent.encode Percent.isControl cs))

end RealmSetup.Url
