import RealmSetup.Url.Basic
import RealmSetup.Url.Percent

/-!
# Paths

A path is worked off segment by segment.  `Trail` is what has been passed so far, and `Trail.enter`
adds one segment: `.` stays at a place, `..` goes back to the place above, and every other segment goes
on, percent-encoded.

Segments that name a drive, a letter with a colon or bar, are never left by `..`.  Addresses of files
treat a drive at the root as one of this machine: the bar becomes a colon and the host is dropped.
There, what follows a drive after a line break is a segment of its own.
-/

namespace RealmSetup.Url

/-! ## Segments -/

/-- Whether a character is dropped anywhere in an address. -/
def isBreak (c : Char) : Bool := c == '\t' || c == '\n' || c == '\r'

/-- A text without the characters that are dropped anywhere. -/
def withoutBreaks (cs : List Char) : List Char := cs.filter fun c => !isBreak c

/-- Whether a segment stands for the place it is at. -/
def isSingleDot (segment : List Char) : Bool :=
  let s := segment.map Char.toLower
  s == ['.'] || s == ['%', '2', 'e']

/-- Whether a segment stands for the place above. -/
def isDoubleDot (segment : List Char) : Bool :=
  let s := segment.map Char.toLower
  s == ['.', '.'] || s == ['.', '%', '2', 'e'] || s == ['%', '2', 'e', '.']
    || s == ['%', '2', 'e', '%', '2', 'e']

/-- Whether a segment is the name of a drive. -/
def isDrive : List Char → Bool
  | [letter, mark] => letter.isAlpha && (mark == ':' || mark == '|')
  | _ => false

/-- Whether a segment begins with the name of a drive, which ends with the segment or at a
backslash. -/
def beginsWithDrive : List Char → Bool
  | letter :: mark :: rest => isDrive [letter, mark] && rest.head?.all (· == '\\')
  | _ => false

/-- Divides a segment after the name of a drive, if a line break stands there and something follows
it. -/
def splitAtDrive? (raw : List Char) : Option (List Char × List Char) :=
  match withoutBreaks raw with
  | letter :: ':' :: c :: more =>
    if letter.isAlpha && ((raw.dropWhile (· != ':')).drop 1).head?.any isBreak then
      some ([letter, ':'], c :: more)
    else none
  | _ => none

/-! ## Walking -/

/-- The segments of a path that have been passed. -/
structure Trail where
  /-- The segments, percent-encoded. -/
  names : List (List Char)
  /-- Whether a drive of this machine has been entered. -/
  onDrive : Bool

namespace Trail

def root : Trail := ⟨[], false⟩

/-- The place above; a drive is never left. -/
def parent (t : Trail) : Trail :=
  if t.names.getLast?.any beginsWithDrive then t else { t with names := t.names.dropLast }

/-- A place named by its slash: at the end of a whole path an empty segment stands for it. -/
def settle (last : Bool) (t : Trail) : Trail :=
  if last then { t with names := t.names ++ [[]] } else t

/-- Adds one segment, which may hold line breaks, with `encode` for its text. -/
def enter (file last : Bool) (encode : List Char → List Char) (t : Trail) (raw : List Char) : Trail :=
  let segment := encode (withoutBreaks raw)
  if isDoubleDot segment then t.parent.settle last
  else if isSingleDot segment then t.settle last
  else if file && t.names.isEmpty then
    if isDrive segment then ⟨[segment.take 1 ++ [':']], true⟩
    else
      match splitAtDrive? raw with
      | some (drive, rest) => { t with names := [drive, encode rest] }
      | none => { t with names := [segment] }
  else { t with names := t.names ++ [segment] }

/-- Adds segments in order, the last of them at the end of the path. -/
def walk (file : Bool) (encode : List Char → List Char) (t : Trail) : List (List Char) → Trail
  | [] => t
  | [last] => t.enter file true encode last
  | segment :: rest => walk file encode (t.enter file false encode segment) rest

/-- Drops empty segments in front, as long as others follow. -/
def dropEmptyFront : List (List Char) → List (List Char)
  | [] :: segment :: rest => dropEmptyFront (segment :: rest)
  | names => names

/-- The path that has been walked; that of a file does not begin with an empty segment. -/
def path (file : Bool) (t : Trail) : Path :=
  .segments ((if file then dropEmptyFront t.names else t.names).map String.ofList)

end Trail

end RealmSetup.Url
