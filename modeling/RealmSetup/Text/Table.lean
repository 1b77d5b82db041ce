/-!
# Tables of code points

A large table is kept as text: rows with blanks or line breaks between them, each row some numbers in
hexadecimal with commas between them.  Small tables are lists of ranges, each with its first and its
last code point.
-/

namespace RealmSetup.Text

/-- The value of a hexadecimal digit in upper case. -/
def tableDigit (c : Char) : Nat :=
  if c.isDigit then c.toNat - '0'.toNat else c.toNat - 'A'.toNat + 10

def tableRow (cs : List Char) : List Nat :=
  (cs.splitOn ',').map fun digits => digits.foldl (fun n c => n * 16 + tableDigit c) 0

def tableRows (table : String) : List (List Nat) :=
  ((table.toList.splitOnP fun c => c == ' ' || c == '\n').filter (!·.isEmpty)).map tableRow

/-- A row of one or two numbers as a range. -/
def rangeOfRow : List Nat → Option (Nat × Nat)
  | [n] => some (n, n)
  | [first, last] => some (first, last)
  | _ => none

def tableRanges (table : String) : List (Nat × Nat) :=
  (tableRows table).filterMap rangeOfRow

/-- Whether a code point lies in one of the ranges. -/
def inRanges (ranges : List (Nat × Nat)) (n : Nat) : Bool :=
  ranges.any fun (first, last) => first ≤ n && n ≤ last

end RealmSetup.Text
