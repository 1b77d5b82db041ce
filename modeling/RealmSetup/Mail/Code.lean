import RealmSetup.Text.Search

/-!
# One-time codes in a text

A code is a whole word of a text, made up of the characters of an alphabet, whose length lies in a
range.  Words are the longest runs of ASCII letters, digits and underscores; where two other
characters meet there is an empty word between them.
-/

namespace RealmSetup.Code

/-- The characters that codes are made of unless another alphabet is set. -/
def defaultAlphabet : String := "23456789ABCDEFGHJKLMNPQRSTUVWXYZ"

/-- The least and greatest length of a code unless others are set. -/
def defaultLengths : Nat × Nat := (4, 8)

/-- Whether a character belongs to a word. -/
def isWordChar (c : Char) : Bool := c.isAlphanum || c == '_'

def words (cs : List Char) : List (List Char) :=
  cs.splitOnP fun c => !isWordChar c

def isCode (alphabet : String) (lengths : Nat × Nat) (word : List Char) : Bool :=
  lengths.1 ≤ word.length && word.length ≤ lengths.2 && word.all fun c => alphabet.toList.contains c

def find? (body alphabet : String) (lengths : Nat × Nat) : Option String :=
  ((words body.toList).find? (isCode alphabet lengths)).map String.ofList

end RealmSetup.Code
