import RealmSetup.Text.CaseTable
import RealmSetup.Text.Table

/-!
# Full lower case

`Text.lower` maps a text to lower case by the Unicode rules that depend on no language.  Every
character is mapped by itself, with two exceptions: dotted capital I becomes the two characters `i`
and U+0307, and capital sigma becomes the final form at the end of a word.  A word ends at a sigma
when, case-ignorable characters aside, a cased character stands before it and none stands after it.
-/

namespace RealmSetup.Text

/-- Whether a character is upper, lower or title case. -/
def isCased (c : Char) : Bool :=
  inRanges casedRanges c.toNat

/-- Whether a character is passed over when the end of a word is sought. -/
def isCaseIgnorable (c : Char) : Bool :=
  inRanges caseIgnorableRanges c.toNat

/-- The lower case of one character outside any word. -/
def lowerChar (c : Char) : List Char :=
  let n := c.toNat
  if n < 0x80 then [c.toLower]
  else if n = 0x130 then ['i', '\u0307']
  else
    let run := lowerRanges.find? fun (first, last, step, _) =>
      first ≤ n && n ≤ last && (n - first) % step == 0
    match run with
    | some (_, _, _, distance) => [Char.ofNat (n + distance).toNat]
    | none => [c]

/-- Whether the first character that is not case-ignorable exists and is cased. -/
def meetsCased (cs : List Char) : Bool :=
  match cs.dropWhile isCaseIgnorable with
  | [] => false
  | c :: _ => isCased c

/-- Maps characters to lower case, where `before` holds the characters already passed, the last one
first. -/
def lowerFrom (before : List Char) : List Char → List Char
  | [] => []
  | c :: rest =>
    let mapped :=
      if c = 'Σ' then
        [if meetsCased before && !meetsCased rest then 'ς' else 'σ']
      else lowerChar c
    mapped ++ lowerFrom (c :: before) rest

def lower (s : String) : String :=
  String.ofList (lowerFrom [] s.toList)

end RealmSetup.Text
