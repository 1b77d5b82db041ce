import RealmSetup.Error
import RealmSetup.Flow.Execution

/-!
# Finding a node that was just created

A server acknowledges a creation without telling the identifier, so the new node is looked for in the
listing of its parent.  Only rows directly in the parent count.  No match is an error, and more than
one is another: nothing is guessed.
-/

namespace RealmSetup

/-- What tells a new child from the others. -/
inductive MatchKey where
  /-- A leaf with this authenticator. -/
  | provider (id : String)
  /-- A subflow with this name. -/
  | displayName (name : String)
  deriving DecidableEq, Repr

namespace MatchKey

/-- Whether a row carries a key. -/
def accepts (key : MatchKey) (e : Execution) : Bool :=
  match key with
  | .provider id => !e.isFlow && e.providerId == some id
  | .displayName name => e.isFlow && e.displayName == name

def text : MatchKey → String
  | .provider id => "provider `" ++ id ++ "`"
  | .displayName name => "display name `" ++ name ++ "`"

end MatchKey

/-- The only row directly in `parent` that carries `key`. -/
def resolve (parent : String) (rows : List Execution) (key : MatchKey) : Except Error Execution :=
  match rows.filter fun e => e.isDirectChild && key.accepts e with
  | [] => .error (.resolutionFailed parent key.text)
  | [e] => .ok e
  | found => .error (.ambiguousResolution parent key.text found.length)

/-- The first row directly in `parent` that is accepted; `description` says what was looked for. -/
def findDirectChild (parent : String) (rows : List Execution) (description : String)
    (accept : Execution → Bool) : Except Error Execution :=
  match rows.find? fun e => e.isDirectChild && accept e with
  | some e => .ok e
  | none => .error (.resolutionFailed parent description)

end RealmSetup
