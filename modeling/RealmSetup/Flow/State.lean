/-!
# How far a construction has come

A node or a flow is absent, then created, then perhaps configured, and at last bound as the entry
point of its realm.  It only moves forward: `State.advance?` refuses to stay, to go back, and to skip
the creation.
-/

namespace RealmSetup

/-- How far the construction of a node or flow has come. -/
inductive BuildState where
  /-- Not there yet. -/
  | absent
  /-- Created and found. -/
  | created
  /-- Given its configuration. -/
  | configured
  /-- Bound as the entry point of its realm. -/
  | bound
  deriving DecidableEq, Repr

namespace BuildState

def label : BuildState → String
  | .absent => "absent"
  | .created => "created"
  | .configured => "configured"
  | .bound => "bound"

/-- The place of a state in the order of construction. -/
def rank : BuildState → Nat
  | .absent => 0
  | .created => 1
  | .configured => 2
  | .bound => 3

/-- The state after a move, if the move goes forward and what moves has been created. -/
def advance? (current next : BuildState) : Option BuildState :=
  if next.rank ≤ current.rank ∨ current = .absent ∧ next ≠ .created then none else some next

end BuildState

end RealmSetup
