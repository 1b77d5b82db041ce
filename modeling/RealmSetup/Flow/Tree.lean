import RealmSetup.Flow.Requirement

/-!
# Trees of nodes

A flow to be built is a tree: leaves name an authenticator and may carry a configuration, subflows
hold nodes in order.  The alias of every subflow is to be free in the realm the tree is built in.
-/

namespace RealmSetup

/-- A configuration for a leaf that is yet to be created. -/
structure ConfigSpec where
  aliasName : String
  /-- The settings, sent as they are. -/
  settings : KeyMap String
  deriving DecidableEq

/-- A node of a tree. -/
inductive Node where
  /-- One authenticator. -/
  | leaf (provider : String) (requirement : Requirement) (config : Option ConfigSpec)
  /-- A flow of its own, with its nodes in order. -/
  | subflow (aliasName : String) (kind : FlowKind) (requirement : Requirement) (nodes : List Node)

namespace Node

/-- Gives a leaf a configuration; a subflow stays as it is. -/
def withConfig (aliasName : String) (settings : KeyMap String) : Node → Node
  | .leaf provider requirement _ => .leaf provider requirement (some ⟨aliasName, settings⟩)
  | .subflow a k r ns => .subflow a k r ns

def requirement : Node → Requirement
  | .leaf _ r _ => r
  | .subflow _ _ r _ => r

/-- The authenticator of a leaf, the alias of a subflow. -/
def label : Node → String
  | .leaf provider _ _ => provider
  | .subflow aliasName _ _ _ => aliasName

mutual

/-- The number of nodes in a subtree, its top included. -/
def size : Node → Nat
  | .leaf _ _ _ => 1
  | .subflow _ _ _ nodes => 1 + sizeAll nodes

/-- The number of nodes in some subtrees. -/
def sizeAll : List Node → Nat
  | [] => 0
  | n :: ns => n.size + sizeAll ns

end

mutual

/-- The nodes of a subtree, each before those below it. -/
def walk : Node → List Node
  | .leaf p r c => [.leaf p r c]
  | .subflow a k r nodes => .subflow a k r nodes :: walkAll nodes

/-- The nodes of some subtrees. -/
def walkAll : List Node → List Node
  | [] => []
  | n :: ns => n.walk ++ walkAll ns

end

/-- Induction on some subtrees: a subflow comes after what is below it and after its later siblings. -/
@[elab_as_elim]
theorem forest_induction {motive : List Node → Prop} (nil : motive [])
    (leaf : ∀ provider requirement config ns, motive ns →
      motive (.leaf provider requirement config :: ns))
    (subflow : ∀ aliasName kind requirement below ns, motive below → motive ns →
      motive (.subflow aliasName kind requirement below :: ns))
    (ns : List Node) : motive ns := by
  match ns with
  | [] => exact nil
  | .leaf provider requirement config :: ns =>
    exact leaf provider requirement config ns (forest_induction nil leaf subflow ns)
  | .subflow aliasName kind requirement below :: ns =>
    exact subflow aliasName kind requirement below ns (forest_induction nil leaf subflow below)
      (forest_induction nil leaf subflow ns)
termination_by sizeAll ns
decreasing_by
  all_goals simp only [sizeAll, size]; omega

end Node

/-- A top-level flow to be built. -/
structure FlowTree where
  aliasName : String
  description : String
  kind : FlowKind
  /-- The nodes directly in it, in order. -/
  nodes : List Node

namespace FlowTree

def size (t : FlowTree) : Nat := Node.sizeAll t.nodes

/-- The nodes below a flow, each before those below it. -/
def walk (t : FlowTree) : List Node := Node.walkAll t.nodes

end FlowTree

end RealmSetup
