import RealmSetup.Flow.Remote
import RealmSetup.Flow.Resolve
import RealmSetup.Flow.Tree
import RealmSetup.Step

/-!
# Building flows

A builder turns trees into calls of a server, one after the other: a parent exists before its
children, a leaf before its configuration, and binding comes last.  Since a creation yields no
identifier, each new node is looked for in the listing of its parent before anything else is done.

`Builder.extend` works on a list of nodes still to be created, to which it puts the children of a
subflow in front; `Builder.extendBelow` says the same by recursion on the tree.
-/

namespace RealmSetup

/-- A server with a journal beside it. -/
abbrev FlowSite : Interface := Remote.both Journal

instance : Offers FlowSite Journal where
  perform c := Program.call (I := FlowSite) (.inr c)

/-- A node that was created. -/
structure BuiltNode where
  id : NodeId
  /-- The alias of the flow it was added to. -/
  parent : String
  /-- The authenticator of a leaf, the alias of a subflow. -/
  label : String
  requirement : Requirement
  /-- How far its construction has come. -/
  state : BuildState
  deriving DecidableEq, Repr

/-- A node that was created, as a value. -/
def BuiltNode.json (n : BuiltNode) : Json :=
  .members
    [("id", n.id.json), ("parent", .text n.parent), ("label", .text n.label),
      ("requirement", n.requirement.json), ("state", .text n.state.label)]

/-- What was built of a flow. -/
structure BuildReport where
  flowAlias : String
  /-- How far the construction of the flow itself has come. -/
  state : BuildState
  /-- The nodes in the order of their creation. -/
  nodes : List BuiltNode
  deriving DecidableEq, Repr

namespace BuildReport

/-- The report on a flow that is there and in which nothing was built yet. -/
def start (aliasName : String) : BuildReport := ⟨aliasName, .created, []⟩

def node? (r : BuildReport) (label : String) : Option BuiltNode :=
  r.nodes.find? fun n => n.label = label

def json (r : BuildReport) : Json :=
  .members
    [("alias", .text r.flowAlias), ("state", .text r.state.label),
      ("nodes", .array (r.nodes.map BuiltNode.json))]

def add (r : BuildReport) (n : BuiltNode) : BuildReport := { r with nodes := r.nodes ++ [n] }

end BuildReport

namespace Builder

abbrev Work (α : Type) : Type := Attempt FlowSite α

def ask (realm : String) (op : Remote.Op) : Work op.Result :=
  .ofProgram (Program.call (I := FlowSite) (.inl ⟨realm, op⟩))

def logged (level : LogLevel) (message : String) (fields : List (String × Json)) : Work Unit :=
  ExceptT.lift (log level message fields)

/-! ## Single steps -/

/-- Creates a top-level flow; one that is there already is as good. -/
def createFlow (realm aliasName description : String) (kind : FlowKind) : Work Creation :=
  observe .createFlow realm do
    let creation ← ask realm (.createFlow aliasName description kind)
    logged .debug "flow created" [("alias", .text aliasName), ("creation", .text creation.label)]
    return creation

/-- Copies a flow with all below it; a copy that is there already is as good. -/
def copyFlow (realm source dest : String) : Work Creation :=
  observe .copyFlow realm do
    let creation ← ask realm (.copyFlow source dest)
    logged .debug "flow copied"
      [("source", .text source), ("dest", .text dest), ("creation", .text creation.label)]
    return creation

def addLeaf (realm parent provider : String) : Work NodeId :=
  observe .addLeaf realm do
    ask realm (.addExecution parent provider)
    let rows ← ask realm (.listExecutions parent)
    let row ← Attempt.ofExcept (resolve parent rows (.provider provider))
    return row.id

def addSubflow (realm parent aliasName : String) (kind : FlowKind) : Work NodeId :=
  observe .addSubflow realm do
    ask realm (.addSubflow parent aliasName kind)
    let rows ← ask realm (.listExecutions parent)
    let row ← Attempt.ofExcept (resolve parent rows (.displayName aliasName))
    return row.id

/-- The row with an identifier in the listing of a flow. -/
def rowUnder (realm parent : String) (id : NodeId) : Work Execution := do
  let rows ← ask realm (.listExecutions parent)
  match rows.find? fun e => e.id = id with
  | some e => return e
  | none => throw (.resolutionFailed parent ("execution `" ++ id.text ++ "`"))

/-- Gives a node listed under `parent` a requirement, unless it has it already. -/
def setRequirement (realm parent : String) (id : NodeId) (requirement : Requirement) :
    Work Unit :=
  observe .setRequirement realm do
    let row ← rowUnder realm parent id
    if row.requirement = requirement then return ()
    ask realm (.updateExecution parent { row with requirement })

/-- Binds a new configuration to a leaf. -/
def attachConfig (realm : String) (id : NodeId) (aliasName : String) (settings : KeyMap String) :
    Work Unit :=
  observe .attachConfig realm do
    ask realm (.createConfig id ⟨none, aliasName, settings⟩)

def bindAsEntryPoint (realm aliasName : String) : Work Unit :=
  observe .bindEntryPoint realm do
    ask realm (.bindBrowserFlow aliasName)
    logged .info "entry point bound" [("alias", .text aliasName)]

/-- Deletes the top-level flow with an alias, if there is one; tells whether there was. -/
def deleteFlow (realm aliasName : String) : Work Bool :=
  observe .deleteFlow realm do
    let flows ← ask realm .listFlows
    match flows.find? fun f => f.aliasName = aliasName with
    | none =>
      logged .debug "flow absent, nothing to delete" [("alias", .text aliasName)]
      return false
    | some flow =>
      ask realm (.deleteFlow flow.id)
      return true

/-! ## Reading and moving -/

/-- The first row directly in `parent` that is accepted. -/
def findChild (realm parent description : String) (accept : Execution → Bool) :
    Work Execution := do
  let rows ← ask realm (.listExecutions parent)
  Attempt.ofExcept (findDirectChild parent rows description accept)

/-- What lies below a flow. -/
def listChildren (realm parent : String) : Work (List Execution) :=
  ask realm (.listExecutions parent)

/-- Moves a node one place to the front. -/
def raisePriority (realm : String) (id : NodeId) : Work Unit :=
  ask realm (.raisePriority id)

/-- Moves a node one place to the back. -/
def lowerPriority (realm : String) (id : NodeId) : Work Unit :=
  ask realm (.lowerPriority id)

/-- The configuration bound to the leaf with an authenticator directly in a flow. -/
def leafConfig (realm parent provider : String) : Work AuthenticatorConfig := do
  let rows ← ask realm (.listExecutions parent)
  let row ← Attempt.ofExcept (resolve parent rows (.provider provider))
  match row.configId with
  | none => throw (.missingValue ("configuration on `" ++ provider ++ "` under `" ++ parent ++ "`"))
  | some configId => ask realm (.getConfig configId)

def entryPoint (realm : String) : Work (Option String) :=
  ask realm .browserFlow

/-! ## Whole trees -/

/-- The state of a node after a move. -/
def advance (state : BuildState) (node : String) (next : BuildState) : Work BuildState :=
  .ofExcept (state.advance node next)

/-- Creates one node, without the nodes below it. -/
def addNode (realm parent : String) : Node → Work BuiltNode
  | .leaf provider requirement config => do
    let id ← addLeaf realm parent provider
    let state ← advance .absent provider .created
    setRequirement realm parent id requirement
    match config with
    | none => return ⟨id, parent, provider, requirement, state⟩
    | some spec =>
      attachConfig realm id spec.aliasName spec.settings
      let state ← advance state provider .configured
      return ⟨id, parent, provider, requirement, state⟩
  | .subflow aliasName kind requirement _ => do
    let id ← addSubflow realm parent aliasName kind
    let state ← advance .absent aliasName .created
    setRequirement realm parent id requirement
    return ⟨id, parent, aliasName, requirement, state⟩

/-- The nodes directly below a node, each with the alias it is to be added to. -/
def childrenOf : Node → List (String × Node)
  | .leaf _ _ _ => []
  | .subflow aliasName _ _ nodes => nodes.map (aliasName, ·)

/-- The number of nodes that are still to be created. -/
def pendingSize (pending : List (String × Node)) : Nat :=
  Node.sizeAll (pending.map Prod.snd)

theorem sizeAll_append (xs ys : List Node) :
    Node.sizeAll (xs ++ ys) = Node.sizeAll xs + Node.sizeAll ys := by
  induction xs with
  | nil => simp [Node.sizeAll]
  | cons n ns ih => simp [Node.sizeAll, ih, Nat.add_assoc]

theorem pendingSize_childrenOf (n : Node) (rest : List (String × Node)) :
    pendingSize (childrenOf n ++ rest) + 1 = n.size + pendingSize rest := by
  cases n with
  | leaf p r c => simp [childrenOf, pendingSize, Node.size, Nat.add_comm]
  | subflow a k r nodes =>
    have : (nodes.map (a, ·)).map Prod.snd = nodes := by
      rw [List.map_map]
      exact List.map_id'' (fun _ => rfl) nodes
    simp only [childrenOf, pendingSize, List.map_append, this, sizeAll_append, Node.size]
    omega

/-- What came of a construction: the report as far as it got, and the error that ended it early. -/
abbrev Outcome : Type := BuildReport × Except Error Unit

/-- Creates the pending nodes in order, putting the children of each subflow in front of the rest.
Whatever was created before an error stays in the report. -/
def extendPending (realm : String) (report : BuildReport) :
    List (String × Node) → Program FlowSite Outcome
  | [] => return (report, .ok ())
  | (parent, node) :: rest => do
    match ← (addNode realm parent node).run with
    | .error e => return (report, .error e)
    | .ok built => extendPending realm (report.add built) (childrenOf node ++ rest)
termination_by pending => pendingSize pending
decreasing_by
  have := pendingSize_childrenOf node rest
  simp only [pendingSize, List.map_cons, Node.sizeAll] at *
  omega

/-- Adds nodes, with all below them, to a flow. -/
def extend (realm : String) (report : BuildReport) (parent : String) (nodes : List Node) :
    Program FlowSite Outcome :=
  extendPending realm report (nodes.map (parent, ·))

mutual

/-- Adds a node and then all below it. -/
def extendNode (realm : String) (report : BuildReport) (parent : String) :
    Node → Program FlowSite Outcome
  | .leaf provider requirement config => do
    match ← (addNode realm parent (.leaf provider requirement config)).run with
    | .error e => return (report, .error e)
    | .ok built => return (report.add built, .ok ())
  | .subflow aliasName kind requirement nodes => do
    match ← (addNode realm parent (.subflow aliasName kind requirement nodes)).run with
    | .error e => return (report, .error e)
    | .ok built => extendBelow realm (report.add built) aliasName nodes

/-- Adds nodes to a flow, each with all below it before the next. -/
def extendBelow (realm : String) (report : BuildReport) (parent : String) :
    List Node → Program FlowSite Outcome
  | [] => return (report, .ok ())
  | node :: rest => do
    let (report, result) ← extendNode realm report parent node
    match result with
    | .error e => return (report, .error e)
    | .ok () => extendBelow realm report parent rest

end

/-- The report of an outcome without error. -/
def settled (outcome : Program FlowSite Outcome) : Work BuildReport :=
  .ofProgram do
    let (report, result) ← outcome
    return result.map fun () => report

/-- Creates a tree from scratch, without binding it. -/
def build (realm : String) (tree : FlowTree) : Work BuildReport := do
  let _ ← createFlow realm tree.aliasName tree.description tree.kind
  settled (extend realm (.start tree.aliasName) tree.aliasName tree.nodes)

/-- Binds the flow of a report as the entry point; the last step of its construction. -/
def bind (realm : String) (report : BuildReport) : Work BuildReport := do
  let next ← advance report.state report.flowAlias .bound
  bindAsEntryPoint realm report.flowAlias
  return { report with state := next }

end Builder

end RealmSetup
