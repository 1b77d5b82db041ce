import RealmSetup.Flow.Execution

/-!
# The flows of a realm

A realm holds its flows in a flat list.  An execution of a flow names an authenticator or, by its
alias, another flow, so that the nesting of flows lies in the aliases alone.  `RealmFlows.listing`
follows them downwards to the rows of a listing and `RealmFlows.aliasesBelow` to the aliases of a
subtree.

Nothing in the data keeps a flow from naming one above it.  Both functions go down at most one level
more than there are flows, which is as deep as flows that do not go in a circle can nest: the aliases
on the way down name different flows, with the possible exception of the last, which may name none.
-/

namespace RealmSetup

/-- What an execution calls for. -/
inductive Target where
  | provider (id : String)
  | flow (aliasName : String)
  deriving DecidableEq, Repr

/-- An execution of a flow. -/
structure FlowExecution where
  id : String
  requirement : Requirement
  /-- What it calls for. -/
  target : Target
  /-- The identifier of the configuration bound to it. -/
  configId : Option String
  deriving DecidableEq, Repr

/-- The alias of the flow an execution calls for. -/
def FlowExecution.nested? (x : FlowExecution) : Option String :=
  match x.target with
  | .provider _ => none
  | .flow aliasName => some aliasName

/-- A flow of a realm. -/
structure FlowRecord where
  id : String
  aliasName : String
  description : String
  kind : FlowKind
  /-- Whether it is listed among the flows of the realm. -/
  topLevel : Bool
  /-- Whether it came with the server. -/
  builtIn : Bool
  executions : List FlowExecution
  deriving DecidableEq, Repr

namespace FlowRecord

/-- The aliases of the flows that a flow calls for, in order. -/
def nested (f : FlowRecord) : List String :=
  f.executions.filterMap FlowExecution.nested?

def summary (f : FlowRecord) : FlowSummary where
  id := f.id
  aliasName := f.aliasName
  description := some f.description
  providerId := f.kind.providerId
  topLevel := true
  builtIn := f.builtIn

end FlowRecord

/-- Changes the first element that satisfies a condition. -/
def changeFirst {α : Type} (p : α → Bool) (change : α → α) : List α → List α
  | [] => []
  | a :: rest => if p a then change a :: rest else a :: changeFirst p change rest

/-- The flows, configurations and entry point of a realm. -/
structure RealmFlows where
  /-- The flows, top-level and nested. -/
  flows : List FlowRecord
  /-- The configurations by identifier. -/
  configs : KeyMap AuthenticatorConfig
  entryPoint : Option String

namespace RealmFlows

/-- A realm without flows. -/
def empty : RealmFlows := ⟨[], .empty, none⟩

/-- The first flow with an alias. -/
def flow? (r : RealmFlows) (aliasName : String) : Option FlowRecord :=
  r.flows.find? fun f => f.aliasName = aliasName

/-- Whether an alias names a flow. -/
def hasFlow (r : RealmFlows) (aliasName : String) : Bool := (r.flow? aliasName).isSome

/-- Whether an identifier is that of an execution. -/
def hasExecution (r : RealmFlows) (id : String) : Bool :=
  r.flows.any fun f => f.executions.any fun x => x.id = id

/-- The depth that no nesting without circles exceeds. -/
def depthBound (r : RealmFlows) : Nat := r.flows.length + 1

/-! ## Listings -/

def row (r : RealmFlows) (level index : Nat) (x : FlowExecution) : Execution :=
  let nested := x.nested?.bind r.flow?
  { id := ⟨x.id⟩
    requirement := x.requirement
    displayName :=
      match x.target with
      | .provider id => id
      | .flow aliasName => aliasName
    aliasName := none
    isFlow := x.nested?.isSome
    providerId :=
      match x.target with
      | .provider id => some id
      | .flow _ => nested.map fun f => f.kind.providerId
    level := UInt32.ofNat level
    index := UInt32.ofNat (min index (UInt32.size - 1))
    configId := x.configId
    flowId := nested.map fun f => f.id }

/-- The rows below a flow, at most `depth` levels of them. -/
def rowsFrom (r : RealmFlows) (depth : Nat) (aliasName : String) (level : Nat) : List Execution :=
  match depth with
  | 0 => []
  | depth + 1 =>
    match r.flow? aliasName with
    | none => []
    | some f =>
      f.executions.zipIdx.flatMap fun (x, index) =>
        r.row level index x ::
          match x.nested? with
          | none => []
          | some nested => rowsFrom r depth nested (level + 1)

/-- The rows below a flow. -/
def listing (r : RealmFlows) (aliasName : String) : List Execution :=
  r.rowsFrom r.depthBound aliasName 0

/-- An alias and the aliases nested under it, at most `depth` levels of them. -/
def aliasesFrom (r : RealmFlows) (depth : Nat) (aliasName : String) : List String :=
  match depth with
  | 0 => []
  | depth + 1 =>
    aliasName ::
      match r.flow? aliasName with
      | none => []
      | some f => f.nested.flatMap fun nested => aliasesFrom r depth nested

/-- An alias and the aliases nested under it. -/
def aliasesBelow (r : RealmFlows) (aliasName : String) : List String :=
  r.aliasesFrom r.depthBound aliasName

/-- The flows in the listing of the realm. -/
def topLevelFlows (r : RealmFlows) : List FlowRecord := r.flows.filter FlowRecord.topLevel

/-! ## Changes -/

def addFlow (r : RealmFlows) (f : FlowRecord) : RealmFlows := { r with flows := r.flows ++ [f] }

/-- Adds an execution at the end of the first flow with an alias. -/
def addExecution (r : RealmFlows) (aliasName : String) (x : FlowExecution) : RealmFlows :=
  { r with
    flows := changeFirst (fun f => f.aliasName = aliasName)
      (fun f => { f with executions := f.executions ++ [x] }) r.flows }

/-- Changes the executions of the first flow that holds an execution with an identifier. -/
def changeAround (r : RealmFlows) (id : String)
    (change : List FlowExecution → List FlowExecution) : RealmFlows :=
  { r with
    flows := changeFirst (fun f => f.executions.any fun x => x.id = id)
      (fun f => { f with executions := change f.executions }) r.flows }

def changeExecution (r : RealmFlows) (id : String) (change : FlowExecution → FlowExecution) :
    RealmFlows :=
  r.changeAround id (changeFirst (fun x => x.id = id) change)

/-- Moves the execution with an identifier one place to the front, unless it is the first. -/
def raised (id : String) : List FlowExecution → List FlowExecution
  | [] => []
  | [x] => [x]
  | x :: y :: rest =>
    if x.id = id then x :: y :: rest
    else if y.id = id then y :: x :: rest
    else x :: raised id (y :: rest)

/-- Moves the execution with an identifier one place to the back, unless it is the last. -/
def lowered (id : String) : List FlowExecution → List FlowExecution
  | [] => []
  | [x] => [x]
  | x :: y :: rest => if x.id = id then y :: x :: rest else x :: lowered id (y :: rest)

/-- Removes the flows with any of some aliases. -/
def removeFlows (r : RealmFlows) (aliases : List String) : RealmFlows :=
  { r with flows := r.flows.filter fun f => !aliases.contains f.aliasName }

end RealmFlows

end RealmSetup
