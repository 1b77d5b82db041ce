import RealmSetup.Effect.Attempt
import RealmSetup.Flow.Execution

/-!
# What a builder of flows asks of a server

The calls that manage the flows of a realm.  Those that create something are only acknowledged, as
done or as there already; every other ending is an error.
-/

namespace RealmSetup

/-- How a creation ended. -/
inductive Creation where
  /-- The thing was created. -/
  | created
  /-- It was there already. -/
  | alreadyExists
  deriving DecidableEq, Repr

namespace Creation

/-- Whether the thing was created by this call. -/
def isCreated : Creation → Bool
  | .created => true
  | .alreadyExists => false

def label : Creation → String
  | .created => "Created"
  | .alreadyExists => "AlreadyExists"

end Creation

namespace Remote

/-- A request about the flows of one realm. -/
inductive Op where
  | createFlow (aliasName description : String) (kind : FlowKind)
  /-- Copy a flow with all below it. -/
  | copyFlow (source dest : String)
  | listFlows
  /-- Delete a flow with all below it. -/
  | deleteFlow (flowId : String)
  /-- List what lies below a flow. -/
  | listExecutions (aliasName : String)
  /-- Add a leaf at the end of a flow. -/
  | addExecution (parent provider : String)
  | addSubflow (parent aliasName : String) (kind : FlowKind)
  /-- Write a row back, to change its requirement. -/
  | updateExecution (parent : String) (row : Execution)
  /-- Move an execution one place to the front. -/
  | raisePriority (id : NodeId)
  /-- Move an execution one place to the back. -/
  | lowerPriority (id : NodeId)
  /-- Bind a new configuration to an execution. -/
  | createConfig (id : NodeId) (config : AuthenticatorConfig)
  | getConfig (configId : String)
  | bindBrowserFlow (aliasName : String)
  /-- Read the entry point of the realm. -/
  | browserFlow

/-- What a request yields. -/
abbrev Op.Result : Op → Type
  | .createFlow _ _ _ => Creation
  | .copyFlow _ _ => Creation
  | .listFlows => List FlowSummary
  | .deleteFlow _ => Unit
  | .listExecutions _ => List Execution
  | .addExecution _ _ => Unit
  | .addSubflow _ _ _ => Unit
  | .updateExecution _ _ => Unit
  | .raisePriority _ => Unit
  | .lowerPriority _ => Unit
  | .createConfig _ _ => Unit
  | .getConfig _ => AuthenticatorConfig
  | .bindBrowserFlow _ => Unit
  | .browserFlow => Option String

/-- A request to a realm. -/
structure Call where
  realm : String
  op : Op

end Remote

/-- A server that manages flows. -/
def Remote : Interface where
  Call := Remote.Call
  Answer c := Except Error c.op.Result

end RealmSetup
