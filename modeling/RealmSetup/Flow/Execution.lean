import RealmSetup.Flow.Requirement

/-!
# Executions, flows and configurations on the wire

A server lists what lies below a flow as rows, one for each execution, in the order of a walk that
goes down before it goes on.  The level of a row is its depth below the listed flow and its index the
place among its siblings.  Fields that are missing are left out of a row that is sent.
-/

namespace RealmSetup

/-- The identifier a server gives an execution. -/
structure NodeId where
  text : String
  deriving DecidableEq, Repr

namespace NodeId

def json (id : NodeId) : Json := .text id.text

def decoder : Json.Decoder NodeId := fun r => (Json.string r).map NodeId.mk

end NodeId

/-- Members that are there only if they have a value. -/
def Json.given (name : String) (value : Option String) : List (String × Json) :=
  value.toList.map fun s => (name, .text s)

/-- One row of the listing below a flow. -/
structure Execution where
  id : NodeId
  requirement : Requirement
  /-- The name of a leaf, or the alias of a subflow. -/
  displayName : String
  /-- The alias of a subflow, where it is reported. -/
  aliasName : Option String
  /-- Whether the execution is a subflow. -/
  isFlow : Bool
  /-- The authenticator of a leaf. -/
  providerId : Option String
  /-- The depth below the listed flow. -/
  level : UInt32
  /-- The place among the siblings. -/
  index : UInt32
  /-- The identifier of the configuration bound to the execution. -/
  configId : Option String
  /-- The identifier of the flow that a subflow refers to. -/
  flowId : Option String
  deriving DecidableEq, Repr

namespace Execution

/-- Whether the execution stands directly in the listed flow. -/
def isDirectChild (e : Execution) : Bool := e.level == 0

/-- The alias under which a subflow takes children. -/
def subflowAlias (e : Execution) : Option String :=
  if e.isFlow then some (e.aliasName.getD e.displayName) else none

def json (e : Execution) : Json :=
  .members <|
    [("id", e.id.json), ("requirement", e.requirement.json), ("displayName", .text e.displayName),
      ("authenticationFlow", .bool e.isFlow), ("level", .nat e.level.toNat),
      ("index", .nat e.index.toNat)]
    ++ Json.given "alias" e.aliasName ++ Json.given "providerId" e.providerId
    ++ Json.given "authenticationConfig" e.configId ++ Json.given "flowId" e.flowId

def record : Json.Record Execution :=
  Json.Record.of Execution.mk
    |>.required "id" NodeId.decoder
    |>.required "requirement" Requirement.decoder
    |>.optional "displayName" Json.string ""
    |>.optional "alias" (Json.nullable Json.string) none
    |>.optional "authenticationFlow" Json.boolean false
    |>.optional "providerId" (Json.nullable Json.string) none
    |>.optional "level" Json.uint32 0
    |>.optional "index" Json.uint32 0
    |>.optional "authenticationConfig" (Json.nullable Json.string) none
    |>.optional "flowId" (Json.nullable Json.string) none

def decoder : Json.Decoder Execution := record.decode

end Execution

/-- What a server lists of a top-level flow. -/
structure FlowSummary where
  id : String
  /-- Its alias, which no other flow of the realm has. -/
  aliasName : String
  description : Option String
  /-- The kind of the flow, which may be one that is not built here. -/
  providerId : String
  /-- Whether the flow stands in no other. -/
  topLevel : Bool
  /-- Whether the flow came with the server. -/
  builtIn : Bool
  deriving DecidableEq, Repr

namespace FlowSummary

def json (f : FlowSummary) : Json :=
  .members
    [("id", .text f.id), ("alias", .text f.aliasName), ("description", .textOrNull f.description),
      ("providerId", .text f.providerId), ("topLevel", .bool f.topLevel),
      ("builtIn", .bool f.builtIn)]

def record : Json.Record FlowSummary :=
  Json.Record.of FlowSummary.mk
    |>.required "id" Json.string
    |>.required "alias" Json.string
    |>.optional "description" (Json.nullable Json.string) none
    |>.optional "providerId" Json.string ""
    |>.optional "topLevel" Json.boolean false
    |>.optional "builtIn" Json.boolean false

def decoder : Json.Decoder FlowSummary := record.decode

end FlowSummary

/-- Settings with a name, bound to one leaf. -/
structure AuthenticatorConfig where
  /-- The identifier a server has given the configuration. -/
  id : Option String
  aliasName : String
  config : KeyMap String
  deriving DecidableEq

namespace AuthenticatorConfig

def json (c : AuthenticatorConfig) : Json :=
  .members (Json.given "id" c.id ++ [("alias", .text c.aliasName), ("config", .ofTexts c.config)])

def record : Json.Record AuthenticatorConfig :=
  Json.Record.of AuthenticatorConfig.mk
    |>.optional "id" (Json.nullable Json.string) none
    |>.required "alias" Json.string
    |>.optional "config" (Json.dict Json.string) .empty

def decoder : Json.Decoder AuthenticatorConfig := record.decode

end AuthenticatorConfig

end RealmSetup
