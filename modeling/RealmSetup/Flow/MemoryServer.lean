import RealmSetup.Flow.RealmFlows
import RealmSetup.Flow.Remote

/-!
# A server of flows in memory

`MemoryServer` behaves towards a builder as a server of flows does: creations yield no identifier,
aliases that are taken are reported, copies give nested flows names that begin with the name of the
copy, and every call that is to change something is written down.

Identifiers are numbered in one sequence for all realms.  A realm comes into being, with or without
the stock flows, when it is first asked about.
-/

namespace RealmSetup

/-- The identifier with a number. -/
def identifier (sort : String) (n : Nat) : String := sort ++ "-" ++ toString n

/-- The flows of a realm together with the number of identifiers given out so far. -/
structure FlowDesk where
  realm : RealmFlows
  /-- How many identifiers were given out. -/
  issued : Nat

/-- The refusal of a server that does not know what it is asked about. -/
def notFound (what : String) : Error :=
  .remoteRejected "GET" what 404 "Could not find resource"

namespace FlowDesk

/-! ## Stock flows -/

/-- A number of executions with identifiers in sequence after `issued`. -/
def stockExecutions (issued : Nat) (targets : List (Requirement × Target)) : List FlowExecution :=
  (targets.zipIdx (issued + 1)).map fun ((requirement, target), n) =>
    ⟨identifier "exec" n, requirement, target, none⟩

/-- The condition and form for one-time passwords. -/
def stockOtp (issued : Nat) : FlowRecord where
  id := identifier "flow" (issued + 1)
  aliasName := "Browser - Conditional OTP"
  description := "Flow to determine if the OTP is required for the authentication"
  kind := .basic
  topLevel := false
  builtIn := true
  executions := stockExecutions (issued + 1)
    [(.required, .provider "conditional-user-configured"), (.required, .provider "auth-otp-form")]

/-- The forms of the stock entry point. -/
def stockForms (issued : Nat) : FlowRecord where
  id := identifier "flow" (issued + 4)
  aliasName := "forms"
  description := "Username, password, otp and other auth forms."
  kind := .basic
  topLevel := false
  builtIn := true
  executions := stockExecutions (issued + 4)
    [(.required, .provider "auth-username-password-form"),
      (.conditional, .flow "Browser - Conditional OTP")]

/-- The stock entry point. -/
def stockBrowser (issued : Nat) : FlowRecord where
  id := identifier "flow" (issued + 7)
  aliasName := "browser"
  description := "browser based authentication"
  kind := .basic
  topLevel := true
  builtIn := true
  executions := stockExecutions (issued + 7)
    [(.alternative, .provider "auth-cookie"), (.disabled, .provider "auth-spnego"),
      (.alternative, .provider "identity-provider-redirector"), (.alternative, .flow "forms")]

/-- A realm as it comes into being. -/
def fresh (stock : Bool) (issued : Nat) : FlowDesk :=
  if stock then
    ⟨⟨[stockBrowser issued, stockForms issued, stockOtp issued], .empty, some "browser"⟩,
      issued + 11⟩
  else ⟨.empty, issued⟩

/-! ## Copies -/

/-- The alias of the copy of a flow that is copied along with `source`. -/
def renamed (source dest aliasName : String) : String :=
  if aliasName = source then dest else dest ++ " " ++ aliasName

/-- The copy of a flow, with identifiers in sequence after `issued`. -/
def copyRecord (source dest : String) (issued : Nat) (f : FlowRecord) : FlowRecord where
  id := identifier "flow" (issued + 1)
  aliasName := renamed source dest f.aliasName
  description := f.description
  kind := f.kind
  topLevel := f.aliasName == source
  builtIn := false
  executions := (f.executions.zipIdx (issued + 2)).map fun (x, n) =>
    { x with
      id := identifier "exec" n
      target :=
        match x.target with
        | .flow aliasName => .flow (renamed source dest aliasName)
        | target => target }

/-- The number of identifiers in a flow. -/
def identifiersIn (f : FlowRecord) : Nat := 1 + f.executions.length

/-- The number of identifiers in some flows. -/
def identifiersAmong : List FlowRecord → Nat
  | [] => 0
  | f :: rest => identifiersIn f + identifiersAmong rest

/-- The copies of some flows, with identifiers in sequence after `issued`. -/
def copyRecords (source dest : String) (issued : Nat) : List FlowRecord → List FlowRecord
  | [] => []
  | f :: rest =>
    copyRecord source dest issued f :: copyRecords source dest (issued + identifiersIn f) rest

/-! ## Requests -/

variable (d : FlowDesk)

/-- Creates a top-level flow, unless its alias is taken. -/
def createFlow (aliasName description : String) (kind : FlowKind) : Creation × FlowDesk :=
  if d.realm.hasFlow aliasName then (.alreadyExists, d)
  else
    (.created,
      ⟨d.realm.addFlow
        ⟨identifier "flow" (d.issued + 1), aliasName, description, kind, true, false, []⟩,
        d.issued + 1⟩)

/-- Copies a flow and all below it, unless the alias of the copy is taken. -/
def copyFlow (source dest : String) : Except Error (Creation × FlowDesk) :=
  if d.realm.hasFlow dest then .ok (.alreadyExists, d)
  else if d.realm.hasFlow source then
    let found := (d.realm.aliasesBelow source).filterMap d.realm.flow?
    let copies := copyRecords source dest d.issued found
    .ok (.created,
      ⟨{ d.realm with flows := d.realm.flows ++ copies }, d.issued + identifiersAmong found⟩)
  else .error (notFound source)

def deleteFlow (flowId : String) : Except Error FlowDesk :=
  match d.realm.flows.find? fun f => f.id = flowId with
  | none => .error (notFound flowId)
  | some f => .ok { d with realm := d.realm.removeFlows (d.realm.aliasesBelow f.aliasName) }

/-- Lists what lies below a flow. -/
def listExecutions (aliasName : String) : Except Error (List Execution) :=
  if d.realm.hasFlow aliasName then .ok (d.realm.listing aliasName) else .error (notFound aliasName)

/-- Adds a leaf at the end of a flow.  An identifier is given out even where there is no such flow. -/
def addExecution (parent provider : String) : Except Error Unit × FlowDesk :=
  let issued := d.issued + 1
  if d.realm.hasFlow parent then
    (.ok (),
      ⟨d.realm.addExecution parent
        ⟨identifier "exec" issued, .disabled, .provider provider, none⟩, issued⟩)
  else (.error (notFound parent), { d with issued })

def addSubflow (parent aliasName : String) (kind : FlowKind) : Except Error FlowDesk :=
  if d.realm.hasFlow aliasName then
    .error (.remoteRejected "POST" ("flows/" ++ parent ++ "/executions/flow") 409
      ("New flow alias name already exists: " ++ aliasName))
  else if d.realm.hasFlow parent then
    let realm := d.realm.addFlow
      ⟨identifier "flow" (d.issued + 1), aliasName, "", kind, false, false, []⟩
    .ok ⟨realm.addExecution parent
      ⟨identifier "exec" (d.issued + 2), .disabled, .flow aliasName, none⟩, d.issued + 2⟩
  else .error (notFound parent)

/-- Changes the realm around the execution with an identifier, if there is one. -/
def atExecution (id : NodeId) (change : RealmFlows → RealmFlows) : Except Error FlowDesk :=
  if d.realm.hasExecution id.text then .ok { d with realm := change d.realm }
  else .error (notFound id.text)

/-- Gives the execution of a row its requirement. -/
def updateExecution (row : Execution) : Except Error FlowDesk :=
  d.atExecution row.id fun r =>
    r.changeExecution row.id.text fun x => { x with requirement := row.requirement }

/-- Moves an execution one place to the front. -/
def raisePriority (id : NodeId) : Except Error FlowDesk :=
  d.atExecution id fun r => r.changeAround id.text (RealmFlows.raised id.text)

/-- Moves an execution one place to the back. -/
def lowerPriority (id : NodeId) : Except Error FlowDesk :=
  d.atExecution id fun r => r.changeAround id.text (RealmFlows.lowered id.text)

/-- Binds a new configuration to an execution. -/
def createConfig (id : NodeId) (config : AuthenticatorConfig) : Except Error FlowDesk :=
  if d.realm.hasExecution id.text then
    let configId := identifier "config" (d.issued + 1)
    let realm := d.realm.changeExecution id.text fun x => { x with configId := some configId }
    .ok ⟨{ realm with configs := realm.configs.insert configId { config with id := some configId } },
      d.issued + 1⟩
  else .error (notFound id.text)

def getConfig (configId : String) : Except Error AuthenticatorConfig :=
  match d.realm.configs.get? configId with
  | some config => .ok config
  | none => .error (notFound configId)

/-- Binds a flow as the entry point. -/
def bindBrowserFlow (aliasName : String) : Except Error FlowDesk :=
  if d.realm.hasFlow aliasName then
    .ok { d with realm := { d.realm with entryPoint := some aliasName } }
  else .error (notFound aliasName)

/-- What a change that may be refused leaves behind. -/
def settle (result : Except Error FlowDesk) : Except Error Unit × FlowDesk :=
  match result with
  | .ok d => (.ok (), d)
  | .error e => (.error e, d)

/-- Answers a request. -/
def serve : (op : Remote.Op) → Except Error op.Result × FlowDesk
  | .createFlow aliasName description kind =>
    let (creation, d) := d.createFlow aliasName description kind
    (.ok creation, d)
  | .copyFlow source dest =>
    match d.copyFlow source dest with
    | .ok (creation, d) => (.ok creation, d)
    | .error e => (.error e, d)
  | .listFlows => (.ok (d.realm.topLevelFlows.map FlowRecord.summary), d)
  | .deleteFlow flowId => d.settle (d.deleteFlow flowId)
  | .listExecutions aliasName => (d.listExecutions aliasName, d)
  | .addExecution parent provider => d.addExecution parent provider
  | .addSubflow parent aliasName kind => d.settle (d.addSubflow parent aliasName kind)
  | .updateExecution _ row => d.settle (d.updateExecution row)
  | .raisePriority id => d.settle (d.raisePriority id)
  | .lowerPriority id => d.settle (d.lowerPriority id)
  | .createConfig id config => d.settle (d.createConfig id config)
  | .getConfig configId => (d.getConfig configId, d)
  | .bindBrowserFlow aliasName => d.settle (d.bindBrowserFlow aliasName)
  | .browserFlow => (.ok d.realm.entryPoint, d)

end FlowDesk

/-- How a request is written down; those that only read are not. -/
def Remote.Call.entry? (c : Remote.Call) : Option String :=
  let line (operation : String) (parts : List String) : Option String :=
    some (" ".intercalate (operation :: c.realm :: parts))
  match c.op with
  | .createFlow aliasName _ _ => line "create_flow" [aliasName]
  | .copyFlow source dest => line "copy_flow" [source, dest]
  | .deleteFlow flowId => line "delete_flow" [flowId]
  | .addExecution parent provider => line "add_execution" [parent, provider]
  | .addSubflow parent aliasName _ => line "add_subflow" [parent, aliasName]
  | .updateExecution parent row =>
    line "update_execution" [parent, row.id.text, row.requirement.label]
  | .raisePriority id => line "raise_priority" [id.text]
  | .lowerPriority id => line "lower_priority" [id.text]
  | .createConfig id config => line "create_config" [id.text, config.aliasName]
  | .bindBrowserFlow aliasName => line "bind_browser_flow" [aliasName]
  | .listFlows | .listExecutions _ | .getConfig _ | .browserFlow => none

/-- A server of the flows of any number of realms. -/
structure MemoryServer where
  /-- The realms that were asked about. -/
  realms : KeyMap RealmFlows
  /-- How many identifiers were given out. -/
  issued : Nat
  /-- Whether realms begin with the stock flows. -/
  stock : Bool
  /-- What was written down, the latest last. -/
  calls : List String

namespace MemoryServer

/-- A server that was not asked anything yet. -/
def start (stock : Bool) : MemoryServer := ⟨.empty, 0, stock, []⟩

/-- A realm as a request finds it. -/
def desk (s : MemoryServer) (realm : String) : FlowDesk :=
  match s.realms.get? realm with
  | some r => ⟨r, s.issued⟩
  | none => .fresh s.stock s.issued

/-- Answers a request. -/
def serve (s : MemoryServer) (c : Remote.Call) : Except Error c.op.Result × MemoryServer :=
  let (result, d) := (s.desk c.realm).serve c.op
  (result,
    { s with
      realms := s.realms.insert c.realm d.realm
      issued := d.issued
      calls := s.calls ++ c.entry?.toList })

/-- The number of top-level flows of a realm; a realm that was not asked about has none. -/
def topLevelFlowCount (s : MemoryServer) (realm : String) : Nat :=
  match s.realms.get? realm with
  | some r => r.topLevelFlows.length
  | none => 0

/-- The answer to a call, as a change of the server. -/
def answer (c : Remote.Call) : StateM MemoryServer (Except Error c.op.Result) :=
  fun s => s.serve c

end MemoryServer

end RealmSetup
