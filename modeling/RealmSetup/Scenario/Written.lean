import RealmSetup.Scenario.Basic
import RealmSetup.Scenario.Settings

/-!
# Scenarios in writing

Trees, plans, scenarios and the settings of codes by mail as JSON values.  A leaf is an object with the
member `leaf`, a subflow one with `sub`; a plan has either a `tree` or a `copy`; a trust is the time it
lasts, or false for never.  What is read need not say everything: a kind is
basic, a list empty and a text without characters where nothing is said.  What is written says
everything, and of users also their mail address.
-/

namespace RealmSetup

/-! ## Looking into what is written -/

namespace Json

/-- The member of an object with a name, unless it is null. -/
def given? (j : Json) (name : String) : Option Json :=
  match j.get? name with
  | some .null => none
  | found => found

/-- The text with a name, if there is one. -/
def textAt? (j : Json) (name : String) : Option String := (j.given? name).bind text?

/-- The text with a name; one without characters where there is none. -/
def textAt (j : Json) (name : String) : String := (j.textAt? name).getD ""

/-- The list with a name; one without items where there is none. -/
def itemsAt (j : Json) (name : String) : List Json := ((j.given? name).bind array?).getD []

def textsAt (j : Json) (name : String) : List String := (j.itemsAt name).filterMap text?

/-- The truth value with a name; false where there is none. -/
def flagAt (j : Json) (name : String) : Bool := ((j.given? name).bind bool?).getD false

/-- The integer with a name, if there is one. -/
def intAt? (j : Json) (name : String) : Option Int := (j.given? name).bind int?

/-- The number with a name, if there is one. -/
def natAt? (j : Json) (name : String) : Option Nat := (j.intAt? name).map Int.toNat

def textMapAt (j : Json) (name : String) : KeyMap String :=
  .ofList ((((j.given? name).bind object?).getD []).filterMap fun (k, v) => v.text?.map (k, ·))

end Json

/-- The requirement with a name in an object; disabled where there is none. -/
def Requirement.at (j : Json) (name : String) : Requirement :=
  ((j.textAt? name).bind ofLabel?).getD .disabled

/-- The kind in an object; basic where there is none. -/
def FlowKind.at (j : Json) : FlowKind :=
  ((j.textAt? "kind").bind ofProviderId?).getD .basic

/-! ## Nodes and trees -/

namespace ConfigSpec

def json (c : ConfigSpec) : Json :=
  .members [("alias", .text c.aliasName), ("settings", .ofTexts c.settings)]

def ofJson (j : Json) : ConfigSpec := ⟨j.textAt "alias", j.textMapAt "settings"⟩

end ConfigSpec

namespace Node

mutual

def json : Node → Json
  | .leaf provider requirement config =>
    .members
      [("leaf", .text provider), ("req", requirement.json),
        ("config", (config.map ConfigSpec.json).getD .null)]
  | .subflow aliasName kind requirement nodes =>
    .members
      [("sub", .text aliasName), ("kind", kind.json), ("req", requirement.json),
        ("nodes", .array (jsonAll nodes))]

def jsonAll : List Node → List Json
  | [] => []
  | n :: ns => n.json :: jsonAll ns

end

/-- A node without the nodes below it, which are given. -/
def ofParts (j : Json) (nodes : List Node) : Node :=
  let node : Node :=
    match j.textAt? "leaf" with
    | some provider => .leaf provider (.at j "req") none
    | none => .subflow (j.textAt "sub") (.at j) (.at j "req") nodes
  match j.given? "config" with
  | some config => node.withConfig (config.textAt "alias") (config.textMapAt "settings")
  | none => node

mutual

def ofJson : Json → Node
  | .object members => ofParts (.object members) (nodesAmong members)
  | j => ofParts j []

/-- The nodes in the first member that is called so. -/
def nodesAmong : List (String × Json) → List Node
  | [] => []
  | (name, value) :: rest => if name = "nodes" then nodesIn value else nodesAmong rest

def nodesIn : Json → List Node
  | .array items => ofItems items
  | _ => []

/-- The nodes some values describe. -/
def ofItems : List Json → List Node
  | [] => []
  | j :: rest => ofJson j :: ofItems rest

end

end Node

namespace FlowTree

def json (t : FlowTree) : Json :=
  .members
    [("alias", .text t.aliasName), ("description", .text t.description), ("kind", t.kind.json),
      ("children", .array (Node.jsonAll t.nodes))]

def ofJson (j : Json) : FlowTree where
  aliasName := j.textAt "alias"
  description := j.textAt "description"
  kind := .at j
  nodes := Node.ofItems (j.itemsAt "children")

end FlowTree

/-! ## Plans and scenarios -/

namespace FlowPlan

def json (p : FlowPlan) : Json :=
  .members <| ("alias", .text p.aliasName) ::
    match p with
    | .fresh tree => [("tree", tree.json)]
    | .copyAndInject source aliasName marker nodes =>
      [("copy", .members
        [("source", .text source), ("alias", .text aliasName), ("marker", .text marker),
          ("nodes", .array (Node.jsonAll nodes))])]

def ofJson (j : Json) : FlowPlan :=
  match j.given? "copy" with
  | some copy =>
    .copyAndInject (copy.textAt "source") (copy.textAt "alias") (copy.textAt "marker")
      (Node.ofItems (copy.itemsAt "nodes"))
  | none => .fresh (.ofJson ((j.given? "tree").getD .null))

end FlowPlan

def ScenarioUser.json (u : ScenarioUser) : Json :=
  .members
    [("name", .text u.username), ("email", .text u.email), ("roles", .texts u.roles),
      ("otp", .bool u.secondFactor)]

def ScenarioUser.ofJson (j : Json) : ScenarioUser :=
  ⟨j.textAt "name", j.textsAt "roles", j.flagAt "otp"⟩

def Localization.json (l : Localization) : Json :=
  .members [("supported", .texts l.supported), ("default", .text l.default)]

def Localization.ofJson (j : Json) : Localization := ⟨j.textsAt "supported", j.textAt "default"⟩

namespace Scenario

def json (s : Scenario) : Json :=
  .members
    [("realm", .text s.realm), ("roles", .texts s.roles),
      ("users", .array (s.users.map ScenarioUser.json)),
      ("localization", (s.localization.map Localization.json).getD .null), ("flow", s.flow.json)]

def ofJson (j : Json) : Scenario where
  realm := j.textAt "realm"
  roles := j.textsAt "roles"
  users := (j.itemsAt "users").map .ofJson
  localization := (j.given? "localization").map .ofJson
  flow := .ofJson ((j.given? "flow").getD .null)

end Scenario

/-! ## Settings of codes by mail -/

/-- The trust with a name in an object; as the authenticator has it where there is none. -/
def Trust.at (j : Json) (name : String) : Trust :=
  match j.given? name with
  | some (.bool _) => .disabled
  | some value => value.int?.elim .unset fun n => .enabled (UInt32.ofNat n.toNat)
  | none => .unset

/-- The settings a value describes; the standard ones where it says nothing. -/
def OtpSettings.ofJson (j : Json) : OtpSettings :=
  let settings :=
    { standard with
      userRole := j.textAt? "user_role"
      alphabet := (j.textAt? "alphabet").getD standard.alphabet
      length := (j.natAt? "length").elim standard.length UInt32.ofNat
      ipTrust := .at j "ip_trust"
      deviceTrust := .at j "device_trust"
      trustOnlyWhenSole := (j.given? "sole").bind Json.bool? }
  (j.natAt? "lifetime_ms").elim settings fun ms => settings.withLifetime (.ofMillis ms)

end RealmSetup
