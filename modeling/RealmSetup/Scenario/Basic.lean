import RealmSetup.Flow.Builder
import RealmSetup.Text.LowerCase
import RealmSetup.Text.Search

/-!
# Scenarios

A scenario says what a realm is to contain and how its entry point is made: from a tree, or as a copy
of a flow into one of whose subflows some nodes are put.  `Scenario.applyFlow` sees to the flow alone,
with any server: it deletes an earlier flow of the same alias, builds the new one and binds it last.
-/

namespace RealmSetup

def userDomain : String := "test.local"

/-- A user of a scenario. -/
structure ScenarioUser where
  username : String
  roles : List String
  /-- Whether a second factor is enrolled for the user. -/
  secondFactor : Bool
  deriving DecidableEq, Repr

def ScenarioUser.email (u : ScenarioUser) : String := u.username ++ "@" ++ userDomain

/-- The languages of a realm. -/
structure Localization where
  supported : List String
  /-- The language that is used where none is chosen. -/
  default : String
  deriving DecidableEq, Repr

/-- How the entry point of a scenario is made. -/
inductive FlowPlan where
  /-- A new flow. -/
  | fresh (tree : FlowTree)
  /-- A copy of a flow, with nodes added to the first subflow whose name holds a marker. -/
  | copyAndInject (source aliasName formsMarker : String) (nodes : List Node)

/-- The alias of the flow that a plan makes. -/
def FlowPlan.aliasName : FlowPlan → String
  | .fresh tree => tree.aliasName
  | .copyAndInject _ aliasName _ _ => aliasName

/-- What a realm is to contain. -/
structure Scenario where
  realm : String
  roles : List String
  /-- The users in the order of their creation. -/
  users : List ScenarioUser
  /-- The languages, if any are set. -/
  localization : Option Localization
  flow : FlowPlan

namespace FlowPlan

/-- Whether a row is a subflow whose name holds a marker, whatever the case of letters. -/
def isMarked (marker : String) (e : Execution) : Bool :=
  e.isFlow && Text.contains (Text.lower e.displayName) (Text.lower marker)

/-- Makes the flow of a plan, without binding it. -/
def construct (realm : String) : FlowPlan → Builder.Work BuildReport
  | .fresh tree => Builder.build realm tree
  | .copyAndInject source aliasName marker nodes => do
    let _ ← Builder.copyFlow realm source aliasName
    let forms ← Builder.findChild realm aliasName ("subflow containing `" ++ marker ++ "`")
      (isMarked marker)
    let parent := forms.subflowAlias.getD forms.displayName
    Builder.settled (Builder.extend realm (.start aliasName) parent nodes)

/-- Replaces a flow of the same alias by that of a plan and binds it. -/
def apply (realm : String) (plan : FlowPlan) : Builder.Work BuildReport := do
  let _ ← Builder.deleteFlow realm plan.aliasName
  let report ← plan.construct realm
  Builder.bind realm report

end FlowPlan

/-- Makes and binds the entry point of a scenario in a realm. -/
def Scenario.applyFlow (s : Scenario) (realm : String) : Builder.Work BuildReport :=
  s.flow.apply realm

end RealmSetup
