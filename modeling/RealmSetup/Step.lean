import RealmSetup.Effect.Attempt
import RealmSetup.Json.Value

/-!
# Steps and their journal

Setting up realms consists of steps that an onlooker can count and follow.  What is shown of a step
goes to the journal as notes: `observe` enters the step, counts the attempt, does the work, whose own
notes come in between, and counts the success or, after a warning, the failure.
-/

namespace RealmSetup

/-- A kind of step. -/
inductive StepKind where
  /-- Deleting a realm and creating it anew. -/
  | resetRealm
  /-- Setting the transport of outgoing mail. -/
  | configureMail
  /-- Creating the public client for tests. -/
  | ensureClient
  | ensureRole
  /-- Creating a user and finding out its id. -/
  | createUser
  | assignRole
  /-- Changing a required action of a realm or a user. -/
  | requiredAction
  | localization
  | enroll
  /-- Creating a top-level flow. -/
  | createFlow
  | copyFlow
  | deleteFlow
  | addLeaf
  | addSubflow
  | setRequirement
  | attachConfig
  | bindEntryPoint
  /-- Waiting, within bounds, for something that comes in time. -/
  | poll
  | scenario
  deriving DecidableEq, Repr

namespace StepKind

def label : StepKind → String
  | .resetRealm => "reset_realm"
  | .configureMail => "configure_mail"
  | .ensureClient => "ensure_client"
  | .ensureRole => "ensure_role"
  | .createUser => "create_user"
  | .assignRole => "assign_role"
  | .requiredAction => "required_action"
  | .localization => "localization"
  | .enroll => "enroll"
  | .createFlow => "create_flow"
  | .copyFlow => "copy_flow"
  | .deleteFlow => "delete_flow"
  | .addLeaf => "add_leaf"
  | .addSubflow => "add_subflow"
  | .setRequirement => "set_requirement"
  | .attachConfig => "attach_config"
  | .bindEntryPoint => "bind_entry_point"
  | .poll => "poll"
  | .scenario => "scenario"

def all : List StepKind :=
  [.resetRealm, .configureMail, .ensureClient, .ensureRole, .createUser, .assignRole,
    .requiredAction, .localization, .enroll, .createFlow, .copyFlow, .deleteFlow, .addLeaf,
    .addSubflow, .setRequirement, .attachConfig, .bindEntryPoint, .poll, .scenario]

end StepKind

/-- What is counted of a step. -/
inductive StepOutcome where
  /-- The step was entered. -/
  | attempt
  /-- The step was completed. -/
  | success
  /-- The step ended with an error. -/
  | failure
  deriving DecidableEq, Repr

namespace StepOutcome

def label : StepOutcome → String
  | .attempt => "attempt"
  | .success => "success"
  | .failure => "failure"

def all : List StepOutcome := [.attempt, .success, .failure]

end StepOutcome

/-- The weight of a log entry. -/
inductive LogLevel where
  /-- Every turn of a loop. -/
  | trace
  | debug
  /-- What an onlooker wants to know. -/
  | info
  /-- What should not happen. -/
  | warn
  deriving DecidableEq, Repr

def LogLevel.label : LogLevel → String
  | .trace => "TRACE"
  | .debug => "DEBUG"
  | .info => "INFO"
  | .warn => "WARN"

/-- An entry of the log. -/
structure LogEntry where
  level : LogLevel
  message : String
  fields : List (String × Json)

/-- What is shown to an onlooker. -/
inductive Note where
  | entered (step : StepKind) (realm : String)
  | counted (step : StepKind) (outcome : StepOutcome)
  | logged (entry : LogEntry)

/-- The name that everything logged about a step goes under. -/
def stepSpanName : String := "flow_provisioner.step"

/-- What is shown of a step that is under way. -/
def stepGuardText : String := "ProvisionSpanGuard(..)"

/-- The journal, which takes notes and answers nothing. -/
def Journal : Interface where
  Call := Note
  Answer _ := Unit

section Notes

variable {I : Interface} [Offers I Journal]

def note (n : Note) : Program I Unit :=
  Offers.perform (I := Journal) n

def count (step : StepKind) (outcome : StepOutcome) : Program I Unit :=
  note (.counted step outcome)

def log (level : LogLevel) (message : String) (fields : List (String × Json)) : Program I Unit :=
  note (.logged ⟨level, message, fields⟩)

/-- The warning about a step that ended with an error. -/
def failureEntry (step : StepKind) (realm : String) (e : Error) : LogEntry :=
  ⟨.warn, "provisioning step failed",
    [("step", .text step.label), ("realm", .text realm), ("error", .text e.message)]⟩

/-- Does `work` as a step of a realm, with notes of its beginning and its end. -/
def observe {α : Type} (step : StepKind) (realm : String) (work : Attempt I α) : Attempt I α :=
  ExceptT.mk do
    note (.entered step realm)
    count step .attempt
    match ← work.run with
    | .ok a =>
      count step .success
      return .ok a
    | .error e =>
      note (.logged (failureEntry step realm e))
      count step .failure
      return .error e

end Notes

end RealmSetup
