import RealmSetup.Json.Decode

/-!
# Requirements and kinds of flows

Every node of a flow carries a requirement, which says what it means for the flow that the node holds
or fails.  A flow is of one of two kinds.  On the wire both are names.
-/

namespace RealmSetup

/-- What a node means for the flow it stands in. -/
inductive Requirement where
  /-- The node must hold. -/
  | required
  /-- One of the alternatives beside each other must hold. -/
  | alternative
  /-- The node counts only when its conditions hold. -/
  | conditional
  /-- The node is skipped. -/
  | disabled
  deriving DecidableEq, Repr

namespace Requirement

def label : Requirement → String
  | .required => "REQUIRED"
  | .alternative => "ALTERNATIVE"
  | .conditional => "CONDITIONAL"
  | .disabled => "DISABLED"

def all : List Requirement := [.required, .alternative, .conditional, .disabled]

def ofLabel? (name : String) : Option Requirement :=
  all.find? fun r => r.label = name

def json (r : Requirement) : Json := .text r.label

def decoder : Json.Decoder Requirement := Json.oneOf ofLabel?

end Requirement

/-- A kind of flow. -/
inductive FlowKind where
  /-- Authenticators one after another. -/
  | basic
  /-- Authenticators that make up one form. -/
  | form
  deriving DecidableEq, Repr

namespace FlowKind

/-- The name of a kind. -/
def providerId : FlowKind → String
  | .basic => "basic-flow"
  | .form => "form-flow"

def all : List FlowKind := [.basic, .form]

def ofProviderId? (name : String) : Option FlowKind :=
  all.find? fun k => k.providerId = name

def json (k : FlowKind) : Json := .text k.providerId

def decoder : Json.Decoder FlowKind := Json.oneOf ofProviderId?

end FlowKind

end RealmSetup
