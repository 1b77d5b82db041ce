import RealmSetup.Admin.Documents
import RealmSetup.Flow.Execution
import RealmSetup.Mail.Message
import RealmSetup.Proofs.Json.Printing
import RealmSetup.Proofs.Json.Shapes
import RealmSetup.Secret

/-!
# What is written is found again

Each record that is sent or received has two laws: the value it is written as is plain (`plain_json`), and
its decoder finds the record in that value (`finds_json`).  Both are put together from the laws of the
fields, so that a field that is written under one name and looked for under another, or left out where it
has no default, has no proof.
-/

namespace RealmSetup

namespace Json

/-! ## Plain parts -/

@[simp] theorem plain_text (s : String) : Plain (.text s) :=
  .text s

@[simp] theorem plain_bool (b : Bool) : Plain (.bool b) :=
  .bool b

@[simp] theorem plain_textOrNull (s : Option String) : Plain (textOrNull s) := by
  cases s with
  | none => exact .null
  | some s => exact .text s

@[simp] theorem plain_texts (ss : List String) : Plain (texts ss) :=
  .array fun j mem => by
    obtain ⟨s, -, rfl⟩ := List.mem_map.1 mem
    exact .text s

@[simp] theorem plain_uint32 (n : UInt32) : Plain (.nat n.toNat) := by
  have below := n.toNat_lt
  exact .int (by omega) (by omega)

theorem plain_array_map {α : Type} {encode : α → Json} (h : ∀ a, Plain (encode a)) (as : List α) :
    Plain (.array (as.map encode)) :=
  .array fun j mem => by
    obtain ⟨a, -, rfl⟩ := List.mem_map.1 mem
    exact h a

theorem plain_ofMap {m : KeyMap Json} (h : ∀ e ∈ m.entries, Plain e.2) : Plain (.ofMap m) :=
  .object m.ascend h

/-- The values of all members are plain. -/
def AllPlain (ms : List (String × Json)) : Prop :=
  ∀ e ∈ ms, Plain e.2

@[simp] theorem allPlain_nil : AllPlain [] :=
  nofun

@[simp] theorem allPlain_cons {e : String × Json} {ms : List (String × Json)} :
    AllPlain (e :: ms) ↔ Plain e.2 ∧ AllPlain ms :=
  List.forall_mem_cons

@[simp] theorem allPlain_append {ms ms' : List (String × Json)} :
    AllPlain (ms ++ ms') ↔ AllPlain ms ∧ AllPlain ms' :=
  List.forall_mem_append

@[simp] theorem allPlain_given (name : String) (value : Option String) :
    AllPlain (given name value) := by
  cases value <;> simp [given]

theorem allPlain_ofList {ms : List (String × Json)} (h : AllPlain ms) :
    AllPlain (KeyMap.ofList ms).entries :=
  fun e mem => h e (KeyMap.mem_of_mem_entries_ofList mem)

theorem plain_members {ms : List (String × Json)} (h : AllPlain ms) : Plain (.members ms) :=
  plain_ofMap (allPlain_ofList h)

/-! ## Members of records -/

@[simp] theorem lookup_members (ms : List (String × Json)) (name : String) :
    KeyMap.lookup name (KeyMap.ofList ms).entries = KeyMap.lookup name ms.reverse :=
  KeyMap.lookup_entries_ofList ms name

@[simp] theorem reverse_given (name : String) (value : Option String) :
    (given name value).reverse = given name value := by
  cases value <;> rfl

@[simp] theorem lookup_given (name name' : String) (value : Option String) :
    KeyMap.lookup name (given name' value) = if name' = name then value.map .text else none := by
  cases value with
  | none => simp [given]
  | some s => simp [given]

namespace Record

variable {α : Type} {before : Record (Option String → α)} {f : Option String → α}
  {ms : List (String × Json)} {name : String}

/-- A text that is left out where it is missing is found again. -/
theorem Builds.given {value : Option String} (h : before.Builds ms f)
    (read : KeyMap.lookup name ms = value.map .text) :
    (before.optional name (nullable string) none).Builds ms (f value) := by
  cases value with
  | none => exact h.left_out read
  | some s => exact h.field read (finds_nullable nofun (finds_string s))

end Record

end Json

open Json Json.Record

/-! ## Names -/

theorem Requirement.ofLabel?_label (r : Requirement) : ofLabel? r.label = some r := by
  cases r <;> rfl

theorem Requirement.finds_json (r : Requirement) : Finds decoder r.json r :=
  finds_oneOf r.ofLabel?_label

theorem FlowKind.ofProviderId?_providerId (k : FlowKind) : ofProviderId? k.providerId = some k := by
  cases k <;> rfl

theorem FlowKind.finds_json (k : FlowKind) : Finds decoder k.json k :=
  finds_oneOf k.ofProviderId?_providerId

theorem NodeId.finds_json (id : NodeId) : Finds decoder id.json id :=
  (finds_string id.text).map NodeId.mk

theorem Secret.finds_json (s : Secret) : Finds decoder s.json s :=
  (finds_string s.expose).map Secret.mk

/-! ## Flows -/

namespace Execution

theorem plain_json (e : Execution) : Plain e.json :=
  plain_members (by simp [NodeId.json, Requirement.json])

theorem finds_json (e : Execution) : Finds decoder e.json e :=
  finds_decode <| builds_of Execution.mk
    |>.field (by simp) e.id.finds_json
    |>.field (by simp) e.requirement.finds_json
    |>.field (by simp) (finds_string e.displayName)
    |>.given (by simp)
    |>.field (by simp) (finds_boolean e.isFlow)
    |>.given (by simp)
    |>.field (by simp) (finds_uint32 e.level)
    |>.field (by simp) (finds_uint32 e.index)
    |>.given (by simp)
    |>.given (by simp)

end Execution

namespace FlowSummary

theorem plain_json (f : FlowSummary) : Plain f.json :=
  plain_members (by simp)

theorem finds_json (f : FlowSummary) : Finds decoder f.json f :=
  finds_decode <| builds_of FlowSummary.mk
    |>.field (by simp) (finds_string f.id)
    |>.field (by simp) (finds_string f.aliasName)
    |>.field (by simp) (finds_nullable_textOrNull f.description)
    |>.field (by simp) (finds_string f.providerId)
    |>.field (by simp) (finds_boolean f.topLevel)
    |>.field (by simp) (finds_boolean f.builtIn)

end FlowSummary

namespace AuthenticatorConfig

theorem plain_json (c : AuthenticatorConfig) : Plain c.json := by
  have settings : Plain (.ofTexts c.config) := by
    refine plain_ofMap fun e mem => ?_
    obtain ⟨setting, -, rfl⟩ := List.mem_map.1 mem
    exact .text setting.2
  exact plain_members (by simp [settings])

theorem finds_json (c : AuthenticatorConfig) : Finds decoder c.json c :=
  finds_decode <| builds_of AuthenticatorConfig.mk
    |>.given (by simp)
    |>.field (by simp) (finds_string c.aliasName)
    |>.field (by simp [ofTexts]) (finds_dict finds_string c.config)

end AuthenticatorConfig

/-! ## Realms -/

namespace RealmSummary

theorem plain_json (r : RealmSummary) : Plain r.json :=
  plain_members (by simp)

theorem finds_json (r : RealmSummary) : Finds decoder r.json r :=
  finds_decode <| builds_of RealmSummary.mk
    |>.field (by simp) (finds_string r.realm)
    |>.field (by simp) (finds_boolean r.enabled)
    |>.field (by simp) (finds_nullable_textOrNull r.browserFlow)
    |>.field (by simp) (finds_boolean r.internationalizationEnabled)
    |>.field (by simp [texts]) (finds_list_map finds_string r.supportedLocales)
    |>.field (by simp) (finds_nullable_textOrNull r.defaultLocale)

end RealmSummary

namespace Role

theorem plain_json (r : Role) : Plain r.json :=
  plain_members (by simp)

theorem finds_json (r : Role) : Finds decoder r.json r :=
  finds_decode <| builds_of Role.mk
    |>.field (by simp) (finds_string r.id)
    |>.field (by simp) (finds_string r.name)

end Role

namespace MailTransport

theorem plain_json (t : MailTransport) : Plain t.json :=
  plain_members (by simp)

theorem finds_json (t : MailTransport) : Finds decoder t.json t :=
  finds_decode <| builds_of MailTransport.mk
    |>.field (by simp) (finds_string t.host)
    |>.field (by simp) (finds_string t.port)
    |>.field (by simp) (finds_string t.from)
    |>.field (by simp) (finds_string t.fromDisplayName)

end MailTransport

namespace ClientSummary

theorem plain_json (c : ClientSummary) : Plain c.json :=
  plain_members (by simp)

theorem finds_json (c : ClientSummary) : Finds decoder c.json c :=
  finds_decode <| builds_of ClientSummary.mk
    |>.field (by simp) (finds_string c.id)
    |>.field (by simp) (finds_string c.clientId)

end ClientSummary

/-! ## Mail -/

namespace Mailbox

theorem plain_json (m : Mailbox) : Plain m.json :=
  plain_members (by simp)

theorem finds_json (m : Mailbox) : Finds decoder m.json m :=
  finds_decode <| builds_of Mailbox.mk
    |>.field (by simp) (finds_string m.name)
    |>.field (by simp) (finds_string m.address)

theorem plain_jsonOrNull (m : Option Mailbox) : Plain (jsonOrNull m) := by
  cases m with
  | none => exact .null
  | some m => exact m.plain_json

theorem finds_jsonOrNull (m : Option Mailbox) : Finds (nullable decoder) (jsonOrNull m) m := by
  cases m with
  | none => exact finds_nullable_null decoder
  | some m => exact finds_nullable nofun m.finds_json

end Mailbox

namespace MessageSummary

theorem plain_json (m : MessageSummary) : Plain m.json :=
  plain_members (by
    simp [Mailbox.plain_jsonOrNull, plain_array_map Mailbox.plain_json])

theorem finds_json (m : MessageSummary) : Finds decoder m.json m :=
  finds_decode <| builds_of MessageSummary.mk
    |>.field (by simp) (finds_string m.id)
    |>.field (by simp) (Mailbox.finds_jsonOrNull m.sender)
    |>.field (by simp) (finds_list_map Mailbox.finds_json m.recipients)
    |>.field (by simp) (finds_string m.subject)
    |>.field (by simp) (finds_string m.snippet)

end MessageSummary

namespace Message

theorem plain_json (m : Message) : Plain m.json :=
  plain_members (by
    simp [Mailbox.plain_jsonOrNull, plain_array_map Mailbox.plain_json])

theorem finds_json (m : Message) : Finds decoder m.json m :=
  finds_decode <| builds_of Message.mk
    |>.field (by simp) (finds_string m.id)
    |>.field (by simp) (Mailbox.finds_jsonOrNull m.sender)
    |>.field (by simp) (finds_list_map Mailbox.finds_json m.recipients)
    |>.field (by simp) (finds_string m.subject)
    |>.field (by simp) (finds_string m.text)
    |>.field (by simp) (finds_string m.html)

end Message

end RealmSetup
