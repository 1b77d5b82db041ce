import RealmSetup.Proofs.Wire.Records

/-!
# Documents that keep what is not modelled

A user or a required action is written with the members that were kept beside those that are modelled.  If
no kept member has the name of a field, the two are told apart again (`Record.others_withKept`), and the
document is found as it was if the kept members leave room for what is around them, and is refused
otherwise (`UserRecord.decoderIn_of_value?`, `RequiredAction.decoderIn_of_value?`).

A value *survives* if it is found in the text it is printed as and in every other text that shows the same
value, and it is *refused* if all these are called malformed.  All records of the wire survive, those with
kept members just as far as these are nested no deeper than is looked, and beyond that they are refused
(`wire_survives`).
-/

namespace RealmSetup

namespace Json

namespace Record

variable {α : Type} {record : Record (KeyMap Json → α)} {kept : KeyMap Json}
  {modelled : List (String × Json)}

/-! ## Kept members -/

/-- No kept member has the name of a field. -/
def Apart (record : Record α) (kept : KeyMap Json) : Prop :=
  ∀ e ∈ kept.entries, record.lacks e.1 = true

theorem Apart.lookup_eq_none {record : Record α} (apart : record.Apart kept) {name : String}
    (isField : record.lacks name = false) : KeyMap.lookup name kept.entries = none := by
  refine KeyMap.lookup_eq_none_iff.2 fun known => ?_
  obtain ⟨e, mem, rfl⟩ := List.mem_map.1 known
  exact absurd (apart e mem) (by rw [isField]; exact Bool.false_ne_true)

theorem apart_others (record : Record α) (m : KeyMap Json) : record.Apart (record.others m) :=
  fun _ mem => (List.mem_filter.1 mem).2

theorem lookup_others (record : Record α) (m : KeyMap Json) (name : String) :
    KeyMap.lookup name (record.others m).entries =
      if record.lacks name then KeyMap.lookup name m.entries else none := by
  split
  · next lacks => exact KeyMap.lookup_filter_of lacks
  · next isField => exact (apart_others record m).lookup_eq_none (by simpa using isField)

theorem lookup_others_of_lacks {record : Record α} {name : String} (lacks : record.lacks name = true)
    (m : KeyMap Json) :
    KeyMap.lookup name (record.others m).entries = KeyMap.lookup name m.entries := by
  rw [lookup_others, if_pos lacks]

/-- The members of a document that is written back. -/
def document (kept : KeyMap Json) (modelled : List (String × Json)) : KeyMap Json :=
  .ofList (kept.entries ++ modelled)

@[simp] theorem lookup_document (kept : KeyMap Json) (modelled : List (String × Json)) (name : String) :
    KeyMap.lookup name (document kept modelled).entries =
      (KeyMap.lookup name modelled.reverse).or (KeyMap.lookup name kept.entries) := by
  have reversed : KeyMap.lookup name kept.entries.reverse = KeyMap.lookup name kept.entries :=
    (KeyMap.lookup_perm kept.keys_nodup kept.entries.reverse_perm.symm name).symm
  rw [document, KeyMap.lookup_entries_ofList, List.reverse_append, KeyMap.lookup_append, reversed]

/-- Kept members are told apart from those that are modelled. -/
theorem others_document (apart : record.Apart kept)
    (fields : ∀ e ∈ modelled, record.lacks e.1 = false) :
    record.others (document kept modelled) = kept := by
  refine KeyMap.ext_lookup fun name => ?_
  rw [lookup_others, lookup_document]
  split
  · next lacks =>
    have absent : KeyMap.lookup name modelled.reverse = none := by
      refine KeyMap.lookup_eq_none_iff.2 fun known => ?_
      obtain ⟨e, mem, rfl⟩ := List.mem_map.1 known
      exact absurd lacks (by rw [fields e (List.mem_reverse.1 mem)]; exact Bool.false_ne_true)
    rw [absent, Option.none_or]
  · next isField => exact (apart.lookup_eq_none (by simpa using isField)).symm

theorem plain_document (plainKept : AllPlain kept.entries) (plain : AllPlain modelled) :
    AllPlain (document kept modelled).entries :=
  allPlain_ofList (allPlain_append.2 ⟨plainKept, plain⟩)

/-- What is found keeping other members was found in an object. -/
theorem exists_object_of_finds (steady : record.Steady) {room : Nat} {j : Json} {a : α} (plain : Plain j)
    (h : Finds (record.decodeOpen room) j a) :
    ∃ m build, j = .ofMap m ∧ record.Builds m.entries build ∧ a = build (record.others m) ∧
      depthMembers (record.others m).entries ≤ room - 1 := by
  obtain ⟨r, value, -⟩ := read_render plain
  have found := h r value
  cases r with
  | object rs closed =>
    obtain ⟨rfl, members, -, -, rfl⟩ := Raw.value?_object.1 value
    obtain ⟨build, builds⟩ := exists_builds_of_decodeOpen (m := .ofList members) steady value found
    exact ⟨_, build, rfl, builds⟩
  | _ => cases found

/-- What is found in little room is found in more. -/
theorem finds_decodeOpen_mono (steady : record.Steady) {room room' : Nat} {j : Json} {a : α}
    (plain : Plain j) (h : Finds (record.decodeOpen room) j a) (le : room ≤ room') :
    Finds (record.decodeOpen room') j a := by
  obtain ⟨m, build, rfl, builds, rfl, shallow⟩ := exists_object_of_finds steady plain h
  exact finds_decodeOpen builds (by omega)

theorem plain_others {record : Record α} {m : KeyMap Json} (plain : Plain (.ofMap m)) :
    AllPlain (record.others m).entries := by
  cases plain with
  | object _ all => exact fun e mem => all e (List.mem_filter.1 mem).1

end Record

/-- Nothing else is found in a plain value. -/
theorem Finds.unique {α : Type} {decode : Decoder α} {j : Json} {a b : α} (ha : Finds decode j a)
    (plain : Plain j) (hb : Finds decode j b) : a = b := by
  obtain ⟨r, value, -⟩ := read_render plain
  exact Except.ok.inj ((ha r value).symm.trans (hb r value))

end Json

open Json Json.Record

/-! ## Users -/

namespace UserRecord

/-- The members of a user's document. -/
def document (u : UserRecord) : KeyMap Json :=
  Record.document u.extra <|
    [("id", .text u.id), ("username", .text u.username)] ++ Json.given "email" u.email
      ++ [("requiredActions", .texts u.requiredActions)]

theorem steady_record : record.Steady :=
  ⟨⟨⟨⟨trivial, steady_string⟩, steady_string⟩, steady_string.nullable⟩, steady_string.list⟩

theorem plain_document {u : UserRecord} (plain : AllPlain u.extra.entries) :
    AllPlain u.document.entries :=
  Record.plain_document plain (by simp)

theorem others_document {u : UserRecord} (apart : record.Apart u.extra) :
    record.others u.document = u.extra :=
  Record.others_document apart (by
    rcases u.email with _ | email <;> simp [Json.given] <;> decide)

theorem builds_document {u : UserRecord} (apart : record.Apart u.extra) :
    record.Builds u.document.entries
      (UserRecord.mk u.id u.username u.email u.requiredActions) := by
  have email : KeyMap.lookup "email" u.extra.entries = none := apart.lookup_eq_none (by decide)
  exact builds_of UserRecord.mk
    |>.field (by simp [document]) (finds_string u.id)
    |>.field (by simp [document]) (finds_string u.username)
    |>.given (by simp [document, email])
    |>.field (by simp [document, texts]) (finds_list_map finds_string u.requiredActions)

/-- A user is found in their document if what was kept leaves room for it. -/
theorem decoderIn_of_value? {u : UserRecord} (apart : record.Apart u.extra) {room : Nat} {r : Raw}
    (value : r.value? = some u.json) :
    decoderIn room r =
      if depthMembers u.extra.entries ≤ room - 1 then .ok u else .error .malformed := by
  have found := decodeOpen_object room (builds_document apart) value
  rwa [others_document apart] at found

theorem finds_json {u : UserRecord} (apart : record.Apart u.extra) {room : Nat}
    (shallow : depthMembers u.extra.entries ≤ room - 1) : Finds (decoderIn room) u.json u := by
  intro r value
  rw [decoderIn_of_value? apart value, if_pos shallow]

/-- A document in which a user is found consists of the fields and what is kept. -/
theorem exists_object_of_finds {room : Nat} {j : Json} {u : UserRecord} (plain : Plain j)
    (h : Finds (decoderIn room) j u) :
    ∃ m, j = .ofMap m ∧ u.extra = record.others m ∧ depthMembers u.extra.entries ≤ room - 1 := by
  obtain ⟨m, build, rfl, builds, rfl, shallow⟩ :=
    Record.exists_object_of_finds steady_record plain h
  obtain ⟨_, _, ⟨_, _, ⟨_, _, ⟨_, _, rfl, rfl, -⟩, rfl, -⟩, rfl, -⟩, rfl, -⟩ := builds
  exact ⟨m, rfl, rfl, shallow⟩

end UserRecord

/-! ## Required actions -/

namespace RequiredAction

/-- The members of a required action's document. -/
def document (a : RequiredAction) : KeyMap Json :=
  Record.document a.extra
    [("alias", .text a.aliasName), ("name", .text a.name), ("enabled", .bool a.enabled),
      ("defaultAction", .bool a.defaultAction)]

theorem steady_record : record.Steady :=
  ⟨⟨⟨⟨trivial, steady_string⟩, steady_string⟩, steady_boolean⟩, steady_boolean⟩

theorem plain_document {a : RequiredAction} (plain : AllPlain a.extra.entries) :
    AllPlain a.document.entries :=
  Record.plain_document plain (by simp)

theorem others_document {a : RequiredAction} (apart : record.Apart a.extra) :
    record.others a.document = a.extra :=
  Record.others_document apart (by simp; decide)

theorem builds_document (a : RequiredAction) :
    record.Builds a.document.entries
      (RequiredAction.mk a.aliasName a.name a.enabled a.defaultAction) :=
  builds_of RequiredAction.mk
    |>.field (by simp [document]) (finds_string a.aliasName)
    |>.field (by simp [document]) (finds_string a.name)
    |>.field (by simp [document]) (finds_boolean a.enabled)
    |>.field (by simp [document]) (finds_boolean a.defaultAction)

/-- A required action is found in its document if what was kept leaves room for it. -/
theorem decoderIn_of_value? {a : RequiredAction} (apart : record.Apart a.extra) {room : Nat} {r : Raw}
    (value : r.value? = some a.json) :
    decoderIn room r =
      if depthMembers a.extra.entries ≤ room - 1 then .ok a else .error .malformed := by
  have found := decodeOpen_object room (builds_document a) value
  rwa [others_document apart] at found

theorem finds_json {a : RequiredAction} (apart : record.Apart a.extra) {room : Nat}
    (shallow : depthMembers a.extra.entries ≤ room - 1) : Finds (decoderIn room) a.json a := by
  intro r value
  rw [decoderIn_of_value? apart value, if_pos shallow]

/-- A document in which a required action is found consists of the fields and what is kept. -/
theorem exists_object_of_finds {room : Nat} {j : Json} {a : RequiredAction} (plain : Plain j)
    (h : Finds (decoderIn room) j a) :
    ∃ m, j = .ofMap m ∧ a.extra = record.others m ∧ depthMembers a.extra.entries ≤ room - 1 := by
  obtain ⟨m, build, rfl, builds, rfl, shallow⟩ :=
    Record.exists_object_of_finds steady_record plain h
  obtain ⟨_, _, ⟨_, _, ⟨_, _, ⟨_, _, rfl, rfl, -⟩, rfl, -⟩, rfl, -⟩, rfl, -⟩ := builds
  exact ⟨m, rfl, rfl, shallow⟩

end RequiredAction

/-! ## What survives -/

namespace Json

variable {α : Type} {encode : α → Json} {decode : Decoder α} {a : α}

/-- A value is found again in what it was written as. -/
structure Survives (encode : α → Json) (decode : Decoder α) (a : α) : Prop where
  /-- It is all there is in the text it is printed as. -/
  printed : decodeAll decode (Utf8.glyphs (Utf8.encode (encode a).render)) = .ok a
  /-- It is found in every text that shows the same value, in whatever layout and order. -/
  shown : ∀ bytes, Shows bytes (encode a) → decodeFirst decode (Utf8.glyphs bytes) = .ok a

/-- A value is written, but nothing is found in what it was written as. -/
structure Refused (encode : α → Json) (decode : Decoder α) (a : α) : Prop where
  printed : decodeAll decode (Utf8.glyphs (Utf8.encode (encode a).render)) = .error .malformed
  shown : ∀ bytes, Shows bytes (encode a) → decodeFirst decode (Utf8.glyphs bytes) = .error .malformed

theorem Refused.not_survives (refused : Refused encode decode a) : ¬Survives encode decode a := by
  intro survives
  cases survives.printed.symm.trans refused.printed

theorem exists_decodeAll_render {j : Json} (plain : Plain j) :
    ∃ r, r.value? = some j ∧ ∀ {α : Type} (decode : Decoder α),
      decodeAll decode (Utf8.glyphs (Utf8.encode j.render)) = decode r := by
  obtain ⟨r, value, read⟩ := read_render plain
  refine ⟨r, value, fun decode => ?_⟩
  rw [decodeAll, read]
  show (do let a ← decode r; endAt true; return a) = decode r
  cases decode r <;> rfl

theorem survives_of_finds (plain : Plain (encode a)) (finds : Finds decode (encode a) a) :
    Survives encode decode a := by
  obtain ⟨r, value, whole⟩ := exists_decodeAll_render plain
  exact ⟨(whole decode).trans (finds r value), fun bytes shows => finds _ shows⟩

theorem refused_of_error (plain : Plain (encode a))
    (error : ∀ r : Raw, r.value? = some (encode a) → decode r = .error .malformed) :
    Refused encode decode a := by
  obtain ⟨r, value, whole⟩ := exists_decodeAll_render plain
  exact ⟨(whole decode).trans (error r value), fun bytes shows => error _ shows⟩

/-- What is found up to a depth survives up to that depth, and is refused beyond it. -/
theorem survives_iff_refused_iff {depth room : Nat} (plain : Plain (encode a))
    (found : ∀ r : Raw, r.value? = some (encode a) →
      decode r = if depth ≤ room then .ok a else .error .malformed) :
    (Survives encode decode a ↔ depth ≤ room) ∧ (Refused encode decode a ↔ room < depth) := by
  have survives (shallow : depth ≤ room) : Survives encode decode a :=
    survives_of_finds plain fun r value => by rw [found r value, if_pos shallow]
  have refused (deep : room < depth) : Refused encode decode a :=
    refused_of_error plain fun r value => by rw [found r value, if_neg (Nat.not_le.2 deep)]
  exact ⟨⟨fun h => Nat.not_lt.1 fun deep => (refused deep).not_survives h, survives⟩,
    ⟨fun h => Nat.not_le.1 fun shallow => h.not_survives (survives shallow), refused⟩⟩

end Json

theorem UserRecord.survives_iff_refused_iff {u : UserRecord} (apart : UserRecord.record.Apart u.extra)
    (plain : AllPlain u.extra.entries) :
    (Survives UserRecord.json UserRecord.decoder u ↔ depthMembers u.extra.entries ≤ 126) ∧
      (Refused UserRecord.json UserRecord.decoder u ↔ 126 < depthMembers u.extra.entries) :=
  Json.survives_iff_refused_iff (plain_ofMap (UserRecord.plain_document plain))
    fun _ value => UserRecord.decoderIn_of_value? apart value

theorem RequiredAction.survives_iff_refused_iff {a : RequiredAction}
    (apart : RequiredAction.record.Apart a.extra) (plain : AllPlain a.extra.entries) :
    (Survives RequiredAction.json RequiredAction.decoder a ↔ depthMembers a.extra.entries ≤ 126) ∧
      (Refused RequiredAction.json RequiredAction.decoder a ↔ 126 < depthMembers a.extra.entries) :=
  Json.survives_iff_refused_iff (plain_ofMap (RequiredAction.plain_document plain))
    fun _ value => RequiredAction.decoderIn_of_value? apart value

/-- Every record of the wire is found again in what it was written as, whatever it holds.  One that keeps
members it does not name is so exactly if these are nested no deeper than is looked, and is refused if they
are. -/
theorem wire_survives :
    (∀ e, Survives Execution.json Execution.decoder e)
      ∧ (∀ es, Survives (fun es => .array (es.map Execution.json)) (Json.list Execution.decoder) es)
      ∧ (∀ f, Survives FlowSummary.json FlowSummary.decoder f)
      ∧ (∀ c, Survives AuthenticatorConfig.json AuthenticatorConfig.decoder c)
      ∧ (∀ r, Survives Requirement.json Requirement.decoder r)
      ∧ (∀ k, Survives FlowKind.json FlowKind.decoder k)
      ∧ (∀ id, Survives NodeId.json NodeId.decoder id)
      ∧ (∀ r, Survives RealmSummary.json RealmSummary.decoder r)
      ∧ (∀ r, Survives Role.json Role.decoder r)
      ∧ (∀ t, Survives MailTransport.json MailTransport.decoder t)
      ∧ (∀ c, Survives ClientSummary.json ClientSummary.decoder c)
      ∧ (∀ m, Survives Mailbox.json Mailbox.decoder m)
      ∧ (∀ m, Survives MessageSummary.json MessageSummary.decoder m)
      ∧ (∀ m, Survives Message.json Message.decoder m)
      ∧ (∀ s, Survives Secret.json Secret.decoder s)
      ∧ (∀ u : UserRecord, UserRecord.record.Apart u.extra → AllPlain u.extra.entries →
          (Survives UserRecord.json UserRecord.decoder u ↔ depthMembers u.extra.entries ≤ 126) ∧
          (Refused UserRecord.json UserRecord.decoder u ↔ 126 < depthMembers u.extra.entries))
      ∧ (∀ a : RequiredAction, RequiredAction.record.Apart a.extra → AllPlain a.extra.entries →
          (Survives RequiredAction.json RequiredAction.decoder a ↔
            depthMembers a.extra.entries ≤ 126) ∧
          (Refused RequiredAction.json RequiredAction.decoder a ↔
            126 < depthMembers a.extra.entries)) := by
  refine ⟨fun e => survives_of_finds e.plain_json e.finds_json,
    fun es => survives_of_finds (plain_array_map Execution.plain_json es)
      (finds_list_map Execution.finds_json es),
    fun f => survives_of_finds f.plain_json f.finds_json,
    fun c => survives_of_finds c.plain_json c.finds_json,
    fun r => survives_of_finds (.text r.label) r.finds_json,
    fun k => survives_of_finds (.text k.providerId) k.finds_json,
    fun id => survives_of_finds (.text id.text) id.finds_json,
    fun r => survives_of_finds r.plain_json r.finds_json,
    fun r => survives_of_finds r.plain_json r.finds_json,
    fun t => survives_of_finds t.plain_json t.finds_json,
    fun c => survives_of_finds c.plain_json c.finds_json,
    fun m => survives_of_finds m.plain_json m.finds_json,
    fun m => survives_of_finds m.plain_json m.finds_json,
    fun m => survives_of_finds m.plain_json m.finds_json,
    fun s => survives_of_finds (.text s.expose) s.finds_json, ?users, ?actions⟩
  case users =>
    intro u apart plain
    exact UserRecord.survives_iff_refused_iff apart plain
  case actions =>
    intro a apart plain
    exact RequiredAction.survives_iff_refused_iff apart plain

/-! ## As deep as is looked -/

/-- A list in a list, so many times. -/
def Json.nested : Nat → Json
  | 0 => .null
  | n + 1 => .array [nested n]

theorem Json.depth_nested (n : Nat) : (nested n).depth = n := by
  induction n with
  | zero => rfl
  | succ n ih => simp [nested, depth, depthAll, ih]

theorem Json.plain_nested (n : Nat) : Plain (nested n) := by
  induction n with
  | zero => exact .null
  | succ n ih => exact .array (by simpa using ih)

/-- A user with one kept member, nested so deep. -/
def UserRecord.withNested (n : Nat) : UserRecord where
  id := "u-1"
  username := "alice"
  email := none
  requiredActions := ["UPDATE_PASSWORD"]
  extra := .ofList [("attributes", nested n)]

theorem UserRecord.apart_withNested (n : Nat) : record.Apart (withNested n).extra := by
  simp [Apart, withNested, KeyMap.ofList, KeyMap.insert, KeyMap.insertEntry, KeyMap.empty]
  decide

theorem UserRecord.allPlain_withNested (n : Nat) : AllPlain (withNested n).extra.entries := by
  simp [withNested, KeyMap.ofList, KeyMap.insert, KeyMap.insertEntry, KeyMap.empty, plain_nested]

theorem UserRecord.depth_withNested (n : Nat) : depthMembers (withNested n).extra.entries = n := by
  simp [withNested, KeyMap.ofList, KeyMap.insert, KeyMap.insertEntry, KeyMap.empty, depthMembers,
    depth_nested]

theorem wire_survives_nested :
    UserRecord.record.Apart (UserRecord.withNested 126).extra ∧
      AllPlain (UserRecord.withNested 126).extra.entries ∧
      Survives UserRecord.json UserRecord.decoder (UserRecord.withNested 126) ∧
      Refused UserRecord.json UserRecord.decoder (UserRecord.withNested 127) := by
  obtain ⟨-, -, -, -, -, -, -, -, -, -, -, -, -, -, -, users, -⟩ := wire_survives
  have nested (n : Nat) := users _ (UserRecord.apart_withNested n) (UserRecord.allPlain_withNested n)
  simp only [UserRecord.depth_withNested] at nested
  exact ⟨UserRecord.apart_withNested 126, UserRecord.allPlain_withNested 126,
    (nested 126).1.2 (by decide), (nested 127).2.2 (by decide)⟩

/-- One level deeper nothing is found any more, though nothing is wrong with the text. -/
theorem nested_deeper_is_malformed :
    UserRecord.record.Apart (UserRecord.withNested 127).extra ∧
      AllPlain (UserRecord.withNested 127).extra.entries ∧
      decodeAll UserRecord.decoder
          (Utf8.glyphs (Utf8.encode (UserRecord.withNested 127).json.render)) =
        .error .malformed := by
  have apart := UserRecord.apart_withNested 127
  have plain := UserRecord.allPlain_withNested 127
  have deep : 126 < depthMembers (UserRecord.withNested 127).extra.entries := by
    rw [UserRecord.depth_withNested]
    decide
  exact ⟨apart, plain, ((UserRecord.survives_iff_refused_iff apart plain).2.2 deep).printed⟩

end RealmSetup
