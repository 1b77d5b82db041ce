import RealmSetup.Proofs.Admin.DocumentServer
import RealmSetup.Proofs.Wire.Documents

/-!
# What documents are about

A document is *about* a user or a required action if that is what a client finds in it, in whatever layout
it is shown (`Document.About`).  What is not modelled stands in the document as it is kept
(`Document.About.get?_eq`), so that a document that is written back with the same members kept says the
same where it is not modelled, and is about what it was written for (`Document.About.replace`).
-/

namespace RealmSetup

open Json Json.Record

/-- A user or a required action. -/
inductive Subject where
  | user (u : UserRecord)
  | action (a : RequiredAction)

namespace Subject

/-- What a document about it is written as. -/
def json : Subject → Json
  | user u => u.json
  | action a => a.json

/-- The members that are kept. -/
def extra : Subject → KeyMap Json
  | user u => u.extra
  | action a => a.extra

/-- Whether a name is not that of a modelled field. -/
def lacks : Subject → String → Bool
  | user _ => UserRecord.record.lacks
  | action _ => RequiredAction.record.lacks

end Subject

/-- What is found in a document, among at most `room` containers inside one another. -/
inductive Document.About (room : Nat) : Document → Subject → Prop where
  | user {j : Json} {u : UserRecord} (plain : Plain j)
    (finds : Finds (UserRecord.decoderIn room) j u) : About room (.user j) (.user u)
  | action {j : Json} {a : RequiredAction} (plain : Plain j)
    (finds : Finds (RequiredAction.decoderIn room) j a) : About room (.action j) (.action a)

/-- One subject is of the other's kind, and keeps its name and the members that are not modelled. -/
inductive Subject.Alters : Subject → Subject → Prop where
  | user {u u' : UserRecord} (name : u'.id = u.id) (extra : u'.extra = u.extra) :
    Alters (.user u) (.user u')
  | action {a a' : RequiredAction} (name : a'.aliasName = a.aliasName) (extra : a'.extra = a.extra) :
    Alters (.action a) (.action a')

theorem Subject.Alters.refl (x : Subject) : x.Alters x := by
  cases x with
  | user u => exact .user rfl rfl
  | action a => exact .action rfl rfl

theorem Subject.Alters.extra_eq {x x' : Subject} (h : x.Alters x') : x'.extra = x.extra := by
  cases h with
  | user _ extra => exact extra
  | action _ extra => exact extra

theorem Subject.Alters.lacks_eq {x x' : Subject} (h : x.Alters x') : x'.lacks = x.lacks := by
  cases h <;> rfl

namespace Document.About

variable {d : Document} {x x' : Subject} {room : Nat}

theorem unique (h : d.About room x) (h' : d.About room x') : x = x' := by
  cases h with
  | user plain finds =>
    cases h' with
    | user _ finds' => rw [finds.unique plain finds']
  | action plain finds =>
    cases h' with
    | action _ finds' => rw [finds.unique plain finds']

/-- What is found in little room is found in more. -/
theorem mono {room' : Nat} (h : d.About room x) (le : room ≤ room') : d.About room' x := by
  cases h with
  | user plain finds =>
    exact .user plain (finds_decodeOpen_mono UserRecord.steady_record plain finds le)
  | action plain finds =>
    exact .action plain (finds_decodeOpen_mono RequiredAction.steady_record plain finds le)

/-- What is not modelled stands in a document as it is kept. -/
theorem get?_eq (h : d.About room x) {name : String} (lacks : x.lacks name = true) :
    d.value.get? name = KeyMap.lookup name x.extra.entries := by
  cases h with
  | @user j u plain finds =>
    obtain ⟨m, rfl, kept, -⟩ := UserRecord.exists_object_of_finds plain finds
    show KeyMap.lookup name m.entries = KeyMap.lookup name u.extra.entries
    rw [kept]
    exact (lookup_others_of_lacks lacks m).symm
  | @action j a plain finds =>
    obtain ⟨m, rfl, kept, -⟩ := RequiredAction.exists_object_of_finds plain finds
    show KeyMap.lookup name m.entries = KeyMap.lookup name a.extra.entries
    rw [kept]
    exact (lookup_others_of_lacks lacks m).symm

/-- A document with the same members kept is about what it was written for. -/
theorem replace (h : d.About room x) (alters : x.Alters x') : (d.replace x'.json).About room x' := by
  cases h with
  | user plain finds =>
    cases alters with
    | user _ extra =>
      obtain ⟨m, rfl, kept, shallow⟩ := UserRecord.exists_object_of_finds plain finds
      rw [← extra] at kept shallow
      exact .user (plain_ofMap (UserRecord.plain_document (kept ▸ plain_others plain)))
        (UserRecord.finds_json (kept ▸ apart_others _ m) shallow)
  | action plain finds =>
    cases alters with
    | action _ extra =>
      obtain ⟨m, rfl, kept, shallow⟩ := RequiredAction.exists_object_of_finds plain finds
      rw [← extra] at kept shallow
      exact .action (plain_ofMap (RequiredAction.plain_document (kept ▸ plain_others plain)))
        (RequiredAction.finds_json (kept ▸ apart_others _ m) shallow)

end Document.About

end RealmSetup
