import RealmSetup.Admin.Documents
import RealmSetup.Flow.Execution
import RealmSetup.Mail.Message
import RealmSetup.Proofs.Json.Prefixes
import RealmSetup.Proofs.Wire.Documents
import RealmSetup.Web.Message

/-!
# Bodies of replies

A client looks for a shape in the first value of a body and leaves what follows unread, while the file of a
store is refused if anything but blanks follows its object.  So a body is accepted if and only if it *begins*
with a document that the strict reader would accept (`Reply.decode_eq_ok_iff_begins`), and the shape that is
found is the one of that document.

Every shape a client looks for is a list or a record (`ResponseShape`), and these are found only where a
bracket or a brace closes them (`Enclosed`).  That is why the body, which is bytes and need not be text behind
the document, can be divided there.
-/

namespace RealmSetup

namespace Json

open Raw

variable {α β : Type} {decode : Decoder α} {gs : List Glyph} {a : α}

/-! ## Shapes with an end -/

/-- Nothing but a list or an object whose end was reached has the shape. -/
def Enclosed (decode : Decoder α) : Prop :=
  ∀ r a, decode r = .ok a → r.IsClosed

theorem bind_ne_ok {x : Except Fault α} {f : α → Except Fault β} (never : ∀ a b, f a ≠ .ok b) (b : β) :
    x >>= f ≠ .ok b := by
  cases x with
  | error fault => rintro ⟨⟩
  | ok a => exact never a b

theorem enclosed_list (decode : Decoder α) : Enclosed (list decode) := by
  rintro (_ | _ | _ | _ | _ | ⟨items, _ | _⟩ | _) found same
  case array.true => rfl
  case array.false => exact (bind_ne_ok (fun _ _ ended => by cases ended) found same).elim
  all_goals cases same

theorem Record.enclosed_decode (record : Record α) : Enclosed record.decode := by
  rintro (_ | _ | _ | _ | _ | ⟨items, _ | _⟩ | ⟨members, _ | _⟩) a same
  case array.true | object.true => rfl
  case array.false | object.false => exact (bind_ne_ok (fun _ _ ended => by cases ended) a same).elim
  all_goals cases same

theorem Record.enclosed_decodeOpen (room : Nat) (record : Record (KeyMap Json → α)) :
    Enclosed (record.decodeOpen room) := by
  rintro (_ | _ | _ | _ | _ | _ | ⟨members, _ | _⟩) a same
  case object.true => rfl
  case object.false => exact (bind_ne_ok (fun _ _ ended => by cases ended) a same).elim
  all_goals cases same

/-! ## The first value and the whole text -/

theorem decodeAll_eq_ok_iff :
    decodeAll decode gs = .ok a ↔ decode (read gs).1 = .ok a ∧ skipBlanks (read gs).2 = [] := by
  rw [decodeAll]
  rcases read gs with ⟨r, left⟩
  dsimp only [bind, Except.bind]
  cases decode r with
  | error fault => simp
  | ok b => cases skipBlanks left <;> simp [endAt, pure, Except.pure]

/-- A text that is one document ends in a character, and whatever follows it, the same is read of it and
blanks are left. -/
theorem Enclosed.exists_reading (enclosed : Enclosed decode) (found : decodeAll decode gs = .ok a) :
    EndsInChar gs ∧ ∃ r blanks, decode r = .ok a ∧ Blank blanks ∧
      ∀ rest, read (gs ++ rest) = (r, blanks ++ rest) := by
  obtain ⟨shape, nothing⟩ := decodeAll_eq_ok_iff.1 found
  obtain ⟨doc, split, ends, reads⟩ := exists_document (enclosed _ _ shape)
  have blank := blank_of_skipBlanks nothing
  refine ⟨?_, _, (read gs).2, shape, blank, fun rest => ?_⟩
  · rw [split]
    exact ends.append_blank blank
  · nth_rewrite 1 [split]
    rw [List.append_assoc, reads]

/-- What is found first is a document that ends in a character. -/
theorem Enclosed.exists_front (enclosed : Enclosed decode) (found : decodeFirst decode gs = .ok a) :
    ∃ doc rest, gs = doc ++ rest ∧ EndsInChar doc ∧ decodeAll decode doc = .ok a := by
  obtain ⟨doc, split, ends, reads⟩ := exists_document (enclosed _ _ found)
  have alone := reads []
  rw [List.append_nil] at alone
  exact ⟨doc, _, split, ends, decodeAll_eq_ok_iff.2 (by rw [alone]; exact ⟨found, rfl⟩)⟩

/-- A shape is found first in some bytes if and only if they begin with a document of that shape. -/
theorem Enclosed.decodeFirst_eq_ok_iff (enclosed : Enclosed decode) (bytes : List UInt8) (a : α) :
    decodeFirst decode (Utf8.glyphs bytes) = .ok a ↔
      ∃ document rest, bytes = document ++ rest ∧ decodeAll decode (Utf8.glyphs document) = .ok a := by
  constructor
  · intro found
    obtain ⟨doc, left, split, ⟨c, last⟩, whole⟩ := enclosed.exists_front found
    obtain ⟨front, rfl⟩ := List.getLast?_eq_some_iff.1 last
    rw [List.append_assoc] at split
    obtain ⟨document, rest, rfl, same, -⟩ := Utf8.exists_split_glyphsFrom split
    exact ⟨document, rest, rfl, by rw [Utf8.glyphs, same]; exact whole⟩
  · rintro ⟨document, rest, rfl, whole⟩
    obtain ⟨⟨c, last⟩, r, blanks, shape, -, reads⟩ := enclosed.exists_reading whole
    rw [Utf8.glyphs_append last, decodeFirst, reads]
    exact shape

/-- A document with something else behind it is found first, and is not all there is. -/
theorem Enclosed.document_append (enclosed : Enclosed decode) {document rest : List UInt8}
    (whole : decodeAll decode (Utf8.glyphs document) = .ok a) (other : skipBlanks (Utf8.glyphs rest) ≠ []) :
    decodeFirst decode (Utf8.glyphs (document ++ rest)) = .ok a ∧
      decodeAll decode (Utf8.glyphs (document ++ rest)) = .error .malformed := by
  refine ⟨(enclosed.decodeFirst_eq_ok_iff _ a).2 ⟨document, rest, rfl, whole⟩, ?_⟩
  obtain ⟨⟨c, last⟩, r, blanks, shape, blank, reads⟩ := enclosed.exists_reading whole
  rw [Utf8.glyphs_append last, decodeAll, reads]
  dsimp only [bind, Except.bind]
  rw [shape, skipBlanks_append blank]
  simp [endAt, other]

end Json

open Json

/-- The shapes that the clients of the admin server and of captured mail look for in a body. -/
inductive ResponseShape : {α : Type} → Decoder α → Prop
  | realm : ResponseShape RealmSummary.decoder
  | requiredAction : ResponseShape RequiredAction.decoder
  | requiredActions : ResponseShape RequiredAction.listDecoder
  | role : ResponseShape Role.decoder
  | roles : ResponseShape (list Role.decoder)
  | user : ResponseShape UserRecord.decoder
  | users : ResponseShape UserRecord.listDecoder
  | clients : ResponseShape (list ClientSummary.decoder)
  | flows : ResponseShape (list FlowSummary.decoder)
  | executions : ResponseShape (list Execution.decoder)
  | authenticatorConfig : ResponseShape AuthenticatorConfig.decoder
  | messages : ResponseShape MessageList.decoder
  | message : ResponseShape Message.decoder

theorem ResponseShape.enclosed {α : Type} {decoder : Decoder α} (shape : ResponseShape decoder) :
    Enclosed decoder := by
  cases shape with
  | requiredActions | roles | users | clients | flows | executions => exact enclosed_list _
  | requiredAction | user => exact Record.enclosed_decodeOpen _ _
  | realm | role | authenticatorConfig | messages | message => exact Record.enclosed_decode _

namespace Reply

variable {α : Type} {r : Reply} {body : List UInt8} {decoder : Decoder α}

/-! ## Reading a body -/

theorem decode_of_found {a : α} (whole : r.body = some body)
    (found : decodeFirst decoder (Utf8.glyphs body) = .ok a) (url : Url) :
    r.decode url decoder = .ok a := by
  have read : r.bytes = .ok body := by rw [Reply.bytes, whole]
  simp only [Reply.decode, read, bind, Except.bind, found]
  rfl

theorem decode_of_fault {fault : Fault} (whole : r.body = some body)
    (refused : decodeFirst decoder (Utf8.glyphs body) = .error fault) (url : Url) :
    r.decode url decoder = .error (.decode url.pathText fault) := by
  have read : r.bytes = .ok body := by rw [Reply.bytes, whole]
  simp only [Reply.decode, read, bind, Except.bind, refused]
  rfl

/-- A body is accepted if and only if it begins with a document that is accepted strictly, and is refused
as no document otherwise. -/
theorem decode_eq_ok_iff_begins (shape : ResponseShape decoder) (whole : r.body = some body) (url : Url) :
    (∀ a, r.decode url decoder = .ok a ↔ ∃ document rest, body = document ++ rest ∧
      decodeAll decoder (Utf8.glyphs document) = .ok a) ∧
    ((∀ document rest a, body = document ++ rest → decodeAll decoder (Utf8.glyphs document) ≠ .ok a) →
      ∃ fault, r.decode url decoder = .error (.decode url.pathText fault)) := by
  have begins := shape.enclosed.decodeFirst_eq_ok_iff body
  cases outcome : decodeFirst decoder (Utf8.glyphs body) with
  | ok b =>
    rw [decode_of_found whole outcome]
    refine ⟨fun a => ?_, fun never => ?_⟩
    · rw [← begins a, outcome, Except.ok.injEq, Except.ok.injEq]
    · obtain ⟨document, rest, split, strict⟩ := (begins b).1 outcome
      exact absurd strict (never document rest b split)
  | error fault =>
    rw [decode_of_fault whole outcome]
    refine ⟨fun a => ?_, fun _ => ⟨fault, rfl⟩⟩
    rw [← begins a, outcome]
    exact iff_of_false nofun nofun

/-! ### A word behind a realm -/

def demoRealm : RealmSummary where
  realm := "demo"
  enabled := true
  browserFlow := none
  internationalizationEnabled := false
  supportedLocales := []
  defaultLocale := none

/-- The document of the realm with a word behind it. -/
def trailedBody : List UInt8 :=
  Utf8.encode demoRealm.json.render ++ Utf8.encode " trailing"

/-- The answer to a question about the realm. -/
def trailed : Reply where
  status := 200
  contentType := some "application/json"
  body := some trailedBody

def demoUrl : Url :=
  ⟨"http", "", "", some "localhost", none, .segments ["admin", "realms", "demo"], false, none, none⟩

theorem decodeAll_demoRealm :
    decodeAll RealmSummary.decoder (Utf8.glyphs (Utf8.encode demoRealm.json.render)) = .ok demoRealm :=
  (survives_of_finds demoRealm.plain_json demoRealm.finds_json).printed

theorem decode_trailed : trailed.decode demoUrl RealmSummary.decoder = .ok demoRealm :=
  ((decode_eq_ok_iff_begins .realm rfl demoUrl).1 demoRealm).2 ⟨_, _, rfl, decodeAll_demoRealm⟩

/-- The realm is accepted, though what came is not the document of a realm and nothing else. -/
theorem trailed_accepted :
    trailed.isSuccess = true ∧ trailed.decode demoUrl RealmSummary.decoder = .ok demoRealm ∧
      decodeAll RealmSummary.decoder (Utf8.glyphs trailedBody) = .error .malformed := by
  have word : Raw.skipBlanks (Utf8.glyphs (Utf8.encode " trailing")) ≠ [] := by
    rw [Utf8.glyphs_encode]
    simp [glyphsOf, Raw.skipBlanks]
  obtain ⟨first, strict⟩ := ResponseShape.realm.enclosed.document_append decodeAll_demoRealm word
  exact ⟨rfl, decode_of_found rfl first demoUrl, strict⟩

end Reply

end RealmSetup
