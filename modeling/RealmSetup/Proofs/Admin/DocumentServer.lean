import RealmSetup.Admin.Client
import RealmSetup.Proofs.Effect.Evaluation
import RealmSetup.Proofs.Json.Printing
import RealmSetup.Proofs.Json.Shapes
import RealmSetup.Proofs.Wire.Bodies

/-!
# A server of documents

The server keeps documents under their addresses.  A reading request is answered with the document, or,
at the address of a list, with all documents of the list; a writing request replaces the document.  The
text that shows a value may look different at every turn (`DocumentServer.text`), as long as it shows that
value.

`Leads` says that an attempt of a client ends well, with what value and with what documents, whatever
tokens it sends and whatever the texts look like.  There is a rule for sequences (`Leads.bind`) and one for
each way a client asks (`leads_getJson`, `leads_getOptionalJson`, `leads_put`).
-/

namespace RealmSetup

open Json

/-! ## Documents under addresses -/

/-- A document of an admin server. -/
inductive Document where
  /-- A document about a user. -/
  | user (value : Json)
  /-- A document about a required action. -/
  | action (value : Json)

namespace Document

def value : Document → Json
  | user j => j
  | action j => j

/-- The document with another value. -/
def replace (j : Json) : Document → Document
  | user _ => user j
  | action _ => action j

@[simp] theorem value_replace (j : Json) (d : Document) : (d.replace j).value = j := by
  cases d <;> rfl

end Document

/-- What a server of documents has stored, and what it was sent. -/
structure Documents where
  /-- The document under an address, if there is one. -/
  stored : Url → Option Document
  /-- What was written, and where, in the order in which it came. -/
  written : List (Url × Json)

namespace Documents

/-- The value stored under an address. -/
def value? (s : Documents) (url : Url) : Option Json := (s.stored url).map Document.value

/-- Replaces the value of the document under an address. -/
def write (s : Documents) (url : Url) (j : Json) : Documents where
  stored url' := if url' = url then (s.stored url).map (Document.replace j) else s.stored url'
  written := s.written ++ [(url, j)]

theorem stored_write_self {s : Documents} {url : Url} {d : Document} (h : s.stored url = some d)
    (j : Json) : (s.write url j).stored url = some (d.replace j) := by
  have here : (s.write url j).stored url = (s.stored url).map (Document.replace j) := if_pos rfl
  rw [here, h]
  rfl

theorem stored_write_of_ne (s : Documents) {url url' : Url} (other : url' ≠ url) (j : Json) :
    (s.write url j).stored url' = s.stored url' :=
  if_neg other

end Documents

/-! ## The server -/

/-- A server of documents. -/
structure DocumentServer where
  /-- The text that shows a value at a turn. -/
  text : Nat → Json → List UInt8
  /-- It shows that value. -/
  shows : ∀ turn j, Plain j → Shows (text turn j) j
  /-- The addresses of the documents that are listed at an address, if it is that of a list. -/
  listed : Url → Option (List Url)
  /-- What clients are answered that ask for anything but an exchange. -/
  surroundings : (c : Host.Call) → Host.Answer c

namespace DocumentServer

variable (server : DocumentServer)

/-- What is to be seen at an address. -/
def seen? (s : Documents) (url : Url) : Option Json :=
  match server.listed url with
  | some urls => some (.array (urls.filterMap s.value?))
  | none => s.value? url

/-- The reply to a request, and the documents after it. -/
def reply (method : Method) (url : Url) (body : RequestBody) (s : Documents) (turn : Nat) :
    Reply × Documents :=
  match method, body with
  | .get, _ =>
    match server.seen? s url with
    | some j => (⟨200, some "application/json", some (server.text turn j)⟩, s)
    | none => (⟨404, none, some []⟩, s)
  | .put, .json j =>
    match s.stored url with
    | some _ => (⟨204, none, some []⟩, s.write url j)
    | none => (⟨404, none, some []⟩, s)
  | _, _ => (⟨405, none, some []⟩, s)

/-- Answers from the documents, counting the turns. -/
def answering : Answering Host (Documents × Nat)
  | .exchange request => fun (s, turn) =>
    let (reply, s) := server.reply request.method request.url request.body s turn
    (.ok reply, s, turn + 1)
  | c => fun s => (server.surroundings c, s)

end DocumentServer

/-- A source of tokens that always has one that can be sent. -/
structure TokenSupply (τ : Type) where
  answer : Answering Bearer τ
  /-- It has one. -/
  supplies : ∀ t, ∃ token t', (answer .get).run t = (.ok token, t') ∧ AdminClient.isSendable token

/-- A token that is always the same, if it can be sent. -/
def TokenSupply.ofStatic (token : StaticToken) (sendable : AdminClient.isSendable token.secret) :
    TokenSupply Unit where
  answer c := pure (token.serve c)
  supplies _ := ⟨token.secret, (), rfl, sendable⟩

/-- A server that prints what it shows without blanks. -/
def DocumentServer.printing (listed : Url → Option (List Url)) : DocumentServer where
  text _ j := Utf8.encode j.render
  shows _ _ plain := shows_render plain
  listed := listed
  surroundings
    | .exchange _ => .error "nothing listens"
    | .now => ⟨0⟩
    | .elapsed => ⟨0⟩
    | .sleep _ => ()
    | .drawSeed => (0 : Nat)
    | .drawId => (0 : Nat)
    | .note _ => ()

/-! ## Attempts that end well -/

section Leads

variable {τ : Type} (supply : TokenSupply τ) (server : DocumentServer) {α β : Type}

/-- The surroundings of a client of the server. -/
def TokenSupply.beside : Answering Site (τ × Documents × Nat) :=
  Answering.beside supply.answer server.answering

/-- From some documents an attempt ends with a value and leaves these documents. -/
def Leads (w : SiteAttempt α) (s : Documents) (a : α) (s' : Documents) : Prop :=
  ∀ t turn, ∃ t' turn',
    Attempt.eval (supply.beside server) w (t, s, turn) = (.ok a, t', s', turn')

variable {supply server} {s s' s'' : Documents} {w : SiteAttempt α} {f : α → SiteAttempt β} {a : α}
  {b : β}

theorem leads_pure (a : α) (s : Documents) : Leads supply server (pure a) s a s :=
  fun t turn => ⟨t, turn, rfl⟩

theorem Leads.bind (hw : Leads supply server w s a s') (hf : Leads supply server (f a) s' b s'') :
    Leads supply server (w >>= f) s b s'' := by
  intro t turn
  obtain ⟨t', turn', first⟩ := hw t turn
  obtain ⟨t'', turn'', second⟩ := hf t' turn'
  exact ⟨t'', turn'', (Attempt.eval_bind_ok _ first).trans second⟩

theorem leads_observe (step : StepKind) (realm : String) (h : Leads supply server w s a s') :
    Leads supply server (observe step realm w) s a s' := by
  intro t turn
  rw [Attempt.eval_observe _ fun _ _ => rfl]
  exact h t turn

/-! ## What a client asks -/

theorem eval_sendOnce (supply : TokenSupply τ) (server : DocumentServer) (method : Method) (url : Url)
    (body : RequestBody) (s : Documents) (t : τ) (turn : Nat) : ∃ t',
    Attempt.eval (supply.beside server) (AdminClient.sendOnce method url body) (t, s, turn) =
      (.ok (server.reply method url body s turn).1, t', (server.reply method url body s turn).2,
        turn + 1) := by
  obtain ⟨token, t', granted, sendable⟩ := supply.supplies t
  refine ⟨t', ?_⟩
  have got : Attempt.eval (supply.beside server) bearerToken (t, s, turn) = (.ok token, t', s, turn) := by
    show (((supply.answer .get).run t).1, ((supply.answer .get).run t).2, s, turn) = _
    rw [granted]
    rfl
  rw [AdminClient.sendOnce, Attempt.eval_bind_ok _ got, if_pos sendable]
  rfl

/-- A request that is not refused is sent once. -/
theorem eval_send (supply : TokenSupply τ) {method : Method} {url : Url} {body : RequestBody}
    {s s' : Documents} {turn : Nat} {reply : Reply}
    (replied : server.reply method url body s turn = (reply, s')) (accepted : reply.status ≠ 401)
    (t : τ) : ∃ t', Attempt.eval (supply.beside server) (AdminClient.send method url body) (t, s, turn) =
      (.ok reply, t', s', turn + 1) := by
  obtain ⟨t', sent⟩ := eval_sendOnce supply server method url body s t turn
  rw [replied] at sent
  refine ⟨t', ?_⟩
  rw [AdminClient.send, Attempt.eval_bind_ok _ sent, if_neg accepted]
  rfl

theorem seen?_of_stored {url : Url} {d : Document} (apart : server.listed url = none)
    (stored : s.stored url = some d) : server.seen? s url = some d.value := by
  rw [DocumentServer.seen?, apart, Documents.value?, stored]
  rfl

theorem reply_get {url : Url} {j : Json} (seen : server.seen? s url = some j) (turn : Nat) :
    server.reply .get url .empty s turn =
      (⟨200, some "application/json", some (server.text turn j)⟩, s) := by
  rw [DocumentServer.reply, seen]

theorem decode_shown {url : Url} {j : Json} {decoder : Decoder α} (plain : Plain j)
    (finds : Finds decoder j a) (turn : Nat) :
    (Reply.mk 200 (some "application/json") (some (server.text turn j))).decode url decoder =
      .ok a :=
  Reply.decode_of_found rfl (finds _ (server.shows turn j plain)) url

/-- What is seen at an address is read if it has the shape looked for. -/
theorem leads_getJson {url : Url} {j : Json} {decoder : Decoder α} (seen : server.seen? s url = some j)
    (plain : Plain j) (finds : Finds decoder j a) :
    Leads supply server (AdminClient.getJson url decoder) s a s := by
  intro t turn
  obtain ⟨t', sent⟩ := eval_send supply (reply_get seen turn) nofun t
  refine ⟨t', turn + 1, ?_⟩
  rw [AdminClient.getJson, Attempt.eval_bind_ok _ sent]
  show (Reply.decode _ url decoder, _) = _
  rw [decode_shown plain finds]

/-- What does not have the shape looked for is refused, and nothing changes. -/
theorem eval_getJson_refused (supply : TokenSupply τ) {url : Url} {j : Json} {decoder : Decoder α}
    {fault : Fault} {turn : Nat} (seen : server.seen? s url = some j)
    (refused : decodeFirst decoder (Utf8.glyphs (server.text turn j)) = .error fault) (t : τ) :
    ∃ t', Attempt.eval (supply.beside server) (AdminClient.getJson url decoder) (t, s, turn) =
      (.error (.decode url.pathText fault), t', s, turn + 1) := by
  obtain ⟨t', sent⟩ := eval_send supply (reply_get seen turn) nofun t
  refine ⟨t', ?_⟩
  rw [AdminClient.getJson, Attempt.eval_bind_ok _ sent]
  show (Reply.decode _ url decoder, _) = _
  rw [Reply.decode_of_fault rfl refused]

theorem leads_getOptionalJson {url : Url} {j : Json} {decoder : Decoder α}
    (seen : server.seen? s url = some j) (plain : Plain j) (finds : Finds decoder j a) :
    Leads supply server (AdminClient.getOptionalJson url decoder) s (some a) s := by
  intro t turn
  obtain ⟨t', sent⟩ := eval_send supply (reply_get seen turn) nofun t
  refine ⟨t', turn + 1, ?_⟩
  rw [AdminClient.getOptionalJson, Attempt.eval_bind_ok _ sent]
  show Attempt.eval _ (do
    let found ← Attempt.ofExcept (Reply.decode _ url decoder)
    return some found) _ = _
  rw [decode_shown plain finds]
  rfl

/-- A document is replaced by what is written. -/
theorem leads_put {url : Url} {d : Document} (stored : s.stored url = some d) (j : Json) :
    Leads supply server (AdminClient.execute .put url (.json j)) s () (s.write url j) := by
  intro t turn
  have replied : server.reply .put url (.json j) s turn = (⟨204, none, some []⟩, s.write url j) := by
    rw [DocumentServer.reply, stored]
  obtain ⟨t', sent⟩ := eval_send supply replied (by decide) t
  refine ⟨t', turn + 1, ?_⟩
  rw [AdminClient.execute, Attempt.eval_bind_ok _ sent]
  rfl

end Leads

end RealmSetup
