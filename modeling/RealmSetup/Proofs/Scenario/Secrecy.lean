import RealmSetup.Proofs.Scenario.Seeds
import RealmSetup.Proofs.Scenario.Veils

/-!
# What a run shows of its secrets

Two runs, for different passwords and different seeds, cannot be told apart but by the bodies of grants and
of stored credentials, and by the seeds that are kept (`Orchestrator.run_hides_secrets`).  This takes a
server that does not look into bodies: surroundings are `Blind` when their answers depend on the outlines
of what happened before alone, in which the bodies of requests and the seeds do not show.

Runs go alike in the surroundings of a run (`Orchestrator.twins_run`), a source of tokens goes like one
for another password (`Grant.twins_serve`), and a store keeps secrets for the same users; so runs go alike
in the surroundings of a client (`Grant.twins_interpret`).  Surroundings that are blind then answer both
correspondingly.
-/

namespace RealmSetup

/-! ## Runs of a source of tokens and a store in memory -/

/-- Two stores hold secrets of the same users. -/
def MemoryVault.SameUsers (v v' : MemoryVault) : Prop :=
  ∀ user, (v.secrets.get? user).isSome = (v'.secrets.get? user).isSome

theorem MemoryVault.SameUsers.insert {v v' : MemoryVault} (h : v.SameUsers v') (user : String)
    (secret secret' : Secret) :
    MemoryVault.SameUsers ⟨v.secrets.insert user secret⟩ ⟨v'.secrets.insert user secret'⟩ := by
  intro other
  rw [KeyMap.get?_insert, KeyMap.get?_insert]
  split
  · rfl
  · exact h other

namespace Grant

variable {g : Grant} {password : Secret} {α β : Type} {V : α → β → Prop}

/-- Answers the calls of a run with tokens that are granted for a password, and from a store in memory. -/
def serveStation (g : Grant) : (c : Station.Call) → StateT MemoryVault Keeping (Station.Answer c)
  | .inl c => StateT.lift (g.serveSite c)
  | .inr c => fun v => pure (v.serve c)

/-- What a run calls is served alike for another password, and leaves stores with the same users. -/
theorem twins_serveStation {c c' : Station.Call} {A : Station.Answer c → Station.Answer c' → Prop}
    (h : StationVeiled g password c c' A) {v v' : MemoryVault} (same : v.SameUsers v') :
    Keeping.Twins g password (fun x y => A x.1 y.1 ∧ x.2.SameUsers y.2) (g.serveStation c v)
      ((g.withPassword password).serveStation c' v') := by
  cases h with
  | inl h =>
    cases h with
    | inl h =>
      cases h with
      | same => exact (twins_serve _).bind fun _ _ answered => twins_pure ⟨answered, same⟩
    | inr h => exact (twins_ask h).bind fun _ _ answered => twins_pure ⟨answered, same⟩
  | inr h =>
    cases h with
    | clear => exact twins_pure ⟨rfl, fun _ => rfl⟩
    | put user secret secret' => exact twins_pure ⟨rfl, same.insert user secret secret'⟩

/-- What goes alike in a run goes alike in the surroundings of a client, for another password, and leaves
stores with the same users. -/
theorem twins_interpret {p : Program Station α} {p' : Program Station β}
    (h : Program.Twins (StationVeiled g password) V p p') {v v' : MemoryVault} (same : v.SameUsers v') :
    Keeping.Twins g password (fun x y => V x.1 y.1 ∧ x.2.SameUsers y.2)
      (p.interpret g.serveStation v) (p'.interpret (g.withPassword password).serveStation v') := by
  induction h generalizing v v' with
  | done h => exact twins_pure ⟨h, same⟩
  | ask h rest ih =>
    exact (twins_serveStation h same).bind fun _ _ answered => ih _ _ answered.1 answered.2

end Grant

/-! ## Blind surroundings -/

/-- What shows of an event: neither what the body of a request holds nor a seed that is drawn. -/
def Event.outline : Event Host → Event Host
  | ⟨.exchange r, answer⟩ => ⟨.exchange { r with body := .empty }, answer⟩
  | ⟨.drawSeed, _⟩ => ⟨.drawSeed, (0 : Nat)⟩
  | e => e

/-- The note that an event is. -/
def Event.note? : Event Host → Option Note
  | ⟨.note n, _⟩ => some n
  | _ => none

/-- The method and the place of the request that an event is. -/
def Event.line? : Event Host → Option (Method × Url)
  | ⟨.exchange r, _⟩ => some (r.method, r.url)
  | _ => none

theorem Event.note?_outline (e : Event Host) : e.outline.note? = e.note? := by
  obtain ⟨c, answer⟩ := e
  cases c <;> rfl

theorem Event.line?_outline (e : Event Host) : e.outline.line? = e.line? := by
  obtain ⟨c, answer⟩ := e
  cases c <;> rfl

/-- Answers depend on the outlines of what happened before alone, and replies not on the body of the
request. -/
structure Behaviour.Blind (b : Behaviour Host) : Prop where
  replies : ∀ {past past' : List (Event Host)}, past.map Event.outline = past'.map Event.outline →
    ∀ (r : Request) (body : RequestBody),
      (b past (.exchange r) : Except String Reply) = b past' (.exchange { r with body })
  others : ∀ {past past' : List (Event Host)}, past.map Event.outline = past'.map Event.outline →
    ∀ c ≠ Host.Call.drawSeed, b past c = b past' c

/-- The same behaviour, but for the seeds that are drawn, which are given. -/
def Behaviour.drawing (b : Behaviour Host) (seeds : Nat → Nat) : Behaviour Host := fun past c =>
  match c with
  | .drawSeed => seeds (past.countP fun e => e.call matches .drawSeed)
  | c => b past c

theorem Behaviour.drawing_of_ne (b : Behaviour Host) (seeds : Nat → Nat) (past : List (Event Host))
    {c : Host.Call} (h : c ≠ .drawSeed) : b.drawing seeds past c = b past c := by
  cases c with
  | drawSeed => exact absurd rfl h
  | _ => rfl

variable {g : Grant} {password : Secret}

/-- All of the request that stores a credential but its body. -/
theorem signed_putOtpCredential (c : AdminClient) (realm userId : String) (n : Nat)
    (seed token : Secret) :
    { (AdminCall.putOtpCredential c realm userId seed n).request.signed token with body := .empty } =
      ⟨.put, c.endpoint [realm, "users", userId, "credentials", AdminClient.credentialId n],
        some token, .empty⟩ :=
  rfl

theorem outline_exchange (r r' : Request)
    (same : { r with body := .empty } = { r' with body := .empty })
    {answer answer' : Except String Reply} (answered : answer = answer') :
    Event.outline ⟨.exchange r, answer⟩ = Event.outline ⟨.exchange r', answer'⟩ := by
  subst answered
  exact congrArg (fun r => (⟨.exchange r, answer⟩ : Event Host)) same

theorem outline_eq_of_matches {e e' : Event Host} (h : (Veiled g password).Matches e e') :
    e.outline = e'.outline := by
  cases h with
  | intro h answered =>
    cases h with
    | same _ h => rw [answered]
    | grant => exact outline_exchange g.request (g.withPassword password).request rfl answered
    | credential c realm userId n seed seed' token =>
      exact outline_exchange _ _ ((signed_putOtpCredential c realm userId n seed token).trans
        (signed_putOtpCredential c realm userId n seed' token).symm) answered
    | seed => rfl

theorem outlines_eq {events events' : List (Event Host)}
    (h : List.Forall₂ (Veiled g password).Matches events events') :
    events.map Event.outline = events'.map Event.outline := by
  induction h with
  | nil => rfl
  | cons h _ ih => rw [List.map_cons, List.map_cons, outline_eq_of_matches h, ih]

/-- Blind surroundings answer alike, for whatever seeds. -/
theorem Behaviour.Blind.answers {b : Behaviour Host} (blind : b.Blind) (seeds seeds' : Nat → Nat)
    {past past' : List (Event Host)} {c c' : Host.Call} {A : Host.Answer c → Host.Answer c' → Prop}
    (before : List.Forall₂ (Veiled g password).Matches past past') (h : Veiled g password c c' A) :
    A (b.drawing seeds past c) (b.drawing seeds' past' c') := by
  have same := outlines_eq before
  cases h with
  | same c h =>
    rw [b.drawing_of_ne seeds past h, b.drawing_of_ne seeds' past' h]
    exact blind.others same c h
  | grant => exact blind.replies same g.request (g.withPassword password).request.body
  | credential c realm userId n seed seed' token =>
    exact blind.replies same _ (AdminCall.putOtpCredential c realm userId seed' n).request.body
  | seed => trivial

theorem shown_eq {events events' : List (Event Host)}
    (h : List.Forall₂ (Veiled g password).Matches events events') {γ : Type}
    {shown : Event Host → Option γ} (outlined : ∀ e, shown e.outline = shown e) :
    events.filterMap shown = events'.filterMap shown := by
  have all (l : List (Event Host)) : l.filterMap shown = (l.map Event.outline).filterMap shown := by
    rw [List.filterMap_map]
    exact congrArg (fun f => l.filterMap f) (funext fun e => (outlined e).symm)
  rw [all events, all events', outlines_eq h]

/-! ## Runs -/

namespace Orchestrator

/-- A run whose tokens are granted for a password and whose seeds are kept in memory. -/
def granted (o : Orchestrator) (g : Grant) (kept : Option AdminToken) (v : MemoryVault) :
    Program Host (Except Overflow
      ((Except Error (List RealmReport) × MemoryVault) × Option AdminToken)) :=
  (o.run.run.interpret g.serveStation v kept).run

/-- Runs for any two passwords and any seeds, with whatever scenarios, and in any surroundings whose
answers do not depend on the bodies of requests: they come to the same report or the same error, the same
token is kept and secrets of the same users are stored; event by event they differ only in the bodies of
grants and of stored credentials and in the seeds that are drawn; they make the same notes and send
requests of the same methods to the same places. -/
theorem run_hides_secrets (admin : AdminClient) (mail : Option MailCapture)
    (transport : MailTransport) (scenarios : List Scenario) (g : Grant) (password : Secret)
    (kept : Option AdminToken) (v : MemoryVault) (b : Behaviour Host) (blind : b.Blind)
    (seeds seeds' : Nat → Nat) :
    let o : Orchestrator := ⟨admin, credentialEnroller admin, mail, transport, scenarios⟩
    let one := (o.granted g kept v).eval (b.drawing seeds).recorded []
    let other := (o.granted (g.withPassword password) kept v).eval (b.drawing seeds').recorded []
    Alike (fun x y => x.1.1 = y.1.1 ∧ x.1.2.SameUsers y.1.2 ∧ x.2 = y.2) one.1 other.1 ∧
      List.Forall₂ (Veiled g password).Matches one.2 other.2 ∧
      one.2.filterMap Event.note? = other.2.filterMap Event.note? ∧
      one.2.filterMap Event.line? = other.2.filterMap Event.line? := by
  intro o one other
  have alike : Attempt.Twins (StationVeiled g password) Eq o.run o.run := twins_run rfl
  have twins := Grant.twins_interpret alike (v := v) (fun _ => rfl) kept
  obtain ⟨ends, events⟩ := twins.recorded (blind.answers seeds seeds') .nil
  refine ⟨ends.mono ?_, events, shown_eq events Event.note?_outline,
    shown_eq events Event.line?_outline⟩
  rintro x y ⟨⟨same, users⟩, keeps⟩
  exact ⟨alike_eq_iff.1 same, users, keeps⟩

/-! ### A realm with one user -/

def openHost : Url := ⟨"http", "", "", some "localhost", none, .segments [], false, none, none⟩

def openGrant (password : String) : Grant :=
  ⟨{ openHost with path := .segments ["token"] }, "admin-cli", "admin", ⟨password⟩, .ofSecs 30⟩

/-- A run that sets up one realm with one user, who is to have a second factor. -/
def oneUserRun : Orchestrator where
  admin := ⟨⟨openHost, [], rfl⟩⟩
  enroller := credentialEnroller ⟨⟨openHost, [], rfl⟩⟩
  mail := none
  transport := Catalog.mailTransport
  scenarios := [oneUserRealm "a"]

/-- A server that grants a token to everyone and tells of one user, whatever it was sent: it answers by
the method and the place of a request alone. -/
def oneUserServer : Behaviour Host := fun _ call =>
  match call with
  | .exchange r =>
    .ok <| match r.method, r.url.path with
      | .post, .segments ["token"] =>
        reply 200 "\x7b\"access_token\":\"t\",\"token_type\":\"bearer\"\x7d"
      | .get, .segments [_, _, _, "users"] => reply 200 ("[" ++ oneUser ++ "]")
      | .get, .segments [_, _, _, "users", _] => reply 200 oneUser
      | .get, .segments [_, _, _, _, "required-actions", "CONFIGURE_TOTP"] =>
        reply 200 "\x7b\"alias\":\"CONFIGURE_TOTP\",\"enabled\":true\x7d"
      | .get, .segments [_, _, _, _, "required-actions", _] => reply 404 ""
      | .get, _ => reply 200 "[]"
      | .post, _ => reply 201 ""
      | _, _ => reply 204 ""
  | .now => (⟨0⟩ : Instant)
  | .elapsed => Duration.zero
  | .sleep _ => ()
  | .drawSeed => (0 : Nat)
  | .drawId => (0 : Nat)
  | .note _ => ()

theorem blind_oneUserServer : oneUserServer.Blind where
  replies _ _ _ := rfl
  others _ c _ := by cases c <;> rfl

/-- The seed that is kept for a user when a run succeeded. -/
def seedKept (user : String) :
    Except Overflow ((Except Error (List RealmReport) × MemoryVault) × Option AdminToken) → Option Secret
  | .ok ((.ok _, v), _) => v.secrets.get? user
  | _ => none

/-- Both runs succeed and write a credential; the seeds that are kept differ, and nothing that shows of the
runs does. -/
theorem run_hides_secrets_oneUser :
    let one := (oneUserRun.granted (openGrant "long") none .start).eval
      (oneUserServer.drawing fun n => n).recorded []
    let other := (oneUserRun.granted (openGrant "short") none .start).eval
      (oneUserServer.drawing fun n => n + 1).recorded []
    ((Method.put, oneUserRun.admin.endpoint ["a", "users", "1", "credentials",
          AdminClient.credentialId 0]) ∈ one.2.filterMap Event.line? ∧
        seedKept "ann" one.1 = some (Seed.ofNumber 0)) ∧
      seedKept "ann" other.1 = some (Seed.ofNumber 1) ∧ Seed.ofNumber 0 ≠ Seed.ofNumber 1 ∧
      Alike (fun x y => x.1.1 = y.1.1 ∧ x.1.2.SameUsers y.1.2 ∧ x.2 = y.2) one.1 other.1 ∧
      List.Forall₂ (Veiled (openGrant "long") ⟨"short"⟩).Matches one.2 other.2 ∧
      one.2.filterMap Event.note? = other.2.filterMap Event.note? ∧
      one.2.filterMap Event.line? = other.2.filterMap Event.line? :=
  ⟨by decide +kernel, by decide +kernel, by decide +kernel,
    run_hides_secrets oneUserRun.admin none Catalog.mailTransport [oneUserRealm "a"]
      (openGrant "long") ⟨"short"⟩ none .start oneUserServer blind_oneUserServer (fun n => n)
      fun n => n + 1⟩

end Orchestrator

end RealmSetup
