import Mathlib
import RealmSetup.Proofs.Admin.Calls
import RealmSetup.Proofs.Auth.Tokens

/-!
# Rounds of a request

A client that is granted its tokens for a password makes one call after the other.  Each call
(`AdminCall`) sends one request, and that in a round or two (`Round`): a token is asked for, which may
take a grant, and the request is sent with it.  A second round is made after a reply of status 401 only.

`Account.Tells` says what the rounds of a call are like, in terms of what the source of tokens did
before.  What happens in a call is told completely by its rounds, notes apart, so that whatever is said
of the rounds is said of the requests and replies themselves.  `Session.run_goes` says it of all the calls
of a session, in which the outcome of a call may decide on what is called next.  Whatever can be asked of a
client can stand in a session (`Session.exists_of_requests`).
-/

namespace RealmSetup

open Grant (takes_bind takes_pure takes_ask takes_access)

/-! ## Rounds -/

/-- How a request fares for which a token is asked. -/
inductive Fate where
  /-- There is no token. -/
  | refused (e : Error)
  /-- The token cannot stand in a header. -/
  | unsendable (token : Secret)
  | sent (token : Secret) (answer : Except String Reply)

namespace Fate

/-- The token with which the request is, or would be, sent. -/
def token : Fate → Except Error Secret
  | refused e => .error e
  | unsendable token => .ok token
  | sent token _ => .ok token

/-- The reply to the request, or why there is none. -/
def reply : Fate → Except Error Reply
  | refused e => .error e
  | unsendable _ => .error (networkFailure "the token cannot be sent")
  | sent _ answer => answer.mapError networkFailure

/-- What happens when a request is sent. -/
def events (request : Secret → Request) : Fate → List (Event Host)
  | sent token answer => [⟨.exchange (request token), answer⟩]
  | _ => []

/-- The request is sent just if the token, where there is one, can stand in a header. -/
def Apt : Fate → Prop
  | refused _ => True
  | unsendable token => AdminClient.isSendable token = false
  | sent token _ => AdminClient.isSendable token = true

end Fate

/-- A token is asked for and a request is sent with it. -/
structure Round where
  /-- When the token was asked for. -/
  asked : Instant
  /-- The grant that was requested, if one was. -/
  grant : Option Granting
  fate : Fate

namespace Round

/-- What happens in a round, notes apart. -/
def events (g : Grant) (request : Secret → Request) (r : Round) : List (Event Host) :=
  (⟨.now, r.asked⟩ :: r.grant.toList.flatMap g.events) ++ r.fate.events request

/-- What the source of tokens does in a round. -/
def turns (r : Round) : List Turn := r.grant.toList.map fun x => .grant x.ending

/-- What the source of tokens did before decides on a round. -/
structure Fair (g : Grant) (history : List Turn) (r : Round) : Prop where
  /-- A grant is requested only if no token is held with more than the window left. -/
  needed : ∀ x ∈ r.grant, ∀ t, Held history t → t.left r.asked ≤ g.refreshWindow.nanos
  /-- A token is granted in the round, or held with more than the window left. -/
  source : ∀ token, r.fate.token = .ok token →
    (∃ x ∈ r.grant, ∃ t, x.ending = .ok t ∧ t.secret = token) ∨
      r.grant = none ∧ ∃ t, Held history t ∧ t.secret = token ∧ g.refreshWindow.nanos < t.left r.asked
  /-- There is no token only if a grant is refused or fails. -/
  refused : ∀ e, r.fate.token = .error e → ∃ x ∈ r.grant, x.ending = .error e
  apt : r.fate.Apt

end Round

/-! ## Accounts -/

/-- The rounds of a request, of which there are one or two. -/
structure Account where
  first : Round
  second : Option Round

namespace Account

def rounds (a : Account) : List Round := a.first :: a.second.toList

/-- The round whose reply stands. -/
def last (a : Account) : Round := a.second.getD a.first

/-- What the source of tokens does for a request. -/
def turns (a : Account) : List Turn :=
  a.first.turns ++ a.second.toList.flatMap fun r => .drop :: r.turns

/-- What happens while a request is sent, and what the source of tokens did before, are as an account
says. -/
structure Tells (g : Grant) (history : List Turn) (request : Secret → Request)
    (events : List (Event Host)) (a : Account) : Prop where
  /-- Nothing happens but the rounds, one after the other. -/
  transcript : quiet events = a.rounds.flatMap (Round.events g request)
  /-- There is a second round only after the status 401, and always then. -/
  again : a.second.isSome ↔ ∃ reply, a.first.fate.reply = .ok reply ∧ reply.status = 401
  first : a.first.Fair g history
  /-- Between the rounds what is kept is dropped. -/
  second : ∀ r ∈ a.second, r.Fair g (history ++ a.first.turns ++ [.drop])
  /-- The second round has a token that is granted in it. -/
  fresh : ∀ r ∈ a.second, ∀ token, r.fate.token = .ok token →
    ∃ x ∈ r.grant, ∃ t, x.ending = .ok t ∧ t.secret = token

end Account

namespace Grant

variable {g : Grant} {kept : Option AdminToken} {events : List (Event Host)} {history : List Turn}

/-! ## Attempts -/

section Attempts

variable {α β : Type}

theorem run_bearerToken : g.run bearerToken.run = g.access :=
  Program.interpret_call _ _

theorem takes_exchange {request : Request}
    {result : Except Overflow (Except Error Reply × Option AdminToken)} :
    Keeping.Takes (g.run (exchange request : SiteAttempt Reply).run) kept events result ↔
      ∃ answer : Except String Reply, events = [⟨.exchange request, answer⟩] ∧
        result = .ok (answer.mapError networkFailure, kept) := by
  refine takes_bind.trans ⟨?_, ?_⟩
  · rintro ⟨_, _, _, rfl, exchanged, takes⟩
    obtain ⟨answer, rfl, rfl⟩ := takes_ask.1 exchanged
    refine ⟨answer, ?_⟩
    cases answer <;> obtain ⟨rfl, rfl⟩ := takes_pure.1 takes <;> exact ⟨rfl, rfl⟩
  · rintro ⟨answer, rfl, rfl⟩
    refine ⟨_, _, [], rfl, takes_ask.2 ⟨answer, rfl, rfl⟩, ?_⟩
    cases answer <;> exact takes_pure.2 ⟨rfl, rfl⟩

theorem takes_log {level : LogLevel} {message : String} {fields : List (String × Json)}
    {result : Except Overflow (Except Error Unit × Option AdminToken)} :
    Keeping.Takes (g.run (ExceptT.lift (log (I := Site) level message fields)).run) kept events
        result ↔
      events = [⟨.note (.logged ⟨level, message, fields⟩), ()⟩] ∧ result = .ok (.ok (), kept) := by
  refine takes_bind.trans ⟨?_, ?_⟩
  · rintro ⟨_, _, _, rfl, noted, takes⟩
    obtain ⟨_, rfl, rfl⟩ := takes_ask.1 noted
    obtain ⟨rfl, rfl⟩ := takes_pure.1 takes
    exact ⟨rfl, rfl⟩
  · rintro ⟨rfl, rfl⟩
    exact ⟨_, _, [], rfl, takes_ask.2 ⟨(), rfl, rfl⟩, takes_pure.2 ⟨rfl, rfl⟩⟩

theorem takes_dropToken {result : Except Overflow (Except Error Unit × Option AdminToken)} :
    Keeping.Takes (g.run dropToken.run) kept events result ↔
      events = [] ∧ result = .ok (.ok (), none) :=
  Iff.rfl

/-- A sequence of attempts ends with the first that fails. -/
theorem takes_attempt_bind {w : SiteAttempt α} {f : α → SiteAttempt β}
    {result : Except Overflow (Except Error β × Option AdminToken)} :
    Keeping.Takes (g.run (w >>= f).run) kept events result ↔
      ∃ first ending second, events = first ++ second ∧
        Keeping.Takes (g.run w.run) kept first ending ∧
        match ending with
        | .ok (.ok a, kept') => Keeping.Takes (g.run (f a).run) kept' second result
        | .ok (.error e, kept') => second = [] ∧ result = .ok (.error e, kept')
        | .error o => second = [] ∧ result = .error o := by
  rw [ExceptT.run_bind, run, Program.interpret_bind]
  refine takes_bind.trans ?_
  constructor
  · rintro ⟨first, ending, second, rfl, takes_w, takes_f⟩
    refine ⟨first, ending, second, rfl, takes_w, ?_⟩
    obtain o | ⟨e | a, kept'⟩ := ending <;> exact takes_f
  · rintro ⟨first, ending, second, rfl, takes_w, takes_f⟩
    refine ⟨first, ending, second, rfl, takes_w, ?_⟩
    obtain o | ⟨e | a, kept'⟩ := ending <;> exact takes_f

end Attempts

/-! ## Sending -/

/-- What asking for a token comes to makes a round fair. -/
theorem Obtains.fair {now : Instant} {x : Option Granting} {fate : Fate} {kept' : Option AdminToken}
    (h : g.Obtains kept now x fate.token kept') (keeps : KeepsHeld history kept) (apt : fate.Apt) :
    Round.Fair g history ⟨now, x, fate⟩ := by
  generalize given : fate.token = token at h
  cases h with
  | @taken t cached lasts =>
    refine ⟨by simp, fun token same => .inr ⟨rfl, t, (keeps t).1 cached, ?_, lasts⟩, ?_, apt⟩
    · exact Except.ok.inj (given.symm.trans same)
    · exact fun e failed => nomatch given.symm.trans failed
  | granted x needed ending =>
    refine ⟨?_, fun token same => .inl ⟨x, rfl, _, ending, ?_⟩, ?_, apt⟩
    · rintro _ - t held
      exact needed t ((keeps t).2 held)
    · exact Except.ok.inj (given.symm.trans same)
    · exact fun e failed => nomatch given.symm.trans failed
  | refused x needed ending =>
    refine ⟨?_, ?_, fun e failed => ⟨x, rfl, ?_⟩, apt⟩
    · rintro _ - t held
      exact needed t ((keeps t).2 held)
    · exact fun token same => nomatch given.symm.trans same
    · exact ending.trans (congrArg _ (Except.error.inj (given.symm.trans failed)))

theorem takes_sendOnce {method : Method} {url : Url} {body : RequestBody}
    {result : Except Overflow (Except Error Reply × Option AdminToken)}
    (takes : Keeping.Takes (g.run (AdminClient.sendOnce method url body).run) kept events result)
    (fits : g.Fits events) (keeps : KeepsHeld history kept) :
    ∃ (r : Round) (kept' : Option AdminToken),
      quiet events = r.events g (Request.signed ⟨method, url, none, body⟩) ∧
      result = .ok (r.fate.reply, kept') ∧ r.Fair g history ∧ KeepsHeld (history ++ r.turns) kept' := by
  obtain ⟨first, _, second, rfl, asked, takes⟩ := takes_attempt_bind.1 takes
  rw [run_bearerToken] at asked
  obtain ⟨now, x, token, kept', told, rfl, obtains⟩ := takes_access asked fits.of_append.1
  -- the request is sent with the token that was got, if there is one and a header can hold it
  suffices sends : ∃ fate : Fate, fate.token = token ∧
      quiet second = fate.events (Request.signed ⟨method, url, none, body⟩) ∧
      result = .ok (fate.reply, kept') ∧ fate.Apt by
    obtain ⟨fate, rfl, sent, rfl, apt⟩ := sends
    refine ⟨⟨now, x, fate⟩, kept', ?_, rfl, obtains.fair keeps apt, obtains.keeps keeps⟩
    rw [quiet_append, told, sent]
    rfl
  cases token with
  | error e =>
    obtain ⟨rfl, rfl⟩ := takes
    exact ⟨.refused e, rfl, rfl, rfl, trivial⟩
  | ok token =>
    dsimp only at takes
    cases sendable : AdminClient.isSendable token with
    | false =>
      rw [sendable, if_neg Bool.false_ne_true] at takes
      obtain ⟨rfl, rfl⟩ := takes
      exact ⟨.unsendable token, rfl, rfl, rfl, sendable⟩
    | true =>
      rw [if_pos sendable] at takes
      obtain ⟨answer, rfl, rfl⟩ := takes_exchange.1 takes
      exact ⟨.sent token answer, rfl, rfl, rfl, sendable⟩

/-- All that sending a request can do, where no instant lies outside the calendar. -/
theorem takes_send {method : Method} {url : Url} {body : RequestBody}
    {result : Except Overflow (Except Error Reply × Option AdminToken)}
    (takes : Keeping.Takes (g.run (AdminClient.send method url body).run) kept events result)
    (fits : g.Fits events) (keeps : KeepsHeld history kept) :
    ∃ (a : Account) (kept' : Option AdminToken),
      a.Tells g history (Request.signed ⟨method, url, none, body⟩) events ∧
      result = .ok (a.last.fate.reply, kept') ∧ KeepsHeld (history ++ a.turns) kept' := by
  obtain ⟨_, _, _, rfl, sent, takes⟩ := takes_attempt_bind.1 takes
  obtain ⟨r, kept', told, rfl, fair, keeps'⟩ := takes_sendOnce sent fits.of_append.1 keeps
  cases replied : r.fate.reply with
  | error e =>
    rw [replied] at takes
    obtain ⟨rfl, rfl⟩ := takes
    refine ⟨⟨r, none⟩, kept', ⟨?_, ?_, fair, by simp, by simp⟩, ?_, ?_⟩
    · simpa [Account.rounds] using told
    · simp [replied]
    · rw [Account.last, Option.getD_none, replied]
    · simpa [Account.turns] using keeps'
  | ok reply =>
    rw [replied] at takes
    dsimp only at takes
    split at takes
    case isFalse accepted =>
      obtain ⟨rfl, rfl⟩ := takes
      refine ⟨⟨r, none⟩, kept', ⟨?_, ?_, fair, by simp, by simp⟩, ?_, ?_⟩
      · simpa [Account.rounds] using told
      · simp [replied, accepted]
      · rw [Account.last, Option.getD_none, replied]
      · simpa [Account.turns] using keeps'
    case isTrue unauthorized =>
      obtain ⟨_, _, _, rfl, logged, takes⟩ := takes_attempt_bind.1 takes
      obtain ⟨rfl, rfl⟩ := takes_log.1 logged
      obtain ⟨_, _, _, rfl, dropped, takes⟩ := takes_attempt_bind.1 takes
      obtain ⟨rfl, rfl⟩ := takes_dropToken.1 dropped
      obtain ⟨r', kept'', told', rfl, fair', keeps''⟩ :=
        takes_sendOnce takes fits.of_append.2.of_append.2 (keeps_dropped (history ++ r.turns))
      refine ⟨⟨r, some r'⟩, kept'', ⟨?_, ?_, fair, ?_, ?_⟩, rfl, ?_⟩
      · rw [quiet_append, told]
        refine (congrArg (r.events g _ ++ ·) told').trans ?_
        simp [Account.rounds]
      · simp [replied, unauthorized]
      · simpa using fair'
      · intro _ second token given
        obtain rfl := Option.mem_some.1 second
        refine (fair'.source token given).resolve_right ?_
        rintro ⟨-, t, held, -⟩
        exact not_held_dropped _ t held
      · simpa [Account.turns] using keeps''

end Grant

/-! ## Calls -/

namespace AdminCall

variable {α : Type}

section Transcripts

variable {g : Grant} {kept : Option AdminToken} {events : List (Event Host)} {history : List Turn}

/-- What is remarked about a reply are notes. -/
theorem takes_remark (call : AdminCall α) {reply : Reply}
    {result : Except Overflow (Except Error Unit × Option AdminToken)}
    (takes : Grant.Keeping.Takes (g.run (call.remark reply).run) kept events result) :
    quiet events = [] ∧ result = .ok (.ok (), kept) := by
  induction call with
  | create url body =>
    rw [remark] at takes
    split at takes
    · obtain ⟨rfl, rfl⟩ := Grant.takes_log.1 takes
      exact ⟨rfl, rfl⟩
    · obtain ⟨rfl, rfl⟩ := takes
      exact ⟨rfl, rfl⟩
  | map f call ih => exact ih takes
  | _ =>
    obtain ⟨rfl, rfl⟩ := takes
    exact ⟨rfl, rfl⟩

/-- All that a call can do, where no instant lies outside the calendar. -/
theorem takes_perform (call : AdminCall α)
    {result : Except Overflow (Except Error α × Option AdminToken)}
    (takes : Grant.Keeping.Takes (g.run call.perform.run) kept events result) (fits : g.Fits events)
    (keeps : KeepsHeld history kept) :
    ∃ (a : Account) (kept' : Option AdminToken), a.Tells g history call.request.signed events ∧
      result = .ok (a.last.fate.reply >>= call.outcome, kept') ∧
      KeepsHeld (history ++ a.turns) kept' := by
  rw [perform_eq] at takes
  obtain ⟨first, _, second, rfl, sent, takes⟩ := Grant.takes_attempt_bind.1 takes
  obtain ⟨a, kept', tells, rfl, keeps'⟩ := Grant.takes_send sent fits.of_append.1 keeps
  suffices settled : quiet second = [] ∧ result = .ok (a.last.fate.reply >>= call.outcome, kept') by
    refine ⟨a, kept', { tells with transcript := ?_ }, settled.2, keeps'⟩
    rw [quiet_append, settled.1, List.append_nil]
    exact tells.transcript
  cases replied : a.last.fate.reply with
  | error e =>
    rw [replied] at takes
    obtain ⟨rfl, rfl⟩ := takes
    exact ⟨rfl, rfl⟩
  | ok reply =>
    rw [replied] at takes
    obtain ⟨remarked, _, _, rfl, takes_remarked, takes⟩ := Grant.takes_attempt_bind.1 takes
    obtain ⟨silent, rfl⟩ := call.takes_remark takes_remarked
    obtain ⟨rfl, rfl⟩ := takes
    exact ⟨by rwa [List.append_nil], rfl⟩

end Transcripts

end AdminCall

/-! ## Sessions -/

/-- Calls that are made one after the other; the outcome of each may decide on what comes next. -/
inductive Session : Type 1
  | done
  | call {α : Type} (call : AdminCall α) (next : Except Error α → Session)
  /-- A number is drawn, from which the identifier of a credential can be made. -/
  | draw (next : Nat → Session)

namespace Session

/-- What a client does in a session. -/
def perform : Session → Program Site Unit
  | done => pure ()
  | call c next => c.perform.run >>= fun outcome => (next outcome).perform
  | draw next => Offers.perform (I := Host) .drawId >>= fun n : Nat => (next n).perform

/-- Whatever is asked of a client can stand in a session, and what comes of it may decide on the rest. -/
theorem exists_of_requests {c : AdminClient} {α : Type} {w : SiteAttempt α}
    (h : AdminCall.Requests c w) (next : Except Error α → Session) :
    ∃ s : Session, s.perform = w.run >>= fun outcome => (next outcome).perform := by
  obtain ⟨call, rfl⟩ | ⟨call, rfl⟩ := h.isCall
  · exact ⟨.call call next, rfl⟩
  · refine ⟨.draw fun n => .call (call n) next, ?_⟩
    rw [ExceptT.run_bind]
    rfl

/-- What happens in a session falls into what happens in its calls.  Each call is as an account says: it
ends with what it makes of the last reply, and leaves the token that is then held, or what was kept
before if no grant succeeds and nothing is dropped.  The source of tokens did `history` before and keeps
`kept`; in the end it did `history'` and keeps `kept'`. -/
def Goes (g : Grant) : Session → (history : List Turn) → (kept : Option AdminToken) →
    (events : List (Event Host)) → (history' : List Turn) → (kept' : Option AdminToken) → Prop
  | done, history, kept, events, history', kept' => events = [] ∧ history' = history ∧ kept' = kept
  | call c next, history, kept, events, history', kept' =>
    ∃ (now later : List (Event Host)) (a : Account) (outcome : Except Error _)
      (mid : Option AdminToken), events = now ++ later ∧
      Grant.Keeping.Takes (g.run c.perform.run) kept now (.ok (outcome, mid)) ∧
      a.Tells g history c.request.signed now ∧ outcome = a.last.fate.reply >>= c.outcome ∧
      KeepsHeld (history ++ a.turns) mid ∧
      ((∀ turn ∈ a.turns, ∃ e, turn = .grant (.error e)) → mid = kept) ∧
      (next outcome).Goes g (history ++ a.turns) mid later history' kept'
  | draw next, history, kept, events, history', kept' =>
    ∃ (n : Nat) (later : List (Event Host)), events = ⟨.drawId, n⟩ :: later ∧
      (next n).Goes g history kept later history' kept'

/-- From any past on, a session comes to its end, and goes as it should. -/
theorem goes_from {g : Grant} (s : Session) {history : List Turn} {kept : Option AdminToken}
    {events : List (Event Host)} {result : Except Overflow (Unit × Option AdminToken)}
    (takes : Grant.Keeping.Takes (g.run s.perform) kept events result) (fits : g.Fits events)
    (keeps : KeepsHeld history kept) :
    ∃ history' kept', result = .ok ((), kept') ∧ s.Goes g history kept events history' kept' := by
  induction s generalizing history kept events with
  | done =>
    obtain ⟨rfl, rfl⟩ := takes
    exact ⟨history, kept, rfl, rfl, rfl, rfl⟩
  | call c next ih =>
    rw [perform, Grant.run, Program.interpret_bind] at takes
    obtain ⟨now, _, later, rfl, takes_call, takes_next⟩ := takes_bind.1 takes
    obtain ⟨a, mid, tells, rfl, keeps'⟩ := c.takes_perform takes_call fits.of_append.1 keeps
    obtain ⟨history', kept', rfl, goes⟩ := ih _ takes_next fits.of_append.2 keeps'
    exact ⟨history', kept', rfl, now, later, a, _, mid, rfl, takes_call, tells, rfl, keeps',
      fun refused => keeps.eq (keeps'.of_refused refused), goes⟩
  | draw next ih =>
    change Grant.Keeping.Takes (Grant.ask .drawId >>= fun n : Nat => g.run (next n).perform) kept events
      result at takes
    obtain ⟨_, _, later, rfl, drawn, takes_next⟩ := takes_bind.1 takes
    obtain ⟨(n : Nat), rfl, rfl⟩ := takes_ask.1 drawn
    obtain ⟨history', kept', rfl, goes⟩ := ih n takes_next fits.of_append.2 keeps
    exact ⟨history', kept', rfl, n, later, rfl, goes⟩

/-- What a session of a new client comes to, and what happens in it, under a behaviour of the
surroundings. -/
def run (g : Grant) (s : Session) (b : Behaviour Host) :
    Except Overflow (Unit × Option AdminToken) × List (Event Host) :=
  (g.run s.perform none).run.eval b.recorded []

/-- Whatever is answered, a session of a new client comes to its end unless an instant lies outside the
calendar, and goes as it should. -/
theorem run_goes (g : Grant) (s : Session) (b : Behaviour Host) (fits : g.Fits (s.run g b).2) :
    ∃ history kept, (s.run g b).1 = .ok ((), kept) ∧
      s.Goes g [] none (s.run g b).2 history kept := by
  obtain ⟨events, recorded, takes⟩ := Program.takes_recorded b (g.run s.perform none).run []
  obtain rfl : (s.run g b).2 = events := recorded
  exact s.goes_from takes fits fun t => ⟨nofun, fun held => absurd held (not_held_nil t)⟩

/-! ### A token that is refused -/

def sampleUrl : Url :=
  ⟨"http", "", "", some "localhost", none, .segments ["admin"], false, none, none⟩

def sampleGrant : Grant := ⟨sampleUrl, "admin-cli", "admin", ⟨"password"⟩, .ofSecs 30⟩

/-- The reply that grants a token, which is given as JSON writes it. -/
def granting (token : String) : Reply :=
  ⟨200, none, some (Utf8.encode
    ("\x7b\"access_token\":\"" ++ token ++ "\",\"token_type\":\"bearer\"\x7d"))⟩

def unauthorized : Reply := ⟨401, none, some []⟩

/-- The first token that is granted is refused when it is sent, and every later one is `second`. -/
def sampleBehaviour (second : String) : Behaviour Host := fun past call =>
  match call with
  | .exchange r =>
    .ok <| match r.bearer with
      | none => granting (if past.length = 2 then "first" else second)
      | some token => if token.expose = "first" then unauthorized else ⟨204, none, some []⟩
  | .now => (⟨0⟩ : Instant)
  | .elapsed => Duration.zero
  | .sleep _ => ()
  | .drawSeed => (0 : Nat)
  | .drawId => (0 : Nat)
  | .note _ => ()

def sampleCall : AdminCall Unit := .execute .delete sampleUrl .empty

def sampleSession : Session := .call sampleCall fun _ => .call sampleCall fun _ => .done

theorem read_granting_first : Grant.read (granting "first") = .ok ⟨⟨"first"⟩, none⟩ :=
  Grant.read_bearer ⟨"first"⟩

theorem read_granting_second : Grant.read (granting "second") = .ok ⟨⟨"second"⟩, none⟩ :=
  Grant.read_bearer ⟨"second"⟩

theorem read_granting_unsendable : Grant.read (granting "\\u0001") = .ok ⟨⟨"\x01"⟩, none⟩ :=
  Grant.read_bearer ⟨"\x01"⟩

theorem fits_sample :
    sampleGrant.Fits (sampleSession.run sampleGrant (sampleBehaviour "second")).2 := by
  intro issuedAt reply granted within reads
  obtain ⟨_, asked⟩ := Program.answer_of_mem_recorded _ _
    (within.subset (List.mem_cons_self ..)) List.not_mem_nil
  obtain ⟨past, answered⟩ := Program.answer_of_mem_recorded _ _
    (within.subset (List.mem_cons_of_mem _ (List.mem_cons_self ..))) List.not_mem_nil
  obtain rfl : issuedAt = ⟨0⟩ := asked
  obtain rfl := Except.ok.inj answered
  change Grant.read (granting (if past.length = 2 then "first" else "second")) = .ok granted at reads
  split at reads
  · rw [read_granting_first] at reads
    cases reads
    rfl
  · rw [read_granting_second] at reads
    cases reads
    rfl

theorem sample_session_goes :
    ∃ history kept,
      (sampleSession.run sampleGrant (sampleBehaviour "second")).1 = .ok ((), kept) ∧
        sampleSession.Goes sampleGrant [] none
          (sampleSession.run sampleGrant (sampleBehaviour "second")).2 history kept :=
  run_goes sampleGrant sampleSession (sampleBehaviour "second") fits_sample

/-- The rounds of a call whose second token is not sent. -/
def unsendableAccount : Account where
  first :=
    ⟨⟨0⟩, some ⟨⟨0⟩, .ok (granting "first"), .ok ⟨⟨"first"⟩, ⟨0⟩, ⟨AdminToken.fallbackLifetime⟩⟩,
      .granted read_granting_first rfl⟩, .sent ⟨"first"⟩ (.ok unauthorized)⟩
  second := some
    ⟨⟨0⟩, some ⟨⟨0⟩, .ok (granting "\\u0001"), .ok ⟨⟨"\x01"⟩, ⟨0⟩, ⟨AdminToken.fallbackLifetime⟩⟩,
      .granted read_granting_unsendable rfl⟩, .unsendable ⟨"\x01"⟩⟩

/-- After a reply of status 401 a token is granted that cannot stand in a header: nothing is sent, and
the call does not end with what it makes of the last reply. -/
theorem unsendable_token_is_not_sent :
    ∃ kept events,
      (sampleGrant.run sampleCall.perform.run none).run.eval (sampleBehaviour "\\u0001").recorded [] =
        (.ok (.error (networkFailure "the token cannot be sent"), kept), events) ∧
      quiet events =
        unsendableAccount.rounds.flatMap (Round.events sampleGrant sampleCall.request.signed) ∧
      (∀ r ∈ unsendableAccount.rounds, ∀ x ∈ r.grant, ∃ t, x.ending = .ok t) ∧
      unsendableAccount.first.fate = .sent ⟨"first"⟩ (.ok unauthorized) ∧
      unsendableAccount.last.fate = .unsendable ⟨"\x01"⟩ ∧
      sampleCall.outcome unauthorized ≠ .error (networkFailure "the token cannot be sent") := by
  refine ⟨some ⟨⟨"\x01"⟩, ⟨0⟩, ⟨AdminToken.fallbackLifetime⟩⟩, _, Prod.ext ?_ rfl, ?_, ?_, rfl, rfl,
    ?_⟩
  · cbv
  · cbv
  · simp [Account.rounds, unsendableAccount]
  · change Except.error (unauthorized.rejection .delete sampleUrl) ≠ _
    simp [Reply.rejection, networkFailure]

end Session

end RealmSetup
