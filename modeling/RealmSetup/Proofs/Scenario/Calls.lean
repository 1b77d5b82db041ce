import RealmSetup.Proofs.Effect.Transcripts
import RealmSetup.Proofs.Flow.Server
import RealmSetup.Scenario.Run

/-!
# The calls of a run

The surroundings of a run see tokens asked for, requests exchanged and notes taken.  A run itself speaks
of larger things, each of which takes several of those: a role is created, a flow is listed, a seed is
put into the store.  `Orchestrator.Call` names these calls, `Call.perform` says what each of them does,
and `CallMade` is a call together with the events it took and the result it came to by them.

`Reading.Tells` says that every transcript of an attempt falls into calls that were made, with nothing but
notes in between, so that the first call that fails is the last and the attempt fails with its error
(`Stops`).  There is one rule for each way in which attempts are put together.  A `Reading` carries the
rules through the layers of a run: the builder of flows, the client that sends tokens and the run with
its store all make their calls to the same surroundings.
-/

namespace RealmSetup

namespace Orchestrator

/-- A call that a run makes to the server, to the capture of mail, to its store or to chance. -/
inductive Call where
  | clearSecrets
  | putSecret (user : String) (secret : Secret)
  | deleteMail (mail : MailCapture)
  | drawSeed
  | createRealm (representation : Json)
  | deleteRealm (realm : String)
  | updateRealm (realm : String) (patch : Json)
  | listRequiredActions (realm : String)
  | getRequiredAction (realm aliasName : String)
  | putRequiredAction (realm : String) (action : RequiredAction)
  | registerRequiredAction (realm providerId : String)
  | createRole (realm name : String)
  | getRole (realm name : String)
  | createUser (realm : String) (representation : Json)
  | findUser (realm username : String)
  | getUser (realm id : String)
  | putUser (realm : String) (user : UserRecord)
  | addRealmRoles (realm id : String) (roles : List Role)
  | getClientByClientId (realm clientId : String)
  | createClient (realm : String) (representation : Json)
  | putOtpCredential (realm userId : String) (seed : Secret)
  /-- A request about the flows of a realm. -/
  | flow (realm : String) (op : Remote.Op)

namespace Call

/-- What a call yields unless it fails. -/
abbrev Result : Call → Type
  | clearSecrets => Unit
  | putSecret _ _ => Unit
  | deleteMail _ => Unit
  | drawSeed => Secret
  | createRealm _ => Creation
  | deleteRealm _ => Bool
  | updateRealm _ _ => Unit
  | listRequiredActions _ => List RequiredAction
  | getRequiredAction _ _ => Option RequiredAction
  | putRequiredAction _ _ => Unit
  | registerRequiredAction _ _ => Creation
  | createRole _ _ => Creation
  | getRole _ _ => Role
  | createUser _ _ => Creation
  | findUser _ _ => Option UserRecord
  | getUser _ _ => UserRecord
  | putUser _ _ => Unit
  | addRealmRoles _ _ _ => Unit
  | getClientByClientId _ _ => Option ClientSummary
  | createClient _ _ => Creation
  | putOtpCredential _ _ _ => Unit
  | flow _ op => op.Result

open StationAttempt in
/-- What a run does to make a call. -/
def perform (admin : AdminClient) : (c : Call) → StationAttempt c.Result
  | clearSecrets => StationAttempt.clearSecrets
  | putSecret user secret => StationAttempt.putSecret user secret
  | deleteMail mail => ofHost mail.deleteAll
  | drawSeed => ofSite (ExceptT.lift Seed.draw)
  | createRealm representation => ofSite (admin.createRealm representation)
  | deleteRealm realm => ofSite (admin.deleteRealm realm)
  | updateRealm realm patch => ofSite (admin.updateRealm realm patch)
  | listRequiredActions realm => ofSite (admin.listRequiredActions realm)
  | getRequiredAction realm aliasName => ofSite (admin.getRequiredAction realm aliasName)
  | putRequiredAction realm action => ofSite (admin.putRequiredAction realm action)
  | registerRequiredAction realm providerId => ofSite (admin.registerRequiredAction realm providerId)
  | createRole realm name => ofSite (admin.createRole realm name)
  | getRole realm name => ofSite (admin.getRole realm name)
  | createUser realm representation => ofSite (admin.createUser realm representation)
  | findUser realm username => ofSite (admin.findUser realm username)
  | getUser realm id => ofSite (admin.getUser realm id)
  | putUser realm user => ofSite (admin.putUser realm user)
  | addRealmRoles realm id roles => ofSite (admin.addRealmRoles realm id roles)
  | getClientByClientId realm clientId => ofSite (admin.getClientByClientId realm clientId)
  | createClient realm representation => ofSite (admin.createClient realm representation)
  | putOtpCredential realm userId seed => ofSite (admin.putOtpCredential realm userId seed)
  | flow realm op => ofSite (admin.serveOp realm op)

/-- The realm that a call is about, if it is about one. -/
def realm? : Call → Option String
  | clearSecrets | putSecret _ _ | deleteMail _ | drawSeed => none
  | createRealm representation => representation.textAt? "realm"
  | deleteRealm realm | updateRealm realm _ | listRequiredActions realm | getRequiredAction realm _
  | putRequiredAction realm _ | registerRequiredAction realm _ | createRole realm _ | getRole realm _
  | createUser realm _ | findUser realm _ | getUser realm _ | putUser realm _ | addRealmRoles realm _ _
  | getClientByClientId realm _ | createClient realm _ | putOtpCredential realm _ _
  | flow realm _ => some realm

/-- The name of the entry point among what a server is told about a realm. -/
def entryPointMember : String := "browserFlow"

/-- The alias that a call sets as the entry point of a realm. -/
def entryPoint? : Call → Option String
  | createRealm representation => representation.textAt? entryPointMember
  | updateRealm _ patch => patch.textAt? entryPointMember
  | flow _ op => op.entryPoint?
  | _ => none

/-- A call is about a realm, if about any, and leaves its entry point alone. -/
def Prepares (realm : String) (c : Call) : Prop :=
  c.realm?.getD realm = realm ∧ c.entryPoint? = none

/-- A call sets the entry point of a realm. -/
def Sets (realm aliasName : String) (c : Call) : Prop :=
  c.realm? = some realm ∧ c.entryPoint? = some aliasName

end Call

/-! ## Calls that were made -/

/-- The error of an ending, if it is one. -/
def errorOf {α : Type} : Except Error α → Option Error
  | .ok _ => none
  | .error e => some e

theorem errorOf_eq_some {α : Type} {result : Except Error α} {e : Error} :
    errorOf result = some e ↔ result = .error e := by
  cases result <;> simp [errorOf]

/-- A call that was made: what happened, and what it came to by that. -/
structure CallMade (admin : AdminClient) where
  call : Call
  events : List (Event Station)
  result : Except Error call.Result
  takes : (call.perform admin).run.Takes events result

/-- Whether a call to the surroundings of a run is a note. -/
def isNote : Station.Call → Bool
  | .inl (.inr (.note _)) => true
  | _ => false

/-- Events without the notes among them. -/
def spoken (events : List (Event Station)) : List (Event Station) :=
  events.filter fun e => !isNote e.call

theorem spoken_append (first second : List (Event Station)) :
    spoken (first ++ second) = spoken first ++ spoken second :=
  List.filter_append first second

variable {admin : AdminClient} {α β : Type}

namespace CallMade

/-- The error of a call that failed. -/
def error? (m : CallMade admin) : Option Error :=
  errorOf m.result

/-- What happened in some calls, one after the other. -/
def spokenAll (log : List (CallMade admin)) : List (Event Station) :=
  log.flatMap fun m => spoken m.events

end CallMade

open CallMade

/-- A call that failed is the last, and its error is the result. -/
def Stops (log : List (CallMade admin)) (result : Except Error α) : Prop :=
  ∀ before m after e, log = before ++ m :: after → m.error? = some e → after = [] ∧ result = .error e

theorem stops_nil (result : Except Error α) : Stops ([] : List (CallMade admin)) result := by
  intro before m after e split
  simp at split

theorem stops_singleton (m : CallMade admin) : Stops [m] m.result := by
  intro before m' after e split failed
  obtain ⟨rfl, rfl, rfl⟩ : before = [] ∧ m' = m ∧ after = [] := by
    cases before with
    | nil => simpa using split.symm
    | cons _ _ => simp at split
  exact ⟨rfl, errorOf_eq_some.1 failed⟩

/-- Up to a success no call failed. -/
theorem Stops.succeeded {log : List (CallMade admin)} {a : α} (h : Stops log (.ok a)) :
    ∀ m ∈ log, m.error? = none := by
  intro m hm
  obtain ⟨before, after, split⟩ := List.append_of_mem hm
  refine Option.eq_none_iff_forall_ne_some.2 fun e failed => ?_
  cases (h before m after e split failed).2

/-- Where no call failed, it depends on the later ones. -/
theorem Stops.append {first second : List (CallMade admin)} {result : Except Error α}
    (hfirst : ∀ m ∈ first, m.error? = none) (hsecond : Stops second result) :
    Stops (first ++ second) result := by
  intro before m after e split failed
  obtain ⟨gap, rfl, rest⟩ | ⟨gap, rfl, rest⟩ := List.append_eq_append_iff.1 split
  · exact hsecond gap m after e rest failed
  · obtain _ | ⟨m', gap⟩ := gap
    · exact hsecond [] m after e rest.symm failed
    · obtain ⟨rfl, -⟩ := List.cons_eq_cons.1 rest
      rw [hfirst m (by simp)] at failed
      cases failed

/-- An error may be the result of any attempt. -/
theorem Stops.error {log : List (CallMade admin)} {e : Error}
    (h : Stops log (.error e : Except Error α)) : Stops log (.error e : Except Error β) := by
  intro before m after e' split failed
  obtain ⟨last, same⟩ := h before m after e' split failed
  obtain rfl := Except.error.inj same
  exact ⟨last, rfl⟩

/-! ## Calls that prepare a realm -/

variable {realm : String}

/-- All calls among these prepare a realm. -/
def Preparing (realm : String) (log : List (CallMade admin)) : Prop :=
  ∀ m ∈ log, m.call.Prepares realm

theorem preparing_nil : Preparing realm ([] : List (CallMade admin)) := by
  simp [Preparing]

theorem Preparing.append {first second : List (CallMade admin)} (hfirst : Preparing realm first)
    (hsecond : Preparing realm second) : Preparing realm (first ++ second) := by
  intro m hm
  exact (List.mem_append.1 hm).elim (hfirst m) (hsecond m)

/-- It makes no difference to `S` which calls that prepare a realm come first, and such calls followed by
an error satisfy it. -/
structure Tolerant (realm : String) (S : List (CallMade admin) → Except Error α → Prop) : Prop where
  later : ∀ {first log result}, Preparing realm first → (∀ m ∈ first, m.error? = none) →
    S log result → S (first ++ log) result
  early : ∀ {log e}, Preparing realm log → S log (.error e)

theorem tolerant_preparing :
    Tolerant realm fun (log : List (CallMade admin)) (_ : Except Error α) => Preparing realm log where
  later prepares _ h := prepares.append h
  early prepares := prepares

/-- What is said of the value beside may be anything. -/
theorem Tolerant.yielding {Q : List (CallMade admin) → Except Error α → Prop}
    (h : Tolerant realm Q) (P : α → Prop) :
    Tolerant realm fun log result => Q log result ∧ ∀ a, result = .ok a → P a where
  later prepares succeeded h' := ⟨h.later prepares succeeded h'.1, h'.2⟩
  early prepares := ⟨h.early prepares, fun _ ok => nomatch ok⟩

end Orchestrator

/-! ## Reading attempts -/

/-- How the calls of an interface are made to the surroundings of a run. -/
structure Reading (I : Interface) [Offers I Journal] where
  answer : (c : I.Call) → Program Station (I.Answer c)
  answer_note : ∀ n, (note (I := I) n).interpret answer = note n

namespace Reading

/-- The surroundings of a run themselves. -/
def station : Reading Station where
  answer c := Program.call c
  answer_note _ := Program.interpret_self _

/-- The surroundings of a client that sends tokens are among those of a run. -/
def site : Reading Site where
  answer c := Program.call (I := Station) (.inl c)
  answer_note _ := rfl

/-- The requests of a builder of flows are made by a client. -/
def flows (admin : AdminClient) : Reading FlowSite where
  answer c := (admin.serveFlows c).interpret site.answer
  answer_note _ := rfl

open Orchestrator CallMade

variable {I : Interface} [Offers I Journal] {R : Reading I} {admin : AdminClient} {α β : Type}

/-- Every transcript of an attempt is that of calls that were made, the first that failed being the last,
and of these and the result `Q` holds. -/
def Tells (R : Reading I) (w : Attempt I α) (Q : List (CallMade admin) → Except Error α → Prop) :
    Prop :=
  ∀ events result, (w.run.interpret R.answer).Takes events result →
    ∃ log, spoken events = spokenAll log ∧ Stops log result ∧ Q log result

variable {Q : List (CallMade admin) → Except Error α → Prop}

theorem Tells.mono {Q' : List (CallMade admin) → Except Error α → Prop} {w : Attempt I α}
    (h : R.Tells w Q) (hQ : ∀ log result, Q log result → Q' log result) : R.Tells w Q' := by
  intro events result takes
  obtain ⟨log, split, stops, q⟩ := h events result takes
  exact ⟨log, split, stops, hQ log result q⟩

theorem tells_ofExcept {r : Except Error α} (h : Q [] r) : R.Tells (Attempt.ofExcept r) Q := by
  rintro events result ⟨rfl, rfl⟩
  exact ⟨[], rfl, stops_nil _, h⟩

theorem tells_pure {a : α} (h : Q [] (.ok a)) : R.Tells (pure a) Q :=
  tells_ofExcept h

theorem tells_throw {e : Error} (h : Q [] (.error e)) : R.Tells (throw e) Q :=
  tells_ofExcept h

/-- A note says nothing. -/
theorem spoken_note {n : Note} {events : List (Event Station)} {u : Unit}
    (h : ((note (I := I) n).interpret R.answer).Takes events u) : spoken events = [] := by
  rw [R.answer_note] at h
  obtain rfl := Program.takes_call.1 h
  rfl

theorem tells_log {level : LogLevel} {message : String} {fields : List (String × Json)}
    {Q : List (CallMade admin) → Except Error Unit → Prop} (h : Q [] (.ok ())) :
    R.Tells (ExceptT.lift (log level message fields)) Q := by
  intro events result takes
  obtain ⟨first, _, _, rfl, noted, rfl, rfl⟩ := Program.takes_interpret_bind.1 takes
  exact ⟨[], by rw [List.append_nil, spoken_note noted]; rfl, stops_nil _, h⟩

/-- The rule for a sequence: what comes after a success, and what a failure of the first part says. -/
theorem Tells.bind {S : List (CallMade admin) → Except Error β → Prop} {w : Attempt I α}
    {f : α → Attempt I β} (hw : R.Tells w Q)
    (hf : ∀ a log, (∀ m ∈ log, m.error? = none) → Q log (.ok a) →
      R.Tells (f a) fun more result => S (log ++ more) result)
    (he : ∀ e log, Q log (.error e) → S log (.error e)) : R.Tells (w >>= f) S := by
  intro events result takes
  rw [Attempt.interpret_bind, Program.takes_bind] at takes
  obtain ⟨first, ending, second, rfl, takes_w, takes_f⟩ := takes
  obtain ⟨log, spoken_first, stops, q⟩ := hw first ending takes_w
  cases ending with
  | error e =>
    obtain ⟨rfl, rfl⟩ := takes_f
    exact ⟨log, by rw [List.append_nil, spoken_first], stops.error, he e log q⟩
  | ok a =>
    have succeeded := stops.succeeded
    obtain ⟨more, spoken_second, stops', s⟩ := hf a log succeeded q second result takes_f
    refine ⟨log ++ more, ?_, stops'.append succeeded, s⟩
    rw [spoken_append, spoken_first, spoken_second]
    exact List.flatMap_append.symm

/-- An entry in the log comes to nothing. -/
theorem Tells.logged {S : List (CallMade admin) → Except Error β → Prop} {level : LogLevel}
    {message : String} {fields : List (String × Json)} {f : Unit → Attempt I β}
    (h : R.Tells (f ()) S) : R.Tells (ExceptT.lift (log level message fields) >>= f) S := by
  have silent : R.Tells (ExceptT.lift (log level message fields))
      fun (log : List (CallMade admin)) result => log = [] ∧ result = .ok () := tells_log ⟨rfl, rfl⟩
  refine silent.bind (fun _ log _ nothing => ?_) fun e log nothing => nomatch nothing.2
  obtain ⟨rfl, -⟩ := nothing
  exact h

/-- What is observed of a step are notes. -/
theorem Tells.observe {w : Attempt I α} (h : R.Tells w Q) (step : StepKind) (realm : String) :
    R.Tells (RealmSetup.observe step realm w) Q := by
  intro events result takes
  simp only [RealmSetup.observe, count, ExceptT.run_mk] at takes
  obtain ⟨entered, _, _, rfl, noted, takes⟩ := Program.takes_interpret_bind.1 takes
  obtain ⟨attempted, _, _, rfl, counted, takes⟩ := Program.takes_interpret_bind.1 takes
  obtain ⟨inside, ending, after, rfl, takes_w, takes⟩ := Program.takes_interpret_bind.1 takes
  obtain ⟨log, spoken_inside, stops, q⟩ := h inside ending takes_w
  suffices spoken after = [] ∧ result = ending by
    obtain ⟨quiet, rfl⟩ := this
    refine ⟨log, ?_, stops, q⟩
    rw [spoken_append, spoken_append, spoken_append, spoken_note noted, spoken_note counted, quiet,
      spoken_inside, List.append_nil, List.nil_append, List.nil_append]
  cases ending with
  | ok a =>
    obtain ⟨closed, _, _, rfl, noted, rfl, rfl⟩ := Program.takes_interpret_bind.1 takes
    exact ⟨by rw [List.append_nil, spoken_note noted], rfl⟩
  | error e =>
    obtain ⟨warned, _, _, rfl, noted, takes⟩ := Program.takes_interpret_bind.1 takes
    obtain ⟨closed, _, _, rfl, counted, rfl, rfl⟩ := Program.takes_interpret_bind.1 takes
    exact ⟨by rw [List.append_nil, spoken_append, spoken_note noted, spoken_note counted]; rfl, rfl⟩

variable {realm : String}

/-- The rule for what comes after calls that prepare a realm. -/
theorem Tells.after {S : List (CallMade admin) → Except Error β → Prop} {w : Attempt I α}
    {f : α → Attempt I β}
    (hw : R.Tells w fun (log : List (CallMade admin)) _ => Preparing realm log)
    (hf : ∀ a, R.Tells (f a) S) (tolerant : Tolerant realm S) : R.Tells (w >>= f) S :=
  hw.bind (fun a _ succeeded prepares =>
    (hf a).mono fun _ _ => tolerant.later prepares succeeded) fun _ _ => tolerant.early

/-- What is put together from steps that prepare a realm prepares it. -/
theorem Tells.composed {Step : (β : Type) → Attempt I β → Prop} {w : Attempt I α}
    (h : w.Composed Step)
    (steps : ∀ β (w : Attempt I β), Step β w →
      R.Tells w fun (log : List (CallMade admin)) _ => Preparing realm log) :
    R.Tells w fun (log : List (CallMade admin)) _ => Preparing realm log := by
  induction h with
  | step h => exact steps _ _ h
  | ofExcept r => exact tells_ofExcept preparing_nil
  | log level message fields => exact tells_log preparing_nil
  | bind hw hf ihw ihf => exact ihw.after ihf tolerant_preparing
  | observe step realm hw ih => exact ih.observe step realm

/-- The rule for a single call. -/
theorem tells_call (c : Call) {w : Attempt I c.Result}
    {Q : List (CallMade admin) → Except Error c.Result → Prop}
    (performs : w.run.interpret R.answer = (c.perform admin).run)
    (h : ∀ events result takes, Q [⟨c, events, result, takes⟩] result) : R.Tells w Q := by
  intro events result takes
  rw [performs] at takes
  exact ⟨_, (List.append_nil _).symm, stops_singleton _, h events result takes⟩

/-- A single call that prepares a realm. -/
theorem tells_preparing (c : Call) {w : Attempt I c.Result}
    (performs : w.run.interpret R.answer = (c.perform admin).run) (h : c.Prepares realm) :
    R.Tells w fun (log : List (CallMade admin)) _ => Preparing realm log := by
  refine tells_call c performs fun _ _ _ m hm => ?_
  obtain rfl := List.mem_singleton.1 hm
  exact h

/-! ## From layer to layer -/

theorem tells_ofSite {w : SiteAttempt α} (h : site.Tells w Q) :
    station.Tells (StationAttempt.ofSite w) Q := by
  intro events result takes
  refine h events result ?_
  rwa [← Program.interpret_self (w.run.interpret site.answer)]

theorem tells_withFlows {w : Builder.Work α} (h : (flows admin).Tells w Q) :
    site.Tells (admin.withFlows w) Q := by
  intro events result takes
  refine h events result ?_
  have read := Program.interpret_interpret admin.serveFlows site.answer w.run
  exact read ▸ takes

end Reading

end RealmSetup
