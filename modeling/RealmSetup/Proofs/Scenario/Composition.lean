import RealmSetup.Proofs.Admin.Calls
import RealmSetup.Proofs.Scenario.Preparation

/-!
# A run in terms of its calls

A run with the enroller that writes credentials is put together from the calls of `Orchestrator.Call`:
they follow each other up to the first that fails, with nothing but notes and computations in between
(`Orchestrator.composes_run`).  The layers of a run do not show in this: `Reading.read` takes an attempt
of a client or of a builder of flows to what it does in the surroundings of a run, and it respects all
ways in which attempts are put together.
-/

namespace RealmSetup

open Orchestrator StationAttempt

namespace Reading

variable {I : Interface} [Offers I Journal] (R : Reading I) {admin : AdminClient} {α β : Type}

/-- What an attempt does in the surroundings of a run. -/
def read (w : Attempt I α) : StationAttempt α := .ofProgram (w.run.interpret R.answer)

theorem read_bind (w : Attempt I α) (f : α → Attempt I β) :
    R.read (w >>= f) = R.read w >>= fun a => R.read (f a) := by
  refine ExceptT.ext ?_
  simp only [read, Attempt.ofProgram, ExceptT.run_mk, ExceptT.run_bind, Program.interpret_bind]
  refine bind_congr fun result => ?_
  cases result <;> rfl

theorem read_log (level : LogLevel) (message : String) (fields : List (String × Json)) :
    R.read (ExceptT.lift (log level message fields)) = ExceptT.lift (log level message fields) := by
  refine ExceptT.ext ?_
  refine (Program.interpret_bind R.answer (note _) _).trans ?_
  rw [R.answer_note]
  rfl

theorem read_observe (step : StepKind) (realm : String) (w : Attempt I α) :
    R.read (observe step realm w) = observe step realm (R.read w) := by
  refine ExceptT.ext ?_
  simp only [read, Attempt.ofProgram, observe, count, ExceptT.run_mk, Program.interpret_bind,
    R.answer_note]
  refine bind_congr fun _ => bind_congr fun _ => bind_congr fun result => ?_
  cases result with
  | ok a => simp only [Program.interpret_bind, R.answer_note]; rfl
  | error e => simp only [Program.interpret_bind, R.answer_note]; rfl

/-- The requests of a builder are made by a client, and those of a client in the surroundings of a run. -/
theorem read_flows (w : Builder.Work α) : (flows admin).read w = ofSite (admin.withFlows w) :=
  ExceptT.ext (Program.interpret_interpret admin.serveFlows site.answer w.run).symm

theorem ofSite_bind (w : SiteAttempt α) (f : α → SiteAttempt β) :
    ofSite (w >>= f) = ofSite w >>= fun a => ofSite (f a) :=
  site.read_bind w f

theorem ofSite_observe (step : StepKind) (realm : String) (w : SiteAttempt α) :
    ofSite (observe step realm w) = observe step realm (ofSite w) :=
  site.read_observe step realm w

/-- What an attempt is put together from, its reading is put together from likewise. -/
theorem composed_read {Step : (β : Type) → Attempt I β → Prop}
    {Step' : (β : Type) → StationAttempt β → Prop} {w : Attempt I α} (h : w.Composed Step)
    (steps : ∀ β w, Step β w → (R.read w).Composed Step') : (R.read w).Composed Step' := by
  induction h with
  | step h => exact steps _ _ h
  | ofExcept r => exact .ofExcept r
  | log level message fields =>
    rw [read_log]
    exact .log level message fields
  | bind hw hf ihw ihf =>
    rw [read_bind]
    exact .bind ihw ihf
  | observe step realm hw ih =>
    rw [read_observe]
    exact .observe step realm ih

end Reading

/-! ## Requests about flows -/

namespace Builder

variable {α : Type} {realm : String}

/-- Any request about a realm. -/
inductive Request (realm : String) : (β : Type) → Work β → Prop
  | ask (op : Remote.Op) : Request realm op.Result (ask realm op)

theorem Asks.requests {w : Work α} (h : Asks realm w) : w.Composed (Request realm) := by
  refine Attempt.Composed.mono h fun β w step => ?_
  cases step with
  | ask op unbound => exact .ask op

theorem requests_bind (report : BuildReport) :
    (Builder.bind realm report).Composed (Request realm) :=
  .bind (.ofExcept _) fun _ =>
    .bind (.observe _ _ (.bind (.step (.ask (.bindBrowserFlow report.flowAlias))) fun _ => .log _ _ _))
      fun _ => Attempt.composed_pure _

end Builder

theorem Scenario.requests_applyFlow (s : Scenario) (realm : String) :
    (s.applyFlow realm).Composed (Builder.Request realm) :=
  .bind (Builder.asks_deleteFlow _).requests fun _ =>
    .bind (Builder.asks_construct _).requests fun report => Builder.requests_bind report

/-! ## What the calls of a run take -/

/-- What is called in the surroundings of a run for a call in which no seed has a part: the source of
tokens, servers, chance for an identifier and the log, and the store only to be emptied. -/
def Plain : Station.Call → Prop
  | .inl (.inl _) | .inl (.inr (.exchange _)) | .inl (.inr .drawId) | .inl (.inr (.note (.logged _)))
  | .inr .clear => True
  | _ => False

theorem plain_ofSite {α : Type} {w : SiteAttempt α} (h : w.run.Makes AdminCall.Serves) :
    (ofSite w).run.Makes Plain := by
  refine Program.makes_interpret ?_ h
  intro c serves
  refine Program.makes_call ?_
  match c, serves with
  | .inl _, _ | .inr (.exchange _), _ | .inr .drawId, _ | .inr (.note (.logged _)), _ => trivial

theorem plain_deleteAll (mail : MailCapture) : (ofHost mail.deleteAll).run.Makes Plain := by
  have exchanges : mail.deleteAll.run.Makes fun c => ∃ request, c = Host.Call.exchange request := by
    refine Attempt.makes_bind (Attempt.makes_bind ?_ fun reply => ?_) fun _ => trivial
    · refine Program.makes_bind (Program.makes_call ⟨_, rfl⟩) fun answer => ?_
      cases answer <;> trivial
    · exact Attempt.makes_bind trivial fun _ => trivial
  refine Program.makes_interpret ?_ exchanges
  rintro _ ⟨request, rfl⟩
  exact Program.makes_call trivial

theorem Orchestrator.Call.plain_perform (admin : AdminClient) (c : Call) (h : c.Seedless) :
    (c.perform admin).run.Makes Plain := by
  have asked {α : Type} {w : SiteAttempt α} (h : AdminCall.Requests admin w) :
      (ofSite w).run.Makes Plain := plain_ofSite h.makes
  cases c with
  | putSecret | drawSeed | putOtpCredential => exact h.elim
  | clearSecrets => exact Program.makes_bind (Program.makes_call trivial) fun _ => trivial
  | deleteMail mail => exact plain_deleteAll mail
  | flow => exact asked (.serveOp ..)
  | createRealm => exact asked (.createRealm ..)
  | deleteRealm => exact asked (.deleteRealm ..)
  | updateRealm => exact asked (.updateRealm ..)
  | listRequiredActions => exact asked (.listRequiredActions ..)
  | getRequiredAction => exact asked (.getRequiredAction ..)
  | putRequiredAction => exact asked (.putRequiredAction ..)
  | registerRequiredAction => exact asked (.registerRequiredAction ..)
  | createRole => exact asked (.createRole ..)
  | getRole => exact asked (.getRole ..)
  | createUser => exact asked (.createUser ..)
  | findUser => exact asked (.findUser ..)
  | getUser => exact asked (.getUser ..)
  | putUser => exact asked (.putUser ..)
  | addRealmRoles => exact asked (.addRealmRoles ..)
  | getClientByClientId => exact asked (.getClientByClientId ..)
  | createClient => exact asked (.createClient ..)

/-! ## Runs -/

/-- A single call of a run, of a kind. -/
inductive Performs (admin : AdminClient) (P : Call → Prop) : (β : Type) → StationAttempt β → Prop
  | call (c : Call) (h : P c) : Performs admin P c.Result (c.perform admin)

theorem composed_call {admin : AdminClient} {P : Call → Prop} (c : Call) (h : P c) :
    (c.perform admin).Composed (Performs admin P) :=
  .step (.call c h)

section Layers

variable {admin : AdminClient} {realm : String} {α : Type}

theorem Prepares.composed {w : SiteAttempt α} (h : Prepares admin realm w) :
    (ofSite w).Composed (Performs admin (Call.Prepares realm)) := by
  refine Reading.site.composed_read h fun β w step => ?_
  cases step with
  | make c w performs prepares =>
    change (ofSite w).Composed _
    rw [performs]
    exact composed_call c prepares

theorem PreparesPlainly.composed {w : SiteAttempt α} (h : PreparesPlainly admin realm w) :
    (ofSite w).Composed (Performs admin Call.Seedless) := by
  refine Reading.site.composed_read h fun β w step => ?_
  cases step with
  | make c w performs prepares seedless =>
    change (ofSite w).Composed _
    rw [performs]
    exact composed_call c seedless

theorem Scenario.composed_applyFlow (s : Scenario) :
    (ofSite (admin.withFlows (s.applyFlow realm))).Composed (Performs admin Call.Seedless) := by
  rw [← Reading.read_flows]
  refine (Reading.flows admin).composed_read (s.requests_applyFlow realm) fun β w step => ?_
  cases step with
  | ask op =>
    have performs : (Reading.flows admin).read (Builder.ask realm op) =
        (Call.flow realm op).perform admin :=
      Program.interpret_call (Reading.flows admin).answer (.inl ⟨realm, op⟩)
    rw [performs]
    exact composed_call (.flow realm op) trivial

end Layers

namespace Orchestrator

variable {o : Orchestrator}

/-- An attempt is put together from calls of a run. -/
abbrev Composes (o : Orchestrator) {α : Type} (w : StationAttempt α) : Prop :=
  w.Composed (Performs o.admin fun _ => True)

theorem composes_of {α : Type} {P : Call → Prop} {w : StationAttempt α}
    (h : w.Composed (Performs o.admin P)) : o.Composes w := by
  refine h.mono fun β w step => ?_
  cases step with
  | call c h => exact .call c trivial

theorem composes_enrollUsers (builtIn : o.enroller = credentialEnroller o.admin) (realm : String)
    (ids : KeyMap String) (users : List ScenarioUser) :
    o.Composes (o.enrollUsers realm ids users) := by
  induction users with
  | nil => exact Attempt.composed_pure ()
  | cons user rest ih =>
    rw [enrollUsers]
    split
    · exact Attempt.composed_throw _
    · exact .bind (composes_of (prepares_enrollUser builtIn _ _).composed) fun seed =>
        .bind (composed_call (.putSecret user.username seed) trivial) fun _ => ih

theorem composes_provision (builtIn : o.enroller = credentialEnroller o.admin) (s : Scenario) :
    o.Composes (o.provision s) :=
  .observe _ _ <| .bind (composes_of (plainly_prepare s).composed) fun _ =>
    .bind (composes_enrollUsers builtIn _ _ _) fun _ =>
      .bind (composes_of s.composed_applyFlow) fun _ => Attempt.composed_pure _

theorem composes_provisionAll (builtIn : o.enroller = credentialEnroller o.admin)
    (scenarios : List Scenario) : o.Composes (o.provisionAll scenarios) := by
  induction scenarios with
  | nil => exact Attempt.composed_pure _
  | cons s rest ih =>
    exact .bind (composes_provision builtIn s) fun _ => .bind ih fun _ => Attempt.composed_pure _

/-- A run is put together from its calls. -/
theorem composes_run (builtIn : o.enroller = credentialEnroller o.admin) : o.Composes o.run := by
  have provisioned := Attempt.Composed.bind (composes_provisionAll builtIn o.scenarios)
    fun reports => .bind (.log .info "provisioning run complete" [("realms", .nat reports.length)])
      fun _ => Attempt.composed_pure reports
  refine .bind (composed_call .clearSecrets trivial) fun _ => ?_
  cases o.mail with
  | none => exact provisioned
  | some mail => exact .bind (composed_call (.deleteMail mail) trivial) fun _ => provisioned

end Orchestrator

end RealmSetup
