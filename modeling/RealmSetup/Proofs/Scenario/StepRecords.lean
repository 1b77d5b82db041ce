import RealmSetup.Proofs.Scenario.Composition

/-!
# The records of steps

An observed step counts an attempt when it begins and a success or a failure when it ends.  Nothing else
counts, since the calls of a run take no other notes than entries in the log
(`Orchestrator.Call.silent_perform`).  So the events of a run are those of steps that are begun and closed
inside each other: `Nests` says so step by step, with what the operation of each step came to, and what is
not inside a step are calls and entries in the log one by one.

What follows for the records alone is `Bracketed`.  A step is closed after all that was begun inside it,
and since an error ends every attempt that it reaches, the first failure is followed by those of the steps
that are open around it and by nothing else.
-/

namespace RealmSetup

open Orchestrator StationAttempt

/-! ## Records -/

/-- What is counted of a step. -/
abbrev StepRecord : Type := StepKind × StepOutcome

/-- What an event counts, if it does. -/
def Event.record? (e : Event Station) : Option StepRecord :=
  match e.call with
  | .inl (.inr (.note (.counted step outcome))) => some (step, outcome)
  | _ => none

/-- The records among some events, in order. -/
def records (events : List (Event Station)) : List StepRecord := events.filterMap Event.record?

theorem records_append (first second : List (Event Station)) :
    records (first ++ second) = records first ++ records second :=
  List.filterMap_append

/-- A call that counts nothing. -/
def Silent : Station.Call → Prop
  | .inl (.inr (.note (.counted _ _))) => False
  | _ => True

theorem record?_of_silent {e : Event Station} (h : Silent e.call) : e.record? = none := by
  unfold Event.record?
  split
  · next step outcome counted =>
    rw [counted] at h
    exact h.elim
  · rfl

/-- A program that makes only calls which count nothing leaves no records. -/
theorem records_of_silent {α : Type} {p : Program Station α} (h : p.Makes Silent)
    {events : List (Event Station)} {a : α} (takes : p.Takes events a) : records events = [] := by
  induction p generalizing events with
  | done b =>
    obtain ⟨rfl, -⟩ := takes
    rfl
  | ask c next ih =>
    obtain ⟨answer, rest, rfl, takes⟩ := takes
    have silent : Event.record? ⟨c, answer⟩ = none := record?_of_silent h.1
    rw [records, List.filterMap_cons_none silent]
    exact ih answer (h.2 answer) takes

/-! ## The calls of a run -/

theorem silent_of_plain {c : Station.Call} (h : Plain c) : Silent c := by
  match c, h with
  | .inl (.inl _), _ | .inl (.inr (.exchange _)), _ | .inl (.inr .drawId), _
  | .inl (.inr (.note (.logged _))), _ | .inr .clear, _ => trivial

/-- No call of a run counts anything. -/
theorem Orchestrator.Call.silent_perform (admin : AdminClient) (c : Call) :
    (c.perform admin).run.Makes Silent := by
  by_cases seedless : c.Seedless
  · exact (c.plain_perform admin seedless).mono fun _ => silent_of_plain
  cases c with
  | putSecret => exact Program.makes_bind (Program.makes_call trivial) fun _ => trivial
  | drawSeed => exact ⟨trivial, fun _ => trivial⟩
  | putOtpCredential realm userId seed =>
    have asked : AdminCall.Requests admin (admin.putOtpCredential realm userId seed) :=
      .putOtpCredential realm userId seed
    exact (plain_ofSite asked.makes).mono fun _ => silent_of_plain
  | _ => exact absurd trivial seedless

/-! ## Steps inside each other -/

/-- A note as an event. -/
def noted (n : Note) : Event Station := ⟨.inl (.inr (.note n)), ()⟩

/-- What is noted when a step begins. -/
def opening (step : StepKind) (realm : String) : List (Event Station) :=
  [noted (.entered step realm), noted (.counted step .attempt)]

/-- What is noted when the operation of a step ended. -/
def closing {α : Type} (step : StepKind) (realm : String) : Except Error α → List (Event Station)
  | .ok _ => [noted (.counted step .success)]
  | .error e => [noted (.logged (failureEntry step realm e)), noted (.counted step .failure)]

/-- With these events an attempt ends so, which are those of the steps observed in it: between the
opening of a step and its closing stands what its operation took, and it is closed by what the operation
came to.  Besides steps there are only calls of a run, which count nothing, and entries in the log. -/
inductive Nests (admin : AdminClient) :
    {α : Type} → StationAttempt α → List (Event Station) → Except Error α → Prop
  | call (c : Call) {events : List (Event Station)} {result : Except Error c.Result}
    (takes : (c.perform admin).run.Takes events result) : Nests admin (c.perform admin) events result
  | ofExcept {α : Type} (r : Except Error α) : Nests admin (Attempt.ofExcept r) [] r
  | log (level : LogLevel) (message : String) (fields : List (String × Json)) :
    Nests admin (ExceptT.lift (log level message fields)) [noted (.logged ⟨level, message, fields⟩)]
      (.ok ())
  | step {α : Type} {w : StationAttempt α} {inside : List (Event Station)}
    {result : Except Error α} (kind : StepKind) (realm : String) (operation : Nests admin w inside result) :
    Nests admin (observe kind realm w) (opening kind realm ++ inside ++ closing kind realm result) result
  /-- An attempt is followed by another. -/
  | next {α β : Type} {w : StationAttempt α} {f : α → StationAttempt β}
    {first second : List (Event Station)} {a : α} {result : Except Error β}
    (hw : Nests admin w first (.ok a)) (hf : Nests admin (f a) second result) :
    Nests admin (w >>= f) (first ++ second) result
  /-- An error ends all that would follow. -/
  | stopped {α β : Type} {w : StationAttempt α} {f : α → StationAttempt β}
    {first : List (Event Station)} {e : Error} (hw : Nests admin w first (.error e)) :
    Nests admin (w >>= f) first (.error e)

theorem takes_note {n : Note} {events : List (Event Station)} {u : Unit}
    (takes : (note (I := Station) n).Takes events u) : events = [noted n] :=
  Program.takes_call.1 takes

/-- Between the opening and the closing of a step stands its operation. -/
theorem takes_observe {α : Type} {step : StepKind} {realm : String} {w : StationAttempt α}
    {events : List (Event Station)} {result : Except Error α}
    (takes : (observe step realm w).run.Takes events result) :
    ∃ inside, events = opening step realm ++ inside ++ closing step realm result ∧
      w.run.Takes inside result := by
  obtain ⟨_, _, _, rfl, entered, takes⟩ := Program.takes_bind.1 takes
  obtain ⟨_, _, _, rfl, attempted, takes⟩ := Program.takes_bind.1 takes
  obtain ⟨inside, ending, after, rfl, takes_w, takes⟩ := Program.takes_bind.1 takes
  obtain rfl := takes_note entered
  obtain rfl := takes_note attempted
  suffices closed : after = closing step realm ending ∧ result = ending by
    obtain ⟨rfl, rfl⟩ := closed
    exact ⟨inside, by simp [opening], takes_w⟩
  cases ending with
  | ok a =>
    obtain ⟨_, _, _, rfl, succeeded, rfl, rfl⟩ := Program.takes_bind.1 takes
    obtain rfl := takes_note succeeded
    exact ⟨rfl, rfl⟩
  | error e =>
    obtain ⟨_, _, _, rfl, warned, takes⟩ := Program.takes_bind.1 takes
    obtain ⟨_, _, _, rfl, failed, rfl, rfl⟩ := Program.takes_bind.1 takes
    obtain rfl := takes_note warned
    obtain rfl := takes_note failed
    exact ⟨rfl, rfl⟩

/-- The steps of what is put together from the calls of a run are inside each other. -/
theorem nests_of_composed {admin : AdminClient} {P : Call → Prop} {α : Type} {w : StationAttempt α}
    (h : w.Composed (Performs admin P)) {events : List (Event Station)} {result : Except Error α}
    (takes : w.run.Takes events result) : Nests admin w events result := by
  induction h generalizing events with
  | step h =>
    cases h with
    | call c _ => exact .call c takes
  | ofExcept r =>
    obtain ⟨rfl, rfl⟩ := takes
    exact .ofExcept _
  | log level message fields =>
    obtain ⟨_, _, _, rfl, logged, rfl, rfl⟩ := Program.takes_bind.1 takes
    obtain rfl := takes_note logged
    exact .log level message fields
  | bind hw hf ihw ihf =>
    rw [ExceptT.run_bind, Program.takes_bind] at takes
    obtain ⟨first, ending, second, rfl, takes_w, takes_f⟩ := takes
    cases ending with
    | ok a => exact .next (ihw takes_w) (ihf a takes_f)
    | error e =>
      obtain ⟨rfl, rfl⟩ := takes_f
      rw [List.append_nil]
      exact .stopped (ihw takes_w)
  | observe step realm hw ih =>
    obtain ⟨inside, rfl, takes_w⟩ := takes_observe takes
    exact .step step realm (ih takes_w)

/-! ## Records inside each other -/

/-- The steps that are open after one more record, the innermost first; a step is closed only if it is
the innermost of those that are open. -/
def StepRecord.follow? (opened : List StepKind) : StepRecord → Option (List StepKind)
  | (step, .attempt) => some (step :: opened)
  | (step, _) =>
    match opened with
    | [] => none
    | innermost :: outer => if innermost = step then some outer else none

/-- The steps that are open after some records. -/
def openAfter (opened : List StepKind) (rs : List StepRecord) : Option (List StepKind) :=
  rs.foldlM StepRecord.follow? opened

theorem openAfter_append (opened : List StepKind) (first second : List StepRecord) :
    openAfter opened (first ++ second) =
      openAfter opened first >>= fun opened' => openAfter opened' second :=
  List.foldlM_append

theorem openAfter_attempt (opened : List StepKind) (step : StepKind) (rs : List StepRecord) :
    openAfter opened ((step, .attempt) :: rs) = openAfter (step :: opened) rs :=
  List.foldlM_cons

theorem openAfter_closed (outer : List StepKind) (step : StepKind) {outcome : StepOutcome}
    (closes : outcome ≠ .attempt) : openAfter (step :: outer) [(step, outcome)] = some outer := by
  cases outcome <;> simp [openAfter, StepRecord.follow?] at closes ⊢

/-- The failures of steps, the innermost first. -/
def failures (opened : List StepKind) : List StepRecord := opened.map fun step => (step, .failure)

/-- When all steps that are open fail, the ones around them are left. -/
theorem openAfter_failures (opened outer : List StepKind) :
    openAfter (opened ++ outer) (failures opened) = some outer := by
  induction opened with
  | nil => rfl
  | cons step opened ih =>
    have first : openAfter (step :: (opened ++ outer)) [(step, .failure)] = some (opened ++ outer) :=
      openAfter_closed _ _ nofun
    have others : failures (step :: opened) = [(step, .failure)] ++ failures opened := rfl
    rw [others, List.cons_append, openAfter_append, first]
    exact ih

/-- What the records of an attempt come to: up to some point nothing failed, and the steps that are open
then fail, the innermost first.  There are none of these if the attempt succeeded. -/
def Bracketed {α : Type} (rs : List StepRecord) (result : Except Error α) : Prop :=
  ∃ before opened, rs = before ++ failures opened ∧ (∀ r ∈ before, r.2 ≠ .failure) ∧
    (∀ outer, openAfter outer before = some (opened ++ outer)) ∧ (∀ a, result = .ok a → opened = [])

/-- Records that are bracketed close all that they open. -/
theorem Bracketed.closes {α : Type} {rs : List StepRecord} {result : Except Error α}
    (h : Bracketed rs result) (outer : List StepKind) : openAfter outer rs = some outer := by
  obtain ⟨before, opened, rfl, -, opens, -⟩ := h
  rw [openAfter_append, opens]
  exact openAfter_failures opened outer

theorem bracketed_nil {α : Type} (result : Except Error α) : Bracketed [] result :=
  ⟨[], [], rfl, by simp, fun _ => rfl, fun _ _ => rfl⟩

/-- After a success others may follow. -/
theorem Bracketed.append {α β : Type} {first second : List StepRecord} {a : α}
    {result : Except Error β} (h : Bracketed first (.ok a : Except Error α))
    (h' : Bracketed second result) : Bracketed (first ++ second) result := by
  obtain ⟨before, _, rfl, unfailed, opens, closed⟩ := h
  obtain rfl := closed a rfl
  obtain ⟨before', opened, rfl, unfailed', opens', closed'⟩ := h'
  refine ⟨before ++ before', opened, by simp [failures], fun r hr => ?_, fun outer => ?_, closed'⟩
  · exact (List.mem_append.1 hr).elim (unfailed r) (unfailed' r)
  · rw [openAfter_append, opens]
    exact opens' outer

theorem records_opening (step : StepKind) (realm : String) :
    records (opening step realm) = [(step, .attempt)] :=
  rfl

/-- A step is around what was begun inside it. -/
theorem Bracketed.step {α : Type} {inside : List StepRecord} {result : Except Error α}
    (h : Bracketed inside result) (step : StepKind) (realm : String) :
    Bracketed (records (opening step realm) ++ inside ++ records (closing step realm result)) result := by
  obtain ⟨before, opened, rfl, unfailed, opens, closed⟩ := h
  have begun (outer : List StepKind) :
      openAfter outer ((step, .attempt) :: before) = some (opened ++ step :: outer) := by
    rw [openAfter_attempt, opens]
  rw [records_opening]
  cases result with
  | ok a =>
    obtain rfl := closed a rfl
    have succeeds : records (closing step realm (.ok a : Except Error α)) = [(step, .success)] := rfl
    rw [succeeds]
    refine ⟨(step, .attempt) :: before ++ [(step, .success)], [], by simp [failures], ?_, ?_, by simp⟩
    · intro r hr
      rcases List.mem_append.1 hr with hr | hr
      · rcases List.mem_cons.1 hr with rfl | hr
        · exact nofun
        · exact unfailed r hr
      · obtain rfl := List.mem_singleton.1 hr
        exact nofun
    · intro outer
      rw [openAfter_append, begun]
      exact openAfter_closed outer step nofun
  | error e =>
    have fails : records (closing step realm (.error e : Except Error α)) = [(step, .failure)] := rfl
    rw [fails]
    refine ⟨(step, .attempt) :: before, opened ++ [step], by simp [failures], ?_, ?_, by simp⟩
    · simpa using unfailed
    · simpa using begun

/-- Where steps are inside each other, so are their records. -/
theorem Nests.bracketed {admin : AdminClient} {α : Type} {w : StationAttempt α}
    {events : List (Event Station)} {result : Except Error α} (h : Nests admin w events result) :
    Bracketed (records events) result := by
  induction h with
  | call c takes =>
    rw [records_of_silent (c.silent_perform admin) takes]
    exact bracketed_nil _
  | ofExcept | log => exact bracketed_nil _
  | step kind realm operation ih =>
    rw [records_append, records_append]
    exact ih.step kind realm
  | next hw hf ihw ihf =>
    rw [records_append]
    exact ihw.append ihf
  | stopped hw ih =>
    obtain ⟨before, opened, split, unfailed, opens, -⟩ := ih
    exact ⟨before, opened, split, unfailed, opens, nofun⟩

/-- Whatever a run is answered, the steps that it observes are inside each other, each closed by what its
operation came to.  So of its records each attempt is closed by one record of the same step, after all
that was begun inside it; and the first failure is followed by those of the steps that are open around it
alone. -/
theorem Orchestrator.run_steps_nest (admin : AdminClient) (mail : Option MailCapture)
    (transport : MailTransport) (scenarios : List Scenario) (b : Behaviour Station) :
    let o : Orchestrator := ⟨admin, credentialEnroller admin, mail, transport, scenarios⟩
    let ran := Attempt.eval b.recorded o.run []
    Nests admin o.run ran.2 ran.1 ∧ openAfter [] (records ran.2) = some [] ∧
      ∃ before opened, records ran.2 = before ++ failures opened ∧ (∀ r ∈ before, r.2 ≠ .failure) ∧
        openAfter [] before = some opened ∧ (∀ reports, ran.1 = .ok reports → opened = []) := by
  intro o ran
  obtain ⟨events, recorded, takes⟩ := Program.takes_recorded b o.run.run []
  obtain rfl : ran.2 = events := recorded
  have nests : Nests admin o.run ran.2 ran.1 := nests_of_composed (composes_run rfl) takes
  refine ⟨nests, nests.bracketed.closes [], ?_⟩
  obtain ⟨before, opened, split, unfailed, opens, closed⟩ := nests.bracketed
  have outermost := opens []
  rw [List.append_nil] at outermost
  exact ⟨before, opened, split, unfailed, outermost, closed⟩

end RealmSetup
