import RealmSetup.Proofs.Flow.Desk
import RealmSetup.Proofs.Flow.Numbering

/-!
# Constructions at a server

A construction keeps to one realm (`Builder.Within`), so that it ends at a server of many realms as it
ends at the desk of that realm (`MemoryServer.run_eq`), also when the server stops answering after some
requests (`MemoryServer.runFor_eq`).  Where a construction is broken off, it leaves one of the states
that it passes through when it is not (`FlowDesk.runFor_of_along`).
-/

namespace RealmSetup

/-! ## Servers that stop answering -/

/-- Answers a number of requests and refuses all others, which then change nothing. -/
def limited {σ : Type} (refusal : Error) (answer : Answering FlowSite σ) : Answering FlowSite (σ × Nat)
  | .inl c => fun s =>
    match s.2 with
    | 0 => (.error refusal, s)
    | n + 1 => (((answer (.inl c)).run s.1).1, ((answer (.inl c)).run s.1).2, n)
  | .inr note => fun s => (((answer (.inr note)).run s.1).1, ((answer (.inr note)).run s.1).2, s.2)

section Limited

variable {σ α : Type} {refusal : Error} {answer : Answering FlowSite σ}

/-- Where notes change nothing, neither does a program whose requests are all refused. -/
theorem eval_limited_zero (quiet : ∀ note s, ((answer (.inr note)).run s).2 = s)
    (p : Program FlowSite α) (s : σ) : (p.eval (limited refusal answer) (s, 0)).2 = (s, 0) := by
  induction p with
  | done a => rfl
  | ask c next ih =>
    cases c with
    | inl c => exact ih (.error refusal)
    | inr note =>
      have here := quiet note s
      rw [Program.eval_ask]
      simp only [limited, StateT.run] at here ⊢
      rw [here]
      exact ih _

/-- Broken off anywhere, a program leaves a state that it passes through. -/
theorem eval_limited_of_along (quiet : ∀ note s, ((answer (.inr note)).run s).2 = s) {Inv : σ → Prop}
    {Q : α → σ → Prop} {p : Program FlowSite α} {s : σ} (h : p.Along answer Inv Q s) (n : Nat) :
    Inv (p.eval (limited refusal answer) (s, n)).2.1 := by
  induction p generalizing s n with
  | done a => exact h.1
  | ask c next ih =>
    cases c with
    | inl c =>
      cases n with
      | zero =>
        rw [eval_limited_zero quiet]
        exact h.1
      | succ n => exact ih _ h.2 n
    | inr note => exact ih _ h.2 n

end Limited

namespace FlowDesk

/-- The ending of a construction that is refused everything after some requests, and the desk it
leaves. -/
def runFor {α : Type} (requests : Nat) (refusal : Error) (w : Builder.Work α) (d : FlowDesk) :
    Except Error α × FlowDesk :=
  let (result, d', _) := Attempt.eval (limited refusal answer) w (d, requests)
  (result, d')

theorem runFor_of_along {α : Type} {Inv : FlowDesk → Prop} {Q : α → FlowDesk → Prop}
    {w : Builder.Work α} {d : FlowDesk} (h : Along Inv Q w d) (requests : Nat) (refusal : Error) :
    Inv (runFor requests refusal w d).2 :=
  eval_limited_of_along (fun _ _ => rfl) h requests

end FlowDesk

/-- The alias that a request binds as the entry point. -/
def Remote.Op.entryPoint? : Remote.Op → Option String
  | .bindBrowserFlow aliasName => some aliasName
  | _ => none

/-! ## Keeping to a realm -/

namespace Builder

variable {α β : Type} {realm : String}

/-- A call concerns a realm, or is a note. -/
def Concerns (realm : String) : FlowSite.Call → Prop
  | .inl c => c.realm = realm
  | .inr _ => True

/-- Every request of a construction concerns a realm. -/
def Within (realm : String) (w : Work α) : Prop := Program.Makes (Concerns realm) w.run

theorem within_pure (a : α) : Within realm (pure a : Work α) := trivial

theorem within_ofExcept (r : Except Error α) : Within realm (Attempt.ofExcept r) := trivial

theorem within_throw (e : Error) : Within realm (throw e : Work α) := trivial

theorem within_ask (op : Remote.Op) : Within realm (ask realm op) :=
  Program.makes_call rfl

theorem within_bind {w : Work α} {f : α → Work β} (hw : Within realm w)
    (hf : ∀ a, Within realm (f a)) : Within realm (w >>= f) :=
  Attempt.makes_bind hw hf

theorem makes_note (n : Note) : (note (I := FlowSite) n).Makes (Concerns realm) :=
  Program.makes_call trivial

theorem within_logged (level : LogLevel) (message : String) (fields : List (String × Json)) :
    Within realm (logged level message fields) :=
  Program.makes_bind (makes_note _) fun _ => trivial

theorem within_observe {step : StepKind} {w : Work α} (hw : Within realm w) :
    Within realm (observe step realm w) :=
  Attempt.makes_observe makes_note hw

/-! ## Constructions that do not bind -/

/-- A request about a realm that binds nothing. -/
inductive Inquiry (realm : String) : (β : Type) → Work β → Prop
  | ask (op : Remote.Op) (h : op.entryPoint? = none) : Inquiry realm op.Result (ask realm op)

/-- A construction does nothing but make requests about a realm, up to the first that fails, and binds
nothing. -/
abbrev Asks (realm : String) (w : Work α) : Prop := w.Composed (Inquiry realm)

theorem Asks.within {w : Work α} (h : Asks realm w) : Within realm w := by
  refine h.makes makes_note fun β w step => ?_
  cases step with
  | ask op _ => exact within_ask op

theorem asks_ask {op : Remote.Op} (h : op.entryPoint? = none) : Asks realm (ask realm op) :=
  .step (.ask op h)

theorem asks_createFlow (aliasName description : String) (kind : FlowKind) :
    Asks realm (createFlow realm aliasName description kind) :=
  .observe _ _ <| .bind (asks_ask rfl) fun _ => .bind (.log _ _ _) fun _ => Attempt.composed_pure _

theorem asks_copyFlow (source dest : String) : Asks realm (copyFlow realm source dest) :=
  .observe _ _ <| .bind (asks_ask rfl) fun _ => .bind (.log _ _ _) fun _ => Attempt.composed_pure _

theorem asks_addLeaf (parent provider : String) : Asks realm (addLeaf realm parent provider) :=
  .observe _ _ <| .bind (asks_ask rfl) fun _ => .bind (asks_ask rfl) fun _ =>
    .bind (.ofExcept _) fun _ => Attempt.composed_pure _

theorem asks_addSubflow (parent aliasName : String) (kind : FlowKind) :
    Asks realm (addSubflow realm parent aliasName kind) :=
  .observe _ _ <| .bind (asks_ask rfl) fun _ => .bind (asks_ask rfl) fun _ =>
    .bind (.ofExcept _) fun _ => Attempt.composed_pure _

theorem asks_setRequirement (parent : String) (id : NodeId) (requirement : Requirement) :
    Asks realm (setRequirement realm parent id requirement) := by
  refine .observe _ _ (.bind (.bind (asks_ask rfl) fun rows => ?_) fun row => ?_)
  · split
    · exact Attempt.composed_pure _
    · exact Attempt.composed_throw _
  · split
    · exact Attempt.composed_pure ()
    · exact asks_ask rfl

theorem asks_attachConfig (id : NodeId) (aliasName : String) (settings : KeyMap String) :
    Asks realm (attachConfig realm id aliasName settings) :=
  .observe _ _ (asks_ask rfl)

theorem asks_addNode (parent : String) (n : Node) : Asks realm (addNode realm parent n) := by
  cases n with
  | leaf provider requirement config =>
    refine .bind (asks_addLeaf _ _) fun id => .bind (.ofExcept _) fun state =>
      .bind (asks_setRequirement _ _ _) fun _ => ?_
    cases config with
    | none => exact Attempt.composed_pure _
    | some spec =>
      exact .bind (asks_attachConfig _ _ _) fun _ => .bind (.ofExcept _) fun _ =>
        Attempt.composed_pure _
  | subflow aliasName kind requirement nodes =>
    exact .bind (asks_addSubflow _ _ _) fun _ => .bind (.ofExcept _) fun _ =>
      .bind (asks_setRequirement _ _ _) fun _ => Attempt.composed_pure _

theorem asks_deleteFlow (aliasName : String) : Asks realm (deleteFlow realm aliasName) := by
  refine .observe _ _ (.bind (asks_ask rfl) fun flows => ?_)
  split
  · exact .bind (.log _ _ _) fun _ => Attempt.composed_pure _
  · exact .bind (asks_ask rfl) fun _ => Attempt.composed_pure _

theorem asks_findChild (parent description : String) (accept : Execution → Bool) :
    Asks realm (findChild realm parent description accept) :=
  .bind (asks_ask rfl) fun _ => .ofExcept _

theorem settled_extendPending_nil (report : BuildReport) :
    settled (extendPending realm report []) = pure report := by
  rw [extendPending]
  rfl

/-- Adding pending nodes is to add the first and then the others, those below it in front. -/
theorem settled_extendPending_cons (report : BuildReport) (parent : String) (node : Node)
    (rest : List (String × Node)) :
    settled (extendPending realm report ((parent, node) :: rest)) =
      addNode realm parent node >>= fun built =>
        settled (extendPending realm (report.add built) (childrenOf node ++ rest)) := by
  rw [extendPending]
  refine ExceptT.ext ?_
  simp only [settled, Attempt.ofProgram, ExceptT.run_mk, ExceptT.run_bind, bind_assoc]
  refine bind_congr fun result => ?_
  cases result with
  | error e => rfl
  | ok built => rfl

theorem asks_extendPending (report : BuildReport) (pending : List (String × Node)) :
    Asks realm (settled (extendPending realm report pending)) := by
  induction report, pending using extendPending.induct with
  | case1 report =>
    rw [settled_extendPending_nil]
    exact Attempt.composed_pure report
  | case2 report parent node rest ih =>
    rw [settled_extendPending_cons]
    exact .bind (asks_addNode parent node) ih

theorem asks_build (tree : FlowTree) : Asks realm (build realm tree) :=
  .bind (asks_createFlow _ _ _) fun _ => asks_extendPending _ _

theorem asks_construct (plan : FlowPlan) : Asks realm (plan.construct realm) := by
  cases plan with
  | fresh tree => exact asks_build tree
  | copyAndInject source aliasName marker nodes =>
    exact .bind (asks_copyFlow _ _) fun _ => .bind (asks_findChild _ _ _) fun _ =>
      asks_extendPending _ _

/-! ## Constructions within a realm -/

theorem within_build (tree : FlowTree) : Within realm (build realm tree) :=
  (asks_build tree).within

theorem within_bindAsEntryPoint (aliasName : String) :
    Within realm (bindAsEntryPoint realm aliasName) :=
  within_observe <| within_bind (within_ask _) fun _ => within_logged _ _ _

theorem within_bindReport (report : BuildReport) : Within realm (Builder.bind realm report) :=
  within_bind (within_ofExcept _) fun _ => within_bind (within_bindAsEntryPoint _) fun _ =>
    within_pure _

theorem within_listChildren (parent : String) : Within realm (listChildren realm parent) :=
  within_ask _

theorem within_leafConfig (parent provider : String) :
    Within realm (leafConfig realm parent provider) := by
  refine within_bind (within_ask _) fun rows => within_bind (within_ofExcept _) fun row => ?_
  split
  · exact within_throw _
  · exact within_ask _

end Builder

/-- Making and binding the entry point of a scenario concerns its realm alone. -/
theorem Scenario.within_applyFlow (scenario : Scenario) (realm : String) :
    Builder.Within realm (scenario.applyFlow realm) :=
  Builder.within_bind (Builder.asks_deleteFlow _).within fun _ =>
    Builder.within_bind (Builder.asks_construct _).within fun _ => Builder.within_bindReport _

namespace MemoryServer

variable {α : Type} {realm : String}

theorem desk_answerSite {c : FlowSite.Call} (h : Builder.Concerns realm c) (s : MemoryServer) :
    ((answerSite c).run s).1 = ((FlowDesk.answer c).run (s.desk realm)).1 ∧
      ((answerSite c).run s).2.desk realm = ((FlowDesk.answer c).run (s.desk realm)).2 := by
  cases c with
  | inl c =>
    subst h
    refine ⟨rfl, ?_⟩
    exact (desk_serve s c c.realm).trans (if_pos rfl)
  | inr note => exact ⟨rfl, rfl⟩

/-- A construction ends at a server as at the desk of its realm. -/
theorem run_eq {w : Builder.Work α} (h : Builder.Within realm w) (s : MemoryServer) :
    (s.run w).1 = ((s.desk realm).run w).1 ∧ (s.run w).2.desk realm = ((s.desk realm).run w).2 :=
  Program.eval_of_makes answerSite FlowDesk.answer (fun s => s.desk realm)
    (fun _ hc s => desk_answerSite hc s) h s

theorem get?_serve_of_ne (s : MemoryServer) (c : Remote.Call) {other : String}
    (differs : other ≠ c.realm) : (s.serve c).2.realms.get? other = s.realms.get? other := by
  rw [serve, KeyMap.get?_insert, if_neg (Ne.symm differs)]

/-- A construction leaves all realms but its own. -/
theorem get?_run_of_ne {w : Builder.Work α} (h : Builder.Within realm w) (s : MemoryServer)
    {other : String} (differs : other ≠ realm) :
    (s.run w).2.realms.get? other = s.realms.get? other := by
  have keeps : ∀ c, Builder.Concerns realm c → ∀ t : MemoryServer,
      t.realms.get? other = s.realms.get? other →
        ((answerSite c).run t).2.realms.get? other = s.realms.get? other := by
    rintro (c | note) concerns t kept
    · exact (t.get?_serve_of_ne c (concerns.symm ▸ differs)).trans kept
    · exact kept
  exact Program.eval_keeps_of_makes answerSite keeps h rfl

/-- The ending of a construction that is refused everything after some requests, and the server it
leaves. -/
def runFor (requests : Nat) (refusal : Error) (w : Builder.Work α) (s : MemoryServer) :
    Except Error α × MemoryServer :=
  let (result, s', _) := Attempt.eval (limited refusal answerSite) w (s, requests)
  (result, s')

/-- A construction that is broken off leaves a server as it leaves the desk of its realm. -/
theorem runFor_eq {w : Builder.Work α} (h : Builder.Within realm w) (requests : Nat)
    (refusal : Error) (s : MemoryServer) :
    (s.runFor requests refusal w).1 = ((s.desk realm).runFor requests refusal w).1 ∧
      (s.runFor requests refusal w).2.desk realm =
        ((s.desk realm).runFor requests refusal w).2 := by
  have agree : ∀ c, Builder.Concerns realm c → ∀ s : MemoryServer × Nat,
      ((limited refusal answerSite c).run s).1 =
          ((limited refusal FlowDesk.answer c).run (s.1.desk realm, s.2)).1 ∧
        (((limited refusal answerSite c).run s).2.1.desk realm,
            ((limited refusal answerSite c).run s).2.2) =
          ((limited refusal FlowDesk.answer c).run (s.1.desk realm, s.2)).2 := by
    rintro c hc ⟨s, n⟩
    have here := desk_answerSite hc s
    cases c with
    | inl c =>
      cases n with
      | zero => exact ⟨rfl, rfl⟩
      | succ n => exact ⟨here.1, Prod.ext here.2 rfl⟩
    | inr note => exact ⟨here.1, Prod.ext here.2 rfl⟩
  have same := Program.eval_of_makes (limited refusal answerSite) (limited refusal FlowDesk.answer)
    (fun s => (s.1.desk realm, s.2)) agree h (s, requests)
  exact ⟨same.1, congrArg Prod.fst same.2⟩

theorem Reached.run {s : MemoryServer} (h : s.Reached) (w : Builder.Work α) :
    (s.run w).2.Reached := by
  refine Program.eval_keeps answerSite (fun c s hs => ?_) w.run h
  cases c with
  | inl c => exact hs.serve c
  | inr note => exact hs

theorem Reached.runFor {s : MemoryServer} (h : s.Reached) (requests : Nat) (refusal : Error)
    (w : Builder.Work α) : (s.runFor requests refusal w).2.Reached := by
  have kept : ∀ c (s : MemoryServer × Nat), s.1.Reached →
      ((limited refusal answerSite c).run s).2.1.Reached := by
    rintro c ⟨s, n⟩ hs
    cases c with
    | inl c =>
      cases n with
      | zero => exact hs
      | succ n => exact hs.serve c
    | inr note => exact hs
  exact Program.eval_keeps (limited refusal answerSite) kept w.run (s := (s, requests)) h

end MemoryServer

end RealmSetup
