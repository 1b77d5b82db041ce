import RealmSetup.Proofs.Flow.Server
import RealmSetup.Proofs.Flow.Shapes
import RealmSetup.Proofs.Flow.WholeFlows

/-!
# The entry point of a realm

The entry point is kept by its alias.  A request that binds one asks whether there is such a flow, but
one for a deletion does not look at what is bound: a realm whose entry point is deleted goes on to
report it (`MemoryServer.after_deletion_entry_missing`).

That is the only way in which a reported entry point comes to name no flow: through any requests, those
of constructions included, all entry points name flows exactly as long as no deletion takes one away
(`MemoryServer.entries_found_iff_spared`).  A scenario that is applied up to its end makes good whatever
was deleted before (`MemoryServer.run_applyFlow_entryFound`).
-/

namespace RealmSetup

namespace RealmFlows

variable {r r' : RealmFlows} {a : String}

/-- The entry point of a realm is absent or the alias of one of its flows. -/
def EntryFound (r : RealmFlows) : Prop := ∀ a ∈ r.entryPoint, r.hasFlow a = true

instance (r : RealmFlows) : Decidable r.EntryFound :=
  inferInstanceAs (Decidable (∀ a ∈ r.entryPoint, r.hasFlow a = true))

theorem EntryFound.of_kept (h : r.EntryFound) (same : r'.entryPoint = r.entryPoint)
    (flows : ∀ a, r.hasFlow a = true → r'.hasFlow a = true) : r'.EntryFound :=
  fun a ha => flows a (h a (same ▸ ha))

/-- A realm that is extended keeps its flows. -/
theorem Extends.hasFlow (h : r.Extends r') (there : r.hasFlow a = true) : r'.hasFlow a = true := by
  cases h with
  | kept same => rwa [hasFlow_of_shape same]
  | flow free top empty => rw [hasFlow_addFlow, there, Bool.true_or]
  | subflow parent free nested empty called =>
    rw [hasFlow_addExecution, hasFlow_addFlow, there, Bool.true_or]

theorem hasFlow_removeFlows_iff {aliases : List String} :
    (r.removeFlows aliases).hasFlow a = true ↔ r.hasFlow a = true ∧ a ∉ aliases := by
  rw [hasFlow_iff, hasFlow_iff, flow?_removeFlows]
  split
  · next gone => simp [gone]
  · next kept => simp [kept]

end RealmFlows

namespace FlowDesk

variable {d : FlowDesk}

/-! ## Requests -/

theorem entryPoint_settle {result : Except Error FlowDesk}
    (done : ∀ d', result = .ok d' → d'.realm.entryPoint = d.realm.entryPoint) :
    (d.settle result).2.realm.entryPoint = d.realm.entryPoint := by
  cases result with
  | ok d' => exact done d' rfl
  | error e => rfl

theorem entryPoint_atExecution {id : NodeId} {change : RealmFlows → RealmFlows}
    (kept : (change d.realm).entryPoint = d.realm.entryPoint) :
    (d.settle (d.atExecution id change)).2.realm.entryPoint = d.realm.entryPoint := by
  refine entryPoint_settle fun d' done => ?_
  unfold FlowDesk.atExecution at done
  split at done <;> cases done
  exact kept

/-- Only a request that binds a flow changes the entry point. -/
theorem entryPoint_serve (d : FlowDesk) {op : Remote.Op} (binds : op.entryPoint? = none) :
    (d.serve op).2.realm.entryPoint = d.realm.entryPoint := by
  cases op with
  | createFlow a description kind =>
    simp only [serve, createFlow]
    split <;> rfl
  | copyFlow source dest =>
    rw [serve_copyFlow]
    split <;> rfl
  | deleteFlow flowId =>
    refine entryPoint_settle fun d' done => ?_
    unfold FlowDesk.deleteFlow at done
    split at done <;> cases done
    rfl
  | addExecution parent provider =>
    simp only [serve, addExecution]
    split <;> rfl
  | addSubflow parent a kind =>
    refine entryPoint_settle fun d' done => ?_
    unfold FlowDesk.addSubflow at done
    split at done
    · cases done
    split at done <;> cases done
    rfl
  | updateExecution parent row => exact entryPoint_atExecution rfl
  | raisePriority id => exact entryPoint_atExecution rfl
  | lowerPriority id => exact entryPoint_atExecution rfl
  | createConfig id config =>
    refine entryPoint_settle fun d' done => ?_
    unfold FlowDesk.createConfig at done
    split at done <;> cases done
    rfl
  | bindBrowserFlow a => cases binds
  | _ => rfl

/-- Only a deletion takes flows away. -/
theorem hasFlow_serve {op : Remote.Op} (deletes : ∀ flowId, op ≠ .deleteFlow flowId) {a : String}
    (there : d.realm.hasFlow a = true) : (d.serve op).2.realm.hasFlow a = true := by
  refine @serve_keeps_of_ne_deleteFlow d (fun r => r.hasFlow a = true) there op deletes
    (fun r extension => extension.hasFlow there) fun source dest _ _ => ?_
  rw [RealmFlows.hasFlow_iff_mem] at there ⊢
  exact List.map_subset _ (List.subset_append_left _ _) there

/-- A request does not delete the flow that is the entry point. -/
def SparesEntry (d : FlowDesk) : Remote.Op → Prop
  | .deleteFlow flowId => ∀ f ∈ d.realm.flows.find? fun f => f.id = flowId,
      ∀ a ∈ d.realm.entryPoint, a ∉ d.realm.aliasesBelow f.aliasName
  | _ => True

/-- A deletion leaves the entry point as it was, so that the flow is to be left as well. -/
theorem entryFound_deleteFlow_iff (h : d.realm.EntryFound) (flowId : String) :
    (d.serve (.deleteFlow flowId)).2.realm.EntryFound ↔ d.SparesEntry (.deleteFlow flowId) := by
  simp only [serve, deleteFlow, SparesEntry]
  cases found : d.realm.flows.find? fun f => f.id = flowId with
  | none =>
    refine ⟨fun _ f hf => ?_, fun _ => h⟩
    cases hf
  | some f =>
    constructor
    · rintro kept g ⟨⟩ a bound below
      exact (RealmFlows.hasFlow_removeFlows_iff.1 (kept a bound)).2 below
    · intro spares a bound
      exact RealmFlows.hasFlow_removeFlows_iff.2 ⟨h a bound, spares f rfl a bound⟩

/-- What is bound as the entry point is a flow. -/
theorem entryFound_bindBrowserFlow (h : d.realm.EntryFound) (a : String) :
    (d.serve (.bindBrowserFlow a)).2.realm.EntryFound := by
  simp only [serve, bindBrowserFlow]
  by_cases there : d.realm.hasFlow a = true
  · rw [if_pos there]
    rintro b ⟨⟩
    exact there
  · rw [if_neg there]
    exact h

/-- A request leaves an entry point that is found exactly if it does not delete that flow. -/
theorem entryFound_serve_iff (op : Remote.Op) (h : d.realm.EntryFound) :
    (d.serve op).2.realm.EntryFound ↔ d.SparesEntry op := by
  cases op with
  | deleteFlow flowId => exact entryFound_deleteFlow_iff h flowId
  | bindBrowserFlow a => exact ⟨fun _ => trivial, fun _ => entryFound_bindBrowserFlow h a⟩
  | _ =>
    refine ⟨fun _ => trivial, fun _ => h.of_kept (d.entryPoint_serve rfl) fun a there => ?_⟩
    refine hasFlow_serve (fun flowId same => ?_) there
    cases same

/-- What a construction ends by binding is a flow. -/
theorem entryFound_of_bind {realm : String} {report bound : BuildReport} {d' : FlowDesk}
    (ends : run (Builder.bind realm report) d = (.ok bound, d')) : d'.realm.EntryFound := by
  obtain ⟨next, d₁, -, ends⟩ := exists_of_run_bind ends
  obtain ⟨⟨⟩, d₂, binds, ends⟩ := exists_of_run_bind ends
  rw [run_pure] at ends
  cases ends
  by_cases there : d₁.realm.hasFlow report.flowAlias = true
  · rw [d₁.run_bindAsEntryPoint realm there] at binds
    cases binds
    rintro a ⟨⟩
    exact there
  · rw [d₁.run_bindAsEntryPoint_error realm there] at binds
    cases binds

end FlowDesk

namespace MemoryServer

variable {α : Type}

/-! ## Servers -/

/-- The requests that a construction makes of a server, in order. -/
def requestsOf : Program FlowSite α → MemoryServer → List Remote.Call
  | .done _, _ => []
  | .ask (.inl c) next, s => c :: requestsOf (next (s.serve c).1) (s.serve c).2
  | .ask (.inr _) next, s => requestsOf (next ()) s

/-- A construction, also one that fails, leaves the server that its requests leave. -/
theorem after_requestsOf (w : Builder.Work α) (s : MemoryServer) :
    s.after (requestsOf w.run s) = (s.run w).2 := by
  have by_program : ∀ (p : Program FlowSite (Except Error α)) (s : MemoryServer),
      s.after (requestsOf p s) = (p.eval answerSite s).2 := by
    intro p
    induction p with
    | done r => exact fun s => rfl
    | ask c next ih =>
      intro s
      cases c with
      | inl c => exact ih _ _
      | inr note => exact ih () s
  exact by_program w.run s

theorem entryFound_fresh (stock : Bool) (issued : Nat) :
    (FlowDesk.fresh stock issued).realm.EntryFound := by
  cases stock with
  | false => exact fun a bound => nomatch bound
  | true =>
    rintro a ⟨⟩
    rfl

/-- Through any requests the entry points of all realms name flows exactly as long as no deletion takes
one of these away. -/
theorem entries_found_iff_spared (stock : Bool) (calls : List Remote.Call) :
    (∀ earlier, earlier <+: calls →
        ∀ realm, (((start stock).after earlier).desk realm).realm.EntryFound) ↔
      Throughout FlowDesk.SparesEntry (start stock) calls :=
  along_iff_throughout entryFound_fresh FlowDesk.entryFound_serve_iff (s := start stock)
    (fun _ => entryFound_fresh stock 0) calls

/-- A construction, however it ends, leaves all entry points found if no deletion of it takes one away. -/
theorem run_entries_found {s : MemoryServer} (h : ∀ realm, (s.desk realm).realm.EntryFound)
    {w : Builder.Work α} (spares : Throughout FlowDesk.SparesEntry s (requestsOf w.run s))
    (realm : String) : ((s.run w).2.desk realm).realm.EntryFound := by
  rw [← after_requestsOf]
  exact (along_iff_throughout entryFound_fresh FlowDesk.entryFound_serve_iff h _).2 spares _
    List.prefix_rfl realm

/-- When a scenario was applied up to its end, the entry point of its realm is a flow, whatever it was
before. -/
theorem run_applyFlow_entryFound {s : MemoryServer} {scenario : Scenario} {realm : String}
    {report : BuildReport} (ends : (s.run (scenario.applyFlow realm)).1 = .ok report) :
    ((s.run (scenario.applyFlow realm)).2.desk realm).realm.EntryFound := by
  obtain ⟨ending, desk⟩ := run_eq (scenario.within_applyFlow realm) s
  rw [desk]
  rw [ending] at ends
  obtain ⟨deleted, d, -, ends⟩ := FlowDesk.exists_of_run_bind (Prod.ext ends rfl)
  obtain ⟨made, d, -, ends⟩ := FlowDesk.exists_of_run_bind ends
  exact FlowDesk.entryFound_of_bind ends

/-- A realm whose stock flow is deleted goes on to report it as its entry point. -/
theorem after_deletion_entry_missing :
    ¬∀ s : MemoryServer, s.Reached → ∀ realm, (s.desk realm).realm.EntryFound := by
  intro found
  let calls : List Remote.Call := [⟨"demo", .deleteFlow "flow-7"⟩]
  exact absurd (found _ ((Reached.start true).after calls) "demo") (by decide +kernel)

end MemoryServer

end RealmSetup
