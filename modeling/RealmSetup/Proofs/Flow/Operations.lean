import RealmSetup.Proofs.Flow.Upkeep

/-!
# What builders make of a server

`Builder.Operation` is what a builder can do to a realm, and `MemoryServer.Built` a server that any such
operations, also those that failed, have led to, as long as each flow was copied under unused aliases.
Every desk that an operation passes through is a forest (`FlowDesk.along_work_forest`), so all realms of
such a server are, and a flow can be deleted without a change to what is not below it
(`MemoryServer.Built.forest_deleteFlow`).
-/

namespace RealmSetup

open Builder

namespace Builder

/-- What a builder does to a realm. -/
inductive Operation where
  | createFlow (aliasName description : String) (kind : FlowKind)
  | copyFlow (source dest : String)
  | addLeaf (parent provider : String)
  | addSubflow (parent aliasName : String) (kind : FlowKind)
  | setRequirement (parent : String) (id : NodeId) (requirement : Requirement)
  | attachConfig (id : NodeId) (aliasName : String) (settings : KeyMap String)
  | raisePriority (id : NodeId)
  | lowerPriority (id : NodeId)
  | deleteFlow (aliasName : String)
  | bindAsEntryPoint (aliasName : String)
  | build (tree : FlowTree)
  /-- Add nodes to a flow and go on with a report. -/
  | extend (report : BuildReport) (parent : String) (nodes : List Node)

namespace Operation

/-- What an operation yields. -/
abbrev Result : Operation → Type
  | createFlow _ _ _ | copyFlow _ _ => Creation
  | addLeaf _ _ | addSubflow _ _ _ => NodeId
  | deleteFlow _ => Bool
  | build _ | extend _ _ _ => BuildReport
  | _ => Unit

/-- An operation on a realm. -/
def work (realm : String) : (op : Operation) → Work op.Result
  | createFlow aliasName description kind => Builder.createFlow realm aliasName description kind
  | copyFlow source dest => Builder.copyFlow realm source dest
  | addLeaf parent provider => Builder.addLeaf realm parent provider
  | addSubflow parent aliasName kind => Builder.addSubflow realm parent aliasName kind
  | setRequirement parent id requirement => Builder.setRequirement realm parent id requirement
  | attachConfig id aliasName settings => Builder.attachConfig realm id aliasName settings
  | raisePriority id => Builder.raisePriority realm id
  | lowerPriority id => Builder.lowerPriority realm id
  | deleteFlow aliasName => Builder.deleteFlow realm aliasName
  | bindAsEntryPoint aliasName => Builder.bindAsEntryPoint realm aliasName
  | build tree => Builder.build realm tree
  | extend report parent nodes => settled (Builder.extend realm report parent nodes)

theorem within_work (realm : String) (op : Operation) : Within realm (op.work realm) := by
  cases op with
  | createFlow aliasName description kind => exact (asks_createFlow _ _ _).within
  | copyFlow source dest => exact (asks_copyFlow _ _).within
  | addLeaf parent provider => exact (asks_addLeaf _ _).within
  | addSubflow parent aliasName kind => exact (asks_addSubflow _ _ _).within
  | setRequirement parent id requirement => exact (asks_setRequirement _ _ _).within
  | attachConfig id aliasName settings => exact (asks_attachConfig _ _ _).within
  | raisePriority id => exact within_ask _
  | lowerPriority id => exact within_ask _
  | deleteFlow aliasName => exact (asks_deleteFlow _).within
  | bindAsEntryPoint aliasName => exact within_bindAsEntryPoint _
  | build tree => exact within_build _
  | extend report parent nodes => exact (asks_extendPending _ _).within

/-- An operation does not copy anything under an alias that is taken. -/
def DerivesUnused (d : FlowDesk) : Operation → Prop
  | copyFlow source dest => d.DerivesUnused (.copyFlow source dest)
  | _ => True

end Operation

end Builder

namespace FlowDesk

variable {d d' : FlowDesk}

/-- What an extension adds is part of the forest. -/
theorem Grows.forest {own : String → Prop} (h : d.Grows own d') (forest : d.realm.Forest) :
    d'.realm.Forest := by
  induction h with
  | refl => exact forest
  | spend _ ih => exact ih
  | @leaf d' _ q _ _ provider ih => exact ih.extends (d'.extends_withLeaf q provider)
  | subflow _ _ there _ free kind ih => exact ih.extends (extends_withSubflow there free kind)
  | @requirement d' _ id _ requirement ih => exact ih.extends (d'.extends_withRequirement id requirement)
  | @config d' _ id _ config ih => exact ih.extends (d'.extends_withConfig id config)

theorem Forest.without (h : d.realm.Forest) (a : String) : (d.without a).realm.Forest := by
  unfold FlowDesk.without
  split
  · next listed =>
    obtain ⟨t, ht, top, rfl⟩ := isListed_iff.1 listed
    exact h.removed ht top
  · exact h

/-- A request keeps a forest, if it is not for a deletion and copies nothing under an alias that is
taken. -/
theorem forest_serve (h : d.realm.Forest) {op : Remote.Op} (unused : d.DerivesUnused op)
    (deletes : ∀ flowId, op ≠ .deleteFlow flowId) : (d.serve op).2.realm.Forest := by
  refine serve_keeps_of_ne_deleteFlow h deletes (fun _ => h.extends) fun source dest same makes => ?_
  subst same
  exact forest_copied h makes (unused makes)

/-- The flows of every desk that an operation passes through are a forest. -/
theorem along_work_forest (h : d.Numbered) (forest : d.realm.Forest) (realm : String)
    (op : Operation) (unused : op.DerivesUnused d) :
    Along (fun e => e.realm.Forest) (fun _ _ => True) (op.work realm) d := by
  have served : ∀ op : Remote.Op, d.DerivesUnused op → (∀ flowId, op ≠ .deleteFlow flowId) →
      (d.serve op).2.realm.Forest := fun op => forest_serve forest
  have grown : ∀ {α : Type} {Q : α → FlowDesk → Prop} {w : Work α} {d : FlowDesk},
      d.realm.Forest → Along (d.Grows fun _ => True) Q w d →
        Along (fun e => e.realm.Forest) (fun _ _ => True) w d := fun forest course =>
    course.mono (fun _ grows => grows.forest forest) fun _ _ _ _ => trivial
  cases op with
  | createFlow a description kind =>
    have created := served (.createFlow a description kind) trivial (by simp)
    exact (along_createFlow realm a description kind forest created).mono (fun _ h => h)
      fun _ _ _ _ => trivial
  | copyFlow source dest =>
    have copied := served (.copyFlow source dest) unused (by simp)
    refine (along_copyFlow realm source dest forest fun creation d' made => ?_).mono (fun _ h => h)
      fun _ _ _ _ => trivial
    rwa [serve, made] at copied
  | addLeaf parent provider =>
    exact grown forest (along_creation (n := .leaf provider .required none) realm .refl trivial
      fun _ _ _ => trivial)
  | addSubflow parent a kind =>
    exact grown forest (along_creation (n := .subflow a kind .required []) realm .refl trivial
      fun _ _ _ => trivial)
  | setRequirement parent id requirement =>
    exact grown forest (along_setRequirement realm .refl (fun _ _ _ _ _ => trivial) requirement)
  | attachConfig id a settings =>
    exact grown forest (along_attachConfig realm .refl (fun _ _ _ _ _ => trivial) a settings)
  | raisePriority id =>
    have raised := served (.raisePriority id) trivial (by simp)
    exact ⟨forest, raised, fun _ _ => trivial⟩
  | lowerPriority id =>
    have lowered := served (.lowerPriority id) trivial (by simp)
    exact ⟨forest, lowered, fun _ _ => trivial⟩
  | deleteFlow a =>
    exact (along_deleteFlow h realm forest (Forest.without forest a)).mono (fun _ h => h)
      fun _ _ _ _ => trivial
  | bindAsEntryPoint a =>
    exact along_bindAsEntryPoint realm a forest (served (.bindBrowserFlow a) trivial (by simp))
  | build tree =>
    have created := served (.createFlow tree.aliasName tree.description tree.kind) trivial (by simp)
    refine Attempt.along_bind ((along_createFlow realm _ _ _ forest created).mono (fun _ h => h) ?_)
    rintro _ d' here rfl
    exact grown here (along_extend realm (h.createFlow _ _ _) trivial _ (fun _ _ _ => trivial) _)
  | extend report parent nodes =>
    exact grown forest (along_extend realm h trivial nodes (fun _ _ _ => trivial) report)

end FlowDesk

namespace MemoryServer

variable {s : MemoryServer}

/-- A server that operations of builders have led to, in which flows were copied under unused aliases
only. -/
inductive Built : MemoryServer → Prop
  /-- One that was not asked anything yet, with or without the stock flows. -/
  | start (stock : Bool) : Built (.start stock)
  /-- One on which a builder did, or failed to do, one thing more. -/
  | run {s : MemoryServer} (built : Built s) (realm : String) (op : Operation)
      (unused : op.DerivesUnused (s.desk realm)) : Built (s.run (op.work realm)).2

theorem Built.reached (h : s.Built) : s.Reached := by
  induction h with
  | start stock => exact .start stock
  | run _ realm op _ ih => exact ih.run (op.work realm)

theorem Built.forest (h : s.Built) (realm : String) : (s.desk realm).realm.Forest := by
  induction h generalizing realm with
  | start stock => exact RealmFlows.forest_fresh stock 0
  | @run s built here op unused ih =>
    by_cases same : realm = here
    · subst same
      have course := FlowDesk.along_work_forest (built.reached.numbered realm) (ih realm) realm op unused
      rw [(run_eq (op.within_work realm) s).2]
      exact (Program.Along.ending course).1
    · have kept : ∀ c, Concerns here c → ∀ s : MemoryServer, (s.desk realm).realm.Forest →
          (((answerSite c).run s).2.desk realm).realm.Forest := by
        intro c concerns s forest
        cases c with
        | inl c => exact desk_serve_of_ne RealmFlows.forest_fresh (concerns ▸ same) forest
        | inr note => exact forest
      exact Program.eval_keeps_of_makes answerSite kept (op.within_work here) (ih realm)

/-- The flows of every realm are a forest, in which every flow is come to from exactly one that is
listed; and when a flow that is listed is deleted, the flows come to from it are gone and no others, and
no listing of a flow that is left changes. -/
theorem Built.forest_deleteFlow (h : s.Built) (realm : String) :
    let r := (s.desk realm).realm
    r.Forest ∧
      (∀ f ∈ r.flows, ∃! t, t ∈ r.flows ∧ t.topLevel = true ∧ r.Reaches t.aliasName f.aliasName) ∧
      ∀ a, r.isListed a = true →
        (s.run (deleteFlow realm a)).1 = .ok true ∧
        (∀ f, f ∈ ((s.run (deleteFlow realm a)).2.desk realm).realm.flows ↔
          f ∈ r.flows ∧ ¬r.Reaches a f.aliasName) ∧
        ∀ g, ¬r.Reaches a g →
          ((s.run (deleteFlow realm a)).2.run (listChildren realm g)).1 =
            (s.run (listChildren realm g)).1 := by
  intro r
  have forest : r.Forest := h.forest realm
  refine ⟨forest, fun f hf => forest.existsUnique_root hf, fun a listed => ?_⟩
  have within : Within realm (deleteFlow realm a) := (asks_deleteFlow a).within
  have ran := run_eq within s
  rw [FlowDesk.run_deleteFlow_of_numbered (h.reached.numbered realm)] at ran
  have cleared : (s.desk realm).without a = (s.desk realm).cleared a := if_pos listed
  obtain ⟨t, ht, top, rfl⟩ := FlowDesk.isListed_iff.1 listed
  have after : ((s.run (deleteFlow realm t.aliasName)).2.desk realm).realm =
      r.removeFlows (r.aliasesBelow t.aliasName) := by
    rw [ran.2, cleared]
    rfl
  refine ⟨by rw [ran.1, listed], fun f => ?_, fun g apart => ?_⟩
  · rw [after]
    exact forest.mem_removed
  · have listing : ∀ s : MemoryServer, (s.run (listChildren realm g)).1 =
        (s.desk realm).listExecutions g := fun s => (run_eq (within_listChildren g) s).1
    have there : (r.removeFlows (r.aliasesBelow t.aliasName)).hasFlow g = r.hasFlow g := by
      rw [RealmFlows.hasFlow, forest.flow?_removed apart, RealmFlows.hasFlow]
    rw [listing, listing, FlowDesk.listExecutions, FlowDesk.listExecutions, after, there,
      forest.listing_removed ht top apart]

/-- A server on which the stock entry point was copied and a subflow added to the copy of its forms. -/
def copiedForms : MemoryServer :=
  (((start true).run ((Operation.copyFlow "browser" "mine").work "acme")).2.run
    ((Operation.addSubflow "mine forms" "extra" .basic).work "acme")).2

/-- There the copy is deleted with all below it, and the stock entry point stays as it is. -/
theorem forest_deleteFlow_of_copiedForms :
    copiedForms.Built ∧ (copiedForms.desk "acme").realm.Forest ∧
      (copiedForms.run (deleteFlow "acme" "mine")).1 = .ok true ∧
      ((copiedForms.run (deleteFlow "acme" "mine")).2.run (listChildren "acme" "browser")).1 =
        (copiedForms.run (listChildren "acme" "browser")).1 := by
  have unused : ((start true).desk "acme").DerivesUnused (.copyFlow "browser" "mine") := by
    show _ → ∀ a ∈ _, ¬_
    decide +kernel
  have built : copiedForms.Built :=
    .run (.run (.start true) "acme" (.copyFlow "browser" "mine") unused) "acme"
      (.addSubflow "mine forms" "extra" .basic) trivial
  obtain ⟨forest, -, deleting⟩ := built.forest_deleteFlow "acme"
  have listed : (copiedForms.desk "acme").realm.isListed "mine" = true := by decide +kernel
  have apart : "browser" ∉ (copiedForms.desk "acme").realm.aliasesBelow "mine" := by decide +kernel
  obtain ⟨deleted, -, kept⟩ := deleting "mine" listed
  exact ⟨built, forest, deleted,
    kept "browser" fun reached => apart ((RealmFlows.mem_aliasesBelow (forest.ends "mine")).2 reached)⟩

end MemoryServer

end RealmSetup
