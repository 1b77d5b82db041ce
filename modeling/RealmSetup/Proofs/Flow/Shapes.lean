import Mathlib.Data.Multiset.Count
import RealmSetup.Proofs.Flow.Copying
import RealmSetup.Proofs.Flow.Desk

/-!
# What requests make of the shape of a realm

The shape of a realm is which flows there are, which of them are listed and which they call for, in
whatever order.  A request for a copy adds all copies at once (`FlowDesk.serve_copyFlow`), and one for a
deletion removes what is below a flow.  Every other request extends the realm by one flow at most
(`FlowDesk.serve_extends`).  So three facts make an invariant of all requests (`FlowDesk.serve_keeps`),
and of all realms of a server (`MemoryServer.desk_serve_keeps`).
-/

namespace RealmSetup

/-- The alias of a flow, what it calls for and whether it is listed. -/
def FlowRecord.shape (f : FlowRecord) : String × Multiset String × Bool :=
  (f.aliasName, f.nested, f.topLevel)

namespace RealmFlows

variable {r r' : RealmFlows} {a b : String}

/-! ## Realms of one shape -/

/-- The shapes of the flows of a realm. -/
def shape (r : RealmFlows) : List (String × Multiset String × Bool) := r.flows.map FlowRecord.shape

theorem aliases_of_shape (same : r'.shape = r.shape) :
    r'.flows.map FlowRecord.aliasName = r.flows.map FlowRecord.aliasName := by
  have names : ∀ r : RealmFlows, r.flows.map FlowRecord.aliasName = r.shape.map Prod.fst := fun r => by
    rw [shape, List.map_map]
    rfl
  rw [names, names, same]

theorem hasFlow_of_shape (same : r'.shape = r.shape) (a : String) : r'.hasFlow a = r.hasFlow a := by
  rw [Bool.eq_iff_iff, hasFlow_iff_mem, hasFlow_iff_mem, aliases_of_shape same]

theorem exists_of_shape (same : r'.shape = r.shape) {f : FlowRecord} (hf : f ∈ r'.flows) :
    ∃ g ∈ r.flows, g.aliasName = f.aliasName ∧ (∀ b, b ∈ g.nested ↔ b ∈ f.nested) ∧
      g.topLevel = f.topLevel := by
  have mem : f.shape ∈ r.shape := same ▸ List.mem_map_of_mem hf
  obtain ⟨g, hg, shapes⟩ := List.mem_map.1 mem
  simp only [FlowRecord.shape, Prod.mk.injEq] at shapes
  refine ⟨g, hg, shapes.1, fun b => ?_, shapes.2.2⟩
  rw [← Multiset.mem_coe, shapes.2.1, Multiset.mem_coe]

theorem calls_of_shape (same : r'.shape = r.shape) : r'.Calls = r.Calls := by
  have by_shape : ∀ (r : RealmFlows) a b, r.Calls a b ↔
      ∃ s, r.shape.find? (fun s => s.1 = a) = some s ∧ b ∈ s.2.1 := by
    intro r a b
    have found : r.shape.find? (fun s => s.1 = a) = (r.flow? a).map FlowRecord.shape := by
      rw [shape, List.find?_map]
      rfl
    rw [found, Calls, calledBy]
    cases r.flow? a <;> simp [FlowRecord.shape]
  funext a b
  exact propext ((by_shape r' a b).trans (same ▸ (by_shape r a b).symm))

/-- Aliases are called for equally often. -/
theorem count_nested_of_shape (same : r'.shape = r.shape) (a : String) :
    (r'.flows.flatMap FlowRecord.nested).count a = (r.flows.flatMap FlowRecord.nested).count a := by
  have by_shape : ∀ r : RealmFlows, (r.flows.flatMap FlowRecord.nested).count a =
      (r.shape.map fun s => s.2.1.count a).sum := fun r => by
    rw [List.count_flatMap, shape, List.map_map]
    simp only [Function.comp_def, FlowRecord.shape, Multiset.coe_count]
  rw [by_shape, by_shape, same]

theorem shape_changeFirst {p : FlowRecord → Bool} {change : FlowRecord → FlowRecord}
    (keeps : ∀ f, (change f).shape = f.shape) :
    shape { r with flows := changeFirst p change r.flows } = r.shape :=
  map_changeFirst fun f _ _ => keeps f

/-- Executions in another order call for the same flows. -/
theorem shape_changeAround (id : String) {change : List FlowExecution → List FlowExecution}
    (perm : ∀ xs, (change xs).Perm xs) : (r.changeAround id change).shape = r.shape :=
  shape_changeFirst fun f => by
    have nested := (perm f.executions).filterMap FlowExecution.nested?
    simpa [FlowRecord.shape, FlowRecord.nested] using nested

theorem shape_of_skeleton (same : r'.skeleton = r.skeleton) : r'.shape = r.shape := by
  have by_skeleton : ∀ r : RealmFlows,
      r.shape = r.skeleton.map fun s => (s.1, (s.2.1 : Multiset String), s.2.2) :=
    fun r => by
      rw [skeleton, List.map_map]
      rfl
  rw [by_skeleton, by_skeleton, same]

/-! ## Realms that are extended -/

/-- A realm is extended by one flow at most. -/
inductive Extends (r : RealmFlows) : RealmFlows → Prop
  /-- Its shape is kept. -/
  | kept {r' : RealmFlows} (same : r'.shape = r.shape) : r.Extends r'
  /-- A flow joins its listing. -/
  | flow {f : FlowRecord} (free : ¬r.hasFlow f.aliasName = true) (top : f.topLevel = true)
      (empty : f.executions = []) : r.Extends (r.addFlow f)
  /-- A flow joins it and is called for by one that is there. -/
  | subflow {f : FlowRecord} {parent : String} {x : FlowExecution}
      (there : r.hasFlow parent = true) (free : ¬r.hasFlow f.aliasName = true)
      (nested : f.topLevel = false) (empty : f.executions = [])
      (called : x.nested? = some f.aliasName) : r.Extends ((r.addFlow f).addExecution parent x)

end RealmFlows

namespace FlowDesk

variable {d : FlowDesk}

theorem extends_withLeaf (d : FlowDesk) (parent provider : String) :
    d.realm.Extends (d.withLeaf parent provider).realm :=
  .kept (RealmFlows.shape_of_skeleton (RealmFlows.skeleton_addExecution_leaf parent rfl))

theorem extends_withSubflow {parent a : String} (there : d.realm.hasFlow parent = true)
    (free : ¬d.realm.hasFlow a = true) (kind : FlowKind) :
    d.realm.Extends (d.withSubflow parent a kind).realm :=
  .subflow there free rfl rfl rfl

theorem extends_withRequirement (d : FlowDesk) (id : NodeId) (requirement : Requirement) :
    d.realm.Extends (d.withRequirement id requirement).realm :=
  .kept (RealmFlows.shape_of_skeleton (RealmFlows.skeleton_changeExecution id.text fun _ => rfl))

theorem extends_withConfig (d : FlowDesk) (id : NodeId) (config : AuthenticatorConfig) :
    d.realm.Extends (d.withConfig id config).realm :=
  .kept (RealmFlows.shape_of_skeleton (RealmFlows.skeleton_changeExecution id.text fun _ => rfl))

/-! ## Requests -/

theorem extends_settle {result : Except Error FlowDesk}
    (done : ∀ d', result = .ok d' → d.realm.Extends d'.realm) :
    d.realm.Extends (d.settle result).2.realm := by
  cases result with
  | ok d' => exact done d' rfl
  | error e => exact .kept rfl

theorem extends_atExecution {id : NodeId} {change : RealmFlows → RealmFlows}
    (h : d.realm.Extends (change d.realm)) :
    d.realm.Extends (d.settle (d.atExecution id change)).2.realm := by
  refine extends_settle fun d' done => ?_
  unfold FlowDesk.atExecution at done
  split at done <;> cases done
  exact h

/-- A request that is neither for a copy nor for a deletion extends the realm by one flow at most. -/
theorem serve_extends (d : FlowDesk) {op : Remote.Op} (copies : ∀ source dest, op ≠ .copyFlow source dest)
    (deletes : ∀ flowId, op ≠ .deleteFlow flowId) : d.realm.Extends (d.serve op).2.realm := by
  cases op with
  | createFlow a description kind =>
    simp only [serve, createFlow]
    split
    · exact .kept rfl
    · next free => exact .flow free rfl rfl
  | copyFlow source dest => exact absurd rfl (copies source dest)
  | deleteFlow flowId => exact absurd rfl (deletes flowId)
  | addExecution parent provider =>
    by_cases there : d.realm.hasFlow parent = true
    · rw [d.serve_addExecution provider there]
      exact d.extends_withLeaf parent provider
    · rw [d.serve_addExecution_error provider there]
      exact .kept rfl
  | addSubflow parent a kind =>
    refine extends_settle fun d' done => ?_
    unfold FlowDesk.addSubflow at done
    split at done
    · cases done
    next free =>
      split at done <;> cases done
      next there => exact extends_withSubflow there free kind
  | updateExecution parent row =>
    exact extends_atExecution (d.extends_withRequirement row.id row.requirement)
  | raisePriority id =>
    exact extends_atExecution (.kept (RealmFlows.shape_changeAround _ (RealmFlows.raised_perm id.text)))
  | lowerPriority id =>
    exact extends_atExecution (.kept (RealmFlows.shape_changeAround _ (RealmFlows.lowered_perm id.text)))
  | createConfig id config =>
    refine extends_settle fun d' done => ?_
    unfold FlowDesk.createConfig at done
    split at done <;> cases done
    exact d.extends_withConfig id config
  | bindBrowserFlow a =>
    refine extends_settle fun d' done => ?_
    unfold FlowDesk.bindBrowserFlow at done
    split at done <;> cases done
    exact .kept rfl
  | _ => exact .kept rfl

/-- A request for a copy makes one: its name is free and its source is there. -/
def MakesCopy (d : FlowDesk) (source dest : String) : Prop :=
  ¬d.realm.hasFlow dest = true ∧ d.realm.hasFlow source = true

instance (d : FlowDesk) (source dest : String) : Decidable (d.MakesCopy source dest) :=
  inferInstanceAs (Decidable (_ ∧ _))

theorem serve_copyFlow (d : FlowDesk) (source dest : String) :
    (d.serve (.copyFlow source dest)).2 =
      if d.MakesCopy source dest then d.copied source dest else d := by
  simp only [serve, copyFlow]
  by_cases taken : d.realm.hasFlow dest = true
  · rw [if_pos taken, if_neg fun makes : d.MakesCopy source dest => makes.1 taken]
  by_cases there : d.realm.hasFlow source = true
  · rw [if_neg taken, if_pos there, if_pos (show d.MakesCopy source dest from ⟨taken, there⟩)]
    rfl
  · rw [if_neg taken, if_neg there, if_neg fun makes : d.MakesCopy source dest => there makes.2]

theorem serve_deleteFlow (d : FlowDesk) (flowId : String) :
    (d.serve (.deleteFlow flowId)).2 = d ∨ ∃ f ∈ d.realm.flows,
      (d.serve (.deleteFlow flowId)).2.realm = d.realm.removeFlows (d.realm.aliasesBelow f.aliasName) := by
  simp only [serve, deleteFlow]
  cases found : d.realm.flows.find? fun f => f.id = flowId with
  | none => exact .inl rfl
  | some f => exact .inr ⟨f, List.mem_of_find?_eq_some found, rfl⟩

/-- What is to be shown of a request that deletes nothing: that extensions and the copy it makes keep an
invariant. -/
theorem serve_keeps_of_ne_deleteFlow {Inv : RealmFlows → Prop} (h : Inv d.realm) {op : Remote.Op}
    (deletes : ∀ flowId, op ≠ .deleteFlow flowId) (extended : ∀ r, d.realm.Extends r → Inv r)
    (copied : ∀ source dest, op = .copyFlow source dest → d.MakesCopy source dest →
      Inv (d.copied source dest).realm) :
    Inv (d.serve op).2.realm := by
  by_cases copies : ∃ source dest, op = .copyFlow source dest
  · obtain ⟨source, dest, rfl⟩ := copies
    rw [serve_copyFlow]
    split
    · next makes => exact copied source dest rfl makes
    · exact h
  · exact extended _ (d.serve_extends (fun source dest same => copies ⟨source, dest, same⟩) deletes)

/-- What is to be shown of a request: that extensions, the copy it makes and deletions keep an
invariant. -/
theorem serve_keeps {Inv : RealmFlows → Prop} (h : Inv d.realm) (op : Remote.Op)
    (extended : ∀ r, d.realm.Extends r → Inv r)
    (copied : ∀ source dest, op = .copyFlow source dest → d.MakesCopy source dest →
      Inv (d.copied source dest).realm)
    (removed : ∀ f ∈ d.realm.flows, Inv (d.realm.removeFlows (d.realm.aliasesBelow f.aliasName))) :
    Inv (d.serve op).2.realm := by
  by_cases deletes : ∃ flowId, op = .deleteFlow flowId
  · obtain ⟨flowId, rfl⟩ := deletes
    rcases d.serve_deleteFlow flowId with kept | ⟨f, hf, removes⟩
    · rw [kept]
      exact h
    · rw [removes]
      exact removed f hf
  · exact serve_keeps_of_ne_deleteFlow h (fun flowId same => deletes ⟨flowId, same⟩) extended copied

end FlowDesk

namespace MemoryServer

/-! ## Servers -/

/-- The server when it has answered some requests. -/
def after (s : MemoryServer) (calls : List Remote.Call) : MemoryServer :=
  calls.foldl (fun s c => (s.serve c).2) s

theorem Reached.after {s : MemoryServer} (h : s.Reached) (calls : List Remote.Call) :
    (s.after calls).Reached := by
  induction calls generalizing s with
  | nil => exact h
  | cons c calls ih => exact ih (h.serve c)

section Keeps

variable {Inv : RealmFlows → Prop} (begins : ∀ stock issued, Inv (FlowDesk.fresh stock issued).realm)
  {s : MemoryServer} {c : Remote.Call} {realm : String}
include begins

/-- What realms begin with is kept by requests to others. -/
theorem desk_serve_of_ne (other : realm ≠ c.realm) (h : Inv (s.desk realm).realm) :
    Inv ((s.serve c).2.desk realm).realm := by
  rw [desk_serve, if_neg other]
  unfold desk at h
  cases found : s.realms.get? realm with
  | none => exact begins s.stock _
  | some r =>
    rw [found] at h
    exact h

/-- It is kept in all realms by a request that keeps it in its own. -/
theorem desk_serve_keeps (h : ∀ realm, Inv (s.desk realm).realm)
    (own : Inv ((s.desk c.realm).serve c.op).2.realm) (realm : String) :
    Inv ((s.serve c).2.desk realm).realm := by
  by_cases same : realm = c.realm
  · rw [desk_serve, if_pos same]
    exact own
  · exact desk_serve_of_ne begins same (h realm)

end Keeps

/-- Every one of some requests satisfies a condition at the desk of its realm as it finds it. -/
def Throughout (P : FlowDesk → Remote.Op → Prop) (s : MemoryServer) : List Remote.Call → Prop
  | [] => True
  | c :: calls => P (s.desk c.realm) c.op ∧ Throughout P (s.serve c).2 calls

/-- What realms begin with is kept in all realms by requests each of which keeps it in its own. -/
theorem Throughout.keeps {P : FlowDesk → Remote.Op → Prop} {Inv : RealmFlows → Prop}
    (begins : ∀ stock issued, Inv (FlowDesk.fresh stock issued).realm)
    (step : ∀ d op, Inv d.realm → P d op → Inv (d.serve op).2.realm) {s : MemoryServer}
    {calls : List Remote.Call} (h : Throughout P s calls) (start : ∀ realm, Inv (s.desk realm).realm)
    (realm : String) : Inv ((s.after calls).desk realm).realm := by
  induction calls generalizing s with
  | nil => exact start realm
  | cons c calls ih => exact ih h.2 (desk_serve_keeps begins start (step _ _ (start c.realm) h.1))

/-- Where a condition says exactly which requests keep an invariant, some requests keep it all the way,
in all realms, exactly if each of them satisfies the condition. -/
theorem along_iff_throughout {P : FlowDesk → Remote.Op → Prop} {Inv : RealmFlows → Prop}
    (begins : ∀ stock issued, Inv (FlowDesk.fresh stock issued).realm)
    (step : ∀ {d : FlowDesk} op, Inv d.realm → (Inv (d.serve op).2.realm ↔ P d op)) {s : MemoryServer}
    (h : ∀ realm, Inv (s.desk realm).realm) (calls : List Remote.Call) :
    (∀ earlier, earlier <+: calls → ∀ realm, Inv ((s.after earlier).desk realm).realm) ↔
      Throughout P s calls := by
  induction calls generalizing s with
  | nil =>
    refine ⟨fun _ => trivial, fun _ earlier within => ?_⟩
    rw [List.prefix_nil.1 within]
    exact h
  | cons c calls ih =>
    rw [Throughout, ← step c.op (h c.realm)]
    constructor
    · intro along
      have next := along [c] ⟨calls, rfl⟩
      have own : Inv ((s.desk c.realm).serve c.op).2.realm := by
        have own := next c.realm
        rwa [after, List.foldl_cons, List.foldl_nil, desk_serve, if_pos rfl] at own
      refine ⟨own, (ih next).1 fun earlier within => ?_⟩
      exact along (c :: earlier) (List.cons_prefix_cons.2 ⟨rfl, within⟩)
    · rintro ⟨own, throughout⟩ earlier within
      rcases List.prefix_cons_iff.1 within with rfl | ⟨rest, rfl, below⟩
      · exact h
      · exact (ih (desk_serve_keeps begins h own)).2 throughout rest below

end MemoryServer

end RealmSetup
