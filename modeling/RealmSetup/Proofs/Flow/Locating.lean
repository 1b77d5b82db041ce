import RealmSetup.Proofs.Flow.Changes

/-!
# Where an execution stands

Requests that concern one execution name it by its identifier, which is looked for through all flows of
the realm.  `RealmFlows.locate?` is that search: a request asks whether it finds anything
(`RealmFlows.hasExecution_eq_isSome_locate?`) and changes the flow that it finds
(`RealmFlows.changeAround_eq_modify`).  Where executions differ in their identifiers, that is the one
execution that carries the identifier (`RealmFlows.locate?_eq_some_iff`).
-/

namespace RealmSetup

theorem changeFirst_eq_modify {α : Type} (p : α → Bool) (change : α → α) (l : List α) :
    changeFirst p change l = (l.findIdx? p).elim l fun i => l.modify i change := by
  induction l with
  | nil => rfl
  | cons a rest ih =>
    rw [changeFirst, List.findIdx?_cons]
    split
    · rfl
    · rw [ih]
      cases rest.findIdx? p <;> rfl

namespace RealmFlows

variable {r : RealmFlows} {f : FlowRecord} {x y : FlowExecution} {i j p q : Nat} {id : String}

/-- The execution at a place of a flow, both counted from the front. -/
def executionAt? (r : RealmFlows) (i p : Nat) : Option FlowExecution :=
  r.flows[i]?.bind fun f => f.executions[p]?

theorem executionAt?_eq_some_iff :
    r.executionAt? i p = some x ↔ ∃ f, r.flows[i]? = some f ∧ f.executions[p]? = some x :=
  Option.bind_eq_some_iff

theorem mem_executions_of_executionAt? (h : r.executionAt? i p = some x) : x ∈ r.executions := by
  obtain ⟨f, flow, place⟩ := executionAt?_eq_some_iff.1 h
  exact mem_executions.2 ⟨f, List.mem_of_getElem? flow, List.mem_of_getElem? place⟩

/-- The flow and the place in it where the first execution with an identifier stands. -/
def locate? (r : RealmFlows) (id : String) : Option (Nat × Nat) :=
  r.flows.zipIdx.findSome? fun (f, i) =>
    (f.executions.findIdx? fun x => x.id = id).map fun p => (i, p)

/-- The flow where an execution is located is the first that holds one with the identifier. -/
theorem map_fst_locate? (r : RealmFlows) (id : String) :
    (r.locate? id).map Prod.fst = r.flows.findIdx? fun f => f.executions.any fun x => x.id = id := by
  have counted (fs : List FlowRecord) (k : Nat) :
      ((fs.zipIdx k).findSome? fun (f, i) =>
        (f.executions.findIdx? fun x => x.id = id).map fun p => (i, p)).map Prod.fst =
        (fs.findIdx? fun f => f.executions.any fun x => x.id = id).map (· + k) := by
    induction fs generalizing k with
    | nil => rfl
    | cons f fs ih =>
      rw [List.zipIdx_cons, List.findSome?_cons, List.findIdx?_cons, ← List.findIdx?_isSome]
      cases here : f.executions.findIdx? fun x => decide (x.id = id) with
      | some p => simp [here]
      | none =>
        simp only [here, Option.map_none, Option.isSome_none, Bool.false_eq_true, if_false, ih,
          Option.map_map]
        congr 1
        funext n
        exact (Nat.succ_add_eq_add_succ n k).symm
  exact (counted r.flows 0).trans Option.map_id'

/-- A request that names an execution asks whether it is located, -/
theorem hasExecution_eq_isSome_locate? (r : RealmFlows) (id : String) :
    r.hasExecution id = (r.locate? id).isSome := by
  rw [← Option.isSome_map, map_fst_locate?, List.findIdx?_isSome]
  rfl

/-- and changes the flow where it is. -/
theorem changeAround_eq_modify (r : RealmFlows) (id : String)
    (change : List FlowExecution → List FlowExecution) :
    r.changeAround id change = (r.locate? id).elim r fun place =>
      { r with
        flows := r.flows.modify place.1 fun f => { f with executions := change f.executions } } := by
  rw [changeAround, changeFirst_eq_modify, ← map_fst_locate?]
  cases r.locate? id <;> rfl

/-- Executions at different places differ in their identifiers. -/
theorem place_unique (apart : r.executionIds.Nodup) (hx : r.executionAt? i p = some x)
    (hy : r.executionAt? j q = some y) (same : x.id = y.id) : i = j ∧ p = q := by
  rw [executionIds, executions, List.map_flatMap, List.nodup_flatMap] at apart
  obtain ⟨within, between⟩ := apart
  obtain ⟨f, flow, place⟩ := executionAt?_eq_some_iff.1 hx
  obtain ⟨g, flow', place'⟩ := executionAt?_eq_some_iff.1 hy
  have hid : x.id ∈ f.executions.map FlowExecution.id :=
    List.mem_map_of_mem (List.mem_of_getElem? place)
  have hid' : x.id ∈ g.executions.map FlowExecution.id :=
    same ▸ List.mem_map_of_mem (List.mem_of_getElem? place')
  obtain ⟨hi, rfl⟩ := List.getElem?_eq_some_iff.1 flow
  obtain ⟨hj, rfl⟩ := List.getElem?_eq_some_iff.1 flow'
  rw [List.pairwise_iff_getElem] at between
  have flows : i = j := by
    rcases Nat.lt_trichotomy i j with before | rfl | after
    · exact absurd hid' (between i j hi hj before hid)
    · rfl
    · exact absurd hid (between j i hj hi after hid')
  subst flows
  have inside : p < (r.flows[i].executions.map FlowExecution.id).length := by
    rw [List.length_map]
    exact (List.getElem?_eq_some_iff.1 place).1
  refine ⟨rfl, (List.getElem?_inj inside (within _ (List.getElem_mem hi))).1 ?_⟩
  rw [List.getElem?_map, List.getElem?_map, place, place', Option.map_some, Option.map_some, same]

/-- What is located carries the identifier. -/
theorem exists_of_locate? (h : r.locate? id = some (i, p)) :
    ∃ x, r.executionAt? i p = some x ∧ x.id = id := by
  obtain ⟨⟨f, k⟩, within, found⟩ := List.exists_of_findSome?_eq_some h
  have flow : r.flows[k]? = some f := List.mem_zipIdx_iff_getElem?.1 within
  obtain ⟨n, place, rfl, rfl⟩ : ∃ n, (f.executions.findIdx? fun x => x.id = id) = some n ∧ k = i ∧
      n = p := by simpa using found
  obtain ⟨hn, carries, -⟩ := List.findIdx?_eq_some_iff_getElem.1 place
  exact ⟨f.executions[n], executionAt?_eq_some_iff.2 ⟨f, flow, List.getElem?_eq_getElem hn⟩,
    of_decide_eq_true carries⟩

/-- An identifier that some execution carries is located. -/
theorem isSome_locate? (hx : r.executionAt? i p = some x) (carries : x.id = id) :
    (r.locate? id).isSome = true := by
  obtain ⟨f, flow, place⟩ := executionAt?_eq_some_iff.1 hx
  refine List.findSome?_isSome_iff.2 ⟨(f, i), List.mem_zipIdx_iff_getElem?.2 flow, ?_⟩
  rw [Option.isSome_map, List.findIdx?_isSome, List.any_eq_true]
  exact ⟨x, List.mem_of_getElem? place, decide_eq_true carries⟩

/-- Where executions differ in their identifiers, the one that carries an identifier is located. -/
theorem locate?_eq_some_iff (apart : r.executionIds.Nodup) :
    r.locate? id = some (i, p) ↔ ∃ x, r.executionAt? i p = some x ∧ x.id = id := by
  refine ⟨exists_of_locate?, ?_⟩
  rintro ⟨x, hx, carries⟩
  obtain ⟨⟨j, q⟩, located⟩ := Option.isSome_iff_exists.1 (isSome_locate? hx carries)
  obtain ⟨y, hy, carries'⟩ := exists_of_locate? located
  obtain ⟨rfl, rfl⟩ := place_unique apart hx hy (carries.trans carries'.symm)
  exact located

/-- Where executions differ in their identifiers, a change around one of them changes its flow. -/
theorem changeAround_eq (apart : r.executionIds.Nodup) (flow : r.flows[i]? = some f)
    (place : f.executions[p]? = some x) (change : List FlowExecution → List FlowExecution) :
    r.changeAround x.id change =
      { r with flows := r.flows.set i { f with executions := change f.executions } } := by
  have located : r.locate? x.id = some (i, p) :=
    (locate?_eq_some_iff apart).2 ⟨x, executionAt?_eq_some_iff.2 ⟨f, flow, place⟩, rfl⟩
  rw [changeAround_eq_modify, located, Option.elim_some, List.modify_eq_set_getElem?, flow]
  rfl

end RealmFlows

end RealmSetup
