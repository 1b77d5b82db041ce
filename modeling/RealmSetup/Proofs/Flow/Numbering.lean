import Mathlib.Data.List.Flatten
import Std.Data.String.ToNat
import RealmSetup.Flow.MemoryServer
import RealmSetup.Proofs.Flow.Changes

/-!
# Identifiers are told apart

A server numbers what it creates in one sequence for all realms.  `FlowDesk.Numbered` says what follows
for one realm at any time: flows differ in their identifiers, executions do so across all flows, and no
identifier in use has a number that is still to be given out.  Every request keeps this
(`numbered_serve`), so it holds in every realm of a server after any requests
(`MemoryServer.Reached.numbered`).
-/

namespace RealmSetup

/-! ## Numbers -/

theorem identifier_inj {sort : String} {m n : Nat} : identifier sort m = identifier sort n ↔ m = n := by
  unfold identifier
  rw [String.append_right_inj]
  exact Nat.repr_inj

/-- An identifier of a sort with a number above `low` and up to `high`. -/
def IsNumbered (sort : String) (low high : Nat) (id : String) : Prop :=
  ∃ n, low < n ∧ n ≤ high ∧ id = identifier sort n

theorem isNumbered_identifier {sort : String} {low high n : Nat} (hlow : low < n) (hhigh : n ≤ high) :
    IsNumbered sort low high (identifier sort n) :=
  ⟨n, hlow, hhigh, rfl⟩

theorem IsNumbered.mono {sort id : String} {low high low' high' : Nat}
    (h : IsNumbered sort low high id) (hlow : low' ≤ low) (hhigh : high ≤ high') :
    IsNumbered sort low' high' id := by
  obtain ⟨n, above, upto, rfl⟩ := h
  exact ⟨n, by omega, by omega, rfl⟩

/-- Identifiers from separate stretches of the sequence differ. -/
theorem IsNumbered.ne {sort id id' : String} {low middle high : Nat}
    (h : IsNumbered sort low middle id) (h' : IsNumbered sort middle high id') : id ≠ id' := by
  obtain ⟨m, -, upto, rfl⟩ := h
  obtain ⟨n, above, -, rfl⟩ := h'
  intro same
  have := identifier_inj.1 same
  omega

/-- The identifiers of all flows. -/
def RealmFlows.flowIds (r : RealmFlows) : List String := r.flows.map FlowRecord.id

namespace FlowDesk

/-- What holds of the identifiers in a realm when a number of them were given out. -/
structure Numbered (d : FlowDesk) : Prop where
  /-- Flows differ in their identifiers. -/
  flows_nodup : (d.realm.flows.map FlowRecord.id).Nodup
  /-- Every identifier of a flow was given out. -/
  flows_issued : ∀ f ∈ d.realm.flows, IsNumbered "flow" 0 d.issued f.id
  /-- Executions differ in their identifiers. -/
  executions_nodup : d.realm.executionIds.Nodup
  /-- Every identifier of an execution was given out. -/
  executions_issued : ∀ x ∈ d.realm.executions, IsNumbered "exec" 0 d.issued x.id
  /-- Every configuration that is bound has an identifier that was given out. -/
  configs_issued : ∀ x ∈ d.realm.executions, ∀ c, x.configId = some c →
    IsNumbered "config" 0 d.issued c
  /-- Every configuration that is kept has an identifier that was given out. -/
  kept_issued : ∀ c config, d.realm.configs.get? c = some config → IsNumbered "config" 0 d.issued c

/-- Numbers that other realms use up change nothing. -/
theorem Numbered.later {d : FlowDesk} (h : d.Numbered) {n : Nat} (hn : d.issued ≤ n) :
    Numbered ⟨d.realm, n⟩ where
  flows_nodup := h.flows_nodup
  flows_issued f hf := (h.flows_issued f hf).mono (Nat.le_refl _) hn
  executions_nodup := h.executions_nodup
  executions_issued x hx := (h.executions_issued x hx).mono (Nat.le_refl _) hn
  configs_issued x hx c hc := (h.configs_issued x hx c hc).mono (Nat.le_refl _) hn
  kept_issued c config hc := (h.kept_issued c config hc).mono (Nat.le_refl _) hn

/-- The next identifier is that of no execution. -/
theorem Numbered.fresh_execution {d : FlowDesk} (h : d.Numbered) {n : Nat} (hn : d.issued < n) :
    identifier "exec" n ∉ d.realm.executionIds := by
  intro used
  obtain ⟨x, hx, same⟩ := List.mem_map.1 used
  exact (h.executions_issued x hx).ne (isNumbered_identifier hn (Nat.le_refl _)) same

/-- The next identifier is that of no flow. -/
theorem Numbered.fresh_flow {d : FlowDesk} (h : d.Numbered) {n : Nat} (hn : d.issued < n) :
    identifier "flow" n ∉ d.realm.flowIds := by
  intro used
  obtain ⟨f, hf, same⟩ := List.mem_map.1 used
  exact (h.flows_issued f hf).ne (isNumbered_identifier hn (Nat.le_refl _)) same

/-! ## Stock flows -/

theorem numbered_fresh (stock : Bool) (issued : Nat) : (fresh stock issued).Numbered := by
  cases stock with
  | false =>
    constructor <;>
      simp [fresh, RealmFlows.empty, RealmFlows.executionIds, RealmFlows.executions, KeyMap.get?_empty]
  | true =>
    constructor
    · simp [fresh, stockBrowser, stockForms, stockOtp, identifier_inj]
    · simp [fresh, stockBrowser, stockForms, stockOtp, IsNumbered, identifier_inj]
    · simp [fresh, stockBrowser, stockForms, stockOtp, stockExecutions, RealmFlows.executionIds,
        RealmFlows.executions, identifier_inj]
      omega
    · simp [fresh, stockBrowser, stockForms, stockOtp, stockExecutions, RealmFlows.executions,
        IsNumbered, identifier_inj]
    · simp [fresh, stockBrowser, stockForms, stockOtp, stockExecutions, RealmFlows.executions]
    · simp [fresh, KeyMap.get?_empty]

/-! ## Copies -/

theorem identifiersAmong_cons (f : FlowRecord) (fs : List FlowRecord) :
    identifiersAmong (f :: fs) = identifiersIn f + identifiersAmong fs :=
  rfl

theorem executions_copyRecord_ids (source dest : String) (issued : Nat) (f : FlowRecord) :
    (copyRecord source dest issued f).executions.map FlowExecution.id =
      (List.range' (issued + 2) f.executions.length).map (identifier "exec") := by
  rw [copyRecord, ← List.zipIdx_map_snd (issued + 2) f.executions]
  simp only [List.map_map]
  rfl

/-- Every copy is numbered from its own stretch of the sequence. -/
theorem mem_copyRecords {source dest : String} {issued : Nat} {fs : List FlowRecord} {f : FlowRecord}
    (h : f ∈ copyRecords source dest issued fs) :
    ∃ g ∈ fs, ∃ n, issued ≤ n ∧ n + identifiersIn g ≤ issued + identifiersAmong fs ∧
      f = copyRecord source dest n g := by
  induction fs generalizing issued with
  | nil => simp [copyRecords] at h
  | cons g rest ih =>
    rw [identifiersAmong_cons]
    rcases List.mem_cons.1 h with rfl | h
    · exact ⟨g, List.mem_cons_self, issued, by omega, by omega, rfl⟩
    · obtain ⟨k, hk, n, above, upto, rfl⟩ := ih h
      exact ⟨k, List.mem_cons_of_mem g hk, n, by omega, by omega, rfl⟩

theorem isNumbered_copyRecord_id {source dest : String} {n : Nat} {f : FlowRecord} {low high : Nat}
    (hlow : low ≤ n) (hhigh : n + identifiersIn f ≤ high) :
    IsNumbered "flow" low high (copyRecord source dest n f).id := by
  unfold identifiersIn at hhigh
  exact isNumbered_identifier (by omega) (by omega)

theorem isNumbered_copyRecord_executions {source dest : String} {n : Nat} {f : FlowRecord}
    {low high : Nat} (hlow : low ≤ n) (hhigh : n + identifiersIn f ≤ high) {id : String}
    (h : id ∈ (copyRecord source dest n f).executions.map FlowExecution.id) :
    IsNumbered "exec" low high id := by
  rw [executions_copyRecord_ids] at h
  obtain ⟨k, hk, rfl⟩ := List.mem_map.1 h
  rw [List.mem_range'_1] at hk
  unfold identifiersIn at hhigh
  exact isNumbered_identifier (by omega) (by omega)

theorem copyRecords_flows_nodup (source dest : String) (issued : Nat) (fs : List FlowRecord) :
    ((copyRecords source dest issued fs).map FlowRecord.id).Nodup := by
  induction fs generalizing issued with
  | nil => exact .nil
  | cons g rest ih =>
    refine List.nodup_cons.2 ⟨fun again => ?_, ih _⟩
    obtain ⟨f, hf, same⟩ := List.mem_map.1 again
    obtain ⟨k, -, n, above, upto, rfl⟩ := mem_copyRecords hf
    have first : IsNumbered "flow" issued (issued + identifiersIn g) (copyRecord source dest issued g).id :=
      isNumbered_copyRecord_id (Nat.le_refl _) (Nat.le_refl _)
    exact first.ne (isNumbered_copyRecord_id above upto) same.symm

theorem copyRecords_executions_nodup (source dest : String) (issued : Nat) (fs : List FlowRecord) :
    (((copyRecords source dest issued fs).flatMap FlowRecord.executions).map FlowExecution.id).Nodup := by
  induction fs generalizing issued with
  | nil => exact .nil
  | cons g rest ih =>
    rw [copyRecords, List.flatMap_cons, List.map_append, List.nodup_append]
    refine ⟨?_, ih _, ?_⟩
    · rw [executions_copyRecord_ids]
      exact List.Nodup.map (fun m n same => identifier_inj.1 same) List.nodup_range'
    · intro id hid id' hid'
      obtain ⟨x, hx, rfl⟩ := List.mem_map.1 hid'
      obtain ⟨f, hf, hxf⟩ := List.mem_flatMap.1 hx
      obtain ⟨k, -, n, above, upto, rfl⟩ := mem_copyRecords hf
      have first : IsNumbered "exec" issued (issued + identifiersIn g) id :=
        isNumbered_copyRecord_executions (Nat.le_refl _) (Nat.le_refl _) hid
      exact first.ne (isNumbered_copyRecord_executions above upto (List.mem_map_of_mem hxf))

/-- A copy is bound to the configurations of what it is a copy of. -/
theorem configId_of_mem_copyRecord {source dest : String} {n : Nat} {f : FlowRecord} {x : FlowExecution}
    (h : x ∈ (copyRecord source dest n f).executions) :
    ∃ y ∈ f.executions, y.configId = x.configId := by
  obtain ⟨⟨y, k⟩, hy, rfl⟩ := List.mem_map.1 h
  exact ⟨y, List.fst_mem_of_mem_zipIdx hy, rfl⟩

/-! ## Requests -/

variable {d : FlowDesk}

/-- A flow with the next identifier and without executions may be added. -/
theorem Numbered.addFlow (h : d.Numbered) {n : Nat} (hn : d.issued < n) (f : FlowRecord)
    (hid : f.id = identifier "flow" n) (hempty : f.executions = []) :
    Numbered ⟨d.realm.addFlow f, n⟩ := by
  have next := h.later (Nat.le_of_lt hn)
  have executions : (d.realm.addFlow f).executions = d.realm.executions := by
    rw [RealmFlows.executions_addFlow, hempty, List.append_nil]
  refine ⟨?_, ?_, ?_, ?_, ?_, ?_⟩
  · rw [RealmFlows.addFlow, List.map_append, List.nodup_append]
    refine ⟨h.flows_nodup, by simp, ?_⟩
    intro id hf id' hf'
    obtain ⟨g, hg, rfl⟩ := List.mem_map.1 hf
    rw [List.map_singleton, List.mem_singleton, hid] at hf'
    rw [hf']
    exact (h.flows_issued g hg).ne (isNumbered_identifier hn (Nat.le_refl _))
  · intro g hg
    rcases List.mem_append.1 hg with hg | hg
    · exact next.flows_issued g hg
    · rw [List.mem_singleton.1 hg, hid]
      exact isNumbered_identifier (Nat.zero_lt_of_lt hn) (Nat.le_refl _)
  · rw [RealmFlows.executionIds, executions]
    exact next.executions_nodup
  · exact fun x hx => next.executions_issued x (executions ▸ hx)
  · exact fun x hx => next.configs_issued x (executions ▸ hx)
  · exact next.kept_issued

theorem Numbered.createFlow (h : d.Numbered) (aliasName description : String) (kind : FlowKind) :
    (d.createFlow aliasName description kind).2.Numbered := by
  unfold FlowDesk.createFlow
  split
  · exact h
  · exact h.addFlow (Nat.lt_succ_self _) _ rfl rfl

theorem Numbered.copyFlow (h : d.Numbered) {source dest : String} {creation : Creation} {d' : FlowDesk}
    (copied : d.copyFlow source dest = .ok (creation, d')) : d'.Numbered := by
  unfold FlowDesk.copyFlow at copied
  split at copied
  · cases copied
    exact h
  split at copied
  · cases copied
    have next := h.later (Nat.le_add_right d.issued (identifiersAmong
      ((d.realm.aliasesBelow source).filterMap d.realm.flow?)))
    -- Copies have numbers above all that was given out, but share the configurations of the originals.
    have executions : ∀ fs : List FlowRecord,
        ({ d.realm with flows := d.realm.flows ++ fs } : RealmFlows).executions =
          d.realm.executions ++ fs.flatMap FlowRecord.executions := fun fs => List.flatMap_append
    refine ⟨?_, ?_, ?_, ?_, ?_, ?_⟩
    · rw [List.map_append, List.nodup_append]
      refine ⟨h.flows_nodup, copyRecords_flows_nodup _ _ _ _, ?_⟩
      intro id hid id' hid'
      obtain ⟨f, hf, rfl⟩ := List.mem_map.1 hid
      obtain ⟨g, hg, rfl⟩ := List.mem_map.1 hid'
      obtain ⟨k, -, n, above, upto, rfl⟩ := mem_copyRecords hg
      exact (h.flows_issued f hf).ne (isNumbered_copyRecord_id above upto)
    · intro f hf
      rcases List.mem_append.1 hf with hf | hf
      · exact next.flows_issued f hf
      · obtain ⟨k, -, n, above, upto, rfl⟩ := mem_copyRecords hf
        exact isNumbered_copyRecord_id (Nat.zero_le n) upto
    · rw [RealmFlows.executionIds, executions, List.map_append, List.nodup_append]
      refine ⟨h.executions_nodup, copyRecords_executions_nodup _ _ _ _, ?_⟩
      intro id hid id' hid'
      obtain ⟨x, hx, rfl⟩ := List.mem_map.1 hid
      obtain ⟨y, hy, rfl⟩ := List.mem_map.1 hid'
      obtain ⟨f, hf, hyf⟩ := List.mem_flatMap.1 hy
      obtain ⟨k, -, n, above, upto, rfl⟩ := mem_copyRecords hf
      exact (h.executions_issued x hx).ne
        (isNumbered_copyRecord_executions above upto (List.mem_map_of_mem hyf))
    · intro x hx
      rw [executions] at hx
      rcases List.mem_append.1 hx with hx | hx
      · exact next.executions_issued x hx
      · obtain ⟨f, hf, hxf⟩ := List.mem_flatMap.1 hx
        obtain ⟨k, -, n, above, upto, rfl⟩ := mem_copyRecords hf
        exact isNumbered_copyRecord_executions (Nat.zero_le n) upto (List.mem_map_of_mem hxf)
    · intro x hx c hc
      rw [executions] at hx
      rcases List.mem_append.1 hx with hx | hx
      · exact next.configs_issued x hx c hc
      · obtain ⟨f, hf, hxf⟩ := List.mem_flatMap.1 hx
        obtain ⟨k, hk, n, above, upto, rfl⟩ := mem_copyRecords hf
        obtain ⟨y, hy, same⟩ := configId_of_mem_copyRecord hxf
        obtain ⟨a, -, ha⟩ := List.mem_filterMap.1 hk
        have old : y ∈ d.realm.executions :=
          RealmFlows.mem_executions.2 ⟨k, (RealmFlows.flow?_eq_some ha).1, hy⟩
        exact next.configs_issued y old c (same.trans hc)
    · exact next.kept_issued
  · cases copied

/-- Fewer flows need no other numbers. -/
theorem Numbered.removeFlows (h : d.Numbered) (aliases : List String) :
    Numbered { d with realm := d.realm.removeFlows aliases } := by
  have fewer : (d.realm.removeFlows aliases).flows.Sublist d.realm.flows := List.filter_sublist
  have executions_fewer :
      (d.realm.removeFlows aliases).executions.Sublist d.realm.executions := fewer.flatMap _
  refine ⟨?_, ?_, ?_, ?_, ?_, ?_⟩
  · exact (fewer.map _).nodup h.flows_nodup
  · exact fun f hf => h.flows_issued f (fewer.subset hf)
  · exact (executions_fewer.map _).nodup h.executions_nodup
  · exact fun x hx => h.executions_issued x (executions_fewer.subset hx)
  · exact fun x hx => h.configs_issued x (executions_fewer.subset hx)
  · exact h.kept_issued

/-- Flows that hold the same executions as before, in whatever order, need no other numbers. -/
theorem Numbered.of_perm (h : d.Numbered) {r : RealmFlows}
    (flows : r.flows.map FlowRecord.id = d.realm.flows.map FlowRecord.id)
    (executions : r.executions.Perm d.realm.executions) (configs : r.configs = d.realm.configs) :
    Numbered ⟨r, d.issued⟩ := by
  refine ⟨?_, ?_, ?_, ?_, ?_, ?_⟩
  · exact flows ▸ h.flows_nodup
  · intro f hf
    have known : f.id ∈ d.realm.flows.map FlowRecord.id := flows ▸ List.mem_map_of_mem hf
    obtain ⟨g, hg, same⟩ := List.mem_map.1 known
    exact same ▸ h.flows_issued g hg
  · exact (executions.map _).nodup_iff.2 h.executions_nodup
  · exact fun x hx => h.executions_issued x (executions.subset hx)
  · exact fun x hx => h.configs_issued x (executions.subset hx)
  · exact fun c config hc => h.kept_issued c config (configs ▸ hc)

/-- An execution with the next identifier may be added. -/
theorem Numbered.addExecution (h : d.Numbered) {n : Nat} (hn : d.issued < n) (parent : String)
    (x : FlowExecution) (hid : x.id = identifier "exec" n) (hconfig : x.configId = none) :
    Numbered ⟨d.realm.addExecution parent x, n⟩ := by
  have next := h.later (Nat.le_of_lt hn)
  have flows : (d.realm.addExecution parent x).flows.map FlowRecord.id =
      d.realm.flows.map FlowRecord.id := map_changeFirst fun _ _ _ => rfl
  by_cases there : d.realm.hasFlow parent = true
  · have executions := RealmFlows.executions_addExecution_perm parent x there
    refine ⟨?_, ?_, ?_, ?_, ?_, ?_⟩
    · exact flows ▸ h.flows_nodup
    · intro f hf
      have known : f.id ∈ d.realm.flows.map FlowRecord.id := flows ▸ List.mem_map_of_mem hf
      obtain ⟨g, hg, same⟩ := List.mem_map.1 known
      exact same ▸ next.flows_issued g hg
    · refine (executions.map _).nodup_iff.2 ?_
      rw [List.map_append, List.nodup_append]
      refine ⟨h.executions_nodup, by simp, ?_⟩
      intro id hid' id' hid''
      rw [List.map_singleton, List.mem_singleton, hid] at hid''
      rw [hid'']
      intro same
      exact h.fresh_execution hn (same ▸ hid')
    · intro y hy
      rcases List.mem_append.1 (executions.subset hy) with hy | hy
      · exact next.executions_issued y hy
      · rw [List.mem_singleton.1 hy, hid]
        exact isNumbered_identifier (Nat.zero_lt_of_lt hn) (Nat.le_refl _)
    · intro y hy c hc
      rcases List.mem_append.1 (executions.subset hy) with hy | hy
      · exact next.configs_issued y hy c hc
      · rw [List.mem_singleton.1 hy, hconfig] at hc
        exact nomatch hc
    · exact next.kept_issued
  · have kept : d.realm.addExecution parent x = d.realm := by
      rw [RealmFlows.not_hasFlow, RealmFlows.flow?_eq_none] at there
      unfold RealmFlows.addExecution
      rw [changeFirst_of_forall_not fun f hf => by simpa using there f hf]
    rw [kept]
    exact next

/-- An execution may be changed, and bound to the next configuration. -/
theorem Numbered.changeExecution (h : d.Numbered) {n : Nat} (hn : d.issued ≤ n) (id : String)
    (change : FlowExecution → FlowExecution) (hid : ∀ x, (change x).id = x.id)
    (hconfig : ∀ x, (change x).configId = x.configId ∨
      ∃ c, (change x).configId = some c ∧ IsNumbered "config" 0 n c) :
    Numbered ⟨d.realm.changeExecution id change, n⟩ := by
  have next := h.later hn
  have flows := RealmFlows.changeExecution_flows id change h.executions_nodup
  have executions := RealmFlows.executions_changeExecution id change h.executions_nodup
  have kept : ∀ x : FlowExecution, (if x.id = id then change x else x).id = x.id := by
    intro x
    split
    · exact hid x
    · rfl
  refine ⟨?_, ?_, ?_, ?_, ?_, ?_⟩
  · rw [flows, List.map_map]
    exact h.flows_nodup
  · intro f hf
    rw [flows] at hf
    obtain ⟨g, hg, rfl⟩ := List.mem_map.1 hf
    exact next.flows_issued g hg
  · have ids : (d.realm.changeExecution id change).executionIds = d.realm.executionIds := by
      rw [RealmFlows.executionIds, executions, List.map_map]
      exact List.map_congr_left fun x _ => kept x
    exact ids ▸ h.executions_nodup
  · intro y hy
    rw [executions] at hy
    obtain ⟨x, hx, rfl⟩ := List.mem_map.1 hy
    rw [kept]
    exact next.executions_issued x hx
  · intro y hy c hc
    rw [executions] at hy
    obtain ⟨x, hx, rfl⟩ := List.mem_map.1 hy
    split at hc
    · rcases hconfig x with same | ⟨c', bound, given⟩
      · exact next.configs_issued x hx c (same ▸ hc)
      · rw [bound] at hc
        cases hc
        exact given
    · exact next.configs_issued x hx c hc
  · exact next.kept_issued

theorem Numbered.atExecution {id : NodeId} {change : RealmFlows → RealmFlows} {d' : FlowDesk}
    (done : d.atExecution id change = .ok d')
    (hchange : Numbered ⟨change d.realm, d.issued⟩) : d'.Numbered := by
  unfold FlowDesk.atExecution at done
  split at done
  · cases done
    exact hchange
  · cases done

/-- What a request that may be refused leaves behind is numbered if every success is. -/
theorem Numbered.settle (h : d.Numbered) {result : Except Error FlowDesk}
    (done : ∀ d', result = .ok d' → d'.Numbered) : (d.settle result).2.Numbered := by
  cases result with
  | ok d' => exact done d' rfl
  | error e => exact h

theorem Numbered.deleteFlow (h : d.Numbered) {flowId : String} {d' : FlowDesk}
    (done : d.deleteFlow flowId = .ok d') : d'.Numbered := by
  unfold FlowDesk.deleteFlow at done
  split at done
  · cases done
  · cases done
    exact h.removeFlows _

theorem Numbered.addSubflow (h : d.Numbered) {parent aliasName : String} {kind : FlowKind}
    {d' : FlowDesk} (done : d.addSubflow parent aliasName kind = .ok d') : d'.Numbered := by
  unfold FlowDesk.addSubflow at done
  split at done
  · cases done
  split at done
  · cases done
    have flow := h.addFlow (Nat.lt_succ_self _)
      ⟨identifier "flow" (d.issued + 1), aliasName, "", kind, false, false, []⟩ rfl rfl
    exact flow.addExecution (Nat.lt_succ_self _) _ _ rfl rfl
  · cases done

theorem Numbered.createConfig (h : d.Numbered) {id : NodeId} {config : AuthenticatorConfig}
    {d' : FlowDesk} (done : d.createConfig id config = .ok d') : d'.Numbered := by
  unfold FlowDesk.createConfig at done
  split at done
  · cases done
    have changed := h.changeExecution (Nat.le_succ d.issued) id.text
      (fun x => { x with configId := some (identifier "config" (d.issued + 1)) })
      (fun _ => rfl)
      fun _ => .inr ⟨_, rfl, isNumbered_identifier (Nat.succ_pos _) (Nat.le_refl _)⟩
    refine ⟨changed.1, changed.2, changed.3, changed.4, changed.5, ?_⟩
    intro c kept hc
    rw [KeyMap.get?_insert] at hc
    split at hc
    · next same =>
      rw [← same]
      exact isNumbered_identifier (Nat.succ_pos _) (Nat.le_refl _)
    · exact changed.kept_issued c kept hc
  · cases done

/-- Every request keeps identifiers apart. -/
theorem Numbered.serve (h : d.Numbered) (op : Remote.Op) : (d.serve op).2.Numbered := by
  cases op with
  | createFlow aliasName description kind => exact h.createFlow aliasName description kind
  | copyFlow source dest =>
    simp only [FlowDesk.serve]
    cases copied : d.copyFlow source dest with
    | ok result => exact h.copyFlow copied
    | error e => exact h
  | listFlows => exact h
  | deleteFlow flowId => exact h.settle fun _ done => h.deleteFlow done
  | listExecutions aliasName => exact h
  | addExecution parent provider =>
    simp only [FlowDesk.serve, FlowDesk.addExecution]
    split
    · exact h.addExecution (Nat.lt_succ_self _) _ _ rfl rfl
    · exact h.later (Nat.le_succ _)
  | addSubflow parent aliasName kind => exact h.settle fun _ done => h.addSubflow done
  | updateExecution parent row =>
    refine h.settle fun _ done => .atExecution done ?_
    exact h.changeExecution (Nat.le_refl _) _ _ (fun _ => rfl) fun _ => .inl rfl
  | raisePriority id =>
    refine h.settle fun _ done => .atExecution done (h.of_perm ?_ ?_ rfl)
    · exact map_changeFirst fun _ _ _ => rfl
    · exact RealmFlows.executions_changeAround_perm _ (RealmFlows.raised_perm _)
  | lowerPriority id =>
    refine h.settle fun _ done => .atExecution done (h.of_perm ?_ ?_ rfl)
    · exact map_changeFirst fun _ _ _ => rfl
    · exact RealmFlows.executions_changeAround_perm _ (RealmFlows.lowered_perm _)
  | createConfig id config => exact h.settle fun _ done => h.createConfig done
  | getConfig configId => exact h
  | bindBrowserFlow aliasName =>
    refine h.settle fun d' done => ?_
    unfold FlowDesk.bindBrowserFlow at done
    split at done
    · cases done
      exact h.of_perm rfl (List.Perm.refl _) rfl
    · cases done
  | browserFlow => exact h

theorem issued_le_settle (d : FlowDesk) {result : Except Error FlowDesk}
    (done : ∀ d', result = .ok d' → d.issued ≤ d'.issued) : d.issued ≤ (d.settle result).2.issued := by
  cases result with
  | ok d' => exact done d' rfl
  | error e => exact Nat.le_refl _

theorem issued_atExecution {id : NodeId} {change : RealmFlows → RealmFlows} {d' : FlowDesk}
    (done : d.atExecution id change = .ok d') : d.issued = d'.issued := by
  unfold FlowDesk.atExecution at done
  split at done
  · cases done
    rfl
  · cases done

/-- No identifier is taken back. -/
theorem issued_le_serve (d : FlowDesk) (op : Remote.Op) : d.issued ≤ (d.serve op).2.issued := by
  cases op with
  | createFlow aliasName description kind =>
    simp only [FlowDesk.serve, FlowDesk.createFlow]
    split <;> simp
  | copyFlow source dest =>
    simp only [FlowDesk.serve, FlowDesk.copyFlow]
    by_cases taken : d.realm.hasFlow dest = true
    · simp [taken]
    · by_cases known : d.realm.hasFlow source = true <;> simp [taken, known]
  | deleteFlow flowId =>
    refine d.issued_le_settle fun d' done => ?_
    unfold FlowDesk.deleteFlow at done
    split at done <;> cases done
    exact Nat.le_refl _
  | addExecution parent provider =>
    simp only [FlowDesk.serve, FlowDesk.addExecution]
    split <;> simp
  | addSubflow parent aliasName kind =>
    refine d.issued_le_settle fun d' done => ?_
    unfold FlowDesk.addSubflow at done
    split at done <;> try split at done
    all_goals cases done
    exact Nat.le_add_right _ 2
  | updateExecution parent row =>
    exact d.issued_le_settle fun d' done => Nat.le_of_eq (issued_atExecution done)
  | raisePriority id => exact d.issued_le_settle fun d' done => Nat.le_of_eq (issued_atExecution done)
  | lowerPriority id => exact d.issued_le_settle fun d' done => Nat.le_of_eq (issued_atExecution done)
  | createConfig id config =>
    refine d.issued_le_settle fun d' done => ?_
    unfold FlowDesk.createConfig at done
    split at done <;> cases done
    exact Nat.le_succ _
  | bindBrowserFlow aliasName =>
    refine d.issued_le_settle fun d' done => ?_
    unfold FlowDesk.bindBrowserFlow at done
    split at done <;> cases done
    exact Nat.le_refl _
  | _ => exact Nat.le_refl _

end FlowDesk

/-! ## Servers -/

namespace MemoryServer

/-- A server that requests have led to. -/
inductive Reached : MemoryServer → Prop
  /-- One that was not asked anything yet, with or without the stock flows. -/
  | start (stock : Bool) : Reached (.start stock)
  /-- One that answered a request more. -/
  | serve {s : MemoryServer} (reached : Reached s) (c : Remote.Call) : Reached (s.serve c).2

theorem desk_serve (s : MemoryServer) (c : Remote.Call) (realm : String) :
    (s.serve c).2.desk realm =
      if realm = c.realm then ((s.desk c.realm).serve c.op).2
      else match s.realms.get? realm with
        | some r => ⟨r, ((s.desk c.realm).serve c.op).2.issued⟩
        | none => .fresh s.stock ((s.desk c.realm).serve c.op).2.issued := by
  simp only [MemoryServer.serve, desk, KeyMap.get?_insert]
  by_cases same : realm = c.realm
  · rw [if_pos same.symm, if_pos same]
  · cases s.realms.get? realm <;> simp only [if_neg (Ne.symm same), if_neg same]

theorem issued_le_desk (s : MemoryServer) (realm : String) : s.issued ≤ (s.desk realm).issued := by
  unfold desk
  split
  · exact Nat.le_refl _
  · cases s.stock <;> simp [FlowDesk.fresh]

/-- In every realm of a server identifiers are told apart. -/
theorem Reached.numbered {s : MemoryServer} (h : s.Reached) (realm : String) :
    (s.desk realm).Numbered := by
  induction h generalizing realm with
  | start stock => exact FlowDesk.numbered_fresh stock 0
  | @serve s reached c ih =>
    rw [desk_serve]
    split
    · exact (ih c.realm).serve c.op
    · -- Another realm keeps its identifiers, or begins with those that come next.
      have grown : s.issued ≤ ((s.desk c.realm).serve c.op).2.issued :=
        Nat.le_trans (s.issued_le_desk c.realm) (FlowDesk.issued_le_serve _ c.op)
      have known := ih realm
      unfold desk at known
      cases found : s.realms.get? realm with
      | none => exact FlowDesk.numbered_fresh s.stock _
      | some r =>
        rw [found] at known
        exact known.later grown

/-- Nothing has an identifier, neither in a realm as a request finds it nor in any other. -/
def Unused (s : MemoryServer) (ids : RealmFlows → List String) (realm id : String) : Prop :=
  id ∉ ids (s.desk realm).realm ∧ ∀ other r, s.realms.get? other = some r → id ∉ ids r

/-- Another realm has its identifiers from before. -/
theorem Reached.numbered_of_get? {s : MemoryServer} (h : s.Reached) {realm : String} {r : RealmFlows}
    (found : s.realms.get? realm = some r) : FlowDesk.Numbered ⟨r, s.issued⟩ := by
  have numbered := h.numbered realm
  unfold desk at numbered
  rwa [found] at numbered

/-- What comes next in the sequence is the identifier of no execution. -/
theorem Reached.unused_execution {s : MemoryServer} (h : s.Reached) {realm id : String} {high : Nat}
    (next : IsNumbered "exec" (s.desk realm).issued high id) :
    s.Unused RealmFlows.executionIds realm id := by
  obtain ⟨n, above, -, rfl⟩ := next
  exact ⟨(h.numbered realm).fresh_execution above, fun other r found =>
    (h.numbered_of_get? found).fresh_execution (Nat.lt_of_le_of_lt (s.issued_le_desk realm) above)⟩

/-- What comes next in the sequence is the identifier of no flow. -/
theorem Reached.unused_flow {s : MemoryServer} (h : s.Reached) {realm id : String} {high : Nat}
    (next : IsNumbered "flow" (s.desk realm).issued high id) :
    s.Unused RealmFlows.flowIds realm id := by
  obtain ⟨n, above, -, rfl⟩ := next
  exact ⟨(h.numbered realm).fresh_flow above, fun other r found =>
    (h.numbered_of_get? found).fresh_flow (Nat.lt_of_le_of_lt (s.issued_le_desk realm) above)⟩

end MemoryServer

end RealmSetup
