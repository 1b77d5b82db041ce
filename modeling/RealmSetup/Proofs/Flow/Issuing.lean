import RealmSetup.Proofs.Flow.Locating
import RealmSetup.Proofs.Flow.Shapes

/-!
# Identifiers are given out once

All identifiers of a server come from one sequence of numbers, whatever they are of and whichever realm
they are for; an identifier tells its number (`identifier_eq_iff`).  A request takes the next numbers, as
many as it needs, and what comes into use through it has one of these (`FlowDesk.uses_serve`).  So
identifiers that are in use, in any realm, are from before (`MemoryServer.Reached.isIssued`), and those
that a request gives out were never given out, whatever became of what carried the earlier ones
(`MemoryServer.identifiers_given_out_once`).
-/

namespace RealmSetup

/-! ## Numbers -/

/-- What identifiers are given to. -/
def identifierSorts : List String := ["flow", "exec", "config"]

theorem head?_identifier {sort : String} (known : sort ∈ identifierSorts) (n : Nat) :
    (identifier sort n).toList.head? = sort.toList.head? := by
  simp only [identifierSorts, List.mem_cons, List.not_mem_nil, or_false] at known
  rcases known with rfl | rfl | rfl <;> simp [identifier]

/-- An identifier tells what it was given to, and its number. -/
theorem identifier_eq_iff {sort sort' : String} (known : sort ∈ identifierSorts)
    (known' : sort' ∈ identifierSorts) {m n : Nat} :
    identifier sort m = identifier sort' n ↔ sort = sort' ∧ m = n := by
  constructor
  · intro same
    have first : sort.toList.head? = sort'.toList.head? := by
      rw [← head?_identifier known m, ← head?_identifier known' n, same]
    have sorts : ∀ s ∈ identifierSorts, ∀ s' ∈ identifierSorts,
        s.toList.head? = s'.toList.head? → s = s' := by decide
    obtain rfl := sorts sort known sort' known' first
    exact ⟨rfl, identifier_inj.1 same⟩
  · rintro ⟨rfl, rfl⟩
    rfl

/-- An identifier with a number above `low` and up to `high`. -/
def IsIssued (low high : Nat) (id : String) : Prop :=
  ∃ sort ∈ identifierSorts, IsNumbered sort low high id

theorem IsNumbered.isIssued {sort id : String} {low high : Nat} (h : IsNumbered sort low high id)
    (known : sort ∈ identifierSorts) : IsIssued low high id :=
  ⟨sort, known, h⟩

theorem isIssued_identifier {sort : String} (known : sort ∈ identifierSorts) {low high n : Nat}
    (hlow : low < n) (hhigh : n ≤ high) : IsIssued low high (identifier sort n) :=
  (isNumbered_identifier hlow hhigh).isIssued known

theorem IsIssued.mono {low high low' high' : Nat} {id : String} (h : IsIssued low high id)
    (hlow : low' ≤ low) (hhigh : high ≤ high') : IsIssued low' high' id := by
  obtain ⟨sort, known, numbered⟩ := h
  exact ⟨sort, known, numbered.mono hlow hhigh⟩

/-- An identifier is from one stretch of the sequence only. -/
theorem IsIssued.not_later {low middle middle' high : Nat} {id : String} (h : IsIssued low middle id)
    (apart : middle ≤ middle') : ¬IsIssued middle' high id := by
  rintro ⟨sort', known', n, above, -, rfl⟩
  obtain ⟨sort, known, m, -, upto, same⟩ := h
  obtain ⟨-, rfl⟩ := (identifier_eq_iff known' known).1 same
  omega

/-! ## Identifiers in use -/

/-- An identifier is that of a flow, of an execution or of a configuration. -/
def RealmFlows.Uses (r : RealmFlows) (id : String) : Prop :=
  id ∈ r.flowIds ∨ id ∈ r.executionIds ∨ ∃ config, r.configs.get? id = some config

namespace RealmFlows

variable {r r' : RealmFlows} {id : String}

theorem Uses.of_subset (h : r'.Uses id) (flows : r'.flowIds ⊆ r.flowIds)
    (executions : r'.executionIds ⊆ r.executionIds) (configs : r'.configs = r.configs) : r.Uses id :=
  h.imp (flows ·) (Or.imp (executions ·) (configs ▸ ·))

theorem flowIds_addFlow (f : FlowRecord) : (r.addFlow f).flowIds = r.flowIds ++ [f.id] :=
  List.map_append

theorem uses_addFlow {f : FlowRecord} (empty : f.executions = []) (h : (r.addFlow f).Uses id) :
    r.Uses id ∨ id = f.id := by
  rcases h with flow | execution | config
  · rw [flowIds_addFlow, List.mem_append, List.mem_singleton] at flow
    exact flow.imp_left .inl
  · rw [executionIds, executions_addFlow, empty, List.append_nil] at execution
    exact .inl (.inr (.inl execution))
  · exact .inl (.inr (.inr config))

theorem flowIds_addExecution (p : String) (x : FlowExecution) :
    (r.addExecution p x).flowIds = r.flowIds :=
  map_changeFirst fun _ _ _ => rfl

theorem uses_addExecution {p : String} {x : FlowExecution} (there : r.hasFlow p = true)
    (h : (r.addExecution p x).Uses id) : r.Uses id ∨ id = x.id := by
  rcases h with flow | execution | config
  · exact .inl (.inl (flowIds_addExecution p x ▸ flow))
  · have ids := ((executions_addExecution_perm p x there).map FlowExecution.id).subset execution
    rw [List.map_append, List.mem_append, List.map_singleton, List.mem_singleton] at ids
    exact ids.imp_left fun before => .inr (.inl before)
  · exact .inl (.inr (.inr config))

theorem uses_removeFlows {aliases : List String} (h : (r.removeFlows aliases).Uses id) : r.Uses id := by
  have fewer : (r.removeFlows aliases).flows.Sublist r.flows := List.filter_sublist
  exact h.of_subset (fewer.map _).subset ((fewer.flatMap _).map _).subset rfl

/-- A change around an execution that only permutes uses no other identifiers. -/
theorem uses_changeAround {around : String} {change : List FlowExecution → List FlowExecution}
    (perm : ∀ xs, (change xs).Perm xs) (h : (r.changeAround around change).Uses id) : r.Uses id := by
  have flows : (r.changeAround around change).flowIds = r.flowIds := map_changeFirst fun _ _ _ => rfl
  exact h.of_subset (flows ▸ List.Subset.refl _)
    ((executions_changeAround_perm around perm).map _).subset rfl

theorem executionIds_changeExecution (apart : r.executionIds.Nodup) (changed : String)
    {change : FlowExecution → FlowExecution} (same : ∀ x, (change x).id = x.id) :
    (r.changeExecution changed change).executionIds = r.executionIds := by
  rw [executionIds, executions_changeExecution changed change apart, List.map_map]
  refine List.map_congr_left fun x _ => ?_
  rw [Function.comp_apply]
  split
  · exact same x
  · rfl

theorem uses_changeExecution (apart : r.executionIds.Nodup) {changed : String}
    {change : FlowExecution → FlowExecution} (same : ∀ x, (change x).id = x.id)
    (h : (r.changeExecution changed change).Uses id) : r.Uses id := by
  have flows : (r.changeExecution changed change).flowIds = r.flowIds :=
    map_changeFirst fun _ _ _ => rfl
  exact h.of_subset (flows ▸ List.Subset.refl _)
    (executionIds_changeExecution apart changed same ▸ List.Subset.refl _) rfl

theorem uses_keepConfig {kept : String} {config : AuthenticatorConfig}
    (h : (r.keepConfig kept config).Uses id) : r.Uses id ∨ id = kept := by
  rcases h with flow | execution | ⟨config', found⟩
  · exact .inl (.inl flow)
  · exact .inl (.inr (.inl execution))
  · rw [keepConfig, KeyMap.get?_insert] at found
    split at found
    · next same => exact .inr same.symm
    · exact .inl (.inr (.inr ⟨config', found⟩))

end RealmFlows

/-! ## What a request brings into use -/

namespace FlowDesk

variable {d : FlowDesk} {id : String}

/-- What is in use in a realm was given out. -/
theorem Numbered.isIssued (h : d.Numbered) (uses : d.realm.Uses id) : IsIssued 0 d.issued id := by
  rcases uses with flow | execution | ⟨config, kept⟩
  · obtain ⟨f, hf, rfl⟩ := List.mem_map.1 flow
    exact (h.flows_issued f hf).isIssued (by decide)
  · obtain ⟨x, hx, rfl⟩ := List.mem_map.1 execution
    exact (h.executions_issued x hx).isIssued (by decide)
  · exact (h.kept_issued id config kept).isIssued (by decide)

theorem uses_fresh {stock : Bool} {issued : Nat} (uses : (fresh stock issued).realm.Uses id) :
    IsIssued issued (fresh stock issued).issued id := by
  cases stock with
  | false => simp [fresh, RealmFlows.empty, RealmFlows.Uses, RealmFlows.flowIds, RealmFlows.executionIds,
      RealmFlows.executions] at uses
  | true =>
    show IsIssued issued (issued + 11) id
    rcases uses with flow | execution | ⟨config, kept⟩
    · simp only [RealmFlows.flowIds, fresh, if_true, stockBrowser, stockForms, stockOtp, List.map_cons,
        List.map_nil, List.mem_cons, List.not_mem_nil, or_false] at flow
      rcases flow with rfl | rfl | rfl <;> exact isIssued_identifier (by decide) (by omega) (by omega)
    · simp only [RealmFlows.executionIds, RealmFlows.executions, fresh, if_true, stockBrowser, stockForms,
        stockOtp, stockExecutions, List.zipIdx_cons, List.zipIdx_nil, List.flatMap_cons,
        List.flatMap_nil, List.map_cons, List.map_nil, List.map_append, List.mem_append, List.mem_cons,
        List.not_mem_nil, or_false] at execution
      rcases execution with (rfl | rfl | rfl | rfl) | (rfl | rfl) | (rfl | rfl) <;>
        exact isIssued_identifier (by decide) (by omega) (by omega)
    · cases kept

theorem uses_copyFlow {source dest : String} {creation : Creation} {d' : FlowDesk}
    (copied : d.copyFlow source dest = .ok (creation, d')) (uses : d'.realm.Uses id) :
    d.realm.Uses id ∨ IsIssued d.issued d'.issued id := by
  unfold copyFlow at copied
  split at copied
  · cases copied
    exact .inl uses
  split at copied
  · cases copied
    rcases uses with flow | execution | config
    · rw [RealmFlows.flowIds, List.map_append, List.mem_append] at flow
      refine flow.imp .inl fun copy => ?_
      obtain ⟨f, hf, rfl⟩ := List.mem_map.1 copy
      obtain ⟨g, -, n, above, upto, rfl⟩ := mem_copyRecords hf
      exact (isNumbered_copyRecord_id above upto).isIssued (by decide)
    · rw [RealmFlows.executionIds, RealmFlows.executions, List.flatMap_append, List.map_append,
        List.mem_append] at execution
      refine execution.imp (fun before => .inr (.inl before)) fun copy => ?_
      obtain ⟨x, hx, rfl⟩ := List.mem_map.1 copy
      obtain ⟨f, hf, hxf⟩ := List.mem_flatMap.1 hx
      obtain ⟨g, -, n, above, upto, rfl⟩ := mem_copyRecords hf
      exact (isNumbered_copyRecord_executions above upto (List.mem_map_of_mem hxf)).isIssued (by decide)
    · exact .inl (.inr (.inr config))
  · cases copied

theorem uses_addSubflow {parent aliasName : String} {kind : FlowKind} {d' : FlowDesk}
    (added : d.addSubflow parent aliasName kind = .ok d') (uses : d'.realm.Uses id) :
    d.realm.Uses id ∨ IsIssued d.issued d'.issued id := by
  unfold addSubflow at added
  split at added
  · cases added
  split at added
  · next there =>
    cases added
    have known : (d.realm.addFlow
        ⟨identifier "flow" (d.issued + 1), aliasName, "", kind, false, false, []⟩).hasFlow parent =
          true := by
      rw [RealmFlows.hasFlow_addFlow, there, Bool.true_or]
    rcases RealmFlows.uses_addExecution known uses with before | rfl
    · refine (RealmFlows.uses_addFlow rfl before).imp_right ?_
      rintro rfl
      exact isIssued_identifier (by decide) (Nat.lt_succ_self _) (Nat.le_succ _)
    · exact .inr (isIssued_identifier (by decide) (Nat.lt_add_of_pos_right Nat.two_pos) (Nat.le_refl _))
  · cases added

theorem uses_createConfig (h : d.Numbered) {node : NodeId} {config : AuthenticatorConfig}
    {d' : FlowDesk} (created : d.createConfig node config = .ok d') (uses : d'.realm.Uses id) :
    d.realm.Uses id ∨ IsIssued d.issued d'.issued id := by
  unfold createConfig at created
  split at created
  · cases created
    rcases RealmFlows.uses_keepConfig uses with before | rfl
    · exact .inl (RealmFlows.uses_changeExecution h.executions_nodup (by exact fun _ => rfl) before)
    · exact .inr (isIssued_identifier (by decide) (Nat.lt_succ_self _) (Nat.le_refl _))
  · cases created

/-- What comes into use in a change that may be refused does so when it is made. -/
theorem uses_settle {result : Except Error FlowDesk}
    (done : ∀ d', result = .ok d' → d'.realm.Uses id → d.realm.Uses id ∨ IsIssued d.issued d'.issued id)
    (uses : (d.settle result).2.realm.Uses id) :
    d.realm.Uses id ∨ IsIssued d.issued (d.settle result).2.issued id := by
  cases result with
  | ok d' => exact done d' rfl uses
  | error e => exact .inl uses

theorem uses_atExecution {node : NodeId} {change : RealmFlows → RealmFlows} {d' : FlowDesk}
    (done : d.atExecution node change = .ok d') (kept : (change d.realm).Uses id → d.realm.Uses id)
    (uses : d'.realm.Uses id) : d.realm.Uses id ∨ IsIssued d.issued d'.issued id := by
  unfold atExecution at done
  split at done
  · cases done
    exact .inl (kept uses)
  · cases done

/-- What comes into use through a request has one of the numbers that the request takes. -/
theorem uses_serve (h : d.Numbered) (op : Remote.Op) (uses : (d.serve op).2.realm.Uses id) :
    d.realm.Uses id ∨ IsIssued d.issued (d.serve op).2.issued id := by
  cases op with
  | createFlow aliasName description kind =>
    simp only [FlowDesk.serve, FlowDesk.createFlow] at uses ⊢
    split at uses
    · exact .inl uses
    · next free =>
      rw [if_neg free]
      refine (RealmFlows.uses_addFlow rfl uses).imp_right ?_
      rintro rfl
      exact isIssued_identifier (by decide) (Nat.lt_succ_self _) (Nat.le_refl _)
  | copyFlow source dest =>
    simp only [FlowDesk.serve] at uses ⊢
    cases copied : d.copyFlow source dest with
    | ok result =>
      rw [copied] at uses
      exact uses_copyFlow copied uses
    | error e =>
      rw [copied] at uses
      exact .inl uses
  | deleteFlow flowId =>
    refine uses_settle (fun d' done uses => ?_) uses
    unfold FlowDesk.deleteFlow at done
    split at done
    · cases done
    · cases done
      exact .inl (RealmFlows.uses_removeFlows uses)
  | addExecution parent provider =>
    simp only [FlowDesk.serve, FlowDesk.addExecution] at uses ⊢
    split at uses
    · next there =>
      rw [if_pos there]
      refine (RealmFlows.uses_addExecution there uses).imp_right ?_
      rintro rfl
      exact isIssued_identifier (by decide) (Nat.lt_succ_self _) (Nat.le_refl _)
    · exact .inl uses
  | addSubflow parent aliasName kind => exact uses_settle (fun _ => uses_addSubflow) uses
  | updateExecution parent row =>
    exact uses_settle (fun _ done => uses_atExecution done
      (RealmFlows.uses_changeExecution h.executions_nodup fun _ => rfl)) uses
  | raisePriority node =>
    exact uses_settle (fun _ done => uses_atExecution done
      (RealmFlows.uses_changeAround (RealmFlows.raised_perm _))) uses
  | lowerPriority node =>
    exact uses_settle (fun _ done => uses_atExecution done
      (RealmFlows.uses_changeAround (RealmFlows.lowered_perm _))) uses
  | createConfig node config => exact uses_settle (fun _ => uses_createConfig h) uses
  | bindBrowserFlow aliasName =>
    refine uses_settle (fun d' done uses => ?_) uses
    unfold FlowDesk.bindBrowserFlow at done
    split at done
    · cases done
      exact .inl uses
    · cases done
  | _ => exact .inl uses

end FlowDesk

/-! ## Servers -/

namespace MemoryServer

variable {s : MemoryServer} {c : Remote.Call} {realm realm' id : String}

/-- An identifier is in use in a realm that was asked about. -/
def UsesIn (s : MemoryServer) (realm id : String) : Prop :=
  ∃ r, s.realms.get? realm = some r ∧ r.Uses id

/-- An identifier is in use in some realm. -/
def Uses (s : MemoryServer) (id : String) : Prop := ∃ realm, s.UsesIn realm id

/-- An identifier has one of the numbers that a request takes. -/
def Issues (s : MemoryServer) (c : Remote.Call) (id : String) : Prop :=
  IsIssued s.issued (s.serve c).2.issued id

theorem issued_le_serve (s : MemoryServer) (c : Remote.Call) : s.issued ≤ (s.serve c).2.issued :=
  Nat.le_trans (s.issued_le_desk c.realm) (FlowDesk.issued_le_serve _ c.op)

theorem issued_le_after (s : MemoryServer) (calls : List Remote.Call) :
    s.issued ≤ (s.after calls).issued := by
  induction calls generalizing s with
  | nil => exact Nat.le_refl _
  | cons c calls ih => exact Nat.le_trans (s.issued_le_serve c) (ih _)

theorem Reached.isIssued (h : s.Reached) (uses : s.UsesIn realm id) : IsIssued 0 s.issued id := by
  obtain ⟨r, found, uses⟩ := uses
  exact (h.numbered_of_get? found).isIssued uses

/-- What comes into use through a request does so in its realm, and the request gives it out. -/
theorem Reached.usesIn_serve (h : s.Reached) (uses : (s.serve c).2.UsesIn realm id) :
    s.UsesIn realm id ∨ realm = c.realm ∧ s.Issues c id := by
  obtain ⟨r, found, uses⟩ := uses
  rw [MemoryServer.serve, KeyMap.get?_insert] at found
  split at found
  · next same =>
    obtain rfl := same
    obtain rfl := Option.some.inj found
    have taken := FlowDesk.issued_le_serve (s.desk c.realm) c.op
    rcases FlowDesk.uses_serve (h.numbered c.realm) c.op uses with before | issued
    · unfold desk at before taken
      cases known : s.realms.get? c.realm with
      | some r =>
        rw [known] at before
        exact .inl ⟨r, known, before⟩
      | none =>
        -- The realm comes into being, and its stock flows take numbers, too.
        rw [known] at before taken
        have issued := (FlowDesk.uses_fresh before).mono (Nat.le_refl _) taken
        refine .inr ⟨rfl, ?_⟩
        rwa [Issues, MemoryServer.serve, desk, known]
    · exact .inr ⟨rfl, issued.mono (s.issued_le_desk c.realm) (Nat.le_refl _)⟩
  · exact .inl ⟨r, found, uses⟩

/-- An identifier is in use in one realm only. -/
theorem Reached.usesIn_unique (h : s.Reached) (uses : s.UsesIn realm id)
    (uses' : s.UsesIn realm' id) : realm = realm' := by
  induction h with
  | start stock =>
    obtain ⟨r, found, -⟩ := uses
    cases found
  | serve reached c ih =>
    rcases reached.usesIn_serve uses with before | ⟨rfl, issued⟩ <;>
      rcases reached.usesIn_serve uses' with before' | ⟨rfl, issued'⟩
    · exact ih before before'
    · exact absurd issued' ((reached.isIssued before).not_later (Nat.le_refl _))
    · exact absurd issued ((reached.isIssued before').not_later (Nat.le_refl _))
    · rfl

/-- Identifiers tell executions and flows of all realms apart. -/
structure TellsApart (s : MemoryServer) : Prop where
  /-- An execution of a flow of a realm has its identifier for itself. -/
  executions {realm realm' : String} {r r' : RealmFlows} {i i' p p' : Nat} {x x' : FlowExecution}
    (found : s.realms.get? realm = some r) (found' : s.realms.get? realm' = some r')
    (here : r.executionAt? i p = some x) (there : r'.executionAt? i' p' = some x')
    (same : x.id = x'.id) : realm = realm' ∧ i = i' ∧ p = p'
  /-- So does a flow of a realm. -/
  flows {realm realm' : String} {r r' : RealmFlows} {i i' : Nat} {f f' : FlowRecord}
    (found : s.realms.get? realm = some r) (found' : s.realms.get? realm' = some r')
    (here : r.flows[i]? = some f) (there : r'.flows[i']? = some f') (same : f.id = f'.id) :
    realm = realm' ∧ i = i'
  /-- The execution with an identifier is located, and nothing else. -/
  located {realm : String} {r : RealmFlows} (found : s.realms.get? realm = some r) (id : String)
    (i p : Nat) : r.locate? id = some (i, p) ↔ ∃ x, r.executionAt? i p = some x ∧ x.id = id

theorem Reached.tellsApart (h : s.Reached) : s.TellsApart where
  executions found found' here there same := by
    have uses := RealmFlows.mem_executions_of_executionAt? here
    have uses' := RealmFlows.mem_executions_of_executionAt? there
    obtain rfl := h.usesIn_unique ⟨_, found, .inr (.inl (List.mem_map_of_mem uses))⟩
      ⟨_, found', .inr (.inl (same ▸ List.mem_map_of_mem uses'))⟩
    cases found.symm.trans found'
    exact ⟨rfl, RealmFlows.place_unique (h.numbered_of_get? found).executions_nodup here there same⟩
  flows {realm realm' r r' i i' f f'} found found' here there same := by
    obtain rfl := h.usesIn_unique
      ⟨_, found, .inl (List.mem_map_of_mem (List.mem_of_getElem? here))⟩
      ⟨_, found', .inl (same ▸ List.mem_map_of_mem (List.mem_of_getElem? there))⟩
    cases found.symm.trans found'
    refine ⟨rfl, (List.getElem?_inj ?_ (h.numbered_of_get? found).flows_nodup).1 ?_⟩
    · rw [List.length_map]
      exact (List.getElem?_eq_some_iff.1 here).1
    · rw [List.getElem?_map, List.getElem?_map, here, there, Option.map_some, Option.map_some, same]
  located found _ _ _ :=
    RealmFlows.locate?_eq_some_iff (h.numbered_of_get? found).executions_nodup

/-- Through any requests to any realms, identifiers tell executions and flows apart.  What comes into use
through one more request is given out by it, and was neither in use at any time before nor given out by
any of the requests. -/
theorem identifiers_given_out_once (stock : Bool) (calls : List Remote.Call) :
    let s := (start stock).after calls
    s.TellsApart ∧ (∀ c id, (s.serve c).2.Uses id → s.Uses id ∨ s.Issues c id) ∧
      ∀ c id, s.Issues c id → ∀ earlier, earlier <+: calls →
        ¬((start stock).after earlier).Uses id ∧
        ∀ c', earlier ++ [c'] <+: calls → ¬((start stock).after earlier).Issues c' id := by
  have begins : (start stock).Reached := .start stock
  refine ⟨(begins.after calls).tellsApart, ?_, ?_⟩
  · rintro c id ⟨realm, uses⟩
    exact ((begins.after calls).usesIn_serve uses).imp (⟨realm, ·⟩) And.right
  · rintro c id issues earlier ⟨later, rfl⟩
    have between : ((start stock).after earlier).issued ≤ ((start stock).after (earlier ++ later)).issued := by
      rw [after, after, List.foldl_append]
      exact issued_le_after _ later
    refine ⟨?_, ?_⟩
    · rintro ⟨realm, uses⟩
      exact ((begins.after earlier).isIssued uses).not_later between issues
    · rintro c' ⟨rest, same⟩ issues'
      obtain rfl : c' :: rest = later := by simpa using same
      have next : (((start stock).after earlier).serve c').2.issued ≤
          ((start stock).after (earlier ++ c' :: rest)).issued := by
        rw [after, after, List.foldl_append]
        exact issued_le_after _ rest
      exact issues'.not_later next issues

/-- The identifier of a flow that was deleted is not given out to another one. -/
theorem identifiers_given_out_once_afterDeletion :
    let create : Remote.Call := ⟨"acme", .createFlow "login" "" .basic⟩
    let s := (start false).after [create, ⟨"acme", .deleteFlow "flow-1"⟩]
    (start false).Issues create "flow-1" ∧ ((start false).serve create).2.Uses "flow-1" ∧
      ¬s.Issues create "flow-1" ∧ s.Issues create "flow-2" := by
  intro create s
  have first : (start false).Issues create "flow-1" :=
    ⟨"flow", by decide, 1, by decide +kernel, by decide +kernel, by decide +kernel⟩
  have once := (identifiers_given_out_once false
    [create, ⟨"acme", .deleteFlow "flow-1"⟩]).2.2 create "flow-1"
  refine ⟨first, ⟨"acme", _, rfl, .inl ?_⟩, fun again => ?_, ?_⟩
  · decide +kernel
  · exact (once again [] List.nil_prefix).2 create (List.prefix_append _ _) first
  · exact ⟨"flow", by decide, 2, by decide +kernel, by decide +kernel, by decide +kernel⟩

end MemoryServer

end RealmSetup
