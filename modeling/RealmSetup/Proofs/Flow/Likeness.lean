import Mathlib.Data.List.Forall2
import RealmSetup.Proofs.Flow.Planting

/-!
# Realms that are alike but for identifiers

Two runs of one construction give out different identifiers.  `RealmFlows.Alike` says that realms have
the same flows in the same order, with the same executions and with configurations of the same content,
whatever their identifiers; `Alike.listing` that every listing then reads the same.  Requests keep realms
alike (`Alike.createFlow`, `Alike.copyFlow`), and so do extensions, which succeed in both or in neither
(`Alike.plants`).
-/

namespace RealmSetup

/-! ## Lists that are related one by one -/

section Forall₂

variable {α β : Type} {R : α → β → Prop}

theorem forall₂_of_mem {S : α → β → Prop} {l : List α} {m : List β} (h : List.Forall₂ R l m)
    (imp : ∀ a ∈ l, ∀ b ∈ m, R a b → S a b) : List.Forall₂ S l m := by
  induction h with
  | nil => exact .nil
  | cons here _ ih =>
    refine .cons (imp _ List.mem_cons_self _ List.mem_cons_self here) (ih fun a ha b hb => ?_)
    exact imp a (List.mem_cons_of_mem _ ha) b (List.mem_cons_of_mem _ hb)

theorem forall₂_find? {p : α → Bool} {q : β → Bool} (same : ∀ a b, R a b → p a = q b) {l : List α}
    {m : List β} (h : List.Forall₂ R l m) : Option.Rel R (l.find? p) (m.find? q) := by
  induction h with
  | nil => exact .none
  | @cons a b l m here _ ih =>
    rw [List.find?_cons, List.find?_cons, ← same a b here]
    cases p a with
    | true => exact .some here
    | false => exact ih

theorem forall₂_changeFirst {p : α → Bool} {q : β → Bool} {f : α → α} {g : β → β}
    (same : ∀ a b, R a b → p a = q b) (changes : ∀ a b, R a b → R (f a) (g b)) {l : List α}
    {m : List β} (h : List.Forall₂ R l m) :
    List.Forall₂ R (changeFirst p f l) (changeFirst q g m) := by
  induction h with
  | nil => exact .nil
  | @cons a b l m here rest ih =>
    rw [changeFirst, changeFirst, ← same a b here]
    cases p a with
    | true => exact .cons (changes a b here) rest
    | false => exact .cons here ih

theorem forall₂_zipIdx {l : List α} {m : List β} (h : List.Forall₂ R l m) (i j : Nat) :
    List.Forall₂ (fun a b => R a.1 b.1 ∧ a.2 + j = b.2 + i) (l.zipIdx i) (m.zipIdx j) := by
  induction h generalizing i j with
  | nil => exact .nil
  | cons here _ ih =>
    rw [List.zipIdx_cons, List.zipIdx_cons]
    refine .cons ⟨here, Nat.add_comm i j⟩ ((ih (i + 1) (j + 1)).imp fun a b h => ⟨h.1, ?_⟩)
    have := h.2
    omega

end Forall₂

/-! ## The relation -/

/-- What the configuration kept under an identifier says. -/
def contentIn (configs : KeyMap AuthenticatorConfig) (id : String) : Option (String × KeyMap String) :=
  (configs.get? id).map fun config => (config.aliasName, config.config)

section

variable (k k' : KeyMap AuthenticatorConfig)

/-- Executions differ in identifiers only, each beside the configurations of its realm. -/
structure FlowExecution.Alike (x x' : FlowExecution) : Prop where
  /-- They have one requirement. -/
  requirement : x.requirement = x'.requirement
  /-- They call for the same. -/
  target : x.target = x'.target
  /-- Their configurations say the same. -/
  bound : x.configId.map (contentIn k) = x'.configId.map (contentIn k')

/-- Flows differ in identifiers only, each beside the configurations of its realm. -/
structure FlowRecord.Alike (f f' : FlowRecord) : Prop where
  /-- They have one alias. -/
  aliasName : f.aliasName = f'.aliasName
  /-- They are of one kind. -/
  kind : f.kind = f'.kind
  /-- Both or neither stand in the listing of their realm. -/
  topLevel : f.topLevel = f'.topLevel
  /-- Their executions are alike. -/
  executions : List.Forall₂ (FlowExecution.Alike k k') f.executions f'.executions

/-- Rows differ in identifiers only, each beside the configurations of its realm. -/
structure Execution.Alike (e e' : Execution) : Prop where
  /-- They have one requirement. -/
  requirement : e.requirement = e'.requirement
  /-- They show one name. -/
  displayName : e.displayName = e'.displayName
  /-- They have one alias. -/
  aliasName : e.aliasName = e'.aliasName
  /-- Both or neither are subflows. -/
  isFlow : e.isFlow = e'.isFlow
  /-- They name one authenticator or kind. -/
  providerId : e.providerId = e'.providerId
  /-- They stand at one level. -/
  level : e.level = e'.level
  /-- They stand at one index. -/
  index : e.index = e'.index
  /-- Their configurations say the same. -/
  bound : e.configId.map (contentIn k) = e'.configId.map (contentIn k')

end

/-- The flows of two realms differ in identifiers only. -/
def RealmFlows.Alike (r r' : RealmFlows) : Prop :=
  List.Forall₂ (FlowRecord.Alike r.configs r'.configs) r.flows r'.flows

section

variable {k k' : KeyMap AuthenticatorConfig}

theorem FlowExecution.Alike.nested? {x x' : FlowExecution} (h : FlowExecution.Alike k k' x x') :
    x.nested? = x'.nested? := by
  rw [FlowExecution.nested?, FlowExecution.nested?, h.target]

theorem FlowRecord.Alike.nested {f f' : FlowRecord} (h : FlowRecord.Alike k k' f f') :
    f.nested = f'.nested := by
  have along : ∀ {xs xs' : List FlowExecution}, List.Forall₂ (FlowExecution.Alike k k') xs xs' →
      xs.filterMap FlowExecution.nested? = xs'.filterMap FlowExecution.nested? := by
    intro xs xs' h
    induction h with
    | nil => rfl
    | cons here _ ih => rw [List.filterMap_cons, List.filterMap_cons, here.nested?, ih]
  exact along h.executions

end

namespace RealmFlows

variable {r r' k k' : RealmFlows}

/-- Being alike depends on flows and on what is bound to their executions. -/
theorem Alike.congr (h : r.Alike r') (flows : k.flows = r.flows) (flows' : k'.flows = r'.flows)
    (same : ∀ x ∈ r.executions, ∀ c, x.configId = some c → contentIn k.configs c = contentIn r.configs c)
    (same' : ∀ x ∈ r'.executions, ∀ c,
      x.configId = some c → contentIn k'.configs c = contentIn r'.configs c) :
    k.Alike k' := by
  have bound : ∀ {r k : RealmFlows} {x : FlowExecution}, x ∈ r.executions →
      (∀ x ∈ r.executions, ∀ c, x.configId = some c → contentIn k.configs c = contentIn r.configs c) →
      x.configId.map (contentIn k.configs) = x.configId.map (contentIn r.configs) := by
    intro r k x hx same
    cases has : x.configId with
    | none => rfl
    | some c => rw [Option.map_some, Option.map_some, same x hx c has]
  rw [Alike, flows, flows']
  refine forall₂_of_mem h fun f hf f' hf' alike => ⟨alike.aliasName, alike.kind, alike.topLevel, ?_⟩
  refine forall₂_of_mem alike.executions fun x hx x' hx' alike => ⟨alike.requirement, alike.target, ?_⟩
  rw [bound (mem_executions.2 ⟨f, hf, hx⟩) same, bound (mem_executions.2 ⟨f', hf', hx'⟩) same',
    alike.bound]

/-- A realm is alike to one with the same flows whose configurations say the same. -/
theorem alike_of_flows (flows : k.flows = r.flows)
    (same : ∀ x ∈ r.executions, ∀ c,
      x.configId = some c → contentIn k.configs c = contentIn r.configs c) : r.Alike k := by
  have self : r.Alike r := List.forall₂_same.2 fun f _ =>
    ⟨rfl, rfl, rfl, List.forall₂_same.2 fun x _ => ⟨rfl, rfl, rfl⟩⟩
  exact self.congr rfl flows (fun _ _ _ _ => rfl) same

/-! ## What reads the same -/

theorem Alike.flow? (h : r.Alike r') (a : String) :
    Option.Rel (FlowRecord.Alike r.configs r'.configs) (r.flow? a) (r'.flow? a) :=
  forall₂_find? (fun f f' alike => by rw [alike.aliasName]) h

theorem Alike.hasFlow (h : r.Alike r') (a : String) : r'.hasFlow a = r.hasFlow a := by
  have found := h.flow? a
  unfold RealmFlows.hasFlow
  generalize r.flow? a = f at found
  generalize r'.flow? a = f' at found
  cases found <;> rfl

theorem Alike.calledBy (h : r.Alike r') (a : String) : r'.calledBy a = r.calledBy a := by
  have found := h.flow? a
  unfold RealmFlows.calledBy
  generalize r.flow? a = f at found
  generalize r'.flow? a = f' at found
  cases found with
  | none => rfl
  | some alike => exact alike.nested.symm

theorem Alike.depthBound (h : r.Alike r') : r'.depthBound = r.depthBound := by
  unfold RealmFlows.depthBound
  rw [h.length_eq]

theorem Alike.aliasesBelow (h : r.Alike r') (a : String) : r'.aliasesBelow a = r.aliasesBelow a := by
  have along : ∀ n a, r'.aliasesFrom n a = r.aliasesFrom n a := by
    intro n
    induction n with
    | zero => exact fun _ => rfl
    | succ n ih =>
      intro a
      rw [aliasesFrom_succ, aliasesFrom_succ, h.calledBy]
      refine congrArg _ (List.flatMap_congr fun b _ => ih b)
  rw [RealmFlows.aliasesBelow, RealmFlows.aliasesBelow, h.depthBound, along]

theorem Alike.row (h : r.Alike r') {x x' : FlowExecution}
    (alike : FlowExecution.Alike r.configs r'.configs x x') (level index : Nat) :
    Execution.Alike r.configs r'.configs (r.row level index x) (r'.row level index x') where
  requirement := alike.requirement
  displayName := by simp only [RealmFlows.row, alike.target]
  aliasName := rfl
  isFlow := by simp only [RealmFlows.row, alike.nested?]
  providerId := by
    simp only [RealmFlows.row, alike.target, alike.nested?]
    cases called : x'.nested? with
    | none => rfl
    | some b =>
      have found := h.flow? b
      simp only [Option.bind_some]
      generalize r.flow? b = f at found
      generalize r'.flow? b = f' at found
      cases found with
      | none => rfl
      | some alike => simp only [Option.map_some, alike.kind]
  level := rfl
  index := rfl
  bound := alike.bound

/-- Every listing reads the same. -/
theorem Alike.listing (h : r.Alike r') (a : String) :
    List.Forall₂ (Execution.Alike r.configs r'.configs) (r.listing a) (r'.listing a) := by
  -- Both listings stop at the same level, since there are as many flows, whether nesting ends or not.
  have along : ∀ n a level,
      List.Forall₂ (Execution.Alike r.configs r'.configs) (r.rowsFrom n a level) (r'.rowsFrom n a level) := by
    intro n
    induction n with
    | zero => exact fun _ _ => .nil
    | succ n ih =>
      intro a level
      have found := h.flow? a
      cases here : r.flow? a with
      | none =>
        cases there : r'.flow? a with
        | none =>
          rw [rowsFrom_of_none here, rowsFrom_of_none there]
          exact .nil
        | some f' =>
          rw [here, there] at found
          exact nomatch found
      | some f =>
        cases there : r'.flow? a with
        | none =>
          rw [here, there] at found
          exact nomatch found
        | some f' =>
          rw [here, there] at found
          cases found with
          | some alike =>
            rw [rowsFrom_succ here, rowsFrom_succ there]
            refine List.rel_flatMap (forall₂_zipIdx alike.executions 0 0) ?_
            rintro ⟨x, i⟩ ⟨x', j⟩ ⟨same, index⟩
            obtain rfl : i = j := by simpa using index
            refine .cons (h.row same level i) ?_
            show List.Forall₂ _ (x.nested?.elim [] _) (x'.nested?.elim [] _)
            rw [← same.nested?]
            cases x.nested? with
            | none => exact .nil
            | some b => exact ih b (level + 1)
  rw [RealmFlows.listing, RealmFlows.listing, h.depthBound]
  exact along _ a 0

theorem Alike.topLevelFlows (h : r.Alike r') :
    r'.topLevelFlows.map FlowRecord.aliasName = r.topLevelFlows.map FlowRecord.aliasName := by
  have same : List.Forall₂ (FlowRecord.Alike r.configs r'.configs) r.topLevelFlows r'.topLevelFlows := by
    exact List.rel_filter (fun f f' alike => iff_of_eq (congrArg (· = true) alike.topLevel)) h
  have names := (List.forall₂_map_left_iff (f := FlowRecord.aliasName)).2
    ((List.forall₂_map_right_iff (f := FlowRecord.aliasName)).2
      (same.imp fun f f' alike => alike.aliasName))
  exact (List.forall₂_eq_eq_eq ▸ names).symm

/-! ## Additions -/

theorem Alike.addFlow (h : r.Alike r') {f f' : FlowRecord}
    (alike : FlowRecord.Alike r.configs r'.configs f f') :
    (r.addFlow f).Alike (r'.addFlow f') :=
  List.rel_append h (.cons alike .nil)

theorem Alike.addExecution (h : r.Alike r') (p : String) {x x' : FlowExecution}
    (alike : FlowExecution.Alike r.configs r'.configs x x') :
    (r.addExecution p x).Alike (r'.addExecution p x') := by
  refine forall₂_changeFirst (fun f f' same => by rw [same.aliasName]) (fun f f' same => ?_) h
  exact ⟨same.aliasName, same.kind, same.topLevel, List.rel_append same.executions (.cons alike .nil)⟩

end RealmFlows

/-! ## Requests -/

namespace FlowDesk

variable {d d' e : FlowDesk} {parent : String} {n : Node}

theorem alike_createFlow (h : d.realm.Alike e.realm) (aliasName description : String)
    (kind : FlowKind) :
    (d.createFlow aliasName description kind).2.realm.Alike
      (e.createFlow aliasName description kind).2.realm := by
  unfold createFlow
  rw [h.hasFlow]
  split
  · exact h
  · exact h.addFlow ⟨rfl, rfl, rfl, .nil⟩

theorem alike_copyRecord {k k' : KeyMap AuthenticatorConfig} {f f' : FlowRecord}
    (alike : FlowRecord.Alike k k' f f') (source dest : String) (i j : Nat) :
    FlowRecord.Alike k k' (copyRecord source dest i f) (copyRecord source dest j f') where
  aliasName := by simp only [copyRecord, alike.aliasName]
  kind := alike.kind
  topLevel := by simp only [copyRecord, alike.aliasName]
  executions := by
    refine List.rel_map ?_ (forall₂_zipIdx alike.executions (i + 2) (j + 2))
    rintro ⟨x, m⟩ ⟨x', n⟩ ⟨same, -⟩
    have target : x.target = x'.target := same.target
    exact ⟨same.requirement, by simp only [target], same.bound⟩

/-- Alike realms are refused the same copies, and are alike when copies were made. -/
theorem alike_copyFlow (h : d.realm.Alike e.realm) {source dest : String} {creation : Creation}
    (copied : d.copyFlow source dest = .ok (creation, d')) :
    ∃ e', e.copyFlow source dest = .ok (creation, e') ∧ d'.realm.Alike e'.realm := by
  unfold copyFlow at copied ⊢
  rw [h.hasFlow, h.hasFlow, h.aliasesBelow]
  split at copied
  · next taken =>
    cases copied
    exact ⟨e, by rw [if_pos taken], h⟩
  · next free =>
    split at copied
    · next there =>
      cases copied
      refine ⟨_, by rw [if_neg free, if_pos there], ?_⟩
      have found : List.Forall₂ (FlowRecord.Alike d.realm.configs e.realm.configs)
          ((d.realm.aliasesBelow source).filterMap d.realm.flow?)
          ((d.realm.aliasesBelow source).filterMap e.realm.flow?) := by
        refine List.rel_filterMap (R := Eq) ?_ (List.forall₂_same.2 fun _ _ => rfl)
        rintro a _ rfl
        exact h.flow? a
      have copies : ∀ {fs fs' : List FlowRecord},
          List.Forall₂ (FlowRecord.Alike d.realm.configs e.realm.configs) fs fs' → ∀ i j,
          List.Forall₂ (FlowRecord.Alike d.realm.configs e.realm.configs)
            (copyRecords source dest i fs) (copyRecords source dest j fs') := by
        intro fs fs' alike
        induction alike with
        | nil => exact fun _ _ => .nil
        | cons here _ ih => exact fun i j => .cons (alike_copyRecord here source dest i j) (ih _ _)
      exact List.rel_append h (copies found d.issued e.issued)
    · cases copied

theorem alike_findDirectChild {k k' : KeyMap AuthenticatorConfig} {rows rows' : List Execution}
    (h : List.Forall₂ (Execution.Alike k k') rows rows') {accept : Execution → Bool}
    (same : ∀ a b, Execution.Alike k k' a b → accept a = accept b) (description : String)
    {row : Execution} (found : findDirectChild parent rows description accept = .ok row) :
    ∃ row', findDirectChild parent rows' description accept = .ok row' ∧
      Execution.Alike k k' row row' := by
  have first := forall₂_find? (p := fun a => a.isDirectChild && accept a)
    (q := fun b => b.isDirectChild && accept b)
    (fun a b alike => by rw [Execution.isDirectChild, Execution.isDirectChild, alike.level, same a b alike])
    h
  simp only [findDirectChild_eq_ok_iff] at found ⊢
  generalize rows'.find? _ = other at first ⊢
  rw [found] at first
  cases first with
  | some alike => exact ⟨_, rfl, alike⟩

/-! ## Extensions -/

theorem alike_ground (h : d.realm.Alike e.realm) (n : Node) : (d.ground n).Alike (e.ground n) := by
  cases n with
  | leaf => exact h
  | subflow => exact h.addFlow ⟨rfl, rfl, rfl, .nil⟩

theorem alike_added (h : d.realm.Alike e.realm) (parent : String) (n : Node) :
    (d.added parent n).realm.Alike (e.added parent n).realm :=
  (alike_ground h n).addExecution parent ⟨rfl, rfl, rfl⟩

theorem exists_resolve_iff {rows : List Execution} {key : MatchKey} :
    (∃ row, resolve parent rows key = .ok row) ↔
      (rows.filter fun e => e.isDirectChild && key.accepts e).length = 1 := by
  rw [List.length_eq_one_iff]
  constructor
  · rintro ⟨row, found⟩
    exact ⟨row, resolve_eq_ok_iff.1 found⟩
  · rintro ⟨row, only⟩
    exact ⟨row, resolve_eq_ok_iff.2 only⟩

/-- A node can be created in a flow of one realm as in that of the other. -/
theorem Takes.alike (takes : d.Takes parent n) (h : d.realm.Alike e.realm) : e.Takes parent n where
  there := (h.hasFlow parent).trans takes.there
  free := by
    cases n with
    | leaf => trivial
    | subflow aliasName => exact fun taken => takes.free ((h.hasFlow aliasName).symm.trans taken)
  alone := by
    have alone := takes.alone
    rw [exists_resolve_iff] at alone ⊢
    rw [← alone]
    refine (List.Forall₂.length_eq (List.rel_filter (fun row row' alike => iff_of_eq ?_)
      ((alike_added h parent n).listing parent))).symm
    simp only [Execution.isDirectChild, alike.level]
    cases n <;>
      simp only [Node.key, MatchKey.accepts, alike.isFlow, alike.providerId, alike.displayName]

/-- A new configuration is not one that was bound before. -/
theorem Numbered.contentIn_keepConfig (h : d.Numbered) {m : Nat} (hm : d.issued < m)
    (config : AuthenticatorConfig) {x : FlowExecution} (hx : x ∈ d.realm.executions) {c : String}
    (hc : x.configId = some c) :
    contentIn (d.realm.keepConfig (identifier "config" m) config).configs c =
      contentIn d.realm.configs c := by
  have new : identifier "config" m ≠ c :=
    ((h.configs_issued x hx c hc).ne (isNumbered_identifier hm (Nat.le_refl _))).symm
  unfold contentIn RealmFlows.keepConfig
  rw [KeyMap.get?_insert, if_neg new]

theorem alike_planted (h : d.realm.Alike e.realm) (hd : d.Numbered) (he : e.Numbered)
    (parent : String) (n : Node) : (d.planted parent n).realm.Alike (e.planted parent n).realm := by
  have ground := alike_ground h n
  unfold planted
  cases spec : n.spec with
  | none => exact ground.addExecution parent ⟨rfl, rfl, by simp [grown, spec]⟩
  | some s =>
    have kept : ((d.ground n).keepConfig (d.nextConfigId n) ⟨none, s.aliasName, s.settings⟩).Alike
        ((e.ground n).keepConfig (e.nextConfigId n) ⟨none, s.aliasName, s.settings⟩) := by
      have configs : ∀ d : FlowDesk, (d.ground n).configs = d.realm.configs := by
        intro d
        cases n <;> rfl
      refine ground.congr rfl rfl (fun x hx c hc => ?_) fun x hx c hc => ?_
      · rw [executions_ground] at hx
        rw [configs d, RealmFlows.keepConfig, configs d]
        exact hd.contentIn_keepConfig (by omega) _ hx hc
      · rw [executions_ground] at hx
        rw [configs e, RealmFlows.keepConfig, configs e]
        exact he.contentIn_keepConfig (by omega) _ hx hc
    refine kept.addExecution parent ⟨rfl, rfl, ?_⟩
    simp [grown, spec, contentIn, RealmFlows.keepConfig, KeyMap.get?_insert]

/-- Where the nodes of an extension can be created in one realm, they can in the other, and the realms
are alike afterwards. -/
theorem Plants.alike {nodes : List Node} {report : List BuiltNode}
    (plants : d.Plants parent nodes report d') (h : d.realm.Alike e.realm) (hd : d.Numbered)
    (he : e.Numbered) : ∃ report' e', e.Plants parent nodes report' e' ∧ d'.realm.Alike e'.realm := by
  induction plants generalizing e with
  | nil d parent => exact ⟨[], e, .nil e parent, h⟩
  | leaf takes _ ih =>
    have takes' := takes.alike h
    obtain ⟨report', e', rest, alike⟩ := ih (alike_planted h hd he _ _) (hd.planted takes)
      (he.planted takes')
    exact ⟨_, e', .leaf takes' rest, alike⟩
  | subflow takes first _ ihFirst ihRest =>
    have takes' := takes.alike h
    have hd' := hd.planted takes
    have he' := he.planted takes'
    obtain ⟨inner, between, first', alike⟩ := ihFirst (alike_planted h hd he _ _) hd' he'
    obtain ⟨report', e', rest', alike⟩ := ihRest alike (hd'.plants first) (he'.plants first')
    exact ⟨_, e', .subflow takes' first' rest', alike⟩

end FlowDesk

end RealmSetup
