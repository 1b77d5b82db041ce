import RealmSetup.Proofs.Scenario.Recovery

/-!
# Flows that a plan leaves alone

Flows are found by their names, so that carrying out a plan may reach into other flows than its own: a
flow that has the name of the plan already is taken for the one that was to be made, and a flow that has
the name of a copy is taken for the copy.  `FlowPlan.Avoids` says that this does not happen below a given
flow: nothing there is deleted, made or given nodes.  Then all of it stays as it was, however the plan ends
(`along_apply_spared`), and its listing reads the same (`run_applyFlow_listing`).  In a forest a plan
avoids every flow of the listing but its own, unless the names of its copies are taken
(`avoids_of_forest`).
-/

namespace RealmSetup

open Builder

namespace FlowPlan

/-- The aliases under which a plan looks for what it makes before its nodes are put in: its own and those
of the copies. -/
def Claims (r : RealmFlows) : FlowPlan → String → Prop
  | .fresh tree, b => b = tree.aliasName
  | .copyAndInject source aliasName _ _, b =>
    ∃ a, r.Reaches source a ∧ b = FlowDesk.renamed source aliasName a

/-- The nodes of a plan are put into the flow with an alias, if it comes to that: into its own, or into
the one that is found in the copy. -/
def Fills (plan : FlowPlan) (realm : String) (d : FlowDesk) (parent : String) : Prop :=
  ∃ opened, FlowDesk.run (plan.prepare realm) (d.without plan.aliasName) = (.ok parent, opened)

/-- A plan keeps out of the flows below an alias. -/
structure Avoids (plan : FlowPlan) (realm : String) (d : FlowDesk) (g : String) : Prop where
  /-- No flow below it is deleted together with an earlier flow of the name of the plan. -/
  kept : d.realm.isListed plan.aliasName = true → ∀ b, d.realm.Reaches plan.aliasName b →
    d.realm.Reaches g b → d.realm.hasFlow b = false
  /-- What is called for below it, but is not there, is not made. -/
  named : ∀ b, plan.Claims d.realm b ∨ b ∈ Node.aliasesAll plan.nodes → d.realm.Reaches g b →
    d.realm.hasFlow b = true
  /-- No nodes are put into a flow below it. -/
  apart : ∀ parent, plan.Fills realm d parent → ¬d.realm.Reaches g parent

end FlowPlan

namespace FlowDesk

variable {d d' e : FlowDesk} {plan : FlowPlan} {g : String} {P : String → Prop}

/-! ## Desks that agree on some aliases -/

/-- The flows that some aliases name are as they were, and so are the configurations there were. -/
structure Spared (P : String → Prop) (d d' : FlowDesk) : Prop where
  /-- The aliases name the same flows. -/
  flows : ∀ b, P b → d'.realm.flow? b = d.realm.flow? b
  /-- Configurations are kept under the identifiers they had. -/
  configs : ∀ c, IsNumbered "config" 0 d.issued c → d'.realm.configs.get? c = d.realm.configs.get? c
  /-- Identifiers are given out in one sequence. -/
  issued : d.issued ≤ d'.issued

theorem Spared.refl (P : String → Prop) (d : FlowDesk) : Spared P d d :=
  ⟨fun _ _ => rfl, fun _ _ => rfl, Nat.le_refl _⟩

theorem Spared.withEntryPoint (h : Spared P d d') (b : String) : Spared P d (d'.withEntryPoint b) :=
  ⟨h.flows, h.configs, h.issued⟩

theorem Spared.hasFlow (h : Spared P d d') {b : String} (hb : P b) :
    d'.realm.hasFlow b = d.realm.hasFlow b := by
  unfold RealmFlows.hasFlow
  rw [h.flows b hb]

open Classical in
/-- An extension spares all that is not its own. -/
theorem Spared.grows (h : Spared P d d') (grows : d'.Grows (fun b => ¬P b) e) : Spared P d e where
  flows b hb := by
    have kept := grows.kept fun a (mine : ¬P a) => mine
    exact (RealmFlows.flow?_congr_of_filter kept hb).trans (h.flows b hb)
  configs c hc := (grows.configs (hc.mono (Nat.le_refl _) h.issued)).trans (h.configs c hc)
  issued := Nat.le_trans h.issued grows.issued_le

/-! ## Carrying out a plan -/

section Avoids

variable {realm : String} (avoids : plan.Avoids realm d g)
include avoids

theorem spared_without : Spared (d.realm.Reaches g) d (d.without plan.aliasName) := by
  refine ⟨fun b hb => ?_, fun c _ => by rw [configs_without], Nat.le_of_eq (issued_without d _).symm⟩
  rw [flow?_without]
  split
  · next doomed =>
    have below := RealmFlows.reaches_of_mem_aliasesFrom doomed.2
    have absent := avoids.kept doomed.1 b below hb
    exact (RealmFlows.not_hasFlow.1 (Bool.eq_false_iff.1 absent)).symm
  · rfl

/-- The flow of a plan is made below no alias that the plan avoids: such aliases name flows already, or
are not those of the plan. -/
theorem spared_of_opens (opens : plan.Opens (d.without plan.aliasName) d') :
    Spared (d.realm.Reaches g) d d' := by
  have cleared := spared_without avoids
  have there : ∀ b, plan.Claims d.realm b → d.realm.Reaches g b →
      (d.without plan.aliasName).realm.hasFlow b = true := fun b claims below =>
    (cleared.hasFlow below).trans (avoids.named b (.inl claims) below)
  cases plan with
  | fresh tree =>
    cases opens
    unfold createFlow
    split
    · exact cleared
    · next free =>
      refine ⟨fun c hc => ?_, cleared.configs, Nat.le_succ_of_le cleared.issued⟩
      have other : c ≠ tree.aliasName := by
        rintro rfl
        exact free (there tree.aliasName rfl hc)
      exact (RealmFlows.flow?_addFlow_of_ne other).trans (cleared.flows c hc)
  | copyAndInject source aliasName marker nodes =>
    obtain ⟨creation, copied⟩ := opens
    rcases copyFlow_cases copied with ⟨-, rfl⟩ | ⟨-, -, rfl⟩
    · exact cleared
    · refine ⟨fun c hc => ?_, cleared.configs, Nat.le_trans cleared.issued (Nat.le_add_right _ _)⟩
      refine Eq.trans ?_ (cleared.flows c hc)
      by_cases taken : (d.without aliasName).realm.hasFlow c = true
      · exact flow?_copied_of_hasFlow taken
      · refine flow?_copied_of_ne fun a reached same => taken (there c ⟨a, ?_, same⟩ hc)
        exact reached.mono fun _ _ called => calls_without called

/-- Wherever carrying out a plan ends or is broken off, what it avoids is spared. -/
theorem along_apply_spared (h : d.Numbered) :
    Along (Spared (d.realm.Reaches g) d) (fun _ _ => True) (plan.apply realm) d := by
  have opening : ∀ d', plan.Opens (d.without plan.aliasName) d' → Spared (d.realm.Reaches g) d d' :=
    fun d' opens => spared_of_opens avoids opens
  refine along_apply h realm (.refl _ d) (spared_without avoids) opening
    (fun d' parent _ _ ended => avoids.apart parent ⟨d', ended⟩) ?_
    (fun d' e opens grows => (opening d' opens).grows grows)
    fun d' e b opens grows => ((opening d' opens).grows grows).withEntryPoint b
  intro d' opens b hb free below
  have there := avoids.named b (.inr hb) below
  rw [← (opening d' opens).hasFlow below] at there
  exact free there

end Avoids

/-! ## Forests -/

/-- In a forest a plan avoids every flow of the listing but its own, where no name of a copy is taken. -/
theorem avoids_of_forest (forest : d.realm.Forest)
    (top : ∀ f ∈ d.realm.flows, f.aliasName = plan.aliasName → f.topLevel = true)
    (unclaimed : plan.Unclaimed d.realm) (realm : String) (listed : d.realm.isListed g = true)
    (other : g ≠ plan.aliasName) : plan.Avoids realm d g := by
  obtain ⟨f, hf, f_top, rfl⟩ := isListed_iff.1 listed
  have there : ∀ b, d.realm.Reaches f.aliasName b → d.realm.hasFlow b = true := fun b below =>
    forest.hasFlow_of_reaches (RealmFlows.hasFlow_of_mem hf) below
  have unshared : d.realm.isListed plan.aliasName = true → ∀ b, d.realm.Reaches plan.aliasName b →
      ¬d.realm.Reaches f.aliasName b := by
    intro own b first second
    obtain ⟨k, hk, k_top, name⟩ := isListed_iff.1 own
    exact other ((forest.eq_of_reaches hf f_top hk k_top second (name ▸ first)).trans name)
  refine ⟨fun own b first second => absurd second (unshared own b first),
    fun b _ below => there b below, ?_⟩
  rintro parent ⟨opened, ended⟩ below
  have course : Along (fun _ => True) _ (plan.prepare realm) (d.without plan.aliasName) :=
    along_prepare realm plan trivial fun _ _ => trivial
  obtain ⟨opens, reached⟩ := (Program.Along.ending course).2 parent (congrArg Prod.fst ended)
  -- What is come to in the flow of the plan was not there when this was cleared.
  obtain ⟨-, left⟩ := leftover_of_opens forest.ends top unclaimed opens
  have gone := left.hangs.own_of_reaches (not_hasFlow_without top) reached
  have cleared : d.realm.isListed plan.aliasName = true ∧
      parent ∈ d.realm.aliasesBelow plan.aliasName := by
    by_contra kept
    exact gone (hasFlow_without_iff.2 ⟨there parent below, kept⟩)
  exact unshared cleared.1 parent (RealmFlows.reaches_of_mem_aliasesFrom cleared.2) below

/-! ## Listings -/

/-- What is below an alias reads the same on a desk where it was spared. -/
theorem Spared.serve_listExecutions (h : Spared (d.realm.Reaches g) d d') (ends : d.realm.Ends g) :
    d'.listExecutions g = d.listExecutions g := by
  unfold listExecutions
  rw [h.hasFlow .refl, RealmFlows.listing_congr ends h.flows]

theorem Spared.getConfig (h : Spared (d.realm.Reaches g) d d') (hd : d.Numbered)
    {rows : List Execution} (listed : d.listExecutions g = .ok rows) {row : Execution}
    (hrow : row ∈ rows) {c : String} (bound : row.configId = some c) :
    d'.getConfig c = d.getConfig c := by
  unfold listExecutions at listed
  split at listed
  · cases listed
    obtain ⟨b, f, -, found, x, hx, level, index, rfl⟩ := RealmFlows.exists_of_mem_listing hrow
    have mem := RealmFlows.mem_executions.2 ⟨f, (RealmFlows.flow?_eq_some found).1, hx⟩
    unfold FlowDesk.getConfig
    rw [h.configs c (hd.configs_issued x mem c bound)]
  · cases listed

end FlowDesk

namespace MemoryServer

/-- At any server that requests have led to: however a scenario that avoids a flow ends, the flow lists
the same rows as before, with the same identifiers, and the configurations bound to them are as they
were. -/
theorem run_applyFlow_listing {s : MemoryServer} (reached : s.Reached) (scenario : Scenario)
    (realm g : String) (ends : (s.desk realm).realm.Ends g)
    (avoids : scenario.flow.Avoids realm (s.desk realm) g) :
    ((s.run (scenario.applyFlow realm)).2.run (listChildren realm g)).1 =
        (s.run (listChildren realm g)).1 ∧
      ∀ rows, (s.run (listChildren realm g)).1 = .ok rows → ∀ row ∈ rows, ∀ c, row.configId = some c →
        ((s.run (scenario.applyFlow realm)).2.run (ask realm (.getConfig c))).1 =
          (s.run (ask realm (.getConfig c))).1 := by
  have numbered := reached.numbered realm
  have spared : FlowDesk.Spared ((s.desk realm).realm.Reaches g) (s.desk realm)
      ((s.run (scenario.applyFlow realm)).2.desk realm) := by
    rw [(run_eq (scenario.within_applyFlow realm) s).2]
    exact (Program.Along.ending (FlowDesk.along_apply_spared avoids numbered)).1
  have listed : ∀ s : MemoryServer, (s.run (listChildren realm g)).1 = (s.desk realm).listExecutions g :=
    fun s => (run_eq (within_listChildren g) s).1
  have read : ∀ (s : MemoryServer) c, (s.run (ask realm (.getConfig c))).1 = (s.desk realm).getConfig c :=
    fun s c => (run_eq (within_ask (.getConfig c)) s).1
  refine ⟨by rw [listed, listed, spared.serve_listExecutions ends], fun rows ok row hrow c bound => ?_⟩
  rw [listed] at ok
  rw [read, read, spared.getConfig numbered ok hrow bound]

/-- A copy of the stock entry point leaves this as it is. -/
theorem run_alternative_listing :
    (((start true).run (Catalog.alternative.applyFlow "acme")).2.run
      (listChildren "acme" "browser")).1 = ((start true).run (listChildren "acme" "browser")).1 := by
  have forest := RealmFlows.forest_fresh true 0
  have absent : ∀ f ∈ ((start true).desk "acme").realm.flows,
      f.aliasName = Catalog.alternative.flow.aliasName → f.topLevel = true := by decide +kernel
  have listed : ((start true).desk "acme").realm.isListed "browser" = true := by decide +kernel
  have other : "browser" ≠ Catalog.alternative.flow.aliasName := by decide +kernel
  have avoids := FlowDesk.avoids_of_forest forest absent unclaimed_alternative "acme" listed other
  exact (run_applyFlow_listing (.start true) Catalog.alternative "acme" "browser"
    (forest.ends "browser") avoids).1

/-- A fresh plan that has the name of a subflow puts its nodes into the subflow, so that the listing of
another flow may change. -/
theorem run_applyFlow_changes_listing :
    ¬∀ s : MemoryServer, s.Reached → ∀ (scenario : Scenario) (realm g : String),
      (s.desk realm).realm.isListed g = true → g ≠ scenario.flow.aliasName →
        ((s.run (scenario.applyFlow realm)).2.run (listChildren realm g)).1 =
          (s.run (listChildren realm g)).1 := by
  intro same
  let scenario : Scenario :=
    { realm := "demo", roles := [], users := [], localization := none,
      flow := .fresh ⟨"forms", "", .basic, [.leaf "email-code" .required none]⟩ }
  have kept := same (start true) (.start true) scenario "demo" "browser" (by decide +kernel)
    (by decide +kernel)
  have longer :
      (((start true).run (scenario.applyFlow "demo")).2.run (listChildren "demo" "browser")).1.toOption.map
          List.length ≠ ((start true).run (listChildren "demo" "browser")).1.toOption.map List.length := by
    decide +kernel
  exact longer (congrArg (fun r => r.toOption.map List.length) kept)

end MemoryServer

end RealmSetup
