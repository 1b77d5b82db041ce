import Mathlib.Data.List.Find
import RealmSetup.Proofs.Flow.Attribution
import RealmSetup.Proofs.Flow.CopyListings
import RealmSetup.Proofs.Flow.Operations
import RealmSetup.Proofs.Scenario.Plans
import RealmSetup.Scenario.Catalog

/-!
# Where the nodes of a plan are put

A plan that copies a flow puts its nodes into the first marked subflow that it finds in the copy.  What
it finds is the first of the flows that the copy calls for of which the name holds the marker
(`nested_of_findDirectChild`), and this is a name in the copy: it begins with the name of the copy, which
may hold the marker itself (`formsCopy`).  So it is the first subflow of the original of which the copy
is marked that gets the nodes, behind its own, and all other copies are left as they were made
(`applyFlow_injects`).
-/

namespace RealmSetup

open Builder

namespace FlowPlan

/-- Whether a name holds a marker, whatever the case of letters. -/
def marks (marker name : String) : Bool :=
  Text.contains (Text.lower name) (Text.lower marker)

end FlowPlan

/-! ## What is found in a flow -/

namespace RealmFlows

variable {r : RealmFlows} {a marker : String} {f : FlowRecord}

/-- The row of an execution is marked if it calls for a flow of which the name is. -/
theorem isMarked_row (marker : String) (level index : Nat) (x : FlowExecution) :
    FlowPlan.isMarked marker (r.row level index x) = x.nested?.any (FlowPlan.marks marker) := by
  obtain ⟨id, requirement, target, configId⟩ := x
  cases target <;> rfl

/-- A marked subflow is found under the first marked name that the flow calls for. -/
theorem nested_of_findDirectChild (listable : r.Listable a) (found : r.flow? a = some f)
    {parent description : String} {row : Execution}
    (hit : findDirectChild parent (r.listing a) description (FlowPlan.isMarked marker) = .ok row) :
    f.nested.find? (FlowPlan.marks marker) = some (row.subflowAlias.getD row.displayName) := by
  have first : (f.executions.zipIdx.map fun p => r.row 0 p.2 p.1).find? (FlowPlan.isMarked marker) =
      some row := by
    rw [← filter_direct_listing listable found, List.find?_filter]
    simpa using findDirectChild_eq_ok_iff.1 hit
  rw [List.find?_map] at first
  obtain ⟨⟨x, i⟩, here, rfl⟩ := Option.map_eq_some_iff.1 first
  have by_target : FlowPlan.isMarked marker ∘ (fun p => r.row 0 p.2 p.1) =
      (fun x => x.nested?.any (FlowPlan.marks marker)) ∘ Prod.fst :=
    funext fun p => isMarked_row marker 0 p.2 p.1
  rw [by_target] at here
  have called : f.executions.find? (fun x => x.nested?.any (FlowPlan.marks marker)) = some x := by
    rw [← List.zipIdx_map_fst 0 f.executions, List.find?_map, here]
    rfl
  rw [FlowRecord.nested, List.find?_filterMap, called, Option.bind_some]
  have marked := List.find?_some called
  obtain ⟨id, requirement, target, configId⟩ := x
  cases target with
  | provider p => cases marked
  | flow b => rfl

/-- The names that a copy calls for are unused if those of the flows that are listed for it are. -/
theorem unused_of_below {source : String} (ends : r.Ends source) (dest : String)
    (below : ∀ n ∈ r.aliasesBelow source, n ≠ source → ¬r.hasFlow (dest ++ " " ++ n) = true) :
    ∀ n, r.Reaches source n → n ≠ source → ¬r.hasFlow (dest ++ " " ++ n) = true :=
  fun n reached => below n ((mem_aliasesBelow ends).2 reached)

end RealmFlows

namespace FlowDesk

variable {d d' : FlowDesk} {source dest a b target marker : String} {nodes : List Node}
  {f f' : FlowRecord}

section Free

variable (ends : d.realm.Ends source)
  (free : ∀ a, d.realm.Reaches source a → ¬d.realm.hasFlow (renamed source dest a) = true)
include ends free

/-- The copy of a flow that can be listed can be listed. -/
theorem listable_copied (listable : d.realm.Listable source) :
    (d.copied source dest).realm.Listable dest := by
  obtain ⟨levels, few, within⟩ := listable
  have along : ∀ n a, d.realm.Reaches source a → d.realm.EndsWithin n a →
      (d.copied source dest).realm.EndsWithin n (renamed source dest a) := by
    intro n
    induction n with
    | zero => exact fun _ _ within => within
    | succ n ih =>
      intro a reached within b called
      obtain ⟨c, before, rfl⟩ := (calls_copied ends reached (free a reached)).1 called
      exact ih c (reached.tail before) (within c before)
  have root := along levels source .refl within
  rw [renamed_self] at root
  exact ⟨levels, few, root⟩

end Free

/-! ## Copies with nodes put in -/

/-- A flow says what another says, under the names of a copy. -/
structure CopiesFlow (source dest : String) (f f' : FlowRecord) : Prop where
  aliasName : f'.aliasName = renamed source dest f.aliasName
  description : f'.description = f.description
  kind : f'.kind = f.kind
  executions : List.Forall₂ (CopiesExecution source dest) f.executions f'.executions

theorem copiesFlow_copyRecord (source dest : String) (n : Nat) (f : FlowRecord) :
    CopiesFlow source dest f (copyRecord source dest n f) :=
  ⟨rfl, rfl, rfl, forall₂_copyRecord source dest n f⟩

/-- All that is come to from `source` was copied to `dest`, and nodes were put into the copy of
`target`. -/
structure Injected (d d' : FlowDesk) (source dest target : String) (nodes : List Node)
    (report : List BuiltNode) : Prop where
  /-- The other copies are as their originals. -/
  others : ∀ b f, d.realm.Reaches source b → b ≠ target → d.realm.flow? b = some f →
    ∃ f', d'.realm.flow? (renamed source dest b) = some f' ∧ CopiesFlow source dest f f'
  /-- The nodes stand behind what was copied. -/
  behind : ∃ f f' xs, d.realm.flow? target = some f ∧ CopiesFlow source dest f f' ∧
    d'.realm.flow? (renamed source dest target) =
      some { f' with executions := f'.executions ++ xs } ∧
    d'.realm.Shows (renamed source dest target) nodes xs report
  /-- The copies share the configurations of their originals. -/
  configs : ∀ c config, d.realm.configs.get? c = some config →
    d'.realm.configs.get? c = some config

/-- A copy that was made for a plan is followed by a search in it. -/
theorem copied_of_run_prepare (absent : ¬d.realm.hasFlow dest = true) {realm parent : String}
    (ended : run ((FlowPlan.copyAndInject source dest marker nodes).prepare realm) d =
      (.ok parent, d')) :
    d.realm.hasFlow source = true ∧ d' = d.copied source dest ∧
      ∃ description row, findDirectChild dest (d'.realm.listing dest) description
          (FlowPlan.isMarked marker) = .ok row ∧ parent = row.subflowAlias.getD row.displayName := by
  obtain ⟨creation, between, copied, ended⟩ := exists_of_run_bind ended
  obtain ⟨row, between', found, ended⟩ := exists_of_run_bind ended
  cases ended
  have made : d.copyFlow source dest = .ok (creation, between) := by
    rw [run_copyFlow] at copied
    split at copied
    · next result =>
      cases copied
      exact result
    · cases copied
  have there : between.realm.hasFlow dest = true := by
    by_contra missing
    rw [run_findChild_error between realm missing] at found
    cases found
  rw [run_findChild between realm there] at found
  simp only [Prod.mk.injEq] at found
  obtain ⟨found, rfl⟩ := found
  rcases copyFlow_cases made with ⟨taken, -⟩ | ⟨-, original, rfl⟩
  · exact absurd taken absent
  · exact ⟨original, rfl, _, row, found, rfl⟩

/-- A desk without a flow of a name needs not be cleared for one. -/
theorem without_of_absent (absent : ¬d.realm.hasFlow a = true) : d.without a = d := by
  refine if_neg fun listed => ?_
  obtain ⟨f, hf, -, rfl⟩ := isListed_iff.1 listed
  exact absent (RealmFlows.hasFlow_of_mem hf)

/-- Nodes that are put into the copy of a flow stand behind what was copied, and change no other copy. -/
theorem injected_of_plants (h : (d.copied source dest).Numbered) (ends : d.realm.Ends source)
    (free : ∀ a, d.realm.Reaches source a → ¬d.realm.hasFlow (renamed source dest a) = true)
    (reached : d.realm.Reaches source target) (there : d.realm.hasFlow target = true)
    {report : List BuiltNode}
    (plants : (d.copied source dest).Plants (renamed source dest target) nodes report d') :
    Injected d d' source dest target nodes report := by
  have copy : ∀ b f, d.realm.Reaches source b → d.realm.flow? b = some f →
      ∃ f', (d.copied source dest).realm.flow? (renamed source dest b) = some f' ∧
        CopiesFlow source dest f f' := by
    intro b f reached found
    rcases flow?_copied_renamed ends reached (free b reached) with ⟨absent, -⟩ | ⟨g, n, original, made⟩
    · exact nomatch absent.symm.trans found
    · cases found.symm.trans original
      exact ⟨_, made, copiesFlow_copyRecord source dest n f⟩
  refine ⟨fun b f reached other found => ?_, ?_, fun c config kept => plants.configs h kept⟩
  · obtain ⟨f', made, same⟩ := copy b f reached found
    have apart : renamed source dest b ≠ renamed source dest target := fun same =>
      other (renamed_inj same)
    exact ⟨f', (plants.others (RealmFlows.hasFlow_iff.2 ⟨f', made⟩) apart).trans made, same⟩
  · obtain ⟨f, found⟩ := RealmFlows.hasFlow_iff.1 there
    obtain ⟨f', made, same⟩ := copy target f reached found
    obtain ⟨xs, extended, shows⟩ := plants.shows h made
    exact ⟨f, f', xs, found, same, extended, shows⟩

theorem Injected.withEntryPoint {report : List BuiltNode}
    (h : Injected d d' source dest target nodes report) (b : String) :
    Injected d (d'.withEntryPoint b) source dest target nodes report := by
  obtain ⟨f, f', xs, found, same, extended, shows⟩ := h.behind
  exact ⟨h.others, ⟨f, f', xs, found, same, extended, shows.congr (fun _ _ => rfl) fun _ _ kept => kept⟩,
    h.configs⟩

/-- Where nothing goes in a circle, the copy of a direct subflow has the name of the copy before its
own. -/
theorem renamed_of_mem_nested (ends : d.realm.Ends source) (found : d.realm.flow? source = some f)
    (dest : String) (mem : b ∈ f.nested) : renamed source dest b = dest ++ " " ++ b := by
  refine renamed_of_ne dest ?_
  rintro rfl
  refine ends.no_circle (.single ?_)
  rwa [RealmFlows.Calls, RealmFlows.calledBy_of_flow? found]

/-- A plan that copies puts its nodes into the copy of the first subflow of which the copy is marked. -/
theorem run_apply_injects (h : d.Numbered) (forest : d.realm.Forest)
    (listable : d.realm.Listable source) (absent : ¬d.realm.hasFlow dest = true)
    (unused : ∀ n, d.realm.Reaches source n → n ≠ source →
      ¬d.realm.hasFlow (dest ++ " " ++ n) = true)
    {realm : String} {report : BuildReport}
    (ended : run ((FlowPlan.copyAndInject source dest marker nodes).apply realm) d =
      (.ok report, d')) :
    ∃ f target, d.realm.flow? source = some f ∧
      f.nested.find? (fun n => FlowPlan.marks marker (dest ++ " " ++ n)) = some target ∧
      Injected d d' source dest target nodes report.nodes := by
  obtain ⟨parent, opened, built, filled, made, plants, -, rfl, rfl⟩ := (run_apply_iff h _ _ _ _).1 ended
  have unchanged : d.without dest = d := without_of_absent absent
  have made : run ((FlowPlan.copyAndInject source dest marker nodes).prepare realm) d =
      (.ok parent, opened) := unchanged ▸ made
  have ends := forest.ends source
  have free := free_of_unused absent unused
  obtain ⟨there, rfl, description, row, hit, rfl⟩ := copied_of_run_prepare absent made
  obtain ⟨f, found⟩ := RealmFlows.hasFlow_iff.1 there
  have numbered : (d.copied source dest).Numbered := by
    have kept := h.run ((FlowPlan.copyAndInject source dest marker nodes).prepare realm)
    rwa [made] at kept
  have copy := flow?_copied_dest forest found absent
  have named := RealmFlows.nested_of_findDirectChild (listable_copied ends free listable) copy hit
  rw [nested_copyRecord, List.find?_map] at named
  obtain ⟨target, first, name⟩ := Option.map_eq_some_iff.1 named
  have mem : target ∈ f.nested := List.mem_of_find?_eq_some first
  have plain : f.nested.find? (fun n => FlowPlan.marks marker (dest ++ " " ++ n)) =
      f.nested.find? (FlowPlan.marks marker ∘ renamed source dest) :=
    List.find?_congr fun n hn => by
      rw [Function.comp_apply, renamed_of_mem_nested ends found dest hn]
  have reached : d.realm.Reaches source target := by
    refine .single ?_
    rwa [RealmFlows.Calls, RealmFlows.calledBy_of_flow? found]
  have injected := injected_of_plants numbered ends free reached
    (forest.hasFlow_of_reaches there reached) (name.symm ▸ plants)
  exact ⟨f, target, found, plain.trans first, injected.withEntryPoint dest⟩

end FlowDesk

namespace MemoryServer

variable {s : MemoryServer} {scenario : Scenario} {realm source a marker : String}
  {nodes : List Node}

/-- At any server whose flows in a realm are a forest: when a scenario that copies a flow under unused
names can be carried out, its nodes are directly in the copy of the first subflow of the original of
which the copy has a marked name, behind what was copied of it, and all other flows of the copy are as
their originals. -/
theorem applyFlow_injects (reached : s.Reached)
    (plan : scenario.flow = .copyAndInject source a marker nodes)
    (forest : (s.desk realm).realm.Forest) (listable : (s.desk realm).realm.Listable source)
    (absent : ¬(s.desk realm).realm.hasFlow a = true)
    (unused : ∀ n, (s.desk realm).realm.Reaches source n → n ≠ source →
      ¬(s.desk realm).realm.hasFlow (a ++ " " ++ n) = true)
    {report : BuildReport} (ended : (s.run (scenario.applyFlow realm)).1 = .ok report) :
    ∃ f target, (s.desk realm).realm.flow? source = some f ∧
      f.nested.find? (fun n => FlowPlan.marks marker (a ++ " " ++ n)) = some target ∧
      (s.desk realm).Injected ((s.run (scenario.applyFlow realm)).2.desk realm) source a target nodes
        report.nodes := by
  have ran := run_eq (scenario.within_applyFlow realm) s
  have carried : (s.desk realm).run (scenario.applyFlow realm) =
      (.ok report, (s.run (scenario.applyFlow realm)).2.desk realm) :=
    Prod.ext (ran.1.symm.trans ended) ran.2.symm
  generalize (s.run (scenario.applyFlow realm)).2.desk realm = d' at carried
  rw [Scenario.applyFlow, plan] at carried
  exact FlowDesk.run_apply_injects (reached.numbered realm) forest listable absent unused carried

/-- The choice of second factors is put into the copy of the forms of the stock entry point. -/
theorem applyFlow_injects_alternative :
    ∃ report, ((start true).run (Catalog.alternative.applyFlow "acme")).1 = .ok report ∧
      ((start true).desk "acme").Injected
        (((start true).run (Catalog.alternative.applyFlow "acme")).2.desk "acme") "browser"
        "browser-2fa-alternative" "forms"
        [Catalog.twoFactorOptions "email-otp-config" Catalog.gated] report.nodes := by
  have forest : ((start true).desk "acme").realm.Forest := RealmFlows.forest_fresh true 0
  have unused := RealmFlows.unused_of_below (forest.ends "browser") "browser-2fa-alternative"
    (by decide +kernel)
  obtain ⟨report, ended⟩ := exists_of_isOk
    (show ((start true).run (Catalog.alternative.applyFlow "acme")).1.isOk = true by decide +kernel)
  obtain ⟨f, target, found, first, injected⟩ := applyFlow_injects (.start true) rfl forest
    ⟨3, by decide, by decide +kernel⟩ (by decide +kernel) unused ended
  have original : ((start true).desk "acme").realm.flow? "browser" =
      some (FlowDesk.stockBrowser 0) := rfl
  cases found.symm.trans original
  have forms : (FlowDesk.stockBrowser 0).nested.find?
      (fun n => FlowPlan.marks "forms" ("browser-2fa-alternative" ++ " " ++ n)) = some "forms" := by
    decide +kernel
  cases first.symm.trans forms
  exact ⟨report, ended, injected⟩

/-- A server on which a flow was made that calls for two others, of which the second is named for
forms. -/
def twoStages : MemoryServer :=
  ((((start false).run ((Operation.createFlow "login" "" .basic).work "acme")).2.run
    ((Operation.addSubflow "login" "first" .basic).work "acme")).2.run
    ((Operation.addSubflow "login" "forms" .basic).work "acme")).2

/-- A copy of that flow which is itself named for forms. -/
def formsCopy : Scenario where
  realm := "acme"
  roles := []
  users := []
  localization := none
  flow := .copyAndInject "login" "forms copy" "forms" [.leaf "email-code" .required none]

/-- The name of the copy counts: the nodes need not be in the copy of the first subflow of which the
own name holds the marker. -/
theorem not_injects_by_own_name :
    ¬∀ (s : MemoryServer) (scenario : Scenario) (realm source a marker : String) (nodes : List Node),
      s.Reached → scenario.flow = .copyAndInject source a marker nodes →
      (s.desk realm).realm.Forest → ¬(s.desk realm).realm.hasFlow a = true →
      (∀ n, (s.desk realm).realm.Reaches source n → n ≠ source →
        ¬(s.desk realm).realm.hasFlow (a ++ " " ++ n) = true) →
      ∀ report : BuildReport, (s.run (scenario.applyFlow realm)).1 = .ok report →
        ∃ f target, (s.desk realm).realm.flow? source = some f ∧
          f.nested.find? (FlowPlan.marks marker) = some target ∧
          (s.desk realm).Injected ((s.run (scenario.applyFlow realm)).2.desk realm) source a target
            nodes report.nodes := by
  intro injects
  have built : twoStages.Built :=
    .run (.run (.run (.start false) "acme" (.createFlow "login" "" .basic) trivial) "acme"
      (.addSubflow "login" "first" .basic) trivial) "acme" (.addSubflow "login" "forms" .basic) trivial
  have forest := built.forest "acme"
  have unused := RealmFlows.unused_of_below (forest.ends "login") "forms copy" (by decide +kernel)
  obtain ⟨report, ended⟩ := exists_of_isOk
    (show (twoStages.run (formsCopy.applyFlow "acme")).1.isOk = true by decide +kernel)
  obtain ⟨f, target, found, first, injected⟩ := injects twoStages formsCopy "acme" "login" "forms copy"
    "forms" _ built.reached rfl forest (by decide +kernel) unused report ended
  have named : ((twoStages.desk "acme").realm.flow? "login").bind
      (fun f => f.nested.find? (FlowPlan.marks "forms")) = some "forms" := by decide +kernel
  rw [found, Option.bind_some, first] at named
  cases named
  obtain ⟨-, f', xs, -, -, extended, shows⟩ := injected.behind
  -- The leaf is in the copy of the first subflow, and that of the second is as empty as its original.
  have bare : (((twoStages.run (formsCopy.applyFlow "acme")).2.desk "acme").realm.flow?
      (FlowDesk.renamed "login" "forms copy" "forms")).map (·.executions) = some [] := by
    decide +kernel
  rw [extended, Option.map_some, Option.some_inj, List.append_eq_nil_iff] at bare
  obtain ⟨-, rfl⟩ := bare
  cases shows

end MemoryServer

end RealmSetup
