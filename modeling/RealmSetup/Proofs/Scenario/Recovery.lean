import RealmSetup.Proofs.Flow.Construction
import RealmSetup.Proofs.Flow.Leftovers
import RealmSetup.Proofs.Flow.Likeness
import RealmSetup.Proofs.Scenario.Plans
import RealmSetup.Scenario.Catalog

/-!
# Recovery by repetition

Nothing is rolled back where carrying out a plan is broken off.  What it leaves behind hangs below the
flow of the plan, though (`Leftover`), whatever number of requests were answered
(`along_apply_leftover`), so that the next run deletes it together with this flow and finds the realm as
the first run found it once it had cleared it (`Leftover.without`).  From there on both runs go the same
way, up to the identifiers they are given (`Alike`), and `run_apply_again` concludes that the second
succeeds if the first would have, with the same result.
-/

namespace RealmSetup

open Builder

namespace FlowDesk

variable {base e : FlowDesk} {a : String}

/-- A desk that was cleared of leftovers is like the one that was cleared at first. -/
theorem Leftover.alike (left : Leftover base a e) (absent : ¬base.realm.hasFlow a = true)
    (h : base.Numbered) : base.realm.Alike (e.without a).realm := by
  refine RealmFlows.alike_of_flows (left.without absent) fun x hx c hc => ?_
  rw [contentIn, contentIn, configs_without, left.configs c (h.configs_issued x hx c hc)]

end FlowDesk

namespace FlowPlan

/-- None of the names that a plan derives for its copies is that of a flow outside the subtree of the
flow it makes. -/
def Unclaimed (r : RealmFlows) : FlowPlan → Prop
  | .fresh _ => True
  | .copyAndInject source aliasName _ _ => ∀ b, r.Reaches source b → b ≠ source →
      r.hasFlow (aliasName ++ " " ++ b) = true → r.Reaches aliasName (aliasName ++ " " ++ b)

end FlowPlan

namespace FlowDesk

variable {d d' e : FlowDesk} {a : String} {plan : FlowPlan}

/-! ## The course of carrying out a plan -/

/-- The copies that a plan makes on a cleared desk have names that are free. -/
theorem free_of_unclaimed {source marker : String} {nodes : List Node}
    (ends : d.realm.Ends a) (top : ∀ f ∈ d.realm.flows, f.aliasName = a → f.topLevel = true)
    (unclaimed : (FlowPlan.copyAndInject source a marker nodes).Unclaimed d.realm) {b : String}
    (reached : (d.without a).realm.Reaches source b) :
    ¬(d.without a).realm.hasFlow (renamed source a b) = true := by
  by_cases same : b = source
  · rw [same, renamed_self]
    exact not_hasFlow_without top
  · rw [renamed_of_ne a same]
    intro there
    obtain ⟨before, kept⟩ := hasFlow_without_iff.1 there
    have below := unclaimed b (reached.mono fun _ _ called => calls_without called) same before
    have doomed := (RealmFlows.mem_aliasesBelow ends).2 below
    have no_flow : d.realm.flow? a = none := by
      rw [RealmFlows.flow?_eq_none]
      exact fun f hf name => kept ⟨isListed_iff.2 ⟨f, hf, top f hf name, name⟩, doomed⟩
    rcases Relation.ReflTransGen.cases_head below with self | ⟨c, called, -⟩
    · exact ne_append_name a b self
    · rw [RealmFlows.Calls, RealmFlows.calledBy_of_none no_flow] at called
      exact absurd called List.not_mem_nil

/-- The flow of a plan that is made on a cleared desk is there, and is all that was left. -/
theorem leftover_of_opens (ends : ∀ b, d.realm.Ends b)
    (top : ∀ f ∈ d.realm.flows, f.aliasName = plan.aliasName → f.topLevel = true)
    (unclaimed : plan.Unclaimed d.realm) (opens : plan.Opens (d.without plan.aliasName) d') :
    d'.realm.hasFlow plan.aliasName = true ∧ Leftover (d.without plan.aliasName) plan.aliasName d' := by
  have absent := not_hasFlow_without top
  cases plan with
  | fresh tree =>
    cases opens
    exact ⟨hasFlow_opened.2 (.inr rfl), leftover_createFlow absent _ _⟩
  | copyAndInject source aliasName marker nodes =>
    obtain ⟨creation, copied⟩ := opens
    rcases copyFlow_cases copied with ⟨taken, -⟩ | ⟨-, there, rfl⟩
    · exact absurd taken absent
    · have source_ends : (d.without aliasName).realm.Ends source :=
        (ends source).of_calls fun _ _ called => .inl (calls_without called)
      exact ⟨hasFlow_copied source_ends there absent, leftover_copied absent source_ends
        fun b reached => free_of_unclaimed (ends aliasName) top unclaimed reached⟩

/-- Wherever carrying out a plan is broken off, the desk is as before, or differs from the cleared desk
by leftovers. -/
theorem along_apply_leftover (h : d.Numbered) (ends : ∀ b, d.realm.Ends b)
    (top : ∀ f ∈ d.realm.flows, f.aliasName = plan.aliasName → f.topLevel = true)
    (unclaimed : plan.Unclaimed d.realm) (realm : String) :
    Along (fun e => e = d ∨ Leftover (d.without plan.aliasName) plan.aliasName e) (fun _ _ => True)
      (plan.apply realm) d := by
  have absent := not_hasFlow_without top
  have opening : ∀ d', plan.Opens (d.without plan.aliasName) d' → d'.realm.hasFlow plan.aliasName = true ∧
      Leftover (d.without plan.aliasName) plan.aliasName d' :=
    fun d' opens => leftover_of_opens ends top unclaimed opens
  have grown : ∀ d' e, plan.Opens (d.without plan.aliasName) d' → d'.Grows _ e →
      Leftover (d.without plan.aliasName) plan.aliasName e :=
    fun d' e opens grows => (opening d' opens).2.grows (opening d' opens).1 grows
  refine along_apply h realm (.inl rfl) (.inr (Leftover.refl absent))
    (fun d' opens => .inr (opening d' opens).2) (fun d' parent opens reached _ => ?_)
    (fun d' opens b _ free there => free (hasFlow_of_kept (opening d' opens).2.kept there))
    (fun d' e opens grows => .inr (grown d' e opens grows))
    fun d' e b opens grows => .inr ((grown d' e opens grows).withEntryPoint b)
  exact (opening d' opens).2.hangs.own_of_reaches absent reached

/-! ## Running again -/

/-- The flow of a plan is made on a desk as on one that is alike. -/
theorem alike_prepare (h : d.realm.Alike e.realm) {realm parent : String}
    (ended : run (plan.prepare realm) d = (.ok parent, d')) :
    ∃ e', run (plan.prepare realm) e = (.ok parent, e') ∧ d'.realm.Alike e'.realm := by
  cases plan with
  | fresh tree =>
    have created := fun d => run_createFlow d realm tree.aliasName tree.description tree.kind
    rw [FlowPlan.prepare, run_bind_ok (created d)] at ended
    rw [FlowPlan.prepare, run_bind_ok (created e)]
    cases ended
    exact ⟨_, rfl, alike_createFlow h _ _ _⟩
  | copyAndInject source aliasName marker nodes =>
    obtain ⟨creation, between, copied, ended⟩ := exists_of_run_bind ended
    obtain ⟨row, between', found, ended⟩ := exists_of_run_bind ended
    cases ended
    have made : d.copyFlow source aliasName = .ok (creation, between) := by
      rw [run_copyFlow] at copied
      split at copied
      · next result =>
        cases copied
        exact result
      · cases copied
    obtain ⟨other, made', alike⟩ := alike_copyFlow h made
    have there : between.realm.hasFlow aliasName = true := by
      by_contra absent
      rw [run_findChild_error between realm absent] at found
      cases found
    have there' : other.realm.hasFlow aliasName = true := (alike.hasFlow aliasName).trans there
    rw [run_findChild between realm there] at found
    simp only [Prod.mk.injEq] at found
    obtain ⟨found, rfl⟩ := found
    obtain ⟨row', found', same⟩ := alike_findDirectChild (alike.listing aliasName)
      (fun a b alike => by simp only [FlowPlan.isMarked, alike.isFlow, alike.displayName]) _ found
    have copied' : run (Builder.copyFlow realm source aliasName) e = (.ok creation, other) := by
      rw [run_copyFlow, made']
    have searched := run_findChild other realm there' ("subflow containing `" ++ marker ++ "`")
      (FlowPlan.isMarked marker)
    rw [found'] at searched
    refine ⟨other, (run_bind_ok copied').trans ((run_bind_ok searched).trans ?_), alike⟩
    unfold Execution.subflowAlias
    rw [same.isFlow, same.aliasName, same.displayName]
    rfl

end FlowDesk

/-- Two realms are the same but for identifiers, to all who look at their flows. -/
structure RealmFlows.SameResult (r r' : RealmFlows) : Prop where
  /-- Every flow lists the same rows. -/
  listings : ∀ a, List.Forall₂ (Execution.Alike r.configs r'.configs) (r.listing a) (r'.listing a)
  /-- The same flows are listed. -/
  topLevel : r'.topLevelFlows.map FlowRecord.aliasName = r.topLevelFlows.map FlowRecord.aliasName
  /-- The same flow is the entry point. -/
  entryPoint : r'.entryPoint = r.entryPoint

namespace FlowDesk

variable {d d' e : FlowDesk} {plan : FlowPlan}

/-- From desks that are alike once they are cleared, a plan is carried out with the same result. -/
theorem run_apply_of_alike (hd : d.Numbered) (he : e.Numbered)
    (alike : (d.without plan.aliasName).realm.Alike (e.without plan.aliasName).realm) {realm : String}
    {report : BuildReport} (ended : run (plan.apply realm) d = (.ok report, d')) :
    ∃ report' e', run (plan.apply realm) e = (.ok report', e') ∧ d'.realm.SameResult e'.realm := by
  obtain ⟨parent, opened, built, filled, made, plants, there, rfl, rfl⟩ :=
    (run_apply_iff hd realm plan _ _).1 ended
  obtain ⟨opened', made', alike⟩ := alike_prepare alike made
  have numbered : opened.Numbered := by
    have kept := (hd.without plan.aliasName).run (plan.prepare realm)
    rwa [made] at kept
  have numbered' : opened'.Numbered := by
    have kept := (he.without plan.aliasName).run (plan.prepare realm)
    rwa [made'] at kept
  obtain ⟨built', filled', plants', alike⟩ := plants.alike alike numbered numbered'
  have there' : filled'.realm.hasFlow plan.aliasName = true :=
    (alike.hasFlow plan.aliasName).trans there
  refine ⟨_, _, (run_apply_iff he realm plan _ _).2
    ⟨parent, opened', built', filled', made', plants', there', rfl, rfl⟩, ?_⟩
  have alike : (filled.withEntryPoint plan.aliasName).realm.Alike
    (filled'.withEntryPoint plan.aliasName).realm := alike
  exact ⟨alike.listing, alike.topLevelFlows, rfl⟩

/-- Whatever a run that was broken off has left, a run from there has the result that the first would
have had. -/
theorem run_apply_again (h : d.Numbered) (ends : ∀ b, d.realm.Ends b)
    (top : ∀ f ∈ d.realm.flows, f.aliasName = plan.aliasName → f.topLevel = true)
    (unclaimed : plan.Unclaimed d.realm) {realm : String} {report : BuildReport}
    (ended : run (plan.apply realm) d = (.ok report, d')) (requests : Nat) (refusal : Error)
    (he : (d.runFor requests refusal (plan.apply realm)).2.Numbered) :
    ∃ report' e', run (plan.apply realm) (d.runFor requests refusal (plan.apply realm)).2 =
      (.ok report', e') ∧ d'.realm.SameResult e'.realm := by
  refine run_apply_of_alike h he ?_ ended
  rcases runFor_of_along (along_apply_leftover h ends top unclaimed realm) requests refusal with same | left
  · rw [same]
    exact RealmFlows.alike_of_flows rfl fun _ _ _ _ => rfl
  · exact left.alike (not_hasFlow_without top) (h.without plan.aliasName)

end FlowDesk

namespace MemoryServer

/-- At any server whose flows in a realm are a forest: if a scenario can be carried out there, and it is
broken off after any number of requests, then it can be carried out afterwards, with the result that it
would have had. -/
theorem run_applyFlow_again {s : MemoryServer} (reached : s.Reached) (scenario : Scenario)
    (realm : String) (forest : (s.desk realm).realm.Forest)
    (root : ∀ f, (s.desk realm).realm.flow? scenario.flow.aliasName = some f → f.topLevel = true)
    (unclaimed : scenario.flow.Unclaimed (s.desk realm).realm) {report : BuildReport}
    (ended : (s.run (scenario.applyFlow realm)).1 = .ok report) (requests : Nat) (refusal : Error) :
    ∃ report',
      ((s.runFor requests refusal (scenario.applyFlow realm)).2.run (scenario.applyFlow realm)).1 =
        .ok report' ∧
      ((s.run (scenario.applyFlow realm)).2.desk realm).realm.SameResult
        (((s.runFor requests refusal (scenario.applyFlow realm)).2.run
          (scenario.applyFlow realm)).2.desk realm).realm := by
  have within := scenario.within_applyFlow realm
  have top : ∀ f ∈ (s.desk realm).realm.flows, f.aliasName = scenario.flow.aliasName →
      f.topLevel = true := by
    rintro f hf name
    obtain ⟨g, found⟩ := RealmFlows.hasFlow_iff.1 (RealmFlows.hasFlow_of_mem hf)
    rw [forest.eq_of_flow? found hf rfl]
    exact root g (name ▸ found)
  have first := run_eq within s
  have broken := runFor_eq within requests refusal s
  have again := run_eq within (s.runFor requests refusal (scenario.applyFlow realm)).2
  have numbered := (reached.runFor requests refusal (scenario.applyFlow realm)).numbered realm
  rw [broken.2] at again numbered
  obtain ⟨report', e', ended', same⟩ := FlowDesk.run_apply_again (reached.numbered realm) forest.ends
    top unclaimed (Prod.ext (first.1.symm.trans ended) rfl) requests refusal numbered
  have ended' : ((s.desk realm).runFor requests refusal (scenario.applyFlow realm)).2.run
      (scenario.applyFlow realm) = (.ok report', e') := ended'
  rw [ended'] at again
  refine ⟨report', again.1, ?_⟩
  rw [first.2, again.2]
  exact same

/-- None of the names of the copies of the stock entry point is taken in a realm that begins. -/
theorem unclaimed_alternative :
    Catalog.alternative.flow.Unclaimed ((start true).desk "acme").realm := by
  intro b reached other there
  have ends := (RealmFlows.forest_fresh true 0).ends "browser"
  have mem := (RealmFlows.mem_aliasesBelow ends).2 reached
  have names : (FlowDesk.fresh true 0).realm.aliasesBelow "browser" =
      ["browser", "forms", "Browser - Conditional OTP"] := by decide +kernel
  rw [names] at mem
  simp only [List.mem_cons, List.not_mem_nil, or_false] at mem
  rcases mem with rfl | rfl | rfl
  · exact absurd rfl other
  · exact absurd there (by decide +kernel)
  · exact absurd there (by decide +kernel)

/-- A copy of the stock entry point, broken off when only half of its new nodes are there. -/
theorem run_alternative_again :
    ∃ report,
      (((start true).runFor 10 (notFound "") (Catalog.alternative.applyFlow "acme")).2.run
        (Catalog.alternative.applyFlow "acme")).1 = .ok report ∧
      (((start true).run (Catalog.alternative.applyFlow "acme")).2.desk "acme").realm.SameResult
        ((((start true).runFor 10 (notFound "") (Catalog.alternative.applyFlow "acme")).2.run
          (Catalog.alternative.applyFlow "acme")).2.desk "acme").realm := by
  have absent : ((start true).desk "acme").realm.flow? Catalog.alternative.flow.aliasName = none := by
    decide +kernel
  have succeeds : ((start true).run (Catalog.alternative.applyFlow "acme")).1.isOk = true := by
    decide +kernel
  cases ended : ((start true).run (Catalog.alternative.applyFlow "acme")).1 with
  | error e =>
    rw [ended] at succeeds
    cases succeeds
  | ok report =>
    exact run_applyFlow_again (.start true) Catalog.alternative "acme"
      (RealmFlows.forest_fresh true 0) (fun f found => nomatch absent.symm.trans found)
      unclaimed_alternative ended 10 (notFound "")

end MemoryServer

end RealmSetup
