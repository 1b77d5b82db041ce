import RealmSetup.Proofs.Flow.Copying
import RealmSetup.Proofs.Flow.WholeFlows

/-!
# The parts of carrying out a plan

A plan is carried out in four parts: an earlier flow of its name is deleted, a flow is made for its nodes
(`FlowPlan.prepare`), the nodes are put in, and the flow is bound (`FlowPlan.apply_eq`).  The first is
that of `FlowDesk.along_deleteFlow` and the third that of `FlowDesk.along_extend` and
`FlowDesk.run_extend_iff`; for the others the lemmas here say how they end and which desks they pass
through.
-/

namespace RealmSetup

open Builder

namespace FlowPlan

/-- The nodes that a plan puts into a flow. -/
def nodes : FlowPlan → List Node
  | .fresh tree => tree.nodes
  | .copyAndInject _ _ _ nodes => nodes

/-- Makes the flow that the nodes of a plan are put into; yields its alias. -/
def prepare (realm : String) : FlowPlan → Work String
  | .fresh tree => do
    let _ ← createFlow realm tree.aliasName tree.description tree.kind
    return tree.aliasName
  | .copyAndInject source aliasName marker _ => do
    let _ ← copyFlow realm source aliasName
    let forms ← findChild realm aliasName ("subflow containing `" ++ marker ++ "`") (isMarked marker)
    return forms.subflowAlias.getD forms.displayName

/-- The parts of carrying out a plan. -/
theorem apply_eq (realm : String) (plan : FlowPlan) :
    plan.apply realm = (do
      let _ ← deleteFlow realm plan.aliasName
      let parent ← plan.prepare realm
      let report ← settled (extend realm (.start plan.aliasName) parent plan.nodes)
      Builder.bind realm report) := by
  have made : plan.construct realm = (do
      let parent ← plan.prepare realm
      settled (extend realm (.start plan.aliasName) parent plan.nodes)) := by
    cases plan <;> simp only [construct, prepare, build, bind_assoc, pure_bind, nodes, aliasName]
  rw [apply, made]
  simp only [bind_assoc]

/-- The first desk on which the flow of a plan is there. -/
def Opens (d d' : FlowDesk) : FlowPlan → Prop
  | .fresh tree => d' = (d.createFlow tree.aliasName tree.description tree.kind).2
  | .copyAndInject source aliasName _ _ => ∃ creation, d.copyFlow source aliasName = .ok (creation, d')

end FlowPlan

namespace FlowDesk

variable {d d' : FlowDesk} {Inv : FlowDesk → Prop} {a : String} {plan : FlowPlan}

/-! ## Making the flow of a plan -/

/-- The subflow that a plan finds in its flow is come to from it. -/
theorem reaches_of_findDirectChild {parent marker description : String} {rows : List Execution}
    (listed : d.listExecutions a = .ok rows) {row : Execution}
    (found : findDirectChild parent rows description (FlowPlan.isMarked marker) = .ok row) :
    d.realm.Reaches a (row.subflowAlias.getD row.displayName) := by
  have all : rows = d.realm.listing a := by
    unfold listExecutions at listed
    split at listed
    · exact (Except.ok.inj listed).symm
    · cases listed
  rw [findDirectChild_eq_ok_iff] at found
  have mem := List.mem_of_find?_eq_some found
  have accepted := List.find?_some found
  simp only [FlowPlan.isMarked, Bool.and_eq_true] at accepted
  have marked : row.isFlow = true := accepted.2.1
  rw [all] at mem
  have named : row.subflowAlias.getD row.displayName = row.displayName := by
    obtain ⟨b, f, -, -, x, -, level, index, rfl⟩ := RealmFlows.exists_of_mem_listing mem
    unfold Execution.subflowAlias
    rw [if_pos marked]
    rfl
  rw [named]
  exact RealmFlows.reaches_of_mem_listing mem marked

/-- The course of making the flow of a plan. -/
theorem along_prepare (realm : String) (plan : FlowPlan) (before : Inv d)
    (made : ∀ d', plan.Opens d d' → Inv d') :
    Along Inv (fun parent d' => plan.Opens d d' ∧ d'.realm.Reaches plan.aliasName parent)
      (plan.prepare realm) d := by
  cases plan with
  | fresh tree =>
    have created := along_createFlow realm tree.aliasName tree.description tree.kind before (made _ rfl)
    refine Attempt.along_bind (created.mono (fun _ h => h) ?_)
    rintro _ d' after rfl
    exact Attempt.along_pure after ⟨rfl, .refl⟩
  | copyAndInject source aliasName marker nodes =>
    have copied := along_copyFlow realm source aliasName before
      fun creation d' result => made d' ⟨creation, result⟩
    refine Attempt.along_bind (copied.mono (fun _ h => h) ?_)
    rintro _ d' after opens
    refine Attempt.along_bind (Attempt.along_bind (along_listExecutions after fun rows listed => ?_))
    exact Attempt.along_ofExcept after fun row found =>
      Attempt.along_pure after ⟨opens, reaches_of_findDirectChild listed found⟩

theorem Numbered.opens (h : d.Numbered) (opens : plan.Opens d d') : d'.Numbered := by
  cases plan with
  | fresh tree =>
    cases opens
    exact h.createFlow _ _ _
  | copyAndInject source aliasName marker nodes =>
    obtain ⟨creation, copied⟩ := opens
    exact h.copyFlow copied

/-! ## Carrying out a plan -/

theorem along_bindReport (realm : String) (report : BuildReport) (before : Inv d)
    (after : ∀ a, Inv (d.withEntryPoint a)) :
    Along Inv (fun _ _ => True) (Builder.bind realm report) d := by
  have bound : Inv (d.serve (.bindBrowserFlow report.flowAlias)).2 := by
    have settled : (d.serve (.bindBrowserFlow report.flowAlias)).2 =
        if d.realm.hasFlow report.flowAlias then d.withEntryPoint report.flowAlias else d := by
      simp only [serve, bindBrowserFlow]
      split <;> rfl
    rw [settled]
    split
    · exact after _
    · exact before
  refine Attempt.along_bind (Attempt.along_ofExcept before fun next _ => ?_)
  refine Attempt.along_bind ((along_bindAsEntryPoint realm _ before bound).mono (fun _ h => h) ?_)
  exact fun _ _ here _ => Attempt.along_pure here trivial

/-- The course of carrying out a plan: what holds of the desk before, of the cleared desk, of one with
the flow of the plan and of all that its nodes are put into one by one holds wherever it ends or is
broken off. -/
theorem along_apply {own : String → Prop} (h : d.Numbered) (realm : String) (before : Inv d)
    (cleared : Inv (d.without plan.aliasName))
    (opening : ∀ d', plan.Opens (d.without plan.aliasName) d' → Inv d')
    (mine : ∀ d' parent, plan.Opens (d.without plan.aliasName) d' →
      d'.realm.Reaches plan.aliasName parent →
      run (plan.prepare realm) (d.without plan.aliasName) = (.ok parent, d') → own parent)
    (named : ∀ d', plan.Opens (d.without plan.aliasName) d' → ∀ b ∈ Node.aliasesAll plan.nodes,
      ¬d'.realm.hasFlow b = true → own b)
    (growing : ∀ d' e, plan.Opens (d.without plan.aliasName) d' → d'.Grows own e → Inv e)
    (binding : ∀ d' e b, plan.Opens (d.without plan.aliasName) d' → d'.Grows own e →
      Inv (e.withEntryPoint b)) :
    Along Inv (fun _ _ => True) (plan.apply realm) d := by
  rw [FlowPlan.apply_eq]
  refine Attempt.along_bind ((along_deleteFlow h realm before cleared).mono (fun _ h => h) ?_)
  rintro _ d' - rfl
  have prepared := (along_prepare realm plan cleared opening).eval
  refine Attempt.along_bind (prepared.mono (fun _ h => h) ?_)
  rintro parent opened - ⟨⟨opens, reached⟩, ended⟩
  have numbered := (h.without plan.aliasName).opens opens
  have filled := along_extend realm numbered (mine opened parent opens reached ended) plan.nodes
    (named opened opens) (.start plan.aliasName)
  refine Attempt.along_bind (filled.mono (fun e grows => growing opened e opens grows) ?_)
  intro report e grows _
  exact along_bindReport realm report (growing opened e opens grows)
    fun b => binding opened e b opens grows

/-- Binding succeeds where the flow of the report is there. -/
theorem run_bindReport (realm a : String) (built : List BuiltNode) (d : FlowDesk) :
    run (Builder.bind realm ⟨a, .created, built⟩) d =
      if d.realm.hasFlow a then (.ok ⟨a, .bound, built⟩, d.withEntryPoint a)
      else (.error (notFound a), d) := by
  have allowed : run (advance .created a .bound) d = (.ok .bound, d) := rfl
  refine (run_bind_ok allowed).trans ?_
  split
  · next there => exact (run_bind_ok (run_bindAsEntryPoint d realm there)).trans rfl
  · next absent => exact run_bind_error (run_bindAsEntryPoint_error d realm absent)

/-- Carrying out a plan succeeds just where its flow can be made, its nodes can be put in one after the
other and its flow is there then. -/
theorem run_apply_iff (h : d.Numbered) (realm : String) (plan : FlowPlan) (report : BuildReport)
    (d' : FlowDesk) :
    run (plan.apply realm) d = (.ok report, d') ↔
      ∃ parent opened built filled,
        run (plan.prepare realm) (d.without plan.aliasName) = (.ok parent, opened) ∧
        opened.Plants parent plan.nodes built filled ∧
        filled.realm.hasFlow plan.aliasName = true ∧
        report = ⟨plan.aliasName, .bound, built⟩ ∧ d' = filled.withEntryPoint plan.aliasName := by
  rw [FlowPlan.apply_eq]
  have prepared := (h.without plan.aliasName).run (plan.prepare realm)
  rw [run_bind_ok (run_deleteFlow_of_numbered h realm plan.aliasName), run_bind]
  cases made : run (plan.prepare realm) (d.without plan.aliasName) with
  | mk result opened =>
    rw [made] at prepared
    cases result with
    | error e =>
      constructor
      · intro ended
        cases ended
      · rintro ⟨parent, _, _, _, ⟨⟩, -⟩
    | ok parent =>
      simp only [run_bind]
      constructor
      · intro ended
        cases put : run (settled (extend realm (.start plan.aliasName) parent plan.nodes)) opened with
        | mk result filled =>
          rw [put] at ended
          cases result with
          | error e => cases ended
          | ok final =>
            obtain ⟨built, plants, rfl⟩ := (run_extend_iff realm prepared _ _ _ _ _).1 put
            simp only [BuildReport.start, BuildReport.addAll, List.nil_append, run_bindReport] at ended
            split at ended
            · next there =>
              cases ended
              exact ⟨parent, opened, built, filled, rfl, plants, there, rfl, rfl⟩
            · cases ended
      · rintro ⟨_, _, built, filled, ⟨⟩, plants, there, rfl, rfl⟩
        rw [(run_extend_iff realm prepared (.start plan.aliasName) _ _ _ _).2 ⟨built, plants, rfl⟩]
        simp only [BuildReport.start, BuildReport.addAll, List.nil_append, run_bindReport, there, if_true]

end FlowDesk

end RealmSetup
