import RealmSetup.Proofs.Flow.Construction
import RealmSetup.Proofs.Flow.Copying
import RealmSetup.Proofs.Flow.EntryPoints
import RealmSetup.Proofs.Flow.WholeFlows

/-!
# What a construction leaves behind

Nothing is rolled back where a construction fails or is broken off.  What it leaves behind hangs below
the flow it was to make, though: `Leftover` says so of a desk, in comparison with the desk on which the
construction began.  It holds when the flow was just created or copied, whatever an extension adds keeps
it (`Leftover.grows`), and to clear a desk for the flow takes away just the leftovers
(`Leftover.without`).  So a flow that is deleted after it was built, as far as it was built, leaves the
realm as it was (`deletion_undoes_build`).
-/

namespace RealmSetup

open Builder

namespace FlowDesk

variable {base d d' e : FlowDesk} {a : String}

/-! ## Leftovers -/

/-- A desk differs from one that was cleared for a flow by what hangs below this flow, by later
configurations and by the entry point. -/
structure Leftover (base : FlowDesk) (a : String) (d : FlowDesk) : Prop where
  /-- The flows that were there are as they were. -/
  kept : d.realm.flows.filter (fun f => base.realm.hasFlow f.aliasName = true) = base.realm.flows
  /-- All others hang below the flow. -/
  hangs : d.realm.Hangs (fun b => ¬base.realm.hasFlow b = true) a
  /-- Configurations are kept under the identifiers they had. -/
  configs : ∀ c, IsNumbered "config" 0 base.issued c →
    d.realm.configs.get? c = base.realm.configs.get? c
  /-- Identifiers are given out in one sequence. -/
  issued : base.issued ≤ d.issued

theorem hasFlow_of_kept
    (kept : d.realm.flows.filter (fun f => base.realm.hasFlow f.aliasName = true) = base.realm.flows)
    {b : String} (there : base.realm.hasFlow b = true) : d.realm.hasFlow b = true := by
  obtain ⟨f, found⟩ := RealmFlows.hasFlow_iff.1 there
  obtain ⟨hf, rfl⟩ := RealmFlows.flow?_eq_some found
  rw [← kept] at hf
  exact RealmFlows.hasFlow_of_mem (List.mem_filter.1 hf).1

theorem filter_hasFlow_self (r : RealmFlows) :
    r.flows.filter (fun f => r.hasFlow f.aliasName = true) = r.flows :=
  List.filter_eq_self.2 fun _ hf => decide_eq_true (RealmFlows.hasFlow_of_mem hf)

/-- Flows added to the end, none of which was there, leave the others as they were. -/
theorem filter_hasFlow_append (r : RealmFlows) {new : List FlowRecord}
    (free : ∀ f ∈ new, ¬r.hasFlow f.aliasName = true) :
    (r.flows ++ new).filter (fun f => r.hasFlow f.aliasName = true) = r.flows := by
  have none : new.filter (fun f => r.hasFlow f.aliasName = true) = [] :=
    List.filter_eq_nil_iff.2 fun f hf there => free f hf (of_decide_eq_true there)
  rw [List.filter_append, filter_hasFlow_self, none, List.append_nil]

section Opening

variable (absent : ¬base.realm.hasFlow a = true)
include absent

/-- Flows that were added to the end, none of which was there, are leftovers if they hang below the flow
and call for none that was there. -/
theorem leftover_append {new : List FlowRecord} (flows : d.realm.flows = base.realm.flows ++ new)
    (configs : d.realm.configs = base.realm.configs) (issued : base.issued ≤ d.issued)
    (free : ∀ f ∈ new, ¬base.realm.hasFlow f.aliasName = true)
    (rooted : ∀ f ∈ new, d.realm.Reaches a f.aliasName)
    (apart : ∀ f ∈ new, ∀ b ∈ f.nested, ¬base.realm.hasFlow b = true)
    (ends : d.realm.Ends a) (top : ∀ f ∈ new, f.aliasName = a → f.topLevel = true) :
    Leftover base a d := by
  have added : ∀ f ∈ d.realm.flows, ¬base.realm.hasFlow f.aliasName = true → f ∈ new := by
    intro f hf mine
    rw [flows] at hf
    exact (List.mem_append.1 hf).resolve_left fun old => mine (RealmFlows.hasFlow_of_mem old)
  refine ⟨?_, ⟨fun f hf mine => rooted f (added f hf mine), fun f hf mine => apart f (added f hf mine),
    ends, fun f hf name => top f (added f hf (name.symm ▸ absent)) name⟩, fun c _ => ?_, issued⟩
  · rw [flows]
    exact filter_hasFlow_append base.realm free
  · rw [configs]

/-- A desk that was just cleared has no leftovers. -/
theorem Leftover.refl : Leftover base a base :=
  leftover_append absent (List.append_nil _).symm rfl (Nat.le_refl _) nofun nofun nofun
    (RealmFlows.ends_of_none (RealmFlows.not_hasFlow.1 absent)) nofun

theorem leftover_createFlow (description : String) (kind : FlowKind) :
    Leftover base a (base.createFlow a description kind).2 := by
  unfold createFlow
  rw [if_neg absent]
  refine leftover_append absent rfl rfl (Nat.le_succ _) ?_ ?_ ?_ ?_ ?_
  · intro f hf
    rw [List.mem_singleton.1 hf]
    exact absent
  · intro f hf
    rw [List.mem_singleton.1 hf]
    exact .refl
  · intro f hf b hb
    rw [List.mem_singleton.1 hf] at hb
    exact absurd hb List.not_mem_nil
  · refine Acc.intro a fun b called => ?_
    rw [RealmFlows.Calls, RealmFlows.calledBy, RealmFlows.flow?_addFlow,
      RealmFlows.not_hasFlow.1 absent, Option.none_or, if_pos rfl] at called
    exact absurd called List.not_mem_nil
  · intro f hf _
    rw [List.mem_singleton.1 hf]

theorem leftover_copied {source : String} (ends : base.realm.Ends source)
    (free : ∀ b, base.realm.Reaches source b → ¬base.realm.hasFlow (renamed source a b) = true) :
    Leftover base a (base.copied source a) := by
  refine leftover_append absent rfl rfl (Nat.le_add_right _ _) ?_ ?_ ?_ (ends_copied ends free) ?_
  · intro f hf
    obtain ⟨b, reached, name⟩ := aliasName_of_mem_copies hf
    rw [name]
    exact free b reached
  · intro f hf
    obtain ⟨b, reached, name⟩ := aliasName_of_mem_copies hf
    rw [name]
    exact reaches_copied ends free reached
  · intro f hf b hb
    obtain ⟨q, g, n, reached, found, rfl⟩ := mem_copies hf
    rw [nested_copyRecord] at hb
    obtain ⟨c, hc, rfl⟩ := List.mem_map.1 hb
    refine free c (reached.tail ?_)
    rwa [RealmFlows.Calls, RealmFlows.calledBy_of_flow? found]
  · intro f hf name
    obtain ⟨q, g, n, reached, found, rfl⟩ := mem_copies hf
    have same : renamed source a g.aliasName = renamed source a source :=
      name.trans (renamed_self source a).symm
    exact beq_iff_eq.2 (renamed_inj same)

end Opening

/-- What an extension of the leftovers makes are leftovers. -/
theorem Leftover.grows (left : Leftover base a d) (root : d.realm.hasFlow a = true)
    (h : d.Grows (fun b => ¬base.realm.hasFlow b = true) d') : Leftover base a d' := by
  refine ⟨(h.kept fun b mine => mine).trans left.kept, ?_, fun c hc => ?_,
    Nat.le_trans left.issued h.issued_le⟩
  · induction h with
    | refl => exact left.hangs
    | spend _ ih => exact ih
    | leaf _ _ _ _ ih => exact ih.of_skeleton (RealmFlows.skeleton_addExecution_leaf _ rfl)
    | subflow grows mine there named free _ ih =>
      exact ih.addSubflow (grows.hasFlow root) mine there free named rfl rfl
    | requirement _ _ _ ih => exact ih.of_skeleton (RealmFlows.skeleton_changeExecution _ fun _ => rfl)
    | config _ _ _ ih =>
      have same : ∀ d : FlowDesk, ∀ id config,
          (d.withConfig id config).realm.skeleton = d.realm.skeleton :=
        fun d id config => RealmFlows.skeleton_changeExecution (r := d.realm) id.text fun _ => rfl
      exact ih.of_skeleton (same _ _ _)
  · rw [h.configs (hc.mono (Nat.le_refl _) left.issued), left.configs c hc]

theorem Leftover.withEntryPoint (left : Leftover base a d) (b : String) :
    Leftover base a (d.withEntryPoint b) :=
  ⟨left.kept, left.hangs.of_skeleton rfl, left.configs, left.issued⟩

/-! ## Clearing -/

/-- Clearing takes all leftovers away, and nothing else. -/
theorem Leftover.without (left : Leftover base a e) (absent : ¬base.realm.hasFlow a = true) :
    (e.without a).realm.flows = base.realm.flows := by
  have hangs := left.hangs
  unfold FlowDesk.without
  split
  · rw [← left.kept]
    -- A flow is below the one that is cleared just where it was not there at first.
    refine List.filter_congr fun f hf => ?_
    have below : f.aliasName ∈ e.realm.aliasesBelow a ↔ ¬base.realm.hasFlow f.aliasName = true :=
      (RealmFlows.mem_aliasesBelow hangs.ends).trans
        ⟨fun reached => hangs.own_of_reaches absent reached, fun mine => hangs.rooted f hf mine⟩
    by_cases there : base.realm.hasFlow f.aliasName = true
    · have kept : f.aliasName ∉ e.realm.aliasesBelow a := fun mem => below.1 mem there
      simp [kept, there]
    · have gone : f.aliasName ∈ e.realm.aliasesBelow a := below.2 there
      simp [gone, there]
  · next unlisted =>
    -- Then there is no such flow, and what would hang below it is not there either.
    rw [← left.kept]
    refine (List.filter_eq_self.2 fun f hf => decide_eq_true ?_).symm
    by_contra mine
    have no_flow : e.realm.flow? a = none := by
      rw [RealmFlows.flow?_eq_none]
      exact fun g hg name => unlisted (isListed_iff.2 ⟨g, hg, hangs.top g hg name, name⟩)
    rcases Relation.ReflTransGen.cases_head (hangs.rooted f hf mine) with rfl | ⟨b, called, -⟩
    · exact RealmFlows.flow?_eq_none.1 no_flow f hf rfl
    · rw [RealmFlows.Calls, RealmFlows.calledBy_of_none no_flow] at called
      exact absurd called List.not_mem_nil

/-! ## Building and deleting -/

/-- Whatever comes of building a tree, its flow is there and is all that was left. -/
theorem leftover_of_build (h : base.Numbered) {t : FlowTree}
    (absent : ¬base.realm.hasFlow t.aliasName = true) (realm : String) :
    (run (build realm t) base).2.realm.hasFlow t.aliasName = true ∧
      Leftover base t.aliasName (run (build realm t) base).2 := by
  have left := leftover_createFlow absent t.description t.kind
  have root : (base.opened t).realm.hasFlow t.aliasName = true := hasFlow_opened.2 (.inr rfl)
  have grows := (along_extend realm (h.createFlow _ _ _) absent t.nodes
    (fun b _ free there => free (hasFlow_of_kept left.kept there)) (.start t.aliasName)).ending.1
  rw [build, run_bind_ok (run_createFlow base realm t.aliasName t.description t.kind)]
  exact ⟨grows.hasFlow root, left.grows root grows⟩

/-- A request that binds nothing, or a note. -/
def BindsNothing : FlowSite.Call → Prop
  | .inl c => c.op.entryPoint? = none
  | .inr _ => True

/-- A construction that binds nothing keeps the entry point. -/
theorem entryPoint_run {α : Type} {realm : String} {w : Work α} (asks : Asks realm w)
    (d : FlowDesk) : (run w d).2.realm.entryPoint = d.realm.entryPoint := by
  have makes : w.run.Makes BindsNothing := by
    refine asks.makes (fun n => Program.makes_call trivial) fun β w step => ?_
    cases step with
    | ask op binds => exact Program.makes_call binds
  have keeps : ∀ c, BindsNothing c → ∀ e : FlowDesk, e.realm.entryPoint = d.realm.entryPoint →
      ((answer c).run e).2.realm.entryPoint = d.realm.entryPoint := by
    intro c binds e kept
    cases c with
    | inl c => exact (e.entryPoint_serve binds).trans kept
    | inr n => exact kept
  exact Program.eval_keeps_of_makes answer keeps makes rfl

/-- A flow that is deleted after it was built leaves the flows and the entry point as they were. -/
theorem run_deleteFlow_of_build (h : base.Numbered) {t : FlowTree}
    (absent : ¬base.realm.hasFlow t.aliasName = true) (realm : String) :
    ∃ e, run (Builder.deleteFlow realm t.aliasName) (run (build realm t) base).2 = (.ok true, e) ∧
      e.realm.flows = base.realm.flows ∧ e.realm.entryPoint = base.realm.entryPoint := by
  obtain ⟨there, left⟩ := leftover_of_build h absent realm
  have deleted := run_deleteFlow_of_numbered (h.run (build realm t)) realm t.aliasName
  obtain ⟨f, found⟩ := RealmFlows.hasFlow_iff.1 there
  obtain ⟨hf, name⟩ := RealmFlows.flow?_eq_some found
  rw [isListed_iff.2 ⟨f, hf, left.hangs.top f hf name, name⟩] at deleted
  refine ⟨_, deleted, left.without absent, ?_⟩
  have asks : Asks realm (Builder.deleteFlow realm t.aliasName) := asks_deleteFlow t.aliasName
  have kept := entryPoint_run asks (run (build realm t) base).2
  rw [deleted] at kept
  dsimp only at kept
  rw [kept]
  exact entryPoint_run (asks_build t) base

end FlowDesk

namespace MemoryServer

variable {s : MemoryServer} {realm : String} {t : FlowTree}

/-- At any server, a flow that is deleted after it was built, whether it was built completely or not,
leaves the flows of the realm with their executions and their order, and the entry point, as they were
if there was no flow of its name. -/
theorem deletion_undoes_build (reached : s.Reached)
    (absent : ¬(s.desk realm).realm.hasFlow t.aliasName = true) :
    ∃ e, (s.run (build realm t)).2.run (deleteFlow realm t.aliasName) = (.ok true, e) ∧
      (e.desk realm).realm.flows = (s.desk realm).realm.flows ∧
      (e.desk realm).realm.entryPoint = (s.desk realm).realm.entryPoint := by
  have built : (s.run (build realm t)).2.desk realm = ((s.desk realm).run (build realm t)).2 :=
    (run_eq (within_build t) s).2
  have within : Within realm (deleteFlow realm t.aliasName) := (asks_deleteFlow t.aliasName).within
  obtain ⟨answered, left⟩ := run_eq within (s.run (build realm t)).2
  obtain ⟨e, deleted, flows, entryPoint⟩ :=
    FlowDesk.run_deleteFlow_of_build (reached.numbered realm) absent realm
  rw [built] at answered left
  have answered := answered.trans (congrArg Prod.fst deleted)
  have left := left.trans (congrArg Prod.snd deleted)
  generalize (s.run (build realm t)).2.run (deleteFlow realm t.aliasName) = ended at answered left
  refine ⟨ended.2, Prod.ext answered rfl, ?_, ?_⟩
  · rw [left]
    exact flows
  · rw [left]
    exact entryPoint

/-- A tree of which a name is taken in a realm with the stock flows, behind a leaf. -/
def clashingTree : FlowTree where
  aliasName := "sign-in"
  description := "Sign-in with a passkey."
  kind := .basic
  nodes := [.leaf "auth-cookie" .alternative none, .subflow "forms" .basic .alternative []]

/-- The tree cannot be built, and what was built of it can be deleted. -/
theorem deletion_undoes_clashing_build :
    ((start true).run (build "acme" clashingTree)).1.isOk = false ∧
      ∃ e, ((start true).run (build "acme" clashingTree)).2.run (deleteFlow "acme" "sign-in") =
          (.ok true, e) ∧
        (e.desk "acme").realm.flows = ((start true).desk "acme").realm.flows ∧
        (e.desk "acme").realm.entryPoint = some "browser" :=
  ⟨by decide +kernel, deletion_undoes_build (t := clashingTree) (.start true) (by decide +kernel)⟩

end MemoryServer

end RealmSetup
