import Mathlib.Data.List.InsertIdx
import RealmSetup.Proofs.Flow.Locating
import RealmSetup.Proofs.Flow.Server

/-!
# Moving an execution

An execution changes its place in its flow one step at a time.  What a move does is said of the other
executions and the place among them: the execution is taken out and put in one place on
(`Move.among_insertIdx`), except at either end, where it stays.  So any moves only change that place, one
after the other (`FlowDesk.run_moves`), and nothing else in any realm
(`MemoryServer.run_moves_places`).
-/

namespace RealmSetup

/-- A move of an execution by one place. -/
inductive Move where
  /-- To the front. -/
  | raise
  /-- To the back. -/
  | lower
  deriving DecidableEq, Repr

namespace Move

/-- The request for a move. -/
def work (realm : String) (id : NodeId) : Move → Builder.Work Unit
  | .raise => Builder.raisePriority realm id
  | .lower => Builder.lowerPriority realm id

/-- The requests for some moves, one after the other. -/
def workAll (realm : String) (id : NodeId) (moves : List Move) : Builder.Work Unit :=
  forM moves fun m => m.work realm id

/-- The executions of a flow after the move of one of them. -/
def among (id : String) : Move → List FlowExecution → List FlowExecution
  | .raise => RealmFlows.raised id
  | .lower => RealmFlows.lowered id

/-- The place after a move from one of `n` places, of which the last is `n - 1`. -/
def step (n place : Nat) : Move → Nat
  | .raise => place - 1
  | .lower => min (place + 1) (n - 1)

theorem step_lt {n place : Nat} (h : place < n) (m : Move) : m.step n place < n := by
  cases m <;> simp only [step] <;> omega

theorem foldl_step_lt {n place : Nat} (h : place < n) (moves : List Move) :
    moves.foldl (step n) place < n := by
  induction moves generalizing place with
  | nil => exact h
  | cons m moves ih => exact ih (m.step_lt h)

/-! ## One move -/

variable {x : FlowExecution} {rest : List FlowExecution} {p : Nat}

theorem raised_insertIdx (apart : ∀ y ∈ rest, y.id ≠ x.id) (h : p ≤ rest.length) :
    RealmFlows.raised x.id (rest.insertIdx p x) = rest.insertIdx (p - 1) x := by
  induction rest generalizing p with
  | nil =>
    obtain rfl : p = 0 := Nat.le_zero.1 h
    rfl
  | cons y rest ih =>
    have first : y.id ≠ x.id := apart y List.mem_cons_self
    match p with
    | 0 => simp [RealmFlows.raised]
    | 1 => simp [RealmFlows.raised, first]
    | p + 2 =>
      have below := ih (fun z hz => apart z (List.mem_cons_of_mem y hz)) (Nat.le_of_succ_le_succ h)
      cases rest with
      | nil => simp at h
      | cons z rest =>
        have second : z.id ≠ x.id := apart z (by simp)
        rw [List.insertIdx_succ_cons, List.insertIdx_succ_cons, RealmFlows.raised, if_neg first,
          if_neg second, ← List.insertIdx_succ_cons, below]
        rfl

theorem lowered_insertIdx (apart : ∀ y ∈ rest, y.id ≠ x.id) (h : p ≤ rest.length) :
    RealmFlows.lowered x.id (rest.insertIdx p x) = rest.insertIdx (min (p + 1) rest.length) x := by
  induction rest generalizing p with
  | nil =>
    obtain rfl : p = 0 := Nat.le_zero.1 h
    rfl
  | cons y rest ih =>
    have first : y.id ≠ x.id := apart y List.mem_cons_self
    cases p with
    | zero => simp [RealmFlows.lowered]
    | succ p =>
      have below := ih (fun z hz => apart z (List.mem_cons_of_mem y hz)) (Nat.le_of_succ_le_succ h)
      have further : min (p + 1 + 1) (y :: rest).length = min (p + 1) rest.length + 1 := by
        rw [List.length_cons]
        omega
      rw [List.insertIdx_succ_cons, further, List.insertIdx_succ_cons, ← below]
      cases inserted : rest.insertIdx p x with
      | nil =>
        have lengths := congrArg List.length inserted
        rw [List.length_insertIdx, if_pos (Nat.le_of_succ_le_succ h)] at lengths
        cases lengths
      | cons z zs => rw [RealmFlows.lowered, if_neg first]

/-- An execution is moved among the others, which stay in their order. -/
theorem among_insertIdx (apart : ∀ y ∈ rest, y.id ≠ x.id) (h : p ≤ rest.length) (m : Move) :
    m.among x.id (rest.insertIdx p x) = rest.insertIdx (m.step (rest.length + 1) p) x := by
  cases m with
  | raise => exact raised_insertIdx apart h
  | lower => exact lowered_insertIdx apart h

theorem among_eraseIdx {xs : List FlowExecution} (apart : (xs.map FlowExecution.id).Nodup)
    (place : xs[p]? = some x) (m : Move) :
    m.among x.id xs = (xs.eraseIdx p).insertIdx (m.step xs.length p) x := by
  obtain ⟨inside, rfl⟩ := List.getElem?_eq_some_iff.1 place
  have length : (xs.eraseIdx p).length + 1 = xs.length := List.length_eraseIdx_add_one inside
  have others : ∀ y ∈ xs.eraseIdx p, y.id ≠ xs[p].id := by
    intro y hy same
    obtain ⟨q, other, hq⟩ := List.mem_eraseIdx_iff_getElem?.1 hy
    refine other ((List.getElem?_inj ?_ apart).1 ?_).symm
    · rwa [List.length_map]
    · rw [List.getElem?_map, List.getElem?_map, hq, place, Option.map_some, Option.map_some, same]
  have moved := among_insertIdx others (p := p) (by omega) m
  rwa [List.insertIdx_eraseIdx_getElem inside, length] at moved

end Move

namespace FlowDesk

variable {d : FlowDesk} {f : FlowRecord} {x : FlowExecution} {i p : Nat}

/-- The desk with other executions in one of its flows. -/
def withExecutions (d : FlowDesk) (i : Nat) (f : FlowRecord) (xs : List FlowExecution) : FlowDesk :=
  { d with realm := { d.realm with flows := d.realm.flows.set i { f with executions := xs } } }

theorem nodup_ids_of_mem (h : d.Numbered) (hf : f ∈ d.realm.flows) :
    (f.executions.map FlowExecution.id).Nodup := by
  have apart := h.executions_nodup
  rw [RealmFlows.executionIds, RealmFlows.executions, List.map_flatMap, List.nodup_flatMap] at apart
  exact apart.1 f hf

/-- A request for a move is granted and changes the flow of the execution alone. -/
theorem run_move (h : d.Numbered) (flow : d.realm.flows[i]? = some f)
    (place : f.executions[p]? = some x) (realm : String) (m : Move) :
    d.run (m.work realm ⟨x.id⟩) = (.ok (), d.withExecutions i f (m.among x.id f.executions)) := by
  have here := RealmFlows.executionAt?_eq_some_iff.2 ⟨f, flow, place⟩
  have known : d.realm.hasExecution x.id = true := by
    rw [RealmFlows.hasExecution_eq_isSome_locate?]
    exact RealmFlows.isSome_locate? here rfl
  have served : d.run (m.work realm ⟨x.id⟩) =
      d.settle (d.atExecution ⟨x.id⟩ fun r => r.changeAround x.id (m.among x.id)) := by
    cases m <;> rfl
  rw [served, atExecution, if_pos known, RealmFlows.changeAround_eq h.executions_nodup flow place]
  rfl

theorem Numbered.run_move (h : d.Numbered) (realm : String) (id : NodeId) (m : Move) :
    (d.run (m.work realm id)).2.Numbered := by
  cases m with
  | raise => exact h.serve (.raisePriority id)
  | lower => exact h.serve (.lowerPriority id)

/-- Moves take an execution from place to place among the others of its flow. -/
theorem run_moves (h : d.Numbered) (flow : d.realm.flows[i]? = some f)
    (place : f.executions[p]? = some x) (realm : String) (moves : List Move) :
    d.run (Move.workAll realm ⟨x.id⟩ moves) =
      (.ok (), d.withExecutions i f
        ((f.executions.eraseIdx p).insertIdx (moves.foldl (Move.step f.executions.length) p) x)) := by
  induction moves generalizing d f p with
  | nil =>
    obtain ⟨inside, rfl⟩ := List.getElem?_eq_some_iff.1 place
    obtain ⟨inside', rfl⟩ := List.getElem?_eq_some_iff.1 flow
    rw [List.foldl_nil, List.insertIdx_eraseIdx_getElem inside, withExecutions,
      List.set_getElem_self]
    rfl
  | cons m moves ih =>
    obtain ⟨inside, -⟩ := List.getElem?_eq_some_iff.1 place
    obtain ⟨inside', -⟩ := List.getElem?_eq_some_iff.1 flow
    have length : (f.executions.eraseIdx p).length + 1 = f.executions.length :=
      List.length_eraseIdx_add_one inside
    have next := m.step_lt inside
    have moved := run_move h flow place realm m
    rw [Move.among_eraseIdx (nodup_ids_of_mem h (List.mem_of_getElem? flow)) place] at moved
    have numbered := h.run_move realm ⟨x.id⟩ m
    rw [moved] at numbered
    have place' : ((f.executions.eraseIdx p).insertIdx (m.step f.executions.length p) x)[
        m.step f.executions.length p]? = some x := by
      rw [List.getElem?_insertIdx_self, if_pos (by omega)]
    have onwards := ih numbered (List.getElem?_set_self inside') place'
    rw [Move.workAll, List.forM_cons, run_bind_ok moved, ← Move.workAll, onwards]
    simp only [withExecutions, List.eraseIdx_insertIdx_self, List.set_set, List.foldl_cons,
      List.length_insertIdx]
    rw [if_pos (by omega), length]

end FlowDesk

namespace MemoryServer

theorem within_workAll (realm : String) (id : NodeId) (moves : List Move) :
    Builder.Within realm (Move.workAll realm id moves) := by
  induction moves with
  | nil => exact Builder.within_pure ()
  | cons m moves ih =>
    refine Builder.within_bind ?_ fun _ => ih
    cases m with
    | raise => exact Builder.within_ask _
    | lower => exact Builder.within_ask _

/-- After any requests, all moves of an execution are granted.  It ends where they lead it step by step,
no further than to the first place and the last; the other executions of its flow stay as they are and in
their order, and nothing else is changed. -/
theorem run_moves_places {s : MemoryServer} (reached : s.Reached) {realm : String} {f : FlowRecord}
    {x : FlowExecution} {i p : Nat} (flow : (s.desk realm).realm.flows[i]? = some f)
    (place : f.executions[p]? = some x) (moves : List Move) :
    let moved := s.run (Move.workAll realm ⟨x.id⟩ moves)
    let q := moves.foldl (Move.step f.executions.length) p
    moved.1 = .ok () ∧ q < f.executions.length ∧
      (moved.2.desk realm).realm =
        { (s.desk realm).realm with
          flows := (s.desk realm).realm.flows.set i
            { f with executions := (f.executions.eraseIdx p).insertIdx q x } } ∧
      ∀ other, other ≠ realm → moved.2.realms.get? other = s.realms.get? other := by
  have within := within_workAll realm ⟨x.id⟩ moves
  obtain ⟨ending, desk⟩ := run_eq within s
  rw [FlowDesk.run_moves (reached.numbered realm) flow place] at ending desk
  have inside := Move.foldl_step_lt (List.getElem?_eq_some_iff.1 place).1 moves
  exact ⟨ending, inside, congrArg FlowDesk.realm desk, fun other => s.get?_run_of_ne within⟩

/-- An execution of the stock entry point is moved beyond both ends: it stays first once and last once. -/
theorem run_moves_places_bothEnds :
    let moved := (start true).run
      (Move.workAll "acme" ⟨"exec-9"⟩ [.raise, .raise, .lower, .lower, .lower, .lower])
    moved.1 = .ok () ∧
      (moved.2.desk "acme").realm.flows.map (fun f => f.executions.map FlowExecution.id) =
        [["exec-8", "exec-10", "exec-11", "exec-9"], ["exec-5", "exec-6"], ["exec-2", "exec-3"]] := by
  have flow : ((start true).desk "acme").realm.flows[0]? = some (FlowDesk.stockBrowser 0) := rfl
  have place : (FlowDesk.stockBrowser 0).executions[1]? =
      some ⟨"exec-9", .disabled, .provider "auth-spnego", none⟩ := by decide +kernel
  obtain ⟨granted, -, after, -⟩ := run_moves_places (.start true) flow place
    [.raise, .raise, .lower, .lower, .lower, .lower]
  refine ⟨granted, ?_⟩
  rw [after]
  decide +kernel

end MemoryServer

end RealmSetup
