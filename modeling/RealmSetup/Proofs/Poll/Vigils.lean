import Mathlib.Algebra.Order.Floor.Div
import RealmSetup.Inspection
import RealmSetup.Poll
import RealmSetup.Proofs.Effect.Courses

/-!
# Searches against the clock

A search is run here in surroundings of which nothing is known but the passing of time: a fetch takes
any time and finds anything, a sleep lasts exactly as long as asked, and nothing else takes time.  A
`Vigil` is where such a search stands, with a record of the fetches made and of the elements tested.

All that a search does between two fetches is said once.  `Vain` is what holds whenever a search is
about to fetch: nothing was accepted so far, the time is not over, and as many pauses as there were
fetches have gone by, of which at most the last was cut short.  A round either ends the search or keeps
`Vain` (`Vain.paused`), so that a search ends in one of the two ways that `Ends` lists (`ends_search`).
The two bounds, how long a search may last and how soon it sees what has come in time, are read off
these.
-/

namespace RealmSetup

variable {α : Type}

theorem Duration.nanos_min (d e : Duration) : (d.min e).nanos = Min.min d.nanos e.nanos := by
  rw [Duration.min, apply_ite Duration.nanos]
  rfl

/-! ## The surroundings -/

/-- What a fetch comes to: the time it takes, in nanoseconds, and what it finds. -/
structure Fetch (α : Type) where
  took : Nat
  items : List α

/-- A fetch that was made, with the time at which it began. -/
structure Glance (α : Type) extends Fetch α where
  began : Nat

/-- Where a search stands: the time, and in order the fetches it made and the elements it tested. -/
structure Vigil (α : Type) where
  clock : Nat
  glances : List (Glance α)
  tested : List α

namespace Vigil

/-- A search that has not made a fetch. -/
def start (begun : Nat) : Vigil α := ⟨begun, [], []⟩

variable (fetches : Nat → Nat → Fetch α) (accept : α → Bool)

/-- What the next fetch comes to, where `fetches n t` is what the fetch after `n` others comes to if it
begins at the time `t`. -/
def next (v : Vigil α) : Fetch α := fetches v.glances.length v.clock

/-- The next fetch is made. -/
def glance (v : Vigil α) : Vigil α :=
  { v with
    clock := v.clock + (v.next fetches).took
    glances := v.glances ++ [⟨v.next fetches, v.clock⟩] }

/-- Elements are tested. -/
def test (v : Vigil α) (items : List α) : Vigil α := { v with tested := v.tested ++ items }

/-- Time passes. -/
def pause (v : Vigil α) (nanos : Nat) : Vigil α := { v with clock := v.clock + nanos }

/-- The time that has passed since a search began. -/
def since (v : Vigil α) (begun : Nat) : Duration := ⟨v.clock - begun⟩

@[simp] theorem nanos_since (v : Vigil α) (begun : Nat) : (v.since begun).nanos = v.clock - begun :=
  rfl

@[simp] theorem clock_pause (v : Vigil α) (nanos : Nat) : (v.pause nanos).clock = v.clock + nanos :=
  rfl

/-- Answers the calls of a search. -/
def serve : Answering (Lookout α) (Vigil α)
  | .fetch => fun v => (.ok (v.next fetches).items, v.glance fetches)
  | .test a => fun v => (accept a, v.test [a])
  | .elapsed => fun v => (⟨v.clock⟩, v)
  | .sleep d => fun v => ((), v.pause d.nanos)
  | .note _ => fun v => ((), v)

end Vigil

namespace Lookout

variable (fetches : Nat → Nat → Fetch α) (accept : α → Bool) (v : Vigil α)

theorem eval_fetch :
    Attempt.eval (Vigil.serve fetches accept) fetch v
      = (.ok (v.next fetches).items, v.glance fetches) :=
  rfl

theorem eval_test (a : α) :
    Attempt.eval (Vigil.serve fetches accept) (test a) v = (.ok (accept a), v.test [a]) :=
  rfl

theorem eval_elapsed :
    Attempt.eval (Vigil.serve fetches accept) elapsed v = (.ok ⟨v.clock⟩, v) :=
  rfl

/-- Elements are tested in order, up to the first that is accepted and none after it. -/
theorem eval_findM?_test (items : List α) :
    Attempt.eval (Vigil.serve fetches accept) (items.findM? test) v
      = (.ok (items.find? accept), v.test (inspected accept items)) := by
  induction items generalizing v with
  | nil => simp [List.findM?, inspected, Vigil.test]
  | cons a rest ih =>
    rw [List.findM?, Attempt.eval_bind_ok _ (eval_test fetches accept v a)]
    cases accepted : accept a with
    | true => simp [inspected, accepted]
    | false => simp [inspected, accepted, ih, Vigil.test]

end Lookout

/-- Nothing that was found is accepted. -/
def Barren (accept : α → Bool) (glances : List (Glance α)) : Prop :=
  ∀ w ∈ glances, ∀ a ∈ w.items, accept a = false

namespace PollPolicy

variable (p : PollPolicy) (criteria : String) (fetches : Nat → Nat → Fetch α) (accept : α → Bool)

/-- The result of a search that begins at a time, and its vigil. -/
def outcome (begun : Nat) : Except Error α × Vigil α :=
  Attempt.eval (Vigil.serve fetches accept) (p.search criteria) (.start begun)

/-- What becomes of a vigil in the course of a round: what there is is fetched, and elements are
tested until one is accepted. -/
def look (v : Vigil α) : Vigil α :=
  (v.glance fetches).test (inspected accept (v.next fetches).items)

@[simp] theorem clock_look (v : Vigil α) :
    (look fetches accept v).clock = v.clock + (v.next fetches).took :=
  rfl

@[simp] theorem glances_look (v : Vigil α) :
    (look fetches accept v).glances = v.glances ++ [⟨v.next fetches, v.clock⟩] :=
  rfl

theorem tested_look (v : Vigil α) :
    (look fetches accept v).tested = v.tested ++ inspected accept (v.next fetches).items :=
  rfl

/-- What holds of every fetch after a round holds of those before it and of that of the round. -/
theorem forall_mem_look {P : Glance α → Prop} (v : Vigil α) :
    (∀ w ∈ (look fetches accept v).glances, P w) ↔
      (∀ w ∈ v.glances, P w) ∧ P ⟨v.next fetches, v.clock⟩ := by
  rw [glances_look, List.forall_mem_append, List.forall_mem_singleton]

/-! ## One round -/

/-- Gives up, at the time at which a vigil stands. -/
def giveUp (begun : Nat) (v : Vigil α) : Except Error α × Vigil α :=
  (.error (.timeout criteria (v.since begun)), v)

theorem eval_expire (begun : Nat) (attempts : UInt32) (v : Vigil α) :
    Attempt.eval (Vigil.serve fetches accept) (expire criteria attempts (v.since begun)) v
      = giveUp criteria begun v :=
  rfl

/-- What becomes of a vigil in the course of a round and the pause after it. -/
def rest (begun : Nat) (v : Vigil α) : Vigil α :=
  (look fetches accept v).pause
    (p.interval.min (p.timeout.sub ((look fetches accept v).since begun))).nanos

@[simp] theorem clock_rest (begun : Nat) (v : Vigil α) :
    (rest p fetches accept begun v).clock = v.clock + (v.next fetches).took
      + min p.interval.nanos (p.timeout.nanos - (v.clock + (v.next fetches).took - begun)) := by
  simp only [rest, Vigil.clock_pause, clock_look, Duration.nanos_min]
  rfl

@[simp] theorem glances_rest (begun : Nat) (v : Vigil α) :
    (rest p fetches accept begun v).glances = v.glances ++ [⟨v.next fetches, v.clock⟩] :=
  rfl

theorem tested_rest (begun : Nat) (v : Vigil α) :
    (rest p fetches accept begun v).tested = v.tested ++ inspected accept (v.next fetches).items :=
  rfl

/-- A round ends the search with what it finds, or when it finds nothing and time has run out.
Otherwise there is a pause, unless none is left, and another round. -/
theorem eval_searchFrom (begun left : Nat) (attempts : UInt32) (v : Vigil α) :
    Attempt.eval (Vigil.serve fetches accept) (p.searchFrom criteria ⟨begun⟩ left attempts) v
      = match (v.next fetches).items.find? accept with
        | some a => (.ok a, look fetches accept v)
        | none =>
          if p.timeout.nanos ≤ ((look fetches accept v).since begun).nanos then
            giveUp criteria begun (look fetches accept v)
          else
            match left with
            | 0 => giveUp criteria begun (look fetches accept v)
            | left + 1 =>
              Attempt.eval (Vigil.serve fetches accept)
                (p.searchFrom criteria ⟨begun⟩ left (attempts + 1))
                (rest p fetches accept begun v) := by
  rw [searchFrom.eq_def, Attempt.eval_bind_ok _ (Lookout.eval_fetch fetches accept v),
    Attempt.eval_bind_ok _ (Lookout.eval_findM?_test fetches accept _ _)]
  cases (v.next fetches).items.find? accept with
  | some a => rfl
  | none =>
    change Attempt.eval _ (Lookout.elapsed >>= _) (look fetches accept v) = _
    rw [Attempt.eval_bind_ok _ (Lookout.eval_elapsed fetches accept _)]
    change Attempt.eval _ (if p.timeout.nanos ≤ ((look fetches accept v).since begun).nanos
      then _ else _) _ = if p.timeout.nanos ≤ ((look fetches accept v).since begun).nanos
        then _ else _
    split
    · exact eval_expire criteria fetches accept begun attempts _
    · cases left with
      | zero => exact eval_expire criteria fetches accept begun attempts _
      | succ left => rfl

/-! ## Round after round -/

/-- What holds whenever a search that began at a time is about to fetch. -/
structure Vain (begun : Nat) (v : Vigil α) : Prop where
  barren : Barren accept v.glances
  /-- Everything that was found was tested. -/
  tested : v.tested = v.glances.flatMap (·.items)
  begins : begun ≤ v.clock
  ends : v.clock ≤ begun + p.timeout.nanos
  timely : ∀ w ∈ v.glances, w.began ≤ begun + p.timeout.nanos
  /-- Every fetch was followed by a full pause, unless a pause was cut and the time is over. -/
  full : begun + min (p.interval.nanos * v.glances.length) p.timeout.nanos ≤ v.clock
  few : v.glances.length ≤ p.timeout.nanos ⌈/⌉ p.interval.nanos
  /-- No more than a full pause has gone by since the last fetch, or nothing since the beginning. -/
  soon : v.clock ≤ v.glances.getLast?.elim begun fun w => w.began + w.took + p.interval.nanos

theorem vain_start (begun : Nat) : Vain p accept begun (.start begun) where
  barren := by simp [Vigil.start, Barren]
  tested := rfl
  begins := Nat.le_refl begun
  ends := Nat.le_add_right _ _
  timely := by simp [Vigil.start]
  full := by simp [Vigil.start]
  few := by simp [Vigil.start]
  soon := by simp [Vigil.start]

variable {p criteria fetches accept} {begun : Nat} {v : Vigil α}

/-- All that a search fetched up to its last round was tested and refused. -/
theorem Vain.barren_look (h : Vain p accept begun v)
    (nothing : (v.next fetches).items.find? accept = none) :
    Barren accept (look fetches accept v).glances := by
  refine (forall_mem_look fetches accept v).2 ⟨h.barren, ?_⟩
  simpa using nothing

theorem Vain.timely_look (h : Vain p accept begun v) :
    ∀ w ∈ (look fetches accept v).glances, w.began ≤ begun + p.timeout.nanos :=
  (forall_mem_look fetches accept v).2 ⟨h.timely, h.ends⟩

theorem Vain.length_look_le (h : Vain p accept begun v) :
    (look fetches accept v).glances.length ≤ p.timeout.nanos ⌈/⌉ p.interval.nanos + 1 := by
  rw [glances_look, List.length_append]
  exact Nat.add_le_add_right h.few 1

/-- A round that finds nothing while there is time left leads, after a pause, to another round. -/
theorem Vain.paused (h : Vain p accept begun v) (pausing : 0 < p.interval.nanos)
    (nothing : (v.next fetches).items.find? accept = none)
    (early : (look fetches accept v).clock - begun < p.timeout.nanos) :
    Vain p accept begun (rest p fetches accept begun v) := by
  have begins := h.begins
  have ends := h.ends
  have full := h.full
  rw [clock_look] at early
  have room : p.interval.nanos * v.glances.length < p.timeout.nanos := by omega
  have step := Nat.mul_add_one p.interval.nanos v.glances.length
  refine ⟨h.barren_look nothing, ?tested, ?begins, ?ends, h.timely_look, ?full, ?few, ?soon⟩
  case tested =>
    rw [tested_rest, h.tested, inspected_of_find?_eq_none nothing, glances_rest, List.flatMap_append,
      List.flatMap_singleton]
  case begins =>
    rw [clock_rest]
    omega
  case ends =>
    rw [clock_rest]
    omega
  case full =>
    simp only [clock_rest, glances_rest, List.length_append, List.length_singleton]
    omega
  case few =>
    simp only [glances_rest, List.length_append, List.length_singleton]
    by_contra many
    have spent := (ceilDiv_le_iff_le_mul pausing).1 (Nat.le_of_lt_succ (Nat.not_le.1 many))
    exact Nat.not_le.2 room spent
  case soon =>
    simp only [clock_rest, glances_rest, List.getLast?_concat, Option.elim_some]
    omega

/-- How a search ends: in its last round it finds something, or nothing when time has run out. -/
inductive Ends (p : PollPolicy) (criteria : String) (fetches : Nat → Nat → Fetch α)
    (accept : α → Bool) (begun : Nat) : Except Error α × Vigil α → Prop
  | found {v : Vigil α} {a : α} (vain : Vain p accept begun v)
      (hit : (v.next fetches).items.find? accept = some a) :
      Ends p criteria fetches accept begun (.ok a, look fetches accept v)
  | late {v : Vigil α} (vain : Vain p accept begun v)
      (nothing : (v.next fetches).items.find? accept = none)
      (spent : p.timeout.nanos ≤ (look fetches accept v).clock - begun) :
      Ends p criteria fetches accept begun (giveUp criteria begun (look fetches accept v))

/-- A search with pauses enough for the time that is left ends in one of the two ways. -/
theorem ends_searchFrom (pausing : 0 < p.interval.nanos) {left : Nat} {attempts : UInt32}
    (h : Vain p accept begun v)
    (enough : p.timeout.nanos ≤ p.interval.nanos * (left + v.glances.length)) :
    Ends p criteria fetches accept begun
      (Attempt.eval (Vigil.serve fetches accept)
        (p.searchFrom criteria ⟨begun⟩ left attempts) v) := by
  induction left generalizing v attempts with
  | zero =>
    rw [eval_searchFrom]
    cases found : (v.next fetches).items.find? accept with
    | some a => exact .found h found
    | none =>
      have spent : p.timeout.nanos ≤ ((look fetches accept v).since begun).nanos := by
        have full := h.full
        rw [Nat.zero_add] at enough
        rw [Vigil.nanos_since, clock_look]
        omega
      dsimp only
      rw [if_pos spent]
      exact .late h found spent
  | succ left ih =>
    rw [eval_searchFrom]
    cases found : (v.next fetches).items.find? accept with
    | some a => exact .found h found
    | none =>
      dsimp only
      split
      case isTrue spent => exact .late h found spent
      case isFalse early =>
        refine ih (h.paused pausing found (Nat.not_le.1 early)) ?_
        rwa [glances_rest, List.length_append, List.length_singleton, ← Nat.add_assoc,
          Nat.add_right_comm]

/-- The pauses of a search are enough for its whole time. -/
theorem timeout_le_pauses (pausing : 0 < p.interval.nanos) :
    p.timeout.nanos ≤ p.interval.nanos * p.pauses := by
  have shorter : p.interval.asleep.nanos ≤ p.interval.nanos := by
    rw [Duration.asleep, Duration.nanos_min]
    exact Nat.min_le_left _ _
  rw [pauses]
  split
  case isTrue none =>
    exact Nat.le_of_lt (Nat.le_mul_of_pos_left (p.timeout.nanos + 1) pausing)
  case isFalse some =>
    calc p.timeout.nanos
      _ ≤ p.interval.asleep.nanos * (p.timeout.nanos / p.interval.asleep.nanos + 1) :=
        Nat.le_of_lt (Nat.lt_mul_div_succ _ (Nat.pos_of_ne_zero some))
      _ ≤ p.interval.nanos * (p.timeout.nanos / p.interval.asleep.nanos + 1) :=
        Nat.mul_le_mul_right _ shorter

variable (p criteria fetches accept begun)

/-- A search that pauses ends in one of the two ways. -/
theorem ends_search (pausing : 0 < p.interval.nanos) :
    Ends p criteria fetches accept begun (p.outcome criteria fetches accept begun) := by
  rw [outcome, search, Attempt.eval_bind_ok _ (Lookout.eval_elapsed fetches accept _)]
  exact ends_searchFrom pausing (vain_start p accept begun) (timeout_le_pauses pausing)

end PollPolicy

end RealmSetup
