import RealmSetup.Proofs.Poll.Vigils

/-!
# How long a search lasts, and what it sees

A poll is a search of which the surroundings see neither the tests nor how long a pause was meant to be.
Where no pause is longer than the longest sleep, it comes to what the search comes to (`polled_eq`).

Both bounds follow from how a search ends.  It lasts no longer than its whole time and one more fetch,
and it gives up exactly if nothing it ever fetched is accepted (`search_ends_in_time`).  What is there
in time, and stays, is seen after one more pause, by the fetch after the one that was too early for it
(`search_sees_in_time`).
-/

namespace RealmSetup

variable {α : Type}

/-! ## What a poll comes to -/

namespace Vigil

variable (fetches : Nat → Nat → Fetch α)

/-- Answers the calls of a poll. -/
def watch : Answering (Watch α) (Vigil α)
  | .fetch => fun v => (.ok (v.next fetches).items, v.glance fetches)
  | .elapsed => fun v => (⟨v.clock⟩, v)
  | .sleep d => fun v => ((), v.pause d.nanos)
  | .note _ => fun v => ((), v)

/-- The vigil without a record of the tests. -/
def untested (v : Vigil α) : Vigil α := { v with tested := [] }

end Vigil

namespace Lookout

/-- Sleeps for no longer than anything sleeps. -/
def Call.Short : Call α → Prop
  | .sleep d => d.nanos ≤ Duration.longestSleep.nanos
  | _ => True

theorem makes_findM?_test (items : List α) : (items.findM? test).run.Makes Call.Short := by
  induction items with
  | nil => trivial
  | cons a rest ih =>
    refine Attempt.makes_bind ⟨trivial, fun _ => trivial⟩ fun accepted => ?_
    cases accepted with
    | true => trivial
    | false => exact ih

end Lookout

namespace PollPolicy

variable (p : PollPolicy) (criteria : String) (fetches : Nat → Nat → Fetch α) (accept : α → Bool)
  (begun : Nat)

/-- No pause is longer than the longest sleep. -/
def Brief : Prop := min p.interval.nanos p.timeout.nanos ≤ Duration.longestSleep.nanos

theorem makes_expire (attempts : UInt32) (elapsed : Duration) :
    (expire (α := α) criteria attempts elapsed).run.Makes Lookout.Call.Short :=
  ⟨trivial, fun _ => ⟨trivial, fun _ => trivial⟩⟩

variable {p} {started : Duration}

/-- A round sleeps for a short time if the round after it does. -/
theorem makes_round (short : p.Brief) {left : Nat} {attempts : UInt32}
    (again : ∀ m, left = m + 1 →
      (p.searchFrom (α := α) criteria started m (attempts + 1)).run.Makes Lookout.Call.Short) :
    (p.searchFrom (α := α) criteria started left attempts).run.Makes Lookout.Call.Short := by
  rw [searchFrom.eq_def]
  refine Attempt.makes_bind ⟨trivial, fun _ => trivial⟩ fun items => ?_
  refine Attempt.makes_bind (Lookout.makes_findM?_test items) fun found => ?_
  cases found with
  | some a => exact ⟨trivial, fun _ => trivial⟩
  | none =>
    refine Attempt.makes_bind ⟨trivial, fun _ => trivial⟩ fun now => ?_
    dsimp only
    split
    · exact makes_expire criteria attempts _
    · cases left with
      | zero => exact makes_expire criteria attempts _
      | succ left =>
        refine Attempt.makes_bind ⟨trivial, fun _ => trivial⟩ fun _ => ?_
        refine Attempt.makes_bind ⟨le_trans ?_ short, fun _ => trivial⟩ fun _ => again left rfl
        rw [Duration.nanos_min]
        exact inf_le_inf_left _ (Nat.sub_le _ _)

theorem makes_searchFrom (short : p.Brief) (left : Nat) (attempts : UInt32) :
    (p.searchFrom (α := α) criteria started left attempts).run.Makes Lookout.Call.Short := by
  induction left generalizing attempts with
  | zero => exact makes_round criteria short nofun
  | succ left ih => exact makes_round criteria short fun m same => Nat.succ.inj same ▸ ih _

variable (p)

/-- The result of a poll that begins at a time, and its vigil. -/
def polled : Except Error α × Vigil α :=
  Attempt.eval (Vigil.watch fetches) (p.poll criteria accept) (.start begun)

/-- Where pauses are no longer than the longest sleep, a poll comes to what the search comes to. -/
theorem polled_eq (short : p.Brief) :
    p.polled criteria fetches accept begun
      = ((p.outcome criteria fetches accept begun).1,
          (p.outcome criteria fetches accept begun).2.untested) := by
  have makes : (p.search (α := α) criteria).run.Makes Lookout.Call.Short :=
    Attempt.makes_bind ⟨trivial, fun _ => trivial⟩ fun started =>
      makes_searchFrom criteria short p.pauses 1
  have agree := Program.eval_of_makes (Vigil.serve fetches accept)
    (fun c => (Watch.serve accept c).eval (Vigil.watch fetches)) Vigil.untested
    (fun c hc v => by
      cases c with
      | fetch => exact ⟨rfl, rfl⟩
      | test a => exact ⟨rfl, rfl⟩
      | elapsed => exact ⟨rfl, rfl⟩
      | sleep d =>
        have whole : d.asleep = d := if_pos hc
        refine ⟨rfl, ?_⟩
        change (v.pause d.nanos).untested = v.untested.pause d.asleep.nanos
        rw [whole]
        rfl
      | note n => exact ⟨rfl, rfl⟩)
    makes (.start begun)
  rw [polled, poll, Attempt.eval_ofProgram, Program.eval_interpret]
  exact Prod.ext agree.1.symm agree.2.symm

variable {p criteria fetches accept begun} {result : Except Error α} {v : Vigil α}

theorem polled_of_outcome (outcome : p.outcome criteria fetches accept begun = (result, v))
    (short : p.Brief) : p.polled criteria fetches accept begun = (result, v.untested) := by
  rw [polled_eq p criteria fetches accept begun short, outcome]

variable (p criteria fetches accept begun)

/-! ## How long a search lasts -/

/-- A search that pauses makes no more fetches than pauses go into its time, rounded up, and one, and
begins none when its time is over.  It gives up exactly if nothing it fetched is accepted, and then its
time has run out, and not before the last fetch.  Otherwise it ends with the first accepted element of
the last fetch; none that was fetched earlier is accepted, and just those up to this one were tested, in
order.  A poll of which the pauses are brief ends the same way. -/
theorem search_ends_in_time (pausing : 0 < p.interval.nanos) :
    ∃ result v earlier last, p.outcome criteria fetches accept begun = (result, v) ∧
      (p.Brief → p.polled criteria fetches accept begun = (result, v.untested)) ∧
      v.glances = earlier ++ [last] ∧
      v.glances.length ≤ p.timeout.nanos ⌈/⌉ p.interval.nanos + 1 ∧
      (∀ w ∈ v.glances, w.began ≤ begun + p.timeout.nanos) ∧
      ((∃ elapsed, result = .error (.timeout criteria elapsed)) ↔ Barren accept v.glances) ∧
      (∀ elapsed, result = .error (.timeout criteria elapsed) →
        elapsed.nanos = v.clock - begun ∧ p.timeout.nanos ≤ elapsed.nanos ∧
          elapsed.nanos ≤ p.timeout.nanos + last.took) ∧
      (¬Barren accept v.glances → ∃ before a after, last.items = before ++ a :: after ∧
        result = .ok a ∧ accept a = true ∧ (∀ b ∈ before, accept b = false) ∧
        Barren accept earlier ∧ v.tested = earlier.flatMap (·.items) ++ (before ++ [a])) := by
  cases outcome : p.outcome criteria fetches accept begun with
  | mk result ending =>
  have ends := outcome ▸ ends_search p criteria fetches accept begun pausing
  cases ends with
  | @found v a vain hit =>
    obtain ⟨accepted, before, after, split, misses⟩ := List.find?_eq_some_iff_append.1 hit
    have misses : ∀ b ∈ before, accept b = false := by simpa using misses
    have fertile : ¬Barren accept (look fetches accept v).glances := by
      intro barren
      have := barren ⟨v.next fetches, v.clock⟩ (by simp) a (by simp [split])
      simp [accepted] at this
    refine ⟨_, _, v.glances, ⟨v.next fetches, v.clock⟩, rfl, polled_of_outcome outcome,
      rfl, vain.length_look_le, vain.timely_look, ⟨?_, fun barren => absurd barren fertile⟩, ?_,
      fun _ => ?_⟩
    · rintro ⟨elapsed, ⟨⟩⟩
    · rintro elapsed ⟨⟩
    · refine ⟨before, a, after, split, rfl, accepted, misses, vain.barren, ?_⟩
      rw [tested_look, vain.tested, split, inspected_append_cons accepted after misses]
  | @late v vain nothing spent =>
    have barren := vain.barren_look nothing
    refine ⟨_, _, v.glances, ⟨v.next fetches, v.clock⟩, rfl, polled_of_outcome outcome,
      rfl, vain.length_look_le, vain.timely_look, ⟨fun _ => barren, fun _ => ⟨_, rfl⟩⟩, ?_,
      fun fertile => absurd barren fertile⟩
    rintro elapsed ⟨⟩
    refine ⟨rfl, spent, ?_⟩
    have ends := vain.ends
    rw [Vigil.nanos_since, clock_look]
    dsimp only
    omega

/-- A value that is never there is waited for to the end of the time. -/
theorem search_ends_in_time_in_vain :
    ∃ elapsed, ((PollPolicy.mk (.ofSecs 2) (.ofMillis 300)).outcome "nothing"
        (fun _ _ => ⟨0, [1, 2, 3]⟩) (fun _ : Nat => false) 0).1
          = .error (.timeout "nothing" elapsed) ∧
      elapsed.nanos = 2000000000 := by
  obtain ⟨result, v, earlier, last, ending, -, made, -, -, vain, late, -⟩ :=
    search_ends_in_time (PollPolicy.mk (.ofSecs 2) (.ofMillis 300)) "nothing"
      (fun _ _ => ⟨0, [1, 2, 3]⟩) (fun _ : Nat => false) 0 (by decide)
  have instant : ∀ w ∈ ((PollPolicy.mk (.ofSecs 2) (.ofMillis 300)).outcome "nothing"
      (fun _ _ => ⟨0, [1, 2, 3]⟩) (fun _ : Nat => false) 0).2.glances, w.took = 0 := by
    decide +kernel
  rw [ending] at instant ⊢
  obtain ⟨elapsed, expired⟩ := vain.2 fun _ _ _ _ => rfl
  obtain ⟨-, atLeast, atMost⟩ := late elapsed expired
  rw [instant last (by simp [made])] at atMost
  exact ⟨elapsed, expired, Nat.le_antisymm atMost atLeast⟩

/-! ## What a search sees -/

/-- If something is there to be accepted whenever a fetch begins `early` after the search or later, and
no fetch takes longer than `most`, then a search that has as much time ends well, after one pause and two
fetches more, and so does a poll of which the pauses are brief. -/
theorem search_sees_in_time (early most : Nat) (pausing : 0 < p.interval.nanos)
    (inTime : early + most ≤ p.timeout.nanos)
    (quick : ∀ w ∈ (p.outcome criteria fetches accept begun).2.glances, w.took ≤ most)
    (there : ∀ w ∈ (p.outcome criteria fetches accept begun).2.glances, begun + early ≤ w.began →
      ∃ a ∈ w.items, accept a = true) :
    ∃ a v, p.outcome criteria fetches accept begun = (.ok a, v) ∧
      (p.Brief → p.polled criteria fetches accept begun = (.ok a, v.untested)) ∧
      v.clock ≤ begun + early + p.interval.nanos + 2 * most := by
  cases outcome : p.outcome criteria fetches accept begun with
  | mk result ending =>
  have ends := outcome ▸ ends_search p criteria fetches accept begun pausing
  rw [outcome] at quick there
  have early_of_barren : ∀ w ∈ ending.glances, (∀ a ∈ w.items, accept a = false) →
      w.began < begun + early := by
    intro w made barren
    by_contra late
    obtain ⟨a, found, accepted⟩ := there w made (Nat.not_lt.1 late)
    exact Bool.false_ne_true ((barren a found).symm.trans accepted)
  cases ends with
  | @found v a vain hit =>
    refine ⟨a, _, rfl, polled_of_outcome outcome, ?_⟩
    have soon := vain.soon
    have took : (v.next fetches).took ≤ most := quick ⟨v.next fetches, v.clock⟩ (by simp)
    rw [clock_look]
    cases last : v.glances.getLast? with
    | none =>
      rw [last, Option.elim_none] at soon
      omega
    | some w =>
      have made : w ∈ v.glances := List.mem_of_getLast? last
      have still : w ∈ (look fetches accept v).glances := List.mem_append_left _ made
      have before := early_of_barren w still (vain.barren w made)
      have short := quick w still
      rw [last, Option.elim_some] at soon
      omega
  | @late v vain nothing spent =>
    -- The last fetch was too early, so that it was over in time.
    have last : ⟨v.next fetches, v.clock⟩ ∈ (look fetches accept v).glances := by simp
    have before := early_of_barren _ last (vain.barren_look nothing _ last)
    have took := quick _ last
    have begins := vain.begins
    rw [clock_look] at spent
    dsimp only at before took
    omega

/-- A value that is ready after one and a quarter seconds, and fetched at once, is seen within one pause
of half a second. -/
theorem search_sees_ready_value :
    ∃ a v, (PollPolicy.mk (.ofSecs 10) (.ofMillis 500)).outcome "value ready"
        (fun _ t => ⟨0, if 1250000000 ≤ t then [7] else []⟩) (· == 7) 0 = (.ok a, v) ∧
      v.clock ≤ 1750000000 := by
  obtain ⟨a, v, found, -, seen⟩ :=
    search_sees_in_time (PollPolicy.mk (.ofSecs 10) (.ofMillis 500)) "value ready"
      (fun _ t => ⟨0, if 1250000000 ≤ t then [7] else []⟩) (· == 7) 0 1250000000 0
      (by decide) (by decide) (by decide +kernel) (by decide +kernel)
  exact ⟨a, v, found, seen⟩

end PollPolicy

end RealmSetup
