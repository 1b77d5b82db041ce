import RealmSetup.Proofs.Effect.Evaluation
import RealmSetup.Proofs.Store.Disk
import RealmSetup.Store.FileVault

/-!
# Disks that others use as well

A store is not alone on its disk: before each of its calls others may do something to it (`Others`).  A
`SharedDisk` also remembers whether a call failed, other than for want of a file that was to be read or
removed.  `SharedDisk.Achieves` says what an attempt comes to where none does: it succeeds, and takes
disks of one kind to disks of another.  Its rules follow the parts of an attempt.
-/

namespace RealmSetup

/-- Whether a call failed, other than for want of the file that was to be read or removed. -/
def Files.fails : (c : Files.Call) → Except FileFault (Files.Result c) → Bool
  | _, .ok _ => false
  | .read _, .error fault => !fault.isMissing
  | .remove _, .error fault => !fault.isMissing
  | _, .error _ => true

/-- A disk in use. -/
structure SharedDisk where
  disk : Disk
  /-- How many calls were made. -/
  calls : Nat
  /-- Whether one of them failed. -/
  failed : Bool

namespace SharedDisk

/-- A disk before any call was made. -/
def start (d : Disk) : SharedDisk := ⟨d, 0, false⟩

/-- What others do to a disk before each of the calls. -/
abbrev Others : Type := Nat → Disk → Disk

/-- The disk as a call finds it, once others have done what they do before it. -/
def found (others : Others) (s : SharedDisk) : Disk := others s.calls s.disk

/-- Answers a call. -/
def answer (others : Others) : Answering Files SharedDisk := fun c s =>
  let (result, disk) := (s.found others).serve c
  (result, ⟨disk, s.calls + 1, s.failed || Files.fails c result⟩)

/-- The ending of an attempt and the disk it leaves. -/
def run {α : Type} (others : Others) (w : FileVault.Work α) (s : SharedDisk) :
    Except StoreError α × SharedDisk :=
  Program.eval (answer others) w.run s

variable {α β : Type} {others : Others} {s : SharedDisk}

theorem run_bind (w : FileVault.Work α) (f : α → FileVault.Work β) (s : SharedDisk) :
    run others (w >>= f) s =
      match run others w s with
      | (.ok a, s') => run others (f a) s'
      | (.error e, s') => (.error e, s') := by
  simp only [run, ExceptT.run_bind, Program.eval_bind]
  cases Program.eval (answer others) w.run s with
  | mk result s' => cases result <;> rfl

/-- An attempt that begins with a call. -/
theorem run_ask (c : Files.Call)
    (next : Except FileFault (Files.Result c) → Program Files (Except StoreError α)) (s : SharedDisk) :
    run others (ExceptT.mk (FileVault.ask c >>= next)) s =
      (next ((s.found others).serve c).1).eval (answer others)
        ⟨((s.found others).serve c).2, s.calls + 1,
          s.failed || Files.fails c ((s.found others).serve c).1⟩ :=
  rfl

/-! ## Attempts in which no call fails -/

/-- A failure is not forgotten. -/
theorem failed_eval (p : Program Files α) (before : s.failed = true) :
    (p.eval (answer others) s).2.failed = true := by
  induction p generalizing s with
  | done a => exact before
  | ask c next ih =>
    refine ih _ ?_
    show (s.failed || _) = true
    rw [before, Bool.true_or]

theorem unfailing_of_eval {p : Program Files α} (h : (p.eval (answer others) s).2.failed = false) :
    s.failed = false := by
  cases before : s.failed with
  | false => rfl
  | true =>
    rw [failed_eval p before] at h
    cases h

/-- Where no call fails, an attempt succeeds and takes disks of one kind to disks of another. -/
def Achieves (others : Others) (pre : Disk → Prop) (w : FileVault.Work α) (post : α → Disk → Prop) :
    Prop :=
  ∀ s : SharedDisk, pre s.disk → (run others w s).2.failed = false →
    ∃ a s', run others w s = (.ok a, s') ∧ post a s'.disk

variable {pre pre' : Disk → Prop} {post : β → Disk → Prop} {middle middle' : α → Disk → Prop}

theorem Achieves.weaken {w : FileVault.Work α} (h : Achieves others pre w middle)
    (hpre : ∀ d, pre' d → pre d) (hpost : ∀ a d, middle a d → middle' a d) :
    Achieves others pre' w middle' := by
  intro s holds unfailing
  obtain ⟨a, s', ended, after⟩ := h s (hpre s.disk holds) unfailing
  exact ⟨a, s', ended, hpost a s'.disk after⟩

theorem achieves_pure (a : α) (h : ∀ d, pre d → middle a d) :
    Achieves others pre (pure a : FileVault.Work α) middle :=
  fun s holds _ => ⟨a, s, rfl, h s.disk holds⟩

/-- What is known of the outcome so far may be used. -/
theorem achieves_of_fact {fact : Prop} {w : FileVault.Work α}
    (h : fact → Achieves others pre w middle) : Achieves others (fun d => fact ∧ pre d) w middle :=
  fun s holds => h holds.1 s holds.2

theorem Achieves.bind {w : FileVault.Work α} {f : α → FileVault.Work β}
    (first : Achieves others pre w middle) (rest : ∀ a, Achieves others (middle a) (f a) post) :
    Achieves others pre (w >>= f) post := by
  intro s holds unfailing
  rw [run_bind] at unfailing ⊢
  have before : (run others w s).2.failed = false := by
    cases ended : run others w s with
    | mk result s' =>
      rw [ended] at unfailing
      cases result with
      | ok a => exact unfailing_of_eval (p := (f a).run) unfailing
      | error e => exact unfailing
  obtain ⟨a, s', ended, between⟩ := first s holds before
  rw [ended] at unfailing ⊢
  exact rest a s' between unfailing

/-- A call that must not fail. -/
theorem achieves_insist (doing : String) {c : Files.Call} {post : Disk → Prop}
    (strict : ∀ fault, Files.fails c (.error fault) = true)
    (done : ∀ n d a, pre d → ((others n d).serve c).1 = .ok a → post ((others n d).serve c).2) :
    Achieves others pre (FileVault.insist doing c) fun _ => post := by
  intro s holds unfailing
  rw [FileVault.insist, run_ask] at unfailing ⊢
  have sound := unfailing_of_eval unfailing
  cases result : ((s.found others).serve c).1 with
  | ok a => exact ⟨(), _, rfl, done s.calls s.disk a holds result⟩
  | error fault =>
    rw [result, strict, Bool.or_true] at sound
    cases sound

theorem Achieves.map {w : FileVault.Work α} (h : Achieves others pre w middle) (f : α → β) :
    Achieves others pre (do return f (← w)) fun b d => ∃ a, b = f a ∧ middle a d :=
  h.bind fun a => achieves_pure (f a) fun _ after => ⟨a, rfl, after⟩

/-- An attempt of which the ending is kept. -/
theorem Achieves.lift_run {w : FileVault.Work α} (h : Achieves others pre w middle)
    (f : Except StoreError α → β) :
    Achieves others pre (ExceptT.lift (do return f (← w.run)) : FileVault.Work β) fun b d =>
      ∃ a, b = f (.ok a) ∧ middle a d := by
  intro s holds unfailing
  have kept : run others (ExceptT.lift (do return f (← w.run)) : FileVault.Work β) s =
      (.ok (f (run others w s).1), (run others w s).2) := by
    simp only [run, ExceptT.run_lift, Program.eval_map, Program.eval_bind]
    rfl
  rw [kept] at unfailing ⊢
  obtain ⟨a, s', ended, after⟩ := h s holds unfailing
  rw [ended]
  exact ⟨_, s', rfl, a, rfl, after⟩

end SharedDisk

end RealmSetup
