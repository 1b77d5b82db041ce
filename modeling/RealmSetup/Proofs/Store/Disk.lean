import RealmSetup.Store.FileSystem

/-!
# What is read from a disk after a change

A call that changes a file leaves all directories where they were, so that every path that led somewhere
leads there still (`KeepsDirectories.goal`).  Hence what is written is read (`read_of_write`), a file that
was moved is read in its new place (`read_of_rename`), and one that was removed is missing
(`read_of_remove`).
-/

namespace RealmSetup

namespace Disk

/-- What comes of a step and what follows it, comes of what the step gave. -/
theorem exists_of_bind_eq_ok {α β : Type} {x : Except FileFault α} {f : α → Except FileFault β} {b : β}
    (h : x >>= f = .ok b) : ∃ a, x = .ok a ∧ f a = .ok b := by
  cases x with
  | ok a => exact ⟨a, rfl, h⟩
  | error fault => cases h

variable {d d' : Disk} {path source dest name : String} {here there names : List String}
  {bytes : List UInt8} {fault : FileFault}

/-! ## Directories -/

/-- Every directory of a disk is one of another. -/
def KeepsDirectories (d d' : Disk) : Prop :=
  ∀ names, d.entry? names = some .directory → d'.entry? names = some .directory

theorem entry?_of_ne_nil (h : names ≠ []) : d.entry? names = d.entries.get? (key names) := by
  unfold entry?
  rw [if_neg (by simpa using h)]

/-- Directories stay where something else is changed. -/
theorem keepsDirectories_of_get? (other : d.entry? names ≠ some .directory)
    (same : ∀ k, key names ≠ k → d'.entries.get? k = d.entries.get? k) : d.KeepsDirectories d' := by
  intro ks directory
  by_cases top : ks = []
  · subst top
    rfl
  · have named : names ≠ [] := fun nothing => other (nothing ▸ rfl)
    rw [entry?_of_ne_nil top] at directory ⊢
    rw [entry?_of_ne_nil named] at other
    rw [same _ fun key => other (key ▸ directory), directory]

theorem keepsDirectories_set (e : DiskEntry) (other : d.entry? names ≠ some .directory) :
    d.KeepsDirectories (d.set names e) :=
  keepsDirectories_of_get? other fun k differs => by rw [set, KeyMap.get?_insert, if_neg differs]

theorem keepsDirectories_erase (other : d.entry? names ≠ some .directory) :
    d.KeepsDirectories ⟨d.entries.erase (key names)⟩ :=
  keepsDirectories_of_get? other fun k differs => by rw [KeyMap.get?_erase, if_neg differs]

theorem entry?_set (named : names ≠ []) (e : DiskEntry) : entry? (d.set names e) names = some e := by
  rw [entry?_of_ne_nil named, set, KeyMap.get?_insert, if_pos rfl]

theorem entry?_erase (named : names ≠ []) :
    entry? ⟨d.entries.erase (key names)⟩ names = none := by
  rw [entry?_of_ne_nil named, KeyMap.get?_erase, if_pos rfl]

theorem KeepsDirectories.trans {d'' : Disk} (h : d.KeepsDirectories d') (h' : d'.KeepsDirectories d'') :
    d.KeepsDirectories d'' :=
  fun names directory => h' names (h names directory)

/-! ## Ways -/

theorem KeepsDirectories.enter (h : d.KeepsDirectories d') (entered : d.enter here name = .ok there) :
    d'.enter here name = .ok there := by
  unfold Disk.enter at entered ⊢
  split at entered
  · next same => rwa [if_pos same]
  next one =>
  split at entered
  · next same => rwa [if_neg one, if_pos same]
  next two =>
  split at entered
  · cases entered
  next short =>
  rw [if_neg one, if_neg two, if_neg short]
  split at entered
  · next directory =>
    rw [h _ directory]
    exact entered
  · cases entered
  · cases entered

/-- A path leads where it led. -/
theorem KeepsDirectories.goalFrom (h : d.KeepsDirectories d') {slashed : Bool} {goal : Goal}
    (led : d.goalFrom slashed here names = .ok goal) : d'.goalFrom slashed here names = .ok goal := by
  induction names generalizing here with
  | nil => exact led
  | cons name rest ih =>
    cases rest with
    | nil =>
      rw [Disk.goalFrom] at led ⊢
      split at led
      · next points =>
        rw [if_pos points]
        cases entered : d.enter here name with
        | ok there =>
          rw [entered] at led
          rw [h.enter entered]
          exact led
        | error fault =>
          rw [entered] at led
          cases led
      · next named =>
        rw [if_neg named]
        exact led
    | cons next rest =>
      obtain ⟨there, entered, led⟩ := exists_of_bind_eq_ok led
      show (d'.enter here name >>= fun there => d'.goalFrom slashed there (next :: rest)) = _
      rw [h.enter entered]
      exact ih led

theorem KeepsDirectories.goal (h : d.KeepsDirectories d') {goal : Goal}
    (led : d.goal path = .ok goal) : d'.goal path = .ok goal := by
  obtain ⟨way, taken, led⟩ := exists_of_bind_eq_ok led
  rw [Disk.goal, taken]
  exact h.goalFrom led

/-! ## Files -/

/-- A file is read by its name in a directory that is there. -/
theorem file_eq_ok_iff : d.file path = .ok (names, bytes) ↔
    ∃ inside name, d.goal path = .ok (.name inside name false) ∧ names = inside ++ [name] ∧
      d.entry? names = some (.file bytes) := by
  constructor
  · intro found
    obtain ⟨inside | ⟨inside, name, slashed⟩, led, found⟩ := exists_of_bind_eq_ok found
    · cases found
    dsimp only at found
    split at found
    · next entry =>
      cases slashed with
      | true => cases found
      | false =>
        cases found
        exact ⟨inside, name, led, rfl, entry⟩
    · cases found
    · cases found
  · rintro ⟨inside, name, led, rfl, entry⟩
    unfold file
    rw [led]
    simp only [bind, Except.bind, entry]
    rfl

theorem read_eq_ok_iff : d.read path = .ok bytes ↔ ∃ names, d.file path = .ok (names, bytes) := by
  unfold read
  cases d.file path with
  | error fault => simp [Except.map]
  | ok found =>
    obtain ⟨names, bytes'⟩ := found
    simp [Except.map]

/-- A file cannot be read because it is not there. -/
def Lacks (d : Disk) (path : String) : Prop :=
  ∃ fault, d.read path = .error fault ∧ fault.isMissing = true

/-- A file is there to be read. -/
def Holds (d : Disk) (path : String) : Prop := ∃ bytes, d.read path = .ok bytes

theorem Holds.not_lacks {d : Disk} {path : String} (h : d.Holds path) : ¬d.Lacks path := by
  rintro ⟨fault, missed, -⟩
  obtain ⟨bytes, read⟩ := h
  cases read.symm.trans missed

/-! ## Changes -/

theorem exists_of_settle {result : Except FileFault Disk} {u : Unit}
    (done : (d.settle result).1 = .ok u) : ∃ d', result = .ok d' ∧ (d.settle result).2 = d' := by
  cases result with
  | ok d' => exact ⟨d', rfl, rfl⟩
  | error fault => cases done

/-- A file is written by its name in a directory that is there. -/
theorem exists_of_write (written : d.write path bytes = .ok d') :
    ∃ inside name, d.goal path = .ok (.name inside name false) ∧
      d.entry? (inside ++ [name]) ≠ some .directory ∧ d' = d.set (inside ++ [name]) (.file bytes) := by
  obtain ⟨inside | ⟨inside, name, slashed⟩, led, written⟩ := exists_of_bind_eq_ok written
  · cases written
  dsimp only at written
  split at written
  · cases written
  · next allowed =>
    cases written
    simp only [Bool.or_eq_true, decide_eq_true_eq, not_or, Bool.not_eq_true] at allowed
    obtain ⟨rfl, other⟩ := allowed
    exact ⟨inside, name, led, other, rfl⟩

/-- A file is moved to a name in a directory that is there. -/
theorem exists_of_rename (moved : d.rename source dest = .ok d') :
    ∃ names bytes inside name, d.file source = .ok (names, bytes) ∧
      d.goal dest = .ok (.name inside name false) ∧
      d.entry? (inside ++ [name]) ≠ some .directory ∧
      d' = set ⟨d.entries.erase (key names)⟩ (inside ++ [name]) (.file bytes) := by
  obtain ⟨⟨names, bytes⟩, found, moved⟩ := exists_of_bind_eq_ok moved
  obtain ⟨inside | ⟨inside, name, slashed⟩, led, moved⟩ := exists_of_bind_eq_ok moved
  · cases moved
  cases slashed with
  | true => cases moved
  | false =>
    simp only [Bool.false_eq_true, if_false] at moved
    split at moved
    · cases moved
    · next other =>
      cases moved
      exact ⟨names, bytes, inside, name, found, led, other, rfl⟩

/-- Moving a file leaves all directories. -/
theorem keepsDirectories_of_rename (moved : d.rename source dest = .ok d') : d.KeepsDirectories d' := by
  obtain ⟨names, bytes, inside, name, file, -, other, rfl⟩ := exists_of_rename moved
  obtain ⟨_, _, -, -, entry⟩ := file_eq_ok_iff.1 file
  refine (keepsDirectories_erase ?_).trans (keepsDirectories_set _ ?_)
  · rw [entry]
    exact nofun
  · rw [entry?_of_ne_nil (by simp)] at other ⊢
    rw [KeyMap.get?_erase]
    split
    · exact nofun
    · exact other

theorem exists_of_remove (removed : d.remove path = .ok d') :
    ∃ names bytes, d.file path = .ok (names, bytes) ∧ d' = ⟨d.entries.erase (key names)⟩ := by
  obtain ⟨⟨names, bytes⟩, found, removed⟩ := exists_of_bind_eq_ok removed
  cases removed
  exact ⟨names, bytes, found, rfl⟩

/-! ## Reading after a change -/

/-- What is written is read. -/
theorem read_of_write (written : d.write path bytes = .ok d') : d'.read path = .ok bytes := by
  obtain ⟨inside, name, led, other, rfl⟩ := exists_of_write written
  refine read_eq_ok_iff.2 ⟨inside ++ [name], file_eq_ok_iff.2 ⟨inside, name, ?_, rfl, ?_⟩⟩
  · exact (keepsDirectories_set _ other).goal led
  · exact entry?_set (by simp) _

/-- A file that was moved is read in its new place. -/
theorem read_of_rename (moved : d.rename source dest = .ok d') (found : d.read source = .ok bytes) :
    d'.read dest = .ok bytes := by
  have kept := keepsDirectories_of_rename moved
  obtain ⟨names, bytes', inside, name, file, led, -, rfl⟩ := exists_of_rename moved
  obtain ⟨names', file'⟩ := read_eq_ok_iff.1 found
  cases file.symm.trans file'
  refine read_eq_ok_iff.2 ⟨inside ++ [name], file_eq_ok_iff.2 ⟨inside, name, kept.goal led, rfl, ?_⟩⟩
  exact entry?_set (by simp) _

/-- A file that was removed is missing. -/
theorem read_of_remove (removed : d.remove path = .ok d') : d'.read path = .error missing := by
  obtain ⟨names, bytes, found, rfl⟩ := exists_of_remove removed
  obtain ⟨inside, name, led, rfl, entry⟩ := file_eq_ok_iff.1 found
  have kept : d.KeepsDirectories ⟨d.entries.erase (key (inside ++ [name]))⟩ :=
    keepsDirectories_erase (by rw [entry]; exact nofun)
  unfold read file
  rw [kept.goal led]
  simp only [bind, Except.bind, entry?_erase (show inside ++ [name] ≠ [] by simp)]
  rfl

/-- A file that cannot be removed cannot be read either. -/
theorem read_of_remove_error (refused : d.remove path = .error fault) :
    d.read path = .error fault := by
  unfold remove at refused
  unfold read
  cases found : d.file path with
  | error fault' =>
    rw [found] at refused
    cases refused
    rfl
  | ok file =>
    rw [found] at refused
    cases refused

end Disk

end RealmSetup
