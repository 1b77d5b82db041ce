import Mathlib.Data.List.Induction
import RealmSetup.Proofs.Store.Disk
import RealmSetup.Proofs.Store.Paths

/-!
# Walks through a disk

A path is read by a walk through the directories on it and a look at what its last name stands for
(`read_eq`).  So a file that is written beside it does not show in what is read (`read_of_write_draft`),
and neither do directories that are created on the way: with these in place the file is still not there
(`read_of_createFrom`).
-/

namespace RealmSetup

namespace Disk

open FilePath

variable {d d' : Disk} {here there directory names more : List String} {name path : String}
  {slashed : Bool} {fault : FileFault}

/-- Goes on from a directory by names. -/
abbrev walk (d : Disk) (here names : List String) : Except FileFault (List String) :=
  names.foldlM d.enter here

theorem walk_append (first second : List String) :
    d.walk here (first ++ second) = d.walk here first >>= fun there => d.walk there second :=
  List.foldlM_append

theorem KeepsDirectories.walk (h : d.KeepsDirectories d') (walked : d.walk here names = .ok there) :
    d'.walk here names = .ok there := by
  induction names generalizing here with
  | nil => exact walked
  | cons name rest ih =>
    obtain ⟨next, entered, walked⟩ := exists_of_bind_eq_ok walked
    rw [Disk.walk, List.foldlM_cons, h.enter entered]
    exact ih walked

/-! ## What a path is read by -/

/-- The names on a path without those that mean nothing. -/
def meant (names : List String) : List String := names.filter (· ≠ ".")

theorem ne_point_of_meant (h : meant names = directory ++ [name]) : name ≠ "." := by
  have within : name ∈ meant names := h ▸ List.mem_append_right _ (List.mem_singleton_self name)
  simpa [meant] using (List.mem_filter.1 within).2

theorem steps_eq_meant {way : Way} (h : wayOf path = .ok way) : steps path = meant way.names := by
  unfold wayOf at h
  split at h
  · cases h
  split at h
  · cases h
  split at h
  · cases h
  obtain rfl := Except.ok.inj h
  have point (cs : List Char) : String.ofList cs = "." ↔ cs = ['.'] :=
    ⟨fun same => by simpa using congrArg String.toList same, fun same => same ▸ rfl⟩
  have means (cs : List Char) :
      (cs != [] && cs != ['.']) = (decide (String.ofList cs ≠ ".") && !cs.isEmpty) := by
    rw [Bool.eq_iff_iff]
    simp [point, and_comm]
  simp only [steps, stepsOf, meant, List.filter_map, List.filter_filter, Function.comp_def, means]

theorem getLast?_of_meant_nil (h : meant names = []) (named : names ≠ []) :
    names.getLast? = some "." := by
  have last := List.filter_eq_nil_iff.1 h _ (List.getLast_mem named)
  rw [List.getLast?_eq_some_getLast named]
  simpa using last

theorem goalFrom_of_meant_nil (h : meant names = []) :
    d.goalFrom slashed here names = .ok (.place here) := by
  induction names with
  | nil => rfl
  | cons first rest ih =>
    obtain ⟨rfl, none⟩ : first = "." ∧ meant rest = [] := by
      simpa [meant] using h
    cases rest with
    | nil => rfl
    | cons => exact ih none

/-- A path leads through the directories on it, to a name there or, with a point after it, to what this
stands for. -/
theorem goalFrom_eq (h : meant names = directory ++ [name]) (proper : name ≠ "..") :
    d.goalFrom slashed here names = d.walk here directory >>= fun inside =>
      if names.getLast? = some "." then (d.enter inside name).map .place
      else if longestName < name.utf8ByteSize then .error tooLong
      else .ok (.name inside name slashed) := by
  induction names generalizing here directory with
  | nil => simp [meant] at h
  | cons first rest ih =>
    by_cases point : first = "."
    · subst point
      cases rest with
      | nil => simp [meant] at h
      | cons next rest => exact ih h
    · have h : first :: meant rest = directory ++ [name] := by simpa [meant, point] using h
      cases directory with
      | nil =>
        obtain ⟨rfl, none⟩ := List.cons.inj h
        cases rest with
        | nil =>
          have points : ¬(first = "." || first = "..") = true := by simp [point, proper]
          rw [goalFrom, if_neg points]
          simp [point]
        | cons next rest =>
          show (d.enter here first >>= fun there => d.goalFrom slashed there (next :: rest)) = _
          have last := getLast?_of_meant_nil none (List.cons_ne_nil next rest)
          simp only [goalFrom_of_meant_nil none, List.getLast?_cons_cons, last, if_true]
          rfl
      | cons _ directory =>
        obtain ⟨rfl, below⟩ := List.cons.inj h
        cases rest with
        | nil => simp [meant] at below
        | cons next rest =>
          show (d.enter here first >>= fun there => d.goalFrom slashed there (next :: rest)) = _
          rw [walk, List.foldlM_cons, bind_assoc, List.getLast?_cons_cons]
          exact bind_congr fun there => ih below

/-- What is read where a path ends in a name that stands for an entry, with a slash or a point after it or
not. -/
def lookAt (followed : Bool) : Option DiskEntry → Except FileFault (List UInt8)
  | some (.file bytes) => if followed then .error notDirectory else .ok bytes
  | some .directory => .error isDirectory
  | none => .error missing

/-- A path is read by a walk to the directory of its last name and a look at what stands there. -/
theorem read_eq {way : Way} (taken : wayOf path = .ok way)
    (h : steps path = directory ++ [name]) (proper : name ≠ "..") :
    d.read path = d.walk [] directory >>= fun inside =>
      if longestName < name.utf8ByteSize then .error tooLong
      else lookAt (way.slashed || way.names.getLast? = some ".") (d.entry? (inside ++ [name])) := by
  rw [steps_eq_meant taken] at h
  have notPoint := ne_point_of_meant h
  rw [read, file, goal, taken]
  show Except.map _ ((d.goalFrom way.slashed [] way.names) >>= _) = _
  rw [goalFrom_eq h proper, bind_assoc]
  cases d.walk [] directory with
  | error fault => rfl
  | ok inside =>
    show Except.map _ ((if _ then _ else _) >>= _) = (if _ then _ else _)
    by_cases long : longestName < name.utf8ByteSize
    · by_cases pointed : way.names.getLast? = some "."
      · simp only [enter, notPoint, proper, long, pointed, if_true, if_false]
        rfl
      · simp only [long, pointed, if_true, if_false]
        rfl
    · by_cases pointed : way.names.getLast? = some "."
      · simp only [enter, notPoint, proper, long, pointed, if_true, if_false]
        cases d.entry? (inside ++ [name]) with
        | none => rfl
        | some e => cases e <;> simp [lookAt] <;> rfl
      · simp only [long, pointed, if_false]
        cases e : d.entry? (inside ++ [name]) with
        | none => simp [lookAt, bind, Except.bind, e]; rfl
        | some x =>
          cases x with
          | directory => simp [lookAt, bind, Except.bind, e]; rfl
          | file bytes => cases way.slashed <;> simp [lookAt, bind, Except.bind, e] <;> rfl

theorem read_of_wayOf_error (strange : wayOf path = .error fault) : d.read path = .error fault := by
  rw [read, file, goal, strange]
  rfl

/-- What is read depends on the entry in the directory that is walked to. -/
theorem read_eq_of_entry (h : steps path = directory ++ [name]) (proper : name ≠ "..")
    (walked : d.walk [] directory = .ok there) (walked' : d'.walk [] directory = .ok there)
    (same : d'.entry? (there ++ [name]) = d.entry? (there ++ [name])) :
    d'.read path = d.read path := by
  cases taken : wayOf path with
  | error fault => rw [read_of_wayOf_error taken, read_of_wayOf_error taken]
  | ok way =>
    rw [read_eq taken h proper, read_eq taken h proper, walked, walked']
    show (if _ then _ else _) = (if _ then _ else _)
    rw [same]

/-- There is nothing of a name in a directory, which is perhaps not there itself. -/
def Absent (d : Disk) (directory : List String) (name : String) : Prop :=
  d.walk [] directory = .error missing ∨
    ∃ there, d.walk [] directory = .ok there ∧ d.entry? (there ++ [name]) = none

theorem read_eq_of_absent (h : steps path = directory ++ [name]) (proper : name ≠ "..")
    (short : name.utf8ByteSize ≤ longestName) (absent : d.Absent directory name)
    (absent' : d'.Absent directory name) : d'.read path = d.read path := by
  cases taken : wayOf path with
  | error fault => rw [read_of_wayOf_error taken, read_of_wayOf_error taken]
  | ok way =>
    have missed {d : Disk} (absent : d.Absent directory name) : d.read path = .error missing := by
      rw [read_eq taken h proper]
      obtain walked | ⟨there, walked, nothing⟩ := absent
      · rw [walked]
        rfl
      · rw [walked]
        show (if _ then _ else _) = _
        rw [if_neg (Nat.not_lt.2 short), nothing]
        rfl
    rw [missed absent, missed absent']

/-! ## Names beside each other and below each other -/

theorem key_append (h : names ≠ []) (h' : more ≠ []) :
    key (names ++ more) = key names ++ "/" ++ key more :=
  String.intercalate_append_of_ne_nil h h'

theorem key_beside {name' : String} (h : key (here ++ [name]) = key (here ++ [name'])) :
    name = name' := by
  cases here with
  | nil => simpa [key] using h
  | cons first rest =>
    rw [key_append (List.cons_ne_nil _ _) (List.cons_ne_nil _ _),
      key_append (List.cons_ne_nil _ _) (List.cons_ne_nil _ _)] at h
    simpa [key, String.append_right_inj] using h

theorem key_below (h : names ≠ []) (h' : more ≠ []) : key names ≠ key (names ++ more) := by
  intro same
  rw [key_append h h'] at same
  have lengths := congrArg String.length same
  simp only [String.length_append] at lengths
  have slash : "/".length = 1 := rfl
  omega

theorem entry?_set_below (e : DiskEntry) (h : names ≠ []) (h' : more ≠ []) :
    entry? (d.set names e) (names ++ more) = d.entry? (names ++ more) := by
  have named : names ++ more ≠ [] := by simp [h]
  rw [entry?_of_ne_nil named, entry?_of_ne_nil named, set, KeyMap.get?_insert,
    if_neg (key_below h h')]

theorem entry?_set_beside {name' : String} (e : DiskEntry) (h : name ≠ name') :
    entry? (d.set (here ++ [name]) e) (here ++ [name']) = d.entry? (here ++ [name']) := by
  have named : here ++ [name'] ≠ [] := by simp
  rw [entry?_of_ne_nil named, entry?_of_ne_nil named, set, KeyMap.get?_insert,
    if_neg fun same => h (key_beside same)]

/-! ## A file beside another -/

/-- A path that leads to a name leads there by its steps. -/
theorem walk_of_goal (led : d.goal path = .ok (.name there name slashed)) {last : String}
    (h : steps path = directory ++ [last]) (proper : last ≠ "..") :
    d.walk [] directory = .ok there ∧ name = last := by
  obtain ⟨way, taken, led⟩ := exists_of_bind_eq_ok led
  rw [steps_eq_meant taken] at h
  rw [goalFrom_eq h proper] at led
  obtain ⟨inside, walked, led⟩ := exists_of_bind_eq_ok led
  split at led
  · cases entered : d.enter inside last with
    | ok there =>
      rw [entered] at led
      cases led
    | error fault =>
      rw [entered] at led
      cases led
  split at led
  · cases led
  · cases led
    exact ⟨walked, rfl⟩

/-- A file that is written beside another does not show in this. -/
theorem read_of_write_draft (p : FileVault.Parts path) {bytes : List UInt8}
    (written : d.write (FileVault.draftPath path) bytes = .ok d') : d'.read path = d.read path := by
  obtain ⟨inside, name, led, other, rfl⟩ := exists_of_write written
  obtain ⟨walked, rfl⟩ := walk_of_goal led p.steps_draft p.draft_ne
  exact read_eq_of_entry p.steps_eq p.name_ne walked ((keepsDirectories_set _ other).walk walked)
    (entry?_set_beside _ p.name_ne_draft.symm)

/-! ## Directories that are created on the way -/

/-- Nothing is in a directory that is not there. -/
def Rooted (d : Disk) : Prop :=
  ∀ names name, d.entry? (names ++ [name]) ≠ none → d.entry? names = some .directory

theorem Rooted.below (rooted : d.Rooted) (nothing : d.entry? names = none) (more : List String) :
    d.entry? (names ++ more) = none := by
  induction more using List.reverseRecOn with
  | nil => rwa [List.append_nil]
  | append_singleton more last ih =>
    by_contra something
    rw [← List.append_assoc] at something
    rw [rooted _ _ something] at ih
    cases ih

/-- A name that is walked by its own entry. -/
structure Plain (name : String) : Prop where
  ne_point : name ≠ "."
  ne_points : name ≠ ".."
  short : name.utf8ByteSize ≤ longestName

theorem Plain.enter_eq (h : Plain name) (d : Disk) (here : List String) :
    d.enter here name =
      match d.entry? (here ++ [name]) with
      | some .directory => .ok (here ++ [name])
      | some (.file _) => .error notDirectory
      | none => .error missing :=
  (if_neg h.ne_point).trans <| (if_neg h.ne_points).trans <| if_neg (Nat.not_lt.2 h.short)

theorem entry?_of_enter_error (refused : d.enter here name = .error fault)
    (gone : fault.isMissing = true) : d.entry? (here ++ [name]) = none := by
  unfold enter at refused
  split at refused
  · cases refused
  split at refused
  · cases refused
  split at refused
  · cases refused
    cases gone
  split at refused
  · cases refused
  · cases refused
    cases gone
  · assumption

theorem walk_plain (plain : ∀ name ∈ names, Plain name) (walked : d.walk here names = .ok there) :
    there = here ++ names := by
  induction names generalizing here with
  | nil =>
    cases walked
    rw [List.append_nil]
  | cons first rest ih =>
    obtain ⟨next, entered, walked⟩ := exists_of_bind_eq_ok walked
    rw [(plain first (List.mem_cons_self ..)).enter_eq] at entered
    split at entered
    · cases entered
      rw [ih (fun name within => plain name (List.mem_cons_of_mem _ within)) walked,
        List.append_assoc, List.singleton_append]
    · cases entered
    · cases entered

theorem createFrom_meant (d : Disk) (here names : List String) :
    d.createFrom here names = d.createFrom here (meant names) := by
  induction names generalizing d here with
  | nil => rfl
  | cons first rest ih =>
    by_cases point : first = "."
    · subst point
      exact ih d here
    · have h : meant (first :: rest) = first :: meant rest := by simp [meant, point]
      rw [h, createFrom, createFrom]
      split
      · exact ih _ _
      · split
        · exact ih _ _
        · rfl

/-- Where directories are there already, none is created. -/
theorem createFrom_append (walked : d.walk here names = .ok there) (rest : List String) :
    d.createFrom here (names ++ rest) = d.createFrom there rest := by
  induction names generalizing here with
  | nil =>
    cases walked
    rfl
  | cons first names ih =>
    obtain ⟨next, entered, walked⟩ := exists_of_bind_eq_ok walked
    rw [List.cons_append, createFrom, entered]
    exact ih walked

theorem keepsDirectories_createFrom (d : Disk) (here names : List String) :
    d.KeepsDirectories (d.createFrom here names).2 := by
  induction names generalizing d here with
  | nil => exact fun _ => id
  | cons first rest ih =>
    rw [createFrom]
    split
    · exact ih _ _
    · rename_i fault refused
      split
      · rename_i gone
        have nothing := entry?_of_enter_error refused gone
        exact (keepsDirectories_set _ (nothing ▸ nofun)).trans (ih _ _)
      · exact fun _ => id

/-- A walk that is refused is so at one of its names. -/
theorem exists_of_walk_error (refused : d.walk here names = .error fault) :
    ∃ before name after there, names = before ++ name :: after ∧ d.walk here before = .ok there ∧
      d.enter there name = .error fault := by
  induction names generalizing here with
  | nil => cases refused
  | cons first rest ih =>
    cases entered : d.enter here first with
    | error fault' =>
      rw [walk, List.foldlM_cons, entered] at refused
      cases refused
      exact ⟨[], first, rest, here, rfl, rfl, entered⟩
    | ok next =>
      rw [walk, List.foldlM_cons, entered] at refused
      obtain ⟨before, name, after, there, rfl, walked, refused⟩ := ih refused
      refine ⟨first :: before, name, after, there, rfl, ?_, refused⟩
      rw [walk, List.foldlM_cons, entered]
      exact walked

/-- Directories that are created where there was nothing lead to nothing. -/
theorem absent_createFrom (name : String) {created : List String} (plain : ∀ name ∈ names, Plain name)
    (named : here ≠ []) (vacant : ∀ more ≠ [], d.entry? (here ++ more) = none)
    (within : created <+: names) :
    let d' := (d.createFrom here created).2
    d'.walk here names = .error missing ∨
      ∃ there, d'.walk here names = .ok there ∧ d'.entry? (there ++ [name]) = none := by
  induction created generalizing d here names with
  | nil =>
    cases names with
    | nil => exact .inr ⟨here, rfl, vacant _ (List.cons_ne_nil _ _)⟩
    | cons first rest =>
      refine .inl ?_
      show (d.enter here first >>= _) = _
      rw [(plain first (List.mem_cons_self ..)).enter_eq, vacant _ (List.cons_ne_nil _ _)]
      rfl
  | cons first created ih =>
    obtain ⟨rest, rfl⟩ := within
    have first_plain : Plain first := plain first (List.mem_cons_self ..)
    have below : here ++ [first] ≠ [] := by simp
    have made : d.createFrom here (first :: created) =
        (d.set (here ++ [first]) .directory).createFrom (here ++ [first]) created := by
      rw [createFrom, first_plain.enter_eq, vacant _ (List.cons_ne_nil _ _)]
      rfl
    have still (more : List String) (h : more ≠ []) :
        entry? (d.set (here ++ [first]) .directory) (here ++ [first] ++ more) = none := by
      rw [entry?_set_below _ below h, List.append_assoc]
      exact vacant _ (List.cons_ne_nil _ _)
    have further := ih (fun name within => plain name (List.mem_cons_of_mem _ within)) below still
      (List.prefix_append created rest)
    have there := keepsDirectories_createFrom (d.set (here ++ [first]) .directory)
      (here ++ [first]) created _ (entry?_set below .directory)
    rw [made]
    generalize ((d.set (here ++ [first]) .directory).createFrom (here ++ [first]) created).2 = d'
      at further there
    intro _
    have entered : d'.enter here first = .ok (here ++ [first]) := by
      rw [first_plain.enter_eq, there]
    rw [List.cons_append, walk, List.foldlM_cons, entered]
    exact further

/-- Where a directory is missing on the way to a file, the file is not there, nor when this directory and
some below it have been created. -/
theorem absent_of_missing (name : String) (rooted : d.Rooted) {before created rest : List String}
    {first : String} (plain : ∀ name ∈ before ++ first :: (created ++ rest), Plain name)
    (walked : d.walk [] before = .ok before) (nothing : d.entry? (before ++ [first]) = none) :
    let d' := ((d.set (before ++ [first]) .directory).createFrom (before ++ [first]) created).2
    d.Absent (before ++ first :: (created ++ rest)) name ∧
      d'.Absent (before ++ first :: (created ++ rest)) name := by
  have first_plain : Plain first := plain first (by simp)
  have named : before ++ [first] ≠ [] := by simp
  constructor
  · refine .inl ?_
    rw [walk_append, walked]
    show (d.enter before first >>= _) = _
    rw [first_plain.enter_eq, nothing]
    rfl
  · have vacant (more : List String) (h : more ≠ []) :
        entry? (d.set (before ++ [first]) .directory) (before ++ [first] ++ more) = none := by
      rw [entry?_set_below _ named h]
      exact rooted.below nothing more
    have absent := absent_createFrom name
      (fun n among => plain n (List.mem_append_right _ (List.mem_cons_of_mem _ among))) named vacant
      (List.prefix_append created rest)
    have kept := (keepsDirectories_set (d := d) .directory (nothing ▸ nofun)).trans
      (keepsDirectories_createFrom (d.set (before ++ [first]) .directory) (before ++ [first]) created)
    have there := keepsDirectories_createFrom (d.set (before ++ [first]) .directory)
      (before ++ [first]) created _ (entry?_set named .directory)
    generalize ((d.set (before ++ [first]) .directory).createFrom (before ++ [first]) created).2 = d'
      at absent kept there
    have entered : d'.enter before first = .ok (before ++ [first]) := by
      rw [first_plain.enter_eq, there]
    rw [Absent, walk_append, kept.walk walked]
    show (d'.enter before first >>= _) = _ ∨ ∃ there, (d'.enter before first >>= _) = _ ∧ _
    rw [entered]
    exact absent

/-- Directories that are created on the way to a file do not show in this. -/
theorem read_of_createFrom (rooted : d.Rooted) (h : steps path = directory ++ [name])
    (plain : ∀ name ∈ steps path, Plain name) {created : List String}
    (within : created <+: directory) : (d.createFrom [] created).2.read path = d.read path := by
  have plain_directory (n : String) (among : n ∈ directory) : Plain n :=
    plain n (h ▸ List.mem_append_left _ among)
  have plain_name : Plain name := plain name (h ▸ List.mem_append_right _ (List.mem_singleton_self _))
  cases walked : d.walk [] created with
  | ok there =>
    have unchanged := createFrom_append walked []
    rw [List.append_nil] at unchanged
    rw [unchanged]
    rfl
  | error fault =>
    obtain ⟨before, first, after, there, rfl, walked, refused⟩ := exists_of_walk_error walked
    obtain ⟨rest, rfl⟩ := within
    obtain rfl : there = before := walk_plain (fun n among => plain_directory n (by simp [among])) walked
    rw [createFrom_append walked, createFrom, refused]
    by_cases gone : fault.isMissing = true
    · have route : there ++ first :: after ++ rest = there ++ first :: (after ++ rest) := by simp
      rw [route] at h plain_directory
      obtain ⟨absent, absent'⟩ := absent_of_missing name rooted plain_directory walked
        (entry?_of_enter_error refused gone)
      simp only [gone, if_true]
      exact read_eq_of_absent h plain_name.ne_points plain_name.short absent absent'
    · simp only [gone]
      rfl

end Disk

end RealmSetup
