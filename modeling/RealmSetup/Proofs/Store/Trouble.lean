import RealmSetup.Proofs.Store.FileText
import RealmSetup.Proofs.Store.SharedDisk
import RealmSetup.Proofs.Store.Walks

/-!
# A store on a disk that fails

Any call to a disk may fail, and leave behind what it had done by then (`Disk.Mishap`).  `Program.Ends`
says what can come of a program then.  A record is persisted as a whole or not at all: either the file
holds it, or the file is read as before (`FileVault.brings_persist`).

A call to a store that fails has changed what is kept in memory all the same, and it leaves the file as it
was (`FileVault.failed_call_keeps_file`).
-/

namespace RealmSetup

open FilePath

namespace Disk

variable {d d' : Disk} {path : String}

/-! ## Calls that fail -/

/-- What a call that fails may leave of a disk. -/
inductive Mishap (d : Disk) : Files.Call → Disk → Prop
  | nothing (c : Files.Call) : Mishap d c d
  /-- Some of the directories were created. -/
  | directories {path : String} {way : Way} (taken : wayOf path = .ok way) (n : Nat) :
    Mishap d (.createDirectories path) (d.createFrom [] (way.names.take n)).2
  /-- The file was created. -/
  | created {path : String} {d' : Disk} (h : d.write path [] = .ok d') : Mishap d (.create path) d'
  /-- Other bytes were written, perhaps only the first ones. -/
  | written {path : String} (bytes others : List UInt8) {d' : Disk}
    (h : d.write path others = .ok d') : Mishap d (.write path bytes) d'

/-- What a call may be answered with, and what it may leave.  It fails for want of a file only where there
is none. -/
inductive Outcome (d : Disk) (c : Files.Call) (answer : Except FileFault (Files.Result c)) (d' : Disk) :
    Prop
  | served (h : d.serve c = (answer, d')) : Outcome d c answer d'
  | failed (fault : FileFault) (ending : answer = .error fault) (other : fault.isMissing = false)
    (h : d.Mishap c d') : Outcome d c answer d'

theorem Outcome.of_ok {c : Files.Call} {a : Files.Result c} (h : d.Outcome c (.ok a) d') :
    d.serve c = (.ok a, d') := by
  cases h with
  | served h => exact h
  | failed fault ending => cases ending

/-! ## What shows in the file -/

/-- The directory of a path is there, or its names are plain. -/
def Ways (d : Disk) (path : String) : Prop :=
  (∃ goal, d.goal path = .ok goal) ∨ ∀ name ∈ steps path, Plain name

theorem walk_of_goal_eq_ok {directory : List String} {name : String} {goal : Goal}
    (led : d.goal path = .ok goal) (h : steps path = directory ++ [name]) (proper : name ≠ "..") :
    ∃ there, d.walk [] directory = .ok there := by
  obtain ⟨way, taken, led⟩ := exists_of_bind_eq_ok led
  rw [steps_eq_meant taken] at h
  rw [goalFrom_eq h proper] at led
  obtain ⟨there, walked, -⟩ := exists_of_bind_eq_ok led
  exact ⟨there, walked⟩

/-- Directories on the way to a file do not show in this. -/
theorem read_of_directories (p : FileVault.Parts path) (rooted : d.Rooted) (ways : d.Ways path)
    {created : List String} (within : created <+: p.directory) :
    (d.createFrom [] created).2.read path = d.read path := by
  obtain ⟨goal, led⟩ | plain := ways
  · obtain ⟨there, walked⟩ := walk_of_goal_eq_ok led p.steps_eq p.name_ne
    obtain ⟨rest, route⟩ := within
    rw [← route, walk_append] at walked
    obtain ⟨inside, walked, -⟩ := exists_of_bind_eq_ok walked
    have unchanged := createFrom_append walked []
    rw [List.append_nil] at unchanged
    rw [unchanged]
    rfl
  · exact read_of_createFrom rooted p.steps_eq plain within

theorem read_of_createDirectories (p : FileVault.Parts path) (rooted : d.Rooted) (ways : d.Ways path)
    {parent : String} (h : parent? path = some parent) {answer : Except FileFault Unit}
    (outcome : d.Outcome (.createDirectories parent) answer d') : d'.read path = d.read path := by
  have created {way : Way} (taken : wayOf parent = .ok way) (n : Nat) :
      (d.createFrom [] (way.names.take n)).2.read path = d.read path := by
    rw [createFrom_meant]
    refine read_of_directories p rooted ways ?_
    rw [← p.steps_parent parent h, steps_eq_meant taken]
    exact (List.take_prefix n way.names).filter _
  cases outcome with
  | served h =>
    cases taken : wayOf parent with
    | error fault =>
      have left : d.serve (.createDirectories parent) = (.error fault, d) := by
        show d.createDirectories parent = _
        rw [createDirectories, taken]
      rw [left] at h
      cases h
      rfl
    | ok way =>
      have left : d.serve (.createDirectories parent) =
          d.createFrom [] (way.names.take way.names.length) := by
        show d.createDirectories parent = _
        rw [createDirectories, taken, List.take_length]
      rw [left] at h
      have made := created taken way.names.length
      rwa [h] at made
  | failed fault ending other h =>
    cases h with
    | nothing => rfl
    | directories taken n => exact created taken n

theorem read_of_settle {bytes : List UInt8} (p : FileVault.Parts path) {answer : Except FileFault Unit}
    (h : d.settle (d.write (FileVault.draftPath path) bytes) = (answer, d')) :
    d'.read path = d.read path := by
  cases written : d.write (FileVault.draftPath path) bytes with
  | ok left =>
    rw [written] at h
    cases h
    exact read_of_write_draft p written
  | error fault =>
    rw [written] at h
    cases h
    rfl

theorem read_of_create (p : FileVault.Parts path) {answer : Except FileFault Unit}
    (outcome : d.Outcome (.create (FileVault.draftPath path)) answer d') :
    d'.read path = d.read path := by
  cases outcome with
  | served h => exact read_of_settle p h
  | failed fault ending other h =>
    cases h with
    | nothing => rfl
    | created h => exact read_of_write_draft p h

theorem read_of_writeCall (p : FileVault.Parts path) {bytes : List UInt8}
    {answer : Except FileFault Unit}
    (outcome : d.Outcome (.write (FileVault.draftPath path) bytes) answer d') :
    d'.read path = d.read path := by
  cases outcome with
  | served h => exact read_of_settle p h
  | failed fault ending other h =>
    cases h with
    | nothing => rfl
    | written _ _ h => exact read_of_write_draft p h

theorem eq_of_sync {answer : Except FileFault Unit} (outcome : d.Outcome (.sync path) answer d') :
    d' = d := by
  cases outcome with
  | served h =>
    cases h
    rfl
  | failed fault ending other h =>
    cases h
    rfl

theorem eq_of_settle_error {result : Except FileFault Disk} {fault : FileFault}
    (h : d.settle result = (.error fault, d')) : d' = d := by
  cases result with
  | ok left => cases h
  | error fault =>
    cases h
    rfl

theorem eq_ok_of_settle {result : Except FileFault Disk} {u : Unit}
    (h : d.settle result = (.ok u, d')) : result = .ok d' := by
  cases result with
  | ok left =>
    cases h
    rfl
  | error fault => cases h

theorem eq_of_rename_error {source dest : String} {fault : FileFault}
    (outcome : d.Outcome (.rename source dest) (.error fault) d') : d' = d := by
  cases outcome with
  | served h => exact eq_of_settle_error h
  | failed fault ending other h =>
    cases h
    rfl

theorem eq_of_remove_error {fault : FileFault}
    (outcome : d.Outcome (.remove path) (.error fault) d') : d' = d := by
  cases outcome with
  | served h => exact eq_of_settle_error h
  | failed fault ending other h =>
    cases h
    rfl

end Disk

/-! ## Programs on a disk that fails -/

namespace Program

variable {α β : Type} {d d' : Disk}

/-- What may come of a program, and what it may leave of a disk, where any call may fail. -/
def Ends : Program Files α → Disk → α → Disk → Prop
  | .done a, d, b, d' => b = a ∧ d' = d
  | .ask c next, d, b, d' =>
    ∃ answer between, d.Outcome c answer between ∧ (next answer).Ends between b d'

theorem ends_bind {p : Program Files α} {f : α → Program Files β} {b : β} :
    (p >>= f).Ends d b d' ↔ ∃ a between, p.Ends d a between ∧ (f a).Ends between b d' := by
  induction p generalizing d with
  | done a =>
    constructor
    · exact fun h => ⟨a, d, ⟨rfl, rfl⟩, h⟩
    · rintro ⟨_, _, ⟨rfl, rfl⟩, h⟩
      exact h
  | ask c next ih =>
    constructor
    · rintro ⟨answer, between, outcome, h⟩
      obtain ⟨a, left, first, rest⟩ := (ih answer).1 h
      exact ⟨a, left, ⟨answer, between, outcome, first⟩, rest⟩
    · rintro ⟨a, left, ⟨answer, between, outcome, first⟩, rest⟩
      exact ⟨answer, between, outcome, (ih answer).2 ⟨a, left, first, rest⟩⟩

/-- What comes of a program where no call fails, may come of it. -/
theorem ends_eval (p : Program Files α) (s : SharedDisk) :
    p.Ends s.disk (p.eval (SharedDisk.answer fun _ d => d) s).1
      (p.eval (SharedDisk.answer fun _ d => d) s).2.disk := by
  induction p generalizing s with
  | done a => exact ⟨rfl, rfl⟩
  | ask c next ih =>
    refine ⟨(s.disk.serve c).1, (s.disk.serve c).2, .served rfl, ?_⟩
    exact ih (s.disk.serve c).1 ⟨(s.disk.serve c).2, s.calls + 1, _⟩

end Program

namespace FileVault

variable {α β : Type} {path : String} {d d' : Disk}

/-- From disks of one kind an attempt brings, whatever fails, endings and disks of a kind. -/
def Brings (pre : Disk → Prop) (w : Work α) (post : Except StoreError α → Disk → Prop) : Prop :=
  ∀ d result d', pre d → w.run.Ends d result d' → post result d'

variable {pre : Disk → Prop} {middle : Except StoreError α → Disk → Prop}
  {post : Except StoreError β → Disk → Prop}

theorem brings_pure {a : α} (h : ∀ d, pre d → middle (.ok a) d) :
    Brings pre (pure a : Work α) middle := by
  rintro d _ _ holds ⟨rfl, rfl⟩
  exact h _ holds

theorem Brings.bind {w : Work α} {f : α → Work β} (first : Brings pre w middle)
    (rest : ∀ a, Brings (middle (.ok a)) (f a) post)
    (stops : ∀ e d, middle (.error e) d → post (.error e) d) : Brings pre (w >>= f) post := by
  intro d result d' holds ends
  rw [ExceptT.run_bind, Program.ends_bind] at ends
  obtain ⟨a, between, ended, ends⟩ := ends
  have between := first d a between holds ended
  cases a with
  | ok a => exact rest a _ result d' between ends
  | error e =>
    obtain ⟨rfl, rfl⟩ := ends
    exact stops e _ between

/-- A call that must not fail. -/
theorem brings_insist {post : Except StoreError Unit → Disk → Prop} (doing : String) {c : Files.Call}
    (done : ∀ d a d', pre d → d.Outcome c (.ok a) d' → post (.ok ()) d')
    (fails : ∀ d fault d' e, pre d → d.Outcome c (.error fault) d' → post (.error e) d') :
    Brings pre (insist doing c) post := by
  rintro d result d' holds ⟨answer, between, outcome, ends⟩
  cases answer with
  | ok a =>
    obtain ⟨rfl, rfl⟩ := ends
    exact done d a _ holds outcome
  | error fault =>
    obtain ⟨rfl, rfl⟩ := ends
    exact fails d fault _ _ holds outcome

/-! ## The file as a whole -/

/-- The file is read as on an earlier disk, if its draft is another file and its directory is there or can
be created. -/
def Kept (before : Disk) (path : String) (d : Disk) : Prop :=
  steps (draftPath path) ≠ steps path → before.Rooted → before.Ways path →
    d.read path = before.read path

theorem Kept.step {before : Disk} (h : Kept before path d)
    (same : Parts path → d'.read path = d.read path) : Kept before path d' := by
  intro apart rooted ways
  obtain ⟨p⟩ := nonempty_parts apart
  rw [same p]
  exact h apart rooted ways

/-- A file is replaced as a whole or, by an attempt that fails, not at all. -/
def Whole (before : Disk) (path : String) (m : KeyMap Secret) (result : Except StoreError Unit)
    (d : Disk) : Prop :=
  match result with
  | .ok _ => d.read path = .ok (bytesOf m)
  | .error _ => Kept before path d

/-- A draft holds what was written, and the file is as it was. -/
def Drafted (before : Disk) (path : String) (m : KeyMap Secret) (result : Except StoreError Unit)
    (d : Disk) : Prop :=
  Kept before path d ∧ ∀ u, result = .ok u → d.read (draftPath path) = .ok (bytesOf m)

theorem brings_persist (before : Disk) (path : String) (m : KeyMap Secret) :
    Brings (· = before) (persist path m) (Whole before path m) := by
  have created : Brings (Kept before path) (insist ("Failed to create " ++ draftPath path)
      (.create (draftPath path))) fun _ => Kept before path :=
    brings_insist _ (fun _ _ _ kept outcome => kept.step (Disk.read_of_create · outcome))
      fun _ _ _ _ kept outcome => kept.step (Disk.read_of_create · outcome)
  have written : Brings (Kept before path) (insist ("Failed to write " ++ draftPath path)
      (.write (draftPath path) (bytesOf m))) (Drafted before path m) := by
    refine brings_insist _ (fun d a d' kept outcome => ?_) fun d fault d' e kept outcome => ?_
    · exact ⟨kept.step (Disk.read_of_writeCall · outcome),
        fun _ _ => Disk.read_of_write (Disk.eq_ok_of_settle outcome.of_ok)⟩
    · exact ⟨kept.step (Disk.read_of_writeCall · outcome), nofun⟩
  have synced : Brings (Drafted before path m (.ok ())) (insist ("Failed to sync " ++ draftPath path)
      (.sync (draftPath path))) (Drafted before path m) := by
    refine brings_insist _ (fun d a d' drafted outcome => ?_) fun d fault d' e drafted outcome => ?_
    · rwa [Disk.eq_of_sync outcome]
    · rw [Disk.eq_of_sync outcome]
      exact ⟨drafted.1, nofun⟩
  have moved : Brings (Drafted before path m (.ok ())) (insist ("Failed to replace " ++ path)
      (.rename (draftPath path) path)) (Whole before path m) := by
    refine brings_insist _ (fun d a d' drafted outcome => ?_) fun d fault d' e drafted outcome => ?_
    · exact Disk.read_of_rename (Disk.eq_ok_of_settle outcome.of_ok) (drafted.2 () rfl)
    · rw [Disk.eq_of_rename_error outcome]
      exact drafted.1
  have rest := created.bind (fun _ => written.bind (fun _ => synced.bind (fun _ => moved)
    fun _ _ drafted => drafted.1) fun _ _ drafted => drafted.1) fun _ _ kept => kept
  have unchanged : Brings (· = before) (pure () : Work Unit) fun _ => Kept before path :=
    brings_pure fun d same => same ▸ fun _ _ _ => rfl
  unfold persist
  split
  · exact unchanged.bind (fun _ => rest) fun _ _ kept => kept
  · exact unchanged.bind (fun _ => rest) fun _ _ kept => kept
  · rename_i parent _ below
    have made {d d' : Disk} {answer : Except FileFault Unit} (same : d = before)
        (outcome : d.Outcome (.createDirectories parent) answer d') : Kept before path d' := by
      subst same
      intro apart rooted ways
      obtain ⟨p⟩ := nonempty_parts apart
      exact Disk.read_of_createDirectories p rooted ways below outcome
    have directories : Brings (· = before) (insist ("Failed to create store directory " ++ parent)
        (.createDirectories parent)) fun _ => Kept before path :=
      brings_insist _ (fun _ _ _ same outcome => made same outcome)
        fun _ _ _ _ same outcome => made same outcome
    exact directories.bind (fun _ => rest) fun _ _ kept => kept

/-- A file is discarded by a call to remove it, which may fail only for want of the file. -/
theorem exists_of_discard {result : Except StoreError Unit}
    (ends : (discard path).run.Ends d result d') :
    ∃ answer, d.Outcome (.remove path) answer d' ∧
      (result = .ok () ↔ ∀ fault, answer = .error fault → fault.isMissing = true) := by
  obtain ⟨answer, between, outcome, ends⟩ := ends
  cases answer with
  | ok a =>
    obtain ⟨rfl, rfl⟩ := ends
    exact ⟨_, outcome, by simp⟩
  | error fault =>
    change (if fault.isMissing then _ else _ : Program Files (Except StoreError Unit)).Ends _ _ _ at ends
    split at ends
    · next gone =>
      obtain ⟨rfl, rfl⟩ := ends
      exact ⟨_, outcome, by simp [gone]⟩
    · next other =>
      obtain ⟨rfl, rfl⟩ := ends
      exact ⟨_, outcome, by simp [other]⟩

/-- A file that could not be removed is as it was. -/
theorem eq_of_discard_error {e : StoreError} (ends : (discard path).run.Ends d (.error e) d') :
    d' = d := by
  obtain ⟨answer, outcome, succeeds⟩ := exists_of_discard ends
  cases answer with
  | ok a => cases succeeds.2 nofun
  | error fault => exact Disk.eq_of_remove_error outcome

/-! ## Calls of a store -/

/-- The store that is opened from a disk. -/
def opened (d : Disk) (path : String) : Except StoreError FileVault :=
  (SharedDisk.run (fun _ d => d) (open? path) (.start d)).1

/-- What is opened depends on what is read alone. -/
theorem opened_eq (d : Disk) (path : String) :
    opened d path =
      match d.read path with
      | .error fault =>
        if fault.isMissing then .ok ⟨path, .empty⟩
        else .error (.backend ("Failed to read " ++ path ++ ": " ++ fault.cause))
      | .ok bytes =>
        match secretsIn bytes with
        | .ok secrets => .ok ⟨path, secrets⟩
        | .error fault =>
          .error (.serialization ("Failed to parse " ++ path ++ ": " ++ faultText fault)) := by
  have served : (SharedDisk.found (fun _ d => d) (.start d)).serve (.read path) = (d.read path, d) := rfl
  rw [opened, open?, SharedDisk.run_ask, served]
  cases d.read path with
  | error fault => cases gone : fault.isMissing <;> simp [gone]
  | ok bytes => cases read : secretsIn bytes <;> simp [read]

theorem opened_eq_of_read (h : d'.read path = d.read path) : opened d' path = opened d path := by
  rw [opened_eq, opened_eq, h]

theorem opened_of_read {m : KeyMap Secret} (h : d.read path = .ok (bytesOf m)) :
    opened d path = .ok ⟨path, m⟩ := by
  rw [opened_eq, h]
  simp [secretsIn_bytesOf]

/-- Whatever fails, a call of a store that fails leaves the file as it was: opening it comes to the same.
After a put this needs a draft that is another file, and a directory that is there or can be created.  In
memory all is changed as by a call that succeeds, so that this is what is answered from then on.  A secret
that is put away brings all that memory holds into the file. -/
theorem failed_call_keeps_file (v : FileVault) (d : Disk) :
    (∀ user secret e v' d', (v.serve (.put user secret)).Ends d (.error e, v') d' →
      (∀ name, v'.serve (.get name) =
        pure (.ok (if user = name then some secret else v.secrets.get? name), v')) ∧
      (steps (draftPath v.path) ≠ steps v.path → d.Rooted → d.Ways v.path →
        opened d' v.path = opened d v.path)) ∧
    (∀ e v' d', (v.serve .clear).Ends d (.error e, v') d' →
      (∀ name, v'.serve (.get name) = pure (.ok none, v')) ∧ opened d' v.path = opened d v.path) ∧
    ∀ user secret v' d', (v.serve (.put user secret)).Ends d (.ok (), v') d' →
      opened d' v.path = .ok v' := by
  refine ⟨fun user secret e v' d' ends => ?_, fun e v' d' ends => ?_,
    fun user secret v' d' ends => ?_⟩
  · obtain ⟨result, between, persisted, ended, rfl⟩ := Program.ends_bind.1 ends
    cases ended
    refine ⟨fun name => ?_, fun apart rooted ways => opened_eq_of_read ?_⟩
    · show pure _ = _
      rw [KeyMap.get?_insert]
    · exact brings_persist d v.path _ d _ _ rfl persisted apart rooted ways
  · obtain ⟨result, between, discarded, ended, rfl⟩ := Program.ends_bind.1 ends
    cases ended
    exact ⟨fun name => rfl, congrArg (opened · v.path) (eq_of_discard_error discarded)⟩
  · obtain ⟨result, between, persisted, ended, rfl⟩ := Program.ends_bind.1 ends
    cases ended
    exact opened_of_read (brings_persist d v.path _ d _ _ rfl persisted)

/-- A directory stands where the draft would be. -/
def blockedDisk : Disk := Disk.set ⟨.empty⟩ ["seeds.tmp"] .directory

/-- A secret that could not be put away is answered all the same. -/
theorem failed_put_is_answered :
    opened blockedDisk "seeds.json" = .ok ⟨"seeds.json", .empty⟩ ∧
    ∃ e v' d', (serve ⟨"seeds.json", .empty⟩ (.put "ann" ⟨"S"⟩)).Ends blockedDisk (.error e, v') d' ∧
      serve ⟨"seeds.json", .empty⟩ (.get "ann") = pure (.ok none, ⟨"seeds.json", .empty⟩) ∧
      v'.serve (.get "ann") = pure (.ok (some ⟨"S"⟩), v') := by
  have absent : blockedDisk.read "seeds.json" = .error Disk.missing := rfl
  have refused : (SharedDisk.run (fun _ d => d) (persist "seeds.json" (KeyMap.empty.insert "ann" ⟨"S"⟩))
      (.start blockedDisk)).1 =
        .error (.backend "Failed to create seeds.tmp: Is a directory (os error 21)") := by
    decide +kernel
  have ends := Program.ends_eval (persist "seeds.json" (KeyMap.empty.insert "ann" ⟨"S"⟩)).run
    (.start blockedDisk)
  rw [SharedDisk.run] at refused
  rw [refused] at ends
  refine ⟨?_, _, _, _, Program.ends_bind.2 ⟨_, _, ends, rfl, rfl⟩, rfl, rfl⟩
  rw [opened_eq, absent]
  rfl

def fullDisk : FileFault := ⟨false, "No space left on device (os error 28)"⟩

/-- Three bytes of the draft are written when the disk is full. -/
theorem failed_call_keeps_file_tornDraft :
    ∃ e v' d', (serve ⟨"seeds.json", .empty⟩ (.put "ann" ⟨"S"⟩)).Ends ⟨.empty⟩ (.error e, v') d' ∧
      d'.read "seeds.tmp" = .ok [123, 10, 32] ∧
      opened d' "seeds.json" = opened ⟨.empty⟩ "seeds.json" := by
  have rooted : Disk.Rooted ⟨.empty⟩ := fun names name something => by
    rw [Disk.entry?_of_ne_nil (by simp), KeyMap.get?_empty] at something
    exact absurd rfl something
  have apart : steps (draftPath "seeds.json") ≠ steps "seeds.json" := by decide +kernel
  have ways : Disk.Ways ⟨.empty⟩ "seeds.json" := .inl ⟨_, rfl⟩
  have parent : parent? "seeds.json" = some "" := by decide +kernel
  have draft : draftPath "seeds.json" = "seeds.tmp" := by decide +kernel
  have torn : (persist "seeds.json" (KeyMap.empty.insert "ann" ⟨"S"⟩)).run.Ends ⟨.empty⟩
      (.error (.backend ("Failed to write seeds.tmp: " ++ fullDisk.cause)))
      (Disk.set (Disk.set ⟨.empty⟩ ["seeds.tmp"] (.file [])) ["seeds.tmp"] (.file [123, 10, 32])) := by
    rw [persist, parent, draft]
    refine ⟨.ok (), Disk.set ⟨.empty⟩ ["seeds.tmp"] (.file []), .served rfl, ?_⟩
    refine ⟨.error fullDisk, _, .failed fullDisk rfl rfl (.written _ [123, 10, 32] rfl), rfl, rfl⟩
  have ends : (serve ⟨"seeds.json", .empty⟩ (.put "ann" ⟨"S"⟩)).Ends ⟨.empty⟩ _ _ :=
    Program.ends_bind.2 ⟨_, _, torn, rfl, rfl⟩
  exact ⟨_, _, _, ends, rfl,
    ((failed_call_keeps_file ⟨"seeds.json", .empty⟩ ⟨.empty⟩).1 _ _ _ _ _ ends).2 apart rooted ways⟩

end FileVault

end RealmSetup
