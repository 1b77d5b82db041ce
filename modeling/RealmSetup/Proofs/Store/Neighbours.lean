import RealmSetup.Proofs.Store.Trouble

/-!
# Files beside a store

A disk holds files under their full names, and a path leads to one of these (`Disk.Leads`).  A call changes
the files that its paths lead to, and no others: creating directories changes none
(`Disk.file?_createFrom`), writing changes one (`Disk.exists_file_of_write`), moving two
(`Disk.exists_files_of_rename`).  A record is written under the name of its draft and moved into its
place, so that a secret that is put away changes two files: the one of the store, and the one that stood
under the name of the draft, if there was any (`FileVault.calls_change_own_files`).
-/

namespace RealmSetup

/-- The bytes of an entry that is a file. -/
def DiskEntry.bytes? : DiskEntry → Option (List UInt8)
  | .file bytes => some bytes
  | .directory => none

namespace Disk

variable {d d' : Disk} {path source dest k : String} {names : List String} {bytes : List UInt8}
  {fault : FileFault}

/-! ## Files by their names -/

/-- The bytes of the file with a full name. -/
def file? (d : Disk) (k : String) : Option (List UInt8) := (d.entries.get? k).bind DiskEntry.bytes?

theorem file?_key (named : names ≠ []) : d.file? (key names) = (d.entry? names).bind DiskEntry.bytes? := by
  rw [file?, entry?_of_ne_nil named]

theorem file?_set (names : List String) (e : DiskEntry) (k : String) :
    (d.set names e).file? k = if key names = k then e.bytes? else d.file? k := by
  unfold file? set
  rw [KeyMap.get?_insert]
  split <;> rfl

theorem file?_erase (k k' : String) :
    file? ⟨d.entries.erase k⟩ k' = if k = k' then none else d.file? k' := by
  unfold file?
  rw [KeyMap.get?_erase]
  split <;> rfl

/-- A path leads to a full name. -/
def Leads (d : Disk) (path k : String) : Prop :=
  ∃ inside name, d.goal path = .ok (.name inside name false) ∧ k = key (inside ++ [name])

theorem Leads.eq {k' : String} (h : d.Leads path k) (h' : d.Leads path k') : k = k' := by
  obtain ⟨inside, name, led, rfl⟩ := h
  obtain ⟨inside', name', led', rfl⟩ := h'
  cases led.symm.trans led'
  rfl

theorem KeepsDirectories.leads (kept : d.KeepsDirectories d') (h : d.Leads path k) :
    d'.Leads path k := by
  obtain ⟨inside, name, led, rfl⟩ := h
  exact ⟨inside, name, kept.goal led, rfl⟩

theorem leads_of_file (found : d.file path = .ok (names, bytes)) :
    d.Leads path (key names) ∧ d.file? (key names) = some bytes := by
  obtain ⟨inside, name, led, rfl, entry⟩ := file_eq_ok_iff.1 found
  refine ⟨⟨inside, name, led, rfl⟩, ?_⟩
  rw [file?_key (by simp), entry]
  rfl

/-- What is read is the file that the path leads to. -/
theorem read_eq_ok_iff_leads : d.read path = .ok bytes ↔ ∃ k, d.Leads path k ∧ d.file? k = some bytes := by
  constructor
  · intro read
    obtain ⟨names, found⟩ := read_eq_ok_iff.1 read
    exact ⟨_, leads_of_file found⟩
  · rintro ⟨_, ⟨inside, name, led, rfl⟩, held⟩
    rw [file?_key (by simp), Option.bind_eq_some_iff] at held
    obtain ⟨bytes' | _, entry, same⟩ := held
    · cases same
      exact read_eq_ok_iff.2 ⟨_, file_eq_ok_iff.2 ⟨inside, name, led, rfl, entry⟩⟩
    · cases same

/-! ## What calls change -/

/-- Directories that are created change no file. -/
theorem file?_createFrom (here names : List String) (k : String) :
    (d.createFrom here names).2.file? k = d.file? k := by
  induction names generalizing d here with
  | nil => rfl
  | cons first rest ih =>
    rw [createFrom]
    split
    · exact ih _
    · next refused =>
      split
      · next gone =>
        have nothing := entry?_of_enter_error refused gone
        rw [ih, file?_set]
        split
        · next same =>
          rw [← same, file?_key (by simp), nothing]
          rfl
        · rfl
      · rfl

theorem file?_createDirectories (path k : String) : (d.createDirectories path).2.file? k = d.file? k := by
  unfold createDirectories
  split
  · exact file?_createFrom _ _ k
  · rfl

/-- What is written is the file that the path leads to. -/
theorem exists_file_of_write (written : d.write path bytes = .ok d') :
    ∃ file, d.Leads path file ∧ d.KeepsDirectories d' ∧
      ∀ k, d'.file? k = if file = k then some bytes else d.file? k := by
  obtain ⟨inside, name, led, other, rfl⟩ := exists_of_write written
  exact ⟨_, ⟨inside, name, led, rfl⟩, keepsDirectories_set _ other, file?_set _ _⟩

/-- What is moved is the file that one path leads to, to where the other one leads. -/
theorem exists_files_of_rename (moved : d.rename source dest = .ok d') :
    ∃ old new, d.Leads source old ∧ d.Leads dest new ∧ d.KeepsDirectories d' ∧
      ∀ k, d'.file? k = if new = k then d.file? old else if old = k then none else d.file? k := by
  have kept := keepsDirectories_of_rename moved
  obtain ⟨names, bytes, inside, name, found, led, -, rfl⟩ := exists_of_rename moved
  obtain ⟨old, held⟩ := leads_of_file found
  refine ⟨_, _, old, ⟨inside, name, led, rfl⟩, kept, fun k => ?_⟩
  rw [file?_set, file?_erase, held]
  rfl

/-- What is removed is the file that the path leads to. -/
theorem exists_file_of_remove (removed : d.remove path = .ok d') :
    ∃ file, d.Leads path file ∧ ∀ k, d'.file? k = if file = k then none else d.file? k := by
  obtain ⟨names, bytes, found, rfl⟩ := exists_of_remove removed
  exact ⟨_, (leads_of_file found).1, file?_erase _⟩

/-- Where a file is missing when it is to be removed, the path leads to none. -/
theorem file?_of_remove_missing (outcome : d.Outcome (.remove path) (.error fault) d')
    (gone : fault.isMissing = true) (leads : d.Leads path k) : d.file? k = none := by
  cases outcome with
  | served refused =>
    cases removed : d.remove path with
    | ok left => simp [serve, settle, removed] at refused
    | error fault' =>
      have unread := read_of_remove_error removed
      cases held : d.file? k with
      | none => rfl
      | some bytes => cases unread.symm.trans (read_eq_ok_iff_leads.2 ⟨k, leads, held⟩)
  | failed fault' ending other =>
    cases ending
    rw [other] at gone
    cases gone

end Disk

namespace FileVault

open FilePath

variable {α β : Type} {path : String} {d d' : Disk}

/-! ## Attempts that succeed -/

theorem exists_of_bind_ends_ok {w : Work α} {f : α → Work β} {b : β}
    (ends : (w >>= f).run.Ends d (.ok b) d') :
    ∃ a between, w.run.Ends d (.ok a) between ∧ (f a).run.Ends between (.ok b) d' := by
  rw [ExceptT.run_bind, Program.ends_bind] at ends
  obtain ⟨result, between, first, rest⟩ := ends
  cases result with
  | ok a => exact ⟨a, between, first, rest⟩
  | error e => cases rest.1

theorem exists_of_insist_ok {doing : String} {c : Files.Call} {u : Unit}
    (ends : (insist doing c).run.Ends d (.ok u) d') : ∃ a, d.serve c = (.ok a, d') := by
  obtain ⟨answer, between, outcome, ends⟩ := ends
  cases answer with
  | ok a =>
    obtain ⟨-, rfl⟩ := ends
    exact ⟨a, outcome.of_ok⟩
  | error fault => cases ends.1

/-- A record that is persisted was written as a draft, which was moved into its place. -/
theorem exists_of_persist {m : KeyMap Secret} (ends : (persist path m).run.Ends d (.ok ()) d') :
    ∃ there created drafted : Disk, (∀ k, there.file? k = d.file? k) ∧
      there.write (draftPath path) [] = .ok created ∧
      created.write (draftPath path) (bytesOf m) = .ok drafted ∧
      drafted.rename (draftPath path) path = .ok d' := by
  have replaced {there : Disk} (ends : (ExceptT.run do
        insist ("Failed to create " ++ draftPath path) (.create (draftPath path))
        insist ("Failed to write " ++ draftPath path) (.write (draftPath path) (bytesOf m))
        insist ("Failed to sync " ++ draftPath path) (.sync (draftPath path))
        insist ("Failed to replace " ++ path) (.rename (draftPath path) path)).Ends there (.ok ()) d') :
      ∃ created drafted : Disk, there.write (draftPath path) [] = .ok created ∧
        created.write (draftPath path) (bytesOf m) = .ok drafted ∧
        drafted.rename (draftPath path) path = .ok d' := by
    obtain ⟨_, created, create, ends⟩ := exists_of_bind_ends_ok ends
    obtain ⟨_, drafted, write, ends⟩ := exists_of_bind_ends_ok ends
    obtain ⟨_, synced, sync, rename⟩ := exists_of_bind_ends_ok ends
    obtain ⟨_, create⟩ := exists_of_insist_ok create
    obtain ⟨_, write⟩ := exists_of_insist_ok write
    obtain ⟨_, sync⟩ := exists_of_insist_ok sync
    obtain ⟨_, rename⟩ := exists_of_insist_ok rename
    cases sync
    exact ⟨created, drafted, Disk.eq_ok_of_settle create, Disk.eq_ok_of_settle write,
      Disk.eq_ok_of_settle rename⟩
  unfold persist at ends
  split at ends
  · obtain ⟨created, drafted, replaced⟩ := replaced ends
    exact ⟨d, created, drafted, fun _ => rfl, replaced⟩
  · obtain ⟨created, drafted, replaced⟩ := replaced ends
    exact ⟨d, created, drafted, fun _ => rfl, replaced⟩
  · next parent _ below =>
    obtain ⟨_, there, made, ends⟩ := exists_of_bind_ends_ok ends
    obtain ⟨_, made⟩ := exists_of_insist_ok made
    obtain ⟨created, drafted, replaced⟩ := replaced ends
    refine ⟨there, created, drafted, fun k => ?_, replaced⟩
    rw [← Disk.file?_createDirectories (d := d) parent k]
    exact congrArg (Disk.file? · k) (congrArg Prod.snd made).symm

/-- Persisting a record leaves the files that there were, but for that of the record and that of its
draft. -/
theorem exists_files_of_persist {m : KeyMap Secret} (ends : (persist path m).run.Ends d (.ok ()) d') :
    ∃ file draft, d'.Leads path file ∧ d'.Leads (draftPath path) draft ∧
      ∀ k, d'.file? k =
        if file = k then some (bytesOf m) else if draft = k then none else d.file? k := by
  obtain ⟨there, created, drafted, same, create, write, rename⟩ := exists_of_persist ends
  obtain ⟨draft, there_leads, there_kept, after_create⟩ := Disk.exists_file_of_write create
  obtain ⟨draft', created_leads, created_kept, after_write⟩ := Disk.exists_file_of_write write
  obtain ⟨draft'', file, drafted_leads, to_file, drafted_kept, after_rename⟩ :=
    Disk.exists_files_of_rename rename
  obtain rfl : draft' = draft := created_leads.eq (there_kept.leads there_leads)
  obtain rfl : draft'' = draft' := drafted_leads.eq (created_kept.leads created_leads)
  refine ⟨file, draft'', drafted_kept.leads to_file, drafted_kept.leads drafted_leads, fun k => ?_⟩
  rw [after_rename, after_write draft'', if_pos rfl]
  by_cases draft'' = k
  · simp only [*, if_true]
  · simp only [*, if_false]

/-- Discarding a record leaves the files that there were, but for that of the record. -/
theorem files_of_discard (ends : (discard path).run.Ends d (.ok ()) d') (k : String) :
    (d.Leads path k → d'.file? k = none) ∧ (¬d.Leads path k → d'.file? k = d.file? k) := by
  obtain ⟨answer, outcome, succeeds⟩ := exists_of_discard ends
  cases answer with
  | ok a =>
    obtain ⟨file, leads, after⟩ := Disk.exists_file_of_remove (Disk.eq_ok_of_settle outcome.of_ok)
    constructor
    · intro here
      rw [after, if_pos (leads.eq here)]
    · intro other
      rw [after, if_neg (by rintro rfl; exact other leads)]
  | error fault =>
    have gone : fault.isMissing = true := succeeds.1 rfl fault rfl
    rw [Disk.eq_of_remove_error outcome]
    exact ⟨Disk.file?_of_remove_missing outcome gone, fun _ => rfl⟩

/-! ## Calls of a store -/

/-- Whatever else a disk holds, a call of a store that succeeds changes no files but the store's own.  A
secret that is put away goes into the file that the path leads to, and no file is left where the path of
the draft leads, unless this is the same; so it is all that is changed exactly where no other file stood
there.  Dropping all secrets removes the file that the path leads to. -/
theorem calls_change_own_files (v : FileVault) (d : Disk) :
    (∀ user secret v' d', (v.serve (.put user secret)).Ends d (.ok (), v') d' →
      ∃ file draft, d'.Leads v.path file ∧ d'.Leads (draftPath v.path) draft ∧
        (∀ k, d'.file? k =
          if file = k then some (bytesOf v'.secrets) else if draft = k then none else d.file? k) ∧
        ((∀ k, k ≠ file → d'.file? k = d.file? k) ↔ draft = file ∨ d.file? draft = none)) ∧
    ∀ v' d', (v.serve .clear).Ends d (.ok (), v') d' →
      ∀ k, (d.Leads v.path k → d'.file? k = none) ∧ (¬d.Leads v.path k → d'.file? k = d.file? k) := by
  refine ⟨fun user secret v' d' ends => ?_, fun v' d' ends => ?_⟩
  · obtain ⟨result, between, persisted, ended, rfl⟩ := Program.ends_bind.1 ends
    cases ended
    obtain ⟨file, draft, to_file, to_draft, files⟩ := exists_files_of_persist persisted
    refine ⟨file, draft, to_file, to_draft, files, fun unchanged => ?_, ?_⟩
    · by_cases same : draft = file
      · exact .inl same
      · have before := unchanged draft same
        rw [files, if_neg (Ne.symm same), if_pos rfl] at before
        exact .inr before.symm
    · intro free k other
      rw [files, if_neg (Ne.symm other)]
      split
      · next same =>
        subst same
        exact (free.resolve_left other).symm
      · rfl
  · obtain ⟨result, between, discarded, ended, rfl⟩ := Program.ends_bind.1 ends
    cases ended
    exact files_of_discard discarded

/-! ## Two stores side by side -/

def annOnly : KeyMap Secret := KeyMap.empty.insert "ann" ⟨"S"⟩

def bobOnly : KeyMap Secret := KeyMap.empty.insert "bob" ⟨"T"⟩

/-- A folder with a file that is no store's. -/
def folder : Disk := Disk.set ⟨.empty⟩ ["notes.txt"] (.file [110, 10])

/-- In it is a store that is called as the draft of another one. -/
def folderOfBob : Disk := folder.set ["seeds.tmp"] (.file (bytesOf bobOnly))

/-- In it is the other one. -/
def folderOfAnn : Disk := folder.set ["seeds.json"] (.file (bytesOf annOnly))

theorem draftPath_seeds : draftPath "seeds.json" = "seeds.tmp" := by decide +kernel

theorem ends_put_ann : (serve ⟨"seeds.json", .empty⟩ (.put "ann" ⟨"S"⟩)).Ends folderOfBob
    (.ok (), ⟨"seeds.json", annOnly⟩) folderOfAnn := by
  have parent : parent? "seeds.json" = some "" := by decide +kernel
  have persisted : (persist "seeds.json" annOnly).run.Ends folderOfBob (.ok ()) folderOfAnn := by
    rw [persist, parent, draftPath_seeds]
    refine ⟨.ok (), folder.set ["seeds.tmp"] (.file []), .served rfl, ?_⟩
    refine ⟨.ok (), folder.set ["seeds.tmp"] (.file (bytesOf annOnly)), .served rfl, ?_⟩
    refine ⟨.ok (), folder.set ["seeds.tmp"] (.file (bytesOf annOnly)), .served rfl, ?_⟩
    exact ⟨.ok (), folderOfAnn, .served rfl, rfl, rfl⟩
  exact Program.ends_bind.2 ⟨_, _, persisted, rfl, rfl⟩

/-- A secret that is put away in the other store removes the first one. -/
theorem put_removes_store_called_as_draft :
    opened folderOfBob "seeds.json" = .ok ⟨"seeds.json", .empty⟩ ∧
    opened folderOfBob "seeds.tmp" = .ok ⟨"seeds.tmp", bobOnly⟩ ∧
    ∃ v' d', (serve ⟨"seeds.json", .empty⟩ (.put "ann" ⟨"S"⟩)).Ends folderOfBob (.ok (), v') d' ∧
      ¬d'.Leads "seeds.json" "seeds.tmp" ∧
      folderOfBob.file? "seeds.tmp" = some (bytesOf bobOnly) ∧ d'.file? "seeds.tmp" = none ∧
      opened d' "seeds.tmp" = .ok ⟨"seeds.tmp", .empty⟩ := by
  have absent : folderOfBob.read "seeds.json" = .error Disk.missing := rfl
  have removed : folderOfAnn.read "seeds.tmp" = .error Disk.missing := rfl
  have leads : folderOfAnn.Leads "seeds.json" "seeds.json" := ⟨[], "seeds.json", rfl, rfl⟩
  refine ⟨?_, opened_of_read rfl, _, _, ends_put_ann, fun same => ?_, rfl, rfl, ?_⟩
  · rw [opened_eq, absent]
    rfl
  · exact absurd (leads.eq same) (by decide)
  · rw [opened_eq, removed]
    rfl

/-- The file that is no store's is as it was, whether a secret is put away or all are dropped. -/
theorem calls_change_own_files_notes :
    (∃ v' d', (serve ⟨"seeds.json", .empty⟩ (.put "ann" ⟨"S"⟩)).Ends folderOfBob (.ok (), v') d' ∧
      d'.file? "notes.txt" = some [110, 10] ∧ d'.file? "seeds.tmp" = none) ∧
    ∃ v' d', (serve ⟨"seeds.json", annOnly⟩ .clear).Ends folderOfAnn (.ok (), v') d' ∧
      d'.file? "notes.txt" = some [110, 10] ∧ d'.file? "seeds.json" = none := by
  have to_file : folderOfAnn.Leads "seeds.json" "seeds.json" := ⟨[], "seeds.json", rfl, rfl⟩
  have to_draft : folderOfAnn.Leads (draftPath "seeds.json") "seeds.tmp" := by
    rw [draftPath_seeds]
    exact ⟨[], "seeds.tmp", rfl, rfl⟩
  have cleared : (serve ⟨"seeds.json", annOnly⟩ .clear).Ends folderOfAnn
      (.ok (), ⟨"seeds.json", .empty⟩) folder :=
    ⟨.ok (), folder, .served rfl, rfl, rfl⟩
  refine ⟨⟨_, _, ends_put_ann, ?_⟩, _, _, cleared, ?_⟩
  · obtain ⟨file, draft, leads, leads', files, -⟩ :=
      (calls_change_own_files ⟨"seeds.json", .empty⟩ folderOfBob).1 _ _ _ _ ends_put_ann
    obtain rfl : file = "seeds.json" := leads.eq to_file
    obtain rfl : draft = "seeds.tmp" := leads'.eq to_draft
    exact ⟨(files "notes.txt").trans rfl, (files "seeds.tmp").trans rfl⟩
  · have files := (calls_change_own_files ⟨"seeds.json", annOnly⟩ folderOfAnn).2 _ _ cleared
    refine ⟨((files "notes.txt").2 fun same => ?_).trans rfl, (files "seeds.json").1 to_file⟩
    exact absurd (to_file.eq same) (by decide)

end FileVault

end RealmSetup
