import RealmSetup.Proofs.Store.FileText
import RealmSetup.Proofs.Store.SharedDisk

/-!
# A store in a file answers as one in memory

A store is used for any number of calls and opened anew any number of times in between.  As long as no
call to the file system fails, every answer is the one that a store in memory gives
(`FileVault.run_session`).  The file always says what is kept (`FileVault.Mirrors`): what was written to
the draft is read once it was moved into place, and opening the store reads just that.

Others may use the disk at the same time, also in the middle of an operation, as long as they leave the
file and its draft alone.
-/

namespace RealmSetup

namespace FileVault

open SharedDisk

/-- Others leave the file at a path alone, and the draft that is moved into its place. -/
def Spares (others : Others) (path : String) : Prop :=
  ∀ n d, (others n d).read path = d.read path ∧
    (others n d).read (draftPath path) = d.read (draftPath path)

variable {others : Others} {path : String} {m : KeyMap Secret} {kept : Bool}

/-! ## What a store leaves on the disk -/

/-- A secret that is put away is in the file. -/
theorem achieves_persist (spared : Spares others path) (m : KeyMap Secret) :
    Achieves others (fun _ => True) (persist path m) fun _ d => d.read path = .ok (bytesOf m) := by
  have written : Achieves others (fun _ => True)
      (insist ("Failed to write " ++ draftPath path) (.write (draftPath path) (bytesOf m)))
      fun _ d => d.read (draftPath path) = .ok (bytesOf m) := by
    refine achieves_insist _ (fun _ => rfl) fun n d a _ answered => ?_
    obtain ⟨d', written, left⟩ := Disk.exists_of_settle answered
    exact (congrArg (Disk.read · _) left).trans (Disk.read_of_write written)
  have synced : Achieves others (fun d => d.read (draftPath path) = .ok (bytesOf m))
      (insist ("Failed to sync " ++ draftPath path) (.sync (draftPath path)))
      fun _ d => d.read (draftPath path) = .ok (bytesOf m) :=
    achieves_insist _ (fun _ => rfl) fun n d a holds _ => ((spared n d).2).trans holds
  have moved : Achieves others (fun d => d.read (draftPath path) = .ok (bytesOf m))
      (insist ("Failed to replace " ++ path) (.rename (draftPath path) path))
      fun _ d => d.read path = .ok (bytesOf m) := by
    refine achieves_insist _ (fun _ => rfl) fun n d a holds answered => ?_
    obtain ⟨d', moved, left⟩ := Disk.exists_of_settle answered
    exact (congrArg (Disk.read · _) left).trans
      (Disk.read_of_rename moved ((spared n d).2.trans holds))
  have created : Achieves others (fun _ => True)
      (insist ("Failed to create " ++ draftPath path) (.create (draftPath path))) fun _ _ => True :=
    achieves_insist _ (fun _ => rfl) fun _ _ _ _ _ => trivial
  have rest := created.bind fun _ => written.bind fun _ => synced.bind fun _ => moved
  unfold persist
  split
  · exact (achieves_pure () fun _ h => h).bind fun _ => rest
  · exact (achieves_pure () fun _ h => h).bind fun _ => rest
  · exact (achieves_insist _ (fun _ => rfl) fun _ _ _ _ _ => trivial).bind fun _ => rest

/-- Once all is dropped, the file is not there. -/
theorem achieves_discard (path : String) :
    Achieves others (fun _ => True) (discard path) fun _ d => d.Lacks path := by
  intro s _ unfailing
  rw [discard, run_ask] at unfailing ⊢
  have sound := unfailing_of_eval unfailing
  have served : (s.found others).serve (.remove path) =
      (s.found others).settle ((s.found others).remove path) := rfl
  rw [served] at sound ⊢
  cases removed : (s.found others).remove path with
  | ok d' => exact ⟨(), _, rfl, Disk.missing, Disk.read_of_remove removed, rfl⟩
  | error fault =>
    rw [removed] at sound
    have missing : fault.isMissing = true := by
      simpa [Disk.settle, Files.fails] using (Bool.or_eq_false_iff.1 sound).2
    simp only [Disk.settle, missing, if_true]
    exact ⟨(), _, rfl, fault, Disk.read_of_remove_error removed, missing⟩

/-- What is on the disk when some secrets are kept: a file with them or, if there was none to keep since
the last time all were dropped, no file. -/
def Mirrors (d : Disk) (path : String) (m : KeyMap Secret) : Bool → Prop
  | true => d.read path = .ok (bytesOf m)
  | false => d.Lacks path ∧ m = .empty

theorem Mirrors.spared {d : Disk} (h : Mirrors d path m kept) (spared : Spares others path) (n : Nat) :
    Mirrors (others n d) path m kept := by
  cases kept with
  | true => exact (spared n d).1.trans h
  | false =>
    obtain ⟨⟨fault, missed, missing⟩, nothing⟩ := h
    exact ⟨⟨fault, (spared n d).1.trans missed, missing⟩, nothing⟩

/-- Opening a store reads what is kept. -/
theorem achieves_open? (spared : Spares others path) (m : KeyMap Secret) (kept : Bool) :
    Achieves others (Mirrors · path m kept) (open? path) fun v d =>
      v = ⟨path, m⟩ ∧ Mirrors d path m kept := by
  intro s holds _
  have holds : Mirrors (s.found others) path m kept := holds.spared spared s.calls
  rw [open?, run_ask]
  have served : (s.found others).serve (.read path) =
      ((s.found others).read path, s.found others) := rfl
  rw [served]
  cases kept with
  | true =>
    have read : (s.found others).read path = .ok (bytesOf m) := holds
    simp only [read, secretsIn_bytesOf]
    exact ⟨⟨path, m⟩, _, rfl, rfl, holds⟩
  | false =>
    obtain ⟨⟨fault, missed, missing⟩, rfl⟩ := holds
    simp only [missed, missing, if_true]
    exact ⟨⟨path, .empty⟩, _, rfl, rfl, ⟨fault, missed, missing⟩, rfl⟩

/-! ## Sessions -/

/-- What a store is used for: a call, or to be opened anew. -/
inductive Use where
  | call (c : Vault.Call)
  | reopen

/-- A call with its answer. -/
abbrev Reply : Type := (c : Vault.Call) × Vault.Answer c

/-- Uses a store for one thing after another; the answers to the calls. -/
def serveAll (v : FileVault) : List Use → Work (List Reply)
  | [] => pure []
  | .call c :: rest => do
    let (answer, v) ← ExceptT.lift (v.serve c)
    let replies ← v.serveAll rest
    return ⟨c, answer⟩ :: replies
  | .reopen :: rest => do
    let v ← open? v.path
    v.serveAll rest

/-- Opens a store and uses it. -/
def session (path : String) (uses : List Use) : Work (List Reply) := do
  let v ← open? path
  v.serveAll uses

/-- The answers of a store in memory to the same calls. -/
def memoryReplies (v : MemoryVault) : List Use → List Reply
  | [] => []
  | .call c :: rest => ⟨c, (v.serve c).1⟩ :: memoryReplies (v.serve c).2 rest
  | .reopen :: rest => memoryReplies v rest

/-- The store in memory after the same calls. -/
def memoryAfter (v : MemoryVault) : List Use → MemoryVault
  | [] => v
  | .call c :: rest => memoryAfter (v.serve c).2 rest
  | .reopen :: rest => memoryAfter v rest

/-- Whether there is something to keep after a use. -/
def Use.keeps : Use → Bool → Bool
  | .call (.put _ _), _ => true
  | .call .clear, _ => false
  | _, kept => kept

/-- A secret was put since all were dropped last. -/
def PutSinceClear (uses : List Use) : Prop :=
  ∃ before user secret after, uses = before ++ .call (.put user secret) :: after ∧
    .call .clear ∉ after

/-- A call is answered as in memory, and the disk has what is kept then. -/
theorem achieves_serve (spared : Spares others path) (m : KeyMap Secret) (kept : Bool) (c : Vault.Call) :
    Achieves others (Mirrors · path m kept) (ExceptT.lift (serve ⟨path, m⟩ c)) fun r d =>
      r = ((MemoryVault.serve ⟨m⟩ c).1, ⟨path, (MemoryVault.serve ⟨m⟩ c).2.secrets⟩) ∧
      Mirrors d path (MemoryVault.serve ⟨m⟩ c).2.secrets ((Use.call c).keeps kept) := by
  cases c with
  | put user secret =>
    refine ((achieves_persist spared (m.insert user secret)).lift_run
      fun result => (result, (⟨path, m.insert user secret⟩ : FileVault))).weaken (fun _ _ => trivial) ?_
    rintro r d ⟨u, rfl, written⟩
    exact ⟨rfl, written⟩
  | get user => exact achieves_pure _ fun d holds => ⟨rfl, holds⟩
  | clear =>
    refine ((achieves_discard path).lift_run
      fun result => (result, (⟨path, .empty⟩ : FileVault))).weaken (fun _ _ => trivial) ?_
    rintro r d ⟨u, rfl, lacks⟩
    exact ⟨rfl, lacks, rfl⟩

theorem achieves_serveAll (spared : Spares others path) (v : MemoryVault) (kept : Bool) (uses : List Use) :
    Achieves others (Mirrors · path v.secrets kept) (serveAll ⟨path, v.secrets⟩ uses) fun replies d =>
      replies = memoryReplies v uses ∧
      Mirrors d path (memoryAfter v uses).secrets (uses.foldl (fun kept u => u.keeps kept) kept) := by
  induction uses generalizing v kept with
  | nil => exact achieves_pure [] fun d holds => ⟨rfl, holds⟩
  | cons u rest ih =>
    cases u with
    | call c =>
      refine (achieves_serve spared v.secrets kept c).bind fun r => achieves_of_fact ?_
      rintro rfl
      refine ((ih (v.serve c).2 _).map (⟨c, (v.serve c).1⟩ :: ·)).weaken (fun _ h => h) ?_
      rintro _ d ⟨replies, rfl, rfl, after⟩
      exact ⟨rfl, after⟩
    | reopen =>
      refine (achieves_open? spared v.secrets kept).bind fun w => achieves_of_fact ?_
      rintro rfl
      exact ih v kept

theorem putSinceClear_cons (u : Use) (rest : List Use) :
    PutSinceClear (u :: rest) ↔
      PutSinceClear rest ∨ (∃ user secret, u = .call (.put user secret)) ∧ .call .clear ∉ rest := by
  constructor
  · rintro ⟨before, user, secret, after, same, none⟩
    cases before with
    | nil =>
      obtain ⟨rfl, rfl⟩ := List.cons.inj same
      exact .inr ⟨⟨user, secret, rfl⟩, none⟩
    | cons w before =>
      obtain ⟨rfl, rfl⟩ := List.cons.inj same
      exact .inl ⟨before, user, secret, after, rfl, none⟩
  · rintro (⟨before, user, secret, after, rfl, none⟩ | ⟨⟨user, secret, rfl⟩, none⟩)
    · exact ⟨u :: before, user, secret, after, rfl, none⟩
    · exact ⟨[], user, secret, rest, rfl, none⟩

theorem foldl_keeps_iff (kept : Bool) (uses : List Use) :
    uses.foldl (fun kept u => u.keeps kept) kept = true ↔
      PutSinceClear uses ∨ (kept = true ∧ .call .clear ∉ uses) := by
  induction uses generalizing kept with
  | nil => simp [PutSinceClear]
  | cons u rest ih =>
    rw [List.foldl_cons, ih, putSinceClear_cons]
    cases u with
    | reopen => simp [Use.keeps]
    | call c =>
      cases c with
      | put user secret =>
        simp only [Use.keeps, true_and, List.mem_cons]
        constructor
        · exact fun h => .inl (h.imp_right fun none => ⟨⟨user, secret, rfl⟩, none⟩)
        · rintro ((below | ⟨-, none⟩) | ⟨-, none⟩)
          · exact .inl below
          · exact .inr none
          · exact .inr fun dropped => none (.inr dropped)
      | get user => simp [Use.keeps]
      | clear => simp [Use.keeps]

/-- As long as no call to the file system fails, a store in a file that was not there answers as one in
memory, however often it is opened anew, and its file is there just when a secret was put since all were
dropped last. -/
theorem run_session (spared : Spares others path) {d : Disk} (absent : d.Lacks path) (uses : List Use)
    (unfailing : (run others (session path uses) (.start d)).2.failed = false) :
    (run others (session path uses) (.start d)).1 = .ok (memoryReplies .start uses) ∧
      ((run others (session path uses) (.start d)).2.disk.Holds path ↔ PutSinceClear uses) ∧
      ((run others (session path uses) (.start d)).2.disk.Lacks path ↔ ¬PutSinceClear uses) := by
  have used : Achieves others (Mirrors · path .empty false) (session path uses) fun replies d =>
      replies = memoryReplies .start uses ∧
      Mirrors d path (memoryAfter .start uses).secrets
        (uses.foldl (fun kept u => u.keeps kept) false) := by
    refine (achieves_open? spared .empty false).bind fun v => achieves_of_fact ?_
    rintro rfl
    exact achieves_serveAll spared .start false uses
  obtain ⟨replies, s', ended, rfl, mirrored⟩ := used (.start d) ⟨absent, rfl⟩ unfailing
  have kept := foldl_keeps_iff false uses
  simp only [Bool.false_eq_true, false_and, or_false] at kept
  rw [ended, ← kept]
  refine ⟨rfl, ?_⟩
  cases h : uses.foldl (fun kept u => u.keeps kept) false with
  | true =>
    rw [h] at mirrored
    have holds : s'.disk.Holds path := ⟨_, mirrored⟩
    exact ⟨⟨fun _ => rfl, fun _ => holds⟩,
      ⟨fun lacks => absurd lacks holds.not_lacks, fun none => absurd rfl none⟩⟩
  | false =>
    rw [h] at mirrored
    exact ⟨⟨fun holds => absurd mirrored.1 holds.not_lacks, nofun⟩, ⟨fun _ => nofun, fun _ => mirrored.1⟩⟩

/-- A name with a quote, a backslash and characters of two and of four bytes; its secret is made of
control characters, and it is asked for when the store was opened anew. -/
def oddCharacters : List Use :=
  [.call (.put "\"\\é𝕊" ⟨"\n\x1F"⟩), .reopen, .call (.get "\"\\é𝕊")]

/-- Odd characters are there after the store was opened anew. -/
theorem run_session_oddCharacters :
    (run (fun _ d => d) (session "seeds.json" oddCharacters) (.start ⟨.empty⟩)).1 =
      .ok [⟨.put "\"\\é𝕊" ⟨"\n\x1F"⟩, .ok ()⟩, ⟨.get "\"\\é𝕊", .ok (some ⟨"\n\x1F"⟩)⟩] ∧
    (run (fun _ d => d) (session "seeds.json" oddCharacters) (.start ⟨.empty⟩)).2.disk.Holds
      "seeds.json" := by
  have absent : Disk.Lacks ⟨.empty⟩ "seeds.json" := ⟨Disk.missing, rfl, rfl⟩
  have alone : Spares (fun _ d => d) "seeds.json" := fun _ _ => ⟨rfl, rfl⟩
  obtain ⟨replies, there, -⟩ := run_session alone absent oddCharacters (by decide +kernel)
  exact ⟨replies, there.2 ⟨[], _, _, _, rfl, by simp⟩⟩

end FileVault

end RealmSetup
