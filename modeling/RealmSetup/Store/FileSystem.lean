import RealmSetup.Effect.Program
import RealmSetup.KeyMap

/-!
# File systems

What a store in a file asks of a file system, and a file system in memory.

`Disk` holds files and directories by their names from the top.  A path is walked name by name, and
every name but the last has to lead to a directory that is there, also when two points follow and lead
back out of it.  A slash after the last name asks for a directory, too.  A call fails where something
is missing on the way, where a file stands in place of a directory or a directory in place of a file,
and where a name is too long or none.

There are no links, neither hard nor symbolic.  Whatever is there has one name alone, so that paths which
lead to different names never lead to the same file.
-/

namespace RealmSetup

/-- Why a call to a file system failed. -/
structure FileFault where
  /-- Whether it failed because something is not there. -/
  isMissing : Bool
  cause : String
  deriving DecidableEq, Repr

/-- A call to a file system. -/
inductive Files.Call where
  | read (path : String)
  /-- Creates a directory and those above it, as far as they are missing. -/
  | createDirectories (path : String)
  /-- Creates a file, or empties one that is there. -/
  | create (path : String)
  /-- Writes the bytes of a file that was just created. -/
  | write (path : String) (bytes : List UInt8)
  /-- Waits until what was written is safe. -/
  | sync (path : String)
  /-- Moves a file to another path, in place of a file that is there. -/
  | rename (source dest : String)
  | remove (path : String)

abbrev Files.Result : Files.Call → Type
  | .read _ => List UInt8
  | _ => Unit

def Files : Interface where
  Call := Files.Call
  Answer c := Except FileFault (Files.Result c)

/-- What a path leads to. -/
inductive DiskEntry where
  | file (bytes : List UInt8)
  | directory
  deriving DecidableEq, Repr

/-- A file system in memory: what there is, by the names on the way from the top with slashes between
them.  The top itself is a directory that is always there. -/
structure Disk where
  entries : KeyMap DiskEntry

namespace Disk

def missing : FileFault := ⟨true, "No such file or directory (os error 2)"⟩

/-- A file stands in place of a directory. -/
def notDirectory : FileFault := ⟨false, "Not a directory (os error 20)"⟩

/-- A directory stands in place of a file. -/
def isDirectory : FileFault := ⟨false, "Is a directory (os error 21)"⟩

/-- Something is there that must not be. -/
def alreadyThere : FileFault := ⟨false, "File exists (os error 17)"⟩

/-- A single or double point stands at the end of a path that should name a file. -/
def inUse : FileFault := ⟨false, "Device or resource busy (os error 16)"⟩

/-- A name or a path is too long. -/
def tooLong : FileFault := ⟨false, "File name too long (os error 36)"⟩

/-- A path holds a character that no name holds. -/
def malformed : FileFault := ⟨false, "file name contained an unexpected NUL byte"⟩

/-! ## Entries -/

def key (names : List String) : String := "/".intercalate names

def entry? (d : Disk) (names : List String) : Option DiskEntry :=
  if names.isEmpty then some .directory else d.entries.get? (key names)

def set (d : Disk) (names : List String) (e : DiskEntry) : Disk :=
  ⟨d.entries.insert (key names) e⟩

/-! ## Paths -/

/-- How many bytes a name may have. -/
def longestName : Nat := 255

/-- How many bytes a path may have. -/
def longestPath : Nat := 4095

/-- A path taken apart. -/
structure Way where
  /-- The names, doubled slashes passed over. -/
  names : List String
  /-- Whether a slash stands at the end. -/
  slashed : Bool

/-- Takes a path apart. -/
def wayOf (path : String) : Except FileFault Way :=
  if path.isEmpty then .error missing
  else if path.toList.contains '\x00' then .error malformed
  else if longestPath < path.utf8ByteSize then .error tooLong
  else
    let names := (path.toList.splitOn '/').filter (!·.isEmpty)
    .ok ⟨names.map String.ofList, path.toList.getLast? = some '/'⟩

/-- Goes on from a directory by a name. -/
def enter (d : Disk) (here : List String) (name : String) : Except FileFault (List String) :=
  if name = "." then .ok here
  else if name = ".." then .ok here.dropLast
  else if longestName < name.utf8ByteSize then .error tooLong
  else
    match d.entry? (here ++ [name]) with
    | some .directory => .ok (here ++ [name])
    | some (.file _) => .error notDirectory
    | none => .error missing

/-- Where a path leads. -/
inductive Goal where
  /-- To a directory that is there. -/
  | place (here : List String)
  /-- To a name in a directory that is there, with a slash after it or not. -/
  | name (inside : List String) (name : String) (slashed : Bool)

/-- Where the rest of a path leads from a directory. -/
def goalFrom (d : Disk) (slashed : Bool) (here : List String) :
    List String → Except FileFault Goal
  | [] => .ok (.place here)
  | [name] =>
    if name = "." || name = ".." then (d.enter here name).map .place
    else if longestName < name.utf8ByteSize then .error tooLong
    else .ok (.name here name slashed)
  | name :: rest => do
    let here ← d.enter here name
    goalFrom d slashed here rest

def goal (d : Disk) (path : String) : Except FileFault Goal := do
  let way ← wayOf path
  d.goalFrom way.slashed [] way.names

/-! ## Calls -/

/-- The names of the file a path leads to, with its bytes. -/
def file (d : Disk) (path : String) : Except FileFault (List String × List UInt8) := do
  match ← d.goal path with
  | .place _ => throw isDirectory
  | .name inside name slashed =>
    let names := inside ++ [name]
    match d.entry? names with
    | some (.file bytes) => if slashed then throw notDirectory else return (names, bytes)
    | some .directory => throw isDirectory
    | none => throw missing

def read (d : Disk) (path : String) : Except FileFault (List UInt8) :=
  (d.file path).map Prod.snd

/-- Creates the directories on the way on from a directory, as far as they are missing; those created
before a fault stay. -/
def createFrom (d : Disk) (here : List String) : List String → Except FileFault Unit × Disk
  | [] => (.ok (), d)
  | name :: rest =>
    match d.enter here name with
    | .ok here => createFrom d here rest
    | .error fault =>
      if fault.isMissing then
        createFrom (d.set (here ++ [name]) .directory) (here ++ [name]) rest
      else (.error fault, d)

/-- Creates a directory and those above it. -/
def createDirectories (d : Disk) (path : String) : Except FileFault Unit × Disk :=
  match wayOf path with
  | .ok way => d.createFrom [] way.names
  | .error fault => (.error fault, d)

/-- Makes a path lead to a file with some bytes. -/
def write (d : Disk) (path : String) (bytes : List UInt8) : Except FileFault Disk := do
  match ← d.goal path with
  | .place _ => throw isDirectory
  | .name inside name slashed =>
    let names := inside ++ [name]
    if slashed || d.entry? names = some .directory then throw isDirectory
    return d.set names (.file bytes)

def remove (d : Disk) (path : String) : Except FileFault Disk := do
  let (names, _) ← d.file path
  return ⟨d.entries.erase (key names)⟩

/-- Moves a file, in place of one that is there. -/
def rename (d : Disk) (source dest : String) : Except FileFault Disk := do
  let (names, bytes) ← d.file source
  match ← d.goal dest with
  | .place _ => throw inUse
  | .name inside name slashed =>
    if slashed then throw notDirectory
    let names' := inside ++ [name]
    if d.entry? names' = some .directory then throw isDirectory
    return Disk.set ⟨d.entries.erase (key names)⟩ names' (.file bytes)

/-- What a change that may fail leaves behind. -/
def settle (d : Disk) (result : Except FileFault Disk) : Except FileFault Unit × Disk :=
  match result with
  | .ok d => (.ok (), d)
  | .error fault => (.error fault, d)

def serve (d : Disk) : (c : Files.Call) → Except FileFault (Files.Result c) × Disk
  | .read path => (d.read path, d)
  | .createDirectories path => d.createDirectories path
  | .create path => d.settle (d.write path [])
  | .write path bytes => d.settle (d.write path bytes)
  | .sync _ => (.ok (), d)
  | .rename source dest => d.settle (d.rename source dest)
  | .remove path => d.settle (d.remove path)

/-- The names of the directory a path leads to. -/
def directory? (d : Disk) (path : String) : Option (List String) :=
  match d.goal path with
  | .ok (.place here) => some here
  | .ok (.name inside name _) => (d.enter inside name).toOption
  | .error _ => none

/-- What is directly in a directory, with whether each is a directory. -/
def children (d : Disk) (path : String) : List (String × Bool) :=
  match d.directory? path with
  | none => []
  | some names =>
    d.entries.entries.filterMap fun (k, e) =>
      let found := (k.toList.splitOn '/').map String.ofList
      if found.length = names.length + 1 && found.dropLast = names then
        found.getLast?.map fun name => (name, e == .directory)
      else none

end Disk

end RealmSetup
