import RealmSetup.Store.FilePath
import RealmSetup.Store.FileSystem
import RealmSetup.Store.Vault
import RealmSetup.Text.Utf8

/-!
# A store of secrets in a file

The file holds one JSON object with a member for each user.  It is read once, when the store is
opened; from then on secrets are read from memory, and every change writes the whole file anew: first
under another name beside it, then moved into its place.  Dropping all secrets removes the file.

Memory is changed first, so that it keeps a secret that could not be written.
-/

namespace RealmSetup

/-- A store in a file. -/
structure FileVault where
  path : String
  secrets : KeyMap Secret

namespace FileVault

/-! ## The text of the file -/

/-- A member of the object, on a line of its own. -/
def memberLine (e : String × Secret) : List Char :=
  ' ' :: ' ' :: Json.quote e.1 ++ ':' :: ' ' :: Json.quote e.2.expose

/-- The text of the file: one member a line, set in by two spaces. -/
def textOf (secrets : KeyMap Secret) : List Char :=
  match secrets.entries with
  | [] => ['\x7b', '\x7d']
  | entries =>
    '\x7b' :: '\n' :: [',', '\n'].intercalate (entries.map memberLine) ++ ['\n', '\x7d']

def bytesOf (secrets : KeyMap Secret) : List UInt8 :=
  Utf8.encode (String.ofList (textOf secrets))

def faultText (fault : Json.Fault) : String :=
  match fault.path? with
  | none => "the text is no JSON value"
  | some path => "the value at " ++ path ++ " has the wrong shape"

/-- The secrets in the bytes of a file; an empty file holds none. -/
def secretsIn (bytes : List UInt8) : Except Json.Fault (KeyMap Secret) :=
  if bytes.isEmpty then .ok .empty
  else Json.decodeAll (Json.dict Secret.decoder) (Utf8.glyphs bytes)

/-! ## Calls to the file system -/

/-- An attempt at a file system that may fail as a store fails. -/
abbrev Work (α : Type) : Type := ExceptT StoreError (Program Files) α

def ask (c : Files.Call) : Program Files (Except FileFault (Files.Result c)) :=
  Program.call (I := Files) c

/-- Makes a call that must not fail; `doing` says what failed if it does. -/
def insist (doing : String) (c : Files.Call) : Work Unit :=
  ExceptT.mk do
    match ← ask c with
    | .ok _ => return .ok ()
    | .error fault => return .error (.backend (doing ++ ": " ++ fault.cause))

/-- Opens the store in a file, which need not be there. -/
def open? (path : String) : Work FileVault :=
  ExceptT.mk do
    match (← ask (.read path) : Except FileFault (List UInt8)) with
    | .error fault =>
      if fault.isMissing then return .ok ⟨path, .empty⟩
      return .error (.backend ("Failed to read " ++ path ++ ": " ++ fault.cause))
    | .ok bytes =>
      match secretsIn bytes with
      | .ok secrets => return .ok ⟨path, secrets⟩
      | .error fault =>
        return .error (.serialization ("Failed to parse " ++ path ++ ": " ++ faultText fault))

/-- The path under which the file is first written. -/
def draftPath (path : String) : String := FilePath.withExtension path "tmp"

/-- Writes the file anew. -/
def persist (path : String) (secrets : KeyMap Secret) : Work Unit := do
  match FilePath.parent? path with
  | none | some "" => pure ()
  | some parent =>
    insist ("Failed to create store directory " ++ parent) (.createDirectories parent)
  let draft := draftPath path
  insist ("Failed to create " ++ draft) (.create draft)
  insist ("Failed to write " ++ draft) (.write draft (bytesOf secrets))
  insist ("Failed to sync " ++ draft) (.sync draft)
  insist ("Failed to replace " ++ path) (.rename draft path)

/-- Removes the file, which need not be there. -/
def discard (path : String) : Work Unit :=
  ExceptT.mk do
    match ← ask (.remove path) with
    | .ok _ => return .ok ()
    | .error fault =>
      if fault.isMissing then return .ok ()
      return .error (.backend ("Failed to remove " ++ path ++ ": " ++ fault.cause))

def serve (v : FileVault) : (c : Vault.Call) → Program Files (Vault.Answer c × FileVault)
  | .put user secret => do
    let secrets := v.secrets.insert user secret
    let result ← (persist v.path secrets).run
    return (result, { v with secrets })
  | .get user => return (.ok (v.secrets.get? user), v)
  | .clear => do
    let result ← (discard v.path).run
    return (result, { v with secrets := .empty })

end FileVault

end RealmSetup
