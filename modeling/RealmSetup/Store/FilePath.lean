/-!
# Paths of files

A path is a text of names between slashes.  A name that is a single point and doubled slashes mean
nothing; they are passed over where the end of a path is looked at.  Two points are no name of a file.

What divides a path works on its characters from the end.
-/

namespace RealmSetup.FilePath

/-- The path that a path taken from a directory is; one that begins with a slash is taken from the
top. -/
def join (directory path : String) : String :=
  if path.toList.head? = some '/' then path else directory ++ "/" ++ path

/-- Drops what means nothing at the end of a path, of which the characters are given in reverse. -/
def trimEnd : List Char → List Char
  | ['/'] => ['/']
  | '/' :: c :: rest => trimEnd (c :: rest)
  | '.' :: '/' :: rest => trimEnd ('/' :: rest)
  | cs => cs
termination_by cs => cs.length

/-- A path in reverse, divided into its last name and what stands before it. -/
def divide (path : String) : List Char × List Char :=
  let cs := trimEnd path.toList.reverse
  (cs.takeWhile (· ≠ '/'), cs.dropWhile (· ≠ '/'))

/-- Whether a name in reverse is that of a file. -/
def isFileName (name : List Char) : Bool :=
  name != [] && name != ['.'] && name != ['.', '.']

/-- The path of the directory that holds a file; nothing if there is none above it. -/
def parent? (path : String) : Option String :=
  let (name, before) := divide path
  if name.isEmpty then none
  else some (String.ofList (trimEnd before).reverse)

/-- A name in reverse without its extension.  A point in front makes no extension. -/
def stem (name : List Char) : List Char :=
  match name.dropWhile (· ≠ '.') with
  | '.' :: c :: rest => c :: rest
  | _ => name

/-- The path with the extension of its last name replaced. -/
def withExtension (path extension : String) : String :=
  let (name, before) := divide path
  if isFileName name then
    String.ofList ((stem name ++ before).reverse ++ '.' :: extension.toList)
  else path

end RealmSetup.FilePath
