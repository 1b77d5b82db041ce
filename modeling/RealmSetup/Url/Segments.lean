import RealmSetup.Url.Parse

/-!
# Adding to addresses

`Base.below` adds segments to the path of an address, each percent-encoded as a whole so that it cannot
bring in a separator; `Url.withPairs` adds named texts to its query.  Query and fragment of the
address stay.

A segment that is exactly `.` or `..` is skipped.  Tabs and line breaks in a segment are dropped, and
what is left is worked off like a segment of a path that is read.
-/

namespace RealmSetup.Url

open Percent

/-- Drops one empty segment at the end, unless it is the only one. -/
def dropEmptyEnd (path : List String) : List String :=
  if 1 < path.length && path.getLast? = some "" then path.dropLast else path

/-- Adds one segment to a path, taking the place of an only segment that is empty. -/
def push (scheme : String) (path : List String) (segment : String) : List String :=
  if segment = "." || segment = ".." then path
  else
    let file := scheme == "file"
    let passed := if path = [""] then [] else path.map String.toList
    let trail := Trail.enter file true (encode (inSegmentSet (isSpecial scheme))) ⟨passed, false⟩
      segment.toList
    (if file then Trail.dropEmptyFront trail.names else trail.names).map String.ofList

/-- An address below which others lie. -/
structure Base where
  url : Url
  names : List String
  /-- Its path consists of those segments. -/
  path_eq : url.path = .segments names

namespace Base

/-- An address as one below which others lie, if there are any. -/
def of? (u : Url) : Option Base :=
  match h : u.path with
  | .whole _ => none
  | .segments names => some ⟨u, names, h⟩

/-- The address with segments added to its path, after an empty segment at its end has been
dropped. -/
def below (b : Base) (segments : List String) : Url :=
  { b.url with
    path := .segments (segments.foldl (push b.url.scheme) (dropEmptyEnd b.names)) }

end Base

/-- The address with named texts added to its query. -/
def withPairs (u : Url) (pairs : List (String × String)) : Url :=
  let added := String.ofList (form pairs)
  let query :=
    match u.query with
    | none => added
    | some "" => added
    | some query => query ++ "&" ++ added
  { u with query := some query }

end RealmSetup.Url
