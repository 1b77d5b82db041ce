import RealmSetup.Json.Raw
import RealmSetup.Json.Value

/-!
# Finding shapes in JSON

A decoder looks for a shape in a value as far as it was read and reports the first offence in the
order of the text: either the text is malformed there, or a well-formed value of the wrong shape sits
at a path.

Records are described by `Record`: the function that builds them and, in order, the name, shape and
default of each of its arguments.  One description serves both written forms of a record, the object
with its members in any order and the list of its fields in the order of the description, and
`Record.decodeOpen` serves records that keep the members they do not name.

A kept value may be nested only so deep that it and everything around it make up at most
`deepest` containers.
-/

namespace RealmSetup.Json

/-- One step from a value to one inside it. -/
inductive Segment where
  | member (name : String)
  | item (index : Nat)
  deriving DecidableEq, Repr

/-- Why no shape was found. -/
inductive Fault where
  /-- The text is no JSON, or ends early. -/
  | malformed
  /-- The value at this path has the wrong shape. -/
  | shape (path : List Segment)
  deriving DecidableEq, Repr

namespace Fault

/-- Moves a fault inside a value to the value around it. -/
def under (segment : Segment) : Fault → Fault
  | .malformed => .malformed
  | .shape path => .shape (segment :: path)

/-- The text of the steps of a path after the first. -/
def pathTail : List Segment → String
  | [] => ""
  | .member name :: rest => "." ++ name ++ pathTail rest
  | .item index :: rest => "[" ++ toString index ++ "]" ++ pathTail rest

/-- The text of a path; a point for the whole value. -/
def pathText : List Segment → String
  | [] => "."
  | .member name :: rest => name ++ pathTail rest
  | .item index :: rest => "[" ++ toString index ++ "]" ++ pathTail rest

/-- The path of a wrong shape, as text. -/
def path? : Fault → Option String
  | .malformed => none
  | .shape path => some (pathText path)

end Fault

/-- Looks for a shape in a value. -/
abbrev Decoder (α : Type) := Raw → Except Fault α

/-- Places the faults of a value inside the value around it. -/
def within {α : Type} (segment : Segment) : Except Fault α → Except Fault α
  | .ok a => .ok a
  | .error fault => .error (fault.under segment)

/-- The fault of a value that is not of the kind looked for. -/
def wrongKind (r : Raw) : Fault :=
  if r.isTelling then .shape [] else .malformed

/-- The fault of a place where a value should end. -/
def endAt (closed : Bool) : Except Fault Unit :=
  if closed then .ok () else .error .malformed

/-! ## Plain values -/

def string : Decoder String
  | .text (some s) => .ok s
  | r => .error (wrongKind r)

/-- A truth value. -/
def boolean : Decoder Bool
  | .bool b => .ok b
  | r => .error (wrongKind r)

/-- A natural number below a bound, written as an integer. -/
def natBelow (bound : Nat) : Decoder Nat
  | .number l =>
    match l.number? with
    | some (.int (.ofNat n)) => if n < bound then .ok n else .error (.shape [])
    | some _ => .error (.shape [])
    | none => .error .malformed
  | r => .error (wrongKind r)

/-- A number of 32 bits. -/
def uint32 : Decoder UInt32 := fun r =>
  (natBelow UInt32.size r).map UInt32.ofNat

/-- A value or `null`. -/
def nullable {α : Type} (decode : Decoder α) : Decoder (Option α)
  | .null => .ok none
  | r => (decode r).map some

/-- One of some names, given as a text or as an object with that one member, which is `null`. -/
def oneOf {α : Type} (find : String → Option α) : Decoder α
  | .text (some s) =>
    match find s with
    | some a => .ok a
    | none => .error (.shape [])
  | .object ((some name, value) :: more) closed =>
    match find name with
    | none => .error (.shape [])
    | some a =>
      match value with
      | .null => if more.isEmpty && closed then .ok a else .error .malformed
      | r => .error ((wrongKind r).under (.member name))
  | _ => .error .malformed

/-! ## Lists and maps -/

/-- Looks for one shape in every item, counting from `index`. -/
def decodeItems {α : Type} (decode : Decoder α) (index : Nat) : List Raw → Except Fault (List α)
  | [] => .ok []
  | r :: rest => do
    let a ← within (.item index) (decode r)
    let more ← decodeItems decode (index + 1) rest
    return a :: more

/-- A list of values of one shape. -/
def list {α : Type} (decode : Decoder α) : Decoder (List α)
  | .array items closed => do
    let found ← decodeItems decode 0 items
    endAt closed
    return found
  | r => .error (wrongKind r)

/-- Looks for one shape in every member, adding them to `found`. -/
def decodeMembers {α : Type} (decode : Decoder α) (found : KeyMap α) :
    List (Option String × Raw) → Except Fault (KeyMap α)
  | [] => .ok found
  | (none, _) :: _ => .error .malformed
  | (some name, r) :: rest => do
    let a ← within (.member name) (decode r)
    decodeMembers decode (found.insert name a) rest

/-- An object whose members all have one shape; of two members with one name the last counts. -/
def dict {α : Type} (decode : Decoder α) : Decoder (KeyMap α)
  | .object members closed => do
    let found ← decodeMembers decode .empty members
    endAt closed
    return found
  | r => .error (wrongKind r)

/-! ## Values of any shape -/

/-- How many containers may lie inside one another. -/
def deepest : Nat := 127

mutual

/-- Keeps a value as it is, if it nests at most `room` containers. -/
def keep (room : Nat) : Raw → Except Fault Json
  | .broken => .error .malformed
  | .null => .ok .null
  | .bool b => .ok (.bool b)
  | .number l =>
    match l.number? with
    | some n => .ok (.number n)
    | none => .error .malformed
  | .text (some s) => .ok (.text s)
  | .text none => .error .malformed
  | .array items closed =>
    match room with
    | 0 => .error .malformed
    | room + 1 => do
      let kept ← keepItems room items
      endAt closed
      return .array kept
  | .object members closed =>
    match room with
    | 0 => .error .malformed
    | room + 1 => do
      let kept ← keepMembers room .empty members
      endAt closed
      return .ofMap kept

def keepItems (room : Nat) : List Raw → Except Fault (List Json)
  | [] => .ok []
  | r :: rest => do
    let j ← keep room r
    let more ← keepItems room rest
    return j :: more

/-- Keeps the members of an object, adding them to `found`. -/
def keepMembers (room : Nat) (found : KeyMap Json) :
    List (Option String × Raw) → Except Fault (KeyMap Json)
  | [] => .ok found
  | (none, _) :: _ => .error .malformed
  | (some name, r) :: rest => do
    let j ← keep room r
    keepMembers room (found.insert name j) rest

end

/-- Passes over a value of any shape. -/
def pass : Decoder Unit := fun r => endAt r.isComplete

/-! ## Records -/

/-- A description of the fields of a record, which still lacks the fields that `α` takes. -/
inductive Record : Type → Type 1 where
  /-- No fields yet. -/
  | of {α : Type} (build : α) : Record α
  /-- One more field, with its name, shape and default. -/
  | field {α β : Type} (before : Record (β → α)) (name : String) (decode : Decoder β)
      (default : Option β) : Record α

namespace Record

/-- Adds a field that must be given. -/
def required {α β : Type} (before : Record (β → α)) (name : String) (decode : Decoder β) :
    Record α :=
  .field before name decode none

/-- Adds a field that may be left out. -/
def optional {α β : Type} (before : Record (β → α)) (name : String) (decode : Decoder β)
    (default : β) : Record α :=
  .field before name decode (some default)

/-- The shape of the field with the given name, as far as its faults go. -/
def check? {α : Type} (name : String) : Record α → Option (Raw → Except Fault Unit)
  | .of _ => none
  | .field before name' decode _ =>
    if name' = name then some fun r => (decode r).map fun _ => ()
    else before.check? name

/-- The members of an object that are fields, each once, and the others.  Fields and other members
are looked into in the order of the text; `other` looks into those that are no fields. -/
def sortMembers {α : Type} (record : Record α) (other : Raw → Except Fault Unit)
    (fields others : List (String × Raw)) :
    List (Option String × Raw) → Except Fault (List (String × Raw) × List (String × Raw))
  | [] => .ok (fields, others)
  | (none, _) :: _ => .error .malformed
  | (some name, r) :: rest =>
    match record.check? name with
    | none => do
      other r
      sortMembers record other fields (others ++ [(name, r)]) rest
    | some check =>
      if (KeyMap.lookup name fields).isSome then .error (.shape [])
      else do
        within (.member name) (check r)
        sortMembers record other (fields ++ [(name, r)]) others rest

/-- Builds a record from its fields, which have been looked into. -/
def assemble {α : Type} (fields : List (String × Raw)) : Record α → Except Fault α
  | .of build => .ok build
  | .field before name decode default => do
    let build ← before.assemble fields
    match KeyMap.lookup name fields with
    | some r => return build (← within (.member name) (decode r))
    | none =>
      match default with
      | some b => return build b
      | none => .error (.shape [])

/-- Builds a record from the items of a list, in the order of its fields; also gives the number of
items used and the rest of them. -/
def fromItems {α : Type} (items : List Raw) (closed : Bool) :
    Record α → Except Fault (α × Nat × List Raw)
  | .of build => .ok (build, 0, items)
  | .field before _ decode default => do
    let (build, index, rest) ← before.fromItems items closed
    match rest with
    | r :: rest => return (build (← within (.item index) (decode r)), index + 1, rest)
    | [] =>
      if closed then
        match default with
        | some b => return (build b, index, [])
        | none => .error (.shape [])
      else .error .malformed

/-- A record given by its fields alone: as an object, whose other members are passed over, or as a
list. -/
def decode {α : Type} (record : Record α) : Decoder α
  | .object members closed => do
    let (fields, _) ← record.sortMembers pass [] [] members
    endAt closed
    record.assemble fields
  | .array items closed => do
    let (a, _, rest) ← record.fromItems items closed
    endAt (closed && rest.isEmpty)
    return a
  | r => .error (wrongKind r)

/-- A record given by an object whose other members are kept.  At most `room` containers may lie
inside one another, the object among them. -/
def decodeOpen {α : Type} (room : Nat) (record : Record (KeyMap Json → α)) : Decoder α
  | .object members closed => do
    let (fields, others) ←
      record.sortMembers (fun r => (keep (room - 1) r).map fun _ => ()) [] [] members
    endAt closed
    let build ← record.assemble fields
    let kept ← keepMembers (room - 1) .empty (others.map fun (name, r) => (some name, r))
    return build kept
  | r => .error (wrongKind r)

end Record

/-! ## Whole texts -/

/-- Looks for a shape in the first value of a text; what follows it is not looked at. -/
def decodeFirst {α : Type} (decode : Decoder α) (gs : List Glyph) : Except Fault α :=
  decode (Raw.read gs).1

/-- Looks for a shape in a text that holds nothing but one value and blanks. -/
def decodeAll {α : Type} (decode : Decoder α) (gs : List Glyph) : Except Fault α := do
  let (r, rest) := Raw.read gs
  let a ← decode r
  endAt (Raw.skipBlanks rest).isEmpty
  return a

/-- The value a text holds, if it holds nothing else. -/
def parse? (s : String) : Option Json :=
  match decodeAll (keep deepest) (glyphsOf s) with
  | .ok j => some j
  | .error _ => none

end RealmSetup.Json
