import Mathlib.Data.List.Forall2
import Mathlib.Data.List.Perm.Basic
import RealmSetup.Proofs.Json.Values

/-!
# What decoders find

`Finds decode j a` says that a decoder finds `a` wherever the value `j` was read, in whatever layout and
with the members of objects in whatever order.  There is one rule for each way in which decoders are put
together.  The fields of a record are looked up among the members of an object (`Record.Builds`); a record
that keeps its other members finds them all if there is room for the deepest, and nothing otherwise
(`Record.decodeOpen_object`).
-/

namespace RealmSetup.Json

open Raw

/-- A decoder finds `a` wherever `j` was read. -/
def Finds {α : Type} (decode : Decoder α) (j : Json) (a : α) : Prop :=
  ∀ r : Raw, r.value? = some j → decode r = .ok a

/-! ## What a value was read as -/

variable {r : Raw} {α β : Type}

theorem value?_eq_null : r.value? = some .null ↔ r = .null := by
  cases r with
  | array items closed => simp [value?_array]
  | object ms closed => simp [value?_object, members, ofMap]
  | _ => simp [value?]

theorem value?_eq_bool {b : Bool} : r.value? = some (.bool b) ↔ r = .bool b := by
  cases r with
  | array items closed => simp [value?_array]
  | object ms closed => simp [value?_object, members, ofMap]
  | _ => simp [value?]

theorem value?_eq_text {s : String} : r.value? = some (.text s) ↔ r = .text (some s) := by
  cases r with
  | array items closed => simp [value?_array]
  | object ms closed => simp [value?_object, members, ofMap]
  | _ => simp [value?]

theorem value?_eq_number {n : Number} :
    r.value? = some (.number n) ↔ ∃ l, r = .number l ∧ l.number? = some n := by
  cases r with
  | array items closed => simp [value?_array]
  | object ms closed => simp [value?_object, members, ofMap]
  | _ => simp [value?]

theorem value?_eq_array {js : List Json} :
    r.value? = some (.array js) ↔ ∃ items, r = .array items true ∧ values? items = some js := by
  cases r with
  | array items closed =>
    rw [value?_array]
    constructor
    · rintro ⟨rfl, js', values, same⟩
      cases same
      exact ⟨items, rfl, values⟩
    · rintro ⟨items', same, values⟩
      cases same
      exact ⟨rfl, js, values, rfl⟩
  | object ms closed => simp [value?_object, members, ofMap]
  | _ => simp [value?]

theorem values?_eq_some {items : List Raw} {js : List Json} :
    values? items = some js ↔ List.Forall₂ (fun r j => r.value? = some j) items js := by
  induction items generalizing js with
  | nil => rw [values?, List.forall₂_nil_left_iff, Option.some.injEq, eq_comm]
  | cons r items ih =>
    rw [values?_cons, List.forall₂_cons_left_iff]
    simp only [ih]

/-- The members of an object that was read, with their values in the order of the text. -/
theorem memberValues?_eq_some {rs : List (Option String × Raw)} {found : List (String × Json)} :
    memberValues? rs = some found ↔ ∃ named : List (String × Raw),
      rs = named.map (fun e => (some e.1, e.2)) ∧
      List.Forall₂ (fun e m => e.1 = m.1 ∧ e.2.value? = some m.2) named found := by
  induction rs generalizing found with
  | nil =>
    constructor
    · rintro ⟨⟩
      exact ⟨[], rfl, .nil⟩
    · rintro ⟨named, split, each⟩
      obtain rfl := List.map_eq_nil_iff.1 split.symm
      cases each
      rfl
  | cons e rs ih =>
    obtain ⟨name, r⟩ := e
    rw [memberValues?_cons]
    constructor
    · rintro ⟨n, j, more, rfl, value, values, rfl⟩
      obtain ⟨named, rfl, each⟩ := ih.1 values
      exact ⟨(n, r) :: named, rfl, .cons ⟨rfl, value⟩ each⟩
    · rintro ⟨named, split, each⟩
      cases each with
      | nil => cases split
      | @cons e m named more he each =>
        obtain ⟨same, rest⟩ := List.cons.inj split
        cases same
        exact ⟨m.1, m.2, more, congrArg some he.1, he.2, ih.2 ⟨named, rest, each⟩, rfl⟩

theorem value?_eq_object {ms : List (String × Json)} :
    r.value? = some (.object ms) ↔ ∃ (named : List (String × Raw)) (found : List (String × Json)),
      r = .object (named.map fun e => (some e.1, e.2)) true ∧
      List.Forall₂ (fun e m => e.1 = m.1 ∧ e.2.value? = some m.2) named found ∧
      (found.map Prod.fst).Nodup ∧ ms = (KeyMap.ofList found).entries := by
  cases r with
  | object rs closed =>
    rw [value?_object]
    constructor
    · rintro ⟨rfl, found, values, distinct, same⟩
      obtain ⟨named, rfl, each⟩ := memberValues?_eq_some.1 values
      exact ⟨named, found, rfl, each, distinct, Json.object.inj same⟩
    · rintro ⟨named, found, same, each, distinct, rfl⟩
      cases same
      exact ⟨rfl, found, memberValues?_eq_some.2 ⟨named, rfl, each⟩, distinct, rfl⟩
  | array items closed => simp [value?_array]
  | _ => simp [value?]

/-! ## Plain values -/

/-- What a decoder finds depends on the value that was read, not on its layout. -/
def Steady {α : Type} (decode : Decoder α) : Prop :=
  ∀ {r : Raw} {j : Json} {a : α}, r.value? = some j → decode r = .ok a → Finds decode j a

theorem finds_string (s : String) : Finds string (.text s) s := by
  intro r h
  rw [value?_eq_text.1 h, string]

theorem steady_string : Steady string := by
  intro r j a value found
  cases r with
  | text s =>
    cases s with
    | none => cases value
    | some s =>
      obtain rfl := Option.some.inj value
      obtain rfl := Except.ok.inj found
      exact finds_string s
  | _ => cases found

theorem finds_boolean (b : Bool) : Finds boolean (.bool b) b := by
  intro r h
  rw [value?_eq_bool.1 h, boolean]

theorem steady_boolean : Steady boolean := by
  intro r j a value found
  cases r with
  | bool b =>
    obtain rfl := Option.some.inj value
    obtain rfl := Except.ok.inj found
    exact finds_boolean b
  | _ => cases found

theorem finds_natBelow {bound n : Nat} (below : n < bound) : Finds (natBelow bound) (.nat n) n := by
  intro r h
  obtain ⟨l, rfl, number⟩ := value?_eq_number.1 h
  rw [natBelow, number]
  exact if_pos below

theorem finds_uint32 (n : UInt32) : Finds uint32 (.nat n.toNat) n := by
  intro r h
  rw [uint32, finds_natBelow n.toNat_lt r h]
  exact congrArg Except.ok n.ofNat_toNat

theorem finds_nullable_null (decode : Decoder α) : Finds (nullable decode) .null none := by
  intro r h
  rw [value?_eq_null.1 h, nullable]

theorem finds_nullable {decode : Decoder α} {j : Json} {a : α} (other : j ≠ .null)
    (h : Finds decode j a) : Finds (nullable decode) j (some a) := by
  intro r value
  have found : r ≠ .null := by
    rintro rfl
    exact other (Option.some.inj value).symm
  rw [nullable, h r value]
  · rfl
  · exact found

theorem Steady.nullable {decode : Decoder α} (h : Steady decode) : Steady (nullable decode) := by
  intro r j a value found
  by_cases isNull : r = .null
  · subst isNull
    cases value
    cases found
    exact finds_nullable_null decode
  · have other : j ≠ .null := by
      rintro rfl
      exact isNull (value?_eq_null.1 value)
    rw [Json.nullable] at found
    · cases within : decode r with
      | error fault => rw [within] at found; cases found
      | ok b =>
        rw [within] at found
        cases found
        exact finds_nullable other (h value within)
    · exact isNull

theorem finds_nullable_textOrNull (s : Option String) : Finds (nullable string) (textOrNull s) s := by
  cases s with
  | none => exact finds_nullable_null string
  | some s => exact finds_nullable nofun (finds_string s)

theorem finds_oneOf {find : String → Option α} {s : String} {a : α} (h : find s = some a) :
    Finds (oneOf find) (.text s) a := by
  intro r value
  rw [value?_eq_text.1 value, oneOf, h]

theorem Finds.map {decode : Decoder α} {j : Json} {a : α} (h : Finds decode j a) (f : α → β) :
    Finds (fun r => (decode r).map f) j (f a) := by
  intro r value
  show (decode r).map f = _
  rw [h r value]
  rfl

/-! ## Lists and maps -/

theorem finds_list {decode : Decoder α} {js : List Json} {as : List α}
    (h : List.Forall₂ (Finds decode) js as) : Finds (list decode) (.array js) as := by
  intro r value
  obtain ⟨items, rfl, values⟩ := value?_eq_array.1 value
  have each : ∀ index, decodeItems decode index items = .ok as := by
    clear value
    induction h generalizing items with
    | nil =>
      obtain rfl : items = [] := by simpa using values?_eq_some.1 values
      exact fun _ => rfl
    | @cons j a js as finds _ ih =>
      obtain ⟨r, items', first, rest, rfl⟩ := List.forall₂_cons_right_iff.1 (values?_eq_some.1 values)
      intro index
      rw [decodeItems, finds r first, within]
      show (do let more ← decodeItems decode (index + 1) items'; return a :: more) = _
      rw [ih items' (values?_eq_some.2 rest) (index + 1)]
      rfl
  show (do let found ← decodeItems decode 0 items; endAt true; return found) = _
  rw [each 0]
  rfl

theorem Steady.list {decode : Decoder α} (h : Steady decode) : Steady (list decode) := by
  intro r j as value found
  cases r with
  | array items closed =>
    obtain ⟨rfl, js, values, rfl⟩ := value?_array.1 value
    obtain ⟨as', each, same⟩ : ∃ as', decodeItems decode 0 items = .ok as' ∧ as' = as := by
      cases each : decodeItems decode 0 items with
      | error fault => rw [Json.list, each] at found; cases found
      | ok as' =>
        rw [Json.list, each] at found
        exact ⟨as', rfl, Except.ok.inj found⟩
    subst same
    clear value found
    refine finds_list ?_
    generalize 0 = index at each
    induction items generalizing js as' index with
    | nil =>
      cases values
      cases each
      exact .nil
    | cons r items ih =>
      obtain ⟨j, rest, value, others, rfl⟩ := values?_cons.1 values
      rw [decodeItems] at each
      cases first : decode r with
      | error fault => rw [first] at each; cases each
      | ok a =>
        cases following : decodeItems decode (index + 1) items with
        | error fault => rw [first, within, following] at each; cases each
        | ok more =>
          rw [first, within, following] at each
          cases each
          exact .cons (h value first) (ih rest others more (index + 1) following)
  | _ => cases found

theorem finds_list_map {decode : Decoder α} {encode : α → Json}
    (h : ∀ a, Finds decode (encode a) a) (as : List α) :
    Finds (list decode) (.array (as.map encode)) as :=
  finds_list (List.forall₂_map_left_iff.2 (List.forall₂_same.2 fun a _ => h a))

theorem decodeMembers_of_forall₂ {decode : Decoder α} {named : List (String × Raw)}
    {entries : List (String × α)}
    (each : List.Forall₂ (fun e a => e.1 = a.1 ∧ decode e.2 = .ok a.2) named entries) (kept : KeyMap α) :
    decodeMembers decode kept (named.map fun e => (some e.1, e.2)) =
      .ok (entries.foldl (fun m e => m.insert e.1 e.2) kept) := by
  induction each generalizing kept with
  | nil => rfl
  | @cons e a named entries he _ ih =>
    rw [List.map_cons, decodeMembers, he.2, he.1]
    exact ih (kept.insert a.1 a.2)

theorem finds_dict {decode : Decoder α} {encode : α → Json} (h : ∀ a, Finds decode (encode a) a)
    (m : KeyMap α) : Finds (dict decode) (.ofMap (m.map encode)) m := by
  intro r value
  obtain ⟨named, found, rfl, each, distinct, same⟩ := value?_eq_object.1 value
  have perm : found.Perm (m.entries.map fun e => (e.1, encode e.2)) :=
    (KeyMap.entries_ofList_perm distinct).symm.trans (.of_eq same.symm)
  -- The members stand in some order of the entries of the map.
  obtain ⟨entries, encoded, order⟩ := List.perm_comp_forall₂ perm
    (List.forall₂_map_left_iff.2 (List.forall₂_refl m.entries) :
      List.Forall₂ (fun (j : String × Json) e => j = (e.1, encode e.2)) _ m.entries)
  obtain rfl : found = entries.map fun e => (e.1, encode e.2) :=
    List.forall₂_eq_eq_eq ▸ List.forall₂_map_right_iff.2 encoded
  have shapes : List.Forall₂ (fun e a => e.1 = a.1 ∧ decode e.2 = .ok a.2) named entries :=
    (List.forall₂_map_right_iff.1 each).imp fun e a member => ⟨member.1, h a.2 e.2 member.2⟩
  rw [dict, decodeMembers_of_forall₂ shapes]
  have distinct' : (entries.map Prod.fst).Nodup := ((order.map _).nodup_iff).2 m.keys_nodup
  have same' : KeyMap.ofList entries = m :=
    KeyMap.eq_of_perm ((KeyMap.entries_ofList_perm distinct').trans order)
  exact congrArg Except.ok same'

/-! ## Records -/

namespace Record

/-- The members of an object, as far as they are fields of a record, build `a`. -/
def Builds (ms : List (String × Json)) : {α : Type} → Record α → α → Prop
  | _, .of build, a => a = build
  | _, .field before name decode default, a =>
    ∃ f b, before.Builds ms f ∧ a = f b ∧
      match KeyMap.lookup name ms with
      | some j => Finds decode j b
      | none => default = some b

variable {ms : List (String × Json)} {before : Record (β → α)} {f : β → α} {name : String}
  {decode : Decoder β} {j : Json} {b : β}

theorem builds_of (build : α) : (Record.of build).Builds ms build :=
  rfl

theorem Builds.field {default : Option β} (h : before.Builds ms f)
    (given : KeyMap.lookup name ms = some j) (finds : Finds decode j b) :
    (Record.field before name decode default).Builds ms (f b) := by
  refine ⟨f, b, h, rfl, ?_⟩
  rw [given]
  exact finds

theorem Builds.left_out {default : β} (h : before.Builds ms f)
    (missing : KeyMap.lookup name ms = none) :
    (before.optional name decode default).Builds ms (f default) := by
  refine ⟨f, default, h, rfl, ?_⟩
  rw [missing]

/-- What the fields of a record are depends on the values that were read. -/
def Steady : {α : Type} → Record α → Prop
  | _, .of _ => True
  | _, .field before _ decode _ => before.Steady ∧ Json.Steady decode

/-- Every field that is given has its shape. -/
theorem Builds.check {record : Record α} {a : α} (h : record.Builds ms a)
    {check : Raw → Except Fault Unit} (isField : record.check? name = some check)
    (given : KeyMap.lookup name ms = some j) {r : Raw} (value : r.value? = some j) :
    check r = .ok () := by
  induction record with
  | of build => cases isField
  | field before name' decode default ih =>
    obtain ⟨f, b, hf, rfl, found⟩ := h
    rw [check?] at isField
    split at isField
    · next same =>
      subst same
      cases isField
      rw [given] at found
      show (decode r).map _ = _
      rw [found r value]
      rfl
    · exact ih hf isField

/-- A record is put together from what its fields were read as. -/
theorem Builds.assemble {record : Record α} {a : α} (h : record.Builds ms a)
    {fields : List (String × Raw)}
    (read : ∀ name, (record.check? name).isSome →
      (KeyMap.lookup name fields).map Raw.value? = (KeyMap.lookup name ms).map some) :
    record.assemble fields = .ok a := by
  induction record with
  | of build => exact congrArg Except.ok h.symm
  | field before name decode default ih =>
    obtain ⟨f, b, hf, rfl, found⟩ := h
    have others : before.assemble fields = .ok f := by
      refine ih hf fun name' isField => read name' ?_
      rw [check?]
      split
      · rfl
      · exact isField
    have this := read name (by rw [check?, if_pos rfl]; rfl)
    rw [Record.assemble, others]
    cases given : KeyMap.lookup name ms with
    | some j =>
      rw [given] at found this
      obtain ⟨r, isGiven, value⟩ := Option.map_eq_some_iff.1 this
      simp only [bind, Except.bind, isGiven, found r value, within]
      rfl
    | none =>
      rw [given] at found this
      rw [Option.map_eq_none_iff.1 this]
      subst found
      rfl

theorem builds_of_assemble {record : Record α} {a : α} (steady : record.Steady)
    {fields : List (String × Raw)}
    (read : ∀ name, (record.check? name).isSome →
      (KeyMap.lookup name fields).map Raw.value? = (KeyMap.lookup name ms).map some)
    (h : record.assemble fields = .ok a) : record.Builds ms a := by
  induction record with
  | of build => exact (Except.ok.inj h).symm
  | field before name decode default ih =>
    rw [Record.assemble] at h
    cases others : before.assemble fields with
    | error fault => rw [others] at h; cases h
    | ok f =>
      rw [others] at h
      have hf : before.Builds ms f := by
        refine ih steady.1 (fun name' isField => read name' ?_) others
        rw [check?]
        split
        · rfl
        · exact isField
      have this := read name (by rw [check?, if_pos rfl]; rfl)
      simp only [bind, Except.bind] at h
      cases given : KeyMap.lookup name fields with
      | some r =>
        rw [given] at this h
        obtain ⟨j, shown, value⟩ := Option.map_eq_some_iff.1 this.symm
        cases found : decode r with
        | error fault => simp only [found, within] at h; cases h
        | ok b =>
          simp only [found, within] at h
          cases h
          exact hf.field shown (steady.2 value.symm found)
      | none =>
        rw [given] at this h
        have missing := Option.map_eq_none_iff.1 this.symm
        cases default with
        | none => cases h
        | some b =>
          cases h
          exact hf.left_out missing

/-! ## Fields and other members -/

/-- Whether no field has the name. -/
def lacks (record : Record α) (name : String) : Bool := (record.check? name).isNone

/-- The members of an object that are no fields. -/
def others (record : Record α) (m : KeyMap Json) : KeyMap Json :=
  ⟨m.entries.filter fun e => record.lacks e.1, m.ascend.filter _⟩

variable {record : Record α} {other : Raw → Except Fault Unit} {named : List (String × Raw)}
  {fields rest : List (String × Raw)}

/-- Members whose names differ are all looked into; what is no field must fit. -/
theorem sortMembers_eq (fits : Raw → Bool)
    (distinct : (fields.map Prod.fst ++ named.map Prod.fst).Nodup)
    (checked : ∀ e ∈ named, ∀ check, record.check? e.1 = some check → check e.2 = .ok ())
    (looked : ∀ e ∈ named, other e.2 = if fits e.2 then .ok () else .error .malformed) :
    record.sortMembers other fields rest (named.map fun e => (some e.1, e.2)) =
      if (named.filter fun e => record.lacks e.1).all (fun e => fits e.2) then
        .ok (fields ++ named.filter fun e => !record.lacks e.1,
          rest ++ named.filter fun e => record.lacks e.1)
      else .error .malformed := by
  induction named generalizing fields rest with
  | nil => simp [sortMembers]
  | cons e named ih =>
    have checked' := fun e' he' => checked e' (List.mem_cons_of_mem e he')
    have looked' := fun e' he' => looked e' (List.mem_cons_of_mem e he')
    rw [List.map_cons, sortMembers]
    cases isField : record.check? e.1 with
    | none =>
      have lacks : record.lacks e.1 = true := by rw [Record.lacks, isField]; rfl
      have distinct' : (fields.map Prod.fst ++ named.map Prod.fst).Nodup :=
        distinct.sublist (by simp)
      simp only [List.filter_cons, lacks, Bool.not_true, if_true, Bool.false_eq_true, if_false,
        List.all_cons]
      simp only [looked e List.mem_cons_self, ih distinct' checked' looked']
      cases fits e.2 with
      | false => rfl
      | true => simp only [if_true, bind, Except.bind, Bool.true_and, List.append_assoc,
          List.singleton_append]
    | some check =>
      have lacks : record.lacks e.1 = false := by rw [Record.lacks, isField]; rfl
      have fresh : KeyMap.lookup e.1 fields = none := by
        refine KeyMap.lookup_eq_none_iff.2 fun known => ?_
        exact (List.nodup_append.1 distinct).2.2 e.1 known e.1 (by simp) rfl
      have distinct' : ((fields ++ [e]).map Prod.fst ++ named.map Prod.fst).Nodup := by
        simpa using distinct
      simp only [List.filter_cons, lacks, Bool.not_false, if_true, Bool.false_eq_true, if_false]
      simp only [fresh, checked e List.mem_cons_self check isField, within,
        ih distinct' checked' looked']
      simp only [Option.isSome_none, Bool.false_eq_true, if_false, bind, Except.bind,
        List.append_assoc, List.singleton_append]

theorem eq_of_sortMembers {fields' rest' : List (String × Raw)}
    (h : record.sortMembers other fields rest (named.map fun e => (some e.1, e.2)) =
      .ok (fields', rest')) :
    fields' = fields ++ named.filter (fun e => !record.lacks e.1) ∧
      rest' = rest ++ named.filter fun e => record.lacks e.1 := by
  induction named generalizing fields rest with
  | nil =>
    cases h
    simp
  | cons e named ih =>
    rw [List.map_cons, sortMembers] at h
    cases isField : record.check? e.1 with
    | none =>
      have lacks : record.lacks e.1 = true := by rw [Record.lacks, isField]; rfl
      simp only [isField] at h
      cases looked : other e.2 with
      | error fault => rw [looked] at h; cases h
      | ok _ =>
        rw [looked] at h
        simpa [lacks] using ih h
    | some check =>
      have lacks : record.lacks e.1 = false := by rw [Record.lacks, isField]; rfl
      simp only [isField] at h
      split at h
      · cases h
      · cases checked : within (.member e.1) (check e.2) with
        | error fault => rw [checked] at h; cases h
        | ok _ =>
          rw [checked] at h
          simpa [lacks] using ih h

/-! ## Objects -/

variable {m : KeyMap Json} {found : List (String × Json)} {build : KeyMap Json → α} {a : α} {room : Nat}

/-- The members of a text, in their order, have the names and values of an object. -/
def Shown (named : List (String × Raw)) (found : List (String × Json)) : Prop :=
  List.Forall₂ (fun e m => e.1 = m.1 ∧ e.2.value? = some m.2) named found

namespace Shown

theorem names (h : Shown named found) : named.map Prod.fst = found.map Prod.fst := by
  induction h with
  | nil => rfl
  | cons member _ ih => rw [List.map_cons, List.map_cons, member.1, ih]

theorem filter (h : Shown named found) (p : String → Bool) :
    Shown (named.filter fun e => p e.1) (found.filter fun e => p e.1) :=
  List.rel_filter (fun _ _ member => iff_of_eq (congrArg (p · = true) member.1)) h

theorem lookup (h : Shown named found) (name : String) :
    (KeyMap.lookup name named).map Raw.value? = (KeyMap.lookup name found).map some := by
  induction h with
  | nil => rfl
  | cons member _ ih =>
    rw [KeyMap.lookup, KeyMap.lookup, member.1]
    split
    · exact congrArg some member.2
    · exact ih

theorem exists_mem (h : Shown named found) {e : String × Raw} (mem : e ∈ named) :
    ∃ j, (e.1, j) ∈ found ∧ e.2.value? = some j := by
  induction h with
  | nil => cases mem
  | @cons e' m named found member _ ih =>
    rcases List.mem_cons.1 mem with rfl | mem
    · exact ⟨m.2, by rw [member.1]; exact List.mem_cons_self, member.2⟩
    · obtain ⟨j, known, value⟩ := ih mem
      exact ⟨j, List.mem_cons_of_mem m known, value⟩

theorem all_fit_iff (h : Shown named found) :
    named.all (fun e => (e.2.value?.map depth).all (· ≤ room)) = true ↔ depthMembers found ≤ room := by
  induction h with
  | nil => simp [depthMembers]
  | @cons e m named found member _ ih =>
    rw [List.all_cons, Bool.and_eq_true, ih, member.2, depthMembers, Nat.max_le]
    simp

end Shown

/-- An object that was read, with its members in the order of the text. -/
theorem exists_shown {r : Raw} (value : r.value? = some (.ofMap m)) :
    ∃ named found, r = .object (named.map fun e => (some e.1, e.2)) true ∧ Shown named found ∧
      (named.map Prod.fst).Nodup ∧ found.Perm m.entries := by
  obtain ⟨named, found, rfl, each, distinct, same⟩ := value?_eq_object.1 value
  have shown : Shown named found := each
  exact ⟨named, found, rfl, shown, shown.names ▸ distinct,
    same ▸ (KeyMap.entries_ofList_perm distinct).symm⟩

/-- The fields among the members of a text are as they stand in the object. -/
theorem map_lookup_fields (shown : Shown named found) (distinct : (named.map Prod.fst).Nodup)
    (perm : found.Perm m.entries) {name : String} (isField : (record.check? name).isSome) :
    (KeyMap.lookup name (named.filter fun e => !record.lacks e.1)).map Raw.value? =
      (KeyMap.lookup name m.entries).map some := by
  have kept : (!record.lacks name) = true := by
    rw [lacks, ← Option.not_isSome, Bool.not_not]
    exact isField
  have same : KeyMap.lookup name (named.filter fun e => !record.lacks e.1) = KeyMap.lookup name named :=
    KeyMap.lookup_filter_of (p := fun name => !record.lacks name) kept
  rw [same, shown.lookup, KeyMap.lookup_perm (shown.names ▸ distinct) perm]

theorem Builds.checked (h : record.Builds m.entries a) (shown : Shown named found)
    (perm : found.Perm m.entries) : ∀ e ∈ named, ∀ check, record.check? e.1 = some check →
      check e.2 = .ok () := by
  intro e mem check isField
  obtain ⟨j, known, value⟩ := shown.exists_mem mem
  exact h.check isField
    ((KeyMap.lookup_eq_some_iff m.keys_nodup).2 (perm.mem_iff.1 known)) value

theorem finds_decode (h : record.Builds m.entries a) : Finds record.decode (.ofMap m) a := by
  intro r value
  obtain ⟨named, found, rfl, shown, distinct, perm⟩ := exists_shown value
  have passed : ∀ e ∈ named, pass e.2 = if true then .ok () else .error .malformed := by
    intro e mem
    obtain ⟨j, -, value⟩ := shown.exists_mem mem
    rw [pass, isComplete_of_value? value]
    rfl
  have sorted : record.sortMembers pass [] [] _ = _ :=
    sortMembers_eq (fun _ => true) distinct (h.checked shown perm) passed
  rw [decode, sorted, if_pos (by simp)]
  exact h.assemble fun name isField => map_lookup_fields shown distinct perm isField

/-! ## Objects whose other members are kept -/

variable {record : Record (KeyMap Json → α)}

theorem others_perm (perm : found.Perm m.entries) :
    (found.filter fun e => record.lacks e.1).Perm (record.others m).entries :=
  perm.filter _

/-- The other members of a text are kept if there is room for them. -/
theorem keepMembers_others (record : Record (KeyMap Json → α)) (room : Nat) (shown : Shown named found)
    (distinct : (named.map Prod.fst).Nodup) (perm : found.Perm m.entries) :
    keepMembers room .empty
        ((named.filter fun e => record.lacks e.1).map fun (name, r) => (some name, r)) =
      if depthMembers (record.others m).entries ≤ room then .ok (record.others m)
      else .error .malformed := by
  have shownOthers := shown.filter record.lacks
  have distinctOthers : ((found.filter fun e => record.lacks e.1).map Prod.fst).Nodup := by
    rw [← shownOthers.names]
    exact distinct.sublist (List.filter_sublist.map _)
  have same : KeyMap.ofList (found.filter fun e => record.lacks e.1) = record.others m :=
    KeyMap.eq_of_perm ((KeyMap.entries_ofList_perm distinctOthers).trans (others_perm perm))
  rw [keepMembers_of_memberValues? room .empty _ _ (memberValues?_eq_some.2 ⟨_, rfl, shownOthers⟩),
    depthMembers_perm (others_perm perm), ← KeyMap.ofList, same]

/-- An object whose fields have their shapes is found if there is room for its other members, and is
malformed otherwise. -/
theorem decodeOpen_object (room : Nat) (h : record.Builds m.entries build) {r : Raw}
    (value : r.value? = some (.ofMap m)) :
    record.decodeOpen room r =
      if depthMembers (record.others m).entries ≤ room - 1 then .ok (build (record.others m))
      else .error .malformed := by
  obtain ⟨named, found, rfl, shown, distinct, perm⟩ := exists_shown value
  have looked : ∀ e ∈ named, (keep (room - 1) e.2).map (fun _ => ()) =
      if (e.2.value?.map depth).all (· ≤ room - 1) then .ok () else .error .malformed := by
    intro e mem
    obtain ⟨j, -, value⟩ := shown.exists_mem mem
    rw [keep_of_value? (room - 1) e.2 j value, value]
    by_cases fits : j.depth ≤ room - 1 <;> simp [fits] <;> rfl
  have sorted : record.sortMembers (fun r => (keep (room - 1) r).map fun _ => ()) [] [] _ = _ :=
    sortMembers_eq (fun r => (r.value?.map depth).all (· ≤ room - 1)) distinct (h.checked shown perm)
      looked
  have fit : ((named.filter fun e => record.lacks e.1).all
      fun e => (e.2.value?.map depth).all (· ≤ room - 1)) = true ↔
      depthMembers (record.others m).entries ≤ room - 1 := by
    rw [← depthMembers_perm (others_perm perm)]
    exact (shown.filter record.lacks).all_fit_iff
  have assembled := h.assemble fun name isField => map_lookup_fields shown distinct perm isField
  rw [decodeOpen, sorted]
  by_cases shallow : depthMembers (record.others m).entries ≤ room - 1
  · rw [if_pos (fit.2 shallow), if_pos shallow]
    have kept := keepMembers_others record (room - 1) shown distinct perm
    rw [if_pos shallow] at kept
    simp only [bind, Except.bind, endAt, if_true, List.nil_append, assembled, kept]
    rfl
  · rw [if_neg (mt fit.1 shallow), if_neg shallow]
    rfl

theorem finds_decodeOpen (h : record.Builds m.entries build)
    (shallow : depthMembers (record.others m).entries ≤ room - 1) :
    Finds (record.decodeOpen room) (.ofMap m) (build (record.others m)) := by
  intro r value
  rw [decodeOpen_object room h value, if_pos shallow]

/-- What an object was found to be is built of its fields and keeps its other members. -/
theorem exists_builds_of_decodeOpen (steady : record.Steady) {r : Raw} {a : α}
    (value : r.value? = some (.ofMap m)) (h : record.decodeOpen room r = .ok a) :
    ∃ build, record.Builds m.entries build ∧ a = build (record.others m) ∧
      depthMembers (record.others m).entries ≤ room - 1 := by
  obtain ⟨named, found, rfl, shown, distinct, perm⟩ := exists_shown value
  obtain ⟨build, builds⟩ : ∃ build, record.Builds m.entries build := by
    rw [decodeOpen] at h
    cases sorted : record.sortMembers (fun r => (keep (room - 1) r).map fun _ => ()) [] []
        (named.map fun e => (some e.1, e.2)) with
    | error fault => rw [sorted] at h; cases h
    | ok members =>
      obtain ⟨fields, rest⟩ := members
      obtain ⟨rfl, -⟩ := eq_of_sortMembers sorted
      rw [sorted] at h
      cases assembled : record.assemble (named.filter fun e => !record.lacks e.1) with
      | error fault =>
        simp only [bind, Except.bind, endAt, if_true, List.nil_append, assembled] at h
        cases h
      | ok build =>
        exact ⟨build, builds_of_assemble steady
          (fun name isField => map_lookup_fields shown distinct perm isField) assembled⟩
  rw [decodeOpen_object room builds value] at h
  split at h
  · next shallow => exact ⟨build, builds, (Except.ok.inj h).symm, shallow⟩
  · cases h

end Record

end RealmSetup.Json
