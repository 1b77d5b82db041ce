import Mathlib.Data.List.Basic
import Mathlib.Tactic.MkIffOfInductiveProp
import RealmSetup.Admin.Client
import RealmSetup.Proofs.Url.Percent

/-!
# Which requests have the same address

The address of a request is that of the server with segments added to its path.  What becomes of the
segments can be told from them alone, before anything is encoded (`standing`): each that is neither `.`
nor `..` leaves a name behind, which is the segment without its tabs and line breaks.  If `.` is left when
these are dropped, the name is empty, and if `..` is left, an empty name takes the place of the name
before.  No segment ever touches what stands in front of the first name (`push_append`).

Names are encoded so that they can be told apart, and so two addresses are the same exactly if the same
names are left behind (`endpoint_eq_iff`).  Segments without tabs and line breaks that are neither `.` nor
`..` are the names they leave behind; of these an address has one list only.  Slashes in names are encoded,
so that this holds of addresses as they are written, too (`Url.text_eq_iff`).
-/

namespace RealmSetup

namespace Url

open Percent

variable {scheme : String} {special : Bool} {front : List String} {names : List (List Char)}
  {segment : String}

/-! ## What is left behind -/

/-- Names as they are written in a path. -/
def written (special : Bool) (names : List (List Char)) : List String :=
  names.map fun name => String.ofList (encode (inSegmentSet special) name)

/-- Whether `..` does not leave a name: it is written like one that begins with the name of a drive. -/
def isLasting (special : Bool) (name : List Char) : Bool :=
  beginsWithDrive (encode (inSegmentSet special) name)

/-- The names above the last one. -/
def above (special : Bool) (names : List (List Char)) : List (List Char) :=
  if names.getLast?.any (isLasting special) then names else names.dropLast

/-- The names that are left behind by one more segment, which holds no tabs or line breaks. -/
def leave (special : Bool) (names : List (List Char)) (name : List Char) : List (List Char) :=
  if name = ['.'] then names ++ [[]]
  else if name = ['.', '.'] then above special names ++ [[]]
  else names ++ [name]

/-- The names that are left behind by one more segment. -/
def stand (special : Bool) (names : List (List Char)) (segment : String) : List (List Char) :=
  if segment = "." ∨ segment = ".." then names
  else leave special names (withoutBreaks segment.toList)

theorem encode_segment_injective (special : Bool) :
    Function.Injective (encode (inSegmentSet special)) :=
  encode_injective (by simp [inSegmentSet])

theorem written_injective (special : Bool) : Function.Injective (written special) :=
  List.map_injective_iff.2 fun _ _ same =>
    encode_segment_injective special (String.ofList_injective same)

/-! ## Names in a text -/

theorem intercalate_slash (first : List Char) (names : List (List Char)) :
    ['/'].intercalate (first :: names) = first ++ names.flatMap ('/' :: ·) := by
  induction names generalizing first with
  | nil => simp
  | cons name names ih => rw [List.intercalate_cons_cons, ih, List.flatMap_cons]; simp

/-- Names without slashes can be told from a text in which each stands after a slash. -/
theorem flatMap_slash_inj {names names' : List (List Char)} (h : ∀ name ∈ names, '/' ∉ name)
    (h' : ∀ name ∈ names', '/' ∉ name) :
    names.flatMap ('/' :: ·) = names'.flatMap ('/' :: ·) ↔ names = names' := by
  have read {names : List (List Char)} (h : ∀ name ∈ names, '/' ∉ name) :
      (names.flatMap ('/' :: ·)).splitOn '/' = [] :: names := by
    have whole : (['/'].intercalate ([] :: names)).splitOn '/' = [] :: names :=
      List.splitOn_intercalate '/' (by simpa using h) (List.cons_ne_nil _ _)
    rwa [intercalate_slash, List.nil_append] at whole
  constructor
  · intro same
    have split := congrArg (List.splitOn '/') same
    rw [read h, read h'] at split
    exact (List.cons.inj split).2
  · rintro rfl
    rfl

theorem toList_foldl_slash (path : List String) (text : String) :
    (path.foldl (fun text name => text ++ "/" ++ name) text).toList =
      text.toList ++ (path.map String.toList).flatMap ('/' :: ·) := by
  induction path generalizing text with
  | nil => simp
  | cons name path ih => rw [List.foldl_cons, ih]; simp

theorem toList_pathText {u : Url} {path : List String} (h : u.path = .segments path) :
    u.pathText.toList = (path.map String.toList).flatMap ('/' :: ·) := by
  rw [pathText, h]
  exact toList_foldl_slash path ""

/-- Addresses that differ only in their paths are written alike only if their paths are. -/
theorem text_eq_iff_pathText (u : Url) (path path' : Path) :
    ({ u with path } : Url).text = ({ u with path := path' } : Url).text ↔
      ({ u with path } : Url).pathText = ({ u with path := path' } : Url).pathText := by
  simp only [text, String.append_left_inj]
  exact String.append_right_inj (u.scheme ++ ":" ++ u.frontText)

theorem slash_notMem_written {name : String} (mem : name ∈ written special names) :
    '/' ∉ name.toList := by
  obtain ⟨raw, -, rfl⟩ := List.mem_map.1 mem
  rw [String.toList_ofList]
  exact slash_notMem_encode (by simp [inSegmentSet])

/-- Addresses that differ only in the last names of their paths are written alike only if these are the
same. -/
theorem text_eq_iff (u : Url) (front : List String) (special : Bool) (names names' : List (List Char)) :
    ({ u with path := .segments (front ++ written special names) } : Url).text =
        ({ u with path := .segments (front ++ written special names') } : Url).text ↔
      names = names' := by
  have plain (names : List (List Char)) :
      ∀ name ∈ (written special names).map String.toList, '/' ∉ name := by
    rintro _ shown
    obtain ⟨name, mem, rfl⟩ := List.mem_map.1 shown
    exact slash_notMem_written mem
  rw [text_eq_iff_pathText, ← String.toList_inj, toList_pathText rfl, toList_pathText rfl,
    List.map_append, List.map_append, List.flatMap_append, List.flatMap_append,
    List.append_cancel_left_eq, flatMap_slash_inj (plain names) (plain names'),
    List.map_inj_right fun _ _ => String.toList_injective]
  exact (written_injective special).eq_iff

/-! ## Adding a segment -/

/-- The beginning of a path that nothing added to the path changes. -/
structure Firm (scheme : String) (front : List String) : Prop where
  ne_nil : front ≠ []
  /-- An empty segment alone would be replaced by the next. -/
  ne_empty : front ≠ [""]
  /-- Empty segments in front of the path of a file would be dropped. -/
  file : scheme = "file" → front.head? ≠ some ""

/-- The place above one whose last names are written in a path. -/
theorem names_parent {onDrive : Bool} (before : List (List Char)) (stands : names ≠ []) :
    (Trail.parent ⟨before ++ names.map (encode (inSegmentSet special)), onDrive⟩).names =
      before ++ (above special names).map (encode (inSegmentSet special)) := by
  have named : names.map (encode (inSegmentSet special)) ≠ [] := by simpa using stands
  have last : (before ++ names.map (encode (inSegmentSet special))).getLast?.any beginsWithDrive =
      names.getLast?.any (isLasting special) := by
    rw [List.getLast?_append_of_ne_nil _ named, List.getLast?_map, Option.any_map]
    rfl
  simp only [Trail.parent, last, above]
  split
  · rfl
  · simp [List.dropLast_append_of_ne_nil named]

/-- Behind names that are written in a path, a segment has only the names it leaves behind written. -/
theorem names_enter {file onDrive : Bool} {before : List (List Char)} {raw : List Char}
    (firm : before ≠ []) (stays : withoutBreaks raw = ['.', '.'] → names ≠ []) :
    (Trail.enter file true (encode (inSegmentSet special))
      ⟨before ++ names.map (encode (inSegmentSet special)), onDrive⟩ raw).names =
      before ++ (leave special names (withoutBreaks raw)).map (encode (inSegmentSet special)) := by
  have percent : inSegmentSet special '%' = true := by simp [inSegmentSet]
  have dot : inSegmentSet special '.' = false := by cases special <;> rfl
  have empty : encode (inSegmentSet special) [] = [] := rfl
  by_cases twice : withoutBreaks raw = ['.', '.']
  · simp only [Trail.enter, if_pos ((isDoubleDot_encode percent dot).2 twice), Trail.settle, if_true,
      names_parent before (stays twice)]
    simp [leave, twice, empty]
  · have climbs : ¬isDoubleDot (encode (inSegmentSet special) (withoutBreaks raw)) = true :=
      fun h => twice ((isDoubleDot_encode percent dot).1 h)
    by_cases once : withoutBreaks raw = ['.']
    · simp only [Trail.enter, if_neg climbs, if_pos ((isSingleDot_encode percent dot).2 once)]
      simp [Trail.settle, leave, once, empty]
    · have rests : ¬isSingleDot (encode (inSegmentSet special) (withoutBreaks raw)) = true :=
        fun h => once ((isSingleDot_encode percent dot).1 h)
      simp [Trail.enter, if_neg climbs, if_neg rests, firm, leave, twice, once]

theorem dropEmptyFront_of_head {names : List (List Char)} (h : names.head? ≠ some []) :
    Trail.dropEmptyFront names = names := by
  fun_cases Trail.dropEmptyFront names <;> simp_all

/-- A segment that is added to a path changes only the names it leaves behind. -/
theorem push_append (firm : Firm scheme front)
    (stays : withoutBreaks segment.toList = ['.', '.'] → names ≠ []) :
    push scheme (front ++ written (isSpecial scheme) names) segment =
      front ++ written (isSpecial scheme) (stand (isSpecial scheme) names segment) := by
  by_cases skipped : segment = "." ∨ segment = ".."
  · simp [push, stand, skipped]
  · have alone : front ++ written (isSpecial scheme) names ≠ [""] := by
      intro same
      obtain ⟨empty, -⟩ | ⟨empty, -⟩ := List.append_eq_singleton_iff.1 same
      · exact firm.ne_nil empty
      · exact firm.ne_empty empty
    have passed : (front ++ written (isSpecial scheme) names).map String.toList =
        front.map String.toList ++ names.map (encode (inSegmentSet (isSpecial scheme))) := by
      simp [written, Function.comp_def]
    have entered : (Trail.enter (scheme == "file") true (encode (inSegmentSet (isSpecial scheme)))
        ⟨front.map String.toList ++ names.map (encode (inSegmentSet (isSpecial scheme))), false⟩
        segment.toList).names = _ := names_enter (by simpa using firm.ne_nil) stays
    have kept : (front.map String.toList ++ (leave (isSpecial scheme) names
        (withoutBreaks segment.toList)).map (encode (inSegmentSet (isSpecial scheme)))).map
          String.ofList = front ++ written (isSpecial scheme) (leave (isSpecial scheme) names
            (withoutBreaks segment.toList)) := by
      simp [written, Function.comp_def]
    simp only [push, stand, Bool.or_eq_true, decide_eq_true_eq, if_neg skipped, if_neg alone, passed,
      entered]
    split
    · next file =>
      rw [dropEmptyFront_of_head, kept]
      rw [List.head?_append_of_ne_nil _ (by simpa using firm.ne_nil), List.head?_map]
      simpa using firm.file (by simpa using file)
    · exact kept

theorem leave_ne_nil (special : Bool) (names : List (List Char)) (name : List Char) :
    leave special names name ≠ [] := by
  simp only [leave]
  split
  · simp
  · split <;> simp

theorem stand_ne_nil (stands : names ≠ []) : stand special names segment ≠ [] := by
  rw [stand]
  split
  · exact stands
  · exact leave_ne_nil special names _

theorem foldl_push_append (firm : Firm scheme front) (stands : names ≠ []) (segments : List String) :
    segments.foldl (push scheme) (front ++ written (isSpecial scheme) names) =
      front ++ written (isSpecial scheme) (segments.foldl (stand (isSpecial scheme)) names) := by
  induction segments generalizing names with
  | nil => rfl
  | cons segment segments ih =>
    rw [List.foldl_cons, push_append firm fun _ => stands, ih (stand_ne_nil stands), List.foldl_cons]

/-! ## Segments that stand for themselves -/

/-- A segment that is left behind as it is. -/
@[mk_iff]
structure Ordinary (segment : String) : Prop where
  ne_dot : segment ≠ "."
  ne_dots : segment ≠ ".."
  noBreaks : ∀ c ∈ segment.toList, isBreak c = false

theorem ordinary_realms : Ordinary "realms" := by
  simp [ordinary_iff, isBreak]

theorem stand_of_ordinary (ordinary : Ordinary segment) :
    stand special names segment = names ++ [segment.toList] := by
  have whole : withoutBreaks segment.toList = segment.toList :=
    List.filter_eq_self.2 fun c mem => by simp [ordinary.noBreaks c mem]
  have dot : segment.toList ≠ ['.'] := fun same => ordinary.ne_dot (String.toList_injective same)
  have dots : segment.toList ≠ ['.', '.'] :=
    fun same => ordinary.ne_dots (String.toList_injective same)
  simp [stand, ordinary.ne_dot, ordinary.ne_dots, whole, leave, dot, dots]

theorem foldl_stand_of_ordinary {segments : List String} (ordinary : ∀ s ∈ segments, Ordinary s) :
    segments.foldl (stand special) names = names ++ segments.map String.toList := by
  induction segments generalizing names with
  | nil => simp
  | cons segment segments ih =>
    rw [List.foldl_cons, stand_of_ordinary (ordinary segment (by simp)),
      ih fun s mem => ordinary s (by simp [mem])]
    simp

/-! ## The front of a path -/

/-- Dropping empty segments keeps the last segment and, if that is not empty, begins with one that is
not. -/
theorem dropEmptyFront_spec {names : List (List Char)} {last : List Char}
    (ends : names.getLast? = some last) (filled : last ≠ []) :
    (Trail.dropEmptyFront names).getLast? = some last ∧
      (Trail.dropEmptyFront names).head? ≠ some [] := by
  fun_induction Trail.dropEmptyFront names with
  | case1 segment rest ih => exact ih (by simpa using ends)
  | case2 names other =>
    refine ⟨ends, fun empty => ?_⟩
    obtain ⟨rest, rfl⟩ := List.head?_eq_some_iff.1 empty
    cases rest with
    | nil => exact filled (by simpa using ends.symm)
    | cons segment rest => exact other segment rest rfl

theorem names_enter_admin (file special : Bool) (passed : List (List Char)) :
    (Trail.enter file true (encode (inSegmentSet special)) ⟨passed, false⟩ "admin".toList).names =
      passed ++ ["admin".toList] := by
  have written : encode (inSegmentSet special) (withoutBreaks "admin".toList) = "admin".toList := by
    cases special <;> rfl
  have climbs : isDoubleDot "admin".toList = false := by decide
  have rests : isSingleDot "admin".toList = false := by decide
  have drive : isDrive "admin".toList = false := rfl
  have whole : splitAtDrive? "admin".toList = none := rfl
  cases passed with
  | nil => cases file <;> simp only [Trail.enter, written, climbs, rests, drive, whole] <;> rfl
  | cons name passed => simp only [Trail.enter, written, climbs, rests]; cases file <;> rfl

/-- Segments that end in one that is not empty are firm, unless they are of a file and begin with an
empty one. -/
theorem firm_map {names : List (List Char)} {last : List Char} (ends : names.getLast? = some last)
    (filled : last ≠ []) (begins : scheme = "file" → names.head? ≠ some []) :
    Firm scheme (names.map String.ofList) where
  ne_nil := by
    intro empty
    simp [List.map_eq_nil_iff.1 empty] at ends
  ne_empty := by
    intro empty
    have last : (names.map String.ofList).getLast? = some "" := by rw [empty]; rfl
    rw [List.getLast?_map, ends, Option.map_some, Option.some.injEq] at last
    exact filled (String.ofList_injective last)
  file := by
    intro file empty
    rw [List.head?_map, Option.map_eq_some_iff] at empty
    obtain ⟨first, head, same⟩ := empty
    exact begins file (head.trans (congrArg some (String.ofList_injective same)))

/-- Below any address, the name of the administration is behind all that could be dropped. -/
theorem firm_push_admin (scheme : String) (path : List String) :
    Firm scheme (push scheme path "admin") := by
  obtain ⟨passed, pushed⟩ : ∃ passed : List (List Char), push scheme path "admin" =
      (if scheme == "file" then Trail.dropEmptyFront (passed ++ ["admin".toList])
        else passed ++ ["admin".toList]).map String.ofList := by
    refine ⟨if path = [""] then [] else path.map String.toList, ?_⟩
    rw [← names_enter_admin (scheme == "file") (isSpecial scheme)]
    rfl
  have filled : "admin".toList ≠ [] := by decide
  have last : (passed ++ ["admin".toList]).getLast? = some "admin".toList := by simp
  rw [pushed]
  split
  · obtain ⟨ends, begins⟩ := dropEmptyFront_spec last filled
    exact firm_map ends filled fun _ => begins
  · next other => exact firm_map last filled fun file => absurd file (by simpa using other)

end Url

namespace AdminClient

/-- The names that the segments of a request leave behind. -/
def standing (c : AdminClient) (segments : List String) : List (List Char) :=
  segments.foldl (Url.stand (Url.isSpecial c.base.url.scheme)) ["realms".toList]

theorem endpoint_path (c : AdminClient) : ∃ front, ∀ segments, c.endpoint segments =
    { c.base.url with
      path := .segments (front ++ Url.written (Url.isSpecial c.base.url.scheme)
        (c.standing segments)) } := by
  have firm := Url.firm_push_admin c.base.url.scheme (Url.dropEmptyEnd c.base.names)
  refine ⟨Url.push c.base.url.scheme (Url.dropEmptyEnd c.base.names) "admin", fun segments => ?_⟩
  have stands : ["realms".toList] ≠ [] := List.cons_ne_nil _ _
  have realms : Url.push _ (_ ++ Url.written _ []) "realms" = _ := Url.push_append firm nofun
  rw [Url.stand_of_ordinary Url.ordinary_realms] at realms
  rw [endpoint, Url.Base.below, List.foldl_cons, List.foldl_cons, standing,
    ← Url.foldl_push_append firm stands]
  simpa [Url.written] using congrArg (segments.foldl (Url.push c.base.url.scheme)) realms

theorem endpoint_eq_iff_standing {c : AdminClient} {segments segments' : List String} :
    c.endpoint segments = c.endpoint segments' ↔ c.standing segments = c.standing segments' := by
  obtain ⟨front, path⟩ := c.endpoint_path
  rw [path, path]
  constructor
  · intro same
    have names := Url.Path.segments.inj (congrArg Url.path same)
    exact Url.written_injective _ (List.append_cancel_left names)
  · intro same
    rw [same]

/-- The addresses of a client's requests are told apart by their texts. -/
theorem text_endpoint_eq_iff {c : AdminClient} {segments segments' : List String} :
    (c.endpoint segments).text = (c.endpoint segments').text ↔
      c.endpoint segments = c.endpoint segments' := by
  rw [endpoint_eq_iff_standing]
  obtain ⟨front, path⟩ := c.endpoint_path
  rw [path, path]
  exact Url.text_eq_iff _ front _ _ _

/-- Two requests have the same address exactly if their segments leave the same names behind; segments
without tabs and line breaks that are neither `.` nor `..` are the names they leave behind.  Whether two
addresses are the same can be told from their texts. -/
theorem endpoint_eq_iff (c : AdminClient) (segments segments' : List String) :
    (c.endpoint segments = c.endpoint segments' ↔ c.standing segments = c.standing segments') ∧
      ((∀ s ∈ segments ++ segments', Url.Ordinary s) →
        (c.endpoint segments = c.endpoint segments' ↔ segments = segments')) ∧
      ((c.endpoint segments).text = (c.endpoint segments').text ↔
        c.endpoint segments = c.endpoint segments') := by
  refine ⟨endpoint_eq_iff_standing, fun ordinary => endpoint_eq_iff_standing.trans ?_,
    text_endpoint_eq_iff⟩
  have left : c.standing segments = ["realms".toList] ++ segments.map String.toList :=
    Url.foldl_stand_of_ordinary fun s mem => ordinary s (by simp [mem])
  have right : c.standing segments' = ["realms".toList] ++ segments'.map String.toList :=
    Url.foldl_stand_of_ordinary fun s mem => ordinary s (by simp [mem])
  rw [left, right, List.append_cancel_left_eq]
  exact (List.map_injective_iff.2 fun _ _ => String.toList_injective).eq_iff

/-! ### Requests that go elsewhere -/

/-- A client of a server on the same machine. -/
def localClient : AdminClient where
  base :=
    { url := ⟨"http", "", "", some "localhost", none, .segments [""], false, none, none⟩
      names := [""]
      path_eq := rfl }

/-- A slash in a name does not make two names of it, nor does it in the text of the address. -/
theorem endpoint_slash :
    localClient.endpoint ["a/b"] ≠ localClient.endpoint ["a", "b"] ∧
      (localClient.endpoint ["a/b"]).text ≠ (localClient.endpoint ["a", "b"]).text := by
  have ordinary : ∀ s ∈ ["a/b"] ++ ["a", "b"], Url.Ordinary s := by
    simp [Url.ordinary_iff, Url.isBreak]
  obtain ⟨-, listed, told⟩ := endpoint_eq_iff localClient ["a/b"] ["a", "b"]
  have differ := mt (listed ordinary).1 (by decide)
  exact ⟨differ, mt told.1 differ⟩

/-- A request about a realm with a tab in its name goes to the realm without, and one about the role `.`
goes to all roles. -/
theorem endpoint_of_other :
    (localClient.endpoint ["de\tmo"] = localClient.endpoint ["demo"] ∧ ["de\tmo"] ≠ ["demo"]) ∧
      localClient.endpoint ["demo", "roles", "."] = localClient.endpoint ["demo", "roles"] ∧
      ["demo", "roles", "."] ≠ ["demo", "roles"] :=
  ⟨⟨endpoint_eq_iff_standing.2 rfl, by decide⟩, endpoint_eq_iff_standing.2 rfl, by decide⟩

end AdminClient

end RealmSetup
