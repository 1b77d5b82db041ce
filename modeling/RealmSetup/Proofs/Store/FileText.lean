import RealmSetup.Proofs.Json.Reading
import RealmSetup.Proofs.Text.Encoding
import RealmSetup.Store.FileVault

/-!
# A store is read from its file as it was written

The file of a store holds one object with a member on each line, in the order of the users.  Reading it
goes through these lines one by one (`readMembers_lines`) and puts the members into a map in the same
order, so that the map is the one that was written (`secretsIn_bytesOf`), whatever characters the names
of users and the secrets are made of.
-/

namespace RealmSetup

namespace FileVault

open Json Json.Raw

/-! ## Lines -/

/-- The lines of some members, with the brace that closes the object. -/
def lines (entries : List (String × Secret)) : List Char :=
  [',', '\n'].intercalate (entries.map memberLine) ++ ['\n', '\x7d']

theorem memberLine_eq (e : String × Secret) :
    memberLine e = ' ' :: ' ' :: '"' :: textMember e.1 e.2.expose := by
  rw [memberLine, quote_eq_cons, textMember]
  rfl

theorem lines_singleton (e : String × Secret) :
    lines [e] = ' ' :: ' ' :: '"' :: textMember e.1 e.2.expose ++ ['\n', '\x7d'] := by
  rw [lines, List.map_singleton, List.intercalate_singleton, memberLine_eq]

theorem lines_cons_cons (e f : String × Secret) (rest : List (String × Secret)) :
    lines (e :: f :: rest) =
      ' ' :: ' ' :: '"' :: textMember e.1 e.2.expose ++ ',' :: '\n' :: lines (f :: rest) := by
  rw [lines, List.map_cons, List.map_cons, List.intercalate_cons_cons, memberLine_eq, lines,
    List.map_cons]
  simp only [List.cons_append, List.append_assoc, List.nil_append]

theorem length_lines (entries : List (String × Secret)) : entries.length ≤ (lines entries).length := by
  induction entries with
  | nil => exact Nat.zero_le _
  | cons e rest ih =>
    cases rest with
    | nil => rw [lines_singleton]; simp
    | cons f rest =>
      rw [lines_cons_cons]
      simp only [List.length_append, List.length_cons] at ih ⊢
      omega

theorem textOf_of_cons {m : KeyMap Secret} {e : String × Secret} {rest : List (String × Secret)}
    (h : m.entries = e :: rest) : textOf m = '\x7b' :: '\n' :: lines (e :: rest) := by
  rw [textOf, h]
  rfl

/-! ## Reading -/

/-- A secret as a value that was read. -/
def rawSecret (s : Secret) : Raw := .text (some s.expose)

theorem decoder_rawSecret (s : Secret) : Secret.decoder (rawSecret s) = .ok s :=
  rfl

/-- Reading goes from line to line, from the quote that opens the first name. -/
theorem readMembers_lines (fuel : Nat) (e : String × Secret) (rest : List (String × Secret)) :
    ∃ gs, skipBlanks ((lines (e :: rest)).map Glyph.char) = .char '"' :: gs ∧
      readMembers (fuel + rest.length + 2) gs =
        ((e :: rest).map fun e => (some e.1, rawSecret e.2), true, []) := by
  induction rest generalizing e with
  | nil =>
    refine ⟨(textMember e.1 e.2.expose).map Glyph.char ++ ['\n', '\x7d'].map Glyph.char, ?_, ?_⟩
    · rw [lines_singleton, ← List.map_append]
      rfl
    · exact readMembers_last _ _ _ rfl
  | cons f rest ih =>
    obtain ⟨gs, blanks, read⟩ := ih f
    refine ⟨(textMember e.1 e.2.expose).map Glyph.char ++
      (',' :: '\n' :: lines (f :: rest)).map Glyph.char, ?_, ?_⟩
    · rw [lines_cons_cons, ← List.map_append]
      rfl
    · have next : skipBlanks (('\n' :: lines (f :: rest)).map Glyph.char) = .char '"' :: gs := blanks
      have comma : skipBlanks ((',' :: '\n' :: lines (f :: rest)).map Glyph.char) =
          .char ',' :: ('\n' :: lines (f :: rest)).map Glyph.char := rfl
      have line := readMembers_more (fuel + rest.length + 1) e.1 e.2.expose comma next
      rw [read] at line
      exact line

/-- The text of a store is an object with a member for each secret. -/
theorem read_textOf (m : KeyMap Secret) :
    Raw.read ((textOf m).map Glyph.char) =
      (.object (m.entries.map fun e => (some e.1, rawSecret e.2)) true, []) := by
  cases h : m.entries with
  | nil =>
    rw [textOf, h]
    rfl
  | cons e rest =>
    have long := length_lines (e :: rest)
    rw [textOf_of_cons h, Raw.read]
    simp only [List.length_map, List.length_cons] at long ⊢
    obtain ⟨fuel, enough⟩ : ∃ fuel,
        2 * ((lines (e :: rest)).length + 1 + 1) + 2 = fuel + rest.length + 2 + 1 :=
      ⟨2 * (lines (e :: rest)).length + 3 - rest.length, by omega⟩
    obtain ⟨gs, blanks, read⟩ := readMembers_lines fuel e rest
    have next : skipBlanks (('\n' :: lines (e :: rest)).map Glyph.char) = .char '"' :: gs := blanks
    rw [enough, List.map_cons, readValue]
    simp only [skipBlanks, Glyph.char.injEq, Char.reduceEq, or_self, if_false, next, read]

/-- A store that was written is read as it was. -/
theorem secretsIn_bytesOf (m : KeyMap Secret) : secretsIn (bytesOf m) = .ok m := by
  have written : (String.ofList (textOf m)).toList ≠ [] := by
    rw [String.toList_ofList, textOf]
    split <;> exact List.cons_ne_nil _ _
  have glyphs : Utf8.glyphs (bytesOf m) = (textOf m).map Glyph.char := by
    rw [bytesOf, Utf8.glyphs_encode, glyphsOf, String.toList_ofList]
  have members := decodeMembers_entries decoder_rawSecret .empty m.entries
  have object : dict Secret.decoder (.object (m.entries.map fun e => (some e.1, rawSecret e.2)) true) =
      .ok m := by
    rw [dict, members]
    exact congrArg Except.ok m.ofList_entries
  rw [secretsIn, if_neg (by simpa [bytesOf] using Utf8.encode_ne_nil written), glyphs]
  simp only [decodeAll, read_textOf, object]
  rfl

end FileVault

end RealmSetup
