import Mathlib.Data.List.Nodup
import RealmSetup.KeyMap

/-!
# Maps and their entries

A map is put together from entries in any order, and of two entries with one key the later one counts
(`lookup_entries_ofList`).  Two maps are the same if they hold the same entries in some order
(`eq_of_perm`), or the same value under every key (`ext_lookup`).
-/

namespace RealmSetup

namespace KeyMap

variable {α : Type} {entries : List (String × α)}

/-! ## Looking up -/

@[simp] theorem lookup_nil (k : String) : lookup k ([] : List (String × α)) = none :=
  rfl

@[simp] theorem lookup_cons (e : String × α) (rest : List (String × α)) (k : String) :
    lookup k (e :: rest) = if e.1 = k then some e.2 else lookup k rest :=
  rfl

theorem lookup_eq_some_iff (h : (entries.map Prod.fst).Nodup) {k : String} {v : α} :
    lookup k entries = some v ↔ (k, v) ∈ entries := by
  induction entries with
  | nil => simp [lookup]
  | cons e rest ih =>
    obtain ⟨other, distinct⟩ := List.nodup_cons.1 h
    rw [lookup]
    split
    · next same =>
      subst same
      have absent : (e.1, v) ∉ rest := fun found =>
        other (List.mem_map.2 ⟨(e.1, v), found, rfl⟩)
      simp [absent, Prod.ext_iff, eq_comm]
    · next differs =>
      rw [ih distinct, List.mem_cons, or_iff_right]
      rintro rfl
      exact differs rfl

theorem lookup_eq_none_iff {k : String} : lookup k entries = none ↔ k ∉ entries.map Prod.fst := by
  induction entries with
  | nil => simp [lookup]
  | cons e rest ih =>
    rw [lookup]
    split
    · next same => simp [same]
    · next differs => simp [ih, Ne.symm differs]

theorem mem_of_lookup {k : String} {v : α} (h : lookup k entries = some v) : (k, v) ∈ entries := by
  induction entries with
  | nil => cases h
  | cons e rest ih =>
    rw [lookup] at h
    split at h
    · next same =>
      subst same
      cases h
      exact List.mem_cons_self
    · exact List.mem_cons_of_mem e (ih h)

/-- It does not matter in which order the entries stand. -/
theorem lookup_perm {entries' : List (String × α)} (h : (entries.map Prod.fst).Nodup)
    (perm : entries.Perm entries') (k : String) : lookup k entries = lookup k entries' := by
  refine Option.ext fun v => ?_
  have h' : (entries'.map Prod.fst).Nodup := (perm.map _).nodup_iff.1 h
  rw [lookup_eq_some_iff h, lookup_eq_some_iff h', perm.mem_iff]

/-- Filtering by keys leaves the entries of a key that is kept. -/
theorem lookup_filter_of {p : String → Bool} {k : String} (kept : p k = true) :
    lookup k (entries.filter fun e => p e.1) = lookup k entries := by
  induction entries with
  | nil => rfl
  | cons e rest ih =>
    rw [List.filter_cons, lookup]
    by_cases same : e.1 = k
    · rw [if_pos (same ▸ kept), lookup, if_pos same, if_pos same]
    · rw [if_neg same, ← ih]
      split
      · rw [lookup, if_neg same]
      · rfl

@[simp] theorem lookup_append (entries entries' : List (String × α)) (k : String) :
    lookup k (entries ++ entries') = (lookup k entries).or (lookup k entries') := by
  induction entries with
  | nil => rfl
  | cons e rest ih =>
    rw [List.cons_append, lookup, lookup]
    split
    · rfl
    · exact ih

/-! ## Maps -/

theorem insertEntry_perm {k : String} (v : α) (h : k ∉ entries.map Prod.fst) :
    (insertEntry k v entries).Perm ((k, v) :: entries) := by
  induction entries with
  | nil => exact .refl _
  | cons e rest ih =>
    simp only [List.map_cons, List.mem_cons, not_or] at h
    rw [insertEntry]
    split
    · exact .refl _
    · rw [if_neg h.1]
      exact ((ih h.2).cons e).trans (.swap (k, v) e rest)

theorem entries_foldl_insert_perm (m : KeyMap α) (h : (m.keys ++ entries.map Prod.fst).Nodup) :
    (entries.foldl (fun m e => m.insert e.1 e.2) m).entries.Perm (m.entries ++ entries) := by
  induction entries generalizing m with
  | nil => simp
  | cons e rest ih =>
    have fresh : e.1 ∉ m.entries.map Prod.fst := fun known =>
      (List.nodup_append.1 h).2.2 e.1 known e.1 (by simp) rfl
    have placed : (m.insert e.1 e.2).entries.Perm (e :: m.entries) := insertEntry_perm e.2 fresh
    have moved : (e :: m.entries ++ rest).Perm (m.entries ++ e :: rest) :=
      List.perm_middle.symm
    refine (ih _ ?_).trans ((placed.append_right rest).trans moved)
    rw [keys, ← List.map_append]
    refine (((placed.append_right rest).trans moved).map Prod.fst).nodup_iff.2 ?_
    rwa [List.map_append]

/-- A map has the entries it was made of, where no key occurs twice. -/
theorem entries_ofList_perm (h : (entries.map Prod.fst).Nodup) :
    (ofList entries).entries.Perm entries :=
  entries_foldl_insert_perm empty h

theorem keys_nodup (m : KeyMap α) : (m.entries.map Prod.fst).Nodup := by
  refine List.pairwise_map.2 (m.ascend.imp ?_)
  rintro e f before same
  rw [same] at before
  exact String.lt_irrefl f.1 before

/-- The last entry of a key wins. -/
theorem lookup_entries_ofList (entries : List (String × α)) (k : String) :
    lookup k (ofList entries).entries = lookup k entries.reverse := by
  have along : ∀ m : KeyMap α, lookup k (entries.foldl (fun m e => m.insert e.1 e.2) m).entries =
      (lookup k entries.reverse).or (lookup k m.entries) := by
    induction entries with
    | nil => exact fun _ => rfl
    | cons e rest ih =>
      intro m
      have inserted : lookup k (m.insert e.1 e.2).entries =
          if e.1 = k then some e.2 else lookup k m.entries := get?_insert m e.1 k e.2
      rw [List.foldl_cons, ih, inserted, List.reverse_cons, lookup_append, Option.or_assoc]
      congr 1
      by_cases same : e.1 = k <;> simp [lookup, same]
  exact (along empty).trans Option.or_none

theorem mem_of_mem_entries_ofList {e : String × α} (h : e ∈ (ofList entries).entries) :
    e ∈ entries := by
  have found : lookup e.1 (ofList entries).entries = some e.2 :=
    (lookup_eq_some_iff (ofList entries).keys_nodup).2 h
  rw [lookup_entries_ofList] at found
  exact List.mem_reverse.1 (mem_of_lookup found)

/-- A map is made of its entries, in whatever order they are. -/
theorem eq_of_perm {m n : KeyMap α} (h : m.entries.Perm n.entries) : m = n :=
  ext (h.eq_of_pairwise
    (fun _ _ _ _ before after => absurd (String.lt_trans before after) (String.lt_irrefl _))
    m.ascend n.ascend)

/-- Two maps are the same if they hold the same values. -/
theorem ext_lookup {m n : KeyMap α} (h : ∀ k, lookup k m.entries = lookup k n.entries) : m = n := by
  refine eq_of_perm ((List.perm_ext_iff_of_nodup m.keys_nodup.of_map n.keys_nodup.of_map).2 ?_)
  rintro ⟨k, v⟩
  rw [← lookup_eq_some_iff m.keys_nodup, ← lookup_eq_some_iff n.keys_nodup, h]

end KeyMap

end RealmSetup
