/-!
# Maps keyed by text

A `KeyMap` holds at most one value per key and lists its entries in the order of their keys, which is
the order of code points.  Two maps with the same entries are therefore equal, and a map is read
through `get?`, which `insert` changes at one key only.
-/

namespace RealmSetup

/-- Entries in strictly ascending order of keys. -/
def KeysAscend {α : Type} (entries : List (String × α)) : Prop :=
  entries.Pairwise fun a b => a.1 < b.1

/-- A map from text to values, listed in the order of keys. -/
structure KeyMap (α : Type) where
  /-- The entries in the order of their keys. -/
  entries : List (String × α)
  /-- No key occurs twice, and the order is ascending. -/
  ascend : KeysAscend entries

namespace KeyMap

variable {α β : Type}

/-! ## Operations on entries -/

/-- Puts a value at its place among ascending entries, over an earlier value of the same key. -/
def insertEntry (k : String) (v : α) : List (String × α) → List (String × α)
  | [] => [(k, v)]
  | e :: rest =>
    if k < e.1 then (k, v) :: e :: rest
    else if k = e.1 then (k, v) :: rest
    else e :: insertEntry k v rest

/-- The value of the first entry with the given key. -/
def lookup (k : String) : List (String × α) → Option α
  | [] => none
  | e :: rest => if e.1 = k then some e.2 else lookup k rest

theorem mem_insertEntry {k : String} {v : α} {entries : List (String × α)} {e : String × α}
    (h : e ∈ insertEntry k v entries) : e = (k, v) ∨ e ∈ entries := by
  induction entries with
  | nil => simpa [insertEntry] using h
  | cons f rest ih =>
    simp only [insertEntry] at h
    split at h
    · simpa using h
    · split at h
      · simp only [List.mem_cons] at h ⊢
        exact h.imp_right .inr
      · simp only [List.mem_cons] at h ⊢
        rcases h with h | h
        · exact .inr (.inl h)
        · exact (ih h).imp_right .inr

theorem keysAscend_insertEntry (k : String) (v : α) {entries : List (String × α)}
    (h : KeysAscend entries) : KeysAscend (insertEntry k v entries) := by
  induction entries with
  | nil => simp [insertEntry, KeysAscend]
  | cons e rest ih =>
    have ⟨he, hrest⟩ := List.pairwise_cons.1 h
    simp only [insertEntry]
    split
    · rename_i lt
      refine List.pairwise_cons.2 ⟨fun f hf => ?_, h⟩
      rcases List.mem_cons.1 hf with rfl | hf
      · exact lt
      · exact String.lt_trans lt (he f hf)
    · rename_i notLt
      split
      · rename_i eq
        exact List.pairwise_cons.2 ⟨fun f hf => eq ▸ he f hf, hrest⟩
      · rename_i ne
        refine List.pairwise_cons.2 ⟨fun f hf => ?_, ih hrest⟩
        rcases mem_insertEntry hf with rfl | hf
        · exact Std.lt_of_le_of_ne (String.not_lt.1 notLt) (Ne.symm ne)
        · exact he f hf

/-! ## Maps -/

/-- The map without entries. -/
def empty : KeyMap α := ⟨[], List.Pairwise.nil⟩

instance : Inhabited (KeyMap α) := ⟨empty⟩

/-- The map with the value of `k` set to `v`. -/
def insert (m : KeyMap α) (k : String) (v : α) : KeyMap α :=
  ⟨insertEntry k v m.entries, keysAscend_insertEntry k v m.ascend⟩

def erase (m : KeyMap α) (k : String) : KeyMap α :=
  ⟨m.entries.filter fun e => e.1 ≠ k, m.ascend.filter _⟩

def get? (m : KeyMap α) (k : String) : Option α :=
  lookup k m.entries

/-- The map with the given entries, the last one of a key winning. -/
def ofList (entries : List (String × α)) : KeyMap α :=
  entries.foldl (fun m e => m.insert e.1 e.2) empty

def size (m : KeyMap α) : Nat := m.entries.length

/-- The keys in ascending order. -/
def keys (m : KeyMap α) : List String := m.entries.map Prod.fst

/-- The map with every value replaced by its image. -/
def map (f : α → β) (m : KeyMap α) : KeyMap β where
  entries := m.entries.map fun e => (e.1, f e.2)
  ascend := by
    unfold KeysAscend
    rw [List.pairwise_map]
    exact m.ascend

@[ext] theorem ext {m n : KeyMap α} (h : m.entries = n.entries) : m = n := by
  cases m
  cases n
  cases h
  rfl

instance [DecidableEq α] : DecidableEq (KeyMap α) := fun m n =>
  decidable_of_iff (m.entries = n.entries) ⟨ext, fun h => h ▸ rfl⟩

/-! ## What a key is mapped to -/

theorem lookup_insertEntry (k l : String) (v : α) (entries : List (String × α)) :
    lookup l (insertEntry k v entries) = if k = l then some v else lookup l entries := by
  induction entries with
  | nil => simp [insertEntry, lookup]
  | cons e rest ih =>
    simp only [insertEntry]
    split
    · simp [lookup]
    · split
      · rename_i eq
        by_cases h : k = l <;> simp [lookup, ← eq, h]
      · rename_i ne
        by_cases h : k = l
        · have : e.1 ≠ l := fun h' => ne (h.trans h'.symm)
          simp only [lookup, if_neg this, ih, if_pos h]
        · simp [lookup, ih, h]

@[simp] theorem get?_empty (k : String) : (empty : KeyMap α).get? k = none :=
  rfl

theorem get?_insert (m : KeyMap α) (k l : String) (v : α) :
    (m.insert k v).get? l = if k = l then some v else m.get? l :=
  lookup_insertEntry k l v m.entries

theorem lookup_filter (k l : String) (entries : List (String × α)) :
    lookup l (entries.filter fun e => e.1 ≠ k) = if k = l then none else lookup l entries := by
  induction entries with
  | nil => simp [lookup]
  | cons e rest ih =>
    by_cases h : e.1 = k
    · rw [List.filter_cons_of_neg (by simpa using h), ih]
      by_cases hl : k = l
      · simp [hl]
      · have : e.1 ≠ l := fun h' => hl (h.symm.trans h')
        simp [lookup, hl, this]
    · rw [List.filter_cons_of_pos (by simpa using h)]
      by_cases hl : k = l
      · have : e.1 ≠ l := fun h' => h (h'.trans hl.symm)
        rw [lookup, if_neg this, ih, if_pos hl, if_pos hl]
      · rw [lookup, lookup, ih, if_neg hl, if_neg hl]

theorem get?_erase (m : KeyMap α) (k l : String) :
    (m.erase k).get? l = if k = l then none else m.get? l :=
  lookup_filter k l m.entries

/-! ## Entries in order -/

/-- A key after all others is put at the end. -/
theorem insertEntry_of_forall_lt {k : String} (v : α) {entries : List (String × α)}
    (h : ∀ e ∈ entries, e.1 < k) : insertEntry k v entries = entries ++ [(k, v)] := by
  induction entries with
  | nil => rfl
  | cons e rest ih =>
    have before : e.1 < k := h e List.mem_cons_self
    have other : k ≠ e.1 := fun same => String.lt_irrefl e.1 (same ▸ before)
    rw [insertEntry, if_neg (String.lt_asymm before), if_neg other,
      ih fun f hf => h f (List.mem_cons_of_mem e hf), List.cons_append]

theorem entries_foldl_insert (m : KeyMap α) {entries : List (String × α)}
    (h : KeysAscend (m.entries ++ entries)) :
    (entries.foldl (fun m e => m.insert e.1 e.2) m).entries = m.entries ++ entries := by
  induction entries generalizing m with
  | nil => rw [List.append_nil]; rfl
  | cons e rest ih =>
    have last : (m.insert e.1 e.2).entries = m.entries ++ [e] :=
      insertEntry_of_forall_lt e.2 fun f hf =>
        (List.pairwise_append.1 h).2.2 f hf e List.mem_cons_self
    rw [List.foldl_cons, ih, last, List.append_assoc, List.singleton_append]
    rwa [last, List.append_assoc, List.singleton_append]

/-- A map is put together again from its entries. -/
theorem ofList_entries (m : KeyMap α) : ofList m.entries = m :=
  ext (entries_foldl_insert empty m.ascend)

end KeyMap

end RealmSetup
