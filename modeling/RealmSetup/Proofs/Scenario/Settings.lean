import Mathlib.Data.List.Nodup
import Std.Data.String.ToNat
import RealmSetup.Scenario.Settings

/-!
# What the settings are told by

The authenticator is given its settings as a map of texts.  `OtpSettings.Key` is what there is to tell:
each key has a name of its own (`OtpSettings.Key.name_inj`) and stands for one part of the settings, which
may be given or not.  The map holds the keys that are given, each with its text, and nothing else
(`OtpSettings.get?_toMap`), and the texts determine the settings (`OtpSettings.toMap_tells`).
-/

namespace RealmSetup

/-! ## Writing what is given -/

namespace KeyMap

variable {α κ : Type} {name : κ → String} {given? : κ → Option α} {m : KeyMap α} {k : κ}
  {key : String} {v : α}

/-- Writes the value of a key, if one is given. -/
def writeGiven (name : κ → String) (given? : κ → Option α) (m : KeyMap α) (k : κ) : KeyMap α :=
  (given? k).elim m (m.insert (name k))

theorem get?_writeGiven : (m.writeGiven name given? k).get? key =
    if name k = key then (given? k).or (m.get? key) else m.get? key := by
  unfold writeGiven
  cases given? k with
  | none => simp
  | some v => rw [Option.elim_some, get?_insert, Option.some_or]

theorem get?_foldl_writeGiven_of_not_mem {keys : List κ} (other : key ∉ keys.map name) :
    (keys.foldl (writeGiven name given?) m).get? key = m.get? key := by
  induction keys generalizing m with
  | nil => rfl
  | cons k keys ih =>
    rw [List.map_cons, List.mem_cons, not_or] at other
    rw [List.foldl_cons, ih other.2, get?_writeGiven, if_neg (Ne.symm other.1)]

/-- Keys that differ in their names do not write over one another. -/
theorem get?_foldl_writeGiven {keys : List κ} (apart : (keys.map name).Nodup) (hk : k ∈ keys) :
    (keys.foldl (writeGiven name given?) m).get? (name k) = (given? k).or (m.get? (name k)) := by
  induction keys generalizing m with
  | nil => cases hk
  | cons k' keys ih =>
    obtain ⟨first, apart⟩ := List.nodup_cons.1 apart
    rw [List.foldl_cons]
    rcases List.mem_cons.1 hk with rfl | later
    · rw [get?_foldl_writeGiven_of_not_mem first, get?_writeGiven, if_pos rfl]
    · have differs : name k' ≠ name k := fun same => first (same ▸ List.mem_map_of_mem later)
      rw [ih apart later, get?_writeGiven, if_neg differs]

end KeyMap

/-! ## The keys -/

namespace OtpSettings

/-- What trust is put in. -/
inductive Trusted where
  | ip
  | device
  deriving DecidableEq, Repr

def Trusted.name : Trusted → String
  | .ip => "ip-trust"
  | .device => "device-trust"

/-- The setting of trust. -/
def Trusted.of (s : OtpSettings) : Trusted → Trust
  | .ip => s.ipTrust
  | .device => s.deviceTrust

/-- A key that settings are told by. -/
inductive Key where
  | userRole
  | negateUserRole
  | alphabet
  | length
  | lifetime
  /-- Whether there is trust. -/
  | enabled (trusted : Trusted)
  /-- How long there is trust. -/
  | duration (trusted : Trusted)
  | onlyWhenSole
  deriving DecidableEq, Repr

namespace Key

def name : Key → String
  | userRole => "user-role"
  | negateUserRole => "negate-user-role"
  | alphabet => "code-alphabet"
  | length => "code-length"
  | lifetime => "code-lifetime"
  | enabled trusted => trusted.name ++ "-enabled"
  | duration trusted => trusted.name ++ "-duration"
  | onlyWhenSole => "trust-only-when-sole"

/-- The keys in the order in which they are written. -/
def all : List Key :=
  [userRole, negateUserRole, alphabet, length, lifetime, enabled .ip, duration .ip, enabled .device,
    duration .device, onlyWhenSole]

theorem mem_all (k : Key) : k ∈ all := by
  rcases k with _ | _ | _ | _ | _ | (_ | _) | (_ | _) | _ <;> decide

theorem nodup_names : (all.map name).Nodup := by decide +kernel

theorem name_inj {k k' : Key} : k.name = k'.name ↔ k = k' :=
  ⟨List.inj_on_of_nodup_map nodup_names (mem_all k) (mem_all k'), congrArg name⟩

/-- The part of the settings that a key stands for is given. -/
def Given (s : OtpSettings) : Key → Prop
  | userRole | negateUserRole => s.userRole ≠ none
  | alphabet | length | lifetime => True
  | enabled trusted => trusted.of s ≠ .unset
  | duration trusted => ∃ d, trusted.of s = .enabled d
  | onlyWhenSole => s.trustOnlyWhenSole ≠ none

/-- The text of a key, if what it stands for is given. -/
def text? (s : OtpSettings) : Key → Option String
  | userRole => s.userRole
  | negateUserRole => s.userRole.map fun _ => "false"
  | alphabet => some s.alphabet
  | length => some (toString s.length.toNat)
  | lifetime => some (toString s.lifetimeSecs.toNat)
  | enabled trusted =>
    match trusted.of s with
    | .unset => none
    | .disabled => some "false"
    | .enabled _ => some "true"
  | duration trusted =>
    match trusted.of s with
    | .unset | .disabled => none
    | .enabled d => some (toString d.toNat)
  | onlyWhenSole => s.trustOnlyWhenSole.map toString

theorem exists_text?_iff (s : OtpSettings) (k : Key) : (∃ v, k.text? s = some v) ↔ k.Given s := by
  cases k with
  | userRole => exact Option.ne_none_iff_exists'.symm
  | negateUserRole => cases h : s.userRole <;> simp [text?, Given, h]
  | alphabet | length | lifetime => simp [text?, Given]
  | enabled trusted | duration trusted => cases h : trusted.of s <;> simp [text?, Given, h]
  | onlyWhenSole => cases h : s.trustOnlyWhenSole <;> simp [text?, Given, h]

end Key

/-! ## The map -/

variable {s t : OtpSettings} {key v : String}

theorem write_eq (s : OtpSettings) (trusted : Trusted) (m : KeyMap String) :
    (trusted.of s).write trusted.name m =
      [Key.enabled trusted, Key.duration trusted].foldl (KeyMap.writeGiven Key.name (Key.text? s)) m := by
  cases h : trusted.of s <;> simp [Trust.write, KeyMap.writeGiven, Key.text?, Key.name, h]

/-- The map is made by writing what is given, key by key. -/
theorem toMap_eq_foldl (s : OtpSettings) :
    s.toMap = Key.all.foldl (KeyMap.writeGiven Key.name (Key.text? s)) .empty := by
  have ip := write_eq s .ip
  have device := write_eq s .device
  simp only [List.foldl_cons, List.foldl_nil, Trusted.of, Trusted.name] at ip device
  simp only [Key.all, List.foldl_cons, List.foldl_nil, ← ip, ← device, toMap]
  cases hrole : s.userRole <;> cases hsole : s.trustOnlyWhenSole <;>
    simp [KeyMap.writeGiven, Key.text?, Key.name, hrole, hsole]

theorem get?_toMap_name (s : OtpSettings) (k : Key) : s.toMap.get? k.name = k.text? s := by
  rw [toMap_eq_foldl, KeyMap.get?_foldl_writeGiven Key.nodup_names (Key.mem_all k), KeyMap.get?_empty,
    Option.or_none]

/-- The map holds what is given, under the names of its keys. -/
theorem get?_toMap : s.toMap.get? key = some v ↔ ∃ k : Key, k.name = key ∧ k.text? s = some v := by
  constructor
  · intro found
    by_cases known : key ∈ Key.all.map Key.name
    · obtain ⟨k, -, rfl⟩ := List.mem_map.1 known
      exact ⟨k, rfl, (get?_toMap_name s k).symm.trans found⟩
    · rw [toMap_eq_foldl, KeyMap.get?_foldl_writeGiven_of_not_mem known, KeyMap.get?_empty] at found
      cases found
  · rintro ⟨k, rfl, told⟩
    exact (get?_toMap_name s k).trans told

/-! ## What the texts tell -/

theorem trust_eq_of_text? (trusted : Trusted)
    (enabled : (Key.enabled trusted).text? s = (Key.enabled trusted).text? t)
    (duration : (Key.duration trusted).text? s = (Key.duration trusted).text? t) :
    trusted.of s = trusted.of t := by
  cases hs : trusted.of s <;> cases ht : trusted.of t <;>
    simp [Key.text?, hs, ht] at enabled duration ⊢
  exact UInt32.toNat_inj.1 duration

theorem eq_of_text? (h : ∀ k : Key, k.text? s = k.text? t) : s = t := by
  have role : s.userRole = t.userRole := h .userRole
  have alphabet : s.alphabet = t.alphabet := Option.some.inj (h .alphabet)
  have length : s.length = t.length :=
    UInt32.toNat_inj.1 (Nat.repr_inj.1 (Option.some.inj (h .length)))
  have lifetime : s.lifetimeSecs = t.lifetimeSecs :=
    UInt64.toNat_inj.1 (Nat.repr_inj.1 (Option.some.inj (h .lifetime)))
  have ip : s.ipTrust = t.ipTrust := trust_eq_of_text? .ip (h _) (h _)
  have device : s.deviceTrust = t.deviceTrust := trust_eq_of_text? .device (h _) (h _)
  have flags : ∀ a b : Bool, toString a = toString b → a = b := by decide
  have sole : s.trustOnlyWhenSole = t.trustOnlyWhenSole :=
    Option.map_injective flags (h .onlyWhenSole)
  cases s
  cases t
  simp_all

/-- Settings are told by their maps: different settings have different maps, and a map has a key exactly
where what the key stands for is given. -/
theorem toMap_tells (s : OtpSettings) :
    (∀ t : OtpSettings, s.toMap = t.toMap ↔ s = t) ∧
      ∀ key, (∃ v, s.toMap.get? key = some v) ↔ ∃ k : Key, k.name = key ∧ k.Given s := by
  refine ⟨fun t => ⟨fun same => eq_of_text? fun k => ?_, congrArg toMap⟩, fun key => ?_⟩
  · rw [← get?_toMap_name s, same, get?_toMap_name]
  · simp only [get?_toMap, ← Key.exists_text?_iff]
    constructor
    · rintro ⟨v, k, named, h⟩
      exact ⟨k, named, v, h⟩
    · rintro ⟨k, named, v, h⟩
      exact ⟨v, k, named, h⟩

end OtpSettings

end RealmSetup
