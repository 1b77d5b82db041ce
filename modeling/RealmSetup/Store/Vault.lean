import RealmSetup.Error
import RealmSetup.Effect.Program
import RealmSetup.KeyMap
import RealmSetup.Secret

/-!
# Stores of secrets

A store keeps one secret for each name of a user, for the time of a run.  `MemoryVault` keeps them in
memory and never fails.
-/

namespace RealmSetup

/-- A call to a store of secrets. -/
inductive Vault.Call where
  /-- Keeps a secret for a user, in place of an earlier one. -/
  | put (user : String) (secret : Secret)
  | get (user : String)
  | clear

abbrev Vault.Answer : Vault.Call → Type
  | .put _ _ => Except StoreError Unit
  | .get _ => Except StoreError (Option Secret)
  | .clear => Except StoreError Unit

/-- A store of secrets. -/
def Vault : Interface where
  Call := Vault.Call
  Answer := Vault.Answer

/-- A store in memory. -/
structure MemoryVault where
  secrets : KeyMap Secret

namespace MemoryVault

/-- A store without secrets. -/
def start : MemoryVault := ⟨.empty⟩

def serve (v : MemoryVault) : (c : Vault.Call) → Vault.Answer c × MemoryVault
  | .put user secret => (.ok (), ⟨v.secrets.insert user secret⟩)
  | .get user => (.ok (v.secrets.get? user), v)
  | .clear => (.ok (), .start)

def size (v : MemoryVault) : Nat := v.secrets.size

def isEmpty (v : MemoryVault) : Bool := v.secrets.entries.isEmpty

end MemoryVault

end RealmSetup
