import Mathlib.Logic.Function.Basic
import RealmSetup.Proofs.Effect.Evaluation
import RealmSetup.Store.FileVault

/-!
# What a store of secrets holds

A run knows its store by three calls only.  `SecretStore` says what those calls have to do for a run to
make sense: a `put` that is acknowledged replaces the secret of one user, a `clear` that is acknowledged
leaves none, and a `get` tells what is held.  Nothing is said about a call that fails.

The store in memory is one (`MemoryVault.store`), and so is the store in a file over any file system
(`FileVault.store`), because it reads from memory and changes its memory first.
-/

namespace RealmSetup

/-- A store of secrets whose acknowledged calls do what they say. -/
structure SecretStore (σ : Type) where
  /-- How calls are answered. -/
  answer : Answering Vault σ
  /-- The secret held for a user. -/
  held : σ → String → Option Secret
  /-- A secret that is kept replaces that of the same user. -/
  held_put : ∀ (user : String) (secret : Secret) (s : σ),
    (((answer (.put user secret)).run s).1 : Except StoreError Unit) = .ok () →
      held ((answer (.put user secret)).run s).2 = Function.update (held s) user (some secret)
  /-- Once all is dropped, nothing is held. -/
  held_clear : ∀ s : σ,
    (((answer .clear).run s).1 : Except StoreError Unit) = .ok () →
      held ((answer .clear).run s).2 = fun _ => none
  /-- What is held can be read. -/
  get_eq : ∀ (user : String) (s : σ),
    (((answer (.get user)).run s).1 : Except StoreError (Option Secret)) = .ok (held s user)

theorem KeyMap.get?_insert_eq_update {α : Type} (m : KeyMap α) (k : String) (v : α) :
    (m.insert k v).get? = Function.update m.get? k (some v) := by
  funext l
  rw [KeyMap.get?_insert, Function.update_apply]
  simp only [eq_comm]

/-- The store in memory. -/
def MemoryVault.store : SecretStore MemoryVault where
  answer c := fun v => v.serve c
  held v := v.secrets.get?
  held_put user secret v _ := v.secrets.get?_insert_eq_update user secret
  held_clear _ _ := rfl
  get_eq _ _ := rfl

/-- The store in a file, with whatever file system. -/
def FileVault.store {δ : Type} (files : Answering Files δ) : SecretStore (FileVault × δ) where
  answer c := fun (v, d) =>
    let ((result, v), d) := (v.serve c).eval files d
    (result, v, d)
  held v := v.1.secrets.get?
  held_put user secret v _ := by
    simp only [StateT.run, FileVault.serve, Program.eval_bind]
    exact v.1.secrets.get?_insert_eq_update user secret
  held_clear v _ := by
    simp only [StateT.run, FileVault.serve, Program.eval_bind]
    rfl
  get_eq _ _ := rfl

end RealmSetup
