import RealmSetup.Effect.Program
import RealmSetup.Error

/-!
# Attempts

An attempt is a program that ends with a value or with an error.  Once an error has arisen nothing
more is called, because the rest of the attempt is not reached.
-/

namespace RealmSetup

/-- A program that ends with a value or an error. -/
abbrev Attempt (I : Interface) (α : Type) : Type := ExceptT Error (Program I) α

namespace Attempt

variable {I : Interface} {α : Type}

/-- The attempt that makes one call, the answer to which may be an error. -/
def ofProgram (p : Program I (Except Error α)) : Attempt I α :=
  ExceptT.mk p

/-- The attempt that makes no call. -/
def ofExcept (result : Except Error α) : Attempt I α :=
  ExceptT.mk (pure result)

end Attempt

end RealmSetup
