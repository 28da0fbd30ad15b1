import Understudy.Failure
import Understudy.Notice

/-!
# Steps that report and may fail

An attempt gives a value or a failure, and in either case the notices reported on the way.
-/

set_option autoImplicit false

namespace Understudy

/-- The notices of a step and what came of it. -/
structure Attempt (α : Type) where
  notices : List Notice
  outcome : Except Failure α

namespace Attempt

variable {α β : Type}

/-- A value without any notice. -/
def ok (a : α) : Attempt α := ⟨[], .ok a⟩

/-- A failure without any notice. -/
def fail (e : Failure) : Attempt α := ⟨[], .error e⟩

/-- Reports notices. -/
def report (ns : List Notice) : Attempt Unit := ⟨ns, .ok ()⟩

/-- What came of a step that reports nothing. -/
def ofExcept (r : Except Failure α) : Attempt α := ⟨[], r⟩

/-- One step after the other. A failure ends the row. -/
def andThen (a : Attempt α) (f : α → Attempt β) : Attempt β :=
  match a.outcome with
  | .error e => ⟨a.notices, .error e⟩
  | .ok x => ⟨a.notices ++ (f x).notices, (f x).outcome⟩

instance : Monad Attempt where
  pure := ok
  bind := andThen

end Attempt

end Understudy
