import Bookkeeping.Store.Statement

set_option autoImplicit false

/-! # Writes

A write of an operation is prepared from the store that the operation sees: the statements that it
sends in one transaction, and what it answers once they are committed. When a fault ends the
transaction, the operation undoes what was sent or leaves that to the end of its session. -/

namespace Bookkeeping

/-- A prepared write. -/
structure Write (α : Type) where
  answer : α
  statements : List Statement
  deriving Repr

/-- What an operation does when a fault ends its transaction. -/
structure Handling where
  /-- Does the operation undo what was sent? -/
  rollsBack : WriteFault → Bool
  /-- The failure of the operation. -/
  surface : WriteFault → Failure

namespace Handling

/-- Undo what was sent after every fault. -/
def always (surface : WriteFault → Failure) : Handling := ⟨fun _ => true, surface⟩

/-- Undo what was sent only when a constraint is violated, and fail in that case in another way. -/
def onConstraint (failure : Failure) : Handling where
  rollsBack
    | .constraint _ => true
    | _ => false
  surface
    | .constraint _ => failure
    | f => f.plain

/-- Leave what was sent to the end of the session. -/
def never : Handling := ⟨fun _ => false, WriteFault.plain⟩

end Handling

end Bookkeeping
