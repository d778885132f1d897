import Bookkeeping.Proofs.Transaction

set_option autoImplicit false

/-! # What a call performs

A whole execution of a call in one statement: `p.Performs clock w ops r v` says that in the world `w` it
performs the operations `ops`, ends with `r` and leaves the world `v`. The rules here follow the way in
which procedures are put together. Other than `Procedure.Yields`, which forgets the faults, this tells
which faults have struck and how often the store was asked. -/

namespace Bookkeeping.Procedure

variable {α β : Type} {clock : Clock} {u v w : World} {ops ops' : List Op}

/-- The operations that a call performs, in their order. -/
def performed (clock : Clock) : Procedure α → World → List Op
  | .done _, _ => []
  | .note r rest, w => rest.performed clock (w.note r)
  | .step op rest, w =>
      op :: (rest (op.exec clock w).1).performed clock (op.exec clock w).2

/-- In the world `w` the call performs `ops`, ends with `r` and leaves the world `v`. -/
structure Performs (clock : Clock) (p : Procedure α) (w : World) (ops : List Op)
    (r : Except Failure α) (v : World) : Prop where
  exec : p.exec clock w = (r, v)
  performed : p.performed clock w = ops

/-! ## Ends and operations -/

theorem performs_done {r : Except Failure α} : (Procedure.done r).Performs clock w [] r w := ⟨rfl, rfl⟩

theorem performs_pure {a : α} : (pure a : Procedure α).Performs clock w [] (.ok a) w := performs_done

theorem performs_perform {op : Op} {r : Except Failure op.Result} (h : op.exec clock w = (r, v)) :
    (perform op).Performs clock w [op] r v := ⟨h, rfl⟩

theorem performs_attempt {op : Op} {r : Except Failure op.Result} (h : op.exec clock w = (r, v)) :
    (attempt op).Performs clock w [op] (.ok r) v := by
  refine ⟨?_, rfl⟩
  show (Except.ok (op.exec clock w).1, (op.exec clock w).2) = (.ok r, v)
  rw [h]

theorem performs_notes (records : List LogRecord) :
    (notes records).Performs clock w [] (.ok ()) { w with log := records.reverse ++ w.log } := by
  induction records generalizing w with
  | nil => exact performs_done
  | cons record rest ih =>
      obtain ⟨hexec, hops⟩ := ih (w := w.note record)
      refine ⟨?_, hops⟩
      show (notes rest).exec clock (w.note record) = _
      rw [hexec, List.reverse_cons, List.append_assoc]
      rfl

theorem performs_log {level : LogLevel} {message : String} :
    (log level message).Performs clock w [] (.ok ()) (w.note ⟨level, .services, message⟩) :=
  performs_notes _

/-! ## Sequences -/

/-- A call that answers is followed by what comes after it. -/
theorem Performs.bind {p : Procedure α} {f : α → Procedure β} {a : α} {r : Except Failure β}
    (hp : p.Performs clock w ops (.ok a) v) (hf : (f a).Performs clock v ops' r u) :
    (p >>= f).Performs clock w (ops ++ ops') r u := by
  induction p generalizing w ops with
  | done x =>
      obtain ⟨hexec, rfl⟩ := hp
      cases hexec
      exact hf
  | note record rest ih =>
      have ⟨hexec, hops⟩ := ih ⟨hp.exec, hp.performed⟩
      exact ⟨hexec, hops⟩
  | step op rest ih =>
      obtain ⟨hexec, rfl⟩ := hp
      have ⟨hexec, hops⟩ := ih _ ⟨hexec, rfl⟩
      exact ⟨hexec, congrArg (op :: ·) hops⟩

/-- A call that fails is followed by nothing. -/
theorem Performs.bind_error {p : Procedure α} {f : α → Procedure β} {e : Failure}
    (hp : p.Performs clock w ops (.error e) v) : (p >>= f).Performs clock w ops (.error e) v := by
  induction p generalizing w ops with
  | done x =>
      obtain ⟨hexec, rfl⟩ := hp
      cases hexec
      exact performs_done
  | note record rest ih =>
      have ⟨hexec, hops⟩ := ih ⟨hp.exec, hp.performed⟩
      exact ⟨hexec, hops⟩
  | step op rest ih =>
      obtain ⟨hexec, rfl⟩ := hp
      have ⟨hexec, hops⟩ := ih _ ⟨hexec, rfl⟩
      exact ⟨hexec, congrArg (op :: ·) hops⟩

/-- The answer of a call in another form. -/
theorem Performs.map {p : Procedure α} {f : α → β} {r : Except Failure α}
    (hp : p.Performs clock w ops r v) :
    (do return f (← p) : Procedure β).Performs clock w ops (r.map f) v := by
  cases r with
  | error e => exact hp.bind_error
  | ok a =>
      have h := hp.bind (f := fun a => pure (f a)) performs_pure
      rw [List.append_nil] at h
      exact h

end Bookkeeping.Procedure
