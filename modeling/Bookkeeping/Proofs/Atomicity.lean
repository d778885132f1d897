import Bookkeeping.Proofs.Runs

set_option autoImplicit false

/-! # Atomicity of calls

A session whose call fails leaves accounts, entries, lines and counters exactly as they were: when the
call is refused, when its writes violate a constraint, and when a fault strikes before any of its
statements or before a commit. It rests on `World.transact_fault` (nothing is committed before the
whole transaction is) and on `ServiceCall.allOrNothing` (what may still fail stands before the write). -/

namespace Bookkeeping

namespace Session

/-- A call that fails leaves the store as it was. -/
theorem run_error (x : Session) (s : Store) {f : Failure} (h : (x.run s).1 = .error f) :
    (x.run s).2 = s := by
  have hy := x.run_yields s
  rw [h] at hy
  exact x.call.allOrNothing x.setting _ _ hy

/-- An amount of 10.00 is entered while the disk fails as soon as two statements have got through: the
    counter and the header. -/
def struckAfterHeader : Session where
  call := .moving firstDay (.finite false 1000 (-2)) true
  setting := { clock := .ok default }
  creations := [some (.struck ⟨2, .crash "disk full"⟩)]

/-- The fault strikes between the header and the lines, and neither of them stays. -/
theorem run_error_struckAfterHeader :
    (struckAfterHeader.run (Store.after [opensTwoAccounts])).1 = .error (.crash "disk full") ∧
      (struckAfterHeader.run (Store.after [opensTwoAccounts])).2 =
        Store.after [opensTwoAccounts] := by
  have failed : (struckAfterHeader.run (Store.after [opensTwoAccounts])).1 =
      .error (.crash "disk full") := by
    decide +kernel
  exact ⟨failed, run_error struckAfterHeader _ failed⟩

end Session

end Bookkeeping
