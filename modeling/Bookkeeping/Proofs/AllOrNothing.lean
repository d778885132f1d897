import Bookkeeping.Proofs.Outcome

set_option autoImplicit false

/-! # All or nothing

`p.AllOrNothing clock s R` says of a call on the store `s` that it either fails and leaves the store as
it is, or answers so that `R` holds of the answer and the store after it. A call is put together from
parts that read, at most one part that writes, and parts after it that cannot fail; the rules here
follow that order. -/

namespace Bookkeeping.Procedure

variable {α β : Type} {clock : Clock} {s : Store}

/-- A failure leaves the store as it is, and an answer satisfies `R` together with the store after. -/
def AllOrNothing (clock : Clock) (p : Procedure α) (s : Store) (R : α → Store → Prop) : Prop :=
  ∀ r s', p.Yields clock s r s' →
    match r with
    | .ok a => R a s'
    | .error _ => s' = s

/-- The call only reads, and its answer satisfies `Q`. -/
abbrev Reads (clock : Clock) (p : Procedure α) (s : Store) (Q : α → Prop) : Prop :=
  p.AllOrNothing clock s fun a s' => s' = s ∧ Q a

/-- The call cannot fail. -/
def Succeeds (clock : Clock) (p : Procedure α) (s : Store) (R : α → Store → Prop) : Prop :=
  ∀ r s', p.Yields clock s r s' → ∃ a, r = .ok a ∧ R a s'

/-! ## Ends of a call -/

theorem allOrNothing_pure {a : α} {R : α → Store → Prop} (h : R a s) :
    (pure a : Procedure α).AllOrNothing clock s R := by
  rintro r s' ⟨rfl, rfl⟩
  exact h

theorem allOrNothing_fail {f : Failure} {R : α → Store → Prop} :
    (fail f : Procedure α).AllOrNothing clock s R := by
  rintro r s' ⟨rfl, rfl⟩
  rfl

theorem allOrNothing_reject {e : LedgerError} {R : α → Store → Prop} :
    (reject e : Procedure α).AllOrNothing clock s R := allOrNothing_fail

/-- Nothing comes after a broken rule. -/
theorem allOrNothing_reject_bind {e : LedgerError} {f : α → Procedure β} {R : β → Store → Prop} :
    ((reject e : Procedure α) >>= f).AllOrNothing clock s R := allOrNothing_fail

theorem reads_ofExcept {x : Except Failure α} :
    (ofExcept x).Reads clock s fun a => x = .ok a := by
  rintro r s' ⟨rfl, rfl⟩
  cases r with
  | error f => rfl
  | ok a => exact ⟨rfl, rfl⟩

theorem reads_ofAmount {x : Except Decimal.Fault α} :
    (ofAmount x).Reads clock s fun a => x = .ok a := by
  rintro r s' ⟨rfl, rfl⟩
  cases x with
  | error f => rfl
  | ok a => exact ⟨rfl, rfl⟩

/-- An operation has its effect or none. -/
theorem allOrNothing_perform {op : Op} :
    (perform op).AllOrNothing clock s (op.Effect clock s) := by
  intro r s' h
  rw [yields_perform] at h
  cases r with
  | error f => exact h
  | ok a => exact h

theorem succeeds_pure {a : α} {R : α → Store → Prop} (h : R a s) :
    (pure a : Procedure α).Succeeds clock s R := by
  rintro r s' ⟨rfl, rfl⟩
  exact ⟨a, rfl, h⟩

theorem succeeds_log {level : LogLevel} {message : String} :
    (log level message).Succeeds clock s fun _ s' => s' = s := by
  intro r s' h
  rw [yields_log] at h
  obtain ⟨rfl, rfl⟩ := h
  exact ⟨(), rfl, rfl⟩

/-! ## Sequences -/

theorem AllOrNothing.mono {p : Procedure α} {R R' : α → Store → Prop}
    (h : p.AllOrNothing clock s R) (hR : ∀ a s', R a s' → R' a s') :
    p.AllOrNothing clock s R' := by
  intro r s' hp
  have := h r s' hp
  cases r with
  | error f => exact this
  | ok a => exact hR a s' this

/-- A part that has changed nothing may be followed by anything, any other part by one that cannot
    fail. -/
theorem AllOrNothing.bind {p : Procedure α} {f : α → Procedure β} {R : α → Store → Prop}
    {R' : β → Store → Prop} (hp : p.AllOrNothing clock s R)
    (hf : ∀ a t, R a t →
      (t = s ∧ (f a).AllOrNothing clock s R') ∨ (f a).Succeeds clock t R') :
    (p >>= f).AllOrNothing clock s R' := by
  intro r s' h
  rcases yields_bind.mp h with ⟨e, he, rfl⟩ | ⟨a, t, ha, hrest⟩
  · exact (hp _ _ he :)
  · rcases hf a t (hp _ _ ha) with ⟨rfl, hf⟩ | hf
    · exact hf r s' hrest
    · obtain ⟨b, rfl, hR⟩ := hf r s' hrest
      exact hR

/-- What only reads may come before anything. -/
theorem AllOrNothing.afterRead {p : Procedure α} {f : α → Procedure β} {Q : α → Prop}
    {R : β → Store → Prop} (hp : p.Reads clock s Q)
    (hf : ∀ a, Q a → (f a).AllOrNothing clock s R) : (p >>= f).AllOrNothing clock s R :=
  hp.bind fun a _ h => .inl ⟨h.1, hf a h.2⟩

/-- An operation that only reads may come before anything. -/
theorem AllOrNothing.afterLook {op : Op} {f : op.Result → Procedure β} {Q : op.Result → Prop}
    {R : β → Store → Prop} (look : ∀ a s', op.Effect clock s a s' → Q a ∧ s' = s)
    (hf : ∀ a, Q a → (f a).AllOrNothing clock s R) : (perform op >>= f).AllOrNothing clock s R :=
  .afterRead (allOrNothing_perform.mono fun a s' h => (look a s' h).symm) hf

/-- What cannot fail may come after anything. -/
theorem AllOrNothing.thenSucceeds {p : Procedure α} {f : α → Procedure β} {R : α → Store → Prop}
    {R' : β → Store → Prop} (hp : p.AllOrNothing clock s R)
    (hf : ∀ a t, R a t → (f a).Succeeds clock t R') : (p >>= f).AllOrNothing clock s R' :=
  hp.bind fun a t h => .inr (hf a t h)

/-- What cannot fail and only reads may come before anything. -/
theorem Succeeds.thenAllOrNothing {p : Procedure α} {f : α → Procedure β} {R : β → Store → Prop}
    (hp : p.Succeeds clock s fun _ s' => s' = s) (hf : ∀ a, (f a).AllOrNothing clock s R) :
    (p >>= f).AllOrNothing clock s R := by
  refine AllOrNothing.afterRead (Q := fun _ => True) (fun r s' h => ?_) fun a _ => hf a
  obtain ⟨a, rfl, hs⟩ := hp r s' h
  exact ⟨hs, trivial⟩

theorem Succeeds.mono {p : Procedure α} {R R' : α → Store → Prop} (h : p.Succeeds clock s R)
    (hR : ∀ a s', R a s' → R' a s') : p.Succeeds clock s R' := by
  intro r s' hp
  obtain ⟨a, ha, ht⟩ := h r s' hp
  exact ⟨a, ha, hR a s' ht⟩

theorem Succeeds.then {p : Procedure α} {f : α → Procedure β} {R : α → Store → Prop}
    {R' : β → Store → Prop} (hp : p.Succeeds clock s R)
    (hf : ∀ a t, R a t → (f a).Succeeds clock t R') : (p >>= f).Succeeds clock s R' := by
  intro r s' h
  rcases yields_bind.mp h with ⟨e, he, -⟩ | ⟨a, t, ha, h⟩
  · obtain ⟨a, ha, -⟩ := hp _ _ he
    cases ha
  · obtain ⟨b, hb, hR⟩ := hp _ _ ha
    cases hb
    exact hf a t hR r s' h

/-- A note in the log and the answer after it change nothing. -/
theorem succeeds_log_pure {level : LogLevel} {message : String} {a : α} {R : α → Store → Prop}
    (h : R a s) : (do log level message; return a : Procedure α).Succeeds clock s R :=
  succeeds_log.then fun _ _ ht => succeeds_pure (ht ▸ h)

/-- The answer of a call in another form. -/
theorem AllOrNothing.map {p : Procedure α} {f : α → β} {R : β → Store → Prop}
    (hp : p.AllOrNothing clock s fun a => R (f a)) :
    (do return f (← p) : Procedure β).AllOrNothing clock s R :=
  hp.thenSucceeds fun _ _ h => succeeds_pure h

end Bookkeeping.Procedure
