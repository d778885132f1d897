import Bookkeeping.Procedure

set_option autoImplicit false

/-! # Transactions

What is committed changes in one step: until the last statement of a transaction and its commit have
gone through, the store is the one from before, wherever a fault strikes (`transact_fault`). So a
write that fails has changed nothing (`write_error`), and one that answers has sent all of its
statements (`write_ok`). -/

namespace Bookkeeping

theorem bind_eq_ok {ε α β : Type} {x : Except ε α} {f : α → Except ε β} {b : β}
    (h : x >>= f = .ok b) : ∃ a, x = .ok a ∧ f a = .ok b := by
  cases x with
  | error e => cases h
  | ok a => exact ⟨a, rfl, h⟩

theorem bind_eq_error {ε α β : Type} {x : Except ε α} {f : α → Except ε β} {e : ε}
    (h : x >>= f = .error e) : x = .error e ∨ ∃ a, x = .ok a ∧ f a = .error e := by
  cases x with
  | error e' =>
      cases h
      exact .inl rfl
  | ok a => exact .inr ⟨a, rfl, h⟩

/-! ## Statements in a row -/

namespace Statement

/-- What statements make of a store one after the other. -/
def applyAll : List Statement → Store → Except WriteFault Store
  | [], s => .ok s
  | x :: rest, s => x.apply s >>= applyAll rest

@[simp] theorem applyAll_nil (s : Store) : applyAll [] s = .ok s := rfl

theorem applyAll_cons_ok {x : Statement} {rest : List Statement} {s s' : Store} :
    applyAll (x :: rest) s = .ok s' ↔ ∃ t, x.apply s = .ok t ∧ applyAll rest t = .ok s' := by
  simp only [applyAll]
  cases x.apply s <;> simp [bind, Except.bind]

theorem applyAll_append_ok {xs ys : List Statement} {s s' : Store} :
    applyAll (xs ++ ys) s = .ok s' ↔ ∃ t, applyAll xs s = .ok t ∧ applyAll ys t = .ok s' := by
  induction xs generalizing s with
  | nil => simp
  | cons x xs ih =>
      simp only [List.cons_append, applyAll_cons_ok, ih]
      constructor
      · rintro ⟨t, hx, u, hxs, hys⟩
        exact ⟨u, ⟨t, hx, hxs⟩, hys⟩
      · rintro ⟨u, ⟨t, hx, hxs⟩, hys⟩
        exact ⟨t, hx, u, hxs, hys⟩

@[simp] theorem violated_ok {condition : Bool} {text : String} {s s' : Store} :
    violated condition text s = .ok s' ↔ condition = false ∧ s' = s := by
  cases condition <;> simp [violated, eq_comm]

end Statement

/-! ## Transactions -/

namespace World

variable {α : Type} {w w' : World}

/-- A statement changes nothing but what its session sees. -/
theorem send_ok {x : Statement} (h : w.send x = .ok w') :
    ∃ s, x.apply w.view = .ok s ∧ w' = { w with pending := some s } := by
  unfold send at h
  cases hx : x.apply w.view with
  | error f => simp [hx, Except.map] at h
  | ok s =>
      simp only [hx, Except.map, Except.ok.injEq] at h
      exact ⟨s, rfl, h.symm⟩

/-- What a transaction does with its first statement. -/
theorem transact_cons {strike : Option Strike} {x : Statement} {rest : List Statement}
    {f : Option WriteFault} (h : w.transact strike (x :: rest) = (f, w')) :
    (f.isSome ∧ w' = w) ∨
      ∃ s, x.apply w.view = .ok s ∧
        transact (strike.map Strike.next) rest { w with pending := some s } = (f, w') := by
  unfold transact at h
  split at h
  · cases h
    exact .inl ⟨rfl, rfl⟩
  · split at h
    · cases h
      exact .inl ⟨rfl, rfl⟩
    · next hs =>
        obtain ⟨s, hx, rfl⟩ := send_ok hs
        exact .inr ⟨s, hx, h⟩

/-- A transaction that a fault ends leaves the store as it was before, whatever had been sent. -/
theorem transact_fault {strike : Option Strike} {xs : List Statement} {f : WriteFault}
    (h : w.transact strike xs = (some f, w')) : w'.store = w.store := by
  -- what was sent is pending only; the store changes after the last statement
  induction xs generalizing w strike with
  | nil =>
      unfold transact at h
      split at h <;> cases h
      rfl
  | cons x xs ih =>
      rcases transact_cons h with ⟨-, rfl⟩ | ⟨s, -, h⟩
      · rfl
      · exact (ih h :)

/-- A transaction that is committed has sent all of its statements. -/
theorem transact_commit {strike : Option Strike} {xs : List Statement}
    (h : w.transact strike xs = (none, w')) :
    w'.pending = none ∧ Statement.applyAll xs w.view = .ok w'.store := by
  induction xs generalizing w strike with
  | nil =>
      unfold transact at h
      split at h <;> cases h
      exact ⟨rfl, rfl⟩
  | cons x xs ih =>
      rcases transact_cons h with ⟨hf, -⟩ | ⟨s, hx, h⟩
      · cases hf
      · obtain ⟨hp, hxs⟩ := ih h
        exact ⟨hp, Statement.applyAll_cons_ok.mpr ⟨s, hx, hxs⟩⟩

theorem transact_faults {strike : Option Strike} {xs : List Statement} {f : Option WriteFault}
    (h : w.transact strike xs = (f, w')) : w'.faults = w.faults := by
  induction xs generalizing w strike with
  | nil =>
      unfold transact at h
      split at h <;> cases h <;> rfl
  | cons x xs ih =>
      rcases transact_cons h with ⟨-, rfl⟩ | ⟨s, -, h⟩
      · rfl
      · exact (ih h :)

/-! ## Writes -/

/-- A write that fails has changed nothing in the store. -/
theorem write_error {k : Handling} {strike : Option Strike} {p : Write α} {f : Failure}
    (h : w.write k strike p = (.error f, w')) : w'.store = w.store := by
  unfold write at h
  split at h
  · cases h
  · split at h
    · cases h
    · next ht =>
        cases h
        split <;> exact (transact_fault ht :)

/-- A write that answers has sent all of its statements, and the store has them. -/
theorem write_ok {k : Handling} {strike : Option Strike} {p : Write α} {a : α}
    (hw : w.pending = none) (h : w.write k strike p = (.ok a, w')) :
    w'.pending = none ∧ a = p.answer ∧ Statement.applyAll p.statements w.store = .ok w'.store := by
  unfold write at h
  split at h
  · next hp =>
      cases h
      rw [List.isEmpty_iff.mp hp]
      exact ⟨hw, rfl, rfl⟩
  · split at h
    · next ht =>
        cases h
        obtain ⟨hp, hs⟩ := transact_commit ht
        exact ⟨hp, rfl, hs⟩
    · cases h

theorem write_faults {k : Handling} {strike : Option Strike} {p : Write α} {r : Except Failure α}
    (h : w.write k strike p = (r, w')) : w'.faults = w.faults := by
  unfold write at h
  split at h
  · cases h
    rfl
  · split at h
    · next ht =>
        cases h
        exact (transact_faults ht :)
    · next ht =>
        cases h
        split <;> exact (transact_faults ht :)

end World

/-- A prepared write was sent as a whole: it answers `a` and makes `s'` of the store `s`. -/
structure Write.Sent {α : Type} (p : Write α) (s : Store) (a : α) (s' : Store) : Prop where
  answer : a = p.answer
  statements : Statement.applyAll p.statements s = .ok s'

namespace World

variable {α : Type} {w w' : World}

/-- A write that could be prepared or not changes the store only when it answers. -/
theorem tryWrite_error {k : Handling} {strike : Option Strike} {r : Except Failure (Write α)}
    {f : Failure} (h : w.tryWrite k strike r = (.error f, w')) : w'.store = w.store := by
  cases r with
  | error g =>
      cases h
      rfl
  | ok p => exact write_error h

theorem tryWrite_ok {k : Handling} {strike : Option Strike} {r : Except Failure (Write α)} {a : α}
    (hw : w.pending = none) (h : w.tryWrite k strike r = (.ok a, w')) :
    w'.pending = none ∧ ∃ p, r = .ok p ∧ p.Sent w.store a w'.store := by
  cases r with
  | error g => cases h
  | ok p =>
      obtain ⟨hp, ha, hs⟩ := write_ok hw h
      exact ⟨hp, p, rfl, ha, hs⟩

theorem tryWrite_faults {k : Handling} {strike : Option Strike} {r : Except Failure (Write α)}
    {x : Except Failure α} (h : w.tryWrite k strike r = (x, w')) : w'.faults = w.faults := by
  cases r with
  | error g =>
      cases h
      rfl
  | ok p => exact write_faults h

end World

end Bookkeeping
