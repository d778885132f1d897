import Bookkeeping.Proofs.Transaction

set_option autoImplicit false

/-! # Outcomes of procedures

What a call can come to, without the log and whatever the faults: an operation either fails and leaves
the store as it is, or has its effect on it (`Op.Outcome`), and a procedure strings such outcomes
together (`Procedure.Yields`). Running a procedure alone is one way to get its outcome (`run_yields`),
so what is shown of all outcomes holds of every run. -/

namespace Bookkeeping

/-! ## Operations -/

/-- What an operation answers and makes of the store `s` when it does not fail. -/
def Op.Effect (clock : Clock) (s : Store) : (op : Op) → op.Result → Store → Prop
  | .account id, a, s' => a = s.account? id ∧ s' = s
  | .accountByCode company code, a, s' => a = s.accountByCode? company code ∧ s' = s
  | .accountsById ids, as, s' => s.findAccounts ids = .ok as ∧ s' = s
  | .accountsOf company archived, as, s' => as = s.accountsOf company archived ∧ s' = s
  | .vatAccountsOf company, as, s' => as = s.vatAccountsOf company ∧ s' = s
  | .addAccounts _ [], as, s' => as = [] ∧ s' = s
  | .addAccounts company (d :: ds), as, s' =>
      ∃ now, clock = .ok now ∧ (s.addAccounts company now (d :: ds)).Sent s as s'
  | .saveAccount a, b, s' =>
      ∃ now p, clock.unlessKnown a.updatedAt = .ok now ∧
        s.saveAccount { a with updatedAt := some now } = .ok p ∧ p.Sent s b s'
  | .deleteAccount id, a, s' => (s.deleteAccount id).Sent s a s'
  | .hasLines id, b, s' => b = s.hasLines id ∧ s' = s
  | .entry id, e, s' => s.entry? id = .ok e ∧ s' = s
  | .entriesOf company status, es, s' => s.entriesOf company status = .ok es ∧ s' = s
  | .reversalOf id, e, s' => s.reversalOf? id = .ok e ∧ s' = s
  | .peekSequence company dayPrefix, n, s' => s.peekSequence company dayPrefix = .ok n ∧ s' = s
  | .createEntry h lines dayPrefix status postedBy, e, s' =>
      ∃ now p, clock = .ok now ∧ s.createEntry now h lines dayPrefix status postedBy = .ok p ∧
        p.Sent s e s'
  | .replaceDraft id u lines user, e, s' =>
      ∃ p, s.replaceDraft clock id u lines user = .ok p ∧ p.Sent s e s'
  | .transition id expected target user, e, s' =>
      ∃ now, clock = .ok now ∧ (s.transition now id expected target user).Sent s e s'
  | .deleteEntry id, a, s' => (s.deleteEntry id).Sent s a s'
  | .postedTotals company range, ts, s' => s.postedTotals company range = .ok ts ∧ s' = s
  | .postedTotalsBefore id day, t, s' => s.postedTotalsBefore id day = .ok t ∧ s' = s
  | .postedLines id range search, ls, s' => s.postedLines id range search = .ok ls ∧ s' = s

/-- What performing an operation can come to. Any operation may fail. -/
def Op.Outcome (clock : Clock) (s : Store) (op : Op) : Except Failure op.Result → Store → Prop
  | .error _, s' => s' = s
  | .ok a, s' => op.Effect clock s a s'

/-- A write that was prepared or not comes to a failure, or was sent as a whole. -/
theorem World.tryWrite_outcome (op : Op) {clock : Clock} {w w' : World} {k : Handling}
    {strike : Option Strike} {p : Except Failure (Write op.Result)} {r : Except Failure op.Result}
    (hp : w.pending = none)
    (effect : ∀ q a s', p = .ok q → q.Sent w.store a s' → op.Effect clock w.store a s')
    (h : w.tryWrite k strike p = (r, w')) :
    op.Outcome clock w.store r w'.store ∧ w'.faults = w.faults := by
  refine ⟨?_, tryWrite_faults h⟩
  cases r with
  | error f => exact tryWrite_error h
  | ok a =>
      obtain ⟨-, q, hq, hs⟩ := tryWrite_ok hp h
      exact effect q a w'.store hq hs

/-- An operation that reads leaves the world as it is. -/
theorem Op.outcome_of_read {op : Op} {clock : Clock} {w w' : World} {r r' : Except Failure op.Result}
    (effect : ∀ a, r = .ok a → op.Effect clock w.store a w.store) (h : (r, w) = (r', w')) :
    op.Outcome clock w.store r' w'.store ∧ w'.faults = w.faults := by
  cases h
  refine ⟨?_, rfl⟩
  cases r with
  | error f => rfl
  | ok a => exact effect a rfl

/-- Taking the next disturbance changes only what is still to come. -/
theorem World.nextDisturbance_keeps (w : World) :
    w.nextDisturbance.2.store = w.store ∧ w.nextDisturbance.2.pending = w.pending ∧
      w.nextDisturbance.2.faults.race = w.faults.race := by
  unfold nextDisturbance
  split <;> exact ⟨rfl, rfl, rfl⟩

/-- Without another writer at work, performing an operation comes to an outcome. -/
theorem Op.perform_outcome {clock : Clock} {op : Op} {w w' : World} {r : Except Failure op.Result}
    (hp : w.pending = none) (hr : w.faults.race = none) (h : op.perform clock w = (r, w')) :
    op.Outcome clock w.store r w'.store ∧ w'.faults.race = none := by
  -- an operation either sends one write or only reads; both leave the other writer away
  have write {k : Handling} {strike : Option Strike} {p : Except Failure (Write op.Result)} :
      w.tryWrite k strike p = (r, w') →
        (∀ q a s', p = .ok q → q.Sent w.store a s' → op.Effect clock w.store a s') →
        op.Outcome clock w.store r w'.store ∧ w'.faults.race = none := by
    intro h effect
    obtain ⟨ho, hf⟩ := World.tryWrite_outcome _ hp effect h
    exact ⟨ho, by rw [hf, hr]⟩
  have read {x : Except Failure op.Result} : (x, w) = (r, w') →
      (∀ a, x = .ok a → op.Effect clock w.store a w.store) →
        op.Outcome clock w.store r w'.store ∧ w'.faults.race = none := by
    intro h effect
    obtain ⟨ho, hf⟩ := outcome_of_read effect h
    exact ⟨ho, by rw [hf, hr]⟩
  have quiet (id : Uuid) : w.interfere id = w := by simp only [World.interfere, hr]
  cases op with
  | addAccounts company drafts =>
      cases drafts with
      | nil => exact read h fun a ha => ⟨(Except.ok.inj ha).symm, rfl⟩
      | cons d ds =>
          refine write h fun q a s' hq hs => ?_
          obtain ⟨now, hc, hq⟩ := bind_eq_ok hq
          cases hq
          exact ⟨now, hc, hs⟩
  | saveAccount account =>
      refine write h fun q a s' hq hs => ?_
      obtain ⟨now, hn, hq⟩ := bind_eq_ok hq
      exact ⟨now, q, hn, hq, hs⟩
  | deleteAccount id =>
      exact write (p := .ok (w.store.deleteAccount id)) h fun q a s' hq hs => by cases hq; exact hs
  | deleteEntry id =>
      exact write (p := .ok (w.store.deleteEntry id)) h fun q a s' hq hs => by cases hq; exact hs
  | replaceDraft id u lines user =>
      simp only [perform, quiet] at h
      exact write h fun q a s' hq hs => ⟨q, hq, hs⟩
  | transition id expected target user =>
      simp only [perform, quiet] at h
      refine write h fun q a s' hq hs => ?_
      obtain ⟨now, hc, hq⟩ := bind_eq_ok hq
      cases hq
      exact ⟨now, hc, hs⟩
  | createEntry header lines dayPrefix status postedBy =>
      -- the disturbance is taken off the list first, so the write happens in another world
      obtain ⟨hs, hp', hr'⟩ := w.nextDisturbance_keeps
      simp only [perform] at h
      revert h hs hp' hr'
      cases w.nextDisturbance with
      | mk d v =>
          intro h hs hp' hr'
          dsimp only at h hs hp' hr'
          rw [← hs]
          have create {strike : Option Strike} (h : v.tryWrite (.always (WriteFault.inCreation dayPrefix))
              strike (do v.store.createEntry (← clock) header lines dayPrefix status postedBy) = (r, w')) :
              Outcome clock v.store (.createEntry header lines dayPrefix status postedBy) r w'.store ∧
                w'.faults.race = none := by
            obtain ⟨ho, hf⟩ := World.tryWrite_outcome
              (.createEntry header lines dayPrefix status postedBy) (hp'.trans hp)
              (fun q a s' hq hs => by
                obtain ⟨now, hc, hq⟩ := bind_eq_ok hq
                exact ⟨now, q, hc, hq, hs⟩) h
            exact ⟨ho, by rw [hf, hr', hr]⟩
          split at h
          · cases h
            exact ⟨rfl, hr'.trans hr⟩
          · exact create h
          · exact create h
  | account | accountByCode | accountsOf | vatAccountsOf | hasLines =>
      exact read h fun a ha => ⟨(Except.ok.inj ha).symm, rfl⟩
  | accountsById | entry | entriesOf | reversalOf | peekSequence | postedTotals | postedTotalsBefore | postedLines =>
      exact read h fun a ha => ⟨ha, rfl⟩

/-- Performing an operation in a session comes to an outcome; a broken session only fails. -/
theorem Op.exec_outcome {clock : Clock} {op : Op} {w w' : World} {r : Except Failure op.Result}
    (hr : w.faults.race = none) (h : op.exec clock w = (r, w')) :
    op.Outcome clock w.store r w'.store ∧ w'.faults.race = none := by
  unfold exec at h
  split at h
  · cases h
    exact ⟨rfl, hr⟩
  · next hp => exact perform_outcome hp hr h

/-! ## Procedures -/

namespace Procedure

variable {α β : Type} {clock : Clock} {s s' : Store}

/-- A call on the store `s` can end with `r` and leave `s'`. -/
def Yields (clock : Clock) : Procedure α → Store → Except Failure α → Store → Prop
  | .done x, s, r, s' => r = x ∧ s' = s
  | .note _ rest, s, r, s' => rest.Yields clock s r s'
  | .step op rest, s, r, s' =>
      ∃ x t, op.Outcome clock s x t ∧ (rest x).Yields clock t r s'

theorem exec_yields {p : Procedure α} {w w' : World} {r : Except Failure α}
    (hr : w.faults.race = none) (h : p.exec clock w = (r, w')) :
    p.Yields clock w.store r w'.store := by
  induction p generalizing w with
  | done x =>
      cases h
      exact ⟨rfl, rfl⟩
  | note record rest ih => exact ih (w := w.note record) hr h
  | step op rest ih =>
      simp only [exec] at h
      rcases ho : op.exec clock w with ⟨x, v⟩
      rw [ho] at h
      obtain ⟨hx, hv⟩ := Op.exec_outcome hr ho
      exact ⟨x, v.store, hx, ih x hv h⟩

/-- Running a call alone, without another writer at work, comes to an outcome of it. -/
theorem run_yields (p : Procedure α) {w : World} (hr : w.faults.race = none) :
    p.Yields clock w.store (p.run clock w).1 (p.run clock w).2.store := by
  rcases h : p.exec clock w with ⟨r, w'⟩
  simp only [run, h]
  exact (exec_yields hr h :)

/-! ## Outcomes of the parts of a procedure -/

@[simp] theorem yields_perform {op : Op} {r : Except Failure op.Result} :
    (perform op).Yields clock s r s' ↔ op.Outcome clock s r s' := by
  constructor
  · rintro ⟨x, t, hx, rfl, rfl⟩
    exact hx
  · intro h
    exact ⟨r, s', h, rfl, rfl⟩

@[simp] theorem yields_attempt {op : Op} {r : Except Failure (Except Failure op.Result)} :
    (attempt op).Yields clock s r s' ↔ ∃ x, r = .ok x ∧ op.Outcome clock s x s' := by
  constructor
  · rintro ⟨x, t, hx, rfl, rfl⟩
    exact ⟨x, rfl, hx⟩
  · rintro ⟨x, rfl, hx⟩
    exact ⟨x, s', hx, rfl, rfl⟩

@[simp] theorem yields_notes {rs : List LogRecord} {r : Except Failure Unit} :
    (notes rs).Yields clock s r s' ↔ r = .ok () ∧ s' = s := by
  induction rs with
  | nil => exact Iff.rfl
  | cons x rest ih => exact ih

@[simp] theorem yields_log {level : LogLevel} {message : String} {r : Except Failure Unit} :
    (log level message).Yields clock s r s' ↔ r = .ok () ∧ s' = s := yields_notes

/-- A sequence of two calls ends with a failure of the first, or with what the second comes to. -/
theorem yields_bind {p : Procedure α} {f : α → Procedure β} {r : Except Failure β} :
    (p >>= f).Yields clock s r s' ↔
      (∃ e, p.Yields clock s (.error e) s' ∧ r = .error e) ∨
        ∃ a t, p.Yields clock s (.ok a) t ∧ (f a).Yields clock t r s' := by
  -- only at the end of the first call is there anything to tell apart
  induction p generalizing s with
  | done x =>
      cases x with
      | error e =>
          constructor
          · rintro ⟨rfl, rfl⟩
            exact .inl ⟨e, ⟨rfl, rfl⟩, rfl⟩
          · rintro (⟨e, ⟨he, rfl⟩, rfl⟩ | ⟨a, t, ⟨ha, rfl⟩, h⟩)
            · cases he
              exact ⟨rfl, rfl⟩
            · cases ha
      | ok a =>
          constructor
          · intro h
            exact .inr ⟨a, s, ⟨rfl, rfl⟩, h⟩
          · rintro (⟨e, ⟨he, rfl⟩, rfl⟩ | ⟨b, t, ⟨hb, rfl⟩, h⟩)
            · cases he
            · cases hb
              exact h
  | note record rest ih => exact ih
  | step op rest ih =>
      constructor
      · rintro ⟨x, t, hx, h⟩
        rcases (ih x).mp h with ⟨e, he, rfl⟩ | ⟨a, u, ha, h⟩
        · exact .inl ⟨e, ⟨x, t, hx, he⟩, rfl⟩
        · exact .inr ⟨a, u, ⟨x, t, hx, ha⟩, h⟩
      · rintro (⟨e, ⟨x, t, hx, he⟩, rfl⟩ | ⟨a, u, ⟨x, t, hx, ha⟩, h⟩)
        · exact ⟨x, t, hx, (ih x).mpr (.inl ⟨e, he, rfl⟩)⟩
        · exact ⟨x, t, hx, (ih x).mpr (.inr ⟨a, u, ha, h⟩)⟩

end Procedure

end Bookkeeping
