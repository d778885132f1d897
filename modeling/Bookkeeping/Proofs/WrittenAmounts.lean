import Bookkeeping.Proofs.ReadBack
import Bookkeeping.Proofs.StoredSums

set_option autoImplicit false

/-! # Amounts of runs

All lines that a run writes, those of drafts that are edited, voided or deleted later included, bound
the lines that the store holds after it: these are some of them, as the store keeps them
(`Store.lines_subperm_written`). So a store after a run with few enough amounts sums all of its lines
exactly, and any of them (`Store.Exact`). -/

namespace Bookkeeping

open Decimal (WholeCents value)

variable {clock : Clock} {word : String} {s s' : Store} {ev : Event} {history : List Event}

/-! ## Lines that were written -/

/-- The lines that an event has written, with the amounts as they were given. -/
def Event.written : Event → List (Line Decimal)
  | .entryCreated e | .draftEdited e => e.lines
  | _ => []

namespace History

/-- All lines that were written. -/
def written (history : List Event) : List (Line Decimal) := history.flatMap Event.written

theorem written_concat (history : List Event) (ev : Event) :
    written (history ++ [ev]) = written history ++ ev.written := by
  rw [written, List.flatMap_append, List.flatMap_singleton, written]

/-- An event writes lines of one entry, or of none. -/
theorem lines?_cases (ev : Event) :
    (∀ id, ev.lines? id = none) ∨
      ∃ owner, ∀ id, ev.lines? id = if owner = id then some ev.written else none := by
  cases ev with
  | entryCreated e | draftEdited e => exact .inr ⟨e.id, fun _ => rfl⟩
  | _ => exact .inl fun _ => rfl

/-- Lines that were written last are among those that were written, also those of different entries
    together. -/
theorem subperm_written (history : List Event) {ids : List Uuid} (distinct : ids.Nodup) :
    (ids.flatMap fun id => (linesOf history id).getD []).Subperm (written history) := by
  -- from the end, because the last event decides what was written last
  induction history using List.reverseRecOn generalizing ids with
  | nil =>
      have hnone : (ids.flatMap fun id => (linesOf [] id).getD []) = [] := by
        simp [linesOf]
      rw [hnone]
      exact List.nil_subperm
  | append_singleton history ev ih =>
      rw [written_concat]
      have old {others : List Uuid} (hothers : others.Nodup)
          (same : ∀ id ∈ others, ev.lines? id = none) :
          (others.flatMap fun id => (linesOf (history ++ [ev]) id).getD []).Subperm
            (written history) := by
        have hsame : (others.flatMap fun id => (linesOf (history ++ [ev]) id).getD []) =
            others.flatMap fun id => (linesOf history id).getD [] := by
          refine List.flatMap_congr fun id hid => ?_
          rw [linesOf_concat, same id hid, Option.none_or]
        rw [hsame]
        exact ih hothers
      rcases lines?_cases ev with hnone | ⟨owner, howner⟩
      · exact (old distinct fun id _ => hnone id).trans (List.sublist_append_left _ _).subperm
      · by_cases hmem : owner ∈ ids
        · have hperm := List.perm_cons_erase hmem
          have hrest : (ids.erase owner).Nodup := distinct.erase owner
          have hother : ∀ id ∈ ids.erase owner, ev.lines? id = none := by
            intro id hid
            rw [howner, if_neg]
            rintro rfl
            exact distinct.not_mem_erase hid
          refine (hperm.flatMap_right _).subperm.trans ?_
          rw [List.flatMap_cons, linesOf_concat, howner, if_pos rfl, Option.some_or, Option.getD_some]
          refine List.perm_append_comm.subperm.trans ?_
          exact (old hrest hother).append (List.Subperm.refl _)
        · have hother : ∀ id ∈ ids, ev.lines? id = none := by
            intro id hid
            rw [howner, if_neg]
            rintro rfl
            exact hmem hid
          exact (old distinct hother).trans (List.sublist_append_left _ _).subperm

theorem subperm_of_linesOf {id : Uuid} {lines : List (Line Decimal)}
    (last : linesOf history id = some lines) : lines.Subperm (written history) := by
  have hsub := subperm_written history (List.nodup_singleton id)
  rwa [List.flatMap_singleton, last, Option.getD_some] at hsub

end History

/-- Every line that a run has written stands on one side and is not negative. -/
theorem written_oneSided (sessions : List Session) :
    ∀ l ∈ History.written (History.of sessions), Posting.OneSided l.toPosting := by
  refine run_invariant (P := fun history _ =>
    ∀ l ∈ History.written history, Posting.OneSided l.toPosting) (W := fun _ => True)
    (by simp [History.written]) (fun {_ _ history s ev s'} _ h hs => ?_) sessions fun _ _ => trivial
  intro l hl
  rw [History.written_concat] at hl
  rcases List.mem_append.mp hl with hl | hl
  · exact h l hl
  · -- only accepted lines are written
    have hpassed {lines : List PostingLine} {company : Uuid} (accepted : s.Accepts company lines)
        (hl : l ∈ numberLines 1 lines) : Posting.OneSided l.toPosting :=
      accepted.passed.oneSided (List.mem_map_of_mem hl)
    cases hs with
    | entryCreated accepted => exact hpassed accepted hl
    | draftEdited found draft accepted => exact hpassed accepted hl
    | _ => cases hl

/-! ## Lines that are stored -/

namespace Store

/-- All lines of all entries. -/
def lines (s : Store) : List (Line Cell) := s.entries.flatMap fun e => e.entry.lines

/-- The lines of a store after a run are some of those that were written, as they are kept. -/
theorem lines_subperm_written (sessions : List Session) :
    ∃ given, List.Forall₂ Line.StoredAs given (after sessions).lines ∧
      given.Subperm (History.written (History.of sessions)) := by
  have sound := after_sound sessions
  refine ⟨((after sessions).entries.map fun a => a.entry.id).flatMap fun id =>
    (History.linesOf (History.of sessions) id).getD [], ?_, History.subperm_written _ sound.distinct⟩
  rw [List.flatMap_map]
  refine forall₂_flatMap fun a ha => ?_
  obtain ⟨lines, last, stored, -⟩ := after_written sessions a ha
  rw [last]
  exact storeLines_storedAs stored

/-! ## Exact stores -/

/-- The store sums its debits exactly, and its credits. -/
structure Exact (s : Store) : Prop where
  debits : Cell.KeptExactly (s.lines.map Line.debit)
  credits : Cell.KeptExactly (s.lines.map Line.credit)

end Store

/-- On either side, the amounts that were written are summed exactly once they are stored. -/
structure History.Exact (history : List Event) : Prop where
  debits : Decimal.SumExactly ((written history).map Line.debit)
  credits : Decimal.SumExactly ((written history).map Line.credit)

/-- All amounts that were written are whole numbers, below `2 ^ 53` in total on either side. -/
structure History.WholeNumbers (history : List Event) : Prop where
  each : ∀ l ∈ written history, (∃ n : Int, l.debit.value = n) ∧ ∃ n : Int, l.credit.value = n
  debits : ((written history).map fun l => l.debit.value).sum < 2 ^ 53
  credits : ((written history).map fun l => l.credit.value).sum < 2 ^ 53

theorem History.WholeNumbers.exact (h : WholeNumbers history) : Exact history := by
  obtain ⟨each, debits, credits⟩ := h
  refine ⟨.whole (fun a ha => ?_) ?_, .whole (fun a ha => ?_) ?_⟩
  · obtain ⟨l, hl, rfl⟩ := List.mem_map.mp ha
    exact (each l hl).1
  · rw [List.map_map]
    exact debits
  · obtain ⟨l, hl, rfl⟩ := List.mem_map.mp ha
    exact (each l hl).2
  · rw [List.map_map]
    exact credits

/-- Written amounts are finite and not negative. -/
theorem written_plain (sessions : List Session) {side : Line Decimal → Decimal}
    (hside : side = Line.debit ∨ side = Line.credit) :
    ∀ a ∈ (History.written (History.of sessions)).map side, a.isFinite ∧ 0 ≤ a.value := by
  intro a ha
  obtain ⟨l, hl, rfl⟩ := List.mem_map.mp ha
  have honeSided := written_oneSided sessions l hl
  rcases hside with rfl | rfl
  · exact ⟨honeSided.finite.1, honeSided.debit⟩
  · exact ⟨honeSided.finite.2, honeSided.credit⟩

/-- Lines that are kept of some written ones, side by side. -/
theorem History.Exact.kept {sessions : List Session} (h : Exact (of sessions))
    {given : List (Line Decimal)} {cells : List (Line Cell)}
    (sub : given.Subperm (written (of sessions))) (stored : List.Forall₂ Line.StoredAs given cells) :
    (Cell.KeptExactly (cells.map Line.debit) ∧
      (cells.map Line.debit).map Cell.amount = (given.map Line.debit).map Decimal.value) ∧
    (Cell.KeptExactly (cells.map Line.credit) ∧
      (cells.map Line.credit).map Cell.amount = (given.map Line.credit).map Decimal.value) := by
  obtain ⟨chosen, hperm, hsub⟩ := sub
  constructor
  · refine h.debits.kept (written_plain sessions (.inl rfl))
      ⟨chosen.map Line.debit, hperm.map _, hsub.map _⟩ ?_
    rw [List.forall₂_map_left_iff, List.forall₂_map_right_iff]
    exact stored.imp fun _ _ h => h.debit
  · refine h.credits.kept (written_plain sessions (.inr rfl))
      ⟨chosen.map Line.credit, hperm.map _, hsub.map _⟩ ?_
    rw [List.forall₂_map_left_iff, List.forall₂_map_right_iff]
    exact stored.imp fun _ _ h => h.credit

/-- A run with such amounts leaves a store that sums its amounts exactly. -/
theorem Store.after_exact {sessions : List Session} (h : History.Exact (History.of sessions)) :
    (after sessions).Exact := by
  obtain ⟨given, stored, sub⟩ := lines_subperm_written sessions
  obtain ⟨⟨debits, -⟩, credits, -⟩ := h.kept sub stored
  exact ⟨debits, credits⟩

end Bookkeeping
