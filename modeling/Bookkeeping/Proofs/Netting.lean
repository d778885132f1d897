import Bookkeeping.Proofs.AccountLedger
import Bookkeeping.Proofs.Invisible
import Bookkeeping.Proofs.Reversal

set_option autoImplicit false

/-! # Reversals net to zero

A reversal is built from amounts that were read back, and is stored and read in its turn. With whole
numbers nothing is lost on the way: its lines have the amounts of the lines that it reverses, exchanged
(`amounts_of_reversal`), so on every account it moves as much as they did, the other way
(`reversal_nets_out`).

A reversal writes amounts again that were written before, debits as credits. That sums stay exact needs
the amounts of both sides to be small enough together (`History.WholeInTotal.reversed`). -/

namespace Bookkeeping

variable {clock clock' : Clock} {w w' : World} {s s' : Store} {x : Session}

/-! ## Runs with whole numbers -/

namespace History

variable {history : List Event}

/-- All amounts that were written are whole numbers, below `2 ^ 53` in total, debits and credits
    together. -/
structure WholeInTotal (history : List Event) : Prop where
  each : ∀ l ∈ written history, (∃ n : Int, l.debit.value = n) ∧ ∃ n : Int, l.credit.value = n
  total : ((written history).map fun l => l.debit.value + l.credit.value).sum < 2 ^ 53

theorem sum_sides (lines : List (Line Decimal)) :
    (lines.map fun l => l.debit.value + l.credit.value).sum =
      (lines.map fun l => l.debit.value).sum + (lines.map fun l => l.credit.value).sum :=
  List.sum_map_add

end History

theorem sum_written_nonneg (sessions : List Session) :
    0 ≤ ((History.written (History.of sessions)).map fun l => l.debit.value).sum ∧
      0 ≤ ((History.written (History.of sessions)).map fun l => l.credit.value).sum := by
  constructor
  · refine List.sum_nonneg fun q hq => ?_
    obtain ⟨l, hl, rfl⟩ := List.mem_map.mp hq
    exact (written_oneSided sessions l hl).debit
  · refine List.sum_nonneg fun q hq => ?_
    obtain ⟨l, hl, rfl⟩ := List.mem_map.mp hq
    exact (written_oneSided sessions l hl).credit

theorem History.WholeInTotal.wholeNumbers {sessions : List Session} (h : WholeInTotal (of sessions)) :
    WholeNumbers (of sessions) := by
  obtain ⟨hdebits, hcredits⟩ := sum_written_nonneg sessions
  have htotal := h.total
  rw [sum_sides] at htotal
  exact ⟨h.each, by linarith, by linarith⟩

/-! ## Amounts that were stored -/

/-- A line is stored with the values of the amounts that were written. -/
theorem History.Exact.amounts {sessions : List Session} (h : Exact (of sessions)) {l : Line Decimal}
    {c : Line Cell} (hl : l ∈ written (of sessions)) (stored : l.StoredAs c) :
    c.debit.amount = l.debit.value ∧ c.credit.amount = l.credit.value := by
  have hone : [l].Subperm (written (of sessions)) := (List.singleton_sublist.mpr hl).subperm
  obtain ⟨⟨-, hdebit⟩, -, hcredit⟩ := h.kept hone (.cons stored .nil)
  exact ⟨(List.cons.inj hdebit).1, (List.cons.inj hcredit).1⟩

namespace History.WholeNumbers

variable {sessions : List Session} (h : WholeNumbers (of sessions))
include h

/-- Stored amounts are whole numbers. -/
theorem stored : ∀ c ∈ (Store.after sessions).lines,
    (∃ n : Int, c.debit.amount = n) ∧ ∃ n : Int, c.credit.amount = n := by
  intro c hc
  obtain ⟨given, stored, sub⟩ := Store.lines_subperm_written sessions
  obtain ⟨l, hl, hlc⟩ := exists_left_of_forall₂ stored hc
  obtain ⟨hdebit, hcredit⟩ := h.exact.amounts (sub.subset hl) hlc
  rw [hdebit, hcredit]
  exact h.each l (sub.subset hl)

/-- Stored lines come to no more than those that were written, on either side. -/
theorem total_le {ls : List (Line Cell)} (among : ls.Subperm (Store.after sessions).lines) :
    Line.total Line.debit ls ≤ ((written (of sessions)).map fun l => l.debit.value).sum ∧
      Line.total Line.credit ls ≤ ((written (of sessions)).map fun l => l.credit.value).sum := by
  obtain ⟨given, stored, sub⟩ := Store.lines_subperm_written sessions
  obtain ⟨⟨debits, hdebits⟩, credits, hcredits⟩ := h.exact.kept sub stored
  rw [List.map_map, List.map_map] at hdebits hcredits
  constructor
  · calc Line.total Line.debit ls ≤ Line.total Line.debit (Store.after sessions).lines :=
          sum_map_le_of_subperm (fun c hc => (debits.each (List.mem_map_of_mem hc)).2.2) among
      _ = (given.map fun l => l.debit.value).sum := congrArg List.sum hdebits
      _ ≤ _ := sum_map_le_of_subperm (fun l hl => (written_oneSided sessions l hl).debit) sub
  · calc Line.total Line.credit ls ≤ Line.total Line.credit (Store.after sessions).lines :=
          sum_map_le_of_subperm (fun c hc => (credits.each (List.mem_map_of_mem hc)).2.2) among
      _ = (given.map fun l => l.credit.value).sum := congrArg List.sum hcredits
      _ ≤ _ := sum_map_le_of_subperm (fun l hl => (written_oneSided sessions l hl).credit) sub

end History.WholeNumbers

/-! ## Lines of reversals -/

/-- The lines of a reversal have the amounts that are read of the lines that it reverses, exchanged. -/
theorem values_reversalLines (old : StoredEntry) :
    (numberLines 1 (Journal.reversalLines old.shown)).map
        (fun l => (l.account, l.debit.value, l.credit.value)) =
      old.entry.lines.map fun l => (l.account, l.credit.amount, l.debit.amount) := by
  have hlines := congrArg (List.map fun t : Uuid × Decimal × Decimal => (t.1, t.2.1.value, t.2.2.value))
    (map_reversalLines 1 old.shown)
  rw [List.map_map, List.map_map] at hlines
  refine Eq.trans hlines ?_
  rw [StoredEntry.shown, Entry.map, List.map_map]
  rfl

/-- So they are stored. -/
theorem amounts_of_reversal {sessions : List Session} (h : History.Exact (History.of sessions))
    {old : StoredEntry} {cells : List (Line Cell)}
    (sub : numberLines 1 (Journal.reversalLines old.shown) ⊆ History.written (History.of sessions))
    (stored : storeLines (numberLines 1 (Journal.reversalLines old.shown)) = some cells) :
    cells.map (fun l => (l.account, l.debit.amount, l.credit.amount)) =
      old.entry.lines.map fun l => (l.account, l.credit.amount, l.debit.amount) := by
  have amounts : ∀ l ∈ numberLines 1 (Journal.reversalLines old.shown), ∀ c, l.StoredAs c →
      (c.account, c.debit.amount, c.credit.amount) = (l.account, l.debit.value, l.credit.value) := by
    intro l hl c hlc
    obtain ⟨hdebit, hcredit⟩ := h.amounts (sub hl) hlc
    rw [hlc.account, hdebit, hcredit]
  rw [map_eq_of_forall₂ (storeLines_storedAs stored) amounts]
  exact values_reversalLines old

/-- The total on an account is a matter of the accounts and amounts of the lines. -/
theorem Line.total_on (side : Line Cell → Cell) (ls : List (Line Cell)) (id : Uuid) :
    total side (on ls id) = (((ls.map fun l => (l.account, (side l).amount)).filter
      fun t => t.1 == id).map Prod.snd).sum := by
  rw [total, on, List.filter_map, List.map_map]
  rfl

/-- Lines with the amounts exchanged come to the same totals, exchanged, on every account. -/
theorem Line.total_exchanged {ls ls' : List (Line Cell)}
    (h : ls'.map (fun l => (l.account, l.debit.amount, l.credit.amount)) =
      ls.map fun l => (l.account, l.credit.amount, l.debit.amount)) (id : Uuid) :
    total debit (on ls' id) = total credit (on ls id) ∧
      total credit (on ls' id) = total debit (on ls id) := by
  have hdebit := congrArg (List.map fun t : Uuid × ℚ × ℚ => (t.1, t.2.1)) h
  have hcredit := congrArg (List.map fun t : Uuid × ℚ × ℚ => (t.1, t.2.2)) h
  rw [List.map_map, List.map_map] at hdebit hcredit
  constructor
  · rw [total_on, total_on]
    exact congrArg (fun ts => ((ts.filter fun t : Uuid × ℚ => t.1 == id).map Prod.snd).sum) hdebit
  · rw [total_on, total_on]
    exact congrArg (fun ts => ((ts.filter fun t : Uuid × ℚ => t.1 == id).map Prod.snd).sum) hcredit

/-! ## Runs that end with a reversal -/

/-- The session has reversed the stored entry `old`: it has put `r` behind the others and answered it as
    `e`, with the amounts as they were given. -/
structure Session.Reverses (x : Session) (s : Store) (old r : StoredEntry) (e : Entry Decimal) :
    Prop where
  fits : old.ReversedBy e
  event : x.event s = .entryCreated e
  accounts : (x.run s).2.accounts = s.accounts
  entries : (x.run s).2.entries = s.entries ++ [r]
  stored : storeLines e.lines = some r.entry.lines
  answered : e = { r.entry with lines := e.lines }

theorem Session.reverses {id : Uuid} {user : String} {reason : Option String} {date : Option Date}
    {a : ServiceAnswer} (call : x.call = .reverseEntry id user reason date)
    (answer : (x.run s).1 = .ok a) :
    ∃ old r e, s.stored? id = some old ∧ a = .entry e ∧ x.Reverses s old r e := by
  obtain ⟨old, e, found, rfl, fits⟩ := x.run_reverseEntry call answer
  have event : x.event s = .entryCreated e := by
    rw [Session.event, answer, call]
    rfl
  have step := x.run_step s
  rw [event] at step
  obtain ⟨r, given, entries, stored, rfl⟩ := step.created
  have accounts : (x.run s).2.accounts = s.accounts := by
    refine step.accounts_or_entries.resolve_right fun same => ?_
    have hlength := congrArg List.length (entries.symm.trans same)
    simp at hlength
  exact ⟨old, r, _, found, rfl, fits, event, accounts, entries, stored, rfl⟩

theorem Session.Reverses.written {sessions : List Session} {old r : StoredEntry} {e : Entry Decimal}
    (hr : x.Reverses (Store.after sessions) old r e) :
    History.written (History.of (sessions ++ [x])) =
      History.written (History.of sessions) ++ numberLines 1 (Journal.reversalLines old.shown) := by
  rw [History.of_concat, hr.event, History.written_concat, ← hr.fits.lines]
  rfl

/-- A reversal writes what was written before once more, so it leaves the totals of both sides small
    enough. -/
theorem History.WholeInTotal.reversed {sessions : List Session} (h : WholeInTotal (of sessions))
    {old r : StoredEntry} {e : Entry Decimal} (hold : old ∈ (Store.after sessions).entries)
    (hr : x.Reverses (Store.after sessions) old r e) : WholeNumbers (of (sessions ++ [x])) := by
  have whole := h.wholeNumbers
  have htotal := h.total
  rw [sum_sides] at htotal
  have written_eq := hr.written
  have among : old.entry.lines.Subperm (Store.after sessions).lines := by
    have hone : [old].Subperm (Store.after sessions).entries :=
      (List.singleton_sublist.mpr hold).subperm
    simpa using Store.flatMap_subperm hone fun e => List.Sublist.refl e.entry.lines
  obtain ⟨hdebits, hcredits⟩ := whole.total_le among
  have hvalues := values_reversalLines old
  generalize numberLines 1 (Journal.reversalLines old.shown) = lines at written_eq hvalues
  have debits : (lines.map fun l => l.debit.value).sum = Line.total Line.credit old.entry.lines := by
    have hside := congrArg (List.map fun t : Uuid × ℚ × ℚ => t.2.1) hvalues
    rw [List.map_map, List.map_map] at hside
    exact congrArg List.sum hside
  have credits : (lines.map fun l => l.credit.value).sum = Line.total Line.debit old.entry.lines := by
    have hside := congrArg (List.map fun t : Uuid × ℚ × ℚ => t.2.2) hvalues
    rw [List.map_map, List.map_map] at hside
    exact congrArg List.sum hside
  constructor
  · intro l hl
    rw [written_eq] at hl
    rcases List.mem_append.mp hl with hl | hl
    · exact h.each l hl
    · have hmem := List.mem_map_of_mem (f := fun l => (l.account, l.debit.value, l.credit.value)) hl
      rw [hvalues] at hmem
      obtain ⟨c, hc, hcl⟩ := List.mem_map.mp hmem
      rw [Prod.mk.injEq, Prod.mk.injEq] at hcl
      rw [← hcl.2.1, ← hcl.2.2]
      exact (whole.stored c (among.subset hc)).symm
  · rw [written_eq, List.map_append, List.sum_append, debits]
    linarith
  · rw [written_eq, List.map_append, List.sum_append, credits]
    linarith

/-! ## Balances around a reversal -/

/-- What the lines of an entry move on an account. -/
def StoredEntry.contribution (e : StoredEntry) (a : Account) : ℚ :=
  a.type.movement (Line.total Line.debit (e.linesOn a.id)) (Line.total Line.credit (e.linesOn a.id))

theorem AccountType.movement_exchanged (t : AccountType) (d c : ℚ) :
    t.movement c d = -t.movement d c := by
  unfold movement
  split <;> ring

namespace Store

/-- The posted lines on an account after one more entry was posted. -/
theorem linesOn_concat {r : StoredEntry} (entries : s'.entries = s.entries ++ [r])
    (posted : r.isPosted = true) (id : Uuid) {days : Date → Bool} (within : days r.entry.date = true) :
    s'.linesOn id days = s.linesOn id days ++ r.linesOn id := by
  rw [linesOn, entries, List.filter_append, List.flatMap_append, List.filter_singleton, posted, within,
    Bool.and_self, cond_true, List.flatMap_singleton, linesOn]

/-- An entry outside of a range is not in its totals. -/
theorem postedTotals_concat {r : StoredEntry} (entries : s'.entries = s.entries ++ [r])
    (company : Uuid) {range : DateRange} (outside : range.holds r.entry.date = false) :
    s'.postedTotals company range = s.postedTotals company range := by
  rw [postedTotals, postedEntries, entries, List.filter_append, List.filter_singleton, outside,
    Bool.and_false, cond_false, List.append_nil, postedTotals, postedEntries]

end Store

/-- In a run that has written whole numbers, below `2 ^ 53` in total, a reversal that succeeds moves on
    every account as much as the reversed entry, the other way: in any range with its date the balance of
    the account changes by that, and in any other range all balances stay as they are. -/
theorem reversal_nets_out (sessions : List Session)
    (whole : History.WholeInTotal (History.of sessions)) {id : Uuid} {user : String}
    {reason : Option String} {date : Option Date} {a : ServiceAnswer}
    (call : x.call = .reverseEntry id user reason date)
    (answer : (x.run (Store.after sessions)).1 = .ok a) (clock clock' : Clock)
    (before : w.store = Store.after sessions) (after : w'.store = Store.after (sessions ++ [x]))
    (idle : w.pending = none) (idle' : w'.pending = none) :
    ∃ (o r : StoredEntry) (lines : List (Line Decimal)),
      (Store.after sessions).stored? id = some o ∧
      (Store.after (sessions ++ [x])).stored? r.entry.id = some r ∧
      r.entry.reversedEntry = some id ∧ a = .entry { r.entry with lines } ∧
      (∀ account ∈ (Store.after sessions).accounts,
        r.contribution account + o.contribution account = 0 ∧
        ∀ range : DateRange, range.holds r.entry.date = true → ∃ b b',
          Reports.ReadsBalance clock w account range b ∧
          Reports.ReadsBalance clock' w' account range b' ∧ b.balance.isFinite ∧
          b'.balance.Holds (b.balance.value - o.contribution account)) ∧
      ∀ company, ∀ range : DateRange, range.holds r.entry.date = false →
        ((Reports.balances company range).run clock' w').1 =
          ((Reports.balances company range).run clock w).1 := by
  have sound' := Store.after_sound (sessions ++ [x])
  have chartered := Store.after_chartered sessions
  have chartered' := Store.after_chartered (sessions ++ [x])
  obtain ⟨o, r, e, found, rfl, hr⟩ := x.reverses call answer
  obtain ⟨ho, rfl⟩ := Store.stored?_some found
  have exact := Store.after_exact whole.wholeNumbers.exact
  have exact' := Store.after_exact (whole.reversed ho hr).exact
  have accounts := hr.accounts
  have entries := hr.entries
  rw [← Store.after_concat] at accounts entries
  have hmem : r ∈ (Store.after (sessions ++ [x])).entries := by
    rw [entries]
    exact List.mem_append_right _ (List.mem_singleton_self r)
  have posted : r.isPosted = true := by
    refine StoredEntry.isIn_iff.mpr ⟨(sound'.coherent r hmem).known, ?_⟩
    have status := hr.fits.status
    rw [hr.answered] at status
    exact status
  have amounts := amounts_of_reversal (whole.reversed ho hr).exact
    (hr.written ▸ List.subset_append_right _ _) (hr.fits.lines ▸ hr.stored)
  refine ⟨o, r, e.lines, found, sound'.stored?_eq hmem, ?_, congrArg _ hr.answered,
    fun account ha => ?_, fun company range outside => ?_⟩
  · have reversed := hr.fits.reversedEntry
    rw [hr.answered] at reversed
    exact reversed
  · obtain ⟨hdebit, hcredit⟩ := Line.total_exchanged amounts account.id
    have opposite : r.contribution account = -o.contribution account := by
      rw [StoredEntry.contribution, StoredEntry.contribution, ← AccountType.movement_exchanged]
      exact congrArg₂ _ hdebit hcredit
    refine ⟨by rw [opposite, neg_add_cancel], fun range within => ?_⟩
    obtain ⟨b, hb, -, -, hbalance⟩ := exact.readsBalance chartered clock before idle ha range
    obtain ⟨b', hb', -, -, hbalance'⟩ :=
      exact'.readsBalance chartered' clock' after idle' (accounts ▸ ha) range
    refine ⟨b, b', hb, hb', hbalance.holds.finite, hbalance'.holds.finite, ?_⟩
    rw [hbalance'.holds.value, Store.linesOn_concat entries posted account.id within, Line.total_append,
      Line.total_append, AccountType.movement_add, ← hbalance.holds.value, sub_eq_add_neg, ← opposite]
    rfl
  · have same : w'.store.accountsOf company true = w.store.accountsOf company true := by
      rw [before, after, Store.accountsOf, Store.companyAccounts, accounts]
      rfl
    have totals : w'.store.postedTotals company range = w.store.postedTotals company range := by
      rw [before, after, Store.postedTotals_concat entries company outside]
    exact (Reports.balances_alike idle idle' same totals).run.symm

/-- The first of the two entries is reversed on the later day. -/
def reversesFirst : Session where
  call := .reverseEntry (Uuid.issue 2) "clerk" (some "by mistake") (some laterDay)
  setting := { clock := .ok default }

theorem wholeInTotal_movesOnTwoDays : History.WholeInTotal (History.of movesOnTwoDays) := by
  refine ⟨wholeNumbers_movesOnTwoDays.each, ?_⟩
  rw [written_movesOnTwoDays]
  norm_num [Decimal.value_finite]

/-- The 100 of the first day and their reversal come to nothing on either account. -/
theorem reversal_nets_out_movesOnTwoDays :
    History.WholeInTotal (History.of movesOnTwoDays) ∧
      ∃ a, (reversesFirst.run (Store.after movesOnTwoDays)).1 = .ok a ∧
        ∃ o r : StoredEntry, (Store.after movesOnTwoDays).stored? (Uuid.issue 2) = some o ∧
          r.entry.reversedEntry = some (Uuid.issue 2) ∧
          ∀ account ∈ (Store.after movesOnTwoDays).accounts,
            r.contribution account + o.contribution account = 0 := by
  have answered : (reversesFirst.run (Store.after movesOnTwoDays)).1.isOk = true := by decide +kernel
  obtain ⟨a, answer⟩ : ∃ a, (reversesFirst.run (Store.after movesOnTwoDays)).1 = .ok a := by
    cases h : (reversesFirst.run (Store.after movesOnTwoDays)).1 with
    | ok a => exact ⟨a, rfl⟩
    | error f =>
        rw [h] at answered
        cases answered
  have world (s : Store) : ({ store := s } : World).store = s := rfl
  obtain ⟨o, r, lines, found, -, reversed, -, netted, -⟩ :=
    reversal_nets_out movesOnTwoDays wholeInTotal_movesOnTwoDays rfl answer (.ok default) (.ok default)
      (world _) (world _) rfl rfl
  exact ⟨wholeInTotal_movesOnTwoDays, a, answer, o, r, found, reversed,
    fun account ha => (netted account ha).1⟩

end Bookkeeping
