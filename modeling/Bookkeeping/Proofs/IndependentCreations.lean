import Bookkeeping.Proofs.NumberSupply
import Bookkeeping.Proofs.Rearrangement
import Bookkeeping.Proofs.Retries
import Mathlib.Logic.Equiv.Basic

set_option autoImplicit false

/-! # Independent creations

Two entries of different companies or days may be created in either order: the answers are the same and so
is all that is read afterwards, up to the identifiers of both (`Creation.creations_commute`).

A creation needs four things of the store: that its accounts accept its lines, that the time can be told, a
number for its day, and amounts that can be stored (`Creation.Goes`). Only the number depends on entries,
and on those of the same company and day alone: the counter is of the day, and where there is none yet, the
pattern for the numbers of the day finds no number of another one (`Store.peekSequence_withEntry`). So the
second creation goes after the first as it would have gone without it (`Independent.goes_later`), and
both orders leave stores that are rearranged (`Independent.rearranged`).

A zero character in the word in front of the numbers ends the pattern, which then finds the numbers of
every day (`Creation.creations_commute_false_of_zero_character`). -/

namespace Bookkeeping

variable {s : Store} {e : Entry Cell} {counters : List Counter} {n m : Int} {company : Uuid}
  {now now' : Instant} {word : String} {a b : Date} {cells cells' : List (Line Cell)}

/-! ## Numbers of other days -/

/-- Allocating a number makes or moves one counter. -/
theorem Allocation.counter?_eq {dayPrefix : String} (h : Allocation s company dayPrefix n counters)
    (other : Uuid) (p : String) : ({ s with counters } : Store).counter? other p =
      if other = company ∧ p = dayPrefix then some ⟨company, dayPrefix, n + 1⟩
      else s.counter? other p := by
  by_cases hsame : other = company ∧ p = dayPrefix
  · rw [if_pos hsame, hsame.1, hsame.2]
    exact h.counter
  · rw [if_neg hsame]
    exact h.others other p hsame

namespace Store

theorem numbersOf_withEntry (s : Store) (counters : List Counter) (e : Entry Cell) (n : Int)
    (company : Uuid) : (s.withEntry counters e n).numbersOf company =
      s.numbersOf company ++ if e.company = company then [e.number] else [] := by
  rw [numbersOf, withEntry, List.filter_append, List.map_append, ← numbersOf]
  by_cases hcompany : e.company = company
  · rw [if_pos hcompany]
    simp [hcompany]
  · rw [if_neg hcompany]
    simp [hcompany]

/-- A new entry of another company, or with a number that the pattern does not find, is not looked
    through. -/
theorem numbersLike_withEntry {dayPrefix : String}
    (unfound : e.company = company → Text.likeMatches none (dayPrefix ++ "-%") e.number = false)
    (short : Text.isPatternTooLong (dayPrefix ++ "-%") = false) :
    (s.withEntry counters e n).numbersLike company dayPrefix = s.numbersLike company dayPrefix := by
  rw [numbersLike_eq, numbersLike_eq, numbersOf_withEntry]
  unfold keepMatches
  rw [short, Bool.false_and, if_neg Bool.false_ne_true, Bool.false_and, if_neg Bool.false_ne_true,
    List.filter_append]
  by_cases hcompany : e.company = company
  · rw [if_pos hcompany, List.filter_cons_of_neg (by simp [unfound hcompany]), List.filter_nil,
      List.append_nil]
  · rw [if_neg hcompany, List.filter_nil, List.append_nil]

/-- The next number depends on the counter, and without one on the numbers that the pattern finds. -/
theorem peekSequence_congr {t : Store} {dayPrefix : String}
    (counter : t.counter? company dayPrefix = s.counter? company dayPrefix)
    (numbers : s.counter? company dayPrefix = none →
      t.numbersLike company dayPrefix = s.numbersLike company dayPrefix) :
    t.peekSequence company dayPrefix = s.peekSequence company dayPrefix := by
  unfold peekSequence
  rw [counter]
  cases hc : s.counter? company dayPrefix with
  | some c => rfl
  | none =>
      dsimp only
      rw [highestExisting, highestExisting, numbers hc]

/-- A new entry does not count for the next number of another company or day. -/
theorem peekSequence_withEntry (ended : ∀ x ∈ word.toList, x ≠ '\x00') (hn : 0 ≤ n)
    (number : e.number = EntryNumber.format (EntryNumber.dayPrefix word a) n)
    (apart : ¬ (e.company = company ∧ a = b))
    (short : Text.isPatternTooLong (EntryNumber.dayPrefix word b ++ "-%") = false)
    (others : ({ s with counters } : Store).counter? company (EntryNumber.dayPrefix word b) =
      s.counter? company (EntryNumber.dayPrefix word b)) :
    (s.withEntry counters e n).peekSequence company (EntryNumber.dayPrefix word b) =
      s.peekSequence company (EntryNumber.dayPrefix word b) := by
  have unfound (hcompany : e.company = company) :
      Text.likeMatches none (EntryNumber.dayPrefix word b ++ "-%") e.number = false := by
    rw [Bool.eq_false_iff, number]
    intro hmatch
    exact apart ⟨hcompany, (EntryNumber.date_eq_of_likeMatches ended hn hmatch).symm⟩
  exact peekSequence_congr others fun _ => numbersLike_withEntry unfound short

/-- A number that is allocated was foretold, and its successor fits into the store. -/
theorem allocate_ok {dayPrefix : String} {p : Write Int} (h : s.allocate company dayPrefix = .ok p) :
    s.peekSequence company dayPrefix = .ok p.answer ∧ Cell.fits (p.answer + 1) = true := by
  unfold allocate at h
  unfold peekSequence
  cases hc : s.counter? company dayPrefix with
  | some c =>
      rw [hc] at h
      dsimp only at h
      split at h
      · next fits =>
          cases h
          exact ⟨rfl, fits⟩
      · cases h
  | none =>
      rw [hc] at h
      obtain ⟨highest, hhighest, h⟩ := bind_eq_ok h
      obtain ⟨_, hwidth, h⟩ := bind_eq_ok h
      cases h
      refine ⟨?_, ?_⟩
      · dsimp only
        rw [hhighest]
        rfl
      · unfold checkWidth at hwidth
        split at hwidth
        · next fits => exact fits
        · cases hwidth

end Store

/-- An entry is created only of accepted lines, and when the time can be told. -/
theorem Journal.createEntry_answers {clock : Clock} {st : Setting} {h : EntryHeader}
    {lines : List PostingLine} {post : Bool} : (createEntry st h lines post).AllOrNothing clock s
      fun _ _ => s.Accepts h.company lines ∧ ∃ now, clock = .ok now := by
  refine Procedure.AllOrNothing.afterRead validateLines_reads fun _ accepted => ?_
  refine tryCreate_allOrNothing _ _ fun e t he => Procedure.succeeds_log_pure ?_
  obtain ⟨now, p, hnow, -⟩ := he
  exact ⟨accepted, now, hnow⟩

namespace Creation

variable {c d : Creation} {x y : Entry Decimal}

/-- What a creation needs of a store, with what it takes from it: the time, the number and the lines as
    they are stored. -/
structure Goes (c : Creation) (s : Store) (now : Instant) (n : Int) (cells : List (Line Cell)) :
    Prop where
  accepted : s.Accepts c.header.company c.lines
  clock : c.setting.clock = .ok now
  number : s.peekSequence c.header.company c.dayPrefix = .ok n
  fits : Cell.fits (n + 1) = true
  stored : storeLines (numberLines 1 c.lines) = some cells

/-- A creation that answers had what it needs. -/
theorem goes_of_answer (sound : s.Sound) (counted : s.Counted)
    (answer : ((c.under []).run s).1 = .ok (.entry x)) : ∃ now n cells, c.Goes s now n cells := by
  obtain ⟨accepted, now, clock⟩ := Session.run_answered (x := c.under [])
    (R := fun _ _ => s.Accepts c.header.company c.lines ∧ ∃ now, c.setting.clock = .ok now)
    (.map Journal.createEntry_answers) answer
  have possible := possible_of_counted counted sound accepted fun f hf => by cases clock.symm.trans hf
  cases hq : s.allocate c.header.company c.dayPrefix with
  | error f =>
      rw [run_unallocated possible accepted clock hq] at answer
      cases answer
  | ok q =>
      obtain ⟨number, fits⟩ := Store.allocate_ok hq
      obtain ⟨counters, cells, -, stored, -⟩ := run_undisturbed possible accepted clock number fits
      exact ⟨now, q.answer, cells, accepted, clock, number, fits, stored⟩

/-- The store after the creation, with the counters after it. -/
def leaves (c : Creation) (s : Store) (now : Instant) (n : Int) (cells : List (Line Cell))
    (counters : List Counter) : Store := s.withEntry counters (c.entry s now n cells) n

theorem Goes.run (h : c.Goes s now n cells) (sound : s.Sound) (counted : s.Counted) :
    ∃ counters, Allocation s c.header.company c.dayPrefix n counters ∧
      (c.under []).run s =
        (.ok (.entry (c.entry s now n (numberLines 1 c.lines))), c.leaves s now n cells counters) := by
  have possible := possible_of_counted counted sound h.accepted fun f hf => by cases h.clock.symm.trans hf
  obtain ⟨counters, cells', allocation, stored, hrun⟩ :=
    run_undisturbed possible h.accepted h.clock h.number h.fits
  cases stored.symm.trans h.stored
  exact ⟨counters, allocation, hrun⟩

/-! ## Two creations -/

/-- The creations are for different companies or days, under one word for numbers. Nothing ends the word
    early in a pattern, and neither pattern for the numbers of a day is too long. -/
structure Independent (c d : Creation) : Prop where
  word : d.setting.numberWord = c.setting.numberWord
  ended : ∀ x ∈ c.setting.numberWord.toList, x ≠ '\x00'
  short : Text.isPatternTooLong (c.dayPrefix ++ "-%") = false ∧
    Text.isPatternTooLong (d.dayPrefix ++ "-%") = false
  apart : ¬ (c.header.company = d.header.company ∧ c.header.date = d.header.date)

namespace Independent

variable (h : c.Independent d)
include h

theorem symm : d.Independent c where
  word := h.word.symm
  ended := by
    rw [h.word]
    exact h.ended
  short := h.short.symm
  apart := fun same => h.apart ⟨same.1.symm, same.2.symm⟩

/-- They take their numbers from different counters. -/
theorem counters_ne : ¬ (d.header.company = c.header.company ∧ d.dayPrefix = c.dayPrefix) := by
  rintro ⟨hcompany, hprefix⟩
  rw [dayPrefix, dayPrefix, h.word] at hprefix
  exact h.apart ⟨hcompany.symm, (EntryNumber.dayPrefix_injective hprefix).symm⟩

/-- One of them needs the same of the store after the other one, and takes the same from it. -/
theorem goes_later (hc : c.Goes s now n cells) (hd : d.Goes s now' m cells') (counted : s.Counted)
    (allocation : Allocation s c.header.company c.dayPrefix n counters) :
    d.Goes (c.leaves s now n cells counters) now' m cells' where
  accepted := hd.accepted.of_accounts_eq rfl
  clock := hd.clock
  fits := hd.fits
  stored := hd.stored
  number := by
    have unchanged := allocation.others d.header.company d.dayPrefix h.counters_ne
    have short := h.short.2
    rw [← hd.number]
    rw [dayPrefix, h.word] at unchanged short ⊢
    exact Store.peekSequence_withEntry (e := c.entry s now n cells) h.ended
      (counted.peekSequence_nonneg hc.number) rfl h.apart short unchanged

end Independent

end Creation

/-- The two identifiers that are given out next, exchanged. -/
def Store.exchange (s : Store) : Equiv.Perm Uuid :=
  Equiv.swap (Uuid.issue s.issued) (Uuid.issue (s.issued + 1))

namespace Store

theorem exchange_next (s : Store) : s.exchange (Uuid.issue s.issued) = Uuid.issue (s.issued + 1) :=
  Equiv.swap_apply_left _ _

theorem exchange_afterNext (s : Store) : s.exchange (Uuid.issue (s.issued + 1)) = Uuid.issue s.issued :=
  Equiv.swap_apply_right _ _

theorem exchange_issued (s : Store) {k : Nat} (hk : k < s.issued) :
    s.exchange (Uuid.issue k) = Uuid.issue k := by
  refine Equiv.swap_apply_of_ne_of_ne ?_ ?_
  · intro h
    exact absurd (Uuid.issue_injective h) (by omega)
  · intro h
    exact absurd (Uuid.issue_injective h) (by omega)

end Store

namespace Creation

variable {c d : Creation} {x y : Entry Decimal}

/-- Of another store, a creation makes the same entry under another identifier. -/
theorem entry_renamed {α : Type} (c : Creation) {σ : Uuid → Uuid} {s t : Store}
    (hid : σ (Uuid.issue s.issued) = Uuid.issue t.issued) (now : Instant) (n : Int)
    (lines : List (Line α)) : (c.entry s now n lines).renamed σ = c.entry t now n lines := by
  show { c.entry s now n lines with id := σ (Uuid.issue s.issued) } = _
  rw [hid]
  rfl

/-- The entry as it is stored. -/
def row (c : Creation) (s : Store) (now : Instant) (n : Int) (cells : List (Line Cell)) : StoredEntry :=
  { entry := c.entry s now n cells, sequence := n, written := s.writes }

theorem seen_row (c : Creation) {σ : Uuid → Uuid} {s t : Store}
    (hid : σ (Uuid.issue s.issued) = Uuid.issue t.issued) (now : Instant) (n : Int)
    (cells : List (Line Cell)) : (c.row t now n cells).seen id = (c.row s now n cells).seen σ := by
  rw [StoredEntry.seen, StoredEntry.seen, row, row, entry_renamed c hid now n cells]
  rfl

/-- The number that a creation takes can be read again. -/
theorem Goes.sequenceOf (h : c.Goes s now n cells) (counted : s.Counted) :
    ∃ k, EntryNumber.sequenceOf (EntryNumber.format c.dayPrefix n) = .ok k := by
  have fits := h.fits
  rw [Cell.fits, Bool.and_eq_true, decide_eq_true_iff, decide_eq_true_iff, Cell.maxInt] at fits
  exact ⟨some n, EntryNumber.sequenceOf_format _ (counted.peekSequence_nonneg h.number) (by omega)⟩

/-- Both orders leave the same entries, up to the identifiers of the new ones and their order. -/
theorem Independent.rearranged (h : c.Independent d) (sound : s.Sound) (counted : s.Counted)
    (hc : c.Goes s now n cells) (hd : d.Goes s now' m cells') {K K' L L' : List Counter}
    (first : Allocation s c.header.company c.dayPrefix n K)
    (second : Allocation (c.leaves s now n cells K) d.header.company d.dayPrefix m K')
    (first' : Allocation s d.header.company d.dayPrefix m L)
    (second' : Allocation (d.leaves s now' m cells' L) c.header.company c.dayPrefix n L') :
    (d.leaves (c.leaves s now n cells K) now' m cells' K').Rearranged s.exchange
      (c.leaves (d.leaves s now' m cells' L) now n cells L') where
  accounts := rfl
  counters company p := by
    have cd : (d.leaves (c.leaves s now n cells K) now' m cells' K').counter? company p = _ :=
      (second.counter?_eq company p).trans (if_congr Iff.rfl rfl (first.counter?_eq company p))
    have dc : (c.leaves (d.leaves s now' m cells' L) now n cells L').counter? company p = _ :=
      (second'.counter?_eq company p).trans (if_congr Iff.rfl rfl (first'.counter?_eq company p))
    rw [cd, dc]
    by_cases hkey : company = c.header.company ∧ p = c.dayPrefix
    · have hother : ¬ (company = d.header.company ∧ p = d.dayPrefix) := by
        intro hd
        exact h.counters_ne ⟨hd.1.symm.trans hkey.1, hd.2.symm.trans hkey.2⟩
      rw [if_pos hkey, if_neg hother, if_pos hkey]
    · rw [if_neg hkey, if_neg hkey]
  days := by
    have old : s.entries.map (StoredEntry.seen id) = s.entries.map (StoredEntry.seen s.exchange) := by
      refine List.map_congr_left fun e he => ?_
      obtain ⟨k, hk, hid⟩ := sound.issued e he
      have hexchange := s.exchange_issued hk
      rw [← hid] at hexchange
      rw [StoredEntry.seen, StoredEntry.seen, Entry.renamed, Entry.renamed, hexchange]
      rfl
    let s₁ := c.leaves s now n cells K
    let t₁ := d.leaves s now' m cells' L
    -- the first entry has the identifier of the second one in the other order
    have hc : (c.row t₁ now n cells).seen id = (c.row s now n cells).seen s.exchange :=
      seen_row c s.exchange_next now n cells
    have hd : (d.row s now' m cells').seen id = (d.row s₁ now' m cells').seen s.exchange :=
      seen_row d (s := s₁) s.exchange_afterNext now' m cells'
    show SameByKey _
      ((s.entries ++ [d.row s now' m cells'] ++ [c.row t₁ now n cells]).map (StoredEntry.seen id))
      ((s.entries ++ [c.row s now n cells] ++ [d.row s₁ now' m cells']).map (StoredEntry.seen s.exchange))
    simp only [List.map_append, List.map_singleton, old, hc, hd]
    refine .swap (fun same => h.apart ?_) _
    exact ⟨(congrArg Prod.fst same).symm, (congrArg Prod.snd same).symm⟩
  numbers company := by
    let ofC := if c.header.company = company then [EntryNumber.format c.dayPrefix n] else []
    let ofD := if d.header.company = company then [EntryNumber.format d.dayPrefix m] else []
    have cd : (d.leaves (c.leaves s now n cells K) now' m cells' K').numbersOf company = _ :=
      (Store.numbersOf_withEntry _ _ _ _ company).trans
        (congrArg (· ++ ofD) (Store.numbersOf_withEntry s K (c.entry s now n cells) n company))
    have dc : (c.leaves (d.leaves s now' m cells' L) now n cells L').numbersOf company = _ :=
      (Store.numbersOf_withEntry _ _ _ _ company).trans
        (congrArg (· ++ ofC) (Store.numbersOf_withEntry s L (d.entry s now' m cells') m company))
    refine ⟨s.numbersOf company, ofC ++ ofD, ofD ++ ofC, cd.trans (List.append_assoc _ _ _),
      dc.trans (List.append_assoc _ _ _), List.perm_append_comm, fun x hx => ?_⟩
    rcases List.mem_append.mp hx with hx | hx
    · obtain ⟨-, hx⟩ := List.mem_ite_nil_right.mp hx
      rw [List.mem_singleton.mp hx]
      exact hc.sequenceOf counted
    · obtain ⟨-, hx⟩ := List.mem_ite_nil_right.mp hx
      rw [List.mem_singleton.mp hx]
      exact hd.sequenceOf counted

/-! ## Either order -/

/-- One of them made after the other one, after a run. -/
theorem Independent.run_second (h : c.Independent d) (sessions : List Session)
    (hc : c.Goes (Store.after sessions) now n cells) (hd : d.Goes (Store.after sessions) now' m cells')
    {K : List Counter} (first : Allocation (Store.after sessions) c.header.company c.dayPrefix n K)
    (runC : ((c.under []).run (Store.after sessions)).2 = c.leaves (Store.after sessions) now n cells K) :
    ∃ K', Allocation (c.leaves (Store.after sessions) now n cells K) d.header.company d.dayPrefix m K' ∧
      ((d.under []).run (Store.after (sessions ++ [c.under []]))).1 = .ok (.entry (d.entry
        (c.leaves (Store.after sessions) now n cells K) now' m (numberLines 1 d.lines))) ∧
      Store.after (sessions ++ [c.under [], d.under []]) =
        d.leaves (c.leaves (Store.after sessions) now n cells K) now' m cells' K' := by
  have afterC : Store.after (sessions ++ [c.under []]) = c.leaves (Store.after sessions) now n cells K := by
    rw [Store.after_concat, runC]
  have later := h.goes_later hc hd (Store.after_counted sessions) first
  obtain ⟨K', second, run⟩ := later.run (afterC ▸ Store.after_sound (sessions ++ [c.under []]))
    (afterC ▸ Store.after_counted (sessions ++ [c.under []]))
  refine ⟨K', second, ?_, ?_⟩
  · rw [afterC, run]
  · rw [← List.singleton_append, ← List.append_assoc, Store.after_concat, afterC, run]

/-- After every run, two creations that each answer alone, for different companies or days under one word
    that nothing ends early, answer the same in either order, up to the identifiers of the new entries, and
    leave stores of which the same is read. The patterns for the numbers of both days are not to be too
    long, and all amounts in the store whole numbers that are small enough together. -/
theorem creations_commute (sessions : List Session) (independent : c.Independent d)
    (hx : ((c.under []).run (Store.after sessions)).1 = .ok (.entry x))
    (hy : ((d.under []).run (Store.after sessions)).1 = .ok (.entry y))
    (whole : Line.WholeNumbers (Store.after (sessions ++ [c.under [], d.under []])).lines) :
    ((d.under []).run (Store.after (sessions ++ [c.under []]))).1 =
        .ok (.entry (y.renamed (Store.after sessions).exchange)) ∧
      ((c.under []).run (Store.after (sessions ++ [d.under []]))).1 =
        .ok (.entry (x.renamed (Store.after sessions).exchange)) ∧
      (Store.after (sessions ++ [c.under [], d.under []])).ReadsAs (Store.after sessions).exchange
        (Store.after (sessions ++ [d.under [], c.under []])) := by
  have sound := Store.after_sound sessions
  have counted := Store.after_counted sessions
  obtain ⟨now, n, cells, hc⟩ := goes_of_answer sound counted hx
  obtain ⟨now', m, cells', hd⟩ := goes_of_answer sound counted hy
  obtain ⟨K, first, runC⟩ := hc.run sound counted
  obtain ⟨L, first', runD⟩ := hd.run sound counted
  obtain ⟨K', second, answerD, afterCD⟩ := independent.run_second sessions hc hd first (by rw [runC])
  obtain ⟨L', second', answerC, afterDC⟩ := independent.symm.run_second sessions hd hc first' (by rw [runD])
  have rearranged := independent.rearranged sound counted hc hd first second first' second'
  rw [← afterCD, ← afterDC] at rearranged
  refine ⟨?_, ?_, rearranged.reads (Store.after_sound _) (Store.after_sound _) (Store.after_chartered _)
    (Store.after_chartered _) (Store.after sessions).exchange.injective whole⟩
  · rw [runD] at hy
    rw [answerD, ← entry_renamed d (Store.after sessions).exchange_next]
    cases hy
    rfl
  · rw [runC] at hx
    rw [answerC, ← entry_renamed c (Store.after sessions).exchange_next]
    cases hx
    rfl

/-- A posted entry of 100 of a day, with a number that starts with a word. -/
def hundredOn (word : String) (date : Date) : Creation :=
  { hundred with
    setting := { hundred.setting with numberWord := word }
    header := { hundred.header with date } }

/-- The number of the entry that a call answers. -/
def answeredNumber : Except Failure ServiceAnswer → Option String
  | .ok (.entry e) => some e.number
  | _ => none

theorem of_answeredNumber (r : Except Failure ServiceAnswer) (number : String)
    (h : answeredNumber r = some number) : ∃ e, r = .ok (.entry e) ∧ e.number = number := by
  unfold answeredNumber at h
  split at h
  · next e => exact ⟨e, rfl, Option.some.inj h⟩
  · cases h

/-- The lines of such an entry as they are stored. -/
def hundredLines : List (Line Cell) :=
  [⟨Uuid.issue 0, 1, .int 100, .int 0, none⟩, ⟨Uuid.issue 1, 2, .int 0, .int 100, none⟩]

theorem wholeNumbers_hundreds : Line.WholeNumbers (hundredLines ++ hundredLines) := by
  have zero : (Cell.int 0).amount = 0 := (Cell.toDecimal_int (n := 0) (by norm_num)).2
  have hundred : (Cell.int 100).amount = 100 := (Cell.toDecimal_int (n := 100) (by norm_num)).2
  have zeroWhole : (Cell.int 0).IsWhole := ⟨0, rfl, by norm_num⟩
  have hundredWhole : (Cell.int 100).IsWhole := ⟨100, rfl, by norm_num⟩
  refine ⟨by simp [hundredLines, zeroWhole, hundredWhole], ?_, ?_⟩
  · norm_num [hundredLines, zero, hundred]
  · norm_num [hundredLines, zero, hundred]

/-- Under a word with both wildcards, the entries of both days have the first number in either order. -/
theorem creations_commute_hundreds :
    ∃ x y, let c := hundredOn "JE_%" firstDay
      let d := hundredOn "JE_%" laterDay
      let s := Store.after [Session.opensTwoAccounts]
      c.Independent d ∧ ((c.under []).run s).1 = .ok (.entry x) ∧ ((d.under []).run s).1 = .ok (.entry y) ∧
        x.number = "JE_%-20240105-001" ∧ y.number = "JE_%-20240206-001" ∧
        ((d.under []).run (Store.after [Session.opensTwoAccounts, c.under []])).1 =
          .ok (.entry (y.renamed s.exchange)) ∧
        ((c.under []).run (Store.after [Session.opensTwoAccounts, d.under []])).1 =
          .ok (.entry (x.renamed s.exchange)) ∧
        (Store.after [Session.opensTwoAccounts, c.under [], d.under []]).ReadsAs s.exchange
          (Store.after [Session.opensTwoAccounts, d.under [], c.under []]) := by
  have independent : (hundredOn "JE_%" firstDay).Independent (hundredOn "JE_%" laterDay) :=
    ⟨rfl, by simp [hundredOn], ⟨by decide +kernel, by decide +kernel⟩, by decide⟩
  obtain ⟨x, hx, hxn⟩ := of_answeredNumber ((((hundredOn "JE_%" firstDay).under []).run
    (Store.after [Session.opensTwoAccounts])).1) "JE_%-20240105-001" (by decide +kernel)
  obtain ⟨y, hy, hyn⟩ := of_answeredNumber ((((hundredOn "JE_%" laterDay).under []).run
    (Store.after [Session.opensTwoAccounts])).1) "JE_%-20240206-001" (by decide +kernel)
  have lines : (Store.after [Session.opensTwoAccounts, (hundredOn "JE_%" firstDay).under [],
      (hundredOn "JE_%" laterDay).under []]).lines = hundredLines ++ hundredLines := by decide +kernel
  have whole := wholeNumbers_hundreds
  rw [← lines] at whole
  exact ⟨x, y, independent, hx, hy, hxn, hyn,
    creations_commute [Session.opensTwoAccounts] independent hx hy whole⟩

/-- A word that ends the pattern early makes the entries of one day count for the other one: made second,
    the entry of the later day has the number 2. -/
theorem creations_commute_false_of_zero_character :
    ¬ ∀ (sessions : List Session) (c d : Creation), d.setting = c.setting →
      ¬ (c.header.company = d.header.company ∧ c.header.date = d.header.date) →
      Line.WholeNumbers (Store.after (sessions ++ [c.under [], d.under []])).lines → ∀ x y y',
        ((c.under []).run (Store.after sessions)).1 = .ok (.entry x) →
        ((d.under []).run (Store.after sessions)).1 = .ok (.entry y) →
        ((d.under []).run (Store.after (sessions ++ [c.under []]))).1 = .ok (.entry y') →
          y'.number = y.number := by
  intro h
  obtain ⟨x, hx, -⟩ := of_answeredNumber ((((hundredOn "\x00" firstDay).under []).run
    (Store.after [Session.opensTwoAccounts])).1) "\x00-20240105-001" (by decide +kernel)
  obtain ⟨y, hy, first⟩ := of_answeredNumber ((((hundredOn "\x00" laterDay).under []).run
    (Store.after [Session.opensTwoAccounts])).1) "\x00-20240206-001" (by decide +kernel)
  obtain ⟨y', hy', second⟩ := of_answeredNumber ((((hundredOn "\x00" laterDay).under []).run
    (Store.after [Session.opensTwoAccounts, (hundredOn "\x00" firstDay).under []])).1)
    "\x00-20240206-002" (by decide +kernel)
  have lines : (Store.after [Session.opensTwoAccounts, (hundredOn "\x00" firstDay).under [],
      (hundredOn "\x00" laterDay).under []]).lines = hundredLines ++ hundredLines := by decide +kernel
  have whole := wholeNumbers_hundreds
  rw [← lines] at whole
  have same := h [Session.opensTwoAccounts] (hundredOn "\x00" firstDay) (hundredOn "\x00" laterDay) rfl
    (by decide) whole x y y' hx hy hy'
  rw [first, second] at same
  exact absurd same (by decide)

end Creation

end Bookkeeping
