import Bookkeeping.Proofs.FreshNumbers
import Bookkeeping.Proofs.NumberReading
import Bookkeeping.Proofs.StoredSums

set_option autoImplicit false

/-! # The supply of numbers

A day runs out of numbers only when its counter leaves 64 bits. A run takes one number a call at most, so
the numbers and counters of a run are no larger than its length (`Store.Ahead`), and a sequence that was
written into a number is read back from it (`EntryNumber.sequenceOf_format`). So the next number of a day
is foretold and can be allocated after every run of less than `2 ^ 63 - 2` calls, as long as the pattern
for the numbers of the day is not too long (`Store.number_supplied`).

`Store.Ahead` also holds when counters are lost: then the numbers that exist are looked through, and the
pattern of a day finds all of them, so the next number is still not in use (`Store.Ahead.numberFree`). -/

namespace Bookkeeping

/-- The sequence of a number is read back from it. -/
theorem EntryNumber.sequenceOf_format {n : Int} (p : String) (hn : 0 ≤ n) (hlt : n < 2 ^ 63) :
    sequenceOf (format p n) = .ok (some n) := by
  obtain ⟨m, rfl⟩ := Int.eq_ofNat_of_zero_le hn
  exact sequenceOf_format_natCast p (length_natText_le (by omega))

/-! ## Numbers and calls -/

theorem Session.length_events (s : Store) (xs : List Session) : (events s xs).length = xs.length := by
  induction xs generalizing s with
  | nil => rfl
  | cons x xs ih => rw [events, List.length_cons, List.length_cons, ih]

namespace Store

variable {clock : Clock} {word : String} {s s' : Store} {ev : Event} {k : Nat} {company : Uuid}
  {dayPrefix : String} {n : Int}

/-- There are at most `k` entries, numbered up to `k` at most; a counter is at most one further, and has
    moved past the numbers that it stands for. -/
structure Ahead (k : Nat) (s : Store) : Prop where
  entries : s.entries.length ≤ k
  counters : ∀ company dayPrefix c, s.counter? company dayPrefix = some c → 0 ≤ c.next ∧ c.next ≤ k + 1
  stored : ∀ a ∈ s.entries, ∃ (dayPrefix : String) (n : Int), 0 ≤ n ∧ n ≤ k ∧
    a.entry.number = EntryNumber.format dayPrefix n ∧
    ∀ c, s.counter? a.entry.company dayPrefix = some c → n < c.next

theorem Ahead.empty : ({} : Store).Ahead 0 := ⟨le_rfl, fun _ _ _ h => (nomatch h), fun _ h => (nomatch h)⟩

/-- The largest of sequences up to a limit is found, and is within the limit. -/
theorem largestSequence_le {limit best : Int} {numbers : List String} (hbest : best ≤ limit)
    (each : ∀ number ∈ numbers, ∃ m, EntryNumber.sequenceOf number = .ok (some m) ∧ m ≤ limit) :
    ∃ n, largestSequence best numbers = .ok n ∧ n ≤ limit := by
  induction numbers generalizing best with
  | nil => exact ⟨best, rfl, hbest⟩
  | cons number rest ih =>
      obtain ⟨m, hm, hle⟩ := each number (by simp)
      obtain ⟨n, hn, hlimit⟩ := ih (max_le hbest hle) fun x hx => each x (by simp [hx])
      refine ⟨n, ?_, hlimit⟩
      rw [largestSequence, hm]
      exact hn

/-- The numbers that are looked through are numbers of entries. -/
theorem numbersLike_ok {numbers : List String} (h : s.numbersLike company dayPrefix = .ok numbers) :
    numbers.length ≤ s.entries.length ∧ ∀ x ∈ numbers, ∃ a ∈ s.entries, a.entry.number = x := by
  unfold numbersLike keepMatches at h
  dsimp only at h
  split at h <;> cases h
  refine ⟨?_, fun x hx => ?_⟩
  · refine (List.length_filter_le _ _).trans ?_
    rw [List.length_map]
    exact List.length_filter_le _ _
  · obtain ⟨a, ha, rfl⟩ := List.mem_map.mp (List.mem_of_mem_filter hx)
    exact ⟨a, List.mem_of_mem_filter ha, rfl⟩

/-- Numbers are not looked through when the pattern of the day is too long. -/
theorem numbersLike_error {f : Failure} (h : s.numbersLike company dayPrefix = .error f) :
    Text.isPatternTooLong (dayPrefix ++ "-%") = true ∧ f = longPattern := by
  unfold numbersLike keepMatches at h
  dsimp only at h
  split at h
  · next long =>
      cases h
      exact ⟨(Bool.and_eq_true_iff.mp long).1, rfl⟩
  · cases h

/-- The numbers that are looked through are all numbers that start with the day. -/
theorem mem_numbersLike {numbers : List String} (h : s.numbersLike company dayPrefix = .ok numbers)
    {a : StoredEntry} (ha : a ∈ s.entries) (hcompany : a.entry.company = company)
    (number : a.entry.number = EntryNumber.format dayPrefix n) : a.entry.number ∈ numbers := by
  unfold numbersLike keepMatches at h
  dsimp only at h
  split at h <;> cases h
  refine List.mem_filter.mpr ⟨List.mem_map_of_mem (List.mem_filter.mpr ⟨ha, by simpa using hcompany⟩), ?_⟩
  rw [number]
  exact EntryNumber.likeMatches_format dayPrefix n

/-- The largest of sequences is at least each of them. -/
theorem le_largestSequence_of_mem {best highest m : Int} {numbers : List String}
    (h : largestSequence best numbers = .ok highest) {number : String} (hnumber : number ∈ numbers)
    (hm : EntryNumber.sequenceOf number = .ok (some m)) : m ≤ highest := by
  induction numbers generalizing best with
  | nil => cases hnumber
  | cons x rest ih =>
      obtain ⟨y, hy, h⟩ := bind_eq_ok h
      rcases List.mem_cons.mp hnumber with rfl | hnumber
      · cases hy.symm.trans hm
        exact (le_max_right _ _).trans (le_largestSequence h)
      · exact ih h hnumber

theorem numbersLike_of_short (s : Store) (company : Uuid)
    (short : Text.isPatternTooLong (dayPrefix ++ "-%") = false) :
    ∃ numbers, s.numbersLike company dayPrefix = .ok numbers := by
  unfold numbersLike keepMatches
  dsimp only
  rw [short, Bool.false_and, if_neg Bool.false_ne_true]
  exact ⟨_, rfl⟩

/-- The numbers that exist are at most `k`. -/
theorem Ahead.highestExisting (h : s.Ahead k) (few : k + 2 < 2 ^ 63) {numbers : List String}
    (hnumbers : s.numbersLike company dayPrefix = .ok numbers) :
    ∃ n, s.highestExisting company dayPrefix = .ok n ∧ n ≤ k := by
  obtain ⟨hlength, stored⟩ := numbersLike_ok hnumbers
  have hbest : (numbers.length : Int) ≤ k := by exact_mod_cast hlength.trans h.entries
  obtain ⟨n, hn, hle⟩ := largestSequence_le hbest fun x hx => by
    obtain ⟨a, ha, rfl⟩ := stored x hx
    obtain ⟨p, m, hm, hmk, hnumber, -⟩ := h.stored a ha
    rw [hnumber]
    exact ⟨m, EntryNumber.sequenceOf_format p hm (by omega), hmk⟩
  refine ⟨n, ?_, hle⟩
  rw [Store.highestExisting, hnumbers]
  exact hn

theorem Ahead.peekSequence_nonneg (h : s.Ahead k) (hn : s.peekSequence company dayPrefix = .ok n) :
    0 ≤ n :=
  Store.peekSequence_nonneg (fun c hc => (h.counters company dayPrefix c hc).1) hn

/-- The number that is allocated next is at most one larger than the numbers that exist. -/
theorem Ahead.peekSequence_le (h : s.Ahead k) (few : k + 2 < 2 ^ 63)
    (hn : s.peekSequence company dayPrefix = .ok n) : n ≤ k + 1 := by
  unfold peekSequence at hn
  cases hc : s.counter? company dayPrefix with
  | some c =>
      rw [hc] at hn
      cases hn
      exact (h.counters _ _ _ hc).2
  | none =>
      rw [hc] at hn
      obtain ⟨highest, hhighest, hn⟩ := bind_eq_ok hn
      obtain ⟨numbers, hnumbers, -⟩ := bind_eq_ok hhighest
      obtain ⟨m, hm, hle⟩ := h.highestExisting few hnumbers
      cases hhighest.symm.trans hm
      cases hn
      omega

/-- The number that is allocated next is foretold. -/
theorem Ahead.peekSequence_ok (h : s.Ahead k) (few : k + 2 < 2 ^ 63) (company : Uuid)
    (short : s.counter? company dayPrefix = none → Text.isPatternTooLong (dayPrefix ++ "-%") = false) :
    ∃ n, s.peekSequence company dayPrefix = .ok n := by
  unfold peekSequence
  cases hc : s.counter? company dayPrefix with
  | some c => exact ⟨c.next, rfl⟩
  | none =>
      obtain ⟨numbers, hnumbers⟩ := s.numbersLike_of_short company (short hc)
      obtain ⟨n, hn, -⟩ := h.highestExisting few hnumbers
      dsimp only
      rw [hn]
      exact ⟨n + 1, rfl⟩

/-- The number that is allocated next is larger than those that exist, also when its counter was lost. -/
theorem Ahead.lt_peekSequence (h : s.Ahead k) (few : k + 2 < 2 ^ 63) {a : StoredEntry}
    (ha : a ∈ s.entries) {m : Int} (hm : 0 ≤ m)
    (number : a.entry.number = EntryNumber.format dayPrefix m)
    (hn : s.peekSequence a.entry.company dayPrefix = .ok n) : m < n := by
  obtain ⟨p, m', hm', hle, hstored, behind⟩ := h.stored a ha
  obtain ⟨rfl, rfl⟩ := EntryNumber.format_cancel hm hm' (number.symm.trans hstored)
  unfold peekSequence at hn
  cases hc : s.counter? a.entry.company dayPrefix with
  | some c =>
      rw [hc] at hn
      cases hn
      exact behind c hc
  | none =>
      rw [hc] at hn
      obtain ⟨highest, hhighest, hn⟩ := bind_eq_ok hn
      obtain ⟨numbers, hnumbers, hlargest⟩ := bind_eq_ok hhighest
      have hread : EntryNumber.sequenceOf a.entry.number = .ok (some m) := by
        rw [number]
        exact EntryNumber.sequenceOf_format dayPrefix hm (by omega)
      have hhigh := le_largestSequence_of_mem hlargest (mem_numbersLike hnumbers ha rfl number) hread
      cases hn
      omega

/-- The number that is allocated next is not in use. -/
theorem Ahead.numberFree (h : s.Ahead k) (few : k + 2 < 2 ^ 63)
    (hn : s.peekSequence company dayPrefix = .ok n) :
    s.numberTaken company (EntryNumber.format dayPrefix n) = false := by
  rw [numberTaken, List.any_eq_false]
  intro a ha taken
  obtain ⟨hcompany, hnumber⟩ := Bool.and_eq_true_iff.mp taken
  obtain rfl := beq_iff_eq.mp hcompany
  exact lt_irrefl _ (h.lt_peekSequence few ha (h.peekSequence_nonneg hn) (beq_iff_eq.mp hnumber) hn)

/-- Without a counter no number is allocated where numbers are not looked through. -/
theorem allocate_of_numbersLike_error (counter : s.counter? company dayPrefix = none) {f : Failure}
    (numbers : s.numbersLike company dayPrefix = .error f) : s.allocate company dayPrefix = .error f := by
  unfold allocate Store.highestExisting
  rw [counter]
  dsimp only
  rw [numbers]
  rfl

/-- The next number is allocated, unless the numbers of the day cannot be searched for. -/
theorem Ahead.allocate (h : s.Ahead k) (few : k + 2 < 2 ^ 63) (company : Uuid) (dayPrefix : String) :
    (∃ q, s.allocate company dayPrefix = .ok q) ∨
      Text.isPatternTooLong (dayPrefix ++ "-%") = true ∧
        s.allocate company dayPrefix = .error longPattern := by
  -- a number that is foretold is small enough for its counter
  have allocated {n : Int} (hn : s.peekSequence company dayPrefix = .ok n) :
      ∃ q, s.allocate company dayPrefix = .ok q := by
    have hle := h.peekSequence_le few hn
    have hnonneg := h.peekSequence_nonneg hn
    exact allocate_of_peekSequence hn (Cell.fits_of_nonneg (by omega) (by omega))
  cases counter : s.counter? company dayPrefix with
  | some c =>
      refine .inl (allocated (n := c.next) ?_)
      rw [peekSequence, counter]
  | none =>
      cases hnumbers : s.numbersLike company dayPrefix with
      | ok numbers =>
          obtain ⟨n, hn, -⟩ := h.highestExisting few hnumbers
          refine .inl (allocated (n := n + 1) ?_)
          rw [peekSequence, counter]
          dsimp only
          rw [hn]
          rfl
      | error f =>
          obtain ⟨long, rfl⟩ := numbersLike_error hnumbers
          exact .inr ⟨long, allocate_of_numbersLike_error counter hnumbers⟩

/-- A pattern that is too long is noticed when a company with entries begins another day. -/
theorem allocate_of_longPattern (long : Text.isPatternTooLong (dayPrefix ++ "-%") = true)
    (counter : s.counter? company dayPrefix = none) {a : StoredEntry} (ha : a ∈ s.entries)
    (hcompany : a.entry.company = company) : s.allocate company dayPrefix = .error longPattern := by
  have something : ((s.entries.filter fun e => e.entry.company == company).map
      fun e => e.entry.number).isEmpty = false := by
    rw [List.isEmpty_map, List.isEmpty_eq_false_iff]
    exact List.ne_nil_of_mem (List.mem_filter.mpr ⟨ha, by simpa using hcompany⟩)
  refine allocate_of_numbersLike_error counter ?_
  unfold numbersLike keepMatches
  dsimp only
  rw [long, something]
  rfl

/-- The first number of all is 1, whatever the length of the pattern. -/
theorem peekSequence_of_empty (entries : s.entries = []) (counters : s.counters = []) (company : Uuid)
    (dayPrefix : String) : s.peekSequence company dayPrefix = .ok 1 := by
  unfold peekSequence counter? Store.highestExisting numbersLike keepMatches
  rw [entries, counters]
  simp [largestSequence, bind, Except.bind, pure, Except.pure]

/-- What makes no counter and no entry. -/
theorem Ahead.kept (h : s.Ahead k)
    (counters : ∀ company dayPrefix c, s'.counter? company dayPrefix = some c →
      s.counter? company dayPrefix = some c)
    (entries : s'.entries.length ≤ s.entries.length) (numbers : s'.numbers ⊆ s.numbers) :
    s'.Ahead (k + 1) := by
  refine ⟨by have := h.entries; omega, fun company p c hc => ?_, fun a' ha' => ?_⟩
  · obtain ⟨hnonneg, hle⟩ := h.counters company p c (counters company p c hc)
    push_cast
    omega
  · obtain ⟨a, ha, hcompany, hnumber⟩ := mem_numbers.mp (numbers (mem_numbers.mpr ⟨a', ha', rfl, rfl⟩))
    obtain ⟨p, m, hm, hle, hstored, behind⟩ := h.stored a ha
    refine ⟨p, m, hm, by push_cast; omega, hnumber.symm.trans hstored, fun c hc => ?_⟩
    rw [← hcompany] at hc
    exact behind c (counters _ _ _ hc)

/-- A new entry takes one number. -/
theorem Ahead.created (h : s.Ahead k) (few : k + 2 < 2 ^ 63) {e : Entry Cell} {counters : List Counter}
    (allocation : Allocation s e.company dayPrefix n counters)
    (number : e.number = EntryNumber.format dayPrefix n) : (s.withEntry counters e n).Ahead (k + 1) := by
  have hnonneg := h.peekSequence_nonneg allocation.number
  have hle := h.peekSequence_le few allocation.number
  have counter : (s.withEntry counters e n).counter? e.company dayPrefix =
      some ⟨e.company, dayPrefix, n + 1⟩ := allocation.counter
  have others {company : Uuid} {p : String} (hne : ¬ (company = e.company ∧ p = dayPrefix)) :
      (s.withEntry counters e n).counter? company p = s.counter? company p :=
    allocation.others company p hne
  refine ⟨?_, fun company p c hc => ?_, fun a ha => ?_⟩
  · rw [withEntry, List.length_append, List.length_singleton]
    exact Nat.succ_le_succ h.entries
  · push_cast
    by_cases hsame : company = e.company ∧ p = dayPrefix
    · obtain ⟨rfl, rfl⟩ := hsame
      obtain rfl := Option.some.inj (counter.symm.trans hc)
      dsimp only
      omega
    · rw [others hsame] at hc
      obtain ⟨hbefore, hbound⟩ := h.counters company p c hc
      omega
  · push_cast
    rcases List.mem_append.mp ha with ha | ha
    · obtain ⟨p, m, hm, hmk, hstored, behind⟩ := h.stored a ha
      refine ⟨p, m, hm, by omega, hstored, fun c hc => ?_⟩
      by_cases hsame : a.entry.company = e.company ∧ p = dayPrefix
      · obtain ⟨hcompany, rfl⟩ := hsame
        have hlt := h.lt_peekSequence few ha hm hstored (hcompany ▸ allocation.number)
        rw [hcompany] at hc
        obtain rfl := Option.some.inj (counter.symm.trans hc)
        exact hlt.trans (lt_add_one n)
      · exact behind c ((others hsame).symm.trans hc)
    · rw [List.mem_singleton.mp ha]
      refine ⟨dayPrefix, n, hnonneg, hle, number, fun c hc => ?_⟩
      obtain rfl := Option.some.inj (counter.symm.trans hc)
      exact lt_add_one n

/-- A call takes one number at most. -/
theorem Ahead.step (h : s.Ahead k) (few : k + 2 < 2 ^ 63) (hs : s.Step clock word ev s') :
    s'.Ahead (k + 1) := by
  cases hs.numberStep with
  | kept _ counters numbers =>
      have hlength := congrArg List.length numbers
      rw [Store.numbers, Store.numbers, List.length_map, List.length_map] at hlength
      refine h.kept (fun company p c hc => ?_) hlength.le fun x hx => numbers ▸ hx
      rwa [counter?, counters] at hc
  | deleted => exact h.kept (fun _ _ _ hc => hc) (List.length_filter_le _ _) (numbers_filter_subset _)
  | created company same allocation number =>
      exact h.created few (company ▸ allocation) (same.trans number)

/-- After a run there are no more numbers than there were calls. -/
theorem after_ahead (sessions : List Session) (few : sessions.length + 1 < 2 ^ 63) :
    (after sessions).Ahead sessions.length := by
  have hrun := run_invariant (W := fun _ => True)
    (P := fun history s => history.length + 1 < 2 ^ 63 → s.Ahead history.length)
    (fun _ => .empty) (fun {_ _ history _ _ _} _ ahead hs few => by
      rw [List.length_append, List.length_singleton] at few ⊢
      exact (ahead (by omega)).step few hs) sessions fun _ _ => trivial
  have hlength : (History.of sessions).length = sessions.length := Session.length_events {} sessions
  rw [hlength] at hrun
  exact hrun few

/-- After a run that is not too long, the next number of a day is foretold and can be allocated, unless
    the pattern for the numbers of the day is too long. -/
theorem number_supplied (sessions : List Session) (few : sessions.length + 2 < 2 ^ 63) (company : Uuid)
    (short : Text.isPatternTooLong (dayPrefix ++ "-%") = false) :
    ∃ n, (after sessions).peekSequence company dayPrefix = .ok n ∧ Cell.fits (n + 1) = true := by
  have ahead := after_ahead sessions (by omega)
  obtain ⟨n, hn⟩ := ahead.peekSequence_ok few company fun _ => short
  have hle := ahead.peekSequence_le few hn
  have hnonneg := ahead.peekSequence_nonneg hn
  exact ⟨n, hn, Cell.fits_of_nonneg (by omega) (by omega)⟩

end Store

/-! ## Words of ordinary length -/

/-- A character takes four bytes at most. -/
theorem Text.utf8ByteSize_le (s : String) : s.utf8ByteSize ≤ 4 * s.toList.length := by
  have bytes (cs : List Char) : (String.ofList cs).utf8ByteSize ≤ 4 * cs.length := by
    induction cs with
    | nil => exact Nat.zero_le _
    | cons c rest ih =>
        have hc : (String.ofList [c]).utf8ByteSize = c.utf8Size := by simp
        rw [← List.singleton_append, String.ofList_append, String.utf8ByteSize_append, hc,
          List.length_append, List.length_singleton]
        have := c.utf8Size_le_four
        omega
  have h := bytes s.toList
  rwa [String.ofList_toList] at h

/-- The pattern for the numbers of a day is not too long when their word is not. -/
theorem EntryNumber.pattern_short {word : String} (h : word.utf8ByteSize ≤ 1000) (date : Date) :
    Text.isPatternTooLong (dayPrefix word date ++ "-%") = false := by
  have hday := Text.utf8ByteSize_le date.compactText
  have hlength := date.length_compactText_le
  have hyphen : "-".utf8ByteSize = 1 := by decide
  have hwildcard : "-%".utf8ByteSize = 2 := by decide
  rw [Text.isPatternTooLong, decide_eq_false_iff_not, Text.maxPattern, dayPrefix,
    String.utf8ByteSize_append, String.utf8ByteSize_append, String.utf8ByteSize_append, hyphen, hwildcard]
  omega

end Bookkeeping
