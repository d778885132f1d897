import Bookkeeping.Proofs.NumberPreview

set_option autoImplicit false

/-! # Looking through numbers

Where a day has no counter, its next number is found by reading the numbers that the pattern of the day
finds. This answers exactly when each of them is readable (`Store.highestExisting_answers_iff`), and the
numbers that calls have given out always are (`Turn.after_readable`). A number that was put into the store
from outside may end in characters that have a digit value and are no decimal digits; then no number of the day
is found any more (`numbers_scanned_false_of_superscript`). -/

namespace Bookkeeping

namespace Store

/-- The largest sequence is found exactly among readable numbers. -/
theorem largestSequence_answers_iff (best : Int) (numbers : List String) :
    (∃ n, largestSequence best numbers = .ok n) ↔ ∀ x ∈ numbers, EntryNumber.Readable x := by
  induction numbers generalizing best with
  | nil => exact iff_of_true ⟨best, rfl⟩ nofun
  | cons x rest ih =>
      rw [List.forall_mem_cons, largestSequence]
      by_cases readable : EntryNumber.Readable x
      · obtain ⟨r, hr⟩ := readable.sequenceOf
        rw [hr, and_iff_right readable]
        exact ih _
      · obtain ⟨f, hf⟩ := EntryNumber.sequenceOf_of_not_readable readable
        rw [hf]
        refine iff_of_false ?_ fun h => readable h.1
        rintro ⟨n, hn⟩
        cases hn

/-- The highest sequence in use on a day is found exactly when the numbers of the day are found, and all of
    them are readable. It is not negative. -/
theorem highestExisting_answers_iff (s : Store) (company : Uuid) (dayPrefix : String) :
    (∃ n : Nat, s.highestExisting company dayPrefix = .ok (n : Int)) ↔
      ∃ numbers, s.numbersLike company dayPrefix = .ok numbers ∧
        ∀ x ∈ numbers, EntryNumber.Readable x := by
  constructor
  · rintro ⟨n, hn⟩
    obtain ⟨numbers, hnumbers, hn⟩ := bind_eq_ok hn
    exact ⟨numbers, hnumbers, (largestSequence_answers_iff _ _).mp ⟨n, hn⟩⟩
  · rintro ⟨numbers, hnumbers, readable⟩
    obtain ⟨n, hn⟩ := (largestSequence_answers_iff numbers.length numbers).mpr readable
    -- it is at least the count of the numbers
    have hle := le_largestSequence hn
    obtain ⟨m, rfl⟩ := Int.eq_ofNat_of_zero_le ((Int.natCast_nonneg _).trans hle)
    refine ⟨m, ?_⟩
    rw [highestExisting, hnumbers]
    exact hn

end Store

/-- The numbers that were given out in turns are readable. -/
theorem Turn.after_readable (turns : List Turn) (few : turns.length + 1 < 2 ^ 63) {a : StoredEntry}
    (ha : a ∈ (after turns).entries) : EntryNumber.Readable a.entry.number := by
  obtain ⟨p, n, hn, hle, number, -⟩ := (after_keeps turns few).2.stored a ha
  obtain ⟨m, rfl⟩ := Int.eq_ofNat_of_zero_le hn
  rw [number, EntryNumber.readable_format_iff]
  exact EntryNumber.length_natText_le (by omega)

/-- So the numbers that were given out in turns are looked through, unless the pattern is too long. -/
theorem Turn.after_highestExisting (turns : List Turn) (few : turns.length + 1 < 2 ^ 63) (company : Uuid)
    {dayPrefix : String} (short : Text.isPatternTooLong (dayPrefix ++ "-%") = false) :
    ∃ n : Nat, (after turns).highestExisting company dayPrefix = .ok (n : Int) := by
  obtain ⟨numbers, hnumbers⟩ := (after turns).numbersLike_of_short company short
  refine (Store.highestExisting_answers_iff _ _ _).mpr ⟨numbers, hnumbers, fun x hx => ?_⟩
  obtain ⟨a, ha, rfl⟩ := (Store.numbersLike_ok hnumbers).2 x hx
  exact after_readable turns few ha

/-- From a text a sequence or none is read exactly if the text is readable, and the numbers of a day are looked
through exactly if all of them are. Numbers that only calls have given out always are, also after counters were
lost. -/
theorem numbers_scanned (number : String) (s : Store) (company : Uuid) (dayPrefix : String) :
    ((∃ r : Option Nat, EntryNumber.sequenceOf number = .ok (r.map Nat.cast)) ↔
      EntryNumber.Readable number) ∧
    ((∃ n : Nat, s.highestExisting company dayPrefix = .ok (n : Int)) ↔
      ∃ numbers, s.numbersLike company dayPrefix = .ok numbers ∧
        ∀ x ∈ numbers, EntryNumber.Readable x) ∧
    ∀ turns : List Turn, turns.length + 1 < 2 ^ 63 →
      Text.isPatternTooLong (dayPrefix ++ "-%") = false →
        ∃ n : Nat, (Turn.after turns).highestExisting company dayPrefix = .ok (n : Int) :=
  ⟨EntryNumber.sequenceOf_answers_iff number, s.highestExisting_answers_iff company dayPrefix,
    fun turns few short => Turn.after_highestExisting turns few company short⟩

/-- Two drafts of a company whose counters were lost are looked through. -/
theorem numbers_scanned_losesCounters :
    (Creation.losesCounters 2).length + 1 < 2 ^ 63 ∧
      Text.isPatternTooLong ("JE-20240105" ++ "-%") = false ∧
      ∃ n : Nat, (Turn.after (Creation.losesCounters 2)).highestExisting
        Creation.hundred.header.company "JE-20240105" = .ok (n : Int) :=
  ⟨by decide, by decide +kernel,
    (numbers_scanned "JE-20240105-002" (Turn.after (Creation.losesCounters 2)) _ "JE-20240105").2.2
      (Creation.losesCounters 2) (by decide) (by decide +kernel)⟩

/-- The store after a draft and the loss of its counter, when the number of the draft has been overwritten by
one that ends in a superscript. -/
def Store.withSuperscript : Store :=
  match (Turn.after (Creation.losesCounters 1)).renameEntry (Uuid.issue 2) "JE-20240105-²" with
  | .ok (_, s) => s
  | .error _ => {}

/-- A superscript has a digit value and is no decimal digit. From a number that ends in it nothing is read, and
once it stands for the number of an entry, no number of its day is found. -/
theorem numbers_scanned_false_of_superscript :
    (¬ ∀ number : String,
      ∃ r : Option Nat, EntryNumber.sequenceOf number = .ok (r.map Nat.cast)) ∧
    ¬ ∀ (s : Store) (company : Uuid) (dayPrefix : String),
      Text.isPatternTooLong (dayPrefix ++ "-%") = false →
        ∃ n : Nat, s.highestExisting company dayPrefix = .ok (n : Int) := by
  constructor
  · intro h
    obtain ⟨r, hr⟩ := h "JE-20240105-²"
    have refused : EntryNumber.sequenceOf "JE-20240105-²" = .error (.value (.number "²" .malformed)) := by
      decide +kernel
    rw [refused] at hr
    cases hr
  · intro h
    obtain ⟨n, hn⟩ := h .withSuperscript Creation.hundred.header.company "JE-20240105" (by decide +kernel)
    have refused : Store.withSuperscript.highestExisting Creation.hundred.header.company "JE-20240105" =
        .error (.value (.number "²" .malformed)) := by decide +kernel
    rw [refused] at hn
    cases hn

end Bookkeeping
