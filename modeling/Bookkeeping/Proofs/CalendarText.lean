import Bookkeeping.Calendar.Date
import Mathlib.Algebra.Order.Ring.Nat

set_option autoImplicit false

/-! # Days as text

A day is given back by its year, month and day of month (`dayNumber_civil`), which are those of a day of
the calendar (`civil_valid`), so month and day fit two digits; so days with the same compact text are the
same (`compactText_injective`). -/

namespace Bookkeeping

/-! ## Digits -/

namespace Text

/-- The number that ASCII digits denote. -/
def digitsNumber (cs : List Char) : Nat := Nat.ofDigitChars 10 cs 0

theorem digitsNumber_append (cs ds : List Char) :
    digitsNumber (cs ++ ds) = 10 ^ ds.length * digitsNumber cs + digitsNumber ds := by
  rw [digitsNumber, Nat.ofDigitChars_append, Nat.ofDigitChars_eq_ofDigitChars_zero]
  rfl

theorem toList_padZeros (width : Nat) (s : String) :
    (padZeros width s).toList = List.replicate (width - s.length) '0' ++ s.toList := by
  simp [padZeros]

theorem digitsNumber_natText (n : Nat) : digitsNumber (natText n).toList = n := by
  simp [digitsNumber, natText]

/-- Zeros in front of a number do not change it. -/
theorem digitsNumber_padZeros (width n : Nat) :
    digitsNumber (padZeros width (natText n)).toList = n := by
  rw [toList_padZeros, digitsNumber, Nat.ofDigitChars_append]
  simp [natText]

theorem isDigit_of_mem_natText {n : Nat} {c : Char} (h : c ∈ (natText n).toList) : c.isDigit := by
  rw [natText, Nat.toList_repr] at h
  exact Nat.isDigit_of_mem_toDigits (by decide) (by decide) h

theorem isDigit_of_mem_padZeros {width n : Nat} {c : Char}
    (h : c ∈ (padZeros width (natText n)).toList) : c.isDigit := by
  rw [toList_padZeros] at h
  rcases List.mem_append.mp h with h | h
  · rw [List.eq_of_mem_replicate h]
    decide
  · exact isDigit_of_mem_natText h

/-- A number below 100 fills two places. -/
theorem length_padZeros_two {n : Nat} (h : n < 100) :
    (padZeros 2 (natText n)).toList.length = 2 := by
  have hn : (natText n).length ≤ 2 := (Nat.length_repr_le_iff (by decide)).mpr h
  rw [toList_padZeros, List.length_append, List.length_replicate, String.length_toList]
  omega

end Text

namespace Date

/-! ## Years -/

theorem daysBeforeYear_succ (y : Nat) :
    daysBeforeYear (y + 1) = y * 365 + y / 4 - y / 100 + y / 400 := rfl

/-- The days before a year and those of the year before it. -/
theorem daysBeforeYear_yearOfDay (n : Nat) :
    daysBeforeYear (yearOfDay n) ≤ n ∧ n < daysBeforeYear (yearOfDay n + 1) := by
  unfold yearOfDay
  dsimp only
  -- the estimate from the length of 400 years is off by at most one
  generalize hq : n * 400 / 146097 = q
  split
  · next h =>
    constructor
    · simp only [daysBeforeYear] at h ⊢
      omega
    · simpa using h
  · next h =>
    split
    · next h' =>
      refine ⟨h', ?_⟩
      simp only [daysBeforeYear] at h h' ⊢
      omega
    · next h' => exact ⟨by omega, by omega⟩

/-! ## Months -/

/-- The month found is `i` after the first one, and the days of the months before it and the day in it
    make up the day of the year. -/
theorem monthOfDay_spec (lens : List Nat) (first r : Nat) :
    ∃ i, (monthOfDay lens first r).1 = first + i ∧ 1 ≤ (monthOfDay lens first r).2 ∧
      (lens.take i).sum + (monthOfDay lens first r).2 = r + 1 ∧
      (r < lens.sum → ∃ len, lens[i]? = some len ∧ (monthOfDay lens first r).2 ≤ len) := by
  induction lens generalizing first r with
  | nil => exact ⟨0, rfl, by simp [monthOfDay], by simp [monthOfDay], by simp⟩
  | cons len rest ih =>
      unfold monthOfDay
      split
      · next h => exact ⟨0, rfl, by simp, by simp, fun _ => ⟨len, by simp, h⟩⟩
      · next h =>
          obtain ⟨i, hm, hpos, hsum, hi⟩ := ih (first + 1) (r - len)
          have hr : len + (r - len) = r := Nat.add_sub_of_le (Nat.le_of_not_lt h)
          refine ⟨i + 1, by rw [hm, Nat.add_assoc, Nat.add_comm 1 i], hpos, ?_, fun hlt => ?_⟩
          · rw [List.take_succ_cons, List.sum_cons, Nat.add_assoc, hsum, ← Nat.add_assoc, hr]
          · rw [List.sum_cons] at hlt
            rw [List.getElem?_cons_succ]
            exact hi (Nat.sub_lt_left_of_lt_add (Nat.le_of_not_lt h) hlt)

theorem sum_monthLengths (leap : Bool) :
    (monthLengths leap).sum = if leap then 366 else 365 := by
  cases leap <;> rfl

theorem le_of_mem_monthLengths {leap : Bool} {len : Nat} (h : len ∈ monthLengths leap) :
    len ≤ 31 := by
  revert h
  cases leap <;> revert len <;> decide

theorem daysInMonth_le (year month : Nat) : daysInMonth year month ≤ 31 := by
  unfold daysInMonth
  split
  · exact Nat.zero_le _
  · rw [List.getD_eq_getElem?_getD]
    cases hlen : (monthLengths (isLeap year))[month - 1]? with
    | none => exact Nat.zero_le _
    | some len => exact le_of_mem_monthLengths (List.mem_of_getElem? hlen)

/-- A year is as long as its months together. -/
theorem daysBeforeYear_add_months {y : Nat} (hy : 1 ≤ y) :
    daysBeforeYear (y + 1) = daysBeforeYear y + (monthLengths (isLeap y)).sum := by
  obtain ⟨z, rfl⟩ : ∃ z, y = z + 1 := ⟨y - 1, by omega⟩
  have h4 : (z + 1) / 4 = z / 4 + if (z + 1) % 4 = 0 then 1 else 0 := by split <;> omega
  have h100 : (z + 1) / 100 = z / 100 + if (z + 1) % 100 = 0 then 1 else 0 := by split <;> omega
  have h400 : (z + 1) / 400 = z / 400 + if (z + 1) % 400 = 0 then 1 else 0 := by split <;> omega
  have hle : z / 100 ≤ z / 4 := Nat.div_le_div_left (by decide) (by decide)
  rw [sum_monthLengths, daysBeforeYear_succ, daysBeforeYear_succ, h4, h100, h400]
  simp only [isLeap, Bool.and_eq_true, Bool.or_eq_true, beq_iff_eq, bne_iff_ne]
  -- a century is divisible by 4, and every fourth century by 100
  have h1 : (z + 1) % 100 = 0 → (z + 1) % 4 = 0 := by omega
  have h2 : (z + 1) % 400 = 0 → (z + 1) % 100 = 0 := by omega
  generalize (z + 1) % 4 = a at *
  generalize (z + 1) % 100 = b at *
  generalize (z + 1) % 400 = c at *
  clear h4 h100 h400
  generalize z / 4 = d at *
  generalize z / 100 = e at *
  generalize z / 400 = f at *
  by_cases ha : a = 0 <;> by_cases hb : b = 0 <;> by_cases hc : c = 0 <;>
    simp [ha, hb, hc] at h1 h2 ⊢ <;> omega

/-! ## Days -/

/-- The day of a year, month and day of month. -/
def dayNumber (c : Civil) : Nat :=
  daysBeforeYear c.year + ((monthLengths (isLeap c.year)).take (c.month - 1)).sum + c.day

theorem one_le_yearOfDay (n : Nat) : 1 ≤ yearOfDay n := by
  refine Nat.pos_of_ne_zero fun h => ?_
  have hlt := (daysBeforeYear_yearOfDay n).2
  rw [h] at hlt
  simp [daysBeforeYear] at hlt

/-- A day is given back by its year, month and day of month. -/
theorem dayNumber_civil (d : Date) : dayNumber d.civil = d.ordinal := by
  obtain ⟨hle, -⟩ := daysBeforeYear_yearOfDay (d.ordinal - 1)
  obtain ⟨i, hm, -, hsum, -⟩ := monthOfDay_spec (monthLengths (isLeap (yearOfDay (d.ordinal - 1)))) 1
    (d.ordinal - 1 - daysBeforeYear (yearOfDay (d.ordinal - 1)))
  have hpos := d.pos
  simp only [dayNumber, civil, hm, Nat.add_sub_cancel_left]
  omega

end Date

/-- The year lies in the calendar, the month in the year and the day in the month. -/
structure Civil.Valid (c : Civil) : Prop where
  year : 1 ≤ c.year ∧ c.year ≤ 9999
  month : 1 ≤ c.month ∧ c.month ≤ 12
  day : 1 ≤ c.day ∧ c.day ≤ Date.daysInMonth c.year c.month

instance (c : Civil) : Decidable c.Valid :=
  decidable_of_iff ((1 ≤ c.year ∧ c.year ≤ 9999) ∧ (1 ≤ c.month ∧ c.month ≤ 12) ∧
      1 ≤ c.day ∧ c.day ≤ Date.daysInMonth c.year c.month)
    ⟨fun ⟨year, month, day⟩ => ⟨year, month, day⟩, fun ⟨year, month, day⟩ => ⟨year, month, day⟩⟩

namespace Date

/-- A day has a year, month and day of month of the calendar. -/
theorem civil_valid (d : Date) : d.civil.Valid := by
  obtain ⟨hle, hlt⟩ := daysBeforeYear_yearOfDay (d.ordinal - 1)
  obtain ⟨i, hm, hpos, -, hi⟩ := monthOfDay_spec (monthLengths (isLeap (yearOfDay (d.ordinal - 1)))) 1
    (d.ordinal - 1 - daysBeforeYear (yearOfDay (d.ordinal - 1)))
  rw [daysBeforeYear_add_months (one_le_yearOfDay _)] at hlt
  obtain ⟨len, hlen, hday⟩ := hi (by omega)
  have hi : i < 12 := (List.getElem?_eq_some_iff.mp hlen).1
  have hyear : yearOfDay (d.ordinal - 1) ≤ 9999 := by
    have hmax := d.le_max
    by_contra hlater
    simp only [daysBeforeYear, maxOrdinal] at hle hmax
    omega
  refine ⟨⟨one_le_yearOfDay _, hyear⟩, ?_, hpos, ?_⟩
  · simp only [civil, hm]
    omega
  · simp only [civil, hm, daysInMonth, Nat.add_sub_cancel_left]
    rw [if_neg (by omega), List.getD_eq_getElem?_getD, hlen]
    exact hday

theorem civil_bounds (d : Date) : d.civil.month < 100 ∧ d.civil.day < 100 := by
  obtain ⟨-, ⟨-, hmonth⟩, -, hday⟩ := d.civil_valid
  have hlength := daysInMonth_le d.civil.year d.civil.month
  omega

/-- The compact text of a day is short. -/
theorem length_compactText_le (d : Date) : d.compactText.toList.length ≤ 9 := by
  obtain ⟨hmonth, hday⟩ := d.civil_bounds
  have hyear : (Text.natText d.civil.year).length ≤ 5 :=
    (Nat.length_repr_le_iff (by decide)).mpr (d.civil_valid.year.2.trans_lt (by decide))
  simp only [compactText, String.toList_append, List.length_append, Text.length_padZeros_two hmonth,
    Text.length_padZeros_two hday, String.length_toList]
  omega

/-- Days with the same compact text are the same. -/
theorem compactText_injective {a b : Date} (h : a.compactText = b.compactText) : a = b := by
  obtain ⟨ham, had⟩ := a.civil_bounds
  obtain ⟨hbm, hbd⟩ := b.civil_bounds
  -- read as one number; month and day have two places each
  have hn := congrArg (fun s => Text.digitsNumber s.toList) h
  simp only [compactText, String.toList_append, Text.digitsNumber_append,
    Text.digitsNumber_natText, Text.digitsNumber_padZeros, Text.length_padZeros_two, *] at hn
  have hc : a.civil = b.civil := by
    cases ha : a.civil
    cases hb : b.civil
    simp only [ha, hb, Civil.mk.injEq] at *
    omega
  ext
  rw [← dayNumber_civil a, hc, dayNumber_civil]

theorem isDigit_of_mem_compactText {d : Date} {c : Char} (h : c ∈ d.compactText.toList) :
    c.isDigit := by
  simp only [compactText, String.toList_append, List.mem_append] at h
  rcases h with (h | h) | h
  · exact Text.isDigit_of_mem_natText h
  · exact Text.isDigit_of_mem_padZeros h
  · exact Text.isDigit_of_mem_padZeros h

end Date

end Bookkeeping
