import Bookkeeping.Calendar.Instant
import Bookkeeping.Proofs.CalendarText
import Mathlib.Order.Monotone.Basic

set_option autoImplicit false

/-! # Clock faces

A clock shows a year, a month and a day of month, and hours, minutes, seconds and microseconds. What it
has shown is counted unit by unit (`ClockFace.elapsed`): the days of the years that are over, of the months
and of the month so far, then the time of the day. A reading shows a face of the calendar, each face of the
calendar is shown, and the count of a face tells the only reading that shows it
(`Instant.face_eq_iff`). -/

namespace Bookkeeping

/-! ## Counting days -/

namespace Date

/-- Days of a year. -/
def daysInYear (year : Nat) : Nat := if isLeap year then 366 else 365

end Date

/-- The days before a day, counted from the start of year 1: those of the years that are over, of the months of
    its year that are over, and of its month. -/
def Civil.daysBefore (c : Civil) : Nat :=
  ((List.range (c.year - 1)).map fun y => Date.daysInYear (y + 1)).sum +
    ((List.range (c.month - 1)).map fun m => Date.daysInMonth c.year (m + 1)).sum + (c.day - 1)

namespace Date

/-- The days before a year are those of the years before it, one by one. -/
theorem daysBeforeYear_eq_sum (n : Nat) :
    daysBeforeYear (n + 1) = ((List.range n).map fun y => daysInYear (y + 1)).sum := by
  induction n with
  | zero => rfl
  | succ n ih =>
      rw [daysBeforeYear_add_months (Nat.le_add_left 1 n), sum_monthLengths, ih, List.range_succ,
        List.map_append, List.sum_append]
      rfl

theorem sum_take_add_getD (lens : List Nat) (k : Nat) :
    (lens.take (k + 1)).sum = (lens.take k).sum + lens.getD k 0 := by
  rw [List.take_add_one, List.sum_append, List.getD_eq_getElem?_getD]
  cases lens[k]? <;> simp

/-- The days before a month are those of the months before it, one by one. -/
theorem sum_take_monthLengths (year k : Nat) : ((monthLengths (isLeap year)).take k).sum =
    ((List.range k).map fun m => daysInMonth year (m + 1)).sum := by
  induction k with
  | zero => rfl
  | succ k ih =>
      rw [sum_take_add_getD, ih, List.range_succ, List.map_append, List.sum_append]
      rfl

theorem monotone_daysBeforeYear : Monotone daysBeforeYear := by
  refine monotone_nat_of_le_succ fun y => ?_
  cases y with
  | zero => exact le_rfl
  | succ y =>
      rw [daysBeforeYear_add_months (Nat.le_add_left 1 y)]
      exact Nat.le_add_right _ _

theorem monotone_sum_take (lens : List Nat) : Monotone fun k => (lens.take k).sum := by
  refine monotone_nat_of_le_succ fun k => ?_
  rw [sum_take_add_getD]
  exact Nat.le_add_right _ _

/-- Where one stretch begins when the one before it ends, a day lies in one of them only. -/
theorem stretch_unique {start : Nat → Nat} (mono : Monotone start) {i j n : Nat}
    (hi : start i ≤ n ∧ n < start (i + 1)) (hj : start j ≤ n ∧ n < start (j + 1)) : i = j := by
  have hij : i < j + 1 := mono.reflect_lt (hi.1.trans_lt hj.2)
  have hji : j < i + 1 := mono.reflect_lt (hj.1.trans_lt hi.2)
  omega

end Date

namespace Civil

variable {c c' : Civil}

/-- The day of its year, from 0. -/
def dayOfYear (c : Civil) : Nat :=
  ((Date.monthLengths (Date.isLeap c.year)).take (c.month - 1)).sum + (c.day - 1)

theorem Valid.daysBefore_eq (h : c.Valid) :
    c.daysBefore = Date.daysBeforeYear c.year + c.dayOfYear := by
  obtain ⟨y, hy⟩ : ∃ y, c.year = y + 1 := ⟨c.year - 1, by have := h.year; omega⟩
  rw [daysBefore, dayOfYear, Date.sum_take_monthLengths, hy, Date.daysBeforeYear_eq_sum,
    Nat.add_sub_cancel, Nat.add_assoc]

theorem Valid.dayNumber_eq (h : c.Valid) : Date.dayNumber c = c.daysBefore + 1 := by
  have := h.day
  rw [h.daysBefore_eq, Date.dayNumber, dayOfYear]
  omega

/-- The day lies in its month. -/
theorem Valid.dayOfYear_bounds (h : c.Valid) :
    ((Date.monthLengths (Date.isLeap c.year)).take (c.month - 1)).sum ≤ c.dayOfYear ∧
      c.dayOfYear < ((Date.monthLengths (Date.isLeap c.year)).take (c.month - 1 + 1)).sum := by
  obtain ⟨-, ⟨hmonth, -⟩, hpos, hday⟩ := h
  rw [Date.daysInMonth, if_neg (by omega)] at hday
  rw [Date.sum_take_add_getD, dayOfYear]
  omega

/-- The day lies in its year. -/
theorem Valid.daysBefore_bounds (h : c.Valid) : Date.daysBeforeYear c.year ≤ c.daysBefore ∧
    c.daysBefore < Date.daysBeforeYear (c.year + 1) := by
  have hmonths := Date.monotone_sum_take (Date.monthLengths (Date.isLeap c.year))
    (show c.month - 1 + 1 ≤ 12 by have := h.month; omega)
  have hday := h.dayOfYear_bounds.2
  have twelve : ((Date.monthLengths (Date.isLeap c.year)).take 12).sum =
    (Date.monthLengths (Date.isLeap c.year)).sum := rfl
  rw [Date.daysBeforeYear_add_months h.year.1, h.daysBefore_eq]
  dsimp only at hmonths
  omega

/-- A day of the calendar is told by the days before it. -/
theorem Valid.eq_of_daysBefore (h : c.Valid) (h' : c'.Valid) (heq : c.daysBefore = c'.daysBefore) :
    c = c' := by
  -- the year first: the months and what they are cut from depend on it
  have hyear : c.year = c'.year :=
    Date.stretch_unique Date.monotone_daysBeforeYear h.daysBefore_bounds (heq ▸ h'.daysBefore_bounds)
  have hday : c.dayOfYear = c'.dayOfYear := by
    rw [h.daysBefore_eq, h'.daysBefore_eq, hyear] at heq
    exact Nat.add_left_cancel heq
  have hmonth : c.month - 1 = c'.month - 1 := by
    refine Date.stretch_unique (Date.monotone_sum_take _) h.dayOfYear_bounds ?_
    rw [hday, hyear]
    exact h'.dayOfYear_bounds
  rw [dayOfYear, dayOfYear, hyear, hmonth] at hday
  have hmonths := h.month
  have hmonths' := h'.month
  have hdays := h.day
  have hdays' := h'.day
  cases c
  cases c'
  simp only [Civil.mk.injEq] at *
  omega

/-- The calendar ends with year 9999. -/
theorem Valid.daysBefore_lt (h : c.Valid) : c.daysBefore < Date.maxOrdinal := by
  have hyear : Date.daysBeforeYear (c.year + 1) ≤ Date.daysBeforeYear 10000 :=
    Date.monotone_daysBeforeYear (Nat.succ_le_succ h.year.2)
  exact h.daysBefore_bounds.2.trans_le hyear

end Civil

namespace Date

variable {d : Date} {c : Civil}

theorem daysBefore_civil (d : Date) : d.civil.daysBefore + 1 = d.ordinal := by
  rw [← d.civil_valid.dayNumber_eq, dayNumber_civil]

/-- The days before a day tell its year, month and day of month. -/
theorem civil_eq_iff (h : c.Valid) : d.civil = c ↔ d.ordinal = c.daysBefore + 1 := by
  rw [← d.daysBefore_civil]
  constructor
  · rintro rfl
    rfl
  · exact fun heq => d.civil_valid.eq_of_daysBefore h (Nat.add_right_cancel heq)

theorem ordinalOfCivil_eq (h : c.Valid) :
    ordinalOfCivil c.year c.month c.day = c.daysBefore + 1 := by
  rw [← h.dayNumber_eq, ordinalOfCivil, daysBeforeMonth, ← List.sum_eq_foldl, dayNumber]

theorem ofOrdinal?_eq_some_iff {n : Int} : ofOrdinal? n = some d ↔ (d.ordinal : Int) = n := by
  have hpos := d.pos
  have hmax := d.le_max
  unfold ofOrdinal?
  split
  · rw [Option.some.injEq, Date.ext_iff]
    dsimp only
    omega
  · simp only [reduceCtorEq, false_iff]
    omega

/-- A day is made of exactly the year, month and day of month that it shows. -/
theorem ofCivil_eq_ok_iff {year month day : Nat} :
    ofCivil year month day = .ok d ↔ d.civil = ⟨year, month, day⟩ := by
  constructor
  · intro h
    unfold ofCivil at h
    split at h
    · cases h
    · split at h
      · cases h
      · split at h
        · cases h
        · have valid : Civil.Valid ⟨year, month, day⟩ := by
            refine ⟨?_, ?_, ?_⟩ <;> dsimp only <;> omega
          split at h
          · next hd =>
              cases h
              rw [civil_eq_iff valid, ← ordinalOfCivil_eq valid]
              exact Int.natCast_inj.mp (ofOrdinal?_eq_some_iff.mp hd)
          · cases h
  · intro h
    have valid := d.civil_valid
    rw [h] at valid
    have hd : ofOrdinal? (ordinalOfCivil year month day) = some d := by
      rw [ofOrdinal?_eq_some_iff, (civil_eq_iff valid).mp h, ← ordinalOfCivil_eq valid]
    obtain ⟨hyear, hmonth, hday⟩ := valid
    dsimp only at hyear hmonth hday
    unfold ofCivil
    rw [if_neg (by omega), if_neg (by omega), if_neg (by omega), hd]

end Date

/-! ## Faces -/

/-- What a clock shows: a day and a time of that day. -/
structure ClockFace extends Civil where
  hour : Nat
  minute : Nat
  second : Nat
  micro : Nat
  deriving DecidableEq, Repr

namespace ClockFace

/-- The day lies in the calendar and the time in the day. -/
structure Valid (f : ClockFace) : Prop where
  civil : f.toCivil.Valid
  hour : f.hour < 24
  minute : f.minute < 60
  second : f.second < 60
  micro : f.micro < Instant.second

instance (f : ClockFace) : Decidable f.Valid :=
  decidable_of_iff
    (f.toCivil.Valid ∧ f.hour < 24 ∧ f.minute < 60 ∧ f.second < 60 ∧ f.micro < Instant.second)
    ⟨fun ⟨civil, hour, minute, second, micro⟩ => ⟨civil, hour, minute, second, micro⟩,
      fun ⟨civil, hour, minute, second, micro⟩ => ⟨civil, hour, minute, second, micro⟩⟩

/-- Microseconds since midnight. -/
def timeOfDay (f : ClockFace) : Nat :=
  ((f.hour * 60 + f.minute) * 60 + f.second) * Instant.second + f.micro

/-- Microseconds from the start of year 1, counted day by day. -/
def elapsed (f : ClockFace) : Nat := f.daysBefore * Instant.day + f.timeOfDay

variable {f f' : ClockFace}

theorem Valid.timeOfDay_lt (h : f.Valid) : f.timeOfDay < Instant.day := by
  obtain ⟨-, hhour, hminute, hsecond, hmicro⟩ := h
  simp only [timeOfDay, Instant.day, Instant.second] at *
  omega

theorem Valid.elapsed_lt (h : f.Valid) : f.elapsed < Instant.span := by
  have hdays := Nat.mul_le_mul_right Instant.day (Nat.succ_le_of_lt h.civil.daysBefore_lt)
  have htime := h.timeOfDay_lt
  rw [Nat.succ_mul] at hdays
  rw [elapsed, Instant.span]
  omega

/-- A face of the calendar is told by its count. -/
theorem Valid.eq_of_elapsed (h : f.Valid) (h' : f'.Valid) (heq : f.elapsed = f'.elapsed) : f = f' := by
  have htime := h.timeOfDay_lt
  have htime' := h'.timeOfDay_lt
  have hdays : f.daysBefore = f'.daysBefore := by
    simp only [elapsed, Instant.day, Instant.second] at *
    omega
  rw [elapsed, elapsed, hdays] at heq
  have hcivil := h.civil.eq_of_daysBefore h'.civil hdays
  obtain ⟨-, hhour, hminute, hsecond, hmicro⟩ := h
  obtain ⟨-, hhour', hminute', hsecond', hmicro'⟩ := h'
  have hfields : f.hour = f'.hour ∧ f.minute = f'.minute ∧ f.second = f'.second ∧
      f.micro = f'.micro := by
    simp only [timeOfDay, Instant.second] at *
    omega
  cases f
  cases f'
  simpa only [mk.injEq] using ⟨hcivil, hfields⟩

end ClockFace

namespace Instant

variable {t : Instant} {f : ClockFace}

/-- The face of a clock at a reading. -/
def face (t : Instant) : ClockFace where
  toCivil := t.date.civil
  hour := t.timeOfDay / second / 3600
  minute := t.timeOfDay / second / 60 % 60
  second := t.timeOfDay / second % 60
  micro := t.timeOfDay % second

theorem timeOfDay_lt (t : Instant) : t.timeOfDay < day := Nat.mod_lt _ (by decide)

theorem face_valid (t : Instant) : t.face.Valid := by
  have htime := t.timeOfDay_lt
  refine ⟨t.date.civil_valid, ?_, ?_, ?_, ?_⟩ <;> simp only [face, day, second] at * <;> omega

theorem daysBefore_face (t : Instant) : t.face.daysBefore = t.micros / day :=
  Nat.add_right_cancel t.date.daysBefore_civil

theorem timeOfDay_face (t : Instant) : t.face.timeOfDay = t.timeOfDay := by
  simp only [ClockFace.timeOfDay, face, second]
  omega

/-- The face of a reading is counted to the reading. -/
theorem elapsed_face (t : Instant) : t.face.elapsed = t.micros := by
  rw [ClockFace.elapsed, daysBefore_face, timeOfDay_face, timeOfDay]
  exact Nat.div_add_mod' t.micros day

/-- A reading shows the face that is counted to it, and no other. -/
theorem face_eq_iff (h : f.Valid) : t.face = f ↔ t.micros = f.elapsed := by
  constructor
  · rintro rfl
    exact t.elapsed_face.symm
  · intro heq
    exact t.face_valid.eq_of_elapsed h (t.elapsed_face.trans heq)

/-- Exactly the faces of the calendar are shown. -/
theorem exists_face_iff : (∃ t : Instant, t.face = f) ↔ f.Valid := by
  constructor
  · rintro ⟨t, rfl⟩
    exact t.face_valid
  · exact fun h => ⟨⟨f.elapsed, h.elapsed_lt⟩, (face_eq_iff h).mpr rfl⟩

end Instant

end Bookkeeping
