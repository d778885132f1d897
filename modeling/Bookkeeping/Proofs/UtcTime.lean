import Bookkeeping.Calendar.Iso
import Bookkeeping.Proofs.ClockFaces
import Bookkeeping.Proofs.NumberText

set_option autoImplicit false

/-! # Points in time

A reading denotes a point in time: what its clock shows, less the offset of that clock from UTC. The UTC
clock may show that point on another day, in another month or year, or not at all when it falls out of the
calendar. Time stamps are normalized when they are written to the store, which keeps no offsets, and again
when they are read; this keeps the point, and the day of a reading is the day of what is kept of it
(`Stamped.kept_in_utc`). -/

namespace Bookkeeping

theorem Instant.ofMicros?_eq_some_iff {t : Instant} {n : Int} :
    Instant.ofMicros? n = some t ↔ (t.micros : Int) = n := by
  have hrange := t.inRange
  unfold ofMicros?
  split
  · rw [Option.some.injEq, Instant.ext_iff]
    dsimp only
    omega
  · simp only [reduceCtorEq, false_iff]
    omega

namespace Stamped

/-- The point in time that a reading denotes, in microseconds from the start of year 1 of the UTC clock: what
    the clock has shown so far, less its offset. Without an offset the clock is taken for the UTC clock. -/
def point (v : Stamped) : Int := v.clock.face.elapsed - v.offset.getD 0

/-- What a reading is after it was written to the store and read from it. -/
def kept? (v : Stamped) : Option Stamped := v.normalize?.bind fun w => w.dropOffset.normalize?

/-- What the numbers of the day of a reading start with. -/
def dayPrefix? (v : Stamped) (word : String) : Option String :=
  v.utcDate?.map (EntryNumber.dayPrefix word)

variable {v w : Stamped} {t : Instant} {f : ClockFace}

theorem point_eq (v : Stamped) : v.point = v.clock.micros - v.offset.getD 0 := by
  rw [point, v.clock.elapsed_face]

theorem point_ofUtc (t : Instant) : (ofUtc t).point = t.micros := by
  rw [point_eq]
  exact Int.sub_zero _

/-- The UTC clock shows the reading at the point in time, if there is one. -/
theorem toUtc?_eq_some_iff : v.toUtc? = some t ↔ (t.micros : Int) = v.point := by
  rw [point_eq]
  unfold toUtc?
  cases v.offset with
  | none =>
      simp only [Option.some.injEq, Instant.ext_iff, Option.getD_none]
      omega
  | some o => exact Instant.ofMicros?_eq_some_iff

/-- Readings at one point in time, with whatever offsets, are one reading of the UTC clock. -/
theorem toUtc?_congr (h : v.point = w.point) : v.toUtc? = w.toUtc? := by
  refine Option.ext fun t => ?_
  rw [toUtc?_eq_some_iff, toUtc?_eq_some_iff, h]

/-- Reading normalizes what writing has normalized already. -/
theorem kept?_eq (v : Stamped) : v.kept? = v.toUtc?.map ofUtc := by
  rw [kept?, normalize?]
  cases v.toUtc? <;> rfl

/-- A reading at a point in time of the calendar, with any offset or none, is kept as what the UTC clock shows
    at that point, and is then kept as it is. Its day is the day of what is kept, so the numbers of that day
    start alike for all readings at that point. -/
theorem kept_in_utc (v : Stamped) (valid : f.Valid) (instant : v.point = f.elapsed) :
    ∃ w, v.kept? = some w ∧ w.offset = some 0 ∧ w.clock.face = f ∧ w.point = v.point ∧
      w.kept? = some w ∧ v.utcDate? = some w.clock.date ∧
      ∀ (v' : Stamped) (word : String), v'.point = v.point →
        v'.dayPrefix? word = some (EntryNumber.dayPrefix word w.clock.date) := by
  obtain ⟨t, rfl⟩ := Instant.exists_face_iff.mpr valid
  rw [t.elapsed_face] at instant
  have utc {v' : Stamped} (same : v'.point = v.point) : v'.toUtc? = some t :=
    (toUtc?_congr same).trans (toUtc?_eq_some_iff.mpr instant.symm)
  have kept {v' : Stamped} (same : v'.point = v.point) : v'.kept? = some (ofUtc t) := by
    rw [kept?_eq, utc same]
    rfl
  have day {v' : Stamped} (same : v'.point = v.point) : v'.utcDate? = some t.date := by
    rw [utcDate?, utc same]
    rfl
  have point : (ofUtc t).point = v.point := (point_ofUtc t).trans instant.symm
  refine ⟨ofUtc t, kept rfl, rfl, rfl, point, kept point, day rfl, fun v' word same => ?_⟩
  rw [dayPrefix?, day same]
  rfl

/-- Half past eleven on the evening before the leap day of 2024, five hours behind UTC. -/
def beforeLeapDay : Stamped where
  clock := ⟨63844759800000000, by decide⟩
  offset := some (-18000000000)

example : Iso.parseStamped "2024-02-28T23:30:00-05:00" = .ok beforeLeapDay := by decide +kernel

theorem kept_in_utc_beforeLeapDay :
    beforeLeapDay.clock.face = ⟨⟨2024, 2, 28⟩, 23, 30, 0, 0⟩ ∧
      (⟨⟨2024, 2, 29⟩, 4, 30, 0, 0⟩ : ClockFace).Valid ∧
      beforeLeapDay.point = (⟨⟨2024, 2, 29⟩, 4, 30, 0, 0⟩ : ClockFace).elapsed ∧
      ∃ w, beforeLeapDay.kept? = some w ∧ w.offset = some 0 ∧
        w.clock.face = ⟨⟨2024, 2, 29⟩, 4, 30, 0, 0⟩ ∧ w.point = beforeLeapDay.point ∧ w.kept? = some w ∧
        beforeLeapDay.utcDate? = some w.clock.date ∧
        ∀ (v' : Stamped) (word : String), v'.point = beforeLeapDay.point →
          v'.dayPrefix? word = some (EntryNumber.dayPrefix word w.clock.date) :=
  ⟨by decide +kernel, by decide, by decide +kernel,
    kept_in_utc beforeLeapDay (by decide) (by decide +kernel)⟩

end Stamped

end Bookkeeping
