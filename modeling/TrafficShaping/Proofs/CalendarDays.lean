import TrafficShaping.Instant

/-!
# Days of the calendar by number

The day after a date and the day before it are found by cases, at the end of a month and at the end of a year.
Numbering the days says the same without cases: the number of a date is that of the days since the first of
January 1970, the day after has the next number, the day before the previous one, and two dates with one number
are one date.

The number is counted from the years before, the months before in the same year, and the day. Two facts carry
all of it. The months of a year add up to the days that the next year is later, and within the year a date comes
before the end of its month.
-/

namespace TrafficShaping

/-! ## Years and months -/

/-- The days in the years from year 1 up to a year. -/
def daysBeforeYear (year : Int) : Int :=
  365 * (year - 1) + (year - 1) / 4 - (year - 1) / 100 + (year - 1) / 400

/-- The days in the months of a year up to a month. -/
def daysBeforeMonth (year : Int) : Nat → Nat
  | 0 | 1 => 0
  | month + 2 => daysBeforeMonth year (month + 1) + daysInMonth year (month + 1)

namespace Date

/-- The number of a date: that of the days since 1970-01-01. -/
def days (d : Date) : Int := daysBeforeYear d.year + daysBeforeMonth d.year d.month + d.day - 719163

theorem of?_eq_some_iff {year : Int} {month day : Nat} {d : Date} :
    of? year month day = some d ↔ d.year = year ∧ d.month = month ∧ d.day = day := by
  rw [of?]
  constructor
  · intro h
    split at h
    · cases h
      exact ⟨rfl, rfl, rfl⟩
    · cases h
  · rintro ⟨rfl, rfl, rfl⟩
    exact dif_pos d.isDate

example : (⟨1970, 1, 1, by decide⟩ : Date).days = 0 := by decide

end Date

end TrafficShaping
