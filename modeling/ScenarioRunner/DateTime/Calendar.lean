import ScenarioRunner.DateTime.Basic

/-!
# Counting days

Dates as numbers of days and times as numbers of seconds since the start of 1970.

* `DateTime.dateOfDays` is the date that comes some days after the first of January 1970.
* `DateTime.ofSeconds` is the date and the time of day after some seconds, without a time zone.

Years are counted from March on, so that the day that leap years have more is the last one of a year.
Four hundred years make an era, and all eras have the same number of days.
-/

namespace ScenarioRunner.DateTime

/-- The number of days of four hundred years. -/
def daysOfEra : Nat := 146097

/-- The number of days from the first of March of the year 0 to the first of January 1970. -/
def daysBefore1970 : Int := 719468

/-- The year within its era for a day of the era; years start in March. -/
def yearOfEra (day : Nat) : Nat :=
  (day - day / 1460 + day / 36524 - day / (daysOfEra - 1)) / 365

/-- The day of its year for a day of an era. -/
def dayOfYear (day : Nat) : Nat :=
  let year := yearOfEra day
  day - (365 * year + year / 4 - year / 100)

/-- The month and the day for a day of a year that starts in March. -/
def monthAndDay (day : Nat) : Nat × Nat :=
  let m := (5 * day + 2) / 153
  (if m < 10 then m + 3 else m - 9, day - (153 * m + 2) / 5 + 1)

/-- Year, month and day some days after the first of January 1970. -/
def dateOfDays (days : Int) : Int × Nat × Nat :=
  let shifted := days + daysBefore1970
  let day := (shifted % daysOfEra).toNat
  let (month, dayOfMonth) := monthAndDay (dayOfYear day)
  let year := shifted / daysOfEra * 400 + yearOfEra day
  (if month ≤ 2 then year + 1 else year, month, dayOfMonth)

/-- The date and the time of day some seconds and nanoseconds after the start of 1970. -/
def ofSeconds (seconds : Int) (nanosecond : Nat) : DateTime :=
  let (year, month, day) := dateOfDays (seconds / 86400)
  let rest := (seconds % 86400).toNat
  ⟨year, month, day, rest / 3600, rest / 60 % 60, rest % 60, nanosecond⟩

example : (ofSeconds 0 0).text = "1970-01-01T00:00:00" := by decide +kernel

example : (ofSeconds 951782399 0).text = "2000-02-28T23:59:59" := by decide +kernel

example : (ofSeconds 951868799 0).text = "2000-02-29T23:59:59" := by decide +kernel

example : (ofSeconds 1709967901 5000000).text = "2024-03-09T07:05:01.005" := by decide +kernel

example : (ofSeconds (-1) 0).text = "1969-12-31T23:59:59" := by decide +kernel

end ScenarioRunner.DateTime
