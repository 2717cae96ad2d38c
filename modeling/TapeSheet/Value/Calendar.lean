import TapeSheet.Value

/-!
# Days by number

The calendar day with a given number, and the moment a number of seconds after the start of the year 1970.
-/

namespace TapeSheet

namespace Date

/-- The year of the day with a number: years have nearly the same length, so that an estimate is off by one at most. -/
def yearOf (ordinal : Nat) : Nat :=
  let estimate := (ordinal - 1) * 400 / 146097 + 1
  if ordinal ≤ daysBeforeYear estimate then estimate - 1
  else if daysBeforeYear (estimate + 1) < ordinal then estimate + 1
  else estimate

/-- The month and day of a day counted from the start of months with the given lengths. -/
def monthAndDay : List Nat → Nat → Nat → Nat × Nat
  | [], month, day => (month, day)
  | length :: rest, month, day => if day ≤ length then (month, day) else monthAndDay rest (month + 1) (day - length)

/-- The day with a number, the first of January of the year one being one. -/
def ofOrdinal (ordinal : Nat) : Date :=
  let year := yearOf ordinal
  let (month, day) := monthAndDay (monthDays year) 1 (ordinal - daysBeforeYear year)
  ⟨year, month, day⟩

end Date

/-- The moment a number of seconds after the start of the year 1970 in universal time. -/
def Moment.ofSeconds (seconds : Nat) : Moment :=
  { date := .ofOrdinal ((⟨1970, 1, 1⟩ : Date).ordinal + seconds / 86400)
    hour := seconds / 3600 % 24
    minute := seconds / 60 % 60
    second := seconds % 60
    micro := 0
    offset := some 0 }

end TapeSheet
