namespace RuleLint

/-- A moment after the start of 1970, in whole seconds and billionths of a second. -/
structure Timestamp where
  seconds : Nat
  nanoseconds : Nat := 0
deriving DecidableEq, Repr

namespace Timestamp

/-- The year, the month and the day so many days after the start of 1970. Years are counted from
March, so that a leap day is the last of its year. -/
def date (days : Nat) : Nat × Nat × Nat :=
  let fromMarch := days + 719468
  let cycle := fromMarch / 146097
  let day := fromMarch % 146097
  let year := (day - day / 1460 + day / 36524 - day / 146096) / 365
  let dayOfYear := day - (365 * year + year / 4 - year / 100)
  let month := (5 * dayOfYear + 2) / 153
  let dayOfMonth := dayOfYear - (153 * month + 2) / 5 + 1
  if month < 10 then (400 * cycle + year, month + 3, dayOfMonth)
  else (400 * cycle + year + 1, month - 9, dayOfMonth)

def padded (width n : Nat) : String := .ofList ((toString n).toList.leftpad width '0')

/-- The fraction of a second, in steps of a thousandth. -/
def fraction (nanoseconds : Nat) : String :=
  if nanoseconds = 0 then ""
  else if nanoseconds % 1000000 = 0 then "." ++ padded 3 (nanoseconds / 1000000)
  else if nanoseconds % 1000 = 0 then "." ++ padded 6 (nanoseconds / 1000)
  else "." ++ padded 9 nanoseconds

def render (t : Timestamp) : String :=
  let (year, month, day) := date (t.seconds / 86400)
  let time := t.seconds % 86400
  padded 4 year ++ "-" ++ padded 2 month ++ "-" ++ padded 2 day ++ "T" ++
    padded 2 (time / 3600) ++ ":" ++ padded 2 (time / 60 % 60) ++ ":" ++ padded 2 (time % 60) ++
      fraction t.nanoseconds ++ "Z"

end Timestamp

end RuleLint
