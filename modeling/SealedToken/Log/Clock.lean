/-! # Time of a log line

Seconds since the epoch as a date and a time of day in UTC, with six digits
behind the second. Years start in March here, so that a leap day is the last
day of its year. -/

namespace SealedToken.Clock

structure Date where
  year : Nat
  month : Nat
  day : Nat
  deriving DecidableEq, Repr

/-- The date of a day counted from the first of January 1970. -/
def date (days : Nat) : Date :=
  let z := days + 719468
  let era := z / 146097
  let dayOfEra := z % 146097
  let yearOfEra :=
    (dayOfEra - dayOfEra / 1460 + dayOfEra / 36524 - dayOfEra / 146096) / 365
  let dayOfYear := dayOfEra - (365 * yearOfEra + yearOfEra / 4 - yearOfEra / 100)
  let monthFromMarch := (5 * dayOfYear + 2) / 153
  let day := dayOfYear - (153 * monthFromMarch + 2) / 5 + 1
  let month := if monthFromMarch < 10 then monthFromMarch + 3 else monthFromMarch - 9
  let year := yearOfEra + era * 400
  ⟨if month ≤ 2 then year + 1 else year, month, day⟩

/-- The last `n` decimal digits of a number. -/
def digits (n v : Nat) : String :=
  let ds := Nat.toDigits 10 (v % Nat.pow 10 n)
  String.ofList (List.replicate (n - ds.length) '0' ++ ds)

def text (seconds micros : Nat) : String :=
  let d := date (seconds / 86400)
  let s := seconds % 86400
  digits 4 d.year ++ "-" ++ digits 2 d.month ++ "-" ++ digits 2 d.day ++ "T" ++
    digits 2 (s / 3600) ++ ":" ++ digits 2 (s / 60 % 60) ++ ":" ++ digits 2 (s % 60) ++ "." ++
    digits 6 micros ++ "Z"

end SealedToken.Clock
