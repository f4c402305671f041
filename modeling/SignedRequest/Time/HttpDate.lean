import SignedRequest.Time

/-!
The date of a point in time as HTTP headers carry it, such as `Mon, 24 Feb 2020 11:20:14 GMT`.
Years have four digits, so a later point in time has no such date.
-/

namespace SignedRequest.HttpDate

structure CivilDate where
  year : Nat
  month : Nat
  day : Nat

/-- The Gregorian date a number of days after 1 January 1970. Years are counted from March on, so
that a leap day ends its year. -/
def civil (days : Nat) : CivilDate :=
  let shifted := days + 719468
  let era := shifted / 146097
  let dayOfEra := shifted % 146097
  let yearOfEra := (dayOfEra - dayOfEra / 1460 + dayOfEra / 36524 - dayOfEra / 146096) / 365
  let dayOfYear := dayOfEra - (365 * yearOfEra + yearOfEra / 4 - yearOfEra / 100)
  let shiftedMonth := (5 * dayOfYear + 2) / 153
  let month := if shiftedMonth < 10 then shiftedMonth + 3 else shiftedMonth - 9
  { year := yearOfEra + era * 400 + if month ≤ 2 then 1 else 0
    month
    day := dayOfYear - (153 * shiftedMonth + 2) / 5 + 1 }

def weekdays : List String := ["Thu", "Fri", "Sat", "Sun", "Mon", "Tue", "Wed"]

def months : List String :=
  ["Jan", "Feb", "Mar", "Apr", "May", "Jun", "Jul", "Aug", "Sep", "Oct", "Nov", "Dec"]

def padded (width n : Nat) : String :=
  let digits := toString n
  String.ofList (List.replicate (width - digits.length) '0') ++ digits

/-- The seconds of a day are counted from midnight in Greenwich. -/
def format? (t : Instant) : Option String :=
  let seconds := t.unixSeconds
  let days := seconds / 86400
  let date := civil days
  if 9999 < date.year then none
  else
    some <| (weekdays.getD (days % 7) "") ++ ", " ++ padded 2 date.day ++ " " ++
      (months.getD (date.month - 1) "") ++ " " ++ padded 4 date.year ++ " " ++
      padded 2 (seconds % 86400 / 3600) ++ ":" ++ padded 2 (seconds % 3600 / 60) ++ ":" ++
      padded 2 (seconds % 60) ++ " GMT"

end SignedRequest.HttpDate
