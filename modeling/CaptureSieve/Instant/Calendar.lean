import CaptureSieve.Instant

/-!
Capture times on the Gregorian calendar, in the date-time notation of RFC 3339.
-/

namespace CaptureSieve

structure CalendarDate where
  year : Nat
  month : Nat
  day : Nat
  deriving DecidableEq, Repr

namespace CalendarDate

/-- The date `n` days after 1 January 1970. Counting from 1 March of year 0 puts the leap day last in its
year, so a 400-year cycle, its years and the months of a year are each found by one division. -/
def ofDays (n : Nat) : CalendarDate :=
  let shifted := n + 719468
  let cycle := shifted / 146097
  let inCycle := shifted % 146097
  let yearOfCycle := (inCycle - inCycle / 1460 + inCycle / 36524 - inCycle / 146096) / 365
  let dayOfYear := inCycle - (365 * yearOfCycle + yearOfCycle / 4 - yearOfCycle / 100)
  let monthFromMarch := (5 * dayOfYear + 2) / 153
  let year := 400 * cycle + yearOfCycle
  { year := if monthFromMarch < 10 then year else year + 1
    month := if monthFromMarch < 10 then monthFromMarch + 3 else monthFromMarch - 9
    day := dayOfYear - (153 * monthFromMarch + 2) / 5 + 1 }

end CalendarDate

namespace Instant

def fractionText (subsecond : Nat) : String :=
  if subsecond = 0 then ""
  else
    let digits := (padded 9 subsecond).toList.reverse.dropWhile (· == '0')
    "." ++ String.ofList digits.reverse

def rfc3339? (t : Instant) : Option String :=
  let days := t.seconds / 86400
  let second := t.seconds % 86400
  let date := CalendarDate.ofDays days
  if date.year < 10000 then
    some (padded 4 date.year ++ "-" ++ padded 2 date.month ++ "-" ++ padded 2 date.day ++ "T" ++
      padded 2 (second / 3600) ++ ":" ++ padded 2 (second / 60 % 60) ++ ":" ++ padded 2 (second % 60) ++
      fractionText t.subsecond ++ "Z")
  else none

end Instant

end CaptureSieve
