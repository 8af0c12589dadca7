import TagFix.Decimal.Layout

/-!
Moments as text after RFC 3339, in the proleptic Gregorian calendar and at offset zero.
-/

namespace TagFix

/-- A moment: seconds since the start of 1970 and nanoseconds on top of them. A billion and more
nanoseconds stand for the leap second after the one counted. -/
structure Timestamp where
  seconds : Int
  nanos : Nat
deriving DecidableEq, Repr

structure Date where
  year : Int
  month : Nat
  day : Nat
deriving DecidableEq, Repr

/-- The date a number of days after the start of 1970. Years are counted from March, so that a leap
day is the last of its year, in eras of 400 years with 146097 days each. -/
def Date.ofDays (days : Int) : Date :=
  let shifted := days + 719468
  let era := shifted / 146097
  let dayOfEra := (shifted % 146097).toNat
  let yearOfEra := (dayOfEra - dayOfEra / 1460 + dayOfEra / 36524 - dayOfEra / 146096) / 365
  let dayOfYear := dayOfEra - (365 * yearOfEra + yearOfEra / 4 - yearOfEra / 100)
  let monthFromMarch := (5 * dayOfYear + 2) / 153
  let month := if monthFromMarch < 10 then monthFromMarch + 3 else monthFromMarch - 9
  { year := yearOfEra + era * 400 + (if month ≤ 2 then 1 else 0)
    month := month
    day := dayOfYear - (153 * monthFromMarch + 2) / 5 + 1 }

/-- A number with at least `width` digits. -/
def paddedDigits (width n : Nat) : String :=
  let digits := Nat.toDigits 10 n
  String.ofList (Decimal.zeros (width - digits.length) ++ digits)

/-- A year: four digits, and a sign where it has more than four or lies before the year zero. -/
def Date.yearText (year : Int) : String :=
  let sign := if year < 0 then "-" else if 9999 < year then "+" else ""
  sign ++ paddedDigits 4 year.natAbs

/-- A fraction of a second in nanoseconds, by the fewest groups of three digits that lose
nothing. -/
def fractionText (nanos : Nat) : String :=
  if nanos = 0 then ""
  else if nanos % 1000000 = 0 then "." ++ paddedDigits 3 (nanos / 1000000)
  else if nanos % 1000 = 0 then "." ++ paddedDigits 6 (nanos / 1000)
  else "." ++ paddedDigits 9 nanos

def Timestamp.render (time : Timestamp) : String :=
  let date := Date.ofDays (time.seconds / 86400)
  let second := (time.seconds % 86400).toNat
  let leap := time.nanos / 1000000000
  Date.yearText date.year ++ "-" ++ paddedDigits 2 date.month ++ "-" ++ paddedDigits 2 date.day ++
    "T" ++ paddedDigits 2 (second / 3600) ++ ":" ++ paddedDigits 2 (second / 60 % 60) ++ ":" ++
    paddedDigits 2 (second % 60 + leap) ++ fractionText (time.nanos % 1000000000) ++ "Z"

/-- The calendar starts with 1970 and has a leap day in 2000 but none in 1900. -/
example : Date.ofDays 0 = ⟨1970, 1, 1⟩ ∧ Date.ofDays 11016 = ⟨2000, 2, 29⟩ ∧
    Date.ofDays (-25509) = ⟨1900, 2, 28⟩ ∧ Date.ofDays (-25508) = ⟨1900, 3, 1⟩ := by
  decide

end TagFix
