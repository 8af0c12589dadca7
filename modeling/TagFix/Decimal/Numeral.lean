import TagFix.Decimal.Layout

/-!
Doubles from text, rounded to the nearest. A point may stand first or last, the names of infinity
and of no number may be in either case, and nothing may stand around the number.
-/

namespace TagFix.Decimal

def isDigit (c : Char) : Bool :=
  '0' ≤ c && c ≤ '9'

def ofDigits (digits : List Char) : Nat :=
  digits.foldl (fun n digit => 10 * n + (digit.toNat - 48)) 0

/-- A natural number in digits, maybe behind a plus sign. -/
def natural? (text : List Char) : Option Nat :=
  let digits := if text.head? = some '+' then text.tail else text
  if digits.isEmpty ∨ ¬digits.all isDigit then none else some (ofDigits digits)

/-- An exponent with its mark: `some 0` where there is none. -/
def exponent? : List Char → Option Int
  | [] => some 0
  | mark :: rest =>
      if mark ≠ 'e' ∧ mark ≠ 'E' then none
      else if rest.head? = some '-' then
        if rest.tail.head? = some '+' then none else (natural? rest.tail).map fun n => -(n : Int)
      else (natural? rest).map fun n => (n : Int)

/-- The double nearest to a mantissa times a power of ten. A number whose first digit stands more than
400 places before or behind the point is an infinity or zero. -/
def nearestFloat (mantissa : Nat) (exponent : Int) : Float :=
  let digits := (Nat.toDigits 10 mantissa).length
  if mantissa = 0 then 0
  else if 400 < digits + exponent then 1 / 0
  else if digits + exponent < -400 then 0
  else if 0 ≤ exponent then Float.ofScientific mantissa false exponent.toNat
  else Float.ofScientific mantissa true (-exponent).toNat

def magnitude? (text : List Char) : Option Float :=
  let name := text.map Char.toLower
  if name = "inf".toList ∨ name = "infinity".toList then some (1 / 0)
  else if name = "nan".toList then some (0 / 0)
  else
    let whole := text.takeWhile isDigit
    let rest := text.dropWhile isDigit
    let (fraction, rest) :=
      if rest.head? = some '.' then (rest.tail.takeWhile isDigit, rest.tail.dropWhile isDigit)
      else ([], rest)
    let digits := whole ++ fraction
    if digits.isEmpty then none
    else
      (exponent? rest).map fun exponent =>
        nearestFloat (ofDigits digits) (exponent - fraction.length)

def float? (text : List Char) : Option Float :=
  match text with
  | '-' :: rest => (magnitude? rest).map fun x => -x
  | '+' :: rest => magnitude? rest
  | _ => magnitude? text

end TagFix.Decimal
