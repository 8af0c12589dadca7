import TagFix.Decimal.Shortest

/-!
Doubles as text: the shortest digits that read back, laid out by one of two rules, and a fixed
number of places behind the point.
-/

namespace TagFix.Decimal

/-- How the shortest digits of a number are laid out. -/
structure Layout where
  /-- Whether a number with this many digits before the point is written positionally. -/
  isPositional : Int → Bool
  /-- What follows a whole number that is written positionally. -/
  wholeEnd : String
  /-- Which of two equally short and equally near decimals is written. -/
  tie : Tie

/-- Numbers of a document: positional from 10^-5 up to 10^16, and always with a point or an
exponent, so that they cannot be taken for integers. Of two digits that are equally near the last
one is even. -/
def Layout.document : Layout :=
  ⟨fun before => -4 ≤ before && before ≤ 16, ".0", .toEven⟩

/-- Numbers of a message: always positional, and whole numbers bare. Of two numbers that are equally
near the greater in size is written. -/
def Layout.message : Layout :=
  ⟨fun _ => true, "", .awayFromZero⟩

def zeros (count : Nat) : List Char :=
  List.replicate count '0'

/-- The digits with a point after `before` of them. -/
def positional (wholeEnd : String) (digits : List Char) (before : Int) : List Char :=
  if before ≤ 0 then ['0', '.'] ++ zeros (-before).toNat ++ digits
  else if (digits.length : Int) ≤ before then
    digits ++ zeros (before.toNat - digits.length) ++ wholeEnd.toList
  else digits.take before.toNat ++ ['.'] ++ digits.drop before.toNat

/-- The digits with a point after the first and the power of ten, signed, behind them. -/
def scientific (digits : List Char) (power : Int) : List Char :=
  let mantissa :=
    match digits with
    | first :: second :: rest => first :: '.' :: second :: rest
    | short => short
  let sign : Char := if power < 0 then '-' else '+'
  mantissa ++ ['e', sign] ++ Nat.toDigits 10 power.natAbs

def Layout.decimal (layout : Layout) (decimal : Decimal) : List Char :=
  let digits := Nat.toDigits 10 decimal.digits
  let before := (digits.length : Int) + decimal.exponent
  if layout.isPositional before then positional layout.wholeEnd digits before
  else scientific digits (before - 1)

def Layout.finite? (layout : Layout) (x : Float) : Option String :=
  match Binary.ofFloat x with
  | .finite negative mantissa exponent =>
      let sign := if negative then ['-'] else []
      let body :=
        if mantissa = 0 then '0' :: layout.wholeEnd.toList
        else layout.decimal (shortest layout.tie mantissa exponent)
      some (String.ofList (sign ++ body))
  | _ => none

def nonFiniteName (x : Float) : String :=
  match Binary.ofFloat x with
  | .infinite true => "-inf"
  | .infinite false => "inf"
  | _ => "NaN"

def Layout.render (layout : Layout) (x : Float) : String :=
  (layout.finite? x).getD (nonFiniteName x)

/-- A number of units of 10^-`places`, with the point in its place. -/
def withPoint (places : Nat) (units : Nat) : List Char :=
  let digits := Nat.toDigits 10 units
  let padded := zeros (places + 1 - digits.length) ++ digits
  let whole := padded.length - places
  padded.take whole ++ ['.'] ++ padded.drop whole

/-- The text of a double with a fixed positive number of places. The exact value is rounded, a tie
goes to the even last digit, and a sign stays also when all digits are zero. -/
def fixed (places : Nat) (x : Float) : String :=
  match Binary.ofFloat x with
  | .finite negative mantissa exponent =>
      let sign := if negative then ['-'] else []
      let units := roundScaled .toEven (Nat.pow 10 places) mantissa exponent
      String.ofList (sign ++ withPoint places units)
  | _ => nonFiniteName x

/-- The integer nearest to a double, halves away from zero; zero where `x` is no number, and none
for an infinity. -/
def nearestInteger (x : Float) : Option Int :=
  match Binary.ofFloat x with
  | .notANumber => some 0
  | .infinite _ => none
  | .finite negative mantissa exponent =>
      let size : Int := roundScaled .awayFromZero 1 mantissa exponent
      some (if negative then -size else size)

end TagFix.Decimal
