import TagFix.Json.Cursor
import TagFix.Json.Value

/-!
Numbers in JSON text: first their spelling, then the value of a spelling.

The value is found in 64 bits. Digits make up an integer as long as it fits; later digits before
the point only count as a power of ten, later ones behind it not at all. The integer is then turned
into a double and scaled by a double that is a power of ten, so a long spelling may be rounded more
than once.
-/

namespace TagFix.Json

/-- A spelled number. -/
structure Numeral where
  negative : Bool
  whole : List Nat
  fraction : Option (List Nat)
  /-- Whether the exponent is negative, and its digits. -/
  exponent : Option (Bool × List Nat)
deriving Repr

def isDigit (c : Char) : Bool :=
  '0' ≤ c && c ≤ '9'

def digitValue (c : Char) : Nat :=
  c.toNat - 48

/-! ## Spelling -/

def Cursor.digits (c : Cursor) : List Nat × Cursor :=
  let run := c.rest.takeWhile isDigit
  (run.map digitValue, c.past run.length (c.rest.dropWhile isDigit))

/-- Reads the digits before the point: a lone zero, or digits of which the first is not zero.
`atEnd` is the cause where the text ends first. -/
def Cursor.wholeDigits (atEnd : Cause) (c : Cursor) : Except Fault (List Nat × Cursor) :=
  match c.rest with
  | [] => .error (c.behind atEnd)
  | '0' :: rest =>
      let c := c.past 1 rest
      match rest with
      | next :: _ => if isDigit next then .error (c.ahead .invalidNumber) else .ok ([0], c)
      | [] => .ok ([0], c)
  | first :: rest =>
      if isDigit first then .ok c.digits
      else .error ((c.past 1 rest).behind .invalidNumber)

def Cursor.fractionDigits (atEnd : Cause) (c : Cursor) :
    Except Fault (Option (List Nat) × Cursor) :=
  match c.rest with
  | '.' :: rest =>
      match (c.past 1 rest).digits with
      | ([], after) => .error (after.ahead (if after.rest.isEmpty then atEnd else .invalidNumber))
      | (digits, after) => .ok (some digits, after)
  | _ => .ok (none, c)

def Cursor.exponentSign (c : Cursor) : Bool × Cursor :=
  match c.rest with
  | '+' :: rest => (false, c.past 1 rest)
  | '-' :: rest => (true, c.past 1 rest)
  | _ => (false, c)

def Cursor.exponentDigits (atEnd : Cause) (c : Cursor) :
    Except Fault (Option (Bool × List Nat) × Cursor) :=
  match c.rest with
  | mark :: rest =>
      if mark = 'e' ∨ mark = 'E' then
        let (negative, c) := (c.past 1 rest).exponentSign
        match c.digits, c.rest with
        | ([], _), [] => .error (c.behind atEnd)
        | ([], _), _ :: rest => .error ((c.past 1 rest).behind .invalidNumber)
        | (digits, after), _ => .ok (some (negative, digits), after)
      else .ok (none, c)
  | [] => .ok (none, c)

def Cursor.numeral (atEnd : Cause) (c : Cursor) : Except Fault (Numeral × Cursor) := do
  let negative := c.rest.head? = some '-'
  let c := if negative then c.step else c
  let (whole, c) ← c.wholeDigits atEnd
  let (fraction, c) ← c.fractionDigits atEnd
  let (exponent, c) ← c.exponentDigits atEnd
  .ok (⟨negative, whole, fraction, exponent⟩, c)

/-! ## Value -/

/-- Appends digits to a number as long as it stays below `bound`, and returns those left over. -/
def appendDigits (bound : Nat) : Nat → List Nat → Nat × List Nat
  | n, [] => (n, [])
  | n, digit :: digits =>
      if 10 * n + digit < bound then appendDigits bound (10 * n + digit) digits
      else (n, digit :: digits)

def powerOfTen (exponent : Nat) : Float :=
  Float.ofScientific 1 false exponent

/-- Divides by 10^308 up to `count` times, until nothing is left. -/
def scaleDown : Nat → Float → Float
  | 0, x => x
  | count + 1, x => if x == 0 then x else scaleDown count (x / powerOfTen 308)

/-- A 64-bit integer times a power of ten; none where the product is too large for a double. -/
def scale (significand : Nat) (exponent : Int) : Option Float :=
  let x := significand.toUInt64.toFloat
  if 0 ≤ exponent then
    if exponent ≤ 308 then
      let product := x * powerOfTen exponent.toNat
      if product.isInf then none else some product
    else if x == 0 then some x
    else none
  else
    let places := (-exponent).toNat
    some (scaleDown ((places - 1) / 308) x / powerOfTen ((places - 1) % 308 + 1))

/-- The least and greatest exponent that is kept apart from its neighbours. -/
def clampExponent (exponent : Int) : Int :=
  max (-2147483648) (min exponent 2147483647)

/-- The double of a significand and the exponent behind it; a failure tells how many digits of the
exponent were left unread. -/
def Numeral.float (significand : Nat) (shift : Int) (exponent : Option (Bool × List Nat)) :
    Except Nat Float :=
  match exponent with
  | none => (scale significand shift).elim (.error 0) .ok
  | some (negative, digits) =>
      let (power, unread) := appendDigits 2147483648 0 digits
      if unread.isEmpty then
        let total := clampExponent (if negative then shift - power else shift + power)
        (scale significand total).elim (.error 0) .ok
      else if significand ≠ 0 ∧ ¬negative then .error (unread.length - 1)
      else .ok 0

/-- The value of a spelling. A negative zero is a double, and so is an integer beyond 64 bits. -/
def Numeral.value (numeral : Numeral) : Except Nat Number :=
  let (integer, excess) := appendDigits UInt64.size 0 numeral.whole
  let signed := fun x : Float => if numeral.negative then -x else x
  match numeral.fraction, numeral.exponent, excess with
  | none, none, [] =>
      if ¬numeral.negative then .ok (.whole integer)
      else if integer ≠ 0 ∧ 2 * integer ≤ UInt64.size then .ok (.whole (-integer))
      else .ok (.decimal (-integer.toUInt64.toFloat))
  | fraction, exponent, excess =>
      let digits := fraction.getD []
      let (significand, unread) := appendDigits UInt64.size integer digits
      let shift : Int := excess.length - (digits.length - unread.length : Nat)
      (Numeral.float significand shift exponent).map fun x => .decimal (signed x)

def Cursor.number (c : Cursor) : Except Fault (Number × Cursor) := do
  let (numeral, after) ← c.numeral .endInValue
  match numeral.value with
  | .ok value => .ok (value, after)
  | .error unread => .error ⟨.numberOutOfRange, after.offset - unread⟩

def Cursor.passNumber (c : Cursor) : Except Fault Cursor :=
  (c.numeral .invalidNumber).map Prod.snd

end TagFix.Json
