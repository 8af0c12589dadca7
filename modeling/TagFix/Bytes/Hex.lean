/-!
Hexadecimal digits, two to the byte. Written digits are lower case; either case is read.
-/

namespace TagFix.Hex

def digit (value : Nat) : Char :=
  if value < 10 then Char.ofNat (48 + value) else Char.ofNat (87 + value)

def value? (c : Char) : Option Nat :=
  if '0' ≤ c ∧ c ≤ '9' then some (c.toNat - 48)
  else if 'a' ≤ c ∧ c ≤ 'f' then some (c.toNat - 87)
  else if 'A' ≤ c ∧ c ≤ 'F' then some (c.toNat - 55)
  else none

def byte (b : UInt8) : List Char :=
  [digit (b.toNat / 16), digit (b.toNat % 16)]

/-- The shortest digits of a number, at least one. -/
def ofNat (n : Nat) : String :=
  String.ofList (Nat.toDigits 16 n)

theorem value?_digit : ∀ value < 16, value? (digit value) = some value := by
  decide

end TagFix.Hex
