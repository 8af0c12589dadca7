/-!
The arithmetic that positions are computed in. The programs run on doubles; statements about the
method itself are made about an arithmetic without rounding.
-/

namespace TagFix.Position

/-- Numbers with the operations that the solver uses. -/
class Arithmetic (α : Type) extends Add α, Sub α, Mul α, Div α, Neg α where
  ofNat : Nat → α
  sqrt : α → α
  isLess : α → α → Bool
  isAtMost : α → α → Bool
  isFinite : α → Bool
  /-- The smaller of two numbers; an operand that is no number gives the other one. -/
  smaller : α → α → α
  /-- The larger of two numbers; an operand that is no number gives the other one. -/
  larger : α → α → α

def smallerFloat (a b : Float) : Float :=
  if a.isNaN then b else if b.isNaN then a else if b < a then b else a

def largerFloat (a b : Float) : Float :=
  if a.isNaN then b else if b.isNaN then a else if a < b then b else a

instance : Arithmetic Float where
  ofNat := Float.ofNat
  sqrt := Float.sqrt
  isLess a b := a < b
  isAtMost a b := a ≤ b
  isFinite := Float.isFinite
  smaller := smallerFloat
  larger := largerFloat

end TagFix.Position
