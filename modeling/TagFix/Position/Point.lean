import TagFix.Position.Arithmetic

/-!
Points and vectors of space, in metres.
-/

namespace TagFix.Position

/-- A point, or the vector to it from the origin. -/
structure Point (α : Type) where
  x : α
  y : α
  z : α
deriving DecidableEq, Repr

variable {α : Type} [Arithmetic α]

open Arithmetic

namespace Point

def diagonal (a : α) : Point α :=
  ⟨a, a, a⟩

def origin : Point α :=
  diagonal (ofNat 0)

def add (p q : Point α) : Point α :=
  ⟨p.x + q.x, p.y + q.y, p.z + q.z⟩

def sub (p q : Point α) : Point α :=
  ⟨p.x - q.x, p.y - q.y, p.z - q.z⟩

def neg (p : Point α) : Point α :=
  ⟨-p.x, -p.y, -p.z⟩

def times (p : Point α) (a : α) : Point α :=
  ⟨p.x * a, p.y * a, p.z * a⟩

def dividedBy (p : Point α) (a : α) : Point α :=
  ⟨p.x / a, p.y / a, p.z / a⟩

instance : Add (Point α) := ⟨add⟩
instance : Sub (Point α) := ⟨sub⟩
instance : Neg (Point α) := ⟨neg⟩

def norm (p : Point α) : α :=
  sqrt (p.x * p.x + p.y * p.y + p.z * p.z)

def isFinite (p : Point α) : Bool :=
  Arithmetic.isFinite p.x && Arithmetic.isFinite p.y && Arithmetic.isFinite p.z

end Point

end TagFix.Position
