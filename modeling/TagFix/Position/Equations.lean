import TagFix.Position.Point

/-!
The linear equations of one step of the solver.

With a unit vector `u` from an anchor to the current point and the error `e` of its range, a step
should bring down the sum of the squares of `e + u · step`. That gives a symmetric system with the
matrix `∑ u uᵀ`, whose diagonal is raised by a damping term, and it is solved by the factor `L` of
`A = L Lᵀ`.
-/

namespace TagFix.Position

variable {α : Type} [Arithmetic α]

open Arithmetic

/-- A measured distance to a known point. -/
structure Sample (α : Type) where
  anchor : Point α
  range : α
deriving Repr

/-- The direction in which one range error grows, and the error. -/
structure Row (α : Type) where
  direction : Point α
  error : α
deriving Repr

/-- A symmetric matrix, by the entries of its lower half. -/
structure Symmetric (α : Type) where
  xx : α
  yx : α
  yy : α
  zx : α
  zy : α
  zz : α
deriving Repr

structure Triangular (α : Type) where
  xx : α
  yx : α
  yy : α
  zx : α
  zy : α
  zz : α
deriving Repr

/-! ## Errors of the ranges -/

/-- By how much a point is farther from the anchor than the range says. -/
def Sample.error (sample : Sample α) (point : Point α) : α :=
  (point - sample.anchor).norm - sample.range

/-- The sum of the squared errors of the ranges, added from the first on. It starts at negative zero,
which changes nothing that is added to it, and so the sum of nothing is negative zero. -/
def cost (samples : List (Sample α)) (point : Point α) : α :=
  samples.foldl (fun sum sample => sum + sample.error point * sample.error point) (-ofNat 0)

/-- Points nearer to each other than this are taken for one. -/
def coincidence : α :=
  ofNat 1 / ofNat 1000000000000

/-- The row of a sample; a point that sits on the anchor has no direction and no row. -/
def Sample.row? (sample : Sample α) (point : Point α) : Option (Row α) :=
  let difference := point - sample.anchor
  let distance := difference.norm
  if isLess distance coincidence then none
  else some ⟨difference.dividedBy distance, distance - sample.range⟩

/-! ## Normal equations -/

/-- The matrix `∑ u uᵀ`. -/
def gram (rows : List (Row α)) : Symmetric α :=
  rows.foldl (fun sum row =>
      let u := row.direction
      ⟨sum.xx + u.x * u.x, sum.yx + u.y * u.x, sum.yy + u.y * u.y,
        sum.zx + u.z * u.x, sum.zy + u.z * u.y, sum.zz + u.z * u.z⟩)
    ⟨ofNat 0, ofNat 0, ofNat 0, ofNat 0, ofNat 0, ofNat 0⟩

/-- The gradient `∑ u e` of half the cost. -/
def gradient (rows : List (Row α)) : Point α :=
  rows.foldl (fun sum row => sum + row.direction.times row.error) Point.origin

/-- The matrix with its diagonal raised by the damping times one more than each entry. -/
def Symmetric.damped (matrix : Symmetric α) (damping : α) : Symmetric α :=
  { matrix with
    xx := matrix.xx + damping * (matrix.xx + ofNat 1)
    yy := matrix.yy + damping * (matrix.yy + ofNat 1)
    zz := matrix.zz + damping * (matrix.zz + ofNat 1) }

def root? (a : α) : Option α :=
  if isLess (ofNat 0) a then some (sqrt a) else none

/-- The factor `L` with `L Lᵀ` the given matrix, unless a pivot is not positive. -/
def Symmetric.factor? (matrix : Symmetric α) : Option (Triangular α) := do
  let xx ← root? matrix.xx
  let yx := matrix.yx / xx
  let zx := matrix.zx / xx
  let yy ← root? (-yx * yx + matrix.yy)
  let zy := (-yx * zx + matrix.zy) / yy
  let zz ← root? (-zy * zy + (-zx * zx + matrix.zz))
  pure ⟨xx, yx, yy, zx, zy, zz⟩

/-- The solution `v` of `L v = b`, from the first coordinate on. -/
def Triangular.forward (l : Triangular α) (b : Point α) : Point α :=
  let x := b.x / l.xx
  let y := (-x * l.yx + b.y) / l.yy
  let z := (-y * l.zy + (-x * l.zx + b.z)) / l.zz
  ⟨x, y, z⟩

/-- The solution `w` of `Lᵀ w = v`, from the last coordinate on. -/
def Triangular.backward (l : Triangular α) (v : Point α) : Point α :=
  let z := (v.z - ofNat 0) / l.zz
  let y := (v.y - (ofNat 0 + l.zy * z)) / l.yy
  let x := (v.x - (ofNat 0 + l.yx * y + l.zx * z)) / l.xx
  ⟨x, y, z⟩

def Triangular.solve (l : Triangular α) (b : Point α) : Point α :=
  l.backward (l.forward b)

end TagFix.Position
