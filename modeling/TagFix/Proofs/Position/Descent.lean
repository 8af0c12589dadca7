import TagFix.Proofs.Position.Search

/-!
# Steps lead downwards

Without rounding the damped equations have a solution wherever the search stands, be the anchors in
one line or in one place, and the step that solves them leads downwards. The main statement is
`tries_descend`.
-/

namespace TagFix.Position

open Matrix

/-! ## Exact numbers -/

/-- Real numbers are computed with exactly, and all of them are finite. -/
noncomputable instance : Arithmetic ℝ where
  ofNat n := n
  sqrt := Real.sqrt
  isLess a b := decide (a < b)
  isAtMost a b := decide (a ≤ b)
  isFinite _ := true
  smaller := min
  larger := max

private theorem eased_pos (damping : ℝ) : 0 < eased damping := by
  simp [eased, leastDamping, Arithmetic.larger, Arithmetic.ofNat]

private theorem stiffened_pos {damping : ℝ} (positive : 0 < damping) : 0 < stiffened damping := by
  simp [stiffened, greatestDamping, Arithmetic.smaller, Arithmetic.ofNat, positive]

private theorem root?_of_pos {a : ℝ} (positive : 0 < a) :
    ∃ root, root? a = some root ∧ 0 < root ∧ root * root = a := by
  refine ⟨√a, ?_, Real.sqrt_pos.mpr positive, Real.mul_self_sqrt positive.le⟩
  simp [root?, Arithmetic.isLess, Arithmetic.ofNat, Arithmetic.sqrt, positive]

/-! ## Vectors and matrices -/

def Point.vector (point : Point ℝ) : Fin 3 → ℝ :=
  ![point.x, point.y, point.z]

def Symmetric.toMatrix (a : Symmetric ℝ) : Matrix (Fin 3) (Fin 3) ℝ :=
  !![a.xx, a.yx, a.zx; a.yx, a.yy, a.zy; a.zx, a.zy, a.zz]

def Triangular.toMatrix (l : Triangular ℝ) : Matrix (Fin 3) (Fin 3) ℝ :=
  !![l.xx, 0, 0; l.yx, l.yy, 0; l.zx, l.zy, l.zz]

/-- The matrix `J = ∑ u uᵀ` of some rows. -/
def curvature (rows : List (Row ℝ)) : Matrix (Fin 3) (Fin 3) ℝ :=
  (rows.map fun row => vecMulVec row.direction.vector row.direction.vector).sum

/-- The vector `g = ∑ e u` of some rows. -/
def slope (rows : List (Row ℝ)) : Fin 3 → ℝ :=
  (rows.map fun row => row.error • row.direction.vector).sum

/-- The matrix `J + damping * (diag J + I)` of some rows. -/
def stiffness (rows : List (Row ℝ)) (damping : ℝ) : Matrix (Fin 3) (Fin 3) ℝ :=
  curvature rows + damping • (diagonal (curvature rows).diag + 1)

private theorem vector_neg (point : Point ℝ) : (-point).vector = -point.vector := by
  ext i
  fin_cases i <;> rfl

private theorem vector_add_times (sum direction : Point ℝ) (error : ℝ) :
    (sum + direction.times error).vector = sum.vector + error • direction.vector := by
  ext i
  fin_cases i <;> exact congrArg (_ + ·) (mul_comm _ error)

private theorem vector_gradient (rows : List (Row ℝ)) : (gradient rows).vector = slope rows := by
  induction rows using List.reverseRecOn with
  | nil =>
      ext i
      fin_cases i <;> exact Nat.cast_zero
  | append_singleton rows row inductionHypothesis =>
      rw [gradient, List.foldl_concat, ← gradient, vector_add_times, inductionHypothesis]
      simp [slope]

private theorem toMatrix_gram (rows : List (Row ℝ)) : (gram rows).toMatrix = curvature rows := by
  induction rows using List.reverseRecOn with
  | nil =>
      ext i j
      fin_cases i <;> fin_cases j <;> exact Nat.cast_zero
  | append_singleton rows row inductionHypothesis =>
      have last : curvature (rows ++ [row]) =
          curvature rows + vecMulVec row.direction.vector row.direction.vector := by
        simp [curvature]
      rw [last, ← inductionHypothesis, gram, List.foldl_concat, ← gram]
      ext i j
      fin_cases i <;> fin_cases j <;> simp [Symmetric.toMatrix, vecMulVec, Point.vector]
      -- Above the diagonal the factors stand in the other order.
      all_goals exact mul_comm _ _

private theorem toMatrix_damped (rows : List (Row ℝ)) (damping : ℝ) :
    ((gram rows).damped damping).toMatrix = stiffness rows damping := by
  rw [stiffness, ← toMatrix_gram]
  ext i j
  fin_cases i <;> fin_cases j <;>
    simp [Symmetric.toMatrix, Symmetric.damped, Arithmetic.ofNat, mul_add]

/-! ## Definite matrices -/

private theorem posSemidef_curvature (rows : List (Row ℝ)) : (curvature rows).PosSemidef := by
  induction rows with
  | nil => exact PosSemidef.zero
  | cons row rows inductionHypothesis =>
      rw [curvature, List.map_cons, List.sum_cons]
      exact (posSemidef_vecMulVec_self_star row.direction.vector).add inductionHypothesis

/-- However the rows lie, a positive damping makes the matrix definite. -/
theorem posDef_stiffness (rows : List (Row ℝ)) {damping : ℝ} (positive : 0 < damping) :
    (stiffness rows damping).PosDef := by
  have semidefinite := posSemidef_curvature rows
  have diagonal : (diagonal (curvature rows).diag).PosSemidef :=
    PosSemidef.diagonal fun i => semidefinite.diag_nonneg
  exact PosDef.posSemidef_add semidefinite ((PosDef.posSemidef_add diagonal .one).smul positive)

/-- The value of a definite matrix at a vector that is not zero. -/
theorem form_pos {a : Symmetric ℝ} (definite : a.toMatrix.PosDef) {x y z : ℝ}
    (nonzero : ¬(x = 0 ∧ y = 0 ∧ z = 0)) :
    0 < a.xx * x ^ 2 + a.yy * y ^ 2 + a.zz * z ^ 2 + 2 * (a.yx * x * y) + 2 * (a.zx * x * z) +
      2 * (a.zy * y * z) := by
  have vector : ![x, y, z] ≠ 0 := by
    intro zero
    exact nonzero ⟨congrFun zero 0, congrFun zero 1, congrFun zero 2⟩
  have entries : ![x, y, z] ⬝ᵥ (a.toMatrix *ᵥ ![x, y, z]) =
      a.xx * x ^ 2 + a.yy * y ^ 2 + a.zz * z ^ 2 + 2 * (a.yx * x * y) + 2 * (a.zx * x * z) +
        2 * (a.zy * y * z) := by
    simp [Symmetric.toMatrix, dotProduct, mulVec, Fin.sum_univ_three]
    ring
  have value := definite.dotProduct_mulVec_pos vector
  rwa [star_trivial, entries] at value

/-! ## The factor -/

/-- A definite matrix has a factor with a positive diagonal. Each pivot is the value of the matrix
at a vector that the rows of the factor before it take to zero. -/
theorem Symmetric.exists_factor {a : Symmetric ℝ} (definite : a.toMatrix.PosDef) :
    ∃ l, a.factor? = some l ∧ l.toMatrix * l.toMatrixᵀ = a.toMatrix ∧
      0 < l.xx ∧ 0 < l.yy ∧ 0 < l.zz := by
  have first : 0 < a.xx := by
    simpa using form_pos definite (x := 1) (y := 0) (z := 0) (by norm_num)
  obtain ⟨xx, rootXx, positiveXx, squareXx⟩ := root?_of_pos first
  obtain ⟨yx, entryYx⟩ : ∃ yx, yx = a.yx / xx := ⟨_, rfl⟩
  obtain ⟨zx, entryZx⟩ : ∃ zx, zx = a.zx / xx := ⟨_, rfl⟩
  have productYx : a.yx = yx * xx := by rw [entryYx, div_mul_cancel₀ _ positiveXx.ne']
  have productZx : a.zx = zx * xx := by rw [entryZx, div_mul_cancel₀ _ positiveXx.ne']
  have second : 0 < -yx * yx + a.yy := by
    convert form_pos definite (x := -(yx / xx)) (y := 1) (z := 0) (by norm_num) using 1
    rw [← squareXx, productYx]
    field_simp
    ring
  obtain ⟨yy, rootYy, positiveYy, squareYy⟩ := root?_of_pos second
  obtain ⟨zy, entryZy⟩ : ∃ zy, zy = (-yx * zx + a.zy) / yy := ⟨_, rfl⟩
  have productZy : -yx * zx + a.zy = zy * yy := by rw [entryZy, div_mul_cancel₀ _ positiveYy.ne']
  have third : 0 < -zy * zy + (-zx * zx + a.zz) := by
    have sumZy : a.zy = zy * yy + yx * zx := by linarith
    have sumYy : a.yy = yy * yy + yx * yx := by linarith
    convert form_pos definite (x := (yx * zy / yy - zx) / xx) (y := -(zy / yy)) (z := 1)
      (by norm_num) using 1
    rw [← squareXx, productYx, productZx, sumZy, sumYy]
    field_simp
    ring
  obtain ⟨zz, rootZz, positiveZz, squareZz⟩ := root?_of_pos third
  refine ⟨⟨xx, yx, yy, zx, zy, zz⟩, ?factored, ?product, positiveXx, positiveYy, positiveZz⟩
  case factored =>
    subst entryYx entryZx entryZy
    exact Option.bind_eq_some_iff.mpr ⟨xx, rootXx, Option.bind_eq_some_iff.mpr ⟨yy, rootYy,
      Option.bind_eq_some_iff.mpr ⟨zz, rootZz, rfl⟩⟩⟩
  case product =>
    ext i j
    fin_cases i <;> fin_cases j <;>
      simp [Triangular.toMatrix, Symmetric.toMatrix, Matrix.mul_apply, Fin.sum_univ_three] <;>
      linarith

section Solving

variable {l : Triangular ℝ} (xx : 0 < l.xx) (yy : 0 < l.yy) (zz : 0 < l.zz)

include xx yy zz

private theorem Triangular.mulVec_forward (b : Point ℝ) :
    l.toMatrix *ᵥ (l.forward b).vector = b.vector := by
  ext i
  fin_cases i <;>
    simp [Triangular.toMatrix, Triangular.forward, Point.vector, mulVec, dotProduct,
      Fin.sum_univ_three]
  all_goals field_simp
  all_goals ring

private theorem Triangular.mulVec_backward (v : Point ℝ) :
    l.toMatrixᵀ *ᵥ (l.backward v).vector = v.vector := by
  ext i
  fin_cases i <;>
    simp [Triangular.toMatrix, Triangular.backward, Point.vector, mulVec, dotProduct,
      Fin.sum_univ_three, Arithmetic.ofNat]
  all_goals field_simp
  all_goals ring

/-- The substitutions solve the equations of the product of the factor and its transpose. -/
theorem Triangular.mulVec_solve (b : Point ℝ) :
    (l.toMatrix * l.toMatrixᵀ) *ᵥ (l.solve b).vector = b.vector := by
  rw [← mulVec_mulVec, Triangular.solve, mulVec_backward xx yy zz, mulVec_forward xx yy zz]

end Solving

/-! ## Steps -/

/-- What the equations of some rows come to under a damping: their matrix is symmetric and definite,
it has a factor, and the step that the factor gives solves them and leads downwards. -/
structure Descends (rows : List (Row ℝ)) (damping : ℝ) : Prop where
  matrix_eq : ((gram rows).damped damping).toMatrix = stiffness rows damping
  gradient_eq : (gradient rows).vector = slope rows
  symmetric : (stiffness rows damping).IsSymm
  definite : (stiffness rows damping).PosDef
  solved : ∃ factor, ((gram rows).damped damping).factor? = some factor ∧
    stiffness rows damping *ᵥ (factor.solve (-gradient rows)).vector = -slope rows ∧
      (slope rows ≠ 0 → slope rows ⬝ᵥ (factor.solve (-gradient rows)).vector < 0)

/-- Against a definite matrix every slope is met by a step downwards. -/
theorem dotProduct_neg_of_posDef {a : Matrix (Fin 3) (Fin 3) ℝ} {slope step : Fin 3 → ℝ}
    (definite : a.PosDef) (solves : a *ᵥ step = -slope) (steep : slope ≠ 0) :
    slope ⬝ᵥ step < 0 := by
  have moves : step ≠ 0 := by
    rintro rfl
    rw [mulVec_zero, eq_comm, neg_eq_zero] at solves
    exact steep solves
  have value := definite.dotProduct_mulVec_pos moves
  rw [solves, star_trivial, dotProduct_neg, dotProduct_comm] at value
  exact neg_pos.mp value

private theorem descends (rows : List (Row ℝ)) {damping : ℝ} (positive : 0 < damping) :
    Descends rows damping := by
  have matrix := toMatrix_damped rows damping
  have definite := posDef_stiffness rows positive
  obtain ⟨factor, factored, product, xx, yy, zz⟩ := Symmetric.exists_factor (matrix ▸ definite)
  have solves : stiffness rows damping *ᵥ (factor.solve (-gradient rows)).vector =
      -slope rows := by
    rw [← matrix, ← product, Triangular.mulVec_solve xx yy zz, vector_neg, vector_gradient]
  exact
    { matrix_eq := matrix
      gradient_eq := vector_gradient rows
      symmetric := definite.isHermitian
      definite := definite
      solved := ⟨factor, factored, solves, dotProduct_neg_of_posDef definite solves⟩ }

/-! ## Searches -/

def Search.rows {α : Type} [Arithmetic α] (given : List (Sample α)) (search : Search α) :
    List (Row α) :=
  given.filterMap fun sample => sample.row? search.point

section Searches

variable (solver : Solver ℝ) (given : List (Sample ℝ)) {search : Search ℝ}

private theorem Search.damping_next_pos (positive : 0 < search.damping) :
    0 < (search.next solver given).1.damping :=
  Search.damping_next (fun _ _ => eased_pos _) (fun _ => stiffened_pos) positive

/-- A try looks at a point unless the slope has ended the search. -/
theorem Search.isSome_candidate? (positive : 0 < search.damping)
    (steep : Arithmetic.isLess (gradient (search.rows given)).norm solver.gradientTolerance =
      false) : (search.candidate? solver given).isSome = true := by
  obtain ⟨factor, factored, -⟩ := (descends (search.rows given) positive).solved
  rw [Search.rows] at steep factored
  simp only [Search.candidate?, steep, factored, Bool.false_eq_true, if_false, Option.map_some,
    Option.isSome_some]

/-- With a positive damping at first, the damping is positive at the beginning and the end of every
try of every search without rounding. So whatever rows a try works with, its equations have a
symmetric and definite matrix with a factor, their step solves them and leads downwards wherever
there is a slope, and no try goes without a point to look at. -/
theorem tries_descend (positive : 0 < solver.initialDamping) (start : Point ℝ) (count : Nat) :
    ∀ search ∈ (Search.begin solver given start).tries solver given count,
      0 < search.damping ∧ 0 < (search.next solver given).1.damping ∧
        (∀ rows, Descends rows search.damping) ∧
          (Arithmetic.isLess (gradient (search.rows given)).norm solver.gradientTolerance = false →
            (search.candidate? solver given).isSome = true) := by
  intro search member
  have damped : 0 < search.damping :=
    Search.damping_of_mem_tries (fun _ _ => eased_pos _) (fun _ => stiffened_pos) positive search
      member
  exact ⟨damped, search.damping_next_pos solver given damped, fun rows => descends rows damped,
    Search.isSome_candidate? solver given damped⟩

end Searches

noncomputable def exactSolver : Solver ℝ :=
  ⟨100, 1 / 10 ^ 7, 1 / 10 ^ 10, 1 / 1000⟩

/-- Ranges to anchors that are all in one place. -/
def coincident : List (Sample ℝ) :=
  [⟨⟨1, 1, 1⟩, 2⟩, ⟨⟨1, 1, 1⟩, 3⟩, ⟨⟨1, 1, 1⟩, 2⟩]

theorem tries_descend_coincident :
    0 < exactSolver.initialDamping ∧
      ∀ search ∈ (Search.begin exactSolver coincident ⟨0, 0, 0⟩).tries exactSolver coincident 100,
        0 < search.damping ∧ 0 < (search.next exactSolver coincident).1.damping ∧
          (∀ rows, Descends rows search.damping) ∧
            (Arithmetic.isLess (gradient (search.rows coincident)).norm
              exactSolver.gradientTolerance = false →
                (search.candidate? exactSolver coincident).isSome = true) := by
  have positive : 0 < exactSolver.initialDamping := by norm_num [exactSolver]
  exact ⟨positive, tries_descend exactSolver coincident positive ⟨0, 0, 0⟩ 100⟩

end TagFix.Position
