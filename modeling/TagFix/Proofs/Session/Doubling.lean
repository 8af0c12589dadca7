import TagFix.Session.Backoff
import Mathlib.Algebra.Order.Ring.Nat
import Mathlib.Data.List.DropRight
import Mathlib.Data.List.Induction

/-!
# The pause doubles

The pause before a retry is the base, doubled with every further failure since the last success, up
to the cap. Neither the words in which failures and factors are counted nor the length of the
longest span of time ever show. But the doublings end with the thirty-first, also where the cap is
still ahead. The main statement is `doubling_after`.
-/

namespace TagFix.Session.Backoff

/-! ## Failures since the last success -/

inductive Report
  | failure
  | success
deriving DecidableEq, Repr

def record (backoff : Backoff) : Report → Backoff
  | .failure => backoff.recordFailure
  | .success => backoff.recordSuccess

def after (backoff : Backoff) (reports : List Report) : Backoff :=
  reports.foldl record backoff

/-- The failures at the end of what was told, none of which is followed by a success. -/
def failuresSince (reports : List Report) : Nat :=
  (reports.rtakeWhile (· = .failure)).length

theorem failuresSince_concat (reports : List Report) (report : Report) :
    failuresSince (reports ++ [report]) =
      if report = .failure then failuresSince reports + 1 else 0 := by
  rw [failuresSince, List.rtakeWhile_concat]
  cases report with
  | success | failure => simp [failuresSince]

theorem after_concat (backoff : Backoff) (reports : List Report) (report : Report) :
    backoff.after (reports ++ [report]) = (backoff.after reports).record report :=
  List.foldl_append

/-- Only the count of the failures changes, and it stays where the word ends. -/
theorem after_start (maxFailures base cap : Nat) (reports : List Report) :
    (start maxFailures base cap).after reports =
      { start maxFailures base cap with failures := min (failuresSince reports) mostCounted } := by
  induction reports using List.reverseRecOn with
  | nil => rfl
  | append_singleton reports report inductionHypothesis =>
      rw [after_concat, inductionHypothesis, failuresSince_concat]
      cases report with
      | failure =>
          simp only [record, recordFailure, if_true, mk.injEq, true_and]
          omega
      | success => rfl

/-! ## The pause after a number of failures -/

def delayAt (backoff : Backoff) (failures : Nat) : Nat :=
  { backoff with failures }.delay

private theorem delayAt_eq (backoff : Backoff) (failures : Nat) :
    backoff.delayAt failures =
      min (backoff.base * 2 ^ min (failures - 1) mostDoublings) backoff.cap :=
  rfl

/-- The pause never shrinks with the failures in a row. -/
theorem delayAt_le_delayAt (backoff : Backoff) {few many : Nat} (fewer : few ≤ many) :
    backoff.delayAt few ≤ backoff.delayAt many := by
  have exponents : min (few - 1) mostDoublings ≤ min (many - 1) mostDoublings := by omega
  rw [delayAt_eq, delayAt_eq]
  apply min_le_min_right
  apply Nat.mul_le_mul_left
  exact Nat.pow_le_pow_right (by decide) exponents

theorem delayAt_le_cap (backoff : Backoff) (failures : Nat) :
    backoff.delayAt failures ≤ backoff.cap :=
  delay_le_cap _

private theorem delayAt_min_mostCounted (backoff : Backoff) (failures : Nat) :
    backoff.delayAt (min failures mostCounted) = backoff.delayAt failures := by
  have exponents : min (min failures mostCounted - 1) mostDoublings =
      min (failures - 1) mostDoublings := by
    -- The last failure that is counted comes long after the last doubling.
    rw [mostCounted, mostDoublings]
    omega
  rw [delayAt_eq, delayAt_eq, exponents]

theorem delay_le_delay_recordFailure (backoff : Backoff) :
    backoff.delay ≤ backoff.recordFailure.delay :=
  calc backoff.delay
    _ ≤ backoff.delayAt (backoff.failures + 1) :=
        backoff.delayAt_le_delayAt (Nat.le_add_right backoff.failures 1)
    _ = backoff.recordFailure.delay := (backoff.delayAt_min_mostCounted _).symm

/-- Fewer doublings come to the same if there is nothing to double or the cap is reached by then. -/
theorem min_doubled_eq_iff {base cap few many : Nat} (fewer : few < many) :
    min (base * 2 ^ few) cap = min (base * 2 ^ many) cap ↔ base = 0 ∨ cap ≤ base * 2 ^ few := by
  have more : 2 ^ few < 2 ^ many := Nat.pow_lt_pow_right (by decide) fewer
  by_cases nothing : base = 0
  · simp [nothing]
  · have further : base * 2 ^ few < base * 2 ^ many :=
      Nat.mul_lt_mul_of_pos_left more (Nat.pos_of_ne_zero nothing)
    omega

private theorem delayAt_eq_doubled_iff (backoff : Backoff) (failures : Nat) :
    backoff.delayAt failures = min (backoff.base * 2 ^ (failures - 1)) backoff.cap ↔
      failures ≤ 32 ∨ backoff.base = 0 ∨ backoff.cap ≤ backoff.base * 2 ^ 31 := by
  rw [delayAt_eq, mostDoublings]
  by_cases few : failures ≤ 32
  · have exponent : min (failures - 1) 31 = failures - 1 := by omega
    simp only [exponent, few, true_or]
  · have exponent : min (failures - 1) 31 = 31 := by omega
    rw [exponent, min_doubled_eq_iff (by omega)]
    simp only [few, false_or]

/-! ## Words and spans -/

/-- The factor by which the base is multiplied, as a word that one bit is shifted in. -/
def factor (failures : Nat) : UInt32 :=
  1 <<< UInt32.ofNat (min (failures - 1) mostDoublings)

/-- The shift loses no bit, because the exponent stays below the width of the word. -/
theorem toNat_factor (failures : Nat) :
    (factor failures).toNat = 2 ^ min (failures - 1) mostDoublings := by
  have exponent : min (failures - 1) mostDoublings < 32 := by
    rw [mostDoublings]
    omega
  have fits : 2 ^ min (failures - 1) mostDoublings < 2 ^ 32 :=
    Nat.pow_lt_pow_right (by decide) exponent
  -- The word takes its shift modulo its width, and the exponent is below that.
  have kept : min (failures - 1) mostDoublings % 2 ^ 32 % 32 =
      min (failures - 1) mostDoublings := by omega
  rw [factor, UInt32.toNat_shiftLeft, UInt32.toNat_ofNat', kept, UInt32.toNat_one,
    Nat.shiftLeft_eq, Nat.one_mul, Nat.mod_eq_of_lt fits]

/-- A span of time taken several times, unless that is longer than the longest span. -/
def times? (longest span : Nat) (factor : UInt32) : Option Nat :=
  if span * factor.toNat ≤ longest then some (span * factor.toNat) else none

/-- The pause where spans of time have a limit: a pause that is too long gives way to the cap. -/
def limitedDelay (longest : Nat) (backoff : Backoff) : Nat :=
  min ((times? longest backoff.base (factor backoff.failures)).getD backoff.cap) backoff.cap

/-- The limit never shows, as the cap is within it. -/
theorem limitedDelay_eq_delay {longest : Nat} {backoff : Backoff} (within : backoff.cap ≤ longest) :
    backoff.limitedDelay longest = backoff.delay := by
  change _ = backoff.delayAt backoff.failures
  rw [limitedDelay, times?, toNat_factor, delayAt_eq]
  split
  · rfl
  · rw [Option.getD_none]
    omega

/-! ## Reports -/

/-- How a backoff stands after reports: failures are counted up to the end of the word, the pause is
the base with its doublings or the cap, and it is so without a limit of the doublings but for bases
that are still below the cap after the thirty-first. -/
structure Doubling (maxFailures base cap : Nat) (reports : List Report) : Prop where
  failures_eq : ((start maxFailures base cap).after reports).failures =
    min (failuresSince reports) 4294967295
  delay_eq : ((start maxFailures base cap).after reports).delay =
    min (base * 2 ^ min (failuresSince reports - 1) 31) (max cap base)
  doubled_iff : ((start maxFailures base cap).after reports).delay =
      min (base * 2 ^ (failuresSince reports - 1)) (max cap base) ↔
    failuresSince reports ≤ 32 ∨ base = 0 ∨ max cap base ≤ base * 2 ^ 31
  unlimited : ∀ longest, base ≤ longest → cap ≤ longest →
    ((start maxFailures base cap).after reports).limitedDelay longest =
      ((start maxFailures base cap).after reports).delay

/-- Whatever a backoff is told, its pause is the base, doubled with every failure since the last
success but the first, at most thirty-one times and up to the cap. -/
theorem doubling_after (maxFailures base cap : Nat) (reports : List Report) :
    Doubling maxFailures base cap reports := by
  have counted := after_start maxFailures base cap reports
  have delay : ((start maxFailures base cap).after reports).delay =
      (start maxFailures base cap).delayAt (failuresSince reports) := by
    rw [counted]
    exact delayAt_min_mostCounted _ _
  constructor
  case failures_eq =>
    rw [counted]
    rfl
  case delay_eq => exact delay
  case doubled_iff =>
    rw [delay]
    exact delayAt_eq_doubled_iff _ _
  case unlimited =>
    intro longest baseWithin capWithin
    apply limitedDelay_eq_delay
    rw [counted]
    exact Nat.max_le.mpr ⟨capWithin, baseWithin⟩

/-- A pause that stays at half of its cap. -/
theorem delay_after_thirtyThree :
    ((start 50 1 4294967296).after (List.replicate 33 .failure)).delay ≠
      min (1 * 2 ^ (failuresSince (List.replicate 33 .failure) - 1)) (max 4294967296 1) := by
  decide +kernel

end TagFix.Session.Backoff
