import TagFix.Config.Check

/-!
# Settings that make sense

The check of settings finds no fault exactly where each of them alone makes sense.
-/

namespace TagFix.Config

structure Sensible (settings : Settings) : Prop where
  minRanges : 3 ≤ settings.minRanges.toNat
  eventQueueCapacity : 1 ≤ settings.eventQueueCapacity.toNat
  maxConsecutiveFailures : 1 ≤ settings.retry.maxConsecutiveFailures.toNat
  backoffs : settings.retry.baseBackoff.toNat ≤ settings.retry.maxBackoff.toNat
  linkTimeouts : 1 ≤ settings.retry.scanTimeout.toNat ∧ 1 ≤ settings.retry.connectTimeout.toNat
  maxIterations : 1 ≤ settings.solver.maxIterations.toNat
  stepTolerance : settings.solver.stepTolerance.isFinite = true ∧ 0 < settings.solver.stepTolerance
  gradientTolerance : settings.solver.gradientTolerance.isFinite = true ∧
    0 < settings.solver.gradientTolerance
  initialDamping : settings.solver.initialDamping.isFinite = true ∧
    0 < settings.solver.initialDamping
  refresh : settings.refresh.enabled = true →
    1 ≤ settings.refresh.interval.toNat ∧ 1 ≤ settings.refresh.fetchTimeout.toNat

private theorem isPositive_iff {x : Float} : isPositive x = true ↔ x.isFinite = true ∧ 0 < x := by
  rw [isPositive, Bool.and_eq_true, decide_eq_true_iff]

private theorem word_ne_zero_iff {word : UInt64} : ¬word = 0 ↔ 1 ≤ word.toNat := by
  rw [← UInt64.toNat_inj, Nat.one_le_iff_ne_zero]
  rfl

private theorem halfWord_ne_zero_iff {word : UInt32} : ¬word = 0 ↔ 1 ≤ word.toNat := by
  rw [← UInt32.toNat_inj, Nat.one_le_iff_ne_zero]
  rfl

/-- A guard passes on what comes after it. -/
theorem guard_eq_ok_iff {ε α : Type} {bad : Prop} [Decidable bad] {fault : ε}
    {next : Unit → Except ε α} {value : α} :
    (if bad then Except.error fault >>= next else next ()) = .ok value ↔
      ¬bad ∧ next () = .ok value := by
  by_cases isBad : bad
  · rw [if_pos isBad]
    exact iff_of_false nofun fun good => good.1 isBad
  · rw [if_neg isBad, and_iff_right isBad]

private theorem lastGuard_eq_ok_iff {ε : Type} {bad : Prop} [Decidable bad] {fault : ε} :
    (if bad then Except.error fault else pure ()) = .ok () ↔ ¬bad := by
  by_cases isBad : bad
  · rw [if_pos isBad]
    exact iff_of_false nofun fun good => good isBad
  · rw [if_neg isBad]
    exact iff_of_true rfl isBad

/-- The check finds nothing exactly if there is nothing to find. -/
theorem check_eq_ok_iff {settings : Settings} : settings.check = .ok () ↔ Sensible settings := by
  unfold Settings.check
  simp only [guard_eq_ok_iff, lastGuard_eq_ok_iff, Decidable.not_not]
  simp only [UInt64.not_lt, UInt64.le_iff_toNat_le, word_ne_zero_iff, halfWord_ne_zero_iff, not_or,
    not_and, isPositive_iff]
  constructor
  · rintro ⟨ranges, queue, failures, backoffs, timeouts, iterations, step, gradient, damping,
      refresh⟩
    exact ⟨ranges, queue, failures, backoffs, timeouts, iterations, step, gradient, damping,
      refresh⟩
  · rintro ⟨ranges, queue, failures, backoffs, timeouts, iterations, step, gradient, damping,
      refresh⟩
    exact ⟨ranges, queue, failures, backoffs, timeouts, iterations, step, gradient, damping,
      refresh⟩

end TagFix.Config
