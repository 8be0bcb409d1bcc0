import Mathlib

/-!
# The terms of an arithmetic progression

The integers `start + k * step` for a positive step.  `firstFrom` is the least
of them that is not below a given bound, in a form that computes.
-/

namespace Progression

variable {start step s t : ℤ}

/-- The first term from `s` on. -/
def firstFrom (start step s : ℤ) : ℤ :=
  s + (start - s) % step

theorem le_firstFrom (start s : ℤ) (hstep : 0 < step) : s ≤ firstFrom start step s := by
  have hnonneg := Int.emod_nonneg (start - s) hstep.ne'
  unfold firstFrom
  omega

theorem firstFrom_lt (start s : ℤ) (hstep : 0 < step) :
    firstFrom start step s < s + step := by
  have hbelow := Int.emod_lt_of_pos (start - s) hstep
  unfold firstFrom
  omega

theorem dvd_firstFrom_sub : step ∣ firstFrom start step s - start := by
  refine ⟨-((start - s) / step), ?_⟩
  have hdivision := Int.emod_add_mul_ediv (start - s) step
  rw [Int.mul_neg]
  unfold firstFrom
  omega

/-- Two terms less than a step apart are the same. -/
theorem eq_of_dvd {u : ℤ} (ht : step ∣ t - start) (hu : step ∣ u - start)
    (hlow : u - step < t) (hhigh : t < u + step) : t = u := by
  have hdiff : step ∣ t - u := by
    have h := dvd_sub ht hu
    rwa [sub_sub_sub_cancel_right] at h
  have hzero : t - u = 0 := by
    apply Int.eq_zero_of_abs_lt_dvd hdiff
    rw [abs_lt]
    omega
  omega

theorem firstFrom_le (hstep : 0 < step) (hst : s ≤ t) (ht : step ∣ t - start) :
    firstFrom start step s ≤ t := by
  by_contra hlt
  rw [not_le] at hlt
  have hnear := firstFrom_lt start s hstep
  have heq : t = firstFrom start step s :=
    eq_of_dvd ht dvd_firstFrom_sub (by omega) (by omega)
  omega

theorem firstFrom_eq (hstep : 0 < step) (hst : s ≤ t) (hts : t < s + step)
    (ht : step ∣ t - start) : firstFrom start step s = t := by
  have hle := le_firstFrom start s hstep
  have hlt := firstFrom_lt start s hstep
  exact eq_of_dvd dvd_firstFrom_sub ht (by omega) (by omega)

theorem firstFrom_of_dvd (hstep : 0 < step) (hs : step ∣ s - start) :
    firstFrom start step s = s :=
  firstFrom_eq hstep le_rfl (by omega) hs

/-- Past a bound that is no term, the first term stays. -/
theorem firstFrom_succ (hstep : 0 < step) (hs : ¬ step ∣ s - start) :
    firstFrom start step (s + 1) = firstFrom start step s := by
  have hle := le_firstFrom start s hstep
  have hlt := firstFrom_lt start s hstep
  have hne : firstFrom start step s ≠ s := by
    intro heq
    apply hs
    rw [← heq]
    exact dvd_firstFrom_sub
  exact firstFrom_eq hstep (by omega) (by omega) dvd_firstFrom_sub

/-- The first term after `s`, by the quotient. -/
theorem firstFrom_succ_eq (hstep : 0 < step) :
    firstFrom start step (s + 1) = start + ((s - start) / step + 1) * step := by
  have hdivision := Int.emod_add_mul_ediv (s - start) step
  have hnonneg := Int.emod_nonneg (s - start) hstep.ne'
  have hbelow := Int.emod_lt_of_pos (s - start) hstep
  rw [mul_comm] at hdivision
  apply firstFrom_eq hstep
  · rw [add_mul, one_mul]
    omega
  · rw [add_mul, one_mul]
    omega
  · rw [add_sub_cancel_left]
    exact dvd_mul_left _ _

end Progression
