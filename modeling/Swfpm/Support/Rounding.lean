import Mathlib

/-!
# Rounding to the nearest integer

A value of a linear ordered field has one nearest integer, or two that are
equally near.  The two tie rules below differ in which of two they take: the
even one, or the one further from zero.  The `_div_iff` lemmas state each rule
for a quotient of integers without the division.
-/

namespace Rounding

variable {K : Type*} [Field K] [LinearOrder K] [IsStrictOrderedRing K]
  {x y : K} {n m v d : ℤ}

/-- No integer is nearer to `x`. -/
def IsNearest (x : K) (n : ℤ) : Prop :=
  ∀ m : ℤ, |x - n| ≤ |x - m|

/-- Nearest, and even where another integer is as near. -/
def IsHalfEven (x : K) (n : ℤ) : Prop :=
  IsNearest x n ∧ ∀ m : ℤ, m ≠ n → |x - m| = |x - n| → Even n

/-- Nearest, and the further from zero where another integer is as near. -/
def IsHalfAway (x : K) (n : ℤ) : Prop :=
  IsNearest x n ∧ ∀ m : ℤ, |x - m| = |x - n| → |m| ≤ |n|

/-! ## Nearness as a bound -/

theorem isNearest_iff : IsNearest x n ↔ |x - n| ≤ 1 / 2 := by
  constructor
  · intro hnearest
    have hup : |x - n| ≤ |x - n - 1| := by
      have h := hnearest (n + 1)
      push_cast at h
      rwa [← sub_sub] at h
    have hdown : |x - n| ≤ |x - n + 1| := by
      have h := hnearest (n - 1)
      push_cast at h
      rwa [sub_sub_eq_add_sub, add_sub_right_comm] at h
    by_contra hfar
    rw [not_le] at hfar
    rcases abs_cases (x - n) with ⟨habs, hsign⟩ | ⟨habs, hsign⟩
    · have hcloser : |x - n - 1| < x - n := by
        rw [abs_lt]
        constructor <;> linarith
      linarith
    · have hcloser : |x - n + 1| < -(x - n) := by
        rw [abs_lt]
        constructor <;> linarith
      linarith
  · intro hclose m
    rcases eq_or_ne m n with rfl | hne
    · exact le_rfl
    · have happart : (1 : K) ≤ |(m : K) - n| := by
        exact_mod_cast Int.one_le_abs (sub_ne_zero.mpr hne)
      have htriangle : |(m : K) - n| ≤ |x - n| + |x - m| := by
        have h := abs_sub (x - n) (x - m)
        rwa [sub_sub_sub_cancel_left] at h
      linarith

/-- The nearest integer that shares its distance lies half a unit away. -/
theorem IsNearest.tie_iff (hnearest : IsNearest x n) :
    |x - n| = 1 / 2 ↔ ∃ m : ℤ, m ≠ n ∧ |x - m| = |x - n| := by
  rw [isNearest_iff] at hnearest
  constructor
  · intro htie
    rcases abs_cases (x - n) with ⟨habs, hsign⟩ | ⟨habs, hsign⟩
    · refine ⟨n + 1, by omega, ?_⟩
      have hx : x - ((n + 1 : ℤ) : K) = -(1 / 2) := by push_cast; linarith
      rw [hx, htie, abs_neg, abs_of_pos (by norm_num)]
    · refine ⟨n - 1, by omega, ?_⟩
      have hx : x - ((n - 1 : ℤ) : K) = 1 / 2 := by push_cast; linarith
      rw [hx, htie, abs_of_pos (by norm_num)]
  · rintro ⟨m, hne, heq⟩
    have happart : (1 : K) ≤ |(m : K) - n| := by
      exact_mod_cast Int.one_le_abs (sub_ne_zero.mpr hne)
    have htriangle : |(m : K) - n| ≤ |x - n| + |x - m| := by
      have h := abs_sub (x - n) (x - m)
      rwa [sub_sub_sub_cancel_left] at h
    linarith

theorem isHalfEven_iff :
    IsHalfEven x n ↔ |x - n| ≤ 1 / 2 ∧ (|x - n| = 1 / 2 → Even n) := by
  constructor
  · rintro ⟨hnearest, htie⟩
    refine ⟨isNearest_iff.mp hnearest, ?_⟩
    intro hhalf
    obtain ⟨m, hne, heq⟩ := hnearest.tie_iff.mp hhalf
    exact htie m hne heq
  · rintro ⟨hclose, htie⟩
    have hnearest : IsNearest x n := isNearest_iff.mpr hclose
    exact ⟨hnearest, fun m hne heq => htie (hnearest.tie_iff.mpr ⟨m, hne, heq⟩)⟩

/-! ## Rounding away from zero -/

theorem IsHalfAway.mono (hn : IsHalfAway x n) (hm : IsHalfAway y m)
    (hle : x ≤ y) : n ≤ m := by
  by_contra hlt
  rw [not_le] at hlt
  have hx := abs_le.mp (isNearest_iff.mp hn.1)
  have hy := abs_le.mp (isNearest_iff.mp hm.1)
  have hgap : (m : K) + 1 ≤ n := by exact_mod_cast hlt
  -- Both values are the midpoint of two neighbours, and each rounding says that
  -- its own neighbour is the further from zero.
  have hsame : x = y := by linarith
  have hnm : n = m + 1 := by
    have h : (n : K) = m + 1 := by linarith
    exact_mod_cast h
  have heq : |x - m| = |x - n| := by
    rw [abs_of_nonneg (by linarith), abs_of_nonpos (by linarith)]
    linarith
  have hleft := hn.2 m heq
  have hright := hm.2 n (by rw [← hsame]; exact heq.symm)
  grind

theorem IsHalfAway.unique (hn : IsHalfAway x n) (hm : IsHalfAway x m) : n = m :=
  le_antisymm (hn.mono hm le_rfl) (hm.mono hn le_rfl)

omit [IsStrictOrderedRing K] in
theorem IsHalfAway.neg (hn : IsHalfAway x n) : IsHalfAway (-x) (-n) := by
  have hmirror : ∀ m : ℤ, |-x - (m : K)| = |x - ((-m : ℤ) : K)| := by
    intro m
    rw [← abs_neg]
    push_cast
    ring_nf
  constructor
  · intro m
    rw [hmirror, hmirror, neg_neg]
    exact hn.1 (-m)
  · intro m heq
    rw [hmirror, hmirror, neg_neg] at heq
    rw [← abs_neg m, abs_neg n]
    exact hn.2 (-m) heq

theorem isHalfAway_intCast (n : ℤ) : IsHalfAway (n : K) n := by
  refine ⟨fun m => by simp, ?_⟩
  intro m heq
  rw [sub_self, abs_zero, abs_eq_zero, sub_eq_zero] at heq
  rw [Int.cast_injective heq]

omit [IsStrictOrderedRing K] in
/-- Rounding away from zero becomes rounding away from any integer. -/
theorem IsHalfAway.add_base (hn : IsHalfAway x n) (base : ℤ) :
    IsNearest (base + x) (base + n) ∧
      ∀ m : ℤ, |base + x - m| = |base + x - (base + n : ℤ)| →
        |m - base| ≤ |base + n - base| := by
  have hshift : ∀ m : ℤ, |base + x - (m : K)| = |x - ((m - base : ℤ) : K)| := by
    intro m
    push_cast
    ring_nf
  constructor
  · intro m
    rw [hshift, hshift, add_sub_cancel_left]
    exact hn.1 (m - base)
  · intro m heq
    rw [hshift, hshift, add_sub_cancel_left] at heq
    rw [add_sub_cancel_left]
    exact hn.2 (m - base) heq

/-! ## Quotients of integers -/

theorem abs_div_sub_le_half_iff (hd : 0 < d) :
    |(v : K) / d - n| ≤ 1 / 2 ↔ 2 * |v - n * d| ≤ d := by
  have hd' : (0 : K) < d := by exact_mod_cast hd
  have hquotient : (v : K) / d - n = (v - n * d : ℤ) / d := by
    push_cast
    field_simp
  rw [hquotient, abs_div, abs_of_pos hd', div_le_div_iff₀ hd' two_pos, one_mul,
    mul_comm, ← Int.cast_abs]
  exact_mod_cast Iff.rfl

theorem abs_div_sub_eq_half_iff (hd : 0 < d) :
    |(v : K) / d - n| = 1 / 2 ↔ 2 * |v - n * d| = d := by
  have hd' : (0 : K) < d := by exact_mod_cast hd
  have hquotient : (v : K) / d - n = (v - n * d : ℤ) / d := by
    push_cast
    field_simp
  rw [hquotient, abs_div, abs_of_pos hd', div_eq_div_iff hd'.ne' two_ne_zero,
    one_mul, mul_comm, ← Int.cast_abs]
  exact_mod_cast Iff.rfl

theorem isHalfEven_div_iff (hd : 0 < d) :
    IsHalfEven ((v : K) / d) n ↔
      2 * |v - n * d| ≤ d ∧ (2 * |v - n * d| = d → Even n) := by
  rw [isHalfEven_iff, abs_div_sub_le_half_iff hd, abs_div_sub_eq_half_iff hd]

/-- A tie whose rounding is no nearer to zero than the value. -/
theorem isHalfAway_div (hd : 0 < d) (hclose : 2 * |v - n * d| ≤ d)
    (htie : 2 * |v - n * d| = d → |v| ≤ |n| * d) :
    IsHalfAway ((v : K) / d) n := by
  refine ⟨isNearest_iff.mpr ((abs_div_sub_le_half_iff hd).mpr hclose), ?_⟩
  intro m heq
  rcases eq_or_ne m n with rfl | hne
  · exact le_rfl
  have hnearest : IsNearest ((v : K) / d) n :=
    isNearest_iff.mpr ((abs_div_sub_le_half_iff hd).mpr hclose)
  have hhalf := hnearest.tie_iff.mpr ⟨m, hne, heq⟩
  have hn := (abs_div_sub_eq_half_iff hd).mp hhalf
  have hm := (abs_div_sub_eq_half_iff hd).mp (heq.trans hhalf)
  have hopposite : v - m * d = -(v - n * d) := by
    have habs : |v - m * d| = |v - n * d| := by linarith
    rcases abs_eq_abs.mp habs with hsame | hopposite
    · have hzero : (n - m) * d = 0 := by linarith
      rcases mul_eq_zero.mp hzero with hnm | hzero
      · exact absurd (sub_eq_zero.mp hnm).symm hne
      · exact absurd hzero hd.ne'
    · exact hopposite
  have hstep : |m - n| * d = 1 * d := by
    have hdouble : (m - n) * d = 2 * (v - n * d) := by linarith
    rw [one_mul, ← abs_of_pos hd, ← abs_mul, abs_of_pos hd, hdouble, abs_mul,
      abs_two, hn]
  have hneighbour : |m - n| = 1 := mul_right_cancel₀ hd.ne' hstep
  have hmiddle : |n + m| * d ≤ 2 * |n| * d := by
    have hsum : (n + m) * d = 2 * v := by linarith
    rw [← abs_of_pos hd, ← abs_mul, abs_of_pos hd, hsum, abs_mul, abs_two]
    linarith [htie hn]
  have hbelow : |n + m| ≤ 2 * |n| := le_of_mul_le_mul_right hmiddle hd
  grind

/-- Half of the divisor, away from zero, added before a truncating division. -/
def halfAwayQuotient (v d : ℤ) : ℤ :=
  (if 0 ≤ v then v + d / 2 else v - d / 2).tdiv d

theorem isHalfAway_of_nonneg (hv : 0 ≤ v) (hd : 0 < d) :
    IsHalfAway ((v : K) / d) ((v + d / 2) / d) := by
  have hdivision := Int.emod_add_mul_ediv (v + d / 2) d
  have hremainder := Int.emod_nonneg (v + d / 2) hd.ne'
  have hbelow := Int.emod_lt_of_pos (v + d / 2) hd
  have hquotient : 0 ≤ (v + d / 2) / d := Int.ediv_nonneg (by omega) hd.le
  rw [mul_comm] at hdivision
  apply isHalfAway_div hd
  · generalize (v + d / 2) / d * d = multiple at *
    rw [← abs_two, ← abs_mul, abs_le]
    omega
  · intro htie
    rw [abs_of_nonneg hv, abs_of_nonneg hquotient]
    generalize (v + d / 2) / d * d = multiple at *
    rcases abs_cases (v - multiple) with ⟨habs, hsign⟩ | ⟨habs, hsign⟩ <;> omega

theorem isHalfAway_halfAwayQuotient (hd : 0 < d) :
    IsHalfAway ((v : K) / d) (halfAwayQuotient v d) := by
  unfold halfAwayQuotient
  split_ifs with hv
  · rw [Int.tdiv_eq_ediv_of_nonneg (by omega)]
    exact isHalfAway_of_nonneg hv hd
  · have hmirror : (v - d / 2).tdiv d = -((-v + d / 2) / d) := by
      rw [show v - d / 2 = -(-v + d / 2) by ring, Int.neg_tdiv,
        Int.tdiv_eq_ediv_of_nonneg (by omega)]
    rw [hmirror, ← neg_neg ((v : K) / d), ← neg_div, ← Int.cast_neg]
    exact (isHalfAway_of_nonneg (by omega) hd).neg

end Rounding
