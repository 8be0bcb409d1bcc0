import Swfpm.Numeric.CheckedMath
import Swfpm.Support.Rounding

/-!
# What `round_i64` rounds to

The source rounds to nearest, ties to even.  The remainder that it compares
with half of the divisor is that of the truncating division, also where the
quotient has been moved down to the floor, and half of an odd divisor is taken
for a tie.  `RoundsExactly` is the condition under which neither shows.
-/

namespace Swfpm

open Int64Range Rounding

variable {value divisor : Int64} {v d : ℤ}

/-! ## Division by magnitudes -/

/-- Quotient and remainder of the magnitudes decide the floor. -/
theorem floor_cases (v : ℤ) (hd : 0 < d) :
    (0 ≤ v ∧ v / d = (v.natAbs / d.natAbs : ℕ) ∧
        v % d = (v.natAbs % d.natAbs : ℕ)) ∨
      (v < 0 ∧ v.natAbs % d.natAbs = 0 ∧ v / d = -(v.natAbs / d.natAbs : ℕ) ∧
        v % d = 0) ∨
      (v < 0 ∧ v.natAbs % d.natAbs ≠ 0 ∧
        v / d = -(v.natAbs / d.natAbs : ℕ) - 1 ∧
        v % d = d - (v.natAbs % d.natAbs : ℕ)) := by
  have hdivision := Nat.mod_add_div v.natAbs d.natAbs
  have hbelow := Nat.mod_lt v.natAbs (Int.natAbs_pos.mpr hd.ne')
  have hcast : ((d.natAbs : ℕ) : ℤ) = d := Int.natAbs_of_nonneg hd.le
  generalize v.natAbs / d.natAbs = q at *
  generalize v.natAbs % d.natAbs = r at *
  have hvalue : ((v.natAbs : ℕ) : ℤ) = r + d * q := by
    rw [← hdivision]
    push_cast
    rw [← Int.natCast_natAbs, hcast]
  have hbelow' : (r : ℤ) < d := by omega
  rcases le_or_gt 0 v with hv | hv
  · left
    obtain ⟨hquotient, hremainder⟩ :=
      (Int.ediv_emod_unique hd (a := v) (r := r) (q := q)).mpr
        ⟨by omega, by omega, hbelow'⟩
    exact ⟨hv, hquotient, hremainder⟩
  · right
    rcases Nat.eq_zero_or_pos r with rfl | hr
    · left
      obtain ⟨hquotient, hremainder⟩ :=
        (Int.ediv_emod_unique hd (a := v) (r := 0) (q := -q)).mpr
          ⟨by rw [Int.mul_neg]; omega, le_rfl, hd⟩
      exact ⟨hv, rfl, hquotient, hremainder⟩
    · right
      obtain ⟨hquotient, hremainder⟩ :=
        (Int.ediv_emod_unique hd (a := v) (r := d - r) (q := -q - 1)).mpr
          ⟨by rw [Int.mul_sub, Int.mul_neg]; omega, by omega, by omega⟩
      exact ⟨hv, hr.ne', hquotient, hremainder⟩

/-- The truncating division of a negative value. -/
theorem trunc_of_neg (hv : v < 0) (hd : 0 < d) :
    v.tdiv d = -(v.natAbs / d.natAbs : ℕ) ∧
      v.tmod d = -(v.natAbs % d.natAbs : ℕ) := by
  obtain ⟨n, rfl⟩ := Int.exists_eq_neg_ofNat hv.le
  obtain ⟨k, rfl⟩ := Int.eq_ofNat_of_zero_le hd.le
  rw [Int.neg_tdiv, Int.neg_tmod, Int.ofNat_tdiv, Int.ofNat_tmod, Int.natAbs_neg,
    Int.natAbs_natCast, Int.natAbs_natCast]
  exact ⟨rfl, rfl⟩

/-- A negative remainder is where the truncated quotient is not the floor. -/
theorem floor_of_tmod_neg (hd : 0 < d) (hmoved : v.tmod d < 0) :
    v.tdiv d - 1 = v / d ∧ -v.tmod d = (v.natAbs % d.natAbs : ℕ) := by
  rcases floor_cases v hd with ⟨hv, -, -⟩ | ⟨hv, hr, -, -⟩ | ⟨hv, -, hq, -⟩
  · exact absurd (Int.tmod_nonneg d hv) hmoved.not_ge
  · rw [(trunc_of_neg hv hd).2, hr] at hmoved
    exact absurd hmoved (by decide)
  · rw [(trunc_of_neg hv hd).1, (trunc_of_neg hv hd).2, hq, neg_neg]
    exact ⟨rfl, rfl⟩

theorem floor_of_tmod_nonneg (hd : 0 < d) (hkept : 0 ≤ v.tmod d) :
    v.tdiv d = v / d ∧ v.tmod d = (v.natAbs % d.natAbs : ℕ) := by
  rcases floor_cases v hd with ⟨hv, -, hr⟩ | ⟨hv, hr, hq, -⟩ | ⟨hv, hr, -, -⟩
  · rw [Int.tdiv_eq_ediv_of_nonneg hv, Int.tmod_eq_emod_of_nonneg hv, hr]
    exact ⟨rfl, rfl⟩
  · rw [(trunc_of_neg hv hd).1, (trunc_of_neg hv hd).2, hq, hr]
    exact ⟨rfl, rfl⟩
  · rw [(trunc_of_neg hv hd).2] at hkept
    omega

theorem fits_ediv (hv : Fits v) (hd : 0 < d) : Fits (v / d) := by
  have hmagnitude := Int.natAbs_ediv_le_natAbs v d
  unfold Fits at hv ⊢
  rcases le_or_gt 0 v with hsign | hsign
  · have hnonneg := Int.ediv_nonneg hsign hd.le
    omega
  · have hneg := Int.ediv_neg_of_neg_of_pos hsign hd
    omega

/-- The quotient is moved up from the floor. -/
def RoundsUp (v d : ℤ) : Prop :=
  d / 2 < (v.natAbs % d.natAbs : ℕ) ∨
    ((v.natAbs % d.natAbs : ℕ) = d / 2 ∧ ¬ (v / d) % 2 = 0)

instance (v d : ℤ) : Decidable (RoundsUp v d) :=
  inferInstanceAs (Decidable (_ ∨ (_ ∧ ¬ _)))

/-- What the code rounds the quotient of `v` and a positive `d` to. -/
def roundedQuotient (v d : ℤ) : ℤ :=
  if RoundsUp v d then v / d + 1 else v / d

/-- The comparison with half of the divisor, over words. -/
theorem toInt_roundTail {distance half floor : Int64}
    (hdistance : distance.toInt = (v.natAbs % d.natAbs : ℕ))
    (hhalf : half.toInt = d / 2) (hfloor : floor.toInt = v / d) :
    (if distance > half then floor + 1
      else if distance < half then floor
      else if floor % 2 = 0 then floor
      else floor + 1).toInt = (roundedQuotient v d).bmod (2 ^ 64) := by
  have hup : (floor + 1).toInt = (v / d + 1).bmod (2 ^ 64) := by
    rw [Int64.toInt_add, hfloor, Int64.toInt_one]
  have hstay : floor.toInt = (v / d).bmod (2 ^ 64) := by
    rw [← hfloor, (fits_toInt floor).bmod_eq]
  have heven : floor % 2 = 0 ↔ (v / d) % 2 = 0 := by
    rw [← Int64.toInt_inj, Int64.toInt_mod, hfloor, Int64.toInt_zero,
      show (2 : Int64).toInt = 2 by rfl, ← Int.dvd_iff_tmod_eq_zero,
      Int.dvd_iff_emod_eq_zero]
  simp only [gt_iff_lt, Int64.lt_iff_toInt_lt, hdistance, hhalf, heven]
  unfold roundedQuotient
  rcases lt_trichotomy (d / 2) (v.natAbs % d.natAbs : ℕ) with habove | htie | hbelow
  · have hrounds : RoundsUp v d := .inl habove
    rw [if_pos habove, if_pos hrounds, hup]
  · rw [if_neg htie.not_lt, if_neg htie.not_gt]
    by_cases hfloor_even : v / d % 2 = 0
    · have hrounds : ¬ RoundsUp v d := by
        rintro (habove | ⟨-, hodd⟩)
        · exact absurd habove htie.not_lt
        · exact hodd hfloor_even
      rw [if_pos hfloor_even, if_neg hrounds, hstay]
    · have hrounds : RoundsUp v d := .inr ⟨htie.symm, hfloor_even⟩
      rw [if_neg hfloor_even, if_pos hrounds, hup]
  · have hrounds : ¬ RoundsUp v d := by
      rintro (habove | ⟨htie, -⟩)
      · exact absurd habove hbelow.not_gt
      · exact absurd htie hbelow.ne
    rw [if_neg hbelow.not_gt, if_pos hbelow, if_neg hrounds, hstay]

theorem toInt_roundI64 (hpos : 0 < divisor.toInt) :
    (roundI64 value divisor).toInt =
      (roundedQuotient value.toInt divisor.toInt).bmod (2 ^ 64) := by
  have hzero : ¬ divisor = 0 := by
    rintro rfl
    exact absurd hpos (by decide)
  have hsign : ¬ divisor < 0 := by
    rw [neg_iff]
    omega
  have hhalf : (divisor / 2).toInt = divisor.toInt / 2 := by
    rw [toInt_div (by decide), show (2 : Int64).toInt = 2 by rfl,
      Int.tdiv_eq_ediv_of_nonneg hpos.le]
  have hquotient : (value / divisor).toInt = value.toInt.tdiv divisor.toInt :=
    toInt_div (pos_iff.mpr hpos)
  have hremainder : (value % divisor).toInt = value.toInt.tmod divisor.toInt :=
    Int64.toInt_mod value divisor
  have hfits := fits_ediv (fits_toInt value) hpos
  unfold roundI64
  rw [if_neg hzero]
  simp only [if_neg hsign]
  by_cases hmoved : value % divisor < 0
  · rw [if_pos hmoved]
    rw [neg_iff, hremainder] at hmoved
    obtain ⟨hfloor, hdistance⟩ := floor_of_tmod_neg hpos hmoved
    apply toInt_roundTail _ hhalf
    · rw [toInt_sub, hquotient, Int64.toInt_one, hfloor]
      rwa [hquotient, Int64.toInt_one, hfloor]
    · rw [toInt_neg, hremainder, hdistance]
      intro hmin
      have hlarge := Int.natAbs_tmod value.toInt divisor.toInt
      rw [← hremainder, hmin, Int64.toInt_minValue] at hlarge
      have hbelow := Nat.mod_lt value.toInt.natAbs (Int.natAbs_pos.mpr hpos.ne')
      have hword := (fits_toInt divisor).2
      omega
  · rw [if_neg hmoved]
    rw [neg_iff, hremainder, not_lt] at hmoved
    obtain ⟨hfloor, hdistance⟩ := floor_of_tmod_nonneg hpos hmoved
    exact toInt_roundTail (hremainder.trans hdistance) hhalf (hquotient.trans hfloor)

/-- Only the last word divided by one is rounded out of the window. -/
theorem fits_roundedQuotient (hv : Fits v) (hd : 0 < d)
    (hlast : v ≠ 2 ^ 63 - 1 ∨ d ≠ 1) : Fits (roundedQuotient v d) := by
  have hfloor := fits_ediv hv hd
  have hroom : v / d ≠ 2 ^ 63 - 1 := by
    intro heq
    have hmul := Int.ediv_mul_le v hd.ne'
    rw [heq] at hmul
    unfold Fits at hv
    omega
  unfold roundedQuotient
  split_ifs
  · unfold Fits at hfloor ⊢
    omega
  · exact hfloor

theorem roundI64_eq (hpos : 0 < divisor.toInt)
    (hlast : value.toInt ≠ 2 ^ 63 - 1 ∨ divisor.toInt ≠ 1) :
    (roundI64 value divisor).toInt =
      roundedQuotient value.toInt divisor.toInt := by
  rw [toInt_roundI64 hpos,
    (fits_roundedQuotient (fits_toInt value) hpos hlast).bmod_eq]

/-- A negative divisor changes both signs. -/
theorem roundI64_neg_neg (hneg : divisor.toInt < 0)
    (hmin : divisor ≠ Int64.minValue) :
    roundI64 value divisor = roundI64 (-value) (-divisor) := by
  have hdivisor : divisor < 0 := neg_iff.mpr hneg
  have hzero : ¬ divisor = 0 := by
    rintro rfl
    exact absurd hneg (by decide)
  have hopposite : 0 < (-divisor).toInt := by
    rw [toInt_neg hmin]
    omega
  have hsign : ¬ -divisor < 0 := by
    rw [neg_iff]
    omega
  have hzero' : ¬ -divisor = 0 := by
    intro heq
    rw [heq] at hopposite
    exact absurd hopposite (by decide)
  unfold roundI64
  rw [if_neg hzero, if_neg hzero']
  simp only [if_pos hdivisor, if_neg hsign]

/-! ## When the rounding is half to even -/

/-- A quotient that is not negative, or an integer, must not have an odd floor
just below half of an odd divisor.  Any other quotient must lie half-way, or
just above half-way with an even truncation. -/
def RoundsExactly (v d : ℤ) : Prop :=
  if 0 ≤ v * d ∨ v.natAbs % d.natAbs = 0 then
    ¬ (2 * (v.natAbs % d.natAbs) + 1 = d.natAbs ∧
      (v.natAbs / d.natAbs) % 2 = 1)
  else
    2 * (v.natAbs % d.natAbs) = d.natAbs ∨
      (2 * (v.natAbs % d.natAbs) + 1 = d.natAbs ∧
        (v.natAbs / d.natAbs) % 2 = 0)

instance (v d : ℤ) : Decidable (RoundsExactly v d) :=
  inferInstanceAs (Decidable (ite _ _ _))

theorem roundsExactly_neg_neg (v d : ℤ) :
    RoundsExactly (-v) (-d) ↔ RoundsExactly v d := by
  unfold RoundsExactly
  rw [Int.natAbs_neg, Int.natAbs_neg, neg_mul_neg]

theorem isHalfEven_roundedQuotient_iff (hd : 0 < d) :
    IsHalfEven ((v : ℚ) / d) (roundedQuotient v d) ↔ RoundsExactly v d := by
  rw [isHalfEven_div_iff hd]
  have hdivision := Int.mul_ediv_add_emod v d
  have hsign : 0 ≤ v * d ↔ 0 ≤ v := mul_nonneg_iff_of_pos_right hd
  have hbelow := Nat.mod_lt v.natAbs (Int.natAbs_pos.mpr hd.ne')
  have hcast : ((d.natAbs : ℕ) : ℤ) = d := Int.natAbs_of_nonneg hd.le
  have hup : |v - (v / d + 1) * d| = d - v % d := by
    rw [show v - (v / d + 1) * d = -(d - v % d) by linarith [mul_comm d (v / d)],
      abs_neg, abs_of_nonneg (by linarith [Int.emod_lt_of_pos v hd])]
  have hstay : |v - v / d * d| = v % d := by
    rw [show v - v / d * d = v % d by linarith [mul_comm d (v / d)],
      abs_of_nonneg (Int.emod_nonneg v hd.ne')]
  unfold RoundsExactly roundedQuotient
  simp only [hsign]
  by_cases hrounds : RoundsUp v d
  · rw [if_pos hrounds, hup, Int.even_iff]
    unfold RoundsUp at hrounds
    rcases floor_cases v hd with ⟨hv, hq, hr⟩ | ⟨hv, hr0, hq, hr⟩ |
      ⟨hv, hr0, hq, hr⟩
    · rw [hq] at hrounds ⊢
      rw [hr, if_pos (.inl hv)]
      omega
    · rw [hq, hr0] at hrounds
      rw [hq, hr, if_pos (.inr hr0), hr0]
      omega
    · rw [hq] at hrounds ⊢
      rw [hr, if_neg (by omega)]
      omega
  · rw [if_neg hrounds, hstay, Int.even_iff]
    unfold RoundsUp at hrounds
    rcases floor_cases v hd with ⟨hv, hq, hr⟩ | ⟨hv, hr0, hq, hr⟩ |
      ⟨hv, hr0, hq, hr⟩
    · rw [hq] at hrounds ⊢
      rw [hr, if_pos (.inl hv)]
      omega
    · rw [hq, hr0] at hrounds
      rw [hq, hr, if_pos (.inr hr0), hr0]
      omega
    · rw [hq] at hrounds ⊢
      rw [hr, if_neg (by omega)]
      omega

theorem roundI64_halfEven_iff_of_pos (hpos : 0 < divisor.toInt) :
    IsHalfEven ((value.toInt : ℚ) / divisor.toInt)
        (roundI64 value divisor).toInt ↔
      RoundsExactly value.toInt divisor.toInt := by
  by_cases hlast : value.toInt ≠ 2 ^ 63 - 1 ∨ divisor.toInt ≠ 1
  · rw [roundI64_eq hpos hlast]
    exact isHalfEven_roundedQuotient_iff hpos
  · -- The last word, which is odd, leaves the window when one is added to it.
    rw [not_or, not_not, not_not] at hlast
    rw [toInt_roundI64 hpos, isHalfEven_div_iff hpos, hlast.1, hlast.2]
    decide

/-- `round_i64` rounds half to even exactly under `RoundsExactly`. -/
theorem roundI64_halfEven_iff (value divisor : Int64) (hdivisor : divisor ≠ 0)
    (hnegations : divisor < 0 → divisor ≠ Int64.minValue ∧ value ≠ Int64.minValue) :
    IsHalfEven ((value.toInt : ℚ) / divisor.toInt)
        (roundI64 value divisor).toInt ↔
      RoundsExactly value.toInt divisor.toInt := by
  rw [Ne, ← Int64.toInt_inj, Int64.toInt_zero] at hdivisor
  rcases lt_or_gt_of_ne hdivisor with hneg | hpos
  · obtain ⟨hmin, hvalue⟩ := hnegations (neg_iff.mpr hneg)
    have hopposite : 0 < (-divisor).toInt := by
      rw [toInt_neg hmin]
      omega
    have hquotient : (value.toInt : ℚ) / divisor.toInt =
        ((-value).toInt : ℚ) / (-divisor).toInt := by
      rw [toInt_neg hmin, toInt_neg hvalue]
      push_cast
      rw [neg_div_neg_eq]
    rw [roundI64_neg_neg hneg hmin, hquotient, roundI64_halfEven_iff_of_pos hopposite,
      toInt_neg hmin, toInt_neg hvalue, roundsExactly_neg_neg]
  · exact roundI64_halfEven_iff_of_pos hpos

/-- Seven halves are rounded to four. -/
theorem roundI64_halfEven_seven_halves :
    (2 : Int64) ≠ 0 ∧
      (IsHalfEven (((7 : Int64).toInt : ℚ) / (2 : Int64).toInt)
          (roundI64 7 2).toInt ↔ RoundsExactly (7 : Int64).toInt (2 : Int64).toInt) :=
  ⟨by decide, roundI64_halfEven_iff 7 2 (by decide) (by decide)⟩

/-- Four thirds are rounded to two. -/
theorem roundI64_four_thirds :
    ¬ IsHalfEven (((4 : Int64).toInt : ℚ) / (3 : Int64).toInt)
        (roundI64 4 3).toInt := by
  have hrounded : (roundI64 4 3).toInt = 2 := by decide
  rw [hrounded, isHalfEven_div_iff (by decide)]
  decide

end Swfpm
