import Swfpm.Support.Int64Range

/-!
# Checked arithmetic

Embedding of the signed part of `infrastructure/numeric/checked_math.{h,c}` and
of `apply_gain_offset` in `infrastructure/numeric/interpolation.{h,c}`.  The
out-pointers are results here: `none` is the return value `false`, which leaves
the output as it was.  Where the source leaves an overflow undefined, the value
wraps.
-/

namespace Swfpm

def checkedAddI64 (a b : Int64) : Option Int64 :=
  if (b > 0 ∧ a > Int64.maxValue - b) ∨ (b < 0 ∧ a < Int64.minValue - b) then
    none
  else some (a + b)

def checkedSubI64 (a b : Int64) : Option Int64 :=
  if (b > 0 ∧ a < Int64.minValue + b) ∨ (b < 0 ∧ a > Int64.maxValue + b) then
    none
  else some (a - b)

def checkedMulI64 (a b : Int64) : Option Int64 :=
  if a = 0 ∨ b = 0 then some 0
  else if a = Int64.minValue ∧ b = -1 then none
  else if b = Int64.minValue ∧ a = -1 then none
  else if (a > 0 ∧ b > 0 ∧ a > Int64.maxValue / b) ∨
      (a > 0 ∧ b < 0 ∧ b < Int64.minValue / a) ∨
      (a < 0 ∧ b > 0 ∧ a < Int64.minValue / b) ∨
      (a < 0 ∧ b < 0 ∧ a < Int64.maxValue / b) then
    none
  else some (a * b)

def roundI64 (value divisor : Int64) : Int64 :=
  if divisor = 0 then value
  else
    let (divisor, value) :=
      if divisor < 0 then (-divisor, -value) else (divisor, value)
    let half := divisor / 2
    let remainder := value % divisor
    let quotient := value / divisor
    let (remainder, quotient) :=
      if remainder < 0 then (-remainder, quotient - 1) else (remainder, quotient)
    if remainder > half then quotient + 1
    else if remainder < half then quotient
    else if quotient % 2 = 0 then quotient
    else quotient + 1

def applyGainOffset (x gain offset : Int64) (shift : UInt8) : Option Int64 := do
  let product ← checkedMulI64 x gain
  let product ← checkedAddI64 product offset
  some
    (if shift = 0 then product
    else roundI64 product ((1 : Int64) <<< shift.toUInt64.toInt64))

/-! ## The checks are exact

Each checked operation refuses the operands whose exact result is no signed
word, and no others. -/

open Int64Range

theorem checkedAddI64_eq (a b : Int64) :
    checkedAddI64 a b = exact (a.toInt + b.toInt) := by
  have ha := fits_toInt a
  apply ite_eq_exact _ toInt_add
  rw [pos_iff, neg_iff, gt_iff_lt, and_congr_right maxValue_sub_lt_iff,
    and_congr_right lt_minValue_sub_iff]
  unfold Fits at ha ⊢
  omega

theorem checkedSubI64_eq (a b : Int64) :
    checkedSubI64 a b = exact (a.toInt - b.toInt) := by
  have ha := fits_toInt a
  apply ite_eq_exact _ toInt_sub
  rw [pos_iff, neg_iff, gt_iff_lt, and_congr_right lt_minValue_add_iff,
    and_congr_right maxValue_add_lt_iff]
  unfold Fits at ha ⊢
  omega

/-- The last check of the multiplication, one disjunct for each pair of
signs. -/
theorem mulGuard_iff (a b : Int64) (ha : a ≠ 0) (hb : b ≠ 0) :
    ((a > 0 ∧ b > 0 ∧ a > Int64.maxValue / b) ∨
      (a > 0 ∧ b < 0 ∧ b < Int64.minValue / a) ∨
      (a < 0 ∧ b > 0 ∧ a < Int64.minValue / b) ∨
      (a < 0 ∧ b < 0 ∧ a < Int64.maxValue / b)) ↔
      ¬ Fits (a.toInt * b.toInt) := by
  rw [Ne, ← Int64.toInt_inj, Int64.toInt_zero] at ha hb
  simp only [pos_iff, neg_iff]
  unfold Fits
  rcases lt_or_gt_of_ne ha with ha | ha
  · rcases lt_or_gt_of_ne hb with hb | hb
    · have hsign := mul_pos_of_neg_of_neg ha hb
      have hguard := lt_maxValue_div_iff (a := a) hb
      grind
    · have hsign := mul_neg_of_neg_of_pos ha hb
      have hguard := lt_minValue_div_iff (a := a) hb
      grind
  · rcases lt_or_gt_of_ne hb with hb | hb
    · have hsign := mul_neg_of_pos_of_neg ha hb
      have hguard := lt_minValue_div_iff (a := b) ha
      rw [mul_comm] at hguard
      grind
    · have hsign := mul_pos ha hb
      have hguard := maxValue_div_lt_iff (a := a) hb
      grind

theorem checkedMulI64_eq (a b : Int64) :
    checkedMulI64 a b = exact (a.toInt * b.toInt) := by
  unfold checkedMulI64
  by_cases hzero : a = 0 ∨ b = 0
  · rw [if_pos hzero]
    symm
    rw [exact_eq_some_iff, Int64.toInt_zero]
    rcases hzero with rfl | rfl <;> simp
  rw [if_neg hzero]
  -- The two products with the least word need their own test, because the
  -- divisions of the general one would overflow.
  by_cases hleft : a = Int64.minValue ∧ b = -1
  · obtain ⟨rfl, rfl⟩ := hleft
    decide
  by_cases hright : b = Int64.minValue ∧ a = -1
  · obtain ⟨rfl, rfl⟩ := hright
    decide
  rw [if_neg hleft, if_neg hright]
  rw [not_or] at hzero
  exact ite_eq_exact (mulGuard_iff a b hzero.1 hzero.2) toInt_mul

end Swfpm
