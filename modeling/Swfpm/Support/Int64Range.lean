import Mathlib

/-!
# Signed machine words as a window on the integers

A signed word stands for the integer it denotes.  An operation whose exact
result lies in the window computes that result, and `exact` is the operation
that refuses every other one.
-/

namespace Int64Range

variable {a b c : Int64} {z : ℤ}

/-- The integers that a signed word of 64 bits denotes. -/
def Fits (z : ℤ) : Prop :=
  -2 ^ 63 ≤ z ∧ z < 2 ^ 63

instance (z : ℤ) : Decidable (Fits z) :=
  inferInstanceAs (Decidable (-2 ^ 63 ≤ z ∧ z < 2 ^ 63))

/-- The integers that a signed word of 32 bits denotes. -/
def Fits32 (z : ℤ) : Prop :=
  -2 ^ 31 ≤ z ∧ z < 2 ^ 31

instance (z : ℤ) : Decidable (Fits32 z) :=
  inferInstanceAs (Decidable (-2 ^ 31 ≤ z ∧ z < 2 ^ 31))

/-- The word that denotes `z`, where there is one. -/
def exact (z : ℤ) : Option Int64 :=
  if Fits z then some (Int64.ofInt z) else none

theorem fits_toInt (a : Int64) : Fits a.toInt :=
  ⟨a.le_toInt, a.toInt_lt⟩

theorem fits32_toInt (a : Int32) : Fits32 a.toInt :=
  ⟨a.le_toInt, a.toInt_lt⟩

theorem Fits.bmod_eq (hfits : Fits z) : z.bmod (2 ^ 64) = z :=
  Int.bmod_eq_of_le hfits.1 hfits.2

theorem Fits.toInt_ofInt (hfits : Fits z) : (Int64.ofInt z).toInt = z :=
  Int64.toInt_ofInt_of_le hfits.1 hfits.2

theorem Fits.neg_of_ne (hfits : Fits z) (hne : z ≠ -2 ^ 63) : Fits (-z) := by
  unfold Fits at hfits ⊢
  omega

theorem Fits.tdiv {d : ℤ} (hfits : Fits z) (hd : 0 < d) : Fits (z.tdiv d) := by
  have hmagnitude := Int.natAbs_tdiv_le_natAbs z d
  unfold Fits at hfits ⊢
  rcases le_or_gt 0 z with hsign | hsign
  · have hnonneg := Int.tdiv_nonneg hsign hd.le
    omega
  · have hmirror : z.tdiv d = -(-z).tdiv d := by rw [Int.neg_tdiv, neg_neg]
    have hnonneg := Int.tdiv_nonneg (show 0 ≤ -z by omega) hd.le
    omega

/-! ## The exact word -/

theorem exact_eq_some_iff : exact z = some c ↔ c.toInt = z := by
  unfold exact
  split_ifs with hfits
  · rw [Option.some.injEq]
    constructor
    · rintro rfl
      exact hfits.toInt_ofInt
    · rintro rfl
      exact Int64.ofInt_toInt c
  · constructor
    · intro hnone
      cases hnone
    · rintro rfl
      exact absurd (fits_toInt c) hfits

theorem exact_eq_none_iff : exact z = none ↔ ¬ Fits z := by
  unfold exact
  split_ifs with hfits <;> simp [hfits]

theorem exact_of_fits (hfits : Fits z) : exact z = some (Int64.ofInt z) :=
  if_pos hfits

theorem exact_bind_eq_some_iff {β : Type} {next : Int64 → Option β} {result : β} :
    (exact z >>= next) = some result ↔
      Fits z ∧ next (Int64.ofInt z) = some result := by
  rw [Option.bind_eq_bind]
  by_cases hfits : Fits z
  · rw [exact_of_fits hfits, Option.bind_some, and_iff_right hfits]
  · rw [exact_eq_none_iff.mpr hfits, Option.bind_none]
    simp [hfits]

/-! ## Operations whose result fits -/

theorem toInt_add (hfits : Fits (a.toInt + b.toInt)) :
    (a + b).toInt = a.toInt + b.toInt := by
  rw [Int64.toInt_add, hfits.bmod_eq]

theorem toInt_sub (hfits : Fits (a.toInt - b.toInt)) :
    (a - b).toInt = a.toInt - b.toInt := by
  rw [Int64.toInt_sub, hfits.bmod_eq]

theorem toInt_mul (hfits : Fits (a.toInt * b.toInt)) :
    (a * b).toInt = a.toInt * b.toInt := by
  rw [Int64.toInt_mul, hfits.bmod_eq]

theorem toInt_neg (hne : a ≠ Int64.minValue) : (-a).toInt = -a.toInt := by
  have hvalue : a.toInt ≠ -2 ^ 63 := by
    intro heq
    exact hne (Int64.toInt_inj.mp (heq.trans Int64.toInt_minValue.symm))
  rw [Int64.toInt_neg, ((fits_toInt a).neg_of_ne hvalue).bmod_eq]

theorem toInt_div (hpos : 0 < b) : (a / b).toInt = a.toInt.tdiv b.toInt := by
  apply Int64.toInt_div_of_ne_right
  rintro rfl
  exact absurd hpos (by decide)

/-- A test for the results that do not fit makes an operation the exact one. -/
theorem ite_eq_exact {guard : Prop} [Decidable guard] {word : Int64}
    (hguard : guard ↔ ¬ Fits z) (hword : Fits z → word.toInt = z) :
    (if guard then none else some word) = exact z := by
  symm
  split_ifs with hover
  · exact exact_eq_none_iff.mpr (hguard.mp hover)
  · exact exact_eq_some_iff.mpr (hword (not_not.mp (mt hguard.mpr hover)))

/-! ## Clamping -/

theorem toInt_raised (least : Int64) :
    (if a < least then least else a).toInt = max a.toInt least.toInt := by
  by_cases hbelow : a < least
  · rw [if_pos hbelow, max_eq_right (Int64.lt_iff_toInt_lt.mp hbelow).le]
  · rw [if_neg hbelow, max_eq_left]
    exact not_lt.mp (mt Int64.lt_iff_toInt_lt.mpr hbelow)

theorem toInt_capped (most : Int64) :
    (if a > most then most else a).toInt = min a.toInt most.toInt := by
  by_cases habove : a > most
  · rw [if_pos habove, min_eq_right (Int64.lt_iff_toInt_lt.mp habove).le]
  · rw [if_neg habove, min_eq_left]
    exact not_lt.mp (mt Int64.lt_iff_toInt_lt.mpr habove)

/-! ## Words widened from 32 bits -/

theorem toInt_toInt64_of_lt {word : UInt64} (hlt : word.toNat < 2 ^ 63) :
    word.toInt64.toInt = word.toNat := by
  show word.toBitVec.toInt = word.toBitVec.toNat
  rw [BitVec.toInt_eq_toNat_of_lt]
  show 2 * word.toNat < 2 ^ 64
  omega

theorem toInt_ofUInt16 (count : UInt16) :
    count.toUInt64.toInt64.toInt = count.toNat := by
  have hword := count.toNat_lt
  rw [toInt_toInt64_of_lt] <;> rw [UInt16.toNat_toUInt64]
  omega

theorem toInt_ofUInt32 (code : UInt32) :
    code.toUInt64.toInt64.toInt = code.toNat := by
  have hword := code.toNat_lt
  rw [toInt_toInt64_of_lt] <;> rw [UInt32.toNat_toUInt64]
  omega

/-- The low half-word of a small word that is not negative. -/
theorem toNat_toUInt16 (hlow : 0 ≤ a.toInt) (hhigh : a.toInt < 2 ^ 16) :
    (a.toUInt64.toUInt16.toNat : ℤ) = a.toInt := by
  have hword := a.toUInt64.toNat_lt
  have hbits : a.toInt = a.toUInt64.toNat := by
    have hcases := BitVec.toInt_eq_toNat_cond a.toUInt64.toBitVec
    change a.toInt = if 2 * a.toUInt64.toNat < 2 ^ 64 then (a.toUInt64.toNat : ℤ)
      else (a.toUInt64.toNat : ℤ) - (2 ^ 64 : ℕ) at hcases
    split_ifs at hcases <;> omega
  rw [UInt64.toNat_toUInt16, hbits, Nat.mod_eq_of_lt (by omega)]

theorem toInt_sub_ofUInt32 (code base : UInt32) :
    (code.toUInt64.toInt64 - base.toUInt64.toInt64).toInt =
      (code.toNat : ℤ) - base.toNat := by
  have hcode := code.toNat_lt
  have hbase := base.toNat_lt
  rw [toInt_sub] <;> rw [toInt_ofUInt32, toInt_ofUInt32]
  constructor <;> omega

theorem toInt_sub_ofInt32 (high low : Int32) :
    (high.toInt64 - low.toInt64).toInt = high.toInt - low.toInt := by
  have hlow := fits32_toInt low
  have hhigh := fits32_toInt high
  unfold Fits32 at hlow hhigh
  rw [toInt_sub] <;> rw [Int32.toInt_toInt64, Int32.toInt_toInt64]
  constructor <;> omega

/-! ## Comparing against the ends of the window -/

theorem pos_iff : a > 0 ↔ 0 < a.toInt := by
  rw [gt_iff_lt, Int64.lt_iff_toInt_lt, Int64.toInt_zero]

theorem neg_iff : a < 0 ↔ a.toInt < 0 := by
  rw [Int64.lt_iff_toInt_lt, Int64.toInt_zero]

theorem maxValue_sub_lt_iff (hb : 0 < b.toInt) :
    Int64.maxValue - b < a ↔ 2 ^ 63 ≤ a.toInt + b.toInt := by
  have hword := (fits_toInt b).2
  rw [Int64.lt_iff_toInt_lt, toInt_sub, Int64.toInt_maxValue]
  · omega
  · rw [Int64.toInt_maxValue]
    constructor <;> omega

theorem lt_minValue_sub_iff (hb : b.toInt < 0) :
    a < Int64.minValue - b ↔ a.toInt + b.toInt < -2 ^ 63 := by
  have hword := (fits_toInt b).1
  rw [Int64.lt_iff_toInt_lt, toInt_sub, Int64.toInt_minValue]
  · omega
  · rw [Int64.toInt_minValue]
    constructor <;> omega

theorem lt_minValue_add_iff (hb : 0 < b.toInt) :
    a < Int64.minValue + b ↔ a.toInt - b.toInt < -2 ^ 63 := by
  have hword := (fits_toInt b).2
  rw [Int64.lt_iff_toInt_lt, toInt_add, Int64.toInt_minValue]
  · omega
  · rw [Int64.toInt_minValue]
    constructor <;> omega

theorem maxValue_add_lt_iff (hb : b.toInt < 0) :
    Int64.maxValue + b < a ↔ 2 ^ 63 ≤ a.toInt - b.toInt := by
  have hword := (fits_toInt b).1
  rw [Int64.lt_iff_toInt_lt, toInt_add, Int64.toInt_maxValue]
  · omega
  · rw [Int64.toInt_maxValue]
    constructor <;> omega

theorem maxValue_div_lt_iff (hb : 0 < b.toInt) :
    Int64.maxValue / b < a ↔ 2 ^ 63 ≤ a.toInt * b.toInt := by
  rw [Int64.lt_iff_toInt_lt, toInt_div (pos_iff.mpr hb), Int64.toInt_maxValue,
    Int.tdiv_eq_ediv_of_nonneg (by decide), Int.ediv_lt_iff_lt_mul hb]
  omega

theorem lt_minValue_div_iff (hb : 0 < b.toInt) :
    a < Int64.minValue / b ↔ a.toInt * b.toInt < -2 ^ 63 := by
  rw [Int64.lt_iff_toInt_lt, toInt_div (pos_iff.mpr hb), Int64.toInt_minValue,
    Int.neg_tdiv, Int.tdiv_eq_ediv_of_nonneg (by decide), lt_neg,
    Int.ediv_lt_iff_lt_mul hb, Int.neg_mul]
  omega

theorem lt_maxValue_div_iff (hb : b.toInt < 0) :
    a < Int64.maxValue / b ↔ 2 ^ 63 ≤ a.toInt * b.toInt := by
  rw [Int64.lt_iff_toInt_lt, Int64.toInt_div_of_ne_left _ _ (by decide),
    Int64.toInt_maxValue, ← Int.neg_neg b.toInt, Int.tdiv_neg,
    Int.tdiv_eq_ediv_of_nonneg (by decide), lt_neg,
    Int.ediv_lt_iff_lt_mul (by omega), Int.neg_mul_neg, Int.neg_neg]
  omega

end Int64Range
