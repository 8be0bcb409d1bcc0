import Swfpm.Support.Int64Range
import Swfpm.Support.Rounding
import Swfpm.Zssc3241.Driver

/-!
# Mapping a bridge code to a physical value

`ZSSC3241_MapCorrected` scales a code linearly from one interval to another.
Half of the code span is added before the division, on the side of the sign, so
the offset from the lower end is rounded to nearest and away from zero.
-/

namespace Swfpm.Zssc3241

open Int64Range Rounding

/-! ## The words of the computation -/

namespace MapCorrected

variable (corrected codeMin codeMax : UInt32) (physicalMin physicalMax : Int32)

def codeSpan : Int64 :=
  codeMax.toUInt64.toInt64 - codeMin.toUInt64.toInt64

def physicalSpan : Int64 :=
  physicalMax.toInt64 - physicalMin.toInt64

def codeOffset : Int64 :=
  corrected.toUInt64.toInt64 - codeMin.toUInt64.toInt64

/-- `numerator` as it is declared. -/
def product : Int64 :=
  codeOffset corrected codeMin * physicalSpan physicalMin physicalMax

/-- `numerator` as it is divided. -/
def numerator : Int64 :=
  if product corrected codeMin physicalMin physicalMax ≥ 0 then
    product corrected codeMin physicalMin physicalMax + codeSpan codeMin codeMax / 2
  else
    product corrected codeMin physicalMin physicalMax - codeSpan codeMin codeMax / 2

def mapped : Int64 :=
  physicalMin.toInt64 +
    numerator corrected codeMin codeMax physicalMin physicalMax /
      codeSpan codeMin codeMax

end MapCorrected

open MapCorrected in
/-- The value is stored where the status is `ok`. -/
def mapCorrected (corrected codeMin codeMax : UInt32)
    (physicalMin physicalMax : Int32) : Status × Option Int32 :=
  if codeMax ≤ codeMin ∨ codeMax > 0x00FFFFFF ∨ corrected < codeMin ∨
      corrected > codeMax then
    if codeMax ≤ codeMin then (.invalidArg, none) else (.outOfRange, none)
  else if mapped corrected codeMin codeMax physicalMin physicalMax <
        Int32.minValue.toInt64 ∨
      mapped corrected codeMin codeMax physicalMin physicalMax >
        Int32.maxValue.toInt64 then
    (.outOfRange, none)
  else
    (.ok, some (mapped corrected codeMin codeMax physicalMin physicalMax).toInt32)

example : mapCorrected 5 0 10 0 101 = (.ok, some 51) := by decide

example : mapCorrected 5 0 10 0 (-101) = (.ok, some (-51)) := by decide

/-! ## The exact computation -/

variable {corrected codeMin codeMax : UInt32} {physicalMin physicalMax : Int32}

/-- The intervals that the source maps between, and a code of the first. -/
structure Mappable (corrected codeMin codeMax : UInt32) : Prop where
  nonempty : codeMin.toNat < codeMax.toNat
  narrow : codeMax.toNat ≤ 0x00FFFFFF
  low : codeMin.toNat ≤ corrected.toNat
  high : corrected.toNat ≤ codeMax.toNat

/-- The product that the code divides, in unbounded integers. -/
def exactProduct (corrected codeMin : UInt32) (physicalMin physicalMax : Int32) : ℤ :=
  ((corrected.toNat : ℤ) - codeMin.toNat) * (physicalMax.toInt - physicalMin.toInt)

/-- The offset from the lower physical end, rounded. -/
def roundedOffset (corrected codeMin codeMax : UInt32)
    (physicalMin physicalMax : Int32) : ℤ :=
  halfAwayQuotient (exactProduct corrected codeMin physicalMin physicalMax)
    ((codeMax.toNat : ℤ) - codeMin.toNat)

open MapCorrected in
/-- Every word of the computation is the exact result of its operation. -/
structure NoOverflow (corrected codeMin codeMax : UInt32)
    (physicalMin physicalMax : Int32) : Prop where
  codeSpan : (codeSpan codeMin codeMax).toInt = (codeMax.toNat : ℤ) - codeMin.toNat
  physicalSpan : (physicalSpan physicalMin physicalMax).toInt =
    physicalMax.toInt - physicalMin.toInt
  codeOffset : (codeOffset corrected codeMin).toInt =
    (corrected.toNat : ℤ) - codeMin.toNat
  product : (product corrected codeMin physicalMin physicalMax).toInt =
    exactProduct corrected codeMin physicalMin physicalMax
  numerator :
    (numerator corrected codeMin codeMax physicalMin physicalMax).toInt =
      if 0 ≤ exactProduct corrected codeMin physicalMin physicalMax then
        exactProduct corrected codeMin physicalMin physicalMax +
          ((codeMax.toNat : ℤ) - codeMin.toNat) / 2
      else
        exactProduct corrected codeMin physicalMin physicalMax -
          ((codeMax.toNat : ℤ) - codeMin.toNat) / 2
  mapped : (mapped corrected codeMin codeMax physicalMin physicalMax).toInt =
    physicalMin.toInt +
      roundedOffset corrected codeMin codeMax physicalMin physicalMax

/-- The value that the two intervals assign to a code. -/
def exactValue (corrected codeMin codeMax : UInt32)
    (physicalMin physicalMax : Int32) : ℚ :=
  physicalMin.toInt +
    (corrected.toNat - codeMin.toNat) * (physicalMax.toInt - physicalMin.toInt) /
      (codeMax.toNat - codeMin.toNat)

/-- The integer nearest to `x`, and of two the one further from `base`. -/
def IsHalfAwayFrom (base : ℤ) (x : ℚ) (n : ℤ) : Prop :=
  IsNearest x n ∧ ∀ m : ℤ, |x - m| = |x - n| → |m - base| ≤ |n - base|

namespace Mappable

variable (hcode : Mappable corrected codeMin codeMax)
include hcode

theorem span_pos : 0 < (codeMax.toNat : ℤ) - codeMin.toNat := by
  have h := hcode.nonempty
  omega

theorem roundedOffset_isHalfAway :
    IsHalfAway
      ((exactProduct corrected codeMin physicalMin physicalMax : ℚ) /
        ((codeMax.toNat : ℤ) - codeMin.toNat : ℤ))
      (roundedOffset corrected codeMin codeMax physicalMin physicalMax) :=
  isHalfAway_halfAwayQuotient hcode.span_pos

omit hcode in
theorem roundedOffset_at_min (hnonempty : codeMin.toNat < codeMax.toNat) :
    roundedOffset codeMin codeMin codeMax physicalMin physicalMax = 0 := by
  unfold roundedOffset exactProduct halfAwayQuotient
  rw [sub_self, zero_mul, if_pos le_rfl, zero_add, Int.tdiv_eq_ediv_of_nonneg (by omega)]
  apply Int.ediv_eq_zero_of_lt <;> omega

omit hcode in
theorem roundedOffset_at_max (hend : Mappable codeMax codeMin codeMax) :
    roundedOffset codeMax codeMin codeMax physicalMin physicalMax =
      physicalMax.toInt - physicalMin.toInt := by
  apply hend.roundedOffset_isHalfAway.unique
  have hspan : (((codeMax.toNat : ℤ) - codeMin.toNat : ℤ) : ℚ) ≠ 0 := by
    exact_mod_cast hend.span_pos.ne'
  rw [exactProduct, Int.cast_mul, mul_div_cancel_left₀ _ hspan]
  exact isHalfAway_intCast _

theorem roundedOffset_mono {next : UInt32} (hnext : Mappable next codeMin codeMax)
    (hle : corrected.toNat ≤ next.toNat)
    (hrise : physicalMin.toInt ≤ physicalMax.toInt) :
    roundedOffset corrected codeMin codeMax physicalMin physicalMax ≤
      roundedOffset next codeMin codeMax physicalMin physicalMax := by
  apply hcode.roundedOffset_isHalfAway.mono hnext.roundedOffset_isHalfAway
  have hspan : (0 : ℚ) ≤ ((codeMax.toNat : ℤ) - codeMin.toNat : ℤ) := by
    exact_mod_cast hcode.span_pos.le
  apply div_le_div_of_nonneg_right _ hspan
  exact_mod_cast mul_le_mul_of_nonneg_right (by omega) (by omega)

theorem roundedOffset_anti {next : UInt32} (hnext : Mappable next codeMin codeMax)
    (hle : corrected.toNat ≤ next.toNat)
    (hfall : physicalMax.toInt ≤ physicalMin.toInt) :
    roundedOffset next codeMin codeMax physicalMin physicalMax ≤
      roundedOffset corrected codeMin codeMax physicalMin physicalMax := by
  apply hnext.roundedOffset_isHalfAway.mono hcode.roundedOffset_isHalfAway
  have hspan : (0 : ℚ) ≤ ((codeMax.toNat : ℤ) - codeMin.toNat : ℤ) := by
    exact_mod_cast hcode.span_pos.le
  apply div_le_div_of_nonneg_right _ hspan
  exact_mod_cast mul_le_mul_of_nonpos_right (by omega) (by omega)

theorem at_min : Mappable codeMin codeMin codeMax :=
  ⟨hcode.nonempty, hcode.narrow, le_rfl, hcode.nonempty.le⟩

theorem at_max : Mappable codeMax codeMin codeMax :=
  ⟨hcode.nonempty, hcode.narrow, hcode.nonempty.le, le_rfl⟩

variable (physicalMin physicalMax)

/-- The ends of the code interval are the extreme offsets. -/
theorem roundedOffset_between :
    (physicalMin.toInt ≤ physicalMax.toInt →
      0 ≤ roundedOffset corrected codeMin codeMax physicalMin physicalMax ∧
        roundedOffset corrected codeMin codeMax physicalMin physicalMax ≤
          physicalMax.toInt - physicalMin.toInt) ∧
      (physicalMax.toInt ≤ physicalMin.toInt →
        physicalMax.toInt - physicalMin.toInt ≤
            roundedOffset corrected codeMin codeMax physicalMin physicalMax ∧
          roundedOffset corrected codeMin codeMax physicalMin physicalMax ≤ 0) := by
  constructor
  · intro hrise
    have hlow := hcode.at_min.roundedOffset_mono hcode hcode.low hrise
    have hhigh := hcode.roundedOffset_mono hcode.at_max hcode.high hrise
    rw [roundedOffset_at_min hcode.nonempty] at hlow
    rw [roundedOffset_at_max hcode.at_max] at hhigh
    exact ⟨hlow, hhigh⟩
  · intro hfall
    have hlow := hcode.roundedOffset_anti hcode.at_max hcode.high hfall
    have hhigh := hcode.at_min.roundedOffset_anti hcode hcode.low hfall
    rw [roundedOffset_at_max hcode.at_max] at hlow
    rw [roundedOffset_at_min hcode.nonempty] at hhigh
    exact ⟨hlow, hhigh⟩

/-- The value lies in the physical interval, so no word is too narrow for it. -/
theorem fits32_value :
    Fits32 (physicalMin.toInt +
      roundedOffset corrected codeMin codeMax physicalMin physicalMax) := by
  obtain ⟨hrising, hfalling⟩ :=
    hcode.roundedOffset_between physicalMin physicalMax
  have hmin := fits32_toInt physicalMin
  have hmax := fits32_toInt physicalMax
  unfold Fits32 at hmin hmax ⊢
  rcases le_total physicalMin.toInt physicalMax.toInt with hrise | hfall
  · have hoffset := hrising hrise
    omega
  · have hoffset := hfalling hfall
    omega

theorem abs_exactProduct_le :
    |exactProduct corrected codeMin physicalMin physicalMax| ≤ 2 ^ 24 * 2 ^ 32 := by
  have hmin := fits32_toInt physicalMin
  have hmax := fits32_toInt physicalMax
  unfold Fits32 at hmin hmax
  have hoffset : |(corrected.toNat : ℤ) - codeMin.toNat| ≤ 2 ^ 24 := by
    rw [abs_le]
    have hlow := hcode.low
    have hhigh := hcode.high
    have hnarrow := hcode.narrow
    omega
  have hspan : |physicalMax.toInt - physicalMin.toInt| ≤ 2 ^ 32 := by
    rw [abs_le]
    omega
  rw [exactProduct, abs_mul]
  exact mul_le_mul hoffset hspan (abs_nonneg _) (by norm_num)

theorem noOverflow : NoOverflow corrected codeMin codeMax physicalMin physicalMax := by
  have hcodeSpan : (MapCorrected.codeSpan codeMin codeMax).toInt = _ :=
    toInt_sub_ofUInt32 codeMax codeMin
  have hphysicalSpan : (MapCorrected.physicalSpan physicalMin physicalMax).toInt = _ :=
    toInt_sub_ofInt32 physicalMax physicalMin
  have hcodeOffset : (MapCorrected.codeOffset corrected codeMin).toInt = _ :=
    toInt_sub_ofUInt32 corrected codeMin
  have hbound := abs_le.mp
    (hcode.abs_exactProduct_le physicalMin physicalMax)
  have hproduct :
      (MapCorrected.product corrected codeMin physicalMin physicalMax).toInt =
        exactProduct corrected codeMin physicalMin physicalMax := by
    rw [MapCorrected.product, toInt_mul] <;> rw [hcodeOffset, hphysicalSpan]
    · rfl
    · rw [← exactProduct]
      constructor <;> omega
  have hpositive := hcode.span_pos
  have hnarrow := hcode.narrow
  have hhalf : (MapCorrected.codeSpan codeMin codeMax / 2).toInt =
      ((codeMax.toNat : ℤ) - codeMin.toNat) / 2 := by
    rw [toInt_div (by decide), hcodeSpan, show (2 : Int64).toInt = 2 by rfl,
      Int.tdiv_eq_ediv_of_nonneg hpositive.le]
  have hnumerator :
      (MapCorrected.numerator corrected codeMin codeMax physicalMin physicalMax).toInt =
        if 0 ≤ exactProduct corrected codeMin physicalMin physicalMax then
          exactProduct corrected codeMin physicalMin physicalMax +
            ((codeMax.toNat : ℤ) - codeMin.toNat) / 2
        else
          exactProduct corrected codeMin physicalMin physicalMax -
            ((codeMax.toNat : ℤ) - codeMin.toNat) / 2 := by
    have hsign : MapCorrected.product corrected codeMin physicalMin physicalMax ≥ 0 ↔
        0 ≤ exactProduct corrected codeMin physicalMin physicalMax := by
      rw [ge_iff_le, Int64.le_iff_toInt_le, hproduct, Int64.toInt_zero]
    rw [MapCorrected.numerator]
    split_ifs with hword hexact hexact
    · rw [toInt_add] <;> rw [hproduct, hhalf]
      constructor <;> omega
    · exact absurd (hsign.mp hword) hexact
    · exact absurd (hsign.mpr hexact) hword
    · rw [toInt_sub] <;> rw [hproduct, hhalf]
      constructor <;> omega
  have hquotient :
      (MapCorrected.numerator corrected codeMin codeMax physicalMin physicalMax /
        MapCorrected.codeSpan codeMin codeMax).toInt =
        roundedOffset corrected codeMin codeMax physicalMin physicalMax := by
    rw [toInt_div (pos_iff.mpr (by rw [hcodeSpan]; exact hpositive)), hnumerator,
      hcodeSpan]
    rfl
  refine ⟨hcodeSpan, hphysicalSpan, hcodeOffset, hproduct, hnumerator, ?_⟩
  have hvalue := hcode.fits32_value physicalMin physicalMax
  unfold Fits32 at hvalue
  rw [MapCorrected.mapped, toInt_add] <;> rw [hquotient, Int32.toInt_toInt64]
  constructor <;> omega

theorem mapCorrected_eq :
    mapCorrected corrected codeMin codeMax physicalMin physicalMax =
      (.ok, some
        (MapCorrected.mapped corrected codeMin codeMax physicalMin
          physicalMax).toInt32) := by
  have hvalue := hcode.fits32_value physicalMin physicalMax
  have hmapped := (hcode.noOverflow physicalMin physicalMax).mapped
  have hnonempty := hcode.nonempty
  have hnarrow := hcode.narrow
  have hlow := hcode.low
  have hhigh := hcode.high
  have hguard : ¬ (codeMax ≤ codeMin ∨ codeMax > 0x00FFFFFF ∨ corrected < codeMin ∨
      corrected > codeMax) := by
    simp only [gt_iff_lt, UInt32.le_iff_toNat_le, UInt32.lt_iff_toNat_lt,
      show (0x00FFFFFF : UInt32).toNat = 0x00FFFFFF by rfl]
    omega
  have hrange :
      ¬ (MapCorrected.mapped corrected codeMin codeMax physicalMin physicalMax <
          Int32.minValue.toInt64 ∨
        MapCorrected.mapped corrected codeMin codeMax physicalMin physicalMax >
          Int32.maxValue.toInt64) := by
    rw [gt_iff_lt, Int64.lt_iff_toInt_lt, Int64.lt_iff_toInt_lt, hmapped,
      Int32.toInt_toInt64, Int32.toInt_toInt64, Int32.toInt_minValue,
      Int32.toInt_maxValue]
    unfold Fits32 at hvalue
    omega
  rw [mapCorrected, if_neg hguard, if_neg hrange]

variable {physicalMin physicalMax}

theorem toInt_mapCorrected {value : Int32}
    (hresult : mapCorrected corrected codeMin codeMax physicalMin physicalMax =
      (.ok, some value)) :
    value.toInt = physicalMin.toInt +
      roundedOffset corrected codeMin codeMax physicalMin physicalMax := by
  rw [hcode.mapCorrected_eq physicalMin physicalMax, Prod.mk.injEq, Option.some.injEq]
    at hresult
  have hvalue := hcode.fits32_value physicalMin physicalMax
  rw [← hresult.2, Int64.toInt_toInt32, (hcode.noOverflow physicalMin physicalMax).mapped]
  exact Int.bmod_eq_of_le hvalue.1 hvalue.2

theorem isHalfAwayFrom_value :
    IsHalfAwayFrom physicalMin.toInt
      (exactValue corrected codeMin codeMax physicalMin physicalMax)
      (physicalMin.toInt +
        roundedOffset corrected codeMin codeMax physicalMin physicalMax) := by
  have hvalue : exactValue corrected codeMin codeMax physicalMin physicalMax =
      physicalMin.toInt +
        (exactProduct corrected codeMin physicalMin physicalMax : ℚ) /
          ((codeMax.toNat : ℤ) - codeMin.toNat : ℤ) := by
    unfold exactValue exactProduct
    push_cast
    ring
  rw [hvalue]
  exact hcode.roundedOffset_isHalfAway.add_base physicalMin.toInt

end Mappable

/-! ## Linear scaling -/

/-- What a linear scaling of the codes of an interval to the values of another
has to do, on the words of the source. -/
structure IsLinearScaling (codeMin codeMax : UInt32)
    (physicalMin physicalMax : Int32) : Prop where
  nearest : ∀ corrected, codeMin ≤ corrected → corrected ≤ codeMax →
    NoOverflow corrected codeMin codeMax physicalMin physicalMax ∧
      ∃ value, mapCorrected corrected codeMin codeMax physicalMin physicalMax =
          (.ok, some value) ∧
        IsHalfAwayFrom physicalMin.toInt
          (exactValue corrected codeMin codeMax physicalMin physicalMax) value.toInt
  atMin : mapCorrected codeMin codeMin codeMax physicalMin physicalMax =
    (.ok, some physicalMin)
  atMax : mapCorrected codeMax codeMin codeMax physicalMin physicalMax =
    (.ok, some physicalMax)
  between : ∀ corrected value,
    mapCorrected corrected codeMin codeMax physicalMin physicalMax =
        (.ok, some value) →
      min physicalMin.toInt physicalMax.toInt ≤ value.toInt ∧
        value.toInt ≤ max physicalMin.toInt physicalMax.toInt
  monotone : ∀ corrected next value nextValue, corrected ≤ next →
    mapCorrected corrected codeMin codeMax physicalMin physicalMax =
        (.ok, some value) →
      mapCorrected next codeMin codeMax physicalMin physicalMax =
          (.ok, some nextValue) →
        (physicalMin ≤ physicalMax → value ≤ nextValue) ∧
          (physicalMax ≤ physicalMin → nextValue ≤ value)

/-- A call that stores a value was given a code of the interval. -/
theorem mappable_of_ok {value : Int32}
    (hresult : mapCorrected corrected codeMin codeMax physicalMin physicalMax =
      (.ok, some value)) : Mappable corrected codeMin codeMax := by
  unfold mapCorrected at hresult
  split_ifs at hresult with hguard hempty hrange <;> try simp at hresult
  simp only [gt_iff_lt, UInt32.le_iff_toNat_le, UInt32.lt_iff_toNat_lt,
    show (0x00FFFFFF : UInt32).toNat = 0x00FFFFFF by rfl] at hguard
  constructor <;> omega

theorem mapCorrected_isLinearScaling (codeMin codeMax : UInt32)
    (physicalMin physicalMax : Int32) (hnonempty : codeMin < codeMax)
    (hnarrow : codeMax ≤ 0x00FFFFFF) :
    IsLinearScaling codeMin codeMax physicalMin physicalMax := by
  rw [UInt32.lt_iff_toNat_lt] at hnonempty
  rw [UInt32.le_iff_toNat_le] at hnarrow
  have hmin : Mappable codeMin codeMin codeMax :=
    ⟨hnonempty, hnarrow, le_rfl, hnonempty.le⟩
  have hmax : Mappable codeMax codeMin codeMax := hmin.at_max
  constructor
  · intro corrected hlow hhigh
    have hcode : Mappable corrected codeMin codeMax :=
      ⟨hnonempty, hnarrow, UInt32.le_iff_toNat_le.mp hlow,
        UInt32.le_iff_toNat_le.mp hhigh⟩
    refine ⟨hcode.noOverflow _ _, _, hcode.mapCorrected_eq _ _, ?_⟩
    rw [hcode.toInt_mapCorrected (hcode.mapCorrected_eq _ _)]
    exact hcode.isHalfAwayFrom_value
  · have hvalue := hmin.toInt_mapCorrected (hmin.mapCorrected_eq physicalMin physicalMax)
    rw [Mappable.roundedOffset_at_min hnonempty, add_zero, Int32.toInt_inj] at hvalue
    rw [hmin.mapCorrected_eq, hvalue]
  · have hvalue := hmax.toInt_mapCorrected (hmax.mapCorrected_eq physicalMin physicalMax)
    rw [Mappable.roundedOffset_at_max hmax, add_sub_cancel, Int32.toInt_inj] at hvalue
    rw [hmax.mapCorrected_eq, hvalue]
  · intro corrected value hresult
    have hcode := mappable_of_ok hresult
    have hvalue := hcode.toInt_mapCorrected hresult
    obtain ⟨hrising, hfalling⟩ := hcode.roundedOffset_between physicalMin physicalMax
    rcases le_total physicalMin.toInt physicalMax.toInt with hrise | hfall
    · have hoffset := hrising hrise
      rw [min_eq_left hrise, max_eq_right hrise, hvalue]
      omega
    · have hoffset := hfalling hfall
      rw [min_eq_right hfall, max_eq_left hfall, hvalue]
      omega
  · intro corrected next value nextValue hle hresult hnextResult
    have hcode := mappable_of_ok hresult
    have hnext := mappable_of_ok hnextResult
    rw [UInt32.le_iff_toNat_le] at hle
    simp only [Int32.le_iff_toInt_le, hcode.toInt_mapCorrected hresult,
      hnext.toInt_mapCorrected hnextResult, add_le_add_iff_left]
    exact ⟨hcode.roundedOffset_mono hnext hle, hcode.roundedOffset_anti hnext hle⟩

theorem mapCorrected_isLinearScaling_fullScale :
    IsLinearScaling 0 0x00FFFFFF (-2147483648) 2147483647 :=
  mapCorrected_isLinearScaling 0 0x00FFFFFF (-2147483648) 2147483647 (by decide)
    (by decide)

end Swfpm.Zssc3241
