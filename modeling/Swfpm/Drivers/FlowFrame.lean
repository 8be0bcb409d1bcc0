import Swfpm.Drivers.Max35103
import Swfpm.Support.Int64Range

/-!
# The coherence check of a flow frame

A Q16 unit is 250000 / 65536 ps, a little under 4 ps.  The absolute times are
rounded to the nearest picosecond and the signed difference is truncated, so the
check compares values that are each off by no more than one.
-/

namespace Swfpm

open Int64Range

variable {integer fraction : UInt16} {frame : List UInt8}

/-- The Q16 number that two words hold. -/
def joinedQ16 (integer fraction : UInt16) : ℕ :=
  integer.toNat * 65536 + fraction.toNat

/-- The same words in two's complement. -/
def twosQ16 (integer fraction : UInt16) : ℤ :=
  if joinedQ16 integer fraction < 2 ^ 31 then joinedQ16 integer fraction
  else joinedQ16 integer fraction - 2 ^ 32

theorem joinedQ16_lt (integer fraction : UInt16) :
    joinedQ16 integer fraction < 2 ^ 32 := by
  have hinteger := integer.toNat_lt
  have hfraction := fraction.toNat_lt
  unfold joinedQ16
  omega

theorem shiftLeft_or_fraction (integer fraction : UInt16) :
    integer.toNat <<< 16 ||| fraction.toNat = joinedQ16 integer fraction := by
  rw [← Nat.shiftLeft_add_eq_or_of_lt fraction.toNat_lt, Nat.shiftLeft_eq]
  rfl

theorem toNat_joined64 (integer fraction : UInt16) :
    ((integer.toUInt64 <<< 16) ||| fraction.toUInt64).toNat =
      joinedQ16 integer fraction := by
  have hinteger := integer.toNat_lt
  rw [← shiftLeft_or_fraction, UInt64.toNat_or, UInt64.toNat_shiftLeft,
    UInt16.toNat_toUInt64, UInt16.toNat_toUInt64]
  simp only [UInt64.toNat_ofNat, Nat.reducePow, Nat.reduceMod]
  rw [Nat.mod_eq_of_lt (by rw [Nat.shiftLeft_eq]; omega)]

theorem toNat_joined32 (integer fraction : UInt16) :
    ((integer.toUInt32 <<< 16) ||| fraction.toUInt32).toNat =
      joinedQ16 integer fraction := by
  have hinteger := integer.toNat_lt
  rw [← shiftLeft_or_fraction, UInt32.toNat_or, UInt32.toNat_shiftLeft,
    UInt16.toNat_toUInt32, UInt16.toNat_toUInt32]
  simp only [UInt32.toNat_ofNat, Nat.reducePow, Nat.reduceMod]
  rw [Nat.mod_eq_of_lt (by rw [Nat.shiftLeft_eq]; omega)]

/-- The sign bit of a 32-bit word. -/
theorem and_signBit_eq_zero_iff (word : UInt32) :
    word &&& 0x80000000 = 0 ↔ word.toNat < 2 ^ 31 := by
  have hword := word.toNat_lt
  rw [← UInt32.toNat_inj, UInt32.toNat_and]
  change word.toNat &&& 2 ^ 31 = 0 ↔ _
  rw [Nat.and_two_pow, Nat.testBit_eq_decide_div_mod_eq]
  simp only [mul_eq_zero, Bool.toNat_eq_zero, decide_eq_false_iff_not]
  omega

/-! ## The two conversions -/

theorem toInt_absoluteQ16ToPs (hinteger : integer ≤ 0x7FFF) :
    ∃ picoseconds, absoluteQ16ToPs integer fraction = some picoseconds ∧
      picoseconds.toInt =
        ((joinedQ16 integer fraction * 250000 + 32768) / 65536 : ℕ) := by
  have hjoined := joinedQ16_lt integer fraction
  refine ⟨_, if_neg (UInt16.not_lt.mpr hinteger), ?_⟩
  have hvalue :
      ((((integer.toUInt64 <<< 16) ||| fraction.toUInt64) * 250000 + 32768) /
        65536).toNat = (joinedQ16 integer fraction * 250000 + 32768) / 65536 := by
    rw [UInt64.toNat_div, UInt64.toNat_add, UInt64.toNat_mul, toNat_joined64]
    simp only [UInt64.toNat_ofNat, Nat.reducePow, Nat.reduceMod]
    rw [Nat.mod_eq_of_lt (by omega : joinedQ16 integer fraction * 250000 < _),
      Nat.mod_eq_of_lt (by omega)]
  rw [toInt_toInt64_of_lt (by rw [hvalue]; omega), hvalue]

theorem toInt_twosQ16 (integer fraction : UInt16) :
    let joined : UInt32 := (integer.toUInt32 <<< 16) ||| fraction.toUInt32
    (if joined &&& 0x80000000 ≠ 0 then joined.toUInt64.toInt64 - 0x100000000
      else joined.toUInt64.toInt64).toInt = twosQ16 integer fraction := by
  intro joined
  have hjoined := joinedQ16_lt integer fraction
  have hword : joined.toNat = joinedQ16 integer fraction :=
    toNat_joined32 integer fraction
  have hbase : (0x100000000 : Int64).toInt = 2 ^ 32 := rfl
  unfold twosQ16
  by_cases hsmall : joinedQ16 integer fraction < 2 ^ 31
  · rw [if_neg (not_not.mpr ((and_signBit_eq_zero_iff _).mpr (hword ▸ hsmall))),
      if_pos hsmall, toInt_ofUInt32, hword]
  · rw [if_pos (mt (and_signBit_eq_zero_iff _).mp (hword ▸ hsmall)), if_neg hsmall,
      toInt_sub] <;> rw [toInt_ofUInt32, hword, hbase]
    constructor <;> omega

theorem twosQ16_bounds (integer fraction : UInt16) :
    -2 ^ 31 ≤ twosQ16 integer fraction ∧ twosQ16 integer fraction < 2 ^ 31 := by
  have hjoined := joinedQ16_lt integer fraction
  unfold twosQ16
  split_ifs <;> omega

theorem toInt_signedQ16ToPs (integer fraction : UInt16) :
    (signedQ16ToPs integer fraction).toInt =
      (twosQ16 integer fraction * 250000).tdiv 65536 := by
  have hbounds := twosQ16_bounds integer fraction
  have hfactor : (250000 : Int64).toInt = 250000 := rfl
  unfold signedQ16ToPs
  rw [toInt_div (by decide), toInt_mul] <;> rw [toInt_twosQ16, hfactor]
  · rfl
  · constructor <;> omega

/-! ## The check -/

/-- Truncation moves a value towards zero by less than one. -/
theorem tdiv_near (value : ℤ) :
    -65536 < value - value.tdiv 65536 * 65536 ∧
      value - value.tdiv 65536 * 65536 < 65536 := by
  have hparts := Int.tmod_add_mul_tdiv value 65536
  have habove := Int.tmod_lt_of_pos value (show (0 : ℤ) < 65536 by decide)
  have hbelow := Int.lt_tmod_of_pos value (show (0 : ℤ) < 65536 by decide)
  omega

/-- The difference that the check computes from three Q16 numbers. -/
def coherenceErrorPs (up down : ℕ) (diff : ℤ) : ℤ :=
  (diff * 250000).tdiv 65536 -
    (((up * 250000 + 32768) / 65536 : ℕ) - ((down * 250000 + 32768) / 65536 : ℕ))

theorem coherenceErrorPs_of_eq (up down : ℕ) :
    |coherenceErrorPs up down (up - down)| ≤ 4 := by
  have hnear := tdiv_near (((up : ℤ) - down) * 250000)
  unfold coherenceErrorPs
  rw [abs_le]
  omega

theorem abs_sub_le_of_coherent {up down : ℕ} {diff : ℤ}
    (hcoherent : |coherenceErrorPs up down diff| ≤ 4) :
    |diff - (up - down)| ≤ 1 := by
  have hnear := tdiv_near (diff * 250000)
  unfold coherenceErrorPs at hcoherent
  rw [abs_le] at hcoherent ⊢
  omega

/-- The transit time that a frame reports upstream. -/
def upQ16 (frame : List UInt8) : ℕ := joinedQ16 (be16 frame 0) (be16 frame 2)

/-- The transit time downstream. -/
def downQ16 (frame : List UInt8) : ℕ := joinedQ16 (be16 frame 4) (be16 frame 6)

/-- The difference that the frame reports. -/
def diffQ16 (frame : List UInt8) : ℤ := twosQ16 (be16 frame 8) (be16 frame 10)

theorem coherenceErrorPs_bounds {up down : ℕ} {diff : ℤ} (hup : up < 2 ^ 32)
    (hdown : down < 2 ^ 32) (hdiff : -2 ^ 31 ≤ diff ∧ diff < 2 ^ 31) :
    -2 ^ 40 < coherenceErrorPs up down diff ∧
      coherenceErrorPs up down diff < 2 ^ 40 := by
  have hnear := tdiv_near (diff * 250000)
  unfold coherenceErrorPs
  omega

/-- The magnitude that the code computes in words. -/
theorem toInt_magnitude {word : Int64} (hlow : -2 ^ 40 < word.toInt) :
    (if word < 0 then -word else word).toInt = |word.toInt| := by
  split
  · next hneg =>
      rw [neg_iff] at hneg
      rw [abs_of_neg hneg, toInt_neg]
      rintro rfl
      exact absurd hlow (by decide)
  · next hnonneg =>
      rw [neg_iff, not_lt] at hnonneg
      exact (abs_of_nonneg hnonneg).symm

theorem toInt_coherenceError (hup : be16 frame 0 ≤ 0x7FFF)
    (hdown : be16 frame 4 ≤ 0x7FFF) :
    ∃ up down, absoluteQ16ToPs (be16 frame 0) (be16 frame 2) = some up ∧
      absoluteQ16ToPs (be16 frame 4) (be16 frame 6) = some down ∧
      (signedQ16ToPs (be16 frame 8) (be16 frame 10) - (up - down)).toInt =
        coherenceErrorPs (upQ16 frame) (downQ16 frame) (diffQ16 frame) := by
  obtain ⟨up, hupPs, hupValue⟩ :=
    @toInt_absoluteQ16ToPs (be16 frame 0) (be16 frame 2) hup
  obtain ⟨down, hdownPs, hdownValue⟩ :=
    @toInt_absoluteQ16ToPs (be16 frame 4) (be16 frame 6) hdown
  have hdiffValue := toInt_signedQ16ToPs (be16 frame 8) (be16 frame 10)
  have hbounds := coherenceErrorPs_bounds (joinedQ16_lt (be16 frame 0) (be16 frame 2))
    (joinedQ16_lt (be16 frame 4) (be16 frame 6))
    (twosQ16_bounds (be16 frame 8) (be16 frame 10))
  have hupBound := joinedQ16_lt (be16 frame 0) (be16 frame 2)
  have hdownBound := joinedQ16_lt (be16 frame 4) (be16 frame 6)
  have hexpected : (up - down).toInt = up.toInt - down.toInt := by
    apply toInt_sub
    rw [hupValue, hdownValue]
    constructor <;> omega
  refine ⟨up, down, hupPs, hdownPs, ?_⟩
  rw [toInt_sub, hexpected, hdiffValue, hupValue, hdownValue]
  · rfl
  · rw [hexpected, hdiffValue, hupValue, hdownValue]
    change Fits (coherenceErrorPs _ _ _)
    constructor <;> omega

theorem decodeFlowFrame_isSome_iff (hlength : frame.length = 14)
    (hup : be16 frame 0 ≤ 0x7FFF) (hdown : be16 frame 4 ≤ 0x7FFF)
    (hcycle : 0 < (be16 frame 12).toUInt8) :
    (decodeFlowFrame frame).isSome = true ↔
      |coherenceErrorPs (upQ16 frame) (downQ16 frame) (diffQ16 frame)| ≤ 4 := by
  obtain ⟨up, down, hupPs, hdownPs, herror⟩ := toInt_coherenceError hup hdown
  have hbounds := coherenceErrorPs_bounds (joinedQ16_lt (be16 frame 0) (be16 frame 2))
    (joinedQ16_lt (be16 frame 4) (be16 frame 6))
    (twosQ16_bounds (be16 frame 8) (be16 frame 10))
  have hmagnitude := @toInt_magnitude
    (signedQ16ToPs (be16 frame 8) (be16 frame 10) - (up - down)) (herror ▸ hbounds.1)
  rw [herror] at hmagnitude
  unfold decodeFlowFrame
  rw [if_neg (by rw [hlength]; decide)]
  simp only [hupPs, hdownPs, gt_iff_lt, Int64.lt_iff_toInt_lt (x := 4), hmagnitude, hcycle,
    if_true]
  have hfour : (4 : Int64).toInt = 4 := rfl
  rw [hfour]
  split
  · next hover => simp [hover]
  · next hwithin => simpa using hwithin

/-- A frame whose difference field is exact is accepted, and one that is
accepted is off by no more than one unit. -/
theorem decodeFlowFrame_coherent (hlength : frame.length = 14)
    (hup : be16 frame 0 ≤ 0x7FFF) (hdown : be16 frame 4 ≤ 0x7FFF)
    (hcycle : 0 < (be16 frame 12).toUInt8) :
    (diffQ16 frame = upQ16 frame - downQ16 frame →
        (decodeFlowFrame frame).isSome = true) ∧
      ((decodeFlowFrame frame).isSome = true →
        |diffQ16 frame - (upQ16 frame - downQ16 frame)| ≤ 1) := by
  rw [decodeFlowFrame_isSome_iff hlength hup hdown hcycle]
  constructor
  · intro hexact
    rw [hexact]
    exact coherenceErrorPs_of_eq _ _
  · exact abs_sub_le_of_coherent

/-- A frame that reports 2 upstream, 1 downstream and 1 for the difference. -/
def unitFrame : List UInt8 :=
  [0, 2, 0, 0, 0, 1, 0, 0, 0, 1, 0, 0, 1, 1]

theorem decodeFlowFrame_coherent_unit :
    (diffQ16 unitFrame = upQ16 unitFrame - downQ16 unitFrame →
        (decodeFlowFrame unitFrame).isSome = true) ∧
      ((decodeFlowFrame unitFrame).isSome = true →
        |diffQ16 unitFrame - (upQ16 unitFrame - downQ16 unitFrame)| ≤ 1) :=
  decodeFlowFrame_coherent rfl (by decide) (by decide) (by decide)

end Swfpm
