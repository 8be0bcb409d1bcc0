import Swfpm.Processing.FlowRange

/-!
# The range of the pressure conversion

The product of the raw offset and the pressure range is checked, and so is the
calibration.  The differences of the raw endpoints and the sum with the low
pressure are not, and the calibrated value is narrowed to 32 bits at the end.
`exactPressure` is the value that the conversion stands for.
-/

namespace Swfpm

open Int64Range

/-! ## The value over unbounded integers -/

/-- The pressure on the line through the endpoints, before the calibration. -/
def linePressure (offset range : ℤ) (profile : PressureProfile) : ℤ :=
  (offset * (profile.endpointHiPa.toInt - profile.endpointLoPa.toInt)).tdiv range +
    profile.endpointLoPa.toInt

def exactPressure (rawU24 : UInt32) (profile : PressureProfile)
    (cal : CalibrationRecord) : ℤ :=
  linePressure (rawU24.toNat - profile.endpointLoRaw.toInt)
      (profile.endpointHiRaw.toInt - profile.endpointLoRaw.toInt) profile *
    cal.gain.toInt + cal.offset.toInt

/-- The raw offset in a word. -/
def wordOffset (rawU24 : UInt32) (profile : PressureProfile) : ℤ :=
  (rawU24.toNat - profile.endpointLoRaw.toInt).bmod (2 ^ 64)

/-- The raw range in a word. -/
def wordRange (profile : PressureProfile) : ℤ :=
  (profile.endpointHiRaw.toInt - profile.endpointLoRaw.toInt).bmod (2 ^ 64)

/-- The pressure before the calibration, in a word. -/
def wordPressure (rawU24 : UInt32) (profile : PressureProfile) : ℤ :=
  (linePressure (wordOffset rawU24 profile) (wordRange profile) profile).bmod
    (2 ^ 64)

/-! ## When the conversion refuses -/

/-- The status byte reports no usable measurement. -/
def StatusFault (status : UInt8) : Prop :=
  status &&& 0x80 ≠ 0 ∨ status &&& 0x40 = 0 ∨ status &&& 0x18 = 0x18 ∨
    status &&& 0x27 ≠ 0

instance (status : UInt8) : Decidable (StatusFault status) :=
  inferInstanceAs (Decidable (_ ∨ _ ∨ _ ∨ _))

/-- Every checked step gives a word. -/
structure CheckedStepsFit (rawU24 : UInt32) (profile : PressureProfile)
    (cal : CalibrationRecord) : Prop where
  product : Fits (wordOffset rawU24 profile *
    (profile.endpointHiPa.toInt - profile.endpointLoPa.toInt))
  gain : Fits (wordPressure rawU24 profile * cal.gain.toInt)
  sum : Fits (wordPressure rawU24 profile * cal.gain.toInt + cal.offset.toInt)

variable {rawU24 : UInt32} {status : UInt8} {profile : PressureProfile}
  {cal : CalibrationRecord} {pressurePa : Int32}

theorem applyGainOffset_unshifted_iff {x gain offset y : Int64} :
    applyGainOffset x gain offset 0 = some y ↔
      Fits (x.toInt * gain.toInt) ∧ Fits (x.toInt * gain.toInt + offset.toInt) ∧
        y.toInt = x.toInt * gain.toInt + offset.toInt := by
  rw [applyGainOffset_eq_some_iff (by decide), if_pos rfl]

/-- The pressure before the calibration, from the checked product. -/
theorem toInt_linePressure {product : Int64}
    (hproduct : product.toInt = wordOffset rawU24 profile *
      (profile.endpointHiPa.toInt - profile.endpointLoPa.toInt)) :
    (product / (profile.endpointHiRaw - profile.endpointLoRaw) +
        profile.endpointLoPa.toInt64).toInt = wordPressure rawU24 profile := by
  rw [Int64.toInt_add, Int64.toInt_div, Int64.toInt_sub, hproduct,
    Int32.toInt_toInt64, Int.bmod_add_bmod]
  rfl

/-- The conversion succeeds with the low word of the calibrated value. -/
theorem pressureConvert_ok_iff (hraw : rawU24 ≤ 0xFFFFFF)
    (horder : profile.endpointLoRaw.toInt < profile.endpointHiRaw.toInt)
    (hshift : cal.shift = 0) :
    pressureConvert rawU24 status profile cal = (.ok, pressurePa) ↔
      ¬ StatusFault status ∧ CheckedStepsFit rawU24 profile cal ∧
        pressurePa.toInt =
          (wordPressure rawU24 profile * cal.gain.toInt + cal.offset.toInt).bmod
            (2 ^ 32) := by
  have hfault : (status &&& 0x80 ≠ 0 ∨ (!decide (status &&& 0x40 ≠ 0)) = true ∨
      decide (status &&& 0x18 = 0x18) = true ∨ status &&& 0x27 ≠ 0) ↔
        StatusFault status := by
    unfold StatusFault
    simp
  have hlimit : ¬ rawU24 > 0xFFFFFF := UInt32.not_lt.mpr hraw
  have hendpoints : ¬ profile.endpointHiRaw ≤ profile.endpointLoRaw := by
    rw [Int64.le_iff_toInt_le, not_le]
    exact horder
  have hoffset : (rawU24.toUInt64.toInt64 - profile.endpointLoRaw).toInt =
      wordOffset rawU24 profile := by
    rw [Int64.toInt_sub, toInt_ofUInt32]
    rfl
  unfold pressureConvert
  simp only [hfault, if_neg hlimit, if_neg hendpoints, checkedMulI64_eq, hoffset,
    toInt_sub_ofInt32]
  by_cases hstatus : StatusFault status
  · rw [if_pos hstatus]
    simp [hstatus]
  rw [if_neg hstatus, and_iff_right hstatus]
  cases hproduct : exact (wordOffset rawU24 profile *
      (profile.endpointHiPa.toInt - profile.endpointLoPa.toInt)) with
  | none =>
      rw [exact_eq_none_iff] at hproduct
      constructor
      · intro hok
        cases hok
      · rintro ⟨hsteps, -⟩
        exact absurd hsteps.product hproduct
  | some product =>
      have hvalue := exact_eq_some_iff.mp hproduct
      have hfits := fits_toInt product
      rw [hvalue] at hfits
      have hpressure := toInt_linePressure hvalue
      rw [hshift]
      dsimp only
      generalize product / (profile.endpointHiRaw - profile.endpointLoRaw) +
        profile.endpointLoPa.toInt64 = pressureRaw at hpressure
      cases hcal : applyGainOffset pressureRaw cal.gain cal.offset 0 with
      | none =>
          constructor
          · intro hok
            cases hok
          · rintro ⟨⟨-, hgain, hsum⟩, -⟩
            rw [← hpressure] at hgain hsum
            have hsome := applyGainOffset_unshifted_iff.mpr
              ⟨hgain, hsum, hsum.toInt_ofInt⟩
            rw [hcal] at hsome
            cases hsome
      | some pressureCal =>
          obtain ⟨hgain, hsum, hresult⟩ := applyGainOffset_unshifted_iff.mp hcal
          rw [hpressure] at hgain hsum hresult
          rw [Prod.mk.injEq, eq_self, true_and, ← Int32.toInt_inj,
            Int64.toInt_toInt32, hresult, eq_comm]
          constructor
          · intro heq
            exact ⟨⟨hfits, hgain, hsum⟩, heq⟩
          · rintro ⟨-, heq⟩
            exact heq

/-! ## When the published pressure is exact -/

/-- The exact pressure is a result, and where a difference of the endpoints has
left its word, the line through the words gives the same result. -/
def PressureFits (rawU24 : UInt32) (profile : PressureProfile)
    (cal : CalibrationRecord) : Prop :=
  Fits32 (exactPressure rawU24 profile cal) ∧
    (2 : ℤ) ^ 32 ∣
      wordPressure rawU24 profile * cal.gain.toInt + cal.offset.toInt -
        exactPressure rawU24 profile cal

/-- A 32-bit remainder is a given value when that fits and is congruent. -/
theorem bmod_eq_iff {z w : ℤ} :
    w.bmod (2 ^ 32) = z ↔ Fits32 z ∧ (2 : ℤ) ^ 32 ∣ w - z := by
  unfold Fits32
  rw [Int.bmod_def]
  constructor
  · intro heq
    split_ifs at heq <;> omega
  · rintro ⟨hfits, hcongruent⟩
    split_ifs <;> omega

/-- Endpoints whose differences are words leave only the narrowing. -/
theorem pressureFits_iff
    (hoffset : Fits (rawU24.toNat - profile.endpointLoRaw.toInt))
    (hrange : Fits (profile.endpointHiRaw.toInt - profile.endpointLoRaw.toInt)) :
    PressureFits rawU24 profile cal ↔
      Fits32 (exactPressure rawU24 profile cal) := by
  apply and_iff_left
  unfold exactPressure wordPressure wordOffset wordRange
  rw [hoffset.bmod_eq, hrange.bmod_eq]
  generalize linePressure _ _ profile = line
  have hwrapped : (2 : ℤ) ^ 64 ∣ line.bmod (2 ^ 64) - line :=
    Int.dvd_bmod_sub_self
  have hnarrow : (2 : ℤ) ^ 32 ∣ line.bmod (2 ^ 64) - line :=
    (pow_dvd_pow 2 (by decide)).trans hwrapped
  have hfactor : line.bmod (2 ^ 64) * cal.gain.toInt + cal.offset.toInt -
      (line * cal.gain.toInt + cal.offset.toInt) =
        (line.bmod (2 ^ 64) - line) * cal.gain.toInt := by
    ring
  rw [hfactor]
  exact hnarrow.mul_right _

/-- The pressure that is published is the exact one exactly where the conversion
refuses, or where the exact one is a result. -/
theorem pressureConvert_exact_iff (rawU24 : UInt32) (status : UInt8)
    (profile : PressureProfile) (cal : CalibrationRecord)
    (haccepted : profileValidatePressure profile = .ok ())
    (hshift : cal.shift = 0) (hraw : rawU24 ≤ 0xFFFFFF) :
    (∀ pressurePa, pressureConvert rawU24 status profile cal = (.ok, pressurePa) →
      pressurePa.toInt = exactPressure rawU24 profile cal) ↔
      StatusFault status ∨ ¬ CheckedStepsFit rawU24 profile cal ∨
        PressureFits rawU24 profile cal := by
  have horder := profileValidatePressure_ok haccepted
  unfold PressureFits
  rw [← bmod_eq_iff]
  constructor
  · intro hexact
    by_contra hcondition
    rw [not_or, not_or, not_not] at hcondition
    obtain ⟨hstatus, hsteps, hdiffers⟩ := hcondition
    have hword : ∀ z : ℤ, (Int32.ofInt z).toInt = z.bmod (2 ^ 32) :=
      fun z => Int32.toInt_ofInt
    apply hdiffers
    rw [← hword]
    apply hexact
    rw [pressureConvert_ok_iff hraw horder hshift]
    exact ⟨hstatus, hsteps, hword _⟩
  · intro hcondition pressurePa hok
    obtain ⟨hstatus, hsteps, hvalue⟩ :=
      (pressureConvert_ok_iff hraw horder hshift).mp hok
    rcases hcondition with hfault | hrefused | hequal
    · exact absurd hfault hstatus
    · exact absurd hsteps hrefused
    · exact hvalue.trans hequal

/-- Ten bar over the codes of the bridge. -/
def tenBar : PressureProfile :=
  { id := ⟨1, 1, 0, 1⟩, paMin := 0, paMax := 1000000, applicationMin := 0
    applicationMax := 1000000, endpointLoRaw := 0, endpointHiRaw := 1000000
    endpointLoPa := 0, endpointHiPa := 1000000, referenceType := 1 }

theorem pressureConvert_exact_tenBar :
    (∀ pressurePa,
      pressureConvert 500000 0x40 tenBar unitCalibration = (.ok, pressurePa) →
        pressurePa.toInt = exactPressure 500000 tenBar unitCalibration) ↔
      StatusFault 0x40 ∨ ¬ CheckedStepsFit 500000 tenBar unitCalibration ∨
        PressureFits 500000 tenBar unitCalibration :=
  pressureConvert_exact_iff 500000 0x40 tenBar unitCalibration rfl rfl (by decide)

/-- Ten thousand times a million pascals are published as their low word. -/
theorem pressureConvert_wraps :
    pressureConvert 1000000 0x40 tenBar { unitCalibration with gain := 10000 } =
        (.ok, 1410065408) ∧
      exactPressure 1000000 tenBar { unitCalibration with gain := 10000 } =
        10000000000 := by
  decide

end Swfpm
