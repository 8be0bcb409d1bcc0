import Swfpm.AutoCal.Calibrator
import Swfpm.Support.Int64Range

/-!
# The default configuration

Embedding of `MAX35103_AutoCalDefaultConfig`.  The arrival window, the launch
divider, the delay range and the direction limit are derived from the path
length and the transducer frequency; each of them comes out inside the bounds
that the calibrator checks, whatever the two inputs are.
-/

namespace Swfpm.AutoCal

/-! ## The derived values -/

/-- `AUTOCAL_PS_PER_DLY_TICK`. -/
def psPerDlyTick : Int64 := 250000

/-- `AUTOCAL_WATER_FAST_MPS` and `AUTOCAL_WATER_SLOW_MPS`. -/
def waterFastMps : UInt32 := 1600
def waterSlowMps : UInt32 := 1400

/-- `AUTOCAL_TOF_MARGIN_PS`. -/
def tofMarginPs : Int64 := 1000000

/-- `AUTOCAL_DLY_LEAD_PS` and `AUTOCAL_DLY_MAX_GUARD_PS`. -/
def dlyLeadPs : Int64 := 4000000
def dlyMaxGuardPs : Int64 := 1000000

/-- The time that sound of a speed takes over a distance. -/
def tofPs (acousticPathLengthUm speedMps : UInt32) : UInt64 :=
  acousticPathLengthUm.toUInt64 * 1000000 / speedMps.toUInt64

/-- The earliest expected arrival, at least one delay tick. -/
def defaultMinTofPs (acousticPathLengthUm : UInt32) : Int64 :=
  let expectedMinTofPs :=
    (tofPs acousticPathLengthUm waterFastMps).toInt64 - tofMarginPs
  if expectedMinTofPs < psPerDlyTick then psPerDlyTick else expectedMinTofPs

def defaultMaxTofPs (acousticPathLengthUm : UInt32) : Int64 :=
  (tofPs acousticPathLengthUm waterSlowMps).toInt64 + tofMarginPs

/-- The divider of 2 MHz nearest to the frequency, as the device encodes it. -/
def defaultDpl (transducerFrequencyHz : UInt32) : UInt8 :=
  let divider :=
    (2000000 + transducerFrequencyHz / 2) / transducerFrequencyHz
  let divider := if divider < 2 then 2 else divider
  let divider := if divider > 16 then 16 else divider
  (divider - 1).toUInt8

def defaultDlyMinPs (expectedMinTofPs : Int64) : Int64 :=
  let least := tofDelayMin.toUInt64.toInt64 * psPerDlyTick
  let dlyMinPs := expectedMinTofPs - dlyLeadPs
  if dlyMinPs < least then least else dlyMinPs

def defaultDlyMaxPs (expectedMinTofPs : Int64) : Int64 :=
  let dlyMinPs := defaultDlyMinPs expectedMinTofPs
  let dlyMaxPs := expectedMinTofPs - dlyMaxGuardPs
  if dlyMaxPs < dlyMinPs then dlyMinPs else dlyMaxPs

/-- Whole ticks of a delay, at most `UINT16_MAX`. -/
def dlyTicks (delayPs : Int64) : UInt16 :=
  let ticks := delayPs / psPerDlyTick
  let ticks := if ticks > 65535 then 65535 else ticks
  ticks.toUInt64.toUInt16

/-- Half a period of the transducer. -/
def defaultDirectionDeltaPs (transducerFrequencyHz : UInt32) : Int64 :=
  ((1000000000000 : UInt64) / transducerFrequencyHz.toUInt64 / 2).toInt64

/-- What an accepted call writes. -/
def defaultConfigFor (acousticPathLengthUm transducerFrequencyHz : UInt32) :
    Max35103AutoCalConfig :=
  let expectedMinTofPs := defaultMinTofPs acousticPathLengthUm
  let dpl := defaultDpl transducerFrequencyHz
  { acousticPathLengthUm := acousticPathLengthUm
    expectedMinTofPs := expectedMinTofPs
    expectedMaxTofPs := defaultMaxTofPs acousticPathLengthUm
    dplMin := if dpl > 1 then dpl - 1 else 1
    dplMax := if dpl < 15 then dpl + 1 else 15
    pulseCountMin := 8
    pulseCountMax := 24
    pulseCountStep := 4
    ctMask := 0x0F
    tryBothPolarities := true
    dlyMin := dlyTicks (defaultDlyMinPs expectedMinTofPs)
    dlyMax := dlyTicks (defaultDlyMaxPs expectedMinTofPs)
    dlyCoarseStep := 4
    dlyFineStep := 1
    initialOffsetMin := 0
    initialOffsetMax := 32
    initialOffsetCoarseStep := 4
    initialOffsetFineStep := 1
    returnOffsetMin := -16
    returnOffsetMax := 16
    returnOffsetStep := 4
    t2WaveMin := 2
    t2WaveMax := 10
    hitCountMin := 3
    hitCountMax := 6
    samplesPerCandidate := 16
    finalistSamples := 32
    verificationSamples := 128
    minValidRatePerMille := 900
    -- looser than the final rate, so that tuning can improve a marginal packet
    minTuningPhysicalRatePerMille := 625
    minPhysicalRatePerMille := 800
    minWaveValidRatePerMille := 900
    minWvrGoodRatePerMille := 750
    wvrT1T2MinQ7 := 1
    wvrT2IdealMinQ7 := 64
    wvrRatioMaxQ7 := 208
    maxTofMadPs := 250000
    maxDiffMadPs := 50000
    maxPeriodErrorPs := 350000
    maxDirectionDeltaPs := defaultDirectionDeltaPs transducerFrequencyHz
    maxCycleSlips := 20
    maxCycleSlipRatePerMille := 150
    requiredPerturbationPasses := 6
    maxConsecutiveDriverErrors := 8
    maxStageRetries := 1
    maxProfileFallbacks := 3
    maxBusyPolls := 1000
    zeroFlowConfirmed := false }

/-- `MAX35103_AutoCalDefaultConfig`: the status, and what `config` holds
afterwards. -/
def autoCalDefaultConfig (config : Max35103AutoCalConfig)
    (acousticPathLengthUm transducerFrequencyHz : UInt32) :
    Max35103AutoCalStatus × Max35103AutoCalConfig :=
  if acousticPathLengthUm = 0 ∨ transducerFrequencyHz = 0 then
    (.invalidArg, config)
  else (.ok, defaultConfigFor acousticPathLengthUm transducerFrequencyHz)

/-! ## The arrival window -/

open Int64Range

/-- Neither the product nor the conversion leaves its word. -/
theorem toInt_tofPs (path speed : UInt32) :
    (tofPs path speed).toInt64.toInt =
      (path.toNat * 1000000 / speed.toNat : ℕ) := by
  have hpath := path.toNat_lt
  have hproduct : (path.toUInt64 * 1000000).toNat = path.toNat * 1000000 := by
    rw [UInt64.toNat_mul, UInt32.toNat_toUInt64]
    apply Nat.mod_eq_of_lt
    change path.toNat * 1000000 < 2 ^ 64
    omega
  have hquotient : (tofPs path speed).toNat =
      path.toNat * 1000000 / speed.toNat := by
    rw [tofPs, UInt64.toNat_div, hproduct, UInt32.toNat_toUInt64]
  rw [toInt_toInt64_of_lt, hquotient]
  rw [hquotient]
  apply (Nat.div_le_self _ _).trans_lt
  omega

theorem toInt_defaultMinTofPs (path : UInt32) :
    (defaultMinTofPs path).toInt =
      max ((path.toNat : ℤ) * 625 - 1000000) 250000 := by
  have hpath := path.toNat_lt
  have hfast : (tofPs path waterFastMps).toInt64.toInt = path.toNat * 625 := by
    rw [toInt_tofPs]
    change ((path.toNat * 1000000 / 1600 : ℕ) : ℤ) = _
    omega
  have hless : ((tofPs path waterFastMps).toInt64 - tofMarginPs).toInt =
      path.toNat * 625 - 1000000 := by
    have hmargin : tofMarginPs.toInt = 1000000 := by decide
    rw [toInt_sub, hfast, hmargin]
    rw [hfast, hmargin]
    constructor <;> omega
  rw [defaultMinTofPs, toInt_raised, hless]
  rfl

theorem toInt_defaultMaxTofPs (path : UInt32) :
    (defaultMaxTofPs path).toInt =
      (path.toNat * 1000000 / 1400 : ℕ) + 1000000 := by
  have hpath := path.toNat_lt
  have hmargin : tofMarginPs.toInt = 1000000 := by decide
  have hslow : (tofPs path waterSlowMps).toInt64.toInt =
      (path.toNat * 1000000 / 1400 : ℕ) := toInt_tofPs path waterSlowMps
  rw [defaultMaxTofPs, toInt_add, hslow, hmargin]
  rw [hslow, hmargin]
  constructor <;> omega

theorem window_ordered (path : UInt32) :
    0 < defaultMinTofPs path ∧ defaultMinTofPs path < defaultMaxTofPs path := by
  rw [Int64.lt_iff_toInt_lt, Int64.lt_iff_toInt_lt, toInt_defaultMinTofPs,
    toInt_defaultMaxTofPs, Int64.toInt_zero]
  constructor <;> omega

/-! ## The divider -/

theorem defaultDpl_range (frequency : UInt32) :
    1 ≤ defaultDpl frequency ∧ defaultDpl frequency ≤ 15 := by
  unfold defaultDpl
  generalize (2000000 + frequency / 2) / frequency = divider
  dsimp only
  have hraised : 2 ≤ if divider < 2 then 2 else divider := by
    split_ifs with hbelow
    · exact UInt32.le_refl 2
    · exact UInt32.not_lt.mp hbelow
  generalize (if divider < 2 then 2 else divider) = raised at *
  have hcapped : 2 ≤ (if raised > 16 then 16 else raised) ∧
      (if raised > 16 then 16 else raised) ≤ 16 := by
    split_ifs with habove
    · decide
    · exact ⟨hraised, UInt32.not_lt.mp habove⟩
  generalize (if raised > 16 then 16 else raised) = capped at *
  rw [UInt32.le_iff_toNat_le, UInt32.le_iff_toNat_le] at hcapped
  change 2 ≤ capped.toNat ∧ capped.toNat ≤ 16 at hcapped
  have hvalue : (capped - 1).toUInt8.toNat = capped.toNat - 1 := by
    rw [UInt32.toNat_toUInt8, UInt32.toNat_sub_of_le]
    · change (capped.toNat - 1) % 256 = capped.toNat - 1
      omega
    · rw [UInt32.le_iff_toNat_le]
      change 1 ≤ capped.toNat
      omega
  rw [UInt8.le_iff_toNat_le, UInt8.le_iff_toNat_le, hvalue]
  change 1 ≤ _ ∧ _ ≤ 15
  omega

/-! ## The delay range -/

theorem toInt_defaultDlyMinPs {earliest : Int64} (hlow : 0 < earliest.toInt) :
    (defaultDlyMinPs earliest).toInt = max (earliest.toInt - 4000000) 4500000 := by
  have hword := (fits_toInt earliest).2
  have hless : (earliest - dlyLeadPs).toInt = earliest.toInt - 4000000 := by
    have hlead : dlyLeadPs.toInt = 4000000 := by decide
    rw [toInt_sub, hlead]
    rw [hlead]
    constructor <;> omega
  rw [defaultDlyMinPs, toInt_raised, hless]
  rfl

theorem toInt_defaultDlyMaxPs {earliest : Int64} (hlow : 0 < earliest.toInt) :
    (defaultDlyMaxPs earliest).toInt =
      max (earliest.toInt - 1000000) (defaultDlyMinPs earliest).toInt := by
  have hword := (fits_toInt earliest).2
  have hless : (earliest - dlyMaxGuardPs).toInt = earliest.toInt - 1000000 := by
    have hguard : dlyMaxGuardPs.toInt = 1000000 := by decide
    rw [toInt_sub, hguard]
    rw [hguard]
    constructor <;> omega
  rw [defaultDlyMaxPs, toInt_raised, hless]

theorem toNat_dlyTicks {delay : Int64} (hlow : 0 ≤ delay.toInt) :
    (dlyTicks delay).toNat = min (delay.toInt / 250000) 65535 := by
  have hticks : (delay / psPerDlyTick).toInt = delay.toInt / 250000 := by
    rw [toInt_div (by decide)]
    exact Int.tdiv_eq_ediv_of_nonneg hlow
  have hmost : (65535 : Int64).toInt = 65535 := by decide
  rw [dlyTicks, toNat_toUInt16] <;> rw [toInt_capped, hticks, hmost]
  · omega
  · omega

theorem delays_ordered {earliest : Int64} (hlow : 0 < earliest.toInt) :
    tofDelayMin ≤ dlyTicks (defaultDlyMinPs earliest) ∧
      dlyTicks (defaultDlyMinPs earliest) ≤
        dlyTicks (defaultDlyMaxPs earliest) := by
  have hmin := toInt_defaultDlyMinPs hlow
  have hmax := toInt_defaultDlyMaxPs hlow
  have hfirst := toNat_dlyTicks (show 0 ≤ (defaultDlyMinPs earliest).toInt by omega)
  have hlast := toNat_dlyTicks (show 0 ≤ (defaultDlyMaxPs earliest).toInt by omega)
  rw [UInt16.le_iff_toNat_le, UInt16.le_iff_toNat_le]
  change 18 ≤ _ ∧ _
  constructor <;> omega

/-! ## The direction limit -/

theorem directionDelta_pos {frequency : UInt32} (hfrequency : frequency ≠ 0) :
    0 < defaultDirectionDeltaPs frequency := by
  have hword := frequency.toNat_lt
  have hpos : 0 < frequency.toNat := by
    rw [Nat.pos_iff_ne_zero]
    intro hzero
    exact hfrequency (UInt32.toNat_inj.mp hzero)
  have hvalue : ((1000000000000 : UInt64) / frequency.toUInt64 / 2).toNat =
      1000000000000 / frequency.toNat / 2 := by
    rw [UInt64.toNat_div, UInt64.toNat_div, UInt32.toNat_toUInt64]
    rfl
  have hperiod : 2 ≤ 1000000000000 / frequency.toNat := by
    rw [Nat.le_div_iff_mul_le hpos]
    omega
  have hsmall : 1000000000000 / frequency.toNat ≤ 1000000000000 :=
    Nat.div_le_self _ _
  rw [Int64.lt_iff_toInt_lt, defaultDirectionDeltaPs, toInt_toInt64_of_lt,
    hvalue, Int64.toInt_zero]
  · omega
  · rw [hvalue]
    omega

/-! ## The whole configuration -/

/-- The launch range around an encodable divider. -/
theorem dplRange_valid {dpl : UInt8} (hrange : 1 ≤ dpl ∧ dpl ≤ 15) :
    (if dpl > 1 then dpl - 1 else 1) ≠ 0 ∧
      ¬ (if dpl < 15 then dpl + 1 else 15) > 15 ∧
      ¬ (if dpl < 15 then dpl + 1 else 15) < if dpl > 1 then dpl - 1 else 1 := by
  revert dpl
  decide +kernel

/-- What depends on the inputs passes its check by the bounds above, and every
other value by itself. -/
theorem defaultConfigFor_valid {path frequency : UInt32} {capacity : UInt16}
    (hpath : path ≠ 0) (hfrequency : frequency ≠ 0) (hcapacity : 128 ≤ capacity) :
    configValid (defaultConfigFor path frequency) capacity = true := by
  obtain ⟨hearliest, hwindow⟩ := window_ordered path
  obtain ⟨hleast, hdelays⟩ := delays_ordered (pos_iff.mp hearliest)
  obtain ⟨hdplMin, hdplMax, hdpl⟩ := dplRange_valid (defaultDpl_range frequency)
  have hdelta := directionDelta_pos hfrequency
  rw [← Int64.not_le] at hearliest hwindow hdelta
  rw [← UInt16.not_lt] at hleast hdelays
  have hsamples : ∀ samples : UInt16, samples ≤ 128 → ¬ samples > capacity :=
    fun samples hsamples ↦ UInt16.not_lt.mpr (UInt16.le_trans hsamples hcapacity)
  have hshort := hsamples 16 (by decide)
  have hmiddle := hsamples 32 (by decide)
  have hlong := hsamples 128 (by decide)
  apply if_neg
  dsimp only [defaultConfigFor]
  simp only [not_or]
  and_intros
  all_goals first | with_reducible assumption | decide

theorem default_usable (config : Max35103AutoCalConfig)
    {path frequency : UInt32} {capacity : UInt16} (hpath : path ≠ 0)
    (hfrequency : frequency ≠ 0) (hcapacity : 128 ≤ capacity) :
    (autoCalDefaultConfig config path frequency).1 = .ok ∧
      configValid (autoCalDefaultConfig config path frequency).2 capacity =
        true := by
  have haccepted : ¬ (path = 0 ∨ frequency = 0) :=
    not_or.mpr ⟨hpath, hfrequency⟩
  rw [autoCalDefaultConfig, if_neg haccepted]
  exact ⟨rfl, defaultConfigFor_valid hpath hfrequency hcapacity⟩

/-- The longest path and the highest frequency that the arguments can name, into
a configuration that held defaults before. -/
theorem default_usable_longest :
    (autoCalDefaultConfig (defaultConfigFor 1 1) 0xFFFFFFFF 0xFFFFFFFF).1 = .ok ∧
      configValid
        (autoCalDefaultConfig (defaultConfigFor 1 1) 0xFFFFFFFF 0xFFFFFFFF).2
        128 = true :=
  default_usable _ (by decide) (by decide) (by decide)

end Swfpm.AutoCal
