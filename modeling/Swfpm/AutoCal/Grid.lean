import Swfpm.AutoCal.Candidates
import Swfpm.AutoCal.Registers
import Swfpm.Support.Grid

/-!
# The grids of the search stages

A stage owns some fields of a profile and searches a range of each of them; its
grid is the product of these ranges, with the base profile in all other fields.
The candidate indices of the stage enumerate the grid.
-/

namespace Swfpm.AutoCal

open Grid

/-! ## Fields, bounds and grids -/

/-- The register fields that the stages tune. -/
inductive TunedField where
  | dpl
  | pulseCount
  | ct
  | stopPolarity
  | delay
  | initialOffsetUp
  | initialOffsetDown
  | returnOffsetUp
  | returnOffsetDown
  | t2Wave
  | hitCount
  deriving DecidableEq, Repr

instance : Fintype TunedField where
  elems := {.dpl, .pulseCount, .ct, .stopPolarity, .delay, .initialOffsetUp,
    .initialOffsetDown, .returnOffsetUp, .returnOffsetDown, .t2Wave, .hitCount}
  complete := by intro field; cases field <;> decide

/-- The value of a field, as a number. -/
def readField (profile : Max35103Profile) : TunedField → ℤ
  | .dpl => (profileDpl profile).toNat
  | .pulseCount => (profilePulseCount profile).toNat
  | .ct => (profile.tof1 &&& 0x0003).toNat
  | .stopPolarity => (profileStopPolarity profile).toNat
  | .delay => profile.tofMeasurementDelay.toNat
  | .initialOffsetUp => (profileInitialOffset profile.tof6).toNat
  | .initialOffsetDown => (profileInitialOffset profile.tof7).toNat
  | .returnOffsetUp => (profileReturnOffset profile.tof6).toInt
  | .returnOffsetDown => (profileReturnOffset profile.tof7).toInt
  | .t2Wave => (profileT2 profile).toNat
  | .hitCount => (configuredHitCount profile).toNat

/-- The values that the configuration allows a field. -/
def bounds (config : Max35103AutoCalConfig) : TunedField → Set ℤ
  | .dpl => Set.Icc config.dplMin.toNat config.dplMax.toNat
  | .pulseCount => Set.Icc config.pulseCountMin.toNat config.pulseCountMax.toNat
  | .ct => {value | ∃ ct ∈ enabledCts config.ctMask, value = ct.toNat}
  | .stopPolarity => {0, 1}
  | .delay => Set.Icc config.dlyMin.toNat config.dlyMax.toNat
  | .initialOffsetUp | .initialOffsetDown =>
      Set.Icc config.initialOffsetMin.toNat config.initialOffsetMax.toNat
  | .returnOffsetUp | .returnOffsetDown =>
      Set.Icc config.returnOffsetMin.toInt config.returnOffsetMax.toInt
  | .t2Wave => Set.Icc config.t2WaveMin.toNat config.t2WaveMax.toNat
  | .hitCount => Set.Icc config.hitCountMin.toNat config.hitCountMax.toNat

/-- The stages that search a grid. -/
def searches : Max35103AutoCalState → Bool
  | .discovery | .biasCharge | .dlyFine | .offsetUpCoarse | .offsetUpFine
  | .offsetDownCoarse | .offsetDownFine | .waveSelect | .returnUp
  | .returnDown => true
  | _ => false

/-- The fields that a stage owns. -/
def owns : Max35103AutoCalState → TunedField → Bool
  | .discovery, .dpl | .discovery, .pulseCount | .discovery, .ct
  | .discovery, .stopPolarity | .discovery, .delay | .discovery, .t2Wave
  | .discovery, .hitCount => true
  | .biasCharge, .ct => true
  | .dlyFine, .delay => true
  | .offsetUpCoarse, .initialOffsetUp | .offsetUpFine, .initialOffsetUp => true
  | .offsetDownCoarse, .initialOffsetDown
  | .offsetDownFine, .initialOffsetDown => true
  | .waveSelect, .t2Wave | .waveSelect, .hitCount => true
  | .returnUp, .returnOffsetUp => true
  | .returnDown, .returnOffsetDown => true
  | _, _ => false

/-- The values around a center in steps, within bounds. -/
def around (low high center radius step : ℤ) : Set ℤ :=
  stepped (max low (min high (center - radius)))
    (max low (min high (center + radius))) step

/-- The range of a field in a stage: one value where the stage does not own it. -/
def axis (config : Max35103AutoCalConfig) (base : Max35103Profile) :
    Max35103AutoCalState → TunedField → Set ℤ
  | .discovery, .dpl => stepped config.dplMin.toNat config.dplMax.toNat 1
  | .discovery, .pulseCount =>
      stepped config.pulseCountMin.toNat config.pulseCountMax.toNat
        config.pulseCountStep.toNat
  | .discovery, .ct | .biasCharge, .ct => bounds config .ct
  | .discovery, .stopPolarity =>
      if config.tryBothPolarities then {0, 1}
      else {readField base .stopPolarity}
  | .discovery, .delay =>
      stepped config.dlyMin.toNat config.dlyMax.toNat config.dlyCoarseStep.toNat
  | .discovery, .t2Wave => {(config.t2WaveMin.toNat : ℤ)}
  | .discovery, .hitCount =>
      {min (config.hitCountMax.toNat : ℤ) (max 3 config.hitCountMin.toNat)}
  | .dlyFine, .delay =>
      around config.dlyMin.toNat config.dlyMax.toNat (readField base .delay)
        config.dlyCoarseStep.toNat config.dlyFineStep.toNat
  | .offsetUpCoarse, .initialOffsetUp | .offsetDownCoarse, .initialOffsetDown =>
      stepped config.initialOffsetMin.toNat config.initialOffsetMax.toNat
        config.initialOffsetCoarseStep.toNat
  | .offsetUpFine, .initialOffsetUp =>
      around config.initialOffsetMin.toNat config.initialOffsetMax.toNat
        (readField base .initialOffsetUp) config.initialOffsetCoarseStep.toNat
        config.initialOffsetFineStep.toNat
  | .offsetDownFine, .initialOffsetDown =>
      around config.initialOffsetMin.toNat config.initialOffsetMax.toNat
        (readField base .initialOffsetDown) config.initialOffsetCoarseStep.toNat
        config.initialOffsetFineStep.toNat
  | .waveSelect, .t2Wave => stepped config.t2WaveMin.toNat config.t2WaveMax.toNat 1
  | .waveSelect, .hitCount =>
      stepped config.hitCountMin.toNat config.hitCountMax.toNat 1
  | .returnUp, .returnOffsetUp | .returnDown, .returnOffsetDown =>
      stepped config.returnOffsetMin.toInt config.returnOffsetMax.toInt
        config.returnOffsetStep.toNat
  | _, field => {readField base field}

/-- The points that a stage searches. -/
def stageGrid (config : Max35103AutoCalConfig) (base : Max35103Profile)
    (state : Max35103AutoCalState) : Set (TunedField → ℤ) :=
  Set.univ.pi (axis config base state)

/-! ## What an accepted configuration provides -/

/-- The ranges that the stages search are not empty and fit their fields. -/
structure SearchRanges (config : Max35103AutoCalConfig) : Prop where
  dpl : config.dplMin.toNat ≤ config.dplMax.toNat
  dplField : config.dplMax.toNat ≤ 15
  pulseCount : config.pulseCountMin.toNat ≤ config.pulseCountMax.toNat
  pulseCountField : config.pulseCountMax.toNat ≤ 127
  pulseCountStep : 0 < config.pulseCountStep.toNat
  delay : config.dlyMin.toNat ≤ config.dlyMax.toNat
  delayCoarseStep : 0 < config.dlyCoarseStep.toNat
  delayFineStep : 0 < config.dlyFineStep.toNat
  offset : config.initialOffsetMin.toNat ≤ config.initialOffsetMax.toNat
  offsetField : config.initialOffsetMax.toNat ≤ 127
  offsetCoarseStep : 0 < config.initialOffsetCoarseStep.toNat
  offsetFineStep : 0 < config.initialOffsetFineStep.toNat
  returnOffset : config.returnOffsetMin.toInt ≤ config.returnOffsetMax.toInt
  returnOffsetStep : 0 < config.returnOffsetStep.toNat
  t2WaveField : 2 ≤ config.t2WaveMin.toNat
  t2Wave : config.t2WaveMin.toNat ≤ config.t2WaveMax.toNat
  t2WaveLast : config.t2WaveMax.toNat ≤ 57
  hitCountField : 2 ≤ config.hitCountMin.toNat
  hitCount : config.hitCountMin.toNat ≤ config.hitCountMax.toNat
  hitCountLast : config.hitCountMax.toNat ≤ 6

theorem searchRanges_of_valid {config : Max35103AutoCalConfig}
    {capacity : UInt16} (hvalid : configValid config capacity = true) :
    SearchRanges config := by
  have hpositive8 : ∀ {step : UInt8}, ¬ step = 0 → 0 < step.toNat :=
    fun hne ↦ Nat.pos_of_ne_zero fun hzero ↦ hne (UInt8.toNat_inj.mp hzero)
  have hpositive16 : ∀ {step : UInt16}, ¬ step = 0 → 0 < step.toNat :=
    fun hne ↦ Nat.pos_of_ne_zero fun hzero ↦ hne (UInt16.toNat_inj.mp hzero)
  have hle8 : ∀ {a b : UInt8}, ¬ a > b → a.toNat ≤ b.toNat :=
    fun hle ↦ UInt8.le_iff_toNat_le.mp (UInt8.not_lt.mp hle)
  have hle16 : ∀ {a b : UInt16}, ¬ a > b → a.toNat ≤ b.toNat :=
    fun hle ↦ UInt16.le_iff_toNat_le.mp (UInt16.not_lt.mp hle)
  have hle : ∀ {a b : Int8}, ¬ a > b → a.toInt ≤ b.toInt :=
    fun hle ↦ Int8.le_iff_toInt_le.mp (Int8.not_lt.mp hle)
  simp only [configValid] at hvalid
  split at hvalid
  · exact absurd hvalid (by decide)
  next hall =>
  simp only [not_or] at hall
  obtain ⟨-, -, -, -, hdplMax, hdpl, -, hpulseMax, hpulse, hpulseStep, -, -, hdly,
    hdlyCoarse, hdlyFine, hoffsetMax, hoffset, hoffsetCoarse, hoffsetFine,
    hreturn, hreturnStep, ht2Min, ht2Max, ht2, hhitMin, hhitMax, hhit, -⟩ := hall
  exact
    { dpl := hle8 hdpl
      dplField := hle8 hdplMax
      pulseCount := hle8 hpulse
      pulseCountField := hle8 hpulseMax
      pulseCountStep := hpositive8 hpulseStep
      delay := hle16 hdly
      delayCoarseStep := hpositive16 hdlyCoarse
      delayFineStep := hpositive16 hdlyFine
      offset := hle8 hoffset
      offsetField := hle8 hoffsetMax
      offsetCoarseStep := hpositive8 hoffsetCoarse
      offsetFineStep := hpositive8 hoffsetFine
      returnOffset := hle hreturn
      returnOffsetStep := hpositive8 hreturnStep
      t2WaveField := hle8 ht2Min
      t2Wave := hle8 ht2
      t2WaveLast := hle8 ht2Max
      hitCountField := hle8 hhitMin
      hitCount := hle8 hhit
      hitCountLast := hle8 hhitMax }

/-! ## Counts -/

theorem rangeCountU32_toNat (minimum maximum step : UInt32)
    (hstep : 0 < step.toNat) (hrange : minimum.toNat ≤ maximum.toNat)
    (hsmall : maximum.toNat < 2 ^ 31) :
    (rangeCountU32 minimum maximum step).toNat =
      (((maximum.toNat : ℤ) - minimum.toNat) / step.toNat + 1).toNat := by
  have hzero : ¬ (step = 0 ∨ maximum < minimum) := by
    rintro (rfl | hlt)
    · exact Nat.lt_irrefl 0 hstep
    · exact absurd (UInt32.lt_iff_toNat_lt.mp hlt) (Nat.not_lt.mpr hrange)
  have hquotient := Nat.div_le_self (maximum.toNat - minimum.toNat) step.toNat
  have hcast : ((maximum.toNat : ℤ) - minimum.toNat) / step.toNat =
      ((maximum.toNat - minimum.toNat) / step.toNat : ℕ) := by
    rw [← Nat.cast_sub hrange]
    rfl
  rw [rangeCountU32, if_neg hzero, UInt32.toNat_add, UInt32.toNat_div,
    UInt32.toNat_sub_of_le _ _ (UInt32.le_iff_toNat_le.mpr hrange), hcast]
  generalize (maximum.toNat - minimum.toNat) / step.toNat = quotient at *
  change (quotient + 1) % 2 ^ 32 = _
  omega

theorem rangeCountU32_le {minimum maximum step : UInt32}
    (hsmall : maximum.toNat < 2 ^ 31) :
    (rangeCountU32 minimum maximum step).toNat ≤ maximum.toNat + 1 := by
  rw [rangeCountU32]
  split_ifs with hempty
  · exact Nat.zero_le _
  · have hrange : minimum ≤ maximum := UInt32.not_lt.mp fun h ↦ hempty (.inr h)
    have hquotient :=
      Nat.div_le_self (maximum.toNat - minimum.toNat) step.toNat
    rw [UInt32.toNat_add, UInt32.toNat_div, UInt32.toNat_sub_of_le _ _ hrange]
    generalize (maximum.toNat - minimum.toNat) / step.toNat = quotient at *
    change (quotient + 1) % 2 ^ 32 ≤ _
    omega

theorem multiplyCount_toNat (left right : UInt32)
    (hsmall : left.toNat * right.toNat < 2 ^ 32) :
    (multiplyCount left right).toNat = left.toNat * right.toNat := by
  rw [multiplyCount]
  split_ifs with hzero hbig
  · rcases hzero with rfl | rfl
    · exact (Nat.zero_mul _).symm
    · exact (Nat.mul_zero _).symm
  · exfalso
    rw [not_or] at hzero
    have hright : 0 < right.toNat :=
      Nat.pos_of_ne_zero fun h ↦ hzero.2 (UInt32.toNat_inj.mp h)
    have hquotient := UInt32.lt_iff_toNat_lt.mp hbig
    rw [UInt32.toNat_div] at hquotient
    have := (Nat.div_lt_iff_lt_mul hright).mp hquotient
    change 2 ^ 32 - 1 < _ at this
    omega
  · rw [UInt32.toNat_mul, Nat.mod_eq_of_lt hsmall]

theorem addCount_one_toNat {count : UInt32} (hsmall : count.toNat < 2 ^ 32 - 1) :
    (addCount count 1).toNat = count.toNat + 1 := by
  have hfits : ¬ count > 0xFFFFFFFF - 1 := by
    rw [gt_iff_lt, UInt32.lt_iff_toNat_lt]
    change ¬ 2 ^ 32 - 2 < count.toNat
    omega
  rw [addCount, if_neg hfits, UInt32.toNat_add]
  exact Nat.mod_eq_of_lt (by change count.toNat + 1 < _; omega)

theorem popcount4_toNat (mask : UInt8) :
    (popcount4 mask).toUInt32.toNat = (enabledCts mask).length := by
  have hfour : (enabledCts mask).length ≤ 4 := List.length_filter_le _ _
  rw [popcount4, UInt8.toNat_toUInt32, UInt8.toNat_ofNat',
    Nat.mod_eq_of_lt (by omega)]

/-! ## Axes -/

theorem decodes_stepped (low high step : UInt32) (hstep : 0 < step.toNat)
    (hrange : low.toNat ≤ high.toNat) (hsmall : high.toNat < 2 ^ 31) :
    Decodes (rangeCountU32 low high step).toNat
      (fun index ↦ ((low + index * step).toNat : ℤ))
      (stepped low.toNat high.toNat step.toNat) := by
  have hcount := rangeCountU32_toNat low high step hstep hrange hsmall
  have hsteps : (0 : ℤ) < step.toNat := by omega
  have hvalues : (low.toNat : ℤ) ≤ high.toNat := by omega
  refine ⟨_, hcount ▸ enumerates_stepped hsteps hvalues, fun index hindex ↦ ?_⟩
  have hlast := (index_lt_iff hsteps hvalues index.toNat).mp (hcount ▸ hindex)
  have hterm : low.toNat + index.toNat * step.toNat ≤ high.toNat := by
    exact_mod_cast hlast
  have hproduct : (index * step).toNat = index.toNat * step.toNat := by
    rw [UInt32.toNat_mul, Nat.mod_eq_of_lt (by omega)]
  have hsum : (low + index * step).toNat = low.toNat + index.toNat * step.toNat := by
    rw [UInt32.toNat_add, hproduct, Nat.mod_eq_of_lt (by omega)]
  simp only [hsum]
  push_cast
  rfl

theorem decodes_steppedU16 {low high step : UInt16} (hstep : 0 < step.toNat)
    (hrange : low.toNat ≤ high.toNat) :
    Decodes (rangeCountU32 low.toUInt32 high.toUInt32 step.toUInt32).toNat
      (fun index ↦
        ((low.toUInt32 + index * step.toUInt32).toUInt16.toNat : ℤ))
      (stepped low.toNat high.toNat step.toNat) := by
  have hhigh := high.toNat_lt
  have hwide := decodes_stepped low.toUInt32 high.toUInt32 step.toUInt32 hstep
    hrange (by rw [UInt16.toNat_toUInt32]; omega)
  refine hwide.congr fun index hindex ↦ ?_
  have hfits := (stepped_subset (Int.natCast_nonneg _) hindex).2
  rw [UInt32.toNat_toUInt16, Nat.mod_eq_of_lt]
  rw [UInt16.toNat_toUInt32] at hfits
  omega

theorem decodes_steppedU8 {low high step : UInt8} (hstep : 0 < step.toNat)
    (hrange : low.toNat ≤ high.toNat) :
    Decodes (rangeCountU32 low.toUInt32 high.toUInt32 step.toUInt32).toNat
      (fun index ↦
        ((low.toUInt32 + index * step.toUInt32).toUInt8.toNat : ℤ))
      (stepped low.toNat high.toNat step.toNat) := by
  have hhigh := high.toNat_lt
  have hwide := decodes_stepped low.toUInt32 high.toUInt32 step.toUInt32 hstep
    hrange (by rw [UInt8.toNat_toUInt32]; omega)
  refine hwide.congr fun index hindex ↦ ?_
  have hfits := (stepped_subset (Int.natCast_nonneg _) hindex).2
  rw [UInt32.toNat_toUInt8, Nat.mod_eq_of_lt]
  rw [UInt8.toNat_toUInt32] at hfits
  omega

/-- A range without gaps. -/
theorem decodes_consecutive {low high : UInt8}
    (hrange : low.toNat ≤ high.toNat) :
    Decodes (rangeCountU32 low.toUInt32 high.toUInt32 1).toNat
      (fun index ↦ ((low.toUInt32 + index).toUInt8.toNat : ℤ))
      (stepped low.toNat high.toNat 1) := by
  have hone : 0 < (1 : UInt8).toNat := by decide
  refine (decodes_steppedU8 hone hrange).congr fun index _ ↦ ?_
  change ((low.toUInt32 + index).toUInt8.toNat : ℤ) =
    (low.toUInt32 + index * 1).toUInt8.toNat
  rw [mul_one]

theorem decodes_ct (config : Max35103AutoCalConfig) :
    Decodes (popcount4 config.ctMask).toUInt32.toNat
      (fun index ↦ ((ctFromIndex config.ctMask index).toNat : ℤ))
      (bounds config .ct) := by
  have hnodup : (enabledCts config.ctMask).Nodup := by
    apply List.Nodup.filter
    decide
  have hlist := enumerates_list hnodup 0
  refine ⟨_, (popcount4_toNat config.ctMask).symm ▸
    hlist.map (f := fun ct : UInt8 ↦ (ct.toNat : ℤ)) ⟨?_, ?_, ?_⟩,
    fun index _ ↦ rfl⟩
  · intro ct hct
    exact ⟨ct, hct, rfl⟩
  · intro ct _ other _ heq
    exact UInt8.toNat_inj.mp (Int.ofNat_inj.mp heq)
  · rintro value ⟨ct, hct, rfl⟩
    exact ⟨ct, hct, rfl⟩

/-- Both polarities, or the one of the base profile. -/
theorem decodes_polarity (both stopPolarity : Bool) :
    Decodes (if both then (2 : UInt32) else 1).toNat
      (fun index ↦
        ((if both then decide (index ≠ 0) else stopPolarity).toNat : ℤ))
      (if both then {0, 1} else {(stopPolarity.toNat : ℤ)}) := by
  cases both with
  | false =>
      exact ⟨_, enumerates_singleton (stopPolarity.toNat : ℤ), fun _ _ ↦ rfl⟩
  | true =>
      have hlist := enumerates_list (by decide : [(0 : ℤ), 1].Nodup) 0
      have hset : {value : ℤ | value ∈ [(0 : ℤ), 1]} = {0, 1} := by
        ext value
        simp only [Set.mem_ofPred_eq, List.mem_cons, List.not_mem_nil, or_false,
          Set.mem_insert_iff, Set.mem_singleton_iff]
      refine ⟨_, hset ▸ hlist, fun index hindex ↦ ?_⟩
      change index.toNat < 2 at hindex
      by_cases hzero : index = 0
      · subst hzero
        rfl
      · have hne : index.toNat ≠ 0 := fun h ↦ hzero (UInt32.toNat_inj.mp h)
        have hone : index.toNat = 1 := by omega
        rw [hone]
        simp [hzero]

theorem ctFromIndex_lt (mask : UInt8) (index : UInt32) :
    (ctFromIndex mask index).toNat < 4 := by
  rw [ctFromIndex]
  by_cases hindex : index.toNat < (enabledCts mask).length
  · rw [List.getD_eq_getElem _ _ hindex]
    have hmem := List.mem_of_mem_filter (List.getElem_mem hindex)
    generalize (enabledCts mask)[index.toNat] = ct at hmem ⊢
    fin_cases hmem <;> decide
  · rw [List.getD_eq_default _ _ (Nat.not_lt.mp hindex)]
    decide

theorem clampU16_toNat (value : ℤ) {minimum maximum : UInt16}
    (hrange : minimum.toNat ≤ maximum.toNat) :
    ((clampU16 value minimum maximum).toNat : ℤ) =
      max (minimum.toNat : ℤ) (min (maximum.toNat : ℤ) value) := by
  have hmaximum := maximum.toNat_lt
  rw [clampU16]
  split_ifs with hlow hhigh
  · omega
  · omega
  · rw [UInt16.toNat_ofNat', Nat.mod_eq_of_lt (by omega)]
    omega

theorem clampU8_toNat (value : ℤ) {minimum maximum : UInt8}
    (hrange : minimum.toNat ≤ maximum.toNat) :
    ((clampU8 value minimum maximum).toNat : ℤ) =
      max (minimum.toNat : ℤ) (min (maximum.toNat : ℤ) value) := by
  have hmaximum := maximum.toNat_lt
  rw [clampU8]
  split_ifs with hlow hhigh
  · omega
  · omega
  · rw [UInt8.toNat_ofNat', Nat.mod_eq_of_lt (by omega)]
    omega

/-- The bounds of a fine search as the specification has them. -/
theorem stepped_fineRangeU16 {config : Max35103AutoCalConfig}
    (hranges : SearchRanges config) (center radius : UInt16) (step : ℤ) :
    stepped (fineRangeU16 config center radius).1.toNat
        (fineRangeU16 config center radius).2.toNat step =
      around config.dlyMin.toNat config.dlyMax.toNat center.toNat radius.toNat
        step := by
  rw [around, fineRangeU16, clampU16_toNat _ hranges.delay,
    clampU16_toNat _ hranges.delay]

theorem stepped_fineRangeU8 {config : Max35103AutoCalConfig}
    (hranges : SearchRanges config) (center radius : UInt8) (step : ℤ) :
    stepped (fineRangeU8 config center radius).1.toNat
        (fineRangeU8 config center radius).2.toNat step =
      around config.initialOffsetMin.toNat config.initialOffsetMax.toNat
        center.toNat radius.toNat step := by
  rw [around, fineRangeU8, clampU8_toNat _ hranges.offset,
    clampU8_toNat _ hranges.offset]

theorem decodes_fineDelay {config : Max35103AutoCalConfig}
    (hranges : SearchRanges config) (center : UInt16) :
    Decodes (rangeCountU32
        (fineRangeU16 config center config.dlyCoarseStep).1.toUInt32
        (fineRangeU16 config center config.dlyCoarseStep).2.toUInt32
        config.dlyFineStep.toUInt32).toNat
      (fun index ↦
        (((fineRangeU16 config center config.dlyCoarseStep).1.toUInt32 +
          index * config.dlyFineStep.toUInt32).toUInt16.toNat : ℤ))
      (around config.dlyMin.toNat config.dlyMax.toNat center.toNat
        config.dlyCoarseStep.toNat config.dlyFineStep.toNat) := by
  rw [← stepped_fineRangeU16 hranges]
  apply decodes_steppedU16 hranges.delayFineStep
  have hlow := clampU16_toNat (center.toNat - config.dlyCoarseStep.toNat)
    hranges.delay
  have hhigh := clampU16_toNat (center.toNat + config.dlyCoarseStep.toNat)
    hranges.delay
  simp only [fineRangeU16]
  omega

theorem decodes_fineOffset {config : Max35103AutoCalConfig}
    (hranges : SearchRanges config) (word : UInt16) :
    Decodes (fineOffsetCount config word).toNat
      (fun index ↦ ((fineOffset config word index).toNat : ℤ))
      (around config.initialOffsetMin.toNat config.initialOffsetMax.toNat
        (profileInitialOffset word).toNat config.initialOffsetCoarseStep.toNat
        config.initialOffsetFineStep.toNat) := by
  rw [← stepped_fineRangeU8 hranges]
  apply decodes_steppedU8 hranges.offsetFineStep
  have hlow := clampU8_toNat ((profileInitialOffset word).toNat -
    config.initialOffsetCoarseStep.toNat) hranges.offset
  have hhigh := clampU8_toNat ((profileInitialOffset word).toNat +
    config.initialOffsetCoarseStep.toNat) hranges.offset
  simp only [fineRangeU8]
  omega

/-- A byte counted from -128. -/
theorem toNat_fromLowest (value : Int8) :
    ((value.toInt32 + 128).toUInt32.toNat : ℤ) = value.toInt + 128 := by
  have hlow := value.le_toInt
  have hhigh := value.toInt_lt
  have hsum : (value.toInt32 + 128).toInt = value.toInt + 128 := by
    rw [Int32.toInt_add, Int8.toInt_toInt32]
    change (value.toInt + 128).bmod (2 ^ 32) = _
    rw [Int.bmod_def]
    omega
  have hword := (value.toInt32 + 128).toUInt32.toNat_lt
  have hcases := BitVec.toInt_eq_toNat_cond
    (value.toInt32 + 128).toUInt32.toBitVec
  change (value.toInt32 + 128).toInt =
    if 2 * (value.toInt32 + 128).toUInt32.toNat < 2 ^ 32 then
      ((value.toInt32 + 128).toUInt32.toNat : ℤ)
    else ((value.toInt32 + 128).toUInt32.toNat : ℤ) - (2 ^ 32 : ℕ) at hcases
  split_ifs at hcases <;> omega

theorem decodes_returnOffset {config : Max35103AutoCalConfig}
    (hranges : SearchRanges config) :
    Decodes (returnOffsetCount config).toNat
      (fun index ↦ (returnOffsetAt config index).toInt)
      (stepped config.returnOffsetMin.toInt config.returnOffsetMax.toInt
        config.returnOffsetStep.toNat) := by
  have hlow := toNat_fromLowest config.returnOffsetMin
  have hhigh := toNat_fromLowest config.returnOffsetMax
  have hrange := hranges.returnOffset
  have hstep := hranges.returnOffsetStep
  have hbottom := config.returnOffsetMin.le_toInt
  have htop := config.returnOffsetMax.toInt_lt
  have hcount := rangeCountU32_toNat
    (config.returnOffsetMin.toInt32 + 128).toUInt32
    (config.returnOffsetMax.toInt32 + 128).toUInt32
    config.returnOffsetStep.toUInt32 hstep (by omega) (by omega)
  rw [hlow, hhigh, UInt8.toNat_toUInt32, add_sub_add_right_eq_sub] at hcount
  have hsteps : (0 : ℤ) < config.returnOffsetStep.toNat := by omega
  refine ⟨_, hcount ▸ enumerates_stepped hsteps hrange, fun index hindex ↦ ?_⟩
  have hlast := (index_lt_iff hsteps hrange index.toNat).mp (hcount ▸ hindex)
  have hterm : 0 ≤ (index.toNat : ℤ) * config.returnOffsetStep.toNat := by
    positivity
  have hproduct : ((index * config.returnOffsetStep.toUInt32).toNat : ℤ) =
      index.toNat * config.returnOffsetStep.toNat := by
    rw [UInt32.toNat_mul, UInt8.toNat_toUInt32, Nat.mod_eq_of_lt]
    · push_cast
      rfl
    · zify
      omega
  have hword : (index * config.returnOffsetStep.toUInt32).toInt32.toInt =
      index.toNat * config.returnOffsetStep.toNat := by
    change BitVec.toInt (index * config.returnOffsetStep.toUInt32).toBitVec = _
    rw [BitVec.toInt_eq_toNat_of_lt]
    · exact hproduct
    · change 2 * (index * config.returnOffsetStep.toUInt32).toNat < 2 ^ 32
      omega
  change (returnOffsetAt config index).toInt = _
  rw [returnOffsetAt, Int32.toInt_toInt8, Int32.toInt_add, Int8.toInt_toInt32,
    hword, Int.bmod_def, Int.bmod_def]
  omega

end Swfpm.AutoCal
