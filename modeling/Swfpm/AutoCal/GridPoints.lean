import Swfpm.AutoCal.OwnedBits

/-!
# The candidates of a stage as points

What the writers of a stage leave behind, read field by field, is the point of
the grid that the index decodes to.
-/

namespace Swfpm.AutoCal

open Grid

/-! ## What the writers change -/

section Writers

variable (profile : Max35103Profile)

open Function (update)

theorem ctField_toNat (profile : Max35103Profile) :
    (profile.tof1 &&& 0x0003).toNat = profile.tof1.toNat % 4 := by
  rw [UInt16.toNat_and]
  exact and_low_eq profile.tof1.toNat 2

theorem readField_setLaunch {dpl ct : UInt8} (pulseCount : UInt8)
    (stopPolarity : Bool) (hdpl : dpl.toNat < 16) (hct : ct.toNat < 4) :
    readField (setLaunch profile dpl pulseCount ct stopPolarity) =
      update (update (update (update (readField profile) .dpl dpl.toNat)
        .pulseCount pulseCount.toNat) .ct ct.toNat)
        .stopPolarity stopPolarity.toNat := by
  have hword := setLaunch_tof1 profile dpl pulseCount ct stopPolarity
  have hbit := stopPolarity.toNat_lt
  funext field
  cases field
  case dpl =>
    change ((profileDpl _).toNat : ℤ) = dpl.toNat
    rw [profileDpl_toNat, hword]
    omega
  case pulseCount =>
    change ((profilePulseCount _).toNat : ℤ) = pulseCount.toNat
    rw [profilePulseCount_toNat, hword]
    omega
  case ct =>
    change ((_ &&& (0x0003 : UInt16)).toNat : ℤ) = ct.toNat
    rw [ctField_toNat, hword]
    omega
  case stopPolarity =>
    change ((profileStopPolarity _).toNat : ℤ) = stopPolarity.toNat
    rw [profileStopPolarity_eq, hword]
    cases stopPolarity
    · rw [decide_eq_false (by simp only [Bool.toNat_false]; omega)]
    · rw [decide_eq_true (by simp only [Bool.toNat_true]; omega)]
  all_goals rfl

theorem readField_setDelay (delay : UInt16) :
    readField { profile with tofMeasurementDelay := delay } =
      update (readField profile) .delay delay.toNat := by
  funext field
  cases field <;> rfl

theorem readField_setWaveSequence {t2Wave hitCount : UInt8}
    (hearly : 2 ≤ t2Wave) (hlate : t2Wave ≤ 57) (hfew : 1 ≤ hitCount)
    (hmany : hitCount ≤ 6) :
    readField (setWaveSequence profile t2Wave hitCount) =
      update (update (readField profile) .t2Wave t2Wave.toNat)
        .hitCount hitCount.toNat := by
  funext field
  cases field
  case t2Wave =>
    exact congrArg _
      (profileT2_setWaveSequence profile hearly hlate hfew hmany)
  case hitCount =>
    exact congrArg _
      (configuredHitCount_setWaveSequence profile hearly hlate hfew hmany)
  all_goals rfl

theorem profileInitialOffset_le (word : UInt16) :
    profileInitialOffset word ≤ 127 := by
  rw [UInt8.le_iff_toNat_le, profileInitialOffset_toNat]
  change _ ≤ 127
  omega

theorem readField_initialOffsetUp {offset : UInt8} (hsmall : offset ≤ 127) :
    readField { profile with
        tof6 := offsetWord (profileReturnOffset profile.tof6) offset } =
      update (readField profile) .initialOffsetUp offset.toNat := by
  funext field
  cases field
  case initialOffsetUp =>
    exact congrArg (fun value : UInt8 ↦ (value.toNat : ℤ))
      (profileInitialOffset_offsetWord _ hsmall)
  case returnOffsetUp =>
    exact congrArg Int8.toInt (profileReturnOffset_offsetWord _ offset)
  all_goals rfl

theorem readField_initialOffsetDown {offset : UInt8} (hsmall : offset ≤ 127) :
    readField { profile with
        tof7 := offsetWord (profileReturnOffset profile.tof7) offset } =
      update (readField profile) .initialOffsetDown offset.toNat := by
  funext field
  cases field
  case initialOffsetDown =>
    exact congrArg (fun value : UInt8 ↦ (value.toNat : ℤ))
      (profileInitialOffset_offsetWord _ hsmall)
  case returnOffsetDown =>
    exact congrArg Int8.toInt (profileReturnOffset_offsetWord _ offset)
  all_goals rfl

theorem readField_returnOffsetUp (offset : Int8) :
    readField { profile with
        tof6 := offsetWord offset (profileInitialOffset profile.tof6) } =
      update (readField profile) .returnOffsetUp offset.toInt := by
  funext field
  cases field
  case initialOffsetUp =>
    exact congrArg (fun value : UInt8 ↦ (value.toNat : ℤ))
      (profileInitialOffset_offsetWord offset (profileInitialOffset_le _))
  case returnOffsetUp =>
    exact congrArg Int8.toInt (profileReturnOffset_offsetWord offset _)
  all_goals rfl

theorem readField_returnOffsetDown (offset : Int8) :
    readField { profile with
        tof7 := offsetWord offset (profileInitialOffset profile.tof7) } =
      update (readField profile) .returnOffsetDown offset.toInt := by
  funext field
  cases field
  case initialOffsetDown =>
    exact congrArg (fun value : UInt8 ↦ (value.toNat : ℤ))
      (profileInitialOffset_offsetWord offset (profileInitialOffset_le _))
  case returnOffsetDown =>
    exact congrArg Int8.toInt (profileReturnOffset_offsetWord offset _)
  all_goals rfl

end Writers

/-! ## The stages enumerate their grids -/

/-- The first index that is not reserved: DISCOVERY tests its base again. -/
def firstIndex : Max35103AutoCalState → UInt32
  | .discovery => 1
  | _ => 0

/-- The candidates of a stage, from its first index on, decode to its grid. -/
structure StagePoints (calibrator : Max35103AutoCalibrator) (count : ℕ)
    (point : UInt32 → TunedField → ℤ) : Prop where
  total : (candidateCount calibrator calibrator.state).toNat =
    (firstIndex calibrator.state).toNat + count
  grid : Decodes count point
    (stageGrid calibrator.config calibrator.stageBaseProfile calibrator.state)
  reads : ∀ index : UInt32, index.toNat < count →
    ∃ candidate,
      buildCandidate calibrator (index + firstIndex calibrator.state) =
          some candidate ∧
        readField candidate = point index ∧
        Tunes calibrator.state calibrator.stageBaseProfile candidate

section Stages

open Function (update)

variable {calibrator : Max35103AutoCalibrator}

theorem axis_of_not_owned (config : Max35103AutoCalConfig)
    (base : Max35103Profile) {state : Max35103AutoCalState} {field : TunedField}
    (howned : owns state field = false) :
    axis config base state field = {readField base field} := by
  cases state <;> cases field <;> first | rfl | cases howned

theorem stagePoints_of_grid {state : Max35103AutoCalState}
    (hstate : calibrator.state = state) {count : ℕ}
    {point : UInt32 → TunedField → ℤ} {axes : TunedField → Set ℤ}
    (hpoints : Decodes count point (Set.univ.pi axes))
    (haxes : axes = axis calibrator.config calibrator.stageBaseProfile state)
    (htotal : (candidateCount calibrator state).toNat =
      (firstIndex state).toNat + count)
    (hreads : ∀ index : UInt32, index.toNat < count →
      (∀ field, point index field ∈
        axis calibrator.config calibrator.stageBaseProfile state field) →
        ∃ candidate,
          buildCandidate calibrator (index + firstIndex state) =
              some candidate ∧
            readField candidate = point index ∧
            Tunes state calibrator.stageBaseProfile candidate) :
    ∃ count point, StagePoints calibrator count point := by
  subst hstate haxes
  exact ⟨count, point, htotal, hpoints, fun index hindex ↦
    hreads index hindex fun field ↦ hpoints.mem hindex field trivial⟩

/-- A stage that searches one field. -/
theorem stagePoints_of_axis {state : Max35103AutoCalState}
    (hstate : calibrator.state = state) (field : TunedField)
    (hfirst : firstIndex state = 0)
    (howns : ∀ other ≠ field, owns state other = false)
    (hwave : owns state .t2Wave = false) {word : UInt32 → ℤ}
    (haxis : Decodes (candidateCount calibrator state).toNat word
      (axis calibrator.config calibrator.stageBaseProfile state field))
    (hreads : ∀ index : UInt32, word index ∈
      axis calibrator.config calibrator.stageBaseProfile state field →
        ∃ candidate, buildCandidate calibrator index = some candidate ∧
          readField candidate =
            update (readField calibrator.stageBaseProfile) field (word index) ∧
          (ReservedClear calibrator.stageBaseProfile →
            (ownedBits state).clear candidate =
              (ownedBits state).clear calibrator.stageBaseProfile)) :
    ∃ count point, StagePoints calibrator count point := by
  apply stagePoints_of_grid hstate
    (haxis.axis (readField calibrator.stageBaseProfile) field)
  · funext other
    by_cases hother : other = field
    · subst hother
      rw [Function.update_self]
    · rw [Function.update_of_ne hother,
        axis_of_not_owned _ _ (howns other hother)]
  · rw [hfirst, UInt32.toNat_zero, Nat.zero_add]
  · intro index _ hmem
    rw [hfirst, UInt32.add_zero]
    obtain ⟨candidate, hbuilt, hread, houtside⟩ := hreads index
      (by simpa only [Function.update_self] using hmem field)
    exact ⟨candidate, hbuilt, hread, houtside, fun hwaves ↦
      absurd (hwave.symm.trans hwaves) Bool.false_ne_true⟩

theorem biasCharge_points (hstate : calibrator.state = .biasCharge) :
    ∃ count point, StagePoints calibrator count point := by
  apply stagePoints_of_axis hstate .ct rfl (by decide) rfl
    (decodes_ct calibrator.config)
  intro index _
  simp only [buildCandidate, hstate]
  refine ⟨_, rfl, ?_, fun hreserved ↦ clear_setCharge hreserved _⟩
  rw [readField_setLaunch _ _ _ (by rw [profileDpl_toNat]; omega)
    (ctFromIndex_lt _ index)]
  funext field
  cases field <;> rfl

theorem dlyFine_points (hranges : SearchRanges calibrator.config)
    (hstate : calibrator.state = .dlyFine) :
    ∃ count point, StagePoints calibrator count point := by
  apply stagePoints_of_axis hstate .delay rfl (by decide) rfl
    (decodes_fineDelay hranges calibrator.stageBaseProfile.tofMeasurementDelay)
  intro index _
  simp only [buildCandidate, hstate]
  exact ⟨_, rfl, readField_setDelay _ _, fun _ ↦ clear_setDelay _⟩

/-- The initial offsets that a search may try fit their field. -/
theorem offset_le {config : Max35103AutoCalConfig} (hranges : SearchRanges config)
    {offset : UInt8} (hoffset : (offset.toNat : ℤ) ∈
      bounds config .initialOffsetUp) : offset ≤ 127 := by
  have hfield := hranges.offsetField
  have hhigh := hoffset.2
  rw [UInt8.le_iff_toNat_le]
  change offset.toNat ≤ 127
  omega

theorem around_subset {low high center radius step : ℤ} (hstep : 0 ≤ step)
    (hrange : low ≤ high) :
    around low high center radius step ⊆ Set.Icc low high := by
  intro value hvalue
  have hinner := stepped_subset hstep hvalue
  exact ⟨(le_max_left _ _).trans hinner.1,
    hinner.2.trans (max_le hrange (min_le_left _ _))⟩

theorem offsetUpCoarse_points (hranges : SearchRanges calibrator.config)
    (hstate : calibrator.state = .offsetUpCoarse) :
    ∃ count point, StagePoints calibrator count point := by
  apply stagePoints_of_axis hstate .initialOffsetUp rfl (by decide) rfl
    (decodes_steppedU8 hranges.offsetCoarseStep hranges.offset)
  intro index hword
  simp only [buildCandidate, hstate]
  refine ⟨_, rfl, readField_initialOffsetUp _ ?_, fun hreserved ↦
    clear_tof6 (keep_initialOffset hreserved.tof6 _)⟩
  exact offset_le hranges (stepped_subset (Int.natCast_nonneg _) hword)

theorem offsetDownCoarse_points (hranges : SearchRanges calibrator.config)
    (hstate : calibrator.state = .offsetDownCoarse) :
    ∃ count point, StagePoints calibrator count point := by
  apply stagePoints_of_axis hstate .initialOffsetDown rfl (by decide) rfl
    (decodes_steppedU8 hranges.offsetCoarseStep hranges.offset)
  intro index hword
  simp only [buildCandidate, hstate]
  refine ⟨_, rfl, readField_initialOffsetDown _ ?_, fun hreserved ↦
    clear_tof7 (keep_initialOffset hreserved.tof7 _)⟩
  exact offset_le hranges (stepped_subset (Int.natCast_nonneg _) hword)

theorem fineOffset_le {config : Max35103AutoCalConfig}
    (hranges : SearchRanges config) {offset : UInt8} {center : ℤ}
    (hoffset : (offset.toNat : ℤ) ∈
      around config.initialOffsetMin.toNat config.initialOffsetMax.toNat center
        config.initialOffsetCoarseStep.toNat
        config.initialOffsetFineStep.toNat) : offset ≤ 127 := by
  have hrange : (config.initialOffsetMin.toNat : ℤ) ≤
      config.initialOffsetMax.toNat := by
    exact_mod_cast hranges.offset
  exact offset_le hranges (around_subset (Int.natCast_nonneg _) hrange hoffset)

theorem offsetUpFine_points (hranges : SearchRanges calibrator.config)
    (hstate : calibrator.state = .offsetUpFine) :
    ∃ count point, StagePoints calibrator count point := by
  apply stagePoints_of_axis hstate .initialOffsetUp rfl (by decide) rfl
    (decodes_fineOffset hranges calibrator.stageBaseProfile.tof6)
  intro index hword
  simp only [buildCandidate, hstate]
  exact ⟨_, rfl, readField_initialOffsetUp _ (fineOffset_le hranges hword),
    fun hreserved ↦ clear_tof6 (keep_initialOffset hreserved.tof6 _)⟩

theorem offsetDownFine_points (hranges : SearchRanges calibrator.config)
    (hstate : calibrator.state = .offsetDownFine) :
    ∃ count point, StagePoints calibrator count point := by
  apply stagePoints_of_axis hstate .initialOffsetDown rfl (by decide) rfl
    (decodes_fineOffset hranges calibrator.stageBaseProfile.tof7)
  intro index hword
  simp only [buildCandidate, hstate]
  exact ⟨_, rfl, readField_initialOffsetDown _ (fineOffset_le hranges hword),
    fun hreserved ↦ clear_tof7 (keep_initialOffset hreserved.tof7 _)⟩

theorem returnUp_points (hranges : SearchRanges calibrator.config)
    (hstate : calibrator.state = .returnUp) :
    ∃ count point, StagePoints calibrator count point := by
  apply stagePoints_of_axis hstate .returnOffsetUp rfl (by decide) rfl
    (decodes_returnOffset hranges)
  intro index _
  simp only [buildCandidate, hstate]
  exact ⟨_, rfl, readField_returnOffsetUp _ _,
    fun hreserved ↦ clear_tof6 (keep_returnOffset hreserved.tof6 _)⟩

theorem returnDown_points (hranges : SearchRanges calibrator.config)
    (hstate : calibrator.state = .returnDown) :
    ∃ count point, StagePoints calibrator count point := by
  apply stagePoints_of_axis hstate .returnOffsetDown rfl (by decide) rfl
    (decodes_returnOffset hranges)
  intro index _
  simp only [buildCandidate, hstate]
  exact ⟨_, rfl, readField_returnOffsetDown _ _,
    fun hreserved ↦ clear_tof7 (keep_returnOffset hreserved.tof7 _)⟩

theorem wave_range {config : Max35103AutoCalConfig} (hranges : SearchRanges config)
    {wave : UInt8} (hwave : (wave.toNat : ℤ) ∈ bounds config .t2Wave) :
    2 ≤ wave ∧ wave ≤ 57 := by
  have hfirst := hranges.t2WaveField
  have hlast := hranges.t2WaveLast
  obtain ⟨hlow, hhigh⟩ := hwave
  rw [UInt8.le_iff_toNat_le, UInt8.le_iff_toNat_le]
  change 2 ≤ wave.toNat ∧ wave.toNat ≤ 57
  omega

theorem hits_range {config : Max35103AutoCalConfig} (hranges : SearchRanges config)
    {hits : UInt8} (hhits : (hits.toNat : ℤ) ∈ bounds config .hitCount) :
    1 ≤ hits ∧ hits ≤ 6 := by
  have hfirst := hranges.hitCountField
  have hlast := hranges.hitCountLast
  obtain ⟨hlow, hhigh⟩ := hhits
  rw [UInt8.le_iff_toNat_le, UInt8.le_iff_toNat_le]
  change 1 ≤ hits.toNat ∧ hits.toNat ≤ 6
  omega

/-- The values of a byte range. -/
theorem rangeCountU8_le (low high : UInt8) (step : UInt32) :
    (rangeCountU32 low.toUInt32 high.toUInt32 step).toNat ≤ high.toNat + 1 := by
  have hhigh := high.toNat_lt
  refine (rangeCountU32_le ?_).trans_eq ?_ <;> rw [UInt8.toNat_toUInt32]
  omega

theorem waveSelect_points (hranges : SearchRanges calibrator.config)
    (hstate : calibrator.state = .waveSelect) :
    ∃ count point, StagePoints calibrator count point := by
  have hwaves := decodes_consecutive hranges.t2Wave
  have hhits := decodes_consecutive hranges.hitCount
  apply stagePoints_of_grid hstate
    ((hwaves.axis (readField calibrator.stageBaseProfile) .t2Wave).add_axis
      .hitCount rfl hhits)
  · funext field
    cases field <;> rfl
  · have hlastWave := hranges.t2WaveLast
    have hlastHit := hranges.hitCountLast
    have hwaveCount := rangeCountU8_le calibrator.config.t2WaveMin
      calibrator.config.t2WaveMax 1
    have hhitCount := rangeCountU8_le calibrator.config.hitCountMin
      calibrator.config.hitCountMax 1
    have hproduct := Nat.mul_le_mul hwaveCount hhitCount
    have hbound := Nat.mul_le_mul (Nat.add_le_add_right hlastWave 1)
      (Nat.add_le_add_right hlastHit 1)
    rw [candidateCount, multiplyCount_toNat _ _ (by omega)]
    exact (Nat.zero_add _).symm
  · intro index _ hmem
    obtain ⟨hearly, hlate⟩ := wave_range hranges
      (stepped_subset (Int.natCast_nonneg 1) (hmem .t2Wave))
    obtain ⟨hfew, hmany⟩ := hits_range hranges
      (stepped_subset (Int.natCast_nonneg 1) (hmem .hitCount))
    rw [show firstIndex .waveSelect = 0 from rfl, UInt32.add_zero]
    simp only [buildCandidate, hstate]
    exact ⟨_, rfl, readField_setWaveSequence _ hearly hlate hfew hmany,
      fun hreserved ↦ clear_waveBits hreserved hearly hlate hfew hmany,
      fun _ _ hhit ↦ hits_setWaveSequence hearly hlate hfew hmany hhit⟩

/-- The hits of the generic receive sequence. -/
def discoveryHits (config : Max35103AutoCalConfig) : UInt8 :=
  let discoveryHits := if config.hitCountMin < 3 then 3 else config.hitCountMin
  if discoveryHits > config.hitCountMax then config.hitCountMax
  else discoveryHits

theorem discoveryHits_toNat (config : Max35103AutoCalConfig) :
    ((discoveryHits config).toNat : ℤ) =
      min (config.hitCountMax.toNat : ℤ) (max 3 config.hitCountMin.toNat) := by
  have hthree : ((if config.hitCountMin < 3 then 3
      else config.hitCountMin : UInt8).toNat : ℤ) =
        max 3 (config.hitCountMin.toNat : ℤ) := by
    split_ifs with hfew
    · have := UInt8.lt_iff_toNat_lt.mp hfew
      change config.hitCountMin.toNat < 3 at this
      change (3 : ℤ) = _
      omega
    · have := UInt8.le_iff_toNat_le.mp (UInt8.not_lt.mp hfew)
      change 3 ≤ config.hitCountMin.toNat at this
      omega
  rw [discoveryHits, ← hthree]
  generalize (if config.hitCountMin < 3 then 3 else config.hitCountMin) = hits
  split_ifs with hmany
  · have := UInt8.lt_iff_toNat_lt.mp hmany
    omega
  · have := UInt8.le_iff_toNat_le.mp (UInt8.not_lt.mp hmany)
    omega

/-- The discovery grid has less than two to the thirty points. -/
theorem discovery_total (hranges : SearchRanges calibrator.config) :
    (candidateCount calibrator .discovery).toNat = 1 +
      (rangeCountU32 calibrator.config.dplMin.toUInt32
        calibrator.config.dplMax.toUInt32 1).toNat *
      (popcount4 calibrator.config.ctMask).toUInt32.toNat *
      (rangeCountU32 calibrator.config.pulseCountMin.toUInt32
        calibrator.config.pulseCountMax.toUInt32
        calibrator.config.pulseCountStep.toUInt32).toNat *
      (if calibrator.config.tryBothPolarities then (2 : UInt32) else 1).toNat *
      (rangeCountU32 calibrator.config.dlyMin.toUInt32
        calibrator.config.dlyMax.toUInt32
        calibrator.config.dlyCoarseStep.toUInt32).toNat := by
  have hdplField := hranges.dplField
  have hpulseField := hranges.pulseCountField
  have hdpl := rangeCountU8_le calibrator.config.dplMin calibrator.config.dplMax 1
  have hpulse := rangeCountU8_le calibrator.config.pulseCountMin
    calibrator.config.pulseCountMax calibrator.config.pulseCountStep.toUInt32
  have hct : (popcount4 calibrator.config.ctMask).toUInt32.toNat ≤ 4 := by
    rw [popcount4_toNat]
    exact List.length_filter_le _ _
  have hpolarity : (if calibrator.config.tryBothPolarities then (2 : UInt32)
      else 1).toNat ≤ 2 := by
    split_ifs <;> decide
  have hdelay : (rangeCountU32 calibrator.config.dlyMin.toUInt32
      calibrator.config.dlyMax.toUInt32
      calibrator.config.dlyCoarseStep.toUInt32).toNat ≤ 2 ^ 16 := by
    have hmaximum := calibrator.config.dlyMax.toNat_lt
    refine (rangeCountU32_le ?_).trans ?_ <;> rw [UInt16.toNat_toUInt32] <;> omega
  rw [candidateCount]
  generalize rangeCountU32 calibrator.config.dplMin.toUInt32
    calibrator.config.dplMax.toUInt32 1 = dpls at *
  generalize rangeCountU32 calibrator.config.pulseCountMin.toUInt32
    calibrator.config.pulseCountMax.toUInt32
    calibrator.config.pulseCountStep.toUInt32 = pulses at *
  generalize (popcount4 calibrator.config.ctMask).toUInt32 = cts at *
  generalize (if calibrator.config.tryBothPolarities then (2 : UInt32) else 1) =
    polarities at *
  generalize rangeCountU32 calibrator.config.dlyMin.toUInt32
    calibrator.config.dlyMax.toUInt32
    calibrator.config.dlyCoarseStep.toUInt32 = delays at *
  have hlaunch : dpls.toNat * pulses.toNat ≤ 16 * 128 :=
    Nat.mul_le_mul (by omega) (by omega)
  have hcts : dpls.toNat * pulses.toNat * cts.toNat ≤ 16 * 128 * 4 :=
    Nat.mul_le_mul hlaunch hct
  have hfamilies : dpls.toNat * pulses.toNat * cts.toNat * polarities.toNat ≤
      16 * 128 * 4 * 2 := Nat.mul_le_mul hcts hpolarity
  have hall : dpls.toNat * pulses.toNat * cts.toNat * polarities.toNat *
      delays.toNat ≤ 16 * 128 * 4 * 2 * 2 ^ 16 :=
    Nat.mul_le_mul hfamilies hdelay
  have hfirst := multiplyCount_toNat dpls pulses (by omega)
  have hsecond := multiplyCount_toNat (multiplyCount dpls pulses) cts
    (by rw [hfirst]; omega)
  have hthird := multiplyCount_toNat
    (multiplyCount (multiplyCount dpls pulses) cts) polarities
    (by rw [hsecond, hfirst]; omega)
  have hfourth := multiplyCount_toNat
    (multiplyCount (multiplyCount (multiplyCount dpls pulses) cts) polarities)
    delays (by rw [hthird, hsecond, hfirst]; omega)
  rw [hthird, hsecond, hfirst] at hfourth
  rw [addCount_one_toNat (by rw [hfourth]; omega), hfourth]
  ring

/-- A launch word, a delay and a receive sequence. -/
theorem readField_launched (base : Max35103Profile) {dpl ct t2Wave hits : UInt8}
    (pulses : UInt8) (polarity : Bool) (delay : UInt16) (hdpl : dpl.toNat < 16)
    (hct : ct.toNat < 4) (hearly : 2 ≤ t2Wave) (hlate : t2Wave ≤ 57)
    (hfew : 1 ≤ hits) (hmany : hits ≤ 6) :
    readField (setWaveSequence { setLaunch base dpl pulses ct polarity with
        tofMeasurementDelay := delay } t2Wave hits) =
      update (update (update (update (update (update (update (readField base)
        .t2Wave t2Wave.toNat) .hitCount hits.toNat) .dpl dpl.toNat)
        .ct ct.toNat) .pulseCount pulses.toNat) .stopPolarity polarity.toNat)
        .delay delay.toNat := by
  rw [readField_setWaveSequence _ hearly hlate hfew hmany, readField_setDelay,
    readField_setLaunch _ _ _ hdpl hct]
  funext field
  cases field <;> rfl

theorem discoveryHits_range {config : Max35103AutoCalConfig}
    (hranges : SearchRanges config) :
    ((discoveryHits config).toNat : ℤ) ∈ bounds config .hitCount := by
  have hhits := hranges.hitCount
  rw [discoveryHits_toNat]
  constructor <;> omega

theorem discovery_points (hranges : SearchRanges calibrator.config)
    (hseed : calibrator.stageBaseProfile = calibrator.seedProfile)
    (hstate : calibrator.state = .discovery) :
    ∃ count point, StagePoints calibrator count point := by
  have hdpl := decodes_consecutive hranges.dpl
  have hct := decodes_ct calibrator.config
  have hpulses := decodes_steppedU8 hranges.pulseCountStep hranges.pulseCount
  have hpolarity := decodes_polarity calibrator.config.tryBothPolarities
    (profileStopPolarity calibrator.stageBaseProfile)
  have hdelay := decodes_steppedU16 hranges.delayCoarseStep hranges.delay
  have hlaunches := hdpl.axis (update (update
    (readField calibrator.stageBaseProfile) .t2Wave
      calibrator.config.t2WaveMin.toNat) .hitCount
      (discoveryHits calibrator.config).toNat) .dpl
  have hfamilies := ((hlaunches.add_axis .ct rfl hct).add_axis .pulseCount rfl
    hpulses).add_axis .stopPolarity rfl hpolarity
  apply stagePoints_of_grid hstate
    (hfamilies.add_axis .delay rfl hdelay)
  · funext field
    cases field
    case hitCount =>
      change ({((discoveryHits calibrator.config).toNat : ℤ)} : Set ℤ) = _
      rw [discoveryHits_toNat]
      rfl
    all_goals rfl
  · exact discovery_total hranges
  · intro index hindex hmem
    have htotal := discovery_total hranges
    have hwords := (candidateCount calibrator .discovery).toNat_lt
    have hnext : (index + 1).toNat = index.toNat + 1 := by
      rw [UInt32.toNat_add]
      exact Nat.mod_eq_of_lt (by change index.toNat + 1 < 2 ^ 32; omega)
    have hlater : ¬ index + 1 = 0 := by
      intro hzero
      rw [hzero] at hnext
      cases hnext
    have hwave : (calibrator.config.t2WaveMin.toNat : ℤ) ∈
        bounds calibrator.config .t2Wave :=
      ⟨le_rfl, Int.ofNat_le.mpr hranges.t2Wave⟩
    obtain ⟨hearly, hlate⟩ := wave_range hranges hwave
    obtain ⟨hfew, hmany⟩ := hits_range hranges (discoveryHits_range hranges)
    refine ⟨discoveryCandidate calibrator index, ?_, ?_, ?_, ?_⟩
    · simp only [buildCandidate, hstate]
      rw [show firstIndex .discovery = 1 from rfl, if_neg hlater,
        UInt32.add_sub_cancel]
    · have hfield := hranges.dplField
      have hdplBound := (stepped_subset (Int.natCast_nonneg 1) (hmem .dpl)).2
      rw [discoveryCandidate, ← hseed]
      refine readField_launched calibrator.stageBaseProfile _ _ _ ?_
        (ctFromIndex_lt _ _) hearly hlate hfew hmany
      refine Nat.lt_of_le_of_lt (Int.ofNat_le.mp hdplBound) ?_
      omega
    · intro hreserved
      exact clear_launched hreserved _ _ _ _ _ hearly hlate hfew hmany
    · intro _ hit hhit
      exact hits_setWaveSequence hearly hlate hfew hmany hhit

/-- Every search stage enumerates its grid. -/
theorem stage_points (hranges : SearchRanges calibrator.config)
    (hsearches : searches calibrator.state = true)
    (hseed : calibrator.state = .discovery →
      calibrator.stageBaseProfile = calibrator.seedProfile) :
    ∃ count point, StagePoints calibrator count point := by
  cases hstate : calibrator.state <;> rw [hstate] at hsearches
  case discovery => exact discovery_points hranges (hseed hstate) hstate
  case biasCharge => exact biasCharge_points hstate
  case dlyFine => exact dlyFine_points hranges hstate
  case offsetUpCoarse => exact offsetUpCoarse_points hranges hstate
  case offsetUpFine => exact offsetUpFine_points hranges hstate
  case offsetDownCoarse => exact offsetDownCoarse_points hranges hstate
  case offsetDownFine => exact offsetDownFine_points hranges hstate
  case waveSelect => exact waveSelect_points hranges hstate
  case returnUp => exact returnUp_points hranges hstate
  case returnDown => exact returnDown_points hranges hstate
  all_goals cases hsearches

end Stages

/-- What a stage may set a field to is what the configuration allows. -/
theorem axis_subset_bounds {config : Max35103AutoCalConfig}
    (hranges : SearchRanges config) (base : Max35103Profile)
    {state : Max35103AutoCalState} {field : TunedField}
    (howns : owns state field = true) :
    axis config base state field ⊆ bounds config field := by
  have hsteps : ∀ step : ℕ, (0 : ℤ) ≤ step := Int.natCast_nonneg
  have hdelay := Int.ofNat_le.mpr hranges.delay
  have hoffset := Int.ofNat_le.mpr hranges.offset
  cases state <;> cases field <;> first
    | exact absurd howns Bool.false_ne_true
    | exact stepped_subset (hsteps _)
    | exact stepped_subset (hsteps 1)
    | exact around_subset (hsteps _) hdelay
    | exact around_subset (hsteps _) hoffset
    | exact subset_rfl
    | skip
  case discovery.stopPolarity =>
    change (if config.tryBothPolarities then ({0, 1} : Set ℤ)
      else {((profileStopPolarity base).toNat : ℤ)}) ⊆ {0, 1}
    split_ifs
    · exact subset_rfl
    · rintro value rfl
      cases profileStopPolarity base
      · exact .inl rfl
      · exact .inr rfl
  case discovery.t2Wave =>
    rintro value rfl
    exact ⟨le_rfl, Int.ofNat_le.mpr hranges.t2Wave⟩
  case discovery.hitCount =>
    rintro value rfl
    rw [← discoveryHits_toNat]
    exact discoveryHits_range hranges

end Swfpm.AutoCal
