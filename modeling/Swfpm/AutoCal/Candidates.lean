import Swfpm.AutoCal.Calibrator

/-!
# Stages and their candidates

Embedding of the stage geometry and the candidate construction of
`max35103_autocal.c`.
-/

namespace Swfpm.AutoCal

/-! ## Stage geometry -/

/-- Bounds of the fine search around a delay. -/
def fineRangeU16 (config : Max35103AutoCalConfig) (center radius : UInt16) :
    UInt16 × UInt16 :=
  (clampU16 (center.toNat - radius.toNat) config.dlyMin config.dlyMax,
    clampU16 (center.toNat + radius.toNat) config.dlyMin config.dlyMax)

/-- Bounds of the fine search around an initial offset. -/
def fineRangeU8 (config : Max35103AutoCalConfig) (center radius : UInt8) :
    UInt8 × UInt8 :=
  (clampU8 (center.toNat - radius.toNat) config.initialOffsetMin
      config.initialOffsetMax,
    clampU8 (center.toNat + radius.toNat) config.initialOffsetMin
      config.initialOffsetMax)

/-- The values of one signed return offset, counted from -128. -/
def returnOffsetCount (config : Max35103AutoCalConfig) : UInt32 :=
  rangeCountU32 (config.returnOffsetMin.toInt32 + 128).toUInt32
    (config.returnOffsetMax.toInt32 + 128).toUInt32
    config.returnOffsetStep.toUInt32

/-- The number of candidates of a fine initial-offset search around a word. -/
def fineOffsetCount (config : Max35103AutoCalConfig) (word : UInt16) : UInt32 :=
  let range := fineRangeU8 config (profileInitialOffset word)
    config.initialOffsetCoarseStep
  rangeCountU32 range.1.toUInt32 range.2.toUInt32
    config.initialOffsetFineStep.toUInt32

def candidateCount (calibrator : Max35103AutoCalibrator) :
    Max35103AutoCalState → UInt32
  | .discovery =>
      let config := calibrator.config
      let count := rangeCountU32 config.dplMin.toUInt32 config.dplMax.toUInt32 1
      let count := multiplyCount count
        (rangeCountU32 config.pulseCountMin.toUInt32
          config.pulseCountMax.toUInt32 config.pulseCountStep.toUInt32)
      let count := multiplyCount count (popcount4 config.ctMask).toUInt32
      let count := multiplyCount count (if config.tryBothPolarities then 2 else 1)
      let count := multiplyCount count
        (rangeCountU32 config.dlyMin.toUInt32 config.dlyMax.toUInt32
          config.dlyCoarseStep.toUInt32)
      -- candidate zero is the seed itself
      addCount count 1
  | .biasCharge => (popcount4 calibrator.config.ctMask).toUInt32
  | .dlyFine =>
      let config := calibrator.config
      let range := fineRangeU16 config
        calibrator.stageBaseProfile.tofMeasurementDelay config.dlyCoarseStep
      rangeCountU32 range.1.toUInt32 range.2.toUInt32
        config.dlyFineStep.toUInt32
  | .offsetUpCoarse | .offsetDownCoarse =>
      rangeCountU32 calibrator.config.initialOffsetMin.toUInt32
        calibrator.config.initialOffsetMax.toUInt32
        calibrator.config.initialOffsetCoarseStep.toUInt32
  | .offsetUpFine =>
      fineOffsetCount calibrator.config calibrator.stageBaseProfile.tof6
  | .offsetDownFine =>
      fineOffsetCount calibrator.config calibrator.stageBaseProfile.tof7
  | .waveSelect =>
      multiplyCount
        (rangeCountU32 calibrator.config.t2WaveMin.toUInt32
          calibrator.config.t2WaveMax.toUInt32 1)
        (rangeCountU32 calibrator.config.hitCountMin.toUInt32
          calibrator.config.hitCountMax.toUInt32 1)
  | .returnUp | .returnDown => returnOffsetCount calibrator.config
  | .verify | .resetVerify => 1
  | .robustness => perturbationCount.toUInt32
  | .idle | .complete | .failed | .cancelled => 0

/-- The batch size of a state. -/
def stageTarget (config : Max35103AutoCalConfig) : Max35103AutoCalState → UInt16
  | .verify | .resetVerify => config.verificationSamples
  | .waveSelect | .returnUp | .returnDown => config.finalistSamples
  | _ => config.samplesPerCandidate

def sampleTarget (calibrator : Max35103AutoCalibrator) : UInt16 :=
  stageTarget calibrator.config calibrator.state

/-! ## Candidate construction -/

/-- The point of the discovery grid at an index, the delay changing fastest. -/
def discoveryCandidate (calibrator : Max35103AutoCalibrator) (index : UInt32) :
    Max35103Profile :=
  let config := calibrator.config
  let dlyCount := rangeCountU32 config.dlyMin.toUInt32 config.dlyMax.toUInt32
    config.dlyCoarseStep.toUInt32
  let polarityCount : UInt32 := if config.tryBothPolarities then 2 else 1
  let pulseCount := rangeCountU32 config.pulseCountMin.toUInt32
    config.pulseCountMax.toUInt32 config.pulseCountStep.toUInt32
  let ctCount := (popcount4 config.ctMask).toUInt32
  let dlyIndex := index % dlyCount
  let index := index / dlyCount
  let polarityIndex := index % polarityCount
  let index := index / polarityCount
  let pulseIndex := index % pulseCount
  let index := index / pulseCount
  let ctIndex := index % ctCount
  let dplIndex := index / ctCount
  let dpl := (config.dplMin.toUInt32 + dplIndex).toUInt8
  let pulses := (config.pulseCountMin.toUInt32 +
    pulseIndex * config.pulseCountStep.toUInt32).toUInt8
  let chargeTime := ctFromIndex config.ctMask ctIndex
  let polarity :=
    if config.tryBothPolarities then decide (polarityIndex ≠ 0)
    else profileStopPolarity calibrator.seedProfile
  let candidate :=
    setLaunch calibrator.stageBaseProfile dpl pulses chargeTime polarity
  let candidate := { candidate with
    tofMeasurementDelay := (config.dlyMin.toUInt32 +
      dlyIndex * config.dlyCoarseStep.toUInt32).toUInt16 }
  let discoveryHits := if config.hitCountMin < 3 then 3 else config.hitCountMin
  let discoveryHits :=
    if discoveryHits > config.hitCountMax then config.hitCountMax
    else discoveryHits
  setWaveSequence candidate config.t2WaveMin discoveryHits

/-- The initial offset of a coarse search. -/
def coarseOffset (config : Max35103AutoCalConfig) (index : UInt32) : UInt8 :=
  (config.initialOffsetMin.toUInt32 +
    index * config.initialOffsetCoarseStep.toUInt32).toUInt8

/-- The initial offset of a fine search around a word. -/
def fineOffset (config : Max35103AutoCalConfig) (word : UInt16)
    (index : UInt32) : UInt8 :=
  ((fineRangeU8 config (profileInitialOffset word)
      config.initialOffsetCoarseStep).1.toUInt32 +
    index * config.initialOffsetFineStep.toUInt32).toUInt8

/-- The return offset at an index. -/
def returnOffsetAt (config : Max35103AutoCalConfig) (index : UInt32) : Int8 :=
  (config.returnOffsetMin.toInt32 +
    (index * config.returnOffsetStep.toUInt32).toInt32).toInt8

/-- The delay one fine step away, or two the other way at a bound; `none` where
both leave it as it is. -/
def perturbDelay (config : Max35103AutoCalConfig) (original : UInt16)
    (down : Bool) : Option UInt16 :=
  let step : ℤ := config.dlyFineStep.toNat
  let delay := clampU16 (original.toNat + (if down then -step else step))
    config.dlyMin config.dlyMax
  let delay :=
    if delay = original then
      clampU16 (original.toNat + (if down then 2 * step else -2 * step))
        config.dlyMin config.dlyMax
    else delay
  if delay = original then none else some delay

/-- The offset word one fine step away, or two the other way at a bound. -/
def perturbOffset (config : Max35103AutoCalConfig) (word : UInt16)
    (down : Bool) : Option UInt16 :=
  let step : ℤ := config.initialOffsetFineStep.toNat
  let original := profileInitialOffset word
  let perturbed := clampU8 (original.toNat + (if down then -step else step))
    config.initialOffsetMin config.initialOffsetMax
  let perturbed :=
    if perturbed = original then
      clampU8 (original.toNat + (if down then 2 * step else -2 * step))
        config.initialOffsetMin config.initialOffsetMax
    else perturbed
  if perturbed = original then none
  else some (offsetWord (profileReturnOffset word) perturbed)

/-- The T2 wave one away, or two the other way at a bound. -/
def perturbWave (config : Max35103AutoCalConfig) (original : UInt8)
    (down : Bool) : Option UInt8 :=
  let waveDelta : ℤ := if down then -1 else 1
  let t2 := clampU8 (original.toNat + waveDelta) config.t2WaveMin
    config.t2WaveMax
  let t2 :=
    if t2 = original then
      clampU8 (original.toNat - 2 * waveDelta) config.t2WaveMin config.t2WaveMax
    else t2
  if t2 = original then none else some t2

/-- The eight neighbours of the stage base. -/
def robustnessCandidate (config : Max35103AutoCalConfig)
    (candidate : Max35103Profile) (index : UInt32) : Option Max35103Profile :=
  if index = 0 ∨ index = 1 then
    (perturbDelay config candidate.tofMeasurementDelay (decide (index = 0))).map
      fun delay ↦ { candidate with tofMeasurementDelay := delay }
  else if index = 2 ∨ index = 3 then
    (perturbOffset config candidate.tof6 (decide (index = 2))).map
      fun word ↦ { candidate with tof6 := word }
  else if index = 4 ∨ index = 5 then
    (perturbOffset config candidate.tof7 (decide (index = 4))).map
      fun word ↦ { candidate with tof7 := word }
  else
    (perturbWave config (profileT2 candidate) (decide (index = 6))).map
      fun t2 ↦ setWaveSequence candidate t2 (configuredHitCount candidate)

/-- The candidate at an index before its structural check; `none` for a state
without candidates and for a perturbation that changes nothing. -/
def buildCandidate (calibrator : Max35103AutoCalibrator) (index : UInt32) :
    Option Max35103Profile :=
  let config := calibrator.config
  let candidate := calibrator.stageBaseProfile
  match calibrator.state with
  | .discovery =>
      if index = 0 then some calibrator.seedProfile
      else some (discoveryCandidate calibrator (index - 1))
  | .biasCharge =>
      some (setLaunch candidate (profileDpl candidate)
        (profilePulseCount candidate) (ctFromIndex config.ctMask index)
        (profileStopPolarity candidate))
  | .dlyFine =>
      let range := fineRangeU16 config candidate.tofMeasurementDelay
        config.dlyCoarseStep
      some { candidate with
        tofMeasurementDelay := (range.1.toUInt32 +
          index * config.dlyFineStep.toUInt32).toUInt16 }
  | .offsetUpCoarse =>
      some { candidate with
        tof6 := offsetWord (profileReturnOffset candidate.tof6)
          (coarseOffset config index) }
  | .offsetUpFine =>
      some { candidate with
        tof6 := offsetWord (profileReturnOffset candidate.tof6)
          (fineOffset config candidate.tof6 index) }
  | .offsetDownCoarse =>
      some { candidate with
        tof7 := offsetWord (profileReturnOffset candidate.tof7)
          (coarseOffset config index) }
  | .offsetDownFine =>
      some { candidate with
        tof7 := offsetWord (profileReturnOffset candidate.tof7)
          (fineOffset config candidate.tof7 index) }
  | .waveSelect =>
      let hitCountValues := rangeCountU32 config.hitCountMin.toUInt32
        config.hitCountMax.toUInt32 1
      let hits := (config.hitCountMin.toUInt32 + index % hitCountValues).toUInt8
      let t2 := (config.t2WaveMin.toUInt32 + index / hitCountValues).toUInt8
      some (setWaveSequence candidate t2 hits)
  | .returnUp =>
      some { candidate with
        tof6 := offsetWord (returnOffsetAt config index)
          (profileInitialOffset candidate.tof6) }
  | .returnDown =>
      some { candidate with
        tof7 := offsetWord (returnOffsetAt config index)
          (profileInitialOffset candidate.tof7) }
  | .robustness => robustnessCandidate config candidate index
  | .verify | .resetVerify => some candidate
  | .idle | .complete | .failed | .cancelled => none

/-- The candidate that is written at an index, and whether it may be tried. -/
def makeCandidate (calibrator : Max35103AutoCalibrator) (index : UInt32) :
    Max35103Profile × Bool :=
  match buildCandidate calibrator index with
  | none => (calibrator.stageBaseProfile, false)
  | some candidate => (candidate, decide (validateProfile candidate = .ok))

end Swfpm.AutoCal
