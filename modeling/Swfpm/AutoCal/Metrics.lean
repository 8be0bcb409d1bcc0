import Swfpm.AutoCal.Candidates

/-!
# Batch statistics, gates and scores

Embedding of the robust statistics, the metric gates and the scoring of
`max35103_autocal.c`.  A pointer to samples with their count is the list of
these samples; an access beyond it has no result, and neither has a loop that
does not come to an end.  Picosecond arithmetic wraps where the source leaves
the overflow undefined.
-/

namespace Swfpm.AutoCal

/-! ## In-place selection -/

def swapSamples (samples : List Max35103AutoCalSample) (left right : ℕ) :
    Option (List Max35103AutoCalSample) :=
  match samples[left]?, samples[right]? with
  | some temporary, some other =>
      some ((samples.set left other).set right temporary)
  | _, _ => none

/-- The first index whose value is not below the pivot, for the entries that
start at `i`. -/
def scanUp (pivot : Int64) : List Max35103AutoCalSample → ℕ → Option ℕ
  | [], _ => none
  | sample :: rest, i =>
      if sample.workPs < pivot then scanUp pivot rest (i + 1) else some i

/-- The last index from `j` down whose value is not above the pivot; the scan
stops at index zero whatever stands there. -/
def scanDown (pivot : Int64) (samples : List Max35103AutoCalSample) :
    ℕ → Option ℕ
  | 0 => samples[0]?.map fun _ ↦ 0
  | j + 1 =>
      match samples[j + 1]? with
      | none => none
      | some sample =>
          if sample.workPs > pivot then scanDown pivot samples j
          else some (j + 1)

/-- The partition loop, at most `fuel` rounds of it. -/
def partitionWork (pivot : Int64) :
    ℕ → List Max35103AutoCalSample → ℕ → ℕ →
      Option (List Max35103AutoCalSample × ℕ × ℕ)
  | 0, _, _, _ => none
  | fuel + 1, samples, i, j =>
      if i ≤ j then
        (scanUp pivot (samples.drop i) i).bind fun i ↦
        (scanDown pivot samples j).bind fun j ↦
        if i ≤ j then
          (swapSamples samples i j).bind fun samples ↦
          if j = 0 then some (samples, i + 1, j)
          else partitionWork pivot fuel samples (i + 1) (j - 1)
        else some (samples, i, j)
      else some (samples, i, j)

/-- The narrowing loop, at most `fuel` rounds of it. -/
def selectLoop (kth : ℕ) :
    ℕ → List Max35103AutoCalSample → ℕ → ℕ →
      Option (List Max35103AutoCalSample)
  | 0, samples, left, right => if left < right then none else some samples
  | fuel + 1, samples, left, right =>
      if left < right then
        samples[left + (right - left) / 2]?.bind fun middle ↦
        (partitionWork middle.workPs (samples.length + 1) samples left
          right).bind fun (samples, i, j) ↦
        if kth ≤ j then selectLoop kth fuel samples left j
        else if kth ≥ i then selectLoop kth fuel samples i right
        else some samples
      else some samples

def selectWork (samples : List Max35103AutoCalSample) (kth : ℕ) :
    Option (Int64 × List Max35103AutoCalSample) :=
  (selectLoop kth samples.length samples 0 (samples.length - 1)).bind
    fun samples ↦ samples[kth]?.map fun sample ↦ (sample.workPs, samples)

def workMedian (samples : List Max35103AutoCalSample) :
    Option (Int64 × List Max35103AutoCalSample) :=
  let upperIndex := samples.length / 2
  (selectWork samples upperIndex).bind fun (upper, samples) ↦
  if samples.length % 2 ≠ 0 then some (upper, samples)
  else
    (selectWork samples (upperIndex - 1)).map fun (lower, samples) ↦
      (lower + (upper - lower) / 2, samples)

inductive AutoCalMetricField where
  | up
  | down
  | diff
  | period
  deriving DecidableEq, Repr

def sampleField (sample : Max35103AutoCalSample) : AutoCalMetricField → Int64
  | .up => sample.tofUpPs
  | .down => sample.tofDownPs
  | .diff => sample.tofDiffPs
  | .period => sample.periodErrorPs

def absI64 (value : Int64) : Int64 := if value < 0 then -value else value

def medianField (samples : List Max35103AutoCalSample)
    (field : AutoCalMetricField) :
    Option (Int64 × List Max35103AutoCalSample) :=
  workMedian (samples.map fun sample ↦
    { sample with workPs := sampleField sample field })

def madField (samples : List Max35103AutoCalSample)
    (field : AutoCalMetricField) (median : Int64) :
    Option (Int64 × List Max35103AutoCalSample) :=
  workMedian (samples.map fun sample ↦
    { sample with workPs := absI64 (sampleField sample field - median) })

def perMille (numerator denominator : UInt16) : UInt16 :=
  if denominator = 0 then 0
  else
    ((numerator.toUInt32 * 1000 + denominator.toUInt32 / 2) /
      denominator.toUInt32).toUInt16

/-- Moves the entries with a flag to the front, `remaining` entries from `i` on;
`kept` of them were moved so far. -/
def compactFlag (flag : UInt8) :
    ℕ → ℕ → ℕ → List Max35103AutoCalSample →
      Option (List Max35103AutoCalSample × ℕ)
  | 0, _, kept, samples => some (samples, kept)
  | remaining + 1, i, kept, samples =>
      samples[i]?.bind fun sample ↦
      if sample.flags &&& flag ≠ 0 then
        (if i ≠ kept then swapSamples samples i kept else some samples).bind
          (compactFlag flag remaining (i + 1) (kept + 1))
      else compactFlag flag remaining (i + 1) kept samples

/-! ## Gates -/

def periodGate (calibrator : Max35103AutoCalibrator)
    (metrics : Max35103AutoCalMetrics) : Bool :=
  metrics.validCount ≠ 0 &&
    metrics.waveValidRatePerMille ≥ calibrator.config.minWaveValidRatePerMille &&
    metrics.medianPeriodErrorPs ≤ calibrator.config.maxPeriodErrorPs

def requiredPhysicalRate (calibrator : Max35103AutoCalibrator) : UInt16 :=
  match calibrator.state with
  | .biasCharge | .dlyFine | .offsetUpCoarse | .offsetUpFine
  | .offsetDownCoarse | .offsetDownFine | .waveSelect | .returnUp
  | .returnDown => calibrator.config.minTuningPhysicalRatePerMille
  | _ => calibrator.config.minPhysicalRatePerMille

def relevantWvrRate (calibrator : Max35103AutoCalibrator)
    (metrics : Max35103AutoCalMetrics) : UInt16 :=
  match calibrator.state with
  | .discovery | .biasCharge | .dlyFine => 1000
  | .offsetUpCoarse | .offsetUpFine => metrics.wvrUpGoodRatePerMille
  | .offsetDownCoarse | .offsetDownFine =>
      if metrics.wvrUpGoodRatePerMille < metrics.wvrDownGoodRatePerMille then
        metrics.wvrUpGoodRatePerMille
      else metrics.wvrDownGoodRatePerMille
  | _ => metrics.wvrGoodRatePerMille

def stageWaveformGate (calibrator : Max35103AutoCalibrator)
    (metrics : Max35103AutoCalMetrics) : Bool :=
  if periodGate calibrator metrics = false then false
  else
    match calibrator.state with
    | .discovery | .biasCharge | .dlyFine => true
    | .offsetUpCoarse | .offsetUpFine =>
        metrics.wvrUpGoodRatePerMille ≥ calibrator.config.minWvrGoodRatePerMille
    | .offsetDownCoarse | .offsetDownFine =>
        metrics.wvrUpGoodRatePerMille ≥
            calibrator.config.minWvrGoodRatePerMille &&
          metrics.wvrDownGoodRatePerMille ≥
            calibrator.config.minWvrGoodRatePerMille
    | _ => metrics.waveformGate

/-! ## The metrics of a batch -/

/-- How many of the first entries have a flag. -/
def flagCount (samples : List Max35103AutoCalSample) (flag : UInt8) : UInt16 :=
  UInt16.ofNat (samples.countP fun sample ↦ sample.flags &&& flag ≠ 0)

/-- The counts over all attempts. -/
def countAttempts (calibrator : Max35103AutoCalibrator)
    (metrics : Max35103AutoCalMetrics) : Max35103AutoCalMetrics :=
  let batch := calibrator.samples.take calibrator.sampleIndex.toNat
  { metrics with
    attemptedCount := calibrator.sampleIndex
    validCount := flagCount batch sampleValid
    physicalCount := flagCount batch samplePhysical
    waveValidCount := flagCount batch sampleWaveValid
    wvrUpGoodCount := flagCount batch sampleWvrUpGood
    wvrDownGoodCount := flagCount batch sampleWvrDnGood
    wvrGoodCount := flagCount batch sampleWvrGood
    cycleSlipCount := 0 }

def rateAttempts (calibrator : Max35103AutoCalibrator)
    (metrics : Max35103AutoCalMetrics) : Max35103AutoCalMetrics :=
  { metrics with
    validRatePerMille := perMille metrics.validCount metrics.attemptedCount
    physicalRatePerMille :=
      perMille metrics.physicalCount metrics.attemptedCount
    physicalRateRequiredPerMille := requiredPhysicalRate calibrator
    waveValidRatePerMille :=
      perMille metrics.waveValidCount metrics.attemptedCount
    wvrUpGoodRatePerMille := perMille metrics.wvrUpGoodCount metrics.validCount
    wvrDownGoodRatePerMille :=
      perMille metrics.wvrDownGoodCount metrics.validCount
    wvrGoodRatePerMille := perMille metrics.wvrGoodCount metrics.validCount }

/-- The modelled acoustic period of a profile. -/
def expectedPeriodPs (profile : Max35103Profile) : Int64 :=
  Int64.ofNat ((profileDpl profile).toNat + 1) * 500000

/-- Medians, deviations and cycle slips of the valid entries. -/
def timeValid (calibrator : Max35103AutoCalibrator)
    (metrics : Max35103AutoCalMetrics)
    (valid : List Max35103AutoCalSample) :
    Option (Max35103AutoCalMetrics × List Max35103AutoCalSample) :=
  (medianField valid .up).bind fun (medianUp, valid) ↦
  (medianField valid .down).bind fun (medianDown, valid) ↦
  (medianField valid .diff).bind fun (medianDiff, valid) ↦
  (madField valid .up medianUp).bind fun (madUp, valid) ↦
  (madField valid .down medianDown).bind fun (madDown, valid) ↦
  (madField valid .diff medianDiff).map fun (madDiff, valid) ↦
    let slipThreshold := expectedPeriodPs calibrator.candidateProfile / 2
    let slips := valid.countP fun sample ↦
      absI64 (sample.tofUpPs - medianUp) > slipThreshold ∨
        absI64 (sample.tofDownPs - medianDown) > slipThreshold
    ({ metrics with
        medianTofUpPs := medianUp
        medianTofDownPs := medianDown
        medianTofDiffPs := medianDiff
        directionDeltaPs := absI64 (medianUp - medianDown)
        madTofUpPs := madUp
        madTofDownPs := madDown
        madTofDiffPs := madDiff
        cycleSlipCount := UInt16.ofNat slips }, valid)

/-- Median and deviation of the period error of the wave-valid entries. -/
def timePeriod (metrics : Max35103AutoCalMetrics)
    (valid : List Max35103AutoCalSample) :
    Option (Max35103AutoCalMetrics × List Max35103AutoCalSample) :=
  (compactFlag sampleWaveValid valid.length 0 0 valid).bind
    fun (valid, waveEnd) ↦
  if waveEnd = 0 then some (metrics, valid)
  else
    (medianField (valid.take waveEnd) .period).bind fun (median, wave) ↦
    (madField wave .period median).map fun (mad, wave) ↦
      ({ metrics with
          medianPeriodErrorPs := median
          madPeriodErrorPs := mad }, wave ++ valid.drop waveEnd)

/-- The gates, each from the metrics before it. -/
def gateMetrics (calibrator : Max35103AutoCalibrator)
    (metrics : Max35103AutoCalMetrics) : Max35103AutoCalMetrics :=
  let config := calibrator.config
  let metrics := { metrics with
    cycleSlipRatePerMille :=
      perMille metrics.cycleSlipCount metrics.validCount }
  let metrics := { metrics with
    communicationGate :=
      metrics.validRatePerMille ≥ config.minValidRatePerMille
    directionGate := metrics.validCount ≠ 0 &&
      metrics.directionDeltaPs ≤ config.maxDirectionDeltaPs }
  let metrics := { metrics with
    physicalGate := metrics.validCount ≠ 0 && metrics.directionGate &&
      metrics.physicalRatePerMille ≥ metrics.physicalRateRequiredPerMille &&
      metrics.medianTofUpPs ≥ config.expectedMinTofPs &&
      metrics.medianTofUpPs ≤ config.expectedMaxTofPs &&
      metrics.medianTofDownPs ≥ config.expectedMinTofPs &&
      metrics.medianTofDownPs ≤ config.expectedMaxTofPs
    periodGate := periodGate calibrator metrics }
  let metrics := { metrics with
    waveformGate := metrics.periodGate &&
      metrics.wvrGoodRatePerMille ≥ config.minWvrGoodRatePerMille }
  let metrics := { metrics with
    stageWaveformGate := stageWaveformGate calibrator metrics
    statisticsGate := metrics.validCount ≠ 0 &&
      metrics.madTofUpPs ≤ config.maxTofMadPs &&
      metrics.madTofDownPs ≤ config.maxTofMadPs &&
      metrics.madTofDiffPs ≤ config.maxDiffMadPs &&
      metrics.cycleSlipCount ≤ config.maxCycleSlips &&
      metrics.cycleSlipRatePerMille ≤ config.maxCycleSlipRatePerMille }
  { metrics with
    passed := metrics.communicationGate && metrics.physicalGate &&
      metrics.waveformGate && metrics.statisticsGate }

def satAddU64 (left right : UInt64) : UInt64 :=
  if 0xFFFFFFFFFFFFFFFF - left < right then 0xFFFFFFFFFFFFFFFF
  else left + right

def satMulU64 (left right : UInt64) : UInt64 :=
  if left = 0 ∨ right = 0 then 0
  else if left > 0xFFFFFFFFFFFFFFFF / right then 0xFFFFFFFFFFFFFFFF
  else left * right

/-- What a rate lacks to 1000, in the source's unsigned arithmetic. -/
def rateLack (rate : UInt16) : UInt64 := (1000 - rate.toUInt32).toUInt64

/-- The terms of the score, in the order in which they are added. -/
def scoreTerms (calibrator : Max35103AutoCalibrator)
    (metrics : Max35103AutoCalMetrics) : List UInt64 :=
  [satMulU64 (rateLack metrics.validRatePerMille) 1000000000000,
    satMulU64 (rateLack metrics.physicalRatePerMille) 100000000000,
    satMulU64 (rateLack metrics.waveValidRatePerMille) 10000000000,
    satMulU64 (rateLack (relevantWvrRate calibrator metrics)) 1000000000,
    satMulU64 metrics.directionDeltaPs.toUInt64 1000,
    metrics.madTofUpPs.toUInt64,
    metrics.madTofDownPs.toUInt64,
    metrics.madTofDiffPs.toUInt64,
    satMulU64 metrics.medianPeriodErrorPs.toUInt64 4,
    satMulU64 metrics.cycleSlipCount.toUInt64 100000000000,
    if metrics.physicalGate then 0 else 1000000000000000,
    if metrics.stageWaveformGate then 0 else 1000000000000000]

/-- The metrics of the batch of a calibrator, and the samples as they stand
afterwards. -/
def finalizeMetrics (calibrator : Max35103AutoCalibrator)
    (metrics : Max35103AutoCalMetrics) :
    Option (Max35103AutoCalMetrics × List Max35103AutoCalSample) :=
  if calibrator.samples.length < calibrator.sampleIndex.toNat then none
  else
    let metrics := countAttempts calibrator metrics
    (compactFlag sampleValid calibrator.sampleIndex.toNat 0 0
      calibrator.samples).bind fun (samples, validEnd) ↦
    let metrics := rateAttempts calibrator metrics
    (if validEnd = 0 then some (metrics, samples)
      else
        (timeValid calibrator metrics (samples.take validEnd)).bind
          fun (metrics, valid) ↦
        (timePeriod metrics valid).map fun (metrics, valid) ↦
          (metrics, valid ++ samples.drop validEnd)).map
      fun (metrics, samples) ↦
        let metrics := gateMetrics calibrator metrics
        ({ metrics with
            score := (scoreTerms calibrator metrics).foldl satAddU64 0 },
          samples)

def candidateEligible (calibrator : Max35103AutoCalibrator)
    (metrics : Max35103AutoCalMetrics) : Bool :=
  let baseGates := metrics.communicationGate && metrics.physicalGate &&
    stageWaveformGate calibrator metrics
  if baseGates = false then false
  else
    match calibrator.state with
    | .waveSelect | .returnUp | .returnDown => metrics.statisticsGate
    | _ => true

end Swfpm.AutoCal
