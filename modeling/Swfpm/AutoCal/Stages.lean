import Swfpm.AutoCal.Metrics

/-!
# Samples, candidates and stage transitions

Embedding of the sample recording, the candidate retention, the stage
transitions and the report of `max35103_autocal.c`.  A result is missing where
the source would touch a cell outside of an array.
-/

namespace Swfpm.AutoCal

/-! ## Recording one measurement -/

def wvrPairGood (config : Max35103AutoCalConfig) (t1T2Q7 t2IdealQ7 : UInt8) :
    Bool :=
  t1T2Q7 ≥ config.wvrT1T2MinQ7 && t1T2Q7 ≤ config.wvrRatioMaxQ7 &&
    t2IdealQ7 ≥ config.wvrT2IdealMinQ7 && t2IdealQ7 ≤ config.wvrRatioMaxQ7

/-- The mean deviation of the hit spacing from the period, over the hits that
are left; `none` once a timestamp does not grow. -/
def periodErrorOver (wave : Max35103WaveEvidence) (periodPs : Int64) :
    List ℕ → UInt64 → UInt16 → Option Int64
  | [], errorSum, intervalCount =>
      some (errorSum / intervalCount.toUInt64).toInt64
  | hit :: rest, errorSum, intervalCount =>
      let upPeriod := wave.hitUpPs.toList.getD hit 0 -
        wave.hitUpPs.toList.getD (hit - 1) 0
      let downPeriod := wave.hitDownPs.toList.getD hit 0 -
        wave.hitDownPs.toList.getD (hit - 1) 0
      if upPeriod ≤ 0 ∨ downPeriod ≤ 0 then none
      else
        periodErrorOver wave periodPs rest
          (errorSum + (absI64 (upPeriod - periodPs)).toUInt64 +
            (absI64 (downPeriod - periodPs)).toUInt64) (intervalCount + 2)

def wavePeriodError (profile : Max35103Profile) (wave : Max35103WaveEvidence) :
    Option Int64 :=
  if wave.valid = false ∨ wave.configuredHitCount < 2 then none
  else
    periodErrorOver wave (expectedPeriodPs profile)
      (List.range' 1 (wave.configuredHitCount.toNat - 1)) 0 0

/-- The sums of the reconstructed arrivals over the hits that are left; `none`
once one of them is not positive. -/
def waveZeroSums (profile : Max35103Profile) (wave : Max35103WaveEvidence)
    (periodPs : Int64) : List ℕ → Int64 → Int64 → Option (Int64 × Int64)
  | [], upSumPs, downSumPs => some (upSumPs, downSumPs)
  | hit :: rest, upSumPs, downSumPs =>
      let waveDelayPs := Int64.ofNat (profileHitWave profile hit).toNat * periodPs
      let upPs := wave.hitUpPs.toList.getD hit 0 - waveDelayPs
      let downPs := wave.hitDownPs.toList.getD hit 0 - waveDelayPs
      if upPs ≤ 0 ∨ downPs ≤ 0 then none
      else
        waveZeroSums profile wave periodPs rest (upSumPs + upPs)
          (downSumPs + downPs)

def waveZeroTof (profile : Max35103Profile) (wave : Max35103WaveEvidence) :
    Option (Int64 × Int64) :=
  if wave.valid = false ∨ wave.configuredHitCount = 0 ∨
      wave.configuredHitCount > waveHitCount then none
  else
    let hitCount := Int64.ofNat wave.configuredHitCount.toNat
    (waveZeroSums profile wave (expectedPeriodPs profile)
      (List.range wave.configuredHitCount.toNat) 0 0).map
      fun (upSumPs, downSumPs) ↦ (upSumPs / hitCount, downSumPs / hitCount)

/-- The sample of a valid measurement whose arrivals were reconstructed. -/
def classifySample (config : Max35103AutoCalConfig) (profile : Max35103Profile)
    (result : Max35103RawResult) (wave : Max35103WaveEvidence)
    (tofUpPs tofDownPs : Int64) : Max35103AutoCalSample :=
  let physical := tofUpPs ≥ config.expectedMinTofPs ∧
    tofUpPs ≤ config.expectedMaxTofPs ∧ tofDownPs ≥ config.expectedMinTofPs ∧
    tofDownPs ≤ config.expectedMaxTofPs
  let periodError := wavePeriodError profile wave
  let wvrUpGood := wvrPairGood config wave.wvrUpT1T2Q7 wave.wvrUpT2IdealQ7
  let wvrDownGood := wvrPairGood config wave.wvrDownT1T2Q7 wave.wvrDownT2IdealQ7
  { tofUpPs := tofUpPs
    tofDownPs := tofDownPs
    tofDiffPs := result.tofDiffPs
    periodErrorPs := periodError.getD 0
    workPs := 0
    flags := sampleValid ||| (if physical then samplePhysical else 0) |||
      (if periodError.isSome then sampleWaveValid else 0) |||
      (if wvrUpGood then sampleWvrUpGood else 0) |||
      (if wvrDownGood then sampleWvrDnGood else 0) |||
      (if wvrUpGood && wvrDownGood then sampleWvrGood else 0) }

/-- Whether the answer of the backend is usable at all. -/
def Measurement.usable (measurement : Measurement) : Bool :=
  measurement.status = .ok && measurement.result.valid && measurement.wave.valid

/-- The sample of one measurement attempt; it stays zero without evidence. -/
def sampleOf (config : Max35103AutoCalConfig) (profile : Max35103Profile)
    (measurement : Measurement) : Max35103AutoCalSample :=
  if measurement.usable then
    match waveZeroTof profile measurement.wave with
    | none => .zero
    | some (tofUpPs, tofDownPs) =>
        classifySample config profile measurement.result measurement.wave
          tofUpPs tofDownPs
  else .zero

/-- The calibrator with the sample of one attempt in its slot. -/
def recorded (calibrator : Max35103AutoCalibrator) (measurement : Measurement) :
    Max35103AutoCalibrator :=
  let wave := measurement.wave
  { calibrator with
    samples := calibrator.samples.set calibrator.sampleIndex.toNat
      (sampleOf calibrator.config calibrator.candidateProfile measurement)
    candidateMetrics := { calibrator.candidateMetrics with
      timeoutCount :=
        if measurement.status = .timeout then
          calibrator.candidateMetrics.timeoutCount + 1
        else calibrator.candidateMetrics.timeoutCount }
    lastWvrUpT1T2Q7 :=
      if measurement.usable then wave.wvrUpT1T2Q7
      else calibrator.lastWvrUpT1T2Q7
    lastWvrUpT2IdealQ7 :=
      if measurement.usable then wave.wvrUpT2IdealQ7
      else calibrator.lastWvrUpT2IdealQ7
    lastWvrDownT1T2Q7 :=
      if measurement.usable then wave.wvrDownT1T2Q7
      else calibrator.lastWvrDownT1T2Q7
    lastWvrDownT2IdealQ7 :=
      if measurement.usable then wave.wvrDownT2IdealQ7
      else calibrator.lastWvrDownT2IdealQ7 }

/-- Every attempt owns one slot of the workspace. -/
def recordSample (calibrator : Max35103AutoCalibrator)
    (measurement : Measurement) : Option Max35103AutoCalibrator :=
  if calibrator.samples.length ≤ calibrator.sampleIndex.toNat then none
  else some (recorded calibrator measurement)

/-! ## Candidate retention -/

/-- Moves entries one place down, `steps` of them from `move` on. -/
def moveDown {α : Type*} : ℕ → ℕ → List α → Option (List α)
  | 0, _, cells => some cells
  | steps + 1, move, cells =>
      cells[move + 1]?.bind fun next ↦
        moveDown steps (move + 1) (cells.set move next)

/-- Moves entries one place up, `steps` of them from `i` down. -/
def moveUp {α : Type*} : ℕ → ℕ → List α → Option (List α)
  | 0, _, cells => some cells
  | steps + 1, i, cells =>
      if cells.length ≤ i then none
      else
        cells[i - 1]?.bind fun before ↦
          moveUp steps (i - 1) (cells.set i before)

/-- Makes room at a place among the first `count` entries and fills it. -/
def insertAt {α : Type*} (count place : ℕ) (entry : α) (cells : List α) :
    Option (List α) :=
  (moveUp (count - 1 - place) (count - 1) cells).bind fun cells ↦
    if cells.length ≤ place then none else some (cells.set place entry)

/-- Insertion by score among the first `count` finalists. -/
def insertByScore (calibrator : Max35103AutoCalibrator) (count : ℕ)
    (profile : Max35103Profile) (metrics : Max35103AutoCalMetrics) :
    Option Max35103AutoCalibrator :=
  let place := ((calibrator.discoveryFinalistMetrics.take count).findIdx?
    fun held ↦ metrics.score < held.score).getD count
  if place ≥ discoveryFinalists.toNat then some calibrator
  else
    let count := if count < discoveryFinalists.toNat then count + 1 else count
    (insertAt count place profile calibrator.discoveryFinalistProfiles).bind
      fun profiles ↦
    (insertAt count place metrics calibrator.discoveryFinalistMetrics).map
      fun finalistMetrics ↦
        { calibrator with
          discoveryFinalistProfiles := profiles
          discoveryFinalistMetrics := finalistMetrics
          discoveryFinalistCount := UInt8.ofNat count }

def insertDiscoveryFinalist (calibrator : Max35103AutoCalibrator)
    (profile : Max35103Profile) (metrics : Max35103AutoCalMetrics) :
    Option Max35103AutoCalibrator :=
  let count := calibrator.discoveryFinalistCount.toNat
  match (calibrator.discoveryFinalistProfiles.take count).findIdx?
      fun held ↦ profile.tof1 = held.tof1 with
  | none => insertByScore calibrator count profile metrics
  | some i =>
      calibrator.discoveryFinalistMetrics[i]?.bind fun held ↦
      if metrics.score ≥ held.score then some calibrator
      else
        (moveDown (count - 1 - i) i calibrator.discoveryFinalistProfiles).bind
          fun profiles ↦
        (moveDown (count - 1 - i) i calibrator.discoveryFinalistMetrics).bind
          fun finalistMetrics ↦
        insertByScore { calibrator with
            discoveryFinalistProfiles := profiles
            discoveryFinalistMetrics := finalistMetrics }
          (count - 1) profile metrics

/-- The closest candidate so far, whether eligible or not. -/
def considerClosest (calibrator : Max35103AutoCalibrator) :
    Max35103AutoCalibrator :=
  if calibrator.stageClosestValid = false ∨
      calibrator.candidateMetrics.score <
        calibrator.stageClosestMetrics.score then
    { calibrator with
      stageClosestProfile := calibrator.candidateProfile
      stageClosestMetrics := calibrator.candidateMetrics
      stageClosestValid := true }
  else calibrator

/-- The best eligible candidate so far. -/
def considerBest (calibrator : Max35103AutoCalibrator) :
    Max35103AutoCalibrator :=
  if calibrator.stageBestValid = false ∨
      calibrator.candidateMetrics.score < calibrator.stageBestMetrics.score then
    { calibrator with
      stageBestProfile := calibrator.candidateProfile
      stageBestMetrics := calibrator.candidateMetrics
      stageBestValid := true }
  else calibrator

/-- What becomes of a candidate whose metrics are final. -/
def rankCandidate (calibrator : Max35103AutoCalibrator) :
    Option Max35103AutoCalibrator :=
  match calibrator.state with
  | .robustness =>
      some { calibrator with
        perturbationTested := calibrator.perturbationTested + 1
        perturbationPassed :=
          if calibrator.candidateMetrics.passed then
            calibrator.perturbationPassed + 1
          else calibrator.perturbationPassed }
  | .verify | .resetVerify =>
      some { calibrator with
        stageBestProfile := calibrator.candidateProfile
        stageBestMetrics := calibrator.candidateMetrics
        stageBestValid := calibrator.candidateMetrics.passed }
  | .discovery =>
      if candidateEligible calibrator calibrator.candidateMetrics = false then
        some calibrator
      else
        (insertDiscoveryFinalist calibrator calibrator.candidateProfile
          calibrator.candidateMetrics).map considerBest
  | _ =>
      if candidateEligible calibrator calibrator.candidateMetrics = false then
        some calibrator
      else some (considerBest calibrator)

def considerCandidate (calibrator : Max35103AutoCalibrator) :
    Option Max35103AutoCalibrator :=
  (finalizeMetrics calibrator calibrator.candidateMetrics).bind
    fun (metrics, samples) ↦
      rankCandidate (considerClosest
        { calibrator with candidateMetrics := metrics, samples := samples })

/-! ## Entering, restarting and leaving a stage -/

/-- The fields that entering and restarting a stage clear alike. -/
def clearStage (calibrator : Max35103AutoCalibrator) : Max35103AutoCalibrator :=
  { calibrator with
    candidateIndex := 0
    sampleIndex := 0
    sampleTarget := sampleTarget calibrator
    stageBestValid := false
    stageClosestValid := false
    candidateStarted := false
    candidateConfigured := false
    busyPollCount := 0
    resetPerformed := false
    candidateMetrics := .zero
    stageBestMetrics := .zero
    stageClosestMetrics := .zero }

def enterState (calibrator : Max35103AutoCalibrator)
    (state : Max35103AutoCalState) : Max35103AutoCalibrator :=
  let calibrator := { calibrator with
    state := state
    stageBaseProfile := calibrator.selectedProfile }
  { clearStage calibrator with
    candidateCount := candidateCount calibrator state
    stageRetryCount := 0 }

/-- What `memset` leaves of the finalists. -/
def clearFinalists (calibrator : Max35103AutoCalibrator) :
    Max35103AutoCalibrator :=
  { calibrator with
    discoveryFinalistCount := 0
    discoveryFinalistIndex := 0
    discoveryFinalistProfiles := List.replicate 4 .zero
    discoveryFinalistMetrics := List.replicate 4 .zero }

def restartStage (calibrator : Max35103AutoCalibrator) :
    Max35103AutoCalibrator :=
  let calibrator :=
    if calibrator.state = .discovery then clearFinalists calibrator
    else calibrator
  { clearStage calibrator with
    stageRetryCount :=
      if calibrator.stageRetryCount < 255 then calibrator.stageRetryCount + 1
      else calibrator.stageRetryCount }

def retryAllowed (calibrator : Max35103AutoCalibrator) : Bool :=
  calibrator.stageRetryCount < calibrator.config.maxStageRetries

/-- Failure evidence, and the state `failed`. -/
def fail (calibrator : Max35103AutoCalibrator)
    (status : Max35103AutoCalStatus) : Max35103AutoCalibrator :=
  { calibrator with
    failureState := calibrator.state
    failureCandidateIndex := calibrator.candidateIndex
    failureRetryCount := calibrator.stageRetryCount
    failureProfile :=
      if calibrator.stageClosestValid then calibrator.stageClosestProfile
      else calibrator.candidateProfile
    failureMetrics :=
      if calibrator.stageClosestValid then calibrator.stageClosestMetrics
      else calibrator.candidateMetrics
    state := .failed
    status := status
    candidateConfigured := false }

/-- The stage after an ordinary one; `failed` has none. -/
def nextSearchState : Max35103AutoCalState → Max35103AutoCalState
  | .discovery => .biasCharge
  | .biasCharge => .dlyFine
  | .dlyFine => .offsetUpCoarse
  | .offsetUpCoarse => .offsetUpFine
  | .offsetUpFine => .offsetDownCoarse
  | .offsetDownCoarse => .offsetDownFine
  | .offsetDownFine => .waveSelect
  | .waveSelect => .returnUp
  | .returnUp => .returnDown
  | .returnDown => .verify
  | _ => .failed

def fallbackAllowed (calibrator : Max35103AutoCalibrator) : Bool :=
  calibrator.state ≠ .discovery &&
    calibrator.profileFallbacksUsed < calibrator.config.maxProfileFallbacks &&
    calibrator.discoveryFinalistIndex.toNat + 1 <
      calibrator.discoveryFinalistCount.toNat

def clearPerturbations (calibrator : Max35103AutoCalibrator) :
    Max35103AutoCalibrator :=
  { calibrator with perturbationTested := 0, perturbationPassed := 0 }

/-- The next finalist as the root of the tuning stages. -/
def selectFinalist (calibrator : Max35103AutoCalibrator)
    (profile : Max35103Profile) : Max35103AutoCalibrator :=
  { calibrator with
    discoveryFinalistIndex := calibrator.discoveryFinalistIndex + 1
    profileFallbacksUsed := calibrator.profileFallbacksUsed + 1
    selectedProfile := profile }

/-- The tuning stages again, from the next finalist. -/
def profileFallback (calibrator : Max35103AutoCalibrator) :
    Option Max35103AutoCalibrator :=
  let index := calibrator.discoveryFinalistIndex + 1
  calibrator.discoveryFinalistProfiles[index.toNat]?.map fun profile ↦
    enterState (clearPerturbations (selectFinalist calibrator profile))
      .biasCharge

/-- Fallback, or else failure. -/
def fallBackOrFail (calibrator : Max35103AutoCalibrator) :
    Option Max35103AutoCalibrator :=
  if fallbackAllowed calibrator then profileFallback calibrator
  else some (fail calibrator .noCandidate)

/-- Retry, fallback, or else failure: a stage without a winner. -/
def retreat (calibrator : Max35103AutoCalibrator) :
    Option Max35103AutoCalibrator :=
  if retryAllowed calibrator then some (restartStage calibrator)
  else fallBackOrFail calibrator

/-! ## The report -/

/-- `MAX35103_AUTOCAL_REPORT_MAGIC`. -/
def reportMagic : UInt32 := 0x4D43414C

/-- `MAX35103_AUTOCAL_REPORT_VERSION`. -/
def reportVersion : UInt16 := 8

/-- `sizeof` of a report as the ARM ABI lays it out, with short enumerations. -/
def reportStructSize : UInt16 := 256

def crcRound (crc : UInt32) : UInt32 :=
  if crc &&& 1 ≠ 0 then (crc >>> 1) ^^^ 0xEDB88320 else crc >>> 1

def crcByte (crc : UInt32) (value : UInt8) : UInt32 :=
  crcRound^[8] (crc ^^^ value.toUInt32)

/-- The low bytes of a number, least significant first. -/
def leBytes : ℕ → UInt64 → List UInt8
  | 0, _ => []
  | n + 1, value => value.toUInt8 :: leBytes n (value >>> 8)

def bytes8 (value : UInt8) : List UInt8 := [value]
def bytes16 (value : UInt16) : List UInt8 := leBytes 2 value.toUInt64
def bytes32 (value : UInt32) : List UInt8 := leBytes 4 value.toUInt64
def bytes64 (value : Int64) : List UInt8 := leBytes 8 value.toUInt64
def bytesBool (value : Bool) : List UInt8 := [if value then 1 else 0]

def profileBytes (profile : Max35103Profile) : List UInt8 :=
  bytes32 profile.profileId ++ bytes32 profile.profileVersion ++
    bytes8 profile.eventModeCmd ++ bytes16 profile.tof1 ++
    bytes16 profile.tof2 ++ bytes16 profile.tof3 ++ bytes16 profile.tof4 ++
    bytes16 profile.tof5 ++ bytes16 profile.tof6 ++ bytes16 profile.tof7 ++
    bytes16 profile.eventTiming1 ++ bytes16 profile.eventTiming2 ++
    bytes16 profile.tofMeasurementDelay ++
    bytes16 profile.calibrationControl ++ bytes32 profile.initTimeoutMs ++
    bytes32 profile.resultTimeoutMs ++ bytes32 profile.haltTimeoutMs ++
    bytes32 profile.referenceResistanceMilliohm ++
    bytes32 profile.rtdNominalResistanceMilliohm

def metricsBytes (metrics : Max35103AutoCalMetrics) : List UInt8 :=
  bytes16 metrics.attemptedCount ++ bytes16 metrics.validCount ++
    bytes16 metrics.physicalCount ++ bytes16 metrics.waveValidCount ++
    bytes16 metrics.wvrUpGoodCount ++ bytes16 metrics.wvrDownGoodCount ++
    bytes16 metrics.wvrGoodCount ++ bytes16 metrics.timeoutCount ++
    bytes16 metrics.cycleSlipCount ++ bytes16 metrics.validRatePerMille ++
    bytes16 metrics.physicalRatePerMille ++
    bytes16 metrics.physicalRateRequiredPerMille ++
    bytes16 metrics.waveValidRatePerMille ++
    bytes16 metrics.wvrUpGoodRatePerMille ++
    bytes16 metrics.wvrDownGoodRatePerMille ++
    bytes16 metrics.wvrGoodRatePerMille ++
    bytes16 metrics.cycleSlipRatePerMille ++ bytes64 metrics.medianTofUpPs ++
    bytes64 metrics.medianTofDownPs ++ bytes64 metrics.medianTofDiffPs ++
    bytes64 metrics.directionDeltaPs ++ bytes64 metrics.madTofUpPs ++
    bytes64 metrics.madTofDownPs ++ bytes64 metrics.madTofDiffPs ++
    bytes64 metrics.medianPeriodErrorPs ++ bytes64 metrics.madPeriodErrorPs ++
    leBytes 8 metrics.score ++ bytesBool metrics.communicationGate ++
    bytesBool metrics.directionGate ++ bytesBool metrics.physicalGate ++
    bytesBool metrics.periodGate ++ bytesBool metrics.waveformGate ++
    bytesBool metrics.stageWaveformGate ++ bytesBool metrics.statisticsGate ++
    bytesBool metrics.passed

/-- The evidence fields of a report in schema order. -/
def reportBytes (report : Max35103AutoCalReport) : List UInt8 :=
  bytes32 report.magic ++ bytes16 report.reportVersion ++
    bytes16 report.reportSize ++ bytes32 report.acousticPathLengthUm ++
    bytes64 report.expectedMinTofPs ++ bytes64 report.expectedMaxTofPs ++
    profileBytes report.selectedProfile ++ metricsBytes report.verification ++
    bytes32 report.evaluatedCandidateCount ++
    bytes32 report.attemptedMeasurementCount ++
    bytes16 report.perturbationTested ++ bytes16 report.perturbationPassed ++
    bytes8 report.profileFallbacksUsed ++ bytes64 report.zeroFlowOffsetPs ++
    bytes64 report.zeroFlowMadPs ++ bytes32 report.confidence.code ++
    bytesBool report.resetVerified

/-- `MAX35103_AutoCalReportCrc32`. -/
def reportCrc32 (report : Max35103AutoCalReport) : UInt32 :=
  (reportBytes report).foldl crcByte 0xFFFFFFFF ^^^ 0xFFFFFFFF

/-- The report before its checksum. -/
def draftReport (calibrator : Max35103AutoCalibrator) : Max35103AutoCalReport :=
  let config := calibrator.config
  { magic := reportMagic
    reportVersion := reportVersion
    reportSize := reportStructSize
    acousticPathLengthUm := config.acousticPathLengthUm
    expectedMinTofPs := config.expectedMinTofPs
    expectedMaxTofPs := config.expectedMaxTofPs
    selectedProfile := calibrator.selectedProfile
    verification := calibrator.stageBestMetrics
    evaluatedCandidateCount := calibrator.evaluatedCandidateCount
    attemptedMeasurementCount := calibrator.attemptedMeasurementCount
    perturbationTested := calibrator.perturbationTested
    perturbationPassed := calibrator.perturbationPassed
    profileFallbacksUsed := calibrator.profileFallbacksUsed
    zeroFlowOffsetPs := calibrator.stageBestMetrics.medianTofDiffPs
    zeroFlowMadPs := calibrator.stageBestMetrics.madTofDiffPs
    confidence :=
      if config.zeroFlowConfirmed = true ∧
          calibrator.stageBestMetrics.madTofDiffPs ≤ config.maxDiffMadPs then
        .zeroFlowCompensated
      else .acousticVerified
    resetVerified := true
    evidenceCrc32 := 0 }

def finalizeReport (calibrator : Max35103AutoCalibrator) :
    Max35103AutoCalibrator :=
  let report := draftReport calibrator
  { calibrator with
    report := { report with evidenceCrc32 := reportCrc32 report }
    reportAvailable := true }

end Swfpm.AutoCal
