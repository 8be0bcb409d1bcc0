import Swfpm.AutoCal.Profile

/-!
# The auto-calibrator's data

Embedding of the types of
`3.stm32/Service/auto_calibrate_max35103/inc/max35103_autocal.h` and of the
checks of `max35103_autocal.c` that `Init` and `Start` make on them.  The
backend's callbacks work on a context of any type, which each of them takes and
returns; a null callback or pointer is not modelled.  Of the driver's results
only the fields that the service reads are kept.
-/

namespace Swfpm.AutoCal

inductive Max35103AutoCalState where
  | idle
  | discovery
  | biasCharge
  | dlyFine
  | offsetUpCoarse
  | offsetUpFine
  | offsetDownCoarse
  | offsetDownFine
  | waveSelect
  | returnUp
  | returnDown
  | verify
  | robustness
  | resetVerify
  | complete
  | failed
  | cancelled
  deriving DecidableEq, Repr

inductive Max35103AutoCalStatus where
  | ok
  | running
  | complete
  | invalidArg
  | driverError
  | noCandidate
  | cancelled
  deriving DecidableEq, Repr

inductive Max35103AutoCalConfidence where
  | none
  | candidate
  | acousticVerified
  | zeroFlowCompensated
  deriving DecidableEq, Repr

/-- The number that the enumeration gives a confidence. -/
def Max35103AutoCalConfidence.code : Max35103AutoCalConfidence → UInt32
  | .none => 0
  | .candidate => 1
  | .acousticVerified => 2
  | .zeroFlowCompensated => 3

/-- `MAX35103_AUTOCAL_PERTURBATION_COUNT`. -/
def perturbationCount : UInt8 := 8

/-- `MAX35103_AUTOCAL_DISCOVERY_FINALISTS`. -/
def discoveryFinalists : UInt8 := 4

/-! ## The backend -/

structure Max35103RawResult where
  tofDiffPs : Int64
  valid : Bool
  deriving DecidableEq, Repr

structure Max35103WaveEvidence where
  wvrUpT1T2Q7 : UInt8
  wvrUpT2IdealQ7 : UInt8
  wvrDownT1T2Q7 : UInt8
  wvrDownT2IdealQ7 : UInt8
  hitUpPs : Vector Int64 6
  hitDownPs : Vector Int64 6
  configuredHitCount : UInt8
  valid : Bool
  deriving DecidableEq, Repr

/-- What one call of the measure callback answers. -/
structure Measurement where
  status : Max35103Status
  result : Max35103RawResult
  wave : Max35103WaveEvidence
  deriving DecidableEq, Repr

structure Max35103AutoCalBackend (κ : Type*) where
  configure : κ → Max35103Profile → Max35103Status × κ
  measure : κ → Measurement × κ
  reset : κ → Max35103Status × κ

/-! ## Configuration, samples, metrics and report -/

structure Max35103AutoCalConfig where
  acousticPathLengthUm : UInt32
  expectedMinTofPs : Int64
  expectedMaxTofPs : Int64
  dplMin : UInt8
  dplMax : UInt8
  pulseCountMin : UInt8
  pulseCountMax : UInt8
  pulseCountStep : UInt8
  ctMask : UInt8
  tryBothPolarities : Bool
  dlyMin : UInt16
  dlyMax : UInt16
  dlyCoarseStep : UInt16
  dlyFineStep : UInt16
  initialOffsetMin : UInt8
  initialOffsetMax : UInt8
  initialOffsetCoarseStep : UInt8
  initialOffsetFineStep : UInt8
  returnOffsetMin : Int8
  returnOffsetMax : Int8
  returnOffsetStep : UInt8
  t2WaveMin : UInt8
  t2WaveMax : UInt8
  hitCountMin : UInt8
  hitCountMax : UInt8
  samplesPerCandidate : UInt16
  finalistSamples : UInt16
  verificationSamples : UInt16
  minValidRatePerMille : UInt16
  minTuningPhysicalRatePerMille : UInt16
  minPhysicalRatePerMille : UInt16
  minWaveValidRatePerMille : UInt16
  minWvrGoodRatePerMille : UInt16
  wvrT1T2MinQ7 : UInt8
  wvrT2IdealMinQ7 : UInt8
  wvrRatioMaxQ7 : UInt8
  maxTofMadPs : Int64
  maxDiffMadPs : Int64
  maxPeriodErrorPs : Int64
  maxDirectionDeltaPs : Int64
  maxCycleSlips : UInt16
  maxCycleSlipRatePerMille : UInt16
  requiredPerturbationPasses : UInt8
  maxConsecutiveDriverErrors : UInt8
  maxStageRetries : UInt8
  maxProfileFallbacks : UInt8
  maxBusyPolls : UInt16
  zeroFlowConfirmed : Bool
  deriving DecidableEq, Repr

structure Max35103AutoCalSample where
  tofUpPs : Int64
  tofDownPs : Int64
  tofDiffPs : Int64
  periodErrorPs : Int64
  workPs : Int64
  flags : UInt8
  deriving DecidableEq, Repr

def Max35103AutoCalSample.zero : Max35103AutoCalSample :=
  { tofUpPs := 0, tofDownPs := 0, tofDiffPs := 0, periodErrorPs := 0, workPs := 0
    flags := 0 }

/-- `MAX35103_AUTOCAL_SAMPLE_VALID` and the flags after it. -/
def sampleValid : UInt8 := 0x01
def samplePhysical : UInt8 := 0x02
def sampleWaveValid : UInt8 := 0x04
def sampleWvrUpGood : UInt8 := 0x08
def sampleWvrDnGood : UInt8 := 0x10
def sampleWvrGood : UInt8 := 0x20

structure Max35103AutoCalMetrics where
  attemptedCount : UInt16
  validCount : UInt16
  physicalCount : UInt16
  waveValidCount : UInt16
  wvrUpGoodCount : UInt16
  wvrDownGoodCount : UInt16
  wvrGoodCount : UInt16
  timeoutCount : UInt16
  cycleSlipCount : UInt16
  validRatePerMille : UInt16
  physicalRatePerMille : UInt16
  physicalRateRequiredPerMille : UInt16
  waveValidRatePerMille : UInt16
  wvrUpGoodRatePerMille : UInt16
  wvrDownGoodRatePerMille : UInt16
  wvrGoodRatePerMille : UInt16
  cycleSlipRatePerMille : UInt16
  medianTofUpPs : Int64
  medianTofDownPs : Int64
  medianTofDiffPs : Int64
  directionDeltaPs : Int64
  madTofUpPs : Int64
  madTofDownPs : Int64
  madTofDiffPs : Int64
  medianPeriodErrorPs : Int64
  madPeriodErrorPs : Int64
  score : UInt64
  communicationGate : Bool
  directionGate : Bool
  physicalGate : Bool
  periodGate : Bool
  waveformGate : Bool
  stageWaveformGate : Bool
  statisticsGate : Bool
  passed : Bool
  deriving DecidableEq, Repr

def Max35103AutoCalMetrics.zero : Max35103AutoCalMetrics :=
  { attemptedCount := 0, validCount := 0, physicalCount := 0, waveValidCount := 0
    wvrUpGoodCount := 0, wvrDownGoodCount := 0, wvrGoodCount := 0
    timeoutCount := 0, cycleSlipCount := 0, validRatePerMille := 0
    physicalRatePerMille := 0, physicalRateRequiredPerMille := 0
    waveValidRatePerMille := 0, wvrUpGoodRatePerMille := 0
    wvrDownGoodRatePerMille := 0, wvrGoodRatePerMille := 0
    cycleSlipRatePerMille := 0, medianTofUpPs := 0, medianTofDownPs := 0
    medianTofDiffPs := 0, directionDeltaPs := 0, madTofUpPs := 0
    madTofDownPs := 0, madTofDiffPs := 0, medianPeriodErrorPs := 0
    madPeriodErrorPs := 0, score := 0, communicationGate := false
    directionGate := false, physicalGate := false, periodGate := false
    waveformGate := false, stageWaveformGate := false, statisticsGate := false
    passed := false }

structure Max35103AutoCalReport where
  magic : UInt32
  reportVersion : UInt16
  reportSize : UInt16
  acousticPathLengthUm : UInt32
  expectedMinTofPs : Int64
  expectedMaxTofPs : Int64
  selectedProfile : Max35103Profile
  verification : Max35103AutoCalMetrics
  evaluatedCandidateCount : UInt32
  attemptedMeasurementCount : UInt32
  perturbationTested : UInt16
  perturbationPassed : UInt16
  profileFallbacksUsed : UInt8
  zeroFlowOffsetPs : Int64
  zeroFlowMadPs : Int64
  confidence : Max35103AutoCalConfidence
  resetVerified : Bool
  evidenceCrc32 : UInt32
  deriving DecidableEq, Repr

def Max35103AutoCalReport.zero : Max35103AutoCalReport :=
  { magic := 0, reportVersion := 0, reportSize := 0, acousticPathLengthUm := 0
    expectedMinTofPs := 0, expectedMaxTofPs := 0
    selectedProfile := .zero, verification := .zero, evaluatedCandidateCount := 0
    attemptedMeasurementCount := 0, perturbationTested := 0
    perturbationPassed := 0, profileFallbacksUsed := 0, zeroFlowOffsetPs := 0
    zeroFlowMadPs := 0, confidence := .none, resetVerified := false
    evidenceCrc32 := 0 }

/-! ## The calibrator -/

structure Max35103AutoCalibrator where
  config : Max35103AutoCalConfig
  seedProfile : Max35103Profile
  stageBaseProfile : Max35103Profile
  candidateProfile : Max35103Profile
  stageBestProfile : Max35103Profile
  selectedProfile : Max35103Profile
  discoveryFinalistProfiles : List Max35103Profile
  /-- The entries of the borrowed workspace. -/
  samples : List Max35103AutoCalSample
  sampleCapacity : UInt16
  state : Max35103AutoCalState
  status : Max35103AutoCalStatus
  lastDriverStatus : Max35103Status
  candidateIndex : UInt32
  candidateCount : UInt32
  sampleIndex : UInt16
  sampleTarget : UInt16
  evaluatedCandidateCount : UInt32
  attemptedMeasurementCount : UInt32
  candidateMetrics : Max35103AutoCalMetrics
  stageBestMetrics : Max35103AutoCalMetrics
  discoveryFinalistMetrics : List Max35103AutoCalMetrics
  stageClosestProfile : Max35103Profile
  stageClosestMetrics : Max35103AutoCalMetrics
  stageBestValid : Bool
  stageClosestValid : Bool
  candidateStarted : Bool
  candidateConfigured : Bool
  recoveryRequired : Bool
  resetPerformed : Bool
  consecutiveDriverErrors : UInt8
  busyPollCount : UInt16
  lastWvrUpT1T2Q7 : UInt8
  lastWvrUpT2IdealQ7 : UInt8
  lastWvrDownT1T2Q7 : UInt8
  lastWvrDownT2IdealQ7 : UInt8
  stageRetryCount : UInt8
  discoveryFinalistCount : UInt8
  discoveryFinalistIndex : UInt8
  profileFallbacksUsed : UInt8
  perturbationTested : UInt16
  perturbationPassed : UInt16
  failureState : Max35103AutoCalState
  failureProfile : Max35103Profile
  failureMetrics : Max35103AutoCalMetrics
  failureCandidateIndex : UInt32
  failureRetryCount : UInt8
  report : Max35103AutoCalReport
  reportAvailable : Bool
  deriving DecidableEq, Repr

/-! ## Contract validation -/

def configValid (config : Max35103AutoCalConfig) (sampleCapacity : UInt16) :
    Bool :=
  if config.acousticPathLengthUm = 0 ∨ config.expectedMinTofPs ≤ 0 ∨
      config.expectedMaxTofPs ≤ config.expectedMinTofPs ∨ config.dplMin = 0 ∨
      config.dplMax > 15 ∨ config.dplMax < config.dplMin ∨
      config.pulseCountMin = 0 ∨ config.pulseCountMax > 127 ∨
      config.pulseCountMax < config.pulseCountMin ∨ config.pulseCountStep = 0 ∨
      config.ctMask &&& 0x0F = 0 ∨ config.dlyMin < tofDelayMin ∨
      config.dlyMax < config.dlyMin ∨ config.dlyCoarseStep = 0 ∨
      config.dlyFineStep = 0 ∨ config.initialOffsetMax > 127 ∨
      config.initialOffsetMax < config.initialOffsetMin ∨
      config.initialOffsetCoarseStep = 0 ∨ config.initialOffsetFineStep = 0 ∨
      config.returnOffsetMax < config.returnOffsetMin ∨
      config.returnOffsetStep = 0 ∨ config.t2WaveMin < 2 ∨
      config.t2WaveMax > 57 ∨ config.t2WaveMax < config.t2WaveMin ∨
      config.hitCountMin < 2 ∨ config.hitCountMax > waveHitCount ∨
      config.hitCountMax < config.hitCountMin ∨
      config.samplesPerCandidate = 0 ∨ config.finalistSamples = 0 ∨
      config.verificationSamples = 0 ∨
      config.samplesPerCandidate > sampleCapacity ∨
      config.finalistSamples > sampleCapacity ∨
      config.verificationSamples > sampleCapacity ∨
      config.minValidRatePerMille > 1000 ∨
      config.minTuningPhysicalRatePerMille > 1000 ∨
      config.minPhysicalRatePerMille > 1000 ∨
      config.minWaveValidRatePerMille > 1000 ∨
      config.minWvrGoodRatePerMille > 1000 ∨ config.wvrT1T2MinQ7 = 0 ∨
      config.wvrT2IdealMinQ7 = 0 ∨ config.wvrRatioMaxQ7 < config.wvrT1T2MinQ7 ∨
      config.wvrRatioMaxQ7 < config.wvrT2IdealMinQ7 ∨ config.maxTofMadPs < 0 ∨
      config.maxDiffMadPs < 0 ∨ config.maxPeriodErrorPs < 0 ∨
      config.maxDirectionDeltaPs ≤ 0 ∨ config.maxCycleSlipRatePerMille > 1000 ∨
      config.requiredPerturbationPasses > perturbationCount ∨
      config.maxProfileFallbacks ≥ discoveryFinalists ∨
      config.maxConsecutiveDriverErrors = 0 ∨ config.maxBusyPolls = 0 then false
  else true

end Swfpm.AutoCal
