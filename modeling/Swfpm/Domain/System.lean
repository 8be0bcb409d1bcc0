import Swfpm.Domain.Measurement

/-!
# System, leak and power types

Embedding of `domain/common/status.h`, `domain/system/system_types.h`,
`domain/product/leak_types.h` and `domain/power/power_types.h`.
-/

namespace Swfpm

/-! ## Status -/

inductive ConnectivityStatus where
  | notReady
  | connecting
  | online
  | offline
  | degraded
  deriving DecidableEq, Repr

inductive MeasurementStatus where
  | active
  | quiesced
  | degraded
  | disabled
  deriving DecidableEq, Repr

structure OrthogonalStatusSet where
  connectivity : ConnectivityStatus
  measurement : MeasurementStatus
  storageStatusFlags : UInt32
  diagnosticSummaryFlags : UInt32
  deriving DecidableEq, Repr

/-! ## System mode -/

/-- `SYSTEM_MODE_COUNT` is no mode. -/
inductive SystemMode where
  | init
  | normal
  | lowPower
  | service
  | recovery
  | error
  deriving DecidableEq, Repr

structure SystemModeContext where
  currentMode : SystemMode
  modeGeneration : UInt32
  transitionSequence : UInt64
  enteredAtMonotonicUs : UInt64
  reasonCode : UInt32
  sourceEventId : UInt32
  correlationId : UInt64
  deriving DecidableEq, Repr

structure ModeGuardContext where
  coreReady : Bool
  flowReadinessEvidenceValid : Bool
  serviceReady : Bool
  serviceAuthorized : Bool
  safeServiceBoundary : Bool
  safeToResumeNormal : Bool
  criticalBlockerPresent : Bool
  wakeSourcesArmed : Bool
  recoveryCanRun : Bool
  returnNormal : Bool
  returnService : Bool
  reinitializeAllowed : Bool
  blockerMask : UInt32
  readinessGeneration : UInt32
  serviceSessionGeneration : UInt32
  recoveryGeneration : UInt32
  deriving DecidableEq, Repr

/-! ## Leak detection -/

inductive LeakState where
  | normal
  | suspected
  | confirmed
  deriving DecidableEq, Repr

inductive LeakEvaluationStatus where
  | notReady
  | active
  | degraded
  | unavailable
  deriving DecidableEq, Repr

inductive LeakPrimaryReason where
  | none
  | continuousFlow
  | highFlowBurst
  deriving DecidableEq, Repr

inductive LeakSeverity where
  | none
  | low
  | medium
  | high
  deriving DecidableEq, Repr

structure LeakDetectionResult where
  resultVersion : UInt64
  stateChangeSequence : UInt64
  state : LeakState
  evaluationStatus : LeakEvaluationStatus
  primaryReason : LeakPrimaryReason
  severity : LeakSeverity
  reasonFlags : UInt32
  evidenceFlags : UInt32
  qualityFlags : UInt32
  stateEnteredMonotonicUs : UInt64
  latestEvidenceMonotonicUs : UInt64
  continuousDurationUs : UInt64
  pressureEvidenceDurationUs : UInt64
  sourceSnapshotVersion : UInt64
  flowResultVersion : UInt64
  pressureResultVersion : UInt64
  volumeStateVersion : UInt64
  runtimeGeneration : UInt32
  configVersion : UInt32
  algorithmVersion : UInt32
  profileVersion : UInt32
  eventWallTimeS : Int64
  eventTimeQuality : TimeQuality
  deriving DecidableEq, Repr

/-! ## Power -/

inductive PowerHealth where
  | unknown
  | normal
  | low
  | critical
  deriving DecidableEq, Repr

structure PowerSnapshot where
  sampleSequence : UInt64
  sampleMonotonicUs : UInt64
  batteryMv : UInt16
  rawAdc : UInt16
  qualityFlags : UInt8
  available : Bool
  health : PowerHealth
  deriving DecidableEq, Repr

/-! ## Memory cleared by `memset` -/

def OrthogonalStatusSet.cleared : OrthogonalStatusSet :=
  ⟨.notReady, .active, 0, 0⟩

def SystemModeContext.cleared : SystemModeContext :=
  ⟨.init, 0, 0, 0, 0, 0, 0⟩

def ModeGuardContext.cleared : ModeGuardContext :=
  { coreReady := false, flowReadinessEvidenceValid := false
    serviceReady := false, serviceAuthorized := false
    safeServiceBoundary := false, safeToResumeNormal := false
    criticalBlockerPresent := false, wakeSourcesArmed := false
    recoveryCanRun := false, returnNormal := false, returnService := false
    reinitializeAllowed := false, blockerMask := 0, readinessGeneration := 0
    serviceSessionGeneration := 0, recoveryGeneration := 0 }

def LeakDetectionResult.cleared : LeakDetectionResult :=
  { resultVersion := 0, stateChangeSequence := 0, state := .normal
    evaluationStatus := .notReady, primaryReason := .none, severity := .none
    reasonFlags := 0, evidenceFlags := 0, qualityFlags := 0
    stateEnteredMonotonicUs := 0, latestEvidenceMonotonicUs := 0
    continuousDurationUs := 0, pressureEvidenceDurationUs := 0
    sourceSnapshotVersion := 0, flowResultVersion := 0
    pressureResultVersion := 0, volumeStateVersion := 0
    runtimeGeneration := 0, configVersion := 0, algorithmVersion := 0
    profileVersion := 0, eventWallTimeS := 0, eventTimeQuality := .valid }

def PowerSnapshot.cleared : PowerSnapshot :=
  ⟨0, 0, 0, 0, 0, false, .unknown⟩

end Swfpm
