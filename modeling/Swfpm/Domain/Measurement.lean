import Mathlib

/-!
# Measurement results and their metadata

Embedding of the domain types that every measurement service shares:
`domain/common/metadata.h`, `domain/measurement/measurement_types.h` and
`domain/product/volume_types.h`.
-/

namespace Swfpm

inductive DataValidity where
  | valid
  | invalid
  | unavailable
  deriving DecidableEq, Repr

inductive DataFreshness where
  | fresh
  | stale
  | unknown
  deriving DecidableEq, Repr

inductive ProductionAcceptance where
  | accepted
  | degradedNotAccepted
  | rejected
  deriving DecidableEq, Repr

inductive MeasurementPurpose where
  | bootSelfCheck
  | production
  | service
  | calibration
  | diagnostic
  | recoveryVerify
  deriving DecidableEq, Repr

inductive DataOrigin where
  | liveDevice
  | simulatedDevice
  | replayedFixture
  deriving DecidableEq, Repr

inductive DataProvenance where
  | measured
  | restored
  | defaulted
  | estimated
  deriving DecidableEq, Repr

inductive TimeQuality where
  | valid
  | invalid
  | estimated
  | unknown
  deriving DecidableEq, Repr

structure MeasurementBindingReference where
  bindingId : UInt32
  bindingVersion : UInt32
  profileVersion : UInt32
  deriving DecidableEq, Repr

structure ResultMetadata where
  sourceId : UInt32
  sourceGeneration : UInt32
  sampleSequence : UInt64
  resultVersion : UInt64
  sampleMonotonicUs : UInt64
  completionMonotonicUs : UInt64
  wallTimeS : Int64
  configVersion : UInt32
  calibrationVersion : UInt32
  reasonFlags : UInt32
  validity : DataValidity
  freshness : DataFreshness
  acceptance : ProductionAcceptance
  purpose : MeasurementPurpose
  origin : DataOrigin
  provenance : DataProvenance
  binding : MeasurementBindingReference
  timeQuality : TimeQuality
  deriving DecidableEq, Repr

inductive FlowDirection where
  | forward
  | reverse
  | none
  deriving DecidableEq, Repr

structure TemperatureResult where
  metadata : ResultMetadata
  temperatureMdegC : Int32
  processingFlags : UInt32
  deriving DecidableEq, Repr

structure FlowResult where
  metadata : ResultMetadata
  flowUlPerS : Int64
  direction : FlowDirection
  compensationFlags : UInt32
  processingFlags : UInt32
  pairedTemperatureSequence : UInt64
  deriving DecidableEq, Repr

structure PressureResult where
  metadata : ResultMetadata
  pressurePa : Int32
  processingFlags : UInt32
  deriving DecidableEq, Repr

structure VolumeState where
  stateVersion : UInt64
  totalVolumeUl : UInt64
  forwardVolumeUl : UInt64
  reverseVolumeUl : UInt64
  forwardRemainder : UInt64
  reverseRemainder : UInt64
  lastConsumedFlowSequence : UInt64
  lastSampleMonotonicUs : UInt64
  anchorSampleMonotonicUs : UInt64
  anchorFlowUlPerS : Int64
  sourceGeneration : UInt32
  bindingId : UInt32
  updatedMonotonicUs : UInt64
  checkpointedForwardUl : UInt64
  checkpointedReverseUl : UInt64
  checkpointSequence : UInt64
  configVersion : UInt32
  flags : UInt32
  deriving DecidableEq, Repr

/-! ## Memory cleared by `memset` -/

def MeasurementBindingReference.cleared : MeasurementBindingReference :=
  ⟨0, 0, 0⟩

/-- The zero of each enumeration is its first member. -/
def ResultMetadata.cleared : ResultMetadata :=
  { sourceId := 0, sourceGeneration := 0, sampleSequence := 0
    resultVersion := 0, sampleMonotonicUs := 0, completionMonotonicUs := 0
    wallTimeS := 0, configVersion := 0, calibrationVersion := 0
    reasonFlags := 0, validity := .valid, freshness := .fresh
    acceptance := .accepted, purpose := .bootSelfCheck, origin := .liveDevice
    provenance := .measured, binding := .cleared, timeQuality := .valid }

def TemperatureResult.cleared : TemperatureResult := ⟨.cleared, 0, 0⟩

def FlowResult.cleared : FlowResult := ⟨.cleared, 0, .forward, 0, 0, 0⟩

def PressureResult.cleared : PressureResult := ⟨.cleared, 0, 0⟩

def VolumeState.cleared : VolumeState :=
  ⟨0, 0, 0, 0, 0, 0, 0, 0, 0, 0, 0, 0, 0, 0, 0, 0, 0, 0⟩

end Swfpm
