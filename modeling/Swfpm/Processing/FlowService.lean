import Swfpm.Numeric.CheckedMath
import Swfpm.Repository.DataRepository

/-!
# The flow computation service

Embedding of the flow and calibration part of
`services/configuration/sensor_profile.h` and of
`services/processing/flow_service.{h,c}`.  `flow_service_accept_tof` is left
out: the measurement manager goes through `flow_service_accept_sample`.
-/

namespace Swfpm

structure ProfileIdentity where
  profileId : UInt32
  schemaVersion : UInt32
  calibrationVersion : UInt32
  qualificationStatus : UInt8
  deriving DecidableEq, Repr

structure FlowProfile where
  id : ProfileIdentity
  pipeArea : Int64
  pathLength : Int64
  acousticVelocity : Int64
  deriving DecidableEq, Repr

structure CalibrationRecord where
  recordVersion : UInt32
  gain : Int64
  offset : Int64
  shift : UInt8
  deriving DecidableEq, Repr

inductive FlowProcessStatus where
  | ok
  | invalidTof
  | temperatureMissing
  | temperatureStale
  | profileError
  | numericError
  | internalError
  deriving DecidableEq, Repr

/-- The members that `flow_compute` sets. -/
structure FlowCandidate where
  flowUlPerS : Int64
  direction : FlowDirection
  deriving DecidableEq, Repr

/-- The service keeps profile and calibration by reference; `none` is null. -/
structure FlowService where
  generation : UInt32
  activeProfile : Option FlowProfile
  activeCal : Option CalibrationRecord
  acceptedCount : UInt32
  rejectedStaleCount : UInt32
  deriving DecidableEq, Repr

/-- Velocity times cross section, before the calibration; `none` is an
overflow. -/
def rawFlow (deltaTof : Int64) (profile : FlowProfile) : Option Int64 := do
  let cSquared ←
    checkedMulI64 profile.acousticVelocity profile.acousticVelocity
  let numerator ← checkedMulI64 cSquared deltaTof
  let numerator ← checkedMulI64 numerator 1000
  let denominator ← checkedMulI64 profile.pathLength 2000000000000
  if denominator = 0 then none
  else
    let velocityMmPerS := numerator / denominator
    let flowRaw ← checkedMulI64 velocityMmPerS profile.pipeArea
    some (flowRaw / 1000)

/-- The candidate is meaningful where the status is `ok`. -/
def flowCompute (tofUpPs tofDownPs : Int64) (pairedTempMdegC : Int32)
    (profile : FlowProfile) (cal : CalibrationRecord) :
    FlowProcessStatus × FlowCandidate :=
  let cleared : FlowCandidate := ⟨0, .forward⟩
  if tofUpPs < 8000000 ∨ tofDownPs < 8000000 ∨ tofUpPs > 8000000000 ∨
      tofDownPs > 8000000000 ∨ profile.pathLength ≤ 0 ∨
      profile.pipeArea ≤ 0 ∨ profile.acousticVelocity ≤ 0 then
    (.invalidTof, cleared)
  else
    match checkedSubI64 tofDownPs tofUpPs with
    | none => (.numericError, cleared)
    | some deltaTof =>
        if pairedTempMdegC < -50000 ∨ pairedTempMdegC > 150000 then
          (.temperatureMissing, cleared)
        else
          match rawFlow deltaTof profile with
          | none => (.numericError, cleared)
          | some flowRaw =>
              match applyGainOffset flowRaw cal.gain cal.offset cal.shift with
              | none => (.numericError, cleared)
              | some flowCal =>
                  (.ok,
                    { flowUlPerS := flowCal
                      direction :=
                        if flowCal > 0 then .forward
                        else if flowCal < 0 then .reverse
                        else .none })

namespace FlowService

variable (self : FlowService)

def init : FlowService :=
  { generation := 1, activeProfile := none, activeCal := none
    acceptedCount := 0, rejectedStaleCount := 0 }

def setProfile (profile : FlowProfile) : FlowService :=
  { self with activeProfile := some profile }

def setCalibration (cal : CalibrationRecord) : FlowService :=
  { self with activeCal := some cal }

/-- The temperature that belongs to a flow sample. -/
def checkTemperature (metadata : ResultMetadata)
    (pairedTemperature : TemperatureResult) : Option FlowProcessStatus :=
  let temperature := pairedTemperature.metadata
  if temperature.validity ≠ .valid ∨ temperature.freshness ≠ .fresh ∨
      temperature.acceptance ≠ .accepted then
    some .temperatureMissing
  else
    let flowTime := metadata.sampleMonotonicUs
    let tempTime := temperature.sampleMonotonicUs
    let age :=
      if flowTime > tempTime then flowTime - tempTime else tempTime - flowTime
    if age > 5000000 then some .temperatureStale else none

/-- The result that an accepted candidate is published as. -/
def resultOf (metadata : ResultMetadata) (pairedTemperature : TemperatureResult)
    (profile : FlowProfile) (cal : CalibrationRecord)
    (candidate : FlowCandidate) : FlowResult :=
  { FlowResult.cleared with
    metadata :=
      { metadata with
        configVersion := profile.id.schemaVersion
        calibrationVersion := cal.recordVersion
        binding :=
          { metadata.binding with profileVersion := profile.id.schemaVersion } }
    flowUlPerS := candidate.flowUlPerS
    direction := candidate.direction
    pairedTemperatureSequence := pairedTemperature.metadata.sampleSequence }

def acceptSample (tofUpPs tofDownPs : Int64) (metadata : ResultMetadata)
    (pairedTemperature : TemperatureResult) (txn : RepoWriteTxn)
    (repo : DataRepository) :
    FlowProcessStatus × FlowService × RepoWriteTxn × DataRepository :=
  match self.activeProfile, self.activeCal with
  | some profile, some cal =>
      match checkTemperature metadata pairedTemperature with
      | some status => (status, self, txn, repo)
      | none =>
          let rejected :=
            { self with rejectedStaleCount := self.rejectedStaleCount + 1 }
          match flowCompute tofUpPs tofDownPs
              pairedTemperature.temperatureMdegC profile cal with
          | (.ok, candidate) =>
              let result :=
                resultOf metadata pairedTemperature profile cal candidate
              match txn.txnWriteFlow repo result with
              | (false, txn, repo) => (.internalError, rejected, txn, repo)
              | (true, txn, repo) =>
                  (.ok, { self with acceptedCount := self.acceptedCount + 1 },
                    txn, repo)
          | (status, _) => (status, rejected, txn, repo)
  | _, _ => (.profileError, self, txn, repo)

end FlowService
end Swfpm
