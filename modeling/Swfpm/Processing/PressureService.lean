import Swfpm.Processing.FlowService

/-!
# The pressure service

Embedding of the pressure part of `services/configuration/sensor_profile.h` and
of `services/processing/pressure_service.{h,c}`.  `pressure_service_accept_raw`
is left out: the measurement manager goes through
`pressure_service_accept_sample`.
-/

namespace Swfpm

structure PressureProfile where
  id : ProfileIdentity
  paMin : Int32
  paMax : Int32
  applicationMin : Int32
  applicationMax : Int32
  endpointLoRaw : Int64
  endpointHiRaw : Int64
  endpointLoPa : Int32
  endpointHiPa : Int32
  referenceType : UInt8
  deriving DecidableEq, Repr

inductive PressureProcessStatus where
  | ok
  | invalidRaw
  | statusInvalid
  | mappingError
  | profileError
  | numericError
  | internalError
  deriving DecidableEq, Repr

structure PressureService where
  generation : UInt32
  activeProfile : Option PressureProfile
  activeCal : Option CalibrationRecord
  acceptedCount : UInt32
  rejectedCount : UInt32
  deriving DecidableEq, Repr

/-- The pressure is meaningful where the status is `ok`. -/
def pressureConvert (rawU24 : UInt32) (status : UInt8)
    (profile : PressureProfile) (cal : CalibrationRecord) :
    PressureProcessStatus × Int32 :=
  let powered : Bool := status &&& 0x40 ≠ 0
  let reservedMode : Bool := status &&& 0x18 = 0x18
  if status &&& 0x80 ≠ 0 ∨ !powered ∨ reservedMode ∨ status &&& 0x27 ≠ 0 then
    (.statusInvalid, 0)
  else if rawU24 > 0xFFFFFF then (.invalidRaw, 0)
  else if profile.endpointHiRaw ≤ profile.endpointLoRaw then (.mappingError, 0)
  else
    let rawRange := profile.endpointHiRaw - profile.endpointLoRaw
    let paRange := profile.endpointHiPa.toInt64 - profile.endpointLoPa.toInt64
    let rawOffset := rawU24.toUInt64.toInt64 - profile.endpointLoRaw
    match checkedMulI64 rawOffset paRange with
    | none => (.numericError, 0)
    | some product =>
        let pressureRaw := product / rawRange + profile.endpointLoPa.toInt64
        match applyGainOffset pressureRaw cal.gain cal.offset cal.shift with
        | none => (.numericError, 0)
        | some pressureCal => (.ok, pressureCal.toInt32)

namespace PressureService

variable (self : PressureService)

def init : PressureService :=
  { generation := 1, activeProfile := none, activeCal := none
    acceptedCount := 0, rejectedCount := 0 }

def setProfile (profile : PressureProfile) : PressureService :=
  { self with activeProfile := some profile }

def setCalibration (cal : CalibrationRecord) : PressureService :=
  { self with activeCal := some cal }

def resultOf (metadata : ResultMetadata) (profile : PressureProfile)
    (cal : CalibrationRecord) (pressurePa : Int32) : PressureResult :=
  { PressureResult.cleared with
    metadata :=
      { metadata with
        configVersion := profile.id.schemaVersion
        calibrationVersion := cal.recordVersion
        binding :=
          { metadata.binding with profileVersion := profile.id.schemaVersion } }
    pressurePa }

def acceptSample (rawU24 : UInt32) (status : UInt8) (metadata : ResultMetadata)
    (txn : RepoWriteTxn) (repo : DataRepository) :
    PressureProcessStatus × PressureService × RepoWriteTxn × DataRepository :=
  match self.activeProfile, self.activeCal with
  | some profile, some cal =>
      let rejected := { self with rejectedCount := self.rejectedCount + 1 }
      match pressureConvert rawU24 status profile cal with
      | (.ok, pressurePa) =>
          let result := resultOf metadata profile cal pressurePa
          match txn.txnWritePressure repo result with
          | (false, txn, repo) => (.internalError, rejected, txn, repo)
          | (true, txn, repo) =>
              (.ok, { self with acceptedCount := self.acceptedCount + 1 }, txn,
                repo)
      | (status, _) => (status, rejected, txn, repo)
  | _, _ => (.profileError, self, txn, repo)

end PressureService
end Swfpm
