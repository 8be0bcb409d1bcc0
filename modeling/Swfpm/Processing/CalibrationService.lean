import Swfpm.Processing.FlowService
import Swfpm.Processing.ProfileValidation
import Swfpm.Repository.Transactions
import Swfpm.Queue.EventQueue

/-!
# The temperature calibration service

Embedding of `services/calibration/calibration_service.{h,c}`.  The four halves
of a raw sample are one structure.  The channel binding, which nothing reads,
is left out.
-/

namespace Swfpm

inductive TemperatureProcessStatus where
  | ok
  | invalidSample
  | staleSample
  | profileError
  | numericError
  | internalError
  deriving DecidableEq, Repr

/-- The candidate without its source, which stays cleared. -/
structure TemperatureCandidate where
  resistanceUohm : Int64
  unfilteredTemperatureMdegC : Int32
  processingFlags : UInt32
  metadata : ResultMetadata
  deriving DecidableEq, Repr

def TemperatureCandidate.cleared : TemperatureCandidate := ⟨0, 0, 0, .cleared⟩

/-- Probe and reference timing, in `2 ^ -16` units. -/
structure RawTemperature where
  probeInteger : UInt16
  probeFraction : UInt16
  refInteger : UInt16
  refFraction : UInt16
  deriving DecidableEq, Repr

/-- The join of the two halves of a timing value. -/
def q16Join (integer fraction : UInt16) : UInt32 :=
  (integer.toUInt32 <<< 16) ||| fraction.toUInt32

/-- The candidate is meaningful where the status is `ok`. -/
def temperatureConvertRaw (raw : RawTemperature) (profile : TemperatureProfile)
    (cal : CalibrationRecord) :
    TemperatureProcessStatus × TemperatureCandidate :=
  let candidate := TemperatureCandidate.cleared
  let nProbe := q16Join raw.probeInteger raw.probeFraction
  let nRef := q16Join raw.refInteger raw.refFraction
  if nRef = 0 then (.invalidSample, candidate)
  else
    let product := nProbe.toUInt64 * profile.rtdR0.toUInt64
    let resistanceUohm := (product / nRef.toUInt64).toInt64
    match applyGainOffset resistanceUohm cal.gain cal.offset cal.shift with
    | none => (.numericError, candidate)
    | some correctedRes =>
        let candidate := { candidate with resistanceUohm := correctedRes }
        match interpolateI64 correctedRes profile.rtdResTable
            profile.rtdTempTable profile.rtdTableSize with
        | none => (.numericError, candidate)
        | some tempRaw =>
            (.ok,
              { candidate with
                unfilteredTemperatureMdegC := tempRaw.toInt32
                processingFlags := 0 })

/-- The service keeps profile and calibration by reference; `none` is null. -/
structure CalibrationService where
  generation : UInt32
  activeProfile : Option TemperatureProfile
  activeCal : Option CalibrationRecord
  acceptedCount : UInt32
  rejectedStaleCount : UInt32
  rejectedInvalidCount : UInt32

namespace CalibrationService

def init : CalibrationService :=
  { generation := 1, activeProfile := none, activeCal := none
    acceptedCount := 0, rejectedStaleCount := 0, rejectedInvalidCount := 0 }

variable (self : CalibrationService)

def setProfile (profile : Option TemperatureProfile) : CalibrationService :=
  { self with activeProfile := profile }

def setCalibration (cal : Option CalibrationRecord) : CalibrationService :=
  { self with activeCal := cal }

/-- The result that a converted candidate is published as. -/
def resultOf (candidate : TemperatureCandidate) : TemperatureResult :=
  { TemperatureResult.cleared with
    metadata :=
      { candidate.metadata with
        purpose := .production
        origin := .liveDevice
        provenance := .measured
        validity := .valid
        freshness := .fresh
        acceptance := .accepted }
    temperatureMdegC := candidate.unfilteredTemperatureMdegC }

def readyEvent (correlationId : UInt32) : AppEvent :=
  { AppEvent.cleared with
    id := .temperatureResultReady
    priority := .measurement
    delivery := .edge
    correlationId }

def acceptRaw (raw : RawTemperature) (txn : RepoWriteTxn) (repo : DataRepository)
    (queue : AppEventQueue) (correlationId : UInt32) :
    TemperatureProcessStatus × CalibrationService × RepoWriteTxn ×
      DataRepository × AppEventQueue :=
  match self.activeProfile, self.activeCal with
  | some profile, some cal =>
      match temperatureConvertRaw raw profile cal with
      | (.ok, candidate) =>
          match txn.txnWriteTemperature repo (resultOf candidate) with
          | (false, txn, repo) =>
              (.staleSample,
                { self with rejectedStaleCount := self.rejectedStaleCount + 1 },
                txn, repo, queue)
          | (true, txn, repo) =>
              (.ok, { self with acceptedCount := self.acceptedCount + 1 },
                txn, repo, (queue.post (some (readyEvent correlationId))).2)
      | (status, _) =>
          (status,
            { self with rejectedInvalidCount := self.rejectedInvalidCount + 1 },
            txn, repo, queue)
  | _, _ => (.profileError, self, txn, repo, queue)

end CalibrationService

/-! ## What is published -/

/-- The conversion sets the number and leaves the metadata cleared. -/
theorem temperatureConvertRaw_metadata (raw : RawTemperature)
    (profile : TemperatureProfile) (cal : CalibrationRecord) :
    (temperatureConvertRaw raw profile cal).2.metadata = .cleared := by
  unfold temperatureConvertRaw
  dsimp only
  split_ifs with hzero
  · rfl
  · cases applyGainOffset _ cal.gain cal.offset cal.shift with
    | none => rfl
    | some correctedRes =>
        dsimp only
        cases interpolateI64 correctedRes profile.rtdResTable
          profile.rtdTempTable profile.rtdTableSize <;> rfl

/-- The metadata of every temperature that the service publishes. -/
def publishedMetadata : ResultMetadata :=
  { ResultMetadata.cleared with purpose := .production }

theorem resultOf_convertRaw_metadata (raw : RawTemperature)
    (profile : TemperatureProfile) (cal : CalibrationRecord) :
    (CalibrationService.resultOf
      (temperatureConvertRaw raw profile cal).2).metadata =
        publishedMetadata := by
  unfold CalibrationService.resultOf
  rw [temperatureConvertRaw_metadata]
  rfl

namespace CalibrationService

variable {self : CalibrationService} {raw : RawTemperature}
  {profile : TemperatureProfile} {cal : CalibrationRecord}
  {candidate : TemperatureCandidate}

/-- The step of a converted sample: one write, and an event if it succeeds. -/
theorem acceptRaw_of_converted (hprofile : self.activeProfile = some profile)
    (hcal : self.activeCal = some cal)
    (hconvert : temperatureConvertRaw raw profile cal = (.ok, candidate))
    (txn : RepoWriteTxn) (repo : DataRepository) (queue : AppEventQueue)
    (correlationId : UInt32) :
    ∃ status self' queue',
      self.acceptRaw raw txn repo queue correlationId =
        (status, self',
          (txn.txnWriteTemperature repo (resultOf candidate)).2.1,
          (txn.txnWriteTemperature repo (resultOf candidate)).2.2, queue') ∧
      (status = .ok ↔
        (txn.txnWriteTemperature repo (resultOf candidate)).1 = true) := by
  simp only [acceptRaw, hprofile, hcal, hconvert]
  rcases txn.txnWriteTemperature repo (resultOf candidate) with
    ⟨_ | _, txn', repo'⟩
  · exact ⟨_, _, _, rfl, by simp⟩
  · exact ⟨_, _, _, rfl, by simp⟩

/-- What `acceptRaw` does with its transaction: it writes one temperature with
the published metadata, or it makes no call. -/
theorem acceptRaw_cases (self : CalibrationService) (raw : RawTemperature)
    (txn : RepoWriteTxn) (repo : DataRepository) (queue : AppEventQueue)
    (correlationId : UInt32) :
    ∃ status self' txn' repo' queue',
      self.acceptRaw raw txn repo queue correlationId =
        (status, self', txn', repo', queue') ∧
      ((∃ result, result.metadata = publishedMetadata ∧
          (txn.txnWriteTemperature repo result).2 = (txn', repo') ∧
          (status = .ok ↔ (txn.txnWriteTemperature repo result).1 = true)) ∨
        status ≠ .ok ∧ txn' = txn ∧ repo' = repo) := by
  cases hprofile : self.activeProfile with
  | none =>
      refine ⟨.profileError, self, txn, repo, queue, ?_, .inr ⟨nofun, rfl, rfl⟩⟩
      simp only [acceptRaw, hprofile]
  | some profile =>
      cases hcal : self.activeCal with
      | none =>
          refine ⟨.profileError, self, txn, repo, queue, ?_,
            .inr ⟨nofun, rfl, rfl⟩⟩
          simp only [acceptRaw, hprofile, hcal]
      | some cal =>
          rcases hconvert : temperatureConvertRaw raw profile cal with
            ⟨status, candidate⟩
          by_cases hok : status = .ok
          · subst hok
            obtain ⟨status, self', queue', haccept, hstatus⟩ :=
              acceptRaw_of_converted hprofile hcal hconvert txn repo queue
                correlationId
            have hmetadata := resultOf_convertRaw_metadata raw profile cal
            rw [hconvert] at hmetadata
            exact ⟨_, _, _, _, _, haccept,
              .inl ⟨resultOf candidate, hmetadata, rfl, hstatus⟩⟩
          · refine ⟨status,
              { self with
                rejectedInvalidCount := self.rejectedInvalidCount + 1 },
              txn, repo, queue, ?_, .inr ⟨hok, rfl, rfl⟩⟩
            cases status <;>
              first
              | exact absurd rfl hok
              | simp only [acceptRaw, hprofile, hcal, hconvert]

end CalibrationService

end Swfpm
