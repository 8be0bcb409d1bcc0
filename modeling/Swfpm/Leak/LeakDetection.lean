import Swfpm.Domain.System

/-!
# Leak detection

Embedding of `services/leak/leak_config.{h,c}`, `leak_tracker.{h,c}` and
`leak_detection.{h,c}`.  A null configuration or input is not modelled, and the
two optional results of an input are present, as every caller passes them.
-/

namespace Swfpm

/-! ## Configuration -/

def leakAlgorithmVersion : UInt32 := 1

def leakConfigFlagTestOnly : UInt32 := 0x80000000

structure LeakDetectionConfig where
  schemaVersion : UInt32
  configVersion : UInt32
  algorithmVersion : UInt32
  profileVersion : UInt32
  flags : UInt32
  continuousEntryUlPerS : Int64
  continuousClearUlPerS : Int64
  continuousSuspectDurationUs : UInt64
  continuousConfirmDurationUs : UInt64
  continuousClearDurationUs : UInt64
  burstEntryUlPerS : Int64
  burstClearUlPerS : Int64
  burstConfirmDurationUs : UInt64
  burstClearDurationUs : UInt64
  pressureAssistEnabled : Bool
  lowPressureEntryPa : Int32
  lowPressureClearPa : Int32
  highPressureEntryPa : Int32
  highPressureClearPa : Int32
  pressureActivationDurationUs : UInt64
  pressureClearDurationUs : UInt64
  pressureDropEnabled : Bool
  pressureDropEntryPa : Int32
  pressureDropClearPa : Int32
  pressureDropWindowUs : UInt64
  pressureDropMinSamples : UInt32
  maximumFlowAgeUs : UInt64
  maximumPressureAgeUs : UInt64
  maximumEvidenceGapUs : UInt64
  correlationWindowUs : UInt64
  confirmedClearDurationUs : UInt64
  evaluationPeriodUs : UInt64
  deriving DecidableEq, Repr

namespace LeakDetectionConfig

/-- The text that `LeakConfig_Validate` refuses a configuration with. -/
def refusal (config : LeakDetectionConfig) : Option String :=
  if config.schemaVersion = 0 ∨ config.algorithmVersion = 0 then
    some "version fields must be nonzero"
  else if config.continuousClearUlPerS ≥ config.continuousEntryUlPerS then
    some "continuous clear >= entry"
  else if config.continuousEntryUlPerS ≥ config.burstEntryUlPerS then
    some "continuous entry >= burst entry"
  else if config.burstClearUlPerS ≥ config.burstEntryUlPerS then
    some "burst clear >= burst entry"
  else if config.continuousSuspectDurationUs = 0 ∨
      config.continuousConfirmDurationUs = 0 ∨
      config.burstConfirmDurationUs = 0 then
    some "duration must be nonzero"
  else if config.continuousConfirmDurationUs <
      config.continuousSuspectDurationUs then
    some "confirm < suspect duration"
  else if config.maximumFlowAgeUs = 0 ∨ config.maximumPressureAgeUs = 0 then
    some "max age must be nonzero"
  else if config.lowPressureEntryPa ≥ config.highPressureEntryPa then
    some "low entry >= high entry"
  else none

def validate (config : LeakDetectionConfig) : Bool := config.refusal.isNone

def testDefaults : LeakDetectionConfig :=
  { schemaVersion := 1
    configVersion := 1
    algorithmVersion := leakAlgorithmVersion
    profileVersion := 0
    flags := leakConfigFlagTestOnly
    continuousEntryUlPerS := 83333
    continuousClearUlPerS := 33333
    continuousSuspectDurationUs := 30000000
    continuousConfirmDurationUs := 120000000
    continuousClearDurationUs := 60000000
    burstEntryUlPerS := 333333
    burstClearUlPerS := 166666
    burstConfirmDurationUs := 5000000
    burstClearDurationUs := 30000000
    pressureAssistEnabled := false
    lowPressureEntryPa := 100000
    lowPressureClearPa := 150000
    highPressureEntryPa := 800000
    highPressureClearPa := 700000
    pressureActivationDurationUs := 30000000
    pressureClearDurationUs := 60000000
    pressureDropEnabled := false
    pressureDropEntryPa := 50000
    pressureDropClearPa := 20000
    pressureDropWindowUs := 60000000
    pressureDropMinSamples := 3
    maximumFlowAgeUs := 60000000
    maximumPressureAgeUs := 60000000
    maximumEvidenceGapUs := 120000000
    correlationWindowUs := 30000000
    confirmedClearDurationUs := 120000000
    evaluationPeriodUs := 1000000 }

end LeakDetectionConfig

/-! ## The evidence tracker -/

inductive LeakEvidencePhase where
  | inactive
  | pending
  | active
  | clearPending
  | suspended
  deriving DecidableEq, Repr

structure LeakEvidenceTracker where
  phase : LeakEvidencePhase
  suspendedFromPhase : LeakEvidencePhase
  entryStartUs : UInt64
  activeSinceUs : UInt64
  clearStartUs : UInt64
  lastUsableSampleUs : UInt64
  lastSourceSequence : UInt64
  lastResultVersion : UInt64
  sourceGeneration : UInt32
  activationCount : UInt32
  deriving DecidableEq, Repr

namespace LeakEvidenceTracker

def init : LeakEvidenceTracker :=
  { phase := .inactive, suspendedFromPhase := .inactive, entryStartUs := 0
    activeSinceUs := 0, clearStartUs := 0, lastUsableSampleUs := 0
    lastSourceSequence := 0, lastResultVersion := 0, sourceGeneration := 0
    activationCount := 0 }

/-- An evaluation without a usable source. -/
def suspend (self : LeakEvidenceTracker) (nowUs maxGapUs : UInt64) :
    LeakEvidenceTracker :=
  if self.phase = .inactive then self
  else
    let self :=
      if self.phase ≠ .suspended then
        { self with suspendedFromPhase := self.phase, phase := .suspended }
      else self
    if self.lastUsableSampleUs > 0 ∧
        nowUs - self.lastUsableSampleUs > maxGapUs ∧
        self.phase = .suspended ∧ self.activationCount = 0 then
      init
    else self

/-- The entry of an evaluation with a usable source. -/
def resume (self : LeakEvidenceTracker) (nowUs : UInt64) :
    LeakEvidenceTracker :=
  let self := { self with lastUsableSampleUs := nowUs }
  if self.phase = .suspended then
    { self with
      phase := self.suspendedFromPhase, suspendedFromPhase := .inactive }
  else self

/-- The switch over the phase. -/
def advance (self : LeakEvidenceTracker) (entryActive clearActive : Bool)
    (nowUs entryDurationUs clearDurationUs : UInt64) : LeakEvidenceTracker :=
  match self.phase with
  | .inactive =>
      if entryActive then { self with entryStartUs := nowUs, phase := .pending }
      else self
  | .pending =>
      if !entryActive then
        if clearActive then
          { self with clearStartUs := nowUs, phase := .clearPending }
        else init
      else if nowUs - self.entryStartUs ≥ entryDurationUs then
        { self with
          activeSinceUs := nowUs
          activationCount := self.activationCount + 1
          phase := .active }
      else self
  | .active =>
      if clearActive then
        { self with clearStartUs := nowUs, phase := .clearPending }
      else self
  | .clearPending =>
      if entryActive then { self with phase := .active }
      else if !clearActive then { self with phase := .active }
      else if nowUs - self.clearStartUs ≥ clearDurationUs then init
      else self
  | .suspended => self

def evaluate (self : LeakEvidenceTracker)
    (entryActive clearActive sourceUsable : Bool)
    (nowUs entryDurationUs clearDurationUs maxGapUs : UInt64) :
    LeakEvidenceTracker :=
  if !sourceUsable then self.suspend nowUs maxGapUs
  else
    (self.resume nowUs).advance entryActive clearActive nowUs entryDurationUs
      clearDurationUs

end LeakEvidenceTracker

/-! ## The detection service -/

structure LeakInputView where
  evaluationMonotonicUs : UInt64
  sampleSequence : UInt64
  sourceGeneration : UInt32
  flowUsable : Bool
  flowUlPerS : Int64
  flowDirection : FlowDirection
  pressureUsable : Bool
  pressurePa : Int32
  flowResult : FlowResult
  pressureResult : PressureResult
  deriving DecidableEq, Repr

inductive LeakUpdateStatus where
  | noChange
  | resultChanged
  | stateChanged
  | rejectedDuplicate
  | rejectedStale
  | configError
  | internalError
  deriving DecidableEq, Repr

structure LeakDetectionService where
  config : LeakDetectionConfig
  state : LeakState
  evalStatus : LeakEvaluationStatus
  primaryReason : LeakPrimaryReason
  severity : LeakSeverity
  reasonFlags : UInt32
  evidenceFlags : UInt32
  qualityFlags : UInt32
  stateVersion : UInt64
  stateChangeSequence : UInt64
  stateEnteredUs : UInt64
  continuousTracker : LeakEvidenceTracker
  burstTracker : LeakEvidenceTracker
  lowPressureTracker : LeakEvidenceTracker
  highPressureTracker : LeakEvidenceTracker
  lastFlowSequence : UInt64
  lastPressureSequence : UInt64
  lastEvalUs : UInt64
  runtimeGeneration : UInt32
  diagEvals : UInt64
  diagUpdates : UInt64
  diagDuplicates : UInt64
  diagStale : UInt64
  diagFlowUnusable : UInt64
  diagPressureUnusable : UInt64
  deriving DecidableEq, Repr

namespace LeakDetectionService

def init (config : LeakDetectionConfig) (nowUs : UInt64) :
    LeakDetectionService :=
  { config, state := .normal, evalStatus := .notReady, primaryReason := .none
    severity := .none, reasonFlags := 0, evidenceFlags := 0, qualityFlags := 0
    stateVersion := 1, stateChangeSequence := 0, stateEnteredUs := nowUs
    continuousTracker := .init, burstTracker := .init
    lowPressureTracker := .init, highPressureTracker := .init
    lastFlowSequence := 0, lastPressureSequence := 0, lastEvalUs := nowUs
    runtimeGeneration := 1, diagEvals := 0, diagUpdates := 0
    diagDuplicates := 0, diagStale := 0, diagFlowUnusable := 0
    diagPressureUnusable := 0 }

/-- The assignments that every change of state shares. -/
def enter (self : LeakDetectionService) (state : LeakState)
    (primaryReason : LeakPrimaryReason) (severity : LeakSeverity)
    (nowUs : UInt64) : LeakDetectionService :=
  { self with
    state
    primaryReason
    severity
    stateChangeSequence := self.stateChangeSequence + 1
    stateEnteredUs := nowUs }

/-- The first block of transitions. -/
def leaveNormal (self : LeakDetectionService) (nowUs : UInt64) :
    LeakDetectionService :=
  if self.state ≠ .normal then self
  else if self.burstTracker.phase = .active then
    self.enter .confirmed .highFlowBurst .high nowUs
  else if self.continuousTracker.phase = .active then
    self.enter .suspected .continuousFlow .low nowUs
  else self

/-- The second one.  A confirmed continuous flow keeps its reason. -/
def leaveSuspected (self : LeakDetectionService) (nowUs : UInt64) :
    LeakDetectionService :=
  if self.state ≠ .suspected then self
  else if self.burstTracker.phase = .active then
    self.enter .confirmed .highFlowBurst .high nowUs
  else if self.continuousTracker.phase = .active then
    if self.continuousTracker.activeSinceUs > 0 ∧
        nowUs - self.continuousTracker.activeSinceUs ≥
          self.config.continuousConfirmDurationUs then
      self.enter .confirmed self.primaryReason .medium nowUs
    else self
  else if self.continuousTracker.phase = .inactive then
    self.enter .normal .none .none nowUs
  else self

/-- The third one. -/
def leaveConfirmed (self : LeakDetectionService) (nowUs : UInt64) :
    LeakDetectionService :=
  if self.state ≠ .confirmed then self
  else if self.continuousTracker.phase = .inactive ∧
      self.burstTracker.phase = .inactive then
    self.enter .normal .none .none nowUs
  else self

def evaluationStatus (self : LeakDetectionService) (input : LeakInputView) :
    LeakEvaluationStatus :=
  if self.stateVersion = 1 ∧ self.diagEvals = 0 then .notReady
  else if !input.flowUsable then .unavailable
  else if !input.pressureUsable ∧ self.config.pressureAssistEnabled then
    .degraded
  else .active

def buildResult (self : LeakDetectionService) (input : LeakInputView) :
    LeakUpdateStatus × LeakDetectionService :=
  let nowUs := input.evaluationMonotonicUs
  let self := { self with lastEvalUs := nowUs }
  let self := self.leaveNormal nowUs
  let self := self.leaveSuspected nowUs
  let self := self.leaveConfirmed nowUs
  (.resultChanged,
    { self with
      evalStatus := self.evaluationStatus input
      stateVersion := self.stateVersion + 1
      diagUpdates := self.diagUpdates + 1 })

/-- The four trackers, one after the other. -/
def updateTrackers (self : LeakDetectionService) (input : LeakInputView) :
    LeakDetectionService :=
  let config := self.config
  let now := input.evaluationMonotonicUs
  let maxGap := config.maximumEvidenceGapUs
  let forward : Bool := input.flowUsable && input.flowDirection = .forward
  { self with
    continuousTracker :=
      self.continuousTracker.evaluate
        (forward && input.flowUlPerS ≥ config.continuousEntryUlPerS &&
          input.flowUlPerS < config.burstEntryUlPerS)
        (input.flowUsable && input.flowUlPerS ≤ config.continuousClearUlPerS)
        input.flowUsable now config.continuousSuspectDurationUs
        config.continuousClearDurationUs maxGap
    burstTracker :=
      self.burstTracker.evaluate
        (forward && input.flowUlPerS ≥ config.burstEntryUlPerS)
        (input.flowUsable && input.flowUlPerS ≤ config.burstClearUlPerS)
        input.flowUsable now config.burstConfirmDurationUs
        config.burstClearDurationUs maxGap
    lowPressureTracker :=
      self.lowPressureTracker.evaluate
        (input.pressureUsable && input.pressurePa ≤ config.lowPressureEntryPa)
        (input.pressureUsable && input.pressurePa ≥ config.lowPressureClearPa)
        input.pressureUsable now config.pressureActivationDurationUs
        config.pressureClearDurationUs maxGap
    highPressureTracker :=
      self.highPressureTracker.evaluate
        (input.pressureUsable && input.pressurePa ≥ config.highPressureEntryPa)
        (input.pressureUsable && input.pressurePa ≤ config.highPressureClearPa)
        input.pressureUsable now config.pressureActivationDurationUs
        config.pressureClearDurationUs maxGap }

/-- The evidence flag of a tracker. -/
def evidenceOf (tracker : LeakEvidenceTracker) (flag : UInt32) : UInt32 :=
  if tracker.phase = .active then flag else 0

def updateFlags (self : LeakDetectionService) (input : LeakInputView) :
    LeakDetectionService :=
  { self with
    evidenceFlags :=
      evidenceOf self.continuousTracker ((1 : UInt32) <<< 0) |||
        evidenceOf self.burstTracker ((1 : UInt32) <<< 1) |||
        evidenceOf self.lowPressureTracker ((1 : UInt32) <<< 2) |||
        evidenceOf self.highPressureTracker ((1 : UInt32) <<< 3)
    qualityFlags :=
      (if input.flowUsable then (0 : UInt32) else (1 : UInt32) <<< 0) |||
        (if input.pressureUsable then (0 : UInt32) else (1 : UInt32) <<< 1)
    diagFlowUnusable :=
      if input.flowUsable then self.diagFlowUnusable
      else self.diagFlowUnusable + 1
    diagPressureUnusable :=
      if input.pressureUsable then self.diagPressureUnusable
      else self.diagPressureUnusable + 1 }

def evaluate (self : LeakDetectionService) (input : LeakInputView) :
    LeakUpdateStatus × LeakDetectionService :=
  let self := { self with diagEvals := self.diagEvals + 1 }
  if input.sampleSequence > 0 ∧ input.sampleSequence = self.lastFlowSequence ∧
      input.sourceGeneration = self.runtimeGeneration then
    (.rejectedDuplicate, { self with diagDuplicates := self.diagDuplicates + 1 })
  else
    let pressureSequence := input.pressureResult.metadata.sampleSequence
    let self :=
      { self with
        lastFlowSequence :=
          if input.sampleSequence > 0 then input.sampleSequence
          else self.lastFlowSequence
        lastPressureSequence :=
          if pressureSequence > 0 then pressureSequence
          else self.lastPressureSequence }
    ((self.updateTrackers input).updateFlags input).buildResult input

def getResult (self : LeakDetectionService) (input : LeakInputView)
    (volume : VolumeState) (sourceSnapshotVersion : UInt64) :
    LeakDetectionResult :=
  { LeakDetectionResult.cleared with
    resultVersion := self.stateVersion
    stateChangeSequence := self.stateChangeSequence
    state := self.state
    evaluationStatus := self.evalStatus
    primaryReason := self.primaryReason
    severity := self.severity
    reasonFlags := self.reasonFlags
    evidenceFlags := self.evidenceFlags
    qualityFlags := self.qualityFlags
    stateEnteredMonotonicUs := self.stateEnteredUs
    latestEvidenceMonotonicUs := self.lastEvalUs
    sourceSnapshotVersion
    runtimeGeneration := self.runtimeGeneration
    configVersion := self.config.configVersion
    algorithmVersion := self.config.algorithmVersion
    profileVersion := self.config.profileVersion
    flowResultVersion := input.flowResult.metadata.resultVersion
    pressureResultVersion := input.pressureResult.metadata.resultVersion
    volumeStateVersion := volume.stateVersion }

def applyConfig (self : LeakDetectionService) (config : LeakDetectionConfig)
    (nowUs : UInt64) : Bool × LeakDetectionService :=
  if !config.validate then (false, self)
  else
    let self := { self with config }
    let self :=
      if self.state ≠ .confirmed then
        { self with continuousTracker := .init, burstTracker := .init }
      else self
    (true,
      { self with
        lowPressureTracker := .init
        highPressureTracker := .init
        lastEvalUs := nowUs })

def reset (self : LeakDetectionService) (newGeneration : UInt32)
    (nowUs : UInt64) : LeakDetectionService :=
  { self with
    state := .normal
    evalStatus := .notReady
    primaryReason := .none
    severity := .none
    reasonFlags := 0
    evidenceFlags := 0
    qualityFlags := 0
    stateChangeSequence := 0
    stateEnteredUs := nowUs
    runtimeGeneration := newGeneration
    continuousTracker := .init
    burstTracker := .init
    lowPressureTracker := .init
    highPressureTracker := .init
    lastFlowSequence := 0
    lastPressureSequence := 0
    lastEvalUs := nowUs }

end LeakDetectionService
end Swfpm
