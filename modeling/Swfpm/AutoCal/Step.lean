import Swfpm.AutoCal.Stages

/-!
# The life of a calibrator

Embedding of `MAX35103_AutoCalInit`, `Start`, `Step`, `Cancel` and `GetReport`
and of the stage completion of `max35103_autocal.c`.  A step is split at its
callback: which action it takes, and what the calibrator does with the answer.
-/

namespace Swfpm.AutoCal

/-- A calibrator and the context of its backend. -/
structure AutoCalWorld (κ : Type*) where
  calibrator : Max35103AutoCalibrator
  context : κ

/-! ## Set-up -/

/-- An accepted calibrator; `none` stands for `INVALID_ARG`. -/
def init (config : Max35103AutoCalConfig) (seedProfile : Max35103Profile)
    (sampleWorkspace : List Max35103AutoCalSample) (sampleCapacity : UInt16) :
    Option Max35103AutoCalibrator :=
  if configValid config sampleCapacity = false ∨
      validateProfile seedProfile ≠ .ok then none
  else
    some
      { config := config
        seedProfile := seedProfile
        stageBaseProfile := .zero
        candidateProfile := .zero
        stageBestProfile := .zero
        selectedProfile := seedProfile
        discoveryFinalistProfiles := List.replicate 4 .zero
        samples := sampleWorkspace
        sampleCapacity := sampleCapacity
        state := .idle
        status := .ok
        lastDriverStatus := .ok
        candidateIndex := 0
        candidateCount := 0
        sampleIndex := 0
        sampleTarget := 0
        evaluatedCandidateCount := 0
        attemptedMeasurementCount := 0
        candidateMetrics := .zero
        stageBestMetrics := .zero
        discoveryFinalistMetrics := List.replicate 4 .zero
        stageClosestProfile := .zero
        stageClosestMetrics := .zero
        stageBestValid := false
        stageClosestValid := false
        candidateStarted := false
        candidateConfigured := false
        recoveryRequired := false
        resetPerformed := false
        consecutiveDriverErrors := 0
        busyPollCount := 0
        lastWvrUpT1T2Q7 := 0
        lastWvrUpT2IdealQ7 := 0
        lastWvrDownT1T2Q7 := 0
        lastWvrDownT2IdealQ7 := 0
        stageRetryCount := 0
        discoveryFinalistCount := 0
        discoveryFinalistIndex := 0
        profileFallbacksUsed := 0
        perturbationTested := 0
        perturbationPassed := 0
        failureState := .idle
        failureProfile := .zero
        failureMetrics := .zero
        failureCandidateIndex := 0
        failureRetryCount := 0
        report := .zero
        reportAvailable := false }

/-- The run-specific fields that `Start` clears. -/
def clearRun (calibrator : Max35103AutoCalibrator) : Max35103AutoCalibrator :=
  { clearFinalists calibrator with
    selectedProfile := calibrator.seedProfile
    evaluatedCandidateCount := 0
    attemptedMeasurementCount := 0
    consecutiveDriverErrors := 0
    busyPollCount := 0
    perturbationTested := 0
    perturbationPassed := 0
    profileFallbacksUsed := 0
    reportAvailable := false
    recoveryRequired := false
    report := .zero
    failureState := .idle
    failureCandidateIndex := 0
    failureRetryCount := 0
    failureProfile := .zero
    failureMetrics := .zero }

def start (calibrator : Max35103AutoCalibrator) :
    Max35103AutoCalStatus × Max35103AutoCalibrator :=
  if configValid calibrator.config calibrator.sampleCapacity = false then
    (.invalidArg, calibrator)
  else
    match calibrator.state with
    | .idle | .complete | .failed | .cancelled =>
        let calibrator :=
          { enterState (clearRun calibrator) .discovery with status := .running }
        (if calibrator.candidateCount = 0 then .invalidArg else .running,
          calibrator)
    | _ => (.running, calibrator)

def cancel (calibrator : Max35103AutoCalibrator) : Max35103AutoCalibrator :=
  match calibrator.state with
  | .complete | .failed => calibrator
  | _ =>
      { calibrator with
        state := .cancelled
        status := .cancelled
        candidateConfigured := false }

def hasReport (calibrator : Max35103AutoCalibrator) : Bool :=
  calibrator.reportAvailable

/-- The report; `none` while none is published. -/
def getReport (calibrator : Max35103AutoCalibrator) :
    Option Max35103AutoCalReport :=
  if calibrator.reportAvailable then some calibrator.report else none

/-! ## The answers of the backend -/

/-- One more consecutive error, saturating. -/
def countDriverError (calibrator : Max35103AutoCalibrator) :
    Max35103AutoCalibrator :=
  { calibrator with
    consecutiveDriverErrors :=
      if calibrator.consecutiveDriverErrors < 255 then
        calibrator.consecutiveDriverErrors + 1
      else calibrator.consecutiveDriverErrors }

def driverErrorsExhausted (calibrator : Max35103AutoCalibrator) : Bool :=
  calibrator.consecutiveDriverErrors ≥
    calibrator.config.maxConsecutiveDriverErrors

def clearPolls (calibrator : Max35103AutoCalibrator) : Max35103AutoCalibrator :=
  { calibrator with busyPollCount := 0 }

/-- A deferred action: one more busy poll, saturating, and failure once the
polls are used up. -/
def deferAction (calibrator : Max35103AutoCalibrator) :
    Max35103AutoCalibrator :=
  let calibrator := { calibrator with
    busyPollCount :=
      if calibrator.busyPollCount < 0xFFFF then calibrator.busyPollCount + 1
      else calibrator.busyPollCount }
  if calibrator.busyPollCount ≥ calibrator.config.maxBusyPolls then
    fail calibrator .driverError
  else calibrator

/-- The status of the last callback. -/
def noteStatus (calibrator : Max35103AutoCalibrator)
    (status : Max35103Status) : Max35103AutoCalibrator :=
  { calibrator with lastDriverStatus := status }

/-- The answer to a reset that did not succeed. -/
def resetRefused (calibrator : Max35103AutoCalibrator) :
    Max35103AutoCalibrator :=
  let calibrator := countDriverError calibrator
  if driverErrorsExhausted calibrator then fail calibrator .driverError
  else calibrator

/-- The answer to the reset of a recovery. -/
def recovered (calibrator : Max35103AutoCalibrator)
    (status : Max35103Status) : Max35103AutoCalibrator :=
  let calibrator := noteStatus calibrator status
  if status ≠ .ok then resetRefused calibrator
  else
    { calibrator with recoveryRequired := false, candidateConfigured := false }

/-- The answer to the reset that `RESET_VERIFY` begins with. -/
def verifyReset (calibrator : Max35103AutoCalibrator)
    (status : Max35103Status) : Max35103AutoCalibrator :=
  let calibrator := noteStatus calibrator status
  if status ≠ .ok then resetRefused calibrator
  else { calibrator with resetPerformed := true, candidateConfigured := false }

/-- On to the next candidate without a batch of this one. -/
def skipCandidate (calibrator : Max35103AutoCalibrator) :
    Max35103AutoCalibrator :=
  { calibrator with
    candidateStarted := false
    candidateIndex := calibrator.candidateIndex + 1
    evaluatedCandidateCount := calibrator.evaluatedCandidateCount + 1 }

/-- The batch of a candidate that is configured for the first time. -/
def startBatch (calibrator : Max35103AutoCalibrator) :
    Max35103AutoCalibrator :=
  if calibrator.candidateStarted then calibrator
  else
    { calibrator with
      sampleIndex := 0
      sampleTarget := sampleTarget calibrator
      candidateMetrics := .zero
      lastWvrUpT1T2Q7 := 0
      lastWvrUpT2IdealQ7 := 0
      lastWvrDownT1T2Q7 := 0
      lastWvrDownT2IdealQ7 := 0 }

/-- The answer to the configuration of a candidate. -/
def configured (calibrator : Max35103AutoCalibrator)
    (status : Max35103Status) : Max35103AutoCalibrator :=
  let calibrator := noteStatus calibrator status
  if status = .busy then deferAction calibrator
  else
    let calibrator := clearPolls calibrator
    if status ≠ .ok then
      if status = .configError ∨ status = .invalidArg then
        skipCandidate calibrator
      else
        let calibrator := countDriverError calibrator
        if driverErrorsExhausted calibrator then fail calibrator .driverError
        else { calibrator with recoveryRequired := true }
    else
      { calibrator with
        consecutiveDriverErrors := 0
        candidateStarted := true
        candidateConfigured := true }

def isFatalTransportStatus (status : Max35103Status) : Bool :=
  status = .spiError || status = .notReady

/-- On to the next candidate after the batch of this one. -/
def leaveCandidate (calibrator : Max35103AutoCalibrator) :
    Max35103AutoCalibrator :=
  { skipCandidate calibrator with candidateConfigured := false }

/-- The end of a batch. -/
def closeBatch (calibrator : Max35103AutoCalibrator) :
    Option Max35103AutoCalibrator :=
  if calibrator.sampleIndex ≥ calibrator.sampleTarget then
    (considerCandidate calibrator).map leaveCandidate
  else some calibrator

/-- One more attempt, of the batch and of the run. -/
def countAttempt (calibrator : Max35103AutoCalibrator) :
    Max35103AutoCalibrator :=
  { calibrator with
    sampleIndex := calibrator.sampleIndex + 1
    attemptedMeasurementCount := calibrator.attemptedMeasurementCount + 1 }

/-- The error bookkeeping of a measurement attempt. -/
def judgeAttempt (calibrator : Max35103AutoCalibrator)
    (status : Max35103Status) : Max35103AutoCalibrator :=
  if isFatalTransportStatus status then
    { countDriverError calibrator with recoveryRequired := true }
  else
    { calibrator with
      consecutiveDriverErrors := 0
      recoveryRequired :=
        if status = .timeout ∨ status = .deviceError ∨ status = .notReady then
          true
        else calibrator.recoveryRequired }

/-- The answer to a measurement. -/
def measured (calibrator : Max35103AutoCalibrator) (measurement : Measurement) :
    Option Max35103AutoCalibrator :=
  let calibrator := noteStatus calibrator measurement.status
  if measurement.status = .busy then some (deferAction calibrator)
  else
    (recordSample (clearPolls calibrator) measurement).bind
      fun calibrator ↦
        let calibrator :=
          judgeAttempt (countAttempt calibrator) measurement.status
        if isFatalTransportStatus measurement.status &&
            driverErrorsExhausted calibrator then
          some (fail calibrator .driverError)
        else closeBatch calibrator

/-! ## Stage completion -/

/-- The answer to the last configuration, of the selected profile. -/
def published (calibrator : Max35103AutoCalibrator)
    (status : Max35103Status) : Max35103AutoCalibrator :=
  let calibrator := noteStatus calibrator status
  if status ≠ .ok then fail calibrator .driverError
  else
    { finalizeReport calibrator with state := .complete, status := .complete }

/-- The best profile of a stage becomes the selected one. -/
def selectBest (calibrator : Max35103AutoCalibrator) : Max35103AutoCalibrator :=
  { calibrator with selectedProfile := calibrator.stageBestProfile }

/-- The winner of an ordinary stage. -/
def commitWinner (calibrator : Max35103AutoCalibrator) :
    Option Max35103AutoCalibrator :=
  let calibrator := selectBest calibrator
  if calibrator.state = .discovery then
    let calibrator := { calibrator with discoveryFinalistIndex := 0 }
    if calibrator.discoveryFinalistCount ≠ 0 then
      calibrator.discoveryFinalistProfiles[0]?.map fun profile ↦
        { calibrator with selectedProfile := profile }
    else some calibrator
  else some calibrator

def finishOrdinaryStage (calibrator : Max35103AutoCalibrator) :
    Option Max35103AutoCalibrator :=
  if calibrator.stageBestValid = false then retreat calibrator
  else
    (commitWinner calibrator).map fun calibrator ↦
      let next := nextSearchState calibrator.state
      if next = .failed then fail calibrator .noCandidate
      else enterState calibrator next

variable {κ : Type*}

def finishStage (backend : Max35103AutoCalBackend κ) (world : AutoCalWorld κ) :
    Option (AutoCalWorld κ) :=
  let calibrator := world.calibrator
  match calibrator.state with
  | .robustness =>
      (if calibrator.perturbationPassed.toNat <
          calibrator.config.requiredPerturbationPasses.toNat then
        fallBackOrFail calibrator
      else some (enterState calibrator .resetVerify)).map fun calibrator ↦
        { world with calibrator := calibrator }
  | .verify =>
      (if calibrator.stageBestValid = false then retreat calibrator
      else
        some (enterState (clearPerturbations (selectBest calibrator))
          .robustness)).map fun calibrator ↦
        { world with calibrator := calibrator }
  | .resetVerify =>
      if calibrator.stageBestValid = false then
        (retreat calibrator).map fun calibrator ↦
          { world with calibrator := calibrator }
      else
        let calibrator := selectBest calibrator
        let answer :=
          backend.configure world.context calibrator.selectedProfile
        some { calibrator := published calibrator answer.1, context := answer.2 }
  | _ =>
      (finishOrdinaryStage calibrator).map fun calibrator ↦
        { world with calibrator := calibrator }

/-! ## One step -/

/-- What one call of `MAX35103_AutoCalStep` does. -/
inductive StepAction where
  | rest
  | recover
  | resetForVerify
  | finish
  | configure
  | measure
  deriving DecidableEq, Repr

/-- Whether a search is under way. -/
def active : Max35103AutoCalState → Bool
  | .idle | .complete | .failed | .cancelled => false
  | _ => true

def nextAction (calibrator : Max35103AutoCalibrator) : StepAction :=
  if active calibrator.state = false then .rest
  else if calibrator.recoveryRequired then .recover
  else if calibrator.state = .resetVerify ∧
      calibrator.resetPerformed = false then .resetForVerify
  else if calibrator.candidateIndex ≥ calibrator.candidateCount then .finish
  else if calibrator.candidateConfigured = false then .configure
  else .measure

def proposeCandidate (calibrator : Max35103AutoCalibrator)
    (profile : Max35103Profile) : Max35103AutoCalibrator :=
  { calibrator with candidateProfile := profile }

/-- The candidate of the current index, written and configured. -/
def configureCandidate (backend : Max35103AutoCalBackend κ)
    (world : AutoCalWorld κ) : AutoCalWorld κ :=
  let made := makeCandidate world.calibrator world.calibrator.candidateIndex
  let calibrator := proposeCandidate world.calibrator made.1
  if made.2 = false then { world with calibrator := skipCandidate calibrator }
  else
    let calibrator := startBatch calibrator
    let answer := backend.configure world.context calibrator.candidateProfile
    { calibrator := configured calibrator answer.1, context := answer.2 }

def step (backend : Max35103AutoCalBackend κ) (world : AutoCalWorld κ) :
    Option (AutoCalWorld κ) :=
  match nextAction world.calibrator with
  | .rest => some world
  | .recover =>
      let answer := backend.reset world.context
      some
        { calibrator := recovered world.calibrator answer.1
          context := answer.2 }
  | .resetForVerify =>
      let answer := backend.reset world.context
      some
        { calibrator := verifyReset world.calibrator answer.1
          context := answer.2 }
  | .finish => finishStage backend world
  | .configure => some (configureCandidate backend world)
  | .measure =>
      let answer := backend.measure world.context
      (measured world.calibrator answer.1).map fun calibrator ↦
        { calibrator := calibrator, context := answer.2 }

/-- What the call returns, given the calibrator that it leaves. -/
def stepStatus (calibrator : Max35103AutoCalibrator) : Max35103AutoCalStatus :=
  match calibrator.state with
  | .complete => .complete
  | .failed | .cancelled => calibrator.status
  | .idle => .ok
  | _ => .running

/-! ## Runs -/

/-- The worlds that calls of the service reach, from a calibrator that `Init`
left; calls without a result reach none. -/
inductive Reachable (backend : Max35103AutoCalBackend κ)
    (first : AutoCalWorld κ) : AutoCalWorld κ → Prop where
  | init : Reachable backend first first
  | start {world} : Reachable backend first world →
      Reachable backend first
        { world with calibrator := (start world.calibrator).2 }
  | step {world after} : Reachable backend first world →
      step backend world = some after → Reachable backend first after
  | cancel {world} : Reachable backend first world →
      Reachable backend first
        { world with calibrator := cancel world.calibrator }

end Swfpm.AutoCal
