import Swfpm.Bus.I2cBusManager
import Swfpm.Drivers.Max35103
import Swfpm.Drivers.Zssc3241
import Swfpm.Leak.LeakDetection
import Swfpm.Processing.PressureService
import Swfpm.Volume.Accumulator

/-!
# The measurement manager

Embedding of `services/measurement/measurement_manager.{h,c}`.  The objects
that the manager borrows, the event queue, the repository and the shared bus,
are next to it in a `MeasurementWorld`.  Nobody else runs during a dispatch, so
the copy of the visible snapshot at its start succeeds.
-/

namespace Swfpm

inductive MeasurementServiceResult where
  | ignored
  | handled
  | outputWritten
  | error
  deriving DecidableEq, Repr

structure MeasurementComputeContext where
  input : RuntimeSnapshot
  event : AppEvent
  nowUs : UInt64

/-- The handlers of the two built-in services, or the one of another service. -/
inductive MeasurementEventFn where
  | maxOnEvent
  | zsscOnEvent
  | other (onEvent : AppEvent → MeasurementServiceResult)

/-- The result, and what the service writes through the transaction. -/
abbrev MeasurementComputeFn :=
  MeasurementComputeContext → MeasurementServiceResult × List SnapshotWrite

structure MeasurementService where
  serviceId : UInt32
  onEvent : Option MeasurementEventFn
  compute : Option MeasurementComputeFn
  enabled : Bool

def measurementManagerMaxServices : ℕ := 16

def measurementServiceIdMax35103 : UInt32 := 1
def measurementServiceIdZssc3241 : UInt32 := 2

def pressureI2cClientId : UInt32 := 1
def pressureI2cPriority : UInt8 := 1
def pressureI2cTimeoutUs : UInt64 := 50000

structure MeasurementManager where
  max : Max35103Driver
  zssc : Zssc3241Driver
  pressureService : PressureService
  flowService : FlowService
  volumeAccumulator : VolumeAccumulator
  leakDetection : LeakDetectionService
  /-- Whether the pointer to the shared bus is set. -/
  i2cBus : Bool
  pressureI2cAddress : UInt8
  nextPressureCorrelationId : UInt32
  pressureCompletionNowUs : UInt64
  pressurePipelineBound : Bool
  flowPipelineBound : Bool
  services : List MeasurementService
  maxCycles : UInt32
  zsscCycles : UInt32

structure MeasurementWorld where
  manager : MeasurementManager
  eventQueue : AppEventQueue
  repo : DataRepository
  bus : BusWorld

namespace MeasurementManager

/-! ## Set-up -/

def maxService : MeasurementService :=
  { serviceId := measurementServiceIdMax35103, onEvent := some .maxOnEvent
    compute := none, enabled := true }

def zsscService : MeasurementService :=
  { serviceId := measurementServiceIdZssc3241, onEvent := some .zsscOnEvent
    compute := none, enabled := true }

variable (self : MeasurementManager)

def register (service : MeasurementService) : Bool × MeasurementManager :=
  if service.serviceId = 0 ∨
      (service.onEvent.isNone ∧ service.compute.isNone) ∨
      self.services.length ≥ measurementManagerMaxServices then
    (false, self)
  else if self.services.any (·.serviceId = service.serviceId) then (false, self)
  else (true, { self with services := self.services ++ [service] })

def setEnabled (serviceId : UInt32) (enabled : Bool) :
    Bool × MeasurementManager :=
  if self.services.any (·.serviceId = serviceId) then
    (true,
      { self with
        services :=
          self.services.modify (self.services.findIdx (·.serviceId = serviceId))
            ({ · with enabled }) })
  else (false, self)

def init : MeasurementManager :=
  let self : MeasurementManager :=
    { max := .init
      zssc := .init
      pressureService := .init
      flowService := .init
      volumeAccumulator := .init none
      leakDetection := .init .testDefaults 0
      i2cBus := false
      pressureI2cAddress := 0
      nextPressureCorrelationId := 1
      pressureCompletionNowUs := 0
      pressurePipelineBound := false
      flowPipelineBound := false
      services := []
      maxCycles := 0
      zsscCycles := 0 }
  ((self.register maxService).2.register zsscService).2

def bindFlowPipeline (profile : FlowProfile) (calibration : CalibrationRecord)
    (volumeConfig : VolumeConfig) (leakConfig : LeakDetectionConfig)
    (nowUs : UInt64) : Bool × MeasurementManager :=
  if !leakConfig.validate then (false, self)
  else
    (true,
      { self with
        flowService :=
          (self.flowService.setProfile profile).setCalibration calibration
        volumeAccumulator := .init (some volumeConfig)
        leakDetection := .init leakConfig nowUs
        flowPipelineBound := true })

/-- The manager as a client of the bus. -/
def pressureClient (slaveAddress : UInt8) : I2cBusClient :=
  { clientId := pressureI2cClientId, clientGeneration := self.zssc.generation
    addressBase := slaveAddress, addressMask := 0x7F, onComplete := true }

def bindPressurePipeline (bus : I2cBusManager) (slaveAddress : UInt8)
    (profile : PressureProfile) (calibration : CalibrationRecord) :
    Bool × MeasurementManager × I2cBusManager :=
  if !bus.portBound then (false, self, bus)
  else
    let self :=
      { self with
        i2cBus := true
        pressureI2cAddress := slaveAddress
        pressureService :=
          (self.pressureService.setProfile profile).setCalibration calibration }
    match I2cBus.registerClient bus (self.pressureClient slaveAddress) with
    | (false, bus) => (false, self, bus)
    | (true, bus) => (true, { self with pressurePipelineBound := true }, bus)

end MeasurementManager

namespace MeasurementWorld

variable (env : BusEnvironment)

/-! ## The handlers of the built-in services -/

/-- Addresses of the driver's buffers, which the bus only passes on. -/
def commandBufferAddress : ℕ := 0

def responseBufferAddress : ℕ := 1

/-- The end of both submissions: the driver learns its transaction. -/
def submitPressure (world : MeasurementWorld) (request : I2cBusRequest) :
    Bool × MeasurementWorld :=
  let (reply, bus) := I2cBus.submit env world.bus request
  let world := { world with bus }
  if reply.result ≠ .accepted then (false, world)
  else
    let manager := world.manager
    let activeTransactionId := reply.transactionId.getD 0
    (true,
      { world with
        manager :=
          { manager with zssc := { manager.zssc with activeTransactionId } } })

def submitPressureStart (world : MeasurementWorld) (nowUs : UInt64) :
    Bool × MeasurementWorld :=
  let manager := world.manager
  let correlationId := manager.nextPressureCorrelationId
  let (prepared, zssc) := manager.zssc.prepareStart correlationId
  let manager :=
    { manager with nextPressureCorrelationId := correlationId + 1, zssc }
  let world := { world with manager }
  if !prepared ∨ !manager.i2cBus then (false, world)
  else
    submitPressure env world
      { clientId := pressureI2cClientId
        correlationId
        clientGeneration := manager.zssc.generation
        slaveAddress := manager.pressureI2cAddress
        tx := some commandBufferAddress
        txLength := 1
        rx := none
        rxLength := 0
        deadlineUs := nowUs + pressureI2cTimeoutUs
        priority := pressureI2cPriority }

def submitPressureRead (world : MeasurementWorld) (nowUs : UInt64) :
    Bool × MeasurementWorld :=
  let (prepared, zssc) := world.manager.zssc.prepareRead
  let manager := { world.manager with zssc }
  let world := { world with manager }
  if !prepared then (false, world)
  else if !manager.i2cBus then (false, world)
  else
    submitPressure env world
      { clientId := pressureI2cClientId
        correlationId := manager.zssc.activeCorrelationId
        clientGeneration := manager.zssc.generation
        slaveAddress := manager.pressureI2cAddress
        tx := none
        txLength := 0
        rx := some responseBufferAddress
        rxLength := zssc3241FullResponseSize.toUInt16
        deadlineUs := nowUs + pressureI2cTimeoutUs
        priority := pressureI2cPriority }

def maxOnEvent (world : MeasurementWorld) (event : AppEvent) :
    MeasurementServiceResult × MeasurementWorld :=
  let manager := world.manager
  let nowUs := event.monotonicTimestampUs
  match event.id with
  | .maxIrqAsserted =>
      (.handled,
        { world with
          manager :=
            { manager with
              max := manager.max.onIrq nowUs
              maxCycles := manager.maxCycles + 1 } })
  | .maxSpiCompleted =>
      let payload := event.payload.toList.take event.payloadSize.toNat
      let (max, eventQueue) :=
        manager.max.onSpiCompletion event.correlationId true payload nowUs
          world.eventQueue
      (.handled, { world with manager := { manager with max }, eventQueue })
  | .maxSpiFailed =>
      let (max, eventQueue) :=
        manager.max.onSpiCompletion event.correlationId false [] nowUs
          world.eventQueue
      (.handled, { world with manager := { manager with max }, eventQueue })
  | .maxResultTimeout =>
      (.handled,
        { world with manager := { manager with max := manager.max.onTimeout } })
  | .maxRawReady => (.handled, world)
  | _ => (.ignored, world)

/-- The end of the three handlers that submit, once the pipeline is bound. -/
def submitted (outcome : Bool × MeasurementWorld) :
    MeasurementServiceResult × MeasurementWorld :=
  (if outcome.1 then .handled else .error, outcome.2)

def zsscOnEvent (world : MeasurementWorld) (event : AppEvent) :
    MeasurementServiceResult × MeasurementWorld :=
  let manager := world.manager
  let nowUs := event.monotonicTimestampUs
  match event.id with
  | .pressureSampleDue =>
      let manager :=
        { manager with
          zssc := manager.zssc.onSampleDue nowUs
          zsscCycles := manager.zsscCycles + 1 }
      let world := { world with manager }
      if manager.pressurePipelineBound then
        submitted (submitPressureStart env world nowUs)
      else (.handled, world)
  | .pressureEocAsserted =>
      let manager := { manager with zssc := manager.zssc.onEocAsserted }
      let world := { world with manager }
      if manager.pressurePipelineBound then
        submitted (submitPressureRead env world nowUs)
      else (.handled, world)
  | .pressurePollDue =>
      let manager := { manager with zssc := manager.zssc.onPollDue }
      let world := { world with manager }
      if manager.pressurePipelineBound then
        submitted (submitPressureRead env world nowUs)
      else (.handled, world)
  | .pressureTimeout =>
      (.handled,
        { world with manager := { manager with zssc := manager.zssc.onTimeout } })
  | .pressureRawReady => (.handled, world)
  | _ => (.ignored, world)

def runEventFn (world : MeasurementWorld) (event : AppEvent) :
    MeasurementEventFn → MeasurementServiceResult × MeasurementWorld
  | .maxOnEvent => maxOnEvent world event
  | .zsscOnEvent => zsscOnEvent env world event
  | .other onEvent => (onEvent event, world)

/-! ## One dispatch -/

/-- What a dispatch carries from one exit point to the next. -/
structure Dispatch where
  world : MeasurementWorld
  txn : RepoWriteTxn
  consumed : Bool
  failed : Bool

def Dispatch.fail (dispatch : Dispatch) : Dispatch :=
  { dispatch with failed := true }

/-- The handler of a service; a service without one ignores the event. -/
def callOnEvent (dispatch : Dispatch) (event : AppEvent)
    (service : MeasurementService) : Dispatch :=
  match service.onEvent with
  | none => dispatch
  | some onEvent =>
      let (result, world) := runEventFn env dispatch.world event onEvent
      let dispatch := { dispatch with world }
      if result = .error then dispatch.fail
      else
        { dispatch with consumed := dispatch.consumed || result ≠ .ignored }

/-- The computation of a service, which writes through the transaction. -/
def callCompute (dispatch : Dispatch) (context : MeasurementComputeContext)
    (service : MeasurementService) : Dispatch :=
  match service.compute with
  | none => dispatch
  | some compute =>
      let (result, writes) := compute context
      let (txn, repo) :=
        writes.foldl (fun (txn, repo) write => (write.run txn repo).2)
          (dispatch.txn, dispatch.world.repo)
      let dispatch :=
        { dispatch with world := { dispatch.world with repo }, txn }
      if result = .error then dispatch.fail
      else
        { dispatch with consumed := dispatch.consumed || result ≠ .ignored }

/-- One turn of the loop over the services, which an error ends. -/
def callService (context : MeasurementComputeContext) (dispatch : Dispatch)
    (service : MeasurementService) : Dispatch :=
  if dispatch.failed ∨ !service.enabled then dispatch
  else
    let dispatch := callOnEvent env dispatch context.event service
    if dispatch.failed then dispatch else callCompute dispatch context service

def runServices (context : MeasurementComputeContext) (dispatch : Dispatch) :
    Dispatch :=
  dispatch.world.manager.services.foldl (callService env context) dispatch

def acceptPressure (dispatch : Dispatch) : Dispatch :=
  let world := dispatch.world
  match world.manager.zssc.takeRawPressure with
  | (none, _) => dispatch.fail
  | (some sample, zssc) =>
      let (status, pressureService, txn, repo) :=
        world.manager.pressureService.acceptSample sample.rawU24 sample.status
          sample.metadata dispatch.txn world.repo
      let manager := { world.manager with zssc, pressureService }
      { dispatch with
        world := { world with manager, repo }
        txn
        failed := decide (status ≠ .ok) }

def isUsable (metadata : ResultMetadata) : Bool :=
  metadata.validity = .valid && metadata.freshness = .fresh &&
    metadata.acceptance = .accepted

def leakInput (raw : Max35103RawFlowSample) (candidate : RuntimeSnapshot) :
    LeakInputView :=
  { evaluationMonotonicUs := raw.metadata.completionMonotonicUs
    sampleSequence := raw.metadata.sampleSequence
    sourceGeneration := raw.metadata.sourceGeneration
    flowUsable := isUsable candidate.flow.metadata
    flowUlPerS := candidate.flow.flowUlPerS
    flowDirection := candidate.flow.direction
    pressureUsable := isUsable candidate.pressure.metadata
    pressurePa := candidate.pressure.pressurePa
    flowResult := candidate.flow
    pressureResult := candidate.pressure }

/-- The candidate copies of the two stateful services. -/
structure FlowOwners where
  nextVolume : VolumeAccumulator
  nextLeak : LeakDetectionService

/-- Volume and leak for a flow result that the transaction already holds. -/
def prepareOwners (input : RuntimeSnapshot) (raw : Max35103RawFlowSample)
    (dispatch : Dispatch) : Dispatch × Option FlowOwners :=
  let world := dispatch.world
  match dispatch.txn.txnReadSnapshot world.repo with
  | none => (dispatch.fail, none)
  | some candidate =>
      let (volumeStatus, nextVolume) :=
        world.manager.volumeAccumulator.consume candidate.flow
      if volumeStatus ≠ .ok ∧ volumeStatus ≠ .anchored ∧
          volumeStatus ≠ .zeroInterval then
        (dispatch.fail, none)
      else
        let volume := nextVolume.getState
        let (written, txn, repo) := dispatch.txn.txnWriteVolume world.repo volume
        let dispatch := { dispatch with world := { world with repo }, txn }
        if !written then (dispatch.fail, none)
        else
          let view := leakInput raw candidate
          let (leakStatus, nextLeak) := world.manager.leakDetection.evaluate view
          if leakStatus = .internalError ∨ leakStatus = .configError then
            (dispatch.fail, none)
          else
            let leak := nextLeak.getResult view volume input.snapshotVersion
            let (written, txn, repo) := dispatch.txn.txnWriteLeak repo leak
            let dispatch := { dispatch with world := { world with repo }, txn }
            if !written then (dispatch.fail, none)
            else (dispatch, some { nextVolume, nextLeak })

def acceptFlow (input : RuntimeSnapshot) (dispatch : Dispatch) :
    Dispatch × Option FlowOwners :=
  let world := dispatch.world
  if !world.manager.flowPipelineBound then (dispatch.fail, none)
  else
    match world.manager.max.takeRawFlow with
    | (none, _) => (dispatch.fail, none)
    | (some raw, max) =>
        let (status, flowService, txn, repo) :=
          world.manager.flowService.acceptSample raw.tofUpPs raw.tofDownPs
            raw.metadata input.temperature dispatch.txn world.repo
        let manager := { world.manager with max, flowService }
        let dispatch :=
          { dispatch with world := { world with manager, repo }, txn }
        if status ≠ .ok then (dispatch.fail, none)
        else prepareOwners input raw dispatch

def readyEvent (event : AppEvent) (id : EventId) : AppEvent :=
  { AppEvent.cleared with
    id
    priority := .measurement
    delivery := .edge
    correlationId := event.correlationId
    monotonicTimestampUs := event.monotonicTimestampUs }

def postReady (event : AppEvent) (world : MeasurementWorld) (id : EventId) :
    MeasurementWorld :=
  { world with eventQueue := (world.eventQueue.post (readyEvent event id)).2 }

/-- The candidate copies become the live owners. -/
def adopt (world : MeasurementWorld) (owners : FlowOwners) : MeasurementWorld :=
  { world with
    manager :=
      { world.manager with
        volumeAccumulator := owners.nextVolume
        leakDetection := owners.nextLeak } }

def commitDispatch (event : AppEvent) (dispatch : Dispatch)
    (prepared : Option FlowOwners) : Bool × MeasurementWorld :=
  let (committed, _, repo) := dispatch.txn.txnCommit dispatch.world.repo
  let world := { dispatch.world with repo }
  if !committed then (false, world)
  else
    let world :=
      match prepared with
      | none => world
      | some owners =>
          [.flowResultReady, .volumeUpdated, .leakResultUpdated].foldl
            (postReady event) (world.adopt owners)
    let world :=
      if event.id = .pressureRawReady then
        postReady event world .pressureResultReady
      else world
    (dispatch.consumed, world)

def abortDispatch (dispatch : Dispatch) : MeasurementWorld :=
  { dispatch.world with repo := (dispatch.txn.txnAbort dispatch.world.repo).2 }

def finishDispatch (event : AppEvent) (dispatch : Dispatch)
    (prepared : Option FlowOwners) : Bool × MeasurementWorld :=
  if dispatch.failed then (false, abortDispatch dispatch)
  else if dispatch.txn.writtenFieldsMask ≠ 0 then
    commitDispatch event dispatch prepared
  else (dispatch.consumed, abortDispatch dispatch)

/-- The block of a dispatch that a pressure sample goes through. -/
def pressureStage (event : AppEvent) (dispatch : Dispatch) : Dispatch :=
  if !dispatch.failed ∧ event.id = .pressureRawReady then
    acceptPressure dispatch
  else dispatch

/-- The block of a dispatch that a flow sample goes through. -/
def flowStage (event : AppEvent) (input : RuntimeSnapshot)
    (dispatch : Dispatch) : Dispatch × Option FlowOwners :=
  if !dispatch.failed ∧ event.id = .maxRawReady then acceptFlow input dispatch
  else (dispatch, none)

def processEvent (world : MeasurementWorld) (event : AppEvent) :
    Bool × MeasurementWorld :=
  let input := world.repo.visible
  match RepoWriteTxn.txnInit.txnBegin world.repo with
  | (false, _, repo) => (false, { world with repo })
  | (true, txn, repo) =>
      let context := { input, event, nowUs := event.monotonicTimestampUs }
      let dispatch :=
        runServices env context
          { world := { world with repo }, txn, consumed := false
            failed := false }
      let (dispatch, prepared) :=
        flowStage event input (pressureStage event dispatch)
      finishDispatch event dispatch prepared

/-! ## Completions of the shared bus -/

/-- The callback that the bus has for the manager. -/
def pressureBusComplete (world : MeasurementWorld)
    (completion : I2cTransactionCompletion) : MeasurementWorld :=
  let manager := world.manager
  let success : Bool := completion.result = .ok
  let received :=
    if manager.zssc.state = .reading ∨ manager.zssc.state = .polling then
      some manager.zssc.responseBuffer.toList
    else none
  let (zssc, eventQueue) :=
    manager.zssc.onI2cCompletion completion.correlationId success received
      manager.pressureCompletionNowUs world.eventQueue
  { world with manager := { manager with zssc }, eventQueue }

/-- The manager's completions among what the bus did since `before`, in the
order of their delivery. -/
def notifications (before after : BusWorld) : List I2cTransactionCompletion :=
  (after.trace.take (after.trace.length - before.trace.length)).reverse.filterMap
    fun event =>
      match event with
      | .notified completion =>
          if completion.clientId = pressureI2cClientId then some completion
          else none
      | _ => none

/-- The bus moves on to `bus` and delivers the manager's completions. -/
def advanceBus (world : MeasurementWorld) (bus : BusWorld) : MeasurementWorld :=
  (notifications world.bus bus).foldl pressureBusComplete { world with bus }

def completeI2c (world : MeasurementWorld) (key : I2cBus.CompletionKey)
    (result : I2cTransactionResult) (completionNowUs : UInt64) :
    Bool × MeasurementWorld :=
  if !world.manager.i2cBus then (false, world)
  else
    let manager :=
      { world.manager with pressureCompletionNowUs := completionNowUs }
    let (completed, bus) := I2cBus.complete env world.bus key result
    (completed, { world with manager }.advanceBus bus)

end MeasurementWorld
end Swfpm
