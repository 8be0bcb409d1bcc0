import Swfpm.Support.RingBuffer

/-!
# The application event queue

Embedding of `infrastructure/event/event_id.h` and
`infrastructure/queues/app_event_queue.{h,c}`.  The queue takes its optional
critical section around each call, so one call is one step here and the lock is
left out.
-/

namespace Swfpm

/-- `zero` is no enumerator: memory cleared by `memset` holds it. -/
inductive EventId where
  | zero
  | systemStart
  | initCompleted
  | recoverableInitFailure
  | criticalInitFailure
  | lowPowerRequest
  | wake
  | serviceRequest
  | serviceExit
  | systemRecoveryRequired
  | recoverySucceeded
  | recoveryFailed
  | criticalError
  | authorizedRecoveryRequest
  | controlledReinitialize
  | maxIrqAsserted
  | maxSpiCompleted
  | maxSpiFailed
  | maxRawReady
  | maxResultTimeout
  | flowProcessingCompleted
  | temperatureResultReady
  | flowResultReady
  | pressureSampleDue
  | pressureEocAsserted
  | pressurePollDue
  | pressureRawReady
  | pressureTimeout
  | pressureResultReady
  | measurementStatusChanged
  | volumeUpdated
  | volumeCheckpointRequired
  | leakResultUpdated
  | leakStateChanged
  | snapshotPublishRequested
  | snapshotPublished
  | i2cTransactionCompleted
  | i2cTransactionFailed
  | configCandidateReady
  | configCommitRequired
  | configCommitCompleted
  | configCommitFailed
  | configApplyRequested
  | configApplyResult
  | storageCommitRequested
  | storageCommitCompleted
  | storageCommitFailed
  | rtcAlarm
  | timeSyncReceived
  | timeValidityChanged
  | timeGenerationChanged
  | reportDue
  | bleRxAvailable
  | bleRequestReady
  | bleTxCompleted
  | cellularRxAvailable
  | cellularStepDue
  | connectivityChanged
  | telemetryRecordEnqueued
  | telemetryRetryDue
  | telemetryDeliveryConfirmed
  | telemetryDeliveryFailed
  | lcdRefreshRequested
  | lcdUpdateCompleted
  | lcdUpdateFailed
  | powerStatusChanged
  | healthCheckDue
  | watchdogProgressRequired
  | powerSampleDue
  deriving DecidableEq, Repr

/-- The enumerator's number. -/
def EventId.value : EventId → UInt32
  | zero => 0
  | systemStart => 0x0100
  | initCompleted => 0x0101
  | recoverableInitFailure => 0x0102
  | criticalInitFailure => 0x0103
  | lowPowerRequest => 0x0104
  | wake => 0x0105
  | serviceRequest => 0x0106
  | serviceExit => 0x0107
  | systemRecoveryRequired => 0x0108
  | recoverySucceeded => 0x0109
  | recoveryFailed => 0x010A
  | criticalError => 0x010B
  | authorizedRecoveryRequest => 0x010C
  | controlledReinitialize => 0x010D
  | maxIrqAsserted => 0x0200
  | maxSpiCompleted => 0x0201
  | maxSpiFailed => 0x0202
  | maxRawReady => 0x0203
  | maxResultTimeout => 0x0204
  | flowProcessingCompleted => 0x0205
  | temperatureResultReady => 0x0206
  | flowResultReady => 0x0207
  | pressureSampleDue => 0x0208
  | pressureEocAsserted => 0x0209
  | pressurePollDue => 0x020A
  | pressureRawReady => 0x020B
  | pressureTimeout => 0x020C
  | pressureResultReady => 0x020D
  | measurementStatusChanged => 0x020E
  | volumeUpdated => 0x0300
  | volumeCheckpointRequired => 0x0301
  | leakResultUpdated => 0x0302
  | leakStateChanged => 0x0303
  | snapshotPublishRequested => 0x0304
  | snapshotPublished => 0x0305
  | i2cTransactionCompleted => 0x0380
  | i2cTransactionFailed => 0x0381
  | configCandidateReady => 0x0400
  | configCommitRequired => 0x0401
  | configCommitCompleted => 0x0402
  | configCommitFailed => 0x0403
  | configApplyRequested => 0x0404
  | configApplyResult => 0x0405
  | storageCommitRequested => 0x0406
  | storageCommitCompleted => 0x0407
  | storageCommitFailed => 0x0408
  | rtcAlarm => 0x0500
  | timeSyncReceived => 0x0501
  | timeValidityChanged => 0x0502
  | timeGenerationChanged => 0x0503
  | reportDue => 0x0504
  | bleRxAvailable => 0x0600
  | bleRequestReady => 0x0601
  | bleTxCompleted => 0x0602
  | cellularRxAvailable => 0x0603
  | cellularStepDue => 0x0604
  | connectivityChanged => 0x0605
  | telemetryRecordEnqueued => 0x0606
  | telemetryRetryDue => 0x0607
  | telemetryDeliveryConfirmed => 0x0608
  | telemetryDeliveryFailed => 0x0609
  | lcdRefreshRequested => 0x0700
  | lcdUpdateCompleted => 0x0701
  | lcdUpdateFailed => 0x0702
  | powerStatusChanged => 0x0703
  | healthCheckDue => 0x0704
  | watchdogProgressRequired => 0x0705
  | powerSampleDue => 0x0706

inductive AppEventDelivery where
  | edge
  | completion
  | level
  | deadline
  | mailbox
  deriving DecidableEq, Repr

inductive AppEventPriority where
  | critical
  | measurement
  | sharedResource
  | config
  | background
  | count
  deriving DecidableEq, Repr

/-- The enumerator's number; the smaller one is served first. -/
def AppEventPriority.value : AppEventPriority → ℕ
  | critical => 0
  | measurement => 1
  | sharedResource => 2
  | config => 3
  | background => 4
  | count => 5

structure AppEvent where
  id : EventId
  sourceId : UInt32
  priority : AppEventPriority
  delivery : AppEventDelivery
  sequence : UInt32
  correlationId : UInt32
  sourceGeneration : UInt32
  monotonicTimestampUs : UInt64
  payload : Vector UInt8 16
  payloadSize : UInt8
  deriving DecidableEq, Repr

def AppEvent.cleared : AppEvent :=
  { id := .zero, sourceId := 0, priority := .critical, delivery := .edge
    sequence := 0, correlationId := 0, sourceGeneration := 0
    monotonicTimestampUs := 0, payload := .replicate 16 0, payloadSize := 0 }

inductive EventPostResult where
  | ok
  | coalesced
  | backpressure
  | rejectedInvalid
  | overflowEscalated
  deriving DecidableEq, Repr

structure AppEventQueueConfig where
  capacity : UInt16
  reservedCritical : UInt8
  reservedMeasurement : UInt8
  deriving DecidableEq, Repr

/-- `APP_EVENT_QUEUE_MAX_CAPACITY`. -/
abbrev appEventQueueMaxCapacity : ℕ := 64

structure AppEventQueue where
  buffer : Fin appEventQueueMaxCapacity → AppEvent
  config : AppEventQueueConfig
  head : Fin appEventQueueMaxCapacity
  tail : Fin appEventQueueMaxCapacity
  count : ℕ
  criticalEmergency : Bool
  overflowCount : UInt32
  dropCount : UInt32
  starvationCount : UInt32
  consecutiveDequeueCount : UInt8

namespace AppEventQueue

open RingBuffer

/-! ## Posting -/

def isPriorityCritical (priority : AppEventPriority) : Bool :=
  priority = .critical

def isPriorityMeasurement (priority : AppEventPriority) : Bool :=
  priority = .measurement

def canCoalesce (delivery : AppEventDelivery) : Bool :=
  delivery = .level

/-- The walk of `find_coalesce_target`. -/
def findLevel (buffer : Fin appEventQueueMaxCapacity → AppEvent)
    (event : AppEvent) (index : Fin appEventQueueMaxCapacity) :
    ℕ → Option (Fin appEventQueueMaxCapacity)
  | 0 => none
  | remaining + 1 =>
      if (buffer index).id = event.id ∧
          (buffer index).sourceId = event.sourceId ∧
          (buffer index).delivery = .level then
        some index
      else findLevel buffer event (next index) remaining

def findCoalesceTarget (queue : AppEventQueue) (event : AppEvent) :
    Option (Fin appEventQueueMaxCapacity) :=
  if !canCoalesce event.delivery then none
  else findLevel queue.buffer event queue.head queue.count

def fallbackConfig : AppEventQueueConfig := ⟨32, 4, 4⟩

/-- The clamps at the end of `init`. -/
def clampConfig (config : AppEventQueueConfig) : AppEventQueueConfig :=
  let capacity := if config.capacity > 64 then 64 else config.capacity
  let clampReserved (reserved : UInt8) : UInt8 :=
    if reserved.toUInt16 > capacity then capacity.toUInt8 else reserved
  { capacity
    reservedCritical := clampReserved config.reservedCritical
    reservedMeasurement := clampReserved config.reservedMeasurement }

def init (config : Option AppEventQueueConfig) : AppEventQueue :=
  { buffer := fun _ => .cleared
    config := clampConfig (config.getD fallbackConfig)
    head := 0, tail := 0, count := 0, criticalEmergency := false
    overflowCount := 0, dropCount := 0, starvationCount := 0
    consecutiveDequeueCount := 0 }

/-- `none` is a null event. -/
def postUnlocked (queue : AppEventQueue) (event : Option AppEvent) :
    EventPostResult × AppEventQueue :=
  match event with
  | none => (.rejectedInvalid, queue)
  | some event =>
      match findCoalesceTarget queue event with
      | some index =>
          (.coalesced, { queue with buffer := write queue.buffer index event })
      | none =>
          let isBackground :=
            !isPriorityCritical event.priority &&
              !isPriorityMeasurement event.priority
          let maxBackground :=
            (queue.config.capacity - queue.config.reservedCritical.toUInt16).toNat
          if isBackground ∧ queue.count ≥ maxBackground then
            (.backpressure,
              { queue with overflowCount := queue.overflowCount + 1 })
          else if !isBackground ∧ queue.count ≥ queue.config.capacity.toNat then
            if isPriorityCritical event.priority then
              (.overflowEscalated, { queue with criticalEmergency := true })
            else
              (.backpressure,
                { queue with overflowCount := queue.overflowCount + 1 })
          else
            (.ok,
              { queue with
                buffer := write queue.buffer queue.tail event
                tail := next queue.tail
                count := queue.count + 1 })

def post (queue : AppEventQueue) (event : Option AppEvent) :
    EventPostResult × AppEventQueue :=
  postUnlocked queue event

def postFromIsr (queue : AppEventQueue) (event : Option AppEvent) :
    EventPostResult × AppEventQueue :=
  postUnlocked queue event

/-! ## Taking an event -/

/-- The walk that looks for the best priority, from the best index so far. -/
def scanBest (buffer : Fin appEventQueueMaxCapacity → AppEvent)
    (forceFairDequeue : Bool) (bestIndex : Fin appEventQueueMaxCapacity)
    (bestPriority : AppEventPriority) (index : Fin appEventQueueMaxCapacity) :
    ℕ → Fin appEventQueueMaxCapacity × AppEventPriority
  | 0 => (bestIndex, bestPriority)
  | remaining + 1 =>
      if !forceFairDequeue ∧
          (buffer index).priority.value < bestPriority.value then
        scanBest buffer forceFairDequeue index (buffer index).priority
          (next index) remaining
      else
        scanBest buffer forceFairDequeue bestIndex bestPriority (next index)
          remaining

/-- Distance of `index` from the head, as `try_get` computes it. -/
def offsetFrom (head index : Fin appEventQueueMaxCapacity) : ℕ :=
  (index + appEventQueueMaxCapacity - head) % appEventQueueMaxCapacity

/-- The cell before `index`. -/
def previous (index : Fin appEventQueueMaxCapacity) :
    Fin appEventQueueMaxCapacity :=
  advance index (appEventQueueMaxCapacity - 1)

def tryGet (queue : AppEventQueue) : Option AppEvent × AppEventQueue :=
  if queue.count = 0 then (none, queue)
  else
    let forceFairDequeue : Bool := queue.consecutiveDequeueCount ≥ 4
    let (bestIndex, bestPriority) :=
      scanBest queue.buffer forceFairDequeue queue.head
        (queue.buffer queue.head).priority queue.head queue.count
    let starvationCount :=
      if forceFairDequeue ∧ bestPriority = .critical then
        queue.starvationCount + 1
      else queue.starvationCount
    let consecutiveDequeueCount :=
      if !forceFairDequeue ∧
          bestPriority.value ≤ AppEventPriority.sharedResource.value then
        queue.consecutiveDequeueCount + 1
      else 0
    let remaining := queue.count - offsetFrom queue.head bestIndex - 1
    (some (queue.buffer bestIndex),
      { queue with
        buffer := shift queue.buffer bestIndex remaining
        tail := previous queue.tail
        count := queue.count - 1
        starvationCount
        consecutiveDequeueCount })

def getCount (queue : AppEventQueue) : ℕ := queue.count

def getOverflowCount (queue : AppEventQueue) : UInt32 := queue.overflowCount

def getStarvationCount (queue : AppEventQueue) : UInt32 :=
  queue.starvationCount

end AppEventQueue
end Swfpm
