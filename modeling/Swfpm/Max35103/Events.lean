import Swfpm.Max35103.Spi

/-!
# Deferred interrupts and the SPI state machine

Embedding of result publication and of the deferred half of `max35103.c`: an
edge of `MAX_INT`, the completion of a staged request, `Process`, `OnTimeout`
and `Cancel`.
-/

namespace Swfpm.Max35103

open Swfpm.AutoCal (Max35103Status Max35103Profile)

/-! ## Sequence numbers -/

namespace Driver

variable (driver : Driver)

/-- The next sequence number; zero is skipped. -/
def nextSequence : UInt32 :=
  if driver.nextSequenceNumber + 1 = 0 then 1 else driver.nextSequenceNumber + 1

def allocateSequence : UInt32 × Driver :=
  (driver.nextSequence, { driver with nextSequenceNumber := driver.nextSequence })

def publishSequence : UInt32 × Driver :=
  if driver.eventTimingActive = false then driver.allocateSequence
  else
    let driver :=
      if driver.activeEventSequenceValid then driver
      else
        let (sequence, driver) := driver.allocateSequence
        { driver with
          activeEventSequenceNumber := sequence
          activeEventSequenceValid := true }
    (driver.activeEventSequenceNumber, driver)

/-! ## Result queues -/

/-- The position of a ring some places after another. -/
def ringSlot (head count : UInt8) (capacity : ℕ) : ℕ :=
  (head.toNat + count.toNat) % capacity

/-- The queue part of `max_publish_result`. -/
def pushResult (queued : RawResult) : Driver :=
  let full : Bool := driver.resultQueueCount.toNat ≥ resultQueueCapacity
  let driver :=
    if full then
      { driver with
        resultQueueOverflowCount := driver.resultQueueOverflowCount + 1
        droppedResultCount := driver.droppedResultCount + 1 }
    else driver
  if full = true ∧ driver.queueOverflowPolicy = .dropNewest then driver
  else
    let driver :=
      if full then
        { driver with
          resultQueueHead :=
            UInt8.ofNat (ringSlot driver.resultQueueHead 1 resultQueueCapacity)
          resultQueueCount := driver.resultQueueCount - 1 }
      else driver
    let tail :=
      ringSlot driver.resultQueueHead driver.resultQueueCount resultQueueCapacity
    let driver :=
      { driver with
        resultQueue := driver.resultQueue.set tail queued
        resultQueueCount := driver.resultQueueCount + 1 }
    if queued.valid then { driver with resultCount := driver.resultCount + 1 }
    else { driver with invalidResultCount := driver.invalidResultCount + 1 }

/-- The queue part of `max_publish_temperature_result`. -/
def pushTemperatureResult (queued : TemperatureResult) : Driver :=
  let full : Bool :=
    driver.temperatureQueueCount.toNat ≥ temperatureQueueCapacity
  let driver :=
    if full then
      { driver with
        temperatureQueueOverflowCount := driver.temperatureQueueOverflowCount + 1
        droppedTemperatureResultCount :=
          driver.droppedTemperatureResultCount + 1 }
    else driver
  if full = true ∧ driver.queueOverflowPolicy = .dropNewest then driver
  else
    let driver :=
      if full then
        { driver with
          temperatureQueueHead := UInt8.ofNat
            (ringSlot driver.temperatureQueueHead 1 temperatureQueueCapacity)
          temperatureQueueCount := driver.temperatureQueueCount - 1 }
      else driver
    let tail := ringSlot driver.temperatureQueueHead
      driver.temperatureQueueCount temperatureQueueCapacity
    let driver :=
      { driver with
        temperatureQueue := driver.temperatureQueue.set tail queued
        temperatureQueueCount := driver.temperatureQueueCount + 1 }
    if queued.valid then
      { driver with temperatureResultCount := driver.temperatureResultCount + 1 }
    else
      { driver with
        invalidTemperatureResultCount :=
          driver.invalidTemperatureResultCount + 1 }

/-- `MAX35103_ClearResultQueues`. -/
def clearResultQueues : Driver :=
  { driver with
    resultQueue := List.replicate resultQueueCapacity .zero
    temperatureQueue := List.replicate temperatureQueueCapacity .zero
    resultQueueHead := 0
    resultQueueCount := 0
    temperatureQueueHead := 0
    temperatureQueueCount := 0 }

/-- `MAX35103_ResultPop`; `none` is the status `NO_RESULT`. -/
def resultPop : Option RawResult × Driver :=
  if driver.resultQueueCount = 0 then (none, driver)
  else
    let head := driver.resultQueueHead
    (some (driver.resultQueue.getD head.toNat .zero),
      { driver with
        resultQueue := driver.resultQueue.set head.toNat .zero
        resultQueueHead := UInt8.ofNat (ringSlot head 1 resultQueueCapacity)
        resultQueueCount := driver.resultQueueCount - 1 })

/-- `MAX35103_TemperatureResultPop`; `none` is the status `NO_RESULT`. -/
def temperatureResultPop : Option TemperatureResult × Driver :=
  if driver.temperatureQueueCount = 0 then (none, driver)
  else
    let head := driver.temperatureQueueHead
    (some (driver.temperatureQueue.getD head.toNat .zero),
      { driver with
        temperatureQueue := driver.temperatureQueue.set head.toNat .zero
        temperatureQueueHead :=
          UInt8.ofNat (ringSlot head 1 temperatureQueueCapacity)
        temperatureQueueCount := driver.temperatureQueueCount - 1 })

end Driver

variable {κ : Type*}

/-! ## Publication -/

/-- The sequence number of a record: its own, or one of the driver's. -/
def recordSequence (own : UInt32) (driver : Driver) : UInt32 × Driver :=
  if own = 0 then driver.publishSequence else (own, driver)

def publishResult (result : RawResult) (world : World κ) : World κ :=
  let (sequence, driver) := recordSequence result.sequenceNumber world.driver
  (world.set (driver.pushResult { result with sequenceNumber := sequence })).note
    (.tofHanded sequence)

def publishStatusOnly (status : UInt16) (timestampUs : UInt64)
    (world : World κ) : World κ :=
  publishResult
    { RawResult.zero with statusFlags := status, timestampUs := timestampUs }
    world

def publishTemperatureResult (result : TemperatureResult) (world : World κ) :
    World κ :=
  let (sequence, driver) := recordSequence result.sequenceNumber world.driver
  (world.set (driver.pushTemperatureResult
    { result with sequenceNumber := sequence })).note
      (.temperatureHanded sequence)

def publishTemperatureStatusOnly (status : UInt16) (timestampUs : UInt64)
    (world : World κ) : World κ :=
  publishTemperatureResult
    { TemperatureResult.zero with
      statusFlags := status
      timestampUs := timestampUs
      selectedPortMask := world.driver.selectedTemperaturePorts } world

/-- Status-only records for the parts of an event that a mask asks for. -/
def publishStatusRecords (parts status : UInt16) (world : World κ) : World κ :=
  let world :=
    if parts &&& intTofEvtmg ≠ 0 then
      publishStatusOnly status world.driver.interruptTimestampUs world
    else world
  if parts &&& intTempEvtmg ≠ 0 then
    publishTemperatureStatusOnly status world.driver.interruptTimestampUs world
  else world

def publishMissingEventResults (status : UInt16) (world : World κ) : World κ :=
  publishStatusRecords
    (world.driver.expectedEventFlags &&& ~~~world.driver.seenEventFlags) status
    world

/-! ## The event state machine -/

variable (platform : Platform κ)

/-- A drain opens a deadline unless one runs already. -/
def Driver.openDrain (driver : Driver) (nowUs : UInt64) : Driver :=
  { driver with
    state := .drainStatus
    attemptStartUs := nowUs
    interruptTimestampUs := nowUs
    deadlineUs :=
      if driver.deadlineUs = 0 then
        nowUs + driver.resultTimeout.toUInt64 * 1000
      else driver.deadlineUs
    latchedStatus := 0
    resultWordIndex := 0 }

def beginStatusDrain (nowUs : UInt64) (world : World κ) : Bool × World κ :=
  let (staged, world) := scheduleRegisterRead regIntStatus
    (world.set (world.driver.openDrain nowUs))
  (staged, if staged then world.note (.drain world.driver.spiToken) else world)

/-- Entering a staged read, or the error state where it cannot be staged. -/
def orError (answer : Bool × World κ) : World κ :=
  if answer.1 then answer.2 else enterError platform answer.2

def enterEventTimeout (status : UInt16) (world : World κ) : World κ :=
  let world := publishMissingEventResults status world
  let world := cancelPendingSpi platform (world.set { world.driver with
    timeoutCount := world.driver.timeoutCount + 1
    errorCount := world.driver.errorCount + 1
    generation := world.driver.generation + 1 })
  let driver := world.driver.clearDeadline
  (world.set { driver.clearEventSequence with
    eventTimingActive := driver.eventTimingActive && driver.eventContinuous
    state := .timeout }).note .timedOut

namespace Driver

variable (driver : Driver)

/-- Every expected flag has been seen. -/
def eventDone : Bool :=
  driver.expectedEventFlags ≠ 0 &&
    driver.seenEventFlags &&& driver.expectedEventFlags =
      driver.expectedEventFlags

/-- What a complete event leaves; event timing goes on where it is continuous. -/
def closeEvent : Driver :=
  { driver.clearEventSequence with
    eventTimingActive := driver.eventTimingActive && driver.eventContinuous
    seenEventFlags := 0
    deadlineUs := 0 }

/-- What every drain clears once its results are read. -/
def endDrain : Driver :=
  { driver with
    attemptStartUs := 0
    resultWordIndex := 0
    temperatureCycleWord := 0 }

/-- The state that a drain returns to. -/
def restState : DriverState :=
  if driver.eventTimingActive then .eventRunning else .idle

end Driver

def finishEventInterrupt (status : UInt16) (world : World κ) : World κ :=
  if status &&& intTimeout ≠ 0 then enterEventTimeout platform status world
  else
    let complete := world.driver.eventDone
    let world :=
      if complete then
        (world.set world.driver.closeEvent).note
          (.eventComplete world.driver.expectedEventFlags)
      else world
    let world := world.set world.driver.endDrain
    if world.driver.irqRecheckPending then
      let pendingUs :=
        if world.driver.pendingIrqTimestampUs ≠ 0 then
          world.driver.pendingIrqTimestampUs
        else world.driver.interruptTimestampUs
      orError platform (beginStatusDrain pendingUs (world.set { world.driver with
        irqRecheckPending := false
        pendingIrqTimestampUs := 0 }))
    else
      let driver := world.driver
      world.set { driver with
        deadlineUs :=
          if complete = false ∧ driver.seenEventFlags = 0 then 0
          else driver.deadlineUs
        state := driver.restState }

/-- Reading the result bank. -/
def beginResultRead (world : World κ) : Bool × World κ :=
  scheduleBlockRead regWvrup tofResultBankWords (world.set { world.driver with
    state := .readResult
    resultWordIndex := 0
    resultFrame := List.replicate tofResultBankDataBytes 0 })

def beginTemperatureRead (averaged : Bool) (world : World κ) : Bool × World κ :=
  scheduleBlockRead (if averaged then regTempCycleCount else regT1Int)
    (if averaged then tempAvgBlockWords else tempResultWords)
    (world.set { world.driver with
      state := .readTempResult
      resultWordIndex := 0
      temperatureCycleWord := 0
      temperatureFrame := List.replicate tempResultFrameBytes 0 })

/-- An edge of `MAX_INT`. -/
def onInt (nowUs : UInt64) (world : World κ) : World κ :=
  let driver := { world.driver with irqCount := world.driver.irqCount + 1 }
  if driver.deviceReady = false ∨ driver.eventTimingActive = false then
    world.set { driver with
      unexpectedIrqCount := driver.unexpectedIrqCount + 1 }
  else if driver.state ≠ .eventRunning ∨ driver.spiPending = true then
    if driver.draining = true ∨ driver.spiPending = true then
      world.set { driver with
        irqRecheckPending := true
        pendingIrqTimestampUs := nowUs
        irqRecheckCount := driver.irqRecheckCount + 1 }
    else
      world.set { driver with
        unexpectedIrqCount := driver.unexpectedIrqCount + 1 }
  else orError platform (beginStatusDrain nowUs (world.set driver))

/-! ## Completion -/

def tofReady : UInt16 := intTofComplete ||| intTofEvtmg

def temperatureReady : UInt16 := intTempComplete ||| intTempEvtmg

/-- The device no longer holds what the host believes. -/
def Driver.loseDevice (driver : Driver) : Driver :=
  { driver.invalidateProfile with
    deviceReady := false
    eventTimingActive := false }

/-- `OnSpiDone` in `DRAIN_STATUS`. -/
def statusDone (world : World κ) : World κ :=
  let status := wordAt world.driver.rxBuf 1
  let world := (world.set { world.driver with latchedStatus := status }).note
    (.statusRead status world.driver.eventTimingActive)
  if status = 0xFFFF then
    enterError platform (world.set world.driver.loseDevice)
  else if status &&& intPor ≠ 0 then
    let world :=
      publishStatusRecords world.driver.expectedEventFlags status world
    enterError platform (world.set world.driver.loseDevice)
  else
    let world := world.set { world.driver with
      seenEventFlags := world.driver.seenEventFlags |||
        (status &&& world.driver.expectedEventFlags) }
    if status &&& tofReady ≠ 0 then
      orError platform (beginResultRead world)
    else if status &&& temperatureReady ≠ 0 then
      orError platform
        (beginTemperatureRead (status &&& intTempEvtmg ≠ 0) world)
    else finishEventInterrupt platform status world

/-- `OnSpiDone` in `READ_RESULT`. -/
def resultDone (world : World κ) : World κ :=
  let frame := (world.driver.rxBuf.drop 1).take tofResultBankDataBytes
  let world := world.set { world.driver with resultFrame := frame }
  let latched := world.driver.latchedStatus
  let world := publishResult (decodeTofBank frame latched
    world.driver.interruptTimestampUs (latched &&& intTofEvtmg ≠ 0)) world
  if latched &&& temperatureReady ≠ 0 then
    orError platform
      (beginTemperatureRead (latched &&& intTempEvtmg ≠ 0) world)
  else finishEventInterrupt platform latched world

/-- `OnSpiDone` in `READ_TEMP_RESULT`. -/
def temperatureDone (world : World κ) : World κ :=
  let latched := world.driver.latchedStatus
  let averaged : Bool := latched &&& intTempEvtmg ≠ 0
  let driver := world.driver
  let world := world.set
    (if averaged then
      { driver with
        temperatureCycleWord := wordAt driver.rxBuf 1
        temperatureFrame := (driver.rxBuf.drop 3).take tempResultFrameBytes }
    else
      { driver with
        temperatureFrame := (driver.rxBuf.drop 1).take tempResultFrameBytes })
  let driver := world.driver
  let world := publishTemperatureResult (decodeTemperatureFrame
    platform.platinumRtdToMilliCelsius driver.synchronizedProfile
    driver.selectedTemperaturePorts driver.temperatureFrame latched
    driver.interruptTimestampUs averaged driver.temperatureCycleWord) world
  finishEventInterrupt platform latched world

/-- The request is over: its transfer owns nothing, and its token is spent. -/
def completeRequest (world : World κ) : World κ :=
  let token := world.driver.spiToken
  let world :=
    if world.driver.spiAsyncActive then disownTransfer platform world else world
  let driver := world.driver.clearPendingSpi
  (world.set { driver with spiDoneCount := driver.spiDoneCount + 1 }).note
    (.completed token)

def onSpiDone (token : UInt32) (transferOk : Bool) (world : World κ) :
    World κ :=
  if world.driver.spiPending = false ∨ token = 0 ∨
      token ≠ world.driver.spiToken then
    world.set { world.driver with
      staleSpiCompletionCount := world.driver.staleSpiCompletionCount + 1 }
  else
    let completedAsync := world.driver.spiAsyncActive
    let world := completeRequest platform world
    if transferOk = false then
      enterError platform
        (if completedAsync then
          world.set { world.driver with
            dmaErrorCount := world.driver.dmaErrorCount + 1 }
        else world)
    else
      match world.driver.state with
      | .drainStatus => statusDone platform world
      | .readResult => resultDone platform world
      | .readTempResult => temperatureDone platform world
      | _ => enterError platform world

/-- A completion, after the bytes that were received. -/
def takeCompletion (world : World κ) (completion : Completion) : World κ :=
  onSpiDone platform completion.token completion.transferOk
    (receive completion.rx world)

/-- The status of a transport that did not accept a request. -/
def refusal (status : TransportStatus) : Max35103Status :=
  match status with
  | .busy => .busy
  | .timeout => .timeout
  | _ => .spiError

/-- The bytes of a staged request leave under the platform's control; the
transfer is marked active first. -/
def launch (hooks : AsyncHooks κ) (world : World κ) : StartAnswer κ × World κ :=
  let world := world.set { world.driver with spiAsyncActive := true }
  let frame := world.driver.pendingFrame
  let answer :=
    hooks.startTransferAsync world.context frame world.driver.spiToken
  (answer, World.note { world with context := answer.context }
    (.frame (some world.driver.spiToken) frame world.driver.eventTimingActive))

def startPendingSpiAsync (world : World κ) : Max35103Status × World κ :=
  if world.driver.spiPending = false then (.notReady, world)
  else if world.driver.spiAsyncActive then (.busy, world)
  else
    match platform.async with
    | none => (.notReady, world)
    | some hooks =>
        let (lockStatus, world) := busAcquire platform world
        if lockStatus ≠ .ok then (refusal lockStatus, world)
        else
          let (answer, world) := launch hooks world
          let world := answer.completions.foldl (takeCompletion platform) world
          if answer.status = .ok then
            (.ok, world.set { world.driver with
              dmaStartCount := world.driver.dmaStartCount + 1 })
          else
            let world := disownTransfer platform world
            (refusal answer.status,
              if answer.status = .busy then world
              else world.set { world.driver with
                dmaErrorCount := world.driver.dmaErrorCount + 1 })

def executeSpi (world : World κ) : Max35103Status × World κ :=
  if world.driver.spiPending = false then (.notReady, world)
  else
    let token := world.driver.spiToken
    let frame := world.driver.pendingFrame
    let (answer, world) := spiXfer platform (some token) frame world
    let world := receive (answer.2.take frame.length) world
    if answer.1 = .busy then (.busy, world)
    else
      (if answer.1 = .ok then .ok else refusal answer.1,
        onSpiDone platform token (answer.1 = .ok) world)

def onTimeout (world : World κ) : World κ :=
  let status := world.driver.latchedStatus ||| intTimeout
  match world.driver.state with
  | .readResult =>
      let world :=
        publishStatusOnly status world.driver.interruptTimestampUs world
      enterEventTimeout platform status (world.set { world.driver with
        seenEventFlags := world.driver.seenEventFlags ||| intTofEvtmg })
  | .readTempResult =>
      let world := publishTemperatureStatusOnly status
        world.driver.interruptTimestampUs world
      enterEventTimeout platform status (world.set { world.driver with
        seenEventFlags := world.driver.seenEventFlags ||| intTempEvtmg })
  | .drainStatus => enterEventTimeout platform status world
  | .eventRunning => enterEventTimeout platform status world
  | _ => world

/-- The deadline of `Process` has come. -/
def Driver.deadlinePassed (driver : Driver) (nowUs : UInt64) : Bool :=
  (driver.draining ||
    (driver.state = .eventRunning && driver.seenEventFlags ≠ 0)) &&
    driver.deadlineUs ≠ 0 && nowUs ≥ driver.deadlineUs

def process (nowUs : UInt64) (world : World κ) : Max35103Status × World κ :=
  if world.driver.deadlinePassed nowUs then
    (.timeout, onTimeout platform world)
  else if world.driver.spiPending then
    if platform.async.isSome then
      if world.driver.spiAsyncActive then (.busy, world)
      else
        let (status, world) := startPendingSpiAsync platform world
        (status,
          if status = .spiError ∨ status = .timeout then
            enterError platform world
          else world)
    else executeSpi platform world
  else if world.driver.state = .timeout then (.timeout, world)
  else if world.driver.state = .error then (.deviceError, world)
  else (.ok, world)

def cancel (world : World κ) : World κ :=
  if world.driver.state = .uninit then world
  else
    let world := clearOperation platform (world.set { world.driver with
      generation := world.driver.generation + 1 })
    let driver := world.driver.clearResultQueues
    (world.set { driver with state := driver.restState }).note .cancelled

end Swfpm.Max35103
