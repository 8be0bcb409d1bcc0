import Swfpm.Max35103.Results

/-!
# Frames on the SPI bus

Embedding of the transport, cancellation and staging functions of `max35103.c`.
Functions that call hooks take and return a world.
-/

namespace Swfpm.Max35103

open Swfpm.AutoCal (Max35103Status Max35103Profile)

/-! ## Opcodes -/

def blockRangeValid (startReadOpcode wordCount : UInt8) : Bool :=
  if wordCount = 0 ∨ wordCount > maxBlockWords then false
  else if startReadOpcode = regControl then wordCount = 1
  else if startReadOpcode < 0xB0 ∨ startReadOpcode > regIntStatus then false
  else startReadOpcode.toNat + wordCount.toNat - 1 ≤ regIntStatus.toNat

def isExecutionOpcode (opcode : UInt8) : Bool := opcode ≤ cmdCalibrate

def isReadOpcode (opcode : UInt8) : Bool :=
  opcode = regControl || (opcode ≥ 0xB0 && opcode ≤ regIntStatus)

def isWriteOpcode (opcode : UInt8) : Bool :=
  (opcode ≥ 0x30 && opcode ≤ 0x43) || opcode = 0xFF

def readbackOpcode (writeOpcode : UInt8) : UInt8 :=
  if writeOpcode = 0xFF then regControl else writeOpcode ||| 0x80

def isConfigurationWrite (writeOpcode : UInt8) : Bool :=
  writeOpcode ≥ 0x30 && writeOpcode ≤ 0x43

/-! ## The profile shadow -/

/-- A profile with one register changed; `none` where the source returns false:
the opcode is not one of a profile's registers. -/
def updateProfileRegister (profile : Max35103Profile) (writeOpcode : UInt8)
    (value : UInt16) : Option Max35103Profile :=
  if writeOpcode = regTof1 then some { profile with tof1 := value }
  else if writeOpcode = regTof2 then some { profile with tof2 := value }
  else if writeOpcode = regTof3 then some { profile with tof3 := value }
  else if writeOpcode = regTof4 then some { profile with tof4 := value }
  else if writeOpcode = regTof5 then some { profile with tof5 := value }
  else if writeOpcode = regTof6 then some { profile with tof6 := value }
  else if writeOpcode = regTof7 then some { profile with tof7 := value }
  else if writeOpcode = regEvtTiming1 then
    some { profile with eventTiming1 := value }
  else if writeOpcode = regEvtTiming2 then
    some { profile with eventTiming2 := value }
  else if writeOpcode = regTofMeasDelay then
    some { profile with tofMeasurementDelay := value }
  else if writeOpcode = regCalCtrl then
    some { profile with calibrationControl := value }
  else none

def directPlStopValid (writeOpcode : UInt8) (value : UInt16) : Bool :=
  if writeOpcode = regTof1 then
    let pl := ((value &&& 0xFF00) >>> 8).toUInt8
    pl ≥ 1 && pl ≤ 127
  else if writeOpcode = regTof2 then
    ((value &&& 0xE000) >>> 13).toUInt8 ≤ Swfpm.AutoCal.stopCodeMax
  else true

namespace Driver

variable (driver : Driver)

/-- `MAX35103_IsProfileSynchronized`. -/
def isProfileSynchronized : Bool :=
  driver.configured && driver.profileSynchronized

/-- `max_active_profile`. -/
def synchronizedProfile : Option Max35103Profile :=
  if driver.isProfileSynchronized then some driver.activeProfile else none

def invalidateProfile : Driver :=
  { driver with configured := false, profileSynchronized := false }

/-- A timeout of the synchronized profile; zero and no profile select the
default. -/
def profileTimeout (timeout : Max35103Profile → UInt32) (fallback : UInt32) :
    UInt32 :=
  match driver.synchronizedProfile with
  | some profile => if timeout profile ≠ 0 then timeout profile else fallback
  | none => fallback

def initTimeout : UInt32 :=
  driver.profileTimeout Max35103Profile.initTimeoutMs initTimeoutMsDefault

def resultTimeout : UInt32 :=
  driver.profileTimeout Max35103Profile.resultTimeoutMs resultTimeoutMsDefault

def haltTimeout : UInt32 :=
  driver.profileTimeout Max35103Profile.haltTimeoutMs haltTimeoutMsDefault

def eventContinuous : Bool :=
  match driver.synchronizedProfile with
  | some profile => profile.calibrationControl &&& calCtrlEtCont ≠ 0
  | none => false

def intStatusOwned : Bool :=
  driver.eventTimingActive || driver.state = .arming ||
    driver.state = .drainStatus || driver.state = .readResult ||
    driver.state = .readTempResult || driver.state = .halting ||
    driver.state = .selfCheck || driver.state = .tempMeasuring

/-- `max_expected_event_flags`. -/
def modeEventFlags : UInt16 :=
  match driver.synchronizedProfile with
  | some profile =>
      if profile.eventModeCmd = cmdEvtmg1 then intTofEvtmg ||| intTempEvtmg
      else if profile.eventModeCmd = cmdEvtmg2 then intTofEvtmg
      else if profile.eventModeCmd = cmdEvtmg3 then intTempEvtmg
      else 0
  | none => 0

def selectedTemperaturePorts : UInt8 :=
  match driver.synchronizedProfile with
  | some profile =>
      let ports := profile.eventTiming2 &&& 0x0060
      if ports = 0x0000 then 0x05
      else if ports = 0x0020 then 0x0A
      else if ports = 0x0040 then 0x07
      else 0x0F
  | none => 0

def isBusy : Bool :=
  driver.spiPending || driver.state = .arming || driver.state = .drainStatus ||
    driver.state = .readResult || driver.state = .readTempResult ||
    driver.state = .halting || driver.state = .selfCheck ||
    driver.state = .tempMeasuring

/-- A deferred read is in progress. -/
def draining : Bool :=
  driver.state = .drainStatus || driver.state = .readResult ||
    driver.state = .readTempResult

def clearPendingSpi : Driver :=
  { driver with spiPending := false, spiLength := 0, spiToken := 0 }

end Driver

/-- Some bytes at the start of a buffer. -/
def overwrite (bytes buffer : List UInt8) : List UInt8 :=
  bytes ++ buffer.drop bytes.length

variable {κ : Type*} (platform : Platform κ)

/-! ## Ownership of the bus -/

def busAcquire (world : World κ) : TransportStatus × World κ :=
  if world.driver.spiBusLocked then (.busy, world)
  else
    match platform.sharing with
    | none => (.ok, world.set { world.driver with spiBusLocked := true })
    | some hooks =>
        let answer := hooks.lock world.context spiTimeoutMs
        let world := { world with context := answer.2 }
        if answer.1 ≠ .ok then
          (answer.1, world.set { world.driver with
            busLockFailureCount := world.driver.busLockFailureCount + 1 })
        else
          (.ok, (world.set { world.driver with spiBusLocked := true }).note
            .locked)

def busRelease (world : World κ) : World κ :=
  if world.driver.spiBusLocked then
    let world := world.set { world.driver with spiBusLocked := false }
    match platform.sharing with
    | none => world
    | some hooks =>
        World.note { world with context := hooks.unlock world.context } .unlocked
  else world

/-- The bytes received are only those of a transfer that took place. -/
def spiXfer (token : Option UInt32) (tx : List UInt8) (world : World κ) :
    (TransportStatus × List UInt8) × World κ :=
  let (lockStatus, world) := busAcquire platform world
  if lockStatus ≠ .ok then ((lockStatus, []), world)
  else
    let answer := platform.transfer world.context tx spiTimeoutMs
    let world := World.note { world with context := answer.2 }
      (.frame token tx world.driver.eventTimingActive)
    (answer.1, busRelease platform world)

/-! ## Blocking frames -/

def spiCommand (opcode : UInt8) (world : World κ) : TransportStatus × World κ :=
  let (answer, world) := spiXfer platform none [opcode] world
  (answer.1, world)

/-- The register; `none` unless the transfer succeeded. -/
def spiReadReg (readOpcode : UInt8) (world : World κ) :
    Option UInt16 × World κ :=
  let (answer, world) := spiXfer platform none [readOpcode, 0, 0] world
  (if answer.1 = .ok then some (wordAt answer.2 1) else none, world)

/-- A write to the frame buffers, as the trace records it. -/
def writeBuffers (tx rx : List UInt8) (world : World κ) : World κ :=
  (world.set { world.driver with
    txBuf := overwrite tx world.driver.txBuf
    rxBuf := overwrite rx world.driver.rxBuf }).note
      (.wrote world.driver.spiAsyncActive)

/-- The frame of a sequential read. -/
def blockFrame (startReadOpcode wordCount : UInt8) : List UInt8 :=
  startReadOpcode :: List.replicate (wordCount.toNat * 2) 0

/-- What the platform leaves in the receive buffer. -/
def receive (rx : List UInt8) (world : World κ) : World κ :=
  world.set { world.driver with
    rxBuf := overwrite (rx.take world.driver.rxBuf.length) world.driver.rxBuf }

/-- The data of a block; `none` unless the transfer succeeded. -/
def spiReadBlockData (startReadOpcode wordCount : UInt8) (world : World κ) :
    Option (List UInt8) × World κ :=
  if blockRangeValid startReadOpcode wordCount = false then (none, world)
  else
    let frame := blockFrame startReadOpcode wordCount
    let world := writeBuffers frame (List.replicate frame.length 0) world
    let (answer, world) := spiXfer platform none frame world
    let world := receive (answer.2.take frame.length) world
    (if answer.1 = .ok then
        some ((world.driver.rxBuf.drop 1).take (wordCount.toNat * 2))
      else none, world)

def spiWriteReg (writeOpcode : UInt8) (value : UInt16) (world : World κ) :
    TransportStatus × World κ :=
  let (answer, world) := spiXfer platform none
    [writeOpcode, (value >>> 8).toUInt8, (value &&& 0xFF).toUInt8] world
  (answer.1, world)

/-! ## Time -/

def getTick (world : World κ) : UInt32 × World κ :=
  let answer := platform.getTickMs world.context
  (answer.1, { world with context := answer.2 })

def delay (delayMs : UInt32) (world : World κ) : World κ :=
  { world with context := platform.delayMs world.context delayMs }

/-! ## Cancellation -/

/-- The cancel hook, for a transfer that is marked active. -/
def cancelTransfer (world : World κ) : World κ :=
  match platform.async with
  | none => world
  | some hooks =>
      let answer :=
        hooks.cancelTransferAsync world.context world.driver.spiToken
      World.set { world with context := answer.2 }
        (if answer.1 = .ok then
          { world.driver with dmaCancelCount := world.driver.dmaCancelCount + 1 }
        else { world.driver with dmaErrorCount := world.driver.dmaErrorCount + 1 })

/-- The transfer no longer owns the frame. -/
def disownTransfer (world : World κ) : World κ :=
  busRelease platform
    (world.set { world.driver with spiAsyncActive := false })

def cancelPendingSpi (world : World κ) : World κ :=
  let world :=
    if world.driver.spiAsyncActive then
      disownTransfer platform (cancelTransfer platform world)
    else world
  world.set world.driver.clearPendingSpi

/-- The fields of an operation, apart from its SPI request. -/
def Driver.clearOperation (driver : Driver) : Driver :=
  { driver with
    attemptStartUs := 0
    deadlineUs := 0
    resultWordIndex := 0
    temperatureCycleWord := 0
    latchedStatus := 0
    interruptTimestampUs := 0
    pendingIrqTimestampUs := 0
    irqRecheckPending := false
    activeEventSequenceNumber := 0
    activeEventSequenceValid := false }

def clearOperation (world : World κ) : World κ :=
  cancelPendingSpi platform (world.set world.driver.clearOperation)

/-- The fields that an error clears once the request is cancelled. -/
def Driver.clearDeadline (driver : Driver) : Driver :=
  { driver with
    deadlineUs := 0
    irqRecheckPending := false
    pendingIrqTimestampUs := 0 }

def Driver.clearEventSequence (driver : Driver) : Driver :=
  { driver with
    activeEventSequenceNumber := 0
    activeEventSequenceValid := false }

def enterError (world : World κ) : World κ :=
  let world := cancelPendingSpi platform (world.set { world.driver with
    errorCount := world.driver.errorCount + 1
    state := .error
    generation := world.driver.generation + 1 })
  world.set world.driver.clearDeadline.clearEventSequence

/-! ## Staging -/

/-- The next token; zero is skipped. -/
def Driver.nextToken (driver : Driver) : UInt32 :=
  if driver.nextSpiToken + 1 = 0 then 1 else driver.nextSpiToken + 1

/-- The request of some frame, under a new token. -/
def stageRequest (frame : List UInt8) (world : World κ) : World κ :=
  let world := writeBuffers frame (List.replicate frame.length 0) world
  let token := world.driver.nextToken
  (world.set { world.driver with
    spiLength := UInt16.ofNat frame.length
    nextSpiToken := token
    spiToken := token
    spiPending := true }).note (.staged token)

def scheduleRegisterRead (readOpcode : UInt8) (world : World κ) :
    Bool × World κ :=
  if world.driver.spiPending = true ∨ isReadOpcode readOpcode = false then
    (false, world)
  else (true, stageRequest [readOpcode, 0, 0] world)

def scheduleBlockRead (startReadOpcode wordCount : UInt8) (world : World κ) :
    Bool × World κ :=
  if world.driver.spiPending = true ∨
      blockRangeValid startReadOpcode wordCount = false then (false, world)
  else (true, stageRequest (blockFrame startReadOpcode wordCount) world)

/-- The frame of the pending request. -/
def Driver.pendingFrame (driver : Driver) : List UInt8 :=
  driver.txBuf.take driver.spiLength.toNat

end Swfpm.Max35103
