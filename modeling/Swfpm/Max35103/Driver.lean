import Swfpm.AutoCal.Profile

/-!
# The MAX35103 driver of the STM32 firmware

Data of `3.stm32/Drivers/MAX35103/max35103.h`: the register map, the transport
that the platform injects, the results and the driver object.  The status codes
and the register profile are shared with the calibration service.
-/

namespace Swfpm.Max35103

open Swfpm.AutoCal (Max35103Status Max35103Profile)

/-! ## Opcodes and flags -/

def cmdTofDiff : UInt8 := 0x02
def cmdTemperature : UInt8 := 0x03
def cmdInit : UInt8 := 0x05
def cmdEvtmg1 : UInt8 := 0x07
def cmdEvtmg2 : UInt8 := 0x08
def cmdEvtmg3 : UInt8 := 0x09
def cmdHalt : UInt8 := 0x0A
def cmdCalibrate : UInt8 := 0x0E

def regTof1 : UInt8 := 0x38
def regTof2 : UInt8 := 0x39
def regTof3 : UInt8 := 0x3A
def regTof4 : UInt8 := 0x3B
def regTof5 : UInt8 := 0x3C
def regTof6 : UInt8 := 0x3D
def regTof7 : UInt8 := 0x3E
def regEvtTiming1 : UInt8 := 0x3F
def regEvtTiming2 : UInt8 := 0x40
def regTofMeasDelay : UInt8 := 0x41
def regCalCtrl : UInt8 := 0x42

def readTof1 : UInt8 := 0xB8
def readCalCtrl : UInt8 := 0xC2

def regWvrup : UInt8 := 0xC4
def regHit1UpInt : UInt8 := 0xC5
def regWvrdn : UInt8 := 0xD3
def regHit1DnInt : UInt8 := 0xD4
def regAvgupInt : UInt8 := 0xD1
def regAvgupFrac : UInt8 := 0xD2
def regAvgdnInt : UInt8 := 0xE0
def regAvgdnFrac : UInt8 := 0xE1
def regTofDiffInt : UInt8 := 0xE2
def regTofDiffFrac : UInt8 := 0xE3
def regCycleCount : UInt8 := 0xE4
def regTofDiffAvgInt : UInt8 := 0xE5
def regTofDiffAvgFrac : UInt8 := 0xE6
def regT1Int : UInt8 := 0xE7
def regTempCycleCount : UInt8 := 0xEF
def regIntStatus : UInt8 := 0xFE
def regControl : UInt8 := 0x7F

def intTimeout : UInt16 := 0x8000
def intTofComplete : UInt16 := 0x1000
def intTempComplete : UInt16 := 0x0800
def intTofEvtmg : UInt16 := 0x0200
def intTempEvtmg : UInt16 := 0x0100
def intHaltComplete : UInt16 := 0x0020
def intInitComplete : UInt16 := 0x0008
def intPor : UInt16 := 0x0004

def calCtrlIntEn : UInt16 := 0x0200
def calCtrlEtCont : UInt16 := 0x0100

/-! ## Sizes and timing defaults -/

def tempPortCount : ℕ := 4
def tempResultWords : UInt8 := 8
def tempResultFrameBytes : ℕ := 16
def tempAvgBlockWords : UInt8 := 9
def tofResultBankWords : UInt8 := 35
def tofResultBankDataBytes : ℕ := 70
def maxBlockWords : UInt8 := tofResultBankWords
def maxSpiFrameBytes : ℕ := 71
def resultQueueCapacity : ℕ := 8
def temperatureQueueCapacity : ℕ := 8

def initTimeoutMsDefault : UInt32 := 100
def resultTimeoutMsDefault : UInt32 := 200
def haltTimeoutMsDefault : UInt32 := 100
def spiTimeoutMs : UInt32 := 10
def resetPulseMs : UInt32 := 1
def resetReadyMs : UInt32 := 1
def initSettleMs : UInt32 := 3

/-! ## The transport -/

inductive TransportStatus where
  | ok
  | busy
  | timeout
  | error
  deriving DecidableEq, Repr

/-- The hooks that share the bus; the source accepts both or none. -/
structure LockHooks (κ : Type*) where
  lock : κ → UInt32 → TransportStatus × κ
  unlock : κ → κ

/-- A completion that the platform reports: `MAX35103_OnSpiDone` with the bytes
that were received before it. -/
structure Completion where
  token : UInt32
  transferOk : Bool
  rx : List UInt8
  deriving DecidableEq, Repr

/-- What starting an asynchronous transfer does: the completions that arrive
before the hook returns, and what it returns. -/
structure StartAnswer (κ : Type*) where
  completions : List Completion
  status : TransportStatus
  context : κ

/-- The hooks of asynchronous transfers; the source accepts both or none. -/
structure AsyncHooks (κ : Type*) where
  startTransferAsync : κ → List UInt8 → UInt32 → StartAnswer κ
  cancelTransferAsync : κ → UInt32 → TransportStatus × κ

/-- A valid `Max35103Transport` over the state of its platform. -/
structure Transport (κ : Type*) where
  transfer : κ → List UInt8 → UInt32 → (TransportStatus × List UInt8) × κ
  setReset : Option (κ → Bool → TransportStatus × κ)
  getTickMs : κ → UInt32 × κ
  delayMs : κ → UInt32 → κ
  async : Option (AsyncHooks κ)
  sharing : Option (LockHooks κ)

/-- The transport, and the conversion `MAX35103_PlatinumRtdToMilliCelsius`,
whose floating-point arithmetic stays a parameter; `none` is any failure. -/
structure Platform (κ : Type*) extends Transport κ where
  platinumRtdToMilliCelsius : UInt32 → UInt32 → Option Int32

/-! ## Results -/

inductive QueueOverflowPolicy where
  | dropOldest
  | dropNewest
  deriving DecidableEq, Repr

structure RawResult where
  avgUpInt : UInt16
  avgUpFrac : UInt16
  avgDownInt : UInt16
  avgDownFrac : UInt16
  tofDiffInt : UInt16
  tofDiffFrac : UInt16
  cycleRangeWord : UInt16
  tofDiffAvgInt : UInt16
  tofDiffAvgFrac : UInt16
  tofUpQ16 : UInt32
  tofDownQ16 : UInt32
  tofDiffQ16 : Int32
  tofDiffAvgQ16 : Int32
  selectedTofDiffQ16 : Int32
  tofUpPs : Int64
  tofDownPs : Int64
  tofDiffPs : Int64
  tofDiffAvgPs : Int64
  selectedTofDiffPs : Int64
  validCycleCount : UInt8
  tofRange : UInt8
  statusFlags : UInt16
  timestampUs : UInt64
  sequenceNumber : UInt32
  selectedTofDiffIsAverage : Bool
  valid : Bool
  deriving DecidableEq, Repr

def RawResult.zero : RawResult :=
  { avgUpInt := 0, avgUpFrac := 0, avgDownInt := 0, avgDownFrac := 0
    tofDiffInt := 0, tofDiffFrac := 0, cycleRangeWord := 0, tofDiffAvgInt := 0
    tofDiffAvgFrac := 0, tofUpQ16 := 0, tofDownQ16 := 0, tofDiffQ16 := 0
    tofDiffAvgQ16 := 0, selectedTofDiffQ16 := 0, tofUpPs := 0, tofDownPs := 0
    tofDiffPs := 0, tofDiffAvgPs := 0, selectedTofDiffPs := 0
    validCycleCount := 0, tofRange := 0, statusFlags := 0, timestampUs := 0
    sequenceNumber := 0, selectedTofDiffIsAverage := false, valid := false }

/-- The port fields are lists of one entry for each of `T1` to `T4`. -/
structure TemperatureResult where
  portInt : List UInt16
  portFrac : List UInt16
  portQ16 : List UInt32
  rtd1ResistanceMilliohm : UInt32
  rtd2ResistanceMilliohm : UInt32
  rtd1TemperatureMillicelsius : Int32
  rtd2TemperatureMillicelsius : Int32
  statusFlags : UInt16
  timestampUs : UInt64
  sequenceNumber : UInt32
  selectedPortMask : UInt8
  validPortMask : UInt8
  shortCircuitMask : UInt8
  openCircuitMask : UInt8
  validCycleCount : UInt8
  averaged : Bool
  rtd1Valid : Bool
  rtd2Valid : Bool
  rtd1TemperatureValid : Bool
  rtd2TemperatureValid : Bool
  valid : Bool
  deriving DecidableEq, Repr

def TemperatureResult.zero : TemperatureResult :=
  { portInt := List.replicate tempPortCount 0
    portFrac := List.replicate tempPortCount 0
    portQ16 := List.replicate tempPortCount 0
    rtd1ResistanceMilliohm := 0, rtd2ResistanceMilliohm := 0
    rtd1TemperatureMillicelsius := 0, rtd2TemperatureMillicelsius := 0
    statusFlags := 0, timestampUs := 0, sequenceNumber := 0
    selectedPortMask := 0, validPortMask := 0, shortCircuitMask := 0
    openCircuitMask := 0, validCycleCount := 0, averaged := false
    rtd1Valid := false, rtd2Valid := false, rtd1TemperatureValid := false
    rtd2TemperatureValid := false, valid := false }

/-! ## The driver object -/

inductive DriverState where
  | uninit
  | idle
  | arming
  | eventRunning
  | drainStatus
  | readResult
  | halting
  | selfCheck
  | timeout
  | error
  | tempMeasuring
  | readTempResult
  deriving DecidableEq, Repr

structure Driver where
  state : DriverState
  generation : UInt32
  attemptStartUs : UInt64
  deadlineUs : UInt64
  activeProfile : Max35103Profile
  profileSynchronized : Bool
  deviceReady : Bool
  configured : Bool
  eventTimingActive : Bool
  irqRecheckPending : Bool
  txBuf : List UInt8
  rxBuf : List UInt8
  spiLength : UInt16
  spiToken : UInt32
  nextSpiToken : UInt32
  spiPending : Bool
  spiAsyncActive : Bool
  spiBusLocked : Bool
  resultFrame : List UInt8
  temperatureFrame : List UInt8
  resultWordIndex : UInt8
  temperatureCycleWord : UInt16
  latchedStatus : UInt16
  expectedEventFlags : UInt16
  seenEventFlags : UInt16
  interruptTimestampUs : UInt64
  pendingIrqTimestampUs : UInt64
  resultQueue : List RawResult
  temperatureQueue : List TemperatureResult
  resultQueueHead : UInt8
  resultQueueCount : UInt8
  temperatureQueueHead : UInt8
  temperatureQueueCount : UInt8
  queueOverflowPolicy : QueueOverflowPolicy
  nextSequenceNumber : UInt32
  activeEventSequenceNumber : UInt32
  activeEventSequenceValid : Bool
  irqCount : UInt32
  irqRecheckCount : UInt32
  unexpectedIrqCount : UInt32
  spiDoneCount : UInt32
  staleSpiCompletionCount : UInt32
  timeoutCount : UInt32
  errorCount : UInt32
  resultCount : UInt32
  invalidResultCount : UInt32
  droppedResultCount : UInt32
  resultQueueOverflowCount : UInt32
  temperatureResultCount : UInt32
  invalidTemperatureResultCount : UInt32
  droppedTemperatureResultCount : UInt32
  temperatureQueueOverflowCount : UInt32
  busLockFailureCount : UInt32
  dmaStartCount : UInt32
  dmaCancelCount : UInt32
  dmaErrorCount : UInt32
  deriving DecidableEq, Repr

/-- What `MAX35103_Init` leaves of an object with a valid transport. -/
def Driver.init : Driver :=
  { state := .idle
    generation := 1
    attemptStartUs := 0
    deadlineUs := 0
    activeProfile := .zero
    profileSynchronized := false
    deviceReady := false
    configured := false
    eventTimingActive := false
    irqRecheckPending := false
    txBuf := List.replicate maxSpiFrameBytes 0
    rxBuf := List.replicate maxSpiFrameBytes 0
    spiLength := 0
    spiToken := 0
    nextSpiToken := 0
    spiPending := false
    spiAsyncActive := false
    spiBusLocked := false
    resultFrame := List.replicate tofResultBankDataBytes 0
    temperatureFrame := List.replicate tempResultFrameBytes 0
    resultWordIndex := 0
    temperatureCycleWord := 0
    latchedStatus := 0
    expectedEventFlags := 0
    seenEventFlags := 0
    interruptTimestampUs := 0
    pendingIrqTimestampUs := 0
    resultQueue := List.replicate resultQueueCapacity .zero
    temperatureQueue := List.replicate temperatureQueueCapacity .zero
    resultQueueHead := 0
    resultQueueCount := 0
    temperatureQueueHead := 0
    temperatureQueueCount := 0
    queueOverflowPolicy := .dropOldest
    nextSequenceNumber := 0
    activeEventSequenceNumber := 0
    activeEventSequenceValid := false
    irqCount := 0
    irqRecheckCount := 0
    unexpectedIrqCount := 0
    spiDoneCount := 0
    staleSpiCompletionCount := 0
    timeoutCount := 0
    errorCount := 0
    resultCount := 0
    invalidResultCount := 0
    droppedResultCount := 0
    resultQueueOverflowCount := 0
    temperatureResultCount := 0
    invalidTemperatureResultCount := 0
    droppedTemperatureResultCount := 0
    temperatureQueueOverflowCount := 0
    busLockFailureCount := 0
    dmaStartCount := 0
    dmaCancelCount := 0
    dmaErrorCount := 0 }

/-! ## Worlds -/

/-- What a trace records; no function reads it. -/
inductive Event where
  | locked
  | unlocked
  /-- A frame on the bus: the token of the request it was staged for, if any,
  and whether event timing was active. -/
  | frame (token : Option UInt32) (tx : List UInt8) (eventTimingActive : Bool)
  /-- A write to the frame buffers, and whether a transfer owned them. -/
  | wrote (spiAsyncActive : Bool)
  | staged (token : UInt32)
  | drain (token : UInt32)
  | completed (token : UInt32)
  /-- A status word of a drain, and whether event timing was active. -/
  | statusRead (status : UInt16) (eventTimingActive : Bool)
  | tofHanded (sequence : UInt32)
  | temperatureHanded (sequence : UInt32)
  | started (expected : UInt16)
  | eventComplete (expected : UInt16)
  | timedOut
  | cancelled
  deriving DecidableEq, Repr

/-- The driver, the state of its platform and what happened, newest first. -/
structure World (κ : Type*) where
  driver : Driver
  context : κ
  trace : List Event

namespace World

variable {κ : Type*} (world : World κ)

def init (context : κ) : World κ :=
  { driver := .init, context := context, trace := [] }

def set (driver : Driver) : World κ := { world with driver := driver }

def note (event : Event) : World κ :=
  { world with trace := event :: world.trace }

@[simp] theorem set_driver (driver : Driver) :
    (world.set driver).driver = driver := rfl

@[simp] theorem set_context (driver : Driver) :
    (world.set driver).context = world.context := rfl

@[simp] theorem set_trace (driver : Driver) :
    (world.set driver).trace = world.trace := rfl

@[simp] theorem note_driver (event : Event) :
    (world.note event).driver = world.driver := rfl

@[simp] theorem note_context (event : Event) :
    (world.note event).context = world.context := rfl

@[simp] theorem note_trace (event : Event) :
    (world.note event).trace = event :: world.trace := rfl

end World

end Swfpm.Max35103
