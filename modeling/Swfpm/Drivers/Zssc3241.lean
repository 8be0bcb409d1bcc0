import Swfpm.Domain.Measurement
import Swfpm.Queue.EventQueue

/-!
# The portable ZSSC3241 driver

Embedding of `drivers/zssc3241/zssc3241.{h,c}`.  The driver's queue is the
shared event queue, which every operation that posts takes and returns.  The
command and the response buffer are known to the bus by their addresses.
-/

namespace Swfpm

inductive ZsscDriverState where
  | idle
  | sleep
  | starting
  | waitingEoc
  | polling
  | reading
  | rawReady
  | timeout
  | recovery
  deriving DecidableEq, Repr

def zssc3241CmdFullMeasure : UInt8 := 0xAA

/-- `ZSSC3241_FULL_RESPONSE_SIZE`. -/
abbrev zssc3241FullResponseSize : ℕ := 7

/-- `ZSSC3241_PRESSURE_RESPONSE_SIZE`. -/
abbrev zssc3241PressureResponseSize : ℕ := 4

def zssc3241StatusPowered : UInt8 := (1 : UInt8) <<< 6
def zssc3241StatusBusy : UInt8 := (1 : UInt8) <<< 5
def zssc3241StatusModeMask : UInt8 := (3 : UInt8) <<< 3
def zssc3241StatusModeReserved : UInt8 := (3 : UInt8) <<< 3
def zssc3241StatusMemoryError : UInt8 := (1 : UInt8) <<< 2
def zssc3241StatusConnectionFault : UInt8 := (1 : UInt8) <<< 1
def zssc3241StatusMathSaturation : UInt8 := (1 : UInt8) <<< 0

structure ZsscRawPressureSample where
  rawU24 : UInt32
  status : UInt8
  metadata : ResultMetadata
  deriving DecidableEq, Repr

structure Zssc3241Driver where
  generation : UInt32
  sampleSequence : UInt64
  state : ZsscDriverState
  activeCorrelationId : UInt32
  activeTransactionId : UInt32
  sampleMonotonicUs : UInt64
  rawMailbox : ZsscRawPressureSample
  rawMailboxValid : Bool
  commandBuffer : UInt8
  responseBuffer : Vector UInt8 zssc3241FullResponseSize
  sampleDueCount : UInt32
  eocReceivedCount : UInt32
  rawReadyCount : UInt32
  timeoutCount : UInt32
  errorCount : UInt32
  deriving DecidableEq, Repr

def statusIsProductionUsable (status : UInt8) : Bool :=
  let faults :=
    zssc3241StatusBusy ||| zssc3241StatusMemoryError |||
      zssc3241StatusConnectionFault ||| zssc3241StatusMathSaturation
  status &&& 0x80 = 0 && status &&& zssc3241StatusPowered ≠ 0 &&
    status &&& faults = 0 &&
    status &&& zssc3241StatusModeMask ≠ zssc3241StatusModeReserved

namespace Zssc3241Driver

variable (self : Zssc3241Driver)

def init : Zssc3241Driver :=
  { generation := 1, sampleSequence := 0, state := .idle
    activeCorrelationId := 0, activeTransactionId := 0, sampleMonotonicUs := 0
    rawMailbox := ⟨0, 0, .cleared⟩, rawMailboxValid := false
    commandBuffer := 0, responseBuffer := .replicate 7 0, sampleDueCount := 0
    eocReceivedCount := 0, rawReadyCount := 0, timeoutCount := 0
    errorCount := 0 }

/-- A driver that is busy skips the sample. -/
def onSampleDue (nowUs : UInt64) : Zssc3241Driver :=
  if self.state ≠ .idle ∧ self.state ≠ .sleep then self
  else
    { self with
      sampleDueCount := self.sampleDueCount + 1
      state := .starting
      sampleMonotonicUs := nowUs
      rawMailboxValid := false }

def prepareStart (correlationId : UInt32) : Bool × Zssc3241Driver :=
  if self.state ≠ .starting ∨ correlationId = 0 then (false, self)
  else
    (true,
      { self with
        activeCorrelationId := correlationId
        activeTransactionId := 0
        sampleSequence := self.sampleSequence + 1
        commandBuffer := zssc3241CmdFullMeasure })

def onEocAsserted : Zssc3241Driver :=
  { self with
    eocReceivedCount := self.eocReceivedCount + 1
    state := .reading }

def prepareRead : Bool × Zssc3241Driver :=
  if self.state ≠ .reading ∧ self.state ≠ .polling then (false, self)
  else (true, { self with responseBuffer := .replicate 7 0 })

def onPollDue : Zssc3241Driver := { self with state := .polling }

/-- The sample that a response holds. -/
def decodeResponse (response : List UInt8) (nowUs : UInt64) :
    ZsscRawPressureSample :=
  let status := response.getD 0 0
  { status
    rawU24 :=
      ((response.getD 1 0).toUInt32 <<< 16) |||
        ((response.getD 2 0).toUInt32 <<< 8) ||| (response.getD 3 0).toUInt32
    metadata :=
      { ResultMetadata.cleared with
        sourceGeneration := self.generation
        sampleSequence := self.sampleSequence
        resultVersion := (self.rawReadyCount + 1).toUInt64
        sampleMonotonicUs := self.sampleMonotonicUs
        completionMonotonicUs := nowUs
        validity := if statusIsProductionUsable status then .valid else .invalid
        freshness := .fresh
        acceptance :=
          if statusIsProductionUsable status then .accepted else .rejected
        purpose := .production
        origin := .liveDevice
        provenance := .measured } }

def rawReadyEvent (nowUs : UInt64) : AppEvent :=
  { AppEvent.cleared with
    id := .pressureRawReady
    priority := .measurement
    delivery := .mailbox
    correlationId := self.activeCorrelationId
    sourceGeneration := self.generation
    monotonicTimestampUs := nowUs }

def fail : Zssc3241Driver :=
  { self with errorCount := self.errorCount + 1, state := .recovery }

/-- `none` is a null response. -/
def onI2cCompletion (correlationId : UInt32) (success : Bool)
    (response : Option (List UInt8)) (nowUs : UInt64) (queue : AppEventQueue) :
    Zssc3241Driver × AppEventQueue :=
  if correlationId ≠ self.activeCorrelationId then
    ({ self with errorCount := self.errorCount + 1 }, queue)
  else if !success then (self.fail, queue)
  else if self.state = .starting then
    ({ self with state := .waitingEoc }, queue)
  else if self.state ≠ .reading ∧ self.state ≠ .polling then (self.fail, queue)
  else
    match response with
    | none => (self.fail, queue)
    | some response =>
        if response.length < zssc3241PressureResponseSize then
          (self.fail, queue)
        else if response.getD 0 0 &&& zssc3241StatusBusy ≠ 0 then
          ({ self with state := .polling }, queue)
        else
          ({ self with
              rawMailbox := self.decodeResponse response nowUs
              rawMailboxValid := true
              rawReadyCount := self.rawReadyCount + 1
              state := .rawReady },
            (queue.post (self.rawReadyEvent nowUs)).2)

def onTimeout : Zssc3241Driver :=
  { self with
    timeoutCount := self.timeoutCount + 1
    rawMailboxValid := false
    state := .timeout }

def takeRawPressure : Option ZsscRawPressureSample × Zssc3241Driver :=
  if !self.rawMailboxValid then (none, self)
  else
    (some self.rawMailbox,
      { self with rawMailboxValid := false, state := .idle })

end Zssc3241Driver
end Swfpm
