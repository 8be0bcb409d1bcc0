import Swfpm.Domain.Measurement
import Swfpm.Queue.EventQueue

/-!
# The portable MAX35103 driver

Embedding of `drivers/max35103/max35103.{h,c}`.  The driver's queue is the
shared event queue, which every operation that posts takes and returns.  The
chip-select number is left out, since no function reads it.
-/

namespace Swfpm

inductive MaxDriverState where
  | idle
  | irqReceived
  | spiReadStatus
  | spiReadResult
  | validating
  | rawReady
  | timeout
  | recovery
  deriving DecidableEq, Repr

/-- `MAX35103_FLOW_FRAME_SIZE`. -/
abbrev max35103FlowFrameSize : ℕ := 14

structure Max35103RawFlowSample where
  tofUpPs : Int64
  tofDownPs : Int64
  tofDiffPs : Int64
  validCycleCount : UInt8
  tofRange : UInt8
  metadata : ResultMetadata
  deriving DecidableEq, Repr

structure Max35103Driver where
  generation : UInt32
  sampleSequence : UInt64
  state : MaxDriverState
  activeCorrelationId : UInt32
  sampleMonotonicUs : UInt64
  rawFlowMailbox : Max35103RawFlowSample
  rawFlowMailboxValid : Bool
  supervisionTimeoutUs : UInt32
  irqReceivedCount : UInt32
  spiCompletionCount : UInt32
  rawReadyCount : UInt32
  timeoutCount : UInt32
  errorCount : UInt32
  deriving DecidableEq, Repr

/-! ## Decoding a frame -/

/-- The big-endian word at an offset. -/
def be16 (frame : List UInt8) (offset : ℕ) : UInt16 :=
  ((frame.getD offset 0).toUInt16 <<< 8) ||| (frame.getD (offset + 1) 0).toUInt16

def absoluteQ16ToPs (integer fraction : UInt16) : Option Int64 :=
  if integer > 0x7FFF then none
  else
    let q16 : UInt64 := (integer.toUInt64 <<< 16) ||| fraction.toUInt64
    some ((q16 * 250000 + 32768) / 65536).toInt64

def signedQ16ToPs (integer fraction : UInt16) : Int64 :=
  let joined : UInt32 := (integer.toUInt32 <<< 16) ||| fraction.toUInt32
  let signedQ16 : Int64 :=
    if joined &&& 0x80000000 ≠ 0 then
      joined.toUInt64.toInt64 - 0x100000000
    else joined.toUInt64.toInt64
  signedQ16 * 250000 / 65536

/-- The sample that a coherent frame holds, its metadata cleared. -/
def decodeFlowFrame (frame : List UInt8) : Option Max35103RawFlowSample :=
  if frame.length < max35103FlowFrameSize then none
  else
    let upInteger := be16 frame 0
    let upFraction := be16 frame 2
    let downInteger := be16 frame 4
    let downFraction := be16 frame 6
    let diffInteger := be16 frame 8
    let diffFraction := be16 frame 10
    let cycle := be16 frame 12
    match absoluteQ16ToPs upInteger upFraction,
      absoluteQ16ToPs downInteger downFraction with
    | some tofUpPs, some tofDownPs =>
        let tofDiffPs := signedQ16ToPs diffInteger diffFraction
        let expectedDiff := tofUpPs - tofDownPs
        let coherenceError := tofDiffPs - expectedDiff
        let coherenceError :=
          if coherenceError < 0 then -coherenceError else coherenceError
        if coherenceError > 4 then none
        else if cycle.toUInt8 > 0 then
          some
            { tofUpPs
              tofDownPs
              tofDiffPs
              validCycleCount := cycle.toUInt8
              tofRange := (cycle >>> 8).toUInt8
              metadata := .cleared }
        else none
    | _, _ => none

namespace Max35103Driver

variable (self : Max35103Driver)

def init : Max35103Driver :=
  { generation := 1, sampleSequence := 0, state := .idle
    activeCorrelationId := 0, sampleMonotonicUs := 0
    rawFlowMailbox := ⟨0, 0, 0, 0, 0, .cleared⟩, rawFlowMailboxValid := false
    supervisionTimeoutUs := 50000, irqReceivedCount := 0
    spiCompletionCount := 0, rawReadyCount := 0, timeoutCount := 0
    errorCount := 0 }

def onIrq (nowUs : UInt64) : Max35103Driver :=
  { self with
    irqReceivedCount := self.irqReceivedCount + 1
    state := .irqReceived
    sampleMonotonicUs := nowUs
    sampleSequence := self.sampleSequence + 1
    rawFlowMailboxValid := false }

/-- The identity that a decoded sample gets. -/
def identify (sample : Max35103RawFlowSample) (nowUs : UInt64) :
    Max35103RawFlowSample :=
  { sample with
    metadata :=
      { sample.metadata with
        sourceGeneration := self.generation
        sampleSequence := self.sampleSequence
        resultVersion := (self.rawReadyCount + 1).toUInt64
        sampleMonotonicUs := self.sampleMonotonicUs
        completionMonotonicUs := nowUs
        validity := .valid
        freshness := .fresh
        acceptance := .accepted
        purpose := .production
        origin := .liveDevice
        provenance := .measured } }

def rawReadyEvent (correlationId : UInt32) (nowUs : UInt64) : AppEvent :=
  { AppEvent.cleared with
    id := .maxRawReady
    priority := .measurement
    delivery := .mailbox
    correlationId
    sourceGeneration := self.generation
    monotonicTimestampUs := nowUs }

/-- The received bytes are only looked at after a successful transfer. -/
def onSpiCompletion (correlationId : UInt32) (success : Bool)
    (received : List UInt8) (nowUs : UInt64) (queue : AppEventQueue) :
    Max35103Driver × AppEventQueue :=
  if !success then
    ({ self with errorCount := self.errorCount + 1, state := .recovery }, queue)
  else
    let self :=
      { self with
        spiCompletionCount := self.spiCompletionCount + 1
        state := .validating }
    match decodeFlowFrame received with
    | none =>
        ({ self with errorCount := self.errorCount + 1, state := .recovery },
          queue)
    | some decoded =>
        ({ self with
            activeCorrelationId := correlationId
            rawFlowMailbox := self.identify decoded nowUs
            rawFlowMailboxValid := true
            rawReadyCount := self.rawReadyCount + 1
            state := .rawReady },
          (queue.post (self.rawReadyEvent correlationId nowUs)).2)

def onTimeout : Max35103Driver :=
  { self with
    timeoutCount := self.timeoutCount + 1
    rawFlowMailboxValid := false
    state := .timeout }

def takeRawFlow : Option Max35103RawFlowSample × Max35103Driver :=
  if !self.rawFlowMailboxValid then (none, self)
  else
    (some self.rawFlowMailbox,
      { self with rawFlowMailboxValid := false, state := .idle })

end Max35103Driver
end Swfpm
