import Swfpm.Storage.AbSlot

/-!
# The storage service

Embedding of `services/storage/storage_service.{h,c}`: one cooperative state
machine that commits a record to an A/B slot pair or restores the volume
record from it, at most one port operation at a time.

The port itself is outside the service.  A port function is called with an
operation and answers with a `PortReply`: the completions it delivers from
inside the call, in order, and then its return value.  Bytes that a read
brings in are stored by `fill`, which the surrounding system performs.
-/

namespace Swfpm

open ByteBuffers StorageRecord

/-! ## The port interface -/

structure StorageOperationToken where
  operationId : UInt32
  correlationId : UInt32
  ownerGeneration : UInt32
  deriving DecidableEq, Repr

inductive StorageIoSubmitResult where
  | accepted
  | busy
  | invalidParam
  | outOfRange
  | notReady
  | noCapacity
  deriving DecidableEq, Repr

inductive StorageIoResult where
  | ok
  | timeout
  | busError
  | cancelled
  | stale
  | shortTransfer
  | internalError
  deriving DecidableEq, Repr

structure StorageIoCompletion where
  token : StorageOperationToken
  result : StorageIoResult
  requestedLength : UInt16
  transferredLength : UInt16
  lastTransactionId : UInt32
  clientGeneration : UInt32
  busGeneration : UInt32
  deriving DecidableEq, Repr

/-- The operation did all that was asked of it. -/
def StorageIoCompletion.Success (completion : StorageIoCompletion) : Prop :=
  completion.result = .ok ∧
    completion.transferredLength = completion.requestedLength

instance (completion : StorageIoCompletion) : Decidable completion.Success :=
  inferInstanceAs (Decidable (_ ∧ _))

/-- The member of the context that a read fills. -/
inductive ReadBuffer where
  | scanA
  | scanB
  | readback (offset : ℕ)
  | ioByte
  deriving DecidableEq, Repr

inductive PortRequest where
  | read (offset : ℕ) (buffer : ReadBuffer) (size : ℕ)
  | write (offset : ℕ) (data : ByteBuffer) (size : ℕ)

structure PortCall where
  request : PortRequest
  token : StorageOperationToken
  deadlineUs : UInt64

structure PortReply where
  completions : List StorageIoCompletion
  result : StorageIoSubmitResult

/-! ## The state of the service -/

inductive StorageStatus where
  | ok
  | busy
  | rejected
  | encodeError
  | ioError
  | verifyError
  | sequenceConflict
  | cancelledGeneration
  | internalError
  deriving DecidableEq, Repr

inductive StorageRestoreStatus where
  | ok
  | empty
  | corrupt
  | unsupportedSchema
  | incompatible
  | sequenceConflict
  | ioError
  | internalError
  deriving DecidableEq, Repr

inductive StorageCommitStatus where
  | ok
  | rejected
  | encodeError
  | ioError
  | verifyError
  | sequenceConflict
  | cancelledGeneration
  | internalError
  deriving DecidableEq, Repr

structure StorageCompletionPayload where
  requestId : UInt64
  candidateVersion : UInt64
  recordType : UInt8
  selectedSlot : UInt8
  recordSequence : UInt32
  status : StorageCommitStatus
  deriving DecidableEq, Repr

def storageMaxSlotSize : ℕ := slotCalibrationSize
def storageBodyChunkBytes : ℕ := 32

inductive StorageServiceState where
  | idle
  | scanA
  | scanB
  | prepareTarget
  | invalidate
  | verifyInvalidate
  | checkInvalidate
  | writeBody
  | readbackBody
  | verifyBody
  | commit
  | verifyCommit
  | checkCommit
  | complete
  | failed
  | restoreScanA
  | restoreScanB
  | restoreDecode
  | restoreComplete
  | restoreFailed
  deriving DecidableEq, Repr

structure StorageServiceContext where
  state : StorageServiceState
  recordType : UInt8
  sequence : UInt32
  candidateVersion : UInt64
  requestId : UInt64
  encodedLength : ℕ
  slotBuffer : ByteBuffer
  readback : ByteBuffer
  scanA : ByteBuffer
  scanB : ByteBuffer
  targetSlot : UInt8
  targetAddress : ℕ
  slotSize : ℕ
  writeOffset : ℕ
  ioByte : UInt8
  ioPending : Bool
  ioCompleted : Bool
  ioToken : StorageOperationToken
  ioCompletion : StorageIoCompletion
  ioSuccessState : StorageServiceState
  ioAdvanceBytes : ℕ
  pending : Bool
  pendingBuffer : ByteBuffer
  pendingLength : ℕ
  pendingVersion : UInt64
  pendingSequence : UInt32
  pendingType : UInt8

structure StorageRestoredVolume where
  volume : VolumeRecord
  recordSequence : UInt32
  selectedSlot : UInt8
  slotAReason : SlotClassification
  slotBReason : SlotClassification
  deriving DecidableEq, Repr

structure StorageService where
  context : StorageServiceContext
  generation : UInt32
  nextOperationId : UInt32
  nextCorrelationId : UInt32
  ioTimeoutUs : UInt32
  requestCount : UInt64
  lastCompletion : StorageCompletionPayload
  completionReady : Bool
  restoreStatus : StorageRestoreStatus
  restoredVolume : StorageRestoredVolume
  restoreReady : Bool
  staleCompletionCount : UInt32

/-! ## Memory cleared by `memset` -/

def VolumeRecord.cleared : VolumeRecord := ⟨0, 0, 0, 0, 0, 0, 0⟩

/-- `SLOT_VALID_COMPATIBLE` is the zero of its enumeration. -/
def StorageRestoredVolume.cleared : StorageRestoredVolume :=
  ⟨.cleared, 0, 0, .validCompatible, .validCompatible⟩

def StorageOperationToken.cleared : StorageOperationToken := ⟨0, 0, 0⟩

def StorageIoCompletion.cleared : StorageIoCompletion :=
  ⟨.cleared, .ok, 0, 0, 0, 0, 0⟩

def StorageCompletionPayload.cleared : StorageCompletionPayload :=
  ⟨0, 0, 0, 0, 0, .ok⟩

def StorageServiceContext.cleared : StorageServiceContext :=
  { state := .idle, recordType := 0, sequence := 0, candidateVersion := 0
    requestId := 0, encodedLength := 0, slotBuffer := zeros
    readback := zeros, scanA := zeros, scanB := zeros, targetSlot := 0
    targetAddress := 0, slotSize := 0, writeOffset := 0, ioByte := 0
    ioPending := false, ioCompleted := false, ioToken := .cleared
    ioCompletion := .cleared, ioSuccessState := .idle, ioAdvanceBytes := 0
    pending := false, pendingBuffer := zeros, pendingLength := 0
    pendingVersion := 0, pendingSequence := 0, pendingType := 0 }

/-! ## Slot geometry and classes of states -/

def slotAddrFor (slot type : UInt8) : ℕ :=
  if type = persistRecordVolume then
    if slot ≠ 0 then slotVolumeBAddr else slotVolumeAAddr
  else if type = persistRecordConfig then
    if slot ≠ 0 then slotConfigBAddr else slotConfigAAddr
  else if type = persistRecordCalibration then
    if slot ≠ 0 then slotCalibrationBAddr else slotCalibrationAAddr
  else 0

def slotSizeFor (type : UInt8) : ℕ :=
  if type = persistRecordVolume then slotVolumeSize
  else if type = persistRecordConfig then slotConfigSize
  else if type = persistRecordCalibration then slotCalibrationSize
  else 0

def isTerminal : StorageServiceState → Bool
  | .idle | .complete | .failed => true
  | _ => false

def isRestoreState : StorageServiceState → Bool
  | .restoreScanA | .restoreScanB | .restoreDecode | .restoreComplete
  | .restoreFailed => true
  | _ => false

namespace StorageService

/-! ## Tokens and port calls -/

/-- A counter hands out its value and skips zero. -/
def nextId (counter : UInt32) : UInt32 × UInt32 :=
  if counter = 0 then (counter + 1, counter + 2) else (counter, counter + 1)

def nextToken (self : StorageService) :
    StorageService × StorageOperationToken :=
  let (operationId, nextOperationId) := nextId self.nextOperationId
  let (correlationId, nextCorrelationId) := nextId self.nextCorrelationId
  ({ self with nextOperationId, nextCorrelationId },
    { operationId, correlationId, ownerGeneration := self.generation })

def onIoCompletion (self : StorageService)
    (completion : StorageIoCompletion) : StorageService :=
  let context := self.context
  if !context.ioPending || context.ioCompleted ||
      completion.token.operationId ≠ context.ioToken.operationId ||
      completion.token.correlationId ≠ context.ioToken.correlationId ||
      completion.token.ownerGeneration ≠ self.generation then
    { self with staleCompletionCount := self.staleCompletionCount + 1 }
  else
    { self with
      context :=
        { context with ioCompletion := completion, ioCompleted := true } }

/-- The service as it stands when the port function is entered. -/
def armIo (self : StorageService) (successState : StorageServiceState)
    (advanceBytes : ℕ) : StorageService :=
  let (self, token) := self.nextToken
  { self with
    context :=
      { self.context with
        ioToken := token, ioPending := true, ioCompleted := false
        ioSuccessState := successState, ioAdvanceBytes := advanceBytes } }

/-- The common text of `submit_read` and `submit_write`.  Besides the new
state it gives the port call that was made, if the deadline allowed one, and
whether the operation was accepted. -/
def submitIo (self : StorageService) (request : PortRequest)
    (successState : StorageServiceState) (advanceBytes : ℕ) (nowUs : UInt64)
    (reply : PortReply) : StorageService × Option PortCall × Bool :=
  if 0xFFFFFFFFFFFFFFFF - nowUs < self.ioTimeoutUs.toUInt64 then
    (self, none, false)
  else
    let self := self.armIo successState advanceBytes
    let call : PortCall :=
      { request, token := self.context.ioToken
        deadlineUs := nowUs + self.ioTimeoutUs.toUInt64 }
    let self := reply.completions.foldl onIoCompletion self
    if reply.result ≠ .accepted then
      ({ self with
          context :=
            { self.context with ioPending := false, ioCompleted := false } },
        some call, false)
    else (self, some call, true)

def submitRead (self : StorageService) (offset : ℕ) (buffer : ReadBuffer)
    (size : ℕ) (successState : StorageServiceState) (advanceBytes : ℕ)
    (nowUs : UInt64) (reply : PortReply) :
    StorageService × Option PortCall × Bool :=
  self.submitIo (.read offset buffer size) successState advanceBytes nowUs reply

def submitWrite (self : StorageService) (offset : ℕ) (data : ByteBuffer)
    (size : ℕ) (successState : StorageServiceState) (advanceBytes : ℕ)
    (nowUs : UInt64) (reply : PortReply) :
    StorageService × Option PortCall × Bool :=
  self.submitIo (.write offset data size) successState advanceBytes nowUs reply

/-! ## Ends of an operation -/

def finishCommit (self : StorageService) (status : StorageCommitStatus) :
    StorageService :=
  let context := self.context
  { self with
    lastCompletion :=
      { requestId := context.requestId
        candidateVersion := context.candidateVersion
        recordType := context.recordType
        selectedSlot := context.targetSlot
        recordSequence := context.sequence
        status := status }
    completionReady := true
    context :=
      { context with state := if status = .ok then .complete else .failed } }

def failIo (self : StorageService) (result : StorageIoResult) :
    StorageService :=
  if isRestoreState self.context.state then
    { self with
      restoredVolume :=
        { StorageRestoredVolume.cleared with
          selectedSlot := slotIndexNone
          slotAReason := .ioError
          slotBReason := .ioError }
      restoreStatus := .ioError
      restoreReady := true
      context := { self.context with state := .restoreFailed } }
  else
    self.finishCommit
      (if result = .cancelled then .cancelledGeneration else .ioError)

def consumeIoCompletion (self : StorageService) : StorageService :=
  if !self.context.ioPending || !self.context.ioCompleted then self
  else
    let completion := self.context.ioCompletion
    let self :=
      { self with
        context :=
          { self.context with ioPending := false, ioCompleted := false } }
    if completion.result ≠ .ok ||
        completion.transferredLength ≠ completion.requestedLength then
      self.failIo
        (if completion.result = .ok then .shortTransfer
          else completion.result)
    else
      { self with
        context :=
          { self.context with
            writeOffset :=
              self.context.writeOffset + self.context.ioAdvanceBytes
            state := self.context.ioSuccessState } }

/-! ## Candidates -/

def prepareActiveCandidate (self : StorageService) (recordType : UInt8)
    (sequence : UInt32) (encodedBuffer : ByteBuffer) (encodedLength : ℕ)
    (candidateVersion : UInt64) : Option StorageService :=
  let slotSize := slotSizeFor recordType
  if slotSize = 0 ∨ slotSize > storageMaxSlotSize ∨
      encodedLength < persistCommonHeaderSize ∨ encodedLength > slotSize then
    none
  else
    some
      { self with
        requestCount := self.requestCount + 1
        context :=
          { self.context with
            recordType, sequence, candidateVersion
            requestId := self.requestCount + 1
            encodedLength, slotSize
            writeOffset := 0
            pending := false
            slotBuffer := blit zeros 0 encodedBuffer encodedLength
            readback := zeros
            scanA := zeros
            scanB := zeros
            state := .scanA } }

def promotePending (self : StorageService) : StorageService :=
  let context := self.context
  let self := { self with context := { context with pending := false } }
  match self.prepareActiveCandidate context.pendingType
      context.pendingSequence context.pendingBuffer context.pendingLength
      context.pendingVersion with
  | some self => self
  | none => self.finishCommit .rejected

/-- `StorageService_Init`; `bound` is the answer of `bind_completion`, and
`none` is a rejected initialisation. -/
def init (ioTimeoutUs : UInt32) (bound : Bool) : Option StorageService :=
  if ioTimeoutUs = 0 ∨ bound = false then none
  else
    some
      { context := .cleared
        generation := 1
        nextOperationId := 1
        nextCorrelationId := 1
        ioTimeoutUs
        requestCount := 0
        lastCompletion := .cleared
        completionReady := false
        restoreStatus := .ok
        restoredVolume := .cleared
        restoreReady := false
        staleCompletionCount := 0 }

def submitCheckpoint (self : StorageService) (recordType : UInt8)
    (sequence : UInt32) (encodedBuffer : ByteBuffer) (encodedLength : ℕ)
    (candidateVersion : UInt64) : StorageStatus × StorageService :=
  if encodedLength = 0 || isRestoreState self.context.state then
    (.rejected, self)
  else if isTerminal self.context.state then
    if self.completionReady then (.busy, self)
    else
      match self.prepareActiveCandidate recordType sequence encodedBuffer
          encodedLength candidateVersion with
      | none => (.rejected, self)
      | some self => (.ok, self)
  else
    let slotSize := slotSizeFor recordType
    if slotSize = 0 ∨ encodedLength < persistCommonHeaderSize ∨
        encodedLength > slotSize then (.rejected, self)
    else
      (.busy,
        { self with
          context :=
            { self.context with
              pending := true
              pendingType := recordType
              pendingSequence := sequence
              pendingVersion := candidateVersion
              pendingLength := encodedLength
              pendingBuffer := blit zeros 0 encodedBuffer encodedLength } })

/-! ## Selection of the target and decoding -/

def chooseTarget (self : StorageService) : StorageService :=
  let context := self.context
  let expectedSchema := context.slotBuffer 5
  let expectedPayloadSize := leRead16 context.slotBuffer 6
  let selected :=
    abSlotSelect context.scanA context.slotSize context.scanB context.slotSize
      context.recordType expectedSchema expectedPayloadSize
  let targetSlot := abSlotChooseTarget selected
  let self := { self with context := { context with targetSlot } }
  if targetSlot = slotIndexNone then
    self.finishCommit
      (if selected.status = .sequenceConflict then .sequenceConflict
        else .rejected)
  else
    { self with
      context :=
        { self.context with
          targetAddress := slotAddrFor targetSlot context.recordType
          writeOffset := 0
          state := .invalidate } }

def classifyRestoreFailure (selected : SlotSelectionResult) :
    StorageRestoreStatus :=
  if selected.status = .sequenceConflict then .sequenceConflict
  else if selected.reasonA = .emptyUninitialized ∧
      selected.reasonB = .emptyUninitialized then .empty
  else if selected.reasonA = .ioError ∨ selected.reasonB = .ioError then
    .ioError
  else if selected.reasonA = .validUnsupportedSchema ∨
      selected.reasonB = .validUnsupportedSchema then .unsupportedSchema
  else if selected.reasonA = .validIncompatible ∨
      selected.reasonB = .validIncompatible then .incompatible
  else .corrupt

/-- The status and the restored volume that two scanned volume slots give. -/
def decodedRestore (scanA scanB : ByteBuffer) :
    StorageRestoreStatus × StorageRestoredVolume :=
  let selected :=
    abSlotSelect scanA slotVolumeSize scanB slotVolumeSize persistRecordVolume
      volumePayloadV1Schema volumePayloadV1Size
  let restored : StorageRestoredVolume :=
    { StorageRestoredVolume.cleared with
      selectedSlot := selected.selectedSlot
      slotAReason := selected.reasonA
      slotBReason := selected.reasonB }
  if selected.status ≠ .selected then
    (classifyRestoreFailure selected, restored)
  else
    let slot := if selected.selectedSlot ≠ 0 then scanB else scanA
    match decodeVolume slot with
    | some volume =>
        (.ok, { restored with volume, recordSequence := leRead32 slot 8 })
    | none => (.corrupt, { restored with recordSequence := leRead32 slot 8 })

def decodeRestore (self : StorageService) : StorageService :=
  let (restoreStatus, restoredVolume) :=
    decodedRestore self.context.scanA self.context.scanB
  { self with
    restoreStatus, restoredVolume
    restoreReady := true
    context := { self.context with state := .restoreComplete } }

/-! ## One turn of the state machine -/

/-- The caller of a submit function fails the operation when it was not
accepted. -/
def orFailIo (submitted : StorageService × Option PortCall × Bool) :
    StorageService × Option PortCall :=
  if submitted.2.2 then (submitted.1, submitted.2.1)
  else (submitted.1.failIo .busError, submitted.2.1)

def setState (self : StorageService) (state : StorageServiceState) :
    StorageService :=
  { self with context := { self.context with state } }

def setIoByte (self : StorageService) (ioByte : UInt8) : StorageService :=
  { self with context := { self.context with ioByte } }

def setWriteOffset (self : StorageService) (writeOffset : ℕ) :
    StorageService :=
  { self with context := { self.context with writeOffset } }

/-- The chunk of the body that starts at the current write offset. -/
def bodyChunk (context : StorageServiceContext) : ℕ :=
  if context.writeOffset + storageBodyChunkBytes > context.slotSize - 1 then
    context.slotSize - 1 - context.writeOffset
  else storageBodyChunkBytes

def commitByteAddress (context : StorageServiceContext) : ℕ :=
  context.targetAddress + context.slotSize - 1

/-- `StorageService_Tick`, together with the port call it made. -/
def tick (self : StorageService) (nowUs : UInt64) (reply : PortReply) :
    StorageService × Option PortCall :=
  let context := self.context
  -- consuming a completion is the bounded work for this turn
  if context.ioPending then (self.consumeIoCompletion, none)
  else if (context.state = .complete || context.state = .failed) &&
      context.pending && !self.completionReady then
    (self.promotePending, none)
  else
    match context.state with
    | .idle | .complete | .failed | .restoreComplete | .restoreFailed =>
        (self, none)
    | .scanA =>
        orFailIo <| self.submitRead (slotAddrFor 0 context.recordType) .scanA
          context.slotSize .scanB 0 nowUs reply
    | .scanB =>
        orFailIo <| self.submitRead (slotAddrFor 1 context.recordType) .scanB
          context.slotSize .prepareTarget 0 nowUs reply
    | .prepareTarget => (self.chooseTarget, none)
    | .invalidate =>
        orFailIo <| (self.setIoByte persistCommitInvalid).submitWrite
          (commitByteAddress context) (fun _ => persistCommitInvalid) 1
          .verifyInvalidate 0 nowUs reply
    | .verifyInvalidate =>
        orFailIo <| self.submitRead (commitByteAddress context) .ioByte 1
          .checkInvalidate 0 nowUs reply
    | .checkInvalidate =>
        if context.ioByte = persistCommitValid then
          (self.finishCommit .verifyError, none)
        else ((self.setWriteOffset 0).setState .writeBody, none)
    | .writeBody =>
        if context.writeOffset ≥ context.slotSize - 1 then
          ((self.setWriteOffset 0).setState .readbackBody, none)
        else
          orFailIo <| self.submitWrite
            (context.targetAddress + context.writeOffset)
            (window context.slotBuffer context.writeOffset)
            (bodyChunk context) .writeBody (bodyChunk context) nowUs reply
    | .readbackBody =>
        if context.writeOffset ≥ context.slotSize - 1 then
          (self.setState .verifyBody, none)
        else
          orFailIo <| self.submitRead
            (context.targetAddress + context.writeOffset)
            (.readback context.writeOffset) (bodyChunk context)
            .readbackBody (bodyChunk context) nowUs reply
    | .verifyBody =>
        if !sameBytes context.slotBuffer context.readback
            (context.slotSize - 1) then
          (self.finishCommit .verifyError, none)
        else (self.setState .commit, none)
    | .commit =>
        orFailIo <| (self.setIoByte persistCommitValid).submitWrite
          (commitByteAddress context) (fun _ => persistCommitValid) 1
          .verifyCommit 0 nowUs reply
    | .verifyCommit =>
        orFailIo <| self.submitRead (commitByteAddress context) .ioByte 1
          .checkCommit 0 nowUs reply
    | .checkCommit =>
        if context.ioByte ≠ persistCommitValid then
          (self.finishCommit .verifyError, none)
        else (self.finishCommit .ok, none)
    | .restoreScanA =>
        orFailIo <| self.submitRead slotVolumeAAddr .scanA slotVolumeSize
          .restoreScanB 0 nowUs reply
    | .restoreScanB =>
        orFailIo <| self.submitRead slotVolumeBAddr .scanB slotVolumeSize
          .restoreDecode 0 nowUs reply
    | .restoreDecode => (self.decodeRestore, none)

/-! ## Mailboxes -/

def takeCompletion (self : StorageService) :
    Option StorageCompletionPayload × StorageService :=
  if self.completionReady then
    (some self.lastCompletion, { self with completionReady := false })
  else (none, self)

def startRestoreVolume (self : StorageService) :
    StorageStatus × StorageService :=
  if !isTerminal self.context.state || self.context.pending ||
      self.completionReady then (.busy, self)
  else
    (.ok,
      { self with
        restoredVolume :=
          { StorageRestoredVolume.cleared with selectedSlot := slotIndexNone }
        restoreReady := false
        context :=
          { self.context with
            scanA := zeros, scanB := zeros, writeOffset := 0
            state := .restoreScanA } })

def takeRestoredVolume (self : StorageService) :
    Option (StorageRestoreStatus × StorageRestoredVolume) × StorageService :=
  if self.restoreReady then
    (some (self.restoreStatus, self.restoredVolume),
      ({ self with restoreReady := false }).setState .idle)
  else (none, self)

/-- The port stores `size` bytes of `data` where a read asked for them. -/
def fill (self : StorageService) (buffer : ReadBuffer) (data : ByteBuffer)
    (size : ℕ) : StorageService :=
  let context := self.context
  { self with
    context :=
      match buffer with
      | .scanA => { context with scanA := blit context.scanA 0 data size }
      | .scanB => { context with scanB := blit context.scanB 0 data size }
      | .readback offset =>
          { context with readback := blit context.readback offset data size }
      | .ioByte =>
          { context with
            ioByte := blit (fun _ => context.ioByte) 0 data size 0 } }

end StorageService
end Swfpm
