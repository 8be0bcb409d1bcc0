import Swfpm.Storage.Service
import Swfpm.Bus.I2cBusManager

/-!
# The F-RAM driver

Embedding of `drivers/storage/fram_driver.{h,c}`: one read, write or probe at a
time, cut into I²C transactions that the completions of the bus drive on.

The bus is outside the driver.  A submission is answered with a `BusReply`; a
transaction carries the bytes that its `tx` buffer holds when it is submitted,
and read buffers are addresses.  The owner has bound its completion function,
so that every completion the driver emits is delivered.  What that function
does, it does before the driver call that led to it returns; only
`fram_cancel_generation` has anything left to do then, and is split there.
Null drivers, configurations and completions are not modelled.
-/

namespace Swfpm

open ByteBuffers

def fm24cl04bSizeBytes : UInt16 := 512
def fm24cl04bPageBytes : UInt16 := 256
def fm24cl04bMaxChunkBytes : UInt16 := 32

structure FramConfig where
  clientId : UInt32
  slaveAddressBase7bit : UInt8
  capacityBytes : UInt16
  maxChunkBytes : UInt16
  busPriority : UInt8
  deriving DecidableEq, Repr

inductive FramState where
  | uninitialized
  | idle
  | waitingI2c
  | fault
  deriving DecidableEq, Repr

inductive FramOperation where
  | none
  | probe
  | read
  | write
  deriving DecidableEq, Repr

structure FramDriver where
  config : FramConfig
  state : FramState
  operation : FramOperation
  clientGeneration : UInt32
  token : StorageOperationToken
  startAddress : UInt16
  currentAddress : UInt16
  requestedLength : UInt16
  transferredLength : UInt16
  activeChunkLength : UInt16
  deadlineUs : UInt64
  activeTransactionId : UInt32
  lastBusGeneration : UInt32
  readBuffer : Option ℕ
  writeBuffer : Option ByteBuffer
  probePage : UInt8
  submittedCount : UInt32
  completedCount : UInt32
  timeoutCount : UInt32
  busErrorCount : UInt32
  staleCount : UInt32
  cancelledCount : UInt32
  rangeErrorCount : UInt32

/-! ## What the bus sees -/

/-- Where the bytes of a transaction are received. -/
inductive RxBuffer where
  | none
  | probeByte
  | caller (address : Option ℕ)
  deriving DecidableEq, Repr

/-- An `I2cBusRequest` with the bytes of its `tx` buffer. -/
structure FramRequest where
  clientId : UInt32
  correlationId : UInt32
  clientGeneration : UInt32
  slaveAddress : UInt8
  tx : List UInt8
  rx : RxBuffer
  rxLength : UInt16
  deadlineUs : UInt64
  priority : UInt8
  deriving DecidableEq, Repr

/-- The answer of `i2c_bus_submit`, and the bus generation that is read back
after it. -/
structure BusReply where
  result : I2cSubmitResult
  transactionId : UInt32
  busGeneration : UInt32
  deriving DecidableEq, Repr

/-- What the driver does to the world around it, in order. -/
inductive FramAction where
  | submit (request : FramRequest) (reply : BusReply)
  | complete (completion : StorageIoCompletion)
  deriving DecidableEq, Repr

/-! ## Checks -/

def tokenIsValid (token : StorageOperationToken) : Bool :=
  token.operationId ≠ 0 && token.correlationId ≠ 0 && token.ownerGeneration ≠ 0

/-- A2 and A1 may select 0x50, 0x52, 0x54 or 0x56; bit zero selects the page
and is clear in the base. -/
def FramConfig.isValid (config : FramConfig) : Bool :=
  if config.clientId = 0 || config.capacityBytes ≠ fm24cl04bSizeBytes ||
      config.maxChunkBytes = 0 ||
      config.maxChunkBytes > fm24cl04bMaxChunkBytes then false
  else
    config.slaveAddressBase7bit &&& 0x78 = 0x50 &&
      config.slaveAddressBase7bit &&& 0x01 = 0

def rangeIsValid (address length : UInt16) : Bool :=
  if length = 0 then address ≤ fm24cl04bSizeBytes
  else address < fm24cl04bSizeBytes && length ≤ fm24cl04bSizeBytes - address

def mapResult : I2cTransactionResult → StorageIoResult
  | .ok => .ok
  | .timeout => .timeout
  | .cancelled => .cancelled
  | .stale => .stale
  | _ => .busError

def mapSubmitResult : I2cSubmitResult → StorageIoSubmitResult
  | .accepted => .accepted
  | .noCapacity => .noCapacity
  | .invalidParam | .addressRejected => .invalidParam
  | .notReady | .unknownClient => .notReady
  | _ => .busy

namespace FramDriver

def slaveAddress (self : FramDriver) (logicalAddress : UInt16) : UInt8 :=
  self.config.slaveAddressBase7bit ||| ((logicalAddress >>> 8) &&& 1).toUInt8

def chunkLength (self : FramDriver) : UInt16 :=
  let remaining := self.requestedLength - self.transferredLength
  let pageRemaining :=
    fm24cl04bPageBytes - (self.currentAddress &&& (fm24cl04bPageBytes - 1))
  let chunk :=
    if remaining > self.config.maxChunkBytes then self.config.maxChunkBytes
    else remaining
  if chunk > pageRemaining then pageRemaining else chunk

def isBusy (self : FramDriver) : Bool :=
  self.state = .waitingI2c

/-! ## Ends of an operation -/

def resetOperation (self : FramDriver) : FramDriver :=
  { self with
    state := .idle
    operation := .none
    token := .cleared
    startAddress := 0
    currentAddress := 0
    requestedLength := 0
    transferredLength := 0
    activeChunkLength := 0
    deadlineUs := 0
    activeTransactionId := 0
    readBuffer := none
    writeBuffer := none
    probePage := 0 }

def countResult (self : FramDriver) : StorageIoResult → FramDriver
  | .ok => { self with completedCount := self.completedCount + 1 }
  | .timeout => { self with timeoutCount := self.timeoutCount + 1 }
  | .cancelled => { self with cancelledCount := self.cancelledCount + 1 }
  | .stale => { self with staleCount := self.staleCount + 1 }
  | _ => { self with busErrorCount := self.busErrorCount + 1 }

def completionOf (self : FramDriver) (result : StorageIoResult) :
    StorageIoCompletion :=
  { token := self.token
    result := result
    requestedLength := self.requestedLength
    transferredLength := self.transferredLength
    lastTransactionId := self.activeTransactionId
    clientGeneration := self.clientGeneration
    busGeneration := self.lastBusGeneration }

def emitCompletion (self : FramDriver) (result : StorageIoResult) :
    FramDriver × List FramAction :=
  ((self.countResult result).resetOperation,
    [.complete (self.completionOf result)])

/-! ## One chunk -/

/-- `submit_current_chunk` up to the call of `i2c_bus_submit`. -/
def currentChunk (self : FramDriver) : FramDriver × FramRequest :=
  let probing := self.operation = .probe
  let address :=
    if probing then if self.probePage = 0 then 0 else fm24cl04bPageBytes
    else self.currentAddress
  let self :=
    { self with
      activeChunkLength := if probing then 1 else self.chunkLength }
  let payload : List UInt8 :=
    if self.operation = .write then
      (List.range self.activeChunkLength.toNat).map fun i =>
        (self.writeBuffer.getD zeros) (self.transferredLength.toNat + i)
    else []
  let rx : RxBuffer :=
    if probing then .probeByte
    else if self.operation = .read then
      .caller (self.readBuffer.map (· + self.transferredLength.toNat))
    else .none
  (self,
    { clientId := self.config.clientId
      correlationId := self.token.correlationId
      clientGeneration := self.clientGeneration
      slaveAddress := self.slaveAddress address
      tx := (address &&& 0xFF).toUInt8 :: payload
      rx
      rxLength :=
        if probing ∨ self.operation = .read then self.activeChunkLength else 0
      deadlineUs := self.deadlineUs
      priority := self.config.busPriority })

def submitCurrentChunk (self : FramDriver) (reply : BusReply) :
    StorageIoSubmitResult × FramDriver × FramAction :=
  let (self, request) := self.currentChunk
  if reply.result ≠ .accepted then
    (mapSubmitResult reply.result, self, .submit request reply)
  else
    (.accepted,
      { self with
        activeTransactionId := reply.transactionId
        lastBusGeneration := reply.busGeneration
        state := .waitingI2c },
      .submit request reply)

/-! ## Beginning an operation -/

def beginOperation (self : FramDriver) (operation : FramOperation)
    (address : UInt16) (readBuffer : Option ℕ)
    (writeBuffer : Option ByteBuffer) (length : UInt16)
    (token : StorageOperationToken) (deadlineUs : UInt64) (reply : BusReply) :
    StorageIoSubmitResult × FramDriver × List FramAction :=
  if self.state = .uninitialized ∨ self.state = .fault then
    (.notReady, self, [])
  else if self.state ≠ .idle then (.busy, self, [])
  else if !tokenIsValid token ∨ deadlineUs = 0 ∨
      (length > 0 ∧ operation = .read ∧ readBuffer.isNone) ∨
      (length > 0 ∧ operation = .write ∧ writeBuffer.isNone) then
    (.invalidParam, self, [])
  else if !rangeIsValid address length then
    (.outOfRange, { self with rangeErrorCount := self.rangeErrorCount + 1 }, [])
  else
    let self :=
      { self with
        operation, token
        startAddress := address
        currentAddress := address
        requestedLength := length
        transferredLength := 0
        deadlineUs, readBuffer, writeBuffer
        submittedCount := self.submittedCount + 1 }
    if length = 0 then
      let (self, actions) := self.emitCompletion .ok
      (.accepted, self, actions)
    else
      let (result, self, action) := self.submitCurrentChunk reply
      if result ≠ .accepted then (result, self.resetOperation, [action])
      else (result, self, [action])

def probeAsync (self : FramDriver) (token : StorageOperationToken)
    (deadlineUs : UInt64) (reply : BusReply) :
    StorageIoSubmitResult × FramDriver × List FramAction :=
  let (result, self, actions) :=
    self.beginOperation .probe 0 none none 2 token deadlineUs reply
  if result = .accepted then (result, { self with probePage := 0 }, actions)
  else (result, self, actions)

def readAsync (self : FramDriver) (address : UInt16) (buffer : Option ℕ)
    (length : UInt16) (token : StorageOperationToken) (deadlineUs : UInt64)
    (reply : BusReply) : StorageIoSubmitResult × FramDriver × List FramAction :=
  self.beginOperation .read address buffer none length token deadlineUs reply

def writeAsync (self : FramDriver) (address : UInt16)
    (buffer : Option ByteBuffer) (length : UInt16)
    (token : StorageOperationToken) (deadlineUs : UInt64) (reply : BusReply) :
    StorageIoSubmitResult × FramDriver × List FramAction :=
  self.beginOperation .write address none buffer length token deadlineUs reply

/-- `fram_init`; `registered` is the answer of `i2c_bus_register_client`. -/
def init (config : FramConfig) (registered : Bool) :
    StorageIoSubmitResult × Option FramDriver :=
  if !config.isValid then (.invalidParam, none)
  else
    let self : FramDriver :=
      { config
        state := if registered then .idle else .uninitialized
        operation := .none, clientGeneration := 1, token := .cleared
        startAddress := 0, currentAddress := 0, requestedLength := 0
        transferredLength := 0, activeChunkLength := 0, deadlineUs := 0
        activeTransactionId := 0, lastBusGeneration := 0, readBuffer := none
        writeBuffer := none, probePage := 0, submittedCount := 0
        completedCount := 0, timeoutCount := 0, busErrorCount := 0
        staleCount := 0, cancelledCount := 0, rangeErrorCount := 0 }
    (if registered then .accepted else .notReady, some self)

/-! ## Completions of the bus -/

/-- The completion belongs to the transaction that the driver waits for. -/
def expects (self : FramDriver) (completion : I2cTransactionCompletion) :
    Bool :=
  !(self.state ≠ .waitingI2c || completion.clientId ≠ self.config.clientId ||
    completion.transactionId ≠ self.activeTransactionId ||
    completion.correlationId ≠ self.token.correlationId ||
    completion.clientGeneration ≠ self.clientGeneration)

/-- The next chunk after one that went through; a chunk that the bus refuses
ends the operation. -/
def submitNextChunk (self : FramDriver) (reply : BusReply) :
    FramDriver × List FramAction :=
  let (result, self, action) := self.submitCurrentChunk reply
  if result ≠ .accepted then
    let (self, actions) := self.emitCompletion .busError
    (self, action :: actions)
  else (self, [action])

def onI2cCompletion (self : FramDriver) (completion : I2cTransactionCompletion)
    (reply : BusReply) : FramDriver × List FramAction :=
  if !self.expects completion then
    ({ self with staleCount := self.staleCount + 1 }, [])
  else
    let self := { self with lastBusGeneration := completion.busGeneration }
    let result := mapResult completion.result
    if result ≠ .ok then self.emitCompletion result
    else if self.operation = .probe then
      let self := { self with transferredLength := self.transferredLength + 1 }
      if self.probePage = 0 then
        { self with probePage := 1 }.submitNextChunk reply
      else self.emitCompletion .ok
    else
      let transferredLength := self.transferredLength + self.activeChunkLength
      let self :=
        { self with
          transferredLength
          currentAddress := self.startAddress + transferredLength }
      if self.transferredLength < self.requestedLength then
        self.submitNextChunk reply
      else self.emitCompletion .ok

/-- The end of `fram_cancel_generation`, after `i2c_bus_cancel_client` has
returned. -/
def installGeneration (self : FramDriver) (newGeneration : UInt32) :
    FramDriver :=
  { self with clientGeneration := newGeneration }

end FramDriver
end Swfpm
