import Mathlib

/-!
# The I²C bus manager

Embedding of `infrastructure/bus/i2c_bus_manager.{h,c}` with the types of
`ports/i2c_port.h` and `ports/port_status.h`.  The pending array is the list of
its occupied entries.  The port and the client callbacks are the environment:
both may look at everything that happened so far, and a callback may submit
requests one after the other, each chosen after the answer to the one before.
A null `bus`, `request` or output pointer is not modelled.
-/

namespace Swfpm

inductive PortStatus where
  | ok
  | timeout
  | unavailable
  | invalidParam
  | hardwareError
  | busy
  deriving DecidableEq, Repr

inductive I2cTransactionResult where
  | ok
  | busy
  | timeout
  | failed
  | cancelled
  | stale
  deriving DecidableEq, Repr

inductive I2cSubmitResult where
  | accepted
  | invalidParam
  | notReady
  | unknownClient
  | addressRejected
  | noCapacity
  | portError
  deriving DecidableEq, Repr

structure I2cPortRequest where
  transactionId : UInt32
  correlationId : UInt32
  clientGeneration : UInt32
  busGeneration : UInt32
  slaveAddress : UInt8
  /-- Buffers are addresses; `none` is the null pointer. -/
  tx : Option ℕ
  txLength : UInt16
  rx : Option ℕ
  rxLength : UInt16
  deadlineUs : UInt64
  deriving DecidableEq, Repr

/-- Which functions of the port are present. -/
structure I2cPort where
  submit : Bool
  cancel : Bool
  recover : Bool
  deriving DecidableEq, Repr

def I2cPort.isValid (port : I2cPort) : Bool := port.submit

structure I2cTransactionCompletion where
  clientId : UInt32
  transactionId : UInt32
  correlationId : UInt32
  clientGeneration : UInt32
  busGeneration : UInt32
  result : I2cTransactionResult
  deriving DecidableEq, Repr

structure I2cBusClient where
  clientId : UInt32
  clientGeneration : UInt32
  addressBase : UInt8
  addressMask : UInt8
  /-- Whether the callback is set. -/
  onComplete : Bool
  deriving DecidableEq, Repr

structure I2cBusRequest where
  clientId : UInt32
  correlationId : UInt32
  clientGeneration : UInt32
  slaveAddress : UInt8
  tx : Option ℕ
  txLength : UInt16
  rx : Option ℕ
  rxLength : UInt16
  deadlineUs : UInt64
  priority : UInt8
  deriving DecidableEq, Repr

structure I2cPendingTransaction where
  clientId : UInt32
  transactionId : UInt32
  correlationId : UInt32
  clientGeneration : UInt32
  busGeneration : UInt32
  slaveAddress : UInt8
  tx : Option ℕ
  txLen : UInt16
  rx : Option ℕ
  rxLen : UInt16
  deadlineUs : UInt64
  priority : UInt8
  admissionSequence : UInt64
  deriving DecidableEq, Repr

def I2cPendingTransaction.cleared : I2cPendingTransaction :=
  { clientId := 0, transactionId := 0, correlationId := 0
    clientGeneration := 0, busGeneration := 0, slaveAddress := 0, tx := none
    txLen := 0, rx := none, rxLen := 0, deadlineUs := 0, priority := 0
    admissionSequence := 0 }

def I2cPendingTransaction.portRequest (transaction : I2cPendingTransaction) :
    I2cPortRequest :=
  { transactionId := transaction.transactionId
    correlationId := transaction.correlationId
    clientGeneration := transaction.clientGeneration
    busGeneration := transaction.busGeneration
    slaveAddress := transaction.slaveAddress
    tx := transaction.tx
    txLength := transaction.txLen
    rx := transaction.rx
    rxLength := transaction.rxLen
    deadlineUs := transaction.deadlineUs }

/-- The copy that goes on the bus. -/
def I2cPendingTransaction.onGeneration (transaction : I2cPendingTransaction)
    (busGeneration : UInt32) : I2cPendingTransaction :=
  { transaction with busGeneration }

structure I2cBusManager where
  port : I2cPort
  portBound : Bool
  clients : List I2cBusClient
  busy : Bool
  active : I2cPendingTransaction
  pending : List I2cPendingTransaction
  nextAdmissionSequence : UInt64
  nextTransactionId : UInt32
  busGeneration : UInt32
  arbitrationCount : UInt32
  timeoutCount : UInt32
  recoveryCount : UInt32
  staleCompletionCount : UInt32
  rejectedCount : UInt32
  completedCount : UInt32
  deriving DecidableEq, Repr

def i2cBusMaxClients : ℕ := 4

def i2cBusPendingCapacity : ℕ := 8

/-! ## The world around the bus -/

/-- What the bus did, as port, clients and submitters saw it. -/
inductive BusEvent where
  | issued (transactionId : UInt32)
  | portSubmit (request : I2cPortRequest) (status : PortStatus)
  | portCancel (transactionId busGeneration : UInt32)
  | portRecover (newBusGeneration : UInt32)
  | accepted (transaction : I2cPendingTransaction)
  | notified (completion : I2cTransactionCompletion)
  deriving DecidableEq, Repr

structure I2cSubmitReply where
  result : I2cSubmitResult
  transactionId : Option UInt32
  deriving DecidableEq, Repr

/-- A callback's submissions, each of which may depend on the reply to the one
before. -/
inductive ClientProgram where
  | done
  | submit (request : I2cBusRequest) (andThen : I2cSubmitReply → ClientProgram)

/-- Port and callbacks, given the trace so far (newest event first). -/
structure BusEnvironment where
  portSubmit : List BusEvent → I2cPortRequest → PortStatus
  onComplete : List BusEvent → I2cTransactionCompletion → ClientProgram

structure BusWorld where
  bus : I2cBusManager
  trace : List BusEvent
  deriving DecidableEq, Repr

def BusWorld.log (world : BusWorld) (event : BusEvent) : BusWorld :=
  { world with trace := event :: world.trace }

namespace I2cBus

variable (env : BusEnvironment)

def findClient (bus : I2cBusManager) (clientId : UInt32) :
    Option I2cBusClient :=
  bus.clients.find? (·.clientId = clientId)

def clientAcceptsAddress (client : I2cBusClient) (address : UInt8) : Bool :=
  address &&& client.addressMask = client.addressBase &&& client.addressMask

/-! ## Set-up -/

def clearedManager : I2cBusManager :=
  { port := ⟨false, false, false⟩, portBound := false, clients := []
    busy := false, active := .cleared, pending := []
    nextAdmissionSequence := 0, nextTransactionId := 0, busGeneration := 0
    arbitrationCount := 0, timeoutCount := 0, recoveryCount := 0
    staleCompletionCount := 0, rejectedCount := 0, completedCount := 0 }

/-- `none` is a null port. -/
def init (port : Option I2cPort) : I2cBusManager :=
  let bus :=
    { clearedManager with
      busGeneration := 1, nextAdmissionSequence := 1, nextTransactionId := 1 }
  match port with
  | none => bus
  | some port =>
      if port.isValid then { bus with port, portBound := true } else bus

def bindPort (bus : I2cBusManager) (port : I2cPort) : Bool × I2cBusManager :=
  if !port.isValid ∨ bus.busy ∨ bus.pending.length ≠ 0 then (false, bus)
  else (true, { bus with port, portBound := true })

def registerClient (bus : I2cBusManager) (client : I2cBusClient) :
    Bool × I2cBusManager :=
  if client.clientId = 0 ∨ client.clientGeneration = 0 ∨
      client.addressMask = 0 ∨ !client.onComplete ∨
      bus.clients.length ≥ i2cBusMaxClients ∨
      (findClient bus client.clientId).isSome then
    (false, bus)
  else (true, { bus with clients := bus.clients ++ [client] })

def setClientGeneration (bus : I2cBusManager)
    (clientId clientGeneration : UInt32) : Bool × I2cBusManager :=
  if (findClient bus clientId).isNone ∨ clientGeneration = 0 then (false, bus)
  else
    (true,
      { bus with
        clients :=
          bus.clients.modify (bus.clients.findIdx (·.clientId = clientId))
            ({ · with clientGeneration }) })

/-! ## Starting a transaction -/

def startTransaction (world : BusWorld) (transaction : I2cPendingTransaction) :
    Bool × BusWorld :=
  match findClient world.bus transaction.clientId with
  | none => (false, world)
  | some client =>
      if !world.bus.portBound ∨
          client.clientGeneration ≠ transaction.clientGeneration ∨
          !clientAcceptsAddress client transaction.slaveAddress then
        (false, world)
      else
        let active := transaction.onGeneration world.bus.busGeneration
        let status := env.portSubmit world.trace active.portRequest
        let world := world.log (.portSubmit active.portRequest status)
        if status ≠ .ok then
          (false,
            { world with
              bus := { world.bus with busy := false, active := .cleared } })
        else
          (true, { world with bus := { world.bus with busy := true, active } })

/-- A request that `submit` refuses before it creates a transaction. -/
def checkRequest (bus : I2cBusManager) (request : I2cBusRequest) :
    Option I2cSubmitResult :=
  if request.correlationId = 0 ∨ request.clientGeneration = 0 ∨
      request.deadlineUs = 0 ∨ (request.txLength > 0 ∧ request.tx.isNone) ∨
      (request.rxLength > 0 ∧ request.rx.isNone) ∨
      (request.txLength = 0 ∧ request.rxLength = 0) then
    some .invalidParam
  else if !bus.portBound then some .notReady
  else
    match findClient bus request.clientId with
    | none => some .unknownClient
    | some client =>
        if request.clientGeneration ≠ client.clientGeneration then
          some .invalidParam
        else if !clientAcceptsAddress client request.slaveAddress then
          some .addressRejected
        else none

/-- The id that `submit` takes, zero excepted, and the next one after it. -/
def issueId (nextTransactionId : UInt32) : UInt32 × UInt32 :=
  if nextTransactionId = 0 then (nextTransactionId + 1, nextTransactionId + 2)
  else (nextTransactionId, nextTransactionId + 1)

def newTransaction (bus : I2cBusManager) (request : I2cBusRequest)
    (transactionId : UInt32) : I2cPendingTransaction :=
  { clientId := request.clientId
    transactionId
    correlationId := request.correlationId
    clientGeneration := request.clientGeneration
    busGeneration := bus.busGeneration
    slaveAddress := request.slaveAddress
    tx := request.tx
    txLen := request.txLength
    rx := request.rx
    rxLen := request.rxLength
    deadlineUs := request.deadlineUs
    priority := request.priority
    admissionSequence := bus.nextAdmissionSequence }

def createTransaction (world : BusWorld) (request : I2cBusRequest) :
    I2cPendingTransaction × BusWorld :=
  let (transactionId, nextTransactionId) := issueId world.bus.nextTransactionId
  (newTransaction world.bus request transactionId,
    { world with
      bus :=
        { world.bus with
          nextTransactionId
          nextAdmissionSequence := world.bus.nextAdmissionSequence + 1 }
      trace := .issued transactionId :: world.trace })

/-- The end of `submit`: start, queue or refuse the new transaction. -/
def admitTransaction (world : BusWorld) (transaction : I2cPendingTransaction) :
    I2cSubmitReply × BusWorld :=
  if !world.bus.busy then
    match startTransaction env world transaction with
    | (false, world) =>
        (⟨.portError, none⟩,
          { world with
            bus :=
              { world.bus with rejectedCount := world.bus.rejectedCount + 1 } })
    | (true, world) =>
        (⟨.accepted, some transaction.transactionId⟩,
          world.log (.accepted transaction))
  else if world.bus.pending.length ≥ i2cBusPendingCapacity then
    (⟨.noCapacity, none⟩,
      { world with
        bus := { world.bus with rejectedCount := world.bus.rejectedCount + 1 } })
  else
    (⟨.accepted, some transaction.transactionId⟩,
      { world with
        bus :=
          { world.bus with
            pending := world.bus.pending ++ [transaction]
            arbitrationCount := world.bus.arbitrationCount + 1 } }.log
        (.accepted transaction))

def submit (world : BusWorld) (request : I2cBusRequest) :
    I2cSubmitReply × BusWorld :=
  match checkRequest world.bus request with
  | some refusal => (⟨refusal, none⟩, world)
  | none =>
      let (transaction, world) := createTransaction world request
      admitTransaction env world transaction

/-! ## Ending a transaction -/

def runProgram (world : BusWorld) : ClientProgram → BusWorld
  | .done => world
  | .submit request andThen =>
      let (reply, world) := submit env world request
      runProgram world (andThen reply)

def notify (world : BusWorld) (transaction : I2cPendingTransaction)
    (result : I2cTransactionResult) : BusWorld :=
  match findClient world.bus transaction.clientId with
  | none => world
  | some client =>
      if !client.onComplete then world
      else
        let completion :=
          { clientId := transaction.clientId
            transactionId := transaction.transactionId
            correlationId := transaction.correlationId
            clientGeneration := transaction.clientGeneration
            busGeneration := transaction.busGeneration
            result }
        let world := world.log (.notified completion)
        runProgram env world (env.onComplete world.trace completion)

/-- The order in which pending transactions are started. -/
def Precedes (first second : I2cPendingTransaction) : Prop :=
  first.priority < second.priority ∨
    (first.priority = second.priority ∧
      first.admissionSequence < second.admissionSequence)

instance (first second : I2cPendingTransaction) :
    Decidable (Precedes first second) :=
  inferInstanceAs (Decidable (_ ∨ _))

/-- The walk of `best_pending_index` over the entries from `index` on. -/
def bestFrom (best : ℕ) (bestTransaction : I2cPendingTransaction) (index : ℕ) :
    List I2cPendingTransaction → ℕ
  | [] => best
  | transaction :: rest =>
      if Precedes transaction bestTransaction then
        bestFrom index transaction (index + 1) rest
      else bestFrom best bestTransaction (index + 1) rest

def bestPendingIndex : List I2cPendingTransaction → ℕ
  | [] => 0
  | transaction :: rest => bestFrom 0 transaction 1 rest

def removePending (world : BusWorld) (index : ℕ) : BusWorld :=
  { world with
    bus := { world.bus with pending := world.bus.pending.eraseIdx index } }

/-- The loop of `start_next`, at most `fuel` rounds of it. -/
def startNextLoop : ℕ → BusWorld → BusWorld
  | 0, world => world
  | fuel + 1, world =>
      if world.bus.busy ∨ world.bus.pending.length = 0 then world
      else
        let index := bestPendingIndex world.bus.pending
        let next := world.bus.pending.getD index .cleared
        match startTransaction env (removePending world index) next with
        | (true, world) => world
        | (false, world) =>
            startNextLoop fuel
              (notify env
                { world with
                  bus :=
                    { world.bus with
                      rejectedCount := world.bus.rejectedCount + 1 } }
                next .failed)

/-- One round removes one pending transaction, so the loop needs no more rounds
than there are. -/
def startNext (world : BusWorld) : BusWorld :=
  startNextLoop env world.bus.pending.length world

def clearActive (world : BusWorld) : BusWorld :=
  { world with bus := { world.bus with busy := false, active := .cleared } }

def bumpGeneration (world : BusWorld) : BusWorld :=
  { world with
    bus := { world.bus with busGeneration := world.bus.busGeneration + 1 } }

/-- The identity that a completion reports. -/
structure CompletionKey where
  transactionId : UInt32
  correlationId : UInt32
  clientGeneration : UInt32
  busGeneration : UInt32
  deriving DecidableEq, Repr

def complete (world : BusWorld) (key : CompletionKey)
    (result : I2cTransactionResult) : Bool × BusWorld :=
  if !world.bus.busy ∨ key.busGeneration ≠ world.bus.busGeneration ∨
      key.transactionId ≠ world.bus.active.transactionId ∨
      key.correlationId ≠ world.bus.active.correlationId ∨
      key.clientGeneration ≠ world.bus.active.clientGeneration then
    (false,
      { world with
        bus :=
          { world.bus with
            staleCompletionCount := world.bus.staleCompletionCount + 1 } })
  else
    let completed := world.bus.active
    let world := clearActive world
    let bus :=
      match result with
      | .timeout =>
          { world.bus with timeoutCount := world.bus.timeoutCount + 1 }
      | .ok =>
          { world.bus with completedCount := world.bus.completedCount + 1 }
      | _ => world.bus
    (true, startNext env (notify env { world with bus } completed result))

def mapPortResult : PortStatus → I2cTransactionResult
  | .ok => .ok
  | .timeout => .timeout
  | .busy => .busy
  | _ => .failed

def onPortCompletion (world : BusWorld) (request : Option I2cPortRequest)
    (result : PortStatus) : Bool × BusWorld :=
  match request with
  | none =>
      (false,
        { world with
          bus :=
            { world.bus with
              staleCompletionCount := world.bus.staleCompletionCount + 1 } })
  | some request =>
      complete env world
        ⟨request.transactionId, request.correlationId,
          request.clientGeneration, request.busGeneration⟩
        (mapPortResult result)

/-- The optional cancel call of `tick` and `cancel_client`. -/
def portCancel (world : BusWorld) (transaction : I2cPendingTransaction) :
    BusWorld :=
  if world.bus.port.cancel then
    world.log (.portCancel transaction.transactionId transaction.busGeneration)
  else world

def tick (world : BusWorld) (nowUs : UInt64) : Bool × BusWorld :=
  if !world.bus.busy ∨ nowUs < world.bus.active.deadlineUs then (false, world)
  else
    let timedOut := world.bus.active
    let world := bumpGeneration (clearActive (portCancel world timedOut))
    let world :=
      { world with
        bus := { world.bus with timeoutCount := world.bus.timeoutCount + 1 } }
    (true, startNext env (notify env world timedOut .timeout))

/-- The walk of `cancel_client` over the pending entries from `index` on, at
most `fuel` rounds of it, with the number of cancelled transactions. -/
def cancelPendingLoop (clientId : UInt32) :
    ℕ → ℕ → ℕ → BusWorld → ℕ × BusWorld
  | 0, _, cancelled, world => (cancelled, world)
  | fuel + 1, index, cancelled, world =>
      match world.bus.pending[index]? with
      | none => (cancelled, world)
      | some transaction =>
          if transaction.clientId = clientId then
            cancelPendingLoop clientId fuel index (cancelled + 1)
              (notify env (removePending world index) transaction .cancelled)
          else cancelPendingLoop clientId fuel (index + 1) cancelled world

def cancelClient (world : BusWorld) (clientId : UInt32) : ℕ × BusWorld :=
  let (cancelled, world) :=
    cancelPendingLoop env clientId world.bus.pending.length 0 0 world
  if world.bus.busy ∧ world.bus.active.clientId = clientId then
    let active := world.bus.active
    let world := bumpGeneration (clearActive (portCancel world active))
    (cancelled + 1, startNext env (notify env world active .cancelled))
  else (cancelled, world)

def recover (world : BusWorld) : BusWorld :=
  let active := world.bus.active
  let hadActive := world.bus.busy
  let world :=
    if world.bus.port.recover then
      world.log (.portRecover (world.bus.busGeneration + 1))
    else world
  let world := bumpGeneration (clearActive world)
  let world :=
    { world with
      bus := { world.bus with recoveryCount := world.bus.recoveryCount + 1 } }
  startNext env
    (if hadActive then notify env world active .cancelled else world)

end I2cBus
end Swfpm
