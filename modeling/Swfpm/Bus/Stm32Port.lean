import Swfpm.Bus.PortSteps
import Swfpm.Bus.Registration
import Swfpm.Support.AsyncTransfer

/-!
# The bus on its STM32 port

Embedding of `platform/stm32/adapters/i2c_port_stm32.{h,c}`, with
`i2c_bus_on_port_completion` as the sink of its completions.  The HAL is outside:
it may answer every request as it likes.  Its completion callback is deferred,
as the header asks, so it comes between two calls of the bus.
-/

namespace Swfpm

open AsyncTransfer (Operation Phase phase outcomes late Orderly)

inductive Stm32AsyncHalStatus where
  | ok
  | busy
  | error
  deriving DecidableEq, Repr

def I2cPortRequest.cleared : I2cPortRequest :=
  { transactionId := 0, correlationId := 0, clientGeneration := 0
    busGeneration := 0, slaveAddress := 0, tx := none, txLength := 0
    rx := none, rxLength := 0, deadlineUs := 0 }

structure Stm32I2cAdapter where
  activeRequest : I2cPortRequest
  active : Bool
  deriving DecidableEq, Repr

namespace Stm32I2cAdapter

def init : Stm32I2cAdapter := ⟨.cleared, false⟩

def mapHal : Stm32AsyncHalStatus → PortStatus
  | .ok => .ok
  | .busy => .busy
  | .error => .hardwareError

/-- `started` is what the HAL answers if it is asked. -/
def submit (adapter : Stm32I2cAdapter) (started : Stm32AsyncHalStatus)
    (request : I2cPortRequest) : PortStatus × Stm32I2cAdapter :=
  if adapter.active then (.busy, adapter)
  else if started ≠ .ok then (mapHal started, adapter)
  else (.ok, ⟨request, true⟩)

/-- The transfer that a cancellation names is the active one. -/
def owns (adapter : Stm32I2cAdapter) (transactionId busGeneration : UInt32) :
    Bool :=
  adapter.active && adapter.activeRequest.transactionId = transactionId &&
    adapter.activeRequest.busGeneration = busGeneration

def cancel (adapter : Stm32I2cAdapter) (cancelled : Stm32AsyncHalStatus)
    (transactionId busGeneration : UInt32) : PortStatus × Stm32I2cAdapter :=
  if !adapter.owns transactionId busGeneration then (.invalidParam, adapter)
  else if mapHal cancelled = .ok then (.ok, { adapter with active := false })
  else (mapHal cancelled, adapter)

def recover (adapter : Stm32I2cAdapter) (recovered : Stm32AsyncHalStatus) :
    PortStatus × Stm32I2cAdapter :=
  if mapHal recovered = .ok then (.ok, { adapter with active := false })
  else (mapHal recovered, adapter)

/-- `i2c_port_stm32_on_complete`, with the request that goes to the sink. -/
def onComplete (adapter : Stm32I2cAdapter) :
    Option I2cPortRequest × Stm32I2cAdapter :=
  if !adapter.active then (none, adapter)
  else (some adapter.activeRequest, { adapter with active := false })

end Stm32I2cAdapter

/-! ## The HAL during one call of the bus -/

abbrev HalOperation := Operation I2cPortRequest PortStatus

/-- The answers of the HAL, given what the bus did since the call began. -/
structure Stm32I2cHal where
  start : List BusEvent → I2cPortRequest → Stm32AsyncHalStatus
  cancel : List BusEvent → Stm32AsyncHalStatus
  recover : List BusEvent → Stm32AsyncHalStatus

namespace Stm32I2cHal

variable (hal : Stm32I2cHal)

/-- What one call of the port does to the adapter. -/
def serve (before : List BusEvent) (adapter : Stm32I2cAdapter) :
    BusEvent → Stm32I2cAdapter
  | .portSubmit request _ => (adapter.submit (hal.start before request) request).2
  | .portCancel transactionId busGeneration =>
      (adapter.cancel (hal.cancel before) transactionId busGeneration).2
  | .portRecover _ => (adapter.recover (hal.recover before)).2
  | _ => adapter

/-- What the adapter asks the HAL for in that call. -/
def asks (before : List BusEvent) (adapter : Stm32I2cAdapter) :
    BusEvent → List HalOperation
  | .portSubmit request _ =>
      if adapter.active then []
      else [.start request (hal.start before request = .ok)]
  | .portCancel transactionId busGeneration =>
      if adapter.owns transactionId busGeneration then
        [.cancel (hal.cancel before = .ok)]
      else []
  | .portRecover _ => [.recover (hal.recover before = .ok)]
  | _ => []

/-- The adapter after the port calls of a trace. -/
def replay (adapter : Stm32I2cAdapter) : List BusEvent → Stm32I2cAdapter
  | [] => adapter
  | event :: before => hal.serve before (replay adapter before) event

def asked (adapter : Stm32I2cAdapter) : List BusEvent → List HalOperation
  | [] => []
  | event :: before =>
      hal.asks before (hal.replay adapter before) event ++ asked adapter before

end Stm32I2cHal

/-- The HAL and the clients of the bus. -/
structure Surroundings where
  hal : Stm32I2cHal
  onComplete : List BusEvent → I2cTransactionCompletion → ClientProgram

/-- What the bus finds around it in a call that begins on `adapter`. -/
def Surroundings.environment (around : Surroundings)
    (adapter : Stm32I2cAdapter) : BusEnvironment :=
  { portSubmit := fun trace request =>
      ((around.hal.replay adapter trace).submit (around.hal.start trace request)
        request).1
    onComplete := around.onComplete }

/-! ## The board -/

/-- Bus and adapter, with what the bus did and what the HAL was asked for and
reported, newest first. -/
structure I2cBoard where
  bus : I2cBusManager
  adapter : Stm32I2cAdapter
  trace : List BusEvent
  log : List HalOperation
  deriving DecidableEq, Repr

inductive BoardCall where
  | registerClient (client : I2cBusClient)
  | setClientGeneration (clientId clientGeneration : UInt32)
  | submit (request : I2cBusRequest)
  | tick (nowUs : UInt64)
  | cancelClient (clientId : UInt32)
  | recover
  | halComplete (result : PortStatus)

namespace I2cBoard

def init : I2cBoard :=
  ⟨I2cBus.init (some ⟨true, true, true⟩), .init, [], []⟩

/-- An operation of the bus, with the port calls that it makes. -/
def operate (board : I2cBoard) (around : Surroundings)
    (operation : BusEnvironment → BusWorld → BusWorld) : I2cBoard :=
  let after := operation (around.environment board.adapter) ⟨board.bus, []⟩
  { bus := after.bus
    adapter := around.hal.replay board.adapter after.trace
    trace := after.trace ++ board.trace
    log := around.hal.asked board.adapter after.trace ++ board.log }

def call (board : I2cBoard) (around : Surroundings) : BoardCall → I2cBoard
  | .registerClient client =>
      { board with bus := (I2cBus.registerClient board.bus client).2 }
  | .setClientGeneration clientId clientGeneration =>
      { board with
        bus := (I2cBus.setClientGeneration board.bus clientId clientGeneration).2 }
  | .submit request =>
      board.operate around fun env world => (I2cBus.submit env world request).2
  | .tick nowUs =>
      board.operate around fun env world => (I2cBus.tick env world nowUs).2
  | .cancelClient clientId =>
      board.operate around fun env world =>
        (I2cBus.cancelClient env world clientId).2
  | .recover => board.operate around I2cBus.recover
  | .halComplete result =>
      let reported := { board with log := .completed result :: board.log }
      match board.adapter.onComplete with
      | (none, _) => reported
      | (some request, adapter) =>
          { reported with adapter }.operate around fun env world =>
            (I2cBus.onPortCompletion env world (some request) result).2

def run (calls : List (Surroundings × BoardCall)) : I2cBoard :=
  calls.foldl (fun board made => board.call made.1 made.2) init

end I2cBoard
end Swfpm
