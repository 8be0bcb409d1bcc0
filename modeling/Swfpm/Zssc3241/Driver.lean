import Mathlib

/-!
# The ZSSC3241 driver of the STM32 firmware

Data of `3.stm32/Drivers/ZSSC3241/zssc3241.h`: the command list, the status byte,
the transport that the platform injects, the results and the driver object.
-/

namespace Swfpm.Zssc3241

/-! ## Commands and status bits -/

def statusFrameBytes : ℕ := 1
def wordFrameBytes : ℕ := 3
def rawFrameBytes : ℕ := 4
def measurementFrameBytes : ℕ := 7

def cmdNvmReadMax : UInt8 := 0x3F
def cmdNvmWriteBase : UInt8 := 0x40
def cmdNvmWriteMax : UInt8 := 0x75
def cmdCalculateNvmChecksum : UInt8 := 0x90
def cmdRawSensor : UInt8 := 0xA2
def cmdRawTemperature : UInt8 := 0xA4
def cmdStartSleep : UInt8 := 0xA8
def cmdStartCommandMode : UInt8 := 0xA9
def cmdMeasure : UInt8 := 0xAA
def cmdStartCyclic : UInt8 := 0xAB
def cmdOversample2 : UInt8 := 0xAC
def cmdOversample4 : UInt8 := 0xAD
def cmdOversample8 : UInt8 := 0xAE
def cmdOversample16 : UInt8 := 0xAF
def cmdCheckDiag : UInt8 := 0xB0
def cmdResetDiag : UInt8 := 0xB1
def cmdUpdateDiag : UInt8 := 0xB2
def cmdDacDiag : UInt8 := 0xB3
def cmdSelfDiagMeasure : UInt8 := 0xB4
def cmdPostCalOffset : UInt8 := 0xD1
def cmdOverwriteSmConfig1 : UInt8 := 0xD6
def cmdOverwriteSsf2 : UInt8 := 0xDB

def statusReservedMask : UInt8 := 0x80
def statusPoweredMask : UInt8 := 0x40
def statusBusyMask : UInt8 := 0x20
def statusModeMask : UInt8 := 0x18
def statusModeCommand : UInt8 := 0x00
def statusModeCyclic : UInt8 := 0x08
def statusModeSleep : UInt8 := 0x10
def statusMemoryErrorMask : UInt8 := 0x04
def statusConnectionFaultMask : UInt8 := 0x02
def statusMathSaturationMask : UInt8 := 0x01

def diagMathSaturation : UInt16 := 0x0200
def diagMemoryError : UInt16 := 0x0400
def diagFaultMask : UInt16 := 0x1FFE

def nvmReadMin : UInt8 := 0x00
def nvmReadMax : UInt8 := 0x3F
def nvmCustomWriteMax : UInt8 := 0x35
def nvmWordCount : ℕ := 64
def nvmSsf1 : UInt8 := 0x03
def nvmLockMask : UInt16 := 0x4000
def nvmUnlockKey : UInt32 := 0x5A3241A5

def defaultBusTimeoutMs : UInt32 := 10
def defaultMeasurementTimeoutMs : UInt32 := 25
def defaultDiagnosticTimeoutMs : UInt32 := 50
def defaultNvmTimeoutMs : UInt32 := 25
def defaultPollIntervalMs : UInt32 := 1
def defaultResetPulseMs : UInt32 := 1
def defaultResetReadyMs : UInt32 := 5

inductive Status where
  | ok
  | busy
  | timeout
  | invalidArg
  | notInitialized
  | i2cError
  | nack
  | notReady
  | invalidResponse
  | wrongMode
  | memoryError
  | connectionFault
  | mathSaturation
  | nvmWriteDisabled
  | nvmLocked
  | nvmLockProtected
  | nvmVerifyFailed
  | noResult
  | staleResult
  | unsupported
  | outOfRange
  deriving DecidableEq, Repr

/-! ## The transport -/

inductive TransportStatus where
  | ok
  | busy
  | timeout
  | nack
  | error
  deriving DecidableEq, Repr

/-- What a hook of the platform answers, and whether an end-of-conversion edge
interrupted the call. -/
structure Answer (κ α : Type*) where
  value : α
  edge : Bool
  context : κ

/-- A valid `Zssc3241Transport` over the state of its platform. -/
structure Transport (κ : Type*) where
  write : κ → UInt8 → List UInt8 → UInt32 → Answer κ TransportStatus
  read : κ → UInt8 → ℕ → UInt32 → Answer κ (TransportStatus × List UInt8)
  setReset : Option (κ → Bool → Answer κ TransportStatus)
  getTickMs : κ → Answer κ UInt32
  delayMs : κ → UInt32 → Answer κ Unit

/-! ## Results -/

inductive Mode where
  | unknown
  | command
  | cyclic
  | sleep
  deriving DecidableEq, Repr

inductive DriverState where
  | uninitialized
  | idle
  | waitReady
  | cyclic
  | timeout
  | error
  deriving DecidableEq, Repr

inductive MeasurementType where
  | rawSensor
  | rawTemperature
  | corrected
  | oversample2
  | oversample4
  | oversample8
  | oversample16
  | cyclic
  | selfDiagnostic
  deriving DecidableEq, Repr

structure Config where
  busTimeoutMs : UInt32
  measurementTimeoutMs : UInt32
  diagnosticTimeoutMs : UInt32
  nvmTimeoutMs : UInt32
  pollIntervalMs : UInt32
  resetPulseMs : UInt32
  resetReadyMs : UInt32
  useEocInterrupt : Bool
  rejectFaultyMeasurements : Bool
  allowNvmWrite : Bool
  verifyNvmAfterWrite : Bool
  deriving DecidableEq, Repr

structure DeviceStatus where
  raw : UInt8
  mode : Mode
  powered : Bool
  busy : Bool
  memoryError : Bool
  connectionFault : Bool
  mathSaturation : Bool
  deriving DecidableEq, Repr

def DeviceStatus.zero : DeviceStatus :=
  { raw := 0, mode := .unknown, powered := false, busy := false
    memoryError := false, connectionFault := false, mathSaturation := false }

structure Measurement where
  type : MeasurementType
  operationStatus : Status
  deviceStatus : DeviceStatus
  sensorRaw24 : UInt32
  temperatureRaw24 : UInt32
  sensorSigned24 : Int32
  temperatureSigned24 : Int32
  generation : UInt32
  timestampMs : UInt32
  sensorValid : Bool
  temperatureValid : Bool
  corrected : Bool
  valid : Bool
  deriving DecidableEq, Repr

def Measurement.zero : Measurement :=
  { type := .rawSensor, operationStatus := .ok, deviceStatus := .zero
    sensorRaw24 := 0, temperatureRaw24 := 0, sensorSigned24 := 0
    temperatureSigned24 := 0, generation := 0, timestampMs := 0
    sensorValid := false, temperatureValid := false, corrected := false
    valid := false }

structure Diagnostics where
  deviceStatus : DeviceStatus
  raw : UInt16
  valid : Bool
  deriving DecidableEq, Repr

/-! ## The driver object -/

/-- The object without its transport, which is the platform's. -/
structure Device where
  config : Config
  address7bit : UInt8
  state : DriverState
  mode : Mode
  pendingMeasurement : MeasurementType
  pendingCommand : UInt8
  pendingResponseLength : ℕ
  operationStartMs : UInt32
  operationTimeoutMs : UInt32
  nextPollMs : UInt32
  eocPending : Bool
  nvmWriteUnlocked : Bool
  result : Measurement
  resultPending : Bool
  generation : UInt32
  lastError : Status
  commandCount : UInt32
  resultCount : UInt32
  droppedResultCount : UInt32
  timeoutCount : UInt32
  nackCount : UInt32
  i2cErrorCount : UInt32
  deviceFaultCount : UInt32
  invalidResponseCount : UInt32
  eocCount : UInt32
  unexpectedEocCount : UInt32
  nvmWriteCount : UInt32
  nvmVerifyFailureCount : UInt32
  deriving DecidableEq, Repr

/-- `ZSSC3241_DefaultConfig`. -/
def defaultConfig : Config :=
  { busTimeoutMs := defaultBusTimeoutMs
    measurementTimeoutMs := defaultMeasurementTimeoutMs
    diagnosticTimeoutMs := defaultDiagnosticTimeoutMs
    nvmTimeoutMs := defaultNvmTimeoutMs
    pollIntervalMs := defaultPollIntervalMs
    resetPulseMs := defaultResetPulseMs
    resetReadyMs := defaultResetReadyMs
    useEocInterrupt := false
    rejectFaultyMeasurements := true
    allowNvmWrite := false
    verifyNvmAfterWrite := true }

def valueOrDefault (value fallback : UInt32) : UInt32 :=
  if value = 0 then fallback else value

def Config.withDefaults (config : Config) : Config :=
  { config with
    busTimeoutMs := valueOrDefault config.busTimeoutMs defaultBusTimeoutMs
    measurementTimeoutMs :=
      valueOrDefault config.measurementTimeoutMs defaultMeasurementTimeoutMs
    diagnosticTimeoutMs :=
      valueOrDefault config.diagnosticTimeoutMs defaultDiagnosticTimeoutMs
    nvmTimeoutMs := valueOrDefault config.nvmTimeoutMs defaultNvmTimeoutMs
    pollIntervalMs := valueOrDefault config.pollIntervalMs defaultPollIntervalMs
    resetPulseMs := valueOrDefault config.resetPulseMs defaultResetPulseMs
    resetReadyMs := valueOrDefault config.resetReadyMs defaultResetReadyMs }

/-- What `ZSSC3241_Init` leaves of an object whose arguments it accepts. -/
def Device.init (address7bit : UInt8) (config : Option Config) : Device :=
  { config := (config.getD defaultConfig).withDefaults
    address7bit := address7bit
    state := .idle
    mode := .unknown
    pendingMeasurement := .rawSensor
    pendingCommand := 0
    pendingResponseLength := 0
    operationStartMs := 0
    operationTimeoutMs := 0
    nextPollMs := 0
    eocPending := false
    nvmWriteUnlocked := false
    result := .zero
    resultPending := false
    generation := 0
    lastError := .ok
    commandCount := 0
    resultCount := 0
    droppedResultCount := 0
    timeoutCount := 0
    nackCount := 0
    i2cErrorCount := 0
    deviceFaultCount := 0
    invalidResponseCount := 0
    eocCount := 0
    unexpectedEocCount := 0
    nvmWriteCount := 0
    nvmVerifyFailureCount := 0 }

/-! ## Worlds -/

/-- What a trace records; no function reads it. -/
inductive Event where
  | initialized
  /-- A command frame, whether the bus accepted it, and whether the configuration
  allowed NVM writes. -/
  | frame (command : UInt8) (data : Option UInt16) (accepted allowNvmWrite : Bool)
  /-- A mode that a status byte showed. -/
  | observed (mode : Mode)
  /-- A command whose answer was complete. -/
  | completed (command : UInt8)
  | wordRead (address : UInt8) (value : UInt16)
  | unlocked
  | locked
  | resetAsserted
  | restarted
  | published (type : MeasurementType)
  deriving DecidableEq, Repr

/-- The driver, the state of its platform and what happened, newest first. -/
structure World (κ : Type*) where
  device : Device
  context : κ
  trace : List Event

namespace World

variable {κ : Type*} (world : World κ)

/-- What `ZSSC3241_Init` leaves behind. -/
def init (address7bit : UInt8) (config : Option Config) (context : κ)
    (trace : List Event) : World κ :=
  { device := .init address7bit config
    context := context
    trace := .initialized :: trace }

def set (device : Device) : World κ := { world with device := device }

def note (event : Event) : World κ :=
  { world with trace := event :: world.trace }

@[simp] theorem set_device (device : Device) :
    (world.set device).device = device := rfl

@[simp] theorem set_context (device : Device) :
    (world.set device).context = world.context := rfl

@[simp] theorem set_trace (device : Device) :
    (world.set device).trace = world.trace := rfl

@[simp] theorem note_device (event : Event) :
    (world.note event).device = world.device := rfl

@[simp] theorem note_context (event : Event) :
    (world.note event).context = world.context := rfl

@[simp] theorem note_trace (event : Event) :
    (world.note event).trace = event :: world.trace := rfl

end World

end Swfpm.Zssc3241
