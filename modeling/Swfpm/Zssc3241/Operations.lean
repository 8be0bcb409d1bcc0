import Swfpm.Support.Program
import Swfpm.Zssc3241.Mapping

/-!
# The operations of the ZSSC3241 driver

Embedding of `3.stm32/Drivers/ZSSC3241/zssc3241.c` for a driver object that
`ZSSC3241_Init` has accepted and output pointers that are not null.  A wait for
the device takes the polls that it may still make; where they do not suffice the
program stops.  An end-of-conversion edge may interrupt every call of a hook.
-/

namespace Swfpm.Zssc3241

open Program

/-- A program of the driver. -/
abbrev Operation (κ : Type*) (α : Type) := Program (World κ) α

/-- `ZSSC3241_OnEocInterrupt`. -/
def Device.onEocInterrupt (device : Device) : Device :=
  if !device.config.useEocInterrupt then
    { device with unexpectedEocCount := device.unexpectedEocCount + 1 }
  else
    let counted := { device with eocCount := device.eocCount + 1 }
    let counted :=
      if counted.state ≠ .waitReady ∧ counted.state ≠ .cyclic then
        { counted with unexpectedEocCount := counted.unexpectedEocCount + 1 }
      else counted
    { counted with eocPending := true }

section Operations

variable {κ : Type*} (transport : Transport κ)

/-! ## The hooks of the platform -/

/-- What a hook leaves of the world. -/
def World.answered {α : Type*} (world : World κ) (answer : Answer κ α) :
    World κ :=
  { world with
    context := answer.context
    device :=
      if answer.edge then world.device.onEocInterrupt else world.device }

/-- The program of one call of a hook. -/
def hook {α : Type} (call : World κ → Answer κ α) : Operation κ α :=
  fun world => (some (call world).value, world.answered (call world))

def note (event : Event) : Operation κ PUnit :=
  modify fun world => world.note event

def setDevice (change : Device → Device) : Operation κ PUnit :=
  modify fun world => world.set (change world.device)

def device {τ : Type} (view : Device → τ) : Operation κ τ :=
  get fun world => view world.device

def now : Operation κ UInt32 :=
  hook fun world => transport.getTickMs world.context

def elapsed (now start timeout : UInt32) : Bool := now - start ≥ timeout

def timeReached (now target : UInt32) : Bool := (now - target).toInt32 ≥ 0

def delay (delayMs : UInt32) : Operation κ PUnit :=
  if delayMs ≠ 0 then do
    let _ ← hook fun world => transport.delayMs world.context delayMs
    pure ⟨⟩
  else pure ⟨⟩

/-- The driver's status for a status of the transport. -/
def TransportStatus.status : TransportStatus → Status
  | .ok => .ok
  | .busy => .busy
  | .timeout => .timeout
  | .nack => .nack
  | .error => .i2cError

/-- The counters of `zssc_transport_status`. -/
def Device.countTransport (device : Device) : TransportStatus → Device
  | .ok => device
  | .busy => device
  | .timeout => { device with timeoutCount := device.timeoutCount + 1 }
  | .nack => { device with nackCount := device.nackCount + 1 }
  | .error => { device with i2cErrorCount := device.i2cErrorCount + 1 }

def transportStatus (answered : TransportStatus) : Operation κ Status := do
  setDevice fun device => device.countTransport answered
  pure answered.status

def write (data : List UInt8) : Operation κ Status := do
  let answered ← hook fun world =>
    transport.write world.context world.device.address7bit data
      world.device.config.busTimeoutMs
  transportStatus answered

def read (length : ℕ) : Operation κ (Status × List UInt8) := do
  let answered ← hook fun world =>
    transport.read world.context world.device.address7bit length
      world.device.config.busTimeoutMs
  let status ← transportStatus answered.1
  pure (status, answered.2)

/-- The bytes of a command frame. -/
def frameBytes (command : UInt8) : Option UInt16 → List UInt8
  | none => [command]
  | some data => [command, (data >>> 8).toUInt8, data.toUInt8]

def sendCommand (command : UInt8) (data : Option UInt16) : Operation κ Status := do
  let status ← write transport (frameBytes command data)
  let allowNvmWrite ← device fun device => device.config.allowNvmWrite
  note (.frame command data (status = .ok) allowNvmWrite)
  when (status = .ok) <|
    setDevice fun device => { device with commandCount := device.commandCount + 1 }
  pure status

/-! ## The status byte -/

def decodeMode (rawStatus : UInt8) : Mode :=
  let bits := rawStatus &&& statusModeMask
  if bits = statusModeCommand then .command
  else if bits = statusModeCyclic then .cyclic
  else if bits = statusModeSleep then .sleep
  else .unknown

def decodeStatusByte (raw : UInt8) : DeviceStatus :=
  { raw
    mode := decodeMode raw
    powered := raw &&& statusPoweredMask ≠ 0
    busy := raw &&& statusBusyMask ≠ 0
    memoryError := raw &&& statusMemoryErrorMask ≠ 0
    connectionFault := raw &&& statusConnectionFaultMask ≠ 0
    mathSaturation := raw &&& statusMathSaturationMask ≠ 0 }

/-- An invalid byte leaves the decoded status alone; no caller then looks at
it. -/
def validateStatusByte (raw : UInt8) : Status × DeviceStatus :=
  if raw &&& statusReservedMask ≠ 0 then (.invalidResponse, .zero)
  else
    let decoded := decodeStatusByte raw
    if !decoded.powered ∨ decoded.mode = .unknown then (.notReady, decoded)
    else (.ok, decoded)

def faultStatus (status : DeviceStatus) : Status :=
  if status.memoryError then .memoryError
  else if status.connectionFault then .connectionFault
  else if status.mathSaturation then .mathSaturation
  else .ok

def countInvalidResponse (device : Device) : Device :=
  { device with invalidResponseCount := device.invalidResponseCount + 1 }

/-- The mode that a status byte showed. -/
def observe (mode : Mode) : Operation κ PUnit := do
  setDevice fun device => { device with mode }
  note (.observed mode)

def readStatusInternal : Operation κ (Status × DeviceStatus) := do
  let (status, data) ← read transport 1
  if status ≠ .ok then
    pure (status, .zero)
  else
    let (status, decoded) := validateStatusByte (data.getD 0 0)
    when (status = .invalidResponse) <| setDevice countInvalidResponse
    when (status = .ok ∨ status = .notReady) <| observe decoded.mode
    pure (status, decoded)

/-! ## A command and its answer -/

def fail (status : Status) : Operation κ (Status × List UInt8) := do
  setDevice fun device => { device with lastError := status }
  pure (status, [])

/-- The end of a command whose answer is complete. -/
def finishCommand (command : UInt8) (decoded : DeviceStatus)
    (response : List UInt8) (evaluateFaults : Bool) :
    Operation κ (Status × List UInt8) := do
  observe decoded.mode
  note (.completed command)
  let status := if evaluateFaults then faultStatus decoded else .ok
  when (status ≠ .ok) <|
    setDevice fun device =>
      { device with deviceFaultCount := device.deviceFaultCount + 1 }
  setDevice fun device => { device with lastError := status }
  pure (status, response)

/-- The answer of a device that is no longer busy. -/
def readResponse (command : UInt8) (decoded : DeviceStatus)
    (responseLength : ℕ) (evaluateFaults : Bool) :
    Operation κ (Status × List UInt8) := do
  if responseLength = statusFrameBytes then
    finishCommand command decoded [decoded.raw] evaluateFaults
  else
    let (status, response) ← read transport responseLength
    if status ≠ .ok then
      fail status
    else
      let (status, decoded) := validateStatusByte (response.getD 0 0)
      if status ≠ .ok ∨ decoded.busy then
        setDevice countInvalidResponse
        fail (if status = .ok then .invalidResponse else status)
      else
        finishCommand command decoded response evaluateFaults

/-- The loop of `zssc_execute_command` with the polls that it may still make. -/
def awaitResponse (command : UInt8) (responseLength : ℕ)
    (start timeoutMs : UInt32) (evaluateFaults : Bool) :
    ℕ → Operation κ (Status × List UInt8)
  | 0 => stop
  | polls + 1 => do
      let current ← now transport
      if elapsed current start timeoutMs then
        setDevice fun device => { device with timeoutCount := device.timeoutCount + 1 }
        fail .timeout
      else
        let (status, decoded) ← readStatusInternal transport
        if status ≠ .ok then
          fail status
        else if decoded.busy then
          let pollIntervalMs ← device fun device => device.config.pollIntervalMs
          delay transport pollIntervalMs
          awaitResponse command responseLength start timeoutMs evaluateFaults polls
        else
          readResponse transport command decoded responseLength evaluateFaults

def executeCommand (polls : ℕ) (command : UInt8) (data : Option UInt16)
    (responseLength : ℕ) (timeoutMs : UInt32) (evaluateFaults : Bool) :
    Operation κ (Status × List UInt8) := do
  let state ← device fun device => device.state
  if state = .waitReady then
    pure (.busy, [])
  else
    let status ← sendCommand transport command data
    if status ≠ .ok then
      fail status
    else
      let start ← now transport
      awaitResponse transport command responseLength start timeoutMs evaluateFaults
        polls

/-! ## Measurements -/

/-- The command, the length of the answer and the samples of a measurement. -/
def measurementParameters : MeasurementType → Option (UInt8 × ℕ × UInt32)
  | .rawSensor => some (cmdRawSensor, rawFrameBytes, 1)
  | .rawTemperature => some (cmdRawTemperature, rawFrameBytes, 1)
  | .corrected => some (cmdMeasure, measurementFrameBytes, 1)
  | .oversample2 => some (cmdOversample2, measurementFrameBytes, 2)
  | .oversample4 => some (cmdOversample4, measurementFrameBytes, 4)
  | .oversample8 => some (cmdOversample8, measurementFrameBytes, 8)
  | .oversample16 => some (cmdOversample16, measurementFrameBytes, 16)
  | .cyclic => none
  | .selfDiagnostic => none

def decodeUnsigned24 (first second third : UInt8) : UInt32 :=
  (first.toUInt32 <<< 16) ||| (second.toUInt32 <<< 8) ||| third.toUInt32

def decodeSigned24 (raw24 : UInt32) : Int32 :=
  let raw24 := raw24 &&& 0x00FFFFFF
  if raw24 &&& 0x00800000 ≠ 0 then (raw24 ||| 0xFF000000).toInt32
  else raw24.toInt32

/-- The word of three bytes behind `offset`. -/
def word24 (frame : List UInt8) (offset : ℕ) : UInt32 :=
  decodeUnsigned24 (frame.getD offset 0) (frame.getD (offset + 1) 0)
    (frame.getD (offset + 2) 0)

/-- The values of a frame; `none` where the frame has another length. -/
def decodeFrame (result : Measurement) (type : MeasurementType)
    (frame : List UInt8) (frameLength : ℕ) : Option Measurement :=
  match type with
  | .rawSensor | .selfDiagnostic =>
      if frameLength ≠ rawFrameBytes then none
      else some { result with
        sensorRaw24 := word24 frame 1
        sensorSigned24 := decodeSigned24 (word24 frame 1)
        sensorValid := true }
  | .rawTemperature =>
      if frameLength ≠ rawFrameBytes then none
      else some { result with
        temperatureRaw24 := word24 frame 1
        temperatureSigned24 := decodeSigned24 (word24 frame 1)
        temperatureValid := true }
  | .corrected | .oversample2 | .oversample4 | .oversample8 | .oversample16
  | .cyclic =>
      if frameLength ≠ measurementFrameBytes then none
      else some { result with
        sensorRaw24 := word24 frame 1
        temperatureRaw24 := word24 frame 4
        sensorValid := true
        temperatureValid := true
        corrected := true }

def decodeMeasurement (type : MeasurementType) (frame : List UInt8)
    (frameLength : ℕ) : Operation κ (Status × Measurement) := do
  setDevice fun device => { device with generation := device.generation + 1 }
  let generation ← device fun device => device.generation
  let timestampMs ← now transport
  let (status, deviceStatus) := validateStatusByte (frame.getD 0 0)
  let result := { Measurement.zero with type, generation, timestampMs, deviceStatus }
  if status ≠ .ok ∨ deviceStatus.busy then
    let operationStatus := if status = .ok then .invalidResponse else status
    pure (operationStatus, { result with operationStatus })
  else
    match decodeFrame result type frame frameLength with
    | none =>
        pure (.invalidResponse, { result with operationStatus := .invalidResponse })
    | some result =>
        let status := faultStatus deviceStatus
        when (status ≠ .ok) <|
          setDevice fun device =>
            { device with deviceFaultCount := device.deviceFaultCount + 1 }
        pure (status, { result with
          operationStatus := status
          valid := status = .ok && (result.sensorValid || result.temperatureValid) })

def publishResult (result : Measurement) : Operation κ PUnit := do
  setDevice fun device =>
    { device with
      droppedResultCount :=
        if device.resultPending then device.droppedResultCount + 1
        else device.droppedResultCount
      result
      resultPending := true
      resultCount := device.resultCount + 1 }
  note (.published result.type)

def readMeasurementFrame (type : MeasurementType) (responseLength : ℕ) :
    Operation κ (Status × Measurement) := do
  let (status, frame) ← read transport responseLength
  if status ≠ .ok then
    pure (status, .zero)
  else
    let (status, result) ← decodeMeasurement transport type frame responseLength
    when (status = .invalidResponse ∨ status = .notReady) <|
      setDevice countInvalidResponse
    pure (status, result)

/-- The result is published, valid or marked with a fault of the device. -/
def publishes (status : Status) : Bool :=
  status = .ok || status = .memoryError || status = .connectionFault ||
    status = .mathSaturation

/-! ## Modes -/

def readStatus : Operation κ (Status × DeviceStatus) :=
  readStatusInternal transport

/-- The mode allows the operation. -/
def modeStatus : Operation κ Status := do
  let mode ← device fun device => device.mode
  pure (if mode = .cyclic then .wrongMode else .ok)

def requireNonCyclic : Operation κ Status := do
  let state ← device fun device => device.state
  if state = .waitReady then
    pure .busy
  else
    let mode ← device fun device => device.mode
    if mode = .unknown then
      let (result, _) ← readStatus transport
      if result ≠ .ok then
        pure result
      else
        modeStatus
    else
      modeStatus

def requireCommandMode : Operation κ Status := do
  let status ← requireNonCyclic transport
  if status ≠ .ok then
    pure status
  else
    let mode ← device fun device => device.mode
    pure (if mode = .command then .ok else .wrongMode)

def probe : Operation κ Status := do
  let (result, status) ← readStatus transport
  pure (if result = .ok ∧ status.busy then .busy else result)

/-- The fields that a completed reset clears. -/
def Device.restarted (device : Device) : Device :=
  { device with
    state := .idle, mode := .unknown, eocPending := false
    nvmWriteUnlocked := false, resultPending := false }

def reset : Operation κ Status :=
  match transport.setReset with
  | none => pure .unsupported
  | some setReset => do
      let asserted ← hook fun world => setReset world.context true
      let status ← transportStatus asserted
      if status ≠ .ok then
        pure status
      else
        note .resetAsserted
        let resetPulseMs ← device fun device => device.config.resetPulseMs
        delay transport resetPulseMs
        let released ← hook fun world => setReset world.context false
        let status ← transportStatus released
        if status ≠ .ok then
          pure status
        else
          let resetReadyMs ← device fun device => device.config.resetReadyMs
          delay transport resetReadyMs
          setDevice Device.restarted
          note .restarted
          probe transport

/-- The command of `EnterCommandMode`, `EnterSleepMode` and `StartCyclicMode`: the
mode it asks for, and what the driver becomes in that mode. -/
def enterMode (polls : ℕ) (command : UInt8) (wanted : Mode)
    (already entered : Device → Device) : Operation κ Status := do
  let state ← device fun device => device.state
  if state = .waitReady then
    pure .busy
  else
    let mode ← device fun device => device.mode
    if mode = wanted then
      setDevice already
      pure .ok
    else
      let timeoutMs ← device fun device => device.config.measurementTimeoutMs
      let (status, _) ← executeCommand transport polls command none statusFrameBytes
        timeoutMs false
      let mode ← device fun device => device.mode
      if status = .ok ∧ mode ≠ wanted then
        pure .wrongMode
      else
        when (status = .ok) <| setDevice entered
        pure status

def enterCommandMode (polls : ℕ) : Operation κ Status :=
  enterMode transport polls cmdStartCommandMode .command
    (fun device => { device with state := .idle })
    fun device => { device with state := .idle }

def enterSleepMode (polls : ℕ) : Operation κ Status :=
  enterMode transport polls cmdStartSleep .sleep
    (fun device => { device with state := .idle })
    fun device => { device with state := .idle }

def startCyclicMode (polls : ℕ) : Operation κ Status :=
  enterMode transport polls cmdStartCyclic .cyclic
    (fun device => { device with state := .cyclic })
    fun device => { device with state := .cyclic, eocPending := false }

def stopCyclicMode (polls : ℕ) : Operation κ Status :=
  enterCommandMode transport polls

/-! ## Measuring -/

/-- The timeout of a measurement of several samples. -/
def operationTimeout (measurementTimeoutMs sampleCount : UInt32) : UInt32 :=
  if measurementTimeoutMs > 0xFFFFFFFF / sampleCount then 0xFFFFFFFF
  else measurementTimeoutMs * sampleCount

def startMeasurement (type : MeasurementType) : Operation κ Status := do
  let status ← requireNonCyclic transport
  if status ≠ .ok then
    pure status
  else
    match measurementParameters type with
    | none => pure .invalidArg
    | some (command, responseLength, sampleCount) =>
        let status ← sendCommand transport command none
        if status ≠ .ok then
          setDevice fun device => { device with state := .error, lastError := status }
          pure status
        else
          setDevice fun device =>
            { device with
              pendingMeasurement := type
              pendingCommand := command
              pendingResponseLength := responseLength }
          let operationStartMs ← now transport
          setDevice fun device =>
            { device with
              operationStartMs
              operationTimeoutMs :=
                operationTimeout device.config.measurementTimeoutMs sampleCount
              nextPollMs := operationStartMs
              eocPending := false
              lastError := .busy
              state := .waitReady }
          pure .ok

/-- `Process` in cyclic mode. -/
def processCyclic : Operation κ Status := do
  let eocPending ← device fun device => device.eocPending
  if !eocPending then
    pure .ok
  else
    setDevice fun device => { device with eocPending := false }
    let (status, result) ← readMeasurementFrame transport .cyclic measurementFrameBytes
    when (publishes status) <| publishResult result
    setDevice fun device => { device with lastError := status }
    pure status

/-- `Process` while a measurement is under way. -/
def processWaiting : Operation κ Status := do
  let current ← now transport
  let late ← device fun device =>
    elapsed current device.operationStartMs device.operationTimeoutMs
  if late then
    setDevice fun device =>
      { device with
        state := .timeout
        lastError := .timeout
        timeoutCount := device.timeoutCount + 1 }
    pure .timeout
  else
    let early ← device fun device =>
      !device.eocPending && !timeReached current device.nextPollMs
    if early then
      pure .busy
    else
      setDevice fun device => { device with eocPending := false }
      let (status, statusByte) ← readStatusInternal transport
      if status ≠ .ok then
        setDevice fun device => { device with state := .error, lastError := status }
        pure status
      else if statusByte.busy then
        setDevice fun device =>
          { device with nextPollMs := current + device.config.pollIntervalMs }
        pure .busy
      else
        let type ← device fun device => device.pendingMeasurement
        let responseLength ← device fun device => device.pendingResponseLength
        let (status, result) ← readMeasurementFrame transport type responseLength
        when (publishes status) <| publishResult result
        setDevice fun device => { device with state := .idle, lastError := status }
        let rejectFaulty ← device fun device => device.config.rejectFaultyMeasurements
        pure (if !rejectFaulty ∧ publishes status then .ok else status)

def process : Operation κ Status := do
  let state ← device fun device => device.state
  match state with
  | .cyclic => processCyclic transport
  | .waitReady => processWaiting transport
  | .timeout => pure .timeout
  | .error => device fun device => device.lastError
  | _ => pure .ok

def Device.cancelled (device : Device) : Device :=
  { device with
    state :=
      if device.state = .waitReady ∨ device.state = .timeout ∨
          device.state = .error then
        if device.mode = .cyclic then .cyclic else .idle
      else device.state
    eocPending := false
    lastError := .ok }

def cancel : Operation κ PUnit := setDevice Device.cancelled

def getLatestResult : Operation κ (Status × Measurement) := do
  let resultPending ← device fun device => device.resultPending
  if !resultPending then
    pure (.noResult, .zero)
  else
    let result ← device fun device => device.result
    setDevice fun device => { device with resultPending := false }
    pure (result.operationStatus, result)

/-- The loop of `zssc_measure_blocking`, from the status so far. -/
def awaitMeasurement : ℕ → Status → Operation κ Status
  | 0, _ => stop
  | polls + 1, status => do
      let state ← device fun device => device.state
      if state ≠ .waitReady then
        pure status
      else
        let status ← process transport
        if status = .busy then
          let pollIntervalMs ← device fun device => device.config.pollIntervalMs
          delay transport pollIntervalMs
          awaitMeasurement polls status
        else
          pure status

def measureBlocking (polls : ℕ) (type : MeasurementType) :
    Operation κ (Status × Measurement) := do
  let status ← startMeasurement transport type
  if status ≠ .ok then
    pure (status, .zero)
  else
    let status ← awaitMeasurement transport polls status
    let resultPending ← device fun device => device.resultPending
    if resultPending then
      let (resultStatus, result) ← getLatestResult
      pure (if status = .ok ∨ status = .busy then resultStatus else status, result)
    else
      pure (status, .zero)

def measure (polls : ℕ) : Operation κ (Status × Measurement) :=
  measureBlocking transport polls .corrected

def measureRawSensor (polls : ℕ) : Operation κ (Status × Measurement) :=
  measureBlocking transport polls .rawSensor

def measureRawTemperature (polls : ℕ) : Operation κ (Status × Measurement) :=
  measureBlocking transport polls .rawTemperature

def measureOversampled (polls : ℕ) (sampleCount : UInt8) :
    Operation κ (Status × Measurement) :=
  if sampleCount = 2 then measureBlocking transport polls .oversample2
  else if sampleCount = 4 then measureBlocking transport polls .oversample4
  else if sampleCount = 8 then measureBlocking transport polls .oversample8
  else if sampleCount = 16 then measureBlocking transport polls .oversample16
  else pure (.invalidArg, .zero)

def readCyclicResult : Operation κ (Status × Measurement) := do
  let wrongMode ← device fun device =>
    decide (device.mode ≠ .cyclic ∨ device.state ≠ .cyclic)
  if wrongMode then
    pure (.wrongMode, .zero)
  else
    readMeasurementFrame transport .cyclic measurementFrameBytes

/-! ## Diagnostics -/

def word16 (response : List UInt8) : UInt16 :=
  ((response.getD 1 0).toUInt16 <<< 8) ||| (response.getD 2 0).toUInt16

/-- The verdict of a diagnostic answer. -/
def diagnosticStatus (deviceStatus : DeviceStatus) (raw : UInt16) : Status :=
  let status := faultStatus deviceStatus
  if status ≠ .ok then status
  else if raw &&& diagMemoryError ≠ 0 then .memoryError
  else if raw &&& diagMathSaturation ≠ 0 then .mathSaturation
  else if raw &&& diagFaultMask ≠ 0 then .connectionFault
  else .ok

def readDiagnostics (polls : ℕ) : Operation κ (Status × Diagnostics) := do
  let status ← requireNonCyclic transport
  if status ≠ .ok then
    pure (status, ⟨.zero, 0, false⟩)
  else
    let timeoutMs ← device fun device => device.config.diagnosticTimeoutMs
    let (status, response) ← executeCommand transport polls cmdCheckDiag none
      wordFrameBytes timeoutMs false
    if status ≠ .ok then
      pure (status, ⟨.zero, 0, false⟩)
    else
      let deviceStatus := decodeStatusByte (response.getD 0 0)
      let raw := word16 response
      pure (diagnosticStatus deviceStatus raw, ⟨deviceStatus, raw, true⟩)

/-- The commands that need no data, answer with the status byte and are not sent
in cyclic mode. -/
def statusCommand (polls : ℕ) (command : UInt8) (data : Option UInt16)
    (timeoutMs : Config → UInt32) : Operation κ Status := do
  let timeoutMs ← device fun device => timeoutMs device.config
  let (status, _) ← executeCommand transport polls command data statusFrameBytes
    timeoutMs false
  pure status

def resetDiagnostics (polls : ℕ) : Operation κ Status := do
  let status ← requireNonCyclic transport
  if status ≠ .ok then
    pure status
  else
    statusCommand transport polls cmdResetDiag none Config.diagnosticTimeoutMs

def updateDiagnostics (polls : ℕ) : Operation κ Status := do
  let status ← requireNonCyclic transport
  if status ≠ .ok then
    pure status
  else
    statusCommand transport polls cmdUpdateDiag none Config.diagnosticTimeoutMs

def setDacDiagnostic (polls : ℕ) (dacValue : UInt16) : Operation κ Status := do
  let status ← requireCommandMode transport
  if status ≠ .ok then
    pure status
  else
    statusCommand transport polls cmdDacDiag (some dacValue)
      Config.diagnosticTimeoutMs

def runSelfDiagnostic (polls : ℕ) (pseudoOffset : UInt8) :
    Operation κ (Status × Measurement) := do
  let status ← requireCommandMode transport
  if status ≠ .ok then
    pure (status, .zero)
  else
    let timeoutMs ← device fun device => device.config.diagnosticTimeoutMs
    let (status, response) ← executeCommand transport polls cmdSelfDiagMeasure
      (some pseudoOffset.toUInt16) rawFrameBytes timeoutMs false
    if status ≠ .ok then
      pure (status, .zero)
    else
      decodeMeasurement transport .selfDiagnostic response rawFrameBytes

/-! ## The nonvolatile memory -/

def readNvm (polls : ℕ) (address : UInt8) : Operation κ (Status × UInt16) := do
  if address > nvmReadMax then
    pure (.invalidArg, 0)
  else
    let status ← requireNonCyclic transport
    if status ≠ .ok then
      pure (status, 0)
    else
      let timeoutMs ← device fun device => device.config.nvmTimeoutMs
      let (status, response) ← executeCommand transport polls address none
        wordFrameBytes timeoutMs true
      if status ≠ .ok then
        pure (status, 0)
      else
        note (.wordRead address (word16 response))
        pure (.ok, word16 response)

/-- The words from `address` on, as many as `remaining`. -/
def dumpFrom (polls : ℕ) :
    ℕ → UInt8 → List UInt16 → Operation κ (Status × List UInt16)
  | 0, _, words => pure (.ok, words)
  | remaining + 1, address, words => do
      let (status, value) ← readNvm transport polls address
      if status ≠ .ok then
        pure (status, words)
      else
        dumpFrom polls remaining (address + 1) (words ++ [value])

def dumpNvm (polls : ℕ) (wordCount : ℕ) : Operation κ (Status × List UInt16) :=
  if wordCount < nvmWordCount then pure (.invalidArg, [])
  else dumpFrom transport polls nvmWordCount nvmReadMin []

def unlockNvmWrites (unlockKey : UInt32) : Operation κ Status := do
  let allowNvmWrite ← device fun device => device.config.allowNvmWrite
  if !allowNvmWrite then
    pure .nvmWriteDisabled
  else if unlockKey ≠ nvmUnlockKey then
    pure .invalidArg
  else
    setDevice fun device => { device with nvmWriteUnlocked := true }
    note .unlocked
    pure .ok

def lockNvmWrites : Operation κ PUnit := do
  setDevice fun device => { device with nvmWriteUnlocked := false }
  note .locked

/-- The read back of a word that was written. -/
def verifyWord (polls : ℕ) (address : UInt8) (value : UInt16) :
    Operation κ Status := do
  let verify ← device fun device => device.config.verifyNvmAfterWrite
  if !verify then
    pure .ok
  else
    let (status, readback) ← readNvm transport polls address
    if status ≠ .ok then
      pure status
    else if readback ≠ value then
      setDevice fun device =>
        { device with nvmVerifyFailureCount := device.nvmVerifyFailureCount + 1 }
      pure .nvmVerifyFailed
    else
      pure .ok

/-- The write of a word that differs. -/
def writeWord (polls : ℕ) (address : UInt8) (value : UInt16) :
    Operation κ Status := do
  let timeoutMs ← device fun device => device.config.nvmTimeoutMs
  let (status, _) ← executeCommand transport polls (cmdNvmWriteBase + address)
    (some value) statusFrameBytes timeoutMs true
  if status ≠ .ok then
    pure status
  else
    setDevice fun device => { device with nvmWriteCount := device.nvmWriteCount + 1 }
    verifyWord transport polls address value

/-- The lock bits of word `SSF1` forbid the write. -/
def lockStatus (address : UInt8) (current value : UInt16) : Status :=
  if address = nvmSsf1 ∧ current &&& nvmLockMask ≠ 0 then .nvmLocked
  else if address = nvmSsf1 ∧ value &&& nvmLockMask ≠ 0 then .nvmLockProtected
  else .ok

def writeNvm (polls : ℕ) (address : UInt8) (value : UInt16) :
    Operation κ Status := do
  let disabled ← device fun device =>
    !device.config.allowNvmWrite || !device.nvmWriteUnlocked
  if disabled then
    pure .nvmWriteDisabled
  else if address > nvmCustomWriteMax then
    pure .outOfRange
  else
    let (status, current) ← readNvm transport polls address
    if status ≠ .ok then
      pure status
    else if lockStatus address current value ≠ .ok then
      pure (lockStatus address current value)
    else if current = value then
      pure .ok
    else
      writeWord transport polls address value

def updateNvmChecksum (polls : ℕ) : Operation κ Status := do
  let disabled ← device fun device =>
    !device.config.allowNvmWrite || !device.nvmWriteUnlocked
  if disabled then
    pure .nvmWriteDisabled
  else
    let status ← requireNonCyclic transport
    if status ≠ .ok then
      pure status
    else
      statusCommand transport polls cmdCalculateNvmChecksum none Config.nvmTimeoutMs

/-- The words of a block, written from `address` on. -/
def writeWords (polls : ℕ) : UInt8 → List UInt16 → Operation κ Status
  | _, [] => pure .ok
  | address, value :: values => do
      let status ← writeNvm transport polls address value
      if status ≠ .ok then
        pure status
      else
        writeWords polls (address + 1) values

/-- The checksum and the diagnostics after the words of a block. -/
def finishBlock (polls : ℕ) : Operation κ Status := do
  let status ← updateNvmChecksum transport polls
  if status ≠ .ok then
    pure status
  else
    let status ← updateDiagnostics transport polls
    if status ≠ .ok then
      pure status
    else
      let (status, _) ← readDiagnostics transport polls
      pure status

def writeNvmBlock (polls : ℕ) (startAddress : UInt8) (values : List UInt16)
    (updateChecksum : Bool) : Operation κ Status := do
  if values.length = 0 ∨ startAddress > nvmCustomWriteMax ∨
      values.length > nvmCustomWriteMax.toNat - startAddress.toNat + 1 then
    pure .invalidArg
  else
    let status ← writeWords transport polls startAddress values
    if status ≠ .ok ∨ !updateChecksum then
      pure status
    else
      finishBlock transport polls

/-! ## Shadow registers -/

/-- `reg` is the command of the register. -/
def overwriteShadow (polls : ℕ) (reg : UInt8) (value : UInt16) :
    Operation κ Status := do
  if reg < cmdOverwriteSmConfig1 ∨ reg > cmdOverwriteSsf2 then
    pure .invalidArg
  else
    let status ← requireCommandMode transport
    if status ≠ .ok then
      pure status
    else
      statusCommand transport polls reg (some value) Config.measurementTimeoutMs

def setPostCalibrationOffset (polls : ℕ) (expectedOutput : UInt16) :
    Operation κ Status := do
  let status ← requireNonCyclic transport
  if status ≠ .ok then
    pure status
  else
    statusCommand transport polls cmdPostCalOffset (some expectedOutput)
      Config.measurementTimeoutMs

/-! ## Runs -/

/-- A call of the public interface, with its arguments. -/
inductive Call where
  | probe
  | reset
  | readStatus
  | enterCommandMode
  | enterSleepMode
  | startCyclicMode
  | stopCyclicMode
  | startMeasurement (type : MeasurementType)
  | process
  | onEocInterrupt
  | cancel
  | getLatestResult
  | measure
  | measureRawSensor
  | measureRawTemperature
  | measureOversampled (sampleCount : UInt8)
  | readCyclicResult
  | readDiagnostics
  | resetDiagnostics
  | updateDiagnostics
  | setDacDiagnostic (dacValue : UInt16)
  | runSelfDiagnostic (pseudoOffset : UInt8)
  | readNvm (address : UInt8)
  | dumpNvm (wordCount : ℕ)
  | unlockNvmWrites (unlockKey : UInt32)
  | lockNvmWrites
  | writeNvm (address : UInt8) (value : UInt16)
  | writeNvmBlock (startAddress : UInt8) (values : List UInt16)
      (updateChecksum : Bool)
  | updateNvmChecksum
  | overwriteShadow (reg : UInt8) (value : UInt16)
  | setPostCalibrationOffset (expectedOutput : UInt16)
  deriving DecidableEq, Repr

/-- The status that a call returns; where the interface returns none, `ok`. -/
def perform (polls : ℕ) : Call → Operation κ Status
  | .probe => probe transport
  | .reset => reset transport
  | .readStatus => do pure (← readStatus transport).1
  | .enterCommandMode => enterCommandMode transport polls
  | .enterSleepMode => enterSleepMode transport polls
  | .startCyclicMode => startCyclicMode transport polls
  | .stopCyclicMode => stopCyclicMode transport polls
  | .startMeasurement type => startMeasurement transport type
  | .process => process transport
  | .onEocInterrupt => do
      setDevice Device.onEocInterrupt
      pure .ok
  | .cancel => do
      cancel
      pure .ok
  | .getLatestResult => do pure (← getLatestResult).1
  | .measure => do pure (← measure transport polls).1
  | .measureRawSensor => do pure (← measureRawSensor transport polls).1
  | .measureRawTemperature => do pure (← measureRawTemperature transport polls).1
  | .measureOversampled sampleCount => do
      pure (← measureOversampled transport polls sampleCount).1
  | .readCyclicResult => do pure (← readCyclicResult transport).1
  | .readDiagnostics => do pure (← readDiagnostics transport polls).1
  | .resetDiagnostics => resetDiagnostics transport polls
  | .updateDiagnostics => updateDiagnostics transport polls
  | .setDacDiagnostic dacValue => setDacDiagnostic transport polls dacValue
  | .runSelfDiagnostic pseudoOffset => do
      pure (← runSelfDiagnostic transport polls pseudoOffset).1
  | .readNvm address => do pure (← readNvm transport polls address).1
  | .dumpNvm wordCount => do pure (← dumpNvm transport polls wordCount).1
  | .unlockNvmWrites unlockKey => unlockNvmWrites unlockKey
  | .lockNvmWrites => do
      lockNvmWrites
      pure .ok
  | .writeNvm address value => writeNvm transport polls address value
  | .writeNvmBlock startAddress values updateChecksum =>
      writeNvmBlock transport polls startAddress values updateChecksum
  | .updateNvmChecksum => updateNvmChecksum transport polls
  | .overwriteShadow reg value => overwriteShadow transport polls reg value
  | .setPostCalibrationOffset expectedOutput =>
      setPostCalibrationOffset transport polls expectedOutput

/-- A run of calls, each with the polls that it may make; a call that has not
ended by then is the last one. -/
def performAll : List (Call × ℕ) → Operation κ PUnit
  | [] => pure ⟨⟩
  | (call, polls) :: rest => do
      let _ ← perform transport polls call
      performAll rest

end Operations

end Swfpm.Zssc3241
