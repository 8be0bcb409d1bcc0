import Swfpm.Max35103.Events

/-!
# Public operations

Embedding of the control API and of the blocking diagnostics of `max35103.c`,
and the runs of the driver.  An operation that polls the clock takes a bound on
its iterations and has no answer where the bound is too small.  A result that
the source fills through a pointer is taken and returned.
-/

namespace Swfpm.Max35103

open Swfpm.AutoCal (Max35103Status Max35103Profile validateProfile
  configuredHitCount)

variable {κ : Type*} (platform : Platform κ)

/-! ## Polling -/

/-- A wait that ran out of time. -/
def pollTimeout (world : World κ) : World κ :=
  world.set { world.driver with
    timeoutCount := world.driver.timeoutCount + 1
    errorCount := world.driver.errorCount + 1
    state := .timeout }

/-- Reading `INT_STATUS` until a verdict on it ends the operation, a transfer
fails or the time is over. -/
def pollStatus {α : Type*} (verdict : UInt16 → World κ → Option (α × World κ))
    (failure : Max35103Status → α) (startMs timeoutMs : UInt32) :
    ℕ → World κ → Option (α × World κ)
  | 0, _ => none
  | fuel + 1, world =>
      let (nowMs, world) := getTick platform world
      if nowMs - startMs ≥ timeoutMs then
        some (failure .timeout, pollTimeout world)
      else
        let (status, world) := spiReadReg platform regIntStatus world
        match status with
        | none => some (failure .spiError, enterError platform world)
        | some status =>
            match verdict status world with
            | some answer => some answer
            | none =>
                pollStatus verdict failure startMs timeoutMs fuel
                  (delay platform 1 world)

/-- An operation that ends in the error state. -/
def failWith (status : Max35103Status) (world : World κ) :
    Option (Max35103Status × World κ) :=
  some (status, enterError platform world)

/-! ## Reset -/

/-- What a reset takes from the driver before it touches the pin. -/
def Driver.resetFields (driver : Driver) : Driver :=
  { driver.invalidateProfile.clearResultQueues with
    generation := driver.generation + 1
    state := .arming
    deviceReady := false
    eventTimingActive := false
    expectedEventFlags := 0
    seenEventFlags := 0
    irqRecheckPending := false }

def beginReset (world : World κ) : World κ :=
  clearOperation platform (world.set world.driver.resetFields)

def initVerdict (status : UInt16) (world : World κ) :
    Option (Max35103Status × World κ) :=
  if status ≠ 0xFFFF ∧ status &&& intInitComplete ≠ 0 then
    some (.ok, clearOperation platform (world.set { world.driver with
      deviceReady := true
      state := .idle }))
  else none

/-- From the first status read of a reset to its end. -/
def confirmReset (fuel : ℕ) (world : World κ) :
    Option (Max35103Status × World κ) :=
  let (status, world) := spiReadReg platform regIntStatus world
  match status with
  | none => failWith platform .spiError world
  | some status =>
      if status = 0xFFFF ∨ status &&& intPor = 0 then
        failWith platform .deviceError world
      else
        let (sent, world) := spiCommand platform cmdInit world
        if sent ≠ .ok then failWith platform .spiError world
        else
          let timeoutMs := world.driver.initTimeout
          let (startMs, world) := getTick platform world
          pollStatus platform (initVerdict platform) id startMs timeoutMs fuel
            (delay platform initSettleMs world)

/-- The reset pin, by the hook of the platform. -/
def drivePin (setReset : κ → Bool → TransportStatus × κ) (asserted : Bool)
    (world : World κ) : TransportStatus × World κ :=
  let answer := setReset world.context asserted
  (answer.1, { world with context := answer.2 })

def resetDevice (fuel : ℕ) (world : World κ) :
    Option (Max35103Status × World κ) :=
  if world.driver.state = .uninit then some (.notReady, world)
  else
    let world := beginReset platform world
    match platform.setReset with
    | none => failWith platform .notReady world
    | some setReset =>
        let (asserted, world) := drivePin setReset true world
        if asserted ≠ .ok then failWith platform .spiError world
        else
          let (released, world) :=
            drivePin setReset false (delay platform resetPulseMs world)
          if released ≠ .ok then failWith platform .spiError world
          else confirmReset platform fuel (delay platform resetReadyMs world)

/-! ## Configuration -/

/-- The registers of a profile, in the order of their writes. -/
def configEntries (profile : Max35103Profile) : List (UInt8 × UInt16) :=
  [(regTof1, profile.tof1), (regTof2, profile.tof2), (regTof3, profile.tof3),
    (regTof4, profile.tof4), (regTof5, profile.tof5), (regTof6, profile.tof6),
    (regTof7, profile.tof7), (regEvtTiming1, profile.eventTiming1),
    (regEvtTiming2, profile.eventTiming2),
    (regTofMeasDelay, profile.tofMeasurementDelay),
    (regCalCtrl, profile.calibrationControl)]

/-- The state in which an operation may take the device. -/
def Driver.available (driver : Driver) : Bool :=
  driver.state = .idle && !driver.eventTimingActive && !driver.spiPending

/-- Each entry is written and read back. -/
def writeEntries : List (UInt8 × UInt16) → World κ → Max35103Status × World κ
  | [], world => (.ok, world)
  | (writeOpcode, value) :: rest, world =>
      let (written, world) := spiWriteReg platform writeOpcode value world
      if written ≠ .ok then (.spiError, enterError platform world)
      else
        let (readback, world) :=
          spiReadReg platform (readbackOpcode writeOpcode) world
        match readback with
        | none => (.spiError, enterError platform world)
        | some readback =>
            if readback ≠ value then (.configError, enterError platform world)
            else writeEntries rest world

def configure (profile : Max35103Profile) (world : World κ) :
    Max35103Status × World κ :=
  if validateProfile profile ≠ .ok then (validateProfile profile, world)
  else if world.driver.deviceReady = false then (.notReady, world)
  else if world.driver.available = false then (.busy, world)
  else
    let (status, world) := writeEntries platform (configEntries profile)
      (world.set world.driver.invalidateProfile)
    if status ≠ .ok then (status, world)
    else
      (.ok, world.set { world.driver with
        activeProfile := profile
        configured := true
        profileSynchronized := true })

/-- A profile register that would leave an invalid profile. -/
def Driver.refusesWrite (driver : Driver) (writeOpcode : UInt8)
    (value : UInt16) : Bool :=
  driver.isProfileSynchronized &&
    match updateProfileRegister driver.activeProfile writeOpcode value with
    | some candidate => validateProfile candidate ≠ .ok
    | none => false

/-- After a write whose effect is not known. -/
def Driver.afterWrite (driver : Driver) (writeOpcode : UInt8) : Driver :=
  if isConfigurationWrite writeOpcode then driver.invalidateProfile else driver

/-- The checks that both register writes make, in their order. -/
def Driver.writeGuard (driver : Driver) (writeOpcode : UInt8) (value : UInt16) :
    Max35103Status :=
  if isWriteOpcode writeOpcode = false then .invalidArg
  else if driver.deviceReady = false then .notReady
  else if driver.available = false then .busy
  else if directPlStopValid writeOpcode value = false then .configError
  else if driver.refusesWrite writeOpcode value then .configError
  else .ok

def writeReg (writeOpcode : UInt8) (value : UInt16) (world : World κ) :
    Max35103Status × World κ :=
  let check := world.driver.writeGuard writeOpcode value
  if check ≠ .ok then (check, world)
  else
    let (written, world) := spiWriteReg platform writeOpcode value world
    (if written = .ok then .ok else .spiError,
      world.set (world.driver.afterWrite writeOpcode))

/-- What an exact readback proves: a synchronized profile keeps its register,
and any other configuration write ends the synchronization. -/
def Driver.afterReadback (driver : Driver) (candidate : Option Max35103Profile)
    (writeOpcode : UInt8) : Driver :=
  if isConfigurationWrite writeOpcode then
    match candidate with
    | some candidate =>
        { driver with
          activeProfile := candidate
          configured := true
          profileSynchronized := true }
    | none => driver.invalidateProfile
  else driver

def writeVerifyReg (writeOpcode : UInt8) (value : UInt16) (world : World κ) :
    Max35103Status × World κ :=
  let check := world.driver.writeGuard writeOpcode value
  if check ≠ .ok then (check, world)
  else
    let candidate := world.driver.synchronizedProfile.bind fun profile ↦
      updateProfileRegister profile writeOpcode value
    let (written, world) := spiWriteReg platform writeOpcode value world
    if written ≠ .ok then
      (.spiError, world.set (world.driver.afterWrite writeOpcode))
    else
      let (readback, world) :=
        spiReadReg platform (readbackOpcode writeOpcode) world
      if readback = some value then
        (.ok, world.set (world.driver.afterReadback candidate writeOpcode))
      else
        (if readback = none then .spiError else .configError,
          world.set (world.driver.afterWrite writeOpcode))

/-! ## Event timing -/

def startEventTiming (world : World κ) : Max35103Status × World κ :=
  match world.driver.synchronizedProfile with
  | none => (.notReady, world)
  | some profile =>
      if world.driver.deviceReady = false then (.notReady, world)
      else if world.driver.available = false then (.busy, world)
      else if isExecutionOpcode profile.eventModeCmd = false then
        (.configError, world)
      else if profile.calibrationControl &&& calCtrlIntEn = 0 then
        (.configError, world)
      else
        let (sent, world) := spiCommand platform profile.eventModeCmd world
        if sent ≠ .ok then (.spiError, enterError platform world)
        else
          let world := clearOperation platform world
          let driver := world.driver
          (.ok, (world.set { driver with
            eventTimingActive := true
            expectedEventFlags := driver.modeEventFlags
            seenEventFlags := 0
            irqRecheckPending := false
            pendingIrqTimestampUs := 0
            state := .eventRunning }).note (.started driver.modeEventFlags))

/-- The fields of an event that a halt clears. -/
def Driver.clearEventFlags (driver : Driver) : Driver :=
  { driver with
    expectedEventFlags := 0
    seenEventFlags := 0
    irqRecheckPending := false }

def haltVerdict (status : UInt16) (world : World κ) :
    Option (Max35103Status × World κ) :=
  if status ≠ 0xFFFF ∧ status &&& intHaltComplete ≠ 0 then
    some (.ok, clearOperation platform
      (world.set { world.driver.clearEventFlags with
        eventTimingActive := false
        state := .idle }))
  else if status &&& intPor ≠ 0 then
    failWith platform .deviceError (world.set world.driver.loseDevice)
  else none

def halt (fuel : ℕ) (world : World κ) : Option (Max35103Status × World κ) :=
  if world.driver.deviceReady = false then some (.notReady, world)
  else if world.driver.eventTimingActive = false then
    let driver := world.driver.clearEventFlags
    some (.ok, world.set
      { driver with state := if driver.state ≠ .error then .idle else .error })
  else
    let world := cancelPendingSpi platform (world.set { world.driver with
      generation := world.driver.generation + 1 })
    let world := world.set { world.driver with
      deadlineUs := 0
      state := .halting }
    let (sent, world) := spiCommand platform cmdHalt world
    if sent ≠ .ok then failWith platform .spiError world
    else
      let timeoutMs := world.driver.haltTimeout
      let (startMs, world) := getTick platform world
      pollStatus platform (haltVerdict platform) id startMs timeoutMs fuel world

/-! ## Direct measurements -/

/-- The decoded result bank; `none` where the transfer failed. -/
def readTofWordsBlocking (status : UInt16) (timestampUs : UInt64)
    (useAverage : Bool) (world : World κ) : Option RawResult × World κ :=
  let (bank, world) :=
    spiReadBlockData platform regWvrup tofResultBankWords world
  (bank.map fun bank ↦ decodeTofBank bank status timestampUs useAverage, world)

/-- The decoded temperature words; `none` where the transfer failed. -/
def readTemperatureWordsBlocking (status : UInt16) (timestampUs : UInt64)
    (averaged : Bool) (world : World κ) :
    Option TemperatureResult × World κ :=
  let (block, world) :=
    if averaged then
      spiReadBlockData platform regTempCycleCount tempAvgBlockWords world
    else spiReadBlockData platform regT1Int tempResultWords world
  let driver := world.driver
  (block.map fun block ↦
    decodeTemperatureFrame platform.platinumRtdToMilliCelsius
      driver.synchronizedProfile driver.selectedTemperaturePorts
      (if averaged then (block.drop 2).take tempResultFrameBytes else block)
      status timestampUs averaged (if averaged then wordAt block 0 else 0),
    world)

/-- The status that a decoded result stands for. -/
def decodeStatus (valid : Bool) : Max35103Status :=
  if valid then .ok else .deviceError

/-- An operation that gives the device back. -/
def finishOperation (world : World κ) : World κ :=
  clearOperation platform (world.set { world.driver with state := .idle })

/-- The device is gone, outside event timing. -/
def Driver.loseReady (driver : Driver) : Driver :=
  { driver.invalidateProfile with deviceReady := false }

def selfCheckVerdict (status : UInt16) (world : World κ) :
    Option (Max35103Status × World κ) :=
  if status = 0xFFFF then
    failWith platform .deviceError (world.set world.driver.loseReady)
  else if status &&& intTofComplete ≠ 0 then
    let (result, world) := readTofWordsBlocking platform status 0 false world
    match result with
    | none => failWith platform .spiError world
    | some result =>
        some (decodeStatus result.valid,
          finishOperation platform (publishResult result world))
  else if status &&& (intTimeout ||| intPor) ≠ 0 then
    let world := publishStatusOnly status 0 world
    failWith platform .deviceError
      (if status &&& intPor ≠ 0 then world.set world.driver.loseReady else world)
  else none

def selfCheck (fuel : ℕ) (world : World κ) :
    Option (Max35103Status × World κ) :=
  if world.driver.deviceReady = false ∨ world.driver.configured = false then
    some (.notReady, world)
  else if world.driver.available = false then some (.busy, world)
  else
    let (sent, world) := spiCommand platform cmdTofDiff
      (world.set { world.driver with state := .selfCheck })
    if sent ≠ .ok then failWith platform .spiError world
    else
      let timeoutMs := world.driver.resultTimeout
      let (startMs, world) := getTick platform world
      pollStatus platform (selfCheckVerdict platform) id startMs timeoutMs fuel
        world

/-- The end of a temperature read, for a status that reports an outcome. -/
def temperatureOutcome (sequence : UInt32) (status : UInt16)
    (report : Bool → Max35103Status) (world : World κ) :
    (Max35103Status × TemperatureResult) × World κ :=
  let (result, world) :=
    readTemperatureWordsBlocking platform status 0 false world
  let record := { result.getD .zero with sequenceNumber := sequence }
  match result with
  | none => ((.spiError, record), enterError platform world)
  | some result =>
      ((report result.valid, record), finishOperation platform world)

def temperatureVerdict (sequence : UInt32) (status : UInt16) (world : World κ) :
    Option ((Max35103Status × TemperatureResult) × World κ) :=
  if status = 0xFFFF then
    some ((.deviceError, .zero), enterError platform world)
  else if status &&& intTempComplete ≠ 0 then
    some (temperatureOutcome platform sequence status decodeStatus world)
  else if status &&& intPor ≠ 0 then
    some ((.deviceError,
      { TemperatureResult.zero with
        statusFlags := status
        sequenceNumber := sequence
        selectedPortMask := world.driver.selectedTemperaturePorts }),
      enterError platform (world.set world.driver.loseReady))
  else if status &&& intTimeout ≠ 0 then
    some (temperatureOutcome platform sequence status (fun _ ↦ .deviceError)
      world)
  else none

def measureTemperature (fuel : ℕ) (result : TemperatureResult)
    (world : World κ) :
    Option ((Max35103Status × TemperatureResult) × World κ) :=
  if world.driver.deviceReady = false ∨
      world.driver.isProfileSynchronized = false then
    some ((.notReady, result), world)
  else if world.driver.available = false then some ((.busy, result), world)
  else
    let (sequence, driver) := world.driver.allocateSequence
    let (sent, world) := spiCommand platform cmdTemperature
      (world.set { driver with state := .tempMeasuring })
    if sent ≠ .ok then some ((.spiError, .zero), enterError platform world)
    else
      let timeoutMs := world.driver.resultTimeout
      let (startMs, world) := getTick platform world
      pollStatus platform (temperatureVerdict platform sequence) (·, .zero)
        startMs timeoutMs fuel world

/-! ## Blocking diagnostics -/

/-- A diagnostic read would disturb a deferred one. -/
def Driver.deferred (driver : Driver) : Bool :=
  driver.spiPending || driver.draining

def readReg (readOpcode : UInt8) (value : UInt16) (world : World κ) :
    (Max35103Status × UInt16) × World κ :=
  if isReadOpcode readOpcode = false then ((.invalidArg, value), world)
  else if world.driver.deviceReady = false then ((.notReady, value), world)
  else if world.driver.deferred then ((.busy, value), world)
  else if readOpcode = regIntStatus ∧ world.driver.intStatusOwned = true then
    ((.busy, value), world)
  else
    let (word, world) := spiReadReg platform readOpcode world
    match word with
    | some word => ((.ok, word), world)
    | none => ((.spiError, value), world)

/-- The words of a block, or none where the block is not read. -/
def readBlock (startReadOpcode wordCount : UInt8) (world : World κ) :
    (Max35103Status × List UInt16) × World κ :=
  if blockRangeValid startReadOpcode wordCount = false then
    ((.invalidArg, []), world)
  else if world.driver.deviceReady = false then ((.notReady, []), world)
  else if world.driver.deferred then ((.busy, []), world)
  else if world.driver.intStatusOwned = true ∧ startReadOpcode ≠ regControl ∧
      startReadOpcode.toNat + wordCount.toNat - 1 ≥ regIntStatus.toNat then
    ((.busy, []), world)
  else
    let (data, world) :=
      spiReadBlockData platform startReadOpcode wordCount world
    match data with
    | some data =>
        ((.ok, (List.range wordCount.toNat).map fun index ↦
          wordAt data (index * 2)), world)
    | none => ((.spiError, []), world)

def readResult (result : RawResult) (world : World κ) :
    (Max35103Status × RawResult) × World κ :=
  if world.driver.deviceReady = false then ((.notReady, result), world)
  else if world.driver.available = false then ((.busy, result), world)
  else
    let (status, world) := spiReadReg platform regIntStatus world
    match status with
    | none => ((.spiError, result), world)
    | some status =>
        if status = 0xFFFF then ((.deviceError, result), world)
        else if status &&& tofReady = 0 then
          if status &&& (intTimeout ||| intPor) ≠ 0 then
            let (sequence, driver) := world.driver.allocateSequence
            ((.deviceError,
              { RawResult.zero with
                statusFlags := status
                sequenceNumber := sequence }), world.set driver)
          else ((.noResult, result), world)
        else
          let (read, world) := readTofWordsBlocking platform status 0
            (status &&& intTofEvtmg ≠ 0) world
          let (sequence, driver) := world.driver.allocateSequence
          ((read.elim .spiError fun decoded ↦ decodeStatus decoded.valid,
            { read.getD result with sequenceNumber := sequence }),
            world.set driver)

def readWaveEvidence (evidence : WaveEvidence) (world : World κ) :
    (Max35103Status × WaveEvidence) × World κ :=
  match world.driver.synchronizedProfile with
  | none => ((.notReady, evidence), world)
  | some profile =>
      if world.driver.deviceReady = false then ((.notReady, evidence), world)
      else if world.driver.isBusy = true ∨
          world.driver.eventTimingActive = true then
        ((.busy, evidence), world)
      else
        let hitCount := configuredHitCount profile
        let empty := { WaveEvidence.zero with configuredHitCount := hitCount }
        if hitCount = 0 then ((.configError, empty), world)
        else
          let (bank, world) :=
            spiReadBlockData platform regWvrup tofResultBankWords world
          match bank with
          | none => ((.spiError, empty), world)
          | some bank =>
              let evidence := waveEvidence bank hitCount
              ((decodeStatus evidence.valid, evidence), world)

def probe (world : World κ) : Bool × World κ :=
  if world.driver.deviceReady = false ∨ world.driver.isBusy = true then
    (false, world)
  else
    let (tof1, world) := spiReadReg platform readTof1 world
    match tof1 with
    | none => (false, world)
    | some tof1 =>
        let (control, world) := spiReadReg platform readCalCtrl world
        (control.elim false fun control ↦
          tof1 ≠ 0x0000 && tof1 ≠ 0xFFFF && control ≠ 0xFFFF &&
            tof1 &&& 0x0004 = 0 && control &&& 0xF000 = 0, world)

/-! ## Runs -/

/-- The calls of the driver's API, and the bytes that its platform receives; a
number bounds the iterations of a wait. -/
inductive Op where
  | resetDevice (fuel : ℕ)
  | configure (profile : Max35103Profile)
  | startEventTiming
  | halt (fuel : ℕ)
  | selfCheck (fuel : ℕ)
  | measureTemperature (fuel : ℕ) (result : TemperatureResult)
  | cancel
  | onInt (nowUs : UInt64)
  | startPendingSpiAsync
  | onSpiDone (token : UInt32) (transferOk : Bool)
  | executeSpi
  | process (nowUs : UInt64)
  | onTimeout
  | readReg (readOpcode : UInt8) (value : UInt16)
  | readBlock (startReadOpcode wordCount : UInt8)
  | writeReg (writeOpcode : UInt8) (value : UInt16)
  | writeVerifyReg (writeOpcode : UInt8) (value : UInt16)
  | readResult (result : RawResult)
  | readWaveEvidence (evidence : WaveEvidence)
  | probe
  | resultPop
  | temperatureResultPop
  | setQueueOverflowPolicy (policy : QueueOverflowPolicy)
  | clearResultQueues
  | receive (rx : List UInt8)
  deriving DecidableEq, Repr

/-- What a call leaves; `none` where a wait needs more iterations. -/
def step (world : World κ) : Op → Option (World κ)
  | .resetDevice fuel => (resetDevice platform fuel world).map Prod.snd
  | .configure profile => some (configure platform profile world).2
  | .startEventTiming => some (startEventTiming platform world).2
  | .halt fuel => (halt platform fuel world).map Prod.snd
  | .selfCheck fuel => (selfCheck platform fuel world).map Prod.snd
  | .measureTemperature fuel result =>
      (measureTemperature platform fuel result world).map Prod.snd
  | .cancel => some (cancel platform world)
  | .onInt nowUs => some (onInt platform nowUs world)
  | .startPendingSpiAsync => some (startPendingSpiAsync platform world).2
  | .onSpiDone token transferOk =>
      some (onSpiDone platform token transferOk world)
  | .executeSpi => some (executeSpi platform world).2
  | .process nowUs => some (process platform nowUs world).2
  | .onTimeout => some (onTimeout platform world)
  | .readReg readOpcode value => some (readReg platform readOpcode value world).2
  | .readBlock startReadOpcode wordCount =>
      some (readBlock platform startReadOpcode wordCount world).2
  | .writeReg writeOpcode value =>
      some (writeReg platform writeOpcode value world).2
  | .writeVerifyReg writeOpcode value =>
      some (writeVerifyReg platform writeOpcode value world).2
  | .readResult result => some (readResult platform result world).2
  | .readWaveEvidence evidence =>
      some (readWaveEvidence platform evidence world).2
  | .probe => some (probe platform world).2
  | .resultPop => some (world.set world.driver.resultPop.2)
  | .temperatureResultPop => some (world.set world.driver.temperatureResultPop.2)
  | .setQueueOverflowPolicy policy =>
      some (world.set { world.driver with queueOverflowPolicy := policy })
  | .clearResultQueues => some (world.set world.driver.clearResultQueues)
  | .receive rx => some (receive rx world)

/-- The worlds between the calls of a run from `MAX35103_Init`. -/
inductive Reachable : World κ → Prop
  | init (context : κ) : Reachable (World.init context)
  | step {world next : World κ} (op : Op) (reached : Reachable world)
      (stepped : Max35103.step platform world op = some next) : Reachable next

end Swfpm.Max35103
