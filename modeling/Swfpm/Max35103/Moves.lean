import Swfpm.Max35103.Control

/-!
# What the driver's code can do

Every operation is a sequence of moves: a change of fields that own nothing, a
blocking frame, a step in the life of the staged request, or a call of a hook.
A policy says which frames and changes the moves may make; what is proved of
every move then holds of every operation.
-/

namespace Swfpm.Max35103

open Swfpm.AutoCal (Max35103Status Max35103Profile validateProfile)

/-! ## What moves keep -/

/-- The fields of the staged request and of the bus. -/
structure Request where
  locked : Bool
  asyncActive : Bool
  pending : Bool
  token : UInt32
  nextToken : UInt32
  length : UInt16
  txBuf : List UInt8

/-- The fields of the profile shadow. -/
structure Shadow where
  profile : Max35103Profile
  configured : Bool
  synchronized : Bool

namespace Driver

variable (driver : Driver)

def request : Request :=
  { locked := driver.spiBusLocked
    asyncActive := driver.spiAsyncActive
    pending := driver.spiPending
    token := driver.spiToken
    nextToken := driver.nextSpiToken
    length := driver.spiLength
    txBuf := driver.txBuf }

def shadow : Shadow :=
  { profile := driver.activeProfile
    configured := driver.configured
    synchronized := driver.profileSynchronized }

end Driver

/-- The events that moves other than those of the bus may record. -/
def Event.plain : Event → Bool
  | .statusRead .. | .tofHanded _ | .temperatureHanded _ | .started _
  | .eventComplete _ | .timedOut | .cancelled => true
  | _ => false

/-! ## Frames -/

/-- The first byte writes a configuration register. -/
def writesConfiguration (tx : List UInt8) : Bool :=
  tx.head?.any isConfigurationWrite

/-- The registers that a frame reads include `INT_STATUS`. -/
def coversIntStatus (tx : List UInt8) : Bool :=
  tx.head?.any fun opcode ↦
    opcode ≤ regIntStatus &&
      regIntStatus.toNat < opcode.toNat + (tx.length - 1) / 2

/-- Whether moves may write the device's configuration, and whether they may poll
`INT_STATUS` for a halt. -/
structure Policy where
  writes : Bool
  halting : Bool

variable {κ : Type*}

/-- A frame is one that the policy allows. -/
def Policy.Permits (policy : Policy) (world : World κ) (token : Option UInt32)
    (tx : List UInt8) : Prop :=
  (policy.writes = false → writesConfiguration tx = false) ∧
    (policy.halting = false → world.driver.eventTimingActive = true →
      coversIntStatus tx = true →
      ∃ staged, token = some staged ∧ .drain staged ∈ world.trace)

/-- A change of the driver that does not touch the request, and the shadow only
as the policy allows. -/
structure Policy.Keeps (policy : Policy) (before after : Driver) : Prop where
  request : after.request = before.request
  shadow : policy.writes = false →
    after.shadow = before.shadow ∨ after.isProfileSynchronized = false

/-! ## Moves -/

variable (platform : Platform κ) (policy : Policy)

inductive Move : World κ → World κ → Prop
  | adjust {world : World κ} {driver : Driver}
      (keeps : policy.Keeps world.driver driver) : Move world (world.set driver)
  | note {world : World κ} {event : Event} (plain : event.plain = true) :
      Move world (world.note event)
  | tick (world : World κ) : Move world (getTick platform world).2
  | wait (delayMs : UInt32) (world : World κ) :
      Move world (delay platform delayMs world)
  | pin {world : World κ} {setReset : κ → Bool → TransportStatus × κ}
      (hook : platform.setReset = some setReset) (asserted : Bool)
      (invalid : world.driver.isProfileSynchronized = false) :
      Move world (drivePin setReset asserted world).2
  | transfer {world : World κ} {token : Option UInt32} {tx : List UInt8}
      (permits : policy.Permits world token tx) :
      Move world (spiXfer platform token tx world).2
  | buffers {world : World κ} (tx rx : List UInt8)
      (free : world.driver.spiPending = false) :
      Move world (writeBuffers tx rx world)
  | stage {world : World κ} {frame : List UInt8}
      (free : world.driver.spiPending = false)
      (short : frame.length ≤ maxSpiFrameBytes)
      (reads : writesConfiguration frame = false)
      (spares : coversIntStatus frame = false) :
      Move world (stageRequest frame world)
  | drain {world : World κ} (free : world.driver.spiPending = false) :
      Move world ((stageRequest [regIntStatus, 0, 0] world).note
        (.drain (stageRequest [regIntStatus, 0, 0] world).driver.spiToken))
  | complete {world : World κ} (pending : world.driver.spiPending = true) :
      Move world (completeRequest platform world)
  | abandon (world : World κ) : Move world (cancelPendingSpi platform world)
  | refused {world : World κ} (busy : (busAcquire platform world).1 ≠ .ok) :
      Move world (busAcquire platform world).2
  | launch {world : World κ} {hooks : AsyncHooks κ}
      (hook : platform.async = some hooks)
      (pending : world.driver.spiPending = true)
      (acquired : (busAcquire platform world).1 = .ok)
      (permits : policy.Permits world (some world.driver.spiToken)
        world.driver.pendingFrame) :
      Move world (Max35103.launch hooks (busAcquire platform world).2).2
  | disown (world : World κ) : Move world (disownTransfer platform world)

/-- Any number of moves. -/
abbrev Moves : World κ → World κ → Prop :=
  Relation.ReflTransGen (Move platform policy)

/-! ## Drivers after a frame -/

/-- A driver that a frame leaves, apart from a count of refused locks. -/
def Calm (before after : Driver) : Prop :=
  ∃ failures, after = { before with busLockFailureCount := failures }

theorem Calm.refl (driver : Driver) : Calm driver driver :=
  ⟨driver.busLockFailureCount, rfl⟩

theorem Calm.trans {first second third : Driver} (earlier : Calm first second)
    (later : Calm second third) : Calm first third := by
  obtain ⟨m, rfl⟩ := earlier
  obtain ⟨n, rfl⟩ := later
  exact ⟨n, rfl⟩

theorem Calm.request {before after : Driver} (calm : Calm before after) :
    after.request = before.request := by
  obtain ⟨failures, rfl⟩ := calm
  rfl

theorem Calm.shadow {before after : Driver} (calm : Calm before after) :
    after.shadow = before.shadow := by
  obtain ⟨failures, rfl⟩ := calm
  rfl

variable {platform} {world : World κ}

theorem busAcquire_refused
    (busy : (busAcquire platform world).1 ≠ .ok) :
    Calm world.driver (busAcquire platform world).2.driver := by
  unfold busAcquire at busy ⊢
  split at busy <;> rename_i locked
  · rw [if_pos locked]
    exact .refl _
  · rw [if_neg locked]
    cases sharing : platform.sharing with
    | none => simp [sharing] at busy
    | some hooks =>
        by_cases answered : (hooks.lock world.context spiTimeoutMs).1 = .ok
        · simp [sharing, answered] at busy
        · simp only [ne_eq, answered, not_false_eq_true, if_true]
          exact ⟨_, rfl⟩

theorem busAcquire_ok (acquired : (busAcquire platform world).1 = .ok) :
    world.driver.spiBusLocked = false ∧
      (busAcquire platform world).2.driver =
        { world.driver with spiBusLocked := true } := by
  unfold busAcquire at acquired ⊢
  split at acquired <;> rename_i locked
  · cases acquired
  · rw [if_neg locked]
    refine ⟨by simpa using locked, ?_⟩
    cases sharing : platform.sharing with
    | none => rfl
    | some hooks =>
        by_cases answered : (hooks.lock world.context spiTimeoutMs).1 = .ok
        · simp [answered]
        · simp [sharing, answered] at acquired

@[simp] theorem busRelease_driver :
    (busRelease platform world).driver =
      { world.driver with spiBusLocked := false } := by
  unfold busRelease
  split <;> rename_i locked
  · cases platform.sharing <;> rfl
  · have free : world.driver.spiBusLocked = false := by simpa using locked
    rw [← free]

variable (platform world) in
theorem spiXfer_driver (token : Option UInt32) (tx : List UInt8) :
    Calm world.driver (spiXfer platform token tx world).2.driver := by
  unfold spiXfer
  by_cases acquired : (busAcquire platform world).1 = .ok
  · obtain ⟨free, driver_eq⟩ := busAcquire_ok acquired
    simp only [acquired, ne_eq, not_true_eq_false, if_false, busRelease_driver,
      World.note_driver, driver_eq]
    exact ⟨_, by rw [← free]⟩
  · simp only [ne_eq, acquired, not_false_eq_true, if_true]
    exact busAcquire_refused acquired

/-- A driver whose request is withdrawn, apart from the counts of the platform's
answers. -/
def Driver.withdrawn (driver : Driver) (cancels errors : UInt32) : Driver :=
  { driver.clearPendingSpi with
    dmaCancelCount := cancels
    dmaErrorCount := errors
    spiAsyncActive := false
    spiBusLocked := driver.spiBusLocked && !driver.spiAsyncActive }

@[simp] theorem disownTransfer_driver :
    (disownTransfer platform world).driver =
      { world.driver with
        spiAsyncActive := false
        spiBusLocked := false } :=
  busRelease_driver

variable (platform world) in
theorem cancelTransfer_driver :
    ∃ cancels errors, (cancelTransfer platform world).driver =
      { world.driver with dmaCancelCount := cancels, dmaErrorCount := errors } := by
  unfold cancelTransfer
  cases platform.async with
  | none => exact ⟨_, _, rfl⟩
  | some hooks =>
      dsimp only
      split
      · exact ⟨_, _, rfl⟩
      · exact ⟨_, _, rfl⟩

variable (platform world) in
theorem cancelPendingSpi_driver :
    ∃ cancels errors, (cancelPendingSpi platform world).driver =
      world.driver.withdrawn cancels errors := by
  unfold cancelPendingSpi Driver.withdrawn
  by_cases active : world.driver.spiAsyncActive = true
  · obtain ⟨cancels, errors, cancelled⟩ := cancelTransfer_driver platform world
    refine ⟨cancels, errors, ?_⟩
    simp only [active, if_true, disownTransfer_driver, World.set_driver, cancelled,
      Bool.not_true, Bool.and_false]
    rfl
  · refine ⟨world.driver.dmaCancelCount, world.driver.dmaErrorCount, ?_⟩
    have idle : world.driver.spiAsyncActive = false := by simpa using active
    simp only [idle, Bool.false_eq_true, if_false, World.set_driver,
      Driver.clearPendingSpi, Bool.not_false, Bool.and_true]

/-- A driver whose request is over. -/
theorem completeRequest_driver :
    (completeRequest platform world).driver =
      { world.driver.clearPendingSpi with
        spiAsyncActive := false
        spiBusLocked := world.driver.spiBusLocked && !world.driver.spiAsyncActive
        spiDoneCount := world.driver.spiDoneCount + 1 } := by
  unfold completeRequest
  by_cases active : world.driver.spiAsyncActive = true
  · simp only [active, if_true, disownTransfer_driver, World.note_driver,
      World.set_driver, Bool.not_true, Bool.and_false]
    rfl
  · have idle : world.driver.spiAsyncActive = false := by simpa using active
    simp only [active, Bool.false_eq_true, if_false, World.note_driver,
      World.set_driver, Driver.clearPendingSpi, Bool.not_false, Bool.and_true]

variable (platform world) in
theorem clearOperation_driver :
    ∃ cancels errors, (clearOperation platform world).driver =
      world.driver.clearOperation.withdrawn cancels errors :=
  cancelPendingSpi_driver platform _

/-- What an error leaves of a driver. -/
def Driver.failed (driver : Driver) (cancels errors : UInt32) : Driver :=
  let driver :=
    { driver with
      errorCount := driver.errorCount + 1
      state := .error
      generation := driver.generation + 1 }
  (driver.withdrawn cancels errors).clearDeadline.clearEventSequence

variable (platform world) in
theorem enterError_driver :
    ∃ cancels errors, (enterError platform world).driver =
      world.driver.failed cancels errors := by
  obtain ⟨cancels, errors, cancelled⟩ := cancelPendingSpi_driver platform
    (world.set { world.driver with
      errorCount := world.driver.errorCount + 1
      state := .error
      generation := world.driver.generation + 1 })
  refine ⟨cancels, errors, ?_⟩
  unfold enterError
  rw [World.set_driver, cancelled]
  rfl

variable (platform world) in
theorem spiCommand_calm (opcode : UInt8) :
    Calm world.driver (spiCommand platform opcode world).2.driver :=
  spiXfer_driver platform world _ _

variable (platform world) in
theorem spiReadReg_calm (readOpcode : UInt8) :
    Calm world.driver (spiReadReg platform readOpcode world).2.driver :=
  spiXfer_driver platform world _ _

variable (platform world) in
theorem spiWriteReg_calm (writeOpcode : UInt8) (value : UInt16) :
    Calm world.driver (spiWriteReg platform writeOpcode value world).2.driver :=
  spiXfer_driver platform world _ _

end Swfpm.Max35103
