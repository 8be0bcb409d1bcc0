import Swfpm.Zssc3241.Footprint

/-!
# The guard of the nonvolatile memory

Every write frame that the ZSSC3241 driver sends, in any run of its interface on
any platform, goes to a customer word, with writing allowed and unlocked, and
never to an `SSF1` word whose lock bits are set or would be.
-/

namespace Swfpm.Zssc3241

open Program

/-! ## What a trace shows -/

/-- The last unlocking was not followed by a lock or a completed reset. -/
def unlockedSince : List Event → Bool
  | [] => false
  | .unlocked :: _ => true
  | .locked :: _ => false
  | .restarted :: _ => false
  | .initialized :: _ => false
  | _ :: before => unlockedSince before

/-- The value of the last read of a word. -/
def lastWord (address : UInt8) : List Event → Option UInt16
  | [] => none
  | .wordRead other value :: before =>
      if other = address then some value else lastWord address before
  | _ :: before => lastWord address before

/-- The opcodes from the first write command on, up to the checksum. -/
def isWriteCommand (command : UInt8) : Bool :=
  cmdNvmWriteBase ≤ command && command < cmdCalculateNvmChecksum

/-- What a write frame must find in the trace before it. -/
structure WriteAllowed (command : UInt8) (data : Option UInt16) (allowed : Bool)
    (before : List Event) : Prop where
  customer : command ≤ cmdNvmWriteMax
  allowed : allowed = true
  unlocked : unlockedSince before = true
  /-- The lock bits of `SSF1` are neither set nor read as set. -/
  lockBits : command = cmdNvmWriteBase + nvmSsf1 →
    (∃ value, data = some value ∧ value &&& nvmLockMask = 0) ∧
      ∃ word, lastWord nvmSsf1 before = some word ∧ word &&& nvmLockMask = 0

/-- Every write frame of the trace was allowed. -/
def Guarded : List Event → Prop
  | [] => True
  | event :: before =>
      (match event with
        | .frame command data _ allowed =>
            isWriteCommand command = true →
              WriteAllowed command data allowed before
        | _ => True) ∧ Guarded before

/-! ## The invariant -/

variable {κ : Type*} {transport : Transport κ}

/-- What holds between the calls of a run, and inside them. -/
structure Guard (world : World κ) : Prop where
  guarded : Guarded world.trace
  unlocked : world.device.nvmWriteUnlocked = true →
    unlockedSince world.trace = true ∧ world.device.config.allowNvmWrite = true

/-- Events that neither write nor lock. -/
def Quiet : Event → Prop
  | .frame command _ _ _ => isWriteCommand command = false
  | .observed _ => True
  | .completed _ => True
  | .wordRead _ _ => True
  | .resetAsserted => True
  | .published _ => True
  | _ => False

theorem unlockedSince_of_quiet {event : Event} (hquiet : Quiet event)
    (before : List Event) :
    unlockedSince (event :: before) = unlockedSince before := by
  cases event <;> first | rfl | exact absurd hquiet id

theorem guarded_of_quiet {event : Event} (hquiet : Quiet event)
    {before : List Event} (hbefore : Guarded before) :
    Guarded (event :: before) := by
  cases event with
  | frame command data accepted allowed =>
      refine ⟨fun hwrite => ?_, hbefore⟩
      rw [show isWriteCommand command = false from hquiet] at hwrite
      exact absurd hwrite (by simp)
  | _ => exact ⟨trivial, hbefore⟩

theorem Guard.of_device {world : World κ} (hworld : Guard world) {device : Device}
    (hunlocked : device.nvmWriteUnlocked = world.device.nvmWriteUnlocked)
    (hconfig : device.config = world.device.config) :
    Guard (world.set device) := by
  refine ⟨hworld.guarded, fun hopen => ?_⟩
  simp only [World.set_device, hunlocked] at hopen
  simpa [hconfig] using hworld.unlocked hopen

theorem Guard.note {world : World κ} (hworld : Guard world) {event : Event}
    (hquiet : Quiet event) : Guard (world.note event) := by
  refine ⟨guarded_of_quiet hquiet hworld.guarded, ?_⟩
  intro hopen
  simp only [World.note_trace, World.note_device] at hopen ⊢
  rw [unlockedSince_of_quiet hquiet]
  exact hworld.unlocked hopen

theorem guard_steady (transport : Transport κ) :
    Steady transport (fun _ => True) Quiet Guard := by
  refine Steady.of_context ?_ ?_ ?_ ?_
  · intro world context hworld
    exact ⟨hworld.guarded, hworld.unlocked⟩
  · intro world device hbook hworld
    exact hworld.of_device hbook.nvmWriteUnlocked hbook.config
  · intro world mode hworld
    have hmode : Guard (world.set { world.device with mode }) :=
      hworld.of_device rfl rfl
    exact hmode.note trivial
  · intro world event hquiet hworld
    exact hworld.note hquiet

/-- A change of the device that leaves its configuration and its lock alone. -/
theorem keepsGuard_setDevice {change : Device → Device}
    (hunlocked : ∀ device,
      (change device).nvmWriteUnlocked = device.nvmWriteUnlocked)
    (hconfig : ∀ device, (change device).config = device.config) :
    Keeps Guard (setDevice change : Operation κ PUnit) :=
  Keeps.modify fun _ hworld => hworld.of_device (hunlocked _) (hconfig _)

/-- The guard with writes unlocked. -/
def Open (world : World κ) : Prop :=
  Guard world ∧ world.device.nvmWriteUnlocked = true

theorem open_steady (transport : Transport κ) :
    Steady transport (fun _ => True) Quiet Open := by
  have hguard := guard_steady transport
  refine Steady.of_context ?_ ?_ ?_ ?_
  · intro world context hworld
    exact ⟨⟨hworld.1.guarded, hworld.1.unlocked⟩, hworld.2⟩
  · intro world device hbook hworld
    exact ⟨hguard.book world device hbook hworld.1,
      hbook.nvmWriteUnlocked.trans hworld.2⟩
  · intro world mode hworld
    exact ⟨hguard.shown world mode hworld.1, hworld.2⟩
  · intro world event hquiet hworld
    exact ⟨hguard.event world event hquiet hworld.1, hworld.2⟩

/-- The word of the last read does not forbid the write of `value`. -/
def Cleared (address : UInt8) (value : UInt16) (world : World κ) : Prop :=
  Open world ∧ (address = nvmSsf1 → value &&& nvmLockMask = 0 ∧
    ∃ word, lastWord nvmSsf1 world.trace = some word ∧ word &&& nvmLockMask = 0)

theorem cleared_steady (transport : Transport κ) (address : UInt8) (value : UInt16) :
    Steady transport (fun _ => True) (fun _ => False) (Cleared address value) := by
  have hopen := open_steady transport
  refine Steady.of_context ?_ ?_ ?_ ?_
  · intro world context hworld
    exact ⟨⟨⟨hworld.1.1.guarded, hworld.1.1.unlocked⟩, hworld.1.2⟩, hworld.2⟩
  · intro world device hbook hworld
    exact ⟨hopen.book world device hbook hworld.1, hworld.2⟩
  · intro world mode hworld
    exact ⟨hopen.shown world mode hworld.1, hworld.2⟩
  · intro world event hfalse
    exact absurd hfalse id

/-- A command outside the writes of the memory. -/
theorem allows_of_harmless {command : UInt8} (data : Option UInt16)
    (hcommand : isWriteCommand command = false) :
    Allows (fun _ => True) Quiet command data :=
  ⟨trivial, fun _ _ => hcommand, trivial⟩

/-! ## Reading and writing a word -/

theorem isWriteCommand_of_read {address : UInt8} (haddress : ¬address > nvmReadMax) :
    isWriteCommand address = false := by
  have hle : address.toNat ≤ 63 :=
    UInt8.le_iff_toNat_le.mp (UInt8.not_lt.mp haddress)
  rw [isWriteCommand, Bool.and_eq_false_iff]
  left
  rw [decide_eq_false_iff_not, UInt8.le_iff_toNat_le]
  have hbase : cmdNvmWriteBase.toNat = 64 := rfl
  omega

theorem toNat_writeCommand {address : UInt8}
    (haddress : ¬address > nvmCustomWriteMax) :
    (cmdNvmWriteBase + address).toNat = 64 + address.toNat ∧
      address.toNat ≤ 53 := by
  have hle : address.toNat ≤ 53 :=
    UInt8.le_iff_toNat_le.mp (UInt8.not_lt.mp haddress)
  have hbase : cmdNvmWriteBase.toNat = 64 := rfl
  rw [UInt8.toNat_add, hbase]
  omega

theorem readNvm_open (polls : ℕ) (address : UInt8) :
    Ensures Open (readNvm transport polls address)
      (fun answer world => Open world ∧ (answer.1 = .ok →
        address ≤ nvmReadMax ∧
          lastWord address world.trace = some answer.2))
      Open := by
  have hsteady := open_steady transport
  apply Ensures.ite
  · intro _
    exact Ensures.pure fun world hworld => ⟨hworld, by simp⟩
  intro haddress
  refine Ensures.bind hsteady.keepsRequireNonCyclic fun status => ?_
  apply Ensures.ite
  · intro hfailed
    exact Ensures.pure fun world hworld => ⟨hworld, fun hok => absurd hok hfailed⟩
  intro _
  refine Ensures.bind Keeps.get fun timeoutMs => ?_
  refine Ensures.bind (hsteady.keepsExecute
    (allows_of_harmless none (isWriteCommand_of_read haddress)) _ _ _ _) fun answer => ?_
  apply Ensures.ite
  · intro hfailed
    exact Ensures.pure fun world hworld => ⟨hworld, fun hok => absurd hok hfailed⟩
  intro _
  refine Ensures.seq (fun _ world => Open world ∧
    lastWord address world.trace = some (word16 answer.2)) ?_ fun _ => ?_
  · refine Ensures.modify fun world hworld => ?_
    exact ⟨hsteady.event world _ trivial hworld, by simp [lastWord]⟩
  · refine Ensures.pure fun world hworld => ⟨hworld.1, fun _ => ?_⟩
    exact ⟨UInt8.not_lt.mp haddress, hworld.2⟩

/-- A write frame that the trace allows keeps the guard. -/
theorem writeAllowed_of_cleared {address : UInt8}
    (haddress : ¬address > nvmCustomWriteMax) {value : UInt16} {world : World κ}
    (hworld : Cleared address value world) :
    WriteAllowed (cmdNvmWriteBase + address) (some value)
      world.device.config.allowNvmWrite world.trace := by
  obtain ⟨⟨hguard, hopen⟩, hlock⟩ := hworld
  obtain ⟨hunlocked, hallowed⟩ := hguard.unlocked hopen
  obtain ⟨hcommand, hle⟩ := toNat_writeCommand haddress
  refine ⟨?_, hallowed, hunlocked, ?_⟩
  · rw [UInt8.le_iff_toNat_le, hcommand]
    have hmax : cmdNvmWriteMax.toNat = 117 := rfl
    omega
  · intro hssf1
    have haddressEq : address = nvmSsf1 := by
      rw [← UInt8.toNat_inj]
      have hnat := congrArg UInt8.toNat hssf1
      rw [hcommand] at hnat
      have hright : (cmdNvmWriteBase + nvmSsf1).toNat = 67 := rfl
      have hssf1Nat : nvmSsf1.toNat = 3 := rfl
      omega
    obtain ⟨hvalue, hword⟩ := hlock haddressEq
    exact ⟨⟨value, rfl, hvalue⟩, hword⟩

theorem sendWrite_guard {address : UInt8}
    (haddress : ¬address > nvmCustomWriteMax) (value : UInt16) :
    Ensures (Cleared address value)
      (sendCommand transport (cmdNvmWriteBase + address) (some value))
      (fun _ => Guard) Guard := by
  have hsteady := cleared_steady transport address value
  have hguard : ∀ world : World κ, Cleared address value world → Guard world :=
    fun world hworld => hworld.1.1
  refine Ensures.bind ((hsteady.keepsWrite trivial).weaken (fun _ h => h)
    (fun _ _ h => h) hguard) fun status => ?_
  refine Ensures.seq (fun allowed world =>
    Cleared address value world ∧ allowed = world.device.config.allowNvmWrite)
    (Ensures.get fun _ hworld => ⟨hworld, rfl⟩) fun allowed => ?_
  refine Ensures.seq (fun _ => Guard) ?_ fun _ => ?_
  · refine Ensures.modify fun world hworld => ?_
    obtain ⟨hcleared, rfl⟩ := hworld
    refine ⟨⟨fun _ => writeAllowed_of_cleared haddress hcleared,
      hcleared.1.1.guarded⟩, hcleared.1.1.unlocked⟩
  · refine Keeps.bind (Keeps.when fun _ => ?_) fun _ => Keeps.pure
    exact keepsGuard_setDevice (fun _ => rfl) fun _ => rfl

theorem executeWrite_guard {address : UInt8}
    (haddress : ¬address > nvmCustomWriteMax) (value : UInt16) (polls : ℕ)
    (responseLength : ℕ) (timeoutMs : UInt32) (evaluateFaults : Bool) :
    Ensures (Cleared address value)
      (executeCommand transport polls (cmdNvmWriteBase + address) (some value)
        responseLength timeoutMs evaluateFaults)
      (fun _ => Guard) Guard := by
  have hsteady := guard_steady transport
  refine Ensures.seq (fun _ => Cleared address value)
    (Ensures.get fun _ hworld => hworld) fun state => ?_
  apply Ensures.ite
  · intro _
    exact Ensures.pure fun _ hworld => hworld.1.1
  intro _
  refine Ensures.bind (sendWrite_guard haddress value) fun status => ?_
  refine Keeps.ite (fun _ => hsteady.keepsFail _) fun _ => ?_
  refine Keeps.bind hsteady.keepsNow fun start => ?_
  exact hsteady.keepsAwaitResponse trivial _ _ _ _ _

theorem keepsGuard_readNvm (polls : ℕ) (address : UInt8) :
    Keeps Guard (readNvm transport polls address) :=
  (guard_steady transport).keepsReadNvm
    (fun haddress => allows_of_harmless none (isWriteCommand_of_read haddress))
    (fun _ => trivial) polls

theorem keepsGuard_writeNvm (polls : ℕ) (address : UInt8) (value : UInt16) :
    Keeps Guard (writeNvm transport polls address value) := by
  have hsteady := guard_steady transport
  refine Ensures.seq (fun disabled world => Guard world ∧
      (disabled = false → world.device.nvmWriteUnlocked = true))
    (Ensures.get fun world hworld => ⟨hworld, by simp⟩) fun disabled => ?_
  apply Ensures.ite
  · intro _
    exact Ensures.pure fun _ hworld => hworld.1
  intro henabled
  apply Ensures.ite
  · intro _
    exact Ensures.pure fun _ hworld => hworld.1
  intro haddress
  have hopen : ∀ world : World κ, Guard world ∧
      (disabled = false → world.device.nvmWriteUnlocked = true) → Open world :=
    fun world hworld => ⟨hworld.1, hworld.2 (by simpa using henabled)⟩
  refine Ensures.bind ((readNvm_open polls address).weaken hopen
    (fun _ _ h => h) (fun _ h => h.1)) fun answer => ?_
  apply Ensures.ite
  · intro _
    exact Ensures.pure fun _ hworld => hworld.1.1
  intro hread
  apply Ensures.ite
  · intro _
    exact Ensures.pure fun _ hworld => hworld.1.1
  intro hclear
  apply Ensures.ite
  · intro _
    exact Ensures.pure fun _ hworld => hworld.1.1
  intro _
  have hcleared : ∀ world : World κ, (Open world ∧ (answer.1 = .ok →
      address ≤ nvmReadMax ∧ lastWord address world.trace = some answer.2)) →
      Cleared address value world := by
    intro world hworld
    refine ⟨hworld.1, fun hssf1 => ?_⟩
    rw [not_not] at hread hclear
    obtain ⟨-, hlast⟩ := hworld.2 hread
    rw [hssf1] at hlast hclear
    rw [lockStatus] at hclear
    split_ifs at hclear with hcurrent hvalue
    refine ⟨?_, answer.2, hlast, ?_⟩
    · by_contra hset
      exact hvalue ⟨rfl, hset⟩
    · by_contra hset
      exact hcurrent ⟨rfl, hset⟩
  refine Ensures.seq (fun _ => Cleared address value)
    (Ensures.get fun world hworld => hcleared world hworld) fun timeoutMs => ?_
  refine Ensures.bind (executeWrite_guard haddress value _ _ _ _) fun written => ?_
  refine Keeps.ite (fun _ => Keeps.pure) fun _ => ?_
  refine Keeps.bind (hsteady.keepsDevice fun _ => ⟨rfl, rfl, rfl, rfl, rfl, rfl, rfl⟩)
    fun _ => ?_
  refine Keeps.bind Keeps.get fun verify => ?_
  refine Keeps.ite (fun _ => Keeps.pure) fun _ => ?_
  refine Keeps.bind (keepsGuard_readNvm polls address) fun readback => ?_
  refine Keeps.ite (fun _ => Keeps.pure) fun _ => ?_
  refine Keeps.ite (fun _ => ?_) fun _ => Keeps.pure
  exact Keeps.bind (hsteady.keepsDevice fun _ => ⟨rfl, rfl, rfl, rfl, rfl, rfl, rfl⟩)
    fun _ => Keeps.pure

/-! ## The other operations -/

theorem keepsGuard_guarded {required : Operation κ Status}
    (hrequired : Keeps Guard required) {command : UInt8} (data : Option UInt16)
    (hcommand : isWriteCommand command = false) (polls : ℕ)
    (timeoutMs : Config → UInt32) :
    Keeps Guard (do
      let status ← required
      if status ≠ .ok then
        pure status
      else
        statusCommand transport polls command data timeoutMs) :=
  (guard_steady transport).keepsGuarded (fun _ hworld => hworld)
    (Steady.assures hrequired) (allows_of_harmless data hcommand) polls timeoutMs

theorem keepsGuard_updateNvmChecksum (polls : ℕ) :
    Keeps Guard (updateNvmChecksum transport polls) := by
  refine Keeps.bind Keeps.get fun disabled => ?_
  refine Keeps.ite (fun _ => Keeps.pure) fun _ => ?_
  exact keepsGuard_guarded (guard_steady transport).keepsRequireNonCyclic _ rfl _ _

theorem keepsGuard_writeWords (polls : ℕ) (address : UInt8)
    (values : List UInt16) :
    Keeps Guard (writeWords transport polls address values) := by
  induction values generalizing address with
  | nil => exact Keeps.pure
  | cons value values ih =>
      refine Keeps.bind (keepsGuard_writeNvm polls address value) fun status => ?_
      exact Keeps.ite (fun _ => Keeps.pure) fun _ => ih (address + 1)

theorem keepsGuard_writeNvmBlock (polls : ℕ) (startAddress : UInt8)
    (values : List UInt16) (updateChecksum : Bool) :
    Keeps Guard
      (writeNvmBlock transport polls startAddress values updateChecksum) := by
  have hsteady := guard_steady transport
  refine Keeps.ite (fun _ => Keeps.pure) fun _ => ?_
  refine Keeps.bind (keepsGuard_writeWords polls startAddress values)
    fun status => ?_
  refine Keeps.ite (fun _ => Keeps.pure) fun _ => ?_
  refine Keeps.bind (keepsGuard_updateNvmChecksum polls) fun status => ?_
  refine Keeps.ite (fun _ => Keeps.pure) fun _ => ?_
  refine Keeps.bind (keepsGuard_guarded hsteady.keepsRequireNonCyclic none rfl _ _)
    fun status => ?_
  refine Keeps.ite (fun _ => Keeps.pure) fun _ => ?_
  exact Keeps.bind (hsteady.keepsReadDiagnostics (allows_of_harmless none rfl) polls)
    fun _ => Keeps.pure

theorem keepsGuard_dumpFrom (polls remaining : ℕ) (address : UInt8)
    (words : List UInt16) :
    Keeps Guard (dumpFrom transport polls remaining address words) := by
  induction remaining generalizing address words with
  | zero => exact Keeps.pure
  | succ remaining ih =>
      refine Keeps.bind (keepsGuard_readNvm polls address) fun answer => ?_
      exact Keeps.ite (fun _ => Keeps.pure) fun _ => ih _ _

theorem keepsGuard_unlockNvmWrites (unlockKey : UInt32) :
    Keeps Guard (unlockNvmWrites unlockKey : Operation κ Status) := by
  refine Ensures.seq (fun allowed world => Guard world ∧
    allowed = world.device.config.allowNvmWrite)
    (Ensures.get fun _ hworld => ⟨hworld, rfl⟩) fun allowed => ?_
  apply Ensures.ite
  · intro _
    exact Ensures.pure fun _ hworld => hworld.1
  intro hallowed
  apply Ensures.ite
  · intro _
    exact Ensures.pure fun _ hworld => hworld.1
  intro _ world hworld
  obtain ⟨hguard, hconfig⟩ := hworld
  have hopen : world.device.config.allowNvmWrite = true := by
    simpa [hconfig] using hallowed
  exact ⟨⟨trivial, hguard.guarded⟩, fun _ => ⟨rfl, hopen⟩⟩

theorem keepsGuard_lockNvmWrites :
    Keeps Guard (lockNvmWrites : Operation κ PUnit) := by
  intro world hworld
  refine ⟨⟨trivial, hworld.guarded⟩, fun hopen => ?_⟩
  exact absurd (show false = true from hopen) (by simp)

theorem keepsGuard_hook {α : Type} (call : World κ → Answer κ α) :
    Keeps Guard (hook call) := by
  intro world hworld
  have hbook := edge_book world.device (call world).edge
  have hcalled : Guard { world with context := (call world).context } :=
    ⟨hworld.guarded, hworld.unlocked⟩
  exact hcalled.of_device hbook.nvmWriteUnlocked hbook.config

theorem keepsGuard_reset : Keeps Guard (reset transport) := by
  have hsteady := guard_steady transport
  rw [reset]
  split
  · exact Keeps.pure
  refine Keeps.bind (keepsGuard_hook _) fun asserted => ?_
  refine Keeps.bind (hsteady.keepsTransportStatus _) fun status => ?_
  refine Keeps.ite (fun _ => Keeps.pure) fun _ => ?_
  refine Keeps.bind (hsteady.keepsNote trivial) fun _ => ?_
  refine Keeps.bind Keeps.get fun resetPulseMs => ?_
  refine Keeps.bind (hsteady.keepsDelay _) fun _ => ?_
  refine Keeps.bind (keepsGuard_hook _) fun released => ?_
  refine Keeps.bind (hsteady.keepsTransportStatus _) fun status => ?_
  refine Keeps.ite (fun _ => Keeps.pure) fun _ => ?_
  refine Keeps.bind Keeps.get fun resetReadyMs => ?_
  refine Keeps.bind (hsteady.keepsDelay _) fun _ => ?_
  -- the reset clears the lock before it is recorded
  refine Ensures.seq (fun _ world => Guard world ∧
    world.device.nvmWriteUnlocked = false) ?_ fun _ => ?_
  · refine Ensures.modify fun world hworld => ⟨⟨hworld.guarded, ?_⟩, rfl⟩
    intro hopen
    exact absurd (show false = true from hopen) (by simp)
  refine Ensures.seq (fun _ => Guard) ?_ fun _ => hsteady.keepsProbe
  refine Ensures.modify fun world hworld => ⟨⟨trivial, hworld.1.guarded⟩, ?_⟩
  intro hopen
  simp only [World.note_device] at hopen
  rw [hworld.2] at hopen
  exact absurd hopen (by simp)

theorem keepsGuard_enterMode (polls : ℕ) {command : UInt8}
    (hcommand : isWriteCommand command = false) (wanted : Mode)
    {already entered : Device → Device}
    (halready : ∀ device,
      (already device).nvmWriteUnlocked = device.nvmWriteUnlocked ∧
        (already device).config = device.config)
    (hentered : ∀ device,
      (entered device).nvmWriteUnlocked = device.nvmWriteUnlocked ∧
        (entered device).config = device.config) :
    Keeps Guard (enterMode transport polls command wanted already entered) := by
  have hsteady := guard_steady transport
  refine Keeps.bind Keeps.get fun state => ?_
  refine Keeps.ite (fun _ => Keeps.pure) fun _ => ?_
  refine Keeps.bind Keeps.get fun mode => ?_
  apply Keeps.ite
  · intro _
    exact Keeps.bind (keepsGuard_setDevice (fun device => (halready device).1)
      fun device => (halready device).2) fun _ => Keeps.pure
  intro _
  refine Keeps.bind Keeps.get fun timeoutMs => ?_
  refine Keeps.bind (hsteady.keepsExecute (allows_of_harmless none hcommand) _ _ _ _)
    fun answer => ?_
  refine Keeps.bind Keeps.get fun mode => ?_
  refine Keeps.ite (fun _ => Keeps.pure) fun _ => ?_
  refine Keeps.bind (Keeps.when fun _ => ?_) fun _ => Keeps.pure
  exact keepsGuard_setDevice (fun device => (hentered device).1)
    fun device => (hentered device).2

theorem isWriteCommand_of_measurement {type : MeasurementType} {command : UInt8}
    {responseLength : ℕ} {sampleCount : UInt32}
    (hparameters : measurementParameters type =
      some (command, responseLength, sampleCount)) :
    isWriteCommand command = false := by
  cases type <;> simp only [measurementParameters, Option.some.injEq,
    Prod.mk.injEq, reduceCtorEq] at hparameters <;> rw [← hparameters.1] <;> rfl

theorem keepsGuard_startMeasurement (type : MeasurementType) :
    Keeps Guard (startMeasurement transport type) := by
  have hsteady := guard_steady transport
  refine Keeps.bind hsteady.keepsRequireNonCyclic fun status => ?_
  refine Keeps.ite (fun _ => Keeps.pure) fun _ => ?_
  rcases hparameters : measurementParameters type with
    _ | ⟨command, responseLength, sampleCount⟩
  · exact Keeps.pure
  refine Keeps.bind (hsteady.keepsSendCommand
    (allows_of_harmless none (isWriteCommand_of_measurement hparameters)))
    fun status => ?_
  apply Keeps.ite
  · intro _
    exact Keeps.bind (keepsGuard_setDevice (fun _ => rfl) fun _ => rfl)
      fun _ => Keeps.pure
  intro _
  refine Keeps.bind (keepsGuard_setDevice (fun _ => rfl) fun _ => rfl) fun _ => ?_
  refine Keeps.bind hsteady.keepsNow fun start => ?_
  exact Keeps.bind (keepsGuard_setDevice (fun _ => rfl) fun _ => rfl)
    fun _ => Keeps.pure

theorem keepsGuard_publishResult (result : Measurement) :
    Keeps Guard (publishResult result : Operation κ PUnit) :=
  Keeps.bind (keepsGuard_setDevice (fun _ => rfl) fun _ => rfl) fun _ =>
    Keeps.modify fun _ hworld => hworld.note trivial

theorem keepsGuard_process : Keeps Guard (process transport) := by
  have hsteady := guard_steady transport
  have hset : ∀ change : Device → Device,
      (∀ device, (change device).nvmWriteUnlocked = device.nvmWriteUnlocked ∧
        (change device).config = device.config) →
      Keeps Guard (setDevice change : Operation κ PUnit) :=
    fun change hchange => keepsGuard_setDevice (fun device => (hchange device).1)
      fun device => (hchange device).2
  refine Keeps.bind Keeps.get fun state => ?_
  split
  · refine Keeps.bind Keeps.get fun eocPending => ?_
    refine Keeps.ite (fun _ => Keeps.pure) fun _ => ?_
    refine Keeps.bind (hset _ fun _ => ⟨rfl, rfl⟩) fun _ => ?_
    refine Keeps.bind (hsteady.keepsReadFrame _ _) fun answer => ?_
    refine Keeps.bind (Keeps.when fun _ => keepsGuard_publishResult _) fun _ => ?_
    exact Keeps.bind (hset _ fun _ => ⟨rfl, rfl⟩) fun _ => Keeps.pure
  · refine Keeps.bind hsteady.keepsNow fun current => ?_
    refine Keeps.bind Keeps.get fun late => ?_
    apply Keeps.ite
    · intro _
      exact Keeps.bind (hset _ fun _ => ⟨rfl, rfl⟩) fun _ => Keeps.pure
    intro _
    refine Keeps.bind Keeps.get fun early => ?_
    refine Keeps.ite (fun _ => Keeps.pure) fun _ => ?_
    refine Keeps.bind (hset _ fun _ => ⟨rfl, rfl⟩) fun _ => ?_
    refine Keeps.bind hsteady.keepsReadStatus fun answer => ?_
    apply Keeps.ite
    · intro _
      exact Keeps.bind (hset _ fun _ => ⟨rfl, rfl⟩) fun _ => Keeps.pure
    intro _
    apply Keeps.ite
    · intro _
      exact Keeps.bind (hset _ fun _ => ⟨rfl, rfl⟩) fun _ => Keeps.pure
    intro _
    refine Keeps.bind Keeps.get fun type => ?_
    refine Keeps.bind Keeps.get fun responseLength => ?_
    refine Keeps.bind (hsteady.keepsReadFrame _ _) fun answer => ?_
    refine Keeps.bind (Keeps.when fun _ => keepsGuard_publishResult _) fun _ => ?_
    refine Keeps.bind (hset _ fun _ => ⟨rfl, rfl⟩) fun _ => ?_
    exact Keeps.bind Keeps.get fun _ => Keeps.pure
  · exact Keeps.pure
  · exact Keeps.get
  · exact Keeps.pure

theorem keepsGuard_awaitMeasurement (polls : ℕ) (status : Status) :
    Keeps Guard (awaitMeasurement transport polls status) := by
  induction polls generalizing status with
  | zero => exact Keeps.stop
  | succ polls ih =>
      refine Keeps.bind Keeps.get fun state => ?_
      refine Keeps.ite (fun _ => Keeps.pure) fun _ => ?_
      refine Keeps.bind keepsGuard_process fun status => ?_
      apply Keeps.ite
      · intro _
        refine Keeps.bind Keeps.get fun pollIntervalMs => ?_
        exact Keeps.bind ((guard_steady transport).keepsDelay _) fun _ => ih status
      · intro _
        exact Keeps.pure

theorem keepsGuard_getLatestResult :
    Keeps Guard (getLatestResult : Operation κ (Status × Measurement)) := by
  refine Keeps.bind Keeps.get fun resultPending => ?_
  refine Keeps.ite (fun _ => Keeps.pure) fun _ => ?_
  refine Keeps.bind Keeps.get fun result => ?_
  exact Keeps.bind (keepsGuard_setDevice (fun _ => rfl) fun _ => rfl)
    fun _ => Keeps.pure

theorem keepsGuard_measureBlocking (polls : ℕ) (type : MeasurementType) :
    Keeps Guard (measureBlocking transport polls type) := by
  refine Keeps.bind (keepsGuard_startMeasurement type) fun status => ?_
  refine Keeps.ite (fun _ => Keeps.pure) fun _ => ?_
  refine Keeps.bind (keepsGuard_awaitMeasurement polls status) fun status => ?_
  refine Keeps.bind Keeps.get fun resultPending => ?_
  refine Keeps.ite (fun _ => ?_) fun _ => Keeps.pure
  exact Keeps.bind keepsGuard_getLatestResult fun _ => Keeps.pure

theorem isWriteCommand_of_shadow {reg : UInt8} (hreg : ¬reg < cmdOverwriteSmConfig1) :
    isWriteCommand reg = false := by
  have hle : 214 ≤ reg.toNat := UInt8.le_iff_toNat_le.mp (UInt8.not_lt.mp hreg)
  rw [isWriteCommand, Bool.and_eq_false_iff]
  right
  rw [decide_eq_false_iff_not, UInt8.lt_iff_toNat_lt]
  have hchecksum : cmdCalculateNvmChecksum.toNat = 144 := rfl
  omega

/-! ## Runs -/

theorem keepsGuard_perform (polls : ℕ) (call : Call) :
    Keeps Guard (perform transport polls call) := by
  have hsteady := guard_steady transport
  have hanswer : ∀ {α : Type} {operation : Operation κ (Status × α)},
      Keeps Guard operation →
      Keeps Guard (do pure (← operation).1 : Operation κ Status) :=
    fun hoperation => Keeps.bind hoperation fun _ => Keeps.pure
  cases call with
  | probe => exact hsteady.keepsProbe
  | reset => exact keepsGuard_reset
  | readStatus => exact hanswer hsteady.keepsReadStatus
  | enterCommandMode | stopCyclicMode =>
      exact keepsGuard_enterMode polls rfl _ (fun _ => ⟨rfl, rfl⟩)
        fun _ => ⟨rfl, rfl⟩
  | enterSleepMode =>
      exact keepsGuard_enterMode polls rfl _ (fun _ => ⟨rfl, rfl⟩)
        fun _ => ⟨rfl, rfl⟩
  | startCyclicMode =>
      exact keepsGuard_enterMode polls rfl _ (fun _ => ⟨rfl, rfl⟩)
        fun _ => ⟨rfl, rfl⟩
  | startMeasurement type => exact keepsGuard_startMeasurement type
  | process => exact keepsGuard_process
  | onEocInterrupt =>
      exact Keeps.bind (hsteady.keepsDevice onEocInterrupt_book) fun _ => Keeps.pure
  | cancel =>
      exact Keeps.bind (keepsGuard_setDevice (fun _ => rfl) fun _ => rfl)
        fun _ => Keeps.pure
  | getLatestResult => exact hanswer keepsGuard_getLatestResult
  | measure | measureRawSensor | measureRawTemperature =>
      exact hanswer (keepsGuard_measureBlocking polls _)
  | measureOversampled sampleCount =>
      apply hanswer
      rw [measureOversampled]
      split_ifs <;> first | exact keepsGuard_measureBlocking polls _ | exact Keeps.pure
  | readCyclicResult =>
      apply hanswer
      refine Keeps.bind Keeps.get fun wrongMode => ?_
      exact Keeps.ite (fun _ => Keeps.pure) fun _ => hsteady.keepsReadFrame _ _
  | readDiagnostics =>
      exact hanswer (hsteady.keepsReadDiagnostics (allows_of_harmless none rfl) polls)
  | resetDiagnostics | updateDiagnostics | setPostCalibrationOffset expectedOutput =>
      exact keepsGuard_guarded hsteady.keepsRequireNonCyclic _ rfl _ _
  | setDacDiagnostic dacValue =>
      exact keepsGuard_guarded hsteady.keepsRequireCommandMode _ rfl _ _
  | runSelfDiagnostic pseudoOffset =>
      exact hanswer (hsteady.keepsRunSelfDiagnostic (allows_of_harmless _ rfl) _)
  | readNvm address => exact hanswer (keepsGuard_readNvm polls address)
  | dumpNvm wordCount =>
      apply hanswer
      exact Keeps.ite (fun _ => Keeps.pure) fun _ => keepsGuard_dumpFrom _ _ _ _
  | unlockNvmWrites unlockKey => exact keepsGuard_unlockNvmWrites unlockKey
  | lockNvmWrites => exact Keeps.bind keepsGuard_lockNvmWrites fun _ => Keeps.pure
  | writeNvm address value => exact keepsGuard_writeNvm polls address value
  | writeNvmBlock startAddress values updateChecksum =>
      exact keepsGuard_writeNvmBlock polls startAddress values updateChecksum
  | updateNvmChecksum => exact keepsGuard_updateNvmChecksum polls
  | overwriteShadow reg value =>
      refine Keeps.ite (fun _ => Keeps.pure) fun hreg => ?_
      exact keepsGuard_guarded hsteady.keepsRequireCommandMode _
        (isWriteCommand_of_shadow fun hlow => hreg (Or.inl hlow)) _ _

theorem keepsGuard_performAll (calls : List (Call × ℕ)) :
    Keeps Guard (performAll transport calls) := by
  induction calls with
  | nil => exact Keeps.pure
  | cons call rest ih =>
      exact Keeps.bind (keepsGuard_perform call.2 call.1) fun _ => ih

/-- In every run of the interface, on any platform, with any interrupts and with
any call cut short, each write frame was allowed. -/
theorem writes_guarded (transport : Transport κ) (address7bit : UInt8)
    (config : Option Config) (context : κ) (calls : List (Call × ℕ)) :
    Guarded ((performAll transport calls).run
      (World.init address7bit config context [])).2.trace := by
  have hinit : Guard (World.init address7bit config context []) := by
    refine ⟨⟨trivial, trivial⟩, fun hopen => ?_⟩
    exact absurd (show false = true from hopen) (by simp)
  exact ((keepsGuard_performAll calls).final hinit).guarded

end Swfpm.Zssc3241
