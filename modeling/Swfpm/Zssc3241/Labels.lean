import Swfpm.Zssc3241.NvmGuard

/-!
# What the published results were measured by

A result that is not of the cyclic mode answers its own command: no other command
was accepted, and no reset completed, since that command.  A cyclic result comes
from a device that has shown the cyclic mode since the last completed reset; that
it is still in that mode is not assured, since a command that fails on the way
leaves the driver's state.
-/

namespace Swfpm.Zssc3241

open Program

/-! ## What a trace shows -/

/-- The last command that the bus accepted, unless a reset was completed after
it. -/
def lastCommand : List Event → Option UInt8
  | [] => none
  | .frame command _ accepted _ :: before =>
      if accepted then some command else lastCommand before
  | .restarted :: _ => none
  | .initialized :: _ => none
  | _ :: before => lastCommand before

/-- The mode that the device showed last, since its last reset. -/
def lastMode : List Event → Mode
  | [] => .unknown
  | .observed mode :: _ => mode
  | .restarted :: _ => .unknown
  | .initialized :: _ => .unknown
  | _ :: before => lastMode before

/-- The device has shown the cyclic mode since its last reset. -/
def cyclicSince : List Event → Bool
  | [] => false
  | .observed mode :: before => mode = .cyclic || cyclicSince before
  | .restarted :: _ => false
  | .initialized :: _ => false
  | _ :: before => cyclicSince before

theorem cyclicSince_of_lastMode {trace : List Event}
    (hmode : lastMode trace = .cyclic) : cyclicSince trace = true := by
  induction trace with
  | nil => exact absurd hmode (by decide)
  | cons event before ih =>
      cases event with
      | observed mode =>
          have hcyclic : mode = .cyclic := hmode
          simp [cyclicSince, hcyclic]
      | restarted | initialized => exact absurd hmode (by simp [lastMode])
      | _ => exact ih hmode

/-- What a trace must show before a result of the type. -/
def MeasuredBy (type : MeasurementType) (before : List Event) : Prop :=
  if type = .cyclic then cyclicSince before = true
  else ∃ command responseLength sampleCount,
    measurementParameters type = some (command, responseLength, sampleCount) ∧
      lastCommand before = some command

/-- Every result of the trace was measured by what its type says. -/
def Labelled : List Event → Prop
  | [] => True
  | event :: before =>
      (match event with
        | .published type => MeasuredBy type before
        | _ => True) ∧ Labelled before

/-! ## The invariant -/

variable {κ : Type*} {transport : Transport κ}

structure Label (world : World κ) : Prop where
  labelled : Labelled world.trace
  mode : world.device.mode = lastMode world.trace
  /-- A measurement under way is the last thing the device was told. -/
  waiting : world.device.state = .waitReady →
    ∃ command responseLength sampleCount,
      measurementParameters world.device.pendingMeasurement =
        some (command, responseLength, sampleCount) ∧
      lastCommand world.trace = some command
  cyclic : world.device.state = .cyclic → cyclicSince world.trace = true

/-- Events that a result does not depend on. -/
def Calm : Event → Prop
  | .completed _ => True
  | .wordRead _ _ => True
  | .resetAsserted => True
  | .unlocked => True
  | .locked => True
  | _ => False

theorem labelled_of_calm {event : Event} (hcalm : Calm event)
    {before : List Event} (hbefore : Labelled before) :
    Labelled (event :: before) := by
  cases event <;> first | exact ⟨trivial, hbefore⟩ | exact absurd hcalm id

theorem shows_of_calm {event : Event} (hcalm : Calm event) (before : List Event) :
    lastCommand (event :: before) = lastCommand before ∧
      lastMode (event :: before) = lastMode before ∧
      cyclicSince (event :: before) = cyclicSince before := by
  cases event <;> first | exact ⟨rfl, rfl, rfl⟩ | exact absurd hcalm id

theorem Label.note {world : World κ} (hworld : Label world) {event : Event}
    (hcalm : Calm event) : Label (world.note event) := by
  obtain ⟨hcommand, hmode, hcyclic⟩ := shows_of_calm hcalm world.trace
  refine ⟨labelled_of_calm hcalm hworld.labelled, ?_, ?_, ?_⟩
  · exact hworld.mode.trans hmode.symm
  · intro hwaiting
    simpa only [World.note_device, World.note_trace, hcommand] using
      hworld.waiting hwaiting
  · intro hstate
    simpa only [World.note_trace, hcyclic] using hworld.cyclic hstate

theorem Label.of_book {world : World κ} (hworld : Label world) {device : Device}
    (hbook : Book world.device device) : Label (world.set device) := by
  refine ⟨hworld.labelled, hbook.mode.trans hworld.mode, ?_, ?_⟩
  · intro hwaiting
    simp only [World.set_device, World.set_trace, hbook.state,
      hbook.pendingMeasurement] at hwaiting ⊢
    exact hworld.waiting hwaiting
  · intro hcyclic
    simp only [World.set_device, hbook.state] at hcyclic
    exact hworld.cyclic hcyclic

theorem Label.shown {world : World κ} (hworld : Label world) (mode : Mode) :
    Label ((world.set { world.device with mode }).note (.observed mode)) := by
  refine ⟨⟨trivial, hworld.labelled⟩, rfl, hworld.waiting, ?_⟩
  intro hcyclic
  simp [cyclicSince, hworld.cyclic hcyclic]

theorem label_steady (transport : Transport κ) :
    Steady transport (fun _ => True) Calm Label :=
  Steady.of_context
    (fun _ _ hworld => ⟨hworld.labelled, hworld.mode, hworld.waiting, hworld.cyclic⟩)
    (fun _ _ hbook hworld => hworld.of_book hbook)
    (fun _ mode hworld => hworld.shown mode)
    fun _ _ hcalm hworld => hworld.note hcalm

/-- No measurement is under way, so that commands may be sent. -/
def Idle (world : World κ) : Prop :=
  Label world ∧ world.device.state ≠ .waitReady

/-- Events that leave a driver without a measurement as it is. -/
def Sends (event : Event) : Prop :=
  Calm event ∨ ∃ command data accepted allowed,
    event = .frame command data accepted allowed

theorem idle_steady (transport : Transport κ) :
    Steady transport (fun _ => True) Sends Idle := by
  refine Steady.of_context ?_ ?_ ?_ ?_
  · intro world context hworld
    exact ⟨⟨hworld.1.labelled, hworld.1.mode, hworld.1.waiting, hworld.1.cyclic⟩,
      hworld.2⟩
  · intro world device hbook hworld
    exact ⟨hworld.1.of_book hbook, fun hstate => hworld.2 (hbook.state ▸ hstate)⟩
  · intro world mode hworld
    exact ⟨hworld.1.shown mode, hworld.2⟩
  · intro world event hsends hworld
    rcases hsends with hcalm | ⟨command, data, accepted, allowed, rfl⟩
    · exact ⟨hworld.1.note hcalm, hworld.2⟩
    · refine ⟨⟨⟨trivial, hworld.1.labelled⟩, hworld.1.mode, ?_, hworld.1.cyclic⟩,
        hworld.2⟩
      intro hwaiting
      exact absurd hwaiting hworld.2

theorem allows_idle (command : UInt8) (data : Option UInt16) :
    Allows (fun _ => True) Sends command data :=
  ⟨trivial, fun _ _ => Or.inr ⟨_, _, _, _, rfl⟩, Or.inl trivial⟩

/-! ## Modes and commands -/

theorem idle_label : ∀ world : World κ, Idle world → Label world :=
  fun _ hworld => hworld.1

/-- An operation that needs another mode than cyclic finds no measurement under
way. -/
theorem requireNonCyclic_idle :
    Ensures Label (requireNonCyclic transport)
      (fun status world => Label world ∧ (status = .ok → Idle world)) Label := by
  have hpure : ∀ status : Status, Ensures Idle
      (pure status : Operation κ Status)
      (fun status world => Label world ∧ (status = .ok → Idle world)) Label :=
    fun _ => Ensures.pure fun _ hworld => ⟨hworld.1, fun _ => hworld⟩
  have hmode : Ensures Idle (modeStatus : Operation κ Status)
      (fun status world => Label world ∧ (status = .ok → Idle world)) Label :=
    Ensures.bind (Keeps.ensures Keeps.get idle_label) fun _ => hpure _
  refine Ensures.seq (fun state world =>
    Label world ∧ (state ≠ .waitReady → Idle world))
    (Ensures.get fun _ hworld => ⟨hworld, fun hstate => ⟨hworld, hstate⟩⟩)
    fun state => ?_
  apply Ensures.ite
  · intro _
    exact Ensures.pure fun _ hworld => ⟨hworld.1, fun hok => absurd hok (by decide)⟩
  intro hstate
  refine Ensures.seq (fun _ => Idle)
    (Ensures.get fun _ hworld => hworld.2 hstate) fun mode => ?_
  apply Ensures.ite
  · intro _
    refine Ensures.bind ((idle_steady transport).keepsReadStatus.ensures idle_label)
      fun answer => ?_
    exact Ensures.ite (fun _ => hpure _) fun _ => hmode
  · intro _
    exact hmode

theorem requireCommandMode_idle :
    Ensures Label (requireCommandMode transport)
      (fun status world => Label world ∧ (status = .ok → Idle world)) Label := by
  refine Ensures.bind requireNonCyclic_idle fun status => ?_
  apply Ensures.ite
  · intro _
    exact Ensures.pure fun _ hworld => hworld
  intro hok
  refine Ensures.seq (fun _ => Idle)
    (Ensures.get fun _ hworld => hworld.2 (not_not.mp hok)) fun mode => ?_
  exact Ensures.pure fun _ hworld => ⟨hworld.1, fun _ => hworld⟩

theorem keepsLabel_guarded {required : Operation κ Status}
    (hrequired : Ensures Label required
      (fun status world => Label world ∧ (status = .ok → Idle world)) Label)
    (command : UInt8) (data : Option UInt16) (polls : ℕ)
    (timeoutMs : Config → UInt32) :
    Keeps Label (do
      let status ← required
      if status ≠ .ok then
        pure status
      else
        statusCommand transport polls command data timeoutMs) :=
  (idle_steady transport).keepsGuarded idle_label hrequired
    (allows_idle command data) polls timeoutMs

/-- After the required mode, a program that keeps the driver idle. -/
theorem keepsLabel_after {α : Type} {required : Operation κ Status}
    (hrequired : Ensures Label required
      (fun status world => Label world ∧ (status = .ok → Idle world)) Label)
    {failed : Status → Operation κ α} {next : Operation κ α}
    (hfailed : ∀ status, Keeps Label (failed status))
    (hnext : Keeps Idle next) :
    Keeps Label (do
      let status ← required
      if status ≠ .ok then failed status else next) := by
  refine Ensures.bind hrequired fun status => ?_
  apply Ensures.ite
  · intro _
    exact (hfailed status).weaken (fun _ hworld => hworld.1) (fun _ _ h => h)
      fun _ h => h
  · intro hok
    exact Ensures.weaken hnext (fun _ hworld => hworld.2 (not_not.mp hok))
      (fun _ => idle_label) idle_label

/-! ## The memory, the diagnostics and the shadow registers -/

theorem readNvm_idle (polls : ℕ) (address : UInt8) :
    Ensures Label (readNvm transport polls address)
      (fun answer world => Label world ∧ (answer.1 = .ok → Idle world)) Label := by
  have hsteady := idle_steady transport
  apply Ensures.ite
  · intro _
    exact Ensures.pure fun _ hworld => ⟨hworld, fun hok => absurd hok (by simp)⟩
  intro _
  refine Ensures.bind requireNonCyclic_idle fun status => ?_
  apply Ensures.ite
  · intro hfailed
    exact Ensures.pure fun _ hworld => ⟨hworld.1, fun hok => absurd hok hfailed⟩
  intro hok
  refine Ensures.seq (fun _ => Idle)
    (Ensures.get fun _ hworld => hworld.2 (not_not.mp hok)) fun timeoutMs => ?_
  refine Ensures.bind ((hsteady.keepsExecute (allows_idle _ _) _ _ _ _).ensures
    idle_label) fun answer => ?_
  apply Ensures.ite
  · intro hfailed
    exact Ensures.pure fun _ hworld => ⟨hworld.1, fun hok => absurd hok hfailed⟩
  intro _
  have hword : Sends (.wordRead address (word16 answer.2)) := Or.inl trivial
  refine Ensures.bind ((hsteady.keepsNote hword).ensures idle_label) fun _ => ?_
  exact Ensures.pure fun _ hworld => ⟨hworld.1, fun _ => hworld⟩

theorem keepsLabel_readNvm (polls : ℕ) (address : UInt8) :
    Keeps Label (readNvm transport polls address) :=
  (readNvm_idle polls address).weaken (fun _ hworld => hworld)
    (fun _ _ hworld => hworld.1) fun _ hworld => hworld

theorem keepsLabel_writeNvm (polls : ℕ) (address : UInt8) (value : UInt16) :
    Keeps Label (writeNvm transport polls address value) := by
  have hsteady := idle_steady transport
  refine Keeps.bind Keeps.get fun disabled => ?_
  refine Keeps.ite (fun _ => Keeps.pure) fun _ => ?_
  refine Keeps.ite (fun _ => Keeps.pure) fun _ => ?_
  refine Ensures.bind (readNvm_idle polls address) fun answer => ?_
  apply Ensures.ite
  · intro _
    exact Ensures.pure fun _ hworld => hworld.1
  intro hok
  apply Ensures.ite
  · intro _
    exact Ensures.pure fun _ hworld => hworld.1
  intro _
  apply Ensures.ite
  · intro _
    exact Ensures.pure fun _ hworld => hworld.1
  intro _
  refine Ensures.seq (fun _ => Idle)
    (Ensures.get fun _ hworld => hworld.2 (not_not.mp hok)) fun timeoutMs => ?_
  refine Ensures.bind ((hsteady.keepsExecute (allows_idle _ _) _ _ _ _).weaken
    (fun _ hworld => hworld) (fun _ => idle_label) idle_label) fun written => ?_
  refine Keeps.ite (fun _ => Keeps.pure) fun _ => ?_
  refine Keeps.bind ((label_steady transport).keepsDevice fun _ =>
    ⟨rfl, rfl, rfl, rfl, rfl, rfl, rfl⟩) fun _ => ?_
  refine Keeps.bind Keeps.get fun verify => ?_
  refine Keeps.ite (fun _ => Keeps.pure) fun _ => ?_
  refine Keeps.bind (keepsLabel_readNvm polls address) fun readback => ?_
  refine Keeps.ite (fun _ => Keeps.pure) fun _ => ?_
  refine Keeps.ite (fun _ => ?_) fun _ => Keeps.pure
  exact Keeps.bind ((label_steady transport).keepsDevice fun _ =>
    ⟨rfl, rfl, rfl, rfl, rfl, rfl, rfl⟩) fun _ => Keeps.pure

theorem keepsLabel_writeWords (polls : ℕ) (address : UInt8)
    (values : List UInt16) :
    Keeps Label (writeWords transport polls address values) := by
  induction values generalizing address with
  | nil => exact Keeps.pure
  | cons value values ih =>
      refine Keeps.bind (keepsLabel_writeNvm polls address value) fun status => ?_
      exact Keeps.ite (fun _ => Keeps.pure) fun _ => ih (address + 1)

theorem keepsLabel_updateNvmChecksum (polls : ℕ) :
    Keeps Label (updateNvmChecksum transport polls) := by
  refine Keeps.bind Keeps.get fun disabled => ?_
  refine Keeps.ite (fun _ => Keeps.pure) fun _ => ?_
  exact keepsLabel_guarded requireNonCyclic_idle _ _ _ _

theorem keepsLabel_readDiagnostics (polls : ℕ) :
    Keeps Label (readDiagnostics transport polls) := by
  refine keepsLabel_after requireNonCyclic_idle (fun _ => Keeps.pure) ?_
  refine Keeps.bind Keeps.get fun timeout => ?_
  refine Keeps.bind ((idle_steady transport).keepsExecute (allows_idle _ _) _ _ _ _)
    fun answer => ?_
  exact Keeps.ite (fun _ => Keeps.pure) fun _ => Keeps.pure

theorem keepsLabel_runSelfDiagnostic (polls : ℕ) (pseudoOffset : UInt8) :
    Keeps Label (runSelfDiagnostic transport polls pseudoOffset) := by
  refine keepsLabel_after requireCommandMode_idle (fun _ => Keeps.pure) ?_
  refine Keeps.bind Keeps.get fun timeout => ?_
  refine Keeps.bind ((idle_steady transport).keepsExecute (allows_idle _ _) _ _ _ _)
    fun answer => ?_
  exact Keeps.ite (fun _ => Keeps.pure) fun _ =>
    (idle_steady transport).keepsDecodeMeasurement _ _ _

theorem keepsLabel_writeNvmBlock (polls : ℕ) (startAddress : UInt8)
    (values : List UInt16) (updateChecksum : Bool) :
    Keeps Label
      (writeNvmBlock transport polls startAddress values updateChecksum) := by
  refine Keeps.ite (fun _ => Keeps.pure) fun _ => ?_
  refine Keeps.bind (keepsLabel_writeWords polls startAddress values)
    fun status => ?_
  refine Keeps.ite (fun _ => Keeps.pure) fun _ => ?_
  refine Keeps.bind (keepsLabel_updateNvmChecksum polls) fun status => ?_
  refine Keeps.ite (fun _ => Keeps.pure) fun _ => ?_
  refine Keeps.bind (keepsLabel_guarded requireNonCyclic_idle _ _ _ _)
    fun status => ?_
  refine Keeps.ite (fun _ => Keeps.pure) fun _ => ?_
  exact Keeps.bind (keepsLabel_readDiagnostics polls) fun _ => Keeps.pure

theorem keepsLabel_dumpFrom (polls remaining : ℕ) (address : UInt8)
    (words : List UInt16) :
    Keeps Label (dumpFrom transport polls remaining address words) := by
  induction remaining generalizing address words with
  | zero => exact Keeps.pure
  | succ remaining ih =>
      refine Keeps.bind (keepsLabel_readNvm polls address) fun answer => ?_
      exact Keeps.ite (fun _ => Keeps.pure) fun _ => ih _ _

/-! ## Changes of the driver's state -/

/-- The driver leaves a measurement, or enters a mode that the device showed. -/
theorem Label.of_state {world : World κ} (hworld : Label world) {device : Device}
    (hmode : device.mode = world.device.mode) (hwaiting : device.state ≠ .waitReady)
    (hcyclic : device.state = .cyclic → cyclicSince world.trace = true) :
    Label (world.set device) :=
  ⟨hworld.labelled, hmode.trans hworld.mode,
    fun hstate => absurd hstate hwaiting, hcyclic⟩

theorem keepsLabel_setDevice {change : Device → Device} {state : DriverState}
    (hmode : ∀ device, (change device).mode = device.mode)
    (hstate : ∀ device, (change device).state = state)
    (hwaiting : state ≠ .waitReady) (hcyclic : state ≠ .cyclic) :
    Keeps Label (setDevice change : Operation κ PUnit) :=
  Keeps.modify fun _ hworld => hworld.of_state (hmode _)
    (by rw [hstate]; exact hwaiting) fun hin => absurd ((hstate _).symm.trans hin) hcyclic

theorem keepsLabel_enterMode (polls : ℕ) (command : UInt8) {wanted : Mode}
    {already entered : Device → Device}
    (halready : ∀ device, (already device).mode = device.mode ∧
      (already device).state ≠ .waitReady ∧
      ((already device).state = .cyclic → wanted = .cyclic))
    (hentered : ∀ device, (entered device).mode = device.mode ∧
      (entered device).state ≠ .waitReady ∧
      ((entered device).state = .cyclic → wanted = .cyclic)) :
    Keeps Label (enterMode transport polls command wanted already entered) := by
  have hsteady := idle_steady transport
  have hset : ∀ {change : Device → Device},
      (∀ device, (change device).mode = device.mode ∧
        (change device).state ≠ .waitReady ∧
        ((change device).state = .cyclic → wanted = .cyclic)) →
      Ensures (fun world => Label world ∧ world.device.mode = wanted)
        (setDevice change : Operation κ PUnit) (fun _ => Label) Label := by
    intro change hchange
    refine Ensures.modify fun world hworld => ?_
    obtain ⟨hmode, hwaiting, hcyclic⟩ := hchange world.device
    refine hworld.1.of_state hmode hwaiting fun hstate => ?_
    refine cyclicSince_of_lastMode ?_
    rw [← hworld.1.mode, hworld.2]
    exact hcyclic hstate
  refine Ensures.seq (fun state world =>
    Label world ∧ (state ≠ .waitReady → Idle world))
    (Ensures.get fun _ hworld => ⟨hworld, fun hstate => ⟨hworld, hstate⟩⟩)
    fun state => ?_
  apply Ensures.ite
  · intro _
    exact Ensures.pure fun _ hworld => hworld.1
  intro hstate
  refine Ensures.seq (fun mode world =>
    Idle world ∧ world.device.mode = mode)
    (Ensures.get fun _ hworld => ⟨hworld.2 hstate, rfl⟩) fun mode => ?_
  apply Ensures.ite
  · intro hmode
    refine Ensures.bind ((hset halready).weaken
      (fun _ hworld => ⟨hworld.1.1, hworld.2.trans hmode⟩)
      (fun _ _ hworld => hworld) fun _ hworld => hworld) fun _ => Keeps.pure
  intro _
  refine Ensures.seq (fun _ => Idle)
    (Ensures.get fun _ hworld => hworld.1) fun timeoutMs => ?_
  refine Ensures.bind ((hsteady.keepsExecute (allows_idle _ _) _ _ _ _).weaken
    (fun _ hworld => hworld) (fun _ => idle_label) idle_label) fun answer => ?_
  refine Ensures.seq (fun mode world =>
    Label world ∧ world.device.mode = mode)
    (Ensures.get fun _ hworld => ⟨hworld, rfl⟩) fun mode => ?_
  apply Ensures.ite
  · intro _
    exact Ensures.pure fun _ hworld => hworld.1
  intro hmode
  refine Ensures.seq (fun _ => Label) ?_ fun _ => Keeps.pure
  apply Ensures.when
  · intro hok
    refine (hset hentered).weaken (fun world hworld => ⟨hworld.1, ?_⟩)
      (fun _ _ hworld => hworld) fun _ hworld => hworld
    rw [hworld.2]
    exact not_not.mp fun hwrong => hmode ⟨hok, hwrong⟩
  · intro _ _ hworld
    exact hworld.1

theorem keepsLabel_hook (transport : Transport κ) {α : Type} (call : World κ → Answer κ α) :
    Keeps Label (hook call) := by
  refine (label_steady transport).keepsHook fun world hworld => ?_
  exact ⟨hworld.labelled, hworld.mode, hworld.waiting, hworld.cyclic⟩

theorem keepsLabel_reset : Keeps Label (reset transport) := by
  have hsteady := label_steady transport
  rw [reset]
  split
  · exact Keeps.pure
  refine Keeps.bind (keepsLabel_hook transport _) fun asserted => ?_
  refine Keeps.bind (hsteady.keepsTransportStatus _) fun status => ?_
  refine Keeps.ite (fun _ => Keeps.pure) fun _ => ?_
  refine Keeps.bind (hsteady.keepsNote trivial) fun _ => ?_
  refine Keeps.bind Keeps.get fun resetPulseMs => ?_
  refine Keeps.bind (hsteady.keepsDelay _) fun _ => ?_
  refine Keeps.bind (keepsLabel_hook transport _) fun released => ?_
  refine Keeps.bind (hsteady.keepsTransportStatus _) fun status => ?_
  refine Keeps.ite (fun _ => Keeps.pure) fun _ => ?_
  refine Keeps.bind Keeps.get fun resetReadyMs => ?_
  refine Keeps.bind (hsteady.keepsDelay _) fun _ => ?_
  -- the driver forgets the mode before the reset is recorded
  refine Ensures.seq (fun _ world => Labelled world.trace ∧
    world.device.state = .idle ∧ world.device.mode = .unknown) ?_ fun _ => ?_
  · exact Ensures.modify fun world hworld => ⟨hworld.labelled, rfl, rfl⟩
  refine Ensures.seq (fun _ => Label) ?_ fun _ => hsteady.keepsProbe
  refine Ensures.modify fun world hworld => ?_
  obtain ⟨hlabelled, hstate, hmode⟩ := hworld
  refine ⟨⟨trivial, hlabelled⟩, hmode, ?_, ?_⟩
  · intro hwaiting
    rw [World.note_device, hstate] at hwaiting
    exact absurd hwaiting (by decide)
  · intro hcyclic
    rw [World.note_device, hstate] at hcyclic
    exact absurd hcyclic (by decide)

theorem keepsLabel_cancel : Keeps Label (cancel : Operation κ PUnit) := by
  refine Keeps.modify fun world hworld => ?_
  refine ⟨hworld.labelled, hworld.mode, ?_, ?_⟩
  · intro hwaiting
    simp only [World.set_device, Device.cancelled] at hwaiting
    split_ifs at hwaiting with hleft hmode
    exact absurd (Or.inl hwaiting) hleft
  · intro hcyclic
    simp only [World.set_device, World.set_trace, Device.cancelled] at hcyclic ⊢
    split_ifs at hcyclic with hleft hmode
    · exact cyclicSince_of_lastMode (hworld.mode.symm.trans hmode)
    · exact hworld.cyclic hcyclic

/-! ## Measuring -/

/-- After an accepted command it is the last one. -/
theorem sendCommand_idle (command : UInt8) (data : Option UInt16) :
    Ensures Idle (sendCommand transport command data)
      (fun status world => Idle world ∧
        (status = .ok → lastCommand world.trace = some command)) Idle := by
  have hsteady := idle_steady transport
  refine Ensures.bind (hsteady.keepsWrite trivial) fun status => ?_
  refine Ensures.bind Keeps.get fun allowed => ?_
  refine Ensures.seq (fun _ world => Idle world ∧
    (status = .ok → lastCommand world.trace = some command)) ?_ fun _ => ?_
  · refine Ensures.modify fun world hworld => ?_
    refine ⟨hsteady.event world _ (Or.inr ⟨_, _, _, _, rfl⟩) hworld, fun hok => ?_⟩
    exact if_pos (decide_eq_true hok)
  refine Ensures.seq (fun _ world => Idle world ∧
    (status = .ok → lastCommand world.trace = some command)) ?_ fun _ => ?_
  · apply Ensures.when
    · intro _
      refine Ensures.modify fun world hworld => ?_
      exact ⟨hsteady.book world _ ⟨rfl, rfl, rfl, rfl, rfl, rfl, rfl⟩ hworld.1,
        hworld.2⟩
    · intro _ _ hworld
      exact hworld
  · exact Ensures.pure fun _ hworld => hworld

/-- A measurement whose command was accepted. -/
def Commanded (type : MeasurementType) (command : UInt8) (world : World κ) : Prop :=
  Label world ∧ world.device.pendingMeasurement = type ∧
    lastCommand world.trace = some command

theorem commanded_steady (transport : Transport κ) (type : MeasurementType) (command : UInt8) :
    Steady transport (fun _ => True) Calm (Commanded type command) := by
  have hlabel := label_steady transport
  refine Steady.of_context ?_ ?_ ?_ ?_
  · intro world context hworld
    exact ⟨⟨hworld.1.labelled, hworld.1.mode, hworld.1.waiting, hworld.1.cyclic⟩,
      hworld.2⟩
  · intro world device hbook hworld
    exact ⟨hlabel.book world device hbook hworld.1,
      hbook.pendingMeasurement.trans hworld.2.1, hworld.2.2⟩
  · intro world mode hworld
    exact ⟨hlabel.shown world mode hworld.1, hworld.2⟩
  · intro world event hcalm hworld
    refine ⟨hlabel.event world event hcalm hworld.1, hworld.2.1, ?_⟩
    exact (shows_of_calm hcalm world.trace).1.trans hworld.2.2

theorem keepsLabel_startMeasurement (type : MeasurementType) :
    Keeps Label (startMeasurement transport type) := by
  refine Ensures.bind requireNonCyclic_idle fun status => ?_
  apply Ensures.ite
  · intro _
    exact Ensures.pure fun _ hworld => hworld.1
  intro hok
  rcases hparameters : measurementParameters type with
    _ | ⟨command, responseLength, sampleCount⟩
  · exact Ensures.pure fun _ hworld => hworld.1
  refine Ensures.bind ((sendCommand_idle command none).weaken
    (fun _ hworld => hworld.2 (not_not.mp hok)) (fun _ _ hworld => hworld)
    idle_label) fun status => ?_
  apply Ensures.ite
  · intro _
    refine Ensures.seq (fun _ => Label) ?_ fun _ => Keeps.pure
    refine Ensures.modify fun world hworld => ?_
    exact hworld.1.1.of_state rfl (by simp) (by simp)
  intro hsent
  refine Ensures.seq (fun _ => Commanded type command) ?_ fun _ => ?_
  · refine Ensures.modify fun world hworld => ?_
    obtain ⟨⟨hlabel, hidle⟩, hlast⟩ := hworld
    refine ⟨⟨hlabel.labelled, hlabel.mode, ?_, hlabel.cyclic⟩, rfl,
      hlast (not_not.mp hsent)⟩
    exact fun hwaiting => absurd hwaiting hidle
  refine Ensures.bind (((commanded_steady transport type command).keepsNow).ensures
    fun _ hworld => hworld.1) fun start => ?_
  refine Ensures.seq (fun _ => Label) ?_ fun _ => Keeps.pure
  refine Ensures.modify fun world hworld => ?_
  obtain ⟨hlabel, hpending, hlast⟩ := hworld
  refine ⟨hlabel.labelled, hlabel.mode, fun _ => ?_, ?_⟩
  · refine ⟨command, responseLength, sampleCount, ?_, hlast⟩
    simp only [World.set_device, hpending, hparameters]
  · intro hcyclic
    exact absurd hcyclic (by simp)

/-- A frame that is published has the type that was read. -/
theorem readFrame_type {invariant : World κ → Prop}
    {harmless : List UInt8 → Prop} {quiet : Event → Prop}
    (hsteady : Steady transport harmless quiet invariant)
    (type : MeasurementType) (responseLength : ℕ) :
    Ensures invariant (readMeasurementFrame transport type responseLength)
      (fun answer world => invariant world ∧
        (publishes answer.1 = true → answer.2.type = type)) invariant := by
  have hdecode : ∀ frame frameLength, Ensures invariant
      (decodeMeasurement transport type frame frameLength)
      (fun answer world => invariant world ∧ answer.2.type = type) invariant := by
    intro frame frameLength
    refine Ensures.bind (hsteady.keepsDevice fun _ =>
      ⟨rfl, rfl, rfl, rfl, rfl, rfl, rfl⟩) fun _ => ?_
    refine Ensures.bind Keeps.get fun generation => ?_
    refine Ensures.bind hsteady.keepsNow fun timestampMs => ?_
    apply Ensures.ite
    · intro _
      exact Ensures.pure fun _ hworld => ⟨hworld, rfl⟩
    intro _
    rcases hframe : decodeFrame _ type frame frameLength with _ | result
    · exact Ensures.pure fun _ hworld => ⟨hworld, rfl⟩
    have htype : result.type = type := by
      cases type <;> simp only [decodeFrame] at hframe <;>
        split_ifs at hframe <;> rw [← Option.some.inj hframe]
    refine Ensures.bind (Keeps.when fun _ => hsteady.keepsDevice fun _ =>
      ⟨rfl, rfl, rfl, rfl, rfl, rfl, rfl⟩) fun _ => ?_
    exact Ensures.pure fun _ hworld => ⟨hworld, htype⟩
  have hread : Ensures invariant (read transport responseLength)
      (fun answer world => invariant world ∧
        (answer.1 ≠ .ok → publishes answer.1 = false)) invariant := by
    refine Ensures.bind (hsteady.keepsHook fun world => hsteady.answer world _ _ _)
      fun answered => ?_
    refine Ensures.seq (fun status world => invariant world ∧
      (status ≠ .ok → publishes status = false)) ?_ fun status => ?_
    · refine Ensures.bind (hsteady.keepsDevice fun device =>
        countTransport_book device answered.1) fun _ => ?_
      refine Ensures.pure fun _ hworld => ⟨hworld, fun hfailed => ?_⟩
      cases hanswer : answered.1 <;> rw [hanswer] at hfailed <;>
        first | rfl | exact absurd rfl hfailed
    · exact Ensures.pure fun _ hworld => hworld
  refine Ensures.bind hread fun answer => ?_
  apply Ensures.ite
  · intro hfailed
    refine Ensures.pure fun _ hworld => ⟨hworld.1, fun hpublish => ?_⟩
    rw [hworld.2 hfailed] at hpublish
    exact absurd hpublish (by simp)
  intro _
  refine Ensures.bind ((hdecode _ _).weaken (fun _ hworld => hworld.1)
    (fun _ _ hworld => hworld) fun _ hworld => hworld) fun decoded => ?_
  refine Ensures.seq (fun _ world =>
    invariant world ∧ decoded.2.type = type) ?_ fun _ => ?_
  · apply Ensures.when
    · intro _
      refine Ensures.modify fun world hworld => ?_
      exact ⟨hsteady.book world _ ⟨rfl, rfl, rfl, rfl, rfl, rfl, rfl⟩ hworld.1,
        hworld.2⟩
    · intro _ _ hworld
      exact hworld
  · exact Ensures.pure fun _ hworld => ⟨hworld.1, fun _ => hworld.2⟩

/-- A result of the type that the trace shows as measured. -/
theorem publishResult_label {before : World κ → Prop}
    (hbefore : ∀ world : World κ, before world → Label world)
    {type : MeasurementType}
    (hmeasured : ∀ world : World κ, before world → MeasuredBy type world.trace)
    (result : Measurement) :
    Ensures (fun world => before world ∧ result.type = type)
      (publishResult result : Operation κ PUnit) (fun _ => Label) Label := by
  refine Ensures.seq (fun _ world => Label world ∧
    MeasuredBy result.type world.trace) ?_ fun _ => ?_
  · refine Ensures.modify fun world hworld => ?_
    have hlabel := hbefore world hworld.1
    refine ⟨⟨hlabel.labelled, hlabel.mode, hlabel.waiting, hlabel.cyclic⟩, ?_⟩
    rw [hworld.2]
    exact hmeasured world hworld.1
  · refine Ensures.modify fun world hworld => ?_
    obtain ⟨hlabel, hresult⟩ := hworld
    exact ⟨⟨hresult, hlabel.labelled⟩, hlabel.mode, hlabel.waiting, hlabel.cyclic⟩

/-- The frame of a measurement, published where it is to be. -/
theorem publishRead_label {before : World κ → Prop}
    (hbefore : ∀ world : World κ, before world → Label world)
    {type : MeasurementType}
    (hmeasured : ∀ world : World κ, before world → MeasuredBy type world.trace)
    (answer : Status × Measurement) :
    Ensures (fun world => before world ∧
        (publishes answer.1 = true → answer.2.type = type))
      (when (publishes answer.1) (publishResult answer.2) : Operation κ PUnit)
      (fun _ => Label) Label := by
  apply Ensures.when
  · intro hpublish
    exact (publishResult_label hbefore hmeasured answer.2).weaken
      (fun _ hworld => ⟨hworld.1, hworld.2 hpublish⟩) (fun _ _ hworld => hworld)
      fun _ hworld => hworld
  · intro _ _ hworld
    exact hbefore _ hworld.1

/-- A device that was seen in cyclic mode. -/
def Cycling (world : World κ) : Prop :=
  Label world ∧ cyclicSince world.trace = true

theorem cycling_steady (transport : Transport κ) :
    Steady transport (fun _ => True) Calm Cycling := by
  have hlabel := label_steady transport
  refine Steady.of_context ?_ ?_ ?_ ?_
  · intro world context hworld
    exact ⟨⟨hworld.1.labelled, hworld.1.mode, hworld.1.waiting, hworld.1.cyclic⟩,
      hworld.2⟩
  · intro world device hbook hworld
    exact ⟨hlabel.book world device hbook hworld.1, hworld.2⟩
  · intro world mode hworld
    refine ⟨hlabel.shown world mode hworld.1, ?_⟩
    simp [cyclicSince, hworld.2]
  · intro world event hcalm hworld
    refine ⟨hlabel.event world event hcalm hworld.1, ?_⟩
    exact (shows_of_calm hcalm world.trace).2.2.trans hworld.2

theorem processCyclic_label :
    Ensures Cycling (processCyclic transport) (fun _ => Label) Label := by
  have hsteady := cycling_steady transport
  have hlabel : ∀ world : World κ, Cycling world → Label world :=
    fun _ hworld => hworld.1
  refine Ensures.bind (Keeps.ensures Keeps.get hlabel) fun eocPending => ?_
  apply Ensures.ite
  · intro _
    exact Ensures.pure hlabel
  intro _
  refine Ensures.bind (Keeps.ensures (hsteady.keepsDevice fun device => ?_) hlabel)
    fun _ => ?_
  · exact ⟨rfl, rfl, rfl, rfl, rfl, rfl, rfl⟩
  refine Ensures.bind ((readFrame_type hsteady .cyclic _).weaken
    (fun _ hworld => hworld) (fun _ _ hworld => hworld) hlabel) fun answer => ?_
  have hmeasured : ∀ world : World κ, Cycling world →
      MeasuredBy .cyclic world.trace := fun _ hworld => hworld.2
  refine Ensures.bind (publishRead_label hlabel hmeasured answer) fun _ => ?_
  refine Keeps.bind ((label_steady transport).keepsDevice fun device => ?_)
    fun _ => Keeps.pure
  exact ⟨rfl, rfl, rfl, rfl, rfl, rfl, rfl⟩

/-- A measurement under way. -/
def Waiting (world : World κ) : Prop :=
  Label world ∧ world.device.state = .waitReady

theorem waiting_steady (transport : Transport κ) :
    Steady transport (fun _ => True) Calm Waiting := by
  have hlabel := label_steady transport
  refine Steady.of_context ?_ ?_ ?_ ?_
  · intro world context hworld
    exact ⟨⟨hworld.1.labelled, hworld.1.mode, hworld.1.waiting, hworld.1.cyclic⟩,
      hworld.2⟩
  · intro world device hbook hworld
    exact ⟨hlabel.book world device hbook hworld.1, hbook.state.trans hworld.2⟩
  · intro world mode hworld
    exact ⟨hlabel.shown world mode hworld.1, hworld.2⟩
  · intro world event hcalm hworld
    exact ⟨hlabel.event world event hcalm hworld.1, hworld.2⟩

theorem Waiting.measured {world : World κ} (hworld : Waiting world) :
    MeasuredBy world.device.pendingMeasurement world.trace := by
  obtain ⟨command, responseLength, sampleCount, hparameters, hlast⟩ :=
    hworld.1.waiting hworld.2
  have hcyclic : world.device.pendingMeasurement ≠ .cyclic := by
    intro heq
    rw [heq] at hparameters
    exact absurd hparameters (by simp [measurementParameters])
  rw [MeasuredBy, if_neg hcyclic]
  exact ⟨command, responseLength, sampleCount, hparameters, hlast⟩

theorem processWaiting_label :
    Ensures Waiting (processWaiting transport) (fun _ => Label) Label := by
  have hsteady := waiting_steady transport
  have hlabel : ∀ world : World κ, Waiting world → Label world :=
    fun _ hworld => hworld.1
  -- the measurement ends, with a result or without
  have hends : ∀ (change : Device → Device) (state : DriverState),
      (∀ device, (change device).mode = device.mode) →
      (∀ device, (change device).state = state) →
      state ≠ .waitReady → state ≠ .cyclic → ∀ status,
      Ensures Waiting (do setDevice change; pure status : Operation κ Status)
        (fun _ => Label) Label := by
    intro change state hmode hstate hwaiting hcyclic status
    refine Ensures.weaken (Keeps.bind
      (keepsLabel_setDevice hmode hstate hwaiting hcyclic) fun _ => Keeps.pure)
      hlabel (fun _ _ hworld => hworld) fun _ hworld => hworld
  refine Ensures.bind (hsteady.keepsNow.ensures hlabel) fun current => ?_
  refine Ensures.bind (Keeps.ensures Keeps.get hlabel) fun late => ?_
  apply Ensures.ite
  · intro _
    exact hends _ .timeout (by intro device; rfl) (by intro device; rfl)
      (by decide) (by decide) _
  intro _
  refine Ensures.bind (Keeps.ensures Keeps.get hlabel) fun early => ?_
  apply Ensures.ite
  · intro _
    exact Ensures.pure hlabel
  intro _
  refine Ensures.bind (Keeps.ensures (hsteady.keepsDevice fun device => ?_) hlabel)
    fun _ => ?_
  · exact ⟨rfl, rfl, rfl, rfl, rfl, rfl, rfl⟩
  refine Ensures.bind (hsteady.keepsReadStatus.ensures hlabel) fun answer => ?_
  apply Ensures.ite
  · intro _
    exact hends _ .error (by intro device; rfl) (by intro device; rfl)
      (by decide) (by decide) _
  intro _
  apply Ensures.ite
  · intro _
    refine Ensures.bind (Keeps.ensures (hsteady.keepsDevice fun device => ?_) hlabel)
      fun _ => ?_
    · exact ⟨rfl, rfl, rfl, rfl, rfl, rfl, rfl⟩
    · exact Ensures.pure hlabel
  intro _
  refine Ensures.seq (fun type world => Waiting world ∧
    world.device.pendingMeasurement = type)
    (Ensures.get fun _ hworld => ⟨hworld, rfl⟩) fun type => ?_
  refine Ensures.seq (fun _ world => Waiting world ∧
    world.device.pendingMeasurement = type)
    (Ensures.get fun _ hworld => hworld) fun responseLength => ?_
  have hread : Steady transport (fun _ => True) Calm
      (fun world : World κ => Waiting world ∧
        world.device.pendingMeasurement = type) := by
    refine ⟨?_, ?_, ?_, ?_, ?_, ?_, ?_⟩
    · exact fun world hworld => ⟨hsteady.tick world hworld.1, hworld.2⟩
    · exact fun world delayMs hworld =>
        ⟨hsteady.wait world delayMs hworld.1, hworld.2⟩
    · exact fun world address length timeoutMs hworld =>
        ⟨hsteady.answer world address length timeoutMs hworld.1, hworld.2⟩
    · exact fun world address data timeoutMs hdata hworld =>
        ⟨hsteady.send world address data timeoutMs hdata hworld.1, hworld.2⟩
    · exact fun world device hbook hworld =>
        ⟨hsteady.book world device hbook hworld.1,
          hbook.pendingMeasurement.trans hworld.2⟩
    · exact fun world mode hworld => ⟨hsteady.shown world mode hworld.1, hworld.2⟩
    · exact fun world event hcalm hworld =>
        ⟨hsteady.event world event hcalm hworld.1, hworld.2⟩
  have hpending : ∀ world : World κ, Waiting world ∧
      world.device.pendingMeasurement = type → MeasuredBy type world.trace := by
    rintro world ⟨hworld, rfl⟩
    exact hworld.measured
  refine Ensures.bind ((readFrame_type hread type _).weaken (fun _ hworld => hworld)
    (fun _ _ hworld => hworld) fun _ hworld => hworld.1.1) fun answer => ?_
  refine Ensures.bind (publishRead_label (fun _ hworld => hworld.1.1) hpending
    answer) fun _ => ?_
  refine Keeps.bind (keepsLabel_setDevice (fun _ => rfl) (fun _ => rfl)
    (by decide) (by decide)) fun _ => ?_
  exact Keeps.bind Keeps.get fun _ => Keeps.pure

theorem keepsLabel_process : Keeps Label (process transport) := by
  refine Ensures.seq (fun state world => Label world ∧ world.device.state = state)
    (Ensures.get fun _ hworld => ⟨hworld, rfl⟩) fun state => ?_
  cases state with
  | cyclic =>
      exact processCyclic_label.weaken
        (fun _ hworld => ⟨hworld.1, hworld.1.cyclic hworld.2⟩)
        (fun _ _ hworld => hworld) fun _ hworld => hworld
  | waitReady =>
      exact processWaiting_label.weaken (fun _ hworld => hworld)
        (fun _ _ hworld => hworld) fun _ hworld => hworld
  | error => exact Ensures.get fun _ hworld => hworld.1
  | _ => exact Ensures.pure fun _ hworld => hworld.1

theorem keepsLabel_awaitMeasurement (polls : ℕ) (status : Status) :
    Keeps Label (awaitMeasurement transport polls status) := by
  induction polls generalizing status with
  | zero => exact Keeps.stop
  | succ polls ih =>
      refine Keeps.bind Keeps.get fun state => ?_
      refine Keeps.ite (fun _ => Keeps.pure) fun _ => ?_
      refine Keeps.bind keepsLabel_process fun status => ?_
      apply Keeps.ite
      · intro _
        refine Keeps.bind Keeps.get fun pollIntervalMs => ?_
        exact Keeps.bind ((label_steady transport).keepsDelay _) fun _ => ih status
      · intro _
        exact Keeps.pure

theorem keepsLabel_getLatestResult :
    Keeps Label (getLatestResult : Operation κ (Status × Measurement)) := by
  refine Keeps.bind Keeps.get fun resultPending => ?_
  refine Keeps.ite (fun _ => Keeps.pure) fun _ => ?_
  refine Keeps.bind Keeps.get fun result => ?_
  refine Keeps.bind (Keeps.modify fun world hworld => ?_) fun _ => Keeps.pure
  exact ⟨hworld.labelled, hworld.mode, hworld.waiting, hworld.cyclic⟩

theorem keepsLabel_measureBlocking (polls : ℕ) (type : MeasurementType) :
    Keeps Label (measureBlocking transport polls type) := by
  refine Keeps.bind (keepsLabel_startMeasurement type) fun status => ?_
  refine Keeps.ite (fun _ => Keeps.pure) fun _ => ?_
  refine Keeps.bind (keepsLabel_awaitMeasurement polls status) fun status => ?_
  refine Keeps.bind Keeps.get fun resultPending => ?_
  refine Keeps.ite (fun _ => ?_) fun _ => Keeps.pure
  exact Keeps.bind keepsLabel_getLatestResult fun _ => Keeps.pure

/-! ## Runs -/

theorem keepsLabel_perform (polls : ℕ) (call : Call) :
    Keeps Label (perform transport polls call) := by
  have hsteady := label_steady transport
  have hanswer : ∀ {α : Type} {operation : Operation κ (Status × α)},
      Keeps Label operation →
      Keeps Label (do pure (← operation).1 : Operation κ Status) :=
    fun hoperation => Keeps.bind hoperation fun _ => Keeps.pure
  -- the unlocking of the memory is nothing that a result depends on
  have hunlocked : ∀ unlocked : Bool, Keeps Label
      (setDevice fun device => { device with nvmWriteUnlocked := unlocked } :
        Operation κ PUnit) := by
    intro unlocked
    refine Keeps.modify fun world hworld => ?_
    exact ⟨hworld.labelled, hworld.mode, hworld.waiting, hworld.cyclic⟩
  cases call with
  | probe => exact hsteady.keepsProbe
  | reset => exact keepsLabel_reset
  | readStatus => exact hanswer hsteady.keepsReadStatus
  | enterCommandMode | stopCyclicMode =>
      exact keepsLabel_enterMode polls _ (fun _ => ⟨rfl, by simp, by simp⟩)
        fun _ => ⟨rfl, by simp, by simp⟩
  | enterSleepMode =>
      exact keepsLabel_enterMode polls _ (fun _ => ⟨rfl, by simp, by simp⟩)
        fun _ => ⟨rfl, by simp, by simp⟩
  | startCyclicMode =>
      exact keepsLabel_enterMode polls _ (fun _ => ⟨rfl, by simp, fun _ => rfl⟩)
        fun _ => ⟨rfl, by simp, fun _ => rfl⟩
  | startMeasurement type => exact keepsLabel_startMeasurement type
  | process => exact keepsLabel_process
  | onEocInterrupt =>
      exact Keeps.bind (hsteady.keepsDevice onEocInterrupt_book) fun _ => Keeps.pure
  | cancel => exact Keeps.bind keepsLabel_cancel fun _ => Keeps.pure
  | getLatestResult => exact hanswer keepsLabel_getLatestResult
  | measure | measureRawSensor | measureRawTemperature =>
      exact hanswer (keepsLabel_measureBlocking polls _)
  | measureOversampled sampleCount =>
      apply hanswer
      rw [measureOversampled]
      split_ifs <;> first | exact keepsLabel_measureBlocking polls _ | exact Keeps.pure
  | readCyclicResult =>
      apply hanswer
      refine Keeps.bind Keeps.get fun wrongMode => ?_
      exact Keeps.ite (fun _ => Keeps.pure) fun _ => hsteady.keepsReadFrame _ _
  | readDiagnostics => exact hanswer (keepsLabel_readDiagnostics polls)
  | resetDiagnostics | updateDiagnostics | setPostCalibrationOffset expectedOutput =>
      exact keepsLabel_guarded requireNonCyclic_idle _ _ _ _
  | setDacDiagnostic dacValue =>
      exact keepsLabel_guarded requireCommandMode_idle _ _ _ _
  | runSelfDiagnostic pseudoOffset =>
      exact hanswer (keepsLabel_runSelfDiagnostic polls pseudoOffset)
  | readNvm address => exact hanswer (keepsLabel_readNvm polls address)
  | dumpNvm wordCount =>
      apply hanswer
      exact Keeps.ite (fun _ => Keeps.pure) fun _ => keepsLabel_dumpFrom _ _ _ _
  | unlockNvmWrites unlockKey =>
      refine Keeps.bind Keeps.get fun allowed => ?_
      refine Keeps.ite (fun _ => Keeps.pure) fun _ => ?_
      refine Keeps.ite (fun _ => Keeps.pure) fun _ => ?_
      refine Keeps.bind (hunlocked true) fun _ => ?_
      exact Keeps.bind (hsteady.keepsNote trivial) fun _ => Keeps.pure
  | lockNvmWrites =>
      refine Keeps.bind (Keeps.bind (hunlocked false) fun _ => ?_) fun _ => Keeps.pure
      exact hsteady.keepsNote trivial
  | writeNvm address value => exact keepsLabel_writeNvm polls address value
  | writeNvmBlock startAddress values updateChecksum =>
      exact keepsLabel_writeNvmBlock polls startAddress values updateChecksum
  | updateNvmChecksum => exact keepsLabel_updateNvmChecksum polls
  | overwriteShadow reg value =>
      refine Keeps.ite (fun _ => Keeps.pure) fun _ => ?_
      exact keepsLabel_guarded requireCommandMode_idle _ _ _ _

theorem keepsLabel_performAll (calls : List (Call × ℕ)) :
    Keeps Label (performAll transport calls) := by
  induction calls with
  | nil => exact Keeps.pure
  | cons call rest ih =>
      exact Keeps.bind (keepsLabel_perform call.2 call.1) fun _ => ih

/-- In every run of the interface, on any platform, with any interrupts and with
any call cut short, every result was measured by what its type says. -/
theorem results_labelled (transport : Transport κ) (address7bit : UInt8)
    (config : Option Config) (context : κ) (calls : List (Call × ℕ)) :
    Labelled ((performAll transport calls).run
      (World.init address7bit config context [])).2.trace := by
  have hinit : Label (World.init address7bit config context []) := by
    refine ⟨⟨trivial, trivial⟩, rfl, ?_, ?_⟩
    · intro hwaiting
      exact absurd (show DriverState.idle = .waitReady from hwaiting) (by simp)
    · intro hcyclic
      exact absurd (show DriverState.idle = .cyclic from hcyclic) (by simp)
  exact ((keepsLabel_performAll calls).final hinit).labelled

end Swfpm.Zssc3241
