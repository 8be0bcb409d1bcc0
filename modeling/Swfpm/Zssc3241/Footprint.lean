import Swfpm.Zssc3241.Operations

/-!
# What the operations of the ZSSC3241 driver touch

A command and its answer change counters, the observed mode and the last error of
the driver and record a few events; the state of the driver, its configuration
and the unlocking of the memory stay.  An invariant that such steps keep is
`Steady`, and every operation made of them keeps it.
-/

namespace Swfpm.Zssc3241

open Program

/-- The device after a step that only keeps books. -/
structure Book (before after : Device) : Prop where
  config : after.config = before.config
  address : after.address7bit = before.address7bit
  state : after.state = before.state
  mode : after.mode = before.mode
  pendingMeasurement : after.pendingMeasurement = before.pendingMeasurement
  pendingResponseLength :
    after.pendingResponseLength = before.pendingResponseLength
  nvmWriteUnlocked : after.nvmWriteUnlocked = before.nvmWriteUnlocked

variable {κ : Type*}

/-- The invariant is kept by bookkeeping, by the events in `quiet`, by the clock
and by every transfer but the writes of frames outside `harmless`. -/
structure Steady (transport : Transport κ) (harmless : List UInt8 → Prop)
    (quiet : Event → Prop) (invariant : World κ → Prop) : Prop where
  tick : ∀ world : World κ, invariant world →
    invariant { world with context := (transport.getTickMs world.context).context }
  wait : ∀ (world : World κ) delayMs, invariant world → invariant
    { world with context := (transport.delayMs world.context delayMs).context }
  answer : ∀ (world : World κ) address length timeoutMs, invariant world →
    invariant { world with
      context := (transport.read world.context address length timeoutMs).context }
  send : ∀ (world : World κ) address data timeoutMs, harmless data →
    invariant world → invariant { world with
      context := (transport.write world.context address data timeoutMs).context }
  book : ∀ (world : World κ) device, Book world.device device →
    invariant world → invariant (world.set device)
  shown : ∀ (world : World κ) mode, invariant world →
    invariant ((world.set { world.device with mode }).note (.observed mode))
  event : ∀ (world : World κ) event, quiet event → invariant world →
    invariant (world.note event)

/-- An invariant that does not look at the platform. -/
theorem Steady.of_context {transport : Transport κ} {quiet : Event → Prop}
    {invariant : World κ → Prop}
    (hcontext : ∀ (world : World κ) context, invariant world →
      invariant { world with context })
    (hbook : ∀ (world : World κ) device, Book world.device device →
      invariant world → invariant (world.set device))
    (hobserve : ∀ (world : World κ) mode, invariant world →
      invariant ((world.set { world.device with mode }).note (.observed mode)))
    (hevent : ∀ (world : World κ) event, quiet event → invariant world →
      invariant (world.note event)) :
    Steady transport (fun _ => True) quiet invariant :=
  ⟨fun world => hcontext world _, fun world _ => hcontext world _,
    fun world _ _ _ => hcontext world _, fun world _ _ _ _ => hcontext world _,
    hbook, hobserve, hevent⟩

/-- The frame and the events of a command are among those an invariant allows. -/
structure Allows (harmless : List UInt8 → Prop) (quiet : Event → Prop)
    (command : UInt8) (data : Option UInt16) : Prop where
  bytes : harmless (frameBytes command data)
  frame : ∀ accepted allowed, quiet (.frame command data accepted allowed)
  completed : quiet (.completed command)

theorem onEocInterrupt_book (device : Device) :
    Book device device.onEocInterrupt := by
  rw [Device.onEocInterrupt]
  dsimp only
  split_ifs <;> exact ⟨rfl, rfl, rfl, rfl, rfl, rfl, rfl⟩

theorem status_eq_ok {answered : TransportStatus} :
    answered.status = .ok ↔ answered = .ok := by
  cases answered <;> simp [TransportStatus.status]

theorem edge_book (device : Device) (edge : Bool) :
    Book device (if edge then device.onEocInterrupt else device) := by
  split_ifs
  · exact onEocInterrupt_book device
  · exact ⟨rfl, rfl, rfl, rfl, rfl, rfl, rfl⟩

theorem countTransport_book (device : Device) (answered : TransportStatus) :
    Book device (device.countTransport answered) := by
  cases answered <;> exact ⟨rfl, rfl, rfl, rfl, rfl, rfl, rfl⟩

namespace Steady

variable {transport : Transport κ} {harmless : List UInt8 → Prop}
variable {quiet : Event → Prop} {invariant : World κ → Prop}

theorem keepsHook (hsteady : Steady transport harmless quiet invariant)
    {α : Type} {call : World κ → Answer κ α}
    (hcall : ∀ world, invariant world →
      invariant { world with context := (call world).context }) :
    Keeps invariant (hook call) := by
  intro world hworld
  exact hsteady.book { world with context := (call world).context } _
    (edge_book _ _) (hcall world hworld)

theorem keepsDevice (hsteady : Steady transport harmless quiet invariant)
    {change : Device → Device} (hbook : ∀ device, Book device (change device)) :
    Keeps invariant (setDevice change : Operation κ PUnit) :=
  Keeps.modify fun world hworld => hsteady.book world _ (hbook _) hworld

theorem keepsNote (hsteady : Steady transport harmless quiet invariant)
    {event : Event}
    (hquiet : quiet event) : Keeps invariant (note event : Operation κ PUnit) :=
  Keeps.modify fun world hworld => hsteady.event world event hquiet hworld

theorem keepsNow (hsteady : Steady transport harmless quiet invariant) :
    Keeps invariant (now transport) :=
  hsteady.keepsHook hsteady.tick

theorem keepsDelay (hsteady : Steady transport harmless quiet invariant)
    (delayMs : UInt32) :
    Keeps invariant (delay transport delayMs) := by
  apply Keeps.ite
  · intro _
    exact Keeps.bind (hsteady.keepsHook fun world => hsteady.wait world _)
      fun _ => Keeps.pure
  · intro _
    exact Keeps.pure

theorem keepsTransportStatus (hsteady : Steady transport harmless quiet invariant)
    (answered : TransportStatus) :
    Keeps invariant (transportStatus answered : Operation κ Status) := by
  refine Keeps.bind (hsteady.keepsDevice fun device => ?_) fun _ => Keeps.pure
  exact countTransport_book device answered

theorem keepsWrite (hsteady : Steady transport harmless quiet invariant)
    {data : List UInt8} (hdata : harmless data) :
    Keeps invariant (write transport data) :=
  Keeps.bind (hsteady.keepsHook fun world => hsteady.send world _ _ _ hdata)
    fun answered => hsteady.keepsTransportStatus answered

theorem keepsRead (hsteady : Steady transport harmless quiet invariant)
    (length : ℕ) :
    Keeps invariant (read transport length) := by
  refine Keeps.bind (hsteady.keepsHook fun world => hsteady.answer world _ _ _)
    fun answered => ?_
  exact Keeps.bind (hsteady.keepsTransportStatus _) fun _ => Keeps.pure

theorem keepsSendCommand (hsteady : Steady transport harmless quiet invariant)
    {command : UInt8} {data : Option UInt16}
    (hcommand : Allows harmless quiet command data) :
    Keeps invariant (sendCommand transport command data) := by
  refine Keeps.bind (hsteady.keepsWrite hcommand.bytes) fun status => ?_
  refine Keeps.bind Keeps.get fun allowed => ?_
  refine Keeps.bind (hsteady.keepsNote (hcommand.frame _ _)) fun _ => ?_
  refine Keeps.bind (Keeps.when fun _ => ?_) fun _ => Keeps.pure
  exact hsteady.keepsDevice fun device => ⟨rfl, rfl, rfl, rfl, rfl, rfl, rfl⟩

theorem keepsObserve (hsteady : Steady transport harmless quiet invariant)
    (mode : Mode) :
    Keeps invariant (observe mode : Operation κ PUnit) := by
  intro world hworld
  exact hsteady.shown world mode hworld

theorem keepsCountInvalid (hsteady : Steady transport harmless quiet invariant) :
    Keeps invariant (setDevice countInvalidResponse : Operation κ PUnit) :=
  hsteady.keepsDevice fun _ => ⟨rfl, rfl, rfl, rfl, rfl, rfl, rfl⟩

theorem keepsReadStatus (hsteady : Steady transport harmless quiet invariant) :
    Keeps invariant (readStatusInternal transport) := by
  refine Keeps.bind (hsteady.keepsRead 1) fun answer => ?_
  refine Keeps.ite (fun _ => Keeps.pure) fun _ => ?_
  refine Keeps.bind (Keeps.when fun _ => hsteady.keepsCountInvalid) fun _ => ?_
  exact Keeps.bind (Keeps.when fun _ => hsteady.keepsObserve _) fun _ =>
    Keeps.pure

/-! ## A command and its answer -/

theorem keepsFail (hsteady : Steady transport harmless quiet invariant)
    (status : Status) :
    Keeps invariant (fail status : Operation κ (Status × List UInt8)) := by
  refine Keeps.bind (hsteady.keepsDevice fun device => ?_) fun _ => Keeps.pure
  exact ⟨rfl, rfl, rfl, rfl, rfl, rfl, rfl⟩

theorem keepsFinishCommand (hsteady : Steady transport harmless quiet invariant)
    {command : UInt8}
    (hcompleted : quiet (.completed command)) (decoded : DeviceStatus)
    (response : List UInt8) (evaluateFaults : Bool) :
    Keeps invariant
      (finishCommand command decoded response evaluateFaults :
        Operation κ (Status × List UInt8)) := by
  refine Keeps.bind (hsteady.keepsObserve _) fun _ => ?_
  refine Keeps.bind (hsteady.keepsNote hcompleted) fun _ => ?_
  refine Keeps.bind (Keeps.when fun _ => hsteady.keepsDevice fun device => ?_)
    fun _ => ?_
  · exact ⟨rfl, rfl, rfl, rfl, rfl, rfl, rfl⟩
  · exact Keeps.bind (hsteady.keepsDevice fun device =>
      ⟨rfl, rfl, rfl, rfl, rfl, rfl, rfl⟩) fun _ => Keeps.pure

theorem keepsReadResponse (hsteady : Steady transport harmless quiet invariant)
    {command : UInt8}
    (hcompleted : quiet (.completed command)) (decoded : DeviceStatus)
    (responseLength : ℕ) (evaluateFaults : Bool) :
    Keeps invariant
      (readResponse transport command decoded responseLength evaluateFaults) := by
  apply Keeps.ite
  · intro _
    exact hsteady.keepsFinishCommand hcompleted _ _ _
  intro _
  refine Keeps.bind (hsteady.keepsRead _) fun answer => ?_
  refine Keeps.ite (fun _ => hsteady.keepsFail _) fun _ => ?_
  apply Keeps.ite
  · intro _
    exact Keeps.bind hsteady.keepsCountInvalid fun _ => hsteady.keepsFail _
  · intro _
    exact hsteady.keepsFinishCommand hcompleted _ _ _

theorem keepsAwaitResponse (hsteady : Steady transport harmless quiet invariant)
    {command : UInt8}
    (hcompleted : quiet (.completed command)) (responseLength : ℕ)
    (start timeoutMs : UInt32) (evaluateFaults : Bool) (polls : ℕ) :
    Keeps invariant (awaitResponse transport command responseLength start
      timeoutMs evaluateFaults polls) := by
  induction polls with
  | zero => exact Keeps.stop
  | succ polls ih =>
      refine Keeps.bind hsteady.keepsNow fun current => ?_
      apply Keeps.ite
      · intro _
        exact Keeps.bind (hsteady.keepsDevice fun device =>
          ⟨rfl, rfl, rfl, rfl, rfl, rfl, rfl⟩) fun _ => hsteady.keepsFail _
      intro _
      refine Keeps.bind hsteady.keepsReadStatus fun answer => ?_
      refine Keeps.ite (fun _ => hsteady.keepsFail _) fun _ => ?_
      apply Keeps.ite
      · intro _
        refine Keeps.bind Keeps.get fun pollIntervalMs => ?_
        exact Keeps.bind (hsteady.keepsDelay _) fun _ => ih
      · intro _
        exact hsteady.keepsReadResponse hcompleted _ _ _

/-- A command leaves a steady invariant alone whose events it records. -/
theorem keepsExecute (hsteady : Steady transport harmless quiet invariant)
    {command : UInt8}
    {data : Option UInt16}
    (hcommand : Allows harmless quiet command data) (polls responseLength : ℕ)
    (timeoutMs : UInt32) (evaluateFaults : Bool) :
    Keeps invariant (executeCommand transport polls command data responseLength
      timeoutMs evaluateFaults) := by
  refine Keeps.bind Keeps.get fun state => ?_
  refine Keeps.ite (fun _ => Keeps.pure) fun _ => ?_
  refine Keeps.bind (hsteady.keepsSendCommand hcommand) fun status => ?_
  refine Keeps.ite (fun _ => hsteady.keepsFail _) fun _ => ?_
  refine Keeps.bind hsteady.keepsNow fun start => ?_
  exact hsteady.keepsAwaitResponse hcommand.completed _ _ _ _ _

/-! ## Reading a measurement -/

theorem keepsDecodeMeasurement (hsteady : Steady transport harmless quiet invariant)
    (type : MeasurementType) (frame : List UInt8) (frameLength : ℕ) :
    Keeps invariant (decodeMeasurement transport type frame frameLength) := by
  refine Keeps.bind (hsteady.keepsDevice fun device =>
    ⟨rfl, rfl, rfl, rfl, rfl, rfl, rfl⟩) fun _ => ?_
  refine Keeps.bind Keeps.get fun generation => ?_
  refine Keeps.bind hsteady.keepsNow fun timestampMs => ?_
  refine Keeps.ite (fun _ => Keeps.pure) fun _ => ?_
  split
  · exact Keeps.pure
  · exact Keeps.bind (Keeps.when fun _ => hsteady.keepsDevice fun device =>
      ⟨rfl, rfl, rfl, rfl, rfl, rfl, rfl⟩) fun _ => Keeps.pure

theorem keepsReadFrame (hsteady : Steady transport harmless quiet invariant)
    (type : MeasurementType) (responseLength : ℕ) :
    Keeps invariant (readMeasurementFrame transport type responseLength) := by
  refine Keeps.bind (hsteady.keepsRead _) fun answer => ?_
  refine Keeps.ite (fun _ => Keeps.pure) fun _ => ?_
  refine Keeps.bind (hsteady.keepsDecodeMeasurement _ _ _) fun decoded => ?_
  exact Keeps.bind (Keeps.when fun _ => hsteady.keepsCountInvalid) fun _ =>
    Keeps.pure

/-! ## Modes and diagnostics -/

theorem keepsModeStatus : Keeps invariant (modeStatus : Operation κ Status) :=
  Keeps.bind Keeps.get fun _ => Keeps.pure

theorem keepsRequireNonCyclic (hsteady : Steady transport harmless quiet invariant) :
    Keeps invariant (requireNonCyclic transport) := by
  refine Keeps.bind Keeps.get fun state => ?_
  refine Keeps.ite (fun _ => Keeps.pure) fun _ => ?_
  refine Keeps.bind Keeps.get fun mode => ?_
  refine Keeps.ite (fun _ => ?_) fun _ => keepsModeStatus
  refine Keeps.bind hsteady.keepsReadStatus fun answer => ?_
  exact Keeps.ite (fun _ => Keeps.pure) fun _ => keepsModeStatus

theorem keepsRequireCommandMode (hsteady : Steady transport harmless quiet invariant) :
    Keeps invariant (requireCommandMode transport) := by
  refine Keeps.bind hsteady.keepsRequireNonCyclic fun status => ?_
  refine Keeps.ite (fun _ => Keeps.pure) fun _ => ?_
  exact Keeps.bind Keeps.get fun _ => Keeps.pure

theorem keepsProbe (hsteady : Steady transport harmless quiet invariant) :
    Keeps invariant (probe transport) :=
  Keeps.bind hsteady.keepsReadStatus fun _ => Keeps.pure

theorem keepsStatusCommand (hsteady : Steady transport harmless quiet invariant)
    {command : UInt8}
    {data : Option UInt16}
    (hcommand : Allows harmless quiet command data) (polls : ℕ)
    (timeoutMs : Config → UInt32) :
    Keeps invariant (statusCommand transport polls command data timeoutMs) := by
  refine Keeps.bind Keeps.get fun timeout => ?_
  exact Keeps.bind (hsteady.keepsExecute hcommand _ _ _ _) fun _ =>
    Keeps.pure

theorem keepsReadDiagnostics (hsteady : Steady transport harmless quiet invariant)
    (hcommand : Allows harmless quiet cmdCheckDiag none) (polls : ℕ) :
    Keeps invariant (readDiagnostics transport polls) := by
  refine Keeps.bind hsteady.keepsRequireNonCyclic fun status => ?_
  refine Keeps.ite (fun _ => Keeps.pure) fun _ => ?_
  refine Keeps.bind Keeps.get fun timeout => ?_
  refine Keeps.bind (hsteady.keepsExecute hcommand _ _ _ _) fun answer => ?_
  exact Keeps.ite (fun _ => Keeps.pure) fun _ => Keeps.pure

/-- A command that is sent where the required mode allows it; what the mode
assures the command keeps. -/
theorem keepsGuarded {assured : World κ → Prop}
    (hsteady : Steady transport harmless quiet assured)
    (hassured : ∀ world, assured world → invariant world)
    {required : Operation κ Status}
    (hrequired : Ensures invariant required
      (fun status world => invariant world ∧ (status = .ok → assured world))
      invariant)
    {command : UInt8} {data : Option UInt16}
    (hcommand : Allows harmless quiet command data) (polls : ℕ)
    (timeoutMs : Config → UInt32) :
    Keeps invariant (do
      let status ← required
      if status ≠ .ok then
        pure status
      else
        statusCommand transport polls command data timeoutMs) := by
  refine Ensures.bind hrequired fun status => ?_
  apply Ensures.ite
  · intro _
    exact Ensures.pure fun _ hworld => hworld.1
  · intro hok
    exact (hsteady.keepsStatusCommand hcommand _ _).weaken
      (fun _ hworld => hworld.2 (not_not.mp hok)) (fun _ => hassured) hassured

/-- The required mode assures nothing more than the invariant. -/
theorem assures {required : Operation κ Status}
    (hrequired : Keeps invariant required) :
    Ensures invariant required
      (fun status world => invariant world ∧ (status = .ok → invariant world))
      invariant :=
  hrequired.weaken (fun _ hworld => hworld)
    (fun _ _ hworld => ⟨hworld, fun _ => hworld⟩) fun _ hworld => hworld

theorem keepsRunSelfDiagnostic (hsteady : Steady transport harmless quiet invariant)
    {pseudoOffset : UInt8} (hcommand : Allows harmless quiet cmdSelfDiagMeasure
      (some pseudoOffset.toUInt16)) (polls : ℕ) :
    Keeps invariant (runSelfDiagnostic transport polls pseudoOffset) := by
  refine Keeps.bind hsteady.keepsRequireCommandMode fun status => ?_
  refine Keeps.ite (fun _ => Keeps.pure) fun _ => ?_
  refine Keeps.bind Keeps.get fun timeout => ?_
  refine Keeps.bind (hsteady.keepsExecute hcommand _ _ _ _)
    fun answer => ?_
  exact Keeps.ite (fun _ => Keeps.pure) fun _ =>
    hsteady.keepsDecodeMeasurement _ _ _

theorem keepsReadNvm (hsteady : Steady transport harmless quiet invariant)
    {address : UInt8}
    (hcommand : ¬address > nvmReadMax → Allows harmless quiet address none)
    (hword : ∀ value, quiet (.wordRead address value)) (polls : ℕ) :
    Keeps invariant (readNvm transport polls address) := by
  refine Keeps.ite (fun _ => Keeps.pure) fun haddress => ?_
  have hcommand := hcommand haddress
  refine Keeps.bind hsteady.keepsRequireNonCyclic fun status => ?_
  refine Keeps.ite (fun _ => Keeps.pure) fun _ => ?_
  refine Keeps.bind Keeps.get fun timeout => ?_
  refine Keeps.bind (hsteady.keepsExecute hcommand _ _ _ _) fun answer => ?_
  refine Keeps.ite (fun _ => Keeps.pure) fun _ => ?_
  exact Keeps.bind (hsteady.keepsNote (hword _)) fun _ => Keeps.pure

end Steady

end Swfpm.Zssc3241
