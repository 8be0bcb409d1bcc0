import Swfpm.Measurement.PressureSide

/-!
# Starting a pressure measurement again

Runs of dispatches and bus transactions on a manager with its pressure pipeline
bound, and when a due sample starts a measurement in them.
-/

namespace Swfpm

namespace Zssc3241Driver

/-- The states in which a due sample leads to a start. -/
def Startable (self : Zssc3241Driver) : Prop :=
  self.state = .idle ∨ self.state = .sleep ∨ self.state = .starting

theorem onSampleDue_starting_iff (self : Zssc3241Driver) (nowUs : UInt64) :
    (self.onSampleDue nowUs).state = .starting ↔ self.Startable := by
  unfold onSampleDue Startable
  split
  · next hbusy => tauto
  · next hfree => exact iff_of_true rfl (by tauto)

theorem prepareStart_iff (self : Zssc3241Driver) (correlationId : UInt32) :
    (self.prepareStart correlationId).1 = true ↔
      self.state = .starting ∧ correlationId ≠ 0 := by
  unfold prepareStart
  split
  · next hrefused => exact iff_of_false (by simp) (by tauto)
  · next htaken => exact iff_of_true rfl (by tauto)

theorem onSampleDue_generation (self : Zssc3241Driver) (nowUs : UInt64) :
    (self.onSampleDue nowUs).generation = self.generation := by
  unfold onSampleDue
  split <;> rfl

theorem prepareStart_generation (self : Zssc3241Driver) (correlationId : UInt32) :
    (self.prepareStart correlationId).2.generation = self.generation := by
  unfold prepareStart
  split <;> rfl

theorem prepareRead_generation (self : Zssc3241Driver) :
    self.prepareRead.2.generation = self.generation := by
  unfold prepareRead
  split <;> rfl

theorem takeRawPressure_generation (self : Zssc3241Driver) :
    self.takeRawPressure.2.generation = self.generation := by
  unfold takeRawPressure
  split <;> rfl

theorem onI2cCompletion_generation (self : Zssc3241Driver) (correlationId : UInt32)
    (success : Bool) (response : Option (List UInt8)) (nowUs : UInt64)
    (queue : AppEventQueue) :
    (self.onI2cCompletion correlationId success response nowUs queue).1.generation =
      self.generation := by
  unfold onI2cCompletion
  split_ifs
  · rfl
  · rfl
  · rfl
  · rfl
  · split
    · rfl
    · split_ifs <;> rfl

end Zssc3241Driver

namespace MeasurementWorld

/-! ## A bound pipeline -/

/-- The pipeline is bound and takes part in dispatches, and the bus knows the
manager as a client. -/
structure Bound (world : MeasurementWorld) : Prop where
  pipeline : world.manager.pressurePipelineBound = true
  i2cBus : world.manager.i2cBus = true
  services : ∃ maxEnabled, world.manager.services = builtInServices maxEnabled true
  generation : world.manager.zssc.generation ≠ 0
  portBound : world.bus.bus.portBound = true
  client : ∃ client,
    I2cBus.findClient world.bus.bus pressureI2cClientId = some client ∧
      client.clientGeneration = world.manager.zssc.generation ∧
      I2cBus.clientAcceptsAddress client world.manager.pressureI2cAddress = true

/-- No writer is active either, so that a dispatch goes through. -/
structure Listening (world : MeasurementWorld) : Prop extends Bound world where
  free : world.repo.writerActive = false

/-- What was set up for the pipeline is as before. -/
structure SamePipeline (before after : MeasurementWorld) : Prop where
  pipeline : after.manager.pressurePipelineBound =
    before.manager.pressurePipelineBound
  i2cBus : after.manager.i2cBus = before.manager.i2cBus
  services : after.manager.services = before.manager.services
  generation : after.manager.zssc.generation = before.manager.zssc.generation
  address : after.manager.pressureI2cAddress = before.manager.pressureI2cAddress
  bus : I2cBus.Keeps before.bus after.bus

theorem SamePipeline.refl (world : MeasurementWorld) : world.SamePipeline world :=
  ⟨rfl, rfl, rfl, rfl, rfl, .refl _⟩

theorem SamePipeline.trans {a b c : MeasurementWorld} (hab : a.SamePipeline b)
    (hbc : b.SamePipeline c) : a.SamePipeline c :=
  ⟨hbc.pipeline.trans hab.pipeline, hbc.i2cBus.trans hab.i2cBus,
    hbc.services.trans hab.services, hbc.generation.trans hab.generation,
    hbc.address.trans hab.address, hab.bus.trans hbc.bus⟩

theorem SamePressure.samePipeline {before after : MeasurementWorld}
    (h : before.SamePressure after) : before.SamePipeline after := by
  refine ⟨h.bound, h.i2cBus, h.services, congrArg (·.generation) h.zssc, h.address, ?_⟩
  rw [h.bus]
  exact .refl _

theorem Bound.of_samePipeline {before after : MeasurementWorld} (h : before.Bound)
    (hsame : before.SamePipeline after) : after.Bound := by
  obtain ⟨maxEnabled, hservices⟩ := h.services
  obtain ⟨client, hfind, hgeneration, haccepts⟩ := h.client
  refine ⟨hsame.pipeline.trans h.pipeline, hsame.i2cBus.trans h.i2cBus,
    ⟨maxEnabled, hsame.services.trans hservices⟩, ?_,
    hsame.bus.portBound.trans h.portBound, client, ?_, ?_, ?_⟩
  · rw [hsame.generation]
    exact h.generation
  · rw [I2cBus.findClient, hsame.bus.clients]
    exact hfind
  · rw [hsame.generation]
    exact hgeneration
  · rw [hsame.address]
    exact haccepts

section Handler

variable {env : BusEnvironment} {world : MeasurementWorld}

/-- Only the driver changed, and it is still of the same generation. -/
theorem SamePipeline.driver (world : MeasurementWorld) {zssc : Zssc3241Driver}
    (hgeneration : zssc.generation = world.manager.zssc.generation) :
    world.SamePipeline { world with manager := { world.manager with zssc } } :=
  ⟨rfl, rfl, rfl, hgeneration, rfl, .refl _⟩

theorem submitPressure_samePipeline (world : MeasurementWorld)
    (request : I2cBusRequest) :
    world.SamePipeline (submitPressure env world request).2 := by
  have hbus : I2cBus.Keeps world.bus (I2cBus.submit env world.bus request).2 :=
    I2cBus.submit_keeps _ _
  unfold submitPressure
  dsimp only
  split <;> exact ⟨rfl, rfl, rfl, rfl, rfl, hbus⟩

theorem submitPressureStart_samePipeline (world : MeasurementWorld)
    (nowUs : UInt64) :
    world.SamePipeline (submitPressureStart env world nowUs).2 := by
  let correlationId := world.manager.nextPressureCorrelationId
  have hprepared : world.SamePipeline
      { world with
        manager :=
          { world.manager with
            nextPressureCorrelationId := correlationId + 1
            zssc := (world.manager.zssc.prepareStart correlationId).2 } } :=
    ⟨rfl, rfl, rfl, world.manager.zssc.prepareStart_generation _, rfl, .refl _⟩
  unfold submitPressureStart
  dsimp only
  split
  · exact hprepared
  · exact hprepared.trans (submitPressure_samePipeline _ _)

theorem submitPressureRead_samePipeline (world : MeasurementWorld)
    (nowUs : UInt64) :
    world.SamePipeline (submitPressureRead env world nowUs).2 := by
  have hprepared := SamePipeline.driver world
    world.manager.zssc.prepareRead_generation
  unfold submitPressureRead
  dsimp only
  split_ifs
  · exact hprepared
  · exact hprepared
  · exact hprepared.trans (submitPressure_samePipeline _ _)

theorem zsscOnEvent_samePipeline (world : MeasurementWorld) (event : AppEvent) :
    world.SamePipeline (zsscOnEvent env world event).2 := by
  have hdue := world.manager.zssc.onSampleDue_generation event.monotonicTimestampUs
  unfold zsscOnEvent
  dsimp only
  split
  · have hcalled : world.SamePipeline
        { world with
          manager :=
            { world.manager with
              zssc := world.manager.zssc.onSampleDue event.monotonicTimestampUs
              zsscCycles := world.manager.zsscCycles + 1 } } :=
      ⟨rfl, rfl, rfl, hdue, rfl, .refl _⟩
    split
    · exact hcalled.trans (submitPressureStart_samePipeline _ _)
    · exact hcalled
  · have hcalled := @SamePipeline.driver world world.manager.zssc.onEocAsserted rfl
    split
    · exact hcalled.trans (submitPressureRead_samePipeline _ _)
    · exact hcalled
  · have hcalled := @SamePipeline.driver world world.manager.zssc.onPollDue rfl
    split
    · exact hcalled.trans (submitPressureRead_samePipeline _ _)
    · exact hcalled
  · exact .driver world rfl
  · exact .refl _
  · exact .refl _

theorem taken_samePipeline (world : MeasurementWorld) :
    world.SamePipeline world.taken :=
  .driver world world.manager.zssc.takeRawPressure_generation

theorem Listening.of_samePipeline {before after : MeasurementWorld}
    (h : before.Listening) (hsame : before.SamePipeline after)
    (hfree : after.repo.writerActive = false) : after.Listening :=
  ⟨h.toBound.of_samePipeline hsame, hfree⟩

theorem Listening.dispatch (h : world.Listening) (env : BusEnvironment)
    (event : AppEvent) : (processEvent env world event).2.Listening := by
  obtain ⟨maxEnabled, hservices⟩ := h.services
  refine h.of_samePipeline ?_ (processEvent_free hservices h.free env event)
  obtain ⟨before, hbefore, hafter⟩ :=
    processEvent_pressure hservices h.free env event
  have hhandled := hbefore.samePipeline.trans
    (@zsscOnEvent_samePipeline env before event)
  rcases hafter with hsame | ⟨-, htaken⟩
  · exact hhandled.trans hsame.samePipeline
  · exact (hhandled.trans (taken_samePipeline _)).trans htaken.samePipeline

theorem advanceBus_samePipeline {bus : BusWorld}
    (hkeeps : I2cBus.Keeps world.bus bus) :
    world.SamePipeline (world.advanceBus bus) := by
  have hfold : ∀ (completions : List I2cTransactionCompletion)
      (world : MeasurementWorld),
      world.SamePipeline (completions.foldl pressureBusComplete world) := by
    intro completions
    induction completions with
    | nil => exact .refl
    | cons completion completions ih =>
        intro world
        have hcompleted : world.SamePipeline (pressureBusComplete world completion) :=
          ⟨rfl, rfl, rfl, Zssc3241Driver.onI2cCompletion_generation _ _ _ _ _ _, rfl,
            .refl _⟩
        exact hcompleted.trans (ih _)
  have hbus : world.SamePipeline { world with bus } :=
    ⟨rfl, rfl, rfl, rfl, rfl, hkeeps⟩
  exact hbus.trans (hfold _ _)

end Handler

/-! ## Runs -/

/-- A dispatch of one of `events`, or a step of the bus, its other clients, its
port, or the other owners of repository and queue. -/
def Permitted (events : Set EventId) (world : MeasurementWorld) :
    MeasurementStep → Prop
  | .dispatch event => event.id ∈ events
  | .setEnabled _ _ => False
  | .completeI2c _ _ _ => True
  | .advanceBus bus => I2cBus.Keeps world.bus bus
  | .receive _ => True
  | .publish _ => True
  | .serve _ => True

inductive Reaches (env : BusEnvironment) (events : Set EventId)
    (start : MeasurementWorld) : MeasurementWorld → Prop where
  | start : Reaches env events start start
  | step {world : MeasurementWorld} {step : MeasurementStep}
      (hreached : Reaches env events start world)
      (hpermitted : Permitted events world step) :
      Reaches env events start (apply env world step)

section Runs

variable {env : BusEnvironment} {events : Set EventId}
  {start world : MeasurementWorld}

theorem Listening.apply (h : world.Listening) {step : MeasurementStep}
    (hpermitted : Permitted events world step) :
    (MeasurementWorld.apply env world step).Listening := by
  cases step with
  | dispatch event => exact h.dispatch env event
  | setEnabled serviceId enabled => exact hpermitted.elim
  | completeI2c key result completionNowUs =>
      refine h.of_samePipeline ?_ ?_
      · unfold MeasurementWorld.apply completeI2c
        dsimp only
        split
        · exact .refl _
        · have htimed : world.SamePipeline
              { world with
                manager :=
                  { world.manager with
                    pressureCompletionNowUs := completionNowUs } } :=
            ⟨rfl, rfl, rfl, rfl, rfl, .refl _⟩
          exact htimed.trans (advanceBus_samePipeline (I2cBus.complete_keeps _ _ _))
      · have hhandled := completeI2c_handled env world key result completionNowUs
        exact (congrArg (·.writerActive) hhandled.repo).trans h.free
  | advanceBus bus =>
      refine h.of_samePipeline (advanceBus_samePipeline hpermitted) ?_
      exact (congrArg (·.writerActive) (advanceBus_handled world bus).repo).trans h.free
  | receive responseBuffer => exact h.of_samePipeline (.driver world rfl) h.free
  | publish writes =>
      refine h.of_samePipeline ⟨rfl, rfl, rfl, rfl, rfl, .refl _⟩ ?_
      exact congrArg (·.2.writerActive) (DataRepository.transact_eq world.repo h.free writes)
  | serve eventQueue =>
      exact h.of_samePipeline ⟨rfl, rfl, rfl, rfl, rfl, .refl _⟩ h.free

theorem Reaches.listening (hreached : Reaches env events start world)
    (hstart : start.Listening) : world.Listening := by
  induction hreached with
  | start => exact hstart
  | step hreached hpermitted ih => exact ih.apply hpermitted

theorem Reaches.run (hreached : Reaches env events start world)
    (steps : List MeasurementStep)
    (hpermitted : ∀ step ∈ steps, ∀ world, Permitted events world step) :
    Reaches env events start (MeasurementWorld.run env world steps) := by
  induction steps generalizing world with
  | nil => exact hreached
  | cons step steps ih =>
      obtain ⟨hstep, hsteps⟩ := List.forall_mem_cons.mp hpermitted
      exact ih (hreached.step (hstep world)) hsteps

end Runs

/-! ## A due sample on a free bus -/

/-- The request for the start command. -/
def startRequest (manager : MeasurementManager) (nowUs : UInt64) : I2cBusRequest :=
  { clientId := pressureI2cClientId
    correlationId := manager.nextPressureCorrelationId
    clientGeneration := manager.zssc.generation
    slaveAddress := manager.pressureI2cAddress
    tx := some commandBufferAddress
    txLength := 1
    rx := none
    rxLength := 0
    deadlineUs := nowUs + pressureI2cTimeoutUs
    priority := pressureI2cPriority }

/-- The driver can start, the numbers of the request are not zero, and the port
takes it. -/
structure AcceptsStart (env : BusEnvironment) (world : MeasurementWorld)
    (nowUs : UInt64) : Prop where
  driver : world.manager.zssc.Startable
  correlationId : world.manager.nextPressureCorrelationId ≠ 0
  deadline : nowUs + pressureI2cTimeoutUs ≠ 0
  port : I2cBus.PortTakes env world.bus (startRequest world.manager nowUs)

/-- The bus carries the start command with a new correlation id. -/
structure Started (before after : MeasurementWorld) : Prop where
  busy : after.bus.bus.busy = true
  client : after.bus.bus.active.clientId = pressureI2cClientId
  correlationId : after.bus.bus.active.correlationId =
    before.manager.nextPressureCorrelationId
  command : after.bus.bus.active.tx = some commandBufferAddress ∧
    after.manager.zssc.commandBuffer = zssc3241CmdFullMeasure

/-- The event is handled without error and submits a new start command. -/
def StartsAttempt (env : BusEnvironment) (world : MeasurementWorld)
    (event : AppEvent) : Prop :=
  (processEvent env world event).1 = true ∧
    world.Started (processEvent env world event).2

section Start

variable {env : BusEnvironment} {world : MeasurementWorld}

theorem Bound.serves (h : world.Bound) (nowUs : UInt64) :
    I2cBus.Serves world.bus.bus (startRequest world.manager nowUs) :=
  ⟨h.portBound, h.client⟩

theorem Bound.malformed_iff (h : world.Bound) (nowUs : UInt64) :
    I2cBus.Malformed (startRequest world.manager nowUs) ↔
      world.manager.nextPressureCorrelationId = 0 ∨
        nowUs + pressureI2cTimeoutUs = 0 := by
  have hgeneration := h.generation
  simp [I2cBus.Malformed, startRequest, hgeneration]

theorem submitPressure_spec (world : MeasurementWorld) (request : I2cBusRequest) :
    let out := submitPressure env world request
    (out.1 = true ↔ (I2cBus.submit env world.bus request).1.result = .accepted) ∧
      out.2.bus = (I2cBus.submit env world.bus request).2 ∧
      out.2.manager.zssc.commandBuffer = world.manager.zssc.commandBuffer := by
  intro out
  have hout : out = submitPressure env world request := rfl
  clear_value out
  unfold submitPressure at hout
  dsimp only at hout
  split at hout
  · next hrefused =>
      subst hout
      exact ⟨iff_of_false (by simp) hrefused, rfl, rfl⟩
  · next haccepted =>
      subst hout
      exact ⟨iff_of_true rfl (not_not.mp haccepted), rfl, rfl⟩

/-- The manager has a start command ready. -/
def prepared (world : MeasurementWorld) : MeasurementWorld :=
  let correlationId := world.manager.nextPressureCorrelationId
  { world with
    manager :=
      { world.manager with
        nextPressureCorrelationId := correlationId + 1
        zssc := (world.manager.zssc.prepareStart correlationId).2 } }

theorem submitPressureStart_of_starting (hbus : world.manager.i2cBus = true)
    (hstarting : world.manager.zssc.state = .starting)
    (hid : world.manager.nextPressureCorrelationId ≠ 0) (nowUs : UInt64) :
    world.prepared.manager.zssc.commandBuffer = zssc3241CmdFullMeasure ∧
      submitPressureStart env world nowUs =
        submitPressure env world.prepared (startRequest world.manager nowUs) := by
  have hout : world.manager.zssc.prepareStart
      world.manager.nextPressureCorrelationId = (true, _) :=
    if_neg (by simp [hstarting, hid])
  unfold submitPressureStart prepared
  dsimp only
  rw [hout, if_neg (by simp [hbus])]
  exact ⟨rfl, rfl⟩

/-- The start of a driver that a sample was announced to. -/
theorem submitPressureStart_iff (h : world.Bound)
    (hidle : world.bus.bus.busy = false) (nowUs : UInt64) :
    let out := submitPressureStart env world nowUs
    (out.1 = true ↔
      world.manager.zssc.state = .starting ∧
        world.manager.nextPressureCorrelationId ≠ 0 ∧
        nowUs + pressureI2cTimeoutUs ≠ 0 ∧
        I2cBus.PortTakes env world.bus (startRequest world.manager nowUs)) ∧
      (out.1 = true → world.Started out.2) := by
  intro out
  by_cases hready : world.manager.zssc.state = .starting ∧
      world.manager.nextPressureCorrelationId ≠ 0
  · obtain ⟨hstarting, hid⟩ := hready
    obtain ⟨hcommand, hout⟩ :=
      @submitPressureStart_of_starting env _ h.i2cBus hstarting hid nowUs
    obtain ⟨haccepted, hbus, hbuffer⟩ :=
      @submitPressure_spec env world.prepared (startRequest world.manager nowUs)
    rw [← hout] at haccepted hbus hbuffer
    by_cases hdeadline : nowUs + pressureI2cTimeoutUs = 0
    · have hrefused := @I2cBus.submit_of_malformed env _ _ (h.serves nowUs)
        ((h.malformed_iff nowUs).mpr (.inr hdeadline))
      have hfails : ¬ out.1 = true := fun hstarts => hrefused (haccepted.mp hstarts)
      exact ⟨iff_of_false hfails fun haccepts => haccepts.2.2.1 hdeadline,
        fun hstarts => absurd hstarts hfails⟩
    · have hformed : ¬ I2cBus.Malformed (startRequest world.manager nowUs) := by
        rw [h.malformed_iff]
        exact not_or.mpr ⟨hid, hdeadline⟩
      obtain ⟨htakes, hactive⟩ :=
        @I2cBus.submit_of_free env _ _ hidle (h.serves nowUs) hformed
      refine ⟨?_, ?_⟩
      · rw [haccepted.trans htakes]
        exact ⟨fun hport => ⟨hstarting, hid, hdeadline, hport⟩,
          fun haccepts => haccepts.2.2.2⟩
      · intro hstarts
        obtain ⟨hbusy, hactive⟩ := hactive (haccepted.mp hstarts)
        change out.2.bus = (I2cBus.submit env world.bus _).2 at hbus
        rw [← hbus] at hbusy hactive
        refine ⟨hbusy, ?_, ?_, ?_, hbuffer.trans hcommand⟩
        · exact congrArg (·.clientId) hactive
        · exact congrArg (·.correlationId) hactive
        · exact congrArg (·.tx) hactive
  · have hrefused : (world.manager.zssc.prepareStart
        world.manager.nextPressureCorrelationId).1 = false :=
      Bool.not_eq_true _ ▸ fun hstarts =>
        hready ((Zssc3241Driver.prepareStart_iff _ _).mp hstarts)
    have hfails : out.1 = false := by
      unfold out submitPressureStart
      dsimp only
      rw [hrefused, if_pos (.inl rfl)]
    exact ⟨iff_of_false (by simp [hfails])
      fun haccepts => hready ⟨haccepts.1, haccepts.2.1⟩, by simp [hfails]⟩

/-- The driver is told of a due sample. -/
def announced (world : MeasurementWorld) (nowUs : UInt64) : MeasurementWorld :=
  { world with
    manager :=
      { world.manager with
        zssc := world.manager.zssc.onSampleDue nowUs
        zsscCycles := world.manager.zsscCycles + 1 } }

theorem announced_samePipeline (world : MeasurementWorld) (nowUs : UInt64) :
    world.SamePipeline (world.announced nowUs) :=
  ⟨rfl, rfl, rfl, world.manager.zssc.onSampleDue_generation nowUs, rfl, .refl _⟩

theorem zsscOnEvent_of_due {event : AppEvent} (h : world.Bound)
    (hdue : event.id = .pressureSampleDue) :
    zsscOnEvent env world event =
      submitted (submitPressureStart env
        (world.announced event.monotonicTimestampUs) event.monotonicTimestampUs) := by
  unfold zsscOnEvent
  rw [hdue]
  exact if_pos h.pipeline

/-- The handler of a due sample starts a measurement where it can. -/
theorem Bound.due_iff (h : world.Bound) (hidle : world.bus.bus.busy = false)
    {event : AppEvent} (hdue : event.id = .pressureSampleDue) :
    let out := zsscOnEvent env world event
    ((out.1 = .handled ↔ AcceptsStart env world event.monotonicTimestampUs) ∧
      (out.1 = .handled → world.Started out.2)) ∧
      (out.1 ≠ .handled → out.1 = .error) := by
  let nowUs := event.monotonicTimestampUs
  have hrequest : startRequest (world.announced nowUs).manager nowUs =
      startRequest world.manager nowUs := by
    unfold startRequest announced
    rw [Zssc3241Driver.onSampleDue_generation]
  have hbound := h.of_samePipeline (world.announced_samePipeline nowUs)
  obtain ⟨hstarts, hstarted⟩ := @submitPressureStart_iff env _ hbound hidle nowUs
  rw [hrequest] at hstarts
  rw [zsscOnEvent_of_due h hdue]
  generalize submitPressureStart env (world.announced nowUs) nowUs = out
    at hstarts hstarted
  obtain ⟨submitted, after⟩ := out
  have hdriver := world.manager.zssc.onSampleDue_starting_iff nowUs
  cases submitted with
  | true =>
      obtain ⟨hstarting, hid, hdeadline, hport⟩ := hstarts.mp rfl
      have haccepts : AcceptsStart env world nowUs :=
        ⟨hdriver.mp hstarting, hid, hdeadline, hport⟩
      refine ⟨⟨iff_of_true rfl haccepts, fun _ => ?_⟩, fun hnot => absurd rfl hnot⟩
      obtain ⟨hbusy, hclient, hcorrelation, hcommand⟩ := hstarted rfl
      exact ⟨hbusy, hclient, hcorrelation, hcommand⟩
  | false =>
      refine ⟨⟨iff_of_false nofun fun haccepts => ?_, nofun⟩, fun _ => rfl⟩
      exact Bool.false_ne_true (hstarts.mpr ⟨hdriver.mpr haccepts.driver,
        haccepts.correlationId, haccepts.deadline, haccepts.port⟩)

theorem SamePressure.acceptsStart_iff {before : MeasurementWorld}
    (h : world.SamePressure before) (nowUs : UInt64) :
    AcceptsStart env before nowUs ↔ AcceptsStart env world nowUs := by
  have hrequest : startRequest before.manager nowUs =
      startRequest world.manager nowUs := by
    unfold startRequest
    rw [h.nextId, h.zssc, h.address]
  constructor
  · rintro ⟨hdriver, hid, hdeadline, hport⟩
    rw [hrequest, h.bus] at hport
    rw [h.zssc] at hdriver
    rw [h.nextId] at hid
    exact ⟨hdriver, hid, hdeadline, hport⟩
  · rintro ⟨hdriver, hid, hdeadline, hport⟩
    rw [← hrequest, ← h.bus] at hport
    rw [← h.zssc] at hdriver
    rw [← h.nextId] at hid
    exact ⟨hdriver, hid, hdeadline, hport⟩

theorem Listening.starts_iff (h : world.Listening)
    (hidle : world.bus.bus.busy = false) {event : AppEvent}
    (hdue : event.id = .pressureSampleDue) :
    StartsAttempt env world event ↔
      AcceptsStart env world event.monotonicTimestampUs := by
  obtain ⟨maxEnabled, hservices⟩ := h.services
  obtain ⟨before, hbefore, hafter, hhandled, herror⟩ :=
    processEvent_reports hservices h.free env
      (show event.id ≠ .pressureRawReady by simp [hdue]) (by simp [hdue])
  have hbound := h.toBound.of_samePipeline hbefore.samePipeline
  have hidle' : before.bus.bus.busy = false := by
    rw [hbefore.bus]
    exact hidle
  obtain ⟨⟨hstarts, hstarted⟩, hother⟩ := @Bound.due_iff env _ hbound hidle' _ hdue
  rw [← hbefore.acceptsStart_iff, ← hstarts]
  constructor
  · rintro ⟨hprocessed, -⟩
    by_contra hnot
    rw [herror (hother hnot)] at hprocessed
    cases hprocessed
  · intro hout
    obtain ⟨hbusy, hclient, hcorrelation, hcommand⟩ := hstarted hout
    refine ⟨hhandled hout, ?_, ?_, ?_, ?_, ?_⟩
    · rw [hafter.bus]
      exact hbusy
    · rw [hafter.bus]
      exact hclient
    · rw [hafter.bus, hcorrelation, hbefore.nextId]
    · rw [hafter.bus]
      exact hcommand.1
    · rw [hafter.zssc]
      exact hcommand.2

end Start

/-! ## Attempts that ended without a sample -/

section Ended

variable {env : BusEnvironment} {start world : MeasurementWorld}

/-- The driver gave its attempt up, and no sample is left to be taken. -/
def GaveUp (world : MeasurementWorld) : Prop :=
  (world.manager.zssc.state = .timeout ∨ world.manager.zssc.state = .recovery) ∧
    world.manager.zssc.rawMailboxValid = false

theorem GaveUp.of_samePressure {after : MeasurementWorld} (h : world.GaveUp)
    (hsame : world.SamePressure after) : after.GaveUp := by
  unfold GaveUp
  rw [hsame.zssc]
  exact h

/-- Only an end of conversion and a poll reach a driver that gave up. -/
theorem GaveUp.zsscOnEvent (h : world.GaveUp) {event : AppEvent}
    (heoc : event.id ≠ .pressureEocAsserted) (hpoll : event.id ≠ .pressurePollDue) :
    (MeasurementWorld.zsscOnEvent env world event).2.GaveUp := by
  obtain ⟨hstate, hmailbox⟩ := h
  unfold MeasurementWorld.zsscOnEvent
  dsimp only
  split
  · have hskipped : world.manager.zssc.onSampleDue event.monotonicTimestampUs =
        world.manager.zssc :=
      if_pos (by rcases hstate with hstate | hstate <;> simp [hstate])
    have hrefused : world.manager.zssc.prepareStart
        world.manager.nextPressureCorrelationId = (false, world.manager.zssc) :=
      if_pos (by rcases hstate with hstate | hstate <;> simp [hstate])
    rw [hskipped]
    split
    · unfold submitPressureStart
      dsimp only
      rw [hrefused, if_pos (.inl rfl)]
      exact ⟨hstate, hmailbox⟩
    · exact ⟨hstate, hmailbox⟩
  · next hid => exact absurd hid heoc
  · next hid => exact absurd hid hpoll
  · exact ⟨.inl rfl, rfl⟩
  · exact ⟨hstate, hmailbox⟩
  · exact ⟨hstate, hmailbox⟩

theorem GaveUp.taken (h : world.GaveUp) : world.taken.GaveUp := by
  have hempty : world.manager.zssc.takeRawPressure = (none, world.manager.zssc) :=
    if_pos (by simp [h.2])
  unfold GaveUp MeasurementWorld.taken
  rw [hempty]
  exact h

theorem GaveUp.pressureBusComplete (h : world.GaveUp)
    (completion : I2cTransactionCompletion) :
    (MeasurementWorld.pressureBusComplete world completion).GaveUp := by
  obtain ⟨hstate, hmailbox⟩ := h
  have hstarting : world.manager.zssc.state ≠ .starting := by
    rcases hstate with hstate | hstate <;> simp [hstate]
  have hreading : ¬ (world.manager.zssc.state = .reading ∨
      world.manager.zssc.state = .polling) := by
    rcases hstate with hstate | hstate <;> simp [hstate]
  unfold GaveUp MeasurementWorld.pressureBusComplete
  dsimp only
  rw [if_neg hreading]
  unfold Zssc3241Driver.onI2cCompletion
  split_ifs with hother hfailed
  · exact ⟨hstate, hmailbox⟩
  · exact ⟨.inr rfl, hmailbox⟩
  · exact ⟨.inr rfl, hmailbox⟩
  · exact ⟨.inr rfl, hmailbox⟩

theorem GaveUp.advanceBus (h : world.GaveUp) (bus : BusWorld) :
    (MeasurementWorld.advanceBus world bus).GaveUp := by
  have hfold : ∀ (completions : List I2cTransactionCompletion)
      {world : MeasurementWorld}, world.GaveUp →
      (completions.foldl MeasurementWorld.pressureBusComplete world).GaveUp := by
    intro completions
    induction completions with
    | nil => exact id
    | cons completion completions ih =>
        intro world h
        exact ih (h.pressureBusComplete completion)
  exact hfold _ h

theorem GaveUp.apply (h : world.GaveUp) (hlistening : world.Listening)
    {step : MeasurementStep}
    (hpermitted : Permitted {.pressureEocAsserted, .pressurePollDue}ᶜ world step) :
    (MeasurementWorld.apply env world step).GaveUp := by
  cases step with
  | dispatch event =>
      obtain ⟨heoc, hpoll⟩ := not_or.mp hpermitted
      obtain ⟨maxEnabled, hservices⟩ := hlistening.services
      obtain ⟨before, hbefore, hafter⟩ :=
        processEvent_pressure hservices hlistening.free env event
      have hhandled := @GaveUp.zsscOnEvent env _ (h.of_samePressure hbefore) _ heoc
        hpoll
      rcases hafter with hsame | ⟨-, htaken⟩
      · exact hhandled.of_samePressure hsame
      · exact hhandled.taken.of_samePressure htaken
  | setEnabled serviceId enabled => exact hpermitted.elim
  | completeI2c key result completionNowUs =>
      unfold MeasurementWorld.apply completeI2c
      dsimp only
      split
      · exact h
      · have htimed : GaveUp
            { world with
              manager :=
                { world.manager with pressureCompletionNowUs := completionNowUs } } :=
          h
        exact htimed.advanceBus _
  | advanceBus bus => exact h.advanceBus bus
  | receive responseBuffer => exact h
  | publish writes => exact h
  | serve eventQueue => exact h

/-- A driver that gave up starts nothing until an end of conversion or a poll. -/
theorem GaveUp.not_startsAttempt (h : start.GaveUp) (hstart : start.Listening)
    (hreached : Reaches env {.pressureEocAsserted, .pressurePollDue}ᶜ start world)
    (hidle : world.bus.bus.busy = false) {event : AppEvent}
    (hdue : event.id = .pressureSampleDue) :
    world.GaveUp ∧ ¬ StartsAttempt env world event := by
  have hkept : world.GaveUp := by
    clear hidle
    induction hreached with
    | start => exact h
    | step hreached hpermitted ih =>
        exact ih.apply (hreached.listening hstart) hpermitted
  refine ⟨hkept, ?_⟩
  rw [(hreached.listening hstart).starts_iff hidle hdue]
  rintro ⟨hdriver, -⟩
  rcases hkept.1 with hstate | hstate <;>
    simp [Zssc3241Driver.Startable, hstate] at hdriver

end Ended

/-- The step takes the driver from a measurement to a timeout or a failure. -/
def EndsAttempt (env : BusEnvironment) (world : MeasurementWorld)
    (step : MeasurementStep) : Prop :=
  world.manager.zssc.state ∈
      [ZsscDriverState.starting, .waitingEoc, .polling, .reading] ∧
    (apply env world step).manager.zssc.state ∈ [ZsscDriverState.timeout, .recovery]

/-- A due sample on a free bus starts a measurement, after an attempt ended and
before any other sample was due. -/
def Recovers (env : BusEnvironment) (start : MeasurementWorld) : Prop :=
  ∀ world step later event, Reaches env Set.univ start world →
    Permitted Set.univ world step → EndsAttempt env world step →
    Reaches env {.pressureSampleDue}ᶜ (apply env world step) later →
    later.bus.bus.busy = false → event.id = .pressureSampleDue →
    StartsAttempt env later event

theorem bench_listening : bench.Listening where
  pipeline := rfl
  i2cBus := rfl
  services := ⟨true, rfl⟩
  generation := by decide
  portBound := rfl
  client := ⟨bench.manager.pressureClient 0x28, rfl, rfl, rfl⟩
  free := rfl

def pressureEvent (id : EventId) : AppEvent := { AppEvent.cleared with id }

/-- The start command goes out, and the measurement times out: the bus is free,
and no due sample starts another one. -/
theorem bench_not_recovers : bench.Listening ∧ ¬ Recovers willingPort bench := by
  refine ⟨bench_listening, ?_⟩
  intro hrecovers
  let measuring : MeasurementWorld :=
    run willingPort bench [.dispatch (pressureEvent .pressureSampleDue),
      .completeI2c ⟨1, 1, 1, 1⟩ .ok 0]
  have hreached : Reaches willingPort Set.univ bench measuring :=
    Reaches.start.run _ (by simp [Permitted])
  have hstarts := hrecovers measuring (.dispatch (pressureEvent .pressureTimeout)) _
    (pressureEvent .pressureSampleDue) hreached (Set.mem_univ _)
    ⟨by decide +kernel, by decide +kernel⟩ .start (by decide +kernel) rfl
  have hrefused : (processEvent willingPort
      (apply willingPort measuring (.dispatch (pressureEvent .pressureTimeout)))
      (pressureEvent .pressureSampleDue)).1 = false := by
    decide +kernel
  exact absurd hstarts.1 (by rw [hrefused]; decide)

/-- In every run, a due sample that finds the bus free starts a measurement
exactly where driver, numbers and port accept the start. -/
theorem startsAttempt_iff {env : BusEnvironment} {start world : MeasurementWorld}
    (hstart : start.Listening) (hreached : Reaches env Set.univ start world)
    (hidle : world.bus.bus.busy = false) {event : AppEvent}
    (hdue : event.id = .pressureSampleDue) :
    StartsAttempt env world event ↔
      AcceptsStart env world event.monotonicTimestampUs :=
  (hreached.listening hstart).starts_iff hidle hdue

/-- After a timeout, a poll and the taking of its sample, the next due sample
starts a measurement. -/
theorem startsAttempt_iff_polled :
    let world := run willingPort bench
      [.dispatch (pressureEvent .pressureSampleDue), .completeI2c ⟨1, 1, 1, 1⟩ .ok 0,
        .dispatch (pressureEvent .pressureTimeout),
        .dispatch (pressureEvent .pressurePollDue), .completeI2c ⟨2, 1, 1, 1⟩ .ok 0,
        .dispatch (pressureEvent .pressureRawReady)]
    (StartsAttempt willingPort world (pressureEvent .pressureSampleDue) ↔
        AcceptsStart willingPort world 0) ∧
      AcceptsStart willingPort world 0 := by
  intro world
  have hreached : Reaches willingPort Set.univ bench world :=
    Reaches.start.run _ (by simp [Permitted])
  refine ⟨startsAttempt_iff bench_listening hreached (by decide +kernel) rfl,
    .inl (by decide +kernel), by decide +kernel, by decide, rfl⟩

end MeasurementWorld
end Swfpm
