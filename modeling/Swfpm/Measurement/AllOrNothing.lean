import Swfpm.Measurement.Dispatch

/-!
# A dispatch is all or nothing

In every run of dispatches, bus completions and foreign transactions, a dispatch
that fails leaves the visible snapshot and the live owners alone, and a flow
sample that succeeds publishes flow, volume and leak in one version step.
-/

namespace Swfpm

open DataRepository

namespace MeasurementWorld

/-! ## Runs -/

/-- A dispatch, or something that happens between two of them. -/
inductive MeasurementStep where
  | dispatch (event : AppEvent)
  | setEnabled (serviceId : UInt32) (enabled : Bool)
  | completeI2c (key : I2cBus.CompletionKey) (result : I2cTransactionResult)
      (completionNowUs : UInt64)
  /-- Other clients use the shared bus. -/
  | advanceBus (bus : BusWorld)
  /-- The port fills the response buffer. -/
  | receive (responseBuffer : Vector UInt8 zssc3241FullResponseSize)
  /-- Other owners publish a transaction of theirs. -/
  | publish (writes : List SnapshotWrite)
  /-- Others post to the queue and take events out of it. -/
  | serve (eventQueue : AppEventQueue)

def apply (env : BusEnvironment) (world : MeasurementWorld) :
    MeasurementStep → MeasurementWorld
  | .dispatch event => (processEvent env world event).2
  | .setEnabled serviceId enabled =>
      { world with manager := (world.manager.setEnabled serviceId enabled).2 }
  | .completeI2c key result completionNowUs =>
      (completeI2c env world key result completionNowUs).2
  | .advanceBus bus => world.advanceBus bus
  | .receive responseBuffer =>
      let manager := world.manager
      { world with
        manager :=
          { manager with zssc := { manager.zssc with responseBuffer } } }
  | .publish writes => { world with repo := (world.repo.transact writes).2 }
  | .serve eventQueue => { world with eventQueue }

def run (env : BusEnvironment) (world : MeasurementWorld)
    (steps : List MeasurementStep) : MeasurementWorld :=
  steps.foldl (apply env) world

/-- The two built-in services, each of them enabled or not. -/
def builtInServices (maxEnabled zsscEnabled : Bool) : List MeasurementService :=
  [{ MeasurementManager.maxService with enabled := maxEnabled },
    { MeasurementManager.zsscService with enabled := zsscEnabled }]

/-- Both pipelines are bound, only the built-in services are registered, and no
writer is active. -/
structure Ready (world : MeasurementWorld) : Prop where
  flowBound : world.manager.flowPipelineBound = true
  pressureBound : world.manager.pressurePipelineBound = true
  builtIn : ∃ maxEnabled zsscEnabled,
    world.manager.services = builtInServices maxEnabled zsscEnabled
  free : world.repo.writerActive = false

/-- The built-in service that a sample belongs to takes part in dispatches. -/
def Listens (world : MeasurementWorld) (event : AppEvent) : Prop :=
  (event.id = .maxRawReady → MeasurementManager.maxService ∈
    world.manager.services) ∧
  (event.id = .pressureRawReady → MeasurementManager.zsscService ∈
    world.manager.services)

/-- The call returned false and nothing came of it, or a flow sample led to
flow, volume and leak in one version step, in agreement with the live owners. -/
structure AllOrNothing (before after : MeasurementWorld) (event : AppEvent)
    (succeeded : Bool) : Prop where
  failed : succeeded = false → before.Listens event →
    after.repo.visible = before.repo.visible ∧
      after.manager.volumeAccumulator = before.manager.volumeAccumulator ∧
      after.manager.leakDetection = before.manager.leakDetection
  published : succeeded = true → event.id = .maxRawReady →
    after.repo.snapshotVersion = before.repo.snapshotVersion + 1 ∧
    ∃ flow leak,
      after.repo.visible =
        { before.repo.visible with
          flow
          volume := after.manager.volumeAccumulator.getState
          leak
          snapshotVersion := before.repo.snapshotVersion + 1 } ∧
      leak.resultVersion = after.manager.leakDetection.stateVersion ∧
      leak.state = after.manager.leakDetection.state
  free : after.repo.writerActive = false

section Runs

variable {env : BusEnvironment} {world : MeasurementWorld}

theorem Ready.of_sameOwners {after : MeasurementWorld} (h : world.Ready)
    (howners : world.manager.SameOwners after.manager)
    (hfree : after.repo.writerActive = false) : after.Ready := by
  obtain ⟨maxEnabled, zsscEnabled, hservices⟩ := h.builtIn
  exact ⟨howners.flowBound.trans h.flowBound,
    howners.pressureBound.trans h.pressureBound,
    ⟨maxEnabled, zsscEnabled, howners.services.trans hservices⟩, hfree⟩

/-- The dispatch after the loop over the services. -/
def served (env : BusEnvironment) (world : MeasurementWorld)
    (event : AppEvent) : Dispatch :=
  runServices env
    { input := world.repo.visible, event, nowUs := event.monotonicTimestampUs }
    { world := { world with repo := world.repo.draft world.repo.visible }
      txn := world.repo.opened 0, consumed := false, failed := false }

theorem processEvent_of_free (hfree : world.repo.writerActive = false)
    (event : AppEvent) :
    processEvent env world event =
      let (dispatch, prepared) :=
        flowStage event world.repo.visible
          (pressureStage event (served env world event))
      finishDispatch event dispatch prepared := by
  rw [processEvent, draft_begin world.repo hfree]
  rfl

theorem served_drafts (env : BusEnvironment)
    (hbuiltIn : ∃ maxEnabled zsscEnabled,
      world.manager.services = builtInServices maxEnabled zsscEnabled)
    (event : AppEvent) :
    Drafts world 0 world.repo.visible (served env world event) := by
  obtain ⟨maxEnabled, zsscEnabled, hservices⟩ := hbuiltIn
  have hstart : Drafts world 0 world.repo.visible
      { world := { world with repo := world.repo.draft world.repo.visible }
        txn := world.repo.opened 0, consumed := false, failed := false } :=
    ⟨rfl, rfl, .refl _⟩
  rw [served, runServices, hservices]
  refine hstart.foldl_handlers _ ?_
  intro service hservice
  rcases List.mem_cons.mp hservice with rfl | hservice
  · rfl
  · obtain rfl := List.mem_singleton.mp hservice
    rfl

/-- The service of a raw sample reports it as handled. -/
theorem served_consumed (env : BusEnvironment) (event : AppEvent)
    (hlistens : world.Listens event)
    (hevent : event.id = .maxRawReady ∨ event.id = .pressureRawReady)
    (hgoes : (served env world event).failed = false) :
    (served env world event).consumed = true := by
  rw [served, runServices] at hgoes ⊢
  rcases hevent with hmax | hpressure
  · refine foldl_callService_handles (hlistens.1 hmax) rfl rfl ?_ hgoes
    intro world
    simp [runEventFn, maxOnEvent, hmax]
  · refine foldl_callService_handles (hlistens.2 hpressure) rfl rfl ?_ hgoes
    intro world
    simp [runEventFn, zsscOnEvent, hpressure]

/-- A dispatch that ends without the results of a flow sample. -/
theorem AllOrNothing.of_drafts {mask : UInt32} {snapshot : RuntimeSnapshot}
    {dispatch : Dispatch} {event : AppEvent}
    (h : Drafts world mask snapshot dispatch)
    (hquiet : dispatch.failed = false → event.id ≠ .maxRawReady)
    (hwritten : dispatch.failed = false → mask ≠ 0 → world.Listens event →
      dispatch.consumed = true) :
    AllOrNothing world (finishDispatch event dispatch none).2 event
      (finishDispatch event dispatch none).1 := by
  have hundone := h.abort
  rw [finishDispatch]
  split
  · exact ⟨fun _ _ => ⟨hundone.visible, hundone.owners.volume,
      hundone.owners.leak⟩, nofun, hundone.free⟩
  · next hgoes =>
      rw [Bool.not_eq_true] at hgoes
      split
      · next hmask =>
          obtain ⟨hresult, hpublished, hvolume, hleak⟩ := h.commit event none
          rw [h.txn] at hmask
          refine ⟨fun hfailed hlistens => ?_,
            fun _ hevent => absurd hevent (hquiet hgoes), hpublished.free⟩
          rw [hresult, hwritten hgoes hmask hlistens] at hfailed
          cases hfailed
      · exact ⟨fun _ _ => ⟨hundone.visible, hundone.owners.volume,
          hundone.owners.leak⟩, fun _ hevent => absurd hevent (hquiet hgoes),
          hundone.free⟩

/-- A dispatch that ends with them. -/
theorem AllOrNothing.of_prepared {event : AppEvent} {dispatch : Dispatch}
    {owners : FlowOwners} {flow : FlowResult} {leak : LeakDetectionResult}
    {mask : UInt32}
    (h : Drafts world mask
      { world.repo.visible with
        flow, volume := owners.nextVolume.getState, leak } dispatch)
    (hmask : mask ≠ 0) (hgoes : dispatch.failed = false)
    (hleak : leak.resultVersion = owners.nextLeak.stateVersion ∧
      leak.state = owners.nextLeak.state)
    (hconsumed : world.Listens event → dispatch.consumed = true) :
    AllOrNothing world (finishDispatch event dispatch (some owners)).2 event
      (finishDispatch event dispatch (some owners)).1 := by
  obtain ⟨hresult, hpublished, hvolume, hleak'⟩ := h.commit event (some owners)
  rw [finishDispatch, if_neg (by simp [hgoes]),
    if_pos (by rw [h.txn]; exact hmask)]
  refine ⟨fun hfailed hlistens => ?_, fun _ _ => ⟨hpublished.version, flow, leak,
    ?_, ?_, ?_⟩, hpublished.free⟩
  · rw [hresult, hconsumed hlistens] at hfailed
    cases hfailed
  · rw [hpublished.visible, hvolume]
    rfl
  · rw [hleak']
    exact hleak.1
  · rw [hleak']
    exact hleak.2

theorem Ready.processEvent (h : world.Ready) (env : BusEnvironment)
    (event : AppEvent) :
    AllOrNothing world (processEvent env world event).2 event
      (processEvent env world event).1 := by
  have hserved := served_drafts env h.builtIn event
  have hconsumed : world.Listens event → _ := served_consumed env event
  rw [processEvent_of_free h.free]
  dsimp only
  by_cases hpressure :
      (!(served env world event).failed) = true ∧ event.id = .pressureRawReady
  · obtain ⟨hgoes, hid⟩ := hpressure
    have hnotMax : event.id ≠ .maxRawReady := by simp [hid]
    obtain ⟨mask, snapshot, hdraft, hkept⟩ := hserved.acceptPressure
    rw [pressureStage, if_pos ⟨hgoes, hid⟩, flowStage,
      if_neg fun hmax => hnotMax hmax.2]
    refine .of_drafts hdraft (fun _ => hnotMax) fun _ _ hlistens => ?_
    rw [hkept]
    exact hconsumed hlistens (.inr hid) (by simpa using hgoes)
  · rw [pressureStage, if_neg hpressure, flowStage]
    by_cases hmax :
        (!(served env world event).failed) = true ∧ event.id = .maxRawReady
    · obtain ⟨hgoes, hid⟩ := hmax
      rw [if_pos ⟨hgoes, hid⟩]
      have hgoes : (served env world event).failed = false := by simpa using hgoes
      have houtcome := FlowOutcome.of_acceptFlow world.repo.visible hserved
      generalize acceptFlow world.repo.visible (served env world event) = out
        at houtcome ⊢
      cases houtcome with
      | refused hfailed hdraft =>
          refine .of_drafts hdraft ?_ ?_
          · exact fun hnot => absurd (hfailed.symm.trans hnot) (by decide)
          · exact fun hnot => absurd (hfailed.symm.trans hnot) (by decide)
      | prepared hkept hraw hflow hstatus hvolume hleak hmask hdraft =>
          refine .of_prepared hdraft hmask (hkept.1.trans hgoes) hleak ?_
          intro hlistens
          rw [hkept.2]
          exact hconsumed hlistens (.inl hid) hgoes
    · rw [if_neg hmax]
      refine .of_drafts hserved ?_ ?_
      · intro hgoes hid
        have hgoes : (served env world event).failed = false := hgoes
        exact hmax ⟨by simp [hgoes], hid⟩
      · exact fun _ hmask => absurd rfl hmask

/-! ## What every step keeps -/

theorem Drafts.finish_bindings {mask : UInt32} {snapshot : RuntimeSnapshot}
    {dispatch : Dispatch} (h : Drafts world mask snapshot dispatch)
    (event : AppEvent) (prepared : Option FlowOwners) :
    (finishDispatch event dispatch prepared).2.manager.services =
      world.manager.services ∧
    (finishDispatch event dispatch prepared).2.manager.flowPipelineBound =
      world.manager.flowPipelineBound ∧
    (finishDispatch event dispatch prepared).2.manager.pressurePipelineBound =
      world.manager.pressurePipelineBound := by
  have howners := h.abort.owners
  have hpublished := (h.commit event prepared).2.1
  rw [finishDispatch]
  split
  · exact ⟨howners.services, howners.flowBound, howners.pressureBound⟩
  · split
    · exact ⟨hpublished.services, hpublished.flowBound,
        hpublished.pressureBound⟩
    · exact ⟨howners.services, howners.flowBound, howners.pressureBound⟩

theorem Drafts.pressureStage {mask : UInt32} {snapshot : RuntimeSnapshot}
    {dispatch : Dispatch} (h : Drafts world mask snapshot dispatch)
    (event : AppEvent) :
    ∃ mask snapshot, Drafts world mask snapshot
      (MeasurementWorld.pressureStage event dispatch) := by
  rw [MeasurementWorld.pressureStage]
  split
  · obtain ⟨mask', snapshot', hdraft, -⟩ := h.acceptPressure
    exact ⟨mask', snapshot', hdraft⟩
  · exact ⟨mask, snapshot, h⟩

/-- The stages of a dispatch only ever extend its draft. -/
theorem Drafts.stages {mask : UInt32} {snapshot : RuntimeSnapshot}
    {dispatch : Dispatch} (h : Drafts world mask snapshot dispatch)
    (event : AppEvent) (input : RuntimeSnapshot) :
    ∃ mask snapshot, Drafts world mask snapshot
      (flowStage event input
        (MeasurementWorld.pressureStage event dispatch)).1 := by
  obtain ⟨mask', snapshot', hpressure⟩ := h.pressureStage event
  rw [flowStage]
  split
  · have houtcome := FlowOutcome.of_acceptFlow input hpressure
    generalize acceptFlow input
        (MeasurementWorld.pressureStage event dispatch) = out
      at houtcome ⊢
    cases houtcome with
    | refused _ hdraft => exact ⟨_, _, hdraft⟩
    | prepared _ _ _ _ _ _ _ hdraft => exact ⟨_, _, hdraft⟩
  · exact ⟨mask', snapshot', hpressure⟩

theorem Ready.dispatch (h : world.Ready) (event : AppEvent) :
    (MeasurementWorld.processEvent env world event).2.Ready := by
  have hfree := (h.processEvent env event).free
  obtain ⟨maxEnabled, zsscEnabled, hservices⟩ := h.builtIn
  obtain ⟨mask, snapshot, hdraft⟩ :=
    (served_drafts env h.builtIn event).stages event world.repo.visible
  rw [processEvent_of_free h.free] at hfree ⊢
  obtain ⟨hkept, hflow, hpressure⟩ := hdraft.finish_bindings event
    (flowStage event world.repo.visible
      (pressureStage event (served env world event))).2
  exact ⟨hflow.trans h.flowBound, hpressure.trans h.pressureBound,
    ⟨maxEnabled, zsscEnabled, hkept.trans hservices⟩, hfree⟩

theorem pressureBusComplete_handled (world : MeasurementWorld)
    (completion : I2cTransactionCompletion) :
    world.Handled (pressureBusComplete world completion) :=
  ⟨rfl, ⟨rfl, rfl, rfl, rfl, rfl⟩⟩

theorem advanceBus_handled (world : MeasurementWorld) (bus : BusWorld) :
    world.Handled (world.advanceBus bus) := by
  have hfold : ∀ (completions : List I2cTransactionCompletion)
      (world : MeasurementWorld),
      world.Handled (completions.foldl pressureBusComplete world) := by
    intro completions
    induction completions with
    | nil => exact .refl
    | cons completion completions ih =>
        intro world
        exact (pressureBusComplete_handled world completion).trans (ih _)
  have hbus : world.Handled { world with bus } :=
    ⟨rfl, ⟨rfl, rfl, rfl, rfl, rfl⟩⟩
  exact hbus.trans (hfold _ _)

theorem completeI2c_handled (env : BusEnvironment) (world : MeasurementWorld)
    (key : I2cBus.CompletionKey) (result : I2cTransactionResult)
    (completionNowUs : UInt64) :
    world.Handled (completeI2c env world key result completionNowUs).2 := by
  rw [completeI2c]
  split
  · exact .refl world
  · have htime : world.Handled
        { world with
          manager :=
            { world.manager with
              pressureCompletionNowUs := completionNowUs } } :=
      ⟨rfl, ⟨rfl, rfl, rfl, rfl, rfl⟩⟩
    exact htime.trans (advanceBus_handled _ _)

theorem Ready.handled {after : MeasurementWorld} (h : world.Ready)
    (hafter : world.Handled after) : after.Ready :=
  h.of_sameOwners hafter.owners (hafter.repo ▸ h.free)

/-- Enabling or disabling a service leaves the built-in ones registered. -/
theorem setEnabled_builtIn {manager : MeasurementManager}
    {maxEnabled zsscEnabled : Bool}
    (hservices : manager.services = builtInServices maxEnabled zsscEnabled)
    (serviceId : UInt32) (enabled : Bool) :
    ∃ maxEnabled zsscEnabled,
      (manager.setEnabled serviceId enabled).2.services =
        builtInServices maxEnabled zsscEnabled := by
  rw [MeasurementManager.setEnabled, hservices]
  by_cases hmax : serviceId = measurementServiceIdMax35103
  · subst hmax
    exact ⟨enabled, zsscEnabled, rfl⟩
  · by_cases hzssc : serviceId = measurementServiceIdZssc3241
    · subst hzssc
      exact ⟨maxEnabled, enabled, rfl⟩
    · have hnone :
          ((builtInServices maxEnabled zsscEnabled).any
            (·.serviceId = serviceId)) = false := by
        simp [builtInServices, MeasurementManager.maxService,
          MeasurementManager.zsscService, Ne.symm hmax, Ne.symm hzssc]
      rw [hnone]
      exact ⟨maxEnabled, zsscEnabled, hservices⟩

theorem Ready.apply (h : world.Ready) (step : MeasurementStep) :
    (MeasurementWorld.apply env world step).Ready := by
  cases step with
  | dispatch event => exact h.dispatch event
  | setEnabled serviceId enabled =>
      obtain ⟨maxEnabled, zsscEnabled, hservices⟩ := h.builtIn
      have hbuiltIn := setEnabled_builtIn hservices serviceId enabled
      have hbounds :
          (world.manager.setEnabled serviceId enabled).2.flowPipelineBound =
            world.manager.flowPipelineBound ∧
          (world.manager.setEnabled serviceId enabled).2.pressurePipelineBound =
            world.manager.pressurePipelineBound := by
        rw [MeasurementManager.setEnabled]
        split <;> exact ⟨rfl, rfl⟩
      exact ⟨hbounds.1.trans h.flowBound, hbounds.2.trans h.pressureBound,
        hbuiltIn, h.free⟩
  | completeI2c key result completionNowUs =>
      exact h.handled (completeI2c_handled env world key result completionNowUs)
  | advanceBus bus => exact h.handled (advanceBus_handled world bus)
  | receive responseBuffer =>
      exact h.handled ⟨rfl, ⟨rfl, rfl, rfl, rfl, rfl⟩⟩
  | publish writes =>
      refine h.of_sameOwners (.refl _) ?_
      have htransact := transact_eq world.repo h.free writes
      exact (congrArg (·.2.writerActive) htransact).trans rfl
  | serve eventQueue => exact h.handled ⟨rfl, .refl _⟩

theorem Ready.run (h : world.Ready) (env : BusEnvironment) (steps : List MeasurementStep) :
    (run env world steps).Ready := by
  induction steps generalizing world with
  | nil => exact h
  | cons step steps ih => exact ih (h.apply step)

end Runs

/-! ## The result -/

/-- A flow pipeline with a fresh temperature and a pressure pipeline on the bus,
as `measurement_manager_init` and the two bindings leave them. -/
def bench : MeasurementWorld :=
  let cal : CalibrationRecord := ⟨4, 1024, 0, 10⟩
  let bus := I2cBus.init (some ⟨true, false, false⟩)
  let manager := MeasurementManager.init
  let manager :=
    (manager.bindFlowPipeline ⟨⟨3, 1, 4, 1⟩, 1000, 100000, 1480000⟩ cal
      ⟨2, 5000000, 100000, 3600, 60⟩ .testDefaults 0).2
  let (_, manager, bus) :=
    manager.bindPressurePipeline bus 0x28
      ⟨⟨7, 1, 2, 1⟩, 0, 1000000, 0, 0, 0, 0xFFFFFF, 0, 1000000, 0⟩ cal
  let temperature : TemperatureResult :=
    ⟨{ ResultMetadata.cleared with sampleMonotonicUs := 1000 }, 25000, 0⟩
  { manager
    eventQueue := .init none
    repo := (DataRepository.init.transact [.temperature temperature]).2
    bus := ⟨bus, []⟩ }

/-- A port that takes every request. -/
def willingPort : BusEnvironment := ⟨fun _ _ => .ok, fun _ _ => .done⟩

/-- The events of one flow sample, from its interrupt to its raw result. -/
def flowSample (sampleUs : UInt64) : List AppEvent :=
  let frame : Vector UInt8 16 :=
    #v[0x01, 0x90, 0x00, 0x00, 0x01, 0x90, 0x01, 0x00, 0xFF, 0xFF, 0xFF, 0x00,
      0x01, 0x08, 0, 0]
  let event := { AppEvent.cleared with monotonicTimestampUs := sampleUs }
  [{ event with id := .maxIrqAsserted },
    { event with id := .maxSpiCompleted, payload := frame, payloadSize := 14 },
    { event with id := .maxRawReady }]

end MeasurementWorld
end Swfpm
