import Swfpm.Measurement.AllOrNothing

/-!
# A time gap stops metering

The accumulator re-anchors on a gap, but on a candidate copy that the manager
drops with the rejected sample.  The live anchor stays before the gap, so every
later sample finds the same gap.
-/

namespace Swfpm

/-! ## The accumulator at a gap -/

/-- A sample at `nowUs` is too far from the anchor. -/
structure VolumeAccumulator.GapAt (accumulator : VolumeAccumulator)
    (nowUs : UInt64) : Prop where
  anchored : accumulator.anchorValid = true
  later : accumulator.anchorSampleUs < nowUs
  gap : accumulator.config.maximumIntegrationGapUs <
    nowUs - accumulator.anchorSampleUs

/-- From the gap on no sample is accepted. -/
theorem VolumeAccumulator.GapAt.rejects {self : VolumeAccumulator}
    {gapUs : UInt64} (h : self.GapAt gapUs) {flow : FlowResult}
    (hlater : gapUs ≤ flow.metadata.sampleMonotonicUs) :
    ¬ MeasurementWorld.Consumes (self.consume flow).1 := by
  have hafter : self.anchorSampleUs < flow.metadata.sampleMonotonicUs :=
    UInt64.lt_of_lt_of_le h.later hlater
  have hstep := consume_step self flow
  generalize self.consume flow = out at hstep ⊢
  obtain ⟨status, next⟩ := out
  rintro (rfl | rfl | rfl)
  · cases hstep with
    | refused hadmission => exact (checkAdmission_frame hadmission).2.1 rfl
    | integrated _ _ _ hgap =>
        have hwider : gapUs - self.anchorSampleUs ≤
            flow.metadata.sampleMonotonicUs - self.anchorSampleUs := by
          rw [UInt64.le_iff_toNat_le,
            UInt64.toNat_sub_of_le _ _ (UInt64.le_of_lt h.later),
            UInt64.toNat_sub_of_le _ _ (UInt64.le_of_lt hafter)]
          exact Nat.sub_le_sub_right (UInt64.le_iff_toNat_le.mp hlater) _
        exact UInt64.not_lt.mpr (UInt64.le_trans hwider hgap) h.gap
  · cases hstep with
    | refused hadmission => exact (checkAdmission_frame hadmission).2.2.1 rfl
    | anchored _ hanchor => simp [h.anchored] at hanchor
  · cases hstep with
    | refused hadmission => exact (checkAdmission_frame hadmission).2.2.2 rfl
    | zeroInterval _ _ htime =>
        exact UInt64.lt_irrefl _ (htime ▸ hafter)

/-! ## The flow driver in a dispatch -/

/-- The operations that a dispatch of `event` can make on the flow driver keep
`P`. -/
structure Max35103Driver.Preserves (P : Max35103Driver → Prop)
    (event : AppEvent) : Prop where
  onIrq : ∀ driver, P driver → event.id = .maxIrqAsserted →
    P (driver.onIrq event.monotonicTimestampUs)
  onSpiCompletion : ∀ driver success received queue, P driver →
    P (driver.onSpiCompletion event.correlationId success received
      event.monotonicTimestampUs queue).1
  onTimeout : ∀ driver, P driver → P driver.onTimeout
  takeRawFlow : ∀ driver, P driver → P driver.takeRawFlow.2

namespace MeasurementWorld

section Driver

variable {env : BusEnvironment} {P : Max35103Driver → Prop} {event : AppEvent}
  (hP : Max35103Driver.Preserves P event)

include hP

theorem runEventFn_max {world : MeasurementWorld} (h : P world.manager.max)
    (onEvent : MeasurementEventFn) :
    P (runEventFn env world event onEvent).2.manager.max := by
  cases onEvent with
  | maxOnEvent =>
      rw [runEventFn, maxOnEvent]
      dsimp only
      split
      · next hid => exact hP.onIrq _ h hid
      · exact hP.onSpiCompletion _ _ _ _ h
      · exact hP.onSpiCompletion _ _ _ _ h
      · exact hP.onTimeout _ h
      · exact h
      · exact h
  | zsscOnEvent =>
      rw [runEventFn, (zsscOnEvent_onPressure env world event).max]
      exact h
  | other onEvent => exact h

theorem callService_max {dispatch : Dispatch} {input : RuntimeSnapshot}
    {nowUs : UInt64} (h : P dispatch.world.manager.max)
    (service : MeasurementService) :
    P (callService env ⟨input, event, nowUs⟩ dispatch
      service).world.manager.max := by
  have hcalled :
      P (callOnEvent env dispatch event service).world.manager.max := by
    rw [callOnEvent]
    split
    · exact h
    · next onEvent _ =>
        dsimp only
        split
        · exact runEventFn_max hP h onEvent
        · exact runEventFn_max hP h onEvent
  rw [callService]
  dsimp only
  split
  · exact h
  · split
    · exact hcalled
    · rw [callCompute]
      split
      · exact hcalled
      · dsimp only
        split
        · exact hcalled
        · exact hcalled

theorem foldl_callService_max {dispatch : Dispatch} {input : RuntimeSnapshot}
    {nowUs : UInt64} (h : P dispatch.world.manager.max)
    (services : List MeasurementService) :
    P (services.foldl (callService env ⟨input, event, nowUs⟩)
      dispatch).world.manager.max := by
  induction services generalizing dispatch with
  | nil => exact h
  | cons service services ih => exact ih (callService_max hP h service)

omit hP in
theorem pressureStage_max {dispatch : Dispatch} (event : AppEvent) :
    (pressureStage event dispatch).world.manager.max =
      dispatch.world.manager.max := by
  rw [pressureStage]
  split
  · rw [acceptPressure]
    dsimp only
    split
    · rfl
    · rfl
  · rfl

omit hP in
theorem prepareOwners_manager (input : RuntimeSnapshot)
    (raw : Max35103RawFlowSample) (dispatch : Dispatch) :
    (prepareOwners input raw dispatch).1.world.manager =
      dispatch.world.manager := by
  rw [prepareOwners]
  dsimp only
  split
  · rfl
  · split
    · rfl
    · split
      · rfl
      · split
        · rfl
        · split
          · rfl
          · rfl

theorem flowStage_max {dispatch : Dispatch} {input : RuntimeSnapshot}
    (h : P dispatch.world.manager.max) :
    P (flowStage event input dispatch).1.world.manager.max := by
  rw [flowStage]
  split
  · rw [acceptFlow]
    dsimp only
    split
    · exact h
    · split
      · exact h
      · next raw max htaken =>
          have hmax : P max := by
            have htake := hP.takeRawFlow _ h
            rwa [htaken] at htake
          split
          · exact hmax
          · rw [prepareOwners_manager]
            exact hmax
  · exact h

omit hP in
theorem commitDispatch_max (event : AppEvent) (dispatch : Dispatch)
    (prepared : Option FlowOwners) :
    (commitDispatch event dispatch prepared).2.manager.max =
      dispatch.world.manager.max := by
  rw [commitDispatch]
  generalize dispatch.txn.txnCommit dispatch.world.repo = out
  obtain ⟨committed, txn, repo⟩ := out
  cases committed with
  | false => rfl
  | true =>
      cases prepared with
      | none =>
          simp only [Bool.not_true, Bool.false_eq_true, if_false]
          split <;> rfl
      | some owners =>
          obtain ⟨eventQueue, hposts⟩ := foldl_postReady event
            [.flowResultReady, .volumeUpdated, .leakResultUpdated]
            (({ dispatch.world with repo } : MeasurementWorld).adopt owners)
          simp only [hposts, Bool.not_true, Bool.false_eq_true, if_false]
          split <;> rfl

omit hP in
theorem finishDispatch_max (event : AppEvent) (dispatch : Dispatch)
    (prepared : Option FlowOwners) :
    (finishDispatch event dispatch prepared).2.manager.max =
      dispatch.world.manager.max := by
  rw [finishDispatch]
  split
  · rfl
  · split
    · exact commitDispatch_max event dispatch prepared
    · rfl

/-- What a dispatch keeps of the flow driver. -/
theorem processEvent_max {world : MeasurementWorld}
    (h : P world.manager.max) :
    P (processEvent env world event).2.manager.max := by
  rw [processEvent]
  dsimp only
  split
  · exact h
  · rw [finishDispatch_max]
    refine flowStage_max hP ?_
    rw [pressureStage_max]
    exact foldl_callService_max hP h _

end Driver
end MeasurementWorld

/-- What the driver has sampled is not older than `gapUs`. -/
structure Max35103Driver.Since (gapUs : UInt64) (driver : Max35103Driver) :
    Prop where
  sampled : gapUs ≤ driver.sampleMonotonicUs
  mailbox : driver.rawFlowMailboxValid = true →
    gapUs ≤ driver.rawFlowMailbox.metadata.sampleMonotonicUs

theorem Max35103Driver.since_preserves {gapUs : UInt64} {event : AppEvent}
    (hlater : event.id = .maxIrqAsserted →
      gapUs ≤ event.monotonicTimestampUs) :
    Preserves (Since gapUs) event := by
  constructor
  · intro driver h hid
    exact ⟨hlater hid, nofun⟩
  · intro driver success received queue h
    rw [onSpiCompletion]
    dsimp only
    split
    · exact ⟨h.sampled, h.mailbox⟩
    · split
      · exact ⟨h.sampled, h.mailbox⟩
      · exact ⟨h.sampled, fun _ => h.sampled⟩
  · intro driver h
    exact ⟨h.sampled, nofun⟩
  · intro driver h
    rw [takeRawFlow]
    split
    · exact h
    · exact ⟨h.sampled, nofun⟩

/-- The mailbox holds a sample of the last interrupt. -/
def Max35103Driver.Current (driver : Max35103Driver) : Prop :=
  driver.rawFlowMailboxValid = true →
    driver.rawFlowMailbox.metadata.sampleMonotonicUs = driver.sampleMonotonicUs

theorem Max35103Driver.current_preserves (event : AppEvent) :
    Preserves Current event := by
  constructor
  · intro driver h hid
    exact nofun
  · intro driver success received queue h
    rw [onSpiCompletion]
    dsimp only
    split
    · exact h
    · split
      · exact h
      · exact fun _ => rfl
  · intro driver h
    exact nofun
  · intro driver h
    rw [takeRawFlow]
    split
    · exact h
    · exact nofun

namespace MeasurementWorld

/-! ## Reachable managers -/

/-- What the set-up calls, dispatches and the world around make of a manager.
Services come, go and change their behaviour freely. -/
inductive Reachable (env : BusEnvironment) : MeasurementWorld → Prop where
  | init (eventQueue : AppEventQueue) (repo : DataRepository) (bus : BusWorld) :
      Reachable env { manager := .init, eventQueue, repo, bus }
  | bindFlowPipeline {world : MeasurementWorld} (h : Reachable env world)
      (profile : FlowProfile) (calibration : CalibrationRecord)
      (volumeConfig : VolumeConfig) (leakConfig : LeakDetectionConfig)
      (nowUs : UInt64) :
      Reachable env
        { world with
          manager :=
            (world.manager.bindFlowPipeline profile calibration volumeConfig
              leakConfig nowUs).2 }
  | bindPressurePipeline {world : MeasurementWorld} (h : Reachable env world)
      (slaveAddress : UInt8) (profile : PressureProfile)
      (calibration : CalibrationRecord) :
      Reachable env
        (let bound :=
          world.manager.bindPressurePipeline world.bus.bus slaveAddress profile
            calibration
        { world with
          manager := bound.2.1, bus := { world.bus with bus := bound.2.2 } })
  | services {world : MeasurementWorld} (h : Reachable env world)
      (services : List MeasurementService) :
      Reachable env
        { world with manager := { world.manager with services } }
  | step {world : MeasurementWorld} (h : Reachable env world)
      (step : MeasurementStep) : Reachable env (apply env world step)

section Reachable

variable {env : BusEnvironment} {world : MeasurementWorld}

theorem advanceBus_max (world : MeasurementWorld) (bus : BusWorld) :
    (world.advanceBus bus).manager.max = world.manager.max := by
  have hfold : ∀ (completions : List I2cTransactionCompletion)
      (world : MeasurementWorld),
      (completions.foldl pressureBusComplete world).manager.max =
        world.manager.max := by
    intro completions
    induction completions with
    | nil => exact fun _ => rfl
    | cons completion completions ih => exact fun world => ih _
  exact hfold _ _

/-- Between two dispatches nothing touches the flow driver. -/
theorem apply_max {P : Max35103Driver → Prop} (h : P world.manager.max)
    {step : MeasurementStep}
    (hP : ∀ event, step = .dispatch event → Max35103Driver.Preserves P event) :
    P (apply env world step).manager.max := by
  cases step with
  | dispatch event => exact processEvent_max (hP event rfl) h
  | setEnabled serviceId enabled =>
      rw [apply, MeasurementManager.setEnabled]
      split <;> exact h
  | completeI2c key result completionNowUs =>
      rw [apply, completeI2c]
      split
      · exact h
      · dsimp only
        rw [advanceBus_max]
        exact h
  | advanceBus bus =>
      rw [apply, advanceBus_max]
      exact h
  | receive responseBuffer => exact h
  | publish writes => exact h
  | serve eventQueue => exact h

theorem bindPressurePipeline_max (manager : MeasurementManager)
    (bus : I2cBusManager) (slaveAddress : UInt8) (profile : PressureProfile)
    (calibration : CalibrationRecord) :
    (manager.bindPressurePipeline bus slaveAddress profile
      calibration).2.1.max = manager.max := by
  rw [MeasurementManager.bindPressurePipeline]
  split
  · rfl
  · dsimp only
    split <;> rfl

theorem Reachable.current (h : Reachable env world) :
    world.manager.max.Current := by
  induction h with
  | init eventQueue repo bus => exact nofun
  | bindFlowPipeline h profile calibration volumeConfig leakConfig nowUs ih =>
      rw [MeasurementManager.bindFlowPipeline]
      split <;> exact ih
  | bindPressurePipeline h slaveAddress profile calibration ih =>
      rw [Max35103Driver.Current, bindPressurePipeline_max]
      exact ih
  | services h services ih => exact ih
  | step h step ih =>
      exact apply_max ih fun event _ => Max35103Driver.current_preserves event

end Reachable

/-! ## After a gap -/

/-- The live accumulator is before the gap, and the driver is past it. -/
structure Stuck (gapUs : UInt64) (world : MeasurementWorld) : Prop where
  gap : world.manager.volumeAccumulator.GapAt gapUs
  since : world.manager.max.Since gapUs

/-- The call returned false, and neither the visible snapshot nor a live owner
has changed. -/
structure Rejected (before after : MeasurementWorld) (succeeded : Bool) :
    Prop where
  failed : succeeded = false
  visible : after.repo.visible = before.repo.visible
  volume : after.manager.volumeAccumulator = before.manager.volumeAccumulator
  leak : after.manager.leakDetection = before.manager.leakDetection

section Stuck

variable {env : BusEnvironment} {world : MeasurementWorld} {gapUs : UInt64}

theorem served_draft (env : BusEnvironment) (world : MeasurementWorld)
    (event : AppEvent) :
    ∃ mask snapshot, Drafts world mask snapshot (served env world event) := by
  have hstart : Drafts world 0 world.repo.visible
      { world := { world with repo := world.repo.draft world.repo.visible }
        txn := world.repo.opened 0, consumed := false, failed := false } :=
    ⟨rfl, rfl, .refl _⟩
  exact hstart.foldl_callService _ _

/-- No flow sample gets its results prepared. -/
theorem Stuck.flowStage (h : Stuck gapUs world) {dispatch : Dispatch}
    {mask : UInt32} {snapshot : RuntimeSnapshot}
    (hdraft : Drafts world mask snapshot dispatch)
    (hsince : dispatch.world.manager.max.Since gapUs) (event : AppEvent)
    (input : RuntimeSnapshot) :
    (∃ mask snapshot, Drafts world mask snapshot
      (flowStage event input dispatch).1) ∧
    (flowStage event input dispatch).2 = none ∧
    (event.id = .maxRawReady →
      (flowStage event input dispatch).1.failed = true) := by
  rw [MeasurementWorld.flowStage]
  split
  · have houtcome := FlowOutcome.of_acceptFlow input hdraft
    generalize acceptFlow input dispatch = out at houtcome ⊢
    cases houtcome with
    | refused hfailed hafter => exact ⟨⟨_, _, hafter⟩, rfl, fun _ => hfailed⟩
    | @prepared _ _ raw _ _ _ _ _ _ _ hraw hflow hstatus =>
        exfalso
        refine h.gap.rejects ?_ hstatus
        rw [Max35103Driver.takeRawFlow] at hraw
        split at hraw
        · cases hraw
        · next hvalid =>
            cases hraw
            rw [hflow]
            exact hsince.mailbox (by simpa using hvalid)
  · next hskip =>
      refine ⟨⟨mask, snapshot, hdraft⟩, rfl, fun hid => ?_⟩
      by_contra hgoes
      exact hskip ⟨by simpa using hgoes, hid⟩

theorem Stuck.dispatch (h : Stuck gapUs world) (env : BusEnvironment)
    {event : AppEvent}
    (hlater : event.id = .maxIrqAsserted → gapUs ≤ event.monotonicTimestampUs) :
    (processEvent env world event).2.manager.volumeAccumulator =
      world.manager.volumeAccumulator ∧
    (event.id = .maxRawReady →
      Rejected world (processEvent env world event).2
        (processEvent env world event).1) := by
  cases hfree : world.repo.writerActive with
  | true =>
      rw [processEvent, RepoWriteTxn.txnBegin, if_pos (.inr hfree)]
      exact ⟨rfl, fun _ => ⟨rfl, rfl, rfl, rfl⟩⟩
  | false =>
      obtain ⟨mask, snapshot, hserved⟩ := served_draft env world event
      obtain ⟨mask, snapshot, hpressure⟩ := hserved.pressureStage event
      have hsince :
          (pressureStage event (served env world event)).world.manager.max.Since
            gapUs := by
        rw [pressureStage_max]
        exact foldl_callService_max (Max35103Driver.since_preserves hlater)
          h.since _
      obtain ⟨⟨mask, snapshot, hdraft⟩, hnone, hrejected⟩ :=
        h.flowStage hpressure hsince event world.repo.visible
      have hundone := hdraft.abort
      rw [processEvent_of_free hfree]
      dsimp only
      rw [hnone]
      constructor
      · rw [finishDispatch]
        split
        · exact hundone.owners.volume
        · split
          · exact (hdraft.commit event none).2.2.1
          · exact hundone.owners.volume
      · intro hid
        rw [finishDispatch, if_pos (hrejected hid)]
        exact ⟨rfl, hundone.visible, hundone.owners.volume, hundone.owners.leak⟩

/-- A step whose interrupts come after the gap. -/
def After (gapUs : UInt64) : MeasurementStep → Prop
  | .dispatch event =>
      event.id = .maxIrqAsserted → gapUs < event.monotonicTimestampUs
  | _ => True

theorem Stuck.step (h : Stuck gapUs world) {step : MeasurementStep}
    (hafter : After gapUs step) :
    Stuck gapUs (apply env world step) ∧
    (apply env world step).manager.volumeAccumulator =
      world.manager.volumeAccumulator := by
  have hsince : (apply env world step).manager.max.Since gapUs := by
    refine apply_max h.since ?_
    rintro event rfl
    exact Max35103Driver.since_preserves fun hid => UInt64.le_of_lt (hafter hid)
  have hvolume : (apply env world step).manager.volumeAccumulator =
      world.manager.volumeAccumulator := by
    cases step with
    | dispatch event =>
        exact (h.dispatch env fun hid => UInt64.le_of_lt (hafter hid)).1
    | setEnabled serviceId enabled =>
        rw [apply, MeasurementManager.setEnabled]
        split <;> rfl
    | completeI2c key result completionNowUs =>
        exact (completeI2c_handled env world key result
          completionNowUs).owners.volume
    | advanceBus bus => exact (advanceBus_handled world bus).owners.volume
    | receive responseBuffer => rfl
    | publish writes => rfl
    | serve eventQueue => rfl
  exact ⟨⟨hvolume ▸ h.gap, hsince⟩, hvolume⟩

end Stuck

/-- What follows a gap: interrupts after it, and services that come, go and
change their behaviour. -/
inductive Later (env : BusEnvironment) (gapUs : UInt64)
    (world : MeasurementWorld) : MeasurementWorld → Prop where
  | refl : Later env gapUs world world
  | step {later : MeasurementWorld} (h : Later env gapUs world later)
      {step : MeasurementStep} (hafter : After gapUs step) :
      Later env gapUs world (apply env later step)
  | services {later : MeasurementWorld} (h : Later env gapUs world later)
      (services : List MeasurementService) :
      Later env gapUs world
        { later with manager := { later.manager with services } }

theorem Stuck.later {env : BusEnvironment} {gapUs : UInt64}
    {world later : MeasurementWorld} (h : Stuck gapUs world)
    (hlater : Later env gapUs world later) :
    Stuck gapUs later ∧ later.manager.volumeAccumulator =
      world.manager.volumeAccumulator := by
  induction hlater with
  | refl => exact ⟨h, rfl⟩
  | step hlater hafter ih =>
      obtain ⟨hstuck, hvolume⟩ := ih.1.step hafter
      exact ⟨hstuck, hvolume.trans ih.2⟩
  | services hlater services ih => exact ⟨⟨ih.1.gap, ih.1.since⟩, ih.2⟩

/-- The raw flow sample that a dispatch is about to take finds a gap. -/
structure FindsGap (world : MeasurementWorld) (event : AppEvent)
    (gapUs : UInt64) : Prop where
  rawReady : event.id = .maxRawReady
  sample : ∃ raw, world.manager.max.takeRawFlow.1 = some raw ∧
    raw.metadata.sampleMonotonicUs = gapUs
  gap : world.manager.volumeAccumulator.GapAt gapUs

theorem FindsGap.stuck {env : BusEnvironment} {world : MeasurementWorld}
    {event : AppEvent} {gapUs : UInt64} (h : world.FindsGap event gapUs)
    (hreachable : Reachable env world) : Stuck gapUs world := by
  refine ⟨h.gap, ?_⟩
  obtain ⟨raw, hraw, rfl⟩ := h.sample
  rw [Max35103Driver.takeRawFlow] at hraw
  split at hraw
  · cases hraw
  · next hvalid =>
      cases hraw
      have hcurrent := hreachable.current (by simpa using hvalid)
      exact ⟨UInt64.le_of_eq hcurrent, fun _ => UInt64.le_refl _⟩

/-- Once a flow sample is rejected over a gap, every later one is rejected as
well, whatever its distance from the samples before it. -/
theorem gap_stops_metering {env : BusEnvironment} {world later : MeasurementWorld}
    {event next : AppEvent} {gapUs : UInt64} (hreachable : Reachable env world)
    (hgap : world.FindsGap event gapUs)
    (hlater : Later env gapUs (processEvent env world event).2 later)
    (hnext : next.id = .maxRawReady) :
    Rejected world (processEvent env world event).2
      (processEvent env world event).1 ∧
    Rejected later (processEvent env later next).2
      (processEvent env later next).1 ∧
    later.manager.volumeAccumulator = world.manager.volumeAccumulator := by
  have hid : ∀ {event : AppEvent}, event.id = .maxRawReady →
      event.id = .maxIrqAsserted → gapUs ≤ event.monotonicTimestampUs := by
    intro event hraw hirq
    simp [hraw] at hirq
  have hstuck := hgap.stuck hreachable
  obtain ⟨hvolume, hrejected⟩ := hstuck.dispatch env (hid hgap.rawReady)
  have hsince : Stuck gapUs (processEvent env world event).2 :=
    ⟨hvolume ▸ hstuck.gap,
      processEvent_max (Max35103Driver.since_preserves (hid hgap.rawReady))
        hstuck.since⟩
  obtain ⟨hstuck', hvolume'⟩ := hsince.later hlater
  exact ⟨hrejected hgap.rawReady, (hstuck'.dispatch env (hid hnext)).2 hnext,
    hvolume'.trans hvolume⟩

theorem Reachable.run {env : BusEnvironment} {world : MeasurementWorld}
    (h : Reachable env world) (steps : List MeasurementStep) :
    Reachable env (run env world steps) := by
  induction steps generalizing world with
  | nil => exact h
  | cons step steps ih => exact ih (h.step step)

theorem Later.run {env : BusEnvironment} {gapUs : UInt64}
    {world later : MeasurementWorld} (h : Later env gapUs world later)
    {steps : List MeasurementStep} (hafter : ∀ step ∈ steps, After gapUs step) :
    Later env gapUs world (MeasurementWorld.run env later steps) := by
  induction steps generalizing later with
  | nil => exact h
  | cons step steps ih =>
      obtain ⟨hfirst, hrest⟩ := List.forall_mem_cons.mp hafter
      exact ih (h.step hfirst) hrest

theorem bench_reachable (env : BusEnvironment) : Reachable env bench :=
  ((Reachable.init _ _ ⟨I2cBus.init (some ⟨true, false, false⟩), []⟩).bindFlowPipeline
    ⟨⟨3, 1, 4, 1⟩, 1000, 100000, 1480000⟩ ⟨4, 1024, 0, 10⟩
    ⟨2, 5000000, 100000, 3600, 60⟩ .testDefaults 0).bindPressurePipeline 0x28
    ⟨⟨7, 1, 2, 1⟩, 0, 1000000, 0, 0, 0, 0xFFFFFF, 0, 1000000, 0⟩
    ⟨4, 1024, 0, 10⟩

/-- The bench right before it takes a sample that comes 6.1 seconds after the
anchor; the limit is 5 seconds. -/
def benchAtGap : MeasurementWorld :=
  let temperature : TemperatureResult :=
    ⟨{ ResultMetadata.cleared with sampleMonotonicUs := 6000000 }, 25000, 0⟩
  run willingPort bench
    ((flowSample 100000).map .dispatch ++ [.publish [.temperature temperature]] ++
      (flowSample 6200000).dropLast.map .dispatch)

theorem gap_stops_metering_oneSecondLater :
    let event := { AppEvent.cleared with id := .maxRawReady }
    let after := (processEvent willingPort benchAtGap event).2
    let later := run willingPort after
      ((flowSample 7200000).dropLast.map .dispatch)
    Rejected later (processEvent willingPort later event).2
      (processEvent willingPort later event).1 := by
  intro event after later
  have hgap : benchAtGap.FindsGap event 6200000 :=
    ⟨rfl, ⟨_, rfl, by decide +kernel⟩,
      ⟨by decide +kernel, by decide +kernel, by decide +kernel⟩⟩
  have hsteps : ∀ step ∈ (flowSample 7200000).dropLast.map .dispatch,
      After 6200000 step := by
    simp [flowSample, After]
  exact (gap_stops_metering ((bench_reachable willingPort).run _) hgap
    (Later.refl.run hsteps) rfl).2.1

/-- The sample one second after the gap is rejected, and only over the anchor:
without one it is accepted. -/
theorem gap_not_bridged :
    let event := { AppEvent.cleared with id := .maxRawReady }
    let (first, after) := processEvent willingPort benchAtGap event
    let later := run willingPort after
      ((flowSample 7200000).dropLast.map .dispatch)
    let unanchored :=
      { later with
        manager :=
          { later.manager with
            volumeAccumulator := later.manager.volumeAccumulator.clearAnchor } }
    first = false ∧ (processEvent willingPort later event).1 = false ∧
      (processEvent willingPort unanchored event).1 = true := by
  decide +kernel

end MeasurementWorld
end Swfpm
