import Swfpm.Measurement.MeasurementManager
import Swfpm.Repository.Transactions

/-!
# The draft of a dispatch

During a dispatch the repository holds the draft of one open transaction, and
the live volume accumulator and leak service stay as they were.  `Drafts` says
so, each stage keeps it, and the end of a dispatch drops the draft or publishes
it together with the candidate copies.
-/

namespace Swfpm

open DataRepository

/-! ## What the event handlers leave alone -/

/-- The members that only a successful dispatch or a set-up call changes. -/
structure MeasurementManager.SameOwners (before after : MeasurementManager) :
    Prop where
  volume : after.volumeAccumulator = before.volumeAccumulator
  leak : after.leakDetection = before.leakDetection
  services : after.services = before.services
  flowBound : after.flowPipelineBound = before.flowPipelineBound
  pressureBound : after.pressurePipelineBound = before.pressurePipelineBound

theorem MeasurementManager.SameOwners.refl (manager : MeasurementManager) :
    manager.SameOwners manager :=
  ⟨rfl, rfl, rfl, rfl, rfl⟩

theorem MeasurementManager.SameOwners.trans {a b c : MeasurementManager}
    (hab : a.SameOwners b) (hbc : b.SameOwners c) : a.SameOwners c :=
  ⟨hbc.volume.trans hab.volume, hbc.leak.trans hab.leak,
    hbc.services.trans hab.services, hbc.flowBound.trans hab.flowBound,
    hbc.pressureBound.trans hab.pressureBound⟩

namespace MeasurementWorld

/-- A handler works on the drivers, the queue and the bus. -/
structure Handled (before after : MeasurementWorld) : Prop where
  repo : after.repo = before.repo
  owners : before.manager.SameOwners after.manager

theorem Handled.refl (world : MeasurementWorld) : world.Handled world :=
  ⟨rfl, .refl _⟩

theorem Handled.trans {a b c : MeasurementWorld} (hab : a.Handled b)
    (hbc : b.Handled c) : a.Handled c :=
  ⟨hbc.repo.trans hab.repo, hab.owners.trans hbc.owners⟩

/-- On the pressure side it leaves the flow driver alone as well. -/
structure OnPressure (before after : MeasurementWorld) : Prop extends
    Handled before after where
  max : after.manager.max = before.manager.max

theorem OnPressure.refl (world : MeasurementWorld) : world.OnPressure world :=
  ⟨.refl world, rfl⟩

theorem OnPressure.trans {a b c : MeasurementWorld} (hab : a.OnPressure b)
    (hbc : b.OnPressure c) : a.OnPressure c :=
  ⟨hab.toHandled.trans hbc.toHandled, hbc.max.trans hab.max⟩

section Handlers

variable (env : BusEnvironment) (world : MeasurementWorld) (event : AppEvent)

theorem submitPressure_onPressure (request : I2cBusRequest) :
    world.OnPressure (submitPressure env world request).2 := by
  rw [submitPressure]
  dsimp only
  split
  · exact ⟨⟨rfl, ⟨rfl, rfl, rfl, rfl, rfl⟩⟩, rfl⟩
  · exact ⟨⟨rfl, ⟨rfl, rfl, rfl, rfl, rfl⟩⟩, rfl⟩

theorem submitPressureStart_onPressure (nowUs : UInt64) :
    world.OnPressure (submitPressureStart env world nowUs).2 := by
  rw [submitPressureStart]
  dsimp only
  split
  · exact ⟨⟨rfl, ⟨rfl, rfl, rfl, rfl, rfl⟩⟩, rfl⟩
  · refine OnPressure.trans ?_ (submitPressure_onPressure env _ _)
    exact ⟨⟨rfl, ⟨rfl, rfl, rfl, rfl, rfl⟩⟩, rfl⟩

theorem submitPressureRead_onPressure (nowUs : UInt64) :
    world.OnPressure (submitPressureRead env world nowUs).2 := by
  rw [submitPressureRead]
  dsimp only
  split
  · exact ⟨⟨rfl, ⟨rfl, rfl, rfl, rfl, rfl⟩⟩, rfl⟩
  · split
    · exact ⟨⟨rfl, ⟨rfl, rfl, rfl, rfl, rfl⟩⟩, rfl⟩
    · refine OnPressure.trans ?_ (submitPressure_onPressure env _ _)
      exact ⟨⟨rfl, ⟨rfl, rfl, rfl, rfl, rfl⟩⟩, rfl⟩

theorem maxOnEvent_handled : world.Handled (maxOnEvent world event).2 := by
  rw [maxOnEvent]
  dsimp only
  split <;> exact ⟨rfl, ⟨rfl, rfl, rfl, rfl, rfl⟩⟩

theorem zsscOnEvent_onPressure :
    world.OnPressure (zsscOnEvent env world event).2 := by
  have hdriver : ∀ (zssc : Zssc3241Driver) (zsscCycles : UInt32),
      world.OnPressure
        { world with manager := { world.manager with zssc, zsscCycles } } :=
    fun _ _ => ⟨⟨rfl, ⟨rfl, rfl, rfl, rfl, rfl⟩⟩, rfl⟩
  rw [zsscOnEvent]
  dsimp only
  split
  · split
    · exact (hdriver _ _).trans (submitPressureStart_onPressure env _ _)
    · exact hdriver _ _
  · split
    · exact (hdriver _ world.manager.zsscCycles).trans
        (submitPressureRead_onPressure env _ _)
    · exact hdriver _ world.manager.zsscCycles
  · split
    · exact (hdriver _ world.manager.zsscCycles).trans
        (submitPressureRead_onPressure env _ _)
    · exact hdriver _ world.manager.zsscCycles
  · exact hdriver _ world.manager.zsscCycles
  · exact .refl world
  · exact .refl world

theorem runEventFn_handled (onEvent : MeasurementEventFn) :
    world.Handled (runEventFn env world event onEvent).2 := by
  cases onEvent with
  | maxOnEvent => exact maxOnEvent_handled world event
  | zsscOnEvent => exact (zsscOnEvent_onPressure env world event).toHandled
  | other onEvent => exact .refl world

end Handlers

/-! ## The draft of a dispatch -/

/-- The dispatch that began in `before` holds `snapshot` as its draft, with the
bits of `mask` written. -/
structure Drafts (before : MeasurementWorld) (mask : UInt32)
    (snapshot : RuntimeSnapshot) (dispatch : Dispatch) : Prop where
  txn : dispatch.txn = before.repo.opened mask
  repo : dispatch.world.repo = before.repo.draft snapshot
  owners : before.manager.SameOwners dispatch.world.manager

section Draft

variable {env : BusEnvironment} {before : MeasurementWorld} {mask : UInt32}
  {snapshot : RuntimeSnapshot} {dispatch : Dispatch}

theorem Drafts.handled (h : Drafts before mask snapshot dispatch)
    {world : MeasurementWorld} (hworld : dispatch.world.Handled world)
    (consumed failed : Bool) :
    Drafts before mask snapshot { dispatch with world, consumed, failed } :=
  ⟨h.txn, hworld.repo.trans h.repo, h.owners.trans hworld.owners⟩

/-- A write of the dispatch goes through. -/
theorem Drafts.write (h : Drafts before mask snapshot dispatch)
    (write : SnapshotWrite) :
    write.run dispatch.txn dispatch.world.repo =
      (true, before.repo.opened (mask ||| write.maskBit),
        before.repo.draft (write.store snapshot)) := by
  rw [h.txn, h.repo, draft_write]

theorem Drafts.readSnapshot (h : Drafts before mask snapshot dispatch) :
    dispatch.txn.txnReadSnapshot dispatch.world.repo = some snapshot := by
  rw [h.txn, h.repo, RepoWriteTxn.txnReadSnapshot, if_neg (by simp [opened]),
    if_pos ⟨rfl, opened_ownsWriter _ _ _⟩]
  exact congrArg some (setBuffer_self ..)

theorem Drafts.callOnEvent (h : Drafts before mask snapshot dispatch)
    (env : BusEnvironment) (event : AppEvent) (service : MeasurementService) :
    Drafts before mask snapshot (callOnEvent env dispatch event service) := by
  rw [MeasurementWorld.callOnEvent]
  split
  · exact h
  · next onEvent _ =>
      have hworld := runEventFn_handled env dispatch.world event onEvent
      dsimp only
      split
      · exact h.handled hworld _ _
      · exact h.handled hworld _ _

theorem Drafts.callCompute (h : Drafts before mask snapshot dispatch)
    (context : MeasurementComputeContext) (service : MeasurementService) :
    ∃ mask snapshot, Drafts before mask snapshot
      (callCompute dispatch context service) := by
  rw [MeasurementWorld.callCompute]
  split
  · exact ⟨mask, snapshot, h⟩
  · next compute _ =>
      obtain ⟨mask', hwrites⟩ :=
        before.repo.draft_writes (compute context).2 snapshot mask
      rw [← h.txn, ← h.repo] at hwrites
      refine ⟨mask', SnapshotWrite.storeAll (compute context).2 snapshot, ?_⟩
      simp only [hwrites]
      split
      · exact ⟨rfl, rfl, h.owners⟩
      · exact ⟨rfl, rfl, h.owners⟩

theorem Drafts.callService (h : Drafts before mask snapshot dispatch)
    (context : MeasurementComputeContext) (service : MeasurementService) :
    ∃ mask snapshot, Drafts before mask snapshot
      (callService env context dispatch service) := by
  rw [MeasurementWorld.callService]
  split
  · exact ⟨mask, snapshot, h⟩
  · have hcalled := h.callOnEvent env context.event service
    dsimp only
    split
    · exact ⟨mask, snapshot, hcalled⟩
    · exact hcalled.callCompute context service

theorem Drafts.foldl_callService (h : Drafts before mask snapshot dispatch)
    (context : MeasurementComputeContext)
    (services : List MeasurementService) :
    ∃ mask snapshot, Drafts before mask snapshot
      (services.foldl (MeasurementWorld.callService env context) dispatch) := by
  induction services generalizing dispatch mask snapshot with
  | nil => exact ⟨mask, snapshot, h⟩
  | cons service services ih =>
      obtain ⟨mask', snapshot', hcalled⟩ := h.callService context service
      exact ih hcalled

/-- Services without a computation leave the draft alone. -/
theorem Drafts.foldl_handlers (h : Drafts before mask snapshot dispatch)
    (context : MeasurementComputeContext)
    {services : List MeasurementService}
    (hcompute : ∀ service ∈ services, service.compute = none) :
    Drafts before mask snapshot
      (services.foldl (MeasurementWorld.callService env context) dispatch) := by
  induction services generalizing dispatch with
  | nil => exact h
  | cons service services ih =>
      obtain ⟨hnone, hrest⟩ := List.forall_mem_cons.mp hcompute
      refine ih ?_ hrest
      have hcalled := h.callOnEvent env context.event service
      rw [MeasurementWorld.callService]
      dsimp only
      simp only [MeasurementWorld.callCompute, hnone]
      split
      · exact h
      · split
        · exact hcalled
        · exact hcalled

end Draft

/-! ## Who consumes an event -/

section Consumed

variable {env : BusEnvironment} {context : MeasurementComputeContext}
  {dispatch : Dispatch} {service : MeasurementService}

theorem callOnEvent_consumed (env : BusEnvironment) (event : AppEvent)
    (service : MeasurementService) (hconsumed : dispatch.consumed = true) :
    (callOnEvent env dispatch event service).consumed = true := by
  rw [callOnEvent]
  split
  · exact hconsumed
  · dsimp only
    split
    · exact hconsumed
    · simp [hconsumed]

theorem callCompute_consumed (hconsumed : dispatch.consumed = true) :
    (callCompute dispatch context service).consumed = true := by
  rw [callCompute]
  split
  · exact hconsumed
  · dsimp only
    split
    · exact hconsumed
    · simp [hconsumed]

theorem callService_consumed (hconsumed : dispatch.consumed = true) :
    (callService env context dispatch service).consumed = true := by
  have hcalled := callOnEvent_consumed env context.event service hconsumed
  rw [callService]
  dsimp only
  split
  · exact hconsumed
  · split
    · exact hcalled
    · exact callCompute_consumed hcalled

/-- An error is never taken back. -/
theorem callService_failed (hfailed : dispatch.failed = true) :
    callService env context dispatch service = dispatch := by
  rw [callService, if_pos (.inl hfailed)]

theorem foldl_callService_failed (services : List MeasurementService)
    (hfailed : dispatch.failed = true) :
    services.foldl (callService env context) dispatch = dispatch := by
  induction services with
  | nil => rfl
  | cons service services ih =>
      rw [List.foldl_cons, callService_failed hfailed, ih]

theorem foldl_callService_consumed (services : List MeasurementService)
    (hconsumed : dispatch.consumed = true) :
    (services.foldl (callService env context) dispatch).consumed = true := by
  induction services generalizing dispatch with
  | nil => exact hconsumed
  | cons service services ih => exact ih (callService_consumed hconsumed)

/-- An enabled service that handles the event consumes it. -/
theorem callService_handles {onEvent : MeasurementEventFn}
    (henabled : service.enabled = true) (hon : service.onEvent = some onEvent)
    (hhandled : (runEventFn env dispatch.world context.event onEvent).1 =
      .handled)
    (hgoes : dispatch.failed = false) :
    (callService env context dispatch service).consumed = true := by
  have hcalled :
      (callOnEvent env dispatch context.event service).consumed = true := by
    simp [callOnEvent, hon, hhandled]
  rw [callService, if_neg (by simp [henabled, hgoes])]
  dsimp only
  split
  · exact hcalled
  · exact callCompute_consumed hcalled

/-- One enabled service that handles the event is enough. -/
theorem foldl_callService_handles {services : List MeasurementService}
    {onEvent : MeasurementEventFn} (hservice : service ∈ services)
    (henabled : service.enabled = true) (hon : service.onEvent = some onEvent)
    (hhandled : ∀ world,
      (runEventFn env world context.event onEvent).1 = .handled)
    (hgoes :
      (services.foldl (callService env context) dispatch).failed = false) :
    (services.foldl (callService env context) dispatch).consumed = true := by
  induction services generalizing dispatch with
  | nil => exact absurd hservice List.not_mem_nil
  | cons head services ih =>
      have hstart : dispatch.failed = false := by
        by_contra hfailed
        rw [Bool.not_eq_false] at hfailed
        rw [foldl_callService_failed _ hfailed, hfailed] at hgoes
        cases hgoes
      rcases List.mem_cons.mp hservice with rfl | hrest
      · refine foldl_callService_consumed services ?_
        exact callService_handles henabled hon (hhandled _) hstart
      · exact ih hrest hgoes

end Consumed

end MeasurementWorld

/-! ## Pressure and flow -/

section Processing

variable (repo : DataRepository) (mask : UInt32) (snapshot : RuntimeSnapshot)
  (metadata : ResultMetadata)

/-- A pressure sample is written into the draft, or it is refused. -/
theorem PressureService.acceptSample_draft (self : PressureService)
    (rawU24 : UInt32) (status : UInt8) :
    let out :=
      self.acceptSample rawU24 status metadata (repo.opened mask)
        (repo.draft snapshot)
    (out.1 ≠ .ok ∧ out.2.2 = (repo.opened mask, repo.draft snapshot)) ∨
    ∃ pressure, out.1 = .ok ∧
      out.2.2 = (repo.opened (mask ||| RepoWriteTxn.pressureBit),
        repo.draft { snapshot with pressure }) := by
  dsimp only
  rw [acceptSample]
  split
  · next profile cal _ _ =>
      dsimp only
      split
      · next pressurePa _ =>
          have hwrite := repo.draft_write snapshot mask
            (.pressure (resultOf metadata profile cal pressurePa))
          simp only [SnapshotWrite.run] at hwrite
          rw [hwrite]
          exact .inr ⟨_, rfl, rfl⟩
      · next status _ hstatus _ =>
          exact .inl ⟨hstatus, rfl⟩
  · exact .inl ⟨nofun, rfl⟩

theorem FlowService.checkTemperature_ne_ok
    (pairedTemperature : TemperatureResult) :
    checkTemperature metadata pairedTemperature ≠ some .ok := by
  rw [checkTemperature]
  split_ifs <;> simp

/-- A flow sample is written into the draft, or it is refused. -/
theorem FlowService.acceptSample_draft (self : FlowService)
    (tofUpPs tofDownPs : Int64) (pairedTemperature : TemperatureResult) :
    let out :=
      self.acceptSample tofUpPs tofDownPs metadata pairedTemperature
        (repo.opened mask) (repo.draft snapshot)
    (out.1 ≠ .ok ∧ out.2.2 = (repo.opened mask, repo.draft snapshot)) ∨
    ∃ profile cal candidate, out.1 = .ok ∧
      out.2.2 = (repo.opened (mask ||| RepoWriteTxn.flowBit),
        repo.draft
          { snapshot with
            flow :=
              resultOf metadata pairedTemperature profile cal candidate }) := by
  dsimp only
  rw [acceptSample]
  split
  · next profile cal _ _ =>
      split
      · next status hstatus =>
          refine .inl ⟨?_, rfl⟩
          rintro rfl
          exact checkTemperature_ne_ok metadata pairedTemperature hstatus
      · dsimp only
        split
        · next candidate _ =>
            have hwrite := repo.draft_write snapshot mask
              (.flow (resultOf metadata pairedTemperature profile cal candidate))
            simp only [SnapshotWrite.run] at hwrite
            rw [hwrite]
            exact .inr ⟨profile, cal, candidate, rfl, rfl⟩
        · next status _ hstatus _ => exact .inl ⟨hstatus, rfl⟩
  · exact .inl ⟨nofun, rfl⟩

end Processing

namespace MeasurementWorld

/-- A written field leaves its bit in the mask. -/
theorem mask_ne_zero (mask : UInt32) (write : SnapshotWrite) :
    mask ||| write.maskBit ≠ 0 := by
  have hbit : write.maskBit ≠ 0 := by
    cases write <;> simp +decide [SnapshotWrite.maskBit]
  rw [ne_eq, UInt32.or_eq_zero_iff]
  exact fun hzero => hbit hzero.2

section Accept

variable {before : MeasurementWorld} {mask : UInt32}
  {snapshot input : RuntimeSnapshot} {dispatch : Dispatch}

theorem Drafts.fail (h : Drafts before mask snapshot dispatch) :
    Drafts before mask snapshot dispatch.fail :=
  ⟨h.txn, h.repo, h.owners⟩

/-- A pressure sample that is taken is in the draft, or the dispatch fails. -/
theorem Drafts.acceptPressure (h : Drafts before mask snapshot dispatch) :
    ∃ mask snapshot', Drafts before mask snapshot' (acceptPressure dispatch) ∧
      (acceptPressure dispatch).consumed = dispatch.consumed := by
  rw [MeasurementWorld.acceptPressure]
  dsimp only
  split
  · exact ⟨mask, snapshot, h.fail, rfl⟩
  · next sample zssc _ =>
      have haccept := PressureService.acceptSample_draft before.repo mask snapshot
        sample.metadata dispatch.world.manager.pressureService sample.rawU24
        sample.status
      rw [← h.txn, ← h.repo] at haccept
      have howners : before.manager.SameOwners
          { dispatch.world.manager with
            zssc
            pressureService :=
              (dispatch.world.manager.pressureService.acceptSample
                sample.rawU24 sample.status sample.metadata dispatch.txn
                dispatch.world.repo).2.1 } :=
        h.owners.trans ⟨rfl, rfl, rfl, rfl, rfl⟩
      rcases haccept with ⟨-, hout⟩ | ⟨pressure, -, hout⟩
      · refine ⟨mask, snapshot, ⟨?_, ?_, howners⟩, rfl⟩
        · exact (congrArg Prod.fst hout).trans h.txn
        · exact (congrArg Prod.snd hout).trans h.repo
      · exact ⟨_, _, ⟨congrArg Prod.fst hout, congrArg Prod.snd hout, howners⟩,
          rfl⟩

/-- The accumulator accepts the flow result. -/
def Consumes (status : VolumeConsumeStatus) : Prop :=
  status = .ok ∨ status = .anchored ∨ status = .zeroInterval

/-- What a flow sample leads to: a failed dispatch, or a draft with flow, volume
and leak, and the candidate copies that belong to it. -/
inductive FlowOutcome (before : MeasurementWorld) (input : RuntimeSnapshot)
    (snapshot : RuntimeSnapshot) (dispatch : Dispatch) :
    Dispatch × Option FlowOwners → Prop where
  | refused {after : Dispatch} {mask : UInt32} {draft : RuntimeSnapshot}
      (hfailed : after.failed = true)
      (hdraft : Drafts before mask draft after) :
      FlowOutcome before input snapshot dispatch (after, none)
  | prepared {after : Dispatch} {mask : UInt32} {raw : Max35103RawFlowSample}
      {profile : FlowProfile} {cal : CalibrationRecord}
      {candidate : FlowCandidate} {flow : FlowResult}
      {leak : LeakDetectionResult} {owners : FlowOwners}
      (hkept : after.failed = dispatch.failed ∧
        after.consumed = dispatch.consumed)
      (hraw : dispatch.world.manager.max.takeRawFlow.1 = some raw)
      (hflow : flow = FlowService.resultOf raw.metadata input.temperature profile
        cal candidate)
      (hstatus : Consumes (before.manager.volumeAccumulator.consume flow).1)
      (hvolume : owners.nextVolume =
        (before.manager.volumeAccumulator.consume flow).2)
      (hleak : leak.resultVersion = owners.nextLeak.stateVersion ∧
        leak.state = owners.nextLeak.state)
      (hmask : mask ≠ 0)
      (hdraft : Drafts before mask
        { snapshot with flow, volume := owners.nextVolume.getState, leak }
        after) :
      FlowOutcome before input snapshot dispatch (after, some owners)

theorem FlowOutcome.of_prepareOwners {during : Dispatch} {flow : FlowResult}
    {raw : Max35103RawFlowSample} {profile : FlowProfile}
    {cal : CalibrationRecord} {candidate : FlowCandidate}
    (hraw : dispatch.world.manager.max.takeRawFlow.1 = some raw)
    (hkept : during.failed = dispatch.failed ∧
      during.consumed = dispatch.consumed)
    (hflow : flow = FlowService.resultOf raw.metadata input.temperature profile
      cal candidate)
    (h : Drafts before mask { snapshot with flow } during) :
    FlowOutcome before input snapshot dispatch
      (prepareOwners input raw during) := by
  rw [prepareOwners]
  simp only [h.readSnapshot]
  split
  · exact .refused rfl h.fail
  · next hconsumes =>
      have hstatus : Consumes
          (before.manager.volumeAccumulator.consume flow).1 := by
        rw [← h.owners.volume]
        unfold Consumes
        tauto
      have hvolume := h.write (.volume
        (during.world.manager.volumeAccumulator.consume flow).2.getState)
      simp only [SnapshotWrite.run] at hvolume
      simp only [hvolume, Bool.not_true, Bool.false_eq_true, if_false]
      split
      · exact .refused rfl ⟨rfl, rfl, h.owners⟩
      · have hleak := fun mask snapshot leak =>
          before.repo.draft_write snapshot mask (.leak leak)
        simp only [SnapshotWrite.run] at hleak
        simp only [hleak, Bool.not_true, Bool.false_eq_true, if_false]
        exact .prepared hkept hraw hflow hstatus
          (by rw [← h.owners.volume]) ⟨rfl, rfl⟩ (mask_ne_zero _ (.leak .cleared))
          ⟨rfl, rfl, h.owners⟩

theorem FlowOutcome.of_acceptFlow (input : RuntimeSnapshot)
    (h : Drafts before mask snapshot dispatch) :
    FlowOutcome before input snapshot dispatch (acceptFlow input dispatch) := by
  rw [acceptFlow]
  dsimp only
  split
  · exact .refused rfl h.fail
  · split
    · exact .refused rfl h.fail
    · next raw max hraw =>
        have haccept := FlowService.acceptSample_draft before.repo mask snapshot
          raw.metadata dispatch.world.manager.flowService raw.tofUpPs
          raw.tofDownPs input.temperature
        rw [← h.txn, ← h.repo] at haccept
        dsimp only at haccept ⊢
        generalize dispatch.world.manager.flowService.acceptSample raw.tofUpPs
          raw.tofDownPs raw.metadata input.temperature dispatch.txn
          dispatch.world.repo = out at haccept ⊢
        obtain ⟨status, flowService, txn, repo⟩ := out
        have howners : before.manager.SameOwners
            { dispatch.world.manager with max, flowService } :=
          h.owners.trans ⟨rfl, rfl, rfl, rfl, rfl⟩
        rcases haccept with
          ⟨hrefused, hout⟩ | ⟨profile, cal, candidate, hok, hout⟩
        · rw [if_pos hrefused]
          obtain ⟨rfl, rfl⟩ := Prod.mk.inj hout
          exact .refused rfl ⟨h.txn, h.repo, howners⟩
        · rw [if_neg (not_not.mpr hok)]
          obtain ⟨rfl, rfl⟩ := Prod.mk.inj hout
          exact .of_prepareOwners (congrArg Prod.fst hraw) ⟨rfl, rfl⟩ rfl
            ⟨rfl, rfl, howners⟩

end Accept

/-! ## The end of a dispatch -/

/-- Nothing of the dispatch is left, except in drivers, queue and bus. -/
structure Undone (before after : MeasurementWorld) : Prop where
  visible : after.repo.visible = before.repo.visible
  version : after.repo.snapshotVersion = before.repo.snapshotVersion
  free : after.repo.writerActive = false
  owners : before.manager.SameOwners after.manager

/-- The dispatch published `snapshot`. -/
structure Published (before after : MeasurementWorld)
    (snapshot : RuntimeSnapshot) : Prop where
  visible : after.repo.visible =
    { snapshot with snapshotVersion := before.repo.snapshotVersion + 1 }
  version : after.repo.snapshotVersion = before.repo.snapshotVersion + 1
  free : after.repo.writerActive = false
  services : after.manager.services = before.manager.services
  flowBound :
    after.manager.flowPipelineBound = before.manager.flowPipelineBound
  pressureBound :
    after.manager.pressurePipelineBound = before.manager.pressurePipelineBound

section Finish

variable {before : MeasurementWorld} {mask : UInt32}
  {snapshot : RuntimeSnapshot} {dispatch : Dispatch} (event : AppEvent)

theorem Drafts.abort (h : Drafts before mask snapshot dispatch) :
    Undone before (abortDispatch dispatch) := by
  have habort : (abortDispatch dispatch).repo =
      { before.repo.draft snapshot with writerActive := false } := by
    rw [abortDispatch, h.txn, h.repo, draft_abort]
  refine ⟨?_, ?_, ?_, h.owners⟩
  · rw [habort]
    exact setBuffer_of_ne _ _ _ (otherBuffer_ne _).symm
  · rw [habort]
    rfl
  · rw [habort]

/-- Posting the results reaches the queue only. -/
theorem foldl_postReady (ids : List EventId) (world : MeasurementWorld) :
    ∃ eventQueue,
      ids.foldl (postReady event) world = { world with eventQueue } := by
  induction ids generalizing world with
  | nil => exact ⟨world.eventQueue, rfl⟩
  | cons id ids ih =>
      obtain ⟨eventQueue, hrest⟩ := ih (postReady event world id)
      exact ⟨eventQueue, hrest⟩

/-- The live owners after a commit. -/
def ownersAfter (before : MeasurementManager) : Option FlowOwners → FlowOwners
  | none => ⟨before.volumeAccumulator, before.leakDetection⟩
  | some owners => owners

theorem commitDispatch_eq (h : Drafts before mask snapshot dispatch)
    (prepared : Option FlowOwners) :
    ∃ eventQueue, commitDispatch event dispatch prepared =
      (dispatch.consumed,
        { ({ dispatch.world with repo := before.repo.committed snapshot } :
            MeasurementWorld).adopt (ownersAfter before.manager prepared) with
          eventQueue }) := by
  have hadopt : (ownersAfter before.manager none) =
      ⟨dispatch.world.manager.volumeAccumulator,
        dispatch.world.manager.leakDetection⟩ := by
    rw [h.owners.volume, h.owners.leak]
    rfl
  rw [commitDispatch, h.txn, h.repo, draft_commit]
  simp only [Bool.not_true, Bool.false_eq_true, if_false]
  cases prepared with
  | none =>
      rw [hadopt]
      split
      · exact ⟨_, rfl⟩
      · exact ⟨dispatch.world.eventQueue, rfl⟩
  | some owners =>
      obtain ⟨eventQueue, hposts⟩ := foldl_postReady event
        [.flowResultReady, .volumeUpdated, .leakResultUpdated]
        (({ dispatch.world with repo := before.repo.committed snapshot } :
          MeasurementWorld).adopt owners)
      simp only [hposts]
      split
      · exact ⟨_, rfl⟩
      · exact ⟨eventQueue, rfl⟩

theorem Drafts.commit (h : Drafts before mask snapshot dispatch)
    (prepared : Option FlowOwners) :
    (commitDispatch event dispatch prepared).1 = dispatch.consumed ∧
    Published before (commitDispatch event dispatch prepared).2 snapshot ∧
    (commitDispatch event dispatch prepared).2.manager.volumeAccumulator =
      (ownersAfter before.manager prepared).nextVolume ∧
    (commitDispatch event dispatch prepared).2.manager.leakDetection =
      (ownersAfter before.manager prepared).nextLeak := by
  obtain ⟨eventQueue, hcommit⟩ := commitDispatch_eq event h prepared
  rw [hcommit]
  refine ⟨rfl, ?_, rfl, rfl⟩
  exact ⟨before.repo.committed_visible snapshot, rfl, rfl, h.owners.services,
    h.owners.flowBound, h.owners.pressureBound⟩

end Finish

end MeasurementWorld
end Swfpm
