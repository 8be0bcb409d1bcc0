import Swfpm.Bus.Registration
import Swfpm.Measurement.AllOrNothing

/-!
# The pressure side of a dispatch

What a dispatch does to the pressure driver and to the bus is what the handler
of the driver does, and the taking of a raw sample.
-/

namespace Swfpm
namespace MeasurementWorld

/-- The driver, its binding and the bus. -/
structure SamePressure (before after : MeasurementWorld) : Prop where
  zssc : after.manager.zssc = before.manager.zssc
  i2cBus : after.manager.i2cBus = before.manager.i2cBus
  address : after.manager.pressureI2cAddress = before.manager.pressureI2cAddress
  nextId : after.manager.nextPressureCorrelationId =
    before.manager.nextPressureCorrelationId
  bound : after.manager.pressurePipelineBound =
    before.manager.pressurePipelineBound
  services : after.manager.services = before.manager.services
  bus : after.bus = before.bus

theorem SamePressure.refl (world : MeasurementWorld) : world.SamePressure world :=
  ⟨rfl, rfl, rfl, rfl, rfl, rfl, rfl⟩

theorem SamePressure.trans {a b c : MeasurementWorld} (hab : a.SamePressure b)
    (hbc : b.SamePressure c) : a.SamePressure c :=
  ⟨hbc.zssc.trans hab.zssc, hbc.i2cBus.trans hab.i2cBus,
    hbc.address.trans hab.address, hbc.nextId.trans hab.nextId,
    hbc.bound.trans hab.bound, hbc.services.trans hab.services,
    hbc.bus.trans hab.bus⟩

variable {env : BusEnvironment} {world : MeasurementWorld} {event : AppEvent}

theorem maxOnEvent_samePressure (world : MeasurementWorld) (event : AppEvent) :
    world.SamePressure (maxOnEvent world event).2 ∧
      (maxOnEvent world event).1 ≠ .error := by
  rw [maxOnEvent]
  dsimp only
  split <;> exact ⟨⟨rfl, rfl, rfl, rfl, rfl, rfl, rfl⟩, by simp⟩

theorem prepareOwners_samePressure (input : RuntimeSnapshot)
    (raw : Max35103RawFlowSample) (dispatch : Dispatch) :
    dispatch.world.SamePressure (prepareOwners input raw dispatch).1.world := by
  rw [prepareOwners]
  dsimp only
  split
  · exact .refl _
  · split
    · exact .refl _
    · split
      · exact ⟨rfl, rfl, rfl, rfl, rfl, rfl, rfl⟩
      · split
        · exact ⟨rfl, rfl, rfl, rfl, rfl, rfl, rfl⟩
        · split <;> exact ⟨rfl, rfl, rfl, rfl, rfl, rfl, rfl⟩

theorem flowStage_samePressure (event : AppEvent) (input : RuntimeSnapshot)
    (dispatch : Dispatch) :
    dispatch.world.SamePressure (flowStage event input dispatch).1.world := by
  rw [flowStage]
  split
  · rw [acceptFlow]
    dsimp only
    split
    · exact .refl _
    · split
      · exact .refl _
      · split
        · exact ⟨rfl, rfl, rfl, rfl, rfl, rfl, rfl⟩
        · refine SamePressure.trans ?_ (prepareOwners_samePressure _ _ _)
          exact ⟨rfl, rfl, rfl, rfl, rfl, rfl, rfl⟩
  · exact .refl _

theorem commitDispatch_samePressure (event : AppEvent) (dispatch : Dispatch)
    (prepared : Option FlowOwners) :
    dispatch.world.SamePressure (commitDispatch event dispatch prepared).2 := by
  rw [commitDispatch]
  generalize dispatch.txn.txnCommit dispatch.world.repo = out
  obtain ⟨committed, txn, repo⟩ := out
  cases committed with
  | false => exact ⟨rfl, rfl, rfl, rfl, rfl, rfl, rfl⟩
  | true =>
      cases prepared with
      | none =>
          simp only [Bool.not_true, Bool.false_eq_true, if_false]
          split <;> exact ⟨rfl, rfl, rfl, rfl, rfl, rfl, rfl⟩
      | some owners =>
          obtain ⟨eventQueue, hposts⟩ := foldl_postReady event
            [.flowResultReady, .volumeUpdated, .leakResultUpdated]
            (({ dispatch.world with repo } : MeasurementWorld).adopt owners)
          simp only [hposts, Bool.not_true, Bool.false_eq_true, if_false]
          split <;> exact ⟨rfl, rfl, rfl, rfl, rfl, rfl, rfl⟩

theorem finishDispatch_samePressure (event : AppEvent) (dispatch : Dispatch)
    (prepared : Option FlowOwners) :
    dispatch.world.SamePressure (finishDispatch event dispatch prepared).2 := by
  rw [finishDispatch]
  split
  · exact ⟨rfl, rfl, rfl, rfl, rfl, rfl, rfl⟩
  · split
    · exact commitDispatch_samePressure event dispatch prepared
    · exact ⟨rfl, rfl, rfl, rfl, rfl, rfl, rfl⟩

/-- The turn of an enabled service that only handles events. -/
theorem callService_handler {dispatch : Dispatch} {service : MeasurementService}
    {onEvent : MeasurementEventFn} (hgoes : dispatch.failed = false)
    (henabled : service.enabled = true) (hon : service.onEvent = some onEvent)
    (hcompute : service.compute = none) (context : MeasurementComputeContext) :
    let out := runEventFn env dispatch.world context.event onEvent
    callService env context dispatch service =
      { dispatch with
        world := out.2
        failed := decide (out.1 = .error)
        consumed :=
          if out.1 = .error then dispatch.consumed
          else dispatch.consumed || out.1 ≠ .ignored } := by
  intro out
  rw [callService, if_neg (by simp [henabled, hgoes]), callOnEvent, hon]
  dsimp only
  by_cases herror : out.1 = .error
  · simp [out, herror, Dispatch.fail]
  · simp [out, herror, hgoes, callCompute, hcompute]

/-- The driver gives its raw sample away. -/
def taken (world : MeasurementWorld) : MeasurementWorld :=
  { world with
    manager :=
      { world.manager with zssc := world.manager.zssc.takeRawPressure.2 } }

theorem pressureStage_pressure (event : AppEvent) (dispatch : Dispatch) :
    dispatch.world.SamePressure (pressureStage event dispatch).world ∨
      event.id = .pressureRawReady ∧
        dispatch.world.taken.SamePressure (pressureStage event dispatch).world := by
  rw [pressureStage]
  split
  · next hraw =>
      rw [acceptPressure]
      dsimp only
      split
      · exact .inl (.refl _)
      · next sample zssc htaken =>
          refine .inr ⟨hraw.2, ?_, rfl, rfl, rfl, rfl, rfl, rfl⟩
          rw [taken, htaken]
  · exact .inl (.refl _)

/-- The loop over the built-in services ends with the handler of the pressure
driver. -/
theorem served_builtIn {maxEnabled : Bool}
    (hservices : world.manager.services = builtInServices maxEnabled true)
    (env : BusEnvironment) (event : AppEvent) :
    ∃ before, world.SamePressure before ∧
      (served env world event).world = (zsscOnEvent env before event).2 ∧
      (served env world event).failed =
        decide ((zsscOnEvent env before event).1 = .error) ∧
      ((zsscOnEvent env before event).1 = .handled →
        (served env world event).consumed = true) := by
  let context : MeasurementComputeContext :=
    { input := world.repo.visible, event, nowUs := event.monotonicTimestampUs }
  let start : Dispatch :=
    { world := { world with repo := world.repo.draft world.repo.visible }
      txn := world.repo.opened 0, consumed := false, failed := false }
  have hfirst : ∃ dispatch, callService env context start
      { MeasurementManager.maxService with enabled := maxEnabled } = dispatch ∧
      dispatch.failed = false ∧ world.SamePressure dispatch.world := by
    have hstart : world.SamePressure start.world := ⟨rfl, rfl, rfl, rfl, rfl, rfl, rfl⟩
    cases maxEnabled with
    | false =>
        refine ⟨start, ?_, rfl, hstart⟩
        rw [callService, if_pos (.inr rfl)]
    | true =>
        obtain ⟨hsame, hnoError⟩ := maxOnEvent_samePressure start.world event
        refine ⟨_, @callService_handler env start
          { MeasurementManager.maxService with enabled := true } .maxOnEvent rfl rfl
          rfl rfl context, ?_, hstart.trans hsame⟩
        exact decide_eq_false hnoError
  obtain ⟨dispatch, hdispatch, hgoes, hsame⟩ := hfirst
  have hserved : served env world event = callService env context dispatch
      { MeasurementManager.zsscService with enabled := true } := by
    rw [served, runServices, hservices, ← hdispatch]
    rfl
  rw [hserved, callService_handler hgoes rfl rfl rfl context]
  refine ⟨dispatch.world, hsame, rfl, rfl, ?_⟩
  intro hhandled
  simp [runEventFn, context, hhandled]

section Dispatch

variable {maxEnabled : Bool}
  (hservices : world.manager.services = builtInServices maxEnabled true)
  (hfree : world.repo.writerActive = false)

include hservices hfree

/-- What a dispatch does on the pressure side. -/
theorem processEvent_pressure (env : BusEnvironment) (event : AppEvent) :
    ∃ before, world.SamePressure before ∧
      ((zsscOnEvent env before event).2.SamePressure (processEvent env world event).2 ∨
        event.id = .pressureRawReady ∧
          (zsscOnEvent env before event).2.taken.SamePressure
            (processEvent env world event).2) := by
  obtain ⟨before, hbefore, hserved, _, _⟩ := served_builtIn hservices env event
  refine ⟨before, hbefore, ?_⟩
  rw [processEvent_of_free hfree, ← hserved]
  have hrest := (flowStage_samePressure event world.repo.visible
    (pressureStage event (served env world event))).trans
      (finishDispatch_samePressure event _ (flowStage event world.repo.visible
        (pressureStage event (served env world event))).2)
  rcases pressureStage_pressure event (served env world event) with
    hsame | ⟨hraw, htaken⟩
  · exact .inl (hsame.trans hrest)
  · exact .inr ⟨hraw, htaken.trans hrest⟩

/-- The writer is free again after a dispatch. -/
theorem processEvent_free (env : BusEnvironment) (event : AppEvent) :
    (processEvent env world event).2.repo.writerActive = false := by
  obtain ⟨mask, snapshot, hdraft⟩ :=
    (served_drafts env ⟨maxEnabled, true, hservices⟩ event).stages event
      world.repo.visible
  rw [processEvent_of_free hfree]
  dsimp only
  rw [finishDispatch]
  split
  · exact hdraft.abort.free
  · split
    · exact (hdraft.commit event _).2.1.free
    · exact hdraft.abort.free

/-- An event without a raw sample succeeds as its handler does. -/
theorem processEvent_reports (env : BusEnvironment)
    (hpressure : event.id ≠ .pressureRawReady) (hflow : event.id ≠ .maxRawReady) :
    ∃ before, world.SamePressure before ∧
      (zsscOnEvent env before event).2.SamePressure (processEvent env world event).2 ∧
      ((zsscOnEvent env before event).1 = .handled →
        (processEvent env world event).1 = true) ∧
      ((zsscOnEvent env before event).1 = .error →
        (processEvent env world event).1 = false) := by
  obtain ⟨before, hbefore, hserved, hfailed, hconsumed⟩ :=
    served_builtIn hservices env event
  have hdraft := served_drafts env ⟨maxEnabled, true, hservices⟩ event
  have hmask : (served env world event).txn.writtenFieldsMask = 0 := by
    rw [hdraft.txn]
    rfl
  have hdispatch : processEvent env world event =
      finishDispatch event (served env world event) none := by
    rw [processEvent_of_free hfree, pressureStage, if_neg fun h => hpressure h.2,
      flowStage, if_neg fun h => hflow h.2]
  rw [hdispatch]
  refine ⟨before, hbefore, ?_, ?_, ?_⟩
  · rw [← hserved]
    exact finishDispatch_samePressure event _ none
  · intro hhandled
    have hgoes : (served env world event).failed = false := by
      rw [hfailed, hhandled]
      rfl
    rw [finishDispatch, if_neg (by simp [hgoes]), if_neg (not_not.mpr hmask)]
    exact hconsumed hhandled
  · intro herror
    rw [finishDispatch, if_pos (by rw [hfailed, herror]; rfl)]

end Dispatch

end MeasurementWorld
end Swfpm
