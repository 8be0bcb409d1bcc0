import Swfpm.Max35103.EventView
import Swfpm.Max35103.Device

/-!
# The driver acts on its view

For each function of the deferred half of the driver, what it does to the view.
-/

namespace Swfpm.Max35103

open Swfpm.AutoCal (Max35103Status)

variable {κ : Type*} {platform : Platform κ} {world next : World κ}

/-! ## What leaves the view alone -/

theorem view_congr {before after : World κ}
    (driver : ∀ trace, World.view { after with trace := trace } =
      World.view { before with trace := trace })
    (log : after.trace.filter Event.significant =
      before.trace.filter Event.significant) : after.view = before.view := by
  have same := driver []
  unfold World.view at same ⊢
  simp only [EventView.mk.injEq] at same ⊢
  simp only [same, log, and_self]

theorem unlockEvents_significant (released : Bool) (trace : List Event) :
    ((if released then platform.unlockEvents else []) ++ trace).filter
        Event.significant = trace.filter Event.significant := by
  unfold Platform.unlockEvents
  cases released <;> cases platform.sharing.isSome <;> rfl

theorem lockEvents_significant (trace : List Event) :
    (platform.lockEvents ++ trace).filter Event.significant =
      trace.filter Event.significant := by
  unfold Platform.lockEvents
  cases platform.sharing.isSome <;> rfl

theorem calm_view (calm : Calm world.driver next.driver)
    (log : next.trace.filter Event.significant =
      world.trace.filter Event.significant) : next.view = world.view := by
  obtain ⟨failures, driver⟩ := calm
  refine view_congr (fun trace ↦ ?_) log
  unfold World.view
  rw [driver]
  rfl

theorem spiXfer_view (token : Option UInt32) (tx : List UInt8) :
    (spiXfer platform token tx world).2.view = world.view := by
  refine calm_view (spiXfer_driver platform world token tx) ?_
  rcases spiXfer_trace platform world token tx with same | traced
  · rw [same]
  · have unlocked := @unlockEvents_significant κ platform true
    simp only [if_true] at unlocked
    rw [traced, unlocked, List.filter_cons_of_neg Bool.false_ne_true,
      lockEvents_significant]

theorem cancelPendingSpi_view :
    (cancelPendingSpi platform world).view = world.view.withdraw := by
  obtain ⟨cancels, errors, cancelled⟩ := cancelPendingSpi_driver platform world
  unfold World.view
  rw [cancelled, cancelPendingSpi_trace, unlockEvents_significant]
  rfl

theorem clearOperation_view :
    (clearOperation platform world).view = world.view.clear := by
  unfold clearOperation
  rw [cancelPendingSpi_view]
  rfl

theorem enterError_view : (enterError platform world).view = world.view.fail := by
  unfold enterError
  generalize cancelled : cancelPendingSpi platform (world.set { world.driver with
    errorCount := world.driver.errorCount + 1
    state := .error
    generation := world.driver.generation + 1 }) = withdrawn
  have view := @cancelPendingSpi_view κ platform (world.set { world.driver with
    errorCount := world.driver.errorCount + 1
    state := .error
    generation := world.driver.generation + 1 })
  rw [cancelled] at view
  have cleared : (withdrawn.set
      withdrawn.driver.clearDeadline.clearEventSequence).view =
        withdrawn.view.clearDeadline.clearSequence := rfl
  rw [cleared, view]
  rfl

theorem completeRequest_view :
    (completeRequest platform world).view = world.view.complete := by
  unfold World.view
  rw [completeRequest_driver, completeRequest_trace,
    List.filter_cons_of_pos rfl, unlockEvents_significant]
  rfl

theorem receive_view (rx : List UInt8) : (receive rx world).view = world.view := rfl

/-! ## Records -/

theorem pushResult_view (queued : RawResult) :
    (world.set (world.driver.pushResult queued)).view = world.view := by
  refine view_congr (fun trace ↦ ?_) rfl
  unfold Driver.pushResult World.view
  dsimp only [World.set]
  split_ifs <;> rfl

theorem pushTemperatureResult_view (queued : TemperatureResult) :
    (world.set (world.driver.pushTemperatureResult queued)).view = world.view := by
  refine view_congr (fun trace ↦ ?_) rfl
  unfold Driver.pushTemperatureResult World.view
  dsimp only [World.set]
  split_ifs <;> rfl

theorem publishSequence_view :
    (world.driver.publishSequence.1,
      (world.set world.driver.publishSequence.2).view) = world.view.number := by
  unfold Driver.publishSequence EventView.number
  have active : world.view.active = world.driver.eventTimingActive := rfl
  have valid : world.view.sequenceValid = world.driver.activeEventSequenceValid := rfl
  rw [active, valid]
  split
  · rfl
  · dsimp only
    split <;> rfl

theorem publishResult_view {result : RawResult}
    (unnumbered : result.sequenceNumber = 0) :
    (publishResult result world).view = world.view.handTof := by
  have number := @publishSequence_view κ world
  have pushed := @pushResult_view κ (world.set world.driver.publishSequence.2)
    { result with sequenceNumber := world.driver.publishSequence.1 }
  unfold publishResult recordSequence EventView.handTof
  rw [if_pos unnumbered, ← number, ← pushed]
  rfl

theorem publishTemperatureResult_view {result : TemperatureResult}
    (unnumbered : result.sequenceNumber = 0) :
    (publishTemperatureResult result world).view = world.view.handTemperature := by
  have number := @publishSequence_view κ world
  have pushed := @pushTemperatureResult_view κ
    (world.set world.driver.publishSequence.2)
    { result with sequenceNumber := world.driver.publishSequence.1 }
  unfold publishTemperatureResult recordSequence EventView.handTemperature
  rw [if_pos unnumbered, ← number, ← pushed]
  rfl

theorem publishStatusRecords_view (parts status : UInt16) :
    (publishStatusRecords parts status world).view = world.view.handParts parts := by
  have tof : (if parts &&& intTofEvtmg ≠ 0 then
      publishStatusOnly status world.driver.interruptTimestampUs world
      else world).view =
        if parts &&& intTofEvtmg ≠ 0 then world.view.handTof else world.view := by
    split
    · exact publishResult_view rfl
    · rfl
  unfold publishStatusRecords EventView.handParts
  dsimp only
  rw [← tof]
  split
  · exact publishTemperatureResult_view rfl
  · rfl

/-! ## Staging -/

theorem stageRequest_view (frame : List UInt8) :
    (stageRequest frame world).view = world.view.stage := rfl

theorem beginStatusDrain_view (nowUs : UInt64)
    (free : world.driver.spiPending = false) :
    (beginStatusDrain nowUs world).1 = true ∧
      (beginStatusDrain nowUs world).2.view = world.view.openDrain nowUs := by
  have staged : scheduleRegisterRead regIntStatus
      (world.set (world.driver.openDrain nowUs)) =
        (true, stageRequest [regIntStatus, 0, 0]
          (world.set (world.driver.openDrain nowUs))) := by
    unfold scheduleRegisterRead
    exact if_neg (not_or.mpr ⟨by simp [Driver.openDrain, free], by decide⟩)
  unfold beginStatusDrain
  rw [staged]
  exact ⟨rfl, rfl⟩

theorem beginResultRead_view (free : world.driver.spiPending = false) :
    (beginResultRead world).1 = true ∧
      (beginResultRead world).2.view = world.view.readResult := by
  unfold beginResultRead scheduleBlockRead
  rw [if_neg (not_or.mpr ⟨by simp [free], by decide⟩)]
  exact ⟨rfl, rfl⟩

theorem beginTemperatureRead_view (averaged : Bool)
    (free : world.driver.spiPending = false) :
    (beginTemperatureRead averaged world).1 = true ∧
      (beginTemperatureRead averaged world).2.view = world.view.readTemperature := by
  unfold beginTemperatureRead scheduleBlockRead
  rw [if_neg (not_or.mpr ⟨by simp [free], by cases averaged <;> decide⟩)]
  exact ⟨rfl, rfl⟩

theorem orError_view {answer : Bool × World κ} {view : EventView}
    (staged : answer.1 = true ∧ answer.2.view = view) :
    (orError platform answer).view = view := by
  unfold orError
  rw [if_pos staged.1]
  exact staged.2

/-! ## The ends of an event -/

theorem enterEventTimeout_view (status : UInt16) :
    (enterEventTimeout platform status world).view = world.view.timeOut := by
  let reported := publishMissingEventResults status world
  have published : reported.view =
      world.view.handParts (world.view.expected &&& ~~~world.view.seen) :=
    publishStatusRecords_view _ status
  have cancelled := @cancelPendingSpi_view κ platform
    (reported.set { reported.driver with
      timeoutCount := reported.driver.timeoutCount + 1
      errorCount := reported.driver.errorCount + 1
      generation := reported.driver.generation + 1 })
  unfold enterEventTimeout EventView.timeOut
  rw [← published]
  dsimp only
  generalize cancelPendingSpi platform (reported.set _) = withdrawn at cancelled
  change withdrawn.view = reported.view.withdraw at cancelled
  have gaveUp : ((withdrawn.set
      { withdrawn.driver.clearDeadline.clearEventSequence with
        eventTimingActive := withdrawn.driver.clearDeadline.eventTimingActive &&
          withdrawn.driver.clearDeadline.eventContinuous
        state := .timeout }).note .timedOut).view =
      EventView.note { withdrawn.view.clearDeadline.clearSequence with
        active := withdrawn.view.active && withdrawn.view.continuous
        state := .timeout } .timedOut := rfl
  refine gaveUp.trans ?_
  rw [cancelled]
  rfl

theorem closeEvent_view :
    ((world.set world.driver.closeEvent).note
      (.eventComplete world.driver.expectedEventFlags)).view =
        world.view.close := rfl

/-- The end of a drain: another one, or rest. -/
theorem settle_view (ended : World κ) (complete : Bool)
    (free : ended.driver.spiPending = false) :
    (if ended.driver.irqRecheckPending then
      orError platform (beginStatusDrain
        (if ended.driver.pendingIrqTimestampUs ≠ 0 then
          ended.driver.pendingIrqTimestampUs
        else ended.driver.interruptTimestampUs)
        (ended.set { ended.driver with
          irqRecheckPending := false
          pendingIrqTimestampUs := 0 }))
    else
      ended.set { ended.driver with
        deadlineUs :=
          if complete = false ∧ ended.driver.seenEventFlags = 0 then 0
          else ended.driver.deadlineUs
        state := ended.driver.restState }).view =
      if ended.view.recheck then ended.view.drainAgain
      else ended.view.rest complete := by
  by_cases pending : ended.driver.irqRecheckPending = true
  · have recheck : ended.view.recheck = true := pending
    rw [if_pos pending, if_pos recheck]
    exact orError_view (beginStatusDrain_view _ free)
  · have settled : ¬ ended.view.recheck = true := pending
    rw [if_neg pending, if_neg settled]
    rfl

theorem finishEventInterrupt_view (status : UInt16)
    (free : world.driver.spiPending = false) :
    (finishEventInterrupt platform status world).view = world.view.finish status := by
  unfold finishEventInterrupt EventView.finish
  split
  · exact enterEventTimeout_view status
  · have done : world.view.done = world.driver.eventDone := rfl
    dsimp only
    rw [done]
    split
    · exact settle_view ((World.note (world.set world.driver.closeEvent) _).set _) _ free
    · exact settle_view (world.set world.driver.endDrain) _ free

/-! ## Completions -/

theorem completeRequest_free :
    (completeRequest platform world).driver.spiPending = false := by
  rw [completeRequest_driver]
  rfl

theorem statusDone_view (free : world.driver.spiPending = false) :
    (statusDone platform world).view =
      world.view.statusDone (wordAt world.driver.rxBuf 1) := by
  let status := wordAt world.driver.rxBuf 1
  let heard := (world.set { world.driver with latchedStatus := status }).note
    (.statusRead status world.driver.eventTimingActive)
  have view : heard.view = world.view.hear status := rfl
  unfold statusDone EventView.statusDone
  dsimp only
  rw [← view]
  split
  · exact enterError_view
  · split
    · refine enterError_view.trans (congrArg EventView.fail ?_)
      have published := @publishStatusRecords_view κ heard
        heard.driver.expectedEventFlags status
      have lost : ∀ world : World κ,
          (world.set world.driver.loseDevice).view = world.view.lose := fun _ ↦ rfl
      rw [lost, published]
      rfl
    · let seen := heard.set { heard.driver with
        seenEventFlags := heard.driver.seenEventFlags |||
          (status &&& heard.driver.expectedEventFlags) }
      have view : seen.view = heard.view.see status := rfl
      have idle : seen.driver.spiPending = false := free
      rw [← view]
      split
      · exact orError_view (beginResultRead_view idle)
      · split
        · exact orError_view (beginTemperatureRead_view _ idle)
        · exact finishEventInterrupt_view status idle

theorem publishResult_from {framed : World κ} {result : RawResult}
    (view : framed.view = world.view) (unnumbered : result.sequenceNumber = 0)
    (free : world.driver.spiPending = false) :
    (publishResult result framed).view = world.view.handTof ∧
      (publishResult result framed).driver.spiPending = false := by
  have published := @publishResult_view κ framed result unnumbered
  rw [view] at published
  have kept := congrArg EventView.pending published
  rw [EventView.handTof_pending] at kept
  exact ⟨published, kept.trans free⟩

theorem publishTemperatureResult_from {framed : World κ} {result : TemperatureResult}
    (view : framed.view = world.view) (unnumbered : result.sequenceNumber = 0)
    (free : world.driver.spiPending = false) :
    (publishTemperatureResult result framed).view = world.view.handTemperature ∧
      (publishTemperatureResult result framed).driver.spiPending = false := by
  have published := @publishTemperatureResult_view κ framed result unnumbered
  rw [view] at published
  have kept := congrArg EventView.pending published
  rw [EventView.handTemperature_pending] at kept
  exact ⟨published, kept.trans free⟩

theorem resultDone_view (free : world.driver.spiPending = false) :
    (resultDone platform world).view = world.view.resultDone := by
  have continued : ∀ (framed : World κ) (result : RawResult) (averaged : Bool),
      framed.view = world.view → result.sequenceNumber = 0 →
      (if world.driver.latchedStatus &&& temperatureReady ≠ 0 then
        orError platform (beginTemperatureRead averaged (publishResult result framed))
      else finishEventInterrupt platform world.driver.latchedStatus
        (publishResult result framed)).view = world.view.resultDone := by
    intro framed result averaged view unnumbered
    obtain ⟨published, idle⟩ := publishResult_from view unnumbered free
    unfold EventView.resultDone
    dsimp only
    rw [← published]
    have latched : world.view.latched = world.driver.latchedStatus := rfl
    rw [latched]
    split
    · exact orError_view (beginTemperatureRead_view averaged idle)
    · exact finishEventInterrupt_view _ idle
  exact continued (world.set _) (decodeTofBank ..) _ rfl rfl

theorem temperatureDone_view (free : world.driver.spiPending = false) :
    (temperatureDone platform world).view = world.view.temperatureDone := by
  have finished : ∀ (framed : World κ) (result : TemperatureResult),
      framed.view = world.view → result.sequenceNumber = 0 →
      (finishEventInterrupt platform world.driver.latchedStatus
        (publishTemperatureResult result framed)).view =
          world.view.temperatureDone := by
    intro framed result view unnumbered
    obtain ⟨published, idle⟩ := publishTemperatureResult_from view unnumbered free
    rw [finishEventInterrupt_view _ idle, published]
    rfl
  unfold temperatureDone
  dsimp only
  split
  · exact finished (world.set _) (decodeTemperatureFrame ..) rfl rfl
  · exact finished (world.set _) (decodeTemperatureFrame ..) rfl rfl

/-- A completion counts, and its view is that of the pending request's end, or
of a failed transfer. -/
theorem onSpiDone_view (token : UInt32) (transferOk : Bool) :
    (onSpiDone platform token transferOk world).view = world.view ∨
      world.view.pending = true ∧
        ((onSpiDone platform token transferOk world).view =
            world.view.complete.fail ∨
          ∃ status, (onSpiDone platform token transferOk world).view =
            world.view.spiDone status) := by
  unfold onSpiDone
  split
  · exact .inl rfl
  · next current =>
      have pending : world.driver.spiPending = true := by
        simpa using (not_or.mp current).1
      refine .inr ⟨pending, ?_⟩
      have completed := @completeRequest_view κ platform world
      have free := @completeRequest_free κ platform world
      have state : (completeRequest platform world).driver.state =
          world.driver.state := congrArg EventView.state completed
      dsimp only
      split
      · left
        rw [enterError_view, ← completed]
        split <;> rfl
      · right
        refine ⟨wordAt (completeRequest platform world).driver.rxBuf 1, ?_⟩
        unfold EventView.spiDone
        have same : world.view.state = world.driver.state := rfl
        rw [state, ← completed, same]
        cases world.driver.state with
        | drainStatus => exact statusDone_view free
        | readResult => exact resultDone_view free
        | readTempResult => exact temperatureDone_view free
        | _ => exact enterError_view

/-! ## Calls -/

theorem onInt_view (nowUs : UInt64) :
    (onInt platform nowUs world).view = world.view.onInt nowUs := by
  unfold onInt EventView.onInt
  dsimp only
  have ready : world.view.ready = world.driver.deviceReady := rfl
  have active : world.view.active = world.driver.eventTimingActive := rfl
  have state : world.view.state = world.driver.state := rfl
  have pending : world.view.pending = world.driver.spiPending := rfl
  rw [ready, active, state, pending]
  split
  · rfl
  · split
    · split
      · next busy =>
          rw [if_pos (show world.view.draining = true ∨ _ from busy)]
          rfl
      · next other =>
          rw [if_neg (show ¬ (world.view.draining = true ∨ _) from other)]
          rfl
    · next waiting =>
        have free : world.driver.spiPending = false := by
          simpa using (not_or.mp waiting).2
        exact orError_view (beginStatusDrain_view _ free)

theorem timedTof_view (status : UInt16) (timestampUs : UInt64) :
    let reported := publishStatusOnly status timestampUs world
    (reported.set { reported.driver with
      seenEventFlags := reported.driver.seenEventFlags ||| intTofEvtmg }).view =
        { world.view.handTof with seen := world.view.seen ||| intTofEvtmg } := by
  intro reported
  have published : reported.view = world.view.handTof := publishResult_view rfl
  rw [← EventView.handTof_seen, ← published]
  rfl

theorem timedTemperature_view (status : UInt16) (timestampUs : UInt64) :
    let reported := publishTemperatureStatusOnly status timestampUs world
    (reported.set { reported.driver with
      seenEventFlags := reported.driver.seenEventFlags ||| intTempEvtmg }).view =
        { world.view.handTemperature with
          seen := world.view.seen ||| intTempEvtmg } := by
  intro reported
  have published : reported.view = world.view.handTemperature :=
    publishTemperatureResult_view rfl
  rw [← EventView.handTemperature_seen, ← published]
  rfl

theorem onTimeout_view : (onTimeout platform world).view = world.view.onTimeout := by
  unfold onTimeout EventView.onTimeout
  dsimp only
  have state : world.view.state = world.driver.state := rfl
  rw [state]
  cases world.driver.state with
  | readResult =>
      refine (enterEventTimeout_view _).trans (congrArg EventView.timeOut ?_)
      exact timedTof_view _ _
  | readTempResult =>
      refine (enterEventTimeout_view _).trans (congrArg EventView.timeOut ?_)
      exact timedTemperature_view _ _
  | drainStatus => exact enterEventTimeout_view _
  | eventRunning => exact enterEventTimeout_view _
  | _ => rfl

theorem cancel_view : (cancel platform world).view = world.view.cancel := by
  unfold cancel EventView.cancel
  have state : world.view.state = world.driver.state := rfl
  rw [state]
  split
  · rfl
  · have cleared := @clearOperation_view κ platform (world.set { world.driver with
      generation := world.driver.generation + 1 })
    change _ = world.view.clear at cleared
    dsimp only
    rw [← cleared]
    rfl

/-- Event timing starts from rest, or the driver stays as it is or fails. -/
theorem startEventTiming_view :
    ((startEventTiming platform world).1 ≠ .ok ∧
      ((startEventTiming platform world).2.view = world.view ∨
        (startEventTiming platform world).2.view = world.view.fail)) ∨
    (world.driver.available = true ∧ world.driver.deviceReady = true ∧
      (startEventTiming platform world).2.view =
        world.view.start world.driver.modeEventFlags) := by
  unfold startEventTiming
  split
  · exact .inl ⟨nofun, .inl rfl⟩
  · next profile _ =>
      split_ifs with unready taken _ _
      · exact .inl ⟨nofun, .inl rfl⟩
      · exact .inl ⟨nofun, .inl rfl⟩
      · exact .inl ⟨nofun, .inl rfl⟩
      · exact .inl ⟨nofun, .inl rfl⟩
      · have commanded := @spiXfer_view κ platform world none [profile.eventModeCmd]
        have calm := spiXfer_driver platform world none [profile.eventModeCmd]
        change (spiCommand platform profile.eventModeCmd world).2.view = _ at commanded
        change Calm _ (spiCommand platform profile.eventModeCmd world).2.driver at calm
        generalize spiCommand platform profile.eventModeCmd world = answer
          at commanded calm
        obtain ⟨sent, next⟩ := answer
        dsimp only at commanded calm ⊢
        split
        · left
          rw [enterError_view, commanded]
          exact ⟨nofun, .inr rfl⟩
        · right
          have flags : (clearOperation platform next).driver.modeEventFlags =
              world.driver.modeEventFlags := by
            obtain ⟨failures, same⟩ := calm
            obtain ⟨cancels, errors, cleared⟩ := @clearOperation_driver κ platform next
            rw [cleared, same]
            rfl
          have cleared := @clearOperation_view κ platform next
          rw [commanded] at cleared
          refine ⟨by simpa using taken, by simpa using unready, ?_⟩
          rw [← flags]
          unfold EventView.start
          rw [← cleared]
          rfl

/-! ## Transfers -/

theorem busAcquire_view : (busAcquire platform world).2.view = world.view := by
  by_cases acquired : (busAcquire platform world).1 = .ok
  · obtain ⟨-, driver⟩ := busAcquire_ok acquired
    unfold World.view
    rw [driver, busAcquire_ok_trace acquired, lockEvents_significant]
    rfl
  · exact calm_view (busAcquire_refused acquired)
      (congrArg _ (busAcquire_refused_trace acquired))

theorem disownTransfer_view : (disownTransfer platform world).view = world.view := by
  have traced : (disownTransfer platform world).trace =
      (if world.driver.spiBusLocked then platform.unlockEvents else []) ++
        world.trace := busRelease_trace
  unfold World.view
  rw [disownTransfer_driver, traced, unlockEvents_significant]
  rfl

/-- What is promised of the calls that carry an event: the times of edges, and
where a timeout comes. -/
structure Promise where
  edge : UInt64 → Prop
  timeout : EventView → Prop

def Promise.none : Promise := { edge := fun _ ↦ True, timeout := fun _ ↦ True }

variable {promise : Promise}

/-- The steps of an event, some of which a call makes. -/
inductive EventStep (promise : Promise) (view : EventView) : EventView → Prop
  | edge (nowUs : UInt64) (promised : promise.edge nowUs) :
      EventStep promise view (view.onInt nowUs)
  | failed (pending : view.pending = true) :
      EventStep promise view view.complete.fail
  | done (pending : view.pending = true) (status : UInt16) :
      EventStep promise view (view.spiDone status)
  | refused : EventStep promise view view.fail
  | timeout (promised : promise.timeout view) :
      EventStep promise view view.onTimeout

abbrev EventSteps (promise : Promise) : EventView → EventView → Prop :=
  Relation.ReflTransGen (EventStep promise)

theorem EventStep.log {view next : EventView} (stepped : EventStep promise view next) :
    view.log <:+ next.log := by
  cases stepped with
  | edge nowUs => exact view.log_onInt nowUs
  | failed => exact List.suffix_cons _ _
  | done _ status => exact (List.suffix_cons _ _).trans (view.log_spiDone status)
  | refused => exact List.suffix_rfl
  | timeout => exact view.log_onTimeout

theorem EventSteps.log {view next : EventView} (steps : EventSteps promise view next) :
    view.log <:+ next.log := by
  induction steps with
  | refl => exact List.suffix_rfl
  | tail _ stepped ih => exact ih.trans stepped.log

theorem onSpiDone_steps (token : UInt32) (transferOk : Bool) :
    EventSteps promise world.view (onSpiDone platform token transferOk world).view := by
  rcases @onSpiDone_view κ platform world token transferOk with
    same | ⟨pending, failed | ⟨status, done⟩⟩
  · rw [same]
  · rw [failed]
    exact .single (.failed pending)
  · rw [done]
    exact .single (.done pending status)

theorem takeCompletions_steps (completions : List Completion) :
    EventSteps promise world.view
      (completions.foldl (takeCompletion platform) world).view := by
  induction completions generalizing world with
  | nil => exact .refl
  | cons completion completions ih =>
      refine .trans ?_ ih
      exact @onSpiDone_steps κ platform (receive completion.rx world) promise
        completion.token completion.transferOk

theorem launch_view (hooks : AsyncHooks κ) :
    (launch hooks world).2.view = world.view := rfl

theorem startPendingSpiAsync_steps :
    EventSteps promise world.view (startPendingSpiAsync platform world).2.view := by
  unfold startPendingSpiAsync
  split_ifs
  · exact .refl
  · exact .refl
  · split
    · exact .refl
    · next hooks _ =>
        have acquired := @busAcquire_view κ platform world
        generalize busAcquire platform world = locked at acquired
        obtain ⟨lockStatus, held⟩ := locked
        dsimp only at acquired ⊢
        have launched := @launch_view κ held hooks
        have completed : EventSteps promise world.view
            ((launch hooks held).1.completions.foldl (takeCompletion platform)
              (launch hooks held).2).view := by
          rw [← acquired, ← launched]
          exact takeCompletions_steps _
        split_ifs
        · rw [acquired]
        · exact completed
        · rw [disownTransfer_view]
          exact completed
        · change EventSteps promise _ (disownTransfer platform _).view
          rw [disownTransfer_view]
          exact completed

theorem executeSpi_steps :
    EventSteps promise world.view (executeSpi platform world).2.view := by
  unfold executeSpi
  split
  · exact .refl
  · have transferred := @spiXfer_view κ platform world (some world.driver.spiToken)
      world.driver.pendingFrame
    dsimp only
    generalize spiXfer platform _ _ world = sent at transferred
    obtain ⟨answer, next⟩ := sent
    dsimp only at transferred ⊢
    rw [← transferred]
    split
    · exact .refl
    · exact @onSpiDone_steps κ platform (receive _ next) promise _ _

theorem onTimeout_steps (promised : promise.timeout world.view) :
    EventSteps promise world.view (onTimeout platform world).view := by
  rw [onTimeout_view]
  exact .single (.timeout promised)

theorem process_steps (nowUs : UInt64)
    (promised : world.driver.deadlinePassed nowUs = true →
      promise.timeout world.view) :
    EventSteps promise world.view (process platform nowUs world).2.view := by
  unfold process
  split_ifs with passed
  · exact onTimeout_steps (promised passed)
  · exact .refl
  · have started := @startPendingSpiAsync_steps κ platform world promise
    generalize startPendingSpiAsync platform world = answer at started
    obtain ⟨status, next⟩ := answer
    dsimp only at started ⊢
    split
    · rw [enterError_view]
      exact started.tail .refused
    · exact started
  · exact executeSpi_steps
  · exact .refl
  · exact .refl
  · exact .refl

/-! ## Halts -/

theorem Waited.view (waited : Waited platform world next) :
    next.view = world.view := by
  induction waited with
  | refl => rfl
  | tick _ ih => exact ih
  | read _ ih => exact (spiXfer_view _ _).trans ih
  | wait _ _ ih => exact ih

/-- Where a halt leaves the driver at rest, failed or out of time. -/
def EventView.halted (view : EventView) : Prop :=
  view.state = .idle ∨ view.state = .error ∨ view.state = .timeout

/-- A halt records nothing of an event. -/
theorem halt_view {fuel : ℕ} {answer : Max35103Status × World κ}
    (returned : halt platform fuel world = some answer) :
    answer.2.view = world.view ∨
      answer.2.view.halted ∧ answer.2.view.log = world.view.log := by
  unfold halt at returned
  split at returned
  · obtain rfl := Option.some.inj returned
    exact .inl rfl
  · split at returned
    · obtain rfl := Option.some.inj returned
      refine .inr ⟨?_, rfl⟩
      by_cases error : world.driver.state = .error
      · right; left
        simp [World.view, Driver.clearEventFlags, error]
      · left
        simp [World.view, Driver.clearEventFlags, error]
    · right
      let cancelled := cancelPendingSpi platform (world.set { world.driver with
        generation := world.driver.generation + 1 })
      let halting := cancelled.set { cancelled.driver with
        deadlineUs := 0
        state := .halting }
      have begun : halting.view.log = world.view.log := by
        have withdrawn : cancelled.view = world.view.withdraw := cancelPendingSpi_view
        change cancelled.view.log = world.view.log
        rw [withdrawn]
        rfl
      have commanded := @spiXfer_view κ platform halting none [cmdHalt]
      dsimp only at returned
      change (spiCommand platform cmdHalt halting).2.view = _ at commanded
      generalize spiCommand platform cmdHalt halting = sending at returned commanded
      obtain ⟨sent, next⟩ := sending
      dsimp only at returned commanded
      have log := (congrArg EventView.log commanded).trans begun
      split at returned
      · obtain rfl := Option.some.inj returned
        rw [enterError_view]
        exact ⟨.inr (.inl rfl), log⟩
      · obtain ⟨waiting, waited, ended⟩ := pollStatus_cases returned
        have log := (congrArg EventView.log waited.view).trans log
        rcases ended with rfl | rfl | ⟨status, judged⟩
        · exact ⟨.inr (.inr rfl), log⟩
        · rw [enterError_view]
          exact ⟨.inr (.inl rfl), log⟩
        · unfold haltVerdict at judged
          split_ifs at judged
          · obtain rfl := Option.some.inj judged
            rw [clearOperation_view]
            exact ⟨.inl rfl, log⟩
          · obtain rfl := Option.some.inj judged
            rw [enterError_view]
            exact ⟨.inr (.inl rfl), log⟩

/-! ## Runs -/

/-- The calls that take an event from its edge to its end. -/
def Op.carriesEvent : Op → Bool
  | .onInt _ | .startPendingSpiAsync | .onSpiDone .. | .executeSpi | .process _
  | .onTimeout | .receive _ => true
  | _ => false

/-- The calls of event timing. -/
def Op.concernsEvents : Op → Bool
  | .startEventTiming | .cancel | .halt _ => true
  | op => op.carriesEvent

theorem Op.concernsEvents_cases {op : Op} (concerns : op.concernsEvents = true) :
    op = .startEventTiming ∨ op = .cancel ∨ (∃ fuel, op = .halt fuel) ∨
      op.carriesEvent = true := by
  unfold Op.concernsEvents at concerns
  split at concerns
  · exact .inl rfl
  · exact .inr (.inl rfl)
  · next fuel => exact .inr (.inr (.inl ⟨fuel, rfl⟩))
  · exact .inr (.inr (.inr concerns))

/-- Calls in a row, each allowed where it is made. -/
inductive Calls (platform : Platform κ) (allowed : World κ → Op → Prop)
    (start : World κ) : World κ → Prop
  | refl : Calls platform allowed start start
  | tail {world next : World κ} (op : Op) (calls : Calls platform allowed start world)
      (allows : allowed world op) (stepped : step platform world op = some next) :
      Calls platform allowed start next

theorem Calls.append {allowed : World κ → Op → Prop} {start middle last : World κ}
    (earlier : Calls platform allowed start middle)
    (later : Calls platform allowed middle last) :
    Calls platform allowed start last := by
  induction later with
  | refl => exact earlier
  | tail op _ allows stepped ih => exact .tail op ih allows stepped

theorem Calls.mono {allowed looser : World κ → Op → Prop} {start last : World κ}
    (calls : Calls platform allowed start last)
    (implies : ∀ world op, allowed world op → looser world op) :
    Calls platform looser start last := by
  induction calls with
  | refl => exact .refl
  | tail op _ allows stepped ih => exact .tail op ih (implies _ op allows) stepped

/-- A scenario whose calls are all of a kind. -/
theorem Calls.of_runOps {kind : Op → Bool} {world last : World κ} {ops : List Op}
    (kinds : ops.all kind = true) (ran : runOps platform world ops = some last) :
    Calls platform (fun _ op ↦ kind op = true) world last := by
  induction ops generalizing world with
  | nil =>
      obtain rfl := Option.some.inj ran
      exact .refl
  | cons op rest ih =>
      obtain ⟨next, stepped, ran⟩ := Option.bind_eq_some_iff.mp ran
      obtain ⟨first, kinds⟩ := Bool.and_eq_true_iff.mp kinds
      exact Calls.append (.tail op .refl first stepped) (ih kinds ran)

/-- A call keeps a promise. -/
def Op.Keeps (promise : Promise) (world : World κ) : Op → Prop
  | .onInt nowUs => promise.edge nowUs
  | .onTimeout => promise.timeout world.view
  | .process nowUs =>
      world.driver.deadlinePassed nowUs = true → promise.timeout world.view
  | _ => True

theorem Op.keeps_none (op : Op) (world : World κ) : op.Keeps .none world := by
  cases op <;> first | trivial | exact fun _ ↦ trivial

/-- A call that carries an event makes steps of it. -/
theorem step_steps {op : Op} (carries : op.carriesEvent = true)
    (keeps : op.Keeps promise world) (stepped : step platform world op = some next) :
    EventSteps promise world.view next.view := by
  cases op with
  | onInt nowUs =>
      obtain rfl := Option.some.inj stepped
      rw [onInt_view]
      exact .single (.edge nowUs keeps)
  | startPendingSpiAsync =>
      obtain rfl := Option.some.inj stepped
      exact startPendingSpiAsync_steps
  | onSpiDone token transferOk =>
      obtain rfl := Option.some.inj stepped
      exact onSpiDone_steps token transferOk
  | executeSpi =>
      obtain rfl := Option.some.inj stepped
      exact executeSpi_steps
  | process nowUs =>
      obtain rfl := Option.some.inj stepped
      exact process_steps nowUs keeps
  | onTimeout =>
      obtain rfl := Option.some.inj stepped
      exact onTimeout_steps keeps
  | receive rx =>
      obtain rfl := Option.some.inj stepped
      exact .refl
  | _ => cases carries

end Swfpm.Max35103
