import Swfpm.Max35103.Ownership

/-!
# The event machine without its frames

What takes an event from its edge to its results: the state, the flags and the
numbers of an event, whether a request is pending, and what the trace says of
them.  Each function of the deferred half of the driver acts on this view, and
the bus, the buffers and the queues do not.
-/

namespace Swfpm.Max35103

/-- The events that are about an event of the device. -/
def Event.significant : Event → Bool
  | .drain _ | .completed _ | .statusRead .. | .tofHanded _ | .temperatureHanded _
  | .started _ | .eventComplete _ | .timedOut | .cancelled => true
  | _ => false

structure EventView where
  state : DriverState
  ready : Bool
  active : Bool
  continuous : Bool
  pending : Bool
  token : UInt32
  nextToken : UInt32
  expected : UInt16
  seen : UInt16
  latched : UInt16
  recheck : Bool
  resultTimeout : UInt32
  deadlineUs : UInt64
  interruptUs : UInt64
  pendingIrqUs : UInt64
  sequence : UInt32
  sequenceValid : Bool
  nextSequence : UInt32
  log : List Event

variable {κ : Type*}

def World.view (world : World κ) : EventView :=
  let driver := world.driver
  { state := driver.state
    ready := driver.deviceReady
    active := driver.eventTimingActive
    continuous := driver.eventContinuous
    pending := driver.spiPending
    token := driver.spiToken
    nextToken := driver.nextToken
    expected := driver.expectedEventFlags
    seen := driver.seenEventFlags
    latched := driver.latchedStatus
    recheck := driver.irqRecheckPending
    resultTimeout := driver.resultTimeout
    deadlineUs := driver.deadlineUs
    interruptUs := driver.interruptTimestampUs
    pendingIrqUs := driver.pendingIrqTimestampUs
    sequence := driver.activeEventSequenceNumber
    sequenceValid := driver.activeEventSequenceValid
    nextSequence := driver.nextSequence
    log := world.trace.filter Event.significant }

namespace EventView

variable (view : EventView)

def note (event : Event) : EventView := { view with log := event :: view.log }

/-- No request is pending. -/
def withdraw : EventView := { view with pending := false, token := 0 }

/-- The number after one that was taken. -/
def after (number : UInt32) : UInt32 := if number + 1 = 0 then 1 else number + 1

/-- The request of a read, under the next token. -/
def stage : EventView :=
  { view with
    pending := true
    token := view.nextToken
    nextToken := after view.nextToken }

/-! ## Records -/

def allocate : UInt32 × EventView :=
  (view.nextSequence, { view with nextSequence := after view.nextSequence })

/-- The number of a record, the same for all of an active event. -/
def number : UInt32 × EventView :=
  if view.active = false then view.allocate
  else if view.sequenceValid then (view.sequence, view)
  else
    (view.nextSequence,
      { view with
        nextSequence := after view.nextSequence
        sequence := view.nextSequence
        sequenceValid := true })

def handTof : EventView := view.number.2.note (.tofHanded view.number.1)

def handTemperature : EventView :=
  view.number.2.note (.temperatureHanded view.number.1)

theorem number_eq : ∃ nextSequence sequence sequenceValid,
    view.number.2 = { view with nextSequence, sequence, sequenceValid } := by
  unfold number allocate
  split
  · exact ⟨_, _, _, rfl⟩
  · split <;> exact ⟨_, _, _, rfl⟩

theorem handTof_eq : ∃ nextSequence sequence sequenceValid,
    view.handTof = { view with
      nextSequence, sequence, sequenceValid
      log := .tofHanded view.number.1 :: view.log } := by
  obtain ⟨nextSequence, sequence, sequenceValid, number⟩ := view.number_eq
  refine ⟨nextSequence, sequence, sequenceValid, ?_⟩
  unfold handTof
  rw [number]
  rfl

theorem handTemperature_eq : ∃ nextSequence sequence sequenceValid,
    view.handTemperature = { view with
      nextSequence, sequence, sequenceValid
      log := .temperatureHanded view.number.1 :: view.log } := by
  obtain ⟨nextSequence, sequence, sequenceValid, number⟩ := view.number_eq
  refine ⟨nextSequence, sequence, sequenceValid, ?_⟩
  unfold handTemperature
  rw [number]
  rfl

@[simp] theorem handTof_pending : view.handTof.pending = view.pending := by
  obtain ⟨_, _, _, handed⟩ := view.handTof_eq
  rw [handed]

@[simp] theorem handTemperature_pending :
    view.handTemperature.pending = view.pending := by
  obtain ⟨_, _, _, handed⟩ := view.handTemperature_eq
  rw [handed]

@[simp] theorem handTof_seen : view.handTof.seen = view.seen := by
  obtain ⟨_, _, _, handed⟩ := view.handTof_eq
  rw [handed]

@[simp] theorem handTemperature_seen : view.handTemperature.seen = view.seen := by
  obtain ⟨_, _, _, handed⟩ := view.handTemperature_eq
  rw [handed]

/-- A record for each part that a mask asks for. -/
def handParts (parts : UInt16) : EventView :=
  let view := if parts &&& intTofEvtmg ≠ 0 then view.handTof else view
  if parts &&& intTempEvtmg ≠ 0 then view.handTemperature else view

/-! ## The ends of an event -/

def clearDeadline : EventView :=
  { view with deadlineUs := 0, recheck := false, pendingIrqUs := 0 }

def clearSequence : EventView := { view with sequence := 0, sequenceValid := false }

def fail : EventView :=
  { view.withdraw.clearDeadline.clearSequence with state := .error }

/-- The device no longer holds what the host believes. -/
def lose : EventView :=
  { view with
    ready := false, active := false, continuous := false
    resultTimeout := resultTimeoutMsDefault }

/-- The event is given up. -/
def giveUp : EventView :=
  ({ view.withdraw.clearDeadline.clearSequence with
    active := view.active && view.continuous
    state := .timeout }).note .timedOut

def timeOut : EventView :=
  (view.handParts (view.expected &&& ~~~view.seen)).giveUp

def done : Bool :=
  view.expected ≠ 0 && view.seen &&& view.expected = view.expected

/-- The event is complete. -/
def close : EventView :=
  ({ view.clearSequence with
    active := view.active && view.continuous
    seen := 0
    deadlineUs := 0 }).note (.eventComplete view.expected)

/-! ## Drains -/

def openDrain (nowUs : UInt64) : EventView :=
  let view :=
    { view with
      state := .drainStatus
      interruptUs := nowUs
      deadlineUs :=
        if view.deadlineUs = 0 then nowUs + view.resultTimeout.toUInt64 * 1000
        else view.deadlineUs
      latched := 0 }
  view.stage.note (.drain view.nextToken)

/-- Another drain for an edge that came in the meantime. -/
def drainAgain : EventView :=
  openDrain { view with recheck := false, pendingIrqUs := 0 }
    (if view.pendingIrqUs ≠ 0 then view.pendingIrqUs else view.interruptUs)

def restState : DriverState := if view.active then .eventRunning else .idle

/-- Back to waiting, without a deadline where nothing has been seen. -/
def rest (complete : Bool) : EventView :=
  { view with
    deadlineUs :=
      if complete = false ∧ view.seen = 0 then 0 else view.deadlineUs
    state := view.restState }

def finish (status : UInt16) : EventView :=
  if status &&& intTimeout ≠ 0 then view.timeOut
  else
    let next := if view.done then view.close else view
    if next.recheck then next.drainAgain else next.rest view.done

def readResult : EventView := stage { view with state := .readResult }

def readTemperature : EventView := stage { view with state := .readTempResult }

/-! ## Completions -/

def complete : EventView := view.withdraw.note (.completed view.token)

/-- A status word was read. -/
def hear (status : UInt16) : EventView :=
  ({ view with latched := status }).note (.statusRead status view.active)

def see (status : UInt16) : EventView :=
  { view with seen := view.seen ||| (status &&& view.expected) }

def statusDone (status : UInt16) : EventView :=
  let heard := view.hear status
  if status = 0xFFFF then heard.lose.fail
  else if status &&& intPor ≠ 0 then (heard.handParts heard.expected).lose.fail
  else
    let view := heard.see status
    if status &&& tofReady ≠ 0 then view.readResult
    else if status &&& temperatureReady ≠ 0 then view.readTemperature
    else view.finish status

def resultDone : EventView :=
  let next := view.handTof
  if view.latched &&& temperatureReady ≠ 0 then next.readTemperature
  else next.finish view.latched

def temperatureDone : EventView := view.handTemperature.finish view.latched

/-- A completed transfer, with the status word where one was read. -/
def spiDone (status : UInt16) : EventView :=
  let next := view.complete
  match view.state with
  | .drainStatus => next.statusDone status
  | .readResult => next.resultDone
  | .readTempResult => next.temperatureDone
  | _ => next.fail

/-! ## Calls -/

def draining : Bool :=
  view.state = .drainStatus || view.state = .readResult ||
    view.state = .readTempResult

def onInt (nowUs : UInt64) : EventView :=
  if view.ready = false ∨ view.active = false then view
  else if view.state ≠ .eventRunning ∨ view.pending = true then
    if view.draining = true ∨ view.pending = true then
      { view with recheck := true, pendingIrqUs := nowUs }
    else view
  else view.openDrain nowUs

def onTimeout : EventView :=
  match view.state with
  | .readResult => EventView.timeOut { view.handTof with
      seen := view.seen ||| intTofEvtmg }
  | .readTempResult => EventView.timeOut { view.handTemperature with
      seen := view.seen ||| intTempEvtmg }
  | .drainStatus => view.timeOut
  | .eventRunning => view.timeOut
  | _ => view

def deadlinePassed (nowUs : UInt64) : Bool :=
  (view.draining || (view.state = .eventRunning && view.seen ≠ 0)) &&
    view.deadlineUs ≠ 0 && nowUs ≥ view.deadlineUs

/-- The fields that every operation starts with. -/
def clear : EventView :=
  { view.withdraw.clearDeadline.clearSequence with latched := 0, interruptUs := 0 }

def cancel : EventView :=
  if view.state = .uninit then view
  else
    let view := view.clear
    ({ view with state := view.restState }).note .cancelled

def start (expected : UInt16) : EventView :=
  ({ view.clear with
    active := true
    expected
    seen := 0
    recheck := false
    pendingIrqUs := 0
    state := .eventRunning }).note (.started expected)

/-! ## The log grows -/

theorem log_handTof : view.log <:+ view.handTof.log := by
  obtain ⟨_, _, _, handed⟩ := view.handTof_eq
  rw [handed]
  exact List.suffix_cons _ _

theorem log_handTemperature : view.log <:+ view.handTemperature.log := by
  obtain ⟨_, _, _, handed⟩ := view.handTemperature_eq
  rw [handed]
  exact List.suffix_cons _ _

theorem log_handParts (parts : UInt16) : view.log <:+ (view.handParts parts).log := by
  unfold handParts
  dsimp only
  split_ifs
  · exact view.log_handTof.trans view.handTof.log_handTemperature
  · exact view.log_handTemperature
  · exact view.log_handTof
  · exact List.suffix_rfl

theorem log_timeOut : view.log <:+ view.timeOut.log :=
  (view.log_handParts _).trans (List.suffix_cons _ _)

theorem log_finish (status : UInt16) : view.log <:+ (view.finish status).log := by
  have settled : ∀ (next : EventView) (complete : Bool),
      next.log <:+ (if next.recheck then next.drainAgain else next.rest complete).log := by
    intro next complete
    split
    · exact List.suffix_cons _ _
    · exact List.suffix_rfl
  unfold finish
  split
  · exact view.log_timeOut
  · split
    · exact (List.suffix_cons _ _).trans (settled view.close view.done)
    · exact settled view view.done

theorem log_statusDone (status : UInt16) :
    .statusRead status view.active :: view.log <:+ (view.statusDone status).log := by
  unfold statusDone
  dsimp only
  split_ifs
  · exact List.suffix_rfl
  · exact (view.hear status).log_handParts _
  · exact List.suffix_rfl
  · exact List.suffix_rfl
  · exact ((view.hear status).see status).log_finish status

theorem log_resultDone : view.log <:+ view.resultDone.log := by
  unfold resultDone
  dsimp only
  split
  · exact view.log_handTof
  · exact view.log_handTof.trans (view.handTof.log_finish _)

theorem log_temperatureDone : view.log <:+ view.temperatureDone.log :=
  view.log_handTemperature.trans (view.handTemperature.log_finish _)

theorem log_spiDone (status : UInt16) :
    .completed view.token :: view.log <:+ (view.spiDone status).log := by
  unfold spiDone
  dsimp only
  split
  · exact (List.suffix_cons _ _).trans (view.complete.log_statusDone status)
  · exact view.complete.log_resultDone
  · exact view.complete.log_temperatureDone
  · exact List.suffix_rfl

theorem log_onInt (nowUs : UInt64) : view.log <:+ (view.onInt nowUs).log := by
  unfold onInt
  split_ifs
  · exact List.suffix_rfl
  · exact List.suffix_rfl
  · exact List.suffix_rfl
  · exact List.suffix_cons _ _

theorem log_onTimeout : view.log <:+ view.onTimeout.log := by
  unfold onTimeout
  split
  · have timed := log_timeOut
      { view.handTof with seen := view.seen ||| intTofEvtmg }
    exact view.log_handTof.trans timed
  · have timed := log_timeOut
      { view.handTemperature with seen := view.seen ||| intTempEvtmg }
    exact view.log_handTemperature.trans timed
  · exact view.log_timeOut
  · exact view.log_timeOut
  · exact List.suffix_rfl

end EventView

end Swfpm.Max35103
