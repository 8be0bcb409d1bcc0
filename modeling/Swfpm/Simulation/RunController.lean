import Swfpm.Simulation.ActionQueue

/-!
# The run controller of the simulation

Embedding of `platform/linux/linux_run_controller.c` and of the deterministic
mode of `virtual_clock.c`.  `Firmware` is what a turn calls of the firmware: its
event queue, its scheduler, its event loop and its state machine.  None of these
reaches the queue of scheduled actions, and the statements hold of every
firmware.  `dispatched` is a record for the statements about runs.
-/

namespace Swfpm

open BinaryHeap LinuxScheduledActionQueue

inductive RunStatus where
  | progress
  | idle
  | stepLimit
  | livelock
  | error
  deriving DecidableEq, Repr

structure RunControllerLimits where
  maxTurns : UInt32
  maxActionsPerTurn : UInt32
  maxSameTimeProgressRepeats : UInt32
  maxVirtualTimeUs : UInt64
  deriving DecidableEq, Repr

/-- The `RUN_CONTROLLER_DEFAULT_*` values. -/
def RunControllerLimits.default : RunControllerLimits :=
  ⟨1000, 16, 5, 100000000⟩

/-- The event of a completed platform action, with the number of its id. -/
structure CompletionEvent where
  id : UInt32
  sourceId : UInt32
  correlationId : UInt32
  sourceGeneration : UInt32
  monotonicTimestampUs : UInt64
  deriving DecidableEq, Repr

def completionEvent (nowUs : UInt64) (action : LinuxScheduledAction) :
    CompletionEvent :=
  { id := 0x0380 + action.actionClass.value.toUInt32
    sourceId := action.resourceId
    correlationId := action.correlationId
    sourceGeneration := action.resourceGeneration
    monotonicTimestampUs := nowUs }

/-- What a turn calls of the firmware. -/
structure Firmware (σ : Type*) where
  /-- `app_event_queue_post`, whose result is not looked at. -/
  post : σ → CompletionEvent → σ
  /-- `scheduler_dispatch_due` and the posts of what is due. -/
  ingestDue : σ → UInt64 → σ
  /-- `app_event_loop_run_once_raw`. -/
  runOnceRaw : σ → σ
  /-- The pending actions of the state machine. -/
  executeActions : σ → σ
  eventCount : σ → UInt64
  transitionSequence : σ → UInt64
  /-- `scheduler_get_next_deadline`. -/
  nextDeadline : σ → Option UInt64

structure RunController (σ : Type*) where
  /-- The virtual clock. -/
  nowUs : UInt64
  actionQueue : LinuxScheduledActionQueue
  firmware : σ
  limits : RunControllerLimits
  progressSignature : UInt64
  sameTimeProgressCount : UInt32
  lastProgressTimeUs : UInt64
  turnCount : UInt32
  /-- The actions handed out, with the time of the clock. -/
  dispatched : List (LinuxScheduledAction × UInt64)

namespace RunController

variable {σ : Type*} (firmware : Firmware σ)

def init (nowUs : UInt64) (actionQueue : LinuxScheduledActionQueue) (state : σ)
    (limits : Option RunControllerLimits) : RunController σ :=
  { nowUs, actionQueue, firmware := state
    limits := limits.getD .default
    progressSignature := 0, sameTimeProgressCount := 0
    lastProgressTimeUs := 0, turnCount := 0, dispatched := [] }

/-- `compute_signature`. -/
def computeSignature (ctrl : RunController σ) : UInt64 :=
  ctrl.nowUs + firmware.eventCount ctrl.firmware +
    ctrl.actionQueue.actions.size.toUInt64 +
    firmware.transitionSequence ctrl.firmware

/-- What the turn writes to `next_deadline_us`, which holds zero before. -/
def turnDeadline (ctrl : RunController σ) : UInt64 :=
  match firmware.nextDeadline ctrl.firmware, ctrl.actionQueue.nextDeadline with
  | some schedDl, some actDl => if schedDl < actDl then schedDl else actDl
  | some schedDl, none => schedDl
  | none, some actDl => actDl
  | none, none => 0

/-- The steps of a turn before its status: the actions handed out, and the
controller after the firmware has run. -/
def work (ctrl : RunController σ) :
    List LinuxScheduledAction × RunController σ :=
  let (actions, actionQueue) :=
    ctrl.actionQueue.dispatchDue ctrl.nowUs ctrl.limits.maxActionsPerTurn.toUInt16
  let posted := (actions.map (completionEvent ctrl.nowUs)).foldl firmware.post
    ctrl.firmware
  let ran := firmware.runOnceRaw (firmware.ingestDue posted ctrl.nowUs)
  (actions, { ctrl with
    actionQueue
    firmware := firmware.executeActions ran
    dispatched := ctrl.dispatched ++
      actions.map fun action => (action, ctrl.nowUs) })

def oneTurn (ctrl : RunController σ) : RunStatus × UInt64 × RunController σ :=
  let (actions, worked) := work firmware ctrl
  let newSig := computeSignature firmware worked
  let madeProgress := newSig ≠ worked.progressSignature
  let after := { worked with
    progressSignature := newSig
    turnCount := worked.turnCount + 1 }
  let hasQueueWork := firmware.eventCount after.firmware > 0
  let nextDl := turnDeadline firmware after
  if madeProgress ∨ hasQueueWork ∨ actions.length > 0 then
    (.progress, nextDl, after)
  else if after.nowUs = after.lastProgressTimeUs then
    let counted := { after with
      sameTimeProgressCount := after.sameTimeProgressCount + 1 }
    if counted.sameTimeProgressCount ≥
        counted.limits.maxSameTimeProgressRepeats then
      (.livelock, nextDl, counted)
    else (.idle, nextDl, counted)
  else
    (.idle, nextDl, { after with
      sameTimeProgressCount := 0
      lastProgressTimeUs := after.nowUs })

/-- `linux_clock_advance_to`; the answer is not looked at. -/
def advanceTo (ctrl : RunController σ) (targetUs : UInt64) : RunController σ :=
  if targetUs < ctrl.nowUs then ctrl else { ctrl with nowUs := targetUs }

/-- The loop over the turns that remain. -/
def turns (startTime : UInt64) :
    ℕ → RunController σ → RunStatus × RunController σ
  | 0, ctrl => (.stepLimit, ctrl)
  | remaining + 1, ctrl =>
      let (status, nextDl, after) := oneTurn firmware ctrl
      match status with
      | .progress => turns startTime remaining after
      | .idle =>
          if nextDl > 0 then
            if nextDl ≤ after.nowUs then turns startTime remaining after
            else if nextDl > startTime + after.limits.maxVirtualTimeUs then
              (.idle, after)
            else turns startTime remaining (after.advanceTo nextDl)
          else (.idle, after)
      | other => (other, after)

def untilIdle (ctrl : RunController σ) : RunStatus × RunController σ :=
  turns firmware ctrl.nowUs ctrl.limits.maxTurns.toNat ctrl

/-! ## One turn -/

variable {firmware} {ctrl : RunController σ}

/-- What the bookkeeping of a turn leaves of what its work made. -/
structure Booked (worked after : RunController σ) : Prop where
  nowUs : after.nowUs = worked.nowUs
  actionQueue : after.actionQueue = worked.actionQueue
  firmware : after.firmware = worked.firmware
  limits : after.limits = worked.limits
  dispatched : after.dispatched = worked.dispatched

theorem oneTurn_cases (firmware : Firmware σ) (ctrl : RunController σ) :
    Booked (work firmware ctrl).2 (oneTurn firmware ctrl).2.2 ∧
      (oneTurn firmware ctrl).2.1 =
        turnDeadline firmware (oneTurn firmware ctrl).2.2 ∧
      ((oneTurn firmware ctrl).1 = .idle → (work firmware ctrl).1 = []) := by
  rw [oneTurn]
  dsimp only
  split_ifs with hwork hsame hlimit
  · exact ⟨⟨rfl, rfl, rfl, rfl, rfl⟩, rfl, fun hidle => absurd hidle (by simp)⟩
  · exact ⟨⟨rfl, rfl, rfl, rfl, rfl⟩, rfl, fun hidle => absurd hidle (by simp)⟩
  · refine ⟨⟨rfl, rfl, rfl, rfl, rfl⟩, rfl, fun _ => ?_⟩
    push Not at hwork
    simpa using hwork.2.2
  · refine ⟨⟨rfl, rfl, rfl, rfl, rfl⟩, rfl, fun _ => ?_⟩
    push Not at hwork
    simpa using hwork.2.2

/-! ## The time of the dispatches -/

/-- The virtual time at which an action is due to be handed out in a run that
starts at `startUs`. -/
def dispatchTime (startUs : UInt64) (action : LinuxScheduledAction) : UInt64 :=
  if action.dueUs ≤ startUs then startUs else action.dueUs

/-- What the turns of a run keep, with the actions queued at its start. -/
structure OnTime (startUs : UInt64) (queued : List LinuxScheduledAction)
    (ctrl : RunController σ) : Prop where
  inOrder : ctrl.actionQueue.InOrder
  started : startUs ≤ ctrl.nowUs
  /-- The clock has passed no queued action. -/
  ahead : ctrl.nowUs = startUs ∨
    ∀ action ∈ ctrl.actionQueue.actions.toList, ctrl.nowUs ≤ action.dueUs
  timed : ∀ record ∈ ctrl.dispatched, record.2 = dispatchTime startUs record.1
  kept : (ctrl.dispatched.map Prod.fst ++
    ctrl.actionQueue.actions.toList).Perm queued
  sorted : (ctrl.dispatched.map Prod.fst).Pairwise fun entry later =>
    actionKey entry ≤ actionKey later
  first : ∀ entry ∈ ctrl.dispatched.map Prod.fst,
    ∀ later ∈ ctrl.actionQueue.actions.toList, actionKey entry ≤ actionKey later

theorem OnTime.of_booked {startUs : UInt64} {queued : List LinuxScheduledAction}
    {worked after : RunController σ} (hworked : OnTime startUs queued worked)
    (hbooked : Booked worked after) : OnTime startUs queued after := by
  obtain ⟨hnow, hqueue, -, -, hdispatched⟩ := hbooked
  obtain ⟨hinOrder, hstarted, hahead, htimed, hkept, hsorted, hfirst⟩ := hworked
  constructor <;> simp only [hnow, hqueue, hdispatched] <;> assumption

theorem work_onTime {startUs : UInt64} {queued : List LinuxScheduledAction}
    (hctrl : OnTime startUs queued ctrl) :
    OnTime startUs queued (work firmware ctrl).2 := by
  have hdrained := dispatchDue_drained hctrl.inOrder ctrl.nowUs
    ctrl.limits.maxActionsPerTurn.toUInt16
  have hmem : ∀ action, action ∈ (work firmware ctrl).1 ++
      (work firmware ctrl).2.actionQueue.actions.toList →
      action ∈ ctrl.actionQueue.actions.toList := by
    intro action haction
    exact hdrained.kept.mem_iff.mp haction
  have hmap : (work firmware ctrl).2.dispatched.map Prod.fst =
      ctrl.dispatched.map Prod.fst ++ (work firmware ctrl).1 := by
    simp [work, Function.comp_def]
  refine ⟨hdrained.isHeap, hctrl.started, ?_, ?_, ?_, ?_, ?_⟩
  · rcases hctrl.ahead with hstart | hahead
    · exact Or.inl hstart
    · refine Or.inr fun action haction => ?_
      exact hahead action (hmem action (List.mem_append_right _ haction))
  · intro record hrecord
    rcases List.mem_append.mp hrecord with hold | hnew
    · exact hctrl.timed record hold
    · obtain ⟨action, haction, rfl⟩ := List.mem_map.mp hnew
      have hdue : action.dueUs ≤ ctrl.nowUs := by
        simpa [isDue] using hdrained.allDue action haction
      rw [dispatchTime]
      rcases hctrl.ahead with hstart | hahead
      · rw [if_pos (hstart ▸ hdue)]
        exact hstart
      · have hle := hahead action
          (hmem action (List.mem_append_left _ haction))
        have hsame : ctrl.nowUs = action.dueUs := UInt64.le_antisymm hle hdue
        split_ifs with hearly
        · exact UInt64.le_antisymm (UInt64.le_trans hle hearly) hctrl.started
        · exact hsame
  · rw [hmap, List.append_assoc]
    exact (hdrained.kept.append_left _).trans hctrl.kept
  · rw [hmap, List.pairwise_append]
    refine ⟨hctrl.sorted, hdrained.sorted, ?_⟩
    intro entry hentry later hlater
    exact hctrl.first entry hentry later
      (hmem later (List.mem_append_left _ hlater))
  · rw [hmap]
    intro entry hentry later hlater
    rcases List.mem_append.mp hentry with hold | hnew
    · exact hctrl.first entry hold later
        (hmem later (List.mem_append_right _ hlater))
    · exact hdrained.first entry hnew later hlater

/-- The deadline that a turn writes is no later than a queued action. -/
theorem turnDeadline_le (hctrl : ctrl.actionQueue.InOrder)
    {action : LinuxScheduledAction}
    (haction : action ∈ ctrl.actionQueue.actions.toList) :
    turnDeadline firmware ctrl ≤ action.dueUs := by
  have hexists : ∃ actDl, ctrl.actionQueue.nextDeadline = some actDl := by
    have hpos : 0 < ctrl.actionQueue.actions.size := by
      rw [← Array.length_toList]
      exact List.length_pos_of_mem haction
    exact ⟨ctrl.actionQueue.actions[0].dueUs, by simp [nextDeadline, hpos]⟩
  obtain ⟨actDl, hactDl⟩ := hexists
  have hle := ActionRun.nextDeadline_eq hctrl hactDl action haction
  rw [turnDeadline, hactDl]
  rcases firmware.nextDeadline ctrl.firmware with _ | schedDl
  · exact hle
  · dsimp only
    split_ifs with hless
    · exact UInt64.le_trans (UInt64.le_of_lt hless) hle
    · exact hle

/-- Moving the clock to the deadline of an idle turn passes no action. -/
theorem advanceTo_onTime {startUs : UInt64}
    {queued : List LinuxScheduledAction} (hctrl : OnTime startUs queued ctrl)
    (hlater : ¬turnDeadline firmware ctrl ≤ ctrl.nowUs) :
    OnTime startUs queued (ctrl.advanceTo (turnDeadline firmware ctrl)) := by
  have hbefore : ctrl.nowUs ≤ turnDeadline firmware ctrl :=
    (UInt64.le_total _ _).resolve_left hlater
  have hmoves : ¬turnDeadline firmware ctrl < ctrl.nowUs :=
    UInt64.not_lt.mpr hbefore
  rw [advanceTo, if_neg hmoves]
  refine ⟨hctrl.inOrder, UInt64.le_trans hctrl.started hbefore, Or.inr ?_,
    hctrl.timed, hctrl.kept, hctrl.sorted, hctrl.first⟩
  intro action haction
  exact turnDeadline_le hctrl.inOrder haction

theorem oneTurn_onTime (firmware : Firmware σ) {startUs : UInt64} {queued : List LinuxScheduledAction}
    (hctrl : OnTime startUs queued ctrl) :
    OnTime startUs queued (oneTurn firmware ctrl).2.2 :=
  (work_onTime hctrl).of_booked (oneTurn_cases firmware ctrl).1

/-- The turn at which a run stops, or the controller it starts from. -/
theorem turns_onTime (firmware : Firmware σ) {startUs : UInt64} (startTime : UInt64)
    {queued : List LinuxScheduledAction} (remaining : ℕ)
    (hctrl : OnTime startUs queued ctrl) :
    OnTime startUs queued (turns firmware startTime remaining ctrl).2 := by
  induction remaining generalizing ctrl with
  | zero => exact hctrl
  | succ remaining ih =>
      have hafter := oneTurn_onTime firmware hctrl
      obtain ⟨-, hdeadline, -⟩ := oneTurn_cases firmware ctrl
      rw [turns]
      rcases hturn : oneTurn firmware ctrl with ⟨status, nextDl, after⟩
      rw [hturn] at hafter hdeadline
      dsimp only at hafter hdeadline ⊢
      cases status with
      | progress => exact ih hafter
      | idle =>
          dsimp only
          split_ifs with hsome hpassed hbeyond
          · exact ih hafter
          · exact hafter
          · rw [hdeadline] at hpassed ⊢
            exact ih (advanceTo_onTime hafter hpassed)
          · exact hafter
      | stepLimit => exact hafter
      | livelock => exact hafter
      | error => exact hafter

/-- An idle turn leaves no action that is due. -/
theorem oneTurn_idle (firmware : Firmware σ) (hctrl : ctrl.actionQueue.InOrder)
    (hroom : ctrl.limits.maxActionsPerTurn.toUInt16 ≠ 0)
    (hidle : (oneTurn firmware ctrl).1 = .idle) :
    ∀ action ∈ (oneTurn firmware ctrl).2.2.actionQueue.actions.toList,
      (oneTurn firmware ctrl).2.2.nowUs < action.dueUs := by
  intro action haction
  obtain ⟨hbooked, -, hnone⟩ := oneTurn_cases firmware ctrl
  rw [hbooked.actionQueue] at haction
  rw [hbooked.nowUs]
  have hdrained := dispatchDue_drained hctrl ctrl.nowUs
    ctrl.limits.maxActionsPerTurn.toUInt16
  have hempty : (ctrl.actionQueue.dispatchDue ctrl.nowUs
      ctrl.limits.maxActionsPerTurn.toUInt16).1 = [] := hnone hidle
  have hpos : 0 < ctrl.limits.maxActionsPerTurn.toUInt16.toNat := by
    rw [Nat.pos_iff_ne_zero]
    intro hzero
    exact hroom (UInt16.toNat_inj.mp hzero)
  have hlate := hdrained.complete (by rw [hempty]; exact hpos) action haction
  simp only [isDue, decide_eq_false_iff_not, UInt64.not_le] at hlate
  exact hlate

/-- A deadline of zero with actions queued that are not due is the
scheduler's. -/
theorem nextDeadline_of_turnDeadline_zero {action : LinuxScheduledAction}
    (haction : action ∈ ctrl.actionQueue.actions.toList)
    (hlate : ∀ action ∈ ctrl.actionQueue.actions.toList,
      ctrl.nowUs < action.dueUs)
    (hzero : turnDeadline firmware ctrl = 0) :
    firmware.nextDeadline ctrl.firmware = some 0 := by
  have hpos : 0 < ctrl.actionQueue.actions.size := by
    rw [← Array.length_toList]
    exact List.length_pos_of_mem haction
  have hroot : ctrl.actionQueue.nextDeadline =
      some ctrl.actionQueue.actions[0].dueUs := by
    simp [nextDeadline, hpos]
  have hrootNe : ctrl.actionQueue.actions[0].dueUs ≠ 0 := by
    intro hdue
    have hless := hlate ctrl.actionQueue.actions[0] (by simp)
    rw [hdue] at hless
    exact UInt64.not_lt_zero hless
  rw [turnDeadline, hroot] at hzero
  rcases hsched : firmware.nextDeadline ctrl.firmware with _ | schedDl
  · rw [hsched] at hzero
    exact absurd hzero hrootNe
  · rw [hsched] at hzero
    dsimp only at hzero
    split_ifs at hzero with hless
    · rw [hzero]
    · exact absurd hzero hrootNe

/-- Where the run of the turns ends idle, no action is due by the clock, and none
by the horizon unless the scheduler holds a deadline of zero. -/
theorem turns_idle {startUs startTime : UInt64}
    {queued : List LinuxScheduledAction} (remaining : ℕ)
    (hctrl : OnTime startUs queued ctrl)
    (hroom : ctrl.limits.maxActionsPerTurn.toUInt16 ≠ 0)
    (hidle : (turns firmware startTime remaining ctrl).1 = .idle) :
    ∀ action ∈ (turns firmware startTime remaining
        ctrl).2.actionQueue.actions.toList,
      (turns firmware startTime remaining ctrl).2.nowUs < action.dueUs ∧
        (startTime + ctrl.limits.maxVirtualTimeUs < action.dueUs ∨
          firmware.nextDeadline
            (turns firmware startTime remaining ctrl).2.firmware = some 0) := by
  induction remaining generalizing ctrl with
  | zero => exact absurd hidle (by simp [turns])
  | succ remaining ih =>
      have hafter := oneTurn_onTime firmware hctrl
      have hlate := oneTurn_idle firmware hctrl.inOrder hroom
      obtain ⟨hbooked, hdeadline, -⟩ := oneTurn_cases firmware ctrl
      have hlimits : (oneTurn firmware ctrl).2.2.limits = ctrl.limits :=
        hbooked.limits
      rw [turns] at hidle ⊢
      rcases hturn : oneTurn firmware ctrl with ⟨status, nextDl, after⟩
      rw [hturn] at hafter hdeadline hlate hlimits hidle
      dsimp only at hafter hdeadline hlate hlimits hidle ⊢
      rw [← hlimits] at hroom ⊢
      cases status with
      | progress => exact ih hafter hroom hidle
      | idle =>
          have hlate := hlate rfl
          dsimp only at hidle ⊢
          split_ifs at hidle ⊢ with hsome hpassed hbeyond
          · exact ih hafter hroom hidle
          · intro action haction
            refine ⟨hlate action haction, Or.inl ?_⟩
            rw [hdeadline] at hbeyond
            exact UInt64.lt_of_lt_of_le hbeyond
              (turnDeadline_le hafter.inOrder haction)
          · rw [hdeadline] at hpassed hidle ⊢
            have hadvanced := advanceTo_onTime hafter hpassed
            have hsameLimits :
                (after.advanceTo (turnDeadline firmware after)).limits =
                  after.limits := by
              rw [advanceTo]
              split_ifs <;> rfl
            rw [← hsameLimits] at hroom ⊢
            exact ih hadvanced hroom hidle
          · intro action haction
            refine ⟨hlate action haction, Or.inr ?_⟩
            have hzero : nextDl = 0 := by
              by_contra hne
              exact hsome (UInt64.pos_iff_ne_zero.mpr hne)
            rw [hdeadline] at hzero
            exact nextDeadline_of_turnDeadline_zero haction hlate hzero
      | stepLimit => exact absurd hidle (by simp)
      | livelock => exact absurd hidle (by simp)
      | error => exact absurd hidle (by simp)

theorem init_onTime (nowUs : UInt64) {actionQueue : LinuxScheduledActionQueue}
    (hqueue : actionQueue.InOrder) (state : σ)
    (limits : Option RunControllerLimits) :
    OnTime nowUs actionQueue.actions.toList
      (init nowUs actionQueue state limits) := by
  refine ⟨hqueue, UInt64.le_refl _, Or.inl rfl, ?_, List.Perm.refl _,
    List.Pairwise.nil, ?_⟩
  · intro record hrecord
    simp [init] at hrecord
  · intro entry hentry
    simp [init] at hentry

/-- A firmware that only counts its completions. -/
def countingFirmware : Firmware ℕ :=
  { post := fun count _ => count + 1
    ingestDue := fun count _ => count
    runOnceRaw := fun count => count
    executeActions := fun count => count
    eventCount := fun _ => 0
    transitionSequence := fun count => count.toUInt64
    nextDeadline := fun _ => none }

def benchQueue : LinuxScheduledActionQueue :=
  LinuxScheduledActionQueue.init.scheduleAll
    [ActionRun.benchAction 30 1, ActionRun.benchAction 10 2,
      ActionRun.benchAction 900 3]

end RunController

end Swfpm
