import Swfpm.Mode.Mirror
import Swfpm.Time.Scheduler

/-!
# The event loop

Embedding of `infrastructure/event/fsm_action_executor.{h,c}` and
`app_event_loop.{h,c}`.  A `Turn` holds what one turn meets from outside: the
readings of the clock, the answers of the action handlers, and what handlers,
interrupts and other producers call in between.  The loop's `trace` is a record
for the statements about runs; the source keeps none.
-/

namespace Swfpm

/-! ## The action executor -/

inductive FsmActionExecResult where
  | complete
  | pending
  | failed
  deriving DecidableEq, Repr

/-- `FSM_ACTION_EXECUTOR_SLOT_COUNT`. -/
abbrev fsmActionExecutorSlotCount : ℕ := 7

structure FsmActionExecutor where
  /-- The slots that have a handler. -/
  bound : Fin fsmActionExecutorSlotCount → Bool
  completedCount : UInt32
  failedCount : UInt32
  blockedCount : UInt32

namespace FsmActionExecutor

/-- The action of a slot. -/
def slotAction (slot : Fin fsmActionExecutorSlotCount) : UInt32 :=
  (1 : UInt32) <<< slot.val.toUInt32

def actionIndex (action : UInt32) : Option (Fin fsmActionExecutorSlotCount) :=
  (List.finRange fsmActionExecutorSlotCount).find? fun slot =>
    action = slotAction slot

def init : FsmActionExecutor := ⟨fun _ => false, 0, 0, 0⟩

def bind (executor : FsmActionExecutor) (action : UInt32) :
    Bool × FsmActionExecutor :=
  match actionIndex action with
  | none => (false, executor)
  | some index =>
      (true, { executor with
        bound := fun slot => if slot = index then true else executor.bound slot })

/-- The walk over the slots; it returns the completed actions. -/
def runFrom (pending : UInt32) (maxActions : ℕ)
    (answer : Fin fsmActionExecutorSlotCount → FsmActionExecResult) :
    List (Fin fsmActionExecutorSlotCount) → FsmActionExecutor → ℕ → UInt32 →
      FsmActionExecutor × UInt32
  | [], executor, _, completed => (executor, completed)
  | slot :: slots, executor, attempted, completed =>
      let continueWith := runFrom pending maxActions answer slots
      if attempted ≥ maxActions then (executor, completed)
      else if pending &&& slotAction slot = 0 then
        continueWith executor attempted completed
      else if !executor.bound slot then
        continueWith { executor with blockedCount := executor.blockedCount + 1 }
          attempted completed
      else
        match answer slot with
        | .complete =>
            continueWith
              { executor with completedCount := executor.completedCount + 1 }
              (attempted + 1) (completed ||| slotAction slot)
        | .failed =>
            continueWith
              { executor with failedCount := executor.failedCount + 1 }
              (attempted + 1) completed
        | .pending => continueWith executor (attempted + 1) completed

def run (executor : FsmActionExecutor) (pending : UInt32) (maxActions : ℕ)
    (answer : Fin fsmActionExecutorSlotCount → FsmActionExecResult) :
    FsmActionExecutor × UInt32 :=
  if maxActions = 0 then (executor, FsmAction.none)
  else
    runFrom pending maxActions answer
      (List.finRange fsmActionExecutorSlotCount) executor 0 FsmAction.none

end FsmActionExecutor

/-! ## The loop -/

structure LoopBudgetConfig where
  maxEventsPerTurn : UInt8
  maxServiceSteps : UInt8
  /-- Zero for no limit. -/
  maxExecUs : UInt32
  deriving DecidableEq, Repr

def LoopBudgetConfig.default : LoopBudgetConfig := ⟨8, 4, 5000⟩

/-- `LOOP_BUDGET_DEFAULT_MAX_EVENTS`, the size of the array of due events. -/
def loopBudgetDefaultMaxEvents : UInt8 := 8

inductive LoopRecord where
  /-- The scheduler took the job in. -/
  | scheduled (job : SchedulerJob)
  /-- The loop took the event from the queue and gave it to its owner. -/
  | dispatched (event : AppEvent)
  /-- The machine committed a transition; `pending` is its mask after it. -/
  | transition (previous next : SystemMode) (actions pending : UInt32)
  /-- The executor reported actions complete; `pending` is the mask after it. -/
  | completed (actions pending : UInt32)
  deriving DecidableEq, Repr

structure AppEventLoop where
  queue : AppEventQueue
  world : ModeWorld
  /-- The events registered with the mediator. -/
  mediator : List EventId
  scheduler : Scheduler
  actionExecutor : FsmActionExecutor
  budget : LoopBudgetConfig
  eventsProcessedLastTurn : UInt8
  budgetExhaustionCount : UInt32
  initialized : Bool
  trace : List LoopRecord

/-- What a producer, a handler or an interrupt may call. -/
inductive LoopCall where
  | post (event : Option AppEvent)
  | postFromIsr (event : Option AppEvent)
  | scheduleOneShot (jobId : UInt16) (ownerId : UInt32) (eventId : EventId)
      (deadlineUs : UInt64) (generation : UInt32) (priority : AppEventPriority)
  | schedulePeriodic (jobId : UInt16) (ownerId : UInt32) (eventId : EventId)
      (anchorUs periodUs : UInt64) (generation : UInt32)
      (missPolicy : MissPolicy) (priority : AppEventPriority) (nowUs : UInt64)
  | publishGuards (evidence : ModeGuardContext)
  | bindAction (action : UInt32)

/-- What one turn meets from outside. -/
structure Turn where
  startedUs : UInt64
  /-- The reading that the scheduler is dispatched with. -/
  nowUs : UInt64
  dueClock : ℕ → UInt64
  /-- The reading of each budget check before an event. -/
  checkUs : ℕ → UInt64
  /-- The reading of the budget check before the actions. -/
  actionCheckUs : UInt64
  /-- Calls before each post of a due event. -/
  beforePost : ℕ → List LoopCall
  /-- Calls before each event is taken. -/
  beforeGet : ℕ → List LoopCall
  /-- Calls of the event's handler. -/
  handler : ℕ → List LoopCall
  answer : Fin fsmActionExecutorSlotCount → FsmActionExecResult
  /-- Calls of the action handlers. -/
  actionCalls : List LoopCall

namespace AppEventLoop

/-- The initial evidence of `app_event_loop_init`. -/
def initialGuards : ModeGuardContext :=
  { ModeGuardContext.cleared with
    coreReady := true
    recoveryCanRun := true
    wakeSourcesArmed := true
    safeServiceBoundary := true
    safeToResumeNormal := true
    returnNormal := true
    reinitializeAllowed := true }

/-- The loop after `app_event_loop_init` with a mediator. -/
def init (queue : AppEventQueue) (fsm : SystemModeManager)
    (repo : DataRepository) (scheduler : Scheduler)
    (budget : Option LoopBudgetConfig) : AppEventLoop :=
  { queue
    world :=
      { fsm, repo
        guardProvider := ModeGuardProvider.init.publish initialGuards }
    mediator := registerEventHandlers
    scheduler
    actionExecutor :=
      (FsmActionExecutor.init.bind FsmAction.requestReset).2
    budget := budget.getD .default
    eventsProcessedLastTurn := 0
    budgetExhaustionCount := 0
    initialized := true
    trace := [] }

/-- The loop with the outcome of a schedule call. -/
def scheduled (loop : AppEventLoop) (job : SchedulerJob)
    (outcome : ScheduleResult × Scheduler) : AppEventLoop :=
  { loop with
    scheduler := outcome.2
    trace :=
      if outcome.1 = .ok then loop.trace ++ [.scheduled job] else loop.trace }

def call (loop : AppEventLoop) : LoopCall → AppEventLoop
  | .post event => { loop with queue := (loop.queue.post event).2 }
  | .postFromIsr event => { loop with queue := (loop.queue.postFromIsr event).2 }
  | .scheduleOneShot jobId ownerId eventId deadlineUs generation priority =>
      loop.scheduled
        (Scheduler.oneShotJob jobId ownerId eventId deadlineUs generation
          priority)
        (loop.scheduler.scheduleOneShot jobId ownerId eventId deadlineUs
          generation priority)
  | .schedulePeriodic jobId ownerId eventId anchorUs periodUs generation
      missPolicy priority nowUs =>
      loop.scheduled
        (Scheduler.periodicJob jobId ownerId eventId anchorUs periodUs generation
          missPolicy priority nowUs)
        (loop.scheduler.schedulePeriodic jobId ownerId eventId anchorUs periodUs
          generation missPolicy priority nowUs)
  | .publishGuards evidence =>
      { loop with
        world :=
          { loop.world with
            guardProvider := loop.world.guardProvider.publish evidence } }
  | .bindAction action =>
      { loop with actionExecutor := (loop.actionExecutor.bind action).2 }

def calls (loop : AppEventLoop) (made : List LoopCall) : AppEventLoop :=
  made.foldl call loop

def executionBudgetElapsed (loop : AppEventLoop) (startedUs nowUs : UInt64) :
    Bool :=
  loop.budget.maxExecUs ≠ 0 && startedUs ≤ nowUs &&
    loop.budget.maxExecUs.toUInt64 ≤ nowUs - startedUs

/-- The posts of the due events, from the one with the given number on. -/
def postDue (turn : Turn) :
    ℕ → List AppEvent → AppEventLoop → AppEventLoop
  | _, [], loop => loop
  | number, event :: due, loop =>
      let loop := loop.calls (turn.beforePost number)
      -- the result of the post is not looked at
      postDue turn (number + 1) due
        { loop with queue := (loop.queue.post (some event)).2 }

/-- The record of a committed transition. -/
def transitionRecord (before : SystemModeManager) (dispatch : ModeDispatch) :
    List LoopRecord :=
  if dispatch.result = some .transitionCommitted then
    let fsm := dispatch.world.fsm
    [.transition before.currentMode fsm.currentMode fsm.lastRecord.actionMask
      fsm.pendingActions]
  else []

/-- The event goes to its owner, and a deadline is acknowledged. -/
def dispatchEvent (turn : Turn) (number : ℕ) (event : AppEvent)
    (loop : AppEventLoop) : AppEventLoop :=
  let dispatch := loop.world.dispatchToOwnerGuarded event loop.mediator
    loop.world.guardProvider
  let loop :=
    { loop with
      world := dispatch.world
      trace := loop.trace ++
        LoopRecord.dispatched event :: transitionRecord loop.world.fsm dispatch }
  let loop := loop.calls (turn.handler number)
  if event.delivery = .deadline then
    { loop with
      scheduler := (loop.scheduler.acknowledge event.correlationId.toUInt16
        event.sourceGeneration).2 }
  else loop

/-- The dispatch loop with the steps that remain; it returns the steps made and
whether the time ran out. -/
def serve (turn : Turn) : ℕ → ℕ → AppEventLoop → AppEventLoop × ℕ × Bool
  | 0, steps, loop => (loop, steps, false)
  | remaining + 1, steps, loop =>
      if ¬ loop.eventsProcessedLastTurn < loop.budget.maxEventsPerTurn then
        (loop, steps, false)
      else if loop.executionBudgetElapsed turn.startedUs (turn.checkUs steps) then
        (loop, steps, true)
      else
        let loop := loop.calls (turn.beforeGet steps)
        let (taken, queue) := loop.queue.tryGet
        let loop := { loop with queue }
        match taken with
        | none => (loop, steps, false)
        | some event =>
            let loop := loop.dispatchEvent turn steps event
            serve turn remaining (steps + 1)
              { loop with
                eventsProcessedLastTurn := loop.eventsProcessedLastTurn + 1 }

/-- The pending actions, as far as steps remain. -/
def executeActions (turn : Turn) (steps : ℕ) (loop : AppEventLoop) :
    AppEventLoop :=
  let actions := loop.world.fsm.pendingActions
  let remainingSteps := loop.budget.maxServiceSteps.toNat - steps
  if actions ≠ FsmAction.none ∧ remainingSteps > 0 then
    let (actionExecutor, completed) :=
      loop.actionExecutor.run actions remainingSteps turn.answer
    let fsm := loop.world.fsm.completeActions completed
    let loop :=
      { loop with
        actionExecutor
        world := { loop.world with fsm }
        trace := loop.trace ++
          [LoopRecord.completed completed fsm.pendingActions] }
    loop.calls turn.actionCalls
  else loop

/-- The due events are at most as many as the loop's array holds. -/
def dueLimit (loop : AppEventLoop) : UInt8 :=
  if loop.budget.maxEventsPerTurn > loopBudgetDefaultMaxEvents then
    loopBudgetDefaultMaxEvents
  else loop.budget.maxEventsPerTurn

/-- The start of a turn takes the due events from the scheduler. -/
def beginTurn (turn : Turn) (loop : AppEventLoop) :
    List AppEvent × AppEventLoop :=
  let (due, scheduler) :=
    loop.scheduler.dispatchDue turn.nowUs turn.dueClock loop.dueLimit
  (due, { loop with scheduler, eventsProcessedLastTurn := 0 })

/-- The end of a turn executes the actions and counts a spent budget. -/
def endTurn (turn : Turn) (steps : ℕ) (exhausted : Bool)
    (loop : AppEventLoop) : AppEventLoop :=
  let late := loop.executionBudgetElapsed turn.startedUs turn.actionCheckUs
  let loop := if late then loop else executeActions turn steps loop
  let spent := loop.queue.getCount > 0 &&
    (steps ≥ loop.budget.maxServiceSteps.toNat ||
      loop.eventsProcessedLastTurn ≥ loop.budget.maxEventsPerTurn)
  if exhausted || late || spent then
    { loop with budgetExhaustionCount := loop.budgetExhaustionCount + 1 }
  else loop

def runOnce (loop : AppEventLoop) (turn : Turn) : AppEventLoop :=
  if !loop.initialized then loop
  else
    let (due, loop) := beginTurn turn loop
    let loop := postDue turn 0 due loop
    let (loop, steps, exhausted) :=
      serve turn loop.budget.maxServiceSteps.toNat 0 loop
    endTurn turn steps exhausted loop

/-! ## Invariants of a turn -/

variable {turn : Turn} {loop : AppEventLoop}

theorem calls_keep {invariant : AppEventLoop → Prop}
    (hcall : ∀ loop request, invariant loop → invariant (loop.call request))
    (hloop : invariant loop) (made : List LoopCall) :
    invariant (loop.calls made) := by
  induction made generalizing loop with
  | nil => exact hloop
  | cons request made ih => exact ih (hcall loop request hloop)

/-- What the calls and the dispatch of a taken event keep, the dispatch loop
keeps. -/
theorem serve_keeps {invariant : AppEventLoop → Prop}
    (hcall : ∀ loop request, invariant loop → invariant (loop.call request))
    (hevent : ∀ (loop : AppEventLoop) number event queue processed,
      invariant loop → loop.queue.tryGet = (some event, queue) →
      invariant { dispatchEvent turn number event { loop with queue } with
        eventsProcessedLastTurn := processed })
    (hloop : invariant loop) (remaining steps : ℕ) :
    invariant (serve turn remaining steps loop).1 := by
  induction remaining generalizing loop steps with
  | zero => exact hloop
  | succ remaining ih =>
      have hcalls := calls_keep hcall hloop (turn.beforeGet steps)
      rw [serve]
      by_cases hbudget :
          loop.eventsProcessedLastTurn < loop.budget.maxEventsPerTurn
      case neg =>
        rw [if_pos hbudget]
        exact hloop
      rw [if_neg (not_not.mpr hbudget)]
      by_cases hlate :
          loop.executionBudgetElapsed turn.startedUs (turn.checkUs steps)
      case pos =>
        rw [if_pos hlate]
        exact hloop
      rw [if_neg hlate]
      dsimp only
      cases hget : (loop.calls (turn.beforeGet steps)).queue.tryGet with
      | mk taken queue =>
          cases taken with
          | some event => exact ih (hevent _ steps event queue _ hcalls hget) _
          | none =>
              have hqueue : queue =
                  (loop.calls (turn.beforeGet steps)).queue := by
                rw [AppEventQueue.tryGet] at hget
                split_ifs at hget
                · exact (congrArg Prod.snd hget).symm
                · exact absurd (congrArg Prod.fst hget) (by simp)
              rw [hqueue]
              exact hcalls

/-- Each due event meets the condition at the queue that it is posted to. -/
def DueMeets (condition : AppEventQueue → AppEvent → Prop) (turn : Turn) :
    ℕ → List AppEvent → AppEventLoop → Prop
  | _, [], _ => True
  | number, event :: due, loop =>
      let loop := loop.calls (turn.beforePost number)
      condition loop.queue event ∧
        DueMeets condition turn (number + 1) due
          { loop with queue := (loop.queue.post (some event)).2 }

/-- The due events of the turn meet the condition. -/
def TurnMeets (condition : AppEventQueue → AppEvent → Prop)
    (loop : AppEventLoop) (turn : Turn) : Prop :=
  loop.initialized = true →
    DueMeets condition turn 0 (beginTurn turn loop).1 (beginTurn turn loop).2

instance decidableDueMeets (condition : AppEventQueue → AppEvent → Prop)
    [∀ queue event, Decidable (condition queue event)] :
    ∀ number due loop, Decidable (DueMeets condition turn number due loop)
  | _, [], _ => isTrue trivial
  | number, event :: due, loop =>
      let loop := loop.calls (turn.beforePost number)
      have := decidableDueMeets condition (number + 1) due
        { loop with queue := (loop.queue.post (some event)).2 }
      inferInstanceAs (Decidable (_ ∧ _))

instance {condition : AppEventQueue → AppEvent → Prop}
    [∀ queue event, Decidable (condition queue event)] :
    Decidable (TurnMeets condition loop turn) :=
  inferInstanceAs (Decidable (_ → _))

theorem dueMeets_true (number : ℕ) (due : List AppEvent) :
    DueMeets (fun _ _ => True) turn number due loop := by
  induction due generalizing loop number with
  | nil => trivial
  | cons event due ih => exact ⟨trivial, ih _⟩

theorem endTurn_keeps {invariant : AppEventLoop → Prop}
    (hactions : ∀ loop steps, invariant loop →
      invariant (executeActions turn steps loop))
    (hcount : ∀ loop budgetExhaustionCount, invariant loop →
      invariant { loop with budgetExhaustionCount })
    (hloop : invariant loop) (steps : ℕ) (exhausted : Bool) :
    invariant (endTurn turn steps exhausted loop) := by
  have hexecuted : invariant
      (if loop.executionBudgetElapsed turn.startedUs turn.actionCheckUs then loop
        else executeActions turn steps loop) := by
    split_ifs
    · exact hloop
    · exact hactions loop steps hloop
  rw [endTurn]
  generalize (if loop.executionBudgetElapsed turn.startedUs turn.actionCheckUs
    then loop else executeActions turn steps loop) = executed at hexecuted ⊢
  split_ifs
  · exact hcount executed _ hexecuted
  · exact hexecuted

/-- What each part of a turn keeps, a turn whose due events meet the condition
keeps.  The list of the invariant holds the due events that are still to be
posted. -/
theorem runOnce_keeps (invariant : List AppEvent → AppEventLoop → Prop)
    {condition : AppEventQueue → AppEvent → Prop}
    (hcall : ∀ due loop request, invariant due loop →
      invariant due (loop.call request))
    (hbegin : ∀ loop, invariant [] loop →
      invariant (beginTurn turn loop).1 (beginTurn turn loop).2)
    (hpost : ∀ (loop : AppEventLoop) event due, condition loop.queue event →
      invariant (event :: due) loop →
      invariant due { loop with queue := (loop.queue.post (some event)).2 })
    (hevent : ∀ (loop : AppEventLoop) number event queue processed,
      invariant [] loop → loop.queue.tryGet = (some event, queue) →
      invariant [] { dispatchEvent turn number event { loop with queue } with
        eventsProcessedLastTurn := processed })
    (hactions : ∀ loop steps, invariant [] loop →
      invariant [] (executeActions turn steps loop))
    (hcount : ∀ loop budgetExhaustionCount, invariant [] loop →
      invariant [] { loop with budgetExhaustionCount })
    (hloop : invariant [] loop) (hmeets : TurnMeets condition loop turn) :
    invariant [] (loop.runOnce turn) := by
  have hposts : ∀ (due : List AppEvent) (number : ℕ) (loop : AppEventLoop),
      invariant due loop → DueMeets condition turn number due loop →
      invariant [] (postDue turn number due loop) := by
    intro due
    induction due with
    | nil => exact fun _ _ hloop _ => hloop
    | cons event due ih =>
        rintro number loop hloop ⟨hcondition, hrest⟩
        exact ih (number + 1) _ (hpost _ event due hcondition
          (calls_keep (hcall (event :: due)) hloop _)) hrest
  rw [runOnce]
  split_ifs with huninitialized
  · exact hloop
  · have hready : loop.initialized = true := by simpa using huninitialized
    have hposted := hposts _ 0 _ (hbegin loop hloop) (hmeets hready)
    exact endTurn_keeps hactions hcount
      (serve_keeps (hcall []) hevent hposted _ _) _ _

/-- A dispatch leaves the machine alone, or fires a row of the table and sets
the mask to the row's actions. -/
theorem dispatchToOwnerGuarded_fsm (world : ModeWorld) (event : AppEvent)
    (mediator : List EventId) (guardProvider : ModeGuardProvider) :
    let dispatch := world.dispatchToOwnerGuarded event mediator guardProvider
    (dispatch.result ≠ some .transitionCommitted ∧
      dispatch.world.fsm = world.fsm) ∨
    ∃ entry ∈ transitionTable, dispatch.result = some .transitionCommitted ∧
      entry.currentMode = world.fsm.currentMode ∧
      dispatch.world.fsm = world.fsm.applyTransition event entry := by
  have htxn : ∀ guards, ((world.dispatchInTxn guards event).result ≠
      some .transitionCommitted ∧
        (world.dispatchInTxn guards event).world.fsm = world.fsm) ∨
      ∃ entry ∈ transitionTable,
        (world.dispatchInTxn guards event).result = some .transitionCommitted ∧
        entry.currentMode = world.fsm.currentMode ∧
        (world.dispatchInTxn guards event).world.fsm =
          world.fsm.applyTransition event entry := by
    intro guards
    rw [ModeWorld.dispatchInTxn]
    obtain ⟨began, txn, repo⟩ := RepoWriteTxn.txnInit.txnBegin world.repo
    cases began with
    | false => exact .inl ⟨by simp, rfl⟩
    | true =>
        obtain ⟨hresult, hfsm⟩ | ⟨entry, hentry, hfires, hdispatch⟩ :=
          world.fsm.dispatch_cases event guards
        · left
          simp only [Bool.not_true, Bool.false_eq_true, if_false,
            if_neg hresult]
          exact ⟨fun heq => hresult (Option.some.inj heq), hfsm⟩
        · right
          refine ⟨entry, hentry, ?_⟩
          simp only [hdispatch, Bool.not_true, Bool.false_eq_true, if_false,
            if_true]
          split_ifs <;> exact ⟨rfl, hfires.mode, rfl⟩
  dsimp only
  rw [ModeWorld.dispatchToOwnerGuarded, ModeWorld.tryMediatorThenLegacy]
  dsimp only
  split_ifs
  · exact htxn _
  · exact .inl ⟨by simp, rfl⟩
  · split
    · exact htxn _
    · exact .inl ⟨by simp, rfl⟩

/-! ## Runs -/

inductive LoopInput where
  | call (request : LoopCall)
  | turn (turn : Turn)

def input (loop : AppEventLoop) : LoopInput → AppEventLoop
  | .call request => loop.call request
  | .turn turn => loop.runOnce turn

def runFrom (loop : AppEventLoop) (inputs : List LoopInput) : AppEventLoop :=
  inputs.foldl input loop

/-- A turn without interference at time zero, whose action handlers complete. -/
def quietTurn : Turn :=
  { startedUs := 0, nowUs := 0, dueClock := fun _ => 0, checkUs := fun _ => 0
    actionCheckUs := 0, beforePost := fun _ => [], beforeGet := fun _ => []
    handler := fun _ => [], answer := fun _ => .complete, actionCalls := [] }

end AppEventLoop
end Swfpm
