import Swfpm.Domain.System
import Swfpm.Queue.EventQueue

/-!
# The system mode machine

Embedding of `app/mode_guard.{h,c}` and `app/system_fsm.{h,c}`.
`SYSTEM_MODE_COUNT` is no mode, so the check of the mode's range has no branch
here, and neither have the checks for null pointers.
-/

namespace Swfpm

/-! ## Guard evidence -/

structure ModeGuardProvider where
  readinessGeneration : UInt32
  serviceSessionGeneration : UInt32
  recoveryGeneration : UInt32
  evidence : ModeGuardContext
  deriving DecidableEq, Repr

namespace ModeGuardProvider

def init : ModeGuardProvider := ⟨0, 0, 0, .cleared⟩

def publish (provider : ModeGuardProvider) (evidence : ModeGuardContext) :
    ModeGuardProvider :=
  { readinessGeneration := provider.readinessGeneration + 1
    serviceSessionGeneration := provider.serviceSessionGeneration + 1
    recoveryGeneration := provider.recoveryGeneration + 1
    evidence }

def capture (provider : ModeGuardProvider) : ModeGuardContext :=
  { provider.evidence with
    readinessGeneration := provider.readinessGeneration
    serviceSessionGeneration := provider.serviceSessionGeneration
    recoveryGeneration := provider.recoveryGeneration }

end ModeGuardProvider

namespace Guard

def coreReady : UInt32 := (1 : UInt32) <<< 0
def flowReadiness : UInt32 := (1 : UInt32) <<< 1
def serviceReady : UInt32 := (1 : UInt32) <<< 2
def serviceAuthorized : UInt32 := (1 : UInt32) <<< 3
def safeServiceBoundary : UInt32 := (1 : UInt32) <<< 4
def safeResumeNormal : UInt32 := (1 : UInt32) <<< 5
def noCriticalBlocker : UInt32 := (1 : UInt32) <<< 6
def wakeArmed : UInt32 := (1 : UInt32) <<< 7
def recoveryCanRun : UInt32 := (1 : UInt32) <<< 8
def returnNormal : UInt32 := (1 : UInt32) <<< 9
def returnService : UInt32 := (1 : UInt32) <<< 10
def reinitAllowed : UInt32 := (1 : UInt32) <<< 11

end Guard

/-- All required bits must be true. -/
def ModeGuardContext.check (guards : ModeGuardContext) (required : UInt32) :
    Bool :=
  let needs (bit : UInt32) (fact : Bool) := required &&& bit = 0 || fact
  needs Guard.coreReady guards.coreReady &&
  needs Guard.flowReadiness guards.flowReadinessEvidenceValid &&
  needs Guard.serviceReady guards.serviceReady &&
  needs Guard.serviceAuthorized guards.serviceAuthorized &&
  needs Guard.safeServiceBoundary guards.safeServiceBoundary &&
  needs Guard.safeResumeNormal guards.safeToResumeNormal &&
  needs Guard.noCriticalBlocker (!guards.criticalBlockerPresent) &&
  needs Guard.wakeArmed guards.wakeSourcesArmed &&
  needs Guard.recoveryCanRun guards.recoveryCanRun &&
  needs Guard.returnNormal guards.returnNormal &&
  needs Guard.returnService guards.returnService &&
  needs Guard.reinitAllowed guards.reinitializeAllowed

/-! ## The transition table -/

namespace FsmAction

def none : UInt32 := 0
def startNormal : UInt32 := (1 : UInt32) <<< 0
def enterService : UInt32 := (1 : UInt32) <<< 1
def startRecovery : UInt32 := (1 : UInt32) <<< 2
def enterError : UInt32 := (1 : UInt32) <<< 3
def prepareLowPower : UInt32 := (1 : UInt32) <<< 4
def resumeNormal : UInt32 := (1 : UInt32) <<< 5
def requestReset : UInt32 := (1 : UInt32) <<< 6

end FsmAction

structure TransitionEntry where
  /-- `zero` matches every event. -/
  eventId : EventId
  currentMode : SystemMode
  nextMode : SystemMode
  action : UInt32
  guardRequired : UInt32
  deriving DecidableEq, Repr

def transitionTable : List TransitionEntry :=
  -- TR-SYS-001 to 005
  [ ⟨.initCompleted, .init, .normal, FsmAction.startNormal, Guard.coreReady⟩,
    ⟨.serviceRequest, .init, .service, FsmAction.enterService,
      Guard.serviceReady ||| Guard.serviceAuthorized⟩,
    ⟨.recoverableInitFailure, .init, .recovery, FsmAction.startRecovery,
      Guard.recoveryCanRun⟩,
    ⟨.criticalInitFailure, .init, .error, FsmAction.enterError, 0⟩,
    ⟨.zero, .init, .init, FsmAction.none, 0⟩,
    -- TR-SYS-010 to 016
    ⟨.lowPowerRequest, .normal, .lowPower, FsmAction.prepareLowPower,
      Guard.noCriticalBlocker ||| Guard.wakeArmed⟩,
    ⟨.lowPowerRequest, .normal, .normal, FsmAction.none, 0⟩,
    ⟨.serviceRequest, .normal, .service, FsmAction.enterService,
      Guard.serviceAuthorized ||| Guard.safeServiceBoundary⟩,
    ⟨.systemRecoveryRequired, .normal, .recovery, FsmAction.startRecovery,
      Guard.recoveryCanRun⟩,
    ⟨.criticalError, .normal, .error, FsmAction.enterError, 0⟩,
    ⟨.connectivityChanged, .normal, .normal, FsmAction.none, 0⟩,
    ⟨.zero, .normal, .normal, FsmAction.none, 0⟩,
    -- TR-SYS-020 to 023
    ⟨.wake, .lowPower, .normal, FsmAction.resumeNormal, 0⟩,
    ⟨.serviceRequest, .lowPower, .service,
      FsmAction.resumeNormal ||| FsmAction.enterService,
      Guard.serviceAuthorized⟩,
    ⟨.criticalError, .lowPower, .error, FsmAction.enterError, 0⟩,
    ⟨.zero, .lowPower, .lowPower, FsmAction.none, 0⟩,
    -- TR-SYS-030 to 033
    ⟨.serviceExit, .service, .normal, FsmAction.startNormal,
      Guard.safeResumeNormal⟩,
    ⟨.systemRecoveryRequired, .service, .recovery, FsmAction.startRecovery,
      Guard.recoveryCanRun⟩,
    ⟨.criticalError, .service, .error, FsmAction.enterError, 0⟩,
    ⟨.zero, .service, .service, FsmAction.none, 0⟩,
    -- TR-SYS-040 to 044
    ⟨.recoverySucceeded, .recovery, .normal, FsmAction.resumeNormal,
      Guard.returnNormal⟩,
    ⟨.recoverySucceeded, .recovery, .service, FsmAction.enterService,
      Guard.returnService⟩,
    ⟨.recoveryFailed, .recovery, .error, FsmAction.enterError, 0⟩,
    ⟨.criticalError, .recovery, .error, FsmAction.enterError, 0⟩,
    ⟨.zero, .recovery, .recovery, FsmAction.none, 0⟩,
    -- TR-SYS-050 to 052
    ⟨.authorizedRecoveryRequest, .error, .recovery, FsmAction.startRecovery,
      Guard.recoveryCanRun⟩,
    ⟨ EventId.controlledReinitialize, .error, .init, FsmAction.requestReset,
      Guard.reinitAllowed⟩,
    ⟨.zero, .error, .error, FsmAction.none, 0⟩]

/-! ## The machine -/

inductive FsmDispatchResult where
  | transitionCommitted
  | handledNoTransition
  | deferred
  | rejected
  | ignoredSafe
  | staleEvent
  | invariantFault
  deriving DecidableEq, Repr

structure TransitionRecord where
  previousMode : SystemMode
  newMode : SystemMode
  eventId : UInt32
  reasonCode : UInt32
  requesterId : UInt32
  correlationId : UInt64
  transitionSequence : UInt64
  modeGeneration : UInt32
  monotonicTimeUs : UInt64
  wallTimeValid : Bool
  guardSnapshotId : UInt32
  actionMask : UInt32
  deriving DecidableEq, Repr

def TransitionRecord.cleared : TransitionRecord :=
  { previousMode := .init, newMode := .init, eventId := 0, reasonCode := 0
    requesterId := 0, correlationId := 0, transitionSequence := 0
    modeGeneration := 0, monotonicTimeUs := 0, wallTimeValid := false
    guardSnapshotId := 0, actionMask := 0 }

structure SystemModeManager where
  currentMode : SystemMode
  modeGeneration : UInt32
  transitionSequence : UInt64
  enteredAtMonotonicUs : UInt64
  reasonCode : UInt32
  sourceEventId : UInt32
  correlationId : UInt64
  lastRecord : TransitionRecord
  pendingActions : UInt32
  deriving DecidableEq, Repr

def AppEvent.isSystemEvent (event : AppEvent) : Bool :=
  0x0100 ≤ event.id.value && event.id.value ≤ 0x01FF

namespace SystemModeManager

def init : SystemModeManager :=
  { currentMode := .init
    modeGeneration := 1
    transitionSequence := 0
    enteredAtMonotonicUs := 0
    reasonCode := 0
    sourceEventId := 0
    correlationId := 0
    lastRecord := .cleared
    pendingActions := FsmAction.none }

variable (manager : SystemModeManager) (event : AppEvent)
  (guards : ModeGuardContext)

/-- A completion that belongs to the mode's generations, but to another one. -/
def staleEvent : Bool :=
  event.isSystemEvent && event.delivery = .completion &&
    event.sourceGeneration ≠ 0 &&
    event.sourceGeneration ≠ manager.modeGeneration

def applyTransition (entry : TransitionEntry) : SystemModeManager :=
  { manager with
    lastRecord :=
      { manager.lastRecord with
        previousMode := manager.currentMode
        newMode := entry.nextMode
        eventId := event.id.value
        reasonCode := 0
        requesterId := event.sourceId
        correlationId := event.correlationId.toUInt64
        transitionSequence := manager.transitionSequence + 1
        modeGeneration := manager.modeGeneration + 1
        guardSnapshotId := 0
        actionMask := entry.action }
    transitionSequence := manager.transitionSequence + 1
    currentMode := entry.nextMode
    modeGeneration := manager.modeGeneration + 1
    reasonCode := 0
    sourceEventId := event.id.value
    correlationId := event.correlationId.toUInt64
    pendingActions := entry.action }

/-- The unhandled-event policy. -/
def unhandledPolicy : FsmDispatchResult :=
  match manager.currentMode with
  | .error => .rejected
  | .lowPower => .deferred
  | .service => .rejected
  | .recovery => .deferred
  | .init | .normal => .handledNoTransition

/-- The search of the transition table. -/
def search : List TransitionEntry → FsmDispatchResult × SystemModeManager
  | [] => (manager.unhandledPolicy, manager)
  | entry :: entries =>
      if entry.currentMode ≠ manager.currentMode then search entries
      else if entry.eventId ≠ .zero ∧ entry.eventId ≠ event.id then
        search entries
      else if !guards.check entry.guardRequired then search entries
      else if manager.currentMode = .error ∧ entry.nextMode = .normal then
        (.invariantFault, manager)
      else if manager.currentMode = entry.nextMode then
        (.handledNoTransition, manager)
      else (.transitionCommitted, manager.applyTransition event entry)

def dispatch : FsmDispatchResult × SystemModeManager :=
  if manager.staleEvent event then (.staleEvent, manager)
  else manager.search event guards transitionTable

def getContext : SystemModeContext :=
  { currentMode := manager.currentMode
    modeGeneration := manager.modeGeneration
    transitionSequence := manager.transitionSequence
    enteredAtMonotonicUs := manager.enteredAtMonotonicUs
    reasonCode := manager.reasonCode
    sourceEventId := manager.sourceEventId
    correlationId := manager.correlationId }

def clearActions : SystemModeManager :=
  { manager with pendingActions := FsmAction.none }

def completeActions (completed : UInt32) : SystemModeManager :=
  { manager with pendingActions := manager.pendingActions &&& ~~~completed }

/-! ## What a dispatch does -/

/-- The entry's row fires on the event. -/
structure Fires (entry : TransitionEntry) : Prop where
  mode : entry.currentMode = manager.currentMode
  event : entry.eventId = .zero ∨ entry.eventId = event.id
  guards : guards.check entry.guardRequired = true
  changes : entry.nextMode ≠ manager.currentMode
  allowed : ¬ (manager.currentMode = .error ∧ entry.nextMode = .normal)

variable {manager event guards}

/-- A search either leaves the machine alone or fires one of its rows. -/
theorem search_cases (entries : List TransitionEntry) :
    ((manager.search event guards entries).1 ≠ .transitionCommitted ∧
      (manager.search event guards entries).2 = manager) ∨
    ∃ entry ∈ entries, manager.Fires event guards entry ∧
      manager.search event guards entries =
        (.transitionCommitted, manager.applyTransition event entry) := by
  induction entries with
  | nil =>
      refine .inl ⟨?_, rfl⟩
      rw [search, unhandledPolicy]
      cases manager.currentMode <;> exact nofun
  | cons entry entries ih =>
      have hlater := ih.imp_right (Exists.imp fun later hfires =>
        And.imp_left (List.mem_cons_of_mem entry) hfires)
      rw [search]
      split_ifs with hmode hevent hguards hforbidden hsame
      · exact hlater
      · exact hlater
      · exact hlater
      · exact .inl ⟨nofun, rfl⟩
      · exact .inl ⟨nofun, rfl⟩
      · refine .inr ⟨entry, .head _, ?_, rfl⟩
        exact {
          mode := not_not.mp hmode
          event := by
            rw [not_and_or, not_not, not_not] at hevent
            exact hevent
          guards := by simpa using hguards
          changes := fun heq => hsame heq.symm
          allowed := hforbidden }

/-- What a dispatch can do: nothing to the machine, or one row of the table. -/
theorem dispatch_cases (manager : SystemModeManager) (event : AppEvent)
    (guards : ModeGuardContext) :
    ((manager.dispatch event guards).1 ≠ .transitionCommitted ∧
      (manager.dispatch event guards).2 = manager) ∨
    ∃ entry ∈ transitionTable, manager.Fires event guards entry ∧
      manager.dispatch event guards =
        (.transitionCommitted, manager.applyTransition event entry) := by
  rw [dispatch]
  split_ifs
  · exact .inl ⟨nofun, rfl⟩
  · exact search_cases transitionTable

@[simp]
theorem getContext_clearActions :
    manager.clearActions.getContext = manager.getContext := rfl

@[simp]
theorem getContext_completeActions (completed : UInt32) :
    (manager.completeActions completed).getContext = manager.getContext := rfl

end SystemModeManager

end Swfpm
