import Swfpm.Mode.SystemFsm
import Swfpm.Repository.Transactions

/-!
# The repository mirrors the mode machine

Embedding of `fsm_event_handler` and of `app_event_router.{h,c}`.  Both paths
dispatch to the machine inside one repository transaction.  The mediator is the
list of the events that are registered with `fsm_event_handler`; an event that
another owner registered does not reach the machine.
-/

namespace Swfpm

/-! ## The two dispatch paths -/

/-- What the event loop shares with its handlers. -/
structure ModeWorld where
  fsm : SystemModeManager
  repo : DataRepository
  guardProvider : ModeGuardProvider

/-- The result is `none` when the machine was not asked. -/
structure ModeDispatch where
  result : Option FsmDispatchResult
  consumed : Bool
  world : ModeWorld

inductive EventOwner where
  | unknown
  | systemFsm
  | measurement
  | product
  | infrastructure
  | configStorage
  | timeReporting
  | bleCellular
  | displayHealth
  deriving DecidableEq, Repr

structure RouteResult where
  owner : EventOwner
  handled : Bool
  deriving DecidableEq, Repr

def routeEvent (event : AppEvent) : RouteResult :=
  let range := event.id.value.toUInt16 &&& 0xFF00
  if range = 0x0100 then ⟨.systemFsm, true⟩
  else if range = 0x0200 then ⟨.measurement, true⟩
  else if range = 0x0300 then
    if event.id.value.toUInt16 &&& 0x00FF ≥ 0x80 then ⟨.infrastructure, true⟩
    else ⟨.product, true⟩
  else if range = 0x0400 then ⟨.configStorage, true⟩
  else if range = 0x0500 then ⟨.timeReporting, true⟩
  else if range = 0x0600 then ⟨.bleCellular, true⟩
  else if range = 0x0700 then ⟨.displayHealth, true⟩
  else ⟨.unknown, false⟩

namespace ModeWorld

variable (world : ModeWorld) (guards : ModeGuardContext) (event : AppEvent)

/-- The transaction that both paths make around `system_fsm_dispatch`. -/
def dispatchInTxn : ModeDispatch :=
  let (began, txn, repo) := RepoWriteTxn.txnInit.txnBegin world.repo
  if !began then ⟨none, false, { world with repo }⟩
  else
    let (fsmResult, fsm) := world.fsm.dispatch event guards
    if fsmResult = .transitionCommitted then
      let (written, txn, repo) := txn.txnWriteMode repo fsm.getContext
      let (committed, txn, repo) :=
        if written then txn.txnCommit repo else (false, txn, repo)
      if committed then ⟨some fsmResult, true, { world with fsm, repo }⟩
      else
        let (_, repo) := txn.txnAbort repo
        ⟨some fsmResult, false, { world with fsm, repo }⟩
    else
      let (_, repo) := txn.txnAbort repo
      ⟨some fsmResult, true, { world with fsm, repo }⟩

/-- `fsm_event_handler` returns nothing: for the mediator the event is
handled. -/
def fsmEventHandler : ModeDispatch :=
  { world.dispatchInTxn world.guardProvider.capture event with
    consumed := true }

def tryMediatorThenLegacy (mediator : List EventId)
    (guardProvider : ModeGuardProvider) : ModeDispatch :=
  if event.id ∈ mediator then world.fsmEventHandler event
  else
    let route := routeEvent event
    if !route.handled then ⟨none, false, world⟩
    else
      match route.owner with
      | .systemFsm => world.dispatchInTxn guardProvider.capture event
      | _ => ⟨none, false, world⟩

/-- The evidence of the router without a provider. -/
def compatibilityEvidence : ModeGuardContext :=
  { ModeGuardContext.cleared with
    coreReady := true
    recoveryCanRun := true
    wakeSourcesArmed := true
    serviceAuthorized := true
    safeServiceBoundary := true
    safeToResumeNormal := true
    returnNormal := true
    reinitializeAllowed := true }

def dispatchToOwner (mediator : List EventId) : ModeDispatch :=
  world.tryMediatorThenLegacy event mediator
    (ModeGuardProvider.init.publish compatibilityEvidence)

def dispatchToOwnerGuarded (mediator : List EventId)
    (guardProvider : ModeGuardProvider) : ModeDispatch :=
  world.tryMediatorThenLegacy event mediator guardProvider

end ModeWorld

/-- The events that `app_event_loop_init` registers. -/
def registerEventHandlers : List EventId :=
  [.systemStart, .initCompleted, .recoverableInitFailure, .criticalInitFailure,
    .lowPowerRequest, .wake, .serviceRequest, .serviceExit,
    .systemRecoveryRequired, .recoverySucceeded, .recoveryFailed,
    .criticalError, .authorizedRecoveryRequest, EventId.controlledReinitialize]

/-! ## Runs -/

/-- The number of transitions that the dispatch committed. -/
def ModeDispatch.transitions (dispatch : ModeDispatch) : ℕ :=
  if dispatch.result = some .transitionCommitted then 1 else 0

/-- Runs with the number of transitions committed so far.  Between the events,
guard evidence may be published, actions may complete, and other owners may run
transactions that end before the next event and do not write the mode. -/
inductive ModeRun : ModeWorld → ℕ → Prop where
  | start (guardProvider : ModeGuardProvider) :
      ModeRun ⟨.init, .init, guardProvider⟩ 0
  | fsmEventHandler {world : ModeWorld} {transitions : ℕ}
      (hrun : ModeRun world transitions) (event : AppEvent) :
      ModeRun (world.fsmEventHandler event).world
        (transitions + (world.fsmEventHandler event).transitions)
  | dispatchToOwner {world : ModeWorld} {transitions : ℕ}
      (hrun : ModeRun world transitions) (event : AppEvent)
      (mediator : List EventId) :
      ModeRun (world.dispatchToOwner event mediator).world
        (transitions + (world.dispatchToOwner event mediator).transitions)
  | dispatchToOwnerGuarded {world : ModeWorld} {transitions : ℕ}
      (hrun : ModeRun world transitions) (event : AppEvent)
      (mediator : List EventId) (guardProvider : ModeGuardProvider) :
      ModeRun
        (world.dispatchToOwnerGuarded event mediator guardProvider).world
        (transitions + (world.dispatchToOwnerGuarded event mediator
          guardProvider).transitions)
  | publishGuards {world : ModeWorld} {transitions : ℕ}
      (hrun : ModeRun world transitions) (evidence : ModeGuardContext) :
      ModeRun
        { world with guardProvider := world.guardProvider.publish evidence }
        transitions
  | clearActions {world : ModeWorld} {transitions : ℕ}
      (hrun : ModeRun world transitions) :
      ModeRun { world with fsm := world.fsm.clearActions } transitions
  | completeActions {world : ModeWorld} {transitions : ℕ}
      (hrun : ModeRun world transitions) (completed : UInt32) :
      ModeRun { world with fsm := world.fsm.completeActions completed }
        transitions
  | otherOwner {world : ModeWorld} {transitions : ℕ}
      (hrun : ModeRun world transitions) {repo : DataRepository}
      (hclosed : repo.writerActive = false)
      (hmode : repo.visible.mode = world.repo.visible.mode) :
      ModeRun { world with repo } transitions

/-! ## What a dispatch does -/

/-- The repositories differ at most in the buffer that readers do not see and
in the index kept for its writer. -/
structure DataRepository.OnlyScratch (before after : DataRepository) : Prop where
  visible : after.visible = before.visible
  activeIndex : after.activeIndex = before.activeIndex
  snapshotVersion : after.snapshotVersion = before.snapshotVersion
  writerActive : after.writerActive = before.writerActive

/-- A dispatch commits a transition to both sides, or to neither. -/
inductive ModeDispatch.Follows (before : ModeWorld) (dispatch : ModeDispatch) :
    Prop where
  | kept (hresult : dispatch.result ≠ some .transitionCommitted)
      (hfsm : dispatch.world.fsm = before.fsm)
      (hrepo : before.repo.OnlyScratch dispatch.world.repo)
  | committed (hresult : dispatch.result = some .transitionCommitted)
      (event : AppEvent) (entry : TransitionEntry)
      (hfsm : dispatch.world.fsm = before.fsm.applyTransition event entry)
      (hmode : dispatch.world.repo.visible.mode = dispatch.world.fsm.getContext)
      (hclosed : dispatch.world.repo.writerActive = false)

namespace ModeWorld

variable {world : ModeWorld}

theorem dispatchInTxn_eq (hfree : world.repo.writerActive = false)
    (guards : ModeGuardContext) (event : AppEvent) :
    world.dispatchInTxn guards event =
      let (fsmResult, fsm) := world.fsm.dispatch event guards
      if fsmResult = .transitionCommitted then
        ⟨some fsmResult, true,
          { world with
            fsm
            repo := world.repo.committed
              { world.repo.visible with mode := fsm.getContext } }⟩
      else
        ⟨some fsmResult, true,
          { world with
            fsm
            repo := { world.repo.draft world.repo.visible with
              writerActive := false } }⟩ := by
  have hwrite := world.repo.draft_write world.repo.visible 0
    (.mode (world.fsm.dispatch event guards).2.getContext)
  simp only [SnapshotWrite.run, SnapshotWrite.store] at hwrite
  simp only [dispatchInTxn, world.repo.draft_begin hfree, hwrite,
    DataRepository.draft_commit, DataRepository.draft_abort, Bool.not_true,
    Bool.false_eq_true, if_false, if_true]

theorem dispatchInTxn_follows (hfree : world.repo.writerActive = false)
    (guards : ModeGuardContext) (event : AppEvent) :
    (world.dispatchInTxn guards event).Follows world := by
  rw [dispatchInTxn_eq hfree]
  obtain ⟨hresult, hfsm⟩ | ⟨entry, -, -, hdispatch⟩ :=
    world.fsm.dispatch_cases event guards
  · simp only [if_neg hresult]
    refine .kept (fun h => hresult (Option.some.inj h)) hfsm ?_
    exact {
      visible := DataRepository.setBuffer_of_ne _ _ _ (otherBuffer_ne _).symm
      activeIndex := rfl
      snapshotVersion := rfl
      writerActive := hfree.symm }
  · rw [hdispatch]
    refine .committed rfl event entry rfl ?_ rfl
    exact congrArg RuntimeSnapshot.mode (world.repo.committed_visible _)

theorem fsmEventHandler_follows (hfree : world.repo.writerActive = false)
    (event : AppEvent) : (world.fsmEventHandler event).Follows world := by
  cases world.dispatchInTxn_follows hfree world.guardProvider.capture event with
  | kept hresult hfsm hrepo => exact .kept hresult hfsm hrepo
  | committed hresult event entry hfsm hmode hclosed =>
      exact .committed hresult event entry hfsm hmode hclosed

theorem tryMediatorThenLegacy_follows (hfree : world.repo.writerActive = false)
    (event : AppEvent) (mediator : List EventId)
    (guardProvider : ModeGuardProvider) :
    (world.tryMediatorThenLegacy event mediator guardProvider).Follows
      world := by
  have hignored : ModeDispatch.Follows world ⟨none, false, world⟩ :=
    .kept nofun rfl ⟨rfl, rfl, rfl, rfl⟩
  rw [tryMediatorThenLegacy]
  dsimp only
  split_ifs
  · exact fsmEventHandler_follows hfree event
  · exact hignored
  · split
    · exact dispatchInTxn_follows hfree _ event
    · exact hignored

end ModeWorld

/-! ## Whole runs -/

/-- What the machine and the repository agree on after any run. -/
structure Mirrors (world : ModeWorld) (transitions : ℕ) : Prop where
  closed : world.repo.writerActive = false
  mode : 0 < transitions → world.repo.visible.mode = world.fsm.getContext
  generation :
    world.fsm.modeGeneration = 1 + world.fsm.transitionSequence.toUInt32

theorem Mirrors.dispatch {world : ModeWorld} {transitions : ℕ}
    (hworld : Mirrors world transitions) {dispatch : ModeDispatch}
    (hfollows : dispatch.Follows world) :
    Mirrors dispatch.world (transitions + dispatch.transitions) := by
  cases hfollows with
  | kept hresult hfsm hrepo =>
      rw [ModeDispatch.transitions, if_neg hresult, Nat.add_zero]
      constructor
      case closed => exact hrepo.writerActive.trans hworld.closed
      case mode =>
        intro hcommitted
        rw [hrepo.visible, hfsm]
        exact hworld.mode hcommitted
      case generation =>
        rw [hfsm]
        exact hworld.generation
  | committed _ event entry hfsm hmode hclosed =>
      constructor
      case closed => exact hclosed
      case mode => exact fun _ => hmode
      case generation =>
        calc dispatch.world.fsm.modeGeneration
            = world.fsm.modeGeneration + 1 := by rw [hfsm]; rfl
          _ = 1 + world.fsm.transitionSequence.toUInt32 + 1 := by
              rw [hworld.generation]
          _ = 1 + (world.fsm.transitionSequence + 1).toUInt32 := by
              rw [UInt64.toUInt32_add, UInt32.add_assoc]
              rfl
          _ = 1 + dispatch.world.fsm.transitionSequence.toUInt32 := by
              rw [hfsm]
              rfl

theorem ModeRun.mirrors {world : ModeWorld} {transitions : ℕ}
    (hrun : ModeRun world transitions) : Mirrors world transitions := by
  induction hrun with
  | start => exact ⟨rfl, nofun, rfl⟩
  | fsmEventHandler _ event ih =>
      exact ih.dispatch (ModeWorld.fsmEventHandler_follows ih.closed event)
  | dispatchToOwner _ event mediator ih =>
      exact ih.dispatch
        (ModeWorld.tryMediatorThenLegacy_follows ih.closed event mediator _)
  | dispatchToOwnerGuarded _ event mediator guardProvider ih =>
      exact ih.dispatch
        (ModeWorld.tryMediatorThenLegacy_follows ih.closed event mediator _)
  | publishGuards _ _ ih => exact ⟨ih.closed, ih.mode, ih.generation⟩
  | clearActions _ ih => exact ⟨ih.closed, ih.mode, ih.generation⟩
  | completeActions _ _ ih => exact ⟨ih.closed, ih.mode, ih.generation⟩
  | otherOwner _ hclosed hmode ih =>
      exact ⟨hclosed, fun hcommitted => hmode.trans (ih.mode hcommitted),
        ih.generation⟩

/-- Once a transition has committed, the visible mode record is the machine's;
the generation counts the transitions; and a dispatch that commits no
transition leaves the machine alone, and of the repository touches only the
buffer that nobody reads. -/
theorem mode_mirrored {world : ModeWorld} {transitions : ℕ}
    (hrun : ModeRun world transitions) :
    (0 < transitions → world.repo.visible.mode = world.fsm.getContext) ∧
      world.fsm.modeGeneration = 1 + world.fsm.transitionSequence.toUInt32 ∧
      ∀ event mediator guardProvider dispatch,
        dispatch = world.fsmEventHandler event ∨
            dispatch = world.dispatchToOwner event mediator ∨
            dispatch =
              world.dispatchToOwnerGuarded event mediator guardProvider →
          dispatch.result ≠ some .transitionCommitted →
            dispatch.world.fsm = world.fsm ∧
              world.repo.OnlyScratch dispatch.world.repo := by
  have hworld := hrun.mirrors
  refine ⟨hworld.mode, hworld.generation, ?_⟩
  intro event mediator guardProvider dispatch hdispatch hkept
  have hfollows : dispatch.Follows world := by
    rcases hdispatch with rfl | rfl | rfl
    · exact ModeWorld.fsmEventHandler_follows hworld.closed event
    · exact ModeWorld.tryMediatorThenLegacy_follows hworld.closed event _ _
    · exact ModeWorld.tryMediatorThenLegacy_follows hworld.closed event _ _
  cases hfollows with
  | kept _ hfsm hrepo => exact ⟨hfsm, hrepo⟩
  | committed hresult => exact absurd hresult hkept

/-- Start-up completes, then a wake event finds the normal mode. -/
theorem mode_mirrored_normal :
    ∃ world : ModeWorld, ModeRun world 1 ∧
      world.repo.visible.mode = world.fsm.getContext ∧
      world.fsm.currentMode = .normal := by
  have hrun := ((ModeRun.start .init).dispatchToOwner
    { AppEvent.cleared with id := .initCompleted } []).dispatchToOwnerGuarded
      { AppEvent.cleared with id := .wake } registerEventHandlers .init
  exact ⟨_, hrun, (mode_mirrored hrun).1 Nat.one_pos, rfl⟩

/-- After the first transition, a dispatch without one copies the visible
snapshot over the buffer that held the initial snapshot. -/
theorem mode_not_mirrored_scratch :
    ¬ ∀ world transitions, ModeRun world transitions →
      (0 < transitions → world.repo.visible.mode = world.fsm.getContext) ∧
        world.fsm.modeGeneration = 1 + world.fsm.transitionSequence.toUInt32 ∧
        ∀ event,
          (world.fsmEventHandler event).result ≠ some .transitionCommitted →
            (world.fsmEventHandler event).world.fsm = world.fsm ∧
              (world.fsmEventHandler event).world.repo = world.repo := by
  intro hclaim
  have hrun := (ModeRun.start .init).dispatchToOwner
    { AppEvent.cleared with id := .initCompleted } []
  have hkept := ((hclaim _ _ hrun).2.2
    { AppEvent.cleared with id := .wake } (by decide)).2
  have hbuffer := congrArg
    (fun repo : DataRepository => (repo.buffers 0).snapshotVersion) hkept
  revert hbuffer
  decide

end Swfpm
