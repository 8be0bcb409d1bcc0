import Swfpm.Mode.SystemFsm

/-!
# Leaving the error mode

`ERROR` has two rows that leave it, each behind a guard of its own.  A run that
was in `ERROR` and is in an operating mode later has taken one of them, and no
completion of another generation takes any row.
-/

namespace Swfpm.SystemModeManager

variable {manager : SystemModeManager} {event : AppEvent}
  {guards : ModeGuardContext}

/-- Some calls of `system_fsm_dispatch` in a row. -/
def dispatchAll (manager : SystemModeManager)
    (calls : List (AppEvent × ModeGuardContext)) : SystemModeManager :=
  calls.foldl (fun manager call => (manager.dispatch call.1 call.2).2) manager

/-- The call takes the machine out of `ERROR` in one of the two ways. -/
structure LeavesError (manager : SystemModeManager) (event : AppEvent)
    (guards : ModeGuardContext) : Prop where
  error : manager.currentMode = .error
  committed : (manager.dispatch event guards).1 = .transitionCommitted
  authorized :
    (event.id = .authorizedRecoveryRequest ∧ guards.recoveryCanRun = true ∧
      (manager.dispatch event guards).2.currentMode = .recovery) ∨
    (event.id = EventId.controlledReinitialize ∧ guards.reinitializeAllowed = true ∧
      (manager.dispatch event guards).2.currentMode = .init)

/-- The modes in which the device works. -/
def Operating (mode : SystemMode) : Prop :=
  mode = .normal ∨ mode = .service ∨ mode = .lowPower

/-! ## The rows of the table -/

theorem errorRows : ∀ entry ∈ transitionTable, entry.currentMode = .error →
    entry.nextMode ≠ .error →
      (entry.eventId = .authorizedRecoveryRequest ∧ entry.nextMode = .recovery ∧
        entry.guardRequired = Guard.recoveryCanRun) ∨
      (entry.eventId = EventId.controlledReinitialize ∧ entry.nextMode = .init ∧
        entry.guardRequired = Guard.reinitAllowed) := by
  decide

/-- A row that changes the mode is for one event of the system. -/
theorem changingRows : ∀ entry ∈ transitionTable,
    entry.nextMode ≠ entry.currentMode →
      entry.eventId ≠ .zero ∧ 0x0100 ≤ entry.eventId.value ∧
        entry.eventId.value ≤ 0x01FF := by
  decide

theorem recoveryCanRun_of_check
    (hcheck : guards.check Guard.recoveryCanRun = true) :
    guards.recoveryCanRun = true := by
  simp only [ModeGuardContext.check, Bool.and_eq_true, Bool.or_eq_true,
    decide_eq_true_eq] at hcheck
  exact hcheck.1.1.1.2.resolve_left (by decide)

theorem reinitializeAllowed_of_check
    (hcheck : guards.check Guard.reinitAllowed = true) :
    guards.reinitializeAllowed = true := by
  simp only [ModeGuardContext.check, Bool.and_eq_true, Bool.or_eq_true,
    decide_eq_true_eq] at hcheck
  exact hcheck.2.resolve_left (by decide)

/-! ## One call -/

/-- From `ERROR` a call stays there or leaves it with authority. -/
theorem dispatch_of_error (herror : manager.currentMode = .error)
    (event : AppEvent) (guards : ModeGuardContext) :
    (manager.dispatch event guards).2.currentMode = .error ∨
      manager.LeavesError event guards := by
  rcases manager.dispatch_cases event guards with
    ⟨-, hsame⟩ | ⟨entry, hentry, hfires, hdispatch⟩
  · left
    rw [hsame, herror]
  · right
    have hmode : entry.currentMode = .error := hfires.mode.trans herror
    have hleaves : entry.nextMode ≠ .error := herror ▸ hfires.changes
    have hcommitted : (manager.dispatch event guards).1 = .transitionCommitted :=
      congrArg Prod.fst hdispatch
    have hnext : (manager.dispatch event guards).2.currentMode = entry.nextMode :=
      congrArg (fun answer => answer.2.currentMode) hdispatch
    refine ⟨herror, hcommitted, ?_⟩
    rw [hnext]
    rcases errorRows entry hentry hmode hleaves with
      ⟨hevent, hrecovery, hguard⟩ | ⟨hevent, hinit, hguard⟩
    · left
      have hid := hfires.event.resolve_left (by rw [hevent]; exact nofun)
      have hcheck := hfires.guards
      rw [hguard] at hcheck
      exact ⟨hid.symm.trans hevent, recoveryCanRun_of_check hcheck, hrecovery⟩
    · right
      have hid := hfires.event.resolve_left (by rw [hevent]; exact nofun)
      have hcheck := hfires.guards
      rw [hguard] at hcheck
      exact ⟨hid.symm.trans hevent, reinitializeAllowed_of_check hcheck, hinit⟩

/-- A completion of another generation changes nothing. -/
theorem dispatch_of_foreign (hcompletion : event.delivery = .completion)
    (hgeneration : event.sourceGeneration ≠ 0)
    (hforeign : event.sourceGeneration ≠ manager.modeGeneration) :
    (manager.dispatch event guards).1 ≠ .transitionCommitted ∧
      (manager.dispatch event guards).2 = manager := by
  rcases manager.dispatch_cases event guards with
    hnothing | ⟨entry, hentry, hfires, hdispatch⟩
  · exact hnothing
  · exfalso
    have hchanges : entry.nextMode ≠ entry.currentMode :=
      hfires.mode ▸ hfires.changes
    obtain ⟨hzero, hlow, hhigh⟩ := changingRows entry hentry hchanges
    have hid := hfires.event.resolve_left hzero
    have hsystem : event.isSystemEvent = true := by
      rw [AppEvent.isSystemEvent, ← hid]
      simp [hlow, hhigh]
    have hstale : manager.staleEvent event = true := by
      simp [staleEvent, hsystem, hcompletion, hgeneration, hforeign]
    rw [dispatch, if_pos hstale] at hdispatch
    cases (Prod.mk.inj hdispatch).1

/-! ## Runs -/

theorem dispatchAll_append (manager : SystemModeManager)
    (before after : List (AppEvent × ModeGuardContext)) :
    manager.dispatchAll (before ++ after) =
      (manager.dispatchAll before).dispatchAll after :=
  List.foldl_append

/-- A run that ends outside `ERROR` has left it with authority. -/
theorem leavesError_of_run (herror : manager.currentMode = .error)
    (calls : List (AppEvent × ModeGuardContext))
    (hleft : (manager.dispatchAll calls).currentMode ≠ .error) :
    ∃ earlier event guards later, calls = earlier ++ (event, guards) :: later ∧
      (manager.dispatchAll earlier).LeavesError event guards := by
  induction calls generalizing manager with
  | nil => exact absurd herror hleft
  | cons call calls ih =>
      rcases dispatch_of_error herror call.1 call.2 with hstays | hleaves
      · obtain ⟨earlier, event, guards, later, hcalls, hleaves⟩ := ih hstays hleft
        exact ⟨call :: earlier, event, guards, later, by rw [hcalls]; rfl, hleaves⟩
      · exact ⟨[], call.1, call.2, calls, rfl, hleaves⟩

/-- Between a visit of `ERROR` and a later visit of an operating mode there is a
recovery or a reinitialization with authority, and no completion of another
generation ever causes a transition. -/
theorem error_left_with_authority :
    (∀ before between, (init.dispatchAll before).currentMode = .error →
      Operating (init.dispatchAll (before ++ between)).currentMode →
      ∃ earlier event guards later,
        between = earlier ++ (event, guards) :: later ∧
        (init.dispatchAll (before ++ earlier)).LeavesError event guards) ∧
    (∀ calls event guards, event.delivery = .completion →
      event.sourceGeneration ≠ 0 →
      event.sourceGeneration ≠ (init.dispatchAll calls).modeGeneration →
      ((init.dispatchAll calls).dispatch event guards).1 ≠ .transitionCommitted ∧
        ((init.dispatchAll calls).dispatch event guards).2 =
          init.dispatchAll calls) := by
  constructor
  · intro before between herror hoperating
    rw [dispatchAll_append] at hoperating
    have hleft : ((init.dispatchAll before).dispatchAll between).currentMode ≠
        .error := by
      intro hstays
      rw [hstays] at hoperating
      rcases hoperating with hmode | hmode | hmode <;> cases hmode
    obtain ⟨earlier, event, guards, later, hbetween, hleaves⟩ :=
      leavesError_of_run herror between hleft
    rw [← dispatchAll_append] at hleaves
    exact ⟨earlier, event, guards, later, hbetween, hleaves⟩
  · intro calls event guards hcompletion hgeneration hforeign
    exact dispatch_of_foreign hcompletion hgeneration hforeign

/-! ## A recovery -/

def recoveryGuards : ModeGuardContext :=
  { ModeGuardContext.cleared with recoveryCanRun := true, returnNormal := true }

def failedStart : List (AppEvent × ModeGuardContext) :=
  [({ AppEvent.cleared with id := .criticalInitFailure }, .cleared)]

def recovery : List (AppEvent × ModeGuardContext) :=
  [({ AppEvent.cleared with id := .authorizedRecoveryRequest }, recoveryGuards),
    ({ AppEvent.cleared with id := .recoverySucceeded }, recoveryGuards)]

theorem error_left_with_authority_recovery :
    (init.dispatchAll failedStart).currentMode = .error ∧
      (init.dispatchAll (failedStart ++ recovery)).currentMode = .normal ∧
      ∃ earlier event guards later,
        recovery = earlier ++ (event, guards) :: later ∧
        (init.dispatchAll (failedStart ++ earlier)).LeavesError event guards :=
  ⟨by decide, by decide,
    error_left_with_authority.1 failedStart recovery (by decide)
      (.inl (by decide))⟩

end Swfpm.SystemModeManager
