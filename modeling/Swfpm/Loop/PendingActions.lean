import Swfpm.Loop.EventLoop

/-!
# The actions that transitions request

A committed transition owes its actions until the executor reports them
complete.  The machine keeps one mask and overwrites it at each transition, so
what was pending there is dropped unless the new transition asks for it too.
-/

namespace Swfpm

/-! ## Masks -/

/-- Every bit of the first mask is one of the second. -/
def Within (first second : UInt32) : Prop := first &&& ~~~second = 0

instance (first second : UInt32) : Decidable (Within first second) :=
  inferInstanceAs (Decidable (_ = _))

theorem within_iff {first second : UInt32} :
    Within first second ↔ ∀ i, first.toBitVec.getLsbD i = true →
      second.toBitVec.getLsbD i = true := by
  have hbits : Within first second ↔
      ∀ i < 32, (first.toBitVec &&& ~~~second.toBitVec).getLsbD i = false := by
    rw [Within, ← UInt32.toBitVec_inj]
    constructor
    · intro heq i _
      rw [← UInt32.toBitVec_not, ← UInt32.toBitVec_and, heq]
      simp
    · intro hzero
      apply BitVec.eq_of_getLsbD_eq
      intro i hi
      rw [UInt32.toBitVec_and, UInt32.toBitVec_not, hzero i hi]
      simp
  rw [hbits]
  constructor
  · intro hzero i hset
    have hi : i < 32 := BitVec.lt_of_getLsbD hset
    have hbit := hzero i hi
    simp only [BitVec.getLsbD_and, BitVec.getLsbD_not, hset, hi] at hbit
    simpa using hbit
  · intro hwithin i hi
    simp only [BitVec.getLsbD_and, BitVec.getLsbD_not, hi]
    have hset := hwithin i
    cases hfirst : first.toBitVec.getLsbD i <;> simp_all

theorem Within.refl (mask : UInt32) : Within mask mask :=
  within_iff.mpr fun _ hset => hset

theorem Within.trans {first second third : UInt32}
    (hfirst : Within first second) (hsecond : Within second third) :
    Within first third :=
  within_iff.mpr fun i hset =>
    within_iff.mp hsecond i (within_iff.mp hfirst i hset)

theorem or_within_iff {first second third : UInt32} :
    Within (first ||| second) third ↔ Within first third ∧ Within second third := by
  simp only [within_iff, UInt32.toBitVec_or, BitVec.getLsbD_or, Bool.or_eq_true]
  grind

theorem or_eq_of_within {first second : UInt32} (hwithin : Within first second) :
    first ||| second = second := by
  rw [← UInt32.toBitVec_inj]
  apply BitVec.eq_of_getLsbD_eq
  intro i _
  have hset := within_iff.mp hwithin i
  rw [UInt32.toBitVec_or, BitVec.getLsbD_or]
  cases hfirst : first.toBitVec.getLsbD i <;> simp_all

theorem Within.and_right {first second : UInt32} (hwithin : Within first second)
    (mask : UInt32) : Within (first &&& mask) (second &&& mask) := by
  rw [within_iff] at hwithin ⊢
  intro i hset
  rw [UInt32.toBitVec_and, BitVec.getLsbD_and, Bool.and_eq_true] at hset ⊢
  exact ⟨hwithin i hset.1, hset.2⟩

/-! ## The trace -/

/-- The actions owed after the record. -/
def owedAfter (owed : UInt32) : LoopRecord → UInt32
  | .transition _ _ actions _ => owed ||| actions
  | .completed actions _ => owed &&& ~~~actions
  | _ => owed

/-- The actions of committed transitions that are not reported complete. -/
def owedActions (trace : List LoopRecord) : UInt32 := trace.foldl owedAfter 0

/-- The machine's mask after the record, if the record changes it. -/
def LoopRecord.mask : LoopRecord → Option UInt32
  | .transition _ _ _ pending => some pending
  | .completed _ pending => some pending
  | _ => none

/-- The machine's mask after the trace. -/
def pendingMask (trace : List LoopRecord) : UInt32 :=
  trace.foldl (fun mask record => record.mask.getD mask) 0

/-- What is owed is pending, after each record of the trace. -/
def KeepsActions (trace : List LoopRecord) : Prop :=
  ∀ before, before <+: trace → Within (owedActions before) (pendingMask before)

/-- Each committed transition finds no action pending outside its own mask. -/
def AsksForPending (trace : List LoopRecord) : Prop :=
  ∀ before previous next actions pending,
    before ++ [.transition previous next actions pending] <+: trace →
      Within (pendingMask before) actions

theorem owedActions_append (trace : List LoopRecord) (record : LoopRecord) :
    owedActions (trace ++ [record]) = owedAfter (owedActions trace) record := by
  rw [owedActions, List.foldl_append]
  rfl

theorem pendingMask_append (trace : List LoopRecord) (record : LoopRecord) :
    pendingMask (trace ++ [record]) = record.mask.getD (pendingMask trace) := by
  rw [pendingMask, List.foldl_append]
  rfl

/-- The traces that the loop can make: a transition fires a row of the table and
sets the mask to the row's actions, and a completion clears its actions. -/
inductive TraceSound : List LoopRecord → Prop where
  | nil : TraceSound []
  | scheduled {trace : List LoopRecord} (htrace : TraceSound trace)
      (job : SchedulerJob) : TraceSound (trace ++ [.scheduled job])
  | dispatched {trace : List LoopRecord} (htrace : TraceSound trace)
      (event : AppEvent) : TraceSound (trace ++ [.dispatched event])
  | transition {trace : List LoopRecord} (htrace : TraceSound trace)
      {entry : TransitionEntry} (hentry : entry ∈ transitionTable) :
      TraceSound (trace ++ [.transition entry.currentMode entry.nextMode
        entry.action entry.action])
  | completed {trace : List LoopRecord} (htrace : TraceSound trace)
      (actions : UInt32) :
      TraceSound (trace ++
        [.completed actions (pendingMask trace &&& ~~~actions)])

/-- A pending action is owed. -/
theorem TraceSound.pending_owed {trace : List LoopRecord}
    (htrace : TraceSound trace) :
    Within (pendingMask trace) (owedActions trace) := by
  induction htrace with
  | nil => exact Within.refl _
  | scheduled _ _ ih | dispatched _ _ ih =>
      rw [owedActions_append, pendingMask_append]
      exact ih
  | transition _ _ _ =>
      rw [owedActions_append, pendingMask_append]
      exact (or_within_iff.mp (Within.refl _)).2
  | completed _ actions ih =>
      rw [owedActions_append, pendingMask_append]
      exact ih.and_right _

/-- What the next record of a sound trace can be. -/
def RecordSound (trace : List LoopRecord) : LoopRecord → Prop
  | .transition previous next actions pending =>
      pending = actions ∧ ∃ entry ∈ transitionTable,
        previous = entry.currentMode ∧ next = entry.nextMode ∧
          actions = entry.action
  | .completed actions pending => pending = pendingMask trace &&& ~~~actions
  | _ => True

theorem TraceSound.of_append {trace : List LoopRecord} {record : LoopRecord}
    (htrace : TraceSound (trace ++ [record])) :
    TraceSound trace ∧ RecordSound trace record := by
  generalize hwhole : trace ++ [record] = whole at htrace
  cases htrace with
  | nil => simp at hwhole
  | scheduled hbefore _ | dispatched hbefore _ =>
      obtain ⟨rfl, hrecord⟩ := List.append_inj' hwhole rfl
      obtain rfl := List.singleton_inj.mp hrecord
      exact ⟨hbefore, trivial⟩
  | transition hbefore hentry =>
      obtain ⟨rfl, hrecord⟩ := List.append_inj' hwhole rfl
      obtain rfl := List.singleton_inj.mp hrecord
      exact ⟨hbefore, rfl, _, hentry, rfl, rfl, rfl⟩
  | completed hbefore actions =>
      obtain ⟨rfl, hrecord⟩ := List.append_inj' hwhole rfl
      obtain rfl := List.singleton_inj.mp hrecord
      exact ⟨hbefore, rfl⟩

theorem TraceSound.of_prefix {trace before : List LoopRecord}
    (htrace : TraceSound trace) (hbefore : before <+: trace) :
    TraceSound before := by
  obtain ⟨after, rfl⟩ := hbefore
  induction after using List.reverseRecOn with
  | nil => simpa using htrace
  | append_singleton after record ih =>
      rw [← List.append_assoc] at htrace
      exact ih htrace.of_append.1

/-- As long as each transition asks for what is pending, exactly the owed actions
are pending. -/
theorem AsksForPending.pending_eq {trace before : List LoopRecord}
    (htrace : TraceSound trace) (hasks : AsksForPending trace)
    (hbefore : before <+: trace) :
    owedActions before = pendingMask before := by
  induction before using List.reverseRecOn with
  | nil => rfl
  | append_singleton before record ih =>
      have hshorter := ih ((List.prefix_append _ _).trans hbefore)
      have hsound := (htrace.of_prefix hbefore).of_append.2
      rw [owedActions_append, pendingMask_append]
      cases record with
      | scheduled job | dispatched event => exact hshorter
      | transition previous next actions pending =>
          obtain ⟨rfl, -⟩ := hsound
          have hwithin := hasks before previous next pending pending hbefore
          rw [← hshorter] at hwithin
          exact or_eq_of_within hwithin
      | completed actions pending =>
          rw [owedAfter, hshorter]
          exact hsound.symm

/-- No action is lost on a trace exactly when each transition asks for what is
pending. -/
theorem TraceSound.keepsActions_iff {trace : List LoopRecord}
    (htrace : TraceSound trace) : KeepsActions trace ↔ AsksForPending trace := by
  constructor
  · intro hkeeps before previous next actions pending hearly
    have hsound := htrace.of_prefix hearly
    obtain ⟨rfl, -⟩ := hsound.of_append.2
    have hwithin := hkeeps _ hearly
    rw [owedActions_append, pendingMask_append] at hwithin
    exact hsound.of_append.1.pending_owed.trans (or_within_iff.mp hwithin).1
  · intro hasks before hearly
    rw [hasks.pending_eq htrace hearly]
    exact Within.refl _

/-- The rows into NORMAL do not ask for a reset. -/
theorem normal_actions {entry : TransitionEntry} (hentry : entry ∈ transitionTable)
    (hnext : entry.nextMode = .normal) :
    entry.action &&& FsmAction.requestReset = 0 := by
  revert entry
  decide

/-- As long as each transition asks for what is pending, no reset is owed when the
machine goes to NORMAL. -/
theorem AsksForPending.no_reset {trace before : List LoopRecord}
    (htrace : TraceSound trace) (hasks : AsksForPending trace)
    {previous : SystemMode} {actions pending : UInt32}
    (hearly : before ++ [.transition previous .normal actions pending] <+: trace) :
    owedActions before &&& FsmAction.requestReset = 0 := by
  have hbefore := (List.prefix_append before _).trans hearly
  obtain ⟨-, entry, hentry, -, hnext, rfl⟩ :=
    (htrace.of_prefix hearly).of_append.2
  have hwithin := (hasks _ _ _ _ _ hearly).and_right FsmAction.requestReset
  rw [normal_actions hentry hnext.symm] at hwithin
  rw [hasks.pending_eq htrace hbefore]
  simpa [Within] using hwithin

/-! ## The loop -/

namespace AppEventLoop

/-- The trace is sound and ends in the machine's mask. -/
structure Traced (loop : AppEventLoop) : Prop where
  sound : TraceSound loop.trace
  mask : loop.world.fsm.pendingActions = pendingMask loop.trace

variable {turn : Turn} {loop : AppEventLoop}

theorem Traced.call (hloop : Traced loop) (request : LoopCall) :
    Traced (loop.call request) := by
  have hscheduled : ∀ job outcome, Traced (loop.scheduled job outcome) := by
    intro job outcome
    rw [AppEventLoop.scheduled]
    split_ifs
    · refine ⟨hloop.sound.scheduled job, ?_⟩
      rw [pendingMask_append]
      exact hloop.mask
    · exact ⟨hloop.sound, hloop.mask⟩
  cases request with
  | post event | postFromIsr event => exact ⟨hloop.sound, hloop.mask⟩
  | scheduleOneShot _ _ _ _ _ _ => exact hscheduled _ _
  | schedulePeriodic _ _ _ _ _ _ _ _ _ => exact hscheduled _ _
  | publishGuards evidence | bindAction action =>
      exact ⟨hloop.sound, hloop.mask⟩

theorem Traced.calls (hloop : Traced loop) (made : List LoopCall) :
    Traced (loop.calls made) :=
  calls_keep (fun _ request hloop => hloop.call request) hloop made

theorem Traced.dispatchEvent (hloop : Traced loop) (number : ℕ)
    (event : AppEvent) : Traced (dispatchEvent turn number event loop) := by
  have hdispatched : TraceSound (loop.trace ++ [.dispatched event]) :=
    hloop.sound.dispatched event
  have hmask : pendingMask (loop.trace ++ [.dispatched event]) =
      loop.world.fsm.pendingActions := by
    rw [pendingMask_append]
    exact hloop.mask.symm
  have hworld : Traced { loop with
      world := (loop.world.dispatchToOwnerGuarded event loop.mediator
        loop.world.guardProvider).world
      trace := loop.trace ++ LoopRecord.dispatched event ::
        transitionRecord loop.world.fsm
          (loop.world.dispatchToOwnerGuarded event loop.mediator
            loop.world.guardProvider) } := by
    obtain ⟨hresult, hfsm⟩ | ⟨entry, hentry, hresult, hmode, hfsm⟩ :=
      dispatchToOwnerGuarded_fsm loop.world event loop.mediator
        loop.world.guardProvider
    · rw [transitionRecord, if_neg hresult]
      exact ⟨hdispatched, (congrArg _ hfsm).trans hmask.symm⟩
    · rw [transitionRecord, if_pos hresult]
      have htransition := hdispatched.transition hentry
      rw [List.append_assoc] at htransition
      constructor
      · dsimp only
        rw [hfsm]
        rw [hmode] at htransition
        exact htransition
      · dsimp only
        rw [hfsm, List.append_cons, pendingMask_append]
        rfl
  rw [AppEventLoop.dispatchEvent]
  split_ifs
  · exact ⟨(hworld.calls _).sound, (hworld.calls _).mask⟩
  · exact hworld.calls _

theorem Traced.executeActions (hloop : Traced loop) (steps : ℕ) :
    Traced (executeActions turn steps loop) := by
  rw [AppEventLoop.executeActions]
  dsimp only
  split_ifs
  · apply Traced.calls
    have hcompleted := hloop.sound.completed (loop.actionExecutor.run
      loop.world.fsm.pendingActions (loop.budget.maxServiceSteps.toNat - steps)
      turn.answer).2
    rw [← hloop.mask] at hcompleted
    refine ⟨hcompleted, ?_⟩
    rw [pendingMask_append]
    rfl
  · exact hloop

theorem Traced.runOnce (hloop : Traced loop) (turn : Turn) :
    Traced (loop.runOnce turn) := by
  refine runOnce_keeps (fun _ => Traced) ?_ ?_ ?_ ?_ ?_ ?_ hloop
    fun _ => dueMeets_true _ _
  · exact fun _ _ request hloop => hloop.call request
  · exact fun loop hloop => ⟨hloop.sound, hloop.mask⟩
  · exact fun loop event due _ hloop => ⟨hloop.sound, hloop.mask⟩
  · intro loop number event queue processed hloop _
    have htaken : Traced { loop with queue } := ⟨hloop.sound, hloop.mask⟩
    have hevent : Traced (AppEventLoop.dispatchEvent turn number event
      { loop with queue }) := htaken.dispatchEvent number event
    exact ⟨hevent.sound, hevent.mask⟩
  · exact fun loop steps hloop => hloop.executeActions steps
  · exact fun loop _ hloop => ⟨hloop.sound, hloop.mask⟩

theorem Traced.runFrom (hloop : Traced loop) (inputs : List LoopInput) :
    Traced (loop.runFrom inputs) := by
  induction inputs generalizing loop with
  | nil => exact hloop
  | cons received inputs ih =>
      cases received with
      | call request => exact ih (hloop.call request)
      | turn turn => exact ih (hloop.runOnce turn)

/-- In a run from the start, with any budget, the trace has the machine's mask;
the actions of the committed transitions stay pending until they are complete
exactly when each transition asks for everything that is pending; and then the
machine goes to NORMAL with no reset owed. -/
theorem actions_kept_iff (queue : AppEventQueue) (repo : DataRepository)
    (scheduler : Scheduler) (budget : Option LoopBudgetConfig)
    (inputs : List LoopInput) :
    let loop := (init queue .init repo scheduler budget).runFrom inputs
    loop.world.fsm.pendingActions = pendingMask loop.trace ∧
      (KeepsActions loop.trace ↔ AsksForPending loop.trace) ∧
      (AsksForPending loop.trace → ∀ before previous actions pending,
        before ++ [.transition previous .normal actions pending] <+: loop.trace →
          owedActions before &&& FsmAction.requestReset = 0) := by
  intro loop
  have hstart : Traced (init queue .init repo scheduler budget) := ⟨.nil, rfl⟩
  have hloop : Traced loop := hstart.runFrom inputs
  refine ⟨hloop.mask, hloop.sound.keepsActions_iff, ?_⟩
  intro hasks before previous actions pending hearly
  exact hasks.no_reset hloop.sound hearly

/-- A critical system event. -/
def systemEvent (id : EventId) : AppEvent := { AppEvent.cleared with id }

/-- Three events of one turn take the machine from ERROR through INIT to NORMAL;
the reset that the second transition asks for is never executed. -/
theorem reset_skipped :
    let loop := (init (AppEventQueue.init none) .init .init Scheduler.init
      none).runFrom
      [.call (.post (some (systemEvent .criticalInitFailure))),
        .turn quietTurn,
        .call (.post (some (systemEvent EventId.controlledReinitialize))),
        .call (.post (some (systemEvent .initCompleted))),
        .turn quietTurn, .turn quietTurn]
    loop.world.fsm.currentMode = .normal ∧
      (∀ record ∈ loop.trace, ∀ actions pending,
        record = .completed actions pending →
          actions &&& FsmAction.requestReset = 0) ∧
      ¬ KeepsActions loop.trace := by
  intro loop
  have htrace : loop.trace =
      [.dispatched (systemEvent .criticalInitFailure),
        .transition .init .error FsmAction.enterError FsmAction.enterError,
        .completed 0 FsmAction.enterError,
        .dispatched (systemEvent EventId.controlledReinitialize),
        .transition .error .init FsmAction.requestReset FsmAction.requestReset,
        .dispatched (systemEvent .initCompleted),
        .transition .init .normal FsmAction.startNormal FsmAction.startNormal,
        .completed 0 FsmAction.startNormal,
        .completed 0 FsmAction.startNormal] := by
    decide +kernel
  refine ⟨by decide +kernel, ?_, ?_⟩
  · intro record hmem actions pending hrecord
    rw [htrace] at hmem
    subst hrecord
    simp at hmem
    obtain ⟨rfl, -⟩ | ⟨rfl, -⟩ := hmem <;> decide
  · intro hkeeps
    have hwithin := hkeeps loop.trace (List.prefix_refl _)
    rw [htrace] at hwithin
    revert hwithin
    decide

end AppEventLoop
end Swfpm
