import Swfpm.Support.BinaryHeap

/-!
# The scheduled-action queue of the simulation

Embedding of `platform/include/linux_scheduled_action_queue.h` and
`platform/linux/linux_scheduled_action_queue.c`.  The entries in use are an
array, whose size is the source's `count`; the payload bytes, which nothing
reads, are left out.
-/

namespace Swfpm

open BinaryHeap

inductive ActionClass where
  | spiCompletion
  | i2cCompletion
  | gpioEvidence
  | rtcAlarm
  | wake
  | reset
  | user0
  | user1
  deriving DecidableEq, Repr

/-- The enumerator's number. -/
def ActionClass.value : ActionClass → ℕ
  | spiCompletion => 0
  | i2cCompletion => 1
  | gpioEvidence => 2
  | rtcAlarm => 3
  | wake => 4
  | reset => 5
  | user0 => 6
  | user1 => 7

theorem ActionClass.value_injective : Function.Injective ActionClass.value := by
  intro first second hvalue
  cases first <;> cases second <;> first | rfl | simp [value] at hvalue

structure LinuxScheduledAction where
  /-- The absolute deadline. -/
  dueUs : UInt64
  actionClass : ActionClass
  resourceId : UInt32
  resourceGeneration : UInt32
  sourceSequence : UInt32
  /-- The queue assigns it. -/
  insertionSequence : UInt64
  operationId : UInt32
  correlationId : UInt32
  ownerGeneration : UInt32
  detailFlags : UInt32
  deriving DecidableEq, Repr

/-- `action_lt`. -/
def actionLt (a b : LinuxScheduledAction) : Bool :=
  if a.dueUs ≠ b.dueUs then a.dueUs < b.dueUs
  else if a.actionClass ≠ b.actionClass then
    a.actionClass.value < b.actionClass.value
  else if a.resourceId ≠ b.resourceId then a.resourceId < b.resourceId
  else if a.resourceGeneration ≠ b.resourceGeneration then
    a.resourceGeneration < b.resourceGeneration
  else if a.sourceSequence ≠ b.sourceSequence then
    a.sourceSequence < b.sourceSequence
  else a.insertionSequence < b.insertionSequence

/-- `ACTION_QUEUE_MAX_CAPACITY`. -/
abbrev actionQueueMaxCapacity : ℕ := 64

structure LinuxScheduledActionQueue where
  actions : Array LinuxScheduledAction
  count_le : actions.size ≤ actionQueueMaxCapacity
  nextInsertionSeq : UInt64
  totalDispatched : UInt64
  overflowCount : UInt32
  cancelCount : UInt32
  staleCancelCount : UInt32

/-! ## The total order -/

/-- The fields in the order that `action_lt` compares them. -/
abbrev ActionKey : Type := ℕ ×ₗ ℕ ×ₗ ℕ ×ₗ ℕ ×ₗ ℕ ×ₗ ℕ

def actionKey (action : LinuxScheduledAction) : ActionKey :=
  toLex (action.dueUs.toNat, toLex (action.actionClass.value,
    toLex (action.resourceId.toNat, toLex (action.resourceGeneration.toNat,
      toLex (action.sourceSequence.toNat, action.insertionSequence.toNat)))))

/-- One comparison of the chain. -/
theorem lex_lt_iff {β : Type*} [LinearOrder β] (first second : ℕ)
    (rest other : β) :
    toLex (first, rest) < toLex (second, other) ↔
      if first ≠ second then first < second else rest < other := by
  rw [Prod.Lex.toLex_lt_toLex]
  by_cases hsame : first = second
  · simp [hsame]
  · simp [hsame]

theorem actionLt_iff (a b : LinuxScheduledAction) :
    actionLt a b = true ↔ actionKey a < actionKey b := by
  simp only [actionLt, actionKey, lex_lt_iff, ne_eq, UInt64.toNat_inj,
    UInt32.toNat_inj, ActionClass.value_injective.eq_iff, UInt64.lt_iff_toNat_lt,
    UInt32.lt_iff_toNat_lt]
  split_ifs <;> simp

namespace LinuxScheduledActionQueue

/-! ## The operations -/

def init : LinuxScheduledActionQueue :=
  { actions := #[], count_le := by simp, nextInsertionSeq := 0
    totalDispatched := 0, overflowCount := 0, cancelCount := 0
    staleCancelCount := 0 }

/-- The entry that `schedule` stores. -/
def stamped (queue : LinuxScheduledActionQueue)
    (action : LinuxScheduledAction) : LinuxScheduledAction :=
  { action with insertionSequence := queue.nextInsertionSeq }

def schedule (queue : LinuxScheduledActionQueue)
    (action : LinuxScheduledAction) : Bool × LinuxScheduledActionQueue :=
  if hfull : queue.actions.size ≥ actionQueueMaxCapacity then
    (false, { queue with overflowCount := queue.overflowCount + 1 })
  else
    (true, { queue with
      actions := siftUp actionLt (queue.actions.push (queue.stamped action))
        queue.actions.size
      count_le := by
        rw [size_siftUp, Array.size_push]
        omega
      nextInsertionSeq := queue.nextInsertionSeq + 1 })

/-- The first entry of the operation. -/
def findOperation (queue : LinuxScheduledActionQueue) (operationId : UInt32) :
    Option ℕ :=
  queue.actions.findIdx? fun action => action.operationId = operationId

theorem size_removeAt_le (queue : LinuxScheduledActionQueue) (idx : ℕ) :
    (removeAt actionLt queue.actions idx).size ≤ actionQueueMaxCapacity := by
  exact (size_removeAt_le_size actionLt queue.actions idx).trans queue.count_le

def cancel (queue : LinuxScheduledActionQueue)
    (operationId expectedGeneration : UInt32) :
    Bool × LinuxScheduledActionQueue :=
  match queue.findOperation operationId with
  | none => (false, queue)
  | some idx =>
      match queue.actions[idx]? with
      | none => (false, queue)
      | some action =>
          if action.ownerGeneration ≠ expectedGeneration then
            (false, { queue with staleCancelCount := queue.staleCancelCount + 1 })
          else
            -- the last entry takes the place and only ever moves down
            (true, { queue with
              cancelCount := queue.cancelCount + 1
              actions := removeAt actionLt queue.actions idx
              count_le := size_removeAt_le queue idx })

def isDue (nowUs : UInt64) (action : LinuxScheduledAction) : Bool :=
  action.dueUs ≤ nowUs

def dispatchDue (queue : LinuxScheduledActionQueue) (nowUs : UInt64)
    (maxOut : UInt16) :
    List LinuxScheduledAction × LinuxScheduledActionQueue :=
  let drained := drain actionLt (isDue nowUs) maxOut.toNat queue.actions
  (drained.1, { queue with
    actions := drained.2
    count_le := (size_drain_le actionLt (isDue nowUs) _ _).trans queue.count_le
    totalDispatched := queue.totalDispatched + drained.1.length.toUInt64 })

def nextDeadline (queue : LinuxScheduledActionQueue) : Option UInt64 :=
  queue.actions[0]?.map LinuxScheduledAction.dueUs

/-! ## One operation -/

variable {queue : LinuxScheduledActionQueue}

/-- The entries are a heap in the order of `action_lt`. -/
def InOrder (queue : LinuxScheduledActionQueue) : Prop :=
  Heap actionKey queue.actions

theorem init_inOrder : init.InOrder := by
  intro child _
  rw [keysOf_of_size_le _ child (by simp [init])]
  exact le_top

theorem schedule_inOrder (hqueue : queue.InOrder)
    (action : LinuxScheduledAction) : (queue.schedule action).2.InOrder := by
  by_cases hfull : queue.actions.size ≥ actionQueueMaxCapacity
  · rw [schedule, dif_pos hfull]
    exact hqueue
  · rw [schedule, dif_neg hfull]
    exact push_siftUp_heap actionLt_iff hqueue _

theorem schedule_perm (action : LinuxScheduledAction)
    (haccepted : (queue.schedule action).1 = true) :
    (queue.schedule action).2.actions.toList.Perm
      (queue.stamped action :: queue.actions.toList) := by
  by_cases hfull : queue.actions.size ≥ actionQueueMaxCapacity
  · rw [schedule, dif_pos hfull] at haccepted
    exact absurd haccepted (by simp)
  · rw [schedule, dif_neg hfull]
    refine (siftUp_perm _ _ _).trans ?_
    rw [Array.toList_push]
    exact List.perm_append_singleton _ _

theorem schedule_rejected (action : LinuxScheduledAction)
    (hrejected : (queue.schedule action).1 = false) :
    (queue.schedule action).2.actions = queue.actions := by
  by_cases hfull : queue.actions.size ≥ actionQueueMaxCapacity
  · rw [schedule, dif_pos hfull]
  · rw [schedule, dif_neg hfull] at hrejected
    exact absurd hrejected (by simp)

/-- The place and the entry that a cancel takes out. -/
def cancelled (queue : LinuxScheduledActionQueue)
    (operationId expectedGeneration : UInt32) :
    Option (ℕ × LinuxScheduledAction) :=
  match queue.findOperation operationId with
  | none => none
  | some idx =>
      match queue.actions[idx]? with
      | none => none
      | some action =>
          if action.ownerGeneration ≠ expectedGeneration then none
          else some (idx, action)

/-- What a cancel does. -/
theorem cancel_cases (queue : LinuxScheduledActionQueue)
    (operationId expectedGeneration : UInt32) :
    (queue.cancelled operationId expectedGeneration = none ∧
        (queue.cancel operationId expectedGeneration).1 = false ∧
        (queue.cancel operationId expectedGeneration).2.actions =
          queue.actions) ∨
      ∃ idx action,
        queue.cancelled operationId expectedGeneration = some (idx, action) ∧
        queue.actions[idx]? = some action ∧
        action.operationId = operationId ∧
        action.ownerGeneration = expectedGeneration ∧
        (queue.cancel operationId expectedGeneration).1 = true ∧
        (queue.cancel operationId expectedGeneration).2.actions =
          removeAt actionLt queue.actions idx := by
  simp only [cancelled, cancel]
  rcases hfind : queue.findOperation operationId with _ | idx
  · exact Or.inl ⟨rfl, rfl, rfl⟩
  dsimp only
  rcases haction : queue.actions[idx]? with _ | action
  · exact Or.inl ⟨rfl, rfl, rfl⟩
  dsimp only
  by_cases hstale : action.ownerGeneration ≠ expectedGeneration
  · rw [if_pos hstale, if_pos hstale]
    exact Or.inl ⟨rfl, rfl, rfl⟩
  · rw [if_neg hstale, if_neg hstale]
    have hoperation : action.operationId = operationId := by
      obtain ⟨hidx, hmatch, -⟩ := Array.findIdx?_eq_some_iff_getElem.mp hfind
      obtain ⟨_, hvalue⟩ := Array.getElem?_eq_some_iff.mp haction
      rw [hvalue] at hmatch
      simpa using hmatch
    exact Or.inr ⟨idx, action, rfl, haction, hoperation, not_not.mp hstale,
      rfl, rfl⟩

/-- The last entry, which a cancel moves into the free place, does not come
before the parent of that place. -/
def cancelKeeps (queue : LinuxScheduledActionQueue)
    (operationId expectedGeneration : UInt32) : Bool :=
  match queue.cancelled operationId expectedGeneration with
  | none => true
  | some (idx, _) =>
      idx + 1 = queue.actions.size || idx = 0 ||
        !precedes actionLt queue.actions (queue.actions.size - 1) (parent idx)

/-- A cancel keeps the order exactly when the entry that it moves does not come
before its new parent. -/
theorem cancel_inOrder_iff (hqueue : queue.InOrder)
    (operationId expectedGeneration : UInt32) :
    (queue.cancel operationId expectedGeneration).2.InOrder ↔
      queue.cancelKeeps operationId expectedGeneration = true := by
  rcases cancel_cases queue operationId expectedGeneration with
    ⟨hnone, -, hactions⟩ | ⟨idx, action, hsome, haction, -, -, -, hactions⟩
  · rw [InOrder, hactions, cancelKeeps, hnone]
    exact iff_of_true hqueue rfl
  · obtain ⟨hidx, -⟩ := Array.getElem?_eq_some_iff.mp haction
    obtain ⟨last, hlast, hlastAt⟩ := back?_eq_some (Nat.zero_lt_of_lt hidx)
    have habove : 0 < idx →
        (keysOf actionKey queue.actions (parent idx) ≤
            (actionKey last : WithTop ActionKey) ↔
          precedes actionLt queue.actions (queue.actions.size - 1) (parent idx) =
            false) := by
      intro hpos
      rw [← Bool.not_eq_true,
        precedes_iff actionLt_iff _ ((parent_lt hpos).trans hidx),
        keysOf_of_getElem? hlastAt, not_lt]
    rw [InOrder, hactions, removeAt_heap_iff actionLt_iff hqueue hidx hlast,
      cancelKeeps, hsome]
    rcases Nat.eq_zero_or_pos idx with hzero | hpos
    · simp [hzero]
    · have hparent := habove hpos
      simp only [hpos, forall_const, hparent, hpos.ne', decide_false,
        Bool.or_false, Bool.or_eq_true, decide_eq_true_eq, Bool.not_eq_true']

theorem isDue_of_le {nowUs : UInt64} (entry later : LinuxScheduledAction)
    (hle : actionKey entry ≤ actionKey later)
    (hlater : isDue nowUs later = true) : isDue nowUs entry = true := by
  have hfirst : entry.dueUs.toNat ≤ later.dueUs.toNat := by
    rcases (Prod.Lex.toLex_le_toLex).mp hle with hless | ⟨hsame, -⟩
    · exact hless.le
    · exact hsame.le
  simp only [isDue, decide_eq_true_eq, UInt64.le_iff_toNat_le] at hlater ⊢
  exact hfirst.trans hlater

theorem dispatchDue_drained (hqueue : queue.InOrder) (nowUs : UInt64)
    (maxOut : UInt16) :
    Drained (isDue nowUs) actionKey maxOut.toNat queue.actions
      (queue.dispatchDue nowUs maxOut).1
      (queue.dispatchDue nowUs maxOut).2.actions :=
  drain_drained actionLt_iff isDue_of_le _ hqueue

end LinuxScheduledActionQueue

/-! ## Runs -/

inductive ActionCall where
  | schedule (action : LinuxScheduledAction)
  | cancel (operationId expectedGeneration : UInt32)
  | dispatchDue (nowUs : UInt64) (maxOut : UInt16)
  deriving DecidableEq, Repr

/-- The queue with what went through it. -/
structure ActionRun where
  queue : LinuxScheduledActionQueue
  /-- The entries that the queue took in. -/
  accepted : List LinuxScheduledAction
  /-- The entries that it handed out, with the time of the dispatch. -/
  dispatched : List (LinuxScheduledAction × UInt64)
  /-- The entries that a cancel took out. -/
  withdrawn : List LinuxScheduledAction

namespace ActionRun

open LinuxScheduledActionQueue

def init : ActionRun := ⟨.init, [], [], []⟩

def call (run : ActionRun) : ActionCall → ActionRun
  | .schedule action =>
      let (taken, queue) := run.queue.schedule action
      { run with
        queue
        accepted :=
          if taken then run.accepted ++ [run.queue.stamped action]
          else run.accepted }
  | .cancel operationId expectedGeneration =>
      { run with
        queue := (run.queue.cancel operationId expectedGeneration).2
        withdrawn := run.withdrawn ++
          ((run.queue.cancelled operationId expectedGeneration).map
            Prod.snd).toList }
  | .dispatchDue nowUs maxOut =>
      let (out, queue) := run.queue.dispatchDue nowUs maxOut
      { run with
        queue
        dispatched := run.dispatched ++ out.map fun action => (action, nowUs) }

def calls (run : ActionRun) (made : List ActionCall) : ActionRun :=
  made.foldl call run

/-- The entries that the run accounts for. -/
def held (run : ActionRun) : List LinuxScheduledAction :=
  run.dispatched.map Prod.fst ++ run.withdrawn ++ run.queue.actions.toList

/-- What holds in every run. -/
structure Accounted (run : ActionRun) : Prop where
  /-- Each entry taken in is queued, handed out or withdrawn. -/
  kept : run.held.Perm run.accepted
  /-- The stamps number the entries taken in. -/
  stamps : run.accepted.map LinuxScheduledAction.insertionSequence =
    (List.range run.accepted.length).map Nat.toUInt64
  next : run.queue.nextInsertionSeq = run.accepted.length.toUInt64
  /-- No entry is handed out early. -/
  notEarly : ∀ record ∈ run.dispatched, record.1.dueUs ≤ record.2

theorem init_accounted : init.Accounted := by
  refine ⟨List.Perm.refl _, rfl, rfl, ?_⟩
  intro record hrecord
  simp [init] at hrecord

variable {run : ActionRun}

theorem schedule_accounted (hrun : run.Accounted)
    (action : LinuxScheduledAction) :
    (run.call (.schedule action)).Accounted := by
  by_cases hfull : run.queue.actions.size ≥ actionQueueMaxCapacity
  · have hrejected : (run.queue.schedule action).1 = false := by
      rw [LinuxScheduledActionQueue.schedule, dif_pos hfull]
    have hsame := schedule_rejected action hrejected
    have hnext : (run.queue.schedule action).2.nextInsertionSeq =
        run.queue.nextInsertionSeq := by
      rw [LinuxScheduledActionQueue.schedule, dif_pos hfull]
    refine ⟨?_, ?_, ?_, hrun.notEarly⟩
    · simpa [call, held, hrejected, hsame] using hrun.kept
    · simpa [call, hrejected] using hrun.stamps
    · simpa [call, hrejected, hnext] using hrun.next
  · have haccepted : (run.queue.schedule action).1 = true := by
      rw [LinuxScheduledActionQueue.schedule, dif_neg hfull]
    have hnext : (run.queue.schedule action).2.nextInsertionSeq =
        run.queue.nextInsertionSeq + 1 := by
      rw [LinuxScheduledActionQueue.schedule, dif_neg hfull]
    refine ⟨?_, ?_, ?_, hrun.notEarly⟩
    · have hperm := schedule_perm action haccepted
      simp only [call, held, haccepted, if_true]
      refine (hperm.append_left _).trans ?_
      refine List.perm_middle.trans ?_
      refine (hrun.kept.cons _).trans ?_
      exact (List.perm_append_singleton _ _).symm
    · simp only [call, haccepted, if_true, List.map_append, List.length_append,
        List.length_singleton, List.range_succ, hrun.stamps]
      simp [stamped, hrun.next]
    · simp only [call, haccepted, if_true, List.length_append,
        List.length_singleton, hnext, hrun.next]
      simp

theorem cancel_accounted (hrun : run.Accounted)
    (operationId expectedGeneration : UInt32) :
    (run.call (.cancel operationId expectedGeneration)).Accounted := by
  have hnext : (run.queue.cancel operationId
      expectedGeneration).2.nextInsertionSeq = run.queue.nextInsertionSeq := by
    rw [LinuxScheduledActionQueue.cancel]
    split
    · rfl
    · split
      · rfl
      · split_ifs <;> rfl
  refine ⟨?_, hrun.stamps, hnext.trans hrun.next, hrun.notEarly⟩
  rcases cancel_cases run.queue operationId expectedGeneration with
    ⟨hnone, -, hactions⟩ | ⟨idx, action, hsome, haction, -, -, -, hactions⟩
  · simpa [call, held, hnone, hactions] using hrun.kept
  · have hperm := removeAt_perm actionLt haction
    have hmoved : (run.call (.cancel operationId expectedGeneration)).held.Perm
        run.held := by
      simp only [call, held, hsome, hactions, Option.map_some,
        Option.toList_some, List.append_assoc, List.singleton_append]
      exact (hperm.append_left _).append_left _
    exact hmoved.trans hrun.kept

theorem dispatchDue_accounted (hrun : run.Accounted) (nowUs : UInt64)
    (maxOut : UInt16) : (run.call (.dispatchDue nowUs maxOut)).Accounted := by
  have hperm := drain_perm actionLt (isDue nowUs) maxOut.toNat
    run.queue.actions
  refine ⟨?_, hrun.stamps, hrun.next, ?_⟩
  · refine List.Perm.trans ?_ hrun.kept
    simp only [call, held, LinuxScheduledActionQueue.dispatchDue,
      List.map_append, List.map_map, List.append_assoc]
    refine List.Perm.append_left _ ?_
    have hout : ∀ out : List LinuxScheduledAction,
        out.map (Prod.fst ∘ fun action => (action, nowUs)) = out := by
      intro out
      simp [Function.comp_def]
    rw [hout]
    exact (List.perm_append_comm_assoc _ _ _).trans (hperm.append_left _)
  · intro record hrecord
    rcases List.mem_append.mp hrecord with hold | hnew
    · exact hrun.notEarly record hold
    · obtain ⟨action, haction, rfl⟩ := List.mem_map.mp hnew
      have hdue := due_of_mem_drain actionLt (isDue nowUs) _ _ action haction
      simpa [isDue] using hdue

theorem call_accounted (hrun : run.Accounted) (made : ActionCall) :
    (run.call made).Accounted := by
  cases made with
  | schedule action => exact schedule_accounted hrun action
  | cancel operationId expectedGeneration =>
      exact cancel_accounted hrun operationId expectedGeneration
  | dispatchDue nowUs maxOut => exact dispatchDue_accounted hrun nowUs maxOut

theorem calls_accounted (hrun : run.Accounted) (made : List ActionCall) :
    (run.calls made).Accounted := by
  induction made generalizing run with
  | nil => exact hrun
  | cons first rest ih => exact ih (call_accounted hrun first)

/-- A run hands out no entry twice, none early, and loses none. -/
theorem accounts (made : List ActionCall)
    (hstamps : (init.calls made).accepted.length < 2 ^ 64) :
    (init.calls made).held.Perm (init.calls made).accepted ∧
      (init.calls made).held.Nodup ∧
      ∀ record ∈ (init.calls made).dispatched, record.1.dueUs ≤ record.2 := by
  have hrun := calls_accounted init_accounted made
  refine ⟨hrun.kept, ?_, hrun.notEarly⟩
  rw [hrun.kept.nodup_iff]
  apply List.Nodup.of_map LinuxScheduledAction.insertionSequence
  rw [hrun.stamps]
  apply List.Nodup.map_on _ List.nodup_range
  intro first hfirst second hsecond hsame
  rw [List.mem_range] at hfirst hsecond
  have hvalue := congrArg UInt64.toNat hsame
  rw [UInt64.toNat_ofNat', UInt64.toNat_ofNat',
    Nat.mod_eq_of_lt (hfirst.trans hstamps),
    Nat.mod_eq_of_lt (hsecond.trans hstamps)] at hvalue
  exact hvalue

/-! ### Runs whose cancels keep the order -/

/-- The call keeps the order. -/
def callKeeps (run : ActionRun) : ActionCall → Bool
  | .cancel operationId expectedGeneration =>
      run.queue.cancelKeeps operationId expectedGeneration
  | _ => true

/-- Each cancel of the run keeps the order. -/
def cancelsKeep (run : ActionRun) : List ActionCall → Bool
  | [] => true
  | made :: rest => run.callKeeps made && cancelsKeep (run.call made) rest

theorem call_inOrder_iff (hrun : run.queue.InOrder) (made : ActionCall) :
    (run.call made).queue.InOrder ↔ run.callKeeps made = true := by
  cases made with
  | schedule action => exact iff_of_true (schedule_inOrder hrun action) rfl
  | cancel operationId expectedGeneration =>
      exact cancel_inOrder_iff hrun operationId expectedGeneration
  | dispatchDue nowUs maxOut =>
      exact iff_of_true (dispatchDue_drained hrun nowUs maxOut).isHeap rfl

theorem calls_inOrder (hrun : run.queue.InOrder) {made : List ActionCall}
    (hkeeps : run.cancelsKeep made = true) :
    (run.calls made).queue.InOrder := by
  induction made generalizing run with
  | nil => exact hrun
  | cons first rest ih =>
      rw [cancelsKeep, Bool.and_eq_true] at hkeeps
      exact ih ((call_inOrder_iff hrun first).mpr hkeeps.1) hkeeps.2

/-- The queue is in order all along a run exactly when no cancel of the run moves
an entry in below one that it comes before. -/
theorem inOrder_throughout_iff (made : List ActionCall) :
    (∀ count, (init.calls (made.take count)).queue.InOrder) ↔
      init.cancelsKeep made = true := by
  suffices hrun : ∀ run : ActionRun, run.queue.InOrder →
      ((∀ count, (run.calls (made.take count)).queue.InOrder) ↔
        run.cancelsKeep made = true) from hrun init init_inOrder
  intro run hrun
  induction made generalizing run with
  | nil => simpa [cancelsKeep, calls] using hrun
  | cons first rest ih =>
      rw [cancelsKeep, Bool.and_eq_true, ← call_inOrder_iff hrun]
      constructor
      · intro hall
        have hfirst : (run.call first).queue.InOrder := by
          simpa [calls] using hall 1
        refine ⟨hfirst, (ih _ hfirst).mp ?_⟩
        intro count
        simpa [calls] using hall (count + 1)
      · rintro ⟨hfirst, hrest⟩ count
        cases count with
        | zero => exact hrun
        | succ count => exact (ih _ hfirst).mpr hrest count

theorem nextDeadline_eq {queue : LinuxScheduledActionQueue}
    (hqueue : queue.InOrder) {deadlineUs : UInt64}
    (hnext : queue.nextDeadline = some deadlineUs) :
    ∀ action ∈ queue.actions.toList, deadlineUs ≤ action.dueUs := by
  intro action haction
  obtain ⟨root, hroot, rfl⟩ := Option.map_eq_some_iff.mp hnext
  have hle := Heap.root_le hqueue hroot action haction
  rcases (Prod.Lex.toLex_le_toLex).mp hle with hless | ⟨hsame, -⟩
  · exact UInt64.le_iff_toNat_le.mpr hless.le
  · exact UInt64.le_iff_toNat_le.mpr hsame.le

/-- In every run whose cancels keep the order, a dispatch hands out the due
entries from the least on, as many as it may, and the next deadline is the
earliest. -/
theorem dispatch_in_order (made : List ActionCall)
    (hkeeps : init.cancelsKeep made = true) (nowUs : UInt64) (maxOut : UInt16) :
    let queue := (init.calls made).queue
    let dispatch := queue.dispatchDue nowUs maxOut
    dispatch.1.Pairwise (fun entry later => actionLt later entry = false) ∧
      (∀ entry ∈ dispatch.1, ∀ later ∈ dispatch.2.actions.toList,
        actionLt later entry = false) ∧
      dispatch.1.length =
        min maxOut.toNat (queue.actions.toList.countP (isDue nowUs)) ∧
      ∀ deadlineUs, queue.nextDeadline = some deadlineUs →
        ∀ action ∈ queue.actions.toList, deadlineUs ≤ action.dueUs := by
  have hqueue := calls_inOrder init_inOrder hkeeps
  have hdrained := dispatchDue_drained hqueue nowUs maxOut
  have hle : ∀ entry later, actionKey entry ≤ actionKey later →
      actionLt later entry = false := by
    intro entry later hle
    rw [← Bool.not_eq_true, actionLt_iff]
    exact not_lt_of_ge hle
  refine ⟨hdrained.sorted.imp (hle _ _), ?_, hdrained.length_eq, ?_⟩
  · intro entry hentry later hlater
    exact hle entry later (hdrained.first entry hentry later hlater)
  · intro deadlineUs hnext
    exact nextDeadline_eq hqueue hnext

/-- An action with its deadline and its operation. -/
def benchAction (dueUs : UInt64) (operationId : UInt32) :
    LinuxScheduledAction :=
  { dueUs, actionClass := .spiCompletion, resourceId := 0
    resourceGeneration := 1, sourceSequence := 0, insertionSequence := 0
    operationId, correlationId := 0, ownerGeneration := 0, detailFlags := 0 }

def benchCalls : List ActionCall :=
  [.schedule (benchAction 30 1), .schedule (benchAction 10 2),
    .schedule (benchAction 20 3), .cancel 1 0, .dispatchDue 10 4]

theorem accounts_bench : (init.calls benchCalls).held.Nodup ∧
    (init.calls benchCalls).accepted.length = 3 := by
  have hlength : (init.calls benchCalls).accepted.length = 3 := by
    decide +kernel
  exact ⟨(accounts benchCalls (by rw [hlength]; decide)).2.1, hlength⟩

theorem dispatch_in_order_bench :
    init.cancelsKeep benchCalls = true ∧
      ((init.calls benchCalls).queue.dispatchDue 25 1).1.length =
        min 1 ((init.calls benchCalls).queue.actions.toList.countP
          (isDue 25)) :=
  ⟨by decide +kernel,
    (dispatch_in_order benchCalls (by decide +kernel) 25 1).2.2.1⟩

/-- Twelve actions, and a cancel that moves the last entry in below a later
one. -/
def heldBackCalls : List ActionCall :=
  ([1, 10, 2, 11, 12, 3, 4, 15, 16, 13, 14, 5].zipIdx.map fun entry =>
      ActionCall.schedule (benchAction entry.1 entry.2.toUInt32)) ++
    [.cancel 3 0]

/-- The dispatch at 5 leaves the entry that is due at 5 behind the one due at
10. -/
example : init.cancelsKeep heldBackCalls = false ∧
    (((init.calls heldBackCalls).queue.dispatchDue 5 64).1.map
      LinuxScheduledAction.dueUs) = [1, 2, 3, 4] ∧
    ((init.calls heldBackCalls).queue.dispatchDue 5 64).2.nextDeadline =
      some 10 := by
  decide +kernel

end ActionRun

/-! ## The order of insertion -/

namespace LinuxScheduledActionQueue

/-- The action without the stamp of the queue. -/
def unstamped (action : LinuxScheduledAction) : LinuxScheduledAction :=
  { action with insertionSequence := 0 }

def scheduleAll (queue : LinuxScheduledActionQueue)
    (actions : List LinuxScheduledAction) : LinuxScheduledActionQueue :=
  actions.foldl (fun queue action => (queue.schedule action).2) queue

theorem scheduleAll_inOrder {queue : LinuxScheduledActionQueue}
    (hqueue : queue.InOrder) (actions : List LinuxScheduledAction) :
    (queue.scheduleAll actions).InOrder := by
  induction actions generalizing queue with
  | nil => exact hqueue
  | cons action rest ih => exact ih (schedule_inOrder hqueue action)

/-- With room for all of them, the queue holds the actions it was given. -/
theorem scheduleAll_perm (queue : LinuxScheduledActionQueue)
    (actions : List LinuxScheduledAction)
    (hroom : queue.actions.size + actions.length ≤ actionQueueMaxCapacity) :
    ((queue.scheduleAll actions).actions.toList.map unstamped).Perm
      (queue.actions.toList.map unstamped ++ actions.map unstamped) := by
  induction actions generalizing queue with
  | nil => simp [scheduleAll]
  | cons action rest ih =>
      have hfull : ¬queue.actions.size ≥ actionQueueMaxCapacity := by
        simp only [List.length_cons] at hroom
        omega
      have haccepted : (queue.schedule action).1 = true := by
        rw [schedule, dif_neg hfull]
      have hperm := schedule_perm action haccepted
      have hsize : (queue.schedule action).2.actions.size =
          queue.actions.size + 1 := by
        simpa using hperm.length_eq
      have hrest := ih (queue.schedule action).2 (by
        simp only [List.length_cons] at hroom
        omega)
      have hstamp : unstamped (queue.stamped action) = unstamped action := rfl
      refine hrest.trans ?_
      refine ((hperm.map unstamped).append_right _).trans ?_
      rw [List.map_cons, hstamp, List.map_cons, List.cons_append]
      exact List.perm_middle.symm

theorem unstamped_le {entry later : LinuxScheduledAction}
    (hle : actionKey entry ≤ actionKey later) :
    actionKey (unstamped entry) ≤ actionKey (unstamped later) := by
  by_contra hlt
  have hlt := lt_of_not_ge hlt
  refine absurd hle (not_le_of_gt ?_)
  simp only [actionKey, unstamped, lex_lt_iff] at hlt ⊢
  split_ifs at hlt ⊢ <;> first | exact hlt | exact absurd hlt (lt_irrefl _)

/-- Actions that the first five fields of the order tell apart are handed out in
the same order, whatever the order they were scheduled in. -/
theorem dispatch_scheduleAll_eq {actions other : List LinuxScheduledAction}
    (hroom : actions.length ≤ actionQueueMaxCapacity)
    (hdistinct : actions.Pairwise fun first second =>
      actionKey (unstamped first) ≠ actionKey (unstamped second))
    (hother : other.Perm actions) (nowUs : UInt64) (maxOut : UInt16) :
    ((init.scheduleAll other).dispatchDue nowUs maxOut).1.map unstamped =
      ((init.scheduleAll actions).dispatchDue nowUs maxOut).1.map unstamped := by
  have hperm := scheduleAll_perm init actions (by simpa [init] using hroom)
  have hpermOther := scheduleAll_perm init other (by
    rw [hother.length_eq]
    simpa [init] using hroom)
  have hinit : init.actions.toList.map unstamped = [] := rfl
  rw [hinit, List.nil_append] at hperm hpermOther
  have hview := hperm.trans ((hother.map unstamped).symm.trans hpermOther.symm)
  symm
  refine (dispatchDue_drained (scheduleAll_inOrder init_inOrder actions) nowUs
    maxOut).map_eq (isDue nowUs)
    (fun entry later => actionKey entry ≤ actionKey later)
    (dispatchDue_drained (scheduleAll_inOrder init_inOrder other) nowUs maxOut)
    hview (fun _ => rfl) (fun _ _ => unstamped_le) ?_
  intro first hfirst second hsecond hle hge
  have hsame := le_antisymm hle hge
  obtain ⟨entry, hentry, hfirstEq⟩ := List.mem_map.mp
    (hperm.mem_iff.mp (List.mem_map_of_mem hfirst))
  obtain ⟨later, hlater, hsecondEq⟩ := List.mem_map.mp
    (hperm.mem_iff.mp (List.mem_map_of_mem hsecond))
  rw [← hfirstEq, ← hsecondEq] at hsame ⊢
  by_contra hne
  have hentryNe : entry ≠ later := fun heq => hne (heq ▸ rfl)
  have hsymm : Std.Symm fun first second : LinuxScheduledAction =>
      actionKey (unstamped first) ≠ actionKey (unstamped second) :=
    ⟨fun _ _ hdiff => hdiff.symm⟩
  exact hdistinct.forall hentry hlater hentryNe hsame

theorem dispatch_scheduleAll_eq_bench :
    ((init.scheduleAll [ActionRun.benchAction 7 2, ActionRun.benchAction 3 1]
        ).dispatchDue 9 5).1.map unstamped =
      ((init.scheduleAll [ActionRun.benchAction 3 1, ActionRun.benchAction 7 2]
        ).dispatchDue 9 5).1.map unstamped :=
  dispatch_scheduleAll_eq (by decide) (by decide +kernel)
    (List.Perm.swap _ _ _) 9 5

end LinuxScheduledActionQueue

end Swfpm
