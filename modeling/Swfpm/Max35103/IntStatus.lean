import Swfpm.Max35103.Ownership

/-!
# Who reads `INT_STATUS`

`INT_STATUS` clears when it is read.  While event timing is active every frame
that reaches it is a status drain, except inside a halt.
-/

namespace Swfpm.Max35103

variable {κ : Type*} {platform : Platform κ} {policy : Policy}
  {world next : World κ}

/-- The frames of some events, sent while event timing was active, are status
drains where they reach `INT_STATUS`. -/
def OnlyDrains (recorded trace : List Event) : Prop :=
  ∀ token tx, .frame token tx true ∈ recorded → coversIntStatus tx = true →
    ∃ staged, token = some staged ∧ .drain staged ∈ trace

/-- What is recorded between two worlds holds only drains. -/
def Drains (world next : World κ) : Prop :=
  ∃ recorded, next.trace = recorded ++ world.trace ∧
    OnlyDrains recorded next.trace

theorem Drains.refl (world : World κ) : Drains world world :=
  ⟨[], rfl, nofun⟩

theorem Drains.trans {last : World κ} (earlier : Drains world next)
    (later : Drains next last) : Drains world last := by
  obtain ⟨first, firstTrace, firstDrains⟩ := earlier
  obtain ⟨second, secondTrace, secondDrains⟩ := later
  refine ⟨second ++ first, ?_, fun token tx member covers ↦ ?_⟩
  · rw [secondTrace, firstTrace, List.append_assoc]
  · rcases List.mem_append.mp member with recent | old
    · exact secondDrains token tx recent covers
    · obtain ⟨staged, same, drained⟩ := firstDrains token tx old covers
      exact ⟨staged, same, by
        rw [secondTrace]
        exact List.mem_append_right _ drained⟩

/-- Events that are not frames. -/
theorem Drains.of_quiet (recorded : List Event)
    (trace : next.trace = recorded ++ world.trace)
    (quiet : ∀ token tx active, .frame token tx active ∉ recorded) :
    Drains world next :=
  ⟨recorded, trace, fun token tx member ↦ absurd member (quiet token tx true)⟩

/-- A frame that the policy allows, with events of the bus around it. -/
theorem Drains.of_frame (before after : List Event) {token : Option UInt32}
    {tx : List UInt8} (halting : policy.halting = false)
    (permits : policy.Permits world token tx)
    (trace : next.trace = before ++
      .frame token tx world.driver.eventTimingActive :: (after ++ world.trace))
    (quietBefore : ∀ token tx active, .frame token tx active ∉ before)
    (quietAfter : ∀ token tx active, .frame token tx active ∉ after) :
    Drains world next := by
  refine ⟨before ++ .frame token tx world.driver.eventTimingActive :: after, ?_,
    fun token' tx' member covers ↦ ?_⟩
  · rw [trace]
    simp
  · simp only [List.mem_append, List.mem_cons, quietBefore, quietAfter, false_or,
      or_false, Event.frame.injEq] at member
    obtain ⟨rfl, rfl, active⟩ := member
    obtain ⟨staged, same, drained⟩ := permits.2 halting active.symm covers
    refine ⟨staged, same, ?_⟩
    rw [trace]
    simp [drained]

theorem lockEvents_quiet (token : Option UInt32) (tx : List UInt8)
    (active : Bool) : .frame token tx active ∉ platform.lockEvents := by
  unfold Platform.lockEvents
  split <;> simp

theorem unlockEvents_quiet (released : Bool) (token : Option UInt32)
    (tx : List UInt8) (active : Bool) :
    .frame token tx active ∉
      (if released then platform.unlockEvents else []) := by
  unfold Platform.unlockEvents
  split_ifs <;> simp

theorem Move.drains (move : Move platform policy world next)
    (halting : policy.halting = false) : Drains world next := by
  cases move with
  | adjust => exact .refl world
  | @note world event plain =>
      refine .of_quiet [event] rfl fun token tx active member ↦ ?_
      obtain rfl := List.mem_singleton.mp member
      cases plain
  | tick => exact ⟨[], rfl, nofun⟩
  | wait => exact ⟨[], rfl, nofun⟩
  | pin => exact ⟨[], rfl, nofun⟩
  | @transfer world token tx permits =>
      rcases spiXfer_trace platform world token tx with same | sent
      · exact ⟨[], same, nofun⟩
      · exact .of_frame _ _ halting permits sent (unlockEvents_quiet true)
          lockEvents_quiet
  | @buffers world =>
      exact .of_quiet [.wrote world.driver.spiAsyncActive] rfl
        (by simp)
  | @stage world frame =>
      exact .of_quiet [.staged world.driver.nextToken,
        .wrote world.driver.spiAsyncActive] rfl (by simp)
  | @drain world =>
      exact .of_quiet [.drain world.driver.nextToken,
        .staged world.driver.nextToken, .wrote world.driver.spiAsyncActive] rfl
        (by simp)
  | @complete world =>
      refine .of_quiet _ (completeRequest_trace.trans (List.cons_append ..).symm)
        fun token tx active member ↦ ?_
      exact unlockEvents_quiet _ token tx active
        ((List.mem_cons.mp member).resolve_left nofun)
  | abandon =>
      exact .of_quiet _ cancelPendingSpi_trace (unlockEvents_quiet _)
  | refused busy => exact ⟨[], busAcquire_refused_trace busy, nofun⟩
  | @launch world hooks hook pending acquired permits =>
      refine .of_frame [] platform.lockEvents halting permits ?_ (by simp)
        lockEvents_quiet
      simp only [Max35103.launch, World.note_trace, World.set_trace,
        World.set_driver, (busAcquire_ok acquired).2,
        busAcquire_ok_trace acquired]
      rfl
  | disown => exact .of_quiet _ busRelease_trace (unlockEvents_quiet _)

theorem Moves.drains (moves : Moves platform policy world next)
    (halting : policy.halting = false) : Drains world next := by
  induction moves with
  | refl => exact .refl world
  | tail _ move ih => exact ih.trans (move.drains halting)

/-- While event timing is active, an operation other than a halt reaches
`INT_STATUS` only by the status drains of the event state machine. -/
theorem int_status_only_drained {op : Op} (reached : Reachable platform world)
    (other : ∀ fuel, op ≠ .halt fuel)
    (stepped : step platform world op = some next) :
    ∃ recorded, next.trace = recorded ++ world.trace ∧
      ∀ token tx, .frame token tx true ∈ recorded → coversIntStatus tx = true →
        ∃ staged, token = some staged ∧ .drain staged ∈ next.trace := by
  have allowed : Policy.Allows { writes := true, halting := false } op := by
    cases op with
    | halt fuel => exact absurd rfl (other fuel)
    | _ => trivial
  exact (reached.moves allowed stepped).drains rfl

/-- The drain of an edge reaches `INT_STATUS` while the event runs. -/
theorem int_status_only_drained_bench :
    ∃ world next : World Bench,
      runOps benchPlatform (benchStart [0x0004, 0x0008])
        [.resetDevice 3, .configure benchProfile, .startEventTiming,
          .onInt 1000] = some world ∧
      step benchPlatform world .executeSpi = some next ∧
      .frame (some 1) [regIntStatus, 0, 0] true ∈ next.trace ∧
      ∃ recorded, next.trace = recorded ++ world.trace ∧
        ∀ token tx, .frame token tx true ∈ recorded →
          coversIntStatus tx = true →
            ∃ staged, token = some staged ∧ .drain staged ∈ next.trace := by
  obtain ⟨world, reached, sent, run⟩ := benchRun [0x0004, 0x0008]
    [.resetDevice 3, .configure benchProfile, .startEventTiming, .onInt 1000]
    (fun world ↦ (step benchPlatform world .executeSpi).any fun next ↦
      next.trace.contains (.frame (some 1) [regIntStatus, 0, 0] true))
    (by decide +kernel)
  obtain ⟨next, stepped, framed⟩ := (Option.any_eq_true _ _).mp sent
  have other : ∀ fuel, Op.executeSpi ≠ .halt fuel := fun _ ↦ nofun
  exact ⟨world, next, run, stepped, by simpa using framed,
    int_status_only_drained reached other stepped⟩

end Swfpm.Max35103
