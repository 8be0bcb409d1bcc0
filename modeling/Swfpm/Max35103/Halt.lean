import Swfpm.Max35103.Ownership

/-!
# What a halt leaves behind

`MAX35103_Halt` cleans up in two ways: it polls the device while event timing is
active, and otherwise it only clears the flags of an event.
-/

namespace Swfpm.Max35103

open Swfpm.AutoCal (Max35103Status)

variable {κ : Type*} {platform : Platform κ} {world after : World κ}

/-- Some calls of `MAX35103_Process` in a row. -/
def processAll (platform : Platform κ) (times : List UInt64) (world : World κ) :
    World κ :=
  times.foldl (fun world nowUs ↦ (process platform nowUs world).2) world

/-- No deferred work is left, and none comes back. -/
structure LeavesNothing (platform : Platform κ) (world : World κ) : Prop where
  stopped : world.driver.eventTimingActive = false
  free : world.driver.spiPending = false
  quiet : world.driver.spiAsyncActive = false
  settled : world.driver.irqRecheckPending = false
  rests : world.driver.state = .idle → ∀ times,
    (processAll platform times world).driver.state = .idle

/-- An idle driver without a request is left alone. -/
theorem process_of_idle (idle : world.driver.state = .idle)
    (free : world.driver.spiPending = false) (nowUs : UInt64) :
    process platform nowUs world = (.ok, world) := by
  have early : world.driver.deadlinePassed nowUs = false := by
    simp [Driver.deadlinePassed, Driver.draining, idle]
  unfold process
  rw [early, free, idle]
  rfl

theorem processAll_of_idle (idle : world.driver.state = .idle)
    (free : world.driver.spiPending = false) (times : List UInt64) :
    processAll platform times world = world := by
  unfold processAll
  induction times with
  | nil => rfl
  | cons nowUs times ih =>
      rw [List.foldl_cons, process_of_idle idle free]
      exact ih

/-- The end of a halt that the device confirmed. -/
theorem haltVerdict_ok {status : UInt16} {waiting : World κ}
    (judged : haltVerdict platform status waiting = some (.ok, after)) :
    after.driver.eventTimingActive = false ∧ after.driver.spiPending = false ∧
      after.driver.spiAsyncActive = false ∧
      after.driver.irqRecheckPending = false := by
  unfold haltVerdict at judged
  split_ifs at judged
  · obtain ⟨-, rfl⟩ := Prod.mk.inj (Option.some.inj judged)
    obtain ⟨cancels, errors, cleared⟩ := clearOperation_driver platform
      (waiting.set { waiting.driver.clearEventFlags with
        eventTimingActive := false
        state := .idle })
    rw [cleared]
    exact ⟨rfl, rfl, rfl, rfl⟩
  · cases (Prod.mk.inj (Option.some.inj judged)).1

/-- A halt of running event timing that succeeds. -/
theorem halt_ok_of_active {fuel : ℕ} (active : world.driver.eventTimingActive = true)
    (halted : halt platform fuel world = some (.ok, after)) :
    after.driver.eventTimingActive = false ∧ after.driver.spiPending = false ∧
      after.driver.spiAsyncActive = false ∧
      after.driver.irqRecheckPending = false := by
  unfold halt at halted
  split at halted
  · cases (Prod.mk.inj (Option.some.inj halted)).1
  · rw [if_neg (by simp [active])] at halted
    dsimp only at halted
    split at halted
    · cases (Prod.mk.inj (Option.some.inj halted)).1
    · obtain ⟨waiting, -, ended⟩ := pollStatus_cases halted
      rcases ended with ended | ended | ⟨status, judged⟩
      · cases (Prod.mk.inj ended).1
      · cases (Prod.mk.inj ended).1
      · exact haltVerdict_ok judged

/-- A halt without event timing keeps the request. -/
theorem halt_ok_of_stopped {fuel : ℕ}
    (stopped : world.driver.eventTimingActive = false)
    (halted : halt platform fuel world = some (.ok, after)) :
    after.driver.eventTimingActive = false ∧
      after.driver.request = world.driver.request ∧
      after.driver.irqRecheckPending = false := by
  unfold halt at halted
  rw [if_pos stopped] at halted
  split at halted
  · cases (Prod.mk.inj (Option.some.inj halted)).1
  · obtain ⟨-, rfl⟩ := Prod.mk.inj (Option.some.inj halted)
    exact ⟨stopped, rfl, rfl⟩

/-- A halt that succeeds leaves nothing behind exactly where event timing was
active or no request was pending. -/
theorem halt_leavesNothing_iff {fuel : ℕ} (reached : Reachable platform world)
    (halted : halt platform fuel world = some (.ok, after)) :
    LeavesNothing platform after ↔
      world.driver.eventTimingActive = true ∨ world.driver.spiPending = false := by
  have leaves : after.driver.eventTimingActive = false →
      after.driver.spiPending = false → after.driver.spiAsyncActive = false →
      after.driver.irqRecheckPending = false → LeavesNothing platform after :=
    fun stopped free quiet settled ↦ ⟨stopped, free, quiet, settled,
      fun idle times ↦ by rw [processAll_of_idle idle free, idle]⟩
  by_cases active : world.driver.eventTimingActive = true
  · obtain ⟨stopped, free, quiet, settled⟩ := halt_ok_of_active active halted
    exact iff_of_true (leaves stopped free quiet settled) (.inl active)
  · have inactive : world.driver.eventTimingActive = false := by simpa using active
    obtain ⟨stopped, request, settled⟩ := halt_ok_of_stopped inactive halted
    have pending : after.driver.spiPending = world.driver.spiPending :=
      congrArg Request.pending request
    have transfer : after.driver.spiAsyncActive = world.driver.spiAsyncActive :=
      congrArg Request.asyncActive request
    constructor
    · intro nothing
      exact .inr (pending.symm.trans nothing.free)
    · intro condition
      have free := condition.resolve_left active
      have quiet := reached.owned.idle free
      exact leaves stopped (pending.trans free) (transfer.trans quiet) settled

/-- One event of a device that stops after it: an edge while its result is read
leaves a request when event timing is over, and the halt that follows succeeds. -/
def lateEdge : List Op :=
  [.resetDevice 3, .configure { benchProfile with eventModeCmd := cmdEvtmg2 },
    .startEventTiming, .onInt 1000, .executeSpi, .onInt 2000, .executeSpi]

theorem halt_leaves_request :
    ¬ ∀ (world after : World Bench) (fuel : ℕ), Reachable benchPlatform world →
      halt benchPlatform fuel world = some (.ok, after) →
      LeavesNothing benchPlatform after := by
  intro claim
  obtain ⟨world, reached, pending, -⟩ := benchRun [0x0004, 0x0008, intTofEvtmg]
    lateEdge
    (fun world ↦ (halt benchPlatform 0 world).any
      fun answer : Max35103Status × World Bench ↦
        decide (answer.1 = Max35103Status.ok) && answer.2.driver.spiPending)
    (by decide +kernel)
  obtain ⟨⟨status, after⟩, halted, held⟩ := (Option.any_eq_true _ _).mp pending
  simp only [Bool.and_eq_true, decide_eq_true_eq] at held
  obtain ⟨rfl, pending⟩ := held
  exact Bool.false_ne_true ((claim world after 0 reached halted).free.symm.trans
    pending)

/-- Event timing is halted while a status word is drained. -/
theorem halt_leavesNothing_iff_bench :
    ∃ world after : World Bench,
      runOps benchPlatform (benchStart [0x0004, 0x0008, intHaltComplete])
        [.resetDevice 3, .configure benchProfile, .startEventTiming,
          .onInt 1000] = some world ∧
      world.driver.spiPending = true ∧
      halt benchPlatform 3 world = some (.ok, after) ∧
      (LeavesNothing benchPlatform after ↔
        world.driver.eventTimingActive = true ∨ world.driver.spiPending = false) := by
  obtain ⟨world, reached, held, run⟩ := benchRun [0x0004, 0x0008, intHaltComplete]
    [.resetDevice 3, .configure benchProfile, .startEventTiming, .onInt 1000]
    (fun world ↦ world.driver.spiPending && (halt benchPlatform 3 world).any
      fun answer : Max35103Status × World Bench ↦
        decide (answer.1 = Max35103Status.ok)) (by decide +kernel)
  obtain ⟨pending, succeeds⟩ := Bool.and_eq_true_iff.mp held
  obtain ⟨⟨status, after⟩, halted, ok⟩ := (Option.any_eq_true _ _).mp succeeds
  obtain rfl := of_decide_eq_true ok
  exact ⟨world, after, run, pending, halted, halt_leavesNothing_iff reached halted⟩

end Swfpm.Max35103
