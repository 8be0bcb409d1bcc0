import Swfpm.Bus.BoardTransfers

/-!
# Runs of the bus on its STM32 port

What a client is told of a transfer is what the HAL reported of it.  A transfer
that the HAL would not give up keeps the port until the HAL reports it or a
recovery succeeds; the bus is free meanwhile and starts nothing.
-/

namespace Swfpm

open AsyncTransfer (Operation Phase phase outcomes late Orderly Lingers)

namespace I2cBoard

/-! ## Phases and outcomes -/

/-- A HAL that grants every cancellation and recovery causes no stale
completion. -/
theorem run_never_stale (calls : List (Surroundings × BoardCall))
    (hgrants : ∀ operation ∈ (run calls).log, ¬ operation.Refused) :
    (run calls).bus.staleCompletionCount = 0 := by
  rw [(run_consistent calls).stale, AsyncTransfer.late_eq_zero hgrants]
  rfl

/-! ## A free bus and its port -/

/-- A HAL that starts and recovers, but does not cancel. -/
def stubborn : Surroundings :=
  { hal := ⟨fun _ _ => .ok, fun _ => .error, fun _ => .ok⟩
    onComplete := fun _ _ => .done }

def benchClient : I2cBusClient :=
  { clientId := 1, clientGeneration := 1, addressBase := 0x50
    addressMask := 0xFE, onComplete := true }

def benchRead : I2cBusRequest :=
  { clientId := 1, correlationId := 7, clientGeneration := 1
    slaveAddress := 0x50, tx := none, txLength := 0, rx := some 0
    rxLength := 2, deadlineUs := 100, priority := 0 }

/-- One read that runs into its deadline. -/
def benchTimeout : List (Surroundings × BoardCall) :=
  [(stubborn, .registerClient benchClient), (stubborn, .submit benchRead),
    (stubborn, .tick 100)]

variable {board : I2cBoard} {around : Surroundings} {world next : BusWorld}
  {old final : List HalOperation}

/-- Logs only grow. -/
theorem log_during_step (board : I2cBoard) (around : Surroundings)
    {env : BusEnvironment} (hstep : I2cBus.PortStep env world next) :
    (board.during around world).log <:+ (board.during around next).log := by
  have hgrows : ∀ event, next.trace = event :: world.trace →
      (board.during around world).log <:+ (board.during around next).log := by
    intro event htrace
    refine ⟨around.hal.asks world.trace
      (around.hal.replay board.adapter world.trace) event, ?_⟩
    simp only [during, htrace, Stm32I2cHal.asked, List.append_assoc]
  cases hstep with
  | silent _ _ trace =>
      simp only [during, trace]
      exact List.suffix_rfl
  | inner event _ _ _ trace => exact hgrows _ trace
  | refused request _ _ _ _ trace => exact hgrows _ trace
  | started _ _ _ _ _ _ trace => exact hgrows _ trace
  | cancelled _ _ _ trace => exact hgrows _ trace
  | recovered _ _ trace => exact hgrows _ trace

theorem log_during {env : BusEnvironment}
    (hsteps : I2cBus.PortSteps env world next) :
    (board.during around world).log <:+ (board.during around next).log := by
  induction hsteps with
  | refl => exact List.suffix_rfl
  | tail _ hstep ih => exact ih.trans (log_during_step board around hstep)

theorem log_call (board : I2cBoard) (around : Surroundings) (made : BoardCall) :
    board.log <:+ (board.call around made).log := by
  cases made with
  | registerClient | setClientGeneration => exact List.suffix_rfl
  | submit | tick | cancelClient | recover => exact List.suffix_append _ _
  | halComplete result =>
      rw [I2cBoard.call]
      split
      · exact List.suffix_cons _ _
      · exact (List.suffix_cons _ _).trans (List.suffix_append _ _)

theorem log_run (calls later : List (Surroundings × BoardCall)) :
    (run calls).log <:+ (run (calls ++ later)).log := by
  induction later using List.reverseRecOn with
  | nil => rw [List.append_nil]
  | append_singleton later made ih =>
      have hcall := log_call (run (calls ++ later)) made.1 made.2
      rw [← List.append_assoc, run_concat]
      exact ih.trans hcall

/-- From `old` to `final` the peripheral keeps an abandoned transfer. -/
def Locked (old final : List HalOperation) : Prop :=
  ∀ log, old <:+ log → log <:+ final → ∃ request, phase log = .abandoned request

/-- A transaction is accepted only on a busy bus. -/
theorem Consistent.accepts_nothing (hboard : Consistent (board.during around world))
    {request : I2cPortRequest}
    (habandoned : phase (board.during around world).log = .abandoned request)
    {env : BusEnvironment} (hstep : I2cBus.PortStep env world next) :
    I2cBus.accepted next.trace = I2cBus.accepted world.trace := by
  have hfree : world.bus.busy = false := by
    refine Bool.eq_false_iff.mpr fun hbusy => ?_
    obtain ⟨held, hruns⟩ := hboard.shows.busy_iff.mp hbusy
    rw [habandoned] at hruns
    cases hruns
  cases hstep with
  | silent _ _ trace => rw [trace]
  | inner event within _ _ trace =>
      rw [trace]
      cases event with
      | accepted transaction =>
          have hbusy : world.bus.busy = true := within
          rw [hfree] at hbusy
          cases hbusy
      | issued | portSubmit | portCancel | portRecover | notified => rfl
  | refused _ _ _ _ _ trace => rw [trace]; rfl
  | started _ _ _ _ _ _ trace => rw [trace]; rfl
  | cancelled _ _ _ trace => rw [trace]; rfl
  | recovered _ _ trace => rw [trace]; rfl

theorem Consistent.locked_steps (hlocked : Locked old final)
    (hboard : Consistent (board.during around world))
    (hsteps : I2cBus.PortSteps (around.environment board.adapter) world next)
    (hold : old <:+ (board.during around world).log)
    (hfinal : (board.during around next).log <:+ final) :
    I2cBus.accepted next.trace = I2cBus.accepted world.trace := by
  induction hsteps with
  | refl => rfl
  | @tail middle next hfirst hstep ih =>
      have hmiddle := (log_during_step board around hstep).trans hfinal
      obtain ⟨request, habandoned⟩ :=
        hlocked _ (hold.trans (log_during hfirst)) hmiddle
      exact ((hboard.steps hfirst).accepts_nothing habandoned hstep).trans
        (ih hmiddle)

theorem Consistent.locked_operate (hlocked : Locked old final)
    (hboard : Consistent board) (hold : old <:+ board.log)
    (operation : BusEnvironment → BusWorld → BusWorld)
    (hsteps : I2cBus.PortSteps (around.environment board.adapter) ⟨board.bus, []⟩
      (operation (around.environment board.adapter) ⟨board.bus, []⟩))
    (hfinal : (board.operate around operation).log <:+ final) :
    I2cBus.accepted (board.operate around operation).trace =
      I2cBus.accepted board.trace := by
  have hbegun : Consistent (board.during around ⟨board.bus, []⟩) := hboard
  have hnone := hbegun.locked_steps hlocked hsteps hold hfinal
  have htrace : I2cBus.accepted (board.operate around operation).trace =
      I2cBus.accepted (operation (around.environment board.adapter)
        ⟨board.bus, []⟩).trace ++ I2cBus.accepted board.trace :=
    List.filterMap_append
  rw [htrace, hnone]
  rfl

theorem Consistent.locked_call (hlocked : Locked old final)
    (hboard : Consistent board) (hold : old <:+ board.log)
    (around : Surroundings) (made : BoardCall)
    (hfinal : (board.call around made).log <:+ final) :
    I2cBus.accepted (board.call around made).trace =
      I2cBus.accepted board.trace := by
  have hcancel : board.bus.port.cancel = true := by rw [hboard.port]
  have hrecover : board.bus.port.recover = true := by rw [hboard.port]
  cases made with
  | registerClient | setClientGeneration => rfl
  | submit request =>
      exact hboard.locked_operate hlocked hold
        (fun env world => (I2cBus.submit env world request).2)
        (I2cBus.submit_steps _ request) hfinal
  | tick nowUs =>
      exact hboard.locked_operate hlocked hold
        (fun env world => (I2cBus.tick env world nowUs).2)
        (I2cBus.tick_steps hcancel nowUs) hfinal
  | cancelClient clientId =>
      exact hboard.locked_operate hlocked hold
        (fun env world => (I2cBus.cancelClient env world clientId).2)
        (I2cBus.cancelClient_steps hcancel clientId) hfinal
  | recover =>
      exact hboard.locked_operate hlocked hold _ (I2cBus.recover_steps hrecover)
        hfinal
  | halComplete result =>
      -- a report would take the transfer off the peripheral
      have hreported : .completed result :: board.log <:+
          (board.call around (.halComplete result)).log := by
        rw [I2cBoard.call]
        split
        · exact List.suffix_rfl
        · exact List.suffix_append _ _
      obtain ⟨request, habandoned⟩ := hlocked _
        (hold.trans (List.suffix_cons _ _)) (hreported.trans hfinal)
      cases habandoned

end I2cBoard
end Swfpm
