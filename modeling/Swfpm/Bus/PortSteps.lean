import Swfpm.Bus.I2cBusManager
import Mathlib.Logic.Relation

/-!
# The bus as its port sees it

Every operation of the bus is a sequence of steps at the port: a transaction is
offered while the bus is free, given up with a cancellation or a recovery, or
nothing happens there.  Between two of these the bus may accept and notify, but
a transaction is accepted only while the bus is busy, and nothing but a
completion tells a client of a success.
-/

namespace Swfpm
namespace I2cBus

/-- An event without the port, on a bus that is busy or not. -/
def Inner (busy : Bool) : BusEvent → Prop
  | .issued _ => True
  | .accepted _ => busy = true
  | .notified completion => completion.result ≠ .ok
  | _ => False

/-- What no step of the bus changes. -/
structure SameSetup (before after : I2cBusManager) : Prop where
  port : after.port = before.port
  portBound : after.portBound = before.portBound
  clients : after.clients = before.clients
  stale : after.staleCompletionCount = before.staleCompletionCount

theorem SameSetup.refl (bus : I2cBusManager) : SameSetup bus bus :=
  ⟨rfl, rfl, rfl, rfl⟩

/-- What holds the bus. -/
structure SameHolder (before after : I2cBusManager) : Prop where
  busy : after.busy = before.busy
  active : after.active = before.active
  busGeneration : after.busGeneration = before.busGeneration

theorem SameHolder.refl (bus : I2cBusManager) : SameHolder bus bus :=
  ⟨rfl, rfl, rfl⟩

inductive PortStep (env : BusEnvironment) (before after : BusWorld) : Prop where
  | silent (setup : SameSetup before.bus after.bus)
      (holder : SameHolder before.bus after.bus)
      (trace : after.trace = before.trace)
  | inner (event : BusEvent) (within : Inner before.bus.busy event)
      (setup : SameSetup before.bus after.bus)
      (holder : SameHolder before.bus after.bus)
      (trace : after.trace = event :: before.trace)
  | refused (request : I2cPortRequest) (setup : SameSetup before.bus after.bus)
      (free : before.bus.busy = false) (still : after.bus.busy = false)
      (status : env.portSubmit before.trace request ≠ .ok)
      (trace : after.trace =
        .portSubmit request (env.portSubmit before.trace request) :: before.trace)
  | started (setup : SameSetup before.bus after.bus)
      (free : before.bus.busy = false) (busy : after.bus.busy = true)
      (known : after.bus.active.clientId ∈ after.bus.clients.map (·.clientId))
      (current : after.bus.active.busGeneration = after.bus.busGeneration)
      (status : env.portSubmit before.trace after.bus.active.portRequest = .ok)
      (trace : after.trace =
        .portSubmit after.bus.active.portRequest .ok :: before.trace)
  | cancelled (setup : SameSetup before.bus after.bus)
      (busy : before.bus.busy = true) (free : after.bus.busy = false)
      (trace : after.trace =
        .portCancel before.bus.active.transactionId
          before.bus.active.busGeneration :: before.trace)
  | recovered (setup : SameSetup before.bus after.bus)
      (free : after.bus.busy = false)
      (trace : after.trace =
        .portRecover (before.bus.busGeneration + 1) :: before.trace)

abbrev PortSteps (env : BusEnvironment) : BusWorld → BusWorld → Prop :=
  Relation.ReflTransGen (PortStep env)

variable {env : BusEnvironment} {world next : BusWorld}
  {transaction : I2cPendingTransaction}

/-! ## Starting and submitting -/

theorem PortSteps.step (hstep : PortStep env world next) :
    PortSteps env world next :=
  .single hstep

/-- A change of the bus outside setup and holder. -/
theorem counted_steps {bus : I2cBusManager}
    (hsetup : SameSetup world.bus bus) (hholder : SameHolder world.bus bus) :
    PortSteps env world { world with bus } :=
  .single (.silent hsetup hholder rfl)

theorem startTransaction_steps (env : BusEnvironment) (world : BusWorld)
    (transaction : I2cPendingTransaction) (hfree : world.bus.busy = false) :
    PortSteps env world (startTransaction env world transaction).2 ∧
      (startTransaction env world transaction).2.bus.busy =
        (startTransaction env world transaction).1 := by
  unfold startTransaction
  split
  · exact ⟨.refl, hfree⟩
  · next client hfind =>
      dsimp only
      split_ifs with hguard hstatus
      · exact ⟨.refl, hfree⟩
      · have hsetup : SameSetup world.bus
            { world.bus with busy := false, active := .cleared } :=
          ⟨rfl, rfl, rfl, rfl⟩
        exact ⟨.single (.refused _ hsetup hfree rfl hstatus rfl), rfl⟩
      · have hok := not_not.mp hstatus
        have hmem := List.mem_of_find?_eq_some hfind
        have hid : client.clientId = transaction.clientId := by
          simpa using List.find?_some hfind
        have hknown : transaction.clientId ∈ world.bus.clients.map (·.clientId) :=
          List.mem_map.mpr ⟨client, hmem, hid⟩
        refine ⟨.single (.started ⟨rfl, rfl, rfl, rfl⟩ hfree rfl hknown rfl hok ?_),
          rfl⟩
        rw [hok]
        rfl

theorem createTransaction_steps (request : I2cBusRequest) :
    PortSteps env world (createTransaction world request).2 :=
  .single (.inner (.issued (issueId world.bus.nextTransactionId).1) trivial
    ⟨rfl, rfl, rfl, rfl⟩ ⟨rfl, rfl, rfl⟩ rfl)

theorem logAccepted_steps (hbusy : world.bus.busy = true) :
    PortSteps env world (world.log (.accepted transaction)) :=
  .single (.inner (.accepted transaction) hbusy (.refl _) (.refl _) rfl)

theorem admitTransaction_steps :
    PortSteps env world (admitTransaction env world transaction).2 := by
  unfold admitTransaction
  split_ifs with hfree hfull
  · have hfree : world.bus.busy = false := by simpa using hfree
    obtain ⟨hsteps, hbusy⟩ :=
      startTransaction_steps env world transaction hfree
    generalize startTransaction env world transaction = out at hsteps hbusy
    obtain ⟨started, next⟩ := out
    cases started with
    | false => exact hsteps.trans (counted_steps ⟨rfl, rfl, rfl, rfl⟩ ⟨rfl, rfl, rfl⟩)
    | true => exact hsteps.trans (logAccepted_steps hbusy)
  · exact counted_steps ⟨rfl, rfl, rfl, rfl⟩ ⟨rfl, rfl, rfl⟩
  · have hbusy : world.bus.busy = true := by simpa using hfree
    have hqueued : PortSteps env world
        { world with
          bus :=
            { world.bus with
              pending := world.bus.pending ++ [transaction]
              arbitrationCount := world.bus.arbitrationCount + 1 } } :=
      counted_steps ⟨rfl, rfl, rfl, rfl⟩ ⟨rfl, rfl, rfl⟩
    exact hqueued.trans (logAccepted_steps hbusy)

theorem submit_steps (world : BusWorld) (request : I2cBusRequest) :
    PortSteps env world (submit env world request).2 := by
  unfold submit
  split
  · exact .refl
  · exact (createTransaction_steps request).trans admitTransaction_steps

theorem runProgram_steps (world : BusWorld) (program : ClientProgram) :
    PortSteps env world (runProgram env world program) := by
  induction program generalizing world with
  | done => exact .refl
  | submit request andThen ih => exact (submit_steps world request).trans (ih _ _)

/-! ## Ending a transaction -/

theorem notify_steps (world : BusWorld) (transaction : I2cPendingTransaction)
    {result : I2cTransactionResult} (hresult : result ≠ .ok) :
    PortSteps env world (notify env world transaction result) := by
  unfold notify
  split
  · exact .refl
  · dsimp only
    split_ifs
    · exact .refl
    · have hlogged : ∀ completion : I2cTransactionCompletion,
          completion.result ≠ .ok →
            PortSteps env world (world.log (.notified completion)) :=
        fun completion hother =>
          .single (.inner (.notified completion) hother (.refl _) (.refl _) rfl)
      exact (hlogged _ hresult).trans (runProgram_steps _ _)

theorem removePending_steps (index : ℕ) :
    PortSteps env world (removePending world index) :=
  counted_steps ⟨rfl, rfl, rfl, rfl⟩ ⟨rfl, rfl, rfl⟩

theorem startNextLoop_steps (fuel : ℕ) (world : BusWorld) :
    PortSteps env world (startNextLoop env fuel world) := by
  induction fuel generalizing world with
  | zero => exact .refl
  | succ fuel ih =>
      rw [startNextLoop]
      split_ifs with hdone
      · exact .refl
      · have hfree : world.bus.busy = false :=
          Bool.eq_false_iff.mpr (not_or.mp hdone).1
        dsimp only
        obtain ⟨hstart, -⟩ := startTransaction_steps env
          (removePending world (bestPendingIndex world.bus.pending))
          (world.bus.pending.getD (bestPendingIndex world.bus.pending) .cleared)
          hfree
        have hsteps := (removePending_steps _).trans hstart
        split
        · next started hstarted =>
            rw [hstarted] at hsteps
            exact hsteps
        · next refused hrefused =>
            rw [hrefused] at hsteps
            have hcounted : PortSteps env refused
                { refused with
                  bus :=
                    { refused.bus with
                      rejectedCount := refused.bus.rejectedCount + 1 } } :=
              counted_steps ⟨rfl, rfl, rfl, rfl⟩ ⟨rfl, rfl, rfl⟩
            exact ((hsteps.trans hcounted).trans (notify_steps _ _ (by decide))).trans
              (ih _)

theorem startNext_steps (world : BusWorld) :
    PortSteps env world (startNext env world) :=
  startNextLoop_steps _ world

theorem cancelPendingLoop_steps (env : BusEnvironment) (clientId : UInt32)
    (fuel index cancelled : ℕ) (world : BusWorld) :
    PortSteps env world
      (cancelPendingLoop env clientId fuel index cancelled world).2 := by
  induction fuel generalizing index cancelled world with
  | zero => exact .refl
  | succ fuel ih =>
      rw [cancelPendingLoop]
      split
      · exact .refl
      · split_ifs
        · exact ((removePending_steps index).trans
            (notify_steps _ _ (by decide))).trans (ih _ _ _)
        · exact ih _ _ _

/-- The active transaction is given up: cancelled at the port and off the bus. -/
theorem giveUp_steps (hcancel : world.bus.port.cancel = true)
    (hbusy : world.bus.busy = true) :
    PortSteps env world
      (bumpGeneration (clearActive (portCancel world world.bus.active))) := by
  have hasked : portCancel world world.bus.active =
      world.log (.portCancel world.bus.active.transactionId
        world.bus.active.busGeneration) := by
    unfold portCancel
    rw [if_pos hcancel]
  rw [hasked]
  exact .single (.cancelled ⟨rfl, rfl, rfl, rfl⟩ hbusy rfl rfl)

theorem tick_steps (hcancel : world.bus.port.cancel = true) (nowUs : UInt64) :
    PortSteps env world (tick env world nowUs).2 := by
  unfold tick
  split_ifs with hidle
  · exact .refl
  · have hbusy : world.bus.busy = true := by
      simpa using (not_or.mp hidle).1
    let lost := bumpGeneration (clearActive (portCancel world world.bus.active))
    have hlost : PortSteps env world lost := giveUp_steps hcancel hbusy
    have hcounted : PortSteps env lost
        { lost with
          bus := { lost.bus with timeoutCount := lost.bus.timeoutCount + 1 } } :=
      counted_steps ⟨rfl, rfl, rfl, rfl⟩ ⟨rfl, rfl, rfl⟩
    exact ((hlost.trans hcounted).trans (notify_steps _ _ (by decide))).trans
      (startNext_steps _)

theorem PortStep.sameSetup (hstep : PortStep env world next) :
    SameSetup world.bus next.bus := by
  cases hstep with
  | silent setup => exact setup
  | inner event within setup => exact setup
  | refused request setup => exact setup
  | started setup => exact setup
  | cancelled setup => exact setup
  | recovered setup => exact setup

theorem PortSteps.port (hsteps : PortSteps env world next) :
    next.bus.port = world.bus.port := by
  induction hsteps with
  | refl => rfl
  | tail _ hstep ih => exact hstep.sameSetup.port.trans ih

theorem cancelClient_steps (hcancel : world.bus.port.cancel = true)
    (clientId : UInt32) :
    PortSteps env world (cancelClient env world clientId).2 := by
  have hpending := cancelPendingLoop_steps env clientId
    world.bus.pending.length 0 0 world
  unfold cancelClient
  generalize cancelPendingLoop env clientId world.bus.pending.length 0 0 world =
    out at hpending ⊢
  obtain ⟨cancelled, next⟩ := out
  dsimp only at hpending ⊢
  split_ifs with hactive
  · have hport : next.bus.port.cancel = true := hpending.port ▸ hcancel
    exact ((hpending.trans (giveUp_steps hport hactive.1)).trans
      (notify_steps _ _ (by decide))).trans (startNext_steps _)
  · exact hpending

theorem recover_steps (hrecover : world.bus.port.recover = true) :
    PortSteps env world (recover env world) := by
  let lost := bumpGeneration (clearActive
    (world.log (.portRecover (world.bus.busGeneration + 1))))
  have hlost : PortSteps env world lost :=
    .single (.recovered ⟨rfl, rfl, rfl, rfl⟩ rfl rfl)
  have hcounted : PortSteps env lost
      { lost with
        bus := { lost.bus with recoveryCount := lost.bus.recoveryCount + 1 } } :=
    counted_steps ⟨rfl, rfl, rfl, rfl⟩ ⟨rfl, rfl, rfl⟩
  unfold recover
  dsimp only
  rw [if_pos hrecover]
  refine ((hlost.trans hcounted).trans ?_).trans (startNext_steps _)
  split_ifs
  · exact notify_steps _ _ (by decide)
  · exact .refl

end I2cBus
end Swfpm
