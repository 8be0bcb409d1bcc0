import Mathlib

/-!
# The SPI bus manager

Embedding of `infrastructure/bus/spi_bus_manager.{h,c}`.  The pending array is
the list of its occupied entries.  The start and completion functions of the
clients are the environment: both may look at everything that happened so far,
and a completion function may submit transactions one after the other, each
chosen after the answer to the one before.  A null `bus` or `client` is not
modelled.
-/

namespace Swfpm

inductive SpiTransactionResult where
  | ok
  | timeout
  | failed
  | cancelled
  deriving DecidableEq, Repr

structure SpiTransactionCompletion where
  clientId : UInt32
  transactionId : UInt32
  correlationId : UInt32
  clientGeneration : UInt32
  busGeneration : UInt32
  result : SpiTransactionResult
  deriving DecidableEq, Repr

structure SpiBusClient where
  clientId : UInt32
  chipSelect : UInt8
  clientGeneration : UInt32
  /-- Whether the start function is set. -/
  start : Bool
  /-- Whether the completion function is set. -/
  complete : Bool
  deriving DecidableEq, Repr

structure SpiPendingTransaction where
  clientId : UInt32
  transactionId : UInt32
  correlationId : UInt32
  clientGeneration : UInt32
  chipSelect : UInt8
  /-- Buffers are addresses; `none` is the null pointer. -/
  tx : Option ℕ
  rx : Option ℕ
  length : UInt16
  deadlineUs : UInt64
  priority : UInt8
  admissionSequence : UInt64
  deriving DecidableEq, Repr

def SpiPendingTransaction.cleared : SpiPendingTransaction :=
  { clientId := 0, transactionId := 0, correlationId := 0
    clientGeneration := 0, chipSelect := 0, tx := none, rx := none, length := 0
    deadlineUs := 0, priority := 0, admissionSequence := 0 }

structure SpiBusManager where
  clients : List SpiBusClient
  active : SpiPendingTransaction
  pending : List SpiPendingTransaction
  busy : Bool
  busGeneration : UInt32
  nextAdmissionSequence : UInt64
  completedCount : UInt32
  timeoutCount : UInt32
  staleCompletionCount : UInt32
  rejectedCount : UInt32
  deriving DecidableEq, Repr

def spiBusMaxClients : ℕ := 4

def spiBusPendingCapacity : ℕ := 8

/-- The identity that a completion reports. -/
structure SpiCompletionKey where
  transactionId : UInt32
  correlationId : UInt32
  clientGeneration : UInt32
  busGeneration : UInt32
  deriving DecidableEq, Repr

/-- The arguments of a client's start function. -/
structure SpiStart where
  chipSelect : UInt8
  tx : Option ℕ
  rx : Option ℕ
  length : UInt16
  key : SpiCompletionKey
  deadlineUs : UInt64
  deriving DecidableEq, Repr

/-- The arguments of `spi_bus_submit`. -/
structure SpiSubmission where
  clientId : UInt32
  transactionId : UInt32
  correlationId : UInt32
  tx : Option ℕ
  rx : Option ℕ
  length : UInt16
  deadlineUs : UInt64
  priority : UInt8
  deriving DecidableEq, Repr

/-! ## The world around the bus -/

/-- What the bus did; `ended` and `recovered` name the transaction that was
active. -/
inductive SpiEvent where
  | handed (request : SpiStart) (taken : Bool)
  | ended (key : SpiCompletionKey) (result : SpiTransactionResult)
  | recovered (key : SpiCompletionKey)
  | notified (completion : SpiTransactionCompletion)
  deriving DecidableEq, Repr

/-- A callback's submissions, each of which may depend on the reply to the one
before. -/
inductive SpiClientProgram where
  | done
  | submit (submission : SpiSubmission) (andThen : Bool → SpiClientProgram)

/-- Start and completion functions, given the trace so far (newest event
first). -/
structure SpiEnvironment where
  start : List SpiEvent → SpiStart → Bool
  complete : List SpiEvent → SpiTransactionCompletion → SpiClientProgram

structure SpiWorld where
  bus : SpiBusManager
  trace : List SpiEvent
  deriving DecidableEq, Repr

def SpiWorld.log (world : SpiWorld) (event : SpiEvent) : SpiWorld :=
  { world with trace := event :: world.trace }

namespace SpiBus

variable (env : SpiEnvironment)

def findClient (bus : SpiBusManager) (clientId : UInt32) :
    Option SpiBusClient :=
  bus.clients.find? (·.clientId = clientId)

/-! ## Set-up -/

def init : SpiBusManager :=
  { clients := [], active := .cleared, pending := [], busy := false
    busGeneration := 1, nextAdmissionSequence := 1, completedCount := 0
    timeoutCount := 0, staleCompletionCount := 0, rejectedCount := 0 }

def registerClient (bus : SpiBusManager) (client : SpiBusClient) :
    Bool × SpiBusManager :=
  if client.clientId = 0 ∨ !client.start ∨
      bus.clients.length ≥ spiBusMaxClients ∨
      (findClient bus client.clientId).isSome then
    (false, bus)
  else (true, { bus with clients := bus.clients ++ [client] })

/-! ## Starting a transaction -/

/-- The tuple that identifies a transaction on the bus. -/
def keyOf (bus : SpiBusManager) (transaction : SpiPendingTransaction) :
    SpiCompletionKey :=
  { transactionId := transaction.transactionId
    correlationId := transaction.correlationId
    clientGeneration := transaction.clientGeneration
    busGeneration := bus.busGeneration }

def startRequest (bus : SpiBusManager) (transaction : SpiPendingTransaction) :
    SpiStart :=
  { chipSelect := transaction.chipSelect
    tx := transaction.tx
    rx := transaction.rx
    length := transaction.length
    key := keyOf bus transaction
    deadlineUs := transaction.deadlineUs }

def start (world : SpiWorld) (transaction : SpiPendingTransaction) :
    Bool × SpiWorld :=
  match findClient world.bus transaction.clientId with
  | none => (false, world)
  | some client =>
      if client.clientGeneration ≠ transaction.clientGeneration then
        (false, world)
      else
        let request := startRequest world.bus transaction
        let taken := env.start world.trace request
        let world := world.log (.handed request taken)
        if taken then
          (true, { world with
            bus := { world.bus with active := transaction, busy := true } })
        else
          (false, { world with
            bus := { world.bus with active := .cleared, busy := false } })

/-- The order in which pending transactions are started. -/
def Precedes (first second : SpiPendingTransaction) : Prop :=
  first.priority < second.priority ∨
    (first.priority = second.priority ∧
      first.admissionSequence < second.admissionSequence)

instance (first second : SpiPendingTransaction) :
    Decidable (Precedes first second) :=
  inferInstanceAs (Decidable (_ ∨ _))

/-- The walk of `best` over the entries from `index` on. -/
def bestFrom (selected : ℕ) (selectedTransaction : SpiPendingTransaction)
    (index : ℕ) : List SpiPendingTransaction → ℕ
  | [] => selected
  | transaction :: rest =>
      if Precedes transaction selectedTransaction then
        bestFrom index transaction (index + 1) rest
      else bestFrom selected selectedTransaction (index + 1) rest

def best : List SpiPendingTransaction → ℕ
  | [] => 0
  | transaction :: rest => bestFrom 0 transaction 1 rest

def removePending (world : SpiWorld) (index : ℕ) : SpiWorld :=
  { world with
    bus := { world.bus with pending := world.bus.pending.eraseIdx index } }

def reject (world : SpiWorld) : SpiWorld :=
  { world with
    bus := { world.bus with rejectedCount := world.bus.rejectedCount + 1 } }

/-! ## Submissions -/

def idExists (bus : SpiBusManager) (id : UInt32) : Bool :=
  bus.busy && bus.active.transactionId = id ||
    bus.pending.any (·.transactionId = id)

/-- The end of `submit`: start, queue or refuse the new transaction. -/
def admitTransaction (world : SpiWorld) (transaction : SpiPendingTransaction) :
    Bool × SpiWorld :=
  if !world.bus.busy then
    match start env world transaction with
    | (true, world) => (true, world)
    | (false, world) => (false, reject world)
  else if world.bus.pending.length ≥ spiBusPendingCapacity then
    (false, reject world)
  else
    (true, { world with
      bus := { world.bus with
        pending := world.bus.pending ++ [transaction] } })

def newTransaction (bus : SpiBusManager) (client : SpiBusClient)
    (submission : SpiSubmission) : SpiPendingTransaction :=
  { clientId := submission.clientId
    transactionId := submission.transactionId
    correlationId := submission.correlationId
    clientGeneration := client.clientGeneration
    chipSelect := client.chipSelect
    tx := submission.tx
    rx := submission.rx
    length := submission.length
    deadlineUs := submission.deadlineUs
    priority := submission.priority
    admissionSequence := bus.nextAdmissionSequence }

def submit (world : SpiWorld) (submission : SpiSubmission) : Bool × SpiWorld :=
  if submission.transactionId = 0 ∨ submission.length = 0 ∨
      submission.tx.isNone ∨ submission.rx.isNone ∨
      submission.deadlineUs = 0 ∨
      idExists world.bus submission.transactionId then
    (false, world)
  else
    match findClient world.bus submission.clientId with
    | none => (false, world)
    | some client =>
        admitTransaction env
          { world with
            bus := { world.bus with
              nextAdmissionSequence := world.bus.nextAdmissionSequence + 1 } }
          (newTransaction world.bus client submission)

/-! ## Ending a transaction -/

def runProgram (world : SpiWorld) : SpiClientProgram → SpiWorld
  | .done => world
  | .submit submission andThen =>
      let (reply, world) := submit env world submission
      runProgram world (andThen reply)

def notify (world : SpiWorld) (transaction : SpiPendingTransaction)
    (result : SpiTransactionResult) : SpiWorld :=
  match findClient world.bus transaction.clientId with
  | none => world
  | some client =>
      if !client.complete then world
      else
        let completion :=
          { clientId := transaction.clientId
            transactionId := transaction.transactionId
            correlationId := transaction.correlationId
            clientGeneration := transaction.clientGeneration
            busGeneration := world.bus.busGeneration
            result }
        let world := world.log (.notified completion)
        runProgram env world (env.complete world.trace completion)

/-- The loop of `start_next`, at most `fuel` rounds of it. -/
def startNextLoop : ℕ → SpiWorld → SpiWorld
  | 0, world => world
  | fuel + 1, world =>
      if world.bus.busy ∨ world.bus.pending.length = 0 then world
      else
        let index := best world.bus.pending
        let next := world.bus.pending.getD index .cleared
        match start env (removePending world index) next with
        | (true, world) => world
        | (false, world) =>
            startNextLoop fuel (notify env (reject world) next .failed)

/-- One round removes one pending transaction, and nothing becomes pending while
the bus is free. -/
def startNext (world : SpiWorld) : SpiWorld :=
  startNextLoop env world.bus.pending.length world

/-- The active transaction leaves the bus. -/
def clearActive (world : SpiWorld) : SpiWorld :=
  { world with bus := { world.bus with active := .cleared, busy := false } }

def complete (world : SpiWorld) (key : SpiCompletionKey)
    (result : SpiTransactionResult) : Bool × SpiWorld :=
  if !world.bus.busy ∨ key.busGeneration ≠ world.bus.busGeneration ∨
      key.transactionId ≠ world.bus.active.transactionId ∨
      key.correlationId ≠ world.bus.active.correlationId ∨
      key.clientGeneration ≠ world.bus.active.clientGeneration then
    (false, { world with
      bus := { world.bus with
        staleCompletionCount := world.bus.staleCompletionCount + 1 } })
  else
    let completed := world.bus.active
    let world := (clearActive world).log (.ended key result)
    let bus :=
      match result with
      | .ok => { world.bus with completedCount := world.bus.completedCount + 1 }
      | .timeout => { world.bus with timeoutCount := world.bus.timeoutCount + 1 }
      | _ => world.bus
    (true, startNext env (notify env { world with bus } completed result))

def tick (world : SpiWorld) (nowUs : UInt64) : Bool × SpiWorld :=
  if !world.bus.busy ∨ nowUs < world.bus.active.deadlineUs then (false, world)
  else complete env world (keyOf world.bus world.bus.active) .timeout

def bumpGeneration (world : SpiWorld) : SpiWorld :=
  { world with
    bus := { world.bus with busGeneration := world.bus.busGeneration + 1 } }

def recover (world : SpiWorld) : SpiWorld :=
  if world.bus.busy then
    let active := world.bus.active
    let world := (bumpGeneration (clearActive world)).log
      (.recovered (keyOf world.bus active))
    startNext env (notify env world active .cancelled)
  else startNext env (bumpGeneration world)

/-! ## The loop ends with a busy bus or nothing pending -/

variable {env} {world : SpiWorld}

/-- A start is refused before the client sees it, taken, or not taken. -/
inductive Started (world : SpiWorld) (transaction : SpiPendingTransaction) :
    Bool × SpiWorld → Prop
  | refused : Started world transaction (false, world)
  | taken :
      Started world transaction
        (true, { world.log (.handed (startRequest world.bus transaction) true)
          with bus := { world.bus with active := transaction, busy := true } })
  | untaken :
      Started world transaction
        (false, { world.log (.handed (startRequest world.bus transaction) false)
          with bus := { world.bus with active := .cleared, busy := false } })

variable (env world) in
theorem started_start (transaction : SpiPendingTransaction) :
    Started world transaction (start env world transaction) := by
  rw [start]
  split
  · exact .refused
  · split
    · exact .refused
    · dsimp only
      cases env.start world.trace (startRequest world.bus transaction) with
      | true => exact .taken
      | false => exact .untaken

variable (env world) in
theorem start_pending (transaction : SpiPendingTransaction) :
    (start env world transaction).2.bus.pending = world.bus.pending := by
  have hstarted := started_start env world transaction
  generalize start env world transaction = result at hstarted ⊢
  cases hstarted <;> rfl

variable (env) in
theorem start_busy (hfree : world.bus.busy = false)
    (transaction : SpiPendingTransaction) :
    (start env world transaction).2.bus.busy =
      (start env world transaction).1 := by
  have hstarted := started_start env world transaction
  generalize start env world transaction = result at hstarted ⊢
  cases hstarted with
  | refused => exact hfree
  | taken => rfl
  | untaken => rfl

/-- Nothing becomes pending while the bus stays free. -/
theorem admitTransaction_free {transaction : SpiPendingTransaction}
    (hlater : (admitTransaction env world transaction).2.bus.busy = false) :
    world.bus.busy = false ∧
      (admitTransaction env world transaction).2.bus.pending = world.bus.pending := by
  rw [admitTransaction] at hlater ⊢
  cases hbusy : world.bus.busy with
  | true =>
      simp only [hbusy, Bool.not_true, Bool.false_eq_true, if_false] at hlater
      split_ifs at hlater
      exact absurd (hbusy.symm.trans hlater) (by decide)
  | false =>
      have hpending := start_pending env world transaction
      refine ⟨rfl, ?_⟩
      simp only [Bool.not_false, if_true]
      cases hresult : start env world transaction with
      | mk started later =>
          rw [hresult] at hpending
          cases started <;> exact hpending

theorem submit_free {submission : SpiSubmission}
    (hlater : (submit env world submission).2.bus.busy = false) :
    world.bus.busy = false ∧
      (submit env world submission).2.bus.pending = world.bus.pending := by
  rw [submit] at hlater ⊢
  split_ifs at hlater ⊢
  · exact ⟨hlater, rfl⟩
  · cases hclient : findClient world.bus submission.clientId with
    | none =>
        rw [hclient] at hlater
        exact ⟨hlater, rfl⟩
    | some client =>
        rw [hclient] at hlater
        exact admitTransaction_free hlater

theorem runProgram_free {program : SpiClientProgram}
    (hlater : (runProgram env world program).bus.busy = false) :
    world.bus.busy = false ∧
      (runProgram env world program).bus.pending = world.bus.pending := by
  induction program generalizing world with
  | done => exact ⟨hlater, rfl⟩
  | submit submission andThen ih =>
      obtain ⟨hfree, hrest⟩ := ih _ hlater
      obtain ⟨hworld, hsubmitted⟩ := submit_free hfree
      exact ⟨hworld, hrest.trans hsubmitted⟩

theorem notify_pending {transaction : SpiPendingTransaction}
    {result : SpiTransactionResult}
    (hlater : (notify env world transaction result).bus.busy = false) :
    (notify env world transaction result).bus.pending =
      world.bus.pending := by
  rw [notify] at hlater ⊢
  cases hclient : findClient world.bus transaction.clientId with
  | none => rfl
  | some client =>
      rw [hclient] at hlater
      dsimp only at hlater ⊢
      split_ifs at hlater ⊢
      · rfl
      · exact (runProgram_free hlater).2

theorem best_lt {pending : List SpiPendingTransaction} (hpos : pending ≠ []) :
    best pending < pending.length := by
  have hwalk : ∀ (rest : List SpiPendingTransaction) selected transaction index,
      selected < index →
      bestFrom selected transaction index rest < index + rest.length := by
    intro rest
    induction rest with
    | nil => exact fun selected transaction index hlt => hlt
    | cons next rest ih =>
        intro selected transaction index hlt
        rw [bestFrom, List.length_cons]
        split_ifs
        · have hnext := ih index next (index + 1) (Nat.lt_succ_self _)
          omega
        · have hnext := ih selected transaction (index + 1) (by omega)
          omega
  cases pending with
  | nil => exact absurd rfl hpos
  | cons transaction rest =>
      have hlt := hwalk rest 0 transaction 1 Nat.zero_lt_one
      rw [best, List.length_cons]
      omega

theorem startNextLoop_of_busy (hbusy : world.bus.busy = true) (fuel : ℕ) :
    startNextLoop env fuel world = world := by
  cases fuel with
  | zero => rfl
  | succ fuel => rw [startNextLoop, if_pos (Or.inl hbusy)]

theorem startNextLoop_settled (fuel : ℕ)
    (hfuel : world.bus.pending.length ≤ fuel) :
    (startNextLoop env fuel world).bus.busy = true ∨
      (startNextLoop env fuel world).bus.pending = [] := by
  induction fuel generalizing world with
  | zero => exact Or.inr (List.eq_nil_of_length_eq_zero (Nat.le_zero.mp hfuel))
  | succ fuel ih =>
      rw [startNextLoop]
      split_ifs with hdone
      · rcases hdone with hbusy | hnone
        · exact Or.inl hbusy
        · exact Or.inr (List.eq_nil_of_length_eq_zero hnone)
      · obtain ⟨hfree, hsome⟩ := not_or.mp hdone
        rw [Bool.not_eq_true] at hfree
        have hindex : best world.bus.pending < world.bus.pending.length :=
          best_lt fun hnil => hsome (by rw [hnil]; rfl)
        have hremoved : (world.bus.pending.eraseIdx
            (best world.bus.pending)).length ≤ fuel := by
          rw [List.length_eraseIdx_of_lt hindex]
          omega
        dsimp only
        generalize world.bus.pending.getD (best world.bus.pending) .cleared =
          next
        have hstill : (removePending world
            (best world.bus.pending)).bus.busy = false := hfree
        have hbusy := start_busy env hstill next
        have hpending := start_pending env
          (removePending world (best world.bus.pending)) next
        generalize start env (removePending world (best world.bus.pending))
          next = result at hbusy hpending ⊢
        obtain ⟨started, later⟩ := result
        cases started with
        | true => exact Or.inl hbusy
        | false =>
            dsimp only
            cases hlater : (notify env (reject later) next .failed).bus.busy with
            | true =>
                rw [startNextLoop_of_busy hlater]
                exact Or.inl hlater
            | false =>
                apply ih
                rw [notify_pending hlater]
                exact (congrArg List.length hpending).trans_le hremoved

/-- The rounds of `startNext` are enough. -/
theorem startNext_settled :
    (startNext env world).bus.busy = true ∨
      (startNext env world).bus.pending = [] :=
  startNextLoop_settled _ le_rfl

/-! ## Runs -/

variable (env)

inductive Call where
  | registerClient (client : SpiBusClient)
  | submit (submission : SpiSubmission)
  | complete (key : SpiCompletionKey) (result : SpiTransactionResult)
  | tick (nowUs : UInt64)
  | recover
  deriving DecidableEq, Repr

def call (world : SpiWorld) : Call → SpiWorld
  | .registerClient client =>
      { world with bus := (registerClient world.bus client).2 }
  | .submit submission => (submit env world submission).2
  | .complete key result => (complete env world key result).2
  | .tick nowUs => (tick env world nowUs).2
  | .recover => recover env world

def run (calls : List Call) : SpiWorld := calls.foldl (call env) ⟨init, []⟩

theorem run_append (before : List Call) (last : Call) :
    run env (before ++ [last]) = call env (run env before) last := by
  rw [run, List.foldl_append]
  rfl

end SpiBus
end Swfpm
