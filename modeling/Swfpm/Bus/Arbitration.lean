import Swfpm.Bus.ExactlyOnce

/-!
# Arbitration of the I²C bus

The order in which transactions reach the port.  `moments` of an operation lists
what it does to the order, oldest first: the requests that are submitted, with
the bus they find, and the transactions that are handed to the port, with the bus
of that moment.  The bus picks the next pending transaction by priority; a request
that a callback submits while the bus is free does not compete with the pending
ones.
-/

namespace Swfpm
namespace I2cBus

variable (env : BusEnvironment)

inductive BusMoment where
  | submitted (bus : I2cBusManager) (request : I2cBusRequest)
  | handed (bus : I2cBusManager) (transaction : I2cPendingTransaction)
  deriving DecidableEq, Repr

/-! ## Moments of the operations -/

/-- `start_transaction` gets as far as the port, or it does not. -/
def startMoments (bus : I2cBusManager) (transaction : I2cPendingTransaction) :
    List BusMoment :=
  match findClient bus transaction.clientId with
  | none => []
  | some client =>
      if !bus.portBound ∨
          client.clientGeneration ≠ transaction.clientGeneration ∨
          !clientAcceptsAddress client transaction.slaveAddress then []
      else [.handed bus transaction]

def submitMoments (world : BusWorld) (request : I2cBusRequest) :
    List BusMoment :=
  .submitted world.bus request ::
    match checkRequest world.bus request with
    | some _ => []
    | none =>
        let (transaction, world) := createTransaction world request
        if !world.bus.busy then startMoments world.bus transaction else []

def programMoments (world : BusWorld) : ClientProgram → List BusMoment
  | .done => []
  | .submit request andThen =>
      let (reply, later) := submit env world request
      submitMoments world request ++ programMoments later (andThen reply)

def notifyMoments (world : BusWorld) (transaction : I2cPendingTransaction)
    (result : I2cTransactionResult) : List BusMoment :=
  match findClient world.bus transaction.clientId with
  | none => []
  | some client =>
      if !client.onComplete then []
      else
        let completion :=
          { clientId := transaction.clientId
            transactionId := transaction.transactionId
            correlationId := transaction.correlationId
            clientGeneration := transaction.clientGeneration
            busGeneration := transaction.busGeneration
            result }
        let world := world.log (.notified completion)
        programMoments env world (env.onComplete world.trace completion)

def startNextMoments : ℕ → BusWorld → List BusMoment
  | 0, _ => []
  | fuel + 1, world =>
      if world.bus.busy ∨ world.bus.pending.length = 0 then []
      else
        let index := bestPendingIndex world.bus.pending
        let next := world.bus.pending.getD index .cleared
        let removed := removePending world index
        startMoments removed.bus next ++
          match startTransaction env removed next with
          | (true, _) => []
          | (false, world) =>
              let world :=
                { world with
                  bus :=
                    { world.bus with
                      rejectedCount := world.bus.rejectedCount + 1 } }
              notifyMoments env world next .failed ++
                startNextMoments fuel (notify env world next .failed)

/-- A transaction is off the bus: its client hears of it, and the next one is
started. -/
def endedMoments (world : BusWorld) (transaction : I2cPendingTransaction)
    (result : I2cTransactionResult) : List BusMoment :=
  let later := notify env world transaction result
  notifyMoments env world transaction result ++
    startNextMoments env later.bus.pending.length later

def completeMoments (world : BusWorld) (key : CompletionKey)
    (result : I2cTransactionResult) : List BusMoment :=
  if !world.bus.busy ∨ key.busGeneration ≠ world.bus.busGeneration ∨
      key.transactionId ≠ world.bus.active.transactionId ∨
      key.correlationId ≠ world.bus.active.correlationId ∨
      key.clientGeneration ≠ world.bus.active.clientGeneration then []
  else
    let completed := world.bus.active
    let world := clearActive world
    let bus :=
      match result with
      | .timeout =>
          { world.bus with timeoutCount := world.bus.timeoutCount + 1 }
      | .ok =>
          { world.bus with completedCount := world.bus.completedCount + 1 }
      | _ => world.bus
    endedMoments env { world with bus } completed result

def portCompletionMoments (world : BusWorld) (request : Option I2cPortRequest)
    (result : PortStatus) : List BusMoment :=
  match request with
  | none => []
  | some request =>
      completeMoments env world
        ⟨request.transactionId, request.correlationId,
          request.clientGeneration, request.busGeneration⟩
        (mapPortResult result)

def tickMoments (world : BusWorld) (nowUs : UInt64) : List BusMoment :=
  if !world.bus.busy ∨ nowUs < world.bus.active.deadlineUs then []
  else
    let timedOut := world.bus.active
    let world := bumpGeneration (clearActive (portCancel world timedOut))
    let world :=
      { world with
        bus := { world.bus with timeoutCount := world.bus.timeoutCount + 1 } }
    endedMoments env world timedOut .timeout

def cancelPendingMoments (clientId : UInt32) :
    ℕ → ℕ → BusWorld → List BusMoment
  | 0, _, _ => []
  | fuel + 1, index, world =>
      match world.bus.pending[index]? with
      | none => []
      | some transaction =>
          if transaction.clientId = clientId then
            let removed := removePending world index
            notifyMoments env removed transaction .cancelled ++
              cancelPendingMoments clientId fuel index
                (notify env removed transaction .cancelled)
          else cancelPendingMoments clientId fuel (index + 1) world

def cancelClientMoments (world : BusWorld) (clientId : UInt32) :
    List BusMoment :=
  let rounds := world.bus.pending.length
  cancelPendingMoments env clientId rounds 0 world ++
    let (_, world) := cancelPendingLoop env clientId rounds 0 0 world
    if world.bus.busy ∧ world.bus.active.clientId = clientId then
      let active := world.bus.active
      endedMoments env (bumpGeneration (clearActive (portCancel world active)))
        active .cancelled
    else []

def recoverMoments (world : BusWorld) : List BusMoment :=
  let active := world.bus.active
  let hadActive := world.bus.busy
  let world :=
    if world.bus.port.recover then
      world.log (.portRecover (world.bus.busGeneration + 1))
    else world
  let world := bumpGeneration (clearActive world)
  let world :=
    { world with
      bus := { world.bus with recoveryCount := world.bus.recoveryCount + 1 } }
  if hadActive then endedMoments env world active .cancelled
  else startNextMoments env world.bus.pending.length world

def callMoments (world : BusWorld) : BusCall → List BusMoment
  | .bindPort _ | .registerClient _ | .setClientGeneration _ _ => []
  | .submit request => submitMoments world request
  | .complete key result => completeMoments env world key result
  | .onPortCompletion request result =>
      portCompletionMoments env world request result
  | .tick nowUs => tickMoments env world nowUs
  | .cancelClient clientId => cancelClientMoments env world clientId
  | .recover => recoverMoments env world

def runMoments (world : BusWorld) : List BusCall → List BusMoment
  | [] => []
  | request :: calls =>
      callMoments env world request ++ runMoments (call env world request) calls

def moments (port : Option I2cPort) (calls : List BusCall) : List BusMoment :=
  runMoments env ⟨init port, []⟩ calls

/-! ## Order -/

/-- A transaction that is handed to the port precedes the pending ones. -/
def BusMoment.Ordered : BusMoment → Prop
  | .submitted _ _ => True
  | .handed bus transaction =>
      ∀ other ∈ bus.pending, ¬ Precedes other transaction

/-- A request that goes straight to the port finds no pending transaction that
precedes the one it becomes. -/
def BusMoment.Waits : BusMoment → Prop
  | .handed _ _ => True
  | .submitted bus request =>
      bus.busy = false → checkRequest bus request = none →
        ∀ other ∈ bus.pending, ¬ Precedes other
          (newTransaction bus request (issueId bus.nextTransactionId).1)

/-- The order is kept exactly when every request waits. -/
def Balanced (moments : List BusMoment) : Prop :=
  (∀ moment ∈ moments, moment.Ordered) ↔
    ∀ moment ∈ moments, moment.Waits

theorem Balanced.nil : Balanced [] := by simp [Balanced]

theorem Balanced.append {first second : List BusMoment}
    (hfirst : Balanced first) (hsecond : Balanced second) :
    Balanced (first ++ second) := by
  rw [Balanced, List.forall_mem_append, List.forall_mem_append]
  exact and_congr hfirst hsecond

/-! ## The moments are those of the trace -/

def portRequests (trace : List BusEvent) : List I2cPortRequest :=
  trace.filterMap fun
    | .portSubmit request _ => some request
    | _ => none

def BusMoment.portRequest : BusMoment → Option I2cPortRequest
  | .submitted _ _ => none
  | .handed bus transaction =>
      some (transaction.onGeneration bus.busGeneration).portRequest

/-- The requests that the port got on the way are those of the moments. -/
def Records (world later : BusWorld) (moments : List BusMoment) : Prop :=
  portRequests later.trace =
    (moments.filterMap (·.portRequest)).reverse ++ portRequests world.trace

variable {env} {world middle later : BusWorld}

theorem Records.of_eq
    (htrace : portRequests later.trace = portRequests world.trace) :
    Records world later [] := by
  simpa [Records] using htrace

theorem Records.refl (world : BusWorld) : Records world world [] := .of_eq rfl

theorem Records.trans {first second : List BusMoment}
    (hfirst : Records world middle first)
    (hsecond : Records middle later second) :
    Records world later (first ++ second) := by
  rw [Records] at hfirst hsecond ⊢
  rw [hsecond, hfirst, List.filterMap_append, List.reverse_append,
    List.append_assoc]

/-- A step that the port does not see, before or after others. -/
theorem Records.after {moments : List BusMoment}
    (htrace : portRequests middle.trace = portRequests world.trace)
    (hrecords : Records middle later moments) :
    Records world later moments := by
  rw [Records] at hrecords ⊢
  rw [hrecords, htrace]

theorem Records.before {moments : List BusMoment}
    (hrecords : Records world middle moments)
    (htrace : portRequests later.trace = portRequests middle.trace) :
    Records world later moments := by
  rw [Records] at hrecords ⊢
  rw [htrace, hrecords]

variable (env) in
theorem records_start (world : BusWorld) (transaction : I2cPendingTransaction) :
    Records world (startTransaction env world transaction).2
      (startMoments world.bus transaction) := by
  rw [startTransaction, startMoments]
  cases findClient world.bus transaction.clientId with
  | none => exact .refl world
  | some client =>
      dsimp only
      split_ifs
      · exact .refl world
      · exact rfl
      · exact rfl

variable (env) in
theorem records_admitTransaction (world : BusWorld) (transaction : I2cPendingTransaction) :
    Records world (admitTransaction env world transaction).2
      (if !world.bus.busy then startMoments world.bus transaction else []) := by
  rw [admitTransaction]
  split_ifs
  · have hstart := records_start env world transaction
    generalize startTransaction env world transaction = result at hstart ⊢
    obtain ⟨started, later⟩ := result
    cases started with
    | true => exact hstart.before rfl
    | false => exact hstart.before rfl
  · exact .of_eq rfl
  · exact .of_eq rfl

variable (env) in
theorem records_submit (world : BusWorld) (request : I2cBusRequest) :
    Records world (submit env world request).2 (submitMoments world request) := by
  rw [submit, submitMoments]
  cases checkRequest world.bus request with
  | some refusal => exact .of_eq rfl
  | none =>
      have hadmitted := records_admitTransaction env
        (createTransaction world request).2 (createTransaction world request).1
      exact hadmitted.after rfl

variable (env) in
theorem records_program (world : BusWorld) (program : ClientProgram) :
    Records world (runProgram env world program)
      (programMoments env world program) := by
  induction program generalizing world with
  | done => exact .refl world
  | submit request andThen ih =>
      exact (records_submit env world request).trans (ih _ _)

variable (env) in
theorem records_notify (world : BusWorld) (transaction : I2cPendingTransaction)
    (result : I2cTransactionResult) :
    Records world (notify env world transaction result)
      (notifyMoments env world transaction result) := by
  rw [notify, notifyMoments]
  cases findClient world.bus transaction.clientId with
  | none => exact .refl world
  | some client =>
      dsimp only
      split_ifs
      · exact .refl world
      · exact (records_program env _ _).after rfl

variable (env) in
theorem records_startNext (fuel : ℕ) (world : BusWorld) :
    Records world (startNextLoop env fuel world)
      (startNextMoments env fuel world) := by
  induction fuel generalizing world with
  | zero => exact .refl world
  | succ fuel ih =>
      rw [startNextLoop, startNextMoments]
      split_ifs
      · exact .refl world
      · dsimp only
        have hremoved : portRequests (removePending world
            (bestPendingIndex world.bus.pending)).trace =
            portRequests world.trace := rfl
        have hstart := (records_start env
          (removePending world (bestPendingIndex world.bus.pending))
          (world.bus.pending.getD (bestPendingIndex world.bus.pending)
            .cleared)).after hremoved
        generalize startTransaction env
          (removePending world (bestPendingIndex world.bus.pending))
          (world.bus.pending.getD (bestPendingIndex world.bus.pending)
            .cleared) = result at hstart ⊢
        obtain ⟨started, later⟩ := result
        cases started with
        | true => exact hstart.trans (.refl later)
        | false =>
            exact hstart.trans
              (((records_notify env _ _ _).after rfl).trans (ih _))

theorem records_ended (transaction : I2cPendingTransaction)
    (result : I2cTransactionResult)
    (htrace : portRequests middle.trace = portRequests world.trace) :
    Records world (startNext env (notify env middle transaction result))
      (endedMoments env middle transaction result) :=
  ((records_notify env middle transaction result).trans
    (records_startNext env _ _)).after htrace

theorem portRequests_portCancel (world : BusWorld)
    (transaction : I2cPendingTransaction) :
    portRequests (portCancel world transaction).trace =
      portRequests world.trace := by
  rw [portCancel]
  split_ifs <;> rfl

theorem records_complete (world : BusWorld) (key : CompletionKey)
    (result : I2cTransactionResult) :
    Records world (complete env world key result).2
      (completeMoments env world key result) := by
  rw [complete, completeMoments]
  split_ifs
  · exact .of_eq rfl
  · apply records_ended
    cases result <;> rfl

variable (env) in
theorem records_cancelPending (clientId : UInt32) (fuel index cancelled : ℕ)
    (world : BusWorld) :
    Records world
      (cancelPendingLoop env clientId fuel index cancelled world).2
      (cancelPendingMoments env clientId fuel index world) := by
  induction fuel generalizing index cancelled world with
  | zero => exact .refl world
  | succ fuel ih =>
      rw [cancelPendingLoop, cancelPendingMoments]
      cases world.bus.pending[index]? with
      | none => exact .refl world
      | some transaction =>
          dsimp only
          split_ifs
          · exact ((records_notify env _ _ _).after rfl).trans (ih _ _ _)
          · exact ih _ _ _

theorem records_call (world : BusWorld) (request : BusCall) :
    Records world (call env world request) (callMoments env world request) := by
  cases request with
  | bindPort port => exact .of_eq rfl
  | registerClient client => exact .of_eq rfl
  | setClientGeneration clientId clientGeneration => exact .of_eq rfl
  | submit request => exact records_submit env world request
  | complete key result => exact records_complete world key result
  | onPortCompletion request result =>
      cases request with
      | none => exact .of_eq rfl
      | some request => exact records_complete world _ _
  | tick nowUs =>
      rw [call, callMoments, tick, tickMoments]
      split_ifs
      · exact .refl world
      · exact records_ended _ _ (portRequests_portCancel world _)
  | cancelClient clientId =>
      rw [call, callMoments, cancelClient, cancelClientMoments]
      have hpending := records_cancelPending env clientId
        world.bus.pending.length 0 0 world
      generalize cancelPendingLoop env clientId world.bus.pending.length 0 0
        world = result at hpending ⊢
      obtain ⟨cancelled, later⟩ := result
      dsimp only at hpending ⊢
      refine hpending.trans ?_
      split_ifs
      · exact records_ended _ _ (portRequests_portCancel later _)
      · exact .refl later
  | recover =>
      rw [call, callMoments, recover, recoverMoments]
      have htrace : portRequests (if world.bus.port.recover = true then
          world.log (.portRecover (world.bus.busGeneration + 1))
        else world).trace = portRequests world.trace := by
        split_ifs <;> rfl
      dsimp only
      generalize (if world.bus.port.recover = true then
          world.log (.portRecover (world.bus.busGeneration + 1))
        else world) = asked at htrace ⊢
      cases world.bus.busy with
      | true => exact records_ended _ _ htrace
      | false => exact (records_startNext env _ _).after htrace

theorem records_run (world : BusWorld) (calls : List BusCall) :
    Records world (calls.foldl (call env) world)
      (runMoments env world calls) := by
  induction calls generalizing world with
  | nil => exact .refl world
  | cons request calls ih => exact (records_call world request).trans (ih _)

/-- The port gets exactly the transactions of the moments, in their order. -/
theorem portRequests_run (port : Option I2cPort) (calls : List BusCall) :
    portRequests (run env port calls).trace =
      ((moments env port calls).filterMap (·.portRequest)).reverse := by
  have hrun : portRequests (run env port calls).trace =
      ((moments env port calls).filterMap (·.portRequest)).reverse ++
        portRequests [] := records_run ⟨init port, []⟩ calls
  rw [hrun]
  exact List.append_nil _

/-! ## The next pending transaction -/

theorem Precedes.trans {first second third : I2cPendingTransaction}
    (hfirst : Precedes first second) (hsecond : Precedes second third) :
    Precedes first third := by
  simp only [Precedes, UInt8.lt_iff_toNat_lt, UInt64.lt_iff_toNat_lt]
    at hfirst hsecond ⊢
  rcases hfirst with hfirst | ⟨hfirst, hlow⟩
  · rcases hsecond with hsecond | ⟨hsecond, -⟩
    · exact Or.inl (hfirst.trans hsecond)
    · exact Or.inl (hsecond ▸ hfirst)
  · rcases hsecond with hsecond | ⟨hsecond, hhigh⟩
    · exact Or.inl (hfirst ▸ hsecond)
    · exact Or.inr ⟨hfirst.trans hsecond, hlow.trans hhigh⟩

theorem not_precedes_self (transaction : I2cPendingTransaction) :
    ¬ Precedes transaction transaction := by
  simp [Precedes]

/-- What the walk keeps: nothing that it has passed precedes its choice. -/
theorem bestFrom_spec {before rest : List I2cPendingTransaction}
    {chosen : I2cPendingTransaction} {best : ℕ}
    (hbest : before[best]? = some chosen)
    (hpassed : ∀ other ∈ before, ¬ Precedes other chosen) :
    ∃ transaction,
      (before ++ rest)[bestFrom best chosen before.length rest]? =
        some transaction ∧
      ∀ other ∈ before ++ rest, ¬ Precedes other transaction := by
  induction rest generalizing before chosen best with
  | nil =>
      refine ⟨chosen, ?_, ?_⟩
      · simpa [bestFrom] using hbest
      · simpa using hpassed
  | cons next rest ih =>
      have hlength : before.length + 1 = (before ++ [next]).length := by simp
      rw [bestFrom, ← List.singleton_append, ← List.append_assoc, hlength]
      split_ifs with hprecedes
      · apply ih
        · simp
        · intro other hother hearlier
          rcases List.mem_append.mp hother with hother | hother
          · exact hpassed other hother (hearlier.trans hprecedes)
          · rw [List.mem_singleton.mp hother] at hearlier
            exact not_precedes_self next hearlier
      · apply ih
        · have hlt : best < before.length := by
            obtain ⟨hlt, -⟩ := List.getElem?_eq_some_iff.mp hbest
            exact hlt
          rw [List.getElem?_append_left hlt]
          exact hbest
        · intro other hother
          rcases List.mem_append.mp hother with hother | hother
          · exact hpassed other hother
          · rw [List.mem_singleton.mp hother]
            exact hprecedes

/-- No pending transaction precedes the one that `start_next` picks. -/
theorem not_precedes_best {pending : List I2cPendingTransaction}
    (hsome : pending.length ≠ 0) :
    ∀ other ∈ pending,
      ¬ Precedes other (pending.getD (bestPendingIndex pending) .cleared) := by
  cases pending with
  | nil => exact absurd rfl hsome
  | cons first rest =>
      have hself : ∀ other ∈ [first], ¬ Precedes other first := by
        intro other hother
        rw [List.mem_singleton.mp hother]
        exact not_precedes_self first
      have hwalk : ∃ transaction,
          ([first] ++ rest)[bestFrom 0 first [first].length rest]? =
            some transaction ∧
          ∀ other ∈ [first] ++ rest, ¬ Precedes other transaction :=
        bestFrom_spec rfl hself
      obtain ⟨transaction, hget, hleast⟩ := hwalk
      have hchosen : (first :: rest).getD (bestPendingIndex (first :: rest))
          .cleared = transaction := by
        rw [List.getD_eq_getElem?_getD]
        exact congrArg (Option.getD · I2cPendingTransaction.cleared) hget
      rw [hchosen]
      exact hleast

/-! ## Requests that do not wait -/

theorem startMoments_cases (bus : I2cBusManager)
    (transaction : I2cPendingTransaction) :
    startMoments bus transaction = [] ∨
      startMoments bus transaction = [.handed bus transaction] := by
  rw [startMoments]
  split
  · exact Or.inl rfl
  · split_ifs
    · exact Or.inl rfl
    · exact Or.inr rfl

/-- A request that passes the checks of `submit` gets as far as the port. -/
theorem startMoments_of_checkRequest {bus : I2cBusManager}
    {request : I2cBusRequest} (hcheck : checkRequest bus request = none)
    {transaction : I2cPendingTransaction}
    (hclient : transaction.clientId = request.clientId)
    (hgeneration : transaction.clientGeneration = request.clientGeneration)
    (haddress : transaction.slaveAddress = request.slaveAddress)
    {later : I2cBusManager} (hclients : later.clients = bus.clients)
    (hbound : later.portBound = bus.portBound) :
    startMoments later transaction = [.handed later transaction] := by
  rw [checkRequest] at hcheck
  rw [startMoments, findClient, hclient, hclients, hgeneration, haddress, hbound]
  split_ifs at hcheck with hinvalid hunbound
  rw [findClient] at hcheck
  cases hfound : bus.clients.find? (·.clientId = request.clientId) with
  | none =>
      rw [hfound] at hcheck
      exact absurd hcheck (by simp)
  | some client =>
      rw [hfound] at hcheck
      dsimp only at hcheck ⊢
      split_ifs at hcheck with hother hrejected
      rw [if_neg]
      rintro (hfree | hstale | hrange)
      · exact hunbound hfree
      · exact hstale (not_not.mp hother).symm
      · exact hrejected hrange

theorem balanced_submit (world : BusWorld) (request : I2cBusRequest) :
    Balanced (submitMoments world request) := by
  rw [submitMoments]
  cases hcheck : checkRequest world.bus request with
  | some refusal => simp [Balanced, BusMoment.Ordered, BusMoment.Waits, hcheck]
  | none =>
      dsimp only
      have hstart : startMoments (createTransaction world request).2.bus
          (createTransaction world request).1 =
          [.handed (createTransaction world request).2.bus
            (createTransaction world request).1] :=
        startMoments_of_checkRequest hcheck rfl rfl rfl rfl rfl
      have hbusy : (createTransaction world request).2.bus.busy =
          world.bus.busy := rfl
      cases hfree : world.bus.busy with
      | true =>
          simp [Balanced, BusMoment.Ordered, BusMoment.Waits, hbusy, hfree]
      | false =>
          rw [hbusy, hfree, hstart]
          simp only [Balanced, BusMoment.Ordered, BusMoment.Waits, hfree, hcheck,
            Bool.not_false, if_true, List.forall_mem_cons, true_and,
            forall_const, List.not_mem_nil, false_imp_iff, and_true,
            implies_true]
          exact Iff.rfl

variable (env) in
theorem balanced_program (world : BusWorld) (program : ClientProgram) :
    Balanced (programMoments env world program) := by
  induction program generalizing world with
  | done => exact .nil
  | submit request andThen ih =>
      exact (balanced_submit world request).append (ih _ _)

variable (env) in
theorem balanced_notify (world : BusWorld) (transaction : I2cPendingTransaction)
    (result : I2cTransactionResult) :
    Balanced (notifyMoments env world transaction result) := by
  rw [notifyMoments]
  split
  · exact .nil
  · split_ifs
    · exact .nil
    · exact balanced_program env _ _

/-- The transaction that `start_next` hands over is in order. -/
theorem balanced_next {pending : List I2cPendingTransaction}
    (hsome : pending.length ≠ 0) {bus : I2cBusManager}
    (hpending : bus.pending = pending.eraseIdx (bestPendingIndex pending)) :
    Balanced (startMoments bus
      (pending.getD (bestPendingIndex pending) .cleared)) := by
  rcases startMoments_cases bus
    (pending.getD (bestPendingIndex pending) .cleared) with hnone | hhanded
  · rw [hnone]
    exact .nil
  · rw [hhanded]
    refine iff_of_true ?_ ?_
    · intro moment hmoment
      rw [List.mem_singleton.mp hmoment]
      intro other hother
      rw [hpending] at hother
      exact not_precedes_best hsome other (List.mem_of_mem_eraseIdx hother)
    · intro moment hmoment
      rw [List.mem_singleton.mp hmoment]
      trivial

variable (env) in
theorem balanced_startNext (fuel : ℕ) (world : BusWorld) :
    Balanced (startNextMoments env fuel world) := by
  induction fuel generalizing world with
  | zero => exact .nil
  | succ fuel ih =>
      rw [startNextMoments]
      split_ifs with hdone
      · exact .nil
      · refine (balanced_next (not_or.mp hdone).2 rfl).append ?_
        split
        · exact .nil
        · exact (balanced_notify env _ _ _).append (ih _)

variable (env) in
theorem balanced_ended (world : BusWorld) (transaction : I2cPendingTransaction)
    (result : I2cTransactionResult) :
    Balanced (endedMoments env world transaction result) :=
  (balanced_notify env world transaction result).append
    (balanced_startNext env _ _)

theorem balanced_complete (world : BusWorld) (key : CompletionKey)
    (result : I2cTransactionResult) :
    Balanced (completeMoments env world key result) := by
  rw [completeMoments]
  split_ifs
  · exact .nil
  · exact balanced_ended env _ _ _

theorem balanced_cancelPending (clientId : UInt32) (fuel index : ℕ)
    (world : BusWorld) :
    Balanced (cancelPendingMoments env clientId fuel index world) := by
  induction fuel generalizing index world with
  | zero => exact .nil
  | succ fuel ih =>
      rw [cancelPendingMoments]
      split
      · exact .nil
      · split_ifs
        · exact (balanced_notify env _ _ _).append (ih _ _)
        · exact ih _ _

theorem balanced_call (world : BusWorld) (request : BusCall) :
    Balanced (callMoments env world request) := by
  cases request with
  | bindPort port => exact .nil
  | registerClient client => exact .nil
  | setClientGeneration clientId clientGeneration => exact .nil
  | submit request => exact balanced_submit world request
  | complete key result => exact balanced_complete world key result
  | onPortCompletion request result =>
      cases request with
      | none => exact .nil
      | some request => exact balanced_complete world _ _
  | tick nowUs =>
      rw [callMoments, tickMoments]
      split_ifs
      · exact .nil
      · exact balanced_ended env _ _ _
  | cancelClient clientId =>
      rw [callMoments, cancelClientMoments]
      refine (balanced_cancelPending clientId _ _ world).append ?_
      dsimp only
      split_ifs
      · exact balanced_ended env _ _ _
      · exact .nil
  | recover =>
      rw [callMoments, recoverMoments]
      cases world.bus.busy with
      | true => exact balanced_ended env _ _ _
      | false => exact balanced_startNext env _ _

theorem balanced_run (world : BusWorld) (calls : List BusCall) :
    Balanced (runMoments env world calls) := by
  induction calls generalizing world with
  | nil => exact .nil
  | cons request calls ih => exact (balanced_call world request).append (ih _)

/-- A read of the client with the given priority. -/
def readRequest (clientId correlationId : UInt32)
    (slaveAddress priority : UInt8) : I2cBusRequest :=
  { clientId, correlationId, clientGeneration := 1, slaveAddress, tx := none
    txLength := 0, rx := some 0, rxLength := 2, deadlineUs := 100, priority }

/-- A memory that asks for its next chunk as soon as one is read. -/
def chunkReader : BusEnvironment :=
  { portSubmit := fun _ _ => .ok
    onComplete := fun _ completion =>
      if completion.clientId = 1 ∧ completion.result = .ok then
        .submit (readRequest 1 8 0x50 5) fun _ => .done
      else .done }

/-- A sensor with the better priority waits while the first chunk is read. -/
def sensorWaits : List BusCall :=
  [.registerClient ⟨1, 1, 0x50, 0xFE, true⟩,
    .registerClient ⟨2, 1, 0x28, 0xFF, true⟩,
    .submit (readRequest 1 7 0x50 5), .submit (readRequest 2 9 0x28 1),
    .complete ⟨1, 7, 1, 1⟩ .ok]

instance : DecidablePred BusMoment.Ordered := fun moment =>
  match moment with
  | .submitted _ _ => isTrue trivial
  | .handed bus transaction =>
      inferInstanceAs (Decidable (∀ other ∈ bus.pending,
        ¬ Precedes other transaction))

end I2cBus
end Swfpm
