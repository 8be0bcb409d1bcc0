import Swfpm.Bus.Ledger

/-!
# Exactly-once completion on the bus

Every call keeps the ledger and leaves nothing waiting on a free bus.  Over a
run this is exactly-once completion of every accepted transaction.
-/

namespace Swfpm
namespace I2cBus

variable {env : BusEnvironment} {world : BusWorld}
  {owed offered : List I2cPendingTransaction}
  {transaction : I2cPendingTransaction} {request : I2cBusRequest}

/-! ## Coming to rest

A callback may queue a transaction only behind one that it has started, so a
bus that is free after it has the same transactions pending as before. -/

/-- If the bus is free afterwards, nothing was started or queued. -/
def Rests (before after : BusWorld) : Prop :=
  after.bus.busy = false →
    before.bus.busy = false ∧ after.bus.pending = before.bus.pending

theorem submit_rests (request : I2cBusRequest) :
    Rests world (submit env world request).2 := by
  intro hrest
  unfold submit at hrest ⊢
  split at hrest
  · exact ⟨hrest, rfl⟩
  · dsimp only at hrest ⊢
    unfold admitTransaction at hrest ⊢
    split_ifs at hrest ⊢ with hfree hfull
    · have hfree : (createTransaction world request).2.bus.busy = false := by
        simpa using hfree
      cases hstart : startTransaction env (createTransaction world request).2
          (createTransaction world request).1 with
      | mk started next =>
          rw [hstart] at hrest
          cases started with
          | false =>
              obtain ⟨-, hpending, -⟩ := startTransaction_refused hfree hstart
              exact ⟨hfree, hpending⟩
          | true =>
              obtain ⟨-, _, -, rfl⟩ := startTransaction_started hstart
              simp [BusWorld.log] at hrest
    · exact ⟨hrest, rfl⟩
    · exact absurd hrest (by simpa [BusWorld.log] using hfree)

theorem runProgram_rests (program : ClientProgram) :
    Rests world (runProgram env world program) := by
  induction program generalizing world with
  | done => exact fun hrest => ⟨hrest, rfl⟩
  | submit request andThen ih =>
      intro hrest
      obtain ⟨hmiddle, hlast⟩ := ih (submit env world request).1 hrest
      obtain ⟨hbefore, hfirst⟩ := submit_rests request hmiddle
      exact ⟨hbefore, hlast.trans hfirst⟩

theorem notify_rests (result : I2cTransactionResult) :
    Rests world (notify env world transaction result) := by
  intro hrest
  unfold notify at hrest ⊢
  split at hrest
  · exact ⟨hrest, rfl⟩
  · dsimp only at hrest ⊢
    split_ifs at hrest ⊢
    · exact ⟨hrest, rfl⟩
    · exact runProgram_rests _ hrest

/-- Nothing waits while the bus is free. -/
def Settled (world : BusWorld) : Prop :=
  world.bus.busy = false → world.bus.pending = []

theorem Rests.settled {before after : BusWorld} (hrests : Rests before after)
    (hsettled : Settled before) : Settled after := by
  intro hfree
  obtain ⟨hbefore, hpending⟩ := hrests hfree
  rw [hpending, hsettled hbefore]

/-- With a round for every pending transaction the loop of `start_next` ends by
its own condition. -/
theorem startNextLoop_settled {fuel : ℕ}
    (hfuel : world.bus.busy = false → world.bus.pending.length ≤ fuel) :
    Settled (startNextLoop env fuel world) := by
  induction fuel generalizing world with
  | zero =>
      intro hfree
      exact List.length_eq_zero_iff.mp (Nat.le_zero.mp (hfuel hfree))
  | succ fuel ih =>
      rw [startNextLoop]
      split_ifs with hdone
      · intro hfree
        rcases hdone with hbusy | hempty
        · rw [hfree] at hbusy
          exact absurd hbusy (by decide)
        · exact List.length_eq_zero_iff.mp hempty
      · obtain ⟨hnotBusy, hpending⟩ := not_or.mp hdone
        have hfree : (removePending world
            (bestPendingIndex world.bus.pending)).bus.busy = false :=
          Bool.eq_false_iff.mpr hnotBusy
        have hindex := bestPendingIndex_lt hpending
        dsimp only
        cases hstart : startTransaction env
            (removePending world (bestPendingIndex world.bus.pending))
            (world.bus.pending.getD (bestPendingIndex world.bus.pending)
              .cleared) with
        | mk started next =>
            cases started with
            | true =>
                obtain ⟨-, _, -, rfl⟩ := startTransaction_started hstart
                intro hrest
                simp at hrest
            | false =>
                obtain ⟨-, hsame, -⟩ := startTransaction_refused hfree hstart
                apply ih
                intro hrest
                obtain ⟨-, hkept⟩ := notify_rests _ hrest
                have hfewer : next.bus.pending.length + 1 =
                    world.bus.pending.length := by
                  rw [hsame]
                  simp only [removePending]
                  rw [List.length_eraseIdx_of_lt hindex]
                  omega
                have := hfuel (Bool.eq_false_iff.mpr hnotBusy)
                rw [hkept]
                exact Nat.le_of_succ_le_succ (hfewer.le.trans this)

theorem startNext_settled : Settled (startNext env world) :=
  startNextLoop_settled fun _ => le_rfl

/-! ## Cancelling a client -/

/-- Callbacks submit nothing when they are told of a cancellation. -/
def BusEnvironment.QuietOnCancelled (env : BusEnvironment) : Prop :=
  ∀ trace completion, completion.result = .cancelled →
    env.onComplete trace completion = .done

theorem notify_cancelled_bus (hquiet : BusEnvironment.QuietOnCancelled env) :
    (notify env world transaction .cancelled).bus = world.bus := by
  unfold notify
  split
  · rfl
  · dsimp only
    split_ifs
    · rfl
    · rw [hquiet _ _ rfl]
      rfl

/-- The walk keeps the ledger and the active transaction, and only removes
pending ones. -/
theorem cancelPendingLoop_kept
    (hquiet : BusEnvironment.QuietOnCancelled env) (clientId : UInt32)
    (fuel index cancelled : ℕ) (hkept : Kept [] [] world)
    (hsettled : Settled world) :
    Kept [] [] (cancelPendingLoop env clientId fuel index cancelled world).2 ∧
      Settled (cancelPendingLoop env clientId fuel index cancelled world).2 := by
  induction fuel generalizing index cancelled world with
  | zero => exact ⟨hkept, hsettled⟩
  | succ fuel ih =>
      rw [cancelPendingLoop]
      cases hget : world.bus.pending[index]? with
      | none => exact ⟨hkept, hsettled⟩
      | some transaction =>
          dsimp only
          split_ifs with hclient
          · obtain ⟨hindex, rfl⟩ := List.getElem?_eq_some_iff.mp hget
            apply ih
            · exact notify_kept (hkept.removePending hindex) .cancelled
            · intro hfree
              rw [notify_cancelled_bus hquiet] at hfree ⊢
              have hempty := hsettled hfree
              simp [removePending, hempty]
          · exact ih _ _ hkept hsettled

/-- With a round for every pending transaction the walk reaches the end of the
list: nothing of the client is left waiting. -/
theorem cancelPendingLoop_clears
    (hquiet : BusEnvironment.QuietOnCancelled env) (clientId : UInt32)
    {fuel index : ℕ} (cancelled : ℕ)
    (hfuel : world.bus.pending.length ≤ fuel + index)
    (hbefore : ∀ transaction ∈ world.bus.pending.take index,
      transaction.clientId ≠ clientId) :
    ∀ transaction ∈
        (cancelPendingLoop env clientId fuel index cancelled world).2.bus.pending,
      transaction.clientId ≠ clientId := by
  induction fuel generalizing index cancelled world with
  | zero =>
      rw [List.take_of_length_le (by omega)] at hbefore
      exact hbefore
  | succ fuel ih =>
      rw [cancelPendingLoop]
      cases hget : world.bus.pending[index]? with
      | none =>
          rw [List.take_of_length_le (List.getElem?_eq_none_iff.mp hget)]
            at hbefore
          exact hbefore
      | some transaction =>
          obtain ⟨hindex, hvalue⟩ := List.getElem?_eq_some_iff.mp hget
          dsimp only
          split_ifs with hclient
          · apply ih
            · rw [notify_cancelled_bus hquiet]
              simp only [removePending]
              rw [List.length_eraseIdx_of_lt hindex]
              omega
            · rw [notify_cancelled_bus hquiet]
              simp only [removePending]
              rw [List.take_eraseIdx_eq_take_of_le _ _ _ le_rfl]
              exact hbefore
          · apply ih
            · omega
            · intro other hmem
              rw [List.take_succ_eq_append_getElem hindex] at hmem
              rcases List.mem_append.mp hmem with hmem | hmem
              · exact hbefore other hmem
              · rw [List.mem_singleton.mp hmem, hvalue]
                exact hclient

/-! ## Calls -/

/-- What the rest of the system may do to the bus. -/
inductive BusCall where
  | bindPort (port : I2cPort)
  | registerClient (client : I2cBusClient)
  | setClientGeneration (clientId clientGeneration : UInt32)
  | submit (request : I2cBusRequest)
  | complete (key : CompletionKey) (result : I2cTransactionResult)
  | onPortCompletion (request : Option I2cPortRequest) (result : PortStatus)
  | tick (nowUs : UInt64)
  | cancelClient (clientId : UInt32)
  | recover
  deriving DecidableEq, Repr

def call (env : BusEnvironment) (world : BusWorld) : BusCall → BusWorld
  | .bindPort port => { world with bus := (bindPort world.bus port).2 }
  | .registerClient client =>
      { world with bus := (registerClient world.bus client).2 }
  | .setClientGeneration clientId clientGeneration =>
      { world with
        bus := (setClientGeneration world.bus clientId clientGeneration).2 }
  | .submit request => (submit env world request).2
  | .complete key result => (complete env world key result).2
  | .onPortCompletion request result =>
      (onPortCompletion env world request result).2
  | .tick nowUs => (tick env world nowUs).2
  | .cancelClient clientId => (cancelClient env world clientId).2
  | .recover => recover env world

def run (env : BusEnvironment) (port : Option I2cPort) (calls : List BusCall) :
    BusWorld :=
  calls.foldl (call env) ⟨init port, []⟩

theorem init_kept (port : Option I2cPort) : Kept [] [] ⟨init port, []⟩ := by
  have hparts : (init port).busy = false ∧ (init port).pending = [] ∧
      (init port).clients = [] ∧ (init port).nextTransactionId = 1 := by
    cases port with
    | none => exact ⟨rfl, rfl, rfl, rfl⟩
    | some port =>
        simp only [init]
        split_ifs <;> exact ⟨rfl, rfl, rfl, rfl⟩
  obtain ⟨hfree, hpending, hclients, hnext⟩ := hparts
  have hlive : live (init port) = [] := by
    rw [live_free hfree, hpending]
  intro _
  refine ⟨?_, List.nodup_nil, hnext, by simp [accepted], ?_, ?_, ?_, ?_⟩
  · simp [hlive, accepted, notified]
  · simp [hclients]
  · simp [hlive]
  · simp [taken]
  · intro older holder first second hfirst
    rw [List.suffix_nil.mp holder] at hfirst
    simp [OnPort, taken] at hfirst

theorem init_settled (port : Option I2cPort) : Settled ⟨init port, []⟩ := by
  intro _
  cases port with
  | none => rfl
  | some port =>
      simp only [init]
      split_ifs <;> rfl

theorem Kept.setClientGeneration (hkept : Kept [] [] world)
    (clientId clientGeneration : UInt32) :
    Kept [] []
      { world with
        bus :=
          (I2cBus.setClientGeneration world.bus clientId clientGeneration).2 } := by
  unfold I2cBus.setClientGeneration
  split_ifs
  · exact hkept
  · refine hkept.of_bus ?_ ?_ ?_ ?_ ?_
    · intro id hmem
      obtain ⟨client, hclient, rfl⟩ := List.mem_map.mp hmem
      obtain ⟨place, hplace, rfl⟩ := List.getElem_of_mem hclient
      apply List.mem_map.mpr
      refine ⟨_, List.getElem_mem (by simpa using hplace), ?_⟩
      rw [List.getElem_modify]
      split_ifs <;> rfl
    · intro hcallbacks client hmem
      obtain ⟨place, hplace, rfl⟩ := List.getElem_of_mem hmem
      rw [List.getElem_modify]
      have hplace : place < world.bus.clients.length := by simpa using hplace
      have hcallback := hcallbacks _ (List.getElem_mem hplace)
      split_ifs <;> exact hcallback
    · rfl
    · rfl
    · rfl

theorem Kept.registerClient (hkept : Kept [] [] world) (client : I2cBusClient) :
    Kept [] []
      { world with bus := (I2cBus.registerClient world.bus client).2 } := by
  unfold I2cBus.registerClient
  split_ifs with hrefused
  · exact hkept
  · refine hkept.of_bus ?_ ?_ ?_ ?_ ?_
    · rw [List.map_append]
      exact List.subset_append_left _ _
    · intro hcallbacks other hmem
      rcases List.mem_append.mp hmem with hmem | hmem
      · exact hcallbacks other hmem
      · rw [List.mem_singleton.mp hmem]
        simp only [not_or] at hrefused
        simpa using hrefused.2.2.2.1
    · rfl
    · rfl
    · rfl

/-- Taking the active transaction off the bus, telling its client and starting
the next one. -/
theorem end_active_kept (hkept : Kept [] [] world)
    (hbusy : world.bus.busy = true) {ended : BusWorld}
    {active : I2cPendingTransaction} (hactive : world.bus.active = active)
    (hclients : ended.bus.clients = world.bus.clients)
    (hpending : ended.bus.pending = world.bus.pending)
    (hfree : ended.bus.busy = false)
    (hnext : ended.bus.nextTransactionId = world.bus.nextTransactionId)
    (htrace : ended.trace = world.trace) (result : I2cTransactionResult) :
    Kept [] [] (startNext env (notify env ended active result)) := by
  subst hactive
  have hkept' : Kept [world.bus.active] [] ⟨ended.bus, world.trace⟩ := by
    refine (hkept.clearActive hbusy).of_bus ?_ ?_ ?_ (holder_free hfree) hnext
    · rw [hclients]
      exact List.Subset.refl _
    · rw [hclients]
      exact fun h => h
    · rw [live_free hfree, hpending]
      rfl
  rw [← htrace] at hkept'
  exact startNextLoop_kept (notify_kept hkept' result) _

theorem portCancel_kept (hkept : Kept [] [] world)
    (transaction : I2cPendingTransaction) :
    Kept [] [] (portCancel world transaction) := by
  unfold portCancel
  split_ifs
  · have hneutral : Neutral (.portCancel transaction.transactionId
        transaction.busGeneration) := trivial
    exact hkept.log hneutral
  · exact hkept

theorem portCancel_bus (transaction : I2cPendingTransaction) :
    (portCancel world transaction).bus = world.bus := by
  unfold portCancel
  split_ifs <;> rfl

theorem complete_kept (hkept : Kept [] [] world) (hsettled : Settled world)
    (key : CompletionKey) (result : I2cTransactionResult) :
    Kept [] [] (complete env world key result).2 ∧
      Settled (complete env world key result).2 := by
  unfold complete
  split_ifs with hstale
  · exact ⟨hkept.of_bus (List.Subset.refl _) (fun h => h) rfl rfl rfl, hsettled⟩
  · have hbusy : world.bus.busy = true := by
      simp only [not_or] at hstale
      simpa using hstale.1
    refine ⟨?_, startNext_settled⟩
    refine end_active_kept hkept hbusy rfl ?_ ?_ ?_ ?_ ?_ result
    all_goals cases result <;> rfl

theorem onPortCompletion_kept (hkept : Kept [] [] world)
    (hsettled : Settled world) (request : Option I2cPortRequest)
    (result : PortStatus) :
    Kept [] [] (onPortCompletion env world request result).2 ∧
      Settled (onPortCompletion env world request result).2 := by
  cases request with
  | none =>
      exact ⟨hkept.of_bus (List.Subset.refl _) (fun h => h) rfl rfl rfl,
        hsettled⟩
  | some request => exact complete_kept hkept hsettled _ _

theorem tick_kept (hkept : Kept [] [] world) (hsettled : Settled world)
    (nowUs : UInt64) :
    Kept [] [] (tick env world nowUs).2 ∧ Settled (tick env world nowUs).2 := by
  unfold tick
  split_ifs with hearly
  · exact ⟨hkept, hsettled⟩
  · have hbusy : world.bus.busy = true := by
      simp only [not_or] at hearly
      simpa using hearly.1
    refine ⟨?_, startNext_settled⟩
    have hbus : (portCancel world world.bus.active).bus = world.bus :=
      portCancel_bus world.bus.active
    refine end_active_kept (portCancel_kept hkept world.bus.active) ?_ ?_ ?_ ?_
      ?_ ?_ ?_ .timeout
    · rw [hbus]
      exact hbusy
    · rw [hbus]
    all_goals rfl

theorem cancelClient_kept (hquiet : BusEnvironment.QuietOnCancelled env)
    (hkept : Kept [] [] world) (hsettled : Settled world) (clientId : UInt32) :
    Kept [] [] (cancelClient env world clientId).2 ∧
      Settled (cancelClient env world clientId).2 := by
  have hloop := cancelPendingLoop_kept hquiet clientId world.bus.pending.length 0
    0 hkept hsettled
  unfold cancelClient
  generalize cancelPendingLoop env clientId world.bus.pending.length 0 0 world =
    walked at hloop ⊢
  obtain ⟨cancelled, walked⟩ := walked
  obtain ⟨hwalked, hrest⟩ := hloop
  dsimp only at hwalked hrest ⊢
  split_ifs with hactive
  · have hbus : (portCancel walked walked.bus.active).bus = walked.bus :=
      portCancel_bus walked.bus.active
    refine ⟨?_, startNext_settled⟩
    refine end_active_kept (portCancel_kept hwalked walked.bus.active) ?_ ?_ ?_
      ?_ ?_ ?_ ?_ .cancelled
    · rw [hbus]
      exact hactive.1
    · rw [hbus]
    all_goals rfl
  · exact ⟨hwalked, hrest⟩

theorem recover_kept (hkept : Kept [] [] world) :
    Kept [] [] (recover env world) ∧ Settled (recover env world) := by
  refine ⟨?_, startNext_settled⟩
  unfold recover
  have hneutral : Neutral (.portRecover (world.bus.busGeneration + 1)) := trivial
  dsimp only
  generalize hworld : (if world.bus.port.recover = true then
      world.log (.portRecover (world.bus.busGeneration + 1)) else world) = logged
  have hlogged : Kept [] [] logged ∧ logged.bus = world.bus := by
    rw [← hworld]
    split_ifs
    · exact ⟨hkept.log hneutral, rfl⟩
    · exact ⟨hkept, rfl⟩
  obtain ⟨hlogged, hbus⟩ := hlogged
  rw [← hbus]
  split_ifs with hbusy
  · refine end_active_kept hlogged hbusy rfl ?_ ?_ ?_ ?_ ?_ .cancelled
    all_goals rfl
  · have hfree : logged.bus.busy = false := Bool.eq_false_iff.mpr hbusy
    apply startNextLoop_kept
    refine hlogged.of_bus (List.Subset.refl _) (fun h => h) ?_ ?_ rfl
    · rw [live_free hfree, live_free rfl]
      rfl
    · rw [holder_free hfree, holder_free rfl]

/-! ## Runs -/

/-- One call keeps the ledger and leaves nothing waiting on a free bus. -/
theorem call_kept (hquiet : BusEnvironment.QuietOnCancelled env)
    (hkept : Kept [] [] world) (hsettled : Settled world) (request : BusCall) :
    Kept [] [] (call env world request) ∧ Settled (call env world request) := by
  cases request with
  | bindPort port =>
      simp only [call, bindPort]
      split_ifs
      · exact ⟨hkept, hsettled⟩
      · exact ⟨hkept.of_bus (List.Subset.refl _) (fun h => h) rfl rfl rfl,
          hsettled⟩
  | registerClient client =>
      refine ⟨hkept.registerClient client, ?_⟩
      simp only [call, registerClient]
      split_ifs <;> exact hsettled
  | setClientGeneration clientId clientGeneration =>
      refine ⟨hkept.setClientGeneration clientId clientGeneration, ?_⟩
      simp only [call, setClientGeneration]
      split_ifs <;> exact hsettled
  | submit request =>
      exact ⟨submit_kept hkept request, (submit_rests request).settled hsettled⟩
  | complete key result => exact complete_kept hkept hsettled key result
  | onPortCompletion request result =>
      exact onPortCompletion_kept hkept hsettled request result
  | tick nowUs => exact tick_kept hkept hsettled nowUs
  | cancelClient clientId =>
      exact cancelClient_kept hquiet hkept hsettled clientId
  | recover => exact recover_kept hkept

theorem run_kept (hquiet : BusEnvironment.QuietOnCancelled env)
    (port : Option I2cPort) (calls : List BusCall) :
    Kept [] [] (run env port calls) ∧ Settled (run env port calls) := by
  have hfold : ∀ (calls : List BusCall) (world : BusWorld),
      Kept [] [] world → Settled world →
      Kept [] [] (calls.foldl (call env) world) ∧
        Settled (calls.foldl (call env) world) := by
    intro calls
    induction calls with
    | nil => exact fun _ hkept hsettled => ⟨hkept, hsettled⟩
    | cons request calls ih =>
        intro world hkept hsettled
        obtain ⟨hnext, hrest⟩ := call_kept hquiet hkept hsettled request
        exact ih _ hnext hrest
  exact hfold calls _ (init_kept port) (init_settled port)

/-- Entries with pairwise different keys: a key selects its one entry. -/
theorem filter_key_eq {α β : Type*} [DecidableEq β] {key : α → β}
    {entries : List α} {entry : α} (hdistinct : (entries.map key).Nodup)
    (hmem : entry ∈ entries) :
    entries.filter (key · = key entry) = [entry] := by
  induction entries with
  | nil => exact absurd hmem List.not_mem_nil
  | cons first entries ih =>
      obtain ⟨hfirst, hrest⟩ := List.nodup_cons.mp hdistinct
      rcases List.mem_cons.mp hmem with rfl | hmem
      · rw [List.filter_cons_of_pos (by simp), List.filter_eq_nil_iff.mpr]
        intro other hother heq
        apply hfirst
        rw [← of_decide_eq_true heq]
        exact List.mem_map_of_mem hother
      · rw [List.filter_cons_of_neg, ih hrest hmem]
        intro heq
        apply hfirst
        rw [of_decide_eq_true heq]
        exact List.mem_map_of_mem hmem

theorem mem_accepted {trace : List BusEvent}
    (hmem : .accepted transaction ∈ trace) :
    transaction.identity ∈ accepted trace :=
  List.mem_filterMap.mpr ⟨_, hmem, rfl⟩

/-- At rest every identity is in exactly one place, and every transaction id
belongs to one of them. -/
theorem Ledger.at_rest (hledger : Ledger [] [] world) :
    List.Perm (accepted world.trace)
        (notified world.trace ++ (live world.bus).map (·.identity)) ∧
      ((notified world.trace ++ (live world.bus).map (·.identity)).map
        (·.transactionId)).Nodup := by
  have hbalanced := hledger.balanced
  have hdistinct := hledger.distinct
  simp only [List.map_nil, List.append_nil, List.nil_append] at hbalanced hdistinct
  exact ⟨hbalanced, (hbalanced.map _).nodup_iff.mp hdistinct⟩

/-- An accepted transaction has been notified once and is over, or has not been
notified and is active or pending. -/
theorem Ledger.once (hledger : Ledger [] [] world)
    (haccepted : .accepted transaction ∈ world.trace) :
    ((notified world.trace).filter
          (·.transactionId = transaction.transactionId) =
        [transaction.identity] ∧
      transaction.identity ∉ (live world.bus).map (·.identity)) ∨
    ((notified world.trace).filter
          (·.transactionId = transaction.transactionId) = [] ∧
      ((live world.bus).map (·.identity)).count transaction.identity = 1) := by
  obtain ⟨hperm, hdistinct⟩ := hledger.at_rest
  have hplace := hperm.mem_iff.mp (mem_accepted haccepted)
  have hselect := filter_key_eq hdistinct hplace
  rw [List.map_append, List.nodup_append] at hdistinct
  obtain ⟨hnotified, hlive, hapart⟩ := hdistinct
  rcases List.mem_append.mp hplace with hmem | hmem
  · left
    refine ⟨filter_key_eq hnotified hmem, fun hother => ?_⟩
    exact hapart _ (List.mem_map_of_mem hmem) _ (List.mem_map_of_mem hother) rfl
  · right
    constructor
    · rw [List.filter_eq_nil_iff]
      intro other hother heq
      exact hapart _ (List.mem_map_of_mem hother) _ (List.mem_map_of_mem hmem)
        (of_decide_eq_true heq)
    · exact List.count_eq_one_of_mem (List.Nodup.of_map _ hlive) hmem

/-- No completion is accepted for a transaction that has been notified. -/
theorem Ledger.refuses_ended (hledger : Ledger [] [] world)
    (key : CompletionKey) (result : I2cTransactionResult)
    (hended : ∃ identity ∈ notified world.trace,
      identity.transactionId = key.transactionId) :
    (complete env world key result).1 = false := by
  unfold complete
  split_ifs with hstale
  · rfl
  · exfalso
    simp only [not_or, Bool.not_eq_true', Bool.not_eq_false, not_not] at hstale
    obtain ⟨hbusy, -, hid, -⟩ := hstale
    obtain ⟨identity, hmem, heq⟩ := hended
    have hactive : world.bus.active ∈ live world.bus := by
      simp [live, holder, hbusy]
    obtain ⟨-, hdistinct⟩ := hledger.at_rest
    rw [List.map_append, List.nodup_append] at hdistinct
    apply hdistinct.2.2 _ (List.mem_map_of_mem hmem) _
      (List.mem_map_of_mem (List.mem_map_of_mem hactive))
    exact heq.trans hid

/-- What the clients of the bus may rely on between two calls. -/
structure ExactlyOnce (env : BusEnvironment) (world : BusWorld) : Prop where
  /-- An accepted transaction has been notified once under its own ids and is
  over, or has not been notified and is active or pending once. -/
  once : ∀ transaction, .accepted transaction ∈ world.trace →
    ((notified world.trace).filter
          (·.transactionId = transaction.transactionId) =
        [transaction.identity] ∧
      transaction.identity ∉ (live world.bus).map (·.identity)) ∨
    ((notified world.trace).filter
          (·.transactionId = transaction.transactionId) = [] ∧
      ((live world.bus).map (·.identity)).count transaction.identity = 1)
  /-- Nothing else is notified. -/
  only : ∀ identity ∈ notified world.trace, identity ∈ accepted world.trace
  /-- The port never held two transactions. -/
  exclusive : Exclusive world.trace
  /-- A completion of an ended transaction is refused. -/
  refuses : ∀ key result,
    (∃ identity ∈ notified world.trace,
      identity.transactionId = key.transactionId) →
    (complete env world key result).1 = false
  /-- A free bus has nothing pending. -/
  settled : world.bus.busy = false → world.bus.pending = []

/-- Exactly-once completion over every run with fewer than `2 ^ 32`
transactions and with callbacks that stay quiet on a cancellation. -/
theorem completion_exactly_once (env : BusEnvironment)
    (hquiet : BusEnvironment.QuietOnCancelled env) (port : Option I2cPort)
    (calls : List BusCall) (hids : issued (run env port calls).trace < 2 ^ 32) :
    ExactlyOnce env (run env port calls) := by
  obtain ⟨hkept, hsettled⟩ := run_kept hquiet port calls
  have hledger : Ledger [] [] (run env port calls) := hkept hids
  refine ⟨fun transaction => hledger.once, ?_, hledger.exclusive,
    hledger.refuses_ended, hsettled⟩
  intro identity hmem
  exact hledger.at_rest.1.mem_iff.mpr (List.mem_append_left _ hmem)

/-- A client that answers every outcome but a cancellation with one more
request, on a port that takes everything. -/
def resubmitting : BusEnvironment :=
  { portSubmit := fun _ _ => .ok
    onComplete := fun _ completion =>
      if completion.result = .cancelled then .done
      else
        .submit
          { clientId := 1, correlationId := 9, clientGeneration := 1
            slaveAddress := 0x50, tx := none, txLength := 0, rx := some 0
            rxLength := 4, deadlineUs := 500, priority := 0 }
          fun _ => .done }

/-- One read that completes, and the client's next one still active. -/
def resubmittingCalls : List BusCall :=
  [.registerClient
      { clientId := 1, clientGeneration := 1, addressBase := 0x50
        addressMask := 0xFE, onComplete := true },
    .submit
      { clientId := 1, correlationId := 7, clientGeneration := 1
        slaveAddress := 0x50, tx := none, txLength := 0, rx := some 0
        rxLength := 2, deadlineUs := 100, priority := 0 },
    .complete ⟨1, 7, 1, 1⟩ .ok]

theorem completion_exactly_once_resubmitting :
    ExactlyOnce resubmitting
        (run resubmitting (some ⟨true, true, true⟩) resubmittingCalls) ∧
      notified (run resubmitting (some ⟨true, true, true⟩)
        resubmittingCalls).trace = [⟨1, 1, 7, 1⟩] :=
  ⟨completion_exactly_once resubmitting
      (fun _ _ hcancelled => if_pos hcancelled) (some ⟨true, true, true⟩)
      resubmittingCalls (by decide +kernel),
    by decide +kernel⟩

end I2cBus
end Swfpm
