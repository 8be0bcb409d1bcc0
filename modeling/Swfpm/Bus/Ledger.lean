import Swfpm.Bus.I2cBusManager

/-!
# The ledger of the bus

The ledger of a world compares what was accepted with what was notified and
what is still active or pending.  `Ledger owed offered world` allows for the
middle of a step: `owed` is off the bus and not yet notified, `offered` is
created and not yet accepted.  At rest both are empty.
-/

namespace Swfpm

/-- The ids under which a transaction was accepted. -/
structure TransactionIdentity where
  clientId : UInt32
  transactionId : UInt32
  correlationId : UInt32
  clientGeneration : UInt32
  deriving DecidableEq, Repr

def I2cPendingTransaction.identity (transaction : I2cPendingTransaction) :
    TransactionIdentity :=
  ⟨transaction.clientId, transaction.transactionId, transaction.correlationId,
    transaction.clientGeneration⟩

def I2cTransactionCompletion.identity (completion : I2cTransactionCompletion) :
    TransactionIdentity :=
  ⟨completion.clientId, completion.transactionId, completion.correlationId,
    completion.clientGeneration⟩

namespace I2cBus

/-! ## Reading the trace -/

def accepted (trace : List BusEvent) : List TransactionIdentity :=
  trace.filterMap fun
    | .accepted transaction => some transaction.identity
    | _ => none

def notified (trace : List BusEvent) : List TransactionIdentity :=
  trace.filterMap fun
    | .notified completion => some completion.identity
    | _ => none

/-- Ids of the transactions that the port took. -/
def taken (trace : List BusEvent) : List UInt32 :=
  trace.filterMap fun
    | .portSubmit request .ok => some request.transactionId
    | _ => none

/-- How many transactions were created. -/
def issued (trace : List BusEvent) : ℕ :=
  (trace.filter fun
    | .issued _ => true
    | _ => false).length

/-- The port took the transaction, and its client has not heard of its end. -/
def OnPort (trace : List BusEvent) (transactionId : UInt32) : Prop :=
  transactionId ∈ taken trace ∧
    ∀ identity ∈ notified trace, identity.transactionId ≠ transactionId

/-- At no time are two transactions on the port. -/
def Exclusive (trace : List BusEvent) : Prop :=
  ∀ older, older <:+ trace → ∀ first second,
    OnPort older first → OnPort older second → first = second

/-- The transaction that holds the bus. -/
def holder (bus : I2cBusManager) : List I2cPendingTransaction :=
  if bus.busy then [bus.active] else []

/-- What the bus still has to end. -/
def live (bus : I2cBusManager) : List I2cPendingTransaction :=
  holder bus ++ bus.pending

/-! ## The ledger -/

structure Ledger (owed offered : List I2cPendingTransaction)
    (world : BusWorld) : Prop where
  balanced : List.Perm
    (accepted world.trace ++ offered.map (·.identity))
    (notified world.trace ++ (owed ++ live world.bus).map (·.identity))
  distinct : ((accepted world.trace ++ offered.map (·.identity)).map
    (·.transactionId)).Nodup
  next_id : world.bus.nextTransactionId = UInt32.ofNat (issued world.trace + 1)
  ids : ∀ identity ∈ accepted world.trace ++ offered.map (·.identity),
    identity.transactionId.toNat ≤ issued world.trace
  callbacks : ∀ client ∈ world.bus.clients, client.onComplete = true
  known : ∀ transaction ∈ owed ++ live world.bus,
    transaction.clientId ∈ world.bus.clients.map (·.clientId)
  held : ∀ transactionId ∈ taken world.trace,
    (∃ identity ∈ notified world.trace,
      identity.transactionId = transactionId) ∨
    ∃ transaction ∈ owed ++ holder world.bus,
      transaction.transactionId = transactionId
  exclusive : Exclusive world.trace

/-- The ledger of a run with fewer than `2 ^ 32` transactions. -/
def Kept (owed offered : List I2cPendingTransaction) (world : BusWorld) :
    Prop :=
  issued world.trace < 2 ^ 32 → Ledger owed offered world

variable {env : BusEnvironment} {world : BusWorld}
  {owed offered : List I2cPendingTransaction} {transaction : I2cPendingTransaction}

theorem OnPort.holds {transactionId : UInt32} (hledger : Ledger owed offered world)
    (honPort : OnPort world.trace transactionId) :
    ∃ transaction ∈ owed ++ holder world.bus,
      transaction.transactionId = transactionId := by
  rcases hledger.held transactionId honPort.1 with ⟨identity, hmem, heq⟩ | hheld
  · exact absurd heq (honPort.2 identity hmem)
  · exact hheld

theorem Exclusive.cons {event : BusEvent} {trace : List BusEvent}
    (htrace : Exclusive trace)
    (hnow : ∀ first second, OnPort (event :: trace) first →
      OnPort (event :: trace) second → first = second) :
    Exclusive (event :: trace) := by
  intro older holder
  rcases List.suffix_cons_iff.mp holder with rfl | holder
  · exact hnow
  · exact htrace older holder

/-- An event that neither starts nor ends anything. -/
def Neutral : BusEvent → Prop
  | .portCancel _ _ | .portRecover _ => True
  | .portSubmit _ status => status ≠ .ok
  | _ => False

theorem Neutral.reads {event : BusEvent} (hneutral : Neutral event)
    (trace : List BusEvent) :
    accepted (event :: trace) = accepted trace ∧
      notified (event :: trace) = notified trace ∧
      taken (event :: trace) = taken trace ∧
      issued (event :: trace) = issued trace := by
  cases event with
  | portCancel | portRecover => exact ⟨rfl, rfl, rfl, rfl⟩
  | portSubmit request status =>
      cases status with
      | ok => exact absurd rfl hneutral
      | timeout | unavailable | invalidParam | hardwareError | busy =>
          exact ⟨rfl, rfl, rfl, rfl⟩
  | issued | accepted | notified => exact hneutral.elim

/-- A neutral event changes nothing in the ledger. -/
theorem Kept.log {event : BusEvent} (hkept : Kept owed offered world)
    (hneutral : Neutral event) : Kept owed offered (world.log event) := by
  intro hissued
  obtain ⟨haccepted, hnotified, htaken, hcount⟩ := hneutral.reads world.trace
  have hledger := hkept (by simpa [BusWorld.log, hcount] using hissued)
  have honPort : ∀ id, OnPort (event :: world.trace) id → OnPort world.trace id := by
    intro id
    simp only [OnPort, htaken, hnotified]
    exact fun h => h
  constructor
  all_goals simp only [BusWorld.log, haccepted, hnotified, htaken, hcount]
  · exact hledger.balanced
  · exact hledger.distinct
  · exact hledger.next_id
  · exact hledger.ids
  · exact hledger.callbacks
  · exact hledger.known
  · exact hledger.held
  · apply hledger.exclusive.cons
    intro first second hfirst hsecond
    exact hledger.exclusive _ List.suffix_rfl first second (honPort first hfirst)
      (honPort second hsecond)

/-- The ledger reads five parts of the bus. -/
theorem Kept.of_bus {bus : I2cBusManager} (hkept : Kept owed offered world)
    (hclients : world.bus.clients.map (·.clientId) ⊆
      bus.clients.map (·.clientId))
    (hcallbacks : (∀ client ∈ world.bus.clients, client.onComplete = true) →
      ∀ client ∈ bus.clients, client.onComplete = true)
    (hlive : live bus = live world.bus) (hholder : holder bus = holder world.bus)
    (hnext : bus.nextTransactionId = world.bus.nextTransactionId) :
    Kept owed offered ⟨bus, world.trace⟩ := by
  intro hissued
  have hledger := hkept hissued
  constructor
  · simpa only [hlive] using hledger.balanced
  · exact hledger.distinct
  · exact hnext.trans hledger.next_id
  · exact hledger.ids
  · exact hcallbacks hledger.callbacks
  · intro transaction hmem
    rw [hlive] at hmem
    exact hclients (hledger.known transaction hmem)
  · simpa only [hholder] using hledger.held
  · exact hledger.exclusive

/-! ## Starting -/

/-- A port that refuses leaves the ledger as it was. -/
theorem Kept.portRefused (hkept : Kept owed offered world)
    (hfree : world.bus.busy = false) {request : I2cPortRequest}
    {status : PortStatus} (hstatus : status ≠ .ok) :
    Kept owed offered
      ⟨{ world.bus with busy := false, active := .cleared },
        .portSubmit request status :: world.trace⟩ := by
  have hneutral : Neutral (.portSubmit request status) := hstatus
  have hholder : holder { world.bus with busy := false, active := .cleared } =
      holder world.bus := by
    simp [holder, hfree]
  have hlive : live { world.bus with busy := false, active := .cleared } =
      live world.bus := by
    rw [live, live, hholder]
  exact (hkept.log hneutral).of_bus (List.Subset.refl _) (fun h => h) hlive hholder rfl

/-- A free bus that could not start a transaction. -/
theorem startTransaction_refused (hfree : world.bus.busy = false) {next : BusWorld}
    (hstart : startTransaction env world transaction = (false, next)) :
    next.bus.busy = false ∧ next.bus.pending = world.bus.pending ∧
      ∀ owed offered, Kept owed offered world → Kept owed offered next := by
  unfold startTransaction at hstart
  split at hstart
  · obtain rfl := (Prod.mk.inj hstart).2
    exact ⟨hfree, rfl, fun _ _ hkept => hkept⟩
  · dsimp only at hstart
    split_ifs at hstart with hguard hstatus
    · obtain rfl := (Prod.mk.inj hstart).2
      exact ⟨hfree, rfl, fun _ _ hkept => hkept⟩
    · obtain rfl := (Prod.mk.inj hstart).2
      exact ⟨rfl, rfl, fun _ _ hkept => hkept.portRefused hfree hstatus⟩
    · simp at hstart

/-- A free bus that started a transaction. -/
theorem startTransaction_started {next : BusWorld}
    (hstart : startTransaction env world transaction = (true, next)) :
    transaction.clientId ∈ world.bus.clients.map (·.clientId) ∧
      ∃ request, request.transactionId = transaction.transactionId ∧
        next =
          ⟨{ world.bus with
              busy := true
              active := transaction.onGeneration world.bus.busGeneration },
            .portSubmit request .ok :: world.trace⟩ := by
  unfold startTransaction at hstart
  split at hstart
  · simp at hstart
  · next client hfind =>
      dsimp only at hstart
      split_ifs at hstart with hguard hstatus
      · simp at hstart
      · simp at hstart
      · obtain rfl := (Prod.mk.inj hstart).2
        have hmem := List.mem_of_find?_eq_some hfind
        have hid : client.clientId = transaction.clientId := by
          simpa using List.find?_some hfind
        refine ⟨List.mem_map.mpr ⟨client, hmem, hid⟩,
          (transaction.onGeneration world.bus.busGeneration).portRequest, rfl, ?_⟩
        simp only [BusWorld.log, not_not.mp hstatus]

theorem holder_free {bus : I2cBusManager} (hfree : bus.busy = false) :
    holder bus = [] := by
  simp [holder, hfree]

theorem live_free {bus : I2cBusManager} (hfree : bus.busy = false) :
    live bus = bus.pending := by
  simp [live, holder, hfree]

/-- Starting what was owed puts it on the bus. -/
theorem Kept.started (hkept : Kept [transaction] offered world)
    (hfree : world.bus.busy = false) {next : BusWorld}
    (hstart : startTransaction env world transaction = (true, next)) :
    Kept [] offered next := by
  intro hissued
  obtain ⟨hclient, request, hrequest, rfl⟩ := startTransaction_started hstart
  have hledger := hkept hissued
  have hholder := holder_free hfree
  have honly : ∀ id, OnPort world.trace id → id = transaction.transactionId := by
    intro id honPort
    obtain ⟨held, hmem, rfl⟩ := honPort.holds hledger
    rw [hholder] at hmem
    rw [List.mem_singleton.mp hmem]
  constructor
  · have hbalanced := hledger.balanced
    rw [live_free hfree] at hbalanced
    exact hbalanced
  · exact hledger.distinct
  · exact hledger.next_id
  · exact hledger.ids
  · exact hledger.callbacks
  · have hknown := hledger.known
    rw [live_free hfree] at hknown
    intro other hmem
    rcases List.mem_cons.mp hmem with rfl | hmem
    · exact hclient
    · exact hknown other (List.mem_cons_of_mem _ hmem)
  · intro id htaken
    rcases List.mem_cons.mp htaken with rfl | htaken
    · refine Or.inr ⟨_, List.mem_singleton.mpr rfl, hrequest.symm⟩
    · rcases hledger.held id htaken with hended | ⟨held, hmem, heq⟩
      · exact Or.inl hended
      · rw [hholder] at hmem
        rw [List.mem_singleton.mp hmem] at heq
        exact Or.inr ⟨_, List.mem_singleton.mpr rfl, heq⟩
  · apply hledger.exclusive.cons
    have hnew : ∀ id, OnPort (.portSubmit request .ok :: world.trace) id →
        id = transaction.transactionId := by
      intro id honPort
      rcases List.mem_cons.mp honPort.1 with rfl | htaken
      · exact hrequest
      · exact honly id ⟨htaken, honPort.2⟩
    intro first second hfirst hsecond
    rw [hnew first hfirst, hnew second hsecond]

/-! ## Submitting -/

/-- Creating a transaction consumes a fresh id. -/
theorem issueId_spec (hledger : Ledger [] [] world)
    (hroom : issued world.trace + 1 < 2 ^ 32) :
    (issueId world.bus.nextTransactionId).1.toNat = issued world.trace + 1 ∧
      (issueId world.bus.nextTransactionId).2 =
        UInt32.ofNat (issued world.trace + 2) := by
  have hnext := hledger.next_id
  have hvalue : (UInt32.ofNat (issued world.trace + 1)).toNat =
      issued world.trace + 1 := by
    rw [UInt32.toNat_ofNat', Nat.mod_eq_of_lt hroom]
  have hnonzero : world.bus.nextTransactionId ≠ 0 := by
    intro hzero
    rw [hnext] at hzero
    rw [hzero] at hvalue
    exact absurd hvalue (by simp)
  unfold issueId
  rw [if_neg hnonzero, hnext]
  refine ⟨hvalue, ?_⟩
  rw [← UInt32.ofNat_one, ← UInt32.ofNat_add]

/-- No transaction is on the port while the bus is free and nothing is owed. -/
theorem Ledger.port_idle (hledger : Ledger [] offered world)
    (hfree : world.bus.busy = false) (id : UInt32) : ¬ OnPort world.trace id := by
  intro honPort
  obtain ⟨held, hmem, -⟩ := honPort.holds hledger
  rw [holder_free hfree] at hmem
  exact absurd hmem List.not_mem_nil

theorem Exclusive.issued {trace : List BusEvent} (htrace : Exclusive trace)
    (id : UInt32) : Exclusive (.issued id :: trace) := by
  apply htrace.cons
  intro first second hfirst hsecond
  exact htrace _ List.suffix_rfl first second hfirst hsecond

variable {request : I2cBusRequest}

/-- Creation by itself keeps the ledger. -/
theorem Kept.create (hkept : Kept [] [] world) :
    Kept [] [] (createTransaction world request).2 := by
  intro hissued
  have hcount : I2cBus.issued (createTransaction world request).2.trace =
      I2cBus.issued world.trace + 1 := rfl
  have h := hkept (by omega)
  obtain ⟨-, hnext⟩ := issueId_spec h (by omega)
  refine ⟨h.balanced, h.distinct, ?_, ?_, h.callbacks, h.known, h.held,
    h.exclusive.issued _⟩
  · rw [hcount]
    exact hnext
  · intro identity hmem
    rw [hcount]
    exact (h.ids identity hmem).trans (Nat.le_succ _)

/-- The new transaction may be entered in the ledger as offered and owed. -/
theorem Kept.offer (hkept : Kept [] [] world)
    (hclient : request.clientId ∈ world.bus.clients.map (·.clientId)) :
    Kept [(createTransaction world request).1]
      [(createTransaction world request).1]
      (createTransaction world request).2 := by
  intro hissued
  have hcount : I2cBus.issued (createTransaction world request).2.trace =
      I2cBus.issued world.trace + 1 := rfl
  have hold := hkept (by omega)
  have h := hkept.create hissued
  obtain ⟨hvalue, -⟩ := issueId_spec hold (by omega)
  have hids := hold.ids
  have hdistinct := h.distinct
  have hbalanced := h.balanced
  simp only [List.map_nil, List.append_nil] at hids hdistinct hbalanced
  have hid : (createTransaction world request).1.identity.transactionId.toNat =
      I2cBus.issued world.trace + 1 := hvalue
  refine ⟨?_, ?_, h.next_id, ?_, h.callbacks, ?_, ?_, h.exclusive⟩
  · apply (List.perm_append_singleton _ _).trans
    exact (hbalanced.cons _).trans List.perm_middle.symm
  · rw [List.map_append, List.nodup_append]
    refine ⟨hdistinct, List.nodup_singleton _, ?_⟩
    intro old holdMem new hnew heq
    obtain ⟨identity, hmem, rfl⟩ := List.mem_map.mp holdMem
    have hle := hids identity hmem
    have hnew' := List.mem_singleton.mp hnew
    rw [heq, hnew', hid] at hle
    omega
  · intro identity hmem
    rcases List.mem_append.mp hmem with hmem | hmem
    · exact (hids identity hmem).trans (by omega)
    · rw [List.mem_singleton.mp hmem, hid, hcount]
  · intro other hmem
    rcases List.mem_cons.mp hmem with rfl | hmem
    · exact hclient
    · exact h.known other hmem
  · intro id htaken
    rcases h.held id htaken with hended | ⟨held, hmem, heq⟩
    · exact Or.inl hended
    · exact Or.inr ⟨held, List.mem_cons_of_mem _ hmem, heq⟩

/-- Accepting settles the offer. -/
theorem Kept.accept (hkept : Kept [] [transaction] world) :
    Kept [] [] (world.log (.accepted transaction)) := by
  intro hissued
  have h := hkept hissued
  have hperm : List.Perm
      (accepted (.accepted transaction :: world.trace) ++ [])
      (accepted world.trace ++ [transaction].map (·.identity)) := by
    rw [List.append_nil]
    exact (List.perm_append_singleton _ _).symm
  refine ⟨hperm.trans h.balanced, ?_, h.next_id, ?_, h.callbacks, h.known,
    h.held, ?_⟩
  · exact ((hperm.map _).nodup_iff).mpr h.distinct
  · intro identity hmem
    exact h.ids identity (hperm.mem_iff.mp hmem)
  · exact h.exclusive.cons fun first second hfirst hsecond =>
      h.exclusive _ List.suffix_rfl first second hfirst hsecond

/-- A transaction that waits is no longer owed; it was never on the port. -/
theorem Kept.enqueue (hidle : Kept [] [] world)
    (hkept : Kept [transaction] offered world) :
    Kept [] offered
      { world with
        bus :=
          { world.bus with pending := world.bus.pending ++ [transaction] } } := by
  intro hissued
  have h := hkept hissued
  have hlive : List.Perm
      (live { world.bus with pending := world.bus.pending ++ [transaction] })
      ([transaction] ++ live world.bus) := by
    simp only [live, holder, ← List.append_assoc]
    exact List.perm_append_singleton _ _
  refine ⟨h.balanced.trans ?_, h.distinct, h.next_id, h.ids, h.callbacks, ?_, ?_,
    h.exclusive⟩
  · exact ((hlive.map _).append_left _).symm
  · intro other hmem
    exact h.known other (hlive.mem_iff.mp hmem)
  · exact (hidle hissued).held

/-- Counters and admission numbers do not enter the ledger. -/
theorem Kept.rejected (hkept : Kept owed offered world) :
    Kept owed offered
      { world with
        bus :=
          { world.bus with rejectedCount := world.bus.rejectedCount + 1 } } :=
  hkept.of_bus (List.Subset.refl _) (fun h => h) rfl rfl rfl

theorem checkRequest_client {request : I2cBusRequest}
    (hcheck : checkRequest world.bus request = none) :
    request.clientId ∈ world.bus.clients.map (·.clientId) := by
  unfold checkRequest at hcheck
  split_ifs at hcheck
  split at hcheck
  · simp at hcheck
  · next client hfind =>
      have hid : client.clientId = request.clientId := by
        simpa using List.find?_some hfind
      exact List.mem_map.mpr ⟨client, List.mem_of_find?_eq_some hfind, hid⟩

/-- The end of `submit` settles the offer one way or the other. -/
theorem admitTransaction_kept (hidle : Kept [] [] world)
    (hoffer : Kept [transaction] [transaction] world) :
    Kept [] [] (admitTransaction env world transaction).2 := by
  unfold admitTransaction
  split_ifs with hfree hfull
  · have hfree : world.bus.busy = false := by simpa using hfree
    cases hstart : startTransaction env world transaction with
    | mk started next =>
        cases started with
        | false =>
            obtain ⟨-, -, hsame⟩ := startTransaction_refused hfree hstart
            exact (hsame _ _ hidle).rejected
        | true =>
            exact (hoffer.started hfree hstart).accept
  · exact hidle.rejected
  · apply Kept.accept
    exact (hidle.enqueue hoffer).of_bus (List.Subset.refl _) (fun h => h) rfl rfl
      rfl

theorem submit_kept (hkept : Kept [] [] world) (request : I2cBusRequest) :
    Kept [] [] (submit env world request).2 := by
  unfold submit
  cases hcheck : checkRequest world.bus request with
  | some refusal => exact hkept
  | none =>
      have hidle : Kept [] [] (createTransaction world request).2 := hkept.create
      exact admitTransaction_kept hidle
        (hkept.offer (checkRequest_client hcheck))

/-! ## Notifying -/

theorem runProgram_kept (hkept : Kept [] [] world) (program : ClientProgram) :
    Kept [] [] (runProgram env world program) := by
  induction program generalizing world with
  | done => exact hkept
  | submit request andThen ih =>
      exact ih (submit env world request).1 (submit_kept hkept request)

/-- A notification pays what is owed. -/
theorem Kept.pay (hkept : Kept [transaction] [] world)
    {completion : I2cTransactionCompletion}
    (hsame : completion.identity = transaction.identity) :
    Kept [] [] (world.log (.notified completion)) := by
  intro hissued
  have h := hkept hissued
  have hnotified : notified (.notified completion :: world.trace) =
      transaction.identity :: notified world.trace :=
    congrArg (· :: notified world.trace) hsame
  have hid : completion.identity.transactionId = transaction.transactionId :=
    congrArg (·.transactionId) hsame
  refine ⟨?_, h.distinct, h.next_id, h.ids, h.callbacks, ?_, ?_, ?_⟩
  · simp only [BusWorld.log, hnotified]
    exact h.balanced.trans List.perm_middle
  · intro other hmem
    exact h.known other (List.mem_cons_of_mem _ hmem)
  · intro id htaken
    rcases h.held id htaken with ⟨identity, hmem, heq⟩ | ⟨held, hmem, heq⟩
    · exact Or.inl ⟨identity, List.mem_cons_of_mem _ hmem, heq⟩
    · rcases List.mem_cons.mp hmem with rfl | hmem
      · exact Or.inl ⟨completion.identity, List.mem_cons_self, hid.trans heq⟩
      · exact Or.inr ⟨held, hmem, heq⟩
  · apply h.exclusive.cons
    have hearlier : ∀ id, OnPort (.notified completion :: world.trace) id →
        OnPort world.trace id := fun id honPort =>
      ⟨honPort.1, fun identity hmem =>
        honPort.2 identity (List.mem_cons_of_mem _ hmem)⟩
    intro first second hfirst hsecond
    exact h.exclusive _ List.suffix_rfl first second (hearlier first hfirst)
      (hearlier second hsecond)

/-- The world right after a client has been told, before its callback acts. -/
theorem notify_eq (hkept : Kept [transaction] [] world)
    (hissued : issued world.trace < 2 ^ 32) (result : I2cTransactionResult) :
    ∃ completion : I2cTransactionCompletion,
      completion.identity = transaction.identity ∧ completion.result = result ∧
      notify env world transaction result =
        runProgram env (world.log (.notified completion))
          (env.onComplete (.notified completion :: world.trace) completion) := by
  have h := hkept hissued
  have hmem := h.known transaction List.mem_cons_self
  obtain ⟨known, hknown, hid⟩ := List.mem_map.mp hmem
  have hsome : (findClient world.bus transaction.clientId).isSome := by
    rw [findClient, List.find?_isSome]
    exact ⟨known, hknown, by simpa using hid⟩
  obtain ⟨client, hfind⟩ := Option.isSome_iff_exists.mp hsome
  have hcallback := h.callbacks client (List.mem_of_find?_eq_some hfind)
  refine ⟨⟨transaction.clientId, transaction.transactionId,
    transaction.correlationId, transaction.clientGeneration,
    transaction.busGeneration, result⟩, rfl, rfl, ?_⟩
  simp only [notify, hfind, hcallback, BusWorld.log]
  rfl

/-! Ids are only ever issued, never taken back. -/

theorem issued_startTransaction :
    issued (startTransaction env world transaction).2.trace =
      issued world.trace := by
  unfold startTransaction
  split
  · rfl
  · dsimp only
    split_ifs <;> rfl

theorem issued_admitTransaction :
    issued (admitTransaction env world transaction).2.trace =
      issued world.trace := by
  have hstart : issued (startTransaction env world transaction).2.trace =
      issued world.trace := issued_startTransaction
  unfold admitTransaction
  split_ifs
  · cases hcase : startTransaction env world transaction with
    | mk started next =>
        rw [hcase] at hstart
        cases started <;> exact hstart
  · rfl
  · rfl

theorem issued_submit_le :
    issued world.trace ≤ issued (submit env world request).2.trace := by
  unfold submit
  split
  · exact le_rfl
  · dsimp only
    rw [issued_admitTransaction]
    exact Nat.le_succ _

theorem issued_runProgram_le (program : ClientProgram) :
    issued world.trace ≤ issued (runProgram env world program).trace := by
  induction program generalizing world with
  | done => exact le_rfl
  | submit request andThen ih =>
      exact issued_submit_le.trans (ih (submit env world request).1)

theorem issued_notify_le (result : I2cTransactionResult) :
    issued world.trace ≤ issued (notify env world transaction result).trace := by
  unfold notify
  split
  · exact le_rfl
  · dsimp only
    split_ifs
    · exact le_rfl
    · refine (le_of_eq ?_).trans (issued_runProgram_le _)
      rfl

/-- `notify`, callback included, pays what is owed. -/
theorem notify_kept (hkept : Kept [transaction] [] world)
    (result : I2cTransactionResult) :
    Kept [] [] (notify env world transaction result) := by
  intro hissued
  have hbefore : issued world.trace < 2 ^ 32 :=
    lt_of_le_of_lt (issued_notify_le result) hissued
  obtain ⟨completion, hidentity, -, heq⟩ := notify_eq hkept hbefore result
  rw [heq] at hissued ⊢
  exact runProgram_kept (hkept.pay hidentity) _ hissued

/-! ## Taking a transaction off the bus -/

theorem Kept.clearActive (hkept : Kept [] [] world)
    (hbusy : world.bus.busy = true) :
    Kept [world.bus.active] [] (clearActive world) := by
  intro hissued
  have h := hkept hissued
  have hholder : holder world.bus = [world.bus.active] := by
    simp [holder, hbusy]
  have hbalanced := h.balanced
  have hknown := h.known
  have hheld := h.held
  rw [live, hholder] at hbalanced hknown
  rw [hholder] at hheld
  exact ⟨hbalanced, h.distinct, h.next_id, h.ids, h.callbacks, hknown, hheld,
    h.exclusive⟩

theorem Kept.removePending (hkept : Kept [] [] world) {index : ℕ}
    (hindex : index < world.bus.pending.length) :
    Kept [world.bus.pending[index]] [] (removePending world index) := by
  intro hissued
  have h := hkept hissued
  have hperm : List.Perm
      ([world.bus.pending[index]] ++ live (I2cBus.removePending world index).bus)
      (live world.bus) := by
    have hfront : List.Perm
        (world.bus.pending[index] ::
          (holder world.bus ++ world.bus.pending.eraseIdx index))
        (holder world.bus ++
          world.bus.pending[index] :: world.bus.pending.eraseIdx index) :=
      List.perm_middle.symm
    exact hfront.trans
      ((List.getElem_cons_eraseIdx_perm hindex).append_left _)
  refine ⟨h.balanced.trans ?_, h.distinct, h.next_id, h.ids, h.callbacks, ?_, ?_,
    h.exclusive⟩
  · exact ((hperm.symm.map _).append_left _)
  · intro other hmem
    exact h.known other (hperm.mem_iff.mp hmem)
  · intro id htaken
    rcases h.held id htaken with hended | ⟨held, hmem, heq⟩
    · exact Or.inl hended
    · exact Or.inr ⟨held, List.mem_cons_of_mem _ hmem, heq⟩

theorem bestFrom_lt {best index : ℕ} {chosen : I2cPendingTransaction}
    (rest : List I2cPendingTransaction) (hbest : best < index) :
    bestFrom best chosen index rest < index + rest.length := by
  induction rest generalizing best index chosen with
  | nil => simpa [bestFrom] using hbest
  | cons transaction rest ih =>
      rw [bestFrom, List.length_cons, ← Nat.add_assoc, Nat.add_right_comm]
      split_ifs
      · exact ih (Nat.lt_succ_self index)
      · exact ih (Nat.lt_succ_of_lt hbest)

theorem bestPendingIndex_lt {pending : List I2cPendingTransaction}
    (hpending : pending.length ≠ 0) :
    bestPendingIndex pending < pending.length := by
  cases pending with
  | nil => exact absurd rfl hpending
  | cons transaction rest =>
      rw [bestPendingIndex, List.length_cons, Nat.add_comm]
      exact bestFrom_lt rest Nat.zero_lt_one

/-- `start_next` keeps the ledger however many rounds it takes. -/
theorem startNextLoop_kept (hkept : Kept [] [] world) (fuel : ℕ) :
    Kept [] [] (startNextLoop env fuel world) := by
  induction fuel generalizing world with
  | zero => exact hkept
  | succ fuel ih =>
      rw [startNextLoop]
      split_ifs with hdone
      · exact hkept
      · obtain ⟨hnotBusy, hpending⟩ := not_or.mp hdone
        have hfree : (removePending world
            (bestPendingIndex world.bus.pending)).bus.busy = false :=
          Bool.eq_false_iff.mpr hnotBusy
        have hindex := bestPendingIndex_lt hpending
        have howed := hkept.removePending hindex
        dsimp only
        rw [List.getD_eq_getElem _ _ hindex]
        cases hstart : startTransaction env
            (removePending world (bestPendingIndex world.bus.pending))
            world.bus.pending[bestPendingIndex world.bus.pending] with
        | mk started next =>
            cases started with
            | true => exact howed.started hfree hstart
            | false =>
                obtain ⟨-, -, hsame⟩ := startTransaction_refused hfree hstart
                exact ih (notify_kept (hsame _ _ howed).rejected .failed)

end I2cBus
end Swfpm
