import Swfpm.Bus.I2cBusManager

/-!
# What the bus keeps

Port and clients are set up once: no transaction changes them.  A free bus
starts the request of a registered client at once.
-/

namespace Swfpm
namespace I2cBus

variable {env : BusEnvironment} {world : BusWorld}

structure Keeps (before after : BusWorld) : Prop where
  clients : after.bus.clients = before.bus.clients
  portBound : after.bus.portBound = before.bus.portBound

theorem Keeps.refl (world : BusWorld) : Keeps world world :=
  ⟨rfl, rfl⟩

theorem Keeps.trans {a b c : BusWorld} (hab : Keeps a b) (hbc : Keeps b c) :
    Keeps a c :=
  ⟨hbc.clients.trans hab.clients, hbc.portBound.trans hab.portBound⟩

theorem startTransaction_keeps (transaction : I2cPendingTransaction) :
    Keeps world (startTransaction env world transaction).2 := by
  unfold startTransaction
  split
  · exact .refl world
  · dsimp only
    split_ifs <;> exact ⟨rfl, rfl⟩

theorem admitTransaction_keeps (transaction : I2cPendingTransaction) :
    Keeps world (admitTransaction env world transaction).2 := by
  have hstart := @startTransaction_keeps env world transaction
  unfold admitTransaction
  split_ifs
  · generalize startTransaction env world transaction = out at hstart ⊢
    obtain ⟨started, next⟩ := out
    cases started <;> exact ⟨hstart.clients, hstart.portBound⟩
  · exact ⟨rfl, rfl⟩
  · exact ⟨rfl, rfl⟩

theorem submit_keeps (world : BusWorld) (request : I2cBusRequest) :
    Keeps world (submit env world request).2 := by
  unfold submit
  split
  · exact .refl world
  · have hcreated : Keeps world (createTransaction world request).2 := ⟨rfl, rfl⟩
    exact hcreated.trans (admitTransaction_keeps _)

theorem runProgram_keeps (world : BusWorld) (program : ClientProgram) :
    Keeps world (runProgram env world program) := by
  induction program generalizing world with
  | done => exact .refl world
  | submit request andThen ih =>
      exact (submit_keeps world request).trans (ih _ _)

theorem notify_keeps (world : BusWorld) (transaction : I2cPendingTransaction)
    (result : I2cTransactionResult) :
    Keeps world (notify env world transaction result) := by
  unfold notify
  split
  · exact .refl world
  · dsimp only
    split_ifs
    · exact .refl world
    · have hlogged : ∀ event, Keeps world (world.log event) := fun _ => ⟨rfl, rfl⟩
      exact (hlogged _).trans (runProgram_keeps _ _)

theorem startNextLoop_keeps (fuel : ℕ) (world : BusWorld) :
    Keeps world (startNextLoop env fuel world) := by
  induction fuel generalizing world with
  | zero => exact .refl world
  | succ fuel ih =>
      unfold startNextLoop
      split_ifs
      · exact .refl world
      · dsimp only
        have hremoved : Keeps world
            (removePending world (bestPendingIndex world.bus.pending)) := ⟨rfl, rfl⟩
        have hstart := hremoved.trans (@startTransaction_keeps env _
          (world.bus.pending.getD (bestPendingIndex world.bus.pending) .cleared))
        split
        · next next hstarted =>
            rw [hstarted] at hstart
            exact hstart
        · next next hstarted =>
            rw [hstarted] at hstart
            have hcounted : Keeps next
                { next with
                  bus :=
                    { next.bus with rejectedCount := next.bus.rejectedCount + 1 } } :=
              ⟨rfl, rfl⟩
            exact hstart.trans (hcounted.trans ((notify_keeps _ _ _).trans (ih _)))

theorem complete_keeps (world : BusWorld) (key : CompletionKey)
    (result : I2cTransactionResult) :
    Keeps world (complete env world key result).2 := by
  unfold complete
  split_ifs
  · exact ⟨rfl, rfl⟩
  · have hcleared : ∀ bus : I2cBusManager, bus.clients = world.bus.clients →
        bus.portBound = world.bus.portBound →
        Keeps world { clearActive world with bus } := fun _ hclients hport =>
      ⟨hclients, hport⟩
    refine (hcleared _ ?_ ?_).trans ((notify_keeps _ _ _).trans
      (startNextLoop_keeps _ _))
    · cases result <;> rfl
    · cases result <;> rfl

/-! ## A free bus -/

theorem checkRequest_ne_accepted (bus : I2cBusManager) (request : I2cBusRequest) :
    checkRequest bus request ≠ some .accepted := by
  unfold checkRequest
  split_ifs
  · simp
  · simp
  · split
    · simp
    · split_ifs <;> simp

/-- What the registration of a client promises for its requests. -/
structure Serves (bus : I2cBusManager) (request : I2cBusRequest) : Prop where
  portBound : bus.portBound = true
  client : ∃ client, findClient bus request.clientId = some client ∧
    client.clientGeneration = request.clientGeneration ∧
    clientAcceptsAddress client request.slaveAddress = true

/-- A request that no client could have meant. -/
def Malformed (request : I2cBusRequest) : Prop :=
  request.correlationId = 0 ∨ request.clientGeneration = 0 ∨
    request.deadlineUs = 0 ∨ (request.txLength > 0 ∧ request.tx.isNone) ∨
    (request.rxLength > 0 ∧ request.rx.isNone) ∨
    (request.txLength = 0 ∧ request.rxLength = 0)

theorem checkRequest_eq_none_iff {bus : I2cBusManager} {request : I2cBusRequest}
    (hserves : Serves bus request) :
    checkRequest bus request = none ↔ ¬ Malformed request := by
  obtain ⟨client, hfind, hgeneration, haccepts⟩ := hserves.client
  unfold checkRequest
  by_cases hmalformed : Malformed request
  · rw [if_pos (show _ ∨ _ from hmalformed)]
    exact iff_of_false (by simp) (not_not.mpr hmalformed)
  · rw [if_neg (show ¬ (_ ∨ _) from hmalformed)]
    refine iff_of_true ?_ hmalformed
    simp [hserves.portBound, hfind, hgeneration, haccepts]

theorem startTransaction_of_serves {request : I2cBusRequest}
    {transaction : I2cPendingTransaction} (hserves : Serves world.bus request)
    (hclient : transaction.clientId = request.clientId)
    (hgeneration : transaction.clientGeneration = request.clientGeneration)
    (haddress : transaction.slaveAddress = request.slaveAddress) :
    let active := transaction.onGeneration world.bus.busGeneration
    let out := startTransaction env world transaction
    (out.1 = true ↔ env.portSubmit world.trace active.portRequest = .ok) ∧
      (out.1 = true → out.2.bus.busy = true ∧ out.2.bus.active = active) := by
  intro active out
  have hout : out = startTransaction env world transaction := rfl
  clear_value out
  obtain ⟨client, hfind, hsame, haccepts⟩ := hserves.client
  unfold startTransaction at hout
  rw [hclient, hfind] at hout
  dsimp only at hout
  rw [if_neg (by simp [hserves.portBound, hsame, hgeneration, haddress, haccepts])]
    at hout
  by_cases hport : env.portSubmit world.trace active.portRequest = .ok
  · rw [if_neg (not_not.mpr hport)] at hout
    subst hout
    exact ⟨iff_of_true rfl hport, fun _ => ⟨rfl, rfl⟩⟩
  · rw [if_pos hport] at hout
    subst hout
    exact ⟨iff_of_false (by simp) hport, by simp⟩

/-- The transaction that a free bus makes of a request. -/
def transactionOf (bus : I2cBusManager) (request : I2cBusRequest) :
    I2cPendingTransaction :=
  (newTransaction bus request (issueId bus.nextTransactionId).1).onGeneration
    bus.busGeneration

/-- The port takes that transaction. -/
def PortTakes (env : BusEnvironment) (world : BusWorld)
    (request : I2cBusRequest) : Prop :=
  env.portSubmit (.issued (issueId world.bus.nextTransactionId).1 :: world.trace)
    (transactionOf world.bus request).portRequest = .ok

/-- A free bus starts every request that is well formed and that the port takes. -/
theorem submit_of_free {request : I2cBusRequest} (hfree : world.bus.busy = false)
    (hserves : Serves world.bus request) (hformed : ¬ Malformed request) :
    ((submit env world request).1.result = .accepted ↔ PortTakes env world request) ∧
      ((submit env world request).1.result = .accepted →
        (submit env world request).2.bus.busy = true ∧
          (submit env world request).2.bus.active =
            transactionOf world.bus request) := by
  have hcreated : Serves (createTransaction world request).2.bus request :=
    ⟨hserves.portBound, hserves.client⟩
  obtain ⟨hstarts, hactive⟩ := @startTransaction_of_serves env _ request
    (createTransaction world request).1 hcreated rfl rfl rfl
  have hidle : (!(createTransaction world request).2.bus.busy) = true :=
    congrArg not hfree
  unfold submit
  rw [(checkRequest_eq_none_iff hserves).mpr hformed]
  dsimp only
  unfold admitTransaction
  rw [if_pos hidle]
  generalize startTransaction env (createTransaction world request).2
    (createTransaction world request).1 = out at hstarts hactive
  obtain ⟨started, next⟩ := out
  cases started with
  | false =>
      refine ⟨iff_of_false (by simp) fun htakes => ?_, by simp⟩
      exact Bool.false_ne_true (hstarts.mpr htakes)
  | true => exact ⟨iff_of_true rfl (hstarts.mp rfl), fun _ => hactive rfl⟩

/-- A malformed request is refused. -/
theorem submit_of_malformed {request : I2cBusRequest}
    (hserves : Serves world.bus request) (hmalformed : Malformed request) :
    (submit env world request).1.result ≠ .accepted := by
  have hcheck := mt (checkRequest_eq_none_iff hserves).mp (not_not.mpr hmalformed)
  obtain ⟨refusal, hrefusal⟩ := Option.ne_none_iff_exists'.mp hcheck
  unfold submit
  rw [hrefusal]
  rintro rfl
  exact checkRequest_ne_accepted world.bus request hrefusal

end I2cBus
end Swfpm
