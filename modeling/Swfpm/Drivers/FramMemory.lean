import Swfpm.Drivers.FramDriver

/-!
# The F-RAM driver as a flat memory

Runs of the driver against a bus that answers, delays and cancels as it likes,
and an owner that may start the next operation from its completion function.
Every accepted operation has a session, which collects the transactions that
the bus took for it, the results of these, and the completions the owner got.

`Sound` says of a session that its transactions tile the requested range in
order and decode to it, and that its completion tells how far they came.
-/

namespace Swfpm

open ByteBuffers

/-! ## Consecutive ranges -/

/-- Nonempty ranges, each beginning where the one before ends, from `start` up
to `stop`. -/
def Tiles : ℕ → List (ℕ × ℕ) → ℕ → Prop
  | start, [], stop => start = stop
  | start, (address, size) :: rest, stop =>
      address = start ∧ 0 < size ∧ Tiles (start + size) rest stop

section Tiles

variable {start stop size : ℕ} {ranges : List (ℕ × ℕ)}

theorem Tiles.append_one (h : Tiles start ranges stop) (hsize : 0 < size) :
    Tiles start (ranges ++ [(stop, size)]) (stop + size) := by
  induction ranges generalizing start with
  | nil =>
      rw [Tiles] at h
      subst h
      exact ⟨rfl, hsize, rfl⟩
  | cons range rest ih =>
      obtain ⟨address, width⟩ := range
      obtain ⟨haddress, hwidth, htail⟩ := h
      exact ⟨haddress, hwidth, ih htail⟩

/-- The ranges are as long as what they cover. -/
theorem Tiles.sum_eq (h : Tiles start ranges stop) :
    start + (ranges.map Prod.snd).sum = stop := by
  induction ranges generalizing start with
  | nil => simpa [Tiles] using h
  | cons range rest ih =>
      obtain ⟨address, width⟩ := range
      obtain ⟨_, _, htail⟩ := h
      have hrest := ih htail
      simp only [List.map_cons, List.sum_cons]
      omega

end Tiles

/-! ## Transactions and sessions -/

/-- The address that the page bit and the offset byte select. -/
def FramRequest.address (request : FramRequest) : ℕ :=
  (request.slaveAddress &&& 1).toNat * 256 + (request.tx.headD 0).toNat

/-- The bytes written after the offset byte, or read. -/
def FramRequest.size (request : FramRequest) : ℕ :=
  request.tx.tail.length + request.rxLength.toNat

def FramRequest.range (request : FramRequest) : ℕ × ℕ :=
  (request.address, request.size)

/-- An accepted operation and what became of it. -/
structure FramSession where
  operation : FramOperation
  address : UInt16
  length : UInt16
  token : StorageOperationToken
  readBuffer : Option ℕ
  writeBuffer : Option ByteBuffer
  /-- The transactions that the bus accepted, in order. -/
  requests : List FramRequest
  /-- What the bus reported for them, in order. -/
  results : List I2cTransactionResult
  completions : List StorageIoCompletion

namespace FramSession

/-- The length of the successful prefix. -/
def transferred (self : FramSession) : ℕ :=
  (((self.requests.zip self.results).takeWhile (·.2 = .ok)).map
    (·.1.size)).sum

/-- Every chunk of the requested range succeeded. -/
def Whole (self : FramSession) : Prop :=
  (∀ result ∈ self.results, result = .ok) ∧
    self.results.length = self.requests.length ∧
    Tiles self.address.toNat (self.requests.map FramRequest.range)
      (self.address.toNat + self.length.toNat)

end FramSession

/-- A transaction of the session: on one page, on the right device, with the
caller's bytes or the caller's buffer at the position of its address. -/
structure FramRequest.Serves (request : FramRequest) (config : FramConfig)
    (session : FramSession) : Prop where
  page : request.address / 256 = (request.address + request.size - 1) / 256
  device : request.slaveAddress &&& 0xFE = config.slaveAddressBase7bit
  size : request.size ≤ config.maxChunkBytes.toNat
  written : session.operation = .write →
    request.rx = .none ∧ request.rxLength = 0 ∧
      request.tx.tail = (List.range request.size).map fun i =>
        (session.writeBuffer.getD zeros)
          (request.address - session.address.toNat + i)
  read : session.operation = .read →
    request.tx.tail = [] ∧
      request.rx = .caller (session.readBuffer.map
        (· + (request.address - session.address.toNat)))

/-- A read or write that the driver carries out as a flat memory would. -/
structure FramSession.Sound (self : FramSession) (config : FramConfig) :
    Prop where
  serves : ∀ request ∈ self.requests, request.Serves config self
  covers : ∃ stop ≤ self.address.toNat + self.length.toNat,
    Tiles self.address.toNat (self.requests.map FramRequest.range) stop
  once : self.completions.length ≤ 1
  completed : ∀ completion ∈ self.completions,
    completion.token = self.token ∧
      completion.requestedLength = self.length ∧
      completion.transferredLength.toNat = self.transferred ∧
      (completion.transferredLength = completion.requestedLength ↔ self.Whole)

/-! ## Driver, bus and owner -/

/-- A transaction in the hands of the bus. -/
structure FramTransaction where
  request : FramRequest
  transactionId : UInt32
  deriving DecidableEq, Repr

def FramTransaction.completion (self : FramTransaction)
    (result : I2cTransactionResult) (busGeneration : UInt32) :
    I2cTransactionCompletion :=
  { clientId := self.request.clientId
    transactionId := self.transactionId
    correlationId := self.request.correlationId
    clientGeneration := self.request.clientGeneration
    busGeneration
    result }

/-- The completion names this transaction. -/
def FramTransaction.isNamed (self : FramTransaction)
    (completion : I2cTransactionCompletion) : Bool :=
  completion.clientId = self.request.clientId &&
    completion.transactionId = self.transactionId &&
    completion.correlationId = self.request.correlationId &&
    completion.clientGeneration = self.request.clientGeneration

structure FramWorld where
  driver : FramDriver
  /-- The transaction that the bus has accepted and not answered. -/
  outstanding : Option FramTransaction
  /-- New generations of the calls of `fram_cancel_generation` that have not
  returned, the innermost first. -/
  cancelling : List UInt32
  /-- The newest first. -/
  sessions : List FramSession

/-- What bus and owner may do. -/
inductive FramEvent where
  | probe (token : StorageOperationToken) (deadlineUs : UInt64)
      (reply : BusReply)
  | read (address : UInt16) (buffer : Option ℕ) (length : UInt16)
      (token : StorageOperationToken) (deadlineUs : UInt64) (reply : BusReply)
  | write (address : UInt16) (buffer : Option ByteBuffer) (length : UInt16)
      (token : StorageOperationToken) (deadlineUs : UInt64) (reply : BusReply)
  /-- The bus answers the outstanding transaction; `reply` is its answer to the
  next chunk. -/
  | answer (result : I2cTransactionResult) (busGeneration : UInt32)
      (reply : BusReply)
  /-- A completion that does not name the outstanding transaction. -/
  | stale (completion : I2cTransactionCompletion) (reply : BusReply)
  /-- `fram_cancel_generation` is called, and the bus cancels. -/
  | cancelGeneration (newGeneration busGeneration : UInt32) (reply : BusReply)
  /-- `i2c_bus_cancel_client` returns to it. -/
  | cancelReturns

namespace FramWorld

/-- The newest session is changed. -/
def amend (self : FramWorld) (f : FramSession → FramSession) : FramWorld :=
  { self with sessions := self.sessions.modifyHead f }

def act (self : FramWorld) : FramAction → FramWorld
  | .submit request reply =>
      if reply.result = .accepted then
        { self with outstanding := some ⟨request, reply.transactionId⟩ }.amend
          fun session => { session with requests := session.requests ++ [request] }
      else self
  | .complete completion =>
      self.amend fun session =>
        { session with completions := session.completions ++ [completion] }

def perform (self : FramWorld) (actions : List FramAction) : FramWorld :=
  actions.foldl act self

/-- An operation that is accepted opens a session. -/
def begun (self : FramWorld) (session : FramSession)
    (outcome : StorageIoSubmitResult × FramDriver × List FramAction) :
    FramWorld :=
  if outcome.1 = .accepted then
    { self with
      driver := outcome.2.1
      sessions := session :: self.sessions }.perform outcome.2.2
  else { self with driver := outcome.2.1 }

def answered (self : FramWorld) (result : I2cTransactionResult)
    (busGeneration : UInt32) (reply : BusReply) : FramWorld :=
  match self.outstanding with
  | none => self
  | some transaction =>
      let (driver, actions) := self.driver.onI2cCompletion
        (transaction.completion result busGeneration) reply
      ({ self with driver, outstanding := none }.amend fun session =>
        { session with results := session.results ++ [result] }).perform actions

def apply (self : FramWorld) : FramEvent → FramWorld
  | .probe token deadlineUs reply =>
      self.begun ⟨.probe, 0, 2, token, none, none, [], [], []⟩
        (self.driver.probeAsync token deadlineUs reply)
  | .read address buffer length token deadlineUs reply =>
      self.begun ⟨.read, address, length, token, buffer, none, [], [], []⟩
        (self.driver.readAsync address buffer length token deadlineUs reply)
  | .write address buffer length token deadlineUs reply =>
      self.begun ⟨.write, address, length, token, none, buffer, [], [], []⟩
        (self.driver.writeAsync address buffer length token deadlineUs reply)
  | .answer result busGeneration reply =>
      self.answered result busGeneration reply
  | .stale completion reply =>
      if self.outstanding.any (·.isNamed completion) then self
      else
        let (driver, actions) := self.driver.onI2cCompletion completion reply
        { self with driver }.perform actions
  | .cancelGeneration newGeneration busGeneration reply =>
      if newGeneration = 0 ∨ self.driver.state = .uninitialized then self
      else
        let self :=
          if self.driver.isBusy then
            self.answered .cancelled busGeneration reply
          else self
        { self with cancelling := newGeneration :: self.cancelling }
  | .cancelReturns =>
      match self.cancelling with
      | [] => self
      | newGeneration :: rest =>
          { self with
            driver := self.driver.installGeneration newGeneration
            cancelling := rest }

def run (self : FramWorld) (events : List FramEvent) : FramWorld :=
  events.foldl apply self

/-- The driver as `fram_init` leaves it. -/
def start (driver : FramDriver) : FramWorld := ⟨driver, none, [], []⟩

/-- No operation waits for the bus when another generation is installed. -/
def Steady (self : FramWorld) : FramEvent → Prop
  | .cancelReturns =>
      ∀ newGeneration ∈ self.cancelling.head?,
        newGeneration = self.driver.clientGeneration ∨
          self.driver.isBusy = false
  | _ => True

def SteadyRun : FramWorld → List FramEvent → Prop
  | _, [] => True
  | self, event :: events => self.Steady event ∧ SteadyRun (self.apply event) events

/-- Whatever the bus answers to the outstanding transaction, it ends the
session or takes it further. -/
def Advances (self : FramWorld) (session : FramSession) : Prop :=
  self.outstanding.isSome ∧
    ∀ result busGeneration reply, ∃ session',
      (self.apply (.answer result busGeneration reply)).sessions.head? =
          some session' ∧
        (session'.completions.length = 1 ∨
          session.transferred < session'.transferred)

/-- Reads and writes are those of a flat memory, and every accepted operation
has exactly one completion, or its transaction is in the hands of the bus. -/
structure Faithful (self : FramWorld) : Prop where
  sound : ∀ session ∈ self.sessions,
    session.operation = .read ∨ session.operation = .write →
      session.Sound self.driver.config
  earlier : ∀ session ∈ self.sessions.tail, session.completions.length = 1
  newest : ∀ session ∈ self.sessions.head?,
    session.completions.length = 1 ∨
      session.completions = [] ∧ self.Advances session

end FramWorld
end Swfpm
