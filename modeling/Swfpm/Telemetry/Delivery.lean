import Swfpm.Telemetry.Queue
import Swfpm.Domain.System

/-!
# Cellular delivery

Embedding of `services/connectivity/cellular_delivery.{h,c}` for a service and a
queue that are both given, and the agreement between the delivery state of the
service and the in-flight mark of the queue.
-/

namespace Swfpm

open RingBuffer SlotTable TelemetryQueue

namespace TelemetryQueue

variable {queue later : TelemetryQueue}

/-! ## The in-flight mark -/

/-- An entry in flight is the marked one. -/
def Marked (queue : TelemetryQueue) : Prop :=
  ∀ slot, (queue.entries slot).state = .inFlight →
    queue.hasInFlight = true ∧ slot = queue.inFlightIdx

/-- The mark stays, and no entry goes in flight. -/
structure KeepsMark (queue later : TelemetryQueue) : Prop where
  hasInFlight_eq : later.hasInFlight = queue.hasInFlight
  inFlightIdx_eq : later.inFlightIdx = queue.inFlightIdx
  inFlight : ∀ slot, (later.entries slot).state = .inFlight →
    (queue.entries slot).state = .inFlight

theorem KeepsMark.refl (queue : TelemetryQueue) : KeepsMark queue queue :=
  ⟨rfl, rfl, fun _ hstate => hstate⟩

theorem KeepsMark.trans {last : TelemetryQueue} (hlater : KeepsMark queue later)
    (hlast : KeepsMark later last) : KeepsMark queue last where
  hasInFlight_eq := hlast.hasInFlight_eq.trans hlater.hasInFlight_eq
  inFlightIdx_eq := hlast.inFlightIdx_eq.trans hlater.inFlightIdx_eq
  inFlight slot hstate := hlater.inFlight slot (hlast.inFlight slot hstate)

theorem KeepsMark.marked (hkeeps : KeepsMark queue later)
    (hqueue : Marked queue) : Marked later := by
  intro slot hstate
  rw [hkeeps.hasInFlight_eq, hkeeps.inFlightIdx_eq]
  exact hqueue slot (hkeeps.inFlight slot hstate)

/-- A write of an entry that is not in flight. -/
theorem inFlight_of_write {cells : TelemetrySlot → QueueEntry}
    {slot : TelemetrySlot} {entry : QueueEntry} (hentry : entry.state ≠ .inFlight)
    (other : TelemetrySlot)
    (hstate : (write cells slot entry other).state = .inFlight) :
    (cells other).state = .inFlight := by
  by_cases hother : other = slot
  · simp [write, hother, hentry] at hstate
  · simpa [write, hother] using hstate

theorem keepsMark_dropSlot (slot : TelemetrySlot) :
    KeepsMark queue (queue.dropSlot slot) :=
  ⟨rfl, rfl, inFlight_of_write (by simp)⟩

theorem keepsMark_writeTail (record : TelemetryRecord) (nowUs : UInt64) :
    KeepsMark queue (queue.writeTail record nowUs) :=
  ⟨rfl, rfl, inFlight_of_write (by simp)⟩

theorem keepsMark_tick (queue : TelemetryQueue) (nowUs : UInt64) :
    KeepsMark queue (queue.tick nowUs) := by
  rw [tick]
  refine List.foldlRecOn (motive := KeepsMark queue) slots _ (.refl queue) ?_
  intro later hlater slot _
  rw [expireSlot]
  split_ifs
  · exact hlater.trans (keepsMark_dropSlot slot)
  · exact hlater

theorem keepsMark_enqueue (record : Option TelemetryRecord) (nowUs : UInt64) :
    KeepsMark queue (queue.enqueue record nowUs).2 := by
  cases record with
  | none => exact .refl queue
  | some record =>
      rw [enqueue]
      split_ifs with hduplicate hfull
      · exact .refl queue
      · have hticked : KeepsMark queue (queue.tick nowUs) :=
          keepsMark_tick queue nowUs
        generalize queue.tick nowUs = ticked at hticked ⊢
        simp only [dropOldest]
        split_ifs
        · cases ticked.oldest droppable nowUs with
          | none => exact hticked
          | some slot =>
              exact hticked.trans ((keepsMark_dropSlot slot).trans
                (keepsMark_writeTail record nowUs))
        · exact hticked.trans (keepsMark_writeTail record nowUs)
      · simp only [dropOldest, if_neg hfull]
        exact keepsMark_writeTail record nowUs

/-- A record is sent only when none is in flight, and it is marked then. -/
theorem dequeue_cases (queue : TelemetryQueue) :
    queue.dequeue = (none, queue) ∨
      queue.hasInFlight = false ∧ ∃ slot, queue.dequeue =
        (some (queue.entries slot).record,
          { queue.setState slot .inFlight with
            inFlightIdx := slot, hasInFlight := true }) := by
  rw [dequeue]
  split_ifs with hbusy
  · exact Or.inl rfl
  · cases queue.oldest (fun entry => entry.state = .queued)
        0xFFFFFFFFFFFFFFFF with
    | none => exact Or.inl rfl
    | some slot =>
        rw [not_or] at hbusy
        exact Or.inr ⟨Bool.eq_false_iff.mpr hbusy.1, slot, rfl⟩

theorem dequeue_of_busy (hbusy : queue.hasInFlight = true) :
    queue.dequeue = (none, queue) := by
  rcases dequeue_cases queue with hnone | ⟨hfree, -⟩
  · exact hnone
  · rw [hbusy] at hfree
    exact absurd hfree (by decide)

/-- The record in flight is the first one that the acknowledgement fits. -/
def AcksInFlight (queue : TelemetryQueue) (sequence : UInt64) : Prop :=
  acknowledges sequence (queue.entries queue.inFlightIdx) = true ∧
    ∀ slot < queue.inFlightIdx,
      acknowledges sequence (queue.entries slot) = false

instance (queue : TelemetryQueue) (sequence : UInt64) :
    Decidable (queue.AcksInFlight sequence) :=
  inferInstanceAs (Decidable (_ ∧ _))

/-- What an acknowledgement leaves of the mark. -/
theorem ack_hasInFlight_iff (hbusy : queue.hasInFlight = true)
    (sequence : UInt64) :
    (queue.ack sequence).2.hasInFlight = false ↔
      queue.AcksInFlight sequence := by
  have hfind : (slots.find? fun slot =>
      acknowledges sequence (queue.entries slot)) = some queue.inFlightIdx ↔
      queue.AcksInFlight sequence := by
    rw [slots, ← List.ofFn_id]
    simpa [AcksInFlight] using List.find?_ofFn_eq_some_of_injective
      (p := fun slot => acknowledges sequence (queue.entries slot))
      (i := queue.inFlightIdx) Function.injective_id
  rw [← hfind, ack]
  generalize (slots.find? fun slot =>
    acknowledges sequence (queue.entries slot)) = found
  cases found with
  | none =>
      change queue.hasInFlight = false ↔ _
      rw [hbusy]
      simp
  | some slot =>
      change (queue.hasInFlight && decide (queue.inFlightIdx ≠ slot)) = false ↔ _
      rw [hbusy, Bool.true_and, decide_eq_false_iff_not, not_not,
        Option.some_inj]
      exact eq_comm

theorem Marked.ack (hqueue : Marked queue) (sequence : UInt64) :
    Marked (queue.ack sequence).2 := by
  rw [TelemetryQueue.ack]
  cases slots.find? fun slot => acknowledges sequence (queue.entries slot) with
  | none => exact hqueue
  | some slot =>
      intro other hstate
      by_cases hother : other = slot
      · rw [hother] at hstate
        exact absurd hstate (by simp [setState, write])
      · have hearlier : (queue.entries other).state = .inFlight :=
          inFlight_of_write (by simp) other hstate
        obtain ⟨hbusy, rfl⟩ := hqueue other hearlier
        exact ⟨by simp [hbusy, hother], rfl⟩

theorem Marked.dequeue (hqueue : Marked queue) : Marked queue.dequeue.2 := by
  rcases dequeue_cases queue with hnone | ⟨hfree, slot, hsome⟩
  · rwa [hnone]
  · rw [hsome]
    intro other hstate
    refine ⟨rfl, ?_⟩
    by_contra hother
    have hearlier : (queue.entries other).state = .inFlight := by
      simpa [setState, write, hother] using hstate
    rw [(hqueue other hearlier).1] at hfree
    exact absurd hfree (by decide)

end TelemetryQueue

/-- `DELIVERY_RETRY_DELAY_US`. -/
def deliveryRetryDelayUs : UInt64 := 30 * 1000000

/-- `DELIVERY_MAX_RETRIES`. -/
def deliveryMaxRetries : UInt8 := 3

inductive DeliveryState where
  | idle
  | connecting
  | sending
  | waitResponse
  | retryWait
  | complete
  | failed
  deriving DecidableEq, Repr

structure CellularDeliveryService where
  state : DeliveryState
  connStatus : ConnectivityStatus
  connectionGeneration : UInt32
  currentRecordSeq : UInt64
  attemptCount : UInt8
  attemptStartUs : UInt64
  retryAtUs : UInt64
  diagAttempts : UInt64
  diagSuccess : UInt64
  diagTimeout : UInt64
  diagRejected : UInt64
  diagStale : UInt64
  deriving DecidableEq, Repr

namespace CellularDeliveryService

def init : CellularDeliveryService :=
  { state := .idle, connStatus := .notReady, connectionGeneration := 1
    currentRecordSeq := 0, attemptCount := 0, attemptStartUs := 0
    retryAtUs := 0, diagAttempts := 0, diagSuccess := 0, diagTimeout := 0
    diagRejected := 0, diagStale := 0 }

def connect (service : CellularDeliveryService) : CellularDeliveryService :=
  { service with connStatus := .online, state := .idle }

def disconnect (service : CellularDeliveryService) : CellularDeliveryService :=
  { service with
    connStatus := .offline
    connectionGeneration := service.connectionGeneration + 1
    state := .idle }

def startAttempt (service : CellularDeliveryService) (queue : TelemetryQueue)
    (nowUs : UInt64) : Bool × CellularDeliveryService × TelemetryQueue :=
  if service.state ≠ .idle then (false, service, queue)
  else if service.connStatus ≠ .online then (false, service, queue)
  else
    match queue.dequeue with
    | (none, queue) => (false, service, queue)
    | (some record, queue) =>
        (true, { service with
          state := .sending
          currentRecordSeq := record.recordSequence
          attemptCount := service.attemptCount + 1
          attemptStartUs := nowUs
          diagAttempts := service.diagAttempts + 1 }, queue)

/-- The acknowledgement of an answered record; the number zero is none. -/
def settleRecord (service : CellularDeliveryService) (queue : TelemetryQueue) :
    TelemetryQueue :=
  if service.currentRecordSeq > 0 then (queue.ack service.currentRecordSeq).2
  else queue

def complete (service : CellularDeliveryService) (outcome : UInt8)
    (queue : TelemetryQueue) (nowUs : UInt64) :
    CellularDeliveryService × TelemetryQueue :=
  match outcome with
  | 0 =>
      ({ service with
        diagSuccess := service.diagSuccess + 1
        state := .idle, attemptCount := 0 }, service.settleRecord queue)
  | 1 =>
      ({ service with
        diagRejected := service.diagRejected + 1
        state := .idle, attemptCount := 0 }, service.settleRecord queue)
  | 2 | 3 =>
      let service :=
        if service.attemptCount ≥ deliveryMaxRetries then
          { service with state := .idle, attemptCount := 0 }
        else
          { service with
            state := .retryWait
            retryAtUs := nowUs + deliveryRetryDelayUs }
      (if outcome = 3 then
        { service with diagTimeout := service.diagTimeout + 1 }
      else service, queue)
  | _ => ({ service with state := .idle, attemptCount := 0 }, queue)

def tick (service : CellularDeliveryService) (queue : TelemetryQueue)
    (nowUs : UInt64) : CellularDeliveryService × TelemetryQueue :=
  if service.state = .retryWait ∧ nowUs ≥ service.retryAtUs then
    ({ service with state := .idle }.startAttempt queue nowUs).2
  else (service, queue)

/-! ## What the operations of the service do -/

variable {service : CellularDeliveryService} {queue : TelemetryQueue}

/-- An attempt changes nothing, or it marks a record that it sends. -/
inductive Attempts (service : CellularDeliveryService) (queue : TelemetryQueue) :
    CellularDeliveryService × TelemetryQueue → Prop
  | refused : Attempts service queue (service, queue)
  | sends (hidle : service.state = .idle) (hfree : queue.hasInFlight = false)
      (hmark : queue.dequeue.2.hasInFlight = true)
      {later : CellularDeliveryService} (hstate : later.state = .sending) :
      Attempts service queue (later, queue.dequeue.2)

theorem attempts_startAttempt (service : CellularDeliveryService)
    (queue : TelemetryQueue) (nowUs : UInt64) :
    Attempts service queue (service.startAttempt queue nowUs).2 := by
  rw [startAttempt]
  split_ifs with hbusy hoffline
  · exact .refused
  · exact .refused
  · rcases dequeue_cases queue with hnone | ⟨hfree, slot, hsome⟩
    · rw [hnone]
      exact .refused
    · have hsent : Attempts service queue ({ service with
          state := .sending
          currentRecordSeq := (queue.entries slot).record.recordSequence
          attemptCount := service.attemptCount + 1
          attemptStartUs := nowUs
          diagAttempts := service.diagAttempts + 1 }, queue.dequeue.2) :=
        .sends (not_not.mp hbusy) hfree (by rw [hsome]) rfl
      rw [hsome] at hsent ⊢
      exact hsent

/-- The state that a completion leaves. -/
inductive Completes (service : CellularDeliveryService) (queue : TelemetryQueue)
    (outcome : UInt8) : CellularDeliveryService × TelemetryQueue → Prop
  | answered (houtcome : outcome = 0 ∨ outcome = 1)
      {later : CellularDeliveryService} (hstate : later.state = .idle) :
      Completes service queue outcome (later, service.settleRecord queue)
  | failed (houtcome : outcome = 2 ∨ outcome = 3)
      (hcount : service.attemptCount < deliveryMaxRetries)
      {later : CellularDeliveryService} (hstate : later.state = .retryWait) :
      Completes service queue outcome (later, queue)
  | exhausted (houtcome : outcome = 2 ∨ outcome = 3)
      (hcount : ¬ service.attemptCount < deliveryMaxRetries)
      {later : CellularDeliveryService} (hstate : later.state = .idle) :
      Completes service queue outcome (later, queue)
  | unknown (hanswered : ¬ (outcome = 0 ∨ outcome = 1))
      (hfailed : ¬ (outcome = 2 ∨ outcome = 3))
      {later : CellularDeliveryService} (hstate : later.state = .idle) :
      Completes service queue outcome (later, queue)

theorem completes_complete (service : CellularDeliveryService)
    (queue : TelemetryQueue) (outcome : UInt8) (nowUs : UInt64) :
    Completes service queue outcome (service.complete outcome queue nowUs) := by
  rw [complete.eq_def]
  split
  · exact .answered (Or.inl rfl) rfl
  · exact .answered (Or.inr rfl) rfl
  · by_cases hcount : service.attemptCount < deliveryMaxRetries
    · exact .failed (Or.inl rfl) hcount
        (by simp [UInt8.not_le.mpr hcount])
    · exact .exhausted (Or.inl rfl) hcount
        (by simp [UInt8.not_lt.mp hcount])
  · by_cases hcount : service.attemptCount < deliveryMaxRetries
    · exact .failed (Or.inr rfl) hcount
        (by simp [UInt8.not_le.mpr hcount])
    · exact .exhausted (Or.inr rfl) hcount
        (by simp [UInt8.not_lt.mp hcount])
  · next hzero hone htwo hthree =>
      refine .unknown ?_ ?_ rfl
      · rintro (rfl | rfl)
        · exact hzero rfl
        · exact hone rfl
      · rintro (rfl | rfl)
        · exact htwo rfl
        · exact hthree rfl

theorem settleRecord_hasInFlight_of_free (hfree : queue.hasInFlight = false) :
    (service.settleRecord queue).hasInFlight = false := by
  rw [settleRecord]
  split_ifs
  · rw [TelemetryQueue.ack]
    split
    · exact hfree
    · simp [hfree]
  · exact hfree

theorem settleRecord_hasInFlight_iff (hbusy : queue.hasInFlight = true) :
    (service.settleRecord queue).hasInFlight = false ↔
      service.currentRecordSeq > 0 ∧
        queue.AcksInFlight service.currentRecordSeq := by
  rw [settleRecord]
  split_ifs with hsequence
  · rw [ack_hasInFlight_iff hbusy]
    exact (and_iff_right hsequence).symm
  · rw [hbusy]
    simp [hsequence]

theorem marked_settleRecord (hqueue : Marked queue) :
    Marked (service.settleRecord queue) := by
  rw [settleRecord]
  split_ifs
  · exact hqueue.ack _
  · exact hqueue

end CellularDeliveryService

/-! ## Runs of the service and its queue -/

structure DeliveryLink where
  service : CellularDeliveryService
  queue : TelemetryQueue

inductive DeliveryCall where
  | connect
  | disconnect
  | startAttempt (nowUs : UInt64)
  | complete (outcome : UInt8) (nowUs : UInt64)
  | tick (nowUs : UInt64)
  | enqueue (record : Option TelemetryRecord) (nowUs : UInt64)
  | queueTick (nowUs : UInt64)
  deriving DecidableEq, Repr

namespace DeliveryLink

def init : DeliveryLink := ⟨.init, .init⟩

def call (link : DeliveryLink) : DeliveryCall → DeliveryLink
  | .connect => { link with service := link.service.connect }
  | .disconnect => { link with service := link.service.disconnect }
  | .startAttempt nowUs =>
      let result := (link.service.startAttempt link.queue nowUs).2
      ⟨result.1, result.2⟩
  | .complete outcome nowUs =>
      let result := link.service.complete outcome link.queue nowUs
      ⟨result.1, result.2⟩
  | .tick nowUs =>
      let result := link.service.tick link.queue nowUs
      ⟨result.1, result.2⟩
  | .enqueue record nowUs =>
      { link with queue := (link.queue.enqueue record nowUs).2 }
  | .queueTick nowUs => { link with queue := link.queue.tick nowUs }

def run (calls : List DeliveryCall) : DeliveryLink := calls.foldl call init

theorem run_append (before after : List DeliveryCall) :
    run (before ++ after) = after.foldl call (run before) := by
  rw [run, List.foldl_append]
  rfl

theorem run_snoc (before : List DeliveryCall) (last : DeliveryCall) :
    run (before ++ [last]) = (run before).call last := by
  rw [run_append]
  rfl

/-- A service that neither sends nor waits for a retry has nothing in flight. -/
def Agrees (link : DeliveryLink) : Prop :=
  link.service.state ≠ .sending → link.service.state ≠ .retryWait →
    link.queue.hasInFlight = false ∧
      ∀ slot, (link.queue.entries slot).state ≠ .inFlight

/-- The attempt under way fails and may be repeated. -/
def FailsAttempt (link : DeliveryLink) (outcome : UInt8) : Prop :=
  link.service.state = .sending ∧ (outcome = 2 ∨ outcome = 3) ∧
    link.service.attemptCount < deliveryMaxRetries

/-- After a failed attempt that the service keeps waiting to repeat, the tick at
or after the retry time sends the same record again. -/
def RetriesResend (calls : List DeliveryCall) : Prop :=
  ∀ before outcome failedUs between nowUs,
    before ++ .complete outcome failedUs :: between ++ [.tick nowUs] <+: calls →
    (run before).FailsAttempt outcome →
    (∀ part, part <+: between →
      (run (before ++ .complete outcome failedUs :: part)).service.state =
        .retryWait) →
    let link := run (before ++ .complete outcome failedUs :: between)
    link.service.connStatus = .online → link.service.retryAtUs ≤ nowUs →
      (link.call (.tick nowUs)).service.state = .sending ∧
        (link.call (.tick nowUs)).service.currentRecordSeq =
          (run before).service.currentRecordSeq

/-- The call leaves no record in flight behind, unless the service goes on to
wait for it. -/
def Meets (link : DeliveryLink) : DeliveryCall → Prop
  | .connect | .disconnect => link.queue.hasInFlight = false
  | .complete outcome _ =>
      link.queue.hasInFlight = true →
        (outcome = 0 ∨ outcome = 1) ∧ link.service.currentRecordSeq > 0 ∧
            link.queue.AcksInFlight link.service.currentRecordSeq ∨
          (outcome = 2 ∨ outcome = 3) ∧
            link.service.attemptCount < deliveryMaxRetries
  | .tick nowUs =>
      link.queue.hasInFlight = true → link.service.state = .retryWait →
        nowUs < link.service.retryAtUs
  | _ => True

def MeetsThroughout (calls : List DeliveryCall) : Prop :=
  ∀ before call, before ++ [call] <+: calls → (run before).Meets call

/-! ## Every run -/

open CellularDeliveryService

variable {link : DeliveryLink}

/-- The mark is on the only record in flight, and a service that sends has one. -/
structure Sound (link : DeliveryLink) : Prop where
  marked : Marked link.queue
  sending : link.service.state = .sending → link.queue.hasInFlight = true

theorem Sound.init : Sound init where
  marked slot hstate := absurd hstate (by simp [DeliveryLink.init,
    TelemetryQueue.init, QueueEntry.cleared])
  sending hstate := absurd hstate (by simp [DeliveryLink.init,
    CellularDeliveryService.init])

theorem Sound.attempts (hlink : Sound link)
    {result : CellularDeliveryService × TelemetryQueue}
    (hresult : Attempts link.service link.queue result) :
    Sound ⟨result.1, result.2⟩ := by
  cases hresult with
  | refused => exact hlink
  | sends hidle hfree hmark hstate =>
      exact ⟨hlink.marked.dequeue, fun _ => hmark⟩

theorem Sound.waiting (hmarked : Marked link.queue)
    (hstate : link.service.state ≠ .sending) : Sound link :=
  ⟨hmarked, fun hsending => absurd hsending hstate⟩

theorem Sound.complete (hlink : Sound link) {outcome : UInt8}
    {result : CellularDeliveryService × TelemetryQueue}
    (hresult : Completes link.service link.queue outcome result) :
    Sound ⟨result.1, result.2⟩ := by
  cases hresult with
  | answered _ hstate =>
      exact .waiting (marked_settleRecord hlink.marked) (by simp [hstate])
  | failed _ _ hstate => exact .waiting hlink.marked (by simp [hstate])
  | exhausted _ _ hstate => exact .waiting hlink.marked (by simp [hstate])
  | unknown _ _ hstate => exact .waiting hlink.marked (by simp [hstate])

theorem Sound.keepsMark (hlink : Sound link) {later : TelemetryQueue}
    (hkeeps : KeepsMark link.queue later) : Sound { link with queue := later } where
  marked := hkeeps.marked hlink.marked
  sending hstate := hkeeps.hasInFlight_eq.trans (hlink.sending hstate)

theorem Sound.call (hlink : Sound link) (call : DeliveryCall) :
    Sound (link.call call) := by
  cases call with
  | connect => exact .waiting hlink.marked (by simp [connect, DeliveryLink.call])
  | disconnect =>
      exact .waiting hlink.marked (by simp [disconnect, DeliveryLink.call])
  | startAttempt nowUs => exact hlink.attempts (attempts_startAttempt _ _ nowUs)
  | complete outcome nowUs =>
      exact hlink.complete (completes_complete _ _ outcome nowUs)
  | tick nowUs =>
      rw [DeliveryLink.call, CellularDeliveryService.tick]
      split_ifs with hdue
      · have hidle : Sound ⟨{ link.service with state := .idle }, link.queue⟩ :=
          .waiting hlink.marked (by simp)
        exact hidle.attempts (attempts_startAttempt _ _ nowUs)
      · exact hlink
  | enqueue record nowUs => exact hlink.keepsMark (keepsMark_enqueue record nowUs)
  | queueTick nowUs => exact hlink.keepsMark (keepsMark_tick _ nowUs)

theorem sound_run (calls : List DeliveryCall) : Sound (run calls) := by
  refine List.foldlRecOn calls _ Sound.init ?_
  exact fun link hlink call _ => hlink.call call

/-! ## Agreement -/

theorem Sound.agrees_iff (hlink : Sound link) :
    link.Agrees ↔ (link.service.state ≠ .sending →
      link.service.state ≠ .retryWait → link.queue.hasInFlight = false) := by
  constructor
  · intro hagrees hsending hwaiting
    exact (hagrees hsending hwaiting).1
  · intro hfree hsending hwaiting
    refine ⟨hfree hsending hwaiting, fun slot hstate => ?_⟩
    have hbusy := (hlink.marked slot hstate).1
    rw [hfree hsending hwaiting] at hbusy
    exact absurd hbusy (by decide)

theorem Sound.agrees_of_idle (hlink : Sound link)
    (hidle : link.service.state = .idle) :
    link.Agrees ↔ link.queue.hasInFlight = false := by
  rw [hlink.agrees_iff, hidle]
  simp

theorem Sound.agrees_of_waiting (hlink : Sound link)
    (hstate : link.service.state = .sending ∨ link.service.state = .retryWait) :
    link.Agrees := by
  rw [hlink.agrees_iff]
  intro hsending hwaiting
  exact absurd hstate (not_or.mpr ⟨hsending, hwaiting⟩)

theorem agrees_attempts (hlink : Sound link) (hagrees : link.Agrees)
    {result : CellularDeliveryService × TelemetryQueue}
    (hresult : Attempts link.service link.queue result) :
    Agrees ⟨result.1, result.2⟩ := by
  have hlater := hlink.attempts hresult
  cases hresult with
  | refused => exact hagrees
  | sends _ _ _ hstate => exact hlater.agrees_of_waiting (Or.inl hstate)

/-- A retry that comes due finds the mark of the failed attempt and sends
nothing. -/
theorem tick_of_due (hbusy : link.queue.hasInFlight = true)
    (hwaiting : link.service.state = .retryWait) {nowUs : UInt64}
    (hdue : link.service.retryAtUs ≤ nowUs) :
    link.call (.tick nowUs) =
      ⟨{ link.service with state := .idle }, link.queue⟩ := by
  rw [call, CellularDeliveryService.tick, if_pos ⟨hwaiting, hdue⟩,
    startAttempt, dequeue_of_busy hbusy]
  split_ifs <;> rfl

theorem agrees_complete (hlink : Sound link) {outcome : UInt8}
    {result : CellularDeliveryService × TelemetryQueue}
    (hresult : Completes link.service link.queue outcome result) :
    Agrees ⟨result.1, result.2⟩ ↔
      (link.queue.hasInFlight = true →
        (outcome = 0 ∨ outcome = 1) ∧ link.service.currentRecordSeq > 0 ∧
            link.queue.AcksInFlight link.service.currentRecordSeq ∨
          (outcome = 2 ∨ outcome = 3) ∧
            link.service.attemptCount < deliveryMaxRetries) := by
  have hlater := hlink.complete hresult
  have hdistinct : (outcome = 2 ∨ outcome = 3) →
      ¬ (outcome = 0 ∨ outcome = 1) := by
    rintro (rfl | rfl) <;> decide
  cases hresult with
  | answered houtcome hstate =>
      rw [hlater.agrees_of_idle hstate]
      have hfailed : ¬ (outcome = 2 ∨ outcome = 3) :=
        fun hfailed => hdistinct hfailed houtcome
      by_cases hbusy : link.queue.hasInFlight = true
      · rw [settleRecord_hasInFlight_iff hbusy]
        simp [hbusy, houtcome, hfailed]
      · rw [Bool.not_eq_true] at hbusy
        simp [settleRecord_hasInFlight_of_free hbusy, hbusy]
  | failed houtcome hcount hstate =>
      refine iff_of_true (hlater.agrees_of_waiting (Or.inr hstate)) fun _ => ?_
      exact Or.inr ⟨houtcome, hcount⟩
  | exhausted houtcome hcount hstate =>
      rw [hlater.agrees_of_idle hstate]
      simp [hdistinct houtcome, hcount]
  | unknown hanswered hfailed hstate =>
      rw [hlater.agrees_of_idle hstate]
      simp [hanswered, hfailed]

theorem agrees_tick (hlink : Sound link) (hagrees : link.Agrees)
    (nowUs : UInt64) :
    (link.call (.tick nowUs)).Agrees ↔ link.Meets (.tick nowUs) := by
  have hlater := hlink.call (.tick nowUs)
  by_cases hdue : link.service.state = .retryWait ∧
      link.service.retryAtUs ≤ nowUs
  · by_cases hbusy : link.queue.hasInFlight = true
    · rw [tick_of_due hbusy hdue.1 hdue.2] at hlater ⊢
      rw [hlater.agrees_of_idle rfl]
      refine iff_of_false (by simp [hbusy]) fun hmeets => ?_
      exact absurd hdue.2 (UInt64.not_le.mpr (hmeets hbusy hdue.1))
    · refine iff_of_true ?_ fun hmark => absurd hmark hbusy
      have hidle : Sound ⟨{ link.service with state := .idle }, link.queue⟩ :=
        .waiting hlink.marked (by simp)
      rw [call, CellularDeliveryService.tick, if_pos hdue]
      refine agrees_attempts hidle ?_ (attempts_startAttempt _ _ nowUs)
      rw [hidle.agrees_of_idle rfl]
      exact Bool.eq_false_iff.mpr hbusy
  · have hsame : link.call (.tick nowUs) = link := by
      rw [call, CellularDeliveryService.tick, if_neg hdue]
    rw [hsame]
    refine iff_of_true hagrees fun _ hwaiting => ?_
    exact UInt64.not_le.mp fun hle => hdue ⟨hwaiting, hle⟩

theorem call_queueTick (nowUs : UInt64) :
    link.call (.queueTick nowUs) =
      { link with queue := link.queue.tick nowUs } :=
  rfl

/-- A call keeps the agreement exactly when it meets its condition. -/
theorem agrees_call_iff (hlink : Sound link) (hagrees : link.Agrees)
    (call : DeliveryCall) : (link.call call).Agrees ↔ link.Meets call := by
  cases call with
  | connect => exact (hlink.call .connect).agrees_of_idle rfl
  | disconnect => exact (hlink.call .disconnect).agrees_of_idle rfl
  | startAttempt nowUs =>
      exact iff_of_true
        (agrees_attempts hlink hagrees (attempts_startAttempt _ _ nowUs)) trivial
  | complete outcome nowUs =>
      exact agrees_complete hlink (completes_complete _ _ outcome nowUs)
  | tick nowUs => exact agrees_tick hlink hagrees nowUs
  | enqueue record nowUs =>
      refine iff_of_true ?_ trivial
      rw [(hlink.call _).agrees_iff]
      intro hsending hwaiting
      exact (keepsMark_enqueue record nowUs).hasInFlight_eq.trans
        (hagrees hsending hwaiting).1
  | queueTick nowUs =>
      refine iff_of_true ?_ trivial
      rw [(hlink.call _).agrees_iff]
      intro hsending hwaiting
      have hkept := (keepsMark_tick link.queue nowUs).hasInFlight_eq
      rw [call_queueTick]
      simpa only using hkept.trans (hagrees hsending hwaiting).1

/-- The mark stays while the service waits for the retry. -/
theorem hasInFlight_call_of_retryWait (hbusy : link.queue.hasInFlight = true)
    {call : DeliveryCall}
    (hwaiting : (link.call call).service.state = .retryWait) :
    (link.call call).queue.hasInFlight = true := by
  cases call with
  | connect => exact hbusy
  | disconnect => exact hbusy
  | startAttempt nowUs =>
      have hresult := attempts_startAttempt link.service link.queue nowUs
      change (link.service.startAttempt link.queue nowUs).2.2.hasInFlight = true
      generalize (link.service.startAttempt link.queue nowUs).2 = result
        at hresult ⊢
      cases hresult with
      | refused => exact hbusy
      | sends _ _ hmark _ => exact hmark
  | complete outcome nowUs =>
      have hresult := completes_complete link.service link.queue outcome nowUs
      change (link.service.complete outcome link.queue nowUs).1.state = _
        at hwaiting
      change (link.service.complete outcome link.queue nowUs).2.hasInFlight = true
      generalize link.service.complete outcome link.queue nowUs = result
        at hresult hwaiting ⊢
      cases hresult with
      | answered _ hstate => exact absurd (hwaiting.symm.trans hstate) (by decide)
      | failed => exact hbusy
      | exhausted => exact hbusy
      | unknown => exact hbusy
  | tick nowUs =>
      by_cases hdue : link.service.state = .retryWait ∧
          link.service.retryAtUs ≤ nowUs
      · rw [tick_of_due hbusy hdue.1 hdue.2]
        exact hbusy
      · rw [DeliveryLink.call, CellularDeliveryService.tick, if_neg hdue]
        exact hbusy
  | enqueue record nowUs =>
      exact (keepsMark_enqueue record nowUs).hasInFlight_eq.trans hbusy
  | queueTick nowUs =>
      have hkept := (keepsMark_tick link.queue nowUs).hasInFlight_eq
      rw [call_queueTick]
      simpa only using hkept.trans hbusy

/-! ## Runs -/

theorem MeetsThroughout.agrees {calls before : List DeliveryCall}
    (hmeets : MeetsThroughout calls) (hearly : before <+: calls) :
    (run before).Agrees := by
  induction before using List.reverseRecOn with
  | nil =>
      rw [(sound_run []).agrees_of_idle rfl]
      rfl
  | append_singleton before call ih =>
      have hagrees := ih ((List.prefix_append _ _).trans hearly)
      rw [run_snoc]
      exact (agrees_call_iff (sound_run before) hagrees call).mpr
        (hmeets before call hearly)

/-- A record whose attempt failed stays in flight through the wait. -/
theorem hasInFlight_of_waiting {before : List DeliveryCall} {outcome : UInt8}
    {failedUs : UInt64} (hfails : (run before).FailsAttempt outcome)
    {part : List DeliveryCall}
    (hwaiting : ∀ early, early <+: part →
      (run (before ++ .complete outcome failedUs :: early)).service.state =
        .retryWait) :
    (run (before ++ .complete outcome failedUs :: part)).queue.hasInFlight =
      true := by
  induction part using List.reverseRecOn with
  | nil =>
      have hnow := hwaiting [] List.prefix_rfl
      rw [run_snoc] at hnow ⊢
      exact hasInFlight_call_of_retryWait
        ((sound_run before).sending hfails.1) hnow
  | append_singleton part call ih =>
      have hbusy := ih fun early hearly =>
        hwaiting early (hearly.trans (List.prefix_append _ _))
      have hnow := hwaiting _ List.prefix_rfl
      rw [← List.cons_append, ← List.append_assoc, run_snoc] at hnow ⊢
      exact hasInFlight_call_of_retryWait hbusy hnow

/-- Service and queue agree in every state of a run, and every failed attempt
that waits is repeated, exactly when no call gives up a record that is in flight:
no connection change, no completion without an acknowledgement of that record or
a further attempt, and no retry that comes due. -/
theorem agrees_iff_meets (calls : List DeliveryCall) :
    ((∀ before, before <+: calls → (run before).Agrees) ∧
      RetriesResend calls) ↔ MeetsThroughout calls := by
  constructor
  · rintro ⟨hagrees, -⟩ before call hearly
    have hbefore := hagrees before ((List.prefix_append _ _).trans hearly)
    have hafter := hagrees _ hearly
    rw [run_snoc] at hafter
    exact (agrees_call_iff (sound_run before) hbefore call).mp hafter
  · intro hmeets
    refine ⟨fun before hearly => hmeets.agrees hearly, ?_⟩
    intro before outcome failedUs between nowUs hearly hfails hwaiting link
      honline hdue
    -- the retry would find the mark still set, which the condition excludes
    have hbusy : link.queue.hasInFlight = true :=
      hasInFlight_of_waiting hfails hwaiting
    have hnow := hmeets _ _ hearly hbusy (hwaiting between List.prefix_rfl)
    exact absurd hdue (UInt64.not_le.mpr hnow)

/-- One record is sent, its attempt fails, and the retry comes due. -/
def failedAttempt : List DeliveryCall :=
  [.enqueue (some { TelemetryRecord.cleared with recordSequence := 1 }) 1000,
    .connect, .startAttempt 1000, .complete 2 2000, .tick 30002000]

theorem retry_sends_nothing :
    (¬ ∀ calls before, before <+: calls → (run before).Agrees) ∧
      ¬ ∀ calls, RetriesResend calls := by
  constructor
  · intro hagrees
    have hquiet := hagrees failedAttempt failedAttempt List.prefix_rfl
      (by decide +kernel) (by decide +kernel)
    have hbusy : (run failedAttempt).queue.hasInFlight = true := by
      decide +kernel
    rw [hquiet.1] at hbusy
    exact absurd hbusy (by decide)
  · intro hresend
    have hsent := hresend failedAttempt
      [.enqueue (some { TelemetryRecord.cleared with recordSequence := 1 }) 1000,
        .connect, .startAttempt 1000] 2 2000 [] 30002000 List.prefix_rfl
      ⟨by decide +kernel, by decide, by decide +kernel⟩ ?_
      (by decide +kernel) (by decide +kernel)
    · have hstate := hsent.1
      revert hstate
      decide +kernel
    · intro part hpart
      rw [List.prefix_nil.mp hpart]
      decide +kernel

end DeliveryLink
end Swfpm
