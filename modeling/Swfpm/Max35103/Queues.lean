import Swfpm.Max35103.Events
import Swfpm.Support.BoundedFifo
import Swfpm.Support.RingBuffer

/-!
# The result queues as bounded queues

Each of the two rings of the driver represents a list of at most its capacity.
The queue operations act on that list as those of a bounded queue do, the rings
do not touch each other, and every record that they hold has a number.
-/

namespace Swfpm.Max35103

open Driver (ringSlot)

/-! ## One ring -/

/-- The three fields of the driver that make up a ring. -/
structure Ring (α : Type*) where
  cells : List α
  head : UInt8
  count : UInt8

namespace Ring

variable {α : Type*} (capacity : ℕ) (fallback : α) (ring : Ring α)

def full : Bool := ring.count.toNat ≥ capacity

/-- The oldest entry is given up, and stays in its cell. -/
def advance : Ring α :=
  { ring with
    head := UInt8.ofNat (ringSlot ring.head 1 capacity)
    count := ring.count - 1 }

def push (entry : α) : Ring α :=
  { ring with
    cells := ring.cells.set (ringSlot ring.head ring.count capacity) entry
    count := ring.count + 1 }

/-- The oldest entry is wiped before it is given up. -/
def wipe : Ring α :=
  advance capacity { ring with cells := ring.cells.set ring.head.toNat fallback }

/-- What a publication makes of a ring. -/
def publish (policy : QueueOverflowPolicy) (entry : α) : Ring α :=
  if ring.full capacity then
    if policy = .dropNewest then ring
    else (ring.advance capacity).push capacity entry
  else ring.push capacity entry

def cell (index : Fin capacity) : α :=
  ring.cells.getD index fallback

/-- The entries from `head` on are `items`. -/
structure Holds (items : List α) : Prop where
  length : ring.cells.length = capacity
  head_lt : ring.head.toNat < capacity
  count_le : ring.count.toNat ≤ capacity
  contents : RingBuffer.contents (ring.cell capacity fallback)
    ⟨ring.head.toNat, head_lt⟩ ring.count.toNat = items

variable {capacity fallback ring} {items : List α}

theorem cell_set {index : ℕ} (hlength : ring.cells.length = capacity)
    (hindex : index < capacity) (entry : α) :
    Ring.cell capacity fallback { ring with cells := ring.cells.set index entry } =
      RingBuffer.write (ring.cell capacity fallback) ⟨index, hindex⟩ entry := by
  funext other
  have hother := other.isLt
  unfold RingBuffer.write
  show List.getD _ _ _ = _
  rw [List.getD_eq_getElem _ _ (by rw [List.length_set, hlength]; exact hother),
    List.getElem_set]
  by_cases heq : index = other.val
  · rw [if_pos heq, if_pos (Fin.ext heq.symm)]
  · rw [if_neg heq, if_neg (fun h => heq (Fin.ext_iff.mp h).symm)]
    exact (List.getD_eq_getElem _ _ (by rw [hlength]; exact hother)).symm

theorem toNat_advance_head (ring : Ring α) (hsmall : capacity < 256)
    (hpos : 0 < capacity) :
    (ring.advance capacity).head.toNat = (ring.head.toNat + 1) % capacity := by
  have hlt : (ring.head.toNat + 1) % capacity < capacity := Nat.mod_lt _ hpos
  show (UInt8.ofNat (ringSlot ring.head 1 capacity)).toNat = _
  rw [UInt8.toNat_ofNat', ringSlot, UInt8.toNat_one, Nat.mod_eq_of_lt (by omega)]

namespace Holds

variable (hholds : ring.Holds capacity fallback items)
include hholds

theorem count_eq : ring.count.toNat = items.length := by
  rw [← hholds.contents, RingBuffer.length_contents]

theorem full_iff : ring.full capacity = true ↔ items.length = capacity := by
  have hle := hholds.count_le
  rw [hholds.count_eq] at hle
  unfold Ring.full
  rw [decide_eq_true_eq, hholds.count_eq]
  omega

theorem push (hsmall : capacity < 256) (hroom : items.length < capacity) (entry : α) :
    (ring.push capacity entry).Holds capacity fallback (items ++ [entry]) := by
  have hcount := hholds.count_eq
  have hslot : ringSlot ring.head ring.count capacity < capacity :=
    Nat.mod_lt _ (by omega)
  have hnext : (ring.count + 1).toNat = ring.count.toNat + 1 := by
    rw [UInt8.toNat_add, UInt8.toNat_one]
    omega
  refine ⟨?_, hholds.head_lt, ?_, ?_⟩
  · exact (List.length_set ..).trans hholds.length
  · show (ring.count + 1).toNat ≤ capacity
    omega
  · have hcells : (ring.push capacity entry).cell capacity fallback = _ :=
      cell_set hholds.length hslot entry
    have hpush := RingBuffer.contents_push (ring.cell capacity fallback)
      ⟨ring.head.toNat, hholds.head_lt⟩ entry
      (show ring.count.toNat < capacity by omega)
    rw [hholds.contents] at hpush
    show RingBuffer.contents _ _ (ring.count + 1).toNat = _
    rw [hcells, hnext]
    exact hpush

theorem advance (hsmall : capacity < 256) (hne : items ≠ []) :
    (ring.advance capacity).Holds capacity fallback items.tail := by
  have hcount := hholds.count_eq
  have hle := hholds.count_le
  have hlength := List.length_pos_iff.mpr hne
  have hhead := toNat_advance_head ring hsmall (by omega)
  have hlast : (ring.count - 1).toNat = ring.count.toNat - 1 := by
    rw [UInt8.toNat_sub_of_le] <;> simp only [UInt8.le_iff_toNat_le, UInt8.toNat_one]
    omega
  refine ⟨hholds.length, ?_, ?_, ?_⟩
  · rw [hhead]
    exact Nat.mod_lt _ (by omega)
  · show (ring.count - 1).toNat ≤ capacity
    omega
  · obtain ⟨rest, hrest⟩ : ∃ rest, ring.count.toNat = rest + 1 :=
      ⟨ring.count.toNat - 1, by omega⟩
    have hcontents := congrArg List.tail hholds.contents
    rw [hrest, RingBuffer.contents, List.tail_cons] at hcontents
    refine Eq.trans ?_ hcontents
    show RingBuffer.contents (ring.cell capacity fallback) ⟨_, _⟩
      (ring.count - 1).toNat = _
    rw [hlast, hrest, Nat.add_sub_cancel]
    congr 1
    exact Fin.ext hhead

/-- Wiping the oldest cell is not seen by the entries after it. -/
theorem wipe (hsmall : capacity < 256) (hne : items ≠ []) :
    (ring.wipe capacity fallback).Holds capacity fallback items.tail := by
  obtain ⟨hlength, hhead, hcount, hcontents⟩ :=
    hholds.advance hsmall hne
  refine ⟨?_, hhead, hcount, ?_⟩
  · exact (List.length_set ..).trans hlength
  · rw [← hcontents]
    have hcells : (ring.wipe capacity fallback).cell capacity fallback = _ :=
      cell_set hholds.length hholds.head_lt fallback
    have hindex : (⟨(ring.advance capacity).head.toNat, hhead⟩ : Fin capacity) =
        RingBuffer.next ⟨ring.head.toNat, hholds.head_lt⟩ :=
      Fin.ext (toNat_advance_head ring hsmall (by omega))
    rw [hcells]
    apply RingBuffer.contents_write_outside
    intro offset hoffset
    show RingBuffer.advance ⟨(ring.advance capacity).head.toNat, hhead⟩ offset ≠ _
    rw [hindex, RingBuffer.advance_next]
    apply RingBuffer.advance_ne_self (Nat.succ_pos offset)
    have hlength := List.length_pos_iff.mpr hne
    have hle := hholds.count_le
    have heq := hholds.count_eq
    have hfewer : (ring.wipe capacity fallback).count.toNat = ring.count.toNat - 1 := by
      show (ring.count - 1).toNat = _
      rw [UInt8.toNat_sub_of_le] <;> simp only [UInt8.le_iff_toNat_le, UInt8.toNat_one]
      omega
    omega

theorem head_eq (hne : items ≠ []) :
    items.head? = some (ring.cells.getD ring.head.toNat fallback) := by
  have hlength := List.length_pos_iff.mpr hne
  have heq := hholds.count_eq
  obtain ⟨rest, hrest⟩ : ∃ rest, ring.count.toNat = rest + 1 :=
    ⟨ring.count.toNat - 1, by omega⟩
  have hcontents := congrArg List.head? hholds.contents
  rw [hrest, RingBuffer.contents, List.head?_cons] at hcontents
  exact hcontents.symm

end Holds

theorem holds_cleared (hpos : 0 < capacity) :
    Holds capacity fallback
      (Ring.mk (List.replicate capacity fallback) 0 0) [] :=
  ⟨List.length_replicate, hpos, Nat.zero_le _, rfl⟩

end Ring

/-! ## The rings of the driver -/

namespace Driver

variable (driver : Driver)

def resultRing : Ring RawResult :=
  ⟨driver.resultQueue, driver.resultQueueHead, driver.resultQueueCount⟩

def temperatureRing : Ring TemperatureResult :=
  ⟨driver.temperatureQueue, driver.temperatureQueueHead, driver.temperatureQueueCount⟩

/-- `max_publish_result`. -/
def publish (result : RawResult) : Driver :=
  (recordSequence result.sequenceNumber driver).2.pushResult
    { result with
      sequenceNumber := (recordSequence result.sequenceNumber driver).1 }

/-- `max_publish_temperature_result`. -/
def publishTemperature (result : TemperatureResult) : Driver :=
  (recordSequence result.sequenceNumber driver).2.pushTemperatureResult
    { result with
      sequenceNumber := (recordSequence result.sequenceNumber driver).1 }

/-- What the queue operations read and write, apart from the numbers. -/
structure SameQueues (before after : Driver) : Prop where
  results : after.resultRing = before.resultRing
  temperatures : after.temperatureRing = before.temperatureRing
  policy : after.queueOverflowPolicy = before.queueOverflowPolicy
  dropped : after.droppedResultCount = before.droppedResultCount
  droppedTemperature :
    after.droppedTemperatureResultCount = before.droppedTemperatureResultCount

variable {driver}

theorem pushResult_spec (driver : Driver) (queued : RawResult) :
    (driver.pushResult queued).resultRing =
        driver.resultRing.publish resultQueueCapacity driver.queueOverflowPolicy queued ∧
      (driver.pushResult queued).temperatureRing = driver.temperatureRing ∧
      (driver.pushResult queued).queueOverflowPolicy = driver.queueOverflowPolicy ∧
      (driver.pushResult queued).droppedResultCount =
        (if driver.resultRing.full resultQueueCapacity then
          driver.droppedResultCount + 1 else driver.droppedResultCount) ∧
      (driver.pushResult queued).droppedTemperatureResultCount =
        driver.droppedTemperatureResultCount := by
  unfold pushResult Ring.publish resultRing temperatureRing Ring.full Ring.push Ring.advance
  by_cases hfull : driver.resultQueueCount.toNat ≥ resultQueueCapacity
  · by_cases hpolicy : driver.queueOverflowPolicy = .dropNewest
    · simp [hfull, hpolicy]
    · cases queued.valid <;> simp [hfull, hpolicy]
  · cases queued.valid <;> simp [hfull]

theorem pushTemperatureResult_spec (driver : Driver) (queued : TemperatureResult) :
    (driver.pushTemperatureResult queued).temperatureRing =
        driver.temperatureRing.publish temperatureQueueCapacity
          driver.queueOverflowPolicy queued ∧
      (driver.pushTemperatureResult queued).resultRing = driver.resultRing ∧
      (driver.pushTemperatureResult queued).queueOverflowPolicy =
        driver.queueOverflowPolicy ∧
      (driver.pushTemperatureResult queued).droppedTemperatureResultCount =
        (if driver.temperatureRing.full temperatureQueueCapacity then
          driver.droppedTemperatureResultCount + 1
        else driver.droppedTemperatureResultCount) ∧
      (driver.pushTemperatureResult queued).droppedResultCount =
        driver.droppedResultCount := by
  unfold pushTemperatureResult Ring.publish resultRing temperatureRing Ring.full
    Ring.push Ring.advance
  by_cases hfull : driver.temperatureQueueCount.toNat ≥ temperatureQueueCapacity
  · by_cases hpolicy : driver.queueOverflowPolicy = .dropNewest
    · simp [hfull, hpolicy]
    · cases queued.valid <;> simp [hfull, hpolicy]
  · cases queued.valid <;> simp [hfull]

/-- The number of an event under way is no zero. -/
def Numbered (driver : Driver) : Prop :=
  driver.activeEventSequenceValid = true → driver.activeEventSequenceNumber ≠ 0

theorem resultPop_spec (driver : Driver) :
    driver.resultPop.1 =
        (if driver.resultRing.count = 0 then none
          else some (driver.resultRing.cells.getD driver.resultRing.head.toNat .zero)) ∧
      driver.resultPop.2.resultRing =
        (if driver.resultRing.count = 0 then driver.resultRing
          else driver.resultRing.wipe resultQueueCapacity .zero) ∧
      driver.resultPop.2.temperatureRing = driver.temperatureRing ∧
      driver.resultPop.2.queueOverflowPolicy = driver.queueOverflowPolicy ∧
      driver.resultPop.2.droppedResultCount = driver.droppedResultCount ∧
      driver.resultPop.2.droppedTemperatureResultCount =
        driver.droppedTemperatureResultCount ∧
      (driver.Numbered → driver.resultPop.2.Numbered) := by
  by_cases hempty : driver.resultQueueCount = 0
  · simp [Driver.resultPop, resultRing, hempty]
  · simp [Driver.resultPop, resultRing, temperatureRing, Ring.wipe,
      Ring.advance, Numbered, hempty]

theorem temperatureResultPop_spec (driver : Driver) :
    driver.temperatureResultPop.1 =
        (if driver.temperatureRing.count = 0 then none
          else some (driver.temperatureRing.cells.getD
            driver.temperatureRing.head.toNat .zero)) ∧
      driver.temperatureResultPop.2.temperatureRing =
        (if driver.temperatureRing.count = 0 then driver.temperatureRing
          else driver.temperatureRing.wipe temperatureQueueCapacity .zero) ∧
      driver.temperatureResultPop.2.resultRing = driver.resultRing ∧
      driver.temperatureResultPop.2.queueOverflowPolicy = driver.queueOverflowPolicy ∧
      driver.temperatureResultPop.2.droppedResultCount = driver.droppedResultCount ∧
      driver.temperatureResultPop.2.droppedTemperatureResultCount =
        driver.droppedTemperatureResultCount ∧
      (driver.Numbered → driver.temperatureResultPop.2.Numbered) := by
  by_cases hempty : driver.temperatureQueueCount = 0
  · simp [Driver.temperatureResultPop, temperatureRing, hempty]
  · simp [Driver.temperatureResultPop, resultRing, temperatureRing,
      Ring.wipe, Ring.advance, Numbered, hempty]

theorem nextSequence_ne_zero (driver : Driver) : driver.nextSequence ≠ 0 := by
  unfold nextSequence
  split_ifs with hwrapped
  · decide
  · exact hwrapped

/-- A record keeps a number of its own, and is given one otherwise. -/
theorem recordSequence_spec (hnumbered : driver.Numbered) (own : UInt32) :
    (recordSequence own driver).1 ≠ 0 ∧
      (own ≠ 0 → (recordSequence own driver).1 = own) ∧
      driver.SameQueues (recordSequence own driver).2 ∧
      (recordSequence own driver).2.Numbered := by
  unfold recordSequence
  by_cases hown : own = 0
  · rw [if_pos hown]
    unfold publishSequence
    by_cases hidle : driver.eventTimingActive = false
    · rw [if_pos hidle]
      exact ⟨nextSequence_ne_zero driver, fun h => absurd hown h,
        ⟨rfl, rfl, rfl, rfl, rfl⟩, hnumbered⟩
    · rw [if_neg hidle]
      by_cases hvalid : driver.activeEventSequenceValid = true
      · rw [if_pos hvalid]
        exact ⟨hnumbered hvalid, fun h => absurd hown h, ⟨rfl, rfl, rfl, rfl, rfl⟩,
          hnumbered⟩
      · rw [if_neg hvalid]
        exact ⟨nextSequence_ne_zero driver, fun h => absurd hown h,
          ⟨rfl, rfl, rfl, rfl, rfl⟩, fun _ => nextSequence_ne_zero driver⟩
  · rw [if_neg hown]
    exact ⟨hown, fun _ => rfl, ⟨rfl, rfl, rfl, rfl, rfl⟩, hnumbered⟩

theorem pushResult_numbered (hnumbered : driver.Numbered) (queued : RawResult) :
    (driver.pushResult queued).Numbered := by
  unfold pushResult Numbered
  dsimp only
  split_ifs <;> exact hnumbered

theorem pushTemperatureResult_numbered (hnumbered : driver.Numbered)
    (queued : TemperatureResult) : (driver.pushTemperatureResult queued).Numbered := by
  unfold pushTemperatureResult Numbered
  dsimp only
  split_ifs <;> exact hnumbered

end Driver

/-! ## The bounded queues -/

section Fifo

variable {α : Type*} {capacity : ℕ} {Admits : α → Prop}

/-- A publication to a bounded queue. -/
def enqueue (policy : QueueOverflowPolicy) (queue : BoundedFifo α capacity Admits)
    (entry : α) (hentry : Admits entry) (hpos : 0 < capacity) :
    BoundedFifo α capacity Admits :=
  if hfull : queue.Full then
    match policy with
    | .dropOldest => queue.evict entry hentry hpos
    | .dropNewest => queue.refuse
  else queue.append entry hentry hfull

theorem Ring.Holds.publish {fallback : α} {ring : Ring α}
    {queue : BoundedFifo α capacity Admits}
    (hholds : ring.Holds capacity fallback queue.items) (hsmall : capacity < 256)
    (hpos : 0 < capacity) (policy : QueueOverflowPolicy) {entry : α}
    (hentry : Admits entry) :
    (ring.publish capacity policy entry).Holds capacity fallback
      (enqueue policy queue entry hentry hpos).items := by
  unfold Ring.publish enqueue
  by_cases hfull : queue.Full
  · have hne : queue.items ≠ [] := by
      rw [← List.length_pos_iff, show queue.items.length = capacity from hfull]
      exact hpos
    rw [if_pos (hholds.full_iff.mpr hfull), dif_pos hfull]
    cases policy with
    | dropOldest =>
        rw [if_neg (by decide)]
        apply (hholds.advance hsmall hne).push hsmall
        rw [List.length_tail, show queue.items.length = capacity from hfull]
        omega
    | dropNewest =>
        rw [if_pos rfl]
        exact hholds
  · rw [if_neg (mt hholds.full_iff.mp hfull), dif_neg hfull]
    exact hholds.push hsmall (BoundedFifo.length_lt_of_not_full hfull) entry

/-- A full queue loses one entry to a publication, under either policy. -/
theorem lost_enqueue (policy : QueueOverflowPolicy)
    (queue : BoundedFifo α capacity Admits) (entry : α) (hentry : Admits entry)
    (hpos : 0 < capacity) :
    (enqueue policy queue entry hentry hpos).lost =
      if queue.Full then queue.lost + 1 else queue.lost := by
  unfold enqueue
  by_cases hfull : queue.Full
  · rw [dif_pos hfull, if_pos hfull]
    cases policy <;> rfl
  · rw [dif_neg hfull, if_neg hfull]
    rfl

/-- A pop of a ring answers the head of its list and leaves the rest. -/
theorem Ring.Holds.popped {fallback : α} {ring : Ring α}
    {queue : BoundedFifo α capacity Admits}
    (hholds : ring.Holds capacity fallback queue.items) (hsmall : capacity < 256) :
    (if ring.count = 0 then none
      else some (ring.cells.getD ring.head.toNat fallback)) = queue.items.head? ∧
      (if ring.count = 0 then ring else ring.wipe capacity fallback).Holds capacity
        fallback queue.tail.items := by
  have hcount := hholds.count_eq
  have hempty : ring.count = 0 ↔ queue.items = [] := by
    rw [← UInt8.toNat_inj, hcount, UInt8.toNat_zero, List.length_eq_zero_iff]
  by_cases hitems : queue.items = []
  · rw [if_pos (hempty.mpr hitems), if_pos (hempty.mpr hitems)]
    constructor
    · rw [hitems]
      rfl
    · have htail : queue.tail.items = queue.items := by
        show queue.items.tail = queue.items
        rw [hitems]
        rfl
      rw [htail]
      exact hholds
  · rw [if_neg (mt hempty.mp hitems), if_neg (mt hempty.mp hitems)]
    exact ⟨(hholds.head_eq hitems).symm, hholds.wipe hsmall hitems⟩

end Fifo

/-- What the two rings stand for. -/
structure ResultQueues where
  results : BoundedFifo RawResult resultQueueCapacity (·.sequenceNumber ≠ 0)
  temperatures :
    BoundedFifo TemperatureResult temperatureQueueCapacity (·.sequenceNumber ≠ 0)
  policy : QueueOverflowPolicy

def ResultQueues.empty : ResultQueues :=
  { results := .empty, temperatures := .empty, policy := .dropOldest }

/-- What happens to the queues: the operations on them, and what the rest of the
driver does in between. -/
inductive QueueOp where
  | publishResult (result : RawResult)
  | publishTemperatureResult (result : TemperatureResult)
  | resultPop
  | temperatureResultPop
  | clearResultQueues
  | setQueueOverflowPolicy (policy : QueueOverflowPolicy)
  | elsewhere (change : Driver → Driver)
      (sameQueues : ∀ driver : Driver, driver.SameQueues (change driver))
      (numbered : ∀ driver : Driver, driver.Numbered → (change driver).Numbered)

/-- What an operation hands to its caller. -/
inductive QueueAnswer where
  | none
  | result (popped : Option RawResult)
  | temperature (popped : Option TemperatureResult)
  deriving DecidableEq, Repr

theorem publishResult_driver {κ : Type*} (result : RawResult) (world : World κ) :
    (publishResult result world).driver = world.driver.publish result := rfl

theorem publishTemperatureResult_driver {κ : Type*} (result : TemperatureResult)
    (world : World κ) :
    (publishTemperatureResult result world).driver =
      world.driver.publishTemperature result := rfl

/-- A direct measurement takes a number without a record. -/
def QueueOp.allocateSequence : QueueOp :=
  .elsewhere (fun driver => driver.allocateSequence.2)
    (fun _ => ⟨rfl, rfl, rfl, rfl, rfl⟩) (fun _ hnumbered => hnumbered)

/-- The operations on the driver. -/
def Driver.queueStep (driver : Driver) : QueueOp → QueueAnswer × Driver
  | .publishResult result => (.none, driver.publish result)
  | .publishTemperatureResult result => (.none, driver.publishTemperature result)
  | .resultPop => (.result driver.resultPop.1, driver.resultPop.2)
  | .temperatureResultPop =>
      (.temperature driver.temperatureResultPop.1, driver.temperatureResultPop.2)
  | .clearResultQueues => (.none, driver.clearResultQueues)
  | .setQueueOverflowPolicy policy =>
      (.none, { driver with queueOverflowPolicy := policy })
  | .elsewhere change _ _ => (.none, change driver)

namespace ResultQueues

/-- The operations on the bounded queues.  A record is numbered as it is
published, unless it has a number. -/
inductive Step (queues : ResultQueues) :
    QueueOp → QueueAnswer → ResultQueues → Prop
  | publishResult (result : RawResult) (sequence : UInt32) (hsequence : sequence ≠ 0)
      (own : result.sequenceNumber ≠ 0 → sequence = result.sequenceNumber) :
      Step queues (.publishResult result) .none
        { queues with
          results := enqueue queues.policy queues.results
            { result with sequenceNumber := sequence } hsequence (by decide) }
  | publishTemperatureResult (result : TemperatureResult) (sequence : UInt32)
      (hsequence : sequence ≠ 0)
      (own : result.sequenceNumber ≠ 0 → sequence = result.sequenceNumber) :
      Step queues (.publishTemperatureResult result) .none
        { queues with
          temperatures := enqueue queues.policy queues.temperatures
            { result with sequenceNumber := sequence } hsequence (by decide) }
  | resultPop :
      Step queues .resultPop (.result queues.results.items.head?)
        { queues with results := queues.results.tail }
  | temperatureResultPop :
      Step queues .temperatureResultPop (.temperature queues.temperatures.items.head?)
        { queues with temperatures := queues.temperatures.tail }
  | clearResultQueues :
      Step queues .clearResultQueues .none
        { queues with
          results := queues.results.cleared
          temperatures := queues.temperatures.cleared }
  | setQueueOverflowPolicy (policy : QueueOverflowPolicy) :
      Step queues (.setQueueOverflowPolicy policy) .none { queues with policy }
  | elsewhere (change : Driver → Driver) (sameQueues) (numbered) :
      Step queues (.elsewhere change sameQueues numbered) .none queues

/-- A run of the bounded queues, with the answers to its operations. -/
inductive Run : ResultQueues → List QueueOp → List QueueAnswer → ResultQueues → Prop
  | nil (queues : ResultQueues) : Run queues [] [] queues
  | cons {queues next last : ResultQueues} {op : QueueOp} {answer : QueueAnswer}
      {ops : List QueueOp} {answers : List QueueAnswer}
      (step : Step queues op answer next) (rest : Run next ops answers last) :
      Run queues (op :: ops) (answer :: answers) last

end ResultQueues

/-- The same run on the driver. -/
def Driver.runQueues (driver : Driver) : List QueueOp → List QueueAnswer × Driver
  | [] => ([], driver)
  | op :: ops =>
      ((driver.queueStep op).1 :: ((driver.queueStep op).2.runQueues ops).1,
        ((driver.queueStep op).2.runQueues ops).2)

/-! ## Refinement -/

/-- The driver's fields stand for the queues. -/
structure Driver.Refines (driver : Driver) (queues : ResultQueues) : Prop where
  results : driver.resultRing.Holds resultQueueCapacity .zero queues.results.items
  temperatures : driver.temperatureRing.Holds temperatureQueueCapacity .zero
    queues.temperatures.items
  policy : driver.queueOverflowPolicy = queues.policy
  dropped : driver.droppedResultCount = UInt32.ofNat queues.results.lost
  droppedTemperature :
    driver.droppedTemperatureResultCount = UInt32.ofNat queues.temperatures.lost
  numbered : driver.Numbered

theorem init_refines : Driver.init.Refines .empty where
  results := Ring.holds_cleared (by decide)
  temperatures := Ring.holds_cleared (by decide)
  policy := rfl
  dropped := rfl
  droppedTemperature := rfl
  numbered := fun hvalid => absurd hvalid (by decide)

namespace Driver.Refines

variable {driver : Driver} {queues : ResultQueues}

theorem congr (hrefines : driver.Refines queues) {other : Driver}
    (hsame : driver.SameQueues other) (hnumbered : other.Numbered) :
    other.Refines queues where
  results := by
    rw [hsame.results]
    exact hrefines.results
  temperatures := by
    rw [hsame.temperatures]
    exact hrefines.temperatures
  policy := hsame.policy.trans hrefines.policy
  dropped := hsame.dropped.trans hrefines.dropped
  droppedTemperature := hsame.droppedTemperature.trans hrefines.droppedTemperature
  numbered := hnumbered

/-- The count of the driver follows the losses of its queue. -/
theorem dropped_enqueue {α : Type*} {capacity : ℕ} {Admits : α → Prop} {fallback : α}
    {ring : Ring α} {queue : BoundedFifo α capacity Admits} {count : UInt32}
    (hholds : ring.Holds capacity fallback queue.items)
    (hcount : count = UInt32.ofNat queue.lost) (policy : QueueOverflowPolicy)
    (entry : α) (hentry : Admits entry) (hpos : 0 < capacity) :
    (if ring.full capacity then count + 1 else count) =
      UInt32.ofNat (enqueue policy queue entry hentry hpos).lost := by
  rw [lost_enqueue, hcount]
  by_cases hfull : queue.Full
  · rw [if_pos (hholds.full_iff.mpr hfull), if_pos hfull, UInt32.ofNat_add]
    rfl
  · rw [if_neg (mt hholds.full_iff.mp hfull), if_neg hfull]

theorem publish (hrefines : driver.Refines queues) (result : RawResult) :
    ∃ next, ResultQueues.Step queues (.publishResult result) .none next ∧
      (driver.publish result).Refines next := by
  obtain ⟨hsequence, hown, hsame, hnumbered⟩ :=
    recordSequence_spec hrefines.numbered result.sequenceNumber
  refine ⟨_, .publishResult result _ hsequence hown, ?_⟩
  have hbetween := hrefines.congr hsame hnumbered
  unfold Driver.publish
  generalize (recordSequence result.sequenceNumber driver).2 = between at *
  obtain ⟨hring, hother, hpolicy, hdropped, hkept⟩ := pushResult_spec between
    { result with sequenceNumber := (recordSequence result.sequenceNumber driver).1 }
  constructor
  · rw [hring, hbetween.policy]
    exact hbetween.results.publish (by decide) (by decide) _ hsequence
  · rw [hother]
    exact hbetween.temperatures
  · exact hpolicy.trans hbetween.policy
  · rw [hdropped]
    exact dropped_enqueue hbetween.results hbetween.dropped _ _ hsequence _
  · exact hkept.trans hbetween.droppedTemperature
  · exact pushResult_numbered hnumbered _

theorem publishTemperature (hrefines : driver.Refines queues)
    (result : TemperatureResult) :
    ∃ next, ResultQueues.Step queues (.publishTemperatureResult result) .none next ∧
      (driver.publishTemperature result).Refines next := by
  obtain ⟨hsequence, hown, hsame, hnumbered⟩ :=
    recordSequence_spec hrefines.numbered result.sequenceNumber
  refine ⟨_, .publishTemperatureResult result _ hsequence hown, ?_⟩
  have hbetween := hrefines.congr hsame hnumbered
  unfold Driver.publishTemperature
  generalize (recordSequence result.sequenceNumber driver).2 = between at *
  obtain ⟨hring, hother, hpolicy, hdropped, hkept⟩ :=
    pushTemperatureResult_spec between { result with
      sequenceNumber := (recordSequence result.sequenceNumber driver).1 }
  constructor
  · rw [hother]
    exact hbetween.results
  · rw [hring, hbetween.policy]
    exact hbetween.temperatures.publish (by decide) (by decide) _ hsequence
  · exact hpolicy.trans hbetween.policy
  · exact hkept.trans hbetween.dropped
  · rw [hdropped]
    exact dropped_enqueue hbetween.temperatures hbetween.droppedTemperature _ _ hsequence _
  · exact pushTemperatureResult_numbered hnumbered _

theorem resultPop (hrefines : driver.Refines queues) :
    ∃ next, ResultQueues.Step queues .resultPop (.result driver.resultPop.1) next ∧
      driver.resultPop.2.Refines next := by
  obtain ⟨hanswer, hring, hother, hpolicy, hdropped, hkept, hnumbered⟩ :=
    resultPop_spec driver
  obtain ⟨hhead, htail⟩ := hrefines.results.popped (by decide)
  rw [hanswer, hhead]
  refine ⟨_, .resultPop, ?_, ?_, hpolicy.trans hrefines.policy,
    hdropped.trans hrefines.dropped, hkept.trans hrefines.droppedTemperature,
    hnumbered hrefines.numbered⟩
  · rw [hring]
    exact htail
  · rw [hother]
    exact hrefines.temperatures

theorem temperatureResultPop (hrefines : driver.Refines queues) :
    ∃ next, ResultQueues.Step queues .temperatureResultPop
        (.temperature driver.temperatureResultPop.1) next ∧
      driver.temperatureResultPop.2.Refines next := by
  obtain ⟨hanswer, hring, hother, hpolicy, hdropped, hkept, hnumbered⟩ :=
    temperatureResultPop_spec driver
  obtain ⟨hhead, htail⟩ := hrefines.temperatures.popped (by decide)
  rw [hanswer, hhead]
  refine ⟨_, .temperatureResultPop, ?_, ?_, hpolicy.trans hrefines.policy,
    hdropped.trans hrefines.dropped, hkept.trans hrefines.droppedTemperature,
    hnumbered hrefines.numbered⟩
  · rw [hother]
    exact hrefines.results
  · rw [hring]
    exact htail

/-- One operation on the driver is the same operation on the queues. -/
theorem step (hrefines : driver.Refines queues) (op : QueueOp) :
    ∃ next, ResultQueues.Step queues op (driver.queueStep op).1 next ∧
      (driver.queueStep op).2.Refines next := by
  cases op with
  | publishResult result => exact hrefines.publish result
  | publishTemperatureResult result => exact hrefines.publishTemperature result
  | resultPop => exact hrefines.resultPop
  | temperatureResultPop => exact hrefines.temperatureResultPop
  | clearResultQueues =>
      exact ⟨_, .clearResultQueues, Ring.holds_cleared (by decide),
        Ring.holds_cleared (by decide), hrefines.policy, hrefines.dropped,
        hrefines.droppedTemperature, hrefines.numbered⟩
  | setQueueOverflowPolicy policy =>
      exact ⟨_, .setQueueOverflowPolicy policy, hrefines.results, hrefines.temperatures,
        rfl, hrefines.dropped, hrefines.droppedTemperature, hrefines.numbered⟩
  | elsewhere change sameQueues numbered =>
      exact ⟨_, .elsewhere change sameQueues numbered,
        hrefines.congr (sameQueues driver) (numbered driver hrefines.numbered)⟩

theorem run (hrefines : driver.Refines queues) (ops : List QueueOp) :
    ∃ last, ResultQueues.Run queues ops (driver.runQueues ops).1 last ∧
      (driver.runQueues ops).2.Refines last := by
  induction ops generalizing driver queues with
  | nil => exact ⟨queues, .nil queues, hrefines⟩
  | cons op ops ih =>
      obtain ⟨next, hstep, hnext⟩ := hrefines.step op
      obtain ⟨last, hrest, hlast⟩ := ih hnext
      exact ⟨last, .cons hstep hrest, hlast⟩

end Driver.Refines

/-- From `MAX35103_Init` on, the rings are two bounded queues. -/
theorem resultQueues_refine (ops : List QueueOp) :
    ∃ queues, ResultQueues.Run .empty ops (Driver.init.runQueues ops).1 queues ∧
      (Driver.init.runQueues ops).2.Refines queues :=
  init_refines.run ops

end Swfpm.Max35103
