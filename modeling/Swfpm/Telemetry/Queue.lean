import Swfpm.Support.SlotTable

/-!
# The telemetry queue

Embedding of `protocols/telemetry/telemetry_record.h` and
`services/connectivity/telemetry_queue.{h,c}`.  The loops over the entries are
folds over the slots in the order of the source; a pointer that may be null is
an option, and the two indices that are always below the capacity are slots.
-/

namespace Swfpm

open RingBuffer SlotTable

structure TelemetryRecord where
  recordSequence : UInt64
  schemaVersion : UInt16
  reportReason : UInt16
  scheduleVersion : UInt32
  windowId : UInt8
  slotDueWallS : Int64
  slotOrdinal : UInt16
  sourceSnapshotVersion : UInt64
  snapshotGeneration : UInt32
  buildMonotonicUs : UInt64
  buildWallS : Int64
  wallTimeQuality : UInt8
  flowUlPerS : Int64
  flowDirection : UInt8
  temperatureMdegC : Int32
  pressurePa : Int32
  forwardVolumeUl : UInt64
  reverseVolumeUl : UInt64
  leakState : UInt8
  leakEvalStatus : UInt8
  systemMode : UInt8
  batteryMv : UInt16
  configVersion : UInt32
  calibrationVersion : UInt32
  diagnosticFlags : UInt32
  deriving DecidableEq, Repr

def TelemetryRecord.cleared : TelemetryRecord :=
  { recordSequence := 0, schemaVersion := 0, reportReason := 0
    scheduleVersion := 0, windowId := 0, slotDueWallS := 0, slotOrdinal := 0
    sourceSnapshotVersion := 0, snapshotGeneration := 0, buildMonotonicUs := 0
    buildWallS := 0, wallTimeQuality := 0, flowUlPerS := 0, flowDirection := 0
    temperatureMdegC := 0, pressurePa := 0, forwardVolumeUl := 0
    reverseVolumeUl := 0, leakState := 0, leakEvalStatus := 0, systemMode := 0
    batteryMv := 0, configVersion := 0, calibrationVersion := 0
    diagnosticFlags := 0 }

/-- `TELEMETRY_QUEUE_CAPACITY`. -/
abbrev telemetryQueueCapacity : ℕ := 64

/-- `TELEMETRY_TTL_US`. -/
def telemetryTtlUs : UInt64 := 24 * 3600 * 1000000

inductive QueueStatus where
  | ok
  | full
  | duplicate
  | invalid
  deriving DecidableEq, Repr

inductive QueueRecordState where
  | built
  | queued
  | inFlight
  | acknowledged
  | dropped
  deriving DecidableEq, Repr

structure QueueEntry where
  record : TelemetryRecord
  enqueueMonotonicUs : UInt64
  state : QueueRecordState
  retryCount : UInt8
  lastAttemptUs : UInt64
  deriving DecidableEq, Repr

def QueueEntry.cleared : QueueEntry :=
  { record := .cleared, enqueueMonotonicUs := 0, state := .built
    retryCount := 0, lastAttemptUs := 0 }

abbrev TelemetrySlot := Fin telemetryQueueCapacity

structure TelemetryQueue where
  entries : TelemetrySlot → QueueEntry
  count : UInt16
  head : UInt16
  tail : TelemetrySlot
  inFlightIdx : TelemetrySlot
  hasInFlight : Bool
  dropCount : UInt64

namespace TelemetryQueue

/-- The loop index of the source. -/
def slots : List TelemetrySlot := List.finRange telemetryQueueCapacity

def init : TelemetryQueue :=
  { entries := fun _ => .cleared
    count := 0, head := 0
    tail := ⟨0, by decide⟩, inFlightIdx := ⟨0, by decide⟩
    hasInFlight := false, dropCount := 0 }

def setState (queue : TelemetryQueue) (slot : TelemetrySlot)
    (state : QueueRecordState) : TelemetryQueue :=
  { queue with
    entries := write queue.entries slot { queue.entries slot with state } }

/-- An entry whose sequence number a new record may not have. -/
def holdsSequence (sequence : UInt64) (entry : QueueEntry) : Bool :=
  entry.state ≠ .built && entry.state ≠ .dropped &&
    entry.record.recordSequence = sequence

/-- An entry that expires at `nowUs`; the difference wraps. -/
def expires (nowUs : UInt64) (entry : QueueEntry) : Bool :=
  (entry.state = .queued || entry.state = .built) &&
    entry.enqueueMonotonicUs > 0 &&
    nowUs - entry.enqueueMonotonicUs ≥ telemetryTtlUs

/-- The slot gives up its record for lack of time or room. -/
def dropSlot (queue : TelemetryQueue) (slot : TelemetrySlot) : TelemetryQueue :=
  { queue.setState slot .dropped with
    count := queue.count - 1, dropCount := queue.dropCount + 1 }

def expireSlot (nowUs : UInt64) (queue : TelemetryQueue)
    (slot : TelemetrySlot) : TelemetryQueue :=
  if expires nowUs (queue.entries slot) then queue.dropSlot slot else queue

def tick (queue : TelemetryQueue) (nowUs : UInt64) : TelemetryQueue :=
  slots.foldl (expireSlot nowUs) queue

/-- The first eligible slot with the smallest time below `before`. -/
def oldest (queue : TelemetryQueue) (eligible : QueueEntry → Bool)
    (before : UInt64) : Option TelemetrySlot :=
  firstLeast (fun slot => eligible (queue.entries slot))
    (fun slot => (queue.entries slot).enqueueMonotonicUs.toNat) before.toNat slots

/-- An entry that may be dropped to make room. -/
def droppable (entry : QueueEntry) : Bool :=
  entry.state = .built || entry.state = .queued

/-- The new record goes to the tail, whatever the tail holds. -/
def writeTail (queue : TelemetryQueue) (record : TelemetryRecord)
    (nowUs : UInt64) : TelemetryQueue :=
  { queue with
    entries := write queue.entries queue.tail
      { record, enqueueMonotonicUs := nowUs, state := .queued
        retryCount := 0, lastAttemptUs := 0 }
    count := queue.count + 1
    tail := next queue.tail }

/-- The oldest entry that is not in flight makes room in a full queue. -/
def dropOldest (queue : TelemetryQueue) (nowUs : UInt64) :
    Option TelemetryQueue :=
  if queue.count ≥ 64 then (queue.oldest droppable nowUs).map queue.dropSlot
  else some queue

def enqueue (queue : TelemetryQueue) (record : Option TelemetryRecord)
    (nowUs : UInt64) : QueueStatus × TelemetryQueue :=
  match record with
  | none => (.invalid, queue)
  | some record =>
      if slots.any fun slot =>
          holdsSequence record.recordSequence (queue.entries slot) then
        (.duplicate, queue)
      else
        let queue := if queue.count ≥ 64 then queue.tick nowUs else queue
        match queue.dropOldest nowUs with
        | none => (.full, queue)
        | some queue => (.ok, queue.writeTail record nowUs)

def dequeue (queue : TelemetryQueue) :
    Option TelemetryRecord × TelemetryQueue :=
  if queue.hasInFlight ∨ queue.count = 0 then (none, queue)
  else
    match queue.oldest (fun entry => entry.state = .queued)
        0xFFFFFFFFFFFFFFFF with
    | none => (none, queue)
    | some slot =>
        (some (queue.entries slot).record,
          { queue.setState slot .inFlight with
            inFlightIdx := slot, hasInFlight := true })

/-- An entry that an acknowledgement of `sequence` removes. -/
def acknowledges (sequence : UInt64) (entry : QueueEntry) : Bool :=
  (entry.state = .inFlight || entry.state = .queued) &&
    entry.record.recordSequence = sequence

def ack (queue : TelemetryQueue) (sequence : UInt64) : Bool × TelemetryQueue :=
  match slots.find? fun slot => acknowledges sequence (queue.entries slot) with
  | none => (false, queue)
  | some slot =>
      (true, { queue.setState slot .acknowledged with
        count := queue.count - 1
        hasInFlight := queue.hasInFlight && queue.inFlightIdx ≠ slot })

/-! ## Sound queues -/

/-- An entry that holds an accepted record. -/
def live (entry : QueueEntry) : Bool :=
  entry.state = .queued || entry.state = .inFlight

/-- The counter counts the live entries, and the in-flight mark points at the
only entry in flight. -/
structure Sound (queue : TelemetryQueue) : Prop where
  count_eq : queue.count.toNat = countWhere live queue.entries
  inFlight_iff : ∀ slot, (queue.entries slot).state = .inFlight ↔
    queue.hasInFlight = true ∧ slot = queue.inFlightIdx
  unbuilt : ∀ slot, (queue.entries slot).state = .built →
    (queue.entries slot).enqueueMonotonicUs = 0

variable {queue : TelemetryQueue} {slot other : TelemetrySlot} {nowUs : UInt64}

theorem Sound.init : Sound init where
  count_eq := by
    symm
    exact (countWhere_eq_zero_iff live _).mpr fun _ => rfl
  inFlight_iff slot := by simp [TelemetryQueue.init, QueueEntry.cleared]
  unbuilt _ _ := rfl

theorem Sound.count_le (hqueue : Sound queue) :
    queue.count.toNat ≤ 64 := by
  rw [hqueue.count_eq]
  exact countWhere_le live queue.entries

/-- A full queue has a record in every slot. -/
theorem Sound.live_of_full (hqueue : Sound queue)
    (hfull : queue.count.toNat = 64) (slot : TelemetrySlot) :
    live (queue.entries slot) = true := by
  rw [hqueue.count_eq] at hfull
  exact (countWhere_eq_size_iff live queue.entries).mp hfull slot

theorem Sound.count_pos (hqueue : Sound queue)
    (hlive : live (queue.entries slot) = true) : 0 < queue.count.toNat := by
  rw [hqueue.count_eq, Nat.pos_iff_ne_zero]
  intro hzero
  have hdead := (countWhere_eq_zero_iff live queue.entries).mp hzero slot
  rw [hlive] at hdead
  exact absurd hdead (by decide)

/-- What a change of one entry's state does to the live entries. -/
theorem countWhere_setState (queue : TelemetryQueue) (slot : TelemetrySlot)
    (state : QueueRecordState) :
    countWhere live (queue.setState slot state).entries +
        (if live (queue.entries slot) then 1 else 0) =
      countWhere live queue.entries +
        (if live { queue.entries slot with state } then 1 else 0) :=
  countWhere_write live queue.entries slot _

theorem setState_entries_self (state : QueueRecordState) :
    (queue.setState slot state).entries slot =
      { queue.entries slot with state } := by
  simp [setState, write]

theorem setState_entries_of_ne (state : QueueRecordState)
    (hne : other ≠ slot) :
    (queue.setState slot state).entries other = queue.entries other := by
  simp [setState, write, hne]

theorem toNat_sub_one {count : UInt16} (hpos : 0 < count.toNat) :
    (count - 1).toNat = count.toNat - 1 :=
  UInt16.toNat_sub_of_le _ _ (UInt16.le_iff_toNat_le.mpr hpos)

/-- A queued record is given up. -/
theorem Sound.dropSlot (hqueue : Sound queue)
    (hqueued : (queue.entries slot).state = .queued) :
    Sound (queue.dropSlot slot) where
  count_eq := by
    have hlive : live (queue.entries slot) = true := by simp [live, hqueued]
    have hcount := countWhere_setState queue slot .dropped
    rw [hlive, ← hqueue.count_eq] at hcount
    change (queue.count - 1).toNat =
      countWhere live (queue.setState slot .dropped).entries
    rw [toNat_sub_one (hqueue.count_pos hlive)]
    simp [live] at hcount
    omega
  inFlight_iff other := by
    change ((queue.setState slot .dropped).entries other).state = .inFlight ↔
      queue.hasInFlight = true ∧ other = queue.inFlightIdx
    rw [← hqueue.inFlight_iff]
    by_cases hother : other = slot
    · rw [hother, setState_entries_self, hqueued]
      simp
    · rw [setState_entries_of_ne _ hother]
  unbuilt other hbuilt := by
    by_cases hother : other = slot
    · rw [hother] at hbuilt
      change ((queue.setState slot .dropped).entries slot).state = .built
        at hbuilt
      rw [setState_entries_self] at hbuilt
      exact absurd hbuilt (by simp)
    · change ((queue.setState slot .dropped).entries other).state = .built
        at hbuilt
      change ((queue.setState slot .dropped).entries other).enqueueMonotonicUs = 0
      rw [setState_entries_of_ne _ hother] at hbuilt ⊢
      exact hqueue.unbuilt other hbuilt

/-- A record is written to a slot that holds none. -/
theorem Sound.writeTail (hqueue : Sound queue)
    (hfree : live (queue.entries queue.tail) = false)
    (record : TelemetryRecord) (nowUs : UInt64) :
    Sound (queue.writeTail record nowUs) where
  count_eq := by
    have hcount := countWhere_write live queue.entries queue.tail
      { record, enqueueMonotonicUs := nowUs, state := .queued
        retryCount := 0, lastAttemptUs := 0 }
    have hroom : queue.count.toNat < 64 := by
      refine lt_of_le_of_ne hqueue.count_le fun hfull => ?_
      rw [hqueue.live_of_full hfull] at hfree
      exact absurd hfree (by decide)
    rw [hfree, ← hqueue.count_eq] at hcount
    change (queue.count + 1).toNat =
      countWhere live (write queue.entries queue.tail _)
    rw [UInt16.toNat_add, UInt16.toNat_one, Nat.mod_eq_of_lt (by omega)]
    simpa [live] using hcount.symm
  inFlight_iff other := by
    change (write queue.entries queue.tail _ other).state = .inFlight ↔
      queue.hasInFlight = true ∧ other = queue.inFlightIdx
    rw [← hqueue.inFlight_iff]
    by_cases hother : other = queue.tail
    · have hstate : (queue.entries queue.tail).state ≠ .inFlight := by
        intro hstate
        simp [live, hstate] at hfree
      simp [write, hother, hstate]
    · simp [write, hother]
  unbuilt other hbuilt := by
    change (write queue.entries queue.tail _ other).state = .built at hbuilt
    change (write queue.entries queue.tail _ other).enqueueMonotonicUs = 0
    by_cases hother : other = queue.tail
    · simp [write, hother] at hbuilt
    · simp only [write, hother, if_false] at hbuilt ⊢
      exact hqueue.unbuilt other hbuilt

theorem count_writeTail (hroom : queue.count.toNat < 64)
    (record : TelemetryRecord) (nowUs : UInt64) :
    (queue.writeTail record nowUs).count.toNat = queue.count.toNat + 1 := by
  change (queue.count + 1).toNat = _
  rw [UInt16.toNat_add, UInt16.toNat_one, Nat.mod_eq_of_lt (by omega)]

/-- A record written over another one is counted twice. -/
theorem Sound.count_overwritten (hqueue : Sound queue)
    (hlive : live (queue.entries queue.tail) = true)
    (hroom : queue.count.toNat < 64)
    (record : TelemetryRecord) (nowUs : UInt64) :
    (queue.writeTail record nowUs).count.toNat ≠
      countWhere live (queue.writeTail record nowUs).entries := by
  have hcount := countWhere_write live queue.entries queue.tail
    { record, enqueueMonotonicUs := nowUs, state := .queued
      retryCount := 0, lastAttemptUs := 0 }
  rw [hlive, ← hqueue.count_eq] at hcount
  rw [count_writeTail hroom]
  change queue.count.toNat + 1 ≠ countWhere live (write queue.entries queue.tail _)
  simp only [live] at hcount ⊢
  simp at hcount
  omega

/-! ### Expiry -/

/-- An entry that expires is queued, because cleared entries have no time. -/
theorem Sound.queued_of_expires (hqueue : Sound queue)
    (hexpires : expires nowUs (queue.entries slot) = true) :
    (queue.entries slot).state = .queued := by
  simp only [expires, Bool.and_eq_true, Bool.or_eq_true,
    decide_eq_true_eq] at hexpires
  obtain ⟨⟨hqueued | hbuilt, hpos⟩, -⟩ := hexpires
  · exact hqueued
  · rw [hqueue.unbuilt slot hbuilt] at hpos
    exact absurd hpos (by decide)

theorem Sound.expireSlot (hqueue : Sound queue) (nowUs : UInt64)
    (slot : TelemetrySlot) : Sound (expireSlot nowUs queue slot) := by
  rw [TelemetryQueue.expireSlot]
  split_ifs with hexpires
  · exact hqueue.dropSlot (hqueue.queued_of_expires hexpires)
  · exact hqueue

theorem expireSlot_entries_of_ne (hne : other ≠ slot) :
    (expireSlot nowUs queue slot).entries other = queue.entries other := by
  rw [expireSlot]
  split_ifs
  · exact setState_entries_of_ne _ hne
  · rfl

/-- The number of records that expire at `nowUs`. -/
def expiring (queue : TelemetryQueue) (nowUs : UInt64) : ℕ :=
  countWhere (expires nowUs) queue.entries

/-- What the walk over `walked` leaves of the queue. -/
structure Swept (nowUs : UInt64) (walked : List TelemetrySlot)
    (queue later : TelemetryQueue) : Prop where
  sound : Sound later
  entries_eq : ∀ slot, later.entries slot =
    if slot ∈ walked ∧ expires nowUs (queue.entries slot) = true then
      { queue.entries slot with state := .dropped }
    else queue.entries slot
  count_eq : later.count.toNat +
    walked.countP (fun slot => expires nowUs (queue.entries slot)) =
      queue.count.toNat
  dropCount_eq : later.dropCount = queue.dropCount + UInt64.ofNat
    (walked.countP fun slot => expires nowUs (queue.entries slot))
  tail_eq : later.tail = queue.tail

theorem Sound.swept (hqueue : Sound queue) (nowUs : UInt64)
    {walked : List TelemetrySlot} (hnodup : walked.Nodup) :
    Swept nowUs walked queue
      (walked.foldl (TelemetryQueue.expireSlot nowUs) queue) := by
  induction walked generalizing queue with
  | nil => exact ⟨hqueue, by simp, rfl, by simp, rfl⟩
  | cons slot walked ih =>
      obtain ⟨hslot, hwalked⟩ := List.nodup_cons.mp hnodup
      have hrest := ih (hqueue.expireSlot nowUs slot) hwalked
      have hkept : walked.countP (fun place => expires nowUs
          ((TelemetryQueue.expireSlot nowUs queue slot).entries place)) =
          walked.countP fun place => expires nowUs (queue.entries place) := by
        apply List.countP_congr
        intro place hplace
        rw [expireSlot_entries_of_ne (ne_of_mem_of_not_mem hplace hslot)]
      have hcount := hrest.count_eq
      have hdrops := hrest.dropCount_eq
      rw [hkept] at hcount hdrops
      refine ⟨hrest.sound, ?_, ?_, ?_, ?_⟩
      · intro place
        rw [List.foldl_cons, hrest.entries_eq]
        by_cases hplace : place = slot
        · rw [hplace, TelemetryQueue.expireSlot]
          by_cases hexpires : expires nowUs (queue.entries slot) = true
          · rw [if_pos hexpires, if_neg (fun hboth => hslot hboth.1),
              if_pos ⟨List.mem_cons_self, hexpires⟩]
            exact setState_entries_self _
          · rw [if_neg hexpires, if_neg (fun hboth => hslot hboth.1),
              if_neg (fun hboth => hexpires hboth.2)]
        · rw [expireSlot_entries_of_ne hplace]
          simp only [List.mem_cons, hplace, false_or]
      · rw [List.foldl_cons, List.countP_cons]
        by_cases hexpires : expires nowUs (queue.entries slot) = true
        · have hlive : live (queue.entries slot) = true := by
            simp [live, hqueue.queued_of_expires hexpires]
          have hpos := hqueue.count_pos hlive
          have hstep : (TelemetryQueue.expireSlot nowUs queue slot).count.toNat =
              queue.count.toNat - 1 := by
            rw [TelemetryQueue.expireSlot, if_pos hexpires]
            exact toNat_sub_one hpos
          rw [if_pos hexpires]
          omega
        · rw [if_neg hexpires]
          rw [TelemetryQueue.expireSlot, if_neg hexpires] at hcount ⊢
          exact hcount
      · rw [List.foldl_cons, List.countP_cons, hdrops]
        by_cases hexpires : expires nowUs (queue.entries slot) = true
        · rw [TelemetryQueue.expireSlot, if_pos hexpires, if_pos hexpires,
            UInt64.ofNat_add]
          change queue.dropCount + 1 + _ = _
          rw [UInt64.add_assoc, UInt64.add_comm 1]
          rfl
        · rw [TelemetryQueue.expireSlot, if_neg hexpires, if_neg hexpires,
            Nat.add_zero]
      · rw [List.foldl_cons, hrest.tail_eq, TelemetryQueue.expireSlot]
        split_ifs <;> rfl

end TelemetryQueue
end Swfpm
