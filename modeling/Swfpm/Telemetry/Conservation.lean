import Swfpm.Telemetry.Queue

/-!
# Conservation of telemetry records

Every accepted record stays in the telemetry queue until it is acknowledged or
counted as dropped, as long as the tail never writes over a record.  The account
of a run counts the records that the calls accepted and acknowledged.
-/

namespace Swfpm.TelemetryQueue

open RingBuffer SlotTable

variable {queue : TelemetryQueue} {slot other : TelemetrySlot} {nowUs : UInt64}

/-! ## Delivery -/

theorem Sound.dequeue (hqueue : Sound queue) : Sound queue.dequeue.2 := by
  rw [TelemetryQueue.dequeue]
  split_ifs with hbusy
  · exact hqueue
  · rw [not_or] at hbusy
    cases hfound : queue.oldest (fun entry => entry.state = .queued)
        0xFFFFFFFFFFFFFFFF with
    | none => exact hqueue
    | some slot =>
        have hfirst := (firstLeast_eq_some_iff
          (List.pairwise_lt_finRange _) slot).mp hfound
        have hqueued : (queue.entries slot).state = .queued := by
          simpa using hfirst.2.1
        constructor
        · have hcount := countWhere_setState queue slot .inFlight
          simp only [live, hqueued] at hcount
          change queue.count.toNat =
            countWhere live (queue.setState slot .inFlight).entries
          rw [hqueue.count_eq]
          simpa [live] using hcount.symm
        · intro other
          change ((queue.setState slot .inFlight).entries other).state =
            .inFlight ↔ true = true ∧ other = slot
          by_cases hother : other = slot
          · rw [hother, setState_entries_self]
            simp
          · rw [setState_entries_of_ne _ hother, hqueue.inFlight_iff]
            simp [hother, hbusy.1]
        · intro other
          change ((queue.setState slot .inFlight).entries other).state = .built →
            ((queue.setState slot .inFlight).entries other).enqueueMonotonicUs = 0
          by_cases hother : other = slot
          · rw [hother, setState_entries_self]
            simp
          · rw [setState_entries_of_ne _ hother]
            exact hqueue.unbuilt other

/-- Only the mark and one state change. -/
theorem dequeue_counters (queue : TelemetryQueue) :
    queue.dequeue.2.count = queue.count ∧
      queue.dequeue.2.dropCount = queue.dropCount := by
  rw [dequeue]
  split_ifs
  · exact ⟨rfl, rfl⟩
  · split <;> exact ⟨rfl, rfl⟩

theorem ack_dropCount (sequence : UInt64) :
    (queue.ack sequence).2.dropCount = queue.dropCount := by
  rw [ack]
  split <;> rfl

/-- An acknowledgement finds no record or takes one live record out. -/
theorem Sound.ack (hqueue : Sound queue) (sequence : UInt64) :
    Sound (queue.ack sequence).2 ∧
      (queue.ack sequence).2.count.toNat +
        (if (queue.ack sequence).1 = true then 1 else 0) =
          queue.count.toNat := by
  rw [TelemetryQueue.ack]
  cases hfound : slots.find? fun slot =>
      acknowledges sequence (queue.entries slot) with
  | none => exact ⟨hqueue, rfl⟩
  | some slot =>
      have hacknowledges := List.find?_some hfound
      have hlive : live (queue.entries slot) = true := by
        simp only [acknowledges, Bool.and_eq_true, Bool.or_eq_true] at hacknowledges
        simpa [live, or_comm] using hacknowledges.1
      have hpos := hqueue.count_pos hlive
      have hless : (queue.count - 1).toNat = queue.count.toNat - 1 :=
        toNat_sub_one hpos
      refine ⟨⟨?_, ?_, ?_⟩, ?_⟩
      · have hcount := countWhere_setState queue slot .acknowledged
        rw [hlive, ← hqueue.count_eq] at hcount
        change (queue.count - 1).toNat =
          countWhere live (queue.setState slot .acknowledged).entries
        rw [hless]
        simp [live] at hcount
        omega
      · intro other
        change ((queue.setState slot .acknowledged).entries other).state =
          .inFlight ↔ (queue.hasInFlight && decide (queue.inFlightIdx ≠ slot)) =
            true ∧ other = queue.inFlightIdx
        by_cases hother : other = slot
        · rw [hother, setState_entries_self]
          simp
          intro _ hne heq
          exact hne heq.symm
        · rw [setState_entries_of_ne _ hother, hqueue.inFlight_iff]
          simp only [Bool.and_eq_true, decide_eq_true_eq]
          constructor
          · rintro ⟨hbusy, rfl⟩
            exact ⟨⟨hbusy, hother⟩, rfl⟩
          · rintro ⟨⟨hbusy, -⟩, heq⟩
            exact ⟨hbusy, heq⟩
      · intro other
        change ((queue.setState slot .acknowledged).entries other).state =
            .built →
          ((queue.setState slot .acknowledged).entries other).enqueueMonotonicUs =
            0
        by_cases hother : other = slot
        · rw [hother, setState_entries_self]
          simp
        · rw [setState_entries_of_ne _ hother]
          exact hqueue.unbuilt other
      · change (queue.count - 1).toNat + 1 = queue.count.toNat
        omega

/-! ## Expiry and admission -/

theorem Sound.tick (hqueue : Sound queue) (nowUs : UInt64) :
    Swept nowUs slots queue (queue.tick nowUs) :=
  hqueue.swept nowUs (List.nodup_finRange _)

theorem tick_of_none
    (hnone : ∀ slot, expires nowUs (queue.entries slot) = false) :
    queue.tick nowUs = queue := by
  rw [tick]
  refine List.foldlRecOn (motive := fun later => later = queue) slots _ rfl ?_
  rintro _ rfl slot -
  simp [expireSlot, hnone slot]

/-- The oldest record that may be dropped. -/
def IsOldest (queue : TelemetryQueue) (nowUs : UInt64) (slot : TelemetrySlot) :
    Prop :=
  IsFirstLeast (fun slot => droppable (queue.entries slot))
    (fun slot => (queue.entries slot).enqueueMonotonicUs.toNat) nowUs.toNat slots
    slot

theorem oldest_eq_some_iff :
    queue.oldest droppable nowUs = some slot ↔ queue.IsOldest nowUs slot :=
  firstLeast_eq_some_iff (List.pairwise_lt_finRange _) slot

theorem le_count_iff : queue.count ≥ 64 ↔ 64 ≤ queue.count.toNat :=
  UInt16.le_iff_toNat_le

/-- How a record with a new sequence number is taken in. -/
inductive Admits (queue : TelemetryQueue) (record : TelemetryRecord)
    (nowUs : UInt64) : QueueStatus × TelemetryQueue → Prop
  | room (hroom : queue.count.toNat < 64) :
      Admits queue record nowUs (.ok, queue.writeTail record nowUs)
  | expired (hfull : queue.count.toNat = 64)
      (hexpires : ∃ slot, expires nowUs (queue.entries slot) = true) :
      Admits queue record nowUs
        (.ok, (queue.tick nowUs).writeTail record nowUs)
  | dropped (hfull : queue.count.toNat = 64)
      (hnone : ¬ ∃ slot, expires nowUs (queue.entries slot) = true)
      (slot : TelemetrySlot) (holdest : queue.IsOldest nowUs slot) :
      Admits queue record nowUs
        (.ok, (queue.dropSlot slot).writeTail record nowUs)
  | full (hfull : queue.count.toNat = 64)
      (hnone : ¬ ∃ slot, expires nowUs (queue.entries slot) = true)
      (hyoung : ∀ slot, ¬ queue.IsOldest nowUs slot) :
      Admits queue record nowUs (.full, queue)

/-- A record with the sequence number of an entry that is kept or acknowledged. -/
def IsDuplicate (queue : TelemetryQueue) (record : TelemetryRecord) : Prop :=
  ∃ slot, holdsSequence record.recordSequence (queue.entries slot) = true

theorem any_holdsSequence_iff (record : TelemetryRecord) :
    (slots.any fun slot =>
      holdsSequence record.recordSequence (queue.entries slot)) = true ↔
      queue.IsDuplicate record := by
  simp [slots, IsDuplicate]

theorem enqueue_duplicate {record : TelemetryRecord}
    (hduplicate : queue.IsDuplicate record) (nowUs : UInt64) :
    queue.enqueue (some record) nowUs = (.duplicate, queue) := by
  rw [enqueue, if_pos ((any_holdsSequence_iff record).mpr hduplicate)]

/-- Some record expires exactly when the number of these is positive. -/
theorem expiring_pos_iff : 0 < queue.expiring nowUs ↔
    ∃ slot, expires nowUs (queue.entries slot) = true := by
  rw [Nat.pos_iff_ne_zero, ne_eq, expiring, countWhere_eq_zero_iff]
  simp

theorem Sound.admits (hqueue : Sound queue) {record : TelemetryRecord}
    (hnew : ¬ queue.IsDuplicate record) (nowUs : UInt64) :
    Admits queue record nowUs (queue.enqueue (some record) nowUs) := by
  rw [enqueue, if_neg fun hany => hnew ((any_holdsSequence_iff record).mp hany)]
  by_cases hroom : queue.count.toNat < 64
  · have hnotfull : ¬ queue.count ≥ 64 := by
      rw [le_count_iff]
      omega
    simp only [dropOldest, if_neg hnotfull]
    exact .room hroom
  · have hfull : queue.count.toNat = 64 :=
      le_antisymm hqueue.count_le (not_lt.mp hroom)
    have hge : queue.count ≥ 64 := le_count_iff.mpr hfull.ge
    rw [if_pos hge]
    by_cases hexpires : ∃ slot, expires nowUs (queue.entries slot) = true
    · have hswept := hqueue.tick nowUs
      have hpos : 0 < queue.expiring nowUs := expiring_pos_iff.mpr hexpires
      have hcount : (queue.tick nowUs).count.toNat + queue.expiring nowUs =
          queue.count.toNat := hswept.count_eq
      have hnotfull : ¬ (queue.tick nowUs).count ≥ 64 := by
        rw [le_count_iff]
        omega
      simp only [dropOldest, if_neg hnotfull]
      exact .expired hfull hexpires
    · have hsame : queue.tick nowUs = queue := by
        apply tick_of_none
        intro slot
        exact Bool.eq_false_iff.mpr fun hslot => hexpires ⟨slot, hslot⟩
      simp only [hsame, dropOldest, if_pos hge]
      cases hfound : queue.oldest droppable nowUs with
      | none =>
          refine .full hfull hexpires fun slot hslot => ?_
          rw [oldest_eq_some_iff.mpr hslot] at hfound
          exact absurd hfound (by simp)
      | some slot =>
          exact .dropped hfull hexpires slot (oldest_eq_some_iff.mp hfound)

/-! ## Accounts -/

inductive Call where
  | enqueue (record : Option TelemetryRecord) (nowUs : UInt64)
  | dequeue
  | ack (sequence : UInt64)
  | tick (nowUs : UInt64)
  deriving DecidableEq, Repr

/-- The reading of the clock that a call is given. -/
def Call.time : Call → Option UInt64
  | .enqueue _ nowUs | .tick nowUs => some nowUs
  | .dequeue | .ack _ => none

/-- The queue of a run, the number of records it accepted and the number of
records that were acknowledged. -/
structure Account where
  queue : TelemetryQueue
  accepted : ℕ
  acknowledged : ℕ

def Account.call (account : Account) : Call → Account
  | .enqueue record nowUs =>
      let result := account.queue.enqueue record nowUs
      { account with
        queue := result.2
        accepted := account.accepted + if result.1 = .ok then 1 else 0 }
  | .dequeue => { account with queue := account.queue.dequeue.2 }
  | .ack sequence =>
      let result := account.queue.ack sequence
      { account with
        queue := result.2
        acknowledged := account.acknowledged + if result.1 = true then 1 else 0 }
  | .tick nowUs => { account with queue := account.queue.tick nowUs }

def run (calls : List Call) : Account :=
  calls.foldl Account.call ⟨init, 0, 0⟩

theorem run_append (before : List Call) (call : Call) :
    run (before ++ [call]) = (run before).call call := by
  rw [run, List.foldl_append]
  rfl

/-- The counter and the in-flight mark describe the entries, and every accepted
record is acknowledged, counted as dropped or still counted. -/
def Account.Conserved (account : Account) : Prop :=
  account.queue.count.toNat = countWhere live account.queue.entries ∧
    (account.queue.hasInFlight = true ↔
      (account.queue.entries account.queue.inFlightIdx).state = .inFlight) ∧
    (account.queue.hasInFlight = true →
      ∀ slot, (account.queue.entries slot).state = .inFlight →
        slot = account.queue.inFlightIdx) ∧
    account.accepted = account.acknowledged +
      account.queue.dropCount.toNat + account.queue.count.toNat

instance (queue : TelemetryQueue) (record : TelemetryRecord) :
    Decidable (queue.IsDuplicate record) :=
  inferInstanceAs (Decidable (∃ _, _))

instance (queue : TelemetryQueue) (nowUs : UInt64) :
    Decidable (∃ slot, queue.IsOldest nowUs slot) :=
  decidable_of_iff (queue.oldest droppable nowUs).isSome
    (by simp [Option.isSome_iff_exists, oldest_eq_some_iff])

/-- The slot at the tail holds no record, or it is among those that a full queue
gives up first. -/
def TailFree (queue : TelemetryQueue) (nowUs : UInt64) : Prop :=
  if queue.count.toNat < 64 then live (queue.entries queue.tail) = false
  else if ∃ slot, expires nowUs (queue.entries slot) = true then
    expires nowUs (queue.entries queue.tail) = true
  else ∀ slot, queue.IsOldest nowUs slot → slot = queue.tail

/-- A call that takes a record in finds the tail free. -/
def SparesTail (queue : TelemetryQueue) : Call → Prop
  | .enqueue (some record) nowUs =>
      ¬ queue.IsDuplicate record → queue.TailFree nowUs
  | _ => True

/-- The number of records that a call gives up. -/
def lost (queue : TelemetryQueue) : Call → ℕ
  | .enqueue (some record) nowUs =>
      if queue.IsDuplicate record ∨ queue.count.toNat < 64 then 0
      else if ∃ slot, expires nowUs (queue.entries slot) = true then
        queue.expiring nowUs
      else if ∃ slot, queue.IsOldest nowUs slot then 1 else 0
  | .tick nowUs => queue.expiring nowUs
  | _ => 0

/-- The call overwrites no record, and the drop counter does not wrap. -/
def Meets (queue : TelemetryQueue) (call : Call) : Prop :=
  queue.SparesTail call ∧ queue.dropCount.toNat + queue.lost call < 2 ^ 64

/-! ## One call -/

/-- The sum that a call keeps: records given up and acknowledged leave the
counter, accepted ones enter it. -/
structure Settles (account : Account) (lost : ℕ) (later : Account) : Prop where
  sound : Sound later.queue
  count_eq : later.queue.count.toNat + later.acknowledged + lost +
    account.accepted =
      account.queue.count.toNat + account.acknowledged + later.accepted
  dropCount_eq : later.queue.dropCount =
    account.queue.dropCount + UInt64.ofNat lost

variable {account : Account}

theorem live_of_droppable (hqueue : Sound queue)
    (hfull : queue.count.toNat = 64)
    (hdroppable : droppable (queue.entries slot) = true) :
    (queue.entries slot).state = .queued := by
  have hlive := hqueue.live_of_full hfull slot
  simp only [droppable, live, Bool.or_eq_true, decide_eq_true_eq]
    at hdroppable hlive
  rcases hdroppable with hbuilt | hqueued
  · rw [hbuilt] at hlive
    exact absurd hlive (by decide)
  · exact hqueued

/-- The tail after the expiry of a full queue. -/
theorem live_tail_tick (hqueue : Sound queue) (hfull : queue.count.toNat = 64) :
    live ((queue.tick nowUs).entries (queue.tick nowUs).tail) = false ↔
      expires nowUs (queue.entries queue.tail) = true := by
  have hswept := hqueue.tick nowUs
  rw [hswept.tail_eq, hswept.entries_eq]
  have hmem : queue.tail ∈ slots := List.mem_finRange _
  by_cases hexpires : expires nowUs (queue.entries queue.tail) = true
  · rw [if_pos ⟨hmem, hexpires⟩]
    simp [live, hexpires]
  · rw [if_neg fun hboth => hexpires hboth.2, hqueue.live_of_full hfull]
    simp [hexpires]

/-- The tail after the oldest record of a full queue is dropped. -/
theorem live_tail_dropSlot (hqueue : Sound queue)
    (hfull : queue.count.toNat = 64) :
    live ((queue.dropSlot slot).entries (queue.dropSlot slot).tail) = false ↔
      slot = queue.tail := by
  change live ((queue.setState slot .dropped).entries queue.tail) = false ↔ _
  by_cases htail : queue.tail = slot
  · rw [htail, setState_entries_self]
    simp [live]
  · rw [setState_entries_of_ne _ htail, hqueue.live_of_full hfull]
    simp [Ne.symm htail]

/-- A record is written after the queue has made room. -/
theorem Settles.written {later : TelemetryQueue} {lost : ℕ}
    (hlater : Sound later) (hroom : later.count.toNat < 64)
    (hfree : live (later.entries later.tail) = false)
    (hcount : later.count.toNat + lost = account.queue.count.toNat)
    (hdrops : later.dropCount = account.queue.dropCount + UInt64.ofNat lost)
    (record : TelemetryRecord) (nowUs : UInt64) :
    Settles account lost
      { account with
        queue := later.writeTail record nowUs
        accepted := account.accepted + 1 } where
  sound := hlater.writeTail hfree record nowUs
  count_eq := by
    change (later.writeTail record nowUs).count.toNat + account.acknowledged +
      lost + account.accepted =
        account.queue.count.toNat + account.acknowledged + (account.accepted + 1)
    rw [count_writeTail hroom]
    omega
  dropCount_eq := hdrops

theorem Settles.refl (hqueue : Sound account.queue) :
    Settles account 0 account where
  sound := hqueue
  count_eq := by omega
  dropCount_eq := by simp

/-- The queue after the loss of one record, or of those that expire. -/
theorem Sound.room_dropSlot (hqueue : Sound queue)
    (hqueued : (queue.entries slot).state = .queued) :
    (queue.dropSlot slot).count.toNat + 1 = queue.count.toNat := by
  have hlive : live (queue.entries slot) = true := by simp [live, hqueued]
  have hpos := hqueue.count_pos hlive
  change (queue.count - 1).toNat + 1 = queue.count.toNat
  rw [toNat_sub_one hpos]
  omega

theorem call_enqueue (record : TelemetryRecord) (nowUs : UInt64) :
    account.call (.enqueue (some record) nowUs) =
      { account with
        queue := (account.queue.enqueue (some record) nowUs).2
        accepted := account.accepted +
          if (account.queue.enqueue (some record) nowUs).1 = .ok then 1
          else 0 } :=
  rfl

/-- A record is taken in, and the books stay balanced when the tail is free. -/
theorem Sound.settles_enqueue (hqueue : Sound account.queue)
    {record : TelemetryRecord} (hnew : ¬ account.queue.IsDuplicate record)
    (hfree : account.queue.TailFree nowUs) :
    Settles account (account.queue.lost (.enqueue (some record) nowUs))
      (account.call (.enqueue (some record) nowUs)) := by
  have hadmits := hqueue.admits hnew nowUs
  rw [call_enqueue]
  generalize account.queue.enqueue (some record) nowUs = result at hadmits ⊢
  rw [lost]
  cases hadmits with
  | room hroom =>
      rw [TailFree, if_pos hroom] at hfree
      rw [if_pos (Or.inr hroom)]
      exact .written hqueue hroom hfree rfl (by simp) record nowUs
  | expired hfull hexpires =>
      have hnotroom : ¬ account.queue.count.toNat < 64 := by omega
      rw [TailFree, if_neg hnotroom, if_pos hexpires] at hfree
      rw [if_neg (not_or.mpr ⟨hnew, hnotroom⟩), if_pos hexpires]
      have hswept := hqueue.tick nowUs
      have hcount : (account.queue.tick nowUs).count.toNat +
          account.queue.expiring nowUs = account.queue.count.toNat :=
        hswept.count_eq
      have hpos := expiring_pos_iff.mpr hexpires
      exact .written hswept.sound (by omega)
        ((live_tail_tick hqueue hfull).mpr hfree) hcount hswept.dropCount_eq
        record nowUs
  | dropped hfull hnone slot holdest =>
      have hnotroom : ¬ account.queue.count.toNat < 64 := by omega
      rw [TailFree, if_neg hnotroom, if_neg hnone] at hfree
      rw [if_neg (not_or.mpr ⟨hnew, hnotroom⟩), if_neg hnone,
        if_pos ⟨slot, holdest⟩]
      have hqueued := live_of_droppable hqueue hfull holdest.2.1
      have hcount := hqueue.room_dropSlot hqueued
      exact .written (hqueue.dropSlot hqueued) (by omega)
        ((live_tail_dropSlot hqueue hfull).mpr (hfree slot holdest)) hcount rfl
        record nowUs
  | full hfull hnone hyoung =>
      have hnotroom : ¬ account.queue.count.toNat < 64 := by omega
      rw [if_neg (not_or.mpr ⟨hnew, hnotroom⟩), if_neg hnone,
        if_neg fun hsome => hsome.elim hyoung]
      exact .refl hqueue

/-- Any call that overwrites no record settles. -/
theorem Sound.settles (hqueue : Sound account.queue) {call : Call}
    (hspares : account.queue.SparesTail call) :
    Settles account (account.queue.lost call) (account.call call) := by
  cases call with
  | enqueue record nowUs =>
      cases record with
      | none => exact .refl hqueue
      | some record =>
          by_cases hduplicate : account.queue.IsDuplicate record
          · rw [lost, if_pos (Or.inl hduplicate), call_enqueue,
              enqueue_duplicate hduplicate]
            exact .refl hqueue
          · exact hqueue.settles_enqueue hduplicate (hspares hduplicate)
  | dequeue =>
      obtain ⟨hcount, hdrops⟩ := dequeue_counters account.queue
      have hlost : account.queue.lost .dequeue = 0 := rfl
      rw [hlost]
      refine ⟨hqueue.dequeue, ?_, ?_⟩
      · change account.queue.dequeue.2.count.toNat + account.acknowledged + 0 +
          account.accepted =
            account.queue.count.toNat + account.acknowledged + account.accepted
        rw [hcount, Nat.add_zero]
      · change account.queue.dequeue.2.dropCount = account.queue.dropCount + 0
        rw [hdrops, UInt64.add_zero]
  | ack sequence =>
      obtain ⟨hsound, hcount⟩ := hqueue.ack sequence
      have hlost : account.queue.lost (.ack sequence) = 0 := rfl
      rw [hlost]
      refine ⟨hsound, ?_, ?_⟩
      · change (account.queue.ack sequence).2.count.toNat +
          (account.acknowledged + _) + 0 + account.accepted =
            account.queue.count.toNat + account.acknowledged + account.accepted
        omega
      · change (account.queue.ack sequence).2.dropCount =
          account.queue.dropCount + 0
        rw [ack_dropCount, UInt64.add_zero]
  | tick nowUs =>
      have hswept := hqueue.tick nowUs
      have hcount : (account.queue.tick nowUs).count.toNat +
          account.queue.expiring nowUs = account.queue.count.toNat :=
        hswept.count_eq
      have hlost : account.queue.lost (.tick nowUs) =
          account.queue.expiring nowUs := rfl
      have hcall : account.call (.tick nowUs) =
          { account with queue := account.queue.tick nowUs } := rfl
      have hdrops : (account.queue.tick nowUs).dropCount =
          account.queue.dropCount +
            UInt64.ofNat (account.queue.expiring nowUs) := hswept.dropCount_eq
      have hsound : Sound (account.queue.tick nowUs) := hswept.sound
      rw [hlost, hcall]
      constructor
      · simpa only using hsound
      · simp only
        omega
      · simpa only using hdrops

/-- A record that the tail still holds is counted although it is gone. -/
theorem Sound.overwrites (hqueue : Sound account.queue) {call : Call}
    (hspares : ¬ account.queue.SparesTail call) :
    (account.call call).queue.count.toNat ≠
      countWhere live (account.call call).queue.entries := by
  cases call with
  | dequeue => exact absurd trivial hspares
  | ack sequence => exact absurd trivial hspares
  | tick nowUs => exact absurd trivial hspares
  | enqueue record nowUs =>
      cases record with
      | none => exact absurd trivial hspares
      | some record =>
          obtain ⟨hnew, hfree⟩ := Classical.not_imp.mp hspares
          have hadmits := hqueue.admits hnew nowUs
          rw [call_enqueue]
          generalize account.queue.enqueue (some record) nowUs = result
            at hadmits ⊢
          cases hadmits with
          | room hroom =>
              rw [TailFree, if_pos hroom, Bool.not_eq_false] at hfree
              exact hqueue.count_overwritten hfree hroom record nowUs
          | expired hfull hexpires =>
              have hnotroom : ¬ account.queue.count.toNat < 64 := by omega
              rw [TailFree, if_neg hnotroom, if_pos hexpires,
                ← live_tail_tick hqueue hfull, Bool.not_eq_false] at hfree
              have hswept := hqueue.tick nowUs
              have hcount : (account.queue.tick nowUs).count.toNat +
                  account.queue.expiring nowUs = account.queue.count.toNat :=
                hswept.count_eq
              have hpos := expiring_pos_iff.mpr hexpires
              exact hswept.sound.count_overwritten hfree (by omega) record nowUs
          | dropped hfull hnone slot holdest =>
              have hnotroom : ¬ account.queue.count.toNat < 64 := by omega
              have hqueued := live_of_droppable hqueue hfull holdest.2.1
              have hcount := hqueue.room_dropSlot hqueued
              refine (hqueue.dropSlot hqueued).count_overwritten ?_ (by omega)
                record nowUs
              rw [← Bool.not_eq_false, live_tail_dropSlot hqueue hfull]
              intro htail
              rw [TailFree, if_neg hnotroom, if_neg hnone] at hfree
              refine hfree fun other hother => ?_
              rw [← htail]
              exact hother.unique holdest
          | full hfull hnone hyoung =>
              have hnotroom : ¬ account.queue.count.toNat < 64 := by omega
              rw [TailFree, if_neg hnotroom, if_neg hnone] at hfree
              exact absurd (fun slot hslot => absurd hslot (hyoung slot)) hfree

/-! ## Runs -/

/-- The invariant behind `Conserved`. -/
structure Account.Balanced (account : Account) : Prop where
  sound : Sound account.queue
  accepted_eq : account.accepted = account.acknowledged +
    account.queue.dropCount.toNat + account.queue.count.toNat

theorem Account.Balanced.conserved (hbalanced : account.Balanced) :
    account.Conserved := by
  have hqueue := hbalanced.sound
  refine ⟨hqueue.count_eq, ?_, fun _ slot hstate => ?_, hbalanced.accepted_eq⟩
  · rw [hqueue.inFlight_iff]
    simp
  · exact ((hqueue.inFlight_iff slot).mp hstate).2

theorem Settles.dropCount_toNat {later : Account} {lost : ℕ}
    (hsettles : Settles account lost later) :
    later.queue.dropCount.toNat =
      (account.queue.dropCount.toNat + lost) % 2 ^ 64 := by
  rw [hsettles.dropCount_eq, UInt64.toNat_add, UInt64.toNat_ofNat', Nat.add_mod_mod]

theorem Account.Balanced.call (hbalanced : account.Balanced) {call : Call}
    (hmeets : account.queue.Meets call) : (account.call call).Balanced := by
  obtain ⟨hspares, hwrap⟩ := hmeets
  have hsettles := hbalanced.sound.settles hspares
  refine ⟨hsettles.sound, ?_⟩
  have hcount := hsettles.count_eq
  have haccepted := hbalanced.accepted_eq
  rw [hsettles.dropCount_toNat, Nat.mod_eq_of_lt hwrap]
  omega

/-- A call that overwrites a record or wraps the counter breaks the account. -/
theorem Account.Balanced.meets (hbalanced : account.Balanced) {call : Call}
    (hconserved : (account.call call).Conserved) : account.queue.Meets call := by
  obtain ⟨hlive, -, -, haccepted'⟩ := hconserved
  have hspares : account.queue.SparesTail call := by
    by_contra hspares
    exact hbalanced.sound.overwrites hspares hlive
  refine ⟨hspares, ?_⟩
  by_contra hwrap
  have hsettles := hbalanced.sound.settles hspares
  have hcount := hsettles.count_eq
  have haccepted := hbalanced.accepted_eq
  have hless := (account.call call).queue.dropCount.toNat_lt
  omega

/-- Every call of the run overwrites no record and leaves the counter unwrapped. -/
def MeetsThroughout (calls : List Call) : Prop :=
  ∀ before call, before ++ [call] <+: calls → (run before).queue.Meets call

theorem balanced_init : (run []).Balanced := ⟨Sound.init, rfl⟩

theorem MeetsThroughout.balanced {calls before : List Call}
    (hmeets : MeetsThroughout calls) (hearly : before <+: calls) :
    (run before).Balanced := by
  induction before using List.reverseRecOn with
  | nil => exact balanced_init
  | append_singleton before call ih =>
      rw [run_append]
      exact (ih ((List.prefix_append _ _).trans hearly)).call
        (hmeets before call hearly)

/-- The account of every state of a run is conserved exactly when every record
taken in finds a tail that holds no record, or that the full queue gives up for
it, and the 64-bit drop counter does not wrap. -/
theorem conserved_iff_meets (calls : List Call) :
    (∀ before, before <+: calls → (run before).Conserved) ↔
      MeetsThroughout calls := by
  constructor
  · intro hconserved before call hearly
    have hbalanced :
        ∀ earlier, earlier <+: before → (run earlier).Balanced := by
      intro earlier
      induction earlier using List.reverseRecOn with
      | nil => exact fun _ => balanced_init
      | append_singleton earlier step ih =>
          intro hprior
          have hprevious := ih ((List.prefix_append _ _).trans hprior)
          have hnow := hconserved _ (hprior.trans
            ((List.prefix_append _ _).trans hearly))
          rw [run_append] at hnow ⊢
          exact hprevious.call (hprevious.meets hnow)
    have hnow := hconserved _ hearly
    rw [run_append] at hnow
    exact (hbalanced before List.prefix_rfl).meets hnow
  · intro hmeets before hearly
    exact (hmeets.balanced hearly).conserved

/-- A record that carries nothing but its number. -/
def numbered (sequence : ℕ) : TelemetryRecord :=
  { TelemetryRecord.cleared with recordSequence := UInt64.ofNat sequence }

/-- The queue is filled and its first record is in flight; the next record takes
the room of the second one and is written over the first. -/
def wrapAround : List Call :=
  (List.range 64).map (fun index =>
      .enqueue (some (numbered (index + 1))) (UInt64.ofNat (index + 1))) ++
    [.dequeue, .enqueue (some (numbered 65)) 65]

theorem enqueue_overwrites_tail :
    ¬ ∀ calls : List Call, (calls.filterMap Call.time).Pairwise (· ≤ ·) →
      (run calls).Conserved := by
  intro hall
  have hconserved := (hall wrapAround (by decide +kernel)).1
  revert hconserved
  decide +kernel

end Swfpm.TelemetryQueue
