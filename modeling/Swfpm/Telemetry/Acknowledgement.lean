import Swfpm.Telemetry.Conservation
import Swfpm.Telemetry.Delivery

/-!
# What an acknowledgement removes

An acknowledgement is for the record in flight.  The source looks for the first
live record with the sequence number, which may be one that was never sent.
-/

namespace Swfpm.TelemetryQueue

open SlotTable

variable {queue later : TelemetryQueue} {slot : TelemetrySlot} {sequence : UInt64}

/-- The record in flight is the one with this sequence number. -/
def IsSent (queue : TelemetryQueue) (sequence : UInt64) : Prop :=
  queue.hasInFlight = true ∧
    (queue.entries queue.inFlightIdx).state = .inFlight ∧
    (queue.entries queue.inFlightIdx).record.recordSequence = sequence

/-- The record in flight is done. -/
def settle (queue : TelemetryQueue) : TelemetryQueue :=
  { queue.setState queue.inFlightIdx .acknowledged with
    count := queue.count - 1, hasInFlight := false }

/-- An acknowledgement removes the record in flight and no other one, and it is
refused without any effect where that is not the record it names. -/
structure RemovesOnlySent (queue : TelemetryQueue) (sequence : UInt64) : Prop where
  removed : (queue.ack sequence).1 = true →
    queue.IsSent sequence ∧ (queue.ack sequence).2 = queue.settle
  refused : ¬ queue.IsSent sequence → queue.ack sequence = (false, queue)

/-- A record with this sequence number has not been sent yet. -/
def Waits (queue : TelemetryQueue) (sequence : UInt64) : Prop :=
  ∃ slot, (queue.entries slot).state = .queued ∧
    (queue.entries slot).record.recordSequence = sequence

/-! ## Live records differ -/

/-- Two live entries have different sequence numbers. -/
def Distinct (queue : TelemetryQueue) : Prop :=
  ∀ slot other, live (queue.entries slot) = true → live (queue.entries other) = true →
    (queue.entries slot).record.recordSequence =
      (queue.entries other).record.recordSequence →
    slot = other

/-- No entry comes to life, and the live ones keep their records. -/
def OnlyRetires (queue later : TelemetryQueue) : Prop :=
  ∀ slot, live (later.entries slot) = true →
    live (queue.entries slot) = true ∧
      (later.entries slot).record = (queue.entries slot).record

theorem OnlyRetires.refl (queue : TelemetryQueue) : OnlyRetires queue queue :=
  fun _ hlive => ⟨hlive, rfl⟩

theorem OnlyRetires.trans {last : TelemetryQueue} (hlater : OnlyRetires queue later)
    (hlast : OnlyRetires later last) : OnlyRetires queue last := by
  intro slot hlive
  obtain ⟨hmiddle, hrecord⟩ := hlast slot hlive
  obtain ⟨hfirst, hsame⟩ := hlater slot hmiddle
  exact ⟨hfirst, hrecord.trans hsame⟩

theorem OnlyRetires.distinct (hretires : OnlyRetires queue later)
    (hqueue : Distinct queue) : Distinct later := by
  intro slot other hslot hother hsame
  obtain ⟨hslot, hrecord⟩ := hretires slot hslot
  obtain ⟨hother, hrecord'⟩ := hretires other hother
  rw [hrecord, hrecord'] at hsame
  exact hqueue slot other hslot hother hsame

theorem onlyRetires_setState (state : QueueRecordState)
    (hlive : live { queue.entries slot with state } = true →
      live (queue.entries slot) = true) :
    OnlyRetires queue (queue.setState slot state) := by
  intro other hother
  by_cases heq : other = slot
  · subst heq
    rw [setState_entries_self] at hother ⊢
    exact ⟨hlive hother, rfl⟩
  · rw [setState_entries_of_ne _ heq] at hother ⊢
    exact ⟨hother, rfl⟩

theorem onlyRetires_dropSlot (slot : TelemetrySlot) :
    OnlyRetires queue (queue.dropSlot slot) :=
  onlyRetires_setState .dropped fun hlive => by simp [live] at hlive

theorem onlyRetires_tick (queue : TelemetryQueue) (nowUs : UInt64) :
    OnlyRetires queue (queue.tick nowUs) := by
  rw [tick]
  refine List.foldlRecOn (motive := OnlyRetires queue) slots _ (.refl queue) ?_
  intro later hlater slot _
  rw [expireSlot]
  split_ifs
  · exact hlater.trans (onlyRetires_dropSlot slot)
  · exact hlater

theorem onlyRetires_ack (queue : TelemetryQueue) (sequence : UInt64) :
    OnlyRetires queue (queue.ack sequence).2 := by
  rw [ack]
  cases slots.find? fun slot => acknowledges sequence (queue.entries slot) with
  | none => exact .refl queue
  | some slot =>
      exact onlyRetires_setState .acknowledged fun hlive => by
        simp [live] at hlive

theorem onlyRetires_dropOldest {nowUs : UInt64}
    (hdropped : queue.dropOldest nowUs = some later) : OnlyRetires queue later := by
  unfold dropOldest at hdropped
  split_ifs at hdropped
  · obtain ⟨slot, -, rfl⟩ := Option.map_eq_some_iff.mp hdropped
    exact onlyRetires_dropSlot slot
  · cases hdropped
    exact .refl queue

/-- A record is written whose number no live entry has. -/
theorem Distinct.writeTail (hqueue : Distinct queue) {record : TelemetryRecord}
    (hnew : ∀ slot, live (queue.entries slot) = true →
      (queue.entries slot).record.recordSequence ≠ record.recordSequence)
    (nowUs : UInt64) : Distinct (queue.writeTail record nowUs) := by
  intro slot other
  change live (RingBuffer.write queue.entries queue.tail _ slot) = true →
    live (RingBuffer.write queue.entries queue.tail _ other) = true →
    (RingBuffer.write queue.entries queue.tail _ slot).record.recordSequence =
      (RingBuffer.write queue.entries queue.tail _ other).record.recordSequence →
    slot = other
  by_cases hslot : slot = queue.tail <;> by_cases hother : other = queue.tail
  · exact fun _ _ _ => hslot.trans hother.symm
  · simp only [RingBuffer.write, hslot, hother, if_true, if_false]
    intro _ hlive hsame
    exact absurd hsame.symm (hnew other hlive)
  · simp only [RingBuffer.write, hslot, hother, if_true, if_false]
    intro hlive _ hsame
    exact absurd hsame (hnew slot hlive)
  · simp only [RingBuffer.write, hslot, hother, if_false]
    exact hqueue slot other

theorem Distinct.enqueue (hqueue : Distinct queue) (record : Option TelemetryRecord)
    (nowUs : UInt64) : Distinct (queue.enqueue record nowUs).2 := by
  cases record with
  | none => exact hqueue
  | some record =>
      rw [TelemetryQueue.enqueue]
      split_ifs with hduplicate hfull
      · exact hqueue
      all_goals
        rw [any_holdsSequence_iff] at hduplicate
        have hnew : ∀ later, OnlyRetires queue later → ∀ slot,
            live (later.entries slot) = true →
            (later.entries slot).record.recordSequence ≠ record.recordSequence := by
          intro later hretires slot hlive hsame
          obtain ⟨hbefore, hrecord⟩ := hretires slot hlive
          refine hduplicate ⟨slot, ?_⟩
          rw [hrecord] at hsame
          simp only [live, Bool.or_eq_true, decide_eq_true_eq] at hbefore
          rcases hbefore with hstate | hstate <;>
            simp [holdsSequence, hstate, hsame]
      · have hticked := onlyRetires_tick queue nowUs
        generalize queue.tick nowUs = ticked at hticked ⊢
        dsimp only
        cases hdropped : ticked.dropOldest nowUs with
        | none => exact hticked.distinct hqueue
        | some later =>
            have hretires := hticked.trans (onlyRetires_dropOldest hdropped)
            exact (hretires.distinct hqueue).writeTail (hnew later hretires) nowUs
      · dsimp only
        cases hdropped : queue.dropOldest nowUs with
        | none => exact hqueue
        | some later =>
            have hretires := onlyRetires_dropOldest hdropped
            exact (hretires.distinct hqueue).writeTail (hnew later hretires) nowUs

theorem Distinct.dequeue (hqueue : Distinct queue) : Distinct queue.dequeue.2 := by
  rw [TelemetryQueue.dequeue]
  split_ifs with hbusy
  · exact hqueue
  · cases hfound : queue.oldest (fun entry => entry.state = .queued)
        0xFFFFFFFFFFFFFFFF with
    | none => exact hqueue
    | some slot =>
        have hfirst := (firstLeast_eq_some_iff
          (List.pairwise_lt_finRange _) slot).mp hfound
        have hqueued : (queue.entries slot).state = .queued := by
          simpa using hfirst.2.1
        have hretires : OnlyRetires queue (queue.setState slot .inFlight) :=
          onlyRetires_setState .inFlight fun _ => by simp [live, hqueued]
        exact hretires.distinct hqueue

/-! ## Runs -/

/-- What every run keeps, also one whose tail writes over a record. -/
structure Kept (queue : TelemetryQueue) : Prop where
  distinct : Distinct queue
  marked : Marked queue

theorem Kept.call {account : Account} (hkept : Kept account.queue) (call : Call) :
    Kept (account.call call).queue := by
  cases call with
  | enqueue record nowUs =>
      exact ⟨hkept.distinct.enqueue record nowUs,
        (keepsMark_enqueue record nowUs).marked hkept.marked⟩
  | dequeue => exact ⟨hkept.distinct.dequeue, hkept.marked.dequeue⟩
  | ack sequence =>
      exact ⟨(onlyRetires_ack _ sequence).distinct hkept.distinct,
        hkept.marked.ack sequence⟩
  | tick nowUs =>
      simp only [Account.call]
      exact ⟨(onlyRetires_tick _ nowUs).distinct hkept.distinct,
        (keepsMark_tick _ nowUs).marked hkept.marked⟩

theorem kept_run (calls : List Call) : Kept (run calls).queue := by
  induction calls using List.reverseRecOn with
  | nil =>
      refine ⟨?_, ?_⟩
      · intro slot other (hlive : live QueueEntry.cleared = true)
        cases hlive
      · exact fun slot => (Sound.init.inFlight_iff slot).mp
  | append_singleton calls call ih =>
      rw [run_append]
      exact ih.call call

/-! ## Acknowledgements -/

theorem ack_of_none
    (hnone : ∀ slot, acknowledges sequence (queue.entries slot) = false) :
    queue.ack sequence = (false, queue) := by
  have hfound : (slots.find? fun slot => acknowledges sequence (queue.entries slot)) =
      none := by
    rw [List.find?_eq_none]
    intro slot _
    rw [hnone slot]
    exact Bool.false_ne_true
  rw [ack, hfound]

theorem exists_of_ack (hremoved : (queue.ack sequence).1 = true) :
    ∃ slot, acknowledges sequence (queue.entries slot) = true ∧
      (queue.ack sequence).2 =
        { queue.setState slot .acknowledged with
          count := queue.count - 1
          hasInFlight := queue.hasInFlight && queue.inFlightIdx ≠ slot } := by
  rw [ack] at hremoved ⊢
  cases hfound : slots.find? fun slot => acknowledges sequence (queue.entries slot) with
  | none =>
      rw [hfound] at hremoved
      cases hremoved
  | some slot =>
      have hfits := List.find?_some hfound
      exact ⟨slot, hfits, rfl⟩

theorem acknowledges_iff : acknowledges sequence (queue.entries slot) = true ↔
    ((queue.entries slot).state = .inFlight ∨ (queue.entries slot).state = .queued) ∧
      (queue.entries slot).record.recordSequence = sequence := by
  simp [acknowledges]

/-- With no such record waiting, the one that fits is in flight. -/
theorem Kept.sent_of_acknowledges (hkept : Kept queue) (hidle : ¬ queue.Waits sequence)
    (hfits : acknowledges sequence (queue.entries slot) = true) :
    slot = queue.inFlightIdx ∧ queue.IsSent sequence := by
  obtain ⟨hstate | hstate, hsequence⟩ := acknowledges_iff.mp hfits
  · obtain ⟨hbusy, rfl⟩ := hkept.marked slot hstate
    exact ⟨rfl, hbusy, hstate, hsequence⟩
  · exact absurd ⟨slot, hstate, hsequence⟩ hidle

theorem Kept.removes_iff (hkept : Kept queue) :
    queue.RemovesOnlySent sequence ↔ ¬ queue.Waits sequence := by
  constructor
  · rintro ⟨hremoved, hrefused⟩ ⟨slot, hstate, hsequence⟩
    have hfits : acknowledges sequence (queue.entries slot) = true :=
      acknowledges_iff.mpr ⟨.inr hstate, hsequence⟩
    by_cases hsent : queue.IsSent sequence
    · -- The waiting record would be the one in flight.
      obtain ⟨-, hinFlight, hsame⟩ := hsent
      have hslot : slot = queue.inFlightIdx := by
        apply hkept.distinct
        · simp [live, hstate]
        · simp [live, hinFlight]
        · rw [hsequence, hsame]
      rw [hslot, hinFlight] at hstate
      cases hstate
    · have hfound : (slots.find? fun slot =>
          acknowledges sequence (queue.entries slot)) ≠ none := by
        rw [Ne, List.find?_eq_none, not_forall]
        exact ⟨slot, fun hnone => hnone (List.mem_finRange slot) hfits⟩
      have hack := hrefused hsent
      rw [ack] at hack
      cases hcase : slots.find? fun slot =>
          acknowledges sequence (queue.entries slot) with
      | none => exact hfound hcase
      | some found =>
          rw [hcase] at hack
          cases (Prod.mk.inj hack).1
  · intro hidle
    refine ⟨?_, ?_⟩
    · intro hremoved
      obtain ⟨slot, hfits, hlater⟩ := exists_of_ack hremoved
      obtain ⟨rfl, hsent⟩ := hkept.sent_of_acknowledges hidle hfits
      refine ⟨hsent, ?_⟩
      rw [hlater, settle]
      simp
    · intro hunsent
      apply ack_of_none
      intro slot
      rw [← Bool.not_eq_true]
      exact fun hfits => hunsent (hkept.sent_of_acknowledges hidle hfits).2

/-- An acknowledgement leaves everything but the record in flight alone exactly
when no record with its number still waits. -/
theorem removesOnlySent_iff (calls : List Call) (sequence : UInt64) :
    (run calls).queue.RemovesOnlySent sequence ↔ ¬ (run calls).queue.Waits sequence :=
  (kept_run calls).removes_iff

/-- A record that was never sent is removed. -/
theorem ack_removes_waiting :
    ¬ ∀ calls sequence, (run calls).queue.RemovesOnlySent sequence := by
  intro hall
  have hsent := ((hall [.enqueue (some (numbered 1)) 1] 1).removed (by decide +kernel)).1
  exact absurd hsent.1 (by decide +kernel)

end Swfpm.TelemetryQueue
