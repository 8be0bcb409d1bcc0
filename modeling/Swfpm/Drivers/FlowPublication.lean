import Swfpm.Drivers.Max35103
import Swfpm.Support.Evidence

/-!
# One flow sample for one interrupt

Runs of the portable MAX35103 driver, as logs of calls, newest first, with the
interrupts that were taken and the samples that were published.
-/

namespace Swfpm
namespace Max35103Driver

open Evidence

inductive Call where
  | irq (nowUs : UInt64)
  | spiCompletion (correlationId : UInt32) (success : Bool) (received : List UInt8)
      (nowUs : UInt64)
  | timeout
  | takeRawFlow

def call (self : Max35103Driver) (queue : AppEventQueue) :
    Call → Max35103Driver × AppEventQueue
  | .irq nowUs => (self.onIrq nowUs, queue)
  | .spiCompletion correlationId success received nowUs =>
      self.onSpiCompletion correlationId success received nowUs queue
  | .timeout => (self.onTimeout, queue)
  | .takeRawFlow => (self.takeRawFlow.2, queue)

/-! ## What the calls say -/

/-- A completion that brings a coherent frame. -/
def Call.decodes : Call → Bool
  | .spiCompletion _ success received _ =>
      success && (decodeFlowFrame received).isSome
  | _ => false

/-- The interrupts of a log. -/
def interrupts : List Call → ℕ
  | [] => 0
  | .irq _ :: log => interrupts log + 1
  | _ :: log => interrupts log

/-- There was an interrupt, and no timeout since. -/
def awaited : List Call → Bool
  | [] => false
  | .irq _ :: _ => true
  | .timeout :: _ => false
  | _ :: log => awaited log

/-- The numbers of the interrupts that the coherent frames followed. -/
def frameNumbers : List Call → List ℕ
  | [] => []
  | call :: log =>
      if call.decodes then interrupts log :: frameNumbers log else frameNumbers log

/-- A coherent frame comes after an interrupt with no timeout since, and not at
a whole number of turns of the 64-bit sequence, zero included, from another. -/
structure Answered (log : List Call) : Prop where
  awaited : EveryEntry (fun call past => call.decodes → awaited past) log
  apart : EveryEntry (fun call past => call.decodes →
    ∀ earlier older, earlier :: older <:+ past → earlier.decodes →
      ¬ 2 ^ 64 ∣ interrupts past - interrupts older) log

/-! ## What a completion does -/

section Completion

variable {self : Max35103Driver} {correlationId : UInt32} {success : Bool}
variable {received : List UInt8} {nowUs : UInt64} {queue : AppEventQueue}

theorem onSpiCompletion_failed (self : Max35103Driver) (queue : AppEventQueue)
    (hbad : (Call.spiCompletion correlationId success received nowUs).decodes = false) :
    ∃ state completions,
      (self.onSpiCompletion correlationId success received nowUs queue).1 =
        { self with
          spiCompletionCount := completions
          errorCount := self.errorCount + 1
          state } := by
  unfold onSpiCompletion
  cases success with
  | false => exact ⟨.recovery, self.spiCompletionCount, rfl⟩
  | true =>
      cases hdecoded : decodeFlowFrame received with
      | none => exact ⟨.recovery, self.spiCompletionCount + 1, rfl⟩
      | some decoded => simp [Call.decodes, hdecoded] at hbad

/-- A coherent frame is published, whatever the state. -/
theorem onSpiCompletion_decoded (self : Max35103Driver) (queue : AppEventQueue)
    (hgood : (Call.spiCompletion correlationId success received nowUs).decodes = true) :
    ∃ decoded, (self.onSpiCompletion correlationId success received nowUs queue).1 =
      { self with
        spiCompletionCount := self.spiCompletionCount + 1
        activeCorrelationId := correlationId
        rawFlowMailbox := self.identify decoded nowUs
        rawFlowMailboxValid := true
        rawReadyCount := self.rawReadyCount + 1
        state := .rawReady } := by
  unfold onSpiCompletion
  cases success with
  | false => simp [Call.decodes] at hgood
  | true =>
      cases hdecoded : decodeFlowFrame received with
      | none => simp [Call.decodes, hdecoded] at hgood
      | some decoded => exact ⟨decoded, rfl⟩

end Completion

/-! ## Histories -/

/-- A driver with what has happened to it. -/
structure History where
  driver : Max35103Driver
  queue : AppEventQueue
  /-- The time of the last interrupt. -/
  interruptUs : Option UInt64
  /-- There was a timeout since. -/
  timedOut : Bool
  /-- The samples that were published since. -/
  sinceInterrupt : ℕ
  published : List Max35103RawFlowSample

namespace History

def init (queue : AppEventQueue) : History :=
  { driver := .init, queue, interruptUs := none, timedOut := false
    sinceInterrupt := 0, published := [] }

/-- A sample is published where the driver counts it as ready. -/
def Publishes (history : History) (call : Call) : Prop :=
  (history.driver.call history.queue call).1.rawReadyCount ≠
    history.driver.rawReadyCount

instance (history : History) (call : Call) : Decidable (history.Publishes call) :=
  inferInstanceAs (Decidable (_ ≠ _))

def next (history : History) (call : Call) : History :=
  let (driver, queue) := history.driver.call history.queue call
  { driver
    queue
    interruptUs :=
      match call with
      | .irq nowUs => some nowUs
      | _ => history.interruptUs
    timedOut :=
      match call with
      | .irq _ => false
      | .timeout => true
      | _ => history.timedOut
    sinceInterrupt :=
      match call with
      | .irq _ => 0
      | _ =>
          if history.Publishes call then history.sinceInterrupt + 1
          else history.sinceInterrupt
    published :=
      if history.Publishes call then driver.rawFlowMailbox :: history.published
      else history.published }

def after (queue : AppEventQueue) : List Call → History
  | [] => init queue
  | call :: log => (after queue log).next call

/-- The identity that a sample is published under. -/
def number (sample : Max35103RawFlowSample) : UInt64 :=
  sample.metadata.sampleSequence

/-- What is promised of the samples of a run. -/
structure OnePerInterrupt (queue : AppEventQueue) (log : List Call) : Prop where
  atMostOne : ∀ past, past <:+ log → (after queue past).sinceInterrupt ≤ 1
  notLate : EveryEntry (fun call past => (after queue past).Publishes call →
    (after queue past).timedOut = false) log
  stamped : EveryEntry (fun call past => (after queue past).Publishes call →
    (after queue past).interruptUs =
      some ((after queue past).next call).driver.rawFlowMailbox.metadata.sampleMonotonicUs)
    log
  own : ((after queue log).published.map number).Nodup

/-! ## What a run keeps -/

variable {history : History} {call : Call} {log : List Call}

theorem publishes_iff : history.Publishes call ↔ call.decodes := by
  cases call with
  | irq nowUs => exact iff_of_false (fun hready => hready rfl) Bool.false_ne_true
  | timeout => exact iff_of_false (fun hready => hready rfl) Bool.false_ne_true
  | takeRawFlow =>
      refine iff_of_false (fun hready => hready ?_) Bool.false_ne_true
      change history.driver.takeRawFlow.2.rawReadyCount = _
      unfold takeRawFlow
      split <;> rfl
  | spiCompletion correlationId success received nowUs =>
      unfold Publishes
      simp only [Max35103Driver.call]
      cases hdecodes : (Call.spiCompletion correlationId success received nowUs).decodes with
      | false =>
          obtain ⟨state, completions, hnext⟩ := onSpiCompletion_failed
            history.driver history.queue hdecodes
          rw [hnext]
          exact iff_of_false (fun hready => hready rfl) Bool.false_ne_true
      | true =>
          obtain ⟨decoded, hnext⟩ := onSpiCompletion_decoded
            history.driver history.queue hdecodes
          rw [hnext]
          refine iff_of_true (fun hsame => ?_) rfl
          exact absurd (UInt32.add_eq_left.mp hsame) (by decide)

/-- The history agrees with what the calls say. -/
structure Follows (history : History) (log : List Call) : Prop where
  sequence : history.driver.sampleSequence = UInt64.ofNat (interrupts log)
  stamp : ∀ timeUs, history.interruptUs = some timeUs →
    history.driver.sampleMonotonicUs = timeUs
  waits : awaited log = true ↔
    history.interruptUs.isSome = true ∧ history.timedOut = false
  since : history.sinceInterrupt = (frameNumbers log).count (interrupts log)
  numbered : history.published.map number = (frameNumbers log).map UInt64.ofNat

theorem frameNumbers_le {n : ℕ} (hn : n ∈ frameNumbers log) : n ≤ interrupts log := by
  induction log with
  | nil => simp [frameNumbers] at hn
  | cons call log ih =>
      have hgrows : interrupts log ≤ interrupts (call :: log) := by
        cases call <;> simp [interrupts]
      unfold frameNumbers at hn
      split_ifs at hn with hdecodes
      · rcases List.mem_cons.mp hn with rfl | hn
        · exact hgrows
        · exact (ih hn).trans hgrows
      · exact (ih hn).trans hgrows

theorem follows_init (queue : AppEventQueue) : (init queue).Follows [] :=
  ⟨rfl, by simp [init], by simp [init, awaited], rfl, rfl⟩

theorem Follows.irq (hfollows : history.Follows log) (nowUs : UInt64) :
    (history.next (.irq nowUs)).Follows (.irq nowUs :: log) := by
  have hquiet : ¬ history.Publishes (.irq nowUs) := not_not.mpr rfl
  refine ⟨?_, ?_, ?_, ?_, ?_⟩
  · change history.driver.sampleSequence + 1 = UInt64.ofNat (interrupts log + 1)
    rw [hfollows.sequence, UInt64.ofNat_add]
    rfl
  · intro timeUs htime
    exact Option.some.inj htime
  · exact iff_of_true rfl ⟨rfl, rfl⟩
  · -- Every frame so far followed an earlier interrupt.
    change 0 = (frameNumbers log).count (interrupts log + 1)
    rw [eq_comm, List.count_eq_zero]
    intro hmem
    exact absurd (frameNumbers_le hmem) (Nat.not_succ_le_self _)
  · unfold next
    simp only [hquiet, if_false]
    exact hfollows.numbered

theorem Follows.timeout (hfollows : history.Follows log) :
    (history.next .timeout).Follows (.timeout :: log) := by
  have hquiet : ¬ history.Publishes .timeout := not_not.mpr rfl
  unfold next
  simp only [hquiet, if_false]
  exact ⟨hfollows.sequence, hfollows.stamp, by simp [awaited], hfollows.since,
    hfollows.numbered⟩

/-- A call that takes no interrupt, gives up on none and publishes nothing. -/
theorem Follows.quiet (hfollows : history.Follows log) (driver : Max35103Driver)
    (queue : AppEventQueue) (hquiet : call.decodes = false)
    (hnext : history.next call = { history with driver, queue })
    (hsequence : driver.sampleSequence = history.driver.sampleSequence)
    (hstamp : driver.sampleMonotonicUs = history.driver.sampleMonotonicUs)
    (hinterrupts : interrupts (call :: log) = interrupts log)
    (hwaits : awaited (call :: log) = awaited log) :
    (history.next call).Follows (call :: log) := by
  have hnumbers : frameNumbers (call :: log) = frameNumbers log := by
    rw [frameNumbers, hquiet, if_neg Bool.false_ne_true]
  rw [hnext]
  refine ⟨?_, ?_, ?_, ?_, ?_⟩
  · rw [hinterrupts, hsequence, hfollows.sequence]
  · intro timeUs htime
    rw [hstamp, hfollows.stamp timeUs htime]
  · rw [hwaits, hfollows.waits]
  · rw [hnumbers, hinterrupts, hfollows.since]
  · rw [hnumbers, hfollows.numbered]

theorem Follows.spiCompletion (hfollows : history.Follows log) (correlationId : UInt32)
    (success : Bool) (received : List UInt8) (nowUs : UInt64) :
    let call := Call.spiCompletion correlationId success received nowUs
    (history.next call).Follows (call :: log) := by
  intro call
  cases hdecodes : call.decodes with
  | false =>
      obtain ⟨state, completions, hdriver⟩ := onSpiCompletion_failed
        history.driver history.queue hdecodes
      have hsilent : ¬ history.Publishes call := by
        rw [publishes_iff, hdecodes]
        exact Bool.false_ne_true
      refine hfollows.quiet (history.driver.call history.queue call).1
        (history.driver.call history.queue call).2 hdecodes ?_ ?_ ?_ rfl rfl
      · unfold next
        simp only [hsilent, if_false, call]
      · change (history.driver.onSpiCompletion _ _ _ _ _).1.sampleSequence = _
        rw [hdriver]
      · change (history.driver.onSpiCompletion _ _ _ _ _).1.sampleMonotonicUs = _
        rw [hdriver]
  | true =>
      obtain ⟨decoded, hdriver⟩ := onSpiCompletion_decoded
        history.driver history.queue hdecodes
      have hpublishes : history.Publishes call := publishes_iff.mpr hdecodes
      have hnumbers : frameNumbers (call :: log) = interrupts log :: frameNumbers log := by
        rw [frameNumbers, if_pos hdecodes]
      unfold next
      simp only [hpublishes, if_true, call, Max35103Driver.call, hdriver]
      refine ⟨hfollows.sequence, hfollows.stamp, hfollows.waits, ?_, ?_⟩
      · rw [hnumbers]
        change _ = (interrupts log :: frameNumbers log).count (interrupts log)
        rw [List.count_cons_self, hfollows.since]
      · rw [hnumbers, List.map_cons, List.map_cons, hfollows.numbered,
          ← hfollows.sequence]
        rfl

theorem Follows.takeRawFlow (hfollows : history.Follows log) :
    (history.next .takeRawFlow).Follows (.takeRawFlow :: log) := by
  have hsilent : ¬ history.Publishes .takeRawFlow := by
    rw [publishes_iff]
    exact Bool.false_ne_true
  refine hfollows.quiet history.driver.takeRawFlow.2 history.queue rfl ?_ ?_ ?_ rfl
    rfl
  · unfold next
    simp only [hsilent, if_false, Max35103Driver.call]
  · unfold Max35103Driver.takeRawFlow
    split <;> rfl
  · unfold Max35103Driver.takeRawFlow
    split <;> rfl

theorem after_follows (queue : AppEventQueue) (log : List Call) :
    (after queue log).Follows log := by
  induction log with
  | nil => exact follows_init queue
  | cons call log ih =>
      cases call with
      | irq nowUs => exact ih.irq nowUs
      | spiCompletion correlationId success received nowUs =>
          exact ih.spiCompletion correlationId success received nowUs
      | timeout => exact ih.timeout
      | takeRawFlow => exact ih.takeRawFlow

/-! ## The samples of a run -/

theorem mem_frameNumbers {n : ℕ} :
    n ∈ frameNumbers log ↔
      ∃ earlier older, earlier :: older <:+ log ∧ earlier.decodes ∧
        interrupts older = n := by
  induction log with
  | nil => simp [frameNumbers]
  | cons call log ih =>
      have hrest : n ∈ frameNumbers (call :: log) ↔
          (call.decodes ∧ interrupts log = n) ∨ n ∈ frameNumbers log := by
        rw [frameNumbers]
        split_ifs with hdecodes
        · rw [List.mem_cons, and_iff_right hdecodes, eq_comm]
        · rw [or_iff_right fun hcontra => absurd hcontra.1 hdecodes]
      rw [hrest, ih]
      constructor
      · rintro (⟨hdecodes, hnumber⟩ | ⟨earlier, older, hsuffix, hdecodes, hnumber⟩)
        · exact ⟨call, log, List.suffix_rfl, hdecodes, hnumber⟩
        · exact ⟨earlier, older, hsuffix.trans (List.suffix_cons _ _), hdecodes, hnumber⟩
      · rintro ⟨earlier, older, hsuffix, hdecodes, hnumber⟩
        rcases List.suffix_cons_iff.mp hsuffix with heq | hsuffix
        · obtain ⟨rfl, rfl⟩ := List.cons.inj heq
          exact .inl ⟨hdecodes, hnumber⟩
        · exact .inr ⟨earlier, older, hsuffix, hdecodes, hnumber⟩

/-- Two numbers that the 64-bit sequence cannot tell apart. -/
theorem ofNat_eq_iff_dvd {n m : ℕ} (hle : n ≤ m) :
    UInt64.ofNat n = UInt64.ofNat m ↔ 2 ^ 64 ∣ m - n := by
  rw [← UInt64.toNat_inj, UInt64.toNat_ofNat', UInt64.toNat_ofNat',
    ← Nat.modEq_iff_dvd' hle]
  rfl

theorem nodup_iff_apart :
    ((frameNumbers log).map UInt64.ofNat).Nodup ↔
      EveryEntry (fun call past => call.decodes →
        ∀ earlier older, earlier :: older <:+ past → earlier.decodes →
          ¬ 2 ^ 64 ∣ interrupts past - interrupts older) log := by
  induction log with
  | nil => exact iff_of_true .nil everyEntry_nil
  | cons call log ih =>
      rw [everyEntry_cons, ← ih]
      by_cases hdecodes : call.decodes
      · rw [frameNumbers, if_pos hdecodes, List.map_cons, List.nodup_cons]
        refine and_congr_left fun _ => ?_
        rw [forall_prop_of_true hdecodes, List.mem_map]
        constructor
        · intro hfresh earlier older hsuffix hearlier hdvd
          have hmem := mem_frameNumbers.mpr ⟨earlier, older, hsuffix, hearlier, rfl⟩
          exact hfresh ⟨_, hmem, (ofNat_eq_iff_dvd (frameNumbers_le hmem)).mpr hdvd⟩
        · rintro hapart ⟨n, hmem, hsame⟩
          rw [ofNat_eq_iff_dvd (frameNumbers_le hmem)] at hsame
          obtain ⟨earlier, older, hsuffix, hearlier, rfl⟩ := mem_frameNumbers.mp hmem
          exact hapart earlier older hsuffix hearlier hsame
      · rw [frameNumbers, if_neg hdecodes]
        exact (and_iff_right fun hcontra => absurd hcontra hdecodes).symm

theorem published_stamp (hdecodes : call.decodes) :
    (history.next call).driver.rawFlowMailbox.metadata.sampleMonotonicUs =
      history.driver.sampleMonotonicUs := by
  cases call with
  | irq nowUs => cases hdecodes
  | timeout => cases hdecodes
  | takeRawFlow => cases hdecodes
  | spiCompletion correlationId success received nowUs =>
      obtain ⟨decoded, hdriver⟩ := onSpiCompletion_decoded
        history.driver history.queue hdecodes
      change (history.driver.onSpiCompletion correlationId success received nowUs
        history.queue).1.rawFlowMailbox.metadata.sampleMonotonicUs = _
      rw [hdriver]
      rfl

/-- Each sample is the only one of an interrupt that no timeout gave up, exactly
when that is how the coherent frames come in. -/
theorem onePerInterrupt_iff (queue : AppEventQueue) (log : List Call) :
    OnePerInterrupt queue log ↔ Answered log := by
  constructor
  · rintro ⟨-, hnotLate, hstamped, hown⟩
    refine ⟨?_, ?_⟩
    · intro call past hsuffix hdecodes
      have hpublishes : (after queue past).Publishes call := publishes_iff.mpr hdecodes
      refine (after_follows queue past).waits.mpr ⟨?_, hnotLate call past hsuffix hpublishes⟩
      rw [hstamped call past hsuffix hpublishes]
      rfl
    · rw [(after_follows queue log).numbered] at hown
      exact nodup_iff_apart.mp hown
  · rintro ⟨hawaited, hapart⟩
    have hwaits : ∀ call past, call :: past <:+ log → (after queue past).Publishes call →
        (after queue past).interruptUs.isSome = true ∧
          (after queue past).timedOut = false := by
      intro call past hsuffix hpublishes
      exact (after_follows queue past).waits.mp
        (hawaited call past hsuffix (publishes_iff.mp hpublishes))
    refine ⟨?_, ?_, ?_, ?_⟩
    · intro past hsuffix
      have hnodup := (nodup_iff_apart.mpr (hapart.suffix hsuffix)).of_map
      rw [(after_follows queue past).since]
      exact List.nodup_iff_count_le_one.mp hnodup _
    · intro call past hsuffix hpublishes
      exact (hwaits call past hsuffix hpublishes).2
    · intro call past hsuffix hpublishes
      obtain ⟨timeUs, htime⟩ := Option.isSome_iff_exists.mp
        (hwaits call past hsuffix hpublishes).1
      rw [published_stamp (publishes_iff.mp hpublishes), htime,
        (after_follows queue past).stamp timeUs htime]
    · rw [(after_follows queue log).numbered]
      exact nodup_iff_apart.mpr hapart

/-- A frame of 1 000 000 ps both ways, with one valid cycle. -/
def stillFrame : List UInt8 := [0, 4, 0, 0, 0, 4, 0, 0, 0, 0, 0, 0, 0, 1]

example : (decodeFlowFrame stillFrame).isSome = true := by decide

/-- The completion of one transfer is delivered twice. -/
theorem duplicate_completion_repeats :
    ¬ ∀ queue log, OnePerInterrupt queue log := by
  intro hclaim
  have hnodup := (hclaim (.init none)
    [.spiCompletion 7 true stillFrame 130, .spiCompletion 7 true stillFrame 120,
      .irq 100]).own
  exact absurd hnodup (by decide)

end History
end Max35103Driver
end Swfpm
