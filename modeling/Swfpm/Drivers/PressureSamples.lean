import Swfpm.Drivers.Zssc3241
import Swfpm.Support.Evidence

/-!
# One pressure sample for one start

Runs of the portable ZSSC3241 driver, as logs of calls, newest first, with the
attempts that were started and the samples that were published.
-/

namespace Swfpm
namespace Zssc3241Driver

open Evidence

inductive Call where
  | sampleDue (nowUs : UInt64)
  | prepareStart (correlationId : UInt32)
  | eocAsserted
  | prepareRead
  | pollDue
  | i2cCompletion (correlationId : UInt32) (success : Bool)
      (response : Option (List UInt8)) (nowUs : UInt64)
  | timeout
  | takeRawPressure

def call (self : Zssc3241Driver) (queue : AppEventQueue) :
    Call → Zssc3241Driver × AppEventQueue
  | .sampleDue nowUs => (self.onSampleDue nowUs, queue)
  | .prepareStart correlationId => ((self.prepareStart correlationId).2, queue)
  | .eocAsserted => (self.onEocAsserted, queue)
  | .prepareRead => (self.prepareRead.2, queue)
  | .pollDue => (self.onPollDue, queue)
  | .i2cCompletion correlationId success response nowUs =>
      self.onI2cCompletion correlationId success response nowUs queue
  | .timeout => (self.onTimeout, queue)
  | .takeRawPressure => (self.takeRawPressure.2, queue)

/-- A driver with what has happened to it. -/
structure History where
  driver : Zssc3241Driver
  queue : AppEventQueue
  /-- An attempt was started, and no sample, failure or timeout has ended it. -/
  outstanding : Bool
  starts : ℕ
  published : List ZsscRawPressureSample

namespace History

def init (queue : AppEventQueue) : History :=
  { driver := .init, queue, outstanding := false, starts := 0, published := [] }

/-- A sample is published where the driver counts it as ready. -/
def Publishes (history : History) (call : Call) : Prop :=
  (history.driver.call history.queue call).1.rawReadyCount ≠
    history.driver.rawReadyCount

instance (history : History) (call : Call) : Decidable (history.Publishes call) :=
  inferInstanceAs (Decidable (_ ≠ _))

/-- The call starts an attempt. -/
def Starts (history : History) : Call → Bool
  | .prepareStart correlationId => (history.driver.prepareStart correlationId).1
  | _ => false

/-- The call ends the outstanding attempt without a sample. -/
def Fails (history : History) : Call → Bool
  | .timeout => true
  | .i2cCompletion correlationId success response nowUs =>
      correlationId = history.driver.activeCorrelationId &&
        (history.driver.onI2cCompletion correlationId success response nowUs
          history.queue).1.state = .recovery
  | _ => false

def next (history : History) (call : Call) : History :=
  let (driver, queue) := history.driver.call history.queue call
  { driver
    queue
    outstanding :=
      if history.Publishes call ∨ history.Fails call then false
      else history.outstanding || history.Starts call
    starts := if history.Starts call then history.starts + 1 else history.starts
    published :=
      if history.Publishes call then driver.rawMailbox :: history.published
      else history.published }

def after (queue : AppEventQueue) : List Call → History
  | [] => init queue
  | call :: log => (after queue log).next call

end History

/-- The driver waits for a response. -/
def Reading (self : Zssc3241Driver) : Prop :=
  self.state = .reading ∨ self.state = .polling

/-- A call that publishes nothing, starts nothing and begins no reading. -/
structure Idles (before next : Zssc3241Driver) : Prop where
  ready : next.rawReadyCount = before.rawReadyCount
  sequence : next.sampleSequence = before.sampleSequence
  reading : next.Reading → before.Reading

theorem onSampleDue_idles (self : Zssc3241Driver) (nowUs : UInt64) :
    self.Idles (self.onSampleDue nowUs) := by
  unfold onSampleDue
  split
  · exact ⟨rfl, rfl, id⟩
  · exact ⟨rfl, rfl, by simp [Reading]⟩

theorem prepareRead_idles (self : Zssc3241Driver) : self.Idles self.prepareRead.2 := by
  unfold prepareRead
  split <;> exact ⟨rfl, rfl, id⟩

theorem takeRawPressure_idles (self : Zssc3241Driver) :
    self.Idles self.takeRawPressure.2 := by
  unfold takeRawPressure
  split
  · exact ⟨rfl, rfl, id⟩
  · exact ⟨rfl, rfl, by simp [Reading]⟩

/-- What a completion does: nothing that counts, the end of a failed attempt, or
a sample of the attempt that is read. -/
inductive Completion (self next : Zssc3241Driver) (active : Prop) : Prop where
  | quiet : next.rawReadyCount = self.rawReadyCount →
      (next.Reading → self.Reading) → Completion self next active
  | failed : active → next.rawReadyCount = self.rawReadyCount →
      next.state = .recovery → Completion self next active
  | published : self.Reading → next.state = .rawReady →
      next.rawReadyCount = self.rawReadyCount + 1 →
      next.rawMailbox.metadata.sampleSequence = self.sampleSequence →
      Completion self next active

theorem onI2cCompletion_completion (self : Zssc3241Driver) (correlationId : UInt32)
    (success : Bool) (response : Option (List UInt8)) (nowUs : UInt64)
    (queue : AppEventQueue) :
    let next := (self.onI2cCompletion correlationId success response nowUs queue).1
    next.sampleSequence = self.sampleSequence ∧
      Completion self next (correlationId = self.activeCorrelationId) := by
  intro next
  have hdef : next =
    (self.onI2cCompletion correlationId success response nowUs queue).1 := rfl
  clear_value next
  unfold onI2cCompletion at hdef
  split_ifs at hdef with hother hfailed hstarting hearly
  · subst hdef
    exact ⟨rfl, .quiet rfl id⟩
  · subst hdef
    exact ⟨rfl, .failed (not_not.mp hother) rfl rfl⟩
  · subst hdef
    exact ⟨rfl, .quiet rfl (by simp [Reading])⟩
  · subst hdef
    exact ⟨rfl, .failed (not_not.mp hother) rfl rfl⟩
  · have hreading : self.Reading := by
      unfold Reading
      tauto
    cases response with
    | none =>
        subst hdef
        exact ⟨rfl, .failed (not_not.mp hother) rfl rfl⟩
    | some response =>
        dsimp only at hdef
        split_ifs at hdef
        · subst hdef
          exact ⟨rfl, .failed (not_not.mp hother) rfl rfl⟩
        · subst hdef
          exact ⟨rfl, .quiet rfl fun _ => hreading⟩
        · subst hdef
          exact ⟨rfl, .published hreading rfl rfl rfl⟩

namespace History

variable {history : History} {call : Call}

/-- The number of a sample, which is that of its start. -/
def number (sample : ZsscRawPressureSample) : UInt64 :=
  sample.metadata.sampleSequence

/-- The driver reads only in an outstanding attempt, and the published samples
are those of earlier starts. -/
structure Sound (history : History) : Prop where
  reading : history.driver.Reading → history.outstanding = true
  sequence : history.driver.sampleSequence = UInt64.ofNat history.starts
  numbered : ∃ numbers : List ℕ,
    history.published.map number = numbers.map UInt64.ofNat ∧
      numbers.Pairwise (fun later earlier => earlier < later) ∧
      ∀ n ∈ numbers, n ≤ history.starts ∧
        (history.outstanding = true → n < history.starts)

theorem sound_init (queue : AppEventQueue) : (init queue).Sound :=
  ⟨fun hreading => by simp [Reading, init, Zssc3241Driver.init] at hreading, rfl,
    [], rfl, .nil, by simp⟩

/-- A call that neither starts nor ends an attempt. -/
theorem Sound.quiet (hsound : history.Sound)
    (hready : (history.driver.call history.queue call).1.rawReadyCount =
      history.driver.rawReadyCount)
    (hfails : history.Fails call = false) (hstarts : history.Starts call = false)
    (hsequence : (history.driver.call history.queue call).1.sampleSequence =
      history.driver.sampleSequence)
    (hreading : (history.driver.call history.queue call).1.Reading →
      history.outstanding = true) :
    (history.next call).Sound := by
  have hquiet : ¬ history.Publishes call := not_not.mpr hready
  unfold next
  simp only [hquiet, hfails, hstarts, Bool.false_eq_true, or_self, if_false,
    Bool.or_false]
  exact ⟨hreading, hsequence.trans hsound.sequence, hsound.numbered⟩

/-- A call that ends the outstanding attempt without a sample. -/
theorem Sound.failed (hsound : history.Sound)
    (hready : (history.driver.call history.queue call).1.rawReadyCount =
      history.driver.rawReadyCount)
    (hfails : history.Fails call = true) (hstarts : history.Starts call = false)
    (hsequence : (history.driver.call history.queue call).1.sampleSequence =
      history.driver.sampleSequence)
    (hreading : ¬ (history.driver.call history.queue call).1.Reading) :
    (history.next call).Sound := by
  have hquiet : ¬ history.Publishes call := not_not.mpr hready
  obtain ⟨numbers, hnumbers, hdescends, hbounds⟩ := hsound.numbered
  unfold next
  simp only [hquiet, hfails, hstarts, Bool.false_eq_true, or_true, if_true, if_false]
  refine ⟨fun h => absurd h hreading, hsequence.trans hsound.sequence, numbers,
    hnumbers, hdescends, ?_⟩
  intro n hn
  exact ⟨(hbounds n hn).1, by simp⟩

theorem Sound.started (hsound : history.Sound)
    (hready : (history.driver.call history.queue call).1.rawReadyCount =
      history.driver.rawReadyCount)
    (hfails : history.Fails call = false) (hstarts : history.Starts call = true)
    (hsequence : (history.driver.call history.queue call).1.sampleSequence =
      history.driver.sampleSequence + 1) :
    (history.next call).Sound := by
  have hquiet : ¬ history.Publishes call := not_not.mpr hready
  obtain ⟨numbers, hnumbers, hdescends, hbounds⟩ := hsound.numbered
  unfold next
  simp only [hquiet, hfails, hstarts, Bool.false_eq_true, or_self, if_true, if_false,
    Bool.or_true]
  refine ⟨fun _ => rfl, ?_, numbers, hnumbers, hdescends, ?_⟩
  · rw [hsequence, hsound.sequence, UInt64.ofNat_add]
    rfl
  · intro n hn
    have hle := (hbounds n hn).1
    exact ⟨hle.trans (Nat.le_succ _), fun _ => Nat.lt_succ_of_le hle⟩

theorem Sound.published_next (hsound : history.Sound)
    (hready : (history.driver.call history.queue call).1.rawReadyCount =
      history.driver.rawReadyCount + 1)
    (hstarts : history.Starts call = false) (hreads : history.driver.Reading)
    (hsequence : (history.driver.call history.queue call).1.sampleSequence =
      history.driver.sampleSequence)
    (hnumber : number (history.driver.call history.queue call).1.rawMailbox =
      history.driver.sampleSequence)
    (hreading : ¬ (history.driver.call history.queue call).1.Reading) :
    (history.next call).Sound := by
  have hpublishes : history.Publishes call := by
    unfold Publishes
    rw [hready]
    intro hsame
    exact absurd (UInt32.add_eq_left.mp hsame) (by decide)
  obtain ⟨numbers, hnumbers, hdescends, hbounds⟩ := hsound.numbered
  have houtstanding := hsound.reading hreads
  unfold next
  simp only [hpublishes, hstarts, Bool.false_eq_true, true_or, if_true, if_false]
  refine ⟨fun h => absurd h hreading, hsequence.trans hsound.sequence,
    history.starts :: numbers, ?_, ?_, ?_⟩
  · rw [List.map_cons, List.map_cons, hnumber, hsound.sequence, hnumbers]
  · refine List.pairwise_cons.mpr ⟨?_, hdescends⟩
    intro n hn
    exact (hbounds n hn).2 houtstanding
  · intro n hn
    refine ⟨?_, by simp⟩
    rcases List.mem_cons.mp hn with rfl | hn
    · exact Nat.le_refl _
    · exact (hbounds n hn).1

end History

/-- The events that make the driver read. -/
def Call.Reads : Call → Prop
  | .eocAsserted => True
  | .pollDue => True
  | _ => False

namespace History

variable {history : History} {call : Call}

theorem Sound.idles (hsound : history.Sound)
    (hidles : history.driver.Idles (history.driver.call history.queue call).1)
    (hfails : history.Fails call = false) (hstarts : history.Starts call = false) :
    (history.next call).Sound ∧
      (history.Publishes call → history.outstanding = true) :=
  ⟨hsound.quiet hidles.ready hfails hstarts hidles.sequence
      fun h => hsound.reading (hidles.reading h),
    fun hpublishes => absurd hidles.ready hpublishes⟩

theorem Sound.prepareStart (hsound : history.Sound) (correlationId : UInt32) :
    (history.next (.prepareStart correlationId)).Sound ∧
      (history.Publishes (.prepareStart correlationId) →
        history.outstanding = true) := by
  by_cases hrefused : history.driver.state ≠ .starting ∨ correlationId = 0
  · have hsame : history.driver.prepareStart correlationId = (false, history.driver) :=
      if_pos hrefused
    refine hsound.idles ?_ rfl (congrArg Prod.fst hsame)
    change history.driver.Idles (history.driver.prepareStart correlationId).2
    rw [hsame]
    exact ⟨rfl, rfl, id⟩
  · have hstarted : history.driver.prepareStart correlationId =
        (true,
          { history.driver with
            activeCorrelationId := correlationId
            activeTransactionId := 0
            sampleSequence := history.driver.sampleSequence + 1
            commandBuffer := zssc3241CmdFullMeasure }) :=
      if_neg hrefused
    have hready : (history.driver.prepareStart correlationId).2.rawReadyCount =
        history.driver.rawReadyCount := by rw [hstarted]
    have hsequence : (history.driver.prepareStart correlationId).2.sampleSequence =
        history.driver.sampleSequence + 1 := by rw [hstarted]
    exact ⟨hsound.started hready rfl (congrArg Prod.fst hstarted) hsequence,
      fun hpublishes => absurd hready hpublishes⟩

theorem Sound.i2cCompletion (hsound : history.Sound) (correlationId : UInt32)
    (success : Bool) (response : Option (List UInt8)) (nowUs : UInt64) :
    let call := Call.i2cCompletion correlationId success response nowUs
    (history.next call).Sound ∧
      (history.Publishes call → history.outstanding = true) := by
  intro call
  obtain ⟨hsequence, hcompletion⟩ := history.driver.onI2cCompletion_completion
    correlationId success response nowUs history.queue
  cases hcompletion with
  | quiet hready hreading =>
      have hpublishes : history.Publishes call → history.outstanding = true :=
        fun hpublishes => absurd hready hpublishes
      by_cases hfails : history.Fails call = true
      · have hrecovery := (Bool.and_eq_true_iff.mp hfails).2
        rw [decide_eq_true_eq] at hrecovery
        refine ⟨hsound.failed hready hfails rfl hsequence ?_, hpublishes⟩
        simp [Reading, Zssc3241Driver.call, call, hrecovery]
      · exact ⟨hsound.quiet hready (by simpa using hfails) rfl hsequence
          fun h => hsound.reading (hreading h), hpublishes⟩
  | failed hactive hready hrecovery =>
      refine ⟨hsound.failed hready ?_ rfl hsequence ?_,
        fun hpublishes => absurd hready hpublishes⟩
      · simp [Fails, call, hactive, ← hrecovery]
      · simp [Reading, Zssc3241Driver.call, call, hrecovery]
  | published hreads hstate hready hnumber =>
      refine ⟨hsound.published_next hready rfl hreads hsequence hnumber ?_,
        fun _ => hsound.reading hreads⟩
      simp [Reading, Zssc3241Driver.call, call, hstate]

/-- One call, where the device is only heard in an outstanding attempt. -/
theorem Sound.next (hsound : history.Sound)
    (hcall : call.Reads → history.outstanding = true) :
    (history.next call).Sound ∧
      (history.Publishes call → history.outstanding = true) := by
  cases call with
  | sampleDue nowUs => exact hsound.idles (onSampleDue_idles _ nowUs) rfl rfl
  | prepareStart correlationId => exact hsound.prepareStart correlationId
  | eocAsserted =>
      exact ⟨hsound.quiet rfl rfl rfl rfl fun _ => hcall trivial,
        fun hpublishes => absurd rfl hpublishes⟩
  | prepareRead => exact hsound.idles (prepareRead_idles _) rfl rfl
  | pollDue =>
      exact ⟨hsound.quiet rfl rfl rfl rfl fun _ => hcall trivial,
        fun hpublishes => absurd rfl hpublishes⟩
  | i2cCompletion correlationId success response nowUs =>
      exact hsound.i2cCompletion correlationId success response nowUs
  | timeout =>
      exact ⟨hsound.failed rfl rfl rfl rfl (by simp [Reading, call, onTimeout]),
        fun hpublishes => absurd rfl hpublishes⟩
  | takeRawPressure => exact hsound.idles (takeRawPressure_idles _) rfl rfl

/-! ## Runs -/

theorem after_sound {queue : AppEventQueue} {log : List Call}
    (hcalls : EveryEntry (fun call past => call.Reads →
      (after queue past).outstanding = true) log) :
    (after queue log).Sound := by
  induction log with
  | nil => exact sound_init queue
  | cons call log ih =>
      obtain ⟨hcall, hlog⟩ := everyEntry_cons.mp hcalls
      exact ((ih hlog).next hcall).1

/-- Samples of fewer starts than there are numbers. -/
theorem Sound.nodup (hsound : history.Sound) (hstarts : history.starts < 2 ^ 64) :
    (history.published.map number).Nodup := by
  obtain ⟨numbers, hnumbers, hdescends, hbounds⟩ := hsound.numbered
  rw [hnumbers]
  apply List.Nodup.map_on
  · intro n hn m hm heq
    have hn := (hbounds n hn).1
    have hm := (hbounds m hm).1
    have hvalues := congrArg UInt64.toNat heq
    rwa [UInt64.toNat_ofNat', UInt64.toNat_ofNat', Nat.mod_eq_of_lt (by omega),
      Nat.mod_eq_of_lt (by omega)] at hvalues
  · exact hdescends.imp fun hlt => Nat.ne_of_gt hlt

/-- In a run whose EOC and poll events come in outstanding attempts, of which
there are fewer than numbers, samples carry different numbers, and each belongs
to the attempt outstanding. -/
theorem one_sample_per_start (queue : AppEventQueue) (log : List Call)
    (hcalls : EveryEntry (fun call past => call.Reads →
      (after queue past).outstanding = true) log)
    (hstarts : (after queue log).starts < 2 ^ 64) :
    ((after queue log).published.map number).Nodup ∧
      EveryEntry (fun call past => (after queue past).Publishes call →
        (after queue past).outstanding = true) log := by
  refine ⟨(after_sound hcalls).nodup hstarts, ?_⟩
  intro call past hsuffix
  have hpast := hcalls.suffix ((List.suffix_cons call past).trans hsuffix)
  exact ((after_sound hpast).next (hcalls call past hsuffix)).2

/-- A measurement from its due time to its sample. -/
def measured : List Call :=
  [.i2cCompletion 7 true (some [0x40, 0x12, 0x34, 0x56, 0, 0, 0]) 230, .prepareRead,
    .eocAsserted, .i2cCompletion 7 true none 120, .prepareStart 7, .sampleDue 100]

theorem one_sample_per_start_measured :
    ((after (.init none) measured).published.map number).Nodup ∧
      EveryEntry (fun call past => (after (.init none) past).Publishes call →
        (after (.init none) past).outstanding = true) measured := by
  apply one_sample_per_start
  · unfold measured
    simp only [everyEntry_cons, everyEntry_nil, Call.Reads]
    decide
  · decide

/-- A second EOC publishes the sample again, with the same number. -/
theorem second_eoc_repeats :
    ¬ ∀ queue log, ((after queue log).published.map number).Nodup ∧
      EveryEntry (fun call past => (after queue past).Publishes call →
        (after queue past).outstanding = true) log := by
  intro hclaim
  have hnodup := (hclaim (.init none)
    (.i2cCompletion 7 true (some [0x40, 0x12, 0x34, 0x56, 0, 0, 0]) 330 ::
      .prepareRead :: .eocAsserted :: measured)).1
  exact absurd hnodup (by decide)

end History
end Zssc3241Driver
end Swfpm
