import Swfpm.Leak.Verdict

/-!
# Verdicts over whole runs

The services that `LeakDetection_Init`, `LeakDetection_Evaluate`,
`LeakDetection_ApplyConfig` and, where `resets` holds, `LeakDetection_Reset`
lead to.
-/

namespace Swfpm
namespace LeakDetectionService

inductive Reachable (resets : Prop) : LeakDetectionService → Prop where
  | init (config : LeakDetectionConfig) (nowUs : UInt64) :
      Reachable resets (init config nowUs)
  | evaluate {service : LeakDetectionService} (input : LeakInputView) :
      Reachable resets service → Reachable resets (service.evaluate input).2
  | applyConfig {service : LeakDetectionService} (config : LeakDetectionConfig)
      (nowUs : UInt64) :
      Reachable resets service → Reachable resets (service.applyConfig config nowUs).2
  | reset {service : LeakDetectionService} (newGeneration : UInt32) (nowUs : UInt64) :
      resets → Reachable resets service →
        Reachable resets (service.reset newGeneration nowUs)

variable {resets : Prop} {self : LeakDetectionService} {verdict : Verdict}

/-- The same verdict, with the same counters. -/
structure SameVerdict (before service : LeakDetectionService) : Prop where
  state : service.state = before.state
  primaryReason : service.primaryReason = before.primaryReason
  severity : service.severity = before.severity
  stateChangeSequence : service.stateChangeSequence = before.stateChangeSequence
  stateVersion : service.stateVersion = before.stateVersion

/-- A configuration touches neither the verdict nor its counters. -/
theorem applyConfig_sameVerdict (self : LeakDetectionService)
    (config : LeakDetectionConfig) (nowUs : UInt64) :
    self.SameVerdict (self.applyConfig config nowUs).2 := by
  unfold applyConfig
  split
  · exact ⟨rfl, rfl, rfl, rfl, rfl⟩
  · by_cases hstate : self.state = .confirmed
    · simp only [hstate, ne_eq, not_true_eq_false, if_false]
      exact ⟨hstate.symm, rfl, rfl, rfl, rfl⟩
    · simp only [hstate, ne_eq, not_false_eq_true, if_true]
      exact ⟨rfl, rfl, rfl, rfl, rfl⟩

theorem evaluate_of_duplicate_sameVerdict {input : LeakInputView}
    (hduplicate : self.IsDuplicate input) :
    self.SameVerdict (self.evaluate input).2 := by
  rw [evaluate_of_duplicate hduplicate]
  exact ⟨rfl, rfl, rfl, rfl, rfl⟩

theorem Shows.of_same {service : LeakDetectionService} (hshows : self.Shows verdict)
    (hsame : self.SameVerdict service) : service.Shows verdict :=
  ⟨hsame.state.trans hshows.state, hsame.primaryReason.trans hshows.primaryReason,
    hsame.severity.trans hshows.severity⟩

theorem Reachable.shows (hreach : Reachable resets self) :
    ∃ verdict, self.Shows verdict := by
  induction hreach with
  | init config nowUs => exact ⟨.normal, rfl, rfl, rfl⟩
  | @evaluate service input _ ih =>
      obtain ⟨verdict, hshows⟩ := ih
      by_cases hduplicate : service.IsDuplicate input
      · exact ⟨verdict, hshows.of_same (evaluate_of_duplicate_sameVerdict hduplicate)⟩
      · exact ⟨_, (hshows.evaluate hduplicate).1⟩
  | applyConfig config nowUs _ ih =>
      obtain ⟨verdict, hshows⟩ := ih
      exact ⟨verdict, hshows.of_same (applyConfig_sameVerdict _ config nowUs)⟩
  | reset => exact ⟨.normal, rfl, rfl, rfl⟩

/-! ## Consistent verdicts -/

/-- The four combinations of a state, a reason and a severity. -/
def Consistent (self : LeakDetectionService) : Prop :=
  (self.state, self.primaryReason, self.severity) ∈
    [(LeakState.normal, LeakPrimaryReason.none, LeakSeverity.none),
      (.suspected, .continuousFlow, .low), (.confirmed, .continuousFlow, .medium),
      (.confirmed, .highFlowBurst, .high)]

theorem Shows.consistent (hshows : self.Shows verdict) : self.Consistent := by
  unfold Consistent
  rw [hshows.state, hshows.primaryReason, hshows.severity]
  cases verdict <;> decide

theorem Shows.sequence_ne_iff {service : LeakDetectionService} {next : Verdict}
    (hshows : self.Shows verdict) (hnext : service.Shows next)
    (hsequence : service.stateChangeSequence =
      self.stateChangeSequence + verdict.hops next)
    (hmoved : next = verdict ∨ next.state ≠ verdict.state) :
    service.stateChangeSequence ≠ self.stateChangeSequence ↔
      service.state ≠ self.state := by
  rw [hsequence, hshows.state, hnext.state, ne_eq, ne_eq, UInt64.add_eq_left,
    Verdict.hops_eq_zero_iff]
  rcases hmoved with rfl | hmoved
  · simp
  · have hne : next ≠ verdict := by
      rintro rfl
      exact hmoved rfl
    simp [hne, hmoved]

/-- A sample of flow, without a sequence number where `sequence` is zero. -/
def flowSample (flowUlPerS : Int64) (sequence nowUs : UInt64) : LeakInputView :=
  { evaluationMonotonicUs := nowUs, sampleSequence := sequence
    sourceGeneration := 1, flowUsable := true, flowUlPerS, flowDirection := .forward
    pressureUsable := false, pressurePa := 0, flowResult := .cleared
    pressureResult := .cleared }

/-- Each evaluation of a sample without a number counts. -/
theorem exists_reachable_stateVersion (n : ℕ) :
    ∃ service, Reachable False service ∧
      service.stateVersion = UInt64.ofNat n + 1 := by
  induction n with
  | zero => exact ⟨_, .init .testDefaults 0, rfl⟩
  | succ n ih =>
      obtain ⟨service, hreach, hversion⟩ := ih
      obtain ⟨verdict, hshows⟩ := hreach.shows
      have hfresh : ¬ service.IsDuplicate (flowSample 0 0 0) := by
        rintro ⟨hpositive, _⟩
        exact absurd hpositive (by decide)
      refine ⟨_, hreach.evaluate (flowSample 0 0 0), ?_⟩
      rw [(hshows.evaluate hfresh).2.2.2, hversion, UInt64.ofNat_add]
      rfl

theorem Shows.continuousFlow_iff (hshows : self.Shows verdict) :
    (self.state = .confirmed ∧ self.primaryReason = .continuousFlow) ↔
      verdict = .continuousFlow := by
  rw [hshows.state, hshows.primaryReason]
  cases verdict <;> simp [Verdict.state, Verdict.primaryReason]

theorem Shows.burst_iff (hshows : self.Shows verdict) :
    (self.state = .confirmed ∧ self.primaryReason = .highFlowBurst ∧
      self.severity = .high) ↔ verdict = .burst := by
  rw [hshows.state, hshows.primaryReason, hshows.severity]
  cases verdict <;> simp [Verdict.state, Verdict.primaryReason, Verdict.severity]

/-- A continuous flow, confirmed after two and a half minutes. -/
def confirmedContinuous : LeakDetectionService :=
  let started := ((init .testDefaults 0).evaluate (flowSample 100000 1 1000000)).2
  let suspected := (started.evaluate (flowSample 100000 2 31000000)).2
  (suspected.evaluate (flowSample 100000 3 151000000)).2

theorem confirmedContinuous_reachable : Reachable True confirmedContinuous :=
  .evaluate _ (.evaluate _ (.evaluate _ (.init _ _)))

/-- What a repeated evaluation should leave as it is. -/
def SameEvidence (before service : LeakDetectionService) : Prop :=
  before.SameVerdict service ∧
    service.continuousTracker = before.continuousTracker ∧
    service.burstTracker = before.burstTracker ∧
    service.lowPressureTracker = before.lowPressureTracker ∧
    service.highPressureTracker = before.highPressureTracker ∧
    service.evidenceFlags = before.evidenceFlags

/-- A sample with a number is the last one of the service that evaluated it,
whose generation it does not change. -/
theorem Shows.evaluate_twice_duplicate_iff {input : LeakInputView}
    (hshows : self.Shows verdict) (hsequence : input.sampleSequence > 0) :
    (self.evaluate input).2.IsDuplicate input ↔
      input.sourceGeneration = self.runtimeGeneration := by
  by_cases hduplicate : self.IsDuplicate input
  · rw [evaluate_of_duplicate hduplicate]
    exact iff_of_true hduplicate hduplicate.2.2
  · obtain ⟨hlast, hgeneration⟩ := hshows.evaluate_identity hduplicate
    rw [if_pos hsequence] at hlast
    unfold IsDuplicate
    rw [hlast, hgeneration]
    simp [hsequence]

end LeakDetectionService
end Swfpm
