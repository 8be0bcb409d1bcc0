import Swfpm.Leak.LeakDetection

/-!
# The hysteresis of the leak thresholds

`LeakConfig_Validate` orders the flow thresholds and the two pressure entries,
but not the pressure entries and their clears.
-/

namespace Swfpm

inductive LeakTrackerId where
  | continuous
  | burst
  | lowPressure
  | highPressure
  deriving DecidableEq, Repr

namespace LeakDetectionConfig

variable {config : LeakDetectionConfig} {input : LeakInputView} {id : LeakTrackerId}

/-- The condition that a tracker is given as `entry_active`. -/
def entryActive (config : LeakDetectionConfig) (input : LeakInputView) :
    LeakTrackerId → Bool
  | .continuous =>
      (input.flowUsable && input.flowDirection = .forward) &&
        input.flowUlPerS ≥ config.continuousEntryUlPerS &&
        input.flowUlPerS < config.burstEntryUlPerS
  | .burst =>
      (input.flowUsable && input.flowDirection = .forward) &&
        input.flowUlPerS ≥ config.burstEntryUlPerS
  | .lowPressure =>
      input.pressureUsable && input.pressurePa ≤ config.lowPressureEntryPa
  | .highPressure =>
      input.pressureUsable && input.pressurePa ≥ config.highPressureEntryPa

/-- The condition that a tracker is given as `clear_active`. -/
def clearActive (config : LeakDetectionConfig) (input : LeakInputView) :
    LeakTrackerId → Bool
  | .continuous => input.flowUsable && input.flowUlPerS ≤ config.continuousClearUlPerS
  | .burst => input.flowUsable && input.flowUlPerS ≤ config.burstClearUlPerS
  | .lowPressure =>
      input.pressureUsable && input.pressurePa ≥ config.lowPressureClearPa
  | .highPressure =>
      input.pressureUsable && input.pressurePa ≤ config.highPressureClearPa

/-- These are the conditions that `LeakDetection_Evaluate` computes. -/
theorem updateTrackers_eq (self : LeakDetectionService) (input : LeakInputView) :
    let now := input.evaluationMonotonicUs
    let maxGap := self.config.maximumEvidenceGapUs
    self.updateTrackers input =
      { self with
        continuousTracker :=
          self.continuousTracker.evaluate (self.config.entryActive input .continuous)
            (self.config.clearActive input .continuous) input.flowUsable now
            self.config.continuousSuspectDurationUs
            self.config.continuousClearDurationUs maxGap
        burstTracker :=
          self.burstTracker.evaluate (self.config.entryActive input .burst)
            (self.config.clearActive input .burst) input.flowUsable now
            self.config.burstConfirmDurationUs self.config.burstClearDurationUs maxGap
        lowPressureTracker :=
          self.lowPressureTracker.evaluate (self.config.entryActive input .lowPressure)
            (self.config.clearActive input .lowPressure) input.pressureUsable now
            self.config.pressureActivationDurationUs
            self.config.pressureClearDurationUs maxGap
        highPressureTracker :=
          self.highPressureTracker.evaluate
            (self.config.entryActive input .highPressure)
            (self.config.clearActive input .highPressure) input.pressureUsable now
            self.config.pressureActivationDurationUs
            self.config.pressureClearDurationUs maxGap } :=
  rfl

/-- What the validation says about the flow thresholds. -/
structure FlowOrdered (config : LeakDetectionConfig) : Prop where
  continuous : config.continuousClearUlPerS < config.continuousEntryUlPerS
  burst : config.burstClearUlPerS < config.burstEntryUlPerS

theorem flowOrdered_of_validate (hvalid : config.validate = true) :
    config.FlowOrdered := by
  have hnone := Option.isNone_iff_eq_none.mp hvalid
  unfold refusal at hnone
  split_ifs at hnone with _ hcontinuous _ hburst
  exact ⟨Int64.not_le.mp hcontinuous, Int64.not_le.mp hburst⟩

/-- Entry and clear of one tracker never hold together. -/
def Exclusive (config : LeakDetectionConfig) (id : LeakTrackerId) : Prop :=
  ∀ input, ¬ (config.entryActive input id = true ∧ config.clearActive input id = true)

theorem FlowOrdered.exclusive_continuous (hordered : config.FlowOrdered) :
    config.Exclusive .continuous := by
  rintro input ⟨hentry, hclear⟩
  simp only [entryActive, Bool.and_eq_true, decide_eq_true_eq] at hentry
  simp only [clearActive, Bool.and_eq_true, decide_eq_true_eq] at hclear
  have hcross := Int64.le_trans hentry.1.2 hclear.2
  exact Int64.not_le.mpr hordered.continuous hcross

theorem FlowOrdered.exclusive_burst (hordered : config.FlowOrdered) :
    config.Exclusive .burst := by
  rintro input ⟨hentry, hclear⟩
  simp only [entryActive, Bool.and_eq_true, decide_eq_true_eq] at hentry
  simp only [clearActive, Bool.and_eq_true, decide_eq_true_eq] at hclear
  have hcross := Int64.le_trans hentry.2 hclear.2
  exact Int64.not_le.mpr hordered.burst hcross

/-- A view of a usable pressure. -/
def pressureView (pressurePa : Int32) : LeakInputView :=
  { evaluationMonotonicUs := 0, sampleSequence := 0, sourceGeneration := 0
    flowUsable := false, flowUlPerS := 0, flowDirection := .none
    pressureUsable := true, pressurePa, flowResult := .cleared
    pressureResult := .cleared }

theorem exclusive_lowPressure_iff :
    config.Exclusive .lowPressure ↔
      config.lowPressureEntryPa < config.lowPressureClearPa := by
  constructor
  · intro hexclusive
    by_contra hcross
    rw [Int32.not_lt] at hcross
    apply hexclusive (pressureView config.lowPressureEntryPa)
    simp [entryActive, clearActive, pressureView, hcross]
  · rintro hordered input ⟨hentry, hclear⟩
    simp only [entryActive, Bool.and_eq_true, decide_eq_true_eq] at hentry
    simp only [clearActive, Bool.and_eq_true, decide_eq_true_eq] at hclear
    exact Int32.not_le.mpr hordered (Int32.le_trans hclear.2 hentry.2)

theorem exclusive_highPressure_iff :
    config.Exclusive .highPressure ↔
      config.highPressureClearPa < config.highPressureEntryPa := by
  constructor
  · intro hexclusive
    by_contra hcross
    rw [Int32.not_lt] at hcross
    apply hexclusive (pressureView config.highPressureEntryPa)
    simp [entryActive, clearActive, pressureView, hcross]
  · rintro hordered input ⟨hentry, hclear⟩
    simp only [entryActive, Bool.and_eq_true, decide_eq_true_eq] at hentry
    simp only [clearActive, Bool.and_eq_true, decide_eq_true_eq] at hclear
    exact Int32.not_le.mpr hordered (Int32.le_trans hentry.2 hclear.2)

/-- An accepted configuration separates entry from clear for every tracker
exactly when its pressure thresholds are ordered as well. -/
theorem exclusive_iff (hvalid : config.validate = true) :
    (∀ id, config.Exclusive id) ↔
      config.lowPressureEntryPa < config.lowPressureClearPa ∧
        config.highPressureClearPa < config.highPressureEntryPa := by
  have hflow := flowOrdered_of_validate hvalid
  constructor
  · intro hexclusive
    exact ⟨exclusive_lowPressure_iff.mp (hexclusive .lowPressure),
      exclusive_highPressure_iff.mp (hexclusive .highPressure)⟩
  · rintro ⟨hlow, hhigh⟩ id
    cases id with
    | continuous => exact hflow.exclusive_continuous
    | burst => exact hflow.exclusive_burst
    | lowPressure => exact exclusive_lowPressure_iff.mpr hlow
    | highPressure => exact exclusive_highPressure_iff.mpr hhigh

theorem exclusive_iff_testDefaults :
    (∀ id, testDefaults.Exclusive id) ↔
      testDefaults.lowPressureEntryPa < testDefaults.lowPressureClearPa ∧
        testDefaults.highPressureClearPa < testDefaults.highPressureEntryPa :=
  exclusive_iff (by decide)

/-- A low pressure that clears below its entry is accepted. -/
theorem validate_accepts_overlap :
    ¬ ∀ config : LeakDetectionConfig, config.validate = true →
      ∀ input id, ¬ (config.entryActive input id = true ∧
        config.clearActive input id = true) := by
  intro hclaim
  exact hclaim { testDefaults with lowPressureClearPa := 50000 } (by decide)
    (pressureView 80000) .lowPressure (by decide)

end LeakDetectionConfig
end Swfpm
