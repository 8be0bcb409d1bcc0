import Swfpm.AutoCal.Batch
import Swfpm.AutoCal.Finalists
import Swfpm.AutoCal.Step
import Swfpm.Support.Descent

/-!
# A calibration comes to an end

Fallbacks, stages, retries, candidates, samples, configuration, driver errors,
owed resets and busy polls: one of these budgets shrinks at every step, and all
those before it in the list stay as they are.
-/

namespace Swfpm.AutoCal

/-! ## What an accepted configuration provides -/

theorem configValid_batches {config : Max35103AutoCalConfig} {capacity : UInt16}
    (hvalid : configValid config capacity = true)
    (state : Max35103AutoCalState) :
    0 < (stageTarget config state).toNat ∧
      (stageTarget config state).toNat ≤ capacity.toNat := by
  simp only [configValid] at hvalid
  split at hvalid
  · exact absurd hvalid (by decide)
  next hall =>
  have hpositive : ∀ {count : UInt16}, ¬ count = 0 → 0 < count.toNat :=
    fun {count} hne ↦ Nat.pos_of_ne_zero fun hzero ↦
      hne (UInt16.toNat_inj.mp hzero)
  have hfits : ∀ {count : UInt16}, ¬ count > capacity →
      count.toNat ≤ capacity.toNat :=
    fun hle ↦ UInt16.le_iff_toNat_le.mp (UInt16.not_lt.mp hle)
  cases state <;> simp only [stageTarget] <;>
    exact ⟨hpositive fun h ↦ hall (by simp only [h, true_or, or_true]),
      hfits fun h ↦ hall (by simp only [h, true_or, or_true])⟩

theorem configValid_budgets {config : Max35103AutoCalConfig} {capacity : UInt16}
    (hvalid : configValid config capacity = true) :
    0 < config.maxConsecutiveDriverErrors.toNat ∧
      0 < config.maxBusyPolls.toNat := by
  simp only [configValid] at hvalid
  split at hvalid
  · exact absurd hvalid (by decide)
  next hall =>
  constructor
  · refine Nat.pos_of_ne_zero fun hzero ↦ hall ?_
    have heq : config.maxConsecutiveDriverErrors = 0 := UInt8.toNat_inj.mp hzero
    simp only [heq, true_or, or_true]
  · refine Nat.pos_of_ne_zero fun hzero ↦ hall ?_
    have heq : config.maxBusyPolls = 0 := UInt16.toNat_inj.mp hzero
    simp only [heq, or_true]

/-! ## Counters that do not wrap -/

theorem toNat_succ8 {count bound : UInt8} (hlt : count < bound) :
    (count + 1).toNat = count.toNat + 1 := by
  have := UInt8.lt_iff_toNat_lt.mp hlt
  have := bound.toNat_lt
  rw [UInt8.toNat_add, UInt8.toNat_one]
  omega

theorem toNat_succ16 {count bound : UInt16} (hlt : count < bound) :
    (count + 1).toNat = count.toNat + 1 := by
  have := UInt16.lt_iff_toNat_lt.mp hlt
  have := bound.toNat_lt
  rw [UInt16.toNat_add, UInt16.toNat_one]
  omega

theorem toNat_succ32 {count bound : UInt32} (hlt : count < bound) :
    (count + 1).toNat = count.toNat + 1 := by
  have := UInt32.lt_iff_toNat_lt.mp hlt
  have := bound.toNat_lt
  rw [UInt32.toNat_add, UInt32.toNat_one]
  omega

/-! ## The guards of a step -/

theorem nextAction_rest {calibrator : Max35103AutoCalibrator} :
    nextAction calibrator = .rest ↔ active calibrator.state = false := by
  simp only [nextAction]
  split_ifs <;> simp_all

/-- What holds when a step does not only recover. -/
structure Settled (calibrator : Max35103AutoCalibrator) : Prop where
  running : active calibrator.state = true
  recovered : calibrator.recoveryRequired = false
  verified : calibrator.state = .resetVerify → calibrator.resetPerformed = true

theorem nextAction_recover {calibrator : Max35103AutoCalibrator}
    (haction : nextAction calibrator = .recover) :
    active calibrator.state = true ∧ calibrator.recoveryRequired = true := by
  simp only [nextAction] at haction
  split_ifs at haction with h₁ h₂
  exact ⟨by simpa using h₁, h₂⟩

theorem nextAction_resetForVerify {calibrator : Max35103AutoCalibrator}
    (haction : nextAction calibrator = .resetForVerify) :
    active calibrator.state = true ∧ calibrator.recoveryRequired = false ∧
      calibrator.state = .resetVerify ∧ calibrator.resetPerformed = false := by
  simp only [nextAction] at haction
  split_ifs at haction with h₁ h₂ h₃
  exact ⟨by simpa using h₁, by simpa using h₂, h₃⟩

theorem nextAction_finish {calibrator : Max35103AutoCalibrator}
    (haction : nextAction calibrator = .finish) :
    Settled calibrator ∧
      calibrator.candidateCount ≤ calibrator.candidateIndex := by
  simp only [nextAction] at haction
  split_ifs at haction with h₁ h₂ h₃ h₄
  exact ⟨⟨by simpa using h₁, by simpa using h₂, by simpa using h₃⟩, h₄⟩

theorem nextAction_configure {calibrator : Max35103AutoCalibrator}
    (haction : nextAction calibrator = .configure) :
    Settled calibrator ∧
      calibrator.candidateIndex < calibrator.candidateCount ∧
      calibrator.candidateConfigured = false := by
  simp only [nextAction] at haction
  split_ifs at haction with h₁ h₂ h₃ h₄ h₅
  exact ⟨⟨by simpa using h₁, by simpa using h₂, by simpa using h₃⟩,
    UInt32.not_le.mp h₄, h₅⟩

theorem nextAction_measure {calibrator : Max35103AutoCalibrator} :
    nextAction calibrator = .measure ↔
      Settled calibrator ∧
        calibrator.candidateIndex < calibrator.candidateCount ∧
        calibrator.candidateConfigured = true := by
  simp only [nextAction]
  constructor
  · intro haction
    split_ifs at haction with h₁ h₂ h₃ h₄ h₅
    exact ⟨⟨by simpa using h₁, by simpa using h₂, by simpa using h₃⟩,
      UInt32.not_le.mp h₄, by simpa using h₅⟩
  · rintro ⟨⟨hactive, hrecovered, hverified⟩, hindex, hconfigured⟩
    rw [if_neg (by simp [hactive]), if_neg (by simp [hrecovered]),
      if_neg (by rintro ⟨hstate, hreset⟩; simp [hverified hstate] at hreset),
      if_neg (UInt32.not_le.mpr hindex), if_neg (by simp [hconfigured])]

/-! ## The invariant -/

/-- What no call of the service changes: the contract of `Init`, and the sizes
of the arrays. -/
structure Grounded (calibrator : Max35103AutoCalibrator) : Prop where
  valid : configValid calibrator.config calibrator.sampleCapacity = true
  workspace : calibrator.samples.length = calibrator.sampleCapacity.toNat
  profiles : calibrator.discoveryFinalistProfiles.length = 4
  metrics : calibrator.discoveryFinalistMetrics.length = 4
  finalists : calibrator.discoveryFinalistCount.toNat ≤ 4

/-- While a search is under way, no budget is used up and a batch that was
started has room for the next sample. -/
structure Sound (calibrator : Max35103AutoCalibrator) : Prop where
  grounded : Grounded calibrator
  errors : active calibrator.state = true →
    calibrator.consecutiveDriverErrors <
      calibrator.config.maxConsecutiveDriverErrors
  polls : active calibrator.state = true →
    calibrator.busyPollCount < calibrator.config.maxBusyPolls
  started : active calibrator.state = true →
    calibrator.candidateConfigured = true → calibrator.candidateStarted = true
  batch : active calibrator.state = true → calibrator.candidateStarted = true →
    calibrator.sampleTarget = sampleTarget calibrator ∧
      calibrator.sampleIndex < calibrator.sampleTarget

/-- The states in which a run ends. -/
def Ended (calibrator : Max35103AutoCalibrator) : Prop :=
  calibrator.state = .complete ∨ calibrator.state = .failed

theorem Grounded.congr {before after : Max35103AutoCalibrator}
    (hground : Grounded before) (hconfig : after.config = before.config)
    (hcapacity : after.sampleCapacity = before.sampleCapacity)
    (hsamples : after.samples.length = before.samples.length)
    (hprofiles : after.discoveryFinalistProfiles =
      before.discoveryFinalistProfiles)
    (hmetrics : after.discoveryFinalistMetrics = before.discoveryFinalistMetrics)
    (hcount : after.discoveryFinalistCount = before.discoveryFinalistCount) :
    Grounded after :=
  { valid := by rw [hconfig, hcapacity]; exact hground.valid
    workspace := by rw [hsamples, hcapacity]; exact hground.workspace
    profiles := by rw [hprofiles]; exact hground.profiles
    metrics := by rw [hmetrics]; exact hground.metrics
    finalists := by rw [hcount]; exact hground.finalists }

theorem Grounded.fail {calibrator : Max35103AutoCalibrator}
    (hground : Grounded calibrator) (status : Max35103AutoCalStatus) :
    Grounded (fail calibrator status) :=
  hground.congr rfl rfl rfl rfl rfl rfl

theorem sound_fail {calibrator : Max35103AutoCalibrator}
    (hground : Grounded calibrator) (status : Max35103AutoCalStatus) :
    Sound (fail calibrator status) :=
  { grounded := hground.fail status
    errors := fun hactive ↦ absurd hactive (by simp [fail, active])
    polls := fun hactive ↦ absurd hactive (by simp [fail, active])
    started := fun hactive ↦ absurd hactive (by simp [fail, active])
    batch := fun hactive ↦ absurd hactive (by simp [fail, active]) }

theorem ended_fail (calibrator : Max35103AutoCalibrator)
    (status : Max35103AutoCalStatus) : Ended (fail calibrator status) :=
  .inr rfl

theorem sound_enterState {calibrator : Max35103AutoCalibrator}
    (hground : Grounded calibrator)
    (herrors : calibrator.consecutiveDriverErrors <
      calibrator.config.maxConsecutiveDriverErrors)
    (state : Max35103AutoCalState) : Sound (enterState calibrator state) :=
  { grounded := hground.congr rfl rfl rfl rfl rfl rfl
    errors := fun _ ↦ herrors
    polls := fun _ ↦
      UInt16.lt_iff_toNat_lt.mpr (configValid_budgets hground.valid).2
    started := fun _ hconfigured ↦
      absurd hconfigured (by simp [enterState, clearStage])
    batch := fun _ hstarted ↦
      absurd hstarted (by simp [enterState, clearStage]) }

theorem sound_restartStage {calibrator : Max35103AutoCalibrator}
    (hsound : Sound calibrator) (hactive : active calibrator.state = true) :
    Sound (restartStage calibrator) := by
  have hground := hsound.grounded
  have hpolls : 0 < calibrator.config.maxBusyPolls :=
    UInt16.lt_iff_toNat_lt.mpr (configValid_budgets hground.valid).2
  by_cases hdiscovery : calibrator.state = .discovery
  · simp only [restartStage, if_pos hdiscovery]
    exact
      { grounded := ⟨hground.valid, hground.workspace, by
          simp [clearStage, clearFinalists], by
          simp [clearStage, clearFinalists], by
          simp [clearStage, clearFinalists]⟩
        errors := fun _ ↦ hsound.errors hactive
        polls := fun _ ↦ hpolls
        started := fun _ hconfigured ↦ absurd hconfigured (by simp [clearStage])
        batch := fun _ hstarted ↦ absurd hstarted (by simp [clearStage]) }
  · simp only [restartStage, if_neg hdiscovery]
    exact
      { grounded := hground.congr rfl rfl rfl rfl rfl rfl
        errors := fun _ ↦ hsound.errors hactive
        polls := fun _ ↦ hpolls
        started := fun _ hconfigured ↦ absurd hconfigured (by simp [clearStage])
        batch := fun _ hstarted ↦ absurd hstarted (by simp [clearStage]) }

/-! ## The ranks -/

/-- How far a stage is from the last one. -/
def stageRank : Max35103AutoCalState → ℕ
  | .discovery => 13
  | .biasCharge => 12
  | .dlyFine => 11
  | .offsetUpCoarse => 10
  | .offsetUpFine => 9
  | .offsetDownCoarse => 8
  | .offsetDownFine => 7
  | .waveSelect => 6
  | .returnUp => 5
  | .returnDown => 4
  | .verify => 3
  | .robustness => 2
  | .resetVerify => 1
  | .idle | .complete | .failed | .cancelled => 0

/-- Fallbacks, stages, retries and candidates that are left. -/
def searchRank (calibrator : Max35103AutoCalibrator) : ℕ ×ₗ ℕ ×ₗ ℕ ×ₗ ℕ :=
  toLex
    (calibrator.config.maxProfileFallbacks.toNat -
        calibrator.profileFallbacksUsed.toNat,
      toLex
        (stageRank calibrator.state,
          toLex
            (calibrator.config.maxStageRetries.toNat -
                calibrator.stageRetryCount.toNat,
              calibrator.candidateCount.toNat -
                calibrator.candidateIndex.toNat)))

/-- The samples that a candidate still needs. -/
def samplesLeft (calibrator : Max35103AutoCalibrator) : ℕ :=
  if calibrator.candidateStarted then
    calibrator.sampleTarget.toNat - calibrator.sampleIndex.toNat
  else (sampleTarget calibrator).toNat

/-- The resets that come before anything else. -/
def resetsOwed (calibrator : Max35103AutoCalibrator) : ℕ :=
  (if calibrator.recoveryRequired then 1 else 0) +
    (if calibrator.state = .resetVerify ∧ calibrator.resetPerformed = false then
      1 else 0)

/-- Whether something comes before the next measurement. -/
def unready (calibrator : Max35103AutoCalibrator) : ℕ :=
  if nextAction calibrator = .measure then 0 else 1

/-- Samples, configuration, driver errors, resets and polls that are left. -/
def batchRank (calibrator : Max35103AutoCalibrator) :
    ℕ ×ₗ ℕ ×ₗ ℕ ×ₗ ℕ ×ₗ ℕ :=
  toLex
    (samplesLeft calibrator,
      toLex
        (unready calibrator,
          toLex
            (calibrator.config.maxConsecutiveDriverErrors.toNat -
                calibrator.consecutiveDriverErrors.toNat,
              toLex
                (resetsOwed calibrator,
                  calibrator.config.maxBusyPolls.toNat -
                    calibrator.busyPollCount.toNat))))

/-- The lexicographic rank of a search. -/
def rank (calibrator : Max35103AutoCalibrator) :
    (ℕ ×ₗ ℕ ×ₗ ℕ ×ₗ ℕ) ×ₗ ℕ ×ₗ ℕ ×ₗ ℕ ×ₗ ℕ ×ₗ ℕ :=
  toLex (searchRank calibrator, batchRank calibrator)

variable {before after : Max35103AutoCalibrator}

theorem rank_lt_of_search (hlt : searchRank after < searchRank before) :
    rank after < rank before :=
  Prod.Lex.toLex_lt_toLex.mpr (.inl hlt)

theorem rank_lt_of_batch (hsame : searchRank after = searchRank before)
    (hlt : batchRank after < batchRank before) : rank after < rank before :=
  Prod.Lex.toLex_lt_toLex.mpr (.inr ⟨hsame, hlt⟩)

/-- A step goes on with a smaller rank, or the run ends. -/
def Descends (before after : Max35103AutoCalibrator) : Prop :=
  Sound after ∧
    (Ended after ∨ active after.state = true ∧ rank after < rank before)

theorem descends_fail (hground : Grounded after)
    (status : Max35103AutoCalStatus) : Descends before (fail after status) :=
  ⟨sound_fail hground status, .inl (ended_fail after status)⟩

/-! ## Leaving a stage -/

/-- A stage entered further on, with no fallback more than before. -/
theorem searchRank_enterState_lt (state : Max35103AutoCalState)
    (hconfig : after.config = before.config)
    (hused : after.profileFallbacksUsed = before.profileFallbacksUsed)
    (hstage : stageRank state < stageRank before.state) :
    searchRank (enterState after state) < searchRank before := by
  refine Prod.Lex.toLex_lt_toLex.mpr (.inr ⟨?_, ?_⟩)
  · simp [enterState, clearStage, hconfig, hused]
  · exact Prod.Lex.toLex_lt_toLex.mpr (.inl hstage)

theorem restartStage_state (calibrator : Max35103AutoCalibrator) :
    (restartStage calibrator).state = calibrator.state := by
  by_cases hdiscovery : calibrator.state = .discovery <;>
    simp [restartStage, hdiscovery, clearStage, clearFinalists]

theorem searchRank_restartStage_lt {calibrator : Max35103AutoCalibrator}
    (hretry : retryAllowed calibrator = true) :
    searchRank (restartStage calibrator) < searchRank calibrator := by
  have hlt : calibrator.stageRetryCount < calibrator.config.maxStageRetries := by
    simpa [retryAllowed] using hretry
  have hsucc := toNat_succ8 hlt
  have hbound := UInt8.lt_iff_toNat_lt.mp hlt
  have hmax := calibrator.config.maxStageRetries.toNat_lt
  have hsmall : calibrator.stageRetryCount < 255 :=
    UInt8.lt_iff_toNat_lt.mpr (by
      have : (255 : UInt8).toNat = 255 := rfl
      omega)
  have hretries : calibrator.config.maxStageRetries.toNat -
      (calibrator.stageRetryCount + 1).toNat <
        calibrator.config.maxStageRetries.toNat -
          calibrator.stageRetryCount.toNat := by
    omega
  by_cases hdiscovery : calibrator.state = .discovery <;>
    refine Prod.Lex.toLex_lt_toLex.mpr (.inr ⟨?_, ?_⟩) <;>
    simp only [restartStage, hdiscovery, if_true, if_false, clearStage,
      clearFinalists, if_pos hsmall]
  all_goals
    exact Prod.Lex.toLex_lt_toLex.mpr (.inr ⟨rfl,
      Prod.Lex.toLex_lt_toLex.mpr (.inl hretries)⟩)

theorem profileFallback_descends {calibrator : Max35103AutoCalibrator}
    (hsound : Sound calibrator) (hactive : active calibrator.state = true)
    (hallowed : fallbackAllowed calibrator = true) :
    ∃ after, profileFallback calibrator = some after ∧
      Descends calibrator after := by
  simp only [fallbackAllowed, Bool.and_eq_true, decide_eq_true_eq] at hallowed
  obtain ⟨⟨hstate, hused⟩, hindex⟩ := hallowed
  have hground := hsound.grounded
  have hnext : (calibrator.discoveryFinalistIndex + 1).toNat =
      calibrator.discoveryFinalistIndex.toNat + 1 := by
    have := calibrator.discoveryFinalistCount.toNat_lt
    rw [UInt8.toNat_add, UInt8.toNat_one]
    omega
  have hin : (calibrator.discoveryFinalistIndex + 1).toNat <
      calibrator.discoveryFinalistProfiles.length := by
    have := hground.finalists
    have := hground.profiles
    omega
  simp only [profileFallback, List.getElem?_eq_getElem hin, Option.map_some]
  refine ⟨_, rfl, sound_enterState ?_ ?_ .biasCharge,
    .inr ⟨rfl, rank_lt_of_search (Prod.Lex.toLex_lt_toLex.mpr (.inl ?_))⟩⟩
  · exact hground.congr rfl rfl rfl rfl rfl rfl
  · exact hsound.errors hactive
  · have hsucc := toNat_succ8 hused
    have hbound := UInt8.lt_iff_toNat_lt.mp hused
    simp only [enterState, clearStage, clearPerturbations, selectFinalist]
    omega

theorem fallBackOrFail_descends {calibrator : Max35103AutoCalibrator}
    (hsound : Sound calibrator) (hactive : active calibrator.state = true) :
    ∃ after, fallBackOrFail calibrator = some after ∧
      Descends calibrator after := by
  by_cases hallowed : fallbackAllowed calibrator = true
  · rw [fallBackOrFail, if_pos hallowed]
    exact profileFallback_descends hsound hactive hallowed
  · rw [fallBackOrFail, if_neg hallowed]
    exact ⟨_, rfl, descends_fail hsound.grounded _⟩

theorem retreat_descends {calibrator : Max35103AutoCalibrator}
    (hsound : Sound calibrator) (hactive : active calibrator.state = true) :
    ∃ after, retreat calibrator = some after ∧ Descends calibrator after := by
  by_cases hretry : retryAllowed calibrator = true
  · rw [retreat, if_pos hretry]
    exact ⟨_, rfl, sound_restartStage hsound hactive,
      .inr ⟨by rw [restartStage_state]; exact hactive,
        rank_lt_of_search (searchRank_restartStage_lt hretry)⟩⟩
  · rw [retreat, if_neg hretry]
    exact fallBackOrFail_descends hsound hactive

/-! ## Stage completion -/

theorem finishOrdinaryStage_descends {calibrator : Max35103AutoCalibrator}
    (hsound : Sound calibrator) (hactive : active calibrator.state = true) :
    ∃ after, finishOrdinaryStage calibrator = some after ∧
      Descends calibrator after := by
  by_cases hbest : calibrator.stageBestValid = false
  · rw [finishOrdinaryStage, if_pos hbest]
    exact retreat_descends hsound hactive
  have hground := hsound.grounded
  obtain ⟨winner, hcommit, hwinner, hstate, hconfig, hused, herrors⟩ :
      ∃ winner, commitWinner calibrator = some winner ∧ Grounded winner ∧
        winner.state = calibrator.state ∧ winner.config = calibrator.config ∧
        winner.profileFallbacksUsed = calibrator.profileFallbacksUsed ∧
        winner.consecutiveDriverErrors = calibrator.consecutiveDriverErrors := by
    have hfirst := List.getElem?_eq_getElem
      (show 0 < calibrator.discoveryFinalistProfiles.length by
        rw [hground.profiles]
        decide)
    simp only [commitWinner, selectBest, hfirst, Option.map_some]
    split_ifs
    all_goals
      refine ⟨_, rfl, ?_, rfl, rfl, rfl, rfl⟩
      exact hground.congr rfl rfl rfl rfl rfl rfl
  simp only [finishOrdinaryStage, if_neg hbest, hcommit, Option.map_some]
  refine ⟨_, rfl, ?_⟩
  split_ifs with hnext
  · exact descends_fail hwinner _
  · have hfurther : active (nextSearchState winner.state) = true ∧
        stageRank (nextSearchState winner.state) <
          stageRank calibrator.state := by
      rw [hstate] at hnext ⊢
      revert hnext hactive
      cases calibrator.state <;> simp [nextSearchState, stageRank, active]
    refine ⟨sound_enterState hwinner ?_ _, .inr ⟨hfurther.1, rank_lt_of_search
      (searchRank_enterState_lt _ hconfig hused hfurther.2)⟩⟩
    rw [herrors, hconfig]
    exact hsound.errors hactive

theorem sound_published {calibrator : Max35103AutoCalibrator}
    (hground : Grounded calibrator) (status : Max35103Status) :
    Sound (published calibrator status) ∧ Ended (published calibrator status) := by
  simp only [published]
  split_ifs
  · refine ⟨sound_fail ?_ _, ended_fail _ _⟩
    exact hground.congr rfl rfl rfl rfl rfl rfl
  · refine ⟨⟨?_, ?_, ?_, ?_, ?_⟩, .inl rfl⟩
    · exact hground.congr rfl rfl rfl rfl rfl rfl
    all_goals exact fun hactive ↦ absurd hactive (by simp [active])

variable {κ : Type*} (backend : Max35103AutoCalBackend κ)

theorem finishStage_descends {world : AutoCalWorld κ}
    (hsound : Sound world.calibrator)
    (hactive : active world.calibrator.state = true) :
    ∃ after, finishStage backend world = some after ∧
      Descends world.calibrator after.calibrator := by
  have hground := hsound.grounded
  have herrors := hsound.errors hactive
  cases hstate : world.calibrator.state
  case idle | complete | failed | cancelled =>
    simp [hstate, active] at hactive
  case robustness =>
    simp only [finishStage, hstate]
    split_ifs
    · obtain ⟨after, hafter, hdescends⟩ :=
        fallBackOrFail_descends hsound hactive
      exact ⟨_, by rw [hafter, Option.map_some], hdescends⟩
    · refine ⟨_, rfl, sound_enterState hground herrors _,
        .inr ⟨rfl, rank_lt_of_search (searchRank_enterState_lt _ rfl rfl ?_)⟩⟩
      rw [hstate]
      decide
  case verify =>
    simp only [finishStage, hstate]
    split_ifs
    · obtain ⟨after, hafter, hdescends⟩ := retreat_descends hsound hactive
      exact ⟨_, by rw [hafter, Option.map_some], hdescends⟩
    · refine ⟨_, rfl, sound_enterState ?_ ?_ _,
        .inr ⟨rfl, rank_lt_of_search (searchRank_enterState_lt _ rfl rfl ?_)⟩⟩
      · exact hground.congr rfl rfl rfl rfl rfl rfl
      · exact herrors
      · rw [hstate]
        decide
  case resetVerify =>
    simp only [finishStage, hstate]
    split_ifs
    · obtain ⟨after, hafter, hdescends⟩ := retreat_descends hsound hactive
      exact ⟨_, by rw [hafter, Option.map_some], hdescends⟩
    · have hbest : Grounded (selectBest world.calibrator) :=
        hground.congr rfl rfl rfl rfl rfl rfl
      obtain ⟨hpublished, hended⟩ := sound_published hbest _
      exact ⟨_, rfl, hpublished, .inl hended⟩
  all_goals
    obtain ⟨after, hafter, hdescends⟩ :=
      finishOrdinaryStage_descends hsound hactive
    refine ⟨{ world with calibrator := after }, ?_, hdescends⟩
    simp only [finishStage, hstate, hafter, Option.map_some]

/-! ## Inside a batch -/

theorem unready_of_recovery {calibrator : Max35103AutoCalibrator}
    (hrecovery : calibrator.recoveryRequired = true) :
    unready calibrator = 1 := by
  rw [unready, if_neg]
  intro hmeasure
  have := (nextAction_measure.mp hmeasure).1.recovered
  simp [hrecovery] at this

theorem unready_of_unconfigured {calibrator : Max35103AutoCalibrator}
    (hconfigured : calibrator.candidateConfigured = false) :
    unready calibrator = 1 := by
  rw [unready, if_neg]
  intro hmeasure
  have := (nextAction_measure.mp hmeasure).2.2
  simp [hconfigured] at this

theorem batchRank_lt_iff :
    batchRank after < batchRank before ↔
      samplesLeft after < samplesLeft before ∨
      samplesLeft after = samplesLeft before ∧
        (unready after < unready before ∨
        unready after = unready before ∧
          (after.config.maxConsecutiveDriverErrors.toNat -
                after.consecutiveDriverErrors.toNat <
              before.config.maxConsecutiveDriverErrors.toNat -
                before.consecutiveDriverErrors.toNat ∨
          after.config.maxConsecutiveDriverErrors.toNat -
                after.consecutiveDriverErrors.toNat =
              before.config.maxConsecutiveDriverErrors.toNat -
                before.consecutiveDriverErrors.toNat ∧
            (resetsOwed after < resetsOwed before ∨
            resetsOwed after = resetsOwed before ∧
              after.config.maxBusyPolls.toNat - after.busyPollCount.toNat <
                before.config.maxBusyPolls.toNat -
                  before.busyPollCount.toNat))) := by
  simp only [batchRank, Prod.Lex.toLex_lt_toLex]

theorem countDriverError_errors {calibrator : Max35103AutoCalibrator}
    (hlt : calibrator.consecutiveDriverErrors <
      calibrator.config.maxConsecutiveDriverErrors) :
    (countDriverError calibrator).consecutiveDriverErrors.toNat =
      calibrator.consecutiveDriverErrors.toNat + 1 := by
  have hbound := UInt8.lt_iff_toNat_lt.mp hlt
  have hmax := calibrator.config.maxConsecutiveDriverErrors.toNat_lt
  have hsmall : calibrator.consecutiveDriverErrors < 255 :=
    UInt8.lt_iff_toNat_lt.mpr (by
      have : (255 : UInt8).toNat = 255 := rfl
      omega)
  rw [countDriverError, if_pos hsmall, toNat_succ8 hlt]

/-- What a driver error that does not end the run leaves. -/
theorem sound_countDriverError {calibrator : Max35103AutoCalibrator}
    (hsound : Sound calibrator)
    (hroom : driverErrorsExhausted (countDriverError calibrator) = false) :
    Sound (countDriverError calibrator) :=
  { grounded := hsound.grounded.congr rfl rfl rfl rfl rfl rfl
    errors := fun _ ↦ by
      simpa [driverErrorsExhausted, UInt8.not_le] using hroom
    polls := hsound.polls
    started := hsound.started
    batch := hsound.batch }

theorem Sound.noteStatus {calibrator : Max35103AutoCalibrator}
    (hsound : Sound calibrator) (status : Max35103Status) :
    Sound (noteStatus calibrator status) :=
  { grounded := hsound.grounded.congr rfl rfl rfl rfl rfl rfl
    errors := hsound.errors
    polls := hsound.polls
    started := hsound.started
    batch := hsound.batch }

theorem resetRefused_descends {calibrator : Max35103AutoCalibrator}
    (hsound : Sound calibrator) (hactive : active calibrator.state = true) :
    Descends calibrator (resetRefused calibrator) := by
  rw [resetRefused]
  by_cases hexhausted :
      driverErrorsExhausted (countDriverError calibrator) = true
  · rw [if_pos hexhausted]
    refine descends_fail ?_ _
    exact hsound.grounded.congr rfl rfl rfl rfl rfl rfl
  · rw [if_neg hexhausted]
    have herrors := countDriverError_errors (hsound.errors hactive)
    have hbound := UInt8.lt_iff_toNat_lt.mp (hsound.errors hactive)
    refine ⟨sound_countDriverError hsound (by simpa using hexhausted),
      .inr ⟨hactive, rank_lt_of_batch rfl (batchRank_lt_iff.mpr
        (.inr ⟨rfl, .inr ⟨rfl, .inl ?_⟩⟩))⟩⟩
    rw [herrors]
    change calibrator.config.maxConsecutiveDriverErrors.toNat - _ < _
    omega

theorem recovered_descends {calibrator : Max35103AutoCalibrator}
    (hsound : Sound calibrator)
    (haction : nextAction calibrator = .recover) (status : Max35103Status) :
    Descends calibrator (recovered calibrator status) := by
  obtain ⟨hactive, hrecovery⟩ := nextAction_recover haction
  rw [recovered]
  split_ifs
  · exact resetRefused_descends (hsound.noteStatus status) hactive
  · refine ⟨⟨hsound.grounded.congr rfl rfl rfl rfl rfl rfl, hsound.errors,
      hsound.polls, fun _ hconfigured ↦ absurd hconfigured (by simp),
      hsound.batch⟩, .inr ⟨hactive, rank_lt_of_batch rfl (batchRank_lt_iff.mpr
        (.inr ⟨rfl, .inr ⟨?_, .inr ⟨rfl, .inl ?_⟩⟩⟩))⟩⟩
    · rw [unready_of_recovery hrecovery]
      exact unready_of_unconfigured rfl
    · simp [resetsOwed, hrecovery, noteStatus]

theorem verifyReset_descends {calibrator : Max35103AutoCalibrator}
    (hsound : Sound calibrator)
    (haction : nextAction calibrator = .resetForVerify)
    (status : Max35103Status) :
    Descends calibrator (verifyReset calibrator status) := by
  obtain ⟨hactive, hrecovery, hstate, hreset⟩ :=
    nextAction_resetForVerify haction
  rw [verifyReset]
  split_ifs
  · exact resetRefused_descends (hsound.noteStatus status) hactive
  · refine ⟨⟨hsound.grounded.congr rfl rfl rfl rfl rfl rfl, hsound.errors,
      hsound.polls, fun _ hconfigured ↦ absurd hconfigured (by simp),
      hsound.batch⟩, .inr ⟨hactive, rank_lt_of_batch rfl (batchRank_lt_iff.mpr
        (.inr ⟨rfl, .inr ⟨?_, .inr ⟨rfl, .inl ?_⟩⟩⟩))⟩⟩
    · have hbefore : unready calibrator = 1 := by
        rw [unready, if_neg (by rw [haction]; decide)]
      rw [hbefore]
      exact unready_of_unconfigured rfl
    · simp [resetsOwed, hreset, hstate, noteStatus]

/-- A deferred action keeps the batch where it is. -/
theorem deferAction_descends {calibrator : Max35103AutoCalibrator}
    (hsound : Sound calibrator) (hactive : active calibrator.state = true) :
    Descends calibrator (deferAction calibrator) := by
  have hlt := hsound.polls hactive
  have hbound := UInt16.lt_iff_toNat_lt.mp hlt
  have hsmall : calibrator.busyPollCount < 0xFFFF :=
    UInt16.lt_iff_toNat_lt.mpr (by
      have : (0xFFFF : UInt16).toNat = 65535 := rfl
      have := calibrator.config.maxBusyPolls.toNat_lt
      omega)
  have hsucc := toNat_succ16 hlt
  simp only [deferAction, if_pos hsmall]
  split_ifs with hexhausted
  · refine descends_fail ?_ _
    exact hsound.grounded.congr rfl rfl rfl rfl rfl rfl
  · refine ⟨⟨hsound.grounded.congr rfl rfl rfl rfl rfl rfl, hsound.errors,
      fun _ ↦ UInt16.not_le.mp hexhausted, hsound.started, hsound.batch⟩,
      .inr ⟨hactive, rank_lt_of_batch rfl (batchRank_lt_iff.mpr
        (.inr ⟨rfl, .inr ⟨rfl, .inr ⟨rfl, .inr ⟨rfl, ?_⟩⟩⟩⟩))⟩⟩
    change calibrator.config.maxBusyPolls.toNat -
      (calibrator.busyPollCount + 1).toNat < _
    omega

/-- The next candidate of the same stage. -/
theorem searchRank_skipCandidate_lt {calibrator : Max35103AutoCalibrator}
    (hindex : calibrator.candidateIndex < calibrator.candidateCount) :
    searchRank (skipCandidate calibrator) < searchRank calibrator := by
  have hsucc := toNat_succ32 hindex
  have hlt := UInt32.lt_iff_toNat_lt.mp hindex
  refine Prod.Lex.toLex_lt_toLex.mpr (.inr ⟨rfl, ?_⟩)
  refine Prod.Lex.toLex_lt_toLex.mpr (.inr ⟨rfl, ?_⟩)
  refine Prod.Lex.toLex_lt_toLex.mpr (.inr ⟨rfl, ?_⟩)
  change calibrator.candidateCount.toNat -
    (calibrator.candidateIndex + 1).toNat < _
  omega

theorem skipCandidate_descends {calibrator : Max35103AutoCalibrator}
    (hsound : Sound calibrator) (hactive : active calibrator.state = true)
    (hindex : calibrator.candidateIndex < calibrator.candidateCount)
    (hconfigured : calibrator.candidateConfigured = false) :
    Descends calibrator (skipCandidate calibrator) :=
  ⟨⟨hsound.grounded.congr rfl rfl rfl rfl rfl rfl, hsound.errors, hsound.polls,
      fun _ h ↦ absurd h (by simp [skipCandidate, hconfigured]),
      fun _ h ↦ absurd h (by simp [skipCandidate])⟩,
    .inr ⟨hactive, rank_lt_of_search (searchRank_skipCandidate_lt hindex)⟩⟩

/-- Nothing of a rank is about the candidate's own data. -/
theorem Sound.proposeCandidate {calibrator : Max35103AutoCalibrator}
    (hsound : Sound calibrator) (profile : Max35103Profile) :
    Sound (proposeCandidate calibrator profile) :=
  { grounded := hsound.grounded.congr rfl rfl rfl rfl rfl rfl
    errors := hsound.errors
    polls := hsound.polls
    started := hsound.started
    batch := hsound.batch }

/-- Starting a batch changes neither the ranks nor what is to be done. -/
structure StartsBatch (before after : Max35103AutoCalibrator) : Prop where
  sound : Sound after
  search : searchRank after = searchRank before
  action : nextAction after = nextAction before
  config : after.config = before.config
  errors : after.consecutiveDriverErrors = before.consecutiveDriverErrors
  resets : resetsOwed after = resetsOwed before
  polls : after.busyPollCount = before.busyPollCount
  samples : samplesLeft after = samplesLeft before
  target : after.sampleTarget = sampleTarget after
  room : after.sampleIndex < after.sampleTarget
  left : after.sampleTarget.toNat - after.sampleIndex.toNat = samplesLeft after

theorem startBatch_starts {calibrator : Max35103AutoCalibrator}
    (hsound : Sound calibrator) (hactive : active calibrator.state = true)
    (hconfigured : calibrator.candidateConfigured = false) :
    StartsBatch calibrator (startBatch calibrator) := by
  by_cases hstarted : calibrator.candidateStarted = true
  · rw [startBatch, if_pos hstarted]
    obtain ⟨htarget, hroom⟩ := hsound.batch hactive hstarted
    exact
      { sound := hsound
        search := rfl
        action := rfl
        config := rfl
        errors := rfl
        resets := rfl
        polls := rfl
        samples := rfl
        target := htarget
        room := hroom
        left := by rw [samplesLeft, if_pos hstarted] }
  · rw [startBatch, if_neg hstarted]
    have hpositive := (configValid_batches hsound.grounded.valid
      calibrator.state).1
    exact
      { sound := ⟨hsound.grounded.congr rfl rfl rfl rfl rfl rfl, hsound.errors,
          hsound.polls, fun _ h ↦ absurd h (by simp [hconfigured]),
          fun _ h ↦ absurd h hstarted⟩
        search := rfl
        action := rfl
        config := rfl
        errors := rfl
        resets := rfl
        polls := rfl
        samples := by simp only [samplesLeft, if_neg hstarted]; rfl
        target := rfl
        room := UInt16.lt_iff_toNat_lt.mpr hpositive
        left := by
          simp only [samplesLeft, if_neg hstarted]
          rfl }

theorem Descends.trans_search {first : Max35103AutoCalibrator}
    (hsearch : searchRank before = searchRank first)
    (hbatch : batchRank before = batchRank first)
    (hdescends : Descends before after) : Descends first after := by
  have hrank : rank before = rank first := by
    rw [rank, rank, hsearch, hbatch]
  exact ⟨hdescends.1, by rw [← hrank]; exact hdescends.2⟩

theorem StartsBatch.batchRank_eq (hstarts : StartsBatch before after) :
    batchRank after = batchRank before := by
  rw [batchRank, batchRank, unready, unready, hstarts.action, hstarts.config,
    hstarts.errors, hstarts.resets, hstarts.polls, hstarts.samples]

/-- The answer to a configuration, once the batch is started. -/
theorem configured_descends {calibrator : Max35103AutoCalibrator}
    (hstarts : StartsBatch before calibrator)
    (haction : nextAction before = .configure) (status : Max35103Status) :
    Descends calibrator (configured calibrator status) := by
  have hsame := haction
  rw [← hstarts.action] at hsame
  obtain ⟨hsettled, hindex, hconfigured⟩ := nextAction_configure hsame
  have hactive := hsettled.running
  have hsound := hstarts.sound
  have hpolls : 0 < calibrator.config.maxBusyPolls :=
    UInt16.lt_iff_toNat_lt.mpr (configValid_budgets hsound.grounded.valid).2
  rw [configured]
  by_cases hbusy : status = .busy
  · rw [if_pos hbusy]
    exact deferAction_descends (hsound.noteStatus status) hactive
  rw [if_neg hbusy]
  have hcleared : Sound (clearPolls (noteStatus calibrator status)) :=
    { grounded := hsound.grounded.congr rfl rfl rfl rfl rfl rfl
      errors := hsound.errors
      polls := fun _ ↦ hpolls
      started := hsound.started
      batch := hsound.batch }
  by_cases hok : status ≠ .ok
  · rw [if_pos hok]
    by_cases hrejected : status = .configError ∨ status = .invalidArg
    · rw [if_pos hrejected]
      refine ⟨(skipCandidate_descends hcleared hactive hindex hconfigured).1,
        .inr ⟨hactive, rank_lt_of_search ?_⟩⟩
      exact searchRank_skipCandidate_lt hindex
    rw [if_neg hrejected]
    by_cases hexhausted : driverErrorsExhausted
        (countDriverError (clearPolls (noteStatus calibrator status))) = true
    · simp only [if_pos hexhausted]
      refine descends_fail ?_ _
      exact hsound.grounded.congr rfl rfl rfl rfl rfl rfl
    · simp only [if_neg hexhausted]
      have hcounted := sound_countDriverError hcleared (by simpa using hexhausted)
      have herrors := countDriverError_errors (hcleared.errors hactive)
      have hbound := UInt8.lt_iff_toNat_lt.mp (hsound.errors hactive)
      refine ⟨⟨hcounted.grounded.congr rfl rfl rfl rfl rfl rfl, hcounted.errors,
        hcounted.polls, hcounted.started, hcounted.batch⟩,
        .inr ⟨hactive, rank_lt_of_batch rfl (batchRank_lt_iff.mpr
          (.inr ⟨rfl, .inr ⟨?_, .inl ?_⟩⟩))⟩⟩
      · rw [unready_of_unconfigured hconfigured]
        exact unready_of_recovery rfl
      · change calibrator.config.maxConsecutiveDriverErrors.toNat -
          (countDriverError (clearPolls
            (noteStatus calibrator status))).consecutiveDriverErrors.toNat < _
        rw [herrors]
        change _ - (calibrator.consecutiveDriverErrors.toNat + 1) < _
        omega
  · rw [if_neg hok]
    have hzero : 0 < calibrator.config.maxConsecutiveDriverErrors :=
      UInt8.lt_iff_toNat_lt.mpr (configValid_budgets hsound.grounded.valid).1
    refine ⟨⟨hsound.grounded.congr rfl rfl rfl rfl rfl rfl, fun _ ↦ hzero,
      fun _ ↦ hpolls, fun _ _ ↦ rfl,
      fun _ _ ↦ ⟨hstarts.target, hstarts.room⟩⟩,
      .inr ⟨hactive, rank_lt_of_batch rfl (batchRank_lt_iff.mpr
        (.inr ⟨?_, .inl ?_⟩))⟩⟩
    · exact hstarts.left
    · rw [unready_of_unconfigured hconfigured, unready, if_pos]
      · decide
      · exact nextAction_measure.mpr ⟨⟨hactive, hsettled.recovered,
          hsettled.verified⟩, hindex, rfl⟩

theorem configureCandidate_descends {world : AutoCalWorld κ}
    (hsound : Sound world.calibrator)
    (haction : nextAction world.calibrator = .configure) :
    Descends world.calibrator
      (configureCandidate backend world).calibrator := by
  obtain ⟨hsettled, hindex, hconfigured⟩ := nextAction_configure haction
  simp only [configureCandidate]
  have hproposed := hsound.proposeCandidate
    (makeCandidate world.calibrator world.calibrator.candidateIndex).1
  split_ifs
  · exact (skipCandidate_descends hproposed hsettled.running hindex hconfigured).trans_search
      rfl rfl
  · have hstarts := startBatch_starts hproposed hsettled.running hconfigured
    exact (configured_descends hstarts haction _).trans_search hstarts.search
      hstarts.batchRank_eq

/-! ## Measuring -/

/-- What ranking a candidate leaves alone. -/
structure KeepsSearch (before after : Max35103AutoCalibrator) : Prop where
  config : after.config = before.config
  capacity : after.sampleCapacity = before.sampleCapacity
  samples : after.samples.length = before.samples.length
  state : after.state = before.state
  index : after.candidateIndex = before.candidateIndex
  count : after.candidateCount = before.candidateCount
  retries : after.stageRetryCount = before.stageRetryCount
  used : after.profileFallbacksUsed = before.profileFallbacksUsed
  errors : after.consecutiveDriverErrors = before.consecutiveDriverErrors
  polls : after.busyPollCount = before.busyPollCount

theorem KeepsSearch.trans {first middle last : Max35103AutoCalibrator}
    (hfirst : KeepsSearch first middle) (hlast : KeepsSearch middle last) :
    KeepsSearch first last :=
  { config := hlast.config.trans hfirst.config
    capacity := hlast.capacity.trans hfirst.capacity
    samples := hlast.samples.trans hfirst.samples
    state := hlast.state.trans hfirst.state
    index := hlast.index.trans hfirst.index
    count := hlast.count.trans hfirst.count
    retries := hlast.retries.trans hfirst.retries
    used := hlast.used.trans hfirst.used
    errors := hlast.errors.trans hfirst.errors
    polls := hlast.polls.trans hfirst.polls }

theorem KeepsSearch.searchRank_eq (hkeeps : KeepsSearch before after) :
    searchRank after = searchRank before := by
  rw [searchRank, searchRank, hkeeps.config, hkeeps.used, hkeeps.state,
    hkeeps.retries, hkeeps.count, hkeeps.index]

theorem keepsSearch_considerClosest (calibrator : Max35103AutoCalibrator) :
    KeepsSearch calibrator (considerClosest calibrator) := by
  rw [considerClosest]
  split_ifs <;> exact ⟨rfl, rfl, rfl, rfl, rfl, rfl, rfl, rfl, rfl, rfl⟩

theorem keepsSearch_considerBest (calibrator : Max35103AutoCalibrator) :
    KeepsSearch calibrator (considerBest calibrator) := by
  rw [considerBest]
  split_ifs <;> exact ⟨rfl, rfl, rfl, rfl, rfl, rfl, rfl, rfl, rfl, rfl⟩

theorem grounded_considerClosest {calibrator : Max35103AutoCalibrator}
    (hground : Grounded calibrator) : Grounded (considerClosest calibrator) := by
  rw [considerClosest]
  split_ifs
  · exact hground.congr rfl rfl rfl rfl rfl rfl
  · exact hground

theorem grounded_considerBest {calibrator : Max35103AutoCalibrator}
    (hground : Grounded calibrator) : Grounded (considerBest calibrator) := by
  rw [considerBest]
  split_ifs
  · exact hground.congr rfl rfl rfl rfl rfl rfl
  · exact hground

/-! ### The finalists stay inside their arrays -/

theorem findIdx?_getD_le {α : Type*} (p : α → Bool) (cells : List α) {n : ℕ}
    (hlength : cells.length ≤ n) : (cells.findIdx? p).getD n ≤ n := by
  cases hfind : cells.findIdx? p with
  | none => exact le_rfl
  | some i =>
      have := (List.findIdx?_eq_some_iff_getElem.mp hfind).1
      simp only [Option.getD_some]
      omega

theorem insertByScore_spec {calibrator : Max35103AutoCalibrator}
    (hground : Grounded calibrator) {count : ℕ} (hcount : count ≤ 4)
    (profile : Max35103Profile) (metrics : Max35103AutoCalMetrics) :
    ∃ out, insertByScore calibrator count profile metrics = some out ∧
      Grounded out ∧ KeepsSearch calibrator out := by
  have hfour : discoveryFinalists.toNat = 4 := rfl
  have hplace := findIdx?_getD_le (n := count)
    (fun held : Max35103AutoCalMetrics ↦ decide (metrics.score < held.score))
    (calibrator.discoveryFinalistMetrics.take count)
    (by rw [List.length_take]; omega)
  rw [insertByScore]
  by_cases hfull : ((calibrator.discoveryFinalistMetrics.take count).findIdx?
      fun held ↦ metrics.score < held.score).getD count ≥
        discoveryFinalists.toNat
  · exact ⟨calibrator, if_pos hfull, hground, rfl, rfl, rfl, rfl, rfl, rfl, rfl,
      rfl, rfl, rfl⟩
  rw [if_neg hfull]
  obtain ⟨size, hsize, hroom, hfour'⟩ : ∃ size,
      (if count < discoveryFinalists.toNat then count + 1 else count) = size ∧
        ((calibrator.discoveryFinalistMetrics.take count).findIdx?
          fun held ↦ metrics.score < held.score).getD count < size ∧
        size ≤ 4 := by
    refine ⟨_, rfl, ?_, ?_⟩ <;> split_ifs <;> omega
  simp only [hsize]
  obtain ⟨profiles, hprofiles, hlength, -⟩ := insertAt_spec profile
    calibrator.discoveryFinalistProfiles hroom
    (by rw [hground.profiles]; exact hfour')
  obtain ⟨finalistMetrics, hmetrics, hlength', -⟩ := insertAt_spec metrics
    calibrator.discoveryFinalistMetrics hroom
    (by rw [hground.metrics]; exact hfour')
  simp only [hprofiles, hmetrics, Option.bind_some, Option.map_some]
  refine ⟨_, rfl, ⟨hground.valid, hground.workspace, ?_, ?_, ?_⟩, rfl, rfl, rfl,
    rfl, rfl, rfl, rfl, rfl, rfl, rfl⟩
  · exact hlength.trans hground.profiles
  · exact hlength'.trans hground.metrics
  · change (UInt8.ofNat size).toNat ≤ 4
    rw [UInt8.toNat_ofNat', Nat.mod_eq_of_lt (by omega)]
    exact hfour'

theorem insertDiscoveryFinalist_spec {calibrator : Max35103AutoCalibrator}
    (hground : Grounded calibrator) (profile : Max35103Profile)
    (metrics : Max35103AutoCalMetrics) :
    ∃ out, insertDiscoveryFinalist calibrator profile metrics = some out ∧
      Grounded out ∧ KeepsSearch calibrator out := by
  have hcount := hground.finalists
  have hprofiles := hground.profiles
  have hmetrics := hground.metrics
  rw [insertDiscoveryFinalist]
  cases hfamily : (calibrator.discoveryFinalistProfiles.take
      calibrator.discoveryFinalistCount.toNat).findIdx?
        fun held ↦ profile.tof1 = held.tof1 with
  | none => exact insertByScore_spec hground hcount profile metrics
  | some i =>
      have hi := (List.findIdx?_eq_some_iff_getElem.mp hfamily).1
      rw [List.length_take] at hi
      have hin : i < calibrator.discoveryFinalistMetrics.length := by omega
      simp only [List.getElem?_eq_getElem hin, Option.bind_some]
      split_ifs
      · exact ⟨calibrator, rfl, hground, rfl, rfl, rfl, rfl, rfl, rfl, rfl, rfl,
          rfl, rfl⟩
      obtain ⟨profiles, hrun, hlength, -⟩ := moveDown_spec
        (calibrator.discoveryFinalistCount.toNat - 1 - i) i
        calibrator.discoveryFinalistProfiles (by omega)
      obtain ⟨finalistMetrics, hrun', hlength', -⟩ := moveDown_spec
        (calibrator.discoveryFinalistCount.toNat - 1 - i) i
        calibrator.discoveryFinalistMetrics (by omega)
      simp only [hrun, hrun', Option.bind_some]
      have hmoved : Grounded { calibrator with
          discoveryFinalistProfiles := profiles
          discoveryFinalistMetrics := finalistMetrics } :=
        ⟨hground.valid, hground.workspace, hlength.trans hprofiles,
          hlength'.trans hmetrics, hcount⟩
      have hfewer : calibrator.discoveryFinalistCount.toNat - 1 ≤ 4 := by omega
      obtain ⟨out, hout, hgrounded, hkeeps⟩ :=
        insertByScore_spec hmoved hfewer profile metrics
      exact ⟨out, hout, hgrounded, hkeeps.config, hkeeps.capacity,
        hkeeps.samples, hkeeps.state, hkeeps.index, hkeeps.count,
        hkeeps.retries, hkeeps.used, hkeeps.errors, hkeeps.polls⟩

theorem rankCandidate_spec {calibrator : Max35103AutoCalibrator}
    (hground : Grounded calibrator) :
    ∃ out, rankCandidate calibrator = some out ∧ Grounded out ∧
      KeepsSearch calibrator out := by
  have hself : KeepsSearch calibrator calibrator :=
    ⟨rfl, rfl, rfl, rfl, rfl, rfl, rfl, rfl, rfl, rfl⟩
  obtain ⟨inserted, hinsert, hinserted, hkept⟩ := insertDiscoveryFinalist_spec
    hground calibrator.candidateProfile calibrator.candidateMetrics
  cases hstate : calibrator.state
  all_goals simp only [rankCandidate, hstate]
  case robustness | verify | resetVerify =>
    refine ⟨_, rfl, hground.congr rfl rfl rfl rfl rfl rfl, ?_⟩
    exact ⟨rfl, rfl, rfl, hstate.symm, rfl, rfl, rfl, rfl, rfl, rfl⟩
  case discovery =>
    split_ifs
    · exact ⟨calibrator, rfl, hground, hself⟩
    · rw [hinsert, Option.map_some]
      exact ⟨_, rfl, grounded_considerBest hinserted,
        hkept.trans (keepsSearch_considerBest inserted)⟩
  all_goals
    split_ifs
    · exact ⟨calibrator, rfl, hground, hself⟩
    · exact ⟨_, rfl, grounded_considerBest hground,
        keepsSearch_considerBest calibrator⟩

theorem considerCandidate_spec {calibrator : Max35103AutoCalibrator}
    (hground : Grounded calibrator)
    (hbatch : calibrator.sampleIndex.toNat ≤ calibrator.samples.length) :
    ∃ out, considerCandidate calibrator = some out ∧ Grounded out ∧
      KeepsSearch calibrator out := by
  obtain ⟨timed, samples, hfinal, hlength, -⟩ :=
    finalizeMetrics_spec hbatch calibrator.candidateMetrics
  rw [considerCandidate, hfinal, Option.bind_some]
  generalize scoreMetrics calibrator timed = metrics
  have hscored : Grounded { calibrator with
      candidateMetrics := metrics, samples := samples } :=
    hground.congr rfl rfl hlength rfl rfl rfl
  obtain ⟨out, hout, hgrounded, hkeeps⟩ :=
    rankCandidate_spec (grounded_considerClosest hscored)
  have hfirst : KeepsSearch calibrator { calibrator with
      candidateMetrics := metrics, samples := samples } :=
    ⟨rfl, rfl, hlength, rfl, rfl, rfl, rfl, rfl, rfl, rfl⟩
  exact ⟨out, hout, hgrounded,
    hfirst.trans ((keepsSearch_considerClosest _).trans hkeeps)⟩

/-- The calibrator after an attempt was recorded and judged. -/
structure Attempted (before after : Max35103AutoCalibrator) : Prop where
  grounded : Grounded after
  search : searchRank after = searchRank before
  config : after.config = before.config
  samples : after.samples.length = before.samples.length
  state : after.state = before.state
  index : after.candidateIndex = before.candidateIndex
  count : after.candidateCount = before.candidateCount
  polls : after.busyPollCount = 0
  started : after.candidateStarted = before.candidateStarted
  target : after.sampleTarget = before.sampleTarget
  sample : after.sampleIndex = before.sampleIndex + 1

/-- The recorded attempt before it is judged. -/
def attemptOf (calibrator : Max35103AutoCalibrator)
    (measurement : Measurement) : Max35103AutoCalibrator :=
  countAttempt (recorded
    (clearPolls (noteStatus calibrator measurement.status)) measurement)

/-- What a measurement does while its slot lies in the workspace. -/
theorem measured_of_slot {calibrator : Max35103AutoCalibrator}
    (hslot : calibrator.sampleIndex.toNat < calibrator.samples.length)
    {measurement : Measurement} (hbusy : measurement.status ≠ .busy) :
    measured calibrator measurement =
      if (isFatalTransportStatus measurement.status &&
          driverErrorsExhausted (judgeAttempt (attemptOf calibrator measurement)
            measurement.status)) = true then
        some (fail (judgeAttempt (attemptOf calibrator measurement)
          measurement.status) .driverError)
      else closeBatch (judgeAttempt (attemptOf calibrator measurement)
        measurement.status) := by
  have hrecord : recordSample (clearPolls
      (noteStatus calibrator measurement.status)) measurement =
        some (recorded (clearPolls
          (noteStatus calibrator measurement.status)) measurement) :=
    if_neg (Nat.not_le.mpr hslot)
  rw [measured, if_neg hbusy, hrecord, Option.bind_some, attemptOf]

/-- The recorded attempt after it was judged. -/
def judgedAttempt (calibrator : Max35103AutoCalibrator)
    (measurement : Measurement) : Max35103AutoCalibrator :=
  judgeAttempt (attemptOf calibrator measurement) measurement.status

/-- Whether an attempt uses up the driver errors. -/
def exhausts (calibrator : Max35103AutoCalibrator)
    (measurement : Measurement) : Bool :=
  isFatalTransportStatus measurement.status &&
    driverErrorsExhausted (judgedAttempt calibrator measurement)

/-- All that a measurement can do. -/
inductive Answered (calibrator : Max35103AutoCalibrator)
    (measurement : Measurement) : Max35103AutoCalibrator → Prop where
  | deferred (hbusy : measurement.status = .busy) :
      Answered calibrator measurement
        (deferAction (noteStatus calibrator measurement.status))
  | exhausted (hbusy : measurement.status ≠ .busy)
      (hexhausts : exhausts calibrator measurement = true) :
      Answered calibrator measurement
        (fail (judgedAttempt calibrator measurement) .driverError)
  | completed {ranked : Max35103AutoCalibrator}
      (hbusy : measurement.status ≠ .busy)
      (hexhausts : exhausts calibrator measurement = false)
      (hfull : (judgedAttempt calibrator measurement).sampleIndex ≥
        (judgedAttempt calibrator measurement).sampleTarget)
      (hranked : considerCandidate (judgedAttempt calibrator measurement) =
        some ranked) :
      Answered calibrator measurement (leaveCandidate ranked)
  | taken (hbusy : measurement.status ≠ .busy)
      (hexhausts : exhausts calibrator measurement = false)
      (hroom : ¬ (judgedAttempt calibrator measurement).sampleIndex ≥
        (judgedAttempt calibrator measurement).sampleTarget) :
      Answered calibrator measurement (judgedAttempt calibrator measurement)

theorem answered_of_measured {calibrator after : Max35103AutoCalibrator}
    {measurement : Measurement}
    (hafter : measured calibrator measurement = some after) :
    Answered calibrator measurement after := by
  by_cases hbusy : measurement.status = .busy
  · rw [measured, if_pos hbusy] at hafter
    rw [← Option.some.inj hafter]
    exact .deferred hbusy
  have hslot : calibrator.sampleIndex.toNat < calibrator.samples.length := by
    by_contra hnone
    have hrefused : recordSample (clearPolls
        (noteStatus calibrator measurement.status)) measurement = none :=
      if_pos (Nat.not_lt.mp hnone)
    rw [measured, if_neg hbusy, hrefused] at hafter
    cases hafter
  rw [measured_of_slot hslot hbusy] at hafter
  change (if exhausts calibrator measurement = true then
    some (fail (judgedAttempt calibrator measurement) .driverError)
      else closeBatch (judgedAttempt calibrator measurement)) = some after at hafter
  by_cases hexhausts : exhausts calibrator measurement = true
  · rw [if_pos hexhausts] at hafter
    rw [← Option.some.inj hafter]
    exact .exhausted hbusy hexhausts
  rw [if_neg hexhausts, closeBatch] at hafter
  rw [Bool.not_eq_true] at hexhausts
  split_ifs at hafter with hfull
  · obtain ⟨ranked, hranked, rfl⟩ := Option.map_eq_some_iff.mp hafter
    exact .completed hbusy hexhausts hfull hranked
  · rw [← Option.some.inj hafter]
    exact .taken hbusy hexhausts hfull

theorem attemptOf_attempted {calibrator : Max35103AutoCalibrator}
    (hground : Grounded calibrator) (measurement : Measurement) :
    Attempted calibrator (attemptOf calibrator measurement) :=
  { grounded := hground.congr rfl rfl (List.length_set ..) rfl rfl rfl
    search := rfl
    config := rfl
    samples := List.length_set ..
    state := rfl
    index := rfl
    count := rfl
    polls := rfl
    started := rfl
    target := rfl
    sample := rfl }

theorem Attempted.judge (hattempted : Attempted before after)
    (status : Max35103Status) :
    Attempted before (judgeAttempt after status) := by
  rw [judgeAttempt]
  split_ifs
  all_goals
    exact ⟨hattempted.grounded.congr rfl rfl rfl rfl rfl rfl, hattempted.search,
      hattempted.config, hattempted.samples, hattempted.state, hattempted.index,
      hattempted.count, hattempted.polls, hattempted.started, hattempted.target,
      hattempted.sample⟩

/-- The error budget after an attempt that does not end the run. -/
theorem judgeAttempt_errors {calibrator : Max35103AutoCalibrator}
    (hground : Grounded calibrator) {s : Max35103Status}
    (hgoes : ¬ (isFatalTransportStatus s &&
      driverErrorsExhausted (judgeAttempt calibrator s)) = true) :
    (judgeAttempt calibrator s).consecutiveDriverErrors <
      calibrator.config.maxConsecutiveDriverErrors := by
  rw [judgeAttempt] at hgoes ⊢
  by_cases hfatal : isFatalTransportStatus s = true
  · simp only [hfatal, Bool.true_and] at hgoes ⊢
    simpa [driverErrorsExhausted, UInt8.not_le, countDriverError] using hgoes
  · simp only [if_neg hfatal]
    exact UInt8.lt_iff_toNat_lt.mpr (configValid_budgets hground.valid).1

theorem measured_descends {calibrator : Max35103AutoCalibrator}
    (hsound : Sound calibrator)
    (haction : nextAction calibrator = .measure) (measurement : Measurement) :
    ∃ after, measured calibrator measurement = some after ∧
      Descends calibrator after := by
  obtain ⟨hsettled, hindex, hconfigured⟩ := nextAction_measure.mp haction
  have hactive := hsettled.running
  have hground := hsound.grounded
  have hstarted := hsound.started hactive hconfigured
  obtain ⟨htarget, hroom⟩ := hsound.batch hactive hstarted
  have hslot := UInt16.lt_iff_toNat_lt.mp hroom
  have hfits : calibrator.sampleTarget.toNat ≤ calibrator.samples.length := by
    rw [htarget, hground.workspace]
    exact (configValid_batches hground.valid calibrator.state).2
  by_cases hbusy : measurement.status = .busy
  · rw [measured, if_pos hbusy]
    exact ⟨_, rfl, deferAction_descends (hsound.noteStatus _) hactive⟩
  rw [measured_of_slot (by omega) hbusy]
  have hfirst := attemptOf_attempted hground measurement
  have hattempted := hfirst.judge measurement.status
  have hjudged := judgeAttempt_errors hfirst.grounded (s := measurement.status)
  generalize judgeAttempt (attemptOf calibrator measurement)
    measurement.status = attempt at hattempted hjudged ⊢
  have hsucc : attempt.sampleIndex.toNat = calibrator.sampleIndex.toNat + 1 := by
    rw [hattempted.sample, toNat_succ16 hroom]
  have hrunning : active attempt.state = true := hattempted.state ▸ hactive
  split_ifs with hfatal
  · exact ⟨_, rfl, descends_fail hattempted.grounded _⟩
  have herrors : attempt.consecutiveDriverErrors <
      attempt.config.maxConsecutiveDriverErrors := by
    rw [hattempted.config]
    exact hjudged hfatal
  have hpolls : attempt.busyPollCount < attempt.config.maxBusyPolls := by
    rw [hattempted.polls]
    exact UInt16.lt_iff_toNat_lt.mpr
      (configValid_budgets hattempted.grounded.valid).2
  rw [closeBatch]
  by_cases hfull : attempt.sampleIndex ≥ attempt.sampleTarget
  · -- the batch is full: the candidate is ranked and left
    have hcount : attempt.sampleIndex.toNat ≤ attempt.samples.length := by
      rw [hsucc, hattempted.samples]
      omega
    obtain ⟨ranked, hranked, hgrounded, hkeeps⟩ :=
      considerCandidate_spec hattempted.grounded hcount
    rw [if_pos hfull, hranked, Option.map_some]
    refine ⟨_, rfl, ⟨hgrounded.congr rfl rfl rfl rfl rfl rfl, fun _ ↦ ?_,
      fun _ ↦ ?_, fun _ h ↦ absurd h (by simp [leaveCandidate]),
      fun _ h ↦ absurd h (by simp [leaveCandidate, skipCandidate])⟩,
      .inr ⟨?_, rank_lt_of_search ?_⟩⟩
    · change ranked.consecutiveDriverErrors <
        ranked.config.maxConsecutiveDriverErrors
      rw [hkeeps.errors, hkeeps.config]
      exact herrors
    · change ranked.busyPollCount < ranked.config.maxBusyPolls
      rw [hkeeps.polls, hkeeps.config]
      exact hpolls
    · change active ranked.state = true
      rw [hkeeps.state]
      exact hrunning
    · have hranked' : ranked.candidateIndex < ranked.candidateCount := by
        rw [hkeeps.index, hkeeps.count, hattempted.index, hattempted.count]
        exact hindex
      calc searchRank (leaveCandidate ranked)
          = searchRank (skipCandidate ranked) := rfl
        _ < searchRank ranked := searchRank_skipCandidate_lt hranked'
        _ = searchRank calibrator :=
            hkeeps.searchRank_eq.trans hattempted.search
  · -- one sample less to take
    rw [if_neg hfull]
    have hstill : attempt.candidateStarted = true :=
      hattempted.started.trans hstarted
    refine ⟨attempt, rfl, ⟨hattempted.grounded, fun _ ↦ herrors,
      fun _ ↦ hpolls, fun _ _ ↦ hstill, fun _ _ ↦ ⟨?_, UInt16.not_le.mp hfull⟩⟩,
      .inr ⟨hrunning, rank_lt_of_batch hattempted.search
        (batchRank_lt_iff.mpr (.inl ?_))⟩⟩
    · rw [hattempted.target, htarget, sampleTarget, sampleTarget,
        hattempted.config, hattempted.state]
    · rw [samplesLeft, samplesLeft, if_pos hstill, if_pos hstarted,
        hattempted.target, hsucc]
      omega

/-! ## Whole runs -/

/-- Every step of a search has a result, and either ends the run or lowers the
rank. -/
theorem step_descends {world : AutoCalWorld κ} (hsound : Sound world.calibrator)
    (hactive : active world.calibrator.state = true) :
    ∃ after, step backend world = some after ∧
      Descends world.calibrator after.calibrator := by
  rw [step]
  cases haction : nextAction world.calibrator with
  | rest =>
      rw [nextAction_rest] at haction
      simp [hactive] at haction
  | recover => exact ⟨_, rfl, recovered_descends hsound haction _⟩
  | resetForVerify => exact ⟨_, rfl, verifyReset_descends hsound haction _⟩
  | finish => exact finishStage_descends backend hsound hactive
  | configure =>
      exact ⟨_, rfl, configureCandidate_descends backend hsound haction⟩
  | measure =>
      obtain ⟨after, hafter, hdescends⟩ :=
        measured_descends hsound haction (backend.measure world.context).1
      exact ⟨_, by simp only [hafter, Option.map_some]; rfl, hdescends⟩

theorem sound_init {config : Max35103AutoCalConfig}
    {seedProfile : Max35103Profile}
    {sampleWorkspace : List Max35103AutoCalSample} {sampleCapacity : UInt16}
    {calibrator : Max35103AutoCalibrator}
    (hsize : sampleWorkspace.length = sampleCapacity.toNat)
    (hinit : init config seedProfile sampleWorkspace sampleCapacity =
      some calibrator) : Sound calibrator := by
  rw [init] at hinit
  split_ifs at hinit with hrejected
  obtain rfl := Option.some.inj hinit
  rw [not_or] at hrejected
  refine ⟨⟨by simpa using hrejected.1, hsize, by simp, by simp, by simp⟩,
    ?_, ?_, ?_, ?_⟩ <;> exact fun hactive ↦ absurd hactive (by simp [active])

theorem sound_start {calibrator : Max35103AutoCalibrator}
    (hsound : Sound calibrator) : Sound (start calibrator).2 := by
  have hground := hsound.grounded
  have hstarted : Sound { enterState (clearRun calibrator) .discovery with
      status := .running } := by
    have hclear : Grounded (clearRun calibrator) :=
      ⟨hground.valid, hground.workspace, by simp [clearRun, clearFinalists],
        by simp [clearRun, clearFinalists], by simp [clearRun, clearFinalists]⟩
    have henter := sound_enterState hclear
      (UInt8.lt_iff_toNat_lt.mpr (configValid_budgets hground.valid).1) .discovery
    exact ⟨henter.grounded.congr rfl rfl rfl rfl rfl rfl, henter.errors,
      henter.polls, henter.started, henter.batch⟩
  rw [start, if_neg (by simp [hground.valid])]
  cases calibrator.state
  case idle | complete | failed | cancelled => exact hstarted
  all_goals exact hsound

theorem sound_cancel {calibrator : Max35103AutoCalibrator}
    (hsound : Sound calibrator) : Sound (cancel calibrator) := by
  rw [cancel]
  cases calibrator.state
  case complete | failed => exact hsound
  all_goals
    refine ⟨hsound.grounded.congr rfl rfl rfl rfl rfl rfl, ?_, ?_, ?_, ?_⟩ <;>
      exact fun hactive ↦ absurd hactive (by simp [active])

theorem sound_reachable {first world : AutoCalWorld κ}
    (hfirst : Sound first.calibrator) (hreach : Reachable backend first world) :
    Sound world.calibrator := by
  induction hreach with
  | init => exact hfirst
  | start _ ih => exact sound_start ih
  | cancel _ ih => exact sound_cancel ih
  | @step world after _ hstep ih =>
      cases hactive : active world.calibrator.state with
      | true =>
          obtain ⟨next, hnext, hdescends⟩ := step_descends backend ih hactive
          obtain rfl : after = next := Option.some.inj (hstep.symm.trans hnext)
          exact hdescends.1
      | false =>
          rw [step, nextAction_rest.mpr hactive] at hstep
          obtain rfl := Option.some.inj hstep
          exact ih

/-- A sample is recorded: the step measures and the backend is not busy. -/
def Samples (world : AutoCalWorld κ) : Prop :=
  nextAction world.calibrator = .measure ∧
    (backend.measure world.context).1.status ≠ .busy

theorem active_start {calibrator : Max35103AutoCalibrator}
    (hvalid : configValid calibrator.config calibrator.sampleCapacity = true) :
    active (start calibrator).2.state = true := by
  rw [start, if_neg (by simp [hvalid])]
  cases hstate : calibrator.state
  case idle | complete | failed | cancelled => rfl
  all_goals simp [hstate, active]

theorem run_ends {world : AutoCalWorld κ} (hsound : Sound world.calibrator)
    (hactive : active world.calibrator.state = true) :
    ∃ n last, Descent.run (step backend) n world = some last ∧
      Ended last.calibrator := by
  refine Descent.reaches_end
    (fun world : AutoCalWorld κ ↦ Sound world.calibrator ∧
      (Ended world.calibrator ∨ active world.calibrator.state = true))
    (fun world ↦ Ended world.calibrator) (fun world ↦ rank world.calibrator)
    ?_ world ⟨hsound, .inr hactive⟩
  rintro state ⟨hstate, hended | hsearching⟩ hnot
  · exact absurd hended hnot
  obtain ⟨after, hafter, hsound', hend⟩ :=
    step_descends backend hstate hsearching
  exact ⟨after, hafter, ⟨hsound', hend.imp id And.left⟩, hend.imp id And.right⟩

/-- Init accepts the configuration, and whatever the backend does: `Start` leaves
a search under way, every search ends in COMPLETE or FAILED after finitely many
steps, and each sample is recorded inside its batch and inside the workspace. -/
theorem calibration_terminates {config : Max35103AutoCalConfig}
    {seedProfile : Max35103Profile}
    {sampleWorkspace : List Max35103AutoCalSample} {sampleCapacity : UInt16}
    {calibrator : Max35103AutoCalibrator} {world : AutoCalWorld κ} (context : κ)
    (hsize : sampleWorkspace.length = sampleCapacity.toNat)
    (hinit : init config seedProfile sampleWorkspace sampleCapacity =
      some calibrator)
    (hreach : Reachable backend ⟨calibrator, context⟩ world) :
    active (start world.calibrator).2.state = true ∧
      (active world.calibrator.state = true →
        ∃ n last, Descent.run (step backend) n world = some last ∧
          (last.calibrator.state = .complete ∨
            last.calibrator.state = .failed)) ∧
      (Samples backend world →
        world.calibrator.sampleIndex < world.calibrator.sampleTarget ∧
          world.calibrator.sampleTarget ≤ world.calibrator.sampleCapacity) := by
  have hsound := sound_reachable backend (sound_init hsize hinit) hreach
  refine ⟨active_start hsound.grounded.valid, run_ends backend hsound, ?_⟩
  rintro ⟨hmeasure, -⟩
  obtain ⟨hsettled, -, hconfigured⟩ := nextAction_measure.mp hmeasure
  obtain ⟨htarget, hroom⟩ := hsound.batch hsettled.running
    (hsound.started hsettled.running hconfigured)
  refine ⟨hroom, UInt16.le_iff_toNat_le.mpr ?_⟩
  rw [htarget]
  exact (configValid_batches hsound.grounded.valid _).2

/-- The seed of the blocking entry point, `MAX35103_AUTOCAL_SEED_DEFAULT`. -/
def seedDefault : Max35103Profile :=
  { profileId := 1, profileVersion := 1, eventModeCmd := 0x08, tof1 := 0x1813
    tof2 := 0x4201, tof3 := 0x0506, tof4 := 0x0708, tof5 := 0x090A
    tof6 := 0xFC0D, tof7 := 0xFC0A, eventTiming1 := 0x0100, eventTiming2 := 0
    tofMeasurementDelay := 0x0021, calibrationControl := 0x0200
    initTimeoutMs := 20, resultTimeoutMs := 20, haltTimeoutMs := 20
    referenceResistanceMilliohm := 1000000
    rtdNominalResistanceMilliohm := 100000 }

/-- A search of a 15 mm path with one launch family and batches of two. -/
def benchConfig : Max35103AutoCalConfig :=
  { acousticPathLengthUm := 15000, expectedMinTofPs := 8375000
    expectedMaxTofPs := 11714285, dplMin := 1, dplMax := 1, pulseCountMin := 24
    pulseCountMax := 24, pulseCountStep := 1, ctMask := 0x08
    tryBothPolarities := false, dlyMin := 0x0018, dlyMax := 0x0021
    dlyCoarseStep := 9, dlyFineStep := 1, initialOffsetMin := 8
    initialOffsetMax := 16, initialOffsetCoarseStep := 8
    initialOffsetFineStep := 2, returnOffsetMin := -8, returnOffsetMax := 0
    returnOffsetStep := 4, t2WaveMin := 4, t2WaveMax := 5, hitCountMin := 3
    hitCountMax := 3, samplesPerCandidate := 2, finalistSamples := 2
    verificationSamples := 2, minValidRatePerMille := 900
    minTuningPhysicalRatePerMille := 500, minPhysicalRatePerMille := 900
    minWaveValidRatePerMille := 900, minWvrGoodRatePerMille := 800
    wvrT1T2MinQ7 := 32, wvrT2IdealMinQ7 := 64, wvrRatioMaxQ7 := 192
    maxTofMadPs := 100000, maxDiffMadPs := 50000, maxPeriodErrorPs := 150000
    maxDirectionDeltaPs := 500000, maxCycleSlips := 1
    maxCycleSlipRatePerMille := 20, requiredPerturbationPasses := 2
    maxConsecutiveDriverErrors := 3, maxStageRetries := 1
    maxProfileFallbacks := 1, maxBusyPolls := 100, zeroFlowConfirmed := false }

/-- A backend whose measurements time out, each one counted. -/
def silentBackend : Max35103AutoCalBackend ℕ :=
  { configure := fun count _ ↦ (.ok, count)
    measure := fun count ↦
      ({  status := .timeout
          result := { tofDiffPs := 0, valid := false }
          wave :=
            { wvrUpT1T2Q7 := 0, wvrUpT2IdealQ7 := 0, wvrDownT1T2Q7 := 0
              wvrDownT2IdealQ7 := 0, hitUpPs := Vector.replicate 6 0
              hitDownPs := Vector.replicate 6 0, configuredHitCount := 0
              valid := false } }, count + 1)
    reset := fun count ↦ (.ok, count) }

theorem calibration_terminates_bench :
    ∃ calibrator, init benchConfig seedDefault (List.replicate 2 .zero) 2 =
        some calibrator ∧
      active (start calibrator).2.state = true ∧
      ∃ n last, Descent.run (step silentBackend) n
          ⟨(start calibrator).2, 0⟩ = some last ∧
        (last.calibrator.state = .complete ∨ last.calibrator.state = .failed) := by
  have haccepted : (init benchConfig seedDefault (List.replicate 2 .zero)
      2).isSome = true := by decide
  obtain ⟨calibrator, hinit⟩ := Option.isSome_iff_exists.mp haccepted
  have hstart := calibration_terminates silentBackend 0 rfl hinit .init
  have hrun := calibration_terminates silentBackend 0 rfl hinit (.start .init)
  exact ⟨calibrator, hinit, hstart.1, hrun.2.1 hstart.1⟩

end Swfpm.AutoCal
