import Swfpm.Leak.LeakDetection

/-!
# The verdicts of the leak detection

The state, the reason and the severity of a service move together: they show one
of four verdicts, and `Verdict.next` is the machine over these that the three
blocks of `build_result` run.
-/

namespace Swfpm

/-- What the state, the primary reason and the severity say together. -/
inductive Verdict where
  | normal
  | suspected
  | continuousFlow
  | burst
  deriving DecidableEq, Repr

namespace Verdict

def state : Verdict → LeakState
  | normal => .normal
  | suspected => .suspected
  | continuousFlow => .confirmed
  | burst => .confirmed

def primaryReason : Verdict → LeakPrimaryReason
  | normal => .none
  | suspected => .continuousFlow
  | continuousFlow => .continuousFlow
  | burst => .highFlowBurst

def severity : Verdict → LeakSeverity
  | normal => .none
  | suspected => .low
  | continuousFlow => .medium
  | burst => .high

/-- What a verdict gives way to: a burst first, and a continuous flow once it
is `overdue`.  A confirmed verdict waits until neither tracker has evidence. -/
def leaveNormal (verdict : Verdict) (continuous burst : LeakEvidencePhase) :
    Verdict :=
  match verdict with
  | normal =>
      if burst = .active then .burst
      else if continuous = .active then suspected
      else normal
  | _ => verdict

def leaveSuspected (verdict : Verdict) (continuous burst : LeakEvidencePhase)
    (overdue : Bool) : Verdict :=
  match verdict with
  | suspected =>
      if burst = .active then .burst
      else if continuous = .active then
        if overdue then continuousFlow else suspected
      else if continuous = .inactive then normal
      else suspected
  | _ => verdict

def leaveConfirmed (verdict : Verdict) (continuous burst : LeakEvidencePhase) :
    Verdict :=
  match verdict with
  | normal => normal
  | suspected => suspected
  | _ => if continuous = .inactive ∧ burst = .inactive then normal else verdict

def next (verdict : Verdict) (continuous burst : LeakEvidencePhase)
    (overdue : Bool) : Verdict :=
  ((verdict.leaveNormal continuous burst).leaveSuspected continuous burst
    overdue).leaveConfirmed continuous burst

/-- How often the state changes on the way from one verdict to the next. -/
def hops (verdict next : Verdict) : UInt64 :=
  match verdict, next with
  | normal, continuousFlow => 2
  | _, _ => if verdict = next then 0 else 1

variable {verdict : Verdict} {continuous burst : LeakEvidencePhase} {overdue : Bool}

@[simp] theorem hops_self (verdict : Verdict) : verdict.hops verdict = 0 := by
  cases verdict <;> rfl

/-- A burst takes every verdict over but a confirmed continuous flow. -/
theorem next_of_burst (continuous : LeakEvidencePhase) (overdue : Bool) :
    verdict.next continuous .active overdue =
      if verdict = continuousFlow then continuousFlow else Verdict.burst := by
  cases verdict <;> simp [next, leaveNormal, leaveSuspected, leaveConfirmed]

/-- A verdict that stays confirmed stays as it is. -/
theorem next_cases (verdict : Verdict) (continuous burst : LeakEvidencePhase)
    (overdue : Bool) :
    verdict.next continuous burst overdue = verdict ∨
      (verdict.next continuous burst overdue).state ≠ verdict.state := by
  cases verdict with
  | normal =>
      cases (normal.next continuous burst overdue) <;> simp [state]
  | suspected =>
      cases (suspected.next continuous burst overdue) <;> simp [state]
  | continuousFlow =>
      by_cases hquiet : continuous = .inactive ∧ burst = .inactive
      · simp [next, leaveNormal, leaveSuspected, leaveConfirmed, hquiet, state]
      · simp [next, leaveNormal, leaveSuspected, leaveConfirmed, hquiet]
  | burst =>
      by_cases hquiet : continuous = .inactive ∧ burst = .inactive
      · simp [next, leaveNormal, leaveSuspected, leaveConfirmed, hquiet, state]
      · simp [next, leaveNormal, leaveSuspected, leaveConfirmed, hquiet]

/-- The hops of the three blocks add up. -/
theorem hops_next (verdict : Verdict) (continuous burst : LeakEvidencePhase)
    (overdue : Bool) :
    verdict.hops (verdict.leaveNormal continuous burst) +
        (verdict.leaveNormal continuous burst).hops
          ((verdict.leaveNormal continuous burst).leaveSuspected continuous burst
            overdue) +
      ((verdict.leaveNormal continuous burst).leaveSuspected continuous burst
        overdue).hops (verdict.next continuous burst overdue) =
      verdict.hops (verdict.next continuous burst overdue) := by
  cases verdict <;> cases continuous <;> cases burst <;> cases overdue <;> rfl

theorem hops_eq_zero_iff (verdict next : Verdict) :
    verdict.hops next = 0 ↔ next = verdict := by
  cases verdict <;> cases next <;> decide

end Verdict

namespace LeakDetectionService

variable {self : LeakDetectionService} {verdict : Verdict}

structure Shows (service : LeakDetectionService) (verdict : Verdict) : Prop where
  state : service.state = verdict.state
  primaryReason : service.primaryReason = verdict.primaryReason
  severity : service.severity = verdict.severity

/-- The continuous flow has been active for the confirmation time. -/
def Overdue (self : LeakDetectionService) (nowUs : UInt64) : Prop :=
  self.continuousTracker.activeSinceUs > 0 ∧
    nowUs - self.continuousTracker.activeSinceUs ≥
      self.config.continuousConfirmDurationUs

instance (nowUs : UInt64) : Decidable (self.Overdue nowUs) :=
  inferInstanceAs (Decidable (_ ∧ _))

/-- A service that moves from one verdict to another and keeps what its later
verdicts and duplicates depend on. -/
structure Moves (before service : LeakDetectionService) (verdict next : Verdict) :
    Prop where
  shows : service.Shows next
  stateChangeSequence : service.stateChangeSequence =
    before.stateChangeSequence + verdict.hops next
  continuousTracker : service.continuousTracker = before.continuousTracker
  burstTracker : service.burstTracker = before.burstTracker
  config : service.config = before.config
  stateVersion : service.stateVersion = before.stateVersion
  lastFlowSequence : service.lastFlowSequence = before.lastFlowSequence
  runtimeGeneration : service.runtimeGeneration = before.runtimeGeneration

theorem Moves.refl (hshows : self.Shows verdict) : self.Moves self verdict verdict :=
  ⟨hshows, by simp, rfl, rfl, rfl, rfl, rfl, rfl⟩

theorem Moves.enter (verdict next : Verdict) (hhops : verdict.hops next = 1)
    (nowUs : UInt64) :
    self.Moves (self.enter next.state next.primaryReason next.severity nowUs)
      verdict next :=
  ⟨⟨rfl, rfl, rfl⟩, by simp [LeakDetectionService.enter, hhops],
    rfl, rfl, rfl, rfl, rfl, rfl⟩

theorem Moves.overdue_iff {before service : LeakDetectionService}
    {next : Verdict} (hmoves : before.Moves service verdict next) (nowUs : UInt64) :
    service.Overdue nowUs ↔ before.Overdue nowUs := by
  unfold Overdue
  rw [hmoves.continuousTracker, hmoves.config]

theorem Shows.leaveNormal (hshows : self.Shows verdict) (nowUs : UInt64) :
    self.Moves (self.leaveNormal nowUs) verdict
      (verdict.leaveNormal self.continuousTracker.phase self.burstTracker.phase) := by
  have hstate := hshows.state
  unfold LeakDetectionService.leaveNormal
  cases verdict with
  | normal =>
      rw [if_neg (by simp [hstate, Verdict.state])]
      unfold Verdict.leaveNormal
      by_cases hburst : self.burstTracker.phase = .active
      · simp only [hburst, if_true]
        exact .enter .normal .burst rfl nowUs
      · by_cases hcontinuous : self.continuousTracker.phase = .active
        · simp only [hburst, hcontinuous, if_false, if_true]
          exact .enter .normal .suspected rfl nowUs
        · simp only [hburst, hcontinuous, if_false]
          exact .refl hshows
  | _ =>
      rw [if_pos (by simp [hstate, Verdict.state])]
      exact .refl hshows

theorem Shows.leaveSuspected (hshows : self.Shows verdict) (nowUs : UInt64) :
    self.Moves (self.leaveSuspected nowUs) verdict
      (verdict.leaveSuspected self.continuousTracker.phase self.burstTracker.phase
        (decide (self.Overdue nowUs))) := by
  have hstate := hshows.state
  have hreason := hshows.primaryReason
  unfold LeakDetectionService.leaveSuspected
  cases verdict with
  | suspected =>
      rw [if_neg (by simp [hstate, Verdict.state])]
      unfold Verdict.leaveSuspected
      by_cases hburst : self.burstTracker.phase = .active
      · simp only [hburst, if_true]
        exact .enter .suspected .burst rfl nowUs
      · by_cases hcontinuous : self.continuousTracker.phase = .active
        · simp only [hburst, hcontinuous, if_false, if_true, hreason]
          by_cases hoverdue : self.Overdue nowUs
          · rw [if_pos (show _ ∧ _ from hoverdue), if_pos (decide_eq_true hoverdue)]
            exact .enter .suspected .continuousFlow rfl nowUs
          · rw [if_neg (show ¬ (_ ∧ _) from hoverdue), if_neg (by simpa using hoverdue)]
            exact .refl hshows
        · by_cases hinactive : self.continuousTracker.phase = .inactive
          · simp only [hburst, hinactive, if_false, if_true, reduceCtorEq]
            exact .enter .suspected .normal rfl nowUs
          · simp only [hburst, hcontinuous, hinactive, if_false]
            exact .refl hshows
  | _ =>
      rw [if_pos (by simp [hstate, Verdict.state])]
      exact .refl hshows

theorem Shows.leaveConfirmed (hshows : self.Shows verdict) (nowUs : UInt64) :
    self.Moves (self.leaveConfirmed nowUs) verdict
      (verdict.leaveConfirmed self.continuousTracker.phase
        self.burstTracker.phase) := by
  have hstate := hshows.state
  have hclears : ∀ confirmed : Verdict, self.Shows confirmed →
      confirmed.hops .normal = 1 → self.Moves
        (if self.continuousTracker.phase = .inactive ∧
            self.burstTracker.phase = .inactive then
          self.enter .normal .none .none nowUs
        else self) confirmed
        (if self.continuousTracker.phase = .inactive ∧
            self.burstTracker.phase = .inactive then .normal
        else confirmed) := by
    intro confirmed hconfirmed hhops
    split
    · exact .enter confirmed .normal hhops nowUs
    · exact .refl hconfirmed
  unfold LeakDetectionService.leaveConfirmed
  cases verdict with
  | normal =>
      rw [if_pos (by simp [hstate, Verdict.state])]
      exact .refl hshows
  | suspected =>
      rw [if_pos (by simp [hstate, Verdict.state])]
      exact .refl hshows
  | continuousFlow =>
      rw [if_neg (by simp [hstate, Verdict.state])]
      exact hclears .continuousFlow hshows rfl
  | burst =>
      rw [if_neg (by simp [hstate, Verdict.state])]
      exact hclears .burst hshows rfl

/-- The three blocks of transitions. -/
def settle (self : LeakDetectionService) (nowUs : UInt64) : LeakDetectionService :=
  ((self.leaveNormal nowUs).leaveSuspected nowUs).leaveConfirmed nowUs

theorem Shows.settle (hshows : self.Shows verdict) (nowUs : UInt64) :
    self.Moves (self.settle nowUs) verdict
      (verdict.next self.continuousTracker.phase self.burstTracker.phase
        (decide (self.Overdue nowUs))) := by
  have hfirst := hshows.leaveNormal nowUs
  have hsecond := hfirst.shows.leaveSuspected nowUs
  rw [hfirst.continuousTracker, hfirst.burstTracker,
    decide_eq_decide.mpr (hfirst.overdue_iff nowUs)] at hsecond
  have hthird := hsecond.shows.leaveConfirmed nowUs
  rw [hsecond.continuousTracker, hsecond.burstTracker, hfirst.continuousTracker,
    hfirst.burstTracker] at hthird
  constructor
  · exact hthird.shows
  · rw [← Verdict.hops_next, ← UInt64.add_assoc, ← UInt64.add_assoc,
      ← hfirst.stateChangeSequence, ← hsecond.stateChangeSequence]
    exact hthird.stateChangeSequence
  · rw [← hfirst.continuousTracker, ← hsecond.continuousTracker]
    exact hthird.continuousTracker
  · rw [← hfirst.burstTracker, ← hsecond.burstTracker]
    exact hthird.burstTracker
  · rw [← hfirst.config, ← hsecond.config]
    exact hthird.config
  · rw [← hfirst.stateVersion, ← hsecond.stateVersion]
    exact hthird.stateVersion
  · rw [← hfirst.lastFlowSequence, ← hsecond.lastFlowSequence]
    exact hthird.lastFlowSequence
  · rw [← hfirst.runtimeGeneration, ← hsecond.runtimeGeneration]
    exact hthird.runtimeGeneration

/-! ## A whole evaluation -/

/-- The service that `build_result` starts from. -/
def observed (self : LeakDetectionService) (input : LeakInputView) :
    LeakDetectionService :=
  let pressureSequence := input.pressureResult.metadata.sampleSequence
  let counted :=
    { self with
      diagEvals := self.diagEvals + 1
      lastFlowSequence :=
        if input.sampleSequence > 0 then input.sampleSequence
        else self.lastFlowSequence
      lastPressureSequence :=
        if pressureSequence > 0 then pressureSequence
        else self.lastPressureSequence }
  { (counted.updateTrackers input).updateFlags input with
    lastEvalUs := input.evaluationMonotonicUs }

/-- The duplicate that `LeakDetection_Evaluate` rejects. -/
def IsDuplicate (self : LeakDetectionService) (input : LeakInputView) : Prop :=
  input.sampleSequence > 0 ∧ input.sampleSequence = self.lastFlowSequence ∧
    input.sourceGeneration = self.runtimeGeneration

instance (input : LeakInputView) : Decidable (self.IsDuplicate input) :=
  inferInstanceAs (Decidable (_ ∧ _))

theorem evaluate_of_duplicate {input : LeakInputView}
    (hduplicate : self.IsDuplicate input) :
    self.evaluate input =
      (.rejectedDuplicate,
        { self with
          diagEvals := self.diagEvals + 1
          diagDuplicates := self.diagDuplicates + 1 }) :=
  if_pos hduplicate

theorem evaluate_of_fresh {input : LeakInputView}
    (hfresh : ¬ self.IsDuplicate input) :
    self.evaluate input =
      (.resultChanged,
        let settled := (self.observed input).settle input.evaluationMonotonicUs
        { settled with
          evalStatus := settled.evaluationStatus input
          stateVersion := settled.stateVersion + 1
          diagUpdates := settled.diagUpdates + 1 }) :=
  if_neg hfresh

theorem rejected_iff (input : LeakInputView) :
    (self.evaluate input).1 = .rejectedDuplicate ↔ self.IsDuplicate input := by
  by_cases hduplicate : self.IsDuplicate input
  · simp [evaluate_of_duplicate hduplicate, hduplicate]
  · simp [evaluate_of_fresh hduplicate, hduplicate]

/-- The verdict after an evaluation that is not rejected. -/
def nextVerdict (self : LeakDetectionService) (input : LeakInputView)
    (verdict : Verdict) : Verdict :=
  verdict.next (self.observed input).continuousTracker.phase
    (self.observed input).burstTracker.phase
    (decide ((self.observed input).Overdue input.evaluationMonotonicUs))

theorem Shows.evaluate_identity {input : LeakInputView} (hshows : self.Shows verdict)
    (hfresh : ¬ self.IsDuplicate input) :
    (self.evaluate input).2.lastFlowSequence =
        (if input.sampleSequence > 0 then input.sampleSequence
        else self.lastFlowSequence) ∧
      (self.evaluate input).2.runtimeGeneration = self.runtimeGeneration := by
  have hobserved : (self.observed input).Shows verdict :=
    ⟨hshows.state, hshows.primaryReason, hshows.severity⟩
  have hmoves := hobserved.settle input.evaluationMonotonicUs
  rw [evaluate_of_fresh hfresh]
  exact ⟨hmoves.lastFlowSequence, hmoves.runtimeGeneration⟩

theorem Shows.evaluate {input : LeakInputView} (hshows : self.Shows verdict)
    (hfresh : ¬ self.IsDuplicate input) :
    (self.evaluate input).2.Shows (self.nextVerdict input verdict) ∧
      (self.evaluate input).2.stateChangeSequence =
        self.stateChangeSequence + verdict.hops (self.nextVerdict input verdict) ∧
      (self.evaluate input).2.burstTracker = (self.observed input).burstTracker ∧
      (self.evaluate input).2.stateVersion = self.stateVersion + 1 := by
  have hobserved : (self.observed input).Shows verdict :=
    ⟨hshows.state, hshows.primaryReason, hshows.severity⟩
  have hmoves := hobserved.settle input.evaluationMonotonicUs
  rw [evaluate_of_fresh hfresh]
  refine ⟨?_, hmoves.stateChangeSequence, hmoves.burstTracker, ?_⟩
  · exact ⟨hmoves.shows.state, hmoves.shows.primaryReason, hmoves.shows.severity⟩
  · exact congrArg (· + 1) hmoves.stateVersion

end LeakDetectionService
end Swfpm
