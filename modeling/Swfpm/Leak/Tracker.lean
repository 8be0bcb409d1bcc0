import Swfpm.Leak.LeakDetection

/-!
# The transition table of the evidence tracker

Runs of `LeakTracker_Evaluate` from `LeakTracker_Init`, as logs of calls, newest
first.  `Transition` is one call, and the lemmas after it say from where a
tracker comes that a usable evaluation finds in a given phase.
-/

namespace Swfpm
namespace LeakEvidenceTracker

/-- The arguments of a call of `LeakTracker_Evaluate`. -/
structure Call where
  entryActive : Bool
  clearActive : Bool
  sourceUsable : Bool
  nowUs : UInt64
  entryDurationUs : UInt64
  clearDurationUs : UInt64
  maxGapUs : UInt64
  deriving DecidableEq, Repr

def observe (self : LeakEvidenceTracker) (call : Call) : LeakEvidenceTracker :=
  self.evaluate call.entryActive call.clearActive call.sourceUsable call.nowUs
    call.entryDurationUs call.clearDurationUs call.maxGapUs

/-- The tracker that the calls of a log lead to. -/
def after : List Call → LeakEvidenceTracker
  | [] => init
  | call :: log => (after log).observe call

/-- The clock never goes back. -/
def Ordered (log : List Call) : Prop :=
  log.Pairwise fun later earlier => earlier.nowUs ≤ later.nowUs

/-- The phase that a usable evaluation finds, a suspension being over then. -/
def found (self : LeakEvidenceTracker) : LeakEvidencePhase :=
  if self.phase = .suspended then self.suspendedFromPhase else self.phase

variable {self next : LeakEvidenceTracker} {call : Call}

theorem found_eq_phase (hphase : self.phase ≠ .suspended) :
    self.found = self.phase :=
  if_neg hphase

@[simp] theorem resume_phase (nowUs : UInt64) :
    (self.resume nowUs).phase = self.found := by
  by_cases hphase : self.phase = .suspended <;> simp [resume, found, hphase]

@[simp] theorem resume_entryStartUs (nowUs : UInt64) :
    (self.resume nowUs).entryStartUs = self.entryStartUs := by
  by_cases hphase : self.phase = .suspended <;> simp [resume, hphase]

@[simp] theorem resume_clearStartUs (nowUs : UInt64) :
    (self.resume nowUs).clearStartUs = self.clearStartUs := by
  by_cases hphase : self.phase = .suspended <;> simp [resume, hphase]

@[simp] theorem resume_activationCount (nowUs : UInt64) :
    (self.resume nowUs).activationCount = self.activationCount := by
  by_cases hphase : self.phase = .suspended <;> simp [resume, hphase]

/-- One call, by the phase it finds and what it is told. -/
inductive Transition (self : LeakEvidenceTracker) (call : Call) :
    LeakEvidenceTracker → Prop where
  | unseen : call.sourceUsable = false →
      self.phase = .inactive ∨ self.phase = .suspended → Transition self call self
  | suspended : call.sourceUsable = false →
      self.phase ≠ .inactive → self.phase ≠ .suspended →
      Transition self call
        { self with suspendedFromPhase := self.phase, phase := .suspended }
  | forgotten : call.sourceUsable = false → self.activationCount = 0 →
      Transition self call init
  | idle : call.sourceUsable = true → self.found = .inactive →
      call.entryActive = false → Transition self call (self.resume call.nowUs)
  | started : call.sourceUsable = true → self.found = .inactive →
      call.entryActive = true →
      Transition self call
        { self.resume call.nowUs with
          entryStartUs := call.nowUs, phase := .pending }
  | collecting : call.sourceUsable = true → self.found = .pending →
      call.entryActive = true →
      Transition self call (self.resume call.nowUs)
  | activated : call.sourceUsable = true → self.found = .pending →
      call.entryActive = true →
      call.nowUs - self.entryStartUs ≥ call.entryDurationUs →
      Transition self call
        { self.resume call.nowUs with
          activeSinceUs := call.nowUs
          activationCount := (self.resume call.nowUs).activationCount + 1
          phase := .active }
  | interrupted : call.sourceUsable = true → self.found = .pending →
      call.entryActive = false → call.clearActive = true →
      Transition self call
        { self.resume call.nowUs with
          clearStartUs := call.nowUs, phase := .clearPending }
  | abandoned : call.sourceUsable = true → self.found = .pending →
      Transition self call init
  | active : call.sourceUsable = true → self.found = .active →
      call.clearActive = false →
      Transition self call (self.resume call.nowUs)
  | clearing : call.sourceUsable = true → self.found = .active →
      call.clearActive = true →
      Transition self call
        { self.resume call.nowUs with
          clearStartUs := call.nowUs, phase := .clearPending }
  | returned : call.sourceUsable = true → self.found = .clearPending →
      call.entryActive = true ∨ call.clearActive = false →
      Transition self call { self.resume call.nowUs with phase := .active }
  | waiting : call.sourceUsable = true → self.found = .clearPending →
      call.entryActive = false → call.clearActive = true →
      Transition self call (self.resume call.nowUs)
  | cleared : call.sourceUsable = true → self.found = .clearPending →
      call.entryActive = false → call.clearActive = true →
      call.nowUs - self.clearStartUs ≥ call.clearDurationUs →
      Transition self call init
  | stuck : call.sourceUsable = true → self.found = .suspended →
      Transition self call (self.resume call.nowUs)

theorem suspend_transition (husable : call.sourceUsable = false) :
    Transition self call (self.suspend call.nowUs call.maxGapUs) := by
  by_cases hinactive : self.phase = .inactive
  · rw [suspend, if_pos hinactive]
    exact .unseen husable (.inl hinactive)
  · rw [suspend, if_neg hinactive]
    by_cases hsuspended : self.phase = .suspended
    · simp only [hsuspended, ne_eq, not_true_eq_false, if_false]
      split
      · next hgap => exact .forgotten husable hgap.2.2.2
      · exact .unseen husable (.inr hsuspended)
    · simp only [hsuspended, ne_eq, not_false_eq_true, if_true]
      split
      · next hgap => exact .forgotten husable hgap.2.2.2
      · exact .suspended husable hinactive hsuspended

theorem advance_transition (husable : call.sourceUsable = true) :
    Transition self call
      ((self.resume call.nowUs).advance call.entryActive call.clearActive
        call.nowUs call.entryDurationUs call.clearDurationUs) := by
  unfold advance
  rw [resume_phase]
  cases hfound : self.found with
  | inactive =>
      cases hentry : call.entryActive with
      | false => exact .idle husable hfound hentry
      | true => exact .started husable hfound hentry
  | pending =>
      cases hentry : call.entryActive with
      | false =>
          cases hclear : call.clearActive with
          | false => exact .abandoned husable hfound
          | true => exact .interrupted husable hfound hentry hclear
      | true =>
          simp only [Bool.not_true, Bool.false_eq_true, if_false]
          split
          · next hduration =>
              rw [resume_entryStartUs] at hduration
              exact .activated husable hfound hentry hduration
          · exact .collecting husable hfound hentry
  | active =>
      cases hclear : call.clearActive with
      | false => exact .active husable hfound hclear
      | true => exact .clearing husable hfound hclear
  | clearPending =>
      cases hentry : call.entryActive with
      | true => exact .returned husable hfound (.inl hentry)
      | false =>
          cases hclear : call.clearActive with
          | false => exact .returned husable hfound (.inr hclear)
          | true =>
              simp only [Bool.false_eq_true, Bool.not_true, if_false]
              split
              · next hduration =>
                  rw [resume_clearStartUs] at hduration
                  exact .cleared husable hfound hentry hclear hduration
              · exact .waiting husable hfound hentry hclear
  | suspended => exact .stuck husable hfound

theorem observe_transition (self : LeakEvidenceTracker) (call : Call) :
    Transition self call (self.observe call) := by
  unfold observe evaluate
  cases husable : call.sourceUsable with
  | false => exact suspend_transition husable
  | true => exact advance_transition husable

/-! ## What a transition can reach -/

theorem found_init : init.found = .inactive := rfl

theorem found_resume (hfound : self.found ≠ .suspended) (nowUs : UInt64) :
    (self.resume nowUs).found = self.found := by
  have hphase : (self.resume nowUs).phase ≠ .suspended := by
    rwa [resume_phase]
  rw [found_eq_phase hphase, resume_phase]

/-- What every reachable tracker satisfies. -/
structure WellPhased (tracker : LeakEvidenceTracker) : Prop where
  resumable : tracker.found ≠ .suspended
  unconfirmed : tracker.found = .inactive ∨ tracker.found = .pending →
    tracker.activationCount = 0

theorem WellPhased.of_eq (hself : self.WellPhased) (hfound : next.found = self.found)
    (hcount : next.activationCount = self.activationCount) : next.WellPhased := by
  constructor
  · rw [hfound]
    exact hself.resumable
  · rw [hfound, hcount]
    exact hself.unconfirmed

theorem WellPhased.resume (hself : self.WellPhased) (nowUs : UInt64) :
    (self.resume nowUs).WellPhased :=
  hself.of_eq (found_resume hself.resumable nowUs) (resume_activationCount nowUs)

theorem wellPhased_init : init.WellPhased :=
  ⟨by decide, fun _ => rfl⟩

theorem Transition.wellPhased (hstep : Transition self call next)
    (hself : self.WellPhased) : next.WellPhased := by
  cases hstep with
  | unseen => exact hself
  | suspended _ _ hphase => exact hself.of_eq (found_eq_phase hphase).symm rfl
  | forgotten => exact wellPhased_init
  | abandoned => exact wellPhased_init
  | cleared => exact wellPhased_init
  | idle => exact hself.resume _
  | collecting => exact hself.resume _
  | active => exact hself.resume _
  | waiting => exact hself.resume _
  | stuck => exact hself.resume _
  | started _ hfound =>
      refine ⟨by simp [found], fun _ => ?_⟩
      simpa using hself.unconfirmed (.inl hfound)
  | activated => exact ⟨by simp [found], by simp [found]⟩
  | interrupted => exact ⟨by simp [found], by simp [found]⟩
  | clearing => exact ⟨by simp [found], by simp [found]⟩
  | returned => exact ⟨by simp [found], by simp [found]⟩

theorem after_wellPhased (log : List Call) : (after log).WellPhased := by
  induction log with
  | nil => exact wellPhased_init
  | cons call log ih => exact (observe_transition _ call).wellPhased ih

/-- A tracker is collecting from the call that started it on. -/
theorem Transition.pending_cases (hstep : Transition self call next)
    (hself : self.WellPhased) (hnext : next.found = .pending) :
    (call.sourceUsable = true ∧ call.entryActive = true ∧
        next.entryStartUs = call.nowUs) ∨
      (self.found = .pending ∧ next.entryStartUs = self.entryStartUs ∧
        (call.sourceUsable = true → call.entryActive = true)) := by
  have hresumed := found_resume hself.resumable call.nowUs
  cases hstep with
  | unseen hunusable => exact .inr ⟨hnext, rfl, by simp [hunusable]⟩
  | suspended hunusable _ hphase =>
      refine .inr ⟨?_, rfl, by simp [hunusable]⟩
      rw [found_eq_phase hphase]
      exact hnext
  | started husable _ hentry => exact .inl ⟨husable, hentry, rfl⟩
  | collecting _ hfound hentry => exact .inr ⟨hfound, by simp, fun _ => hentry⟩
  | idle _ hfound => simp [hresumed, hfound] at hnext
  | active _ hfound => simp [hresumed, hfound] at hnext
  | waiting _ hfound => simp [hresumed, hfound] at hnext
  | stuck _ hfound => exact absurd hfound hself.resumable
  | _ => simp [found, init] at hnext

/-- A tracker is clearing from the call that interrupted it on. -/
theorem Transition.clearPending_cases (hstep : Transition self call next)
    (hself : self.WellPhased) (hnext : next.found = .clearPending) :
    (next.activationCount = self.activationCount ∧ call.sourceUsable = true ∧
        call.clearActive = true ∧ next.clearStartUs = call.nowUs ∧
        (self.found = .pending ∧ call.entryActive = false ∨
          self.found = .active)) ∨
      (next.activationCount = self.activationCount ∧ self.found = .clearPending ∧
        next.clearStartUs = self.clearStartUs ∧
        (call.sourceUsable = true →
          call.clearActive = true ∧ call.entryActive = false)) := by
  have hresumed := found_resume hself.resumable call.nowUs
  cases hstep with
  | unseen hunusable => exact .inr ⟨rfl, hnext, rfl, by simp [hunusable]⟩
  | suspended hunusable _ hphase =>
      refine .inr ⟨rfl, ?_, rfl, by simp [hunusable]⟩
      rw [found_eq_phase hphase]
      exact hnext
  | interrupted husable hfound hentry hclear =>
      exact .inl ⟨by simp, husable, hclear, rfl, .inl ⟨hfound, hentry⟩⟩
  | clearing husable hfound hclear =>
      exact .inl ⟨by simp, husable, hclear, rfl, .inr hfound⟩
  | waiting _ hfound hentry hclear =>
      exact .inr ⟨by simp, hfound, by simp, fun _ => ⟨hclear, hentry⟩⟩
  | idle _ hfound => simp [hresumed, hfound] at hnext
  | collecting _ hfound => simp [hresumed, hfound] at hnext
  | active _ hfound => simp [hresumed, hfound] at hnext
  | stuck _ hfound => exact absurd hfound hself.resumable
  | _ => simp [found, init] at hnext

/-- A tracker is active from an activation on, or by a return from clearing. -/
theorem Transition.active_cases (hstep : Transition self call next)
    (hself : self.WellPhased) (hnext : next.found = .active) :
    (self.found = .pending ∧ call.sourceUsable = true ∧ call.entryActive = true ∧
        call.nowUs - self.entryStartUs ≥ call.entryDurationUs ∧
        next.activationCount = self.activationCount + 1) ∨
      (self.found = .active ∧ next.activationCount = self.activationCount ∧
        (call.sourceUsable = true → call.clearActive = false)) ∨
      (self.found = .clearPending ∧ call.sourceUsable = true ∧
        next.activationCount = self.activationCount ∧
        (call.entryActive = true ∨ call.clearActive = false)) := by
  have hresumed := found_resume hself.resumable call.nowUs
  cases hstep with
  | unseen hunusable => exact .inr (.inl ⟨hnext, rfl, by simp [hunusable]⟩)
  | suspended hunusable _ hphase =>
      refine .inr (.inl ⟨?_, rfl, by simp [hunusable]⟩)
      rw [found_eq_phase hphase]
      exact hnext
  | activated husable hfound hentry hduration =>
      exact .inl ⟨hfound, husable, hentry, hduration, by simp⟩
  | active _ hfound hclear => exact .inr (.inl ⟨hfound, by simp, fun _ => hclear⟩)
  | returned husable hfound hback =>
      exact .inr (.inr ⟨hfound, husable, by simp, hback⟩)
  | idle _ hfound => simp [hresumed, hfound] at hnext
  | collecting _ hfound => simp [hresumed, hfound] at hnext
  | waiting _ hfound => simp [hresumed, hfound] at hnext
  | stuck _ hfound => exact absurd hfound hself.resumable
  | _ => simp [found, init] at hnext

/-- A confirmation lasts until the tracker is back at `INACTIVE`. -/
theorem Transition.confirmed (hstep : Transition self call next)
    (hself : self.WellPhased) (hcount : self.activationCount ≠ 0)
    (hnext : next.phase ≠ .inactive) : next.activationCount ≠ 0 := by
  cases hstep with
  | unseen => exact hcount
  | suspended => exact hcount
  | started _ hfound => exact absurd (hself.unconfirmed (.inl hfound)) hcount
  | activated _ hfound => exact absurd (hself.unconfirmed (.inr hfound)) hcount
  | forgotten => exact absurd rfl hnext
  | abandoned => exact absurd rfl hnext
  | cleared => exact absurd rfl hnext
  | _ => simpa using hcount

theorem Transition.usable_of_active (hstep : Transition self call next)
    (hnext : next.phase = .active) : call.sourceUsable = true := by
  cases hstep with
  | unseen _ hphase =>
      rcases hphase with hphase | hphase
      · simp [hphase] at hnext
      · simp [hphase] at hnext
  | suspended => simp at hnext
  | forgotten => simp [init] at hnext
  | abandoned => simp [init] at hnext
  | cleared => simp [init] at hnext
  | _ => assumption

/-- A tracker found clearing leaves for `ACTIVE` on entry, or without clear. -/
theorem Transition.phase_of_returned (hstep : Transition self call next)
    (husable : call.sourceUsable = true) (hfound : self.found = .clearPending)
    (hback : call.entryActive = true ∨ call.clearActive = false) :
    next.phase = .active := by
  cases hstep with
  | returned => rfl
  | waiting _ _ hentry hclear => simp [hentry, hclear] at hback
  | cleared _ _ hentry hclear => simp [hentry, hclear] at hback
  | _ => simp_all

/-- Only a finished clearing takes a confirmed tracker back to `INACTIVE`. -/
theorem Transition.inactive_cases (hstep : Transition self call next)
    (hself : self.WellPhased) (hnext : next.phase = .inactive) :
    self.activationCount = 0 ∨
      (self.found = .clearPending ∧ call.sourceUsable = true ∧
        call.entryActive = false ∧ call.clearActive = true ∧
        call.nowUs - self.clearStartUs ≥ call.clearDurationUs) := by
  cases hstep with
  | unseen _ hphase =>
      left
      rcases hphase with hphase | hphase
      · exact hself.unconfirmed (.inl (by simp [found, hphase]))
      · simp [hphase] at hnext
  | forgotten _ hcount => exact .inl hcount
  | abandoned _ hfound => exact .inl (hself.unconfirmed (.inr hfound))
  | cleared husable hfound hentry hclear hduration =>
      exact .inr ⟨hfound, husable, hentry, hclear, hduration⟩
  | idle _ hfound => exact .inl (hself.unconfirmed (.inl hfound))
  | collecting _ hfound => exact .inl (hself.unconfirmed (.inr hfound))
  | active _ hfound => simp [hfound] at hnext
  | waiting _ hfound => simp [hfound] at hnext
  | stuck _ hfound => exact absurd hfound hself.resumable
  | _ => simp at hnext

end LeakEvidenceTracker
end Swfpm
