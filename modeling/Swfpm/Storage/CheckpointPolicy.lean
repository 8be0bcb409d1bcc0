import Swfpm.Volume.Accumulator
import Swfpm.Support.Evidence

/-!
# The checkpoint policy

Embedding of `services/storage/checkpoint_policy.{h,c}`, and how far apart a run
asks for checkpoints.  A null policy or accumulator is not modelled.
-/

namespace Swfpm

open Evidence

inductive CheckpointReason where
  | none
  | volumeThreshold
  | timeThreshold
  | forced
  deriving DecidableEq, Repr

structure CheckpointPolicyConfig where
  maxUncheckpointedUl : UInt64
  maxIntervalS : UInt32
  minSpacingS : UInt32
  deriving DecidableEq, Repr

structure CheckpointPolicy where
  cfg : CheckpointPolicyConfig
  lastCheckpointMonotonicUs : UInt64
  inFlight : Bool
  deriving DecidableEq, Repr

/-- What a counter is ahead of its checkpoint, and nothing when it is behind. -/
def uncheckpointed (volume checkpointed : UInt64) : UInt64 :=
  if volume ≥ checkpointed then volume - checkpointed else 0

/-- The sum of both directions wraps. -/
def totalUncheckpointed (state : VolumeState) : UInt64 :=
  uncheckpointed state.forwardVolumeUl state.checkpointedForwardUl +
    uncheckpointed state.reverseVolumeUl state.checkpointedReverseUl

namespace CheckpointPolicy

def init (cfg : Option CheckpointPolicyConfig) : CheckpointPolicy :=
  { cfg := cfg.getD ⟨0, 0, 0⟩, lastCheckpointMonotonicUs := 0, inFlight := false }

def evaluate (self : CheckpointPolicy) (acc : VolumeAccumulator) (nowUs : UInt64) :
    CheckpointReason :=
  if self.inFlight then .none
  else if totalUncheckpointed acc.getState ≥ self.cfg.maxUncheckpointedUl then
    .volumeThreshold
  else if self.lastCheckpointMonotonicUs > 0 then
    if nowUs - self.lastCheckpointMonotonicUs ≥
        self.cfg.maxIntervalS.toUInt64 * 1000000 then
      .timeThreshold
    else .none
  else .none

def onSubmitted (self : CheckpointPolicy) : CheckpointPolicy :=
  { self with inFlight := true }

def onCompleted (self : CheckpointPolicy) (nowUs : UInt64) : CheckpointPolicy :=
  { self with inFlight := false, lastCheckpointMonotonicUs := nowUs }

/-! ## Runs -/

inductive Call where
  | evaluate (acc : VolumeAccumulator) (nowUs : UInt64)
  | submitted
  | completed (nowUs : UInt64)

/-- The reading of the clock that a call is given. -/
def Call.time : Call → Option UInt64
  | .evaluate _ nowUs | .completed nowUs => some nowUs
  | .submitted => none

def call (self : CheckpointPolicy) : Call → CheckpointPolicy
  | .evaluate _ _ => self
  | .submitted => self.onSubmitted
  | .completed nowUs => self.onCompleted nowUs

/-- The policy after a log of calls, newest first. -/
def after (cfg : Option CheckpointPolicyConfig) : List Call → CheckpointPolicy
  | [] => init cfg
  | call :: log => (after cfg log).call call

/-- The times of the calls are positive and do not go back. -/
structure Timed (log : List Call) : Prop where
  positive : ∀ nowUs ∈ log.filterMap Call.time, 0 < nowUs
  ordered : (log.filterMap Call.time).Pairwise fun later earlier => earlier ≤ later

/-- Some evaluation of the log asked for a checkpoint. -/
def asked (cfg : Option CheckpointPolicyConfig) : List Call → Bool
  | [] => false
  | .evaluate acc nowUs :: log =>
      (after cfg log).evaluate acc nowUs ≠ .none || asked cfg log
  | _ :: log => asked cfg log

/-- A commit is submitted only after an evaluation that asked for one. -/
def SubmitsAsked (cfg : Option CheckpointPolicyConfig) (log : List Call) : Prop :=
  EveryEntry (fun call past => call = .submitted → asked cfg past = true) log

/-- The last completion, if it came after the last evaluation that asked. -/
def settledUs (cfg : Option CheckpointPolicyConfig) : List Call → Option UInt64
  | [] => none
  | .evaluate acc nowUs :: log =>
      if (after cfg log).evaluate acc nowUs = .none then settledUs cfg log else none
  | .submitted :: log => settledUs cfg log
  | .completed nowUs :: log => if asked cfg log then some nowUs else none

/-- The configured spacing, in microseconds. -/
def spacingUs (cfg : Option CheckpointPolicyConfig) : ℕ :=
  (init cfg).cfg.minSpacingS.toNat * 1000000

/-- Between two evaluations that ask, with a completion in between, the second
one comes no sooner than the spacing after that completion. -/
def Spaced (cfg : Option CheckpointPolicyConfig) (log : List Call) : Prop :=
  EveryEntry (fun call past => ∀ acc nowUs, call = .evaluate acc nowUs →
    (after cfg past).evaluate acc nowUs ≠ .none →
      ∀ doneUs, settledUs cfg past = some doneUs →
        doneUs.toNat + spacingUs cfg ≤ nowUs.toNat) log

/-- An evaluation that comes too soon finds a checkpoint in flight, or neither
the volume nor the time at its threshold. -/
def CalmBetween (cfg : Option CheckpointPolicyConfig) (log : List Call) : Prop :=
  EveryEntry (fun call past => ∀ acc nowUs, call = .evaluate acc nowUs →
    ∀ doneUs, settledUs cfg past = some doneUs →
      nowUs.toNat < doneUs.toNat + spacingUs cfg →
        (after cfg past).inFlight = true ∨
          totalUncheckpointed acc.getState < (init cfg).cfg.maxUncheckpointedUl ∧
            nowUs.toNat <
              doneUs.toNat + (init cfg).cfg.maxIntervalS.toNat * 1000000) log

variable {cfg : Option CheckpointPolicyConfig} {log : List Call} {call : Call}

theorem cfg_after (log : List Call) : (after cfg log).cfg = (init cfg).cfg := by
  induction log with
  | nil => rfl
  | cons call log ih => cases call <;> exact ih

/-- A completion that has not been followed by a request is the one that the
policy remembers. -/
theorem last_of_settledUs {doneUs : UInt64} (hsettled : settledUs cfg log = some doneUs) :
    (after cfg log).lastCheckpointMonotonicUs = doneUs ∧
      doneUs ∈ log.filterMap Call.time := by
  induction log with
  | nil => cases hsettled
  | cons call log ih =>
      cases call with
      | evaluate acc nowUs =>
          rw [settledUs] at hsettled
          split_ifs at hsettled
          exact ⟨(ih hsettled).1, List.mem_cons_of_mem _ (ih hsettled).2⟩
      | submitted => exact ih hsettled
      | completed nowUs =>
          rw [settledUs] at hsettled
          split_ifs at hsettled
          cases hsettled
          exact ⟨rfl, List.mem_cons_self⟩

/-- After a completion at a positive time, only the thresholds count. -/
theorem evaluate_eq_none_iff {self : CheckpointPolicy} {acc : VolumeAccumulator}
    {nowUs : UInt64} (hpos : 0 < self.lastCheckpointMonotonicUs)
    (hle : self.lastCheckpointMonotonicUs ≤ nowUs) :
    self.evaluate acc nowUs = .none ↔
      self.inFlight = true ∨
        totalUncheckpointed acc.getState < self.cfg.maxUncheckpointedUl ∧
          nowUs.toNat < self.lastCheckpointMonotonicUs.toNat +
            self.cfg.maxIntervalS.toNat * 1000000 := by
  have hinterval : (self.cfg.maxIntervalS.toUInt64 * 1000000).toNat =
      self.cfg.maxIntervalS.toNat * 1000000 := by
    have hword := self.cfg.maxIntervalS.toNat_lt
    rw [UInt64.toNat_mul, UInt32.toNat_toUInt64,
      show (1000000 : UInt64).toNat = 1000000 by rfl, Nat.mod_eq_of_lt (by omega)]
  have helapsed := UInt64.toNat_sub_of_le _ _ hle
  rw [UInt64.le_iff_toNat_le] at hle
  have hdue : nowUs - self.lastCheckpointMonotonicUs ≥
      self.cfg.maxIntervalS.toUInt64 * 1000000 ↔
      self.lastCheckpointMonotonicUs.toNat + self.cfg.maxIntervalS.toNat * 1000000 ≤
        nowUs.toNat := by
    rw [ge_iff_le, UInt64.le_iff_toNat_le, hinterval, helapsed]
    omega
  unfold evaluate
  split_ifs with hbusy hvolume htime
  · exact iff_of_true rfl (.inl hbusy)
  · simp only [hbusy, reduceCtorEq, false_or, false_iff, not_and]
    exact fun hless => absurd hvolume (UInt64.not_le.mpr hless)
  · simp only [hbusy, reduceCtorEq, false_or, false_iff, not_and, not_lt]
    exact fun _ => hdue.mp htime
  · have hless := UInt64.not_le.mp hvolume
    have hearly := mt hdue.mpr htime
    exact iff_of_true rfl (.inr ⟨hless, not_le.mp hearly⟩)

/-- In a run whose times are positive and do not go back, the requests keep the
spacing exactly when no evaluation finds a threshold reached before. -/
theorem spaced_iff (cfg : Option CheckpointPolicyConfig) (log : List Call)
    (htimed : Timed log) : Spaced cfg log ↔ CalmBetween cfg log := by
  have hentry : ∀ acc nowUs past doneUs, .evaluate acc nowUs :: past <:+ log →
      settledUs cfg past = some doneUs →
      ((after cfg past).evaluate acc nowUs = .none ↔
        (after cfg past).inFlight = true ∨
          totalUncheckpointed acc.getState < (init cfg).cfg.maxUncheckpointedUl ∧
            nowUs.toNat <
              doneUs.toNat + (init cfg).cfg.maxIntervalS.toNat * 1000000) := by
    intro acc nowUs past doneUs hsuffix hsettled
    obtain ⟨hlast, hmem⟩ := last_of_settledUs hsettled
    have htimes := hsuffix.filterMap Call.time
    have hordered := (htimed.ordered.sublist htimes.sublist)
    have hpos := htimed.positive doneUs (htimes.subset (List.mem_cons_of_mem _ hmem))
    have hle := (List.pairwise_cons.mp hordered).1 doneUs hmem
    rw [evaluate_eq_none_iff, cfg_after, hlast]
    · rw [hlast]
      exact hpos
    · rw [hlast]
      exact hle
  constructor
  · intro hspaced call past hsuffix acc nowUs hcall doneUs hsettled hsoon
    subst hcall
    rw [← hentry acc nowUs past doneUs hsuffix hsettled]
    by_contra hasks
    have hlate := hspaced _ past hsuffix acc nowUs rfl hasks doneUs hsettled
    omega
  · intro hcalm call past hsuffix acc nowUs hcall hasks doneUs hsettled
    subst hcall
    by_contra hsoon
    have hquiet := hcalm _ past hsuffix acc nowUs rfl doneUs hsettled (not_le.mp hsoon)
    exact hasks ((hentry acc nowUs past doneUs hsuffix hsettled).mpr hquiet)

/-! ## A failing memory -/

/-- A forward flow of one litre per second, metered for two seconds. -/
def flowing : VolumeAccumulator :=
  let sample (sequence timeUs : UInt64) : FlowResult :=
    { FlowResult.cleared with
      metadata :=
        { ResultMetadata.cleared with
          sampleSequence := sequence, sampleMonotonicUs := timeUs
          purpose := .production }
      flowUlPerS := 1000000 }
  (((VolumeAccumulator.init none).consume (sample 1 8000000)).2.consume
    (sample 2 10000000)).2

/-- The default thresholds of the accumulator. -/
def defaultCfg : CheckpointPolicyConfig := ⟨100000, 3600, 60⟩

/-- A commit that is asked for, submitted and completed, failed or not. -/
def oneCommit : List Call :=
  [.completed 11000000, .submitted, .evaluate flowing 10000000]

example : totalUncheckpointed flowing.getState = 2000000 := by decide +kernel

theorem timed_of_times {times : List UInt64} (htimes : log.filterMap Call.time = times)
    (hpositive : ∀ nowUs ∈ times, 0 < nowUs)
    (hordered : times.Pairwise fun later earlier => earlier ≤ later) : Timed log := by
  subst htimes
  exact ⟨hpositive, hordered⟩

theorem spaced_iff_oneCommit :
    Spaced (some defaultCfg) oneCommit ↔ CalmBetween (some defaultCfg) oneCommit :=
  spaced_iff (some defaultCfg) oneCommit
    (@timed_of_times oneCommit [11000000, 10000000] rfl (by simp) (by simp))

/-- The commit fails, and a second later the next one is asked for. -/
theorem failed_commit_repeats_at_once :
    ¬ ∀ cfg log, Timed log → SubmitsAsked cfg log → Spaced cfg log := by
  intro hclaim
  have hasked : SubmitsAsked (some defaultCfg)
      (.evaluate flowing 12000000 :: oneCommit) := by
    unfold oneCommit
    simp only [SubmitsAsked, everyEntry_cons, everyEntry_nil, reduceCtorEq,
      false_implies, true_and, and_true, forall_const]
    decide +kernel
  have hspaced := hclaim (some defaultCfg) (.evaluate flowing 12000000 :: oneCommit)
    (@timed_of_times _ [12000000, 11000000, 10000000] rfl (by simp) (by simp))
    hasked
  have hlate := hspaced _ oneCommit List.suffix_rfl flowing 12000000 rfl
    (by decide +kernel) 11000000 (by decide +kernel)
  exact absurd hlate (by decide)

end CheckpointPolicy
end Swfpm
