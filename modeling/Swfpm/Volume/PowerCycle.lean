import Swfpm.Storage.Record
import Swfpm.Volume.Coverage

/-!
# A power cycle of the accumulator

The accumulator keeps remainders, watermark and source generation twice: as
private fields and in the published `VolumeState`.  A checkpoint carries them
through the volume record, and `restore` writes back the private copies only.
-/

namespace Swfpm

open ByteBuffers StorageRecord

/-- The quantities that are to survive a power cycle. -/
structure PublicVolume where
  forwardVolumeUl : UInt64
  reverseVolumeUl : UInt64
  forwardRemainder : UInt64
  reverseRemainder : UInt64
  lastConsumedFlowSequence : UInt64
  sourceGeneration : UInt32
  deriving DecidableEq, Repr

def VolumeState.publicVolume (state : VolumeState) : PublicVolume :=
  { forwardVolumeUl := state.forwardVolumeUl
    reverseVolumeUl := state.reverseVolumeUl
    forwardRemainder := state.forwardRemainder
    reverseRemainder := state.reverseRemainder
    lastConsumedFlowSequence := state.lastConsumedFlowSequence
    sourceGeneration := state.sourceGeneration }

def CheckpointCandidate.publicVolume (candidate : CheckpointCandidate) :
    PublicVolume :=
  { forwardVolumeUl := candidate.forwardVolumeUl
    reverseVolumeUl := candidate.reverseVolumeUl
    forwardRemainder := candidate.forwardRemainder
    reverseRemainder := candidate.reverseRemainder
    lastConsumedFlowSequence := candidate.lastConsumedFlowSequence
    sourceGeneration := candidate.sourceGeneration }

/-- The arguments that the candidate gives to the encoder. -/
def CheckpointCandidate.record (candidate : CheckpointCandidate) :
    VolumeRecord :=
  { forwardVolumeUl := candidate.forwardVolumeUl
    reverseVolumeUl := candidate.reverseVolumeUl
    forwardRemainder := candidate.forwardRemainder
    reverseRemainder := candidate.reverseRemainder
    stateVersion := candidate.stateVersion
    lastFlowSequence := candidate.lastConsumedFlowSequence
    lastSourceGeneration := candidate.sourceGeneration }

/-- A state that carries every decoded field. -/
def VolumeState.carrying (state : VolumeState) (record : VolumeRecord) :
    VolumeState :=
  { state with
    forwardVolumeUl := record.forwardVolumeUl
    reverseVolumeUl := record.reverseVolumeUl
    forwardRemainder := record.forwardRemainder
    reverseRemainder := record.reverseRemainder
    stateVersion := record.stateVersion
    lastConsumedFlowSequence := record.lastFlowSequence
    sourceGeneration := record.lastSourceGeneration }

namespace VolumeAccumulator

/-- Checkpoint, record, and restore into a freshly initialised accumulator.
`rest` holds what the record does not carry. -/
def powerCycle (self : VolumeAccumulator) (sequence : UInt32)
    (config : Option VolumeConfig) (rest : VolumeState) :
    Option VolumeAccumulator := do
  let slot ← encodeVolume sequence self.prepareCheckpoint.record
  let record ← decodeVolume slot
  some ((init config).restore (rest.carrying record))

/-- Runs of the accumulator between two power cycles.  (Preparing a checkpoint
does not change it.) -/
inductive Reachable : VolumeAccumulator → Prop where
  | init (config : Option VolumeConfig) : Reachable (init config)
  | consume {self : VolumeAccumulator} (hself : Reachable self)
      (flow : FlowResult) : Reachable (self.consume flow).2
  | onCheckpointSuccess {self : VolumeAccumulator} (hself : Reachable self)
      (candidate : CheckpointCandidate) :
      Reachable (self.onCheckpointSuccess candidate)

/-! ## Published remainders -/

/-- The published remainders are the private ones and fit the record. -/
structure Published (accumulator : VolumeAccumulator) : Prop where
  forward_eq : accumulator.state.forwardRemainder = accumulator.forwardRem
  reverse_eq : accumulator.state.reverseRemainder = accumulator.reverseRem
  forward_rem : accumulator.forwardRem.toNat < 10 ^ 6
  reverse_rem : accumulator.reverseRem.toNat < 10 ^ 6

variable {self next : VolumeAccumulator} {flow : FlowResult}
  {status : VolumeConsumeStatus}

theorem init_published (config : Option VolumeConfig) :
    Published (init config) := by
  cases config <;> constructor <;> simp [init, cleared, VolumeState.cleared]

/-- Every branch that changes a remainder publishes both. -/
theorem ConsumeStep.published (hstep : ConsumeStep self flow status next)
    (hself : Published self) : Published next := by
  have hbounds : next.forwardRem.toNat < 10 ^ 6 ∧
      next.reverseRem.toNat < 10 ^ 6 := by
    by_cases hstatus : status = .ok
    · subst hstatus
      obtain ⟨-, hadds⟩ := hstep.adds_interval
      exact ⟨hadds.forward_rem hself.forward_rem,
        hadds.reverse_rem hself.reverse_rem⟩
    · have hadds := hstep.adds_nothing hstatus
      exact ⟨hadds.forward_rem hself.forward_rem,
        hadds.reverse_rem hself.reverse_rem⟩
  cases hstep with
  | refused hadmission =>
      obtain ⟨⟨_, _, _, _, rfl⟩, -⟩ := checkAdmission_frame hadmission
      exact ⟨hself.forward_eq, hself.reverse_eq, hbounds.1, hbounds.2⟩
  | overflow =>
      exact ⟨hself.forward_eq, hself.reverse_eq, hbounds.1, hbounds.2⟩
  | anchored | zeroInterval | backward | gap | integrated =>
      exact ⟨rfl, rfl, hbounds.1, hbounds.2⟩

theorem Reachable.published (hself : Reachable self) : Published self := by
  induction hself with
  | init config => exact init_published config
  | consume _ flow ih => exact (consume_step _ flow).published ih
  | onCheckpointSuccess _ candidate ih =>
      exact ⟨ih.forward_eq, ih.reverse_eq, ih.forward_rem, ih.reverse_rem⟩

/-! ## What survives -/

/-- The record carries the whole candidate. -/
theorem Published.powerCycle_eq (hself : Published self) (sequence : UInt32)
    (config : Option VolumeConfig) (rest : VolumeState) :
    self.powerCycle sequence config rest =
      some ((init config).restore
        (rest.carrying self.prepareCheckpoint.record)) := by
  have hfits : ∀ rem : UInt64, rem.toNat < 10 ^ 6 →
      rem < volumeRemainderLimit :=
    fun rem hrem => UInt64.lt_iff_toNat_lt.mpr hrem
  cases hencode : encodeVolume sequence self.prepareCheckpoint.record with
  | none =>
      rcases (encodeVolume_eq_none_iff _ _).mp hencode with hbad | hbad
      · exact absurd hbad (UInt64.not_le.mpr (hfits _ hself.forward_rem))
      · exact absurd hbad (UInt64.not_le.mpr (hfits _ hself.reverse_rem))
  | some slot =>
      have hdecode := (encodeVolume_body hencode).1.decode
      simp [powerCycle, hencode, hdecode]

/-- What the fresh accumulator publishes: the two volumes. -/
theorem restore_publicVolume (config : Option VolumeConfig)
    (restored : VolumeState) :
    ((init config).restore restored).getState.publicVolume =
      ⟨restored.forwardVolumeUl, restored.reverseVolumeUl, 0, 0, 0, 0⟩ := by
  cases config <;> rfl

/-- What its next checkpoint reports: everything but the watermark. -/
theorem restore_prepareCheckpoint (config : Option VolumeConfig)
    (restored : VolumeState) :
    ((init config).restore restored).prepareCheckpoint.publicVolume =
      { restored.publicVolume with lastConsumedFlowSequence := 0 } := by
  cases config <;> rfl

/-- A power cycle keeps everything public exactly when the published
remainders, watermark and source generation are all zero. -/
theorem powerCycle_preserves_iff (hself : Reachable self) (sequence : UInt32)
    (config : Option VolumeConfig) (rest : VolumeState) :
    ∃ cycled, self.powerCycle sequence config rest = some cycled ∧
      ((cycled.getState.publicVolume = self.getState.publicVolume ∧
          cycled.prepareCheckpoint.publicVolume =
            self.prepareCheckpoint.publicVolume) ↔
        self.forwardRem = 0 ∧ self.reverseRem = 0 ∧
          self.state.lastConsumedFlowSequence = 0 ∧
          self.state.sourceGeneration = 0) := by
  have hpublished := hself.published
  refine ⟨_, hpublished.powerCycle_eq sequence config rest, ?_⟩
  rw [restore_publicVolume, restore_prepareCheckpoint]
  simp only [VolumeState.carrying, CheckpointCandidate.record,
    prepareCheckpoint, getState, VolumeState.publicVolume,
    CheckpointCandidate.publicVolume, PublicVolume.mk.injEq, true_and,
    and_true, hpublished.forward_eq, hpublished.reverse_eq]
  constructor
  · rintro ⟨⟨hforward, hreverse, hsequence, hgeneration⟩, -⟩
    exact ⟨hforward.symm, hreverse.symm, hsequence.symm, hgeneration.symm⟩
  · rintro ⟨hforward, hreverse, hsequence, hgeneration⟩
    exact ⟨⟨hforward.symm, hreverse.symm, hsequence.symm, hgeneration.symm⟩,
      hsequence.symm⟩

/-- An accumulator that has not consumed anything loses nothing. -/
theorem powerCycle_preserves_fresh :
    ∃ cycled, (init none).powerCycle 1 none .cleared = some cycled ∧
      ((cycled.getState.publicVolume = (init none).getState.publicVolume ∧
          cycled.prepareCheckpoint.publicVolume =
            (init none).prepareCheckpoint.publicVolume) ↔
        (init none).forwardRem = 0 ∧ (init none).reverseRem = 0 ∧
          (init none).state.lastConsumedFlowSequence = 0 ∧
          (init none).state.sourceGeneration = 0) :=
  powerCycle_preserves_iff (.init none) 1 none .cleared

/-- Two samples of one microlitre per second, ten microseconds apart: the
fresh accumulator publishes neither the remainder of ten nor the watermark. -/
theorem powerCycle_loses_remainder :
    ¬ ∀ self : VolumeAccumulator, Reachable self →
      ∀ (sequence : UInt32) (config : Option VolumeConfig)
        (rest : VolumeState),
      ∃ cycled, self.powerCycle sequence config rest = some cycled ∧
        cycled.getState.publicVolume = self.getState.publicVolume ∧
        cycled.prepareCheckpoint.publicVolume =
          self.prepareCheckpoint.publicVolume := by
  intro hclaim
  have hreach := ((Reachable.init none).consume
    (Meter.productionSample 1 0)).consume (Meter.productionSample 2 10)
  obtain ⟨cycled, hcycled, hstate, -⟩ := hclaim _ hreach 1 none .cleared
  rw [hreach.published.powerCycle_eq] at hcycled
  obtain rfl := Option.some.inj hcycled
  rw [restore_publicVolume] at hstate
  have hremainder := congrArg PublicVolume.forwardRemainder hstate
  exact absurd hremainder (by decide +kernel)

end VolumeAccumulator
end Swfpm
