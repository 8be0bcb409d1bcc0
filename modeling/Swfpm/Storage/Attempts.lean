import Swfpm.Storage.Codec
import Swfpm.Storage.Restore
import Swfpm.Support.RetryLedger
import Swfpm.Volume.PowerCycle

/-!
# Checkpoint attempts, one after the other

An attempt encodes the candidate of the accumulator under the next checkpoint
sequence and submits it; the accumulator moves on to that sequence only when
the completion says `STORAGE_COMMIT_OK`.  An attempt may fail after its commit
byte is in place, and then its record stays on the pair under the sequence that
the next attempt uses again.

`Shows` connects the image with the ledger of the attempts, wherever a run has
come to.
-/

namespace Swfpm

open ByteBuffers StorageRecord StorageService

/-! ## Attempts -/

/-- The accumulator, its storage service and the memory, between two
attempts. -/
structure CheckpointSystem where
  accumulator : VolumeAccumulator
  service : StorageService
  image : ByteBuffer

namespace CheckpointSystem

/-- The record sequence of the last checkpoint that succeeded. -/
def sequence (self : CheckpointSystem) : UInt32 :=
  self.accumulator.state.checkpointSequence.toUInt32

/-- The low 32 bits of the `checkpoint_sequence` of the candidate. -/
def nextSequence (self : CheckpointSystem) : UInt32 :=
  self.accumulator.prepareCheckpoint.checkpointSequence.toUInt32

def nextRecord (self : CheckpointSystem) : VolumeRecord :=
  self.accumulator.prepareCheckpoint.record

/-- The candidate is submitted. -/
def submitted (self : CheckpointSystem) (candidate : ByteBuffer) : FramSystem where
  service := (submitVolume self.service self.nextSequence candidate
    self.accumulator.prepareCheckpoint.stateVersion).2
  image := self.image
  outstanding := none

/-- The service rests, and its last completion was taken. -/
structure AtRest (c : CheckpointSystem) : Prop where
  reachable : ∃ h, StorageService.Reachable c.service h
  terminal : isTerminal c.service.context.state = true
  taken : c.service.completionReady = false

end CheckpointSystem

/-- The flow results go to the accumulator one by one. -/
def VolumeAccumulator.meter (self : VolumeAccumulator) (flows : List FlowResult) :
    VolumeAccumulator :=
  flows.foldl (fun accumulator flow => (accumulator.consume flow).2) self

/-- A whole attempt, from the candidate to the completion.  The accumulator goes
on metering while the storage service works. -/
structure CheckpointAttempt (c : CheckpointSystem) where
  candidate : ByteBuffer
  flows : List FlowResult
  ended : FramSystem
  payload : StorageCompletionPayload
  encoded : encodeVolume c.nextSequence c.nextRecord = some candidate
  run : FramRun (c.submitted candidate) ended
  taken : ended.service.takeCompletion.1 = some payload

namespace CheckpointAttempt

variable {c : CheckpointSystem}

/-- `VolumeAccumulator_OnCheckpointSuccess` follows `STORAGE_COMMIT_OK` only. -/
def after (self : CheckpointAttempt c) : CheckpointSystem where
  accumulator :=
    let metered := c.accumulator.meter self.flows
    if self.payload.status = .ok then
      metered.onCheckpointSuccess c.accumulator.prepareCheckpoint
    else metered
  service := self.ended.service.takeCompletion.2
  image := self.ended.image

/-- The target slot holds the candidate under a valid commit byte. -/
def Stored (self : CheckpointAttempt c) : Prop :=
  (volumeGoal self.candidate c.image).Durable self.ended.image

inductive Ends (self : CheckpointAttempt c) :
    AttemptFate VolumeRecord → Prop where
  | confirmed (hok : self.payload.status = .ok) :
      Ends self (.confirmed c.nextRecord)
  | unconfirmed (hfailed : self.payload.status ≠ .ok) (hstored : self.Stored) :
      Ends self (.unconfirmed c.nextRecord)
  | void (hfailed : self.payload.status ≠ .ok) (hlost : ¬ self.Stored) :
      Ends self .void

end CheckpointAttempt

/-- Runs of attempts, with the list of what became of them. -/
inductive CheckpointRun (start : CheckpointSystem) :
    List (AttemptFate VolumeRecord) → CheckpointSystem → Prop where
  | start : CheckpointRun start [] start
  | consume {fates : List (AttemptFate VolumeRecord)} {c : CheckpointSystem}
      (hrun : CheckpointRun start fates c) (flow : FlowResult) :
      CheckpointRun start fates
        { c with accumulator := (c.accumulator.consume flow).2 }
  | attempt {fates : List (AttemptFate VolumeRecord)} {c : CheckpointSystem}
      {fate : AttemptFate VolumeRecord} (hrun : CheckpointRun start fates c)
      (attempt : CheckpointAttempt c) (hends : attempt.Ends fate) :
      CheckpointRun start (fates ++ [fate]) attempt.after

/-! ## The sequence of the next attempt -/

section Sequence

variable {c : CheckpointSystem}

theorem CheckpointSystem.nextSequence_eq :
    c.nextSequence = c.sequence + 1 := by
  rw [CheckpointSystem.nextSequence, CheckpointSystem.sequence]
  exact UInt64.toUInt32_add _ 1

theorem VolumeAccumulator.ConsumeStep.checkpointSequence
    {self next : VolumeAccumulator} {flow : FlowResult}
    {status : VolumeConsumeStatus}
    (hstep : ConsumeStep self flow status next) :
    next.state.checkpointSequence = self.state.checkpointSequence := by
  cases hstep with
  | refused hadmission =>
      obtain ⟨⟨_, _, _, _, rfl⟩, -⟩ := checkAdmission_frame hadmission
      rfl
  | integrated _ _ _ _ hmid =>
      obtain ⟨_, _, _, _, rfl⟩ := integrate_frame hmid
      rfl
  | overflow | anchored | zeroInterval | backward | gap => rfl

theorem VolumeAccumulator.meter_checkpointSequence (self : VolumeAccumulator)
    (flows : List FlowResult) :
    (self.meter flows).state.checkpointSequence =
      self.state.checkpointSequence := by
  induction flows generalizing self with
  | nil => rfl
  | cons flow flows ih =>
      exact (ih _).trans (consume_step self flow).checkpointSequence

theorem CheckpointAttempt.sequence_confirmed {attempt : CheckpointAttempt c}
    (hok : attempt.payload.status = .ok) :
    attempt.after.sequence = c.sequence + 1 := by
  rw [← CheckpointSystem.nextSequence_eq]
  simp only [CheckpointSystem.sequence, CheckpointAttempt.after, if_pos hok]
  rfl

theorem CheckpointAttempt.sequence_failed {attempt : CheckpointAttempt c}
    (hfailed : attempt.payload.status ≠ .ok) :
    attempt.after.sequence = c.sequence := by
  simp only [CheckpointSystem.sequence, CheckpointAttempt.after,
    if_neg hfailed, VolumeAccumulator.meter_checkpointSequence]

/-- The next sequence is newer, also when it wraps. -/
theorem serialNewer_next (sequence : UInt32) :
    SerialNewer (sequence + 1) sequence := by
  have hone : sequence + 1 - sequence = 1 := by
    rw [add_sub_cancel_left]
  unfold SerialNewer
  rw [hone]
  decide

end Sequence

/-! ## How an attempt ends -/

section Attempt

variable {c : CheckpointSystem} {candidate : ByteBuffer} {ended : FramSystem}

/-- A completion that can be taken closes the commit. -/
theorem CheckpointSystem.AtRest.closed (hrest : c.AtRest)
    (hrun : FramRun (c.submitted candidate) ended)
    (hready : ended.service.completionReady = true) :
    (∃ h, StorageService.Reachable ended.service h) ∧
      isTerminal ended.service.context.state = true ∧
      (volumeGoal candidate c.image).Safe ended.image ∧
      (ended.service.lastCompletion.status = .ok →
        (volumeGoal candidate c.image).Durable ended.image) := by
  obtain ⟨⟨_, hreach⟩, hterminal, htaken⟩ := hrest
  obtain ⟨_, _, hpend, hphase⟩ := CommitPhase.of_submitVolume hreach hterminal
    htaken c.image c.nextSequence candidate
    c.accumulator.prepareCheckpoint.stateVersion
  have hended := (Between.idle hpend rfl hphase).run
    (commitPhase_protocol (volumeGoal candidate c.image)) hrun
  obtain ⟨h, hreachEnded⟩ := framRun_reachable hrun
    (hreach.step (.submitCheckpoint persistRecordVolume c.nextSequence candidate
      slotVolumeSize c.accumulator.prepareCheckpoint.stateVersion))
  have hstate := hreachEnded.accounting.ready hready
  have hterminal' : isTerminal ended.service.context.state = true := by
    rcases hstate with hs | hs <;> rw [hs] <;> rfl
  have hio := hreachEnded.accounting.ioPending_of_terminal hterminal'
  obtain ⟨_, hphase⟩ := hended.at_quiet hio
  refine ⟨⟨h, hreachEnded⟩, hterminal', hphase.safe, fun hok => ?_⟩
  cases hphase with
  | complete _ _ _ _ himage => exact himage
  | failed _ _ _ hbad => exact absurd hok hbad
  | scanA hs | scanB hs | prepareTarget hs | invalidate hs
  | verifyInvalidate hs | checkInvalidate hs | writeBody hs | readbackBody hs
  | verifyBody hs | commit hs | verifyCommit hs | checkCommit hs =>
      rw [hs] at hstate
      simp at hstate

theorem takeCompletion_some {service : StorageService}
    {payload : StorageCompletionPayload}
    (htake : service.takeCompletion.1 = some payload) :
    service.completionReady = true ∧ payload = service.lastCompletion ∧
      service.takeCompletion.2 = { service with completionReady := false } := by
  unfold takeCompletion at htake ⊢
  split at htake
  · rename_i hready
    rw [if_pos hready]
    exact ⟨hready, (Option.some.inj htake).symm, rfl⟩
  · cases htake

variable (attempt : CheckpointAttempt c)

/-- After an attempt the service rests again. -/
theorem CheckpointAttempt.after_atRest (hrest : c.AtRest) :
    attempt.after.AtRest := by
  obtain ⟨hready, _, htaken⟩ := takeCompletion_some attempt.taken
  obtain ⟨⟨h, hreach⟩, hterminal, _, _⟩ := hrest.closed attempt.run hready
  have hservice : attempt.after.service =
      attempt.ended.service.takeCompletion.2 := rfl
  refine ⟨⟨_, hreach.step .takeCompletion⟩, ?_, ?_⟩
  · rw [hservice, htaken]
    exact hterminal
  · rw [hservice, htaken]

theorem CheckpointAttempt.safe (hrest : c.AtRest) :
    (volumeGoal attempt.candidate c.image).Safe attempt.after.image := by
  obtain ⟨hready, _, _⟩ := takeCompletion_some attempt.taken
  exact (hrest.closed attempt.run hready).2.2.1

/-- An attempt that succeeds stored its record. -/
theorem CheckpointAttempt.stored_of_ok (hrest : c.AtRest)
    (hok : attempt.payload.status = .ok) : attempt.Stored := by
  obtain ⟨hready, hlast, _⟩ := takeCompletion_some attempt.taken
  rw [hlast] at hok
  exact (hrest.closed attempt.run hready).2.2.2 hok

end Attempt

/-! ## The image and the ledger -/

/-- The selection takes a slot that holds this record. -/
def SelectsRecord (image : ByteBuffer) (sequence : UInt32) (r : VolumeRecord) :
    Prop :=
  ∃ s, Selects (volumeSelection image) s ∧
    VolumeBody (volumeSlot image s) sequence r

/-- What the image of the memory holds for a writer that is at `sequence`. -/
def Shows (image : ByteBuffer) (sequence : UInt32) :
    RetryLedger VolumeRecord → Prop
  | .settled none => (volumeSelection image).status = .none ∧ Unprotected image
  | .settled (some r) => SelectsRecord image sequence r ∧ Unprotected image
  | .ahead r => SelectsRecord image (sequence + 1) r ∧ Unprotected image
  | .conflict => (volumeSelection image).status = .sequenceConflict

/-- How a volume slot is classified. -/
def slotReason (image : ByteBuffer) (s : UInt8) : SlotClassification :=
  classifySlot (volumeSlot image s) slotVolumeSize persistRecordVolume
    volumePayloadV1Schema volumePayloadV1Size

section Image

variable {image image' candidate : ByteBuffer} {sequence : UInt32}
  {r : VolumeRecord} {ledger : RetryLedger VolumeRecord} {s t : UInt8}

theorem volumeCompatible_iff :
    VolumeCompatible (volumeSlot image s) ↔
      slotReason image s = .validCompatible := Iff.rfl

theorem slotReason_congr
    (hsame : ∀ i < slotVolumeSize, volumeSlot image' s i = volumeSlot image s i) :
    slotReason image' s = slotReason image s :=
  classifySlot_congr (by decide) hsame

/-- A pair is protected slot by slot. -/
theorem unprotected_iff (ht : IsSlot t) :
    Unprotected image ↔ slotReasonIsProtected (slotReason image t) = false ∧
      slotReasonIsProtected (slotReason image (otherSlot t)) = false := by
  unfold Unprotected volumeSelection
  rw [abSlotSelect_reasonA, abSlotSelect_reasonB]
  rcases ht with rfl | rfl
  · exact Iff.rfl
  · exact And.comm

/-- Where a pair is not in conflict and nothing is protected, there is a slot
to write to. -/
theorem target_of_unprotected (hbody : VolumeBody candidate sequence r)
    (hfree : Unprotected image)
    (hcalm : (volumeSelection image).status ≠ .sequenceConflict) :
    (volumeGoal candidate image).target ≠ slotIndexNone := by
  unfold CommitGoal.target
  rw [volumeGoal_selection hbody]
  unfold abSlotChooseTarget
  rw [hfree.1, hfree.2, decide_eq_false hcalm]
  simp only [Bool.or_self, Bool.false_eq_true, if_false]
  split_ifs <;> decide

theorem target_of_conflict (hbody : VolumeBody candidate sequence r)
    (hconflict : (volumeSelection image).status = .sequenceConflict) :
    (volumeGoal candidate image).target = slotIndexNone := by
  unfold CommitGoal.target
  rw [volumeGoal_selection hbody]
  unfold abSlotChooseTarget
  rw [decide_eq_true hconflict]
  rfl

/-- What the ledger says about the selection. -/
theorem Shows.calm (hshows : Shows image sequence ledger)
    (hcalm : ledger ≠ .conflict) :
    Unprotected image ∧
      (volumeSelection image).status ≠ .sequenceConflict := by
  cases ledger with
  | settled record =>
      cases record with
      | none =>
          obtain ⟨hnone, hfree⟩ := hshows
          exact ⟨hfree, by rw [hnone]; decide⟩
      | some old =>
          obtain ⟨⟨_, hsel, _⟩, hfree⟩ := hshows
          exact ⟨hfree, by rw [hsel.1]; decide⟩
  | ahead old =>
      obtain ⟨⟨_, hsel, _⟩, hfree⟩ := hshows
      exact ⟨hfree, by rw [hsel.1]; decide⟩
  | conflict => exact absurd rfl hcalm

/-- The target and the slot beside it, before a commit. -/
structure TargetSlot (candidate image : ByteBuffer) (t : UInt8) : Prop where
  target : (volumeGoal candidate image).target = t
  isSlot : IsSlot t
  other : ∀ s, Selects (volumeSelection image) s → s = otherSlot t

theorem exists_targetSlot (hbody : VolumeBody candidate sequence r)
    (htarget : (volumeGoal candidate image).target ≠ slotIndexNone) :
    ∃ t, TargetSlot candidate image t := by
  obtain ⟨_, _, _, hslot, hother⟩ := abSlotChooseTarget_spec htarget
  rw [volumeGoal_selection hbody] at hother
  refine ⟨_, rfl, hslot, fun s hs => ?_⟩
  have htargetEq : (volumeGoal candidate image).target = otherSlot s := by
    rw [CommitGoal.target, volumeGoal_selection hbody]
    exact hother s hs
  rw [htargetEq, otherSlot_otherSlot hs.isSlot]

theorem TargetSlot.kept (ht : TargetSlot candidate image t)
    (hframe : (volumeGoal candidate image).Frame image') :
    ∀ i < slotVolumeSize,
      volumeSlot image' (otherSlot t) i = volumeSlot image (otherSlot t) i :=
  frame_keeps_slot (otherSlot_isSlot t)
    (ht.target.trans (otherSlot_otherSlot ht.isSlot).symm) hframe

/-- The record beside the target stays what it was. -/
theorem TargetSlot.kept_body (ht : TargetSlot candidate image t)
    (hframe : (volumeGoal candidate image).Frame image')
    (hbody : VolumeBody (volumeSlot image (otherSlot t)) sequence r) :
    VolumeBody (volumeSlot image' (otherSlot t)) sequence r :=
  hbody.congr fun i hi =>
    (ht.kept hframe i (by simp only [slotVolumeSize]; omega)).symm

/-- The selected record stays a record that can be selected. -/
theorem TargetSlot.kept_compatible (ht : TargetSlot candidate image t)
    (hframe : (volumeGoal candidate image).Frame image') :
    VolumeCompatible (volumeSlot image' (otherSlot t)) ↔
      VolumeCompatible (volumeSlot image (otherSlot t)) :=
  Compatible.congr (by decide) (ht.kept hframe)

theorem TargetSlot.kept_unprotected (ht : TargetSlot candidate image t)
    (hframe : (volumeGoal candidate image).Frame image')
    (hfree : Unprotected image)
    (hwritten : slotReasonIsProtected (slotReason image' t) = false) :
    Unprotected image' := by
  rw [unprotected_iff ht.isSlot] at hfree ⊢
  rw [slotReason_congr (ht.kept hframe)]
  exact ⟨hwritten, hfree.2⟩

/-- In no slot of an empty pair there is a record. -/
theorem beside_empty (hnone : (volumeSelection image).status = .none) :
    ¬ VolumeCompatible (volumeSlot image (otherSlot t)) := by
  intro hcompatible
  rw [volumeSelection_eq_selectPair image (otherSlot_isSlot t)] at hnone
  rcases selectPair_of_compatible (otherSlot_isSlot t) hcompatible with h | h
  · rw [h] at hnone
    cases hnone
  · rw [h] at hnone
    cases hnone

/-- A slot whose commit byte is not valid holds no record. -/
theorem slotReason_of_uncommitted
    (hopen : volumeSlot image s (slotVolumeSize - 1) ≠ persistCommitValid) :
    slotReasonIsProtected (slotReason image s) = false ∧
      ¬ VolumeCompatible (volumeSlot image s) := by
  refine ⟨?_, not_compatible_of_uncommitted (by decide) (by decide) hopen⟩
  unfold slotReason
  rcases classifySlot_of_uncommitted (by decide) (by decide) hopen with h | h
  · rw [h]
    rfl
  · rw [h]
    rfl

/-- An attempt that stored nothing leaves the selection as it was. -/
theorem Shows.unstored (hshows : Shows image sequence ledger)
    {next : UInt32} (hbody : VolumeBody candidate next r)
    (hsafe : (volumeGoal candidate image).Safe image')
    (hlost : ¬ (volumeGoal candidate image).Durable image') :
    Shows image' sequence ledger := by
  rcases hsafe with rfl | ⟨htarget, hframe, hwhole⟩
  · exact hshows
  obtain ⟨t, ht⟩ := exists_targetSlot hbody htarget
  have hopen : volumeSlot image' t (slotVolumeSize - 1) ≠
      persistCommitValid := by
    intro hvalid
    have hcommit : (volumeGoal candidate image).commitByte image' =
        persistCommitValid := by
      rw [CommitGoal.commitByte, CommitGoal.address, ht.target]
      exact hvalid
    exact hlost ⟨htarget, hframe, hwhole hcommit, hcommit⟩
  obtain ⟨hwritten, hempty⟩ := slotReason_of_uncommitted hopen
  have hselects : ∀ {seq : UInt32} {old : VolumeRecord},
      SelectsRecord image seq old → SelectsRecord image' seq old := by
    rintro seq old ⟨s, hsel, hold⟩
    obtain rfl := ht.other s hsel
    refine ⟨otherSlot t, ?_, ht.kept_body hframe hold⟩
    rw [volumeSelection_eq_selectPair image' (otherSlot_isSlot t)]
    refine selectPair_of_only_here (otherSlot_isSlot t)
      ((ht.kept_compatible hframe).mpr hsel.volumeCompatible) ?_
    rw [otherSlot_otherSlot ht.isSlot]
    exact hempty
  cases ledger with
  | settled record =>
      cases record with
      | none =>
          obtain ⟨hnone, hfree⟩ := hshows
          refine ⟨?_, ht.kept_unprotected hframe hfree hwritten⟩
          rw [volumeSelection_eq_selectPair image' ht.isSlot]
          exact selectPair_of_neither hempty
            (mt (ht.kept_compatible hframe).mp (beside_empty hnone))
      | some old =>
          obtain ⟨hsel, hfree⟩ := hshows
          exact ⟨hselects hsel, ht.kept_unprotected hframe hfree hwritten⟩
  | ahead old =>
      obtain ⟨hsel, hfree⟩ := hshows
      exact ⟨hselects hsel, ht.kept_unprotected hframe hfree hwritten⟩
  | conflict => exact absurd (target_of_conflict hbody hshows) htarget

/-- The record that an attempt stored is entered in the ledger. -/
theorem Shows.stored (hshows : Shows image sequence ledger)
    (hbody : VolumeBody candidate (sequence + 1) r)
    (hdurable : (volumeGoal candidate image).Durable image') :
    Shows image' sequence (ledger.enter (.unconfirmed r)) := by
  obtain ⟨t, ht⟩ := exists_targetSlot hbody hdurable.target
  have hframe := hdurable.frame
  have hslot := durable_slot ht.target hdurable.written hdurable.commit
  obtain ⟨hnew, hnewSequence⟩ := hbody.volumeCompatible hslot
  have hnewBody : VolumeBody (volumeSlot image' t) (sequence + 1) r :=
    hbody.setCommitted.congr fun i hi =>
      (hslot i (by simp only [slotVolumeSize]; omega)).symm
  have hwritten : slotReasonIsProtected (slotReason image' t) = false := by
    rw [volumeCompatible_iff.mp hnew]
    rfl
  cases ledger with
  | settled record =>
      cases record with
      | none =>
          obtain ⟨hnone, hfree⟩ := hshows
          refine ⟨⟨t, ?_, hnewBody⟩, ht.kept_unprotected hframe hfree hwritten⟩
          rw [volumeSelection_eq_selectPair image' ht.isSlot]
          exact selectPair_of_only_here ht.isSlot hnew
            (mt (ht.kept_compatible hframe).mp (beside_empty hnone))
      | some old =>
          obtain ⟨⟨s, hsel, hold⟩, hfree⟩ := hshows
          obtain rfl := ht.other s hsel
          have hpair := selectPair_of_both ht.isSlot hnew
            ((ht.kept_compatible hframe).mpr hsel.volumeCompatible)
          dsimp only at hpair
          rw [hnewSequence, (ht.kept_body hframe hold).sequence,
            compareSequence_eq_aNewer_iff.mpr (serialNewer_next sequence)] at hpair
          refine ⟨⟨t, ?_, hnewBody⟩, ht.kept_unprotected hframe hfree hwritten⟩
          rw [volumeSelection_eq_selectPair image' ht.isSlot]
          exact hpair
  | ahead old =>
      obtain ⟨⟨s, hsel, hold⟩, hfree⟩ := hshows
      obtain rfl := ht.other s hsel
      have holdBody := ht.kept_body hframe hold
      have hpair := selectPair_of_both ht.isSlot hnew
        ((ht.kept_compatible hframe).mpr hsel.volumeCompatible)
      dsimp only at hpair
      rw [hnewSequence, holdBody.sequence,
        compareSequence_eq_equal_iff.mpr rfl,
        ← volumeSelection_eq_selectPair image' ht.isSlot] at hpair
      rw [RetryLedger.ahead_enter_unconfirmed]
      by_cases hrecord : r = old
      · -- the same record again: the two bodies agree byte by byte
        subst hrecord
        have hsame : sameBytes (volumeSlot image' t)
            (volumeSlot image' (otherSlot t)) (slotVolumeSize - 1) = true :=
          sameBytes_eq_true_iff.mpr (hnewBody.unique holdBody)
        rw [if_pos rfl]
        dsimp only at hpair
        rw [if_pos hsame] at hpair
        refine ⟨⟨0, hpair, ?_⟩, ht.kept_unprotected hframe hfree hwritten⟩
        rcases ht.isSlot with rfl | rfl
        · exact hnewBody
        · exact holdBody
      · rw [if_neg hrecord]
        dsimp only at hpair
        rwa [if_neg] at hpair
        intro hsame
        have hdecode := (hnewBody.congr (sameBytes_eq_true_iff.mp hsame)).decode
        rw [holdBody.decode] at hdecode
        exact hrecord (Option.some.inj hdecode).symm
  | conflict => exact absurd (target_of_conflict hbody hshows) hdurable.target

/-- The news that the record was stored settles the ledger. -/
theorem Shows.confirm
    (hshows : Shows image sequence (ledger.enter (.unconfirmed r))) :
    Shows image (sequence + 1) (ledger.enter (.confirmed r)) := by
  cases ledger with
  | settled record => exact hshows
  | ahead old =>
      rw [RetryLedger.ahead_enter_unconfirmed] at hshows
      simp only [RetryLedger.enter]
      by_cases hrecord : r = old
      · subst hrecord
        rw [if_pos rfl] at hshows ⊢
        exact hshows
      · rw [if_neg hrecord] at hshows ⊢
        exact hshows
  | conflict => exact hshows

end Image

/-! ## Runs of attempts -/

section Run

variable {start c : CheckpointSystem} {fates : List (AttemptFate VolumeRecord)}
  {fate : AttemptFate VolumeRecord} {ledger : RetryLedger VolumeRecord}
  {last : Option VolumeRecord}

theorem CheckpointAttempt.body (attempt : CheckpointAttempt c) :
    VolumeBody attempt.candidate (c.sequence + 1) c.nextRecord := by
  rw [← CheckpointSystem.nextSequence_eq]
  exact (encodeVolume_body attempt.encoded).1

/-- What one attempt does to the ledger. -/
theorem CheckpointAttempt.shows (attempt : CheckpointAttempt c)
    (hrest : c.AtRest) (hends : attempt.Ends fate)
    (hshows : Shows c.image c.sequence ledger) :
    Shows attempt.after.image attempt.after.sequence (ledger.enter fate) := by
  cases hends with
  | void hfailed hlost =>
      rw [CheckpointAttempt.sequence_failed hfailed, RetryLedger.enter_void]
      exact hshows.unstored attempt.body (attempt.safe hrest) hlost
  | unconfirmed hfailed hstored =>
      rw [CheckpointAttempt.sequence_failed hfailed]
      exact hshows.stored attempt.body hstored
  | confirmed hok =>
      rw [CheckpointAttempt.sequence_confirmed hok]
      exact (hshows.stored attempt.body
        (attempt.stored_of_ok hrest hok)).confirm

theorem CheckpointRun.atRest (hrun : CheckpointRun start fates c)
    (hrest : start.AtRest) : c.AtRest := by
  induction hrun with
  | start => exact hrest
  | consume _ flow ih => exact ⟨ih.reachable, ih.terminal, ih.taken⟩
  | attempt _ attempt _ ih => exact attempt.after_atRest ih

/-- The image shows the ledger of the attempts, wherever a run has come to. -/
theorem CheckpointRun.shows (hrun : CheckpointRun start fates c)
    (hrest : start.AtRest) (hshows : Shows start.image start.sequence ledger) :
    Shows c.image c.sequence (ledger.enterAll fates) := by
  induction hrun with
  | start => exact hshows
  | @consume fates c _ flow ih =>
      have hsequence : CheckpointSystem.sequence
          { c with accumulator := (c.accumulator.consume flow).2 } =
            c.sequence :=
        congrArg UInt64.toUInt32
          (VolumeAccumulator.consume_step c.accumulator flow).checkpointSequence
      rw [hsequence]
      exact ih
  | attempt hrun attempt hends ih =>
      rw [RetryLedger.enterAll_append]
      exact attempt.shows (hrun.atRest hrest) hends ih

end Run

end Swfpm
