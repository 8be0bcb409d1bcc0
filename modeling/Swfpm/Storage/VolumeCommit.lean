import Swfpm.Storage.Commit
import Swfpm.Storage.Progress

/-!
# Commits of the volume record

The volume pair on the image, the goal of a volume commit, and power-loss
atomicity: wherever a commit is cut off, the selection over the pair finds
the record it found before, or the candidate.
-/

namespace Swfpm

open ByteBuffers StorageRecord StorageService

/-! ## The volume pair -/

def volumeSlot (image : ByteBuffer) (slot : UInt8) : ByteBuffer :=
  window image (slotAddrFor slot persistRecordVolume)

/-- `ab_slot_select` over the two volume slots of an image. -/
def volumeSelection (image : ByteBuffer) : SlotSelectionResult :=
  abSlotSelect (volumeSlot image 0) slotVolumeSize (volumeSlot image 1)
    slotVolumeSize persistRecordVolume volumePayloadV1Schema
    volumePayloadV1Size

/-- The selection over the volume pair takes a slot that holds exactly the
bytes of `record`. -/
def VolumeSelects (image record : ByteBuffer) : Prop :=
  ∃ s, Selects (volumeSelection image) s ∧
    ∀ i < slotVolumeSize, volumeSlot image s i = record i

/-- Neither volume slot holds a record that must be preserved. -/
def Unprotected (image : ByteBuffer) : Prop :=
  slotReasonIsProtected (volumeSelection image).reasonA = false ∧
    slotReasonIsProtected (volumeSelection image).reasonB = false

/-- A record under a valid commit byte. -/
def committed (slot : ByteBuffer) : ByteBuffer :=
  setByte slot (slotVolumeSize - 1) persistCommitValid

/-- A slot of the volume pair holds a record that can be selected. -/
def VolumeCompatible (slot : ByteBuffer) : Prop :=
  Compatible slotVolumeSize persistRecordVolume volumePayloadV1Schema
    volumePayloadV1Size slot

theorem slotAddrFor_volume (s : UInt8) :
    slotAddrFor s persistRecordVolume = if s ≠ 0 then 0x180 else 0x140 :=
  if_pos rfl

/-- The two slots of the pair do not overlap. -/
theorem slotAddrFor_disjoint {s : UInt8} (hs : IsSlot s) {i : ℕ}
    (hi : i < 64) :
    slotAddrFor s persistRecordVolume + i <
        slotAddrFor (otherSlot s) persistRecordVolume ∨
      slotAddrFor (otherSlot s) persistRecordVolume + 64 ≤
        slotAddrFor s persistRecordVolume + i := by
  rcases hs with rfl | rfl
  · left
    simp [slotAddrFor_volume, otherSlot]
    omega
  · right
    simp [slotAddrFor_volume, otherSlot]

theorem volumeSelection_eq_selectPair (image : ByteBuffer) {s : UInt8}
    (hs : IsSlot s) :
    volumeSelection image = selectPair slotVolumeSize persistRecordVolume
      volumePayloadV1Schema volumePayloadV1Size s (volumeSlot image s)
      (volumeSlot image (otherSlot s)) := by
  rcases hs with rfl | rfl <;> rfl

theorem Selects.isSlot {image : ByteBuffer} {s : UInt8}
    (h : Selects (volumeSelection image) s) : IsSlot s := by
  rcases Selects.compatible h with ⟨hs, _⟩ | ⟨hs, _⟩
  · exact Or.inl hs
  · exact Or.inr hs

theorem Selects.volumeCompatible {image : ByteBuffer} {s : UInt8}
    (h : Selects (volumeSelection image) s) :
    VolumeCompatible (volumeSlot image s) := by
  rcases Selects.compatible h with ⟨rfl, hc⟩ | ⟨rfl, hc⟩ <;> exact hc

/-! ## The candidate -/

theorem StorageRecord.VolumeBody.setCommitted {slot : ByteBuffer}
    {sequence : UInt32} {r : VolumeRecord} (h : VolumeBody slot sequence r) :
    VolumeBody (committed slot) sequence r :=
  h.congr fun _ hi => (setByte_of_ne (by simp only [slotVolumeSize]; omega)).symm

/-- The goal of committing a volume candidate to an image. -/
def volumeGoal (candidate image : ByteBuffer) : CommitGoal where
  type := persistRecordVolume
  body := blit zeros 0 candidate slotVolumeSize
  before := image
  known := by decide

section Goal

variable {sequence : UInt32} {r : VolumeRecord} {candidate image : ByteBuffer}

theorem volumeGoal_body (i : ℕ) (hi : i < 64) :
    (volumeGoal candidate image).body i = candidate i :=
  blit_inside (Nat.zero_le i) (by simp only [slotVolumeSize]; omega)

/-- The writer selects with the schema and the length of the candidate, which
are those of every volume record. -/
theorem volumeGoal_selection (hbody : VolumeBody candidate sequence r) :
    (volumeGoal candidate image).selection = volumeSelection image := by
  have hschema : (volumeGoal candidate image).body 5 = volumePayloadV1Schema :=
    (volumeGoal_body 5 (by omega)).trans hbody.schema
  have hlength : leRead16 (volumeGoal candidate image).body 6 =
      volumePayloadV1Size := by
    rw [← hbody.payloadLength]
    exact leRead16_congr fun k hk => volumeGoal_body (6 + k) (by omega)
  unfold CommitGoal.selection
  rw [hschema, hlength]
  rfl

theorem volumeGoal_target (hbody : VolumeBody candidate sequence r)
    {s : UInt8} (hsel : Selects (volumeSelection image) s)
    (hfree : Unprotected image) :
    (volumeGoal candidate image).target = otherSlot s := by
  unfold CommitGoal.target
  rw [volumeGoal_selection hbody]
  exact abSlotChooseTarget_of_selects hsel hfree.1 hfree.2

/-- The slot that is not the target keeps its bytes. -/
theorem frame_keeps_slot {image' : ByteBuffer} {s : UInt8} (hs : IsSlot s)
    (htarget : (volumeGoal candidate image).target = otherSlot s)
    (hframe : (volumeGoal candidate image).Frame image') :
    ∀ i < slotVolumeSize, volumeSlot image' s i = volumeSlot image s i := by
  intro i hi
  have hdisjoint := slotAddrFor_disjoint hs hi
  apply hframe
  rw [CommitGoal.address, htarget]
  exact hdisjoint

/-- The target slot holds the whole candidate. -/
theorem durable_slot {image' : ByteBuffer} {s : UInt8}
    (htarget : (volumeGoal candidate image).target = s)
    (hwritten : (volumeGoal candidate image).Written image' 63)
    (hcommit : (volumeGoal candidate image).commitByte image' =
      persistCommitValid) :
    ∀ i < slotVolumeSize, volumeSlot image' s i = committed candidate i := by
  intro i hi
  have haddress : (volumeGoal candidate image).address =
      slotAddrFor s persistRecordVolume := by
    rw [CommitGoal.address, htarget]
    rfl
  by_cases hlast : i = 63
  · subst hlast
    rw [CommitGoal.commitByte, haddress] at hcommit
    exact hcommit.trans (setByte_self _ 63 _).symm
  · have hi' : i < 63 := by
      simp only [slotVolumeSize] at hi
      omega
    have hbyte := hwritten i hi'
    rw [haddress, volumeGoal_body i (by omega)] at hbyte
    exact hbyte.trans
      (setByte_of_ne (by simp only [slotVolumeSize]; omega)).symm

theorem StorageRecord.VolumeBody.volumeCompatible {slot : ByteBuffer}
    (hbody : VolumeBody candidate sequence r)
    (hslot : ∀ i < slotVolumeSize, slot i = committed candidate i) :
    VolumeCompatible slot ∧ leRead32 slot 8 = sequence := by
  have hbody' : VolumeBody slot sequence r := hbody.setCommitted.congr
    fun i hi => (hslot i (by simp only [slotVolumeSize]; omega)).symm
  have hcommit : slot 63 = persistCommitValid :=
    (hslot 63 (by decide)).trans (setByte_self _ 63 _)
  exact ⟨hbody'.classify hcommit, hbody'.sequence⟩

/-- On a safe image the selection finds the old record or the candidate. -/
theorem CommitGoal.Safe.selects {image' : ByteBuffer} {s : UInt8}
    (hsafe : (volumeGoal candidate image).Safe image')
    (hbody : VolumeBody candidate sequence r)
    (hsel : Selects (volumeSelection image) s) (hfree : Unprotected image)
    (hnewer : SerialNewer sequence (leRead32 (volumeSlot image s) 8)) :
    VolumeSelects image' (volumeSlot image s) ∨
      VolumeSelects image' (committed candidate) := by
  rcases hsafe with himage | ⟨_, hframe, hwhole⟩
  · rw [himage]
    exact Or.inl ⟨s, hsel, fun _ _ => rfl⟩
  · have hs := hsel.isSlot
    have htarget := volumeGoal_target hbody hsel hfree
    have hkept := frame_keeps_slot hs htarget hframe
    have hold : VolumeCompatible (volumeSlot image' s) :=
      (Compatible.congr (by decide) hkept).mpr hsel.volumeCompatible
    by_cases hcommit : (volumeGoal candidate image).commitByte image' =
        persistCommitValid
    · -- the candidate is whole, and its sequence is the newer one
      right
      have hslot := durable_slot htarget (hwhole hcommit) hcommit
      obtain ⟨hnew, hsequence⟩ := hbody.volumeCompatible hslot
      have hreadOld : leRead32 (volumeSlot image' s) 8 =
          leRead32 (volumeSlot image s) 8 :=
        leRead32_congr fun k hk =>
          hkept (8 + k) (by simp only [slotVolumeSize]; omega)
      have hpair := selectPair_of_both (otherSlot_isSlot s) hnew hold
      dsimp only at hpair
      rw [hsequence, hreadOld, compareSequence_eq_aNewer_iff.mpr hnewer] at hpair
      refine ⟨otherSlot s, ?_, hslot⟩
      rw [volumeSelection_eq_selectPair image' (otherSlot_isSlot s),
        otherSlot_otherSlot hs]
      exact hpair
    · left
      have hnew : ¬ VolumeCompatible (volumeSlot image' (otherSlot s)) := by
        apply not_compatible_of_uncommitted (by decide) (by decide)
        intro hvalid
        apply hcommit
        rw [CommitGoal.commitByte, CommitGoal.address, htarget]
        exact hvalid
      refine ⟨s, ?_, hkept⟩
      rw [volumeSelection_eq_selectPair image' hs]
      exact selectPair_of_only_here hs hold hnew

end Goal

/-! ## An image with one record -/

/-- A cleared F-RAM with one committed record in slot A. -/
def freshImage (record : ByteBuffer) : ByteBuffer :=
  blit zeros slotVolumeAAddr (committed record) slotVolumeSize

section Fresh

variable {sequence : UInt32} {r : VolumeRecord} {record : ByteBuffer}

theorem freshImage_slotA (record : ByteBuffer) (i : ℕ) (hi : i < slotVolumeSize) :
    volumeSlot (freshImage record) 0 i = committed record i := by
  have haddr : slotAddrFor 0 persistRecordVolume = slotVolumeAAddr := rfl
  rw [volumeSlot, window_apply, haddr]
  exact (blit_inside (Nat.le_add_right _ _) (by omega)).trans (by
    rw [Nat.add_sub_cancel_left])

theorem freshImage_slotB (i : ℕ) : volumeSlot (freshImage record) 1 i = 0 := by
  have haddr : slotAddrFor 1 persistRecordVolume = slotVolumeBAddr := rfl
  rw [volumeSlot, window_apply, haddr]
  exact blit_outside (by
    simp only [slotVolumeAAddr, slotVolumeBAddr, slotVolumeSize]
    omega)

theorem freshImage_body (hbody : VolumeBody record sequence r) :
    VolumeBody (volumeSlot (freshImage record) 0) sequence r :=
  hbody.setCommitted.congr fun i hi =>
    (freshImage_slotA record i (by simp only [slotVolumeSize]; omega)).symm

/-- The one record is selected, and nothing is protected. -/
theorem freshImage_selects (hbody : VolumeBody record sequence r) :
    Selects (volumeSelection (freshImage record)) 0 ∧
      Unprotected (freshImage record) ∧
      leRead32 (volumeSlot (freshImage record) 0) 8 = sequence := by
  obtain ⟨hcompatible, hsequence⟩ :=
    hbody.volumeCompatible (freshImage_slotA record)
  have hempty : volumeSlot (freshImage record) 1 (slotVolumeSize - 1) ≠
      persistCommitValid := by
    rw [freshImage_slotB]
    decide
  refine ⟨abSlotSelect_of_onlyA hcompatible
    (not_compatible_of_uncommitted (by decide) (by decide) hempty), ⟨?_, ?_⟩,
    hsequence⟩
  · rw [volumeSelection, abSlotSelect_reasonA,
      show classifySlot _ _ _ _ _ = .validCompatible from hcompatible]
    rfl
  · rw [volumeSelection, abSlotSelect_reasonB]
    rcases classifySlot_of_uncommitted (by decide) (by decide) hempty with
      h | h <;> rw [h] <;> rfl

end Fresh

/-- The service after its initialisation. -/
theorem exists_resting :
    ∃ self h, Reachable self h ∧ isTerminal self.context.state = true ∧
      self.completionReady = false :=
  ⟨_, _, Reachable.init (show init 1000 true = some _ from rfl), rfl, rfl⟩

/-- A record with small remainders can be encoded. -/
theorem exists_encodeVolume (sequence : UInt32) {r : VolumeRecord}
    (hf : r.forwardRemainder < volumeRemainderLimit)
    (hr : r.reverseRemainder < volumeRemainderLimit) :
    ∃ slot, encodeVolume sequence r = some slot := by
  apply Option.ne_none_iff_exists'.mp
  rw [Ne, encodeVolume_eq_none_iff, not_or, UInt64.not_le, UInt64.not_le]
  exact ⟨hf, hr⟩

/-! ## From the submission on -/

/-- A submission to a resting service is accepted when the last completion
has been taken, and starts the commit. -/
theorem CommitPhase.of_submit {self : StorageService} {type : UInt8}
    {length : ℕ} (hterminal : isTerminal self.context.state = true)
    (hready : self.completionReady = false) (hsize : slotSizeFor type ≠ 0)
    (hlo : persistCommonHeaderSize ≤ length) (hhi : length ≤ slotSizeFor type)
    (image : ByteBuffer) (sequence : UInt32) (buffer : ByteBuffer)
    (version : UInt64) :
    let submitted := self.submitCheckpoint type sequence buffer length version
    submitted.1 = .ok ∧ submitted.2.context.state = .scanA ∧
      submitted.2.context.ioPending = self.context.ioPending ∧
      CommitPhase ⟨type, blit zeros 0 buffer length, image, hsize⟩ submitted.2
        image := by
  have hrestore : isRestoreState self.context.state = false := by
    revert hterminal
    cases self.context.state <;> decide
  have hlength : length ≠ 0 := by
    unfold persistCommonHeaderSize at hlo
    omega
  have hbounds := slotSizeFor_bounds hsize
  have hfits : ¬ (slotSizeFor type = 0 ∨
      slotSizeFor type > storageMaxSlotSize ∨
      length < persistCommonHeaderSize ∨ length > slotSizeFor type) := by
    simp only [storageMaxSlotSize, slotCalibrationSize]
    omega
  unfold submitCheckpoint prepareActiveCandidate
  rw [if_neg (by simp [hrestore, hlength]), if_pos hterminal,
    if_neg (by simp [hready])]
  dsimp only
  rw [if_neg hfits]
  exact ⟨rfl, rfl, rfl, .scanA rfl ⟨rfl, rfl, rfl, rfl⟩ rfl⟩

/-- Only a resting service whose last completion was taken answers
`STORAGE_OK`. -/
theorem submitCheckpoint_ok {self : StorageService} {type : UInt8}
    {sequence : UInt32} {buffer : ByteBuffer} {length : ℕ} {version : UInt64}
    (h : (self.submitCheckpoint type sequence buffer length version).1 = .ok) :
    isTerminal self.context.state = true ∧ self.completionReady = false := by
  unfold submitCheckpoint at h
  split at h
  · cases h
  · split at h
    · rename_i hterminal
      split at h
      · cases h
      · rename_i hready
        exact ⟨hterminal, by simpa using hready⟩
    · dsimp only at h
      split at h <;> cases h

/-- The submission of a volume candidate to a service. -/
def submitVolume (self : StorageService) (sequence : UInt32)
    (candidate : ByteBuffer) (version : UInt64) :
    StorageStatus × StorageService :=
  self.submitCheckpoint persistRecordVolume sequence candidate slotVolumeSize
    version

/-- A volume candidate starts its commit from a quiet moment. -/
theorem CommitPhase.of_submitVolume {self : StorageService} {h : History}
    (hreach : Reachable self h)
    (hterminal : isTerminal self.context.state = true)
    (hready : self.completionReady = false) (image : ByteBuffer)
    (sequence : UInt32) (candidate : ByteBuffer) (version : UInt64) :
    let submitted := submitVolume self sequence candidate version
    submitted.1 = .ok ∧ submitted.2.context.state = .scanA ∧
      submitted.2.context.ioPending = false ∧
      CommitPhase (volumeGoal candidate image) submitted.2 image := by
  have hio := hreach.accounting.ioPending_of_terminal hterminal
  obtain ⟨hok, hstate, hpend, hphase⟩ := CommitPhase.of_submit hterminal hready
    (show slotSizeFor persistRecordVolume ≠ 0 by decide)
    (show persistCommonHeaderSize ≤ slotVolumeSize by decide) (by decide)
    image sequence candidate version
  exact ⟨hok, hstate, hpend.trans hio, hphase⟩

/-! ## On a working port -/

/-- The run ended with the completion of a commit in the mailbox. -/
def CommitEnds (ended : FramSystem) (status : StorageCommitStatus) : Prop :=
  ∃ payload, ended.service.takeCompletion.1 = some payload ∧
    payload.status = status

/-- On a working port a volume commit that has a target never ends but with
`STORAGE_COMMIT_OK`, and never gets stuck before. -/
theorem volumeCommit_works {self : StorageService} {h : History}
    (hreach : Reachable self h)
    (hterminal : isTerminal self.context.state = true)
    (hready : self.completionReady = false) {image candidate : ByteBuffer}
    (htarget : (volumeGoal candidate image).target ≠ slotIndexNone)
    {sequence : UInt32} {version : UInt64} {reached : FramSystem}
    (hrun : WorkingRun
      ⟨(submitVolume self sequence candidate version).2, image, none⟩ reached) :
    (isWorking reached.service.context.state = false →
        CommitEnds reached .ok) ∧
      ∃ ended, WorkingRun reached ended ∧
        isWorking ended.service.context.state = false := by
  obtain ⟨_, hstate, hpend, hphase⟩ := CommitPhase.of_submitVolume hreach
    hterminal hready image sequence candidate version
  have hreached := (Between.idle hpend rfl
    (CommitRuns.mk hphase htarget (by rw [hstate]; simp))).run
      (commitRuns_protocol (volumeGoal candidate image)) hrun
  have hsubmitted : Reachable (submitVolume self sequence candidate version).2
      _ := hreach.step (.submitCheckpoint persistRecordVolume sequence candidate
        slotVolumeSize version)
  obtain ⟨_, hreach'⟩ := framRun_reachable hrun hsubmitted
  constructor
  · intro hidle
    have hio : reached.service.context.ioPending = false := by
      by_contra hp
      have hw := (ioSuccessor_isWorking
        (hreach'.accounting.io (by simpa using hp))).1
      rw [hidle] at hw
      cases hw
    obtain ⟨_, hruns⟩ := hreached.at_quiet hio
    cases hruns.phase with
    | complete _ _ hready hstatus _ =>
        exact ⟨_, by rw [takeCompletion, if_pos hready], hstatus⟩
    | failed hs => exact absurd hs hruns.alive
    | scanA hs | scanB hs | prepareTarget hs | invalidate hs
    | verifyInvalidate hs | checkInvalidate hs | writeBody hs | readbackBody hs
    | verifyBody hs | commit hs | verifyCommit hs | checkCommit hs =>
        rw [hs] at hidle
        exact absurd hidle (by decide)
  · obtain ⟨ended, hrun', _, hidle⟩ := hreached.working_progress
    exact ⟨ended, hrun', hidle⟩

/-- A working run that commits one record over another one. -/
structure FreshCommit (oldSequence newSequence : UInt32)
    (oldRecord newRecord : VolumeRecord) where
  old : ByteBuffer
  new : ByteBuffer
  self : StorageService
  history : History
  ended : FramSystem
  encodedOld : encodeVolume oldSequence oldRecord = some old
  encodedNew : encodeVolume newSequence newRecord = some new
  reachable : Reachable self history
  terminal : isTerminal self.context.state = true
  accepted : (submitVolume self newSequence new 1).1 = .ok
  run : WorkingRun
    ⟨(submitVolume self newSequence new 1).2, freshImage old, none⟩ ended
  ends : CommitEnds ended .ok

theorem exists_freshCommit (oldSequence newSequence : UInt32)
    (oldRecord newRecord : VolumeRecord)
    (hof : oldRecord.forwardRemainder < volumeRemainderLimit)
    (hor : oldRecord.reverseRemainder < volumeRemainderLimit)
    (hnf : newRecord.forwardRemainder < volumeRemainderLimit)
    (hnr : newRecord.reverseRemainder < volumeRemainderLimit) :
    Nonempty (FreshCommit oldSequence newSequence oldRecord newRecord) := by
  obtain ⟨self, history, hreach, hterminal, hready⟩ := exists_resting
  obtain ⟨old, hold⟩ := exists_encodeVolume oldSequence hof hor
  obtain ⟨new, hnew⟩ := exists_encodeVolume newSequence hnf hnr
  obtain ⟨hsel, hfree, _⟩ := freshImage_selects (encodeVolume_body hold).1
  have htarget : (volumeGoal new (freshImage old)).target ≠ slotIndexNone := by
    rw [volumeGoal_target (encodeVolume_body hnew).1 hsel hfree]
    decide
  have haccepted := (CommitPhase.of_submitVolume hreach hterminal hready
    (freshImage old) newSequence new 1).1
  have hstart : WorkingRun
      ⟨(submitVolume self newSequence new 1).2, freshImage old, none⟩ _ := .refl
  obtain ⟨ended, hrun, hidle⟩ :=
    (volumeCommit_works hreach hterminal hready htarget hstart).2
  have hends := (volumeCommit_works hreach hterminal hready htarget hrun).1 hidle
  exact ⟨⟨old, new, self, history, ended, hold, hnew, hreach, hterminal,
    haccepted, hrun, hends⟩⟩

/-! ## Power-loss atomicity -/

/-- The service rests while its last completion waits to be taken. -/
structure Resting (before : ByteBuffer) (service : StorageService)
    (image : ByteBuffer) : Prop where
  terminal : isTerminal service.context.state = true
  ready : service.completionReady = true
  untouched : image = before

theorem not_terminal_of_ioPlan {context : StorageServiceContext}
    {plan : IoPlan} (hplan : ioPlan context = some plan) :
    ¬ isTerminal context.state = true := by
  have hw := (ioSuccessor_isWorking (ioPlan_ioSuccessor hplan)).1
  rw [isTerminal_of_isWorking hw]
  exact Bool.false_ne_true

theorem resting_protocol (before : ByteBuffer) :
    Protocol .faulty (Resting before) where
  book _ h := ⟨h.terminal, h.ready, h.untouched⟩
  quiet {s m} nowUs reply hio hplan h := by
    have hsame : (s.tick nowUs reply).1 = s := by
      have hterminal := h.terminal
      unfold tick
      dsimp only
      rw [if_neg (by simp [hio]), if_neg (by simp [h.ready])]
      cases hs : s.context.state <;> rw [hs] at hterminal <;>
        first | rfl | cases hterminal
    rw [hsame]
    exact h
  land hplan h := absurd h.terminal (not_terminal_of_ioPlan hplan)
  fail _ _ _ _ _ _ _ hplan h _ := absurd h.terminal (not_terminal_of_ioPlan hplan)

theorem Resting.of_submit {self : StorageService}
    (hterminal : isTerminal self.context.state = true)
    (hready : self.completionReady = true) (image : ByteBuffer) (type : UInt8)
    (sequence : UInt32) (buffer : ByteBuffer) (length : ℕ) (version : UInt64) :
    Resting image (self.submitCheckpoint type sequence buffer length version).2
        image ∧
      (self.submitCheckpoint type sequence buffer length version
        ).2.context.ioPending = self.context.ioPending := by
  have hsame : (self.submitCheckpoint type sequence buffer length
      version).2 = self := by
    unfold submitCheckpoint
    rw [if_pos hterminal, if_pos hready]
    split <;> rfl
  rw [hsame]
  exact ⟨⟨hterminal, hready, rfl⟩, rfl⟩

/-- Power-loss atomicity.  From a service at rest, the submission of a
serially newer volume candidate and any run of ticks and port events leave an
image on which the selection finds exactly the record it found before or
exactly the candidate. -/
theorem volumeCommit_atomic {self : StorageService} {h : History}
    (hreach : Reachable self h)
    (hterminal : isTerminal self.context.state = true)
    {image candidate : ByteBuffer} {s : UInt8} {sequence : UInt32}
    {r : VolumeRecord} (hsel : Selects (volumeSelection image) s)
    (hfree : Unprotected image)
    (hcandidate : encodeVolume sequence r = some candidate)
    (hnewer : SerialNewer sequence (leRead32 (volumeSlot image s) 8))
    {callSequence : UInt32} {version : UInt64} {final : FramSystem}
    (hrun : FramRun
      ⟨(submitVolume self callSequence candidate version).2, image, none⟩
      final) :
    VolumeSelects final.image (volumeSlot image s) ∨
      VolumeSelects final.image (committed candidate) := by
  have hbody := (encodeVolume_body hcandidate).1
  cases hready : self.completionReady with
  | true =>
      have hio := hreach.accounting.ioPending_of_terminal hterminal
      obtain ⟨hrest, hpend⟩ := Resting.of_submit hterminal hready image
        persistRecordVolume callSequence candidate slotVolumeSize version
      have hfinal := (Between.idle (hpend.trans hio) rfl hrest).run
        (resting_protocol image) hrun
      have huntouched : final.image = image :=
        hfinal.image fun _ _ hP => hP.untouched
      rw [huntouched]
      exact Or.inl ⟨s, hsel, fun _ _ => rfl⟩
  | false =>
      obtain ⟨_, _, hpend, hphase⟩ := CommitPhase.of_submitVolume hreach
        hterminal hready image callSequence candidate version
      have hfinal := (Between.idle hpend rfl hphase).run
        (commitPhase_protocol (volumeGoal candidate image)) hrun
      have hsafe : (volumeGoal candidate image).Safe final.image :=
        hfinal.image fun _ _ hP => hP.safe
      exact hsafe.selects hbody hsel hfree hnewer

/-- The commit of record 7 over record 6, run to its end. -/
theorem volumeCommit_atomic_onFreshImage :
    ∃ c : FreshCommit 6 7 ⟨5, 0, 0, 0, 1, 1, 1⟩ ⟨9, 0, 0, 0, 2, 2, 1⟩,
      VolumeSelects c.ended.image (volumeSlot (freshImage c.old) 0) ∨
        VolumeSelects c.ended.image (committed c.new) := by
  obtain ⟨c⟩ := exists_freshCommit 6 7 ⟨5, 0, 0, 0, 1, 1, 1⟩
    ⟨9, 0, 0, 0, 2, 2, 1⟩
    (by decide) (by decide) (by decide) (by decide)
  obtain ⟨hsel, hfree, hsequence⟩ :=
    freshImage_selects (encodeVolume_body c.encodedOld).1
  exact ⟨c, volumeCommit_atomic c.reachable c.terminal hsel hfree c.encodedNew
    (by rw [hsequence]; decide) c.run.framRun⟩

end Swfpm
