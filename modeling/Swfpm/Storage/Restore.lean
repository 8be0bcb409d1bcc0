import Swfpm.Storage.VolumeCommit

/-!
# Restoring what was committed

A restore on a working port gives `restoreOutcome` of the image it started
from.  After a commit that ended with `STORAGE_COMMIT_OK` this is the
committed candidate exactly when the candidate was serially newer than the
record selected before, or was that record again.
-/

namespace Swfpm

open ByteBuffers StorageRecord StorageService

/-- What a restore reads off an image. -/
def restoreOutcome (image : ByteBuffer) :
    StorageRestoreStatus × StorageRestoredVolume :=
  decodedRestore (volumeSlot image 0) (volumeSlot image 1)

theorem decodeVolume_congr {a b : ByteBuffer} (h : ∀ i < 64, a i = b i) :
    decodeVolume a = decodeVolume b := by
  have h32 : ∀ off, off + 4 ≤ 64 → leRead32 a off = leRead32 b off :=
    fun off hoff => leRead32_congr fun k hk => h (off + k) (by omega)
  have h64 : ∀ off, off + 8 ≤ 64 → leRead64 a off = leRead64 b off :=
    fun off hoff => leRead64_congr fun k hk => h (off + k) (by omega)
  have h16 : leRead16 a 6 = leRead16 b 6 :=
    leRead16_congr fun k hk => h (6 + k) (by omega)
  unfold decodeVolume
  rw [h32 0 (by omega), h32 0x20 (by omega), h32 0x24 (by omega),
    h32 0x38 (by omega), h64 0x10 (by omega), h64 0x18 (by omega),
    h64 0x28 (by omega), h64 0x30 (by omega), h16, h 4 (by omega),
    h 5 (by omega)]

theorem decodedRestore_congr {a a' b b' : ByteBuffer}
    (ha : ∀ i < 64, a i = a' i) (hb : ∀ i < 64, b i = b' i) :
    decodedRestore a b = decodedRestore a' b' := by
  have hselect : abSlotSelect a slotVolumeSize b slotVolumeSize
      persistRecordVolume volumePayloadV1Schema volumePayloadV1Size =
        abSlotSelect a' slotVolumeSize b' slotVolumeSize persistRecordVolume
          volumePayloadV1Schema volumePayloadV1Size :=
    abSlotSelect_congr (by decide) ha hb
  unfold decodedRestore
  rw [hselect]
  generalize abSlotSelect a' slotVolumeSize b' slotVolumeSize
    persistRecordVolume volumePayloadV1Schema volumePayloadV1Size = selected
  have hslot : ∀ i < 64, (if selected.selectedSlot ≠ 0 then b else a) i =
      (if selected.selectedSlot ≠ 0 then b' else a') i := by
    intro i hi
    split
    · exact hb i hi
    · exact ha i hi
  have hsequence : leRead32 (if selected.selectedSlot ≠ 0 then b else a) 8 =
      leRead32 (if selected.selectedSlot ≠ 0 then b' else a') 8 :=
    leRead32_congr fun k hk => hslot (8 + k) (by omega)
  dsimp only
  rw [decodeVolume_congr hslot, hsequence]

/-- The restore succeeded with exactly this record. -/
structure Restores (outcome : StorageRestoreStatus × StorageRestoredVolume)
    (sequence : UInt32) (r : VolumeRecord) : Prop where
  status : outcome.1 = .ok
  volume : outcome.2.volume = r
  recordSequence : outcome.2.recordSequence = sequence

theorem restoreOutcome_of_selects {image : ByteBuffer} {s : UInt8}
    {sequence : UInt32} {r : VolumeRecord}
    (hsel : Selects (volumeSelection image) s)
    (hbody : VolumeBody (volumeSlot image s) sequence r) :
    Restores (restoreOutcome image) sequence r := by
  have hstatus : (abSlotSelect (volumeSlot image 0) slotVolumeSize
      (volumeSlot image 1) slotVolumeSize persistRecordVolume
      volumePayloadV1Schema volumePayloadV1Size).status = .selected := hsel.1
  have hselected : (abSlotSelect (volumeSlot image 0) slotVolumeSize
      (volumeSlot image 1) slotVolumeSize persistRecordVolume
      volumePayloadV1Schema volumePayloadV1Size).selectedSlot = s := hsel.2
  have hslot : (if s ≠ 0 then volumeSlot image 1 else volumeSlot image 0) =
      volumeSlot image s := by
    rcases hsel.isSlot with rfl | rfl <;> rfl
  have houtcome : restoreOutcome image =
      (.ok,
        { volume := r, recordSequence := sequence, selectedSlot := s
          slotAReason := (volumeSelection image).reasonA
          slotBReason := (volumeSelection image).reasonB }) := by
    unfold restoreOutcome decodedRestore
    dsimp only
    rw [if_neg (by simp [hstatus]), hselected, hslot, hbody.decode,
      hbody.sequence]
    rfl
  rw [houtcome]
  exact ⟨rfl, rfl, rfl⟩

/-- A successful restore returns the sequence of the selected record. -/
theorem restoreOutcome_ok {image : ByteBuffer}
    (h : (restoreOutcome image).1 = .ok) :
    ∃ s, Selects (volumeSelection image) s ∧
      (restoreOutcome image).2.recordSequence =
        leRead32 (volumeSlot image s) 8 := by
  have hstatus : (volumeSelection image).status = .selected := by
    by_contra hnot
    have hfail : (restoreOutcome image).1 =
        classifyRestoreFailure (volumeSelection image) := by
      unfold restoreOutcome decodedRestore
      dsimp only
      rw [if_pos (by exact hnot)]
      rfl
    rw [hfail] at h
    unfold classifyRestoreFailure at h
    split_ifs at h
  refine ⟨_, ⟨hstatus, rfl⟩, ?_⟩
  have hslot : (if (volumeSelection image).selectedSlot ≠ 0 then
      volumeSlot image 1 else volumeSlot image 0) =
        volumeSlot image (volumeSelection image).selectedSlot := by
    have hs := Selects.isSlot ⟨hstatus, rfl⟩
    rcases hs with hs | hs <;> rw [hs] <;> rfl
  unfold restoreOutcome decodedRestore
  dsimp only
  rw [if_neg (by exact not_not.mpr hstatus)]
  rw [← hslot]
  split <;> rfl

/-! ## After a commit -/

/-- The candidate is serially newer than the record selected on the image, or
is that record. -/
def Supersedes (image candidate : ByteBuffer) (sequence : UInt32) : Prop :=
  ∀ s, Selects (volumeSelection image) s →
    SerialNewer sequence (leRead32 (volumeSlot image s) 8) ∨
      ∀ i < 63, volumeSlot image s i = candidate i

/-- A compatible slot makes the selection pick a record or report a
conflict. -/
theorem selectPair_of_compatible {s : UInt8} (hs : IsSlot s)
    {here there : ByteBuffer} (hhere : VolumeCompatible here) :
    let selection := selectPair slotVolumeSize persistRecordVolume
      volumePayloadV1Schema volumePayloadV1Size s here there
    selection.status = .selected ∨ selection.status = .sequenceConflict := by
  by_cases hthere : VolumeCompatible there
  · have hboth := selectPair_of_both hs hhere hthere
    dsimp only at hboth ⊢
    split at hboth
    · exact Or.inl hboth.1
    · exact Or.inl hboth.1
    · exact Or.inr hboth
    · split at hboth
      · exact Or.inl hboth.1
      · exact Or.inr hboth
  · exact Or.inl (selectPair_of_only_here hs hhere hthere).1

theorem CommitGoal.Durable.restores_iff {candidate image image' : ByteBuffer}
    {sequence : UInt32} {r : VolumeRecord}
    (hbody : VolumeBody candidate sequence r)
    (hdurable : (volumeGoal candidate image).Durable image') :
    Restores (restoreOutcome image') sequence r ↔
      Supersedes image candidate sequence := by
  obtain ⟨hconflict, _, _, ht, htarget⟩ :=
    abSlotChooseTarget_spec hdurable.target
  rw [volumeGoal_selection hbody] at hconflict
  simp only [volumeGoal_selection hbody] at htarget
  generalize htdef : (volumeGoal candidate image).target = t at *
  have ht : IsSlot t := by
    rw [← htdef]
    exact ht
  have htarget : ∀ s, Selects (volumeSelection image) s → t = otherSlot s := by
    intro s hs
    rw [← htdef, CommitGoal.target, volumeGoal_selection hbody]
    exact htarget s hs
  have hslot := durable_slot htdef hdurable.written hdurable.commit
  obtain ⟨hnew, hsequence⟩ := hbody.volumeCompatible hslot
  have hnewBody : VolumeBody (volumeSlot image' t) sequence r :=
    hbody.setCommitted.congr fun i hi =>
      (hslot i (by simp only [slotVolumeSize]; omega)).symm
  have hkept := frame_keeps_slot (otherSlot_isSlot t)
    (htdef.trans (otherSlot_otherSlot ht).symm) hdurable.frame
  have hselection := volumeSelection_eq_selectPair image' ht
  by_cases hold : VolumeCompatible (volumeSlot image (otherSlot t))
  · -- the other slot held the selected record, and still does
    have hselected : (volumeSelection image).status = .selected := by
      rcases selectPair_of_compatible (otherSlot_isSlot t) hold with h | h
      · rw [volumeSelection_eq_selectPair image (otherSlot_isSlot t)]
        exact h
      · rw [volumeSelection_eq_selectPair image (otherSlot_isSlot t)]
          at hconflict
        exact absurd h hconflict
    have hunique : ∀ s, Selects (volumeSelection image) s → s = otherSlot t := by
      intro s hs
      rw [htarget s hs, otherSlot_otherSlot hs.isSlot]
    have hsel : Selects (volumeSelection image) (otherSlot t) := by
      have hs : Selects (volumeSelection image) _ := ⟨hselected, rfl⟩
      rw [← hunique _ hs]
      exact hs
    have hsupersedes : Supersedes image candidate sequence ↔
        SerialNewer sequence (leRead32 (volumeSlot image (otherSlot t)) 8) ∨
          ∀ i < 63, volumeSlot image (otherSlot t) i = candidate i := by
      constructor
      · intro h
        exact h _ hsel
      · intro h s hs
        rw [hunique s hs]
        exact h
    have hold' : VolumeCompatible (volumeSlot image' (otherSlot t)) :=
      (Compatible.congr (by decide) hkept).mpr hold
    have hreadOld : leRead32 (volumeSlot image' (otherSlot t)) 8 =
        leRead32 (volumeSlot image (otherSlot t)) 8 :=
      leRead32_congr fun k hk =>
        hkept (8 + k) (by simp only [slotVolumeSize]; omega)
    have hrepeat : (∀ i < 63, volumeSlot image (otherSlot t) i = candidate i) →
        sequence = leRead32 (volumeSlot image (otherSlot t)) 8 := by
      intro h
      rw [← hbody.sequence]
      exact (leRead32_congr fun k hk => h (8 + k) (by omega)).symm
    have hpair := selectPair_of_both ht hnew hold'
    dsimp only at hpair
    rw [← hselection, hsequence, hreadOld] at hpair
    rw [hsupersedes]
    generalize leRead32 (volumeSlot image (otherSlot t)) 8 = old at *
    have hneither : compareSequence sequence old ≠ .aNewer →
        compareSequence sequence old ≠ .equal →
          ¬ (SerialNewer sequence old ∨
            ∀ i < 63, volumeSlot image (otherSlot t) i = candidate i) := by
      rintro hnewer hequal (h | h)
      · exact hnewer (compareSequence_eq_aNewer_iff.mpr h)
      · exact hequal (compareSequence_eq_equal_iff.mpr (hrepeat h))
    cases hc : compareSequence sequence old with
    | aNewer =>
        rw [hc] at hpair
        exact ⟨fun _ => Or.inl (compareSequence_eq_aNewer_iff.mp hc),
          fun _ => restoreOutcome_of_selects hpair hnewBody⟩
    | bNewer =>
        rw [hc] at hpair
        constructor
        · intro h
          obtain ⟨s, hs, hread⟩ := restoreOutcome_ok h.status
          rw [h.recordSequence, ← hs.2, hpair.2, hreadOld] at hread
          rw [compareSequence_eq_equal_iff.mpr hread] at hc
          cases hc
        · intro h
          exact absurd h (hneither (by simp [hc]) (by simp [hc]))
    | ambiguous =>
        rw [hc] at hpair
        constructor
        · intro h
          obtain ⟨s, hs, _⟩ := restoreOutcome_ok h.status
          rw [hs.1] at hpair
          cases hpair
        · intro h
          exact absurd h (hneither (by simp [hc]) (by simp [hc]))
    | equal =>
        rw [hc] at hpair
        dsimp only at hpair
        by_cases hsame : sameBytes (volumeSlot image' t)
            (volumeSlot image' (otherSlot t)) (slotVolumeSize - 1) = true
        · -- both slots hold the candidate
          rw [if_pos hsame] at hpair
          have hsame' := sameBytes_eq_true_iff.mp hsame
          have holdBody : VolumeBody (volumeSlot image' (otherSlot t)) sequence
              r := hnewBody.congr hsame'
          have hbodies : VolumeBody (volumeSlot image' 0) sequence r := by
            rcases ht with rfl | rfl
            · exact hnewBody
            · exact holdBody
          refine ⟨fun _ => Or.inr fun i hi => ?_,
            fun _ => restoreOutcome_of_selects hpair hbodies⟩
          rw [← hkept i (by simp only [slotVolumeSize]; omega), ← hsame' i hi,
            hslot i (by simp only [slotVolumeSize]; omega)]
          exact setByte_of_ne (by simp only [slotVolumeSize]; omega)
        · rw [if_neg hsame] at hpair
          constructor
          · intro h
            obtain ⟨s, hs, _⟩ := restoreOutcome_ok h.status
            rw [hs.1] at hpair
            cases hpair
          · rintro (h | h)
            · rw [compareSequence_eq_aNewer_iff.mpr h] at hc
              cases hc
            · refine absurd (sameBytes_eq_true_iff.mpr fun i hi => ?_) hsame
              rw [hkept i (by simp only [slotVolumeSize] at hi ⊢; omega),
                h i hi, hslot i (by simp only [slotVolumeSize] at hi ⊢; omega)]
              exact setByte_of_ne (by simp only [slotVolumeSize] at hi ⊢; omega)
  · have honly := selectPair_of_only_here ht hnew
      (mt (Compatible.congr (by decide) hkept).mp hold)
    rw [← hselection] at honly
    constructor
    · intro _ s hs
      have hs' : s = otherSlot t := by
        rw [htarget s hs, otherSlot_otherSlot hs.isSlot]
      rw [hs'] at hs
      exact absurd hs.volumeCompatible hold
    · intro _
      exact restoreOutcome_of_selects honly hnewBody

/-! ## The phases of a restore -/

inductive RestorePhase (before : ByteBuffer) (service : StorageService)
    (image : ByteBuffer) : Prop where
  | scanA (hstate : service.context.state = .restoreScanA)
      (himage : image = before)
  | scanB (hstate : service.context.state = .restoreScanB)
      (himage : image = before)
      (hscanA : ∀ i < 64, service.context.scanA i = volumeSlot before 0 i)
  | decode (hstate : service.context.state = .restoreDecode)
      (himage : image = before)
      (hscanA : ∀ i < 64, service.context.scanA i = volumeSlot before 0 i)
      (hscanB : ∀ i < 64, service.context.scanB i = volumeSlot before 1 i)
  | complete (hstate : service.context.state = .restoreComplete)
      (himage : image = before) (hready : service.restoreReady = true)
      (houtcome : (service.restoreStatus, service.restoredVolume) =
        restoreOutcome before)

theorem restorePhase_protocol (before : ByteBuffer) :
    Protocol .working (RestorePhase before) where
  book book h := by
    cases h with
    | scanA hstate himage => exact .scanA hstate himage
    | scanB hstate himage hscanA => exact .scanB hstate himage hscanA
    | decode hstate himage hscanA hscanB =>
        exact .decode hstate himage hscanA hscanB
    | complete hstate himage hready houtcome =>
        exact .complete hstate himage hready houtcome
  quiet {s m} nowUs reply hio hplan h := by
    unfold tick
    dsimp only
    rw [if_neg (by simp [hio])]
    cases h with
    | scanA hstate | scanB hstate => simp [ioPlan, hstate] at hplan
    | decode hstate himage hscanA hscanB =>
        rw [if_neg (by simp [hstate])]
        simp only [hstate]
        exact .complete rfl himage rfl (decodedRestore_congr hscanA hscanB)
    | complete hstate himage hready houtcome =>
        rw [if_neg (by simp [hstate])]
        simp only [hstate]
        exact .complete hstate himage hready houtcome
  land {s m plan} hplan h := by
    cases h with
    | scanA hstate himage =>
        simp only [ioPlan, hstate, Option.some.injEq] at hplan
        subst hplan
        refine .scanB rfl himage fun i hi => ?_
        simp only [presetIoByte, hstate]
        rw [← himage]
        exact blit_window_inside _ m (Nat.zero_le i)
          (by simp only [slotVolumeSize]; omega)
    | scanB hstate himage hscanA =>
        simp only [ioPlan, hstate, Option.some.injEq] at hplan
        subst hplan
        refine .decode rfl himage ?_ fun i hi => ?_
        · simp only [presetIoByte, hstate]
          exact hscanA
        · simp only [presetIoByte, hstate]
          rw [← himage]
          exact blit_window_inside _ m (Nat.zero_le i)
            (by simp only [slotVolumeSize]; omega)
    | decode hstate | complete hstate => simp [ioPlan, hstate] at hplan
  fail hfaulty := by cases hfaulty

/-! ## `STORAGE_COMMIT_OK` and the restore that follows -/

/-- The caller takes the completion and starts a restore right away. -/
def startRestore (ended : FramSystem) : FramSystem :=
  { ended with
    service := ended.service.takeCompletion.2.startRestoreVolume.2 }

/-- On a working port the restore ends, and whenever it ends it returns
exactly this record. -/
def RestoreReturns (start : FramSystem) (sequence : UInt32)
    (r : VolumeRecord) : Prop :=
  (∃ done outcome, WorkingRun start done ∧
      done.service.takeRestoredVolume.1 = some outcome) ∧
    ∀ done outcome, WorkingRun start done →
      done.service.takeRestoredVolume.1 = some outcome →
        Restores outcome sequence r

/-- A commit that ended with `STORAGE_COMMIT_OK` left a durable image, at a
quiet moment. -/
theorem commitEnds_durable {self : StorageService} {h : History}
    (hreach : Reachable self h) {image candidate : ByteBuffer}
    {sequence : UInt32} {version : UInt64} {ended : FramSystem}
    (haccepted : (submitVolume self sequence candidate version).1 = .ok)
    (hrun : FramRun ⟨(submitVolume self sequence candidate version).2, image,
      none⟩ ended)
    (hends : CommitEnds ended .ok) :
    (∃ h', Reachable ended.service h') ∧ Quiet ended ∧
      ended.service.context.state = .complete ∧
      ended.service.context.pending = false ∧
      ended.service.completionReady = true ∧
      (volumeGoal candidate image).Durable ended.image := by
  obtain ⟨hterminal, hready⟩ := submitCheckpoint_ok haccepted
  obtain ⟨_, _, hpend, hphase⟩ := CommitPhase.of_submitVolume hreach hterminal
    hready image sequence candidate version
  have hended := (Between.idle hpend rfl hphase).run
    (commitPhase_protocol (volumeGoal candidate image)) hrun
  have hsubmitted : Reachable (submitVolume self sequence candidate version).2
      _ := hreach.step (.submitCheckpoint persistRecordVolume sequence candidate
        slotVolumeSize version)
  obtain ⟨_, hreachEnded⟩ := framRun_reachable hrun hsubmitted
  obtain ⟨payload, hpayload, hstatus⟩ := hends
  have hfull : ended.service.completionReady = true := by
    by_contra hempty
    rw [takeCompletion, if_neg hempty] at hpayload
    cases hpayload
  have hlast : ended.service.lastCompletion.status = .ok := by
    rw [takeCompletion, if_pos hfull] at hpayload
    cases hpayload
    exact hstatus
  have hstate := hreachEnded.accounting.ready hfull
  have hio := hreachEnded.accounting.ioPending_of_terminal (by
    rcases hstate with hs | hs <;> rw [hs] <;> rfl)
  obtain ⟨hout, hphase⟩ := hended.at_quiet hio
  cases hphase with
  | complete hstate hpending hready _ himage =>
      exact ⟨⟨_, hreachEnded⟩, ⟨hio, hout⟩, hstate, hpending, hready, himage⟩
  | failed _ _ _ hbad => exact absurd hlast hbad
  | scanA hs | scanB hs | prepareTarget hs | invalidate hs
  | verifyInvalidate hs | checkInvalidate hs | writeBody hs | readbackBody hs
  | verifyBody hs | commit hs | verifyCommit hs | checkCommit hs =>
      rw [hs] at hstate
      simp at hstate

/-- The restore of an image on a working port returns `restoreOutcome`. -/
theorem restore_returns {start : FramSystem} {h : History}
    (hreach : Reachable start.service h) (hquiet : Quiet start)
    (hstate : start.service.context.state = .restoreScanA)
    (sequence : UInt32) (r : VolumeRecord) :
    RestoreReturns start sequence r ↔
      Restores (restoreOutcome start.image) sequence r := by
  have hstart : Between .working (RestorePhase start.image) start :=
    .idle hquiet.io hquiet.out (.scanA hstate rfl)
  have hdone : ∀ done outcome, WorkingRun start done →
      done.service.takeRestoredVolume.1 = some outcome →
        outcome = restoreOutcome start.image := by
    intro done outcome hrun houtcome
    obtain ⟨_, hreachDone⟩ := framRun_reachable hrun hreach
    have hready : done.service.restoreReady = true := by
      by_contra hempty
      rw [takeRestoredVolume, if_neg hempty] at houtcome
      cases houtcome
    have hended := hreachDone.accounting.restore hready
    have hio : done.service.context.ioPending = false := by
      by_contra hp
      have hsucc := hreachDone.accounting.io (by simpa using hp)
      rcases hended with hs | hs <;> rw [hs] at hsucc <;> cases hsucc
    obtain ⟨_, hphase⟩ :=
      (hstart.run (restorePhase_protocol start.image) hrun).at_quiet hio
    cases hphase with
    | complete _ _ _ hresult =>
        rw [takeRestoredVolume, if_pos hready] at houtcome
        exact (Option.some.inj houtcome).symm.trans hresult
    | scanA hs | scanB hs | decode hs =>
        rw [hs] at hended
        simp at hended
  have hexists : ∃ done outcome, WorkingRun start done ∧
      done.service.takeRestoredVolume.1 = some outcome := by
    obtain ⟨done, hrun, hquiet', hidle⟩ := hstart.working_progress
    obtain ⟨_, hphase⟩ :=
      (hstart.run (restorePhase_protocol start.image) hrun).at_quiet hquiet'.io
    cases hphase with
    | complete _ _ hready _ =>
        exact ⟨done, _, hrun, by rw [takeRestoredVolume, if_pos hready]⟩
    | scanA hs | scanB hs | decode hs =>
        rw [hs] at hidle
        exact absurd hidle (by decide)
  constructor
  · rintro ⟨_, hall⟩
    obtain ⟨done, outcome, hrun, houtcome⟩ := hexists
    rw [← hdone done outcome hrun houtcome]
    exact hall done outcome hrun houtcome
  · intro hrestores
    refine ⟨hexists, fun done outcome hrun houtcome => ?_⟩
    rw [hdone done outcome hrun houtcome]
    exact hrestores

/-- The restore that follows a durable commit reads the image it left. -/
theorem startRestore_returns {ended : FramSystem} {h : History}
    (hreach : Reachable ended.service h) (hquiet : Quiet ended)
    (hstate : ended.service.context.state = .complete)
    (hpending : ended.service.context.pending = false)
    (hready : ended.service.completionReady = true) (sequence : UInt32)
    (r : VolumeRecord) :
    RestoreReturns (startRestore ended) sequence r ↔
      Restores (restoreOutcome ended.image) sequence r := by
  have hreachStart := (hreach.step .takeCompletion).step .startRestoreVolume
  have hstarted : (startRestore ended).service.context.state =
      .restoreScanA := by
    simp [startRestore, takeCompletion, startRestoreVolume, hready, hstate,
      hpending, isTerminal]
  have hio : (startRestore ended).service.context.ioPending =
      ended.service.context.ioPending := by
    simp [startRestore, takeCompletion, startRestoreVolume, hready, hstate,
      hpending, isTerminal]
  exact restore_returns hreachStart ⟨hio.trans hquiet.io, hquiet.out⟩ hstarted
    sequence r

/-- A restore right after `STORAGE_COMMIT_OK` returns the candidate exactly
when the candidate superseded what the selection found before the commit. -/
theorem commitOk_restores_iff {self : StorageService} {h : History}
    (hreach : Reachable self h) {image candidate : ByteBuffer}
    {sequence : UInt32} {r : VolumeRecord} {version : UInt64}
    {ended : FramSystem}
    (hcandidate : encodeVolume sequence r = some candidate)
    (haccepted : (submitVolume self sequence candidate version).1 = .ok)
    (hrun : FramRun ⟨(submitVolume self sequence candidate version).2, image,
      none⟩ ended)
    (hends : CommitEnds ended .ok) :
    RestoreReturns (startRestore ended) sequence r ↔
      Supersedes image candidate sequence := by
  obtain ⟨⟨_, hreachEnded⟩, hquiet, hstate, hpending, hready, hdurable⟩ :=
    commitEnds_durable hreach haccepted hrun hends
  rw [startRestore_returns hreachEnded hquiet hstate hpending hready]
  exact hdurable.restores_iff (encodeVolume_body hcandidate).1

/-- The commit of record 7 over record 6 and the restore after it. -/
theorem commitOk_restores_newerSequence :
    ∃ c : FreshCommit 6 7 ⟨5, 0, 0, 0, 1, 1, 1⟩ ⟨9, 0, 0, 0, 2, 2, 1⟩,
      RestoreReturns (startRestore c.ended) 7 ⟨9, 0, 0, 0, 2, 2, 1⟩ ↔
        Supersedes (freshImage c.old) c.new 7 := by
  obtain ⟨c⟩ := exists_freshCommit 6 7 ⟨5, 0, 0, 0, 1, 1, 1⟩
    ⟨9, 0, 0, 0, 2, 2, 1⟩ (by decide) (by decide) (by decide) (by decide)
  exact ⟨c, commitOk_restores_iff c.reachable c.encodedNew c.accepted
    c.run.framRun c.ends⟩

/-- Committing a second record under the sequence of the first one ends with
`STORAGE_COMMIT_OK`, and the restore does not return it. -/
theorem commitOk_not_restored_sameSequence :
    ∃ c : FreshCommit 7 7 ⟨5, 0, 0, 0, 1, 1, 1⟩ ⟨9, 0, 0, 0, 2, 2, 1⟩,
      FramRun ⟨(submitVolume c.self 7 c.new 1).2, freshImage c.old, none⟩
          c.ended ∧
        CommitEnds c.ended .ok ∧
        ¬ RestoreReturns (startRestore c.ended) 7 ⟨9, 0, 0, 0, 2, 2, 1⟩ := by
  obtain ⟨c⟩ := exists_freshCommit 7 7 ⟨5, 0, 0, 0, 1, 1, 1⟩
    ⟨9, 0, 0, 0, 2, 2, 1⟩ (by decide) (by decide) (by decide) (by decide)
  refine ⟨c, c.run.framRun, c.ends, ?_⟩
  obtain ⟨⟨_, hreachEnded⟩, hquiet, hstate, hpending, hready, hdurable⟩ :=
    commitEnds_durable c.reachable c.accepted c.run.framRun c.ends
  have hold := (encodeVolume_body c.encodedOld).1
  have hnew := (encodeVolume_body c.encodedNew).1
  obtain ⟨hsel, _, hsequence⟩ := freshImage_selects hold
  rw [startRestore_returns hreachEnded hquiet hstate hpending hready,
    hdurable.restores_iff hnew]
  intro hsupersedes
  rcases hsupersedes 0 hsel with hnewer | hsame
  · rw [hsequence] at hnewer
    exact absurd hnewer (by decide)
  · have hdecoded := ((freshImage_body hold).congr hsame).decode
    rw [hnew.decode] at hdecoded
    exact absurd hdecoded (by decide)

end Swfpm
