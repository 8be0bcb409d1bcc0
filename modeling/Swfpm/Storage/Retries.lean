import Swfpm.Storage.Attempts

/-!
# Retries that lose data, and retries that do not

A commit can fail with its record in place, when the commit byte cannot be read
back.  What a restore finds after any run of attempts, and whether the next
attempt can succeed, depends on what was stored after that.
-/

namespace Swfpm

open ByteBuffers StorageRecord StorageService

/-! ## A lost acknowledgement -/

section Lost

variable {g : CommitGoal} {s : FramSystem}

/-- The states of a commit up to the write of its commit byte. -/
def beforeVerify : StorageServiceState → Bool
  | .scanA | .scanB | .prepareTarget | .invalidate | .verifyInvalidate
  | .checkInvalidate | .writeBody | .readbackBody | .verifyBody | .commit => true
  | _ => false

theorem beforeVerify_successor {state next : StorageServiceState}
    (hbefore : beforeVerify state = true)
    (hnext : ioSuccessor state = some next) :
    next = .verifyCommit ∨ beforeVerify next = true := by
  cases state with
  | scanA | scanB | invalidate | verifyInvalidate | writeBody | readbackBody =>
      cases hnext
      exact Or.inr rfl
  | commit =>
      cases hnext
      exact Or.inl rfl
  | prepareTarget | checkInvalidate | verifyBody => cases hnext
  | _ => cases hbefore

theorem beforeVerify_isWorking {state : StorageServiceState}
    (hbefore : beforeVerify state = true) : isWorking state = true := by
  cases state <;> first | rfl | cases hbefore

/-- A turn without a port operation stays before the commit byte, unless the
commit fails. -/
theorem beforeVerify_tick {service : StorageService} (nowUs : UInt64)
    (reply : PortReply) (hio : service.context.ioPending = false)
    (hpending : service.context.pending = false)
    (hplan : ioPlan service.context = none)
    (hbefore : beforeVerify service.context.state = true) :
    beforeVerify (service.tick nowUs reply).1.context.state = true ∨
      (service.tick nowUs reply).1.context.state = .failed := by
  have hfinish : ∀ status, status ≠ .ok →
      (service.finishCommit status).context.state = .failed :=
    fun status hstatus => if_neg hstatus
  unfold tick
  dsimp only
  rw [if_neg (by simp [hio]), if_neg (by simp [hpending])]
  cases hs : service.context.state with
  | scanA | scanB | invalidate | verifyInvalidate | commit =>
      simp [ioPlan, hs] at hplan
  | prepareTarget =>
      dsimp only
      unfold chooseTarget
      dsimp only
      split
      · right
        exact if_neg (by split <;> simp)
      · exact Or.inl rfl
  | checkInvalidate =>
      dsimp only
      split
      · exact Or.inr (hfinish _ (by decide))
      · exact Or.inl rfl
  | writeBody | readbackBody =>
      have hdone : service.context.writeOffset ≥
          service.context.slotSize - 1 := by
        by_contra hmore
        simp [ioPlan, hs, hmore] at hplan
      dsimp only
      rw [if_pos hdone]
      exact Or.inl rfl
  | verifyBody =>
      dsimp only
      split
      · exact Or.inr (hfinish _ (by decide))
      · exact Or.inl rfl
  | _ =>
      rw [hs] at hbefore
      cases hbefore

/-- On a working port a commit that has a target comes to the verification of
its commit byte. -/
theorem reaches_verifyCommit (hquiet : Quiet s)
    (hruns : CommitRuns g s.service s.image)
    (hbefore : beforeVerify s.service.context.state = true) :
    ∃ final, WorkingRun s final ∧ Quiet final ∧
      final.service.context.state = .verifyCommit ∧
      CommitRuns g final.service final.image := by
  generalize hn : rank s.service.context = n
  induction n using Nat.strong_induction_on generalizing s with
  | h n ih =>
      cases hplan : ioPlan s.service.context with
      | some plan =>
          obtain ⟨book, hfree, hround⟩ := working_round hquiet hplan
          have hdisturb := fillService_disturbs plan.request
            s.service.presetIoByte s.image
          have hlower : rank ((plan.request.fillService
              s.service.presetIoByte s.image).land plan.successState
                plan.advanceBytes).context < n :=
            hn ▸ rank_land hplan (keeps_disturbs hdisturb).1
              (keeps_disturbs hdisturb).2
          have hlanded := (commitRuns_protocol g).book book
            ((commitRuns_protocol g).land hplan hruns)
          rcases beforeVerify_successor hbefore (ioPlan_ioSuccessor hplan) with
            hverify | hearly
          · exact ⟨_, hround, ⟨hfree, rfl⟩, hverify, hlanded⟩
          · let next : FramSystem :=
              ⟨((plan.request.fillService s.service.presetIoByte s.image).land
                plan.successState plan.advanceBytes).withBook book,
                plan.request.storeImage s.image, none⟩
            obtain ⟨final, hrun, hfinal⟩ := ih _ hlower (s := next)
              ⟨hfree, rfl⟩ hlanded hearly rfl
            exact ⟨final, hround.trans hrun, hfinal⟩
      | none =>
          have htick := tick_of_no_ioPlan hquiet.io hplan 0 ⟨[], .accepted⟩
          have hlower := rank_tick 0 ⟨[], .accepted⟩ hquiet.io hplan
            (beforeVerify_isWorking hbefore)
          have hnext := (commitRuns_protocol g).quiet 0 ⟨[], .accepted⟩
            hquiet.io hplan hruns
          have hearly := (beforeVerify_tick 0 ⟨[], .accepted⟩ hquiet.io
            hruns.phase.pending hplan hbefore).resolve_right hnext.alive
          obtain ⟨final, hrun, hfinal⟩ := ih _ (hn ▸ hlower)
            (s := { s with service := (s.service.tick 0 ⟨[], .accepted⟩).1 })
            ⟨htick.2, hquiet.out⟩ hnext hearly rfl
          exact ⟨final, hrun.head (.tick 0 ⟨[], .accepted⟩
            (fun _ => clockFits_zero _) htick.1), hfinal⟩

/-- The port is busy when the commit byte is to be read back: the commit fails
with its record in place. -/
theorem verification_refused (hquiet : Quiet s)
    (hstate : s.service.context.state = .verifyCommit) :
    ∃ ended, FramStep .faulty s ended ∧ ended.image = s.image ∧
      ended.service.completionReady = true ∧
      ended.service.lastCompletion.status ≠ .ok := by
  have hpreset : s.service.presetIoByte = s.service := by
    simp only [presetIoByte, hstate]
  have hplan : ioPlan s.service.context =
      some ⟨.read (commitByteAddress s.service.context) .ioByte 1,
        .checkCommit, 0⟩ := by
    simp only [ioPlan, hstate]
  have htick := tick_of_ioPlan hquiet.io hplan 0 ⟨[], .busy⟩
  rw [hpreset] at htick
  have hfail : s.service.failIo .busError = s.service.finishCommit .ioError := by
    unfold failIo
    rw [if_neg (by simp [hstate, isRestoreState])]
    rfl
  rcases orFailIo_submitIo_cases s.service
    (.read (commitByteAddress s.service.context) .ioByte 1) .checkCommit 0 0
      ⟨[], .busy⟩ with
    ⟨hlate, _⟩ | ⟨book, call, hreply, _, _, hrefused⟩ | ⟨_, hno, _⟩
  · exact absurd (clockFits_zero _) hlate
  · rw [hrefused] at htick
    have hstep : FramStep .faulty s
        ⟨(s.service.tick 0 ⟨[], .busy⟩).1, s.image, none⟩ :=
      .refused 0 ⟨[], .busy⟩ call _ _ rfl hreply (by rw [htick])
        (PortRequest.Disturbs.refl _ _ _)
    refine ⟨_, hstep, rfl, ?_, ?_⟩
    · rw [htick, hfail]
      rfl
    · rw [htick, hfail]
      simp [withBook, finishCommit]
  · cases hno

end Lost

/-! ## Attempts that exist -/

section Exists

variable {c : CheckpointSystem} {candidate : ByteBuffer}

/-- On a pair with a target, any candidate can be committed. -/
theorem exists_attempt_ok (hrest : c.AtRest)
    (hencoded : encodeVolume c.nextSequence c.nextRecord = some candidate)
    (htarget : (volumeGoal candidate c.image).target ≠ slotIndexNone) :
    ∃ attempt : CheckpointAttempt c, attempt.Ends (.confirmed c.nextRecord) ∧
      attempt.after.accumulator = c.accumulator.onCheckpointSuccess
        c.accumulator.prepareCheckpoint := by
  obtain ⟨⟨_, hreach⟩, hterminal, htaken⟩ := hrest
  have hstart : WorkingRun (c.submitted candidate) _ := .refl
  obtain ⟨ended, hrun, hidle⟩ :=
    (volumeCommit_works hreach hterminal htaken htarget hstart).2
  obtain ⟨payload, htake, hok⟩ :=
    (volumeCommit_works hreach hterminal htaken htarget hrun).1 hidle
  exact ⟨⟨candidate, [], ended, payload, hencoded, hrun.framRun, htake⟩,
    .confirmed hok, if_pos hok⟩

/-- It can also be stored without the caller being told, while the accumulator
goes on. -/
theorem exists_attempt_unconfirmed (hrest : c.AtRest)
    (hencoded : encodeVolume c.nextSequence c.nextRecord = some candidate)
    (htarget : (volumeGoal candidate c.image).target ≠ slotIndexNone)
    (flows : List FlowResult) :
    ∃ attempt : CheckpointAttempt c, attempt.Ends (.unconfirmed c.nextRecord) ∧
      attempt.after.accumulator = c.accumulator.meter flows := by
  obtain ⟨⟨_, hreach⟩, hterminal, htaken⟩ := hrest
  obtain ⟨_, hstate, hpend, hphase⟩ := CommitPhase.of_submitVolume hreach
    hterminal htaken c.image c.nextSequence candidate
    c.accumulator.prepareCheckpoint.stateVersion
  obtain ⟨verified, hrun, hquiet, hverify, hruns⟩ :=
    reaches_verifyCommit (s := c.submitted candidate) ⟨hpend, rfl⟩
      ⟨hphase, htarget, hstate ▸ nofun⟩ (hstate ▸ rfl)
  have hdurable : (volumeGoal candidate c.image).Durable verified.image := by
    cases hruns.phase with
    | verifyCommit _ _ himage => exact himage
    | complete _ _ _ _ himage => exact himage
    | failed hs | scanA hs | scanB hs | prepareTarget hs | invalidate hs
    | verifyInvalidate hs | checkInvalidate hs | writeBody hs
    | readbackBody hs | verifyBody hs | commit hs | checkCommit hs =>
        rw [hverify] at hs
        cases hs
  obtain ⟨ended, hstep, himage, hready, hfailed⟩ :=
    verification_refused hquiet hverify
  refine ⟨⟨candidate, flows, ended, ended.service.lastCompletion, hencoded,
    hrun.framRun.tail hstep, by rw [takeCompletion, if_pos hready]⟩,
    .unconfirmed hfailed ?_, if_neg hfailed⟩
  rw [CheckpointAttempt.Stored, himage]
  exact hdurable

theorem exists_encoded (c : CheckpointSystem)
    (hforward : c.accumulator.forwardRem = 0)
    (hreverse : c.accumulator.reverseRem = 0) :
    ∃ slot, encodeVolume c.nextSequence c.nextRecord = some slot := by
  refine exists_encodeVolume c.nextSequence ?_ ?_
  · rw [show c.nextRecord.forwardRemainder = c.accumulator.forwardRem from rfl,
      hforward]
    decide
  · rw [show c.nextRecord.reverseRemainder = c.accumulator.reverseRem from rfl,
      hreverse]
    decide

/-- A fresh accumulator over a cleared memory. -/
theorem exists_cleared :
    ∃ start : CheckpointSystem, start.AtRest ∧
      start.accumulator = VolumeAccumulator.init none ∧
      Shows start.image start.sequence (.settled none) := by
  obtain ⟨service, h, hreach, hterminal, htaken⟩ := exists_resting
  have hempty : ∀ s, volumeSlot zeros s (slotVolumeSize - 1) ≠
      persistCommitValid := fun _ => show (0 : UInt8) ≠ 0xA5 by decide
  have hnone : (volumeSelection zeros).status = .none :=
    abSlotSelect_of_neither (slotReason_of_uncommitted (hempty 0)).2
      (slotReason_of_uncommitted (hempty 1)).2
  exact ⟨⟨.init none, service, zeros⟩, ⟨⟨h, hreach⟩, hterminal, htaken⟩, rfl,
    hnone, (unprotected_iff (Or.inl rfl)).mpr
      ⟨(slotReason_of_uncommitted (hempty 0)).1,
        (slotReason_of_uncommitted (hempty 1)).1⟩⟩

/-- Its first attempt succeeds, and the next candidate can be encoded. -/
theorem exists_confirmed :
    ∃ (start c : CheckpointSystem) (r : VolumeRecord) (candidate : ByteBuffer),
      start.AtRest ∧ Shows start.image start.sequence (.settled none) ∧
        CheckpointRun start [.confirmed r] c ∧
          encodeVolume c.nextSequence c.nextRecord = some candidate := by
  obtain ⟨start, hrest, hinit, hshows⟩ := exists_cleared
  obtain ⟨first, hfirst⟩ := exists_encoded start (hinit ▸ rfl) (hinit ▸ rfl)
  have hcalm := hshows.calm (by simp)
  obtain ⟨done, hdone, hafter⟩ := exists_attempt_ok hrest hfirst
    (target_of_unprotected (encodeVolume_body hfirst).1 hcalm.1 hcalm.2)
  rw [hinit] at hafter
  obtain ⟨candidate, hcandidate⟩ := exists_encoded done.after (hafter ▸ rfl)
    (hafter ▸ rfl)
  exact ⟨start, done.after, start.nextRecord, candidate, hrest, hshows,
    CheckpointRun.start.attempt done hdone, hcandidate⟩

/-- The volume keeps growing after an attempt that stored its record and
failed, and the next attempt succeeds. -/
theorem exists_spoiled :
    ∃ (start c : CheckpointSystem) (first second : VolumeRecord),
      start.AtRest ∧ Shows start.image start.sequence (.settled none) ∧
        CheckpointRun start [.unconfirmed first, .confirmed second] c ∧
          second ≠ first := by
  obtain ⟨start, hrest, hinit, hshows⟩ := exists_cleared
  obtain ⟨first, hfirst⟩ := exists_encoded start (hinit ▸ rfl) (hinit ▸ rfl)
  have hcalm := hshows.calm (by simp)
  obtain ⟨lost, hlost, hmetered⟩ := exists_attempt_unconfirmed hrest hfirst
    (target_of_unprotected (encodeVolume_body hfirst).1 hcalm.1 hcalm.2)
    [Meter.productionSample 1 0]
  rw [hinit] at hmetered
  have hrest' := lost.after_atRest hrest
  have hshows' := lost.shows hrest hlost hshows
  obtain ⟨second, hsecond⟩ := exists_encoded lost.after
    (hmetered ▸ by decide +kernel) (hmetered ▸ by decide +kernel)
  have hcalm' := hshows'.calm (by simp [RetryLedger.enter])
  obtain ⟨done, hdone, _⟩ := exists_attempt_ok hrest' hsecond
    (target_of_unprotected (encodeVolume_body hsecond).1 hcalm'.1 hcalm'.2)
  refine ⟨start, done.after, start.nextRecord, lost.after.nextRecord, hrest,
    hshows, (CheckpointRun.start.attempt lost hlost).attempt done hdone, ?_⟩
  rw [CheckpointSystem.nextRecord, CheckpointSystem.nextRecord, hmetered, hinit]
  decide +kernel

end Exists

/-! ## What a restore finds -/

section Restored

variable {start c : CheckpointSystem} {fates : List (AttemptFate VolumeRecord)}
  {last : Option VolumeRecord}

/-- A run spoils the pair exactly when an attempt stored another record while
one lingered: an attempt had stored its record and failed, and none that
succeeded had come in between. -/
theorem CheckpointRun.conflict_iff (hrest : start.AtRest)
    (hshows : Shows start.image start.sequence (.settled last))
    (hrun : CheckpointRun start fates c) :
    (volumeSelection c.image).status = .sequenceConflict ↔
      ∃ before fate after record other, fates = before ++ fate :: after ∧
        RetryLedger.Lingers before record ∧ fate.stored? = some other ∧
          other ≠ record := by
  have hledger : (RetryLedger.settled last).enterAll fates = .conflict ↔ _ :=
    RetryLedger.enterAll_eq_conflict_iff
  have hreached := hrun.shows hrest hshows
  rw [← hledger]
  constructor
  · intro hconflict
    by_contra hcalm
    exact (hreached.calm hcalm).2 hconflict
  · intro hconflict
    rw [hconflict] at hreached
    exact hreached

/-- A lost acknowledgement, one more flow result, and an attempt that
succeeds. -/
theorem conflict_iff_bench :
    ∃ (start c : CheckpointSystem) (first second : VolumeRecord),
      CheckpointRun start [.unconfirmed first, .confirmed second] c ∧
        (volumeSelection c.image).status = .sequenceConflict := by
  obtain ⟨start, c, first, second, hrest, hshows, hrun, hne⟩ := exists_spoiled
  exact ⟨start, c, first, second, hrun, (hrun.conflict_iff hrest hshows).mpr
    ⟨[.unconfirmed first], .confirmed second, [], first, second, rfl,
      ⟨[], [], rfl, by simp⟩, rfl, hne⟩⟩

/-- In every other run, a restore finds the record that was stored last, under
the sequence of the last success or the one after it. -/
theorem CheckpointRun.restores_newest (hrest : start.AtRest)
    (hshows : Shows start.image start.sequence (.settled last))
    (hrun : CheckpointRun start fates c)
    (hcalm : (volumeSelection c.image).status ≠ .sequenceConflict)
    {r : VolumeRecord}
    (hnewest : (fates.filterMap AttemptFate.stored?).getLast?.or last = some r) :
    Restores (restoreOutcome c.image) c.sequence r ∨
      Restores (restoreOutcome c.image) (c.sequence + 1) r := by
  have hreached := hrun.shows hrest hshows
  have hledger : (RetryLedger.settled last).enterAll fates ≠ .conflict := by
    intro hconflict
    rw [hconflict] at hreached
    exact hcalm hreached
  have hrecord := RetryLedger.newest_enterAll hledger
  rw [show (RetryLedger.settled last).newest = last from rfl, hnewest] at hrecord
  generalize (RetryLedger.settled last).enterAll fates = ledger at *
  cases ledger with
  | settled record =>
      obtain rfl : record = some r := hrecord
      obtain ⟨⟨_, hsel, hbody⟩, _⟩ := hreached
      exact Or.inl (restoreOutcome_of_selects hsel hbody)
  | ahead record =>
      obtain rfl : record = r := Option.some.inj hrecord
      obtain ⟨⟨_, hsel, hbody⟩, _⟩ := hreached
      exact Or.inr (restoreOutcome_of_selects hsel hbody)
  | conflict => exact absurd rfl hledger

theorem restores_newest_bench :
    ∃ (start c : CheckpointSystem) (r : VolumeRecord),
      CheckpointRun start [.confirmed r] c ∧
        (Restores (restoreOutcome c.image) c.sequence r ∨
          Restores (restoreOutcome c.image) (c.sequence + 1) r) := by
  obtain ⟨start, c, r, _, hrest, hshows, hrun, _⟩ := exists_confirmed
  have hcalm := (hrun.shows hrest hshows).calm (by simp [RetryLedger.enter])
  exact ⟨start, c, r, hrun, hrun.restores_newest hrest hshows hcalm.2 rfl⟩

/-- On a working port the next attempt ends, and whenever it ends it
succeeded. -/
def CheckpointSystem.NextSucceeds (c : CheckpointSystem)
    (candidate : ByteBuffer) : Prop :=
  (∃ ended, WorkingRun (c.submitted candidate) ended ∧ CommitEnds ended .ok) ∧
    ∀ reached, WorkingRun (c.submitted candidate) reached →
      isWorking reached.service.context.state = false → CommitEnds reached .ok

/-- The port can be relied on again after any run but one that spoiled the
pair; there it is of no use any more. -/
theorem CheckpointRun.next_succeeds_iff (hrest : start.AtRest)
    (hshows : Shows start.image start.sequence (.settled last))
    (hrun : CheckpointRun start fates c) {candidate : ByteBuffer}
    (hencoded : encodeVolume c.nextSequence c.nextRecord = some candidate) :
    c.NextSucceeds candidate ↔
      (volumeSelection c.image).status ≠ .sequenceConflict := by
  have hbody := (encodeVolume_body hencoded).1
  obtain ⟨⟨h, hreach⟩, hterminal, htaken⟩ := hrun.atRest hrest
  constructor
  · rintro ⟨⟨ended, hworks, hends⟩, _⟩ hconflict
    have haccepted := (CommitPhase.of_submitVolume hreach hterminal htaken
      c.image c.nextSequence candidate
      c.accumulator.prepareCheckpoint.stateVersion).1
    obtain ⟨_, _, _, _, _, hdurable⟩ :=
      commitEnds_durable hreach haccepted hworks.framRun hends
    exact hdurable.target (target_of_conflict hbody hconflict)
  · intro hcalm
    have hledger : (RetryLedger.settled last).enterAll fates ≠ .conflict := by
      intro hconflict
      have hreached := hrun.shows hrest hshows
      rw [hconflict] at hreached
      exact hcalm hreached
    have hfree := ((hrun.shows hrest hshows).calm hledger).1
    have htarget := target_of_unprotected hbody hfree hcalm
    have hworks : ∀ reached, WorkingRun (c.submitted candidate) reached →
        (isWorking reached.service.context.state = false →
            CommitEnds reached .ok) ∧
          ∃ ended, WorkingRun reached ended ∧
            isWorking ended.service.context.state = false :=
      fun reached hreached =>
        volumeCommit_works hreach hterminal htaken htarget hreached
    obtain ⟨ended, hends, hidle⟩ := (hworks _ .refl).2
    exact ⟨⟨ended, hends, (hworks ended hends).1 hidle⟩,
      fun reached hreached => (hworks reached hreached).1⟩

theorem next_succeeds_iff_bench :
    ∃ (start c : CheckpointSystem) (r : VolumeRecord) (candidate : ByteBuffer),
      CheckpointRun start [.confirmed r] c ∧
        (c.NextSucceeds candidate ↔
          (volumeSelection c.image).status ≠ .sequenceConflict) := by
  obtain ⟨start, c, r, candidate, hrest, hshows, hrun, hencoded⟩ :=
    exists_confirmed
  exact ⟨start, c, r, candidate, hrun,
    hrun.next_succeeds_iff hrest hshows hencoded⟩

end Restored

end Swfpm
