import Swfpm.Storage.FramSystem

/-!
# The pending candidate

A checkpoint that is submitted while a commit is under way waits in the pending
buffer.  This module follows it through runs of the service: every operation
either leaves it there, promotes it to the active candidate, replaces it by a
younger one, or discards it.  The last happens exactly when a submission finds
the commit finished, its mailbox taken, and the promotion still to come.
-/

namespace Swfpm

open ByteBuffers StorageRecord

structure PendingCandidate where
  recordType : UInt8
  sequence : UInt32
  candidateVersion : UInt64
  length : ℕ
  buffer : ByteBuffer

namespace StorageService

/-- The candidate that waits in the pending buffer. -/
def pendingCandidate (self : StorageService) : Option PendingCandidate :=
  if self.context.pending then
    some
      { recordType := self.context.pendingType
        sequence := self.context.pendingSequence
        candidateVersion := self.context.pendingVersion
        length := self.context.pendingLength
        buffer := self.context.pendingBuffer }
  else none

/-- A submission in the form in which the pending buffer holds it. -/
def submitted (recordType : UInt8) (sequence : UInt32)
    (encodedBuffer : ByteBuffer) (encodedLength : ℕ)
    (candidateVersion : UInt64) : PendingCandidate :=
  { recordType, sequence, candidateVersion
    length := encodedLength
    buffer := blit zeros 0 encodedBuffer encodedLength }

/-- The candidate is the active one and its commit begins. -/
structure Activates (candidate : PendingCandidate) (service : StorageService) :
    Prop where
  state : service.context.state = .scanA
  recordType : service.context.recordType = candidate.recordType
  sequence : service.context.sequence = candidate.sequence
  version : service.context.candidateVersion = candidate.candidateVersion
  length : service.context.encodedLength = candidate.length
  buffer : service.context.slotBuffer =
    blit zeros 0 candidate.buffer candidate.length

/-- What may become of a pending candidate in one operation. -/
inductive PendingFate (self : StorageService) (candidate : PendingCandidate) :
    ServiceOp → Prop where
  | stays {op : ServiceOp}
      (hstays : (self.applyOp op).pendingCandidate = some candidate) :
      PendingFate self candidate op
  | promoted {nowUs : UInt64} {reply : PortReply}
      (hpromotes : self.Promotes)
      (hactive : Activates candidate (self.applyOp (.tick nowUs reply))) :
      PendingFate self candidate (.tick nowUs reply)
  | replaced {type : UInt8} {sequence : UInt32} {buffer : ByteBuffer}
      {length : ℕ} {version : UInt64}
      (hbusy : isActive self.context.state = true)
      (hnew : (self.applyOp (.submitCheckpoint type sequence buffer length
        version)).pendingCandidate =
          some (submitted type sequence buffer length version)) :
      PendingFate self candidate
        (.submitCheckpoint type sequence buffer length version)

/-- The operation drops no pending candidate. -/
def KeepsPending (self : StorageService) (op : ServiceOp) : Prop :=
  ∀ candidate, self.pendingCandidate = some candidate →
    PendingFate self candidate op

/-- A record type with slots, and an encoding that fits into one of them. -/
def WellFormed (type : UInt8) (length : ℕ) : Prop :=
  slotSizeFor type ≠ 0 ∧ persistCommonHeaderSize ≤ length ∧
    length ≤ slotSizeFor type

/-- A well-formed submission that finds no commit under way and the mailbox
empty, but a candidate still pending. -/
def Overtakes (self : StorageService) : ServiceOp → Prop
  | .submitCheckpoint type _ _ length _ =>
      isTerminal self.context.state = true ∧ self.completionReady = false ∧
        self.context.pending = true ∧ WellFormed type length
  | _ => False

/-- Every step of the run that the operations make from `self`. -/
def EveryStep (P : StorageService → ServiceOp → Prop) :
    StorageService → List ServiceOp → Prop
  | _, [] => True
  | self, op :: ops => P self op ∧ EveryStep P (self.applyOp op) ops

/-! ## Operations that do not touch the pending buffer -/

section Frames

variable {self : StorageService}

theorem pendingCandidate_withBook (self : StorageService) (book : PortBook) :
    (self.withBook book).pendingCandidate = self.pendingCandidate :=
  rfl

theorem pendingCandidate_fill (self : StorageService) (buffer : ReadBuffer)
    (data : ByteBuffer) (size : ℕ) :
    (self.fill buffer data size).pendingCandidate = self.pendingCandidate := by
  cases buffer <;> rfl

theorem pendingCandidate_onIoCompletion (self : StorageService)
    (completion : StorageIoCompletion) :
    (self.onIoCompletion completion).pendingCandidate =
      self.pendingCandidate := by
  obtain ⟨book, hbook⟩ := self.onIoCompletion_eq_withBook completion
  rw [hbook, pendingCandidate_withBook]

theorem pendingCandidate_failIo (self : StorageService)
    (result : StorageIoResult) :
    (self.failIo result).pendingCandidate = self.pendingCandidate := by
  unfold failIo
  split <;> rfl

theorem pendingCandidate_consumeIoCompletion (self : StorageService) :
    self.consumeIoCompletion.pendingCandidate = self.pendingCandidate := by
  unfold consumeIoCompletion
  dsimp only
  split_ifs
  · rfl
  · rw [pendingCandidate_failIo]
    rfl
  · rw [pendingCandidate_failIo]
    rfl
  · rfl

theorem pendingCandidate_presetIoByte (self : StorageService) :
    self.presetIoByte.pendingCandidate = self.pendingCandidate := by
  unfold presetIoByte
  split <;> rfl

theorem pendingCandidate_orFailIo (self : StorageService)
    (request : PortRequest) (successState : StorageServiceState)
    (advanceBytes : ℕ) (nowUs : UInt64) (reply : PortReply) :
    (orFailIo (self.submitIo request successState advanceBytes nowUs
      reply)).1.pendingCandidate = self.pendingCandidate := by
  rcases orFailIo_submitIo_cases self request successState advanceBytes nowUs
    reply with ⟨_, hlate⟩ | ⟨book, _, _, _, _, hrefused⟩ |
      ⟨_, _, _, _, haccepted⟩
  · rw [hlate, pendingCandidate_failIo]
  · rw [hrefused, pendingCandidate_withBook, pendingCandidate_failIo]
  · obtain ⟨book, hbook⟩ := foldl_onIoCompletion_eq_withBook
      (self.armIo successState advanceBytes) reply.completions
    rw [haccepted, hbook, pendingCandidate_withBook]
    rfl

theorem pendingCandidate_chooseTarget (self : StorageService) :
    self.chooseTarget.pendingCandidate = self.pendingCandidate := by
  unfold chooseTarget
  dsimp only
  split <;> rfl

/-- A tick that does not promote leaves the pending buffer alone. -/
theorem pendingCandidate_tick (hpromotes : ¬ self.Promotes) (nowUs : UInt64)
    (reply : PortReply) :
    (self.tick nowUs reply).1.pendingCandidate = self.pendingCandidate := by
  cases hio : self.context.ioPending with
  | true =>
      rw [tick_of_ioPending hio, pendingCandidate_consumeIoCompletion]
  | false =>
      cases hplan : ioPlan self.context with
      | some plan =>
          rw [tick_of_ioPlan hio hplan, pendingCandidate_orFailIo,
            pendingCandidate_presetIoByte]
      | none =>
          unfold ioPlan at hplan
          unfold tick
          dsimp only
          rw [if_neg (by simp [hio]), if_neg (by
            intro h
            simp only [Bool.and_eq_true, Bool.or_eq_true, decide_eq_true_eq,
              Bool.not_eq_true'] at h
            exact hpromotes ⟨hio, h.1.1, h.1.2, h.2⟩)]
          split
          all_goals rename_i hs
          all_goals simp only [hs] at hplan
          case h_1 | h_2 | h_3 | h_4 | h_5 => rfl
          case h_6 | h_7 | h_9 | h_10 | h_15 | h_16 | h_18 | h_19 =>
            cases hplan
          case h_8 => exact pendingCandidate_chooseTarget self
          case h_11 | h_14 | h_17 => split <;> rfl
          case h_12 | h_13 =>
            split
            · rfl
            · rename_i hmore
              rw [if_neg hmore] at hplan
              cases hplan
          case h_20 => rfl

end Frames

/-! ## Promotion and submission -/

section Moves

variable {h : History} {self : StorageService}

theorem prepareActiveCandidate_of_wellFormed {type : UInt8} {length : ℕ}
    (hfits : WellFormed type length) (sequence : UInt32) (buffer : ByteBuffer)
    (version : UInt64) :
    ∃ service, self.prepareActiveCandidate type sequence buffer length version =
        some service ∧ service.context.pending = false ∧
      Activates ⟨type, sequence, version, length, buffer⟩ service := by
  obtain ⟨hsize, hlo, hhi⟩ := hfits
  have hmax : slotSizeFor type ≤ storageMaxSlotSize := by
    unfold slotSizeFor
    split_ifs <;> decide
  refine ⟨_, if_neg ?_, rfl, ⟨rfl, rfl, rfl, rfl, rfl, rfl⟩⟩
  omega

theorem prepareActiveCandidate_eq_none {type : UInt8} {length : ℕ}
    (hmisfit : ¬ WellFormed type length) (sequence : UInt32)
    (buffer : ByteBuffer) (version : UInt64) :
    self.prepareActiveCandidate type sequence buffer length version = none := by
  refine if_pos ?_
  by_contra hguard
  simp only [not_or, not_lt, gt_iff_lt] at hguard
  exact hmisfit ⟨hguard.1, hguard.2.2.1, hguard.2.2.2⟩

/-- The pending candidate was checked when it was buffered, so that its
promotion cannot fail. -/
theorem Accounting.promotes_pending (hA : Accounting h self)
    {candidate : PendingCandidate}
    (hcandidate : self.pendingCandidate = some candidate)
    (hpromotes : self.Promotes) (nowUs : UInt64) (reply : PortReply) :
    Activates candidate (self.tick nowUs reply).1 := by
  obtain ⟨hio, hstate, hpending, hready⟩ := hpromotes
  obtain ⟨hsize, hlo, hhi, _⟩ := hA.pending hpending
  have htick : (self.tick nowUs reply).1 = self.promotePending := by
    unfold StorageService.tick
    dsimp only
    rw [if_neg (by simp [hio]),
      if_pos (by rcases hstate with hs | hs <;> simp [hs, hpending, hready])]
  rw [pendingCandidate, if_pos hpending] at hcandidate
  obtain ⟨service, hprepare, _, hactive⟩ :=
    @prepareActiveCandidate_of_wellFormed
      { self with context := { self.context with pending := false } }
      self.context.pendingType self.context.pendingLength ⟨hsize, hlo, hhi⟩
      self.context.pendingSequence self.context.pendingBuffer
      self.context.pendingVersion
  cases hcandidate
  rw [htick, StorageService.promotePending]
  simp only [hprepare]
  exact hactive

/-- A submission leaves the pending buffer alone, fills it while a commit is
under way, or empties it. -/
theorem submitCheckpoint_pending (self : StorageService) (type : UInt8)
    (sequence : UInt32) (buffer : ByteBuffer) (length : ℕ) (version : UInt64) :
    let after := self.submitCheckpoint type sequence buffer length version
    (after.2 = self ∧ (isTerminal self.context.state = false ∨
        self.completionReady = true ∨ ¬ WellFormed type length)) ∨
      (isActive self.context.state = true ∧
        after.2.pendingCandidate =
          some (submitted type sequence buffer length version)) ∨
      (isTerminal self.context.state = true ∧ self.completionReady = false ∧
        WellFormed type length ∧ after.2.pendingCandidate = none) := by
  dsimp only
  unfold submitCheckpoint
  by_cases hreject :
      (length = 0 || isRestoreState self.context.state : Bool) = true
  · left
    rw [if_pos hreject]
    refine ⟨rfl, ?_⟩
    rcases Bool.or_eq_true_iff.mp hreject with hzero | hrestore
    · right
      right
      rintro ⟨_, hlo, _⟩
      simp only [decide_eq_true_eq] at hzero
      rw [hzero] at hlo
      exact absurd hlo (by decide)
    · left
      revert hrestore
      cases self.context.state <;> decide
  rw [if_neg hreject]
  by_cases hterminal : isTerminal self.context.state = true
  · rw [if_pos hterminal]
    by_cases hready : self.completionReady = true
    · rw [if_pos hready]
      exact Or.inl ⟨rfl, Or.inr (Or.inl hready)⟩
    · rw [if_neg hready]
      by_cases hfits : WellFormed type length
      · obtain ⟨service, hprepare, hpending, _⟩ :=
          @prepareActiveCandidate_of_wellFormed self type length hfits sequence
            buffer version
        right
        right
        refine ⟨hterminal, Bool.eq_false_iff.mpr hready, hfits, ?_⟩
        simp only [hprepare]
        rw [pendingCandidate, hpending]
        rfl
      · rw [prepareActiveCandidate_eq_none hfits]
        exact Or.inl ⟨rfl, Or.inr (Or.inr hfits)⟩
  · rw [if_neg hterminal]
    by_cases hguard : slotSizeFor type = 0 ∨
        length < persistCommonHeaderSize ∨ length > slotSizeFor type
    · rw [if_pos hguard]
      exact Or.inl ⟨rfl, Or.inl (Bool.eq_false_iff.mpr hterminal)⟩
    · rw [if_neg hguard]
      right
      left
      refine ⟨?_, rfl⟩
      rw [isActive, Bool.eq_false_iff.mpr hterminal]
      simp only [Bool.or_eq_true, not_or] at hreject
      rw [Bool.eq_false_iff.mpr hreject.2]
      rfl

/-- A pending candidate excludes a restore. -/
theorem pendingCandidate_startRestoreVolume (self : StorageService) :
    self.startRestoreVolume.2.pendingCandidate = self.pendingCandidate := by
  unfold startRestoreVolume
  split <;> rfl

theorem pendingCandidate_takeRestoredVolume (self : StorageService) :
    self.takeRestoredVolume.2.pendingCandidate = self.pendingCandidate := by
  unfold takeRestoredVolume
  split <;> rfl

theorem pendingCandidate_takeCompletion (self : StorageService) :
    self.takeCompletion.2.pendingCandidate = self.pendingCandidate := by
  unfold takeCompletion
  split <;> rfl

/-- The step lemma: an operation keeps the pending candidate unless it is a
submission that overtakes it. -/
theorem Accounting.keepsPending_iff (hA : Accounting h self) (op : ServiceOp) :
    KeepsPending self op ↔ ¬ self.Overtakes op := by
  have hframe : (self.applyOp op).pendingCandidate = self.pendingCandidate →
      KeepsPending self op := by
    intro hsame candidate hcandidate
    exact .stays (hsame.trans hcandidate)
  cases op with
  | submitCheckpoint type sequence buffer length version =>
      constructor
      · rintro hkeeps ⟨hterminal, hready, hpending, hfits⟩
        have hcandidate : ∃ candidate,
            self.pendingCandidate = some candidate :=
          ⟨_, if_pos hpending⟩
        obtain ⟨candidate, hcandidate⟩ := hcandidate
        have hempty : (self.applyOp (.submitCheckpoint type sequence buffer
            length version)).pendingCandidate = none := by
          rcases submitCheckpoint_pending self type sequence buffer length
            version with ⟨_, hwhy⟩ | ⟨hactive, _⟩ | ⟨_, _, _, hnone⟩
          · rcases hwhy with hwhy | hwhy | hwhy
            · rw [hterminal] at hwhy
              cases hwhy
            · rw [hready] at hwhy
              cases hwhy
            · exact absurd hfits hwhy
          · rw [isActive, hterminal] at hactive
            cases hactive
          · exact hnone
        cases hkeeps candidate hcandidate with
        | stays hstays =>
            rw [hempty] at hstays
            cases hstays
        | replaced _ hnew =>
            rw [hempty] at hnew
            cases hnew
      · intro hordered
        rcases submitCheckpoint_pending self type sequence buffer length
          version with ⟨hsame, _⟩ | ⟨hactive, hnew⟩ |
            ⟨hterminal, hready, hfits, _⟩
        · exact hframe (congrArg pendingCandidate hsame)
        · exact fun candidate _ => .replaced hactive hnew
        · intro candidate hcandidate
          have hpending : self.context.pending = true := by
            by_contra hfree
            rw [pendingCandidate, if_neg hfree] at hcandidate
            cases hcandidate
          exact absurd ⟨hterminal, hready, hpending, hfits⟩ hordered
  | tick nowUs reply =>
      refine ⟨fun _ => id, fun _ => ?_⟩
      by_cases hpromotes : self.Promotes
      · intro candidate hcandidate
        exact .promoted hpromotes
          (hA.promotes_pending hcandidate hpromotes nowUs reply)
      · exact hframe (pendingCandidate_tick hpromotes nowUs reply)
  | onIoCompletion completion =>
      exact ⟨fun _ => id, fun _ =>
        hframe (pendingCandidate_onIoCompletion self completion)⟩
  | takeCompletion =>
      exact ⟨fun _ => id, fun _ =>
        hframe (pendingCandidate_takeCompletion self)⟩
  | startRestoreVolume =>
      exact ⟨fun _ => id, fun _ =>
        hframe (pendingCandidate_startRestoreVolume self)⟩
  | takeRestoredVolume =>
      exact ⟨fun _ => id, fun _ =>
        hframe (pendingCandidate_takeRestoredVolume self)⟩
  | portFill buffer data size =>
      exact ⟨fun _ => id, fun _ =>
        hframe (pendingCandidate_fill self buffer data size)⟩

end Moves

/-! ## Runs -/

theorem Accounting.everyStep_keepsPending_iff {h : History}
    {self : StorageService} (hA : Accounting h self) (ops : List ServiceOp) :
    EveryStep KeepsPending self ops ↔
      EveryStep (fun self op => ¬ self.Overtakes op) self ops := by
  induction ops generalizing h self with
  | nil => exact Iff.rfl
  | cons op ops ih =>
      exact and_congr (hA.keepsPending_iff op) (ih (hA.applyOp op))

/-- A run keeps every pending candidate until it is promoted or replaced by a
younger pending one exactly when no submission in it overtakes one. -/
theorem pending_kept_iff {ioTimeoutUs : UInt32} {bound : Bool}
    {self : StorageService}
    (hinit : StorageService.init ioTimeoutUs bound = some self)
    (ops : List ServiceOp) :
    EveryStep KeepsPending self ops ↔
      EveryStep (fun self op => ¬ self.Overtakes op) self ops :=
  (Accounting.init hinit).everyStep_keepsPending_iff ops

/-- A volume commit is under way, a configuration waits, the commit fails, its
completion is taken, and the promotion follows. -/
theorem pending_kept_promoted :
    ∃ self, init 1000 true = some self ∧
      EveryStep KeepsPending self
        [.submitCheckpoint persistRecordVolume 5 zeros 64 7,
          .submitCheckpoint persistRecordConfig 2 zeros 64 12,
          .tick 0 ⟨[], .busy⟩, .takeCompletion, .tick 0 ⟨[], .busy⟩] := by
  obtain ⟨self, hinit⟩ : ∃ self, init 1000 true = some self := ⟨_, rfl⟩
  refine ⟨self, hinit, (pending_kept_iff hinit _).mpr ?_⟩
  cases hinit
  refine And.intro ?_ (And.intro ?_ ⟨id, id, id, trivial⟩)
  · rintro ⟨_, _, hpending, _⟩
    cases hpending
  · rintro ⟨hterminal, _⟩
    cases hterminal

/-- The same run with a calibration submitted before the promotion: the
configuration is lost. -/
theorem pending_not_kept_overtaken :
    ∃ self, init 1000 true = some self ∧
      ¬ EveryStep KeepsPending self
        [.submitCheckpoint persistRecordVolume 5 zeros 64 7,
          .submitCheckpoint persistRecordConfig 2 zeros 64 12,
          .tick 0 ⟨[], .busy⟩, .takeCompletion,
          .submitCheckpoint persistRecordCalibration 3 zeros 96 20] := by
  refine ⟨_, rfl, ?_⟩
  rintro ⟨_, _, _, _, hkeeps, _⟩
  cases hkeeps _ rfl with
  | stays hstays => cases hstays
  | replaced hbusy _ => cases hbusy

end StorageService
end Swfpm
