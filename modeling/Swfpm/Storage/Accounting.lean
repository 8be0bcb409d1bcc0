import Swfpm.Storage.Service

/-!
# Completion accounting

Runs of the storage service under an arbitrary port, with a history that
records which candidates became active and which completion payloads were
taken.  The invariant `Accounting` says that the two agree at every moment:
what was activated has been taken, lies in the mailbox, or is being written.
-/

namespace Swfpm

open ByteBuffers StorageRecord

/-! ## Runs and their history -/

inductive ServiceOp where
  | submitCheckpoint (recordType : UInt8) (sequence : UInt32)
      (encodedBuffer : ByteBuffer) (encodedLength : ℕ)
      (candidateVersion : UInt64)
  | tick (nowUs : UInt64) (reply : PortReply)
  | onIoCompletion (completion : StorageIoCompletion)
  | takeCompletion
  | startRestoreVolume
  | takeRestoredVolume
  | portFill (buffer : ReadBuffer) (data : ByteBuffer) (size : ℕ)

/-- What a caller can tell a candidate by. -/
structure CandidateId where
  requestId : UInt64
  candidateVersion : UInt64
  recordType : UInt8
  recordSequence : UInt32
  deriving DecidableEq, Repr

def StorageCompletionPayload.candidateId (payload : StorageCompletionPayload) :
    CandidateId :=
  ⟨payload.requestId, payload.candidateVersion, payload.recordType,
    payload.recordSequence⟩

/-- The arguments of a submission that waits in the pending buffer. -/
structure BufferedCandidate where
  candidateVersion : UInt64
  recordType : UInt8
  recordSequence : UInt32
  deriving DecidableEq, Repr

structure History where
  buffered : Option BufferedCandidate
  activated : List CandidateId
  taken : List StorageCompletionPayload

namespace StorageService

def applyOp (self : StorageService) : ServiceOp → StorageService
  | .submitCheckpoint type sequence buffer length version =>
      (self.submitCheckpoint type sequence buffer length version).2
  | .tick nowUs reply => (self.tick nowUs reply).1
  | .onIoCompletion completion => self.onIoCompletion completion
  | .takeCompletion => self.takeCompletion.2
  | .startRestoreVolume => self.startRestoreVolume.2
  | .takeRestoredVolume => self.takeRestoredVolume.2
  | .portFill buffer data size => self.fill buffer data size

/-- The tick promotes the pending candidate. -/
def Promotes (self : StorageService) : Prop :=
  self.context.ioPending = false ∧
    (self.context.state = .complete ∨ self.context.state = .failed) ∧
    self.context.pending = true ∧ self.completionReady = false

instance (self : StorageService) : Decidable self.Promotes :=
  inferInstanceAs (Decidable (_ ∧ _))

/-- A submission answered with `STORAGE_OK` activates its candidate, one
that finds the service at work is buffered, a promotion activates what is
buffered, and a successful take moves one payload to the caller. -/
def recordOp (self : StorageService) (h : History) : ServiceOp → History
  | .submitCheckpoint type sequence buffer length version =>
      match (self.submitCheckpoint type sequence buffer length version).1 with
      | .ok =>
          { h with
            activated :=
              h.activated ++ [⟨self.requestCount + 1, version, type, sequence⟩] }
      | .busy =>
          if isTerminal self.context.state then h
          else { h with buffered := some ⟨version, type, sequence⟩ }
      | _ => h
  | .tick _ _ =>
      if self.Promotes then
        { h with
          buffered := none
          activated :=
            h.activated ++ h.buffered.toList.map fun candidate =>
              ⟨self.requestCount + 1, candidate.candidateVersion,
                candidate.recordType, candidate.recordSequence⟩ }
      else h
  | .takeCompletion =>
      { h with taken := h.taken ++ self.takeCompletion.1.toList }
  | _ => h

/-- Runs from `StorageService_Init`, with their history. -/
inductive Reachable : StorageService → History → Prop where
  | init {ioTimeoutUs : UInt32} {bound : Bool} {self : StorageService}
      (hinit : StorageService.init ioTimeoutUs bound = some self) :
      Reachable self ⟨none, [], []⟩
  | step {self : StorageService} {h : History} (hrun : Reachable self h)
      (op : ServiceOp) : Reachable (self.applyOp op) (self.recordOp h op)

/-! ## The invariant -/

end StorageService

/-- A commit is under way. -/
def isActive (state : StorageServiceState) : Bool :=
  !isTerminal state && !isRestoreState state

/-- Where a successful port operation leads. -/
def ioSuccessor : StorageServiceState → Option StorageServiceState
  | .scanA => some .scanB
  | .scanB => some .prepareTarget
  | .invalidate => some .verifyInvalidate
  | .verifyInvalidate => some .checkInvalidate
  | .writeBody => some .writeBody
  | .readbackBody => some .readbackBody
  | .commit => some .verifyCommit
  | .verifyCommit => some .checkCommit
  | .restoreScanA => some .restoreScanB
  | .restoreScanB => some .restoreDecode
  | _ => none

/-- States in which the service works on its own account: a commit, or a
restore that has not ended. -/
def isWorking (state : StorageServiceState) : Bool :=
  isActive state || state = .restoreScanA || state = .restoreScanB ||
    state = .restoreDecode

theorem ioSuccessor_isActive {state next : StorageServiceState}
    (h : ioSuccessor state = some next) : isActive next = isActive state := by
  cases state <;> cases h <;> rfl

theorem ioSuccessor_isWorking {state next : StorageServiceState}
    (h : ioSuccessor state = some next) :
    isWorking state = true ∧ isWorking next = true := by
  cases state <;> cases h <;> exact ⟨rfl, rfl⟩

theorem isTerminal_of_isWorking {state : StorageServiceState}
    (h : isWorking state = true) : isTerminal state = false := by
  revert h
  cases state <;> decide

theorem isWorking_of_isActive {state : StorageServiceState}
    (h : isActive state = true) : isWorking state = true := by
  simp [isWorking, h]

namespace StorageService

/-- The candidate in the context of the service. -/
def candidateId (self : StorageService) : CandidateId :=
  ⟨self.context.requestId, self.context.candidateVersion,
    self.context.recordType, self.context.sequence⟩

/-- The payload in the mailbox, as a list. -/
def mailbox (self : StorageService) : List CandidateId :=
  if self.completionReady then [self.lastCompletion.candidateId] else []

/-- The candidate being written, as a list. -/
def inProgress (self : StorageService) : List CandidateId :=
  if isActive self.context.state then [self.candidateId] else []

structure Accounting (h : History) (service : StorageService) : Prop where
  io : service.context.ioPending = true →
    ioSuccessor service.context.state = some service.context.ioSuccessState
  token : service.context.ioPending = true →
    service.context.ioToken.ownerGeneration = service.generation
  pending : service.context.pending = true →
    slotSizeFor service.context.pendingType ≠ 0 ∧
      persistCommonHeaderSize ≤ service.context.pendingLength ∧
      service.context.pendingLength ≤ slotSizeFor service.context.pendingType ∧
      h.buffered = some ⟨service.context.pendingVersion,
        service.context.pendingType, service.context.pendingSequence⟩
  ready : service.completionReady = true →
    service.context.state = .complete ∨ service.context.state = .failed
  restore : service.restoreReady = true →
    service.context.state = .restoreComplete ∨
      service.context.state = .restoreFailed
  balance : h.activated =
    h.taken.map StorageCompletionPayload.candidateId ++ service.mailbox ++
      service.inProgress

/-! ## What the building blocks preserve -/

section Preserved

variable {h : History} {self : StorageService}

theorem Accounting.ready_eq_false (hA : Accounting h self)
    (hw : isWorking self.context.state = true) :
    self.completionReady = false ∧ self.restoreReady = false := by
  constructor
  · by_contra hready
    rcases hA.ready (by simpa using hready) with hs | hs <;>
      rw [hs] at hw <;> exact absurd hw (by decide)
  · by_contra hready
    rcases hA.restore (by simpa using hready) with hs | hs <;>
      rw [hs] at hw <;> exact absurd hw (by decide)

/-- No operation is in flight between two commits. -/
theorem Accounting.ioPending_of_terminal (hA : Accounting h self)
    (hterminal : isTerminal self.context.state = true) :
    self.context.ioPending = false := by
  by_contra hp
  have hw := (ioSuccessor_isWorking (hA.io (by simpa using hp))).1
  rw [isTerminal_of_isWorking hw] at hterminal
  cases hterminal

theorem Accounting.onIoCompletion (hA : Accounting h self)
    (completion : StorageIoCompletion) :
    Accounting h (self.onIoCompletion completion) := by
  unfold StorageService.onIoCompletion
  dsimp only
  split <;>
    exact ⟨hA.io, hA.token, hA.pending, hA.ready, hA.restore, hA.balance⟩

theorem Accounting.foldl_onIoCompletion (hA : Accounting h self)
    (completions : List StorageIoCompletion) :
    Accounting h (completions.foldl StorageService.onIoCompletion self) := by
  induction completions generalizing self with
  | nil => exact hA
  | cons completion rest ih => exact ih (hA.onIoCompletion completion)

theorem Accounting.fill (hA : Accounting h self) (buffer : ReadBuffer)
    (data : ByteBuffer) (size : ℕ) :
    Accounting h (self.fill buffer data size) := by
  cases buffer <;>
    exact ⟨hA.io, hA.token, hA.pending, hA.ready, hA.restore, hA.balance⟩

theorem Accounting.armIo (hA : Accounting h self)
    {successState : StorageServiceState} (advanceBytes : ℕ)
    (hio : ioSuccessor self.context.state = some successState) :
    Accounting h (self.armIo successState advanceBytes) :=
  ⟨fun _ => hio, fun _ => rfl, hA.pending, hA.ready, hA.restore, hA.balance⟩

/-- Giving up the port operation keeps the books. -/
theorem Accounting.clearIo (hA : Accounting h self) :
    Accounting h
      { self with
        context :=
          { self.context with ioPending := false, ioCompleted := false } } :=
  ⟨fun hp => (by cases hp), fun hp => (by cases hp), hA.pending, hA.ready,
    hA.restore, hA.balance⟩

/-- Moving inside the commit, or inside the restore, keeps the books. -/
theorem Accounting.moveState (hA : Accounting h self)
    {state : StorageServiceState} (writeOffset : ℕ)
    (hio : self.context.ioPending = false)
    (hw : isWorking self.context.state = true)
    (hactive : isActive state = isActive self.context.state) :
    Accounting h ((self.setWriteOffset writeOffset).setState state) where
  io hp := absurd hp (Bool.eq_false_iff.mp hio)
  token hp := absurd hp (Bool.eq_false_iff.mp hio)
  pending := hA.pending
  ready hr :=
    absurd hr (Bool.eq_false_iff.mp (hA.ready_eq_false hw).1)
  restore hr :=
    absurd hr (Bool.eq_false_iff.mp (hA.ready_eq_false hw).2)
  balance := by
    have hprogress : inProgress
        ((self.setWriteOffset writeOffset).setState state) =
          self.inProgress := by
      unfold inProgress
      rw [show ((self.setWriteOffset writeOffset).setState state).context.state
        = state from rfl, hactive]
      rfl
    rw [hA.balance, hprogress]
    rfl

theorem Accounting.finishCommit (hA : Accounting h self)
    (status : StorageCommitStatus) (hio : self.context.ioPending = false)
    (hactive : isActive self.context.state = true) :
    Accounting h (self.finishCommit status) where
  io hp := absurd hp (Bool.eq_false_iff.mp hio)
  token hp := absurd hp (Bool.eq_false_iff.mp hio)
  pending := hA.pending
  ready _ := by
    unfold StorageService.finishCommit
    dsimp only
    split <;> simp
  restore hr :=
    absurd hr (Bool.eq_false_iff.mp
      (hA.ready_eq_false (isWorking_of_isActive hactive)).2)
  balance := by
    have hready := (hA.ready_eq_false (isWorking_of_isActive hactive)).1
    have hstate : isActive (self.finishCommit status).context.state = false := by
      unfold StorageService.finishCommit
      dsimp only
      split <;> rfl
    rw [hA.balance, inProgress, inProgress, hstate]
    simp [mailbox, hready, hactive, StorageService.finishCommit, candidateId,
      StorageCompletionPayload.candidateId]

theorem Accounting.failIo (hA : Accounting h self) (result : StorageIoResult)
    (hio : self.context.ioPending = false)
    (hw : isWorking self.context.state = true) :
    Accounting h (self.failIo result) := by
  unfold StorageService.failIo
  split
  · rename_i hrestore
    have hready := hA.ready_eq_false hw
    have hactive : isActive self.context.state = false := by
      simp [isActive, hrestore]
    exact
      { io := fun hp => absurd hp (Bool.eq_false_iff.mp hio)
        token := fun hp => absurd hp (Bool.eq_false_iff.mp hio)
        pending := hA.pending
        ready := fun hr => absurd hr (Bool.eq_false_iff.mp hready.1)
        restore := fun _ => Or.inr rfl
        balance := by
          rw [hA.balance, inProgress, inProgress, hactive]
          rfl }
  · rename_i hrestore
    have hactive : isActive self.context.state = true := by
      revert hw hrestore
      cases self.context.state <;> decide
    exact hA.finishCommit _ hio hactive

/-- A submitted operation that fails ends the work. -/
theorem Accounting.orFailIo (hA : Accounting h self)
    {request : PortRequest} {successState : StorageServiceState}
    {advanceBytes : ℕ} {nowUs : UInt64} {reply : PortReply}
    (hidle : self.context.ioPending = false)
    (hio : ioSuccessor self.context.state = some successState) :
    Accounting h (orFailIo
      (self.submitIo request successState advanceBytes nowUs reply)).1 := by
  have hw := (ioSuccessor_isWorking hio).1
  unfold submitIo StorageService.orFailIo
  split
  · exact hA.failIo _ hidle hw
  · dsimp only
    have hmid := (hA.armIo advanceBytes hio).foldl_onIoCompletion
      reply.completions
    have hstate : (reply.completions.foldl StorageService.onIoCompletion
        (self.armIo successState advanceBytes)).context.state =
          self.context.state := by
      have hkeep : ∀ (cs : List StorageIoCompletion) (s : StorageService),
          (cs.foldl StorageService.onIoCompletion s).context.state =
            s.context.state := by
        intro cs
        induction cs with
        | nil => exact fun _ => rfl
        | cons c rest ih =>
            intro s
            rw [List.foldl_cons, ih]
            unfold StorageService.onIoCompletion
            dsimp only
            split <;> rfl
      rw [hkeep]
      rfl
    split
    · exact hmid.clearIo.failIo _ rfl (by rw [← hstate] at hw; exact hw)
    · exact hmid

theorem Accounting.consumeIoCompletion (hA : Accounting h self) :
    Accounting h self.consumeIoCompletion := by
  unfold StorageService.consumeIoCompletion
  split
  · exact hA
  · rename_i hbusy
    have hp : self.context.ioPending = true := by
      by_contra hp
      simp [hp] at hbusy
    have hio := hA.io hp
    have hw := ioSuccessor_isWorking hio
    dsimp only
    split
    · exact hA.clearIo.failIo _ rfl hw.1
    · exact hA.clearIo.moveState _ rfl hw.1 (ioSuccessor_isActive hio)

theorem Accounting.chooseTarget (hA : Accounting h self)
    (hio : self.context.ioPending = false)
    (hstate : self.context.state = .prepareTarget) :
    Accounting h self.chooseTarget := by
  unfold StorageService.chooseTarget
  dsimp only
  have hactive : isActive self.context.state = true := by
    rw [hstate]
    rfl
  have hbase : ∀ targetSlot targetAddress, Accounting h
      { self with
        context := { self.context with targetSlot, targetAddress } } :=
    fun _ _ => ⟨hA.io, hA.token, hA.pending, hA.ready, hA.restore, hA.balance⟩
  split
  · exact (hbase _ self.context.targetAddress).finishCommit _ hio hactive
  · exact (hbase _ _).moveState 0 hio (isWorking_of_isActive hactive)
      (by rw [hactive]; rfl)

theorem Accounting.decodeRestore (hA : Accounting h self)
    (hio : self.context.ioPending = false)
    (hstate : self.context.state = .restoreDecode) :
    Accounting h self.decodeRestore where
  io hp := absurd hp (Bool.eq_false_iff.mp hio)
  token hp := absurd hp (Bool.eq_false_iff.mp hio)
  pending := hA.pending
  ready hr := by
    have hready := (hA.ready_eq_false (by rw [hstate]; rfl)).1
    exact absurd hr (Bool.eq_false_iff.mp hready)
  restore _ := Or.inl rfl
  balance := by
    have hprogress : self.inProgress = [] := by
      rw [inProgress, hstate]
      rfl
    rw [hA.balance, hprogress]
    rfl

/-- A new active candidate enters the books with its own identity. -/
theorem Accounting.prepareActiveCandidate (hA : Accounting h self)
    {type : UInt8} {sequence : UInt32} {buffer : ByteBuffer} {length : ℕ}
    {version : UInt64} {self' : StorageService}
    (hterminal : isTerminal self.context.state = true)
    (hready : self.completionReady = false)
    (hprepare : self.prepareActiveCandidate type sequence buffer length
      version = some self') (buffered : Option BufferedCandidate) :
    Accounting
      { h with
        buffered
        activated :=
          h.activated ++ [⟨self.requestCount + 1, version, type, sequence⟩] }
      self' := by
  unfold StorageService.prepareActiveCandidate at hprepare
  dsimp only at hprepare
  split at hprepare
  · cases hprepare
  · have hio := hA.ioPending_of_terminal hterminal
    have hrestore : self.restoreReady = false := by
      by_contra hr
      rcases hA.restore (by simpa using hr) with hs | hs <;>
        rw [hs] at hterminal <;> exact absurd hterminal (by decide)
    cases hprepare
    exact
      { io := fun hp => absurd hp (Bool.eq_false_iff.mp hio)
        token := fun hp => absurd hp (Bool.eq_false_iff.mp hio)
        pending := fun hp => (by cases hp)
        ready := fun hr => absurd hr (Bool.eq_false_iff.mp hready)
        restore := fun hr => absurd hr (Bool.eq_false_iff.mp hrestore)
        balance := by
          have hidle : self.inProgress = [] := by
            rw [inProgress, isActive, hterminal]
            rfl
          have hmail : self.mailbox = [] := by
            rw [mailbox, hready]
            rfl
          simp only [hA.balance, hidle, hmail, List.append_nil]
          simp [mailbox, inProgress, hready, isActive, isTerminal,
            isRestoreState, candidateId] }

/-- The pending candidate was checked when it was buffered, so that its
promotion cannot be refused. -/
theorem Accounting.promotePending (hA : Accounting h self)
    (hpromotes : self.Promotes) (reply : PortReply) (nowUs : UInt64) :
    Accounting (self.recordOp h (.tick nowUs reply)) self.promotePending := by
  obtain ⟨hio, hstate, hpending, hready⟩ := hpromotes
  obtain ⟨hsize, hlo, hhi, hbuffered⟩ := hA.pending hpending
  have hterminal : isTerminal self.context.state = true := by
    rcases hstate with hs | hs <;> rw [hs] <;> rfl
  have hcleared : Accounting h
      { self with context := { self.context with pending := false } } :=
    ⟨hA.io, hA.token, fun hp => (by cases hp), hA.ready, hA.restore,
      hA.balance⟩
  have hmax : ¬ slotSizeFor self.context.pendingType > storageMaxSlotSize := by
    unfold slotSizeFor
    split_ifs <;> decide
  have hrecord : self.recordOp h (.tick nowUs reply) =
      { h with
        buffered := none
        activated :=
          h.activated ++ [⟨self.requestCount + 1, self.context.pendingVersion,
            self.context.pendingType, self.context.pendingSequence⟩] } := by
    unfold recordOp
    dsimp only
    rw [if_pos ⟨hio, hstate, hpending, hready⟩, hbuffered]
    rfl
  have hguard : ¬ (slotSizeFor self.context.pendingType = 0 ∨
      slotSizeFor self.context.pendingType > storageMaxSlotSize ∨
      self.context.pendingLength < persistCommonHeaderSize ∨
      self.context.pendingLength > slotSizeFor self.context.pendingType) := by
    rintro (hbad | hbad | hbad | hbad)
    · exact hsize hbad
    · exact hmax hbad
    · omega
    · omega
  rw [hrecord, StorageService.promotePending]
  split
  · rename_i self' hprepare
    exact hcleared.prepareActiveCandidate hterminal hready hprepare none
  · rename_i hnone
    rw [StorageService.prepareActiveCandidate, if_neg hguard] at hnone
    cases hnone

/-! ## What every operation preserves -/

theorem Accounting.tick (hA : Accounting h self) (nowUs : UInt64)
    (reply : PortReply) :
    Accounting (self.recordOp h (.tick nowUs reply))
      (self.tick nowUs reply).1 := by
  by_cases hpromotes : self.Promotes
  · have htick : (self.tick nowUs reply).1 = self.promotePending := by
      obtain ⟨hio, hstate, hpending, hready⟩ := hpromotes
      unfold StorageService.tick
      dsimp only
      rw [if_neg (by simp [hio]),
        if_pos (by rcases hstate with hs | hs <;> simp [hs, hpending, hready])]
    rw [htick]
    exact hA.promotePending hpromotes reply nowUs
  · have hrecord : self.recordOp h (.tick nowUs reply) = h :=
      if_neg hpromotes
    rw [hrecord]
    unfold StorageService.tick
    dsimp only
    split
    · exact hA.consumeIoCompletion
    · rename_i hpend
      have hio : self.context.ioPending = false := by simpa using hpend
      rw [if_neg (by
        intro hp
        simp only [Bool.and_eq_true, Bool.or_eq_true, decide_eq_true_eq,
          Bool.not_eq_true'] at hp
        exact hpromotes ⟨hio, hp.1.1, hp.1.2, hp.2⟩)]
      have hbyte : ∀ b, Accounting h (self.setIoByte b) := fun _ =>
        ⟨hA.io, hA.token, hA.pending, hA.ready, hA.restore, hA.balance⟩
      split
      case h_1 | h_2 | h_3 | h_4 | h_5 => exact hA
      case h_6 hs | h_7 hs | h_10 hs | h_16 hs | h_18 hs | h_19 hs =>
        exact hA.orFailIo hio (by rw [hs]; rfl)
      case h_8 hs => exact hA.chooseTarget hio hs
      case h_9 hs | h_15 hs =>
        exact (hbyte _).orFailIo hio
          (show ioSuccessor self.context.state = _ by rw [hs]; rfl)
      case h_11 hs =>
        split
        · exact hA.finishCommit _ hio (by rw [hs]; rfl)
        · exact hA.moveState 0 hio (by rw [hs]; rfl) (by rw [hs]; rfl)
      case h_12 hs =>
        split
        · exact hA.moveState 0 hio (by rw [hs]; rfl) (by rw [hs]; rfl)
        · exact hA.orFailIo hio (by rw [hs]; rfl)
      case h_13 hs =>
        split
        · exact hA.moveState self.context.writeOffset hio (by rw [hs]; rfl)
            (by rw [hs]; rfl)
        · exact hA.orFailIo hio (by rw [hs]; rfl)
      case h_14 hs =>
        split
        · exact hA.finishCommit _ hio (by rw [hs]; rfl)
        · exact hA.moveState self.context.writeOffset hio (by rw [hs]; rfl)
            (by rw [hs]; rfl)
      case h_17 hs =>
        split <;> exact hA.finishCommit _ hio (by rw [hs]; rfl)
      case h_20 hs => exact hA.decodeRestore hio hs

theorem Accounting.submitCheckpoint (hA : Accounting h self) (type : UInt8)
    (sequence : UInt32) (buffer : ByteBuffer) (length : ℕ) (version : UInt64) :
    Accounting
      (self.recordOp h
        (.submitCheckpoint type sequence buffer length version))
      (self.submitCheckpoint type sequence buffer length version).2 := by
  unfold recordOp StorageService.submitCheckpoint
  by_cases hreject :
      (length = 0 || isRestoreState self.context.state : Bool) = true
  · simp only [if_pos hreject]
    exact hA
  simp only [if_neg hreject]
  by_cases hterminal : isTerminal self.context.state = true
  · simp only [if_pos hterminal]
    by_cases hready : self.completionReady = true
    · simp only [if_pos hready]
      exact hA
    · simp only [if_neg hready]
      cases hprepare : self.prepareActiveCandidate type sequence buffer length
          version with
      | none => exact hA
      | some self' =>
          exact hA.prepareActiveCandidate hterminal (by simpa using hready)
            hprepare h.buffered
  · simp only [if_neg hterminal]
    by_cases hguard : slotSizeFor type = 0 ∨
        length < persistCommonHeaderSize ∨ length > slotSizeFor type
    · simp only [if_pos hguard]
      exact hA
    · simp only [if_neg hguard]
      simp only [not_or, not_lt, gt_iff_lt] at hguard
      exact ⟨hA.io, hA.token, fun _ => ⟨hguard.1, hguard.2.1, hguard.2.2, rfl⟩,
        hA.ready, hA.restore, hA.balance⟩

theorem Accounting.takeCompletion (hA : Accounting h self) :
    Accounting (self.recordOp h .takeCompletion) self.takeCompletion.2 := by
  unfold recordOp StorageService.takeCompletion
  dsimp only
  split
  · rename_i hready
    exact
      { io := hA.io
        token := hA.token
        pending := hA.pending
        ready := fun hr => (by cases hr)
        restore := hA.restore
        balance := by
          have hmail : self.mailbox = [self.lastCompletion.candidateId] :=
            if_pos hready
          simp only [hA.balance, hmail, Option.toList_some, List.map_append,
            List.map_cons, List.map_nil, List.append_assoc]
          rfl }
  · simpa using hA

theorem Accounting.startRestoreVolume (hA : Accounting h self) :
    Accounting h self.startRestoreVolume.2 := by
  unfold StorageService.startRestoreVolume
  split
  · exact hA
  · rename_i hguard
    simp only [Bool.or_eq_true, Bool.not_eq_true', not_or,
      Bool.not_eq_false, Bool.not_eq_true] at hguard
    obtain ⟨⟨hterminal, hpending⟩, hready⟩ := hguard
    have hio := hA.ioPending_of_terminal hterminal
    exact
      { io := fun hp => absurd hp (Bool.eq_false_iff.mp hio)
        token := fun hp => absurd hp (Bool.eq_false_iff.mp hio)
        pending := hA.pending
        ready := fun hr => absurd hr (Bool.eq_false_iff.mp hready)
        restore := fun hr => (by cases hr)
        balance := by
          have hidle : self.inProgress = [] := by
            rw [inProgress, isActive, hterminal]
            rfl
          rw [hA.balance, hidle]
          rfl }

theorem Accounting.takeRestoredVolume (hA : Accounting h self) :
    Accounting h self.takeRestoredVolume.2 := by
  unfold StorageService.takeRestoredVolume
  split
  · rename_i hrestore
    have hstate := hA.restore hrestore
    have hio : self.context.ioPending = false := by
      by_contra hp
      have hio := hA.io (by simpa using hp)
      rcases hstate with hs | hs <;> rw [hs] at hio <;> cases hio
    have hready : self.completionReady = false := by
      by_contra hr
      have hready := hA.ready (by simpa using hr)
      rcases hstate with hs | hs <;> rw [hs] at hready <;> simp at hready
    exact
      { io := fun hp => absurd hp (Bool.eq_false_iff.mp hio)
        token := fun hp => absurd hp (Bool.eq_false_iff.mp hio)
        pending := hA.pending
        ready := fun hr => absurd hr (Bool.eq_false_iff.mp hready)
        restore := fun hr => (by cases hr)
        balance := by
          have hidle : self.inProgress = [] := by
            rcases hstate with hs | hs <;> rw [inProgress, hs] <;> rfl
          rw [hA.balance, hidle]
          rfl }
  · exact hA

end Preserved

/-- The step lemma: every operation keeps the books. -/
theorem Accounting.applyOp {h : History} {self : StorageService}
    (hA : Accounting h self) (op : ServiceOp) :
    Accounting (self.recordOp h op) (self.applyOp op) := by
  cases op with
  | submitCheckpoint type sequence buffer length version =>
      exact hA.submitCheckpoint type sequence buffer length version
  | tick nowUs reply => exact hA.tick nowUs reply
  | onIoCompletion completion => exact hA.onIoCompletion completion
  | takeCompletion => exact hA.takeCompletion
  | startRestoreVolume => exact hA.startRestoreVolume
  | takeRestoredVolume => exact hA.takeRestoredVolume
  | portFill buffer data size => exact hA.fill buffer data size

theorem Accounting.init {ioTimeoutUs : UInt32} {bound : Bool}
    {self : StorageService}
    (hinit : StorageService.init ioTimeoutUs bound = some self) :
    Accounting ⟨none, [], []⟩ self := by
  unfold StorageService.init at hinit
  split at hinit
  · cases hinit
  · cases hinit
    exact
      { io := fun hp => (by cases hp)
        token := fun hp => (by cases hp)
        pending := fun hp => (by cases hp)
        ready := fun hr => (by cases hr)
        restore := fun hr => (by cases hr)
        balance := rfl }

/-- The run lemma. -/
theorem Reachable.accounting {h : History} {self : StorageService}
    (hrun : Reachable self h) : Accounting h self := by
  induction hrun with
  | init hinit => exact Accounting.init hinit
  | step _ op ih => exact ih.applyOp op

/-! ## Completions and the mailbox -/

/-- The token of the port operation whose completion is still to come. -/
def outstandingToken (self : StorageService) : Option StorageOperationToken :=
  if self.context.ioPending && !self.context.ioCompleted then
    some self.context.ioToken
  else none

/-- A completion that is not the outstanding one is only counted. -/
def StaleIsCounted (self : StorageService) : Prop :=
  ∀ completion : StorageIoCompletion,
    self.outstandingToken ≠ some completion.token →
      self.onIoCompletion completion =
        { self with staleCompletionCount := self.staleCompletionCount + 1 }

/-- The token of a port operation is of the current generation. -/
def TokenIsCurrent (self : StorageService) : Prop :=
  self.context.ioPending = true →
    self.context.ioToken.ownerGeneration = self.generation

theorem TokenIsCurrent.foldl_onIoCompletion {self : StorageService}
    (htoken : self.TokenIsCurrent) (completions : List StorageIoCompletion) :
    (completions.foldl StorageService.onIoCompletion self).TokenIsCurrent := by
  induction completions generalizing self with
  | nil => exact htoken
  | cons completion rest ih =>
      apply ih
      unfold StorageService.onIoCompletion
      dsimp only
      split <;> exact htoken

theorem TokenIsCurrent.staleIsCounted {self : StorageService}
    (howner : self.TokenIsCurrent) : self.StaleIsCounted := by
  intro completion hstale
  unfold StorageService.onIoCompletion
  dsimp only
  split
  · rfl
  · rename_i hmatch
    simp only [Bool.or_eq_true, Bool.not_eq_true', decide_eq_true_eq, not_or,
      Bool.not_eq_false, not_not, Bool.not_eq_true] at hmatch
    obtain ⟨⟨⟨⟨hp, hc⟩, hop⟩, hcorr⟩, hgen⟩ := hmatch
    have htoken : completion.token = self.context.ioToken := by
      cases hct : completion.token with
      | mk operationId correlationId ownerGeneration =>
          rw [hct] at hop hcorr hgen
          have howner := howner hp
          cases hst : self.context.ioToken with
          | mk operationId' correlationId' ownerGeneration' =>
              rw [hst] at hop hcorr howner
              simp only at hop hcorr hgen howner
              rw [hop, hcorr, hgen, howner]
    exact absurd (by simp [outstandingToken, hp, hc, htoken]) hstale

/-- A payload stays in the mailbox until it is taken. -/
theorem Accounting.mailbox_stable {h : History} {self : StorageService}
    (hA : Accounting h self) {op : ServiceOp} (hop : op ≠ .takeCompletion)
    (hready : self.completionReady = true) :
    (self.applyOp op).completionReady = true ∧
      (self.applyOp op).lastCompletion = self.lastCompletion := by
  have hstate := hA.ready hready
  have hio : self.context.ioPending = false := by
    by_contra hp
    have hio := hA.io (by simpa using hp)
    rcases hstate with hs | hs <;> rw [hs] at hio <;> cases hio
  have hrestore : self.restoreReady = false := by
    by_contra hr
    have hrestore := hA.restore (by simpa using hr)
    rcases hstate with hs | hs <;> rw [hs] at hrestore <;> simp at hrestore
  have hterminal : isTerminal self.context.state = true := by
    rcases hstate with hs | hs <;> rw [hs] <;> rfl
  have hkeep : self.applyOp op = self →
      (self.applyOp op).completionReady = true ∧
        (self.applyOp op).lastCompletion = self.lastCompletion :=
    fun hsame => by
      rw [hsame]
      exact ⟨hready, rfl⟩
  cases op with
  | submitCheckpoint type sequence buffer length version =>
      apply hkeep
      simp only [StorageService.applyOp, StorageService.submitCheckpoint,
        if_pos hterminal, if_pos hready]
      split <;> rfl
  | tick nowUs reply =>
      apply hkeep
      simp only [StorageService.applyOp, StorageService.tick]
      rw [if_neg (by simp [hio]), if_neg (by simp [hready])]
      rcases hstate with hs | hs <;> rw [hs]
  | onIoCompletion completion =>
      simp only [StorageService.applyOp, StorageService.onIoCompletion]
      split <;> exact ⟨hready, rfl⟩
  | takeCompletion => exact absurd rfl hop
  | startRestoreVolume =>
      apply hkeep
      simp [StorageService.applyOp, StorageService.startRestoreVolume, hready]
  | takeRestoredVolume =>
      apply hkeep
      simp [StorageService.applyOp, StorageService.takeRestoredVolume, hrestore]
  | portFill buffer data size => exact ⟨hready, rfl⟩

/-- The completion accounting of the service over every run and every port.
The second part also covers the states in which a port function, called for
any operation, has already delivered any completions of its own. -/
theorem completion_accounting {self : StorageService} {h : History}
    (hrun : Reachable self h) :
    h.activated =
        h.taken.map StorageCompletionPayload.candidateId ++ self.mailbox ++
          self.inProgress ∧
      (∀ op, op ≠ .takeCompletion → self.completionReady = true →
        (self.applyOp op).completionReady = true ∧
          (self.applyOp op).lastCompletion = self.lastCompletion) ∧
      self.StaleIsCounted ∧
      (∀ (successState : StorageServiceState) (advanceBytes : ℕ)
          (completions : List StorageIoCompletion),
        (completions.foldl StorageService.onIoCompletion
          (self.armIo successState advanceBytes)).StaleIsCounted) ∧
      (self.restoreReady = true →
        self.context.state = .restoreComplete ∨
          self.context.state = .restoreFailed) := by
  have hA := hrun.accounting
  have hmid : ∀ successState advanceBytes,
      (self.armIo successState advanceBytes).TokenIsCurrent :=
    fun _ _ _ => rfl
  exact ⟨hA.balance, fun op hop hready => hA.mailbox_stable hop hready,
    TokenIsCurrent.staleIsCounted hA.token,
    fun successState advanceBytes completions =>
      ((hmid successState advanceBytes).foldl_onIoCompletion
        completions).staleIsCounted,
    hA.restore⟩

/-- A volume candidate whose first scan the port refuses ends in the
mailbox. -/
theorem completion_accounting_refusedScan :
    ∃ self h, Reachable self h ∧
      h.activated = [⟨1, 7, persistRecordVolume, 5⟩] ∧
      h.activated = h.taken.map StorageCompletionPayload.candidateId ++
        self.mailbox ++ self.inProgress ∧
      self.completionReady = true := by
  have h0 := Reachable.init (show init 1000 true = some _ from rfl)
  have h1 := h0.step (.submitCheckpoint persistRecordVolume 5 zeros 64 7)
  have h2 := h1.step (.tick 0 ⟨[], .busy⟩)
  exact ⟨_, _, h2, rfl, (completion_accounting h2).1, rfl⟩

end StorageService
end Swfpm
