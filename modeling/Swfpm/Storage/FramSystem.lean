import Swfpm.Storage.Accounting

/-!
# The storage service on an F-RAM

The service is put together with a byte image of the memory and the port
operation in flight.  `FramStep` is one step of that system: a tick, progress
of the operation in flight, its success or failure, or a completion that
belongs to no operation in flight.  Whatever a failed, cancelled or unfinished
write leaves behind is a torn image; a failed read leaves any bytes in the
buffer it was to fill.

The same steps serve for a port that may fail and for one that works: a
working port neither refuses nor fails an operation, and its clock is far
enough from the end of time for every deadline.

`Between` turns a property of the quiet moments of the service, when no
operation is in flight, into an invariant of the whole system.
-/

namespace Swfpm

open ByteBuffers StorageRecord StorageService

/-- What an unfinished or failed operation may do to service and image. -/
def PortRequest.Disturbs (request : PortRequest)
    (service service' : StorageService) (image image' : ByteBuffer) : Prop :=
  match request with
  | .read _ buffer size =>
      image' = image ∧ ∃ data, service' = service.fill buffer data size
  | .write offset data size =>
      service' = service ∧ Torn image image' offset data size

/-- The service after a read has brought its bytes in. -/
def PortRequest.fillService (request : PortRequest) (service : StorageService)
    (image : ByteBuffer) : StorageService :=
  match request with
  | .read offset buffer size => service.fill buffer (window image offset) size
  | .write _ _ _ => service

/-- The image after a write has stored all its bytes. -/
def PortRequest.storeImage (request : PortRequest) (image : ByteBuffer) :
    ByteBuffer :=
  match request with
  | .read _ _ _ => image
  | .write offset data size => blit image offset data size

structure FramSystem where
  service : StorageService
  image : ByteBuffer
  outstanding : Option PortCall

inductive PortQuality where
  | faulty
  | working
  deriving DecidableEq, Repr

/-- The deadline of an operation started at `nowUs` can be represented. -/
def ClockFits (service : StorageService) (nowUs : UInt64) : Prop :=
  ¬ 0xFFFFFFFFFFFFFFFF - nowUs < service.ioTimeoutUs.toUInt64

inductive FramStep (quality : PortQuality) :
    FramSystem → FramSystem → Prop where
  /-- A tick that makes no port call. -/
  | tick {s : FramSystem} (nowUs : UInt64) (reply : PortReply)
      (hclock : quality = .working → ClockFits s.service nowUs)
      (hcall : (s.service.tick nowUs reply).2 = none) :
      FramStep quality s { s with service := (s.service.tick nowUs reply).1 }
  /-- The port accepts the operation.  A completion that it delivers from
  inside the call counts as the next step; see `tick_accepted`. -/
  | accepted {s : FramSystem} (nowUs : UInt64) (call : PortCall)
      (hcall : (s.service.tick nowUs ⟨[], .accepted⟩).2 = some call) :
      FramStep quality s
        { s with
          service := (s.service.tick nowUs ⟨[], .accepted⟩).1
          outstanding := some call }
  | refused {s : FramSystem} (nowUs : UInt64) (reply : PortReply)
      (call : PortCall) (service' : StorageService) (image' : ByteBuffer)
      (hfaulty : quality = .faulty) (hreply : reply.result ≠ .accepted)
      (hcall : (s.service.tick nowUs reply).2 = some call)
      (hdisturb : call.request.Disturbs (s.service.tick nowUs reply).1 service'
        s.image image') :
      FramStep quality s ⟨service', image', none⟩
  | progress {s : FramSystem} (call : PortCall) (service' : StorageService)
      (image' : ByteBuffer) (hout : s.outstanding = some call)
      (hdisturb : call.request.Disturbs s.service service' s.image image') :
      FramStep quality s ⟨service', image', some call⟩
  | succeeded {s : FramSystem} (call : PortCall)
      (completion : StorageIoCompletion) (hout : s.outstanding = some call)
      (htoken : completion.token = call.token) (hsuccess : completion.Success) :
      FramStep quality s
        ⟨(call.request.fillService s.service s.image).onIoCompletion completion,
          call.request.storeImage s.image, none⟩
  | failed {s : FramSystem} (call : PortCall)
      (completion : StorageIoCompletion) (service' : StorageService)
      (image' : ByteBuffer) (hfaulty : quality = .faulty)
      (hout : s.outstanding = some call)
      (htoken : completion.token = call.token)
      (hfailure : ¬ completion.Success)
      (hdisturb : call.request.Disturbs s.service service' s.image image') :
      FramStep quality s ⟨service'.onIoCompletion completion, image', none⟩
  | stale {s : FramSystem} (completion : StorageIoCompletion)
      (hstale : ∀ call, s.outstanding = some call →
        completion.token ≠ call.token) :
      FramStep quality s { s with service := s.service.onIoCompletion completion }

/-- Runs with any outcome of any operation. -/
abbrev FramRun : FramSystem → FramSystem → Prop :=
  Relation.ReflTransGen (FramStep .faulty)

/-- Runs in which every operation succeeds. -/
abbrev WorkingRun : FramSystem → FramSystem → Prop :=
  Relation.ReflTransGen (FramStep .working)

/-- A working port is one of the ports that may fail. -/
theorem FramStep.faulty {s s' : FramSystem} (h : FramStep .working s s') :
    FramStep .faulty s s' := by
  cases h with
  | tick nowUs reply hclock hcall => exact .tick nowUs reply nofun hcall
  | accepted nowUs call hcall => exact .accepted nowUs call hcall
  | refused _ _ _ _ _ hfaulty => cases hfaulty
  | progress call service' image' hout hdisturb =>
      exact .progress call service' image' hout hdisturb
  | succeeded call completion hout htoken hsuccess =>
      exact .succeeded call completion hout htoken hsuccess
  | failed _ _ _ _ hfaulty => cases hfaulty
  | stale completion hstale => exact .stale completion hstale

theorem WorkingRun.framRun {s s' : FramSystem} (h : WorkingRun s s') :
    FramRun s s' := by
  induction h with
  | refl => exact .refl
  | tail _ hstep ih => exact ih.tail hstep.faulty

/-! ## Disturbing twice, and finishing after a disturbance -/

namespace StorageService

theorem fill_fill (service : StorageService) (buffer : ReadBuffer)
    (a b : ByteBuffer) (size : ℕ) :
    (service.fill buffer a size).fill buffer b size =
      service.fill buffer b size := by
  cases buffer with
  | ioByte =>
      have hbyte : ∀ x : UInt8, blit (fun _ => blit (fun _ => x) 0 a size 0)
          0 b size 0 = blit (fun _ => x) 0 b size 0 := by
        intro x
        by_cases hsize : 0 < size
        · rw [blit_inside (Nat.zero_le _) (by omega),
            blit_inside (Nat.zero_le _) (by omega)]
        · rw [blit_outside (by omega), blit_outside (by omega),
            blit_outside (by omega)]
      simp only [fill, hbyte]
  | _ => simp only [fill, blit_blit]

end StorageService

namespace PortRequest

variable {request : PortRequest} {s s' s'' : StorageService}
  {m m' m'' : ByteBuffer}

/-- An operation may fail before it has touched anything. -/
theorem Disturbs.refl (request : PortRequest) (s : StorageService)
    (m : ByteBuffer) : request.Disturbs s s m m := by
  have hself : ∀ (b : ByteBuffer) (offset size : ℕ),
      blit b offset (window b offset) size = b := by
    intro b offset size
    funext i
    by_cases hin : offset ≤ i ∧ i < offset + size
    · rw [blit_inside hin.1 hin.2, window_apply]
      congr 1
      omega
    · exact blit_outside (by omega)
  cases request with
  | read offset buffer size =>
      refine ⟨rfl, ?_⟩
      cases buffer with
      | scanA => exact ⟨window s.context.scanA 0, by simp [fill, hself]⟩
      | scanB => exact ⟨window s.context.scanB 0, by simp [fill, hself]⟩
      | readback offset =>
          exact ⟨window s.context.readback offset, by simp [fill, hself]⟩
      | ioByte =>
          refine ⟨fun _ => s.context.ioByte, ?_⟩
          have hbyte := congrFun (hself (fun _ => s.context.ioByte) 0 size) 0
          simp only [fill]
          rw [show blit (fun _ => s.context.ioByte) 0
            (fun _ => s.context.ioByte) size 0 = s.context.ioByte from hbyte]
  | write offset data size => exact ⟨rfl, Torn.refl _ _ _ _⟩

theorem Disturbs.trans (h : request.Disturbs s s' m m')
    (h' : request.Disturbs s' s'' m' m'') : request.Disturbs s s'' m m'' := by
  cases request with
  | read offset buffer size =>
      obtain ⟨rfl, a, rfl⟩ := h
      obtain ⟨rfl, b, rfl⟩ := h'
      exact ⟨rfl, b, fill_fill _ _ _ _ _⟩
  | write offset data size =>
      obtain ⟨rfl, htorn⟩ := h
      obtain ⟨rfl, htorn'⟩ := h'
      exact ⟨rfl, htorn.trans htorn'⟩

theorem Disturbs.fillService_eq (h : request.Disturbs s s' m m') :
    request.fillService s' m' = request.fillService s m := by
  cases request with
  | read offset buffer size =>
      obtain ⟨rfl, a, rfl⟩ := h
      exact fill_fill _ _ _ _ _
  | write offset data size => exact h.1

theorem Disturbs.storeImage_eq (h : request.Disturbs s s' m m') :
    request.storeImage m' = request.storeImage m := by
  cases request with
  | read offset buffer size => exact h.1
  | write offset data size => exact h.2.blit_eq

end PortRequest

/-! ## The books of a port operation -/

/-- Everything that a port operation changes in the service besides the
buffer it fills. -/
structure PortBook where
  ioPending : Bool
  ioCompleted : Bool
  ioToken : StorageOperationToken
  ioCompletion : StorageIoCompletion
  ioSuccessState : StorageServiceState
  ioAdvanceBytes : ℕ
  nextOperationId : UInt32
  nextCorrelationId : UInt32
  staleCompletionCount : UInt32

namespace StorageService

def withBook (self : StorageService) (book : PortBook) : StorageService :=
  { self with
    nextOperationId := book.nextOperationId
    nextCorrelationId := book.nextCorrelationId
    staleCompletionCount := book.staleCompletionCount
    context :=
      { self.context with
        ioPending := book.ioPending
        ioCompleted := book.ioCompleted
        ioToken := book.ioToken
        ioCompletion := book.ioCompletion
        ioSuccessState := book.ioSuccessState
        ioAdvanceBytes := book.ioAdvanceBytes } }

theorem onIoCompletion_eq_withBook (self : StorageService)
    (completion : StorageIoCompletion) :
    ∃ book, self.onIoCompletion completion = self.withBook book := by
  unfold onIoCompletion
  dsimp only
  split
  · exact ⟨⟨_, _, _, _, _, _, _, _, _⟩, rfl⟩
  · exact ⟨⟨_, _, _, _, _, _, _, _, _⟩, rfl⟩

theorem foldl_onIoCompletion_eq_withBook (self : StorageService)
    (completions : List StorageIoCompletion) :
    ∃ book, completions.foldl onIoCompletion self = self.withBook book := by
  induction completions generalizing self with
  | nil => exact ⟨⟨_, _, _, _, _, _, _, _, _⟩, rfl⟩
  | cons completion rest ih =>
      obtain ⟨book, hbook⟩ := self.onIoCompletion_eq_withBook completion
      obtain ⟨book', hbook'⟩ := ih (self.onIoCompletion completion)
      exact ⟨book', by rw [List.foldl_cons, hbook', hbook]; rfl⟩

theorem withBook_fill (self : StorageService) (book : PortBook)
    (buffer : ReadBuffer) (data : ByteBuffer) (size : ℕ) :
    (self.withBook book).fill buffer data size =
      (self.fill buffer data size).withBook book := by
  cases buffer <;> rfl

theorem withBook_failIo (self : StorageService) (book : PortBook)
    (result : StorageIoResult) :
    (self.withBook book).failIo result = (self.failIo result).withBook book := by
  unfold failIo
  split
  · rename_i h
    rw [if_pos (show isRestoreState self.context.state = true from h)]
    rfl
  · rename_i h
    rw [if_neg (show ¬ isRestoreState self.context.state = true from h)]
    rfl

theorem failIo_fill (self : StorageService) (result : StorageIoResult)
    (buffer : ReadBuffer) (data : ByteBuffer) (size : ℕ) :
    (self.failIo result).fill buffer data size =
      (self.fill buffer data size).failIo result := by
  have hstate : (self.fill buffer data size).context.state =
      self.context.state := by
    cases buffer <;> rfl
  unfold failIo
  rw [hstate]
  split <;> cases buffer <;> rfl

/-- The state after an operation that did all that was asked of it. -/
def land (self : StorageService) (successState : StorageServiceState)
    (advanceBytes : ℕ) : StorageService :=
  { self with
    context :=
      { self.context with
        writeOffset := self.context.writeOffset + advanceBytes
        state := successState } }

/-! ## What a tick plans -/

structure IoPlan where
  request : PortRequest
  successState : StorageServiceState
  advanceBytes : ℕ

/-- The byte that a one-byte write puts into the context first. -/
def presetIoByte (self : StorageService) : StorageService :=
  match self.context.state with
  | .invalidate => self.setIoByte persistCommitInvalid
  | .commit => self.setIoByte persistCommitValid
  | _ => self

/-- The port operation that the current state asks for. -/
def ioPlan (context : StorageServiceContext) : Option IoPlan :=
  match context.state with
  | .scanA =>
      some ⟨.read (slotAddrFor 0 context.recordType) .scanA context.slotSize,
        .scanB, 0⟩
  | .scanB =>
      some ⟨.read (slotAddrFor 1 context.recordType) .scanB context.slotSize,
        .prepareTarget, 0⟩
  | .invalidate =>
      some ⟨.write (commitByteAddress context) (fun _ => persistCommitInvalid)
        1, .verifyInvalidate, 0⟩
  | .verifyInvalidate =>
      some ⟨.read (commitByteAddress context) .ioByte 1, .checkInvalidate, 0⟩
  | .writeBody =>
      if context.writeOffset ≥ context.slotSize - 1 then none
      else
        some ⟨.write (context.targetAddress + context.writeOffset)
          (window context.slotBuffer context.writeOffset) (bodyChunk context),
          .writeBody, bodyChunk context⟩
  | .readbackBody =>
      if context.writeOffset ≥ context.slotSize - 1 then none
      else
        some ⟨.read (context.targetAddress + context.writeOffset)
          (.readback context.writeOffset) (bodyChunk context),
          .readbackBody, bodyChunk context⟩
  | .commit =>
      some ⟨.write (commitByteAddress context) (fun _ => persistCommitValid) 1,
        .verifyCommit, 0⟩
  | .verifyCommit =>
      some ⟨.read (commitByteAddress context) .ioByte 1, .checkCommit, 0⟩
  | .restoreScanA =>
      some ⟨.read slotVolumeAAddr .scanA slotVolumeSize, .restoreScanB, 0⟩
  | .restoreScanB =>
      some ⟨.read slotVolumeBAddr .scanB slotVolumeSize, .restoreDecode, 0⟩
  | _ => none

theorem ioPlan_ioSuccessor {context : StorageServiceContext} {plan : IoPlan}
    (h : ioPlan context = some plan) :
    ioSuccessor context.state = some plan.successState := by
  unfold ioPlan at h
  split at h
  all_goals rename_i hs
  case h_5 | h_6 =>
    split at h
    · cases h
    · cases h
      rw [hs]
      rfl
  case h_11 => cases h
  all_goals
    cases h
    rw [hs]
    rfl

/-- With no operation in flight, a state with a plan submits it. -/
theorem tick_of_ioPlan {self : StorageService} {plan : IoPlan}
    (hio : self.context.ioPending = false)
    (hplan : ioPlan self.context = some plan) (nowUs : UInt64)
    (reply : PortReply) :
    self.tick nowUs reply = orFailIo (self.presetIoByte.submitIo plan.request
      plan.successState plan.advanceBytes nowUs reply) := by
  have hw := (ioSuccessor_isWorking (ioPlan_ioSuccessor hplan)).1
  have hne : ¬ ((self.context.state = .complete ||
      self.context.state = .failed : Bool) && self.context.pending &&
        !self.completionReady) = true := by
    intro h
    simp only [Bool.and_eq_true, Bool.or_eq_true, decide_eq_true_eq] at h
    rcases h.1.1 with hs | hs <;> rw [hs] at hw <;> exact absurd hw (by decide)
  unfold tick presetIoByte
  unfold ioPlan at hplan
  dsimp only
  rw [if_neg (by simp [hio]), if_neg hne]
  split at hplan
  all_goals rename_i hs
  case h_5 | h_6 =>
    split at hplan
    · cases hplan
    · rename_i hmore
      cases hplan
      simp only [hs, if_neg hmore]
      rfl
  case h_11 => cases hplan
  all_goals
    cases hplan
    simp only [hs]
    rfl

/-- The three ends of a submission: too close to the end of time, refused,
or accepted. -/
theorem orFailIo_submitIo_cases (self : StorageService)
    (request : PortRequest) (successState : StorageServiceState)
    (advanceBytes : ℕ) (nowUs : UInt64) (reply : PortReply) :
    let result := orFailIo
      (self.submitIo request successState advanceBytes nowUs reply)
    (¬ ClockFits self nowUs ∧ result = (self.failIo .busError, none)) ∨
      (∃ book call, reply.result ≠ .accepted ∧ call.request = request ∧
        book.ioPending = false ∧
        result = ((self.failIo .busError).withBook book, some call)) ∨
      (∃ call, reply.result = .accepted ∧ call.request = request ∧
        call.token = (self.armIo successState advanceBytes).context.ioToken ∧
        result = (reply.completions.foldl onIoCompletion
          (self.armIo successState advanceBytes), some call)) := by
  dsimp only
  unfold submitIo orFailIo
  split
  · rename_i hlate
    exact Or.inl ⟨not_not.mpr hlate, rfl⟩
  · right
    obtain ⟨book, hbook⟩ := foldl_onIoCompletion_eq_withBook
      (self.armIo successState advanceBytes) reply.completions
    let call : PortCall :=
      ⟨request, (self.armIo successState advanceBytes).context.ioToken,
        nowUs + self.ioTimeoutUs.toUInt64⟩
    by_cases hreply : reply.result = .accepted
    · right
      refine ⟨call, hreply, rfl, rfl, ?_⟩
      simp only [hreply, ne_eq, not_true_eq_false, if_false, if_true]
      rfl
    · left
      let free : PortBook :=
        { book with ioPending := false, ioCompleted := false }
      refine ⟨free, call, hreply, rfl, rfl, ?_⟩
      simp only [hreply, ne_eq, not_false_eq_true, if_true, hbook,
        Bool.false_eq_true, if_false]
      congr 1
      exact withBook_failIo self free .busError

/-- A state without a plan makes no port call and starts no operation. -/
theorem tick_of_no_ioPlan {self : StorageService}
    (hio : self.context.ioPending = false)
    (hplan : ioPlan self.context = none) (nowUs : UInt64) (reply : PortReply) :
    (self.tick nowUs reply).2 = none ∧
      (self.tick nowUs reply).1.context.ioPending = false := by
  unfold ioPlan at hplan
  unfold tick
  dsimp only
  rw [if_neg (by simp [hio])]
  split
  · refine ⟨rfl, ?_⟩
    rw [promotePending]
    split
    · rename_i self' hprepare
      unfold prepareActiveCandidate at hprepare
      dsimp only at hprepare
      split at hprepare
      · cases hprepare
      · cases hprepare
        exact hio
    · exact hio
  · split
    all_goals rename_i hs
    all_goals simp only [hs] at hplan
    case h_1 | h_2 | h_3 | h_4 | h_5 => exact ⟨rfl, hio⟩
    case h_6 | h_7 | h_9 | h_10 | h_15 | h_16 | h_18 | h_19 => cases hplan
    case h_8 =>
      refine ⟨rfl, ?_⟩
      unfold chooseTarget
      dsimp only
      split <;> exact hio
    case h_11 | h_14 | h_17 => split <;> exact ⟨rfl, hio⟩
    case h_12 | h_13 =>
      split
      · exact ⟨rfl, hio⟩
      · rename_i hmore
        rw [if_neg hmore] at hplan
        cases hplan
    case h_20 => exact ⟨rfl, hio⟩

theorem tick_of_ioPending {self : StorageService}
    (hio : self.context.ioPending = true) (nowUs : UInt64)
    (reply : PortReply) :
    self.tick nowUs reply = (self.consumeIoCompletion, none) := by
  unfold tick
  dsimp only
  rw [if_pos hio]

/-- A completion delivered from inside an accepted port call leaves what the
same completion leaves when it is delivered right after the call. -/
theorem tick_accepted {self : StorageService} {nowUs : UInt64}
    {completions : List StorageIoCompletion} {call : PortCall}
    (hcall : (self.tick nowUs ⟨completions, .accepted⟩).2 = some call) :
    (self.tick nowUs ⟨completions, .accepted⟩).1 =
      completions.foldl onIoCompletion (self.tick nowUs ⟨[], .accepted⟩).1 := by
  cases hio : self.context.ioPending with
  | true =>
      rw [tick_of_ioPending hio] at hcall
      cases hcall
  | false =>
      cases hplan : ioPlan self.context with
      | none =>
          rw [(tick_of_no_ioPlan hio hplan nowUs _).1] at hcall
          cases hcall
      | some plan =>
          rw [tick_of_ioPlan hio hplan] at hcall ⊢
          rw [tick_of_ioPlan hio hplan]
          unfold submitIo orFailIo at hcall ⊢
          split
          · rename_i hdeadline
            rw [if_pos hdeadline] at hcall
            cases hcall
          · rfl

/-! ## Consuming a completion -/

theorem consumeIoCompletion_of_success {self : StorageService}
    (hp : self.context.ioPending = true)
    (hc : self.context.ioCompleted = true)
    (hsuccess : self.context.ioCompletion.Success) :
    ∃ book, book.ioPending = false ∧ self.consumeIoCompletion =
      (self.land self.context.ioSuccessState
        self.context.ioAdvanceBytes).withBook book := by
  unfold consumeIoCompletion
  rw [if_neg (by simp [hp, hc])]
  dsimp only
  rw [if_neg (by simp [hsuccess.1, hsuccess.2])]
  exact ⟨⟨_, _, _, _, _, _, _, _, _⟩, rfl, rfl⟩

/-- The result under which a completion without success is booked. -/
def failureOf (completion : StorageIoCompletion) : StorageIoResult :=
  if completion.result = .ok then .shortTransfer else completion.result

theorem consumeIoCompletion_of_failure {self : StorageService}
    (hp : self.context.ioPending = true)
    (hc : self.context.ioCompleted = true)
    (hfailure : ¬ self.context.ioCompletion.Success) :
    ∃ book, book.ioPending = false ∧ self.consumeIoCompletion =
      (self.failIo (failureOf self.context.ioCompletion)).withBook book := by
  unfold consumeIoCompletion
  rw [if_neg (by simp [hp, hc])]
  dsimp only
  rw [if_pos (by
    simp only [Bool.or_eq_true, decide_eq_true_eq]
    by_contra hboth
    simp only [not_or, not_not] at hboth
    exact hfailure ⟨hboth.1, hboth.2⟩)]
  let book : PortBook :=
    ⟨false, false, self.context.ioToken, self.context.ioCompletion,
      self.context.ioSuccessState, self.context.ioAdvanceBytes,
      self.nextOperationId, self.nextCorrelationId, self.staleCompletionCount⟩
  exact ⟨book, rfl, withBook_failIo self book _⟩

/-- The books with another count of stale completions. -/
def staleBook (self : StorageService) (count : UInt32) : PortBook :=
  ⟨self.context.ioPending, self.context.ioCompleted, self.context.ioToken,
    self.context.ioCompletion, self.context.ioSuccessState,
    self.context.ioAdvanceBytes, self.nextOperationId, self.nextCorrelationId,
    count⟩

theorem consumeIoCompletion_staleBook (self : StorageService)
    (count : UInt32) :
    ∃ book, (self.withBook (self.staleBook count)).consumeIoCompletion =
      self.consumeIoCompletion.withBook book := by
  by_cases hio : self.context.ioPending = true ∧ self.context.ioCompleted = true
  · obtain ⟨hp, hc⟩ := hio
    by_cases hsuccess : self.context.ioCompletion.Success
    · obtain ⟨_, _, hself⟩ := consumeIoCompletion_of_success hp hc hsuccess
      obtain ⟨book, _, hstale⟩ :=
        @consumeIoCompletion_of_success (self.withBook (self.staleBook count))
          hp hc hsuccess
      exact ⟨book, by rw [hself, hstale]; rfl⟩
    · obtain ⟨_, _, hself⟩ := consumeIoCompletion_of_failure hp hc hsuccess
      obtain ⟨book, _, hstale⟩ :=
        @consumeIoCompletion_of_failure (self.withBook (self.staleBook count))
          hp hc hsuccess
      exact ⟨book, by rw [hself, hstale, withBook_failIo]; rfl⟩
  · have hidle : (!self.context.ioPending || !self.context.ioCompleted) =
        true := by
      rw [Bool.or_eq_true, Bool.not_eq_true', Bool.not_eq_true',
        ← Bool.not_eq_true, ← Bool.not_eq_true, ← not_and_or]
      exact hio
    refine ⟨self.staleBook count, ?_⟩
    unfold consumeIoCompletion
    rw [if_pos hidle, if_pos (show (!(self.withBook
      (self.staleBook count)).context.ioPending || !(self.withBook
      (self.staleBook count)).context.ioCompleted) = true from hidle)]

theorem consumeIoCompletion_ioPending {self : StorageService}
    (hp : self.context.ioPending = true)
    (hc : self.context.ioCompleted = true) :
    self.consumeIoCompletion.context.ioPending = false := by
  by_cases hsuccess : self.context.ioCompletion.Success
  · obtain ⟨book, hfree, hbook⟩ := consumeIoCompletion_of_success hp hc hsuccess
    rw [hbook]
    exact hfree
  · obtain ⟨book, hfree, hbook⟩ :=
      consumeIoCompletion_of_failure hp hc hsuccess
    rw [hbook]
    exact hfree

theorem onIoCompletion_of_match {self : StorageService}
    {completion : StorageIoCompletion}
    (hp : self.context.ioPending = true)
    (hc : self.context.ioCompleted = false)
    (htoken : completion.token = self.context.ioToken)
    (howner : self.TokenIsCurrent) :
    self.onIoCompletion completion =
      { self with
        context :=
          { self.context with
            ioCompletion := completion, ioCompleted := true } } := by
  unfold onIoCompletion
  dsimp only
  rw [if_neg (by simp [hp, hc, htoken, howner hp])]

end StorageService

/-! ## From quiet moments to the whole system -/

/-- `P` holds again at the next quiet moment, however the work of the
service ends that lies between. -/
structure Protocol (quality : PortQuality)
    (P : StorageService → ByteBuffer → Prop) : Prop where
  book : ∀ {s m} book, P s m → P (s.withBook book) m
  quiet : ∀ {s m} nowUs reply, s.context.ioPending = false →
    ioPlan s.context = none → P s m → P (s.tick nowUs reply).1 m
  land : ∀ {s m plan}, ioPlan s.context = some plan → P s m →
    P ((plan.request.fillService s.presetIoByte m).land plan.successState
      plan.advanceBytes) (plan.request.storeImage m)
  fail : quality = .faulty → ∀ {s m plan s' m'} result,
    ioPlan s.context = some plan → P s m →
      plan.request.Disturbs s.presetIoByte s' m m' → P (s'.failIo result) m'

/-- A port operation leads back to `P`, whatever becomes of it. -/
structure IoProtocol (quality : PortQuality)
    (P : StorageService → ByteBuffer → Prop) : Prop where
  book : ∀ {s m} book, P s m → P (s.withBook book) m
  land : ∀ {s m plan}, ioPlan s.context = some plan → P s m →
    P ((plan.request.fillService s.presetIoByte m).land plan.successState
      plan.advanceBytes) (plan.request.storeImage m)
  fail : quality = .faulty → ∀ {s m plan s' m'} result,
    ioPlan s.context = some plan → P s m →
      plan.request.Disturbs s.presetIoByte s' m m' → P (s'.failIo result) m'

theorem Protocol.io {quality : PortQuality}
    {P : StorageService → ByteBuffer → Prop} (h : Protocol quality P) :
    IoProtocol quality P :=
  ⟨h.book, h.land, h.fail⟩

/-- The operation in flight leads back to `P` whether it succeeds or fails. -/
structure Flying (quality : PortQuality)
    (P : StorageService → ByteBuffer → Prop)
    (request : PortRequest) (successState : StorageServiceState)
    (advanceBytes : ℕ) (service : StorageService) (image : ByteBuffer) :
    Prop where
  land : P ((request.fillService service image).land successState advanceBytes)
    (request.storeImage image)
  fail : quality = .faulty → ∀ service' image',
    request.Disturbs service service' image image' →
      ∀ result, P (service'.failIo result) image'

inductive Between (quality : PortQuality)
    (P : StorageService → ByteBuffer → Prop) : FramSystem → Prop where
  | idle {s : FramSystem} (hio : s.service.context.ioPending = false)
      (hout : s.outstanding = none) (hP : P s.service s.image) :
      Between quality P s
  | landed {s : FramSystem} (hp : s.service.context.ioPending = true)
      (hc : s.service.context.ioCompleted = true) (hout : s.outstanding = none)
      (hP : P s.service.consumeIoCompletion s.image) : Between quality P s
  | flying {s : FramSystem} (call : PortCall)
      (hp : s.service.context.ioPending = true)
      (hc : s.service.context.ioCompleted = false)
      (hout : s.outstanding = some call)
      (htoken : call.token = s.service.context.ioToken)
      (howner : s.service.TokenIsCurrent)
      (hF : Flying quality P call.request s.service.context.ioSuccessState
        s.service.context.ioAdvanceBytes s.service s.image) :
      Between quality P s

section Between

variable {quality : PortQuality} {P : StorageService → ByteBuffer → Prop}
  {s s' : FramSystem}

/-- Entering the port keeps everything but the books. -/
theorem armIo_eq_withBook (service : StorageService)
    (successState : StorageServiceState) (advanceBytes : ℕ) :
    ∃ book,
      service.armIo successState advanceBytes = service.withBook book :=
  ⟨⟨_, _, _, _, _, _, _, _, _⟩, rfl⟩

theorem Flying.of_plan (hprotocol : IoProtocol quality P) {service : StorageService}
    {image : ByteBuffer} {plan : IoPlan}
    (hplan : ioPlan service.context = some plan) (hP : P service image) :
    Flying quality P plan.request plan.successState plan.advanceBytes
      service.presetIoByte image where
  land := hprotocol.land hplan hP
  fail hfaulty _ _ hdisturb result :=
    hprotocol.fail hfaulty result hplan hP hdisturb

section Flying

variable {request : PortRequest} {successState : StorageServiceState}
  {advanceBytes : ℕ} {service service' : StorageService}
  {image image' : ByteBuffer}

theorem Flying.book (hprotocol : IoProtocol quality P)
    (hF : Flying quality P request successState advanceBytes service image)
    (book : PortBook) :
    Flying quality P request successState advanceBytes (service.withBook book)
      image where
  land := by
    have hland := hprotocol.book book hF.land
    cases request with
    | read offset buffer size =>
        simp only [PortRequest.fillService, withBook_fill]
        exact hland
    | write offset data size => exact hland
  fail hfaulty service' image' hdisturb result := by
    cases request with
    | read offset buffer size =>
        obtain ⟨rfl, data, rfl⟩ := hdisturb
        rw [withBook_fill, withBook_failIo]
        exact hprotocol.book book (hF.fail hfaulty _ _ ⟨rfl, data, rfl⟩ result)
    | write offset data size =>
        obtain ⟨rfl, htorn⟩ := hdisturb
        rw [withBook_failIo]
        exact hprotocol.book book (hF.fail hfaulty _ _ ⟨rfl, htorn⟩ result)

theorem Flying.disturb
    (hF : Flying quality P request successState advanceBytes service image)
    (hdisturb : request.Disturbs service service' image image') :
    Flying quality P request successState advanceBytes service' image' where
  land := by
    rw [hdisturb.fillService_eq, hdisturb.storeImage_eq]
    exact hF.land
  fail hfaulty service'' image'' hdisturb' :=
    hF.fail hfaulty service'' image'' (hdisturb.trans hdisturb')

end Flying

/-- Filling a buffer leaves the books alone. -/
theorem disturbs_books {request : PortRequest}
    {service service' : StorageService} {image image' : ByteBuffer}
    (hdisturb : request.Disturbs service service' image image') :
    service'.context.ioPending = service.context.ioPending ∧
      service'.context.ioCompleted = service.context.ioCompleted ∧
      service'.context.ioToken = service.context.ioToken ∧
      service'.generation = service.generation ∧
      service'.context.ioSuccessState = service.context.ioSuccessState ∧
      service'.context.ioAdvanceBytes = service.context.ioAdvanceBytes := by
  cases request with
  | read offset buffer size =>
      obtain ⟨_, data, rfl⟩ := hdisturb
      cases buffer <;> exact ⟨rfl, rfl, rfl, rfl, rfl, rfl⟩
  | write offset data size =>
      obtain ⟨rfl, _⟩ := hdisturb
      exact ⟨rfl, rfl, rfl, rfl, rfl, rfl⟩

theorem fillService_disturbs (request : PortRequest)
    (service : StorageService) (image : ByteBuffer) :
    request.Disturbs service (request.fillService service image) image
      (request.storeImage image) := by
  cases request with
  | read offset buffer size => exact ⟨rfl, _, rfl⟩
  | write offset data size => exact ⟨rfl, Torn.complete _ _ _ _⟩

theorem presetIoByte_ioTimeoutUs (service : StorageService) :
    service.presetIoByte.ioTimeoutUs = service.ioTimeoutUs := by
  unfold presetIoByte
  split <;> rfl

/-- `P` holds after a turn of this service that makes no port operation. -/
def TurnsQuietly (P : StorageService → ByteBuffer → Prop)
    (service : StorageService) (image : ByteBuffer) : Prop :=
  ∀ nowUs reply, service.context.ioPending = false →
    ioPlan service.context = none → P service image →
      P (service.tick nowUs reply).1 image

/-- A tick from a quiet moment. -/
theorem Between.tick_idle (hprotocol : IoProtocol quality P)
    (hquiet : TurnsQuietly P s.service s.image)
    (hio : s.service.context.ioPending = false) (hP : P s.service s.image)
    {nowUs : UInt64} {reply : PortReply}
    (hclock : quality = .working → ClockFits s.service nowUs)
    (hcall : (s.service.tick nowUs reply).2 = none) :
    (s.service.tick nowUs reply).1.context.ioPending = false ∧
      P (s.service.tick nowUs reply).1 s.image := by
  cases hplan : ioPlan s.service.context with
  | none =>
      exact ⟨(tick_of_no_ioPlan hio hplan nowUs reply).2,
        hquiet nowUs reply hio hplan hP⟩
  | some plan =>
      rw [tick_of_ioPlan hio hplan] at hcall ⊢
      rcases orFailIo_submitIo_cases s.service.presetIoByte plan.request
        plan.successState plan.advanceBytes nowUs reply with
          ⟨hfar, hlate⟩ | ⟨_, _, _, _, _, hrefused⟩ | ⟨_, _, _, _, haccepted⟩
      · have hfaulty : quality = .faulty := by
          cases quality with
          | faulty => rfl
          | working =>
              refine absurd (hclock rfl) ?_
              rwa [ClockFits, presetIoByte_ioTimeoutUs] at hfar
        rw [hlate]
        have hpreset : s.service.presetIoByte.context.ioPending = false := by
          unfold presetIoByte
          split <;> exact hio
        have hfail : ∀ (self : StorageService) result,
            (self.failIo result).context.ioPending =
              self.context.ioPending := by
          intro self result
          unfold failIo
          split <;> rfl
        refine ⟨by rw [hfail, hpreset], ?_⟩
        exact hprotocol.fail hfaulty _ hplan hP
          (PortRequest.Disturbs.refl _ _ _)
      · rw [hrefused] at hcall
        cases hcall
      · rw [haccepted] at hcall
        cases hcall

/-- The completion of the operation in flight arrives. -/
theorem Between.deliver (hprotocol : IoProtocol quality P)
    {request : PortRequest} {service service' : StorageService}
    {image image' : ByteBuffer} {completion : StorageIoCompletion}
    (hp : service.context.ioPending = true)
    (hc : service.context.ioCompleted = false)
    (htoken : completion.token = service.context.ioToken)
    (howner : service.TokenIsCurrent)
    (hdisturb : request.Disturbs service service' image image')
    (hland : completion.Success →
      P (service'.land service.context.ioSuccessState
        service.context.ioAdvanceBytes) image')
    (hfail : ¬ completion.Success →
      ∀ result, P (service'.failIo result) image') :
    Between quality P ⟨service'.onIoCompletion completion, image', none⟩ := by
  obtain ⟨hpend, hcomp, htok, hgen, hstate, hadvance⟩ :=
    disturbs_books hdisturb
  rw [onIoCompletion_of_match (hpend.trans hp) (hcomp.trans hc)
    (htoken.trans htok.symm)
    (fun _ => by rw [htok, hgen]; exact howner hp)]
  let received : StorageService :=
    { service' with
      context :=
        { service'.context with
          ioCompletion := completion, ioCompleted := true } }
  have hp' : received.context.ioPending = true := hpend.trans hp
  refine Between.landed hp' rfl rfl ?_
  change P received.consumeIoCompletion image'
  by_cases hsuccess : completion.Success
  · obtain ⟨book, _, hbook⟩ := consumeIoCompletion_of_success hp' rfl hsuccess
    have hP := hprotocol.book book (hland hsuccess)
    rw [← hstate, ← hadvance] at hP
    rw [hbook]
    exact hP
  · obtain ⟨book, _, hbook⟩ :=
      consumeIoCompletion_of_failure hp' rfl hsuccess
    have hreceived : received = service'.withBook
        ⟨service'.context.ioPending, true, service'.context.ioToken, completion,
          service'.context.ioSuccessState, service'.context.ioAdvanceBytes,
          service'.nextOperationId, service'.nextCorrelationId,
          service'.staleCompletionCount⟩ := rfl
    rw [hbook, hreceived, withBook_failIo]
    exact hprotocol.book book (hprotocol.book _ (hfail hsuccess _))

/-- An outstanding operation is the one that the service waits for. -/
theorem Between.in_flight (hs : Between quality P s) {call : PortCall}
    (hout : s.outstanding = some call) :
    s.service.context.ioPending = true ∧
      s.service.context.ioCompleted = false ∧
      call.token = s.service.context.ioToken ∧ s.service.TokenIsCurrent := by
  cases hs with
  | idle hio hnone hP =>
      rw [hnone] at hout
      cases hout
  | landed hp hc hnone hP =>
      rw [hnone] at hout
      cases hout
  | flying call' hp hc hout' htoken howner hF =>
      rw [hout'] at hout
      cases hout
      exact ⟨hp, hc, htoken, howner⟩

/-- A completion that belongs to no operation in flight is only counted. -/
theorem Between.stale_counted (hs : Between quality P s)
    {completion : StorageIoCompletion}
    (hstale : ∀ call, s.outstanding = some call →
      completion.token ≠ call.token) :
    s.service.onIoCompletion completion = s.service.withBook
      (s.service.staleBook (s.service.staleCompletionCount + 1)) := by
  cases hs with
  | idle hio hout hP =>
      unfold onIoCompletion
      dsimp only
      rw [if_pos (by simp [hio])]
      rfl
  | landed hp hc hout hP =>
      unfold onIoCompletion
      dsimp only
      rw [if_pos (by simp [hc])]
      rfl
  | flying call hp hc hout htoken howner hF =>
      have hne : s.service.outstandingToken ≠ some completion.token := by
        simp only [outstandingToken, hp, hc, Bool.not_false, Bool.and_true,
          if_true, ne_eq, Option.some.injEq]
        intro heq
        exact hstale call hout (heq.symm.trans htoken.symm)
      exact howner.staleIsCounted completion hne

/-- The step lemma, for a property whose quiet turns are known at this state. -/
theorem Between.step_of_turn (hprotocol : IoProtocol quality P)
    (hquiet : TurnsQuietly P s.service s.image) (hs : Between quality P s)
    (hstep : FramStep quality s s') : Between quality P s' := by
  cases hstep with
  | tick nowUs reply hclock hcall =>
      cases hs with
      | idle hio hout hP =>
          obtain ⟨hio', hP'⟩ := Between.tick_idle hprotocol hquiet hio hP
            hclock hcall
          exact Between.idle hio' hout hP'
      | landed hp hc hout hP =>
          rw [tick_of_ioPending hp]
          exact Between.idle (consumeIoCompletion_ioPending hp hc) hout hP
      | flying call hp hc hout htoken howner hF =>
          rw [tick_of_ioPending hp]
          have hsame : s.service.consumeIoCompletion = s.service := by
            unfold consumeIoCompletion
            rw [if_pos (by simp [hc])]
          simp only [hsame]
          exact Between.flying call hp hc hout htoken howner hF
  | accepted nowUs call hcall =>
      cases hs with
      | idle hio hout hP =>
          cases hplan : ioPlan s.service.context with
          | none =>
              rw [(tick_of_no_ioPlan hio hplan nowUs _).1] at hcall
              cases hcall
          | some plan =>
              rw [tick_of_ioPlan hio hplan] at hcall ⊢
              rcases orFailIo_submitIo_cases s.service.presetIoByte
                plan.request plan.successState plan.advanceBytes nowUs
                ⟨[], .accepted⟩ with
                  ⟨_, hlate⟩ | ⟨_, _, hno, _⟩ | ⟨call', _, hrequest, htoken, hacc⟩
              · rw [hlate] at hcall
                cases hcall
              · exact absurd rfl hno
              · rw [hacc] at hcall ⊢
                cases hcall
                obtain ⟨book, hbook⟩ := armIo_eq_withBook
                  s.service.presetIoByte plan.successState plan.advanceBytes
                have howner : (s.service.presetIoByte.armIo plan.successState
                    plan.advanceBytes).TokenIsCurrent := fun _ => rfl
                have hF := (Flying.of_plan hprotocol hplan hP).book hprotocol
                  book
                rw [← hbook, ← hrequest] at hF
                exact Between.flying call rfl rfl rfl htoken howner hF
      | landed hp hc hout hP =>
          rw [tick_of_ioPending hp] at hcall
          cases hcall
      | flying call hp hc hout htoken howner hF =>
          rw [tick_of_ioPending hp] at hcall
          cases hcall
  | refused nowUs reply call service' image' hfaulty hreply hcall hdisturb =>
      cases hs with
      | idle hio hout hP =>
          cases hplan : ioPlan s.service.context with
          | none =>
              rw [(tick_of_no_ioPlan hio hplan nowUs _).1] at hcall
              cases hcall
          | some plan =>
              rw [tick_of_ioPlan hio hplan] at hcall hdisturb
              rcases orFailIo_submitIo_cases s.service.presetIoByte
                plan.request plan.successState plan.advanceBytes nowUs reply
                with ⟨_, hlate⟩ | ⟨book, call', _, hrequest, hfree, hrefused⟩ |
                  ⟨_, hacc, _⟩
              · rw [hlate] at hcall
                cases hcall
              · rw [hrefused] at hcall hdisturb
                cases hcall
                have hbooks := disturbs_books hdisturb
                refine Between.idle (by rw [hbooks.1]; exact hfree) rfl ?_
                cases hplanned : plan.request with
                | read offset buffer size =>
                    rw [hrequest, hplanned] at hdisturb
                    obtain ⟨rfl, data, rfl⟩ := hdisturb
                    rw [withBook_fill, failIo_fill]
                    exact hprotocol.book book (hprotocol.fail hfaulty _ hplan
                      hP (by rw [hplanned]; exact ⟨rfl, data, rfl⟩))
                | write offset data size =>
                    rw [hrequest, hplanned] at hdisturb
                    obtain ⟨rfl, htorn⟩ := hdisturb
                    exact hprotocol.book book (hprotocol.fail hfaulty _ hplan
                      hP (by rw [hplanned]; exact ⟨rfl, htorn⟩))
              · exact absurd hacc hreply
      | landed hp hc hout hP =>
          rw [tick_of_ioPending hp] at hcall
          cases hcall
      | flying call hp hc hout htoken howner hF =>
          rw [tick_of_ioPending hp] at hcall
          cases hcall
  | progress call service' image' hout hdisturb =>
      cases hs with
      | idle hio hnone hP =>
          rw [hnone] at hout
          cases hout
      | landed hp hc hnone hP =>
          rw [hnone] at hout
          cases hout
      | flying call' hp hc hout' htoken howner hF =>
          rw [hout'] at hout
          cases hout
          obtain ⟨hpend, hcomp, htok, hgen, hstate, hadvance⟩ :=
            disturbs_books hdisturb
          have hF' := hF.disturb hdisturb
          rw [← hstate, ← hadvance] at hF'
          refine Between.flying call (by rw [hpend, hp]) (by rw [hcomp, hc]) rfl
            (by rw [htok, htoken]) ?_ hF'
          intro hp'
          rw [htok, hgen]
          exact howner hp
  | succeeded call completion hout htoken hsuccess =>
      cases hs with
      | idle hio hnone hP =>
          rw [hnone] at hout
          cases hout
      | landed hp hc hnone hP =>
          rw [hnone] at hout
          cases hout
      | flying call' hp hc hout' htoken' howner hF =>
          rw [hout'] at hout
          cases hout
          exact Between.deliver hprotocol hp hc (htoken.trans htoken') howner
            (fillService_disturbs _ _ _) (fun _ => hF.land)
            (fun hfailure => absurd hsuccess hfailure)
  | failed call completion service' image' hfaulty hout htoken hfailure
      hdisturb =>
      cases hs with
      | idle hio hnone hP =>
          rw [hnone] at hout
          cases hout
      | landed hp hc hnone hP =>
          rw [hnone] at hout
          cases hout
      | flying call' hp hc hout' htoken' howner hF =>
          rw [hout'] at hout
          cases hout
          exact Between.deliver hprotocol hp hc (htoken.trans htoken') howner
            hdisturb (fun hsuccess => absurd hsuccess hfailure)
            (fun _ => hF.fail hfaulty _ _ hdisturb)
  | stale completion hstale =>
      rw [hs.stale_counted hstale]
      cases hs with
      | idle hio hout hP =>
          exact Between.idle hio hout (hprotocol.book _ hP)
      | landed hp hc hout hP =>
          refine Between.landed hp hc hout ?_
          obtain ⟨book, hbook⟩ := s.service.consumeIoCompletion_staleBook
            (s.service.staleCompletionCount + 1)
          rw [hbook]
          exact hprotocol.book book hP
      | flying call hp hc hout htoken howner hF =>
          exact Between.flying call hp hc hout htoken howner
            (hF.book hprotocol _)

/-- The step lemma. -/
theorem Between.step (hprotocol : Protocol quality P) (hs : Between quality P s)
    (hstep : FramStep quality s s') : Between quality P s' :=
  hs.step_of_turn hprotocol.io
    (fun nowUs reply => hprotocol.quiet nowUs reply) hstep

/-- The run lemma. -/
theorem Between.run (hprotocol : Protocol quality P) (hs : Between quality P s)
    (hrun : Relation.ReflTransGen (FramStep quality) s s') :
    Between quality P s' := by
  induction hrun with
  | refl => exact hs
  | tail _ hstep ih => exact ih.step hprotocol hstep

/-- Whenever the power goes, the image is one that a failed operation or a
quiet moment leaves behind. -/
theorem Between.image (hs : Between .faulty P s) {Safe : ByteBuffer → Prop}
    (hsafe : ∀ service image, P service image → Safe image) : Safe s.image := by
  cases hs with
  | idle hio hout hP => exact hsafe _ _ hP
  | landed hp hc hout hP => exact hsafe _ _ hP
  | flying call hp hc hout htoken howner hF =>
      exact hsafe _ _
        (hF.fail rfl _ _ (PortRequest.Disturbs.refl _ _ _) .timeout)

end Between
/-! ## Runs of the system are runs of the service -/

theorem Reachable.disturbs {request : PortRequest}
    {service service' : StorageService} {image image' : ByteBuffer}
    {h : History} (hreach : Reachable service h)
    (hdisturb : request.Disturbs service service' image image') :
    Reachable service' h := by
  cases request with
  | read offset buffer size =>
      obtain ⟨_, data, rfl⟩ := hdisturb
      exact hreach.step (.portFill buffer data size)
  | write offset data size =>
      rw [hdisturb.1]
      exact hreach

theorem FramStep.reachable {quality : PortQuality} {s s' : FramSystem}
    (hstep : FramStep quality s s') {h : History}
    (hreach : Reachable s.service h) : ∃ h', Reachable s'.service h' := by
  cases hstep with
  | tick nowUs reply hclock hcall =>
      exact ⟨_, hreach.step (.tick nowUs reply)⟩
  | accepted nowUs call hcall =>
      exact ⟨_, hreach.step (.tick nowUs ⟨[], .accepted⟩)⟩
  | refused nowUs reply call service' image' hfaulty hreply hcall hdisturb =>
      have htick := hreach.step (.tick nowUs reply)
      exact ⟨_, Reachable.disturbs htick hdisturb⟩
  | progress call service' image' hout hdisturb =>
      exact ⟨_, Reachable.disturbs hreach hdisturb⟩
  | succeeded call completion hout htoken hsuccess =>
      exact ⟨_, (Reachable.disturbs hreach
        (fillService_disturbs call.request s.service s.image)).step
          (.onIoCompletion completion)⟩
  | failed call completion service' image' hfaulty hout htoken hfailure
      hdisturb =>
      exact ⟨_, (Reachable.disturbs hreach hdisturb).step
        (.onIoCompletion completion)⟩
  | stale completion hstale =>
      exact ⟨_, hreach.step (.onIoCompletion completion)⟩

theorem framRun_reachable {quality : PortQuality} {s s' : FramSystem}
    (hrun : Relation.ReflTransGen (FramStep quality) s s') {h : History}
    (hreach : Reachable s.service h) : ∃ h', Reachable s'.service h' := by
  induction hrun with
  | refl => exact ⟨h, hreach⟩
  | tail _ hstep ih =>
      obtain ⟨_, hreach'⟩ := ih
      exact hstep.reachable hreach'

/-- At a quiet moment the system is where its protocol says. -/
theorem Between.at_quiet {quality : PortQuality}
    {P : StorageService → ByteBuffer → Prop} {s : FramSystem}
    (hs : Between quality P s) (hio : s.service.context.ioPending = false) :
    s.outstanding = none ∧ P s.service s.image := by
  cases hs with
  | idle _ hout hP => exact ⟨hout, hP⟩
  | landed hp => rw [hio] at hp; cases hp
  | flying _ hp => rw [hio] at hp; cases hp

end Swfpm
