import Swfpm.Storage.FramSystem

/-!
# One commit

`CommitPhase` says, for every state of the commit sequence, what the image and
the buffers of the service hold when no operation is in flight.  It is a
protocol in the sense of `Protocol`, so that it survives any outcome of any
operation, and what it says about the image holds wherever a run is cut off.
-/

namespace Swfpm

open ByteBuffers StorageRecord StorageService

/-- A candidate and the image it is to be committed to. -/
structure CommitGoal where
  type : UInt8
  /-- The slot buffer of the service: the encoded record and zeros. -/
  body : ByteBuffer
  before : ByteBuffer
  known : slotSizeFor type ≠ 0

theorem slotSizeFor_bounds {type : UInt8} (h : slotSizeFor type ≠ 0) :
    64 ≤ slotSizeFor type ∧ slotSizeFor type ≤ 96 := by
  revert h
  unfold slotSizeFor slotVolumeSize slotConfigSize slotCalibrationSize
  split_ifs <;> omega

namespace CommitGoal

variable (g : CommitGoal)

def size : ℕ := slotSizeFor g.type

def selection : SlotSelectionResult :=
  abSlotSelect (window g.before (slotAddrFor 0 g.type)) g.size
    (window g.before (slotAddrFor 1 g.type)) g.size g.type (g.body 5)
    (leRead16 g.body 6)

def target : UInt8 := abSlotChooseTarget g.selection

def address : ℕ := slotAddrFor g.target g.type

/-- Outside the target slot nothing has changed. -/
def Frame (image : ByteBuffer) : Prop :=
  ∀ i, i < g.address ∨ g.address + g.size ≤ i → image i = g.before i

/-- The first `count` bytes of the target slot are those of the candidate. -/
def Written (image : ByteBuffer) (count : ℕ) : Prop :=
  ∀ i < count, image (g.address + i) = g.body i

def commitByte (image : ByteBuffer) : UInt8 :=
  image (g.address + g.size - 1)

/-- The target slot holds the candidate under a valid commit byte, and the
rest of the image is as it was. -/
structure Durable (image : ByteBuffer) : Prop where
  target : g.target ≠ slotIndexNone
  frame : g.Frame image
  written : g.Written image (g.size - 1)
  commit : g.commitByte image = persistCommitValid

/-- The image is untouched, or only the target slot changed and it is not
committed unless it holds the whole candidate. -/
def Safe (image : ByteBuffer) : Prop :=
  image = g.before ∨
    g.target ≠ slotIndexNone ∧ g.Frame image ∧
      (g.commitByte image = persistCommitValid →
        g.Written image (g.size - 1))

theorem size_bounds : 64 ≤ g.size ∧ g.size ≤ 96 :=
  slotSizeFor_bounds g.known

variable {g}

theorem Durable.safe {image : ByteBuffer} (h : g.Durable image) :
    g.Safe image :=
  Or.inr ⟨h.target, h.frame, fun _ => h.written⟩

/-! ## Writes into the target slot -/

/-- A torn write to the commit byte changes at most that byte. -/
theorem commitByte_torn {image image' : ByteBuffer} {value : UInt8}
    (h : Torn image image' (g.address + g.size - 1) (fun _ => value) 1) :
    (∀ i, i ≠ g.address + g.size - 1 → image' i = image i) ∧
      (g.commitByte image' = g.commitByte image ∨
        g.commitByte image' = value) := by
  constructor
  · intro i hi
    exact h.outside (by omega)
  · exact h.inside (le_refl _) (by omega)

theorem Frame.of_commitByte {image image' : ByteBuffer} (h : g.Frame image)
    (hsame : ∀ i, i ≠ g.address + g.size - 1 → image' i = image i) :
    g.Frame image' := by
  have hsize := g.size_bounds
  intro i hi
  rw [hsame i (by omega)]
  exact h i hi

theorem Written.of_commitByte {image image' : ByteBuffer}
    (h : g.Written image (g.size - 1))
    (hsame : ∀ i, i ≠ g.address + g.size - 1 → image' i = image i) :
    g.Written image' (g.size - 1) := by
  have hsize := g.size_bounds
  intro i hi
  rw [hsame _ (by omega)]
  exact h i hi

/-- A torn write of a part of the body stays inside the body. -/
theorem body_torn {image image' data : ByteBuffer} {offset count : ℕ}
    (h : Torn image image' (g.address + offset) data count)
    (hcount : offset + count ≤ g.size - 1) (hframe : g.Frame image) :
    g.Frame image' ∧ g.commitByte image' = g.commitByte image := by
  have hsize := g.size_bounds
  constructor
  · intro i hi
    rw [h.outside (by omega)]
    exact hframe i hi
  · exact h.outside (by omega)

theorem Written.extend {image : ByteBuffer} {offset : ℕ}
    (h : g.Written image offset) (count : ℕ) :
    g.Written (blit image (g.address + offset) (window g.body offset) count)
      (offset + count) := by
  intro i hi
  by_cases hlt : i < offset
  · rw [blit_outside (by omega)]
    exact h i hlt
  · rw [blit_inside (by omega) (by omega), window_apply]
    congr 1
    omega

end CommitGoal

/-! ## The phases of a commit -/

/-- The service works on the candidate of the goal. -/
structure Loaded (g : CommitGoal) (service : StorageService) : Prop where
  type : service.context.recordType = g.type
  size : service.context.slotSize = g.size
  body : service.context.slotBuffer = g.body
  pending : service.context.pending = false

structure Targeted (g : CommitGoal) (service : StorageService) : Prop extends
    Loaded g service where
  address : service.context.targetAddress = g.address
  target : g.target ≠ slotIndexNone

/-- What was read of slot A, or of slot B, is what the image holds. -/
def Scanned (g : CommitGoal) (scan : ByteBuffer) (slot : UInt8) : Prop :=
  ∀ i < g.size, scan i = g.before (slotAddrFor slot g.type + i)

/-- The image while the target slot is marked invalid. -/
structure Invalidated (g : CommitGoal) (image : ByteBuffer) : Prop where
  frame : g.Frame image
  commit : g.commitByte image = persistCommitInvalid

inductive CommitPhase (g : CommitGoal) (service : StorageService)
    (image : ByteBuffer) : Prop where
  | scanA (hstate : service.context.state = .scanA)
      (hloaded : Loaded g service) (himage : image = g.before)
  | scanB (hstate : service.context.state = .scanB)
      (hloaded : Loaded g service) (himage : image = g.before)
      (hscanA : Scanned g service.context.scanA 0)
  | prepareTarget (hstate : service.context.state = .prepareTarget)
      (hloaded : Loaded g service) (himage : image = g.before)
      (hscanA : Scanned g service.context.scanA 0)
      (hscanB : Scanned g service.context.scanB 1)
  | invalidate (hstate : service.context.state = .invalidate)
      (htarget : Targeted g service) (himage : image = g.before)
  | verifyInvalidate (hstate : service.context.state = .verifyInvalidate)
      (htarget : Targeted g service) (himage : Invalidated g image)
  | checkInvalidate (hstate : service.context.state = .checkInvalidate)
      (htarget : Targeted g service) (himage : Invalidated g image)
      (hbyte : service.context.ioByte = persistCommitInvalid)
  | writeBody (hstate : service.context.state = .writeBody)
      (htarget : Targeted g service) (himage : Invalidated g image)
      (hoffset : service.context.writeOffset ≤ g.size - 1)
      (hwritten : g.Written image service.context.writeOffset)
  | readbackBody (hstate : service.context.state = .readbackBody)
      (htarget : Targeted g service) (himage : Invalidated g image)
      (hwritten : g.Written image (g.size - 1))
      (hoffset : service.context.writeOffset ≤ g.size - 1)
      (hread : ∀ i < service.context.writeOffset,
        service.context.readback i = g.body i)
  | verifyBody (hstate : service.context.state = .verifyBody)
      (htarget : Targeted g service) (himage : Invalidated g image)
      (hwritten : g.Written image (g.size - 1))
      (hread : ∀ i < g.size - 1, service.context.readback i = g.body i)
  | commit (hstate : service.context.state = .commit)
      (htarget : Targeted g service) (himage : Invalidated g image)
      (hwritten : g.Written image (g.size - 1))
  | verifyCommit (hstate : service.context.state = .verifyCommit)
      (htarget : Targeted g service) (himage : g.Durable image)
  | checkCommit (hstate : service.context.state = .checkCommit)
      (htarget : Targeted g service) (himage : g.Durable image)
      (hbyte : service.context.ioByte = persistCommitValid)
  | complete (hstate : service.context.state = .complete)
      (hpending : service.context.pending = false)
      (hready : service.completionReady = true)
      (hstatus : service.lastCompletion.status = .ok)
      (himage : g.Durable image)
  | failed (hstate : service.context.state = .failed)
      (hpending : service.context.pending = false)
      (hready : service.completionReady = true)
      (hstatus : service.lastCompletion.status ≠ .ok)
      (himage : g.Safe image)

theorem Invalidated.safe {g : CommitGoal} {image : ByteBuffer}
    (h : Invalidated g image) (htarget : g.target ≠ slotIndexNone) :
    g.Safe image := by
  refine Or.inr ⟨htarget, h.frame, fun hvalid => ?_⟩
  rw [h.commit] at hvalid
  exact absurd hvalid (by decide)

theorem CommitPhase.safe {g : CommitGoal} {service : StorageService}
    {image : ByteBuffer} (h : CommitPhase g service image) : g.Safe image := by
  cases h with
  | scanA _ _ himage | scanB _ _ himage | prepareTarget _ _ himage =>
      exact Or.inl himage
  | invalidate _ _ himage => exact Or.inl himage
  | verifyInvalidate _ htarget himage | checkInvalidate _ htarget himage
  | writeBody _ htarget himage | readbackBody _ htarget himage
  | verifyBody _ htarget himage | commit _ htarget himage =>
      exact himage.safe htarget.target
  | verifyCommit _ _ himage | checkCommit _ _ himage => exact himage.safe
  | complete _ _ _ _ himage => exact himage.safe
  | failed _ _ _ _ himage => exact himage

/-! ## Steps that keep the task -/

/-- The two services work on the same candidate and the same target. -/
structure SameTask (service service' : StorageService) : Prop where
  type : service'.context.recordType = service.context.recordType
  size : service'.context.slotSize = service.context.slotSize
  body : service'.context.slotBuffer = service.context.slotBuffer
  pending : service'.context.pending = service.context.pending
  address : service'.context.targetAddress = service.context.targetAddress

section Task

variable {g : CommitGoal} {service service' service'' : StorageService}
  {image image' : ByteBuffer}

theorem SameTask.trans (h : SameTask service service')
    (h' : SameTask service' service'') : SameTask service service'' :=
  ⟨h'.type.trans h.type, h'.size.trans h.size, h'.body.trans h.body,
    h'.pending.trans h.pending, h'.address.trans h.address⟩

theorem Loaded.transfer (h : Loaded g service)
    (htask : SameTask service service') : Loaded g service' :=
  ⟨htask.type.trans h.type, htask.size.trans h.size, htask.body.trans h.body,
    htask.pending.trans h.pending⟩

theorem Targeted.transfer (h : Targeted g service)
    (htask : SameTask service service') : Targeted g service' :=
  ⟨h.toLoaded.transfer htask, htask.address.trans h.address, h.target⟩

theorem sameTask_book (service : StorageService) (book : PortBook) :
    SameTask service (service.withBook book) :=
  ⟨rfl, rfl, rfl, rfl, rfl⟩

theorem sameTask_presetIoByte (service : StorageService) :
    SameTask service service.presetIoByte := by
  unfold presetIoByte
  split <;> exact ⟨rfl, rfl, rfl, rfl, rfl⟩

theorem sameTask_fill (service : StorageService) (buffer : ReadBuffer)
    (data : ByteBuffer) (size : ℕ) :
    SameTask service (service.fill buffer data size) := by
  cases buffer <;> exact ⟨rfl, rfl, rfl, rfl, rfl⟩

theorem sameTask_disturbs {request : PortRequest}
    (h : request.Disturbs service service' image image') :
    SameTask service service' ∧
      service'.context.state = service.context.state := by
  cases request with
  | read offset buffer size =>
      obtain ⟨_, data, rfl⟩ := h
      exact ⟨sameTask_fill _ _ _ _, by cases buffer <;> rfl⟩
  | write offset data size =>
      obtain ⟨rfl, _⟩ := h
      exact ⟨⟨rfl, rfl, rfl, rfl, rfl⟩, rfl⟩

theorem sameTask_land (service : StorageService) (state : StorageServiceState)
    (advanceBytes : ℕ) : SameTask service (service.land state advanceBytes) :=
  ⟨rfl, rfl, rfl, rfl, rfl⟩

/-! ## The protocol -/

theorem CommitPhase.book (book : PortBook) (h : CommitPhase g service image) :
    CommitPhase g (service.withBook book) image := by
  have htask := sameTask_book service book
  cases h with
  | scanA hstate hloaded himage =>
      exact .scanA hstate (hloaded.transfer htask) himage
  | scanB hstate hloaded himage hscanA =>
      exact .scanB hstate (hloaded.transfer htask) himage hscanA
  | prepareTarget hstate hloaded himage hscanA hscanB =>
      exact .prepareTarget hstate (hloaded.transfer htask) himage hscanA hscanB
  | invalidate hstate htarget himage =>
      exact .invalidate hstate (htarget.transfer htask) himage
  | verifyInvalidate hstate htarget himage =>
      exact .verifyInvalidate hstate (htarget.transfer htask) himage
  | checkInvalidate hstate htarget himage hbyte =>
      exact .checkInvalidate hstate (htarget.transfer htask) himage hbyte
  | writeBody hstate htarget himage hoffset hwritten =>
      exact .writeBody hstate (htarget.transfer htask) himage hoffset hwritten
  | readbackBody hstate htarget himage hwritten hoffset hread =>
      exact .readbackBody hstate (htarget.transfer htask) himage hwritten
        hoffset hread
  | verifyBody hstate htarget himage hwritten hread =>
      exact .verifyBody hstate (htarget.transfer htask) himage hwritten hread
  | commit hstate htarget himage hwritten =>
      exact .commit hstate (htarget.transfer htask) himage hwritten
  | verifyCommit hstate htarget himage =>
      exact .verifyCommit hstate (htarget.transfer htask) himage
  | checkCommit hstate htarget himage hbyte =>
      exact .checkCommit hstate (htarget.transfer htask) himage hbyte
  | complete hstate hpending hready hstatus himage =>
      exact .complete hstate hpending hready hstatus himage
  | failed hstate hpending hready hstatus himage =>
      exact .failed hstate hpending hready hstatus himage

/-- A commit that ends without `STORAGE_COMMIT_OK` over a safe image. -/
theorem CommitPhase.of_finishCommit {status : StorageCommitStatus}
    (hstatus : status ≠ .ok) (hpending : service.context.pending = false)
    (himage : g.Safe image) :
    CommitPhase g (service.finishCommit status) image :=
  .failed (if_neg hstatus) hpending rfl hstatus himage

theorem CommitPhase.of_failIo (result : StorageIoResult)
    (hstate : isRestoreState service.context.state = false)
    (hpending : service.context.pending = false) (himage : g.Safe image) :
    CommitPhase g (service.failIo result) image := by
  unfold failIo
  rw [if_neg (by simp [hstate])]
  apply CommitPhase.of_finishCommit _ hpending himage
  split <;> simp

theorem CommitPhase.pending (h : CommitPhase g service image) :
    service.context.pending = false := by
  cases h with
  | scanA _ hloaded | scanB _ hloaded | prepareTarget _ hloaded =>
      exact hloaded.pending
  | invalidate _ htarget | verifyInvalidate _ htarget
  | checkInvalidate _ htarget | writeBody _ htarget | readbackBody _ htarget
  | verifyBody _ htarget | commit _ htarget | verifyCommit _ htarget
  | checkCommit _ htarget => exact htarget.pending
  | complete _ hpending | failed _ hpending => exact hpending

theorem CommitPhase.not_restoring (h : CommitPhase g service image) :
    isRestoreState service.context.state = false := by
  cases h with
  | scanA hstate | scanB hstate | prepareTarget hstate | invalidate hstate
  | verifyInvalidate hstate | checkInvalidate hstate | writeBody hstate
  | readbackBody hstate | verifyBody hstate | commit hstate
  | verifyCommit hstate | checkCommit hstate | complete hstate
  | failed hstate =>
      rw [hstate]
      rfl

theorem Targeted.commitByteAddress (h : Targeted g service) :
    commitByteAddress service.context = g.address + g.size - 1 := by
  rw [StorageService.commitByteAddress, h.address, h.size]

/-- The chunk at the write offset does not reach the commit byte. -/
theorem Loaded.bodyChunk (h : Loaded g service)
    (hmore : ¬ service.context.writeOffset ≥ service.context.slotSize - 1) :
    0 < bodyChunk service.context ∧
      service.context.writeOffset + bodyChunk service.context ≤
        g.size - 1 := by
  rw [h.size] at hmore
  unfold StorageService.bodyChunk storageBodyChunkBytes
  rw [h.size]
  split <;> omega

/-- Whatever the operation of the phase leaves behind when it fails, the
image is safe. -/
theorem CommitPhase.disturbed {plan : IoPlan}
    (h : CommitPhase g service image)
    (hplan : ioPlan service.context = some plan)
    (hdisturb : plan.request.Disturbs service.presetIoByte service' image
      image') : g.Safe image' := by
  have hsafe := h.safe
  have hread : image' = image → g.Safe image' := fun himage => by
    rw [himage]
    exact hsafe
  cases h with
  | scanA hstate | scanB hstate | verifyInvalidate hstate
  | verifyCommit hstate =>
      simp only [ioPlan, hstate, Option.some.injEq] at hplan
      subst hplan
      exact hread hdisturb.1
  | readbackBody hstate htarget himage hwritten hoffset =>
      simp only [ioPlan, hstate] at hplan
      split at hplan
      · cases hplan
      · cases hplan
        exact hread hdisturb.1
  | invalidate hstate htarget himage =>
      simp only [ioPlan, hstate, Option.some.injEq] at hplan
      subst hplan
      have htorn := hdisturb.2
      rw [htarget.commitByteAddress] at htorn
      obtain ⟨hsame, hbyte⟩ := CommitGoal.commitByte_torn htorn
      subst himage
      have hframe : g.Frame image' :=
        CommitGoal.Frame.of_commitByte (fun i _ => rfl) hsame
      rcases hbyte with hold | hnew
      · left
        funext i
        by_cases hi : i = g.address + g.size - 1
        · rw [hi]
          exact hold
        · exact hsame i hi
      · exact (Invalidated.mk hframe hnew).safe htarget.target
  | writeBody hstate htarget himage hoffset hwritten =>
      simp only [ioPlan, hstate] at hplan
      split at hplan
      · cases hplan
      · rename_i hmore
        cases hplan
        have htorn := hdisturb.2
        rw [htarget.address] at htorn
        obtain ⟨hframe, hbyte⟩ := CommitGoal.body_torn htorn
          (htarget.toLoaded.bodyChunk hmore).2 himage.frame
        exact (Invalidated.mk hframe (hbyte.trans himage.commit)).safe
          htarget.target
  | commit hstate htarget himage hwritten =>
      simp only [ioPlan, hstate, Option.some.injEq] at hplan
      subst hplan
      have htorn := hdisturb.2
      rw [htarget.commitByteAddress] at htorn
      obtain ⟨hsame, _⟩ := CommitGoal.commitByte_torn htorn
      exact Or.inr ⟨htarget.target, himage.frame.of_commitByte hsame,
        fun _ => hwritten.of_commitByte hsame⟩
  | prepareTarget hstate | checkInvalidate hstate | verifyBody hstate
  | checkCommit hstate | complete hstate | failed hstate =>
      simp [ioPlan, hstate] at hplan

theorem CommitPhase.fail {plan : IoPlan} (result : StorageIoResult)
    (hplan : ioPlan service.context = some plan)
    (h : CommitPhase g service image)
    (hdisturb : plan.request.Disturbs service.presetIoByte service' image
      image') : CommitPhase g (service'.failIo result) image' := by
  have hpreset : service.presetIoByte.context.state =
      service.context.state := by
    unfold presetIoByte
    split <;> rfl
  obtain ⟨htask, hstate⟩ := sameTask_disturbs hdisturb
  apply CommitPhase.of_failIo
  · rw [hstate, hpreset]
    exact h.not_restoring
  · rw [htask.pending, (sameTask_presetIoByte service).pending]
    exact h.pending
  · exact h.disturbed hplan hdisturb

/-- A successful operation leads to the next phase. -/
theorem CommitPhase.land {plan : IoPlan}
    (hplan : ioPlan service.context = some plan)
    (h : CommitPhase g service image) :
    CommitPhase g
      ((plan.request.fillService service.presetIoByte image).land
        plan.successState plan.advanceBytes)
      (plan.request.storeImage image) := by
  have htask : SameTask service
      ((plan.request.fillService service.presetIoByte image).land
        plan.successState plan.advanceBytes) :=
    ((sameTask_presetIoByte service).trans
      (sameTask_disturbs (fillService_disturbs plan.request _ image)).1).trans
        (sameTask_land _ _ _)
  cases h with
  | scanA hstate hloaded himage =>
      have hloaded' := hloaded.transfer htask
      simp only [ioPlan, hstate, Option.some.injEq] at hplan
      subst hplan
      refine .scanB rfl hloaded' himage fun i hi => ?_
      rw [← hloaded.size] at hi
      simp only [presetIoByte, hstate]
      rw [← himage, ← hloaded.type]
      exact blit_window_inside _ image (Nat.zero_le i) (by omega)
  | scanB hstate hloaded himage hscanA =>
      have hloaded' := hloaded.transfer htask
      simp only [ioPlan, hstate, Option.some.injEq] at hplan
      subst hplan
      refine .prepareTarget rfl hloaded' himage ?_ fun i hi => ?_
      · simp only [presetIoByte, hstate]
        exact hscanA
      · rw [← hloaded.size] at hi
        simp only [presetIoByte, hstate]
        rw [← himage, ← hloaded.type]
        exact blit_window_inside _ image (Nat.zero_le i) (by omega)
  | invalidate hstate htarget himage =>
      have htarget' := htarget.transfer htask
      simp only [ioPlan, hstate, Option.some.injEq] at hplan
      subst hplan
      refine .verifyInvalidate rfl htarget' ⟨?_, ?_⟩
      all_goals
        simp only [PortRequest.storeImage, htarget.commitByteAddress, himage]
      · have hsize := g.size_bounds
        intro i hi
        exact blit_outside (by omega)
      · exact blit_inside (le_refl _) (by omega)
  | verifyInvalidate hstate htarget himage =>
      have htarget' := htarget.transfer htask
      simp only [ioPlan, hstate, Option.some.injEq] at hplan
      subst hplan
      refine .checkInvalidate rfl htarget' himage ?_
      simp only [presetIoByte, hstate]
      rw [← himage.commit, CommitGoal.commitByte, ← htarget.commitByteAddress]
      exact blit_window_inside (fun _ => service.context.ioByte) image
        (le_refl 0) (show 0 < 0 + 1 from Nat.one_pos)
  | writeBody hstate htarget himage hoffset hwritten =>
      have htarget' := htarget.transfer htask
      simp only [ioPlan, hstate] at hplan
      split at hplan
      · cases hplan
      · rename_i hmore
        cases hplan
        have hchunk := (htarget.toLoaded.bodyChunk hmore).2
        have hpreset : service.presetIoByte = service := by
          simp only [presetIoByte, hstate]
        have htorn := Torn.complete image
          (window service.context.slotBuffer service.context.writeOffset)
          (service.context.targetAddress + service.context.writeOffset)
          (bodyChunk service.context)
        rw [htarget.address, htarget.body] at htorn
        obtain ⟨hframe, hbyte⟩ :=
          CommitGoal.body_torn htorn hchunk himage.frame
        have hmore' := hwritten.extend (bodyChunk service.context)
        refine .writeBody rfl htarget' ?_ ?_ ?_
        · simp only [PortRequest.storeImage, htarget.address, htarget.body]
          exact ⟨hframe, hbyte.trans himage.commit⟩
        · simp only [PortRequest.fillService, hpreset]
          exact hchunk
        · simp only [PortRequest.storeImage, PortRequest.fillService, hpreset,
            htarget.address, htarget.body]
          exact hmore'
  | readbackBody hstate htarget himage hwritten hoffset hread =>
      have htarget' := htarget.transfer htask
      simp only [ioPlan, hstate] at hplan
      split at hplan
      · cases hplan
      · rename_i hmore
        cases hplan
        have hchunk := (htarget.toLoaded.bodyChunk hmore).2
        have hpreset : service.presetIoByte = service := by
          simp only [presetIoByte, hstate]
        refine .readbackBody rfl htarget' himage hwritten ?_ fun i hi => ?_
        · simp only [PortRequest.fillService, hpreset]
          exact hchunk
        · simp only [PortRequest.fillService, hpreset] at hi ⊢
          change i < service.context.writeOffset + bodyChunk service.context at hi
          change blit service.context.readback service.context.writeOffset
            (window image _) (bodyChunk service.context) i = g.body i
          by_cases hlt : i < service.context.writeOffset
          · rw [blit_outside (Or.inl hlt)]
            exact hread i hlt
          · rw [blit_window_inside _ image (by omega) (by omega),
              htarget.address, ← hwritten i (by omega)]
            congr 1
            omega
  | commit hstate htarget himage hwritten =>
      have htarget' := htarget.transfer htask
      simp only [ioPlan, hstate, Option.some.injEq] at hplan
      subst hplan
      have hsame : ∀ i, i ≠ g.address + g.size - 1 →
          blit image (g.address + g.size - 1) (fun _ => persistCommitValid) 1 i =
            image i :=
        fun i hi => blit_outside (by omega)
      refine .verifyCommit rfl htarget' ?_
      simp only [PortRequest.storeImage, htarget.commitByteAddress]
      exact ⟨htarget.target, himage.frame.of_commitByte hsame,
        hwritten.of_commitByte hsame, blit_inside (le_refl _) (by omega)⟩
  | verifyCommit hstate htarget himage =>
      have htarget' := htarget.transfer htask
      simp only [ioPlan, hstate, Option.some.injEq] at hplan
      subst hplan
      refine .checkCommit rfl htarget' himage ?_
      simp only [presetIoByte, hstate]
      rw [← himage.commit, CommitGoal.commitByte, ← htarget.commitByteAddress]
      exact blit_window_inside (fun _ => service.context.ioByte) image
        (le_refl 0) (show 0 < 0 + 1 from Nat.one_pos)
  | prepareTarget hstate | checkInvalidate hstate | verifyBody hstate
  | checkCommit hstate | complete hstate | failed hstate =>
      simp [ioPlan, hstate] at hplan

theorem Scanned.selection {scanA scanB : ByteBuffer}
    (hA : Scanned g scanA 0) (hB : Scanned g scanB 1) :
    abSlotSelect scanA g.size scanB g.size g.type (g.body 5)
      (leRead16 g.body 6) = g.selection :=
  abSlotSelect_congr g.size_bounds.1 hA hB

/-- A turn without a port operation leads to the next phase.  The checks of
the commit pass, so that only the choice of the target can fail. -/
theorem CommitPhase.quiet (nowUs : UInt64) (reply : PortReply)
    (hio : service.context.ioPending = false)
    (hplan : ioPlan service.context = none)
    (h : CommitPhase g service image) :
    CommitPhase g (service.tick nowUs reply).1 image ∧
      ((service.tick nowUs reply).1.context.state = .failed →
        g.target = slotIndexNone ∨ service.context.state = .failed) := by
  have hpending := h.pending
  have hsize := g.size_bounds
  unfold tick
  dsimp only
  rw [if_neg (by simp [hio]), if_neg (by simp [hpending])]
  cases h with
  | prepareTarget hstate hloaded himage hscanA hscanB =>
      simp only [hstate]
      unfold chooseTarget
      simp only [hloaded.size, hloaded.type, hloaded.body,
        hscanA.selection hscanB]
      by_cases htarget : abSlotChooseTarget g.selection = slotIndexNone
      · rw [if_pos htarget]
        refine ⟨.of_finishCommit ?_ hpending (Or.inl himage),
          fun _ => Or.inl htarget⟩
        split <;> simp
      · rw [if_neg htarget]
        exact ⟨.invalidate rfl ⟨⟨rfl, rfl, rfl, hpending⟩, rfl, htarget⟩ himage,
          nofun⟩
  | checkInvalidate hstate htarget himage hbyte =>
      simp only [hstate]
      rw [if_neg (by rw [hbyte]; decide)]
      exact ⟨.writeBody rfl (htarget.transfer ⟨rfl, rfl, rfl, rfl, rfl⟩) himage
        (Nat.zero_le _) fun i hi => absurd hi (Nat.not_lt_zero i), nofun⟩
  | writeBody hstate htarget himage hoffset hwritten =>
      simp only [hstate]
      have hdone : service.context.writeOffset ≥
          service.context.slotSize - 1 := by
        by_contra hmore
        simp [ioPlan, hstate, hmore] at hplan
      rw [if_pos hdone]
      have heq : service.context.writeOffset = g.size - 1 := by
        rw [htarget.size] at hdone
        omega
      rw [heq] at hwritten
      exact ⟨.readbackBody rfl (htarget.transfer ⟨rfl, rfl, rfl, rfl, rfl⟩)
        himage hwritten (Nat.zero_le _)
        fun i hi => absurd hi (Nat.not_lt_zero i), nofun⟩
  | readbackBody hstate htarget himage hwritten hoffset hread =>
      simp only [hstate]
      have hdone : service.context.writeOffset ≥
          service.context.slotSize - 1 := by
        by_contra hmore
        simp [ioPlan, hstate, hmore] at hplan
      rw [if_pos hdone]
      refine ⟨.verifyBody rfl (htarget.transfer ⟨rfl, rfl, rfl, rfl, rfl⟩)
        himage hwritten fun i hi => hread i ?_, nofun⟩
      rw [htarget.size] at hdone
      omega
  | verifyBody hstate htarget himage hwritten hread =>
      simp only [hstate]
      have hsame : sameBytes service.context.slotBuffer
          service.context.readback (service.context.slotSize - 1) = true := by
        rw [sameBytes_eq_true_iff, htarget.size, htarget.body]
        exact fun i hi => (hread i hi).symm
      rw [if_neg (by simp [hsame])]
      exact ⟨.commit rfl (htarget.transfer ⟨rfl, rfl, rfl, rfl, rfl⟩) himage
        hwritten, nofun⟩
  | checkCommit hstate htarget himage hbyte =>
      simp only [hstate]
      rw [if_neg (by simp [hbyte])]
      exact ⟨.complete rfl hpending rfl rfl himage, nofun⟩
  | complete hstate hpending hready hstatus himage =>
      simp only [hstate]
      exact ⟨.complete hstate hpending hready hstatus himage, Or.inr⟩
  | failed hstate hpending hready hstatus himage =>
      simp only [hstate]
      exact ⟨.failed hstate hpending hready hstatus himage, Or.inr⟩
  | scanA hstate | scanB hstate | invalidate hstate | verifyInvalidate hstate
  | commit hstate | verifyCommit hstate =>
      simp [ioPlan, hstate] at hplan

theorem commitPhase_protocol (g : CommitGoal) :
    Protocol .faulty (CommitPhase g) where
  book book h := h.book book
  quiet nowUs reply hio hplan h := (h.quiet nowUs reply hio hplan).1
  land hplan h := h.land hplan
  fail _ _ _ _ _ _ result hplan h hdisturb := h.fail result hplan hdisturb

/-- A commit that has a target and has not failed. -/
structure CommitRuns (g : CommitGoal) (service : StorageService)
    (image : ByteBuffer) : Prop where
  phase : CommitPhase g service image
  target : g.target ≠ slotIndexNone
  alive : service.context.state ≠ .failed

/-- On a working port a commit that has a target does not fail. -/
theorem commitRuns_protocol (g : CommitGoal) :
    Protocol .working (CommitRuns g) where
  book book h := ⟨h.phase.book book, h.target, h.alive⟩
  quiet nowUs reply hio hplan h := by
    obtain ⟨hphase, hfailed⟩ := h.phase.quiet nowUs reply hio hplan
    exact ⟨hphase, h.target, fun hs => (hfailed hs).elim h.target h.alive⟩
  land {s m plan} hplan h := by
    refine ⟨h.phase.land hplan, h.target, fun hs => ?_⟩
    have hw := (ioSuccessor_isWorking (ioPlan_ioSuccessor hplan)).2
    rw [show plan.successState = .failed from hs] at hw
    exact absurd hw (by decide)
  fail hfaulty := by cases hfaulty

end Task
end Swfpm
