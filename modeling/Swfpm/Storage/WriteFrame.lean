import Swfpm.Storage.Commit

/-!
# Where a commit writes

Runs of the storage service with callers at work at any time: candidates are
submitted, replaced while they wait and promoted, restores come in between, and
operations fail in any way.  Whatever the service writes in such a run lies in
the slot that `ab_slot_choose_target` chose when its commit scanned the image.

What waits in the pending buffer has no part in that, so the invariant speaks
about the service with the pending buffer erased.
-/

namespace Swfpm

open ByteBuffers StorageRecord StorageService

namespace StorageService

/-! ## The pending buffer erased -/

/-- The service as it would stand if nothing had been submitted while it was
at work. -/
def erasePending (self : StorageService) : StorageService :=
  { self with
    context :=
      { self.context with
        pending := false
        pendingBuffer := zeros
        pendingLength := 0
        pendingVersion := 0
        pendingSequence := 0
        pendingType := 0 } }

section Erase

variable {self : StorageService}

theorem erasePending_state :
    self.erasePending.context.state = self.context.state :=
  rfl

theorem erasePending_fill (self : StorageService) (buffer : ReadBuffer)
    (data : ByteBuffer) (size : ℕ) :
    (self.fill buffer data size).erasePending =
      self.erasePending.fill buffer data size := by
  cases buffer <;> rfl

theorem erasePending_presetIoByte (self : StorageService) :
    self.presetIoByte.erasePending = self.erasePending.presetIoByte := by
  unfold presetIoByte
  rw [erasePending_state]
  split <;> rfl

theorem erasePending_fillService (request : PortRequest)
    (self : StorageService) (image : ByteBuffer) :
    (request.fillService self image).erasePending =
      request.fillService self.erasePending image := by
  cases request with
  | read offset buffer size => exact erasePending_fill _ _ _ _
  | write offset data size => rfl

theorem erasePending_chooseTarget (self : StorageService) :
    self.chooseTarget.erasePending = self.erasePending.chooseTarget := by
  unfold chooseTarget
  dsimp only
  split
  · rename_i hnone
    exact (if_pos hnone).symm
  · rename_i hsome
    exact (if_neg hsome).symm

theorem erasePending_failIo (self : StorageService)
    (result : StorageIoResult) :
    (self.failIo result).erasePending = self.erasePending.failIo result := by
  unfold failIo
  rw [erasePending_state]
  split <;> rfl

theorem erasePending_consumeIoCompletion (self : StorageService) :
    self.consumeIoCompletion.erasePending =
      self.erasePending.consumeIoCompletion := by
  unfold consumeIoCompletion
  dsimp only
  by_cases hidle : (!self.context.ioPending || !self.context.ioCompleted) = true
  · rw [if_pos hidle, if_pos (show (!self.erasePending.context.ioPending ||
      !self.erasePending.context.ioCompleted) = true from hidle)]
  · rw [if_neg hidle, if_neg (show ¬ (!self.erasePending.context.ioPending ||
      !self.erasePending.context.ioCompleted) = true from hidle)]
    by_cases hfailure : (self.context.ioCompletion.result ≠ .ok ||
        self.context.ioCompletion.transferredLength ≠
          self.context.ioCompletion.requestedLength : Bool) = true
    · rw [if_pos hfailure, erasePending_failIo]
      exact (if_pos hfailure).symm
    · rw [if_neg hfailure]
      exact (if_neg hfailure).symm

/-- In the course of a commit a turn without a port operation does not look
at the pending buffer. -/
theorem erasePending_tick (hio : self.context.ioPending = false)
    (hactive : isActive self.context.state = true)
    (hplan : ioPlan self.context = none) (nowUs : UInt64)
    (reply : PortReply) :
    (self.tick nowUs reply).1.erasePending =
      (self.erasePending.tick nowUs reply).1 := by
  have hpromotes : ∀ service : StorageService,
      service.context.state = self.context.state →
        ¬ ((service.context.state = .complete ||
          service.context.state = .failed : Bool) && service.context.pending &&
            !service.completionReady) = true := by
    intro service hsame h
    simp only [Bool.and_eq_true, Bool.or_eq_true, decide_eq_true_eq, hsame] at h
    rcases h.1.1 with hs | hs <;> rw [hs] at hactive <;> cases hactive
  unfold tick
  dsimp only
  rw [if_neg (by simp [hio]), if_neg (hpromotes self rfl),
    if_neg (show ¬ self.erasePending.context.ioPending = true by
      simp [erasePending, hio]),
    if_neg (hpromotes self.erasePending rfl)]
  cases hs : self.context.state <;> rw [hs] at hactive <;>
    try exact absurd hactive (by decide)
  case scanA | scanB | invalidate | verifyInvalidate | commit | verifyCommit =>
    simp [ioPlan, hs] at hplan
  case prepareTarget =>
    simp only [erasePending_state, hs]
    exact erasePending_chooseTarget self
  case checkInvalidate | checkCommit | verifyBody =>
    simp only [erasePending_state, hs]
    split <;> rename_i hcheck <;> split <;> rename_i herased
    · rfl
    · exact absurd hcheck herased
    · exact absurd herased hcheck
    · rfl
  case writeBody | readbackBody =>
    have hdone : self.context.writeOffset ≥ self.context.slotSize - 1 := by
      by_contra hmore
      simp [ioPlan, hs, hmore] at hplan
    simp only [erasePending_state, hs]
    rw [if_pos hdone, if_pos (show self.erasePending.context.writeOffset ≥
      self.erasePending.context.slotSize - 1 from hdone)]
    rfl

end Erase

end StorageService

/-! ## The slot map -/

/-- Past the last slot the memory is reserved. -/
def slotsEnd : ℕ := 0x1C0

/-- A range of bytes lies apart from a slot. -/
def Spares (offset size : ℕ) (type slot : UInt8) : Prop :=
  offset + size ≤ slotAddrFor slot type ∨
    slotAddrFor slot type + slotSizeFor type ≤ offset

/-- `ab_slot_select` over the slot pair of a record type, with the schema and
the payload length of a candidate. -/
def pairSelection (type : UInt8) (candidate image : ByteBuffer) :
    SlotSelectionResult :=
  abSlotSelect (window image (slotAddrFor 0 type)) (slotSizeFor type)
    (window image (slotAddrFor 1 type)) (slotSizeFor type) type (candidate 5)
    (leRead16 candidate 6)

/-- The slot pair on the image holds no protected record, and the range lies
apart from the slot that is selected, if one is. -/
structure SparesRecords (type : UInt8) (candidate image : ByteBuffer)
    (offset size : ℕ) : Prop where
  reasonA : slotReasonIsProtected
    (pairSelection type candidate image).reasonA = false
  reasonB : slotReasonIsProtected
    (pairSelection type candidate image).reasonB = false
  selected : ∀ slot, Selects (pairSelection type candidate image) slot →
    Spares offset size type slot

/-- The range lies in the slot that `ab_slot_choose_target` chooses on the
image `chosen`, and nowhere else; `image` is what it is about to change. -/
structure WritesTarget (type : UInt8) (candidate chosen image : ByteBuffer)
    (offset size : ℕ) : Prop where
  target : abSlotChooseTarget (pairSelection type candidate chosen) ≠
    slotIndexNone
  lower : slotAddrFor (abSlotChooseTarget
    (pairSelection type candidate chosen)) type ≤ offset
  upper : offset + size ≤ slotAddrFor (abSlotChooseTarget
    (pairSelection type candidate chosen)) type + slotSizeFor type
  before : SparesRecords type candidate chosen offset size
  now : SparesRecords type candidate image offset size
  others : ∀ type', type' ≠ type → slotSizeFor type' ≠ 0 →
    ∀ slot, Spares offset size type' slot
  reserved : offset + size ≤ slotsEnd

theorem slotSizeFor_known {type : UInt8} (h : slotSizeFor type ≠ 0) :
    type = persistRecordVolume ∨ type = persistRecordConfig ∨
      type = persistRecordCalibration := by
  by_contra hunknown
  simp only [not_or] at hunknown
  refine h ?_
  rw [slotSizeFor, if_neg hunknown.1, if_neg hunknown.2.1, if_neg hunknown.2.2]

theorem slotAddrFor_cases (slot type : UInt8) :
    slotAddrFor slot type = slotAddrFor 0 type ∨
      slotAddrFor slot type = slotAddrFor 1 type := by
  by_cases h : slot = 0
  · exact Or.inl (by rw [h])
  · right
    simp [slotAddrFor, h]

/-- Slots of different record types lie apart. -/
theorem slots_apart {type type' : UInt8} (hknown : slotSizeFor type ≠ 0)
    (hknown' : slotSizeFor type' ≠ 0) (hne : type' ≠ type)
    (slot slot' : UInt8) :
    slotAddrFor slot type + slotSizeFor type ≤ slotAddrFor slot' type' ∨
      slotAddrFor slot' type' + slotSizeFor type' ≤ slotAddrFor slot type := by
  rcases slotSizeFor_known hknown with rfl | rfl | rfl <;>
    rcases slotSizeFor_known hknown' with rfl | rfl | rfl <;>
    try exact absurd rfl hne
  all_goals
    rcases slotAddrFor_cases slot _ with h | h <;>
      rcases slotAddrFor_cases slot' _ with h' | h' <;> rw [h, h'] <;> decide

/-- The two slots of a pair lie apart. -/
theorem pair_apart {type : UInt8} (hknown : slotSizeFor type ≠ 0)
    {slot slot' : UInt8} (hs : IsSlot slot) (hs' : IsSlot slot')
    (hne : slot' ≠ slot) :
    slotAddrFor slot type + slotSizeFor type ≤ slotAddrFor slot' type ∨
      slotAddrFor slot' type + slotSizeFor type ≤ slotAddrFor slot type := by
  rcases slotSizeFor_known hknown with rfl | rfl | rfl <;>
    rcases hs with rfl | rfl <;> rcases hs' with rfl | rfl <;>
    first | exact absurd rfl hne | decide

theorem slot_below_slotsEnd {type : UInt8} (hknown : slotSizeFor type ≠ 0)
    (slot : UInt8) : slotAddrFor slot type + slotSizeFor type ≤ slotsEnd := by
  rcases slotSizeFor_known hknown with rfl | rfl | rfl <;>
    rcases slotAddrFor_cases slot _ with h | h <;> rw [h] <;> decide

section Target

variable {g : CommitGoal} {image : ByteBuffer} {offset size : ℕ}

theorem CommitGoal.target_isSlot (htarget : g.target ≠ slotIndexNone) :
    IsSlot g.target :=
  (abSlotChooseTarget_spec htarget).2.2.2.1

/-- A range inside the target slot lies apart from the other slot. -/
theorem CommitGoal.spares_other (htarget : g.target ≠ slotIndexNone)
    (hlo : g.address ≤ offset) (hhi : offset + size ≤ g.address + g.size)
    {slot : UInt8} (hs : IsSlot slot) (hne : slot ≠ g.target) :
    Spares offset size g.type slot := by
  change slotAddrFor g.target g.type ≤ offset at hlo
  change offset + size ≤ slotAddrFor g.target g.type + slotSizeFor g.type at hhi
  rcases pair_apart g.known (CommitGoal.target_isSlot htarget) hs hne with
    h | h
  · left
    omega
  · right
    omega

/-- The image on which the target was chosen. -/
theorem CommitGoal.sparesRecords_before (htarget : g.target ≠ slotIndexNone)
    (hlo : g.address ≤ offset) (hhi : offset + size ≤ g.address + g.size) :
    SparesRecords g.type g.body g.before offset size := by
  obtain ⟨_, hA, hB, _, hother⟩ := abSlotChooseTarget_spec htarget
  refine ⟨hA, hB, fun slot hsel => ?_⟩
  have hs : IsSlot slot := by
    rcases Selects.compatible hsel with ⟨h, _⟩ | ⟨h, _⟩
    · exact Or.inl h
    · exact Or.inr h
  refine CommitGoal.spares_other htarget hlo hhi hs fun heq => ?_
  have htarget' : g.target = otherSlot slot := hother slot hsel
  exact otherSlot_ne (htarget'.symm.trans heq.symm)

/-- While the target slot is marked invalid it holds no record. -/
theorem Invalidated.target_reason (himage : Invalidated g image)
    (schema : UInt8) (payload : UInt16) :
    let reason := classifySlot (window image g.address) g.size g.type schema
      payload
    slotReasonIsProtected reason = false ∧ reason ≠ .validCompatible := by
  have hsize := g.size_bounds
  have hbyte : window image g.address (g.size - 1) ≠ persistCommitValid := by
    have hcommit := himage.commit
    rw [CommitGoal.commitByte] at hcommit
    rw [window_apply, show g.address + (g.size - 1) = g.address + g.size - 1
      by omega, hcommit]
    decide
  dsimp only
  rcases classifySlot_of_uncommitted (by omega) (by omega) hbyte with h | h <;>
    rw [h] <;> decide

/-- The other slot holds what it held before. -/
theorem Invalidated.other_reason (himage : Invalidated g image)
    (htarget : g.target ≠ slotIndexNone) {slot : UInt8} (hs : IsSlot slot)
    (hne : slot ≠ g.target) (schema : UInt8) (payload : UInt16) :
    classifySlot (window image (slotAddrFor slot g.type)) g.size g.type schema
        payload =
      classifySlot (window g.before (slotAddrFor slot g.type)) g.size g.type
        schema payload := by
  refine classifySlot_congr g.size_bounds.1 fun i hi => ?_
  apply himage.frame
  have hapart := pair_apart g.known (CommitGoal.target_isSlot htarget) hs hne
  change slotAddrFor g.target g.type + g.size ≤ slotAddrFor slot g.type ∨
    slotAddrFor slot g.type + g.size ≤ slotAddrFor g.target g.type at hapart
  change slotAddrFor slot g.type + i < slotAddrFor g.target g.type ∨
    slotAddrFor g.target g.type + g.size ≤ slotAddrFor slot g.type + i
  omega

theorem Invalidated.sparesRecords (himage : Invalidated g image)
    (htarget : g.target ≠ slotIndexNone) (hlo : g.address ≤ offset)
    (hhi : offset + size ≤ g.address + g.size) :
    SparesRecords g.type g.body image offset size := by
  obtain ⟨_, hA, hB, _, _⟩ := abSlotChooseTarget_spec htarget
  have hreason : ∀ slot, IsSlot slot →
      slotReasonIsProtected (classifySlot (window g.before
        (slotAddrFor slot g.type)) g.size g.type (g.body 5)
          (leRead16 g.body 6)) = false →
      slotReasonIsProtected (classifySlot (window image
        (slotAddrFor slot g.type)) g.size g.type (g.body 5)
          (leRead16 g.body 6)) = false := by
    intro slot hs hbefore
    by_cases heq : slot = g.target
    · rw [heq]
      exact (himage.target_reason _ _).1
    · rw [himage.other_reason htarget hs heq]
      exact hbefore
  refine ⟨?_, ?_, fun slot hsel => ?_⟩
  · rw [pairSelection, abSlotSelect_reasonA]
    refine hreason 0 (Or.inl rfl) ?_
    rwa [CommitGoal.selection, abSlotSelect_reasonA] at hA
  · rw [pairSelection, abSlotSelect_reasonB]
    refine hreason 1 (Or.inr rfl) ?_
    rwa [CommitGoal.selection, abSlotSelect_reasonB] at hB
  · have hcompatible : IsSlot slot ∧ Compatible g.size g.type (g.body 5)
        (leRead16 g.body 6) (window image (slotAddrFor slot g.type)) := by
      rcases Selects.compatible hsel with ⟨rfl, h⟩ | ⟨rfl, h⟩
      · exact ⟨Or.inl rfl, h⟩
      · exact ⟨Or.inr rfl, h⟩
    refine CommitGoal.spares_other htarget hlo hhi hcompatible.1 fun heq => ?_
    rw [heq] at hcompatible
    exact (himage.target_reason _ _).2 hcompatible.2

/-- What lies in the target slot lies apart from everything else. -/
theorem CommitGoal.writesTarget (htarget : g.target ≠ slotIndexNone)
    (hlo : g.address ≤ offset) (hhi : offset + size ≤ g.address + g.size)
    (hnow : SparesRecords g.type g.body image offset size) :
    WritesTarget g.type g.body g.before image offset size where
  target := htarget
  lower := hlo
  upper := hhi
  before := CommitGoal.sparesRecords_before htarget hlo hhi
  now := hnow
  others type' hne hknown slot := by
    change slotAddrFor g.target g.type ≤ offset at hlo
    change offset + size ≤ slotAddrFor g.target g.type + slotSizeFor g.type
      at hhi
    rcases slots_apart g.known hknown hne g.target slot with h | h
    · left
      omega
    · right
      omega
  reserved := by
    have hend := slot_below_slotsEnd g.known g.target
    change offset + size ≤ slotAddrFor g.target g.type + slotSizeFor g.type
      at hhi
    omega

end Target

/-! ## The invariant -/

/-- The target of the commit has been chosen. -/
def hasTarget (state : StorageServiceState) : Bool :=
  match state with
  | .invalidate | .verifyInvalidate | .checkInvalidate | .writeBody
  | .readbackBody | .verifyBody | .commit | .verifyCommit | .checkCommit =>
      true
  | _ => false

theorem hasTarget_of_ioSuccessor {state next : StorageServiceState}
    (h : ioSuccessor state = some next) (hnext : hasTarget next = true) :
    hasTarget state = true := by
  revert hnext
  cases state <;> cases h <;> decide

theorem isActive_of_hasTarget {state : StorageServiceState}
    (h : hasTarget state = true) : isActive state = true := by
  revert h
  cases state <;> decide

/-- No commit is under way, or it is in one of its phases.  Once the target is
chosen, `chosen` is the image it was chosen on. -/
inductive WritePhase (chosen : ByteBuffer) (service : StorageService)
    (image : ByteBuffer) : Prop where
  | calm (hstate : isActive service.context.state = false)
  | commit (g : CommitGoal) (hphase : CommitPhase g service.erasePending image)
      (hchosen : hasTarget service.context.state = true → g.before = chosen)

section Phase

variable {chosen : ByteBuffer} {service service' : StorageService}
  {image image' : ByteBuffer}

theorem WritePhase.book (book : PortBook)
    (h : WritePhase chosen service image) :
    WritePhase chosen (service.withBook book) image := by
  cases h with
  | calm hstate => exact .calm hstate
  | commit g hphase hchosen => exact .commit g (hphase.book book) hchosen

theorem isActive_failIo (service : StorageService) (result : StorageIoResult) :
    isActive (service.failIo result).context.state = false := by
  unfold failIo
  split
  · rfl
  · unfold finishCommit
    dsimp only
    split <;> split <;> rfl

theorem WritePhase.land {plan : IoPlan}
    (hplan : ioPlan service.context = some plan)
    (h : WritePhase chosen service image) :
    WritePhase chosen
      ((plan.request.fillService service.presetIoByte image).land
        plan.successState plan.advanceBytes)
      (plan.request.storeImage image) := by
  have hnext := ioPlan_ioSuccessor hplan
  cases h with
  | calm hstate =>
      refine .calm ?_
      exact (ioSuccessor_isActive hnext).trans hstate
  | commit g hphase hchosen =>
      refine .commit g ?_ fun htarget =>
        hchosen (hasTarget_of_ioSuccessor hnext htarget)
      have hplan' : ioPlan service.erasePending.context = some plan := hplan
      have hland := hphase.land hplan'
      rw [← erasePending_presetIoByte, ← erasePending_fillService] at hland
      exact hland

/-- A prepared candidate begins a commit over whatever the image holds. -/
theorem prepareActiveCandidate_begins {type : UInt8} {sequence : UInt32}
    {buffer : ByteBuffer} {length : ℕ} {version : UInt64}
    (hprepare : service.prepareActiveCandidate type sequence buffer length
      version = some service') :
    service'.context.ioPending = service.context.ioPending ∧
      ∀ chosen image, WritePhase chosen service' image := by
  unfold prepareActiveCandidate at hprepare
  dsimp only at hprepare
  split at hprepare
  · cases hprepare
  · rename_i hguard
    have hknown : slotSizeFor type ≠ 0 := fun hzero => hguard (Or.inl hzero)
    cases hprepare
    refine ⟨rfl, fun chosen image => ?_⟩
    let g : CommitGoal := ⟨type, blit zeros 0 buffer length, image, hknown⟩
    exact .commit g (.scanA rfl ⟨rfl, rfl, rfl, rfl⟩ rfl) nofun

/-- A promotion begins a commit of its own; a candidate that does not fit is
turned down. -/
theorem WritePhase.promotePending (chosen : ByteBuffer)
    (service : StorageService) (image : ByteBuffer) :
    WritePhase chosen service.promotePending image := by
  unfold StorageService.promotePending
  dsimp only
  split
  · rename_i service' hprepare
    exact (prepareActiveCandidate_begins hprepare).2 chosen image
  · exact .calm rfl

theorem WritePhase.quiet_calm (chosen image : ByteBuffer)
    (hio : service.context.ioPending = false)
    (hplan : ioPlan service.context = none)
    (hcalm : isActive service.context.state = false) (nowUs : UInt64)
    (reply : PortReply) :
    WritePhase chosen (service.tick nowUs reply).1 image := by
  unfold tick
  dsimp only
  rw [if_neg (by simp [hio])]
  split
  · exact .promotePending chosen service image
  · cases hs : service.context.state <;> rw [hs] at hcalm <;>
      try exact absurd hcalm (by decide)
    case restoreScanA | restoreScanB => simp [ioPlan, hs] at hplan
    case restoreDecode => exact .calm rfl
    all_goals exact .calm (by rw [hs]; rfl)

/-- A turn without a port operation.  The target is chosen on the image that
the invariant is about. -/
theorem WritePhase.quiet
    (hchoice : service.context.state = .prepareTarget → image = chosen) :
    TurnsQuietly (WritePhase chosen) service image := by
  intro nowUs reply hio hplan h
  by_cases hactive : isActive service.context.state = true
  · cases h with
    | calm hstate =>
        rw [hactive] at hstate
        cases hstate
    | commit g hphase hchosen =>
        have hplan' : ioPlan service.erasePending.context = none := hplan
        have hio' : service.erasePending.context.ioPending = false := hio
        have hphase' := (hphase.quiet nowUs reply hio' hplan').1
        rw [← erasePending_tick hio hactive hplan] at hphase'
        refine .commit g hphase' fun _ => ?_
        cases hphase with
        | prepareTarget hstate _ himage =>
            rw [← himage]
            exact hchoice hstate
        | scanA hstate | scanB hstate =>
            simp [ioPlan, hstate] at hplan'
        | complete hstate | failed hstate =>
            rw [← erasePending_state, hstate] at hactive
            cases hactive
        | invalidate hstate | verifyInvalidate hstate | checkInvalidate hstate
        | writeBody hstate | readbackBody hstate | verifyBody hstate
        | commit hstate | verifyCommit hstate | checkCommit hstate =>
            refine hchosen ?_
            rw [← erasePending_state, hstate]
            rfl
  · exact .quiet_calm chosen image hio hplan (by simpa using hactive) nowUs
      reply

theorem writePhase_ioProtocol (chosen : ByteBuffer) :
    IoProtocol .faulty (WritePhase chosen) where
  book book h := h.book book
  land hplan h := h.land hplan
  fail _ _ _ _ _ _ _ _ _ _ := .calm (isActive_failIo _ _)

theorem WritePhase.congr (h : WritePhase chosen service image)
    (hsame : service.erasePending = service'.erasePending) :
    WritePhase chosen service' image := by
  have hstate : service.context.state = service'.context.state :=
    congrArg (fun self => self.context.state) hsame
  cases h with
  | calm hcalm =>
      rw [hstate] at hcalm
      exact .calm hcalm
  | commit g hphase hchosen =>
      rw [hsame] at hphase
      rw [hstate] at hchosen
      exact .commit g hphase hchosen

/-- Before the choice of a target nothing is said about the image it is chosen
on. -/
theorem WritePhase.rechoose (h : WritePhase chosen service image)
    (hstate : hasTarget service.context.state = false) (chosen' : ByteBuffer) :
    WritePhase chosen' service image := by
  cases h with
  | calm hcalm => exact .calm hcalm
  | commit g hphase _ =>
      refine .commit g hphase fun htarget => ?_
      rw [hstate] at htarget
      cases htarget

end Phase

/-! ## Callers -/

/-- A property that does not look at the pending buffer. -/
def IgnoresPending (P : StorageService → ByteBuffer → Prop) : Prop :=
  ∀ {service service' : StorageService} {image : ByteBuffer},
    service.erasePending = service'.erasePending → P service image →
      P service' image

/-- What is written to the pending buffer does not touch the operation in
flight. -/
theorem Between.of_erasePending {quality : PortQuality}
    {P : StorageService → ByteBuffer → Prop} (hignores : IgnoresPending P)
    {s : FramSystem} {service' : StorageService}
    (hsame : s.service.erasePending = service'.erasePending)
    (hs : Between quality P s) :
    Between quality P { s with service := service' } := by
  have hfield : ∀ {α : Type} (f : StorageService → α),
      f s.service.erasePending = f service'.erasePending :=
    fun f => congrArg f hsame
  cases hs with
  | idle hio hout hP =>
      exact .idle ((hfield fun self => self.context.ioPending).symm.trans hio)
        hout (hignores hsame hP)
  | landed hp hc hout hP =>
      refine .landed
        ((hfield fun self => self.context.ioPending).symm.trans hp)
        ((hfield fun self => self.context.ioCompleted).symm.trans hc) hout ?_
      refine hignores ?_ hP
      rw [erasePending_consumeIoCompletion, erasePending_consumeIoCompletion,
        hsame]
  | flying call hp hc hout htoken howner hF =>
      have hsuccess := hfield fun self => self.context.ioSuccessState
      have hadvance := hfield fun self => self.context.ioAdvanceBytes
      have htok := hfield fun self => self.context.ioToken
      have hgeneration := hfield fun self => self.generation
      refine .flying call
        ((hfield fun self => self.context.ioPending).symm.trans hp)
        ((hfield fun self => self.context.ioCompleted).symm.trans hc) hout
        (htoken.trans htok) ?_ ?_
      · intro _
        have hcurrent := howner hp
        exact (congrArg StorageOperationToken.ownerGeneration htok).symm.trans
          (hcurrent.trans hgeneration)
      · refine ⟨?_, fun hfaulty service'' image'' hdisturb result => ?_⟩
        · rw [show service'.context.ioSuccessState =
              s.service.context.ioSuccessState from hsuccess.symm,
            show service'.context.ioAdvanceBytes =
              s.service.context.ioAdvanceBytes from hadvance.symm]
          refine hignores ?_ hF.land
          change ((call.request.fillService s.service s.image).erasePending).land
            _ _ = ((call.request.fillService service' s.image).erasePending).land
              _ _
          rw [erasePending_fillService, erasePending_fillService, hsame]
          rfl
        · cases hrequest : call.request with
          | read offset buffer size =>
              rw [hrequest] at hdisturb
              obtain ⟨rfl, data, rfl⟩ := hdisturb
              refine hignores ?_ (hF.fail hfaulty
                (s.service.fill buffer data size) _
                (by rw [hrequest]; exact ⟨rfl, data, rfl⟩) result)
              rw [erasePending_failIo, erasePending_failIo, erasePending_fill,
                erasePending_fill, hsame]
          | write offset data size =>
              rw [hrequest] at hdisturb
              obtain ⟨rfl, htorn⟩ := hdisturb
              refine hignores ?_ (hF.fail hfaulty s.service _
                (by rw [hrequest]; exact ⟨rfl, htorn⟩) result)
              rw [erasePending_failIo, erasePending_failIo, hsame]

/-- The operations that belong to the callers of the service. -/
def ServiceOp.fromCaller : ServiceOp → Bool
  | .submitCheckpoint _ _ _ _ _ | .takeCompletion | .startRestoreVolume
  | .takeRestoredVolume => true
  | _ => false

/-- A caller writes at most to the pending buffer, or finds no operation in
flight and no commit under way. -/
theorem StorageService.Accounting.caller_cases {h : History}
    {self : StorageService} (hA : Accounting h self) {op : ServiceOp}
    (hop : op.fromCaller = true) :
    (self.applyOp op).erasePending = self.erasePending ∨
      (isActive self.context.state = false ∧
        self.context.ioPending = false ∧
        (self.applyOp op).context.ioPending = false ∧
        ∀ chosen image, WritePhase chosen (self.applyOp op) image) := by
  have hterminal : isTerminal self.context.state = true →
      isActive self.context.state = false ∧ self.context.ioPending = false :=
    fun ht => ⟨by rw [isActive, ht]; rfl, hA.ioPending_of_terminal ht⟩
  cases op with
  | submitCheckpoint type sequence buffer length version =>
      unfold StorageService.applyOp StorageService.submitCheckpoint
      dsimp only
      split
      · exact Or.inl rfl
      · split
        · rename_i ht
          split
          · exact Or.inl rfl
          · cases hprepare : self.prepareActiveCandidate type sequence buffer
                length version with
            | none => exact Or.inl rfl
            | some service =>
                obtain ⟨hcalm, hio⟩ := hterminal ht
                obtain ⟨hio', hphase⟩ := prepareActiveCandidate_begins hprepare
                exact Or.inr ⟨hcalm, hio, hio'.trans hio, hphase⟩
        · split
          · exact Or.inl rfl
          · exact Or.inl rfl
  | takeCompletion =>
      unfold StorageService.applyOp StorageService.takeCompletion
      dsimp only
      split
      · rename_i hready
        have ht : isTerminal self.context.state = true := by
          rcases hA.ready hready with hs | hs <;> rw [hs] <;> rfl
        obtain ⟨hcalm, hio⟩ := hterminal ht
        exact Or.inr ⟨hcalm, hio, hio, fun _ _ => .calm hcalm⟩
      · exact Or.inl rfl
  | startRestoreVolume =>
      unfold StorageService.applyOp StorageService.startRestoreVolume
      dsimp only
      split
      · exact Or.inl rfl
      · rename_i hguard
        have ht : isTerminal self.context.state = true := by
          simp only [Bool.or_eq_true, Bool.not_eq_true', not_or,
            Bool.not_eq_false] at hguard
          exact hguard.1.1
        obtain ⟨hcalm, hio⟩ := hterminal ht
        exact Or.inr ⟨hcalm, hio, hio, fun _ _ => .calm rfl⟩
  | takeRestoredVolume =>
      unfold StorageService.applyOp StorageService.takeRestoredVolume
      dsimp only
      split
      · rename_i hready
        have hstate := hA.restore hready
        have hcalm : isActive self.context.state = false := by
          rcases hstate with hs | hs <;> rw [hs] <;> rfl
        have hio : self.context.ioPending = false := by
          by_contra hp
          have hnext := hA.io (by simpa using hp)
          rcases hstate with hs | hs <;> rw [hs] at hnext <;> cases hnext
        exact Or.inr ⟨hcalm, hio, hio, fun _ _ => .calm rfl⟩
      · exact Or.inl rfl
  | tick nowUs reply => cases hop
  | onIoCompletion completion => cases hop
  | portFill buffer data size => cases hop

/-! ## Runs -/

/-- The image on which a target was last chosen. -/
def choiceImage (s : FramSystem) (chosen : ByteBuffer) : ByteBuffer :=
  if s.service.context.state = .prepareTarget then s.image else chosen

/-- Runs of the service over an image, with callers at any time and any
outcome of any operation. -/
inductive StorageRun (image : ByteBuffer) : FramSystem → ByteBuffer → Prop where
  | init {ioTimeoutUs : UInt32} {bound : Bool} {service : StorageService}
      (hinit : StorageService.init ioTimeoutUs bound = some service) :
      StorageRun image ⟨service, image, none⟩ image
  | caller {s : FramSystem} {chosen : ByteBuffer}
      (hrun : StorageRun image s chosen) (op : ServiceOp)
      (hop : op.fromCaller = true) :
      StorageRun image { s with service := s.service.applyOp op } chosen
  | port {s s' : FramSystem} {chosen : ByteBuffer}
      (hrun : StorageRun image s chosen) (hstep : FramStep .faulty s s') :
      StorageRun image s' (choiceImage s chosen)

section Runs

variable {image chosen : ByteBuffer} {s : FramSystem}

theorem StorageRun.reachable (hrun : StorageRun image s chosen) :
    ∃ h, Reachable s.service h := by
  induction hrun with
  | init hinit => exact ⟨_, .init hinit⟩
  | caller _ op _ ih =>
      obtain ⟨h, hreach⟩ := ih
      exact ⟨_, hreach.step op⟩
  | port _ hstep ih =>
      obtain ⟨h, hreach⟩ := ih
      exact hstep.reachable hreach

/-- The run lemma. -/
theorem StorageRun.between (hrun : StorageRun image s chosen) :
    Between .faulty (WritePhase chosen) s := by
  induction hrun with
  | init hinit =>
      unfold StorageService.init at hinit
      split at hinit
      · cases hinit
      · cases hinit
        exact .idle rfl rfl (.calm rfl)
  | @caller s chosen hrun op hop ih =>
      obtain ⟨h, hreach⟩ := hrun.reachable
      rcases hreach.accounting.caller_cases hop with
        hsame | ⟨_, hio, hio', hphase⟩
      · exact ih.of_erasePending (fun hsame hP => hP.congr hsame) hsame.symm
      · exact .idle hio' (ih.at_quiet hio).1 (hphase chosen s.image)
  | @port s s' chosen hrun hstep ih =>
      obtain ⟨h, hreach⟩ := hrun.reachable
      by_cases hchoice : s.service.context.state = .prepareTarget
      · -- nothing is in flight while the target is chosen
        have hio : s.service.context.ioPending = false := by
          by_contra hp
          have hnext := hreach.accounting.io (by simpa using hp)
          rw [hchoice] at hnext
          cases hnext
        obtain ⟨hout, hP⟩ := ih.at_quiet hio
        rw [choiceImage, if_pos hchoice]
        have hs : Between .faulty (WritePhase s.image) s :=
          .idle hio hout (hP.rechoose (by rw [hchoice]; rfl) s.image)
        exact hs.step_of_turn (writePhase_ioProtocol s.image)
          (WritePhase.quiet fun _ => rfl) hstep
      · rw [choiceImage, if_neg hchoice]
        exact ih.step_of_turn (writePhase_ioProtocol chosen)
          (WritePhase.quiet fun hstate => absurd hstate hchoice) hstep

/-- A tick that writes finds a commit in a phase with a target. -/
theorem StorageRun.writing (hrun : StorageRun image s chosen) {nowUs : UInt64}
    {reply : PortReply} {call : PortCall} {offset size : ℕ} {data : ByteBuffer}
    (hcall : (s.service.tick nowUs reply).2 = some call)
    (hwrite : call.request = .write offset data size) :
    ∃ g : CommitGoal, ∃ plan, g.before = chosen ∧
      CommitPhase g s.service.erasePending s.image ∧
      ioPlan s.service.context = some plan ∧
      plan.request = .write offset data size := by
  have hio : s.service.context.ioPending = false := by
    by_contra hp
    rw [tick_of_ioPending (by simpa using hp)] at hcall
    cases hcall
  cases hplan : ioPlan s.service.context with
  | none =>
      rw [(tick_of_no_ioPlan hio hplan nowUs reply).1] at hcall
      cases hcall
  | some plan =>
      have hrequest : plan.request = .write offset data size := by
        rw [tick_of_ioPlan hio hplan] at hcall
        rw [← hwrite]
        rcases orFailIo_submitIo_cases s.service.presetIoByte plan.request
          plan.successState plan.advanceBytes nowUs reply with
            ⟨_, hlate⟩ | ⟨_, _, _, hsame, _, hrefused⟩ | ⟨_, _, hsame, _, hacc⟩
        · rw [hlate] at hcall
          cases hcall
        · rw [hrefused] at hcall
          cases hcall
          exact hsame.symm
        · rw [hacc] at hcall
          cases hcall
          exact hsame.symm
      have htarget : hasTarget s.service.context.state = true := by
        unfold ioPlan at hplan
        split at hplan
        all_goals rename_i hs
        case h_3 | h_5 | h_7 => rw [hs]; rfl
        case h_6 =>
          split at hplan
          · cases hplan
          · cases hplan
            cases hrequest
        case h_11 => cases hplan
        all_goals
          cases hplan
          cases hrequest
      cases (hrun.between.at_quiet hio).2 with
      | calm hcalm =>
          rw [isActive_of_hasTarget htarget] at hcalm
          cases hcalm
      | commit g hphase hchosen =>
          exact ⟨g, plan, hchosen htarget, hphase, rfl, hrequest⟩

/-- Every write of a run goes to the target that its commit chose. -/
theorem StorageRun.writesTarget (hrun : StorageRun image s chosen)
    {nowUs : UInt64} {reply : PortReply} {call : PortCall} {offset size : ℕ}
    {data : ByteBuffer} (hcall : (s.service.tick nowUs reply).2 = some call)
    (hwrite : call.request = .write offset data size) :
    WritesTarget s.service.context.recordType s.service.context.slotBuffer
      chosen s.image offset size := by
  obtain ⟨g, plan, hbefore, hphase, hplan, hrequest⟩ :=
    hrun.writing hcall hwrite
  have hplan' : ioPlan s.service.erasePending.context = some plan := hplan
  have hsize := g.size_bounds
  have hgoal : Targeted g s.service.erasePending →
      WritesTarget g.type g.body g.before s.image offset size →
      WritesTarget s.service.context.recordType s.service.context.slotBuffer
        chosen s.image offset size := by
    intro htarget h
    rw [show s.service.context.recordType = g.type from htarget.type,
      show s.service.context.slotBuffer = g.body from htarget.body, ← hbefore]
    exact h
  cases hphase with
  | invalidate hstate htarget himage =>
      simp only [ioPlan, hstate, Option.some.injEq] at hplan'
      subst hplan'
      cases hrequest
      rw [htarget.commitByteAddress] at hgoal ⊢
      refine hgoal htarget (CommitGoal.writesTarget htarget.target (by omega)
        (by omega) ?_)
      rw [himage]
      exact CommitGoal.sparesRecords_before htarget.target (by omega) (by omega)
  | writeBody hstate htarget himage =>
      simp only [ioPlan, hstate] at hplan'
      split at hplan'
      · cases hplan'
      · rename_i hmore
        cases hplan'
        cases hrequest
        have hchunk := (htarget.toLoaded.bodyChunk hmore).2
        rw [htarget.address] at hgoal ⊢
        exact hgoal htarget (CommitGoal.writesTarget htarget.target (by omega)
          (by omega) (himage.sparesRecords htarget.target (by omega)
            (by omega)))
  | commit hstate htarget himage =>
      simp only [ioPlan, hstate, Option.some.injEq] at hplan'
      subst hplan'
      cases hrequest
      rw [htarget.commitByteAddress] at hgoal ⊢
      exact hgoal htarget (CommitGoal.writesTarget htarget.target (by omega)
        (by omega) (himage.sparesRecords htarget.target (by omega)
          (by omega)))
  | scanA hstate | scanB hstate | verifyInvalidate hstate
  | verifyCommit hstate =>
      simp only [ioPlan, hstate, Option.some.injEq] at hplan'
      subst hplan'
      cases hrequest
  | readbackBody hstate =>
      simp only [ioPlan, hstate] at hplan'
      split at hplan'
      · cases hplan'
      · cases hplan'
        cases hrequest
  | prepareTarget hstate | checkInvalidate hstate | verifyBody hstate
  | checkCommit hstate | complete hstate | failed hstate =>
      simp [ioPlan, hstate] at hplan'

end Runs
end Swfpm
