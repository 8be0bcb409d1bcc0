import Swfpm.Storage.FramSystem

/-!
# Progress on a working port

`rank` bounds the work that is left to a commit or a restore.  On a port that
works, every round between two quiet moments lowers it, so that no working run
gets stuck: it can always be continued to a state with nothing left to do.
-/

namespace Swfpm

open ByteBuffers StorageRecord StorageService

/-- Rounds left to the end of the commit or the restore. -/
def rank (context : StorageServiceContext) : ℕ :=
  let size := context.slotSize
  match context.state with
  | .scanA => 2 * size + 12
  | .scanB => 2 * size + 11
  | .prepareTarget => 2 * size + 10
  | .invalidate => 2 * size + 9
  | .verifyInvalidate => 2 * size + 8
  | .checkInvalidate => 2 * size + 7
  | .writeBody => size + (size - context.writeOffset) + 6
  | .readbackBody => size - context.writeOffset + 5
  | .verifyBody => 4
  | .commit => 3
  | .verifyCommit => 2
  | .checkCommit => 1
  | .restoreScanA => 3
  | .restoreScanB => 2
  | .restoreDecode => 1
  | _ => 0

section Rank

variable {service service' : StorageService} {image image' : ByteBuffer}

/-- What the rank depends on besides the state. -/
theorem keeps_disturbs {request : PortRequest}
    (h : request.Disturbs service.presetIoByte service' image image') :
    service'.context.slotSize = service.context.slotSize ∧
      service'.context.writeOffset = service.context.writeOffset := by
  have hpreset : service.presetIoByte.context.slotSize =
      service.context.slotSize ∧ service.presetIoByte.context.writeOffset =
        service.context.writeOffset := by
    unfold presetIoByte
    split <;> exact ⟨rfl, rfl⟩
  rw [← hpreset.1, ← hpreset.2]
  cases request with
  | read offset buffer size =>
      obtain ⟨_, data, rfl⟩ := h
      cases buffer <;> exact ⟨rfl, rfl⟩
  | write offset data size =>
      rw [h.1]
      exact ⟨rfl, rfl⟩

theorem rank_finishCommit (service : StorageService)
    (status : StorageCommitStatus) :
    rank (service.finishCommit status).context = 0 := by
  unfold finishCommit rank
  dsimp only
  by_cases h : status = .ok
  · rw [if_pos h]
  · rw [if_neg h]

/-- The chunk at an offset inside the body is not empty. -/
theorem bodyChunk_pos {context : StorageServiceContext}
    (h : ¬ context.writeOffset ≥ context.slotSize - 1) :
    0 < bodyChunk context := by
  unfold bodyChunk storageBodyChunkBytes
  split <;> omega

theorem rank_land {plan : IoPlan} {self : StorageService}
    (hplan : ioPlan service.context = some plan)
    (hsize : self.context.slotSize = service.context.slotSize)
    (hoffset : self.context.writeOffset = service.context.writeOffset) :
    rank (self.land plan.successState plan.advanceBytes).context <
      rank service.context := by
  unfold ioPlan at hplan
  split at hplan
  all_goals rename_i hs
  case h_5 | h_6 =>
    split at hplan
    · cases hplan
    · rename_i hmore
      have hchunk := bodyChunk_pos hmore
      cases hplan
      simp only [rank, land, hs, hsize, hoffset]
      omega
  case h_11 => cases hplan
  all_goals
    cases hplan
    simp only [rank, land, hs, hsize]
    omega

/-- A turn without a port operation lowers the rank of a working state. -/
theorem rank_tick (nowUs : UInt64) (reply : PortReply)
    (hio : service.context.ioPending = false)
    (hplan : ioPlan service.context = none)
    (hw : isWorking service.context.state = true) :
    rank (service.tick nowUs reply).1.context < rank service.context := by
  have hne : ¬ ((service.context.state = .complete ||
      service.context.state = .failed : Bool) && service.context.pending &&
        !service.completionReady) = true := by
    intro h
    simp only [Bool.and_eq_true, Bool.or_eq_true, decide_eq_true_eq] at h
    rcases h.1.1 with hs | hs <;> rw [hs] at hw <;> exact absurd hw (by decide)
  have hfinish := rank_finishCommit service
  unfold tick
  dsimp only
  rw [if_neg (by simp [hio]), if_neg hne]
  cases hs : service.context.state <;> rw [hs] at hw <;>
    try exact absurd hw (by decide)
  case scanA | scanB | invalidate | verifyInvalidate | commit | verifyCommit
      | restoreScanA | restoreScanB => simp [ioPlan, hs] at hplan
  case prepareTarget =>
    dsimp only
    unfold chooseTarget
    dsimp only
    split
    · rw [rank_finishCommit]
      simp only [rank, hs]
      omega
    · simp only [rank, hs]
      omega
  case checkInvalidate =>
    dsimp only
    split
    · rw [hfinish]
      simp only [rank, hs]
      omega
    · simp only [rank, hs, setState, setWriteOffset]
      omega
  case writeBody =>
    have hdone : service.context.writeOffset ≥
        service.context.slotSize - 1 := by
      by_contra hmore
      simp [ioPlan, hs, hmore] at hplan
    dsimp only
    rw [if_pos hdone]
    simp only [rank, hs, setState, setWriteOffset]
    omega
  case readbackBody =>
    have hdone : service.context.writeOffset ≥
        service.context.slotSize - 1 := by
      by_contra hmore
      simp [ioPlan, hs, hmore] at hplan
    dsimp only
    rw [if_pos hdone]
    simp only [rank, hs, setState]
    omega
  case verifyBody =>
    dsimp only
    split
    · rw [hfinish]
      simp only [rank, hs]
      omega
    · simp only [rank, hs, setState]
      omega
  case checkCommit =>
    dsimp only
    split <;> (rw [hfinish]; simp only [rank, hs]; omega)
  case restoreDecode => simp only [rank, hs, decodeRestore]; omega

end Rank

/-! ## Reaching a quiet moment, and the end of the work -/

/-- No operation is in flight or waits to be consumed. -/
structure Quiet (s : FramSystem) : Prop where
  io : s.service.context.ioPending = false
  out : s.outstanding = none

theorem clockFits_zero (service : StorageService) : ClockFits service 0 := by
  unfold ClockFits
  rw [UInt64.not_lt, UInt64.le_iff_toNat_le]
  have h := service.ioTimeoutUs.toNat_lt
  simp only [UInt32.toNat_toUInt64]
  exact le_trans h.le (by decide)

/-- A completion that reports full success. -/
def successOf (token : StorageOperationToken) : StorageIoCompletion :=
  { StorageIoCompletion.cleared with token }

theorem successOf_success (token : StorageOperationToken) :
    (successOf token).Success :=
  ⟨rfl, rfl⟩

/-- A tick consumes the completion of a successful operation. -/
theorem working_consume {s : FramSystem}
    (hp : s.service.context.ioPending = true)
    (hc : s.service.context.ioCompleted = true)
    (hsuccess : s.service.context.ioCompletion.Success)
    (hout : s.outstanding = none) :
    ∃ book, book.ioPending = false ∧ FramStep .working s
      ⟨(s.service.land s.service.context.ioSuccessState
        s.service.context.ioAdvanceBytes).withBook book, s.image, none⟩ := by
  obtain ⟨book, hfree, hbook⟩ := consumeIoCompletion_of_success hp hc hsuccess
  have htick := tick_of_ioPending hp 0 ⟨[], .accepted⟩
  have hstep : FramStep .working s
      { s with service := (s.service.tick 0 ⟨[], .accepted⟩).1 } :=
    .tick 0 ⟨[], .accepted⟩ (fun _ => clockFits_zero _) (by rw [htick])
  rw [htick, hbook] at hstep
  rw [← hout]
  exact ⟨book, hfree, hstep⟩

/-- The completion of the operation in flight and the tick that consumes it
lead to a quiet moment. -/
theorem working_completion {s : FramSystem} {call : PortCall}
    (hp : s.service.context.ioPending = true)
    (hc : s.service.context.ioCompleted = false)
    (hout : s.outstanding = some call)
    (htoken : call.token = s.service.context.ioToken)
    (howner : s.service.TokenIsCurrent) :
    ∃ book, book.ioPending = false ∧ WorkingRun s
      ⟨((call.request.fillService s.service s.image).land
        s.service.context.ioSuccessState
          s.service.context.ioAdvanceBytes).withBook book,
        call.request.storeImage s.image, none⟩ := by
  let filled := call.request.fillService s.service s.image
  let completion := successOf call.token
  let delivered : FramSystem :=
    ⟨filled.onIoCompletion completion, call.request.storeImage s.image, none⟩
  obtain ⟨hpend, hcomp, htok, hgen, hstate, hadvance⟩ :=
    disturbs_books (fillService_disturbs call.request s.service s.image)
  have hreceive : filled.onIoCompletion completion =
      { filled with
        context :=
          { filled.context with
            ioCompletion := completion, ioCompleted := true } } :=
    onIoCompletion_of_match (hpend.trans hp) (hcomp.trans hc)
      (htoken.trans htok.symm) (fun _ => by rw [htok, hgen]; exact howner hp)
  have hdeliver : FramStep .working s delivered :=
    .succeeded call completion hout rfl (successOf_success call.token)
  have hp' : delivered.service.context.ioPending = true := by
    rw [show delivered.service = _ from hreceive]
    exact hpend.trans hp
  have hc' : delivered.service.context.ioCompleted = true := by
    rw [show delivered.service = _ from hreceive]
  have hsuccess : delivered.service.context.ioCompletion.Success := by
    rw [show delivered.service = _ from hreceive]
    exact successOf_success call.token
  obtain ⟨book, hfree, hconsume⟩ := working_consume hp' hc' hsuccess rfl
  refine ⟨book, hfree, (Relation.ReflTransGen.single hdeliver).tail ?_⟩
  rw [show delivered.service = _ from hreceive] at hconsume
  rw [← hstate, ← hadvance]
  exact hconsume

/-- One round of work: the planned operation is started, succeeds and is
consumed. -/
theorem working_round {s : FramSystem} {plan : IoPlan} (hquiet : Quiet s)
    (hplan : ioPlan s.service.context = some plan) :
    ∃ book, book.ioPending = false ∧ WorkingRun s
      ⟨((plan.request.fillService s.service.presetIoByte s.image).land
        plan.successState plan.advanceBytes).withBook book,
        plan.request.storeImage s.image, none⟩ := by
  let preset := s.service.presetIoByte
  have htick := tick_of_ioPlan hquiet.io hplan 0 ⟨[], .accepted⟩
  rcases orFailIo_submitIo_cases preset plan.request plan.successState
    plan.advanceBytes 0 ⟨[], .accepted⟩ with
      ⟨hfar, _⟩ | ⟨_, _, hno, _⟩ | ⟨call, _, hrequest, htoken, haccepted⟩
  · exact absurd (clockFits_zero preset) hfar
  · exact absurd rfl hno
  · rw [haccepted] at htick
    obtain ⟨armed, harmed⟩ := armIo_eq_withBook preset plan.successState
      plan.advanceBytes
    let started : FramSystem :=
      ⟨preset.armIo plan.successState plan.advanceBytes, s.image, some call⟩
    have hstart : FramStep .working s started := by
      have hstep : FramStep .working s
          { s with
            service := (s.service.tick 0 ⟨[], .accepted⟩).1
            outstanding := some call } := .accepted 0 call (by rw [htick])
      rw [htick] at hstep
      exact hstep
    obtain ⟨book, hfree, hdone⟩ := working_completion
      (show started.service.context.ioPending = true from rfl) rfl
      (show started.outstanding = some call from rfl) htoken (fun _ => rfl)
    have hfill : plan.request.fillService started.service s.image =
        (plan.request.fillService preset s.image).withBook armed := by
      rw [show started.service = preset.withBook armed from harmed]
      cases plan.request with
      | read offset buffer size => exact withBook_fill _ _ _ _ _
      | write offset data size => rfl
    rw [hrequest, show started.image = s.image from rfl, hfill] at hdone
    exact ⟨book, hfree, hdone.head hstart⟩

/-- From any quiet moment a working run leads to the end of the work. -/
theorem working_progress {s : FramSystem} (hquiet : Quiet s) :
    ∃ final, WorkingRun s final ∧ Quiet final ∧
      isWorking final.service.context.state = false := by
  generalize hn : rank s.service.context = n
  induction n using Nat.strong_induction_on generalizing s with
  | h n ih =>
      by_cases hw : isWorking s.service.context.state = true
      · cases hplan : ioPlan s.service.context with
        | some plan =>
            obtain ⟨book, hfree, hround⟩ := working_round hquiet hplan
            let filled := plan.request.fillService s.service.presetIoByte s.image
            have hdisturb := fillService_disturbs plan.request
              s.service.presetIoByte s.image
            have hlower : rank (filled.land plan.successState
                plan.advanceBytes).context < rank s.service.context :=
              rank_land hplan (keeps_disturbs hdisturb).1
                (keeps_disturbs hdisturb).2
            let next : FramSystem :=
              ⟨(filled.land plan.successState plan.advanceBytes).withBook book,
                plan.request.storeImage s.image, none⟩
            have hnext : Quiet next := ⟨hfree, rfl⟩
            obtain ⟨final, hrun, hdone⟩ := ih _
              (show rank next.service.context < n from hn ▸ hlower) hnext rfl
            exact ⟨final, hround.trans hrun, hdone⟩
        | none =>
            have htick := tick_of_no_ioPlan hquiet.io hplan 0 ⟨[], .accepted⟩
            have hlower := rank_tick 0 ⟨[], .accepted⟩ hquiet.io hplan hw
            let next : FramSystem :=
              { s with service := (s.service.tick 0 ⟨[], .accepted⟩).1 }
            have hnext : Quiet next := ⟨htick.2, hquiet.out⟩
            obtain ⟨final, hrun, hdone⟩ := ih _
              (show rank next.service.context < n from hn ▸ hlower) hnext rfl
            exact ⟨final, hrun.head (.tick 0 ⟨[], .accepted⟩
              (fun _ => clockFits_zero _) htick.1), hdone⟩
      · exact ⟨s, .refl, hquiet, by simpa using hw⟩

/-- A working run can always be brought to the end of the work. -/
theorem Between.working_progress {P : StorageService → ByteBuffer → Prop}
    {s : FramSystem} (hs : Between .working P s) :
    ∃ final, WorkingRun s final ∧ Quiet final ∧
      isWorking final.service.context.state = false := by
  have hquiet : ∃ s', WorkingRun s s' ∧ Quiet s' := by
    cases hs with
    | idle hio hout hP => exact ⟨s, .refl, hio, hout⟩
    | landed hp hc hout hP =>
        have htick := tick_of_ioPending hp 0 ⟨[], .accepted⟩
        refine ⟨_, .single (.tick 0 ⟨[], .accepted⟩
          (fun _ => clockFits_zero _) (by rw [htick])), ?_, hout⟩
        rw [htick]
        exact consumeIoCompletion_ioPending hp hc
    | flying call hp hc hout htoken howner hF =>
        obtain ⟨book, hfree, hrun⟩ :=
          working_completion hp hc hout htoken howner
        exact ⟨_, hrun, hfree, rfl⟩
  obtain ⟨s', hrun, hs'⟩ := hquiet
  obtain ⟨final, hrun', hfinal⟩ := Swfpm.working_progress hs'
  exact ⟨final, hrun.trans hrun', hfinal⟩

end Swfpm
