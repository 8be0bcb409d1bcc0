import Swfpm.Storage.Progress
import Swfpm.Storage.WriteFrame

/-!
# What a commit writes

On a working port the bytes of a commit reach the memory in a fixed order: the
commit byte is marked invalid, every byte of the body is written once, and the
commit byte is marked valid.  `writtenBytes` is what a commit has written at
each of its states, and the log of a run agrees with it whenever the operation
in flight is counted as done.
-/

namespace Swfpm

open ByteBuffers StorageRecord StorageService

/-! ## The log of a run -/

/-- Addresses and values of the bytes that an operation stores, in order. -/
def PortRequest.bytesWritten : PortRequest → List (ℕ × UInt8)
  | .read _ _ _ => []
  | .write offset data size =>
      (List.range size).map fun i => (offset + i, data i)

/-- What the operation that a step starts writes. -/
def bytesStarted (s s' : FramSystem) : List (ℕ × UInt8) :=
  match s.outstanding, s'.outstanding with
  | none, some call => call.request.bytesWritten
  | _, _ => []

/-- A commit on a working port, with callers at any time, up to its end. -/
inductive CommitRun (start : FramSystem) :
    FramSystem → List (ℕ × UInt8) → Prop where
  | start : CommitRun start start []
  | caller {s : FramSystem} {log : List (ℕ × UInt8)}
      (hrun : CommitRun start s log)
      (hactive : isActive s.service.context.state = true) (op : ServiceOp)
      (hop : op.fromCaller = true) :
      CommitRun start { s with service := s.service.applyOp op } log
  | port {s s' : FramSystem} {log : List (ℕ × UInt8)}
      (hrun : CommitRun start s log)
      (hactive : isActive s.service.context.state = true)
      (hstep : FramStep .working s s') :
      CommitRun start s' (log ++ bytesStarted s s')

/-- The invalidation, every byte of the body once, and the commit byte. -/
def writeSequence (address size : ℕ) (body : ByteBuffer) :
    List (ℕ × UInt8) :=
  (address + size - 1, persistCommitInvalid) ::
    ((List.range (size - 1)).map (fun i => (address + i, body i)) ++
      [(address + size - 1, persistCommitValid)])

namespace CommitGoal

variable (g : CommitGoal)

/-- The first `count` bytes of the body, as they are written. -/
def bodyBytes (count : ℕ) : List (ℕ × UInt8) :=
  (List.range count).map fun i => (g.address + i, g.body i)

def commitMark (value : UInt8) : ℕ × UInt8 :=
  (g.address + g.size - 1, value)

/-- What a commit writes from beginning to end. -/
def commitBytes : List (ℕ × UInt8) :=
  writeSequence g.address g.size g.body

/-- What a commit has written. -/
def writtenBytes (context : StorageServiceContext) : List (ℕ × UInt8) :=
  match context.state with
  | .verifyInvalidate | .checkInvalidate => [g.commitMark persistCommitInvalid]
  | .writeBody =>
      g.commitMark persistCommitInvalid :: g.bodyBytes context.writeOffset
  | .readbackBody | .verifyBody | .commit =>
      g.commitMark persistCommitInvalid :: g.bodyBytes (g.size - 1)
  | .verifyCommit | .checkCommit | .complete => g.commitBytes
  | _ => []

theorem bodyBytes_extend (offset count : ℕ) :
    g.bodyBytes offset ++
        (List.range count).map (fun i =>
          (g.address + offset + i, window g.body offset i)) =
      g.bodyBytes (offset + count) := by
  unfold bodyBytes
  rw [List.range_add, List.map_append, List.map_map]
  congr 1
  refine List.map_congr_left fun i _ => ?_
  rw [window_apply, Function.comp_apply, Nat.add_assoc]

end CommitGoal

/-! ## Phases of a commit with callers at work -/

/-- A commit on a working port: it fails only for want of a target. -/
structure CommitTurns (g : CommitGoal) (service : StorageService)
    (image : ByteBuffer) : Prop where
  phase : CommitPhase g service.erasePending image
  failed : service.context.state = .failed → g.target = slotIndexNone

section Turns

variable {g : CommitGoal} {service service' : StorageService}
  {image : ByteBuffer}

theorem CommitTurns.congr (h : CommitTurns g service image)
    (hsame : service.erasePending = service'.erasePending) :
    CommitTurns g service' image := by
  have hstate : service.context.state = service'.context.state :=
    congrArg (fun self => self.context.state) hsame
  refine ⟨hsame ▸ h.phase, fun hfailed => h.failed ?_⟩
  rw [hstate]
  exact hfailed

theorem CommitTurns.quiet (hio : service.context.ioPending = false)
    (hplan : ioPlan service.context = none) (nowUs : UInt64)
    (reply : PortReply) (h : CommitTurns g service image) :
    CommitTurns g (service.tick nowUs reply).1 image := by
  have hio' : service.erasePending.context.ioPending = false := hio
  have hplan' : ioPlan service.erasePending.context = none := hplan
  by_cases hactive : isActive service.context.state = true
  · obtain ⟨hphase, hfailed⟩ := h.phase.quiet nowUs reply hio' hplan'
    rw [← erasePending_tick hio hactive hplan] at hphase hfailed
    refine ⟨hphase, fun hstate => ?_⟩
    rcases hfailed hstate with htarget | hbefore
    · exact htarget
    · exact h.failed hbefore
  · have hready : service.completionReady = true := by
      cases h.phase with
      | complete _ _ hready | failed _ _ hready => exact hready
      | scanA hstate | scanB hstate | prepareTarget hstate | invalidate hstate
      | verifyInvalidate hstate | checkInvalidate hstate | writeBody hstate
      | readbackBody hstate | verifyBody hstate | commit hstate
      | verifyCommit hstate | checkCommit hstate =>
          rw [← erasePending_state, hstate] at hactive
          exact absurd rfl hactive
    -- the mailbox is full, so that nothing is promoted
    have hsame : (service.tick nowUs reply).1 = service := by
      unfold tick
      dsimp only
      rw [if_neg (by simp [hio]), if_neg (by simp [hready])]
      have hnot := h.phase.not_restoring
      rw [erasePending_state] at hnot
      cases hs : service.context.state <;> rw [hs] at hactive hnot <;>
        first | rfl | exact absurd rfl hactive | cases hnot
    rw [hsame]
    exact h

theorem commitTurns_protocol (g : CommitGoal) :
    Protocol .working (CommitTurns g) where
  book book h := ⟨h.phase.book book, h.failed⟩
  quiet nowUs reply hio hplan h := h.quiet hio hplan nowUs reply
  land {s m plan} hplan h := by
    have hplan' : ioPlan s.erasePending.context = some plan := hplan
    have hland := h.phase.land hplan'
    rw [← erasePending_presetIoByte, ← erasePending_fillService] at hland
    refine ⟨hland, fun hs => ?_⟩
    have hw := (ioSuccessor_isWorking (ioPlan_ioSuccessor hplan)).2
    rw [show plan.successState = .failed from hs] at hw
    exact absurd hw (by decide)
  fail hfaulty := by cases hfaulty

end Turns

/-! ## The log agrees with what has been written -/

section Written

variable {g : CommitGoal} {service service' : StorageService}
  {image : ByteBuffer}

theorem writtenBytes_congr
    (hstate : service'.context.state = service.context.state)
    (hoffset : service'.context.writeOffset = service.context.writeOffset) :
    g.writtenBytes service'.context = g.writtenBytes service.context := by
  unfold CommitGoal.writtenBytes
  rw [hstate, hoffset]

/-- An operation that succeeds adds what it writes. -/
theorem CommitPhase.written_land {plan : IoPlan}
    (hplan : ioPlan service.context = some plan)
    (h : CommitPhase g service image) :
    g.writtenBytes
        (service.land plan.successState plan.advanceBytes).context =
      g.writtenBytes service.context ++ plan.request.bytesWritten := by
  cases h with
  | scanA hstate | scanB hstate | verifyInvalidate hstate
  | verifyCommit hstate =>
      simp only [ioPlan, hstate, Option.some.injEq] at hplan
      subst hplan
      simp only [CommitGoal.writtenBytes, StorageService.land, hstate,
        PortRequest.bytesWritten, List.append_nil]
  | readbackBody hstate =>
      simp only [ioPlan, hstate] at hplan
      split at hplan
      · cases hplan
      · cases hplan
        simp only [CommitGoal.writtenBytes, StorageService.land, hstate,
          PortRequest.bytesWritten, List.append_nil]
  | invalidate hstate htarget =>
      simp only [ioPlan, hstate, Option.some.injEq] at hplan
      subst hplan
      simp only [CommitGoal.writtenBytes, StorageService.land, hstate,
        PortRequest.bytesWritten, htarget.commitByteAddress]
      rfl
  | writeBody hstate htarget =>
      simp only [ioPlan, hstate] at hplan
      split at hplan
      · cases hplan
      · cases hplan
        simp only [CommitGoal.writtenBytes, StorageService.land, hstate,
          PortRequest.bytesWritten, htarget.address, htarget.body]
        rw [List.cons_append, CommitGoal.bodyBytes_extend]
  | commit hstate htarget =>
      simp only [ioPlan, hstate, Option.some.injEq] at hplan
      subst hplan
      simp only [CommitGoal.writtenBytes, StorageService.land, hstate,
        PortRequest.bytesWritten, htarget.commitByteAddress]
      rfl
  | prepareTarget hstate | checkInvalidate hstate | verifyBody hstate
  | checkCommit hstate | complete hstate | failed hstate =>
      simp [ioPlan, hstate] at hplan

/-- A turn without a port operation writes nothing. -/
theorem CommitPhase.written_quiet (nowUs : UInt64) (reply : PortReply)
    (hio : service.context.ioPending = false)
    (hplan : ioPlan service.context = none)
    (h : CommitPhase g service image) :
    g.writtenBytes (service.tick nowUs reply).1.context =
      g.writtenBytes service.context := by
  have hpending := h.pending
  have hdone : ∀ state, (service.context.state = state →
      (ioPlan service.context = none →
        state = .writeBody ∨ state = .readbackBody →
          service.context.writeOffset ≥ service.context.slotSize - 1)) := by
    rintro state hs _ (rfl | rfl)
    all_goals
      by_contra hmore
      simp [ioPlan, hs, hmore] at hplan
  unfold tick
  dsimp only
  rw [if_neg (by simp [hio]), if_neg (by simp [hpending])]
  cases h with
  | prepareTarget hstate =>
      simp only [hstate]
      have hnothing : g.writtenBytes service.context = [] := by
        simp only [CommitGoal.writtenBytes, hstate]
      rw [hnothing]
      unfold chooseTarget
      dsimp only
      split
      · unfold finishCommit
        dsimp only
        split <;> rfl
      · rfl
  | checkInvalidate hstate htarget himage hbyte =>
      simp only [hstate]
      rw [if_neg (by rw [hbyte]; decide)]
      simp only [CommitGoal.writtenBytes, hstate, setState, setWriteOffset]
      rfl
  | writeBody hstate htarget himage hoffset hwritten =>
      have hlast := hdone _ hstate hplan (Or.inl rfl)
      simp only [hstate]
      rw [if_pos hlast]
      have heq : service.context.writeOffset = g.size - 1 := by
        rw [htarget.size] at hlast
        omega
      simp only [CommitGoal.writtenBytes, hstate, setState, setWriteOffset, heq]
  | readbackBody hstate =>
      simp only [hstate]
      rw [if_pos (hdone _ hstate hplan (Or.inr rfl))]
      simp only [CommitGoal.writtenBytes, hstate, setState]
  | verifyBody hstate htarget himage hwritten hread =>
      simp only [hstate]
      have hsame : sameBytes service.context.slotBuffer
          service.context.readback (service.context.slotSize - 1) = true := by
        rw [sameBytes_eq_true_iff, htarget.size, htarget.body]
        exact fun i hi => (hread i hi).symm
      rw [if_neg (by simp [hsame])]
      simp only [CommitGoal.writtenBytes, hstate, setState]
  | checkCommit hstate htarget himage hbyte =>
      simp only [hstate]
      rw [if_neg (by simp [hbyte])]
      simp only [CommitGoal.writtenBytes, hstate, finishCommit]
      rfl
  | complete hstate => simp only [hstate]
  | failed hstate => simp only [hstate]
  | scanA hstate | scanB hstate | invalidate hstate | verifyInvalidate hstate
  | commit hstate | verifyCommit hstate =>
      simp [ioPlan, hstate] at hplan

/-- The service as the operation in flight will leave it. -/
def settled (self : StorageService) : StorageService :=
  if self.context.ioPending && !self.context.ioCompleted then
    self.land self.context.ioSuccessState self.context.ioAdvanceBytes
  else self.consumeIoCompletion

theorem settled_of_idle (hio : service.context.ioPending = false) :
    settled service = service := by
  unfold settled consumeIoCompletion
  rw [if_neg (by simp [hio]), if_pos (by simp [hio])]

theorem settled_of_completed (hc : service.context.ioCompleted = true) :
    settled service = service.consumeIoCompletion :=
  if_neg (by simp [hc])

theorem settled_of_flying (hp : service.context.ioPending = true)
    (hc : service.context.ioCompleted = false) :
    settled service = service.land service.context.ioSuccessState
      service.context.ioAdvanceBytes :=
  if_pos (by simp [hp, hc])

/-- The buffers that an operation fills have no part in what is written. -/
theorem written_disturbs {request : PortRequest} {image' : ByteBuffer}
    (hdisturb : request.Disturbs service service' image image')
    (state : StorageServiceState) (advanceBytes : ℕ) :
    g.writtenBytes (service'.land state advanceBytes).context =
      g.writtenBytes (service.land state advanceBytes).context := by
  cases request with
  | read offset buffer size =>
      obtain ⟨_, data, rfl⟩ := hdisturb
      refine writtenBytes_congr rfl ?_
      cases buffer <;> rfl
  | write offset data size =>
      obtain ⟨rfl, _⟩ := hdisturb
      rfl

/-- The step lemma: the log grows by what the commit gets written. -/
theorem CommitTurns.log_step {s s' : FramSystem}
    (hs : Between .working (CommitTurns g) s)
    (hactive : isActive s.service.context.state = true)
    (hstep : FramStep .working s s') :
    g.writtenBytes (settled s'.service).context =
      g.writtenBytes (settled s.service).context ++ bytesStarted s s' := by
  cases hstep with
  | tick nowUs reply hclock hcall =>
      have hstarted : bytesStarted s
          { s with service := (s.service.tick nowUs reply).1 } = [] := by
        unfold bytesStarted
        cases s.outstanding <;> rfl
      rw [hstarted, List.append_nil]
      cases hs with
      | idle hio hout hP =>
          cases hplan : ioPlan s.service.context with
          | none =>
              have hio' : s.service.erasePending.context.ioPending = false :=
                hio
              have hplan' : ioPlan s.service.erasePending.context = none :=
                hplan
              have hwritten := hP.phase.written_quiet nowUs reply hio' hplan'
              rw [← erasePending_tick hio hactive hplan] at hwritten
              rw [settled_of_idle hio, settled_of_idle
                (tick_of_no_ioPlan hio hplan nowUs reply).2]
              exact hwritten
          | some plan =>
              rw [tick_of_ioPlan hio hplan] at hcall
              rcases orFailIo_submitIo_cases s.service.presetIoByte plan.request
                plan.successState plan.advanceBytes nowUs reply with
                  ⟨hfar, _⟩ | ⟨_, _, _, _, _, hrefused⟩ | ⟨_, _, _, _, hacc⟩
              · refine absurd (hclock rfl) ?_
                rwa [ClockFits, presetIoByte_ioTimeoutUs] at hfar
              · rw [hrefused] at hcall
                cases hcall
              · rw [hacc] at hcall
                cases hcall
      | landed hp hc hout hP =>
          rw [tick_of_ioPending hp, settled_of_completed hc,
            settled_of_idle (consumeIoCompletion_ioPending hp hc)]
      | flying call hp hc hout htoken howner hF =>
          rw [tick_of_ioPending hp]
          have hsame : s.service.consumeIoCompletion = s.service := by
            unfold consumeIoCompletion
            rw [if_pos (by simp [hc])]
          simp only [hsame]
  | accepted nowUs call hcall =>
      cases hs with
      | idle hio hout hP =>
          have hstarted : bytesStarted s
              { s with
                service := (s.service.tick nowUs ⟨[], .accepted⟩).1
                outstanding := some call } = call.request.bytesWritten := by
            rw [bytesStarted, hout]
          cases hplan : ioPlan s.service.context with
          | none =>
              rw [(tick_of_no_ioPlan hio hplan nowUs _).1] at hcall
              cases hcall
          | some plan =>
              have hplan' : ioPlan s.service.erasePending.context = some plan :=
                hplan
              have hwritten := hP.phase.written_land hplan'
              rw [hstarted, settled_of_idle hio]
              rw [tick_of_ioPlan hio hplan] at hcall ⊢
              rcases orFailIo_submitIo_cases s.service.presetIoByte plan.request
                plan.successState plan.advanceBytes nowUs ⟨[], .accepted⟩ with
                  ⟨_, hlate⟩ | ⟨_, _, hno, _⟩ | ⟨call', _, hrequest, _, hacc⟩
              · rw [hlate] at hcall
                cases hcall
              · exact absurd rfl hno
              · rw [hacc] at hcall ⊢
                cases hcall
                have hpreset : s.service.presetIoByte.context.writeOffset =
                    s.service.context.writeOffset := by
                  unfold presetIoByte
                  split <;> rfl
                rw [hrequest, settled_of_flying rfl rfl]
                refine Eq.trans ?_ hwritten
                exact writtenBytes_congr rfl
                  (congrArg (· + plan.advanceBytes) hpreset)
      | landed hp hc hout hP =>
          rw [tick_of_ioPending hp] at hcall
          cases hcall
      | flying call hp hc hout htoken howner hF =>
          rw [tick_of_ioPending hp] at hcall
          cases hcall
  | refused _ _ _ _ _ hfaulty => cases hfaulty
  | progress call service' image' hout hdisturb =>
      have hstarted : bytesStarted s ⟨service', image', some call⟩ = [] := by
        rw [bytesStarted, hout]
      rw [hstarted, List.append_nil]
      obtain ⟨hp, hc, _⟩ := hs.in_flight hout
      obtain ⟨hpend, hcomp, _, _, hstate, hadvance⟩ := disturbs_books hdisturb
      rw [settled_of_flying hp hc, settled_of_flying (hpend.trans hp)
        (hcomp.trans hc), hstate, hadvance]
      exact written_disturbs hdisturb _ _
  | succeeded call completion hout htoken hsuccess =>
      have hstarted : ∀ service' image',
          bytesStarted s ⟨service', image', none⟩ = [] := by
        intro service' image'
        rw [bytesStarted, hout]
      rw [hstarted, List.append_nil]
      obtain ⟨hp, hc, htoken', howner⟩ := hs.in_flight hout
      have hfill := fillService_disturbs call.request s.service s.image
      obtain ⟨hpend, hcomp, htok, hgen, hstate, hadvance⟩ :=
        disturbs_books hfill
      rw [onIoCompletion_of_match (hpend.trans hp) (hcomp.trans hc)
        (htoken.trans (htoken'.trans htok.symm))
        (fun _ => by rw [htok, hgen]; exact howner hp),
        settled_of_completed rfl, settled_of_flying hp hc, ← hstate,
        ← hadvance]
      let received : StorageService :=
        { call.request.fillService s.service s.image with
          context :=
            { (call.request.fillService s.service s.image).context with
              ioCompletion := completion, ioCompleted := true } }
      obtain ⟨book, _, hbook⟩ := @consumeIoCompletion_of_success received
        (hpend.trans hp) rfl hsuccess
      change g.writtenBytes received.consumeIoCompletion.context = _
      rw [hbook]
      exact written_disturbs hfill _ _
  | failed _ _ _ _ hfaulty => cases hfaulty
  | stale completion hstale =>
      have hstarted : bytesStarted s
          { s with service := s.service.onIoCompletion completion } = [] := by
        unfold bytesStarted
        cases s.outstanding <;> rfl
      rw [hstarted, List.append_nil, hs.stale_counted hstale]
      let counted := s.service.withBook
        (s.service.staleBook (s.service.staleCompletionCount + 1))
      change g.writtenBytes (settled counted).context = _
      cases hs with
      | idle hio hout hP =>
          have hcounted : settled counted = counted := settled_of_idle hio
          rw [settled_of_idle hio, hcounted]
          rfl
      | landed hp hc hout hP =>
          have hcounted : settled counted = counted.consumeIoCompletion :=
            settled_of_completed hc
          obtain ⟨book, hbook⟩ := s.service.consumeIoCompletion_staleBook
            (s.service.staleCompletionCount + 1)
          rw [settled_of_completed hc, hcounted, hbook]
          rfl
      | flying call hp hc hout htoken howner hF =>
          have hcounted : settled counted = counted.land
              counted.context.ioSuccessState counted.context.ioAdvanceBytes :=
            settled_of_flying hp hc
          rw [settled_of_flying hp hc, hcounted]
          rfl

theorem erasePending_settled (self : StorageService) :
    (settled self).erasePending = settled self.erasePending := by
  unfold settled
  split
  · rename_i hflying
    exact (if_pos hflying).symm
  · rename_i hflying
    rw [erasePending_consumeIoCompletion]
    exact (if_neg hflying).symm

end Written

/-! ## Runs of one commit -/

section Runs

variable {g : CommitGoal} {start s : FramSystem} {log : List (ℕ × UInt8)}

theorem CommitRun.reachable {h : History}
    (hstart : Reachable start.service h) (hrun : CommitRun start s log) :
    ∃ h', Reachable s.service h' := by
  induction hrun with
  | start => exact ⟨h, hstart⟩
  | caller _ _ op _ ih =>
      obtain ⟨_, hreach⟩ := ih
      exact ⟨_, hreach.step op⟩
  | port _ _ hstep ih =>
      obtain ⟨_, hreach⟩ := ih
      exact hstep.reachable hreach

/-- The run lemma. -/
theorem CommitRun.written {h : History} (hstart : Reachable start.service h)
    (hbetween : Between .working (CommitTurns g) start)
    (hnothing : g.writtenBytes (settled start.service).context = [])
    (hrun : CommitRun start s log) :
    Between .working (CommitTurns g) s ∧
      g.writtenBytes (settled s.service).context = log := by
  induction hrun with
  | start => exact ⟨hbetween, hnothing⟩
  | @caller s log hrun hactive op hop ih =>
      obtain ⟨_, hreach⟩ := hrun.reachable hstart
      rcases hreach.accounting.caller_cases hop with hsame | ⟨hcalm, _⟩
      · have hsettled : (settled (s.service.applyOp op)).erasePending =
            (settled s.service).erasePending := by
          rw [erasePending_settled, erasePending_settled, hsame]
        refine ⟨ih.1.of_erasePending (fun hsame hP => hP.congr hsame)
          hsame.symm, Eq.trans ?_ ih.2⟩
        exact writtenBytes_congr
          (congrArg (fun self => self.context.state) hsettled)
          (congrArg (fun self => self.context.writeOffset) hsettled)
      · rw [hactive] at hcalm
        cases hcalm
  | @port s s' log hrun hactive hstep ih =>
      refine ⟨ih.1.step (commitTurns_protocol g) hstep, ?_⟩
      rw [CommitTurns.log_step ih.1 hactive hstep, ih.2]

theorem ioSuccessor_isRestoreState {state next : StorageServiceState}
    (h : ioSuccessor state = some next) :
    isRestoreState next = isRestoreState state := by
  cases state <;> cases h <;> rfl

/-- No restore comes into a commit. -/
theorem Between.not_restoring {h : History} (hreach : Reachable s.service h)
    (hs : Between .working (CommitTurns g) s) :
    isRestoreState s.service.context.state = false := by
  by_contra hrestore
  have hrestore' : isRestoreState s.service.context.state = true := by
    simpa using hrestore
  have hnext : s.service.context.ioPending = true →
      isRestoreState s.service.context.ioSuccessState = true := by
    intro hp
    rw [ioSuccessor_isRestoreState (hreach.accounting.io hp)]
    exact hrestore'
  cases hs with
  | idle hio hout hP =>
      exact hrestore hP.phase.not_restoring
  | landed hp hc hout hP =>
      have hfree := hP.phase.not_restoring
      rw [erasePending_state] at hfree
      by_cases hsuccess : s.service.context.ioCompletion.Success
      · obtain ⟨_, _, hbook⟩ := consumeIoCompletion_of_success hp hc hsuccess
        rw [hbook] at hfree
        change isRestoreState s.service.context.ioSuccessState = false at hfree
        rw [hnext hp] at hfree
        cases hfree
      · obtain ⟨_, _, hbook⟩ := consumeIoCompletion_of_failure hp hc hsuccess
        rw [hbook, failIo, if_pos hrestore'] at hfree
        cases hfree
  | flying call hp hc hout htoken howner hF =>
      have hfree := hF.land.phase.not_restoring
      change isRestoreState s.service.context.ioSuccessState = false at hfree
      rw [hnext hp] at hfree
      cases hfree

/-- What a commit has written when it ends. -/
theorem CommitRun.ends {h : History} (hstart : Reachable start.service h)
    (hbetween : Between .working (CommitTurns g) start)
    (hnothing : g.writtenBytes (settled start.service).context = [])
    (hrun : CommitRun start s log)
    (hended : isActive s.service.context.state = false) :
    (g.target = slotIndexNone → s.service.context.state = .failed ∧ log = []) ∧
      (g.target ≠ slotIndexNone →
        s.service.context.state = .complete ∧ log = g.commitBytes) := by
  obtain ⟨hbetween', hlog⟩ := hrun.written hstart hbetween hnothing
  obtain ⟨_, hreach⟩ := hrun.reachable hstart
  have hfree := hbetween'.not_restoring hreach
  have hterminal : isTerminal s.service.context.state = true := by
    revert hended hfree
    cases s.service.context.state <;> decide
  have hio := hreach.accounting.ioPending_of_terminal hterminal
  obtain ⟨_, hphase, hfailed⟩ := hbetween'.at_quiet hio
  rw [settled_of_idle hio] at hlog
  cases hphase with
  | complete hstate _ _ _ himage =>
      rw [erasePending_state] at hstate
      rw [CommitGoal.writtenBytes, hstate] at hlog
      exact ⟨fun hnone => absurd hnone himage.target,
        fun _ => ⟨hstate, hlog.symm⟩⟩
  | failed hstate =>
      rw [erasePending_state] at hstate
      rw [CommitGoal.writtenBytes, hstate] at hlog
      exact ⟨fun _ => ⟨hstate, hlog.symm⟩,
        fun hsome => absurd (hfailed hstate) hsome⟩
  | scanA hstate | scanB hstate | prepareTarget hstate | invalidate hstate
  | verifyInvalidate hstate | checkInvalidate hstate | writeBody hstate
  | readbackBody hstate | verifyBody hstate | commit hstate
  | verifyCommit hstate | checkCommit hstate =>
      rw [erasePending_state] at hstate
      rw [hstate] at hended
      cases hended

/-- A working port brings a commit to its end. -/
theorem commitRun_ends (hquiet : Quiet start) :
    ∃ ended log, CommitRun start ended log ∧
      isActive ended.service.context.state = false := by
  have hstop : ∀ final, WorkingRun start final →
      (∃ log, CommitRun start final log) ∨
        ∃ ended log, CommitRun start ended log ∧
          isActive ended.service.context.state = false := by
    intro final hrun
    induction hrun with
    | refl => exact Or.inl ⟨[], .start⟩
    | @tail s s' _ hstep ih =>
        rcases ih with ⟨log, hprefix⟩ | hended
        · by_cases hactive : isActive s.service.context.state = true
          · exact Or.inl ⟨_, hprefix.port hactive hstep⟩
          · exact Or.inr ⟨s, log, hprefix, by simpa using hactive⟩
        · exact Or.inr hended
  obtain ⟨final, hrun, _, hdone⟩ := working_progress hquiet
  rcases hstop final hrun with ⟨log, hfinal⟩ | hended
  · refine ⟨final, log, hfinal, ?_⟩
    by_contra hactive
    rw [isWorking_of_isActive (by simpa using hactive)] at hdone
    cases hdone
  · exact hended

end Runs

/-! ## Frame and order of the writes -/

/-- In every run of the service, over any image and with any outcome of any
operation, a write goes to the slot that was chosen when the commit scanned the
image, and to nothing else.  A commit that a working port carries out writes
the invalidation, every body byte once, and the commit byte, or nothing at all
when there is no slot that may be overwritten. -/
theorem commit_writes_target {image chosen : ByteBuffer} {s : FramSystem}
    (hrun : StorageRun image s chosen) :
    (∀ nowUs reply call offset data size,
        (s.service.tick nowUs reply).2 = some call →
          call.request = .write offset data size →
            WritesTarget s.service.context.recordType
              s.service.context.slotBuffer chosen s.image offset size) ∧
      (s.service.context.state = .scanA →
        s.service.context.ioPending = false →
          let type := s.service.context.recordType
          let body := s.service.context.slotBuffer
          let target := abSlotChooseTarget (pairSelection type body s.image)
          (∃ ended log, CommitRun s ended log ∧
              isActive ended.service.context.state = false) ∧
            ∀ ended log, CommitRun s ended log →
              isActive ended.service.context.state = false →
                (target = slotIndexNone →
                  ended.service.context.state = .failed ∧ log = []) ∧
                (target ≠ slotIndexNone →
                  ended.service.context.state = .complete ∧
                    log = writeSequence (slotAddrFor target type)
                      (slotSizeFor type) body)) := by
  refine ⟨fun nowUs reply call offset data size hcall hwrite =>
    hrun.writesTarget hcall hwrite, fun hstate hio => ?_⟩
  obtain ⟨h, hreach⟩ := hrun.reachable
  obtain ⟨hout, hphase⟩ := hrun.between.at_quiet hio
  refine ⟨commitRun_ends ⟨hio, hout⟩, fun ended log hcommit hended => ?_⟩
  cases hphase with
  | calm hcalm =>
      rw [hstate] at hcalm
      cases hcalm
  | commit g hphase _ =>
      cases hphase with
      | scanA hscan hloaded himage =>
          have hturns : CommitTurns g s.service s.image :=
            ⟨.scanA hscan hloaded himage, fun hfailed => by
              rw [hstate] at hfailed
              cases hfailed⟩
          have hnothing : g.writtenBytes (settled s.service).context = [] := by
            rw [settled_of_idle hio, CommitGoal.writtenBytes, hstate]
          have hends := hcommit.ends hreach (.idle hio hout hturns) hnothing
            hended
          rw [show s.service.context.recordType = g.type from hloaded.type,
            show s.service.context.slotBuffer = g.body from hloaded.body,
            himage]
          exact hends
      | scanB hother | prepareTarget hother | invalidate hother
      | verifyInvalidate hother | checkInvalidate hother | writeBody hother
      | readbackBody hother | verifyBody hother | commit hother
      | verifyCommit hother | checkCommit hother | complete hother
      | failed hother =>
          rw [erasePending_state, hstate] at hother
          cases hother

/-- A volume candidate on an erased memory goes to slot A. -/
theorem commit_writes_target_erased :
    ∃ s chosen ended log, StorageRun zeros s chosen ∧ CommitRun s ended log ∧
      ended.service.context.state = .complete ∧
      log = writeSequence slotVolumeAAddr slotVolumeSize
        (blit zeros 0 zeros slotVolumeSize) := by
  have hinit : StorageRun zeros _ _ :=
    .init (show StorageService.init 1000 true = some _ from rfl)
  have hrun := hinit.caller
    (.submitCheckpoint persistRecordVolume 5 zeros slotVolumeSize 7) rfl
  have hfirst : abSlotChooseTarget (pairSelection persistRecordVolume
      (blit zeros 0 zeros slotVolumeSize) zeros) = 0 := by
    decide +kernel
  have hwrites := (commit_writes_target hrun).2 rfl rfl
  obtain ⟨⟨ended, log, hcommit, hended⟩, hends⟩ := hwrites
  obtain ⟨hcomplete, hlog⟩ := (hends ended log hcommit hended).2 (by
    change abSlotChooseTarget (pairSelection persistRecordVolume
      (blit zeros 0 zeros slotVolumeSize) zeros) ≠ slotIndexNone
    rw [hfirst]
    decide)
  refine ⟨_, _, ended, log, hrun, hcommit, hcomplete, hlog.trans ?_⟩
  change writeSequence (slotAddrFor (abSlotChooseTarget (pairSelection
    persistRecordVolume (blit zeros 0 zeros slotVolumeSize) zeros))
      persistRecordVolume) slotVolumeSize _ = _
  rw [hfirst]
  rfl

end Swfpm
