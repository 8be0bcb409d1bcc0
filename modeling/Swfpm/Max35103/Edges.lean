import Swfpm.Max35103.TimeoutRecords

/-!
# No edge is lost

An edge of `MAX_INT` in an active event is followed by a status drain that was
staged after it and completed, before the driver waits for edges again or comes
to rest.
-/

namespace Swfpm.Max35103

open Evidence

/-! ## What the steps of an event leave alone -/

namespace EventView

variable (view : EventView)

theorem handParts_eq (parts : UInt16) : ∃ nextSequence sequence sequenceValid log,
    view.handParts parts =
      { view with nextSequence, sequence, sequenceValid, log } := by
  have htof : ∃ nextSequence sequence sequenceValid log,
      (if parts &&& intTofEvtmg ≠ 0 then view.handTof else view) =
        { view with nextSequence, sequence, sequenceValid, log } := by
    split_ifs with hpart
    · obtain ⟨nextSequence, sequence, sequenceValid, heq⟩ := view.handTof_eq
      exact ⟨nextSequence, sequence, sequenceValid, _, heq⟩
    · exact ⟨_, _, _, _, rfl⟩
  obtain ⟨nextSequence, sequence, sequenceValid, log, heq⟩ := htof
  unfold handParts
  dsimp only
  rw [heq]
  split_ifs with hpart
  · obtain ⟨nextSequence, sequence, sequenceValid, htemperature⟩ := handTemperature_eq
      { view with nextSequence, sequence, sequenceValid, log }
    exact ⟨nextSequence, sequence, sequenceValid, _, htemperature⟩
  · exact ⟨_, _, _, _, rfl⟩

/-- What a drain ends in: a timeout, another drain, or waiting. -/
theorem finish_cases (status : UInt16) :
    view.finish status = view.timeOut ∨
      ∃ ended, (view.done = false ∧ ended = view ∨
          view.done = true ∧ ended = view.close) ∧
        (view.recheck = true ∧ view.finish status = ended.drainAgain ∨
          view.recheck = false ∧ view.finish status = ended.rest view.done) := by
  by_cases htimeout : status &&& intTimeout ≠ 0
  · left
    rw [finish, if_pos htimeout]
  · right
    have hended : view.finish status =
        if (if view.done then view.close else view).recheck then
          (if view.done then view.close else view).drainAgain
        else (if view.done then view.close else view).rest view.done := by
      rw [finish, if_neg htimeout]
    refine ⟨if view.done then view.close else view, ?_, ?_⟩
    · by_cases hdone : view.done = true
      · exact Or.inr ⟨hdone, if_pos hdone⟩
      · exact Or.inl ⟨by simpa using hdone, if_neg hdone⟩
    · have hrecheck : (if view.done then view.close else view).recheck =
          view.recheck := by
        split_ifs <;> rfl
      rw [hrecheck] at hended
      by_cases hagain : view.recheck = true
      · exact Or.inl ⟨hagain, by rw [hended, if_pos hagain]⟩
      · exact Or.inr ⟨by simpa using hagain, by rw [hended, if_neg hagain]⟩

theorem onTimeout_state (hdraining : view.draining = true) :
    view.onTimeout.state = .timeout := by
  simp only [draining, Bool.or_eq_true, decide_eq_true_eq] at hdraining
  rcases hdraining with (hstate | hstate) | hstate <;> rw [onTimeout, hstate] <;> rfl

end EventView

variable {promise : Promise} {base : List Event} {view next : EventView}

/-! ## Edges -/

/-- A drain of the log was completed. -/
def Drained (recorded : List Event) : Prop :=
  ∃ token newer older, recorded = newer ++ .completed token :: older ∧
    .drain token ∈ older

theorem Drained.append {recorded : List Event} (hdrained : Drained recorded)
    (newest : List Event) : Drained (newest ++ recorded) := by
  obtain ⟨token, newer, older, rfl, hmem⟩ := hdrained
  exact ⟨token, newest ++ newer, older, (List.append_assoc ..).symm, hmem⟩

/-- After an edge, with the log as it was before the edge as `base`. -/
inductive Awaited (base : List Event) (view : EventView) : Prop
  | drained (recorded : List Event) (hlog : view.log = recorded ++ base)
      (hdrained : Drained recorded)
  | ended (hlog : base <:+ view.log)
      (hstate : view.state = .error ∨ view.state = .timeout)
  | rechecks (hlog : base <:+ view.log) (hdraining : view.draining = true)
      (hrecheck : view.recheck = true)
  | drains (recorded : List Event) (hlog : view.log = recorded ++ base)
      (hstate : view.state = .drainStatus) (hdrain : .drain view.token ∈ recorded)

namespace Awaited

theorem log (hawaited : Awaited base view) : base <:+ view.log := by
  cases hawaited with
  | drained recorded hlog => exact ⟨recorded, hlog.symm⟩
  | ended hlog => exact hlog
  | rechecks hlog => exact hlog
  | drains recorded hlog => exact ⟨recorded, hlog.symm⟩

theorem openDrain (hlog : base <:+ view.log) (nowUs : UInt64) :
    Awaited base (view.openDrain nowUs) := by
  obtain ⟨recorded, hrecorded⟩ := hlog
  refine .drains (.drain view.nextToken :: recorded) ?_ rfl List.mem_cons_self
  exact congrArg (Event.drain view.nextToken :: ·) hrecorded.symm

theorem drainAgain (hlog : base <:+ view.log) : Awaited base view.drainAgain := by
  have hcleared : base <:+
      (EventView.log { view with recheck := false, pendingIrqUs := 0 }) := hlog
  exact openDrain hcleared _

/-- The edge is drained once the results of the present status word are read. -/
theorem finish (hlog : base <:+ view.log) (hrecheck : view.recheck = true)
    (status : UInt16) : Awaited base (view.finish status) := by
  have hgrows := hlog.trans (view.log_finish status)
  rcases view.finish_cases status with htimeout | ⟨ended, hended, hsettled⟩
  · rw [htimeout] at hgrows ⊢
    exact .ended hgrows (Or.inr rfl)
  · rcases hsettled with ⟨-, hagain⟩ | ⟨hnone, -⟩
    · rw [hagain]
      have hbefore : base <:+ ended.log := by
        rcases hended with ⟨-, rfl⟩ | ⟨-, rfl⟩
        · exact hlog
        · exact hlog.trans (List.suffix_cons _ _)
      exact drainAgain hbefore
    · rw [hrecheck] at hnone
      exact absurd hnone (by decide)

theorem statusDone (hlog : base <:+ view.log) (hrecheck : view.recheck = true)
    (status : UInt16) : Awaited base (view.statusDone status) := by
  have hheard : base <:+ (view.hear status).log := hlog.trans (List.suffix_cons _ _)
  unfold EventView.statusDone
  dsimp only
  split_ifs
  · exact .ended hheard (Or.inl rfl)
  · exact .ended (hheard.trans ((view.hear status).log_handParts _)) (Or.inl rfl)
  · exact .rechecks hheard rfl hrecheck
  · exact .rechecks hheard rfl hrecheck
  · have hseen : base <:+ ((view.hear status).see status).log := hheard
    exact finish hseen hrecheck status

theorem resultDone (hlog : base <:+ view.log) (hrecheck : view.recheck = true) :
    Awaited base view.resultDone := by
  have hhanded := hlog.trans view.log_handTof
  have hkept : view.handTof.recheck = true := by
    obtain ⟨_, _, _, heq⟩ := view.handTof_eq
    rw [heq]
    exact hrecheck
  unfold EventView.resultDone
  dsimp only
  split_ifs
  · exact .rechecks hhanded rfl hkept
  · exact finish hhanded hkept _

theorem temperatureDone (hlog : base <:+ view.log) (hrecheck : view.recheck = true) :
    Awaited base view.temperatureDone := by
  have hkept : view.handTemperature.recheck = true := by
    obtain ⟨_, _, _, heq⟩ := view.handTemperature_eq
    rw [heq]
    exact hrecheck
  exact finish (hlog.trans view.log_handTemperature) hkept _

theorem onInt (hawaited : Awaited base view) (nowUs : UInt64) :
    Awaited base (view.onInt nowUs) := by
  have hrecheck : Awaited base { view with recheck := true, pendingIrqUs := nowUs } := by
    cases hawaited with
    | drained recorded hlog hdrained => exact .drained recorded hlog hdrained
    | ended hlog hstate => exact .ended hlog hstate
    | rechecks hlog hdraining => exact .rechecks hlog hdraining rfl
    | drains recorded hlog hstate hdrain => exact .drains recorded hlog hstate hdrain
  unfold EventView.onInt
  split_ifs
  · exact hawaited
  · exact hrecheck
  · exact hawaited
  · exact openDrain hawaited.log nowUs

theorem step (hawaited : Awaited base view) (hstep : EventStep promise view next) :
    Awaited base next := by
  have hgrows := hstep.log
  cases hawaited with
  | drained recorded hlog hdrained =>
      obtain ⟨newest, hnewest⟩ := hgrows
      refine .drained (newest ++ recorded) ?_ (hdrained.append newest)
      rw [← hnewest, hlog, List.append_assoc]
  | ended hlog hstate =>
      have hbefore := hlog.trans hgrows
      cases hstep with
      | edge nowUs => exact (Awaited.ended hlog hstate).onInt nowUs
      | failed => exact .ended hbefore (Or.inl rfl)
      | refused => exact .ended hbefore (Or.inl rfl)
      | done _ status =>
          refine .ended hbefore (Or.inl ?_)
          unfold EventView.spiDone
          rcases hstate with hstate | hstate <;> rw [hstate] <;> rfl
      | timeout =>
          refine .ended hbefore ?_
          unfold EventView.onTimeout
          rcases hstate with hstate | hstate <;> rw [hstate]
          · exact Or.inl hstate
          · exact Or.inr hstate
  | rechecks hlog hdraining hrecheck =>
      have hcomplete : base <:+ view.complete.log := hlog.trans (List.suffix_cons _ _)
      cases hstep with
      | edge nowUs => exact (Awaited.rechecks hlog hdraining hrecheck).onInt nowUs
      | failed => exact .ended (hlog.trans hgrows) (Or.inl rfl)
      | refused => exact .ended (hlog.trans hgrows) (Or.inl rfl)
      | done _ status =>
          unfold EventView.spiDone
          dsimp only
          split
          · exact statusDone hcomplete hrecheck status
          · exact resultDone hcomplete hrecheck
          · exact temperatureDone hcomplete hrecheck
          · exact .ended hcomplete (Or.inl rfl)
      | timeout =>
          exact .ended (hlog.trans hgrows) (Or.inr (view.onTimeout_state hdraining))
  | drains recorded hlog hstate hdrain =>
      have hbefore : base <:+ view.log := ⟨recorded, hlog.symm⟩
      cases hstep with
      | edge nowUs => exact (Awaited.drains recorded hlog hstate hdrain).onInt nowUs
      | failed => exact .ended (hbefore.trans hgrows) (Or.inl rfl)
      | refused => exact .ended (hbefore.trans hgrows) (Or.inl rfl)
      | done _ status =>
          -- the drain that was staged for the edge is completed
          obtain ⟨newest, hnewest⟩ := view.log_spiDone status
          refine .drained (newest ++ .completed view.token :: recorded) ?_
            ⟨view.token, newest, recorded, rfl, hdrain⟩
          rw [← hnewest, hlog, List.append_assoc, List.cons_append]
      | timeout =>
          have hdraining : view.draining = true := by
            rw [EventView.draining, hstate]
            rfl
          exact .ended (hbefore.trans hgrows) (Or.inr (view.onTimeout_state hdraining))

theorem steps (hawaited : Awaited base view) (hsteps : EventSteps promise view next) :
    Awaited base next := by
  induction hsteps with
  | refl => exact hawaited
  | tail _ hlast ih => exact ih.step hlast

end Awaited

/-! ## Event timing between the calls -/

/-- What event timing keeps, whatever edges, completions and cancels come. -/
structure Awake (view : EventView) : Prop where
  ready : view.active = true → view.ready = true
  free : view.state = .eventRunning → view.pending = false

namespace Awake

theorem of_state (hready : view.active = true → view.ready = true)
    (hstate : view.state ≠ .eventRunning) : Awake view :=
  ⟨hready, fun hrunning => absurd hrunning hstate⟩

theorem timeOut (hready : view.active = true → view.ready = true) :
    Awake view.timeOut := by
  refine of_state (fun hactive => ?_) (by rintro ⟨⟩)
  obtain ⟨_, _, _, _, heq⟩ :=
    view.handParts_eq (view.expected &&& ~~~view.seen)
  unfold EventView.timeOut at hactive ⊢
  rw [heq] at hactive ⊢
  exact hready (Bool.and_eq_true_iff.mp hactive).1

theorem finish (hready : view.active = true → view.ready = true)
    (hfree : view.pending = false) (status : UInt16) :
    Awake (view.finish status) := by
  rcases view.finish_cases status with htimeout | ⟨ended, hended, hsettled⟩
  · rw [htimeout]
    exact timeOut hready
  have hboth : (ended.active = true → ended.ready = true) ∧
      ended.pending = false := by
    rcases hended with ⟨-, rfl⟩ | ⟨-, rfl⟩
    · exact ⟨hready, hfree⟩
    · exact ⟨fun hactive => hready (Bool.and_eq_true_iff.mp hactive).1, hfree⟩
  rcases hsettled with ⟨-, hagain⟩ | ⟨-, hrest⟩
  · rw [hagain]
    exact of_state hboth.1 nofun
  · rw [hrest]
    exact ⟨hboth.1, fun _ => hboth.2⟩

theorem spiDone (hawake : Awake view) (status : UInt16) :
    Awake (view.spiDone status) := by
  have hfail : ∀ failed : EventView, (failed.active = true → failed.ready = true) →
      Awake failed.fail := fun _ hready => of_state hready nofun
  have hlose : ∀ failed : EventView, Awake failed.lose.fail :=
    fun _ => of_state (fun hactive => absurd hactive nofun) nofun
  unfold EventView.spiDone
  dsimp only
  split
  · unfold EventView.statusDone
    dsimp only
    split_ifs
    · exact hlose _
    · exact hlose _
    · exact of_state hawake.ready nofun
    · exact of_state hawake.ready nofun
    · refine finish ?_ rfl status
      exact hawake.ready
  · obtain ⟨_, _, _, heq⟩ := view.complete.handTof_eq
    unfold EventView.resultDone
    dsimp only
    rw [heq]
    split_ifs
    · exact of_state hawake.ready nofun
    · refine finish ?_ rfl _
      exact hawake.ready
  · obtain ⟨_, _, _, heq⟩ := view.complete.handTemperature_eq
    unfold EventView.temperatureDone
    rw [heq]
    refine finish ?_ rfl _
    exact hawake.ready
  · exact hfail _ hawake.ready

theorem onTimeout (hawake : Awake view) : Awake view.onTimeout := by
  unfold EventView.onTimeout
  split
  · obtain ⟨_, _, _, heq⟩ := view.handTof_eq
    rw [heq]
    exact timeOut hawake.ready
  · obtain ⟨_, _, _, heq⟩ := view.handTemperature_eq
    rw [heq]
    exact timeOut hawake.ready
  · exact timeOut hawake.ready
  · exact timeOut hawake.ready
  · exact hawake

theorem step (hawake : Awake view) (hstep : EventStep promise view next) :
    Awake next := by
  cases hstep with
  | edge nowUs =>
      unfold EventView.onInt
      split_ifs
      · exact hawake
      · exact ⟨hawake.ready, hawake.free⟩
      · exact hawake
      · exact of_state hawake.ready nofun
  | failed => exact of_state hawake.ready nofun
  | done _ status => exact hawake.spiDone status
  | refused => exact of_state hawake.ready nofun
  | timeout => exact hawake.onTimeout

theorem steps (hawake : Awake view) (hsteps : EventSteps promise view next) :
    Awake next := by
  induction hsteps with
  | refl => exact hawake
  | tail _ hlast ih => exact ih.step hlast

theorem cancel (hawake : Awake view) : Awake view.cancel := by
  unfold EventView.cancel
  split_ifs
  · exact hawake
  · exact ⟨hawake.ready, fun _ => rfl⟩

/-- An edge in an active event is awaited from then on. -/
theorem onInt_awaited (hawake : Awake view) (hactive : view.active = true)
    (hinside : view.inEvent) (nowUs : UInt64) :
    Awaited view.log (view.onInt nowUs) := by
  have hdraining : ∀ state, view.state = state → state ≠ .eventRunning →
      Awaited view.log (view.onInt nowUs) := by
    intro state hstate hother
    have hdrains : view.draining = true := by
      unfold EventView.draining
      rcases hinside with hrunning | hinside | hinside | hinside
      · exact absurd (hstate.symm.trans hrunning) hother
      all_goals simp [hinside]
    have hbusy : view.onInt nowUs =
        { view with recheck := true, pendingIrqUs := nowUs } := by
      rw [EventView.onInt, if_neg (by simp [hawake.ready hactive, hactive]),
        if_pos (Or.inl (hstate ▸ hother)), if_pos (Or.inl hdrains)]
    rw [hbusy]
    exact .rechecks List.suffix_rfl hdrains rfl
  by_cases hrunning : view.state = .eventRunning
  · have hdrain : view.onInt nowUs = view.openDrain nowUs := by
      rw [EventView.onInt, if_neg (by simp [hawake.ready hactive, hactive]),
        if_neg (by simp [hrunning, hawake.free hrunning])]
    rw [hdrain]
    exact .openDrain List.suffix_rfl nowUs
  · exact hdraining _ rfl hrunning

end Awake

variable {κ : Type*} {platform : Platform κ} {before start world last : World κ}

/-- The calls of event timing after its start. -/
def Op.keepsTiming (op : Op) : Bool := op.carriesEvent || op = .cancel

theorem started_view (hstarted : startEventTiming platform before = (.ok, start)) :
    before.driver.deviceReady = true ∧
      start.view = before.view.start before.driver.modeEventFlags := by
  rcases @startEventTiming_view κ platform before with
    ⟨hfailed, -⟩ | ⟨-, hready, hview⟩
  · rw [hstarted] at hfailed
    exact absurd rfl hfailed
  · rw [hstarted] at hview
    exact ⟨hready, hview⟩

theorem awake_run (hstarted : startEventTiming platform before = (.ok, start))
    (hrun : Calls platform (fun _ op => op.keepsTiming = true) start world) :
    Awake world.view := by
  induction hrun with
  | refl =>
      obtain ⟨hready, hview⟩ := started_view hstarted
      rw [hview]
      exact ⟨fun _ => hready, fun _ => rfl⟩
  | tail op _ hcall hstep ih =>
      rcases Bool.or_eq_true_iff.mp hcall with hcarries | hcancel
      · exact ih.steps (step_steps hcarries (op.keeps_none _) hstep)
      · obtain rfl := of_decide_eq_true hcancel
        obtain rfl := Option.some.inj hstep
        rw [cancel_view]
        exact ih.cancel

/-- After an edge in an active event, whatever edges, completions, polls and
timeouts come, the driver does not wait for edges again or come to rest before a
status drain that was staged after the edge has been completed. -/
theorem edge_drained (hstarted : startEventTiming platform before = (.ok, start))
    (hrun : Calls platform (fun _ op => op.keepsTiming = true) start world)
    (hactive : world.driver.eventTimingActive = true) (hinside : world.view.inEvent)
    (nowUs : UInt64)
    (hafter : Calls platform (fun _ op => op.carriesEvent = true)
      (onInt platform nowUs world) last)
    (hstate : last.driver.state = .eventRunning ∨ last.driver.state = .idle) :
    ∃ recorded, last.view.log = recorded ++ world.view.log ∧ Drained recorded := by
  have hedge : Awaited world.view.log (onInt platform nowUs world).view := by
    rw [onInt_view]
    exact (awake_run hstarted hrun).onInt_awaited hactive hinside nowUs
  have hlast : Awaited world.view.log last.view := by
    clear hstate
    induction hafter with
    | refl => exact hedge
    | tail op _ hcarries hstep ih =>
        exact ih.steps (step_steps hcarries (op.keeps_none _) hstep)
  have hrests : last.view.state = .eventRunning ∨ last.view.state = .idle := hstate
  cases hlast with
  | drained recorded hlog hdrained => exact ⟨recorded, hlog, hdrained⟩
  | ended hlog hended =>
      rcases hrests with heq | heq <;> rw [heq] at hended <;> simp at hended
  | rechecks hlog hdraining =>
      unfold EventView.draining at hdraining
      rcases hrests with heq | heq <;> rw [heq] at hdraining <;> simp at hdraining
  | drains recorded hlog hdrain =>
      rcases hrests with heq | heq <;> rw [heq] at hdrain <;> simp at hdrain

/-- An edge while the drain of an earlier one is on its way. -/
theorem edge_drained_bench :
    ∃ before start world last : World Bench,
      startEventTiming benchPlatform before = (.ok, start) ∧
      Calls benchPlatform (fun _ op => op.keepsTiming = true) start world ∧
      world.driver.state = .drainStatus ∧
      Calls benchPlatform (fun _ op => op.carriesEvent = true)
        (onInt benchPlatform 2000 world) last ∧
      last.driver.state = .eventRunning ∧
      ∃ recorded, last.view.log = recorded ++ world.view.log ∧ Drained recorded := by
  obtain ⟨before, -, hheld, -⟩ := benchRun [0x0004, 0x0008, intTofEvtmg]
    [.resetDevice 3, .configure benchProfile]
    (fun before =>
      (startEventTiming benchPlatform before).1 = .ok &&
      (runOps benchPlatform (startEventTiming benchPlatform before).2
        [.onInt 1000]).any fun world =>
          (world.driver.eventTimingActive && world.driver.state = .drainStatus) &&
          (runOps benchPlatform (onInt benchPlatform 2000 world)
            [.executeSpi, .executeSpi, .executeSpi]).any fun last =>
              last.driver.state = .eventRunning)
    (by decide +kernel)
  obtain ⟨hok, hruns⟩ := Bool.and_eq_true_iff.mp hheld
  obtain ⟨world, hworld, hrest⟩ := (Option.any_eq_true _ _).mp hruns
  obtain ⟨hdrain, hruns⟩ := Bool.and_eq_true_iff.mp hrest
  obtain ⟨hactive, hdrain⟩ := Bool.and_eq_true_iff.mp hdrain
  obtain ⟨last, hlast, hrunning⟩ := (Option.any_eq_true _ _).mp hruns
  have hstarted : startEventTiming benchPlatform before =
      (.ok, (startEventTiming benchPlatform before).2) :=
    Prod.ext (of_decide_eq_true hok) rfl
  have hbefore : Calls benchPlatform (fun _ op => op.keepsTiming = true)
      (startEventTiming benchPlatform before).2 world := .of_runOps rfl hworld
  have hafter : Calls benchPlatform (fun _ op => op.carriesEvent = true)
      (onInt benchPlatform 2000 world) last := .of_runOps rfl hlast
  have hstate : last.driver.state = .eventRunning := of_decide_eq_true hrunning
  exact ⟨before, _, world, last, hstarted, hbefore, of_decide_eq_true hdrain, hafter,
    hstate, edge_drained hstarted hbefore hactive
      (Or.inr (Or.inl (of_decide_eq_true hdrain))) 2000 hafter (Or.inl hstate)⟩

end Swfpm.Max35103
