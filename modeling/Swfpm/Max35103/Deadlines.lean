import Swfpm.Max35103.Edges

/-!
# No event outlives its deadline

Once a flag of an event was seen its deadline stands, whatever edges follow,
until the event ends or the driver fails; a poll at the deadline reports it.
-/

namespace Swfpm.Max35103

open Evidence

variable {promise : Promise} {base : List Event} {view next : EventView}
variable {κ : Type*} {platform : Platform κ} {before start world last : World κ}

/-! ## The deadline of an event -/

theorem or_ne_zero {first second : UInt16} (hfirst : first ≠ 0) :
    first ||| second ≠ 0 := by
  rw [flags_ne_zero_iff] at hfirst ⊢
  obtain ⟨i, hset⟩ := hfirst
  refine ⟨i, ?_⟩
  rw [UInt16.toBitVec_or, BitVec.getLsbD_or, hset]
  rfl

/-- Since the log was `base`, an event ended, the driver failed, or the deadline
of the event stands. -/
inductive Held (deadlineUs : UInt64) (base : List Event) (view : EventView) : Prop
  | ended (recorded : List Event) (hlog : view.log = recorded ++ base)
      (hbound : ∃ event ∈ recorded, event.bounds = true)
  | failed (hlog : base <:+ view.log) (hstate : view.state = .error)
  | stands (hlog : base <:+ view.log) (hseen : view.seen ≠ 0)
      (hdeadline : view.deadlineUs = deadlineUs)

namespace Held

variable {deadlineUs : UInt64}

theorem of_bound {event : Event} (hbound : event.bounds = true)
    (hlog : base <:+ view.log) (hgrows : event :: view.log <:+ next.log) :
    Held deadlineUs base next := by
  obtain ⟨recorded, hrecorded⟩ := hlog
  obtain ⟨newest, hnewest⟩ := hgrows
  refine .ended (newest ++ event :: recorded) ?_ ⟨event, by simp, hbound⟩
  rw [← hnewest, ← hrecorded, List.append_assoc, List.cons_append]

theorem openDrain (hset : deadlineUs ≠ 0) (hlog : base <:+ view.log)
    (hseen : view.seen ≠ 0) (hdeadline : view.deadlineUs = deadlineUs)
    (nowUs : UInt64) : Held deadlineUs base (view.openDrain nowUs) := by
  refine .stands (hlog.trans (List.suffix_cons _ _)) hseen ?_
  rw [← hdeadline] at hset
  exact (if_neg hset).trans hdeadline

theorem timeOut (hlog : base <:+ view.log) : Held deadlineUs base view.timeOut := by
  have hreported := hlog.trans (view.log_handParts (view.expected &&& ~~~view.seen))
  have hbound : Event.timedOut.bounds = true := rfl
  exact of_bound hbound hreported List.suffix_rfl

theorem finish (hset : deadlineUs ≠ 0) (hlog : base <:+ view.log)
    (hseen : view.seen ≠ 0) (hdeadline : view.deadlineUs = deadlineUs)
    (status : UInt16) : Held deadlineUs base (view.finish status) := by
  rcases view.finish_cases status with htimeout | ⟨ended, hended, hsettled⟩
  · rw [htimeout]
    exact timeOut hlog
  rcases hended with ⟨hdone, rfl⟩ | ⟨hdone, rfl⟩
  · rcases hsettled with ⟨-, hagain⟩ | ⟨-, hrest⟩
    · rw [hagain]
      have hcleared : base <:+
          (EventView.log { ended with recheck := false, pendingIrqUs := 0 }) := hlog
      exact openDrain hset hcleared hseen hdeadline _
    · rw [hrest]
      refine .stands hlog hseen ?_
      exact (if_neg fun hnone => hseen hnone.2).trans hdeadline
  · have hclosed : (Event.eventComplete view.expected).bounds = true := rfl
    rcases hsettled with ⟨-, hagain⟩ | ⟨-, hrest⟩
    · rw [hagain]
      exact of_bound hclosed hlog (List.suffix_cons _ _)
    · rw [hrest]
      exact of_bound hclosed hlog List.suffix_rfl

theorem spiDone (hset : deadlineUs ≠ 0) (hlog : base <:+ view.log)
    (hseen : view.seen ≠ 0) (hdeadline : view.deadlineUs = deadlineUs)
    (status : UInt16) : Held deadlineUs base (view.spiDone status) := by
  have hcomplete : base <:+ view.complete.log := hlog.trans (List.suffix_cons _ _)
  unfold EventView.spiDone
  dsimp only
  split
  · have hheard : base <:+ (view.complete.hear status).log :=
      hcomplete.trans (List.suffix_cons _ _)
    unfold EventView.statusDone
    dsimp only
    split_ifs
    · exact .failed hheard rfl
    · exact .failed (hheard.trans ((view.complete.hear status).log_handParts _)) rfl
    · exact .stands hheard (or_ne_zero hseen) hdeadline
    · exact .stands hheard (or_ne_zero hseen) hdeadline
    · have hsaw : base <:+ ((view.complete.hear status).see status).log := hheard
      exact finish hset hsaw (or_ne_zero hseen) hdeadline status
  · have hhanded := hcomplete.trans view.complete.log_handTof
    obtain ⟨_, _, _, heq⟩ := view.complete.handTof_eq
    unfold EventView.resultDone
    dsimp only
    rw [heq] at hhanded ⊢
    split_ifs
    · exact .stands hhanded hseen hdeadline
    · refine finish hset hhanded ?_ ?_ _
      · exact hseen
      · exact hdeadline
  · have hhanded := hcomplete.trans view.complete.log_handTemperature
    obtain ⟨_, _, _, heq⟩ := view.complete.handTemperature_eq
    unfold EventView.temperatureDone
    rw [heq] at hhanded ⊢
    refine finish hset hhanded ?_ ?_ _
    · exact hseen
    · exact hdeadline
  · exact .failed hcomplete rfl

theorem onTimeout (hlog : base <:+ view.log) (hseen : view.seen ≠ 0)
    (hdeadline : view.deadlineUs = deadlineUs) :
    Held deadlineUs base view.onTimeout := by
  unfold EventView.onTimeout
  split
  · exact timeOut (hlog.trans view.log_handTof)
  · exact timeOut (hlog.trans view.log_handTemperature)
  · exact timeOut hlog
  · exact timeOut hlog
  · exact .stands hlog hseen hdeadline

theorem step (hset : deadlineUs ≠ 0) (hheld : Held deadlineUs base view)
    (hstep : EventStep promise view next) : Held deadlineUs base next := by
  have hgrows := hstep.log
  cases hheld with
  | ended recorded hlog hbound =>
      obtain ⟨event, hmem, hbound⟩ := hbound
      obtain ⟨newest, hnewest⟩ := hgrows
      refine .ended (newest ++ recorded) ?_
        ⟨event, List.mem_append_right _ hmem, hbound⟩
      rw [← hnewest, hlog, List.append_assoc]
  | failed hlog hstate =>
      refine .failed (hlog.trans hgrows) ?_
      cases hstep with
      | edge nowUs =>
          unfold EventView.onInt
          split_ifs with _ hbusy
          · exact hstate
          · exact hstate
          · exact hstate
          · exact absurd (Or.inl (by simp [hstate])) hbusy
      | failed => rfl
      | refused => rfl
      | done _ status =>
          rw [EventView.spiDone, hstate]
          rfl
      | timeout =>
          rw [EventView.onTimeout, hstate]
          exact hstate
  | stands hlog hseen hdeadline =>
      cases hstep with
      | edge nowUs =>
          unfold EventView.onInt
          split_ifs
          · exact .stands hlog hseen hdeadline
          · exact .stands hlog hseen hdeadline
          · exact .stands hlog hseen hdeadline
          · exact openDrain hset hlog hseen hdeadline nowUs
      | failed => exact .failed (hlog.trans hgrows) rfl
      | refused => exact .failed hlog rfl
      | done _ status => exact spiDone hset hlog hseen hdeadline status
      | timeout => exact onTimeout hlog hseen hdeadline

theorem steps (hset : deadlineUs ≠ 0) (hheld : Held deadlineUs base view)
    (hsteps : EventSteps promise view next) : Held deadlineUs base next := by
  induction hsteps with
  | refl => exact hheld
  | tail _ hlast ih => exact step hset ih hlast

end Held

theorem zero_early : (0 : UInt64).toNat < 2 ^ 63 := by decide

/-- Edges come before half of the range of the clock. -/
def earlyEdges : Promise :=
  { edge := fun nowUs => nowUs.toNat < 2 ^ 63, timeout := fun _ => True }

/-- The times that deadlines are computed from. -/
structure Dated (view : EventView) : Prop where
  timeout : view.resultTimeout ≠ 0
  interrupt : view.interruptUs.toNat < 2 ^ 63
  pendingIrq : view.pendingIrqUs.toNat < 2 ^ 63

/-- In addition, an event that is under way has a deadline. -/
structure Timed (view : EventView) : Prop where
  dated : Dated view
  deadline : view.inEvent → view.state = .eventRunning ∧ view.seen = 0 ∨
    view.deadlineUs ≠ 0

theorem deadline_ne_zero {nowUs : UInt64} (hnow : nowUs.toNat < 2 ^ 63)
    {timeoutMs : UInt32} (htimeout : timeoutMs ≠ 0) :
    nowUs + timeoutMs.toUInt64 * 1000 ≠ 0 := by
  intro hzero
  have hpos : 0 < timeoutMs.toNat := by
    rw [Nat.pos_iff_ne_zero]
    exact fun hnone => htimeout (UInt32.toNat_inj.mp hnone)
  have hlt := timeoutMs.toNat_lt
  have hnat := congrArg UInt64.toNat hzero
  rw [UInt64.toNat_add, UInt64.toNat_mul, UInt32.toNat_toUInt64] at hnat
  have hthousand : (1000 : UInt64).toNat = 1000 := rfl
  have hzeroNat : (0 : UInt64).toNat = 0 := rfl
  have hproduct : timeoutMs.toNat * 1000 < 2 ^ 64 := by omega
  rw [hthousand, hzeroNat, Nat.mod_eq_of_lt hproduct,
    Nat.mod_eq_of_lt (by omega)] at hnat
  omega

namespace Dated

theorem outside (hdated : Dated view) (htimeout : next.resultTimeout ≠ 0)
    (hinterrupt : next.interruptUs = view.interruptUs)
    (hpending : next.pendingIrqUs = 0) (hstate : ¬ next.inEvent) : Timed next := by
  refine ⟨⟨htimeout, hinterrupt ▸ hdated.interrupt, ?_⟩,
    fun hinside => absurd hinside hstate⟩
  rw [hpending]
  exact zero_early

theorem fail (hdated : Dated view) : Timed view.fail :=
  hdated.outside hdated.timeout rfl rfl (outside_of_state .error rfl (.inl rfl))

theorem lose (hdated : Dated view) : Timed view.lose.fail :=
  hdated.outside (by decide : resultTimeoutMsDefault ≠ 0) rfl rfl
    (outside_of_state .error rfl (.inl rfl))

theorem timeOut (hdated : Dated view) : Timed view.timeOut := by
  obtain ⟨_, _, _, _, heq⟩ := view.handParts_eq (view.expected &&& ~~~view.seen)
  unfold EventView.timeOut
  rw [heq]
  exact hdated.outside hdated.timeout rfl rfl
    (outside_of_state .timeout rfl (.inr (.inl rfl)))

theorem openDrain (hdated : Dated view) {nowUs : UInt64}
    (hnow : nowUs.toNat < 2 ^ 63) : Timed (view.openDrain nowUs) := by
  refine ⟨⟨hdated.timeout, hnow, hdated.pendingIrq⟩, fun _ => Or.inr ?_⟩
  change (if view.deadlineUs = 0 then _ else _) ≠ (0 : UInt64)
  split_ifs with hnone
  · exact deadline_ne_zero hnow hdated.timeout
  · exact hnone

theorem drainAgain (hdated : Dated view) : Timed view.drainAgain := by
  have hcleared : Dated { view with recheck := false, pendingIrqUs := 0 } :=
    ⟨hdated.timeout, hdated.interrupt, zero_early⟩
  refine hcleared.openDrain ?_
  split_ifs
  · exact hdated.pendingIrq
  · exact hdated.interrupt

theorem finish (hdated : Dated view) (hset : view.deadlineUs ≠ 0)
    (status : UInt16) : Timed (view.finish status) := by
  rcases view.finish_cases status with htimeout | ⟨ended, hended, hsettled⟩
  · rw [htimeout]
    exact hdated.timeOut
  have hkept : Dated ended := by
    rcases hended with ⟨-, rfl⟩ | ⟨-, rfl⟩
    · exact hdated
    · exact ⟨hdated.timeout, hdated.interrupt, hdated.pendingIrq⟩
  rcases hsettled with ⟨-, hagain⟩ | ⟨-, hrest⟩
  · rw [hagain]
    exact hkept.drainAgain
  · rw [hrest]
    refine ⟨⟨hkept.timeout, hkept.interrupt, hkept.pendingIrq⟩, fun hinside => ?_⟩
    have hrunning : (ended.rest view.done).state = .eventRunning := by
      by_cases hactive : ended.active = true
      · exact if_pos hactive
      · exact absurd hinside
          (outside_of_state .idle (if_neg hactive) (.inr (.inr rfl)))
    rcases hended with ⟨hdone, rfl⟩ | ⟨hdone, rfl⟩
    · by_cases hseen : ended.seen = 0
      · exact Or.inl ⟨hrunning, hseen⟩
      · refine Or.inr ?_
        change (if _ ∧ ended.seen = 0 then 0 else ended.deadlineUs) ≠ (0 : UInt64)
        rw [if_neg fun hnone => hseen hnone.2]
        exact hset
    · exact Or.inl ⟨hrunning, rfl⟩

/-- In a drain the deadline runs. -/
theorem drains (hdated : Dated view) (hset : view.deadlineUs ≠ 0) : Timed view :=
  ⟨hdated, fun _ => Or.inr hset⟩

end Dated

namespace Timed

theorem spiDone (htimed : Timed view) (status : UInt16) :
    Timed (view.spiDone status) := by
  have hset : view.inEvent → view.state ≠ .eventRunning → view.deadlineUs ≠ 0 := by
    intro hinside hother
    rcases htimed.deadline hinside with ⟨hrunning, -⟩ | hset
    · exact absurd hrunning hother
    · exact hset
  -- the fields that the steps below leave as they are
  have hdated : ∀ {kept : EventView}, kept.resultTimeout = view.resultTimeout →
      kept.interruptUs = view.interruptUs → kept.pendingIrqUs = view.pendingIrqUs →
      Dated kept := by
    intro kept htimeout hinterrupt hpending
    exact ⟨htimeout ▸ htimed.dated.timeout, hinterrupt ▸ htimed.dated.interrupt,
      hpending ▸ htimed.dated.pendingIrq⟩
  unfold EventView.spiDone
  dsimp only
  split
  · next hdrain =>
      have hdeadline := hset (.inr (.inl hdrain)) (by simp [hdrain])
      unfold EventView.statusDone
      dsimp only
      split_ifs
      · refine Dated.lose ?_
        exact hdated rfl rfl rfl
      · obtain ⟨_, _, _, _, heq⟩ := (view.complete.hear status).handParts_eq
          (view.complete.hear status).expected
        rw [heq]
        refine Dated.lose ?_
        exact hdated rfl rfl rfl
      · refine Dated.drains ?_ hdeadline
        exact hdated rfl rfl rfl
      · refine Dated.drains ?_ hdeadline
        exact hdated rfl rfl rfl
      · refine Dated.finish ?_ ?_ status
        · exact hdated rfl rfl rfl
        · exact hdeadline
  · next hread =>
      have hdeadline := hset (.inr (.inr (.inl hread))) (by simp [hread])
      obtain ⟨_, _, _, heq⟩ := view.complete.handTof_eq
      unfold EventView.resultDone
      dsimp only
      rw [heq]
      split_ifs
      · refine Dated.drains ?_ hdeadline
        exact hdated rfl rfl rfl
      · refine Dated.finish ?_ ?_ _
        · exact hdated rfl rfl rfl
        · exact hdeadline
  · next hread =>
      have hdeadline := hset (.inr (.inr (.inr hread))) (by simp [hread])
      obtain ⟨_, _, _, heq⟩ := view.complete.handTemperature_eq
      unfold EventView.temperatureDone
      rw [heq]
      refine Dated.finish ?_ ?_ _
      · exact hdated rfl rfl rfl
      · exact hdeadline
  · refine Dated.fail ?_
    exact hdated rfl rfl rfl

theorem onTimeout (htimed : Timed view) : Timed view.onTimeout := by
  obtain ⟨htimeout, hinterrupt, hpending⟩ := htimed.dated
  unfold EventView.onTimeout
  split
  · obtain ⟨_, _, _, heq⟩ := view.handTof_eq
    rw [heq]
    exact Dated.timeOut ⟨htimeout, hinterrupt, hpending⟩
  · obtain ⟨_, _, _, heq⟩ := view.handTemperature_eq
    rw [heq]
    exact Dated.timeOut ⟨htimeout, hinterrupt, hpending⟩
  · exact htimed.dated.timeOut
  · exact htimed.dated.timeOut
  · exact htimed

theorem step (htimed : Timed view) (hstep : EventStep earlyEdges view next) :
    Timed next := by
  obtain ⟨htimeout, hinterrupt, hpending⟩ := htimed.dated
  cases hstep with
  | edge nowUs hnow =>
      unfold EventView.onInt
      split_ifs
      · exact htimed
      · exact ⟨⟨htimeout, hinterrupt, hnow⟩, htimed.deadline⟩
      · exact htimed
      · exact htimed.dated.openDrain hnow
  | failed => exact Dated.fail ⟨htimeout, hinterrupt, hpending⟩
  | done _ status => exact htimed.spiDone status
  | refused => exact htimed.dated.fail
  | timeout => exact htimed.onTimeout

theorem steps (htimed : Timed view) (hsteps : EventSteps earlyEdges view next) :
    Timed next := by
  induction hsteps with
  | refl => exact htimed
  | tail _ hlast ih => exact ih.step hlast

/-- A cancel clears the deadline, and with it may only go an event of which
nothing was seen. -/
theorem cancel (htimed : Timed view) (hseen : view.seen = 0) :
    Timed view.cancel := by
  unfold EventView.cancel
  split_ifs
  · exact htimed
  · refine ⟨⟨htimed.dated.timeout, zero_early, zero_early⟩, fun hinside => ?_⟩
    by_cases hactive : view.active = true
    · exact Or.inl ⟨if_pos hactive, hseen⟩
    · exact absurd hinside
        (outside_of_state .idle (if_neg hactive) (.inr (.inr rfl)))

end Timed

/-- The calls of event timing after its start, with early edges and with cancels
only of events of which nothing was seen. -/
def Op.Timely (world : World κ) (op : Op) : Prop :=
  op.carriesEvent = true ∧ op.Keeps earlyEdges world ∨
    op = .cancel ∧ world.driver.seenEventFlags = 0

theorem resultTimeout_ne_zero (driver : Driver) : driver.resultTimeout ≠ 0 := by
  unfold Driver.resultTimeout Driver.profileTimeout
  split
  · split_ifs with hset
    · exact hset
    · decide
  · decide

theorem timed_run (hstarted : startEventTiming platform before = (.ok, start))
    (hrun : Calls platform Op.Timely start world) : Timed world.view := by
  induction hrun with
  | refl =>
      obtain ⟨-, hview⟩ := started_view hstarted
      rw [hview]
      exact ⟨⟨resultTimeout_ne_zero before.driver, zero_early, zero_early⟩,
        fun _ => Or.inl ⟨rfl, rfl⟩⟩
  | tail op _ hcall hstep ih =>
      rcases hcall with ⟨hcarries, hkeeps⟩ | ⟨rfl, hseen⟩
      · exact ih.steps (step_steps hcarries hkeeps hstep)
      · obtain rfl := Option.some.inj hstep
        rw [cancel_view]
        exact ih.cancel hseen

/-- Once a flag of an event was seen, the deadline stays whatever edges,
completions and polls follow, until an event ends or the driver fails; and at the
deadline a poll in the event reports the timeout. -/
theorem deadline_stands (hstarted : startEventTiming platform before = (.ok, start))
    (hrun : Calls platform Op.Timely start world) (hinside : world.view.inEvent)
    (hseen : world.driver.seenEventFlags ≠ 0)
    (hafter : Calls platform (fun _ op => op.carriesEvent = true) world last) :
    (∃ recorded, last.view.log = recorded ++ world.view.log ∧
        ∃ event ∈ recorded, event.bounds = true) ∨
      last.driver.state = .error ∨
      last.driver.deadlineUs = world.driver.deadlineUs ∧
        ∀ nowUs, world.driver.deadlineUs ≤ nowUs → last.view.inEvent →
          (process platform nowUs last).1 = .timeout := by
  have hset : world.driver.deadlineUs ≠ 0 := by
    rcases (timed_run hstarted hrun).deadline hinside with ⟨-, hnone⟩ | hset
    · exact absurd hnone hseen
    · exact hset
  have hheld : Held world.driver.deadlineUs world.view.log last.view := by
    induction hafter with
    | refl => exact .stands List.suffix_rfl hseen rfl
    | tail op _ hcarries hstep ih =>
        exact Held.steps hset ih (step_steps hcarries (op.keeps_none _) hstep)
  cases hheld with
  | ended recorded hlog hbound => exact Or.inl ⟨recorded, hlog, hbound⟩
  | failed _ hstate => exact Or.inr (Or.inl hstate)
  | stands _ hstill hdeadline =>
      refine Or.inr (Or.inr ⟨hdeadline, fun nowUs hnow hin => ?_⟩)
      have hpassed : last.driver.deadlinePassed nowUs = true := by
        have hdue : last.driver.deadlineUs = world.driver.deadlineUs := hdeadline
        have hseenStill : last.driver.seenEventFlags ≠ 0 := hstill
        change last.driver.state = _ ∨ last.driver.state = _ ∨
          last.driver.state = _ ∨ last.driver.state = _ at hin
        unfold Driver.deadlinePassed Driver.draining
        rcases hin with hin | hin | hin | hin <;> simp [hin, hdue, hset, hnow, hseenStill]
      rw [process, if_pos hpassed]

/-- Edges do not move the deadline of an event whose flow half was seen. -/
theorem deadline_stands_bench :
    ∃ before start world last : World Bench,
      startEventTiming benchPlatform before = (.ok, start) ∧
      Calls benchPlatform Op.Timely start world ∧
      world.driver.seenEventFlags = intTofEvtmg ∧
      Calls benchPlatform (fun _ op => op.carriesEvent = true) world last ∧
      last.driver.state = .drainStatus ∧
      ((∃ recorded, last.view.log = recorded ++ world.view.log ∧
          ∃ event ∈ recorded, event.bounds = true) ∨
        last.driver.state = .error ∨
        last.driver.deadlineUs = world.driver.deadlineUs ∧
          ∀ nowUs, world.driver.deadlineUs ≤ nowUs → last.view.inEvent →
            (process benchPlatform nowUs last).1 = .timeout) := by
  obtain ⟨before, -, hheld, -⟩ := benchRun [0x0004, 0x0008, intTofEvtmg]
    [.resetDevice 3, .configure benchProfile]
    (fun before =>
      (startEventTiming benchPlatform before).1 = .ok &&
      (runOps benchPlatform (startEventTiming benchPlatform before).2
        [.onInt 1000]).any fun drains =>
          (runOps benchPlatform drains [.executeSpi, .executeSpi]).any fun world =>
            (world.driver.seenEventFlags = intTofEvtmg &&
              world.driver.state = .eventRunning) &&
            (runOps benchPlatform world [.onInt 2000]).any fun last =>
              last.driver.state = .drainStatus)
    (by decide +kernel)
  obtain ⟨hok, hruns⟩ := Bool.and_eq_true_iff.mp hheld
  obtain ⟨drains, hdrains, hruns⟩ := (Option.any_eq_true _ _).mp hruns
  obtain ⟨world, hworld, hrest⟩ := (Option.any_eq_true _ _).mp hruns
  obtain ⟨hseen, hruns⟩ := Bool.and_eq_true_iff.mp hrest
  obtain ⟨hseen, hrunning⟩ := Bool.and_eq_true_iff.mp hseen
  obtain ⟨last, hlast, hdrain⟩ := (Option.any_eq_true _ _).mp hruns
  have hstarted : startEventTiming benchPlatform before =
      (.ok, (startEventTiming benchPlatform before).2) :=
    Prod.ext (of_decide_eq_true hok) rfl
  have hedge : Calls benchPlatform Op.Timely
      (startEventTiming benchPlatform before).2 drains :=
    .tail (.onInt 1000) .refl (Or.inl ⟨rfl, show (1000 : UInt64).toNat < 2 ^ 63 by decide⟩)
      (by simpa [runOps] using hdrains)
  have htransfers : Calls benchPlatform Op.Timely drains world := by
    refine (@Calls.of_runOps _ _ (fun op => op = .executeSpi) _ _ _ rfl hworld).mono ?_
    intro world op hop
    obtain rfl := of_decide_eq_true hop
    exact Or.inl ⟨rfl, trivial⟩
  have hafter : Calls benchPlatform (fun _ op => op.carriesEvent = true) world last :=
    .of_runOps rfl hlast
  have hmask : world.driver.seenEventFlags = intTofEvtmg := of_decide_eq_true hseen
  have hset : world.driver.seenEventFlags ≠ 0 := by
    rw [hmask]
    decide
  exact ⟨before, _, world, last, hstarted, hedge.append htransfers, hmask, hafter,
    of_decide_eq_true hdrain, deadline_stands hstarted (hedge.append htransfers)
      (Or.inl (of_decide_eq_true hrunning)) hset hafter⟩

end Swfpm.Max35103
