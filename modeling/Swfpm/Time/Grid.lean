import Swfpm.Time.Scheduler

/-!
# Periodic jobs stay on their grid

Whole runs of the scheduler.  Each dispatch sets the deadlines that it consumes
to the least later point of the job's grid, so a run emits the points of a job's
grid in increasing order, however late it dispatches.
-/

namespace Swfpm

/-- `t` is a point of the grid that `period` makes from `anchor` on. -/
def IsGridPoint (anchor period : UInt64) (t : ℕ) : Prop :=
  ∃ k : ℕ, t = anchor.toNat + k * period.toNat

/-- The points of the grid later than `now`. -/
def laterPoints (anchor period now : UInt64) : Set ℕ :=
  {t | IsGridPoint anchor period t ∧ now.toNat < t}

theorem nextAnchored_toNat {anchor period now : UInt64} (hperiod : period ≠ 0)
    (hanchor : anchor ≤ now) (hrange : now.toNat + period.toNat < 2 ^ 64) :
    (nextAnchored anchor period now).toNat =
      anchor.toNat +
        ((now.toNat - anchor.toNat) / period.toNat + 1) * period.toNat := by
  have hle : anchor.toNat ≤ now.toNat := UInt64.le_iff_toNat_le.mp hanchor
  have helapsed : (now - anchor).toNat = now.toNat - anchor.toNat :=
    UInt64.toNat_sub_of_le _ _ hanchor
  have hdiv : (now.toNat - anchor.toNat) / period.toNat * period.toNat ≤
      now.toNat - anchor.toNat := Nat.div_mul_le_self _ _
  have hpos : 0 < period.toNat :=
    Nat.pos_of_ne_zero fun hzero => hperiod (UInt64.toNat_inj.mp hzero)
  have hperiods : ((now - anchor) / period + 1).toNat =
      (now.toNat - anchor.toNat) / period.toNat + 1 := by
    rw [UInt64.toNat_add, UInt64.toNat_div, helapsed]
    apply Nat.mod_eq_of_lt
    have := Nat.div_le_self (now.toNat - anchor.toNat) period.toNat
    change _ + 1 < 2 ^ 64
    omega
  have hproduct : (((now - anchor) / period + 1) * period).toNat =
      ((now.toNat - anchor.toNat) / period.toNat + 1) * period.toNat := by
    rw [UInt64.toNat_mul, hperiods]
    apply Nat.mod_eq_of_lt
    rw [Nat.add_mul, Nat.one_mul]
    omega
  have hsum : (anchor + ((now - anchor) / period + 1) * period).toNat =
      anchor.toNat +
        ((now.toNat - anchor.toNat) / period.toNat + 1) * period.toNat := by
    rw [UInt64.toNat_add, hproduct]
    apply Nat.mod_eq_of_lt
    rw [Nat.add_mul, Nat.one_mul]
    omega
  rw [nextAnchored, if_neg hperiod, if_neg (UInt64.not_lt.mpr hanchor)]
  dsimp only
  rw [if_neg, hsum]
  rw [UInt64.lt_iff_toNat_lt, hsum]
  exact Nat.not_lt.mpr (Nat.le_add_right _ _)

/-- Without wrap the next deadline is the least later point of the grid. -/
theorem nextAnchored_isLeast {anchor period now : UInt64} (hperiod : period ≠ 0)
    (hrange : now.toNat + period.toNat < 2 ^ 64) :
    IsLeast (laterPoints anchor period now)
      (nextAnchored anchor period now).toNat := by
  by_cases hanchor : anchor ≤ now
  · rw [nextAnchored_toNat hperiod hanchor hrange]
    have hle : anchor.toNat ≤ now.toNat := UInt64.le_iff_toNat_le.mp hanchor
    have hpos : 0 < period.toNat :=
      Nat.pos_of_ne_zero fun hzero => hperiod (UInt64.toNat_inj.mp hzero)
    refine ⟨⟨⟨_, rfl⟩, ?_⟩, ?_⟩
    · have := Nat.lt_div_mul_add hpos (a := now.toNat - anchor.toNat)
      rw [Nat.add_mul, Nat.one_mul]
      omega
    · rintro _ ⟨⟨k, rfl⟩, hlater⟩
      apply Nat.add_le_add_left
      apply Nat.mul_le_mul_right
      rw [Nat.succ_le_iff, Nat.div_lt_iff_lt_mul hpos]
      omega
  · have hlt : now < anchor := UInt64.not_le.mp hanchor
    rw [nextAnchored, if_neg hperiod, if_pos hlt]
    refine ⟨⟨⟨0, by simp⟩, UInt64.lt_iff_toNat_lt.mp hlt⟩, ?_⟩
    rintro _ ⟨⟨k, rfl⟩, -⟩
    exact Nat.le_add_right _ _

/-! ## Runs -/

inductive SchedulerCall where
  | scheduleOneShot (jobId : UInt16) (ownerId : UInt32) (eventId : EventId)
      (deadlineUs : UInt64) (generation : UInt32) (priority : AppEventPriority)
  | schedulePeriodic (jobId : UInt16) (ownerId : UInt32) (eventId : EventId)
      (anchorUs periodUs : UInt64) (generation : UInt32)
      (missPolicy : MissPolicy) (priority : AppEventPriority) (nowUs : UInt64)
  | cancel (jobId : UInt16) (generation : UInt32)
  | acknowledge (jobId : UInt16) (generation : UInt32)
  | dispatchDue (nowUs : UInt64) (clock : ℕ → UInt64) (maxEvents : UInt8)

/-- The time that the call goes by. -/
def SchedulerCall.nowUs : SchedulerCall → Option UInt64
  | .schedulePeriodic _ _ _ _ _ _ _ _ nowUs => some nowUs
  | .dispatchDue nowUs _ _ => some nowUs
  | _ => none

/-- The period that the call asks for. -/
def SchedulerCall.periodUs : SchedulerCall → Option UInt64
  | .schedulePeriodic _ _ _ _ periodUs _ _ _ _ => some periodUs
  | _ => none

namespace Scheduler

def call (scheduler : Scheduler) : SchedulerCall → Scheduler
  | .scheduleOneShot jobId ownerId eventId deadlineUs generation priority =>
      (scheduler.scheduleOneShot jobId ownerId eventId deadlineUs generation
        priority).2
  | .schedulePeriodic jobId ownerId eventId anchorUs periodUs generation
      missPolicy priority nowUs =>
      (scheduler.schedulePeriodic jobId ownerId eventId anchorUs periodUs
        generation missPolicy priority nowUs).2
  | .cancel jobId generation => (scheduler.cancel jobId generation).2
  | .acknowledge jobId generation => (scheduler.acknowledge jobId generation).2
  | .dispatchDue nowUs clock maxEvents =>
      (scheduler.dispatchDue nowUs clock maxEvents).2

/-- The due events of the call. -/
def emits (scheduler : Scheduler) : SchedulerCall → List AppEvent
  | .dispatchDue nowUs clock maxEvents =>
      (scheduler.dispatchDue nowUs clock maxEvents).1
  | _ => []

/-- The jobs that the call's due events announce, as the table had them. -/
def announced (scheduler : Scheduler) (request : SchedulerCall) :
    List SchedulerJob :=
  (scheduler.emits request).filterMap fun event =>
    scheduler.table.find? fun job => job.jobId.toUInt32 = event.correlationId

def run (calls : List SchedulerCall) : Scheduler := calls.foldl call init

/-- The jobs announced so far, from a scheduler on. -/
def announcementsFrom (scheduler : Scheduler) : List SchedulerCall → List SchedulerJob
  | [] => []
  | request :: calls =>
      scheduler.announced request ++ announcementsFrom (scheduler.call request) calls

def announcements (calls : List SchedulerCall) : List SchedulerJob :=
  announcementsFrom init calls

/-! ## One dispatch -/

/-- The job's deadline is a point of its grid. -/
def OnGrid (job : SchedulerJob) : Prop :=
  IsGridPoint job.anchorUs job.periodUs job.deadlineUs.toNat

/-- The job's deadline is the least point of its grid later than `nowUs`. -/
def NextOnGrid (job : SchedulerJob) (nowUs : UInt64) : Prop :=
  IsLeast (laterPoints job.anchorUs job.periodUs nowUs) job.deadlineUs.toNat

/-- What a dispatch does with a periodic job: nothing, or it consumes the
deadline, with or without an event. -/
inductive Handles (nowUs : UInt64) (events : List AppEvent)
    (job : SchedulerJob) : SchedulerJob → Prop where
  | left (hquiet : ∀ reading, job.dueEvent reading ∉ events) :
      Handles nowUs events job job
  | emitted {deadlineUs : UInt64} (hdue : job.deadlineUs ≤ nowUs)
      (hevent : ∃ reading, job.dueEvent reading ∈ events)
      (hnext : NextOnGrid { job with deadlineUs } nowUs) :
      Handles nowUs events job { job with deadlineUs, pending := true }
  | skipped {deadlineUs : UInt64} (hdue : job.deadlineUs ≤ nowUs)
      (hpending : job.pending = true) (hpolicy : job.missPolicy = .skip)
      (hquiet : ∀ reading, job.dueEvent reading ∉ events)
      (hnext : NextOnGrid { job with deadlineUs } nowUs) :
      Handles nowUs events job { job with deadlineUs, pending := false }

/-- A dispatch that keeps the jobs on their grids. -/
structure KeepsGrid (nowUs : UInt64) (before after : List SchedulerJob)
    (events : List AppEvent) : Prop where
  early : ∀ event ∈ events, ∃ job ∈ before, ∃ reading,
    event = job.dueEvent reading ∧ job.deadlineUs ≤ nowUs
  once : (events.map AppEvent.correlationId).Nodup
  periodic : ∀ job ∈ before, job.periodUs ≠ 0 →
    ∃ later ∈ after, Handles nowUs events job later
  oneShot : ∀ job ∈ before, job.periodUs = 0 →
    (job ∈ after ∧ ∀ reading, job.dueEvent reading ∉ events) ∨
      ∀ later ∈ after, later.jobId ≠ job.jobId

/-! ## The events of a dispatch -/

theorem of_mem_dueEvents {clock : ℕ → UInt64} {reading : ℕ}
    {jobs : List SchedulerJob} {event : AppEvent}
    (hmem : event ∈ dueEvents clock reading jobs) :
    ∃ job ∈ jobs, ∃ reading, event = job.dueEvent reading := by
  induction jobs generalizing reading with
  | nil => exact absurd hmem List.not_mem_nil
  | cons job jobs ih =>
      rcases List.mem_cons.mp hmem with rfl | hmem
      · exact ⟨job, List.mem_cons_self, _, rfl⟩
      · obtain ⟨other, hother, hevent⟩ := ih hmem
        exact ⟨other, List.mem_cons_of_mem _ hother, hevent⟩

theorem exists_mem_dueEvents {clock : ℕ → UInt64} (reading : ℕ)
    {jobs : List SchedulerJob} {job : SchedulerJob} (hmem : job ∈ jobs) :
    ∃ stamp, job.dueEvent stamp ∈ dueEvents clock reading jobs := by
  induction jobs generalizing reading with
  | nil => exact absurd hmem List.not_mem_nil
  | cons first jobs ih =>
      rcases List.mem_cons.mp hmem with rfl | hmem
      · exact ⟨_, List.mem_cons_self⟩
      · obtain ⟨stamp, hevent⟩ := ih (reading + 1) hmem
        exact ⟨stamp, List.mem_cons_of_mem _ hevent⟩

theorem map_correlationId_dueEvents (clock : ℕ → UInt64) (reading : ℕ)
    (jobs : List SchedulerJob) :
    (dueEvents clock reading jobs).map AppEvent.correlationId =
      jobs.map fun job => job.jobId.toUInt32 := by
  induction jobs generalizing reading with
  | nil => rfl
  | cons job jobs ih =>
      rw [dueEvents, List.map_cons, List.map_cons, ih]
      rfl

/-- An event names one job of the table. -/
theorem eq_of_dueEvent {jobs : List SchedulerJob} (hunique : UniqueIds jobs)
    {first second : SchedulerJob} (hfirst : first ∈ jobs)
    (hsecond : second ∈ jobs) {reading stamp : UInt64}
    (hevent : first.dueEvent reading = second.dueEvent stamp) :
    first = second :=
  hunique.eq_of_mem hfirst hsecond
    (UInt16.toUInt32_inj.mp (congrArg AppEvent.correlationId hevent))

/-- The events of a dispatch announce the jobs that its sweep emits. -/
theorem announced_dispatchDue {scheduler : Scheduler}
    (hcount : scheduler.jobCount ≤ schedulerMaxJobs)
    (hunique : UniqueIds scheduler.table) (nowUs : UInt64) (clock : ℕ → UInt64)
    (maxEvents : UInt8) :
    scheduler.announced (.dispatchDue nowUs clock maxEvents) =
      (sweep nowUs maxEvents.toNat scheduler.table).2 := by
  rw [announced, emits, (scheduler.dispatchDue_sweep hcount nowUs clock
    maxEvents).1]
  obtain ⟨reached, rest, hjobs, -, hfired, -, -⟩ :=
    sweep_reaches nowUs maxEvents.toNat scheduler.table
  have hsub : ∀ job ∈ (sweep nowUs maxEvents.toNat scheduler.table).2,
      job ∈ scheduler.table := by
    intro job hmem
    rw [hfired] at hmem
    rw [hjobs]
    exact List.mem_append_left _ (List.mem_of_mem_filter hmem)
  generalize (sweep nowUs maxEvents.toNat scheduler.table).2 = fired at hsub ⊢
  let announces (event : AppEvent) : Option SchedulerJob :=
    scheduler.table.find? fun job => job.jobId.toUInt32 = event.correlationId
  have hfind : ∀ job ∈ scheduler.table, ∀ reading,
      announces (job.dueEvent reading) = some job := by
    intro job hmem reading
    have hsome : (announces (job.dueEvent reading)).isSome :=
      List.find?_isSome.mpr ⟨job, hmem, by simp [SchedulerJob.dueEvent]⟩
    obtain ⟨other, hother⟩ := Option.isSome_iff_exists.mp hsome
    change scheduler.table.find? (fun found =>
      found.jobId.toUInt32 = job.jobId.toUInt32) = some other at hother
    have hid := List.find?_some hother
    change announces (job.dueEvent reading) = some other at hother
    rw [hother, hunique.eq_of_mem (List.mem_of_find?_eq_some hother) hmem
      (UInt16.toUInt32_inj.mp (of_decide_eq_true hid))]
  generalize (0 : ℕ) = reading
  induction fired generalizing reading with
  | nil => rfl
  | cons job fired ih =>
      have hjob := hfind job (hsub job List.mem_cons_self) (clock reading)
      rw [dueEvents, List.filterMap_cons_some hjob]
      congr 1
      exact ih (fun other hother => hsub other (List.mem_cons_of_mem _ hother)) _

/-! ## The invariant of a run -/

/-- What holds after a run up to `latest` that announced `history`. -/
structure OnSchedule (periods : List UInt64) (latest : UInt64)
    (history : List SchedulerJob) (scheduler : Scheduler) : Prop where
  count_le : scheduler.jobCount ≤ schedulerMaxJobs
  unique : UniqueIds scheduler.table
  grid : ∀ job ∈ scheduler.table, job.periodUs ≠ 0 →
    OnGrid job ∧ job.periodUs ∈ periods
  /-- An announced deadline lies behind the run and behind every periodic job
  of its id. -/
  past : ∀ fired ∈ history, fired.deadlineUs ≤ latest ∧
    ∀ job ∈ scheduler.table, job.jobId = fired.jobId → job.periodUs ≠ 0 →
      fired.deadlineUs < job.deadlineUs
  ordered : history.Pairwise fun earlier later =>
    earlier.jobId = later.jobId → earlier.periodUs ≠ 0 → later.periodUs ≠ 0 →
      earlier.deadlineUs < later.deadlineUs

variable {scheduler : Scheduler} {periods : List UInt64} {latest : UInt64}
  {history : List SchedulerJob}

/-- Every remaining job keeps or advances the deadline that it had. -/
theorem OnSchedule.subset (hrun : OnSchedule periods latest history scheduler)
    {later : Scheduler} (hcount : later.jobCount ≤ schedulerMaxJobs)
    (hunique : UniqueIds later.table)
    (hfrom : ∀ job ∈ later.table, ∃ old ∈ scheduler.table,
      ∃ pending, job = { old with pending }) :
    OnSchedule periods latest history later := by
  refine ⟨hcount, hunique, ?_, ?_, hrun.ordered⟩
  · intro job hmem hperiod
    obtain ⟨old, hold, pending, rfl⟩ := hfrom job hmem
    exact hrun.grid old hold hperiod
  · intro fired hfired
    refine ⟨(hrun.past fired hfired).1, fun job hmem hid hperiod => ?_⟩
    obtain ⟨old, hold, pending, rfl⟩ := hfrom job hmem
    exact (hrun.past fired hfired).2 old hold hid hperiod

theorem OnSchedule.schedules {added : SchedulerJob}
    {result : ScheduleResult × Scheduler}
    (hrun : OnSchedule periods latest history scheduler)
    (hresult : Schedules added scheduler result)
    (hadded : added.periodUs ≠ 0 →
      OnGrid added ∧ added.periodUs ∈ periods ∧ latest < added.deadlineUs) :
    OnSchedule periods latest history result.2 := by
  cases hresult with
  | rejected _ => exact hrun
  | added hnew hholds =>
      refine ⟨hholds.count_le, ?_, ?_, ?_, hrun.ordered⟩
      · rw [hholds.table_eq]
        exact hrun.unique.append_singleton hnew
      · intro job hmem hperiod
        rw [hholds.table_eq] at hmem
        rcases List.mem_append.mp hmem with hmem | hmem
        · exact hrun.grid job hmem hperiod
        · obtain rfl := List.mem_singleton.mp hmem
          exact ⟨(hadded hperiod).1, (hadded hperiod).2.1⟩
      · intro fired hfired
        refine ⟨(hrun.past fired hfired).1, fun job hmem hid hperiod => ?_⟩
        rw [hholds.table_eq] at hmem
        rcases List.mem_append.mp hmem with hmem | hmem
        · exact (hrun.past fired hfired).2 job hmem hid hperiod
        · obtain rfl := List.mem_singleton.mp hmem
          exact UInt64.lt_of_le_of_lt (hrun.past fired hfired).1
            (hadded hperiod).2.2

theorem OnSchedule.cancel (hrun : OnSchedule periods latest history scheduler)
    (jobId : UInt16) (generation : UInt32) :
    OnSchedule periods latest history (scheduler.cancel jobId generation).2 := by
  have hcancels := cancel_cancels hrun.count_le hrun.unique jobId generation
  generalize scheduler.cancel jobId generation = result at hcancels ⊢
  cases hcancels with
  | notFound _ => exact hrun
  | @removed _ before after _ htable _ _ hholds =>
      have hsub : List.Sublist (before ++ after) scheduler.table := by
        rw [htable]
        exact List.Sublist.append_left (List.sublist_cons_self _ _) _
      apply hrun.subset hholds.count_le
      · rw [hholds.table_eq]
        exact hrun.unique.sublist (hsub.map _)
      · intro job hmem
        rw [hholds.table_eq] at hmem
        exact ⟨job, hsub.subset hmem, job.pending, rfl⟩

theorem OnSchedule.acknowledge
    (hrun : OnSchedule periods latest history scheduler) (jobId : UInt16)
    (generation : UInt32) :
    OnSchedule periods latest history
      (scheduler.acknowledge jobId generation).2 := by
  have hacknowledges :=
    acknowledge_acknowledges hrun.count_le hrun.unique jobId generation
  generalize scheduler.acknowledge jobId generation = result at hacknowledges ⊢
  cases hacknowledges with
  | refused _ => exact hrun
  | cleared htable _ _ _ hholds =>
      apply hrun.subset hholds.count_le
      · have hunique := hrun.unique
        rw [UniqueIds, htable] at hunique
        rw [UniqueIds, hholds.table_eq]
        simpa using hunique
      · intro job hmem
        rw [hholds.table_eq] at hmem
        rw [htable]
        rcases List.mem_append.mp hmem with hmem | hmem
        · exact ⟨job, List.mem_append_left _ hmem, job.pending, rfl⟩
        · rcases List.mem_cons.mp hmem with rfl | hmem
          · exact ⟨_, List.mem_append_right _ List.mem_cons_self, _, rfl⟩
          · exact ⟨job, List.mem_append_right _ (List.mem_cons_of_mem _ hmem),
              job.pending, rfl⟩

/-! ## Dispatch -/

/-- A dispatch leaves the job that it reaches, consumes its deadline, or, for a
one-shot, removes it. -/
theorem mem_passed {job later : SchedulerJob} {nowUs : UInt64}
    (hmem : later ∈ job.passed nowUs) :
    (later = job ∧ ¬ job.Fires nowUs ∧ ¬ job.Skips nowUs) ∨
      ((job.Fires nowUs ∨ job.Skips nowUs) ∧ job.periodUs ≠ 0 ∧
        later = job.rescheduled nowUs (!job.pending)) := by
  rw [SchedulerJob.passed] at hmem
  split_ifs at hmem with hconsumed hperiod
  · exact absurd hmem List.not_mem_nil
  · exact .inr ⟨hconsumed, hperiod, List.mem_singleton.mp hmem⟩
  · exact .inl ⟨List.mem_singleton.mp hmem, not_or.mp hconsumed⟩

theorem jobId_of_mem_passed {job later : SchedulerJob} {nowUs : UInt64}
    (hmem : later ∈ job.passed nowUs) : later.jobId = job.jobId := by
  rcases mem_passed hmem with ⟨rfl, -⟩ | ⟨-, -, rfl⟩ <;> rfl

theorem passed_ids_sublist (nowUs : UInt64) (reached : List SchedulerJob) :
    ((reached.flatMap (·.passed nowUs)).map SchedulerJob.jobId).Sublist
      (reached.map SchedulerJob.jobId) := by
  induction reached with
  | nil => exact List.Sublist.refl _
  | cons job reached ih =>
      rw [List.flatMap_cons, List.map_append, SchedulerJob.passed]
      split_ifs
      · exact ih.cons _
      · exact ih.cons_cons _
      · exact ih.cons_cons _

/-- A sweep leaves the jobs different ids. -/
theorem UniqueIds.sweep {jobs : List SchedulerJob} (hunique : UniqueIds jobs)
    (nowUs : UInt64) (room : ℕ) : UniqueIds (Scheduler.sweep nowUs room jobs).1 := by
  obtain ⟨reached, rest, hjobs, hafter, -, -, -⟩ := sweep_reaches nowUs room jobs
  have hsub : (((reached.flatMap (·.passed nowUs)) ++ rest).map
      SchedulerJob.jobId).Sublist (jobs.map SchedulerJob.jobId) := by
    rw [hjobs, List.map_append, List.map_append]
    exact (passed_ids_sublist nowUs reached).append_right _
  rw [hafter]
  exact List.Nodup.sublist hsub hunique

/-- The next deadline of a job whose deadline has passed. -/
theorem rescheduled_next {job : SchedulerJob} {nowUs : UInt64}
    (hperiod : job.periodUs ≠ 0)
    (hrange : nowUs.toNat + job.periodUs.toNat < 2 ^ 64) (pending : Bool) :
    NextOnGrid (job.rescheduled nowUs pending) nowUs :=
  nextAnchored_isLeast hperiod hrange

theorem lt_of_nextOnGrid {job : SchedulerJob} {nowUs : UInt64}
    (hnext : NextOnGrid job nowUs) : nowUs < job.deadlineUs :=
  UInt64.lt_iff_toNat_lt.mpr hnext.1.2

theorem OnSchedule.dispatchDue
    (hrun : OnSchedule periods latest history scheduler) {nowUs : UInt64}
    (hnow : latest ≤ nowUs)
    (hrange : ∀ period ∈ periods, nowUs.toNat + period.toNat < 2 ^ 64)
    (clock : ℕ → UInt64) (maxEvents : UInt8) :
    OnSchedule periods nowUs
      (history ++ scheduler.announced (.dispatchDue nowUs clock maxEvents))
      (scheduler.dispatchDue nowUs clock maxEvents).2 := by
  have hholds := (dispatchDue_sweep hrun.count_le nowUs clock maxEvents).2
  rw [announced_dispatchDue hrun.count_le hrun.unique]
  obtain ⟨reached, rest, htable, hafter, hfired, -, -⟩ :=
    sweep_reaches nowUs maxEvents.toNat scheduler.table
  rw [hafter] at hholds
  rw [hfired]
  have hunique := hrun.unique
  rw [UniqueIds, htable, List.map_append, List.nodup_append] at hunique
  obtain ⟨-, -, hdisjoint⟩ := hunique
  have hreached : ∀ job ∈ reached, job ∈ scheduler.table := by
    intro job hmem
    rw [htable]
    exact List.mem_append_left _ hmem
  have hrest : ∀ job ∈ rest, job ∈ scheduler.table := by
    intro job hmem
    rw [htable]
    exact List.mem_append_right _ hmem
  have hnext : ∀ job ∈ reached, job.periodUs ≠ 0 →
      NextOnGrid (job.rescheduled nowUs (!job.pending)) nowUs := by
    intro job hmem hperiod
    apply rescheduled_next hperiod
    exact hrange _ (hrun.grid job (hreached job hmem) hperiod).2
  constructor
  case count_le => exact hholds.count_le
  case unique =>
    rw [hholds.table_eq, ← hafter]
    exact hrun.unique.sweep nowUs _
  case grid =>
    intro later hmem hperiod
    rw [hholds.table_eq] at hmem
    rcases List.mem_append.mp hmem with hmem | hmem
    · obtain ⟨job, hjob, hpassed⟩ := List.mem_flatMap.mp hmem
      rcases mem_passed hpassed with ⟨rfl, -⟩ | ⟨-, hperiodic, rfl⟩
      · exact hrun.grid later (hreached later hjob) hperiod
      · exact ⟨(hnext job hjob hperiodic).1.1,
          (hrun.grid job (hreached job hjob) hperiodic).2⟩
    · exact hrun.grid later (hrest later hmem) hperiod
  case past =>
    intro fired hmem
    rw [hholds.table_eq]
    rcases List.mem_append.mp hmem with hold | hnew
    · -- announced before this dispatch
      refine ⟨UInt64.le_trans (hrun.past fired hold).1 hnow, ?_⟩
      intro later hlater hid hperiod
      rcases List.mem_append.mp hlater with hlater | hlater
      · obtain ⟨job, hjob, hpassed⟩ := List.mem_flatMap.mp hlater
        rcases mem_passed hpassed with ⟨rfl, -⟩ | ⟨-, hperiodic, rfl⟩
        · exact (hrun.past fired hold).2 later (hreached later hjob) hid hperiod
        · exact UInt64.lt_of_le_of_lt
            (UInt64.le_trans (hrun.past fired hold).1 hnow)
            (lt_of_nextOnGrid (hnext job hjob hperiodic))
      · exact (hrun.past fired hold).2 later (hrest later hlater) hid hperiod
    · -- announced by it
      obtain ⟨hfiredmem, hfires⟩ := List.mem_filter.mp hnew
      have hfires : fired.Fires nowUs := of_decide_eq_true hfires
      refine ⟨hfires.1, fun later hlater hid hperiod => ?_⟩
      rcases List.mem_append.mp hlater with hlater | hlater
      · obtain ⟨job, hjob, hpassed⟩ := List.mem_flatMap.mp hlater
        obtain rfl := hrun.unique.eq_of_mem (hreached job hjob)
          (hreached fired hfiredmem) ((jobId_of_mem_passed hpassed).symm.trans hid)
        rcases mem_passed hpassed with ⟨-, hquiet, -⟩ | ⟨-, hperiodic, rfl⟩
        · exact absurd hfires hquiet
        · exact UInt64.lt_of_le_of_lt hfires.1
            (lt_of_nextOnGrid (hnext job hjob hperiodic))
      · exact absurd hid.symm (hdisjoint _ (List.mem_map_of_mem hfiredmem) _
          (List.mem_map_of_mem hlater))
  case ordered =>
    rw [List.pairwise_append]
    refine ⟨hrun.ordered, ?_, ?_⟩
    · have hids : ((reached.filter (·.Fires nowUs)).map
          SchedulerJob.jobId).Nodup := by
        have hsub : (reached.filter (·.Fires nowUs)).Sublist scheduler.table := by
          rw [htable]
          exact List.filter_sublist.trans (List.sublist_append_left _ _)
        exact hrun.unique.sublist (hsub.map _)
      refine (List.pairwise_map.mp hids).imp ?_
      intro first second hne hid
      exact absurd hid hne
    · intro earlier hearlier later hlater hid _ hperiod
      exact (hrun.past earlier hearlier).2 later
        (hreached later (List.mem_of_mem_filter hlater)) hid.symm hperiod

theorem OnSchedule.keepsGrid
    (hrun : OnSchedule periods latest history scheduler) {nowUs : UInt64}
    (hrange : ∀ period ∈ periods, nowUs.toNat + period.toNat < 2 ^ 64)
    (clock : ℕ → UInt64) (maxEvents : UInt8) :
    KeepsGrid nowUs scheduler.table
      (scheduler.dispatchDue nowUs clock maxEvents).2.table
      (scheduler.dispatchDue nowUs clock maxEvents).1 := by
  obtain ⟨hevents, hholds⟩ :=
    dispatchDue_sweep hrun.count_le nowUs clock maxEvents
  obtain ⟨reached, rest, htable, hafter, hfired, -, -⟩ :=
    sweep_reaches nowUs maxEvents.toNat scheduler.table
  rw [hevents, hholds.table_eq, hafter, hfired, htable]
  have hunique := hrun.unique
  rw [htable] at hunique
  have hnodup := hunique
  rw [UniqueIds, List.map_append, List.nodup_append] at hnodup
  obtain ⟨-, -, hdisjoint⟩ := hnodup
  -- an event names the job that it announces
  have hnamed : ∀ job ∈ reached ++ rest, ∀ reading, job.dueEvent reading ∈
      dueEvents clock 0 (reached.filter (·.Fires nowUs)) →
      job ∈ reached ∧ job.Fires nowUs := by
    intro job hmem reading hevent
    obtain ⟨other, hother, stamp, heq⟩ := of_mem_dueEvents hevent
    obtain ⟨hreached, hfires⟩ := List.mem_filter.mp hother
    obtain rfl := eq_of_dueEvent hunique hmem (List.mem_append_left _ hreached)
      heq
    exact ⟨hreached, of_decide_eq_true hfires⟩
  have hleft : ∀ job ∈ rest, ∀ reading, job.dueEvent reading ∉
      dueEvents clock 0 (reached.filter (·.Fires nowUs)) := by
    intro job hmem reading hevent
    obtain ⟨hreached, -⟩ :=
      hnamed job (List.mem_append_right _ hmem) reading hevent
    exact hdisjoint _ (List.mem_map_of_mem hreached) _
      (List.mem_map_of_mem hmem) rfl
  have hquiet : ∀ job ∈ reached, ¬ job.Fires nowUs → ∀ reading,
      job.dueEvent reading ∉
        dueEvents clock 0 (reached.filter (·.Fires nowUs)) := by
    intro job hmem hnot reading hevent
    exact hnot (hnamed job (List.mem_append_left _ hmem) reading hevent).2
  constructor
  case early =>
    intro event hmem
    obtain ⟨job, hjob, reading, rfl⟩ := of_mem_dueEvents hmem
    obtain ⟨hreached, hfires⟩ := List.mem_filter.mp hjob
    exact ⟨job, List.mem_append_left _ hreached, reading, rfl,
      (of_decide_eq_true hfires).1⟩
  case once =>
    rw [map_correlationId_dueEvents]
    have hsub : (reached.filter (·.Fires nowUs)).Sublist (reached ++ rest) :=
      List.filter_sublist.trans (List.sublist_append_left _ _)
    have hids := (hunique.sublist (hsub.map _)).map
      fun _ _ => UInt16.toUInt32_inj.mp
    rwa [List.map_map] at hids
  case periodic =>
    intro job hmem hperiod
    rcases List.mem_append.mp hmem with hreached | hrest
    · have hnext : ∀ pending,
          NextOnGrid (job.rescheduled nowUs pending) nowUs := by
        apply rescheduled_next hperiod
        apply hrange _ (hrun.grid job _ hperiod).2
        rw [htable]
        exact hmem
      have hpassed : ∀ later ∈ job.passed nowUs,
          later ∈ reached.flatMap (·.passed nowUs) ++ rest := fun later hlater =>
        List.mem_append_left _ (List.mem_flatMap.mpr ⟨job, hreached, hlater⟩)
      by_cases hfires : job.Fires nowUs
      · refine ⟨job.rescheduled nowUs true, hpassed _ ?_, ?_⟩
        · rw [SchedulerJob.passed, if_pos (Or.inl hfires), if_neg hperiod,
            hfires.2]
          exact List.mem_singleton_self _
        · exact .emitted hfires.1 (exists_mem_dueEvents 0
            (List.mem_filter.mpr ⟨hreached, decide_eq_true hfires⟩)) (hnext true)
      by_cases hskips : job.Skips nowUs
      · refine ⟨job.rescheduled nowUs false, hpassed _ ?_, ?_⟩
        · rw [SchedulerJob.passed, if_pos (Or.inr hskips), if_neg hperiod,
            hskips.2.1]
          exact List.mem_singleton_self _
        · exact .skipped hskips.1 hskips.2.1 hskips.2.2
            (hquiet job hreached hfires) (hnext false)
      · refine ⟨job, hpassed _ ?_, .left (hquiet job hreached hfires)⟩
        rw [SchedulerJob.passed, if_neg (not_or.mpr ⟨hfires, hskips⟩)]
        exact List.mem_singleton_self _
    · exact ⟨job, List.mem_append_right _ hrest, .left (hleft job hrest)⟩
  case oneShot =>
    intro job hmem hperiod
    rcases List.mem_append.mp hmem with hreached | hrest
    · by_cases hconsumed : job.Fires nowUs ∨ job.Skips nowUs
      · right
        intro later hlater hid
        rcases List.mem_append.mp hlater with hlater | hlater
        · obtain ⟨other, hother, hpassed⟩ := List.mem_flatMap.mp hlater
          obtain rfl := hunique.eq_of_mem (List.mem_append_left _ hother) hmem
            ((jobId_of_mem_passed hpassed).symm.trans hid)
          rw [SchedulerJob.passed, if_pos hconsumed, if_pos hperiod] at hpassed
          exact absurd hpassed List.not_mem_nil
        · exact hdisjoint _ (List.mem_map_of_mem hreached) _
            (List.mem_map_of_mem hlater) hid.symm
      · left
        refine ⟨List.mem_append_left _ (List.mem_flatMap.mpr
          ⟨job, hreached, ?_⟩), hquiet job hreached (not_or.mp hconsumed).1⟩
        rw [SchedulerJob.passed, if_neg hconsumed]
        exact List.mem_singleton_self _
    · exact .inl ⟨List.mem_append_right _ hrest, hleft job hrest⟩

/-! ## Whole runs -/

theorem run_append (before later : List SchedulerCall) :
    run (before ++ later) = later.foldl call (run before) :=
  List.foldl_append

theorem announcementsFrom_append (scheduler : Scheduler)
    (before later : List SchedulerCall) :
    announcementsFrom scheduler (before ++ later) =
      announcementsFrom scheduler before ++
        announcementsFrom (before.foldl call scheduler) later := by
  induction before generalizing scheduler with
  | nil => rfl
  | cons request before ih =>
      rw [List.cons_append, announcementsFrom, announcementsFrom, ih, List.append_assoc]
      rfl

/-- The latest time of the calls. -/
def latestTime (calls : List SchedulerCall) : UInt64 :=
  (calls.filterMap SchedulerCall.nowUs).getLast?.getD 0

/-- What the clock and the periods of a run may be: time does not go back, and
no period added to a time leaves the clock's range. -/
structure WithinRange (calls : List SchedulerCall) : Prop where
  clock : (calls.filterMap SchedulerCall.nowUs).Pairwise (· ≤ ·)
  range : ∀ nowUs ∈ calls.filterMap SchedulerCall.nowUs,
    ∀ periodUs ∈ calls.filterMap SchedulerCall.periodUs,
      nowUs.toNat + periodUs.toNat < 2 ^ 64

theorem latestTime_append (before : List SchedulerCall)
    (request : SchedulerCall) :
    latestTime (before ++ [request]) =
      request.nowUs.getD (latestTime before) := by
  rw [latestTime, List.filterMap_append]
  cases htime : request.nowUs with
  | none => simp [htime, latestTime]
  | some nowUs => simp [htime]

/-- A call that goes by the clock goes by no earlier time than the run. -/
theorem WithinRange.latest_le {calls : List SchedulerCall}
    (hcalls : WithinRange calls) {before : List SchedulerCall}
    {request : SchedulerCall} (hearly : before ++ [request] <+: calls)
    {nowUs : UInt64} (htime : request.nowUs = some nowUs) :
    latestTime before ≤ nowUs := by
  have hclock := hcalls.clock.sublist (hearly.sublist.filterMap _)
  rw [List.filterMap_append, List.pairwise_append] at hclock
  rw [latestTime]
  cases hlast : (before.filterMap SchedulerCall.nowUs).getLast? with
  | none => exact UInt64.le_iff_toNat_le.mpr (Nat.zero_le _)
  | some time =>
      exact hclock.2.2 time (List.mem_of_getLast? hlast) nowUs (by simp [htime])

theorem WithinRange.in_range {calls : List SchedulerCall}
    (hcalls : WithinRange calls) {before : List SchedulerCall}
    {request : SchedulerCall} (hearly : before ++ [request] <+: calls)
    {nowUs : UInt64} (htime : request.nowUs = some nowUs) :
    ∀ periodUs ∈ calls.filterMap SchedulerCall.periodUs,
      nowUs.toNat + periodUs.toNat < 2 ^ 64 := by
  apply hcalls.range
  apply (hearly.sublist.filterMap SchedulerCall.nowUs).subset
  simp [htime]

theorem OnSchedule.init : OnSchedule periods 0 [] Scheduler.init where
  count_le := Nat.zero_le _
  unique := List.nodup_nil
  grid _ hmem := absurd hmem List.not_mem_nil
  past _ hmem := absurd hmem List.not_mem_nil
  ordered := List.Pairwise.nil

/-- A later time is a bound as well. -/
theorem OnSchedule.mono (hrun : OnSchedule periods latest history scheduler)
    {later : UInt64} (hle : latest ≤ later) :
    OnSchedule periods later history scheduler :=
  { hrun with
    past := fun fired hfired =>
      ⟨UInt64.le_trans (hrun.past fired hfired).1 hle,
        (hrun.past fired hfired).2⟩ }

theorem WithinRange.onSchedule {calls : List SchedulerCall}
    (hcalls : WithinRange calls) {before : List SchedulerCall}
    (hbefore : before <+: calls) :
    OnSchedule (calls.filterMap SchedulerCall.periodUs) (latestTime before)
      (announcements before) (run before) := by
  induction before using List.reverseRecOn with
  | nil => exact .init
  | append_singleton before request ih =>
      have hrun := ih ((List.prefix_append _ _).trans hbefore)
      rw [latestTime_append, run_append, announcements, announcementsFrom_append]
      change OnSchedule _ _ (announcements before ++
        ((run before).announced request ++ [])) ((run before).call request)
      rw [List.append_nil]
      cases request with
      | scheduleOneShot jobId ownerId eventId deadlineUs generation priority =>
          rw [show (run before).announced _ = [] from rfl, List.append_nil]
          exact hrun.schedules (scheduleOneShot_schedules hrun.count_le ..)
            fun hperiod => absurd rfl hperiod
      | schedulePeriodic jobId ownerId eventId anchorUs periodUs generation
          missPolicy priority nowUs =>
          rw [show (run before).announced _ = [] from rfl, List.append_nil]
          have hle := hcalls.latest_le hbefore rfl
          refine (hrun.mono hle).schedules
            (schedulePeriodic_schedules hrun.count_le ..) fun hperiod => ?_
          have hmem : periodUs ∈ calls.filterMap SchedulerCall.periodUs := by
            apply (hbefore.sublist.filterMap SchedulerCall.periodUs).subset
            simp [SchedulerCall.periodUs]
          have hnext : NextOnGrid (periodicJob jobId ownerId eventId anchorUs
              periodUs generation missPolicy priority nowUs) nowUs :=
            nextAnchored_isLeast hperiod (hcalls.in_range hbefore rfl _ hmem)
          exact ⟨hnext.1.1, hmem, lt_of_nextOnGrid hnext⟩
      | cancel jobId generation =>
          rw [show (run before).announced _ = [] from rfl, List.append_nil]
          exact hrun.cancel jobId generation
      | acknowledge jobId generation =>
          rw [show (run before).announced _ = [] from rfl, List.append_nil]
          exact hrun.acknowledge jobId generation
      | dispatchDue nowUs clock maxEvents =>
          exact hrun.dispatchDue (hcalls.latest_le hbefore rfl)
            (hcalls.in_range hbefore rfl) clock maxEvents

/-- Periodic jobs stay on their grid: after any run within the clock's range the
table is dense with different ids, also past a cancellation, and every periodic
deadline is a point of its grid; each dispatch of the run emits no job early and
none twice, and sets every deadline that it consumes to the least later point;
and the run announces the points of an id's grid in increasing order. -/
theorem jobs_stay_on_grid (calls : List SchedulerCall)
    (hcalls : WithinRange calls) :
    ((run calls).jobCount ≤ schedulerMaxJobs ∧ UniqueIds (run calls).table ∧
      ∀ jobId generation, Cancels jobId generation (run calls)
        ((run calls).cancel jobId generation)) ∧
    (∀ job ∈ (run calls).table, job.periodUs ≠ 0 → OnGrid job) ∧
    (∀ before nowUs clock maxEvents,
      before ++ [.dispatchDue nowUs clock maxEvents] <+: calls →
      KeepsGrid nowUs (run before).table
        ((run before).dispatchDue nowUs clock maxEvents).2.table
        ((run before).dispatchDue nowUs clock maxEvents).1) ∧
    (announcements calls).Pairwise fun earlier later =>
      earlier.jobId = later.jobId → earlier.periodUs ≠ 0 →
        later.periodUs ≠ 0 → earlier.deadlineUs < later.deadlineUs := by
  have hrun := hcalls.onSchedule (List.prefix_refl calls)
  refine ⟨⟨hrun.count_le, hrun.unique, ?_⟩, ?_, ?_, hrun.ordered⟩
  · exact cancel_cancels hrun.count_le hrun.unique
  · intro job hmem hperiod
    exact (hrun.grid job hmem hperiod).1
  · intro before nowUs clock maxEvents hearly
    have hbefore := hcalls.onSchedule ((List.prefix_append _ _).trans hearly)
    exact hbefore.keepsGrid (hcalls.in_range hearly rfl) clock maxEvents

/-- A job of period 500, first dispatched late and then on time. -/
theorem late_job_on_grid :
    let calls : List SchedulerCall :=
      [.schedulePeriodic 2 1 .pressureSampleDue 1000 500 1 .skip .measurement 0,
        .dispatchDue 1700 (fun _ => 1700) 8, .acknowledge 2 1,
        .dispatchDue 2000 (fun _ => 2000) 8]
    (announcements calls).map SchedulerJob.deadlineUs = [1000, 2000] ∧
      ∀ job ∈ (run calls).table, job.periodUs ≠ 0 → OnGrid job := by
  intro calls
  have hcalls : WithinRange calls := by
    constructor
    · decide
    · simp [calls, SchedulerCall.nowUs, SchedulerCall.periodUs]
  exact ⟨by decide, (jobs_stay_on_grid calls hcalls).2.1⟩

end Scheduler
end Swfpm
