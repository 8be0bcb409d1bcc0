import Swfpm.Loop.EventLoop
import Swfpm.Queue.Reservation
import Swfpm.Time.Grid

/-!
# Scheduled work in the event loop

A turn takes the due events out of the scheduler before it posts them, and does
not look at the result.  `HasRoom` is the condition under which nothing is lost:
every one-shot is in the table, in the queue or dispatched, and every pending
SIGNAL_ONCE job has its event in the queue.
-/

namespace Swfpm

open Scheduler

/-- The event without its time. -/
def AppEvent.untimed (event : AppEvent) : AppEvent :=
  { event with monotonicTimestampUs := 0 }

/-- The event announces the job, at whatever time. -/
def SchedulerJob.Announces (job : SchedulerJob) (event : AppEvent) : Prop :=
  event.untimed = job.dueEvent 0

instance (job : SchedulerJob) (event : AppEvent) :
    Decidable (job.Announces event) :=
  inferInstanceAs (Decidable (_ = _))

/-- The two are one-shots whose events nothing tells apart. -/
def SchedulerJob.SameOneShot (job other : SchedulerJob) : Prop :=
  other.periodUs = 0 ∧ other.dueEvent 0 = job.dueEvent 0

instance (job other : SchedulerJob) : Decidable (job.SameOneShot other) :=
  inferInstanceAs (Decidable (_ ∧ _))

/-- The queue takes a new event of the priority. -/
def AppEventQueue.HasRoom (queue : AppEventQueue) (event : AppEvent) : Prop :=
  queue.count <
    if event.priority = .critical ∨ event.priority = .measurement then
      queue.config.capacity.toNat
    else queue.unreserved

instance (queue : AppEventQueue) (event : AppEvent) :
    Decidable (queue.HasRoom event) :=
  inferInstanceAs (Decidable (_ < _))

namespace AppEventLoop

/-! ## Counts -/

/-- How often a one-shot like the job was scheduled. -/
def scheduledCount (job : SchedulerJob) (trace : List LoopRecord) : ℕ :=
  trace.countP fun record =>
    match record with
    | .scheduled other => job.SameOneShot other
    | _ => false

/-- How often an event of the job was dispatched. -/
def dispatchedCount (job : SchedulerJob) (trace : List LoopRecord) : ℕ :=
  trace.countP fun record =>
    match record with
    | .dispatched event => job.Announces event
    | _ => false

def tableCount (job : SchedulerJob) (table : List SchedulerJob) : ℕ :=
  table.countP fun other => job.SameOneShot other

def eventCount (job : SchedulerJob) (events : List AppEvent) : ℕ :=
  events.countP fun event => job.Announces event

/-- Every scheduled one-shot is in the table, in hand, in the queue, or
dispatched. -/
structure OneShotsKept (inHand : List AppEvent) (loop : AppEventLoop) : Prop where
  quiet : ∀ job ∈ loop.scheduler.table, job.periodUs = 0 → job.pending = false
  kept : ∀ job : SchedulerJob, scheduledCount job loop.trace ≤
    tableCount job loop.scheduler.table + eventCount job inHand +
      eventCount job loop.queue.events + dispatchedCount job loop.trace

/-- Every pending periodic SIGNAL_ONCE job has its event in hand or in the
queue. -/
def SignalsKept (inHand : List AppEvent) (loop : AppEventLoop) : Prop :=
  ∀ job ∈ loop.scheduler.table, job.periodUs ≠ 0 → job.pending = true →
    job.missPolicy = .signalOnce →
    ∃ event ∈ inHand ++ loop.queue.events, job.Announces event

/-- The queue is a list, and the job table is dense with different ids. -/
structure WellFormed (config : AppEventQueueConfig) (loop : AppEventLoop) :
    Prop where
  queue : AppEventQueue.Represents config loop.queue
  count_le : loop.scheduler.jobCount ≤ schedulerMaxJobs
  unique : UniqueIds loop.scheduler.table

/-! ## Posting -/

variable {turn : Turn} {loop : AppEventLoop} {config : AppEventQueueConfig}
  {inHand : List AppEvent}

theorem delivery_of_announces {job : SchedulerJob} {event : AppEvent}
    (hannounces : job.Announces event) : event.delivery = .deadline :=
  congrArg AppEvent.delivery hannounces

/-- A LEVEL event announces no job. -/
theorem not_announces_level {job : SchedulerJob} {event : AppEvent}
    (hlevel : event.delivery = .level) : ¬ job.Announces event := by
  intro hannounces
  rw [delivery_of_announces hannounces] at hlevel
  exact absurd hlevel (by decide)

/-- A post keeps the events of jobs. -/
theorem eventCount_posts {posted : Option AppEvent} {result : EventPostResult}
    {events after : List AppEvent} (hposts : Posts posted result events after)
    (job : SchedulerJob) : eventCount job events ≤ eventCount job after := by
  cases hposts with
  | appended _ =>
      rw [eventCount, eventCount, List.countP_append]
      exact Nat.le_add_right _ _
  | replaced _ hold _ =>
      rw [eventCount, eventCount, List.countP_append, List.countP_append,
        List.countP_cons_of_neg (by simpa using not_announces_level hold.1)]
      exact Nat.add_le_add_left (List.sublist_cons_self _ _).countP_le _
  | unchanged _ _ => exact le_rfl

theorem mem_posts {posted : Option AppEvent} {result : EventPostResult}
    {events after : List AppEvent} (hposts : Posts posted result events after)
    {job : SchedulerJob} {event : AppEvent} (hannounces : job.Announces event)
    (hmem : event ∈ events) : event ∈ after := by
  cases hposts with
  | appended _ => exact List.mem_append_left _ hmem
  | replaced _ hold _ =>
      rcases List.mem_append.mp hmem with hmem | hmem
      · exact List.mem_append_left _ hmem
      · rcases List.mem_cons.mp hmem with rfl | hmem
        · exact absurd hannounces (not_announces_level hold.1)
        · exact List.mem_append_right _ (List.mem_cons_of_mem _ hmem)
  | unchanged _ _ => exact hmem

/-! ## Calls -/

theorem scheduled_of_schedules {added : SchedulerJob}
    {outcome : ScheduleResult × Scheduler}
    (hresult : Schedules added loop.scheduler outcome) :
    loop.scheduled added outcome = loop ∨
      ∃ later : Scheduler, later.Holds (loop.scheduler.table ++ [added]) ∧
        (∀ job ∈ loop.scheduler.table, job.jobId ≠ added.jobId) ∧
        loop.scheduled added outcome =
          { loop with
            scheduler := later
            trace := loop.trace ++ [.scheduled added] } := by
  cases hresult with
  | rejected hresult =>
      left
      rw [AppEventLoop.scheduled, if_neg hresult]
  | added hnew hholds => exact .inr ⟨_, hholds, hnew, rfl⟩

/-- The ways a call can change queue, scheduler and trace. -/
inductive CallEffect (loop : AppEventLoop) : AppEventLoop → Prop where
  | posted (event : Option AppEvent) :
      CallEffect loop { loop with queue := (loop.queue.post event).2 }
  | scheduled (added : SchedulerJob) (hquiet : added.pending = false)
      (later : Scheduler) (hholds : later.Holds (loop.scheduler.table ++ [added]))
      (hnew : ∀ job ∈ loop.scheduler.table, job.jobId ≠ added.jobId) :
      CallEffect loop
        { loop with
          scheduler := later
          trace := loop.trace ++ [.scheduled added] }
  | other {later : AppEventLoop} (hqueue : later.queue = loop.queue)
      (hscheduler : later.scheduler = loop.scheduler)
      (htrace : later.trace = loop.trace) : CallEffect loop later

theorem WellFormed.callEffect (hloop : WellFormed config loop)
    (request : LoopCall) : CallEffect loop (loop.call request) := by
  have hscheduled : ∀ {added : SchedulerJob}
      {outcome : ScheduleResult × Scheduler}, added.pending = false →
      Schedules added loop.scheduler outcome →
      CallEffect loop (loop.scheduled added outcome) := by
    intro added outcome hquiet hresult
    obtain hsame | ⟨later, hholds, hnew, heq⟩ := scheduled_of_schedules hresult
    · rw [hsame]
      exact .other rfl rfl rfl
    · rw [heq]
      exact .scheduled added hquiet later hholds hnew
  cases request with
  | post event => exact .posted event
  | postFromIsr event => exact .posted event
  | scheduleOneShot jobId ownerId eventId deadlineUs generation priority =>
      exact hscheduled rfl (scheduleOneShot_schedules hloop.count_le ..)
  | schedulePeriodic jobId ownerId eventId anchorUs periodUs generation
      missPolicy priority nowUs =>
      exact hscheduled rfl (schedulePeriodic_schedules hloop.count_le ..)
  | publishGuards evidence => exact .other rfl rfl rfl
  | bindAction action => exact .other rfl rfl rfl

theorem WellFormed.call (hloop : WellFormed config loop) (request : LoopCall) :
    WellFormed config (loop.call request) := by
  have heffect := hloop.callEffect request
  generalize loop.call request = called at heffect ⊢
  cases heffect with
  | posted event =>
      exact ⟨(hloop.queue.post event).1, hloop.count_le, hloop.unique⟩
  | scheduled added _ later hholds hnew =>
      refine ⟨hloop.queue, hholds.count_le, ?_⟩
      rw [hholds.table_eq]
      exact hloop.unique.append_singleton hnew
  | other hqueue hscheduler _ =>
      constructor
      · rw [hqueue]
        exact hloop.queue
      · rw [hscheduler]
        exact hloop.count_le
      · rw [hscheduler]
        exact hloop.unique

theorem OneShotsKept.call (hwell : WellFormed config loop)
    (hloop : OneShotsKept inHand loop) (request : LoopCall) :
    OneShotsKept inHand (loop.call request) := by
  have heffect := hwell.callEffect request
  generalize loop.call request = called at heffect ⊢
  cases heffect with
  | posted event =>
      refine ⟨hloop.quiet, fun job => ?_⟩
      have hevents := eventCount_posts (hwell.queue.post event).2 job
      exact (hloop.kept job).trans (by dsimp only; gcongr; exact hevents)
  | scheduled added hquiet later hholds hnew =>
      constructor
      · intro job hmem hperiod
        rw [hholds.table_eq] at hmem
        rcases List.mem_append.mp hmem with hmem | hmem
        · exact hloop.quiet job hmem hperiod
        · rw [List.mem_singleton.mp hmem]
          exact hquiet
      · intro job
        have hkept := hloop.kept job
        simp only [hholds.table_eq, scheduledCount, tableCount, dispatchedCount,
          List.countP_append, List.countP_singleton] at hkept ⊢
        simp only [Bool.false_eq_true, if_false]
        omega
  | other hqueue hscheduler htrace =>
      constructor
      · rw [hscheduler]
        exact hloop.quiet
      · rw [hscheduler, htrace, hqueue]
        exact hloop.kept

theorem SignalsKept.call (hwell : WellFormed config loop)
    (hloop : SignalsKept inHand loop) (request : LoopCall) :
    SignalsKept inHand (loop.call request) := by
  have heffect := hwell.callEffect request
  generalize loop.call request = called at heffect ⊢
  intro job hmem hperiod hpending hpolicy
  cases heffect with
  | posted event =>
      obtain ⟨witness, hwitness, hannounces⟩ :=
        hloop job hmem hperiod hpending hpolicy
      refine ⟨witness, ?_, hannounces⟩
      rcases List.mem_append.mp hwitness with hhand | hqueued
      · exact List.mem_append_left _ hhand
      · exact List.mem_append_right _
          (mem_posts (hwell.queue.post event).2 hannounces hqueued)
  | scheduled added hquiet later hholds hnew =>
      rw [hholds.table_eq] at hmem
      rcases List.mem_append.mp hmem with hmem | hmem
      · exact hloop job hmem hperiod hpending hpolicy
      · rw [List.mem_singleton.mp hmem, hquiet] at hpending
        exact absurd hpending Bool.false_ne_true
  | other hqueue hscheduler _ =>
      rw [hscheduler] at hmem
      rw [hqueue]
      exact hloop job hmem hperiod hpending hpolicy

/-! ## The start of a turn -/

theorem WellFormed.beginTurn (hloop : WellFormed config loop) :
    WellFormed config (beginTurn turn loop).2 := by
  have hholds := (dispatchDue_sweep hloop.count_le turn.nowUs turn.dueClock
    loop.dueLimit).2
  refine ⟨hloop.queue, hholds.count_le, ?_⟩
  change UniqueIds (loop.scheduler.dispatchDue turn.nowUs turn.dueClock
    loop.dueLimit).2.table
  rw [hholds.table_eq]
  exact hloop.unique.sweep turn.nowUs _

theorem untimed_dueEvent (job : SchedulerJob) (reading : UInt64) :
    (job.dueEvent reading).untimed = job.dueEvent 0 := rfl

/-- The jobs that a sweep reaches and their events: a one-shot that is not
pending stays or is announced. -/
theorem tableCount_reached (nowUs : UInt64) (clock : ℕ → UInt64) (reading : ℕ)
    (job : SchedulerJob) {reached : List SchedulerJob}
    (hquiet : ∀ other ∈ reached, other.periodUs = 0 → other.pending = false) :
    tableCount job reached ≤
      tableCount job (reached.flatMap (·.passed nowUs)) +
        eventCount job
          (dueEvents clock reading (reached.filter (·.Fires nowUs))) := by
  induction reached generalizing reading with
  | nil => exact Nat.zero_le _
  | cons other reached ih =>
      have hothers : ∀ kept ∈ reached, kept.periodUs = 0 → kept.pending = false :=
        fun kept hmem => hquiet kept (List.mem_cons_of_mem _ hmem)
      rw [List.flatMap_cons, tableCount, tableCount, List.countP_append,
        List.countP_cons]
      by_cases hfires : other.Fires nowUs
      · have hrest := ih (reading + 1) hothers
        rw [List.filter_cons_of_pos (by simpa using hfires), dueEvents,
          eventCount, List.countP_cons]
        have hannounced : job.SameOneShot other →
            job.Announces (other.dueEvent (clock reading)) := fun hsame => hsame.2
        unfold tableCount eventCount at hrest
        split_ifs with hsame hannounces <;> simp_all <;> omega
      · have hrest := ih reading hothers
        rw [List.filter_cons_of_neg (by simpa using hfires)]
        have hstays : job.SameOneShot other → other.passed nowUs = [other] := by
          intro hsame
          have hpending := hquiet other List.mem_cons_self hsame.1
          rw [SchedulerJob.passed, if_neg]
          rintro (hfired | hskips)
          · exact hfires hfired
          · rw [hskips.2.1] at hpending
            exact absurd hpending (by simp)
        unfold tableCount at hrest
        split_ifs with hsame
        · rw [hstays (by simpa using hsame), List.countP_singleton, if_pos hsame]
          omega
        · omega

/-- A turn begins with a sweep: the jobs that it reaches pass, and their events are
in hand. -/
theorem beginTurn_sweep (turn : Turn) (hwell : WellFormed config loop) :
    ∃ reached rest, loop.scheduler.table = reached ++ rest ∧
      (beginTurn turn loop).2.scheduler.table =
        reached.flatMap (·.passed turn.nowUs) ++ rest ∧
      (beginTurn turn loop).1 =
        dueEvents turn.dueClock 0 (reached.filter (·.Fires turn.nowUs)) ∧
      ∀ job ∈ reached, job ∈ loop.scheduler.table := by
  obtain ⟨hevents, hholds⟩ := dispatchDue_sweep hwell.count_le turn.nowUs
    turn.dueClock loop.dueLimit
  obtain ⟨reached, rest, htable, hafter, hfired, -, -⟩ :=
    sweep_reaches turn.nowUs loop.dueLimit.toNat loop.scheduler.table
  rw [hafter] at hholds
  rw [hfired] at hevents
  refine ⟨reached, rest, htable, hholds.table_eq, hevents, fun job hmem => ?_⟩
  rw [htable]
  exact List.mem_append_left _ hmem

theorem OneShotsKept.beginTurn (hwell : WellFormed config loop)
    (hloop : OneShotsKept [] loop) :
    OneShotsKept (beginTurn turn loop).1 (beginTurn turn loop).2 := by
  obtain ⟨reached, rest, htable, hafter, hevents, hreached⟩ :=
    beginTurn_sweep turn hwell
  constructor
  · intro later hmem hperiod
    rw [hafter] at hmem
    rcases List.mem_append.mp hmem with hmem | hmem
    · obtain ⟨job, hjob, hpassed⟩ := List.mem_flatMap.mp hmem
      rcases mem_passed hpassed with ⟨rfl, -⟩ | ⟨-, hperiodic, rfl⟩
      · exact hloop.quiet later (hreached later hjob) hperiod
      · exact absurd hperiod hperiodic
    · apply hloop.quiet later _ hperiod
      rw [htable]
      exact List.mem_append_right _ hmem
  · intro job
    have hkept := hloop.kept job
    have hcount := tableCount_reached turn.nowUs turn.dueClock 0 job
      fun other hmem => hloop.quiet other (hreached other hmem)
    rw [hevents, hafter]
    rw [htable] at hkept
    change scheduledCount job loop.trace ≤ _ + eventCount job loop.queue.events +
      dispatchedCount job loop.trace
    simp only [tableCount, List.countP_append] at hkept hcount ⊢
    have hnone : eventCount job [] = 0 := rfl
    omega

theorem SignalsKept.beginTurn (hwell : WellFormed config loop)
    (hloop : SignalsKept [] loop) :
    SignalsKept (beginTurn turn loop).1 (beginTurn turn loop).2 := by
  obtain ⟨reached, rest, htable, hafter, hevents, hreached⟩ :=
    beginTurn_sweep turn hwell
  intro later hmem hperiod hpending hpolicy
  rw [hafter] at hmem
  rw [hevents]
  have hqueued : later ∈ loop.scheduler.table →
      ∃ event ∈ dueEvents turn.dueClock 0 (reached.filter (·.Fires turn.nowUs)) ++
        loop.queue.events, later.Announces event := by
    intro hold
    obtain ⟨event, hevent, hannounces⟩ :=
      hloop later hold hperiod hpending hpolicy
    exact ⟨event, List.mem_append_right _ hevent, hannounces⟩
  rcases List.mem_append.mp hmem with hmem | hmem
  · obtain ⟨job, hjob, hpassed⟩ := List.mem_flatMap.mp hmem
    rcases mem_passed hpassed with ⟨rfl, -⟩ | ⟨hfires | hskips, -, rfl⟩
    · exact hqueued (hreached later hjob)
    · obtain ⟨stamp, hdue⟩ : ∃ stamp, job.dueEvent stamp ∈ dueEvents
          turn.dueClock 0 (reached.filter (·.Fires turn.nowUs)) :=
        exists_mem_dueEvents 0
          (List.mem_filter.mpr ⟨hjob, decide_eq_true hfires⟩)
      exact ⟨_, List.mem_append_left _ hdue, rfl⟩
    · exact absurd (hskips.2.2.symm.trans hpolicy) (by decide)
  · apply hqueued
    rw [htable]
    exact List.mem_append_right _ hmem

/-! ## Posting a due event -/

/-- A due event that finds room is appended. -/
theorem events_of_hasRoom (hwell : WellFormed config loop) {event : AppEvent}
    (hdeadline : event.delivery = .deadline) (hroom : loop.queue.HasRoom event) :
    (loop.queue.post (some event)).2.events = loop.queue.events ++ [event] := by
  have hok : (loop.queue.post (some event)).1 = .ok := by
    rw [hwell.queue.post_ok_iff]
    refine ⟨?_, hroom⟩
    rw [hwell.queue.find_eq_none_iff]
    intro old _ hsame
    exact absurd (hdeadline.symm.trans hsame.2.1) (by decide)
  have hposts := (hwell.queue.post (some event)).2
  rw [show (AppEventQueue.postUnlocked loop.queue (some event)).1 = .ok from hok]
    at hposts
  exact hposts.of_ok

theorem WellFormed.post (hwell : WellFormed config loop)
    (event : Option AppEvent) :
    WellFormed config { loop with queue := (loop.queue.post event).2 } :=
  ⟨(hwell.queue.post event).1, hwell.count_le, hwell.unique⟩

theorem OneShotsKept.post {event : AppEvent} {due : List AppEvent}
    (hevents : (loop.queue.post (some event)).2.events =
      loop.queue.events ++ [event])
    (hloop : OneShotsKept (event :: due) loop) :
    OneShotsKept due { loop with queue := (loop.queue.post (some event)).2 } := by
  refine ⟨hloop.quiet, fun job => ?_⟩
  have hkept := hloop.kept job
  dsimp only
  rw [hevents]
  simp only [eventCount, List.countP_cons, List.countP_append] at hkept ⊢
  omega

theorem SignalsKept.post {event : AppEvent} {due : List AppEvent}
    (hevents : (loop.queue.post (some event)).2.events =
      loop.queue.events ++ [event])
    (hloop : SignalsKept (event :: due) loop) :
    SignalsKept due { loop with queue := (loop.queue.post (some event)).2 } := by
  intro job hmem hperiod hpending hpolicy
  obtain ⟨witness, hwitness, hannounces⟩ :=
    hloop job hmem hperiod hpending hpolicy
  refine ⟨witness, ?_, hannounces⟩
  dsimp only
  rw [hevents]
  simp only [List.cons_append, List.mem_cons, List.mem_append] at hwitness ⊢
  tauto

/-! ## Dispatching an event -/

/-- Taking an event removes it from the list. -/
theorem events_of_tryGet (hwell : WellFormed config loop) {event : AppEvent}
    {queue : AppEventQueue}
    (hget : loop.queue.tryGet = (some event, queue)) :
    AppEventQueue.Represents config queue ∧
      ∃ before after, loop.queue.events = before ++ event :: after ∧
        queue.events = before ++ after := by
  have htakes := hwell.queue.tryGet
  rw [hget] at htakes
  refine ⟨htakes.1, ?_⟩
  have htaken := htakes.2
  dsimp only at htaken
  generalize loop.queue.events = events at htaken ⊢
  generalize queue.events = later at htaken ⊢
  cases htaken with
  | head _ => exact ⟨[], _, rfl, rfl⟩
  | best _ _ _ => exact ⟨_, _, rfl, rfl⟩

/-- An acknowledgement changes no more than the flag of one job. -/
theorem table_of_acknowledge (hwell : WellFormed config loop) (jobId : UInt16)
    (generation : UInt32) :
    let later := (loop.scheduler.acknowledge jobId generation).2
    later.jobCount ≤ schedulerMaxJobs ∧ UniqueIds later.table ∧
      (∀ job : SchedulerJob,
        tableCount job later.table = tableCount job loop.scheduler.table) ∧
      ∀ job ∈ later.table, job.pending = true →
        job ∈ loop.scheduler.table ∧
          ¬ (job.jobId = jobId ∧ job.generation = generation) := by
  have hacknowledges :=
    acknowledge_acknowledges hwell.count_le hwell.unique jobId generation
  generalize loop.scheduler.acknowledge jobId generation = result
    at hacknowledges ⊢
  cases hacknowledges with
  | refused hnone =>
      refine ⟨hwell.count_le, hwell.unique, fun _ => rfl, ?_⟩
      intro job hmem hpending
      refine ⟨hmem, ?_⟩
      rintro ⟨hid, hgeneration⟩
      rw [hnone job hmem hid hgeneration] at hpending
      exact absurd hpending Bool.false_ne_true
  | @cleared later before after acknowledged htable hid hgeneration _ hholds =>
      have hunique := hwell.unique
      rw [UniqueIds, htable] at hunique
      refine ⟨hholds.count_le, ?_, ?_, ?_⟩
      · rw [hholds.table_eq, UniqueIds]
        simpa using hunique
      · intro job
        rw [hholds.table_eq, htable, tableCount, tableCount,
          List.countP_append, List.countP_append, List.countP_cons,
          List.countP_cons]
        rfl
      · intro job hmem hpending
        rw [hholds.table_eq] at hmem
        have hother : job ∈ before ++ after := by
          simp only [List.mem_append, List.mem_cons] at hmem ⊢
          rcases hmem with hmem | rfl | hmem
          · exact .inl hmem
          · exact absurd hpending Bool.false_ne_true
          · exact .inr hmem
        constructor
        · rw [htable]
          simp only [List.mem_append, List.mem_cons] at hother ⊢
          tauto
        · rintro ⟨hsame, -⟩
          rw [List.map_append, List.map_cons, List.nodup_middle,
            List.nodup_cons, ← List.map_append] at hunique
          apply hunique.1
          rw [hid, ← hsame]
          exact List.mem_map_of_mem hother

/-- What a run keeps while it holds the listed events in hand; `taken` is an
event that is at its owner. -/
structure WorkKept (config : AppEventQueueConfig) (inHand taken : List AppEvent)
    (loop : AppEventLoop) : Prop where
  wellFormed : WellFormed config loop
  oneShots : OneShotsKept inHand loop
  signals : SignalsKept (taken ++ inHand) loop

variable {taken : List AppEvent}

theorem WorkKept.call (hloop : WorkKept config inHand taken loop)
    (request : LoopCall) : WorkKept config inHand taken (loop.call request) :=
  ⟨hloop.wellFormed.call request, hloop.oneShots.call hloop.wellFormed request,
    hloop.signals.call hloop.wellFormed request⟩

theorem WorkKept.calls (hloop : WorkKept config inHand taken loop)
    (made : List LoopCall) : WorkKept config inHand taken (loop.calls made) :=
  calls_keep (fun _ request hloop => hloop.call request) hloop made

/-- A record of the machine counts for no job. -/
theorem counts_transitionRecord (job : SchedulerJob) (before : SystemModeManager)
    (dispatch : ModeDispatch) :
    scheduledCount job (transitionRecord before dispatch) = 0 ∧
      dispatchedCount job (transitionRecord before dispatch) = 0 := by
  rw [transitionRecord]
  split_ifs
  · exact ⟨rfl, rfl⟩
  · exact ⟨rfl, rfl⟩

/-- The event is at its owner: it counts as dispatched. -/
theorem WorkKept.take (hloop : WorkKept config [] [] loop) {event : AppEvent}
    {queue : AppEventQueue} (hget : loop.queue.tryGet = (some event, queue))
    (world : ModeWorld) (dispatch : ModeDispatch) :
    WorkKept config [] [event]
      { loop with
        queue
        world
        trace := loop.trace ++ LoopRecord.dispatched event ::
          transitionRecord loop.world.fsm dispatch } := by
  obtain ⟨hqueue, before, after, hevents, hlater⟩ :=
    events_of_tryGet hloop.wellFormed hget
  refine ⟨⟨hqueue, hloop.wellFormed.count_le, hloop.wellFormed.unique⟩,
    ⟨hloop.oneShots.quiet, fun job => ?_⟩, ?_⟩
  · obtain ⟨hscheduled, hdispatched⟩ :=
      counts_transitionRecord job loop.world.fsm dispatch
    have hkept := hloop.oneShots.kept job
    unfold scheduledCount at hkept hscheduled ⊢
    unfold dispatchedCount at hkept hdispatched ⊢
    dsimp only
    rw [hevents] at hkept
    rw [hlater, List.countP_append, List.countP_append, List.countP_cons,
      List.countP_cons, hscheduled, hdispatched]
    simp only [eventCount, List.countP_append, List.countP_cons,
      Bool.false_eq_true, if_false] at hkept ⊢
    omega
  · intro job hmem hperiod hpending hpolicy
    obtain ⟨witness, hwitness, hannounces⟩ :=
      hloop.signals job hmem hperiod hpending hpolicy
    refine ⟨witness, ?_, hannounces⟩
    dsimp only
    rw [List.nil_append, List.nil_append, hevents] at hwitness
    rw [hlater]
    simp only [List.mem_append, List.mem_cons, List.not_mem_nil,
      or_false] at hwitness ⊢
    tauto

theorem WorkKept.dispatchEvent (hloop : WorkKept config [] [] loop)
    {event : AppEvent} {queue : AppEventQueue}
    (hget : loop.queue.tryGet = (some event, queue)) (number : ℕ) :
    WorkKept config [] []
      (dispatchEvent turn number event { loop with queue }) := by
  have htaken := hloop.take hget
    (loop.world.dispatchToOwnerGuarded event loop.mediator
      loop.world.guardProvider).world
    (loop.world.dispatchToOwnerGuarded event loop.mediator
      loop.world.guardProvider)
  have hhandled := htaken.calls (turn.handler number)
  rw [AppEventLoop.dispatchEvent]
  dsimp only
  generalize AppEventLoop.calls _ (turn.handler number) = handled
    at hhandled ⊢
  split_ifs with hdeadline
  · obtain ⟨hcount, hunique, htable, hpending⟩ := table_of_acknowledge
      hhandled.wellFormed event.correlationId.toUInt16 event.sourceGeneration
    refine ⟨⟨hhandled.wellFormed.queue, hcount, hunique⟩, ⟨?_, fun job => ?_⟩, ?_⟩
    · intro job hmem hperiod
      by_contra hset
      have hset : job.pending = true := by simpa using hset
      have hold := hhandled.oneShots.quiet job (hpending job hmem hset).1 hperiod
      rw [hset] at hold
      exact absurd hold (by simp)
    · dsimp only
      rw [htable job]
      exact hhandled.oneShots.kept job
    · intro job hmem hperiod hset hpolicy
      obtain ⟨hold, hother⟩ := hpending job hmem hset
      obtain ⟨witness, hwitness, hannounces⟩ :=
        hhandled.signals job hold hperiod hset hpolicy
      refine ⟨witness, ?_, hannounces⟩
      rcases List.mem_append.mp hwitness with hwitness | hwitness
      · -- the taken event acknowledges its job
        have heq : witness = event := by simpa using hwitness
        rw [heq] at hannounces
        refine absurd ⟨?_, ?_⟩ hother
        · have hid : event.correlationId = job.jobId.toUInt32 :=
            congrArg AppEvent.correlationId hannounces
          rw [hid]
          simp
        · exact (congrArg AppEvent.sourceGeneration hannounces).symm
      · exact hwitness
  · refine ⟨hhandled.wellFormed, hhandled.oneShots, ?_⟩
    intro job hmem hperiod hset hpolicy
    obtain ⟨witness, hwitness, hannounces⟩ :=
      hhandled.signals job hmem hperiod hset hpolicy
    refine ⟨witness, ?_, hannounces⟩
    rcases List.mem_append.mp hwitness with hwitness | hwitness
    · have heq : witness = event := by simpa using hwitness
      rw [heq] at hannounces
      exact absurd (delivery_of_announces hannounces) hdeadline
    · exact hwitness

/-! ## Runs -/

/-- The due events of every turn of the run find room. -/
def RunHasRoom : AppEventLoop → List LoopInput → Prop
  | _, [] => True
  | loop, .call request :: inputs => RunHasRoom (loop.call request) inputs
  | loop, .turn turn :: inputs =>
      TurnMeets AppEventQueue.HasRoom loop turn ∧
        RunHasRoom (loop.runOnce turn) inputs

instance decidableRunHasRoom :
    ∀ loop inputs, Decidable (RunHasRoom loop inputs)
  | _, [] => isTrue trivial
  | loop, .call request :: inputs =>
      decidableRunHasRoom (loop.call request) inputs
  | loop, .turn turn :: inputs =>
      have := decidableRunHasRoom (loop.runOnce turn) inputs
      inferInstanceAs (Decidable (_ ∧ _))

theorem deadline_of_beginTurn (hloop : WellFormed config loop) :
    ∀ event ∈ (beginTurn turn loop).1, event.delivery = .deadline := by
  intro event hmem
  change event ∈ (loop.scheduler.dispatchDue turn.nowUs turn.dueClock
    loop.dueLimit).1 at hmem
  rw [(dispatchDue_sweep hloop.count_le _ _ _).1] at hmem
  obtain ⟨job, -, reading, rfl⟩ := of_mem_dueEvents hmem
  rfl

/-- A turn whose due events find room loses no work. -/
theorem WorkKept.runOnce (hloop : WorkKept config [] [] loop)
    (hroom : TurnMeets AppEventQueue.HasRoom loop turn) :
    WorkKept config [] [] (loop.runOnce turn) := by
  have hturn := runOnce_keeps
    (fun due loop => (∀ event ∈ due, event.delivery = .deadline) ∧
      WorkKept config due [] loop) ?_ ?_ ?_ ?_ ?_ ?_ ⟨by simp, hloop⟩ hroom
  · exact hturn.2
  · exact fun due loop request hloop => ⟨hloop.1, hloop.2.call request⟩
  · rintro loop ⟨-, hloop⟩
    exact ⟨deadline_of_beginTurn hloop.wellFormed, hloop.wellFormed.beginTurn,
      hloop.oneShots.beginTurn hloop.wellFormed,
      hloop.signals.beginTurn hloop.wellFormed⟩
  · rintro loop event due hroom ⟨hdeadlines, hloop⟩
    have hevents := events_of_hasRoom hloop.wellFormed
      (hdeadlines event List.mem_cons_self) hroom
    exact ⟨fun other hmem => hdeadlines other (List.mem_cons_of_mem _ hmem),
      hloop.wellFormed.post _, hloop.oneShots.post hevents,
      hloop.signals.post hevents⟩
  · rintro loop number event queue processed ⟨-, hloop⟩ hget
    have hevent : WorkKept config [] []
        (AppEventLoop.dispatchEvent turn number event { loop with queue }) :=
      hloop.dispatchEvent hget number
    exact ⟨by simp, ⟨hevent.wellFormed.queue, hevent.wellFormed.count_le,
      hevent.wellFormed.unique⟩, ⟨hevent.oneShots.quiet, hevent.oneShots.kept⟩,
      hevent.signals⟩
  · rintro loop steps ⟨-, hloop⟩
    refine ⟨by simp, ?_⟩
    rw [executeActions]
    split_ifs
    · apply WorkKept.calls
      refine ⟨⟨hloop.wellFormed.queue, hloop.wellFormed.count_le,
        hloop.wellFormed.unique⟩, ⟨hloop.oneShots.quiet, fun job => ?_⟩,
        hloop.signals⟩
      have hkept := hloop.oneShots.kept job
      simpa [scheduledCount, dispatchedCount] using hkept
    · exact hloop
  · rintro loop _ ⟨-, hloop⟩
    exact ⟨by simp, ⟨hloop.wellFormed.queue, hloop.wellFormed.count_le,
      hloop.wellFormed.unique⟩, ⟨hloop.oneShots.quiet, hloop.oneShots.kept⟩,
      hloop.signals⟩

theorem WorkKept.runFrom (hloop : WorkKept config [] [] loop)
    {inputs : List LoopInput} (hroom : RunHasRoom loop inputs) :
    WorkKept config [] [] (loop.runFrom inputs) := by
  induction inputs generalizing loop with
  | nil => exact hloop
  | cons received inputs ih =>
      cases received with
      | call request => exact ih (hloop.call request) hroom
      | turn turn => exact ih (hloop.runOnce hroom.1) hroom.2

/-- In a run whose due events find room, every scheduled one-shot is in the
table, in the queue or dispatched, and every pending periodic SIGNAL_ONCE job has
its event in the queue. -/
theorem scheduled_work_kept (config : Option AppEventQueueConfig)
    (fsm : SystemModeManager) (repo : DataRepository)
    (budget : Option LoopBudgetConfig) (inputs : List LoopInput)
    (hroom : RunHasRoom
      (init (AppEventQueue.init config) fsm repo Scheduler.init budget) inputs) :
    let loop := (init (AppEventQueue.init config) fsm repo Scheduler.init
      budget).runFrom inputs
    (∀ job : SchedulerJob, scheduledCount job loop.trace ≤
        tableCount job loop.scheduler.table +
          eventCount job loop.queue.events +
          dispatchedCount job loop.trace) ∧
      ∀ job ∈ loop.scheduler.table, job.periodUs ≠ 0 → job.pending = true →
        job.missPolicy = .signalOnce →
        ∃ event ∈ loop.queue.events, job.Announces event := by
  intro loop
  have hstart : WorkKept _ [] []
      (init (AppEventQueue.init config) fsm repo Scheduler.init budget) :=
    ⟨⟨AppEventQueue.init_represents config, Nat.zero_le _, List.nodup_nil⟩,
      ⟨fun _ hmem => absurd hmem List.not_mem_nil, fun _ => Nat.zero_le _⟩,
      fun _ hmem => absurd hmem List.not_mem_nil⟩
  have hloop := hstart.runFrom hroom
  refine ⟨fun job => ?_, hloop.signals⟩
  have hkept := hloop.oneShots.kept job
  rwa [show eventCount job [] = 0 from rfl, Nat.add_zero] at hkept

/-- A one-shot that is due at time zero. -/
def dueOneShot : SchedulerJob :=
  oneShotJob 3 1 .telemetryRetryDue 0 1 .background

/-- With the fallback queue a due one-shot is dispatched. -/
theorem oneShot_kept :
    let loop := (init (AppEventQueue.init none) .init .init Scheduler.init
      none).runFrom
      [.call (.scheduleOneShot 3 1 .telemetryRetryDue 0 1 .background),
        .turn quietTurn]
    scheduledCount dueOneShot loop.trace = 1 ∧
      1 ≤ tableCount dueOneShot loop.scheduler.table +
        eventCount dueOneShot loop.queue.events +
        dispatchedCount dueOneShot loop.trace := by
  intro loop
  have hscheduled : scheduledCount dueOneShot loop.trace = 1 := by
    decide +kernel
  have hkept := (scheduled_work_kept none .init .init none
    [.call (.scheduleOneShot 3 1 .telemetryRetryDue 0 1 .background),
      .turn quietTurn] (by decide +kernel)).1 dueOneShot
  exact ⟨hscheduled, hscheduled ▸ hkept⟩

/-- A due one-shot meets a queue of one slot that a measurement event fills: the
scheduler has given it up, and no queue holds it. -/
theorem oneShot_lost :
    let loop := (init (AppEventQueue.init (some ⟨1, 0, 0⟩)) .init .init
      Scheduler.init none).runFrom
      [.call (.scheduleOneShot 3 1 .telemetryRetryDue 0 1 .background),
        .call (.post (some { AppEvent.cleared with
          id := .maxRawReady, priority := .measurement })),
        .turn quietTurn]
    ¬ ∀ job : SchedulerJob, scheduledCount job loop.trace ≤
        tableCount job loop.scheduler.table +
          eventCount job loop.queue.events +
          dispatchedCount job loop.trace := by
  intro loop hall
  have hkept := hall dueOneShot
  revert hkept
  decide +kernel

end AppEventLoop
end Swfpm
