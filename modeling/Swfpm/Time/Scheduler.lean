import Swfpm.Queue.EventQueue

/-!
# The monotonic scheduler

Embedding of `infrastructure/time/scheduler.h` and `monotonic_scheduler.c`.  The
jobs are the first `jobCount` cells of the array; every operation is also stated
for the list `table` of these jobs.  A reading of the monotonic clock that a
function takes itself is an argument here.
-/

namespace Swfpm

open RingBuffer

inductive MissPolicy where
  | skip
  | signalOnce
  | ownerSpecific
  deriving DecidableEq, Repr

inductive ScheduleResult where
  | ok
  | rejectedInvalidPeriod
  | rejectedDuplicateId
  | rejectedFull
  | cancelled
  | notFound
  deriving DecidableEq, Repr

structure SchedulerJob where
  jobId : UInt16
  ownerId : UInt32
  eventId : EventId
  deadlineUs : UInt64
  anchorUs : UInt64
  /-- Zero for a one-shot. -/
  periodUs : UInt64
  generation : UInt32
  modeMask : UInt32
  missPolicy : MissPolicy
  priority : AppEventPriority
  pending : Bool
  deriving DecidableEq, Repr

def SchedulerJob.cleared : SchedulerJob :=
  { jobId := 0, ownerId := 0, eventId := .zero, deadlineUs := 0, anchorUs := 0
    periodUs := 0, generation := 0, modeMask := 0, missPolicy := .skip
    priority := .critical, pending := false }

/-- `SCHEDULER_MAX_JOBS`. -/
abbrev schedulerMaxJobs : ℕ := 16

structure Scheduler where
  jobs : Fin schedulerMaxJobs → SchedulerJob
  jobCount : ℕ

def isDeadlinePassed (deadline now : UInt64) : Bool := deadline ≤ now

/-- The first deadline of the grid after `now`. -/
def nextAnchored (anchor period now : UInt64) : UInt64 :=
  if period = 0 then anchor
  else if anchor > now then anchor
  else
    let elapsed := now - anchor
    let periods := elapsed / period
    let next := anchor + (periods + 1) * period
    -- the sum has wrapped
    if next < anchor then now else next

namespace Scheduler

def init : Scheduler := ⟨fun _ => .cleared, 0⟩

/-- The walk of `find_job`. -/
def findFrom (jobs : Fin schedulerMaxJobs → SchedulerJob) (id : UInt16)
    (index : Fin schedulerMaxJobs) : ℕ → Option (Fin schedulerMaxJobs)
  | 0 => none
  | remaining + 1 =>
      if (jobs index).jobId = id then some index
      else findFrom jobs id (next index) remaining

def findJob (scheduler : Scheduler) (id : UInt16) :
    Option (Fin schedulerMaxJobs) :=
  findFrom scheduler.jobs id 0 scheduler.jobCount

/-- `memmove` of the jobs behind `index`. -/
def removeJobAt (scheduler : Scheduler) (index : Fin schedulerMaxJobs) :
    Scheduler :=
  if index < scheduler.jobCount then
    { jobs := shift scheduler.jobs index (scheduler.jobCount - index - 1)
      jobCount := scheduler.jobCount - 1 }
  else scheduler

def setJob (scheduler : Scheduler) (index : Fin schedulerMaxJobs)
    (job : SchedulerJob) : Scheduler :=
  { scheduler with jobs := write scheduler.jobs index job }

/-- The new job behind the last one. -/
def addJob (scheduler : Scheduler) (job : SchedulerJob) : Scheduler :=
  { jobs := write scheduler.jobs (advance 0 scheduler.jobCount) job
    jobCount := scheduler.jobCount + 1 }

def oneShotJob (jobId : UInt16) (ownerId : UInt32) (eventId : EventId)
    (deadlineUs : UInt64) (generation : UInt32) (priority : AppEventPriority) :
    SchedulerJob :=
  { jobId, ownerId, eventId, deadlineUs
    anchorUs := deadlineUs
    periodUs := 0
    generation
    modeMask := 0xFFFFFFFF
    missPolicy := .skip
    priority
    pending := false }

def scheduleOneShot (scheduler : Scheduler) (jobId : UInt16) (ownerId : UInt32)
    (eventId : EventId) (deadlineUs : UInt64) (generation : UInt32)
    (priority : AppEventPriority) : ScheduleResult × Scheduler :=
  if scheduler.jobCount ≥ schedulerMaxJobs then (.rejectedFull, scheduler)
  else if scheduler.findJob jobId ≠ none then (.rejectedDuplicateId, scheduler)
  else
    (.ok, scheduler.addJob
      (oneShotJob jobId ownerId eventId deadlineUs generation priority))

def periodicJob (jobId : UInt16) (ownerId : UInt32) (eventId : EventId)
    (anchorUs periodUs : UInt64) (generation : UInt32) (missPolicy : MissPolicy)
    (priority : AppEventPriority) (nowUs : UInt64) : SchedulerJob :=
  { jobId, ownerId, eventId
    deadlineUs := nextAnchored anchorUs periodUs nowUs
    anchorUs, periodUs, generation
    modeMask := 0xFFFFFFFF
    missPolicy, priority
    pending := false }

/-- `nowUs` is the reading of the clock. -/
def schedulePeriodic (scheduler : Scheduler) (jobId : UInt16) (ownerId : UInt32)
    (eventId : EventId) (anchorUs periodUs : UInt64) (generation : UInt32)
    (missPolicy : MissPolicy) (priority : AppEventPriority) (nowUs : UInt64) :
    ScheduleResult × Scheduler :=
  if periodUs = 0 then (.rejectedInvalidPeriod, scheduler)
  else if scheduler.jobCount ≥ schedulerMaxJobs then (.rejectedFull, scheduler)
  else if scheduler.findJob jobId ≠ none then (.rejectedDuplicateId, scheduler)
  else
    (.ok, scheduler.addJob (periodicJob jobId ownerId eventId anchorUs periodUs
      generation missPolicy priority nowUs))

def cancel (scheduler : Scheduler) (jobId : UInt16)
    (expectedGeneration : UInt32) : ScheduleResult × Scheduler :=
  match scheduler.findJob jobId with
  | none => (.notFound, scheduler)
  | some index =>
      if (scheduler.jobs index).generation ≠ expectedGeneration then
        (.notFound, scheduler)
      else (.cancelled, scheduler.removeJobAt index)

def acknowledge (scheduler : Scheduler) (jobId : UInt16)
    (expectedGeneration : UInt32) : Bool × Scheduler :=
  match scheduler.findJob jobId with
  | none => (false, scheduler)
  | some index =>
      let job := scheduler.jobs index
      if job.generation ≠ expectedGeneration ∨ !job.pending then
        (false, scheduler)
      else (true, scheduler.setJob index { job with pending := false })

end Scheduler

namespace SchedulerJob

/-- The due event; `nowUs` is the reading of the clock. -/
def dueEvent (job : SchedulerJob) (nowUs : UInt64) : AppEvent :=
  { AppEvent.cleared with
    id := job.eventId
    sourceId := job.ownerId
    priority := job.priority
    delivery := .deadline
    correlationId := job.jobId.toUInt32
    sourceGeneration := job.generation
    monotonicTimestampUs := nowUs }

/-- The job with its next deadline after `nowUs`. -/
def rescheduled (job : SchedulerJob) (nowUs : UInt64) (pending : Bool) :
    SchedulerJob :=
  { job with
    deadlineUs := nextAnchored job.anchorUs job.periodUs nowUs
    pending }

end SchedulerJob

namespace Scheduler

/-- The loop of `dispatch_due` over the jobs from `index` on; each turn either
passes a job or removes it.  `clock` numbers the readings of the clock. -/
def dispatchFrom (nowUs : UInt64) (clock : ℕ → UInt64) (maxEvents : ℕ) :
    ℕ → Scheduler → Fin schedulerMaxJobs → List AppEvent →
      List AppEvent × Scheduler
  | 0, scheduler, _, events => (events, scheduler)
  | remaining + 1, scheduler, index, events =>
      let continueWith := dispatchFrom nowUs clock maxEvents remaining
      if events.length ≥ maxEvents then (events, scheduler)
      else
        let job := scheduler.jobs index
        if !isDeadlinePassed job.deadlineUs nowUs then
          continueWith scheduler (next index) events
        else if job.pending then
          -- already posted and not consumed
          if job.missPolicy = .skip then
            if job.periodUs > 0 then
              continueWith
                (scheduler.setJob index (job.rescheduled nowUs false))
                (next index) events
            else continueWith (scheduler.removeJobAt index) index events
          else continueWith scheduler (next index) events
        else
          let due := events ++ [job.dueEvent (clock events.length)]
          if job.periodUs > 0 then
            continueWith (scheduler.setJob index (job.rescheduled nowUs true))
              (next index) due
          else
            let posted := scheduler.setJob index { job with pending := true }
            continueWith (posted.removeJobAt index) index due

def dispatchDue (scheduler : Scheduler) (nowUs : UInt64) (clock : ℕ → UInt64)
    (maxEvents : UInt8) : List AppEvent × Scheduler :=
  dispatchFrom nowUs clock maxEvents.toNat scheduler.jobCount scheduler 0 []

/-! ## The table as a list -/

variable {scheduler : Scheduler} {before after : List SchedulerJob}
  {job : SchedulerJob}

def table (scheduler : Scheduler) : List SchedulerJob :=
  contents scheduler.jobs 0 scheduler.jobCount

/-- The array holds the listed jobs. -/
structure Holds (scheduler : Scheduler) (jobs : List SchedulerJob) : Prop where
  table_eq : scheduler.table = jobs
  count_le : scheduler.jobCount ≤ schedulerMaxJobs

@[simp]
theorem length_table (scheduler : Scheduler) :
    scheduler.table.length = scheduler.jobCount :=
  length_contents _ _ _

theorem Holds.length {jobs : List SchedulerJob} (hholds : scheduler.Holds jobs) :
    jobs.length = scheduler.jobCount := by
  rw [← hholds.table_eq, length_table]

theorem init_holds : init.Holds [] := ⟨rfl, Nat.zero_le _⟩

theorem Holds.self {jobs : List SchedulerJob} (hholds : scheduler.Holds jobs) :
    scheduler.Holds scheduler.table := ⟨rfl, hholds.count_le⟩

/-- Where a job stands in the list is where it stands in the array. -/
theorem Holds.split (hholds : scheduler.Holds (before ++ job :: after)) :
    before.length < scheduler.jobCount ∧
      contents scheduler.jobs 0 before.length = before ∧
      scheduler.jobs (advance 0 before.length) = job ∧
      contents scheduler.jobs (advance 0 (before.length + 1))
        (scheduler.jobCount - before.length - 1) = after := by
  have hlength := hholds.length
  rw [List.length_append, List.length_cons] at hlength
  have hlt : before.length < scheduler.jobCount := by omega
  have hsplit := contents_split scheduler.jobs 0 hlt
  change scheduler.table = _ at hsplit
  rw [hholds.table_eq] at hsplit
  obtain ⟨hbefore, hrest⟩ := List.append_inj hsplit (by simp)
  obtain ⟨hjob, hafter⟩ := List.cons.inj hrest
  exact ⟨hlt, hbefore.symm, hjob.symm, hafter.symm⟩

theorem Holds.setJob (hholds : scheduler.Holds (before ++ job :: after))
    (changed : SchedulerJob) :
    (scheduler.setJob (advance 0 before.length) changed).Holds
      (before ++ changed :: after) := by
  obtain ⟨hlt, hbefore, -, hafter⟩ := hholds.split
  refine ⟨?_, hholds.count_le⟩
  have hreplace : contents (write scheduler.jobs (advance 0 before.length)
      changed) 0 scheduler.jobCount = _ :=
    contents_replace changed hholds.count_le hlt
  rwa [hbefore, hafter] at hreplace

theorem Holds.removeJobAt (hholds : scheduler.Holds (before ++ job :: after)) :
    (scheduler.removeJobAt (advance 0 before.length)).Holds
      (before ++ after) := by
  obtain ⟨hlt, hbefore, -, hafter⟩ := hholds.split
  have hplace : (advance (0 : Fin schedulerMaxJobs) before.length).val =
      before.length := by
    simp only [advance, Fin.val_zero, Nat.zero_add]
    exact Nat.mod_eq_of_lt (hlt.trans_le hholds.count_le)
  rw [Scheduler.removeJobAt, hplace, if_pos hlt]
  refine ⟨?_, (Nat.sub_le _ _).trans hholds.count_le⟩
  have hremove := contents_remove scheduler.jobs 0 hholds.count_le hlt
  rwa [hbefore, hafter] at hremove

theorem Holds.addJob {jobs : List SchedulerJob} (hholds : scheduler.Holds jobs)
    (hroom : scheduler.jobCount < schedulerMaxJobs) (added : SchedulerJob) :
    (scheduler.addJob added).Holds (jobs ++ [added]) := by
  refine ⟨?_, hroom⟩
  rw [← hholds.table_eq]
  exact contents_push scheduler.jobs 0 added hroom

/-- The jobs of the table have different ids. -/
def UniqueIds (jobs : List SchedulerJob) : Prop :=
  (jobs.map SchedulerJob.jobId).Nodup

theorem UniqueIds.eq_of_mem {jobs : List SchedulerJob} (hunique : UniqueIds jobs)
    {first second : SchedulerJob} (hfirst : first ∈ jobs) (hsecond : second ∈ jobs)
    (hid : first.jobId = second.jobId) : first = second :=
  List.inj_on_of_nodup_map hunique hfirst hsecond hid

theorem UniqueIds.append_singleton {jobs : List SchedulerJob}
    (hunique : UniqueIds jobs) {added : SchedulerJob}
    (hnew : ∀ job ∈ jobs, job.jobId ≠ added.jobId) :
    UniqueIds (jobs ++ [added]) := by
  rw [UniqueIds, List.map_append]
  refine List.nodup_append.mpr ⟨hunique, List.nodup_singleton _, ?_⟩
  intro id hid other hother
  obtain ⟨job, hmem, rfl⟩ := List.mem_map.mp hid
  rw [List.mem_singleton.mp hother]
  exact hnew job hmem

/-- The walk of `find_job` stops at the first job with the id. -/
theorem findFrom_cases (jobs : Fin schedulerMaxJobs → SchedulerJob)
    (id : UInt16) (start : Fin schedulerMaxJobs) (remaining : ℕ) :
    (findFrom jobs id start remaining = none ∧
      ∀ job ∈ contents jobs start remaining, job.jobId ≠ id) ∨
    ∃ before job after, contents jobs start remaining = before ++ job :: after ∧
      findFrom jobs id start remaining = some (advance start before.length) ∧
      job.jobId = id ∧ ∀ other ∈ before, other.jobId ≠ id := by
  induction remaining generalizing start with
  | zero => exact .inl ⟨rfl, fun _ hmem => absurd hmem List.not_mem_nil⟩
  | succ remaining ih =>
      rw [findFrom, contents]
      split_ifs with hid
      · exact .inr ⟨[], jobs start, _, rfl, by simp, hid,
          fun _ hmem => absurd hmem List.not_mem_nil⟩
      obtain ⟨hnone, hothers⟩ | ⟨before, job, after, hsplit, hfind, hjob,
        hbefore⟩ := ih (next start)
      · exact .inl ⟨hnone, List.forall_mem_cons.mpr ⟨hid, hothers⟩⟩
      · refine .inr ⟨jobs start :: before, job, after, ?_, ?_, hjob,
          List.forall_mem_cons.mpr ⟨hid, hbefore⟩⟩
        · rw [hsplit, List.cons_append]
        · rw [hfind, advance_next, List.length_cons]

theorem findJob_cases (scheduler : Scheduler) (id : UInt16) :
    (scheduler.findJob id = none ∧
      ∀ job ∈ scheduler.table, job.jobId ≠ id) ∨
    ∃ before job after, scheduler.table = before ++ job :: after ∧
      scheduler.findJob id = some (advance 0 before.length) ∧
      job.jobId = id ∧ ∀ other ∈ before, other.jobId ≠ id :=
  findFrom_cases scheduler.jobs id 0 scheduler.jobCount

/-! ## What the operations do to the table -/

/-- What scheduling `added` does to the table. -/
inductive Schedules (added : SchedulerJob) (scheduler : Scheduler) :
    ScheduleResult × Scheduler → Prop where
  | rejected {result : ScheduleResult} (hresult : result ≠ .ok) :
      Schedules added scheduler (result, scheduler)
  | added {later : Scheduler}
      (hnew : ∀ job ∈ scheduler.table, job.jobId ≠ added.jobId)
      (hholds : later.Holds (scheduler.table ++ [added])) :
      Schedules added scheduler (.ok, later)

/-- The two checks that both ways of scheduling end with. -/
theorem schedules_of_checks (hcount : scheduler.jobCount ≤ schedulerMaxJobs)
    (added : SchedulerJob) :
    Schedules added scheduler
      (if scheduler.jobCount ≥ schedulerMaxJobs then (.rejectedFull, scheduler)
      else if scheduler.findJob added.jobId ≠ none then
        (.rejectedDuplicateId, scheduler)
      else (.ok, scheduler.addJob added)) := by
  split_ifs with hfull hduplicate
  · exact .rejected nofun
  · exact .rejected nofun
  · obtain ⟨-, hnew⟩ | ⟨_, _, _, _, hfind, _⟩ :=
      scheduler.findJob_cases added.jobId
    · exact .added hnew (Holds.addJob ⟨rfl, hcount⟩ (not_le.mp hfull) added)
    · exact absurd hfind (by simp [not_not.mp hduplicate])

theorem scheduleOneShot_schedules (hcount : scheduler.jobCount ≤ schedulerMaxJobs)
    (jobId : UInt16) (ownerId : UInt32) (eventId : EventId)
    (deadlineUs : UInt64) (generation : UInt32) (priority : AppEventPriority) :
    Schedules (oneShotJob jobId ownerId eventId deadlineUs generation priority)
      scheduler (scheduler.scheduleOneShot jobId ownerId eventId deadlineUs
        generation priority) :=
  schedules_of_checks hcount _

theorem schedulePeriodic_schedules
    (hcount : scheduler.jobCount ≤ schedulerMaxJobs) (jobId : UInt16)
    (ownerId : UInt32) (eventId : EventId) (anchorUs periodUs : UInt64)
    (generation : UInt32) (missPolicy : MissPolicy)
    (priority : AppEventPriority) (nowUs : UInt64) :
    Schedules (periodicJob jobId ownerId eventId anchorUs periodUs generation
      missPolicy priority nowUs) scheduler
      (scheduler.schedulePeriodic jobId ownerId eventId anchorUs periodUs
        generation missPolicy priority nowUs) := by
  rw [schedulePeriodic]
  split_ifs with hperiod hfull hduplicate
  · exact .rejected nofun
  · exact .rejected nofun
  · exact .rejected nofun
  · have hchecks := schedules_of_checks hcount (periodicJob jobId ownerId
      eventId anchorUs periodUs generation missPolicy priority nowUs)
    rw [if_neg hfull, if_neg] at hchecks
    · exact hchecks
    · exact hduplicate

/-- What cancelling does to the table. -/
inductive Cancels (jobId : UInt16) (generation : UInt32)
    (scheduler : Scheduler) : ScheduleResult × Scheduler → Prop where
  | notFound
      (hnone : ∀ job ∈ scheduler.table,
        job.jobId = jobId → job.generation = generation → False) :
      Cancels jobId generation scheduler (.notFound, scheduler)
  | removed {later : Scheduler} {before after : List SchedulerJob}
      {job : SchedulerJob} (htable : scheduler.table = before ++ job :: after)
      (hid : job.jobId = jobId) (hgeneration : job.generation = generation)
      (hholds : later.Holds (before ++ after)) :
      Cancels jobId generation scheduler (.cancelled, later)

theorem cancel_cancels (hcount : scheduler.jobCount ≤ schedulerMaxJobs)
    (hunique : UniqueIds scheduler.table) (jobId : UInt16)
    (generation : UInt32) :
    Cancels jobId generation scheduler (scheduler.cancel jobId generation) := by
  obtain ⟨hfind, hnone⟩ | ⟨before, job, after, htable, hfind, hid, -⟩ :=
    scheduler.findJob_cases jobId
  · rw [cancel, hfind]
    exact .notFound fun job hmem heq _ => hnone job hmem heq
  · have hholds : scheduler.Holds (before ++ job :: after) := ⟨htable, hcount⟩
    rw [cancel, hfind]
    dsimp only
    rw [hholds.split.2.2.1]
    split_ifs with hgeneration
    · refine .notFound fun other hmem heq hsame => hgeneration ?_
      have hjob : job ∈ scheduler.table := by simp [htable]
      rw [← hsame, hunique.eq_of_mem hmem hjob (heq.trans hid.symm)]
    · exact .removed htable hid (not_not.mp hgeneration) hholds.removeJobAt

/-- What acknowledging does to the table. -/
inductive Acknowledges (jobId : UInt16) (generation : UInt32)
    (scheduler : Scheduler) : Bool × Scheduler → Prop where
  | refused
      (hnone : ∀ job ∈ scheduler.table, job.jobId = jobId →
        job.generation = generation → job.pending = false) :
      Acknowledges jobId generation scheduler (false, scheduler)
  | cleared {later : Scheduler} {before after : List SchedulerJob}
      {job : SchedulerJob} (htable : scheduler.table = before ++ job :: after)
      (hid : job.jobId = jobId) (hgeneration : job.generation = generation)
      (hpending : job.pending = true)
      (hholds : later.Holds (before ++ { job with pending := false } :: after)) :
      Acknowledges jobId generation scheduler (true, later)

theorem acknowledge_acknowledges
    (hcount : scheduler.jobCount ≤ schedulerMaxJobs)
    (hunique : UniqueIds scheduler.table) (jobId : UInt16)
    (generation : UInt32) :
    Acknowledges jobId generation scheduler
      (scheduler.acknowledge jobId generation) := by
  obtain ⟨hfind, hnone⟩ | ⟨before, job, after, htable, hfind, hid, -⟩ :=
    scheduler.findJob_cases jobId
  · rw [acknowledge, hfind]
    exact .refused fun job hmem heq _ => absurd heq (hnone job hmem)
  · have hholds : scheduler.Holds (before ++ job :: after) := ⟨htable, hcount⟩
    rw [acknowledge, hfind]
    dsimp only
    rw [hholds.split.2.2.1]
    split_ifs with hrefused
    · refine .refused fun other hmem heq hsame => ?_
      have hjob : job ∈ scheduler.table := by simp [htable]
      obtain rfl := hunique.eq_of_mem hmem hjob (heq.trans hid.symm)
      simpa [hsame] using hrefused
    · obtain ⟨hgeneration, hpending⟩ := not_or.mp hrefused
      exact .cleared htable hid (not_not.mp hgeneration) (by simpa using hpending)
        (hholds.setJob _)

/-! ## What a dispatch does to the table -/

end Scheduler

namespace SchedulerJob

/-- The dispatch emits the job when it reaches it. -/
def Fires (job : SchedulerJob) (nowUs : UInt64) : Prop :=
  job.deadlineUs ≤ nowUs ∧ job.pending = false

instance (job : SchedulerJob) (nowUs : UInt64) : Decidable (job.Fires nowUs) :=
  inferInstanceAs (Decidable (_ ∧ _))

/-- The dispatch skips the job's deadline when it reaches it. -/
def Skips (job : SchedulerJob) (nowUs : UInt64) : Prop :=
  job.deadlineUs ≤ nowUs ∧ job.pending = true ∧ job.missPolicy = .skip

instance (job : SchedulerJob) (nowUs : UInt64) : Decidable (job.Skips nowUs) :=
  inferInstanceAs (Decidable (_ ∧ _ ∧ _))

/-- What a dispatch leaves of a job that it reaches. -/
def passed (job : SchedulerJob) (nowUs : UInt64) : List SchedulerJob :=
  if job.Fires nowUs ∨ job.Skips nowUs then
    if job.periodUs = 0 then []
    else [job.rescheduled nowUs (!job.pending)]
  else [job]

end SchedulerJob

namespace Scheduler

variable {scheduler : Scheduler}

/-- The dispatch on the list: the jobs that remain and the jobs it emits. -/
def sweep (nowUs : UInt64) :
    ℕ → List SchedulerJob → List SchedulerJob × List SchedulerJob
  | _, [] => ([], [])
  | 0, jobs => (jobs, [])
  | room + 1, job :: jobs =>
      if job.Fires nowUs then
        let (remaining, fired) := sweep nowUs room jobs
        (job.passed nowUs ++ remaining, job :: fired)
      else
        let (remaining, fired) := sweep nowUs (room + 1) jobs
        (job.passed nowUs ++ remaining, fired)

/-- The events of the emitted jobs, from a reading of the clock on. -/
def dueEvents (clock : ℕ → UInt64) : ℕ → List SchedulerJob → List AppEvent
  | _, [] => []
  | reading, job :: jobs =>
      job.dueEvent (clock reading) :: dueEvents clock (reading + 1) jobs

/-- The loop over the array is the sweep of the list. -/
theorem dispatchFrom_sweep (nowUs : UInt64) (clock : ℕ → UInt64) (maxEvents : ℕ)
    (jobs : List SchedulerJob) :
    ∀ (scheduler : Scheduler) (before : List SchedulerJob)
      (events : List AppEvent), scheduler.Holds (before ++ jobs) →
      let dispatched := dispatchFrom nowUs clock maxEvents jobs.length scheduler
        (advance 0 before.length) events
      let swept := sweep nowUs (maxEvents - events.length) jobs
      dispatched.1 = events ++ dueEvents clock events.length swept.2 ∧
        dispatched.2.Holds (before ++ swept.1) := by
  induction jobs with
  | nil =>
      intro scheduler before events hholds
      simpa [dispatchFrom, sweep, dueEvents] using hholds
  | cons job jobs ih =>
      intro scheduler before events hholds
      dsimp only
      rw [List.length_cons, dispatchFrom]
      by_cases hfull : events.length ≥ maxEvents
      · rw [if_pos hfull, Nat.sub_eq_zero_of_le hfull]
        simpa [sweep, dueEvents] using hholds
      rw [if_neg hfull]
      obtain ⟨room, hroom⟩ := Nat.exists_eq_succ_of_ne_zero
        (Nat.sub_ne_zero_of_lt (not_le.mp hfull))
      rw [hroom, sweep]
      dsimp only
      rw [hholds.split.2.2.1, next_advance]
      -- the job that the loop leaves in its place, and the loop from there on
      have hkeep : ∀ (later : Scheduler) (kept : SchedulerJob)
          (events : List AppEvent), later.Holds (before ++ kept :: jobs) →
          let dispatched := dispatchFrom nowUs clock maxEvents jobs.length later
            (advance 0 (before.length + 1)) events
          let swept := sweep nowUs (maxEvents - events.length) jobs
          dispatched.1 = events ++ dueEvents clock events.length swept.2 ∧
            dispatched.2.Holds (before ++ kept :: swept.1) := by
        intro later kept events hlater
        have hstep := ih later (before ++ [kept]) events (by simpa using hlater)
        simpa using hstep
      have hroom' : maxEvents - events.length = room + 1 := hroom
      by_cases hdue : job.deadlineUs ≤ nowUs
      case neg =>
        have hpassed : job.passed nowUs = [job] :=
          if_neg (by simp [SchedulerJob.Fires, SchedulerJob.Skips, hdue])
        have hstep := hkeep scheduler job events hholds
        rw [hroom'] at hstep
        simpa [isDeadlinePassed, hdue, SchedulerJob.Fires, hpassed] using hstep
      rw [if_neg (by simp [isDeadlinePassed, hdue])]
      cases hpending : job.pending with
      | true =>
          have hquiet : ¬ job.Fires nowUs := by
            simp [SchedulerJob.Fires, hpending]
          rw [if_pos rfl, if_neg hquiet]
          by_cases hskip : job.missPolicy = .skip
          · have hskips : job.Skips nowUs := ⟨hdue, hpending, hskip⟩
            rw [if_pos hskip, SchedulerJob.passed, if_pos (Or.inr hskips)]
            by_cases hperiod : job.periodUs = 0
            · have hstep := ih _ before events hholds.removeJobAt
              rw [hroom'] at hstep
              simpa [hperiod] using hstep
            · have hstep := hkeep _ (job.rescheduled nowUs false) events
                (hholds.setJob _)
              rw [hroom'] at hstep
              have hpos : 0 < job.periodUs := UInt64.pos_iff_ne_zero.mpr hperiod
              simpa [hpos, hperiod, hpending] using hstep
          · have hpassed : job.passed nowUs = [job] :=
              if_neg (by simp [hquiet, SchedulerJob.Skips, hskip])
            have hstep := hkeep scheduler job events hholds
            rw [hroom'] at hstep
            rw [if_neg hskip, hpassed]
            exact hstep
      | false =>
          have hfires : job.Fires nowUs := ⟨hdue, hpending⟩
          have hspent : maxEvents -
              (events ++ [job.dueEvent (clock events.length)]).length = room := by
            rw [List.length_append, List.length_singleton]
            omega
          rw [if_neg Bool.false_ne_true, if_pos hfires, SchedulerJob.passed,
            if_pos (Or.inl hfires)]
          by_cases hperiod : job.periodUs = 0
          · have hmarked := hholds.setJob { job with pending := true }
            have hstep := ih _ before
              (events ++ [job.dueEvent (clock events.length)])
              hmarked.removeJobAt
            rw [hspent] at hstep
            simpa [hperiod, dueEvents] using hstep
          · have hstep := hkeep _ (job.rescheduled nowUs true)
              (events ++ [job.dueEvent (clock events.length)])
              (hholds.setJob _)
            rw [hspent] at hstep
            have hpos : 0 < job.periodUs := UInt64.pos_iff_ne_zero.mpr hperiod
            simpa [hpos, hperiod, hpending, dueEvents] using hstep

/-- A dispatch emits and leaves what the sweep of its table does. -/
theorem dispatchDue_sweep (hcount : scheduler.jobCount ≤ schedulerMaxJobs)
    (nowUs : UInt64) (clock : ℕ → UInt64) (maxEvents : UInt8) :
    (scheduler.dispatchDue nowUs clock maxEvents).1 =
        dueEvents clock 0 (sweep nowUs maxEvents.toNat scheduler.table).2 ∧
      (scheduler.dispatchDue nowUs clock maxEvents).2.Holds
        (sweep nowUs maxEvents.toNat scheduler.table).1 := by
  have hsweep := dispatchFrom_sweep nowUs clock maxEvents.toNat scheduler.table
    scheduler [] [] ⟨rfl, hcount⟩
  rw [length_table] at hsweep
  rw [dispatchDue]
  simpa using hsweep

/-- A sweep reaches a first part of the table, each job with room for its event,
and the whole of it unless the room runs out. -/
theorem sweep_reaches (nowUs : UInt64) (room : ℕ) (jobs : List SchedulerJob) :
    ∃ reached rest, jobs = reached ++ rest ∧
      (sweep nowUs room jobs).1 =
        reached.flatMap (·.passed nowUs) ++ rest ∧
      (sweep nowUs room jobs).2 = reached.filter (·.Fires nowUs) ∧
      (rest ≠ [] → (sweep nowUs room jobs).2.length = room) ∧
      ∀ before job after, reached = before ++ job :: after →
        (before.filter (·.Fires nowUs)).length < room := by
  induction jobs generalizing room with
  | nil =>
      exact ⟨[], [], rfl, by simp [sweep], by simp [sweep], nofun, by simp⟩
  | cons job jobs ih =>
      cases room with
      | zero => exact ⟨[], job :: jobs, rfl, rfl, rfl, fun _ => rfl, by simp⟩
      | succ room =>
          rw [sweep]
          split_ifs with hfires
          · obtain ⟨reached, rest, hjobs, hafter, hfired, hroom, hplaces⟩ :=
              ih room
            refine ⟨job :: reached, rest, by rw [hjobs, List.cons_append], ?_, ?_,
              fun hrest => congrArg Nat.succ (hroom hrest), ?_⟩
            · simp [hafter]
            · simp [hfired, hfires]
            · rintro (_ | ⟨first, before⟩) other after hsplit
              · exact Nat.succ_pos room
              · obtain ⟨rfl, hlater⟩ := List.cons.inj hsplit
                simpa [hfires] using hplaces before other after hlater
          · obtain ⟨reached, rest, hjobs, hafter, hfired, hroom, hplaces⟩ :=
              ih (room + 1)
            refine ⟨job :: reached, rest, by rw [hjobs, List.cons_append], ?_, ?_,
              hroom, ?_⟩
            · simp [hafter]
            · simp [hfired, hfires]
            · rintro (_ | ⟨first, before⟩) other after hsplit
              · exact Nat.succ_pos room
              · obtain ⟨rfl, hlater⟩ := List.cons.inj hsplit
                simpa [hfires] using hplaces before other after hlater

end Scheduler
end Swfpm
