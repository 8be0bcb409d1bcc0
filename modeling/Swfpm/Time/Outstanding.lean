import Swfpm.Time.Grid

/-!
# Outstanding due events

A due event is outstanding until its job is acknowledged.  The `pending` flag is
meant to keep a second event of the same job back; the skip policy clears the
flag with the event still outstanding, and so does a job scheduled anew.
-/

namespace Swfpm

/-- What the owner of a job is to match events by. -/
abbrev JobKey := UInt16 × UInt32

def SchedulerJob.key (job : SchedulerJob) : JobKey := (job.jobId, job.generation)

inductive JobRecord where
  | due (key : JobKey)
  | acknowledged (key : JobKey)
  deriving DecidableEq, Repr

/-- The last due event of the key is not acknowledged. -/
def Outstanding (log : List JobRecord) (key : JobKey) : Prop :=
  ∃ before after, log = before ++ .due key :: after ∧
    .acknowledged key ∉ after

/-- Between two due events of a key the job is acknowledged. -/
def OneOutstanding (log : List JobRecord) : Prop :=
  ∀ key before between after,
    log = before ++ .due key :: between ++ .due key :: after →
      .acknowledged key ∈ between

namespace Scheduler

/-- What the call adds to the log. -/
def record (scheduler : Scheduler) : SchedulerCall → List JobRecord
  | .dispatchDue nowUs clock maxEvents =>
      (scheduler.dispatchDue nowUs clock maxEvents).1.map fun event =>
        .due (event.correlationId.toUInt16, event.sourceGeneration)
  | .acknowledge jobId generation =>
      if (scheduler.acknowledge jobId generation).1 then
        [.acknowledged (jobId, generation)]
      else []
  | _ => []

def logFrom (scheduler : Scheduler) : List SchedulerCall → List JobRecord
  | [] => []
  | request :: calls =>
      scheduler.record request ++ logFrom (scheduler.call request) calls

/-- The due events and the acknowledgements of a run. -/
def log (calls : List SchedulerCall) : List JobRecord := logFrom init calls

end Scheduler

/-! ## The log -/

variable {log : List JobRecord} {key : JobKey}

theorem oneOutstanding_iff :
    OneOutstanding log ↔ ∀ key before after,
      log = before ++ .due key :: after → ¬ Outstanding before key := by
  constructor
  · rintro hone key _ after hlog ⟨before, between, rfl, hquiet⟩
    exact hquiet (hone key before between after hlog)
  · intro hone key before between after hlog
    by_contra hquiet
    exact hone key _ after hlog ⟨before, between, rfl, hquiet⟩

theorem OneOutstanding.of_append {later : List JobRecord}
    (hone : OneOutstanding (log ++ later)) : OneOutstanding log := by
  intro key before between after hlog
  apply hone key before between (after ++ later)
  rw [hlog]
  simp

theorem oneOutstanding_append {entry : JobRecord} :
    OneOutstanding (log ++ [entry]) ↔
      OneOutstanding log ∧ ∀ key, entry = .due key → ¬ Outstanding log key := by
  constructor
  · intro hone
    refine ⟨hone.of_append, ?_⟩
    rintro key rfl
    exact oneOutstanding_iff.mp hone key log [] rfl
  · rintro ⟨hone, hentry⟩
    rw [oneOutstanding_iff] at hone ⊢
    intro key before after hlog
    rcases List.eq_nil_or_concat after with rfl | ⟨after, last, rfl⟩
    · obtain ⟨rfl, hlast⟩ := List.append_inj' hlog rfl
      exact hentry key (List.singleton_inj.mp hlast)
    · apply hone key before after
      rw [List.concat_eq_append, ← List.cons_append, ← List.append_assoc] at hlog
      exact (List.append_inj' hlog rfl).1

theorem outstanding_append_due (log : List JobRecord) (other : JobKey) :
    Outstanding (log ++ [.due other]) key ↔
      key = other ∨ Outstanding log key := by
  constructor
  · rintro ⟨before, after, hlog, hquiet⟩
    rcases List.eq_nil_or_concat after with rfl | ⟨after, last, rfl⟩
    · obtain ⟨-, hlast⟩ := List.append_inj' hlog rfl
      exact .inl (JobRecord.due.inj (List.singleton_inj.mp hlast)).symm
    · right
      rw [List.concat_eq_append, ← List.cons_append, ← List.append_assoc] at hlog
      refine ⟨before, after, (List.append_inj' hlog rfl).1, fun hmem => hquiet ?_⟩
      rw [List.concat_eq_append]
      exact List.mem_append_left _ hmem
  · rintro (rfl | ⟨before, after, rfl, hquiet⟩)
    · exact ⟨log, [], rfl, List.not_mem_nil⟩
    · refine ⟨before, after ++ [.due other], by simp, ?_⟩
      simpa using hquiet

theorem outstanding_append_acknowledged (log : List JobRecord) (other : JobKey) :
    Outstanding (log ++ [.acknowledged other]) key ↔
      key ≠ other ∧ Outstanding log key := by
  constructor
  · rintro ⟨before, after, hlog, hquiet⟩
    rcases List.eq_nil_or_concat after with rfl | ⟨after, last, rfl⟩
    · obtain ⟨-, hlast⟩ := List.append_inj' hlog rfl
      exact absurd (List.singleton_inj.mp hlast) (by simp)
    · rw [List.concat_eq_append] at hquiet
      rw [List.concat_eq_append, ← List.cons_append, ← List.append_assoc] at hlog
      obtain ⟨hbefore, hlast⟩ := List.append_inj' hlog rfl
      obtain rfl := List.singleton_inj.mp hlast
      refine ⟨?_, before, after, hbefore, fun hmem =>
        hquiet (List.mem_append_left _ hmem)⟩
      rintro rfl
      exact hquiet (List.mem_append_right _ (List.mem_singleton_self _))
  · rintro ⟨hne, before, after, rfl, hquiet⟩
    refine ⟨before, after ++ [.acknowledged other], by simp, ?_⟩
    simpa [hne] using hquiet

theorem not_outstanding_nil : ¬ Outstanding [] key := by
  rintro ⟨before, after, hlog, -⟩
  simp at hlog

/-- Due events of different keys. -/
theorem outstanding_append_dues (log : List JobRecord) (dues : List JobKey) :
    Outstanding (log ++ dues.map .due) key ↔ key ∈ dues ∨ Outstanding log key := by
  induction dues using List.reverseRecOn with
  | nil => simp
  | append_singleton dues last ih =>
      rw [List.map_append, ← List.append_assoc]
      change Outstanding (_ ++ [.due last]) key ↔ _
      rw [outstanding_append_due, ih, List.mem_append, List.mem_singleton]
      tauto

theorem oneOutstanding_append_dues {dues : List JobKey} (hnodup : dues.Nodup)
    (hone : OneOutstanding log) (hfree : ∀ key ∈ dues, ¬ Outstanding log key) :
    OneOutstanding (log ++ dues.map .due) := by
  induction dues using List.reverseRecOn with
  | nil => simpa using hone
  | append_singleton dues last ih =>
      rw [List.map_append, ← List.append_assoc]
      change OneOutstanding (_ ++ [.due last])
      rw [List.nodup_append] at hnodup
      have hearlier : ∀ key ∈ dues, ¬ Outstanding log key := fun key hmem =>
        hfree key (List.mem_append_left _ hmem)
      rw [oneOutstanding_append]
      refine ⟨ih hnodup.1 hearlier, ?_⟩
      rintro key heq houtstanding
      obtain rfl := JobRecord.due.inj heq
      rcases (outstanding_append_dues log dues).mp houtstanding with hmem | hold
      · exact hnodup.2.2 _ hmem _ (List.mem_singleton_self _) rfl
      · exact hfree _ (by simp) hold

namespace Scheduler

/-! ## The calls that make a second event possible -/

/-- A dispatch with room for `maxEvents` events gets to the job. -/
def Reaches (scheduler : Scheduler) (nowUs : UInt64) (maxEvents : UInt8)
    (job : SchedulerJob) : Prop :=
  ∃ before after, scheduler.table = before ++ job :: after ∧
    (before.filter (·.Fires nowUs)).length < maxEvents.toNat

/-- The table takes a new job with the id. -/
def Admits (scheduler : Scheduler) (jobId : UInt16) : Prop :=
  scheduler.jobCount < schedulerMaxJobs ∧
    ∀ job ∈ scheduler.table, job.jobId ≠ jobId

/-- The call gives up an outstanding event: it skips the deadline of a pending
periodic job, or schedules anew a job whose event is outstanding. -/
def GivesUp (scheduler : Scheduler) (log : List JobRecord) :
    SchedulerCall → Prop
  | .dispatchDue nowUs _ maxEvents =>
      ∃ job, scheduler.Reaches nowUs maxEvents job ∧ job.Skips nowUs ∧
        job.periodUs ≠ 0
  | .scheduleOneShot jobId _ _ _ generation _ =>
      scheduler.Admits jobId ∧ Outstanding log (jobId, generation)
  | .schedulePeriodic jobId _ _ _ periodUs generation _ _ _ =>
      periodUs ≠ 0 ∧ scheduler.Admits jobId ∧
        Outstanding log (jobId, generation)
  | _ => False

/-- What holds of every run: a pending job's event is outstanding. -/
structure Flagged (log : List JobRecord) (scheduler : Scheduler) : Prop where
  count_le : scheduler.jobCount ≤ schedulerMaxJobs
  unique : UniqueIds scheduler.table
  pending : ∀ job ∈ scheduler.table, job.pending = true →
    Outstanding log job.key

/-- What holds as long as no event is given up: no second event is outstanding,
and the flag of a job with an outstanding event is set. -/
structure Held (log : List JobRecord) (scheduler : Scheduler) : Prop
    extends Flagged log scheduler where
  one : OneOutstanding log
  held : ∀ job ∈ scheduler.table, Outstanding log job.key → job.pending = true

/-! ## Steps -/

variable {scheduler : Scheduler}

theorem key_eq_of_mem (hunique : UniqueIds scheduler.table)
    {first second : SchedulerJob} (hfirst : first ∈ scheduler.table)
    (hsecond : second ∈ scheduler.table) (hkey : first.key = second.key) :
    first = second :=
  hunique.eq_of_mem hfirst hsecond (congrArg Prod.fst hkey)

/-- A dispatch logs the keys of the jobs that its sweep emits. -/
theorem record_dispatchDue (hcount : scheduler.jobCount ≤ schedulerMaxJobs)
    (nowUs : UInt64) (clock : ℕ → UInt64) (maxEvents : UInt8) :
    scheduler.record (.dispatchDue nowUs clock maxEvents) =
      ((sweep nowUs maxEvents.toNat scheduler.table).2.map
        SchedulerJob.key).map .due := by
  rw [record, (dispatchDue_sweep hcount nowUs clock maxEvents).1]
  generalize (sweep nowUs maxEvents.toNat scheduler.table).2 = fired
  generalize (0 : ℕ) = reading
  induction fired generalizing reading with
  | nil => rfl
  | cons job fired ih =>
      rw [dueEvents, List.map_cons, ih, List.map_cons, List.map_cons]
      simp [SchedulerJob.dueEvent, SchedulerJob.key]

theorem Flagged.schedules {added : SchedulerJob}
    {result : ScheduleResult × Scheduler} (hrun : Flagged log scheduler)
    (hresult : Schedules added scheduler result)
    (hquiet : added.pending = false) : Flagged log result.2 := by
  cases hresult with
  | rejected _ => exact hrun
  | added hnew hholds =>
      refine ⟨hholds.count_le, ?_, ?_⟩
      · rw [hholds.table_eq]
        exact hrun.unique.append_singleton hnew
      · intro job hmem hpending
        rw [hholds.table_eq] at hmem
        rcases List.mem_append.mp hmem with hmem | hmem
        · exact hrun.pending job hmem hpending
        · rw [List.mem_singleton.mp hmem, hquiet] at hpending
          exact absurd hpending Bool.false_ne_true

/-- Scheduling a job with no outstanding event keeps the flags right. -/
theorem Held.schedules {added : SchedulerJob}
    {result : ScheduleResult × Scheduler} (hrun : Held log scheduler)
    (hresult : Schedules added scheduler result)
    (hquiet : added.pending = false)
    (hfree : scheduler.Admits added.jobId → ¬ Outstanding log added.key) :
    Held log result.2 := by
  refine ⟨hrun.toFlagged.schedules hresult hquiet, hrun.one, ?_⟩
  cases hresult with
  | rejected _ => exact hrun.held
  | added hnew hholds =>
      have hadmits : scheduler.Admits added.jobId := by
        refine ⟨?_, hnew⟩
        have hlength := hholds.length
        have hcount := hholds.count_le
        rw [List.length_append, length_table, List.length_singleton] at hlength
        omega
      intro job hmem houtstanding
      rw [hholds.table_eq] at hmem
      rcases List.mem_append.mp hmem with hmem | hmem
      · exact hrun.held job hmem houtstanding
      · rw [List.mem_singleton.mp hmem] at houtstanding
        exact absurd houtstanding (hfree hadmits)

theorem Flagged.cancel (hrun : Flagged log scheduler) (jobId : UInt16)
    (generation : UInt32) :
    Flagged log (scheduler.cancel jobId generation).2 ∧
      ∀ job ∈ (scheduler.cancel jobId generation).2.table,
        job ∈ scheduler.table := by
  have hcancels := cancel_cancels hrun.count_le hrun.unique jobId generation
  generalize scheduler.cancel jobId generation = result at hcancels ⊢
  cases hcancels with
  | notFound _ => exact ⟨hrun, fun _ hmem => hmem⟩
  | @removed _ before after _ htable _ _ hholds =>
      have hsub : List.Sublist (before ++ after) scheduler.table := by
        rw [htable]
        exact List.Sublist.append_left (List.sublist_cons_self _ _) _
      rw [← hholds.table_eq] at hsub
      exact ⟨⟨hholds.count_le, hrun.unique.sublist (hsub.map _),
        fun job hmem => hrun.pending job (hsub.subset hmem)⟩,
        fun job hmem => hsub.subset hmem⟩

theorem Held.cancel (hrun : Held log scheduler) (jobId : UInt16)
    (generation : UInt32) : Held log (scheduler.cancel jobId generation).2 := by
  obtain ⟨hflagged, hsub⟩ := hrun.toFlagged.cancel jobId generation
  exact ⟨hflagged, hrun.one, fun job hmem => hrun.held job (hsub job hmem)⟩

/-- A job is pending or quiet as before, apart from the acknowledged one. -/
theorem Flagged.acknowledge (hrun : Flagged log scheduler) (jobId : UInt16)
    (generation : UInt32) :
    Flagged (log ++ scheduler.record (.acknowledge jobId generation))
        (scheduler.acknowledge jobId generation).2 ∧
      ∀ job ∈ (scheduler.acknowledge jobId generation).2.table,
        job ∈ scheduler.table ∨
          scheduler.record (.acknowledge jobId generation) =
            [.acknowledged job.key] := by
  rw [record]
  have hacknowledges :=
    acknowledge_acknowledges hrun.count_le hrun.unique jobId generation
  generalize scheduler.acknowledge jobId generation = result at hacknowledges ⊢
  cases hacknowledges with
  | refused _ =>
      simp only [Bool.false_eq_true, if_false, List.append_nil]
      exact ⟨hrun, fun job hmem => .inl hmem⟩
  | @cleared later before after job htable hid hgeneration hpending hholds =>
      simp only [if_true]
      have hkey : job.key = (jobId, generation) := Prod.ext hid hgeneration
      have hunique : UniqueIds (before ++ job :: after) := htable ▸ hrun.unique
      -- the other jobs have other ids
      have hothers : ∀ other ∈ before ++ after, other ∈ scheduler.table ∧
          other.key ≠ (jobId, generation) := by
        intro other hmem
        have htablemem : other ∈ before ++ job :: after := by
          simp only [List.mem_append, List.mem_cons] at hmem ⊢
          tauto
        refine ⟨htable ▸ htablemem, fun heq => ?_⟩
        rw [UniqueIds, List.map_append, List.map_cons,
          List.nodup_middle, List.nodup_cons, ← List.map_append] at hunique
        apply hunique.1
        have hother : other.jobId = jobId := congrArg Prod.fst heq
        rw [hid, ← hother]
        exact List.mem_map_of_mem hmem
      have hsplit : ∀ other ∈ later.table, other ∈ before ++ after ∨
          other = { job with pending := false } := by
        intro other hmem
        rw [hholds.table_eq] at hmem
        simp only [List.mem_append, List.mem_cons] at hmem ⊢
        tauto
      refine ⟨⟨hholds.count_le, ?_, ?_⟩, ?_⟩
      · rw [hholds.table_eq, UniqueIds]
        simpa [UniqueIds] using hunique
      · intro other hmem hset
        rcases hsplit other hmem with hmem | rfl
        · obtain ⟨htablemem, hne⟩ := hothers other hmem
          exact (outstanding_append_acknowledged log _).mpr
            ⟨hne, hrun.pending other htablemem hset⟩
        · exact absurd hset Bool.false_ne_true
      · intro other hmem
        rcases hsplit other hmem with hmem | rfl
        · exact .inl (hothers other hmem).1
        · exact .inr (by rw [← hkey]; rfl)

theorem Held.acknowledge (hrun : Held log scheduler) (jobId : UInt16)
    (generation : UInt32) :
    Held (log ++ scheduler.record (.acknowledge jobId generation))
      (scheduler.acknowledge jobId generation).2 := by
  obtain ⟨hflagged, hsplit⟩ := hrun.toFlagged.acknowledge jobId generation
  have hrecord : scheduler.record (.acknowledge jobId generation) = [] ∨
      scheduler.record (.acknowledge jobId generation) =
        [.acknowledged (jobId, generation)] := by
    rw [record]
    split_ifs
    · exact .inr rfl
    · exact .inl rfl
  refine ⟨hflagged, ?_, ?_⟩
  · rcases hrecord with hrecord | hrecord <;> rw [hrecord]
    · rw [List.append_nil]
      exact hrun.one
    · rw [oneOutstanding_append]
      refine ⟨hrun.one, fun key heq => ?_⟩
      simp at heq
  · intro job hmem houtstanding
    rcases hsplit job hmem with hold | hnew
    · refine hrun.held job hold ?_
      rcases hrecord with hrecord | hrecord
      · rwa [hrecord, List.append_nil] at houtstanding
      · rw [hrecord, outstanding_append_acknowledged] at houtstanding
        exact houtstanding.2
    · rw [hnew, outstanding_append_acknowledged] at houtstanding
      exact absurd rfl houtstanding.1

theorem Flagged.dispatchDue (hrun : Flagged log scheduler) (nowUs : UInt64)
    (clock : ℕ → UInt64) (maxEvents : UInt8) :
    Flagged (log ++ scheduler.record (.dispatchDue nowUs clock maxEvents))
      (scheduler.dispatchDue nowUs clock maxEvents).2 := by
  rw [record_dispatchDue hrun.count_le]
  have hholds := (dispatchDue_sweep hrun.count_le nowUs clock maxEvents).2
  obtain ⟨reached, rest, htable, hafter, hfired, -, -⟩ :=
    sweep_reaches nowUs maxEvents.toNat scheduler.table
  rw [hafter] at hholds
  rw [hfired]
  refine ⟨hholds.count_le, ?_, ?_⟩
  · rw [hholds.table_eq, ← hafter]
    exact hrun.unique.sweep nowUs _
  · intro later hmem hpending
    rw [outstanding_append_dues]
    rw [hholds.table_eq] at hmem
    rcases List.mem_append.mp hmem with hmem | hmem
    · obtain ⟨job, hjob, hpassed⟩ := List.mem_flatMap.mp hmem
      have hreached : job ∈ scheduler.table := by
        rw [htable]
        exact List.mem_append_left _ hjob
      rcases mem_passed hpassed with ⟨rfl, -⟩ | ⟨hfires | hskips, -, rfl⟩
      · exact .inr (hrun.pending later hreached hpending)
      · exact .inl (List.mem_map.mpr ⟨job,
          List.mem_filter.mpr ⟨hjob, decide_eq_true hfires⟩, rfl⟩)
      · change (!job.pending) = true at hpending
        rw [hskips.2.1] at hpending
        exact absurd hpending Bool.false_ne_true
    · refine .inr (hrun.pending later ?_ hpending)
      rw [htable]
      exact List.mem_append_right _ hmem

/-- A dispatch emits no second event while the flags are right. -/
theorem Held.one_dispatchDue (hrun : Held log scheduler) (nowUs : UInt64)
    (clock : ℕ → UInt64) (maxEvents : UInt8) :
    OneOutstanding
      (log ++ scheduler.record (.dispatchDue nowUs clock maxEvents)) := by
  rw [record_dispatchDue hrun.count_le]
  obtain ⟨reached, rest, htable, -, hfired, -, -⟩ :=
    sweep_reaches nowUs maxEvents.toNat scheduler.table
  rw [hfired]
  have hsub : (reached.filter (·.Fires nowUs)).Sublist scheduler.table := by
    rw [htable]
    exact List.filter_sublist.trans (List.sublist_append_left _ _)
  apply oneOutstanding_append_dues _ hrun.one
  · intro key hmem houtstanding
    obtain ⟨job, hjob, rfl⟩ := List.mem_map.mp hmem
    have hset := hrun.held job (hsub.subset hjob) houtstanding
    have hfires : job.Fires nowUs := of_decide_eq_true (List.mem_filter.mp hjob).2
    rw [hfires.2] at hset
    exact absurd hset Bool.false_ne_true
  · apply List.Nodup.of_map Prod.fst
    rw [List.map_map]
    exact hrun.unique.sublist (hsub.map _)

/-- A dispatch that skips no pending job keeps the flags right. -/
theorem Held.dispatchDue (hrun : Held log scheduler) {nowUs : UInt64}
    {clock : ℕ → UInt64} {maxEvents : UInt8}
    (hkeeps : ¬ scheduler.GivesUp log (.dispatchDue nowUs clock maxEvents)) :
    Held (log ++ scheduler.record (.dispatchDue nowUs clock maxEvents))
      (scheduler.dispatchDue nowUs clock maxEvents).2 := by
  refine ⟨hrun.toFlagged.dispatchDue nowUs clock maxEvents,
    hrun.one_dispatchDue nowUs clock maxEvents, ?_⟩
  have hholds := (dispatchDue_sweep hrun.count_le nowUs clock maxEvents).2
  obtain ⟨reached, rest, htable, hafter, hfired, -, hplaces⟩ :=
    sweep_reaches nowUs maxEvents.toNat scheduler.table
  rw [hafter] at hholds
  intro later hmem houtstanding
  rw [record_dispatchDue hrun.count_le, hfired, outstanding_append_dues]
    at houtstanding
  rw [hholds.table_eq] at hmem
  have hreached : ∀ job ∈ reached, job ∈ scheduler.table := by
    intro job hjob
    rw [htable]
    exact List.mem_append_left _ hjob
  -- a job that stays as it was is none of the emitted ones
  have hstays : later ∈ scheduler.table →
      later ∉ reached.filter (·.Fires nowUs) → later.pending = true := by
    intro htablemem hquiet
    rcases houtstanding with hfiredkey | hold
    · obtain ⟨job, hjob, hkey⟩ := List.mem_map.mp hfiredkey
      rw [key_eq_of_mem hrun.unique (hreached job (List.mem_of_mem_filter hjob))
        htablemem hkey] at hjob
      exact absurd hjob hquiet
    · exact hrun.held later htablemem hold
  rcases List.mem_append.mp hmem with hmem | hmem
  · obtain ⟨job, hjob, hpassed⟩ := List.mem_flatMap.mp hmem
    rcases mem_passed hpassed with ⟨rfl, hquiet, -⟩ |
      ⟨hfires | hskips, hperiod, rfl⟩
    · apply hstays (hreached later hjob)
      exact fun hmem => hquiet (of_decide_eq_true (List.mem_filter.mp hmem).2)
    · change (!job.pending) = true
      rw [hfires.2]
      rfl
    · obtain ⟨before, after, rfl⟩ := List.append_of_mem hjob
      refine absurd ⟨job, ⟨before, after ++ rest, ?_, ?_⟩, hskips, hperiod⟩
        hkeeps
      · rw [htable, List.append_assoc, List.cons_append]
      · exact hplaces before job after rfl
  · apply hstays
    · rw [htable]
      exact List.mem_append_right _ hmem
    · intro hfiredmem
      have hunique := hrun.unique
      rw [UniqueIds, htable, List.map_append, List.nodup_append] at hunique
      exact hunique.2.2 _
        (List.mem_map_of_mem (List.mem_of_mem_filter hfiredmem)) _
        (List.mem_map_of_mem hmem) rfl

/-! ## Whole runs -/

theorem logFrom_append (scheduler : Scheduler) (before later : List SchedulerCall) :
    logFrom scheduler (before ++ later) =
      logFrom scheduler before ++ logFrom (before.foldl call scheduler) later := by
  induction before generalizing scheduler with
  | nil => rfl
  | cons request before ih =>
      rw [List.cons_append, logFrom, logFrom, ih, List.append_assoc]
      rfl

theorem log_append_singleton (before : List SchedulerCall)
    (request : SchedulerCall) :
    Scheduler.log (before ++ [request]) =
      Scheduler.log before ++ (run before).record request := by
  rw [Scheduler.log, logFrom_append]
  simp [logFrom, Scheduler.log, run]

theorem run_append_singleton (before : List SchedulerCall)
    (request : SchedulerCall) :
    run (before ++ [request]) = (run before).call request := by
  rw [run_append]
  rfl

theorem init_held : Held [] init where
  count_le := Nat.zero_le _
  unique := List.nodup_nil
  pending _ hmem := absurd hmem List.not_mem_nil
  one _ _ _ _ hlog := by simp at hlog
  held _ hmem := absurd hmem List.not_mem_nil

theorem Flagged.call (hrun : Flagged log scheduler) (request : SchedulerCall) :
    Flagged (log ++ scheduler.record request) (scheduler.call request) := by
  cases request with
  | scheduleOneShot jobId ownerId eventId deadlineUs generation priority =>
      rw [show scheduler.record _ = [] from rfl, List.append_nil]
      exact hrun.schedules (scheduleOneShot_schedules hrun.count_le ..) rfl
  | schedulePeriodic jobId ownerId eventId anchorUs periodUs generation
      missPolicy priority nowUs =>
      rw [show scheduler.record _ = [] from rfl, List.append_nil]
      exact hrun.schedules (schedulePeriodic_schedules hrun.count_le ..) rfl
  | cancel jobId generation =>
      rw [show scheduler.record _ = [] from rfl, List.append_nil]
      exact (hrun.cancel jobId generation).1
  | acknowledge jobId generation => exact (hrun.acknowledge jobId generation).1
  | dispatchDue nowUs clock maxEvents =>
      exact hrun.dispatchDue nowUs clock maxEvents

theorem Held.call (hrun : Held log scheduler) {request : SchedulerCall}
    (hkeeps : ¬ scheduler.GivesUp log request) :
    Held (log ++ scheduler.record request) (scheduler.call request) := by
  cases request with
  | scheduleOneShot jobId ownerId eventId deadlineUs generation priority =>
      rw [show scheduler.record _ = [] from rfl, List.append_nil]
      exact hrun.schedules (scheduleOneShot_schedules hrun.count_le ..) rfl
        fun hadmits houtstanding => hkeeps ⟨hadmits, houtstanding⟩
  | schedulePeriodic jobId ownerId eventId anchorUs periodUs generation
      missPolicy priority nowUs =>
      rw [show scheduler.record _ = [] from rfl, List.append_nil]
      by_cases hperiod : periodUs = 0
      · rw [Scheduler.call, schedulePeriodic, if_pos hperiod]
        exact hrun
      · exact hrun.schedules (schedulePeriodic_schedules hrun.count_le ..) rfl
          fun hadmits houtstanding => hkeeps ⟨hperiod, hadmits, houtstanding⟩
  | cancel jobId generation =>
      rw [show scheduler.record _ = [] from rfl, List.append_nil]
      exact hrun.cancel jobId generation
  | acknowledge jobId generation => exact hrun.acknowledge jobId generation
  | dispatchDue nowUs clock maxEvents => exact hrun.dispatchDue hkeeps

theorem run_flagged (calls : List SchedulerCall) :
    Flagged (Scheduler.log calls) (run calls) := by
  induction calls using List.reverseRecOn with
  | nil => exact init_held.toFlagged
  | append_singleton before request ih =>
      rw [log_append_singleton, run_append_singleton]
      exact ih.call request

/-- No call of the run gives up an outstanding event. -/
def KeepsEvents (calls : List SchedulerCall) : Prop :=
  ∀ before request, before ++ [request] <+: calls →
    ¬ (run before).GivesUp (Scheduler.log before) request

theorem KeepsEvents.held {calls before : List SchedulerCall}
    (hkeeps : KeepsEvents calls) (hbefore : before <+: calls) :
    Held (Scheduler.log before) (run before) := by
  induction before using List.reverseRecOn with
  | nil => exact init_held
  | append_singleton before request ih =>
      rw [log_append_singleton, run_append_singleton]
      exact (ih ((List.prefix_append _ _).trans hbefore)).call
        (hkeeps before request hbefore)

/-- The dispatch at the last time of the clock, which finds every job due. -/
def lastDispatch : SchedulerCall :=
  .dispatchDue 0xFFFFFFFFFFFFFFFF (fun _ => 0xFFFFFFFFFFFFFFFF) 255

/-- The last dispatch emits every job that is not pending. -/
theorem due_of_lastDispatch (hcount : scheduler.jobCount ≤ schedulerMaxJobs)
    {job : SchedulerJob} (hmem : job ∈ scheduler.table)
    (hquiet : job.pending = false) :
    .due job.key ∈ scheduler.record lastDispatch := by
  rw [lastDispatch, record_dispatchDue hcount]
  obtain ⟨reached, rest, htable, -, hfired, hroom, -⟩ :=
    sweep_reaches 0xFFFFFFFFFFFFFFFF (255 : UInt8).toNat scheduler.table
  have hrest : rest = [] := by
    by_contra hne
    have hlength := hroom hne
    have hsub : (reached.filter (·.Fires 0xFFFFFFFFFFFFFFFF)).length ≤
        scheduler.table.length := by
      rw [htable]
      exact (List.filter_sublist.trans (List.sublist_append_left _ _)).length_le
    rw [hfired] at hlength
    rw [hlength, length_table] at hsub
    have := hsub.trans hcount
    revert this
    decide
  rw [hrest, List.append_nil] at htable
  rw [hfired]
  apply List.mem_map_of_mem
  apply List.mem_map_of_mem
  rw [← htable]
  refine List.mem_filter.mpr ⟨hmem, decide_eq_true ⟨?_, hquiet⟩⟩
  exact UInt64.le_iff_toNat_le.mpr (Nat.le_of_lt_succ job.deadlineUs.toNat_lt)

/-- A job that is not pending with its event outstanding emits a second one. -/
theorem second_of_quiet (hcount : scheduler.jobCount ≤ schedulerMaxJobs)
    {job : SchedulerJob} (hmem : job ∈ scheduler.table)
    (hquiet : job.pending = false) (houtstanding : Outstanding log job.key) :
    ¬ OneOutstanding (log ++ scheduler.record lastDispatch) := by
  intro hone
  have hdue := due_of_lastDispatch hcount hmem hquiet
  rw [lastDispatch, record_dispatchDue hcount] at hone hdue
  obtain ⟨key, hkey, heq⟩ := List.mem_map.mp hdue
  obtain rfl := JobRecord.due.inj heq
  obtain ⟨before, after, hsplit⟩ := List.append_of_mem hkey
  rw [hsplit, List.map_append, List.map_cons, ← List.append_assoc] at hone
  refine oneOutstanding_iff.mp hone _ _ _ rfl ?_
  exact (outstanding_append_dues log before).mpr (.inr houtstanding)

theorem Admits.findJob {jobId : UInt16} (hadmits : scheduler.Admits jobId) :
    scheduler.findJob jobId = none := by
  obtain ⟨hnone, -⟩ | ⟨before, job, after, htable, -, hid, -⟩ :=
    scheduler.findJob_cases jobId
  · exact hnone
  · exact absurd hid (hadmits.2 job (by simp [htable]))

theorem Admits.addJob {added : SchedulerJob}
    (hadmits : scheduler.Admits added.jobId) :
    added ∈ (scheduler.addJob added).table := by
  have hholds : (scheduler.addJob added).Holds (scheduler.table ++ [added]) :=
    Holds.addJob ⟨rfl, hadmits.1.le⟩ hadmits.1 added
  rw [hholds.table_eq]
  exact List.mem_append_right _ (List.mem_singleton_self _)

/-- A dispatch gets to the jobs that its sweep reaches. -/
theorem Reaches.mem_reached {nowUs : UInt64} {maxEvents : UInt8}
    {job : SchedulerJob} (hreaches : scheduler.Reaches nowUs maxEvents job)
    {reached rest : List SchedulerJob} (htable : scheduler.table = reached ++ rest)
    (hroom : rest ≠ [] →
      (reached.filter (·.Fires nowUs)).length = maxEvents.toNat) :
    job ∈ reached := by
  obtain ⟨before, after, hsplit, hfew⟩ := hreaches
  rw [htable] at hsplit
  rcases List.append_eq_append_iff.mp hsplit with
    ⟨more, hbefore, hrest⟩ | ⟨more, hreached, hjob⟩
  · have hlength := hroom (by simp [hrest])
    rw [hbefore, List.filter_append, List.length_append] at hfew
    omega
  · rcases more with _ | ⟨first, more⟩
    · rw [List.append_nil] at hreached
      rw [List.nil_append] at hjob
      have hlength := hroom (hjob ▸ List.cons_ne_nil _ _)
      rw [hreached] at hlength
      omega
    · obtain ⟨rfl, -⟩ := List.cons.inj hjob
      simp [hreached]

/-- A call that gives up an event leaves a job that is not pending with its
event outstanding. -/
theorem Flagged.quiet_of_givesUp (hrun : Flagged log scheduler)
    {request : SchedulerCall} (hgives : scheduler.GivesUp log request) :
    ∃ job ∈ (scheduler.call request).table, job.pending = false ∧
      Outstanding (log ++ scheduler.record request) job.key := by
  cases request with
  | scheduleOneShot jobId ownerId eventId deadlineUs generation priority =>
      obtain ⟨hadmits, houtstanding⟩ := hgives
      refine ⟨oneShotJob jobId ownerId eventId deadlineUs generation priority,
        ?_, rfl, ?_⟩
      · rw [Scheduler.call, scheduleOneShot, if_neg (not_le.mpr hadmits.1),
          if_neg (not_not.mpr hadmits.findJob)]
        exact Admits.addJob hadmits
      · rw [show scheduler.record _ = [] from rfl, List.append_nil]
        exact houtstanding
  | schedulePeriodic jobId ownerId eventId anchorUs periodUs generation
      missPolicy priority nowUs =>
      obtain ⟨hperiod, hadmits, houtstanding⟩ := hgives
      refine ⟨periodicJob jobId ownerId eventId anchorUs periodUs generation
        missPolicy priority nowUs, ?_, rfl, ?_⟩
      · rw [Scheduler.call, schedulePeriodic, if_neg hperiod,
          if_neg (not_le.mpr hadmits.1), if_neg (not_not.mpr hadmits.findJob)]
        exact Admits.addJob hadmits
      · rw [show scheduler.record _ = [] from rfl, List.append_nil]
        exact houtstanding
  | cancel jobId generation | acknowledge jobId generation => exact hgives.elim
  | dispatchDue nowUs clock maxEvents =>
      obtain ⟨job, hreaches, hskips, hperiod⟩ := hgives
      have hholds := (dispatchDue_sweep hrun.count_le nowUs clock maxEvents).2
      obtain ⟨reached, rest, htable, hafter, hfired, hroom, -⟩ :=
        sweep_reaches nowUs maxEvents.toNat scheduler.table
      rw [hfired] at hroom
      have hreached := hreaches.mem_reached htable hroom
      refine ⟨job.rescheduled nowUs (!job.pending), ?_, ?_, ?_⟩
      · rw [Scheduler.call, hholds.table_eq, hafter]
        refine List.mem_append_left _ (List.mem_flatMap.mpr ⟨job, hreached, ?_⟩)
        rw [SchedulerJob.passed, if_pos (Or.inr hskips), if_neg hperiod]
        exact List.mem_singleton_self _
      · change (!job.pending) = false
        rw [hskips.2.1]
        rfl
      · rw [record_dispatchDue hrun.count_le, outstanding_append_dues]
        refine .inr (hrun.pending job ?_ hskips.2.1)
        rw [htable]
        exact List.mem_append_left _ hreached

/-- No job has two due events outstanding, now and at a last dispatch after each
call, exactly when no call gives up an outstanding event. -/
theorem oneOutstanding_iff_keepsEvents (calls : List SchedulerCall) :
    (∀ before, before <+: calls →
        OneOutstanding (Scheduler.log before) ∧
          OneOutstanding (Scheduler.log (before ++ [lastDispatch]))) ↔
      KeepsEvents calls := by
  constructor
  · intro hone before request hearly hgives
    obtain ⟨job, hmem, hquiet, houtstanding⟩ :=
      (run_flagged before).quiet_of_givesUp hgives
    have hflagged := run_flagged (before ++ [request])
    rw [← run_append_singleton] at hmem
    rw [← log_append_singleton] at houtstanding
    apply second_of_quiet hflagged.count_le hmem hquiet houtstanding
    rw [← log_append_singleton]
    exact (hone _ hearly).2
  · intro hkeeps before hearly
    have hheld := hkeeps.held hearly
    refine ⟨hheld.one, ?_⟩
    rw [log_append_singleton]
    exact hheld.one_dispatchDue _ _ _

/-- A job of period 500 whose owner never acknowledges: the second dispatch skips
the deadline, the third emits again. -/
theorem skip_emits_twice :
    ¬ ∀ calls : List SchedulerCall, OneOutstanding (Scheduler.log calls) := by
  intro hall
  let calls : List SchedulerCall :=
    [.schedulePeriodic 2 1 .pressureSampleDue 1000 500 1 .skip .measurement 0,
      .dispatchDue 1000 (fun _ => 1000) 8, .dispatchDue 1500 (fun _ => 1500) 8,
      .dispatchDue 2000 (fun _ => 2000) 8]
  have hlog : Scheduler.log calls = [] ++ .due (2, 1) :: [] ++ .due (2, 1) :: [] := by
    decide
  exact List.not_mem_nil (hall calls (2, 1) [] [] [] hlog)

end Scheduler
end Swfpm
