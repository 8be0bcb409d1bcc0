import Swfpm.Processing.CalibrationService

/-!
# Flow samples and the temperature they are paired with

Runs in which the calibration service publishes temperatures through
transactions and the flow service reads the published one.  A clock outside the
code keeps the real times: the code gives a published temperature no time of its
own, and the flow service measures its age from zero.
-/

namespace Swfpm

open SnapshotWrite

/-! ## The flow side -/

namespace FlowService

/-- What `acceptSample` does with its transaction: it writes one flow result,
or it makes no call. -/
theorem acceptSample_cases (self : FlowService) (tofUpPs tofDownPs : Int64)
    (metadata : ResultMetadata) (pairedTemperature : TemperatureResult)
    (txn : RepoWriteTxn) (repo : DataRepository) :
    ∃ status self' txn' repo',
      self.acceptSample tofUpPs tofDownPs metadata pairedTemperature txn repo =
        (status, self', txn', repo') ∧
      ((∃ result, (txn.txnWriteFlow repo result).2 = (txn', repo')) ∨
        txn' = txn ∧ repo' = repo) := by
  unfold acceptSample
  split
  · next profile cal _ _ =>
      split
      · exact ⟨_, _, _, _, rfl, .inr ⟨rfl, rfl⟩⟩
      · dsimp only
        split
        · next candidate _ =>
            rcases hwrite : txn.txnWriteFlow repo
                (resultOf metadata pairedTemperature profile cal candidate) with
              ⟨_ | _, txn', repo'⟩
            · exact ⟨_, _, _, _, rfl, .inl ⟨_, congrArg Prod.snd hwrite⟩⟩
            · exact ⟨_, _, _, _, rfl, .inl ⟨_, congrArg Prod.snd hwrite⟩⟩
        · exact ⟨_, _, _, _, rfl, .inr ⟨rfl, rfl⟩⟩
  · exact ⟨_, _, _, _, rfl, .inr ⟨rfl, rfl⟩⟩

theorem flowCompute_ne_stale (tofUpPs tofDownPs : Int64) (tempMdegC : Int32)
    (profile : FlowProfile) (cal : CalibrationRecord) :
    (flowCompute tofUpPs tofDownPs tempMdegC profile cal).1 ≠
      .temperatureStale := by
  unfold flowCompute
  dsimp only
  split
  · nofun
  · split
    · nofun
    · split
      · nofun
      · split
        · nofun
        · split <;> nofun

variable {self : FlowService} {profile : FlowProfile} {cal : CalibrationRecord}
  {metadata : ResultMetadata} {pairedTemperature : TemperatureResult}

/-- Only the age of the paired temperature makes a sample stale. -/
theorem acceptSample_stale_iff (hprofile : self.activeProfile = some profile)
    (hcal : self.activeCal = some cal) (tofUpPs tofDownPs : Int64)
    (txn : RepoWriteTxn) (repo : DataRepository) :
    (self.acceptSample tofUpPs tofDownPs metadata pairedTemperature txn
        repo).1 = .temperatureStale ↔
      checkTemperature metadata pairedTemperature =
        some .temperatureStale := by
  simp only [acceptSample, hprofile, hcal]
  cases hchecked : checkTemperature metadata pairedTemperature with
  | some status => simp
  | none =>
      have hcomputed := flowCompute_ne_stale tofUpPs tofDownPs
        pairedTemperature.temperatureMdegC profile cal
      simp only [reduceCtorEq, iff_false]
      split
      · next candidate _ =>
          rcases txn.txnWriteFlow repo
              (resultOf metadata pairedTemperature profile cal candidate) with
            ⟨_ | _, txn', repo'⟩ <;> nofun
      · next status candidate _ hstatus =>
          rw [hstatus] at hcomputed
          exact hcomputed

theorem acceptSample_of_unconfigured
    (hmissing : self.activeProfile = none ∨ self.activeCal = none)
    (tofUpPs tofDownPs : Int64) (txn : RepoWriteTxn) (repo : DataRepository) :
    (self.acceptSample tofUpPs tofDownPs metadata pairedTemperature txn
      repo).1 = .profileError := by
  unfold acceptSample
  split
  · next hprofile hcal =>
      rw [hprofile, hcal] at hmissing
      simp at hmissing
  · rfl

/-- The age of a published temperature is the time of the flow sample. -/
theorem checkTemperature_published
    (hpublished : pairedTemperature.metadata = publishedMetadata) :
    checkTemperature metadata pairedTemperature = some .temperatureStale ↔
      5000000 < metadata.sampleMonotonicUs := by
  have hage : (if metadata.sampleMonotonicUs > 0 then
      metadata.sampleMonotonicUs - 0 else 0 - metadata.sampleMonotonicUs) =
        metadata.sampleMonotonicUs := by
    split_ifs with hpositive
    · exact UInt64.sub_zero _
    · have hzero : metadata.sampleMonotonicUs = 0 :=
        UInt64.le_zero_iff.mp (UInt64.not_lt.mp hpositive)
      rw [hzero]
      rfl
  have hchecked : checkTemperature metadata pairedTemperature =
      if metadata.sampleMonotonicUs > 5000000 then some .temperatureStale
      else none := by
    simp only [checkTemperature, hpublished]
    exact congrArg
      (fun age : UInt64 => if age > 5000000 then
        some FlowProcessStatus.temperatureStale else none) hage
  rw [hchecked]
  split_ifs with hold
  · simp [hold]
  · simpa using hold

end FlowService

/-! ## Runs -/

structure PairingSystem where
  calibration : CalibrationService
  flow : FlowService
  memory : RepoWorld
  queue : AppEventQueue

/-- A profile or calibration that the configuration owner sets. -/
inductive ProfileChange where
  | temperatureProfile (profile : Option TemperatureProfile)
  | temperatureCalibration (cal : Option CalibrationRecord)
  | flowProfile (profile : FlowProfile)
  | flowCalibration (cal : CalibrationRecord)

namespace PairingSystem

variable (system : PairingSystem)

def init (objects : ℕ → RepoWriteTxn) (queue : AppEventQueue) : PairingSystem :=
  ⟨.init, .init, ⟨.init, objects⟩, queue⟩

def configure : ProfileChange → PairingSystem
  | .temperatureProfile profile =>
      { system with calibration := system.calibration.setProfile profile }
  | .temperatureCalibration cal =>
      { system with calibration := system.calibration.setCalibration cal }
  | .flowProfile profile =>
      { system with flow := system.flow.setProfile profile }
  | .flowCalibration cal =>
      { system with flow := system.flow.setCalibration cal }

/-- A call on object `t` that some service makes. -/
def transact (t : ℕ) (request : TxnCall) : Bool × PairingSystem :=
  let (succeeded, memory) := system.memory.call t request
  (succeeded, { system with memory })

def acceptRaw (t : ℕ) (raw : RawTemperature) (correlationId : UInt32) :
    TemperatureProcessStatus × PairingSystem :=
  let (status, calibration, txn, repo, queue) :=
    system.calibration.acceptRaw raw (system.memory.txns t) system.memory.repo
      system.queue correlationId
  (status,
    { system with calibration, queue, memory := system.memory.store t txn repo })

/-- The flow service with the temperature that readers see. -/
def acceptSample (t : ℕ) (tofUpPs tofDownPs : Int64)
    (metadata : ResultMetadata) : FlowProcessStatus × PairingSystem :=
  let (status, flow, txn, repo) :=
    system.flow.acceptSample tofUpPs tofDownPs metadata
      system.memory.repo.visible.temperature (system.memory.txns t)
      system.memory.repo
  (status, { system with flow, memory := system.memory.store t txn repo })

end PairingSystem

/-- The real time, that of the last temperature in the open transaction, and
that of the last published one. -/
structure SampleTimes where
  now : UInt64
  drafted : Option UInt64
  published : Option UInt64

namespace SampleTimes

variable (times : SampleTimes)

/-- What a call of a transaction does to the times. -/
def record (succeeded : Bool) : TxnCall → SampleTimes
  | .txnBegin => if succeeded then { times with drafted := none } else times
  | .commit =>
      if succeeded then
        { times with
          drafted := none
          published := times.drafted.or times.published }
      else times
  | _ => times

/-- A temperature that the calibration service has written is in the draft. -/
def sampled (status : TemperatureProcessStatus) : SampleTimes :=
  { times with
    drafted := if status = .ok then some times.now else times.drafted }

/-- The flow sample was taken within five seconds after the temperature that
was published last. -/
def Follows (metadata : ResultMetadata) : Prop :=
  ∃ sampled, times.published = some sampled ∧
    sampled ≤ metadata.sampleMonotonicUs ∧
    metadata.sampleMonotonicUs - sampled ≤ 5000000

end SampleTimes

/-- Only the calibration service writes temperatures. -/
def TxnCall.WritesTemperature : TxnCall → Prop
  | .write made => made.field = .temperature
  | _ => False

inductive PairingRun (objects : ℕ → RepoWriteTxn) :
    PairingSystem → SampleTimes → Prop where
  | start (queue : AppEventQueue) (now : UInt64) :
      PairingRun objects (.init objects queue) ⟨now, none, none⟩
  | wait {system : PairingSystem} {times : SampleTimes}
      (hrun : PairingRun objects system times) (later : UInt64)
      (hlater : times.now ≤ later) :
      PairingRun objects system { times with now := later }
  | configure {system : PairingSystem} {times : SampleTimes}
      (hrun : PairingRun objects system times) (change : ProfileChange) :
      PairingRun objects (system.configure change) times
  | events {system : PairingSystem} {times : SampleTimes}
      (hrun : PairingRun objects system times) (queue : AppEventQueue) :
      PairingRun objects { system with queue } times
  | transact {system : PairingSystem} {times : SampleTimes}
      (hrun : PairingRun objects system times) (t : ℕ) (request : TxnCall)
      (hrequest : ¬ request.WritesTemperature) :
      PairingRun objects (system.transact t request).2
        (times.record (system.transact t request).1 request)
  | acceptRaw {system : PairingSystem} {times : SampleTimes}
      (hrun : PairingRun objects system times) (t : ℕ) (raw : RawTemperature)
      (correlationId : UInt32) :
      PairingRun objects (system.acceptRaw t raw correlationId).2
        (times.sampled (system.acceptRaw t raw correlationId).1)
  | acceptSample {system : PairingSystem} {times : SampleTimes}
      (hrun : PairingRun objects system times) (t : ℕ)
      (tofUpPs tofDownPs : Int64) (metadata : ResultMetadata) :
      PairingRun objects
        (system.acceptSample t tofUpPs tofDownPs metadata).2 times

/-! ## The published temperature -/

/-- Once there is a sample, the temperature carries the published metadata. -/
def Carries (sampled : Option UInt64) (snapshot : RuntimeSnapshot) : Prop :=
  sampled.isSome → snapshot.temperature.metadata = publishedMetadata

structure Pairs (memory : RepoWorld) (history : CommitHistory)
    (times : SampleTimes) : Prop where
  atomic : Atomic memory history
  visible : Carries times.published memory.repo.visible
  draft : memory.repo.writerActive = true →
    Carries (times.drafted.or times.published)
      (storeAll history.writes memory.repo.visible)

section Preserved

variable {memory : RepoWorld} {history : CommitHistory} {times : SampleTimes}
  {t : ℕ}

/-- A call that commits nothing and begins nothing keeps both sides. -/
theorem Pairs.keep (hpairs : Pairs memory history times) {after : RepoWorld}
    (hatomic : Atomic after history)
    (hvisible : after.repo.visible = memory.repo.visible)
    (hwriter : after.repo.writerActive = true →
      memory.repo.writerActive = true) :
    Pairs after history times where
  atomic := hatomic
  visible := hvisible ▸ hpairs.visible
  draft hactive := hvisible ▸ hpairs.draft (hwriter hactive)

theorem Pairs.txnBegin (hpairs : Pairs memory history times) (t : ℕ) :
    Pairs (memory.call t .txnBegin).2
      (history.record (memory.call t .txnBegin).2 (memory.call t .txnBegin).1
        .txnBegin)
      (times.record (memory.call t .txnBegin).1 .txnBegin) := by
  have hatomic := hpairs.atomic.call t .txnBegin
  have hvisible := hpairs.atomic.visible_call t .txnBegin (by simp)
  cases hbegan : (memory.call t .txnBegin).1 with
  | true =>
      rw [hbegan] at hatomic
      refine ⟨hatomic, ?_, fun _ => ?_⟩
      · rw [hvisible]
        exact hpairs.visible
      · show Carries times.published (memory.call t .txnBegin).2.repo.visible
        rw [hvisible]
        exact hpairs.visible
  | false =>
      rw [hbegan] at hatomic
      refine hpairs.keep hatomic hvisible fun hactive => ?_
      by_contra hfree
      by_cases hidle : (memory.txns t).state = .active
      · exact hfree (hpairs.atomic.opened t hidle).writer
      · simp [RepoWorld.call, RepoWriteTxn.txnBegin, hidle, hfree] at hbegan

theorem Pairs.commit (hpairs : Pairs memory history times) (t : ℕ) :
    Pairs (memory.call t .commit).2
      (history.record (memory.call t .commit).2 (memory.call t .commit).1
        .commit)
      (times.record (memory.call t .commit).1 .commit) := by
  have hatomic := hpairs.atomic.call t .commit
  by_cases hactive : (memory.txns t).state = .active
  · have hopen := hpairs.atomic.opened t hactive
    have hcommitted := txnCommit_of_open hactive hopen
    simp only [RepoWorld.call, hcommitted] at hatomic ⊢
    refine ⟨hatomic, ?_, ?_⟩
    · show Carries (times.drafted.or times.published) (publish ..).visible
      rw [publish_visible]
      exact hpairs.draft hopen.writer
    · intro hwriter
      cases hwriter
  · have hcall : memory.call t .commit = (false,
        memory.store t { memory.txns t with state := .error } memory.repo) := by
      simp [RepoWorld.call, RepoWriteTxn.txnCommit, hactive]
    rw [hcall] at hatomic ⊢
    exact hpairs.keep hatomic rfl id

/-- A write that succeeds is in the draft; one that fails changes nothing. -/
theorem Pairs.write (hpairs : Pairs memory history times) (t : ℕ)
    (write : SnapshotWrite) {drafted : Option UInt64}
    (hwritten : (memory.call t (.write write)).1 = true →
      memory.repo.writerActive = true →
      Carries (drafted.or times.published)
        (write.store (storeAll history.writes memory.repo.visible)))
    (hfailed : (memory.call t (.write write)).1 = false →
      drafted = times.drafted) :
    Pairs (memory.call t (.write write)).2
      (history.record (memory.call t (.write write)).2
        (memory.call t (.write write)).1 (.write write))
      { times with drafted } := by
  have hatomic := hpairs.atomic.call t (.write write)
  have hvisible := hpairs.atomic.visible_call t (.write write) (by simp)
  by_cases hactive : (memory.txns t).state = .active
  · have hopen := hpairs.atomic.opened t hactive
    have hsucceeded : (memory.call t (.write write)).1 = true := by
      simp only [RepoWorld.call, run_eq, writeField_of_open hactive hopen]
    rw [hsucceeded] at hatomic ⊢
    refine ⟨hatomic, ?_, fun _ => ?_⟩
    · rw [hvisible]
      exact hpairs.visible
    · rw [hvisible]
      show Carries _ (storeAll (history.writes ++ [write]) _)
      rw [storeAll_concat]
      exact hwritten hsucceeded hopen.writer
  · have hcall : memory.call t (.write write) = (false,
        memory.store t { memory.txns t with state := .error } memory.repo) := by
      simp only [RepoWorld.call, run_eq, writeField_of_idle hactive]
    have hsame := hfailed (congrArg Prod.fst hcall)
    rw [hcall] at hatomic ⊢
    subst hsame
    exact hpairs.keep hatomic rfl id

theorem Pairs.txnAbort (hpairs : Pairs memory history times) (t : ℕ) :
    Pairs (memory.call t .txnAbort).2 history times := by
  refine hpairs.keep (hpairs.atomic.call t .txnAbort)
    (hpairs.atomic.visible_call t .txnAbort (by simp)) fun hactive => ?_
  by_contra hfree
  by_cases hidle : (memory.txns t).state = .active
  · exact hfree (hpairs.atomic.opened t hidle).writer
  · have hcall : (memory.call t .txnAbort).2 = memory := by
      simp [RepoWorld.call, RepoWriteTxn.txnAbort, hidle, RepoWorld.store]
    rw [hcall] at hactive
    exact hfree hactive

/-- The calls that the other services make. -/
theorem Pairs.transact (hpairs : Pairs memory history times) (t : ℕ)
    (request : TxnCall) (hrequest : ¬ request.WritesTemperature) :
    Pairs (memory.call t request).2
      (history.record (memory.call t request).2 (memory.call t request).1
        request)
      (times.record (memory.call t request).1 request) := by
  cases request with
  | txnInit => exact hpairs.keep (hpairs.atomic.call t .txnInit) rfl id
  | txnBegin => exact hpairs.txnBegin t
  | write write =>
      refine hpairs.write t write (fun _ hwriter hsampled => ?_) fun _ => rfl
      have hsame := store_sameField (storeAll history.writes memory.repo.visible)
        write (Ne.symm hrequest)
      exact (congrArg TemperatureResult.metadata hsame).trans
        (hpairs.draft hwriter hsampled)
  | readSnapshot => exact hpairs
  | commit => exact hpairs.commit t
  | txnAbort => exact hpairs.txnAbort t

/-- The calibration service writes a temperature with the published metadata. -/
theorem Pairs.writeTemperature (hpairs : Pairs memory history times) (t : ℕ)
    {result : TemperatureResult} (hresult : result.metadata = publishedMetadata)
    {status : TemperatureProcessStatus}
    (hstatus : status = .ok ↔
      (memory.call t (.write (.temperature result))).1 = true) :
    Pairs (memory.call t (.write (.temperature result))).2
      (history.record (memory.call t (.write (.temperature result))).2
        (memory.call t (.write (.temperature result))).1
        (.write (.temperature result)))
      (times.sampled status) := by
  refine hpairs.write t (.temperature result) (fun _ _ _ => hresult)
    fun hfailed => if_neg ?_
  rw [hstatus, hfailed]
  nofun

end Preserved

section Runs

variable {objects : ℕ → RepoWriteTxn} {system : PairingSystem}
  {times : SampleTimes}

theorem RepoWorld.store_same (memory : RepoWorld) (t : ℕ) :
    memory.store t (memory.txns t) memory.repo = memory := by
  simp [RepoWorld.store]

/-- The calibration service makes one temperature write or leaves the
repository alone. -/
theorem PairingSystem.acceptRaw_memory (t : ℕ) (raw : RawTemperature)
    (correlationId : UInt32) :
    (∃ result, result.metadata = publishedMetadata ∧
      (system.acceptRaw t raw correlationId).2.memory =
        (system.memory.call t (.write (.temperature result))).2 ∧
      ((system.acceptRaw t raw correlationId).1 = .ok ↔
        (system.memory.call t (.write (.temperature result))).1 = true)) ∨
    (system.acceptRaw t raw correlationId).1 ≠ .ok ∧
      (system.acceptRaw t raw correlationId).2.memory = system.memory := by
  obtain ⟨status, self', txn', repo', queue', haccept, hcases⟩ :=
    system.calibration.acceptRaw_cases raw (system.memory.txns t)
      system.memory.repo system.queue correlationId
  simp only [PairingSystem.acceptRaw, haccept]
  obtain ⟨result, hresult, hwrite, hstatus⟩ | ⟨hstatus, rfl, rfl⟩ := hcases
  · refine .inl ⟨result, hresult, ?_, hstatus⟩
    simp only [RepoWorld.call, SnapshotWrite.run, hwrite]
  · exact .inr ⟨hstatus, system.memory.store_same t⟩

/-- The flow service makes one flow write or leaves the repository alone. -/
theorem PairingSystem.acceptSample_memory (t : ℕ) (tofUpPs tofDownPs : Int64)
    (metadata : ResultMetadata) :
    (∃ result,
      (system.acceptSample t tofUpPs tofDownPs metadata).2.memory =
        (system.memory.call t (.write (.flow result))).2) ∨
    (system.acceptSample t tofUpPs tofDownPs metadata).2.memory =
      system.memory := by
  obtain ⟨status, self', txn', repo', haccept, hcases⟩ :=
    system.flow.acceptSample_cases tofUpPs tofDownPs metadata
      system.memory.repo.visible.temperature (system.memory.txns t)
      system.memory.repo
  simp only [PairingSystem.acceptSample, haccept]
  obtain ⟨result, hwrite⟩ | ⟨rfl, rfl⟩ := hcases
  · refine .inl ⟨result, ?_⟩
    simp only [RepoWorld.call, SnapshotWrite.run, hwrite]
  · exact .inr (system.memory.store_same t)

/-- Over every run, the repository holds what the last published sample left. -/
theorem PairingRun.pairs (hrun : PairingRun objects system times)
    (hidle : ∀ t, (objects t).state ≠ .active) :
    ∃ history, Pairs system.memory history times := by
  induction hrun with
  | start queue now => exact ⟨.empty, .start hidle, nofun, nofun⟩
  | wait _ later _ ih =>
      obtain ⟨history, hpairs⟩ := ih
      exact ⟨history, hpairs.atomic, hpairs.visible, hpairs.draft⟩
  | configure _ change ih =>
      cases change <;> exact ih
  | events _ queue ih => exact ih
  | transact _ t request hrequest ih =>
      obtain ⟨history, hpairs⟩ := ih
      exact ⟨_, hpairs.transact t request hrequest⟩
  | @acceptRaw system times _ t raw correlationId ih =>
      obtain ⟨history, hpairs⟩ := ih
      obtain ⟨result, hresult, hmemory, hstatus⟩ | ⟨hstatus, hmemory⟩ :=
        system.acceptRaw_memory t raw correlationId
      · rw [hmemory]
        exact ⟨_, hpairs.writeTemperature t hresult hstatus⟩
      · rw [hmemory, SampleTimes.sampled, if_neg hstatus]
        exact ⟨history, hpairs⟩
  | @acceptSample system times _ t tofUpPs tofDownPs metadata ih =>
      obtain ⟨history, hpairs⟩ := ih
      obtain ⟨result, hmemory⟩ | hmemory :=
        system.acceptSample_memory t tofUpPs tofDownPs metadata
      · rw [hmemory]
        exact ⟨_, hpairs.transact t (.write (.flow result)) nofun⟩
      · rw [hmemory]
        exact ⟨history, hpairs⟩

variable {metadata : ResultMetadata}

theorem PairingRun.published (hrun : PairingRun objects system times)
    (hidle : ∀ t, (objects t).state ≠ .active) (hfollows : times.Follows metadata) :
    system.memory.repo.visible.temperature.metadata = publishedMetadata := by
  obtain ⟨history, hpairs⟩ := hrun.pairs hidle
  obtain ⟨sampled, hpublished, -, -⟩ := hfollows
  exact hpairs.visible (by simp [hpublished])

/-- In every run, a flow sample that follows the published temperature within
five seconds is not stale exactly when the flow service is not configured, which
is another refusal, or the sample was taken in the first five seconds of the
clock. -/
theorem pairing_in_time_iff (hidle : ∀ t, (objects t).state ≠ .active)
    (hrun : PairingRun objects system times) (hfollows : times.Follows metadata)
    (t : ℕ) (tofUpPs tofDownPs : Int64) :
    (system.acceptSample t tofUpPs tofDownPs metadata).1 ≠ .temperatureStale ↔
      system.flow.activeProfile = none ∨ system.flow.activeCal = none ∨
        metadata.sampleMonotonicUs ≤ 5000000 := by
  have hpublished := hrun.published hidle hfollows
  show (system.flow.acceptSample ..).1 ≠ _ ↔ _
  cases hprofile : system.flow.activeProfile with
  | none =>
      rw [FlowService.acceptSample_of_unconfigured (.inl hprofile)]
      simp
  | some profile =>
      cases hcal : system.flow.activeCal with
      | none =>
          rw [FlowService.acceptSample_of_unconfigured (.inr hcal)]
          simp
      | some cal =>
          rw [ne_eq, FlowService.acceptSample_stale_iff hprofile hcal,
            FlowService.checkTemperature_published hpublished]
          simp

/-! ## A run at any uptime -/

/-- A platinum sensor of 1000 Ω, by its table of resistances. -/
def platinumProfile : TemperatureProfile :=
  { id := ⟨1, 1, 0, 1⟩, rtdR0 := 1000000, rtdTableSize := 4
    rtdTempTable := fun i => [0, 100000, 200000, 300000].getD i 0
    rtdResTable := fun i => [1000000, 1385000, 1778000, 2171000].getD i 0 }

def tenBitCalibration : CalibrationRecord := ⟨1, 1024, 0, 10⟩

def pipeProfile : FlowProfile := ⟨⟨1, 1, 0, 1⟩, 100000, 100000, 1480⟩

/-- Both services are configured, and a transaction is open. -/
def pairedStart : PairingSystem :=
  let system := PairingSystem.init (fun _ => .txnInit) (.init none)
  let system := system.configure (.temperatureProfile (some platinumProfile))
  let system := system.configure (.temperatureCalibration (some tenBitCalibration))
  let system := system.configure (.flowProfile pipeProfile)
  let system := system.configure (.flowCalibration tenBitCalibration)
  (system.transact 0 .txnBegin).2

/-- One temperature has been sampled and committed. -/
def pairedSystem : PairingSystem :=
  ((pairedStart.acceptRaw 0 ⟨1000, 0, 1000, 0⟩ 1).2.transact 0 .commit).2

theorem pairedStart_run (now : UInt64) :
    PairingRun (fun _ => .txnInit) pairedStart ⟨now, none, none⟩ := by
  have hstart : PairingRun (fun _ => .txnInit) _ _ := .start (.init none) now
  have htemperature := (hstart.configure
    (.temperatureProfile (some platinumProfile))).configure
      (.temperatureCalibration (some tenBitCalibration))
  have hflow := (htemperature.configure (.flowProfile pipeProfile)).configure
    (.flowCalibration tenBitCalibration)
  exact hflow.transact 0 .txnBegin nofun

theorem pairedSystem_run (now : UInt64) :
    PairingRun (fun _ => .txnInit) pairedSystem ⟨now, none, some now⟩ := by
  have hstatus : (pairedStart.acceptRaw 0 ⟨1000, 0, 1000, 0⟩ 1).1 = .ok := by
    decide +kernel
  have hcommit : ((pairedStart.acceptRaw 0 ⟨1000, 0, 1000, 0⟩ 1).2.transact 0
      .commit).1 = true := by
    decide +kernel
  have hsampled := (pairedStart_run now).acceptRaw 0 ⟨1000, 0, 1000, 0⟩ 1
  have hcommitted := hsampled.transact 0 .commit nofun
  rw [hstatus, hcommit] at hcommitted
  exact hcommitted

/-- A flow sample taken at `now`. -/
def sampleAtTime (now : UInt64) : ResultMetadata :=
  { ResultMetadata.cleared with sampleMonotonicUs := now }

theorem pairing_in_time_iff_boot :
    (pairedSystem.acceptSample 1 100000000 100000976
        (sampleAtTime 3000000)).1 ≠ .temperatureStale ↔
      pairedSystem.flow.activeProfile = none ∨
        pairedSystem.flow.activeCal = none ∨
        (sampleAtTime 3000000).sampleMonotonicUs ≤ 5000000 :=
  pairing_in_time_iff (fun _ => by decide) (pairedSystem_run 2000000)
    ⟨2000000, rfl, by decide, by decide⟩ 1 100000000 100000976

/-- A temperature published at ten seconds is stale half a second later. -/
theorem late_pair_is_stale :
    ¬ ∀ (objects : ℕ → RepoWriteTxn) (system : PairingSystem)
        (times : SampleTimes) (metadata : ResultMetadata) (t : ℕ)
        (tofUpPs tofDownPs : Int64), (∀ t, (objects t).state ≠ .active) →
      PairingRun objects system times → times.Follows metadata →
        (system.acceptSample t tofUpPs tofDownPs metadata).1 ≠
          .temperatureStale := by
  intro hclaim
  have hrun := pairedSystem_run 10000000
  refine hclaim _ _ _ (sampleAtTime 10500000) 1 100000000 100000976
    (fun _ => by decide) hrun ⟨10000000, rfl, by decide, by decide⟩ ?_
  decide +kernel

end Runs

end Swfpm
