import Swfpm.Domain.System

/-!
# The data repository and its write transactions

Embedding of `infrastructure/repositories/runtime_snapshot.h`,
`data_repository.{h,c}` and `repo_transaction.{h,c}`.  There is one repository,
so the pointer that a transaction keeps to it is a flag.  The two buffers are a
function of their index, and index `active ^ 1` is the other one.
-/

namespace Swfpm

structure RuntimeSnapshot where
  schemaVersion : UInt32
  snapshotVersion : UInt64
  publishMonotonicUs : UInt64
  publishWallTimeS : Int64
  publishTimeQuality : TimeQuality
  mode : SystemModeContext
  statuses : OrthogonalStatusSet
  temperature : TemperatureResult
  flow : FlowResult
  pressure : PressureResult
  volume : VolumeState
  leak : LeakDetectionResult
  power : PowerSnapshot
  activeConfigVersion : UInt32
  activeCalibrationVersion : UInt32
  diagnosticSummaryFlags : UInt32
  deriving DecidableEq, Repr

def RuntimeSnapshot.cleared : RuntimeSnapshot :=
  { schemaVersion := 0, snapshotVersion := 0, publishMonotonicUs := 0
    publishWallTimeS := 0, publishTimeQuality := .valid, mode := .cleared
    statuses := .cleared, temperature := .cleared, flow := .cleared
    pressure := .cleared, volume := .cleared, leak := .cleared
    power := .cleared, activeConfigVersion := 0, activeCalibrationVersion := 0
    diagnosticSummaryFlags := 0 }

/-- Both buffers after `data_repository_init`. -/
def RuntimeSnapshot.initial : RuntimeSnapshot :=
  { RuntimeSnapshot.cleared with schemaVersion := 1 }

/-- The members of a snapshot, in the order of the declaration. -/
inductive SnapshotField where
  | schemaVersion
  | snapshotVersion
  | publishMonotonicUs
  | publishWallTimeS
  | publishTimeQuality
  | mode
  | statuses
  | temperature
  | flow
  | pressure
  | volume
  | leak
  | power
  | activeConfigVersion
  | activeCalibrationVersion
  | diagnosticSummaryFlags
  deriving DecidableEq, Repr

/-- Two snapshots agree in one member. -/
def RuntimeSnapshot.SameField (a b : RuntimeSnapshot) : SnapshotField → Prop
  | .schemaVersion => a.schemaVersion = b.schemaVersion
  | .snapshotVersion => a.snapshotVersion = b.snapshotVersion
  | .publishMonotonicUs => a.publishMonotonicUs = b.publishMonotonicUs
  | .publishWallTimeS => a.publishWallTimeS = b.publishWallTimeS
  | .publishTimeQuality => a.publishTimeQuality = b.publishTimeQuality
  | .mode => a.mode = b.mode
  | .statuses => a.statuses = b.statuses
  | .temperature => a.temperature = b.temperature
  | .flow => a.flow = b.flow
  | .pressure => a.pressure = b.pressure
  | .volume => a.volume = b.volume
  | .leak => a.leak = b.leak
  | .power => a.power = b.power
  | .activeConfigVersion => a.activeConfigVersion = b.activeConfigVersion
  | .activeCalibrationVersion =>
      a.activeCalibrationVersion = b.activeCalibrationVersion
  | .diagnosticSummaryFlags =>
      a.diagnosticSummaryFlags = b.diagnosticSummaryFlags

theorem RuntimeSnapshot.eq_of_sameField {a b : RuntimeSnapshot}
    (h : ∀ field, a.SameField b field) : a = b := by
  cases a
  cases b
  simp only [RuntimeSnapshot.mk.injEq]
  exact ⟨h .schemaVersion, h .snapshotVersion, h .publishMonotonicUs,
    h .publishWallTimeS, h .publishTimeQuality, h .mode, h .statuses,
    h .temperature, h .flow, h .pressure, h .volume, h .leak, h .power,
    h .activeConfigVersion, h .activeCalibrationVersion,
    h .diagnosticSummaryFlags⟩

theorem RuntimeSnapshot.SameField.refl (a : RuntimeSnapshot)
    (field : SnapshotField) : a.SameField a field := by
  cases field <;> exact Eq.refl _

theorem RuntimeSnapshot.SameField.trans {a b c : RuntimeSnapshot}
    {field : SnapshotField} (hab : a.SameField b field)
    (hbc : b.SameField c field) : a.SameField c field := by
  cases field <;> exact Eq.trans hab hbc

theorem RuntimeSnapshot.sameField_version (a : RuntimeSnapshot)
    (version : UInt64) {field : SnapshotField} (hfield : field ≠ .snapshotVersion) :
    { a with snapshotVersion := version }.SameField a field := by
  cases field <;>
    first
    | exact Eq.refl _
    | exact absurd rfl hfield

/-! ## The repository -/

structure DataRepository where
  buffers : Fin 2 → RuntimeSnapshot
  activeIndex : Fin 2
  snapshotVersion : UInt64
  writeIndex : Fin 2
  writerActive : Bool
  deriving DecidableEq

/-- `index ^ 1`. -/
def otherBuffer : Fin 2 → Fin 2
  | 0 => 1
  | 1 => 0

theorem otherBuffer_ne (index : Fin 2) : otherBuffer index ≠ index := by
  revert index
  decide

theorem otherBuffer_otherBuffer (index : Fin 2) :
    otherBuffer (otherBuffer index) = index := by
  revert index
  decide

theorem eq_otherBuffer_of_ne {a b : Fin 2} (h : a ≠ b) : a = otherBuffer b := by
  revert a b
  decide

namespace DataRepository

def init : DataRepository :=
  { buffers := fun _ => .initial
    activeIndex := 0
    snapshotVersion := 0
    writeIndex := 0
    writerActive := false }

/-- The snapshot that readers see. -/
def visible (repo : DataRepository) : RuntimeSnapshot :=
  repo.buffers repo.activeIndex

def setBuffer (repo : DataRepository) (index : Fin 2)
    (snapshot : RuntimeSnapshot) : DataRepository :=
  { repo with buffers := Function.update repo.buffers index snapshot }

variable (repo : DataRepository) (index : Fin 2) (snapshot : RuntimeSnapshot)

@[simp]
theorem setBuffer_self : (repo.setBuffer index snapshot).buffers index =
    snapshot :=
  Function.update_self ..

theorem setBuffer_of_ne {other : Fin 2} (h : other ≠ index) :
    (repo.setBuffer index snapshot).buffers other = repo.buffers other :=
  Function.update_of_ne h ..

end DataRepository

/-! ## Write transactions -/

inductive TxnState where
  | init
  | active
  | committed
  | aborted
  | error
  deriving DecidableEq, Repr

structure RepoWriteTxn where
  /-- Whether the pointer to the repository is set. -/
  repo : Bool
  baseGeneration : UInt64
  writtenFieldsMask : UInt32
  inactiveIndex : Fin 2
  state : TxnState
  deriving DecidableEq, Repr

namespace RepoWriteTxn

def txnInit : RepoWriteTxn :=
  { repo := false, baseGeneration := 0, writtenFieldsMask := 0
    inactiveIndex := 0, state := .init }

variable (txn : RepoWriteTxn) (repo : DataRepository)

/-- The transaction holds the repository's writer. -/
def ownsWriter : Bool :=
  txn.repo && repo.writerActive && repo.writeIndex = txn.inactiveIndex

def txnBegin : Bool × RepoWriteTxn × DataRepository :=
  if txn.state = .active ∨ repo.writerActive = true then (false, txn, repo)
  else
    let inactiveIndex := otherBuffer repo.activeIndex
    (true,
      { repo := true
        baseGeneration := repo.snapshotVersion
        writtenFieldsMask := 0
        inactiveIndex
        state := .active },
      { repo.setBuffer inactiveIndex repo.visible with
        writeIndex := inactiveIndex, writerActive := true })

def txnCommit : Bool × RepoWriteTxn × DataRepository :=
  if txn.state ≠ .active then (false, { txn with state := .error }, repo)
  else if !txn.ownsWriter repo || repo.snapshotVersion ≠ txn.baseGeneration then
    (false, { txn with state := .error },
      if txn.ownsWriter repo then { repo with writerActive := false } else repo)
  else
    let snapshotVersion := repo.snapshotVersion + 1
    let published := repo.buffers txn.inactiveIndex
    (true, { txn with state := .committed },
      { repo.setBuffer txn.inactiveIndex { published with snapshotVersion } with
        snapshotVersion
        activeIndex := txn.inactiveIndex
        writerActive := false })

def txnAbort : RepoWriteTxn × DataRepository :=
  if txn.state ≠ .active then (txn, repo)
  else
    ({ txn with writtenFieldsMask := 0, state := .aborted },
      if txn.ownsWriter repo then { repo with writerActive := false } else repo)

def txnReadSnapshot : Option RuntimeSnapshot :=
  if !txn.repo then none
  else if txn.state = .active ∧ txn.ownsWriter repo then
    some (repo.buffers txn.inactiveIndex)
  else some repo.visible

/-- `store` puts the data at the offset of its field. -/
def writeField (store : RuntimeSnapshot → RuntimeSnapshot) (maskBit : UInt32) :
    Bool × RepoWriteTxn × DataRepository :=
  if txn.state ≠ .active then (false, { txn with state := .error }, repo)
  else if !txn.ownsWriter repo then (false, txn, repo)
  else
    (true, { txn with writtenFieldsMask := txn.writtenFieldsMask ||| maskBit },
      repo.setBuffer txn.inactiveIndex
        (store (repo.buffers txn.inactiveIndex)))

def flowBit : UInt32 := (1 : UInt32) <<< 0
def pressureBit : UInt32 := (1 : UInt32) <<< 1
def tempBit : UInt32 := (1 : UInt32) <<< 2
def volumeBit : UInt32 := (1 : UInt32) <<< 3
def leakBit : UInt32 := (1 : UInt32) <<< 4
def modeBit : UInt32 := (1 : UInt32) <<< 5
def powerBit : UInt32 := (1 : UInt32) <<< 6

def txnWriteFlow (flow : FlowResult) : Bool × RepoWriteTxn × DataRepository :=
  txn.writeField repo ({ · with flow }) flowBit

def txnWritePressure (pressure : PressureResult) :
    Bool × RepoWriteTxn × DataRepository :=
  txn.writeField repo ({ · with pressure }) pressureBit

def txnWriteTemperature (temperature : TemperatureResult) :
    Bool × RepoWriteTxn × DataRepository :=
  txn.writeField repo ({ · with temperature }) tempBit

def txnWriteVolume (volume : VolumeState) :
    Bool × RepoWriteTxn × DataRepository :=
  txn.writeField repo ({ · with volume }) volumeBit

def txnWriteLeak (leak : LeakDetectionResult) :
    Bool × RepoWriteTxn × DataRepository :=
  txn.writeField repo ({ · with leak }) leakBit

def txnWriteMode (mode : SystemModeContext) :
    Bool × RepoWriteTxn × DataRepository :=
  txn.writeField repo ({ · with mode }) modeBit

def txnWritePower (power : PowerSnapshot) :
    Bool × RepoWriteTxn × DataRepository :=
  txn.writeField repo ({ · with power }) powerBit

end RepoWriteTxn

/-! ## Any of the writes -/

inductive SnapshotWrite where
  | flow (result : FlowResult)
  | pressure (result : PressureResult)
  | temperature (result : TemperatureResult)
  | volume (state : VolumeState)
  | leak (result : LeakDetectionResult)
  | mode (context : SystemModeContext)
  | power (sample : PowerSnapshot)
  deriving DecidableEq, Repr

namespace SnapshotWrite

def run (txn : RepoWriteTxn) (repo : DataRepository) :
    SnapshotWrite → Bool × RepoWriteTxn × DataRepository
  | .flow result => txn.txnWriteFlow repo result
  | .pressure result => txn.txnWritePressure repo result
  | .temperature result => txn.txnWriteTemperature repo result
  | .volume state => txn.txnWriteVolume repo state
  | .leak result => txn.txnWriteLeak repo result
  | .mode context => txn.txnWriteMode repo context
  | .power sample => txn.txnWritePower repo sample

/-- The member that the write is for. -/
def field : SnapshotWrite → SnapshotField
  | .flow _ => .flow
  | .pressure _ => .pressure
  | .temperature _ => .temperature
  | .volume _ => .volume
  | .leak _ => .leak
  | .mode _ => .mode
  | .power _ => .power

def store (snapshot : RuntimeSnapshot) : SnapshotWrite → RuntimeSnapshot
  | .flow result => { snapshot with flow := result }
  | .pressure result => { snapshot with pressure := result }
  | .temperature result => { snapshot with temperature := result }
  | .volume state => { snapshot with volume := state }
  | .leak result => { snapshot with leak := result }
  | .mode context => { snapshot with mode := context }
  | .power sample => { snapshot with power := sample }

def maskBit : SnapshotWrite → UInt32
  | .flow _ => RepoWriteTxn.flowBit
  | .pressure _ => RepoWriteTxn.pressureBit
  | .temperature _ => RepoWriteTxn.tempBit
  | .volume _ => RepoWriteTxn.volumeBit
  | .leak _ => RepoWriteTxn.leakBit
  | .mode _ => RepoWriteTxn.modeBit
  | .power _ => RepoWriteTxn.powerBit

theorem run_eq (txn : RepoWriteTxn) (repo : DataRepository)
    (write : SnapshotWrite) :
    write.run txn repo =
      txn.writeField repo (fun snapshot => write.store snapshot)
        write.maskBit := by
  cases write <;> rfl

theorem store_sameField (snapshot : RuntimeSnapshot) (write : SnapshotWrite)
    {field : SnapshotField} (hfield : field ≠ write.field) :
    (write.store snapshot).SameField snapshot field := by
  cases write <;> cases field <;>
    first
    | exact Eq.refl _
    | exact absurd rfl hfield

/-- Writes in the order in which they were made. -/
def storeAll (writes : List SnapshotWrite) (snapshot : RuntimeSnapshot) :
    RuntimeSnapshot :=
  writes.foldl store snapshot

theorem storeAll_sameField (writes : List SnapshotWrite)
    (snapshot : RuntimeSnapshot) {field : SnapshotField}
    (hfield : ∀ write ∈ writes, field ≠ write.field) :
    (storeAll writes snapshot).SameField snapshot field := by
  induction writes generalizing snapshot with
  | nil => exact .refl _ _
  | cons write writes ih =>
      obtain ⟨hhead, htail⟩ := List.forall_mem_cons.mp hfield
      exact (ih _ htail).trans (store_sameField snapshot write hhead)

theorem storeAll_concat (writes : List SnapshotWrite) (write : SnapshotWrite)
    (snapshot : RuntimeSnapshot) :
    storeAll (writes ++ [write]) snapshot =
      write.store (storeAll writes snapshot) := by
  simp [storeAll, List.foldl_append]

@[simp]
theorem storeAll_snapshotVersion (writes : List SnapshotWrite)
    (snapshot : RuntimeSnapshot) :
    (storeAll writes snapshot).snapshotVersion = snapshot.snapshotVersion := by
  have hsame : (storeAll writes snapshot).SameField snapshot .snapshotVersion :=
    storeAll_sameField writes snapshot
      fun write _ => by cases write <;> exact nofun
  exact hsame

end SnapshotWrite

end Swfpm
