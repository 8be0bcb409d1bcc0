import Swfpm.Repository.DataRepository

/-!
# Transactions as an atomic versioned store

Runs of transaction calls over any number of transaction objects, with a
history of what was written and committed.  The invariant `Atomic` says that
the active buffer holds the last commit, and that the one object that may
write works on a copy of it in the other buffer.
-/

namespace Swfpm

open SnapshotWrite

/-! ## Runs and their history -/

/-- The repository and all the transaction objects in memory. -/
structure RepoWorld where
  repo : DataRepository
  txns : ℕ → RepoWriteTxn

inductive TxnCall where
  | txnInit
  | txnBegin
  | write (write : SnapshotWrite)
  | readSnapshot
  | commit
  | txnAbort
  deriving DecidableEq, Repr

namespace RepoWorld

def store (world : RepoWorld) (t : ℕ) (txn : RepoWriteTxn)
    (repo : DataRepository) : RepoWorld :=
  ⟨repo, Function.update world.txns t txn⟩

/-- One call on object `t`, with its return value.  (`txn_init` and `txn_abort`
return nothing.) -/
def call (world : RepoWorld) (t : ℕ) : TxnCall → Bool × RepoWorld
  | .txnInit => (true, world.store t .txnInit world.repo)
  | .txnBegin =>
      let (began, txn, repo) := (world.txns t).txnBegin world.repo
      (began, world.store t txn repo)
  | .write write =>
      let (written, txn, repo) := write.run (world.txns t) world.repo
      (written, world.store t txn repo)
  | .readSnapshot =>
      (((world.txns t).txnReadSnapshot world.repo).isSome, world)
  | .commit =>
      let (committed, txn, repo) := (world.txns t).txnCommit world.repo
      (committed, world.store t txn repo)
  | .txnAbort =>
      let (txn, repo) := (world.txns t).txnAbort world.repo
      (true, world.store t txn repo)

/-- The object can put data into the snapshot under construction. -/
def CanWrite (world : RepoWorld) (t : ℕ) : Prop :=
  ∃ write : SnapshotWrite, (write.run (world.txns t) world.repo).1 = true

end RepoWorld

/-- A successful commit: the writes of its transaction since `txn_begin`, and
the snapshot that readers saw right after it. -/
structure Commit where
  writes : List SnapshotWrite
  snapshot : RuntimeSnapshot

/-- Commits newest first, and the successful writes of the transaction that
began last. -/
structure CommitHistory where
  commits : List Commit
  writes : List SnapshotWrite

namespace CommitHistory

def empty : CommitHistory := ⟨[], []⟩

/-- The snapshot of the last commit, or the initial one. -/
def latest : List Commit → RuntimeSnapshot
  | [] => .initial
  | commit :: _ => commit.snapshot

/-- What a call's return value adds to the history. -/
def record (history : CommitHistory) (after : RepoWorld) (succeeded : Bool) :
    TxnCall → CommitHistory
  | .txnBegin => if succeeded then { history with writes := [] } else history
  | .write write =>
      if succeeded then { history with writes := history.writes ++ [write] }
      else history
  | .commit =>
      if succeeded then
        { history with
          commits := ⟨history.writes, after.repo.visible⟩ :: history.commits }
      else history
  | _ => history

end CommitHistory

/-- Runs over a given initial memory of the transaction objects. -/
inductive RepoRun (objects : ℕ → RepoWriteTxn) :
    RepoWorld → CommitHistory → Prop where
  | start : RepoRun objects ⟨.init, objects⟩ .empty
  | call {world : RepoWorld} {history : CommitHistory}
      (hrun : RepoRun objects world history) (t : ℕ) (request : TxnCall) :
      RepoRun objects (world.call t request).2
        (history.record (world.call t request).2 (world.call t request).1
          request)

/-! ## The invariant -/

/-- The commit publishes its writes, and nothing else, on top of the previous
snapshot. -/
structure Commit.Extends (commit : Commit) (previous : RuntimeSnapshot) :
    Prop where
  snapshot : commit.snapshot =
    { storeAll commit.writes previous with
      snapshotVersion := previous.snapshotVersion + 1 }
  unchanged : ∀ field, field ≠ .snapshotVersion →
    (∀ write ∈ commit.writes, field ≠ write.field) →
      commit.snapshot.SameField previous field

/-- Every commit extends the one before it. -/
def CommitHistory.Linked : List Commit → Prop
  | [] => True
  | commit :: commits =>
      commit.Extends (CommitHistory.latest commits) ∧
        CommitHistory.Linked commits

/-- What holds of an object in the active state. -/
structure OpenTxn (repo : DataRepository) (writes : List SnapshotWrite)
    (txn : RepoWriteTxn) : Prop where
  bound : txn.repo = true
  writer : repo.writerActive = true
  index : repo.writeIndex = txn.inactiveIndex
  inactive : txn.inactiveIndex = otherBuffer repo.activeIndex
  generation : txn.baseGeneration = repo.snapshotVersion
  draft : repo.buffers txn.inactiveIndex = storeAll writes repo.visible

structure Atomic (world : RepoWorld) (history : CommitHistory) : Prop where
  opened : ∀ t, (world.txns t).state = .active →
    OpenTxn world.repo history.writes (world.txns t)
  single : ∀ t u, (world.txns t).state = .active →
    (world.txns u).state = .active → t = u
  visible : world.repo.visible = CommitHistory.latest history.commits
  version : world.repo.visible.snapshotVersion = world.repo.snapshotVersion
  count : world.repo.snapshotVersion = UInt64.ofNat history.commits.length
  linked : CommitHistory.Linked history.commits

/-! ## What every call preserves -/

section Preserved

variable {world : RepoWorld} {history : CommitHistory} {t : ℕ}
  {txn : RepoWriteTxn} {repo : DataRepository} {writes : List SnapshotWrite}

theorem OpenTxn.ownsWriter (hopen : OpenTxn repo writes txn) :
    txn.ownsWriter repo = true := by
  simp [RepoWriteTxn.ownsWriter, hopen.bound, hopen.writer, hopen.index]

/-- The buffer under construction is not the visible one. -/
theorem OpenTxn.inactive_ne (hopen : OpenTxn repo writes txn) :
    repo.activeIndex ≠ txn.inactiveIndex := by
  rw [hopen.inactive]
  exact (otherBuffer_ne _).symm

theorem store_txns_self : (world.store t txn repo).txns t = txn :=
  Function.update_self ..

theorem store_txns_of_ne {u : ℕ} (hne : u ≠ t) :
    (world.store t txn repo).txns u = world.txns u :=
  Function.update_of_ne hne ..

/-- Object `t` leaves the active state and readers see what they saw. -/
theorem Atomic.settle (hworld : Atomic world history)
    (hidle : txn.state ≠ .active)
    (hothers : ∀ u, u ≠ t → (world.txns u).state = .active →
      OpenTxn repo history.writes (world.txns u))
    (hvisible : repo.visible = world.repo.visible)
    (hversion : repo.snapshotVersion = world.repo.snapshotVersion) :
    Atomic (world.store t txn repo) history := by
  have hne : ∀ u, ((world.store t txn repo).txns u).state = .active →
      u ≠ t := by
    rintro u hactive rfl
    rw [store_txns_self] at hactive
    exact hidle hactive
  constructor
  case opened =>
    intro u hactive
    have hut := hne u hactive
    rw [store_txns_of_ne hut] at hactive ⊢
    exact hothers u hut hactive
  case single =>
    intro u v hu hv
    rw [store_txns_of_ne (hne u hu)] at hu
    rw [store_txns_of_ne (hne v hv)] at hv
    exact hworld.single u v hu hv
  case visible => exact hvisible.trans hworld.visible
  case version =>
    calc repo.visible.snapshotVersion
        = world.repo.visible.snapshotVersion := by rw [hvisible]
      _ = repo.snapshotVersion := by rw [hworld.version, hversion]
  case count => exact hversion.trans hworld.count
  case linked => exact hworld.linked

/-- Object `t` leaves the active state without touching the repository. -/
theorem Atomic.retire (hworld : Atomic world history)
    (hidle : txn.state ≠ .active) :
    Atomic (world.store t txn world.repo) history :=
  hworld.settle hidle (fun u _ => hworld.opened u) rfl rfl

/-- No object is active as long as the writer is free. -/
theorem Atomic.not_active (hworld : Atomic world history)
    (hfree : world.repo.writerActive = false) (u : ℕ) :
    (world.txns u).state ≠ .active := by
  intro hactive
  rw [(hworld.opened u hactive).writer] at hfree
  cases hfree

/-- While object `t` is active, no other is. -/
theorem Atomic.others (hworld : Atomic world history)
    (hactive : (world.txns t).state = .active) {u : ℕ} (hne : u ≠ t) :
    (world.txns u).state ≠ .active :=
  fun hother => hne (hworld.single u t hother hactive)

/-- Object `t` works on a draft while no other object is active. -/
theorem Atomic.draft (hworld : Atomic world history)
    (hothers : ∀ u, u ≠ t → (world.txns u).state ≠ .active)
    (hopen : OpenTxn repo writes txn)
    (hvisible : repo.visible = world.repo.visible)
    (hversion : repo.snapshotVersion = world.repo.snapshotVersion) :
    Atomic (world.store t txn repo) { history with writes } := by
  have htarget : ∀ u, ((world.store t txn repo).txns u).state = .active →
      u = t := by
    intro u hactive
    by_contra hne
    rw [store_txns_of_ne hne] at hactive
    exact hothers u hne hactive
  constructor
  case opened =>
    intro u hactive
    obtain rfl := htarget u hactive
    rw [store_txns_self]
    exact hopen
  case single =>
    intro u v hu hv
    rw [htarget u hu, htarget v hv]
  case visible => exact hvisible.trans hworld.visible
  case version =>
    calc repo.visible.snapshotVersion
        = world.repo.visible.snapshotVersion := by rw [hvisible]
      _ = repo.snapshotVersion := by rw [hworld.version, hversion]
  case count => exact hversion.trans hworld.count
  case linked => exact hworld.linked

/-! ## The calls -/

theorem txnBegin_of_free (hidle : txn.state ≠ .active)
    (hfree : repo.writerActive = false) :
    txn.txnBegin repo =
      (true,
        { repo := true, baseGeneration := repo.snapshotVersion
          writtenFieldsMask := 0, inactiveIndex := otherBuffer repo.activeIndex
          state := .active },
        { repo.setBuffer (otherBuffer repo.activeIndex) repo.visible with
          writeIndex := otherBuffer repo.activeIndex, writerActive := true }) :=
  if_neg (by simp [hidle, hfree])

theorem Atomic.txnBegin (hworld : Atomic world history) (t : ℕ) :
    Atomic (world.call t .txnBegin).2
      (history.record (world.call t .txnBegin).2 (world.call t .txnBegin).1
        .txnBegin) := by
  by_cases hrefused : (world.txns t).state = .active ∨
      world.repo.writerActive = true
  · have hcall : world.call t .txnBegin = (false, world) := by
      simp [RepoWorld.call, RepoWriteTxn.txnBegin, hrefused, RepoWorld.store]
    rw [hcall]
    exact hworld
  · obtain ⟨hidle, hbusy⟩ := not_or.mp hrefused
    have hfree := Bool.eq_false_iff.mpr hbusy
    have hvisible : (world.repo.setBuffer (otherBuffer world.repo.activeIndex)
        world.repo.visible).visible = world.repo.visible :=
      DataRepository.setBuffer_of_ne _ _ _ (otherBuffer_ne _).symm
    simp only [RepoWorld.call, txnBegin_of_free hidle hfree,
      CommitHistory.record, if_true]
    refine hworld.draft (fun u _ => hworld.not_active hfree u) ?_ hvisible rfl
    exact ⟨rfl, rfl, rfl, rfl, rfl,
      (DataRepository.setBuffer_self ..).trans hvisible.symm⟩

theorem writeField_of_open (hactive : txn.state = .active)
    (hopen : OpenTxn repo writes txn) (store : RuntimeSnapshot → RuntimeSnapshot)
    (maskBit : UInt32) :
    txn.writeField repo store maskBit =
      (true, { txn with writtenFieldsMask := txn.writtenFieldsMask ||| maskBit },
        repo.setBuffer txn.inactiveIndex
          (store (repo.buffers txn.inactiveIndex))) := by
  unfold RepoWriteTxn.writeField
  rw [if_neg (not_not.mpr hactive), if_neg (by simp [hopen.ownsWriter])]

theorem writeField_of_idle (hidle : txn.state ≠ .active)
    (store : RuntimeSnapshot → RuntimeSnapshot) (maskBit : UInt32) :
    txn.writeField repo store maskBit =
      (false, { txn with state := .error }, repo) :=
  if_pos hidle

theorem Atomic.write (hworld : Atomic world history) (t : ℕ)
    (write : SnapshotWrite) :
    Atomic (world.call t (.write write)).2
      (history.record (world.call t (.write write)).2
        (world.call t (.write write)).1 (.write write)) := by
  by_cases hactive : (world.txns t).state = .active
  · have hopen := hworld.opened t hactive
    simp only [RepoWorld.call, run_eq, writeField_of_open hactive hopen,
      CommitHistory.record, if_true]
    have hvisible : (world.repo.setBuffer (world.txns t).inactiveIndex
        (write.store (world.repo.buffers
          (world.txns t).inactiveIndex))).visible = world.repo.visible :=
      DataRepository.setBuffer_of_ne _ _ _ hopen.inactive_ne
    refine hworld.draft (fun u => hworld.others hactive) ?_ hvisible rfl
    refine ⟨hopen.bound, hopen.writer, hopen.index, hopen.inactive,
      hopen.generation, ?_⟩
    rw [hvisible, storeAll_concat, ← hopen.draft]
    exact DataRepository.setBuffer_self ..
  · simp only [RepoWorld.call, run_eq, writeField_of_idle hactive,
      CommitHistory.record, Bool.false_eq_true, if_false]
    exact hworld.retire nofun

/-- What a commit makes of the repository. -/
def publish (repo : DataRepository) (index : Fin 2)
    (snapshot : RuntimeSnapshot) : DataRepository :=
  { repo.setBuffer index
      { snapshot with snapshotVersion := repo.snapshotVersion + 1 } with
    snapshotVersion := repo.snapshotVersion + 1
    activeIndex := index
    writerActive := false }

theorem publish_visible (repo : DataRepository) (index : Fin 2)
    (snapshot : RuntimeSnapshot) :
    (publish repo index snapshot).visible =
      { snapshot with snapshotVersion := repo.snapshotVersion + 1 } :=
  DataRepository.setBuffer_self ..

theorem txnCommit_of_open (hactive : txn.state = .active)
    (hopen : OpenTxn repo writes txn) :
    txn.txnCommit repo =
      (true, { txn with state := .committed },
        publish repo txn.inactiveIndex (storeAll writes repo.visible)) := by
  unfold RepoWriteTxn.txnCommit
  rw [if_neg (not_not.mpr hactive),
    if_neg (by simp [hopen.ownsWriter, hopen.generation]), hopen.draft]
  rfl

theorem Commit.Extends.of_publish {repo : DataRepository}
    (hversion : repo.visible.snapshotVersion = repo.snapshotVersion)
    (writes : List SnapshotWrite) (index : Fin 2) :
    Commit.Extends
      ⟨writes, (publish repo index (storeAll writes repo.visible)).visible⟩
      repo.visible := by
  rw [publish_visible, ← hversion]
  refine ⟨rfl, fun field hfield hunwritten => ?_⟩
  have hsame := storeAll_sameField writes repo.visible hunwritten
  exact (RuntimeSnapshot.sameField_version _ _ hfield).trans hsame

theorem Atomic.commit (hworld : Atomic world history) (t : ℕ) :
    Atomic (world.call t .commit).2
      (history.record (world.call t .commit).2 (world.call t .commit).1
        .commit) := by
  by_cases hactive : (world.txns t).state = .active
  · have hopen := hworld.opened t hactive
    simp only [RepoWorld.call, txnCommit_of_open hactive hopen,
      CommitHistory.record, if_true]
    have hidle : ∀ u, ((world.store t
        { world.txns t with state := TxnState.committed }
        (publish world.repo (world.txns t).inactiveIndex
          (storeAll history.writes world.repo.visible))).txns u).state ≠
            .active := by
      intro u
      by_cases hne : u = t
      · subst hne
        rw [store_txns_self]
        exact nofun
      · rw [store_txns_of_ne hne]
        exact hworld.others hactive hne
    constructor
    case opened => exact fun u hu => absurd hu (hidle u)
    case single => exact fun u _ hu => absurd hu (hidle u)
    case visible => rfl
    case version => exact congrArg _ (publish_visible ..)
    case count =>
      calc world.repo.snapshotVersion + 1
          = UInt64.ofNat history.commits.length + 1 := by rw [hworld.count]
        _ = UInt64.ofNat (history.commits.length + 1) := by
            rw [UInt64.ofNat_add]
            rfl
    case linked =>
      refine ⟨?_, hworld.linked⟩
      rw [← hworld.visible]
      exact .of_publish hworld.version history.writes _
  · have hcall : world.call t .commit = (false,
        world.store t { world.txns t with state := .error } world.repo) := by
      simp [RepoWorld.call, RepoWriteTxn.txnCommit, hactive]
    rw [hcall]
    exact hworld.retire nofun

theorem Atomic.txnAbort (hworld : Atomic world history) (t : ℕ) :
    Atomic (world.call t .txnAbort).2 history := by
  by_cases hactive : (world.txns t).state = .active
  · have hopen := hworld.opened t hactive
    simp only [RepoWorld.call, RepoWriteTxn.txnAbort, hactive, ne_eq,
      not_true_eq_false, if_false, hopen.ownsWriter, if_true]
    exact hworld.settle nofun
      (fun u hne hother => absurd hother (hworld.others hactive hne)) rfl rfl
  · have hcall : (world.call t .txnAbort).2 = world := by
      simp [RepoWorld.call, RepoWriteTxn.txnAbort, hactive, RepoWorld.store]
    rw [hcall]
    exact hworld

/-- The step lemma: every call on every object keeps the invariant. -/
theorem Atomic.call (hworld : Atomic world history) (t : ℕ)
    (request : TxnCall) :
    Atomic (world.call t request).2
      (history.record (world.call t request).2 (world.call t request).1
        request) := by
  cases request with
  | txnInit => exact hworld.retire nofun
  | txnBegin => exact hworld.txnBegin t
  | write write => exact hworld.write t write
  | readSnapshot => exact hworld
  | commit => exact hworld.commit t
  | txnAbort => exact hworld.txnAbort t

/-- Only a successful commit changes what readers see. -/
theorem Atomic.visible_call (hworld : Atomic world history) (t : ℕ)
    (request : TxnCall)
    (hrequest : ¬ (request = .commit ∧ (world.call t request).1 = true)) :
    (world.call t request).2.repo.visible = world.repo.visible := by
  have hafter := (hworld.call t request).visible
  rw [hafter, hworld.visible]
  cases request with
  | commit =>
      have hfailed : (world.call t .commit).1 = false := by
        simpa using hrequest
      rw [CommitHistory.record, hfailed]
      rfl
  | txnBegin | write _ =>
      simp only [CommitHistory.record]
      split_ifs <;> rfl
  | txnInit | readSnapshot | txnAbort => rfl

theorem active_of_canWrite (hwrite : world.CanWrite t) :
    (world.txns t).state = .active := by
  obtain ⟨write, hwritten⟩ := hwrite
  by_contra hidle
  rw [run_eq, writeField_of_idle hidle] at hwritten
  cases hwritten

/-- What `txn_read_snapshot` shows: the draft to its owner, the last commit to
everyone else. -/
theorem Atomic.txnReadSnapshot (hworld : Atomic world history) (t : ℕ) :
    (world.txns t).txnReadSnapshot world.repo =
      if (world.txns t).repo = false then none
      else if (world.txns t).state = .active then
        some (storeAll history.writes world.repo.visible)
      else some world.repo.visible := by
  unfold RepoWriteTxn.txnReadSnapshot
  by_cases hactive : (world.txns t).state = .active
  · have hopen := hworld.opened t hactive
    simp [hactive, hopen.bound, hopen.ownsWriter, hopen.draft]
  · simp [hactive]

end Preserved

/-! ## Whole runs -/

theorem Atomic.start {objects : ℕ → RepoWriteTxn}
    (hidle : ∀ t, (objects t).state ≠ .active) :
    Atomic ⟨.init, objects⟩ .empty where
  opened t hactive := absurd hactive (hidle t)
  single t _ hactive := absurd hactive (hidle t)
  visible := rfl
  version := rfl
  count := rfl
  linked := trivial

theorem RepoRun.atomic {objects : ℕ → RepoWriteTxn} {world : RepoWorld}
    {history : CommitHistory} (hrun : RepoRun objects world history)
    (hidle : ∀ t, (objects t).state ≠ .active) : Atomic world history := by
  induction hrun with
  | start => exact .start hidle
  | call _ t request ih => exact ih.call t request

/-- Over every run, the repository is an atomic versioned store: one writer at
a time, readers see the last commit, its version counts the commits (modulo
`2 ^ 64`, the width of the counter), only a successful commit changes what
readers see, and a commit changes nothing but what its transaction wrote. -/
theorem repository_atomic {objects : ℕ → RepoWriteTxn}
    (hidle : ∀ t, (objects t).state ≠ .active) {world : RepoWorld}
    {history : CommitHistory} (hrun : RepoRun objects world history) :
    (∀ t u, world.CanWrite t → world.CanWrite u → t = u) ∧
      world.repo.visible = CommitHistory.latest history.commits ∧
      (∀ t request,
        ¬ (request = .commit ∧ (world.call t request).1 = true) →
          (world.call t request).2.repo.visible = world.repo.visible) ∧
      world.repo.visible.snapshotVersion =
        UInt64.ofNat history.commits.length ∧
      CommitHistory.Linked history.commits ∧
      ∀ t, (world.txns t).txnReadSnapshot world.repo =
        if (world.txns t).repo = false then none
        else if (world.txns t).state = .active then
          some (storeAll history.writes world.repo.visible)
        else some world.repo.visible := by
  have hworld := hrun.atomic hidle
  refine ⟨fun t u ht hu => ?_, hworld.visible, hworld.visible_call,
    hworld.version.trans hworld.count, hworld.linked, hworld.txnReadSnapshot⟩
  exact hworld.single t u (active_of_canWrite ht) (active_of_canWrite hu)

/-- Two objects, of which the second cannot begin before the first commits. -/
theorem repository_atomic_twoWriters :
    ∃ world history,
      RepoRun (fun _ => .txnInit) world history ∧
        world.repo.visible.snapshotVersion = 1 ∧
        world.repo.visible = CommitHistory.latest history.commits := by
  have hidle : RepoWriteTxn.txnInit.state ≠ .active := by decide
  have hstart : RepoRun (fun _ => .txnInit) _ _ := .start
  have hbegin := hstart.call 0 .txnBegin
  have hother := hbegin.call 1 .txnBegin
  have hwrite := hother.call 0 (.write (.power .cleared))
  have hcommit := hwrite.call 0 .commit
  refine ⟨_, _, hcommit, rfl, ?_⟩
  exact (repository_atomic (fun _ => hidle) hcommit).2.1

/-! ## Whole transactions -/

namespace DataRepository

/-- `txn_begin`, the writes and `txn_commit` on a fresh object. -/
def transact (repo : DataRepository) (writes : List SnapshotWrite) :
    Bool × DataRepository :=
  let (_, txn, repo) := RepoWriteTxn.txnInit.txnBegin repo
  let (txn, repo) :=
    writes.foldl (fun (txn, repo) write => (write.run txn repo).2) (txn, repo)
  let (committed, _, repo) := txn.txnCommit repo
  (committed, repo)

/-- The repository while a transaction holds `snapshot` as its draft. -/
def draft (repo : DataRepository) (snapshot : RuntimeSnapshot) :
    DataRepository :=
  { repo.setBuffer (otherBuffer repo.activeIndex) snapshot with
    writeIndex := otherBuffer repo.activeIndex, writerActive := true }

/-- The object of that transaction. -/
def opened (repo : DataRepository) (mask : UInt32) : RepoWriteTxn :=
  { repo := true, baseGeneration := repo.snapshotVersion
    writtenFieldsMask := mask, inactiveIndex := otherBuffer repo.activeIndex
    state := .active }

/-- The repository after the commit of `snapshot`. -/
def committed (repo : DataRepository) (snapshot : RuntimeSnapshot) :
    DataRepository :=
  publish { repo with writeIndex := otherBuffer repo.activeIndex }
    (otherBuffer repo.activeIndex) snapshot

variable (repo : DataRepository)

theorem opened_ownsWriter (snapshot : RuntimeSnapshot) (mask : UInt32) :
    (repo.opened mask).ownsWriter (repo.draft snapshot) = true := by
  simp [RepoWriteTxn.ownsWriter, opened, draft]

theorem draft_write (snapshot : RuntimeSnapshot) (mask : UInt32)
    (write : SnapshotWrite) :
    write.run (repo.opened mask) (repo.draft snapshot) =
      (true, repo.opened (mask ||| write.maskBit),
        repo.draft (write.store snapshot)) := by
  rw [run_eq, RepoWriteTxn.writeField, if_neg (by simp [opened]),
    if_neg (by simp [opened_ownsWriter])]
  simp [opened, draft, setBuffer]

theorem draft_writes (writes : List SnapshotWrite) (snapshot : RuntimeSnapshot)
    (mask : UInt32) :
    ∃ mask', writes.foldl (fun (txn, repo) write => (write.run txn repo).2)
        (repo.opened mask, repo.draft snapshot) =
      (repo.opened mask', repo.draft (storeAll writes snapshot)) := by
  induction writes generalizing snapshot mask with
  | nil => exact ⟨mask, rfl⟩
  | cons write writes ih =>
      obtain ⟨mask', hwrites⟩ :=
        ih (write.store snapshot) (mask ||| write.maskBit)
      refine ⟨mask', Eq.trans ?_ hwrites⟩
      exact congrArg (fun called => writes.foldl _ called.2)
        (repo.draft_write snapshot mask write)

theorem draft_commit (snapshot : RuntimeSnapshot) (mask : UInt32) :
    (repo.opened mask).txnCommit (repo.draft snapshot) =
      (true, { repo.opened mask with state := .committed },
        repo.committed snapshot) := by
  have hgeneration : (repo.draft snapshot).snapshotVersion =
      (repo.opened mask).baseGeneration := rfl
  rw [RepoWriteTxn.txnCommit, if_neg (by simp [opened]),
    if_neg (by simp [opened_ownsWriter, hgeneration])]
  simp [opened, draft, setBuffer, committed, publish]

theorem draft_abort (snapshot : RuntimeSnapshot) (mask : UInt32) :
    (repo.opened mask).txnAbort (repo.draft snapshot) =
      ({ repo.opened mask with writtenFieldsMask := 0, state := .aborted },
        { repo.draft snapshot with writerActive := false }) := by
  rw [RepoWriteTxn.txnAbort, if_neg (by simp [opened]),
    if_pos (repo.opened_ownsWriter snapshot mask)]

theorem draft_begin (hfree : repo.writerActive = false) :
    RepoWriteTxn.txnInit.txnBegin repo =
      (true, repo.opened 0, repo.draft repo.visible) :=
  txnBegin_of_free nofun hfree

/-- A transaction that finds the writer free commits its writes on top of what
readers see. -/
theorem transact_eq (hfree : repo.writerActive = false)
    (writes : List SnapshotWrite) :
    repo.transact writes =
      (true, repo.committed (storeAll writes repo.visible)) := by
  obtain ⟨mask, hwrites⟩ := repo.draft_writes writes repo.visible 0
  simp only [transact, draft_begin repo hfree, hwrites, draft_commit]

theorem committed_self (snapshot : RuntimeSnapshot) :
    (repo.committed snapshot).buffers (otherBuffer repo.activeIndex) =
      { snapshot with snapshotVersion := repo.snapshotVersion + 1 } :=
  setBuffer_self ..

theorem committed_active (snapshot : RuntimeSnapshot) :
    (repo.committed snapshot).buffers repo.activeIndex = repo.visible :=
  setBuffer_of_ne _ _ _ (otherBuffer_ne _).symm

theorem committed_visible (snapshot : RuntimeSnapshot) :
    (repo.committed snapshot).visible =
      { snapshot with snapshotVersion := repo.snapshotVersion + 1 } :=
  repo.committed_self snapshot

end DataRepository

end Swfpm
