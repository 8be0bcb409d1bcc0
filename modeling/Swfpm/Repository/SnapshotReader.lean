import Swfpm.Repository.Transactions

/-!
# Snapshot copies beside writers

The steps of `data_repository_snapshot_copy`: one loads the active index, one
loads the version, one copies each member of the buffer in declared order, and
one loads the index again.  Whole transactions may run between any two steps.

The copied version is compared with the version loaded before the copy, never
with one loaded after it.  Two commits after the copy of `snapshot_version`
leave the index where it was and the comparison satisfied, so a member copied
after them belongs to another snapshot than the version.
-/

namespace Swfpm

open SnapshotWrite

/-! ## The steps of a copy -/

namespace SnapshotField

/-- Copy one member. -/
def copy (source target : RuntimeSnapshot) : SnapshotField → RuntimeSnapshot
  | .schemaVersion => { target with schemaVersion := source.schemaVersion }
  | .snapshotVersion => { target with snapshotVersion := source.snapshotVersion }
  | .publishMonotonicUs =>
      { target with publishMonotonicUs := source.publishMonotonicUs }
  | .publishWallTimeS =>
      { target with publishWallTimeS := source.publishWallTimeS }
  | .publishTimeQuality =>
      { target with publishTimeQuality := source.publishTimeQuality }
  | .mode => { target with mode := source.mode }
  | .statuses => { target with statuses := source.statuses }
  | .temperature => { target with temperature := source.temperature }
  | .flow => { target with flow := source.flow }
  | .pressure => { target with pressure := source.pressure }
  | .volume => { target with volume := source.volume }
  | .leak => { target with leak := source.leak }
  | .power => { target with power := source.power }
  | .activeConfigVersion =>
      { target with activeConfigVersion := source.activeConfigVersion }
  | .activeCalibrationVersion =>
      { target with activeCalibrationVersion := source.activeCalibrationVersion }
  | .diagnosticSummaryFlags =>
      { target with diagnosticSummaryFlags := source.diagnosticSummaryFlags }

theorem copy_self (source target : RuntimeSnapshot) (field : SnapshotField) :
    (field.copy source target).SameField source field := by
  cases field <;> exact Eq.refl _

theorem copy_of_ne (source target : RuntimeSnapshot)
    {field other : SnapshotField} (hne : other ≠ field) :
    (field.copy source target).SameField target other := by
  cases field <;> cases other <;>
    first
    | exact Eq.refl _
    | exact absurd rfl hne

/-- The members in the order in which they are copied. -/
def declared : List SnapshotField :=
  [.schemaVersion, .snapshotVersion, .publishMonotonicUs, .publishWallTimeS,
    .publishTimeQuality, .mode, .statuses, .temperature, .flow, .pressure,
    .volume, .leak, .power, .activeConfigVersion, .activeCalibrationVersion,
    .diagnosticSummaryFlags]

theorem mem_declared (field : SnapshotField) : field ∈ declared := by
  cases field <;> decide

theorem declared_nodup : declared.Nodup := by decide

/-- Only `schema_version` is copied before `snapshot_version`. -/
theorem eq_schemaVersion_of_notMem {remaining : List SnapshotField}
    (hsuffix : remaining <:+ declared) (hversion : .snapshotVersion ∈ remaining)
    {field : SnapshotField} (hfield : field ∉ remaining) :
    field = .schemaVersion := by
  have hmember : remaining ∈ declared.tails := (List.mem_tails ..).mpr hsuffix
  have hearly : ∀ tail ∈ declared.tails, .snapshotVersion ∈ tail →
      declared.tail <:+ tail := by decide
  have hcopied : field ∉ declared.tail := fun hmem =>
    hfield ((hearly remaining hmember hversion).mem hmem)
  cases field <;> first | rfl | exact absurd (by decide) hcopied

end SnapshotField

inductive CopyPhase where
  | loadIndex
  | loadVersion
  | copying (remaining : List SnapshotField)
  | returned (copied : Bool)
  deriving DecidableEq, Repr

structure SnapshotReader where
  attempt : ℕ
  before : Fin 2
  version : UInt64
  snapshotOut : RuntimeSnapshot
  phase : CopyPhase

namespace SnapshotReader

/-- The call, with whatever the caller's memory holds. -/
def start (snapshotOut : RuntimeSnapshot) : SnapshotReader :=
  ⟨0, ⟨0, Nat.two_pos⟩, 0, snapshotOut, .loadIndex⟩

def step (reader : SnapshotReader) (repo : DataRepository) : SnapshotReader :=
  match reader.phase with
  | .loadIndex =>
      { reader with before := repo.activeIndex, phase := .loadVersion }
  | .loadVersion =>
      { reader with
        version := (repo.buffers reader.before).snapshotVersion
        phase := .copying SnapshotField.declared }
  | .copying (field :: remaining) =>
      { reader with
        snapshotOut := field.copy (repo.buffers reader.before) reader.snapshotOut
        phase := .copying remaining }
  | .copying [] =>
      if reader.before = repo.activeIndex ∧
          reader.snapshotOut.snapshotVersion = reader.version then
        { reader with phase := .returned true }
      else if reader.attempt + 1 < 3 then
        { reader with attempt := reader.attempt + 1, phase := .loadIndex }
      else { reader with attempt := reader.attempt + 1, phase := .returned false }
  | .returned _ => reader

end SnapshotReader

/-- The call when nothing runs beside it. -/
def DataRepository.snapshotCopy (repo : DataRepository)
    (snapshotOut : RuntimeSnapshot) : Bool × RuntimeSnapshot :=
  let rec loop : ℕ → RuntimeSnapshot → Bool × RuntimeSnapshot
    | 0, snapshotOut => (false, snapshotOut)
    | attempts + 1, _ =>
        let before := repo.activeIndex
        let version := (repo.buffers before).snapshotVersion
        let snapshotOut := repo.buffers before
        let after := repo.activeIndex
        if before = after ∧ snapshotOut.snapshotVersion = version then
          (true, snapshotOut)
        else loop attempts snapshotOut
  loop 3 snapshotOut

@[simp]
theorem DataRepository.snapshotCopy_eq (repo : DataRepository)
    (snapshotOut : RuntimeSnapshot) :
    repo.snapshotCopy snapshotOut = (true, repo.visible) :=
  if_pos ⟨rfl, rfl⟩

namespace SnapshotReader

theorem copy_all (source : RuntimeSnapshot) (remaining : List SnapshotField)
    (target : RuntimeSnapshot) (field : SnapshotField)
    (hfield : field ∈ remaining ∨ target.SameField source field) :
    (remaining.foldl (fun target field => field.copy source target)
      target).SameField source field := by
  induction remaining generalizing target with
  | nil => simpa using hfield
  | cons head remaining ih =>
      refine ih _ ?_
      by_cases hhead : field = head
      · subst hhead
        exact .inr (field.copy_self source target)
      · rcases hfield with hmem | hsame
        · exact .inl (List.mem_of_ne_of_mem hhead hmem)
        · exact .inr ((SnapshotField.copy_of_ne source target hhead).trans hsame)

theorem steps_copying (repo : DataRepository) (attempt : ℕ) (before : Fin 2)
    (version : UInt64) (remaining : List SnapshotField)
    (snapshotOut : RuntimeSnapshot) :
    (fun reader => SnapshotReader.step reader repo)^[remaining.length]
        ⟨attempt, before, version, snapshotOut, .copying remaining⟩ =
      ⟨attempt, before, version,
        remaining.foldl (fun target field =>
          field.copy (repo.buffers before) target) snapshotOut,
        .copying []⟩ := by
  induction remaining generalizing snapshotOut with
  | nil => rfl
  | cons head remaining ih => exact ih _

/-- Left alone, the steps return what the call returns. -/
theorem steps_alone (repo : DataRepository) (snapshotOut : RuntimeSnapshot) :
    (fun reader => SnapshotReader.step reader repo)^[
        SnapshotField.declared.length + 3] (.start snapshotOut) =
      ⟨0, repo.activeIndex, repo.visible.snapshotVersion,
        (repo.snapshotCopy snapshotOut).2,
        .returned (repo.snapshotCopy snapshotOut).1⟩ := by
  have hall : SnapshotField.declared.foldl (fun target field =>
      field.copy (repo.buffers repo.activeIndex) target) snapshotOut =
        repo.visible :=
    RuntimeSnapshot.eq_of_sameField fun field =>
      copy_all _ _ _ field (.inl field.mem_declared)
  have hloaded : (fun reader => SnapshotReader.step reader repo)^[2]
      (.start snapshotOut) =
      ⟨0, repo.activeIndex, repo.visible.snapshotVersion, snapshotOut,
        .copying SnapshotField.declared⟩ := rfl
  have hcopied := steps_copying repo 0 repo.activeIndex
    repo.visible.snapshotVersion SnapshotField.declared snapshotOut
  rw [hall] at hcopied
  have hchecked : SnapshotReader.step
      ⟨0, repo.activeIndex, repo.visible.snapshotVersion, repo.visible,
        .copying []⟩ repo =
      ⟨0, repo.activeIndex, repo.visible.snapshotVersion, repo.visible,
        .returned true⟩ := if_pos ⟨rfl, rfl⟩
  rw [Function.iterate_succ_apply', Function.iterate_add_apply, hloaded,
    hcopied, hchecked, DataRepository.snapshotCopy_eq]

end SnapshotReader

/-! ## A reader beside writers -/

/-- With the snapshots that were ever visible, newest first. -/
structure CopyWorld where
  repo : DataRepository
  reader : SnapshotReader
  published : List RuntimeSnapshot

inductive CopyEvent where
  | read
  | transaction (writes : List SnapshotWrite)

namespace CopyWorld

def start (snapshotOut : RuntimeSnapshot) : CopyWorld :=
  ⟨.init, .start snapshotOut, [.initial]⟩

def step (world : CopyWorld) : CopyEvent → CopyWorld
  | .read => { world with reader := world.reader.step world.repo }
  | .transaction writes =>
      let (committed, repo) := world.repo.transact writes
      { world with
        repo
        published :=
          if committed then repo.visible :: world.published
          else world.published }

def run (world : CopyWorld) (events : List CopyEvent) : CopyWorld :=
  events.foldl step world

/-- The version is copied, the transaction writes the buffer under copy, and it
changes there a member that is still to be copied. -/
def Overwrites (world : CopyWorld) : CopyEvent → Prop
  | .read => False
  | .transaction writes =>
      ∃ remaining, world.reader.phase = .copying remaining ∧
        .snapshotVersion ∉ remaining ∧
        world.reader.before ≠ world.repo.activeIndex ∧
        ∃ field ∈ remaining, ¬ (storeAll writes world.repo.visible).SameField
          (world.repo.buffers world.reader.before) field

/-- No step of the run overwrites what is being copied. -/
def Undisturbed (world : CopyWorld) : List CopyEvent → Prop
  | [] => True
  | event :: events =>
      ¬ world.Overwrites event ∧ (world.step event).Undisturbed events

/-- The members copied so far and those still to be copied make up one
snapshot. -/
structure Joins (world : CopyWorld) (remaining : List SnapshotField)
    (snapshot : RuntimeSnapshot) : Prop where
  published : snapshot ∈ world.published
  copied : ∀ field ∉ remaining,
    world.reader.snapshotOut.SameField snapshot field
  pending : ∀ field ∈ remaining,
    (world.repo.buffers world.reader.before).SameField snapshot field

structure Steady (world : CopyWorld) : Prop where
  free : world.repo.writerActive = false
  buffers : ∀ index, world.repo.buffers index ∈ world.published
  schema : ∀ snapshot ∈ world.published, snapshot.schemaVersion = 1
  copying : ∀ remaining, world.reader.phase = .copying remaining →
    remaining <:+ SnapshotField.declared ∧ ∃ snapshot, world.Joins remaining snapshot
  returned : world.reader.phase = .returned true →
    world.reader.snapshotOut ∈ world.published

variable {world : CopyWorld}

theorem Steady.start (snapshotOut : RuntimeSnapshot) :
    Steady (.start snapshotOut) where
  free := rfl
  buffers _ := List.mem_singleton_self _
  schema _ hsnapshot := by
    obtain rfl := List.mem_singleton.mp hsnapshot
    rfl
  copying _ hphase := nomatch hphase
  returned hphase := nomatch hphase

/-- What the copied and the pending members make up when none is pending. -/
theorem Joins.eq {snapshot : RuntimeSnapshot} (hjoins : world.Joins [] snapshot) :
    world.reader.snapshotOut = snapshot :=
  RuntimeSnapshot.eq_of_sameField fun field =>
    hjoins.copied field List.not_mem_nil

theorem Joins.copy {field : SnapshotField} {remaining : List SnapshotField}
    {snapshot : RuntimeSnapshot}
    (hjoins : world.Joins (field :: remaining) snapshot)
    (hphase : world.reader.phase = .copying (field :: remaining))
    (hnew : field ∉ remaining) :
    (world.step .read).Joins remaining snapshot := by
  have hreader : world.reader.step world.repo =
      { world.reader with
        snapshotOut :=
          field.copy (world.repo.buffers world.reader.before)
            world.reader.snapshotOut
        phase := .copying remaining } := by
    simp only [SnapshotReader.step, hphase]
  constructor
  case published => exact hjoins.published
  case copied =>
    intro other hother
    simp only [step, hreader]
    by_cases hfield : other = field
    · subst hfield
      exact (other.copy_self _ _).trans (hjoins.pending other (.head _))
    · have hremaining : other ∉ field :: remaining := by
        simp [hfield, hother]
      exact (SnapshotField.copy_of_ne _ _ hfield).trans
        (hjoins.copied other hremaining)
  case pending =>
    intro other hother
    simp only [step, hreader]
    exact hjoins.pending other (.tail _ hother)

/-- A step of the reader leaves the repository as it is. -/
theorem Steady.advance (hworld : Steady world)
    (hcopying : ∀ remaining,
      (world.step .read).reader.phase = .copying remaining →
        remaining <:+ SnapshotField.declared ∧
          ∃ snapshot, (world.step .read).Joins remaining snapshot)
    (hreturned : (world.step .read).reader.phase = .returned true →
      (world.step .read).reader.snapshotOut ∈ world.published) :
    Steady (world.step .read) :=
  ⟨hworld.free, hworld.buffers, hworld.schema, hcopying, hreturned⟩

theorem Steady.read (hworld : Steady world) : Steady (world.step .read) := by
  cases hphase : world.reader.phase with
  | loadIndex =>
      exact hworld.advance (by simp [step, SnapshotReader.step, hphase])
        (by simp [step, SnapshotReader.step, hphase])
  | loadVersion =>
      refine hworld.advance (fun remaining hafter => ?_)
        (by simp [step, SnapshotReader.step, hphase])
      simp only [step, SnapshotReader.step, hphase, CopyPhase.copying.injEq]
        at hafter
      subst hafter
      refine ⟨List.suffix_rfl, world.repo.buffers world.reader.before, ?_⟩
      constructor
      case published => exact hworld.buffers _
      case copied => exact fun field hfield => absurd field.mem_declared hfield
      case pending =>
        intro field _
        simp only [step, SnapshotReader.step, hphase]
        exact .refl _ field
  | copying remaining =>
      obtain ⟨hsuffix, snapshot, hjoins⟩ := hworld.copying remaining hphase
      cases remaining with
      | nil =>
          have hcopied : world.reader.snapshotOut ∈ world.published :=
            hjoins.eq ▸ hjoins.published
          refine hworld.advance ?_ ?_ <;>
            simp only [step, SnapshotReader.step, hphase] <;>
            split_ifs <;> simp [hcopied]
      | cons field remaining =>
          have hafter : (world.step .read).reader.phase = .copying remaining := by
            simp only [step, SnapshotReader.step, hphase]
          have hnew : field ∉ remaining :=
            (List.nodup_cons.mp
              (SnapshotField.declared_nodup.sublist hsuffix.sublist)).1
          refine hworld.advance (fun others hothers => ?_)
            (fun hreturned => by simp [hafter] at hreturned)
          obtain rfl : remaining = others := by simpa [hafter] using hothers
          exact ⟨(List.suffix_cons field remaining).trans hsuffix, snapshot,
            hjoins.copy hphase hnew⟩
  | returned copied =>
      refine hworld.advance (by simp [step, SnapshotReader.step, hphase]) ?_
      intro hreturned
      simp only [step, SnapshotReader.step, hphase] at hreturned ⊢
      exact hworld.returned (hphase.trans hreturned)

theorem step_transaction (hfree : world.repo.writerActive = false)
    (writes : List SnapshotWrite) :
    world.step (.transaction writes) =
      { world with
        repo := world.repo.committed (storeAll writes world.repo.visible)
        published :=
          (world.repo.committed (storeAll writes world.repo.visible)).visible ::
            world.published } := by
  simp only [step, DataRepository.transact_eq world.repo hfree, if_true]

/-- A transaction that writes the buffer under copy joins a new snapshot to the
members copied so far. -/
theorem Joins.restart {remaining : List SnapshotField}
    {snapshot after : RuntimeSnapshot} {repo : DataRepository}
    {published : List RuntimeSnapshot}
    (hjoins : world.Joins remaining snapshot)
    (hsuffix : remaining <:+ SnapshotField.declared)
    (hversion : .snapshotVersion ∈ remaining)
    (hbuffer : repo.buffers world.reader.before = after)
    (hschema : snapshot.schemaVersion = after.schemaVersion)
    (hafter : after ∈ published) :
    Joins ⟨repo, world.reader, published⟩ remaining after := by
  constructor
  case published => exact hafter
  case copied =>
    intro field hfield
    obtain rfl :=
      SnapshotField.eq_schemaVersion_of_notMem hsuffix hversion hfield
    exact Eq.trans (hjoins.copied _ hfield) hschema
  case pending =>
    intro field _
    rw [hbuffer]
    exact .refl _ field

/-- A transaction that changes no pending member keeps what is joined. -/
theorem Joins.keep {remaining : List SnapshotField}
    {snapshot : RuntimeSnapshot} {repo : DataRepository}
    {published : List RuntimeSnapshot}
    (hjoins : world.Joins remaining snapshot)
    (hbuffer : ∀ field ∈ remaining, (repo.buffers world.reader.before).SameField
      (world.repo.buffers world.reader.before) field)
    (hpublished : world.published ⊆ published) :
    Joins ⟨repo, world.reader, published⟩ remaining snapshot where
  published := hpublished hjoins.published
  copied := hjoins.copied
  pending field hfield :=
    (hbuffer field hfield).trans (hjoins.pending field hfield)

theorem Steady.transaction (hworld : Steady world)
    {writes : List SnapshotWrite}
    (hquiet : ¬ world.Overwrites (.transaction writes)) :
    Steady (world.step (.transaction writes)) := by
  rw [step_transaction hworld.free]
  set draft := storeAll writes world.repo.visible
  set after := (world.repo.committed draft).visible with hafter
  have hactive := world.repo.committed_active draft
  have hother := world.repo.committed_self draft
  rw [← world.repo.committed_visible, ← hafter] at hother
  have hschema : after.schemaVersion = 1 := by
    have hkept : draft.SameField world.repo.visible .schemaVersion :=
      storeAll_sameField writes world.repo.visible
        fun write _ => by cases write <;> exact nofun
    rw [hafter, world.repo.committed_visible]
    exact Eq.trans hkept (hworld.schema _ (hworld.buffers _))
  constructor
  case free => rfl
  case buffers =>
    intro index
    by_cases hindex : index = world.repo.activeIndex
    · subst hindex
      exact hactive ▸ .tail _ (hworld.buffers _)
    · rw [eq_otherBuffer_of_ne hindex, hother]
      exact .head _
  case schema =>
    rintro snapshot (_ | ⟨_, hold⟩)
    · exact hschema
    · exact hworld.schema snapshot hold
  case copying =>
    intro remaining hphase
    obtain ⟨hsuffix, snapshot, hjoins⟩ := hworld.copying remaining hphase
    refine ⟨hsuffix, ?_⟩
    by_cases hbuffer : world.reader.before = world.repo.activeIndex
    · refine ⟨snapshot, hjoins.keep (fun field _ => ?_)
        (List.subset_cons_self _ _)⟩
      rw [hbuffer, hactive]
      exact .refl _ field
    · have htarget : (world.repo.committed draft).buffers
          world.reader.before = after := by
        rw [eq_otherBuffer_of_ne hbuffer, hother]
      by_cases hversion : .snapshotVersion ∈ remaining
      · have hsame : snapshot.schemaVersion = after.schemaVersion :=
          (hworld.schema snapshot hjoins.published).trans hschema.symm
        exact ⟨after,
          hjoins.restart hsuffix hversion htarget hsame (.head _)⟩
      · refine ⟨snapshot, hjoins.keep (fun field hfield => ?_)
          (List.subset_cons_self _ _)⟩
        have hkept : draft.SameField
            (world.repo.buffers world.reader.before) field := by
          by_contra hchanged
          exact hquiet ⟨remaining, hphase, hversion, hbuffer, field, hfield,
            hchanged⟩
        have hfieldVersion : field ≠ .snapshotVersion := by
          rintro rfl
          exact hversion hfield
        rw [htarget, hafter, world.repo.committed_visible]
        exact (RuntimeSnapshot.sameField_version _ _ hfieldVersion).trans hkept
  case returned => exact fun hphase => .tail _ (hworld.returned hphase)

theorem Steady.run (hworld : Steady world) {events : List CopyEvent}
    (hquiet : world.Undisturbed events) : Steady (world.run events) := by
  induction events generalizing world with
  | nil => exact hworld
  | cons event events ih =>
      obtain ⟨hstep, hrest⟩ := hquiet
      refine ih ?_ hrest
      cases event with
      | read => exact hworld.read
      | transaction writes => exact hworld.transaction hstep

theorem undisturbed_reads (world : CopyWorld) (n : ℕ)
    (events : List CopyEvent) :
    world.Undisturbed (List.replicate n .read ++ events) ↔
      (world.run (List.replicate n .read)).Undisturbed events := by
  induction n generalizing world with
  | zero => rfl
  | succ n ih =>
      rw [List.replicate_succ, List.cons_append, Undisturbed, ih]
      exact and_iff_right id

end CopyWorld

/-- As long as no transaction overwrites what is being copied, a copy that
succeeds is one snapshot that readers could see. -/
theorem snapshotCopy_not_torn (snapshotOut : RuntimeSnapshot)
    {events : List CopyEvent}
    (hquiet : (CopyWorld.start snapshotOut).Undisturbed events)
    (hreturned : ((CopyWorld.start snapshotOut).run events).reader.phase =
      .returned true) :
    ((CopyWorld.start snapshotOut).run events).reader.snapshotOut ∈
      ((CopyWorld.start snapshotOut).run events).published :=
  ((CopyWorld.Steady.start snapshotOut).run hquiet).returned hreturned

/-- A commit in the middle of the first attempt, into the buffer that is not
under copy: the second attempt returns what it published. -/
theorem snapshotCopy_not_torn_retry :
    ∃ events, ((CopyWorld.start .cleared).run events).reader.phase =
        .returned true ∧
      ((CopyWorld.start .cleared).run events).reader.snapshotOut ∈
        ((CopyWorld.start .cleared).run events).published := by
  let events : List CopyEvent :=
    List.replicate 4 .read ++ .transaction [.power .cleared] ::
      List.replicate 34 .read
  have hreturned : ((CopyWorld.start .cleared).run events).reader.phase =
      .returned true := by decide +kernel
  refine ⟨events, hreturned, snapshotCopy_not_torn .cleared ?_ hreturned⟩
  refine (CopyWorld.undisturbed_reads _ 4 _).mpr ⟨?_, ?_⟩
  · rintro ⟨_, _, _, hbuffer, _⟩
    exact hbuffer rfl
  · rw [← List.append_nil (List.replicate 34 CopyEvent.read)]
    exact (CopyWorld.undisturbed_reads _ 34 _).mpr trivial

/-- Two commits after the copy of `snapshot_version`: the copy has the version
of the initial snapshot and the power sample of the second commit. -/
theorem snapshotCopy_torn :
    ¬ ∀ snapshotOut events,
      ((CopyWorld.start snapshotOut).run events).reader.phase =
          .returned true →
        ((CopyWorld.start snapshotOut).run events).reader.snapshotOut ∈
          ((CopyWorld.start snapshotOut).run events).published := by
  intro hclaim
  have htorn := hclaim .cleared
    (List.replicate 4 .read ++
      [.transaction [.power { PowerSnapshot.cleared with available := true }],
        .transaction []] ++
      List.replicate 15 .read)
    (by decide +kernel)
  revert htorn
  decide +kernel

end Swfpm
