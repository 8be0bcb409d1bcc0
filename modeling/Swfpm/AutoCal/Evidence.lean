import Swfpm.AutoCal.Termination

/-!
# What a calibration report stands for

A backend that logs its calls shows which batch the metrics of a report come
from.  The invariant splits the log at the batch that is being taken: what was
measured for the candidate so far, and before it what the stages from VERIFY on
have shown of the selected profile.
-/

namespace Swfpm.AutoCal

/-! ## The log of a backend -/

inductive BackendCall where
  | configure (profile : Max35103Profile) (status : Max35103Status)
  | measure (measurement : Measurement)
  | reset (status : Max35103Status)
  deriving DecidableEq, Repr

/-- A backend that keeps its calls beside its context, newest first. -/
def logged {κ : Type*} (backend : Max35103AutoCalBackend κ) :
    Max35103AutoCalBackend (κ × List BackendCall) :=
  { configure := fun context profile ↦
      let answer := backend.configure context.1 profile
      (answer.1, answer.2, .configure profile answer.1 :: context.2)
    measure := fun context ↦
      let answer := backend.measure context.1
      (answer.1, answer.2, .measure answer.1 :: context.2)
    reset := fun context ↦
      let answer := backend.reset context.1
      (answer.1, answer.2, .reset answer.1 :: context.2) }

/-- The profile on the device, as far as the calls since some moment tell. -/
def deviceProfile : List BackendCall → Option Max35103Profile
  | [] => none
  | .configure profile .ok :: _ => some profile
  | .configure _ _ :: _ => none
  | .reset _ :: _ => none
  | .measure _ :: older => deviceProfile older

/-- The attempts among some calls, all of them made while the device was
configured with one profile. -/
inductive Taken (profile : Max35103Profile) :
    List BackendCall → List Measurement → Prop where
  | nil : Taken profile [] []
  | configure {calls batch} (tried : Max35103Profile)
      (status : Max35103Status) : Taken profile calls batch →
      Taken profile (.configure tried status :: calls) batch
  | reset {calls batch} (status : Max35103Status) :
      Taken profile calls batch → Taken profile (.reset status :: calls) batch
  | busy {calls batch} {measurement : Measurement} :
      measurement.status = .busy → Taken profile calls batch →
      Taken profile (.measure measurement :: calls) batch
  | attempt {calls batch} {measurement : Measurement} :
      measurement.status ≠ .busy → deviceProfile calls = some profile →
      Taken profile calls batch →
      Taken profile (.measure measurement :: calls) (measurement :: batch)

/-- The metrics of a batch before its statistics: only timeouts are counted. -/
def openMetrics (batch : List Measurement) : Max35103AutoCalMetrics :=
  { Max35103AutoCalMetrics.zero with
    timeoutCount :=
      UInt16.ofNat (batch.countP fun measurement ↦ measurement.status = .timeout) }

/-- The metrics come from a full batch of a state, all of it taken with one
profile. -/
def Judged (config : Max35103AutoCalConfig) (state : Max35103AutoCalState)
    (profile : Max35103Profile) (calls : List BackendCall)
    (metrics : Max35103AutoCalMetrics) : Prop :=
  ∃ batch, Taken profile calls batch ∧
    batch.length = (stageTarget config state).toNat ∧
    ∃ calibrator samples, calibrator.config = config ∧
      calibrator.state = state ∧ calibrator.candidateProfile = profile ∧
      calibrator.sampleIndex.toNat = batch.length ∧
      calibrator.samples.take batch.length =
        batch.reverse.map (sampleOf config profile) ∧
      finalizeMetrics calibrator (openMetrics batch) = some (metrics, samples)

/-- A profile passed a VERIFY batch, and after it the perturbations of it at the
listed indices passed theirs. -/
inductive Perturbed (config : Max35103AutoCalConfig)
    (profile : Max35103Profile) : List ℕ → List BackendCall → Prop where
  | verified (newer : List BackendCall) {calls older metrics} :
      Judged config .verify profile calls metrics → metrics.passed = true →
      Perturbed config profile [] (newer ++ (calls ++ older))
  | passed (newer : List BackendCall) {calls older indices metrics candidate}
      {index : UInt32} : Perturbed config profile indices older →
      (∀ i ∈ indices, i < index.toNat) → index.toNat < 8 →
      robustnessCandidate config profile index = some candidate →
      Judged config .robustness candidate calls metrics →
      metrics.passed = true →
      Perturbed config profile (index.toNat :: indices)
        (newer ++ (calls ++ older))

/-- VERIFY and enough perturbations are behind a profile. -/
def Cleared (config : Max35103AutoCalConfig) (profile : Max35103Profile)
    (log : List BackendCall) : Prop :=
  ∃ indices, Perturbed config profile indices log ∧
    config.requiredPerturbationPasses.toNat ≤ indices.length

/-- Every gate of some metrics passed. -/
structure AllGates (metrics : Max35103AutoCalMetrics) : Prop where
  communication : metrics.communicationGate = true
  direction : metrics.directionGate = true
  physical : metrics.physicalGate = true
  period : metrics.periodGate = true
  waveform : metrics.waveformGate = true
  stageWaveform : metrics.stageWaveformGate = true
  statistics : metrics.statisticsGate = true
  passed : metrics.passed = true

/-- What a report claims, read off the log: the last call configured its profile,
and its metrics come from the batch after a reset before which the profile had
been verified and perturbed. -/
def ReportSound (config : Max35103AutoCalConfig)
    (report : Max35103AutoCalReport) (log : List BackendCall) : Prop :=
  (∃ newer calls older,
    log = .configure report.selectedProfile .ok ::
      (newer ++ (calls ++ .reset .ok :: older)) ∧
    Judged config .resetVerify report.selectedProfile calls
      report.verification ∧
    Cleared config report.selectedProfile older) ∧
  AllGates report.verification ∧
  report.evidenceCrc32 = reportCrc32 report

/-! ## Facts about logs -/

theorem Perturbed.newer {config : Max35103AutoCalConfig}
    {profile : Max35103Profile} {indices : List ℕ} {log : List BackendCall}
    (calls : List BackendCall) (hlog : Perturbed config profile indices log) :
    Perturbed config profile indices (calls ++ log) := by
  cases hlog with
  | verified newer hjudged hpassed =>
      rw [← List.append_assoc]
      exact .verified (calls ++ newer) hjudged hpassed
  | passed newer hbefore hlater hindex hcandidate hjudged hpassed =>
      rw [← List.append_assoc]
      exact .passed (calls ++ newer) hbefore hlater hindex hcandidate hjudged
        hpassed

theorem Perturbed.pairwise {config : Max35103AutoCalConfig}
    {profile : Max35103Profile} {indices : List ℕ} {log : List BackendCall}
    (hlog : Perturbed config profile indices log) :
    indices.Pairwise (· > ·) := by
  induction hlog with
  | verified => exact .nil
  | passed newer hbefore hlater _ _ _ _ ih => exact .cons hlater ih

/-- At most one pass for each of the eight perturbations. -/
theorem Perturbed.length_le {config : Max35103AutoCalConfig}
    {profile : Max35103Profile} {indices : List ℕ} {log : List BackendCall}
    (hlog : Perturbed config profile indices log) : indices.length ≤ 8 := by
  have hbound : ∀ i ∈ indices, i < 8 := by
    cases hlog with
    | verified => simp
    | passed newer hbefore hlater hindex =>
        intro i hi
        rcases List.mem_cons.mp hi with rfl | hi
        · exact hindex
        · exact (hlater i hi).trans hindex
  have hnodup : indices.Nodup :=
    hlog.pairwise.imp fun hlt ↦ ne_of_gt hlt
  have hsubset : indices.toFinset ⊆ Finset.range 8 := fun i hi ↦
    Finset.mem_range.mpr (hbound i (List.mem_toFinset.mp hi))
  calc indices.length = indices.toFinset.card :=
        (List.toFinset_card_of_nodup hnodup).symm
    _ ≤ (Finset.range 8).card := Finset.card_le_card hsubset
    _ = 8 := Finset.card_range 8

theorem Cleared.newer {config : Max35103AutoCalConfig}
    {profile : Max35103Profile} {log : List BackendCall}
    (calls : List BackendCall) (hlog : Cleared config profile log) :
    Cleared config profile (calls ++ log) := by
  obtain ⟨indices, hperturbed, hlength⟩ := hlog
  exact ⟨indices, hperturbed.newer calls, hlength⟩

/-! ## The gates of passed metrics -/

theorem allGates_gateMetrics {calibrator : Max35103AutoCalibrator}
    {metrics : Max35103AutoCalMetrics}
    (hstate : calibrator.state = .resetVerify)
    (hpassed : (gateMetrics calibrator metrics).passed = true) :
    AllGates (gateMetrics calibrator metrics) := by
  have hgates := hpassed
  simp only [gateMetrics, Bool.and_eq_true] at hgates
  obtain ⟨⟨⟨hcommunication, hphysical⟩, hwaveform⟩, hstatistics⟩ := hgates
  have hperiod := hwaveform.1
  constructor
  · exact hcommunication
  · simp only [gateMetrics, Bool.and_eq_true]
    exact hphysical.1.1.1.1.1.2
  · simp only [gateMetrics, Bool.and_eq_true]
    exact hphysical
  · exact hperiod
  · simp only [gateMetrics, Bool.and_eq_true]
    exact hwaveform
  · -- From RESET_VERIFY on the stage asks for the whole waveform gate.
    simp only [gateMetrics, stageWaveformGate, hstate]
    rw [if_neg]
    · simp only [Bool.and_eq_true]
      exact hwaveform
    · intro hclosed
      exact Bool.false_ne_true (hclosed.symm.trans hperiod)
  · simp only [gateMetrics, Bool.and_eq_true]
    exact hstatistics
  · exact hpassed

theorem allGates_of_passed {calibrator : Max35103AutoCalibrator}
    {metrics final : Max35103AutoCalMetrics}
    {samples : List Max35103AutoCalSample}
    (hstate : calibrator.state = .resetVerify)
    (hfinal : finalizeMetrics calibrator metrics = some (final, samples))
    (hpassed : final.passed = true) : AllGates final := by
  obtain ⟨timed, hgates⟩ : ∃ timed, final =
      { gateMetrics calibrator timed with score := final.score } := by
    rw [finalizeMetrics] at hfinal
    split_ifs at hfinal
    simp only [Option.bind_eq_some_iff, Option.map_eq_some_iff,
      Prod.exists, Prod.mk.injEq] at hfinal
    obtain ⟨moved, validEnd, -, timed, out, -, rfl, -⟩ := hfinal
    exact ⟨timed, rfl⟩
  rw [hgates] at hpassed ⊢
  have hall : AllGates (gateMetrics calibrator timed) :=
    allGates_gateMetrics hstate hpassed
  exact ⟨hall.communication, hall.direction, hall.physical, hall.period,
    hall.waveform, hall.stageWaveform, hall.statistics, hall.passed⟩

/-! ## The invariant of a stage -/

/-- What the log held before the batch of the current candidate. -/
structure Prior (calibrator : Max35103AutoCalibrator)
    (rest : List BackendCall) : Prop where
  robustness : calibrator.state = .robustness → ∃ indices,
    Perturbed calibrator.config calibrator.selectedProfile indices rest ∧
      indices.length = calibrator.perturbationPassed.toNat ∧
      ∀ i ∈ indices, i < calibrator.candidateIndex.toNat
  resetVerify : calibrator.state = .resetVerify →
    calibrator.resetPerformed = true → calibrator.candidateIndex = 0 →
      ∃ older, rest = .reset .ok :: older ∧
        Cleared calibrator.config calibrator.selectedProfile older

/-- The batch of a candidate that was started, and the calls made for it. -/
structure Batch (calibrator : Max35103AutoCalibrator)
    (calls : List BackendCall) (batch : List Measurement) : Prop where
  taken : Taken calibrator.candidateProfile calls batch
  length : batch.length = calibrator.sampleIndex.toNat
  samples : calibrator.samples.take batch.length =
    batch.reverse.map (sampleOf calibrator.config calibrator.candidateProfile)
  metrics : calibrator.candidateMetrics = openMetrics batch
  device : calibrator.candidateConfigured = true →
    calibrator.recoveryRequired = false →
      deviceProfile calls = some calibrator.candidateProfile
  candidate : makeCandidate calibrator calibrator.candidateIndex =
    (calibrator.candidateProfile, true)

/-- What the best candidate of VERIFY or RESET_VERIFY has behind it. -/
structure Best (calibrator : Max35103AutoCalibrator)
    (calls older : List BackendCall) : Prop where
  judged : Judged calibrator.config calibrator.state
    calibrator.stageBestProfile calls calibrator.stageBestMetrics
  passed : calibrator.stageBestMetrics.passed = true
  profile : calibrator.stageBestProfile = calibrator.selectedProfile
  reset : calibrator.state = .resetVerify → ∃ oldest,
    older = .reset .ok :: oldest ∧
      Cleared calibrator.config calibrator.selectedProfile oldest

/-- The stages whose candidates are built on a selected profile that has to be
verified as it is. -/
def confirming : Max35103AutoCalState → Bool
  | .verify | .robustness | .resetVerify => true
  | _ => false

/-- The evidence behind an active stage. -/
structure Stage (calibrator : Max35103AutoCalibrator)
    (log : List BackendCall) : Prop where
  base : confirming calibrator.state = true →
    calibrator.stageBaseProfile = calibrator.selectedProfile
  count : calibrator.candidateCount =
    candidateCount calibrator calibrator.state
  current : ∃ calls rest, log = calls ++ rest ∧ Prior calibrator rest ∧
    (calibrator.candidateStarted = true → ∃ batch, Batch calibrator calls batch) ∧
    (calibrator.candidateStarted = false → ∀ profile, Taken profile calls [])
  unverified : calibrator.state = .resetVerify →
    calibrator.resetPerformed = false →
      calibrator.candidateStarted = false ∧ calibrator.stageBestValid = false
  cleared : calibrator.state = .resetVerify →
    Cleared calibrator.config calibrator.selectedProfile log
  best : calibrator.state = .verify ∨ calibrator.state = .resetVerify →
    calibrator.stageBestValid = true → ∃ newer calls older,
      log = newer ++ (calls ++ older) ∧ Best calibrator calls older

/-- The evidence behind a calibrator. -/
structure Evidence (calibrator : Max35103AutoCalibrator)
    (log : List BackendCall) : Prop where
  available : calibrator.reportAvailable = true ↔ calibrator.state = .complete
  report : calibrator.state = .complete →
    ReportSound calibrator.config calibrator.report log
  stage : active calibrator.state = true → Stage calibrator log

/-! ## Updates that the evidence does not depend on -/

/-- Two calibrators that differ in nothing that a stage rests on. -/
structure SameStage (before after : Max35103AutoCalibrator) : Prop where
  config : after.config = before.config
  seed : after.seedProfile = before.seedProfile
  state : after.state = before.state
  base : after.stageBaseProfile = before.stageBaseProfile
  selected : after.selectedProfile = before.selectedProfile
  count : after.candidateCount = before.candidateCount
  index : after.candidateIndex = before.candidateIndex
  started : after.candidateStarted = before.candidateStarted
  profile : after.candidateProfile = before.candidateProfile
  sampleIndex : after.sampleIndex = before.sampleIndex
  samples : after.samples = before.samples
  metrics : after.candidateMetrics = before.candidateMetrics
  reset : after.resetPerformed = before.resetPerformed
  bestValid : after.stageBestValid = before.stageBestValid
  bestProfile : after.stageBestProfile = before.stageBestProfile
  bestMetrics : after.stageBestMetrics = before.stageBestMetrics
  passed : after.perturbationPassed = before.perturbationPassed

section

variable {before after : Max35103AutoCalibrator} {log : List BackendCall}

theorem makeCandidate_congr (hconfig : after.config = before.config)
    (hseed : after.seedProfile = before.seedProfile)
    (hstate : after.state = before.state)
    (hbase : after.stageBaseProfile = before.stageBaseProfile)
    (index : UInt32) : makeCandidate after index = makeCandidate before index := by
  simp only [makeCandidate, buildCandidate, discoveryCandidate, hconfig, hseed,
    hstate, hbase]

theorem candidateCount_congr (hconfig : after.config = before.config)
    (hbase : after.stageBaseProfile = before.stageBaseProfile)
    (state : Max35103AutoCalState) :
    candidateCount after state = candidateCount before state := by
  simp only [candidateCount, hconfig, hbase]

theorem SameStage.prior (hsame : SameStage before after)
    {rest : List BackendCall} (hprior : Prior before rest) :
    Prior after rest := by
  constructor
  · simpa only [hsame.config, hsame.state, hsame.selected, hsame.index,
      hsame.passed] using hprior.robustness
  · simpa only [hsame.config, hsame.state, hsame.selected, hsame.index,
      hsame.reset] using hprior.resetVerify

theorem SameStage.best (hsame : SameStage before after)
    {calls older : List BackendCall} (hbest : Best before calls older) :
    Best after calls older := by
  constructor
  · simpa only [hsame.config, hsame.state, hsame.bestProfile,
      hsame.bestMetrics] using hbest.judged
  · simpa only [hsame.bestMetrics] using hbest.passed
  · simpa only [hsame.bestProfile, hsame.selected] using hbest.profile
  · simpa only [hsame.config, hsame.state, hsame.selected] using hbest.reset

/-- Calls without an attempt, and what a calibrator notes of them. -/
theorem Stage.extended (hstage : Stage before log)
    (hsame : SameStage before after) (extra : List BackendCall)
    (htaken : ∀ {profile calls batch}, Taken profile calls batch →
      Taken profile (extra ++ calls) batch)
    (hdevice : after.candidateConfigured = true →
      after.recoveryRequired = false →
        before.candidateConfigured = true ∧ before.recoveryRequired = false ∧
          ∀ calls, deviceProfile (extra ++ calls) = deviceProfile calls) :
    Stage after (extra ++ log) := by
  constructor
  · simpa only [hsame.state, hsame.base, hsame.selected] using hstage.base
  · rw [hsame.count, hsame.state, hstage.count]
    exact (candidateCount_congr hsame.config hsame.base _).symm
  · obtain ⟨calls, rest, rfl, hprior, hstarted, hfresh⟩ := hstage.current
    refine ⟨extra ++ calls, rest, (List.append_assoc ..).symm,
      hsame.prior hprior, ?_, ?_⟩
    · intro hafter
      rw [hsame.started] at hafter
      obtain ⟨batch, hbatch⟩ := hstarted hafter
      refine ⟨batch, ?_⟩
      constructor
      · rw [hsame.profile]
        exact htaken hbatch.taken
      · rw [hsame.sampleIndex]
        exact hbatch.length
      · rw [hsame.samples, hsame.config, hsame.profile]
        exact hbatch.samples
      · rw [hsame.metrics]
        exact hbatch.metrics
      · intro hconfigured hrecovered
        obtain ⟨hconfigured, hrecovered, hcall⟩ :=
          hdevice hconfigured hrecovered
        rw [hcall, hsame.profile]
        exact hbatch.device hconfigured hrecovered
      · rw [makeCandidate_congr hsame.config hsame.seed hsame.state hsame.base,
          hsame.index, hsame.profile]
        exact hbatch.candidate
    · intro hafter profile
      rw [hsame.started] at hafter
      exact htaken (hfresh hafter profile)
  · simpa only [hsame.state, hsame.reset, hsame.started, hsame.bestValid] using
      hstage.unverified
  · intro hstate
    rw [hsame.config, hsame.selected]
    rw [hsame.state] at hstate
    exact (hstage.cleared hstate).newer extra
  · intro hstate hvalid
    rw [hsame.state] at hstate
    rw [hsame.bestValid] at hvalid
    obtain ⟨newer, calls, older, rfl, hbest⟩ := hstage.best hstate hvalid
    exact ⟨extra ++ newer, calls, older, (List.append_assoc ..).symm,
      hsame.best hbest⟩

/-! ## Candidates that are left -/

/-- The candidate is left for the next one, the stage stays. -/
structure Leaves (before after : Max35103AutoCalibrator) : Prop where
  config : after.config = before.config
  state : after.state = before.state
  base : after.stageBaseProfile = before.stageBaseProfile
  selected : after.selectedProfile = before.selectedProfile
  count : after.candidateCount = before.candidateCount
  index : after.candidateIndex = before.candidateIndex + 1
  started : after.candidateStarted = false
  reset : after.resetPerformed = before.resetPerformed

/-- Perturbations before an index are before the next one. -/
theorem Leaves.index_lt (hleaves : Leaves before after)
    (hroom : before.candidateIndex < before.candidateCount) :
    after.candidateIndex.toNat = before.candidateIndex.toNat + 1 := by
  rw [hleaves.index]
  exact toNat_succ32 hroom

theorem Stage.left (hstage : Stage before log) (hleaves : Leaves before after)
    (hroom : before.candidateIndex < before.candidateCount)
    (hrobustness : before.state = .robustness → ∃ indices,
      Perturbed before.config before.selectedProfile indices log ∧
        indices.length = after.perturbationPassed.toNat ∧
        ∀ i ∈ indices, i < before.candidateIndex.toNat + 1)
    (hunverified : before.state = .resetVerify →
      before.resetPerformed = false → after.stageBestValid = false)
    (hbest : before.state = .verify ∨ before.state = .resetVerify →
      after.stageBestValid = true → ∃ newer calls older,
        log = newer ++ (calls ++ older) ∧ Best after calls older) :
    Stage after log := by
  have hindex := hleaves.index_lt hroom
  constructor
  · rw [hleaves.state, hleaves.base, hleaves.selected]
    exact hstage.base
  · rw [hleaves.count, hleaves.state, hstage.count]
    exact (candidateCount_congr hleaves.config hleaves.base _).symm
  · refine ⟨[], log, rfl, ⟨?_, ?_⟩, ?_, ?_⟩
    · intro hstate
      rw [hleaves.state] at hstate
      rw [hleaves.config, hleaves.selected, hindex]
      exact hrobustness hstate
    · intro _ _ hzero
      rw [hzero, UInt32.toNat_zero] at hindex
      omega
    · intro hstarted
      rw [hleaves.started] at hstarted
      contradiction
    · intro _ profile
      exact .nil
  · intro hstate hreset
    rw [hleaves.state] at hstate
    rw [hleaves.reset] at hreset
    exact ⟨hleaves.started, hunverified hstate hreset⟩
  · intro hstate
    rw [hleaves.state] at hstate
    rw [hleaves.config, hleaves.selected]
    exact hstage.cleared hstate
  · intro hstate hvalid
    rw [hleaves.state] at hstate
    exact hbest hstate hvalid

/-- The passes of a stage are still behind it after further calls. -/
theorem Stage.perturbed (hstage : Stage before log)
    (hstate : before.state = .robustness) : ∃ indices,
      Perturbed before.config before.selectedProfile indices log ∧
        indices.length = before.perturbationPassed.toNat ∧
        ∀ i ∈ indices, i < before.candidateIndex.toNat := by
  obtain ⟨calls, rest, rfl, hprior, -⟩ := hstage.current
  obtain ⟨indices, hperturbed, hlength, hlater⟩ := hprior.robustness hstate
  exact ⟨indices, hperturbed.newer calls, hlength, hlater⟩

/-- A candidate that is not tried, whichever profile was proposed for it. -/
theorem Stage.skipped (hstage : Stage before log)
    (hroom : before.candidateIndex < before.candidateCount)
    (profile : Max35103Profile) :
    Stage (skipCandidate (proposeCandidate before profile)) log := by
  refine hstage.left ⟨rfl, rfl, rfl, rfl, rfl, rfl, rfl, rfl⟩ hroom ?_ ?_ ?_
  · intro hstate
    obtain ⟨indices, hperturbed, hlength, hlater⟩ := hstage.perturbed hstate
    exact ⟨indices, hperturbed, hlength, fun i hi ↦
      (hlater i hi).trans (Nat.lt_succ_self _)⟩
  · intro hstate hreset
    exact (hstage.unverified hstate hreset).2
  · intro hstate hvalid
    obtain ⟨newer, calls, older, hlog, hbest⟩ := hstage.best hstate hvalid
    exact ⟨newer, calls, older, hlog,
      ⟨hbest.judged, hbest.passed, hbest.profile, hbest.reset⟩⟩

/-! ## Configuring -/

/-- The batch of a candidate that is about to be configured. -/
theorem Stage.proposed (hstage : Stage before log) {profile : Max35103Profile}
    (hmade : makeCandidate before before.candidateIndex = (profile, true))
    (hconfigured : before.candidateConfigured = false) :
    Stage (startBatch (proposeCandidate before profile)) log ∧
      ∃ calls rest batch, log = calls ++ rest ∧
        Prior (startBatch (proposeCandidate before profile)) rest ∧
        Batch (startBatch (proposeCandidate before profile)) calls batch := by
  obtain ⟨calls, rest, rfl, hprior, hstarted, hfresh⟩ := hstage.current
  by_cases hcandidate : before.candidateStarted = true
  · obtain ⟨batch, hbatch⟩ := hstarted hcandidate
    -- A candidate that is configured again is made as it was before.
    have hprofile : profile = before.candidateProfile := by
      have hpair := hmade.symm.trans hbatch.candidate
      exact congrArg Prod.fst hpair
    subst hprofile
    have hstarted : (proposeCandidate before
        before.candidateProfile).candidateStarted = true := hcandidate
    rw [startBatch, if_pos hstarted]
    exact ⟨hstage, calls, rest, batch, rfl, hprior, hbatch⟩
  · have hopen : ¬ (proposeCandidate before profile).candidateStarted = true :=
      hcandidate
    have hnone := hfresh (by simpa using hcandidate)
    rw [startBatch, if_neg hopen]
    refine ⟨⟨hstage.base, ?_, ?_, hstage.unverified, hstage.cleared, ?_⟩,
      calls, rest, [], rfl, ⟨hprior.robustness, hprior.resetVerify⟩, ?_⟩
    · exact hstage.count.trans (candidateCount_congr rfl rfl _).symm
    · refine ⟨calls, rest, rfl, ⟨hprior.robustness, hprior.resetVerify⟩, ?_,
        fun _ ↦ hnone⟩
      intro hstarted
      exact absurd hstarted hopen
    · intro hstate hvalid
      obtain ⟨newer, calls, older, hlog, hbest⟩ := hstage.best hstate hvalid
      exact ⟨newer, calls, older, hlog,
        ⟨hbest.judged, hbest.passed, hbest.profile, hbest.reset⟩⟩
    · refine ⟨hnone profile, rfl, rfl, rfl, ?_, ?_⟩
      · intro hset
        exact absurd (hconfigured.symm.trans hset) Bool.false_ne_true
      · exact (makeCandidate_congr rfl rfl rfl rfl _).trans hmade

/-- A stage under way, with no report published. -/
theorem Evidence.of_stage (hactive : active after.state = true)
    (hunpublished : after.reportAvailable = false) (hstage : Stage after log) :
    Evidence after log := by
  have hstate : after.state ≠ .complete := by
    intro hcomplete
    rw [hcomplete] at hactive
    contradiction
  constructor
  · simp [hunpublished, hstate]
  · intro hcomplete
    contradiction
  · intro _
    exact hstage

theorem Evidence.unpublished (hevidence : Evidence before log)
    (hactive : active before.state = true) : before.reportAvailable = false := by
  have hstate : before.state ≠ .complete := by
    intro hcomplete
    rw [hcomplete] at hactive
    contradiction
  simpa [hstate] using hevidence.available

theorem evidence_fail (hunpublished : before.reportAvailable = false)
    (status : Max35103AutoCalStatus) : Evidence (fail before status) log := by
  constructor
  · simp [fail, hunpublished]
  · intro hcomplete
    simp [fail] at hcomplete
  · intro hactive
    simp [fail, active] at hactive

/-- The answer to a deferred call. -/
theorem evidence_deferAction {log : List BackendCall}
    (hactive : active before.state = true)
    (hunpublished : before.reportAvailable = false)
    (hstage : Stage before log) : Evidence (deferAction before) log := by
  obtain ⟨polls, hfailed | hpolled⟩ : ∃ polls,
      deferAction before =
          fail { before with busyPollCount := polls } .driverError ∨
        deferAction before = { before with busyPollCount := polls } :=
    ⟨_, ite_eq_or_eq _ _ _⟩
  · rw [hfailed]
    refine evidence_fail ?_ _
    exact hunpublished
  · rw [hpolled]
    refine .of_stage hactive hunpublished ?_
    refine hstage.extended (by constructor <;> rfl) [] id ?_
    intro hconfigured hrecovered
    exact ⟨hconfigured, hrecovered, fun _ ↦ rfl⟩

theorem evidence_configured (haction : nextAction before = .configure)
    (hunpublished : before.reportAvailable = false)
    (hstage : Stage before log)
    (hbatch : ∃ calls rest batch, log = calls ++ rest ∧ Prior before rest ∧
      Batch before calls batch) (status : Max35103Status) :
    Evidence (configured before status)
      (.configure before.candidateProfile status :: log) := by
  obtain ⟨hsettled, hroom, hconfigured⟩ := nextAction_configure haction
  have hactive := hsettled.running
  -- Whatever the answer, the call itself adds no attempt.
  have hcalled : ∀ {after : Max35103AutoCalibrator},
      SameStage before after → after.candidateConfigured = false →
        Stage after (.configure before.candidateProfile status :: log) := by
    intro after hsame hopen
    refine hstage.extended hsame [_] (fun h ↦ h.configure _ _) ?_
    intro hset
    exact absurd (hopen.symm.trans hset) Bool.false_ne_true
  rw [configured]
  by_cases hbusy : status = .busy
  · rw [if_pos hbusy]
    exact evidence_deferAction hactive hunpublished
      (hcalled (by constructor <;> rfl) hconfigured)
  rw [if_neg hbusy]
  by_cases hok : status ≠ .ok
  · rw [if_pos hok]
    by_cases hrejected : status = .configError ∨ status = .invalidArg
    · rw [if_pos hrejected]
      have hnoted : Stage (clearPolls (noteStatus before status)) _ :=
        hcalled (by constructor <;> rfl) hconfigured
      exact .of_stage hactive hunpublished
        (hnoted.skipped hroom before.candidateProfile)
    rw [if_neg hrejected]
    simp only
    split_ifs
    · refine evidence_fail ?_ _
      exact hunpublished
    · exact .of_stage hactive hunpublished
        (hcalled (by constructor <;> rfl) hconfigured)
  · rw [if_neg hok]
    rw [not_not] at hok
    subst hok
    obtain ⟨calls, rest, batch, rfl, hprior, hbatch⟩ := hbatch
    refine .of_stage hactive hunpublished ⟨hstage.base, ?_, ?_, ?_, ?_, ?_⟩
    · exact hstage.count.trans (candidateCount_congr rfl rfl _).symm
    · refine ⟨_ :: calls, rest, rfl, ⟨hprior.robustness, hprior.resetVerify⟩,
        fun _ ↦ ⟨batch, ?_⟩, fun h ↦ absurd h.symm Bool.false_ne_true⟩
      exact ⟨hbatch.taken.configure _ _, hbatch.length, hbatch.samples,
        hbatch.metrics, fun _ _ ↦ rfl,
        (makeCandidate_congr rfl rfl rfl rfl _).trans hbatch.candidate⟩
    · intro hstate hreset
      exact absurd ((hsettled.verified hstate).symm.trans hreset)
        Bool.false_ne_true.symm
    · intro hstate
      exact (hstage.cleared hstate).newer [_]
    · intro hstate hvalid
      obtain ⟨newer, calls, older, hlog, hbest⟩ := hstage.best hstate hvalid
      rw [hlog]
      exact ⟨_ :: newer, calls, older, rfl,
        ⟨hbest.judged, hbest.passed, hbest.profile, hbest.reset⟩⟩

/-! ## Resetting -/

theorem evidence_resetRefused (hactive : active before.state = true)
    (hunpublished : before.reportAvailable = false)
    (hstage : Stage before log) : Evidence (resetRefused before) log := by
  simp only [resetRefused]
  split_ifs
  · refine evidence_fail ?_ _
    exact hunpublished
  · refine .of_stage hactive hunpublished ?_
    refine hstage.extended (by constructor <;> rfl) [] id ?_
    intro hconfigured hrecovered
    exact ⟨hconfigured, hrecovered, fun _ ↦ rfl⟩

theorem evidence_recovered (hevidence : Evidence before log)
    (haction : nextAction before = .recover) (status : Max35103Status) :
    Evidence (recovered before status) (.reset status :: log) := by
  obtain ⟨hactive, howed⟩ := nextAction_recover haction
  have hunpublished := hevidence.unpublished hactive
  have hstage := hevidence.stage hactive
  simp only [recovered]
  split_ifs
  · refine evidence_resetRefused ?_ ?_ ?_
    · exact hactive
    · exact hunpublished
    · refine hstage.extended (by constructor <;> rfl) [_] (.reset _) ?_
      intro _ hrecovered
      exact absurd (hrecovered.symm.trans howed) Bool.false_ne_true
  · refine .of_stage hactive hunpublished ?_
    refine hstage.extended (by constructor <;> rfl) [_] (.reset _) ?_
    intro hconfigured
    exact absurd hconfigured Bool.false_ne_true

theorem evidence_verifyReset (hevidence : Evidence before log)
    (hsound : Sound before) (haction : nextAction before = .resetForVerify)
    (status : Max35103Status) :
    Evidence (verifyReset before status) (.reset status :: log) := by
  obtain ⟨hactive, _, hstate, hreset⟩ := nextAction_resetForVerify haction
  have hunpublished := hevidence.unpublished hactive
  have hstage := hevidence.stage hactive
  obtain ⟨hstarted, hvalid⟩ := hstage.unverified hstate hreset
  have hcleared := hstage.cleared hstate
  simp only [verifyReset]
  split_ifs with hrefused
  · refine evidence_resetRefused ?_ ?_ ?_
    · exact hactive
    · exact hunpublished
    · refine hstage.extended (by constructor <;> rfl) [_] (.reset _) ?_
      intro hconfigured
      have := hsound.started hactive hconfigured
      exact absurd (hstarted.symm.trans this) Bool.false_ne_true
  · rw [not_not] at hrefused
    subst hrefused
    refine .of_stage hactive hunpublished ⟨hstage.base, ?_, ?_, ?_, ?_, ?_⟩
    · exact hstage.count.trans (candidateCount_congr rfl rfl _).symm
    · -- The batch of RESET_VERIFY begins behind this reset.
      refine ⟨[], _, rfl, ⟨?_, ?_⟩, ?_, fun _ _ ↦ .nil⟩
      · intro hother
        exact absurd (hstate.symm.trans hother) (by decide)
      · intro _ _ _
        exact ⟨log, rfl, hcleared⟩
      · intro hset
        exact absurd (hstarted.symm.trans hset) Bool.false_ne_true
    · intro _ hunset
      exact absurd hunset.symm Bool.false_ne_true
    · intro _
      exact hcleared.newer [_]
    · intro _ hset
      exact absurd (hvalid.symm.trans hset) Bool.false_ne_true

/-! ## Attempts -/

theorem openMetrics_cons (measurement : Measurement)
    (batch : List Measurement) :
    openMetrics (measurement :: batch) =
      { openMetrics batch with
        timeoutCount :=
          if measurement.status = .timeout then
            (openMetrics batch).timeoutCount + 1
          else (openMetrics batch).timeoutCount } := by
  by_cases htimeout : measurement.status = .timeout
  · simp [openMetrics, htimeout, UInt16.ofNat_add]
  · simp [openMetrics, htimeout]

/-- The batch with one attempt more. -/
theorem Batch.attempt {calls : List BackendCall} {batch : List Measurement}
    (hbatch : Batch before calls batch) {measurement : Measurement}
    (hbusy : measurement.status ≠ .busy)
    (hconfigured : before.candidateConfigured = true)
    (hrecovered : before.recoveryRequired = false)
    (hslot : before.sampleIndex.toNat < before.samples.length)
    (hnext : (before.sampleIndex + 1).toNat = before.sampleIndex.toNat + 1) :
    Batch (attemptOf before measurement) (.measure measurement :: calls)
      (measurement :: batch) := by
  have hdevice := hbatch.device hconfigured hrecovered
  constructor
  · exact .attempt hbusy hdevice hbatch.taken
  · change batch.length + 1 = (before.sampleIndex + 1).toNat
    rw [hnext, hbatch.length]
  · change (before.samples.set before.sampleIndex.toNat _).take
      (batch.length + 1) = _
    rw [← hbatch.length] at hslot ⊢
    rw [List.take_succ_eq_append_getElem (by simpa using hslot),
      List.take_set_of_le (Nat.le_refl _), hbatch.samples,
      List.getElem_set_self, List.reverse_cons, List.map_append]
    rfl
  · rw [openMetrics_cons, ← hbatch.metrics]
    rfl
  · intro _ _
    exact hdevice
  · have hmade : makeCandidate (attemptOf before measurement)
        before.candidateIndex = makeCandidate before before.candidateIndex :=
      makeCandidate_congr rfl rfl rfl rfl _
    exact hmade.trans hbatch.candidate

theorem Stage.attempted (hstage : Stage before log)
    (hsettled : Settled before) (hstarted : before.candidateStarted = true)
    (hconfigured : before.candidateConfigured = true)
    (hslot : before.sampleIndex.toNat < before.samples.length)
    (hnext : (before.sampleIndex + 1).toNat = before.sampleIndex.toNat + 1)
    {measurement : Measurement} (hbusy : measurement.status ≠ .busy) :
    Stage (attemptOf before measurement) (.measure measurement :: log) := by
  refine ⟨hstage.base, ?_, ?_, ?_, ?_, ?_⟩
  · have hcount : candidateCount (attemptOf before measurement) before.state =
        candidateCount before before.state := candidateCount_congr rfl rfl _
    exact hstage.count.trans hcount.symm
  · obtain ⟨calls, rest, rfl, hprior, hcurrent, -⟩ := hstage.current
    obtain ⟨batch, hbatch⟩ := hcurrent hstarted
    have hlonger := hbatch.attempt hbusy hconfigured hsettled.recovered hslot
      hnext
    refine ⟨_ :: calls, rest, rfl, ⟨hprior.robustness, hprior.resetVerify⟩,
      fun _ ↦ ⟨measurement :: batch, hlonger⟩, ?_⟩
    intro hfresh
    exact absurd (hfresh.symm.trans hstarted) Bool.false_ne_true
  · intro hstate hreset
    exact absurd (hreset.symm.trans (hsettled.verified hstate))
      Bool.false_ne_true
  · intro hstate
    exact (hstage.cleared hstate).newer [_]
  · intro hstate hvalid
    obtain ⟨newer, calls, older, hlog, hbest⟩ := hstage.best hstate hvalid
    rw [hlog]
    exact ⟨_ :: newer, calls, older, rfl,
      ⟨hbest.judged, hbest.passed, hbest.profile, hbest.reset⟩⟩

theorem Stage.judged (hstage : Stage before log) (status : Max35103Status) :
    Stage (judgeAttempt before status) log := by
  rw [judgeAttempt]
  split_ifs
  · refine hstage.extended (by constructor <;> rfl) [] id ?_
    intro _ hrecovered
    exact absurd hrecovered.symm Bool.false_ne_true
  · refine hstage.extended (by constructor <;> rfl) [] id ?_
    intro _ hrecovered
    exact absurd hrecovered.symm Bool.false_ne_true
  · refine hstage.extended (by constructor <;> rfl) [] id ?_
    intro hconfigured hrecovered
    exact ⟨hconfigured, hrecovered, fun _ ↦ rfl⟩

end

end Swfpm.AutoCal
