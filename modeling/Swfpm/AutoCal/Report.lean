import Swfpm.AutoCal.Evidence

/-!
# Calibration reports are sound

Complete batches, stages that end and the report, over the evidence that the
calls of a stage leave.  A run keeps its configuration, so what a report claims
is judged by the limits that the calibrator was set up with.
-/

namespace Swfpm.AutoCal

section

variable {before after : Max35103AutoCalibrator} {log : List BackendCall}

/-! ## Batches that are complete -/

/-- What ranking a candidate leaves as it was. -/
structure Ranks (before after : Max35103AutoCalibrator) : Prop where
  config : after.config = before.config
  state : after.state = before.state
  base : after.stageBaseProfile = before.stageBaseProfile
  selected : after.selectedProfile = before.selectedProfile
  count : after.candidateCount = before.candidateCount
  index : after.candidateIndex = before.candidateIndex
  reset : after.resetPerformed = before.resetPerformed
  published : after.reportAvailable = before.reportAvailable

theorem Ranks.trans {middle : Max35103AutoCalibrator}
    (hfirst : Ranks before middle) (hlast : Ranks middle after) :
    Ranks before after :=
  { config := hlast.config.trans hfirst.config
    state := hlast.state.trans hfirst.state
    base := hlast.base.trans hfirst.base
    selected := hlast.selected.trans hfirst.selected
    count := hlast.count.trans hfirst.count
    index := hlast.index.trans hfirst.index
    reset := hlast.reset.trans hfirst.reset
    published := hlast.published.trans hfirst.published }

theorem ranks_insertDiscoveryFinalist {profile : Max35103Profile}
    {metrics : Max35103AutoCalMetrics}
    (hout : insertDiscoveryFinalist before profile metrics = some after) :
    Ranks before after := by
  obtain ⟨profiles, finalistMetrics, size, rfl⟩ :=
    insertDiscoveryFinalist_frame hout
  constructor <;> rfl

theorem ranks_considerBest (calibrator : Max35103AutoCalibrator) :
    Ranks calibrator (considerBest calibrator) := by
  rw [considerBest]
  split_ifs <;> (constructor <;> rfl)

/-- What ranking does in the stages that confirm a profile. -/
structure Confirms (before after : Max35103AutoCalibrator) : Prop where
  passed : before.state = .robustness →
    after.perturbationPassed =
      if before.candidateMetrics.passed then before.perturbationPassed + 1
      else before.perturbationPassed
  profile : before.state = .verify ∨ before.state = .resetVerify →
    after.stageBestProfile = before.candidateProfile
  metrics : before.state = .verify ∨ before.state = .resetVerify →
    after.stageBestMetrics = before.candidateMetrics
  valid : before.state = .verify ∨ before.state = .resetVerify →
    after.stageBestValid = before.candidateMetrics.passed

theorem confirms_of_ordinary (hordinary : confirming before.state = false) :
    Confirms before after := by
  have hverify : ¬ (before.state = .verify ∨ before.state = .resetVerify) := by
    rintro (hstate | hstate) <;> simp [hstate, confirming] at hordinary
  constructor
  · intro hstate
    simp [hstate, confirming] at hordinary
  all_goals
    intro hstate
    exact absurd hstate hverify

theorem rankCandidate_frame (hout : rankCandidate before = some after) :
    Ranks before after ∧ Confirms before after := by
  have hself : Ranks before before := by constructor <;> rfl
  cases hstate : before.state
  all_goals simp only [rankCandidate, hstate] at hout
  case robustness =>
    rw [← Option.some.inj hout]
    refine ⟨⟨rfl, hstate.symm, rfl, rfl, rfl, rfl, rfl, rfl⟩, fun _ ↦ rfl,
      ?_, ?_, ?_⟩
    all_goals simp [hstate]
  case verify | resetVerify =>
    rw [← Option.some.inj hout]
    refine ⟨⟨rfl, hstate.symm, rfl, rfl, rfl, rfl, rfl, rfl⟩, ?_, fun _ ↦ rfl,
      fun _ ↦ rfl, fun _ ↦ rfl⟩
    simp [hstate]
  case discovery =>
    refine ⟨?_, confirms_of_ordinary (by rw [hstate]; rfl)⟩
    split_ifs at hout
    · rw [← Option.some.inj hout]
      exact hself
    · rw [Option.map_eq_some_iff] at hout
      obtain ⟨inserted, hinserted, rfl⟩ := hout
      exact (ranks_insertDiscoveryFinalist hinserted).trans
        (ranks_considerBest inserted)
  all_goals
    refine ⟨?_, confirms_of_ordinary (by rw [hstate]; rfl)⟩
    split_ifs at hout
    · rw [← Option.some.inj hout]
      exact hself
    · rw [← Option.some.inj hout]
      exact ranks_considerBest before

/-- The metrics of a complete batch, before it is ranked. -/
def judgedWith (calibrator : Max35103AutoCalibrator)
    (metrics : Max35103AutoCalMetrics) (samples : List Max35103AutoCalSample) :
    Max35103AutoCalibrator :=
  considerClosest
    { calibrator with candidateMetrics := metrics, samples := samples }

/-- What is compared for the closest candidate is not what is ranked. -/
structure Unranked (before after : Max35103AutoCalibrator)
    (metrics : Max35103AutoCalMetrics) : Prop where
  ranks : Ranks before after
  profile : after.candidateProfile = before.candidateProfile
  passed : after.perturbationPassed = before.perturbationPassed
  metrics : after.candidateMetrics = metrics

theorem unranked_judgedWith (calibrator : Max35103AutoCalibrator)
    (metrics : Max35103AutoCalMetrics) (samples : List Max35103AutoCalSample) :
    Unranked calibrator (judgedWith calibrator metrics samples) metrics := by
  rw [judgedWith, considerClosest]
  split_ifs
  all_goals exact ⟨by constructor <;> rfl, rfl, rfl, rfl⟩

/-- The candidates of the stages that confirm a profile. -/
theorem robustness_of_made {profile : Max35103Profile} {index : UInt32}
    (hstate : before.state = .robustness)
    (hmade : makeCandidate before index = (profile, true)) :
    robustnessCandidate before.config before.stageBaseProfile index =
      some profile := by
  simp only [makeCandidate, buildCandidate, hstate] at hmade
  split at hmade
  · simp at hmade
  next candidate hcandidate =>
    rw [hcandidate]
    exact congrArg (fun made ↦ some made.1) hmade

theorem base_of_made {profile : Max35103Profile} {index : UInt32}
    (hstate : before.state = .verify ∨ before.state = .resetVerify)
    (hmade : makeCandidate before index = (profile, true)) :
    profile = before.stageBaseProfile := by
  rcases hstate with hstate | hstate
  all_goals
    simp only [makeCandidate, buildCandidate, hstate] at hmade
    exact (congrArg Prod.fst hmade).symm

theorem candidateIndex_zero (hstage : Stage before log)
    (hstate : before.state = .resetVerify)
    (hroom : before.candidateIndex < before.candidateCount) :
    before.candidateIndex = 0 := by
  have hcount := hstage.count
  rw [hstate, candidateCount] at hcount
  rw [hcount] at hroom
  have := UInt32.lt_iff_toNat_lt.mp hroom
  refine UInt32.toNat_inj.mp ?_
  rw [UInt32.toNat_one] at this
  rw [UInt32.toNat_zero]
  omega

theorem candidateIndex_lt_eight (hstage : Stage before log)
    (hstate : before.state = .robustness)
    (hroom : before.candidateIndex < before.candidateCount) :
    before.candidateIndex.toNat < 8 := by
  have hcount := hstage.count
  rw [hstate, candidateCount] at hcount
  rw [hcount] at hroom
  exact UInt32.lt_iff_toNat_lt.mp hroom

/-- The batch of a candidate, full and with its metrics. -/
theorem Batch.judged {calls : List BackendCall} {batch : List Measurement}
    (hbatch : Batch before calls batch)
    (hfull : before.sampleIndex = sampleTarget before)
    {metrics : Max35103AutoCalMetrics} {samples : List Max35103AutoCalSample}
    (hfinal : finalizeMetrics before before.candidateMetrics =
      some (metrics, samples)) :
    Judged before.config before.state before.candidateProfile calls metrics := by
  refine ⟨batch, hbatch.taken, ?_, before, samples, rfl, rfl, rfl,
    hbatch.length.symm, hbatch.samples, ?_⟩
  · rw [hbatch.length, hfull]
    rfl
  · rw [← hbatch.metrics]
    exact hfinal

theorem Stage.considered (hstage : Stage before log)
    (hstarted : before.candidateStarted = true)
    (hverified : before.state = .resetVerify → before.resetPerformed = true)
    (hroom : before.candidateIndex < before.candidateCount)
    (hfull : before.sampleIndex = sampleTarget before)
    (hranked : considerCandidate before = some after) :
    Ranks before after ∧ Stage (leaveCandidate after) log := by
  obtain ⟨⟨metrics, samples⟩, hfinal, hrank⟩ :=
    Option.bind_eq_some_iff.mp hranked
  obtain ⟨hunranked, hprofile, hpassed, hmetrics⟩ :=
    unranked_judgedWith before metrics samples
  change rankCandidate (judgedWith before metrics samples) = some after at hrank
  obtain ⟨hranks, hconfirms⟩ := rankCandidate_frame hrank
  have hall := hunranked.trans hranks
  obtain ⟨calls, rest, rfl, hprior, hcurrent, -⟩ := hstage.current
  obtain ⟨batch, hbatch⟩ := hcurrent hstarted
  have hjudged := hbatch.judged hfull hfinal
  refine ⟨hall, hstage.left ⟨hall.config, hall.state, hall.base, hall.selected,
    hall.count, congrArg (· + 1) hall.index, rfl, hall.reset⟩ hroom ?_ ?_ ?_⟩
  · intro hstate
    obtain ⟨indices, hperturbed, hlength, hlater⟩ := hprior.robustness hstate
    have hcount := hconfirms.passed (hunranked.state.trans hstate)
    rw [hmetrics, hpassed] at hcount
    change ∃ indices : List ℕ,
      _ ∧ indices.length = after.perturbationPassed.toNat ∧ _
    rw [hcount]
    by_cases hgood : metrics.passed = true
    · -- One pass more, at an index behind all those before.
      have hmade := robustness_of_made hstate hbatch.candidate
      rw [hstage.base (by rw [hstate]; rfl)] at hmade
      rw [hstate] at hjudged
      have hpassing := Perturbed.passed [] hperturbed hlater
        (candidateIndex_lt_eight hstage hstate hroom) hmade hjudged hgood
      have hbound := hpassing.length_le
      rw [List.length_cons, hlength] at hbound
      rw [if_pos hgood]
      refine ⟨_, hpassing, ?_, ?_⟩
      · rw [List.length_cons, hlength, UInt16.toNat_add, UInt16.toNat_one]
        omega
      · intro i hi
        rcases List.mem_cons.mp hi with rfl | hi
        · exact Nat.lt_succ_self _
        · exact (hlater i hi).trans (Nat.lt_succ_self _)
    · rw [if_neg hgood]
      exact ⟨indices, hperturbed.newer calls, hlength,
        fun i hi ↦ (hlater i hi).trans (Nat.lt_succ_self _)⟩
  · intro hstate hreset
    exact absurd ((hverified hstate).symm.trans hreset)
      Bool.false_ne_true.symm
  · intro hstate hvalid
    have hsame : (judgedWith before metrics samples).state = .verify ∨
        (judgedWith before metrics samples).state = .resetVerify := by
      rw [hunranked.state]
      exact hstate
    have hbase := base_of_made hstate hbatch.candidate
    rw [hstage.base (by rcases hstate with h | h <;> rw [h] <;> rfl)] at hbase
    have hbest : after.stageBestProfile = before.candidateProfile :=
      (hconfirms.profile hsame).trans hprofile
    refine ⟨[], calls, rest, rfl, ?_, ?_, ?_, ?_⟩
    · change Judged after.config after.state after.stageBestProfile calls
        after.stageBestMetrics
      rw [hall.config, hall.state, hbest, hconfirms.metrics hsame, hmetrics]
      exact hjudged
    · change after.stageBestMetrics.passed = true
      rw [hconfirms.metrics hsame, ← hconfirms.valid hsame]
      exact hvalid
    · change after.stageBestProfile = after.selectedProfile
      rw [hbest, hall.selected]
      exact hbase
    · intro hreset
      change after.state = .resetVerify at hreset
      change ∃ oldest, rest = .reset .ok :: oldest ∧
        Cleared after.config after.selectedProfile oldest
      rw [hall.state] at hreset
      rw [hall.config, hall.selected]
      exact hprior.resetVerify hreset (hverified hreset)
        (candidateIndex_zero hstage hreset hroom)

theorem evidence_measured (hevidence : Evidence before log)
    (hsound : Sound before) (haction : nextAction before = .measure)
    {measurement : Measurement} (hafter : measured before measurement = some after) :
    Evidence after (.measure measurement :: log) := by
  obtain ⟨hsettled, hroom, hconfigured⟩ := nextAction_measure.mp haction
  have hactive := hsettled.running
  have hground := hsound.grounded
  have hunpublished := hevidence.unpublished hactive
  have hstage := hevidence.stage hactive
  have hstarted := hsound.started hactive hconfigured
  obtain ⟨htarget, hsample⟩ := hsound.batch hactive hstarted
  have hslot : before.sampleIndex.toNat < before.samples.length := by
    have := UInt16.lt_iff_toNat_lt.mp hsample
    have hfits := (configValid_batches hground.valid before.state).2
    rw [htarget, sampleTarget] at this
    rw [hground.workspace]
    exact this.trans_le hfits
  by_cases hbusy : measurement.status = .busy
  · rw [measured, if_pos hbusy] at hafter
    rw [← Option.some.inj hafter]
    refine evidence_deferAction ?_ ?_ ?_
    · exact hactive
    · exact hunpublished
    · refine hstage.extended (by constructor <;> rfl) [_] (.busy hbusy) ?_
      intro hconfigured hrecovered
      exact ⟨hconfigured, hrecovered, fun _ ↦ rfl⟩
  rw [measured_of_slot hslot hbusy] at hafter
  have hattempted := (attemptOf_attempted hground measurement).judge
    measurement.status
  have hjudged := (hstage.attempted hsettled hstarted hconfigured hslot
    (toNat_succ16 hsample) hbusy).judged measurement.status
  have hreset : (judgeAttempt (attemptOf before measurement)
      measurement.status).resetPerformed = before.resetPerformed := by
    rw [judgeAttempt]
    split_ifs <;> rfl
  have havailable : (judgeAttempt (attemptOf before measurement)
      measurement.status).reportAvailable = before.reportAvailable := by
    rw [judgeAttempt]
    split_ifs <;> rfl
  generalize judgeAttempt (attemptOf before measurement)
    measurement.status = attempt at hattempted hjudged hreset havailable hafter
  have hrunning : active attempt.state = true := hattempted.state ▸ hactive
  rw [hunpublished] at havailable
  split_ifs at hafter
  · rw [← Option.some.inj hafter]
    exact evidence_fail havailable _
  rw [closeBatch] at hafter
  split_ifs at hafter with hfull
  · obtain ⟨ranked, hranked, rfl⟩ := Option.map_eq_some_iff.mp hafter
    have hcomplete : attempt.sampleIndex = sampleTarget attempt := by
      have hupper : attempt.sampleIndex.toNat ≤ before.sampleTarget.toNat := by
        rw [hattempted.sample, toNat_succ16 hsample]
        exact UInt16.lt_iff_toNat_lt.mp hsample
      have hlower := UInt16.le_iff_toNat_le.mp hfull
      rw [hattempted.target] at hlower
      rw [sampleTarget, hattempted.config, hattempted.state, ← sampleTarget,
        ← htarget]
      exact UInt16.toNat_inj.mp (Nat.le_antisymm hupper hlower)
    have hverified : attempt.state = .resetVerify →
        attempt.resetPerformed = true := by
      intro hstate
      rw [hreset]
      exact hsettled.verified (hattempted.state ▸ hstate)
    have hnext : attempt.candidateIndex < attempt.candidateCount := by
      rw [hattempted.index, hattempted.count]
      exact hroom
    obtain ⟨hranks, hleft⟩ := hjudged.considered
      (hattempted.started.trans hstarted) hverified hnext hcomplete hranked
    refine .of_stage ?_ ?_ hleft
    · change active ranked.state = true
      rw [hranks.state]
      exact hrunning
    · change ranked.reportAvailable = false
      rw [hranks.published]
      exact havailable
  · rw [← Option.some.inj hafter]
    exact .of_stage hrunning havailable hjudged

/-! ## Stages that end -/

theorem stage_enterState (state : Max35103AutoCalState)
    (hverified : state = .robustness →
      Perturbed before.config before.selectedProfile [] log ∧
        before.perturbationPassed = 0)
    (hcleared : state = .resetVerify →
      Cleared before.config before.selectedProfile log) :
    Stage (enterState before state) log := by
  refine ⟨fun _ ↦ rfl, ?_, ?_, fun _ _ ↦ ⟨rfl, rfl⟩, hcleared, ?_⟩
  · exact (candidateCount_congr rfl rfl _).symm
  · refine ⟨[], log, rfl, ⟨?_, ?_⟩, ?_, fun _ _ ↦ .nil⟩
    · intro hstate
      obtain ⟨hperturbed, hnone⟩ := hverified hstate
      refine ⟨[], hperturbed, ?_, ?_⟩
      · exact (congrArg UInt16.toNat hnone).symm
      · intro i hi
        contradiction
    · intro _ hreset
      exact absurd hreset Bool.false_ne_true
    · intro hstarted
      exact absurd hstarted Bool.false_ne_true
  · intro _ hvalid
    exact absurd hvalid Bool.false_ne_true

theorem stage_restartStage (hstage : Stage before log)
    (hstate : before.state ≠ .robustness) : Stage (restartStage before) log := by
  have hkept : ∀ {calibrator : Max35103AutoCalibrator},
      SameStage before calibrator → ∀ retries,
        Stage { clearStage calibrator with stageRetryCount := retries } log := by
    intro calibrator hsame retries
    refine ⟨?_, ?_, ?_, fun _ _ ↦ ⟨rfl, rfl⟩, ?_, ?_⟩
    · change confirming calibrator.state = true →
        calibrator.stageBaseProfile = calibrator.selectedProfile
      rw [hsame.state, hsame.base, hsame.selected]
      exact hstage.base
    · change calibrator.candidateCount = candidateCount _ calibrator.state
      rw [hsame.count, hsame.state, hstage.count]
      exact (candidateCount_congr hsame.config hsame.base _).symm
    · refine ⟨[], log, rfl, ⟨?_, ?_⟩, ?_, fun _ _ ↦ .nil⟩
      · intro hrobustness
        exact absurd (hsame.state.symm.trans hrobustness) hstate
      · intro _ hreset
        exact absurd hreset Bool.false_ne_true
      · intro hstarted
        exact absurd hstarted Bool.false_ne_true
    · change calibrator.state = .resetVerify →
        Cleared calibrator.config calibrator.selectedProfile log
      rw [hsame.state, hsame.config, hsame.selected]
      exact hstage.cleared
    · intro _ hvalid
      exact absurd hvalid Bool.false_ne_true
  rw [restartStage]
  split_ifs <;> exact hkept (by constructor <;> rfl) _

theorem evidence_fallBackOrFail (hunpublished : before.reportAvailable = false)
    (hafter : fallBackOrFail before = some after) : Evidence after log := by
  rw [fallBackOrFail] at hafter
  split_ifs at hafter
  · obtain ⟨profile, -, rfl⟩ := Option.map_eq_some_iff.mp hafter
    refine .of_stage rfl hunpublished (stage_enterState _ ?_ ?_)
    · exact fun hstate ↦ absurd hstate (by decide)
    · exact fun hstate ↦ absurd hstate (by decide)
  · rw [← Option.some.inj hafter]
    exact evidence_fail hunpublished _

theorem restartStage_reportAvailable (calibrator : Max35103AutoCalibrator) :
    (restartStage calibrator).reportAvailable = calibrator.reportAvailable := by
  rw [restartStage]
  split_ifs <;> rfl

theorem evidence_retreat (hactive : active before.state = true)
    (hunpublished : before.reportAvailable = false)
    (hstage : Stage before log) (hstate : before.state ≠ .robustness)
    (hafter : retreat before = some after) : Evidence after log := by
  rw [retreat] at hafter
  split_ifs at hafter
  · rw [← Option.some.inj hafter]
    refine .of_stage ?_ ?_ (stage_restartStage hstage hstate)
    · rw [restartStage_state]
      exact hactive
    · rw [restartStage_reportAvailable]
      exact hunpublished
  · exact evidence_fallBackOrFail hunpublished hafter

theorem nextSearchState_confirming {state : Max35103AutoCalState}
    (hstate : state ≠ .verify) :
    nextSearchState state ≠ .robustness ∧
      nextSearchState state ≠ .resetVerify := by
  cases state <;> simp [nextSearchState] at hstate ⊢

theorem active_nextSearchState {state : Max35103AutoCalState}
    (hnext : nextSearchState state ≠ .failed) :
    active (nextSearchState state) = true := by
  cases state <;> simp [nextSearchState, active] at hnext ⊢

theorem commitWinner_frame (hafter : commitWinner before = some after) :
    after.state = before.state ∧
      after.reportAvailable = before.reportAvailable := by
  simp only [commitWinner] at hafter
  split_ifs at hafter
  · obtain ⟨profile, -, rfl⟩ := Option.map_eq_some_iff.mp hafter
    exact ⟨rfl, rfl⟩
  all_goals
    rw [← Option.some.inj hafter]
    exact ⟨rfl, rfl⟩

theorem evidence_finishOrdinaryStage (hactive : active before.state = true)
    (hunpublished : before.reportAvailable = false)
    (hstage : Stage before log) (hstate : confirming before.state = false)
    (hafter : finishOrdinaryStage before = some after) : Evidence after log := by
  rw [finishOrdinaryStage] at hafter
  split_ifs at hafter
  · refine evidence_retreat hactive hunpublished hstage ?_ hafter
    intro hrobustness
    rw [hrobustness] at hstate
    contradiction
  · obtain ⟨committed, hcommitted, rfl⟩ := Option.map_eq_some_iff.mp hafter
    obtain ⟨hkept, havailable⟩ := commitWinner_frame hcommitted
    rw [hunpublished] at havailable
    have hverify : committed.state ≠ .verify := by
      intro hverify
      rw [← hkept, hverify] at hstate
      contradiction
    obtain ⟨hrobustness, hreset⟩ := nextSearchState_confirming hverify
    simp only
    split_ifs with hnext
    · exact evidence_fail havailable _
    · refine .of_stage (active_nextSearchState hnext) havailable
        (stage_enterState _ ?_ ?_)
      · exact fun h ↦ absurd h hrobustness
      · exact fun h ↦ absurd h hreset

/-- The checksum covers everything but itself. -/
theorem reportCrc32_evidence (report : Max35103AutoCalReport) (crc : UInt32) :
    reportCrc32 { report with evidenceCrc32 := crc } = reportCrc32 report := by
  simp only [reportCrc32, reportBytes]

/-- The report that is published once the verified profile is configured. -/
theorem evidence_published {profile : Max35103Profile}
    (hunpublished : before.reportAvailable = false)
    (hstate : before.state = .resetVerify)
    (hstage : Stage before log) (hvalid : before.stageBestValid = true)
    (hprofile : profile = before.stageBestProfile)
    (status : Max35103Status) :
    Evidence (published (selectBest before) status)
      (.configure profile status :: log) := by
  simp only [published]
  split_ifs with hrefused
  · refine evidence_fail ?_ _
    exact hunpublished
  rw [not_not] at hrefused
  subst hrefused hprofile
  obtain ⟨newer, calls, older, rfl, hbest⟩ := hstage.best (.inr hstate) hvalid
  obtain ⟨oldest, rfl, hcleared⟩ := hbest.reset hstate
  have hjudged := hbest.judged
  rw [hstate] at hjudged
  constructor
  · exact ⟨fun _ ↦ rfl, fun _ ↦ rfl⟩
  · intro _
    refine ⟨⟨newer, calls, oldest, rfl, hjudged, ?_⟩, ?_,
      (reportCrc32_evidence _ _).symm⟩
    · change Cleared before.config before.stageBestProfile oldest
      rw [hbest.profile]
      exact hcleared
    · obtain ⟨_, _, _, calibrator, _, _, hsame, _, _, _, hfinal⟩ := hjudged
      exact allGates_of_passed hsame hfinal hbest.passed
  · intro hactive
    contradiction

end

/-! ## Whole runs -/

section

variable {κ : Type*} {backend : Max35103AutoCalBackend κ}

theorem startBatch_reportAvailable (calibrator : Max35103AutoCalibrator) :
    (startBatch calibrator).reportAvailable = calibrator.reportAvailable := by
  rw [startBatch]
  split_ifs <;> rfl

theorem evidence_configureCandidate {world : AutoCalWorld (κ × List BackendCall)}
    (hevidence : Evidence world.calibrator world.context.2)
    (hsound : Sound world.calibrator)
    (haction : nextAction world.calibrator = .configure) :
    Evidence (configureCandidate (logged backend) world).calibrator
      (configureCandidate (logged backend) world).context.2 := by
  obtain ⟨hsettled, hroom, hconfigured⟩ := nextAction_configure haction
  have hactive := hsettled.running
  have hunpublished := hevidence.unpublished hactive
  have hstage := hevidence.stage hactive
  simp only [configureCandidate]
  rcases hmade : makeCandidate world.calibrator
    world.calibrator.candidateIndex with ⟨profile, valid⟩
  cases valid with
  | false =>
      rw [if_pos rfl]
      exact .of_stage hactive hunpublished (hstage.skipped hroom profile)
  | true =>
      have hgood : ¬ true = false := Bool.false_ne_true.symm
      rw [if_neg hgood]
      obtain ⟨hready, hbatch⟩ := hstage.proposed hmade hconfigured
      have hstarts : StartsBatch (proposeCandidate world.calibrator profile)
          (startBatch (proposeCandidate world.calibrator profile)) :=
        startBatch_starts (hsound.proposeCandidate profile) hactive hconfigured
      refine evidence_configured (hstarts.action.trans haction) ?_ hready hbatch _
      rw [startBatch_reportAvailable]
      exact hunpublished

theorem evidence_finishStage {world after : AutoCalWorld (κ × List BackendCall)}
    (hevidence : Evidence world.calibrator world.context.2)
    (haction : nextAction world.calibrator = .finish)
    (hafter : finishStage (logged backend) world = some after) :
    Evidence after.calibrator after.context.2 := by
  obtain ⟨hsettled, hdone⟩ := nextAction_finish haction
  have hactive := hsettled.running
  have hunpublished := hevidence.unpublished hactive
  have hstage := hevidence.stage hactive
  cases hstate : world.calibrator.state
  all_goals simp only [finishStage, hstate] at hafter
  case robustness =>
    obtain ⟨calibrator, hcalibrator, rfl⟩ := Option.map_eq_some_iff.mp hafter
    split_ifs at hcalibrator with hfew
    · exact evidence_fallBackOrFail hunpublished hcalibrator
    · rw [← Option.some.inj hcalibrator]
      refine .of_stage rfl hunpublished (stage_enterState _ ?_ ?_)
      · exact fun h ↦ absurd h (by decide)
      · intro _
        obtain ⟨indices, hperturbed, hlength, -⟩ := hstage.perturbed hstate
        refine ⟨indices, hperturbed, ?_⟩
        rw [hlength]
        exact Nat.not_lt.mp hfew
  case verify =>
    obtain ⟨calibrator, hcalibrator, rfl⟩ := Option.map_eq_some_iff.mp hafter
    split_ifs at hcalibrator with hvalid
    · exact evidence_retreat hactive hunpublished hstage
        (by rw [hstate]; decide) hcalibrator
    · rw [← Option.some.inj hcalibrator]
      refine .of_stage rfl hunpublished (stage_enterState _ ?_ ?_)
      · intro _
        rw [Bool.not_eq_false] at hvalid
        obtain ⟨newer, calls, older, hlog, hbest⟩ :=
          hstage.best (.inl hstate) hvalid
        have hjudged := hbest.judged
        rw [hstate] at hjudged
        rw [hlog]
        exact ⟨.verified newer hjudged hbest.passed, rfl⟩
      · exact fun h ↦ absurd h (by decide)
  case resetVerify =>
    split_ifs at hafter with hvalid
    · obtain ⟨calibrator, hcalibrator, rfl⟩ := Option.map_eq_some_iff.mp hafter
      exact evidence_retreat hactive hunpublished hstage
        (by rw [hstate]; decide) hcalibrator
    · rw [← Option.some.inj hafter]
      rw [Bool.not_eq_false] at hvalid
      exact evidence_published hunpublished hstate hstage hvalid rfl _
  all_goals
    obtain ⟨calibrator, hcalibrator, rfl⟩ := Option.map_eq_some_iff.mp hafter
    exact evidence_finishOrdinaryStage hactive hunpublished hstage
      (by rw [hstate]; rfl) hcalibrator

theorem evidence_step {world after : AutoCalWorld (κ × List BackendCall)}
    (hevidence : Evidence world.calibrator world.context.2)
    (hsound : Sound world.calibrator)
    (hafter : step (logged backend) world = some after) :
    Evidence after.calibrator after.context.2 := by
  rw [step] at hafter
  split at hafter
  next haction =>
    rw [← Option.some.inj hafter]
    exact hevidence
  next haction =>
    rw [← Option.some.inj hafter]
    exact evidence_recovered hevidence haction _
  next haction =>
    rw [← Option.some.inj hafter]
    exact evidence_verifyReset hevidence hsound haction _
  next haction => exact evidence_finishStage hevidence haction hafter
  next haction =>
    rw [← Option.some.inj hafter]
    exact evidence_configureCandidate hevidence hsound haction
  next haction =>
    obtain ⟨calibrator, hcalibrator, rfl⟩ := Option.map_eq_some_iff.mp hafter
    exact evidence_measured hevidence hsound haction hcalibrator

end

/-! ## The configuration of a run -/

section

variable {before after : Max35103AutoCalibrator}

theorem deferAction_config (calibrator : Max35103AutoCalibrator) :
    (deferAction calibrator).config = calibrator.config := by
  simp only [deferAction]
  rw [apply_ite Max35103AutoCalibrator.config]
  exact ite_self _

theorem resetRefused_config (calibrator : Max35103AutoCalibrator) :
    (resetRefused calibrator).config = calibrator.config := by
  simp only [resetRefused]
  split_ifs <;> rfl

theorem configured_config (calibrator : Max35103AutoCalibrator)
    (status : Max35103Status) :
    (configured calibrator status).config = calibrator.config := by
  simp only [configured]
  split_ifs
  · exact deferAction_config _
  all_goals rfl

theorem startBatch_config (calibrator : Max35103AutoCalibrator) :
    (startBatch calibrator).config = calibrator.config := by
  rw [startBatch]
  split_ifs <;> rfl

theorem considerCandidate_config (hout : considerCandidate before = some after) :
    after.config = before.config := by
  obtain ⟨⟨metrics, samples⟩, -, hrank⟩ := Option.bind_eq_some_iff.mp hout
  change rankCandidate (judgedWith before metrics samples) = some after at hrank
  exact (rankCandidate_frame hrank).1.config.trans
    (unranked_judgedWith before metrics samples).ranks.config

theorem measured_config {measurement : Measurement}
    (hout : measured before measurement = some after) :
    after.config = before.config := by
  have hjudged : (judgedAttempt before measurement).config = before.config := by
    rw [judgedAttempt, judgeAttempt]
    split_ifs <;> rfl
  cases answered_of_measured hout with
  | deferred => exact deferAction_config _
  | completed _ _ _ hranked =>
      exact (considerCandidate_config hranked).trans hjudged
  | exhausted => exact hjudged
  | taken => exact hjudged

theorem restartStage_config (calibrator : Max35103AutoCalibrator) :
    (restartStage calibrator).config = calibrator.config := by
  rw [restartStage]
  split_ifs <;> rfl

theorem fallBackOrFail_config (hout : fallBackOrFail before = some after) :
    after.config = before.config := by
  rw [fallBackOrFail] at hout
  split_ifs at hout
  · obtain ⟨profile, -, rfl⟩ := Option.map_eq_some_iff.mp hout
    rfl
  · rw [← Option.some.inj hout]
    rfl

theorem retreat_config (hout : retreat before = some after) :
    after.config = before.config := by
  rw [retreat] at hout
  split_ifs at hout
  · rw [← Option.some.inj hout]
    exact restartStage_config before
  · exact fallBackOrFail_config hout

theorem finishOrdinaryStage_config
    (hout : finishOrdinaryStage before = some after) :
    after.config = before.config := by
  rw [finishOrdinaryStage] at hout
  split_ifs at hout
  · exact retreat_config hout
  · obtain ⟨committed, hcommitted, rfl⟩ := Option.map_eq_some_iff.mp hout
    have hkept : committed.config = before.config := by
      simp only [commitWinner] at hcommitted
      split_ifs at hcommitted
      · obtain ⟨profile, -, rfl⟩ := Option.map_eq_some_iff.mp hcommitted
        rfl
      all_goals
        rw [← Option.some.inj hcommitted]
        rfl
    simp only
    split_ifs <;> exact hkept

variable {κ : Type*} {backend : Max35103AutoCalBackend κ}

theorem finishStage_config {world last : AutoCalWorld κ}
    (hlast : finishStage backend world = some last) :
    last.calibrator.config = world.calibrator.config := by
  cases hstate : world.calibrator.state
  all_goals simp only [finishStage, hstate] at hlast
  case resetVerify =>
    split_ifs at hlast
    · obtain ⟨calibrator, hcalibrator, rfl⟩ := Option.map_eq_some_iff.mp hlast
      exact retreat_config hcalibrator
    · rw [← Option.some.inj hlast]
      simp only [published]
      split_ifs <;> rfl
  case robustness | verify =>
    obtain ⟨calibrator, hcalibrator, rfl⟩ := Option.map_eq_some_iff.mp hlast
    split_ifs at hcalibrator
    · first
      | exact fallBackOrFail_config hcalibrator
      | exact retreat_config hcalibrator
    · rw [← Option.some.inj hcalibrator]
      rfl
  all_goals
    obtain ⟨calibrator, hcalibrator, rfl⟩ := Option.map_eq_some_iff.mp hlast
    exact finishOrdinaryStage_config hcalibrator

theorem step_config {world last : AutoCalWorld κ}
    (hlast : step backend world = some last) :
    last.calibrator.config = world.calibrator.config := by
  rw [step] at hlast
  split at hlast
  · rw [← Option.some.inj hlast]
  · rw [← Option.some.inj hlast]
    simp only [recovered]
    split_ifs
    · exact resetRefused_config _
    · rfl
  · rw [← Option.some.inj hlast]
    simp only [verifyReset]
    split_ifs
    · exact resetRefused_config _
    · rfl
  · exact finishStage_config hlast
  · rw [← Option.some.inj hlast]
    simp only [configureCandidate]
    split_ifs
    · rfl
    · exact (configured_config _ _).trans (startBatch_config _)
  · obtain ⟨calibrator, hcalibrator, rfl⟩ := Option.map_eq_some_iff.mp hlast
    exact measured_config hcalibrator

theorem start_config (calibrator : Max35103AutoCalibrator) :
    (start calibrator).2.config = calibrator.config := by
  rw [start]
  split_ifs
  · rfl
  · cases calibrator.state <;> rfl

theorem cancel_config (calibrator : Max35103AutoCalibrator) :
    (cancel calibrator).config = calibrator.config := by
  rw [cancel]
  cases calibrator.state <;> rfl

/-- No call of the service changes what it was configured with. -/
theorem reachable_config {first world : AutoCalWorld κ}
    (hreach : Reachable backend first world) :
    world.calibrator.config = first.calibrator.config := by
  induction hreach with
  | init => rfl
  | start _ ih => exact (start_config _).trans ih
  | step _ hstep ih => exact (step_config hstep).trans ih
  | cancel _ ih => exact (cancel_config _).trans ih

end

/-! ## Reports are sound -/

section

variable {κ : Type*} {backend : Max35103AutoCalBackend κ}

theorem evidence_start {calibrator : Max35103AutoCalibrator}
    {log : List BackendCall} (hevidence : Evidence calibrator log) :
    Evidence (start calibrator).2 log := by
  have hstarted : Evidence { enterState (clearRun calibrator) .discovery with
      status := .running } log := by
    have hstage : Stage (enterState (clearRun calibrator) .discovery) log :=
      stage_enterState _ (fun h ↦ absurd h (by decide))
        (fun h ↦ absurd h (by decide))
    have hactive :
        active (enterState (clearRun calibrator) .discovery).state = true := rfl
    have hunpublished : (enterState (clearRun calibrator)
        .discovery).reportAvailable = false := rfl
    have hopen : (enterState (clearRun calibrator)
        .discovery).candidateConfigured = false := rfl
    generalize enterState (clearRun calibrator) .discovery = entered
      at hstage hactive hunpublished hopen ⊢
    refine .of_stage hactive hunpublished ?_
    refine hstage.extended (by constructor <;> rfl) [] id ?_
    intro hconfigured
    exact absurd (hopen.symm.trans hconfigured) Bool.false_ne_true
  rw [start]
  split_ifs
  · exact hevidence
  · cases calibrator.state
    case idle | complete | failed | cancelled => exact hstarted
    all_goals exact hevidence

theorem evidence_cancel {calibrator : Max35103AutoCalibrator}
    {log : List BackendCall} (hevidence : Evidence calibrator log) :
    Evidence (cancel calibrator) log := by
  have hcancelled : calibrator.state ≠ .complete →
      Evidence { calibrator with
        state := .cancelled, status := .cancelled
        candidateConfigured := false } log := by
    intro hstate
    have hunpublished : calibrator.reportAvailable = false := by
      simpa [hstate] using hevidence.available
    constructor
    · simp [hunpublished]
    · intro hcomplete
      contradiction
    · intro hactive
      contradiction
  rw [cancel]
  cases hstate : calibrator.state
  case complete | failed => exact hevidence
  all_goals exact hcancelled (by rw [hstate]; decide)

theorem evidence_init {config : Max35103AutoCalConfig}
    {seedProfile : Max35103Profile}
    {sampleWorkspace : List Max35103AutoCalSample} {sampleCapacity : UInt16}
    {calibrator : Max35103AutoCalibrator}
    (hinit : init config seedProfile sampleWorkspace sampleCapacity =
      some calibrator) : Evidence calibrator [] ∧ calibrator.config = config := by
  rw [init] at hinit
  split_ifs at hinit
  obtain rfl := Option.some.inj hinit
  refine ⟨⟨?_, ?_, ?_⟩, rfl⟩
  · simp
  · intro hcomplete
    contradiction
  · intro hactive
    contradiction

theorem evidence_reachable {first world : AutoCalWorld (κ × List BackendCall)}
    (hsound : Sound first.calibrator)
    (hfirst : Evidence first.calibrator first.context.2)
    (hreach : Reachable (logged backend) first world) :
    Evidence world.calibrator world.context.2 := by
  induction hreach with
  | init => exact hfirst
  | start _ ih => exact evidence_start ih
  | cancel _ ih => exact evidence_cancel ih
  | step hbefore hstep ih =>
      exact evidence_step ih (sound_reachable _ hsound hbefore) hstep

/-- Whatever the backend answers and whichever calls are made, a report is
available exactly in COMPLETE, and it stands for what the log shows: its profile
is the last one configured, its metrics come from the batch after the last stage
reset with every gate open, and the profile was verified and perturbed before. -/
theorem report_sound {config : Max35103AutoCalConfig}
    {seedProfile : Max35103Profile}
    {sampleWorkspace : List Max35103AutoCalSample} {sampleCapacity : UInt16}
    {calibrator : Max35103AutoCalibrator} {context : κ}
    {world : AutoCalWorld (κ × List BackendCall)}
    (hsize : sampleWorkspace.length = sampleCapacity.toNat)
    (hinit : init config seedProfile sampleWorkspace sampleCapacity =
      some calibrator)
    (hreach : Reachable (logged backend) ⟨calibrator, (context, [])⟩ world) :
    (hasReport world.calibrator = true ↔ world.calibrator.state = .complete) ∧
      ∀ report, getReport world.calibrator = some report →
        ReportSound config report world.context.2 := by
  obtain ⟨hfirst, hconfig⟩ := evidence_init hinit
  have hevidence := evidence_reachable (sound_init hsize hinit) hfirst hreach
  have hkept := (reachable_config hreach).trans hconfig
  refine ⟨hevidence.available, ?_⟩
  intro report hreport
  rw [getReport] at hreport
  split_ifs at hreport with havailable
  rw [← Option.some.inj hreport, ← hkept]
  exact hevidence.report (hevidence.available.mp havailable)

/-- What is reached by so many steps more. -/
theorem reachable_run {first world last : AutoCalWorld κ} {n : ℕ}
    (hreach : Reachable backend first world)
    (hrun : Descent.run (step backend) n world = some last) :
    Reachable backend first last := by
  induction n generalizing world with
  | zero =>
      rw [← Option.some.inj hrun]
      exact hreach
  | succ n ih =>
      obtain ⟨next, hnext, hrest⟩ := Option.bind_eq_some_iff.mp hrun
      exact ih (hreach.step hnext) hrest

end

/-- The same arrivals over every wave, as the configured profile places them. -/
def steadyArrivals (profile : Max35103Profile) : Vector Int64 6 :=
  Vector.ofFn fun hit : Fin 6 ↦ 10000000 +
    Int64.ofNat (profileHitWave profile hit).toNat * expectedPeriodPs profile

/-- A device in still water; the context is the profile that it was given. -/
def steadyBackend : Max35103AutoCalBackend Max35103Profile :=
  { configure := fun _ profile ↦ (.ok, profile)
    measure := fun profile ↦
      ({  status := .ok
          result := { tofDiffPs := 0, valid := true }
          wave :=
            { wvrUpT1T2Q7 := 100, wvrUpT2IdealQ7 := 100, wvrDownT1T2Q7 := 100
              wvrDownT2IdealQ7 := 100, hitUpPs := steadyArrivals profile
              hitDownPs := steadyArrivals profile
              configuredHitCount := configuredHitCount profile
              valid := true } }, profile)
    reset := fun profile ↦ (.ok, profile) }

theorem report_sound_bench :
    ∃ calibrator last report,
      init benchConfig seedDefault (List.replicate 2 .zero) 2 =
          some calibrator ∧
        Descent.run (step (logged steadyBackend)) 152
          ⟨(start calibrator).2, (.zero, [])⟩ = some last ∧
        getReport last.calibrator = some report ∧
        ReportSound benchConfig report last.context.2 := by
  have hends : ((init benchConfig seedDefault (List.replicate 2 .zero) 2).bind
      fun calibrator ↦
        (Descent.run (step (logged steadyBackend)) 152
          ⟨(start calibrator).2, (.zero, [])⟩).bind fun last ↦
            getReport last.calibrator).isSome = true := by decide +kernel
  obtain ⟨report, hreport⟩ := Option.isSome_iff_exists.mp hends
  obtain ⟨calibrator, hinit, hreport⟩ := Option.bind_eq_some_iff.mp hreport
  obtain ⟨last, hrun, hreport⟩ := Option.bind_eq_some_iff.mp hreport
  have hsound := report_sound rfl hinit
    (reachable_run (.start .init) hrun)
  exact ⟨calibrator, last, report, hinit, hrun, hreport,
    hsound.2 report hreport⟩

end Swfpm.AutoCal
