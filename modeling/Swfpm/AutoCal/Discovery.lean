import Swfpm.AutoCal.Finalists
import Swfpm.AutoCal.Report

/-!
# The search for profile families

While DISCOVERY runs, the eligible candidates that its batches put up are
written down next to the world.  The finalists are the best families of what
was written down, and the best candidate of the stage is the first of them.
-/

namespace Swfpm.AutoCal

open BestOfFamilies

/-! ## What is considered -/

/-- What a full batch puts up: its candidate, if it is eligible. -/
def entrants (calibrator : Max35103AutoCalibrator) : List Finalist :=
  match finalizeMetrics calibrator calibrator.candidateMetrics with
  | none => []
  | some (metrics, _) =>
      if candidateEligible calibrator metrics then
        [(calibrator.candidateProfile, metrics)]
      else []

variable {κ : Type*}

/-- What a call considers: a measurement that completes a batch puts it up. -/
def considered (backend : Max35103AutoCalBackend κ) (world : AutoCalWorld κ) :
    List Finalist :=
  let measurement := (backend.measure world.context).1
  let attempt := judgedAttempt world.calibrator measurement
  if nextAction world.calibrator = .measure ∧ measurement.status ≠ .busy ∧
      exhausts world.calibrator measurement = false ∧
      attempt.sampleIndex ≥ attempt.sampleTarget then
    entrants attempt
  else []

/-- A step, and all that was considered since DISCOVERY began; the end of the
stage, which may start it again, begins a new list. -/
def searchStep (backend : Max35103AutoCalBackend κ) :
    List Finalist × AutoCalWorld κ → Option (List Finalist × AutoCalWorld κ) :=
  fun (seen, world) ↦
    (step backend world).map fun after ↦
      (if nextAction world.calibrator = .finish then []
        else seen ++ considered backend world, after)

/-- The best eligible candidate of the stage. -/
def stageBest (calibrator : Max35103AutoCalibrator) : Option Finalist :=
  if calibrator.stageBestValid then
    some (calibrator.stageBestProfile, calibrator.stageBestMetrics)
  else none

/-- The finalists are the best families of what was considered. -/
structure KeepsBest (seen : List Finalist)
    (calibrator : Max35103AutoCalibrator) : Prop where
  families : finalists calibrator =
    bestFamilies finalistFamily finalistScore 4 seen
  sorted : (finalists calibrator).Pairwise
    fun held later ↦ finalistScore held ≤ finalistScore later
  distinct : ((finalists calibrator).map finalistFamily).Nodup
  length : (finalists calibrator).length =
    calibrator.discoveryFinalistCount.toNat
  most : calibrator.discoveryFinalistCount.toNat ≤ 4
  head : (finalists calibrator).head? = stageBest calibrator

/-! ## One candidate -/

section

variable {before after : Max35103AutoCalibrator} {seen : List Finalist}

/-- What the search has kept: folds over what was considered. -/
structure Kept (seen : List Finalist) (calibrator : Max35103AutoCalibrator) :
    Prop where
  arrays : Arrays calibrator
  families : finalists calibrator =
    seen.foldl (keepBest finalistFamily finalistScore 4) []
  best : stageBest calibrator = seen.foldl (better finalistScore) none

theorem Kept.keepsBest (hkept : Kept seen before) : KeepsBest seen before := by
  have hfamilies := hkept.families.trans (foldl_keepBest 4 seen)
  constructor
  · exact hfamilies
  · rw [hfamilies]
    exact bestFamilies_sorted 4 seen
  · rw [hfamilies]
    exact bestFamilies_nodup 4 seen
  · exact hkept.arrays.length hkept.arrays.count
  · exact hkept.arrays.count
  · rw [hfamilies, hkept.best]
    exact head?_bestFamilies (by decide) seen

/-- What a search rests on and its finalists stay, and so does its stage, or
the run is over. -/
structure SameRoots (before after : Max35103AutoCalibrator) : Prop where
  state : after.state = before.state ∨ active after.state = false
  config : after.config = before.config
  seed : after.seedProfile = before.seedProfile
  selected : after.selectedProfile = before.selectedProfile
  base : after.stageBaseProfile = before.stageBaseProfile
  candidates : after.candidateCount = before.candidateCount
  profiles : after.discoveryFinalistProfiles = before.discoveryFinalistProfiles
  metrics : after.discoveryFinalistMetrics = before.discoveryFinalistMetrics
  count : after.discoveryFinalistCount = before.discoveryFinalistCount

/-- The best candidate of the stage stays as well. -/
structure SameSearch (before after : Max35103AutoCalibrator) : Prop
    extends SameRoots before after where
  valid : after.stageBestValid = before.stageBestValid
  best : after.stageBestProfile = before.stageBestProfile
  bestMetrics : after.stageBestMetrics = before.stageBestMetrics

theorem SameRoots.trans {middle : Max35103AutoCalibrator}
    (hfirst : SameRoots before middle) (hlast : SameRoots middle after) :
    SameRoots before after := by
  constructor
  · rcases hlast.state with hstate | hstate
    · rw [hstate]
      exact hfirst.state
    · exact .inr hstate
  · exact hlast.config.trans hfirst.config
  · exact hlast.seed.trans hfirst.seed
  · exact hlast.selected.trans hfirst.selected
  · exact hlast.base.trans hfirst.base
  · exact hlast.candidates.trans hfirst.candidates
  · exact hlast.profiles.trans hfirst.profiles
  · exact hlast.metrics.trans hfirst.metrics
  · exact hlast.count.trans hfirst.count

theorem SameRoots.finalists_eq (hsame : SameRoots before after) :
    finalists after = finalists before := by
  rw [finalists, firstFinalists, hsame.profiles, hsame.metrics, hsame.count]
  rfl

theorem SameRoots.arrays (hsame : SameRoots before after)
    (harrays : Arrays before) : Arrays after := by
  constructor
  · rw [hsame.profiles]
    exact harrays.profiles
  · rw [hsame.metrics]
    exact harrays.metrics
  · rw [hsame.count]
    exact harrays.count

theorem SameSearch.stageBest_eq (hsame : SameSearch before after) :
    stageBest after = stageBest before := by
  rw [stageBest, stageBest, hsame.valid, hsame.best, hsame.bestMetrics]

theorem SameSearch.kept (hsame : SameSearch before after)
    (hkept : Kept seen before) : Kept seen after := by
  constructor
  · exact hsame.arrays hkept.arrays
  · rw [hsame.finalists_eq]
    exact hkept.families
  · rw [hsame.stageBest_eq]
    exact hkept.best

theorem SameSearch.trans {middle : Max35103AutoCalibrator}
    (hfirst : SameSearch before middle) (hlast : SameSearch middle after) :
    SameSearch before after := by
  constructor
  · exact hfirst.toSameRoots.trans hlast.toSameRoots
  · exact hlast.valid.trans hfirst.valid
  · exact hlast.best.trans hfirst.best
  · exact hlast.bestMetrics.trans hfirst.bestMetrics

/-- The candidate against the best one so far. -/
theorem stageBest_considerBest (calibrator : Max35103AutoCalibrator) :
    stageBest (considerBest calibrator) =
      better finalistScore (stageBest calibrator)
        (calibrator.candidateProfile, calibrator.candidateMetrics) := by
  cases hvalid : calibrator.stageBestValid with
  | false =>
      rw [considerBest, if_pos (.inl hvalid), stageBest, stageBest, if_pos rfl,
        if_neg (by rw [hvalid]; decide), better, if_pos]
      rintro held ⟨⟩
  | true =>
      have hbest : stageBest calibrator =
          some (calibrator.stageBestProfile, calibrator.stageBestMetrics) :=
        if_pos hvalid
      have hstays : ¬ calibrator.stageBestValid = false := by
        rw [hvalid]
        decide
      rw [hbest, better, considerBest]
      by_cases hscore : calibrator.candidateMetrics.score <
          calibrator.stageBestMetrics.score
      · rw [if_pos (.inr hscore), if_pos]
        · rfl
        · rintro held ⟨⟩
          exact UInt64.lt_iff_toNat_lt.mp hscore
      · rw [if_neg (not_or.mpr ⟨hstays, hscore⟩), if_neg, hbest]
        intro hall
        exact hscore (UInt64.lt_iff_toNat_lt.mpr (hall _ rfl))

theorem sameRoots_considerBest (calibrator : Max35103AutoCalibrator) :
    SameRoots calibrator (considerBest calibrator) := by
  rw [considerBest]
  split_ifs <;> exact ⟨.inl rfl, rfl, rfl, rfl, rfl, rfl, rfl, rfl, rfl⟩

/-- One more eligible candidate. -/
theorem Kept.ranked {inserted : Max35103AutoCalibrator} (hkept : Kept seen before)
    (hinserted : insertDiscoveryFinalist before before.candidateProfile
      before.candidateMetrics = some inserted) :
    Kept (seen ++ [(before.candidateProfile, before.candidateMetrics)])
      (considerBest inserted) := by
  have hnodup : ((finalists before).map finalistFamily).Nodup := by
    rw [hkept.families, foldl_keepBest]
    exact bestFamilies_nodup 4 seen
  obtain ⟨result, hresult, harrays, hfinalists⟩ :=
    insertDiscoveryFinalist_finalists hkept.arrays hnodup
      before.candidateProfile before.candidateMetrics
  obtain rfl := Option.some.inj (hinserted.symm.trans hresult)
  obtain ⟨profiles, finalistMetrics, size, rfl⟩ :=
    insertDiscoveryFinalist_frame hinserted
  have hroots := sameRoots_considerBest { before with
    discoveryFinalistProfiles := profiles
    discoveryFinalistMetrics := finalistMetrics
    discoveryFinalistCount := size }
  constructor
  · exact hroots.arrays harrays
  · rw [List.foldl_append, ← hkept.families, hroots.finalists_eq]
    exact hfinalists
  · rw [List.foldl_append, ← hkept.best]
    exact stageBest_considerBest _

theorem candidateEligible_congr (hconfig : after.config = before.config)
    (hstate : after.state = before.state) (metrics : Max35103AutoCalMetrics) :
    candidateEligible after metrics = candidateEligible before metrics := by
  rw [candidateEligible, candidateEligible, stageWaveformGate,
    stageWaveformGate, periodGate, periodGate, hconfig, hstate]

theorem sameSearch_judgedWith (calibrator : Max35103AutoCalibrator)
    (metrics : Max35103AutoCalMetrics) (samples : List Max35103AutoCalSample) :
    SameSearch calibrator (judgedWith calibrator metrics samples) := by
  rw [judgedWith, considerClosest]
  split_ifs
  all_goals
    exact ⟨⟨.inl rfl, rfl, rfl, rfl, rfl, rfl, rfl, rfl, rfl⟩, rfl, rfl, rfl⟩

/-- A batch of DISCOVERY puts up its candidate. -/
theorem Kept.considered (hkept : Kept seen before)
    (hstate : before.state = .discovery)
    (hranked : considerCandidate before = some after) :
    Kept (seen ++ entrants before) after := by
  obtain ⟨⟨metrics, samples⟩, hfinal, hrank⟩ :=
    Option.bind_eq_some_iff.mp hranked
  change rankCandidate (judgedWith before metrics samples) = some after at hrank
  obtain ⟨hunranked, hprofile, -, hmetrics⟩ :=
    unranked_judgedWith before metrics samples
  have hjudged := (sameSearch_judgedWith before metrics samples).kept hkept
  generalize judgedWith before metrics samples = judged at *
  have heligible : candidateEligible judged judged.candidateMetrics =
      candidateEligible before metrics := by
    rw [hmetrics]
    exact candidateEligible_congr hunranked.config hunranked.state metrics
  simp only [rankCandidate, hunranked.state.trans hstate, heligible] at hrank
  simp only [entrants, hfinal]
  cases hcase : candidateEligible before metrics with
  | false =>
      rw [if_pos hcase] at hrank
      obtain rfl := Option.some.inj hrank
      rw [if_neg Bool.false_ne_true, List.append_nil]
      exact hjudged
  | true =>
      rw [if_neg (by rw [hcase]; decide), Option.map_eq_some_iff] at hrank
      obtain ⟨inserted, hinserted, rfl⟩ := hrank
      rw [if_pos rfl, ← hprofile, ← hmetrics]
      exact hjudged.ranked hinserted

/-! ## One call -/

theorem sameSearch_fail (calibrator : Max35103AutoCalibrator)
    (status : Max35103AutoCalStatus) :
    SameSearch calibrator (fail calibrator status) :=
  ⟨⟨.inr rfl, rfl, rfl, rfl, rfl, rfl, rfl, rfl, rfl⟩, rfl, rfl, rfl⟩

theorem sameSearch_deferAction (calibrator : Max35103AutoCalibrator)
    (status : Max35103Status) :
    SameSearch calibrator (deferAction (noteStatus calibrator status)) := by
  simp only [deferAction]
  split_ifs
  all_goals first
    | exact ⟨⟨.inr rfl, rfl, rfl, rfl, rfl, rfl, rfl, rfl, rfl⟩, rfl, rfl, rfl⟩
    | exact ⟨⟨.inl rfl, rfl, rfl, rfl, rfl, rfl, rfl, rfl, rfl⟩, rfl, rfl, rfl⟩

theorem sameSearch_resetRefused (calibrator : Max35103AutoCalibrator)
    (status : Max35103Status) :
    SameSearch calibrator (resetRefused (noteStatus calibrator status)) := by
  simp only [resetRefused]
  split_ifs
  · exact ⟨⟨.inr rfl, rfl, rfl, rfl, rfl, rfl, rfl, rfl, rfl⟩, rfl, rfl, rfl⟩
  · exact ⟨⟨.inl rfl, rfl, rfl, rfl, rfl, rfl, rfl, rfl, rfl⟩, rfl, rfl, rfl⟩

theorem sameSearch_recovered (calibrator : Max35103AutoCalibrator)
    (status : Max35103Status) :
    SameSearch calibrator (recovered calibrator status) := by
  simp only [recovered]
  split_ifs
  · exact sameSearch_resetRefused calibrator status
  · exact ⟨⟨.inl rfl, rfl, rfl, rfl, rfl, rfl, rfl, rfl, rfl⟩, rfl, rfl, rfl⟩

theorem sameSearch_verifyReset (calibrator : Max35103AutoCalibrator)
    (status : Max35103Status) :
    SameSearch calibrator (verifyReset calibrator status) := by
  simp only [verifyReset]
  split_ifs
  · exact sameSearch_resetRefused calibrator status
  · exact ⟨⟨.inl rfl, rfl, rfl, rfl, rfl, rfl, rfl, rfl, rfl⟩, rfl, rfl, rfl⟩

theorem sameSearch_configured (calibrator : Max35103AutoCalibrator)
    (status : Max35103Status) :
    SameSearch calibrator (configured calibrator status) := by
  simp only [configured]
  split_ifs
  · exact sameSearch_deferAction calibrator status
  all_goals first
    | exact ⟨⟨.inl rfl, rfl, rfl, rfl, rfl, rfl, rfl, rfl, rfl⟩, rfl, rfl, rfl⟩
    | exact ⟨⟨.inr rfl, rfl, rfl, rfl, rfl, rfl, rfl, rfl, rfl⟩, rfl, rfl, rfl⟩

theorem sameSearch_startBatch (calibrator : Max35103AutoCalibrator)
    (profile : Max35103Profile) :
    SameSearch calibrator
      (startBatch (proposeCandidate calibrator profile)) := by
  rw [startBatch]
  split_ifs
  all_goals
    exact ⟨⟨.inl rfl, rfl, rfl, rfl, rfl, rfl, rfl, rfl, rfl⟩, rfl, rfl, rfl⟩

theorem sameSearch_configureCandidate {κ : Type*}
    (backend : Max35103AutoCalBackend κ) (world : AutoCalWorld κ) :
    SameSearch world.calibrator
      (configureCandidate backend world).calibrator := by
  simp only [configureCandidate]
  rcases hmade : makeCandidate world.calibrator
    world.calibrator.candidateIndex with ⟨profile, valid⟩
  cases valid with
  | false =>
      rw [if_pos rfl]
      exact ⟨⟨.inl rfl, rfl, rfl, rfl, rfl, rfl, rfl, rfl, rfl⟩, rfl, rfl, rfl⟩
  | true =>
      rw [if_neg Bool.false_ne_true.symm]
      exact (sameSearch_startBatch world.calibrator profile).trans
        (sameSearch_configured _ _)

theorem sameSearch_judgedAttempt (calibrator : Max35103AutoCalibrator)
    (measurement : Measurement) :
    SameSearch calibrator (judgedAttempt calibrator measurement) := by
  have hattempt : SameSearch calibrator (attemptOf calibrator measurement) :=
    ⟨⟨.inl rfl, rfl, rfl, rfl, rfl, rfl, rfl, rfl, rfl⟩, rfl, rfl, rfl⟩
  refine hattempt.trans ?_
  rw [judgedAttempt]
  generalize attemptOf calibrator measurement = attempt
  rw [judgeAttempt]
  split_ifs
  all_goals
    exact ⟨⟨.inl rfl, rfl, rfl, rfl, rfl, rfl, rfl, rfl, rfl⟩, rfl, rfl, rfl⟩

theorem judgedAttempt_state (calibrator : Max35103AutoCalibrator)
    (measurement : Measurement) :
    (judgedAttempt calibrator measurement).state = calibrator.state := by
  rw [judgedAttempt, judgeAttempt]
  split_ifs
  all_goals rfl

variable {κ : Type*} {backend : Max35103AutoCalBackend κ}

/-- A measurement of DISCOVERY puts up a candidate exactly when it completes
the batch. -/
theorem Kept.measured {world : AutoCalWorld κ} (hkept : Kept seen world.calibrator)
    (hstate : world.calibrator.state = .discovery)
    (haction : nextAction world.calibrator = .measure)
    (hafter : measured world.calibrator (backend.measure world.context).1 =
      some after) :
    Kept (seen ++ AutoCal.considered backend world) after := by
  simp only [AutoCal.considered]
  generalize (backend.measure world.context).1 = measurement at *
  have hattempt :=
    (sameSearch_judgedAttempt world.calibrator measurement).kept hkept
  cases answered_of_measured hafter with
  | deferred hbusy =>
      rw [if_neg (fun hall ↦ hall.2.1 hbusy), List.append_nil]
      exact (sameSearch_deferAction _ _).kept hkept
  | exhausted _ hexhausts =>
      rw [if_neg (fun hall ↦ absurd hexhausts (by rw [hall.2.2.1]; decide)),
        List.append_nil]
      exact (sameSearch_fail _ _).kept hattempt
  | @completed ranked hbusy hexhausts hfull hranked =>
      have hleft : SameSearch ranked (leaveCandidate ranked) :=
        ⟨⟨.inl rfl, rfl, rfl, rfl, rfl, rfl, rfl, rfl, rfl⟩, rfl, rfl, rfl⟩
      rw [if_pos ⟨haction, hbusy, hexhausts, hfull⟩]
      refine hleft.kept (hattempt.considered ?_ hranked)
      exact (judgedAttempt_state world.calibrator measurement).trans hstate
  | taken _ _ hroom =>
      rw [if_neg (fun hall ↦ hroom hall.2.2.2), List.append_nil]
      exact hattempt

/-! ## The end of a stage -/

theorem kept_nil (hprofiles : before.discoveryFinalistProfiles =
      List.replicate 4 .zero)
    (hmetrics : before.discoveryFinalistMetrics = List.replicate 4 .zero)
    (hcount : before.discoveryFinalistCount = 0)
    (hvalid : before.stageBestValid = false) : Kept [] before := by
  constructor
  · constructor
    · rw [hprofiles, List.length_replicate]
    · rw [hmetrics, List.length_replicate]
    · rw [hcount]
      decide
  · rw [finalists, firstFinalists, hcount]
    rfl
  · rw [stageBest, hvalid]
    rfl

theorem kept_restartStage (hstate : before.state = .discovery) :
    Kept [] (restartStage before) := by
  rw [restartStage, if_pos hstate]
  exact kept_nil rfl rfl rfl rfl

/-- No fallback leads back to DISCOVERY. -/
theorem fallBackOrFail_state (hafter : fallBackOrFail before = some after) :
    after.state ≠ .discovery := by
  rw [fallBackOrFail] at hafter
  split_ifs at hafter
  · obtain ⟨profile, -, rfl⟩ := Option.map_eq_some_iff.mp hafter
    change Max35103AutoCalState.biasCharge ≠ .discovery
    decide
  · rw [← Option.some.inj hafter]
    change Max35103AutoCalState.failed ≠ .discovery
    decide

theorem retreat_discovery (hafter : retreat before = some after)
    (hstate : after.state = .discovery) :
    before.state = .discovery ∧ after = restartStage before := by
  rw [retreat] at hafter
  split_ifs at hafter
  · obtain rfl := Option.some.inj hafter
    exact ⟨(restartStage_state before).symm.trans hstate, rfl⟩
  · exact absurd hstate (fallBackOrFail_state hafter)

theorem nextSearchState_ne_discovery (state : Max35103AutoCalState) :
    nextSearchState state ≠ .discovery := by
  cases state <;> decide

theorem finishOrdinaryStage_discovery
    (hafter : finishOrdinaryStage before = some after)
    (hstate : after.state = .discovery) :
    before.state = .discovery ∧ after = restartStage before := by
  rw [finishOrdinaryStage] at hafter
  split_ifs at hafter
  · exact retreat_discovery hafter hstate
  · obtain ⟨winner, -, rfl⟩ := Option.map_eq_some_iff.mp hafter
    dsimp only at hstate
    split_ifs at hstate
    · exact absurd hstate (by change Max35103AutoCalState.failed ≠ _; decide)
    · exact absurd hstate (nextSearchState_ne_discovery _)

theorem published_state (calibrator : Max35103AutoCalibrator)
    (status : Max35103Status) :
    (published calibrator status).state ≠ .discovery := by
  simp only [published]
  by_cases hstatus : status ≠ .ok
  · rw [if_pos hstatus]
    change Max35103AutoCalState.failed ≠ .discovery
    decide
  · rw [if_neg hstatus]
    change Max35103AutoCalState.complete ≠ .discovery
    decide

/-- The only end of a stage that DISCOVERY follows is its own restart. -/
theorem finishStage_discovery {world last : AutoCalWorld κ}
    (hlast : finishStage backend world = some last)
    (hstate : last.calibrator.state = .discovery) :
    world.calibrator.state = .discovery ∧
      last.calibrator = restartStage world.calibrator := by
  simp only [finishStage] at hlast
  split at hlast
  · obtain ⟨after, hafter, rfl⟩ := Option.map_eq_some_iff.mp hlast
    split_ifs at hafter
    · exact absurd hstate (fallBackOrFail_state hafter)
    · obtain rfl := Option.some.inj hafter
      exact absurd hstate (by change Max35103AutoCalState.resetVerify ≠ _; decide)
  · obtain ⟨after, hafter, rfl⟩ := Option.map_eq_some_iff.mp hlast
    split_ifs at hafter
    · exact retreat_discovery hafter hstate
    · obtain rfl := Option.some.inj hafter
      exact absurd hstate (by change Max35103AutoCalState.robustness ≠ _; decide)
  next hverify =>
    split_ifs at hlast
    · obtain ⟨after, hafter, rfl⟩ := Option.map_eq_some_iff.mp hlast
      exact retreat_discovery hafter hstate
    · obtain rfl := Option.some.inj hlast
      exact absurd hstate (published_state _ _)
  · obtain ⟨after, hafter, rfl⟩ := Option.map_eq_some_iff.mp hlast
    exact finishOrdinaryStage_discovery hafter hstate

/-! ## Runs -/

theorem measured_state {measurement : Measurement}
    (hafter : measured before measurement = some after) :
    after.state = before.state ∨ active after.state = false := by
  have hstate := judgedAttempt_state before measurement
  cases answered_of_measured hafter with
  | deferred => exact (sameSearch_deferAction _ _).state
  | exhausted => exact .inr rfl
  | taken => exact .inl hstate
  | completed _ _ _ hranked =>
      obtain ⟨⟨metrics, samples⟩, hfinal, hrank⟩ :=
        Option.bind_eq_some_iff.mp hranked
      have hunranked := unranked_judgedWith (judgedAttempt before measurement)
        metrics samples
      exact .inl (((rankCandidate_frame hrank).1.state.trans
        hunranked.ranks.state).trans hstate)

/-- Whatever leads to DISCOVERY other than a start comes from it. -/
theorem step_discovery {world last : AutoCalWorld κ}
    (hlast : step backend world = some last)
    (hstate : last.calibrator.state = .discovery) :
    world.calibrator.state = .discovery := by
  have hback : ∀ {before after : Max35103AutoCalibrator},
      after.state = before.state ∨ active after.state = false →
        after.state = .discovery → before.state = .discovery := by
    rintro before after (hsame | hidle) hafter
    · exact hsame.symm.trans hafter
    · rw [hafter] at hidle
      cases hidle
  rw [step] at hlast
  split at hlast
  · rw [Option.some.inj hlast]
    exact hstate
  · obtain rfl := Option.some.inj hlast
    exact hback (sameSearch_recovered _ _).state hstate
  · obtain rfl := Option.some.inj hlast
    exact hback (sameSearch_verifyReset _ _).state hstate
  · exact (finishStage_discovery hlast hstate).1
  · obtain rfl := Option.some.inj hlast
    exact hback (sameSearch_configureCandidate backend world).state hstate
  · obtain ⟨after, hafter, rfl⟩ := Option.map_eq_some_iff.mp hlast
    exact hback (measured_state hafter) hstate

/-- One call keeps the best families, if DISCOVERY goes on or starts again. -/
theorem searchStep_kept {searched next : List Finalist × AutoCalWorld κ}
    (hstep : searchStep backend searched = some next)
    (hkept : searched.2.calibrator.state = .discovery →
      Kept searched.1 searched.2.calibrator)
    (hstate : next.2.calibrator.state = .discovery) :
    Kept next.1 next.2.calibrator := by
  obtain ⟨seen, world⟩ := searched
  obtain ⟨last, hlast, rfl⟩ := Option.map_eq_some_iff.mp hstep
  have hbefore := step_discovery hlast hstate
  replace hkept := hkept hbefore
  have hquiet : nextAction world.calibrator ≠ .measure →
      seen ++ AutoCal.considered backend world = seen := by
    intro hother
    simp only [AutoCal.considered]
    rw [if_neg (fun hall ↦ hother hall.1), List.append_nil]
  rw [step] at hlast
  dsimp only at hstate ⊢
  cases haction : nextAction world.calibrator <;>
    simp only [haction] at hlast hquiet ⊢
  case rest =>
    rw [if_neg (by decide), hquiet (by decide), ← Option.some.inj hlast]
    exact hkept
  case recover =>
    rw [if_neg (by decide), hquiet (by decide), ← Option.some.inj hlast]
    exact (sameSearch_recovered _ _).kept hkept
  case resetForVerify =>
    rw [if_neg (by decide), hquiet (by decide), ← Option.some.inj hlast]
    exact (sameSearch_verifyReset _ _).kept hkept
  case configure =>
    rw [if_neg (by decide), hquiet (by decide), ← Option.some.inj hlast]
    exact (sameSearch_configureCandidate backend world).kept hkept
  case finish =>
    rw [if_pos trivial, (finishStage_discovery hlast hstate).2]
    exact kept_restartStage hbefore
  case measure =>
    obtain ⟨after, hafter, rfl⟩ := Option.map_eq_some_iff.mp hlast
    rw [if_neg (by decide)]
    exact hkept.measured hbefore haction hafter

theorem searchRun_kept {n : ℕ} {searched last : List Finalist × AutoCalWorld κ}
    (hkept : searched.2.calibrator.state = .discovery →
      Kept searched.1 searched.2.calibrator)
    (hrun : Descent.run (searchStep backend) n searched = some last)
    (hstate : last.2.calibrator.state = .discovery) :
    Kept last.1 last.2.calibrator := by
  induction n generalizing searched with
  | zero =>
      obtain rfl := Option.some.inj hrun
      exact hkept hstate
  | succ n ih =>
      obtain ⟨next, hnext, hrest⟩ := Option.bind_eq_some_iff.mp hrun
      exact ih (searchStep_kept hnext hkept) hrest

/-- A start of a calibrator at rest clears what an earlier search has kept. -/
theorem kept_start (hidle : active before.state = false)
    (hstate : (start before).2.state = .discovery) :
    Kept [] (start before).2 := by
  have hother : before.state ≠ .discovery := by
    intro hsame
    rw [hsame] at hidle
    cases hidle
  rw [start] at hstate ⊢
  by_cases hvalid : configValid before.config before.sampleCapacity = false
  · rw [if_pos hvalid] at hstate
    exact absurd hstate hother
  rw [if_neg hvalid] at hstate ⊢
  cases hbefore : before.state <;> simp only [hbefore] at hstate ⊢
  case idle | complete | failed | cancelled => exact kept_nil rfl rfl rfl rfl
  all_goals exact absurd (hbefore ▸ hidle) (by decide)

theorem start_of_active (hactive : active before.state = true) :
    (start before).2 = before := by
  rw [start]
  split_ifs
  · rfl
  · cases hbefore : before.state <;> simp only [hbefore] at hactive ⊢
    case idle | complete | failed | cancelled => cases hactive

/-- Every search for families that calls can reach began with a start. -/
theorem reachable_discovery {first world : AutoCalWorld κ}
    (hreach : Reachable backend first world)
    (hfirst : active first.calibrator.state = false)
    (hstate : world.calibrator.state = .discovery) :
    ∃ (rest : Max35103AutoCalibrator) (context : κ) (n : ℕ)
      (seen : List Finalist), active rest.state = false ∧
        Descent.run (searchStep backend) n ([], ⟨(start rest).2, context⟩) =
          some (seen, world) := by
  induction hreach with
  | init =>
      rw [hstate] at hfirst
      cases hfirst
  | @start world hreach ih =>
      cases hactive : active world.calibrator.state with
      | false => exact ⟨world.calibrator, world.context, 0, [], hactive, rfl⟩
      | true =>
          simp only [start_of_active hactive] at hstate ⊢
          exact ih hstate
  | @step world after hreach hstep ih =>
      obtain ⟨rest, context, n, seen, hidle, hrun⟩ :=
        ih (step_discovery hstep hstate)
      exact ⟨rest, context, n + 1, _, hidle, (Descent.run_concat hrun).trans
        (Option.map_eq_some_iff.mpr ⟨after, hstep, rfl⟩)⟩
  | @cancel world hreach ih =>
      cases hbefore : world.calibrator.state <;>
        simp only [cancel, hbefore, reduceCtorEq] at hstate

/-- Discovery keeps the best families of all that it considered. -/
theorem discovery_keeps_best (hidle : active before.state = false) (context : κ)
    {n : ℕ} {world : AutoCalWorld κ}
    (hrun : Descent.run (searchStep backend) n
      ([], ⟨(start before).2, context⟩) = some (seen, world))
    (hstate : world.calibrator.state = .discovery) :
    KeepsBest seen world.calibrator :=
  (searchRun_kept (kept_start hidle) hrun hstate).keepsBest

end

/-- The bench with four families of launches. -/
def launchConfig : Max35103AutoCalConfig :=
  { benchConfig with
    pulseCountMin := 20
    pulseCountStep := 4
    tryBothPolarities := true }

theorem discovery_keeps_best_bench :
    ∃ calibrator seen world,
      init launchConfig seedDefault (List.replicate 2 .zero) 2 =
          some calibrator ∧
        Descent.run (searchStep steadyBackend) 27
          ([], ⟨(start calibrator).2, .zero⟩) = some (seen, world) ∧
        seen.length = 9 ∧ KeepsBest seen world.calibrator := by
  have hsearch : ((init launchConfig seedDefault (List.replicate 2 .zero)
      2).bind fun calibrator ↦
        (Descent.run (searchStep steadyBackend) 27
          ([], ⟨(start calibrator).2, .zero⟩)).map fun last ↦
            (calibrator.state, last.1.length, last.2.calibrator.state)) =
      some (.idle, 9, .discovery) := by decide +kernel
  obtain ⟨calibrator, hinit, hsearch⟩ := Option.bind_eq_some_iff.mp hsearch
  obtain ⟨⟨seen, world⟩, hrun, hlast⟩ := Option.map_eq_some_iff.mp hsearch
  obtain ⟨hidle, hlength, hstate⟩ : calibrator.state = .idle ∧
      seen.length = 9 ∧ world.calibrator.state = .discovery := by
    simpa using hlast
  exact ⟨calibrator, seen, world, hinit, hrun, hlength,
    discovery_keeps_best (by rw [hidle]; rfl) .zero hrun hstate⟩

end Swfpm.AutoCal
