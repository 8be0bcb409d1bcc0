import Swfpm.AutoCal.Discovery

/-!
# The profiles that a calibrator holds

The seed, the base of the stage, the best candidates: whatever profile a search
rests on or keeps was the seed or a candidate that passed the structural check.
A property that the seed has, and that passes from a base to its candidates, is
one of all of them, at any time.
-/

namespace Swfpm.AutoCal

open BestOfFamilies

/-- What outlives a stage is good. -/
structure GoodHeld (good : Max35103Profile → Prop)
    (calibrator : Max35103AutoCalibrator) : Prop where
  seed : good calibrator.seedProfile
  selected : good calibrator.selectedProfile
  arrays : Arrays calibrator
  families : ((finalists calibrator).map finalistFamily).Nodup
  finalists : ∀ finalist ∈ finalists calibrator, good finalist.1

/-- What a stage rests on: a good base, in DISCOVERY the seed, and the number of
its candidates. -/
structure GoodStage (good : Max35103Profile → Prop)
    (calibrator : Max35103AutoCalibrator) : Prop where
  base : good calibrator.stageBaseProfile
  first : calibrator.state = .discovery →
    calibrator.stageBaseProfile = calibrator.seedProfile
  count : calibrator.candidateCount = candidateCount calibrator calibrator.state

structure GoodProfiles (good : Max35103Profile → Prop)
    (calibrator : Max35103AutoCalibrator) : Prop where
  held : GoodHeld good calibrator
  stage : active calibrator.state = true → GoodStage good calibrator
  best : calibrator.stageBestValid = true → good calibrator.stageBestProfile
  candidate : calibrator.candidateConfigured = true →
    good calibrator.candidateProfile

/-- A stage with a good base makes good candidates. -/
def MakesGood (good : Max35103Profile → Prop)
    (config : Max35103AutoCalConfig) : Prop :=
  ∀ (calibrator : Max35103AutoCalibrator) (profile : Max35103Profile),
    calibrator.config = config → active calibrator.state = true →
      GoodStage good calibrator →
        calibrator.candidateIndex < calibrator.candidateCount →
          makeCandidate calibrator calibrator.candidateIndex = (profile, true) →
            good profile

section

variable {good : Max35103Profile → Prop}
variable {before after : Max35103AutoCalibrator}

/-! ## Updates that keep the profiles -/

theorem SameRoots.held (hsame : SameRoots before after)
    (hheld : GoodHeld good before) : GoodHeld good after := by
  constructor
  · rw [hsame.seed]
    exact hheld.seed
  · rw [hsame.selected]
    exact hheld.selected
  · exact hsame.arrays hheld.arrays
  · rw [hsame.finalists_eq]
    exact hheld.families
  · rw [hsame.finalists_eq]
    exact hheld.finalists

theorem SameRoots.stage (hsame : SameRoots before after)
    (hstage : active before.state = true → GoodStage good before)
    (hactive : active after.state = true) : GoodStage good after := by
  rcases hsame.state with hstate | hidle
  · obtain ⟨hbase, hfirst, hcount⟩ := hstage (hstate ▸ hactive)
    constructor
    · rw [hsame.base]
      exact hbase
    · rw [hstate, hsame.base, hsame.seed]
      exact hfirst
    · rw [hsame.candidates, hstate, candidateCount_congr hsame.config hsame.base]
      exact hcount
  · exact absurd (hidle.symm.trans hactive) Bool.false_ne_true

/-- A new best profile, or a new candidate. -/
theorem GoodProfiles.rooted (hgood : GoodProfiles good before)
    (hroots : SameRoots before after)
    (hbest : after.stageBestValid = true → good after.stageBestProfile)
    (hcandidate : after.candidateConfigured = true →
      good after.candidateProfile) : GoodProfiles good after :=
  { held := hroots.held hgood.held
    stage := hroots.stage hgood.stage
    best := hbest
    candidate := hcandidate }

theorem GoodProfiles.same (hgood : GoodProfiles good before)
    (hsame : SameSearch before after)
    (hcandidate : after.candidateConfigured = true →
      good after.candidateProfile) : GoodProfiles good after := by
  refine hgood.rooted hsame.toSameRoots ?_ hcandidate
  rw [hsame.valid, hsame.best]
  exact hgood.best

/-- A run that fails has no candidate configured. -/
theorem GoodProfiles.fail (hgood : GoodProfiles good before)
    (status : Max35103AutoCalStatus) : GoodProfiles good (fail before status) := by
  refine hgood.same (sameSearch_fail before status) ?_
  intro hconfigured
  cases hconfigured

theorem deferAction_candidate (calibrator : Max35103AutoCalibrator)
    (status : Max35103Status) :
    (deferAction (noteStatus calibrator status)).candidateProfile =
      calibrator.candidateProfile := by
  simp only [deferAction]
  split_ifs <;> rfl

theorem configured_candidate (calibrator : Max35103AutoCalibrator)
    (status : Max35103Status) :
    (configured calibrator status).candidateProfile =
      calibrator.candidateProfile := by
  simp only [configured]
  split_ifs
  · exact deferAction_candidate calibrator status
  all_goals rfl

theorem startBatch_candidate (calibrator : Max35103AutoCalibrator) :
    (startBatch calibrator).candidateProfile = calibrator.candidateProfile := by
  rw [startBatch]
  split_ifs <;> rfl

theorem GoodProfiles.resetRefused (hgood : GoodProfiles good before)
    (status : Max35103Status) :
    GoodProfiles good (resetRefused (noteStatus before status)) := by
  refine hgood.same (sameSearch_resetRefused before status) ?_
  simp only [AutoCal.resetRefused]
  split_ifs
  · intro hconfigured
    cases hconfigured
  · exact hgood.candidate

theorem GoodProfiles.recovered (hgood : GoodProfiles good before)
    (status : Max35103Status) : GoodProfiles good (recovered before status) := by
  by_cases hstatus : status ≠ .ok
  · rw [AutoCal.recovered, if_pos hstatus]
    exact hgood.resetRefused status
  · refine hgood.same (sameSearch_recovered before status) ?_
    rw [AutoCal.recovered, if_neg hstatus]
    intro hconfigured
    cases hconfigured

theorem GoodProfiles.verifyReset (hgood : GoodProfiles good before)
    (status : Max35103Status) : GoodProfiles good (verifyReset before status) := by
  by_cases hstatus : status ≠ .ok
  · rw [AutoCal.verifyReset, if_pos hstatus]
    exact hgood.resetRefused status
  · refine hgood.same (sameSearch_verifyReset before status) ?_
    rw [AutoCal.verifyReset, if_neg hstatus]
    intro hconfigured
    cases hconfigured

variable {κ : Type*} {backend : Max35103AutoCalBackend κ}

theorem GoodProfiles.configureCandidate {world : AutoCalWorld κ}
    (hgood : GoodProfiles good world.calibrator)
    (hmakes : MakesGood good world.calibrator.config)
    (haction : nextAction world.calibrator = .configure) :
    GoodProfiles good (configureCandidate backend world).calibrator := by
  obtain ⟨hsettled, hroom, hnone⟩ := nextAction_configure haction
  refine hgood.same (sameSearch_configureCandidate backend world) ?_
  simp only [AutoCal.configureCandidate]
  rcases hmade : makeCandidate world.calibrator
    world.calibrator.candidateIndex with ⟨profile, valid⟩
  cases valid with
  | false =>
      rw [if_pos rfl]
      intro hconfigured
      exact absurd (hnone.symm.trans hconfigured) Bool.false_ne_true
  | true =>
      rw [if_neg Bool.false_ne_true.symm]
      intro _
      rw [configured_candidate, startBatch_candidate]
      exact hmakes world.calibrator profile rfl hsettled.running
        (hgood.stage hsettled.running) hroom hmade

/-! ## Candidates that are ranked -/

theorem GoodProfiles.considerBest (hgood : GoodProfiles good before)
    (hcandidate : good before.candidateProfile) :
    GoodProfiles good (considerBest before) := by
  apply hgood.rooted (sameRoots_considerBest before)
  · rw [AutoCal.considerBest]
    split_ifs
    · exact fun _ ↦ hcandidate
    · exact hgood.best
  · rw [AutoCal.considerBest]
    split_ifs <;> exact hgood.candidate

theorem GoodProfiles.inserted (hgood : GoodProfiles good before)
    (hcandidate : good before.candidateProfile)
    {metrics : Max35103AutoCalMetrics}
    (hout : insertDiscoveryFinalist before before.candidateProfile metrics =
      some after) : GoodProfiles good after := by
  obtain ⟨result, hresult, harrays, hfinalists⟩ :=
    insertDiscoveryFinalist_finalists hgood.held.arrays hgood.held.families
      before.candidateProfile metrics
  obtain rfl := Option.some.inj (hout.symm.trans hresult)
  obtain ⟨profiles, finalistMetrics, size, rfl⟩ :=
    insertDiscoveryFinalist_frame hout
  constructor
  · refine ⟨hgood.held.seed, hgood.held.selected, harrays, ?_, ?_⟩
    · rw [hfinalists]
      exact keepBest_nodup hgood.held.families
    · rw [hfinalists]
      intro finalist hmem
      rcases mem_of_mem_keepBest hmem with rfl | hkept
      · exact hcandidate
      · exact hgood.held.finalists finalist hkept
  · intro hactive
    obtain ⟨hbase, hfirst, hcount⟩ := hgood.stage hactive
    exact ⟨hbase, hfirst, hcount.trans (candidateCount_congr rfl rfl _).symm⟩
  · exact hgood.best
  · exact hgood.candidate

theorem GoodProfiles.ranked (hgood : GoodProfiles good before)
    (hcandidate : good before.candidateProfile)
    (hrank : rankCandidate before = some after) : GoodProfiles good after := by
  cases hstate : before.state
  all_goals simp only [rankCandidate, hstate] at hrank
  case robustness =>
    obtain rfl := Option.some.inj hrank
    exact hgood.same
      ⟨⟨.inl hstate.symm, rfl, rfl, rfl, rfl, rfl, rfl, rfl, rfl⟩, rfl, rfl, rfl⟩
      hgood.candidate
  case verify | resetVerify =>
    obtain rfl := Option.some.inj hrank
    exact hgood.rooted
      ⟨.inl hstate.symm, rfl, rfl, rfl, rfl, rfl, rfl, rfl, rfl⟩
      (fun _ ↦ hcandidate) hgood.candidate
  case discovery =>
    split_ifs at hrank
    · rw [← Option.some.inj hrank]
      exact hgood
    · obtain ⟨inserted, hinserted, rfl⟩ := Option.map_eq_some_iff.mp hrank
      obtain ⟨profiles, finalistMetrics, size, rfl⟩ :=
        insertDiscoveryFinalist_frame hinserted
      exact (hgood.inserted hcandidate hinserted).considerBest hcandidate
  all_goals
    split_ifs at hrank
    · rw [← Option.some.inj hrank]
      exact hgood
    · rw [← Option.some.inj hrank]
      exact hgood.considerBest hcandidate

theorem judgedAttempt_candidate (calibrator : Max35103AutoCalibrator)
    (measurement : Measurement) :
    (judgedAttempt calibrator measurement).candidateProfile =
      calibrator.candidateProfile := by
  rw [judgedAttempt, judgeAttempt]
  split_ifs <;> rfl

theorem GoodProfiles.measured {measurement : Measurement}
    (hgood : GoodProfiles good before)
    (hcandidate : good before.candidateProfile)
    (hafter : measured before measurement = some after) :
    GoodProfiles good after := by
  have hjudged := judgedAttempt_candidate before measurement
  have hattempt : GoodProfiles good (judgedAttempt before measurement) := by
    refine hgood.same (sameSearch_judgedAttempt before measurement) fun _ ↦ ?_
    rw [hjudged]
    exact hcandidate
  cases answered_of_measured hafter with
  | deferred =>
      refine hgood.same (sameSearch_deferAction _ _) fun _ ↦ ?_
      rw [deferAction_candidate]
      exact hcandidate
  | exhausted => exact hattempt.fail _
  | taken => exact hattempt
  | @completed ranked _ _ _ hranked =>
      obtain ⟨⟨metrics, samples⟩, -, hrank⟩ := Option.bind_eq_some_iff.mp hranked
      have hprofile := (unranked_judgedWith (judgedAttempt before measurement)
        metrics samples).profile
      have hchecked : good (judgedWith
          (judgedAttempt before measurement) metrics samples).candidateProfile := by
        rw [hprofile, hjudged]
        exact hcandidate
      have hclosest := hattempt.same (sameSearch_judgedWith _ metrics samples)
        fun _ ↦ hchecked
      have hdone := hclosest.ranked hchecked hrank
      refine hdone.same
        ⟨⟨.inl rfl, rfl, rfl, rfl, rfl, rfl, rfl, rfl, rfl⟩, rfl, rfl, rfl⟩ ?_
      intro hconfigured
      cases hconfigured

/-! ## The end of a stage -/

theorem goodProfiles_enterState {state : Max35103AutoCalState}
    (hheld : GoodHeld good before)
    (hfirst : state = .discovery →
      before.selectedProfile = before.seedProfile) :
    GoodProfiles good (enterState before state) := by
  constructor
  · exact ⟨hheld.seed, hheld.selected, ⟨hheld.arrays.profiles,
      hheld.arrays.metrics, hheld.arrays.count⟩, hheld.families, hheld.finalists⟩
  · intro _
    exact ⟨hheld.selected, hfirst, rfl⟩
  · intro hbest
    cases hbest
  · intro hconfigured
    cases hconfigured

theorem GoodHeld.clearFinalists (hheld : GoodHeld good before) :
    GoodHeld good (clearFinalists before) := by
  refine ⟨hheld.seed, hheld.selected, ⟨rfl, rfl, Nat.zero_le 4⟩, .nil, ?_⟩
  intro finalist hmem
  cases hmem

theorem GoodHeld.clearStage (hheld : GoodHeld good before) (retries : UInt8) :
    GoodHeld good { clearStage before with stageRetryCount := retries } :=
  ⟨hheld.seed, hheld.selected, ⟨hheld.arrays.profiles, hheld.arrays.metrics,
    hheld.arrays.count⟩, hheld.families, hheld.finalists⟩

theorem GoodProfiles.restartStage (hgood : GoodProfiles good before) :
    GoodProfiles good (restartStage before) := by
  have hheld : GoodHeld good (AutoCal.restartStage before) := by
    by_cases hdiscovery : before.state = .discovery
    · rw [AutoCal.restartStage, if_pos hdiscovery]
      exact hgood.held.clearFinalists.clearStage _
    · rw [AutoCal.restartStage, if_neg hdiscovery]
      exact hgood.held.clearStage _
  refine ⟨hheld, ?_, ?_, ?_⟩
  · intro hactive
    rw [restartStage_state] at hactive
    obtain ⟨hbase, hfirst, hcount⟩ := hgood.stage hactive
    rw [AutoCal.restartStage]
    split_ifs
    all_goals
      exact ⟨hbase, hfirst, hcount.trans (candidateCount_congr rfl rfl _).symm⟩
  · intro hbest
    cases hbest
  · intro hconfigured
    cases hconfigured

/-- What the index of a finalist finds is a finalist. -/
theorem GoodHeld.finalist (hheld : GoodHeld good before) {index : ℕ}
    (hindex : index < before.discoveryFinalistCount.toNat)
    {profile : Max35103Profile}
    (hprofile : before.discoveryFinalistProfiles[index]? = some profile) :
    good profile := by
  rw [← List.getElem?_take_of_lt hindex, ← firstFinalists_fst hheld.arrays]
    at hprofile
  obtain ⟨finalist, hmem, rfl⟩ :=
    List.mem_map.mp (List.mem_of_getElem? hprofile)
  exact hheld.finalists finalist hmem

theorem GoodProfiles.fallBackOrFail (hgood : GoodProfiles good before)
    (hafter : fallBackOrFail before = some after) : GoodProfiles good after := by
  obtain ⟨hseed, -, harrays, hfamilies, hfinalists⟩ := hgood.held
  rw [AutoCal.fallBackOrFail] at hafter
  split_ifs at hafter with hallowed
  · obtain ⟨profile, hprofile, rfl⟩ := Option.map_eq_some_iff.mp hafter
    have hlater : before.discoveryFinalistIndex.toNat + 1 <
        before.discoveryFinalistCount.toNat := by
      simp only [fallbackAllowed, Bool.and_eq_true, decide_eq_true_eq] at hallowed
      exact hallowed.2
    have hmost := harrays.count
    have hnext : (before.discoveryFinalistIndex + 1).toNat =
        before.discoveryFinalistIndex.toNat + 1 := by
      rw [UInt8.toNat_add, UInt8.toNat_one]
      omega
    refine goodProfiles_enterState ⟨hseed, ?_, ⟨harrays.profiles,
      harrays.metrics, harrays.count⟩, hfamilies, hfinalists⟩ ?_
    · exact hgood.held.finalist (hnext.trans_lt hlater) hprofile
    · intro hstate
      cases hstate
  · rw [← Option.some.inj hafter]
    exact hgood.fail _

theorem GoodProfiles.retreat (hgood : GoodProfiles good before)
    (hafter : retreat before = some after) : GoodProfiles good after := by
  rw [AutoCal.retreat] at hafter
  split_ifs at hafter
  · rw [← Option.some.inj hafter]
    exact hgood.restartStage
  · exact hgood.fallBackOrFail hafter

/-- Another valid profile is selected. -/
theorem GoodProfiles.select (hgood : GoodProfiles good before)
    {profile : Max35103Profile} (hprofile : good profile)
    (index : UInt8) :
    GoodProfiles good { before with
      selectedProfile := profile
      discoveryFinalistIndex := index } := by
  obtain ⟨hseed, -, harrays, hfamilies, hfinalists⟩ := hgood.held
  constructor
  · exact ⟨hseed, hprofile, ⟨harrays.profiles, harrays.metrics, harrays.count⟩,
      hfamilies, hfinalists⟩
  · intro hactive
    obtain ⟨hbase, hfirst, hcount⟩ := hgood.stage hactive
    exact ⟨hbase, hfirst, hcount.trans (candidateCount_congr rfl rfl _).symm⟩
  · exact hgood.best
  · exact hgood.candidate

theorem GoodProfiles.commitWinner (hgood : GoodProfiles good before)
    (hbest : before.stageBestValid = true)
    (hafter : commitWinner before = some after) : GoodProfiles good after := by
  have hwinner := hgood.best hbest
  simp only [AutoCal.commitWinner] at hafter
  split_ifs at hafter with hdiscovery hsome
  · obtain ⟨profile, hprofile, rfl⟩ := Option.map_eq_some_iff.mp hafter
    refine hgood.select (hgood.held.finalist ?_ hprofile) 0
    exact Nat.pos_of_ne_zero fun hzero ↦ hsome (UInt8.toNat_inj.mp hzero)
  · rw [← Option.some.inj hafter]
    exact hgood.select hwinner 0
  · rw [← Option.some.inj hafter]
    exact hgood.select hwinner before.discoveryFinalistIndex

theorem GoodProfiles.finishOrdinaryStage (hgood : GoodProfiles good before)
    (hafter : finishOrdinaryStage before = some after) :
    GoodProfiles good after := by
  rw [AutoCal.finishOrdinaryStage] at hafter
  split_ifs at hafter with hnone
  · exact hgood.retreat hafter
  · obtain ⟨winner, hwinner, rfl⟩ := Option.map_eq_some_iff.mp hafter
    have hcommitted :=
      hgood.commitWinner ((Bool.not_eq_false _).mp hnone) hwinner
    dsimp only
    split_ifs
    · exact hcommitted.fail _
    · refine goodProfiles_enterState hcommitted.held fun hstate ↦ ?_
      exact absurd hstate (nextSearchState_ne_discovery _)

theorem GoodProfiles.published (hgood : GoodProfiles good before)
    (status : Max35103Status) : GoodProfiles good (published before status) := by
  by_cases hstatus : status ≠ .ok
  · have hnoted : GoodProfiles good (noteStatus before status) := hgood.same
      ⟨⟨.inl rfl, rfl, rfl, rfl, rfl, rfl, rfl, rfl, rfl⟩, rfl, rfl, rfl⟩
      hgood.candidate
    rw [AutoCal.published, if_pos hstatus]
    exact hnoted.fail _
  · rw [AutoCal.published, if_neg hstatus]
    exact hgood.same
      ⟨⟨.inr rfl, rfl, rfl, rfl, rfl, rfl, rfl, rfl, rfl⟩, rfl, rfl, rfl⟩
      hgood.candidate

theorem GoodProfiles.finishStage {world last : AutoCalWorld κ}
    (hgood : GoodProfiles good world.calibrator)
    (hlast : finishStage backend world = some last) :
    GoodProfiles good last.calibrator := by
  have hwinner : ¬ world.calibrator.stageBestValid = false →
      GoodProfiles good (selectBest world.calibrator) := fun hsome ↦
    hgood.select (hgood.best ((Bool.not_eq_false _).mp hsome))
      world.calibrator.discoveryFinalistIndex
  simp only [AutoCal.finishStage] at hlast
  split at hlast
  · obtain ⟨after, hafter, rfl⟩ := Option.map_eq_some_iff.mp hlast
    split_ifs at hafter
    · exact hgood.fallBackOrFail hafter
    · rw [← Option.some.inj hafter]
      refine goodProfiles_enterState hgood.held fun hstate ↦ ?_
      cases hstate
  · obtain ⟨after, hafter, rfl⟩ := Option.map_eq_some_iff.mp hlast
    split_ifs at hafter with hnone
    · exact hgood.retreat hafter
    · have hheld := (hwinner hnone).held
      rw [← Option.some.inj hafter]
      refine goodProfiles_enterState ⟨hheld.seed, hheld.selected,
        ⟨hheld.arrays.profiles, hheld.arrays.metrics, hheld.arrays.count⟩,
        hheld.families, hheld.finalists⟩ fun hstate ↦ ?_
      cases hstate
  · split_ifs at hlast with hnone
    · obtain ⟨after, hafter, rfl⟩ := Option.map_eq_some_iff.mp hlast
      exact hgood.retreat hafter
    · rw [← Option.some.inj hlast]
      exact (hwinner hnone).published _
  · obtain ⟨after, hafter, rfl⟩ := Option.map_eq_some_iff.mp hlast
    exact hgood.finishOrdinaryStage hafter

/-! ## Runs -/

theorem GoodProfiles.step {world last : AutoCalWorld κ}
    (hgood : GoodProfiles good world.calibrator)
    (hmakes : MakesGood good world.calibrator.config)
    (hlast : step backend world = some last) :
    GoodProfiles good last.calibrator := by
  rw [AutoCal.step] at hlast
  cases haction : nextAction world.calibrator <;> simp only [haction] at hlast
  case rest =>
    rw [← Option.some.inj hlast]
    exact hgood
  case recover =>
    rw [← Option.some.inj hlast]
    exact hgood.recovered _
  case resetForVerify =>
    rw [← Option.some.inj hlast]
    exact hgood.verifyReset _
  case finish => exact hgood.finishStage hlast
  case configure =>
    rw [← Option.some.inj hlast]
    exact hgood.configureCandidate hmakes haction
  case measure =>
    obtain ⟨after, hafter, rfl⟩ := Option.map_eq_some_iff.mp hlast
    obtain ⟨-, -, hconfigured⟩ := nextAction_measure.mp haction
    exact hgood.measured (hgood.candidate hconfigured) hafter

theorem GoodProfiles.running (hgood : GoodProfiles good before) :
    GoodProfiles good { before with status := .running } :=
  hgood.same
    ⟨⟨.inl rfl, rfl, rfl, rfl, rfl, rfl, rfl, rfl, rfl⟩, rfl, rfl, rfl⟩
    hgood.candidate

theorem GoodProfiles.start (hgood : GoodProfiles good before) :
    GoodProfiles good (start before).2 := by
  cases hactive : active before.state with
  | true =>
      rw [start_of_active hactive]
      exact hgood
  | false =>
      rw [AutoCal.start]
      split_ifs
      · exact hgood
      · have hcleared := hgood.held.clearFinalists
        have hentered : GoodProfiles good (enterState (clearRun before) .discovery) :=
          goodProfiles_enterState ⟨hcleared.seed, hcleared.seed,
            ⟨hcleared.arrays.profiles, hcleared.arrays.metrics,
              hcleared.arrays.count⟩, hcleared.families, hcleared.finalists⟩
            fun _ ↦ rfl
        cases hbefore : before.state <;> simp only
        case idle | complete | failed | cancelled => exact hentered.running
        all_goals exact absurd (hbefore ▸ hactive) (by decide)

theorem GoodProfiles.cancel (hgood : GoodProfiles good before) :
    GoodProfiles good (cancel before) := by
  rw [AutoCal.cancel]
  split
  · exact hgood
  · exact hgood
  · refine hgood.same
      ⟨⟨.inr rfl, rfl, rfl, rfl, rfl, rfl, rfl, rfl, rfl⟩, rfl, rfl, rfl⟩ ?_
    intro hconfigured
    cases hconfigured

theorem goodProfiles_init {config : Max35103AutoCalConfig}
    {seedProfile : Max35103Profile} {workspace : List Max35103AutoCalSample}
    {capacity : UInt16} {calibrator : Max35103AutoCalibrator}
    (hinit : init config seedProfile workspace capacity = some calibrator)
    (hseed : good seedProfile) : GoodProfiles good calibrator := by
  rw [init] at hinit
  split_ifs at hinit
  obtain rfl := Option.some.inj hinit
  refine ⟨⟨hseed, hseed, ⟨rfl, rfl, Nat.zero_le 4⟩, .nil, ?_⟩, ?_, ?_, ?_⟩
  · intro finalist hmem
    cases hmem
  · intro hactive
    cases hactive
  · intro hbest
    cases hbest
  · intro hconfigured
    cases hconfigured

/-- At no time does a calibrator hold a profile that is not good. -/
theorem goodProfiles_reachable {first world : AutoCalWorld κ}
    (hfirst : GoodProfiles good first.calibrator)
    (hmakes : MakesGood good first.calibrator.config)
    (hreach : Reachable backend first world) :
    GoodProfiles good world.calibrator := by
  induction hreach with
  | init => exact hfirst
  | start _ ih => exact ih.start
  | step hbefore hstep ih =>
      rw [← reachable_config hbefore] at hmakes
      exact ih.step hmakes hstep
  | cancel _ ih => exact ih.cancel

end

end Swfpm.AutoCal
