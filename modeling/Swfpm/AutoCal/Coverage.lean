import Swfpm.AutoCal.GridPoints
import Swfpm.AutoCal.HeldProfiles

/-!
# The candidates of a stage cover its grid

The indices of a stage and the points of its grid correspond to each other.  A
candidate is the base of its stage but for the fields that the stage owns.  These
are within the configured bounds, and so is every field that the seed has there;
a seed may lie outside, and then stays there until a stage owns the field.
-/

namespace Swfpm.AutoCal

/-- The candidate that is written at an index. -/
def candidateAt (calibrator : Max35103AutoCalibrator) (index : UInt32) :
    Max35103Profile :=
  (makeCandidate calibrator index).1

/-- The indices of a stage that are not reserved. -/
def gridIndices (calibrator : Max35103AutoCalibrator) : Set UInt32 :=
  {index | firstIndex calibrator.state ≤ index ∧
    index < calibrator.candidateCount}

/-- The candidates of a stage are the points of its grid, within the bounds of
these fields, and tune nothing but what the stage owns. -/
structure CoversGrid (calibrator : Max35103AutoCalibrator)
    (bounded : Set TunedField) : Prop where
  reserved : ∀ index < firstIndex calibrator.state,
    candidateAt calibrator index = calibrator.stageBaseProfile
  points : Set.BijOn (fun index ↦ readField (candidateAt calibrator index))
    (gridIndices calibrator)
    (stageGrid calibrator.config calibrator.stageBaseProfile calibrator.state)
  within : ∀ index ∈ gridIndices calibrator, ∀ field ∈ bounded,
    readField (candidateAt calibrator index) field ∈
      bounds calibrator.config field
  others : ∀ index ∈ gridIndices calibrator, ∀ field,
    owns calibrator.state field = false →
      readField (candidateAt calibrator index) field =
        readField calibrator.stageBaseProfile field
  outside : ∀ index ∈ gridIndices calibrator,
    (ownedBits calibrator.state).clear (candidateAt calibrator index) =
      (ownedBits calibrator.state).clear calibrator.stageBaseProfile
  hits : owns calibrator.state .t2Wave = true →
    ∀ index ∈ gridIndices calibrator, ∀ hit < 6,
      (profileHitWave (candidateAt calibrator index) hit).toNat =
        (profileT2 (candidateAt calibrator index)).toNat + hit + 1

section

variable {calibrator : Max35103AutoCalibrator} {index : UInt32}

theorem candidateAt_of_built {candidate : Max35103Profile}
    (hbuilt : buildCandidate calibrator index = some candidate) :
    candidateAt calibrator index = candidate := by
  rw [candidateAt, makeCandidate, hbuilt]

/-- Only candidates that pass the check are tried. -/
theorem valid_of_made {profile : Max35103Profile}
    (hmade : makeCandidate calibrator index = (profile, true)) :
    validateProfile profile = .ok := by
  rw [makeCandidate] at hmade
  split at hmade
  · cases hmade
  · obtain ⟨rfl, hchecked⟩ := Prod.mk.inj hmade
    exact of_decide_eq_true hchecked

/-- The only reserved index is the first one of DISCOVERY. -/
theorem candidateAt_reserved {good : Max35103Profile → Prop}
    (hstage : GoodStage good calibrator)
    (hindex : index < firstIndex calibrator.state) :
    candidateAt calibrator index = calibrator.stageBaseProfile := by
  have hbelow := UInt32.lt_iff_toNat_lt.mp hindex
  cases hstate : calibrator.state <;> rw [hstate] at hbelow
  case discovery =>
    have hzero : index = 0 :=
      UInt32.toNat_inj.mp (Nat.lt_one_iff.mp hbelow)
    subst hzero
    rw [hstage.first hstate]
    apply candidateAt_of_built
    rw [buildCandidate, hstate]
    rfl
  all_goals exact absurd hbelow (Nat.not_lt_zero _)

section Points

variable {count : ℕ} {point : UInt32 → TunedField → ℤ}

/-- An index of the grid without the reserved ones before it. -/
theorem StagePoints.below (hpoints : StagePoints calibrator count point)
    (hcount : calibrator.candidateCount =
      candidateCount calibrator calibrator.state)
    (hindex : index ∈ gridIndices calibrator) :
    (index - firstIndex calibrator.state).toNat < count := by
  have htotal := hpoints.total
  have hfirst := UInt32.le_iff_toNat_le.mp hindex.1
  have hlast := UInt32.lt_iff_toNat_lt.mp hindex.2
  rw [← hcount] at htotal
  rw [UInt32.toNat_sub_of_le _ _ hindex.1]
  omega

theorem StagePoints.mem_gridIndices (hpoints : StagePoints calibrator count point)
    (hcount : calibrator.candidateCount =
      candidateCount calibrator calibrator.state)
    (hindex : index.toNat < count) :
    index + firstIndex calibrator.state ∈ gridIndices calibrator := by
  have htotal := hpoints.total
  have hword := calibrator.candidateCount.toNat_lt
  rw [← hcount] at htotal
  have hsum : (index + firstIndex calibrator.state).toNat =
      index.toNat + (firstIndex calibrator.state).toNat := by
    rw [UInt32.toNat_add]
    exact Nat.mod_eq_of_lt (by omega)
  constructor
  · rw [UInt32.le_iff_toNat_le, hsum]
    exact Nat.le_add_left _ _
  · rw [UInt32.lt_iff_toNat_lt, hsum]
    omega

/-- What is written at an index of the grid. -/
theorem StagePoints.candidateAt (hpoints : StagePoints calibrator count point)
    (hcount : calibrator.candidateCount =
      candidateCount calibrator calibrator.state)
    (hindex : index ∈ gridIndices calibrator) :
    readField (candidateAt calibrator index) =
        point (index - firstIndex calibrator.state) ∧
      Tunes calibrator.state calibrator.stageBaseProfile
        (AutoCal.candidateAt calibrator index) := by
  obtain ⟨candidate, hbuilt, hread, htunes⟩ :=
    hpoints.reads _ (hpoints.below hcount hindex)
  rw [UInt32.sub_add_cancel] at hbuilt
  rw [candidateAt_of_built hbuilt]
  exact ⟨hread, htunes⟩

theorem StagePoints.bijOn (hpoints : StagePoints calibrator count point)
    (hcount : calibrator.candidateCount =
      candidateCount calibrator calibrator.state) :
    Set.BijOn (fun index ↦ readField (AutoCal.candidateAt calibrator index))
      (gridIndices calibrator)
      (stageGrid calibrator.config calibrator.stageBaseProfile
        calibrator.state) := by
  refine ⟨?_, ?_, ?_⟩
  · intro index hindex
    simp only [(hpoints.candidateAt hcount hindex).1]
    exact hpoints.grid.mem (hpoints.below hcount hindex)
  · intro index hindex other hother heq
    simp only [(hpoints.candidateAt hcount hindex).1,
      (hpoints.candidateAt hcount hother).1] at heq
    have hshifted := hpoints.grid.injOn (hpoints.below hcount hindex)
      (hpoints.below hcount hother) heq
    rw [← UInt32.sub_add_cancel index (firstIndex calibrator.state), hshifted,
      UInt32.sub_add_cancel]
  · intro target htarget
    have hsmall : count ≤ 2 ^ 32 := by
      have htotal := hpoints.total
      have hword := (candidateCount calibrator calibrator.state).toNat_lt
      omega
    obtain ⟨index, hindex, rfl⟩ := hpoints.grid.surjOn hsmall htarget
    have hmem := hpoints.mem_gridIndices hcount hindex
    refine ⟨index + firstIndex calibrator.state, hmem, ?_⟩
    simp only [(hpoints.candidateAt hcount hmem).1, UInt32.add_sub_cancel]

end Points

/-! ## Profiles within bounds -/

/-- A valid profile with these fields within the configured bounds. -/
structure WithinBounds (config : Max35103AutoCalConfig)
    (fields : Set TunedField) (profile : Max35103Profile) : Prop where
  valid : validateProfile profile = .ok
  within : ∀ field ∈ fields, readField profile field ∈ bounds config field

variable {fields : Set TunedField}

/-- Every stage that searches covers its grid. -/
theorem coversGrid_of_stage (hranges : SearchRanges calibrator.config)
    (hstage : GoodStage (WithinBounds calibrator.config fields) calibrator)
    (hsearches : searches calibrator.state = true) :
    CoversGrid calibrator
      ({field | owns calibrator.state field = true} ∪ fields) := by
  obtain ⟨count, point, hpoints⟩ :=
    stage_points hranges hsearches hstage.first
  have hbijOn := hpoints.bijOn hstage.count
  have hreserved := reservedClear_of_valid hstage.base.valid
  have howned : ∀ index ∈ gridIndices calibrator, ∀ field,
      owns calibrator.state field = true →
        readField (candidateAt calibrator index) field ∈
          bounds calibrator.config field := fun index hindex field howns ↦
    axis_subset_bounds hranges calibrator.stageBaseProfile howns
      (hbijOn.mapsTo hindex field trivial)
  have hothers : ∀ index ∈ gridIndices calibrator, ∀ field,
      owns calibrator.state field = false →
        readField (candidateAt calibrator index) field =
          readField calibrator.stageBaseProfile field := by
    intro index hindex field hother
    have hfixed := hbijOn.mapsTo hindex field trivial
    rw [axis_of_not_owned _ _ hother] at hfixed
    exact hfixed
  constructor
  · intro index hindex
    exact candidateAt_reserved hstage hindex
  · exact hbijOn
  · rintro index hindex field (howns | hfield)
    · exact howned index hindex field howns
    · cases howns : owns calibrator.state field with
      | true => exact howned index hindex field howns
      | false =>
          rw [hothers index hindex field howns]
          exact hstage.base.within field hfield
  · exact hothers
  · intro index hindex
    exact (hpoints.candidateAt hstage.count hindex).2.outside hreserved
  · intro hwave index hindex
    exact (hpoints.candidateAt hstage.count hindex).2.hits hwave

/-! ## The neighbours of a base -/

section Neighbours

variable {config : Max35103AutoCalConfig} {base profile : Max35103Profile}
  {field : TunedField}

theorem update_mem_bounds {tuned : TunedField} {value : ℤ}
    (hvalue : value ∈ bounds config tuned)
    (hbase : readField base field ∈ bounds config field) :
    Function.update (readField base) tuned value field ∈ bounds config field := by
  by_cases hfield : field = tuned
  · subst hfield
    rw [Function.update_self]
    exact hvalue
  · rw [Function.update_of_ne hfield]
    exact hbase

theorem clampU16_mem {minimum maximum : UInt16}
    (hrange : minimum.toNat ≤ maximum.toNat) (value : ℤ) :
    ((clampU16 value minimum maximum).toNat : ℤ) ∈
      Set.Icc (minimum.toNat : ℤ) maximum.toNat := by
  rw [clampU16_toNat value hrange]
  constructor <;> omega

theorem clampU8_mem {minimum maximum : UInt8}
    (hrange : minimum.toNat ≤ maximum.toNat) (value : ℤ) :
    ((clampU8 value minimum maximum).toNat : ℤ) ∈
      Set.Icc (minimum.toNat : ℤ) maximum.toNat := by
  rw [clampU8_toNat value hrange]
  constructor <;> omega

theorem perturbDelay_mem (hranges : SearchRanges config) {original delay : UInt16}
    {down : Bool} (hdelay : perturbDelay config original down = some delay) :
    (delay.toNat : ℤ) ∈ bounds config .delay := by
  simp only [perturbDelay] at hdelay
  split_ifs at hdelay
  all_goals
    rw [← Option.some.inj hdelay]
    exact clampU16_mem hranges.delay _

theorem perturbOffset_mem (hranges : SearchRanges config) {original word : UInt16}
    {down : Bool} (hword : perturbOffset config original down = some word) :
    ∃ offset : UInt8, word = offsetWord (profileReturnOffset original) offset ∧
      (offset.toNat : ℤ) ∈ bounds config .initialOffsetUp := by
  simp only [perturbOffset] at hword
  split_ifs at hword
  all_goals
    exact ⟨_, (Option.some.inj hword).symm, clampU8_mem hranges.offset _⟩

theorem perturbWave_mem (hranges : SearchRanges config) {original t2 : UInt8}
    {down : Bool} (ht2 : perturbWave config original down = some t2) :
    (t2.toNat : ℤ) ∈ bounds config .t2Wave := by
  simp only [perturbWave] at ht2
  split_ifs at ht2
  all_goals
    rw [← Option.some.inj ht2]
    exact clampU8_mem hranges.t2Wave _

theorem configuredHitCount_of_valid (hvalid : validateProfile base = .ok) :
    1 ≤ configuredHitCount base ∧ configuredHitCount base ≤ 6 := by
  simp only [validateProfile] at hvalid
  split at hvalid
  · cases hvalid
  split at hvalid
  · cases hvalid
  next hfields =>
  simp only [not_or, not_not] at hfields
  obtain ⟨-, -, -, hstop, -⟩ := hfields
  simp only [configuredHitCount]
  rw [if_neg hstop]
  generalize ((base.tof2 &&& 0xE000) >>> 13).toUInt8 = stopCode at *
  have hmost := UInt8.le_iff_toNat_le.mp (UInt8.not_lt.mp hstop)
  change stopCode.toNat ≤ 5 at hmost
  have hnext : (stopCode + 1).toNat = stopCode.toNat + 1 := by
    rw [UInt8.toNat_add]
    exact Nat.mod_eq_of_lt (by change stopCode.toNat + 1 < 256; omega)
  rw [UInt8.le_iff_toNat_le, UInt8.le_iff_toNat_le, hnext]
  change 1 ≤ stopCode.toNat + 1 ∧ stopCode.toNat + 1 ≤ 6
  omega

/-- What ROBUSTNESS tries stays within the bounds. -/
theorem robustness_within (hranges : SearchRanges config)
    (hvalid : validateProfile base = .ok) {index : UInt32}
    (hmade : robustnessCandidate config base index = some profile)
    (hbase : readField base field ∈ bounds config field) :
    readField profile field ∈ bounds config field := by
  rw [robustnessCandidate] at hmade
  split_ifs at hmade
  · obtain ⟨delay, hdelay, rfl⟩ := Option.map_eq_some_iff.mp hmade
    rw [readField_setDelay]
    exact update_mem_bounds (perturbDelay_mem hranges hdelay) hbase
  · obtain ⟨word, hword, rfl⟩ := Option.map_eq_some_iff.mp hmade
    obtain ⟨offset, rfl, hoffset⟩ := perturbOffset_mem hranges hword
    rw [readField_initialOffsetUp base (offset_le hranges hoffset)]
    exact update_mem_bounds hoffset hbase
  · obtain ⟨word, hword, rfl⟩ := Option.map_eq_some_iff.mp hmade
    obtain ⟨offset, rfl, hoffset⟩ := perturbOffset_mem hranges hword
    rw [readField_initialOffsetDown base (offset_le hranges hoffset)]
    exact update_mem_bounds hoffset hbase
  · obtain ⟨t2, ht2, rfl⟩ := Option.map_eq_some_iff.mp hmade
    have hwave := perturbWave_mem hranges ht2
    obtain ⟨hearly, hlate⟩ := wave_range hranges hwave
    obtain ⟨hfew, hmany⟩ := configuredHitCount_of_valid hvalid
    rw [readField_setWaveSequence base hearly hlate hfew hmany]
    by_cases hfield : field = .hitCount
    · subst hfield
      rw [Function.update_self]
      exact hbase
    · rw [Function.update_of_ne hfield]
      exact update_mem_bounds hwave hbase

end Neighbours

/-- No stage leaves the bounds in a field that its base has there. -/
theorem makesGood_withinBounds {config : Max35103AutoCalConfig}
    (hranges : SearchRanges config) :
    MakesGood (WithinBounds config fields) config := by
  intro calibrator profile hconfig hactive hstage hroom hmade
  subst hconfig
  refine ⟨valid_of_made hmade, fun field hfield ↦ ?_⟩
  have hbase := hstage.base.within field hfield
  have hprofile : candidateAt calibrator calibrator.candidateIndex = profile :=
    congrArg Prod.fst hmade
  cases hsearches : searches calibrator.state with
  | true =>
      have hcovers := coversGrid_of_stage hranges hstage hsearches
      rw [← hprofile]
      by_cases hindex :
          calibrator.candidateIndex < firstIndex calibrator.state
      · rw [hcovers.reserved _ hindex]
        exact hbase
      · exact hcovers.within _ ⟨UInt32.not_lt.mp hindex, hroom⟩ field
          (.inr hfield)
  | false =>
      cases hstate : calibrator.state <;>
        simp only [hstate, active, searches, Bool.false_eq_true,
          Bool.true_eq_false] at hactive hsearches
      case robustness =>
        exact robustness_within hranges hstage.base.valid
          (robustness_of_made hstate hmade) hbase
      case verify =>
        rw [base_of_made (.inl hstate) hmade]
        exact hbase
      case resetVerify =>
        rw [base_of_made (.inr hstate) hmade]
        exact hbase

end

theorem active_of_searches {state : Max35103AutoCalState}
    (hsearches : searches state = true) : active state = true := by
  cases state <;> first | rfl | cases hsearches

/-- Whatever the backend answers, each search stage covers its grid. -/
theorem search_covers_grid {config : Max35103AutoCalConfig}
    {seedProfile : Max35103Profile} {workspace : List Max35103AutoCalSample}
    {capacity : UInt16} {calibrator : Max35103AutoCalibrator}
    (hinit : init config seedProfile workspace capacity = some calibrator)
    {κ : Type*} {backend : Max35103AutoCalBackend κ} {context : κ}
    {world : AutoCalWorld κ}
    (hreach : Reachable backend ⟨calibrator, context⟩ world)
    (hsearches : searches world.calibrator.state = true) :
    CoversGrid world.calibrator
      ({field | owns world.calibrator.state field = true} ∪
        {field | readField seedProfile field ∈ bounds config field}) := by
  obtain ⟨hvalid, hseed, hconfig⟩ : configValid config capacity = true ∧
      validateProfile seedProfile = .ok ∧ calibrator.config = config := by
    rw [init] at hinit
    split_ifs at hinit with hrefused
    rw [not_or, Bool.not_eq_false, not_not] at hrefused
    exact ⟨hrefused.1, hrefused.2, by rw [← Option.some.inj hinit]⟩
  have hranges := searchRanges_of_valid hvalid
  have hgood : GoodProfiles (WithinBounds config
      {field | readField seedProfile field ∈ bounds config field})
      world.calibrator := by
    refine goodProfiles_reachable (goodProfiles_init hinit ⟨hseed, fun _ ↦ id⟩)
      ?_ hreach
    rw [hconfig]
    exact makesGood_withinBounds hranges
  have hkept : world.calibrator.config = config :=
    (reachable_config hreach).trans hconfig
  rw [← hkept] at hranges hgood ⊢
  exact coversGrid_of_stage hranges
    (hgood.stage (active_of_searches hsearches)) hsearches

/-- The bench, in the search around an initial offset. -/
theorem search_covers_grid_bench :
    ∃ calibrator world,
      init benchConfig seedDefault (List.replicate 2 .zero) 2 =
          some calibrator ∧
        Descent.run (step steadyBackend) 56
          ⟨(start calibrator).2, .zero⟩ = some world ∧
        world.calibrator.state = .offsetUpFine ∧
        CoversGrid world.calibrator
          ({field | owns world.calibrator.state field = true} ∪
            {field | readField seedDefault field ∈ bounds benchConfig field}) := by
  have hrun : ((init benchConfig seedDefault (List.replicate 2 .zero) 2).bind
      fun calibrator ↦
        (Descent.run (step steadyBackend) 56
          ⟨(start calibrator).2, .zero⟩).map fun world ↦
            world.calibrator.state) = some .offsetUpFine := by decide +kernel
  obtain ⟨calibrator, hinit, hrun⟩ := Option.bind_eq_some_iff.mp hrun
  obtain ⟨world, hrun, hstate⟩ := Option.map_eq_some_iff.mp hrun
  refine ⟨calibrator, world, hinit, hrun, hstate, ?_⟩
  exact search_covers_grid hinit (reachable_run (.start .init) hrun)
    (by rw [hstate]; rfl)

/-- Initial offsets that the default seed is below. -/
def highOffsets : Max35103AutoCalConfig :=
  { benchConfig with initialOffsetMin := 16, initialOffsetMax := 32 }

/-- DISCOVERY does not own the initial offset, and leaves it below its bounds. -/
theorem discovery_keeps_low_offset :
    ∃ calibrator,
      init highOffsets seedDefault (List.replicate 2 .zero) 2 =
          some calibrator ∧
        searches (start calibrator).2.state = true ∧
        ¬ CoversGrid (start calibrator).2 Set.univ := by
  have hstart : ((init highOffsets seedDefault (List.replicate 2 .zero) 2).map
      fun calibrator ↦
        let first := (start calibrator).2
        (first.config, first.state, first.candidateCount,
          readField (candidateAt first 1) .initialOffsetUp)) =
      some (highOffsets, .discovery, 3, 13) := by decide +kernel
  obtain ⟨calibrator, hinit, hstart⟩ := Option.map_eq_some_iff.mp hstart
  dsimp only at hstart
  obtain ⟨hconfig, hstate, hcount, hoffset⟩ :
      (start calibrator).2.config = highOffsets ∧
        (start calibrator).2.state = .discovery ∧
        (start calibrator).2.candidateCount = 3 ∧
        readField (candidateAt (start calibrator).2 1) .initialOffsetUp = 13 := by
    simpa only [Prod.mk.injEq] using hstart
  refine ⟨calibrator, hinit, by rw [hstate]; rfl, fun hcovers ↦ ?_⟩
  have hindex : (1 : UInt32) ∈ gridIndices (start calibrator).2 := by
    constructor
    · rw [hstate]
      decide
    · rw [hcount]
      decide
  have hwithin := hcovers.within 1 hindex .initialOffsetUp trivial
  rw [hoffset, hconfig] at hwithin
  exact absurd hwithin.1 (by decide)

end Swfpm.AutoCal
