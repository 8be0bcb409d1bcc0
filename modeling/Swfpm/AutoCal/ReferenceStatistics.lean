import Swfpm.AutoCal.Termination
import Swfpm.Support.Int64Range

/-!
# The metrics of a batch are its reference statistics

For timing values far inside the machine's range the service's medians and
deviations are those of the integers, the slips and rates are the counts that
they stand for, and none of them depends on the order of the attempts.
-/

namespace Swfpm.AutoCal

open OrderStatistics Int64Range

/-! ## Medians of the integers -/

section Medians

variable {values : List ℤ} {center : Int64}

/-- Half way between two words that are not too far apart. -/
theorem toInt_midpoint {lower upper : Int64} (hle : lower.toInt ≤ upper.toInt)
    (hfits : Fits (upper.toInt - lower.toInt)) :
    (lower + (upper - lower) / 2).toInt = (lower.toInt + upper.toInt) / 2 := by
  have hlower := fits_toInt lower
  have hupper := fits_toInt upper
  have htwo : (2 : Int64).toInt = 2 := by decide
  have hhalf : ((upper - lower) / 2).toInt =
      (upper.toInt - lower.toInt) / 2 := by
    rw [toInt_div (by decide), toInt_sub hfits, htwo,
      Int.tdiv_eq_ediv_of_nonneg (by omega)]
  unfold Fits at hlower hupper hfits
  rw [toInt_add (by rw [hhalf]; unfold Fits; omega), hhalf]
  omega

/-- The two middle entries around a median. -/
theorem IsMedian.toInt_eq (hmedian : IsMedian values center)
    (hfits : ∀ x ∈ values, ∀ y ∈ values, Fits (y - x)) :
    ∃ lower ∈ values, ∃ upper ∈ values, lower ≤ upper ∧
      center.toInt = (lower + upper) / 2 ∧
      median values = some center.toInt := by
  obtain ⟨lower, upper, hlower, hupper, rfl⟩ := hmedian
  have hle : lower.toInt ≤ upper.toInt := kth_mono (by omega) hlower hupper
  have hmid := toInt_midpoint hle
    (hfits _ (mem_of_kth hlower) _ (mem_of_kth hupper))
  refine ⟨_, mem_of_kth hlower, _, mem_of_kth hupper, hle, hmid, ?_⟩
  rw [median, hlower, hupper, Option.bind_some, Option.map_some, hmid]

/-- The values of a field, when they are far inside the machine's range. -/
def Reportable (values : List ℤ) : Prop := ∀ x ∈ values, |x| < 2 ^ 62

theorem Reportable.median (hvalues : Reportable values)
    (hmedian : IsMedian values center) :
    |center.toInt| < 2 ^ 62 ∧
      OrderStatistics.median values = some center.toInt := by
  obtain ⟨lower, hlower, upper, hupper, hle, hcenter, hreference⟩ :=
    hmedian.toInt_eq fun x hx y hy ↦ by
      have hx := abs_lt.mp (hvalues x hx)
      have hy := abs_lt.mp (hvalues y hy)
      unfold Fits
      omega
  have hlow := abs_lt.mp (hvalues lower hlower)
  have hhigh := abs_lt.mp (hvalues upper hupper)
  exact ⟨by rw [abs_lt]; omega, hreference⟩

/-- A distance in the service's arithmetic. -/
theorem toInt_absI64_sub {x center : Int64} (hx : |x.toInt| < 2 ^ 62)
    (hcenter : |center.toInt| < 2 ^ 62) :
    (absI64 (x - center)).toInt = |x.toInt - center.toInt| := by
  have hx := abs_lt.mp hx
  have hcenter := abs_lt.mp hcenter
  have hsub : (x - center).toInt = x.toInt - center.toInt :=
    toInt_sub (by unfold Fits; omega)
  unfold absI64
  split_ifs with hneg
  · rw [neg_iff] at hneg
    rw [toInt_neg, hsub, abs_of_nonpos (by omega)]
    rintro hmin
    have hvalue := congrArg Int64.toInt hmin
    rw [hsub, Int64.toInt_minValue] at hvalue
    omega
  · rw [neg_iff] at hneg
    rw [hsub, abs_of_nonneg (by omega)]

/-- The median and the deviation of some values. -/
structure Reports (values : List ℤ) (center mad : Int64) : Prop where
  median : median values = some center.toInt
  mad : medianDeviation values = some mad.toInt

theorem FieldSummary.Of.reports {summary : FieldSummary}
    {samples : List Max35103AutoCalSample} {field : AutoCalMetricField}
    (hof : summary.Of samples field)
    (hrange : Reportable (fieldValues samples field)) :
    |summary.median.toInt| < 2 ^ 62 ∧
      Reports (fieldValues samples field) summary.median summary.mad := by
  obtain ⟨hcenter, hmedian⟩ := hrange.median hof.median
  have hdeviations : deviations samples field summary.median =
      (fieldValues samples field).map fun x ↦ |x - summary.median.toInt| := by
    rw [fieldValues, List.map_map]
    refine List.map_congr_left fun sample hsample ↦ ?_
    exact toInt_absI64_sub (hrange _ (List.mem_map_of_mem hsample)) hcenter
  have hmad := hof.mad
  rw [hdeviations] at hmad
  have hbound : ∀ x ∈ (fieldValues samples field).map fun x ↦
      |x - summary.median.toInt|, 0 ≤ x ∧ x < 2 ^ 63 := by
    intro x hx
    obtain ⟨value, hvalue, rfl⟩ := List.mem_map.mp hx
    have hvalue := abs_lt.mp (hrange value hvalue)
    have hcenter := abs_lt.mp hcenter
    exact ⟨abs_nonneg _, abs_lt.mpr ⟨by omega, by omega⟩⟩
  obtain ⟨-, -, -, -, -, -, hreference⟩ := hmad.toInt_eq fun x hx y hy ↦ by
    have hx := hbound x hx
    have hy := hbound y hy
    unfold Fits
    omega
  exact ⟨hcenter, hmedian, by rw [medianDeviation, hmedian, Option.bind_some,
    hreference]⟩

end Medians

/-! ## Counts and rates -/

theorem perMille_le {numerator denominator : UInt16}
    (hle : numerator ≤ denominator) : perMille numerator denominator ≤ 1000 := by
  unfold perMille
  split_ifs with hzero
  · decide
  · have hpos : denominator.toNat ≠ 0 := fun heq ↦
      hzero (UInt16.toNat_inj.mp heq)
    have hn := numerator.toNat_lt
    have hd := denominator.toNat_lt
    rw [UInt16.le_iff_toNat_le] at hle ⊢
    have hsum : (numerator.toUInt32 * 1000 + denominator.toUInt32 / 2).toNat =
        numerator.toNat * 1000 + denominator.toNat / 2 := by
      simp only [UInt32.toNat_add, UInt32.toNat_mul, UInt32.toNat_div,
        UInt16.toNat_toUInt32]
      simp
      omega
    have hquotient : (numerator.toNat * 1000 + denominator.toNat / 2) /
        denominator.toNat < 1001 := by
      rw [Nat.div_lt_iff_lt_mul (by omega)]
      omega
    rw [UInt32.toNat_toUInt16, UInt32.toNat_div, hsum, UInt16.toNat_toUInt32]
    exact (Nat.mod_le _ _).trans (Nat.le_of_lt_succ hquotient)

/-- What a rate of at most 1000 lacks is exact. -/
theorem rateLack_toNat {rate : UInt16} (hrate : rate ≤ 1000) :
    (rateLack rate).toNat + rate.toNat = 1000 := by
  rw [UInt16.le_iff_toNat_le] at hrate
  have hthousand : (1000 : UInt16).toNat = 1000 := rfl
  rw [rateLack, UInt32.toNat_toUInt64, UInt32.toNat_sub_of_le]
  · show 1000 - rate.toNat + rate.toNat = 1000
    omega
  · rw [UInt32.le_iff_toNat_le]
    show rate.toNat ≤ 1000
    omega

/-- The rates that the metrics report. -/
def reportedRates (metrics : Max35103AutoCalMetrics) : List UInt16 :=
  [metrics.validRatePerMille, metrics.physicalRatePerMille,
    metrics.waveValidRatePerMille, metrics.wvrUpGoodRatePerMille,
    metrics.wvrDownGoodRatePerMille, metrics.wvrGoodRatePerMille,
    metrics.cycleSlipRatePerMille]

/-- The rates whose lack is scored. -/
def scoredRates (calibrator : Max35103AutoCalibrator)
    (metrics : Max35103AutoCalMetrics) : List UInt16 :=
  [metrics.validRatePerMille, metrics.physicalRatePerMille,
    metrics.waveValidRatePerMille, relevantWvrRate calibrator metrics]

theorem scoredRates_le {calibrator : Max35103AutoCalibrator}
    {metrics : Max35103AutoCalMetrics}
    (hrates : ∀ rate ∈ reportedRates metrics, rate ≤ 1000) :
    ∀ rate ∈ scoredRates calibrator metrics, rate ≤ 1000 := by
  simp only [reportedRates, List.forall_mem_cons] at hrates
  obtain ⟨hvalid, hphysical, hwave, hup, hdown, hwvr, -, -⟩ := hrates
  simp only [scoredRates, List.forall_mem_cons]
  refine ⟨hvalid, hphysical, hwave, ?_, nofun⟩
  unfold relevantWvrRate
  split
  all_goals first
    | exact UInt16.le_refl _
    | exact hup
    | exact hwvr
    | split_ifs <;> assumption

theorem flagCount_toNat {samples : List Max35103AutoCalSample} {flag : UInt8}
    (hlength : samples.length < 2 ^ 16) :
    (flagCount samples flag).toNat = samples.countP (hasFlag flag) := by
  have hcount : samples.countP (hasFlag flag) < 2 ^ 16 :=
    List.countP_le_length.trans_lt hlength
  exact UInt16.toNat_ofNat_of_lt' hcount

theorem attempts_length_lt (calibrator : Max35103AutoCalibrator) :
    (attempts calibrator).length < 2 ^ 16 :=
  (List.length_take_le _ _).trans_lt calibrator.sampleIndex.toNat_lt

/-- Entries of one kind are counted no more often than those of a wider one. -/
theorem flagCount_mono {samples : List Max35103AutoCalSample}
    {flag wider : UInt8} (hlength : samples.length < 2 ^ 16)
    (hwider : ∀ sample ∈ samples, hasFlag flag sample → hasFlag wider sample) :
    flagCount samples flag ≤ flagCount samples wider := by
  rw [UInt16.le_iff_toNat_le, flagCount_toNat hlength, flagCount_toNat hlength]
  exact List.countP_mono_left hwider

/-- No more entries have a flag than there were attempts. -/
theorem flagCount_le_index {calibrator : Max35103AutoCalibrator} (flag : UInt8) :
    flagCount (attempts calibrator) flag ≤ calibrator.sampleIndex := by
  rw [UInt16.le_iff_toNat_le, flagCount_toNat (attempts_length_lt calibrator)]
  exact List.countP_le_length.trans (List.length_take_le _ _)

/-! ## The claim's batch -/

/-- A batch as the evaluation of samples leaves it: evidence is on valid
entries only, and the times are what the device can report. -/
structure ReportedBatch (calibrator : Max35103AutoCalibrator) : Prop where
  workspace : calibrator.sampleIndex.toNat ≤ calibrator.samples.length
  evidence : ∀ sample ∈ attempts calibrator,
    ∀ flag ∈ [sampleWaveValid, sampleWvrUpGood, sampleWvrDnGood, sampleWvrGood],
      hasFlag flag sample → hasFlag sampleValid sample
  times : ∀ field, Reportable (fieldValues (attempts calibrator) field)

/-- An entry is more than half a period away from a median. -/
def Slips (period up down : ℤ) (sample : Max35103AutoCalSample) : Prop :=
  period < 2 * |sample.tofUpPs.toInt - up| ∨
    period < 2 * |sample.tofDownPs.toInt - down|

instance (period up down : ℤ) (sample : Max35103AutoCalSample) :
    Decidable (Slips period up down sample) :=
  inferInstanceAs (Decidable (_ ∨ _))

/-- The modelled period in picoseconds. -/
def periodPs (profile : Max35103Profile) : ℤ :=
  ((profileDpl profile).toNat + 1) * 500000

theorem toInt_expectedPeriodPs (profile : Max35103Profile) :
    (expectedPeriodPs profile / 2).toInt * 2 = periodPs profile := by
  have hdpl := (profileDpl profile).toNat_lt
  have hcount : (Int64.ofNat ((profileDpl profile).toNat + 1)).toInt =
      (profileDpl profile).toNat + 1 := by
    rw [Int64.toInt_ofNat_of_lt (by omega)]
    push_cast
    rfl
  have hunit : (500000 : Int64).toInt = 500000 := by decide
  have htwo : (2 : Int64).toInt = 2 := by decide
  have hperiod : (expectedPeriodPs profile).toInt = periodPs profile := by
    rw [expectedPeriodPs, toInt_mul, hcount, hunit, periodPs]
    rw [hcount, hunit]
    unfold Fits
    omega
  rw [toInt_div (by decide), hperiod, htwo, periodPs,
    Int.tdiv_eq_ediv_of_nonneg (by omega)]
  omega

/-- The service counts exactly the entries that slip. -/
theorem slipCount_eq {profile : Max35103Profile}
    {samples : List Max35103AutoCalSample} {up down : Int64}
    (hup : |up.toInt| < 2 ^ 62) (hdown : |down.toInt| < 2 ^ 62)
    (hrange : ∀ field, Reportable (fieldValues samples field)) :
    slipCount (expectedPeriodPs profile / 2) samples up down =
      samples.countP
        fun sample ↦ Slips (periodPs profile) up.toInt down.toInt sample := by
  have hperiod := toInt_expectedPeriodPs profile
  refine List.countP_congr fun sample hsample ↦ ?_
  have hupDistance := toInt_absI64_sub
    (hrange .up _ (List.mem_map_of_mem hsample)) hup
  have hdownDistance := toInt_absI64_sub
    (hrange .down _ (List.mem_map_of_mem hsample)) hdown
  simp only [sampleField] at hupDistance hdownDistance
  simp only [decide_eq_true_eq, gt_iff_lt, Int64.lt_iff_toInt_lt, hupDistance,
    hdownDistance]
  unfold Slips
  omega

/-- What the metrics of a batch say. -/
structure ReferenceStatistics (calibrator : Max35103AutoCalibrator)
    (final : Max35103AutoCalMetrics) : Prop where
  up : (attempts calibrator).filter (hasFlag sampleValid) ≠ [] →
    Reports (fieldValues ((attempts calibrator).filter (hasFlag sampleValid)) .up)
      final.medianTofUpPs final.madTofUpPs
  down : (attempts calibrator).filter (hasFlag sampleValid) ≠ [] →
    Reports (fieldValues ((attempts calibrator).filter (hasFlag sampleValid)) .down)
      final.medianTofDownPs final.madTofDownPs
  diff : (attempts calibrator).filter (hasFlag sampleValid) ≠ [] →
    Reports (fieldValues ((attempts calibrator).filter (hasFlag sampleValid)) .diff)
      final.medianTofDiffPs final.madTofDiffPs
  period : (attempts calibrator).filter (hasFlag sampleWaveValid) ≠ [] →
    Reports
      (fieldValues ((attempts calibrator).filter (hasFlag sampleWaveValid)) .period)
      final.medianPeriodErrorPs final.madPeriodErrorPs
  slips : final.cycleSlipCount.toNat =
    ((attempts calibrator).filter (hasFlag sampleValid)).countP fun sample ↦
      Slips (periodPs calibrator.candidateProfile) final.medianTofUpPs.toInt
        final.medianTofDownPs.toInt sample
  rates : ∀ rate ∈ reportedRates final, rate ≤ 1000
  lacks : ∀ rate ∈ scoredRates calibrator final,
    (rateLack rate).toNat + rate.toNat = 1000

section Batch

variable {calibrator : Max35103AutoCalibrator}
  {metrics timed : Max35103AutoCalMetrics}

theorem Reportable.filter {samples : List Max35103AutoCalSample}
    {field : AutoCalMetricField} (hrange : Reportable (fieldValues samples field))
    (holds : Max35103AutoCalSample → Bool) :
    Reportable (fieldValues (samples.filter holds) field) :=
  fun x hx ↦ hrange x (List.map_subset _ (List.filter_subset_self _) hx)

/-- All wave-valid attempts are among the valid ones. -/
theorem ReportedBatch.wave (hbatch : ReportedBatch calibrator) :
    ((attempts calibrator).filter (hasFlag sampleValid)).filter
        (hasFlag sampleWaveValid) =
      (attempts calibrator).filter (hasFlag sampleWaveValid) := by
  rw [List.filter_filter]
  refine List.filter_congr fun sample hsample ↦ ?_
  by_cases hwave : hasFlag sampleWaveValid sample = true
  · rw [hwave, hbatch.evidence sample hsample sampleWaveValid (by simp) hwave]
    rfl
  · rw [Bool.eq_false_iff.mpr hwave, Bool.false_and]

theorem ReportedBatch.period (hbatch : ReportedBatch calibrator)
    (htimed : PeriodTimed (((attempts calibrator).filter
      (hasFlag sampleValid)).filter (hasFlag sampleWaveValid)) metrics timed)
    (hne : (attempts calibrator).filter (hasFlag sampleWaveValid) ≠ []) :
    Reports
      (fieldValues ((attempts calibrator).filter (hasFlag sampleWaveValid)) .period)
      timed.medianPeriodErrorPs timed.madPeriodErrorPs := by
  rw [hbatch.wave] at htimed
  cases htimed with
  | none hnone => exact absurd hnone hne
  | some _ period hof => exact (hof.reports ((hbatch.times .period).filter _)).2

/-- The period statistics leave the others alone. -/
structure KeepsTimes (metrics timed : Max35103AutoCalMetrics) : Prop where
  validCount : timed.validCount = metrics.validCount
  slips : timed.cycleSlipCount = metrics.cycleSlipCount
  up : timed.medianTofUpPs = metrics.medianTofUpPs ∧
    timed.madTofUpPs = metrics.madTofUpPs
  down : timed.medianTofDownPs = metrics.medianTofDownPs ∧
    timed.madTofDownPs = metrics.madTofDownPs
  diff : timed.medianTofDiffPs = metrics.medianTofDiffPs ∧
    timed.madTofDiffPs = metrics.madTofDiffPs
  rates : reportedRates timed = reportedRates metrics

theorem PeriodTimed.keeps {wave : List Max35103AutoCalSample}
    (htimed : PeriodTimed wave metrics timed) : KeepsTimes metrics timed := by
  cases htimed with
  | none => exact ⟨rfl, rfl, ⟨rfl, rfl⟩, ⟨rfl, rfl⟩, ⟨rfl, rfl⟩, rfl⟩
  | some => exact ⟨rfl, rfl, ⟨rfl, rfl⟩, ⟨rfl, rfl⟩, ⟨rfl, rfl⟩, rfl⟩

/-- The slips of a batch that starts with none. -/
theorem ReportedBatch.slips (hbatch : ReportedBatch calibrator)
    (htimed : BatchTimed calibrator.candidateProfile
      ((attempts calibrator).filter (hasFlag sampleValid)) metrics timed)
    (hnone : metrics.cycleSlipCount = 0) :
    timed.cycleSlipCount.toNat =
      ((attempts calibrator).filter (hasFlag sampleValid)).countP fun sample ↦
        Slips (periodPs calibrator.candidateProfile) timed.medianTofUpPs.toInt
          timed.medianTofDownPs.toInt sample := by
  cases htimed with
  | none hempty =>
      rw [hempty, hnone]
      rfl
  | some hne up down diff hup hdown hdiff hperiod =>
      obtain ⟨-, hslips, ⟨hmedianUp, -⟩, ⟨hmedianDown, -⟩, -, -⟩ := hperiod.keeps
      have hvalid : ∀ field, Reportable (fieldValues
          ((attempts calibrator).filter (hasFlag sampleValid)) field) :=
        fun field ↦ (hbatch.times field).filter _
      rw [hslips, hmedianUp, hmedianDown]
      have hcount := @slipCount_eq calibrator.candidateProfile _ up.median
        down.median (hup.reports (hvalid .up)).1 (hdown.reports (hvalid .down)).1
        hvalid
      refine Eq.trans ?_ hcount
      refine UInt16.toNat_ofNat_of_lt' ?_
      have hfilter := List.length_filter_le (hasFlag sampleValid)
        (attempts calibrator)
      exact List.countP_le_length.trans_lt
        (hfilter.trans_lt (attempts_length_lt calibrator))

/-- The rates over the attempts. -/
theorem ReportedBatch.rates (hbatch : ReportedBatch calibrator)
    (htimed : BatchTimed calibrator.candidateProfile
      ((attempts calibrator).filter (hasFlag sampleValid))
      (rateAttempts calibrator (countAttempts calibrator metrics)) timed) :
    ∀ rate ∈ reportedRates (scoreMetrics calibrator timed), rate ≤ 1000 := by
  have hlength := attempts_length_lt calibrator
  have hslips := hbatch.slips htimed rfl
  have hkept : timed.validCount = flagCount (attempts calibrator) sampleValid ∧
      reportedRates timed = reportedRates
        (rateAttempts calibrator (countAttempts calibrator metrics)) := by
    cases htimed with
    | none => exact ⟨rfl, rfl⟩
    | some _ _ _ _ _ _ _ hperiod =>
        exact ⟨hperiod.keeps.validCount, hperiod.keeps.rates⟩
  obtain ⟨hvalid, hrates⟩ := hkept
  have hlengths : (attempts calibrator).countP (hasFlag sampleValid) =
      ((attempts calibrator).filter (hasFlag sampleValid)).length :=
    List.countP_eq_length_filter
  have hslipCount : timed.cycleSlipCount ≤ timed.validCount := by
    rw [UInt16.le_iff_toNat_le, hslips, hvalid, flagCount_toNat hlength, hlengths]
    exact List.countP_le_length
  simp only [reportedRates, List.cons.injEq] at hrates
  obtain ⟨h₁, h₂, h₃, h₄, h₅, h₆, -⟩ := hrates
  have hwider : ∀ flag ∈ [sampleWaveValid, sampleWvrUpGood, sampleWvrDnGood,
      sampleWvrGood], flagCount (attempts calibrator) flag ≤
        flagCount (attempts calibrator) sampleValid := fun flag hflag ↦
    flagCount_mono hlength fun sample hsample ↦
      hbatch.evidence sample hsample flag hflag
  simp only [reportedRates, List.forall_mem_cons]
  refine ⟨?_, ?_, ?_, ?_, ?_, ?_, perMille_le hslipCount, nofun⟩
  · exact h₁ ▸ perMille_le (flagCount_le_index sampleValid)
  · exact h₂ ▸ perMille_le (flagCount_le_index samplePhysical)
  · exact h₃ ▸ perMille_le (flagCount_le_index sampleWaveValid)
  · exact h₄ ▸ perMille_le (hwider sampleWvrUpGood (by simp))
  · exact h₅ ▸ perMille_le (hwider sampleWvrDnGood (by simp))
  · exact h₆ ▸ perMille_le (hwider sampleWvrGood (by simp))

theorem ReportedBatch.reference (hbatch : ReportedBatch calibrator)
    (htimed : BatchTimed calibrator.candidateProfile
      ((attempts calibrator).filter (hasFlag sampleValid))
      (rateAttempts calibrator (countAttempts calibrator metrics)) timed) :
    ReferenceStatistics calibrator (scoreMetrics calibrator timed) := by
  have hrates := hbatch.rates htimed
  have hslips := hbatch.slips htimed rfl
  have hlacks : ∀ rate ∈ scoredRates calibrator (scoreMetrics calibrator timed),
      (rateLack rate).toNat + rate.toNat = 1000 := fun rate hrate ↦
    rateLack_toNat (scoredRates_le hrates rate hrate)
  have hvalid : ∀ field, Reportable (fieldValues
      ((attempts calibrator).filter (hasFlag sampleValid)) field) :=
    fun field ↦ (hbatch.times field).filter _
  cases htimed with
  | none hnone =>
      refine ⟨fun hne ↦ absurd hnone hne, fun hne ↦ absurd hnone hne,
        fun hne ↦ absurd hnone hne, fun hne ↦ ?_, hslips, hrates, hlacks⟩
      rw [← hbatch.wave, hnone] at hne
      exact absurd rfl hne
  | some hne up down diff hup hdown hdiff hperiod =>
      obtain ⟨-, -, ⟨hup₁, hup₂⟩, ⟨hdown₁, hdown₂⟩, ⟨hdiff₁, hdiff₂⟩, -⟩ :=
        hperiod.keeps
      refine ⟨fun _ ↦ ?_, fun _ ↦ ?_, fun _ ↦ ?_, fun hwave ↦ ?_, hslips, hrates,
        hlacks⟩
      · show Reports _ timed.medianTofUpPs timed.madTofUpPs
        rw [hup₁, hup₂]
        exact (hup.reports (hvalid .up)).2
      · show Reports _ timed.medianTofDownPs timed.madTofDownPs
        rw [hdown₁, hdown₂]
        exact (hdown.reports (hvalid .down)).2
      · show Reports _ timed.medianTofDiffPs timed.madTofDiffPs
        rw [hdiff₁, hdiff₂]
        exact (hdiff.reports (hvalid .diff)).2
      · have hreports := hbatch.period hperiod hwave
        exact hreports

/-- The attempts in another order have the same counts. -/
theorem countAttempts_congr {shuffled : List Max35103AutoCalSample}
    (hperm : (shuffled.take calibrator.sampleIndex.toNat).Perm
      (attempts calibrator)) :
    countAttempts { calibrator with samples := shuffled } metrics =
      countAttempts calibrator metrics := by
  have hcounts : ∀ flag,
      flagCount (shuffled.take calibrator.sampleIndex.toNat) flag =
        flagCount (attempts calibrator) flag := fun flag ↦
    congrArg UInt16.ofNat (hperm.countP_eq _)
  simp only [countAttempts, hcounts]
  rfl

/-- The metrics of a batch are the reference statistics of its attempts, and any
other order of the attempts gives the same metrics. -/
theorem metrics_are_reference (hbatch : ReportedBatch calibrator)
    (metrics : Max35103AutoCalMetrics) :
    ∃ final samples, finalizeMetrics calibrator metrics = some (final, samples) ∧
      ReferenceStatistics calibrator final ∧
      ∀ shuffled : List Max35103AutoCalSample,
        (shuffled.take calibrator.sampleIndex.toNat).Perm (attempts calibrator) →
          (finalizeMetrics { calibrator with samples := shuffled } metrics).map
            Prod.fst = some final := by
  obtain ⟨timed, samples, hfinal, -, htimed⟩ :=
    finalizeMetrics_spec hbatch.workspace metrics
  refine ⟨_, samples, hfinal, hbatch.reference htimed, fun shuffled hperm ↦ ?_⟩
  have hlength : calibrator.sampleIndex.toNat ≤ shuffled.length := by
    have hsame := hperm.length_eq
    rw [attempts, List.length_take, List.length_take] at hsame
    have hworkspace := hbatch.workspace
    omega
  obtain ⟨timed', samples', hfinal', -, htimed'⟩ :=
    @finalizeMetrics_spec { calibrator with samples := shuffled } hlength metrics
  rw [countAttempts_congr hperm] at htimed'
  have hsame : timed' = timed :=
    htimed'.unique htimed (.of_perm (hperm.filter _))
  rw [hfinal', hsame]
  rfl

end Batch

/-- Two valid attempts, one of them without period evidence, and a failed one. -/
def benchAttempts : List Max35103AutoCalSample :=
  [{ Max35103AutoCalSample.zero with
      tofUpPs := 10000000, tofDownPs := 10000400, tofDiffPs := 400
      flags := sampleValid },
    .zero,
    { Max35103AutoCalSample.zero with
      tofUpPs := 10000100, tofDownPs := 10000300, tofDiffPs := 200
      periodErrorPs := 5000, flags := sampleValid ||| sampleWaveValid }]

theorem benchAttempts_evidence :
    ∀ sample ∈ benchAttempts,
      ∀ flag ∈ [sampleWaveValid, sampleWvrUpGood, sampleWvrDnGood, sampleWvrGood],
        hasFlag flag sample → hasFlag sampleValid sample := by
  decide +kernel

theorem benchAttempts_times (field : AutoCalMetricField) :
    ∀ x ∈ fieldValues benchAttempts field, |x| < 2 ^ 62 := by
  cases field <;> decide +kernel

theorem metrics_are_reference_bench :
    ∃ calibrator, init benchConfig seedDefault benchAttempts 3 = some calibrator ∧
      ∃ final samples,
        finalizeMetrics { calibrator with
          samples := benchAttempts, sampleIndex := 3 } .zero =
            some (final, samples) ∧
        ReferenceStatistics { calibrator with
          samples := benchAttempts, sampleIndex := 3 } final ∧
        ∀ shuffled : List Max35103AutoCalSample,
          (shuffled.take 3).Perm benchAttempts →
            (finalizeMetrics { calibrator with
              samples := shuffled, sampleIndex := 3 } .zero).map Prod.fst =
                some final := by
  have haccepted : (init benchConfig seedDefault benchAttempts 3).isSome = true := by
    decide
  obtain ⟨calibrator, hinit⟩ := Option.isSome_iff_exists.mp haccepted
  have hbatch : ReportedBatch { calibrator with
      samples := benchAttempts, sampleIndex := 3 } :=
    ⟨le_refl 3, benchAttempts_evidence, benchAttempts_times⟩
  exact ⟨calibrator, hinit, metrics_are_reference hbatch .zero⟩

end Swfpm.AutoCal
