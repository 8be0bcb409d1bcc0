import Swfpm.AutoCal.Selection

/-!
# The statistics of a whole batch

The batch is reordered in place by every statistic, and each of them overwrites
the scratch member.  What the next one reads is the batch up to order and
scratch, and the metrics depend on nothing else.
-/

namespace Swfpm.AutoCal

open OrderStatistics

/-! ## Up to order and scratch -/

/-- An entry without its scratch value. -/
def unwork (sample : Max35103AutoCalSample) : Max35103AutoCalSample :=
  { sample with workPs := 0 }

/-- The same entries in another order, with other scratch values. -/
def SameBatch (samples samples' : List Max35103AutoCalSample) : Prop :=
  (samples.map unwork).Perm (samples'.map unwork)

namespace SameBatch

variable {samples samples' samples'' : List Max35103AutoCalSample}

theorem of_perm (hperm : samples.Perm samples') : SameBatch samples samples' :=
  hperm.map _

theorem refl (samples : List Max35103AutoCalSample) : SameBatch samples samples :=
  .of_perm (.refl _)

theorem trans (hfirst : SameBatch samples samples')
    (hsecond : SameBatch samples' samples'') : SameBatch samples samples'' :=
  List.Perm.trans hfirst hsecond

theorem symm (hsame : SameBatch samples samples') : SameBatch samples' samples :=
  List.Perm.symm hsame

/-- The loop that fills the scratch member. -/
theorem work (samples : List Max35103AutoCalSample)
    (value : Max35103AutoCalSample → Int64) :
    SameBatch (samples.map fun sample ↦ { sample with workPs := value sample })
      samples := by
  rw [SameBatch, List.map_map]
  exact .refl _

theorem length_eq (hsame : SameBatch samples samples') :
    samples.length = samples'.length := by
  simpa using List.Perm.length_eq hsame

theorem ne_nil (hsame : SameBatch samples samples') (hne : samples' ≠ []) :
    samples ≠ [] := by
  rintro rfl
  exact hne (List.length_eq_zero_iff.mp hsame.length_eq.symm)

/-- What is read from the entries, where the scratch is not. -/
theorem map {β : Type*} (hsame : SameBatch samples samples')
    {read : Max35103AutoCalSample → β}
    (hread : ∀ sample, read (unwork sample) = read sample) :
    (samples.map read).Perm (samples'.map read) := by
  have hcomp : read ∘ unwork = read := funext hread
  have hmap := List.Perm.map read hsame
  rwa [List.map_map, List.map_map, hcomp] at hmap

theorem countP_eq (hsame : SameBatch samples samples')
    {holds : Max35103AutoCalSample → Bool}
    (hholds : ∀ sample, holds (unwork sample) = holds sample) :
    samples.countP holds = samples'.countP holds := by
  have hcomp : holds ∘ unwork = holds := funext hholds
  have hcount := List.Perm.countP_eq holds hsame
  rwa [List.countP_map, List.countP_map, hcomp] at hcount

theorem filter (hsame : SameBatch samples samples')
    {holds : Max35103AutoCalSample → Bool}
    (hholds : ∀ sample, holds (unwork sample) = holds sample) :
    SameBatch (samples.filter holds) (samples'.filter holds) := by
  have hcomp : holds ∘ unwork = holds := funext hholds
  have hfilter := List.Perm.filter holds hsame
  rwa [List.filter_map, List.filter_map, hcomp] at hfilter

end SameBatch

/-! ## One field -/

/-- The values of a field. -/
def fieldValues (samples : List Max35103AutoCalSample)
    (field : AutoCalMetricField) : List ℤ :=
  samples.map fun sample ↦ (sampleField sample field).toInt

/-- The distances of a field to its median, in the service's arithmetic. -/
def deviations (samples : List Max35103AutoCalSample)
    (field : AutoCalMetricField) (median : Int64) : List ℤ :=
  samples.map fun sample ↦ (absI64 (sampleField sample field - median)).toInt

theorem sampleField_unwork (sample : Max35103AutoCalSample)
    (field : AutoCalMetricField) :
    sampleField (unwork sample) field = sampleField sample field := by
  cases field <;> rfl

theorem SameBatch.fieldValues {samples samples' : List Max35103AutoCalSample}
    (hsame : SameBatch samples samples') (field : AutoCalMetricField) :
    (fieldValues samples field).Perm (fieldValues samples' field) :=
  hsame.map fun sample ↦ congrArg Int64.toInt (sampleField_unwork sample field)

theorem SameBatch.deviations {samples samples' : List Max35103AutoCalSample}
    (hsame : SameBatch samples samples') (field : AutoCalMetricField)
    (median : Int64) :
    (deviations samples field median).Perm (deviations samples' field median) :=
  hsame.map fun sample ↦
    congrArg (fun value : Int64 ↦ (absI64 (value - median)).toInt)
      (sampleField_unwork sample field)

theorem medianField_spec {samples : List Max35103AutoCalSample}
    (hne : samples ≠ []) (field : AutoCalMetricField) :
    ∃ median out, medianField samples field = some (median, out) ∧
      SameBatch out samples ∧ IsMedian (fieldValues samples field) median := by
  obtain ⟨median, out, hout, hperm, hmedian⟩ :=
    workMedian_spec (samples.map fun sample ↦
      { sample with workPs := sampleField sample field }) (by simpa using hne)
  refine ⟨median, out, hout, (SameBatch.of_perm hperm).trans (.work samples _), ?_⟩
  rw [works, List.map_map] at hmedian
  exact hmedian

theorem madField_spec {samples : List Max35103AutoCalSample}
    (hne : samples ≠ []) (field : AutoCalMetricField) (median : Int64) :
    ∃ mad out, madField samples field median = some (mad, out) ∧
      SameBatch out samples ∧ IsMedian (deviations samples field median) mad := by
  obtain ⟨mad, out, hout, hperm, hmad⟩ :=
    workMedian_spec (samples.map fun sample ↦
      { sample with workPs := absI64 (sampleField sample field - median) })
      (by simpa using hne)
  refine ⟨mad, out, hout, (SameBatch.of_perm hperm).trans (.work samples _), ?_⟩
  rw [works, List.map_map] at hmad
  exact hmad

/-- The two statistics of a field. -/
structure FieldSummary where
  median : Int64
  mad : Int64

structure FieldSummary.Of (summary : FieldSummary)
    (samples : List Max35103AutoCalSample) (field : AutoCalMetricField) :
    Prop where
  median : IsMedian (fieldValues samples field) summary.median
  mad : IsMedian (deviations samples field summary.median) summary.mad

theorem FieldSummary.Of.unique {summary summary' : FieldSummary}
    {samples samples' : List Max35103AutoCalSample} {field : AutoCalMetricField}
    (hof : summary.Of samples field) (hof' : summary'.Of samples' field)
    (hsame : SameBatch samples samples') : summary = summary' := by
  obtain ⟨median, mad⟩ := summary
  obtain ⟨median', mad'⟩ := summary'
  obtain rfl : median = median' :=
    (hof.median.congr (hsame.fieldValues field)).unique hof'.median
  obtain rfl : mad = mad' :=
    (hof.mad.congr (hsame.deviations field median)).unique hof'.mad
  rfl

/-! ## Compaction -/

/-- An entry with a flag. -/
def hasFlag (flag : UInt8) (sample : Max35103AutoCalSample) : Bool :=
  sample.flags &&& flag ≠ 0

/-- No entry from `low` on and before `high` has the flag. -/
def ClearBetween (flag : UInt8) (samples : List Max35103AutoCalSample)
    (low high : ℕ) : Prop :=
  ∀ k sample, low ≤ k → k < high → samples[k]? = some sample →
    hasFlag flag sample = false

/-- What the exchange of an entry with the first clear one leaves. -/
theorem exchange_spec {flag : UInt8} {samples : List Max35103AutoCalSample}
    {i kept : ℕ} (hkept : kept ≤ i) (hi : i < samples.length)
    (hgap : ClearBetween flag samples kept i) :
    ∃ moved,
      (if i ≠ kept then swapSamples samples i kept else some samples) =
        some moved ∧ moved.length = samples.length ∧
      moved[kept]? = some samples[i] ∧
      ClearBetween flag moved (kept + 1) (i + 1) ∧
      moved.drop (i + 1) = samples.drop (i + 1) ∧
      moved.take kept = samples.take kept := by
  have hentry := List.getElem?_eq_getElem hi
  by_cases hplace : i ≠ kept
  · obtain ⟨moved, hswap, hperm, hat, hfirst, hrest⟩ :=
      swapSamples_spec samples i kept hi (by omega)
    refine ⟨moved, by rw [if_pos hplace, hswap], hperm.length_eq,
      hfirst.trans hentry, ?_, ?_, ?_⟩
    · intro k sample hk hki hsample
      obtain hlt | rfl := Nat.lt_succ_iff_lt_or_eq.mp hki
      · rw [hrest k hlt.ne (by omega)] at hsample
        exact hgap k sample (by omega) hlt hsample
      · rw [hat] at hsample
        exact hgap kept sample le_rfl (by omega) hsample
    · refine List.ext_getElem? fun k ↦ ?_
      rw [List.getElem?_drop, List.getElem?_drop,
        hrest (i + 1 + k) (by omega) (by omega)]
    · refine List.ext_getElem? fun k ↦ ?_
      rw [List.getElem?_take, List.getElem?_take]
      split_ifs with hk
      · exact hrest k (by omega) (by omega)
      · rfl
  · obtain rfl : i = kept := not_not.mp hplace
    exact ⟨samples, if_neg hplace, rfl, hentry, fun _ _ hk hki ↦ by omega, rfl,
      rfl⟩

/-- The entries from `kept` to `i` have no flag; those with it that come later
are moved behind the first `kept` in their order. -/
theorem compactFlag_spec (flag : UInt8) (remaining i kept : ℕ)
    (samples : List Max35103AutoCalSample) (hkept : kept ≤ i)
    (hbound : i + remaining ≤ samples.length)
    (hgap : ClearBetween flag samples kept i) :
    ∃ out kept', compactFlag flag remaining i kept samples = some (out, kept') ∧
      out.length = samples.length ∧ kept' ≤ i + remaining ∧
      out.take kept' = samples.take kept ++
        ((samples.drop i).take remaining).filter (hasFlag flag) := by
  induction remaining generalizing i kept samples with
  | zero => exact ⟨samples, kept, rfl, rfl, hkept, by simp⟩
  | succ remaining ih =>
      have hi : i < samples.length := by omega
      have hdrop := List.drop_eq_getElem_cons hi
      rw [compactFlag, List.getElem?_eq_getElem hi, Option.bind_some]
      by_cases hflag : samples[i].flags &&& flag ≠ 0
      · have hset : hasFlag flag samples[i] = true := by
          simpa [hasFlag] using hflag
        obtain ⟨moved, hmoved, hlength, hat, hgap', htail, hhead⟩ :=
          exchange_spec hkept hi hgap
        rw [if_pos hflag, hmoved, Option.bind_some]
        obtain ⟨out, kept', hrun, hout, hkept', htake⟩ :=
          ih (i + 1) (kept + 1) moved (by omega) (by omega) hgap'
        refine ⟨out, kept', hrun, by omega, by omega, ?_⟩
        rw [htake, htail, hdrop, List.take_succ_cons,
          List.filter_cons_of_pos hset, List.take_add_one, hat, hhead,
          List.append_assoc]
        rfl
      · have hclear : hasFlag flag samples[i] = false := by
          simpa [hasFlag] using hflag
        have hgap' : ClearBetween flag samples kept (i + 1) := by
          intro k sample hk hki hsample
          obtain hlt | rfl := Nat.lt_succ_iff_lt_or_eq.mp hki
          · exact hgap k sample hk hlt hsample
          · rw [List.getElem?_eq_getElem hi, Option.some.injEq] at hsample
            exact hsample ▸ hclear
        obtain ⟨out, kept', hrun, hout, hkept', htake⟩ :=
          ih (i + 1) kept samples (by omega) (by omega) hgap'
        refine ⟨out, kept', by rw [if_neg hflag, hrun], hout, by omega, ?_⟩
        rw [htake, hdrop, List.take_succ_cons,
          List.filter_cons_of_neg (by simpa using hclear)]

/-- A compaction from the start: the flagged ones of the first entries. -/
theorem compactFlag_start (flag : UInt8) {count : ℕ}
    {samples : List Max35103AutoCalSample} (hcount : count ≤ samples.length) :
    ∃ out kept, compactFlag flag count 0 0 samples = some (out, kept) ∧
      out.length = samples.length ∧ kept ≤ count ∧ (out.take kept).length = kept ∧
      out.take kept = (samples.take count).filter (hasFlag flag) := by
  obtain ⟨out, kept, hrun, hlength, hkept, htake⟩ :=
    compactFlag_spec flag count 0 0 samples le_rfl (by omega)
      fun _ _ _ hk ↦ by omega
  refine ⟨out, kept, hrun, hlength, by omega, ?_, ?_⟩
  · rw [List.length_take]
    omega
  · rw [htake, List.take_zero, List.nil_append, List.drop_zero]

/-! ## The valid and the wave-valid entries -/

/-- How many entries are more than `threshold` away from a median. -/
def slipCount (threshold : Int64) (samples : List Max35103AutoCalSample)
    (medianUp medianDown : Int64) : ℕ :=
  samples.countP fun sample ↦
    absI64 (sample.tofUpPs - medianUp) > threshold ∨
      absI64 (sample.tofDownPs - medianDown) > threshold

/-- The metrics with the statistics of the valid entries. -/
def withTimes (profile : Max35103Profile)
    (metrics : Max35103AutoCalMetrics) (valid : List Max35103AutoCalSample)
    (up down diff : FieldSummary) : Max35103AutoCalMetrics :=
  { metrics with
    medianTofUpPs := up.median
    medianTofDownPs := down.median
    medianTofDiffPs := diff.median
    directionDeltaPs := absI64 (up.median - down.median)
    madTofUpPs := up.mad
    madTofDownPs := down.mad
    madTofDiffPs := diff.mad
    cycleSlipCount := UInt16.ofNat
      (slipCount (expectedPeriodPs profile / 2) valid up.median down.median) }

def withPeriod (metrics : Max35103AutoCalMetrics) (period : FieldSummary) :
    Max35103AutoCalMetrics :=
  { metrics with
    medianPeriodErrorPs := period.median
    madPeriodErrorPs := period.mad }

theorem timeValid_spec (calibrator : Max35103AutoCalibrator)
    (metrics : Max35103AutoCalMetrics) {valid : List Max35103AutoCalSample}
    (hne : valid ≠ []) :
    ∃ up down diff out, timeValid calibrator metrics valid =
        some (withTimes calibrator.candidateProfile metrics valid up down diff,
          out) ∧
      SameBatch out valid ∧ up.Of valid .up ∧ down.Of valid .down ∧
      diff.Of valid .diff := by
  obtain ⟨medianUp, out₁, h₁, s₁, m₁⟩ := medianField_spec hne .up
  obtain ⟨medianDown, out₂, h₂, s₂, m₂⟩ :=
    medianField_spec (s₁.ne_nil hne) .down
  have s₂ := s₂.trans s₁
  obtain ⟨medianDiff, out₃, h₃, s₃, m₃⟩ :=
    medianField_spec (s₂.ne_nil hne) .diff
  have s₃ := s₃.trans s₂
  obtain ⟨madUp, out₄, h₄, s₄, m₄⟩ :=
    madField_spec (s₃.ne_nil hne) .up medianUp
  have s₄ := s₄.trans s₃
  obtain ⟨madDown, out₅, h₅, s₅, m₅⟩ :=
    madField_spec (s₄.ne_nil hne) .down medianDown
  have s₅ := s₅.trans s₄
  obtain ⟨madDiff, out₆, h₆, s₆, m₆⟩ :=
    madField_spec (s₅.ne_nil hne) .diff medianDiff
  have s₆ := s₆.trans s₅
  refine ⟨⟨medianUp, madUp⟩, ⟨medianDown, madDown⟩, ⟨medianDiff, madDiff⟩, out₆,
    ?_, s₆, ⟨m₁, m₄.congr (s₃.deviations _ _)⟩,
    ⟨m₂.congr (s₁.fieldValues _), m₅.congr (s₄.deviations _ _)⟩,
    ⟨m₃.congr (s₂.fieldValues _), m₆.congr (s₅.deviations _ _)⟩⟩
  have hslips : slipCount (expectedPeriodPs calibrator.candidateProfile / 2) out₆
      medianUp medianDown =
        slipCount (expectedPeriodPs calibrator.candidateProfile / 2) valid
          medianUp medianDown := s₆.countP_eq fun _ ↦ rfl
  simp only [timeValid, h₁, h₂, h₃, h₄, h₅, h₆, Option.bind_some,
    Option.map_some]
  rw [withTimes, ← hslips]
  rfl

/-- The metrics with the statistics of the period error, where there are any. -/
inductive PeriodTimed (wave : List Max35103AutoCalSample)
    (metrics : Max35103AutoCalMetrics) : Max35103AutoCalMetrics → Prop where
  | none (hnone : wave = []) : PeriodTimed wave metrics metrics
  | some (hne : wave ≠ []) (period : FieldSummary) (hof : period.Of wave .period) :
      PeriodTimed wave metrics (withPeriod metrics period)

theorem timePeriod_spec (metrics : Max35103AutoCalMetrics)
    (valid : List Max35103AutoCalSample) :
    ∃ timed out, timePeriod metrics valid = some (timed, out) ∧
      out.length = valid.length ∧
      PeriodTimed (valid.filter (hasFlag sampleWaveValid)) metrics timed := by
  obtain ⟨moved, waveEnd, hmoved, hlength, hend, hfirst, hwave⟩ :=
    compactFlag_start sampleWaveValid (le_refl valid.length)
  rw [List.take_length] at hwave
  by_cases hnone : waveEnd = 0
  · refine ⟨metrics, moved, ?_, hlength, .none ?_⟩
    · simp only [timePeriod, hmoved, Option.bind_some, if_pos hnone]
    · rw [← hwave, hnone, List.take_zero]
  · have hne : moved.take waveEnd ≠ [] := fun hnil ↦ by
      rw [hnil, List.length_nil] at hfirst
      exact hnone hfirst.symm
    obtain ⟨median, wave, hmedian, hsame, hof⟩ := medianField_spec hne .period
    obtain ⟨mad, wave', hmad, hsame', hof'⟩ :=
      madField_spec (hsame.ne_nil hne) .period median
    have hlength' := (hsame'.trans hsame).length_eq
    refine ⟨withPeriod metrics ⟨median, mad⟩, wave' ++ moved.drop waveEnd, ?_, ?_,
      ?_⟩
    · simp only [timePeriod, hmoved, Option.bind_some, if_neg hnone, hmedian,
        hmad, Option.map_some]
      rfl
    · rw [List.length_append, List.length_drop]
      omega
    · rw [← hwave]
      exact .some hne ⟨median, mad⟩ ⟨hof, hof'.congr (hsame.deviations _ _)⟩

theorem FieldSummary.Of.congr {summary : FieldSummary}
    {samples samples' : List Max35103AutoCalSample} {field : AutoCalMetricField}
    (hof : summary.Of samples field) (hsame : SameBatch samples samples') :
    summary.Of samples' field :=
  ⟨hof.median.congr (hsame.fieldValues field),
    hof.mad.congr (hsame.deviations field summary.median)⟩

section Congr

variable {wave wave' : List Max35103AutoCalSample}
  {metrics timed timed' : Max35103AutoCalMetrics}

theorem PeriodTimed.congr (htimed : PeriodTimed wave metrics timed)
    (hsame : SameBatch wave wave') : PeriodTimed wave' metrics timed := by
  cases htimed with
  | none hnone =>
      subst hnone
      exact .none (List.length_eq_zero_iff.mp hsame.length_eq.symm)
  | some hne period hof =>
      exact .some (hsame.symm.ne_nil hne) period (hof.congr hsame)

theorem PeriodTimed.unique (htimed : PeriodTimed wave metrics timed)
    (htimed' : PeriodTimed wave metrics timed') : timed = timed' := by
  cases htimed with
  | none hnone =>
      cases htimed' with
      | none => rfl
      | some hne => exact absurd hnone hne
  | some hne period hof =>
      cases htimed' with
      | none hnone => exact absurd hnone hne
      | some _ period' hof' => rw [hof.unique hof' (.refl wave)]

end Congr

/-! ## The whole batch -/

/-- The attempts of the running batch. -/
def attempts (calibrator : Max35103AutoCalibrator) :
    List Max35103AutoCalSample :=
  calibrator.samples.take calibrator.sampleIndex.toNat

/-- The metrics before the gates, from the valid entries. -/
inductive BatchTimed (profile : Max35103Profile)
    (valid : List Max35103AutoCalSample) (metrics : Max35103AutoCalMetrics) :
    Max35103AutoCalMetrics → Prop where
  | none (hnone : valid = []) : BatchTimed profile valid metrics metrics
  | some (hne : valid ≠ []) (up down diff : FieldSummary)
      (hup : up.Of valid .up) (hdown : down.Of valid .down)
      (hdiff : diff.Of valid .diff) {timed : Max35103AutoCalMetrics}
      (hperiod : PeriodTimed (valid.filter (hasFlag sampleWaveValid))
        (withTimes profile metrics valid up down diff) timed) :
      BatchTimed profile valid metrics timed

section Timed

variable {profile : Max35103Profile}
  {valid valid' : List Max35103AutoCalSample}
  {metrics timed timed' : Max35103AutoCalMetrics}

theorem withTimes_congr (hsame : SameBatch valid valid')
    (up down diff : FieldSummary) :
    withTimes profile metrics valid up down diff =
      withTimes profile metrics valid' up down diff := by
  have hslips : slipCount (expectedPeriodPs profile / 2) valid
      up.median down.median =
        slipCount (expectedPeriodPs profile / 2) valid'
          up.median down.median := hsame.countP_eq fun _ ↦ rfl
  rw [withTimes, hslips]
  rfl

theorem BatchTimed.unique (htimed : BatchTimed profile valid metrics timed)
    (htimed' : BatchTimed profile valid' metrics timed')
    (hsame : SameBatch valid valid') : timed = timed' := by
  cases htimed with
  | none hnone =>
      cases htimed' with
      | none => rfl
      | some hne => exact absurd hnone (hsame.ne_nil hne)
  | some hne up down diff hup hdown hdiff hperiod =>
      cases htimed' with
      | none hnone => exact absurd hnone (hsame.symm.ne_nil hne)
      | some _ up' down' diff' hup' hdown' hdiff' hperiod' =>
          obtain rfl := hup.unique hup' hsame
          obtain rfl := hdown.unique hdown' hsame
          obtain rfl := hdiff.unique hdiff' hsame
          rw [withTimes_congr hsame] at hperiod
          exact (hperiod.congr (hsame.filter fun _ ↦ rfl)).unique hperiod'

end Timed

/-- The gates and the score. -/
def scoreMetrics (calibrator : Max35103AutoCalibrator)
    (metrics : Max35103AutoCalMetrics) : Max35103AutoCalMetrics :=
  let metrics := gateMetrics calibrator metrics
  { metrics with score := (scoreTerms calibrator metrics).foldl satAddU64 0 }

/-- The metrics of a batch that lies in its workspace. -/
theorem finalizeMetrics_spec {calibrator : Max35103AutoCalibrator}
    (hbatch : calibrator.sampleIndex.toNat ≤ calibrator.samples.length)
    (metrics : Max35103AutoCalMetrics) :
    ∃ timed samples, finalizeMetrics calibrator metrics =
        some (scoreMetrics calibrator timed, samples) ∧
      samples.length = calibrator.samples.length ∧
      BatchTimed calibrator.candidateProfile
        ((attempts calibrator).filter (hasFlag sampleValid))
        (rateAttempts calibrator (countAttempts calibrator metrics)) timed := by
  obtain ⟨moved, validEnd, hmoved, hlength, hend, hfirst, hvalid⟩ :=
    compactFlag_start sampleValid hbatch
  rw [finalizeMetrics, if_neg (by omega)]
  simp only [hmoved, Option.bind_some]
  by_cases hnone : validEnd = 0
  · simp only [if_pos hnone, Option.map_some]
    refine ⟨_, _, rfl, hlength, .none ?_⟩
    rw [attempts, ← hvalid, hnone, List.take_zero]
  · have hne : moved.take validEnd ≠ [] := fun hnil ↦ by
      rw [hnil, List.length_nil] at hfirst
      exact hnone hfirst.symm
    obtain ⟨up, down, diff, valid, htimed, hsame, hup, hdown, hdiff⟩ :=
      timeValid_spec calibrator (rateAttempts calibrator
        (countAttempts calibrator metrics)) hne
    obtain ⟨timed, valid', htimed', hlength', hperiod⟩ := timePeriod_spec
      (withTimes calibrator.candidateProfile (rateAttempts calibrator
        (countAttempts calibrator metrics)) (moved.take validEnd) up down diff)
      valid
    have hlength'' := hsame.length_eq
    simp only [if_neg hnone, htimed, Option.bind_some, htimed',
      Option.map_some]
    refine ⟨_, _, rfl, ?_, ?_⟩
    · rw [List.length_append, List.length_drop]
      omega
    · rw [attempts, ← hvalid]
      exact .some hne up down diff hup hdown hdiff
        (hperiod.congr (hsame.filter fun _ ↦ rfl))

end Swfpm.AutoCal
