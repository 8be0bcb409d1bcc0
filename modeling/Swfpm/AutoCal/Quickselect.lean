import Swfpm.AutoCal.Selection
import Swfpm.Support.SignedOps

/-!
# The selection with the source's indices

A second embedding of `autocal_select_work` and `autocal_work_median` that keeps
the 16-bit indices, which wrap, and the signed operations, which have no result
on an overflow.  An access outside of the `count` cells has no result either.
As long as the count is a 16-bit number no index wraps, so the loops are the
ones over natural numbers.
-/

namespace Swfpm.AutoCal.Words

open OrderStatistics

/-! ## The loops -/

/-- `while (samples[i].work_ps < pivot) i++`, at most `fuel` tests of it. -/
def scanUp (pivot : Int64) (samples : List Max35103AutoCalSample) :
    ℕ → UInt16 → Option UInt16
  | 0, _ => none
  | fuel + 1, i =>
      samples[i.toNat]?.bind fun sample ↦
        if sample.workPs < pivot then scanUp pivot samples fuel (i + 1)
        else some i

/-- `while (samples[j].work_ps > pivot)` with its break at zero. -/
def scanDown (pivot : Int64) (samples : List Max35103AutoCalSample) :
    ℕ → UInt16 → Option UInt16
  | 0, _ => none
  | fuel + 1, j =>
      samples[j.toNat]?.bind fun sample ↦
        if sample.workPs > pivot then
          if j = 0 then some j else scanDown pivot samples fuel (j - 1)
        else some j

def partitionWork (pivot : Int64) :
    ℕ → List Max35103AutoCalSample → UInt16 → UInt16 →
      Option (List Max35103AutoCalSample × UInt16 × UInt16)
  | 0, _, _, _ => none
  | fuel + 1, samples, i, j =>
      if i ≤ j then
        (scanUp pivot samples (samples.length + 1) i).bind fun i ↦
        (scanDown pivot samples (samples.length + 1) j).bind fun j ↦
        if i ≤ j then
          (swapSamples samples i.toNat j.toNat).bind fun samples ↦
          if j = 0 then some (samples, i + 1, j)
          else partitionWork pivot fuel samples (i + 1) (j - 1)
        else some (samples, i, j)
      else some (samples, i, j)

def selectLoop (kth : UInt16) :
    ℕ → List Max35103AutoCalSample → UInt16 → UInt16 →
      Option (List Max35103AutoCalSample)
  | 0, samples, left, right => if left < right then none else some samples
  | fuel + 1, samples, left, right =>
      if left < right then
        samples[(left + (right - left) / 2).toNat]?.bind fun middle ↦
        (partitionWork middle.workPs (samples.length + 1) samples left
          right).bind fun (samples, i, j) ↦
        if kth ≤ j then selectLoop kth fuel samples left j
        else if kth ≥ i then selectLoop kth fuel samples i right
        else some samples
      else some samples

def selectWork (samples : List Max35103AutoCalSample) (count kth : UInt16) :
    Option (Int64 × List Max35103AutoCalSample) :=
  (selectLoop kth samples.length samples 0 (count - 1)).bind fun samples ↦
    samples[kth.toNat]?.map fun sample ↦ (sample.workPs, samples)

/-- `lower + (upper - lower) / 2`. -/
def midpoint (lower upper : Int64) : Option Int64 :=
  (SignedOps.sub upper lower).bind fun difference ↦
  (SignedOps.div difference 2).bind fun half ↦
  SignedOps.add lower half

def workMedian (samples : List Max35103AutoCalSample) (count : UInt16) :
    Option (Int64 × List Max35103AutoCalSample) :=
  let upperIndex := count / 2
  (selectWork samples count upperIndex).bind fun (upper, samples) ↦
  if count &&& 1 ≠ 0 then some (upper, samples)
  else
    (selectWork samples count (upperIndex - 1)).bind fun (lower, samples) ↦
    (midpoint lower upper).map fun median ↦ (median, samples)

/-! ## No index wraps -/

section Indices

variable {pivot : Int64} {samples : List Max35103AutoCalSample}

theorem toNat_succ {i : UInt16} (hi : i.toNat + 1 < 65536) :
    (i + 1).toNat = i.toNat + 1 := by
  rw [UInt16.toNat_add, UInt16.toNat_one, Nat.mod_eq_of_lt hi]

theorem toNat_pred {j : UInt16} (hj : j ≠ 0) : (j - 1).toNat = j.toNat - 1 := by
  have hpos : 0 < j.toNat := by
    rw [Nat.pos_iff_ne_zero]
    intro hzero
    exact hj (UInt16.toNat_inj.mp hzero)
  rw [UInt16.toNat_sub_of_le]
  · rfl
  · rw [UInt16.le_iff_toNat_le]
    exact hpos

theorem toNat_ofNat {n : ℕ} (hn : n < 65536) : (UInt16.ofNat n).toNat = n :=
  UInt16.toNat_ofNat_of_lt' hn

theorem scanUp_eq (hcells : samples.length < 65536) {stop : ℕ} {i : UInt16}
    (fuel : ℕ) (hfuel : samples.length < fuel + i.toNat)
    (hscan : AutoCal.scanUp pivot (samples.drop i.toNat) i.toNat = some stop) :
    scanUp pivot samples fuel i = some (UInt16.ofNat stop) ∧
      i.toNat ≤ stop ∧ stop < samples.length := by
  induction fuel generalizing i with
  | zero =>
      rw [List.drop_eq_nil_of_le (by omega)] at hscan
      cases hscan
  | succ fuel ih =>
      by_cases hi : i.toNat < samples.length
      · rw [List.drop_eq_getElem_cons hi, AutoCal.scanUp] at hscan
        rw [scanUp, List.getElem?_eq_getElem hi, Option.bind_some]
        by_cases hbelow : samples[i.toNat].workPs < pivot
        · rw [if_pos hbelow] at hscan ⊢
          have hnext := toNat_succ (show i.toNat + 1 < 65536 by omega)
          rw [← hnext] at hscan
          obtain ⟨hrun, hle, hlt⟩ := ih (by omega) hscan
          exact ⟨hrun, by omega, hlt⟩
        · rw [if_neg hbelow, Option.some.injEq] at hscan
          rw [if_neg hbelow, ← hscan, UInt16.ofNat_toNat]
          exact ⟨rfl, le_rfl, hi⟩
      · rw [List.drop_eq_nil_of_le (by omega)] at hscan
        cases hscan

theorem scanDown_eq {stop : ℕ} {j : UInt16} (fuel : ℕ) (hfuel : j.toNat < fuel)
    (hscan : AutoCal.scanDown pivot samples j.toNat = some stop) :
    scanDown pivot samples fuel j = some (UInt16.ofNat stop) ∧
      stop ≤ j.toNat := by
  induction fuel generalizing j with
  | zero => omega
  | succ fuel ih =>
      by_cases hzero : j = 0
      · subst hzero
        rw [scanDown]
        rw [UInt16.toNat_zero, AutoCal.scanDown] at hscan
        obtain ⟨sample, hsample, rfl⟩ := Option.map_eq_some_iff.mp hscan
        rw [UInt16.toNat_zero, hsample, Option.bind_some]
        simp
      · have hpred := toNat_pred hzero
        have hj : j.toNat = (j - 1).toNat + 1 := by
          have hne : j.toNat ≠ 0 := fun h ↦ hzero (UInt16.toNat_inj.mp h)
          omega
        rw [hj, AutoCal.scanDown] at hscan
        rw [scanDown, hj]
        cases hcell : samples[(j - 1).toNat + 1]? with
        | none =>
            rw [hcell] at hscan
            cases hscan
        | some sample =>
            rw [hcell] at hscan
            dsimp only at hscan
            rw [Option.bind_some]
            by_cases habove : sample.workPs > pivot
            · rw [if_pos habove] at hscan ⊢
              obtain ⟨hrun, hle⟩ := ih (by omega) hscan
              rw [if_neg hzero]
              exact ⟨hrun, by omega⟩
            · rw [if_neg habove, Option.some.injEq] at hscan
              rw [if_neg habove, ← hscan, ← hj, UInt16.ofNat_toNat]
              exact ⟨rfl, le_rfl⟩

theorem lt_length_of_scanDown {stop j : ℕ}
    (hscan : AutoCal.scanDown pivot samples j = some stop) :
    j < samples.length := by
  rw [← not_le]
  intro hbeyond
  cases j with
  | zero => simp [AutoCal.scanDown, List.getElem?_eq_none hbeyond] at hscan
  | succ j => simp [AutoCal.scanDown, List.getElem?_eq_none hbeyond] at hscan

theorem length_of_swapSamples {out : List Max35103AutoCalSample} {left right : ℕ}
    (hswap : swapSamples samples left right = some out) :
    out.length = samples.length := by
  unfold swapSamples at hswap
  split at hswap
  · rw [Option.some.injEq] at hswap
    rw [← hswap, List.length_set, List.length_set]
  · cases hswap

theorem partitionWork_eq {out : List Max35103AutoCalSample} {i' j' : ℕ}
    {i j : UInt16} (fuel : ℕ) (hcells : samples.length < 65536)
    (hrun : AutoCal.partitionWork pivot fuel samples i.toNat j.toNat =
      some (out, i', j')) :
    partitionWork pivot fuel samples i j =
        some (out, UInt16.ofNat i', UInt16.ofNat j') ∧
      i' < 65536 ∧ j' < 65536 ∧ out.length = samples.length := by
  induction fuel generalizing samples i j with
  | zero => cases hrun
  | succ fuel ih =>
      rw [AutoCal.partitionWork] at hrun
      rw [partitionWork]
      by_cases hij : i.toNat ≤ j.toNat
      · rw [if_pos hij] at hrun
        rw [if_pos (UInt16.le_iff_toNat_le.mpr hij)]
        obtain ⟨up, hscanUp, hrun⟩ := Option.bind_eq_some_iff.mp hrun
        obtain ⟨down, hscanDown, hrun⟩ := Option.bind_eq_some_iff.mp hrun
        obtain ⟨hup, -, hupLt⟩ :=
          scanUp_eq hcells (samples.length + 1) (by omega) hscanUp
        have hjLt := lt_length_of_scanDown hscanDown
        obtain ⟨hdown, hdownLe⟩ :=
          scanDown_eq (samples.length + 1) (by omega) hscanDown
        rw [hup, Option.bind_some, hdown, Option.bind_some]
        have hupWord := toNat_ofNat (show up < 65536 by omega)
        have hdownWord := toNat_ofNat (show down < 65536 by omega)
        by_cases hcross : up ≤ down
        · rw [if_pos hcross] at hrun
          rw [if_pos (by rwa [UInt16.le_iff_toNat_le, hupWord, hdownWord]),
            hupWord, hdownWord]
          obtain ⟨swapped, hswap, hrun⟩ := Option.bind_eq_some_iff.mp hrun
          rw [hswap, Option.bind_some]
          have hsucc : (UInt16.ofNat up + 1).toNat = up + 1 := by
            rw [toNat_succ (by omega), hupWord]
          by_cases hzero : down = 0
          · rw [if_pos hzero, Option.some.injEq, Prod.mk.injEq,
              Prod.mk.injEq] at hrun
            obtain ⟨rfl, rfl, rfl⟩ := hrun
            rw [if_pos (by rw [hzero]; rfl), ← hsucc, UInt16.ofNat_toNat]
            exact ⟨rfl, by omega, by omega, length_of_swapSamples hswap⟩
          · have hne : UInt16.ofNat down ≠ 0 := by
              intro heq
              rw [← UInt16.toNat_inj, hdownWord] at heq
              exact hzero heq
            rw [if_neg hzero] at hrun
            rw [if_neg hne]
            have hlength := length_of_swapSamples hswap
            rw [← hlength]
            apply ih
            · rwa [hlength]
            · rw [hsucc, toNat_pred hne, hdownWord]
              exact hrun
        · rw [if_neg hcross, Option.some.injEq, Prod.mk.injEq,
            Prod.mk.injEq] at hrun
          obtain ⟨rfl, rfl, rfl⟩ := hrun
          rw [if_neg (by rwa [UInt16.le_iff_toNat_le, hupWord, hdownWord])]
          exact ⟨rfl, by omega, by omega, rfl⟩
      · rw [if_neg hij, Option.some.injEq, Prod.mk.injEq, Prod.mk.injEq] at hrun
        obtain ⟨rfl, rfl, rfl⟩ := hrun
        rw [if_neg fun hle ↦ hij (UInt16.le_iff_toNat_le.mp hle),
          UInt16.ofNat_toNat, UInt16.ofNat_toNat]
        exact ⟨rfl, i.toNat_lt, j.toNat_lt, rfl⟩

end Indices

/-! ## The selection -/

theorem selectLoop_eq {samples out : List Max35103AutoCalSample}
    {kth left right : UInt16} (fuel : ℕ) (hcells : samples.length < 65536)
    (hrun : AutoCal.selectLoop kth.toNat fuel samples left.toNat right.toNat =
      some out) : selectLoop kth fuel samples left right = some out := by
  induction fuel generalizing samples left right with
  | zero =>
      rw [AutoCal.selectLoop] at hrun
      rw [selectLoop]
      by_cases hlt : left.toNat < right.toNat
      · rw [if_pos hlt] at hrun
        cases hrun
      · rw [if_neg hlt] at hrun
        rw [if_neg fun h ↦ hlt (UInt16.lt_iff_toNat_lt.mp h), hrun]
  | succ fuel ih =>
      rw [AutoCal.selectLoop] at hrun
      rw [selectLoop]
      by_cases hlt : left.toNat < right.toNat
      · have hle := UInt16.le_iff_toNat_le.mpr hlt.le
        have hmiddle : (left + (right - left) / 2).toNat =
            left.toNat + (right.toNat - left.toNat) / 2 := by
          have hword := right.toNat_lt
          rw [UInt16.toNat_add, UInt16.toNat_div, UInt16.toNat_sub_of_le _ _ hle]
          apply Nat.mod_eq_of_lt
          change left.toNat + (right.toNat - left.toNat) / 2 < 2 ^ 16
          omega
        rw [if_pos hlt] at hrun
        rw [if_pos (UInt16.lt_iff_toNat_lt.mpr hlt)]
        obtain ⟨middle, hpivot, hrun⟩ := Option.bind_eq_some_iff.mp hrun
        obtain ⟨⟨parted, i, j⟩, hpart, hrun⟩ := Option.bind_eq_some_iff.mp hrun
        obtain ⟨hwords, hi, hj, hlength⟩ := partitionWork_eq _ hcells hpart
        rw [hmiddle, hpivot, Option.bind_some, hwords, Option.bind_some]
        dsimp only at hrun ⊢
        have hiWord := toNat_ofNat hi
        have hjWord := toNat_ofNat hj
        rw [← hlength] at hcells
        by_cases hlow : kth.toNat ≤ j
        · rw [if_pos hlow, ← hjWord] at hrun
          rw [if_pos (by rwa [UInt16.le_iff_toNat_le, hjWord])]
          exact ih hcells hrun
        · rw [if_neg hlow] at hrun
          rw [if_neg (by rwa [UInt16.le_iff_toNat_le, hjWord])]
          by_cases hhigh : kth.toNat ≥ i
          · rw [if_pos hhigh, ← hiWord] at hrun
            rw [if_pos (by rwa [ge_iff_le, UInt16.le_iff_toNat_le, hiWord])]
            exact ih hcells hrun
          · rw [if_neg hhigh] at hrun
            rw [if_neg (by rwa [ge_iff_le, UInt16.le_iff_toNat_le, hiWord])]
            exact hrun
      · rw [if_neg hlt] at hrun
        rw [if_neg fun h ↦ hlt (UInt16.lt_iff_toNat_lt.mp h)]
        exact hrun

/-- The cells of an array with a 16-bit count. -/
structure Cells (samples : List Max35103AutoCalSample) (count : UInt16) :
    Prop where
  length : samples.length = count.toNat
  pos : 0 < count.toNat

theorem Cells.of_perm {samples out : List Max35103AutoCalSample}
    {count : UInt16} (hcells : Cells samples count) (hperm : out.Perm samples) :
    Cells out count :=
  ⟨hperm.length_eq.trans hcells.length, hcells.pos⟩

/-- The selection ends inside the cells and only permutes them. -/
theorem selectWork_correct {samples : List Max35103AutoCalSample}
    {count rank : UInt16} (hcells : Cells samples count)
    (hrank : rank.toNat < count.toNat) :
    ∃ value out, selectWork samples count rank = some (value, out) ∧
      out.Perm samples ∧ kth (works samples) rank.toNat = some value.toInt := by
  have hlength := hcells.length
  have hword := count.toNat_lt
  obtain ⟨value, out, hrun, hperm, hkth⟩ :=
    selectWork_spec samples rank.toNat (by omega)
  refine ⟨value, out, ?_, hperm, hkth⟩
  have hlast : (count - 1).toNat = samples.length - 1 := by
    rw [toNat_pred, hlength]
    rintro rfl
    exact absurd hcells.pos (by decide)
  rw [AutoCal.selectWork] at hrun
  obtain ⟨ordered, hloop, hvalue⟩ := Option.bind_eq_some_iff.mp hrun
  rw [← hlast] at hloop
  rw [selectWork, selectLoop_eq samples.length (by omega) hloop,
    Option.bind_some, hvalue]

/-! ## The median -/

open Int64Range in
/-- The midpoint is rounded down, and needs a distance that is a word. -/
theorem midpoint_eq {lower upper : Int64} (hle : lower.toInt ≤ upper.toInt)
    (hnear : upper.toInt - lower.toInt < 2 ^ 63) :
    ∃ median, midpoint lower upper = some median ∧
      median.toInt = (lower.toInt + upper.toInt) / 2 := by
  have hlower := fits_toInt lower
  have hupper := fits_toInt upper
  unfold Fits at hlower hupper
  have hdistance : (upper - lower).toInt = upper.toInt - lower.toInt := by
    apply toInt_sub
    constructor <;> omega
  have hhalf : ((upper - lower) / 2).toInt =
      (upper.toInt - lower.toInt) / 2 := by
    rw [toInt_div (by decide), hdistance]
    exact Int.tdiv_eq_ediv_of_nonneg (by omega)
  have hsum : Fits (lower.toInt + ((upper - lower) / 2).toInt) := by
    rw [hhalf]
    constructor <;> omega
  refine ⟨lower + (upper - lower) / 2, ?_, ?_⟩
  · rw [midpoint, SignedOps.sub_eq (by constructor <;> omega), Option.bind_some,
      SignedOps.div_eq (by decide) (.inr (by decide)), Option.bind_some,
      SignedOps.add_eq hsum]
  · rw [toInt_add hsum, hhalf]
    omega

/-- The two middle entries lie less than the range of a word apart. -/
def MiddleNear (values : List ℤ) : Prop :=
  ∀ lower upper, kth values ((values.length - 1) / 2) = some lower →
    kth values (values.length / 2) = some upper → upper - lower < 2 ^ 63

theorem count_odd_iff (count : UInt16) :
    count &&& 1 ≠ 0 ↔ count.toNat % 2 = 1 := by
  have hlow : (count &&& 1).toNat = count.toNat % 2 := Nat.and_one_is_mod _
  have hzero : count &&& 1 = 0 ↔ count.toNat % 2 = 0 := by
    rw [← UInt16.toNat_inj, hlow]
    rfl
  rw [Ne, hzero]
  omega

theorem workMedian_correct {samples : List Max35103AutoCalSample}
    {count : UInt16} (hcells : Cells samples count)
    (hnear : MiddleNear (works samples)) :
    ∃ median out, workMedian samples count = some (median, out) ∧
      out.Perm samples ∧
      OrderStatistics.median (works samples) = some median.toInt := by
  have hpos := hcells.pos
  have hlength : (works samples).length = count.toNat := by
    rw [works_length, hcells.length]
  have hhalf : (count / 2).toNat = count.toNat / 2 := UInt16.toNat_div count 2
  obtain ⟨upper, ordered, hupper, hperm, hkth⟩ :=
    selectWork_correct hcells (show (count / 2).toNat < count.toNat by omega)
  rw [hhalf] at hkth
  by_cases hodd : count.toNat % 2 = 1
  · refine ⟨upper, ordered, ?_, hperm, ?_⟩
    · rw [workMedian, hupper, Option.bind_some]
      exact if_pos ((count_odd_iff count).mpr hodd)
    · have hsame : (count.toNat - 1) / 2 = count.toNat / 2 := by omega
      rw [OrderStatistics.median, hlength, hsame, hkth, Option.bind_some,
        Option.map_some, Option.some.injEq]
      omega
  · have hbelow : (count / 2 - 1).toNat = (count.toNat - 1) / 2 := by
      rw [toNat_pred, hhalf]
      · omega
      · intro hzero
        rw [← UInt16.toNat_inj, hhalf] at hzero
        have hnone : count.toNat / 2 = 0 := hzero
        omega
    obtain ⟨lower, out, hlower, hrest, hkth'⟩ :=
      selectWork_correct (hcells.of_perm hperm)
        (show (count / 2 - 1).toNat < count.toNat by omega)
    have hworks : (works ordered).Perm (works samples) := hperm.map _
    rw [hbelow, kth_congr hworks] at hkth'
    have hle : lower.toInt ≤ upper.toInt :=
      kth_mono (by omega) hkth' hkth
    obtain ⟨median, hmedian, heq⟩ := midpoint_eq hle
      (hnear _ _ (by rw [hlength, hkth']) (by rw [hlength, hkth]))
    refine ⟨median, out, ?_, hrest.trans hperm, ?_⟩
    · rw [workMedian, hupper, Option.bind_some]
      dsimp only
      rw [if_neg (mt (count_odd_iff count).mp hodd), hlower, Option.bind_some,
        hmedian, Option.map_some]
    · rw [OrderStatistics.median, hlength, hkth', Option.bind_some, hkth,
        Option.map_some, heq]

/-- What the selection and the median promise of an array. -/
structure Quickselects (samples : List Max35103AutoCalSample) (count : UInt16) :
    Prop where
  select : ∀ rank : UInt16, rank < count →
    ∃ value out, selectWork samples count rank = some (value, out) ∧
      out.Perm samples ∧ kth (works samples) rank.toNat = some value.toInt
  median : MiddleNear (works samples) →
    ∃ median out, workMedian samples count = some (median, out) ∧
      out.Perm samples ∧
      OrderStatistics.median (works samples) = some median.toInt

theorem quickselect_correct {samples : List Max35103AutoCalSample}
    {count : UInt16} (hlength : samples.length = count.toNat)
    (hpos : 0 < count) : Quickselects samples count where
  select _ hrank :=
    selectWork_correct ⟨hlength, UInt16.lt_iff_toNat_lt.mp hpos⟩
      (UInt16.lt_iff_toNat_lt.mp hrank)
  median := workMedian_correct ⟨hlength, UInt16.lt_iff_toNat_lt.mp hpos⟩

/-- Samples that have only a work value. -/
def workSamples (values : List Int64) : List Max35103AutoCalSample :=
  values.map fun value ↦ { Max35103AutoCalSample.zero with workPs := value }

theorem quickselect_correct_six :
    Quickselects (workSamples [30, -7, 12, 30, 5, 12]) 6 :=
  quickselect_correct (by decide) (by decide)

/-- The distance of the two ends of the range is no word. -/
theorem median_overflows :
    ¬ ∀ (samples : List Max35103AutoCalSample) (count : UInt16),
      samples.length = count.toNat → 0 < count →
        ∃ median out, workMedian samples count = some (median, out) ∧
          OrderStatistics.median (works samples) = some median.toInt := by
  intro hclaim
  obtain ⟨median, out, hrun, -⟩ :=
    hclaim (workSamples [Int64.minValue, Int64.maxValue]) 2 (by decide)
      (by decide)
  have hundefined :
      workMedian (workSamples [Int64.minValue, Int64.maxValue]) 2 = none := by
    decide +kernel
  rw [hundefined] at hrun
  cases hrun

end Swfpm.AutoCal.Words
