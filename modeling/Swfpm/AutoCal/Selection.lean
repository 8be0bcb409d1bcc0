import Swfpm.AutoCal.Metrics
import Swfpm.Support.OrderStatistics

/-!
# The statistics come to a result, and to the right one

The scans of a partition stop at entries that an earlier exchange left behind,
the partition narrows its range and separates it by the pivot, and so the
selection ends inside the array, only permutes it, and leaves the order
statistic at its place.
-/

namespace Swfpm.AutoCal

open OrderStatistics

/-! ## Exchanging two entries -/

theorem swapSamples_spec (samples : List Max35103AutoCalSample) (left right : ℕ)
    (hleft : left < samples.length) (hright : right < samples.length) :
    ∃ out, swapSamples samples left right = some out ∧ out.Perm samples ∧
      out[left]? = samples[right]? ∧ out[right]? = samples[left]? ∧
      ∀ k, k ≠ left → k ≠ right → out[k]? = samples[k]? := by
  refine ⟨(samples.set left samples[right]).set right samples[left], ?_,
    List.set_set_perm hleft hright, ?_, ?_, ?_⟩
  · simp [swapSamples, hleft, hright]
  · by_cases heq : right = left
    · subst heq
      simp [hright]
    · rw [List.getElem?_set_ne heq, List.getElem?_set_self hleft,
        List.getElem?_eq_getElem hright]
  · rw [List.getElem?_set_self (by simpa using hright),
      List.getElem?_eq_getElem hleft]
  · intro k hkl hkr
    rw [List.getElem?_set_ne (Ne.symm hkr), List.getElem?_set_ne (Ne.symm hkl)]

/-! ## The scans -/

/-- Some entry between two indices satisfies a condition on its value. -/
def HasBetween (samples : List Max35103AutoCalSample) (low high : ℕ)
    (stops : Int64 → Prop) : Prop :=
  ∃ k sample, low ≤ k ∧ k ≤ high ∧ samples[k]? = some sample ∧
    stops sample.workPs

/-- All entries from `low` on and before `high` satisfy a condition. -/
def AllBetween (samples : List Max35103AutoCalSample) (low high : ℕ)
    (holds : Int64 → Prop) : Prop :=
  ∀ k sample, low ≤ k → k < high → samples[k]? = some sample →
    holds sample.workPs

theorem scanUp_spec {pivot : Int64} {entries : List Max35103AutoCalSample}
    {k : ℕ} {sample : Max35103AutoCalSample} (i : ℕ)
    (hk : entries[k]? = some sample) (hstop : ¬ sample.workPs < pivot) :
    ∃ d stop, scanUp pivot entries i = some (i + d) ∧ d ≤ k ∧
      entries[d]? = some stop ∧ ¬ stop.workPs < pivot ∧
      AllBetween entries 0 d (· < pivot) := by
  induction entries generalizing k i with
  | nil => simp at hk
  | cons entry rest ih =>
      by_cases hbelow : entry.workPs < pivot
      · cases k with
        | zero =>
            have heq : entry = sample := by simpa using hk
            exact absurd (heq ▸ hbelow) hstop
        | succ k =>
            obtain ⟨d, stop, hscan, hd, hentry, hnot, hpassed⟩ :=
              ih (i + 1) (by simpa using hk)
            refine ⟨d + 1, stop, ?_, by omega, by simpa using hentry, hnot, ?_⟩
            · rw [scanUp, if_pos hbelow, hscan, Nat.add_assoc, Nat.add_comm 1 d]
            · intro a other _ ha hother
              cases a with
              | zero =>
                  have heq : entry = other := by simpa using hother
                  exact heq ▸ hbelow
              | succ a =>
                  exact hpassed a other (Nat.zero_le a) (by omega)
                    (by simpa using hother)
      · exact ⟨0, entry, by rw [scanUp, if_neg hbelow, Nat.add_zero],
          Nat.zero_le k, by simp, hbelow, fun _ _ _ ha ↦ by omega⟩

theorem scanDown_spec {pivot : Int64} {samples : List Max35103AutoCalSample}
    {k j : ℕ} {sample : Max35103AutoCalSample} (hj : j < samples.length)
    (hkj : k ≤ j) (hk : samples[k]? = some sample)
    (hstop : ¬ sample.workPs > pivot) :
    ∃ j' stop, scanDown pivot samples j = some j' ∧ k ≤ j' ∧ j' ≤ j ∧
      samples[j']? = some stop ∧ ¬ stop.workPs > pivot ∧
      AllBetween samples (j' + 1) (j + 1) (· > pivot) := by
  induction j with
  | zero =>
      obtain rfl : k = 0 := by omega
      exact ⟨0, sample, by simp [scanDown, hk], le_rfl, le_rfl, hk, hstop,
        fun _ _ _ hb ↦ by omega⟩
  | succ j ih =>
      have hentry := List.getElem?_eq_getElem hj
      by_cases habove : samples[j + 1].workPs > pivot
      · have hlt : k < j + 1 := by
          refine lt_of_le_of_ne hkj ?_
          rintro rfl
          rw [hentry, Option.some.injEq] at hk
          exact hstop (hk ▸ habove)
        obtain ⟨j', stop, hscan, hkj', hj', hat, hnot, hpassed⟩ :=
          ih (by omega) (by omega)
        refine ⟨j', stop, ?_, hkj', by omega, hat, hnot, ?_⟩
        · simp only [scanDown, hentry, if_pos habove, hscan]
        · intro b other hb hbj hother
          obtain hlow | rfl := Nat.lt_succ_iff_lt_or_eq.mp hbj
          · exact hpassed b other hb hlow hother
          · rw [hentry, Option.some.injEq] at hother
            exact hother ▸ habove
      · refine ⟨j + 1, samples[j + 1], ?_, hkj, le_rfl, hentry, habove,
          fun _ _ _ hb ↦ by omega⟩
        simp only [scanDown, hentry, if_neg habove]

/-! ## The partition -/

/-- Both scans of one round, with what they stop at and what they pass. -/
theorem scans_spec {pivot : Int64} {samples : List Max35103AutoCalSample}
    {left right i j : ℕ} (hj : j < samples.length)
    (hup : HasBetween samples i right (¬ · < pivot))
    (hdown : HasBetween samples left j (¬ · > pivot)) :
    ∃ i' j', scanUp pivot (samples.drop i) i = some i' ∧
      scanDown pivot samples j = some j' ∧ i ≤ i' ∧ i' ≤ right ∧ left ≤ j' ∧
      j' ≤ j ∧
      HasBetween samples i' i' (¬ · < pivot) ∧
      HasBetween samples j' j' (¬ · > pivot) ∧
      AllBetween samples i i' (· < pivot) ∧
      AllBetween samples (j' + 1) (j + 1) (· > pivot) := by
  obtain ⟨k, sample, hik, hkr, hk, hstop⟩ := hup
  have hdrop : (samples.drop i)[k - i]? = some sample := by
    rw [List.getElem?_drop, Nat.add_sub_cancel' hik, hk]
  obtain ⟨d, up, hscanUp, hd, hupAt, hupStop, hupPassed⟩ :=
    scanUp_spec i hdrop hstop
  obtain ⟨m, other, hlm, hmj, hm, hmStop⟩ := hdown
  obtain ⟨j', down, hscanDown, hmj', hj', hdownAt, hdownStop, hdownPassed⟩ :=
    scanDown_spec hj hmj hm hmStop
  rw [List.getElem?_drop] at hupAt
  have hbelow : AllBetween samples i (i + d) (· < pivot) := by
    intro a sample ha had hsample
    refine hupPassed (a - i) sample (Nat.zero_le _) (by omega) ?_
    rw [List.getElem?_drop, Nat.add_sub_cancel' ha, hsample]
  exact ⟨i + d, j', hscanUp, hscanDown, by omega, by omega, by omega, hj',
    ⟨i + d, up, le_rfl, le_rfl, hupAt, hupStop⟩,
    ⟨j', down, le_rfl, le_rfl, hdownAt, hdownStop⟩, hbelow, hdownPassed⟩

/-- What the exchanges of a partition leave alone. -/
structure Within (left right : ℕ) (samples out : List Max35103AutoCalSample) :
    Prop where
  perm : out.Perm samples
  outside : ∀ k, k < left ∨ right < k → out[k]? = samples[k]?

theorem Within.refl (left right : ℕ) (samples : List Max35103AutoCalSample) :
    Within left right samples samples :=
  ⟨.refl _, fun _ _ ↦ rfl⟩

theorem Within.trans {left right : ℕ}
    {samples middle out : List Max35103AutoCalSample}
    (hfirst : Within left right samples middle)
    (hsecond : Within left right middle out) : Within left right samples out :=
  ⟨hsecond.perm.trans hfirst.perm,
    fun k hk ↦ (hsecond.outside k hk).trans (hfirst.outside k hk)⟩

/-- The range from `left` to `right`, as far as `i` and `j` have come. -/
structure Parted (pivot : Int64) (samples : List Max35103AutoCalSample)
    (left right i j : ℕ) : Prop where
  low : AllBetween samples left i (· ≤ pivot)
  high : AllBetween samples (j + 1) (right + 1) (pivot ≤ ·)

/-- The scans of a round go on with the partition. -/
theorem Parted.scans {pivot : Int64} {samples : List Max35103AutoCalSample}
    {left right i j i' j' : ℕ} (hparted : Parted pivot samples left right i j)
    (hbelow : AllBetween samples i i' (· < pivot))
    (habove : AllBetween samples (j' + 1) (j + 1) (· > pivot)) :
    Parted pivot samples left right i' j' where
  low k sample hk hki hsample := by
    by_cases hold : k < i
    · exact hparted.low k sample hk hold hsample
    · exact Int64.le_of_lt (hbelow k sample (by omega) hki hsample)
  high k sample hk hkr hsample := by
    by_cases hold : k < j + 1
    · exact Int64.le_of_lt (habove k sample hk hold hsample)
    · exact hparted.high k sample (by omega) hkr hsample

/-- One round of the partition, up to where the next one begins. -/
theorem partitionWork_round {pivot : Int64}
    {samples : List Max35103AutoCalSample} {left right bottom top i j : ℕ}
    (fuel : ℕ) (hij : i ≤ j) (hj : j < samples.length) (hli : left ≤ i)
    (hjr : j ≤ right) (hparted : Parted pivot samples left right i j)
    (hup : HasBetween samples i top (¬ · < pivot))
    (hdown : HasBetween samples bottom j (¬ · > pivot)) :
    ∃ i' j', i ≤ i' ∧ i' ≤ top ∧ bottom ≤ j' ∧ j' ≤ j ∧
      ((j' < i' ∧ Parted pivot samples left right i' j' ∧
          partitionWork pivot (fuel + 1) samples i j = some (samples, i', j')) ∨
        ∃ out, i' ≤ j' ∧ Within left right samples out ∧
          AllBetween out left (i' + 1) (· ≤ pivot) ∧
          AllBetween out j' (right + 1) (pivot ≤ ·) ∧
          HasBetween out j' j' (¬ · < pivot) ∧
          HasBetween out i' i' (¬ · > pivot) ∧
          partitionWork pivot (fuel + 1) samples i j =
            if j' = 0 then some (out, i' + 1, j')
            else partitionWork pivot fuel out (i' + 1) (j' - 1)) := by
  obtain ⟨i', j', hscanUp, hscanDown, hi, hir, hlj, hjj, hatUp, hatDown, hbelow,
    habove⟩ := scans_spec hj hup hdown
  have hscanned := hparted.scans hbelow habove
  refine ⟨i', j', hi, hir, hlj, hjj, ?_⟩
  by_cases hcross : i' ≤ j'
  · right
    obtain ⟨out, hswap, hperm, houtUp, houtDown, hout⟩ :=
      swapSamples_spec samples i' j' (by omega) (by omega)
    obtain ⟨k, up, hk, hk', hkAt, hkStop⟩ := hatUp
    obtain rfl : k = i' := by omega
    obtain ⟨m, down, hm, hm', hmAt, hmStop⟩ := hatDown
    obtain rfl : m = j' := by omega
    rw [hmAt] at houtUp
    rw [hkAt] at houtDown
    have hwithin : Within left right samples out :=
      ⟨hperm, fun a ha ↦ hout a (by omega) (by omega)⟩
    refine ⟨out, hcross, hwithin, ?_, ?_, ⟨m, up, le_rfl, le_rfl, houtDown, hkStop⟩,
      ⟨k, down, le_rfl, le_rfl, houtUp, hmStop⟩, ?_⟩
    · intro a sample ha hak hsample
      obtain hlt | rfl := Nat.lt_succ_iff_lt_or_eq.mp hak
      · rw [hout a (by omega) (by omega)] at hsample
        exact hscanned.low a sample ha hlt hsample
      · rw [houtUp, Option.some.injEq] at hsample
        exact hsample ▸ Int64.not_lt.mp hmStop
    · intro a sample ha har hsample
      obtain hlt | rfl := Nat.lt_or_eq_of_le ha
      · rw [hout a (by omega) (by omega)] at hsample
        exact hscanned.high a sample hlt har hsample
      · rw [houtDown, Option.some.injEq] at hsample
        exact hsample ▸ Int64.not_lt.mp hkStop
    · simp only [partitionWork, if_pos hij, hscanUp, hscanDown, hswap,
        Option.bind_some, if_pos hcross]
  · left
    refine ⟨by omega, hscanned, ?_⟩
    simp only [partitionWork, if_pos hij, hscanUp, hscanDown,
      Option.bind_some, if_neg hcross]

/-- Later rounds: each scan meets what the exchange before it left behind. -/
theorem partitionWork_spec {pivot : Int64} (left right fuel : ℕ)
    (samples : List Max35103AutoCalSample) (i j : ℕ) (hpos : 0 < fuel)
    (hfuel : j + 1 < fuel + i) (hj : j < samples.length) (hli : left ≤ i)
    (hir : i ≤ right + 1) (hjr : j ≤ right) (hlj : left ≤ j + 1)
    (hparted : Parted pivot samples left right i j)
    (hup : i ≤ j → HasBetween samples i right (¬ · < pivot))
    (hdown : i ≤ j → HasBetween samples left j (¬ · > pivot)) :
    ∃ out i' j', partitionWork pivot fuel samples i j = some (out, i', j') ∧
      Within left right samples out ∧ Parted pivot out left right i' j' ∧
      j' < i' ∧ left ≤ j' + 1 ∧ i ≤ i' ∧ i' ≤ right + 1 ∧ j' ≤ j := by
  induction fuel generalizing samples i j with
  | zero => omega
  | succ fuel ih =>
      by_cases hij : i ≤ j
      · obtain ⟨i', j', hi, hi', hlj', hjj, hround⟩ :=
          partitionWork_round fuel hij hj hli hjr hparted (hup hij) (hdown hij)
        rcases hround with ⟨hcross, hscanned, heq⟩ |
          ⟨out, hcross, hwithin, hlow, hhigh, hatUp, hatDown, heq⟩
        · exact ⟨samples, i', j', heq, .refl .., hscanned, hcross, by omega, hi,
            by omega, hjj⟩
        by_cases hzero : j' = 0
        · rw [if_pos hzero] at heq
          refine ⟨out, i' + 1, j', heq, hwithin, ⟨hlow, ?_⟩, by omega, by omega,
            by omega, by omega, hjj⟩
          exact fun a sample ha ↦ hhigh a sample (by omega)
        rw [if_neg hzero] at heq
        have hlength := hwithin.perm.length_eq
        have hnext : j' - 1 + 1 = j' := by omega
        obtain ⟨k, up, hk, hk', hkAt, hkStop⟩ := hatUp
        obtain ⟨m, down, hm, hm', hmAt, hmStop⟩ := hatDown
        obtain ⟨final, i'', j'', hrun, hfinal, hdone, hcross', hlj'', hi'',
            hir'', hj''⟩ :=
          ih out (i' + 1) (j' - 1) (by omega) (by omega) (by omega) (by omega)
            (by omega) (by omega) (by omega) ⟨hlow, by rwa [hnext]⟩
            (fun hmore ↦ ⟨k, up, by omega, by omega, hkAt, hkStop⟩)
            (fun hmore ↦ ⟨m, down, by omega, by omega, hmAt, hmStop⟩)
        exact ⟨final, i'', j'', heq.trans hrun, hwithin.trans hfinal, hdone,
          hcross', hlj'', by omega, hir'', by omega⟩
      · exact ⟨samples, i, j, by rw [partitionWork, if_neg hij], .refl ..,
          hparted, by omega, hlj, le_rfl, hir, le_rfl⟩

/-- A whole partition around one of its own entries narrows the range on both
sides. -/
theorem partitionWork_narrows {samples : List Max35103AutoCalSample}
    {left right : ℕ} (hlt : left < right) (hright : right < samples.length)
    {m : ℕ} {middle : Max35103AutoCalSample} (hlm : left ≤ m) (hmr : m ≤ right)
    (hm : samples[m]? = some middle) :
    ∃ out i j, partitionWork middle.workPs (samples.length + 1) samples left
        right = some (out, i, j) ∧
      Within left right samples out ∧
      Parted middle.workPs out left right i j ∧
      j < i ∧ left < i ∧ i ≤ right + 1 ∧ left ≤ j + 1 ∧ j < right := by
  have hirrefl : ¬ middle.workPs < middle.workPs := Int64.lt_irrefl
  have hempty : Parted middle.workPs samples left right left right :=
    ⟨fun _ _ _ hk ↦ by omega, fun _ _ hk hkr ↦ by omega⟩
  obtain ⟨i', j', hi, him, hmj, hjj, hround⟩ :=
    partitionWork_round samples.length hlt.le hright le_rfl le_rfl hempty
      ⟨m, middle, hlm, le_rfl, hm, hirrefl⟩ ⟨m, middle, le_rfl, hmr, hm, hirrefl⟩
  rcases hround with ⟨hcross, -, heq⟩ |
    ⟨out, hcross, hwithin, hlow, hhigh, hatUp, hatDown, heq⟩
  · -- the scans cannot pass the pivot itself
    omega
  by_cases hzero : j' = 0
  · rw [if_pos hzero] at heq
    refine ⟨out, i' + 1, j', heq, hwithin, ⟨hlow, ?_⟩, by omega, by omega,
      by omega, by omega, by omega⟩
    exact fun a sample ha ↦ hhigh a sample (by omega)
  rw [if_neg hzero] at heq
  have hlength := hwithin.perm.length_eq
  have hnext : j' - 1 + 1 = j' := by omega
  obtain ⟨k, up, hk, hk', hkAt, hkStop⟩ := hatUp
  obtain ⟨n, down, hn, hn', hnAt, hnStop⟩ := hatDown
  obtain ⟨final, i'', j'', hrun, hfinal, hdone, hcross', hlj'', hi'', hir'',
      hj''⟩ :=
    partitionWork_spec left right samples.length out
      (i' + 1) (j' - 1) (by omega) (by omega) (by omega) (by omega) (by omega)
      (by omega) (by omega) ⟨hlow, by rwa [hnext]⟩
      (fun hmore ↦ ⟨k, up, by omega, by omega, hkAt, hkStop⟩)
      (fun hmore ↦ ⟨n, down, by omega, by omega, hnAt, hnStop⟩)
  exact ⟨final, i'', j'', heq.trans hrun, hwithin.trans hfinal, hdone, hcross',
    by omega, hir'', hlj'', by omega⟩

/-! ## The selection -/

/-- The values that are ordered. -/
def works (samples : List Max35103AutoCalSample) : List ℤ :=
  samples.map fun sample ↦ sample.workPs.toInt

@[simp]
theorem works_length (samples : List Max35103AutoCalSample) :
    (works samples).length = samples.length :=
  List.length_map _

theorem works_getElem? (samples : List Max35103AutoCalSample) (k : ℕ) :
    (works samples)[k]? = samples[k]?.map fun sample ↦ sample.workPs.toInt :=
  List.getElem?_map

theorem cutAt_works_iff {samples : List Max35103AutoCalSample} {cut : ℕ} :
    CutAt (works samples) cut ↔
      ∀ a b low high, a < cut → cut ≤ b → samples[a]? = some low →
        samples[b]? = some high → low.workPs ≤ high.workPs := by
  constructor
  · intro hcut a b low high ha hb hlow hhigh
    have hleft : low.workPs.toInt ∈ (works samples).take cut := by
      refine List.mem_of_getElem? (i := a) ?_
      rw [List.getElem?_take_of_lt ha, works_getElem?, hlow, Option.map_some]
    have hright : high.workPs.toInt ∈ (works samples).drop cut := by
      refine List.mem_of_getElem? (i := b - cut) ?_
      rw [List.getElem?_drop, Nat.add_sub_cancel' hb, works_getElem?, hhigh,
        Option.map_some]
    exact Int64.le_iff_toInt_le.mpr (hcut _ hleft _ hright)
  · intro hcut x hx y hy
    obtain ⟨a, hx⟩ := List.mem_iff_getElem?.mp hx
    obtain ⟨b, hy⟩ := List.mem_iff_getElem?.mp hy
    rw [List.getElem?_take, works_getElem?] at hx
    split_ifs at hx with ha
    rw [List.getElem?_drop, works_getElem?] at hy
    obtain ⟨low, hlow, rfl⟩ := Option.map_eq_some_iff.mp hx
    obtain ⟨high, hhigh, rfl⟩ := Option.map_eq_some_iff.mp hy
    exact Int64.le_iff_toInt_le.mp
      (hcut a (cut + b) low high ha (Nat.le_add_right _ _) hlow hhigh)

/-- A cut outside the range survives what happens inside. -/
theorem Within.cutAt {left right cut : ℕ}
    {samples out : List Max35103AutoCalSample}
    (hwithin : Within left right samples out)
    (houtside : cut ≤ left ∨ right < cut) (hcut : CutAt (works samples) cut) :
    CutAt (works out) cut := by
  have hperm : (works out).Perm (works samples) := hwithin.perm.map _
  have hsplit := hperm
  rw [← List.take_append_drop cut (works out),
    ← List.take_append_drop cut (works samples)] at hsplit
  obtain hleft | hright := houtside
  · have htake : (works out).take cut = (works samples).take cut := by
      refine List.ext_getElem? fun k ↦ ?_
      rw [List.getElem?_take, List.getElem?_take]
      split_ifs with hk
      · rw [works_getElem?, works_getElem?,
          hwithin.outside k (.inl (by omega))]
      · rfl
    rw [htake] at hsplit
    exact hcut.of_perm (htake ▸ .refl _) ((List.perm_append_left_iff _).mp hsplit)
  · have hdrop : (works out).drop cut = (works samples).drop cut := by
      refine List.ext_getElem? fun k ↦ ?_
      rw [List.getElem?_drop, List.getElem?_drop, works_getElem?,
        works_getElem?, hwithin.outside (cut + k) (.inr (by omega))]
    rw [hdrop] at hsplit
    exact hcut.of_perm ((List.perm_append_right_iff _).mp hsplit) (hdrop ▸ .refl _)

/-- The partition cuts its range wherever `i` and `j` have passed each other. -/
theorem Parted.cutAt {pivot : Int64} {samples : List Max35103AutoCalSample}
    {left right i j cut : ℕ} (hparted : Parted pivot samples left right i j)
    (hleft : CutAt (works samples) left)
    (hright : CutAt (works samples) (right + 1)) (hlc : left ≤ cut)
    (hcr : cut ≤ right + 1) (hjc : j + 1 ≤ cut) (hci : cut ≤ i) :
    CutAt (works samples) cut := by
  rw [cutAt_works_iff] at hleft hright ⊢
  intro a b low high ha hb hlow hhigh
  by_cases hal : a < left
  · exact hleft a b low high hal (by omega) hlow hhigh
  by_cases hbr : right < b
  · exact hright a b low high (by omega) hbr hlow hhigh
  exact Int64.le_trans
    (hparted.low a low (by omega) (by omega) hlow)
    (hparted.high b high (by omega) (by omega) hhigh)

/-- The range always holds the wanted rank and is cut off on both sides. -/
theorem selectLoop_spec (kth left right fuel : ℕ)
    (samples : List Max35103AutoCalSample) (hfuel : right ≤ fuel + left)
    (hleft : left ≤ kth) (hright : kth ≤ right)
    (hlength : right < samples.length) (hcutLeft : CutAt (works samples) left)
    (hcutRight : CutAt (works samples) (right + 1)) :
    ∃ out, selectLoop kth fuel samples left right = some out ∧
      out.Perm samples ∧ CutAt (works out) kth ∧
      CutAt (works out) (kth + 1) := by
  induction fuel generalizing samples left right with
  | zero =>
      obtain rfl : left = kth := by omega
      obtain rfl : right = left := by omega
      exact ⟨samples, by rw [selectLoop, if_neg (by omega)], .refl _, hcutLeft,
        hcutRight⟩
  | succ fuel ih =>
      by_cases hlt : left < right
      · have hmiddle : left + (right - left) / 2 < samples.length := by omega
        have hm := List.getElem?_eq_getElem hmiddle
        obtain ⟨parted, i, j, hrun, hwithin, hparted, hcross, hi, hir, hlj,
            hj⟩ :=
          partitionWork_narrows hlt hlength (by omega) (by omega) hm
        have hlengths := hwithin.perm.length_eq
        have hpartedLeft := hwithin.cutAt (.inl le_rfl) hcutLeft
        have hpartedRight :=
          hwithin.cutAt (.inr (Nat.lt_succ_self right)) hcutRight
        have hcuts : ∀ cut, left ≤ cut → cut ≤ right + 1 → j + 1 ≤ cut →
            cut ≤ i → CutAt (works parted) cut := fun _ ↦
          hparted.cutAt hpartedLeft hpartedRight
        rw [selectLoop, if_pos hlt, hm]
        simp only [Option.bind_some, hrun]
        by_cases hlow : kth ≤ j
        · obtain ⟨out, hout, hrest, hcut⟩ :=
            ih left j parted (by omega) hleft hlow (by omega) hpartedLeft
              (hcuts (j + 1) hlj (by omega) le_rfl hcross)
          exact ⟨out, by rw [if_pos hlow, hout], hrest.trans hwithin.perm, hcut⟩
        by_cases hhigh : kth ≥ i
        · obtain ⟨out, hout, hrest, hcut⟩ :=
            ih i right parted (by omega) hhigh hright (by omega)
              (hcuts i hi.le hir hcross le_rfl) hpartedRight
          exact ⟨out, by rw [if_neg hlow, if_pos hhigh, hout],
            hrest.trans hwithin.perm, hcut⟩
        · exact ⟨parted, by rw [if_neg hlow, if_neg hhigh], hwithin.perm,
            hcuts kth hleft (by omega) (by omega) (by omega),
            hcuts (kth + 1) (by omega) (by omega) (by omega) (by omega)⟩
      · obtain rfl : left = kth := by omega
        obtain rfl : right = left := by omega
        exact ⟨samples, by rw [selectLoop, if_neg hlt], .refl _, hcutLeft,
          hcutRight⟩

theorem selectWork_spec (samples : List Max35103AutoCalSample) (rank : ℕ)
    (hrank : rank < samples.length) :
    ∃ value out, selectWork samples rank = some (value, out) ∧
      out.Perm samples ∧ kth (works samples) rank = some value.toInt := by
  obtain ⟨out, hout, hperm, hbefore, hafter⟩ :=
    selectLoop_spec rank 0 (samples.length - 1) samples.length samples
      (by omega) (Nat.zero_le _) (by omega) (by omega) (cutAt_zero _)
      (cutAt_of_length_le (by rw [works_length]; omega))
  have hentry : rank < out.length := hperm.length_eq ▸ hrank
  refine ⟨out[rank].workPs, out, ?_, hperm, ?_⟩
  · simp only [selectWork, hout, Option.bind_some,
      List.getElem?_eq_getElem hentry, Option.map_some]
  · have hsame : kth (works samples) rank = kth (works out) rank :=
      kth_congr (hperm.symm.map _) rank
    rw [hsame, kth_of_cuts hbefore hafter, works_getElem?,
      List.getElem?_eq_getElem hentry, Option.map_some]

/-- The median of some values in the service's arithmetic. -/
def IsMedian (values : List ℤ) (median : Int64) : Prop :=
  ∃ lower upper : Int64,
    kth values ((values.length - 1) / 2) = some lower.toInt ∧
    kth values (values.length / 2) = some upper.toInt ∧
    median = lower + (upper - lower) / 2

theorem IsMedian.congr {values values' : List ℤ} {median : Int64}
    (hmedian : IsMedian values median) (hperm : values.Perm values') :
    IsMedian values' median := by
  obtain ⟨lower, upper, hlower, hupper, heq⟩ := hmedian
  rw [kth_congr hperm, hperm.length_eq] at hlower hupper
  exact ⟨lower, upper, hlower, hupper, heq⟩

theorem IsMedian.unique {values : List ℤ} {median median' : Int64}
    (hmedian : IsMedian values median) (hmedian' : IsMedian values median') :
    median = median' := by
  obtain ⟨lower, upper, hlower, hupper, rfl⟩ := hmedian
  obtain ⟨lower', upper', hlower', hupper', rfl⟩ := hmedian'
  rw [hlower, Option.some.injEq, Int64.toInt_inj] at hlower'
  rw [hupper, Option.some.injEq, Int64.toInt_inj] at hupper'
  rw [hlower', hupper']

theorem workMedian_spec (samples : List Max35103AutoCalSample)
    (hne : samples ≠ []) :
    ∃ median out, workMedian samples = some (median, out) ∧
      out.Perm samples ∧ IsMedian (works samples) median := by
  have hpos := List.length_pos_of_ne_nil hne
  obtain ⟨upper, ordered, hupper, hperm, hkth⟩ :=
    selectWork_spec samples (samples.length / 2) (by omega)
  have hlength := hperm.length_eq
  by_cases hodd : ordered.length % 2 ≠ 0
  · have hsame : (samples.length - 1) / 2 = samples.length / 2 := by omega
    refine ⟨upper, ordered, ?_, hperm, upper, upper, ?_, ?_, ?_⟩
    · simp only [workMedian, hupper, Option.bind_some, if_pos hodd]
    · rw [works_length, hsame, hkth]
    · rw [works_length, hkth]
    · rw [Int64.sub_self]
      exact (Int64.add_zero upper).symm
  · have hbelow : samples.length / 2 - 1 = (samples.length - 1) / 2 := by omega
    obtain ⟨lower, out, hlower, hrest, hkth'⟩ :=
      selectWork_spec ordered (samples.length / 2 - 1) (by omega)
    refine ⟨lower + (upper - lower) / 2, out, ?_, hrest.trans hperm, lower,
      upper, ?_, ?_, rfl⟩
    · simp only [workMedian, hupper, Option.bind_some, if_neg hodd, hlower,
        Option.map_some]
    · have hworks : (works ordered).Perm (works samples) := hperm.map _
      rw [works_length, ← hbelow, ← hkth', kth_congr hworks]
    · rw [works_length, hkth]

end Swfpm.AutoCal
