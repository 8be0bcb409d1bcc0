import Mathlib

/-!
# Order statistics of a list

The entry that stands at a rank once a list is sorted, how it is found without
sorting (the list is cut before and after it), and the integer median with its
deviation, none of which depends on the order of the entries.
-/

namespace OrderStatistics

section Order

variable {α : Type*} [LinearOrder α] {xs ys : List α} {rank : ℕ}

def sorted (xs : List α) : List α := xs.insertionSort (· ≤ ·)

theorem sorted_perm (xs : List α) : (sorted xs).Perm xs :=
  List.perm_insertionSort _ xs

theorem sorted_pairwise (xs : List α) : (sorted xs).Pairwise (· ≤ ·) :=
  List.pairwise_insertionSort _ xs

@[simp]
theorem sorted_length (xs : List α) : (sorted xs).length = xs.length :=
  (sorted_perm xs).length_eq

theorem sorted_unique (hsorted : ys.Pairwise (· ≤ ·)) (hperm : ys.Perm xs) :
    sorted xs = ys :=
  ((sorted_perm xs).trans hperm.symm).eq_of_pairwise' (sorted_pairwise xs)
    hsorted

theorem sorted_congr (hperm : xs.Perm ys) : sorted xs = sorted ys :=
  sorted_unique (sorted_pairwise ys) ((sorted_perm ys).trans hperm.symm)

/-- The entry of a rank, counted from the smallest. -/
def kth (xs : List α) (rank : ℕ) : Option α := (sorted xs)[rank]?

theorem kth_congr (hperm : xs.Perm ys) (rank : ℕ) : kth xs rank = kth ys rank :=
  congrArg (·[rank]?) (sorted_congr hperm)

theorem kth_isSome (hrank : rank < xs.length) :
    ∃ value, kth xs rank = some value :=
  ⟨_, List.getElem?_eq_getElem (by simpa using hrank)⟩

theorem mem_of_kth {value : α} (hkth : kth xs rank = some value) :
    value ∈ xs :=
  (sorted_perm xs).subset (List.mem_of_getElem? hkth)

theorem kth_mono {rank' : ℕ} {value value' : α} (hle : rank ≤ rank')
    (hkth : kth xs rank = some value) (hkth' : kth xs rank' = some value') :
    value ≤ value' := by
  obtain rfl | hlt := hle.eq_or_lt
  · exact (Option.some.inj (hkth.symm.trans hkth')).le
  · obtain ⟨hbound, rfl⟩ := List.getElem?_eq_some_iff.mp hkth
    obtain ⟨hbound', rfl⟩ := List.getElem?_eq_some_iff.mp hkth'
    exact List.pairwise_iff_getElem.mp (sorted_pairwise xs) _ _ hbound hbound'
      hlt

/-! ## Cuts -/

/-- No entry before the cut exceeds one after it. -/
def CutAt (xs : List α) (cut : ℕ) : Prop :=
  ∀ x ∈ xs.take cut, ∀ y ∈ xs.drop cut, x ≤ y

/-- Entries may move about on either side of a cut. -/
theorem CutAt.of_perm {cut : ℕ} (hcut : CutAt xs cut)
    (hleft : (ys.take cut).Perm (xs.take cut))
    (hright : (ys.drop cut).Perm (xs.drop cut)) : CutAt ys cut :=
  fun x hx y hy => hcut x (hleft.subset hx) y (hright.subset hy)

theorem cutAt_zero (xs : List α) : CutAt xs 0 := by
  simp [CutAt]

theorem cutAt_of_length_le {cut : ℕ} (hcut : xs.length ≤ cut) : CutAt xs cut := by
  simp [CutAt, List.drop_eq_nil_of_le hcut]

theorem sorted_append (hle : ∀ x ∈ xs, ∀ y ∈ ys, x ≤ y) :
    sorted (xs ++ ys) = sorted xs ++ sorted ys := by
  refine sorted_unique (List.pairwise_append.mpr
    ⟨sorted_pairwise xs, sorted_pairwise ys, fun x hx y hy => ?_⟩)
    ((sorted_perm xs).append (sorted_perm ys))
  exact hle x ((sorted_perm xs).subset hx) y ((sorted_perm ys).subset hy)

/-- Between two adjacent cuts stands the entry of that rank. -/
theorem kth_of_cuts (hbefore : CutAt xs rank) (hafter : CutAt xs (rank + 1)) :
    kth xs rank = xs[rank]? := by
  by_cases hrank : rank < xs.length
  · have hsplit : xs = xs.take rank ++ ([xs[rank]] ++ xs.drop (rank + 1)) := by
      simp
    have hright : ∀ y ∈ xs.drop (rank + 1), xs[rank] ≤ y :=
      hafter _ (List.mem_take_iff_getElem.mpr ⟨rank, by omega, rfl⟩)
    have hdrop : sorted (xs.drop rank) =
        xs[rank] :: sorted (xs.drop (rank + 1)) := by
      rw [List.drop_eq_getElem_cons hrank]
      exact @sorted_append _ _ [xs[rank]] _ (by simpa using hright)
    have hsorted : sorted xs =
        sorted (xs.take rank) ++ xs[rank] :: sorted (xs.drop (rank + 1)) := by
      rw [← hdrop, ← sorted_append hbefore, List.take_append_drop]
    have hlength : (sorted (xs.take rank)).length = rank := by
      rw [sorted_length, List.length_take]
      omega
    rw [kth, hsorted, List.getElem?_append_right hlength.le, hlength,
      Nat.sub_self, List.getElem?_cons_zero, List.getElem?_eq_getElem hrank]
  · have hout := Nat.not_lt.mp hrank
    rw [kth, List.getElem?_eq_none (by simpa using hout),
      List.getElem?_eq_none hout]

end Order

/-! ## The integer median -/

/-- The middle entry, or what lies half way between the two middle entries,
rounded down. -/
def median (xs : List ℤ) : Option ℤ :=
  (kth xs ((xs.length - 1) / 2)).bind fun lower =>
    (kth xs (xs.length / 2)).map fun upper => (lower + upper) / 2

/-- The median of the distances to the median. -/
def medianDeviation (xs : List ℤ) : Option ℤ :=
  (median xs).bind fun center => median (xs.map fun x => |x - center|)

variable {xs ys : List ℤ}

theorem median_congr (hperm : xs.Perm ys) : median xs = median ys := by
  simp only [median, hperm.length_eq, kth_congr hperm]

theorem medianDeviation_congr (hperm : xs.Perm ys) :
    medianDeviation xs = medianDeviation ys := by
  simp only [medianDeviation, median_congr hperm, median_congr (hperm.map _)]

end OrderStatistics
