import Swfpm.Numeric.RoundHalfEven

/-!
# Monotone tables

Embedding of `table_is_monotonic` and `interpolate_i64` of
`infrastructure/numeric/interpolation.{h,c}`.  A table is what its pointer reads
at each index, and only the entries below `size` count; `none` is the return
value `false`.

The rounding of an offset into a segment is not always to nearest, but it is
monotone in the offset and never passes the far end of the segment.
-/

namespace Swfpm

open Int64Range

def tableIsMonotonic (xTable yTable : ℕ → Int64) (size : UInt16) : Bool :=
  size ≥ 2 &&
    (List.range' 1 (size.toNat - 1)).all fun i =>
      !(xTable i ≤ xTable (i - 1)) && !(yTable i ≤ yTable (i - 1))

theorem toNat_middle {lo hi : UInt16} (hapart : lo.toNat + 1 < hi.toNat) :
    (lo + (hi - lo) / 2).toNat = lo.toNat + (hi.toNat - lo.toNat) / 2 := by
  have hle : lo ≤ hi := by
    rw [UInt16.le_iff_toNat_le]
    omega
  have hword := hi.toNat_lt
  rw [UInt16.toNat_add, UInt16.toNat_div, UInt16.toNat_sub_of_le _ _ hle,
    show (2 : UInt16).toNat = 2 by rfl]
  omega

/-- The binary search, from the segment between `lo` and `hi`. -/
def searchSegment (xTable : ℕ → Int64) (x : Int64) (lo hi : UInt16) :
    UInt16 × UInt16 :=
  if lo.toNat + 1 < hi.toNat then
    let mid := lo + (hi - lo) / 2
    if x < xTable mid.toNat then searchSegment xTable x lo mid
    else searchSegment xTable x mid hi
  else (lo, hi)
termination_by hi.toNat - lo.toNat
decreasing_by
  all_goals
    rw [toNat_middle (by assumption)]
    omega

def interpolateI64 (x : Int64) (xTable yTable : ℕ → Int64) (size : UInt16) :
    Option Int64 :=
  if size < 2 then none
  else
    let last := size.toNat - 1
    if x ≤ xTable 0 then some (yTable 0)
    else if x ≥ xTable last then some (yTable last)
    else
      let (lo, hi) := searchSegment xTable x 0 (size - 1)
      let x0 := xTable lo.toNat
      let x1 := xTable hi.toNat
      let y0 := yTable lo.toNat
      let y1 := yTable hi.toNat
      let dx := x1 - x0
      if dx ≤ 0 then none
      else do
        let xOffset ← checkedSubI64 x x0
        let yRange ← checkedSubI64 y1 y0
        let num ← checkedMulI64 xOffset yRange
        some (y0 + roundI64 num dx)

/-! ## The search -/

/-- The entries at two neighbouring indices enclose `x`. -/
def Encloses (xTable : ℕ → Int64) (x : Int64) (lo hi : UInt16) : Prop :=
  xTable lo.toNat ≤ x ∧ x < xTable hi.toNat

/-- Each round keeps the enclosure, and the search ends at neighbours. -/
theorem searchSegment_spec {xTable : ℕ → Int64} {x : Int64} {lo hi : UInt16}
    (horder : lo.toNat < hi.toNat) (hencloses : Encloses xTable x lo hi) :
    (searchSegment xTable x lo hi).1.toNat + 1 =
        (searchSegment xTable x lo hi).2.toNat ∧
      (searchSegment xTable x lo hi).2.toNat ≤ hi.toNat ∧
      Encloses xTable x (searchSegment xTable x lo hi).1
        (searchSegment xTable x lo hi).2 := by
  fun_induction searchSegment xTable x lo hi with
  | case1 lo hi hapart mid hbelow ih =>
      have hmid : mid.toNat = _ := toNat_middle hapart
      obtain ⟨hadjacent, hbound, hkept⟩ := ih (by omega) ⟨hencloses.1, hbelow⟩
      exact ⟨hadjacent, by omega, hkept⟩
  | case2 lo hi hapart mid habove ih =>
      have hmid : mid.toNat = _ := toNat_middle hapart
      have hleft : xTable mid.toNat ≤ x := Int64.not_lt.mp habove
      obtain ⟨hadjacent, hbound, hkept⟩ := ih (by omega) ⟨hleft, hencloses.2⟩
      exact ⟨hadjacent, hbound, hkept⟩
  | case3 lo hi hclose =>
      have hadjacent : lo.toNat + 1 = hi.toNat := by omega
      exact ⟨hadjacent, le_rfl, hencloses⟩

/-! ## Rounding inside a segment -/

theorem roundsUp_iff_of_nonneg {v d : ℤ} (hd : 0 < d) (hv : 0 ≤ v) :
    RoundsUp v d ↔ d / 2 < v % d ∨ (v % d = d / 2 ∧ ¬ (v / d) % 2 = 0) := by
  rcases floor_cases v hd with ⟨-, -, hr⟩ | ⟨hneg, -⟩ | ⟨hneg, -⟩
  · rw [RoundsUp, ← hr]
  · exact absurd hv hneg.not_ge
  · exact absurd hv hneg.not_ge

theorem roundedQuotient_le_succ (v d : ℤ) :
    v / d ≤ roundedQuotient v d ∧ roundedQuotient v d ≤ v / d + 1 := by
  unfold roundedQuotient
  split_ifs <;> omega

theorem roundedQuotient_zero {d : ℤ} (hd : 0 < d) : roundedQuotient 0 d = 0 := by
  have hrounds : ¬ RoundsUp 0 d := by
    rintro (habove | ⟨-, hodd⟩)
    · rw [Int.natAbs_zero, Nat.zero_mod] at habove
      omega
    · rw [Int.zero_ediv] at hodd
      exact hodd rfl
  rw [roundedQuotient, if_neg hrounds, Int.zero_ediv]

/-- From one numerator to a larger one with the same floor, the remainder only
grows. -/
theorem roundedQuotient_mono {v w d : ℤ} (hd : 0 < d) (hv : 0 ≤ v) (hle : v ≤ w) :
    roundedQuotient v d ≤ roundedQuotient w d := by
  have hfloor : v / d ≤ w / d := Int.ediv_le_ediv hd hle
  rcases hfloor.lt_or_eq with hlt | heq
  · exact (roundedQuotient_le_succ v d).2.trans
      (le_trans hlt (roundedQuotient_le_succ w d).1)
  · have hremainder : v % d ≤ w % d := by
      have hvalue := Int.mul_ediv_add_emod v d
      have hvalue' := Int.mul_ediv_add_emod w d
      rw [heq] at hvalue
      linarith
    have hup : RoundsUp v d → RoundsUp w d := by
      rw [roundsUp_iff_of_nonneg hd hv, roundsUp_iff_of_nonneg hd (hv.trans hle), heq]
      rintro (habove | ⟨htie, hodd⟩)
      · exact .inl (habove.trans_le hremainder)
      · rw [htie] at hremainder
        rcases hremainder.lt_or_eq with habove | htie
        · exact .inl habove
        · exact .inr ⟨htie.symm, hodd⟩
    by_cases hrounds : RoundsUp v d
    · rw [roundedQuotient, roundedQuotient, if_pos hrounds, if_pos (hup hrounds), heq]
    · rw [roundedQuotient, if_neg hrounds, heq]
      exact (roundedQuotient_le_succ w d).1

/-- An offset short of the far end is not rounded past it. -/
theorem roundedQuotient_le_of_lt {v d n : ℤ} (hd : 0 < d) (hlt : v < d * n) :
    roundedQuotient v d ≤ n := by
  have hfloor : v / d < n := Int.ediv_lt_of_lt_mul hd (by rwa [mul_comm])
  exact (roundedQuotient_le_succ v d).2.trans hfloor

/-! ## Reading a table -/

section Table

variable {xTable yTable : ℕ → Int64} {size : UInt16}

/-- Strictly increasing entries at the indices below `size`. -/
def Ascends (table : ℕ → Int64) (size : UInt16) : Prop :=
  ∀ i j, i < j → j < size.toNat → (table i).toInt < (table j).toInt

theorem ascends_of_steps {table : ℕ → Int64}
    (hsteps : ∀ i, i + 1 < size.toNat → (table i).toInt < (table (i + 1)).toInt) :
    Ascends table size := by
  intro i j hlt hj
  induction j with
  | zero => omega
  | succ j ih =>
      have hstep := hsteps j hj
      rcases Nat.lt_or_eq_of_le (Nat.le_of_lt_succ hlt) with hbefore | rfl
      · exact (ih hbefore (by omega)).trans hstep
      · exact hstep

theorem Ascends.le {table : ℕ → Int64} (hascends : Ascends table size) {i j : ℕ}
    (hle : i ≤ j) (hj : j < size.toNat) : (table i).toInt ≤ (table j).toInt := by
  rcases Nat.lt_or_eq_of_le hle with hlt | rfl
  · exact (hascends i j hlt hj).le
  · exact le_rfl

theorem size_of_monotonic (htable : tableIsMonotonic xTable yTable size = true) :
    2 ≤ size.toNat := by
  unfold tableIsMonotonic at htable
  rw [Bool.and_eq_true, decide_eq_true_eq] at htable
  exact htable.1

theorem ascends_of_monotonic (htable : tableIsMonotonic xTable yTable size = true) :
    Ascends xTable size ∧ Ascends yTable size := by
  unfold tableIsMonotonic at htable
  rw [Bool.and_eq_true, List.all_eq_true] at htable
  have hstep : ∀ i, i + 1 < size.toNat →
      (xTable i).toInt < (xTable (i + 1)).toInt ∧
        (yTable i).toInt < (yTable (i + 1)).toInt := by
    intro i hi
    have hentry := htable.2 (i + 1) (List.mem_range'_1.mpr ⟨by omega, by omega⟩)
    simp only [Nat.add_sub_cancel, Bool.and_eq_true, Bool.not_eq_true',
      decide_eq_false_iff_not, Int64.not_le, Int64.lt_iff_toInt_lt] at hentry
    exact hentry
  exact ⟨ascends_of_steps fun i hi => (hstep i hi).1,
    ascends_of_steps fun i hi => (hstep i hi).2⟩

theorem toNat_last (hsize : 2 ≤ size.toNat) :
    (size - 1).toNat = size.toNat - 1 := by
  have hle : 1 ≤ size := by
    rw [UInt16.le_iff_toNat_le, UInt16.toNat_one]
    omega
  rw [UInt16.toNat_sub_of_le _ _ hle, UInt16.toNat_one]

/-- The three ways to a result, for a table that ascends. -/
inductive Interpolates (xTable yTable : ℕ → Int64) (size : UInt16)
    (x y : Int64) : Prop where
  | below (hx : x.toInt ≤ (xTable 0).toInt) (hy : y = yTable 0)
  | above (hx : (xTable (size.toNat - 1)).toInt ≤ x.toInt)
      (hy : y = yTable (size.toNat - 1))
  | within (k : ℕ) (hk : k + 1 < size.toNat)
      (hleft : (xTable k).toInt ≤ x.toInt)
      (hright : x.toInt < (xTable (k + 1)).toInt)
      (hy : y.toInt = (yTable k).toInt +
        roundedQuotient
          ((x.toInt - (xTable k).toInt) *
            ((yTable (k + 1)).toInt - (yTable k).toInt))
          ((xTable (k + 1)).toInt - (xTable k).toInt))

/-- The rounded offset of a point of the segment stays in the segment. -/
theorem roundedOffset_bounds {left right x low high : ℤ} (hleft : left ≤ x)
    (hright : x < right) (hrise : low < high) :
    0 ≤ roundedQuotient ((x - left) * (high - low)) (right - left) ∧
      roundedQuotient ((x - left) * (high - low)) (right - left) ≤ high - low := by
  have hd : 0 < right - left := by omega
  have hnonneg : 0 ≤ (x - left) * (high - low) :=
    mul_nonneg (by omega) (by omega)
  constructor
  · rw [← roundedQuotient_zero hd]
    exact roundedQuotient_mono hd le_rfl hnonneg
  · apply roundedQuotient_le_of_lt hd
    exact mul_lt_mul_of_pos_right (by omega) (by omega)

/-- A difference of words that comes out positive has not wrapped. -/
theorem toInt_sub_of_pos {a b : Int64} (horder : b.toInt < a.toInt)
    (hpos : ¬ a - b ≤ 0) : (a - b).toInt = a.toInt - b.toInt := by
  rw [Int64.le_iff_toInt_le, Int64.toInt_zero, Int64.toInt_sub, Int.bmod_def] at hpos
  apply toInt_sub
  have ha := fits_toInt a
  have hb := fits_toInt b
  unfold Fits at ha hb ⊢
  split_ifs at hpos <;> omega

/-- The arithmetic on one segment, whose ends are words around `x`. -/
theorem toInt_segmentValue {left right low high x y : Int64}
    (hleft : left.toInt ≤ x.toInt) (hright : x.toInt < right.toInt)
    (hrise : low.toInt < high.toInt) (hspan : ¬ right - left ≤ 0)
    (hresult :
      (do
        let xOffset ← checkedSubI64 x left
        let yRange ← checkedSubI64 high low
        let num ← checkedMulI64 xOffset yRange
        some (low + roundI64 num (right - left))) = some y) :
    y.toInt = low.toInt +
      roundedQuotient
        ((x.toInt - left.toInt) * (high.toInt - low.toInt))
        (right.toInt - left.toInt) := by
  have hdx := toInt_sub_of_pos (by omega) hspan
  obtain ⟨xOffset, hoffset, hresult⟩ := Option.bind_eq_some_iff.mp hresult
  obtain ⟨yRange, hrange, hresult⟩ := Option.bind_eq_some_iff.mp hresult
  obtain ⟨num, hnum, hresult⟩ := Option.bind_eq_some_iff.mp hresult
  rw [checkedSubI64_eq, exact_eq_some_iff] at hoffset hrange
  rw [checkedMulI64_eq, exact_eq_some_iff, hoffset, hrange] at hnum
  have hround : (roundI64 num (right - left)).toInt =
      roundedQuotient ((x.toInt - left.toInt) * (high.toInt - low.toInt))
        (right.toInt - left.toInt) := by
    rw [roundI64_eq, hnum, hdx]
    · omega
    · -- A segment of length one has no offset but zero.
      rw [hnum, hdx, or_iff_not_imp_right, not_not]
      intro hunit
      rw [show x.toInt - left.toInt = 0 by omega, zero_mul]
      decide
  obtain ⟨hlow, hhigh⟩ := roundedOffset_bounds hleft hright hrise
  rw [← Option.some.inj hresult, toInt_add, hround]
  rw [hround]
  have h := fits_toInt low
  have h' := fits_toInt high
  unfold Fits at h h' ⊢
  omega

theorem interpolates_of_some {x y : Int64}
    (htable : tableIsMonotonic xTable yTable size = true)
    (hresult : interpolateI64 x xTable yTable size = some y) :
    Interpolates xTable yTable size x y := by
  have hsize := size_of_monotonic htable
  obtain ⟨hxs, hys⟩ := ascends_of_monotonic htable
  have hlast := toNat_last hsize
  unfold interpolateI64 at hresult
  dsimp only at hresult
  split_ifs at hresult with hsmall hbelow habove hspan
  · exact .below (Int64.le_iff_toInt_le.mp hbelow) (Option.some.inj hresult).symm
  · exact .above (Int64.le_iff_toInt_le.mp habove) (Option.some.inj hresult).symm
  · have hnonempty : (0 : UInt16).toNat < (size - 1).toNat := by
      rw [hlast]
      show 0 < _
      omega
    have hends : Encloses xTable x 0 (size - 1) := by
      refine ⟨Int64.le_of_lt (Int64.not_le.mp hbelow), ?_⟩
      rw [hlast]
      exact Int64.not_le.mp habove
    obtain ⟨hadjacent, hinside, hencloses⟩ := searchSegment_spec hnonempty hends
    generalize searchSegment xTable x 0 (size - 1) = segment at *
    obtain ⟨lo, hi⟩ := segment
    dsimp only at hadjacent hinside hencloses hspan hresult
    rw [hlast] at hinside
    obtain ⟨hleft, hright⟩ := hencloses
    rw [Int64.le_iff_toInt_le] at hleft
    rw [Int64.lt_iff_toInt_lt] at hright
    rw [← hadjacent] at hright hspan hresult
    have hk : lo.toNat + 1 < size.toNat := by omega
    exact .within lo.toNat hk hleft hright
      (toInt_segmentValue hleft hright (hys _ _ (by omega) hk) hspan hresult)

namespace Interpolates

variable {x x' y y' : Int64}

/-- The value lies between the entries at the ends of its segment. -/
theorem between (hys : Ascends yTable size) (hsize : 2 ≤ size.toNat)
    (hreads : Interpolates xTable yTable size x y) :
    (yTable 0).toInt ≤ y.toInt ∧ y.toInt ≤ (yTable (size.toNat - 1)).toInt := by
  cases hreads with
  | below hx hy =>
      rw [hy]
      exact ⟨le_rfl, hys.le (Nat.zero_le _) (by omega)⟩
  | above hx hy =>
      rw [hy]
      exact ⟨hys.le (Nat.zero_le _) (by omega), le_rfl⟩
  | within k hk hleft hright hy =>
      obtain ⟨hlow, hhigh⟩ :=
        roundedOffset_bounds hleft hright (hys k (k + 1) (by omega) hk)
      have hfirst := hys.le (Nat.zero_le k) (by omega)
      have hlast := hys.le (show k + 1 ≤ size.toNat - 1 by omega) (by omega)
      constructor <;> omega

theorem at_knot (hxs : Ascends xTable size) (hsize : 2 ≤ size.toNat) {k : ℕ}
    (hk : k < size.toNat)
    (hreads : Interpolates xTable yTable size (xTable k) y) : y = yTable k := by
  have hinjective : ∀ i, i < size.toNat → (xTable i).toInt ≤ (xTable k).toInt →
      i ≤ k := by
    intro i hi hle
    by_contra hlt
    exact absurd (hxs k i (not_le.mp hlt) hi) hle.not_gt
  cases hreads with
  | below hx hy =>
      have hzero : k = 0 := by
        by_contra hne
        exact absurd (hxs 0 k (Nat.pos_of_ne_zero hne) hk) hx.not_gt
      rw [hy, hzero]
  | above hx hy =>
      have hlast := hinjective _ (by omega) hx
      rw [hy, show k = size.toNat - 1 by omega]
  | within j hj hleft hright hy =>
      have hjk := hinjective j (by omega) hleft
      have hkj : k ≤ j := by
        by_contra hlt
        exact absurd (hxs.le (show j + 1 ≤ k by omega) hk) hright.not_ge
      obtain rfl : j = k := by omega
      rw [sub_self, zero_mul, roundedQuotient_zero (by omega), add_zero] at hy
      exact Int64.toInt_inj.mp hy

/-- Monotone inside a segment by the rounding, and across segments because each
value stays within its own. -/
theorem mono (hxs : Ascends xTable size) (hys : Ascends yTable size)
    (hsize : 2 ≤ size.toNat) (hreads : Interpolates xTable yTable size x y)
    (hreads' : Interpolates xTable yTable size x' y') (hle : x.toInt ≤ x'.toInt) :
    y.toInt ≤ y'.toInt := by
  have hbetween := hreads.between hys hsize
  have hbetween' := hreads'.between hys hsize
  cases hreads with
  | below hx hy =>
      rw [hy]
      exact hbetween'.1
  | above hx hy =>
      cases hreads' with
      | below hx' hy' =>
          have hends := hxs 0 (size.toNat - 1) (by omega) (by omega)
          omega
      | above hx' hy' => rw [hy, hy']
      | within k hk hleft hright hy' =>
          have hlast := hxs.le (show k + 1 ≤ size.toNat - 1 by omega) (by omega)
          omega
  | within k hk hleft hright hy =>
      cases hreads' with
      | below hx' hy' =>
          have hfirst := hxs.le (Nat.zero_le k) (by omega)
          have hequal : x = xTable k := Int64.toInt_inj.mp (by omega)
          have hzero : k = 0 := by
            by_contra hne
            have := hxs 0 k (Nat.pos_of_ne_zero hne) (by omega)
            omega
          rw [hequal, sub_self, zero_mul, roundedQuotient_zero (by omega),
            add_zero, hzero] at hy
          rw [hy, hy']
      | above hx' hy' =>
          rw [hy']
          exact hbetween.2
      | within k' hk' hleft' hright' hy' =>
          have hsegment : k ≤ k' := by
            by_contra hlt
            have := hxs.le (show k' + 1 ≤ k by omega) (by omega)
            omega
          rcases Nat.lt_or_eq_of_le hsegment with hlt | rfl
          · have hhigh := (roundedOffset_bounds hleft hright
              (hys k (k + 1) (by omega) hk)).2
            have hlow := (roundedOffset_bounds hleft' hright'
              (hys k' (k' + 1) (by omega) hk')).1
            have hknots := hys.le (show k + 1 ≤ k' by omega) (by omega)
            omega
          · have hrise := hys k (k + 1) (by omega) hk
            rw [hy, hy']
            apply Int.add_le_add_left
            apply roundedQuotient_mono (by omega)
            · exact mul_nonneg (by omega) (by omega)
            · exact mul_le_mul_of_nonneg_right (by omega) (by omega)

end Interpolates

/-- The search ends at the segment of `x`, and every result is faithful to the
table at its knots, in its range and in its order. -/
structure FaithfulTable (xTable yTable : ℕ → Int64) (size : UInt16) : Prop where
  segment : ∀ x, xTable 0 < x → x < xTable (size.toNat - 1) →
    (searchSegment xTable x 0 (size - 1)).1.toNat + 1 =
        (searchSegment xTable x 0 (size - 1)).2.toNat ∧
      (searchSegment xTable x 0 (size - 1)).2.toNat < size.toNat ∧
      xTable (searchSegment xTable x 0 (size - 1)).1.toNat ≤ x ∧
      x < xTable (searchSegment xTable x 0 (size - 1)).2.toNat
  knots : ∀ k y, k < size.toNat →
    interpolateI64 (xTable k) xTable yTable size = some y → y = yTable k
  range : ∀ x y, interpolateI64 x xTable yTable size = some y →
    yTable 0 ≤ y ∧ y ≤ yTable (size.toNat - 1)
  monotone : ∀ x₁ x₂ y₁ y₂, x₁ ≤ x₂ →
    interpolateI64 x₁ xTable yTable size = some y₁ →
    interpolateI64 x₂ xTable yTable size = some y₂ → y₁ ≤ y₂

theorem FaithfulTable.of_monotonic
    (htable : tableIsMonotonic xTable yTable size = true) :
    FaithfulTable xTable yTable size := by
  have hsize := size_of_monotonic htable
  obtain ⟨hxs, hys⟩ := ascends_of_monotonic htable
  constructor
  · intro x hbelow habove
    have hlast := toNat_last hsize
    have hstart : Encloses xTable x 0 (size - 1) := by
      rw [Encloses, hlast]
      exact ⟨Int64.le_of_lt hbelow, habove⟩
    obtain ⟨hadjacent, hinside, hencloses⟩ :=
      searchSegment_spec (by rw [hlast]; show 0 < _; omega) hstart
    exact ⟨hadjacent, by omega, hencloses⟩
  · intro k y hk hresult
    exact (interpolates_of_some htable hresult).at_knot hxs hsize hk
  · intro x y hresult
    rw [Int64.le_iff_toInt_le, Int64.le_iff_toInt_le]
    exact (interpolates_of_some htable hresult).between hys hsize
  · intro x₁ x₂ y₁ y₂ hle hresult₁ hresult₂
    rw [Int64.le_iff_toInt_le] at hle ⊢
    exact (interpolates_of_some htable hresult₁).mono hxs hys hsize
      (interpolates_of_some htable hresult₂) hle

/-- A table that is accepted is interpolated faithfully. -/
theorem interpolateI64_faithful (xTable yTable : ℕ → Int64) (size : UInt16)
    (htable : tableIsMonotonic xTable yTable size = true) :
    FaithfulTable xTable yTable size :=
  .of_monotonic htable

theorem interpolateI64_faithful_ramp :
    FaithfulTable (fun i => Int64.ofNat (100 * i)) (fun i => Int64.ofNat (50 * i)) 3 :=
  interpolateI64_faithful _ _ _ (by decide)

end Table

end Swfpm
