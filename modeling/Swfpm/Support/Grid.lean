import Mathlib

/-!
# Enumerated grids

An enumeration gives every point of a grid to exactly one index below a count.
Grids are products of axes, one axis for each coordinate; an axis that is added
becomes the fastest digit of the index.
-/

namespace Grid

variable {α β ι : Type*}

/-- Every point of the grid has exactly one index below the count. -/
def Enumerates (count : ℕ) (decode : ℕ → α) (grid : Set α) : Prop :=
  Set.BijOn decode (Set.Iio count) grid

/-- The values from `low` on in steps, up to `high`. -/
def stepped (low high step : ℤ) : Set ℤ :=
  {value | ∃ k : ℕ, value = low + k * step ∧ value ≤ high}

section Axes

variable {low high step : ℤ}

theorem stepped_subset (hstep : 0 ≤ step) :
    stepped low high step ⊆ Set.Icc low high := by
  rintro value ⟨k, rfl, hhigh⟩
  have hterm : 0 ≤ (k : ℤ) * step := Int.mul_nonneg (Int.natCast_nonneg k) hstep
  exact ⟨by omega, hhigh⟩

/-- The steps that fit into a range. -/
theorem index_lt_iff (hstep : 0 < step) (hrange : low ≤ high) (k : ℕ) :
    k < ((high - low) / step + 1).toNat ↔ low + k * step ≤ high := by
  have hcount : 0 ≤ (high - low) / step :=
    Int.ediv_nonneg (by omega) hstep.le
  have hfits := Int.le_ediv_iff_mul_le (a := (k : ℤ)) (b := high - low) hstep
  omega

theorem enumerates_stepped (hstep : 0 < step) (hrange : low ≤ high) :
    Enumerates ((high - low) / step + 1).toNat (fun k ↦ low + k * step)
      (stepped low high step) := by
  refine ⟨?_, ?_, ?_⟩
  · intro k hk
    exact ⟨k, rfl, (index_lt_iff hstep hrange k).mp hk⟩
  · intro k _ l _ heq
    have hterms : (k : ℤ) * step = l * step := Int.add_left_cancel heq
    exact Int.ofNat_inj.mp (mul_right_cancel₀ hstep.ne' hterms)
  · rintro value ⟨k, rfl, hhigh⟩
    exact ⟨k, (index_lt_iff hstep hrange k).mpr hhigh, rfl⟩

theorem enumerates_list {values : List α} (hnodup : values.Nodup) (default : α) :
    Enumerates values.length (fun k ↦ values.getD k default)
      {value | value ∈ values} := by
  refine ⟨?_, ?_, ?_⟩
  · intro k hk
    rw [Set.mem_Iio] at hk
    simp only [List.getD_eq_getElem _ _ hk]
    exact List.getElem_mem hk
  · intro k hk l hl heq
    rw [Set.mem_Iio] at hk hl
    simp only [List.getD_eq_getElem _ _ hk, List.getD_eq_getElem _ _ hl] at heq
    exact hnodup.getElem_inj_iff.mp heq
  · intro value hvalue
    obtain ⟨k, hk, rfl⟩ := List.getElem_of_mem hvalue
    exact ⟨k, hk, List.getD_eq_getElem _ _ hk⟩

theorem enumerates_singleton (value : α) :
    Enumerates 1 (fun _ ↦ value) {value} := by
  refine ⟨fun _ _ ↦ rfl, ?_, ?_⟩
  · intro k hk l hl _
    rw [Set.mem_Iio] at hk hl
    omega
  · rintro _ rfl
    exact ⟨0, Nat.zero_lt_one, rfl⟩

end Axes

section Products

variable {count n m : ℕ} {decode : ℕ → α} {grid : Set α}

theorem Enumerates.map {image : Set β} {f : α → β}
    (henum : Enumerates count decode grid) (hf : Set.BijOn f grid image) :
    Enumerates count (fun k ↦ f (decode k)) image :=
  hf.comp henum

theorem Enumerates.congr {decode' : ℕ → α} (henum : Enumerates count decode grid)
    (heq : ∀ k < count, decode' k = decode k) : Enumerates count decode' grid :=
  Set.BijOn.congr henum fun k hk ↦ (heq k hk).symm

variable [DecidableEq ι] {base : ι → α} {field : ι} {values : ℕ → α}
  {range : Set α}

/-- One coordinate of a point varies. -/
theorem Enumerates.axis (henum : Enumerates count values range) (base : ι → α)
    (field : ι) :
    Enumerates count (fun k ↦ Function.update base field (values k))
      (Set.univ.pi (Function.update (fun other ↦ {base other}) field range)) := by
  refine henum.map ⟨?_, ?_, ?_⟩
  · intro value hvalue other _
    by_cases hother : other = field
    · subst hother
      rwa [Function.update_self, Function.update_self]
    · rw [Function.update_of_ne hother, Function.update_of_ne hother]
      exact rfl
  · intro value _ value' _ heq
    have hfield := congrFun heq field
    simpa only [Function.update_self] using hfield
  · intro point hpoint
    refine ⟨point field, ?_, funext fun other ↦ ?_⟩
    · simpa only [Function.update_self] using hpoint field trivial
    · by_cases hother : other = field
      · subst hother
        exact Function.update_self ..
      · have hfixed := hpoint other trivial
        rw [Function.update_of_ne hother] at hfixed ⊢
        exact hfixed.symm

/-- One more coordinate varies, faster than those before it. -/
theorem Enumerates.add_axis {points : ℕ → ι → α} {axes : ι → Set α}
    {fixed : α} (henum : Enumerates m points (Set.univ.pi axes))
    (hfixed : axes field = {fixed}) (hvalues : Enumerates n values range) :
    Enumerates (m * n)
      (fun k ↦ Function.update (points (k / n)) field (values (k % n)))
      (Set.univ.pi (Function.update axes field range)) := by
  refine ⟨?_, ?_, ?_⟩
  · intro k hk other _
    rw [Set.mem_Iio] at hk
    have hn : 0 < n := Nat.pos_of_mul_pos_left (Nat.zero_lt_of_lt hk)
    by_cases hother : other = field
    · subst hother
      simp only [Function.update_self]
      exact hvalues.mapsTo (Nat.mod_lt k hn)
    · simp only [Function.update_of_ne hother]
      exact henum.mapsTo (Nat.div_lt_of_lt_mul (by rwa [mul_comm]))
        other trivial
  · intro k hk l hl heq
    rw [Set.mem_Iio] at hk hl
    have hn : 0 < n := Nat.pos_of_mul_pos_left (Nat.zero_lt_of_lt hk)
    have hslow : ∀ {i}, i < m * n → i / n < m := fun hi ↦
      Nat.div_lt_of_lt_mul (by rwa [mul_comm])
    have hdigit : k % n = l % n := by
      refine hvalues.injOn (Nat.mod_lt k hn) (Nat.mod_lt l hn) ?_
      simpa only [Function.update_self] using congrFun heq field
    have hrest : k / n = l / n := by
      refine henum.injOn (hslow hk) (hslow hl) (funext fun other ↦ ?_)
      by_cases hother : other = field
      · subst hother
        have hk' := henum.mapsTo (hslow hk) other trivial
        have hl' := henum.mapsTo (hslow hl) other trivial
        rw [hfixed] at hk' hl'
        exact hk'.trans hl'.symm
      · simpa only [Function.update_of_ne hother] using congrFun heq other
    rw [← Nat.div_add_mod k n, ← Nat.div_add_mod l n, hdigit, hrest]
  · intro point hpoint
    obtain ⟨digit, hdigit, hvalue⟩ := hvalues.surjOn
      (by simpa only [Function.update_self] using hpoint field trivial :
        point field ∈ range)
    have hslow : Function.update point field fixed ∈ Set.univ.pi axes := by
      intro other _
      by_cases hother : other = field
      · subst hother
        rw [Function.update_self, hfixed]
        exact rfl
      · rw [Function.update_of_ne hother]
        simpa only [Function.update_of_ne hother] using hpoint other trivial
    obtain ⟨rest, hrest, hpoints⟩ := henum.surjOn hslow
    rw [Set.mem_Iio] at hdigit hrest
    refine ⟨n * rest + digit, ?_, funext fun other ↦ ?_⟩
    · rw [Set.mem_Iio]
      calc n * rest + digit < n * rest + n := by omega
        _ = n * (rest + 1) := rfl
        _ ≤ n * m := Nat.mul_le_mul_left n hrest
        _ = m * n := mul_comm ..
    · have hn : 0 < n := Nat.zero_lt_of_lt hdigit
      simp only [Nat.mul_add_mod, Nat.mod_eq_of_lt hdigit, Nat.mul_add_div hn,
        Nat.div_eq_of_lt hdigit, Nat.add_zero, hpoints, hvalue]
      by_cases hother : other = field
      · subst hother
        exact Function.update_self ..
      · rw [Function.update_of_ne hother, Function.update_of_ne hother]

end Products

/-! ## Words as indices -/

/-- The words below a count decode to the points of the grid, each to its own. -/
def Decodes (count : ℕ) (word : UInt32 → α) (grid : Set α) : Prop :=
  ∃ decode : ℕ → α, Enumerates count decode grid ∧
    ∀ index : UInt32, index.toNat < count → word index = decode index.toNat

section Words

variable {count m : ℕ} {word word' : UInt32 → α} {grid : Set α}

theorem Decodes.mem (hdecodes : Decodes count word grid) {index : UInt32}
    (hindex : index.toNat < count) : word index ∈ grid := by
  obtain ⟨decode, henum, hwords⟩ := hdecodes
  rw [hwords index hindex]
  exact henum.mapsTo hindex

theorem Decodes.congr (hdecodes : Decodes count word grid)
    (hsame : ∀ index : UInt32, word index ∈ grid → word' index = word index) :
    Decodes count word' grid := by
  obtain ⟨decode, henum, hwords⟩ := id hdecodes
  refine ⟨decode, henum, fun index hindex ↦ ?_⟩
  rw [hsame index (hdecodes.mem hindex), hwords index hindex]

theorem Decodes.injOn (hdecodes : Decodes count word grid) :
    Set.InjOn word {index | index.toNat < count} := by
  obtain ⟨decode, henum, hwords⟩ := hdecodes
  intro index hindex other hother heq
  rw [hwords index hindex, hwords other hother] at heq
  exact UInt32.toNat_inj.mp (henum.injOn hindex hother heq)

theorem Decodes.surjOn (hdecodes : Decodes count word grid)
    (hcount : count ≤ 2 ^ 32) :
    Set.SurjOn word {index | index.toNat < count} grid := by
  obtain ⟨decode, henum, hwords⟩ := hdecodes
  intro point hpoint
  obtain ⟨k, hk, rfl⟩ := henum.surjOn hpoint
  rw [Set.mem_Iio] at hk
  have hword : (UInt32.ofNat k).toNat = k := by
    rw [UInt32.toNat_ofNat', Nat.mod_eq_of_lt (by omega)]
  have hindex : (UInt32.ofNat k).toNat < count := hword.trans_lt hk
  exact ⟨UInt32.ofNat k, hindex, by rw [hwords _ hindex, hword]⟩

variable [DecidableEq ι] {field : ι} {range : Set α}

theorem Decodes.axis (hvalues : Decodes count word range) (base : ι → α)
    (field : ι) :
    Decodes count (fun index ↦ Function.update base field (word index))
      (Set.univ.pi (Function.update (fun other ↦ {base other}) field range)) := by
  obtain ⟨values, henum, hwords⟩ := hvalues
  refine ⟨_, henum.axis base field, fun index hindex ↦ ?_⟩
  simp only [hwords index hindex]

/-- The fastest digit of an index is the remainder. -/
theorem Decodes.add_axis {n : UInt32} {points : UInt32 → ι → α}
    {axes : ι → Set α} {fixed : α} (hpoints : Decodes m points (Set.univ.pi axes))
    (field : ι) (hfixed : axes field = {fixed}) (hvalues : Decodes n.toNat word range) :
    Decodes (m * n.toNat)
      (fun index ↦ Function.update (points (index / n)) field (word (index % n)))
      (Set.univ.pi (Function.update axes field range)) := by
  obtain ⟨decode, henum, hdecode⟩ := hpoints
  obtain ⟨values, henumValues, hwords⟩ := hvalues
  refine ⟨_, henum.add_axis hfixed henumValues, fun index hindex ↦ ?_⟩
  have hn : 0 < n.toNat := Nat.pos_of_mul_pos_left (Nat.zero_lt_of_lt hindex)
  have hslow : (index / n).toNat < m := by
    rw [UInt32.toNat_div]
    exact Nat.div_lt_of_lt_mul (by rwa [mul_comm])
  have hfast : (index % n).toNat < n.toNat := by
    rw [UInt32.toNat_mod]
    exact Nat.mod_lt _ hn
  simp only [hdecode _ hslow, hwords _ hfast, UInt32.toNat_div, UInt32.toNat_mod]

end Words

end Grid
