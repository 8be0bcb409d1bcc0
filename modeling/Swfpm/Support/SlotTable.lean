import Swfpm.Support.RingBuffer

/-!
# Tables of slots

A table of fixed size whose cells are taken and given up in any order: how many
cells satisfy a predicate, and the walk that finds the first cell with the least
key.
-/

namespace SlotTable

open RingBuffer

variable {α : Type*} {size : ℕ}

/-- The number of cells that satisfy `p`. -/
def countWhere (p : α → Bool) (cells : Fin size → α) : ℕ :=
  (List.finRange size).countP fun slot => p (cells slot)

theorem countP_write_of_notMem (p : α → Bool) (cells : Fin size → α)
    {slot : Fin size} (value : α) {slots : List (Fin size)}
    (hslot : slot ∉ slots) :
    slots.countP (fun other => p (write cells slot value other)) =
      slots.countP fun other => p (cells other) := by
  apply List.countP_congr
  intro other hother
  have hne : other ≠ slot := ne_of_mem_of_not_mem hother hslot
  simp [write, hne]

/-- A write changes the count by what it does to its own cell. -/
theorem countWhere_write (p : α → Bool) (cells : Fin size → α)
    (slot : Fin size) (value : α) :
    countWhere p (write cells slot value) + (if p (cells slot) then 1 else 0) =
      countWhere p cells + (if p value then 1 else 0) := by
  have hperm : (List.finRange size).Perm
      (slot :: (List.finRange size).erase slot) :=
    List.perm_cons_erase (List.mem_finRange slot)
  have hrest : slot ∉ (List.finRange size).erase slot :=
    (List.nodup_finRange size).not_mem_erase
  have hself : write cells slot value slot = value := by simp [write]
  rw [countWhere, countWhere, hperm.countP_eq, hperm.countP_eq, List.countP_cons,
    List.countP_cons, countP_write_of_notMem p cells value hrest, hself]
  omega

theorem countWhere_le (p : α → Bool) (cells : Fin size → α) :
    countWhere p cells ≤ size := by
  simpa [countWhere] using
    List.countP_le_length (l := List.finRange size)
      (p := fun slot => p (cells slot))

theorem countWhere_eq_size_iff (p : α → Bool) (cells : Fin size → α) :
    countWhere p cells = size ↔ ∀ slot, p (cells slot) = true := by
  have hlength : (List.finRange size).length = size := List.length_finRange
  nth_rewrite 2 [← hlength]
  rw [countWhere, List.countP_eq_length]
  simp

theorem countWhere_eq_zero_iff (p : α → Bool) (cells : Fin size → α) :
    countWhere p cells = 0 ↔ ∀ slot, p (cells slot) = false := by
  simp [countWhere, List.countP_eq_zero]

/-! ## The least key -/

section Least

variable {ι κ : Type*} [LinearOrder ι] [LinearOrder κ]
variable (eligible : ι → Bool) (key : ι → κ) (before : κ)

/-- One step of the walk: the best place so far and its key. -/
def leastStep (best : Option ι × κ) (place : ι) : Option ι × κ :=
  if eligible place ∧ key place < best.2 then (some place, key place) else best

/-- The walk for the first eligible place with the least key below `before`. -/
def firstLeast (places : List ι) : Option ι :=
  (places.foldl (leastStep eligible key) (none, before)).1

/-- The place is eligible, and every other such place has a larger key or comes
later. -/
def IsFirstLeast (places : List ι) (place : ι) : Prop :=
  place ∈ places ∧ eligible place = true ∧ key place < before ∧
    ∀ other ∈ places, eligible other = true → key other < before →
      key place < key other ∨ key place = key other ∧ place ≤ other

/-- What the walk has found after `places`. -/
theorem foldl_leastStep {places : List ι}
    (hsorted : places.Pairwise (· < ·)) :
    (places.foldl (leastStep eligible key) (none, before) = (none, before) ∧
        ∀ other ∈ places, eligible other = true → ¬ key other < before) ∨
      ∃ place, places.foldl (leastStep eligible key) (none, before) =
          (some place, key place) ∧
        IsFirstLeast eligible key before places place := by
  induction places using List.reverseRecOn with
  | nil => exact Or.inl ⟨rfl, by simp⟩
  | append_singleton places last ih =>
      rw [List.pairwise_append] at hsorted
      obtain ⟨hplaces, -, hlast⟩ := hsorted
      have hlater : ∀ place ∈ places, place < last :=
        fun place hplace => hlast place hplace last (by simp)
      rw [List.foldl_append, List.foldl_cons, List.foldl_nil]
      rcases ih hplaces with ⟨hnone, habsent⟩ | ⟨place, hsome, hfirst⟩
      · rw [hnone, leastStep]
        split_ifs with htake
        · refine Or.inr ⟨last, rfl, by simp, htake.1, htake.2, ?_⟩
          intro other hother heligible hbelow
          rcases List.mem_append.mp hother with hother | hother
          · exact absurd hbelow (habsent other hother heligible)
          · rw [List.mem_singleton.mp hother]
            exact Or.inr ⟨rfl, le_refl _⟩
        · refine Or.inl ⟨rfl, ?_⟩
          intro other hother heligible hbelow
          rcases List.mem_append.mp hother with hother | hother
          · exact habsent other hother heligible hbelow
          · rw [List.mem_singleton.mp hother] at heligible hbelow
            exact htake ⟨heligible, hbelow⟩
      · obtain ⟨hmem, heligiblePlace, hbelowPlace, hleast⟩ := hfirst
        rw [hsome, leastStep]
        split_ifs with htake
        · refine Or.inr ⟨last, rfl, by simp, htake.1,
            htake.2.trans hbelowPlace, ?_⟩
          intro other hother heligible hbelow
          rcases List.mem_append.mp hother with hother | hother
          · left
            rcases hleast other hother heligible hbelow with hlt | ⟨heq, -⟩
            · exact htake.2.trans hlt
            · exact heq ▸ htake.2
          · rw [List.mem_singleton.mp hother]
            exact Or.inr ⟨rfl, le_refl _⟩
        · refine Or.inr ⟨place, rfl, List.mem_append_left _ hmem,
            heligiblePlace, hbelowPlace, ?_⟩
          intro other hother heligible hbelow
          rcases List.mem_append.mp hother with hother | hother
          · exact hleast other hother heligible hbelow
          · rw [List.mem_singleton.mp hother] at heligible ⊢
            have hle : key place ≤ key last :=
              not_lt.mp fun hlt => htake ⟨heligible, hlt⟩
            rcases hle.lt_or_eq with hlt | heq
            · exact Or.inl hlt
            · exact Or.inr ⟨heq, (hlater place hmem).le⟩

variable {eligible key before}

theorem IsFirstLeast.unique {places : List ι} {place other : ι}
    (hplace : IsFirstLeast eligible key before places place)
    (hother : IsFirstLeast eligible key before places other) :
    place = other := by
  obtain ⟨hmem, heligible, hbelow, hleast⟩ := hplace
  obtain ⟨hmem', heligible', hbelow', hleast'⟩ := hother
  rcases hleast other hmem' heligible' hbelow' with hlt | ⟨heq, hle⟩
  · rcases hleast' place hmem heligible hbelow with hlt' | ⟨heq', -⟩
    · exact absurd hlt' (not_lt_of_gt hlt)
    · exact absurd heq' (ne_of_gt hlt)
  · rcases hleast' place hmem heligible hbelow with hlt' | ⟨-, hle'⟩
    · exact absurd heq (ne_of_gt hlt')
    · exact le_antisymm hle hle'

theorem firstLeast_eq_some_iff {places : List ι}
    (hsorted : places.Pairwise (· < ·)) (place : ι) :
    firstLeast eligible key before places = some place ↔
      IsFirstLeast eligible key before places place := by
  rw [firstLeast]
  rcases foldl_leastStep eligible key before hsorted with
    ⟨hnone, habsent⟩ | ⟨found, hsome, hfirst⟩
  · rw [hnone]
    constructor
    · intro heq
      exact absurd heq (by simp)
    · rintro ⟨hmem, heligible, hbelow, -⟩
      exact absurd hbelow (habsent place hmem heligible)
  · rw [hsome]
    constructor
    · rintro heq
      rw [← Option.some.inj heq]
      exact hfirst
    · intro hplace
      rw [hfirst.unique hplace]

end Least
end SlotTable
