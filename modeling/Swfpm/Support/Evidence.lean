import Mathlib

/-!
# Evidence in a log of observations

A log lists observations, newest first, and some of them are usable.
`HoldsAfter` says that a property held at every usable observation made after a
given one.
-/

namespace Evidence

variable {α : Type*} {usable holds : α → Prop} {first entry : α}
  {older log : List α}

/-- Every usable entry of the log after `first` has the property. -/
def HoldsAfter (usable holds : α → Prop) (first : α) (older log : List α) : Prop :=
  ∃ recent, log = recent ++ first :: older ∧
    ∀ entry ∈ recent, usable entry → holds entry

theorem HoldsAfter.start : HoldsAfter usable holds first older (first :: older) :=
  ⟨[], rfl, by simp⟩

theorem HoldsAfter.cons (hafter : HoldsAfter usable holds first older log)
    (hentry : usable entry → holds entry) :
    HoldsAfter usable holds first older (entry :: log) := by
  obtain ⟨recent, hlog, hrecent⟩ := hafter
  refine ⟨entry :: recent, by simp [hlog], ?_⟩
  intro other hother husable
  rcases List.mem_cons.mp hother with rfl | hother
  · exact hentry husable
  · exact hrecent other hother husable

theorem HoldsAfter.mem (hafter : HoldsAfter usable holds first older log) :
    first ∈ log := by
  obtain ⟨recent, hlog, _⟩ := hafter
  simp [hlog]

/-- Newer than the first observation, or the first one itself. -/
theorem HoldsAfter.cons_cases
    (hafter : HoldsAfter usable holds first older (entry :: log)) :
    (first = entry ∧ older = log) ∨
      (usable entry → holds entry) ∧ HoldsAfter usable holds first older log := by
  obtain ⟨recent, hlog, hrecent⟩ := hafter
  cases recent with
  | nil =>
      left
      simp only [List.nil_append, List.cons.injEq] at hlog
      exact ⟨hlog.1.symm, hlog.2.symm⟩
  | cons newest recent =>
      right
      simp only [List.cons_append, List.cons.injEq] at hlog
      obtain ⟨rfl, hlog⟩ := hlog
      refine ⟨hrecent entry List.mem_cons_self, recent, hlog, ?_⟩
      intro other hother
      exact hrecent other (List.mem_cons_of_mem _ hother)

/-- The newest usable entry has the property, if the first one does. -/
theorem HoldsAfter.newest {usable : α → Bool}
    (hafter : HoldsAfter (fun entry => usable entry) holds first older log)
    (husable : usable first) (hfirst : holds first)
    (hnewest : log.find? usable = some entry) : holds entry := by
  obtain ⟨recent, hlog, hrecent⟩ := hafter
  rw [hlog, List.find?_append] at hnewest
  cases hfound : recent.find? usable with
  | none =>
      rw [hfound, Option.none_or, List.find?_cons_of_pos husable] at hnewest
      rwa [← Option.some.inj hnewest]
  | some newest =>
      rw [hfound, Option.some_or] at hnewest
      rw [← Option.some.inj hnewest]
      exact hrecent newest (List.mem_of_find?_eq_some hfound)
        (List.find?_some hfound)

/-- The property of an entry and of what is older holds throughout the log. -/
def EveryEntry (P : α → List α → Prop) (log : List α) : Prop :=
  ∀ entry older, entry :: older <:+ log → P entry older

variable {P : α → List α → Prop}

theorem EveryEntry.suffix (hevery : EveryEntry P log) (hsuffix : older <:+ log) :
    EveryEntry P older := by
  intro entry before hbefore
  exact hevery entry before (hbefore.trans hsuffix)

theorem everyEntry_nil : EveryEntry P [] := by
  intro entry older hsuffix
  simp at hsuffix

theorem everyEntry_cons :
    EveryEntry P (entry :: log) ↔ P entry log ∧ EveryEntry P log := by
  constructor
  · intro hevery
    exact ⟨hevery entry log List.suffix_rfl,
      hevery.suffix (List.suffix_cons entry log)⟩
  · rintro ⟨hentry, hlog⟩ other older hsuffix
    rcases List.suffix_cons_iff.mp hsuffix with heq | hsuffix
    · obtain ⟨rfl, rfl⟩ := List.cons.inj heq
      exact hentry
    · exact hlog other older hsuffix

end Evidence
