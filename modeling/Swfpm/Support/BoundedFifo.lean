import Mathlib

/-!
# Bounded queues that count what they lose

A queue of at most `capacity` entries, each of them admissible.  An entry that
meets a full queue either evicts the oldest one or is refused; both count as one
loss, and clearing the queue does not.
-/

variable {α : Type*} {capacity : ℕ} {Admits : α → Prop}

structure BoundedFifo (α : Type*) (capacity : ℕ) (Admits : α → Prop) where
  items : List α
  lost : ℕ
  bounded : items.length ≤ capacity
  admitted : ∀ entry ∈ items, Admits entry

namespace BoundedFifo

def empty : BoundedFifo α capacity Admits where
  items := []
  lost := 0
  bounded := Nat.zero_le capacity
  admitted := by simp

variable (queue : BoundedFifo α capacity Admits)

def Full : Prop := queue.items.length = capacity

instance : Decidable queue.Full :=
  inferInstanceAs (Decidable (queue.items.length = capacity))

variable {queue} in
theorem length_lt_of_not_full (hroom : ¬ queue.Full) :
    queue.items.length < capacity :=
  lt_of_le_of_ne queue.bounded hroom

theorem admitted_append {entry : α} (hentry : Admits entry) {items : List α}
    (hitems : ∀ other ∈ items, Admits other) :
    ∀ other ∈ items ++ [entry], Admits other := by
  intro other hother
  rcases List.mem_append.mp hother with hother | hother
  · exact hitems other hother
  · rw [List.mem_singleton.mp hother]
    exact hentry

def append (entry : α) (hentry : Admits entry) (hroom : ¬ queue.Full) :
    BoundedFifo α capacity Admits where
  items := queue.items ++ [entry]
  lost := queue.lost
  bounded := by
    rw [List.length_append]
    exact length_lt_of_not_full hroom
  admitted := admitted_append hentry queue.admitted

/-- The oldest entry makes room. -/
def evict (entry : α) (hentry : Admits entry) (hpos : 0 < capacity) :
    BoundedFifo α capacity Admits where
  items := queue.items.tail ++ [entry]
  lost := queue.lost + 1
  bounded := by
    have hbounded := queue.bounded
    rw [List.length_append, List.length_tail, List.length_singleton]
    omega
  admitted := admitted_append hentry fun other hother =>
    queue.admitted other (List.mem_of_mem_tail hother)

/-- The new entry is lost. -/
def refuse : BoundedFifo α capacity Admits :=
  { queue with lost := queue.lost + 1 }

def tail : BoundedFifo α capacity Admits where
  items := queue.items.tail
  lost := queue.lost
  bounded := by
    have hbounded := queue.bounded
    rw [List.length_tail]
    omega
  admitted := fun other hother => queue.admitted other (List.mem_of_mem_tail hother)

def cleared : BoundedFifo α capacity Admits :=
  { empty with lost := queue.lost }

end BoundedFifo
