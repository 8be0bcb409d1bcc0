import Mathlib

/-!
# Circular storage

`contents cells index count` is the list that `count` consecutive cells of a
ring hold from `index` on.  Every walk over a ring recurses the way `contents`
does, so the lemmas below turn a walk into a statement about that list.
-/

namespace RingBuffer

variable {α : Type*} {size : ℕ}

/-- The cell after `index`. -/
def next (index : Fin size) : Fin size :=
  ⟨(index + 1) % size, Nat.mod_lt _ index.pos⟩

/-- The cell `offset` places after `index`. -/
def advance (index : Fin size) (offset : ℕ) : Fin size :=
  ⟨(index + offset) % size, Nat.mod_lt _ index.pos⟩

/-- Newly written value at one cell. -/
def write (cells : Fin size → α) (index : Fin size) (value : α) :
    Fin size → α :=
  fun other => if other = index then value else cells other

def contents (cells : Fin size → α) (index : Fin size) : ℕ → List α
  | 0 => []
  | count + 1 => cells index :: contents cells (next index) count

/-! ## Places on the ring -/

@[simp]
theorem advance_zero (index : Fin size) : advance index 0 = index := by
  apply Fin.ext
  simp [advance, Nat.mod_eq_of_lt index.isLt]

theorem advance_advance (index : Fin size) (first second : ℕ) :
    advance (advance index first) second = advance index (first + second) := by
  apply Fin.ext
  simp [advance, Nat.add_assoc]

theorem next_eq_advance (index : Fin size) : next index = advance index 1 :=
  rfl

theorem next_advance (index : Fin size) (offset : ℕ) :
    next (advance index offset) = advance index (offset + 1) := by
  rw [next_eq_advance, advance_advance]

theorem advance_next (index : Fin size) (offset : ℕ) :
    advance (next index) offset = advance index (offset + 1) := by
  rw [next_eq_advance, advance_advance, Nat.add_comm]

/-- Places less than one turn apart are different. -/
theorem advance_injective {index : Fin size} {first second : ℕ}
    (hfirst : first < size) (hsecond : second < size)
    (heq : advance index first = advance index second) : first = second := by
  have hmod : (index + first) % size = (index + second) % size :=
    Fin.ext_iff.mp heq
  have hcancel : first ≡ second [MOD size] := Nat.ModEq.add_left_cancel' _ hmod
  rwa [Nat.ModEq, Nat.mod_eq_of_lt hfirst, Nat.mod_eq_of_lt hsecond] at hcancel

theorem advance_ne_self {index : Fin size} {offset : ℕ} (hpos : 0 < offset)
    (hlt : offset < size) : advance index offset ≠ index := by
  intro heq
  have hzero : offset = 0 := by
    apply advance_injective hlt index.pos
    rw [heq, advance_zero]
  omega

/-! ## Contents -/

@[simp]
theorem length_contents (cells : Fin size → α) (index : Fin size)
    (count : ℕ) : (contents cells index count).length = count := by
  induction count generalizing index with
  | zero => rfl
  | succ count ih => simp [contents, ih]

theorem contents_congr {cells other : Fin size → α} {index : Fin size}
    {count : ℕ}
    (hsame : ∀ offset < count,
      cells (advance index offset) = other (advance index offset)) :
    contents cells index count = contents other index count := by
  induction count generalizing index with
  | zero => rfl
  | succ count ih =>
      have hhead := hsame 0 (Nat.succ_pos count)
      have htail : contents cells (next index) count =
          contents other (next index) count := by
        apply ih
        intro offset hoffset
        rw [advance_next]
        exact hsame (offset + 1) (Nat.succ_lt_succ hoffset)
      rw [advance_zero] at hhead
      rw [contents, contents, hhead, htail]

theorem contents_add (cells : Fin size → α) (index : Fin size)
    (first second : ℕ) :
    contents cells index (first + second) =
      contents cells index first ++
        contents cells (advance index first) second := by
  induction first generalizing index with
  | zero => simp [contents]
  | succ first ih =>
      rw [Nat.succ_add, contents, contents, ih, advance_next, List.cons_append]

theorem write_same (cells : Fin size → α) (index : Fin size) (value : α) :
    write cells index value index = value :=
  if_pos rfl

theorem write_other {cells : Fin size → α} {index other : Fin size} {value : α}
    (hne : other ≠ index) : write cells index value other = cells other :=
  if_neg hne

/-- A write outside the walk is not seen by it. -/
theorem contents_write_outside {cells : Fin size → α} {index target : Fin size}
    {count : ℕ} {value : α}
    (houtside : ∀ offset < count, advance index offset ≠ target) :
    contents (write cells target value) index count =
      contents cells index count := by
  apply contents_congr
  intro offset hoffset
  exact write_other (houtside offset hoffset)

/-- A write behind the last cell appends. -/
theorem contents_push (cells : Fin size → α) (index : Fin size) {count : ℕ}
    (value : α) (hroom : count < size) :
    contents (write cells (advance index count) value) index (count + 1) =
      contents cells index count ++ [value] := by
  rw [contents_add, contents_write_outside]
  · simp [contents, write_same]
  · intro offset hoffset heq
    have := advance_injective (by omega) hroom heq
    omega

/-- A write inside replaces one entry. -/
theorem contents_replace {cells : Fin size → α} {index : Fin size}
    {count offset : ℕ} (value : α) (hcount : count ≤ size)
    (hoffset : offset < count) :
    contents (write cells (advance index offset) value) index count =
      contents cells index offset ++ value ::
        contents cells (advance index (offset + 1)) (count - offset - 1) := by
  obtain ⟨rest, rfl⟩ := Nat.exists_eq_add_of_lt hoffset
  rw [Nat.add_assoc, contents_add, contents_write_outside, contents, write_same,
    next_advance, contents_write_outside]
  · congr 3
    omega
  · intro further hfurther heq
    rw [advance_advance] at heq
    have := advance_injective (by omega) (by omega) heq
    omega
  · intro earlier hearlier heq
    have := advance_injective (by omega) (by omega) heq
    omega

/-- The entry at an offset, with what lies before and after it. -/
theorem contents_split (cells : Fin size → α) (index : Fin size)
    {count offset : ℕ} (hoffset : offset < count) :
    contents cells index count =
      contents cells index offset ++ cells (advance index offset) ::
        contents cells (advance index (offset + 1)) (count - offset - 1) := by
  obtain ⟨rest, rfl⟩ := Nat.exists_eq_add_of_lt hoffset
  rw [Nat.add_assoc, contents_add, contents, next_advance]
  congr 3
  omega

theorem getElem_contents {cells : Fin size → α} {index : Fin size}
    {count offset : ℕ} (hoffset : offset < (contents cells index count).length) :
    (contents cells index count)[offset] = cells (advance index offset) := by
  have hlt : offset < count := by simpa using hoffset
  have hsplit := contents_split cells index hlt
  simp [hsplit]

theorem mem_contents {cells : Fin size → α} {index : Fin size} {count : ℕ}
    {value : α} : value ∈ contents cells index count ↔
      ∃ offset < count, cells (advance index offset) = value := by
  constructor
  · intro hmem
    obtain ⟨offset, hoffset, rfl⟩ := List.getElem_of_mem hmem
    exact ⟨offset, by simpa using hoffset, (getElem_contents hoffset).symm⟩
  · rintro ⟨offset, hoffset, rfl⟩
    rw [contents_split cells index hoffset]
    simp

/-! ## Closing a gap -/

/-- Each of `remaining` cells from `index` on takes the value of the cell after
it. -/
def shift (cells : Fin size → α) (index : Fin size) : ℕ → Fin size → α
  | 0 => cells
  | remaining + 1 =>
      shift (write cells index (cells (next index))) (next index) remaining

/-- Cells that the walk does not reach keep their value. -/
theorem shift_outside {cells : Fin size → α} {index other : Fin size}
    {remaining : ℕ}
    (houtside : ∀ offset < remaining, advance index offset ≠ other) :
    shift cells index remaining other = cells other := by
  induction remaining generalizing cells index with
  | zero => rfl
  | succ remaining ih =>
      have hhead := houtside 0 (Nat.succ_pos remaining)
      rw [advance_zero] at hhead
      rw [shift, ih, write_other hhead.symm]
      intro offset hoffset
      rw [advance_next]
      exact houtside (offset + 1) (Nat.succ_lt_succ hoffset)

theorem contents_shift {cells : Fin size → α} {index : Fin size}
    {remaining : ℕ} (hroom : remaining < size) :
    contents (shift cells index remaining) index remaining =
      contents cells (next index) remaining := by
  induction remaining generalizing cells index with
  | zero => rfl
  | succ remaining ih =>
      have hfirst : shift cells index (remaining + 1) index =
          cells (next index) := by
        rw [shift, shift_outside, write_same]
        intro offset hoffset
        rw [advance_next]
        exact advance_ne_self (Nat.succ_pos offset) (by omega)
      have hrest : contents (shift cells index (remaining + 1)) (next index)
          remaining = contents cells (next (next index)) remaining := by
        rw [shift, ih (by omega), contents_write_outside]
        intro offset hoffset
        rw [advance_next, advance_next]
        exact advance_ne_self (by omega) (by omega)
      rw [contents, contents, hfirst, hrest]

/-- Shifting down from an offset removes the entry there. -/
theorem contents_remove (cells : Fin size → α) (index : Fin size)
    {count offset : ℕ} (hcount : count ≤ size) (hoffset : offset < count) :
    contents (shift cells (advance index offset) (count - offset - 1)) index
        (count - 1) =
      contents cells index offset ++
        contents cells (advance index (offset + 1)) (count - offset - 1) := by
  have hsplit : count - 1 = offset + (count - offset - 1) := by omega
  rw [hsplit, contents_add, contents_shift (by omega), next_advance]
  congr 1
  apply contents_congr
  intro earlier hearlier
  apply shift_outside
  intro further hfurther heq
  rw [advance_advance] at heq
  have := advance_injective (by omega) (by omega) heq
  omega

end RingBuffer
