import Mathlib

/-!
# Binary heaps

A heap laid out in an array, with the children of position `idx` at
`2 * idx + 1` and `2 * idx + 2`.  The order of the heap is a statement about the
keys read through the array, with a top element past its end, so that no proof
about the order speaks of bounds.
-/

namespace BinaryHeap

/-- The position above `idx`. -/
def parent (idx : ℕ) : ℕ := (idx - 1) / 2

theorem parent_lt {idx : ℕ} (hidx : 0 < idx) : parent idx < idx := by
  simp only [parent]
  omega

theorem parent_eq_iff {child idx : ℕ} (hchild : 0 < child) :
    parent child = idx ↔ child = 2 * idx + 1 ∨ child = 2 * idx + 2 := by
  simp only [parent]
  omega

/-! ## The order of the keys -/

section Keys

variable {κ : Type*} [LinearOrder κ] {keys : ℕ → κ} {idx : ℕ}

/-- No key is below the key of its parent. -/
def Ordered (keys : ℕ → κ) : Prop :=
  ∀ child, 0 < child → keys (parent child) ≤ keys child

/-- Ordered but for `idx`, which may be below its parent. -/
structure UpReady (keys : ℕ → κ) (idx : ℕ) : Prop where
  others : ∀ child, 0 < child → child ≠ idx →
    keys (parent child) ≤ keys child
  skip : 0 < idx → ∀ child, 0 < child → parent child = idx →
    keys (parent idx) ≤ keys child

/-- Ordered but for `idx`, which may be above its children. -/
structure DownReady (keys : ℕ → κ) (idx : ℕ) : Prop where
  others : ∀ child, 0 < child → parent child ≠ idx →
    keys (parent child) ≤ keys child
  skip : 0 < idx → ∀ child, 0 < child → parent child = idx →
    keys (parent idx) ≤ keys child

/-- The first position holds a least key. -/
theorem Ordered.root_le (hordered : Ordered keys) :
    ∀ place, keys 0 ≤ keys place := by
  intro place
  induction place using Nat.strong_induction_on with
  | _ place ih =>
      rcases Nat.eq_zero_or_pos place with rfl | hpos
      · exact le_refl _
      · exact (ih _ (parent_lt hpos)).trans (hordered place hpos)

theorem UpReady.ordered (hready : UpReady keys idx)
    (hidx : 0 < idx → keys (parent idx) ≤ keys idx) : Ordered keys := by
  intro child hchild
  by_cases hself : child = idx
  · subst hself
    exact hidx hchild
  · exact hready.others child hchild hself

theorem DownReady.ordered (hready : DownReady keys idx)
    (hleft : keys idx ≤ keys (2 * idx + 1))
    (hright : keys idx ≤ keys (2 * idx + 2)) : Ordered keys := by
  intro child hchild
  by_cases hself : parent child = idx
  · rcases (parent_eq_iff hchild).mp hself with rfl | rfl
    · rwa [hself]
    · rwa [hself]
  · exact hready.others child hchild hself

/-- Swapping a small key with its parent moves the fault one level up. -/
theorem UpReady.step (hready : UpReady keys idx) (hidx : 0 < idx)
    (hbelow : keys idx < keys (parent idx)) :
    UpReady (keys ∘ Equiv.swap idx (parent idx)) (parent idx) := by
  have hlt : parent idx < idx := parent_lt hidx
  have hother : ∀ place, place ≠ idx → place ≠ parent idx →
      (keys ∘ Equiv.swap idx (parent idx)) place = keys place := by
    intro place hself habove
    simp [Equiv.swap_apply_of_ne_of_ne hself habove]
  have hnewSelf : (keys ∘ Equiv.swap idx (parent idx)) idx =
      keys (parent idx) := by simp
  have hnewParent : (keys ∘ Equiv.swap idx (parent idx)) (parent idx) =
      keys idx := by simp
  refine ⟨?_, ?_⟩
  · intro child hchild hne
    have hchildLt : parent child < child := parent_lt hchild
    by_cases hself : child = idx
    · rw [hself, hnewParent, hnewSelf]
      exact hbelow.le
    rw [hother child hself hne]
    by_cases hunder : parent child = idx
    · rw [hunder, hnewSelf]
      exact hready.skip hidx child hchild hunder
    by_cases hsibling : parent child = parent idx
    · rw [hsibling, hnewParent]
      have hold := hready.others child hchild hself
      rw [hsibling] at hold
      exact hbelow.le.trans hold
    · rw [hother _ hunder hsibling]
      exact hready.others child hchild hself
  · intro habove child hchild hunder
    have hparentOld := hready.others (parent idx) habove hlt.ne
    have hgrand : parent (parent idx) < parent idx := parent_lt habove
    rw [hother _ (hgrand.trans hlt).ne hgrand.ne]
    by_cases hself : child = idx
    · rw [hself, hnewSelf]
      exact hparentOld
    · have hchildNe : child ≠ parent idx := by
        intro heq
        rw [heq] at hunder
        exact hgrand.ne hunder
      rw [hother child hself hchildNe]
      have hold := hready.others child hchild hself
      rw [hunder] at hold
      exact hparentOld.trans hold

/-- Swapping a large key with its least child moves the fault one level down. -/
theorem DownReady.step (hready : DownReady keys idx) {least : ℕ}
    (hpos : 0 < least) (hleast : parent least = idx)
    (hbelow : keys least < keys idx)
    (hbest : ∀ child, 0 < child → parent child = idx →
      keys least ≤ keys child) :
    DownReady (keys ∘ Equiv.swap idx least) least := by
  have hlt : idx < least := hleast ▸ parent_lt hpos
  have hother : ∀ place, place ≠ idx → place ≠ least →
      (keys ∘ Equiv.swap idx least) place = keys place := by
    intro place hself hne
    simp [Equiv.swap_apply_of_ne_of_ne hself hne]
  have hnewSelf : (keys ∘ Equiv.swap idx least) idx = keys least := by simp
  have hnewLeast : (keys ∘ Equiv.swap idx least) least = keys idx := by simp
  refine ⟨?_, ?_⟩
  · intro child hchild hne
    by_cases hunder : parent child = idx
    · rw [hunder, hnewSelf]
      by_cases hsame : child = least
      · rw [hsame, hnewLeast]
        exact hbelow.le
      · have hchildNe : child ≠ idx := by
          intro heq
          rw [heq] at hunder
          exact (parent_lt (heq ▸ hchild)).ne hunder
        rw [hother child hchildNe hsame]
        exact hbest child hchild hunder
    rw [hother _ hunder hne]
    by_cases hself : child = idx
    · rw [hself, hnewSelf]
      rw [hself] at hchild
      exact hready.skip hchild least hpos hleast
    · have hchildNe : child ≠ least := by
        intro heq
        rw [heq] at hunder
        exact hunder hleast
      rw [hother child hself hchildNe]
      exact hready.others child hchild hunder
  · intro _ child hchild hunder
    have hold := hready.others child hchild (hunder ▸ hlt.ne')
    have hchildLt : least < child := hunder ▸ parent_lt hchild
    rw [hleast, hnewSelf, hother child (hlt.trans hchildLt).ne' hchildLt.ne']
    rwa [hunder] at hold

end Keys

/-! ## The heap in its array -/

section Sift

variable {α : Type*} (lt : α → α → Bool)

/-- Entry `place` comes before entry `other`. -/
def precedes (heap : Array α) (place other : ℕ) : Bool :=
  match heap[place]?, heap[other]? with
  | some entry, some held => lt entry held
  | _, _ => false

/-- Moves entry `idx` up while it comes before its parent. -/
def siftUp (heap : Array α) (idx : ℕ) : Array α :=
  if 0 < idx then
    if precedes lt heap idx (parent idx) then
      siftUp (heap.swapIfInBounds idx (parent idx)) (parent idx)
    else heap
  else heap
termination_by idx
decreasing_by exact parent_lt ‹_›

/-- The first least of entry `idx` and its two children. -/
def smallest (heap : Array α) (idx : ℕ) : ℕ :=
  let best := if precedes lt heap (2 * idx + 1) idx then 2 * idx + 1 else idx
  if precedes lt heap (2 * idx + 2) best then 2 * idx + 2 else best

variable {lt}

theorem lt_size_of_precedes {heap : Array α} {place other : ℕ}
    (hprecedes : precedes lt heap place other = true) : place < heap.size := by
  by_contra hge
  have hnone : heap[place]? = none := by simp [Nat.le_of_not_lt hge]
  simp [precedes, hnone] at hprecedes

theorem smallest_cases (lt : α → α → Bool) (heap : Array α) (idx : ℕ) :
    smallest lt heap idx = idx ∨
      (smallest lt heap idx = 2 * idx + 1 ∨
        smallest lt heap idx = 2 * idx + 2) ∧
      smallest lt heap idx < heap.size := by
  simp only [smallest]
  split_ifs with hright hleft
  · exact Or.inr ⟨Or.inr rfl, lt_size_of_precedes hleft⟩
  · exact Or.inr ⟨Or.inl rfl, lt_size_of_precedes hright⟩
  · exact Or.inr ⟨Or.inr rfl, lt_size_of_precedes ‹_›⟩
  · exact Or.inl rfl

variable (lt)

/-- Moves entry `idx` down while a child comes before it. -/
def siftDown (heap : Array α) (idx : ℕ) : Array α :=
  if smallest lt heap idx = idx then heap
  else
    siftDown (heap.swapIfInBounds idx (smallest lt heap idx))
      (smallest lt heap idx)
termination_by heap.size - idx
decreasing_by
  rcases smallest_cases lt heap idx with hsame | ⟨hchild, hsize⟩
  · exact absurd hsame ‹_›
  · rw [Array.size_swapIfInBounds]
    rcases hchild with hchild | hchild <;> omega

/-- Takes entry `idx` out: the last entry takes its place and moves down. -/
def removeAt (heap : Array α) (idx : ℕ) : Array α :=
  let moved := match heap.back? with
    | some last => (heap.setIfInBounds idx last).pop
    | none => heap
  if idx < moved.size then siftDown lt moved idx else moved

end Sift

/-! ## The keys of an array -/

section KeysOf

variable {α κ : Type*} {lt : α → α → Bool} {key : α → κ}

/-- The keys read through the array, with a top key past its end. -/
def keysOf (key : α → κ) (heap : Array α) (place : ℕ) : WithTop κ :=
  match heap[place]? with
  | some entry => (key entry : WithTop κ)
  | none => ⊤

theorem keysOf_of_getElem? {heap : Array α} {place : ℕ} {entry : α}
    (hentry : heap[place]? = some entry) :
    keysOf key heap place = (key entry : WithTop κ) := by
  simp [keysOf, hentry]

theorem keysOf_of_size_le (heap : Array α) (place : ℕ)
    (hsize : heap.size ≤ place) : keysOf key heap place = ⊤ := by
  simp [keysOf, hsize]

theorem keysOf_congr {heap : Array α} (other : Array α) (place : ℕ)
    (hsame : heap[place]? = other[place]?) :
    keysOf key heap place = keysOf key other place := by
  simp only [keysOf, hsame]

theorem getElem?_swapIfInBounds {heap : Array α} {place other : ℕ}
    (hplace : place < heap.size) (hother : other < heap.size) (read : ℕ) :
    (heap.swapIfInBounds place other)[read]? =
      heap[Equiv.swap place other read]? := by
  rw [Array.swapIfInBounds_def, dif_pos hplace, dif_pos hother,
    Array.getElem?_swap, Equiv.swap_apply_def]
  by_cases hsecond : other = read
  · subst hsecond
    by_cases hfirst : other = place
    · subst hfirst
      simp [hother]
    · simp [hfirst, hplace]
  · by_cases hfirst : place = read
    · subst hfirst
      simp [hsecond, hother]
    · simp [hfirst, hsecond, Ne.symm hfirst, Ne.symm hsecond]

theorem keysOf_swapIfInBounds {heap : Array α} {place other : ℕ}
    (hplace : place < heap.size) (hother : other < heap.size) :
    keysOf key (heap.swapIfInBounds place other) =
      keysOf key heap ∘ Equiv.swap place other := by
  funext read
  simp only [keysOf, Function.comp_apply,
    getElem?_swapIfInBounds hplace hother]

theorem swapIfInBounds_perm (heap : Array α) (place other : ℕ) :
    (heap.swapIfInBounds place other).toList.Perm heap.toList := by
  rw [Array.swapIfInBounds_def]
  split_ifs with hplace hother
  · exact (Array.swap_perm hplace hother).toList
  · exact List.Perm.refl _
  · exact List.Perm.refl _

/-- The array that `removeAt` sifts: the last entry stands at `idx`. -/
def moveLast (heap : Array α) (idx : ℕ) (last : α) : Array α :=
  (heap.setIfInBounds idx last).pop

theorem size_moveLast (heap : Array α) (idx : ℕ) (last : α) :
    (moveLast heap idx last).size = heap.size - 1 := by
  simp [moveLast]

theorem removeAt_of_back? {heap : Array α} {idx : ℕ} {last : α}
    (hlast : heap.back? = some last) :
    removeAt lt heap idx =
      if idx < heap.size - 1 then siftDown lt (moveLast heap idx last) idx
      else moveLast heap idx last := by
  simp [removeAt, hlast, moveLast]

theorem getElem?_moveLast {heap : Array α} {idx : ℕ} {last : α}
    (hidx : idx < heap.size - 1) (place : ℕ) :
    (moveLast heap idx last)[place]? =
      if place = idx then some last
      else if place < heap.size - 1 then heap[place]? else none := by
  simp only [moveLast, Array.getElem?_pop, Array.size_setIfInBounds,
    Array.getElem?_setIfInBounds]
  by_cases hself : place = idx
  · subst hself
    have hsize : place < heap.size := by omega
    simp [hidx, hsize]
  · simp [hself, Ne.symm hself]

theorem keysOf_moveLast_self {heap : Array α} {idx : ℕ} {last : α}
    (hidx : idx < heap.size - 1) :
    keysOf key (moveLast heap idx last) idx = (key last : WithTop κ) := by
  apply keysOf_of_getElem?
  rw [getElem?_moveLast hidx, if_pos rfl]

theorem keysOf_moveLast_of_lt {heap : Array α} {idx : ℕ} {last : α}
    (hidx : idx < heap.size - 1) {place : ℕ} (hplace : place ≠ idx)
    (hsize : place < heap.size - 1) :
    keysOf key (moveLast heap idx last) place = keysOf key heap place := by
  simp only [keysOf, getElem?_moveLast hidx, if_neg hplace, if_pos hsize]

variable [LinearOrder κ]

/-- The array is a heap. -/
def Heap (key : α → κ) (heap : Array α) : Prop :=
  Ordered (keysOf key heap)

theorem precedes_iff (hlt : ∀ entry held, lt entry held = true ↔
      key entry < key held)
    {heap : Array α} (place : ℕ) {other : ℕ} (hother : other < heap.size) :
    precedes lt heap place other = true ↔
      keysOf key heap place < keysOf key heap other := by
  have hheld : heap[other]? = some heap[other] := by simp [hother]
  by_cases hplace : place < heap.size
  · have hentry : heap[place]? = some heap[place] := by simp [hplace]
    rw [keysOf_of_getElem? hentry, keysOf_of_getElem? hheld]
    simp [precedes, hentry, hheld, hlt]
  · have hnone : heap[place]? = none := by simp [Nat.le_of_not_lt hplace]
    rw [keysOf_of_size_le _ _ (Nat.le_of_not_lt hplace)]
    simp [precedes, hnone]

/-! ### Moving up -/

theorem siftUp_perm (lt : α → α → Bool) (heap : Array α) (idx : ℕ) :
    (siftUp lt heap idx).toList.Perm heap.toList := by
  induction heap, idx using siftUp.induct lt with
  | case1 heap idx hidx hprecedes ih =>
      rw [siftUp, if_pos hidx, if_pos hprecedes]
      exact ih.trans (swapIfInBounds_perm heap idx (parent idx))
  | case2 heap idx hidx hprecedes =>
      rw [siftUp, if_pos hidx, if_neg hprecedes]
  | case3 heap idx hidx =>
      rw [siftUp, if_neg hidx]

theorem siftUp_heap (hlt : ∀ entry held, lt entry held = true ↔
      key entry < key held)
    (heap : Array α) (idx : ℕ) (hsize : idx < heap.size)
    (hready : UpReady (keysOf key heap) idx) :
    Heap key (siftUp lt heap idx) := by
  induction heap, idx using siftUp.induct lt with
  | case1 heap idx hidx hprecedes ih =>
      have hparent : parent idx < heap.size := (parent_lt hidx).trans hsize
      have hbelow := (precedes_iff hlt idx hparent).mp hprecedes
      rw [siftUp, if_pos hidx, if_pos hprecedes]
      refine ih (by rwa [Array.size_swapIfInBounds]) ?_
      rw [keysOf_swapIfInBounds hsize hparent]
      exact hready.step hidx hbelow
  | case2 heap idx hidx hprecedes =>
      have hparent : parent idx < heap.size := (parent_lt hidx).trans hsize
      rw [siftUp, if_pos hidx, if_neg hprecedes]
      refine hready.ordered fun _ => ?_
      rw [precedes_iff hlt idx hparent] at hprecedes
      exact le_of_not_gt hprecedes
  | case3 heap idx hidx =>
      rw [siftUp, if_neg hidx]
      exact hready.ordered fun hpos => absurd hpos hidx

/-! ### Moving down -/

/-- `smallest` is a least of the entry and its children. -/
theorem keysOf_smallest (hlt : ∀ entry held, lt entry held = true ↔
      key entry < key held)
    {heap : Array α} {idx : ℕ} (hsize : idx < heap.size) :
    keysOf key heap (smallest lt heap idx) ≤ keysOf key heap idx ∧
      keysOf key heap (smallest lt heap idx) ≤
        keysOf key heap (2 * idx + 1) ∧
      keysOf key heap (smallest lt heap idx) ≤
        keysOf key heap (2 * idx + 2) := by
  simp only [smallest]
  by_cases hleft : precedes lt heap (2 * idx + 1) idx = true
  · have hbelow := (precedes_iff hlt _ hsize).mp hleft
    rw [if_pos hleft]
    have hiff := precedes_iff hlt (2 * idx + 2) (lt_size_of_precedes hleft)
    split_ifs with hright
    · have hrightBelow := hiff.mp hright
      exact ⟨(hrightBelow.trans hbelow).le, hrightBelow.le, le_refl _⟩
    · rw [hiff] at hright
      exact ⟨hbelow.le, le_refl _, le_of_not_gt hright⟩
  · rw [if_neg hleft]
    rw [precedes_iff hlt _ hsize] at hleft
    have hiff := precedes_iff hlt (2 * idx + 2) hsize
    split_ifs with hright
    · have hrightBelow := hiff.mp hright
      exact ⟨hrightBelow.le, hrightBelow.le.trans (le_of_not_gt hleft),
        le_refl _⟩
    · rw [hiff] at hright
      exact ⟨le_refl _, le_of_not_gt hleft, le_of_not_gt hright⟩

/-- The entry stays exactly when neither child comes before it. -/
theorem smallest_eq_self_iff (hlt : ∀ entry held, lt entry held = true ↔
      key entry < key held)
    {heap : Array α} {idx : ℕ} (hsize : idx < heap.size) :
    smallest lt heap idx = idx ↔
      keysOf key heap idx ≤ keysOf key heap (2 * idx + 1) ∧
        keysOf key heap idx ≤ keysOf key heap (2 * idx + 2) := by
  constructor
  · intro hself
    obtain ⟨-, hleft, hright⟩ := keysOf_smallest hlt hsize
    rw [hself] at hleft hright
    exact ⟨hleft, hright⟩
  · rintro ⟨hleft, hright⟩
    have hnotLeft : ¬precedes lt heap (2 * idx + 1) idx = true := by
      rw [precedes_iff hlt _ hsize]
      exact not_lt_of_ge hleft
    have hnotRight : ¬precedes lt heap (2 * idx + 2) idx = true := by
      rw [precedes_iff hlt _ hsize]
      exact not_lt_of_ge hright
    simp [smallest, hnotLeft, hnotRight]

/-- A child that `smallest` picks comes before the entry. -/
theorem keysOf_smallest_lt (hlt : ∀ entry held, lt entry held = true ↔
      key entry < key held)
    {heap : Array α} {idx : ℕ} (hsize : idx < heap.size)
    (hmoved : smallest lt heap idx ≠ idx) :
    keysOf key heap (smallest lt heap idx) < keysOf key heap idx := by
  obtain ⟨hself, hleft, hright⟩ := keysOf_smallest hlt hsize
  by_contra hnot
  have hle := le_of_not_gt hnot
  exact hmoved ((smallest_eq_self_iff hlt hsize).mpr
    ⟨hle.trans hleft, hle.trans hright⟩)

theorem parent_smallest {heap : Array α} {idx : ℕ}
    (hmoved : smallest lt heap idx ≠ idx) :
    0 < smallest lt heap idx ∧ parent (smallest lt heap idx) = idx ∧
      smallest lt heap idx < heap.size := by
  rcases smallest_cases lt heap idx with hself | ⟨hchild, hsize⟩
  · exact absurd hself hmoved
  · have hpos : 0 < smallest lt heap idx := by omega
    exact ⟨hpos, (parent_eq_iff hpos).mpr hchild, hsize⟩

theorem siftDown_perm (lt : α → α → Bool) (heap : Array α) (idx : ℕ) :
    (siftDown lt heap idx).toList.Perm heap.toList := by
  induction heap, idx using siftDown.induct lt with
  | case1 heap idx hself =>
      rw [siftDown, if_pos hself]
  | case2 heap idx hmoved ih =>
      rw [siftDown, if_neg hmoved]
      exact ih.trans (swapIfInBounds_perm heap idx _)

theorem siftDown_heap (hlt : ∀ entry held, lt entry held = true ↔
      key entry < key held)
    (heap : Array α) (idx : ℕ) (hsize : idx < heap.size)
    (hready : DownReady (keysOf key heap) idx) :
    Heap key (siftDown lt heap idx) := by
  induction heap, idx using siftDown.induct lt with
  | case1 heap idx hself =>
      rw [siftDown, if_pos hself]
      obtain ⟨hleft, hright⟩ := (smallest_eq_self_iff hlt hsize).mp hself
      exact hready.ordered hleft hright
  | case2 heap idx hmoved ih =>
      obtain ⟨hpos, hparent, hchild⟩ := parent_smallest hmoved
      obtain ⟨-, hleft, hright⟩ := keysOf_smallest hlt hsize
      rw [siftDown, if_neg hmoved]
      refine ih (by rwa [Array.size_swapIfInBounds]) ?_
      rw [keysOf_swapIfInBounds hsize hchild]
      refine hready.step hpos hparent (keysOf_smallest_lt hlt hsize hmoved) ?_
      intro child hchildPos hunder
      rcases (parent_eq_iff hchildPos).mp hunder with rfl | rfl
      · exact hleft
      · exact hright

/-- Moving down leaves every position before the entry alone. -/
theorem getElem?_siftDown_of_lt (heap : Array α) (idx : ℕ) {place : ℕ}
    (hplace : place < idx) (hsize : idx < heap.size) :
    (siftDown lt heap idx)[place]? = heap[place]? := by
  induction heap, idx using siftDown.induct lt with
  | case1 heap idx hself =>
      rw [siftDown, if_pos hself]
  | case2 heap idx hmoved ih =>
      obtain ⟨hpos, hparent, hchild⟩ := parent_smallest hmoved
      have hlt : idx < smallest lt heap idx := by
        have hlt := parent_lt hpos
        rwa [hparent] at hlt
      rw [siftDown, if_neg hmoved,
        ih (hplace.trans hlt) (by rwa [Array.size_swapIfInBounds]),
        getElem?_swapIfInBounds hsize hchild,
        Equiv.swap_apply_of_ne_of_ne hplace.ne (hplace.trans hlt).ne]

/-! ### Taking an entry out -/

theorem keysOf_le_moveLast {heap : Array α} {idx : ℕ} {last : α}
    (hidx : idx < heap.size - 1) {place : ℕ} (hplace : place ≠ idx) :
    keysOf key heap place ≤ keysOf key (moveLast heap idx last) place := by
  by_cases hsize : place < heap.size - 1
  · rw [keysOf_moveLast_of_lt hidx hplace hsize]
  · rw [keysOf_of_size_le (moveLast heap idx last) _
      (by rw [size_moveLast]; exact Nat.le_of_not_lt hsize)]
    exact le_top

/-- With the last entry in its new place the array is ready to move it down. -/
theorem moveLast_downReady {heap : Array α} {idx : ℕ} {last : α}
    (hheap : Heap key heap) (hidx : idx < heap.size - 1)
    (habove : 0 < idx →
      keysOf key heap (parent idx) ≤ (key last : WithTop κ)) :
    DownReady (keysOf key (moveLast heap idx last)) idx := by
  refine ⟨?_, ?_⟩
  · intro child hchild hunder
    by_cases hself : child = idx
    · subst hself
      have hparent : parent child < child := parent_lt hchild
      rw [keysOf_moveLast_self hidx,
        keysOf_moveLast_of_lt hidx hparent.ne (hparent.trans hidx)]
      exact habove hchild
    · by_cases hsize : child < heap.size - 1
      · rw [keysOf_moveLast_of_lt hidx hself hsize,
          keysOf_moveLast_of_lt hidx hunder ((parent_lt hchild).trans hsize)]
        exact hheap child hchild
      · rw [keysOf_of_size_le _ child
          (by rw [size_moveLast]; exact Nat.le_of_not_lt hsize)]
        exact le_top
  · intro hpos child hchild hunder
    have hparent : parent idx < idx := parent_lt hpos
    have hbelow : idx < child := hunder ▸ parent_lt hchild
    rw [keysOf_moveLast_of_lt hidx hparent.ne (hparent.trans hidx)]
    calc keysOf key heap (parent idx)
        ≤ keysOf key heap idx := hheap idx hpos
      _ ≤ keysOf key heap child := by
          have hold := hheap child hchild
          rwa [hunder] at hold
      _ ≤ keysOf key (moveLast heap idx last) child :=
          keysOf_le_moveLast hidx hbelow.ne'

theorem back?_eq_some {heap : Array α} (hsize : 0 < heap.size) :
    ∃ last, heap.back? = some last ∧ heap[heap.size - 1]? = some last := by
  have hlt : heap.size - 1 < heap.size := by omega
  refine ⟨heap[heap.size - 1], ?_, by simp [hlt]⟩
  rw [Array.back?_eq_getElem?]
  simp [hlt]

theorem heap_pop {heap : Array α} (hheap : Heap key heap) :
    Heap key heap.pop := by
  intro child hchild
  by_cases hsize : child < heap.size - 1
  · have hparent : parent child < heap.size - 1 :=
      (parent_lt hchild).trans hsize
    rw [keysOf_congr heap child (by simp [hsize]),
      keysOf_congr heap (parent child) (by simp [hparent])]
    exact hheap child hchild
  · rw [keysOf_of_size_le _ child (by simp; omega)]
    exact le_top

/-- Removal keeps the heap exactly when the entry that takes the free place does
not come before the parent of that place. -/
theorem removeAt_heap_iff (hlt : ∀ entry held, lt entry held = true ↔
      key entry < key held)
    {heap : Array α} {idx : ℕ} {last : α} (hheap : Heap key heap)
    (hidx : idx < heap.size) (hlast : heap.back? = some last) :
    Heap key (removeAt lt heap idx) ↔
      idx + 1 = heap.size ∨
        (0 < idx → keysOf key heap (parent idx) ≤ (key last : WithTop κ)) := by
  rw [removeAt_of_back? hlast]
  by_cases hend : idx + 1 = heap.size
  · have hnot : ¬idx < heap.size - 1 := by omega
    have hpop : moveLast heap idx last = heap.pop := by
      apply Array.ext_getElem?
      intro place
      simp only [moveLast, Array.getElem?_pop, Array.size_setIfInBounds,
        Array.getElem?_setIfInBounds]
      by_cases hplace : place < heap.size - 1
      · have hne : idx ≠ place := by omega
        simp [hplace, hne]
      · simp [hplace]
    rw [if_neg hnot, hpop]
    exact iff_of_true (heap_pop hheap) (Or.inl hend)
  · have hinside : idx < heap.size - 1 := by omega
    have hsizeMoved : idx < (moveLast heap idx last).size := by
      rwa [size_moveLast]
    rw [if_pos hinside]
    constructor
    · intro hkept
      refine Or.inr fun hpos => ?_
      by_contra hbelow
      have hbelow := lt_of_not_ge hbelow
      have hparent : parent idx < idx := parent_lt hpos
      -- a smaller last entry is below every child, so nothing moves
      have hchild : ∀ child, 0 < child → parent child = idx →
          keysOf key (moveLast heap idx last) idx ≤
            keysOf key (moveLast heap idx last) child := by
        intro child hchild hunder
        have hlater : idx < child := hunder ▸ parent_lt hchild
        have hold := hheap child hchild
        rw [hunder] at hold
        rw [keysOf_moveLast_self hinside]
        exact (hbelow.le.trans (hheap idx hpos)).trans
          (hold.trans (keysOf_le_moveLast hinside hlater.ne'))
      have hself : smallest lt (moveLast heap idx last) idx = idx := by
        rw [smallest_eq_self_iff hlt hsizeMoved]
        exact ⟨hchild _ (by omega) ((parent_eq_iff (by omega)).mpr
            (Or.inl rfl)),
          hchild _ (by omega) ((parent_eq_iff (by omega)).mpr (Or.inr rfl))⟩
      rw [siftDown, if_pos hself] at hkept
      have hat := hkept idx hpos
      rw [keysOf_moveLast_self hinside,
        keysOf_moveLast_of_lt hinside hparent.ne (hparent.trans hinside)] at hat
      exact absurd hbelow (not_lt_of_ge hat)
    · rintro (hend' | habove)
      · exact absurd hend' hend
      · exact siftDown_heap hlt _ _ hsizeMoved
          (moveLast_downReady hheap hinside habove)

theorem removeAt_root_heap (hlt : ∀ entry held, lt entry held = true ↔
      key entry < key held)
    {heap : Array α} (hheap : Heap key heap) (hsize : 0 < heap.size) :
    Heap key (removeAt lt heap 0) := by
  obtain ⟨last, hlast, -⟩ := back?_eq_some hsize
  exact (removeAt_heap_iff hlt hheap hsize hlast).mpr
    (Or.inr fun hpos => absurd hpos (lt_irrefl 0))

/-- An entry added at the end and moved up. -/
theorem push_siftUp_heap (hlt : ∀ entry held, lt entry held = true ↔
      key entry < key held)
    {heap : Array α} (hheap : Heap key heap) (entry : α) :
    Heap key (siftUp lt (heap.push entry) heap.size) := by
  apply siftUp_heap hlt _ _ (by simp)
  refine ⟨?_, ?_⟩
  · intro child hchild hne
    by_cases hsize : child < heap.size
    · have hparent : parent child < heap.size := (parent_lt hchild).trans hsize
      rw [keysOf_congr heap child
          (by simp [Array.getElem?_push, hsize.ne]),
        keysOf_congr heap (parent child)
          (by simp [Array.getElem?_push, hparent.ne])]
      exact hheap child hchild
    · rw [keysOf_of_size_le _ child
        (by rw [Array.size_push]; omega)]
      exact le_top
  · intro _ child hchild hunder
    have hlater : heap.size < child := hunder ▸ parent_lt hchild
    rw [keysOf_of_size_le _ child (by rw [Array.size_push]; omega)]
    exact le_top

theorem getElem?_moveLast_of_lt {heap : Array α} {idx : ℕ} {last : α}
    {place : ℕ} (hne : place ≠ idx) (hplace : place < heap.size - 1) :
    (moveLast heap idx last)[place]? = heap[place]? := by
  simp only [moveLast, Array.getElem?_pop, Array.size_setIfInBounds,
    Array.getElem?_setIfInBounds, if_pos hplace, if_neg (Ne.symm hne)]

/-- Swapping with the last entry and taking the end off. -/
theorem swapIfInBounds_eq_push {heap : Array α} {idx : ℕ} {entry last : α}
    (hentry : heap[idx]? = some entry) (hlast : heap.back? = some last) :
    heap.swapIfInBounds idx (heap.size - 1) =
      (moveLast heap idx last).push entry := by
  obtain ⟨hidx, hvalue⟩ := Array.getElem?_eq_some_iff.mp hentry
  have hend : heap.size - 1 < heap.size := by omega
  have hlastAt : heap[heap.size - 1]? = some last := by
    rw [← Array.back?_eq_getElem?, hlast]
  apply Array.ext_getElem?
  intro place
  rw [getElem?_swapIfInBounds hidx hend, Array.getElem?_push, size_moveLast,
    Equiv.swap_apply_def]
  by_cases hfinal : place = heap.size - 1
  · by_cases hself : place = idx
    · rw [if_pos hself, if_pos hfinal, ← hentry, ← hself, hfinal]
    · rw [if_neg hself, if_pos hfinal, if_pos hfinal, hentry]
  · by_cases hself : place = idx
    · subst hself
      rw [if_pos rfl, if_neg hfinal, hlastAt, getElem?_moveLast (by omega),
        if_pos rfl]
    · rw [if_neg hself, if_neg hfinal, if_neg hfinal]
      by_cases hplace : place < heap.size - 1
      · rw [getElem?_moveLast_of_lt hself hplace]
      · have hbeyond : heap.size ≤ place := by omega
        have hnone : heap[place]? = none := by simp [hbeyond]
        have hmoved : (moveLast heap idx last)[place]? = none := by
          rw [Array.getElem?_eq_none_iff, size_moveLast]
          omega
        rw [hnone, hmoved]

/-- Removal takes out the entry it names and no other. -/
theorem removeAt_perm (lt : α → α → Bool) {heap : Array α} {idx : ℕ} {entry : α}
    (hentry : heap[idx]? = some entry) :
    (entry :: (removeAt lt heap idx).toList).Perm heap.toList := by
  obtain ⟨hidx, -⟩ := Array.getElem?_eq_some_iff.mp hentry
  obtain ⟨last, hlast, -⟩ := back?_eq_some (Nat.zero_lt_of_lt hidx)
  have hremoved : (removeAt lt heap idx).toList.Perm
      (moveLast heap idx last).toList := by
    rw [removeAt_of_back? hlast]
    split_ifs
    · exact siftDown_perm _ _ _
    · exact List.Perm.refl _
  have hswap : (entry :: (moveLast heap idx last).toList).Perm
      (heap.swapIfInBounds idx (heap.size - 1)).toList := by
    rw [swapIfInBounds_eq_push hentry hlast, Array.toList_push]
    exact (List.perm_append_singleton _ _).symm
  exact (hremoved.cons entry).trans
    (hswap.trans (swapIfInBounds_perm heap idx _))

theorem size_siftDown (heap : Array α) (idx : ℕ) :
    (siftDown lt heap idx).size = heap.size := by
  simpa using (siftDown_perm lt heap idx).length_eq

theorem size_siftUp (heap : Array α) (idx : ℕ) :
    (siftUp lt heap idx).size = heap.size := by
  simpa using (siftUp_perm lt heap idx).length_eq

theorem size_removeAt {heap : Array α} {idx : ℕ} (hidx : idx < heap.size) :
    (removeAt lt heap idx).size = heap.size - 1 := by
  have hentry : heap[idx]? = some heap[idx] := by simp [hidx]
  have hlength := (removeAt_perm lt hentry).length_eq
  simp at hlength
  omega

theorem size_removeAt_le_size (lt : α → α → Bool) (heap : Array α) (idx : ℕ) :
    (removeAt lt heap idx).size ≤ heap.size := by
  rcases hlast : heap.back? with _ | last
  · have hsame : removeAt lt heap idx =
        if idx < heap.size then siftDown lt heap idx else heap := by
      simp [removeAt, hlast]
    rw [hsame]
    split_ifs
    · exact (size_siftDown heap idx).le
    · exact le_refl _
  · rw [removeAt_of_back? hlast]
    split_ifs
    · rw [size_siftDown, size_moveLast]
      exact Nat.sub_le _ _
    · rw [size_moveLast]
      exact Nat.sub_le _ _

/-- The first entry of a heap comes before none of the others. -/
theorem Heap.root_le {heap : Array α} {root : α}
    (hheap : Heap key heap) (hroot : heap[0]? = some root) :
    ∀ entry ∈ heap.toList, key root ≤ key entry := by
  intro entry hentry
  rw [Array.mem_toList_iff] at hentry
  obtain ⟨place, hplace⟩ := Array.getElem?_of_mem hentry
  have hle := Ordered.root_le hheap place
  rw [keysOf_of_getElem? hroot, keysOf_of_getElem? hplace] at hle
  exact WithTop.coe_le_coe.mp hle

/-! ## Draining -/

section Drain

variable (lt) (due : α → Bool)

/-- Takes the first entry out while it is due, `limit` times at most. -/
def drain : ℕ → Array α → List α × Array α
  | 0, heap => ([], heap)
  | limit + 1, heap =>
      match heap[0]? with
      | none => ([], heap)
      | some root =>
          if due root then
            let (out, rest) := drain limit (removeAt lt heap 0)
            (root :: out, rest)
          else ([], heap)

theorem size_drain_le (limit : ℕ) (heap : Array α) :
    (drain lt due limit heap).2.size ≤ heap.size := by
  induction limit generalizing heap with
  | zero => exact le_refl _
  | succ limit ih =>
      rw [drain]
      rcases heap[0]? with _ | root
      · exact le_refl _
      · by_cases hready : due root = true
        · simp only [hready, if_true]
          exact (ih _).trans (size_removeAt_le_size lt heap 0)
        · simp [hready]

theorem exists_getElem?_zero {heap : Array α} {root : α}
    (hroot : heap[0]? = some root) : 0 < heap.size := by
  obtain ⟨hsize, -⟩ := Array.getElem?_eq_some_iff.mp hroot
  exact hsize

/-- A drain loses no entry and makes none up, heap or not. -/
theorem drain_perm (limit : ℕ) (heap : Array α) :
    ((drain lt due limit heap).1 ++
      (drain lt due limit heap).2.toList).Perm heap.toList := by
  induction limit generalizing heap with
  | zero => exact List.Perm.refl _
  | succ limit ih =>
      rw [drain]
      rcases hroot : heap[0]? with _ | root
      · exact List.Perm.refl _
      · by_cases hready : due root = true
        · simp only [hready, if_true]
          exact ((ih _).cons root).trans (removeAt_perm lt hroot)
        · simp [hready]

theorem due_of_mem_drain (limit : ℕ) (heap : Array α) :
    ∀ entry ∈ (drain lt due limit heap).1, due entry = true := by
  induction limit generalizing heap with
  | zero => simp [drain]
  | succ limit ih =>
      rw [drain]
      rcases heap[0]? with _ | root
      · simp
      · by_cases hready : due root = true
        · simp only [hready, if_true]
          intro entry hentry
          rcases List.mem_cons.mp hentry with rfl | hentry
          · exact hready
          · exact ih _ entry hentry
        · simp [hready]

/-- What a drain hands out, and what it leaves. -/
structure Drained (key : α → κ) (limit : ℕ) (heap : Array α)
    (out : List α) (rest : Array α) : Prop where
  isHeap : Heap key rest
  sorted : out.Pairwise fun entry later => key entry ≤ key later
  kept : (out ++ rest.toList).Perm heap.toList
  first : ∀ entry ∈ out, ∀ later ∈ rest.toList, key entry ≤ key later
  allDue : ∀ entry ∈ out, due entry = true
  length_le : out.length ≤ limit
  complete : out.length < limit → ∀ later ∈ rest.toList, due later = false

variable {lt due}

/-- On a heap the drain hands out the due entries from the least on. -/
theorem drain_drained
    (hlt : ∀ entry held, lt entry held = true ↔ key entry < key held)
    (hdue : ∀ entry later, key entry ≤ key later → due later = true →
      due entry = true)
    (limit : ℕ) {heap : Array α} (hheap : Heap key heap) :
    Drained due key limit heap (drain lt due limit heap).1
      (drain lt due limit heap).2 := by
  induction limit generalizing heap with
  | zero =>
      refine ⟨hheap, List.Pairwise.nil, drain_perm lt due 0 heap, ?_, ?_, ?_, ?_⟩ <;>
        simp [drain]
  | succ limit ih =>
      have hkept := drain_perm lt due (limit + 1) heap
      have hallDue := due_of_mem_drain lt due (limit + 1) heap
      rw [drain] at hkept hallDue ⊢
      rcases hroot : heap[0]? with _ | root
      · have hempty : heap.toList = [] := by
          have hsize : heap.size ≤ 0 := by simpa using hroot
          simpa using hsize
        refine ⟨hheap, List.Pairwise.nil, List.Perm.refl _, ?_, ?_, ?_, ?_⟩ <;>
          simp [hempty]
      have hleast := hheap.root_le hroot
      by_cases hready : due root = true
      · have hrest := ih (removeAt_root_heap hlt hheap (exists_getElem?_zero hroot))
        have hmem : ∀ entry ∈ (drain lt due limit (removeAt lt heap 0)).1 ++
            (drain lt due limit (removeAt lt heap 0)).2.toList,
            key root ≤ key entry := by
          intro entry hentry
          exact hleast entry ((removeAt_perm lt hroot).mem_iff.mp
            (List.mem_cons_of_mem _ (hrest.kept.mem_iff.mp hentry)))
        simp only [hroot, hready, if_true] at hkept hallDue ⊢
        refine ⟨hrest.isHeap, ?_, hkept, ?_, hallDue, ?_, ?_⟩
        · rw [List.pairwise_cons]
          exact ⟨fun entry hentry => hmem entry (List.mem_append_left _ hentry),
            hrest.sorted⟩
        · intro entry hentry later hlater
          rcases List.mem_cons.mp hentry with rfl | hentry
          · exact hmem later (List.mem_append_right _ hlater)
          · exact hrest.first entry hentry later hlater
        · simpa using hrest.length_le
        · intro hless
          exact hrest.complete (by simpa using hless)
      · simp only [hready]
        refine ⟨hheap, List.Pairwise.nil, List.Perm.refl _, ?_, ?_, ?_, ?_⟩
        · simp
        · simp
        · simp
        · intro _ later hlater
          by_contra hlate
          exact hready (hdue root later (hleast later hlater)
            (by simpa using hlate))

/-- A drain hands out as many entries as are due, up to its limit. -/
theorem Drained.length_eq {limit : ℕ} {heap rest : Array α} {out : List α}
    (hdrained : Drained due key limit heap out rest) :
    out.length = min limit (heap.toList.countP due) := by
  have hcount : heap.toList.countP due =
      out.length + rest.toList.countP due := by
    have hout : out.countP due = out.length :=
      List.countP_eq_length.mpr hdrained.allDue
    rw [← hdrained.kept.countP_eq, List.countP_append, hout]
  rcases hdrained.length_le.lt_or_eq with hless | hfull
  · have hrest : rest.toList.countP due = 0 := by
      rw [List.countP_eq_zero]
      intro later hlater
      simp [hdrained.complete hless later hlater]
    omega
  · omega

/-- The entries that were handed out, then the rest in order. -/
theorem Drained.sorted_append {limit : ℕ} {heap rest : Array α} {out : List α}
    (hdrained : Drained due key limit heap out rest) :
    ∃ queued : List α,
      (out ++ queued).Pairwise (fun entry later => key entry ≤ key later) ∧
        (out ++ queued).Perm heap.toList := by
  let queued := rest.toList.insertionSort fun entry later => key entry ≤ key later
  have hperm : queued.Perm rest.toList := List.perm_insertionSort _ _
  have htotal : Std.Total fun entry later : α => key entry ≤ key later :=
    ⟨fun entry later => le_total _ _⟩
  have htrans : IsTrans α fun entry later => key entry ≤ key later :=
    ⟨fun _ _ _ => le_trans⟩
  refine ⟨queued, ?_, (hperm.append_left out).trans hdrained.kept⟩
  rw [List.pairwise_append]
  refine ⟨hdrained.sorted, List.pairwise_insertionSort _ _, ?_⟩
  intro entry hentry later hlater
  exact hdrained.first entry hentry later (hperm.mem_iff.mp hlater)

/-- Two drains of heaps with the same entries, seen through `view`, hand out the
same entries in the same order, where the order of the keys tells the entries
apart. -/
theorem Drained.map_eq {β : Type*} {view : α → β} (seen : β → Bool)
    (before : β → β → Prop) {limit : ℕ} {heap other rest kept : Array α}
    {out handed : List α}
    (hdrained : Drained due key limit heap out rest)
    (hother : Drained due key limit other handed kept)
    (hview : (heap.toList.map view).Perm (other.toList.map view))
    (hdue : ∀ entry, seen (view entry) = due entry)
    (hbefore : ∀ entry later, key entry ≤ key later →
      before (view entry) (view later))
    (hantisymm : ∀ entry ∈ heap.toList, ∀ later ∈ heap.toList,
      before (view entry) (view later) → before (view later) (view entry) →
        view entry = view later) :
    out.map view = handed.map view := by
  obtain ⟨queued, hsorted, hperm⟩ := hdrained.sorted_append
  obtain ⟨waiting, hsortedOther, hpermOther⟩ := hother.sorted_append
  have hmapped : ((out ++ queued).map view).Perm
      ((handed ++ waiting).map view) :=
    ((hperm.map view).trans hview).trans (hpermOther.map view).symm
  have hequal : (out ++ queued).map view = (handed ++ waiting).map view := by
    refine hmapped.eq_of_pairwise ?_
      (List.pairwise_map.mpr (hsorted.imp (hbefore _ _)))
      (List.pairwise_map.mpr (hsortedOther.imp (hbefore _ _)))
    intro first second hfirst hsecond
    obtain ⟨entry, hentry, rfl⟩ := List.mem_map.mp hfirst
    obtain ⟨later, hlater, rfl⟩ :=
      List.mem_map.mp (hmapped.mem_iff.mpr hsecond)
    exact hantisymm entry (hperm.mem_iff.mp hentry) later
      (hperm.mem_iff.mp hlater)
  have hcountView : ∀ entries : List α,
      entries.countP due = (entries.map view).countP seen := by
    intro entries
    rw [List.countP_map]
    exact List.countP_congr fun entry _ => by simp [hdue]
  have hcount : heap.toList.countP due = other.toList.countP due := by
    rw [hcountView, hcountView, hview.countP_eq]
  have hlength : out.length = handed.length := by
    rw [hdrained.length_eq, hother.length_eq, hcount]
  have htake := congrArg (List.take out.length) hequal
  simpa [hlength] using htake

end Drain

end KeysOf

end BinaryHeap
