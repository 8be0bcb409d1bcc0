import Swfpm.Storage.Record

/-!
# The A/B slot pair

Embedding of `protocols/storage/ab_slot.c`: serial-number comparison of two
record sequences, selection of the newest valid slot and choice of the slot
the next commit may overwrite.
-/

namespace Swfpm

open ByteBuffers StorageRecord

inductive SequenceOrder where
  | equal
  | aNewer
  | bNewer
  | ambiguous
  deriving DecidableEq, Repr

def compareSequence (a b : UInt32) : SequenceOrder :=
  let difference := a - b
  if difference = 0 then .equal
  else if difference = 0x80000000 then .ambiguous
  else if difference < 0x80000000 then .aNewer
  else .bNewer

inductive SlotSelectionStatus where
  | none
  | selected
  | sequenceConflict
  deriving DecidableEq, Repr

/-- `SLOT_INDEX_NONE`; slot A is 0 and slot B is 1. -/
def slotIndexNone : UInt8 := 0xFF

structure SlotSelectionResult where
  slotAValid : Bool
  slotBValid : Bool
  sequenceA : UInt32
  sequenceB : UInt32
  selectedSlot : UInt8
  status : SlotSelectionStatus
  reasonA : SlotClassification
  reasonB : SlotClassification
  deriving DecidableEq, Repr

def slotReasonIsProtected (reason : SlotClassification) : Bool :=
  reason = .validUnsupportedSchema || reason = .validIncompatible

def abSlotSelect (bufA : ByteBuffer) (sizeA : ℕ) (bufB : ByteBuffer)
    (sizeB : ℕ) (expectedType expectedSchema : UInt8)
    (expectedPayloadSize : UInt16) : SlotSelectionResult :=
  let reasonA :=
    classifySlot bufA sizeA expectedType expectedSchema expectedPayloadSize
  let reasonB :=
    classifySlot bufB sizeB expectedType expectedSchema expectedPayloadSize
  let slotAValid : Bool := reasonA = .validCompatible
  let slotBValid : Bool := reasonB = .validCompatible
  let sequenceA := if slotAValid then leRead32 bufA 8 else 0
  let sequenceB := if slotBValid then leRead32 bufB 8 else 0
  let r : SlotSelectionResult :=
    { slotAValid, slotBValid, sequenceA, sequenceB
      selectedSlot := slotIndexNone
      status := .none
      reasonA, reasonB }
  if slotAValid && slotBValid then
    match compareSequence sequenceA sequenceB with
    | .equal =>
        if sizeA = sizeB ∧ sameBytes bufA bufB (sizeA - 1) then
          { r with selectedSlot := 0, status := .selected }
        else
          { r with status := .sequenceConflict }
    | .ambiguous => { r with status := .sequenceConflict }
    | .aNewer => { r with selectedSlot := 0, status := .selected }
    | .bNewer => { r with selectedSlot := 1, status := .selected }
  else if slotAValid && !slotBValid then
    { r with selectedSlot := 0, status := .selected }
  else if !slotAValid && slotBValid then
    { r with selectedSlot := 1, status := .selected }
  else r

def abSlotChooseTarget (selection : SlotSelectionResult) : UInt8 :=
  if selection.status = .sequenceConflict ||
      slotReasonIsProtected selection.reasonA ||
      slotReasonIsProtected selection.reasonB then slotIndexNone
  else if selection.status = .selected then
    if selection.selectedSlot = 0 then 1 else 0
  else 0

/-! ## Serial order -/

/-- `new` is serially newer than `old` in 32-bit sequence arithmetic. -/
def SerialNewer (new old : UInt32) : Prop :=
  0 < (new - old).toNat ∧ (new - old).toNat < 2 ^ 31

instance (new old : UInt32) : Decidable (SerialNewer new old) :=
  inferInstanceAs (Decidable (_ ∧ _))

theorem compareSequence_eq_of_toNat (a b : UInt32) :
    compareSequence a b =
      if (a - b).toNat = 0 then .equal
      else if (a - b).toNat = 2147483648 then .ambiguous
      else if (a - b).toNat < 2147483648 then .aNewer
      else .bNewer := by
  have hz : a - b = 0 ↔ (a - b).toNat = 0 := by
    rw [← UInt32.toNat_inj]; rfl
  have hh : a - b = 0x80000000 ↔ (a - b).toNat = 2147483648 := by
    rw [← UInt32.toNat_inj]; rfl
  have hl : a - b < 0x80000000 ↔ (a - b).toNat < 2147483648 :=
    UInt32.lt_iff_toNat_lt
  simp only [compareSequence, hz, hh, hl]

theorem toNat_sub_swap (a b : UInt32) :
    (b - a).toNat = (4294967296 - (a - b).toNat) % 4294967296 := by
  have ha := a.toNat_lt
  have hb := b.toNat_lt
  rw [UInt32.toNat_sub, UInt32.toNat_sub]
  omega

theorem compareSequence_eq_aNewer_iff {a b : UInt32} :
    compareSequence a b = .aNewer ↔ SerialNewer a b := by
  rw [compareSequence_eq_of_toNat, SerialNewer]
  split_ifs <;> simp <;> omega

theorem compareSequence_eq_equal_iff {a b : UInt32} :
    compareSequence a b = .equal ↔ a = b := by
  have ha := a.toNat_lt
  have hb := b.toNat_lt
  rw [compareSequence_eq_of_toNat, ← UInt32.toNat_inj, UInt32.toNat_sub]
  split_ifs <;> simp <;> omega

theorem compareSequence_eq_ambiguous_iff {a b : UInt32} :
    compareSequence a b = .ambiguous ↔ (a - b).toNat = 2 ^ 31 := by
  rw [compareSequence_eq_of_toNat]
  split_ifs <;> simp <;> omega

/-- Exchanging the arguments exchanges the answer. -/
theorem compareSequence_swap (a b : UInt32) :
    compareSequence b a = match compareSequence a b with
      | .equal => .equal
      | .aNewer => .bNewer
      | .bNewer => .aNewer
      | .ambiguous => .ambiguous := by
  have ha := (a - b).toNat_lt
  rw [compareSequence_eq_of_toNat b a, compareSequence_eq_of_toNat a b,
    toNat_sub_swap a b]
  split_ifs <;> first | rfl | omega

/-! ## What the selection of a pair amounts to -/

/-- The selection succeeded and took slot `s`. -/
def Selects (selection : SlotSelectionResult) (s : UInt8) : Prop :=
  selection.status = .selected ∧ selection.selectedSlot = s

/-- The other slot of a pair. -/
def otherSlot (s : UInt8) : UInt8 := if s = 0 then 1 else 0

/-- `s` names slot A or slot B. -/
def IsSlot (s : UInt8) : Prop := s = 0 ∨ s = 1

theorem otherSlot_isSlot (s : UInt8) : IsSlot (otherSlot s) := by
  unfold otherSlot IsSlot
  split <;> simp

theorem otherSlot_otherSlot {s : UInt8} (h : IsSlot s) :
    otherSlot (otherSlot s) = s := by
  rcases h with rfl | rfl <;> rfl

theorem otherSlot_ne {s : UInt8} : otherSlot s ≠ s := by
  unfold otherSlot
  split
  · rename_i h
    rw [h]
    decide
  · rename_i h
    exact fun h' => h h'.symm

section Pair

variable (size : ℕ) (type schema : UInt8) (payload : UInt16)

/-- The slot holds a record that the selection may use. -/
def Compatible (slot : ByteBuffer) : Prop :=
  classifySlot slot size type schema payload = .validCompatible

/-- The selection over the pair that has `here` in slot `s` and `there` in
the other slot. -/
def selectPair (s : UInt8) (here there : ByteBuffer) : SlotSelectionResult :=
  if s = 0 then abSlotSelect here size there size type schema payload
  else abSlotSelect there size here size type schema payload

variable {size type schema payload}

@[simp] theorem abSlotSelect_reasonA (a b : ByteBuffer) (sa sb : ℕ) :
    (abSlotSelect a sa b sb type schema payload).reasonA =
      classifySlot a sa type schema payload := by
  unfold abSlotSelect
  dsimp only
  repeat' split
  all_goals rfl

@[simp] theorem abSlotSelect_reasonB (a b : ByteBuffer) (sa sb : ℕ) :
    (abSlotSelect a sa b sb type schema payload).reasonB =
      classifySlot b sb type schema payload := by
  unfold abSlotSelect
  dsimp only
  repeat' split
  all_goals rfl

/-- Two compatible records are ordered by their sequences; equal sequences
are a conflict unless the two bodies are the same bytes. -/
theorem abSlotSelect_of_both {a b : ByteBuffer}
    (ha : Compatible size type schema payload a)
    (hb : Compatible size type schema payload b) :
    let r := abSlotSelect a size b size type schema payload
    match compareSequence (leRead32 a 8) (leRead32 b 8) with
    | .aNewer => Selects r 0
    | .bNewer => Selects r 1
    | .ambiguous => r.status = .sequenceConflict
    | .equal =>
        if sameBytes a b (size - 1) then Selects r 0
        else r.status = .sequenceConflict := by
  unfold Compatible at ha hb
  dsimp only
  unfold abSlotSelect Selects
  simp only [ha, hb, decide_true, if_true, Bool.and_true, true_and]
  cases compareSequence (leRead32 a 8) (leRead32 b 8) with
  | equal =>
      by_cases h : sameBytes a b (size - 1) = true
      · simp [h]
      · simp [h]
  | aNewer => exact ⟨rfl, rfl⟩
  | bNewer => exact ⟨rfl, rfl⟩
  | ambiguous => rfl

theorem abSlotSelect_of_onlyA {a b : ByteBuffer}
    (ha : Compatible size type schema payload a)
    (hb : ¬ Compatible size type schema payload b) :
    Selects (abSlotSelect a size b size type schema payload) 0 := by
  unfold Compatible at ha hb
  simp [abSlotSelect, Selects, ha, hb]

theorem abSlotSelect_of_onlyB {a b : ByteBuffer}
    (ha : ¬ Compatible size type schema payload a)
    (hb : Compatible size type schema payload b) :
    Selects (abSlotSelect a size b size type schema payload) 1 := by
  unfold Compatible at ha hb
  simp [abSlotSelect, Selects, ha, hb]

theorem abSlotSelect_of_neither {a b : ByteBuffer}
    (ha : ¬ Compatible size type schema payload a)
    (hb : ¬ Compatible size type schema payload b) :
    (abSlotSelect a size b size type schema payload).status = .none := by
  unfold Compatible at ha hb
  simp [abSlotSelect, ha, hb]

theorem selectPair_of_only_here {s : UInt8} {here there : ByteBuffer}
    (hs : IsSlot s) (hhere : Compatible size type schema payload here)
    (hthere : ¬ Compatible size type schema payload there) :
    Selects (selectPair size type schema payload s here there) s := by
  rcases hs with rfl | rfl
  · exact abSlotSelect_of_onlyA hhere hthere
  · exact abSlotSelect_of_onlyB hthere hhere

theorem selectPair_of_only_there {s : UInt8} {here there : ByteBuffer}
    (hs : IsSlot s) (hhere : ¬ Compatible size type schema payload here)
    (hthere : Compatible size type schema payload there) :
    Selects (selectPair size type schema payload s here there)
      (otherSlot s) := by
  rcases hs with rfl | rfl
  · exact abSlotSelect_of_onlyB hhere hthere
  · exact abSlotSelect_of_onlyA hthere hhere

theorem selectPair_of_neither {s : UInt8} {here there : ByteBuffer}
    (hhere : ¬ Compatible size type schema payload here)
    (hthere : ¬ Compatible size type schema payload there) :
    (selectPair size type schema payload s here there).status = .none := by
  unfold selectPair
  split
  · exact abSlotSelect_of_neither hhere hthere
  · exact abSlotSelect_of_neither hthere hhere

/-- Two compatible records in terms of the one in slot `s`. -/
theorem selectPair_of_both {s : UInt8} {here there : ByteBuffer}
    (hs : IsSlot s) (hhere : Compatible size type schema payload here)
    (hthere : Compatible size type schema payload there) :
    let r := selectPair size type schema payload s here there
    match compareSequence (leRead32 here 8) (leRead32 there 8) with
    | .aNewer => Selects r s
    | .bNewer => Selects r (otherSlot s)
    | .ambiguous => r.status = .sequenceConflict
    | .equal =>
        if sameBytes here there (size - 1) then Selects r 0
        else r.status = .sequenceConflict := by
  rcases hs with rfl | rfl
  · exact abSlotSelect_of_both hhere hthere
  · have h := abSlotSelect_of_both hthere hhere
    rw [compareSequence_swap (leRead32 here 8)] at h
    have hsame : sameBytes there here (size - 1) =
        sameBytes here there (size - 1) := by
      simp only [sameBytes, eq_comm]
    rw [hsame] at h
    cases hc : compareSequence (leRead32 here 8) (leRead32 there 8) <;>
      rw [hc] at h <;> exact h

/-- A selected slot is one of the two, and holds a compatible record. -/
theorem Selects.compatible {a b : ByteBuffer} {s : UInt8}
    (h : Selects (abSlotSelect a size b size type schema payload) s) :
    (s = 0 ∧ Compatible size type schema payload a) ∨
      (s = 1 ∧ Compatible size type schema payload b) := by
  by_cases ha : Compatible size type schema payload a
  · by_cases hb : Compatible size type schema payload b
    · have hboth := abSlotSelect_of_both ha hb
      dsimp only at hboth
      have hcases : s = 0 ∨ s = 1 := by
        cases hc : compareSequence (leRead32 a 8) (leRead32 b 8) <;>
          simp only [hc] at hboth
        · split at hboth
          · exact Or.inl (h.2.symm.trans hboth.2)
          · rw [h.1] at hboth
            cases hboth
        · exact Or.inl (h.2.symm.trans hboth.2)
        · exact Or.inr (h.2.symm.trans hboth.2)
        · rw [h.1] at hboth
          cases hboth
      rcases hcases with rfl | rfl
      · exact Or.inl ⟨rfl, ha⟩
      · exact Or.inr ⟨rfl, hb⟩
    · have honly := abSlotSelect_of_onlyA ha hb
      exact Or.inl ⟨h.2.symm.trans honly.2, ha⟩
  · by_cases hb : Compatible size type schema payload b
    · have honly := abSlotSelect_of_onlyB ha hb
      exact Or.inr ⟨h.2.symm.trans honly.2, hb⟩
    · have hnone := abSlotSelect_of_neither ha hb
      rw [h.1] at hnone
      cases hnone

theorem abSlotSelect_congr {a a' b b' : ByteBuffer} (hsize : 64 ≤ size)
    (ha : ∀ i < size, a i = a' i) (hb : ∀ i < size, b i = b' i) :
    abSlotSelect a size b size type schema payload =
      abSlotSelect a' size b' size type schema payload := by
  have hca : classifySlot a size type schema payload =
      classifySlot a' size type schema payload := classifySlot_congr hsize ha
  have hcb : classifySlot b size type schema payload =
      classifySlot b' size type schema payload := classifySlot_congr hsize hb
  have hra : leRead32 a 8 = leRead32 a' 8 :=
    leRead32_congr fun k hk => ha (8 + k) (by omega)
  have hrb : leRead32 b 8 = leRead32 b' 8 :=
    leRead32_congr fun k hk => hb (8 + k) (by omega)
  have hsame : sameBytes a b (size - 1) = sameBytes a' b' (size - 1) :=
    sameBytes_congr (fun i hi => ha i (by omega)) (fun i hi => hb i (by omega))
  unfold abSlotSelect
  rw [hca, hcb, hra, hrb, hsame]

theorem Compatible.congr {a a' : ByteBuffer} (hsize : 64 ≤ size)
    (ha : ∀ i < size, a i = a' i) :
    Compatible size type schema payload a ↔
      Compatible size type schema payload a' := by
  unfold Compatible
  rw [classifySlot_congr hsize ha]

theorem not_compatible_of_uncommitted {slot : ByteBuffer}
    (hlo : 17 ≤ size) (hhi : size ≤ 256)
    (h : slot (size - 1) ≠ persistCommitValid) :
    ¬ Compatible size type schema payload slot := by
  unfold Compatible
  rcases classifySlot_of_uncommitted hlo hhi h with h | h <;> rw [h] <;> simp

end Pair

/-! ## What the choice of a target amounts to -/

theorem abSlotChooseTarget_of_selects {selection : SlotSelectionResult}
    {s : UInt8} (h : Selects selection s)
    (ha : slotReasonIsProtected selection.reasonA = false)
    (hb : slotReasonIsProtected selection.reasonB = false) :
    abSlotChooseTarget selection = otherSlot s := by
  simp [abSlotChooseTarget, otherSlot, h.1, h.2, ha, hb]

/-- Whenever a target is chosen, the pair is free of conflicts and of
protected records, and the target is not the selected slot. -/
theorem abSlotChooseTarget_spec {selection : SlotSelectionResult}
    (h : abSlotChooseTarget selection ≠ slotIndexNone) :
    selection.status ≠ .sequenceConflict ∧
      slotReasonIsProtected selection.reasonA = false ∧
      slotReasonIsProtected selection.reasonB = false ∧
      IsSlot (abSlotChooseTarget selection) ∧
      ∀ s, Selects selection s →
        abSlotChooseTarget selection = otherSlot s := by
  have hguard : ¬ (selection.status = .sequenceConflict ||
      slotReasonIsProtected selection.reasonA ||
      slotReasonIsProtected selection.reasonB) = true := by
    intro hg
    exact h (by rw [abSlotChooseTarget, if_pos hg])
  simp only [Bool.or_eq_true, decide_eq_true_eq, not_or,
    Bool.not_eq_true] at hguard
  obtain ⟨⟨hstatus, ha⟩, hb⟩ := hguard
  refine ⟨hstatus, ha, hb, ?_, fun s hs =>
    abSlotChooseTarget_of_selects hs ha hb⟩
  have htarget : abSlotChooseTarget selection =
      if selection.status = .selected then
        (if selection.selectedSlot = 0 then 1 else 0) else 0 := by
    simp [abSlotChooseTarget, hstatus, ha, hb]
  rw [htarget]
  unfold IsSlot
  split_ifs <;> simp

end Swfpm
