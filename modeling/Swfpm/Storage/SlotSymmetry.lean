import Swfpm.Storage.AbSlot
import Swfpm.Storage.Codec

/-!
# The slots of a pair have equal rights

What the selection decides depends on the validity of the two slots, on the
order of their sequences and on whether the records are the same bytes.
Exchanging the slots exchanges the first two and keeps the third, so it
exchanges the answer, except where two identical records leave only the slot
number to decide.
-/

namespace Swfpm

open ByteBuffers StorageRecord

/-! ## The verdict -/

def SequenceOrder.exchanged : SequenceOrder → SequenceOrder
  | .equal => .equal
  | .aNewer => .bNewer
  | .bNewer => .aNewer
  | .ambiguous => .ambiguous

theorem compareSequence_exchanged (a b : UInt32) :
    compareSequence b a = (compareSequence a b).exchanged := by
  rw [compareSequence_swap]
  cases compareSequence a b <;> rfl

/-- The other slot; `SLOT_INDEX_NONE` names no slot and stays. -/
def exchangedSlot (s : UInt8) : UInt8 :=
  if s = 0 then 1 else if s = 1 then 0 else s

/-- Status and selected slot of two valid slots. -/
def bothVerdict (order : SequenceOrder) (identical : Bool) :
    SlotSelectionStatus × UInt8 :=
  match order with
  | .equal =>
      if identical then (.selected, 0) else (.sequenceConflict, slotIndexNone)
  | .ambiguous => (.sequenceConflict, slotIndexNone)
  | .aNewer => (.selected, 0)
  | .bNewer => (.selected, 1)

/-- Status and selected slot. -/
def verdict (slotAValid slotBValid : Bool) (order : SequenceOrder)
    (identical : Bool) : SlotSelectionStatus × UInt8 :=
  match slotAValid, slotBValid with
  | true, true => bothVerdict order identical
  | true, false => (.selected, 0)
  | false, true => (.selected, 1)
  | false, false => (.none, slotIndexNone)

theorem verdict_exchanged (slotAValid slotBValid : Bool) (order : SequenceOrder)
    (identical : Bool)
    (hdecides : ¬ (slotAValid = true ∧ slotBValid = true ∧ order = .equal ∧
      identical = true)) :
    verdict slotBValid slotAValid order.exchanged identical =
      ((verdict slotAValid slotBValid order identical).1,
        exchangedSlot (verdict slotAValid slotBValid order identical).2) := by
  cases slotAValid <;> cases slotBValid <;> cases order <;> cases identical <;>
    first | rfl | exact absurd ⟨rfl, rfl, rfl, rfl⟩ hdecides

theorem verdict_selected {slotAValid slotBValid identical : Bool}
    {order : SequenceOrder} {s : UInt8}
    (hselected : verdict slotAValid slotBValid order identical =
      (.selected, s)) :
    (s = 0 ∧ slotAValid = true ∧ (slotBValid = true → order ≠ .bNewer)) ∨
      (s = 1 ∧ slotBValid = true ∧ (slotAValid = true → order ≠ .aNewer)) := by
  revert hselected
  cases slotAValid <;> cases slotBValid <;> cases order <;> cases identical <;>
    simp +contextual [verdict, bothVerdict, eq_comm]

/-! ## Two slots of one record type -/

section Pair

variable (type schema : UInt8) (payload : UInt16)

/-- `VALID_COMPATIBLE`. -/
def slotValid (slot : ByteBuffer) (size : ℕ) : Bool :=
  classifySlot slot size type schema payload = .validCompatible

/-- The sequence that the selection compares. -/
def comparedSequence (slot : ByteBuffer) (size : ℕ) : UInt32 :=
  if slotValid type schema payload slot size then leRead32 slot 8 else 0

/-- The records are as long, and all but the last byte are the same. -/
def sameRecord (a : ByteBuffer) (sizeA : ℕ) (b : ByteBuffer) (sizeB : ℕ) :
    Bool :=
  sizeA = sizeB ∧ sameBytes a b (sizeA - 1)

def pairVerdict (a : ByteBuffer) (sizeA : ℕ) (b : ByteBuffer) (sizeB : ℕ) :
    SlotSelectionStatus × UInt8 :=
  verdict (slotValid type schema payload a sizeA)
    (slotValid type schema payload b sizeB)
    (compareSequence (comparedSequence type schema payload a sizeA)
      (comparedSequence type schema payload b sizeB))
    (sameRecord a sizeA b sizeB)

variable {type schema payload}
variable (a : ByteBuffer) (sizeA : ℕ) (b : ByteBuffer) (sizeB : ℕ)

theorem abSlotSelect_eq :
    abSlotSelect a sizeA b sizeB type schema payload =
      { slotAValid := slotValid type schema payload a sizeA
        slotBValid := slotValid type schema payload b sizeB
        sequenceA := comparedSequence type schema payload a sizeA
        sequenceB := comparedSequence type schema payload b sizeB
        selectedSlot := (pairVerdict type schema payload a sizeA b sizeB).2
        status := (pairVerdict type schema payload a sizeA b sizeB).1
        reasonA := classifySlot a sizeA type schema payload
        reasonB := classifySlot b sizeB type schema payload } := by
  unfold abSlotSelect pairVerdict comparedSequence slotValid sameRecord
  by_cases ha : classifySlot a sizeA type schema payload = .validCompatible
  · by_cases hb : classifySlot b sizeB type schema payload = .validCompatible
    · simp only [ha, hb, decide_true, if_true, Bool.and_true]
      cases compareSequence (leRead32 a 8) (leRead32 b 8) with
      | equal =>
          by_cases hsame : sizeA = sizeB ∧ sameBytes a b (sizeA - 1) = true
          · obtain ⟨rfl, hbytes⟩ := hsame
            simp [hbytes, verdict, bothVerdict]
          · simp [hsame, verdict, bothVerdict]
      | aNewer => rfl
      | bNewer => rfl
      | ambiguous => rfl
    · simp [ha, hb, verdict]
  · by_cases hb : classifySlot b sizeB type schema payload = .validCompatible
    · simp [ha, hb, verdict]
    · simp [ha, hb, verdict]

theorem sameRecord_comm :
    sameRecord b sizeB a sizeA = sameRecord a sizeA b sizeB := by
  have hbytes : ∀ size, sameBytes b a size = sameBytes a b size := by
    intro size
    simp only [sameBytes, eq_comm]
  unfold sameRecord
  by_cases hsize : sizeA = sizeB
  · subst hsize
    rw [hbytes]
  · simp [hsize, Ne.symm hsize]

/-! ## Exchanging the slots -/

/-- The result with the roles of the slots exchanged. -/
def SlotSelectionResult.exchanged (r : SlotSelectionResult) :
    SlotSelectionResult :=
  { slotAValid := r.slotBValid
    slotBValid := r.slotAValid
    sequenceA := r.sequenceB
    sequenceB := r.sequenceA
    selectedSlot := exchangedSlot r.selectedSlot
    status := r.status
    reasonA := r.reasonB
    reasonB := r.reasonA }

variable (type schema payload)

/-- Two valid records of the same bytes. -/
def IdenticalRecords : Prop :=
  Compatible sizeA type schema payload a ∧
    Compatible sizeB type schema payload b ∧ sizeA = sizeB ∧
    ∀ i < sizeA, a i = b i

variable {type schema payload}

theorem slotValid_eq_true_iff {slot : ByteBuffer} {size : ℕ} :
    slotValid type schema payload slot size = true ↔
      Compatible size type schema payload slot :=
  decide_eq_true_iff

/-- The comparison leaves out the commit byte, which is the same in two valid
records. -/
theorem identicalRecords_of_sameRecord
    (ha : Compatible sizeA type schema payload a)
    (hb : Compatible sizeB type schema payload b)
    (hsame : sameRecord a sizeA b sizeB = true) :
    IdenticalRecords type schema payload a sizeA b sizeB := by
  rw [sameRecord, decide_eq_true_iff, sameBytes_eq_true_iff] at hsame
  obtain ⟨rfl, hbytes⟩ := hsame
  refine ⟨ha, hb, rfl, fun i hi ↦ ?_⟩
  by_cases hlast : i < sizeA - 1
  · exact hbytes i hlast
  · have hi' : i = sizeA - 1 := by omega
    rw [hi', (SoundSlot.of_accepted (.inl ha)).commit,
      (SoundSlot.of_accepted (.inl hb)).commit]

theorem IdenticalRecords.pairVerdict_eq
    (hidentical : IdenticalRecords type schema payload a sizeA b sizeB) :
    pairVerdict type schema payload a sizeA b sizeB = (.selected, 0) := by
  obtain ⟨ha, hb, rfl, hbytes⟩ := hidentical
  have hsize := (SoundSlot.of_accepted (.inl ha)).bounded
  simp only [persistCommonHeaderSize] at hsize
  have hsequence : leRead32 a 8 = leRead32 b 8 :=
    leRead32_congr fun k hk ↦ hbytes (8 + k) (by omega)
  have hsame : sameRecord a sizeA b sizeA = true := by
    rw [sameRecord, decide_eq_true_iff, sameBytes_eq_true_iff]
    exact ⟨rfl, fun i hi ↦ hbytes i (by omega)⟩
  rw [← slotValid_eq_true_iff] at ha hb
  rw [pairVerdict, comparedSequence, comparedSequence, ha, hb, if_pos rfl,
    if_pos rfl, hsequence, hsame, compareSequence_eq_equal_iff.mpr rfl]
  rfl

theorem IdenticalRecords.symm
    (hidentical : IdenticalRecords type schema payload a sizeA b sizeB) :
    IdenticalRecords type schema payload b sizeB a sizeA := by
  obtain ⟨ha, hb, rfl, hbytes⟩ := hidentical
  exact ⟨hb, ha, rfl, fun i hi ↦ (hbytes i hi).symm⟩

/-- Records that differ somewhere leave no choice to the slot numbers. -/
theorem abSlotSelect_exchanged
    (hdiffer : ¬ IdenticalRecords type schema payload a sizeA b sizeB) :
    abSlotSelect b sizeB a sizeA type schema payload =
      (abSlotSelect a sizeA b sizeB type schema payload).exchanged := by
  have hverdict : pairVerdict type schema payload b sizeB a sizeA =
      ((pairVerdict type schema payload a sizeA b sizeB).1,
        exchangedSlot (pairVerdict type schema payload a sizeA b sizeB).2) := by
    unfold pairVerdict
    rw [compareSequence_exchanged, sameRecord_comm]
    apply verdict_exchanged
    rintro ⟨ha, hb, -, hsame⟩
    rw [slotValid_eq_true_iff] at ha hb
    exact hdiffer (identicalRecords_of_sameRecord a sizeA b sizeB ha hb hsame)
  rw [abSlotSelect_eq, abSlotSelect_eq, hverdict]
  rfl

theorem IdenticalRecords.selects
    (hidentical : IdenticalRecords type schema payload a sizeA b sizeB) :
    Selects (abSlotSelect a sizeA b sizeB type schema payload) 0 := by
  rw [abSlotSelect_eq, hidentical.pairVerdict_eq]
  exact ⟨rfl, rfl⟩

/-! ## The selected slot -/

/-- The selected slot is valid, and the other one is not valid and newer. -/
theorem selected_newest {s : UInt8}
    (hselects : Selects (abSlotSelect a sizeA b sizeB type schema payload) s) :
    (s = 0 ∧ Compatible sizeA type schema payload a ∧
        (Compatible sizeB type schema payload b →
          ¬ SerialNewer (leRead32 b 8) (leRead32 a 8))) ∨
      (s = 1 ∧ Compatible sizeB type schema payload b ∧
        (Compatible sizeA type schema payload a →
          ¬ SerialNewer (leRead32 a 8) (leRead32 b 8))) := by
  rw [abSlotSelect_eq] at hselects
  have hverdict : pairVerdict type schema payload a sizeA b sizeB =
      (.selected, s) := Prod.ext hselects.1 hselects.2
  rw [pairVerdict] at hverdict
  obtain ⟨rfl, ha, hnewest⟩ | ⟨rfl, hb, hnewest⟩ := verdict_selected hverdict
  · refine .inl ⟨rfl, slotValid_eq_true_iff.mp ha, fun hb hnewer ↦ ?_⟩
    rw [← slotValid_eq_true_iff] at hb
    apply hnewest hb
    rw [comparedSequence, comparedSequence, if_pos ha, if_pos hb,
      compareSequence_exchanged, compareSequence_eq_aNewer_iff.mpr hnewer]
    rfl
  · refine .inr ⟨rfl, slotValid_eq_true_iff.mp hb, fun ha hnewer ↦ ?_⟩
    rw [← slotValid_eq_true_iff] at ha
    apply hnewest ha
    rw [comparedSequence, comparedSequence, if_pos ha, if_pos hb,
      compareSequence_eq_aNewer_iff.mpr hnewer]

/-! ## The target -/

/-- A record that must not be overwritten. -/
def Protected (reason : SlotClassification) : Prop :=
  reason = .validUnsupportedSchema ∨ reason = .validIncompatible

/-- Two valid records whose sequences do not say which one is newer. -/
def Conflict (type schema : UInt8) (payload : UInt16) (a : ByteBuffer)
    (sizeA : ℕ) (b : ByteBuffer) (sizeB : ℕ) : Prop :=
  Compatible sizeA type schema payload a ∧
    Compatible sizeB type schema payload b ∧
    ¬ SerialNewer (leRead32 a 8) (leRead32 b 8) ∧
    ¬ SerialNewer (leRead32 b 8) (leRead32 a 8) ∧
    ¬ IdenticalRecords type schema payload a sizeA b sizeB

theorem Conflict.status
    (hconflict : Conflict type schema payload a sizeA b sizeB) :
    (abSlotSelect a sizeA b sizeB type schema payload).status =
      .sequenceConflict := by
  obtain ⟨ha, hb, hnewerA, hnewerB, hdiffer⟩ := hconflict
  have hsame : sameRecord a sizeA b sizeB = false := by
    rw [← Bool.not_eq_true]
    intro hsame
    exact hdiffer (identicalRecords_of_sameRecord a sizeA b sizeB ha hb hsame)
  rw [← slotValid_eq_true_iff] at ha hb
  rw [← compareSequence_eq_aNewer_iff] at hnewerA hnewerB
  rw [compareSequence_exchanged] at hnewerB
  rw [abSlotSelect_eq]
  dsimp only [pairVerdict, comparedSequence]
  rw [ha, hb, if_pos rfl, if_pos rfl, hsame]
  generalize compareSequence (leRead32 a 8) (leRead32 b 8) = order at *
  cases order with
  | equal => rfl
  | aNewer => exact absurd rfl hnewerA
  | bNewer => exact absurd rfl hnewerB
  | ambiguous => rfl

theorem target_none {selection : SlotSelectionResult}
    (hkeep : Protected selection.reasonA ∨ Protected selection.reasonB ∨
      selection.status = .sequenceConflict) :
    abSlotChooseTarget selection = slotIndexNone := by
  apply if_pos
  simp only [slotReasonIsProtected, Bool.or_eq_true, decide_eq_true_iff]
  unfold Protected at hkeep
  tauto

theorem target_ne_selected {selection : SlotSelectionResult} {s : UInt8}
    (hselects : Selects selection s) (hslot : IsSlot s) :
    abSlotChooseTarget selection ≠ s := by
  intro heq
  have hnone : abSlotChooseTarget selection ≠ slotIndexNone := by
    rw [heq]
    obtain rfl | rfl := hslot
    · decide
    · decide
  have htarget := (abSlotChooseTarget_spec hnone).2.2.2.2 s hselects
  exact otherSlot_ne (htarget.symm.trans heq)

end Pair

/-- What the selection of a pair and the choice of a target promise. -/
structure FairChoice (type schema : UInt8) (payload : UInt16) (a : ByteBuffer)
    (sizeA : ℕ) (b : ByteBuffer) (sizeB : ℕ) : Prop where
  exchanged : ¬ IdenticalRecords type schema payload a sizeA b sizeB →
    abSlotSelect b sizeB a sizeA type schema payload =
      (abSlotSelect a sizeA b sizeB type schema payload).exchanged
  identical : IdenticalRecords type schema payload a sizeA b sizeB →
    Selects (abSlotSelect a sizeA b sizeB type schema payload) 0 ∧
      Selects (abSlotSelect b sizeB a sizeA type schema payload) 0
  newest : ∀ s,
    Selects (abSlotSelect a sizeA b sizeB type schema payload) s →
      (s = 0 ∧ Compatible sizeA type schema payload a ∧
          (Compatible sizeB type schema payload b →
            ¬ SerialNewer (leRead32 b 8) (leRead32 a 8))) ∨
        (s = 1 ∧ Compatible sizeB type schema payload b ∧
          (Compatible sizeA type schema payload a →
            ¬ SerialNewer (leRead32 a 8) (leRead32 b 8)))
  target : ∀ s,
    Selects (abSlotSelect a sizeA b sizeB type schema payload) s →
      abSlotChooseTarget
        (abSlotSelect a sizeA b sizeB type schema payload) ≠ s
  kept : Protected (classifySlot a sizeA type schema payload) ∨
      Protected (classifySlot b sizeB type schema payload) ∨
      Conflict type schema payload a sizeA b sizeB →
    abSlotChooseTarget (abSlotSelect a sizeA b sizeB type schema payload) =
      slotIndexNone

theorem choice_is_fair (type schema : UInt8) (payload : UInt16) (a : ByteBuffer)
    (sizeA : ℕ) (b : ByteBuffer) (sizeB : ℕ) :
    FairChoice type schema payload a sizeA b sizeB where
  exchanged := abSlotSelect_exchanged a sizeA b sizeB
  identical hidentical :=
    ⟨hidentical.selects, hidentical.symm.selects⟩
  newest s := selected_newest a sizeA b sizeB
  target s hselects := by
    apply target_ne_selected hselects
    obtain ⟨rfl, -⟩ | ⟨rfl, -⟩ := selected_newest a sizeA b sizeB hselects
    · exact .inl rfl
    · exact .inr rfl
  kept hkeep := by
    apply target_none
    rw [abSlotSelect_reasonA, abSlotSelect_reasonB]
    obtain ha | hb | hconflict := hkeep
    · exact .inl ha
    · exact .inr (.inl hb)
    · exact .inr (.inr hconflict.status)

end Swfpm
