import Swfpm.Storage.VolumeCommit

/-!
# The volume record codec is a bijection

What the classifier calls a valid volume slot is exactly what the encoder
produces once its commit byte is set.
-/

namespace Swfpm

open ByteBuffers

namespace StorageRecord

/-! ## What the classifier checks -/

/-- The two answers under which a slot is kept as a record. -/
def Accepted (classification : SlotClassification) : Prop :=
  classification = .validCompatible ∨ classification = .validUnsupportedSchema

/-- One check of a chain of early returns. -/
theorem of_ite {α : Type} {P : α → Prop} {c : Prop} [Decidable c] {x y : α}
    (h : P (if c then x else y)) (hx : ¬ P x) : ¬ c ∧ P y := by
  by_cases hc : c
  · rw [if_pos hc] at h
    exact absurd h hx
  · rw [if_neg hc] at h
    exact ⟨hc, h⟩

/-- The checks that every valid slot passes, whatever its schema. -/
structure SoundSlot (slot : ByteBuffer) (slotSize : ℕ) (expectedType : UInt8) :
    Prop where
  commit : slot (slotSize - 1) = persistCommitValid
  magic : leRead32 slot 0 = persistMagicU32
  type : slot 4 = expectedType
  bounded : (leRead16 slot 6).toNat + persistCommonHeaderSize + 1 ≤ slotSize
  crc : leRead32 slot 0x0C = computeCrc slot slotSize
  reserved : ∀ i < slotSize - 1,
    persistCommonHeaderSize + (leRead16 slot 6).toNat ≤ i → slot i = 0

section Classify

variable {slot : ByteBuffer} {slotSize : ℕ} {expectedType expectedSchema : UInt8}
  {expectedPayloadSize : UInt16}

theorem SoundSlot.of_accepted
    (hvalid : Accepted (classifySlot slot slotSize expectedType expectedSchema
      expectedPayloadSize)) : SoundSlot slot slotSize expectedType := by
  rw [classifySlot] at hvalid
  obtain ⟨-, hvalid⟩ := of_ite hvalid (by simp [Accepted])
  obtain ⟨-, hvalid⟩ := of_ite hvalid (by simp [Accepted])
  obtain ⟨hcommit, hvalid⟩ := of_ite hvalid (by simp [Accepted])
  obtain ⟨hmagic, hvalid⟩ := of_ite hvalid (by simp [Accepted])
  obtain ⟨htype, hvalid⟩ := of_ite hvalid (by simp [Accepted])
  obtain ⟨hlength, hvalid⟩ := of_ite hvalid (by simp [Accepted])
  obtain ⟨hcrc, hvalid⟩ := of_ite hvalid (by simp [Accepted])
  obtain ⟨hreserved, -⟩ := of_ite hvalid (by simp [Accepted])
  exact ⟨not_not.mp hcommit, not_not.mp hmagic, not_not.mp htype,
    Nat.not_lt.mp hlength, not_not.mp hcrc, not_not.mp hreserved⟩

/-- What a compatible slot passes on top. -/
theorem compatible_payload
    (hvalid : classifySlot slot slotSize expectedType expectedSchema
      expectedPayloadSize = .validCompatible) :
    slot 5 = expectedSchema ∧ leRead16 slot 6 = expectedPayloadSize ∧
      ¬ (expectedType = persistRecordVolume ∧
        expectedSchema = volumePayloadV1Schema ∧
        ((leRead32 slot 0x20).toUInt64 ≥ volumeRemainderLimit ∨
          (leRead32 slot 0x24).toUInt64 ≥ volumeRemainderLimit)) := by
  rw [classifySlot] at hvalid
  iterate 8
    replace hvalid := (of_ite (P := (· = SlotClassification.validCompatible))
      hvalid (by decide)).2
  obtain ⟨hschema, hvalid⟩ :=
    of_ite (P := (· = SlotClassification.validCompatible)) hvalid (by decide)
  obtain ⟨hpayload, hvalid⟩ :=
    of_ite (P := (· = SlotClassification.validCompatible)) hvalid (by decide)
  obtain ⟨hbounds, -⟩ :=
    of_ite (P := (· = SlotClassification.validCompatible)) hvalid (by decide)
  exact ⟨not_not.mp hschema, not_not.mp hpayload, hbounds⟩

end Classify

/-! ## The record of a valid slot -/

/-- The fields that a volume slot carries. -/
def volumeFields (slot : ByteBuffer) : VolumeRecord :=
  { forwardVolumeUl := leRead64 slot 0x10
    reverseVolumeUl := leRead64 slot 0x18
    forwardRemainder := (leRead32 slot 0x20).toUInt64
    reverseRemainder := (leRead32 slot 0x24).toUInt64
    stateVersion := leRead64 slot 0x28
    lastFlowSequence := leRead64 slot 0x30
    lastSourceGeneration := leRead32 slot 0x38 }

theorem VolumeBody.of_compatible {slot : ByteBuffer}
    (hvalid : VolumeCompatible slot) :
    VolumeBody slot (leRead32 slot 8) (volumeFields slot) ∧
      slot 63 = persistCommitValid := by
  have hsound := SoundSlot.of_accepted (.inl hvalid)
  obtain ⟨hschema, hpayload, hbounds⟩ := compatible_payload hvalid
  have hremainders : (volumeFields slot).forwardRemainder <
        volumeRemainderLimit ∧
      (volumeFields slot).reverseRemainder < volumeRemainderLimit := by
    simpa only [true_and, not_or, ge_iff_le, UInt64.not_le, volumeFields]
      using hbounds
  have hlength : (leRead16 slot 6).toNat = 44 := by
    rw [hpayload]
    rfl
  refine ⟨?_, hsound.commit⟩
  constructor
  case magic => exact hsound.magic
  case type => exact hsound.type
  case schema => exact hschema
  case payloadLength => exact hpayload
  case forwardBound => exact hremainders.1
  case reverseBound => exact hremainders.2
  case crc => exact hsound.crc
  case reserved =>
    intro i hlo hhi
    refine hsound.reserved i hhi ?_
    rw [hlength]
    exact hlo
  all_goals rfl

/-- The sequence and the record determine every byte but the commit byte. -/
theorem VolumeBody.unique {a b : ByteBuffer} {sequence : UInt32}
    {r : VolumeRecord} (ha : VolumeBody a sequence r)
    (hb : VolumeBody b sequence r) : ∀ i < 63, a i = b i := by
  have hfields : ∀ i < 63, i < 0x0C ∨ 0x10 ≤ i → a i = b i := by
    intro i hi hcrc
    by_cases h04 : i < 0x04
    · exact eq_of_leRead32_eq (ha.magic.trans hb.magic.symm) i.zero_le h04
    by_cases h05 : i < 0x05
    · obtain rfl : i = 4 := by omega
      exact ha.type.trans hb.type.symm
    by_cases h06 : i < 0x06
    · obtain rfl : i = 5 := by omega
      exact ha.schema.trans hb.schema.symm
    by_cases h08 : i < 0x08
    · exact eq_of_leRead16_eq (ha.payloadLength.trans hb.payloadLength.symm)
        (by omega) h08
    by_cases h0C : i < 0x0C
    · exact eq_of_leRead32_eq (ha.sequence.trans hb.sequence.symm)
        (by omega) h0C
    by_cases h18 : i < 0x18
    · exact eq_of_leRead64_eq (ha.forwardVolume.trans hb.forwardVolume.symm)
        (by omega) h18
    by_cases h20 : i < 0x20
    · exact eq_of_leRead64_eq (ha.reverseVolume.trans hb.reverseVolume.symm)
        (by omega) h20
    by_cases h24 : i < 0x24
    · exact eq_of_leRead32_eq (UInt32.toUInt64_inj.mp
        (ha.forwardRemainder.trans hb.forwardRemainder.symm)) (by omega) h24
    by_cases h28 : i < 0x28
    · exact eq_of_leRead32_eq (UInt32.toUInt64_inj.mp
        (ha.reverseRemainder.trans hb.reverseRemainder.symm)) (by omega) h28
    by_cases h30 : i < 0x30
    · exact eq_of_leRead64_eq (ha.stateVersion.trans hb.stateVersion.symm)
        (by omega) h30
    by_cases h38 : i < 0x38
    · exact eq_of_leRead64_eq
        (ha.lastFlowSequence.trans hb.lastFlowSequence.symm) (by omega) h38
    by_cases h3C : i < 0x3C
    · exact eq_of_leRead32_eq
        (ha.lastSourceGeneration.trans hb.lastSourceGeneration.symm)
        (by omega) h3C
    · exact (ha.reserved i (by omega) hi).trans
        (hb.reserved i (by omega) hi).symm
  have hcomputed : computeCrc a slotVolumeSize = computeCrc b slotVolumeSize :=
    computeCrc_congr (fun i hi => hfields i (by omega) (.inl hi))
      (fun i hlo hhi => hfields i hhi (.inr hlo))
  have hcrc : leRead32 a 0x0C = leRead32 b 0x0C := by
    rw [ha.crc, hb.crc, hcomputed]
  intro i hi
  by_cases hin : i < 0x0C ∨ 0x10 ≤ i
  · exact hfields i hi hin
  · exact eq_of_leRead32_eq hcrc (by omega) (by omega)

/-! ## Both directions -/

/-- A record with its commit byte set. -/
theorem VolumeBody.committed_spec {slot : ByteBuffer} {sequence : UInt32}
    {r : VolumeRecord} (hbody : VolumeBody slot sequence r) :
    VolumeCompatible (committed slot) ∧
      leRead32 (committed slot) 8 = sequence ∧
      decodeVolume (committed slot) = some r :=
  ⟨hbody.setCommitted.classify (setByte_self ..),
    hbody.setCommitted.sequence, hbody.setCommitted.decode⟩

/-- Every record below the remainder limit survives encoding. -/
theorem volumeCodec_spec (sequence : UInt32) (r : VolumeRecord)
    (hforward : r.forwardRemainder < volumeRemainderLimit)
    (hreverse : r.reverseRemainder < volumeRemainderLimit) :
    ∃ slot, encodeVolume sequence r = some slot ∧
      VolumeCompatible (committed slot) ∧
      leRead32 (committed slot) 8 = sequence ∧
      decodeVolume (committed slot) = some r := by
  obtain ⟨slot, hencode⟩ := exists_encodeVolume sequence hforward hreverse
  exact ⟨slot, hencode, (encodeVolume_body hencode).1.committed_spec⟩

/-- Every record below the remainder limit survives encoding and setting the
commit byte; every valid slot decodes, and its record encodes to the very same
64 bytes. -/
theorem volumeCodec_bijective :
    (∀ sequence r, r.forwardRemainder < volumeRemainderLimit →
      r.reverseRemainder < volumeRemainderLimit →
        ∃ slot, encodeVolume sequence r = some slot ∧
          VolumeCompatible (committed slot) ∧
          leRead32 (committed slot) 8 = sequence ∧
          decodeVolume (committed slot) = some r) ∧
    ∀ slot, VolumeCompatible slot →
      ∃ r, decodeVolume slot = some r ∧
        ∃ encoded, encodeVolume (leRead32 slot 8) r = some encoded ∧
          ∀ i < slotVolumeSize, committed encoded i = slot i := by
  constructor
  · exact volumeCodec_spec
  · intro slot hvalid
    obtain ⟨hbody, hcommit⟩ := VolumeBody.of_compatible hvalid
    obtain ⟨encoded, hencode⟩ := exists_encodeVolume (leRead32 slot 8)
      hbody.forwardBound hbody.reverseBound
    have hencoded := (encodeVolume_body hencode).1
    refine ⟨_, hbody.decode, encoded, hencode, fun i hi => ?_⟩
    by_cases hlast : i = 63
    · subst hlast
      exact (setByte_self ..).trans hcommit.symm
    · exact hencoded.setCommitted.unique hbody i
        (Nat.lt_of_le_of_ne (Nat.le_of_lt_succ hi) hlast)

end StorageRecord

end Swfpm
