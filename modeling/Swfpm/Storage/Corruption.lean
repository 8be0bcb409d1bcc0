import Swfpm.Support.Crc
import Swfpm.Storage.Codec

/-!
# Corruption of a committed volume record

The table-driven CRC of the source is the bit-serial register of
`Swfpm.Support.Crc`, so a burst of at most four covered bytes changes it.  The
bytes that the CRC does not cover are checked one by one.
-/

namespace Swfpm

open ByteBuffers

namespace StorageRecord

/-! ## The table-driven CRC -/

def crcPoly : BitVec 32 := crc32PolyReflected.toBitVec

/-- The branch of the source looks at the bit that falls out. -/
theorem and_one_ne_zero_iff (crc : UInt32) :
    crc &&& 1 ≠ 0 ↔ crc.toBitVec.getLsbD 0 = true := by
  have hlow : (crc &&& 1).toNat = crc.toNat % 2 := Nat.and_one_is_mod _
  have hbit : crc.toBitVec.getLsbD 0 = decide (crc.toNat % 2 = 1) :=
    Nat.testBit_zero _
  have hzero : crc &&& 1 = 0 ↔ crc.toNat % 2 = 0 := by
    rw [← UInt32.toNat_inj, hlow]
    rfl
  rw [Ne, hzero, hbit, decide_eq_true_iff]
  omega

theorem crcTableRound_toBitVec (crc : UInt32) :
    (crcTableRound crc).toBitVec = Crc.round crcPoly crc.toBitVec := by
  unfold crcTableRound Crc.round
  by_cases hbit : crc.toBitVec.getLsbD 0 = true
  · rw [if_pos ((and_one_ne_zero_iff crc).mpr hbit), if_pos hbit]
    rfl
  · rw [if_neg fun h => hbit ((and_one_ne_zero_iff crc).mp h), if_neg hbit,
      BitVec.xor_zero]
    rfl

theorem crcTable_toBitVec (i : UInt32) :
    (crcTable i).toBitVec = Crc.rounds crcPoly 8 i.toBitVec := by
  have hrounds : ∀ n : ℕ, ((List.range n).foldl
      (fun crc _ => crcTableRound crc) i).toBitVec =
        Crc.rounds crcPoly n i.toBitVec := by
    intro n
    induction n with
    | zero => rfl
    | succ n ih =>
        rw [List.range_succ, List.foldl_concat, crcTableRound_toBitVec, ih,
          Crc.rounds, Crc.rounds, Function.iterate_succ_apply']
  exact hrounds 8

theorem getLsbD_255 (i : ℕ) : (255#32).getLsbD i = decide (i < 8) := by
  have hbit : (255 : ℕ).testBit i = decide (i < 8) :=
    Nat.testBit_two_pow_sub_one 8 i
  rw [BitVec.getLsbD_ofNat, hbit]
  by_cases hi : i < 8
  · simp [hi, show i < 32 by omega]
  · simp [hi]

/-- The table looks up eight rounds of the low byte; the rest only shifts. -/
theorem crcStep_toBitVec (crc : UInt32) (byte : UInt8) :
    (crcTable ((crc ^^^ byte.toUInt32) &&& 0xFF) ^^^ (crc >>> 8)).toBitVec =
      Crc.absorb crcPoly crc.toBitVec byte.toBitVec := by
  set x := crc.toBitVec ^^^ byte.toBitVec.setWidth 32 with hx
  have hsplit : x = (x &&& 255#32) ^^^ (x &&& ~~~255#32) := by
    ext i hi
    simp only [BitVec.getElem_xor, BitVec.getElem_and, BitVec.getElem_not]
    cases x[i] <;> cases (255#32)[i] <;> rfl
  have hlow : ∀ i < 8, (x &&& ~~~255#32).getLsbD i = false := by
    intro i hi
    rw [BitVec.getLsbD_and, BitVec.getLsbD_not, getLsbD_255]
    simp [hi]
  have hhigh : (x &&& ~~~255#32) >>> 8 = crc.toBitVec >>> 8 := by
    apply BitVec.eq_of_getLsbD_eq
    intro i hi
    have hbyte : byte.toBitVec.getLsbD (8 + i) = false :=
      BitVec.getLsbD_of_ge _ _ (by omega)
    rw [BitVec.getLsbD_ushiftRight, BitVec.getLsbD_ushiftRight,
      BitVec.getLsbD_and, BitVec.getLsbD_not, getLsbD_255, hx,
      BitVec.getLsbD_xor, BitVec.getLsbD_setWidth, hbyte]
    by_cases hw : 8 + i < 32
    · simp [hw]
    · simp [hw, BitVec.getLsbD_of_ge crc.toBitVec (8 + i) (by omega)]
  have hrounds : Crc.rounds crcPoly 8 x =
      Crc.rounds crcPoly 8 (x &&& 255#32) ^^^ (x &&& ~~~255#32) >>> 8 := by
    conv_lhs => rw [hsplit]
    rw [Crc.rounds_xor, Crc.rounds_of_low_zero crcPoly 8 _ hlow]
  rw [UInt32.toBitVec_xor, crcTable_toBitVec, Crc.absorb, ← hx, hrounds, hhigh]
  rfl

theorem crcPoly_msb : crcPoly.msb = true := by decide

/-- The bytes at the given offsets. -/
def bytesAt (data : ByteBuffer) (offsets : List ℕ) : List (BitVec 8) :=
  offsets.map fun i => (data i).toBitVec

theorem crc32Reflected_toBitVec (data : ByteBuffer) (len : ℕ) :
    (crc32Reflected data len).toBitVec =
      Crc.absorbAll crcPoly crc32Init.toBitVec
        (bytesAt data (List.range len)) ^^^ crc32Xorout.toBitVec := by
  have habsorbed : ∀ (offsets : List ℕ) (crc : UInt32),
      (offsets.foldl (fun crc i =>
        crcTable ((crc ^^^ (data i).toUInt32) &&& 0xFF) ^^^ (crc >>> 8))
          crc).toBitVec =
        Crc.absorbAll crcPoly crc.toBitVec (bytesAt data offsets) := by
    intro offsets
    induction offsets with
    | nil => exact fun _ => rfl
    | cons i offsets ih =>
        intro crc
        rw [List.foldl_cons, ih, crcStep_toBitVec]
        rfl
  rw [crc32Reflected, UInt32.toBitVec_xor, habsorbed]

theorem range_burst (q rest : ℕ) :
    List.range (q + 4 + rest) =
      List.range' 0 q ++ List.range' q 4 ++ List.range' (q + 4) rest := by
  have hbefore : List.range' 0 q ++ List.range' q 4 = List.range' 0 (q + 4) := by
    simpa only [Nat.zero_add] using List.range'_append_1 (s := 0)
  have hafter : List.range' 0 (q + 4) ++ List.range' (q + 4) rest =
      List.range' 0 (q + 4 + rest) := by
    simpa only [Nat.zero_add] using List.range'_append_1 (s := 0)
  rw [hbefore, hafter, List.range_eq_range']

/-- A burst of at most four bytes changes the CRC. -/
theorem crc32Reflected_burst {a b : ByteBuffer} {len q : ℕ} (hq : q + 4 ≤ len)
    (hkept : ∀ i < len, i < q ∨ q + 4 ≤ i → a i = b i)
    (hcrc : crc32Reflected a len = crc32Reflected b len) :
    ∀ i < len, a i = b i := by
  obtain ⟨rest, rfl⟩ := Nat.exists_eq_add_of_le hq
  have hbefore : bytesAt a (List.range' 0 q) = bytesAt b (List.range' 0 q) := by
    refine List.map_congr_left fun i hi => ?_
    have hi := List.mem_range'_1.mp hi
    rw [hkept i (by omega) (by omega)]
  have hafter : bytesAt a (List.range' (q + 4) rest) =
      bytesAt b (List.range' (q + 4) rest) := by
    refine List.map_congr_left fun i hi => ?_
    have hi := List.mem_range'_1.mp hi
    rw [hkept i (by omega) (by omega)]
  have habsorbed := congrArg UInt32.toBitVec hcrc
  rw [crc32Reflected_toBitVec, crc32Reflected_toBitVec, BitVec.xor_left_inj,
    range_burst] at habsorbed
  simp only [bytesAt, List.map_append] at habsorbed hbefore hafter
  rw [hbefore, hafter] at habsorbed
  have hburst := Crc.burst_detected crcPoly_msb _ (by simp) (by simp) habsorbed
  intro i hi
  by_cases hin : i < q ∨ q + 4 ≤ i
  · exact hkept i hi hin
  · have hmem : i ∈ List.range' q 4 := List.mem_range'_1.mpr (by omega)
    exact UInt8.toBitVec_inj.mp (List.map_inj_left.mp hburst i hmem)

/-! ## What the CRC of a volume slot covers -/

/-- The header up to the CRC field, followed by the payload. -/
def message (slot : ByteBuffer) : ByteBuffer :=
  fun i => if i < 12 then slot i else slot (i + 4)

theorem computeCrc_eq_message {slot : ByteBuffer}
    (hlength : leRead16 slot 6 = volumePayloadV1Size) :
    computeCrc slot slotVolumeSize = crc32Reflected (message slot) 56 := by
  have hplen : (leRead16 slot 6).toNat = 44 := by
    rw [hlength]
    rfl
  rw [computeCrc, if_neg (by decide)]
  dsimp only
  rw [hplen, if_neg (by decide)]
  refine crc32Reflected_congr fun i hi => ?_
  by_cases hhead : i < 12
  · rw [blit_outside (.inl hhead), blit_inside i.zero_le (by omega),
      message, if_pos hhead]
    rfl
  · rw [blit_inside (by omega) (by omega), window_apply, message, if_neg hhead]
    congr 1
    simp only [persistCommonHeaderSize]
    omega

/-! ## The changed slot -/

/-- The slots differ in exactly one byte. -/
def OneByteChanged (before after : ByteBuffer) : Prop :=
  ∃ p < slotVolumeSize, after p ≠ before p ∧
    ∀ i < slotVolumeSize, i ≠ p → after i = before i

/-- The slots differ, but only inside a window of at most four payload
bytes. -/
def PayloadBurst (before after : ByteBuffer) : Prop :=
  ∃ first width, 0x10 ≤ first ∧ width ≤ 4 ∧ first + width ≤ 0x3C ∧
    (∃ i, first ≤ i ∧ i < first + width ∧ after i ≠ before i) ∧
    ∀ i < slotVolumeSize, i < first ∨ first + width ≤ i → after i = before i

/-- The answer for a volume slot. -/
def classifyVolume (slot : ByteBuffer) : SlotClassification :=
  classifySlot slot slotVolumeSize persistRecordVolume volumePayloadV1Schema
    volumePayloadV1Size

/-- A slot of the known schema is kept only if it is compatible. -/
theorem compatible_of_accepted {slot : ByteBuffer}
    (haccepted : Accepted (classifyVolume slot))
    (hschema : slot 5 = volumePayloadV1Schema) : VolumeCompatible slot := by
  refine haccepted.resolve_right fun hfuture => ?_
  rw [classifyVolume, classifySlot] at hfuture
  iterate 8
    replace hfuture :=
      (of_ite (P := (· = SlotClassification.validUnsupportedSchema))
        hfuture (by decide)).2
  rw [if_neg (not_not.mpr hschema)] at hfuture
  iterate 2
    replace hfuture :=
      (of_ite (P := (· = SlotClassification.validUnsupportedSchema))
        hfuture (by decide)).2
  cases hfuture

section Changed

variable {before after : ByteBuffer}

/-- A burst in what the CRC covers is no burst at all. -/
theorem message_unchanged (hbefore : VolumeCompatible before)
    (hafter : Accepted (classifyVolume after))
    (hlength : leRead16 after 6 = leRead16 before 6)
    (hfield : leRead32 after 0x0C = leRead32 before 0x0C) {q : ℕ} (hq : q ≤ 52)
    (hkept : ∀ i < 56, i < q ∨ q + 4 ≤ i → message after i = message before i) :
    ∀ i < 56, message after i = message before i := by
  have hpayload := (compatible_payload hbefore).2.1
  have hcrc : computeCrc after slotVolumeSize =
      computeCrc before slotVolumeSize := by
    rw [← (SoundSlot.of_accepted hafter).crc, hfield,
      (SoundSlot.of_accepted (.inl hbefore)).crc]
  rw [computeCrc_eq_message (hlength.trans hpayload),
    computeCrc_eq_message hpayload] at hcrc
  exact crc32Reflected_burst (by omega) hkept hcrc

/-- A header offset below the CRC field, seen in the message. -/
theorem message_head {slot : ByteBuffer} {i : ℕ} (hi : i < 12) :
    message slot i = slot i :=
  if_pos hi

/-- A payload offset, seen in the message. -/
theorem message_payload {slot : ByteBuffer} {i : ℕ} (hi : 16 ≤ i) :
    message slot (i - 4) = slot i := by
  rw [message, if_neg (by omega), Nat.sub_add_cancel (by omega)]

/-- No burst of covered payload bytes goes unnoticed. -/
theorem payloadBurst_detected (hbefore : VolumeCompatible before)
    (hchange : PayloadBurst before after) :
    ¬ Accepted (classifyVolume after) := by
  intro hafter
  obtain ⟨first, width, hlo, hwidth, hhi, ⟨p, hp, hp', hchanged⟩, hkept⟩ :=
    hchange
  have hlength : leRead16 after 6 = leRead16 before 6 :=
    leRead16_congr fun k hk => hkept (6 + k) (by simp only [slotVolumeSize]; omega)
      (by omega)
  have hfield : leRead32 after 0x0C = leRead32 before 0x0C :=
    leRead32_congr fun k hk =>
      hkept (0x0C + k) (by simp only [slotVolumeSize]; omega) (by omega)
  have hmessage := message_unchanged hbefore hafter hlength hfield
    (Nat.min_le_right (first - 4) 52) (fun i hi hout => by
      by_cases hhead : i < 12
      · rw [message_head hhead, message_head hhead]
        exact hkept i (by simp only [slotVolumeSize]; omega) (by omega)
      · rw [message, message, if_neg hhead, if_neg hhead]
        exact hkept (i + 4) (by simp only [slotVolumeSize]; omega) (by omega))
  have hsame := hmessage (p - 4) (by omega)
  rw [message_payload (by omega), message_payload (by omega)] at hsame
  exact hchanged hsame

/-- No change of a single byte goes unnoticed. -/
theorem oneByteChanged_detected (hbefore : VolumeCompatible before)
    (hchange : OneByteChanged before after) :
    ¬ Accepted (classifyVolume after) := by
  intro hafter
  obtain ⟨p, hp, hchanged, hkept⟩ := hchange
  have hsound := SoundSlot.of_accepted hafter
  have hold := SoundSlot.of_accepted (.inl hbefore)
  obtain ⟨hschema, hpayload, -⟩ := compatible_payload hbefore
  simp only [slotVolumeSize] at hp hkept
  by_cases hmagic : p < 4
  · exact hchanged (eq_of_leRead32_eq (hsound.magic.trans hold.magic.symm)
      p.zero_le hmagic)
  by_cases htype : p = 4
  · subst htype
    exact hchanged (hsound.type.trans hold.type.symm)
  by_cases hlast : p = 63
  · subst hlast
    exact hchanged (hsound.commit.trans hold.commit.symm)
  by_cases hlengthField : 6 ≤ p ∧ p < 8
  · -- the CRC covers another region then, but a known schema has one length
    have hknown : after 5 = volumePayloadV1Schema :=
      (hkept 5 (by omega) (by omega)).trans hschema
    have hlength := (compatible_payload (compatible_of_accepted hafter hknown)).2.1
    exact hchanged (eq_of_leRead16_eq (hlength.trans hpayload.symm)
      hlengthField.1 hlengthField.2)
  have hlength : leRead16 after 6 = leRead16 before 6 :=
    leRead16_congr fun k hk => hkept (6 + k) (by omega) (by omega)
  by_cases hreserved : 0x3C ≤ p
  · have hplen : (leRead16 before 6).toNat = 44 := by
      rw [hpayload]
      rfl
    have hstart : persistCommonHeaderSize + 44 ≤ p := hreserved
    have hzero := hsound.reserved p (by simp only [slotVolumeSize]; omega)
      (by rw [hlength, hplen]; exact hstart)
    have hzero' := hold.reserved p (by simp only [slotVolumeSize]; omega)
      (by rw [hplen]; exact hstart)
    exact hchanged (hzero.trans hzero'.symm)
  by_cases hcrcField : 0x0C ≤ p ∧ p < 0x10
  · have hcrc : computeCrc after slotVolumeSize =
        computeCrc before slotVolumeSize :=
      computeCrc_congr (fun i hi => hkept i (by omega) (by omega))
        (fun i hlo hhi => hkept i (by simp only [slotVolumeSize] at hhi; omega)
          (by omega))
    have hfield : leRead32 after 0x0C = leRead32 before 0x0C := by
      rw [hsound.crc, hcrc, hold.crc]
    exact hchanged (eq_of_leRead32_eq hfield hcrcField.1 hcrcField.2)
  have hfield : leRead32 after 0x0C = leRead32 before 0x0C :=
    leRead32_congr fun k hk => hkept (0x0C + k) (by omega) (by omega)
  -- the byte is covered, at one of two offsets of the message
  by_cases hhead : p < 12
  · have hmessage := message_unchanged hbefore hafter hlength hfield
      (show p ≤ 52 by omega) (fun i hi hout => by
        rw [message, message]
        split_ifs with hi'
        · exact hkept i (by omega) (by omega)
        · exact hkept (i + 4) (by omega) (by omega))
    have hsame := hmessage p (by omega)
    rw [message_head hhead, message_head hhead] at hsame
    exact hchanged hsame
  · refine payloadBurst_detected hbefore
      ⟨p, 1, by omega, by omega, by omega, ⟨p, le_rfl, by omega, hchanged⟩,
        fun i hi hout => hkept i hi (by omega)⟩ hafter

end Changed

/-- A valid volume slot that changes in one byte, or inside a window of at most
four payload bytes, is no longer kept as a record. -/
theorem corruption_detected {before after : ByteBuffer}
    (hvalid : VolumeCompatible before)
    (hchange : OneByteChanged before after ∨ PayloadBurst before after) :
    classifyVolume after ≠ .validCompatible ∧
      classifyVolume after ≠ .validUnsupportedSchema := by
  have hdetected : ¬ Accepted (classifyVolume after) := by
    rcases hchange with hbyte | hburst
    · exact oneByteChanged_detected hvalid hbyte
    · exact payloadBurst_detected hvalid hburst
  exact not_or.mp hdetected

/-- The cleared record under sequence 1, with its first payload byte changed. -/
theorem corruption_detected_cleared :
    ∃ before after, VolumeCompatible before ∧ OneByteChanged before after ∧
      classifyVolume after ≠ .validCompatible ∧
      classifyVolume after ≠ .validUnsupportedSchema := by
  obtain ⟨slot, hencode, hvalid, -⟩ := volumeCodec_spec 1
    ⟨0, 0, 0, 0, 0, 0, 0⟩ (by decide) (by decide)
  have hchange : OneByteChanged (committed slot)
      (setByte (committed slot) 0x10 (committed slot 0x10 + 1)) := by
    refine ⟨0x10, by decide, ?_, fun i _ hi => setByte_of_ne hi⟩
    rw [setByte_self]
    simp
  exact ⟨_, _, hvalid, hchange, corruption_detected hvalid (.inl hchange)⟩

end StorageRecord

end Swfpm
