import Swfpm.Support.ByteBuffer

/-!
# The persistent record

Embedding of `protocols/storage/storage_record.{h,c}`: the common slot
envelope, the table-driven CRC, the volume record codec and the structural
classification of a slot.

Null pointers are not modelled; every buffer argument is a buffer.  Sizes and
offsets are natural numbers, and every integer that lives on the medium keeps
its width.
-/

namespace Swfpm

open ByteBuffers

/-! ## Geometry and constants -/

def persistCommonHeaderSize : ℕ := 16
def persistCommitValid : UInt8 := 0xA5
def persistCommitInvalid : UInt8 := 0x00
def persistMagicU32 : UInt32 := 0x53574650

def persistRecordConfig : UInt8 := 1
def persistRecordCalibration : UInt8 := 2
def persistRecordVolume : UInt8 := 3

def slotVolumeAAddr : ℕ := 0x140
def slotVolumeBAddr : ℕ := 0x180
def slotVolumeSize : ℕ := 64
def slotCalibrationAAddr : ℕ := 0x080
def slotCalibrationBAddr : ℕ := 0x0E0
def slotCalibrationSize : ℕ := 96
def slotConfigAAddr : ℕ := 0x000
def slotConfigBAddr : ℕ := 0x040
def slotConfigSize : ℕ := 64

def volumePayloadV1Size : UInt16 := 44
def volumePayloadV1Schema : UInt8 := 1
def volumeRemainderLimit : UInt64 := 1000000

def crc32PolyReflected : UInt32 := 0xEDB88320
def crc32Init : UInt32 := 0xFFFFFFFF
def crc32Xorout : UInt32 := 0xFFFFFFFF

inductive SlotClassification where
  | validCompatible
  | validUnsupportedSchema
  | validIncompatible
  | emptyUninitialized
  | notCommitted
  | badMagic
  | badType
  | badLength
  | badReserved
  | badCrc
  | badPayload
  | ioError
  deriving DecidableEq, Repr

/-- The decoded payload of a schema 1 volume record. -/
structure VolumeRecord where
  forwardVolumeUl : UInt64
  reverseVolumeUl : UInt64
  forwardRemainder : UInt64
  reverseRemainder : UInt64
  stateVersion : UInt64
  lastFlowSequence : UInt64
  lastSourceGeneration : UInt32
  deriving DecidableEq, Repr

namespace StorageRecord

/-! ## CRC -/

/-- One round of the inner loop of `crc_table_init`. -/
def crcTableRound (crc : UInt32) : UInt32 :=
  if crc &&& 1 ≠ 0 then (crc >>> 1) ^^^ crc32PolyReflected else crc >>> 1

/-- Entry `i` of the table filled by `crc_table_init`. -/
def crcTable (i : UInt32) : UInt32 :=
  (List.range 8).foldl (fun crc _ => crcTableRound crc) i

def crc32Reflected (data : ByteBuffer) (len : ℕ) : UInt32 :=
  (List.range len).foldl
    (fun crc i =>
      crcTable ((crc ^^^ (data i).toUInt32) &&& 0xFF) ^^^ (crc >>> 8))
    crc32Init ^^^ crc32Xorout

def computeCrc (slot : ByteBuffer) (slotSize : ℕ) : UInt32 :=
  if slotSize < persistCommonHeaderSize + 1 ∨ slotSize > 256 then 0
  else
    let payloadLength := (leRead16 slot 6).toNat
    if payloadLength > slotSize - persistCommonHeaderSize - 1 then 0
    else
      -- the CRC field, the reserved tail and the commit byte are left out
      let buf := blit zeros 0 slot 12
      let buf := blit buf 12 (window slot persistCommonHeaderSize) payloadLength
      crc32Reflected buf (12 + payloadLength)

/-! ## Volume codec -/

/-- `none` stands for the return value 0, which leaves the buffer alone. -/
def encodeVolume (sequence : UInt32) (r : VolumeRecord) : Option ByteBuffer :=
  if r.forwardRemainder ≥ volumeRemainderLimit ∨
      r.reverseRemainder ≥ volumeRemainderLimit then none
  else
    let slot := leWrite32 zeros 0 persistMagicU32
    let slot := setByte slot 4 persistRecordVolume
    let slot := setByte slot 5 volumePayloadV1Schema
    let slot := leWrite16 slot 6 volumePayloadV1Size
    let slot := leWrite32 slot 8 sequence
    let slot := leWrite64 slot 0x10 r.forwardVolumeUl
    let slot := leWrite64 slot 0x18 r.reverseVolumeUl
    let slot := leWrite32 slot 0x20 r.forwardRemainder.toUInt32
    let slot := leWrite32 slot 0x24 r.reverseRemainder.toUInt32
    let slot := leWrite64 slot 0x28 r.stateVersion
    let slot := leWrite64 slot 0x30 r.lastFlowSequence
    let slot := leWrite32 slot 0x38 r.lastSourceGeneration
    let slot := leWrite32 slot 0x0C (computeCrc slot slotVolumeSize)
    some (setByte slot (slotVolumeSize - 1) persistCommitInvalid)

def decodeVolume (slot : ByteBuffer) : Option VolumeRecord :=
  if leRead32 slot 0 ≠ persistMagicU32 then none
  else if slot 4 ≠ persistRecordVolume then none
  else if slot 5 ≠ volumePayloadV1Schema then none
  else if leRead16 slot 6 ≠ volumePayloadV1Size then none
  else
    let forwardRemainder := (leRead32 slot 0x20).toUInt64
    let reverseRemainder := (leRead32 slot 0x24).toUInt64
    if forwardRemainder ≥ volumeRemainderLimit ∨
        reverseRemainder ≥ volumeRemainderLimit then none
    else
      some
        { forwardVolumeUl := leRead64 slot 0x10
          reverseVolumeUl := leRead64 slot 0x18
          forwardRemainder := forwardRemainder
          reverseRemainder := reverseRemainder
          stateVersion := leRead64 slot 0x28
          lastFlowSequence := leRead64 slot 0x30
          lastSourceGeneration := leRead32 slot 0x38 }

/-! ## Structural classification -/

def classifySlot (slot : ByteBuffer) (slotSize : ℕ)
    (expectedType expectedSchema : UInt8) (expectedPayloadSize : UInt16) :
    SlotClassification :=
  if slotSize < persistCommonHeaderSize + 1 ∨ slotSize > 256 then .badLength
  else if ∀ i < slotSize, slot i = 0 then .emptyUninitialized
  else if slot (slotSize - 1) ≠ persistCommitValid then .notCommitted
  else if leRead32 slot 0 ≠ persistMagicU32 then .badMagic
  else if slot 4 ≠ expectedType then .badType
  else
    let plen := leRead16 slot 6
    if plen.toNat + persistCommonHeaderSize + 1 > slotSize then .badLength
    else if leRead32 slot 0x0C ≠ computeCrc slot slotSize then .badCrc
    else if ¬ ∀ i < slotSize - 1,
        persistCommonHeaderSize + plen.toNat ≤ i → slot i = 0 then .badReserved
    -- a future schema is preserved only once it is structurally sound
    else if slot 5 ≠ expectedSchema then .validUnsupportedSchema
    else if plen ≠ expectedPayloadSize then .badLength
    else if expectedType = persistRecordVolume ∧
        expectedSchema = volumePayloadV1Schema ∧
        ((leRead32 slot 0x20).toUInt64 ≥ volumeRemainderLimit ∨
          (leRead32 slot 0x24).toUInt64 ≥ volumeRemainderLimit) then .badPayload
    else .validCompatible

/-! ## Dependence on the bytes -/

theorem crc32Reflected_congr {a b : ByteBuffer} {len : ℕ}
    (h : ∀ i < len, a i = b i) :
    crc32Reflected a len = crc32Reflected b len := by
  unfold crc32Reflected
  congr 1
  apply List.foldl_ext
  intro crc i hi
  rw [h i (List.mem_range.mp hi)]

/-- The CRC sees the header up to its own field and the declared payload. -/
theorem computeCrc_congr {a b : ByteBuffer} {slotSize : ℕ}
    (hhead : ∀ i < 12, a i = b i)
    (hpayload : ∀ i, 16 ≤ i → i < slotSize - 1 → a i = b i) :
    computeCrc a slotSize = computeCrc b slotSize := by
  have hlen : leRead16 a 6 = leRead16 b 6 :=
    leRead16_congr fun k hk => hhead (6 + k) (by omega)
  unfold computeCrc persistCommonHeaderSize
  split
  · rfl
  · rw [hlen]
    dsimp only
    split
    · rfl
    · apply crc32Reflected_congr
      intro i hi
      by_cases h12 : i < 12
      · rw [blit_outside (Or.inl h12), blit_outside (Or.inl h12),
          blit_inside (Nat.zero_le i) (by omega),
          blit_inside (Nat.zero_le i) (by omega)]
        exact hhead _ (by omega)
      · rw [blit_inside (by omega) hi, blit_inside (by omega) hi]
        exact hpayload _ (by omega) (by omega)

theorem classifySlot_congr {a b : ByteBuffer} {slotSize : ℕ}
    {type schema : UInt8} {payload : UInt16}
    (hsize : 64 ≤ slotSize) (h : ∀ i < slotSize, a i = b i) :
    classifySlot a slotSize type schema payload =
      classifySlot b slotSize type schema payload := by
  have h32 : ∀ off, off + 4 ≤ slotSize → leRead32 a off = leRead32 b off :=
    fun off hoff => leRead32_congr fun k hk => h (off + k) (by omega)
  have hlen : leRead16 a 6 = leRead16 b 6 :=
    leRead16_congr fun k hk => h (6 + k) (by omega)
  have hcrc : computeCrc a slotSize = computeCrc b slotSize :=
    computeCrc_congr (fun i hi => h i (by omega))
      (fun i _ hi => h i (by omega))
  have hzero : (∀ i < slotSize, a i = 0) ↔ ∀ i < slotSize, b i = 0 :=
    forall₂_congr fun i hi => by rw [h i hi]
  have hreserved : ∀ n : ℕ, (∀ i < slotSize - 1, n ≤ i → a i = 0) ↔
      ∀ i < slotSize - 1, n ≤ i → b i = 0 :=
    fun n => forall₂_congr fun i hi => by rw [h i (by omega)]
  unfold classifySlot
  simp only [h32 0 (by omega), h32 0x0C (by omega), h32 0x20 (by omega),
    h32 0x24 (by omega), hlen, hcrc, hzero, hreserved,
    h (slotSize - 1) (by omega), h 4 (by omega), h 5 (by omega)]

/-- A slot whose commit byte is not the valid marker is empty or
uncommitted, whatever the rest of it holds. -/
theorem classifySlot_of_uncommitted {slot : ByteBuffer} {slotSize : ℕ}
    {type schema : UInt8} {payload : UInt16}
    (hlo : 17 ≤ slotSize) (hhi : slotSize ≤ 256)
    (hcommit : slot (slotSize - 1) ≠ persistCommitValid) :
    classifySlot slot slotSize type schema payload = .emptyUninitialized ∨
      classifySlot slot slotSize type schema payload = .notCommitted := by
  unfold classifySlot persistCommonHeaderSize
  rw [if_neg (by omega)]
  split
  · exact Or.inl rfl
  · exact Or.inr rfl

/-! ## The body of a volume record -/

/-- Everything but the commit byte of a slot that holds a volume record. -/
structure VolumeBody (slot : ByteBuffer) (sequence : UInt32)
    (r : VolumeRecord) : Prop where
  magic : leRead32 slot 0 = persistMagicU32
  type : slot 4 = persistRecordVolume
  schema : slot 5 = volumePayloadV1Schema
  payloadLength : leRead16 slot 6 = volumePayloadV1Size
  sequence : leRead32 slot 8 = sequence
  forwardVolume : leRead64 slot 0x10 = r.forwardVolumeUl
  reverseVolume : leRead64 slot 0x18 = r.reverseVolumeUl
  forwardRemainder : (leRead32 slot 0x20).toUInt64 = r.forwardRemainder
  reverseRemainder : (leRead32 slot 0x24).toUInt64 = r.reverseRemainder
  stateVersion : leRead64 slot 0x28 = r.stateVersion
  lastFlowSequence : leRead64 slot 0x30 = r.lastFlowSequence
  lastSourceGeneration : leRead32 slot 0x38 = r.lastSourceGeneration
  forwardBound : r.forwardRemainder < volumeRemainderLimit
  reverseBound : r.reverseRemainder < volumeRemainderLimit
  reserved : ∀ i, 0x3C ≤ i → i < 63 → slot i = 0
  crc : leRead32 slot 0x0C = computeCrc slot slotVolumeSize

theorem VolumeBody.congr {a b : ByteBuffer} {sequence : UInt32}
    {r : VolumeRecord} (ha : VolumeBody a sequence r)
    (h : ∀ i < 63, a i = b i) : VolumeBody b sequence r := by
  have h32 : ∀ off, off + 4 ≤ 63 → leRead32 b off = leRead32 a off :=
    fun off hoff => leRead32_congr fun k hk => (h (off + k) (by omega)).symm
  have h64 : ∀ off, off + 8 ≤ 63 → leRead64 b off = leRead64 a off :=
    fun off hoff => leRead64_congr fun k hk => (h (off + k) (by omega)).symm
  have hcrc : computeCrc b slotVolumeSize = computeCrc a slotVolumeSize :=
    computeCrc_congr (fun i hi => (h i (by omega)).symm)
      (fun i _ hi => (h i (by simpa [slotVolumeSize] using hi)).symm)
  exact
    { magic := by rw [h32 0 (by omega), ha.magic]
      type := by rw [← h 4 (by omega), ha.type]
      schema := by rw [← h 5 (by omega), ha.schema]
      payloadLength := by
        rw [← ha.payloadLength]
        exact leRead16_congr fun k hk => (h (6 + k) (by omega)).symm
      sequence := by rw [h32 8 (by omega), ha.sequence]
      forwardVolume := by rw [h64 0x10 (by omega), ha.forwardVolume]
      reverseVolume := by rw [h64 0x18 (by omega), ha.reverseVolume]
      forwardRemainder := by rw [h32 0x20 (by omega), ha.forwardRemainder]
      reverseRemainder := by rw [h32 0x24 (by omega), ha.reverseRemainder]
      stateVersion := by rw [h64 0x28 (by omega), ha.stateVersion]
      lastFlowSequence := by rw [h64 0x30 (by omega), ha.lastFlowSequence]
      lastSourceGeneration := by
        rw [h32 0x38 (by omega), ha.lastSourceGeneration]
      forwardBound := ha.forwardBound
      reverseBound := ha.reverseBound
      reserved := fun i hlo hhi => by rw [← h i hhi, ha.reserved i hlo hhi]
      crc := by rw [h32 0x0C (by omega), ha.crc, hcrc] }

/-- A remainder below the limit survives its 32-bit field. -/
theorem remainder_roundTrip {x : UInt64} (h : x < volumeRemainderLimit) :
    x.toUInt32.toUInt64 = x := by
  apply UInt64.toNat.inj
  have hx : x.toNat < 1000000 := UInt64.lt_iff_toNat_lt.mp h
  simp only [UInt32.toNat_toUInt64, UInt64.toNat_toUInt32]
  omega

theorem encodeVolume_eq_none_iff (sequence : UInt32) (r : VolumeRecord) :
    encodeVolume sequence r = none ↔
      volumeRemainderLimit ≤ r.forwardRemainder ∨
        volumeRemainderLimit ≤ r.reverseRemainder := by
  unfold encodeVolume
  split <;> simp_all

/-- What `StorageRecord_EncodeVolume` leaves in its buffer. -/
theorem encodeVolume_body {sequence : UInt32} {r : VolumeRecord}
    {slot : ByteBuffer} (h : encodeVolume sequence r = some slot) :
    VolumeBody slot sequence r ∧ slot 63 = persistCommitInvalid := by
  have hrem : r.forwardRemainder < volumeRemainderLimit ∧
      r.reverseRemainder < volumeRemainderLimit := by
    by_contra hnot
    have hnone := (encodeVolume_eq_none_iff sequence r).mpr (by
      simpa only [not_and_or, UInt64.not_lt] using hnot)
    rw [hnone] at h
    cases h
  unfold encodeVolume at h
  rw [if_neg (by simpa only [not_or, ge_iff_le, UInt64.not_le] using hrem)] at h
  have hslot := (Option.some.inj h).symm
  have hnone : ∀ i, 0x3C ≤ i → i < 63 → slot i = 0 := by
    intro i hlo hhi
    simp (disch := omega) only [hslot, slotVolumeSize, setByte_of_ne,
      leWrite16_outside, leWrite32_outside, leWrite64_outside]
    rfl
  -- every field is read back through the writes that come after its own
  constructor
  · constructor
    case forwardBound => exact hrem.1
    case reverseBound => exact hrem.2
    case reserved => exact hnone
    case type | schema =>
      simp (disch := omega) only [hslot, slotVolumeSize, setByte_of_ne,
        leWrite16_outside, leWrite32_outside, leWrite64_outside, setByte_self]
    case payloadLength =>
      simp (disch := omega) only [hslot, slotVolumeSize,
        leRead16_setByte_of_disjoint, leRead16_leWrite32_of_disjoint,
        leRead16_leWrite64_of_disjoint, leRead16_leWrite16]
    case forwardVolume | reverseVolume | stateVersion | lastFlowSequence =>
      simp (disch := omega) only [hslot, slotVolumeSize,
        leRead64_setByte_of_disjoint, leRead64_leWrite32_of_disjoint,
        leRead64_leWrite64_of_disjoint, leRead64_leWrite64]
    case magic | sequence | lastSourceGeneration =>
      simp (disch := omega) only [hslot, slotVolumeSize,
        leRead32_setByte_of_disjoint, leRead32_leWrite16_of_disjoint,
        leRead32_leWrite32_of_disjoint, leRead32_leWrite64_of_disjoint,
        leRead32_leWrite32]
    case forwardRemainder | reverseRemainder =>
      simp (disch := omega) only [hslot, slotVolumeSize,
        leRead32_setByte_of_disjoint, leRead32_leWrite32_of_disjoint,
        leRead32_leWrite64_of_disjoint, leRead32_leWrite32,
        remainder_roundTrip hrem.1, remainder_roundTrip hrem.2]
    case crc =>
      -- neither the CRC field nor the commit byte is covered by the CRC
      have hcovered : ∀ body : ByteBuffer, ∀ crc : UInt32,
          computeCrc (setByte (leWrite32 body 0x0C crc) 63
            persistCommitInvalid) 64 = computeCrc body 64 := by
        intro body crc
        apply computeCrc_congr
        · intro i hi
          simp (disch := omega) only [setByte_of_ne, leWrite32_outside]
        · intro i hlo hhi
          simp (disch := omega) only [setByte_of_ne, leWrite32_outside]
      simp only [hslot, slotVolumeSize, Nat.reduceSub]
      rw [hcovered, leRead32_setByte_of_disjoint (by omega),
        leRead32_leWrite32]
  · rw [hslot]
    exact setByte_self _ 63 _

/-! ## What a valid volume slot decodes to -/

/-- A volume body under a valid commit byte is a compatible record. -/
theorem VolumeBody.classify {slot : ByteBuffer} {sequence : UInt32}
    {r : VolumeRecord} (h : VolumeBody slot sequence r)
    (hcommit : slot 63 = persistCommitValid) :
    classifySlot slot slotVolumeSize persistRecordVolume volumePayloadV1Schema
      volumePayloadV1Size = .validCompatible := by
  have hnonzero : ¬ ∀ i < slotVolumeSize, slot i = 0 := by
    intro hz
    have h63 := hz 63 (by decide)
    rw [hcommit] at h63
    exact absurd h63 (by decide)
  have hplen : (leRead16 slot 6).toNat = 44 := by
    rw [h.payloadLength]
    rfl
  have hreserved : ∀ i < slotVolumeSize - 1,
      persistCommonHeaderSize + (leRead16 slot 6).toNat ≤ i → slot i = 0 := by
    intro i hi hlo
    rw [hplen] at hlo
    exact h.reserved i hlo hi
  have hbounds : ¬ ((leRead32 slot 0x20).toUInt64 ≥ volumeRemainderLimit ∨
      (leRead32 slot 0x24).toUInt64 ≥ volumeRemainderLimit) := by
    rw [h.forwardRemainder, h.reverseRemainder]
    simpa only [not_or, ge_iff_le, UInt64.not_le] using
      And.intro h.forwardBound h.reverseBound
  unfold classifySlot
  rw [if_neg (by decide), if_neg hnonzero,
    if_neg (not_not.mpr (by exact hcommit)), if_neg (not_not.mpr h.magic),
    if_neg (not_not.mpr h.type)]
  dsimp only
  rw [if_neg (by rw [hplen]; decide), if_neg (not_not.mpr h.crc),
    if_neg (not_not.mpr hreserved), if_neg (not_not.mpr h.schema),
    if_neg (not_not.mpr h.payloadLength),
    if_neg (fun hbad => hbounds hbad.2.2)]

theorem VolumeBody.decode {slot : ByteBuffer} {sequence : UInt32}
    {r : VolumeRecord} (h : VolumeBody slot sequence r) :
    decodeVolume slot = some r := by
  have hbounds : ¬ ((leRead32 slot 0x20).toUInt64 ≥ volumeRemainderLimit ∨
      (leRead32 slot 0x24).toUInt64 ≥ volumeRemainderLimit) := by
    rw [h.forwardRemainder, h.reverseRemainder]
    simpa only [not_or, ge_iff_le, UInt64.not_le] using
      And.intro h.forwardBound h.reverseBound
  unfold decodeVolume
  rw [if_neg (not_not.mpr h.magic), if_neg (not_not.mpr h.type),
    if_neg (not_not.mpr h.schema), if_neg (not_not.mpr h.payloadLength)]
  dsimp only
  rw [if_neg hbounds, h.forwardVolume, h.reverseVolume, h.forwardRemainder,
    h.reverseRemainder, h.stateVersion, h.lastFlowSequence,
    h.lastSourceGeneration]

end StorageRecord
end Swfpm
