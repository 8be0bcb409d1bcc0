import Swfpm.Storage.Corruption

/-!
# The record checksum

The checksum of `storage_record.c` with the table that the first call fills and
that later calls read.  Whatever was computed before, a slot whose declared
payload fits gets the CRC-32/ISO-HDLC of its first 12 header bytes and of this
payload.
-/

namespace Swfpm.StorageRecord

open ByteBuffers

/-- The static variables of `crc32_reflected`. -/
structure CrcStatics where
  table : List UInt32
  tableReady : Bool
  deriving DecidableEq, Repr

/-- What a program starts with. -/
def CrcStatics.zero : CrcStatics :=
  { table := List.replicate 256 0, tableReady := false }

/-- The table that `crc_table_init` fills. -/
def crcTableInit : List UInt32 :=
  (List.range 256).map fun i ↦ crcTable (UInt32.ofNat i)

/-- `crc32_reflected`; the result is missing where the table has no entry at an
index. -/
def crc32ReflectedIn (statics : CrcStatics) (data : ByteBuffer) (len : ℕ) :
    Option (UInt32 × CrcStatics) :=
  let statics : CrcStatics :=
    if statics.tableReady then statics
    else { table := crcTableInit, tableReady := true }
  ((List.range len).foldlM
    (fun crc i ↦
      statics.table[((crc ^^^ (data i).toUInt32) &&& 0xFF).toNat]?.map
        fun entry ↦ entry ^^^ (crc >>> 8))
    crc32Init).map fun crc ↦ (crc ^^^ crc32Xorout, statics)

/-- `StorageRecord_ComputeCrc` with the static variables. -/
def computeCrcIn (statics : CrcStatics) (slot : ByteBuffer) (slotSize : ℕ) :
    Option (UInt32 × CrcStatics) :=
  if slotSize < persistCommonHeaderSize + 1 ∨ slotSize > 256 then
    some (0, statics)
  else
    let payloadLength := (leRead16 slot 6).toNat
    if payloadLength > slotSize - persistCommonHeaderSize - 1 then
      some (0, statics)
    else
      let buf := blit zeros 0 slot 12
      let buf := blit buf 12 (window slot persistCommonHeaderSize) payloadLength
      crc32ReflectedIn statics buf (12 + payloadLength)

/-- The static variables after some calls. -/
inductive Called : CrcStatics → Prop where
  | first : Called .zero
  | later {statics statics' : CrcStatics} {slot : ByteBuffer} {slotSize : ℕ}
      {crc : UInt32} (hcalled : Called statics)
      (hcall : computeCrcIn statics slot slotSize = some (crc, statics')) :
      Called statics'

/-! ## The table -/

/-- A table that counts as filled is the filled one. -/
def CrcStatics.Filled (statics : CrcStatics) : Prop :=
  statics.tableReady = true → statics.table = crcTableInit

theorem crcTableInit_lookup (index : UInt32) :
    crcTableInit[(index &&& 0xFF).toNat]? = some (crcTable (index &&& 0xFF)) := by
  have hlt : (index &&& 0xFF).toNat < 256 := by
    rw [UInt32.toNat_and]
    exact Nat.lt_succ_of_le Nat.and_le_right
  rw [crcTableInit, List.getElem?_map, List.getElem?_range hlt, Option.map_some,
    UInt32.ofNat_toNat]

theorem foldlM_some {α β : Type} {step : β → α → Option β} {next : β → α → β}
    (hstep : ∀ state entry, step state entry = some (next state entry))
    (entries : List α) (state : β) :
    entries.foldlM step state = some (entries.foldl next state) := by
  induction entries generalizing state with
  | nil => rfl
  | cons entry entries ih =>
      rw [List.foldlM_cons, hstep]
      exact ih (next state entry)

theorem crc32ReflectedIn_eq {statics : CrcStatics} (hfilled : statics.Filled)
    (data : ByteBuffer) (len : ℕ) :
    crc32ReflectedIn statics data len =
      some (crc32Reflected data len,
        { table := crcTableInit, tableReady := true }) := by
  have htable : (if statics.tableReady then statics
      else { table := crcTableInit, tableReady := true } : CrcStatics) =
        { table := crcTableInit, tableReady := true } := by
    obtain ⟨table, tableReady⟩ := statics
    cases tableReady with
    | false => rfl
    | true =>
        rw [if_pos rfl]
        exact congrArg (CrcStatics.mk · true) (hfilled rfl)
  have hstep : ∀ (crc : UInt32) (i : ℕ),
      (crcTableInit[((crc ^^^ (data i).toUInt32) &&& 0xFF).toNat]?.map
        fun entry ↦ entry ^^^ (crc >>> 8)) =
      some (crcTable ((crc ^^^ (data i).toUInt32) &&& 0xFF) ^^^ (crc >>> 8)) := by
    intro crc i
    rw [crcTableInit_lookup, Option.map_some]
  rw [crc32ReflectedIn, htable]
  dsimp only
  rw [foldlM_some hstep]
  rfl

theorem computeCrcIn_eq {statics : CrcStatics} (hfilled : statics.Filled)
    (slot : ByteBuffer) (slotSize : ℕ) :
    ∃ statics' : CrcStatics, statics'.Filled ∧
      computeCrcIn statics slot slotSize =
        some (computeCrc slot slotSize, statics') := by
  rw [computeCrcIn, computeCrc]
  by_cases hsize : slotSize < persistCommonHeaderSize + 1 ∨ slotSize > 256
  · rw [if_pos hsize, if_pos hsize]
    exact ⟨statics, hfilled, rfl⟩
  rw [if_neg hsize, if_neg hsize]
  dsimp only
  by_cases hlength :
      (leRead16 slot 6).toNat > slotSize - persistCommonHeaderSize - 1
  · rw [if_pos hlength, if_pos hlength]
    exact ⟨statics, hfilled, rfl⟩
  · rw [if_neg hlength, if_neg hlength]
    exact ⟨_, fun _ ↦ rfl, crc32ReflectedIn_eq hfilled _ _⟩

theorem Called.filled {statics : CrcStatics} (hcalled : Called statics) :
    statics.Filled := by
  induction hcalled with
  | first =>
      intro hready
      cases hready
  | @later statics statics' slot slotSize crc _ hcall ih =>
      obtain ⟨next, hnext, heq⟩ := computeCrcIn_eq ih slot slotSize
      rw [hcall, Option.some.injEq, Prod.mk.injEq] at heq
      exact heq.2 ▸ hnext

/-! ## The covered bytes -/

/-- The bytes that the checksum covers, in their order. -/
def coveredBytes (slot : ByteBuffer) : List (BitVec 8) :=
  bytesAt slot (List.range 12) ++
    bytesAt (window slot persistCommonHeaderSize)
      (List.range (leRead16 slot 6).toNat)

/-- The gathered buffer holds the covered bytes. -/
theorem bytesAt_gathered (slot : ByteBuffer) (length : ℕ) :
    bytesAt (blit (blit zeros 0 slot 12) 12
        (window slot persistCommonHeaderSize) length)
      (List.range (12 + length)) =
      bytesAt slot (List.range 12) ++
        bytesAt (window slot persistCommonHeaderSize) (List.range length) := by
  simp only [bytesAt, List.range_add, List.map_append, List.map_map]
  apply congrArg₂ (· ++ ·)
  · apply List.map_congr_left
    intro i hi
    have hlt := List.mem_range.mp hi
    rw [blit_outside (.inl hlt), blit_inside i.zero_le (by omega), Nat.sub_zero]
  · apply List.map_congr_left
    intro i hi
    have hlt := List.mem_range.mp hi
    have hbyte : blit (blit zeros 0 slot 12) 12
        (window slot persistCommonHeaderSize) length (12 + i) =
          window slot persistCommonHeaderSize i := by
      rw [blit_inside (by omega) (by omega), Nat.add_sub_cancel_left]
    exact congrArg UInt8.toBitVec hbyte

theorem computeCrc_toBitVec {slot : ByteBuffer} {slotSize : ℕ}
    (hlow : 17 ≤ slotSize) (hhigh : slotSize ≤ 256)
    (hfits : (leRead16 slot 6).toNat ≤ slotSize - 17) :
    (computeCrc slot slotSize).toBitVec = Crc.isoHdlc (coveredBytes slot) := by
  have hsize : ¬ (slotSize < persistCommonHeaderSize + 1 ∨ slotSize > 256) := by
    simp only [persistCommonHeaderSize]
    omega
  have hlength :
      ¬ (leRead16 slot 6).toNat > slotSize - persistCommonHeaderSize - 1 := by
    simp only [persistCommonHeaderSize]
    omega
  rw [computeCrc, if_neg hsize]
  dsimp only
  rw [if_neg hlength, crc32Reflected_toBitVec, bytesAt_gathered,
    Crc.absorbAll_eq_serial _ (by decide)]
  rfl

/-- The table-driven checksum, whatever was computed before it. -/
theorem checksum_is_isoHdlc {statics : CrcStatics} (hcalled : Called statics)
    {slot : ByteBuffer} {slotSize : ℕ} (hlow : 17 ≤ slotSize)
    (hhigh : slotSize ≤ 256)
    (hfits : (leRead16 slot 6).toNat ≤ slotSize - 17) :
    ∃ crc statics', computeCrcIn statics slot slotSize = some (crc, statics') ∧
      crc.toBitVec = Crc.isoHdlc (coveredBytes slot) := by
  obtain ⟨statics', -, hcall⟩ :=
    computeCrcIn_eq hcalled.filled slot slotSize
  exact ⟨_, statics', hcall, computeCrc_toBitVec hlow hhigh hfits⟩

/-- A slot that declares three payload bytes. -/
theorem checksum_is_isoHdlc_short :
    ∃ crc statics',
      computeCrcIn .zero (setByte zeros 6 3) 64 = some (crc, statics') ∧
      crc.toBitVec = Crc.isoHdlc (coveredBytes (setByte zeros 6 3)) :=
  checksum_is_isoHdlc .first (by decide) (by decide) (by decide)

end Swfpm.StorageRecord
