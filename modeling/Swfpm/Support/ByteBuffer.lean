import Mathlib

/-!
# Byte buffers

A C byte array is read here as a function from offsets to bytes.  Only the
offsets below the declared size of the array carry information, so two
buffers are compared on a range and never as whole functions.

The module collects what every byte-level argument of this development needs:
copying a block, agreement on a range, a write that was torn half way, and
the little-endian integer codec together with its round trips.
-/

namespace ByteBuffers

/-- An array of bytes, indexed by offset. -/
abbrev ByteBuffer := ℕ → UInt8

/-- An array of zero bytes. -/
def zeros : ByteBuffer := fun _ => 0

/-- Store one byte. -/
def setByte (buf : ByteBuffer) (offset : ℕ) (value : UInt8) : ByteBuffer :=
  Function.update buf offset value

/-- Copy the first `size` bytes of `src` to the offsets from `offset` on. -/
def blit (dst : ByteBuffer) (offset : ℕ) (src : ByteBuffer) (size : ℕ) :
    ByteBuffer :=
  fun i => if offset ≤ i ∧ i < offset + size then src (i - offset) else dst i

/-- The part of a buffer that starts at `offset`. -/
def window (buf : ByteBuffer) (offset : ℕ) : ByteBuffer :=
  fun i => buf (offset + i)

/-- `memcmp a b size == 0`. -/
def sameBytes (a b : ByteBuffer) (size : ℕ) : Bool :=
  decide (∀ i < size, a i = b i)

theorem sameBytes_eq_true_iff {a b : ByteBuffer} {size : ℕ} :
    sameBytes a b size = true ↔ ∀ i < size, a i = b i := by
  simp [sameBytes]

theorem sameBytes_congr {a a' b b' : ByteBuffer} {size : ℕ}
    (ha : ∀ i < size, a i = a' i) (hb : ∀ i < size, b i = b' i) :
    sameBytes a b size = sameBytes a' b' size := by
  unfold sameBytes
  congr 1
  apply propext
  constructor
  · intro h i hi
    rw [← ha i hi, ← hb i hi, h i hi]
  · intro h i hi
    rw [ha i hi, hb i hi, h i hi]

@[simp] theorem setByte_self (buf : ByteBuffer) (i : ℕ) (v : UInt8) :
    setByte buf i v i = v := by
  simp [setByte]

theorem setByte_of_ne {buf : ByteBuffer} {i j : ℕ} {v : UInt8} (h : j ≠ i) :
    setByte buf i v j = buf j := by
  simp [setByte, Function.update_of_ne h]

theorem blit_inside {dst src : ByteBuffer} {offset size i : ℕ}
    (hlo : offset ≤ i) (hhi : i < offset + size) :
    blit dst offset src size i = src (i - offset) :=
  if_pos ⟨hlo, hhi⟩

theorem blit_outside {dst src : ByteBuffer} {offset size i : ℕ}
    (h : i < offset ∨ offset + size ≤ i) :
    blit dst offset src size i = dst i :=
  if_neg (by omega)

@[simp] theorem window_apply (buf : ByteBuffer) (offset i : ℕ) :
    window buf offset i = buf (offset + i) := rfl

/-- A byte that was copied from `address` on. -/
theorem blit_window_inside (dst image : ByteBuffer) {base address size i : ℕ}
    (hlo : base ≤ i) (hhi : i < base + size) :
    blit dst base (window image address) size i =
      image (address + (i - base)) := by
  rw [blit_inside hlo hhi, window_apply]

/-! ## Torn writes -/

/-- `after` is what a write of `size` bytes of `src` at `offset` may leave of
`before` when it stops anywhere: every byte of the range is old or new, and
no other byte moved. -/
def Torn (before after : ByteBuffer) (offset : ℕ) (src : ByteBuffer)
    (size : ℕ) : Prop :=
  ∀ i, after i = before i ∨ after i = blit before offset src size i

theorem Torn.refl (before src : ByteBuffer) (offset size : ℕ) :
    Torn before before offset src size :=
  fun _ => Or.inl rfl

theorem Torn.complete (before src : ByteBuffer) (offset size : ℕ) :
    Torn before (blit before offset src size) offset src size :=
  fun _ => Or.inr rfl

theorem Torn.outside {before after src : ByteBuffer} {offset size i : ℕ}
    (h : Torn before after offset src size)
    (hi : i < offset ∨ offset + size ≤ i) : after i = before i := by
  rcases h i with h | h
  · exact h
  · rw [h, blit_outside hi]

theorem Torn.inside {before after src : ByteBuffer} {offset size i : ℕ}
    (h : Torn before after offset src size)
    (hlo : offset ≤ i) (hhi : i < offset + size) :
    after i = before i ∨ after i = src (i - offset) := by
  rcases h i with h | h
  · exact Or.inl h
  · exact Or.inr (by rw [h, blit_inside hlo hhi])

theorem Torn.trans {a b c src : ByteBuffer} {offset size : ℕ}
    (hab : Torn a b offset src size) (hbc : Torn b c offset src size) :
    Torn a c offset src size := by
  intro i
  rcases hbc i with h | h
  · rw [h]
    exact hab i
  · by_cases hin : offset ≤ i ∧ i < offset + size
    · right
      rw [h, blit_inside hin.1 hin.2, blit_inside hin.1 hin.2]
    · rw [h, blit_outside (by omega)]
      exact hab i

theorem Torn.blit_eq {a b src : ByteBuffer} {offset size : ℕ}
    (hab : Torn a b offset src size) :
    blit b offset src size = blit a offset src size := by
  funext i
  by_cases hin : offset ≤ i ∧ i < offset + size
  · rw [blit_inside hin.1 hin.2, blit_inside hin.1 hin.2]
  · rw [blit_outside (by omega), blit_outside (by omega),
      hab.outside (by omega)]

theorem blit_blit (dst a b : ByteBuffer) (offset size : ℕ) :
    blit (blit dst offset a size) offset b size = blit dst offset b size := by
  funext i
  by_cases hin : offset ≤ i ∧ i < offset + size
  · rw [blit_inside hin.1 hin.2, blit_inside hin.1 hin.2]
  · rw [blit_outside (by omega), blit_outside (by omega),
      blit_outside (by omega)]

/-! ## Little-endian integers -/

def leRead16 (buf : ByteBuffer) (offset : ℕ) : UInt16 :=
  (buf offset).toUInt16 ||| ((buf (offset + 1)).toUInt16 <<< 8)

def leRead32 (buf : ByteBuffer) (offset : ℕ) : UInt32 :=
  (buf offset).toUInt32 ||| ((buf (offset + 1)).toUInt32 <<< 8) |||
    ((buf (offset + 2)).toUInt32 <<< 16) |||
    ((buf (offset + 3)).toUInt32 <<< 24)

/-- The source folds the eight bytes from the most significant one down. -/
def leRead64 (buf : ByteBuffer) (offset : ℕ) : UInt64 :=
  [7, 6, 5, 4, 3, 2, 1, 0].foldl
    (fun v i => (v <<< 8) ||| (buf (offset + i)).toUInt64) 0

def leWrite16 (buf : ByteBuffer) (offset : ℕ) (val : UInt16) : ByteBuffer :=
  let buf := setByte buf offset (val &&& 0xFF).toUInt8
  setByte buf (offset + 1) ((val >>> 8) &&& 0xFF).toUInt8

def leWrite32 (buf : ByteBuffer) (offset : ℕ) (val : UInt32) : ByteBuffer :=
  let buf := setByte buf offset (val &&& 0xFF).toUInt8
  let buf := setByte buf (offset + 1) ((val >>> 8) &&& 0xFF).toUInt8
  let buf := setByte buf (offset + 2) ((val >>> 16) &&& 0xFF).toUInt8
  setByte buf (offset + 3) ((val >>> 24) &&& 0xFF).toUInt8

/-- Byte `i` is the low byte of what is left after `i` shifts by eight. -/
def leWrite64 (buf : ByteBuffer) (offset : ℕ) (val : UInt64) : ByteBuffer :=
  ((List.range 8).foldl
    (fun (st : ByteBuffer × UInt64) i =>
      (setByte st.1 (offset + i) (st.2 &&& 0xFF).toUInt8, st.2 >>> 8))
    (buf, val)).1

theorem leRead16_congr {a b : ByteBuffer} {i j : ℕ}
    (h : ∀ k < 2, a (i + k) = b (j + k)) : leRead16 a i = leRead16 b j := by
  have h0 := h 0 (by omega)
  have h1 := h 1 (by omega)
  simp only [Nat.add_zero] at h0
  simp only [leRead16, h0, h1]

theorem leRead32_congr {a b : ByteBuffer} {i j : ℕ}
    (h : ∀ k < 4, a (i + k) = b (j + k)) : leRead32 a i = leRead32 b j := by
  have h0 := h 0 (by omega)
  have h1 := h 1 (by omega)
  have h2 := h 2 (by omega)
  have h3 := h 3 (by omega)
  simp only [Nat.add_zero] at h0
  simp only [leRead32, h0, h1, h2, h3]

theorem leRead64_congr {a b : ByteBuffer} {i j : ℕ}
    (h : ∀ k < 8, a (i + k) = b (j + k)) : leRead64 a i = leRead64 b j := by
  simp only [leRead64, List.foldl_cons, List.foldl_nil]
  rw [h 0 (by omega), h 1 (by omega), h 2 (by omega), h 3 (by omega),
    h 4 (by omega), h 5 (by omega), h 6 (by omega), h 7 (by omega)]

/-! ### The bytes a write leaves behind -/

theorem leWrite16_outside {buf : ByteBuffer} {offset i : ℕ} {val : UInt16}
    (h : i < offset ∨ offset + 2 ≤ i) : leWrite16 buf offset val i = buf i := by
  simp (disch := omega) only [leWrite16, setByte_of_ne]

theorem leWrite32_outside {buf : ByteBuffer} {offset i : ℕ} {val : UInt32}
    (h : i < offset ∨ offset + 4 ≤ i) : leWrite32 buf offset val i = buf i := by
  simp (disch := omega) only [leWrite32, setByte_of_ne]

theorem leWrite64_outside {buf : ByteBuffer} {offset i : ℕ} {val : UInt64}
    (h : i < offset ∨ offset + 8 ≤ i) : leWrite64 buf offset val i = buf i := by
  have hrange : List.range 8 = [0, 1, 2, 3, 4, 5, 6, 7] := rfl
  simp (disch := omega) only [leWrite64, hrange, List.foldl_cons, List.foldl_nil,
    setByte_of_ne]

/-- Joining disjoint bytes with `|||` is adding them. -/
theorem or_shiftLeft_eq_add {a b k : ℕ} (ha : a < 2 ^ k) :
    a ||| (b <<< k) = a + b * 2 ^ k := by
  rw [Nat.lor_comm, ← Nat.shiftLeft_add_eq_or_of_lt ha, Nat.shiftLeft_eq]
  omega

/-! ### Reading past a write elsewhere -/

section Disjoint

variable {buf : ByteBuffer} {o p : ℕ}

theorem leRead16_setByte_of_disjoint {v : UInt8} (h : p < o ∨ o + 2 ≤ p) :
    leRead16 (setByte buf p v) o = leRead16 buf o :=
  leRead16_congr fun _ _ => setByte_of_ne (by omega)

theorem leRead16_leWrite16_of_disjoint {v : UInt16}
    (h : p + 2 ≤ o ∨ o + 2 ≤ p) :
    leRead16 (leWrite16 buf p v) o = leRead16 buf o :=
  leRead16_congr fun _ _ => leWrite16_outside (by omega)

theorem leRead16_leWrite32_of_disjoint {v : UInt32}
    (h : p + 4 ≤ o ∨ o + 2 ≤ p) :
    leRead16 (leWrite32 buf p v) o = leRead16 buf o :=
  leRead16_congr fun _ _ => leWrite32_outside (by omega)

theorem leRead16_leWrite64_of_disjoint {v : UInt64}
    (h : p + 8 ≤ o ∨ o + 2 ≤ p) :
    leRead16 (leWrite64 buf p v) o = leRead16 buf o :=
  leRead16_congr fun _ _ => leWrite64_outside (by omega)

theorem leRead32_setByte_of_disjoint {v : UInt8} (h : p < o ∨ o + 4 ≤ p) :
    leRead32 (setByte buf p v) o = leRead32 buf o :=
  leRead32_congr fun _ _ => setByte_of_ne (by omega)

theorem leRead32_leWrite16_of_disjoint {v : UInt16}
    (h : p + 2 ≤ o ∨ o + 4 ≤ p) :
    leRead32 (leWrite16 buf p v) o = leRead32 buf o :=
  leRead32_congr fun _ _ => leWrite16_outside (by omega)

theorem leRead32_leWrite32_of_disjoint {v : UInt32}
    (h : p + 4 ≤ o ∨ o + 4 ≤ p) :
    leRead32 (leWrite32 buf p v) o = leRead32 buf o :=
  leRead32_congr fun _ _ => leWrite32_outside (by omega)

theorem leRead32_leWrite64_of_disjoint {v : UInt64}
    (h : p + 8 ≤ o ∨ o + 4 ≤ p) :
    leRead32 (leWrite64 buf p v) o = leRead32 buf o :=
  leRead32_congr fun _ _ => leWrite64_outside (by omega)

theorem leRead64_setByte_of_disjoint {v : UInt8} (h : p < o ∨ o + 8 ≤ p) :
    leRead64 (setByte buf p v) o = leRead64 buf o :=
  leRead64_congr fun _ _ => setByte_of_ne (by omega)

theorem leRead64_leWrite16_of_disjoint {v : UInt16}
    (h : p + 2 ≤ o ∨ o + 8 ≤ p) :
    leRead64 (leWrite16 buf p v) o = leRead64 buf o :=
  leRead64_congr fun _ _ => leWrite16_outside (by omega)

theorem leRead64_leWrite32_of_disjoint {v : UInt32}
    (h : p + 4 ≤ o ∨ o + 8 ≤ p) :
    leRead64 (leWrite32 buf p v) o = leRead64 buf o :=
  leRead64_congr fun _ _ => leWrite32_outside (by omega)

theorem leRead64_leWrite64_of_disjoint {v : UInt64}
    (h : p + 8 ≤ o ∨ o + 8 ≤ p) :
    leRead64 (leWrite64 buf p v) o = leRead64 buf o :=
  leRead64_congr fun _ _ => leWrite64_outside (by omega)

end Disjoint

/-! ### Values and bytes as natural numbers -/

theorem leRead16_toNat (buf : ByteBuffer) (o : ℕ) :
    (leRead16 buf o).toNat = (buf o).toNat + 256 * (buf (o + 1)).toNat := by
  have h0 := (buf o).toNat_lt
  have h1 := (buf (o + 1)).toNat_lt
  have hs : (buf (o + 1)).toNat <<< 8 % 65536 = (buf (o + 1)).toNat <<< 8 := by
    rw [Nat.shiftLeft_eq]; omega
  have hor := or_shiftLeft_eq_add (b := (buf (o + 1)).toNat) h0
  simp only [leRead16, UInt16.toNat_or, UInt16.toNat_shiftLeft,
    UInt8.toNat_toUInt16, UInt16.reduceToNat, Nat.reduceMod, Nat.reducePow]
  rw [hs, hor]
  omega

theorem leRead32_toNat (buf : ByteBuffer) (o : ℕ) :
    (leRead32 buf o).toNat =
      (buf o).toNat + 256 * ((buf (o + 1)).toNat +
        256 * ((buf (o + 2)).toNat + 256 * (buf (o + 3)).toNat)) := by
  have h0 := (buf o).toNat_lt
  have h1 := (buf (o + 1)).toNat_lt
  have h2 := (buf (o + 2)).toNat_lt
  have h3 := (buf (o + 3)).toNat_lt
  have s1 : (buf (o + 1)).toNat <<< 8 % 4294967296 = (buf (o + 1)).toNat <<< 8 := by
    rw [Nat.shiftLeft_eq]; omega
  have s2 : (buf (o + 2)).toNat <<< 16 % 4294967296 = (buf (o + 2)).toNat <<< 16 := by
    rw [Nat.shiftLeft_eq]; omega
  have s3 : (buf (o + 3)).toNat <<< 24 % 4294967296 = (buf (o + 3)).toNat <<< 24 := by
    rw [Nat.shiftLeft_eq]; omega
  simp only [leRead32, UInt32.toNat_or, UInt32.toNat_shiftLeft,
    UInt8.toNat_toUInt32, UInt32.reduceToNat, Nat.reduceMod, Nat.reducePow]
  rw [s1, s2, s3, or_shiftLeft_eq_add (k := 8) (by omega),
    or_shiftLeft_eq_add (k := 16) (by omega), or_shiftLeft_eq_add (k := 24) (by omega)]
  omega

theorem shift_or_toNat (v : UInt64) (b : UInt8) (h : v.toNat < 72057594037927936) :
    ((v <<< 8) ||| b.toUInt64).toNat = b.toNat + 256 * v.toNat := by
  have hb := b.toNat_lt
  have hs : v.toNat <<< 8 % 18446744073709551616 = v.toNat <<< 8 := by
    rw [Nat.shiftLeft_eq]; omega
  simp only [UInt64.toNat_or, UInt64.toNat_shiftLeft, UInt8.toNat_toUInt64,
    UInt64.reduceToNat, Nat.reduceMod, Nat.reducePow]
  rw [hs, Nat.lor_comm, or_shiftLeft_eq_add hb]
  omega

/-- Extending a little-endian value by one low byte. -/
theorem digit_lt {a b M : ℕ} (ha : a < 256) (hb : b < M) :
    a + 256 * b < 256 * M := by
  omega

theorem leRead64_toNat (buf : ByteBuffer) (o : ℕ) :
    (leRead64 buf o).toNat =
      (buf o).toNat + 256 * ((buf (o + 1)).toNat +
        256 * ((buf (o + 2)).toNat + 256 * ((buf (o + 3)).toNat +
        256 * ((buf (o + 4)).toNat + 256 * ((buf (o + 5)).toNat +
        256 * ((buf (o + 6)).toNat + 256 * (buf (o + 7)).toNat)))))) := by
  have b7 : (buf (o + 7)).toNat < 256 := (buf (o + 7)).toNat_lt
  have b6 := digit_lt (buf (o + 6)).toNat_lt b7
  have b5 := digit_lt (buf (o + 5)).toNat_lt b6
  have b4 := digit_lt (buf (o + 4)).toNat_lt b5
  have b3 := digit_lt (buf (o + 3)).toNat_lt b4
  have b2 := digit_lt (buf (o + 2)).toNat_lt b3
  have b1 := digit_lt (buf (o + 1)).toNat_lt b2
  -- each round of the source's loop shifts the value read so far by one byte
  have e7 : ((0 : UInt64) <<< 8 ||| (buf (o + 7)).toUInt64).toNat =
      (buf (o + 7)).toNat := by
    rw [shift_or_toNat 0 _ (by decide)]
    rfl
  have e6 := shift_or_toNat _ (buf (o + 6)) (by rw [e7]; exact b7.trans (by decide))
  rw [e7] at e6
  have e5 := shift_or_toNat _ (buf (o + 5)) (by rw [e6]; exact b6.trans (by decide))
  rw [e6] at e5
  have e4 := shift_or_toNat _ (buf (o + 4)) (by rw [e5]; exact b5.trans (by decide))
  rw [e5] at e4
  have e3 := shift_or_toNat _ (buf (o + 3)) (by rw [e4]; exact b4.trans (by decide))
  rw [e4] at e3
  have e2 := shift_or_toNat _ (buf (o + 2)) (by rw [e3]; exact b3.trans (by decide))
  rw [e3] at e2
  have e1 := shift_or_toNat _ (buf (o + 1)) (by rw [e2]; exact b2.trans (by decide))
  rw [e2] at e1
  have e0 := shift_or_toNat _ (buf o) (by rw [e1]; exact b1.trans_le (by decide))
  rw [e1] at e0
  simpa only [leRead64, List.foldl_cons, List.foldl_nil, Nat.add_zero] using e0

theorem and_255 (n : ℕ) : n &&& 255 = n % 256 :=
  Nat.and_two_pow_sub_one_eq_mod n 8

theorem leWrite16_toNat (buf : ByteBuffer) (o : ℕ) (v : UInt16) {k : ℕ}
    (h : k < 2) :
    (leWrite16 buf o v (o + k)).toNat = v.toNat / 256 ^ k % 256 := by
  interval_cases k <;>
    simp (disch := omega) [leWrite16, setByte_of_ne, and_255, Nat.shiftRight_eq_div_pow]

theorem leWrite32_toNat (buf : ByteBuffer) (o : ℕ) (v : UInt32) {k : ℕ}
    (h : k < 4) :
    (leWrite32 buf o v (o + k)).toNat = v.toNat / 256 ^ k % 256 := by
  interval_cases k <;>
    simp (disch := omega) [leWrite32, setByte_of_ne, and_255, Nat.shiftRight_eq_div_pow]

theorem leWrite64_toNat (buf : ByteBuffer) (o : ℕ) (v : UInt64) {k : ℕ}
    (h : k < 8) :
    (leWrite64 buf o v (o + k)).toNat = v.toNat / 256 ^ k % 256 := by
  have hrange : List.range 8 = [0, 1, 2, 3, 4, 5, 6, 7] := rfl
  interval_cases k <;>
    simp (disch := omega) [leWrite64, hrange, setByte_of_ne, and_255,
      Nat.shiftRight_eq_div_pow, Nat.div_div_eq_div_mul]

/-! ### Round trips -/

theorem leRead32_leWrite32 (buf : ByteBuffer) (o : ℕ) (v : UInt32) :
    leRead32 (leWrite32 buf o v) o = v := by
  apply UInt32.toNat.inj
  have hv := v.toNat_lt
  have e0 := leWrite32_toNat buf o v (show 0 < 4 by omega)
  have e1 := leWrite32_toNat buf o v (show 1 < 4 by omega)
  have e2 := leWrite32_toNat buf o v (show 2 < 4 by omega)
  have e3 := leWrite32_toNat buf o v (show 3 < 4 by omega)
  norm_num at e0 e1 e2 e3 hv
  rw [leRead32_toNat, e0, e1, e2, e3]
  omega

theorem leRead16_leWrite16 (buf : ByteBuffer) (o : ℕ) (v : UInt16) :
    leRead16 (leWrite16 buf o v) o = v := by
  apply UInt16.toNat.inj
  have hv := v.toNat_lt
  have e0 := leWrite16_toNat buf o v (show 0 < 2 by omega)
  have e1 := leWrite16_toNat buf o v (show 1 < 2 by omega)
  norm_num at e0 e1 hv
  rw [leRead16_toNat, e0, e1]
  omega

theorem leRead64_leWrite64 (buf : ByteBuffer) (o : ℕ) (v : UInt64) :
    leRead64 (leWrite64 buf o v) o = v := by
  apply UInt64.toNat.inj
  have hv := v.toNat_lt
  have e0 := leWrite64_toNat buf o v (show 0 < 8 by omega)
  have e1 := leWrite64_toNat buf o v (show 1 < 8 by omega)
  have e2 := leWrite64_toNat buf o v (show 2 < 8 by omega)
  have e3 := leWrite64_toNat buf o v (show 3 < 8 by omega)
  have e4 := leWrite64_toNat buf o v (show 4 < 8 by omega)
  have e5 := leWrite64_toNat buf o v (show 5 < 8 by omega)
  have e6 := leWrite64_toNat buf o v (show 6 < 8 by omega)
  have e7 := leWrite64_toNat buf o v (show 7 < 8 by omega)
  norm_num at e0 e1 e2 e3 e4 e5 e6 e7 hv
  rw [leRead64_toNat, e0, e1, e2, e3, e4, e5, e6, e7]
  omega

/-! ### A value determines its bytes -/

theorem leRead16_inj {a b : ByteBuffer} {i j : ℕ}
    (h : leRead16 a i = leRead16 b j) {k : ℕ} (hk : k < 2) :
    a (i + k) = b (j + k) := by
  apply UInt8.toNat.inj
  have hsum := congrArg UInt16.toNat h
  rw [leRead16_toNat, leRead16_toNat] at hsum
  have a0 := (a i).toNat_lt
  have b0 := (b j).toNat_lt
  interval_cases k <;> (try rw [Nat.add_zero, Nat.add_zero]) <;> omega

theorem leRead32_inj {a b : ByteBuffer} {i j : ℕ}
    (h : leRead32 a i = leRead32 b j) {k : ℕ} (hk : k < 4) :
    a (i + k) = b (j + k) := by
  apply UInt8.toNat.inj
  have hsum := congrArg UInt32.toNat h
  rw [leRead32_toNat, leRead32_toNat] at hsum
  have a0 := (a i).toNat_lt
  have a1 := (a (i + 1)).toNat_lt
  have a2 := (a (i + 2)).toNat_lt
  have b0 := (b j).toNat_lt
  have b1 := (b (j + 1)).toNat_lt
  have b2 := (b (j + 2)).toNat_lt
  interval_cases k <;> (try rw [Nat.add_zero, Nat.add_zero]) <;> omega

theorem leRead64_inj {a b : ByteBuffer} {i j : ℕ}
    (h : leRead64 a i = leRead64 b j) {k : ℕ} (hk : k < 8) :
    a (i + k) = b (j + k) := by
  apply UInt8.toNat.inj
  have hsum := congrArg UInt64.toNat h
  rw [leRead64_toNat, leRead64_toNat] at hsum
  have a0 := (a i).toNat_lt
  have a1 := (a (i + 1)).toNat_lt
  have a2 := (a (i + 2)).toNat_lt
  have a3 := (a (i + 3)).toNat_lt
  have a4 := (a (i + 4)).toNat_lt
  have a5 := (a (i + 5)).toNat_lt
  have a6 := (a (i + 6)).toNat_lt
  have b0 := (b j).toNat_lt
  have b1 := (b (j + 1)).toNat_lt
  have b2 := (b (j + 2)).toNat_lt
  have b3 := (b (j + 3)).toNat_lt
  have b4 := (b (j + 4)).toNat_lt
  have b5 := (b (j + 5)).toNat_lt
  have b6 := (b (j + 6)).toNat_lt
  interval_cases k <;> (try rw [Nat.add_zero, Nat.add_zero]) <;> omega

section SameOffset

variable {a b : ByteBuffer} {o i : ℕ}

theorem eq_of_leRead16_eq (h : leRead16 a o = leRead16 b o) (hlo : o ≤ i)
    (hhi : i < o + 2) : a i = b i := by
  obtain ⟨k, rfl⟩ := Nat.exists_eq_add_of_le hlo
  exact leRead16_inj h (by omega)

theorem eq_of_leRead32_eq (h : leRead32 a o = leRead32 b o) (hlo : o ≤ i)
    (hhi : i < o + 4) : a i = b i := by
  obtain ⟨k, rfl⟩ := Nat.exists_eq_add_of_le hlo
  exact leRead32_inj h (by omega)

theorem eq_of_leRead64_eq (h : leRead64 a o = leRead64 b o) (hlo : o ≤ i)
    (hhi : i < o + 8) : a i = b i := by
  obtain ⟨k, rfl⟩ := Nat.exists_eq_add_of_le hlo
  exact leRead64_inj h (by omega)

end SameOffset

end ByteBuffers
