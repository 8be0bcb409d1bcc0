import Mathlib

/-!
# Reflected cyclic redundancy checks

The bit-serial register of a reflected CRC of any width.  One round shifts the
register right by one bit and adds the polynomial when a one falls out.  Rounds
are linear, and they are injective as soon as the polynomial has its top bit
set.
-/

namespace Crc

variable {w : ℕ}

/-- One round of the register. -/
def round (poly x : BitVec w) : BitVec w :=
  (x >>> 1) ^^^ (if x.getLsbD 0 then poly else 0#w)

/-- Several rounds. -/
def rounds (poly : BitVec w) (n : ℕ) (x : BitVec w) : BitVec w :=
  (round poly)^[n] x

variable (poly : BitVec w)

theorem round_xor (x y : BitVec w) :
    round poly (x ^^^ y) = round poly x ^^^ round poly y := by
  have hout := BitVec.getLsbD_xor (x := x) (y := y) (i := 0)
  simp only [round, hout, BitVec.ushiftRight_xor_distrib]
  by_cases hx : x.getLsbD 0 = true <;> by_cases hy : y.getLsbD 0 = true
  · -- both bits fall out, and the polynomial cancels
    simp only [hx, hy, Bool.xor_self, Bool.false_eq_true, if_false, if_true]
    ext i hi
    cases hbit : poly[i] <;> simp [hbit]
  · simp only [hx, hy, Bool.xor_false, Bool.false_eq_true, if_false, if_true,
      BitVec.xor_zero]
    ac_rfl
  · simp only [hx, hy, Bool.false_xor, Bool.false_eq_true, if_false, if_true,
      BitVec.xor_zero]
    ac_rfl
  · simp only [hx, hy, Bool.xor_self, Bool.false_eq_true, if_false,
      BitVec.xor_zero]

theorem rounds_xor (n : ℕ) (x y : BitVec w) :
    rounds poly n (x ^^^ y) = rounds poly n x ^^^ rounds poly n y := by
  induction n generalizing x y with
  | zero => rfl
  | succ n ih =>
      simp only [rounds, Function.iterate_succ_apply] at ih ⊢
      rw [round_xor, ih]

theorem rounds_add (m n : ℕ) (x : BitVec w) :
    rounds poly (m + n) x = rounds poly m (rounds poly n x) :=
  Function.iterate_add_apply _ m n x

/-- Without a one among the low bits, rounds only shift. -/
theorem rounds_of_low_zero (n : ℕ) (x : BitVec w)
    (hlow : ∀ i < n, x.getLsbD i = false) : rounds poly n x = x >>> n := by
  induction n generalizing x with
  | zero => simp [rounds]
  | succ n ih =>
      have hround : round poly x = x >>> 1 := by
        simp [round, hlow 0 n.succ_pos]
      have hshift : ∀ i < n, (x >>> 1).getLsbD i = false := by
        intro i hi
        rw [BitVec.getLsbD_ushiftRight]
        exact hlow (1 + i) (by omega)
      calc rounds poly (n + 1) x
          = rounds poly n (x >>> 1) := by
            rw [rounds, Function.iterate_succ_apply, hround, rounds]
        _ = x >>> 1 >>> n := ih _ hshift
        _ = x >>> (n + 1) := by rw [← BitVec.shiftRight_add, Nat.add_comm]

theorem round_eq_zero {poly x : BitVec w} (hpoly : poly.msb = true)
    (h : round poly x = 0#w) : x = 0#w := by
  have hw : 0 < w := by
    by_contra hzero
    obtain rfl : w = 0 := by omega
    simp [BitVec.msb, BitVec.getMsbD] at hpoly
  have hbit : ∀ i < w, (round poly x).getLsbD i = false := by simp [h]
  -- the top bit of the result is the bit that fell out
  have hout : x.getLsbD 0 = false := by
    have htop := hbit (w - 1) (by omega)
    rw [BitVec.msb_eq_getLsbD_last] at hpoly
    cases hlow : x.getLsbD 0 with
    | false => rfl
    | true =>
        rw [round, hlow, if_pos rfl, BitVec.getLsbD_xor,
          BitVec.getLsbD_ushiftRight, hpoly,
          BitVec.getLsbD_of_ge x (1 + (w - 1)) (by omega)] at htop
        cases htop
  apply BitVec.eq_of_getLsbD_eq
  intro i hi
  rw [BitVec.getLsbD_zero]
  cases i with
  | zero => exact hout
  | succ i =>
      have hi' := hbit i (by omega)
      rw [round, hout, if_neg (by decide), BitVec.getLsbD_xor,
        BitVec.getLsbD_ushiftRight, Nat.add_comm] at hi'
      simpa using hi'

theorem round_injective {poly : BitVec w} (hpoly : poly.msb = true) :
    Function.Injective (round poly) := by
  intro x y h
  have hzero : round poly (x ^^^ y) = 0#w := by
    rw [round_xor, h, BitVec.xor_self]
  exact BitVec.xor_eq_zero_iff.mp (round_eq_zero hpoly hzero)

theorem rounds_injective {poly : BitVec w} (hpoly : poly.msb = true) (n : ℕ) :
    Function.Injective (rounds poly n) :=
  (round_injective hpoly).iterate n

/-! ## Bytes -/

/-- Absorb one byte. -/
def absorb (x : BitVec w) (byte : BitVec 8) : BitVec w :=
  rounds poly 8 (x ^^^ byte.setWidth w)

def absorbAll (x : BitVec w) (bytes : List (BitVec 8)) : BitVec w :=
  bytes.foldl (absorb poly) x

/-! ## Bit by bit -/

/-- One message bit enters the register: it is added to the bit that falls
out, and the sum decides whether the polynomial is added. -/
def shiftIn (x : BitVec w) (bit : Bool) : BitVec w :=
  (x >>> 1) ^^^ (if x.getLsbD 0 ^^ bit then poly else 0#w)

/-- The bits of a byte, in the order in which they are sent. -/
def bitsOf (byte : BitVec 8) : List Bool :=
  (List.range 8).map byte.getLsbD

/-- The register after a message has been sent bit by bit. -/
def serial (x : BitVec w) (bytes : List (BitVec 8)) : BitVec w :=
  (bytes.flatMap bitsOf).foldl (shiftIn poly) x

theorem round_xor_shiftRight (x v : BitVec w) (n : ℕ) :
    round poly (x ^^^ v >>> n) =
      shiftIn poly x (v.getLsbD n) ^^^ v >>> (n + 1) := by
  have hbit : (v >>> n).getLsbD 0 = v.getLsbD n := by
    rw [BitVec.getLsbD_ushiftRight, Nat.add_zero]
  rw [round, shiftIn, BitVec.getLsbD_xor, hbit, BitVec.ushiftRight_xor_distrib,
    BitVec.shiftRight_add]
  ac_rfl

/-- The bits that have not yet been sent are still in the register. -/
theorem rounds_xor_eq_foldl (x v : BitVec w) (n : ℕ) :
    rounds poly n (x ^^^ v) =
      ((List.range n).map v.getLsbD).foldl (shiftIn poly) x ^^^ v >>> n := by
  induction n with
  | zero => simp [rounds]
  | succ n ih =>
      calc rounds poly (n + 1) (x ^^^ v)
          = round poly (rounds poly n (x ^^^ v)) :=
            Function.iterate_succ_apply' _ n _
        _ = shiftIn poly
              (((List.range n).map v.getLsbD).foldl (shiftIn poly) x)
              (v.getLsbD n) ^^^ v >>> (n + 1) := by
            rw [ih, round_xor_shiftRight]
        _ = ((List.range (n + 1)).map v.getLsbD).foldl (shiftIn poly) x ^^^
              v >>> (n + 1) := by
            rw [List.range_succ, List.map_append, List.foldl_append]
            rfl

theorem absorb_eq_foldl (hw : 8 ≤ w) (x : BitVec w) (byte : BitVec 8) :
    absorb poly x byte = (bitsOf byte).foldl (shiftIn poly) x := by
  have hsent : byte.setWidth w >>> 8 = 0#w := by
    apply BitVec.eq_of_getLsbD_eq
    intro i _
    rw [BitVec.getLsbD_ushiftRight, BitVec.getLsbD_setWidth,
      BitVec.getLsbD_of_ge byte (8 + i) (by omega), Bool.and_false,
      BitVec.getLsbD_zero]
  have hbits : (List.range 8).map (byte.setWidth w).getLsbD = bitsOf byte := by
    apply List.map_congr_left
    intro i hi
    have hlt : i < w := (List.mem_range.mp hi).trans_le hw
    rw [BitVec.getLsbD_setWidth, decide_eq_true hlt, Bool.true_and]
  rw [absorb, rounds_xor_eq_foldl, hsent, BitVec.xor_zero, hbits]

theorem absorbAll_eq_serial (hw : 8 ≤ w) (x : BitVec w)
    (bytes : List (BitVec 8)) : absorbAll poly x bytes = serial poly x bytes := by
  induction bytes generalizing x with
  | nil => rfl
  | cons byte bytes ih =>
      have hstep : absorbAll poly x (byte :: bytes) =
          absorbAll poly (absorb poly x byte) bytes := rfl
      rw [hstep, ih, absorb_eq_foldl poly hw, serial, serial, List.flatMap_cons,
        List.foldl_append]

/-- CRC-32/ISO-HDLC. -/
def isoHdlc (bytes : List (BitVec 8)) : BitVec 32 :=
  serial 0xEDB88320#32 0xFFFFFFFF#32 bytes ^^^ 0xFFFFFFFF#32

/-- The check value of the catalogue, for the digits from 1 to 9. -/
example : isoHdlc [0x31, 0x32, 0x33, 0x34, 0x35, 0x36, 0x37, 0x38, 0x39] =
    0xCBF43926#32 := by decide +kernel

/-! ## Bursts -/

/-- The bytes as one number, the first byte lowest. -/
def word (w : ℕ) : List (BitVec 8) → BitVec w
  | [] => 0#w
  | byte :: bytes => byte.setWidth w ^^^ (word w bytes <<< 8)

theorem getLsbD_word_of_ge (bytes : List (BitVec 8)) {i : ℕ}
    (hi : 8 * bytes.length ≤ i) : (word w bytes).getLsbD i = false := by
  induction bytes generalizing i with
  | nil => simp [word]
  | cons byte bytes ih =>
      rw [List.length_cons] at hi
      rw [word, BitVec.getLsbD_xor, BitVec.getLsbD_setWidth,
        BitVec.getLsbD_shiftLeft, ih (by omega),
        BitVec.getLsbD_of_ge byte i (by omega)]
      simp

/-- The higher bytes are found again eight bits up. -/
theorem word_shift {bytes : List (BitVec 8)}
    (hfits : 8 * (bytes.length + 1) ≤ w) :
    word w bytes <<< 8 >>> 8 = word w bytes := by
  apply BitVec.eq_of_getLsbD_eq
  intro i hi
  rw [BitVec.getLsbD_ushiftRight, BitVec.getLsbD_shiftLeft]
  by_cases hw : 8 + i < w
  · simp [hw]
  · have hhigh : (word w bytes).getLsbD i = false :=
      getLsbD_word_of_ge bytes (by omega)
    simp [hw, hhigh]

theorem absorbAll_eq_rounds (x : BitVec w) (bytes : List (BitVec 8))
    (hfits : 8 * bytes.length ≤ w) :
    absorbAll poly x bytes =
      rounds poly (8 * bytes.length) (x ^^^ word w bytes) := by
  induction bytes generalizing x with
  | nil => simp [absorbAll, word, rounds]
  | cons byte bytes ih =>
      rw [List.length_cons] at hfits
      have hlow : ∀ i < 8, (word w bytes <<< 8).getLsbD i = false := by
        intro i hi
        simp [BitVec.getLsbD_shiftLeft, hi]
      calc absorbAll poly x (byte :: bytes)
          = rounds poly (8 * bytes.length)
              (rounds poly 8 (x ^^^ byte.setWidth w) ^^^ word w bytes) :=
            ih _ (by omega)
        _ = rounds poly (8 * bytes.length)
              (rounds poly 8 (x ^^^ byte.setWidth w ^^^ word w bytes <<< 8)) := by
            rw [rounds_xor poly 8 _ (word w bytes <<< 8),
              rounds_of_low_zero poly 8 _ hlow, word_shift hfits]
        _ = rounds poly (8 * (byte :: bytes).length)
              (x ^^^ word w (byte :: bytes)) := by
            rw [← rounds_add, List.length_cons, Nat.mul_succ, word,
              BitVec.xor_assoc]

theorem word_injective {u v : List (BitVec 8)} (hlength : u.length = v.length)
    (hfits : 8 * u.length ≤ w) (h : word w u = word w v) : u = v := by
  induction u generalizing v with
  | nil => exact (List.length_eq_zero_iff.mp hlength.symm).symm
  | cons a u ih =>
      obtain ⟨b, v, rfl⟩ := List.exists_cons_of_length_eq_add_one hlength.symm
      simp only [List.length_cons] at hlength hfits
      have hbit : ∀ i, (word w (a :: u)).getLsbD i =
          (word w (b :: v)).getLsbD i := fun i => by rw [h]
      simp only [word, BitVec.getLsbD_xor, BitVec.getLsbD_setWidth,
        BitVec.getLsbD_shiftLeft] at hbit
      have hbyte : a = b := by
        apply BitVec.eq_of_getLsbD_eq
        intro i hi
        have hlow := hbit i
        have hw : i < w := by omega
        simpa [hw, hi] using hlow
      have hrest : word w u = word w v := by
        apply BitVec.eq_of_getLsbD_eq
        intro i hi
        by_cases hhigh : 8 + i < w
        · have hshift := hbit (8 + i)
          rw [BitVec.getLsbD_of_ge a (8 + i) (by omega),
            BitVec.getLsbD_of_ge b (8 + i) (by omega)] at hshift
          simpa [hhigh] using hshift
        · rw [getLsbD_word_of_ge u (by omega), getLsbD_word_of_ge v (by omega)]
      rw [hbyte, ih (by omega) (by omega) hrest]

theorem absorb_injective {poly : BitVec w} (hpoly : poly.msb = true)
    (byte : BitVec 8) : Function.Injective (absorb poly · byte) := by
  intro x y h
  exact (BitVec.xor_left_inj _).mp (rounds_injective hpoly 8 h)

theorem absorbAll_injective {poly : BitVec w} (hpoly : poly.msb = true)
    (bytes : List (BitVec 8)) :
    Function.Injective (absorbAll poly · bytes) := by
  intro x y h
  induction bytes generalizing x y with
  | nil => exact h
  | cons byte bytes ih => exact absorb_injective hpoly byte (ih h)

theorem absorbAll_append (x : BitVec w) (u v : List (BitVec 8)) :
    absorbAll poly x (u ++ v) = absorbAll poly (absorbAll poly x u) v :=
  List.foldl_append

/-- Two messages that differ in a burst no longer than the register leave
different registers. -/
theorem burst_detected {poly : BitVec w} (hpoly : poly.msb = true)
    (x : BitVec w) {before u v after : List (BitVec 8)}
    (hlength : u.length = v.length) (hfits : 8 * u.length ≤ w)
    (h : absorbAll poly x (before ++ u ++ after) =
      absorbAll poly x (before ++ v ++ after)) : u = v := by
  rw [absorbAll_append poly x (before ++ u), absorbAll_append poly x (before ++ v)]
    at h
  have hburst := absorbAll_injective hpoly after h
  rw [absorbAll_append, absorbAll_append,
    absorbAll_eq_rounds poly _ u hfits,
    absorbAll_eq_rounds poly _ v (hlength ▸ hfits), ← hlength] at hburst
  have hword := rounds_injective hpoly _ hburst
  exact word_injective hlength hfits ((BitVec.xor_right_inj _).mp hword)

end Crc
