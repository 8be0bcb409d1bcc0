import Swfpm.AutoCal.Grid

/-!
# What a stage leaves alone

The bits of the registers that belong to the fields of a stage.  A candidate
that a stage builds from a valid base profile is the base outside these bits.
-/

namespace Swfpm.AutoCal

/-- Some bits of the registers that are tuned. -/
structure RegisterBits where
  tof1 : UInt16 := 0
  tof2 : UInt16 := 0
  tof3 : UInt16 := 0
  tof4 : UInt16 := 0
  tof5 : UInt16 := 0
  tof6 : UInt16 := 0
  tof7 : UInt16 := 0
  tofMeasurementDelay : UInt16 := 0

/-- The profile with these bits cleared. -/
def RegisterBits.clear (bits : RegisterBits) (profile : Max35103Profile) :
    Max35103Profile :=
  { profile with
    tof1 := profile.tof1 &&& ~~~bits.tof1
    tof2 := profile.tof2 &&& ~~~bits.tof2
    tof3 := profile.tof3 &&& ~~~bits.tof3
    tof4 := profile.tof4 &&& ~~~bits.tof4
    tof5 := profile.tof5 &&& ~~~bits.tof5
    tof6 := profile.tof6 &&& ~~~bits.tof6
    tof7 := profile.tof7 &&& ~~~bits.tof7
    tofMeasurementDelay := profile.tofMeasurementDelay &&&
      ~~~bits.tofMeasurementDelay }

/-- T2, the stop code and the hit waves after T2. -/
def waveBits : RegisterBits :=
  { tof2 := 0xFF80, tof3 := 0x3F3F, tof4 := 0x3F3F, tof5 := 0x3F3F }

/-- The bits of the fields that a stage owns. -/
def ownedBits : Max35103AutoCalState → RegisterBits
  | .discovery =>
      { waveBits with tof1 := 0xFFFB, tofMeasurementDelay := 0xFFFF }
  | .biasCharge => { tof1 := 0x0003 }
  | .dlyFine => { tofMeasurementDelay := 0xFFFF }
  | .offsetUpCoarse | .offsetUpFine => { tof6 := 0x007F }
  | .offsetDownCoarse | .offsetDownFine => { tof7 := 0x007F }
  | .waveSelect => waveBits
  | .returnUp => { tof6 := 0xFF00 }
  | .returnDown => { tof7 := 0xFF00 }
  | _ => {}

/-- The reserved bits of the tuned registers, clear in a valid profile. -/
structure ReservedClear (profile : Max35103Profile) : Prop where
  tof1 : profile.tof1 &&& 0x0004 = 0
  tof2 : profile.tof2 &&& 0x0008 = 0
  tof3 : profile.tof3 &&& 0xC0C0 = 0
  tof4 : profile.tof4 &&& 0xC0C0 = 0
  tof5 : profile.tof5 &&& 0xC0C0 = 0
  tof6 : profile.tof6 &&& 0x0080 = 0
  tof7 : profile.tof7 &&& 0x0080 = 0

/-- What a stage makes of its base profile. -/
structure Tunes (state : Max35103AutoCalState)
    (base candidate : Max35103Profile) : Prop where
  outside : ReservedClear base →
    (ownedBits state).clear candidate = (ownedBits state).clear base
  hits : owns state .t2Wave = true → ∀ hit < 6,
    (profileHitWave candidate hit).toNat =
      (profileT2 candidate).toNat + hit + 1

/-! ## Masks as digits -/

theorem and_field_eq (w lo len : ℕ) :
    w &&& ((2 ^ len - 1) <<< lo) = w / 2 ^ lo % 2 ^ len * 2 ^ lo := by
  refine Nat.eq_of_testBit_eq fun i ↦ ?_
  rw [Nat.testBit_and, Nat.testBit_shiftLeft, Nat.testBit_two_pow_sub_one,
    Nat.testBit_mul_two_pow, Nat.testBit_mod_two_pow, Nat.testBit_div_two_pow]
  by_cases hi : lo ≤ i
  · rw [Nat.sub_add_cancel hi]
    simp [hi, Bool.and_comm]
  · simp [hi]

/-- Words agree outside a mask if they agree in the digits that it leaves. -/
theorem keep_eq {w w' mask : UInt16} (lo len : ℕ)
    (hmask : (~~~mask).toNat = (2 ^ len - 1) <<< lo)
    (hdigits : w.toNat / 2 ^ lo % 2 ^ len = w'.toNat / 2 ^ lo % 2 ^ len) :
    w &&& ~~~mask = w' &&& ~~~mask := by
  rw [← UInt16.toNat_inj, UInt16.toNat_and, UInt16.toNat_and, hmask,
    and_field_eq, and_field_eq, hdigits]

theorem and_bit_eq_zero_iff (w : UInt16) {mask : UInt16} (i : ℕ)
    (hmask : mask.toNat = 2 ^ i) : w &&& mask = 0 ↔ w.toNat / 2 ^ i % 2 = 0 := by
  rw [← UInt16.toNat_inj, UInt16.toNat_and, hmask, and_bit_eq, UInt16.toNat_zero,
    Nat.mul_eq_zero]
  have hpositive : ¬ 2 ^ i = 0 := by positivity
  exact ⟨fun h ↦ h.resolve_left hpositive, .inr⟩

theorem or_and_eq_zero {a b mask : UInt16} (hzero : (a ||| b) &&& mask = 0) :
    a &&& mask = 0 ∧ b &&& mask = 0 := by
  have hnat := UInt16.toNat_inj.mpr hzero
  rw [UInt16.toNat_and, UInt16.toNat_or, Nat.and_or_distrib_right,
    UInt16.toNat_zero, Nat.or_eq_zero_iff] at hnat
  rw [← UInt16.toNat_inj, ← UInt16.toNat_inj, UInt16.toNat_and, UInt16.toNat_and]
  exact hnat

/-- A hit word of two waves has its reserved bits clear. -/
theorem wavePair_reserved {word : UInt16} {first second : ℕ}
    (hword : word.toNat = first * 256 + second) (hfirst : first < 64)
    (hsecond : second < 64) : word &&& 0xC0C0 = 0 := by
  have hhigh : word.toNat &&& (2 ^ 2 - 1) <<< 14 = 0 := by
    rw [and_field_eq, hword]
    omega
  have hlow : word.toNat &&& (2 ^ 2 - 1) <<< 6 = 0 := by
    rw [and_field_eq, hword]
    omega
  rw [← UInt16.toNat_inj, UInt16.toNat_and]
  change word.toNat &&& ((2 ^ 2 - 1) <<< 14 ||| (2 ^ 2 - 1) <<< 6) = 0
  rw [Nat.and_or_distrib_left, hhigh, hlow]
  rfl

theorem reservedClear_of_valid {profile : Max35103Profile}
    (hvalid : validateProfile profile = .ok) : ReservedClear profile := by
  simp only [validateProfile] at hvalid
  split at hvalid
  · cases hvalid
  split at hvalid
  · cases hvalid
  next hfields =>
  simp only [not_or, not_not] at hfields
  obtain ⟨-, -, -, -, htof1, htof2, hhits, hoffsets, -⟩ := hfields
  obtain ⟨hfirst, htof5⟩ := or_and_eq_zero hhits
  obtain ⟨htof3, htof4⟩ := or_and_eq_zero hfirst
  obtain ⟨htof6, htof7⟩ := or_and_eq_zero hoffsets
  exact ⟨htof1, htof2, htof3, htof4, htof5, htof6, htof7⟩

/-! ## Writers -/

section Writers

variable {profile : Max35103Profile}

theorem ReservedClear.launch (hreserved : ReservedClear profile) :
    profile.tof1.toNat / 4 % 2 = 0 :=
  (and_bit_eq_zero_iff profile.tof1 2 rfl).mp hreserved.tof1

/-- What a wave sequence preserves is all below the T2 wave. -/
theorem ReservedClear.preserved (hreserved : ReservedClear profile) :
    profile.tof2.toNat &&& 0x0077 = profile.tof2.toNat % 128 := by
  have hbit : profile.tof2.toNat &&& 8 = 0 := by
    rw [show 8 = 2 ^ 3 from rfl, and_bit_eq,
      (and_bit_eq_zero_iff profile.tof2 3 rfl).mp hreserved.tof2, Nat.mul_zero]
  have hlow := and_low_eq profile.tof2.toNat 7
  change profile.tof2.toNat &&& (0x0077 ||| 8) = _ at hlow
  rw [Nat.and_or_distrib_left, hbit, Nat.or_zero] at hlow
  exact hlow

theorem clear_tof6 {bits : RegisterBits} {word : UInt16}
    (hkept : word &&& ~~~bits.tof6 = profile.tof6 &&& ~~~bits.tof6) :
    bits.clear { profile with tof6 := word } = bits.clear profile :=
  congrArg (fun word ↦ { bits.clear profile with tof6 := word }) hkept

theorem clear_tof7 {bits : RegisterBits} {word : UInt16}
    (hkept : word &&& ~~~bits.tof7 = profile.tof7 &&& ~~~bits.tof7) :
    bits.clear { profile with tof7 := word } = bits.clear profile :=
  congrArg (fun word ↦ { bits.clear profile with tof7 := word }) hkept

/-- The charge time is the low end of the launch word. -/
theorem clear_setCharge (hreserved : ReservedClear profile) (ct : UInt8) :
    (ownedBits .biasCharge).clear (setLaunch profile (profileDpl profile)
        (profilePulseCount profile) ct (profileStopPolarity profile)) =
      (ownedBits .biasCharge).clear profile := by
  have hbit := hreserved.launch
  have hpolarity : (profileStopPolarity profile).toNat =
      profile.tof1.toNat / 8 % 2 := by
    rw [profileStopPolarity_eq]
    rcases Nat.mod_two_eq_zero_or_one (profile.tof1.toNat / 8) with hbit | hbit
    · rw [hbit]
      rfl
    · rw [hbit]
      rfl
  have hkept : (setLaunch profile (profileDpl profile)
      (profilePulseCount profile) ct (profileStopPolarity profile)).tof1 &&&
        ~~~0x0003 = profile.tof1 &&& ~~~0x0003 := by
    refine keep_eq 2 14 rfl ?_
    rw [setLaunch_tof1, profileDpl_toNat, profilePulseCount_toNat, hpolarity]
    omega
  exact congrArg (fun word ↦
    { (ownedBits .biasCharge).clear profile with tof1 := word }) hkept

theorem clear_setDelay (delay : UInt16) :
    (ownedBits .dlyFine).clear { profile with tofMeasurementDelay := delay } =
      (ownedBits .dlyFine).clear profile := by
  have hkept : delay &&& ~~~0xFFFF =
      profile.tofMeasurementDelay &&& ~~~0xFFFF :=
    keep_eq 0 0 rfl (by rw [Nat.pow_zero, Nat.mod_one, Nat.mod_one])
  exact congrArg (fun word ↦ { (ownedBits .dlyFine).clear profile with
    tofMeasurementDelay := word }) hkept

/-- The initial offset is the low end of an offset word. -/
theorem keep_initialOffset {word : UInt16} (hreserved : word &&& 0x0080 = 0)
    (offset : UInt8) :
    offsetWord (profileReturnOffset word) offset &&& ~~~0x007F =
      word &&& ~~~0x007F := by
  have hbit := (and_bit_eq_zero_iff word 7 rfl).mp hreserved
  have hbyte : (profileReturnOffset word).toUInt8.toNat = word.toNat / 256 :=
    highByte_toNat word
  refine keep_eq 7 9 rfl ?_
  rw [offsetWord_toNat, hbyte]
  omega

/-- The return offset is the high end of an offset word. -/
theorem keep_returnOffset {word : UInt16} (hreserved : word &&& 0x0080 = 0)
    (offset : Int8) :
    offsetWord offset (profileInitialOffset word) &&& ~~~0xFF00 =
      word &&& ~~~0xFF00 := by
  have hbit := (and_bit_eq_zero_iff word 7 rfl).mp hreserved
  refine keep_eq 0 8 rfl ?_
  rw [offsetWord_toNat, profileInitialOffset_toNat]
  omega

section WaveSequence

variable {t2Wave hitCount : UInt8}

theorem clear_waveBits (hreserved : ReservedClear profile) (hearly : 2 ≤ t2Wave)
    (hlate : t2Wave ≤ 57) (hfew : 1 ≤ hitCount) (hmany : hitCount ≤ 6) :
    waveBits.clear (setWaveSequence profile t2Wave hitCount) =
      waveBits.clear profile := by
  have hlast := UInt8.le_iff_toNat_le.mp hlate
  change t2Wave.toNat ≤ 57 at hlast
  obtain ⟨htof3, htof4, htof5⟩ :=
    setWaveSequence_hitWords profile hearly hlate hfew hmany
  have hkept2 : (setWaveSequence profile t2Wave hitCount).tof2 &&& ~~~0xFF80 =
      profile.tof2 &&& ~~~0xFF80 := by
    refine keep_eq 0 7 rfl ?_
    have hpreserved := hreserved.preserved
    rw [setWaveSequence_tof2 profile hearly hlate hfew hmany, hpreserved]
    omega
  have hkept3 : (setWaveSequence profile t2Wave hitCount).tof3 &&& ~~~0x3F3F =
      profile.tof3 &&& ~~~0x3F3F :=
    (wavePair_reserved htof3 (by omega) (by omega)).trans hreserved.tof3.symm
  have hkept4 : (setWaveSequence profile t2Wave hitCount).tof4 &&& ~~~0x3F3F =
      profile.tof4 &&& ~~~0x3F3F :=
    (wavePair_reserved htof4 (by omega) (by omega)).trans hreserved.tof4.symm
  have hkept5 : (setWaveSequence profile t2Wave hitCount).tof5 &&& ~~~0x3F3F =
      profile.tof5 &&& ~~~0x3F3F :=
    (wavePair_reserved htof5 (by omega) (by omega)).trans hreserved.tof5.symm
  calc waveBits.clear (setWaveSequence profile t2Wave hitCount)
      = { waveBits.clear profile with
          tof2 := (setWaveSequence profile t2Wave hitCount).tof2 &&& ~~~0xFF80
          tof3 := (setWaveSequence profile t2Wave hitCount).tof3 &&& ~~~0x3F3F
          tof4 := (setWaveSequence profile t2Wave hitCount).tof4 &&& ~~~0x3F3F
          tof5 := (setWaveSequence profile t2Wave hitCount).tof5 &&& ~~~0x3F3F } :=
        rfl
    _ = waveBits.clear profile := by
        rw [hkept2, hkept3, hkept4, hkept5]
        rfl

theorem clear_launched (hreserved : ReservedClear profile)
    (dpl pulses ct : UInt8) (polarity : Bool) (delay : UInt16)
    (hearly : 2 ≤ t2Wave) (hlate : t2Wave ≤ 57) (hfew : 1 ≤ hitCount)
    (hmany : hitCount ≤ 6) :
    (ownedBits .discovery).clear
        (setWaveSequence { setLaunch profile dpl pulses ct polarity with
          tofMeasurementDelay := delay } t2Wave hitCount) =
      (ownedBits .discovery).clear profile := by
  have hwaves := clear_waveBits hreserved hearly hlate hfew hmany
  have hlaunch : (setLaunch profile dpl pulses ct polarity).tof1 &&& ~~~0xFFFB =
      profile.tof1 &&& ~~~0xFFFB := by
    refine keep_eq 2 1 rfl ?_
    have hbit := hreserved.launch
    have hpolarity := polarity.toNat_lt
    rw [setLaunch_tof1]
    omega
  have hdelay : delay &&& ~~~0xFFFF =
      profile.tofMeasurementDelay &&& ~~~0xFFFF :=
    keep_eq 0 0 rfl (by rw [Nat.pow_zero, Nat.mod_one, Nat.mod_one])
  calc (ownedBits .discovery).clear
        (setWaveSequence { setLaunch profile dpl pulses ct polarity with
          tofMeasurementDelay := delay } t2Wave hitCount)
      = { waveBits.clear (setWaveSequence profile t2Wave hitCount) with
          tof1 := (setLaunch profile dpl pulses ct polarity).tof1 &&& ~~~0xFFFB
          tofMeasurementDelay := delay &&& ~~~0xFFFF } := rfl
    _ = (ownedBits .discovery).clear profile := by
        rw [hwaves, hlaunch, hdelay]
        rfl

theorem hits_setWaveSequence (hearly : 2 ≤ t2Wave) (hlate : t2Wave ≤ 57)
    (hfew : 1 ≤ hitCount) (hmany : hitCount ≤ 6) {hit : ℕ} (hhit : hit < 6) :
    (profileHitWave (setWaveSequence profile t2Wave hitCount) hit).toNat =
      (profileT2 (setWaveSequence profile t2Wave hitCount)).toNat + hit + 1 := by
  rw [profileHitWave_setWaveSequence profile hearly hlate hfew hmany hhit,
    profileT2_setWaveSequence profile hearly hlate hfew hmany]

end WaveSequence

end Writers

end Swfpm.AutoCal
