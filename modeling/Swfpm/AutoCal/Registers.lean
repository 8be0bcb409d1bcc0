import Swfpm.AutoCal.Profile

/-!
# Register fields as numbers

What the field helpers read and write, as digits of the register words.  A
writer leaves the digits of the other fields as they were.
-/

namespace Swfpm.AutoCal

/-! ## Digits of a word -/

/-- The field that a mask of `len` ones from bit `lo` on selects. -/
theorem and_shiftRight_eq (w lo len : ℕ) :
    (w &&& ((2 ^ len - 1) <<< lo)) >>> lo = w / 2 ^ lo % 2 ^ len := by
  rw [Nat.shiftRight_and_distrib, Nat.shiftLeft_shiftRight,
    Nat.and_two_pow_sub_one_eq_mod, Nat.shiftRight_eq_div_pow]

/-- Two fields side by side. -/
theorem shiftLeft_or_eq {n : ℕ} (high low : ℕ) (hlow : low < 2 ^ n) :
    high <<< n ||| low = high * 2 ^ n + low := by
  rw [← Nat.shiftLeft_add_eq_or_of_lt hlow, Nat.shiftLeft_eq]

/-- One bit of a word. -/
theorem and_bit_eq (w i : ℕ) : w &&& 2 ^ i = 2 ^ i * (w / 2 ^ i % 2) := by
  rw [Nat.and_two_pow, Nat.toNat_testBit, mul_comm]

/-- The low digits of a word are those of its low bits. -/
theorem and_low_eq (w n : ℕ) : w &&& (2 ^ n - 1) = w % 2 ^ n :=
  Nat.and_two_pow_sub_one_eq_mod w n

/-! ## The launch word -/

theorem profileDpl_toNat (profile : Max35103Profile) :
    (profileDpl profile).toNat = profile.tof1.toNat / 16 % 16 := by
  have hfield := and_shiftRight_eq profile.tof1.toNat 4 4
  rw [profileDpl, UInt16.toNat_toUInt8, UInt16.toNat_shiftRight, UInt16.toNat_and]
  change ((profile.tof1.toNat &&& ((2 ^ 4 - 1) <<< 4)) >>> 4) % 256 = _
  rw [hfield]
  omega

theorem profilePulseCount_toNat (profile : Max35103Profile) :
    (profilePulseCount profile).toNat = profile.tof1.toNat / 256 := by
  have hword := profile.tof1.toNat_lt
  rw [profilePulseCount, UInt16.toNat_toUInt8, UInt16.toNat_shiftRight]
  change (profile.tof1.toNat >>> 8) % 256 = _
  rw [Nat.shiftRight_eq_div_pow]
  omega

theorem profileStopPolarity_eq (profile : Max35103Profile) :
    profileStopPolarity profile = decide (profile.tof1.toNat / 8 % 2 = 1) := by
  have hbit := and_bit_eq profile.tof1.toNat 3
  rw [profileStopPolarity, decide_eq_decide, Ne, ← UInt16.toNat_inj,
    UInt16.toNat_and]
  change ¬ (profile.tof1.toNat &&& 2 ^ 3) = 0 ↔ _
  rw [hbit]
  omega

/-- Four fields side by side. -/
theorem launchWord_eq {pulses dpl polarity ct : ℕ} (hdpl : dpl < 16)
    (hpolarity : polarity < 2) (hct : ct < 8) :
    pulses <<< 8 ||| dpl <<< 4 ||| polarity <<< 3 ||| ct =
      pulses * 256 + dpl * 16 + polarity * 8 + ct := by
  have hlow := shiftLeft_or_eq (n := 3) polarity ct hct
  have hmiddle := shiftLeft_or_eq (n := 4) dpl (polarity * 2 ^ 3 + ct)
    (by omega)
  have hhigh := shiftLeft_or_eq (n := 8) pulses
    (dpl * 2 ^ 4 + (polarity * 2 ^ 3 + ct)) (by omega)
  rw [Nat.or_assoc, Nat.or_assoc, hlow, hmiddle, hhigh]
  omega

/-- The launch word, field by field. -/
theorem setLaunch_tof1 (profile : Max35103Profile) (dpl pulseCount ct : UInt8)
    (stopPolarity : Bool) :
    (setLaunch profile dpl pulseCount ct stopPolarity).tof1.toNat =
      pulseCount.toNat * 256 + dpl.toNat % 16 * 16 +
        stopPolarity.toNat * 8 + ct.toNat % 4 := by
  have hpulses := pulseCount.toNat_lt
  have hshift : (pulseCount.toUInt32 <<< 8).toNat = pulseCount.toNat <<< 8 := by
    rw [UInt32.toNat_shiftLeft, UInt8.toNat_toUInt32]
    change pulseCount.toNat <<< 8 % 2 ^ 32 = _
    rw [Nat.shiftLeft_eq]
    omega
  have hdpl : ((dpl &&& 0x0F).toUInt32 <<< 4).toNat = (dpl.toNat % 16) <<< 4 := by
    rw [UInt32.toNat_shiftLeft, UInt8.toNat_toUInt32, UInt8.toNat_and]
    change (dpl.toNat &&& (2 ^ 4 - 1)) <<< 4 % 2 ^ 32 = _
    rw [and_low_eq, Nat.shiftLeft_eq, Nat.shiftLeft_eq]
    omega
  have hpolarity : (if stopPolarity then (0x0008 : UInt32) else 0).toNat =
      stopPolarity.toNat <<< 3 := by
    cases stopPolarity <;> rfl
  have hct : (ct &&& 0x03).toUInt32.toNat = ct.toNat % 4 := by
    rw [UInt8.toNat_toUInt32, UInt8.toNat_and]
    exact and_low_eq ct.toNat 2
  have hbit := stopPolarity.toNat_lt
  simp only [setLaunch, UInt32.toNat_toUInt16, UInt32.toNat_or, hshift, hdpl,
    hpolarity, hct]
  rw [launchWord_eq (by omega) hbit (by omega)]
  omega

/-! ## The offset words -/

theorem profileInitialOffset_toNat (word : UInt16) :
    (profileInitialOffset word).toNat = word.toNat % 128 := by
  have hlow := and_low_eq word.toNat 7
  rw [profileInitialOffset, UInt16.toNat_toUInt8, UInt16.toNat_and]
  change (word.toNat &&& (2 ^ 7 - 1)) % 256 = _
  rw [hlow]
  omega

theorem offsetWord_toNat (returnOffset : Int8) (initialOffset : UInt8) :
    (offsetWord returnOffset initialOffset).toNat =
      returnOffset.toUInt8.toNat * 256 + initialOffset.toNat % 128 := by
  have hreturn := returnOffset.toUInt8.toNat_lt
  have hhigh : (returnOffset.toUInt8.toUInt16 <<< 8).toNat =
      returnOffset.toUInt8.toNat <<< 8 := by
    rw [UInt16.toNat_shiftLeft, UInt8.toNat_toUInt16]
    change returnOffset.toUInt8.toNat <<< 8 % 2 ^ 16 = _
    rw [Nat.shiftLeft_eq]
    omega
  have hlow : (initialOffset &&& 0x7F).toUInt16.toNat =
      initialOffset.toNat % 128 := by
    rw [UInt8.toNat_toUInt16, UInt8.toNat_and]
    exact and_low_eq initialOffset.toNat 7
  rw [offsetWord, UInt16.toNat_or, hhigh, hlow, shiftLeft_or_eq _ _ (by omega)]
  rfl

theorem highByte_toNat (word : UInt16) :
    (word >>> 8).toUInt8.toNat = word.toNat / 256 := by
  have hword := word.toNat_lt
  rw [UInt16.toNat_toUInt8, UInt16.toNat_shiftRight]
  change word.toNat >>> 8 % 256 = _
  rw [Nat.shiftRight_eq_div_pow]
  omega

theorem profileReturnOffset_offsetWord (returnOffset : Int8)
    (initialOffset : UInt8) :
    profileReturnOffset (offsetWord returnOffset initialOffset) =
      returnOffset := by
  have hbyte : (offsetWord returnOffset initialOffset >>> 8).toUInt8 =
      returnOffset.toUInt8 := by
    rw [← UInt8.toNat_inj, highByte_toNat, offsetWord_toNat]
    omega
  rw [profileReturnOffset, hbyte]
  rfl

theorem profileInitialOffset_offsetWord (returnOffset : Int8)
    {initialOffset : UInt8} (hsmall : initialOffset ≤ 127) :
    profileInitialOffset (offsetWord returnOffset initialOffset) =
      initialOffset := by
  have hvalue := UInt8.le_iff_toNat_le.mp hsmall
  rw [← UInt8.toNat_inj, profileInitialOffset_toNat, offsetWord_toNat]
  change initialOffset.toNat ≤ 127 at hvalue
  omega

/-! ## The wave words -/

theorem profileT2_toNat (profile : Max35103Profile) :
    (profileT2 profile).toNat = max 2 (profile.tof2.toNat / 128 % 64) := by
  have hwave : ((profile.tof2 &&& 0x1F80) >>> 7).toUInt8.toNat =
      profile.tof2.toNat / 128 % 64 := by
    have hfield := and_shiftRight_eq profile.tof2.toNat 7 6
    rw [UInt16.toNat_toUInt8, UInt16.toNat_shiftRight, UInt16.toNat_and]
    change ((profile.tof2.toNat &&& ((2 ^ 6 - 1) <<< 7)) >>> 7) % 256 = _
    rw [hfield]
    omega
  rw [profileT2, ← hwave]
  split_ifs with hearly
  · have := UInt8.lt_iff_toNat_lt.mp hearly
    exact (max_eq_left this.le).symm
  · have := UInt8.le_iff_toNat_le.mp (UInt8.not_lt.mp hearly)
    exact (max_eq_right this).symm

theorem stopCode_toNat (profile : Max35103Profile) :
    ((profile.tof2 &&& 0xE000) >>> 13).toUInt8.toNat =
      profile.tof2.toNat / 8192 := by
  have hword := profile.tof2.toNat_lt
  have hfield := and_shiftRight_eq profile.tof2.toNat 13 3
  rw [UInt16.toNat_toUInt8, UInt16.toNat_shiftRight, UInt16.toNat_and]
  change ((profile.tof2.toNat &&& ((2 ^ 3 - 1) <<< 13)) >>> 13) % 256 = _
  rw [hfield]
  omega

theorem configuredHitCount_toNat (profile : Max35103Profile) :
    (configuredHitCount profile).toNat =
      if profile.tof2.toNat / 8192 > 5 then 0
      else profile.tof2.toNat / 8192 + 1 := by
  have hcode := stopCode_toNat profile
  simp only [configuredHitCount]
  generalize ((profile.tof2 &&& 0xE000) >>> 13).toUInt8 = code at hcode ⊢
  have hlimit : code > stopCodeMax ↔ profile.tof2.toNat / 8192 > 5 := by
    rw [← hcode]
    exact UInt8.lt_iff_toNat_lt
  by_cases hbig : code > stopCodeMax
  · rw [if_pos hbig, if_pos (hlimit.mp hbig)]
    rfl
  · have hsmall : ¬ profile.tof2.toNat / 8192 > 5 :=
      fun h ↦ hbig (hlimit.mpr h)
    rw [if_neg hbig, if_neg hsmall, UInt8.toNat_add, hcode]
    change (profile.tof2.toNat / 8192 + 1) % 256 = _
    omega

/-- Two waves side by side. -/
theorem wavePair_toNat (first second : UInt8) :
    (first.toUInt16 <<< 8 ||| second.toUInt16).toNat =
      first.toNat * 256 + second.toNat := by
  have hfirst := first.toNat_lt
  have hhigh : (first.toUInt16 <<< 8).toNat = first.toNat <<< 8 := by
    rw [UInt16.toNat_shiftLeft, UInt8.toNat_toUInt16]
    change first.toNat <<< 8 % 2 ^ 16 = _
    rw [Nat.shiftLeft_eq]
    omega
  rw [UInt16.toNat_or, hhigh, UInt8.toNat_toUInt16,
    shiftLeft_or_eq _ _ second.toNat_lt]
  rfl

/-- The wave of a hit, as the hit words have it. -/
theorem profileHitWave_toNat (profile : Max35103Profile) {hit : ℕ}
    (hhit : hit < 6) :
    (profileHitWave profile hit).toNat = max (hit + 3)
      ((if hit / 2 = 0 then profile.tof3.toNat
        else if hit / 2 = 1 then profile.tof4.toNat
        else profile.tof5.toNat) / (if hit % 2 = 0 then 256 else 1) % 64) := by
  have hhigh : ∀ word : UInt16,
      ((word >>> 8) &&& 0x003F).toUInt8.toNat = word.toNat / 256 % 64 := by
    intro word
    have hlow := and_low_eq (word.toNat / 256) 6
    rw [UInt16.toNat_toUInt8, UInt16.toNat_and, UInt16.toNat_shiftRight]
    change (word.toNat >>> 8 &&& (2 ^ 6 - 1)) % 256 = _
    rw [Nat.shiftRight_eq_div_pow, hlow]
    omega
  have hlow : ∀ word : UInt16,
      (word &&& 0x003F).toUInt8.toNat = word.toNat / 1 % 64 := by
    intro word
    rw [UInt16.toNat_toUInt8, UInt16.toNat_and, Nat.div_one]
    change (word.toNat &&& (2 ^ 6 - 1)) % 256 = _
    rw [and_low_eq]
    omega
  have hearliest : (UInt8.ofNat (hit + 3)).toNat = hit + 3 := by
    rw [UInt8.toNat_ofNat', Nat.mod_eq_of_lt (by omega)]
  have hmax : ∀ wave : UInt8,
      (if wave < UInt8.ofNat (hit + 3) then UInt8.ofNat (hit + 3)
        else wave).toNat = max (hit + 3) wave.toNat := by
    intro wave
    split_ifs with hlt
    · rw [UInt8.lt_iff_toNat_lt, hearliest] at hlt
      rw [hearliest, max_eq_left hlt.le]
    · rw [UInt8.not_lt, UInt8.le_iff_toNat_le, hearliest] at hlt
      rw [max_eq_right hlt]
  rw [profileHitWave, hmax]
  split_ifs
  all_goals first
    | rw [hhigh]
    | rw [hlow]

section WaveSequence

variable {t2Wave hitCount : UInt8}

/-- In range, nothing is clamped. -/
theorem setWaveSequence_eq (profile : Max35103Profile) (hearly : 2 ≤ t2Wave)
    (hlate : t2Wave ≤ 57) (hfew : 1 ≤ hitCount) (hmany : hitCount ≤ 6) :
    setWaveSequence profile t2Wave hitCount = { profile with
      tof2 := (profile.tof2 &&& (0x0077 : UInt16)) ||| ((hitCount - 1).toUInt16 <<< 13) |||
        (t2Wave.toUInt16 <<< 7)
      tof3 := ((t2Wave + 1).toUInt16 <<< 8) ||| (t2Wave + 2).toUInt16
      tof4 := ((t2Wave + 3).toUInt16 <<< 8) ||| (t2Wave + 4).toUInt16
      tof5 := ((t2Wave + 5).toUInt16 <<< 8) ||| (t2Wave + 6).toUInt16 } := by
  have hmany' : ¬ hitCount > waveHitCount := UInt8.not_lt.mpr hmany
  simp only [setWaveSequence]
  rw [if_neg (UInt8.not_lt.mpr hearly), if_neg (UInt8.not_lt.mpr hlate),
    if_neg (UInt8.not_lt.mpr hfew), if_neg hmany']

theorem setWaveSequence_tof2 (profile : Max35103Profile) (hearly : 2 ≤ t2Wave)
    (hlate : t2Wave ≤ 57) (hfew : 1 ≤ hitCount) (hmany : hitCount ≤ 6) :
    (setWaveSequence profile t2Wave hitCount).tof2.toNat =
      (hitCount.toNat - 1) * 8192 + t2Wave.toNat * 128 +
        (profile.tof2.toNat &&& 0x0077) := by
  have hwave := UInt8.le_iff_toNat_le.mp hlate
  have hhits := UInt8.le_iff_toNat_le.mp hmany
  change t2Wave.toNat ≤ 57 at hwave
  change hitCount.toNat ≤ 6 at hhits
  have hkept : profile.tof2.toNat &&& 0x0077 < 2 ^ 7 :=
    Nat.lt_of_le_of_lt Nat.and_le_right (by decide)
  have hcode : ((hitCount - 1).toUInt16 <<< 13).toNat =
      (hitCount.toNat - 1) <<< 13 := by
    rw [UInt16.toNat_shiftLeft, UInt8.toNat_toUInt16,
      UInt8.toNat_sub_of_le _ _ hfew]
    change (hitCount.toNat - 1) <<< 13 % 2 ^ 16 = _
    rw [Nat.shiftLeft_eq]
    omega
  have ht2 : (t2Wave.toUInt16 <<< 7).toNat = t2Wave.toNat <<< 7 := by
    rw [UInt16.toNat_shiftLeft, UInt8.toNat_toUInt16]
    change t2Wave.toNat <<< 7 % 2 ^ 16 = _
    rw [Nat.shiftLeft_eq]
    omega
  have hlow := shiftLeft_or_eq t2Wave.toNat _ hkept
  have hhigh := shiftLeft_or_eq (n := 13) (hitCount.toNat - 1)
    (t2Wave.toNat * 2 ^ 7 + (profile.tof2.toNat &&& 0x0077)) (by omega)
  rw [setWaveSequence_eq profile hearly hlate hfew hmany]
  dsimp only
  rw [UInt16.toNat_or, UInt16.toNat_or, UInt16.toNat_and, hcode, ht2]
  change ((profile.tof2.toNat &&& 0x0077) ||| _) ||| _ = _
  rw [Nat.or_comm (_ &&& _), Nat.or_assoc, Nat.or_comm (_ &&& _), hlow, hhigh]
  omega

/-- The hits follow the T2 wave one by one. -/
theorem setWaveSequence_hitWords (profile : Max35103Profile)
    (hearly : 2 ≤ t2Wave) (hlate : t2Wave ≤ 57) (hfew : 1 ≤ hitCount)
    (hmany : hitCount ≤ 6) :
    (setWaveSequence profile t2Wave hitCount).tof3.toNat =
        (t2Wave.toNat + 1) * 256 + (t2Wave.toNat + 2) ∧
      (setWaveSequence profile t2Wave hitCount).tof4.toNat =
        (t2Wave.toNat + 3) * 256 + (t2Wave.toNat + 4) ∧
      (setWaveSequence profile t2Wave hitCount).tof5.toNat =
        (t2Wave.toNat + 5) * 256 + (t2Wave.toNat + 6) := by
  have hwave := UInt8.le_iff_toNat_le.mp hlate
  change t2Wave.toNat ≤ 57 at hwave
  have hlater : ∀ k : UInt8, k.toNat ≤ 6 →
      (t2Wave + k).toNat = t2Wave.toNat + k.toNat := by
    intro k hk
    rw [UInt8.toNat_add, Nat.mod_eq_of_lt (by omega)]
  rw [setWaveSequence_eq profile hearly hlate hfew hmany]
  dsimp only
  rw [wavePair_toNat, wavePair_toNat, wavePair_toNat, hlater 1 (by decide),
    hlater 2 (by decide), hlater 3 (by decide), hlater 4 (by decide),
    hlater 5 (by decide), hlater 6 (by decide)]
  exact ⟨rfl, rfl, rfl⟩

theorem profileHitWave_setWaveSequence (profile : Max35103Profile)
    (hearly : 2 ≤ t2Wave) (hlate : t2Wave ≤ 57) (hfew : 1 ≤ hitCount)
    (hmany : hitCount ≤ 6) {hit : ℕ} (hhit : hit < 6) :
    (profileHitWave (setWaveSequence profile t2Wave hitCount) hit).toNat =
      t2Wave.toNat + hit + 1 := by
  have hwave := UInt8.le_iff_toNat_le.mp hlate
  have hfirst := UInt8.le_iff_toNat_le.mp hearly
  change t2Wave.toNat ≤ 57 at hwave
  change 2 ≤ t2Wave.toNat at hfirst
  obtain ⟨htof3, htof4, htof5⟩ :=
    setWaveSequence_hitWords profile hearly hlate hfew hmany
  rw [profileHitWave_toNat _ hhit, htof3, htof4, htof5]
  have hhigh : ∀ {first second : ℕ}, first < 64 → second < 64 →
      (first * 256 + second) / 256 % 64 = first := by
    intro first second hfirst hsecond
    have hquotient : (first * 256 + second) / 256 = first := by omega
    rw [hquotient, Nat.mod_eq_of_lt hfirst]
  have hlow : ∀ {first second : ℕ}, second < 64 →
      (first * 256 + second) / 1 % 64 = second := by
    intro first second hsecond
    omega
  split_ifs
  all_goals first
    | rw [hhigh (by omega) (by omega), max_eq_right (by omega)]
      omega
    | rw [hlow (by omega), max_eq_right (by omega)]
      omega

theorem profileT2_setWaveSequence (profile : Max35103Profile)
    (hearly : 2 ≤ t2Wave) (hlate : t2Wave ≤ 57) (hfew : 1 ≤ hitCount)
    (hmany : hitCount ≤ 6) :
    (profileT2 (setWaveSequence profile t2Wave hitCount)).toNat =
      t2Wave.toNat := by
  have hwave := UInt8.le_iff_toNat_le.mp hlate
  have hfirst := UInt8.le_iff_toNat_le.mp hearly
  change t2Wave.toNat ≤ 57 at hwave
  change 2 ≤ t2Wave.toNat at hfirst
  have hkept : profile.tof2.toNat &&& 0x0077 < 128 :=
    Nat.lt_of_le_of_lt Nat.and_le_right (by decide)
  rw [profileT2_toNat, setWaveSequence_tof2 profile hearly hlate hfew hmany]
  omega

theorem configuredHitCount_setWaveSequence (profile : Max35103Profile)
    (hearly : 2 ≤ t2Wave) (hlate : t2Wave ≤ 57) (hfew : 1 ≤ hitCount)
    (hmany : hitCount ≤ 6) :
    (configuredHitCount (setWaveSequence profile t2Wave hitCount)).toNat =
      hitCount.toNat := by
  have hwave := UInt8.le_iff_toNat_le.mp hlate
  have hleast := UInt8.le_iff_toNat_le.mp hfew
  have hmost := UInt8.le_iff_toNat_le.mp hmany
  change t2Wave.toNat ≤ 57 at hwave
  change 1 ≤ hitCount.toNat at hleast
  change hitCount.toNat ≤ 6 at hmost
  have hkept : profile.tof2.toNat &&& 0x0077 < 128 :=
    Nat.lt_of_le_of_lt Nat.and_le_right (by decide)
  rw [configuredHitCount_toNat,
    setWaveSequence_tof2 profile hearly hlate hfew hmany, if_neg (by omega)]
  omega

end WaveSequence

end Swfpm.AutoCal
