import Mathlib

/-!
# Register profiles

Embedding of what the auto-calibration service uses of
`3.stm32/Drivers/MAX35103/max35103.{h,c}` (the profile, its structural check and
the HIT count) and of the register-field helpers of
`3.stm32/Service/auto_calibrate_max35103/src/max35103_autocal.c`.
-/

namespace Swfpm.AutoCal

/-- What a driver operation returns. -/
inductive Max35103Status where
  | ok
  | busy
  | timeout
  | invalidArg
  | notReady
  | spiError
  | deviceError
  | configError
  | noResult
  | stale
  | outOfRange
  deriving DecidableEq, Repr

structure Max35103Profile where
  profileId : UInt32
  profileVersion : UInt32
  eventModeCmd : UInt8
  tof1 : UInt16
  tof2 : UInt16
  tof3 : UInt16
  tof4 : UInt16
  tof5 : UInt16
  tof6 : UInt16
  tof7 : UInt16
  eventTiming1 : UInt16
  eventTiming2 : UInt16
  tofMeasurementDelay : UInt16
  calibrationControl : UInt16
  initTimeoutMs : UInt32
  resultTimeoutMs : UInt32
  haltTimeoutMs : UInt32
  referenceResistanceMilliohm : UInt32
  rtdNominalResistanceMilliohm : UInt32
  deriving DecidableEq, Repr

/-- The profile that `memset` leaves. -/
def Max35103Profile.zero : Max35103Profile :=
  { profileId := 0, profileVersion := 0, eventModeCmd := 0, tof1 := 0, tof2 := 0
    tof3 := 0, tof4 := 0, tof5 := 0, tof6 := 0, tof7 := 0, eventTiming1 := 0
    eventTiming2 := 0, tofMeasurementDelay := 0, calibrationControl := 0
    initTimeoutMs := 0, resultTimeoutMs := 0, haltTimeoutMs := 0
    referenceResistanceMilliohm := 0, rtdNominalResistanceMilliohm := 0 }

/-- `MAX35103_WAVE_HIT_COUNT`. -/
def waveHitCount : UInt8 := 6

/-- `MAX35103_TOF_DELAY_MIN`. -/
def tofDelayMin : UInt16 := 0x0012

/-- `MAX35103_STOP_CODE_MAX`. -/
def stopCodeMax : UInt8 := 5

/-! ## Register fields -/

/-- The launch/HIT divider field of `TOF1`. -/
def profileDpl (profile : Max35103Profile) : UInt8 :=
  ((profile.tof1 &&& 0x00F0) >>> 4).toUInt8

def profilePulseCount (profile : Max35103Profile) : UInt8 :=
  (profile.tof1 >>> 8).toUInt8

def profileStopPolarity (profile : Max35103Profile) : Bool :=
  profile.tof1 &&& 0x0008 ≠ 0

/-- The T2 receive wave that the device uses; the driver's
`max_effective_t2_wave` is the same function. -/
def profileT2 (profile : Max35103Profile) : UInt8 :=
  let wave := ((profile.tof2 &&& 0x1F80) >>> 7).toUInt8
  if wave < 2 then 2 else wave

/-- The wave of a receive hit, at least the earliest one that the device allows;
the driver's `max_effective_hit_wave` is the same function. -/
def profileHitWave (profile : Max35103Profile) (hitIndex : ℕ) : UInt8 :=
  let word :=
    if hitIndex / 2 = 0 then profile.tof3
    else if hitIndex / 2 = 1 then profile.tof4
    else profile.tof5
  let wave :=
    if hitIndex % 2 = 0 then ((word >>> 8) &&& 0x003F).toUInt8
    else (word &&& 0x003F).toUInt8
  let earliest := UInt8.ofNat (hitIndex + 3)
  if wave < earliest then earliest else wave

def profileInitialOffset (word : UInt16) : UInt8 :=
  (word &&& 0x007F).toUInt8

def profileReturnOffset (word : UInt16) : Int8 :=
  (word >>> 8).toUInt8.toInt8

/-- Return offset in the high byte, initial offset in the low seven bits. -/
def offsetWord (returnOffset : Int8) (initialOffset : UInt8) : UInt16 :=
  (returnOffset.toUInt8.toUInt16 <<< 8) ||| (initialOffset &&& 0x7F).toUInt16

def setLaunch (profile : Max35103Profile) (dpl pulseCount ct : UInt8)
    (stopPolarity : Bool) : Max35103Profile :=
  { profile with
    tof1 := ((pulseCount.toUInt32 <<< 8) ||| ((dpl &&& 0x0F).toUInt32 <<< 4) |||
      (if stopPolarity then 0x0008 else 0) ||| (ct &&& 0x03).toUInt32).toUInt16 }

/-- Consecutive hits after the T2 wave, both arguments clamped. -/
def setWaveSequence (profile : Max35103Profile) (t2Wave hitCount : UInt8) :
    Max35103Profile :=
  let t2Wave := if t2Wave < 2 then 2 else t2Wave
  let t2Wave := if t2Wave > 57 then 57 else t2Wave
  let hitCount := if hitCount < 1 then 1 else hitCount
  let hitCount := if hitCount > waveHitCount then waveHitCount else hitCount
  let preserved := profile.tof2 &&& 0x0077
  { profile with
    tof2 := preserved ||| ((hitCount - 1).toUInt16 <<< 13) |||
      (t2Wave.toUInt16 <<< 7)
    tof3 := ((t2Wave + 1).toUInt16 <<< 8) ||| (t2Wave + 2).toUInt16
    tof4 := ((t2Wave + 3).toUInt16 <<< 8) ||| (t2Wave + 4).toUInt16
    tof5 := ((t2Wave + 5).toUInt16 <<< 8) ||| (t2Wave + 6).toUInt16 }

/-! ## Counting and clamping -/

def rangeCountU32 (minimum maximum step : UInt32) : UInt32 :=
  if step = 0 ∨ maximum < minimum then 0
  else (maximum - minimum) / step + 1

/-- Product, saturating at `UINT32_MAX`. -/
def multiplyCount (left right : UInt32) : UInt32 :=
  if left = 0 ∨ right = 0 then 0
  else if left > 0xFFFFFFFF / right then 0xFFFFFFFF
  else left * right

/-- Sum, saturating at `UINT32_MAX`. -/
def addCount (left right : UInt32) : UInt32 :=
  if left > 0xFFFFFFFF - right then 0xFFFFFFFF else left + right

/-- The enabled CT values, in ascending order. -/
def enabledCts (mask : UInt8) : List UInt8 :=
  [0, 1, 2, 3].filter fun ct ↦ mask &&& (1 <<< ct) ≠ 0

def popcount4 (value : UInt8) : UInt8 :=
  UInt8.ofNat (enabledCts value).length

/-- The enabled CT value at an index, zero beyond them. -/
def ctFromIndex (mask : UInt8) (index : UInt32) : UInt8 :=
  (enabledCts mask).getD index.toNat 0

def clampU16 (value : ℤ) (minimum maximum : UInt16) : UInt16 :=
  if value < minimum.toNat then minimum
  else if value > maximum.toNat then maximum
  else UInt16.ofNat value.toNat

def clampU8 (value : ℤ) (minimum maximum : UInt8) : UInt8 :=
  if value < minimum.toNat then minimum
  else if value > maximum.toNat then maximum
  else UInt8.ofNat value.toNat

/-! ## The structural check -/

/-- `MAX35103_ConfiguredHitCount`. -/
def configuredHitCount (profile : Max35103Profile) : UInt8 :=
  let stopCode := ((profile.tof2 &&& 0xE000) >>> 13).toUInt8
  if stopCode > stopCodeMax then 0 else stopCode + 1

/-- Whether each wave of a sequence is later than the one before it. -/
def wavesAscend (previousWave : UInt8) : List UInt8 → Bool
  | [] => true
  | wave :: rest => if wave ≤ previousWave then false else wavesAscend wave rest

/-- `MAX35103_ValidateProfile`. -/
def validateProfile (profile : Max35103Profile) : Max35103Status :=
  let pl := ((profile.tof1 &&& 0xFF00) >>> 8).toUInt8
  let stopCode := ((profile.tof2 &&& 0xE000) >>> 13).toUInt8
  if profile.eventModeCmd ≠ 0x07 ∧ profile.eventModeCmd ≠ 0x08 ∧
      profile.eventModeCmd ≠ 0x09 then .configError
  else if pl < 1 ∨ pl > 127 ∨ profile.tof1 &&& 0x00F0 = 0 ∨
      stopCode > stopCodeMax ∨ profile.tof1 &&& 0x0004 ≠ 0 ∨
      profile.tof2 &&& 0x0008 ≠ 0 ∨
      (profile.tof3 ||| profile.tof4 ||| profile.tof5) &&& 0xC0C0 ≠ 0 ∨
      (profile.tof6 ||| profile.tof7) &&& 0x0080 ≠ 0 ∨
      profile.tofMeasurementDelay < tofDelayMin ∨
      profile.calibrationControl &&& 0xF000 ≠ 0 then .configError
  else if profile.tofMeasurementDelay.toUInt32 >
      (512 : UInt32) <<< (profile.tof2 &&& 0x0007).toUInt32 then .configError
  else if wavesAscend (profileT2 profile)
      ((List.range (configuredHitCount profile).toNat).map
        (profileHitWave profile)) then .ok
  else .configError

end Swfpm.AutoCal
