import Swfpm.Domain.System
import Swfpm.Bus.I2cBusManager
import Swfpm.Support.Int64Range

/-!
# The power service

Embedding of `domain/power/power_config.h` and of
`services/power/power_converter.{h,c}` and `power_service.{h,c}`, and the range in
which a battery voltage is published as it was measured.  A null service or
configuration is not modelled.
-/

namespace Swfpm

open Int64Range

structure PowerConfig where
  vrefMv : UInt16
  dividerRatio : UInt8
  lowThresholdMv : UInt16
  criticalThresholdMv : UInt16
  hysteresisMv : UInt16
  samplePeriodS : UInt16
  staleCountMax : UInt8
  deriving DecidableEq, Repr

/-- `POWER_CONFIG_DEFAULT`. -/
def PowerConfig.default : PowerConfig := ⟨3300, 3, 3600, 3200, 100, 60, 3⟩

def powerQualityAdcFault : UInt8 := (1 : UInt8) <<< 0
def powerQualityStale : UInt8 := (1 : UInt8) <<< 1

/-- The quotient is a `uint64_t`, of which the result keeps the low half. -/
def powerAdcToMv (raw vrefMv : UInt16) (divider : UInt8) : Int32 :=
  if divider = 0 then -1
  else
    let num : UInt64 := raw.toUInt64 * vrefMv.toUInt64 * divider.toUInt64
    ((num + 2048) / 4096).toUInt32.toInt32

def powerConfigIsValid (config : PowerConfig) : Bool :=
  if config.vrefMv = 0 ∨ config.dividerRatio = 0 ∨ config.samplePeriodS = 0 ∨
      config.staleCountMax = 0 then
    false
  else if config.criticalThresholdMv ≥ config.lowThresholdMv then false
  else if config.lowThresholdMv.toUInt32 + config.hysteresisMv.toUInt32 > 0xFFFF then
    false
  else true

def determineHealth (mv : UInt16) (current : PowerHealth) (cfg : PowerConfig) :
    PowerHealth :=
  match current with
  | .unknown | .normal =>
      if mv < cfg.criticalThresholdMv then .critical
      else if mv < cfg.lowThresholdMv then .low
      else .normal
  | .low =>
      if mv < cfg.criticalThresholdMv then .critical
      else if mv.toUInt32 > cfg.lowThresholdMv.toUInt32 + cfg.hysteresisMv.toUInt32 then
        .normal
      else .low
  | .critical =>
      if mv.toUInt32 >
          cfg.criticalThresholdMv.toUInt32 + cfg.hysteresisMv.toUInt32 then
        .low
      else .critical

structure PowerService where
  config : PowerConfig
  current : PowerSnapshot
  staleCount : UInt8
  sampleSequence : UInt64
  deriving DecidableEq, Repr

namespace PowerService

def init (config : PowerConfig) : Except PortStatus PowerService :=
  if !powerConfigIsValid config then .error .invalidParam
  else .ok { config, current := .cleared, staleCount := 0, sampleSequence := 0 }

variable (svc : PowerService)

def sampleAt (rawAdc : UInt16) (sampleMonotonicUs : UInt64) :
    PortStatus × PowerService :=
  let mv := powerAdcToMv rawAdc svc.config.vrefMv svc.config.dividerRatio
  if mv < 0 then (.invalidParam, svc)
  else
    let sampleSequence := svc.sampleSequence + 1
    let batteryMv := mv.toUInt32.toUInt16
    (.ok,
      { svc with
        sampleSequence
        staleCount := 0
        current :=
          { rawAdc
            batteryMv
            sampleSequence
            sampleMonotonicUs
            available := true
            qualityFlags := 0
            health := determineHealth batteryMv svc.current.health svc.config } })

def sample (rawAdc : UInt16) : PortStatus × PowerService := svc.sampleAt rawAdc 0

def markReadFailure : Bool × PowerService :=
  let staleCount := if svc.staleCount < 0xFF then svc.staleCount + 1 else svc.staleCount
  if staleCount < svc.config.staleCountMax then (false, { svc with staleCount })
  else
    let fault := powerQualityAdcFault ||| powerQualityStale
    (svc.current.available || svc.current.health ≠ .unknown ||
        svc.current.qualityFlags ≠ fault,
      { svc with
        staleCount
        current :=
          { svc.current with
            available := false, health := .unknown, qualityFlags := fault } })

end PowerService

/-! ## The range of a voltage -/

/-- The voltage that the formula of the converter gives without any words. -/
def PowerConfig.exactMv (config : PowerConfig) (raw : UInt16) : ℕ :=
  (raw.toNat * config.vrefMv.toNat * config.dividerRatio.toNat + 2048) / 4096

variable {config : PowerConfig} {raw lower : UInt16}

theorem dividerRatio_ne_zero (hvalid : powerConfigIsValid config = true) :
    config.dividerRatio ≠ 0 := by
  unfold powerConfigIsValid at hvalid
  split_ifs at hvalid with hzero
  tauto

theorem critical_lt_low (hvalid : powerConfigIsValid config = true) :
    config.criticalThresholdMv.toNat < config.lowThresholdMv.toNat := by
  unfold powerConfigIsValid at hvalid
  split_ifs at hvalid with hzero horder
  rwa [ge_iff_le, UInt16.le_iff_toNat_le, not_le] at horder

theorem exactMv_mono (config : PowerConfig) (hle : lower ≤ raw) :
    config.exactMv lower ≤ config.exactMv raw := by
  rw [UInt16.le_iff_toNat_le] at hle
  unfold PowerConfig.exactMv
  gcongr

/-- The product of the three words, far below the range of the `uint64_t`. -/
theorem product_lt (raw vrefMv : UInt16) (divider : UInt8) :
    raw.toNat * vrefMv.toNat * divider.toNat < 2 ^ 40 :=
  calc raw.toNat * vrefMv.toNat * divider.toNat
      ≤ (2 ^ 16 - 1) * (2 ^ 16 - 1) * (2 ^ 8 - 1) := by
        have hraw := raw.toNat_lt
        have hvref := vrefMv.toNat_lt
        have hdivider := divider.toNat_lt
        gcongr <;> omega
    _ < 2 ^ 40 := by norm_num

theorem toInt_powerAdcToMv (hdivider : config.dividerRatio ≠ 0) (raw : UInt16) :
    (powerAdcToMv raw config.vrefMv config.dividerRatio).toInt =
      config.exactMv raw := by
  have hproduct := product_lt raw config.vrefMv config.dividerRatio
  have hnum : (raw.toUInt64 * config.vrefMv.toUInt64 *
      config.dividerRatio.toUInt64).toNat =
        raw.toNat * config.vrefMv.toNat * config.dividerRatio.toNat := by
    rw [UInt64.toNat_mul, UInt64.toNat_mul, UInt16.toNat_toUInt64,
      UInt16.toNat_toUInt64, UInt8.toNat_toUInt64, Nat.mod_mul_mod,
      Nat.mod_eq_of_lt (by omega)]
  unfold powerAdcToMv
  rw [if_neg hdivider]
  dsimp only
  generalize raw.toUInt64 * config.vrefMv.toUInt64 * config.dividerRatio.toUInt64 =
    num at hnum
  have hquotient : ((num + 2048) / 4096).toNat = config.exactMv raw := by
    rw [UInt64.toNat_div, UInt64.toNat_add, hnum, PowerConfig.exactMv,
      show (2048 : UInt64).toNat = 2048 by rfl, show (4096 : UInt64).toNat = 4096 by rfl,
      Nat.mod_eq_of_lt (by omega)]
  have hsmall : config.exactMv raw < 2 ^ 29 := by
    unfold PowerConfig.exactMv
    omega
  show ((num + 2048) / 4096).toUInt32.toBitVec.toInt = _
  have hhalf : ((num + 2048) / 4096).toUInt32.toNat = config.exactMv raw := by
    rw [UInt64.toNat_toUInt32, hquotient, Nat.mod_eq_of_lt (by omega)]
  rw [BitVec.toInt_eq_toNat_of_lt] <;> rw [UInt32.toNat_toBitVec, hhalf]
  omega

/-! ## Health classes -/

/-- How bad a class is. -/
def PowerHealth.severity : PowerHealth → ℕ
  | .unknown | .normal => 0
  | .low => 1
  | .critical => 2

theorem toNat_threshold (threshold hysteresis : UInt16) :
    (threshold.toUInt32 + hysteresis.toUInt32).toNat =
      threshold.toNat + hysteresis.toNat := by
  have hthreshold := threshold.toNat_lt
  have hhysteresis := hysteresis.toNat_lt
  rw [UInt32.toNat_add, UInt16.toNat_toUInt32, UInt16.toNat_toUInt32,
    Nat.mod_eq_of_lt (by omega)]

/-- From one class, a higher voltage leads to no worse one. -/
theorem severity_anti (hvalid : powerConfigIsValid config = true)
    (current : PowerHealth) {low high : UInt16} (hle : low ≤ high) :
    (determineHealth high current config).severity ≤
      (determineHealth low current config).severity := by
  have horder := critical_lt_low hvalid
  rw [UInt16.le_iff_toNat_le] at hle
  cases current with
  | unknown | normal =>
      unfold determineHealth
      simp only [UInt16.lt_iff_toNat_lt]
      split_ifs <;> first | omega | decide
  | low =>
      unfold determineHealth
      simp only [gt_iff_lt, UInt16.lt_iff_toNat_lt, UInt32.lt_iff_toNat_lt,
        toNat_threshold, UInt16.toNat_toUInt32]
      split_ifs <;> first | omega | decide
  | critical =>
      unfold determineHealth
      simp only [gt_iff_lt, UInt32.lt_iff_toNat_lt, toNat_threshold,
        UInt16.toNat_toUInt32]
      split_ifs <;> first | omega | decide

/-! ## Samples that are not wrapped -/

namespace PowerService

variable {svc : PowerService}

/-- The sample is rejected or published with its exact voltage, and no smaller
raw value would have been published with a higher voltage or a better class. -/
structure Faithful (svc : PowerService) (raw : UInt16) (nowUs : UInt64) : Prop where
  exact : (svc.sampleAt raw nowUs).1 = .ok →
    (svc.sampleAt raw nowUs).2.current.batteryMv.toNat = svc.config.exactMv raw
  voltage : ∀ lower ≤ raw,
    (svc.sampleAt lower nowUs).1 = .ok → (svc.sampleAt raw nowUs).1 = .ok →
      (svc.sampleAt lower nowUs).2.current.batteryMv ≤
        (svc.sampleAt raw nowUs).2.current.batteryMv
  health : ∀ lower ≤ raw,
    (svc.sampleAt lower nowUs).1 = .ok → (svc.sampleAt raw nowUs).1 = .ok →
      (svc.sampleAt raw nowUs).2.current.health.severity ≤
        (svc.sampleAt lower nowUs).2.current.health.severity

/-- With a valid configuration every sample is taken, with the low half of its
exact voltage. -/
theorem sampleAt_valid (hvalid : powerConfigIsValid svc.config = true) (raw : UInt16)
    (nowUs : UInt64) :
    (svc.sampleAt raw nowUs).1 = .ok ∧
      (svc.sampleAt raw nowUs).2.current.batteryMv.toNat =
        svc.config.exactMv raw % 2 ^ 16 ∧
      (svc.sampleAt raw nowUs).2.current.health =
        determineHealth (svc.sampleAt raw nowUs).2.current.batteryMv
          svc.current.health svc.config := by
  have hword := toInt_powerAdcToMv (dividerRatio_ne_zero hvalid) raw
  have hproduct := product_lt raw svc.config.vrefMv svc.config.dividerRatio
  have hsmall : svc.config.exactMv raw < 2 ^ 31 := by
    unfold PowerConfig.exactMv
    omega
  unfold sampleAt
  generalize powerAdcToMv raw svc.config.vrefMv svc.config.dividerRatio = mv at hword
  have hnonneg : ¬ mv < 0 := by
    rw [Int32.lt_iff_toInt_lt, hword]
    simp
  have hbits : mv.toUInt32.toNat = svc.config.exactMv raw := by
    have hcases := BitVec.toInt_eq_toNat_cond mv.toUInt32.toBitVec
    change mv.toInt = if 2 * mv.toUInt32.toNat < 2 ^ 32 then (mv.toUInt32.toNat : ℤ)
      else (mv.toUInt32.toNat : ℤ) - (2 ^ 32 : ℕ) at hcases
    have hbound := mv.toUInt32.toNat_lt
    split_ifs at hcases <;> omega
  dsimp only
  rw [if_neg hnonneg]
  refine ⟨rfl, ?_, rfl⟩
  change mv.toUInt32.toUInt16.toNat = _
  rw [UInt32.toNat_toUInt16, hbits]

/-- A voltage is published as it was measured exactly when it fits the 16 bits of
its field. -/
theorem faithful_iff (svc : PowerService) (raw : UInt16) (nowUs : UInt64)
    (hvalid : powerConfigIsValid svc.config = true) :
    svc.Faithful raw nowUs ↔ svc.config.exactMv raw < 2 ^ 16 := by
  constructor
  · rintro ⟨hexact, -, -⟩
    obtain ⟨htaken, -, -⟩ := sampleAt_valid hvalid raw nowUs
    rw [← hexact htaken]
    exact UInt16.toNat_lt _
  · intro hfits
    obtain ⟨-, hvoltage, hhealth⟩ := sampleAt_valid hvalid raw nowUs
    rw [Nat.mod_eq_of_lt hfits] at hvoltage
    have hless : ∀ lower ≤ raw, (svc.sampleAt lower nowUs).2.current.batteryMv ≤
        (svc.sampleAt raw nowUs).2.current.batteryMv := by
      intro lower hle
      obtain ⟨-, hlower, -⟩ := sampleAt_valid hvalid lower nowUs
      have hmono := exactMv_mono svc.config hle
      rw [UInt16.le_iff_toNat_le, hlower, hvoltage, Nat.mod_eq_of_lt (by omega)]
      exact hmono
    refine ⟨fun _ => hvoltage, fun lower hle _ _ => hless lower hle, ?_⟩
    intro lower hle _ _
    obtain ⟨-, -, hlower⟩ := sampleAt_valid hvalid lower nowUs
    rw [hhealth, hlower]
    exact severity_anti hvalid svc.current.health (hless lower hle)

/-- A service with the default configuration, before its first sample. -/
def started : PowerService :=
  { config := .default, current := .cleared, staleCount := 0, sampleSequence := 0 }

theorem faithful_iff_default :
    started.Faithful 1600 0 ↔ PowerConfig.default.exactMv 1600 < 2 ^ 16 :=
  faithful_iff started 1600 0 (by decide)

/-- A divider of 20 takes the top reading of a 12-bit converter past the field. -/
theorem sampleAt_wraps :
    ¬ ∀ (svc : PowerService) (raw : UInt16) (nowUs : UInt64),
      powerConfigIsValid svc.config = true → svc.Faithful raw nowUs := by
  intro hall
  have hexact := (hall
    { started with config := { PowerConfig.default with dividerRatio := 20 } } 4095 0
    (by decide)).exact (by decide)
  exact absurd hexact (by decide)

end PowerService

end Swfpm
