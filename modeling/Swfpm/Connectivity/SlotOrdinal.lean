import Swfpm.Connectivity.NextDue

/-!
# Slot ordinals

Embedding of `RS_GetSlotOrdinal` and `RS_GetSlotDueWall`.  An ordinal is counted
from the start of its window around midnight, and the instant of a slot is
counted from the midnight before that start.
-/

namespace Swfpm

open Int64Range

/-- The minutes since the last start, as the source keeps them in `diff`. -/
def rsSinceStart (minute start : UInt16) : Int16 :=
  if minute ≥ start then (minute - start).toInt16
  else (1440 + minute - start).toInt16

/-- A 16-bit operand as the `int` that it is promoted to. -/
def promoted (operand : UInt16) : Int32 := operand.toUInt32.toInt32

def rsGetSlotOrdinal (cfg : ReportingScheduleConfig) (winId : UInt8) (wallS : Int64) :
    UInt16 :=
  if hwindow : winId.toNat < 2 then
    let window := cfg.windows ⟨winId.toNat, hwindow⟩
    if window.intervalMinutes = 0 then 0
    else
      let diff := rsSinceStart (rsMinute wallS) window.startMinute
      (diff.toInt32 / promoted window.intervalMinutes).toUInt32.toUInt16
  else 0

def rsGetSlotDueWall (cfg : ReportingScheduleConfig) (winId : UInt8)
    (ordinal : UInt16) : Int64 :=
  if hwindow : winId.toNat < 2 then
    let window := cfg.windows ⟨winId.toNat, hwindow⟩
    -- The sum is an `int`; only the product with `SECS_PER_MIN` is wider.
    (promoted window.startMinute +
      promoted ordinal * promoted window.intervalMinutes).toInt64 * secsPerMin
  else 0

/-! ## The words of the computation -/

section Words

variable {minute start : UInt16} {quotient : Int32}

@[simp] theorem toInt_promoted (operand : UInt16) :
    (promoted operand).toInt = operand.toNat := by
  have hword := operand.toNat_lt
  show operand.toUInt32.toBitVec.toInt = operand.toNat
  rw [BitVec.toInt_eq_toNat_of_lt] <;> rw [UInt32.toNat_toBitVec, UInt16.toNat_toUInt32]
  omega

theorem toInt_toInt16_of_lt {word : UInt16} (hlt : word.toNat < 2 ^ 15) :
    word.toInt16.toInt = word.toNat := by
  show word.toBitVec.toInt = word.toBitVec.toNat
  rw [BitVec.toInt_eq_toNat_of_lt]
  show 2 * word.toNat < 2 ^ 16
  omega

/-- The low half-word of a small `int` that is not negative. -/
theorem toNat_lowHalf (hlow : 0 ≤ quotient.toInt) (hhigh : quotient.toInt < 2 ^ 16) :
    (quotient.toUInt32.toUInt16.toNat : ℤ) = quotient.toInt := by
  have hword := quotient.toUInt32.toNat_lt
  have hbits : quotient.toInt = quotient.toUInt32.toNat := by
    have hcases := BitVec.toInt_eq_toNat_cond quotient.toUInt32.toBitVec
    change quotient.toInt =
      if 2 * quotient.toUInt32.toNat < 2 ^ 32 then (quotient.toUInt32.toNat : ℤ)
      else (quotient.toUInt32.toNat : ℤ) - (2 ^ 32 : ℕ) at hcases
    split_ifs at hcases <;> omega
  rw [UInt32.toNat_toUInt16, hbits, Nat.mod_eq_of_lt (by omega)]

theorem toInt_sinceStart (hminute : minute.toNat < 1440) (hstart : start.toNat ≤ 1439) :
    (rsSinceStart minute start).toInt = ((minute.toNat : ℤ) - start.toNat) % 1440 := by
  have hday : (1440 : UInt16).toNat = 1440 := rfl
  unfold rsSinceStart
  split_ifs with hafter
  · have hle : start.toNat ≤ minute.toNat := UInt16.le_iff_toNat_le.mp hafter
    have hdiff := UInt16.toNat_sub_of_le minute start hafter
    rw [toInt_toInt16_of_lt] <;> omega
  · have hlt : minute.toNat < start.toNat := by
      rw [ge_iff_le, UInt16.le_iff_toNat_le] at hafter
      omega
    have hsum : (1440 + minute).toNat = 1440 + minute.toNat := by
      rw [UInt16.toNat_add, hday, Nat.mod_eq_of_lt (by omega)]
    have hdiff := UInt16.toNat_sub_of_le (1440 + minute) start
      (UInt16.le_iff_toNat_le.mpr (by omega))
    rw [toInt_toInt16_of_lt] <;> omega

theorem toInt_div_promoted {diff : Int16} (hnonneg : 0 ≤ diff.toInt)
    (interval : UInt16) :
    (diff.toInt32 / promoted interval).toInt = diff.toInt / interval.toNat := by
  have hfits := diff.toInt_lt
  have hsmall : 0 ≤ diff.toInt / interval.toNat ∧ diff.toInt / interval.toNat < 2 ^ 15 :=
    ⟨Int.ediv_nonneg hnonneg (by omega),
      (Int.ediv_le_self _ hnonneg).trans_lt hfits⟩
  rw [Int32.toInt_div, Int16.toInt_toInt32, toInt_promoted,
    Int.tdiv_eq_ediv_of_nonneg hnonneg, Int.bmod_eq_of_le] <;> omega

end Words

/-! ## The round trip -/

section RoundTrip

variable {cfg : ReportingScheduleConfig} {winId : UInt8}

theorem toNat_getSlotOrdinal (hwindow : winId.toNat < 2)
    (haccepted : WindowAccepted (cfg.windows ⟨winId.toNat, hwindow⟩)) (wallS : Int64) :
    ((rsGetSlotOrdinal cfg winId wallS).toNat : ℤ) =
      (wallS.toInt / 60 - (cfg.windows ⟨winId.toNat, hwindow⟩).startMinute.toNat) %
          1440 /
        (cfg.windows ⟨winId.toNat, hwindow⟩).intervalMinutes.toNat := by
  have hactive : (cfg.windows ⟨winId.toNat, hwindow⟩).intervalMinutes ≠ 0 := by
    intro hzero
    have hpos := haccepted.interval_pos
    rw [hzero] at hpos
    exact absurd hpos (by decide)
  unfold rsGetSlotOrdinal
  rw [dif_pos hwindow]
  dsimp only
  rw [if_neg hactive]
  generalize cfg.windows ⟨winId.toNat, hwindow⟩ = window at haccepted ⊢
  have hminute : (rsMinute wallS).toNat < 1440 := by
    have hvalue := toNat_minute wallS
    omega
  have hwall := toNat_minute wallS
  have hsince := toInt_sinceStart hminute haccepted.start
  have hminutes : ((rsMinute wallS).toNat - window.startMinute.toNat : ℤ) % 1440 =
      (wallS.toInt / 60 - window.startMinute.toNat) % 1440 := by omega
  rw [hminutes] at hsince
  have hdiff : 0 ≤ (rsSinceStart (rsMinute wallS) window.startMinute).toInt := by
    rw [hsince]
    omega
  have hquotient := toInt_div_promoted hdiff window.intervalMinutes
  rw [hsince] at hquotient
  rw [toNat_lowHalf] <;> rw [hquotient]
  · exact Int.ediv_nonneg (by omega) (by omega)
  · exact (Int.ediv_le_self _ (by omega)).trans_lt (by omega)

theorem toInt_getSlotDueWall {ordinal : UInt16} (hwindow : winId.toNat < 2)
    (haccepted : WindowAccepted (cfg.windows ⟨winId.toNat, hwindow⟩))
    (hordinal : ordinal.toNat *
      (cfg.windows ⟨winId.toNat, hwindow⟩).intervalMinutes.toNat < 1440) :
    (rsGetSlotDueWall cfg winId ordinal).toInt =
      60 * ((cfg.windows ⟨winId.toNat, hwindow⟩).startMinute.toNat +
        ordinal.toNat * (cfg.windows ⟨winId.toNat, hwindow⟩).intervalMinutes.toNat) := by
  unfold rsGetSlotDueWall
  rw [dif_pos hwindow]
  dsimp only
  generalize cfg.windows ⟨winId.toNat, hwindow⟩ = window at haccepted hordinal ⊢
  have hstart := haccepted.start
  have hoffset : (ordinal.toNat : ℤ) * window.intervalMinutes.toNat < 1440 := by
    exact_mod_cast hordinal
  have hnonneg : (0 : ℤ) ≤ ordinal.toNat * window.intervalMinutes.toNat :=
    mul_nonneg (by omega) (by omega)
  have hproduct : (promoted ordinal * promoted window.intervalMinutes).toInt =
      ordinal.toNat * window.intervalMinutes.toNat := by
    rw [Int32.toInt_mul, toInt_promoted, toInt_promoted, Int.bmod_eq_of_le] <;> omega
  have hsum : (promoted window.startMinute +
      promoted ordinal * promoted window.intervalMinutes).toInt =
      window.startMinute.toNat + ordinal.toNat * window.intervalMinutes.toNat := by
    rw [Int32.toInt_add, hproduct, toInt_promoted, Int.bmod_eq_of_le] <;> omega
  rw [toInt_mul] <;> rw [Int32.toInt_toInt64, hsum, show secsPerMin.toInt = 60 by rfl]
  · ring
  · constructor <;> omega

theorem slotOrdinal_of_due (cfg : ReportingScheduleConfig) (winId : UInt8)
    (ordinal : UInt16) (wallS : Int64) (day : ℤ)
    (haccepted : rsValidateConfig cfg = .ok ()) (hwindow : winId.toNat < 2)
    (hordinal : ordinal.toNat *
      (cfg.windows ⟨winId.toNat, hwindow⟩).intervalMinutes.toNat < 1440)
    (hwall : wallS.toInt = 86400 * day + (rsGetSlotDueWall cfg winId ordinal).toInt) :
    rsGetSlotOrdinal cfg winId wallS = ordinal := by
  have hchecked := (rsValidateConfig_ok haccepted).1 ⟨winId.toNat, hwindow⟩
  have hpos := hchecked.interval_pos
  have hfound := toNat_getSlotOrdinal hwindow hchecked wallS
  rw [hwall, toInt_getSlotDueWall hwindow hchecked hordinal] at hfound
  generalize cfg.windows ⟨winId.toNat, hwindow⟩ = window at hpos hordinal hfound
  have hoffset : (ordinal.toNat : ℤ) * window.intervalMinutes.toNat < 1440 := by
    exact_mod_cast hordinal
  have hnonneg : (0 : ℤ) ≤ ordinal.toNat * window.intervalMinutes.toNat :=
    mul_nonneg (by omega) (by omega)
  -- The days and the start of the window drop out of the remainder.
  rw [show ((86400 * day + 60 * (window.startMinute.toNat +
      ordinal.toNat * window.intervalMinutes.toNat)) / 60 -
        window.startMinute.toNat) % 1440 =
      (ordinal.toNat : ℤ) * window.intervalMinutes.toNat by omega,
    Int.mul_ediv_cancel _ (by omega)] at hfound
  exact UInt16.toNat_inj.mp (by exact_mod_cast hfound)

/-- The last slot of the night window, which is due on the next day, ten days before the
epoch. -/
theorem slotOrdinal_of_due_night :
    rsGetSlotOrdinal defaultReportingSchedule 1
      (Int64.ofInt (86400 * (-10) +
        (rsGetSlotDueWall defaultReportingSchedule 1 287).toInt)) = 287 :=
  slotOrdinal_of_due defaultReportingSchedule 1 287 _ (-10) rfl (by decide) (by decide)
    (by decide)

end RoundTrip

end Swfpm
