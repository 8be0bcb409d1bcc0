import Swfpm.Connectivity.ReportingSchedule
import Swfpm.Support.Progression

/-!
# When `RS_GetNextDue` finds the next slot

The slots of a day are laid out by a plan: the window that starts first reports
from its start to that of the other one, and the other one from there over
midnight.  The source takes the windows one at a time, each as if it were active
from its start to midnight, and asks for a slot after an instant that is past a
start.  `DayPlan.Covered` is where that makes no difference.
-/

namespace Swfpm

open Int64Range Progression

/-! ## The slots of a plan -/

/-- Two windows of a day, in seconds. -/
structure DayPlan where
  early : ℤ
  late : ℤ
  earlyStep : ℤ
  lateStep : ℤ
  early_nonneg : 0 ≤ early
  early_lt : early < late
  late_lt : late < 86400
  earlyStep_pos : 0 < earlyStep
  lateStep_pos : 0 < lateStep

namespace DayPlan

variable (plan : DayPlan) {s t u : ℤ}

def IsSlot (t : ℤ) : Prop :=
  if plan.early ≤ t % 86400 ∧ t % 86400 < plan.late then
    plan.earlyStep ∣ t % 86400 - plan.early
  else plan.lateStep ∣ (t - plan.late) % 86400

/-- The next slot from a second of the day on, counted from midnight. -/
def slotFrom (s : ℤ) : ℤ :=
  if s ≤ plan.early then
    min plan.early (firstFrom (plan.late - 86400) plan.lateStep s)
  else if s ≤ plan.late then
    min plan.late (firstFrom plan.early plan.earlyStep s)
  else min (plan.early + 86400) (firstFrom plan.late plan.lateStep s)

/-- What the source takes for the next slot of one window. -/
def candidate (start step s : ℤ) : ℤ :=
  if s ≤ start then start else firstFrom start step (s + 1)

/-- What the source takes for the next slot. -/
def answer (s : ℤ) : ℤ :=
  min (candidate plan.early plan.earlyStep s) (candidate plan.late plan.lateStep s)

/-- The seconds of a day from which the source finds the next slot. -/
def Covered (s : ℤ) : Prop :=
  if s ≤ plan.early then
    plan.early ≤ firstFrom (plan.late - 86400) plan.lateStep s
  else if s ≤ plan.late then s = plan.late ∨ ¬ plan.earlyStep ∣ s - plan.early
  else
    ¬ plan.lateStep ∣ s - plan.late ∧
      (firstFrom plan.late plan.lateStep s ≤
          min (plan.early + 86400) (firstFrom plan.early plan.earlyStep (s + 1)) ∨
        firstFrom plan.early plan.earlyStep (s + 1) = plan.early + 86400)

instance (s : ℤ) : Decidable (plan.Covered s) :=
  inferInstanceAs (Decidable
    (if s ≤ plan.early then plan.early ≤ _
      else if s ≤ plan.late then s = plan.late ∨ ¬ plan.earlyStep ∣ _
      else ¬ plan.lateStep ∣ _ ∧ (firstFrom _ _ s ≤ min _ _ ∨ firstFrom _ _ _ = _)))

/-! ## The least slot -/

theorem isSlot_add_day : plan.IsSlot (t + 86400) ↔ plan.IsSlot t := by
  unfold IsSlot
  rw [Int.add_emod_right, show t + 86400 - plan.late = t - plan.late + 86400 by ring,
    Int.add_emod_right]

variable {plan}

theorem isSlot_iff_early (hlow : plan.early ≤ t) (hhigh : t < plan.late) :
    plan.IsSlot t ↔ plan.earlyStep ∣ t - plan.early := by
  have hnonneg := plan.early_nonneg
  have hday := plan.late_lt
  have hsecond : t % 86400 = t := by omega
  rw [IsSlot, hsecond, if_pos ⟨hlow, hhigh⟩]

theorem isSlot_iff_late (hlow : plan.late ≤ t) (hhigh : t < plan.early + 86400) :
    plan.IsSlot t ↔ plan.lateStep ∣ t - plan.late := by
  have hnonneg := plan.early_nonneg
  have horder := plan.early_lt
  have hoffset : (t - plan.late) % 86400 = t - plan.late := by omega
  have hother : ¬ (plan.early ≤ t % 86400 ∧ t % 86400 < plan.late) := by omega
  rw [IsSlot, if_neg hother, hoffset]

theorem isSlot_iff_night (hlow : 0 ≤ t) (hhigh : t < plan.early) :
    plan.IsSlot t ↔ plan.lateStep ∣ t - (plan.late - 86400) := by
  have hday := plan.late_lt
  have horder := plan.early_lt
  rw [← isSlot_add_day, isSlot_iff_late (by omega) (by omega),
    show t + 86400 - plan.late = t - (plan.late - 86400) by ring]

theorem isSlot_early : plan.IsSlot plan.early := by
  rw [isSlot_iff_early le_rfl plan.early_lt, sub_self]
  exact dvd_zero _

theorem isSlot_late : plan.IsSlot plan.late := by
  have hday := plan.late_lt
  have hnonneg := plan.early_nonneg
  rw [isSlot_iff_late le_rfl (by omega), sub_self]
  exact dvd_zero _

theorem le_slotFrom (hhigh : s < 86400) : s ≤ plan.slotFrom s := by
  have hnonneg := plan.early_nonneg
  unfold slotFrom
  split_ifs with hbefore hduring
  · exact le_min hbefore (le_firstFrom _ _ plan.lateStep_pos)
  · exact le_min hduring (le_firstFrom _ _ plan.earlyStep_pos)
  · exact le_min (by omega) (le_firstFrom _ _ plan.lateStep_pos)

theorem slotFrom_isSlot (hlow : 0 ≤ s) : plan.IsSlot (plan.slotFrom s) := by
  unfold slotFrom
  split_ifs with hbefore hduring
  · rcases le_or_gt plan.early (firstFrom (plan.late - 86400) plan.lateStep s)
      with hle | hlt
    · rw [min_eq_left hle]
      exact isSlot_early
    · have hfrom : s ≤ firstFrom (plan.late - 86400) plan.lateStep s :=
        le_firstFrom _ _ plan.lateStep_pos
      rw [min_eq_right hlt.le, isSlot_iff_night (hlow.trans hfrom) hlt]
      exact dvd_firstFrom_sub
  · rcases le_or_gt plan.late (firstFrom plan.early plan.earlyStep s) with hle | hlt
    · rw [min_eq_left hle]
      exact isSlot_late
    · have hfrom : s ≤ firstFrom plan.early plan.earlyStep s :=
        le_firstFrom _ _ plan.earlyStep_pos
      rw [min_eq_right hlt.le, isSlot_iff_early (by omega) hlt]
      exact dvd_firstFrom_sub
  · rcases le_or_gt (plan.early + 86400) (firstFrom plan.late plan.lateStep s)
      with hle | hlt
    · rw [min_eq_left hle, isSlot_add_day]
      exact isSlot_early
    · have hfrom : s ≤ firstFrom plan.late plan.lateStep s :=
        le_firstFrom _ _ plan.lateStep_pos
      rw [min_eq_right hlt.le, isSlot_iff_late (by omega) hlt]
      exact dvd_firstFrom_sub

theorem slotFrom_le (hlow : 0 ≤ s) (hsu : s ≤ u) (hu : plan.IsSlot u) :
    plan.slotFrom s ≤ u := by
  have horder := plan.early_lt
  unfold slotFrom
  split_ifs with hbefore hduring
  · rcases le_or_gt plan.early u with hle | hlt
    · exact min_le_of_left_le hle
    · rw [isSlot_iff_night (hlow.trans hsu) hlt] at hu
      exact min_le_of_right_le (firstFrom_le plan.lateStep_pos hsu hu)
  · rcases le_or_gt plan.late u with hle | hlt
    · exact min_le_of_left_le hle
    · rw [isSlot_iff_early (by omega) hlt] at hu
      exact min_le_of_right_le (firstFrom_le plan.earlyStep_pos hsu hu)
  · rcases le_or_gt (plan.early + 86400) u with hle | hlt
    · exact min_le_of_left_le hle
    · rw [isSlot_iff_late (by omega) hlt] at hu
      exact min_le_of_right_le (firstFrom_le plan.lateStep_pos hsu hu)

/-- The least slot from an instant on, over whole days. -/
theorem isLeast_slotFrom (t : ℤ) :
    IsLeast {u | plan.IsSlot u ∧ t ≤ u}
      (t / 86400 * 86400 + plan.slotFrom (t % 86400)) := by
  have hshift : ∀ u, plan.IsSlot u ↔ plan.IsSlot (u - t / 86400 * 86400) := by
    intro u
    unfold IsSlot
    rw [Int.sub_mul_emod_self_right,
      show u - t / 86400 * 86400 - plan.late = u - plan.late - t / 86400 * 86400 by ring,
      Int.sub_mul_emod_self_right]
  have hlow : 0 ≤ t % 86400 := by omega
  have hfrom : t % 86400 ≤ plan.slotFrom (t % 86400) := le_slotFrom (by omega)
  constructor
  · constructor
    · rw [hshift, add_sub_cancel_left]
      exact slotFrom_isSlot hlow
    · omega
  · rintro u ⟨hslot, hle⟩
    rw [hshift] at hslot
    have hleast := slotFrom_le hlow (by omega) hslot
    omega

/-- The answer of the source is the least slot where nothing is uncovered. -/
theorem answer_eq_slotFrom_iff (hhigh : s < 86400) :
    plan.answer s = plan.slotFrom s ↔ plan.Covered s := by
  have horder := plan.early_lt
  have hearly : s < firstFrom plan.early plan.earlyStep (s + 1) :=
    le_firstFrom _ _ plan.earlyStep_pos
  have hlate : s < firstFrom plan.late plan.lateStep (s + 1) :=
    le_firstFrom _ _ plan.lateStep_pos
  unfold answer candidate slotFrom Covered
  by_cases hbefore : s ≤ plan.early
  · rw [if_pos hbefore, if_pos (by omega), if_pos hbefore, if_pos hbefore,
      min_eq_left horder.le]
    exact eq_comm.trans min_eq_left_iff
  · by_cases hduring : s ≤ plan.late
    · rw [if_neg hbefore, if_pos hduring, if_neg hbefore, if_pos hduring, if_neg hbefore,
        if_pos hduring]
      by_cases hslot : plan.earlyStep ∣ s - plan.early
      · rw [firstFrom_of_dvd plan.earlyStep_pos hslot]
        simp only [hslot, not_true_eq_false, or_false]
        omega
      · rw [firstFrom_succ plan.earlyStep_pos hslot, min_comm]
        simp only [hslot, not_false_eq_true, or_true]
    · rw [if_neg hbefore, if_neg hduring, if_neg hbefore, if_neg hduring, if_neg hbefore,
        if_neg hduring]
      have hnonneg := plan.early_nonneg
      by_cases hslot : plan.lateStep ∣ s - plan.late
      · rw [firstFrom_of_dvd plan.lateStep_pos hslot]
        simp only [hslot, not_true_eq_false, false_and, iff_false]
        omega
      · rw [firstFrom_succ plan.lateStep_pos hslot]
        simp only [hslot, not_false_eq_true, true_and]
        omega

/-- The source never looks further than a day ahead. -/
theorem candidate_lt {start step : ℤ} (hlow : 0 ≤ s) (hstart : start < 86400)
    (hstep : 0 < step) (hday : step < 86400) :
    candidate start step s < s + 86400 := by
  have hnear := firstFrom_lt start (s + 1) hstep
  unfold candidate
  split_ifs
  · omega
  · omega

theorem slotFrom_le_day (hlow : 0 ≤ s) : plan.slotFrom s ≤ s + 86400 := by
  have horder := plan.early_lt
  have hday := plan.late_lt
  unfold slotFrom
  split_ifs with hbefore hduring
  · exact min_le_of_left_le (by omega)
  · exact min_le_of_left_le (by omega)
  · exact min_le_of_left_le (by omega)

end DayPlan

/-! ## The words of the source -/

section Words

variable {dayStart wallS earliest : Int64} {window : ReportingWindowConfig} {base s : ℤ}

/-- The start of a window and its interval, in seconds. -/
def ReportingWindowConfig.startS (window : ReportingWindowConfig) : ℤ :=
  60 * window.startMinute.toNat

def ReportingWindowConfig.intervalS (window : ReportingWindowConfig) : ℤ :=
  60 * window.intervalMinutes.toNat

theorem toInt_widened (count : UInt16) : (widened count).toInt = count.toNat :=
  toInt_ofUInt16 count

theorem toInt_widened_secsPerMin (count : UInt16) :
    (widened count * secsPerMin).toInt = 60 * count.toNat := by
  have hcount := count.toNat_lt
  rw [toInt_mul] <;> rw [toInt_widened, show secsPerMin.toInt = 60 by rfl]
  · omega
  · constructor <;> omega

theorem toInt_ite_lt (a b : Int64) :
    (if a < b then a else b).toInt = min b.toInt a.toInt := by
  by_cases hlt : a < b
  · rw [if_pos hlt, min_eq_right (Int64.lt_iff_toInt_lt.mp hlt).le]
  · rw [if_neg hlt, min_eq_left (not_lt.mp (mt Int64.lt_iff_toInt_lt.mpr hlt))]

/-- The instant that the loop computes past a start. -/
theorem toInt_nextS (hwindow : WindowAccepted window) (hnonneg : 0 ≤ base)
    (hwall : wallS.toInt = base + s) (hhigh : s < 86400)
    (hroom : base + s + 86400 < 2 ^ 63) {firstSlotS : Int64}
    (hfirst : firstSlotS.toInt = base + window.startS) (hpast : window.startS < s) :
    (firstSlotS +
      widened ((((wallS - firstSlotS) /
          (widened window.intervalMinutes * secsPerMin)).toUInt64.toUInt16 + 1)) *
        widened window.intervalMinutes * secsPerMin).toInt =
      base + firstFrom window.startS window.intervalS (s + 1) := by
  obtain ⟨hstart, hpos, hle⟩ := hwindow
  have hstep : 0 < window.intervalS := by
    unfold ReportingWindowConfig.intervalS
    omega
  have hstartS : 0 ≤ window.startS := by
    unfold ReportingWindowConfig.startS
    omega
  have helapsed : (wallS - firstSlotS).toInt = s - window.startS := by
    rw [toInt_sub] <;> rw [hwall, hfirst]
    · ring
    · constructor <;> omega
  have hinterval : (widened window.intervalMinutes * secsPerMin).toInt =
      window.intervalS := toInt_widened_secsPerMin _
  have hquotient : ((wallS - firstSlotS) /
      (widened window.intervalMinutes * secsPerMin)).toInt =
        (s - window.startS) / window.intervalS := by
    rw [toInt_div (pos_iff.mpr (by rw [hinterval]; exact hstep)), helapsed, hinterval,
      Int.tdiv_eq_ediv_of_nonneg (by omega)]
  generalize (wallS - firstSlotS) / (widened window.intervalMinutes * secsPerMin) =
    quotient at hquotient ⊢
  have hsmall : quotient.toInt ≤ 288 := by
    rw [hquotient]
    apply Int.ediv_le_of_le_mul hstep
    unfold ReportingWindowConfig.intervalS
    omega
  have hquotient_nonneg : 0 ≤ quotient.toInt := by
    rw [hquotient]
    exact Int.ediv_nonneg (by omega) hstep.le
  have hordinal : ((quotient.toUInt64.toUInt16 + 1).toNat : ℤ) = quotient.toInt + 1 := by
    have hword := toNat_toUInt16 hquotient_nonneg (by omega)
    rw [UInt16.toNat_add, UInt16.toNat_one]
    omega
  have hproduct :
      (widened (quotient.toUInt64.toUInt16 + 1) *
        widened window.intervalMinutes * secsPerMin).toInt =
        (quotient.toInt + 1) * window.intervalS := by
    have hbound : (quotient.toInt + 1) * (window.intervalMinutes.toNat : ℤ) ≤ 289 * 60 :=
      mul_le_mul (by omega) (by omega) (by omega) (by omega)
    have hlower : 0 ≤ (quotient.toInt + 1) * (window.intervalMinutes.toNat : ℤ) :=
      mul_nonneg (by omega) (by omega)
    have hslots : (widened (quotient.toUInt64.toUInt16 + 1) *
        widened window.intervalMinutes).toInt =
          (quotient.toInt + 1) * window.intervalMinutes.toNat := by
      rw [toInt_mul] <;> rw [toInt_widened, toInt_widened, hordinal]
      constructor <;> omega
    rw [toInt_mul] <;> rw [hslots, show secsPerMin.toInt = 60 by rfl]
    · unfold ReportingWindowConfig.intervalS
      ring
    · constructor <;> omega
  have hnext : firstFrom window.startS window.intervalS (s + 1) =
      window.startS + (quotient.toInt + 1) * window.intervalS := by
    rw [firstFrom_succ_eq hstep, hquotient]
  have hnear := firstFrom_lt window.startS (s + 1) hstep
  have hbeyond := le_firstFrom window.startS (s + 1) hstep
  have hday : window.intervalS ≤ 3600 := by
    unfold ReportingWindowConfig.intervalS
    omega
  rw [toInt_add] <;> rw [hfirst, hproduct]
  · omega
  · constructor <;> omega

theorem toInt_considerWindow (hwindow : WindowAccepted window)
    (hbase : dayStart.toInt = base) (hnonneg : 0 ≤ base)
    (hwall : wallS.toInt = base + s) (hlow : 0 ≤ s) (hhigh : s < 86400)
    (hroom : base + s + 86400 < 2 ^ 63) :
    (rsConsiderWindow dayStart wallS earliest window).toInt =
      min earliest.toInt
        (base + DayPlan.candidate window.startS window.intervalS s) := by
  have hactive : window.intervalMinutes ≠ 0 := by
    intro hzero
    have hpos := hwindow.interval_pos
    rw [hzero] at hpos
    exact absurd hpos (by decide)
  have hfirst : (dayStart + widened window.startMinute * secsPerMin).toInt =
      base + window.startS := by
    have hstart := hwindow.start
    rw [toInt_add] <;> rw [hbase, toInt_widened_secsPerMin]
    · rfl
    · constructor <;> omega
  unfold rsConsiderWindow
  rw [if_neg hactive]
  dsimp only
  generalize dayStart + widened window.startMinute * secsPerMin = firstSlotS at hfirst ⊢
  have hahead : firstSlotS ≥ wallS ↔ s ≤ window.startS := by
    rw [ge_iff_le, Int64.le_iff_toInt_le, hfirst, hwall]
    omega
  unfold DayPlan.candidate
  by_cases hbefore : s ≤ window.startS
  · rw [if_pos (hahead.mpr hbefore), if_pos hbefore, toInt_ite_lt, hfirst]
  · rw [if_neg (mt hahead.mp hbefore), if_neg hbefore, toInt_ite_lt,
      toInt_nextS hwindow hnonneg hwall hhigh hroom hfirst (not_le.mp hbefore)]

theorem considerWindow_le (dayStart wallS earliest : Int64)
    (window : ReportingWindowConfig) :
    (rsConsiderWindow dayStart wallS earliest window).toInt ≤ earliest.toInt := by
  unfold rsConsiderWindow
  dsimp only
  split_ifs with hinactive hahead hless hless
  · exact le_rfl
  · exact (Int64.lt_iff_toInt_lt.mp hless).le
  · exact le_rfl
  · exact (Int64.lt_iff_toInt_lt.mp hless).le
  · exact le_rfl

theorem considerTomorrow_le (tomorrow earliest : Int64)
    (window : ReportingWindowConfig) :
    (rsConsiderTomorrow tomorrow earliest window).toInt ≤ earliest.toInt := by
  unfold rsConsiderTomorrow
  split_ifs with hless
  · exact (Int64.lt_iff_toInt_lt.mp hless).le
  · exact le_rfl

theorem toInt_dayS (wallS : Int64) : (rsDayS wallS).toInt = wallS.toInt % 86400 := by
  have hword : (wallS % 86400).toInt = wallS.toInt.tmod 86400 := Int64.toInt_mod _ _
  have htrunc := Int.tmod_eq_emod (a := wallS.toInt) (b := 86400)
  have hlow := Int.emod_nonneg wallS.toInt (show (86400 : ℤ) ≠ 0 by decide)
  have hhigh := Int.emod_lt_of_pos wallS.toInt (show (0 : ℤ) < 86400 by decide)
  have hneg : wallS % 86400 < 0 ↔ wallS.toInt.tmod 86400 < 0 := by
    rw [neg_iff, hword]
  unfold rsDayS
  by_cases hbelow : wallS.toInt.tmod 86400 < 0
  · rw [if_pos (hneg.mpr hbelow), toInt_add] <;>
      rw [hword, show (86400 : Int64).toInt = 86400 by rfl]
    · split_ifs at htrunc <;> omega
    · constructor <;> split_ifs at htrunc <;> omega
  · rw [if_neg (mt hneg.mp hbelow), hword]
    split_ifs at htrunc <;> omega

theorem toNat_minute (wallS : Int64) :
    ((rsMinute wallS).toNat : ℤ) = wallS.toInt % 86400 / 60 := by
  have hlow := Int.emod_nonneg wallS.toInt (show (86400 : ℤ) ≠ 0 by decide)
  have hhigh := Int.emod_lt_of_pos wallS.toInt (show (0 : ℤ) < 86400 by decide)
  have hword : (rsDayS wallS / 60).toInt = wallS.toInt % 86400 / 60 := by
    rw [toInt_div (by decide), toInt_dayS, show (60 : Int64).toInt = 60 by rfl,
      Int.tdiv_eq_ediv_of_nonneg hlow]
  rw [rsMinute, toNat_toUInt16, hword] <;> rw [hword] <;> omega

end Words

/-! ## The plan of a configuration -/

section Plan

variable {cfg : ReportingScheduleConfig} {t wallS : Int64}

def ReportingScheduleConfig.earlyWindow (cfg : ReportingScheduleConfig) : Fin 2 :=
  if (cfg.windows secondWindow).startMinute > (cfg.windows firstWindow).startMinute then
    firstWindow
  else secondWindow

def ReportingScheduleConfig.lateWindow (cfg : ReportingScheduleConfig) : Fin 2 :=
  if (cfg.windows secondWindow).startMinute > (cfg.windows firstWindow).startMinute then
    secondWindow
  else firstWindow

theorem early_start_lt (haccepted : rsValidateConfig cfg = .ok ()) :
    (cfg.windows cfg.earlyWindow).startS < (cfg.windows cfg.lateWindow).startS := by
  have hdistinct := (rsValidateConfig_ok haccepted).2
  rw [Ne, ← UInt16.toNat_inj] at hdistinct
  unfold ReportingScheduleConfig.earlyWindow ReportingScheduleConfig.lateWindow
    ReportingWindowConfig.startS
  split_ifs with horder <;> rw [gt_iff_lt, UInt16.lt_iff_toNat_lt] at horder <;> omega

/-- The plan that an accepted configuration lays out. -/
def dayPlan (cfg : ReportingScheduleConfig) (haccepted : rsValidateConfig cfg = .ok ()) :
    DayPlan where
  early := (cfg.windows cfg.earlyWindow).startS
  late := (cfg.windows cfg.lateWindow).startS
  earlyStep := (cfg.windows cfg.earlyWindow).intervalS
  lateStep := (cfg.windows cfg.lateWindow).intervalS
  early_nonneg := by
    unfold ReportingWindowConfig.startS
    omega
  early_lt := early_start_lt haccepted
  late_lt := by
    have hstart := ((rsValidateConfig_ok haccepted).1 cfg.lateWindow).start
    unfold ReportingWindowConfig.startS
    omega
  earlyStep_pos := by
    have hpos := ((rsValidateConfig_ok haccepted).1 cfg.earlyWindow).interval_pos
    unfold ReportingWindowConfig.intervalS
    omega
  lateStep_pos := by
    have hpos := ((rsValidateConfig_ok haccepted).1 cfg.lateWindow).interval_pos
    unfold ReportingWindowConfig.intervalS
    omega

/-- An instant at which the active window reports. -/
def IsReportSlot (cfg : ReportingScheduleConfig) (t : Int64) : Prop :=
  t.toInt % 60 = 0 ∧
    ((cfg.windows (rsGetActiveWindow cfg t)).intervalMinutes.toNat : ℤ) ∣
      (t.toInt / 60 - (cfg.windows (rsGetActiveWindow cfg t)).startMinute.toNat) % 1440

theorem getActiveWindow_eq (haccepted : rsValidateConfig cfg = .ok ()) (t : Int64) :
    rsGetActiveWindow cfg t =
      if (dayPlan cfg haccepted).early ≤ t.toInt % 86400 ∧
          t.toInt % 86400 < (dayPlan cfg haccepted).late then
        cfg.earlyWindow
      else cfg.lateWindow := by
  have hminute := toNat_minute t
  unfold rsGetActiveWindow dayPlan ReportingScheduleConfig.earlyWindow
    ReportingScheduleConfig.lateWindow ReportingWindowConfig.startS
  dsimp only
  split_ifs <;> simp_all only [ge_iff_le, gt_iff_lt, UInt16.le_iff_toNat_le,
    UInt16.lt_iff_toNat_lt] <;> omega

/-- Counting in seconds instead of whole minutes. -/
theorem minutes_iff_seconds {start interval z : ℤ} :
    (z % 60 = 0 ∧ interval ∣ (z / 60 - start) % 1440) ↔
      60 * interval ∣ (z - 60 * start) % 86400 := by
  constructor
  · rintro ⟨hwhole, hslot⟩
    rw [show (z - 60 * start) % 86400 = 60 * ((z / 60 - start) % 1440) by omega]
    exact mul_dvd_mul_left 60 hslot
  · intro hslot
    have hminute : (60 : ℤ) ∣ (z - 60 * start) % 86400 :=
      (dvd_mul_right 60 interval).trans hslot
    have hwhole : z % 60 = 0 := by omega
    refine ⟨hwhole, ?_⟩
    rw [show (z - 60 * start) % 86400 = 60 * ((z / 60 - start) % 1440) by omega] at hslot
    exact (mul_dvd_mul_iff_left (by decide)).mp hslot

theorem isReportSlot_iff (haccepted : rsValidateConfig cfg = .ok ()) (t : Int64) :
    IsReportSlot cfg t ↔ (dayPlan cfg haccepted).IsSlot t.toInt := by
  have hnonneg := (dayPlan cfg haccepted).early_nonneg
  have hlate := (dayPlan cfg haccepted).late_lt
  rw [IsReportSlot, minutes_iff_seconds, getActiveWindow_eq haccepted, DayPlan.IsSlot]
  split_ifs with hactive
  · change (dayPlan cfg haccepted).earlyStep ∣
      (t.toInt - (dayPlan cfg haccepted).early) % 86400 ↔ _
    rw [show (t.toInt - (dayPlan cfg haccepted).early) % 86400 =
      t.toInt % 86400 - (dayPlan cfg haccepted).early by omega]
  · rfl

theorem answer_eq_min (haccepted : rsValidateConfig cfg = .ok ()) (s : ℤ) :
    (dayPlan cfg haccepted).answer s =
      min
        (DayPlan.candidate (cfg.windows firstWindow).startS
          (cfg.windows firstWindow).intervalS s)
        (DayPlan.candidate (cfg.windows secondWindow).startS
          (cfg.windows secondWindow).intervalS s) := by
  unfold DayPlan.answer dayPlan ReportingScheduleConfig.earlyWindow
    ReportingScheduleConfig.lateWindow
  dsimp only
  split_ifs
  · rfl
  · exact min_comm _ _

theorem candidate_window_lt (haccepted : rsValidateConfig cfg = .ok ()) (i : Fin 2)
    {s : ℤ} (hlow : 0 ≤ s) :
    DayPlan.candidate (cfg.windows i).startS (cfg.windows i).intervalS s <
      s + 86400 := by
  obtain ⟨hstart, hpos, hle⟩ := (rsValidateConfig_ok haccepted).1 i
  unfold ReportingWindowConfig.startS ReportingWindowConfig.intervalS
  apply DayPlan.candidate_lt hlow <;> omega

theorem toInt_getNextDue (haccepted : rsValidateConfig cfg = .ok ())
    (hwall : 0 ≤ wallS.toInt) (hroom : wallS.toInt + 86400 < 2 ^ 63) :
    (rsGetNextDue cfg wallS).toInt =
      wallS.toInt / 86400 * 86400 +
        (dayPlan cfg haccepted).answer (wallS.toInt % 86400) := by
  have hwindows := (rsValidateConfig_ok haccepted).1
  have hlow : 0 ≤ wallS.toInt % 86400 := by omega
  have hfirst := candidate_window_lt haccepted firstWindow hlow
  have hsecond := candidate_window_lt haccepted secondWindow hlow
  have hquotient : (wallS / 86400).toInt = wallS.toInt / 86400 := by
    rw [toInt_div (by decide), show (86400 : Int64).toInt = 86400 by rfl,
      Int.tdiv_eq_ediv_of_nonneg hwall]
  have hbase : (wallS / 86400 * 86400).toInt = wallS.toInt / 86400 * 86400 := by
    rw [toInt_mul] <;> rw [hquotient, show (86400 : Int64).toInt = 86400 by rfl]
    constructor <;> omega
  have hbound : (wallS + 86400).toInt = wallS.toInt + 86400 := by
    rw [toInt_add] <;> rw [show (86400 : Int64).toInt = 86400 by rfl]
    constructor <;> omega
  have hconsider : ∀ i earliest,
      (rsConsiderWindow (wallS / 86400 * 86400) wallS earliest (cfg.windows i)).toInt =
        min earliest.toInt (wallS.toInt / 86400 * 86400 +
          DayPlan.candidate (cfg.windows i).startS (cfg.windows i).intervalS
            (wallS.toInt % 86400)) := by
    intro i earliest
    apply toInt_considerWindow (hwindows i) hbase <;> omega
  have hearliest :
      (rsConsiderWindow (wallS / 86400 * 86400) wallS
        (rsConsiderWindow (wallS / 86400 * 86400) wallS (wallS + 86400)
          (cfg.windows firstWindow))
        (cfg.windows secondWindow)).toInt =
        wallS.toInt / 86400 * 86400 +
          (dayPlan cfg haccepted).answer (wallS.toInt % 86400) := by
    rw [hconsider, hconsider, hbound, answer_eq_min]
    omega
  unfold rsGetNextDue
  dsimp only
  rw [if_neg, hearliest]
  rw [ge_iff_le, Int64.le_iff_toInt_le, hearliest, hbound, answer_eq_min]
  omega

/-- The bound that the search starts from, when it wraps. -/
theorem getNextDue_neg (hroom : ¬ wallS.toInt + 86400 < 2 ^ 63) :
    (rsGetNextDue cfg wallS).toInt < 0 := by
  have hword := (fits_toInt wallS).2
  have hbound : (wallS + 86400).toInt < 0 := by
    rw [Int64.toInt_add, show (86400 : Int64).toInt = 86400 by rfl, Int.bmod_def]
    split_ifs <;> omega
  have hfirst := considerWindow_le (wallS / 86400 * 86400) wallS (wallS + 86400)
    (cfg.windows firstWindow)
  unfold rsGetNextDue
  dsimp only
  generalize rsConsiderWindow (wallS / 86400 * 86400) wallS (wallS + 86400)
    (cfg.windows firstWindow) = earliest at hfirst ⊢
  have hsecond := considerWindow_le (wallS / 86400 * 86400) wallS earliest
    (cfg.windows secondWindow)
  generalize rsConsiderWindow (wallS / 86400 * 86400) wallS earliest
    (cfg.windows secondWindow) = earliest' at hsecond ⊢
  split_ifs
  · have hthird := considerTomorrow_le (wallS / 86400 * 86400 + 86400) earliest'
      (cfg.windows firstWindow)
    exact ((considerTomorrow_le _ _ _).trans
      (hthird.trans (hsecond.trans hfirst))).trans_lt hbound
  · exact (hsecond.trans hfirst).trans_lt hbound

end Plan

end Swfpm
