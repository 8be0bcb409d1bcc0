import Swfpm.Support.Int64Range

/-!
# The reporting schedule

Embedding of `domain/connectivity/reporting_types.h` and of the schedule
arithmetic of `services/connectivity/reporting_schedule.{h,c}`.  A null
configuration is not modelled, and the error text is not cut to a buffer.
-/

namespace Swfpm

structure ReportingWindowConfig where
  startMinute : UInt16
  intervalMinutes : UInt16
  deriving DecidableEq, Repr

/-- `windows` has `RS_NUM_WINDOWS` entries. -/
structure ReportingScheduleConfig where
  scheduleVersion : UInt32
  scheduleGeneration : UInt32
  utcOffsetMinutes : Int16
  windows : Fin 2 → ReportingWindowConfig

/-- The two indices of `windows`. -/
abbrev firstWindow : Fin 2 := ⟨0, Nat.zero_lt_two⟩

abbrev secondWindow : Fin 2 := ⟨1, Nat.one_lt_two⟩

def rsIntervalMin : UInt16 := 5
def rsIntervalMax : UInt16 := 60
def rsMinWindowMin : UInt16 := 30

/-- The configuration that `ReportingSchedule_Init` writes. -/
def defaultReportingSchedule : ReportingScheduleConfig :=
  { scheduleVersion := 1
    scheduleGeneration := 1
    utcOffsetMinutes := 420
    windows := ![⟨6 * 60, 15⟩, ⟨22 * 60, 5⟩] }

/-! ## Validation -/

def rsCheckWindow (i : Fin 2) (window : ReportingWindowConfig) :
    Except String Unit :=
  if window.startMinute > 1439 then .error s!"W{i} start > 1439"
  else if window.intervalMinutes < rsIntervalMin ∨
      window.intervalMinutes > rsIntervalMax then
    .error s!"W{i} interval out of 5-60"
  else .ok ()

/-- The minutes from the start of one window to that of the other. -/
def rsWindowDuration (w0s w1s : UInt16) : UInt16 :=
  if w1s > w0s then w1s - w0s else 1440 - w0s + w1s

def rsCheckStarts (w0s w1s : UInt16) : Except String Unit :=
  if w0s = w1s then .error "duplicate start"
  else if rsWindowDuration w0s w1s < rsMinWindowMin then .error "window < 30min"
  else .ok ()

def rsValidateConfig (cfg : ReportingScheduleConfig) : Except String Unit :=
  if cfg.scheduleVersion = 0 then .error "version zero"
  else do
    rsCheckWindow firstWindow (cfg.windows firstWindow)
    rsCheckWindow secondWindow (cfg.windows secondWindow)
    rsCheckStarts (cfg.windows firstWindow).startMinute
      (cfg.windows secondWindow).startMinute

/-! ## Slots -/

/-- A count of minutes or of slots as a `long long`. -/
def widened (count : UInt16) : Int64 := count.toUInt64.toInt64

/-- `SECS_PER_MIN`. -/
def secsPerMin : Int64 := 60

/-- `day_s` as it is used. -/
def rsDayS (wallS : Int64) : Int64 :=
  if wallS % 86400 < 0 then wallS % 86400 + 86400 else wallS % 86400

def rsMinute (wallS : Int64) : UInt16 :=
  (rsDayS wallS / 60).toUInt64.toUInt16

def rsGetActiveWindow (cfg : ReportingScheduleConfig) (wallS : Int64) : Fin 2 :=
  let minute := rsMinute wallS
  let w0 := (cfg.windows firstWindow).startMinute
  let w1 := (cfg.windows secondWindow).startMinute
  if w1 > w0 then
    if minute ≥ w0 ∧ minute < w1 then firstWindow else secondWindow
  else
    if minute ≥ w0 ∨ minute < w1 then firstWindow else secondWindow

/-- What the loop over the windows makes of one of them. -/
def rsConsiderWindow (dayStart wallS earliest : Int64)
    (window : ReportingWindowConfig) : Int64 :=
  if window.intervalMinutes = 0 then earliest
  else
    let firstSlotS := dayStart + widened window.startMinute * secsPerMin
    if firstSlotS ≥ wallS then
      if firstSlotS < earliest then firstSlotS else earliest
    else
      let elapsed := wallS - firstSlotS
      let ordinal :=
        (elapsed / (widened window.intervalMinutes * secsPerMin)).toUInt64.toUInt16 + 1
      let nextS :=
        firstSlotS + widened ordinal * widened window.intervalMinutes * secsPerMin
      if nextS < earliest then nextS else earliest

/-- What the second loop makes of a window. -/
def rsConsiderTomorrow (tomorrow earliest : Int64) (window : ReportingWindowConfig) :
    Int64 :=
  if tomorrow + widened window.startMinute * secsPerMin < earliest then
    tomorrow + widened window.startMinute * secsPerMin
  else earliest

def rsGetNextDue (cfg : ReportingScheduleConfig) (wallS : Int64) : Int64 :=
  let dayStart := wallS / 86400 * 86400
  let earliest :=
    rsConsiderWindow dayStart wallS (wallS + 86400) (cfg.windows firstWindow)
  let earliest :=
    rsConsiderWindow dayStart wallS earliest (cfg.windows secondWindow)
  -- Signed overflow is undefined in the source; here the words wrap.
  if earliest ≥ wallS + 86400 then
    let tomorrow := dayStart + 86400
    let earliest := rsConsiderTomorrow tomorrow earliest (cfg.windows firstWindow)
    rsConsiderTomorrow tomorrow earliest (cfg.windows secondWindow)
  else earliest

example : rsGetNextDue defaultReportingSchedule 21540 = 21600 := by decide

example : rsGetNextDue defaultReportingSchedule 79140 = 79200 := by decide

/-! ## Accepted configurations -/

/-- What the loop over the windows checks. -/
structure WindowAccepted (window : ReportingWindowConfig) : Prop where
  start : window.startMinute.toNat ≤ 1439
  interval_pos : 5 ≤ window.intervalMinutes.toNat
  interval_le : window.intervalMinutes.toNat ≤ 60

theorem windowAccepted_of_ok {i : Fin 2} {window : ReportingWindowConfig}
    (hchecked : rsCheckWindow i window = .ok ()) : WindowAccepted window := by
  unfold rsCheckWindow rsIntervalMin rsIntervalMax at hchecked
  split_ifs at hchecked with hstart hinterval
  simp only [gt_iff_lt, UInt16.lt_iff_toNat_lt, not_lt, not_or,
    show (1439 : UInt16).toNat = 1439 by rfl, show (5 : UInt16).toNat = 5 by rfl,
    show (60 : UInt16).toNat = 60 by rfl] at hstart hinterval
  exact ⟨hstart, hinterval.1, hinterval.2⟩

theorem rsValidateConfig_ok {cfg : ReportingScheduleConfig}
    (haccepted : rsValidateConfig cfg = .ok ()) :
    (∀ i, WindowAccepted (cfg.windows i)) ∧
      (cfg.windows firstWindow).startMinute ≠
        (cfg.windows secondWindow).startMinute := by
  unfold rsValidateConfig at haccepted
  split_ifs at haccepted with hversion
  cases hfirst : rsCheckWindow firstWindow (cfg.windows firstWindow) with
  | error text =>
      rw [hfirst] at haccepted
      cases haccepted
  | ok =>
      cases hsecond : rsCheckWindow secondWindow (cfg.windows secondWindow) with
      | error text =>
          rw [hfirst, hsecond] at haccepted
          cases haccepted
      | ok =>
          rw [hfirst, hsecond] at haccepted
          change rsCheckStarts _ _ = _ at haccepted
          unfold rsCheckStarts at haccepted
          split_ifs at haccepted with hsame
          refine ⟨?_, hsame⟩
          rw [Fin.forall_fin_two]
          exact ⟨windowAccepted_of_ok hfirst, windowAccepted_of_ok hsecond⟩

end Swfpm
