import Swfpm.Max35103.Device

/-!
# The measurement loop

Embedding of the `MEASURING` case of `app_max35103.c`.  The loop counts attempts
that fail, but not those that find the driver busy; after a self check that ends
in `TIMEOUT` or `ERROR` with the device ready, every later one finds it busy.
-/

namespace Swfpm.Max35103

open Swfpm.AutoCal (Max35103Status Max35103Profile)

/-! ## The physical window of a measurement -/

def waveHitCount : UInt8 := 6

def psPerDplUnit : Int64 := 500000

def profileDpl (profile : Max35103Profile) : UInt8 :=
  ((profile.tof1 &&& 0x00F0) >>> 4).toUInt8

def profileHitWave (profile : Max35103Profile) (hitIndex : ℕ) : UInt8 :=
  let word := [profile.tof3, profile.tof4, profile.tof5].getD (hitIndex / 2) 0
  let wave :=
    if hitIndex % 2 = 0 then ((word >>> 8) &&& 0x003F).toUInt8
    else (word &&& 0x003F).toUInt8
  let earliestWave := UInt8.ofNat (hitIndex + 3)
  if wave < earliestWave then earliestWave else wave

/-- The sums up to a hit, less the delay of the wave that it is on. -/
def addHit (profile : Max35103Profile) (wave : WaveEvidence)
    (sums : Int64 × Int64) (hit : ℕ) : Option (Int64 × Int64) :=
  let periodPs := (Int64.ofNat (profileDpl profile).toNat + 1) * psPerDplUnit
  let waveDelayPs := Int64.ofNat (profileHitWave profile hit).toNat * periodPs
  let upPs := wave.hitUpPs.getD hit 0 - waveDelayPs
  let downPs := wave.hitDownPs.getD hit 0 - waveDelayPs
  if upPs ≤ 0 ∨ downPs ≤ 0 then none else some (sums.1 + upPs, sums.2 + downPs)

def computeWaveZeroTof (profile : Max35103Profile) (wave : WaveEvidence) :
    Option (Int64 × Int64) :=
  let count := wave.configuredHitCount
  if wave.valid = false ∨ count = 0 ∨ count > waveHitCount then none
  else
    ((List.range count.toNat).foldlM (addHit profile wave) (0, 0)).map fun sums ↦
      (sums.1 / Int64.ofNat count.toNat, sums.2 / Int64.ofNat count.toNat)

def computeSoundSpeedQ16 (tofUpPs tofDownPs : Int64) : Option Int32 :=
  if tofUpPs ≤ 0 ∨ tofDownPs ≤ 0 then none
  else
    let numeratorQ16 : Int64 := 15000 * 1000000 * 65536
    let speedUpQ16 := numeratorQ16 / tofUpPs
    let speedDownQ16 := numeratorQ16 / tofDownPs
    let meanSpeedQ16 := speedUpQ16 + (speedDownQ16 - speedUpQ16) / 2
    if meanSpeedQ16 ≤ 0 ∨ meanSpeedQ16 > 2147483647 then none
    else some meanSpeedQ16.toInt32

/-! ## One call -/

section Calls

variable {κ : Type*} (platform : Platform κ)

/-- What `APP_MAX35103_Measure` makes of the answer of a self check. -/
def collect (measured : Max35103Status) (world : World κ) :
    (Max35103Status × RawResult × WaveEvidence) × World κ :=
  let (mailbox, driver) := world.driver.resultPop
  let world := world.set driver
  let raw := mailbox.getD .zero
  if measured ≠ .ok then ((measured, raw, .zero), world)
  else if mailbox = none then ((.noResult, raw, .zero), world)
  else if raw.valid = false then ((.deviceError, raw, .zero), world)
  else
    let ((status, wave), world) := readWaveEvidence platform .zero world
    ((if status ≠ .ok then status else decodeStatus wave.valid, raw, wave), world)

def measure (fuel : ℕ) (world : World κ) :
    Option ((Max35103Status × RawResult × WaveEvidence) × World κ) :=
  (selfCheck platform fuel world).map fun answer ↦
    collect platform answer.1 answer.2

inductive AppState where
  | autocal
  | measuring
  | recovering
  | fault
  deriving DecidableEq, Repr

def measurementPeriodMs : UInt32 := 1000
def retryDelayMs : UInt32 := 100
def maxConsecutiveErrors : UInt8 := 3

/-- The application: its driver, what it keeps of the calibration report, and its
own state. -/
structure App (κ : Type*) where
  world : World κ
  selectedProfile : Max35103Profile
  expectedMinTofPs : Int64
  expectedMaxTofPs : Int64
  state : AppState
  nextActionMs : UInt32
  consecutiveErrors : UInt8

def tickDue (nowMs deadlineMs : UInt32) : Bool :=
  decide ((nowMs - deadlineMs).toInt32 ≥ 0)

namespace App

variable (app : App κ)

/-- The wave evidence lies in the physical window and gives a speed of sound. -/
def accepts (wave : WaveEvidence) : Bool :=
  (computeWaveZeroTof app.selectedProfile wave).any fun zero ↦
    decide (app.expectedMinTofPs ≤ zero.1) && decide (zero.1 ≤ app.expectedMaxTofPs) &&
      decide (app.expectedMinTofPs ≤ zero.2) &&
      decide (zero.2 ≤ app.expectedMaxTofPs) &&
      (computeSoundSpeedQ16 zero.1 zero.2).isSome

def countError : App κ :=
  { app with
    consecutiveErrors :=
      if app.consecutiveErrors < 255 then app.consecutiveErrors + 1
      else app.consecutiveErrors }

def judge (nowMs : UInt32) (status : Max35103Status) (wave : WaveEvidence) : App κ :=
  if status = .ok then
    if app.accepts wave then { app with consecutiveErrors := 0 } else app.countError
  else if status = .busy then { app with nextActionMs := nowMs + retryDelayMs }
  else app.countError

def endAttempt : App κ :=
  if app.consecutiveErrors ≥ maxConsecutiveErrors then
    { app with state := .recovering }
  else app

/-- `AppMax35103_Run` in `MEASURING`; `none` where the self check needs more
polls. -/
def runMeasuring (fuel : ℕ) (nowMs : UInt32) : Option (App κ) :=
  if tickDue nowMs app.nextActionMs = false then some app
  else
    (measure platform fuel app.world).map fun answer ↦
      ({ app with
          world := answer.2
          nextActionMs := nowMs + measurementPeriodMs }.judge nowMs answer.1.1
        answer.1.2.2).endAttempt

/-- The attempt measures flow. -/
def Succeeds (fuel : ℕ) : Prop :=
  ∃ raw wave world, measure platform fuel app.world = some ((.ok, raw, wave), world) ∧
    app.accepts wave = true

end App

/-! ## The answers of a self check -/

variable {platform} {world checked : World κ} {fuel : ℕ} {nowMs : UInt32}
  {status : Max35103Status} {app failed : App κ}

theorem finishOperation_state : (finishOperation platform world).driver.state = .idle := by
  obtain ⟨cancels, errors, cleared⟩ :=
    clearOperation_driver platform (world.set { world.driver with state := .idle })
  unfold finishOperation
  rw [cleared]
  rfl

theorem selfCheckVerdict_answer {word : UInt16} {answer : Max35103Status × World κ}
    (judged : selfCheckVerdict platform word world = some answer) :
    answer.2.driver.state = .idle ∨ answer.1 = .deviceError ∨ answer.1 = .spiError := by
  unfold selfCheckVerdict at judged
  split_ifs at judged
  · exact .inr (.inl (congrArg Prod.fst (Option.some.inj judged)).symm)
  · dsimp only at judged
    split at judged
    · exact .inr (.inr (congrArg Prod.fst (Option.some.inj judged)).symm)
    · obtain rfl := Option.some.inj judged
      exact .inl finishOperation_state
  · exact .inr (.inl (congrArg Prod.fst (Option.some.inj judged)).symm)
  · exact .inr (.inl (congrArg Prod.fst (Option.some.inj judged)).symm)

/-- A self check that starts frees the driver or reports a failure. -/
theorem selfCheck_started (ready : world.driver.deviceReady = true)
    (configured : world.driver.configured = true)
    (available : world.driver.available = true)
    (answered : selfCheck platform fuel world = some (status, checked)) :
    checked.driver.state = .idle ∨ status ≠ .ok ∧ status ≠ .busy := by
  unfold selfCheck at answered
  rw [if_neg (by simp [ready, configured]), if_neg (by simp [available])] at answered
  dsimp only at answered
  split at answered
  · obtain ⟨rfl, -⟩ := Prod.mk.inj (Option.some.inj answered)
    exact .inr ⟨by decide, by decide⟩
  · obtain ⟨waiting, -, ended | ended | ⟨word, judged⟩⟩ := pollStatus_cases answered
    · obtain ⟨rfl, -⟩ := Prod.mk.inj ended
      exact .inr ⟨by decide, by decide⟩
    · obtain ⟨rfl, -⟩ := Prod.mk.inj ended
      exact .inr ⟨by decide, by decide⟩
    · obtain idle | rfl | rfl := selfCheckVerdict_answer judged
      · exact .inl idle
      · exact .inr ⟨by decide, by decide⟩
      · exact .inr ⟨by decide, by decide⟩

/-- The driver does not take a measurement. -/
def Driver.Gone (driver : Driver) : Prop :=
  driver.deviceReady = false ∨ driver.configured = false

theorem selfCheck_of_gone (gone : world.driver.Gone) :
    selfCheck platform fuel world = some (.notReady, world) := if_pos gone

theorem selfCheck_of_busy (present : ¬ world.driver.Gone)
    (busy : world.driver.available = false) :
    selfCheck platform fuel world = some (.busy, world) :=
  (if_neg present).trans (if_pos busy)

/-- The answer of a self check that leaves the driver in a state of failure. -/
theorem selfCheck_failed
    (answered : selfCheck platform fuel world = some (status, checked))
    (failure : checked.driver.state ≠ .idle) :
    status ≠ .ok ∧ (checked.driver.Gone ∧ status ≠ .busy ∨
      ¬ checked.driver.Gone ∧ (status = .busy ↔ world.driver.available = false)) := by
  by_cases gone : world.driver.Gone
  · rw [selfCheck_of_gone gone] at answered
    obtain ⟨rfl, rfl⟩ := Prod.mk.inj (Option.some.inj answered)
    exact ⟨by decide, .inl ⟨gone, by decide⟩⟩
  · cases available : world.driver.available with
    | false =>
        rw [selfCheck_of_busy gone available] at answered
        obtain ⟨rfl, rfl⟩ := Prod.mk.inj (Option.some.inj answered)
        exact ⟨by decide, .inr ⟨gone, iff_of_true rfl rfl⟩⟩
    | true =>
        obtain ⟨ready, configured⟩ := not_or.mp gone
        obtain idle | ⟨notOk, notBusy⟩ := selfCheck_started (by simpa using ready)
          (by simpa using configured) available answered
        · exact absurd idle failure
        · refine ⟨notOk, ?_⟩
          by_cases lost : checked.driver.Gone
          · exact .inl ⟨lost, notBusy⟩
          · exact .inr ⟨lost, iff_of_false notBusy (by decide)⟩

/-! ## The loop after a failure -/

/-- The fields that a self check asks first. -/
def Driver.gate (driver : Driver) : DriverState × Bool × Bool :=
  (driver.state, driver.deviceReady, driver.configured)

theorem resultPop_gate (driver : Driver) : driver.resultPop.2.gate = driver.gate := by
  unfold Driver.resultPop
  split_ifs <;> rfl

theorem Driver.gone_congr {driver other : Driver} (same : driver.gate = other.gate) :
    driver.Gone ↔ other.Gone := by
  have ready := congrArg (·.2.1) same
  have configured := congrArg (·.2.2) same
  unfold Driver.Gone
  exact Iff.or (by rw [show driver.deviceReady = other.deviceReady from ready])
    (by rw [show driver.configured = other.configured from configured])

/-- The count after an attempt that failed with a status. -/
def countedErrors (errors : UInt8) (status : Max35103Status) : UInt8 :=
  if status = .busy then errors
  else if errors < 255 then errors + 1 else errors

/-- A call whose attempt fails. -/
theorem runMeasuring_failed (due : tickDue nowMs app.nextActionMs = true)
    (answered : selfCheck platform fuel app.world = some (status, checked))
    (failure : status ≠ .ok) :
    ∃ next, app.runMeasuring platform fuel nowMs = some next ∧
      next.world.driver.gate = checked.driver.gate ∧
      next.consecutiveErrors = countedErrors app.consecutiveErrors status ∧
      next.state = if maxConsecutiveErrors ≤ next.consecutiveErrors then .recovering
        else app.state := by
  unfold App.runMeasuring measure
  rw [if_neg (by simp [due]), answered]
  refine ⟨_, rfl, ?_⟩
  simp only [collect, failure, ne_eq, not_false_eq_true, if_true, App.judge, if_false]
  unfold App.endAttempt countedErrors
  by_cases busy : status = .busy
  · simp only [busy, if_true]
    split_ifs <;> exact ⟨resultPop_gate _, rfl, rfl⟩
  · simp only [busy, if_false, App.countError]
    split_ifs <;> exact ⟨resultPop_gate _, rfl, rfl⟩

/-- The runs of the loop in `MEASURING`, with the attempts that they make. -/
inductive Measuring (platform : Platform κ) (first : App κ) : ℕ → App κ → Prop
  | start : Measuring platform first 0 first
  | call {attempts : ℕ} {app next : App κ} (fuel : ℕ) (nowMs : UInt32)
      (before : Measuring platform first attempts app)
      (measuring : app.state = .measuring)
      (fails : tickDue nowMs app.nextActionMs = true → ¬ app.Succeeds platform fuel)
      (ran : app.runMeasuring platform fuel nowMs = some next) :
      Measuring platform first
        (attempts + if tickDue nowMs app.nextActionMs then 1 else 0) next

/-- As long as no attempt succeeds, the application recovers before the attempts
from the last one on are as many as the errors that it allows. -/
def LeavesInTime (platform : Platform κ) (first : App κ) : Prop :=
  ∀ attempts app, Measuring platform first attempts app →
    app.state = .recovering ∨
      app.state = .measuring ∧ attempts + 1 < maxConsecutiveErrors.toNat

/-- Every further attempt finds the driver busy. -/
structure Stuck (app : App κ) : Prop where
  measuring : app.state = .measuring
  few : app.consecutiveErrors < maxConsecutiveErrors
  present : ¬ app.world.driver.Gone
  failed : app.world.driver.state ≠ .idle

theorem tickDue_self (nowMs : UInt32) : tickDue nowMs nowMs = true := by
  unfold tickDue
  rw [UInt32.sub_self]
  decide

theorem Stuck.busy (stuck : Stuck app) : app.world.driver.available = false := by
  by_contra available
  obtain ⟨idle, -, -⟩ := (Driver.available_iff _).mp (by simpa using available)
  exact stuck.failed idle

theorem Stuck.attempt (platform : Platform κ) (stuck : Stuck app) :
    ∃ next, app.runMeasuring platform 0 app.nextActionMs = some next ∧ Stuck next ∧
      ¬ app.Succeeds platform 0 := by
  have answered : selfCheck platform 0 app.world = some (.busy, app.world) :=
    selfCheck_of_busy stuck.present stuck.busy
  obtain ⟨next, ran, gate, errors, state⟩ :=
    runMeasuring_failed (tickDue_self _) answered (by decide)
  have same : next.consecutiveErrors = app.consecutiveErrors :=
    errors.trans (if_pos rfl)
  refine ⟨next, ran, ⟨?_, ?_, ?_, ?_⟩, ?_⟩
  · rw [state, if_neg (by rw [same]; exact UInt8.not_le.mpr stuck.few)]
    exact stuck.measuring
  · rw [same]
    exact stuck.few
  · rw [Driver.gone_congr gate]
    exact stuck.present
  · rw [show next.world.driver.state = _ from congrArg Prod.fst gate]
    exact stuck.failed
  · rintro ⟨raw, wave, world, measured, -⟩
    unfold measure at measured
    rw [answered] at measured
    have status := congrArg (·.1.1) (Option.some.inj measured)
    simp [collect] at status

theorem Stuck.run {first : App κ} (platform : Platform κ) (stuck : Stuck first)
    (attempts : ℕ) : ∃ app, Measuring platform first attempts app ∧ Stuck app := by
  induction attempts with
  | zero => exact ⟨first, .start, stuck⟩
  | succ attempts ih =>
      obtain ⟨app, before, held⟩ := ih
      obtain ⟨next, ran, later, fails⟩ := held.attempt platform
      have called := before.call 0 app.nextActionMs held.measuring (fun _ ↦ fails) ran
      rw [tickDue_self, if_pos rfl] at called
      exact ⟨next, called, later⟩

/-- Every further attempt finds the device gone, and counts. -/
structure Counting (attempts : ℕ) (app : App κ) : Prop where
  gone : app.world.driver.Gone
  counts : app.state = .recovering ∨ app.state = .measuring ∧
    attempts + 1 ≤ app.consecutiveErrors.toNat ∧
    app.consecutiveErrors < maxConsecutiveErrors

theorem counted_of_few {errors : UInt8} (few : errors < maxConsecutiveErrors)
    (counts : status ≠ .busy) :
    (countedErrors errors status).toNat = errors.toNat + 1 := by
  have bound : errors.toNat < 3 := UInt8.lt_iff_toNat_lt.mp few
  unfold countedErrors
  rw [if_neg counts, if_pos (UInt8.lt_iff_toNat_lt.mpr (by simp; omega)), UInt8.toNat_add]
  simp
  omega

theorem le_countedErrors {errors : UInt8} :
    maxConsecutiveErrors ≤ countedErrors errors status ↔
      maxConsecutiveErrors.toNat ≤ errors.toNat + if status = .busy then 0 else 1 := by
  rw [UInt8.le_iff_toNat_le]
  unfold countedErrors
  split_ifs with busy room
  · rfl
  · have bound : errors.toNat < 255 := UInt8.lt_iff_toNat_lt.mp room
    have sum : (errors + 1).toNat = errors.toNat + 1 := by
      rw [UInt8.toNat_add]
      exact Nat.mod_eq_of_lt (Nat.add_lt_add_right bound 1)
    rw [sum]
  · have bound : 255 ≤ errors.toNat := UInt8.le_iff_toNat_le.mp (UInt8.not_lt.mp room)
    exact iff_of_true (le_trans (by decide) bound)
      (le_trans (by decide) (Nat.le_add_right_of_le bound))

theorem Counting.run {first : App κ} {attempts : ℕ} (counting : Counting 0 first)
    (run : Measuring platform first attempts app) : Counting attempts app := by
  induction run with
  | start => exact counting
  | @call attempts app next fuel nowMs _ measuring _ ran ih =>
      obtain recovered | ⟨-, counted, few⟩ := ih.counts
      · exact absurd (measuring.symm.trans recovered) (by decide)
      cases due : tickDue nowMs app.nextActionMs with
      | false =>
          unfold App.runMeasuring at ran
          rw [if_pos due] at ran
          obtain rfl := Option.some.inj ran
          exact ⟨ih.gone, .inr ⟨measuring, counted, few⟩⟩
      | true =>
          obtain ⟨called, ran', gate, errors, state⟩ := runMeasuring_failed due
            (@selfCheck_of_gone κ platform app.world fuel ih.gone) (by decide)
          obtain rfl := Option.some.inj (ran.symm.trans ran')
          have more := counted_of_few few
            (show Max35103Status.notReady ≠ .busy by decide)
          rw [← errors] at more
          refine ⟨(Driver.gone_congr gate).mpr ih.gone, ?_⟩
          split_ifs at state with reached
          · exact .inl state
          · refine .inr ⟨state.trans measuring, ?_, UInt8.not_le.mp reached⟩
            rw [if_pos rfl, more]
            exact Nat.succ_le_succ counted

theorem leavesInTime_of_recovering {first : App κ} (recovering : first.state = .recovering) :
    LeavesInTime platform first := by
  intro attempts app run
  refine .inl ?_
  induction run with
  | start => exact recovering
  | call _ _ _ measuring _ _ ih => exact absurd (measuring.symm.trans ih) (by decide)

theorem Counting.leavesInTime {first : App κ} (counting : Counting 0 first) :
    LeavesInTime platform first := by
  intro attempts app run
  obtain recovered | ⟨measuring, counted, few⟩ := (counting.run run).counts
  · exact .inl recovered
  · exact .inr ⟨measuring, counted.trans_lt (UInt8.lt_iff_toNat_lt.mp few)⟩

theorem Stuck.not_leavesInTime {first : App κ} (stuck : Stuck first) :
    ¬ LeavesInTime platform first := by
  intro leaves
  obtain ⟨app, run, held⟩ := stuck.run platform 2
  obtain recovered | ⟨-, few⟩ := leaves 2 app run
  · exact absurd (held.measuring.symm.trans recovered) (by decide)
  · exact absurd few (by decide)

/-- The loop after a failure, by what the failure left. -/
theorem leavesInTime_after_failure {first : App κ} {errors : UInt8}
    (answered : selfCheck platform fuel app.world = some (status, checked))
    (failure : checked.driver.state ≠ .idle)
    (gate : first.world.driver.gate = checked.driver.gate)
    (counted : first.consecutiveErrors = countedErrors errors status)
    (state : first.state = if maxConsecutiveErrors ≤ first.consecutiveErrors then
      .recovering else .measuring) :
    LeavesInTime platform first ↔
      checked.driver.Gone ∨ maxConsecutiveErrors ≤ countedErrors errors status := by
  by_cases reached : maxConsecutiveErrors ≤ countedErrors errors status
  · rw [counted, if_pos reached] at state
    exact iff_of_true (leavesInTime_of_recovering state) (.inr reached)
  · have few := UInt8.not_le.mp reached
    rw [counted, if_neg reached] at state
    obtain ⟨-, ⟨gone, counts⟩ | ⟨present, -⟩⟩ := selfCheck_failed answered failure
    · refine iff_of_true (Counting.leavesInTime ⟨?_, .inr ⟨state, ?_, ?_⟩⟩) (.inl gone)
      · exact (Driver.gone_congr gate).mpr gone
      · have below : errors < maxConsecutiveErrors := by
          by_contra many
          refine reached (le_countedErrors.mpr (Nat.le_add_right_of_le ?_))
          exact UInt8.le_iff_toNat_le.mp (UInt8.not_lt.mp many)
        rw [counted, counted_of_few below counts]
        exact Nat.succ_le_succ (Nat.zero_le _)
      · rw [counted]
        exact few
    · refine iff_of_false (Stuck.not_leavesInTime ⟨state, counted ▸ few, ?_, ?_⟩) ?_
      · rw [Driver.gone_congr gate]
        exact present
      · rw [show first.world.driver.state = _ from congrArg Prod.fst gate]
        exact failure
      · exact not_or.mpr ⟨present, reached⟩

/-- After a self check that leaves the driver in `TIMEOUT` or `ERROR` the loop
recovers in time exactly if the device is gone, or the errors counted with this
one, if it was not a refusal, are enough. -/
theorem leaves_in_time_iff (platform : Platform κ) (app failed : App κ) (fuel : ℕ)
    (nowMs : UInt32) (status : Max35103Status) (checked : World κ)
    (measuring : app.state = .measuring)
    (due : tickDue nowMs app.nextActionMs = true)
    (answered : selfCheck platform fuel app.world = some (status, checked))
    (failure : checked.driver.state = .timeout ∨ checked.driver.state = .error)
    (ran : app.runMeasuring platform fuel nowMs = some failed) :
    LeavesInTime platform failed ↔
      checked.driver.deviceReady = false ∨ checked.driver.configured = false ∨
        maxConsecutiveErrors.toNat ≤
          app.consecutiveErrors.toNat + if app.world.driver.available then 1 else 0 := by
  have notIdle : checked.driver.state ≠ .idle := by
    intro idle
    rw [idle] at failure
    exact absurd failure (by decide)
  obtain ⟨notOk, kind⟩ := selfCheck_failed answered notIdle
  obtain ⟨next, ran', gate, counted, state⟩ := runMeasuring_failed due answered notOk
  obtain rfl := Option.some.inj (ran.symm.trans ran')
  rw [measuring] at state
  rw [leavesInTime_after_failure answered notIdle gate counted state, ← or_assoc]
  obtain ⟨gone, -⟩ | ⟨-, refused⟩ := kind
  · exact iff_of_true (.inl gone) (.inl gone)
  · refine or_congr Iff.rfl (le_countedErrors.trans ?_)
    cases available : app.world.driver.available with
    | false => rw [if_pos (refused.mpr available), if_neg (by decide)]
    | true =>
        rw [if_neg fun busy ↦ absurd (available.symm.trans (refused.mp busy)) (by decide),
          if_pos rfl]

end Calls

/-! ## A measurement that times out -/

/-- The application on a world, after some errors. -/
def benchApp (world : World Bench) (errors : UInt8) : App Bench :=
  { world, selectedProfile := benchProfile, expectedMinTofPs := 1
    expectedMaxTofPs := 1000000000, state := .measuring, nextActionMs := 0
    consecutiveErrors := errors }

/-- A measurement of the bench that the device reports as timed out. -/
theorem benchFailure :
    ∃ world checked : World Bench, Reachable benchPlatform world ∧
      world.driver.available = true ∧
      selfCheck benchPlatform 1 world = some (.deviceError, checked) ∧
      checked.driver.state = .error ∧ ¬ checked.driver.Gone := by
  obtain ⟨world, reached, held, -⟩ := benchRun [0x0004, 0x0008, intTimeout]
    [.resetDevice 3, .configure benchProfile]
    (fun world ↦ world.driver.available &&
      (selfCheck benchPlatform 1 world).any fun answer : Max35103Status × World Bench ↦
        decide (answer.1 = .deviceError) && decide (answer.2.driver.state = .error) &&
          answer.2.driver.deviceReady && answer.2.driver.configured)
    (by decide +kernel)
  obtain ⟨available, ended⟩ := Bool.and_eq_true_iff.mp held
  obtain ⟨⟨status, checked⟩, answered, ends⟩ := (Option.any_eq_true _ _).mp ended
  simp only [Bool.and_eq_true, decide_eq_true_eq] at ends
  obtain ⟨⟨⟨rfl, failure⟩, ready⟩, configured⟩ := ends
  exact ⟨world, checked, reached, available, answered, failure,
    by simp [Driver.Gone, ready, configured]⟩

/-- The first error of a device that is still ready is the last that counts. -/
theorem stuck_after_first_error :
    ¬ ∀ (app failed : App Bench) (fuel : ℕ) (nowMs : UInt32) (status : Max35103Status)
        (checked : World Bench), Reachable benchPlatform app.world →
      app.state = .measuring → app.consecutiveErrors = 0 →
      tickDue nowMs app.nextActionMs = true →
      selfCheck benchPlatform fuel app.world = some (status, checked) →
      (checked.driver.state = .timeout ∨ checked.driver.state = .error) →
      app.runMeasuring benchPlatform fuel nowMs = some failed →
        LeavesInTime benchPlatform failed := by
  intro claim
  obtain ⟨world, checked, reached, -, answered, failure, present⟩ := benchFailure
  obtain ⟨failed, ran, gate, counted, state⟩ :=
    @runMeasuring_failed Bench benchPlatform checked 1 0 .deviceError (benchApp world 0)
      (tickDue_self 0) answered (by decide)
  have same : selfCheck benchPlatform 1 (benchApp world 0).world =
    some (.deviceError, checked) := answered
  have leaves := claim (benchApp world 0) failed 1 0 .deviceError checked reached rfl rfl
    (tickDue_self 0) answered (.inr failure) ran
  rw [leavesInTime_after_failure same (by rw [failure]; decide) gate counted state]
    at leaves
  exact leaves.elim present
    (show ¬ maxConsecutiveErrors ≤ countedErrors 0 .deviceError by decide)

/-- The third error counts in any case. -/
theorem leaves_in_time_iff_bench :
    ∃ app failed : App Bench, app.state = .measuring ∧
      app.runMeasuring benchPlatform 1 0 = some failed ∧
      LeavesInTime benchPlatform failed := by
  obtain ⟨world, checked, -, available, answered, failure, -⟩ := benchFailure
  obtain ⟨failed, ran, -⟩ :=
    @runMeasuring_failed Bench benchPlatform checked 1 0 .deviceError (benchApp world 2)
      (tickDue_self 0) answered (by decide)
  refine ⟨benchApp world 2, failed, rfl, ran, ?_⟩
  refine (leaves_in_time_iff benchPlatform (benchApp world 2) failed 1 0 .deviceError
    checked rfl (tickDue_self 0) answered (.inr failure) ran).mpr (.inr (.inr ?_))
  rw [show (benchApp world 2).world.driver.available = true from available]
  exact le_refl 3

end Swfpm.Max35103
