import Swfpm.Processing.ProfileValidation

/-!
# The range and the symmetry of the flow computation

`flow_compute` checks every product on the way to the flow.  Over unbounded
integers the same terms give the flow of the transit-time relation, so the
computation succeeds exactly where every term fits a word, which is a smaller
range than that of the result.
-/

namespace Swfpm

open Int64Range

/-! ## The terms over unbounded integers -/

namespace FlowProfile

variable (profile : FlowProfile)

/-- The velocity that a time difference stands for, in millimetres a second. -/
def velocity (deltaTof : ℤ) : ℤ :=
  (profile.acousticVelocity.toInt * profile.acousticVelocity.toInt * deltaTof *
    1000).tdiv (profile.pathLength.toInt * 2000000000000)

/-- The flow before the calibration. -/
def uncalibrated (deltaTof : ℤ) : ℤ :=
  (profile.velocity deltaTof * profile.pipeArea.toInt).tdiv 1000

/-- Every product up to the uncalibrated flow is a word. -/
structure TermsFit (deltaTof : ℤ) : Prop where
  square : Fits (profile.acousticVelocity.toInt * profile.acousticVelocity.toInt)
  scaled : Fits (profile.acousticVelocity.toInt * profile.acousticVelocity.toInt *
    deltaTof)
  numerator : Fits (profile.acousticVelocity.toInt *
    profile.acousticVelocity.toInt * deltaTof * 1000)
  denominator : Fits (profile.pathLength.toInt * 2000000000000)
  volume : Fits (profile.velocity deltaTof * profile.pipeArea.toInt)

theorem velocity_neg (deltaTof : ℤ) :
    profile.velocity (-deltaTof) = -profile.velocity deltaTof := by
  unfold velocity
  rw [mul_neg, neg_mul, Int.neg_tdiv]

theorem uncalibrated_neg (deltaTof : ℤ) :
    profile.uncalibrated (-deltaTof) = -profile.uncalibrated deltaTof := by
  unfold uncalibrated
  rw [velocity_neg, neg_mul, Int.neg_tdiv]

end FlowProfile

/-- The last two steps, from the words of numerator and denominator. -/
theorem rawTail_eq_some_iff {profile : FlowProfile} {top bottom : ℤ} {raw : Int64}
    (htop : Fits top) (hbottom : Fits bottom) (hpositive : 0 < bottom) :
    (if Int64.ofInt bottom = 0 then none
      else do
        let flowRaw ←
          exact ((Int64.ofInt top / Int64.ofInt bottom).toInt *
            profile.pipeArea.toInt)
        some (flowRaw / 1000)) = some raw ↔
      Fits (top.tdiv bottom * profile.pipeArea.toInt) ∧
        raw.toInt = (top.tdiv bottom * profile.pipeArea.toInt).tdiv 1000 := by
  have hword : 0 < Int64.ofInt bottom := by
    rw [← gt_iff_lt, pos_iff, hbottom.toInt_ofInt]
    exact hpositive
  have hzero : ¬ Int64.ofInt bottom = 0 := by
    intro heq
    rw [heq] at hword
    exact absurd hword (by decide)
  rw [if_neg hzero, exact_bind_eq_some_iff, toInt_div hword, htop.toInt_ofInt,
    hbottom.toInt_ofInt]
  apply and_congr_right
  intro hvolume
  rw [Option.some.injEq, ← Int64.toInt_inj, toInt_div (by decide),
    hvolume.toInt_ofInt]
  exact eq_comm

theorem rawFlow_eq_some_iff {profile : FlowProfile} {deltaTof raw : Int64}
    (hlength : 0 < profile.pathLength.toInt) :
    rawFlow deltaTof profile = some raw ↔
      profile.TermsFit deltaTof.toInt ∧
        raw.toInt = profile.uncalibrated deltaTof.toInt := by
  have hthousand : (1000 : Int64).toInt = 1000 := by rfl
  have hscale : (2000000000000 : Int64).toInt = 2000000000000 := by rfl
  have hpositive : 0 < profile.pathLength.toInt * 2000000000000 := by omega
  unfold rawFlow
  simp only [checkedMulI64_eq, hscale, hthousand]
  -- The word behind each check is the product that it was made of.
  constructor
  · intro hraw
    obtain ⟨hsquare, hraw⟩ := exact_bind_eq_some_iff.mp hraw
    rw [hsquare.toInt_ofInt] at hraw
    obtain ⟨hscaled, hraw⟩ := exact_bind_eq_some_iff.mp hraw
    rw [hscaled.toInt_ofInt] at hraw
    obtain ⟨hnumerator, hraw⟩ := exact_bind_eq_some_iff.mp hraw
    obtain ⟨hdenominator, hraw⟩ := exact_bind_eq_some_iff.mp hraw
    obtain ⟨hvolume, hvalue⟩ :=
      (rawTail_eq_some_iff hnumerator hdenominator hpositive).mp hraw
    exact ⟨⟨hsquare, hscaled, hnumerator, hdenominator, hvolume⟩, hvalue⟩
  · rintro ⟨⟨hsquare, hscaled, hnumerator, hdenominator, hvolume⟩, hvalue⟩
    apply exact_bind_eq_some_iff.mpr ⟨hsquare, _⟩
    rw [hsquare.toInt_ofInt]
    apply exact_bind_eq_some_iff.mpr ⟨hscaled, _⟩
    rw [hscaled.toInt_ofInt]
    apply exact_bind_eq_some_iff.mpr ⟨hnumerator, _⟩
    apply exact_bind_eq_some_iff.mpr ⟨hdenominator, _⟩
    exact (rawTail_eq_some_iff hnumerator hdenominator hpositive).mpr
      ⟨hvolume, hvalue⟩

/-! ## The calibration -/

theorem toInt_shiftedOne {shift : UInt8} (hshift : shift < 62) :
    ((1 : Int64) <<< shift.toUInt64.toInt64).toInt = 2 ^ shift.toNat := by
  have hall : ∀ n : Fin 62,
      ((1 : Int64) <<< (UInt8.ofNat n).toUInt64.toInt64).toInt = 2 ^ n.val := by
    decide +kernel
  have hlt : shift.toNat < 62 := UInt8.lt_iff_toNat_lt.mp hshift
  have hpower := hall ⟨shift.toNat, hlt⟩
  rwa [UInt8.ofNat_toNat] at hpower

theorem applyGainOffset_eq_some_iff {x gain offset y : Int64} {shift : UInt8}
    (hshift : shift < 62) :
    applyGainOffset x gain offset shift = some y ↔
      Fits (x.toInt * gain.toInt) ∧ Fits (x.toInt * gain.toInt + offset.toInt) ∧
        y.toInt =
          if shift = 0 then x.toInt * gain.toInt + offset.toInt
          else roundedQuotient (x.toInt * gain.toInt + offset.toInt)
            (2 ^ shift.toNat) := by
  unfold applyGainOffset
  simp only [checkedMulI64_eq, checkedAddI64_eq]
  rw [exact_bind_eq_some_iff]
  apply and_congr_right
  intro hproduct
  rw [hproduct.toInt_ofInt, exact_bind_eq_some_iff]
  apply and_congr_right
  intro hsum
  rw [Option.some.injEq, ← Int64.toInt_inj, eq_comm]
  split_ifs with hzero
  · rw [hsum.toInt_ofInt]
  · have hpower := toInt_shiftedOne hshift
    have hnat : shift.toNat ≠ 0 := by
      intro heq
      exact hzero (UInt8.toNat_inj.mp heq)
    have htwo : (2 : ℤ) ≤ 2 ^ shift.toNat := by
      calc (2 : ℤ) = 2 ^ 1 := by norm_num
        _ ≤ 2 ^ shift.toNat := pow_le_pow_right₀ (by norm_num) (by omega)
    rw [roundI64_eq, hpower, hsum.toInt_ofInt]
    · omega
    · rw [hpower]
      omega

/-! ## One computation -/

def directionOf (flow : Int64) : FlowDirection :=
  if flow > 0 then .forward else if flow < 0 then .reverse else .none

/-- The transit times and the profile pass the first check. -/
structure TofAdmitted (tofUpPs tofDownPs : Int64) (profile : FlowProfile) :
    Prop where
  upMin : 8000000 ≤ tofUpPs.toInt
  upMax : tofUpPs.toInt ≤ 8000000000
  downMin : 8000000 ≤ tofDownPs.toInt
  downMax : tofDownPs.toInt ≤ 8000000000
  length : 0 < profile.pathLength.toInt
  area : 0 < profile.pipeArea.toInt
  velocity : 0 < profile.acousticVelocity.toInt

/-- The paired temperature passes its check. -/
def TemperatureAdmitted (pairedTempMdegC : Int32) : Prop :=
  ¬ (pairedTempMdegC < -50000 ∨ pairedTempMdegC > 150000)

instance (pairedTempMdegC : Int32) :
    Decidable (TemperatureAdmitted pairedTempMdegC) :=
  inferInstanceAs (Decidable (¬ (_ ∨ _)))

variable {tofUpPs tofDownPs : Int64} {profile : FlowProfile}
  {cal : CalibrationRecord} {pairedTempMdegC : Int32} {candidate : FlowCandidate}

theorem TofAdmitted.toInt_delta
    (hadmitted : TofAdmitted tofUpPs tofDownPs profile) :
    (tofDownPs - tofUpPs).toInt = tofDownPs.toInt - tofUpPs.toInt := by
  obtain ⟨hupMin, hupMax, hdownMin, hdownMax, -, -, -⟩ := hadmitted
  apply toInt_sub
  constructor <;> omega

theorem TofAdmitted.checkedSub
    (hadmitted : TofAdmitted tofUpPs tofDownPs profile) :
    checkedSubI64 tofDownPs tofUpPs = some (tofDownPs - tofUpPs) := by
  rw [checkedSubI64_eq, exact_eq_some_iff]
  exact hadmitted.toInt_delta

/-- The calibrated flow of a time difference, where every step is a word. -/
def calibratedFlow (deltaTof : Int64) (profile : FlowProfile)
    (cal : CalibrationRecord) : Option Int64 :=
  (rawFlow deltaTof profile).bind fun raw =>
    applyGainOffset raw cal.gain cal.offset cal.shift

theorem tofRefused_iff :
    (tofUpPs < 8000000 ∨ tofDownPs < 8000000 ∨ tofUpPs > 8000000000 ∨
      tofDownPs > 8000000000 ∨ profile.pathLength ≤ 0 ∨ profile.pipeArea ≤ 0 ∨
      profile.acousticVelocity ≤ 0) ↔ ¬ TofAdmitted tofUpPs tofDownPs profile := by
  have hmin : (8000000 : Int64).toInt = 8000000 := by rfl
  have hmax : (8000000000 : Int64).toInt = 8000000000 := by rfl
  simp only [Int64.lt_iff_toInt_lt, Int64.le_iff_toInt_le, gt_iff_lt, hmin, hmax,
    Int64.toInt_zero]
  constructor
  · rintro hrefused ⟨hupMin, hupMax, hdownMin, hdownMax, hlength, harea, hvelocity⟩
    omega
  · intro hrefused
    by_contra hpass
    exact hrefused ⟨by omega, by omega, by omega, by omega, by omega, by omega,
      by omega⟩

theorem flowCompute_of_refused
    (hrefused : ¬ TofAdmitted tofUpPs tofDownPs profile) :
    flowCompute tofUpPs tofDownPs pairedTempMdegC profile cal =
      (.invalidTof, ⟨0, .forward⟩) := by
  unfold flowCompute
  rw [if_pos (tofRefused_iff.mpr hrefused)]

theorem flowCompute_of_cold (cal : CalibrationRecord)
    (hadmitted : TofAdmitted tofUpPs tofDownPs profile)
    (hcold : ¬ TemperatureAdmitted pairedTempMdegC) :
    flowCompute tofUpPs tofDownPs pairedTempMdegC profile cal =
      (.temperatureMissing, ⟨0, .forward⟩) := by
  have hdelta : checkedSubI64 tofDownPs tofUpPs = some (tofDownPs - tofUpPs) :=
    hadmitted.checkedSub
  have hpass := mt tofRefused_iff.mp (not_not.mpr hadmitted)
  unfold TemperatureAdmitted at hcold
  unfold flowCompute
  rw [if_neg hpass, hdelta]
  simp only [if_pos (not_not.mp hcold)]

theorem flowCompute_of_admitted (cal : CalibrationRecord)
    (hadmitted : TofAdmitted tofUpPs tofDownPs profile)
    (htemperature : TemperatureAdmitted pairedTempMdegC) :
    flowCompute tofUpPs tofDownPs pairedTempMdegC profile cal =
      match calibratedFlow (tofDownPs - tofUpPs) profile cal with
      | none => (.numericError, ⟨0, .forward⟩)
      | some flow => (.ok, ⟨flow, directionOf flow⟩) := by
  have hdelta : checkedSubI64 tofDownPs tofUpPs = some (tofDownPs - tofUpPs) :=
    hadmitted.checkedSub
  have hpass := mt tofRefused_iff.mp (not_not.mpr hadmitted)
  unfold flowCompute calibratedFlow
  rw [if_neg hpass, hdelta]
  unfold TemperatureAdmitted at htemperature
  simp only [if_neg htemperature]
  cases hraw : rawFlow (tofDownPs - tofUpPs) profile with
  | none => rfl
  | some raw =>
      rw [Option.bind_some]
      cases hflow : applyGainOffset raw cal.gain cal.offset cal.shift with
      | none => simp only [hflow]
      | some flow =>
          simp only [hflow]
          rfl

/-! ## The range of the result -/

/-- The flow that the formula gives over unbounded integers, without a shift. -/
def exactFlow (deltaTof : ℤ) (profile : FlowProfile) (cal : CalibrationRecord) :
    ℤ :=
  profile.uncalibrated deltaTof * cal.gain.toInt + cal.offset.toInt

/-- Every term of the computation is a word. -/
def EveryTermFits (deltaTof : ℤ) (profile : FlowProfile)
    (cal : CalibrationRecord) : Prop :=
  profile.TermsFit deltaTof ∧
    Fits (profile.uncalibrated deltaTof * cal.gain.toInt) ∧
    Fits (exactFlow deltaTof profile cal)

theorem calibratedFlow_eq_some_iff {deltaTof flow : Int64}
    (hlength : 0 < profile.pathLength.toInt) (hshift : cal.shift = 0) :
    calibratedFlow deltaTof profile cal = some flow ↔
      EveryTermFits deltaTof.toInt profile cal ∧
        flow.toInt = exactFlow deltaTof.toInt profile cal := by
  unfold calibratedFlow EveryTermFits exactFlow
  rw [Option.bind_eq_some_iff]
  constructor
  · rintro ⟨raw, hraw, hflow⟩
    obtain ⟨hterms, hvalue⟩ := (rawFlow_eq_some_iff hlength).mp hraw
    rw [applyGainOffset_eq_some_iff (by rw [hshift]; decide), if_pos hshift,
      hvalue] at hflow
    exact ⟨⟨hterms, hflow.1, hflow.2.1⟩, hflow.2.2⟩
  · rintro ⟨⟨hterms, hproduct, hsum⟩, hvalue⟩
    have hfits : Fits (profile.uncalibrated deltaTof.toInt) :=
      hterms.volume.tdiv (by decide)
    refine ⟨Int64.ofInt (profile.uncalibrated deltaTof.toInt),
      (rawFlow_eq_some_iff hlength).mpr ⟨hterms, hfits.toInt_ofInt⟩, ?_⟩
    rw [applyGainOffset_eq_some_iff (by rw [hshift]; decide), if_pos hshift,
      hfits.toInt_ofInt]
    exact ⟨hproduct, hsum, hvalue⟩

theorem calibratedFlow_eq_none_iff {deltaTof : Int64}
    (hlength : 0 < profile.pathLength.toInt) (hshift : cal.shift = 0) :
    calibratedFlow deltaTof profile cal = none ↔
      ¬ EveryTermFits deltaTof.toInt profile cal := by
  constructor
  · intro hnone hterms
    have hsome := (calibratedFlow_eq_some_iff hlength hshift).mpr
      ⟨hterms, hterms.2.2.toInt_ofInt⟩
    rw [hnone] at hsome
    cases hsome
  · intro hterms
    rw [Option.eq_none_iff_forall_ne_some]
    intro flow hsome
    exact hterms ((calibratedFlow_eq_some_iff hlength hshift).mp hsome).1

/-- A result that fits is returned, and a numeric error means one that does
not. -/
structure FullRange (tofUpPs tofDownPs : Int64) (pairedTempMdegC : Int32)
    (profile : FlowProfile) (cal : CalibrationRecord) : Prop where
  returned :
    Fits (exactFlow (tofDownPs.toInt - tofUpPs.toInt) profile cal) →
      (flowCompute tofUpPs tofDownPs pairedTempMdegC profile cal).1 = .ok ∧
        (flowCompute tofUpPs tofDownPs pairedTempMdegC profile cal).2.flowUlPerS.toInt =
          exactFlow (tofDownPs.toInt - tofUpPs.toInt) profile cal
  refused :
    (flowCompute tofUpPs tofDownPs pairedTempMdegC profile cal).1 = .numericError →
      ¬ Fits (exactFlow (tofDownPs.toInt - tofUpPs.toInt) profile cal)

/-- The computation has the range of its result exactly where every term on the
way fits as well, or where the result does not fit in the first place. -/
theorem flowCompute_fullRange_iff (tofUpPs tofDownPs : Int64)
    (pairedTempMdegC : Int32) (profile : FlowProfile) (cal : CalibrationRecord)
    (haccepted : profileValidateFlow profile = .ok ())
    (hvelocity : 0 < profile.acousticVelocity) (hshift : cal.shift = 0)
    (hup : 8000000 ≤ tofUpPs ∧ tofUpPs ≤ 8000000000)
    (hdown : 8000000 ≤ tofDownPs ∧ tofDownPs ≤ 8000000000) :
    FullRange tofUpPs tofDownPs pairedTempMdegC profile cal ↔
      ¬ Fits (exactFlow (tofDownPs.toInt - tofUpPs.toInt) profile cal) ∨
        (TemperatureAdmitted pairedTempMdegC ∧
          EveryTermFits (tofDownPs.toInt - tofUpPs.toInt) profile cal) := by
  obtain ⟨harea, hlength⟩ := profileValidateFlow_ok haccepted
  have hadmitted : TofAdmitted tofUpPs tofDownPs profile :=
    ⟨Int64.le_iff_toInt_le.mp hup.1, Int64.le_iff_toInt_le.mp hup.2,
      Int64.le_iff_toInt_le.mp hdown.1, Int64.le_iff_toInt_le.mp hdown.2, hlength,
      harea, pos_iff.mp hvelocity⟩
  by_cases htemperature : TemperatureAdmitted pairedTempMdegC
  · have hcompute := flowCompute_of_admitted cal hadmitted htemperature
    rw [and_iff_right htemperature]
    by_cases hterms : EveryTermFits (tofDownPs.toInt - tofUpPs.toInt) profile cal
    · have hsome : calibratedFlow (tofDownPs - tofUpPs) profile cal =
          some (Int64.ofInt (exactFlow (tofDownPs.toInt - tofUpPs.toInt) profile
            cal)) := by
        rw [calibratedFlow_eq_some_iff hlength hshift, hadmitted.toInt_delta]
        exact ⟨hterms, hterms.2.2.toInt_ofInt⟩
      rw [hsome] at hcompute
      constructor
      · intro hrange
        exact .inr hterms
      · intro hcondition
        constructor
        · intro hfits
          rw [hcompute]
          exact ⟨rfl, hfits.toInt_ofInt⟩
        · intro herror
          rw [hcompute] at herror
          cases herror
    · have hnone : calibratedFlow (tofDownPs - tofUpPs) profile cal = none := by
        rw [calibratedFlow_eq_none_iff hlength hshift, hadmitted.toInt_delta]
        exact hterms
      rw [hnone] at hcompute
      constructor
      · intro hrange
        exact .inl (hrange.refused (by rw [hcompute]))
      · intro hcondition
        have hover := hcondition.resolve_right hterms
        constructor
        · intro hfits
          exact absurd hfits hover
        · intro herror
          exact hover
  · have hcompute := flowCompute_of_cold cal hadmitted htemperature
    constructor
    · intro hrange
      left
      intro hfits
      have hok := (hrange.returned hfits).1
      rw [hcompute] at hok
      cases hok
    · intro hcondition
      have hover := hcondition.resolve_right fun h => htemperature h.1
      constructor
      · intro hfits
        exact absurd hfits hover
      · intro herror
        exact hover

/-- A path of 100 mm through a section of one square millimetre. -/
def narrowPipe : FlowProfile :=
  { id := ⟨1, 1, 0, 1⟩, pipeArea := 1000, pathLength := 100000
    acousticVelocity := 1480000 }

def unitCalibration : CalibrationRecord :=
  { recordVersion := 1, gain := 1, offset := 0, shift := 0 }

theorem flowCompute_fullRange_nanosecond :
    FullRange 100000000 100001000 25000 narrowPipe unitCalibration ↔
      ¬ Fits (exactFlow ((100001000 : Int64).toInt - (100000000 : Int64).toInt)
          narrowPipe unitCalibration) ∨
        (TemperatureAdmitted 25000 ∧
          EveryTermFits ((100001000 : Int64).toInt - (100000000 : Int64).toInt)
            narrowPipe unitCalibration) :=
  flowCompute_fullRange_iff 100000000 100001000 25000 narrowPipe unitCalibration
    rfl (by decide) rfl (by decide) (by decide)

/-- Five nanoseconds stand for 54 mm/s, but the numerator overflows. -/
theorem flowCompute_fiveNanoseconds :
    exactFlow ((100005000 : Int64).toInt - (100000000 : Int64).toInt) narrowPipe
        unitCalibration = 54 ∧
      ¬ FullRange 100000000 100005000 25000 narrowPipe unitCalibration := by
  refine ⟨by decide, ?_⟩
  intro hrange
  have hok := (hrange.returned (by decide)).1
  have herror : (flowCompute 100000000 100005000 25000 narrowPipe
      unitCalibration).1 = .numericError := by
    decide
  rw [herror] at hok
  cases hok

/-! ## Exchanging the transit times -/

/-- An even divisor leaves a remainder that is zero or half of it. -/
theorem half_dvd_iff {n k : ℕ} (hk : 0 < k) :
    k ∣ n ↔ n % (2 * k) = 0 ∨ n % (2 * k) = k := by
  have hbelow := Nat.mod_lt n (show 0 < 2 * k by omega)
  rw [← Nat.dvd_mod_iff (Dvd.intro_left 2 rfl)]
  generalize n % (2 * k) = r at *
  constructor
  · rintro ⟨c, rfl⟩
    have hc : c < 2 := by
      by_contra hlarge
      have := Nat.mul_le_mul_left k (not_lt.mp hlarge)
      omega
    interval_cases c
    · exact .inl (Nat.mul_zero k)
    · exact .inr (Nat.mul_one k)
  · rintro (rfl | rfl)
    · exact Nat.dvd_zero k
    · exact Nat.dvd_refl r

theorem roundedQuotient_cases (v d : ℤ) :
    ((d / 2 < (v.natAbs % d.natAbs : ℕ) ∨
        ((v.natAbs % d.natAbs : ℕ) = d / 2 ∧ ¬ (v / d) % 2 = 0)) ∧
      roundedQuotient v d = v / d + 1) ∨
    (¬ (d / 2 < (v.natAbs % d.natAbs : ℕ) ∨
        ((v.natAbs % d.natAbs : ℕ) = d / 2 ∧ ¬ (v / d) % 2 = 0)) ∧
      roundedQuotient v d = v / d) := by
  by_cases hrounds : RoundsUp v d
  · exact .inl ⟨hrounds, if_pos hrounds⟩
  · exact .inr ⟨hrounds, if_neg hrounds⟩

/-- The rounding mirrors the values at and half-way between the integers, and
no others. -/
theorem roundedQuotient_neg_iff {v : ℤ} {k : ℕ} (hk : 0 < k) :
    roundedQuotient (-v) (2 * k : ℕ) = -roundedQuotient v (2 * k : ℕ) ↔
      (k : ℤ) ∣ v := by
  have hd : (0 : ℤ) < (2 * k : ℕ) := by omega
  have hhalf : ((2 * k : ℕ) : ℤ) / 2 = k := by omega
  have hfloor := floor_cases v hd
  have hfloor' := floor_cases (-v) hd
  have hvalue := roundedQuotient_cases v (2 * k : ℕ)
  have hvalue' := roundedQuotient_cases (-v) (2 * k : ℕ)
  have hbelow := Nat.mod_lt v.natAbs (show 0 < 2 * k by omega)
  have hzero : v = 0 → v.natAbs % (2 * k) = 0 ∧ v.natAbs / (2 * k) = 0 := by
    rintro rfl
    exact ⟨Nat.zero_mod (2 * k), Nat.zero_div (2 * k)⟩
  rw [← Int.dvd_natAbs, Int.natCast_dvd_natCast, half_dvd_iff hk]
  rw [Int.natAbs_neg] at hvalue' hfloor'
  rw [Int.natAbs_natCast] at hfloor hfloor' hvalue hvalue'
  rw [hhalf] at hvalue hvalue'
  generalize roundedQuotient v (2 * k : ℕ) = rounded at *
  generalize roundedQuotient (-v) (2 * k : ℕ) = rounded' at *
  generalize v / (2 * k : ℕ) = floor at *
  generalize -v / (2 * k : ℕ) = floor' at *
  generalize v.natAbs % (2 * k) = r at *
  generalize v.natAbs / (2 * k) = q at *
  clear hd hhalf
  rcases hfloor with ⟨hv, hq, -⟩ | ⟨hv, hr, hq, -⟩ | ⟨hv, hr, hq, -⟩ <;>
    rcases hfloor' with ⟨hv', hq', -⟩ | ⟨hv', hr', hq', -⟩ | ⟨hv', hr', hq', -⟩ <;>
    subst hq hq' <;> omega

def mirrored : FlowDirection → FlowDirection
  | .forward => .reverse
  | .reverse => .forward
  | .none => .none

theorem directionOf_neg {flow flow' : Int64} (hneg : flow'.toInt = -flow.toInt) :
    directionOf flow' = mirrored (directionOf flow) := by
  unfold directionOf
  simp only [pos_iff, neg_iff, hneg]
  rcases lt_trichotomy flow.toInt 0 with hsign | hsign | hsign
  · rw [if_pos (by omega), if_neg (by omega), if_pos hsign]
    rfl
  · rw [if_neg (by omega), if_neg (by omega), if_neg (by omega), if_neg (by omega)]
    rfl
  · rw [if_neg (by omega), if_pos (by omega), if_pos hsign]
    rfl

/-- What a successful computation has gone through. -/
theorem flowCompute_ok
    (hok : flowCompute tofUpPs tofDownPs pairedTempMdegC profile cal =
      (.ok, candidate)) :
    TofAdmitted tofUpPs tofDownPs profile ∧
      calibratedFlow (tofDownPs - tofUpPs) profile cal =
        some candidate.flowUlPerS ∧
      candidate.direction = directionOf candidate.flowUlPerS := by
  have hadmitted : TofAdmitted tofUpPs tofDownPs profile := by
    by_contra hrefused
    rw [flowCompute_of_refused hrefused] at hok
    cases hok
  have htemperature : TemperatureAdmitted pairedTempMdegC := by
    by_contra hcold
    rw [flowCompute_of_cold cal hadmitted hcold] at hok
    cases hok
  rw [flowCompute_of_admitted cal hadmitted htemperature] at hok
  cases hflow : calibratedFlow (tofDownPs - tofUpPs) profile cal with
  | none =>
      rw [hflow] at hok
      cases hok
  | some flow =>
      rw [hflow] at hok
      cases hok
      exact ⟨hadmitted, rfl, rfl⟩

/-- Without an offset, the calibrated flow is the rounding of a product. -/
theorem calibratedFlow_value {deltaTof flow : Int64}
    (hlength : 0 < profile.pathLength.toInt) (hoffset : cal.offset = 0)
    (hshift : cal.shift < 62)
    (hflow : calibratedFlow deltaTof profile cal = some flow) :
    flow.toInt =
      if cal.shift = 0 then
        profile.uncalibrated deltaTof.toInt * cal.gain.toInt
      else
        roundedQuotient (profile.uncalibrated deltaTof.toInt * cal.gain.toInt)
          (2 ^ cal.shift.toNat) := by
  obtain ⟨raw, hraw, hflow⟩ := Option.bind_eq_some_iff.mp hflow
  obtain ⟨-, hvalue⟩ := (rawFlow_eq_some_iff hlength).mp hraw
  obtain ⟨-, -, hresult⟩ := (applyGainOffset_eq_some_iff hshift).mp hflow
  rw [hresult, hvalue, hoffset, Int64.toInt_zero, add_zero]

/-- The reverse flow is the mirror image of the forward one exactly where the
calibration does not shift, or shifts a multiple of half of its divisor. -/
theorem flowCompute_antisymmetric_iff (tofUpPs tofDownPs : Int64)
    (pairedTempMdegC : Int32) (profile : FlowProfile) (cal : CalibrationRecord)
    (onward backward : FlowCandidate) (hoffset : cal.offset = 0)
    (hshift : cal.shift < 62)
    (honward : flowCompute tofUpPs tofDownPs pairedTempMdegC profile cal =
      (.ok, onward))
    (hbackward : flowCompute tofDownPs tofUpPs pairedTempMdegC profile cal =
      (.ok, backward)) :
    (backward.flowUlPerS.toInt = -onward.flowUlPerS.toInt ∧
      backward.direction = mirrored onward.direction) ↔
      cal.shift = 0 ∨
        2 ^ (cal.shift.toNat - 1) ∣
          profile.uncalibrated (tofDownPs.toInt - tofUpPs.toInt) *
            cal.gain.toInt := by
  obtain ⟨hadmitted, hflow, hdirection⟩ := flowCompute_ok honward
  obtain ⟨hadmitted', hflow', hdirection'⟩ := flowCompute_ok hbackward
  have hvalue := calibratedFlow_value hadmitted.length hoffset hshift hflow
  have hvalue' := calibratedFlow_value hadmitted.length hoffset hshift hflow'
  rw [hadmitted.toInt_delta] at hvalue
  rw [hadmitted'.toInt_delta, ← neg_sub, profile.uncalibrated_neg, neg_mul] at hvalue'
  have hdirections : backward.flowUlPerS.toInt = -onward.flowUlPerS.toInt →
      backward.direction = mirrored onward.direction := by
    intro hneg
    rw [hdirection, hdirection', directionOf_neg hneg]
  rw [and_iff_left_of_imp hdirections, hvalue, hvalue']
  by_cases hzero : cal.shift = 0
  · rw [if_pos hzero, if_pos hzero]
    simp [hzero]
  · have hnat : cal.shift.toNat ≠ 0 := by
      intro heq
      exact hzero (UInt8.toNat_inj.mp heq)
    have hpower : (2 : ℤ) ^ cal.shift.toNat =
        (2 * 2 ^ (cal.shift.toNat - 1) : ℕ) := by
      push_cast
      rw [← pow_succ', Nat.sub_add_cancel (Nat.one_le_iff_ne_zero.mpr hnat)]
    rw [if_neg hzero, if_neg hzero, hpower, roundedQuotient_neg_iff (by positivity),
      or_iff_right hzero]
    push_cast
    rfl

/-- The calibration that divides by 1024 what it has multiplied by 1024. -/
def evenCalibration : CalibrationRecord :=
  { recordVersion := 1, gain := 1024, offset := 0, shift := 10 }

theorem flowCompute_antisymmetric_nanosecond :
    ((-10 : Int64).toInt = -(10 : Int64).toInt ∧
      FlowDirection.reverse = mirrored .forward) ↔
      evenCalibration.shift = 0 ∨
        2 ^ (evenCalibration.shift.toNat - 1) ∣
          narrowPipe.uncalibrated
              ((100001000 : Int64).toInt - (100000000 : Int64).toInt) *
            evenCalibration.gain.toInt :=
  flowCompute_antisymmetric_iff 100000000 100001000 25000 narrowPipe
    evenCalibration ⟨10, .forward⟩ ⟨-10, .reverse⟩ rfl (by decide) (by decide)
    (by decide)

def eighthCalibration : CalibrationRecord :=
  { recordVersion := 1, gain := 1, offset := 0, shift := 3 }

/-- Ten eighths are metered as one forward and as two in reverse. -/
theorem flowCompute_tenEighths :
    flowCompute 100000000 100001000 25000 narrowPipe eighthCalibration =
        (.ok, ⟨1, .forward⟩) ∧
      flowCompute 100001000 100000000 25000 narrowPipe eighthCalibration =
        (.ok, ⟨-2, .reverse⟩) ∧
      (-2 : Int64).toInt ≠ -(1 : Int64).toInt := by
  decide

end Swfpm
