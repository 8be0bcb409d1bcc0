import Swfpm.Volume.Accumulator

/-!
# Volume conservation

A meter is the accumulator together with the intervals it has integrated.  In
every run the volume counters, remainders included, hold exactly the sum of
flow times time over those intervals.
-/

namespace Swfpm

/-- One call to the accumulator. -/
inductive MeterCall where
  | consume (flow : FlowResult)
  | clearAnchor
  deriving DecidableEq, Repr

/-- What one call that returned `VOLUME_OK` integrated. -/
structure Integration where
  anchorFlow : ℤ
  anchorTime : ℕ
  sampleTime : ℕ
  deriving DecidableEq, Repr

namespace Integration

/-- In microseconds. -/
def duration (integration : Integration) : ℤ :=
  integration.sampleTime - integration.anchorTime

/-- Millionths of a microlitre that flowed forward. -/
def forward (integrations : List Integration) : ℤ :=
  ((integrations.filter (0 < ·.anchorFlow)).map fun integration =>
    integration.anchorFlow * integration.duration).sum

/-- Millionths of a microlitre that flowed backward. -/
def reverse (integrations : List Integration) : ℤ :=
  ((integrations.filter (·.anchorFlow < 0)).map fun integration =>
    |integration.anchorFlow| * integration.duration).sum

end Integration

structure Meter where
  accumulator : VolumeAccumulator
  /-- Newest first. -/
  integrations : List Integration
  deriving DecidableEq, Repr

namespace Meter

def start (config : Option VolumeConfig) : Meter :=
  ⟨.init config, []⟩

def call (meter : Meter) : MeterCall → Meter
  | .consume flow =>
      let (status, accumulator) := meter.accumulator.consume flow
      let integration : Integration :=
        { anchorFlow := meter.accumulator.anchorFlowUlPerS.toInt
          anchorTime := meter.accumulator.anchorSampleUs.toNat
          sampleTime := flow.metadata.sampleMonotonicUs.toNat }
      { accumulator
        integrations :=
          if status = .ok then integration :: meter.integrations
          else meter.integrations }
  | .clearAnchor => { meter with accumulator := meter.accumulator.clearAnchor }

def run (config : Option VolumeConfig) (calls : List MeterCall) : Meter :=
  calls.foldl call (start config)

end Meter

/-! ## The arithmetic of one interval -/

namespace VolumeAccumulator

variable {self next : VolumeAccumulator} {flow : FlowResult}
  {status : VolumeConsumeStatus} {dtUs : UInt64}

theorem checkedMulU64_eq_some {a b product : UInt64}
    (hmul : checkedMulU64 a b = some product) :
    product.toNat = a.toNat * b.toNat := by
  unfold checkedMulU64 at hmul
  split_ifs at hmul with hover
  obtain rfl := Option.some.inj hmul
  have hfits : a.toNat * b.toNat < 2 ^ 64 := by
    by_cases hzero : a.toNat = 0
    · simp [hzero]
    · have hpos : 0 < a := UInt64.lt_iff_toNat_lt.mpr (by simp; omega)
      have hle : b ≤ 0xFFFFFFFFFFFFFFFF / a :=
        UInt64.not_lt.mp fun hlt => hover ⟨hpos, hlt⟩
      have hle' : b.toNat ≤ 0xFFFFFFFFFFFFFFFF / a.toNat := by
        simpa [UInt64.le_iff_toNat_le, UInt64.toNat_div] using hle
      have := (Nat.le_div_iff_mul_le (Nat.pos_of_ne_zero hzero)).mp hle'
      rw [Nat.mul_comm]
      omega
  rw [UInt64.toNat_mul, Nat.mod_eq_of_lt hfits]

theorem checkedAddU64_eq (a b : UInt64) :
    checkedAddU64 a b =
      if a.toNat + b.toNat < 2 ^ 64 then some (a + b) else none := by
  have hb := b.toNat_lt
  have hsub : (0xFFFFFFFFFFFFFFFF - b).toNat = 0xFFFFFFFFFFFFFFFF - b.toNat := by
    apply UInt64.toNat_sub_of_le
    apply UInt64.le_iff_toNat_le.mpr
    simp
    omega
  have hguard : a > 0xFFFFFFFFFFFFFFFF - b ↔ ¬ a.toNat + b.toNat < 2 ^ 64 := by
    rw [gt_iff_lt, UInt64.lt_iff_toNat_lt, hsub]
    omega
  unfold checkedAddU64
  by_cases hfits : a.toNat + b.toNat < 2 ^ 64
  · rw [if_pos hfits, if_neg (fun hover => hguard.mp hover hfits)]
  · rw [if_neg hfits, if_pos (hguard.mpr hfits)]

theorem checkedAddU64_eq_some {a b sum : UInt64}
    (hadd : checkedAddU64 a b = some sum) :
    sum.toNat = a.toNat + b.toNat := by
  rw [checkedAddU64_eq] at hadd
  split_ifs at hadd with hfits
  obtain rfl := Option.some.inj hadd
  rw [UInt64.toNat_add, Nat.mod_eq_of_lt hfits]

/-- Rate of the anchor flow as the unsigned product uses it. -/
theorem absFlow_toNat (flow : Int64) :
    (if decide (flow < 0) = true then (-flow).toUInt64
      else flow.toUInt64).toNat = flow.toInt.natAbs := by
  have hvalue : flow.toInt =
      if 2 * flow.toUInt64.toNat < 2 ^ 64 then (flow.toUInt64.toNat : ℤ)
      else flow.toUInt64.toNat - (2 ^ 64 : ℕ) :=
    BitVec.toInt_eq_toNat_cond flow.toBitVec
  have hrange := flow.toUInt64.toNat_lt
  have hsign : flow < 0 ↔ flow.toInt < 0 := Int64.lt_iff_toInt_lt
  by_cases hnegative : flow < 0
  · have hneg : (-flow).toUInt64.toNat =
        (2 ^ 64 - flow.toUInt64.toNat) % 2 ^ 64 := by
      rw [Int64.toUInt64_neg, UInt64.toNat_neg]
      rfl
    rw [if_pos (by simpa using hnegative), hneg]
    have := hsign.mp hnegative
    split_ifs at hvalue
    · omega
    · rw [Nat.mod_eq_of_lt (by omega)]
      omega
  · rw [if_neg (by simpa using hnegative)]
    have : ¬ flow.toInt < 0 := fun hlt => hnegative (hsign.mpr hlt)
    split_ifs at hvalue <;> omega

/-- Forward volume in millionths of a microlitre. -/
def forwardContent (self : VolumeAccumulator) : ℤ :=
  self.state.forwardVolumeUl.toNat * 10 ^ 6 + self.forwardRem.toNat

def reverseContent (self : VolumeAccumulator) : ℤ :=
  self.state.reverseVolumeUl.toNat * 10 ^ 6 + self.reverseRem.toNat

/-- Integration touches the two counters and the two remainders. -/
theorem integrate_frame (hmid : self.integrate dtUs = some next) :
    ∃ forwardVolumeUl reverseVolumeUl forwardRem reverseRem,
      next =
        { self with
          state := { self.state with forwardVolumeUl, reverseVolumeUl }
          forwardRem, reverseRem } := by
  unfold integrate at hmid
  simp only [Option.bind_eq_bind, Option.bind_eq_some_iff] at hmid
  obtain ⟨product, -, numerator, -, hmid⟩ := hmid
  split_ifs at hmid
  · obtain ⟨reverseVolumeUl, -, hmid⟩ := Option.bind_eq_some_iff.mp hmid
    exact ⟨_, _, _, _, (Option.some.inj hmid).symm⟩
  · obtain ⟨forwardVolumeUl, -, hmid⟩ := Option.bind_eq_some_iff.mp hmid
    exact ⟨_, _, _, _, (Option.some.inj hmid).symm⟩
  all_goals exact ⟨_, _, _, _, (Option.some.inj hmid).symm⟩

/-- The quotient goes to the counter and the remainder is kept, so the content
grows by exactly the product. -/
theorem carry_split (numerator volume : UInt64) :
    ((volume.toNat + (numerator / timeScaleUsPerS).toNat : ℕ) : ℤ) * 10 ^ 6 +
        (numerator % timeScaleUsPerS).toNat =
      volume.toNat * 10 ^ 6 + numerator.toNat ∧
    (numerator % timeScaleUsPerS).toNat < 10 ^ 6 := by
  have hscale : timeScaleUsPerS.toNat = 10 ^ 6 := rfl
  rw [UInt64.toNat_div, UInt64.toNat_mod, hscale]
  have hsplit := Nat.div_add_mod numerator.toNat (10 ^ 6)
  refine ⟨?_, Nat.mod_lt _ (by norm_num)⟩
  push_cast
  omega

/-- What one interval adds to the content of one direction. -/
structure Adds (before after : VolumeAccumulator) (forward reverse : ℤ) :
    Prop where
  forward_eq : after.forwardContent = before.forwardContent + forward
  reverse_eq : after.reverseContent = before.reverseContent + reverse
  forward_rem : before.forwardRem.toNat < 10 ^ 6 → after.forwardRem.toNat < 10 ^ 6
  reverse_rem : before.reverseRem.toNat < 10 ^ 6 → after.reverseRem.toNat < 10 ^ 6

theorem integrate_adds (hmid : self.integrate dtUs = some next) :
    Adds self next
      (if 0 < self.anchorFlowUlPerS.toInt then
        self.anchorFlowUlPerS.toInt * dtUs.toNat else 0)
      (if self.anchorFlowUlPerS.toInt < 0 then
        |self.anchorFlowUlPerS.toInt| * dtUs.toNat else 0) := by
  unfold integrate at hmid
  simp only [Option.bind_eq_bind, Option.bind_eq_some_iff] at hmid
  obtain ⟨product, hproduct, numerator, hnumerator, hmid⟩ := hmid
  have hproduct := checkedMulU64_eq_some hproduct
  rw [absFlow_toNat] at hproduct
  have hnumerator := checkedAddU64_eq_some hnumerator
  have habs : (product.toNat : ℤ) =
      |self.anchorFlowUlPerS.toInt| * dtUs.toNat := by
    rw [hproduct, Nat.cast_mul, Int.natCast_natAbs]
  have hsign : self.anchorFlowUlPerS < 0 ↔ self.anchorFlowUlPerS.toInt < 0 :=
    Int64.lt_iff_toInt_lt
  have hsign' : self.anchorFlowUlPerS > 0 ↔ 0 < self.anchorFlowUlPerS.toInt :=
    Int64.lt_iff_toInt_lt
  have hzero : ¬ numerator / timeScaleUsPerS > 0 →
      (numerator / timeScaleUsPerS).toNat = 0 := by
    intro hdelta
    by_contra hne
    exact hdelta (UInt64.lt_iff_toNat_lt.mpr (Nat.pos_of_ne_zero hne))
  rcases lt_trichotomy self.anchorFlowUlPerS.toInt 0 with hneg | hrest | hpos
  · have hnegative : decide (self.anchorFlowUlPerS < 0) = true :=
      decide_eq_true (hsign.mpr hneg)
    obtain ⟨hsplit, hrem⟩ := carry_split numerator self.state.reverseVolumeUl
    simp only [hnegative, if_true] at hmid hnumerator
    rw [if_neg (by omega), if_pos hneg, ← habs]
    split_ifs at hmid with hdelta
    · obtain ⟨reverseVolumeUl, hadd, hmid⟩ := Option.bind_eq_some_iff.mp hmid
      obtain rfl := Option.some.inj hmid
      refine ⟨by simp [forwardContent], ?_, id, fun _ => hrem⟩
      simp only [reverseContent, checkedAddU64_eq_some hadd]
      omega
    · obtain rfl := Option.some.inj hmid
      have hquotient := hzero hdelta
      refine ⟨by simp [forwardContent], ?_, id, fun _ => hrem⟩
      simp only [reverseContent]
      omega
  · have hnonneg : decide (self.anchorFlowUlPerS < 0) = false :=
      decide_eq_false (fun hlt => by have := hsign.mp hlt; omega)
    have hnonpos : ¬ self.anchorFlowUlPerS > 0 :=
      fun hgt => by have := hsign'.mp hgt; omega
    simp only [hnonneg, hnonpos, Bool.false_eq_true, if_false, ite_self] at hmid
    obtain rfl := Option.some.inj hmid
    rw [if_neg (by omega), if_neg (by omega)]
    exact ⟨by simp, by simp, id, id⟩
  · have hnonneg : decide (self.anchorFlowUlPerS < 0) = false :=
      decide_eq_false (fun hlt => by have := hsign.mp hlt; omega)
    obtain ⟨hsplit, hrem⟩ := carry_split numerator self.state.forwardVolumeUl
    simp only [hnonneg, hsign'.mpr hpos, Bool.false_eq_true, if_false, if_true]
      at hmid hnumerator
    rw [if_pos hpos, if_neg (by omega), ← abs_of_pos hpos, ← habs]
    split_ifs at hmid with hdelta
    · obtain ⟨forwardVolumeUl, hadd, hmid⟩ := Option.bind_eq_some_iff.mp hmid
      obtain rfl := Option.some.inj hmid
      refine ⟨?_, by simp [reverseContent], fun _ => hrem, id⟩
      simp only [forwardContent, checkedAddU64_eq_some hadd]
      omega
    · obtain rfl := Option.some.inj hmid
      have hquotient := hzero hdelta
      refine ⟨?_, by simp [reverseContent], fun _ => hrem, id⟩
      simp only [forwardContent]
      omega

/-! ## One call -/

/-- Nothing is added where counters and remainders stay. -/
theorem Adds.of_eq
    (hforward : next.state.forwardVolumeUl = self.state.forwardVolumeUl)
    (hreverse : next.state.reverseVolumeUl = self.state.reverseVolumeUl)
    (hforwardRem : next.forwardRem = self.forwardRem)
    (hreverseRem : next.reverseRem = self.reverseRem) : Adds self next 0 0 := by
  constructor
  · simp [forwardContent, hforward, hforwardRem]
  · simp [reverseContent, hreverse, hreverseRem]
  · rw [hforwardRem]
    exact id
  · rw [hreverseRem]
    exact id

/-- A call that does not return `VOLUME_OK` adds nothing. -/
theorem ConsumeStep.adds_nothing (hstep : ConsumeStep self flow status next)
    (hstatus : status ≠ .ok) : Adds self next 0 0 := by
  cases hstep with
  | refused hadmission =>
      obtain ⟨⟨_, _, _, _, rfl⟩, -⟩ := checkAdmission_frame hadmission
      exact .of_eq rfl rfl rfl rfl
  | integrated => exact absurd rfl hstatus
  | anchored | zeroInterval | backward | gap | overflow =>
      exact .of_eq rfl rfl rfl rfl

/-- A call that returns `VOLUME_OK` adds the anchor flow times the interval. -/
theorem ConsumeStep.adds_interval (hstep : ConsumeStep self flow .ok next) :
    self.anchorSampleUs.toNat < flow.metadata.sampleMonotonicUs.toNat ∧
    Adds self next
      (if 0 < self.anchorFlowUlPerS.toInt then
        self.anchorFlowUlPerS.toInt *
          (flow.metadata.sampleMonotonicUs.toNat - self.anchorSampleUs.toNat)
        else 0)
      (if self.anchorFlowUlPerS.toInt < 0 then
        |self.anchorFlowUlPerS.toInt| *
          (flow.metadata.sampleMonotonicUs.toNat - self.anchorSampleUs.toNat)
        else 0) := by
  cases hstep with
  | refused hadmission => exact absurd rfl (checkAdmission_frame hadmission).2.1
  | integrated hadmission hanchor htime hgap hmid =>
      have hlt := UInt64.lt_iff_toNat_lt.mp htime
      have hdt : ((flow.metadata.sampleMonotonicUs - self.anchorSampleUs).toNat
          : ℤ) =
          flow.metadata.sampleMonotonicUs.toNat - self.anchorSampleUs.toNat := by
        rw [UInt64.toNat_sub_of_le _ _ (UInt64.le_of_lt htime),
          Nat.cast_sub hlt.le]
      refine ⟨hlt, ?_⟩
      rw [← hdt]
      obtain ⟨hforward, hreverse, hforwardRem, hreverseRem⟩ :=
        integrate_adds hmid
      exact ⟨hforward, hreverse, hforwardRem, hreverseRem⟩

end VolumeAccumulator

/-! ## Whole runs -/

namespace Meter

open VolumeAccumulator

/-- The counters hold what the integrated intervals carried. -/
structure Conserved (meter : Meter) : Prop where
  forward_eq : meter.accumulator.forwardContent =
    Integration.forward meter.integrations
  reverse_eq : meter.accumulator.reverseContent =
    Integration.reverse meter.integrations
  forward_rem : meter.accumulator.forwardRem.toNat < 10 ^ 6
  reverse_rem : meter.accumulator.reverseRem.toNat < 10 ^ 6

theorem start_conserved (config : Option VolumeConfig) :
    Conserved (start config) := by
  cases config <;> constructor <;>
    simp [start, init, cleared, VolumeState.cleared, forwardContent,
      reverseContent, Integration.forward, Integration.reverse]

theorem Conserved.call {meter : Meter} (hmeter : Conserved meter)
    (request : MeterCall) : Conserved (meter.call request) := by
  cases request with
  | clearAnchor =>
      exact ⟨hmeter.forward_eq, hmeter.reverse_eq, hmeter.forward_rem,
        hmeter.reverse_rem⟩
  | consume flow =>
      have hstep := consume_step meter.accumulator flow
      by_cases hstatus : (meter.accumulator.consume flow).1 = .ok
      · rw [hstatus] at hstep
        obtain ⟨-, hadds⟩ := hstep.adds_interval
        simp only [Meter.call, hstatus, if_true]
        constructor
        · rw [hadds.forward_eq, hmeter.forward_eq]
          simp only [Integration.forward, List.filter_cons, decide_eq_true_eq]
          split_ifs <;> simp [Integration.duration, add_comm]
        · rw [hadds.reverse_eq, hmeter.reverse_eq]
          simp only [Integration.reverse, List.filter_cons, decide_eq_true_eq]
          split_ifs <;> simp [Integration.duration, add_comm]
        · exact hadds.forward_rem hmeter.forward_rem
        · exact hadds.reverse_rem hmeter.reverse_rem
      · have hadds := hstep.adds_nothing hstatus
        simp only [Meter.call, hstatus, if_false]
        constructor
        · rw [hadds.forward_eq, add_zero, hmeter.forward_eq]
        · rw [hadds.reverse_eq, add_zero, hmeter.reverse_eq]
        · exact hadds.forward_rem hmeter.forward_rem
        · exact hadds.reverse_rem hmeter.reverse_rem

theorem conserved_foldl {meter : Meter} (hmeter : Conserved meter)
    (calls : List MeterCall) : Conserved (calls.foldl Meter.call meter) := by
  induction calls generalizing meter with
  | nil => exact hmeter
  | cons request calls ih => exact ih (hmeter.call request)

/-- Volume conservation: over every run, each counter together with its
remainder is the exact sum, over the intervals integrated in its direction, of
flow times time.  (A flow of `INT64_MIN`, whose negation the source leaves
undefined, wraps here and needs no exception.) -/
theorem volume_conserved (config : Option VolumeConfig)
    (calls : List MeterCall) :
    let meter := run config calls
    meter.accumulator.state.forwardVolumeUl.toNat * 10 ^ 6 +
        meter.accumulator.forwardRem.toNat =
      Integration.forward meter.integrations ∧
    meter.accumulator.state.reverseVolumeUl.toNat * 10 ^ 6 +
        meter.accumulator.reverseRem.toNat =
      Integration.reverse meter.integrations ∧
    meter.accumulator.forwardRem.toNat < 10 ^ 6 ∧
    meter.accumulator.reverseRem.toNat < 10 ^ 6 := by
  intro meter
  have hmeter : Conserved meter := conserved_foldl (start_conserved config) calls
  exact ⟨hmeter.forward_eq, hmeter.reverse_eq, hmeter.forward_rem,
    hmeter.reverse_rem⟩

end Meter
end Swfpm
