import Swfpm.Support.Timeline
import Swfpm.Volume.Conservation

/-!
# Which time is metered

The intervals that a run integrates form a chain as long as no admitted sample
is older than the anchor.  A backward sample moves the anchor back, and the
samples after it meter the same time again.
-/

namespace Swfpm

/-- The metered stretch of time, ends included. -/
def Integration.interval (integration : Integration) : Set ℝ :=
  Set.Icc (integration.anchorTime : ℝ) integration.sampleTime

namespace Meter

open VolumeAccumulator

variable {meter : Meter} {flow : FlowResult} {lower upper : ℕ}

/-- An admitted sample is not older than the anchor it meets. -/
def Follows (accumulator : VolumeAccumulator) (flow : FlowResult) : Prop :=
  accumulator.Admits flow → accumulator.anchorValid = true →
    accumulator.anchorSampleUs ≤ flow.metadata.sampleMonotonicUs

instance (accumulator : VolumeAccumulator) (flow : FlowResult) :
    Decidable (Follows accumulator flow) :=
  inferInstanceAs (Decidable (_ → _ → _))

/-- Every sample of a sequence follows, from a given accumulator on. -/
def AllFollow (accumulator : VolumeAccumulator) : List FlowResult → Prop
  | [] => True
  | flow :: rest =>
      Follows accumulator flow ∧ AllFollow (accumulator.consume flow).2 rest

instance decidableAllFollow :
    (accumulator : VolumeAccumulator) → (flows : List FlowResult) →
      Decidable (AllFollow accumulator flows)
  | _, [] => inferInstanceAs (Decidable True)
  | accumulator, flow :: rest =>
      have := decidableAllFollow (accumulator.consume flow).2 rest
      inferInstanceAs (Decidable (_ ∧ _))

/-- The status of every call of a run. -/
def statuses (accumulator : VolumeAccumulator) :
    List FlowResult → List VolumeConsumeStatus
  | [] => []
  | flow :: rest =>
      (accumulator.consume flow).1 :: statuses (accumulator.consume flow).2 rest

/-- The integrated intervals form a chain that ends at the anchor, inside a
window of time that also holds the anchor. -/
structure Covered (lower upper : ℕ) (meter : Meter) : Prop where
  chained : Timeline.Chained Integration.anchorTime Integration.sampleTime
    meter.integrations
  inside : ∀ integration ∈ meter.integrations,
    lower ≤ integration.anchorTime ∧ integration.sampleTime ≤ upper
  unanchored : meter.accumulator.anchorValid = false → meter.integrations = []
  anchored : meter.accumulator.anchorValid = true →
    lower ≤ meter.accumulator.anchorSampleUs.toNat ∧
    meter.accumulator.anchorSampleUs.toNat ≤ upper ∧
    ∀ integration ∈ meter.integrations,
      integration.sampleTime ≤ meter.accumulator.anchorSampleUs.toNat

theorem start_covered (config : Option VolumeConfig) (lower upper : ℕ) :
    Covered lower upper (start config) := by
  refine ⟨Timeline.chained_nil, by simp [start], fun _ => rfl, ?_⟩
  intro hanchor
  cases config <;> simp [start, init, cleared] at hanchor

/-- The anchor may move forward inside the window. -/
theorem Covered.reanchor (hmeter : Covered lower upper meter)
    {accumulator : VolumeAccumulator}
    (hvalid : accumulator.anchorValid = true)
    (hlower : lower ≤ accumulator.anchorSampleUs.toNat)
    (hupper : accumulator.anchorSampleUs.toNat ≤ upper)
    (hforward : meter.accumulator.anchorValid = true →
      meter.accumulator.anchorSampleUs.toNat ≤
        accumulator.anchorSampleUs.toNat) :
    Covered lower upper ⟨accumulator, meter.integrations⟩ := by
  refine ⟨hmeter.chained, hmeter.inside, fun hinvalid => ?_, fun _ => ?_⟩
  · simp [hvalid] at hinvalid
  · refine ⟨hlower, hupper, ?_⟩
    intro integration hmem
    cases hanchor : meter.accumulator.anchorValid with
    | false => simp [hmeter.unanchored hanchor] at hmem
    | true =>
        exact ((hmeter.anchored hanchor).2.2 integration hmem).trans
          (hforward hanchor)

/-- A call keeps the chain when its sample follows. -/
theorem Covered.call (hmeter : Covered lower upper meter)
    (hfollows : Follows meter.accumulator flow)
    (hlower : lower ≤ flow.metadata.sampleMonotonicUs.toNat)
    (hupper : flow.metadata.sampleMonotonicUs.toNat ≤ upper) :
    Covered lower upper (meter.call (.consume flow)) := by
  simp only [Meter.call]
  have hstep := consume_step meter.accumulator flow
  generalize meter.accumulator.consume flow = result at hstep ⊢
  obtain ⟨status, next⟩ := result
  simp only at hstep ⊢
  cases hstep with
  | refused hadmission =>
      obtain ⟨⟨_, _, _, _, rfl⟩, hstatus, -⟩ := checkAdmission_frame hadmission
      rw [if_neg hstatus]
      exact ⟨hmeter.chained, hmeter.inside, hmeter.unanchored, hmeter.anchored⟩
  | anchored hadmission hanchor =>
      apply hmeter.reanchor rfl hlower hupper
      intro hvalid
      simp [hanchor] at hvalid
  | zeroInterval hadmission hanchor htime =>
      obtain ⟨hlow, hup, -⟩ := hmeter.anchored hanchor
      exact hmeter.reanchor hanchor hlow hup fun _ => le_refl _
  | backward hadmission hanchor htime =>
      exact absurd htime (UInt64.not_lt.mpr (hfollows hadmission hanchor))
  | gap hadmission hanchor htime hgap =>
      rw [if_neg (by decide)]
      refine hmeter.reanchor ?_ hlower hupper ?_
      · exact hanchor
      · intro _
        exact (UInt64.lt_iff_toNat_lt.mp htime).le
  | overflow hadmission hanchor htime hgap hoverflow =>
      exact ⟨hmeter.chained, hmeter.inside, hmeter.unanchored, hmeter.anchored⟩
  | @integrated mid hadmission hanchor htime hgap hmid =>
      obtain ⟨_, _, _, _, rfl⟩ := integrate_frame hmid
      obtain ⟨hlow, hup, hstops⟩ := hmeter.anchored hanchor
      rw [if_pos rfl]
      refine ⟨hmeter.chained.cons hstops, ?_, fun hinvalid => ?_, fun _ => ?_⟩
      · intro integration hmem
        rcases List.mem_cons.mp hmem with rfl | hmem
        · exact ⟨hlow, hupper⟩
        · exact hmeter.inside integration hmem
      · rw [show meter.accumulator.anchorValid = false from hinvalid] at hanchor
        exact absurd hanchor (by decide)
      · refine ⟨hlower, hupper, ?_⟩
        intro integration hmem
        rcases List.mem_cons.mp hmem with rfl | hmem
        · exact le_refl _
        · exact (hstops integration hmem).trans
            (UInt64.lt_iff_toNat_lt.mp htime).le

theorem Covered.calls {flows : List FlowResult}
    (hmeter : Covered lower upper meter)
    (hfollow : AllFollow meter.accumulator flows)
    (hlower : ∀ flow ∈ flows, lower ≤ flow.metadata.sampleMonotonicUs.toNat)
    (hupper : ∀ flow ∈ flows, flow.metadata.sampleMonotonicUs.toNat ≤ upper) :
    Covered lower upper ((flows.map .consume).foldl Meter.call meter) := by
  induction flows generalizing meter with
  | nil => exact hmeter
  | cons flow flows ih =>
      apply ih
      · exact hmeter.call hfollow.1 (hlower flow List.mem_cons_self)
          (hupper flow List.mem_cons_self)
      · exact hfollow.2
      · exact fun flow hmem => hlower flow (List.mem_cons_of_mem _ hmem)
      · exact fun flow hmem => hupper flow (List.mem_cons_of_mem _ hmem)

/-- No time is metered twice in a run in which every admitted sample follows
its anchor: two integrated intervals have disjoint interiors, and the metered
time fits between the earliest and the latest sample. -/
theorem metered_once (config : Option VolumeConfig) (flows : List FlowResult)
    (hfollow : AllFollow (init config) flows) :
    let integrations := (run config (flows.map .consume)).integrations
    (integrations.Pairwise fun first second =>
      Disjoint (interior first.interval) (interior second.interval)) ∧
    ∀ earliest ∈ flows, ∀ latest ∈ flows,
      (∀ flow ∈ flows,
        earliest.metadata.sampleMonotonicUs ≤ flow.metadata.sampleMonotonicUs ∧
        flow.metadata.sampleMonotonicUs ≤ latest.metadata.sampleMonotonicUs) →
      (integrations.map Integration.duration).sum ≤
        latest.metadata.sampleMonotonicUs.toNat -
          earliest.metadata.sampleMonotonicUs.toNat := by
  intro integrations
  constructor
  · have hcovered : Covered 0 (2 ^ 64) (run config (flows.map .consume)) :=
      (start_covered config 0 (2 ^ 64)).calls hfollow (by simp)
        fun flow _ => (UInt64.toNat_lt _).le
    have hchain := hcovered.chained.comp (Nat.mono_cast (α := ℝ))
    simp only [Integration.interval, interior_Icc]
    exact hchain.disjoint_interiors
  · intro earliest hearliest latest hlatest hbounds
    have hcovered :
        Covered earliest.metadata.sampleMonotonicUs.toNat
          latest.metadata.sampleMonotonicUs.toNat
          (run config (flows.map .consume)) := by
      apply (start_covered config _ _).calls hfollow
      · intro flow hmem
        exact UInt64.le_iff_toNat_le.mp (hbounds flow hmem).1
      · intro flow hmem
        exact UInt64.le_iff_toNat_le.mp (hbounds flow hmem).2
    have hwindow : (earliest.metadata.sampleMonotonicUs.toNat : ℤ) ≤
        latest.metadata.sampleMonotonicUs.toNat :=
      Int.ofNat_le.mpr (UInt64.le_iff_toNat_le.mp (hbounds latest hlatest).1)
    apply (hcovered.chained.comp (Nat.mono_cast (α := ℤ))).sum_le hwindow
    · intro integration hmem
      exact Int.ofNat_le.mpr (hcovered.inside integration hmem).1
    · intro integration hmem
      exact Int.ofNat_le.mpr (hcovered.inside integration hmem).2

/-- A live production sample of one microlitre per second. -/
def productionSample (sequence timeUs : UInt64) : FlowResult :=
  { FlowResult.cleared with
    metadata :=
      { ResultMetadata.cleared with
        sampleSequence := sequence, sampleMonotonicUs := timeUs
        purpose := .production }
    flowUlPerS := 1 }

theorem metered_once_twoSamples :
    let integrations := (run none
      ([productionSample 1 0, productionSample 2 10].map .consume)).integrations
    (integrations.Pairwise fun first second =>
      Disjoint (interior first.interval) (interior second.interval)) ∧
    ∀ earliest ∈ [productionSample 1 0, productionSample 2 10],
      ∀ latest ∈ [productionSample 1 0, productionSample 2 10],
      (∀ flow ∈ [productionSample 1 0, productionSample 2 10],
        earliest.metadata.sampleMonotonicUs ≤ flow.metadata.sampleMonotonicUs ∧
        flow.metadata.sampleMonotonicUs ≤ latest.metadata.sampleMonotonicUs) →
      (integrations.map Integration.duration).sum ≤
        latest.metadata.sampleMonotonicUs.toNat -
          earliest.metadata.sampleMonotonicUs.toNat :=
  metered_once none [productionSample 1 0, productionSample 2 10] (by decide)

/-- Two samples delivered twice: the redelivered first one is older than the
anchor and moves it back, so the same ten microseconds are metered twice. -/
theorem not_metered_once_redelivered :
    ¬ ∀ (config : Option VolumeConfig) (flows : List FlowResult),
      (∃ generation, ∀ flow ∈ flows,
        flow.metadata.sourceGeneration = generation) →
      .overflow ∉ statuses (init config) flows →
      (run config (flows.map .consume)).integrations.Pairwise fun first second =>
        Disjoint (interior first.interval) (interior second.interval) := by
  intro hclaim
  have hpairwise := hclaim none
    [productionSample 1 0, productionSample 2 10, productionSample 1 0,
      productionSample 2 10] ⟨0, by decide⟩ (by decide +kernel)
  have hrun : (run none ([productionSample 1 0, productionSample 2 10,
      productionSample 1 0, productionSample 2 10].map .consume)).integrations =
      [⟨1, 0, 10⟩, ⟨1, 0, 10⟩] := by decide +kernel
  rw [hrun, List.pairwise_pair] at hpairwise
  have hinside : (5 : ℝ) ∈ interior (Integration.interval ⟨1, 0, 10⟩) := by
    simp only [Integration.interval, interior_Icc]
    norm_num
  exact Set.disjoint_left.mp hpairwise hinside hinside

end Meter
end Swfpm
