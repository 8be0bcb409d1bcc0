import Swfpm.Volume.PowerCycle

/-!
# A restarted source

A source that restarts sends samples of a new generation.  The accumulator
adopts that generation only while it has consumed nothing; afterwards it
refuses every sample of the new generation, for ever.  Where the generation is
adopted, the samples that follow are integrated as long as the volumes fit
their counters.
-/

namespace Swfpm

namespace VolumeAccumulator

variable {self next : VolumeAccumulator} {first flow : FlowResult}
  {flows rest : List FlowResult} {generation : UInt32} {dtUs : UInt64}

/-! ## When an interval fits -/

/-- A counter with the given content, in millionths of a microlitre, takes up
a product of flow and time without an overflow on the way. -/
def Absorbs (content product : ℕ) : Prop :=
  product + content % 10 ^ 6 < 2 ^ 64 ∧ (content + product) / 10 ^ 6 < 2 ^ 64

/-- The volumes of a stream fit both counters, from given contents and a given
anchor on. -/
def StreamFits (forward reverse : ℕ) (anchorFlow : ℤ) (anchorTime : ℕ) :
    List FlowResult → Prop
  | [] => True
  | flow :: rest =>
      let time := flow.metadata.sampleMonotonicUs.toNat
      let product := anchorFlow.natAbs * (time - anchorTime)
      if 0 < anchorFlow then
        Absorbs forward product ∧
          StreamFits (forward + product) reverse flow.flowUlPerS.toInt time rest
      else if anchorFlow < 0 then
        Absorbs reverse product ∧
          StreamFits forward (reverse + product) flow.flowUlPerS.toInt time rest
      else StreamFits forward reverse flow.flowUlPerS.toInt time rest

theorem checkedMulU64_eq (a b : UInt64) :
    checkedMulU64 a b =
      if a.toNat * b.toNat < 2 ^ 64 then some (a * b) else none := by
  cases hmul : checkedMulU64 a b with
  | some product =>
      have hproduct := checkedMulU64_eq_some hmul
      rw [if_pos (hproduct ▸ product.toNat_lt)]
      unfold checkedMulU64 at hmul
      split_ifs at hmul
      exact hmul.symm
  | none =>
      unfold checkedMulU64 at hmul
      split_ifs at hmul with hover
      obtain ⟨hpos, hdiv⟩ := hover
      have hpos' : 0 < a.toNat := UInt64.lt_iff_toNat_lt.mp hpos
      have hdiv' : 0xFFFFFFFFFFFFFFFF / a.toNat < b.toNat := by
        simpa [UInt64.lt_iff_toNat_lt, UInt64.toNat_div] using hdiv
      rw [Nat.div_lt_iff_lt_mul hpos'] at hdiv'
      rw [if_neg]
      rw [Nat.mul_comm]
      omega

/-- Content of a counter as a natural number. -/
def content (volumeUl rem : UInt64) : ℕ := volumeUl.toNat * 10 ^ 6 + rem.toNat

/-- The three overflow checks of one direction together. -/
theorem absorbs_iff {volumeUl rem : UInt64} (hrem : rem.toNat < 10 ^ 6)
    {product : ℕ} :
    Absorbs (content volumeUl rem) product ↔
      product + rem.toNat < 2 ^ 64 ∧
        volumeUl.toNat + (product + rem.toNat) / 10 ^ 6 < 2 ^ 64 := by
  have hmod : content volumeUl rem % 10 ^ 6 = rem.toNat := by
    unfold content
    omega
  have hdiv : (content volumeUl rem + product) / 10 ^ 6 =
      volumeUl.toNat + (product + rem.toNat) / 10 ^ 6 := by
    unfold content
    omega
  rw [Absorbs, hmod, hdiv]

/-- The arithmetic of one direction, whatever is done with its results. -/
theorem carry_isSome_iff {α : Type} {absFlow volumeUl rem : UInt64}
    (hrem : rem.toNat < 10 ^ 6) (carried : UInt64 → UInt64 → α)
    (kept : UInt64 → α) :
    ((checkedMulU64 absFlow dtUs).bind fun product =>
      (checkedAddU64 product rem).bind fun numerator =>
        if numerator / timeScaleUsPerS > 0 then
          (checkedAddU64 volumeUl (numerator / timeScaleUsPerS)).bind
            fun volumeUl => some (carried numerator volumeUl)
        else some (kept numerator)).isSome ↔
      Absorbs (content volumeUl rem) (absFlow.toNat * dtUs.toNat) := by
  have hvolume := volumeUl.toNat_lt
  rw [absorbs_iff hrem, checkedMulU64_eq]
  by_cases hmul : absFlow.toNat * dtUs.toNat < 2 ^ 64
  · have hproduct : (absFlow * dtUs).toNat = absFlow.toNat * dtUs.toNat := by
      rw [UInt64.toNat_mul, Nat.mod_eq_of_lt hmul]
    rw [if_pos hmul, Option.bind_some, checkedAddU64_eq, hproduct]
    by_cases hadd : absFlow.toNat * dtUs.toNat + rem.toNat < 2 ^ 64
    · have hnumerator : (absFlow * dtUs + rem).toNat =
          absFlow.toNat * dtUs.toNat + rem.toNat := by
        rw [UInt64.toNat_add, hproduct, Nat.mod_eq_of_lt hadd]
      have hdelta : ((absFlow * dtUs + rem) / timeScaleUsPerS).toNat =
          (absFlow.toNat * dtUs.toNat + rem.toNat) / 10 ^ 6 := by
        rw [UInt64.toNat_div, hnumerator]
        rfl
      rw [if_pos hadd, Option.bind_some, checkedAddU64_eq, hdelta]
      split_ifs with hsome hfits
      · exact iff_of_true rfl ⟨hadd, hfits⟩
      · exact iff_of_false (by simp) fun habsorbs => hfits habsorbs.2
      · have hzero : (absFlow.toNat * dtUs.toNat + rem.toNat) / 10 ^ 6 = 0 := by
          by_contra hne
          exact hsome (UInt64.lt_iff_toNat_lt.mpr
            (by rw [hdelta]; exact Nat.pos_of_ne_zero hne))
        simp only [Option.isSome_some, true_iff, hzero]
        exact ⟨hadd, by simpa using hvolume⟩
    · rw [if_neg hadd]
      exact iff_of_false (by simp) fun habsorbs => hadd habsorbs.1
  · rw [if_neg hmul]
    exact iff_of_false (by simp) fun habsorbs =>
      hmul (lt_of_le_of_lt (Nat.le_add_right _ _) habsorbs.1)

/-- Integration succeeds exactly when the counter of its direction absorbs
the interval. -/
theorem integrate_isSome_iff (hself : Published self) :
    (self.integrate dtUs).isSome ↔
      let product := self.anchorFlowUlPerS.toInt.natAbs * dtUs.toNat
      if 0 < self.anchorFlowUlPerS.toInt then
        Absorbs (content self.state.forwardVolumeUl self.forwardRem) product
      else if self.anchorFlowUlPerS.toInt < 0 then
        Absorbs (content self.state.reverseVolumeUl self.reverseRem) product
      else True := by
  have hsign : self.anchorFlowUlPerS < 0 ↔ self.anchorFlowUlPerS.toInt < 0 :=
    Int64.lt_iff_toInt_lt
  have hsign' : self.anchorFlowUlPerS > 0 ↔ 0 < self.anchorFlowUlPerS.toInt :=
    Int64.lt_iff_toInt_lt
  have habs := absFlow_toNat self.anchorFlowUlPerS
  dsimp only
  rcases lt_trichotomy self.anchorFlowUlPerS.toInt 0 with hneg | hrest | hpos
  · have hnegative : decide (self.anchorFlowUlPerS < 0) = true :=
      decide_eq_true (hsign.mpr hneg)
    simp only [hnegative, if_true] at habs
    rw [if_neg (by omega), if_pos hneg, ← habs]
    unfold integrate
    simp only [Option.bind_eq_bind, hnegative, if_true]
    exact carry_isSome_iff hself.reverse_rem
      (fun numerator reverseVolumeUl =>
        { self with
          state := { self.state with reverseVolumeUl }
          reverseRem := numerator % timeScaleUsPerS })
      (fun numerator =>
        { self with reverseRem := numerator % timeScaleUsPerS })
  · have hnonneg : decide (self.anchorFlowUlPerS < 0) = false :=
      decide_eq_false (fun hlt => by have := hsign.mp hlt; omega)
    have hnonpos : ¬ self.anchorFlowUlPerS > 0 :=
      fun hgt => by have := hsign'.mp hgt; omega
    have hzero : self.anchorFlowUlPerS.toUInt64.toNat = 0 := by
      simp only [hnonneg, Bool.false_eq_true, if_false] at habs
      rw [habs, hrest]
      rfl
    rw [if_neg (by omega), if_neg (by omega)]
    unfold integrate
    simp only [Option.bind_eq_bind, hnonneg, hnonpos, Bool.false_eq_true,
      if_false, ite_self]
    rw [checkedMulU64_eq, if_pos (by rw [hzero]; simp), Option.bind_some,
      checkedAddU64_eq, if_pos (by
        rw [UInt64.toNat_mul, hzero, Nat.zero_mul, Nat.zero_mod, Nat.zero_add]
        exact UInt64.toNat_lt _)]
    simp
  · have hnonneg : decide (self.anchorFlowUlPerS < 0) = false :=
      decide_eq_false (fun hlt => by have := hsign.mp hlt; omega)
    simp only [hnonneg, Bool.false_eq_true, if_false] at habs
    rw [if_pos hpos, ← habs]
    unfold integrate
    simp only [Option.bind_eq_bind, hnonneg, hsign'.mpr hpos,
      Bool.false_eq_true, if_false, if_true]
    exact carry_isSome_iff hself.forward_rem
      (fun numerator forwardVolumeUl =>
        { self with
          state := { self.state with forwardVolumeUl }
          forwardRem := numerator % timeScaleUsPerS })
      (fun numerator =>
        { self with forwardRem := numerator % timeScaleUsPerS })

/-- What a successful integration adds to the two contents. -/
theorem integrate_content (hmid : self.integrate dtUs = some next) :
    let product := self.anchorFlowUlPerS.toInt.natAbs * dtUs.toNat
    content next.state.forwardVolumeUl next.forwardRem =
        content self.state.forwardVolumeUl self.forwardRem +
          (if 0 < self.anchorFlowUlPerS.toInt then product else 0) ∧
      content next.state.reverseVolumeUl next.reverseRem =
        content self.state.reverseVolumeUl self.reverseRem +
          (if self.anchorFlowUlPerS.toInt < 0 then product else 0) := by
  have hadds := integrate_adds hmid
  have hforward := hadds.forward_eq
  have hreverse := hadds.reverse_eq
  have hproduct : ((self.anchorFlowUlPerS.toInt.natAbs * dtUs.toNat : ℕ) : ℤ) =
      |self.anchorFlowUlPerS.toInt| * dtUs.toNat := by
    rw [Nat.cast_mul, Int.natCast_natAbs]
  unfold forwardContent at hforward
  unfold reverseContent at hreverse
  dsimp only
  unfold content
  constructor
  · split_ifs at hforward ⊢ with hpos
    · rw [abs_of_pos hpos] at hproduct
      rw [← hproduct] at hforward
      omega
    · omega
  · split_ifs at hreverse ⊢ with hneg
    · rw [← hproduct] at hreverse
      omega
    · omega

/-! ## Streams of one generation -/

/-- A live, measured, valid, fresh and accepted production result. -/
structure ProductionValid (metadata : ResultMetadata) : Prop where
  purpose : metadata.purpose = .production
  origin : metadata.origin = .liveDevice
  provenance : metadata.provenance = .measured
  validity : metadata.validity = .valid
  freshness : metadata.freshness = .fresh
  acceptance : metadata.acceptance = .accepted

/-- One sample comes after another, with the gap still to be integrated. -/
structure Succeeds (maximumGapUs : UInt64) (earlier later : FlowResult) :
    Prop where
  time : earlier.metadata.sampleMonotonicUs < later.metadata.sampleMonotonicUs
  gap : later.metadata.sampleMonotonicUs - earlier.metadata.sampleMonotonicUs ≤
    maximumGapUs
  sequence : earlier.metadata.sampleSequence < later.metadata.sampleSequence

structure SourceStream (maximumGapUs : UInt64) (generation : UInt32)
    (flows : List FlowResult) : Prop where
  valid : ∀ flow ∈ flows, ProductionValid flow.metadata
  generation : ∀ flow ∈ flows, flow.metadata.sourceGeneration = generation
  spaced : flows.IsChain (Succeeds maximumGapUs)

/-- The accumulator is anchored at the last sample of a stream. -/
structure Tracks (generation : UInt32) (last : FlowResult)
    (accumulator : VolumeAccumulator) : Prop where
  published : Published accumulator
  anchorValid : accumulator.anchorValid = true
  anchorTime : accumulator.anchorSampleUs = last.metadata.sampleMonotonicUs
  sourceGeneration : accumulator.sourceGeneration = generation
  lastSeq : accumulator.lastSeq = last.metadata.sampleSequence

/-- Only generation and identity can still refuse a production sample. -/
theorem ProductionValid.admits (hvalid : ProductionValid flow.metadata)
    (hgeneration : self.diagConsumed > 0 →
      flow.metadata.sourceGeneration = self.sourceGeneration)
    (hidentity : self.diagConsumed > 0 →
      flow.metadata.sampleSequence ≠ self.lastSeq) : self.Admits flow := by
  unfold Admits checkAdmission
  rw [if_neg (by simp [hvalid.purpose, hvalid.origin, hvalid.provenance]),
    if_neg (by simp [hvalid.validity]), if_neg (by simp [hvalid.freshness]),
    if_neg (by simp [hvalid.acceptance]),
    if_neg (fun hother => hother.2 (hgeneration hother.1)),
    if_neg (fun hsame => hidentity hsame.1 hsame.2.2.1)]

/-- A consumed sample of another generation is refused. -/
theorem ProductionValid.refuses (hvalid : ProductionValid flow.metadata)
    (hconsumed : self.diagConsumed > 0)
    (hgeneration : flow.metadata.sourceGeneration ≠ self.sourceGeneration) :
    (self.consume flow).2.sourceGeneration = self.sourceGeneration ∧
      (self.consume flow).1 = .rejectedGeneration := by
  have hrefuses : self.seen.checkAdmission flow.metadata =
      some (.rejectedGeneration,
        { self.seen with
          diagStaleRejected := self.seen.diagStaleRejected + 1 }) := by
    unfold checkAdmission
    rw [if_neg (by simp [hvalid.purpose, hvalid.origin, hvalid.provenance]),
      if_neg (by simp [hvalid.validity]), if_neg (by simp [hvalid.freshness]),
      if_neg (by simp [hvalid.acceptance]),
      if_pos ⟨hconsumed, hgeneration⟩]
  unfold seen at hrefuses
  unfold consume
  simp only [hrefuses, and_self]

/-- The next sample of a tracked stream is integrated or overflows. -/
theorem Tracks.consume {last : FlowResult}
    (htracks : Tracks generation last self)
    (hsucceeds : Succeeds self.config.maximumIntegrationGapUs last flow)
    (hvalid : ProductionValid flow.metadata)
    (hgeneration : flow.metadata.sourceGeneration = generation) :
    let dtUs := flow.metadata.sampleMonotonicUs - self.anchorSampleUs
    (self.seen.integrate dtUs = none ∧ (self.consume flow).1 = .overflow) ∨
      ∃ mid, self.seen.integrate dtUs = some mid ∧
        self.consume flow =
          (.ok, (mid.setAnchor flow).finishConsume flow.metadata) := by
  have hadmits : self.Admits flow := by
    apply hvalid.admits
    · intro _
      rw [hgeneration, htracks.sourceGeneration]
    · intro _ hsame
      have hlater := hsucceeds.sequence
      rw [hsame, htracks.lastSeq] at hlater
      exact UInt64.lt_irrefl _ hlater
  have htime : self.anchorSampleUs < flow.metadata.sampleMonotonicUs := by
    rw [htracks.anchorTime]
    exact hsucceeds.time
  have hinside : flow.metadata.sampleMonotonicUs - self.anchorSampleUs ≤
      self.config.maximumIntegrationGapUs := by
    rw [htracks.anchorTime]
    exact hsucceeds.gap
  have hstep := consume_step self flow
  generalize self.consume flow = result at hstep ⊢
  obtain ⟨status, after⟩ := result
  cases hstep with
  | refused hrefused =>
      have hpasses := admits_seen.mpr hadmits
      rw [Admits, hrefused] at hpasses
      cases hpasses
  | anchored _ hanchor =>
      rw [htracks.anchorValid] at hanchor
      cases hanchor
  | zeroInterval _ _ hzero =>
      rw [hzero] at htime
      exact absurd htime (UInt64.lt_irrefl _)
  | backward _ _ hbackward =>
      exact absurd htime (UInt64.lt_asymm hbackward)
  | gap _ _ _ hgap => exact absurd hgap (UInt64.not_lt.mpr hinside)
  | overflow _ _ _ _ hoverflow => exact Or.inl ⟨hoverflow, rfl⟩
  | integrated _ _ _ _ hmid => exact Or.inr ⟨_, hmid, rfl⟩

/-- A tracked stream is integrated sample by sample exactly as long as its
volumes fit. -/
theorem Tracks.all_ok_iff {last : FlowResult} {maximumGapUs : UInt64}
    (htracks : Tracks generation last self)
    (hgap : self.config.maximumIntegrationGapUs = maximumGapUs)
    (hstream : SourceStream maximumGapUs generation (last :: flows)) :
    (∀ status ∈ Meter.statuses self flows, status = .ok) ↔
      StreamFits (content self.state.forwardVolumeUl self.forwardRem)
        (content self.state.reverseVolumeUl self.reverseRem)
        self.anchorFlowUlPerS.toInt self.anchorSampleUs.toNat flows := by
  induction flows generalizing self last with
  | nil => simp [Meter.statuses, StreamFits]
  | cons flow flows ih =>
      obtain ⟨hsucceeds, hspaced⟩ := List.isChain_cons_cons.mp hstream.spaced
      have hvalid := hstream.valid flow (by simp)
      have hgeneration := hstream.generation flow (by simp)
      have hrest : SourceStream maximumGapUs generation (flow :: flows) :=
        ⟨fun other hmem => hstream.valid other (by simp_all),
          fun other hmem => hstream.generation other (by simp_all), hspaced⟩
      have hdt : (flow.metadata.sampleMonotonicUs - self.anchorSampleUs).toNat =
          flow.metadata.sampleMonotonicUs.toNat - self.anchorSampleUs.toNat := by
        apply UInt64.toNat_sub_of_le
        rw [htracks.anchorTime]
        exact UInt64.le_of_lt hsucceeds.time
      have hpublished : Published self.seen :=
        ⟨htracks.published.forward_eq, htracks.published.reverse_eq,
          htracks.published.forward_rem, htracks.published.reverse_rem⟩
      have hfits : (self.seen.integrate
          (flow.metadata.sampleMonotonicUs - self.anchorSampleUs)).isSome ↔ _ :=
        integrate_isSome_iff hpublished
      rw [hdt] at hfits
      rw [Meter.statuses, List.forall_mem_cons, StreamFits]
      subst hgap
      rcases htracks.consume hsucceeds hvalid hgeneration with
        ⟨hnone, hstatus⟩ | ⟨mid, hmid, hconsume⟩
      · have hover : ¬ (self.seen.integrate
            (flow.metadata.sampleMonotonicUs - self.anchorSampleUs)).isSome := by
          simp [hnone]
        rw [hfits] at hover
        rw [hstatus]
        rcases lt_trichotomy self.anchorFlowUlPerS.toInt 0 with
          hneg | hzero | hpos
        · have hnot : ¬ 0 < self.anchorFlowUlPerS.toInt := by omega
          simp only [seen, hnot, hneg, if_true, if_false] at hover ⊢
          simp [hover]
        · simp [seen, hzero] at hover
        · simp only [seen, hpos, if_true] at hover ⊢
          simp [hover]
      · have hfit : (self.seen.integrate
            (flow.metadata.sampleMonotonicUs - self.anchorSampleUs)).isSome := by
          simp [hmid]
        have hnext : Tracks generation flow
            ((mid.setAnchor flow).finishConsume flow.metadata) := by
          have hstep := consume_step self flow
          rw [hconsume] at hstep
          refine ⟨hstep.published htracks.published, ?_, rfl, ?_, rfl⟩
          · obtain ⟨_, _, _, _, rfl⟩ := integrate_frame hmid
            exact htracks.anchorValid
          · obtain ⟨_, _, _, _, rfl⟩ := integrate_frame hmid
            exact htracks.sourceGeneration
        have hconfig : ((mid.setAnchor flow).finishConsume
            flow.metadata).config.maximumIntegrationGapUs =
              self.config.maximumIntegrationGapUs := by
          obtain ⟨_, _, _, _, rfl⟩ := integrate_frame hmid
          rfl
        obtain ⟨hforward, hreverse⟩ := integrate_content hmid
        have hrec := ih hnext hconfig hrest
        simp only [finishConsume, stateBump, statePublishIdentity, setAnchor]
          at hrec
        rw [hforward, hreverse, hdt] at hrec
        rw [hfits] at hfit
        simp only [hconsume, true_and]
        rcases lt_trichotomy self.anchorFlowUlPerS.toInt 0 with
          hneg | hzero | hpos
        · have hnot : ¬ 0 < self.anchorFlowUlPerS.toInt := by omega
          simp only [seen, hnot, hneg, if_true, if_false, add_zero]
            at hfit hrec ⊢
          simp only [hfit, true_and]
          exact hrec
        · simp only [seen, hzero, lt_irrefl, if_false, add_zero] at hrec ⊢
          exact hrec
        · have hnot : ¬ self.anchorFlowUlPerS.toInt < 0 := by omega
          simp only [seen, hnot, hpos, if_true, if_false, add_zero]
            at hfit hrec ⊢
          simp only [hfit, true_and]
          exact hrec

/-! ## The first sample of a new generation -/

/-- Nothing was consumed yet, and the first sample does not continue an
interval of the old generation. -/
def AdoptsGeneration (self : VolumeAccumulator) (first : FlowResult) : Prop :=
  self.diagConsumed = 0 ∧
    (self.anchorValid = true →
      self.anchorSampleUs < first.metadata.sampleMonotonicUs →
        self.config.maximumIntegrationGapUs <
          first.metadata.sampleMonotonicUs - self.anchorSampleUs)

/-- The anchor flow after the first sample; a sample at the very time of the
anchor leaves the anchor alone. -/
def restartFlow (self : VolumeAccumulator) (first : FlowResult) : Int64 :=
  if self.anchorValid = true ∧
      first.metadata.sampleMonotonicUs = self.anchorSampleUs then
    self.anchorFlowUlPerS
  else first.flowUlPerS

/-- The accumulator is anchored on the generation after the first sample, and
every further sample is integrated. -/
def Recovers (self : VolumeAccumulator) (generation : UInt32)
    (first : FlowResult) (rest : List FlowResult) : Prop :=
  (self.consume first).2.anchorValid = true ∧
    (self.consume first).2.sourceGeneration = generation ∧
    ∀ status ∈ (Meter.statuses self (first :: rest)).tail, status = .ok

/-- What the first sample of an adopted generation leaves behind. -/
structure Restarted (before : VolumeAccumulator) (first : FlowResult)
    (after : VolumeAccumulator) : Prop where
  tracks : Tracks first.metadata.sourceGeneration first after
  anchorFlow : after.anchorFlowUlPerS = before.restartFlow first
  config : after.config = before.config
  forward : after.state.forwardVolumeUl = before.state.forwardVolumeUl
  reverse : after.state.reverseVolumeUl = before.state.reverseVolumeUl
  forwardRem : after.forwardRem = before.forwardRem
  reverseRem : after.reverseRem = before.reverseRem

/-- Once the generation is adopted, only the counters decide. -/
theorem Restarted.recovers_iff
    (hrestarted : Restarted self first (self.consume first).2)
    (hgeneration : first.metadata.sourceGeneration = generation)
    (hstream : SourceStream self.config.maximumIntegrationGapUs generation
      (first :: rest)) :
    self.Recovers generation first rest ↔
      StreamFits (content self.state.forwardVolumeUl self.forwardRem)
        (content self.state.reverseVolumeUl self.reverseRem)
        (self.restartFlow first).toInt
        first.metadata.sampleMonotonicUs.toNat rest := by
  have htracks := hrestarted.tracks
  rw [hgeneration] at htracks
  have hrest := htracks.all_ok_iff (congrArg _ hrestarted.config) hstream
  rw [hrestarted.forward, hrestarted.reverse, hrestarted.forwardRem,
    hrestarted.reverseRem, hrestarted.anchorFlow, htracks.anchorTime] at hrest
  rw [← hrest]
  exact ⟨fun hrecovers => hrecovers.2.2,
    fun hall => ⟨htracks.anchorValid, htracks.sourceGeneration, hall⟩⟩

/-- A sample that the accumulator takes as its first one either starts its
generation or still belongs to an old interval. -/
theorem ConsumeStep.restarted {status : VolumeConsumeStatus}
    (hstep : ConsumeStep self first status next) (hself : Published self)
    (hfresh : self.diagConsumed = 0) (hadmits : self.Admits first) :
    (self.AdoptsGeneration first ∧ Restarted self first next) ∨
      (¬ self.AdoptsGeneration first ∧
        next.sourceGeneration = self.sourceGeneration) := by
  have hpublished := hstep.published hself
  cases hstep with
  | refused hrefused =>
      have hpasses := admits_seen.mpr hadmits
      rw [Admits, hrefused] at hpasses
      cases hpasses
  | anchored _ hanchor =>
      have hflow : self.restartFlow first = first.flowUlPerS :=
        if_neg (by simp [hanchor])
      refine Or.inl ⟨⟨hfresh, fun hvalid => ?_⟩, ?_⟩
      · rw [hanchor] at hvalid
        cases hvalid
      · exact ⟨⟨hpublished, rfl, rfl, rfl, rfl⟩, hflow.symm, rfl, rfl, rfl, rfl,
          rfl⟩
  | zeroInterval _ hanchor hzero =>
      have hflow : self.restartFlow first = self.anchorFlowUlPerS :=
        if_pos ⟨hanchor, hzero⟩
      refine Or.inl ⟨⟨hfresh, fun _ hlater => ?_⟩, ?_⟩
      · rw [hzero] at hlater
        exact absurd hlater (UInt64.lt_irrefl _)
      · exact ⟨⟨hpublished, hanchor, hzero.symm, rfl, rfl⟩, hflow.symm, rfl, rfl,
          rfl, rfl, rfl⟩
  | backward _ hanchor hbackward =>
      have hflow : self.restartFlow first = first.flowUlPerS :=
        if_neg fun hboth => by
          rw [hboth.2] at hbackward
          exact UInt64.lt_irrefl _ hbackward
      refine Or.inl ⟨⟨hfresh, fun _ hlater => ?_⟩, ?_⟩
      · exact absurd hlater (UInt64.lt_asymm hbackward)
      · exact ⟨⟨hpublished, hanchor, rfl, rfl, rfl⟩, hflow.symm, rfl, rfl, rfl,
          rfl, rfl⟩
  | gap _ hanchor htime hgap =>
      have hflow : self.restartFlow first = first.flowUlPerS :=
        if_neg fun hboth => by
          rw [hboth.2] at htime
          exact UInt64.lt_irrefl _ htime
      refine Or.inl ⟨⟨hfresh, fun _ _ => hgap⟩, ?_⟩
      exact ⟨⟨hpublished, hanchor, rfl, rfl, rfl⟩, hflow.symm, rfl, rfl, rfl,
        rfl, rfl⟩
  | overflow _ hanchor htime hinside =>
      exact Or.inr ⟨fun hadopts =>
        UInt64.not_lt.mpr hinside (hadopts.2 hanchor htime), rfl⟩
  | integrated _ hanchor htime hinside hmid =>
      refine Or.inr ⟨fun hadopts =>
        UInt64.not_lt.mpr hinside (hadopts.2 hanchor htime), ?_⟩
      obtain ⟨_, _, _, _, rfl⟩ := integrate_frame hmid
      rfl

/-- A source restart is metered through exactly when nothing had been consumed
before it and the volumes of the new stream fit the counters. -/
theorem restart_recovers_iff (hself : Reachable self)
    (hnew : generation ≠ self.sourceGeneration)
    (hstream : SourceStream self.config.maximumIntegrationGapUs generation
      (first :: rest)) :
    self.Recovers generation first rest ↔
      self.AdoptsGeneration first ∧
        StreamFits (content self.state.forwardVolumeUl self.forwardRem)
          (content self.state.reverseVolumeUl self.reverseRem)
          (self.restartFlow first).toInt
          first.metadata.sampleMonotonicUs.toNat rest := by
  have hvalid := hstream.valid first (by simp)
  have hgeneration := hstream.generation first (by simp)
  by_cases hconsumed : self.diagConsumed > 0
  · have hother : first.metadata.sourceGeneration ≠ self.sourceGeneration := by
      rw [hgeneration]
      exact hnew
    refine iff_of_false ?_ ?_
    · rintro ⟨-, hadopted, -⟩
      rw [(hvalid.refuses hconsumed hother).1] at hadopted
      exact hnew hadopted.symm
    · rintro ⟨⟨hfresh, -⟩, -⟩
      rw [hfresh] at hconsumed
      exact absurd hconsumed (by decide)
  · have hadmits : self.Admits first :=
      hvalid.admits (fun hpos => absurd hpos hconsumed)
        (fun hpos => absurd hpos hconsumed)
    have hfresh : self.diagConsumed = 0 :=
      UInt64.le_antisymm (UInt64.not_lt.mp hconsumed) (UInt64.zero_le)
    rcases (consume_step self first).restarted hself.published hfresh hadmits
      with ⟨hadopts, hrestarted⟩ | ⟨hkeeps, hold⟩
    · rw [hrestarted.recovers_iff hgeneration hstream]
      exact ⟨fun hfits => ⟨hadopts, hfits⟩, fun hboth => hboth.2⟩
    · refine iff_of_false ?_ fun hboth => hkeeps hboth.1
      rintro ⟨-, hadopted, -⟩
      rw [hold] at hadopted
      exact hnew hadopted.symm

/-- A live production sample of the generation after a restart. -/
def restartedSample (sequence timeUs : UInt64) : FlowResult :=
  let flow := Meter.productionSample sequence timeUs
  { flow with metadata := { flow.metadata with sourceGeneration := 1 } }

theorem restartedSample_stream :
    SourceStream 5000000 1
      [restartedSample 1 20, restartedSample 2 30, restartedSample 3 40] := by
  refine ⟨?_, by decide, ?_⟩
  · intro flow hmem
    simp only [List.mem_cons, List.not_mem_nil, or_false] at hmem
    rcases hmem with rfl | rfl | rfl <;>
      exact ⟨rfl, rfl, rfl, rfl, rfl, rfl⟩
  · refine .cons_cons ?_ (.cons_cons ?_ (.singleton _)) <;>
      exact ⟨by decide, by decide, by decide⟩

/-- Before anything is consumed, a new generation is adopted. -/
theorem restart_recovers_fresh :
    (init none).Recovers 1 (restartedSample 1 20)
        [restartedSample 2 30, restartedSample 3 40] ↔
      (init none).AdoptsGeneration (restartedSample 1 20) ∧
        StreamFits 0 0 1 20 [restartedSample 2 30, restartedSample 3 40] :=
  restart_recovers_iff (.init none) (by decide) restartedSample_stream

/-- After two consumed samples the new generation is refused, sample after
sample. -/
theorem restart_not_recovered :
    ¬ ∀ self : VolumeAccumulator, Reachable self →
      ∀ (generation : UInt32) (flows : List FlowResult),
        generation ≠ self.sourceGeneration →
        SourceStream self.config.maximumIntegrationGapUs generation flows →
        (Meter.statuses self flows).countP (· ≠ .ok) ≤ 1 := by
  intro hclaim
  have hreach := ((Reachable.init none).consume
    (Meter.productionSample 1 0)).consume (Meter.productionSample 2 10)
  have hcount := hclaim _ hreach 1 _ (by decide +kernel) restartedSample_stream
  exact absurd hcount (by decide +kernel)

end VolumeAccumulator
end Swfpm
