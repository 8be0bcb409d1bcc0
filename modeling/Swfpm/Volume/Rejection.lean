import Swfpm.Volume.Accumulator

/-!
# Rejected samples

A sample that is not admitted, or whose volume would overflow, moves diagnostic
counters only.  The number of consumed samples is one of them that the checks
read, and a rejection keeps it too, so the accumulator answers every later
sample as if the rejected one had not arrived.
-/

namespace Swfpm.VolumeAccumulator

/-! ## The integration in place

`integrate` gives up at the first overflow.  The source adds to the stored
volume in place and returns from four points, which comes to the same. -/

/-- The out pointers are written when there is no overflow. -/
def checkedMulInto (a b out : UInt64) : Bool × UInt64 :=
  if a > 0 ∧ b > 0xFFFFFFFFFFFFFFFF / a then (true, out) else (false, a * b)

def checkedAddInto (a b out : UInt64) : Bool × UInt64 :=
  if a > 0xFFFFFFFFFFFFFFFF - b then (true, out) else (false, a + b)

/-- The stored volume of one direction after the addition, and its remainder
where the addition did not overflow. -/
def addReverse (self : VolumeAccumulator) (deltaUl newRem : UInt64) :
    Bool × VolumeAccumulator :=
  let volume := self.state.reverseVolumeUl
  let sum := checkedAddInto volume deltaUl volume
  let self := { self with state := { self.state with reverseVolumeUl := sum.2 } }
  if sum.1 then (true, self) else (false, { self with reverseRem := newRem })

def addForward (self : VolumeAccumulator) (deltaUl newRem : UInt64) :
    Bool × VolumeAccumulator :=
  let volume := self.state.forwardVolumeUl
  let sum := checkedAddInto volume deltaUl volume
  let self := { self with state := { self.state with forwardVolumeUl := sum.2 } }
  if sum.1 then (true, self) else (false, { self with forwardRem := newRem })

/-- Whether the integration overflows, and the accumulator as it is then. -/
def integrateInPlace (self : VolumeAccumulator) (dtUs : UInt64) :
    Bool × VolumeAccumulator :=
  let negative : Bool := self.anchorFlowUlPerS < 0
  let absFlow : UInt64 :=
    if negative then (-self.anchorFlowUlPerS).toUInt64
    else self.anchorFlowUlPerS.toUInt64
  let product := checkedMulInto absFlow dtUs 0
  if product.1 then (true, self)
  else
    let prevRem := if negative then self.reverseRem else self.forwardRem
    let sum := checkedAddInto product.2 prevRem product.2
    if sum.1 then (true, self)
    else
      let deltaUl := sum.2 / timeScaleUsPerS
      let newRem := sum.2 % timeScaleUsPerS
      if deltaUl > 0 then
        if negative then self.addReverse deltaUl newRem
        else if self.anchorFlowUlPerS > 0 then self.addForward deltaUl newRem
        else (false, self)
      else if negative then (false, { self with reverseRem := newRem })
      else if self.anchorFlowUlPerS > 0 then
        (false, { self with forwardRem := newRem })
      else (false, self)

variable {self next : VolumeAccumulator} {dtUs : UInt64}

theorem checkedMulInto_eq (a b out : UInt64) :
    checkedMulInto a b out =
      ((checkedMulU64 a b).isNone, (checkedMulU64 a b).getD out) := by
  unfold checkedMulInto checkedMulU64
  by_cases hover : a > 0 ∧ b > 0xFFFFFFFFFFFFFFFF / a
  · simp only [if_pos hover, Option.isNone_none, Option.getD_none]
  · simp only [if_neg hover, Option.isNone_some, Option.getD_some]

theorem checkedAddInto_eq (a b out : UInt64) :
    checkedAddInto a b out =
      ((checkedAddU64 a b).isNone, (checkedAddU64 a b).getD out) := by
  unfold checkedAddInto checkedAddU64
  by_cases hover : a > 0xFFFFFFFFFFFFFFFF - b
  · simp only [if_pos hover, Option.isNone_none, Option.getD_none]
  · simp only [if_neg hover, Option.isNone_some, Option.getD_some]

/-- An addition that overflows writes the volume back that it has read. -/
theorem addReverse_of_none {deltaUl newRem : UInt64}
    (hadd : checkedAddU64 self.state.reverseVolumeUl deltaUl = none) :
    self.addReverse deltaUl newRem = (true, self) := by
  unfold addReverse
  simp only [checkedAddInto_eq, hadd, Option.isNone_none, Option.getD_none, if_true]

theorem addForward_of_none {deltaUl newRem : UInt64}
    (hadd : checkedAddU64 self.state.forwardVolumeUl deltaUl = none) :
    self.addForward deltaUl newRem = (true, self) := by
  unfold addForward
  simp only [checkedAddInto_eq, hadd, Option.isNone_none, Option.getD_none, if_true]

theorem addReverse_of_some {deltaUl newRem reverseVolumeUl : UInt64}
    (hadd : checkedAddU64 self.state.reverseVolumeUl deltaUl = some reverseVolumeUl) :
    self.addReverse deltaUl newRem =
      (false,
        { self with
          state := { self.state with reverseVolumeUl }, reverseRem := newRem }) := by
  unfold addReverse
  simp only [checkedAddInto_eq, hadd, Option.isNone_some, Option.getD_some,
    Bool.false_eq_true, if_false]

theorem addForward_of_some {deltaUl newRem forwardVolumeUl : UInt64}
    (hadd : checkedAddU64 self.state.forwardVolumeUl deltaUl = some forwardVolumeUl) :
    self.addForward deltaUl newRem =
      (false,
        { self with
          state := { self.state with forwardVolumeUl }, forwardRem := newRem }) := by
  unfold addForward
  simp only [checkedAddInto_eq, hadd, Option.isNone_some, Option.getD_some,
    Bool.false_eq_true, if_false]

/-- Without an overflow the accumulator becomes the integrated one. -/
theorem integrateInPlace_of_some (hnext : self.integrate dtUs = some next) :
    self.integrateInPlace dtUs = (false, next) := by
  unfold integrate at hnext
  simp only [Option.bind_eq_bind, Option.bind_eq_some_iff] at hnext
  obtain ⟨product, hproduct, numerator, hnumerator, hnext⟩ := hnext
  unfold integrateInPlace
  simp only [checkedMulInto_eq, checkedAddInto_eq, hproduct, hnumerator,
    Option.isNone_some, Option.getD_some, Bool.false_eq_true, if_false]
  split_ifs at hnext ⊢
  · obtain ⟨reverseVolumeUl, hadd, hnext⟩ := Option.bind_eq_some_iff.mp hnext
    rw [addReverse_of_some hadd, Option.some.inj hnext]
  · obtain ⟨forwardVolumeUl, hadd, hnext⟩ := Option.bind_eq_some_iff.mp hnext
    rw [addForward_of_some hadd, Option.some.inj hnext]
  all_goals rw [Option.some.inj hnext]

/-- With an overflow the accumulator stays as it was. -/
theorem integrateInPlace_of_none (hnext : self.integrate dtUs = none) :
    self.integrateInPlace dtUs = (true, self) := by
  unfold integrate at hnext
  simp only [Option.bind_eq_bind, Option.bind_eq_none_iff] at hnext
  unfold integrateInPlace
  simp only [checkedMulInto_eq, checkedAddInto_eq]
  obtain hproduct | ⟨product, hproduct⟩ := Option.eq_none_or_eq_some
    (checkedMulU64
      (if decide (self.anchorFlowUlPerS < 0) = true then
        (-self.anchorFlowUlPerS).toUInt64
      else self.anchorFlowUlPerS.toUInt64) dtUs)
  · simp only [hproduct, Option.isNone_none, if_true]
  have hnext := hnext product hproduct
  simp only [hproduct, Option.isNone_some, Option.getD_some, Bool.false_eq_true,
    if_false]
  obtain hsum | ⟨numerator, hsum⟩ := Option.eq_none_or_eq_some
    (checkedAddU64 product
      (if decide (self.anchorFlowUlPerS < 0) = true then self.reverseRem
      else self.forwardRem))
  · simp only [hsum, Option.isNone_none, if_true]
  have hnext := hnext numerator hsum
  simp only [hsum, Option.isNone_some, Option.getD_some, Bool.false_eq_true,
    if_false]
  split_ifs at hnext ⊢
  · apply addReverse_of_none
    rw [Option.eq_none_iff_forall_ne_some]
    intro volume hvolume
    exact Option.some_ne_none _ (Option.bind_eq_none_iff.mp hnext volume hvolume)
  · apply addForward_of_none
    rw [Option.eq_none_iff_forall_ne_some]
    intro volume hvolume
    exact Option.some_ne_none _ (Option.bind_eq_none_iff.mp hnext volume hvolume)

/-! ## Apart from the diagnostics -/

/-- The accumulator without the counters that nothing reads. -/
def undiagnosed (self : VolumeAccumulator) : VolumeAccumulator :=
  { self with
    diagSeen := 0, diagNonprodRejected := 0, diagInvalidRejected := 0
    diagDuplicateRejected := 0, diagStaleRejected := 0, diagGapReanchored := 0
    diagGenReanchored := 0, diagTimeFaults := 0 }

/-- The rejections that are not about the time line. -/
def LeavesNoTrace (status : VolumeConsumeStatus) : Prop :=
  status = .rejectedNonProduction ∨ status = .rejectedInvalid ∨
    status = .rejectedStale ∨ status = .rejectedGeneration ∨
    status = .rejectedDuplicate ∨ status = .overflow

theorem undiagnosed_consume (flow : FlowResult)
    (htrace : LeavesNoTrace (self.consume flow).1) :
    (self.consume flow).2.undiagnosed = self.undiagnosed := by
  have hstep := consume_step self flow
  generalize self.consume flow = result at *
  obtain ⟨status, after⟩ := result
  dsimp only at *
  cases hstep with
  | refused hadmission =>
      obtain ⟨⟨nonprod, invalid, stale, duplicate, rfl⟩, -⟩ :=
        checkAdmission_frame hadmission
      rfl
  | overflow hadmission hanchor htime hgap hoverflow => rfl
  | anchored | zeroInterval | backward | gap | integrated =>
      rcases htrace with h | h | h | h | h | h <;> cases h

/-! ## What the diagnostics decide -/

/-- An answer without the diagnostics. -/
def forget (answer : VolumeConsumeStatus × VolumeAccumulator) :
    VolumeConsumeStatus × VolumeAccumulator :=
  (answer.1, answer.2.undiagnosed)

section Fields

variable (self : VolumeAccumulator)

theorem undiagnosed_state : self.undiagnosed.state = self.state := rfl
theorem undiagnosed_config : self.undiagnosed.config = self.config := rfl
theorem undiagnosed_anchorValid :
    self.undiagnosed.anchorValid = self.anchorValid := rfl
theorem undiagnosed_anchorSampleUs :
    self.undiagnosed.anchorSampleUs = self.anchorSampleUs := rfl
theorem undiagnosed_anchorFlowUlPerS :
    self.undiagnosed.anchorFlowUlPerS = self.anchorFlowUlPerS := rfl
theorem undiagnosed_forwardRem :
    self.undiagnosed.forwardRem = self.forwardRem := rfl
theorem undiagnosed_reverseRem :
    self.undiagnosed.reverseRem = self.reverseRem := rfl

theorem undiagnosed_reverseRem_set (newRem : UInt64) :
    { self.undiagnosed with reverseRem := newRem } =
      ({ self with reverseRem := newRem } : VolumeAccumulator).undiagnosed :=
  rfl

theorem undiagnosed_forwardRem_set (newRem : UInt64) :
    { self.undiagnosed with forwardRem := newRem } =
      ({ self with forwardRem := newRem } : VolumeAccumulator).undiagnosed :=
  rfl

end Fields

theorem addReverse_undiagnosed (self : VolumeAccumulator) (deltaUl newRem : UInt64) :
    self.undiagnosed.addReverse deltaUl newRem =
      ((self.addReverse deltaUl newRem).1,
        (self.addReverse deltaUl newRem).2.undiagnosed) := by
  obtain hadd | ⟨volume, hadd⟩ :=
    Option.eq_none_or_eq_some (checkedAddU64 self.state.reverseVolumeUl deltaUl)
  · have hadd' : checkedAddU64 self.undiagnosed.state.reverseVolumeUl deltaUl =
        none := hadd
    rw [addReverse_of_none hadd, addReverse_of_none hadd']
  · have hadd' : checkedAddU64 self.undiagnosed.state.reverseVolumeUl deltaUl =
        some volume := hadd
    rw [addReverse_of_some hadd, addReverse_of_some hadd']
    rfl

theorem addForward_undiagnosed (self : VolumeAccumulator) (deltaUl newRem : UInt64) :
    self.undiagnosed.addForward deltaUl newRem =
      ((self.addForward deltaUl newRem).1,
        (self.addForward deltaUl newRem).2.undiagnosed) := by
  obtain hadd | ⟨volume, hadd⟩ :=
    Option.eq_none_or_eq_some (checkedAddU64 self.state.forwardVolumeUl deltaUl)
  · have hadd' : checkedAddU64 self.undiagnosed.state.forwardVolumeUl deltaUl =
        none := hadd
    rw [addForward_of_none hadd, addForward_of_none hadd']
  · have hadd' : checkedAddU64 self.undiagnosed.state.forwardVolumeUl deltaUl =
        some volume := hadd
    rw [addForward_of_some hadd, addForward_of_some hadd']
    rfl

theorem integrateInPlace_undiagnosed (self : VolumeAccumulator) (dtUs : UInt64) :
    self.undiagnosed.integrateInPlace dtUs =
      ((self.integrateInPlace dtUs).1, (self.integrateInPlace dtUs).2.undiagnosed) := by
  unfold integrateInPlace
  rw [undiagnosed_anchorFlowUlPerS, undiagnosed_forwardRem, undiagnosed_reverseRem]
  simp only [checkedMulInto_eq, checkedAddInto_eq]
  generalize (if decide (self.anchorFlowUlPerS < 0) = true then
      (-self.anchorFlowUlPerS).toUInt64
    else self.anchorFlowUlPerS.toUInt64) = absFlow
  generalize (if decide (self.anchorFlowUlPerS < 0) = true then self.reverseRem
    else self.forwardRem) = prevRem
  generalize checkedMulU64 absFlow dtUs = product
  generalize checkedAddU64 (product.getD 0) prevRem = sum
  generalize sum.getD (product.getD 0) % timeScaleUsPerS = newRem
  split_ifs
  · rfl
  · rfl
  · exact addReverse_undiagnosed self _ _
  · exact addForward_undiagnosed self _ _
  · rfl
  · exact congrArg (Prod.mk false) (undiagnosed_reverseRem_set self newRem)
  · exact congrArg (Prod.mk false) (undiagnosed_forwardRem_set self newRem)
  · rfl

/-- The diagnostics take no part in the integration. -/
theorem integrate_undiagnosed (self : VolumeAccumulator) (dtUs : UInt64) :
    self.undiagnosed.integrate dtUs = (self.integrate dtUs).map undiagnosed := by
  have hplace := integrateInPlace_undiagnosed self dtUs
  obtain hnext | ⟨next, hnext⟩ := Option.eq_none_or_eq_some (self.integrate dtUs)
  · rw [integrateInPlace_of_none hnext] at hplace
    obtain hother | ⟨other, hother⟩ :=
      Option.eq_none_or_eq_some (self.undiagnosed.integrate dtUs)
    · rw [hnext, hother, Option.map_none]
    · rw [integrateInPlace_of_some hother] at hplace
      cases (Prod.mk.inj hplace).1
  · rw [integrateInPlace_of_some hnext] at hplace
    obtain hother | ⟨other, hother⟩ :=
      Option.eq_none_or_eq_some (self.undiagnosed.integrate dtUs)
    · rw [integrateInPlace_of_none hother] at hplace
      cases (Prod.mk.inj hplace).1
    · rw [integrateInPlace_of_some hother] at hplace
      rw [hnext, hother, Option.map_some, (Prod.mk.inj hplace).2]

theorem undiagnosed_undiagnosed (self : VolumeAccumulator) :
    self.undiagnosed.undiagnosed = self.undiagnosed :=
  rfl

theorem undiagnosed_finishConsume (self : VolumeAccumulator)
    (metadata : ResultMetadata) :
    (self.finishConsume metadata).undiagnosed =
      self.undiagnosed.finishConsume metadata :=
  rfl

theorem undiagnosed_setAnchor (self : VolumeAccumulator) (flow : FlowResult) :
    (self.setAnchor flow).undiagnosed = self.undiagnosed.setAnchor flow :=
  rfl

theorem undiagnosed_setFlag (self : VolumeAccumulator) (flag : UInt32) :
    (self.setFlag flag).undiagnosed = self.undiagnosed.setFlag flag :=
  rfl

theorem checkAdmission_undiagnosed (self : VolumeAccumulator)
    (metadata : ResultMetadata) :
    (self.undiagnosed.checkAdmission metadata).map forget =
      (self.checkAdmission metadata).map forget := by
  unfold checkAdmission
  rw [show self.undiagnosed.diagConsumed = self.diagConsumed from rfl,
    show self.undiagnosed.sourceGeneration = self.sourceGeneration from rfl,
    show self.undiagnosed.lastGen = self.lastGen from rfl,
    show self.undiagnosed.lastSeq = self.lastSeq from rfl,
    show self.undiagnosed.lastVer = self.lastVer from rfl]
  split_ifs <;> rfl

theorem advance_undiagnosed (self : VolumeAccumulator) (flow : FlowResult) :
    forget (self.undiagnosed.advance flow) = forget (self.advance flow) := by
  unfold advance
  rw [undiagnosed_anchorValid, undiagnosed_anchorSampleUs, undiagnosed_config]
  dsimp only
  rw [integrate_undiagnosed]
  generalize self.integrate (flow.metadata.sampleMonotonicUs - self.anchorSampleUs) =
    integrated
  split_ifs
  · rfl
  · rfl
  · rfl
  · rfl
  · cases integrated with
    | none => rfl
    | some next => rfl

theorem consume_eq (self : VolumeAccumulator) (flow : FlowResult) :
    self.consume flow =
      (self.seen.checkAdmission flow.metadata).getD (self.seen.advance flow) := by
  unfold consume seen
  cases hadmission : ({ self with diagSeen := self.diagSeen + 1 } :
      VolumeAccumulator).checkAdmission flow.metadata with
  | none =>
      simp only [hadmission]
      rfl
  | some rejection =>
      simp only [hadmission]
      rfl

theorem forget_getD (rejection : Option (VolumeConsumeStatus × VolumeAccumulator))
    (answer : VolumeConsumeStatus × VolumeAccumulator) :
    forget (rejection.getD answer) = (rejection.map forget).getD (forget answer) := by
  cases rejection with
  | none => rfl
  | some answer => rfl

/-- Accumulators that differ in diagnostics only give the same answer. -/
theorem forget_consume {other : VolumeAccumulator} (flow : FlowResult)
    (hsame : self.undiagnosed = other.undiagnosed) :
    forget (self.consume flow) = forget (other.consume flow) := by
  have hseen : self.seen.undiagnosed = other.seen.undiagnosed := hsame
  rw [consume_eq, consume_eq, forget_getD, forget_getD,
    ← checkAdmission_undiagnosed self.seen, ← checkAdmission_undiagnosed other.seen,
    ← advance_undiagnosed self.seen, ← advance_undiagnosed other.seen, hseen]

/-! ## Runs -/

/-- The answers to some samples, and the accumulator after them. -/
def consumeAll (self : VolumeAccumulator) :
    List FlowResult → List VolumeConsumeStatus × VolumeAccumulator
  | [] => ([], self)
  | flow :: flows =>
      let answer := self.consume flow
      let rest := answer.2.consumeAll flows
      (answer.1 :: rest.1, rest.2)

theorem consumeAll_congr (flows : List FlowResult) {self other : VolumeAccumulator}
    (hsame : self.undiagnosed = other.undiagnosed) :
    (self.consumeAll flows).1 = (other.consumeAll flows).1 ∧
      (self.consumeAll flows).2.undiagnosed =
        (other.consumeAll flows).2.undiagnosed := by
  induction flows generalizing self other with
  | nil => exact ⟨rfl, hsame⟩
  | cons flow flows ih =>
      obtain ⟨hstatus, hnext⟩ := Prod.mk.inj (forget_consume flow hsame)
      obtain ⟨hstatuses, hlast⟩ := ih hnext
      exact ⟨congrArg₂ List.cons hstatus hstatuses, hlast⟩

/-- A rejected sample changes diagnostic counters only, and every later run
gives the answers that it would have given without it. -/
theorem rejected_leavesNoTrace (self : VolumeAccumulator) (flow : FlowResult)
    (later : List FlowResult) (hrejected : LeavesNoTrace (self.consume flow).1) :
    (self.consume flow).2.undiagnosed = self.undiagnosed ∧
      ((self.consume flow).2.consumeAll later).1 = (self.consumeAll later).1 ∧
      ((self.consume flow).2.consumeAll later).2.undiagnosed =
        (self.consumeAll later).2.undiagnosed := by
  have hsame := undiagnosed_consume flow hrejected
  obtain ⟨hstatuses, hlast⟩ := consumeAll_congr later hsame
  exact ⟨hsame, hstatuses, hlast⟩

/-- An accumulator whose anchor is the largest flow. -/
def flooded : VolumeAccumulator :=
  { init none with anchorValid := true, anchorFlowUlPerS := Int64.maxValue }

/-- A sample that would be integrated, one second after the anchor. -/
def secondLater : FlowResult :=
  { FlowResult.cleared with
    metadata :=
      { FlowResult.cleared.metadata with
        purpose := .production, origin := .liveDevice, provenance := .measured
        validity := .valid, freshness := .fresh, acceptance := .accepted
        sampleMonotonicUs := 1000000 } }

theorem rejected_leavesNoTrace_flooded :
    (flooded.consume secondLater).1 = .overflow ∧
      (flooded.consume secondLater).2.undiagnosed = flooded.undiagnosed :=
  ⟨by decide,
    (rejected_leavesNoTrace flooded secondLater [] (by
      unfold LeavesNoTrace
      decide)).1⟩

end Swfpm.VolumeAccumulator
