import Swfpm.Domain.Measurement

/-!
# The volume accumulator

Embedding of `services/volume/volume_accumulator.{h,c}`.  A null argument is
not modelled; `init` takes the configuration as an option because the source
has a default for a missing one.
-/

namespace Swfpm

inductive VolumeConsumeStatus where
  | ok
  | anchored
  | zeroInterval
  | rejectedNonProduction
  | rejectedInvalid
  | rejectedStale
  | rejectedDuplicate
  | rejectedGeneration
  | rejectedBinding
  | rejectedTime
  | overflow
  | internalError
  deriving DecidableEq, Repr

structure VolumeConfig where
  configVersion : UInt32
  maximumIntegrationGapUs : UInt64
  maxUncheckpointedVolumeUl : UInt64
  maxIntervalS : UInt32
  minSpacingS : UInt32
  deriving DecidableEq, Repr

structure CheckpointCandidate where
  checkpointSequence : UInt64
  stateVersion : UInt64
  forwardVolumeUl : UInt64
  reverseVolumeUl : UInt64
  forwardRemainder : UInt64
  reverseRemainder : UInt64
  lastConsumedFlowSequence : UInt64
  lastSampleMonotonicUs : UInt64
  sourceGeneration : UInt32
  bindingId : UInt32
  deriving DecidableEq, Repr

structure VolumeAccumulator where
  config : VolumeConfig
  state : VolumeState
  anchorValid : Bool
  anchorSampleUs : UInt64
  anchorFlowUlPerS : Int64
  anchorSourceGeneration : UInt32
  anchorBindingId : UInt32
  forwardRem : UInt64
  reverseRem : UInt64
  lastGen : UInt32
  lastSeq : UInt64
  lastVer : UInt64
  sourceGeneration : UInt32
  diagSeen : UInt64
  diagConsumed : UInt64
  diagNonprodRejected : UInt64
  diagInvalidRejected : UInt64
  diagDuplicateRejected : UInt64
  diagStaleRejected : UInt64
  diagGapReanchored : UInt64
  diagGenReanchored : UInt64
  diagTimeFaults : UInt64
  deriving DecidableEq, Repr

namespace VolumeAccumulator

def timeScaleUsPerS : UInt64 := 1000000

/-! ## Checked arithmetic of the accumulator -/

/-- `none` is the overflow. -/
def checkedMulU64 (a b : UInt64) : Option UInt64 :=
  if a > 0 ∧ b > 0xFFFFFFFFFFFFFFFF / a then none else some (a * b)

def checkedAddU64 (a b : UInt64) : Option UInt64 :=
  if a > 0xFFFFFFFFFFFFFFFF - b then none else some (a + b)

/-! ## Bookkeeping -/

def stateBump (self : VolumeAccumulator) (nowUs : UInt64) :
    VolumeAccumulator :=
  { self with
    state :=
      { self.state with
        stateVersion := self.state.stateVersion + 1
        updatedMonotonicUs := nowUs } }

def statePublishIdentity (self : VolumeAccumulator) (metadata : ResultMetadata)
    (nowUs : UInt64) : VolumeAccumulator :=
  { self with
    state :=
      { self.state with
        lastConsumedFlowSequence := metadata.sampleSequence
        lastSampleMonotonicUs := nowUs
        anchorSampleMonotonicUs := self.anchorSampleUs
        anchorFlowUlPerS := self.anchorFlowUlPerS
        sourceGeneration := metadata.sourceGeneration
        bindingId := metadata.binding.bindingId
        forwardRemainder := self.forwardRem
        reverseRemainder := self.reverseRem } }

/-- The four anchor assignments that every anchoring branch makes. -/
def setAnchor (self : VolumeAccumulator) (flow : FlowResult) :
    VolumeAccumulator :=
  { self with
    anchorSampleUs := flow.metadata.sampleMonotonicUs
    anchorFlowUlPerS := flow.flowUlPerS
    anchorSourceGeneration := flow.metadata.sourceGeneration
    anchorBindingId := flow.metadata.binding.bindingId }

/-- The end of every branch that consumes the sample. -/
def finishConsume (self : VolumeAccumulator) (metadata : ResultMetadata) :
    VolumeAccumulator :=
  let self :=
    { self with
      lastGen := metadata.sourceGeneration
      lastSeq := metadata.sampleSequence
      lastVer := metadata.resultVersion
      diagConsumed := self.diagConsumed + 1 }
  let nowUs := metadata.sampleMonotonicUs
  (self.statePublishIdentity metadata nowUs).stateBump nowUs

def clearedConfig : VolumeConfig := ⟨0, 0, 0, 0, 0⟩

def cleared : VolumeAccumulator :=
  { config := clearedConfig, state := .cleared, anchorValid := false
    anchorSampleUs := 0, anchorFlowUlPerS := 0, anchorSourceGeneration := 0
    anchorBindingId := 0, forwardRem := 0, reverseRem := 0, lastGen := 0
    lastSeq := 0, lastVer := 0, sourceGeneration := 0, diagSeen := 0
    diagConsumed := 0, diagNonprodRejected := 0, diagInvalidRejected := 0
    diagDuplicateRejected := 0, diagStaleRejected := 0, diagGapReanchored := 0
    diagGenReanchored := 0, diagTimeFaults := 0 }

def init (config : Option VolumeConfig) : VolumeAccumulator :=
  match config with
  | some config =>
      { cleared with
        config
        state :=
          { VolumeState.cleared with
            configVersion := config.configVersion, stateVersion := 1 } }
  | none =>
      { cleared with
        config :=
          { clearedConfig with
            maximumIntegrationGapUs := 5000000
            maxUncheckpointedVolumeUl := 100000
            maxIntervalS := 3600
            minSpacingS := 60 }
        state := { VolumeState.cleared with stateVersion := 1 } }

/-! ## Consuming a flow result -/

/-- The checks before the time line is looked at: the rejection, if there is
one, and the accumulator with its diagnostic counter. -/
def checkAdmission (self : VolumeAccumulator) (metadata : ResultMetadata) :
    Option (VolumeConsumeStatus × VolumeAccumulator) :=
  if metadata.purpose ≠ .production ∨ metadata.origin ≠ .liveDevice ∨
      metadata.provenance ≠ .measured then
    some (.rejectedNonProduction,
      { self with diagNonprodRejected := self.diagNonprodRejected + 1 })
  else if metadata.validity ≠ .valid then
    some (.rejectedInvalid,
      { self with diagInvalidRejected := self.diagInvalidRejected + 1 })
  else if metadata.freshness ≠ .fresh then
    some (.rejectedStale,
      { self with diagStaleRejected := self.diagStaleRejected + 1 })
  else if metadata.acceptance ≠ .accepted then some (.rejectedInvalid, self)
  else if self.diagConsumed > 0 ∧
      metadata.sourceGeneration ≠ self.sourceGeneration then
    some (.rejectedGeneration,
      { self with diagStaleRejected := self.diagStaleRejected + 1 })
  else if self.diagConsumed > 0 ∧ metadata.sourceGeneration = self.lastGen ∧
      metadata.sampleSequence = self.lastSeq ∧
      metadata.resultVersion = self.lastVer then
    some (.rejectedDuplicate,
      { self with diagDuplicateRejected := self.diagDuplicateRejected + 1 })
  else none

/-- Volume and remainders after `dtUs` at the anchor flow; `none` is an
overflow, which leaves everything as it was. -/
def integrate (self : VolumeAccumulator) (dtUs : UInt64) :
    Option VolumeAccumulator := do
  let negative : Bool := self.anchorFlowUlPerS < 0
  let absFlow : UInt64 :=
    if negative then (-self.anchorFlowUlPerS).toUInt64
    else self.anchorFlowUlPerS.toUInt64
  let numerator ← checkedMulU64 absFlow dtUs
  let prevRem := if negative then self.reverseRem else self.forwardRem
  let numerator ← checkedAddU64 numerator prevRem
  let deltaUl := numerator / timeScaleUsPerS
  let newRem := numerator % timeScaleUsPerS
  if deltaUl > 0 then
    if negative then
      let reverseVolumeUl ← checkedAddU64 self.state.reverseVolumeUl deltaUl
      some
        { self with
          state := { self.state with reverseVolumeUl }, reverseRem := newRem }
    else if self.anchorFlowUlPerS > 0 then
      let forwardVolumeUl ← checkedAddU64 self.state.forwardVolumeUl deltaUl
      some
        { self with
          state := { self.state with forwardVolumeUl }, forwardRem := newRem }
    else some self
  else if negative then some { self with reverseRem := newRem }
  else if self.anchorFlowUlPerS > 0 then some { self with forwardRem := newRem }
  else some self

def setFlag (self : VolumeAccumulator) (flag : UInt32) : VolumeAccumulator :=
  { self with state := { self.state with flags := self.state.flags ||| flag } }

/-- The time line of an admitted sample. -/
def advance (self : VolumeAccumulator) (flow : FlowResult) :
    VolumeConsumeStatus × VolumeAccumulator :=
  let m := flow.metadata
  let nowUs := m.sampleMonotonicUs
  let adopted := { self with sourceGeneration := m.sourceGeneration }
  if !self.anchorValid then
    (.anchored,
      ({ adopted.setAnchor flow with anchorValid := true }).finishConsume m)
  else if nowUs = self.anchorSampleUs then
    (.zeroInterval, adopted.finishConsume m)
  else if nowUs < self.anchorSampleUs then
    (.rejectedTime,
      ((({ adopted with diagTimeFaults := self.diagTimeFaults + 1 }).setFlag
        ((1 : UInt32) <<< 2)).setAnchor flow).finishConsume m)
  else
    let dtUs := nowUs - self.anchorSampleUs
    if dtUs > self.config.maximumIntegrationGapUs then
      (.rejectedTime,
        ((({ adopted with
              diagGapReanchored := self.diagGapReanchored + 1 }).setFlag
          ((1 : UInt32) <<< 3)).setAnchor flow).finishConsume m)
    else
      match self.integrate dtUs with
      | none => (.overflow, self)
      | some self => (.ok, (self.setAnchor flow).finishConsume m)

def consume (self : VolumeAccumulator) (flow : FlowResult) :
    VolumeConsumeStatus × VolumeAccumulator :=
  let self := { self with diagSeen := self.diagSeen + 1 }
  match self.checkAdmission flow.metadata with
  | some rejection => rejection
  | none => self.advance flow

/-! ## Checkpoints -/

def getState (self : VolumeAccumulator) : VolumeState := self.state

def prepareCheckpoint (self : VolumeAccumulator) : CheckpointCandidate :=
  { checkpointSequence := self.state.checkpointSequence + 1
    stateVersion := self.state.stateVersion
    forwardVolumeUl := self.state.forwardVolumeUl
    reverseVolumeUl := self.state.reverseVolumeUl
    forwardRemainder := self.forwardRem
    reverseRemainder := self.reverseRem
    lastConsumedFlowSequence := self.state.lastConsumedFlowSequence
    lastSampleMonotonicUs := self.state.updatedMonotonicUs
    sourceGeneration := self.sourceGeneration
    bindingId := self.anchorBindingId }

def onCheckpointSuccess (self : VolumeAccumulator)
    (candidate : CheckpointCandidate) : VolumeAccumulator :=
  { self with
    state :=
      { self.state with
        checkpointedForwardUl := candidate.forwardVolumeUl
        checkpointedReverseUl := candidate.reverseVolumeUl
        checkpointSequence := candidate.checkpointSequence } }

def restore (self : VolumeAccumulator) (restored : VolumeState) :
    VolumeAccumulator :=
  { self with
    state :=
      { self.state with
        forwardVolumeUl := restored.forwardVolumeUl
        reverseVolumeUl := restored.reverseVolumeUl
        checkpointedForwardUl := restored.checkpointedForwardUl
        checkpointedReverseUl := restored.checkpointedReverseUl
        checkpointSequence := restored.checkpointSequence
        stateVersion := restored.stateVersion + 1
        flags := restored.flags ||| ((1 : UInt32) <<< 1) }
    forwardRem := restored.forwardRemainder
    reverseRem := restored.reverseRemainder
    sourceGeneration := restored.sourceGeneration
    anchorValid := false }

def clearAnchor (self : VolumeAccumulator) : VolumeAccumulator :=
  { self with anchorValid := false }

/-! ## What one call does

`ConsumeStep` lists the ways out of `consume` with the guards that lead to
them.  Everything below the accumulator reads a call through it. -/

/-- Entry of every call. -/
def seen (self : VolumeAccumulator) : VolumeAccumulator :=
  { self with diagSeen := self.diagSeen + 1 }

/-- The sample passes every check that comes before the time line. -/
def Admits (self : VolumeAccumulator) (flow : FlowResult) : Prop :=
  self.checkAdmission flow.metadata = none

instance (self : VolumeAccumulator) (flow : FlowResult) :
    Decidable (self.Admits flow) :=
  inferInstanceAs (Decidable (self.checkAdmission flow.metadata = none))

inductive ConsumeStep (self : VolumeAccumulator) (flow : FlowResult) :
    VolumeConsumeStatus → VolumeAccumulator → Prop where
  | refused {status next}
      (hadmission : self.seen.checkAdmission flow.metadata = some (status, next)) :
      ConsumeStep self flow status next
  | anchored (hadmission : self.Admits flow) (hanchor : self.anchorValid = false) :
      ConsumeStep self flow .anchored
        (({ ({ self.seen with
                sourceGeneration := flow.metadata.sourceGeneration } :
              VolumeAccumulator).setAnchor flow with
            anchorValid := true } : VolumeAccumulator).finishConsume
          flow.metadata)
  | zeroInterval (hadmission : self.Admits flow) (hanchor : self.anchorValid = true)
      (htime : flow.metadata.sampleMonotonicUs = self.anchorSampleUs) :
      ConsumeStep self flow .zeroInterval
        (({ self.seen with
            sourceGeneration := flow.metadata.sourceGeneration } :
          VolumeAccumulator).finishConsume flow.metadata)
  | backward (hadmission : self.Admits flow) (hanchor : self.anchorValid = true)
      (htime : flow.metadata.sampleMonotonicUs < self.anchorSampleUs) :
      ConsumeStep self flow .rejectedTime
        (((({ self.seen with
              sourceGeneration := flow.metadata.sourceGeneration
              diagTimeFaults := self.diagTimeFaults + 1 } :
            VolumeAccumulator).setFlag ((1 : UInt32) <<< 2)).setAnchor
          flow).finishConsume flow.metadata)
  | gap (hadmission : self.Admits flow) (hanchor : self.anchorValid = true)
      (htime : self.anchorSampleUs < flow.metadata.sampleMonotonicUs)
      (hgap : self.config.maximumIntegrationGapUs <
        flow.metadata.sampleMonotonicUs - self.anchorSampleUs) :
      ConsumeStep self flow .rejectedTime
        (((({ self.seen with
              sourceGeneration := flow.metadata.sourceGeneration
              diagGapReanchored := self.diagGapReanchored + 1 } :
            VolumeAccumulator).setFlag ((1 : UInt32) <<< 3)).setAnchor
          flow).finishConsume flow.metadata)
  | overflow (hadmission : self.Admits flow) (hanchor : self.anchorValid = true)
      (htime : self.anchorSampleUs < flow.metadata.sampleMonotonicUs)
      (hgap : flow.metadata.sampleMonotonicUs - self.anchorSampleUs ≤
        self.config.maximumIntegrationGapUs)
      (hoverflow : self.seen.integrate
        (flow.metadata.sampleMonotonicUs - self.anchorSampleUs) = none) :
      ConsumeStep self flow .overflow self.seen
  | integrated {mid} (hadmission : self.Admits flow)
      (hanchor : self.anchorValid = true)
      (htime : self.anchorSampleUs < flow.metadata.sampleMonotonicUs)
      (hgap : flow.metadata.sampleMonotonicUs - self.anchorSampleUs ≤
        self.config.maximumIntegrationGapUs)
      (hmid : self.seen.integrate
        (flow.metadata.sampleMonotonicUs - self.anchorSampleUs) = some mid) :
      ConsumeStep self flow .ok ((mid.setAnchor flow).finishConsume flow.metadata)

variable {self next : VolumeAccumulator} {flow : FlowResult}
  {status : VolumeConsumeStatus}

/-- The diagnostic counters do not take part in the checks, the number of
consumed samples apart. -/
theorem admits_seen : self.seen.Admits flow ↔ self.Admits flow := by
  simp only [Admits, checkAdmission, seen]
  grind

/-- A rejection by the checks moves diagnostic counters only. -/
theorem checkAdmission_frame
    (hadmission : self.checkAdmission flow.metadata = some (status, next)) :
    (∃ nonprod invalid stale duplicate,
      next =
        { self with
          diagNonprodRejected := nonprod, diagInvalidRejected := invalid
          diagStaleRejected := stale, diagDuplicateRejected := duplicate }) ∧
    status ≠ .ok ∧ status ≠ .anchored ∧ status ≠ .zeroInterval := by
  unfold checkAdmission at hadmission
  split_ifs at hadmission
  all_goals
    obtain ⟨rfl, rfl⟩ := Prod.mk.inj (Option.some.inj hadmission)
    refine ⟨⟨_, _, _, _, rfl⟩, ?_⟩
    simp

theorem consume_step (self : VolumeAccumulator) (flow : FlowResult) :
    ConsumeStep self flow (self.consume flow).1 (self.consume flow).2 := by
  unfold consume
  cases hadmission : self.seen.checkAdmission flow.metadata with
  | some rejection =>
      simp only [seen] at hadmission
      simp only [hadmission]
      exact .refused hadmission
  | none =>
      have hself : self.Admits flow := admits_seen.mp hadmission
      simp only [seen] at hadmission
      simp only [hadmission, advance]
      split_ifs with hanchor hzero hbackward hgap
      · exact .anchored hself (by simpa using hanchor)
      · exact .zeroInterval hself (by simpa using hanchor) hzero
      · exact .backward hself (by simpa using hanchor) hbackward
      · exact .gap hself (by simpa using hanchor)
          (UInt64.lt_of_le_of_ne (UInt64.not_lt.mp hbackward) (Ne.symm hzero)) hgap
      · have hforward : self.anchorSampleUs < flow.metadata.sampleMonotonicUs :=
          UInt64.lt_of_le_of_ne (UInt64.not_lt.mp hbackward) (Ne.symm hzero)
        split
        · next hoverflow =>
            exact .overflow hself (by simpa using hanchor) hforward
              (UInt64.not_lt.mp hgap) hoverflow
        · next mid hmid =>
            exact .integrated hself (by simpa using hanchor) hforward
              (UInt64.not_lt.mp hgap) hmid

end VolumeAccumulator
end Swfpm
