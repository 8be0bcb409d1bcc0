import Swfpm.Max35103.Moves

/-!
# Operations are moves

For each function of the driver, the moves that it makes under a policy.
-/

namespace Swfpm.Max35103

open Swfpm.AutoCal (Max35103Status Max35103Profile validateProfile)

variable {κ : Type*} {platform : Platform κ} {policy : Policy}
  {world next : World κ}

/-! ## Changes that keep everything -/

theorem Policy.keeps {before after : Driver}
    (request : after.request = before.request)
    (shadow : after.shadow = before.shadow) : policy.Keeps before after :=
  ⟨request, fun _ ↦ .inl shadow⟩

theorem Policy.drops {before after : Driver}
    (request : after.request = before.request)
    (shadow : after.isProfileSynchronized = false) : policy.Keeps before after :=
  ⟨request, fun _ ↦ .inr shadow⟩

theorem Moves.set {driver : Driver} (keeps : policy.Keeps world.driver driver) :
    Moves platform policy world (world.set driver) :=
  .single (.adjust keeps)

theorem Moves.note {event : Event} (plain : event.plain = true) :
    Moves platform policy world (world.note event) :=
  .single (.note plain)

/-! ## Cancelling -/

theorem clearOperation_moves :
    Moves platform policy world (clearOperation platform world) := by
  refine .tail ?_ (.abandon _)
  exact Moves.set (policy.keeps rfl rfl)

theorem enterError_moves :
    Moves platform policy world (enterError platform world) := by
  have withdrawn : Moves platform policy world
      (cancelPendingSpi platform (world.set { world.driver with
        errorCount := world.driver.errorCount + 1
        state := .error
        generation := world.driver.generation + 1 })) := by
    refine .tail ?_ (.abandon _)
    exact Moves.set (policy.keeps rfl rfl)
  unfold enterError
  generalize cancelPendingSpi platform (world.set _) = cancelled
    at withdrawn ⊢
  exact withdrawn.trans (Moves.set (policy.keeps rfl rfl))

/-! ## Publication -/

/-- Changes that agree on the request and the shadow. -/
structure Driver.Alike (before after : Driver) : Prop where
  request : after.request = before.request
  shadow : after.shadow = before.shadow

namespace Driver

variable (driver : Driver)

theorem Alike.keeps {before after : Driver} (alike : Alike before after) :
    policy.Keeps before after :=
  policy.keeps alike.request alike.shadow

theorem Alike.trans {first second third : Driver} (earlier : Alike first second)
    (later : Alike second third) : Alike first third :=
  ⟨later.request.trans earlier.request, later.shadow.trans earlier.shadow⟩

theorem publishSequence_alike : Alike driver driver.publishSequence.2 := by
  unfold publishSequence allocateSequence
  split_ifs <;> exact ⟨rfl, rfl⟩

theorem pushResult_alike (queued : RawResult) :
    Alike driver (driver.pushResult queued) := by
  unfold pushResult
  dsimp only
  split_ifs <;> exact ⟨rfl, rfl⟩

theorem pushTemperatureResult_alike (queued : TemperatureResult) :
    Alike driver (driver.pushTemperatureResult queued) := by
  unfold pushTemperatureResult
  dsimp only
  split_ifs <;> exact ⟨rfl, rfl⟩

theorem recordSequence_alike (own : UInt32) :
    Alike driver (recordSequence own driver).2 := by
  unfold recordSequence
  split
  · exact driver.publishSequence_alike
  · exact ⟨rfl, rfl⟩

end Driver

theorem publishResult_moves (result : RawResult) :
    Moves platform policy world (publishResult result world) := by
  refine .trans ?_ (Moves.note rfl)
  exact Moves.set ((world.driver.recordSequence_alike _).trans
    (Driver.pushResult_alike _ _)).keeps

theorem publishTemperatureResult_moves (result : TemperatureResult) :
    Moves platform policy world (publishTemperatureResult result world) := by
  refine .trans ?_ (Moves.note rfl)
  exact Moves.set ((world.driver.recordSequence_alike _).trans
    (Driver.pushTemperatureResult_alike _ _)).keeps

theorem publishStatusOnly_moves (status : UInt16) (timestampUs : UInt64) :
    Moves platform policy world
      (publishStatusOnly status timestampUs world) :=
  publishResult_moves _

theorem publishTemperatureStatusOnly_moves (status : UInt16)
    (timestampUs : UInt64) :
    Moves platform policy world
      (publishTemperatureStatusOnly status timestampUs world) :=
  publishTemperatureResult_moves _

theorem publishStatusRecords_moves (parts status : UInt16) :
    Moves platform policy world (publishStatusRecords parts status world) := by
  unfold publishStatusRecords
  dsimp only
  split_ifs
  · exact .trans (publishStatusOnly_moves _ _)
      (publishTemperatureStatusOnly_moves _ _)
  · exact publishTemperatureStatusOnly_moves _ _
  · exact publishStatusOnly_moves _ _
  · exact .refl

theorem publishMissingEventResults_moves (status : UInt16) :
    Moves platform policy world (publishMissingEventResults status world) :=
  publishStatusRecords_moves _ status

/-! ## Staging -/

theorem orError_moves {answer : Bool × World κ}
    (moves : Moves platform policy world answer.2) :
    Moves platform policy world (orError platform answer) := by
  unfold orError
  split
  · exact moves
  · exact moves.trans enterError_moves

theorem blockFrame_length {startReadOpcode wordCount : UInt8}
    (valid : blockRangeValid startReadOpcode wordCount = true) :
    (blockFrame startReadOpcode wordCount).length ≤ maxSpiFrameBytes := by
  unfold blockRangeValid at valid
  split at valid <;> rename_i bound
  · cases valid
  · have small : wordCount.toNat ≤ 35 := by
      have most : wordCount ≤ maxBlockWords :=
        UInt8.not_lt.mp fun more ↦ bound (.inr more)
      exact UInt8.le_iff_toNat_le.mp most
    simp only [blockFrame, List.length_cons, List.length_replicate,
      maxSpiFrameBytes]
    omega

theorem scheduleBlockRead_moves {startReadOpcode wordCount : UInt8}
    (reads : writesConfiguration (blockFrame startReadOpcode wordCount) = false)
    (spares : coversIntStatus (blockFrame startReadOpcode wordCount) = false) :
    Moves platform policy world
      (scheduleBlockRead startReadOpcode wordCount world).2 := by
  unfold scheduleBlockRead
  split <;> rename_i guarded
  · exact .refl
  · simp only [not_or, Bool.not_eq_true, Bool.not_eq_false] at guarded
    exact .single (.stage guarded.1 (blockFrame_length guarded.2) reads spares)

theorem beginResultRead_moves :
    Moves platform policy world (beginResultRead world).2 := by
  refine .trans ?_ (scheduleBlockRead_moves (by decide) (by decide))
  exact Moves.set (policy.keeps rfl rfl)

theorem beginTemperatureRead_moves (averaged : Bool) :
    Moves platform policy world (beginTemperatureRead averaged world).2 := by
  refine .trans ?_ (scheduleBlockRead_moves ?_ ?_)
  · exact Moves.set (policy.keeps rfl rfl)
  · cases averaged <;> decide
  · cases averaged <;> decide

theorem openDrain_moves (nowUs : UInt64) :
    Moves platform policy world (world.set (world.driver.openDrain nowUs)) :=
  Moves.set (policy.keeps rfl rfl)

theorem beginStatusDrain_moves (nowUs : UInt64) :
    Moves platform policy world (beginStatusDrain nowUs world).2 := by
  refine (openDrain_moves nowUs).trans ?_
  unfold beginStatusDrain scheduleRegisterRead
  generalize world.set (world.driver.openDrain nowUs) = opened
  dsimp only
  split <;> rename_i guarded
  · exact .refl
  · simp only [not_or, Bool.not_eq_true, Bool.not_eq_false] at guarded
    exact .single (.drain guarded.1)

/-! ## Events -/

theorem enterEventTimeout_moves (status : UInt16) :
    Moves platform policy world (enterEventTimeout platform status world) := by
  refine (publishMissingEventResults_moves status).trans ?_
  unfold enterEventTimeout
  generalize publishMissingEventResults status world = published
  refine .trans ?_ (Moves.note rfl)
  have withdrawn : Moves platform policy published
      (cancelPendingSpi platform (published.set { published.driver with
        timeoutCount := published.driver.timeoutCount + 1
        errorCount := published.driver.errorCount + 1
        generation := published.driver.generation + 1 })) := by
    refine .tail ?_ (.abandon _)
    exact Moves.set (policy.keeps rfl rfl)
  generalize cancelPendingSpi platform (published.set _) = cancelled
    at withdrawn ⊢
  exact withdrawn.trans (Moves.set (policy.keeps rfl rfl))

theorem finishEventInterrupt_moves (status : UInt16) :
    Moves platform policy world
      (finishEventInterrupt platform status world) := by
  unfold finishEventInterrupt
  split
  · exact enterEventTimeout_moves status
  · dsimp only
    have closed : Moves platform policy world
        (if world.driver.eventDone then
          (world.set world.driver.closeEvent).note
            (.eventComplete world.driver.expectedEventFlags)
        else world) := by
      split
      · refine .trans ?_ (Moves.note rfl)
        exact Moves.set (policy.keeps rfl rfl)
      · exact .refl
    generalize (if world.driver.eventDone then
      (world.set world.driver.closeEvent).note
        (.eventComplete world.driver.expectedEventFlags)
      else world) = following at closed ⊢
    have ended : Moves platform policy world
        (following.set following.driver.endDrain) :=
      closed.trans (Moves.set (policy.keeps rfl rfl))
    generalize following.set following.driver.endDrain = closing at ended ⊢
    split
    · refine orError_moves (.trans (ended.trans ?_) (beginStatusDrain_moves _))
      exact Moves.set (policy.keeps rfl rfl)
    · exact ended.trans (Moves.set (policy.keeps rfl rfl))

theorem onInt_moves (nowUs : UInt64) :
    Moves platform policy world (onInt platform nowUs world) := by
  unfold onInt
  dsimp only
  split_ifs
  · exact Moves.set (policy.keeps rfl rfl)
  · exact Moves.set (policy.keeps rfl rfl)
  · exact Moves.set (policy.keeps rfl rfl)
  · refine orError_moves (.trans ?_ (beginStatusDrain_moves _))
    exact Moves.set (policy.keeps rfl rfl)

theorem loseDevice_moves :
    Moves platform policy world (world.set world.driver.loseDevice) :=
  Moves.set (policy.drops rfl rfl)

theorem statusDone_moves :
    Moves platform policy world (statusDone platform world) := by
  unfold statusDone
  dsimp only
  have latched : Moves platform policy world
      ((world.set { world.driver with
        latchedStatus := wordAt world.driver.rxBuf 1 }).note
          (.statusRead (wordAt world.driver.rxBuf 1)
            world.driver.eventTimingActive)) := by
    refine .trans ?_ (Moves.note rfl)
    exact Moves.set (policy.keeps rfl rfl)
  refine latched.trans ?_
  split_ifs
  · exact .trans loseDevice_moves enterError_moves
  · exact .trans (publishStatusRecords_moves _ _)
      (.trans loseDevice_moves enterError_moves)
  · refine orError_moves (.trans ?_ beginResultRead_moves)
    exact Moves.set (policy.keeps rfl rfl)
  · refine orError_moves (.trans ?_ (beginTemperatureRead_moves _))
    exact Moves.set (policy.keeps rfl rfl)
  · refine .trans ?_ (finishEventInterrupt_moves _)
    exact Moves.set (policy.keeps rfl rfl)

theorem resultDone_moves :
    Moves platform policy world (resultDone platform world) := by
  unfold resultDone
  dsimp only
  split
  · refine orError_moves (.trans (.trans ?_ (publishResult_moves _))
      (beginTemperatureRead_moves _))
    exact Moves.set (policy.keeps rfl rfl)
  · refine .trans (.trans ?_ (publishResult_moves _))
      (finishEventInterrupt_moves _)
    exact Moves.set (policy.keeps rfl rfl)

theorem temperatureDone_moves :
    Moves platform policy world (temperatureDone platform world) := by
  refine .trans (.trans ?_ (publishTemperatureResult_moves _))
    (finishEventInterrupt_moves _)
  split
  · exact Moves.set (policy.keeps rfl rfl)
  · exact Moves.set (policy.keeps rfl rfl)

theorem onSpiDone_moves (token : UInt32) (transferOk : Bool) :
    Moves platform policy world
      (onSpiDone platform token transferOk world) := by
  unfold onSpiDone
  split <;> rename_i stale
  · exact Moves.set (policy.keeps rfl rfl)
  · simp only [not_or, Bool.not_eq_false] at stale
    refine .head (.complete stale.1) ?_
    dsimp only
    split
    · refine .trans ?_ enterError_moves
      split
      · exact Moves.set (policy.keeps rfl rfl)
      · exact .refl
    · split
      · exact statusDone_moves
      · exact resultDone_moves
      · exact temperatureDone_moves
      · exact enterError_moves

theorem receive_moves (rx : List UInt8) :
    Moves platform policy world (receive rx world) :=
  Moves.set (policy.keeps rfl rfl)

theorem takeCompletions_moves (completions : List Completion) :
    Moves platform policy world
      (completions.foldl (takeCompletion platform) world) := by
  induction completions generalizing world with
  | nil => exact .refl
  | cons completion rest ih =>
      exact .trans (.trans (receive_moves completion.rx)
        (onSpiDone_moves completion.token completion.transferOk)) ih

/-- The staged frame is one that the policy allows. -/
def Policy.Runs (policy : Policy) (world : World κ) : Prop :=
  world.driver.spiPending = true →
    policy.Permits world (some world.driver.spiToken) world.driver.pendingFrame

theorem startPendingSpiAsync_moves (runs : policy.Runs world) :
    Moves platform policy world (startPendingSpiAsync platform world).2 := by
  unfold startPendingSpiAsync
  split_ifs with free active
  · exact .refl
  · exact .refl
  · cases hook : platform.async with
    | none => exact .refl
    | some hooks =>
        dsimp only
        split <;> rename_i refused
        · exact .single (.refused refused)
        · have pending : world.driver.spiPending = true := by simpa using free
          refine .head (.launch hook pending (by simpa using refused)
            (runs pending)) ?_
          generalize launch hooks (busAcquire platform world).2 = launched
          refine .trans (takeCompletions_moves launched.1.completions) ?_
          split
          · exact Moves.set (policy.keeps rfl rfl)
          · refine .head (.disown _) ?_
            dsimp only
            split
            · exact .refl
            · exact Moves.set (policy.keeps rfl rfl)

theorem executeSpi_moves (runs : policy.Runs world) :
    Moves platform policy world (executeSpi platform world).2 := by
  unfold executeSpi
  split <;> rename_i pending
  · exact .refl
  · refine .head (.transfer (runs (by simpa using pending))) ?_
    dsimp only
    generalize spiXfer platform (some world.driver.spiToken)
      world.driver.pendingFrame world = sent
    refine .trans (receive_moves
      (sent.1.2.take world.driver.pendingFrame.length)) ?_
    split
    · exact .refl
    · exact onSpiDone_moves _ _

theorem onTimeout_moves :
    Moves platform policy world (onTimeout platform world) := by
  unfold onTimeout
  dsimp only
  split
  · refine .trans ?_ (enterEventTimeout_moves _)
    exact .trans (publishStatusOnly_moves _ _)
      (Moves.set (policy.keeps rfl rfl))
  · refine .trans ?_ (enterEventTimeout_moves _)
    exact .trans (publishTemperatureStatusOnly_moves _ _)
      (Moves.set (policy.keeps rfl rfl))
  · exact enterEventTimeout_moves _
  · exact enterEventTimeout_moves _
  · exact .refl

theorem process_moves (nowUs : UInt64) (runs : policy.Runs world) :
    Moves platform policy world (process platform nowUs world).2 := by
  unfold process
  split_ifs
  · exact onTimeout_moves
  · exact .refl
  · refine .trans (startPendingSpiAsync_moves runs) ?_
    dsimp only
    split
    · exact enterError_moves
    · exact .refl
  · exact executeSpi_moves runs
  · exact .refl
  · exact .refl
  · exact .refl

theorem cancel_moves :
    Moves platform policy world (cancel platform world) := by
  unfold cancel
  split
  · exact .refl
  · refine .trans ?_ (Moves.note rfl)
    refine .trans (.trans ?_ clearOperation_moves)
      (Moves.set (policy.keeps rfl rfl))
    exact Moves.set (policy.keeps rfl rfl)

/-! ## Waiting -/

/-- What a wait for a status word does between its verdicts. -/
inductive Waited (platform : Platform κ) (world : World κ) : World κ → Prop
  | refl : Waited platform world world
  | tick {next : World κ} (waited : Waited platform world next) :
      Waited platform world (getTick platform next).2
  | read {next : World κ} (waited : Waited platform world next) :
      Waited platform world (spiReadReg platform regIntStatus next).2
  | wait {next : World κ} (waited : Waited platform world next)
      (delayMs : UInt32) : Waited platform world (delay platform delayMs next)

theorem Waited.trans {last : World κ} (earlier : Waited platform world next)
    (later : Waited platform next last) : Waited platform world last := by
  induction later with
  | refl => exact earlier
  | tick _ ih => exact .tick ih
  | read _ ih => exact .read ih
  | wait _ delayMs ih => exact .wait ih delayMs

theorem Waited.calm (waited : Waited platform world next) :
    Calm world.driver next.driver := by
  induction waited with
  | refl => exact .refl _
  | tick _ ih => exact ih
  | read _ ih => exact ih.trans (spiXfer_driver _ _ _ _)
  | wait _ _ ih => exact ih

/-- A wait ends on a timeout, a failed transfer or a verdict. -/
theorem pollStatus_cases {α : Type*}
    {verdict : UInt16 → World κ → Option (α × World κ)}
    {failure : Max35103Status → α} {startMs timeoutMs : UInt32} {fuel : ℕ}
    {answer : α × World κ}
    (returned : pollStatus platform verdict failure startMs timeoutMs fuel world =
      some answer) :
    ∃ waiting, Waited platform world waiting ∧
      (answer = (failure .timeout, pollTimeout waiting) ∨
        answer = (failure .spiError, enterError platform waiting) ∨
        ∃ status, verdict status waiting = some answer) := by
  induction fuel generalizing world with
  | zero => cases returned
  | succ fuel ih =>
      unfold pollStatus at returned
      dsimp only at returned
      have ticked : Waited platform world (getTick platform world).2 :=
        .tick .refl
      generalize getTick platform world = ticking at returned ticked
      split at returned
      · exact ⟨_, ticked, .inl (Option.some.inj returned).symm⟩
      · have read := ticked.read
        generalize spiReadReg platform regIntStatus ticking.2 = reading
          at returned read
        split at returned
        · exact ⟨_, read, .inr (.inl (Option.some.inj returned).symm)⟩
        · rename_i status _
          split at returned <;> rename_i judged
          · exact ⟨_, read, .inr (.inr ⟨status, judged.trans returned⟩)⟩
          · obtain ⟨waiting, waited, ended⟩ := ih returned
            exact ⟨waiting, .trans (.wait read 1) waited, ended⟩

/-- Moves may poll `INT_STATUS`: for a halt, or outside event timing. -/
def Policy.Polls (policy : Policy) (driver : Driver) : Prop :=
  policy.halting = true ∨ driver.eventTimingActive = false

theorem Policy.Polls.permits (polls : policy.Polls world.driver) :
    policy.Permits world none [regIntStatus, 0, 0] := by
  refine ⟨fun _ ↦ by decide, fun forbidden active ↦ ?_⟩
  rcases polls with halting | inactive
  · exact absurd (halting.symm.trans forbidden) (by decide)
  · exact absurd (active.symm.trans inactive) (by decide)

theorem Calm.polls {before after : Driver} (calm : Calm before after)
    (polls : policy.Polls before) : policy.Polls after := by
  obtain ⟨failures, rfl⟩ := calm
  exact polls

theorem Waited.moves (waited : Waited platform world next)
    (polls : policy.Polls world.driver) :
    Moves platform policy world next := by
  induction waited with
  | refl => exact .refl
  | tick _ ih => exact ih.tail (.tick _)
  | read waited ih => exact ih.tail (.transfer (waited.calm.polls polls).permits)
  | wait _ _ ih => exact ih.tail (.wait _ _)

theorem pollStatus_moves {α : Type*}
    {verdict : UInt16 → World κ → Option (α × World κ)}
    {failure : Max35103Status → α} {startMs timeoutMs : UInt32} {fuel : ℕ}
    {answer : α × World κ} (polls : policy.Polls world.driver)
    (judged : ∀ {waiting : World κ} {status : UInt16} {answer : α × World κ},
      Calm world.driver waiting.driver → verdict status waiting = some answer →
        Moves platform policy waiting answer.2)
    (returned : pollStatus platform verdict failure startMs timeoutMs fuel world =
      some answer) : Moves platform policy world answer.2 := by
  obtain ⟨waiting, waited, ended⟩ := pollStatus_cases returned
  refine (waited.moves polls).trans ?_
  rcases ended with rfl | rfl | ⟨status, verdict⟩
  · exact Moves.set (policy.keeps rfl rfl)
  · exact enterError_moves
  · exact judged waited.calm verdict

/-! ## Commands and registers -/

theorem failWith_moves {status : Max35103Status}
    {answer : Max35103Status × World κ}
    (failed : failWith platform status world = some answer) :
    Moves platform policy world answer.2 := by
  obtain rfl := Option.some.inj failed
  exact enterError_moves

theorem finishOperation_moves :
    Moves platform policy world (finishOperation platform world) := by
  refine .trans ?_ clearOperation_moves
  exact Moves.set (policy.keeps rfl rfl)

theorem coversIntStatus_command (opcode : UInt8) :
    coversIntStatus [opcode] = false := by
  simp only [coversIntStatus, List.head?_cons, Option.any_some, List.length_cons,
    List.length_nil, Bool.and_eq_false_iff, decide_eq_false_iff_not]
  by_cases below : opcode ≤ regIntStatus
  · right
    have := UInt8.le_iff_toNat_le.mp below
    omega
  · exact .inl below

theorem spiCommand_moves (opcode : UInt8)
    (executes : isConfigurationWrite opcode = false) :
    Moves platform policy world (spiCommand platform opcode world).2 :=
  .single (.transfer ⟨fun _ ↦ executes, fun _ _ covers ↦
    absurd (coversIntStatus_command opcode) (by simp [covers])⟩)

theorem isConfigurationWrite_of_execution {opcode : UInt8}
    (executes : isExecutionOpcode opcode = true) :
    isConfigurationWrite opcode = false := by
  have below : opcode ≤ 0x0E := of_decide_eq_true executes
  simp only [isConfigurationWrite, Bool.and_eq_false_iff, decide_eq_false_iff_not,
    ge_iff_le, UInt8.not_le]
  have := UInt8.le_iff_toNat_le.mp below
  exact .inl (UInt8.lt_iff_toNat_lt.mpr (lt_of_le_of_lt this (by decide)))

theorem statusRead_moves (polls : policy.Polls world.driver) :
    Moves platform policy world (spiReadReg platform regIntStatus world).2 :=
  .single (.transfer polls.permits)

/-- Three bytes cover `INT_STATUS` only where the first one is its opcode. -/
theorem coversIntStatus_register {opcode second third : UInt8}
    (covers : coversIntStatus [opcode, second, third] = true) :
    opcode = regIntStatus := by
  simp only [coversIntStatus, List.head?_cons, Option.any_some, List.length_cons,
    List.length_nil, Bool.and_eq_true, decide_eq_true_eq] at covers
  have below := UInt8.le_iff_toNat_le.mp covers.1
  exact UInt8.toNat_inj.mp (by omega)

theorem registerRead_moves (opcode : UInt8)
    (reads : isConfigurationWrite opcode = false)
    (spares : opcode ≠ regIntStatus) :
    Moves platform policy world (spiReadReg platform opcode world).2 :=
  .single (.transfer ⟨fun _ ↦ reads, fun _ _ covers ↦
    absurd (coversIntStatus_register covers) spares⟩)

theorem isConfigurationWrite_of_read {opcode : UInt8}
    (reads : isReadOpcode opcode = true) :
    isConfigurationWrite opcode = false := by
  simp only [isConfigurationWrite, Bool.and_eq_false_iff, decide_eq_false_iff_not,
    ge_iff_le, UInt8.not_le]
  right
  simp only [isReadOpcode, Bool.or_eq_true, Bool.and_eq_true,
    decide_eq_true_eq] at reads
  rcases reads with rfl | ⟨above, _⟩
  · decide
  · have := UInt8.le_iff_toNat_le.mp above
    exact UInt8.lt_iff_toNat_lt.mpr (lt_of_lt_of_le (by decide) this)

/-- A block is read with buffers that no request holds. -/
theorem spiReadBlockData_moves {startReadOpcode wordCount : UInt8}
    (free : world.driver.spiPending = false)
    (reads : writesConfiguration (blockFrame startReadOpcode wordCount) = false)
    (spares : policy.halting = false → world.driver.eventTimingActive = true →
      coversIntStatus (blockFrame startReadOpcode wordCount) = false) :
    Moves platform policy world
      (spiReadBlockData platform startReadOpcode wordCount world).2 := by
  unfold spiReadBlockData
  split
  · exact .refl
  · generalize blockFrame startReadOpcode wordCount = frame at reads spares
    have permits : policy.Permits
        (writeBuffers frame (List.replicate frame.length 0) world) none frame :=
      ⟨fun _ ↦ reads, fun forbidden active covers ↦
        absurd (spares forbidden active) (by simp [covers])⟩
    exact .head (.buffers _ _ free) (.head (.transfer permits) (receive_moves _))

theorem isWriteOpcode_of_configuration {writeOpcode : UInt8}
    (configuration : isConfigurationWrite writeOpcode = true) :
    isWriteOpcode writeOpcode = true :=
  Bool.or_eq_true_iff.mpr (.inl configuration)

/-- A property that holds of every byte. -/
theorem byte_forall (property : UInt8 → Prop)
    (holds : ∀ n < 256, property (UInt8.ofNat n)) (byte : UInt8) :
    property byte := by
  have this := holds byte.toNat byte.toNat_lt
  rwa [UInt8.ofNat_toNat] at this

theorem readbackOpcode_reads (writeOpcode : UInt8) :
    isWriteOpcode writeOpcode = true →
      isConfigurationWrite (readbackOpcode writeOpcode) = false ∧
        readbackOpcode writeOpcode ≠ regIntStatus :=
  byte_forall (fun opcode ↦ isWriteOpcode opcode = true →
    isConfigurationWrite (readbackOpcode opcode) = false ∧
      readbackOpcode opcode ≠ regIntStatus) (by decide +kernel) writeOpcode

theorem readback_moves {writeOpcode : UInt8}
    (opcode : isWriteOpcode writeOpcode = true) :
    Moves platform policy world
      (spiReadReg platform (readbackOpcode writeOpcode) world).2 :=
  registerRead_moves _ (readbackOpcode_reads _ opcode).1
    (readbackOpcode_reads _ opcode).2

theorem writeReg_frame_moves {writeOpcode : UInt8}
    (writes : policy.writes = true) (opcode : isWriteOpcode writeOpcode = true)
    (value : UInt16) :
    Moves platform policy world
      (spiWriteReg platform writeOpcode value world).2 := by
  refine .single (.transfer ⟨fun forbidden ↦ ?_, fun _ _ covers ↦ ?_⟩)
  · exact absurd (writes.symm.trans forbidden) (by decide)
  · rw [coversIntStatus_register covers] at opcode
    exact absurd opcode (by decide)

/-! ## Reset -/

theorem beginReset_moves :
    Moves platform policy world (beginReset platform world) := by
  refine .trans ?_ clearOperation_moves
  exact Moves.set (policy.drops rfl rfl)

variable (platform world) in
theorem beginReset_driver :
    (beginReset platform world).driver.eventTimingActive = false ∧
      (beginReset platform world).driver.isProfileSynchronized = false := by
  obtain ⟨cancels, errors, driver⟩ :=
    clearOperation_driver platform (world.set world.driver.resetFields)
  unfold beginReset
  rw [driver]
  exact ⟨rfl, rfl⟩

theorem initVerdict_moves {status : UInt16} {answer : Max35103Status × World κ}
    (judged : initVerdict platform status world = some answer) :
    Moves platform policy world answer.2 := by
  unfold initVerdict at judged
  split at judged
  · obtain rfl := Option.some.inj judged
    refine .trans ?_ clearOperation_moves
    exact Moves.set (policy.keeps rfl rfl)
  · cases judged

theorem confirmReset_moves {fuel : ℕ} {answer : Max35103Status × World κ}
    (polls : policy.Polls world.driver)
    (returned : confirmReset platform fuel world = some answer) :
    Moves platform policy world answer.2 := by
  unfold confirmReset at returned
  dsimp only at returned
  refine (statusRead_moves polls).trans ?_
  replace polls := (spiReadReg_calm platform world regIntStatus).polls polls
  generalize spiReadReg platform regIntStatus world = reading at returned polls
  split at returned
  · exact failWith_moves returned
  · split at returned
    · exact failWith_moves returned
    · refine (spiCommand_moves cmdInit (by decide)).trans ?_
      replace polls := (spiCommand_calm platform reading.2 cmdInit).polls polls
      generalize spiCommand platform cmdInit reading.2 = sending
        at returned polls
      split at returned
      · exact failWith_moves returned
      · refine .head (.tick _) (.head (.wait initSettleMs _) ?_)
        refine pollStatus_moves ?_ (fun _ verdict ↦ initVerdict_moves verdict)
          returned
        exact polls

theorem resetDevice_moves {fuel : ℕ} {answer : Max35103Status × World κ}
    (returned : resetDevice platform fuel world = some answer) :
    Moves platform policy world answer.2 := by
  unfold resetDevice at returned
  split at returned
  · obtain rfl := Option.some.inj returned
    exact .refl
  · refine beginReset_moves.trans ?_
    obtain ⟨inactive, invalid⟩ := beginReset_driver platform world
    dsimp only at returned
    generalize beginReset platform world = begun at returned inactive invalid
    split at returned
    · exact failWith_moves returned
    · rename_i setReset hook
      refine .head (.pin hook true invalid) ?_
      split at returned
      · exact failWith_moves returned
      · refine .head (.wait resetPulseMs _) (.head (.pin hook false invalid) ?_)
        split at returned
        · exact failWith_moves returned
        · exact .head (.wait resetReadyMs _)
            (confirmReset_moves (.inr inactive) returned)

/-! ## Configuration -/

theorem writeEntries_moves (writes : policy.writes = true) :
    ∀ (entries : List (UInt8 × UInt16)) {world : World κ},
      (∀ entry ∈ entries, isConfigurationWrite entry.1 = true) →
        Moves platform policy world (writeEntries platform entries world).2
  | [], _, _ => .refl
  | (writeOpcode, value) :: rest, world, configuration => by
      have opcode := isWriteOpcode_of_configuration
        (configuration _ List.mem_cons_self)
      unfold writeEntries
      refine (writeReg_frame_moves writes opcode value).trans ?_
      dsimp only
      generalize spiWriteReg platform writeOpcode value world = writing
      split
      · exact enterError_moves
      · refine (readback_moves opcode).trans ?_
        generalize spiReadReg platform (readbackOpcode writeOpcode) writing.2 =
          reading
        split
        · exact enterError_moves
        · split
          · exact enterError_moves
          · exact writeEntries_moves writes rest fun entry member ↦
              configuration entry (List.mem_cons_of_mem _ member)

theorem configEntries_configuration (profile : Max35103Profile) :
    ∀ entry ∈ configEntries profile, isConfigurationWrite entry.1 = true := by
  simp only [configEntries, List.forall_mem_cons]
  exact ⟨rfl, rfl, rfl, rfl, rfl, rfl, rfl, rfl, rfl, rfl, rfl,
    List.forall_mem_nil _⟩

theorem Policy.rewrites {before after : Driver} (writes : policy.writes = true)
    (request : after.request = before.request) : policy.Keeps before after :=
  ⟨request, fun forbidden ↦ absurd (writes.symm.trans forbidden) (by decide)⟩

theorem configure_moves (writes : policy.writes = true)
    (profile : Max35103Profile) :
    Moves platform policy world (configure platform profile world).2 := by
  unfold configure
  split_ifs
  · exact .refl
  · exact .refl
  · exact .refl
  · have written : Moves platform policy
        (world.set world.driver.invalidateProfile)
        (writeEntries platform (configEntries profile)
          (world.set world.driver.invalidateProfile)).2 :=
      writeEntries_moves writes _ (configEntries_configuration profile)
    dsimp only
    generalize writeEntries platform (configEntries profile)
      (world.set world.driver.invalidateProfile) = writing at written ⊢
    have invalid : Moves platform policy world
        (world.set world.driver.invalidateProfile) :=
      Moves.set (policy.drops rfl rfl)
    refine (invalid.trans written).trans ?_
    split
    · exact .refl
    · exact Moves.set (policy.rewrites writes rfl)

theorem afterWrite_moves (writeOpcode : UInt8) :
    Moves platform policy world
      (world.set (world.driver.afterWrite writeOpcode)) := by
  unfold Driver.afterWrite
  split
  · exact Moves.set (policy.drops rfl rfl)
  · exact Moves.set (policy.keeps rfl rfl)

theorem Driver.writeGuard_ok {driver : Driver} {writeOpcode : UInt8}
    {value : UInt16} (passed : driver.writeGuard writeOpcode value = .ok) :
    isWriteOpcode writeOpcode = true ∧ driver.deviceReady = true ∧
      driver.available = true ∧ driver.refusesWrite writeOpcode value = false := by
  unfold writeGuard at passed
  split_ifs at passed
  simp_all

theorem writeReg_moves (writes : policy.writes = true) (writeOpcode : UInt8)
    (value : UInt16) :
    Moves platform policy world
      (writeReg platform writeOpcode value world).2 := by
  unfold writeReg
  dsimp only
  split <;> rename_i passed
  · exact .refl
  · have guarded := Driver.writeGuard_ok (not_not.mp passed)
    exact .trans (writeReg_frame_moves writes guarded.1 value)
      (afterWrite_moves writeOpcode)

theorem writeVerifyReg_moves (writes : policy.writes = true)
    (writeOpcode : UInt8) (value : UInt16) :
    Moves platform policy world
      (writeVerifyReg platform writeOpcode value world).2 := by
  unfold writeVerifyReg
  dsimp only
  split <;> rename_i passed
  · exact .refl
  · have guarded := Driver.writeGuard_ok (not_not.mp passed)
    refine (writeReg_frame_moves writes guarded.1 value).trans ?_
    generalize world.driver.synchronizedProfile.bind _ = candidate
    generalize spiWriteReg platform writeOpcode value world = writing
    split
    · exact afterWrite_moves writeOpcode
    · refine (readback_moves guarded.1).trans ?_
      generalize spiReadReg platform (readbackOpcode writeOpcode) writing.2 =
        reading
      split
      · refine Moves.set ?_
        unfold Driver.afterReadback
        split
        · split
          · exact policy.rewrites writes rfl
          · exact policy.drops rfl rfl
        · exact policy.keeps rfl rfl
      · exact afterWrite_moves writeOpcode

/-! ## Event timing -/

theorem startEventTiming_moves :
    Moves platform policy world (startEventTiming platform world).2 := by
  unfold startEventTiming
  split
  · exact .refl
  · rename_i profile _
    split_ifs with _ _ executes
    · exact .refl
    · exact .refl
    · exact .refl
    · exact .refl
    · have command := isConfigurationWrite_of_execution (by simpa using executes)
      refine (spiCommand_moves profile.eventModeCmd command).trans ?_
      dsimp only
      generalize spiCommand platform profile.eventModeCmd world = sending
      split
      · exact enterError_moves
      · refine clearOperation_moves.trans ?_
        generalize clearOperation platform sending.2 = cleared
        refine .trans ?_ (Moves.note rfl)
        exact Moves.set (policy.keeps rfl rfl)

theorem haltVerdict_moves {status : UInt16} {answer : Max35103Status × World κ}
    (judged : haltVerdict platform status world = some answer) :
    Moves platform policy world answer.2 := by
  unfold haltVerdict at judged
  split_ifs at judged
  · obtain rfl := Option.some.inj judged
    refine .trans ?_ clearOperation_moves
    exact Moves.set (policy.keeps rfl rfl)
  · exact loseDevice_moves.trans (failWith_moves judged)

theorem halt_moves (halting : policy.halting = true) {fuel : ℕ}
    {answer : Max35103Status × World κ}
    (returned : halt platform fuel world = some answer) :
    Moves platform policy world answer.2 := by
  unfold halt at returned
  split_ifs at returned
  · obtain rfl := Option.some.inj returned
    exact .refl
  · obtain rfl := Option.some.inj returned
    exact Moves.set (policy.keeps rfl rfl)
  · dsimp only at returned
    have withdrawn : Moves platform policy world (cancelPendingSpi platform
        (world.set { world.driver with
          generation := world.driver.generation + 1 })) := by
      refine .tail ?_ (.abandon _)
      exact Moves.set (policy.keeps rfl rfl)
    generalize cancelPendingSpi platform (world.set _) = cancelled
      at returned withdrawn
    have taken : Moves platform policy cancelled (cancelled.set
        { cancelled.driver with deadlineUs := 0, state := .halting }) :=
      Moves.set (policy.keeps rfl rfl)
    refine withdrawn.trans (taken.trans ?_)
    generalize cancelled.set _ = holding at returned
    refine (spiCommand_moves cmdHalt (by decide)).trans ?_
    generalize spiCommand platform cmdHalt holding = sending at returned
    split at returned
    · exact failWith_moves returned
    · exact .head (.tick _) (pollStatus_moves (.inl halting)
        (fun _ verdict ↦ haltVerdict_moves verdict) returned)

/-! ## Direct measurements -/

theorem readTofWordsBlocking_moves (free : world.driver.spiPending = false)
    (status : UInt16) (timestampUs : UInt64) (useAverage : Bool) :
    Moves platform policy world
      (readTofWordsBlocking platform status timestampUs useAverage world).2 := by
  have moved : Moves platform policy world
      (spiReadBlockData platform regWvrup tofResultBankWords world).2 :=
    spiReadBlockData_moves free (by decide) fun _ _ ↦ by decide
  exact moved

theorem readTemperatureWordsBlocking_moves
    (free : world.driver.spiPending = false) (status : UInt16)
    (timestampUs : UInt64) (averaged : Bool) :
    Moves platform policy world
      (readTemperatureWordsBlocking platform status timestampUs averaged
        world).2 := by
  unfold readTemperatureWordsBlocking
  dsimp only
  split
  · exact spiReadBlockData_moves free (by decide) fun _ _ ↦ by decide
  · exact spiReadBlockData_moves free (by decide) fun _ _ ↦ by decide

theorem loseReady_moves :
    Moves platform policy world (world.set world.driver.loseReady) :=
  Moves.set (policy.drops rfl rfl)

theorem Calm.free {before after : Driver} (calm : Calm before after)
    (free : before.spiPending = false) : after.spiPending = false := by
  obtain ⟨failures, rfl⟩ := calm
  exact free

theorem selfCheckVerdict_moves {status : UInt16}
    {answer : Max35103Status × World κ} (free : world.driver.spiPending = false)
    (judged : selfCheckVerdict platform status world = some answer) :
    Moves platform policy world answer.2 := by
  unfold selfCheckVerdict at judged
  split_ifs at judged
  · exact loseReady_moves.trans (failWith_moves judged)
  · dsimp only at judged
    refine (readTofWordsBlocking_moves free status 0 false).trans ?_
    generalize readTofWordsBlocking platform status 0 false world = reading
      at judged
    split at judged
    · exact failWith_moves judged
    · obtain rfl := Option.some.inj judged
      exact (publishResult_moves _).trans finishOperation_moves
  · exact (publishStatusOnly_moves status 0).trans
      (loseReady_moves.trans (failWith_moves judged))
  · exact (publishStatusOnly_moves status 0).trans (failWith_moves judged)

theorem Driver.available_iff (driver : Driver) :
    driver.available = true ↔ driver.state = .idle ∧
      driver.eventTimingActive = false ∧ driver.spiPending = false := by
  simp only [available, Bool.and_eq_true, decide_eq_true_eq, Bool.not_eq_true',
    and_assoc]

theorem selfCheck_moves {fuel : ℕ} {answer : Max35103Status × World κ}
    (returned : selfCheck platform fuel world = some answer) :
    Moves platform policy world answer.2 := by
  unfold selfCheck at returned
  split_ifs at returned with _ busy
  · obtain rfl := Option.some.inj returned
    exact .refl
  · obtain rfl := Option.some.inj returned
    exact .refl
  · obtain ⟨-, inactive, free⟩ :=
      world.driver.available_iff.mp (by simpa using busy)
    dsimp only at returned
    have begun : Moves platform policy world
        (world.set { world.driver with state := .selfCheck }) :=
      Moves.set (policy.keeps rfl rfl)
    refine begun.trans ((spiCommand_moves cmdTofDiff (by decide)).trans ?_)
    have calm := spiCommand_calm platform
      (world.set { world.driver with state := .selfCheck }) cmdTofDiff
    generalize spiCommand platform cmdTofDiff (world.set _) = sending
      at returned calm
    split at returned
    · exact failWith_moves returned
    · refine .head (.tick _) (pollStatus_moves (calm.polls (.inr inactive))
        (fun waited verdict ↦ ?_) returned)
      exact selfCheckVerdict_moves ((calm.trans waited).free free) verdict

theorem temperatureOutcome_moves (free : world.driver.spiPending = false)
    (sequence : UInt32) (status : UInt16) (report : Bool → Max35103Status) :
    Moves platform policy world
      (temperatureOutcome platform sequence status report world).2 := by
  unfold temperatureOutcome
  refine (readTemperatureWordsBlocking_moves free status 0 false).trans ?_
  dsimp only
  split
  · exact enterError_moves
  · exact finishOperation_moves

theorem temperatureVerdict_moves {sequence : UInt32} {status : UInt16}
    {answer : (Max35103Status × TemperatureResult) × World κ}
    (free : world.driver.spiPending = false)
    (judged : temperatureVerdict platform sequence status world = some answer) :
    Moves platform policy world answer.2 := by
  unfold temperatureVerdict at judged
  split_ifs at judged
  · obtain rfl := Option.some.inj judged
    exact enterError_moves
  · obtain rfl := Option.some.inj judged
    exact temperatureOutcome_moves free _ _ _
  · obtain rfl := Option.some.inj judged
    exact loseReady_moves.trans enterError_moves
  · obtain rfl := Option.some.inj judged
    exact temperatureOutcome_moves free _ _ _

theorem measureTemperature_moves {fuel : ℕ} {result : TemperatureResult}
    {answer : (Max35103Status × TemperatureResult) × World κ}
    (returned : measureTemperature platform fuel result world = some answer) :
    Moves platform policy world answer.2 := by
  unfold measureTemperature at returned
  split_ifs at returned with _ busy
  · obtain rfl := Option.some.inj returned
    exact .refl
  · obtain rfl := Option.some.inj returned
    exact .refl
  · obtain ⟨-, inactive, free⟩ :=
      world.driver.available_iff.mp (by simpa using busy)
    dsimp only [Driver.allocateSequence] at returned
    have begun : Moves platform policy world (world.set
        { world.driver with
          nextSequenceNumber := world.driver.nextSequence
          state := .tempMeasuring }) := Moves.set (policy.keeps rfl rfl)
    refine begun.trans ((spiCommand_moves cmdTemperature (by decide)).trans ?_)
    have calm := spiCommand_calm platform (world.set
      { world.driver with
        nextSequenceNumber := world.driver.nextSequence
        state := .tempMeasuring }) cmdTemperature
    generalize spiCommand platform cmdTemperature (world.set _) = sending
      at returned calm
    split at returned
    · obtain rfl := Option.some.inj returned
      exact enterError_moves
    · refine .head (.tick _) (pollStatus_moves (calm.polls (.inr inactive))
        (fun waited verdict ↦ ?_) returned)
      exact temperatureVerdict_moves ((calm.trans waited).free free) verdict

/-! ## Blocking diagnostics -/

theorem readReg_moves (readOpcode : UInt8) (value : UInt16) :
    Moves platform policy world
      (readReg platform readOpcode value world).2 := by
  unfold readReg
  split_ifs with reads _ _ owned
  · exact .refl
  · exact .refl
  · exact .refl
  · exact .refl
  · have inactive : readOpcode = regIntStatus →
        world.driver.eventTimingActive = false := fun status ↦ by
      have free := not_and.mp owned status
      simp only [Driver.intStatusOwned, Bool.or_eq_true, not_or] at free
      simpa using free.1.1.1.1.1.1.1
    have moved : Moves platform policy world
        (spiReadReg platform readOpcode world).2 := by
      by_cases status : readOpcode = regIntStatus
      · exact status ▸ statusRead_moves (.inr (inactive status))
      · exact registerRead_moves _
          (isConfigurationWrite_of_read (by simpa using reads)) status
    refine moved.trans ?_
    dsimp only
    split
    · exact .refl
    · exact .refl

/-- A block that covers `INT_STATUS` ends there or later. -/
theorem end_of_coversIntStatus {startReadOpcode wordCount : UInt8}
    (covers : coversIntStatus (blockFrame startReadOpcode wordCount) = true) :
    startReadOpcode.toNat + wordCount.toNat - 1 ≥ regIntStatus.toNat := by
  simp only [coversIntStatus, blockFrame, List.head?_cons, Option.any_some,
    List.length_cons, List.length_replicate, Bool.and_eq_true,
    decide_eq_true_eq] at covers
  omega

theorem blockRangeValid_cases {startReadOpcode wordCount : UInt8}
    (valid : blockRangeValid startReadOpcode wordCount = true) :
    isReadOpcode startReadOpcode = true ∧
      (startReadOpcode = regControl → wordCount = 1) := by
  unfold blockRangeValid at valid
  split_ifs at valid with _ control outside
  · exact ⟨by rw [control]; decide, fun _ ↦ by simpa using valid⟩
  · refine ⟨?_, fun is ↦ absurd is control⟩
    obtain ⟨above, below⟩ := not_or.mp outside
    simp [isReadOpcode, UInt8.not_lt.mp above, UInt8.not_lt.mp below]

theorem readBlock_moves (startReadOpcode wordCount : UInt8) :
    Moves platform policy world
      (readBlock platform startReadOpcode wordCount world).2 := by
  unfold readBlock
  split_ifs with valid _ deferred owned
  · exact .refl
  · exact .refl
  · exact .refl
  · exact .refl
  · obtain ⟨reads, control⟩ := blockRangeValid_cases (by simpa using valid)
    have free : world.driver.spiPending = false := by
      simp only [Driver.deferred, Bool.or_eq_true, not_or] at deferred
      simpa using deferred.1
    have moved : Moves platform policy world
        (spiReadBlockData platform startReadOpcode wordCount world).2 := by
      refine spiReadBlockData_moves free
        (isConfigurationWrite_of_read reads) fun _ active ↦ ?_
      by_contra covers
      rw [Bool.not_eq_false] at covers
      refine owned ⟨?_, fun start ↦ ?_, end_of_coversIntStatus covers⟩
      · simp [Driver.intStatusOwned, active]
      · rw [control start, start] at covers
        exact absurd covers (by decide)
    refine moved.trans ?_
    dsimp only
    split
    · exact .refl
    · exact .refl

theorem readResult_moves (result : RawResult) :
    Moves platform policy world (readResult platform result world).2 := by
  unfold readResult
  split_ifs with _ busy
  · exact .refl
  · exact .refl
  · obtain ⟨-, inactive, free⟩ :=
      world.driver.available_iff.mp (by simpa using busy)
    refine (statusRead_moves (.inr inactive)).trans ?_
    replace free := (spiReadReg_calm platform world regIntStatus).free free
    dsimp only
    generalize spiReadReg platform regIntStatus world = reading at free
    split
    · exact .refl
    · rename_i status _
      split_ifs
      · exact .refl
      · exact Moves.set (policy.keeps rfl rfl)
      · exact .refl
      · refine (readTofWordsBlocking_moves free status 0
          (status &&& intTofEvtmg ≠ 0)).trans ?_
        exact Moves.set (policy.keeps rfl rfl)

theorem Driver.isBusy_pending {driver : Driver} (idle : driver.isBusy ≠ true) :
    driver.spiPending = false := by
  by_contra pending
  exact idle (by simp [isBusy, pending])

theorem readWaveEvidence_moves (evidence : WaveEvidence) :
    Moves platform policy world
      (readWaveEvidence platform evidence world).2 := by
  unfold readWaveEvidence
  split
  · exact .refl
  · split_ifs with _ busy
    · exact .refl
    · exact .refl
    · dsimp only
      split
      · exact .refl
      · have free := Driver.isBusy_pending (not_or.mp busy).1
        have moved : Moves platform policy world
            (spiReadBlockData platform regWvrup tofResultBankWords world).2 :=
          spiReadBlockData_moves free (by decide) fun _ _ ↦ by decide
        refine moved.trans ?_
        split
        · exact .refl
        · exact .refl

theorem probe_moves : Moves platform policy world (probe platform world).2 := by
  unfold probe
  split
  · exact .refl
  · refine (registerRead_moves readTof1 (by decide) (by decide)).trans ?_
    dsimp only
    split
    · exact .refl
    · exact registerRead_moves readCalCtrl (by decide) (by decide)

/-! ## Any operation -/

namespace Driver

variable (driver : Driver)

theorem resultPop_keeps : policy.Keeps driver driver.resultPop.2 := by
  unfold resultPop
  split
  · exact policy.keeps rfl rfl
  · exact policy.keeps rfl rfl

theorem temperatureResultPop_keeps :
    policy.Keeps driver driver.temperatureResultPop.2 := by
  unfold temperatureResultPop
  split
  · exact policy.keeps rfl rfl
  · exact policy.keeps rfl rfl

end Driver

/-- The operations that a policy lets through. -/
def Policy.Allows (policy : Policy) : Op → Prop
  | .configure _ | .writeReg .. | .writeVerifyReg .. => policy.writes = true
  | .halt _ => policy.halting = true
  | _ => True

theorem moves_of_step {op : Op} (allowed : policy.Allows op)
    (runs : policy.Runs world)
    (stepped : step platform world op = some next) :
    Moves platform policy world next := by
  cases op <;> simp only [step, Option.map_eq_some_iff, Option.some.injEq] at stepped
  case resetDevice =>
    obtain ⟨answer, returned, rfl⟩ := stepped
    exact resetDevice_moves returned
  case halt =>
    obtain ⟨answer, returned, rfl⟩ := stepped
    exact halt_moves allowed returned
  case selfCheck =>
    obtain ⟨answer, returned, rfl⟩ := stepped
    exact selfCheck_moves returned
  case measureTemperature =>
    obtain ⟨answer, returned, rfl⟩ := stepped
    exact measureTemperature_moves returned
  all_goals obtain rfl := stepped
  case configure profile => exact configure_moves allowed profile
  case startEventTiming => exact startEventTiming_moves
  case cancel => exact cancel_moves
  case onInt nowUs => exact onInt_moves nowUs
  case startPendingSpiAsync => exact startPendingSpiAsync_moves runs
  case onSpiDone token transferOk => exact onSpiDone_moves token transferOk
  case executeSpi => exact executeSpi_moves runs
  case process nowUs => exact process_moves nowUs runs
  case onTimeout => exact onTimeout_moves
  case readReg => exact readReg_moves _ _
  case readBlock => exact readBlock_moves _ _
  case writeReg => exact writeReg_moves allowed _ _
  case writeVerifyReg => exact writeVerifyReg_moves allowed _ _
  case readResult result => exact readResult_moves result
  case readWaveEvidence evidence => exact readWaveEvidence_moves evidence
  case probe => exact probe_moves
  case resultPop => exact Moves.set world.driver.resultPop_keeps
  case temperatureResultPop =>
    exact Moves.set world.driver.temperatureResultPop_keeps
  case setQueueOverflowPolicy => exact Moves.set (policy.keeps rfl rfl)
  case clearResultQueues => exact Moves.set (policy.keeps rfl rfl)
  case receive rx => exact receive_moves rx

end Swfpm.Max35103
