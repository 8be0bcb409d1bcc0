import Swfpm.Max35103.OperationMoves

/-!
# The device behind the transport

The device as sixteen-bit registers, and a bench that behaves as one: its
`INT_STATUS` returns scripted words, and its clock advances with each question.
-/

namespace Swfpm.Max35103

open Swfpm.AutoCal (Max35103Profile)

/-! ## Registers -/

/-- A platform whose device holds registers, named by their write opcodes.  Only
frames and resets reach them; a write changes at most the register it addresses,
and a read that succeeds returns what the register holds. -/
structure RegisterModel {κ : Type*} (platform : Platform κ) where
  registers : κ → UInt8 → UInt16
  spares : ∀ context tx timeoutMs, writesConfiguration tx = false →
    registers (platform.transfer context tx timeoutMs).2 = registers context
  addresses : ∀ context opcode data timeoutMs other,
    isConfigurationWrite opcode = true → other ≠ opcode →
      registers (platform.transfer context (opcode :: data) timeoutMs).2 other =
        registers context other
  returns : ∀ context opcode timeoutMs, isConfigurationWrite opcode = true →
    (platform.transfer context [readbackOpcode opcode, 0, 0] timeoutMs).1.1 = .ok →
      wordAt (platform.transfer context [readbackOpcode opcode, 0, 0]
        timeoutMs).1.2 1 = registers context opcode
  ticks : ∀ context, registers (platform.getTickMs context).2 = registers context
  waits : ∀ context delayMs,
    registers (platform.delayMs context delayMs) = registers context
  locks : ∀ hooks, platform.sharing = some hooks → ∀ context timeoutMs,
    registers (hooks.lock context timeoutMs).2 = registers context
  unlocks : ∀ hooks, platform.sharing = some hooks → ∀ context,
    registers (hooks.unlock context) = registers context
  starts : ∀ hooks, platform.async = some hooks → ∀ context tx token,
    writesConfiguration tx = false →
      registers (hooks.startTransferAsync context tx token).context =
        registers context
  cancels : ∀ hooks, platform.async = some hooks → ∀ context token,
    registers (hooks.cancelTransferAsync context token).2 = registers context

/-! ## The bench -/

structure Bench where
  registers : UInt8 → UInt16
  clockMs : UInt32
  /-- The words that reads of `INT_STATUS` return in turn, and then zero. -/
  statuses : List UInt16

def highByte (word : UInt16) : UInt8 := (word >>> 8).toUInt8

def lowByte (word : UInt16) : UInt8 := word.toUInt8

namespace Bench

variable (bench : Bench)

/-- The register that an opcode reads, as its answer in three bytes. -/
def readWord (opcode : UInt8) : List UInt8 × Bench :=
  if opcode = regIntStatus then
    let word := bench.statuses.headD 0
    ([0, highByte word, lowByte word],
      { bench with statuses := bench.statuses.tail })
  else
    let word := bench.registers (opcode &&& 0x7F)
    ([0, highByte word, lowByte word], bench)

def transfer (tx : List UInt8) (_timeoutMs : UInt32) :
    (TransportStatus × List UInt8) × Bench :=
  match tx with
  | [opcode, high, low] =>
      if isConfigurationWrite opcode then
        ((.ok, []), { bench with
          registers := Function.update bench.registers opcode
            (wordAt [high, low] 0) })
      else
        let (rx, bench) := bench.readWord opcode
        ((.ok, rx), bench)
  | _ => ((.ok, List.replicate tx.length 0), bench)

def getTickMs : UInt32 × Bench :=
  (bench.clockMs, { bench with clockMs := bench.clockMs + 1 })

def delayMs (milliseconds : UInt32) : Bench :=
  { bench with clockMs := bench.clockMs + milliseconds }

def setReset (asserted : Bool) : TransportStatus × Bench :=
  (.ok, if asserted then { bench with registers := fun _ ↦ 0 } else bench)

end Bench

/-- The bench as a platform whose transfers, when started, complete later. -/
def benchPlatform : Platform Bench where
  transfer := Bench.transfer
  setReset := some Bench.setReset
  getTickMs := Bench.getTickMs
  delayMs := Bench.delayMs
  async := some
    { startTransferAsync := fun bench _ _ ↦
        { completions := [], status := .ok, context := bench }
      cancelTransferAsync := fun bench _ ↦ (.ok, bench) }
  sharing := some
    { lock := fun bench _ ↦ (.ok, bench)
      unlock := id }
  platinumRtdToMilliCelsius := fun _ _ ↦ none

theorem readback_register (opcode : UInt8) :
    isConfigurationWrite opcode = true →
      isConfigurationWrite (readbackOpcode opcode) = false ∧
        readbackOpcode opcode ≠ regIntStatus ∧
        readbackOpcode opcode &&& 0x7F = opcode :=
  byte_forall (fun opcode ↦ isConfigurationWrite opcode = true →
    isConfigurationWrite (readbackOpcode opcode) = false ∧
      readbackOpcode opcode ≠ regIntStatus ∧
      readbackOpcode opcode &&& 0x7F = opcode) (by decide +kernel) opcode

theorem wordAt_bytes (word : UInt16) :
    wordAt [0, highByte word, lowByte word] 1 = word := by
  change ((word >>> 8).toUInt8.toUInt16 <<< 8) ||| word.toUInt8.toUInt16 = word
  apply UInt16.toNat_inj.mp
  have bound := word.toNat_lt
  have high : word.toNat / 256 < 256 := by omega
  have low : word.toNat % 2 ^ 8 < 2 ^ 8 := Nat.mod_lt _ (by decide)
  have joined := Nat.shiftLeft_add_eq_or_of_lt low (word.toNat / 256)
  simp only [UInt16.toNat_or, UInt16.toNat_shiftLeft, UInt8.toNat_toUInt16,
    UInt16.toNat_toUInt8, UInt16.toNat_shiftRight, UInt16.toNat_ofNat,
    Nat.shiftRight_eq_div_pow, Nat.shiftLeft_eq] at joined ⊢
  norm_num at joined ⊢
  rw [Nat.mod_eq_of_lt high,
    Nat.mod_eq_of_lt (by omega : word.toNat / 256 * 256 < 65536), ← joined]
  omega

/-- The bench is a device of registers. -/
def benchModel : RegisterModel benchPlatform where
  registers := Bench.registers
  spares bench tx timeoutMs reads := by
    change (bench.transfer tx timeoutMs).2.registers = bench.registers
    unfold Bench.transfer
    split
    · rename_i opcode high low
      have read : isConfigurationWrite opcode = false := reads
      simp only [read, Bool.false_eq_true, if_false]
      unfold Bench.readWord
      split <;> rfl
    · rfl
  addresses bench opcode data timeoutMs other write different := by
    change (bench.transfer (opcode :: data) timeoutMs).2.registers other =
      bench.registers other
    unfold Bench.transfer
    split
    · rename_i first high low frame
      obtain ⟨rfl, -⟩ := List.cons.inj frame
      simp only [write, if_true]
      exact Function.update_of_ne different _ _
    · rfl
  returns bench opcode timeoutMs write _ := by
    obtain ⟨reads, other, register⟩ := readback_register opcode write
    change wordAt (bench.transfer [readbackOpcode opcode, 0, 0] timeoutMs).1.2 1 =
      bench.registers opcode
    simp only [Bench.transfer, reads, Bool.false_eq_true, if_false,
      Bench.readWord, other, register]
    exact wordAt_bytes _
  ticks _ := rfl
  waits _ _ := rfl
  locks hooks installed context timeoutMs := by
    obtain rfl := Option.some.inj installed
    rfl
  unlocks hooks installed context := by
    obtain rfl := Option.some.inj installed
    rfl
  starts hooks installed context tx token _ := by
    obtain rfl := Option.some.inj installed
    rfl
  cancels hooks installed context token := by
    obtain rfl := Option.some.inj installed
    rfl

/-! ## Scenarios -/

variable {κ : Type*} {platform : Platform κ}

/-- Calls in a row. -/
def runOps (platform : Platform κ) (world : World κ) (ops : List Op) :
    Option (World κ) :=
  ops.foldlM (step platform) world

theorem Reachable.of_runOps {world last : World κ} {ops : List Op}
    (reached : Reachable platform world)
    (ran : runOps platform world ops = some last) : Reachable platform last := by
  induction ops generalizing world with
  | nil => exact Option.some.inj ran ▸ reached
  | cons op rest ih =>
      obtain ⟨next, stepped, ran⟩ := Option.bind_eq_some_iff.mp ran
      exact ih (.step op reached stepped) ran

/-- A profile of one hit, whose interrupts are enabled. -/
def benchProfile : Max35103Profile :=
  { Max35103Profile.zero with
    eventModeCmd := cmdEvtmg1
    tof1 := 0x1010
    tof2 := 0x0007
    tofMeasurementDelay := 0x0012
    calibrationControl := calCtrlIntEn }

def benchStart (statuses : List UInt16) : World Bench :=
  World.init { registers := fun _ ↦ 0, clockMs := 0, statuses := statuses }

/-- A run of the bench that reaches a world of some kind. -/
theorem benchRun (statuses : List UInt16) (ops : List Op)
    (kind : World Bench → Bool)
    (ran : (runOps benchPlatform (benchStart statuses) ops).any kind = true) :
    ∃ world, Reachable benchPlatform world ∧ kind world = true ∧
      runOps benchPlatform (benchStart statuses) ops = some world := by
  obtain ⟨world, run, holds⟩ := (Option.any_eq_true _ _).mp ran
  exact ⟨world, .of_runOps (.init _) run, holds, run⟩

end Swfpm.Max35103
