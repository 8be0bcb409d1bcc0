import Swfpm.Max35103.IntStatus

/-!
# The profile shadow

Whenever the driver claims a synchronized profile, the configuration registers
of the device hold that profile, and it passes its structural check.
-/

namespace Swfpm.Max35103

open Swfpm.AutoCal (Max35103Status Max35103Profile validateProfile)

variable {κ : Type*} {platform : Platform κ} {policy : Policy}
  {world next : World κ}

/-- The registers of the device hold a profile. -/
def RegisterModel.Holds (model : RegisterModel platform) (context : κ)
    (profile : Max35103Profile) : Prop :=
  ∀ entry ∈ configEntries profile, model.registers context entry.1 = entry.2

/-- A claim to be synchronized is true. -/
def RegisterModel.Sound (model : RegisterModel platform) (world : World κ) :
    Prop :=
  world.driver.isProfileSynchronized = true →
    model.Holds world.context world.driver.activeProfile ∧
      validateProfile world.driver.activeProfile = .ok

namespace RegisterModel

variable (model : RegisterModel platform)

/-! ## Registers after hooks -/

theorem busAcquire_registers :
    model.registers (busAcquire platform world).2.context =
      model.registers world.context := by
  unfold busAcquire
  split
  · rfl
  · cases sharing : platform.sharing with
    | none => rfl
    | some hooks =>
        have locks := model.locks hooks sharing world.context spiTimeoutMs
        dsimp only
        split
        · exact locks
        · exact locks

theorem busRelease_registers :
    model.registers (busRelease platform world).context =
      model.registers world.context := by
  unfold busRelease
  split
  · cases sharing : platform.sharing with
    | none => rfl
    | some hooks => exact model.unlocks hooks sharing world.context
  · rfl

/-- A register that the transfers of a frame spare, the whole frame spares. -/
theorem spiXfer_register {tx : List UInt8} {opcode : UInt8}
    (token : Option UInt32)
    (spares : ∀ context, model.registers
      (platform.transfer context tx spiTimeoutMs).2 opcode =
        model.registers context opcode) :
    model.registers (spiXfer platform token tx world).2.context opcode =
      model.registers world.context opcode := by
  unfold spiXfer
  dsimp only
  split
  · exact congrFun model.busAcquire_registers opcode
  · rw [congrFun model.busRelease_registers opcode]
    exact (spares _).trans (congrFun model.busAcquire_registers opcode)

theorem spiXfer_registers {tx : List UInt8} (token : Option UInt32)
    (reads : writesConfiguration tx = false) :
    model.registers (spiXfer platform token tx world).2.context =
      model.registers world.context :=
  funext fun opcode ↦ model.spiXfer_register token fun context ↦
    congrFun (model.spares context tx spiTimeoutMs reads) opcode

theorem cancelPendingSpi_registers :
    model.registers (cancelPendingSpi platform world).context =
      model.registers world.context := by
  unfold cancelPendingSpi
  dsimp only
  split
  · change model.registers (disownTransfer platform
      (cancelTransfer platform world)).context = _
    unfold disownTransfer
    rw [model.busRelease_registers]
    unfold cancelTransfer
    cases installed : platform.async with
    | none => rfl
    | some hooks =>
        exact model.cancels hooks installed world.context world.driver.spiToken
  · rfl

theorem disownTransfer_registers :
    model.registers (disownTransfer platform world).context =
      model.registers world.context :=
  model.busRelease_registers

theorem completeRequest_registers :
    model.registers (completeRequest platform world).context =
      model.registers world.context := by
  unfold completeRequest
  dsimp only
  split
  · exact model.disownTransfer_registers
  · rfl

/-! ## Moves that do not write -/

variable {model}

/-- The same registers and the same shadow. -/
theorem Sound.keep (sound : model.Sound world)
    (registers : model.registers next.context = model.registers world.context)
    (shadow : next.driver.shadow = world.driver.shadow) : model.Sound next := by
  intro synchronized
  have profile : next.driver.activeProfile = world.driver.activeProfile :=
    congrArg Shadow.profile shadow
  have same : next.driver.isProfileSynchronized =
      world.driver.isProfileSynchronized :=
    congrArg (fun s : Shadow ↦ s.configured && s.synchronized) shadow
  obtain ⟨holds, valid⟩ := sound (same ▸ synchronized)
  rw [profile]
  refine ⟨fun entry member ↦ ?_, valid⟩
  rw [registers]
  exact holds entry member

theorem Sound.of_invalid
    (invalid : world.driver.isProfileSynchronized = false) : model.Sound world :=
  fun synchronized ↦ absurd synchronized (by simp [invalid])

theorem of_move (move : Move platform policy world next)
    (reading : policy.writes = false) (sound : model.Sound world) :
    model.Sound next := by
  cases move with
  | adjust keeps =>
      rcases keeps.shadow reading with same | invalid
      · exact sound.keep rfl same
      · exact .of_invalid invalid
  | note => exact sound.keep rfl rfl
  | tick => exact sound.keep (model.ticks _) rfl
  | wait => exact sound.keep (model.waits _ _) rfl
  | pin hook asserted invalid => exact .of_invalid invalid
  | @transfer world token tx permits =>
      exact sound.keep (model.spiXfer_registers token (permits.1 reading))
        (spiXfer_driver platform world token tx).shadow
  | buffers => exact sound.keep rfl rfl
  | stage => exact sound.keep rfl rfl
  | drain => exact sound.keep rfl rfl
  | complete =>
      exact sound.keep model.completeRequest_registers
        (by rw [completeRequest_driver]; rfl)
  | abandon world =>
      obtain ⟨cancels, errors, cancelled⟩ := cancelPendingSpi_driver platform world
      exact sound.keep model.cancelPendingSpi_registers (by rw [cancelled]; rfl)
  | refused busy =>
      exact sound.keep model.busAcquire_registers (busAcquire_refused busy).shadow
  | @launch world hooks hook pending acquired permits =>
      have driver := (busAcquire_ok acquired).2
      refine sound.keep ?_ ?_
      · have frame : (Driver.pendingFrame { (busAcquire platform world).2.driver
            with spiAsyncActive := true }) = world.driver.pendingFrame := by
          rw [driver]
          rfl
        refine Eq.trans (model.starts hooks hook
          (busAcquire platform world).2.context _ _ ?_) model.busAcquire_registers
        exact (congrArg writesConfiguration frame).trans (permits.1 reading)
      · simp only [Max35103.launch, World.note_driver, World.set_driver, driver]
        rfl
  | disown =>
      exact sound.keep model.disownTransfer_registers
        (by rw [disownTransfer_driver]; rfl)

theorem of_moves (moves : Moves platform policy world next)
    (reading : policy.writes = false) (sound : model.Sound world) :
    model.Sound next := by
  induction moves with
  | refl => exact sound
  | tail _ move ih => exact of_move move reading ih

/-! ## Writes -/

variable (model)

/-- A write reaches no register but its own. -/
theorem spiWriteReg_register {writeOpcode other : UInt8} (value : UInt16)
    (write : isConfigurationWrite writeOpcode = true)
    (different : other ≠ writeOpcode) :
    model.registers (spiWriteReg platform writeOpcode value world).2.context
        other = model.registers world.context other :=
  model.spiXfer_register none fun context ↦
    model.addresses context writeOpcode _ spiTimeoutMs other write different

/-- A readback that succeeds returns what the register holds. -/
theorem readback_returns {writeOpcode : UInt8} {value : UInt16}
    (write : isConfigurationWrite writeOpcode = true)
    (read : (spiReadReg platform (readbackOpcode writeOpcode) world).1 =
      some value) :
    model.registers
      (spiReadReg platform (readbackOpcode writeOpcode) world).2.context
        writeOpcode = value := by
  have reads : writesConfiguration [readbackOpcode writeOpcode, 0, 0] = false :=
    (readback_register writeOpcode write).1
  have kept : model.registers (spiReadReg platform (readbackOpcode writeOpcode)
      world).2.context = model.registers world.context :=
    model.spiXfer_registers none reads
  refine (congrFun kept writeOpcode).trans ?_
  unfold spiReadReg spiXfer at read
  dsimp only at read
  split at read
  · simp at read
  · simp only [Option.ite_none_right_eq_some, Option.some.injEq] at read
    obtain ⟨succeeded, word⟩ := read
    rw [← word, model.returns _ _ _ write succeeded]
    exact (congrFun model.busAcquire_registers writeOpcode).symm

theorem readback_registers {writeOpcode : UInt8}
    (write : isWriteOpcode writeOpcode = true) :
    model.registers
      (spiReadReg platform (readbackOpcode writeOpcode) world).2.context =
        model.registers world.context :=
  model.spiXfer_registers none (readbackOpcode_reads writeOpcode write).1

/-- The entries of a list that has been written and verified are held, and no
other register has changed. -/
theorem writeEntries_holds :
    ∀ (entries : List (UInt8 × UInt16)) {world : World κ},
      (∀ entry ∈ entries, isConfigurationWrite entry.1 = true) →
      (entries.map Prod.fst).Nodup →
      (writeEntries platform entries world).1 = .ok →
        (∀ entry ∈ entries, model.registers
          (writeEntries platform entries world).2.context entry.1 = entry.2) ∧
        ∀ other ∉ entries.map Prod.fst, model.registers
          (writeEntries platform entries world).2.context other =
            model.registers world.context other
  | [], _, _, _, _ => ⟨nofun, fun _ _ ↦ rfl⟩
  | (writeOpcode, value) :: rest, world, configuration, distinct, succeeded => by
      have write : isConfigurationWrite writeOpcode = true :=
        configuration _ List.mem_cons_self
      obtain ⟨fresh, distinct⟩ := List.nodup_cons.mp distinct
      have addressed : ∀ other, other ≠ writeOpcode → model.registers
          (spiWriteReg platform writeOpcode value world).2.context other =
            model.registers world.context other := fun _ different ↦
        model.spiWriteReg_register value write different
      unfold writeEntries at succeeded ⊢
      dsimp only at succeeded ⊢
      generalize spiWriteReg platform writeOpcode value world = writing
        at succeeded addressed ⊢
      split at succeeded
      · simp at succeeded
      · rename_i written
        rw [if_neg written]
        have kept : model.registers (spiReadReg platform
            (readbackOpcode writeOpcode) writing.2).2.context =
              model.registers writing.2.context :=
          model.readback_registers (isWriteOpcode_of_configuration write)
        have returned : ∀ word, (spiReadReg platform
            (readbackOpcode writeOpcode) writing.2).1 = some word →
              model.registers (spiReadReg platform (readbackOpcode writeOpcode)
                writing.2).2.context writeOpcode = word :=
          fun _ read ↦ model.readback_returns write read
        generalize spiReadReg platform (readbackOpcode writeOpcode) writing.2 =
          reading at succeeded kept returned ⊢
        split at succeeded
        · simp at succeeded
        · rename_i readback read
          split at succeeded
          · simp at succeeded
          · rename_i same
            rw [not_not] at same
            obtain ⟨restHolds, restKeeps⟩ := writeEntries_holds rest
              (fun entry member ↦
                configuration entry (List.mem_cons_of_mem _ member))
              distinct succeeded
            simp only [same, ne_eq, not_true_eq_false, if_false]
            refine ⟨?_, fun other absent ↦ ?_⟩
            · simp only [List.forall_mem_cons]
              refine ⟨?_, restHolds⟩
              rw [restKeeps writeOpcode fresh, returned readback read, same]
            · simp only [List.map_cons, List.mem_cons, not_or] at absent
              rw [restKeeps other absent.2, congrFun kept other,
                addressed other absent.1]

theorem configEntries_nodup (profile : Max35103Profile) :
    ((configEntries profile).map Prod.fst).Nodup := by
  simp only [configEntries, List.map_cons, List.map_nil]
  decide

theorem writeEntries_shadow :
    ∀ (entries : List (UInt8 × UInt16)) {world : World κ},
      (writeEntries platform entries world).2.driver.shadow =
        world.driver.shadow
  | [], _ => rfl
  | (writeOpcode, value) :: rest, world => by
      have failed : ∀ {world : World κ},
          (enterError platform world).driver.shadow = world.driver.shadow := by
        intro world
        obtain ⟨cancels, errors, driver⟩ := enterError_driver platform world
        rw [driver]
        rfl
      unfold writeEntries
      have wrote := (spiWriteReg_calm platform world writeOpcode value).shadow
      dsimp only
      generalize spiWriteReg platform writeOpcode value world = writing at wrote ⊢
      split
      · exact failed.trans wrote
      · have read :=
          (spiReadReg_calm platform writing.2 (readbackOpcode writeOpcode)).shadow
        generalize spiReadReg platform (readbackOpcode writeOpcode) writing.2 =
          reading at read ⊢
        split
        · exact failed.trans (read.trans wrote)
        · split
          · exact failed.trans (read.trans wrote)
          · exact (writeEntries_shadow rest).trans (read.trans wrote)

/-! ## Operations that write -/

variable {model}

theorem Sound.configure (sound : model.Sound world) (profile : Max35103Profile) :
    model.Sound (configure platform profile world).2 := by
  unfold Max35103.configure
  split_ifs with invalid
  · exact sound
  · exact sound
  · exact sound
  · have shadow : (writeEntries platform (configEntries profile)
        (world.set world.driver.invalidateProfile)).2.driver.shadow =
          world.driver.invalidateProfile.shadow := writeEntries_shadow _
    have holds : (writeEntries platform (configEntries profile)
        (world.set world.driver.invalidateProfile)).1 = .ok →
          model.Holds (writeEntries platform (configEntries profile)
            (world.set world.driver.invalidateProfile)).2.context profile :=
      fun succeeded ↦ (model.writeEntries_holds _
        (configEntries_configuration profile) (configEntries_nodup profile)
        succeeded).1
    dsimp only
    generalize writeEntries platform (configEntries profile)
      (world.set world.driver.invalidateProfile) = writing at shadow holds ⊢
    split <;> rename_i status
    · refine .of_invalid ?_
      exact congrArg (fun s : Shadow ↦ s.configured && s.synchronized) shadow
    · exact fun _ ↦ ⟨holds (not_not.mp status), not_not.mp invalid⟩

theorem Sound.afterWrite {writeOpcode : UInt8} (sound : model.Sound world)
    (shadow : next.driver.shadow = world.driver.shadow)
    (registers : isConfigurationWrite writeOpcode = false →
      model.registers next.context = model.registers world.context) :
    model.Sound (next.set (next.driver.afterWrite writeOpcode)) := by
  unfold Driver.afterWrite
  split <;> rename_i write
  · exact .of_invalid rfl
  · exact (sound.keep (registers (by simpa using write)) shadow)

theorem Sound.writeReg (sound : model.Sound world) (writeOpcode : UInt8)
    (value : UInt16) :
    model.Sound (writeReg platform writeOpcode value world).2 := by
  unfold Max35103.writeReg
  dsimp only
  split
  · exact sound
  · exact sound.afterWrite
      (spiWriteReg_calm platform world writeOpcode value).shadow
      fun other ↦ model.spiXfer_registers none other

/-- The entries of a profile with one register changed. -/
theorem configEntries_update {profile candidate : Max35103Profile}
    {writeOpcode : UInt8} {value : UInt16}
    (updated : updateProfileRegister profile writeOpcode value = some candidate) :
    configEntries candidate = (configEntries profile).map fun entry ↦
      if entry.1 = writeOpcode then (entry.1, value) else entry := by
  unfold updateProfileRegister at updated
  -- one case for each register of a profile, in the order of the source
  iterate 11
    obtain ⟨rfl, same⟩ | ⟨-, updated⟩ := ite_eq_iff.mp updated
    · rw [← Option.some.inj same]
      rfl
  cases updated

/-- After a write of one register and a readback that found its value. -/
theorem Holds.update {profile candidate : Max35103Profile}
    {writeOpcode : UInt8} {value : UInt16} {before after : κ}
    (holds : model.Holds before profile)
    (updated : updateProfileRegister profile writeOpcode value = some candidate)
    (written : model.registers after writeOpcode = value)
    (others : ∀ other, other ≠ writeOpcode →
      model.registers after other = model.registers before other) :
    model.Holds after candidate := by
  intro entry member
  rw [configEntries_update updated] at member
  obtain ⟨old, oldMember, rfl⟩ := List.mem_map.mp member
  split
  · rename_i same
    rw [same, written]
  · rename_i different
    rw [others old.1 different, holds old oldMember]

/-- A verified write either keeps its claim for a register of the profile, or
gives the claim up. -/
theorem Sound.writeVerifyReg (sound : model.Sound world) (writeOpcode : UInt8)
    (value : UInt16) :
    model.Sound (writeVerifyReg platform writeOpcode value world).2 := by
  unfold Max35103.writeVerifyReg
  dsimp only
  split <;> rename_i passed
  · exact sound
  · obtain ⟨opcode, -, -, accepted⟩ := Driver.writeGuard_ok (not_not.mp passed)
    have wrote := (spiWriteReg_calm platform world writeOpcode value).shadow
    have spared : isConfigurationWrite writeOpcode = false →
        model.registers (spiWriteReg platform writeOpcode value world).2.context =
          model.registers world.context :=
      fun other ↦ model.spiXfer_registers none other
    have addressed : isConfigurationWrite writeOpcode = true →
        ∀ other, other ≠ writeOpcode → model.registers
          (spiWriteReg platform writeOpcode value world).2.context other =
            model.registers world.context other :=
      fun write _ different ↦ model.spiWriteReg_register value write different
    generalize spiWriteReg platform writeOpcode value world = writing
      at wrote spared addressed ⊢
    split
    · exact sound.afterWrite wrote spared
    · have read :=
        (spiReadReg_calm platform writing.2 (readbackOpcode writeOpcode)).shadow
      have kept : model.registers (spiReadReg platform
          (readbackOpcode writeOpcode) writing.2).2.context =
            model.registers writing.2.context := model.readback_registers opcode
      have returned : isConfigurationWrite writeOpcode = true →
          (spiReadReg platform (readbackOpcode writeOpcode) writing.2).1 =
            some value →
          model.registers (spiReadReg platform (readbackOpcode writeOpcode)
            writing.2).2.context writeOpcode = value :=
        fun write read ↦ model.readback_returns write read
      generalize spiReadReg platform (readbackOpcode writeOpcode) writing.2 =
        reading at read kept returned ⊢
      split <;> rename_i readback
      · unfold Driver.afterReadback
        split <;> rename_i write
        · split
          · rename_i candidate updated
            obtain ⟨profile, synchronized, update⟩ :=
              Option.bind_eq_some_iff.mp updated
            unfold Driver.synchronizedProfile at synchronized
            split at synchronized <;> rename_i claimed
            · obtain rfl := Option.some.inj synchronized
              obtain ⟨holds, -⟩ := sound claimed
              refine fun _ ↦ ⟨holds.update update (returned write readback)
                fun other different ↦ ?_, ?_⟩
              · exact (congrFun kept other).trans (addressed write other different)
              · rw [Driver.refusesWrite, claimed, Bool.true_and, update] at accepted
                simpa using accepted
            · cases synchronized
          · exact .of_invalid rfl
        · exact sound.keep (kept.trans (spared (by simpa using write)))
            (read.trans wrote)
      · exact sound.afterWrite (read.trans wrote)
          fun other ↦ kept.trans (spared other)

end RegisterModel

/-- A claim of the driver to be synchronized is true between the calls of every
run: the device holds the profile, and the profile passes its check. -/
theorem profile_shadow_sound (model : RegisterModel platform)
    (reached : Reachable platform world)
    (synchronized : world.driver.isProfileSynchronized = true) :
    (∀ entry ∈ configEntries world.driver.activeProfile,
      model.registers world.context entry.1 = entry.2) ∧
      validateProfile world.driver.activeProfile = .ok := by
  suffices sound : model.Sound world from sound synchronized
  clear synchronized
  induction reached with
  | init context => exact .of_invalid rfl
  | @step world next op reached stepped ih =>
      by_cases allowed : Policy.Allows { writes := false, halting := true } op
      · exact RegisterModel.of_moves (reached.moves allowed stepped) rfl ih
      · -- only the three operations that write are not allowed
        cases op with
        | configure profile => exact Option.some.inj stepped ▸ ih.configure profile
        | writeReg opcode value =>
            exact Option.some.inj stepped ▸ ih.writeReg opcode value
        | writeVerifyReg opcode value =>
            exact Option.some.inj stepped ▸ ih.writeVerifyReg opcode value
        | halt fuel => exact absurd rfl allowed
        | _ => exact absurd trivial allowed

/-- The bench after a verified write of one register. -/
theorem profile_shadow_sound_bench :
    ∃ world : World Bench,
      runOps benchPlatform (benchStart [0x0004, 0x0008])
        [.resetDevice 3, .configure benchProfile,
          .writeVerifyReg regTofMeasDelay 0x0020] = some world ∧
      world.driver.activeProfile.tofMeasurementDelay = 0x0020 ∧
      world.context.registers regTofMeasDelay = 0x0020 := by
  obtain ⟨world, reached, held, run⟩ := benchRun [0x0004, 0x0008]
    [.resetDevice 3, .configure benchProfile,
      .writeVerifyReg regTofMeasDelay 0x0020]
    (fun world ↦ world.driver.isProfileSynchronized &&
      world.driver.activeProfile.tofMeasurementDelay == 0x0020)
    (by decide +kernel)
  simp only [Bool.and_eq_true, beq_iff_eq] at held
  obtain ⟨holds, -⟩ := profile_shadow_sound benchModel reached held.1
  refine ⟨world, run, held.2, ?_⟩
  rw [← held.2]
  exact holds (regTofMeasDelay, world.driver.activeProfile.tofMeasurementDelay)
    (by simp [configEntries])

end Swfpm.Max35103
