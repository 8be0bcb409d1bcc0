import Swfpm.Zssc3241.NvmGuard

/-!
# The words that a block write leaves

`NvmPlatform` is what the driver relies on of the device: its memory changes by
write commands only, each in its own word, and a word that it was asked for is
the one that its answer shows.  On such a device a verified block write that
returns `ok` has left every word of the block as requested.
-/

namespace Swfpm.Zssc3241

open Program

variable {κ : Type*}

/-- The memory behind a transport, and the word that was last asked for. -/
structure NvmPlatform (transport : Transport κ) where
  nvm : κ → UInt8 → UInt16
  selected : κ → Option UInt8
  tick : ∀ context,
    nvm (transport.getTickMs context).context = nvm context ∧
      selected (transport.getTickMs context).context = selected context
  wait : ∀ context delayMs,
    nvm (transport.delayMs context delayMs).context = nvm context ∧
      selected (transport.delayMs context delayMs).context = selected context
  answer : ∀ context address length timeoutMs,
    nvm (transport.read context address length timeoutMs).context = nvm context ∧
      selected (transport.read context address length timeoutMs).context =
        selected context
  /-- The answer to a read command shows the stored word. -/
  word : ∀ context address timeoutMs asked,
    selected context = some asked →
    (transport.read context address wordFrameBytes timeoutMs).value.1 = .ok →
    word16 (transport.read context address wordFrameBytes timeoutMs).value.2 =
      nvm context asked
  /-- A read command that the bus accepts selects its word. -/
  select : ∀ context address timeoutMs asked, asked ≤ nvmReadMax →
    (transport.write context address (frameBytes asked none)
      timeoutMs).value = .ok →
    selected (transport.write context address (frameBytes asked none)
      timeoutMs).context = some asked
  /-- A frame without data leaves the customer words. -/
  plain : ∀ context address timeoutMs command word, word ≤ nvmCustomWriteMax →
    nvm (transport.write context address (frameBytes command none)
      timeoutMs).context word = nvm context word
  /-- A write command changes at most the word that it addresses. -/
  store : ∀ context address timeoutMs written value word,
    written ≤ nvmCustomWriteMax → word ≠ written →
    nvm (transport.write context address
      (frameBytes (cmdNvmWriteBase + written) (some value)) timeoutMs).context
        word = nvm context word

variable {transport : Transport κ} (platform : NvmPlatform transport)

/-- What the platform and the configuration show; no frame is sent. -/
theorem view_steady
    (view : (UInt8 → UInt16) → Option UInt8 → Config → Prop) :
    Steady transport (fun _ => False) (fun _ => True) fun world =>
      view (platform.nvm world.context) (platform.selected world.context)
        world.device.config := by
  refine ⟨?_, ?_, ?_, ?_, ?_, ?_, ?_⟩
  · intro world hworld
    obtain ⟨hnvm, hselected⟩ := platform.tick world.context
    simpa only [hnvm, hselected] using hworld
  · intro world delayMs hworld
    obtain ⟨hnvm, hselected⟩ := platform.wait world.context delayMs
    simpa only [hnvm, hselected] using hworld
  · intro world address length timeoutMs hworld
    obtain ⟨hnvm, hselected⟩ :=
      platform.answer world.context address length timeoutMs
    simpa only [hnvm, hselected] using hworld
  · intro world address data timeoutMs hfalse
    exact absurd hfalse id
  · intro world device hbook hworld
    simpa only [World.set_device, World.set_context, hbook.config] using hworld
  · intro world mode hworld
    exact hworld
  · intro world event _ hworld
    exact hworld

/-- Writes are verified, and the customer words outside `free` hold what `words`
says. -/
def Stored (words : UInt8 → UInt16) (free : UInt8 → Prop) (world : World κ) :
    Prop :=
  world.device.config.verifyNvmAfterWrite = true ∧
    ∀ word, word ≤ nvmCustomWriteMax → ¬free word →
      platform.nvm world.context word = words word

/-- Frames that leave the customer words outside `free`. -/
def Harmless (free : UInt8 → Prop) (data : List UInt8) : Prop :=
  (∃ command, data = frameBytes command none) ∨
    ∃ written value, written ≤ nvmCustomWriteMax ∧ free written ∧
      data = frameBytes (cmdNvmWriteBase + written) (some value)

theorem stored_steady (words : UInt8 → UInt16) (free : UInt8 → Prop) :
    Steady transport (Harmless free) (fun _ => True)
      (Stored platform words free) := by
  obtain ⟨htick, hwait, hanswer, -, hbook, hobserve, hevent⟩ :=
    view_steady platform fun nvm _ config =>
      config.verifyNvmAfterWrite = true ∧
        ∀ word, word ≤ nvmCustomWriteMax → ¬free word → nvm word = words word
  refine ⟨htick, hwait, hanswer, ?_, hbook, hobserve, hevent⟩
  intro world address data timeoutMs hdata hworld
  refine ⟨hworld.1, fun word hword hfree => ?_⟩
  rcases hdata with ⟨command, rfl⟩ | ⟨written, value, hwritten, hopen, rfl⟩
  · exact (platform.plain world.context address timeoutMs command word
      hword).trans (hworld.2 word hword hfree)
  · have hne : word ≠ written := fun heq => hfree (heq ▸ hopen)
    exact (platform.store world.context address timeoutMs written value word
      hwritten hne).trans (hworld.2 word hword hfree)

theorem allows_plain (free : UInt8 → Prop) (command : UInt8) :
    Allows (Harmless free) (fun _ => True) command none :=
  ⟨Or.inl ⟨command, rfl⟩, fun _ _ => trivial, trivial⟩

/-! ## Reading a word -/

section Read

variable (words : UInt8 → UInt16) (free : UInt8 → Prop) (asked : UInt8)

/-- The stored words, with a word asked for. -/
def Asked (world : World κ) : Prop :=
  Stored platform words free world ∧ platform.selected world.context = some asked

theorem asked_steady :
    Steady transport (fun _ => False) (fun _ => True)
      (Asked platform words free asked) :=
  view_steady platform fun nvm selected config =>
    (config.verifyNvmAfterWrite = true ∧
      ∀ word, word ≤ nvmCustomWriteMax → ¬free word → nvm word = words word) ∧
    selected = some asked

/-- The answer is a failure, or shows what is stored. -/
def Shows (answer : Status × List UInt8) (world : World κ) : Prop :=
  Asked platform words free asked world ∧
    (answer.1 = .ok → word16 answer.2 = platform.nvm world.context asked)

theorem shows_steady (answer : Status × List UInt8) :
    Steady transport (fun _ => False) (fun _ => True)
      (Shows platform words free asked answer) :=
  view_steady platform fun nvm selected config =>
    ((config.verifyNvmAfterWrite = true ∧
      ∀ word, word ≤ nvmCustomWriteMax → ¬free word → nvm word = words word) ∧
    selected = some asked) ∧ (answer.1 = .ok → word16 answer.2 = nvm asked)

variable {words free asked}

theorem fail_shows {status : Status} (hstatus : status ≠ .ok) :
    Ensures (Asked platform words free asked) (fail status)
      (Shows platform words free asked) (Asked platform words free asked) := by
  refine Ensures.bind ((asked_steady platform words free asked).keepsDevice
    fun _ => ⟨rfl, rfl, rfl, rfl, rfl, rfl, rfl⟩) fun _ => ?_
  exact Ensures.pure fun world hworld =>
    ⟨hworld, fun hok => absurd hok hstatus⟩

theorem finishCommand_shows (command : UInt8) (decoded : DeviceStatus)
    (response : List UInt8) (evaluateFaults : Bool) :
    Ensures (Shows platform words free asked (.ok, response))
      (finishCommand command decoded response evaluateFaults)
      (Shows platform words free asked) (Asked platform words free asked) := by
  have hshows := shows_steady platform words free asked (.ok, response)
  have hstop : ∀ world, Shows platform words free asked (.ok, response) world →
      Asked platform words free asked world := fun _ hworld => hworld.1
  refine Ensures.bind ((hshows.keepsObserve _).ensures hstop) fun _ => ?_
  refine Ensures.bind ((hshows.keepsNote trivial).ensures hstop) fun _ => ?_
  refine Ensures.bind (Keeps.ensures (Keeps.when fun _ =>
    hshows.keepsDevice fun _ => ⟨rfl, rfl, rfl, rfl, rfl, rfl, rfl⟩) hstop) fun _ => ?_
  refine Ensures.bind (Keeps.ensures (hshows.keepsDevice fun _ =>
    ⟨rfl, rfl, rfl, rfl, rfl, rfl, rfl⟩) hstop) fun _ => ?_
  exact Ensures.pure fun world hworld => ⟨hworld.1, fun _ => hworld.2 rfl⟩

/-- The bytes of an answer to a word that was asked for. -/
theorem read_shows :
    Ensures (Asked platform words free asked) (read transport wordFrameBytes)
      (Shows platform words free asked) (Asked platform words free asked) := by
  refine Ensures.seq (fun answered world =>
    Asked platform words free asked world ∧ (answered.1 = .ok →
      word16 answered.2 = platform.nvm world.context asked)) ?_ fun answered => ?_
  · intro world hworld
    have hafter := (asked_steady platform words free asked).answer world
      world.device.address7bit wordFrameBytes world.device.config.busTimeoutMs
      hworld
    refine ⟨(asked_steady platform words free asked).book _ _ (edge_book _ _)
      hafter, fun hok => ?_⟩
    have hword := platform.word world.context _ _ asked hworld.2 hok
    rw [hword]
    exact (congrFun (platform.answer world.context world.device.address7bit
      wordFrameBytes world.device.config.busTimeoutMs).1 asked).symm
  · refine Ensures.seq (fun status world =>
      Shows platform words free asked (status, answered.2) world) ?_ fun status =>
        Ensures.pure fun _ hworld => hworld
    have hview := view_steady platform fun nvm selected config =>
      ((config.verifyNvmAfterWrite = true ∧
        ∀ word, word ≤ nvmCustomWriteMax → ¬free word → nvm word = words word) ∧
      selected = some asked) ∧ (answered.1 = .ok → word16 answered.2 = nvm asked)
    refine Ensures.bind (Keeps.ensures (hview.keepsDevice fun device =>
      countTransport_book device answered.1) fun _ hworld => hworld.1) fun _ => ?_
    exact Ensures.pure fun world hworld =>
      ⟨hworld.1, fun hok => hworld.2 (status_eq_ok.mp hok)⟩

theorem shows_of_failure {status : Status} (hstatus : status ≠ .ok)
    {response : List UInt8} {world : World κ}
    (hworld : Asked platform words free asked world) :
    Shows platform words free asked (status, response) world :=
  ⟨hworld, fun hok => absurd hok hstatus⟩

theorem readResponse_shows (command : UInt8) (decoded : DeviceStatus)
    (evaluateFaults : Bool) :
    Ensures (Asked platform words free asked)
      (readResponse transport command decoded wordFrameBytes evaluateFaults)
      (Shows platform words free asked) (Asked platform words free asked) := by
  have hasked := asked_steady platform words free asked
  apply Ensures.ite
  · intro hlength
    exact absurd hlength (by decide)
  intro _
  refine Ensures.bind (read_shows platform) fun answer => ?_
  have hforget : ∀ world, Shows platform words free asked answer world →
      Asked platform words free asked world := fun _ hworld => hworld.1
  apply Ensures.ite
  · intro hfailed
    exact (fail_shows platform hfailed).weaken hforget (fun _ _ h => h)
      fun _ h => h
  intro hread
  apply Ensures.ite
  · intro hinvalid
    refine Ensures.bind ((hasked.keepsCountInvalid).weaken hforget
      (fun _ _ h => h) fun _ h => h) fun _ => fail_shows platform ?_
    split_ifs with hok
    · decide
    · exact hok
  · intro _
    refine (finishCommand_shows platform command _ answer.2 evaluateFaults).weaken
      ?_ (fun _ _ h => h) fun _ h => h
    intro world hworld
    exact ⟨hworld.1, fun _ => hworld.2 (not_not.mp hread)⟩

theorem awaitResponse_shows (command : UInt8) (start timeoutMs : UInt32)
    (evaluateFaults : Bool) (polls : ℕ) :
    Ensures (Asked platform words free asked)
      (awaitResponse transport command wordFrameBytes start timeoutMs
        evaluateFaults polls)
      (Shows platform words free asked) (Asked platform words free asked) := by
  have hasked := asked_steady platform words free asked
  induction polls with
  | zero => exact Ensures.stop fun _ hworld => hworld
  | succ polls ih =>
      refine Ensures.bind hasked.keepsNow fun current => ?_
      apply Ensures.ite
      · intro _
        exact Ensures.bind (hasked.keepsDevice fun _ =>
          ⟨rfl, rfl, rfl, rfl, rfl, rfl, rfl⟩) fun _ => fail_shows platform (by decide)
      intro _
      refine Ensures.bind hasked.keepsReadStatus fun answer => ?_
      apply Ensures.ite
      · intro hfailed
        exact fail_shows platform hfailed
      intro _
      apply Ensures.ite
      · intro _
        refine Ensures.bind Keeps.get fun pollIntervalMs => ?_
        exact Ensures.bind (hasked.keepsDelay _) fun _ => ih
      · intro _
        exact readResponse_shows platform command _ evaluateFaults

/-- The read command of a word, which the device takes as asked for. -/
theorem sendRead_asks {address : UInt8} (haddress : address ≤ nvmReadMax) :
    Ensures (Stored platform words free) (sendCommand transport address none)
      (fun status world => Stored platform words free world ∧
        (status = .ok → platform.selected world.context = some address))
      (Stored platform words free) := by
  have hstored := stored_steady platform words free
  have hasks : ∀ status : Status, Steady transport (fun _ => False) (fun _ => True)
      (fun world => Stored platform words free world ∧
        (status = .ok → platform.selected world.context = some address)) :=
    fun status => view_steady platform fun nvm selected config =>
      (config.verifyNvmAfterWrite = true ∧
        ∀ word, word ≤ nvmCustomWriteMax → ¬free word → nvm word = words word) ∧
      (status = .ok → selected = some address)
  refine Ensures.seq (fun status world =>
    Stored platform words free world ∧
      (status = .ok → platform.selected world.context = some address)) ?_
    fun status => ?_
  · refine Ensures.seq (fun answered world =>
      Stored platform words free world ∧ (answered.status = .ok →
        platform.selected world.context = some address)) ?_ fun answered => ?_
    · intro world hworld
      have hafter := hstored.send world world.device.address7bit
        (frameBytes address none) world.device.config.busTimeoutMs
        (Or.inl ⟨address, rfl⟩) hworld
      refine ⟨hstored.book _ _ (edge_book _ _) hafter, fun hok => ?_⟩
      exact platform.select world.context _ _ address haddress
        (status_eq_ok.mp hok)
    · refine Ensures.bind (Keeps.ensures ((hasks answered.status).keepsDevice
        fun device => countTransport_book device answered) fun _ hworld =>
          hworld.1) fun _ => ?_
      exact Ensures.pure fun _ hworld => hworld
  · have hkeep := hasks status
    have hstop : ∀ world : World κ, Stored platform words free world ∧
        (status = .ok → platform.selected world.context = some address) →
        Stored platform words free world := fun _ hworld => hworld.1
    refine Ensures.bind (Keeps.ensures Keeps.get hstop) fun allowed => ?_
    refine Ensures.bind ((hkeep.keepsNote trivial).ensures hstop) fun _ => ?_
    refine Ensures.bind (Keeps.ensures (Keeps.when fun _ => hkeep.keepsDevice
      fun _ => ⟨rfl, rfl, rfl, rfl, rfl, rfl, rfl⟩) hstop) fun _ => ?_
    exact Ensures.pure fun _ hworld => hworld

/-- A word that is read is the stored one. -/
theorem readNvm_stored (polls : ℕ) (address : UInt8) :
    Ensures (Stored platform words free) (readNvm transport polls address)
      (fun answer world => Stored platform words free world ∧
        (answer.1 = .ok → answer.2 = platform.nvm world.context address))
      (Stored platform words free) := by
  have hstored := stored_steady platform words free
  have hfailure : ∀ {status : Status}, status ≠ .ok →
      Ensures (Stored platform words free)
        (pure (status, 0) : Operation κ (Status × UInt16))
        (fun answer world => Stored platform words free world ∧
          (answer.1 = .ok → answer.2 = platform.nvm world.context address))
        (Stored platform words free) :=
    fun hstatus => Ensures.pure fun _ hworld =>
      ⟨hworld, fun hok => absurd hok hstatus⟩
  refine Ensures.ite (fun _ => hfailure (by decide)) fun haddress => ?_
  refine Ensures.bind hstored.keepsRequireNonCyclic fun status => ?_
  refine Ensures.ite (fun hstatus => hfailure hstatus) fun _ => ?_
  refine Ensures.bind Keeps.get fun timeoutMs => ?_
  refine Ensures.seq (fun answer world =>
    Stored platform words free world ∧ (answer.1 = .ok →
      word16 answer.2 = platform.nvm world.context address)) ?_ fun answer => ?_
  · have hfail : ∀ {status : Status}, status ≠ .ok →
        Ensures (Stored platform words free) (fail status)
          (fun answer world => Stored platform words free world ∧
            (answer.1 = .ok → word16 answer.2 = platform.nvm world.context address))
          (Stored platform words free) := by
      intro status hstatus
      refine Ensures.bind (hstored.keepsDevice fun _ =>
        ⟨rfl, rfl, rfl, rfl, rfl, rfl, rfl⟩) fun _ => ?_
      exact Ensures.pure fun _ hworld => ⟨hworld, fun hok => absurd hok hstatus⟩
    refine Ensures.bind Keeps.get fun state => ?_
    apply Ensures.ite
    · intro _
      exact Ensures.pure fun _ hworld => ⟨hworld, by simp⟩
    intro _
    refine Ensures.bind (sendRead_asks platform (UInt8.not_lt.mp haddress))
      fun status => ?_
    apply Ensures.ite
    · intro hstatus
      exact (hfail hstatus).weaken (fun _ h => h.1) (fun _ _ h => h) fun _ h => h
    intro hsent
    have hasked : ∀ world : World κ, (Stored platform words free world ∧
        (status = .ok → platform.selected world.context = some address)) →
        Asked platform words free address world :=
      fun world hworld => ⟨hworld.1, hworld.2 (not_not.mp hsent)⟩
    have hforget : ∀ world, Asked platform words free address world →
        Stored platform words free world := fun _ hworld => hworld.1
    refine Ensures.bind (((asked_steady platform words free address).keepsNow).weaken
      hasked (fun _ _ h => h) hforget) fun start => ?_
    exact (awaitResponse_shows platform address _ _ _ _).weaken (fun _ h => h)
      (fun _ _ h => ⟨h.1.1, h.2⟩) hforget
  · apply Ensures.ite
    · intro hstatus
      exact Ensures.pure fun _ hworld => ⟨hworld.1, fun hok => absurd hok hstatus⟩
    intro hread
    have hkeep : Steady transport (fun _ => False) (fun _ => True)
        (fun world => Stored platform words free world ∧ (answer.1 = .ok →
          word16 answer.2 = platform.nvm world.context address)) :=
      view_steady platform fun nvm selected config =>
        (config.verifyNvmAfterWrite = true ∧
          ∀ word, word ≤ nvmCustomWriteMax → ¬free word → nvm word = words word) ∧
        (answer.1 = .ok → word16 answer.2 = nvm address)
    refine Ensures.bind ((hkeep.keepsNote trivial).ensures fun _ h => h.1) fun _ => ?_
    exact Ensures.pure fun _ hworld =>
      ⟨hworld.1, fun _ => hworld.2 (not_not.mp hread)⟩

end Read

/-! ## Writing a word -/

/-- No word is free. -/
abbrev NoWord (_ : UInt8) : Prop := False

theorem Stored.mono {words : UInt8 → UInt16} {free wider : UInt8 → Prop}
    {world : World κ} (hworld : Stored platform words free world)
    (hwider : ∀ word, free word → wider word) :
    Stored platform words wider world :=
  ⟨hworld.1, fun word hword hfree =>
    hworld.2 word hword fun hin => hfree (hwider word hin)⟩

section Write

variable (words : UInt8 → UInt16) (address : UInt8) (value : UInt16)

/-- The other words stay, and success shows in the word itself. -/
def Written (status : Status) (world : World κ) : Prop :=
  Stored platform words (· = address) world ∧
    (status = .ok → platform.nvm world.context address = value)

variable {words address value}

theorem pure_written {pre : World κ → Prop} {status : Status}
    (hstatus : status ≠ .ok)
    (hpre : ∀ world, pre world → Stored platform words (· = address) world) :
    Ensures pre (pure status : Operation κ Status)
      (Written platform words address value)
      (Stored platform words (· = address)) :=
  Ensures.pure fun world hworld =>
    ⟨hpre world hworld, fun hok => absurd hok hstatus⟩

/-- A verified write shows the value that it was given. -/
theorem verifyWord_written (polls : ℕ) :
    Ensures (Stored platform words (· = address))
      (verifyWord transport polls address value)
      (Written platform words address value)
      (Stored platform words (· = address)) := by
  refine Ensures.seq (fun verify world =>
    Stored platform words (· = address) world ∧ verify = true)
    (Ensures.get fun _ hworld => ⟨hworld, hworld.1⟩) fun verify => ?_
  apply Ensures.ite
  · intro hskip world hworld
    rw [hworld.2] at hskip
    exact absurd hskip (by decide)
  intro _
  refine Ensures.bind ((readNvm_stored platform polls address).weaken
    (fun _ h => h.1) (fun _ _ h => h) fun _ h => h) fun answer => ?_
  apply Ensures.ite
  · intro hfailed
    exact pure_written platform hfailed fun _ h => h.1
  intro hread
  apply Ensures.ite
  · intro _
    have hcount : ∀ change : Device → Device,
        (∀ device, Book device (change device)) →
        Keeps (Stored platform words (· = address))
          (setDevice change : Operation κ PUnit) :=
      fun change => (stored_steady platform words (· = address)).keepsDevice
    refine Ensures.seq (fun _ => Stored platform words (· = address))
      (Ensures.weaken (hcount _ fun _ => ⟨rfl, rfl, rfl, rfl, rfl, rfl, rfl⟩)
        (fun world h => h.1) (fun _ _ h => h) fun _ h => h)
      fun _ => ?_
    exact pure_written platform (by decide) fun _ h => h
  · intro hsame
    refine Ensures.pure fun world hworld => ⟨hworld.1, fun _ => ?_⟩
    rw [← hworld.2 (not_not.mp hread)]
    exact not_not.mp hsame

theorem writeWord_written (polls : ℕ) (haddress : address ≤ nvmCustomWriteMax) :
    Ensures (Stored platform words (· = address))
      (writeWord transport polls address value)
      (Written platform words address value)
      (Stored platform words (· = address)) := by
  have hstored := stored_steady platform words (· = address)
  refine Ensures.bind Keeps.get fun timeoutMs => ?_
  refine Ensures.bind (hstored.keepsExecute ⟨Or.inr ⟨address, value, haddress, rfl,
    rfl⟩, fun _ _ => trivial, trivial⟩ _ _ _ _) fun answer => ?_
  apply Ensures.ite
  · intro hfailed
    exact pure_written platform hfailed fun _ h => h
  intro _
  exact Ensures.bind (hstored.keepsDevice fun _ => ⟨rfl, rfl, rfl, rfl, rfl, rfl, rfl⟩)
    fun _ => verifyWord_written platform polls

/-- A write of a word leaves the others, and `ok` means that the word holds the
value. -/
theorem writeNvm_written (polls : ℕ) :
    Ensures (Stored platform words NoWord) (writeNvm transport polls address value)
      (fun status world => Written platform words address value status world)
      (Stored platform words (· = address)) := by
  have hfree : ∀ world, Stored platform words NoWord world →
      Stored platform words (· = address) world :=
    fun world hworld => hworld.mono platform fun word hword => absurd hword id
  refine Ensures.seq (fun _ => Stored platform words NoWord)
    (Ensures.get fun _ hworld => hworld) fun disabled => ?_
  apply Ensures.ite
  · intro _
    exact pure_written platform (by decide) hfree
  intro _
  apply Ensures.ite
  · intro _
    exact pure_written platform (by decide) hfree
  intro haddress
  refine Ensures.bind ((readNvm_stored platform polls address).weaken
    (fun _ h => h) (fun _ _ h => h) hfree) fun answer => ?_
  apply Ensures.ite
  · intro hfailed
    exact pure_written platform hfailed fun world h => hfree world h.1
  intro hread
  apply Ensures.ite
  · intro hlocked
    exact pure_written platform hlocked fun world h => hfree world h.1
  intro _
  apply Ensures.ite
  · intro hsame
    refine Ensures.pure fun world hworld => ⟨hfree world hworld.1, fun _ => ?_⟩
    rw [← hworld.2 (not_not.mp hread)]
    exact hsame
  · intro _
    exact (writeWord_written platform polls (UInt8.not_lt.mp haddress)).weaken
      (fun world h => hfree world h.1) (fun _ _ h => h) fun _ h => h

end Write

/-! ## Writing a block -/

/-- The words from `start` on, `count` of them. -/
def InBlock (start : UInt8) (count : ℕ) (word : UInt8) : Prop :=
  start.toNat ≤ word.toNat ∧ word.toNat < start.toNat + count

/-- The words with those of a block replaced. -/
def blockWords (words : UInt8 → UInt16) : UInt8 → List UInt16 → UInt8 → UInt16
  | _, [] => words
  | address, value :: values =>
      blockWords (Function.update words address value) (address + 1) values

theorem toNat_next {address : UInt8} {count : ℕ}
    (hroom : address.toNat + (count + 1) ≤ 54) :
    (address + 1).toNat = address.toNat + 1 := by
  rw [UInt8.toNat_add]
  have hone : (1 : UInt8).toNat = 1 := rfl
  omega

theorem blockWords_of_notIn {words : UInt8 → UInt16} {address : UInt8}
    {values : List UInt16} (hroom : address.toNat + values.length ≤ 54)
    {word : UInt8} (hword : ¬InBlock address values.length word) :
    blockWords words address values word = words word := by
  induction values generalizing words address with
  | nil => rfl
  | cons value values ih =>
      have hnext := toNat_next hroom
      have hne : word ≠ address := by
        rintro rfl
        exact hword ⟨le_refl _, by simp⟩
      rw [blockWords, ih (by rw [hnext]; simpa [Nat.add_assoc, Nat.add_comm 1]
        using hroom), Function.update_of_ne hne]
      rintro ⟨hlow, hhigh⟩
      rw [hnext] at hlow hhigh
      exact hword ⟨by omega, by simp only [List.length_cons]; omega⟩

theorem blockWords_of_lt {words : UInt8 → UInt16} {address : UInt8}
    {values : List UInt16} (hroom : address.toNat + values.length ≤ 54)
    {place : ℕ} (hplace : place < values.length) {word : UInt8}
    (hword : word.toNat = address.toNat + place) :
    blockWords words address values word = values[place] := by
  induction values generalizing words address place with
  | nil => exact absurd hplace (Nat.not_lt_zero _)
  | cons value values ih =>
      have hnext := toNat_next hroom
      have hrest : (address + 1).toNat + values.length ≤ 54 := by
        rw [hnext]
        simp only [List.length_cons] at hroom
        omega
      cases place with
      | zero =>
          have hself : word = address := UInt8.toNat_inj.mp hword
          have hout : ¬InBlock (address + 1) values.length word := by
            rintro ⟨hlow, -⟩
            rw [hnext, hself] at hlow
            omega
          rw [blockWords, blockWords_of_notIn hrest hout, hself,
            Function.update_self]
          rfl
      | succ place =>
          rw [blockWords]
          exact ih hrest (by simpa using hplace) (by rw [hnext]; omega)

/-- The words of a block, up to the first that fails. -/
theorem writeWords_stored (polls : ℕ) (words : UInt8 → UInt16) (address : UInt8)
    (values : List UInt16) (hroom : address.toNat + values.length ≤ 54) :
    Ensures (Stored platform words NoWord)
      (writeWords transport polls address values)
      (fun status world =>
        Stored platform words (InBlock address values.length) world ∧
          (status = .ok →
            Stored platform (blockWords words address values) NoWord world))
      (Stored platform words (InBlock address values.length)) := by
  induction values generalizing words address with
  | nil =>
      refine Ensures.pure fun world hworld => ⟨?_, fun _ => hworld⟩
      exact hworld.mono platform fun word hword => absurd hword id
  | cons value values ih =>
      have hnext := toNat_next hroom
      have hrest : (address + 1).toNat + values.length ≤ 54 := by
        rw [hnext]
        simp only [List.length_cons] at hroom
        omega
      have hself : ∀ world, Stored platform words (· = address) world →
          Stored platform words (InBlock address (values.length + 1)) world := by
        intro world hworld
        refine hworld.mono platform ?_
        rintro word rfl
        exact ⟨le_refl _, by omega⟩
      refine Ensures.bind ((writeNvm_written platform polls).weaken (fun _ h => h)
        (fun _ _ h => h) hself) fun status => ?_
      apply Ensures.ite
      · intro hfailed
        exact Ensures.pure fun world hworld =>
          ⟨hself world hworld.1, fun hok => absurd hok hfailed⟩
      intro hwritten
      have hupdated : ∀ world : World κ,
          Written platform words address value status world →
          Stored platform (Function.update words address value) NoWord world := by
        intro world hworld
        refine ⟨hworld.1.1, fun word hword _ => ?_⟩
        by_cases hsame : word = address
        · rw [hsame, Function.update_self]
          exact hworld.2 (not_not.mp hwritten)
        · rw [Function.update_of_ne hsame]
          exact hworld.1.2 word hword hsame
      have hblock : ∀ world : World κ, Stored platform
          (Function.update words address value)
          (InBlock (address + 1) values.length) world →
          Stored platform words (InBlock address (values.length + 1)) world := by
        intro world hworld
        refine ⟨hworld.1, fun word hword hout => ?_⟩
        have hne : word ≠ address := by
          rintro rfl
          exact hout ⟨le_refl _, by omega⟩
        rw [← Function.update_of_ne hne value words]
        refine hworld.2 word hword fun hin => hout ?_
        obtain ⟨hlow, hhigh⟩ := hin
        rw [hnext] at hlow hhigh
        exact ⟨by omega, by omega⟩
      exact (ih (Function.update words address value) (address + 1) hrest).weaken
        hupdated (fun _ world h => ⟨hblock world h.1, h.2⟩) hblock

/-! ## The checksum after a block -/

/-- A checksum command was completed after the last write frame. -/
def checksumSince : List Event → Bool
  | [] => false
  | .completed command :: before =>
      command = cmdCalculateNvmChecksum || checksumSince before
  | .frame command _ _ _ :: before =>
      !isWriteCommand command && checksumSince before
  | _ :: before => checksumSince before

theorem checksum_steady (transport : Transport κ) :
    Steady transport (fun _ => True) Quiet
      (fun world => checksumSince world.trace = true) := by
  refine Steady.of_context (fun _ _ h => h) (fun _ _ _ h => h) (fun _ _ h => h) ?_
  intro world event hquiet hworld
  have hbefore : checksumSince world.trace = true := hworld
  cases event with
  | frame command data accepted allowed =>
      have hcommand : isWriteCommand command = false := hquiet
      simp [checksumSince, hcommand, hbefore]
  | completed command => simp [checksumSince, hbefore]
  | _ => simpa [checksumSince] using hbefore

/-- The last event of a successful command is its completion. -/
def Completes (command : UInt8) (answer : Status × List UInt8)
    (world : World κ) : Prop :=
  answer.1 = .ok → world.trace.head? = some (.completed command)

theorem fail_completes {pre : World κ → Prop} {command : UInt8} {status : Status}
    (hstatus : status ≠ .ok) :
    Ensures pre (fail status) (Completes command) (fun _ => True) :=
  Ensures.bind Ensures.trivial fun _ =>
    Ensures.pure fun _ _ hok => absurd hok hstatus

theorem finishCommand_completes {pre : World κ → Prop} (command : UInt8)
    (decoded : DeviceStatus) (response : List UInt8) (evaluateFaults : Bool) :
    Ensures pre (finishCommand command decoded response evaluateFaults)
      (Completes command) (fun _ => True) := by
  let last : World κ → Prop := fun world =>
    world.trace.head? = some (.completed command)
  have hkeep : ∀ change : Device → Device,
      Keeps last (setDevice change : Operation κ PUnit) :=
    fun change => Keeps.modify fun _ hworld => hworld
  have hstop : ∀ world, last world → True := fun _ _ => trivial
  refine Ensures.bind Ensures.trivial fun _ => ?_
  refine Ensures.seq (fun _ => last) (Ensures.modify fun _ _ => rfl)
    fun _ => ?_
  refine Ensures.bind (Keeps.ensures (Keeps.when fun _ => hkeep _) hstop)
    fun _ => ?_
  refine Ensures.bind (Keeps.ensures (hkeep _) hstop) fun _ => ?_
  exact Ensures.pure fun _ hworld _ => hworld

theorem readResponse_completes {pre : World κ → Prop} (command : UInt8)
    (decoded : DeviceStatus) (responseLength : ℕ) (evaluateFaults : Bool) :
    Ensures pre
      (readResponse transport command decoded responseLength evaluateFaults)
      (Completes command) (fun _ => True) := by
  refine Ensures.ite (fun _ => finishCommand_completes _ _ _ _) fun _ => ?_
  refine Ensures.bind Ensures.trivial fun answer => ?_
  refine Ensures.ite (fun hstatus => fail_completes hstatus) fun _ => ?_
  apply Ensures.ite
  · intro _
    refine Ensures.bind Ensures.trivial fun _ => fail_completes ?_
    split_ifs with hok
    · decide
    · exact hok
  · intro _
    exact finishCommand_completes _ _ _ _

theorem awaitResponse_completes {pre : World κ → Prop} (command : UInt8)
    (responseLength : ℕ) (start timeoutMs : UInt32) (evaluateFaults : Bool)
    (polls : ℕ) :
    Ensures pre
      (awaitResponse transport command responseLength start timeoutMs
        evaluateFaults polls)
      (Completes command) (fun _ => True) := by
  induction polls generalizing pre with
  | zero => exact Ensures.stop fun _ _ => trivial
  | succ polls ih =>
      refine Ensures.bind Ensures.trivial fun current => ?_
      apply Ensures.ite
      · intro _
        exact Ensures.bind Ensures.trivial fun _ => fail_completes (by decide)
      intro _
      refine Ensures.bind Ensures.trivial fun answer => ?_
      refine Ensures.ite (fun hstatus => fail_completes hstatus) fun _ => ?_
      apply Ensures.ite
      · intro _
        refine Ensures.bind Ensures.trivial fun pollIntervalMs => ?_
        exact Ensures.bind Ensures.trivial fun _ => ih
      · intro _
        exact readResponse_completes _ _ _ _

theorem executeCommand_completes {pre : World κ → Prop} (polls : ℕ)
    (command : UInt8) (data : Option UInt16) (responseLength : ℕ)
    (timeoutMs : UInt32) (evaluateFaults : Bool) :
    Ensures pre
      (executeCommand transport polls command data responseLength timeoutMs
        evaluateFaults)
      (Completes command) (fun _ => True) := by
  refine Ensures.bind Ensures.trivial fun state => ?_
  refine Ensures.ite (fun _ => Ensures.pure fun _ _ hok => absurd hok (by decide))
    fun _ => ?_
  refine Ensures.bind Ensures.trivial fun status => ?_
  refine Ensures.ite (fun hstatus => fail_completes hstatus) fun _ => ?_
  exact Ensures.bind Ensures.trivial fun start => awaitResponse_completes _ _ _ _ _ _

/-- A block that is finished without an error has its checksum computed. -/
theorem finishBlock_checksum (transport : Transport κ) (polls : ℕ) :
    Ensures (fun _ => True) (finishBlock transport polls)
      (fun status world => status = .ok → checksumSince world.trace = true)
      (fun _ => True) := by
  have hsteady := checksum_steady transport
  have hstop : ∀ world : World κ, checksumSince world.trace = true → True :=
    fun _ _ => trivial
  refine Ensures.seq (fun status world =>
    status = .ok → checksumSince world.trace = true) ?_ fun status => ?_
  · refine Ensures.bind Ensures.trivial fun disabled => ?_
    refine Ensures.ite (fun _ => Ensures.pure fun _ _ hok => absurd hok (by decide))
      fun _ => ?_
    refine Ensures.bind Ensures.trivial fun status => ?_
    refine Ensures.ite (fun hstatus =>
      Ensures.pure fun _ _ hok => absurd hok hstatus) fun _ => ?_
    refine Ensures.bind Ensures.trivial fun timeoutMs => ?_
    refine Ensures.bind (executeCommand_completes _ _ _ _ _ _) fun answer => ?_
    refine Ensures.pure fun world hworld hok => ?_
    have hlast := hworld hok
    rcases htrace : world.trace with _ | ⟨event, before⟩
    · rw [htrace] at hlast
      exact absurd hlast (by simp)
    · rw [htrace, List.head?_cons, Option.some.injEq] at hlast
      rw [hlast]
      simp [checksumSince]
  · apply Ensures.ite
    · intro hstatus
      exact Ensures.pure fun _ _ hok => absurd hok hstatus
    intro hstatus
    have hdone : ∀ world : World κ,
        (status = .ok → checksumSince world.trace = true) →
        checksumSince world.trace = true :=
      fun world hworld => hworld (not_not.mp hstatus)
    refine Ensures.seq (fun _ world => checksumSince world.trace = true)
      (Ensures.weaken (hsteady.keepsGuarded (fun _ h => h)
        (Steady.assures hsteady.keepsRequireNonCyclic)
        (allows_of_harmless none rfl) polls _) hdone (fun _ _ h => h) hstop)
      fun status => ?_
    refine Ensures.ite (fun _ => Ensures.pure fun _ hworld _ => hworld) fun _ => ?_
    refine Ensures.bind ((hsteady.keepsReadDiagnostics (allows_of_harmless none rfl)
      polls).ensures hstop) fun answer => ?_
    exact Ensures.pure fun _ hworld _ => hworld

/-! ## The whole block -/

theorem keepsStored_finishBlock (words : UInt8 → UInt16) (polls : ℕ) :
    Keeps (Stored platform words NoWord) (finishBlock transport polls) := by
  have hsteady := stored_steady platform words NoWord
  refine Keeps.bind ?_ fun status => ?_
  · refine Keeps.bind Keeps.get fun disabled => ?_
    refine Keeps.ite (fun _ => Keeps.pure) fun _ => ?_
    exact hsteady.keepsGuarded (fun _ h => h)
      (Steady.assures hsteady.keepsRequireNonCyclic) (allows_plain _ _) _ _
  refine Keeps.ite (fun _ => Keeps.pure) fun _ => ?_
  refine Keeps.bind (hsteady.keepsGuarded (fun _ h => h)
    (Steady.assures hsteady.keepsRequireNonCyclic) (allows_plain _ _) _ _)
    fun status => ?_
  refine Keeps.ite (fun _ => Keeps.pure) fun _ => ?_
  exact Keeps.bind (hsteady.keepsReadDiagnostics (allows_plain _ _) polls)
    fun _ => Keeps.pure

/-- What a call of `writeNvmBlock` leaves. -/
structure BlockWritten (words : UInt8 → UInt16) (startAddress : UInt8)
    (values : List UInt16) (updateChecksum : Bool) (status : Status)
    (world : World κ) : Prop where
  others : Stored platform words (InBlock startAddress values.length) world
  block : status = .ok → startAddress.toNat + values.length ≤ 54 ∧
    Stored platform (blockWords words startAddress values) NoWord world
  checksum : status = .ok → updateChecksum = true →
    checksumSince world.trace = true

theorem writeNvmBlock_written (words : UInt8 → UInt16) (polls : ℕ)
    (startAddress : UInt8) (values : List UInt16) (updateChecksum : Bool) :
    Ensures (Stored platform words NoWord)
      (writeNvmBlock transport polls startAddress values updateChecksum)
      (BlockWritten platform words startAddress values updateChecksum)
      (Stored platform words (InBlock startAddress values.length)) := by
  have hsame : ∀ world, Stored platform words NoWord world →
      Stored platform words (InBlock startAddress values.length) world :=
    fun world hworld => hworld.mono platform fun word hword => absurd hword id
  apply Ensures.ite
  · intro _
    exact Ensures.pure fun world hworld =>
      ⟨hsame world hworld, fun hok => absurd hok (by decide),
        fun hok => absurd hok (by decide)⟩
  intro hvalid
  have hroom : startAddress.toNat + values.length ≤ 54 := by
    simp only [not_or, gt_iff_lt, UInt8.not_lt, not_lt] at hvalid
    obtain ⟨-, hstart, hcount⟩ := hvalid
    have hle : startAddress.toNat ≤ 53 := UInt8.le_iff_toNat_le.mp hstart
    have hmax : nvmCustomWriteMax.toNat = 53 := rfl
    omega
  refine Ensures.bind (writeWords_stored platform polls words startAddress values
    hroom) fun status => ?_
  apply Ensures.ite
  · intro hend
    refine Ensures.pure fun world hworld => ⟨hworld.1, fun hok => ?_, ?_⟩
    · exact ⟨hroom, hworld.2 hok⟩
    · intro hok hupdate
      rcases hend with hfailed | hnone
      · exact absurd hok hfailed
      · rw [hupdate] at hnone
        exact absurd hnone (by decide)
  intro hcontinue
  have hok : status = .ok := by
    by_contra hfailed
    exact hcontinue (Or.inl hfailed)
  have hblock : ∀ world : World κ,
      Stored platform (blockWords words startAddress values) NoWord world →
      Stored platform words (InBlock startAddress values.length) world := by
    intro world hworld
    refine ⟨hworld.1, fun word hword hout => ?_⟩
    rw [hworld.2 word hword id, blockWords_of_notIn hroom hout]
  have hboth := Ensures.and
    (keepsStored_finishBlock platform (blockWords words startAddress values) polls)
    (finishBlock_checksum transport polls)
  refine hboth.weaken (fun world hworld => ⟨hworld.2 hok, trivial⟩) ?_
    fun world hworld => hblock world hworld.1
  intro answer world hworld
  exact ⟨hblock world hworld.1, fun _ => ⟨hroom, hworld.1⟩,
    fun hanswer _ => hworld.2 hanswer⟩

/-- On a device that changes only the words it is told to write, a verified block
write leaves every word outside the block, however it ends; where it returns
`ok`, every word of the block is the requested one and, if asked for, the
checksum was computed after the last write. -/
theorem writeNvmBlock_stores (polls : ℕ) (startAddress : UInt8)
    (values : List UInt16) (updateChecksum : Bool) (world : World κ)
    (hverify : world.device.config.verifyNvmAfterWrite = true) :
    let run := (writeNvmBlock transport polls startAddress values
      updateChecksum).run world
    (∀ word, word ≤ nvmCustomWriteMax → ¬InBlock startAddress values.length word →
      platform.nvm run.2.context word = platform.nvm world.context word) ∧
    (run.1 = some .ok →
      (∀ place (hplace : place < values.length), ∀ word : UInt8,
        word.toNat = startAddress.toNat + place →
        platform.nvm run.2.context word = values[place]) ∧
      (updateChecksum = true → checksumSince run.2.trace = true)) := by
  have hend := writeNvmBlock_written platform (platform.nvm world.context) polls
    startAddress values updateChecksum world ⟨hverify, fun _ _ _ => rfl⟩
  dsimp only
  rcases hrun : (writeNvmBlock transport polls startAddress values
    updateChecksum).run world with ⟨status | status, after⟩
  · rw [hrun] at hend
    exact ⟨hend.2, fun hok => absurd hok (by simp)⟩
  · rw [hrun] at hend
    obtain ⟨hothers, hblock, hchecksum⟩ := hend
    refine ⟨hothers.2, fun hok => ?_⟩
    rw [Option.some.injEq] at hok
    obtain ⟨hroom, hstored⟩ := hblock hok
    refine ⟨fun place hplace word hword => ?_, hchecksum hok⟩
    have hcustomer : word ≤ nvmCustomWriteMax := by
      rw [UInt8.le_iff_toNat_le, hword]
      have hmax : nvmCustomWriteMax.toNat = 53 := rfl
      omega
    rw [hstored.2 word hcustomer id]
    exact blockWords_of_lt hroom hplace hword

/-! ## A device on the bench -/

/-- A device that is always powered, in command mode and ready. -/
structure BenchDevice where
  bytes : UInt8 → UInt8 × UInt8
  asked : Option UInt8
  clockMs : UInt32

def BenchDevice.word (device : BenchDevice) (address : UInt8) : UInt16 :=
  word16 [0, (device.bytes address).1, (device.bytes address).2]

def BenchDevice.take (device : BenchDevice) : List UInt8 → BenchDevice
  | [command] =>
      { device with
        asked := if command ≤ nvmReadMax then some command else none }
  | [command, high, low] =>
      if isWriteCommand command then
        { device with
          bytes := Function.update device.bytes (command - cmdNvmWriteBase)
            (high, low) }
      else device
  | _ => device

def benchTransport : Transport BenchDevice :=
  { write := fun device _ data _ => ⟨.ok, false, device.take data⟩
    read := fun device _ length _ =>
      let shown := device.asked.elim (0, 0) device.bytes
      ⟨(.ok, [0x40, shown.1, shown.2].take length), false, device⟩
    setReset := none
    getTickMs := fun device =>
      ⟨device.clockMs, false, { device with clockMs := device.clockMs + 1 }⟩
    delayMs := fun device delayMs =>
      ⟨(), false, { device with clockMs := device.clockMs + delayMs }⟩ }

theorem take_plain (device : BenchDevice) (command word : UInt8) :
    (device.take (frameBytes command none)).word word = device.word word :=
  rfl

def benchPlatform : NvmPlatform benchTransport :=
  { nvm := BenchDevice.word
    selected := BenchDevice.asked
    tick := fun _ => ⟨rfl, rfl⟩
    wait := fun _ _ => ⟨rfl, rfl⟩
    answer := fun _ _ _ _ => ⟨rfl, rfl⟩
    word := fun device _ _ asked hasked _ => by
      simp [benchTransport, wordFrameBytes, BenchDevice.word, hasked, word16]
    select := fun device _ _ asked hasked _ => by
      simp [benchTransport, frameBytes, BenchDevice.take, hasked]
    plain := fun device _ _ command word _ => take_plain device command word
    store := fun device _ _ written value word hwritten hne => by
      have hcommand : cmdNvmWriteBase + written - cmdNvmWriteBase = written := by
        rw [add_sub_cancel_left]
      simp only [benchTransport, frameBytes, BenchDevice.take, hcommand]
      split_ifs
      · simp [BenchDevice.word, Function.update_of_ne hne]
      · rfl }

def benchWorld : World BenchDevice :=
  let device := Device.init 0 (some { defaultConfig with allowNvmWrite := true })
  { device := { device with nvmWriteUnlocked := true }
    context := ⟨fun _ => (0, 0), none, 0⟩
    trace := [] }

theorem writeNvmBlock_stores_bench :
    let run := (writeNvmBlock benchTransport 3 5 [0x1234, 0xBEEF] true).run
      benchWorld
    run.1 = some .ok ∧ run.2.context.word 6 = 0xBEEF ∧
      run.2.context.word 7 = benchWorld.context.word 7 ∧
      checksumSince run.2.trace = true := by
  have hok : ((writeNvmBlock benchTransport 3 5 [0x1234, 0xBEEF] true).run
      benchWorld).1 = some .ok := by decide +kernel
  obtain ⟨hothers, hblock⟩ := writeNvmBlock_stores benchPlatform 3 5
    [0x1234, 0xBEEF] true benchWorld rfl
  obtain ⟨hwords, hchecksum⟩ := hblock hok
  have hout : ¬InBlock 5 [(0x1234 : UInt16), 0xBEEF].length 7 := by
    rintro ⟨-, hhigh⟩
    exact absurd hhigh (by decide)
  exact ⟨hok, hwords 1 (by decide) 6 rfl, hothers 7 (by decide) hout,
    hchecksum rfl⟩

end Swfpm.Zssc3241
