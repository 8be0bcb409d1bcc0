import Swfpm.Drivers.FramMemory

/-!
# Soundness of the F-RAM driver

First what one chunk is, then what the driver is about when it submits one
(`Ready`) and when it waits for one (`Current`), and from these the invariant of
whole runs.
-/

namespace Swfpm

open ByteBuffers

/-! ## One chunk -/

section Chunk

theorem pageBit_spec {base bit : UInt8} (hbase : base &&& 1 = 0)
    (hbit : bit = 0 ∨ bit = 1) :
    (base ||| bit) &&& 1 = bit ∧ (base ||| bit) &&& 0xFE = base := by
  have hall : ∀ n : Fin 256, UInt8.ofNat n &&& 1 = 0 →
      ((UInt8.ofNat n ||| 0) &&& 1 = 0 ∧
        (UInt8.ofNat n ||| 0) &&& 0xFE = UInt8.ofNat n) ∧
      ((UInt8.ofNat n ||| 1) &&& 1 = 1 ∧
        (UInt8.ofNat n ||| 1) &&& 0xFE = UInt8.ofNat n) := by
    decide +kernel
  have h := hall ⟨base.toNat, base.toNat_lt⟩
  rw [UInt8.ofNat_toNat] at h
  rcases hbit with rfl | rfl
  · exact (h hbase).1
  · exact (h hbase).2

/-- The low byte of an address. -/
theorem offsetByte_toNat (address : UInt16) :
    ((address &&& 0xFF).toUInt8).toNat = address.toNat % 256 := by
  rw [UInt16.toNat_toUInt8, UInt16.toNat_and,
    show (0xFF : UInt16).toNat = 2 ^ 8 - 1 from rfl,
    Nat.and_two_pow_sub_one_eq_mod]
  omega

theorem pageBit_toNat {address : UInt16} (h : address.toNat < 512) :
    (((address >>> 8) &&& 1).toUInt8).toNat = address.toNat / 256 := by
  rw [UInt16.toNat_toUInt8, UInt16.toNat_and, UInt16.toNat_shiftRight,
    show (8 : UInt16).toNat % 16 = 8 from rfl,
    show (1 : UInt16).toNat = 2 ^ 1 - 1 from rfl,
    Nat.and_two_pow_sub_one_eq_mod, Nat.shiftRight_eq_div_pow]
  omega

theorem FramConfig.isValid_spec {config : FramConfig}
    (h : config.isValid = true) :
    0 < config.maxChunkBytes.toNat ∧
      config.slaveAddressBase7bit &&& 1 = 0 := by
  unfold isValid at h
  split at h
  · cases h
  · rename_i hguard
    simp only [Bool.or_eq_true, decide_eq_true_eq, not_or] at hguard
    simp only [Bool.and_eq_true, decide_eq_true_eq] at h
    refine ⟨?_, h.2⟩
    have hne := hguard.1.2
    rw [← UInt16.toNat_inj] at hne
    exact Nat.pos_of_ne_zero hne

variable {driver : FramDriver}

/-- The page bit and the offset byte decode to the address, and the rest of the
slave address is the device's. -/
theorem FramDriver.slaveAddress_spec (hvalid : driver.config.isValid = true)
    {address : UInt16} (h : address.toNat < 512) :
    (driver.slaveAddress address &&& 1).toNat * 256 +
        ((address &&& 0xFF).toUInt8).toNat = address.toNat ∧
      driver.slaveAddress address &&& 0xFE =
        driver.config.slaveAddressBase7bit := by
  have hbase := (FramConfig.isValid_spec hvalid).2
  have hbit : ((address >>> 8) &&& 1).toUInt8 = 0 ∨
      ((address >>> 8) &&& 1).toUInt8 = 1 := by
    have hpage := pageBit_toNat h
    rw [← UInt8.toNat_inj, ← UInt8.toNat_inj, hpage]
    change address.toNat / 256 = 0 ∨ address.toNat / 256 = 1
    omega
  obtain ⟨hlow, hhigh⟩ := pageBit_spec hbase hbit
  refine ⟨?_, hhigh⟩
  rw [slaveAddress, hlow, pageBit_toNat h, offsetByte_toNat]
  omega

/-- A chunk is not empty, and stays within the request, the chunk limit and the
page. -/
theorem FramDriver.chunkLength_spec (hvalid : driver.config.isValid = true)
    (hmore : driver.transferredLength.toNat < driver.requestedLength.toNat) :
    0 < driver.chunkLength.toNat ∧
      driver.transferredLength.toNat + driver.chunkLength.toNat ≤
        driver.requestedLength.toNat ∧
      driver.chunkLength.toNat ≤ driver.config.maxChunkBytes.toNat ∧
      driver.currentAddress.toNat % 256 + driver.chunkLength.toNat ≤ 256 := by
  have hmax := (FramConfig.isValid_spec hvalid).1
  have hremaining : (driver.requestedLength - driver.transferredLength).toNat =
      driver.requestedLength.toNat - driver.transferredLength.toNat :=
    UInt16.toNat_sub_of_le _ _ (UInt16.le_iff_toNat_le.mpr hmore.le)
  have hoffset : (driver.currentAddress &&& (fm24cl04bPageBytes - 1)).toNat =
      driver.currentAddress.toNat % 256 := by
    rw [UInt16.toNat_and,
      show (fm24cl04bPageBytes - 1 : UInt16).toNat = 2 ^ 8 - 1 from rfl,
      Nat.and_two_pow_sub_one_eq_mod]
  have hpage : (fm24cl04bPageBytes -
      (driver.currentAddress &&& (fm24cl04bPageBytes - 1))).toNat =
        256 - driver.currentAddress.toNat % 256 := by
    rw [UInt16.toNat_sub_of_le, hoffset]
    · rfl
    · rw [UInt16.le_iff_toNat_le, hoffset]
      change driver.currentAddress.toNat % 256 ≤ 256
      omega
  unfold chunkLength
  dsimp only
  split_ifs with h1 h2 h2 <;>
    rw [gt_iff_lt, UInt16.lt_iff_toNat_lt, hremaining] at h1 <;>
    rw [gt_iff_lt, UInt16.lt_iff_toNat_lt, hpage] at h2 <;>
    rw [hpage] at * <;> omega

end Chunk

/-! ## Before and after a submission -/

/-- The operation reads or writes the caller's bytes. -/
def FramSession.IsTransfer (session : FramSession) : Prop :=
  session.operation = .read ∨ session.operation = .write

/-- The part of `Ready` that is about a read or write. -/
structure ReadyTransfer (config : FramConfig) (driver : FramDriver)
    (session : FramSession) : Prop where
  range : session.address.toNat + session.length.toNat ≤ 512
  current : driver.currentAddress.toNat =
    session.address.toNat + session.transferred
  covers : Tiles session.address.toNat
    (session.requests.map FramRequest.range)
    (session.address.toNat + session.transferred)
  serves : ∀ request ∈ session.requests, request.Serves config session

/-- All chunks so far went through; if any are left, the driver is about to
submit the next. -/
structure Ready (config : FramConfig) (driver : FramDriver)
    (session : FramSession) : Prop where
  configured : driver.config = config
  operation : driver.operation = session.operation
  token : driver.token = session.token
  start : driver.startAddress = session.address
  requested : driver.requestedLength = session.length
  readBuffer : driver.readBuffer = session.readBuffer
  writeBuffer : driver.writeBuffer = session.writeBuffer
  transferred : driver.transferredLength.toNat = session.transferred
  results : session.results.length = session.requests.length
  ok : ∀ result ∈ session.results, result = .ok
  completions : session.completions = []
  bounded : session.transferred ≤ session.length.toNat
  kind : session.operation = .probe ∧ session.length = 2 ∧
      driver.probePage.toNat = session.transferred ∨
    session.IsTransfer ∧ ReadyTransfer config driver session

/-- The session with one more transaction. -/
def FramSession.withRequest (session : FramSession) (request : FramRequest) :
    FramSession :=
  { session with requests := session.requests ++ [request] }

def FramSession.withResult (session : FramSession)
    (result : I2cTransactionResult) : FramSession :=
  { session with results := session.results ++ [result] }

def FramSession.withCompletion (session : FramSession)
    (completion : StorageIoCompletion) : FramSession :=
  { session with completions := session.completions ++ [completion] }

/-- The chunk that the driver waits for. -/
structure Current (config : FramConfig) (driver : FramDriver)
    (session : FramSession) (transaction : FramTransaction) : Prop where
  ready : Ready config driver session
  waiting : driver.state = .waitingI2c
  client : transaction.request.clientId = config.clientId
  id : transaction.transactionId = driver.activeTransactionId
  correlation : transaction.request.correlationId =
    session.token.correlationId
  generation : transaction.request.clientGeneration = driver.clientGeneration
  active : driver.activeChunkLength.toNat = transaction.request.size
  positive : 0 < transaction.request.size
  fits : session.transferred + transaction.request.size ≤
    session.length.toNat
  probe : session.operation = .probe → transaction.request.size = 1
  serves : session.IsTransfer →
    transaction.request.address =
        session.address.toNat + session.transferred ∧
      transaction.request.Serves config session

section Submit

variable {config : FramConfig} {driver : FramDriver} {session : FramSession}

theorem FramRequest.Serves.congr {request : FramRequest}
    {session' : FramSession} (h : request.Serves config session)
    (hoperation : session'.operation = session.operation)
    (haddress : session'.address = session.address)
    (hread : session'.readBuffer = session.readBuffer)
    (hwrite : session'.writeBuffer = session.writeBuffer) :
    request.Serves config session' where
  page := h.page
  device := h.device
  size := h.size
  written hop := by
    rw [hwrite, haddress]
    exact h.written (hoperation.symm.trans hop)
  read hop := by
    rw [hread, haddress]
    exact h.read (hoperation.symm.trans hop)

/-- The next request of a read or write. -/
theorem Ready.transfer_request (h : Ready config driver session)
    (hleft : session.transferred < session.length.toNat)
    (hvalid : config.isValid = true) (hkind : session.IsTransfer)
    (htransfer : ReadyTransfer config driver session) :
    let request := driver.currentChunk.2
    request.size = driver.chunkLength.toNat ∧
      request.address = session.address.toNat + session.transferred ∧
      request.Serves config session := by
  have hoperation : driver.operation = .read ∨ driver.operation = .write := by
    rw [h.operation]
    exact hkind
  have hprobe : driver.operation ≠ .probe := by
    rcases hoperation with hs | hs <;> rw [hs] <;> decide
  have hdriver : driver.config.isValid = true := by
    rw [h.configured]
    exact hvalid
  have hmore : driver.transferredLength.toNat <
      driver.requestedLength.toNat := by
    rw [h.transferred, h.requested]
    exact hleft
  obtain ⟨hpos, hfits, hmax, hpage⟩ :=
    FramDriver.chunkLength_spec hdriver hmore
  have hbound : driver.currentAddress.toNat < 512 := by
    have hrange := htransfer.range
    rw [htransfer.current]
    omega
  obtain ⟨hdecode, hdevice⟩ := FramDriver.slaveAddress_spec hdriver hbound
  have haddress : driver.currentChunk.2.address =
      session.address.toNat + session.transferred := by
    rw [← htransfer.current, ← hdecode]
    simp only [FramRequest.address, FramDriver.currentChunk, hprobe, if_false,
      List.headD_cons]
    rfl
  have hsize : driver.currentChunk.2.size = driver.chunkLength.toNat := by
    simp only [FramRequest.size, FramDriver.currentChunk, hprobe, if_false,
      List.tail_cons, false_or]
    rcases hoperation with hs | hs <;> simp [hs]
  refine ⟨hsize, haddress, ?_⟩
  have hoffset : driver.currentChunk.2.address - session.address.toNat =
      driver.transferredLength.toNat := by
    rw [haddress, h.transferred]
    omega
  refine ⟨?_, ?_, ?_, fun hwrite => ?_, fun hread => ?_⟩
  · rw [haddress, hsize, ← htransfer.current]
    omega
  · rw [← h.configured, ← hdevice]
    simp only [FramDriver.currentChunk, hprobe, if_false]
    rfl
  · rw [hsize, ← h.configured]
    exact hmax
  · rw [hoffset, hsize, ← h.writeBuffer]
    have hs : driver.operation = .write := h.operation.trans hwrite
    simp [FramDriver.currentChunk, hs]
  · rw [hoffset, ← h.readBuffer]
    have hs : driver.operation = .read := h.operation.trans hread
    simp [FramDriver.currentChunk, hs]

/-- What the driver is about to do depends on neither the chunk in hand, nor the
transaction that carries it, nor the counters. -/
theorem Ready.rearm (h : Ready config driver session) {driver' : FramDriver}
    (hsame : ∃ activeChunkLength activeTransactionId lastBusGeneration state
      staleCount rangeErrorCount, driver' =
        { driver with
          activeChunkLength, activeTransactionId, lastBusGeneration, state
          staleCount, rangeErrorCount }) :
    Ready config driver' session := by
  obtain ⟨_, _, _, _, _, _, rfl⟩ := hsame
  refine ⟨h.configured, h.operation, h.token, h.start, h.requested,
    h.readBuffer, h.writeBuffer, h.transferred, h.results, h.ok, h.completions,
    h.bounded, ?_⟩
  rcases h.kind with hprobe | ⟨hkind, htransfer⟩
  · exact Or.inl hprobe
  · exact Or.inr ⟨hkind, htransfer.range, htransfer.current, htransfer.covers,
      htransfer.serves⟩

theorem submitCurrentChunk_accepted (driver : FramDriver) {reply : BusReply}
    (hreply : reply.result = .accepted) :
    driver.submitCurrentChunk reply =
      (.accepted,
        { driver.currentChunk.1 with
          activeTransactionId := reply.transactionId
          lastBusGeneration := reply.busGeneration
          state := .waitingI2c },
        .submit driver.currentChunk.2 reply) := by
  unfold FramDriver.submitCurrentChunk
  exact if_neg (not_not.mpr hreply)

theorem submitCurrentChunk_refused {reply : BusReply}
    (hreply : reply.result ≠ .accepted) :
    ∃ result, result ≠ .accepted ∧ ∀ driver : FramDriver,
      driver.submitCurrentChunk reply =
        (result, driver.currentChunk.1,
          .submit driver.currentChunk.2 reply) := by
  refine ⟨mapSubmitResult reply.result, ?_, fun driver => ?_⟩
  · revert hreply
    cases reply.result <;> decide
  · unfold FramDriver.submitCurrentChunk
    exact if_pos hreply

/-- A chunk that the bus accepts. -/
theorem Ready.accepted (h : Ready config driver session)
    (hleft : session.transferred < session.length.toNat)
    (hvalid : config.isValid = true) {reply : BusReply}
    (hreply : reply.result = .accepted) :
    ∃ driver', driver.submitCurrentChunk reply =
        (.accepted, driver', .submit driver.currentChunk.2 reply) ∧
      Current config driver' session
        ⟨driver.currentChunk.2, reply.transactionId⟩ := by
  let driver' : FramDriver :=
    { driver.currentChunk.1 with
      activeTransactionId := reply.transactionId
      lastBusGeneration := reply.busGeneration
      state := .waitingI2c }
  have hsubmit := submitCurrentChunk_accepted driver hreply
  have hready : Ready config driver' session :=
    h.rearm ⟨_, _, _, _, driver.staleCount, driver.rangeErrorCount, rfl⟩
  have hclient : driver.currentChunk.2.clientId = config.clientId := by
    rw [← h.configured]
    rfl
  have hcorrelation : driver.currentChunk.2.correlationId =
      session.token.correlationId := by
    rw [← h.token]
    rfl
  refine ⟨driver', hsubmit, ?_⟩
  rcases h.kind with ⟨hprobe, hlength, _⟩ | ⟨hkind, htransfer⟩
  · have hop : driver.operation = .probe := h.operation.trans hprobe
    have hsize : driver.currentChunk.2.size = 1 := by
      simp [FramRequest.size, FramDriver.currentChunk, hop]
    have hnot : ¬ session.IsTransfer := by
      rintro (hs | hs) <;> rw [hprobe] at hs <;> cases hs
    exact
      { ready := hready, waiting := rfl, client := hclient, id := rfl
        correlation := hcorrelation, generation := rfl
        active := by
          rw [show driver'.activeChunkLength = 1 by
            simp [driver', FramDriver.currentChunk, hop], hsize]
          rfl
        positive := by rw [hsize]; exact Nat.one_pos
        fits := by rw [hsize]; omega
        probe := fun _ => hsize
        serves := fun htransfer => absurd htransfer hnot }
  · have hprobe : session.operation ≠ .probe := by
      rcases hkind with hs | hs <;> rw [hs] <;> decide
    have hop : driver.operation ≠ .probe := by
      rw [h.operation]
      exact hprobe
    obtain ⟨hsize, haddress, hserves⟩ :=
      h.transfer_request hleft hvalid hkind htransfer
    have hchunk := FramDriver.chunkLength_spec
      (show driver.config.isValid = true by rw [h.configured]; exact hvalid)
      (by rw [h.transferred, h.requested]; exact hleft)
    rw [h.transferred, h.requested] at hchunk
    exact
      { ready := hready, waiting := rfl, client := hclient, id := rfl
        correlation := hcorrelation, generation := rfl
        active := by
          rw [show driver'.activeChunkLength = driver.chunkLength by
            simp [driver', FramDriver.currentChunk, hop], hsize]
        positive := by rw [hsize]; exact hchunk.1
        fits := by rw [hsize]; exact hchunk.2.1
        probe := fun hs => absurd hs hprobe
        serves := fun _ => ⟨haddress, hserves⟩ }

/-- A chunk that the bus refuses. -/
theorem Ready.refused (h : Ready config driver session) {reply : BusReply}
    (hreply : reply.result ≠ .accepted) :
    ∃ result driver', result ≠ .accepted ∧ driver.submitCurrentChunk reply =
        (result, driver', .submit driver.currentChunk.2 reply) ∧
      Ready config driver' session := by
  obtain ⟨result, hresult, hsubmit⟩ := submitCurrentChunk_refused hreply
  exact ⟨result, driver.currentChunk.1, hresult, hsubmit driver,
    h.rearm ⟨_, driver.activeTransactionId, driver.lastBusGeneration,
      driver.state, driver.staleCount, driver.rangeErrorCount, rfl⟩⟩

end Submit

/-! ## Ends of a session -/

section Ends

variable {config : FramConfig} {driver : FramDriver} {session : FramSession}
  {transaction : FramTransaction}

/-- A session that is over. -/
structure Done (config : FramConfig) (session : FramSession) : Prop where
  once : session.completions.length = 1
  sound : session.IsTransfer → session.Sound config

theorem transferred_withRequest (request : FramRequest)
    (hlength : session.results.length = session.requests.length) :
    (session.withRequest request).transferred = session.transferred := by
  unfold FramSession.transferred FramSession.withRequest
  dsimp only
  rw [show session.results = session.results ++ [] from
      (List.append_nil _).symm, List.zip_append hlength.symm]
  simp

/-- A result adds the size of its transaction if it is good, and nothing if it
is bad. -/
theorem transferred_withResult (request : FramRequest)
    (hlength : session.results.length = session.requests.length)
    (hok : ∀ result ∈ session.results, result = .ok)
    (result : I2cTransactionResult) :
    ((session.withRequest request).withResult result).transferred =
      if result = .ok then session.transferred + request.size
      else session.transferred := by
  unfold FramSession.transferred FramSession.withRequest
    FramSession.withResult
  dsimp only
  have hall : ∀ pair ∈ session.requests.zip session.results,
      decide (pair.2 = .ok) = true := by
    intro pair hpair
    exact decide_eq_true (hok pair.2 (List.of_mem_zip hpair).2)
  rw [List.zip_append hlength.symm, List.takeWhile_append_of_pos hall,
    (List.takeWhile_eq_self_iff).mpr hall]
  by_cases hresult : result = .ok
  · simp [hresult]
  · simp [hresult]

/-- A completion that tells how far the session came makes it sound. -/
theorem FramSession.Sound.of_completion {completion : StorageIoCompletion}
    (hserves : ∀ request ∈ session.requests, request.Serves config session)
    (hcovers : ∃ stop ≤ session.address.toNat + session.length.toNat,
      Tiles session.address.toNat (session.requests.map FramRequest.range) stop)
    (hnone : session.completions = [])
    (htoken : completion.token = session.token)
    (hrequested : completion.requestedLength = session.length)
    (htransferred : completion.transferredLength.toNat = session.transferred)
    (hwhole : session.transferred = session.length.toNat ↔ session.Whole) :
    (session.withCompletion completion).Sound config where
  serves request hrequest :=
    (hserves request hrequest).congr rfl rfl rfl rfl
  covers := hcovers
  once := by
    rw [withCompletion, hnone]
    rfl
  completed other hother := by
    rw [withCompletion, hnone, List.nil_append, List.mem_singleton] at hother
    subst hother
    refine ⟨htoken, hrequested, htransferred, ?_⟩
    rw [← UInt16.toNat_inj, htransferred, hrequested]
    exact hwhole

/-- Whatever is reported once all chunks so far went through. -/
theorem Ready.ends (h : Ready config driver session) (result : StorageIoResult) :
    Done config (session.withCompletion (driver.completionOf result)) := by
  refine ⟨by rw [FramSession.withCompletion, h.completions]; rfl, fun hkind => ?_⟩
  rcases h.kind with ⟨hprobe, _⟩ | ⟨_, htransfer⟩
  · rcases hkind with hs | hs <;>
      cases hprobe.symm.trans hs
  · refine FramSession.Sound.of_completion htransfer.serves
      ⟨_, Nat.add_le_add_left h.bounded _, htransfer.covers⟩ h.completions
      h.token h.requested h.transferred ⟨fun hall => ?_, fun hwhole => ?_⟩
    · refine ⟨h.ok, h.results, ?_⟩
      rw [← hall]
      exact htransfer.covers
    · have hsum := htransfer.covers.sum_eq
      have hsum' := hwhole.2.2.sum_eq
      omega

/-- The transactions of a session with the one that is waited for. -/
theorem Current.covers (h : Current config driver session transaction)
    (hkind : session.IsTransfer) :
    (∀ request ∈ (session.withRequest transaction.request).requests,
        request.Serves config session) ∧
      Tiles session.address.toNat
        ((session.withRequest transaction.request).requests.map
          FramRequest.range)
        (session.address.toNat +
          (session.transferred + transaction.request.size)) := by
  rcases h.ready.kind with ⟨hprobe, _⟩ | ⟨_, htransfer⟩
  · rcases hkind with hs | hs <;>
      cases hprobe.symm.trans hs
  · obtain ⟨haddress, hserves⟩ := h.serves hkind
    constructor
    · intro request hrequest
      rcases List.mem_append.mp hrequest with hold | hnew
      · exact htransfer.serves request hold
      · rw [List.mem_singleton.mp hnew]
        exact hserves
    · have htiles := htransfer.covers.append_one h.positive
      rw [← Nat.add_assoc]
      rw [FramSession.withRequest, List.map_append, List.map_cons, List.map_nil,
        FramRequest.range, haddress]
      exact htiles

/-- A chunk that fails ends the session with the prefix before it. -/
theorem Current.fails (h : Current config driver session transaction)
    {result : I2cTransactionResult} (hresult : result ≠ .ok)
    (busGeneration : UInt32) (reported : StorageIoResult) :
    Done config (((session.withRequest transaction.request).withResult
      result).withCompletion
        ({ driver with lastBusGeneration := busGeneration }.completionOf
          reported)) := by
  have htransferred := transferred_withResult transaction.request
    h.ready.results h.ready.ok result
  rw [if_neg hresult] at htransferred
  refine ⟨?_, fun hkind => ?_⟩
  · change (session.completions ++ [_]).length = 1
    rw [h.ready.completions]
    rfl
  · obtain ⟨hserves, htiles⟩ := h.covers hkind
    have hpositive := h.positive
    have hfits := h.fits
    refine FramSession.Sound.of_completion
      (fun request hrequest => (hserves request hrequest).congr rfl rfl rfl rfl)
      ⟨_, Nat.add_le_add_left h.fits _, htiles⟩ h.ready.completions
      h.ready.token h.ready.requested
      (h.ready.transferred.trans htransferred.symm)
      ⟨fun hall => ?_, fun hwhole => ?_⟩
    · rw [htransferred] at hall
      change session.transferred = session.length.toNat at hall
      omega
    · refine absurd (hwhole.1 result ?_) hresult
      exact List.mem_append_right _ (List.mem_singleton_self result)

end Ends

/-! ## Steps of the driver -/

/-- The driver has nothing to do. -/
structure AtRest (config : FramConfig) (driver : FramDriver) : Prop where
  state : driver.state = .idle
  config : driver.config = config
  probePage : driver.probePage = 0

/-- The driver ended the session, or waits for its next chunk. -/
inductive Proceeds (config : FramConfig) (session : FramSession)
    (reply : BusReply) (driver : FramDriver) (actions : List FramAction) :
    Prop where
  | ends (completion : StorageIoCompletion)
      (heffect : ∀ world : FramWorld, world.perform actions =
        world.amend (·.withCompletion completion))
      (hdone : Done config (session.withCompletion completion))
      (hrest : AtRest config driver)
  | waits (request : FramRequest) (hreply : reply.result = .accepted)
      (hactions : actions = [.submit request reply])
      (hcurrent : Current config driver session
        ⟨request, reply.transactionId⟩)

section Steps

variable {config : FramConfig} {driver : FramDriver} {session : FramSession}
  {transaction : FramTransaction}

theorem resting_emitCompletion (driver : FramDriver)
    (hconfig : driver.config = config) (result : StorageIoResult) :
    AtRest config (driver.emitCompletion result).1 := by
  unfold FramDriver.emitCompletion FramDriver.countResult
  split <;> exact ⟨rfl, hconfig, rfl⟩

theorem Ready.emits (h : Ready config driver session) (reply : BusReply)
    (result : StorageIoResult) :
    Proceeds config session reply (driver.emitCompletion result).1
      (driver.emitCompletion result).2 := by
  exact .ends (driver.completionOf result) (fun _ => rfl) (h.ends result)
    (resting_emitCompletion _ h.configured result)

theorem Ready.proceeds (h : Ready config driver session)
    (hleft : session.transferred < session.length.toNat)
    (hvalid : config.isValid = true) (reply : BusReply) :
    Proceeds config session reply (driver.submitNextChunk reply).1
      (driver.submitNextChunk reply).2 := by
  unfold FramDriver.submitNextChunk
  by_cases hreply : reply.result = .accepted
  · obtain ⟨driver', hsubmit, hcurrent⟩ := h.accepted hleft hvalid hreply
    rw [hsubmit]
    exact .waits driver.currentChunk.2 hreply rfl hcurrent
  · obtain ⟨result, driver', hresult, hsubmit, hready⟩ := h.refused hreply
    rw [hsubmit]
    dsimp only
    rw [if_pos hresult]
    refine .ends (driver'.completionOf .busError) (fun world => ?_)
      (hready.ends .busError)
      (resting_emitCompletion _ hready.configured .busError)
    unfold FramWorld.perform
    rw [List.foldl_cons, FramWorld.act, if_neg hreply]
    rfl

/-- A chunk of a read or write that goes through. -/
theorem Current.lands (h : Current config driver session transaction)
    (hkind : session.IsTransfer) (busGeneration : UInt32) :
    Ready config
      { driver with
        lastBusGeneration := busGeneration
        transferredLength := driver.transferredLength + driver.activeChunkLength
        currentAddress := driver.startAddress +
          (driver.transferredLength + driver.activeChunkLength) }
      ((session.withRequest transaction.request).withResult .ok) := by
  have htransferred := transferred_withResult transaction.request
    h.ready.results h.ready.ok .ok
  rw [if_pos rfl] at htransferred
  obtain ⟨hserves, htiles⟩ := h.covers hkind
  have hfits := h.fits
  have hlimit := session.length.toNat_lt
  have hsum : (driver.transferredLength + driver.activeChunkLength).toNat =
      session.transferred + transaction.request.size := by
    rw [UInt16.toNat_add, h.ready.transferred, h.active]
    omega
  refine ⟨h.ready.configured, h.ready.operation, h.ready.token, h.ready.start,
    h.ready.requested, h.ready.readBuffer, h.ready.writeBuffer,
    hsum.trans htransferred.symm, ?_, ?_, h.ready.completions, ?_, ?_⟩
  · change (session.results ++ [_]).length = (session.requests ++ [_]).length
    rw [List.length_append, List.length_append, h.ready.results]
    rfl
  · intro result hresult
    rcases List.mem_append.mp hresult with hold | hnew
    · exact h.ready.ok result hold
    · exact List.mem_singleton.mp hnew
  · rw [htransferred]
    exact hfits
  · rcases h.ready.kind with ⟨hprobe, _⟩ | ⟨_, htransfer⟩
    · rcases hkind with hs | hs <;> cases hprobe.symm.trans hs
    · refine Or.inr ⟨hkind, htransfer.range, ?_, ?_, fun request hrequest =>
        (hserves request hrequest).congr rfl rfl rfl rfl⟩
      · have hrange := htransfer.range
        rw [UInt16.toNat_add, hsum, h.ready.start, htransferred]
        change _ = session.address.toNat + _
        omega
      · rw [htransferred]
        exact htiles

/-- The first page of a probe answers. -/
theorem Current.probed (h : Current config driver session transaction)
    (hkind : session.operation = .probe) (hpage : driver.probePage = 0)
    (busGeneration : UInt32) :
    Ready config
        { driver with
          lastBusGeneration := busGeneration
          transferredLength := driver.transferredLength + 1
          probePage := 1 }
        ((session.withRequest transaction.request).withResult .ok) ∧
      ((session.withRequest transaction.request).withResult .ok).transferred <
        session.length.toNat := by
  have htransferred := transferred_withResult transaction.request
    h.ready.results h.ready.ok .ok
  rw [if_pos rfl, h.probe hkind] at htransferred
  rcases h.ready.kind with ⟨_, hlength, hprobe⟩ | ⟨hs, _⟩
  · rw [hpage] at hprobe
    have hzero : session.transferred = 0 := hprobe.symm
    have htwo : session.length.toNat = 2 := by rw [hlength]; rfl
    refine ⟨⟨h.ready.configured, h.ready.operation, h.ready.token,
      h.ready.start, h.ready.requested, h.ready.readBuffer,
      h.ready.writeBuffer, ?_, ?_, ?_, h.ready.completions, ?_,
      Or.inl ⟨hkind, hlength, ?_⟩⟩, ?_⟩
    · rw [htransferred, UInt16.toNat_add, h.ready.transferred, hzero]
      rfl
    · change (session.results ++ [_]).length = (session.requests ++ [_]).length
      rw [List.length_append, List.length_append, h.ready.results]
      rfl
    · intro result hresult
      rcases List.mem_append.mp hresult with hold | hnew
      · exact h.ready.ok result hold
      · exact List.mem_singleton.mp hnew
    · rw [htransferred, hzero]
      change 0 + 1 ≤ session.length.toNat
      omega
    · rw [htransferred, hzero]
      rfl
    · rw [htransferred, hzero]
      omega
  · rcases hs with hs | hs <;> cases hkind.symm.trans hs

theorem Current.expects (h : Current config driver session transaction)
    (result : I2cTransactionResult) (busGeneration : UInt32) :
    driver.expects (transaction.completion result busGeneration) = true := by
  unfold FramDriver.expects FramTransaction.completion
  simp [h.waiting, h.client, h.ready.configured, h.id, h.correlation,
    h.ready.token, h.generation]

theorem mapResult_eq_ok_iff (result : I2cTransactionResult) :
    mapResult result = .ok ↔ result = .ok := by
  cases result <;> decide

/-- The bus answers the transaction that the driver waits for. -/
theorem Current.answered (h : Current config driver session transaction)
    (hvalid : config.isValid = true) (result : I2cTransactionResult)
    (busGeneration : UInt32) (reply : BusReply) :
    Proceeds config
      ((session.withRequest transaction.request).withResult result) reply
      (driver.onI2cCompletion (transaction.completion result busGeneration)
        reply).1
      (driver.onI2cCompletion (transaction.completion result busGeneration)
        reply).2 := by
  unfold FramDriver.onI2cCompletion
  rw [if_neg (by rw [h.expects]; decide)]
  dsimp only [FramTransaction.completion]
  by_cases hresult : result = .ok
  · subst hresult
    rw [if_neg (by decide)]
    by_cases hprobe : driver.operation = .probe
    · rw [if_pos hprobe]
      have hkind : session.operation = .probe :=
        h.ready.operation.symm.trans hprobe
      by_cases hpage : driver.probePage = 0
      · rw [if_pos hpage]
        obtain ⟨hready, hleft⟩ := h.probed hkind hpage busGeneration
        exact hready.proceeds hleft hvalid reply
      · rw [if_neg hpage]
        -- the second page of a probe: its session has no bytes to account for
        refine .ends _ (fun _ => rfl) ⟨?_, fun hs => ?_⟩
          (by apply resting_emitCompletion; exact h.ready.configured)
        · change (session.completions ++ [_]).length = 1
          rw [h.ready.completions]
          rfl
        · rcases hs with hs | hs <;> cases hkind.symm.trans hs
    · rw [if_neg hprobe]
      have hkind : session.IsTransfer := by
        rcases h.ready.kind with ⟨hs, _⟩ | ⟨hs, _⟩
        · exact absurd (h.ready.operation.trans hs) hprobe
        · exact hs
      have hready := h.lands hkind busGeneration
      split
      · rename_i hless
        refine hready.proceeds ?_ hvalid reply
        have hmore := UInt16.lt_iff_toNat_lt.mp hless
        rw [hready.transferred, hready.requested] at hmore
        exact hmore
      · exact hready.emits reply .ok
  · rw [if_pos (fun hmapped => hresult ((mapResult_eq_ok_iff result).mp hmapped))]
    exact .ends _ (fun _ => rfl) (h.fails hresult busGeneration _)
      (by apply resting_emitCompletion; exact h.ready.configured)

theorem rangeIsValid_spec {address length : UInt16}
    (h : rangeIsValid address length = true) :
    address.toNat + length.toNat ≤ 512 := by
  unfold rangeIsValid at h
  split at h
  · rename_i hzero
    rw [decide_eq_true_eq, UInt16.le_iff_toNat_le] at h
    rw [hzero]
    exact h
  · simp only [Bool.and_eq_true, decide_eq_true_eq] at h
    obtain ⟨haddress, hlength⟩ := h
    have hroom : (fm24cl04bSizeBytes - address).toNat = 512 - address.toNat :=
      UInt16.toNat_sub_of_le _ _ (UInt16.le_of_lt haddress)
    rw [UInt16.lt_iff_toNat_lt] at haddress
    rw [UInt16.le_iff_toNat_le, hroom] at hlength
    change address.toNat < 512 at haddress
    omega

/-- The driver before the first chunk of an operation. -/
theorem Ready.first {operation : FramOperation} {address length : UInt16}
    {readBuffer : Option ℕ} {writeBuffer : Option ByteBuffer}
    {token : StorageOperationToken} (hconfig : driver.config = config)
    (hoperation : driver.operation = operation)
    (htoken : driver.token = token) (hstart : driver.startAddress = address)
    (hcurrent : driver.currentAddress = address)
    (hrequested : driver.requestedLength = length)
    (htransferred : driver.transferredLength = 0)
    (hread : driver.readBuffer = readBuffer)
    (hwrite : driver.writeBuffer = writeBuffer)
    (hrange : address.toNat + length.toNat ≤ 512)
    (hkind : operation = .probe ∧ length = 2 ∧ driver.probePage = 0 ∨
      operation = .read ∨ operation = .write) :
    Ready config driver ⟨operation, address, length, token, readBuffer,
      writeBuffer, [], [], []⟩ := by
  refine ⟨hconfig, hoperation, htoken, hstart, hrequested, hread, hwrite, ?_,
    rfl, nofun, rfl, Nat.zero_le _, ?_⟩
  · rw [htransferred]
    rfl
  · rcases hkind with ⟨hprobe, hlength, hpage⟩ | hkind
    · left
      refine ⟨hprobe, hlength, ?_⟩
      rw [hpage]
      rfl
    · right
      refine ⟨hkind, hrange, ?_, rfl, nofun⟩
      rw [hcurrent]
      rfl

/-- Only an idle driver accepts an operation. -/
theorem beginOperation_idle {operation : FramOperation}
    {address length : UInt16} {readBuffer : Option ℕ}
    {writeBuffer : Option ByteBuffer} {token : StorageOperationToken}
    {deadlineUs : UInt64} {reply : BusReply}
    (haccepted : (driver.beginOperation operation address readBuffer writeBuffer
      length token deadlineUs reply).1 = .accepted) :
    driver.state = .idle := by
  by_contra hbusy
  unfold FramDriver.beginOperation at haccepted
  split at haccepted
  · cases haccepted
  · cases haccepted

/-- An operation that the driver accepts. -/
theorem beginOperation_accepted {operation : FramOperation}
    {address length : UInt16} {readBuffer : Option ℕ}
    {writeBuffer : Option ByteBuffer} {token : StorageOperationToken}
    {deadlineUs : UInt64} {reply : BusReply}
    (hconfig : driver.config = config) (hvalid : config.isValid = true)
    (hkind : operation = .probe ∧ length = 2 ∧ driver.probePage = 0 ∨
      operation = .read ∨ operation = .write)
    (haccepted : (driver.beginOperation operation address readBuffer writeBuffer
      length token deadlineUs reply).1 = .accepted) :
    Proceeds config
      ⟨operation, address, length, token, readBuffer, writeBuffer, [], [], []⟩
      reply
      (driver.beginOperation operation address readBuffer writeBuffer length
        token deadlineUs reply).2.1
      (driver.beginOperation operation address readBuffer writeBuffer length
        token deadlineUs reply).2.2 := by
  have hidle := beginOperation_idle haccepted
  unfold FramDriver.beginOperation at haccepted ⊢
  by_cases hoff : driver.state = .uninitialized ∨ driver.state = .fault
  · rw [if_pos hoff] at haccepted
    cases haccepted
  rw [if_neg hoff] at haccepted ⊢
  rw [if_neg (not_not.mpr hidle)] at haccepted ⊢
  by_cases hparam : !tokenIsValid token ∨ deadlineUs = 0 ∨
      (length > 0 ∧ operation = .read ∧ readBuffer.isNone) ∨
      (length > 0 ∧ operation = .write ∧ writeBuffer.isNone)
  · rw [if_pos hparam] at haccepted
    cases haccepted
  rw [if_neg hparam] at haccepted ⊢
  by_cases hrange : !rangeIsValid address length
  · rw [if_pos hrange] at haccepted
    cases haccepted
  rw [if_neg hrange] at haccepted ⊢
  dsimp only at haccepted ⊢
  have hready : Ready config
      { driver with
        operation, token
        startAddress := address
        currentAddress := address
        requestedLength := length
        transferredLength := 0
        deadlineUs, readBuffer, writeBuffer
        submittedCount := driver.submittedCount + 1 }
      ⟨operation, address, length, token, readBuffer, writeBuffer, [], [],
        []⟩ := by
    refine Ready.first hconfig rfl rfl rfl rfl rfl rfl rfl rfl
      (rangeIsValid_spec (by simpa using hrange)) hkind
  by_cases hzero : length = 0
  · simp only [if_pos hzero]
    exact hready.emits reply .ok
  · simp only [if_neg hzero] at haccepted ⊢
    by_cases hreply : reply.result = .accepted
    · have hpositive : (0 : ℕ) < length.toNat := by
        refine Nat.pos_of_ne_zero fun h => hzero ?_
        rw [← UInt16.toNat_inj, h]
        rfl
      obtain ⟨driver', hsubmit, hcurrent⟩ :=
        hready.accepted hpositive hvalid hreply
      rw [hsubmit]
      exact .waits _ hreply rfl hcurrent
    · obtain ⟨result, driver', hresult, hsubmit, _⟩ := hready.refused hreply
      rw [hsubmit] at haccepted
      dsimp only at haccepted
      rw [if_pos hresult] at haccepted
      exact absurd haccepted hresult

/-- An operation that the driver turns down. -/
theorem beginOperation_refused {operation : FramOperation}
    {address length : UInt16} {readBuffer : Option ℕ}
    {writeBuffer : Option ByteBuffer} {token : StorageOperationToken}
    {deadlineUs : UInt64} {reply : BusReply}
    (hrefused : (driver.beginOperation operation address readBuffer writeBuffer
      length token deadlineUs reply).1 ≠ .accepted) :
    (∃ count, (driver.beginOperation operation address readBuffer writeBuffer
        length token deadlineUs reply).2.1 =
          { driver with rangeErrorCount := count }) ∨
      driver.state = .idle ∧
        AtRest driver.config (driver.beginOperation operation address
          readBuffer writeBuffer length token deadlineUs reply).2.1 := by
  unfold FramDriver.beginOperation at hrefused ⊢
  split
  · exact Or.inl ⟨driver.rangeErrorCount, rfl⟩
  · split
    · exact Or.inl ⟨driver.rangeErrorCount, rfl⟩
    · rename_i hoff hbusy
      have hidle : driver.state = .idle := not_not.mp hbusy
      rw [if_neg hoff, if_neg hbusy] at hrefused
      split
      · exact Or.inl ⟨driver.rangeErrorCount, rfl⟩
      · rename_i hparam
        rw [if_neg hparam] at hrefused
        split
        · exact Or.inl ⟨driver.rangeErrorCount + 1, rfl⟩
        · rename_i hrange
          rw [if_neg hrange] at hrefused
          dsimp only at hrefused ⊢
          by_cases hzero : length = 0
          · rw [if_pos hzero] at hrefused
            exact absurd rfl hrefused
          · right
            refine ⟨hidle, ?_⟩
            rw [if_neg hzero] at hrefused ⊢
            by_cases hreply : reply.result = .accepted
            · rw [submitCurrentChunk_accepted _ hreply] at hrefused
              exact absurd rfl hrefused
            · obtain ⟨result, hresult, hsubmit⟩ :=
                submitCurrentChunk_refused hreply
              rw [hsubmit]
              dsimp only
              rw [if_pos hresult]
              exact ⟨rfl, rfl, rfl⟩

end Steps

/-! ## The invariant -/

/-- The driver was never registered, has nothing to do, or waits for the
transaction that is outstanding. -/
inductive FramWorld.Inv (config : FramConfig) (world : FramWorld) : Prop where
  | off (hstate : world.driver.state = .uninitialized)
      (hout : world.outstanding = none) (hsessions : world.sessions = [])
  | rests (hrest : AtRest config world.driver)
      (hout : world.outstanding = none)
      (hdone : ∀ session ∈ world.sessions, Done config session)
  | waits (session : FramSession) (rest : List FramSession)
      (transaction : FramTransaction)
      (hsessions : world.sessions =
        session.withRequest transaction.request :: rest)
      (hout : world.outstanding = some transaction)
      (hcurrent : Current config world.driver session transaction)
      (hdone : ∀ session ∈ rest, Done config session)

section Invariant

variable {config : FramConfig} {world : FramWorld}

theorem Proceeds.inv {session : FramSession} {rest : List FramSession}
    {reply : BusReply} {actions : List FramAction}
    (h : Proceeds config session reply world.driver actions)
    (hsessions : world.sessions = session :: rest)
    (hout : world.outstanding = none)
    (hdone : ∀ session ∈ rest, Done config session) :
    (world.perform actions).Inv config := by
  cases h with
  | ends completion heffect hsession hrest =>
      rw [heffect]
      refine .rests hrest hout fun other hother => ?_
      simp only [FramWorld.amend, hsessions, List.modifyHead_cons,
        List.mem_cons] at hother
      rcases hother with rfl | hother
      · exact hsession
      · exact hdone other hother
  | waits request hreply hactions hcurrent =>
      subst hactions
      simp only [FramWorld.perform, List.foldl_cons, List.foldl_nil,
        FramWorld.act, if_pos hreply]
      refine .waits session rest ⟨request, reply.transactionId⟩ ?_ rfl hcurrent
        hdone
      simp only [FramWorld.amend, hsessions, List.modifyHead_cons]
      rfl

/-- Counters have no part in the invariant, nor have the calls of
`fram_cancel_generation` that have not returned. -/
theorem FramWorld.Inv.recount (h : world.Inv config)
    (staleCount rangeErrorCount : UInt32) (cancelling : List UInt32) :
    FramWorld.Inv config
      { world with
        driver := { world.driver with staleCount, rangeErrorCount }
        cancelling } := by
  cases h with
  | off hstate hout hsessions => exact .off hstate hout hsessions
  | rests hrest hout hdone =>
      exact .rests ⟨hrest.state, hrest.config, hrest.probePage⟩ hout hdone
  | waits session rest transaction hsessions hout hcurrent hdone =>
      refine .waits session rest transaction hsessions hout ?_ hdone
      exact
        { hcurrent with
          ready := hcurrent.ready.rearm ⟨_, _, _, _, _, _, rfl⟩ }

/-- An operation begins, or is turned down. -/
theorem FramWorld.Inv.begun (h : world.Inv config)
    (hvalid : config.isValid = true) {operation : FramOperation}
    {address length : UInt16} {readBuffer : Option ℕ}
    {writeBuffer : Option ByteBuffer} (token : StorageOperationToken)
    (deadlineUs : UInt64) (reply : BusReply)
    (hkind : operation = .probe ∧ length = 2 ∨
      operation = .read ∨ operation = .write) :
    (world.begun
      ⟨operation, address, length, token, readBuffer, writeBuffer, [], [], []⟩
      (world.driver.beginOperation operation address readBuffer writeBuffer
        length token deadlineUs reply)).Inv config := by
  unfold FramWorld.begun
  by_cases haccepted : (world.driver.beginOperation operation address readBuffer
      writeBuffer length token deadlineUs reply).1 = .accepted
  · rw [if_pos haccepted]
    have hidle := beginOperation_idle haccepted
    cases h with
    | off hstate =>
        rw [hstate] at hidle
        cases hidle
    | rests hrest hout hdone =>
        have hproceeds := beginOperation_accepted hrest.config hvalid
          (hkind.imp_left fun hprobe => ⟨hprobe.1, hprobe.2, hrest.probePage⟩)
          haccepted
        exact hproceeds.inv rfl hout hdone
    | waits session rest transaction hsessions hout hcurrent =>
        rw [hcurrent.waiting] at hidle
        cases hidle
  · rw [if_neg haccepted]
    rcases beginOperation_refused haccepted with ⟨count, hcount⟩ |
      ⟨hidle, hrest⟩
    · rw [hcount]
      exact h.recount world.driver.staleCount count world.cancelling
    · cases h with
      | off hstate =>
          rw [hstate] at hidle
          cases hidle
      | rests hrest' hout hdone =>
          rw [hrest'.config] at hrest
          exact .rests hrest hout hdone
      | waits session rest transaction hsessions hout hcurrent =>
          rw [hcurrent.waiting] at hidle
          cases hidle

theorem FramWorld.Inv.resting (h : world.Inv config)
    (hidle : world.driver.state = .idle) : AtRest config world.driver := by
  cases h with
  | off hstate =>
      rw [hstate] at hidle
      cases hidle
  | rests hrest => exact hrest
  | waits session rest transaction hsessions hout hcurrent =>
      rw [hcurrent.waiting] at hidle
      cases hidle

theorem FramWorld.Inv.probePage_of_probe (h : world.Inv config)
    (hvalid : config.isValid = true) {token : StorageOperationToken}
    {deadlineUs : UInt64} {reply : BusReply}
    (haccepted : (world.driver.beginOperation .probe 0 none none 2 token
      deadlineUs reply).1 = .accepted) :
    (world.driver.beginOperation .probe 0 none none 2 token deadlineUs
      reply).2.1.probePage = 0 := by
  have hrest := h.resting (beginOperation_idle haccepted)
  cases beginOperation_accepted hrest.config hvalid
    (Or.inl ⟨rfl, rfl, hrest.probePage⟩) haccepted with
  | ends completion heffect hdone hrest => exact hrest.probePage
  | waits request hreply hactions hcurrent =>
      rcases hcurrent.ready.kind with ⟨_, _, hpage⟩ | ⟨hs | hs, _⟩
      · rw [← UInt8.toNat_inj, hpage]
        rfl
      · cases hs
      · cases hs

/-- `fram_probe_async` sets the probe page that is set already. -/
theorem FramWorld.Inv.probed (h : world.Inv config)
    (hvalid : config.isValid = true) (token : StorageOperationToken)
    (deadlineUs : UInt64) (reply : BusReply) :
    (world.begun ⟨.probe, 0, 2, token, none, none, [], [], []⟩
      (world.driver.probeAsync token deadlineUs reply)).Inv config := by
  have hsame : world.driver.probeAsync token deadlineUs reply =
      world.driver.beginOperation .probe 0 none none 2 token deadlineUs
        reply := by
    unfold FramDriver.probeAsync
    dsimp only
    split
    · rename_i haccepted
      have hpage := h.probePage_of_probe hvalid haccepted
      rw [← hpage]
    · rfl
  rw [hsame]
  exact h.begun hvalid token deadlineUs reply (Or.inl ⟨rfl, rfl⟩)

/-- The bus answers what is outstanding. -/
theorem FramWorld.Inv.answered (h : world.Inv config)
    (hvalid : config.isValid = true) (result : I2cTransactionResult)
    (busGeneration : UInt32) (reply : BusReply) :
    (world.answered result busGeneration reply).Inv config := by
  unfold FramWorld.answered
  cases h with
  | off hstate hout hsessions =>
      rw [hout]
      exact .off hstate hout hsessions
  | rests hrest hout hdone =>
      rw [hout]
      exact .rests hrest hout hdone
  | waits session rest transaction hsessions hout hcurrent hdone =>
      rw [hout]
      refine (hcurrent.answered hvalid result busGeneration reply).inv ?_ rfl
        hdone
      simp only [FramWorld.amend, hsessions, List.modifyHead_cons]
      rfl

/-- A completion that names no outstanding transaction is only counted. -/
theorem FramWorld.Inv.not_expected (h : world.Inv config)
    {completion : I2cTransactionCompletion}
    (hstale : world.outstanding.any (·.isNamed completion) = false) :
    world.driver.expects completion = false := by
  cases h with
  | off hstate =>
      unfold FramDriver.expects
      simp [hstate]
  | rests hrest =>
      unfold FramDriver.expects
      simp [hrest.state]
  | waits session rest transaction hsessions hout hcurrent hdone =>
      rw [hout, Option.any_some, FramTransaction.isNamed, hcurrent.client,
        hcurrent.id, hcurrent.correlation, hcurrent.generation] at hstale
      unfold FramDriver.expects
      rw [hcurrent.waiting, hcurrent.ready.configured, hcurrent.ready.token]
      simp only [Bool.and_eq_false_iff, decide_eq_false_iff_not] at hstale
      simp only [Bool.not_eq_false', Bool.or_eq_true, decide_eq_true_eq]
      tauto

/-- The step lemma. -/
theorem FramWorld.Inv.apply (h : world.Inv config)
    (hvalid : config.isValid = true) {event : FramEvent}
    (hsteady : world.Steady event) : (world.apply event).Inv config := by
  cases event with
  | probe token deadlineUs reply => exact h.probed hvalid token deadlineUs reply
  | read address buffer length token deadlineUs reply =>
      exact h.begun hvalid token deadlineUs reply (Or.inr (Or.inl rfl))
  | write address buffer length token deadlineUs reply =>
      exact h.begun hvalid token deadlineUs reply (Or.inr (Or.inr rfl))
  | answer result busGeneration reply =>
      exact h.answered hvalid result busGeneration reply
  | stale completion reply =>
      unfold FramWorld.apply
      dsimp only
      split
      · exact h
      · rename_i hstale
        have hexpects := h.not_expected (by simpa using hstale)
        unfold FramDriver.onI2cCompletion
        rw [hexpects]
        exact h.recount _ world.driver.rangeErrorCount world.cancelling
  | cancelGeneration newGeneration busGeneration reply =>
      unfold FramWorld.apply
      dsimp only
      split
      · exact h
      · split
        · have hanswered := h.answered hvalid .cancelled busGeneration reply
          exact hanswered.recount _ _ _
        · exact h.recount _ _ _
  | cancelReturns =>
      unfold FramWorld.apply
      dsimp only
      split
      · exact h
      · rename_i newGeneration rest hcancelling
        have hquiet := hsteady newGeneration (by rw [hcancelling]; rfl)
        by_cases hsame : newGeneration = world.driver.clientGeneration
        · rw [hsame]
          exact h.recount _ _ _
        · have hfree := hquiet.resolve_left hsame
          cases h with
          | off hstate hout hsessions => exact .off hstate hout hsessions
          | rests hrest hout hdone =>
              exact .rests ⟨hrest.state, hrest.config, hrest.probePage⟩ hout
                hdone
          | waits session rest transaction hsessions hout hcurrent =>
              rw [FramDriver.isBusy, hcurrent.waiting] at hfree
              cases hfree

/-- Any answer to what the driver waits for ends the session or takes it
further. -/
theorem Current.advances {session : FramSession} {rest : List FramSession}
    {transaction : FramTransaction} (hvalid : config.isValid = true)
    (hcurrent : Current config world.driver session transaction)
    (hsessions : world.sessions =
      session.withRequest transaction.request :: rest)
    (hout : world.outstanding = some transaction) :
    world.Advances (session.withRequest transaction.request) := by
  refine ⟨by rw [hout]; rfl, fun result busGeneration reply => ?_⟩
  have hproceeds := hcurrent.answered hvalid result busGeneration reply
  have hresults := hcurrent.ready.results
  have hbefore := transferred_withRequest transaction.request hresults
  have hafter := transferred_withResult transaction.request hresults
    hcurrent.ready.ok result
  unfold FramWorld.apply FramWorld.answered
  rw [hout]
  dsimp only
  cases hproceeds with
  | ends completion heffect hdone hrest =>
      rw [heffect]
      simp only [FramWorld.amend, hsessions, List.modifyHead_cons,
        List.head?_cons]
      exact ⟨_, rfl, Or.inl hdone.once⟩
  | waits request hreply hactions hnext =>
      rw [hactions]
      simp only [FramWorld.perform, List.foldl_cons, List.foldl_nil,
        FramWorld.act, if_pos hreply, FramWorld.amend, hsessions,
        List.modifyHead_cons, List.head?_cons]
      refine ⟨_, rfl, Or.inr ?_⟩
      have hok : result = .ok := by
        refine hnext.ready.ok result ?_
        exact List.mem_append_right _ (List.mem_singleton_self result)
      rw [if_pos hok] at hafter
      have hpositive := hcurrent.positive
      calc (session.withRequest transaction.request).transferred
          = session.transferred := hbefore
        _ < ((session.withRequest transaction.request).withResult
              result).transferred := by omega
        _ = _ := (transferred_withRequest request hnext.ready.results).symm

theorem FramWorld.Inv.faithful (h : world.Inv config)
    (hvalid : config.isValid = true) : world.Faithful := by
  cases h with
  | off hstate hout hsessions =>
      refine ⟨?_, ?_, ?_⟩
      all_goals
        rw [hsessions]
        simp
  | rests hrest hout hdone =>
      refine ⟨fun session hmem hkind => ?_, fun session hmem => ?_,
        fun session hmem => ?_⟩
      · rw [hrest.config]
        exact (hdone session hmem).sound hkind
      · exact (hdone session (List.mem_of_mem_tail hmem)).once
      · exact Or.inl (hdone session (List.mem_of_mem_head? hmem)).once
  | waits session rest transaction hsessions hout hcurrent hdone =>
      refine ⟨fun other hmem hkind => ?_, fun other hmem => ?_,
        fun other hmem => ?_⟩
      · rw [hsessions, List.mem_cons] at hmem
        rw [hcurrent.ready.configured]
        rcases hmem with rfl | hmem
        · obtain ⟨hserves, htiles⟩ := hcurrent.covers hkind
          refine ⟨fun request hrequest =>
            (hserves request hrequest).congr rfl rfl rfl rfl,
            ⟨_, Nat.add_le_add_left hcurrent.fits _, htiles⟩, ?_, ?_⟩
          · change session.completions.length ≤ 1
            rw [hcurrent.ready.completions]
            exact Nat.zero_le 1
          · intro completion hcompletion
            change completion ∈ session.completions at hcompletion
            rw [hcurrent.ready.completions] at hcompletion
            cases hcompletion
        · exact (hdone other hmem).sound hkind
      · rw [hsessions] at hmem
        exact (hdone other hmem).once
      · rw [hsessions, List.head?_cons, Option.mem_some_iff] at hmem
        subst hmem
        exact Or.inr ⟨hcurrent.ready.completions,
          hcurrent.advances hvalid hsessions hout⟩

/-- The run lemma. -/
theorem FramWorld.Inv.run (h : world.Inv config)
    (hvalid : config.isValid = true) {events : List FramEvent}
    (hsteady : world.SteadyRun events) : (world.run events).Inv config := by
  induction events generalizing world with
  | nil => exact h
  | cons event events ih =>
      obtain ⟨hfirst, hrest⟩ := hsteady
      exact ih (h.apply hvalid hfirst) hrest

end Invariant

/-! ## The driver refines a flat memory -/

/-- Unless another generation is installed while an operation waits for the bus,
reads and writes are those of a flat memory, and every accepted operation has
exactly one completion or is in the hands of the bus. -/
theorem framDriver_faithful {config : FramConfig} {registered : Bool}
    {driver : FramDriver}
    (hinit : (FramDriver.init config registered).2 = some driver)
    {events : List FramEvent}
    (hsteady : (FramWorld.start driver).SteadyRun events) :
    ((FramWorld.start driver).run events).Faithful := by
  have hvalid : config.isValid = true := by
    by_contra hinvalid
    rw [FramDriver.init, if_pos (by simpa using hinvalid)] at hinit
    cases hinit
  have hstart : (FramWorld.start driver).Inv config := by
    rw [FramDriver.init, if_neg (by simp [hvalid])] at hinit
    cases hinit
    cases registered with
    | true => exact .rests ⟨rfl, rfl, rfl⟩ rfl nofun
    | false => exact .off rfl rfl rfl
  exact (hstart.run hvalid hsteady).faithful hvalid

/-- A write over the page boundary that succeeds, and a read that is cancelled
after its first chunk. -/
theorem framDriver_faithful_pageCrossing :
    ∃ driver, (FramDriver.init ⟨2, 0x50, 512, 16, 4⟩ true).2 = some driver ∧
      let world := (FramWorld.start driver).run
        [.write 0xF8 (some zeros) 20 ⟨1, 10, 1⟩ 1000 ⟨.accepted, 1, 1⟩,
          .answer .ok 1 ⟨.accepted, 2, 1⟩, .answer .ok 1 ⟨.accepted, 3, 1⟩,
          .read 0 (some 0) 40 ⟨2, 11, 1⟩ 1000 ⟨.accepted, 3, 1⟩,
          .answer .ok 1 ⟨.accepted, 4, 1⟩,
          .cancelGeneration 2 1 ⟨.accepted, 5, 1⟩, .cancelReturns]
      world.Faithful ∧
        world.sessions.map (·.requests.map FramRequest.range) =
          [[(0, 16), (16, 16)], [(0xF8, 8), (0x100, 12)]] ∧
        world.sessions.map (·.transferred) = [16, 20] := by
  obtain ⟨driver, hinit⟩ : ∃ driver,
      (FramDriver.init ⟨2, 0x50, 512, 16, 4⟩ true).2 = some driver :=
    ⟨_, rfl⟩
  refine ⟨driver, hinit, framDriver_faithful hinit ?_, ?_⟩
  · cases hinit
    refine ⟨trivial, trivial, trivial, trivial, trivial, trivial, ?_, trivial⟩
    exact fun newGeneration _ => Or.inr (by decide)
  · cases hinit
    decide +kernel

/-- The completion function of a cancelled read starts the next one.  Its
transaction carries the generation that is about to be replaced; when the bus
reports it, the driver takes the report for a stale one and waits on. -/
theorem framDriver_not_faithful_restarted :
    ∃ driver, (FramDriver.init ⟨2, 0x50, 512, 16, 4⟩ true).2 = some driver ∧
      ¬ ((FramWorld.start driver).run
        [.read 0 (some 0) 1 ⟨1, 10, 1⟩ 1000 ⟨.accepted, 1, 1⟩,
          .cancelGeneration 2 1 ⟨.notReady, 0, 0⟩,
          .read 0 (some 0) 1 ⟨2, 11, 1⟩ 1000 ⟨.accepted, 2, 2⟩,
          .cancelReturns, .answer .ok 2 ⟨.notReady, 0, 0⟩]).Faithful := by
  refine ⟨_, rfl, ?_⟩
  rintro ⟨_, _, hnewest⟩
  rcases hnewest _ (Option.mem_def.mpr rfl) with honce | ⟨_, hout, _⟩
  · exact absurd honce (by decide +kernel)
  · exact absurd hout (by decide +kernel)

end Swfpm
