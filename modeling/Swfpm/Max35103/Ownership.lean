import Swfpm.Max35103.Device

/-!
# Ownership of the SPI bus

Between calls the bus is locked exactly while an asynchronous transfer runs, the
transfer belongs to the pending request, and no request is completed twice.
-/

namespace Swfpm.Max35103

/-! ## What a trace says of the bus -/

/-- The successful lock calls of the platform, less its unlock calls. -/
def lockBalance (trace : List Event) : ℤ :=
  (trace.count .locked : ℤ) - trace.count .unlocked

def Event.isStaged : Event → Bool
  | .staged _ => true
  | _ => false

/-- The number of requests staged. -/
def requestCount (trace : List Event) : ℕ := trace.countP Event.isStaged

def Event.completedToken : Event → Option UInt32
  | .completed token => some token
  | _ => none

/-- The tokens completed, newest first. -/
def completedTokens (trace : List Event) : List UInt32 :=
  trace.filterMap Event.completedToken

/-! ## The invariant -/

/-- Tokens are counted up, and those completed are past. -/
structure FreshTokens (request : Request) (count : ℕ) (completed : List UInt32) :
    Prop where
  next : request.nextToken.toNat = count
  current : request.pending = true →
    request.token = request.nextToken ∧ request.token ∉ completed
  past : ∀ token ∈ completed, token.toNat ≤ count
  distinct : completed.Nodup

/-- Ownership of the bus, where its lock may be shared. -/
structure Owned (shared : Bool) (request : Request) (trace : List Event) :
    Prop where
  bus : request.locked = request.asyncActive
  transfer : request.asyncActive = true → request.pending = true
  token : request.pending = true ↔ request.token ≠ 0
  balance : lockBalance trace = if shared && request.locked then 1 else 0
  buffers : Event.wrote true ∉ trace
  fresh : requestCount trace < 2 ^ 32 →
    FreshTokens request (requestCount trace) (completedTokens trace)

namespace Owned

variable {shared : Bool} {request : Request} {trace : List Event}

theorem init : Owned shared Driver.init.request [] where
  bus := rfl
  transfer := nofun
  token := by decide
  balance := by simp [lockBalance, Driver.request, Driver.init]
  buffers := List.not_mem_nil
  fresh _ := ⟨rfl, nofun, nofun, .nil⟩

/-- Events that say nothing of ownership. -/
theorem retrace {later : List Event} (owned : Owned shared request trace)
    (balance : lockBalance later = lockBalance trace)
    (count : requestCount later = requestCount trace)
    (completed : completedTokens later = completedTokens trace)
    (buffers : Event.wrote true ∈ later → Event.wrote true ∈ trace) :
    Owned shared request later where
  bus := owned.bus
  transfer := owned.transfer
  token := owned.token
  balance := balance.trans owned.balance
  buffers := fun written ↦ owned.buffers (buffers written)
  fresh := by rw [count, completed]; exact owned.fresh

theorem plain {event : Event} (owned : Owned shared request trace)
    (plain : event.plain = true) : Owned shared request (event :: trace) := by
  cases event <;>
    first
      | exact owned.retrace rfl rfl rfl fun written ↦ by simpa using written
      | cases plain

theorem idle (owned : Owned shared request trace)
    (free : request.pending = false) : request.asyncActive = false := by
  by_contra active
  exact absurd (owned.transfer (by simpa using active)) (by simp [free])

/-- The frame of a request that is staged, and what is recorded of it. -/
theorem stage (owned : Owned shared request trace)
    (free : request.pending = false) (length : UInt16) (txBuf : List UInt8)
    {token : UInt32}
    (next : token = if request.nextToken + 1 = 0 then 1 else request.nextToken + 1) :
    Owned shared
      { request with
        pending := true
        token := token
        nextToken := token
        length := length
        txBuf := txBuf }
      (.staged token :: .wrote request.asyncActive :: trace) := by
  have idle := owned.idle free
  have nonzero : token ≠ 0 := by
    rw [next]
    split
    · decide
    · assumption
  have count : requestCount (.staged token :: .wrote request.asyncActive :: trace) =
      requestCount trace + 1 := by
    simp [requestCount, List.countP_cons, Event.isStaged]
  have completed : completedTokens
      (.staged token :: .wrote request.asyncActive :: trace) =
        completedTokens trace := rfl
  refine ⟨owned.bus, fun _ ↦ rfl, ⟨fun _ ↦ nonzero, fun _ ↦ rfl⟩, ?_, ?_, ?_⟩
  · exact owned.balance
  · rw [idle]
    simpa using owned.buffers
  · rw [count, completed]
    intro few
    obtain ⟨next_eq, -, past, distinct⟩ := owned.fresh (by omega)
    have token_eq : token.toNat = requestCount trace + 1 := by
      have sum : (request.nextToken + 1).toNat = requestCount trace + 1 := by
        rw [UInt32.toNat_add, next_eq]
        exact Nat.mod_eq_of_lt few
      rw [next, if_neg (fun zero ↦ by simp [zero] at sum), sum]
    refine ⟨token_eq, fun _ ↦ ⟨rfl, fun member ↦ ?_⟩,
      fun other member ↦ (past other member).trans (Nat.le_succ _), distinct⟩
    have bound : token.toNat ≤ requestCount trace := past _ member
    omega

/-- The request is given up, with or without a record of its completion. -/
theorem withdraw (owned : Owned shared request trace) (nextLength : UInt16)
    {later : List Event}
    (balance : lockBalance later =
      lockBalance trace - if shared && request.asyncActive then 1 else 0)
    (count : requestCount later = requestCount trace)
    (completed : completedTokens later = completedTokens trace ∨
      request.pending = true ∧
        completedTokens later = request.token :: completedTokens trace)
    (buffers : Event.wrote true ∈ later → Event.wrote true ∈ trace) :
    Owned shared
      { request with
        locked := request.locked && !request.asyncActive
        asyncActive := false
        pending := false
        token := 0
        length := nextLength } later where
  bus := by rw [owned.bus]; simp
  transfer := nofun
  token := by simp
  balance := by
    rw [balance, owned.balance, owned.bus]
    cases shared <;> cases request.asyncActive <;> simp
  buffers := fun written ↦ owned.buffers (buffers written)
  fresh few := by
    rw [count] at few ⊢
    obtain ⟨next, current, past, distinct⟩ := owned.fresh few
    rcases completed with same | ⟨pending, newest⟩
    · rw [same]
      exact ⟨next, nofun, past, distinct⟩
    · rw [newest]
      obtain ⟨token, unspent⟩ := current pending
      refine ⟨next, nofun, ?_, List.nodup_cons.mpr ⟨unspent, distinct⟩⟩
      simp only [List.forall_mem_cons]
      exact ⟨by rw [token, next], past⟩

/-- A change of the transmit buffer alone. -/
theorem rebuffer (owned : Owned shared request trace) (txBuf : List UInt8) :
    Owned shared { request with txBuf := txBuf } trace where
  bus := owned.bus
  transfer := owned.transfer
  token := owned.token
  balance := owned.balance
  buffers := owned.buffers
  fresh few := by
    obtain ⟨next, current, past, distinct⟩ := owned.fresh few
    exact ⟨next, current, past, distinct⟩

/-- A change of the bus flags alone. -/
theorem rebus {later : List Event} (owned : Owned shared request trace)
    (held : Bool) (pending : held = true → request.pending = true)
    (balance : lockBalance later = if shared && held then 1 else 0)
    (count : requestCount later = requestCount trace)
    (completed : completedTokens later = completedTokens trace)
    (buffers : Event.wrote true ∈ later → Event.wrote true ∈ trace) :
    Owned shared { request with locked := held, asyncActive := held } later where
  bus := rfl
  transfer := pending
  token := owned.token
  balance := balance
  buffers := fun written ↦ owned.buffers (buffers written)
  fresh few := by
    rw [count] at few ⊢
    rw [completed]
    obtain ⟨next, current, past, distinct⟩ := owned.fresh few
    exact ⟨next, current, past, distinct⟩

end Owned

/-! ## Traces of the bus -/

variable {κ : Type*} {platform : Platform κ} {policy : Policy}
  {world next : World κ}

/-- What acquiring the bus records. -/
def Platform.lockEvents (platform : Platform κ) : List Event :=
  if platform.sharing.isSome then [.locked] else []

/-- What releasing the bus records. -/
def Platform.unlockEvents (platform : Platform κ) : List Event :=
  if platform.sharing.isSome then [.unlocked] else []

theorem busAcquire_refused_trace (busy : (busAcquire platform world).1 ≠ .ok) :
    (busAcquire platform world).2.trace = world.trace := by
  unfold busAcquire at busy ⊢
  split at busy <;> rename_i locked
  · rw [if_pos locked]
  · rw [if_neg locked]
    cases sharing : platform.sharing with
    | none => simp [sharing] at busy
    | some hooks =>
        by_cases answered : (hooks.lock world.context spiTimeoutMs).1 = .ok
        · simp [sharing, answered] at busy
        · simp [answered]

theorem busAcquire_ok_trace (acquired : (busAcquire platform world).1 = .ok) :
    (busAcquire platform world).2.trace = platform.lockEvents ++ world.trace := by
  unfold busAcquire Platform.lockEvents at *
  split at acquired <;> rename_i locked
  · cases acquired
  · rw [if_neg locked]
    cases sharing : platform.sharing with
    | none => rfl
    | some hooks =>
        by_cases answered : (hooks.lock world.context spiTimeoutMs).1 = .ok
        · simp [answered]
        · simp [sharing, answered] at acquired

theorem busRelease_trace :
    (busRelease platform world).trace =
      (if world.driver.spiBusLocked then platform.unlockEvents else []) ++
        world.trace := by
  unfold busRelease Platform.unlockEvents
  split
  · cases platform.sharing <;> rfl
  · rfl

variable (platform world) in
theorem spiXfer_trace (token : Option UInt32) (tx : List UInt8) :
    (spiXfer platform token tx world).2.trace = world.trace ∨
      (spiXfer platform token tx world).2.trace =
        platform.unlockEvents ++
          .frame token tx world.driver.eventTimingActive ::
            (platform.lockEvents ++ world.trace) := by
  unfold spiXfer
  by_cases acquired : (busAcquire platform world).1 = .ok
  · right
    simp [acquired, busRelease_trace, (busAcquire_ok acquired).2,
      busAcquire_ok_trace acquired]
  · left
    simp only [ne_eq, acquired, not_false_eq_true, if_true]
    exact busAcquire_refused_trace acquired

theorem cancelTransfer_trace :
    (cancelTransfer platform world).trace = world.trace := by
  unfold cancelTransfer
  cases platform.async <;> rfl

theorem cancelPendingSpi_trace :
    (cancelPendingSpi platform world).trace =
      (if world.driver.spiAsyncActive && world.driver.spiBusLocked then
        platform.unlockEvents else []) ++ world.trace := by
  unfold cancelPendingSpi
  by_cases active : world.driver.spiAsyncActive = true
  · obtain ⟨cancels, errors, cancelled⟩ := cancelTransfer_driver platform world
    cases locked : world.driver.spiBusLocked <;>
      simp [active, locked, disownTransfer, busRelease_trace, cancelled,
        cancelTransfer_trace]
  · simp [active]

theorem completeRequest_trace :
    (completeRequest platform world).trace =
      .completed world.driver.spiToken ::
        ((if world.driver.spiAsyncActive && world.driver.spiBusLocked then
          platform.unlockEvents else []) ++ world.trace) := by
  unfold completeRequest
  by_cases active : world.driver.spiAsyncActive = true
  · cases locked : world.driver.spiBusLocked <;>
      simp [active, locked, disownTransfer, busRelease_trace]
  · simp [active]

/-! ## Moves keep ownership -/

variable (platform) in
/-- The summary of a trace after the events of a released bus. -/
theorem unlockEvents_summary (trace : List Event) (released : Bool) :
    lockBalance ((if released then platform.unlockEvents else []) ++ trace) =
        lockBalance trace - (if platform.sharing.isSome && released then 1 else 0) ∧
      requestCount ((if released then platform.unlockEvents else []) ++ trace) =
        requestCount trace ∧
      completedTokens ((if released then platform.unlockEvents else []) ++ trace) =
        completedTokens trace ∧
      (Event.wrote true ∈
        (if released then platform.unlockEvents else []) ++ trace →
          Event.wrote true ∈ trace) := by
  unfold Platform.unlockEvents lockBalance requestCount completedTokens
  cases released <;> cases platform.sharing.isSome <;>
    simp [Event.isStaged, Event.completedToken, List.filterMap_cons,
      sub_add_eq_sub_sub]

theorem completed_summary (token : UInt32) (trace : List Event) :
    lockBalance (.completed token :: trace) = lockBalance trace ∧
      requestCount (.completed token :: trace) = requestCount trace ∧
      completedTokens (.completed token :: trace) =
        token :: completedTokens trace ∧
      (Event.wrote true ∈ .completed token :: trace →
        Event.wrote true ∈ trace) := by
  simp [lockBalance, requestCount, completedTokens, Event.isStaged,
    Event.completedToken]

variable (platform) in
theorem lockEvents_summary (trace : List Event) :
    lockBalance (platform.lockEvents ++ trace) =
        lockBalance trace + (if platform.sharing.isSome then 1 else 0) ∧
      requestCount (platform.lockEvents ++ trace) = requestCount trace ∧
      completedTokens (platform.lockEvents ++ trace) = completedTokens trace ∧
      (Event.wrote true ∈ platform.lockEvents ++ trace →
        Event.wrote true ∈ trace) := by
  unfold Platform.lockEvents lockBalance requestCount completedTokens
  cases platform.sharing.isSome <;>
    simp [Event.isStaged, Event.completedToken, List.filterMap_cons,
      sub_add_eq_add_sub]

/-- The invariant of a world. -/
def World.Owned (platform : Platform κ) (world : World κ) : Prop :=
  Max35103.Owned platform.sharing.isSome world.driver.request world.trace

variable (platform) in
/-- What a frame records, between the events of its bus. -/
theorem frame_summary (trace : List Event) (token : Option UInt32)
    (tx : List UInt8) (active : Bool) :
    lockBalance (platform.unlockEvents ++
        .frame token tx active :: (platform.lockEvents ++ trace)) =
        lockBalance trace ∧
      requestCount (platform.unlockEvents ++
        .frame token tx active :: (platform.lockEvents ++ trace)) =
          requestCount trace ∧
      completedTokens (platform.unlockEvents ++
        .frame token tx active :: (platform.lockEvents ++ trace)) =
          completedTokens trace ∧
      (Event.wrote true ∈ platform.unlockEvents ++
        .frame token tx active :: (platform.lockEvents ++ trace) →
          Event.wrote true ∈ trace) := by
  unfold Platform.unlockEvents Platform.lockEvents lockBalance requestCount
    completedTokens
  cases platform.sharing.isSome <;>
    simp [Event.isStaged, Event.completedToken, List.filterMap_cons]

/-- A request withdrawn from a world, whatever is recorded of it. -/
theorem World.Owned.withdrawn (owned : world.Owned platform)
    (request : next.driver.request =
      { world.driver.request with
        locked := world.driver.spiBusLocked && !world.driver.spiAsyncActive
        asyncActive := false
        pending := false
        token := 0
        length := 0 })
    (recorded : next.trace =
        (if world.driver.spiAsyncActive && world.driver.spiBusLocked then
          platform.unlockEvents else []) ++ world.trace ∨
      world.driver.spiPending = true ∧
        next.trace = .completed world.driver.spiToken ::
          ((if world.driver.spiAsyncActive && world.driver.spiBusLocked then
            platform.unlockEvents else []) ++ world.trace)) :
    next.Owned platform := by
  have bus : world.driver.spiBusLocked = world.driver.spiAsyncActive := owned.bus
  have released : (world.driver.spiAsyncActive && world.driver.spiBusLocked) =
      world.driver.spiAsyncActive := by rw [bus, Bool.and_self]
  obtain ⟨balance, count, completed, buffers⟩ := unlockEvents_summary
    platform world.trace world.driver.spiAsyncActive
  rw [released] at recorded
  unfold World.Owned
  rw [request]
  rcases recorded with recorded | ⟨pending, recorded⟩ <;> rw [recorded]
  · exact Max35103.Owned.withdraw owned 0 balance count (.inl completed) buffers
  · obtain ⟨balance', count', completed', buffers'⟩ := completed_summary
      world.driver.spiToken ((if world.driver.spiAsyncActive then
        platform.unlockEvents else []) ++ world.trace)
    exact Max35103.Owned.withdraw owned 0 (balance'.trans balance)
      (count'.trans count)
      (.inr ⟨pending, completed'.trans (congrArg _ completed)⟩)
      (buffers ∘ buffers')

theorem Move.owned (move : Move platform policy world next)
    (owned : world.Owned platform) : next.Owned platform := by
  cases move with
  | adjust keeps =>
      unfold World.Owned
      rw [World.set_driver, World.set_trace, keeps.request]
      exact owned
  | note plain => exact Max35103.Owned.plain owned plain
  | tick => exact owned
  | wait => exact owned
  | pin => exact owned
  | @transfer world token tx permits =>
      unfold World.Owned
      rw [(spiXfer_driver platform world token tx).request]
      rcases spiXfer_trace platform world token tx
        with same | sent
      · rw [same]
        exact owned
      · rw [sent]
        obtain ⟨balance, count, completed, buffers⟩ := frame_summary
          platform world.trace token tx
          world.driver.eventTimingActive
        exact Max35103.Owned.retrace owned balance count completed buffers
  | @buffers world tx rx free =>
      have idle : world.driver.spiAsyncActive = false :=
        Max35103.Owned.idle owned free
      have written : Max35103.Owned platform.sharing.isSome world.driver.request
          (.wrote world.driver.spiAsyncActive :: world.trace) := by
        refine Max35103.Owned.retrace owned rfl rfl rfl ?_
        rw [idle]
        exact fun member ↦ by simpa using member
      exact written.rebuffer _
  | @stage world frame free short reads spares =>
      exact Max35103.Owned.stage owned free _ _ rfl
  | @drain world free =>
      refine Max35103.Owned.retrace
        (Max35103.Owned.stage owned free (UInt16.ofNat 3)
          (overwrite [regIntStatus, 0, 0] world.driver.txBuf) rfl) rfl rfl rfl ?_
      exact fun member ↦ (List.mem_cons.mp member).resolve_left nofun
  | @complete world pending =>
      exact owned.withdrawn (by rw [completeRequest_driver]; rfl)
        (.inr ⟨pending, completeRequest_trace⟩)
  | abandon world =>
      obtain ⟨cancels, errors, cancelled⟩ := cancelPendingSpi_driver platform world
      exact owned.withdrawn (by rw [cancelled]; rfl) (.inl cancelPendingSpi_trace)
  | @refused world busy =>
      unfold World.Owned
      rw [(busAcquire_refused busy).request, busAcquire_refused_trace busy]
      exact owned
  | @launch world hooks hook pending acquired =>
      obtain ⟨free, driver⟩ := busAcquire_ok acquired
      have idle : world.driver.spiAsyncActive = false :=
        (Max35103.Owned.bus owned).symm.trans free
      obtain ⟨balance, count, completed, buffers⟩ :=
        lockEvents_summary platform world.trace
      have before : lockBalance world.trace = 0 := by
        have unlocked := Max35103.Owned.balance owned
        simpa [Driver.request, free] using unlocked
      have launched := Max35103.Owned.rebus owned true (fun _ ↦ pending)
        (by rw [balance, before, zero_add, Bool.and_true]) count completed buffers
      unfold World.Owned Max35103.launch
      simp only [World.set_driver, World.set_trace, driver,
        busAcquire_ok_trace acquired]
      exact launched.retrace rfl rfl rfl fun member ↦
        (List.mem_cons.mp member).resolve_left nofun
  | disown world =>
      obtain ⟨balance, count, completed, buffers⟩ := unlockEvents_summary
        platform world.trace world.driver.spiBusLocked
      have held := Max35103.Owned.balance owned
      have disowned := Max35103.Owned.rebus owned false nofun
        (by rw [balance, held]; simp [Driver.request]) count completed buffers
      unfold World.Owned
      rw [disownTransfer_driver, disownTransfer, busRelease_trace]
      exact disowned

theorem Moves.owned (moves : Moves platform policy world next)
    (owned : world.Owned platform) : next.Owned platform := by
  induction moves with
  | refl => exact owned
  | tail _ move ih => exact move.owned ih

/-! ## The staged frame -/

/-- The pending request only reads, and reads `INT_STATUS` for a drain. -/
def World.StagedRead (world : World κ) : Prop :=
  world.driver.spiPending = true →
    writesConfiguration world.driver.pendingFrame = false ∧
      (coversIntStatus world.driver.pendingFrame = true →
        .drain world.driver.spiToken ∈ world.trace)

theorem World.StagedRead.runs (staged : world.StagedRead) :
    policy.Runs world :=
  fun pending ↦ ⟨fun _ ↦ (staged pending).1,
    fun _ _ covers ↦ ⟨_, rfl, (staged pending).2 covers⟩⟩

/-- The same request, with at least the same trace. -/
theorem World.StagedRead.retrace (staged : world.StagedRead)
    (pending : next.driver.spiPending = world.driver.spiPending)
    (token : next.driver.spiToken = world.driver.spiToken)
    (frame : next.driver.pendingFrame = world.driver.pendingFrame)
    (grown : world.trace ⊆ next.trace) : next.StagedRead := by
  intro isPending
  rw [pending] at isPending
  rw [token, frame]
  exact (staged isPending).imp_right fun drained covers ↦ grown (drained covers)

theorem World.StagedRead.free (free : world.driver.spiPending = false) :
    world.StagedRead :=
  fun pending ↦ absurd pending (by simp [free])

theorem pendingFrame_of_request {before after : Driver}
    (request : after.request = before.request) :
    after.spiPending = before.spiPending ∧ after.spiToken = before.spiToken ∧
      after.pendingFrame = before.pendingFrame := by
  refine ⟨congrArg Request.pending request, congrArg Request.token request, ?_⟩
  exact congrArg (fun r : Request ↦ r.txBuf.take r.length.toNat) request

/-- The request that is staged has the frame that was asked for. -/
theorem stageRequest_pendingFrame {frame : List UInt8}
    (short : frame.length ≤ maxSpiFrameBytes) :
    (stageRequest frame world).driver.pendingFrame = frame := by
  have length : (UInt16.ofNat frame.length).toNat = frame.length :=
    UInt16.toNat_ofNat_of_lt' (lt_of_le_of_lt short (by decide))
  change (overwrite frame world.driver.txBuf).take
    (UInt16.ofNat frame.length).toNat = frame
  rw [length]
  simp [overwrite]

theorem Move.stagedRead (move : Move platform policy world next)
    (staged : world.StagedRead) : next.StagedRead := by
  cases move with
  | adjust keeps =>
      obtain ⟨pending, token, frame⟩ := pendingFrame_of_request keeps.request
      exact staged.retrace pending token frame fun _ member ↦ member
  | note => exact staged.retrace rfl rfl rfl (List.subset_cons_self _ _)
  | tick => exact staged
  | wait => exact staged
  | pin => exact staged
  | @transfer world token tx permits =>
      obtain ⟨pending, token', frame⟩ := pendingFrame_of_request
        (spiXfer_driver platform world token tx).request
      refine staged.retrace pending token' frame fun event member ↦ ?_
      rcases spiXfer_trace platform world token tx
        with same | sent
      · rwa [same]
      · rw [sent]
        simp [member]
  | buffers tx rx free => exact .free free
  | stage free short reads spares =>
      intro _
      rw [stageRequest_pendingFrame short]
      exact ⟨reads, fun covers ↦ absurd covers (by simp [spares])⟩
  | @drain world free =>
      intro _
      rw [World.note_driver, stageRequest_pendingFrame (by decide)]
      exact ⟨by decide, fun _ ↦ List.mem_cons_self⟩
  | complete pending => exact .free (by rw [completeRequest_driver]; rfl)
  | abandon world =>
      obtain ⟨cancels, errors, cancelled⟩ := cancelPendingSpi_driver platform world
      exact .free (by rw [cancelled]; rfl)
  | @refused world busy =>
      obtain ⟨pending, token, frame⟩ :=
        pendingFrame_of_request (busAcquire_refused busy).request
      exact staged.retrace pending token frame fun _ member ↦ by
        rwa [busAcquire_refused_trace busy]
  | @launch world hooks hook pending acquired =>
      obtain ⟨free, driver⟩ := busAcquire_ok acquired
      refine staged.retrace ?_ ?_ ?_ fun event member ↦ ?_
      · simp [Max35103.launch, driver]
      · simp [Max35103.launch, driver]
      · simp [Max35103.launch, driver, Driver.pendingFrame]
      · simp [Max35103.launch, busAcquire_ok_trace acquired, member]
  | disown world =>
      refine staged.retrace ?_ ?_ ?_ fun event member ↦ ?_
      · simp
      · simp
      · simp [Driver.pendingFrame]
      · simp [disownTransfer, busRelease_trace, member]

theorem Moves.stagedRead (moves : Moves platform policy world next)
    (staged : world.StagedRead) : next.StagedRead := by
  induction moves with
  | refl => exact staged
  | tail _ move ih => exact move.stagedRead ih

/-! ## Runs -/

/-- The policy that forbids nothing. -/
def Policy.free : Policy := { writes := true, halting := true }

theorem Policy.free_allows (op : Op) : Policy.free.Allows op := by
  cases op <;> trivial

theorem Reachable.stagedRead (reached : Reachable platform world) :
    world.StagedRead := by
  induction reached with
  | init context => exact .free rfl
  | step op reached stepped ih =>
      have moves := moves_of_step (Policy.free_allows op) ih.runs stepped
      exact moves.stagedRead ih

theorem Reachable.moves {op : Op} (reached : Reachable platform world)
    (allowed : policy.Allows op)
    (stepped : Max35103.step platform world op = some next) :
    Moves platform policy world next :=
  moves_of_step allowed reached.stagedRead.runs stepped

theorem Reachable.owned (reached : Reachable platform world) :
    world.Owned platform := by
  induction reached with
  | init context => exact Max35103.Owned.init
  | step op reached stepped ih =>
      exact (reached.moves (Policy.free_allows op) stepped).owned ih

/-- A completion of anything but the pending request is counted, and that is
all. -/
theorem onSpiDone_stale {token : UInt32} {transferOk : Bool}
    (stale : world.driver.spiPending = false ∨ token ≠ world.driver.spiToken) :
    onSpiDone platform token transferOk world =
      world.set { world.driver with
        staleSpiCompletionCount := world.driver.staleSpiCompletionCount + 1 } := by
  unfold onSpiDone
  exact if_pos (stale.imp_right .inr)

/-- Ownership of the SPI bus is exact between the calls of every run. -/
theorem spi_ownership_exact (reached : Reachable platform world)
    (few : requestCount world.trace < 2 ^ 32) :
    (world.driver.spiBusLocked = world.driver.spiAsyncActive) ∧
      (world.driver.spiAsyncActive = true → world.driver.spiPending = true) ∧
      (world.driver.spiPending = true ↔ world.driver.spiToken ≠ 0) ∧
      lockBalance world.trace =
        (if platform.sharing.isSome && world.driver.spiBusLocked then 1 else 0) ∧
      Event.wrote true ∉ world.trace ∧
      (∀ token transferOk,
        world.driver.spiPending = false ∨ token ≠ world.driver.spiToken →
          onSpiDone platform token transferOk world =
            world.set { world.driver with
              staleSpiCompletionCount :=
                world.driver.staleSpiCompletionCount + 1 }) ∧
      (completedTokens world.trace).Nodup := by
  have owned := reached.owned
  exact ⟨owned.bus, owned.transfer, owned.token, owned.balance, owned.buffers,
    fun _ _ ↦ onSpiDone_stale, (owned.fresh few).distinct⟩

/-- The status drain of an event runs, and a late completion is not its own. -/
theorem spi_ownership_exact_bench :
    ∃ world : World Bench,
      runOps benchPlatform (benchStart [0x0004, 0x0008])
        [.resetDevice 3, .configure benchProfile, .startEventTiming,
          .onInt 1000, .startPendingSpiAsync, .onSpiDone 9 true] = some world ∧
      world.driver.spiBusLocked = true ∧ lockBalance world.trace = 1 ∧
        onSpiDone benchPlatform 2 true world = world.set { world.driver with
          staleSpiCompletionCount :=
            world.driver.staleSpiCompletionCount + 1 } := by
  obtain ⟨world, reached, held, run⟩ := benchRun [0x0004, 0x0008]
    [.resetDevice 3, .configure benchProfile, .startEventTiming,
      .onInt 1000, .startPendingSpiAsync, .onSpiDone 9 true]
    (fun world ↦ world.driver.spiBusLocked && world.driver.spiToken == 1 &&
      decide (requestCount world.trace < 2 ^ 32)) (by decide +kernel)
  simp only [Bool.and_eq_true, beq_iff_eq, decide_eq_true_eq] at held
  obtain ⟨⟨locked, token⟩, few⟩ := held
  obtain ⟨-, -, -, balance, -, stale, -⟩ := spi_ownership_exact reached few
  refine ⟨world, run, locked, ?_, stale 2 true (.inr ?_)⟩
  · rw [balance, locked]
    rfl
  · rw [token]
    decide

end Swfpm.Max35103
