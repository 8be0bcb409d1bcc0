import Swfpm.Bus.Stm32Port
import Swfpm.Bus.ExactlyOnce

/-!
# What the bus says of a transfer is what the HAL did

Bus and adapter show the phase of the peripheral at every moment of a run: the
bus is busy exactly while a transfer runs, and an adapter that is active under a
free bus holds a transfer that was given up.
-/

namespace Swfpm

open AsyncTransfer (Operation Phase phase outcomes late Orderly)

/-! ## One call of the port -/

namespace Stm32I2cAdapter

variable {adapter : Stm32I2cAdapter} {answer : Stm32AsyncHalStatus}

theorem mapHal_eq_ok_iff : mapHal answer = .ok ↔ answer = .ok := by
  cases answer <;> decide

theorem submit_of_active (hactive : adapter.active = true)
    (request : I2cPortRequest) :
    adapter.submit answer request = (.busy, adapter) :=
  if_pos hactive

theorem submit_of_idle (hidle : adapter.active = false)
    (request : I2cPortRequest) :
    adapter.submit answer request =
      if answer = .ok then (.ok, ⟨request, true⟩) else (mapHal answer, adapter) := by
  unfold submit
  rw [hidle, if_neg Bool.false_ne_true, ite_not]

theorem submit_eq_ok_iff (request : I2cPortRequest) :
    (adapter.submit answer request).1 = .ok ↔
      adapter.active = false ∧ answer = .ok := by
  cases hactive : adapter.active with
  | true => simp [submit_of_active hactive]
  | false =>
      rw [submit_of_idle hactive]
      split_ifs with hanswer
      · simp [hanswer]
      · simp [hanswer, mapHal_eq_ok_iff]

theorem owns_iff {transactionId busGeneration : UInt32} :
    adapter.owns transactionId busGeneration = true ↔
      adapter.active = true ∧
        adapter.activeRequest.transactionId = transactionId ∧
        adapter.activeRequest.busGeneration = busGeneration := by
  simp [owns, and_assoc]

theorem cancel_of_owned {transactionId busGeneration : UInt32}
    (howned : adapter.owns transactionId busGeneration = true) :
    (adapter.cancel answer transactionId busGeneration).2 =
      if answer = .ok then { adapter with active := false } else adapter := by
  unfold cancel
  rw [howned, if_neg (by simp)]
  simp only [mapHal_eq_ok_iff]
  split_ifs <;> rfl

theorem onComplete_of_idle (hidle : adapter.active = false) :
    adapter.onComplete = (none, adapter) := by
  rw [onComplete, hidle]
  rfl

theorem onComplete_of_active (hactive : adapter.active = true) :
    adapter.onComplete =
      (some adapter.activeRequest, { adapter with active := false }) := by
  rw [onComplete, hactive]
  rfl

theorem recover_eq :
    (adapter.recover answer).2 =
      if answer = .ok then { adapter with active := false } else adapter := by
  unfold recover
  simp only [mapHal_eq_ok_iff]
  split_ifs <;> rfl

end Stm32I2cAdapter

/-! ## The phase that bus and adapter show -/

/-- Bus and adapter between two port calls, by the phase of the peripheral. -/
inductive ShowsPhase : Phase I2cPortRequest → Stm32I2cAdapter → I2cBusManager →
    Prop where
  | idle {adapter : Stm32I2cAdapter} {bus : I2cBusManager}
      (inactive : adapter.active = false) (free : bus.busy = false) :
      ShowsPhase .idle adapter bus
  | running {adapter : Stm32I2cAdapter} {bus : I2cBusManager}
      (active : adapter.active = true) (busy : bus.busy = true)
      (request : adapter.activeRequest = bus.active.portRequest)
      (known : bus.active.clientId ∈ bus.clients.map (·.clientId))
      (current : bus.active.busGeneration = bus.busGeneration) :
      ShowsPhase (.running bus.active.portRequest) adapter bus
  | abandoned {adapter : Stm32I2cAdapter} {bus : I2cBusManager}
      (active : adapter.active = true) (free : bus.busy = false) :
      ShowsPhase (.abandoned adapter.activeRequest) adapter bus

namespace ShowsPhase

variable {seen : Phase I2cPortRequest} {adapter : Stm32I2cAdapter}
  {bus bus' : I2cBusManager}

/-- The phase reads the holder of the bus and its client. -/
theorem of_bus (hshows : ShowsPhase seen adapter bus)
    (hholder : I2cBus.SameHolder bus bus')
    (hclients : bus.clients.map (·.clientId) ⊆ bus'.clients.map (·.clientId)) :
    ShowsPhase seen adapter bus' := by
  cases hshows with
  | idle inactive free => exact .idle inactive (hholder.busy.trans free)
  | running active busy request known current =>
      rw [← hholder.active] at request known current ⊢
      exact .running active (hholder.busy.trans busy) request (hclients known)
        (current.trans hholder.busGeneration.symm)
  | abandoned active free => exact .abandoned active (hholder.busy.trans free)

/-- A free bus over an idle or an abandoned peripheral. -/
theorem of_free (hshows : ShowsPhase seen adapter bus) (hfree : bus.busy = false)
    (hstill : bus'.busy = false) : ShowsPhase seen adapter bus' := by
  cases hshows with
  | idle inactive free => exact .idle inactive hstill
  | running active busy =>
      rw [hfree] at busy
      exact absurd busy Bool.false_ne_true
  | abandoned active free => exact .abandoned active hstill

theorem busy_iff (hshows : ShowsPhase seen adapter bus) :
    bus.busy = true ↔ ∃ request, seen = .running request := by
  cases hshows with
  | idle inactive free => simp [free]
  | running active busy => simp [busy]
  | abandoned active free => simp [free]

theorem active_iff (hshows : ShowsPhase seen adapter bus) :
    adapter.active = true ↔ seen ≠ .idle := by
  cases hshows with
  | idle inactive free => simp [inactive]
  | running active busy => simp [active]
  | abandoned active free => simp [active]

theorem eq_idle_iff (hshows : ShowsPhase seen adapter bus) :
    seen = .idle ↔ adapter.active = false := by
  rw [← Bool.not_eq_true, hshows.active_iff, not_not]

/-- The bus gives the peripheral up, which grants it or not. -/
theorem givenUp (hshows : ShowsPhase seen adapter bus) (done : Bool)
    (hfree : bus'.busy = false) :
    ShowsPhase (if done then .idle else seen.giveUp)
      (if done then { adapter with active := false } else adapter) bus' := by
  cases done with
  | true => exact .idle rfl hfree
  | false =>
      cases hshows with
      | idle inactive free => exact .idle inactive hfree
      | running active busy request =>
          rw [← request]
          exact .abandoned active hfree
      | abandoned active free => exact .abandoned active hfree

end ShowsPhase

/-! ## What the clients are told -/

namespace I2cBus

/-- The transactions whose clients were told of a success. -/
def successes (trace : List BusEvent) : List CompletionKey :=
  trace.filterMap fun
    | .notified completion =>
        if completion.result = .ok then
          some ⟨completion.transactionId, completion.correlationId,
            completion.clientGeneration, completion.busGeneration⟩
        else none
    | _ => none

theorem successes_inner {busy : Bool} {event : BusEvent}
    (hinner : Inner busy event) (trace : List BusEvent) :
    successes (event :: trace) = successes trace := by
  cases event with
  | notified completion => simp [successes, show completion.result ≠ .ok from hinner]
  | issued | portSubmit | portCancel | portRecover | accepted => rfl

theorem PortStep.successes {env : BusEnvironment} {world next : BusWorld}
    (hstep : PortStep env world next) :
    I2cBus.successes next.trace = I2cBus.successes world.trace := by
  cases hstep with
  | silent _ _ trace => rw [trace]
  | inner event within _ _ trace => rw [trace, successes_inner within]
  | refused _ _ _ _ _ trace => rw [trace]; rfl
  | started _ _ _ _ _ _ trace => rw [trace]; rfl
  | cancelled _ _ _ trace => rw [trace]; rfl
  | recovered _ _ trace => rw [trace]; rfl

end I2cBus

def I2cPortRequest.key (request : I2cPortRequest) : I2cBus.CompletionKey :=
  ⟨request.transactionId, request.correlationId, request.clientGeneration,
    request.busGeneration⟩

/-- The transfers that the HAL completed without a fault. -/
def flawless (done : List (I2cPortRequest × PortStatus)) :
    List I2cBus.CompletionKey :=
  done.filterMap fun transfer =>
    if transfer.2 = .ok then some transfer.1.key else none

theorem flawless_cons (request : I2cPortRequest) (result : PortStatus)
    (done : List (I2cPortRequest × PortStatus)) :
    flawless ((request, result) :: done) =
      if result = .ok then request.key :: flawless done else flawless done := by
  by_cases hresult : result = .ok <;> simp [flawless, hresult]

/-! ## The HAL during a call -/

namespace Stm32I2cHal

variable {hal : Stm32I2cHal} {adapter : Stm32I2cAdapter} {before : List BusEvent}

theorem serve_inner {busy : Bool} {event : BusEvent}
    (hinner : I2cBus.Inner busy event) : hal.serve before adapter event = adapter := by
  cases event with
  | issued | accepted | notified => rfl
  | portSubmit | portCancel | portRecover => exact hinner.elim

theorem asks_inner {busy : Bool} {event : BusEvent}
    (hinner : I2cBus.Inner busy event) : hal.asks before adapter event = [] := by
  cases event with
  | issued | accepted | notified => rfl
  | portSubmit | portCancel | portRecover => exact hinner.elim

theorem asks_portSubmit (request : I2cPortRequest) (status : PortStatus) :
    hal.asks before adapter (.portSubmit request status) =
      if adapter.active then []
      else [.start request (hal.start before request = .ok)] :=
  rfl

theorem asks_portCancel (transactionId busGeneration : UInt32) :
    hal.asks before adapter (.portCancel transactionId busGeneration) =
      if adapter.owns transactionId busGeneration then
        [.cancel (hal.cancel before = .ok)]
      else [] :=
  rfl

/-- Port calls ask; they report nothing. -/
theorem not_completed_asks (event : BusEvent) (result : PortStatus) :
    .completed result ∉ hal.asks before adapter event := by
  cases event with
  | issued | accepted | notified => simp [asks]
  | portSubmit request status =>
      rw [asks_portSubmit]
      split_ifs <;> simp
  | portCancel transactionId busGeneration =>
      rw [asks_portCancel]
      split_ifs <;> simp
  | portRecover busGeneration => simp [asks]

end Stm32I2cHal

/-! ## The invariant -/

namespace I2cBoard

structure Consistent (board : I2cBoard) : Prop where
  port : board.bus.port = ⟨true, true, true⟩
  callbacks : ∀ client ∈ board.bus.clients, client.onComplete = true
  shows : ShowsPhase (phase board.log) board.adapter board.bus
  orderly : Orderly board.log
  told : I2cBus.successes board.trace = flawless (outcomes board.log)
  stale : board.bus.staleCompletionCount = UInt32.ofNat (late board.log)

/-- The board while a call that began on it is at `world`. -/
def during (board : I2cBoard) (around : Surroundings) (world : BusWorld) :
    I2cBoard :=
  { bus := world.bus
    adapter := around.hal.replay board.adapter world.trace
    trace := world.trace ++ board.trace
    log := around.hal.asked board.adapter world.trace ++ board.log }

variable {board : I2cBoard} {around : Surroundings} {world next : BusWorld}

/-- A step of the bus that the port does not see. -/
theorem Consistent.inner (hboard : Consistent (board.during around world))
    (hsetup : I2cBus.SameSetup world.bus next.bus)
    (hholder : I2cBus.SameHolder world.bus next.bus)
    (hadapter : (board.during around next).adapter =
      (board.during around world).adapter)
    (hlog : (board.during around next).log = (board.during around world).log)
    (htold : I2cBus.successes (board.during around next).trace =
      I2cBus.successes (board.during around world).trace) :
    Consistent (board.during around next) := by
  have hshows := hboard.shows.of_bus hholder (by rw [hsetup.clients]; exact fun _ h => h)
  refine ⟨hsetup.port.trans hboard.port, ?_, ?_, ?_, ?_, ?_⟩
  · rw [show (board.during around next).bus.clients = _ from hsetup.clients]
    exact hboard.callbacks
  · rw [hlog, hadapter]
    exact hshows
  · rw [hlog]
    exact hboard.orderly
  · rw [hlog, htold]
    exact hboard.told
  · rw [hlog]
    exact hsetup.stale.trans hboard.stale

/-- A call of the port, which the adapter turns into requests to the HAL. -/
theorem Consistent.portCall (hboard : Consistent (board.during around world))
    {event : BusEvent} (hsetup : I2cBus.SameSetup world.bus next.bus)
    (htrace : next.trace = event :: world.trace)
    (hquiet : I2cBus.successes (event :: world.trace ++ board.trace) =
      I2cBus.successes (world.trace ++ board.trace))
    (hshows : ShowsPhase
      (phase (around.hal.asks world.trace (board.during around world).adapter event ++
        (board.during around world).log))
      (around.hal.serve world.trace (board.during around world).adapter event) next.bus)
    (horderly : Orderly
      (around.hal.asks world.trace (board.during around world).adapter event ++
        (board.during around world).log)) :
    Consistent (board.during around next) := by
  have hadapter : (board.during around next).adapter =
      around.hal.serve world.trace (board.during around world).adapter event := by
    simp only [during, htrace]
    rfl
  have hlog : (board.during around next).log =
      around.hal.asks world.trace (board.during around world).adapter event ++
        (board.during around world).log := by
    simp only [during, htrace, ← List.append_assoc]
    rfl
  refine ⟨hsetup.port.trans hboard.port, ?_, ?_, ?_, ?_, ?_⟩
  · rw [show (board.during around next).bus.clients = _ from hsetup.clients]
    exact hboard.callbacks
  · rw [hadapter, hlog]
    exact hshows
  · rw [hlog]
    exact horderly
  · rw [hlog, AsyncTransfer.outcomes_append (Stm32I2cHal.not_completed_asks event),
      ← hboard.told]
    simp only [during, htrace]
    exact hquiet
  · rw [hlog, AsyncTransfer.late_append (Stm32I2cHal.not_completed_asks event),
      ← hboard.stale]
    exact hsetup.stale

/-! ## One step -/

theorem Consistent.submitted (hboard : Consistent (board.during around world))
    {request : I2cPortRequest} {status : PortStatus}
    (hsetup : I2cBus.SameSetup world.bus next.bus)
    (hfree : world.bus.busy = false)
    (htrace : next.trace = .portSubmit request status :: world.trace)
    (hanswer : status = ((board.during around world).adapter.submit
      (around.hal.start world.trace request) request).1)
    (hnext : if status = .ok then
        next.bus.busy = true ∧ next.bus.active.portRequest = request ∧
          next.bus.active.clientId ∈ next.bus.clients.map (·.clientId) ∧
          next.bus.active.busGeneration = next.bus.busGeneration
      else next.bus.busy = false) :
    Consistent (board.during around next) := by
  have hidle := hboard.shows.eq_idle_iff
  refine hboard.portCall hsetup htrace rfl ?_ ?_
  · rw [Stm32I2cHal.asks_portSubmit]
    cases hactive : (board.during around world).adapter.active with
    | true =>
        rw [Stm32I2cAdapter.submit_of_active hactive] at hanswer
        rw [hanswer, if_neg (by simp)] at hnext
        rw [if_pos rfl, Stm32I2cHal.serve, Stm32I2cAdapter.submit_of_active hactive]
        exact hboard.shows.of_free hfree hnext
    | false =>
        rw [if_neg Bool.false_ne_true, Stm32I2cHal.serve,
          Stm32I2cAdapter.submit_of_idle hactive]
        by_cases hstart : around.hal.start world.trace request = .ok
        · rw [Stm32I2cAdapter.submit_of_idle hactive, if_pos hstart] at hanswer
          rw [hanswer, if_pos rfl] at hnext
          obtain ⟨hbusy, hrequest, hknown, hcurrent⟩ := hnext
          rw [if_pos hstart, decide_eq_true hstart]
          have hruns : ShowsPhase (.running next.bus.active.portRequest)
              ⟨request, true⟩ next.bus :=
            .running rfl hbusy hrequest.symm hknown hcurrent
          rw [hrequest] at hruns
          exact hruns
        · have hrefused : status ≠ .ok := by
            rw [hanswer, Ne, Stm32I2cAdapter.submit_eq_ok_iff]
            exact fun hok => hstart hok.2
          rw [if_neg hrefused] at hnext
          rw [if_neg hstart, decide_eq_false hstart]
          exact hboard.shows.of_free hfree hnext
  · rw [Stm32I2cHal.asks_portSubmit]
    split_ifs with hactive
    · exact hboard.orderly
    · exact ⟨hidle.mpr (Bool.eq_false_iff.mpr hactive), hboard.orderly⟩

theorem Consistent.cancelled (hboard : Consistent (board.during around world))
    (hsetup : I2cBus.SameSetup world.bus next.bus)
    (hbusy : world.bus.busy = true) (hfree : next.bus.busy = false)
    (htrace : next.trace =
      .portCancel world.bus.active.transactionId
        world.bus.active.busGeneration :: world.trace) :
    Consistent (board.during around next) := by
  obtain ⟨request, hruns⟩ := hboard.shows.busy_iff.mp hbusy
  have howned : (board.during around world).adapter.owns
      world.bus.active.transactionId world.bus.active.busGeneration = true := by
    rw [Stm32I2cAdapter.owns_iff]
    have hshows := hboard.shows
    rw [hruns] at hshows
    cases hshows with
    | running active _ hrequest =>
        rw [hrequest]
        exact ⟨active, rfl, rfl⟩
  refine hboard.portCall hsetup htrace rfl ?_ ?_
  · rw [Stm32I2cHal.asks_portCancel, if_pos howned, Stm32I2cHal.serve,
      Stm32I2cAdapter.cancel_of_owned howned]
    have hgiven := hboard.shows.givenUp
      (around.hal.cancel world.trace = .ok) hfree
    simpa [phase, Phase.after] using hgiven
  · rw [Stm32I2cHal.asks_portCancel, if_pos howned]
    exact ⟨⟨request, hruns⟩, hboard.orderly⟩

theorem Consistent.recovered (hboard : Consistent (board.during around world))
    {busGeneration : UInt32} (hsetup : I2cBus.SameSetup world.bus next.bus)
    (hfree : next.bus.busy = false)
    (htrace : next.trace = .portRecover busGeneration :: world.trace) :
    Consistent (board.during around next) := by
  refine hboard.portCall hsetup htrace rfl ?_ ⟨trivial, hboard.orderly⟩
  rw [Stm32I2cHal.serve, Stm32I2cAdapter.recover_eq]
  have hgiven := hboard.shows.givenUp
    (around.hal.recover world.trace = .ok) hfree
  simpa [phase, Phase.after, Stm32I2cHal.asks] using hgiven

/-- Whatever a step does at the port, bus and adapter show it. -/
theorem Consistent.step (hboard : Consistent (board.during around world))
    (hstep : I2cBus.PortStep (around.environment board.adapter) world next) :
    Consistent (board.during around next) := by
  cases hstep with
  | silent setup holder trace =>
      refine hboard.inner setup holder ?_ ?_ ?_
      all_goals simp only [during, trace]
  | inner event within setup holder trace =>
      refine hboard.inner setup holder ?_ ?_ ?_
      · simp only [during, trace]
        exact Stm32I2cHal.serve_inner within
      · simp only [during, trace, Stm32I2cHal.asked, Stm32I2cHal.asks_inner within]
        rfl
      · simp only [during, trace]
        exact I2cBus.successes_inner within _
  | refused request setup free still status trace =>
      exact hboard.submitted setup free trace rfl (by rwa [if_neg status])
  | started setup free busy known current status trace =>
      exact hboard.submitted setup free trace status.symm
        (by rw [if_pos rfl]; exact ⟨busy, rfl, known, current⟩)
  | cancelled setup busy free trace => exact hboard.cancelled setup busy free trace
  | recovered setup free trace => exact hboard.recovered setup free trace

theorem Consistent.steps (hboard : Consistent (board.during around world))
    (hsteps : I2cBus.PortSteps (around.environment board.adapter) world next) :
    Consistent (board.during around next) := by
  induction hsteps with
  | refl => exact hboard
  | tail _ hstep ih => exact ih.step hstep

/-! ## Calls and runs -/

theorem Consistent.operate (hboard : Consistent board)
    (operation : BusEnvironment → BusWorld → BusWorld)
    (hsteps : I2cBus.PortSteps (around.environment board.adapter) ⟨board.bus, []⟩
      (operation (around.environment board.adapter) ⟨board.bus, []⟩)) :
    Consistent (board.operate around operation) :=
  @Consistent.steps board around ⟨board.bus, []⟩ _ hboard hsteps

theorem Consistent.registerClient (hboard : Consistent board)
    (client : I2cBusClient) :
    Consistent { board with bus := (I2cBus.registerClient board.bus client).2 } := by
  unfold I2cBus.registerClient
  split_ifs with hrefused
  · exact hboard
  · refine ⟨hboard.port, ?_, ?_, hboard.orderly, hboard.told, hboard.stale⟩
    · intro other hmem
      rcases List.mem_append.mp hmem with hmem | hmem
      · exact hboard.callbacks other hmem
      · rw [List.mem_singleton.mp hmem]
        simp only [not_or] at hrefused
        simpa using hrefused.2.2.2.1
    · refine hboard.shows.of_bus ⟨rfl, rfl, rfl⟩ ?_
      rw [List.map_append]
      exact List.subset_append_left _ _

theorem Consistent.setClientGeneration (hboard : Consistent board)
    (clientId clientGeneration : UInt32) :
    Consistent
      { board with
        bus := (I2cBus.setClientGeneration board.bus clientId
          clientGeneration).2 } := by
  unfold I2cBus.setClientGeneration
  split_ifs
  · exact hboard
  · refine ⟨hboard.port, ?_, ?_, hboard.orderly, hboard.told, hboard.stale⟩
    · intro client hmem
      obtain ⟨place, hplace, rfl⟩ := List.getElem_of_mem hmem
      rw [List.getElem_modify]
      have hplace : place < board.bus.clients.length := by simpa using hplace
      have hcallback := hboard.callbacks _ (List.getElem_mem hplace)
      split_ifs <;> exact hcallback
    · refine hboard.shows.of_bus ⟨rfl, rfl, rfl⟩ ?_
      intro id hmem
      obtain ⟨client, hclient, rfl⟩ := List.mem_map.mp hmem
      obtain ⟨place, hplace, rfl⟩ := List.getElem_of_mem hclient
      refine List.mem_map.mpr ⟨_, List.getElem_mem (by simpa using hplace), ?_⟩
      rw [List.getElem_modify]
      split_ifs <;> rfl

end I2cBoard

namespace I2cBus

variable {env : BusEnvironment} {world : BusWorld}

/-- The completion that a transaction's client is told of. -/
def completionOf (transaction : I2cPendingTransaction)
    (result : I2cTransactionResult) : I2cTransactionCompletion :=
  { clientId := transaction.clientId
    transactionId := transaction.transactionId
    correlationId := transaction.correlationId
    clientGeneration := transaction.clientGeneration
    busGeneration := transaction.busGeneration
    result }

/-- A client that the bus knows is told, and may then use the bus. -/
theorem notify_known (world : BusWorld) {transaction : I2cPendingTransaction}
    (hknown : transaction.clientId ∈ world.bus.clients.map (·.clientId))
    (hcallbacks : ∀ client ∈ world.bus.clients, client.onComplete = true)
    (result : I2cTransactionResult) :
    PortSteps env (world.log (.notified (completionOf transaction result)))
      (notify env world transaction result) := by
  obtain ⟨known, hmem, hid⟩ := List.mem_map.mp hknown
  have hsome : (findClient world.bus transaction.clientId).isSome := by
    rw [findClient, List.find?_isSome]
    exact ⟨known, hmem, by simpa using hid⟩
  obtain ⟨client, hfind⟩ := Option.isSome_iff_exists.mp hsome
  have hcallback := hcallbacks client (List.mem_of_find?_eq_some hfind)
  unfold notify
  rw [hfind]
  dsimp only
  rw [hcallback, if_neg (by simp)]
  exact runProgram_steps _ _

/-- The bus that a completion frees. -/
def freed (bus : I2cBusManager) (result : I2cTransactionResult) : I2cBusManager :=
  let bus := { bus with busy := false, active := .cleared }
  match result with
  | .timeout => { bus with timeoutCount := bus.timeoutCount + 1 }
  | .ok => { bus with completedCount := bus.completedCount + 1 }
  | _ => bus

theorem freed_busy (bus : I2cBusManager) (result : I2cTransactionResult) :
    (freed bus result).busy = false := by
  cases result <;> rfl

theorem freed_sameSetup (bus : I2cBusManager) (result : I2cTransactionResult) :
    SameSetup bus (freed bus result) := by
  cases result <;> exact ⟨rfl, rfl, rfl, rfl⟩

/-- A completion of the active transaction frees the bus and tells its client;
nothing but steps follows. -/
theorem complete_active (hbusy : world.bus.busy = true)
    (hknown : world.bus.active.clientId ∈ world.bus.clients.map (·.clientId))
    (hcallbacks : ∀ client ∈ world.bus.clients, client.onComplete = true)
    (hcurrent : world.bus.active.busGeneration = world.bus.busGeneration)
    (result : I2cTransactionResult) :
    PortSteps env
      ⟨freed world.bus result,
        .notified (completionOf world.bus.active result) :: world.trace⟩
      (complete env world world.bus.active.portRequest.key result).2 := by
  have hclients := (freed_sameSetup world.bus result).clients
  have htold : PortSteps env
      ⟨freed world.bus result,
        .notified (completionOf world.bus.active result) :: world.trace⟩
      (notify env ⟨freed world.bus result, world.trace⟩ world.bus.active result) :=
    notify_known ⟨freed world.bus result, world.trace⟩
      (by rw [hclients]; exact hknown) (by rw [hclients]; exact hcallbacks) result
  unfold complete
  rw [if_neg (by simp [hbusy, ← hcurrent, I2cPendingTransaction.portRequest,
    I2cPortRequest.key])]
  exact htold.trans (startNext_steps _)

/-- A completion on a free bus is counted and otherwise ignored. -/
theorem complete_free (hfree : world.bus.busy = false) (key : CompletionKey)
    (result : I2cTransactionResult) :
    (complete env world key result).2 =
      { world with
        bus :=
          { world.bus with
            staleCompletionCount := world.bus.staleCompletionCount + 1 } } := by
  unfold complete
  rw [if_pos (by simp [hfree])]

theorem mapPortResult_eq_ok_iff (result : PortStatus) :
    mapPortResult result = .ok ↔ result = .ok := by
  cases result <;> decide

theorem successes_notified (transaction : I2cPendingTransaction)
    (result : PortStatus) (trace : List BusEvent) :
    successes
        (.notified (completionOf transaction (mapPortResult result)) :: trace) =
      if result = .ok then transaction.portRequest.key :: successes trace
      else successes trace := by
  by_cases hresult : result = .ok
  · simp [successes, completionOf, hresult, mapPortResult,
      I2cPendingTransaction.portRequest, I2cPortRequest.key]
  · have hother := mt (mapPortResult_eq_ok_iff result).mp hresult
    simp [successes, completionOf, hresult, hother]

end I2cBus

namespace I2cBoard

variable {board : I2cBoard} {around : Surroundings}

theorem Consistent.completedIdle (hboard : Consistent board)
    (hphase : phase board.log = .idle) (result : PortStatus) :
    Consistent { board with log := .completed result :: board.log } := by
  have hidle := hboard.shows.eq_idle_iff.mp hphase
  have hfree : board.bus.busy = false := by
    rw [Bool.eq_false_iff, Ne, hboard.shows.busy_iff, hphase]
    simp
  refine ⟨hboard.port, hboard.callbacks, .idle hidle hfree,
    ⟨trivial, hboard.orderly⟩, ?_, ?_⟩
  · rw [outcomes, hphase]
    exact hboard.told
  · rw [late, hphase]
    exact hboard.stale

/-- The adapter hands the transfer on, and no longer holds it. -/
def reported (board : I2cBoard) (result : PortStatus) : I2cBoard :=
  { board with
    adapter := { board.adapter with active := false }
    log := .completed result :: board.log }

/-- A running transfer that completes, once its client is told of it. -/
theorem Consistent.tells (hboard : Consistent board)
    (hphase : phase board.log = .running board.bus.active.portRequest)
    (result : PortStatus) :
    Consistent ((board.reported result).during around
      ⟨I2cBus.freed board.bus (I2cBus.mapPortResult result),
        [.notified (I2cBus.completionOf board.bus.active
          (I2cBus.mapPortResult result))]⟩) := by
  have hsetup := I2cBus.freed_sameSetup board.bus (I2cBus.mapPortResult result)
  have hfree := I2cBus.freed_busy board.bus (I2cBus.mapPortResult result)
  refine ⟨hsetup.port.trans hboard.port, ?_, .idle rfl hfree,
    ⟨trivial, hboard.orderly⟩, ?_, ?_⟩
  · intro client hmem
    exact hboard.callbacks client (hsetup.clients ▸ hmem)
  · have houtcomes : outcomes (board.reported result).log =
        (board.bus.active.portRequest, result) :: outcomes board.log := by
      rw [reported, outcomes, hphase]
    have hlog : outcomes ((board.reported result).during around
        ⟨I2cBus.freed board.bus (I2cBus.mapPortResult result),
          [.notified (I2cBus.completionOf board.bus.active
            (I2cBus.mapPortResult result))]⟩).log =
        outcomes (board.reported result).log := rfl
    rw [hlog, houtcomes, flawless_cons, ← hboard.told]
    exact I2cBus.successes_notified _ result board.trace
  · have hlate : late (board.reported result).log = late board.log := by
      rw [reported, late, hphase]
    exact hsetup.stale.trans (hboard.stale.trans (congrArg _ hlate.symm))

theorem Consistent.completedRunning (hboard : Consistent board)
    {request : I2cPortRequest} (hphase : phase board.log = .running request)
    (result : PortStatus) :
    Consistent ((board.reported result).operate around fun env world =>
      (I2cBus.onPortCompletion env world (some board.adapter.activeRequest)
        result).2) := by
  have hshows := hboard.shows
  rw [hphase] at hshows
  cases hshows with
  | running active busy hrequest known current =>
      have hsteps :=
        @I2cBus.complete_active (around.environment (board.reported result).adapter)
          ⟨board.bus, []⟩ busy known hboard.callbacks current
          (I2cBus.mapPortResult result)
      rw [hrequest]
      exact (hboard.tells hphase result).steps hsteps

theorem Consistent.completedAbandoned (hboard : Consistent board)
    {request : I2cPortRequest} (hphase : phase board.log = .abandoned request)
    (result : PortStatus) :
    Consistent ((board.reported result).operate around fun env world =>
      (I2cBus.onPortCompletion env world (some board.adapter.activeRequest)
        result).2) := by
  have hfree : board.bus.busy = false := by
    rw [Bool.eq_false_iff, Ne, hboard.shows.busy_iff, hphase]
    simp
  have hshows := hboard.shows
  rw [hphase] at hshows
  have hstale : (board.reported result).operate around (fun env world =>
        (I2cBus.onPortCompletion env world (some board.adapter.activeRequest)
          result).2) =
      { board.reported result with
        bus :=
          { board.bus with
            staleCompletionCount := board.bus.staleCompletionCount + 1 } } := by
    have hbus : (I2cBus.onPortCompletion
          (around.environment (board.reported result).adapter)
          ⟨(board.reported result).bus, []⟩ (some board.adapter.activeRequest)
          result).2 =
        ⟨{ board.bus with
            staleCompletionCount := board.bus.staleCompletionCount + 1 }, []⟩ :=
      I2cBus.complete_free hfree _ _
    unfold I2cBoard.operate
    dsimp only
    rw [hbus]
    rfl
  rw [hstale]
  refine ⟨hboard.port, hboard.callbacks, .idle rfl hfree,
    ⟨trivial, hboard.orderly⟩, ?_, ?_⟩
  · have houtcomes : outcomes (board.reported result).log = outcomes board.log := by
      rw [reported, outcomes, hphase]
    exact hboard.told.trans (congrArg flawless houtcomes.symm)
  · have hlate : late (board.reported result).log = late board.log + 1 := by
      rw [reported, late, hphase]
    rw [show (board.reported result).log = _ from rfl] at hlate
    simp only [hlate, hboard.stale]
    rw [UInt32.ofNat_add, UInt32.ofNat_one]

theorem Consistent.call (hboard : Consistent board) (around : Surroundings)
    (made : BoardCall) : Consistent (board.call around made) := by
  have hcancel : board.bus.port.cancel = true := by rw [hboard.port]
  have hrecover : board.bus.port.recover = true := by rw [hboard.port]
  cases made with
  | registerClient client => exact hboard.registerClient client
  | setClientGeneration clientId clientGeneration =>
      exact hboard.setClientGeneration clientId clientGeneration
  | submit request =>
      exact hboard.operate (fun env world => (I2cBus.submit env world request).2)
        (I2cBus.submit_steps _ request)
  | tick nowUs =>
      exact hboard.operate (fun env world => (I2cBus.tick env world nowUs).2)
        (I2cBus.tick_steps hcancel nowUs)
  | cancelClient clientId =>
      exact hboard.operate
        (fun env world => (I2cBus.cancelClient env world clientId).2)
        (I2cBus.cancelClient_steps hcancel clientId)
  | recover => exact hboard.operate _ (I2cBus.recover_steps hrecover)
  | halComplete result =>
      have hidle := hboard.shows.eq_idle_iff
      rw [I2cBoard.call]
      cases hphase : phase board.log with
      | idle =>
          rw [Stm32I2cAdapter.onComplete_of_idle (hidle.mp hphase)]
          exact hboard.completedIdle hphase result
      | running request =>
          have hactive : board.adapter.active = true := by
            rw [hboard.shows.active_iff, hphase]
            simp
          rw [Stm32I2cAdapter.onComplete_of_active hactive]
          exact hboard.completedRunning hphase result
      | abandoned request =>
          have hactive : board.adapter.active = true := by
            rw [hboard.shows.active_iff, hphase]
            simp
          rw [Stm32I2cAdapter.onComplete_of_active hactive]
          exact hboard.completedAbandoned hphase result

theorem init_consistent : Consistent init :=
  ⟨rfl, by simp [init, I2cBus.init, I2cPort.isValid, I2cBus.clearedManager],
    .idle rfl rfl, trivial, rfl, rfl⟩

theorem run_concat (calls : List (Surroundings × BoardCall))
    (made : Surroundings × BoardCall) :
    run (calls ++ [made]) = (run calls).call made.1 made.2 :=
  List.foldl_append

theorem run_consistent (calls : List (Surroundings × BoardCall)) :
    Consistent (run calls) := by
  induction calls using List.reverseRecOn with
  | nil => exact init_consistent
  | append_singleton calls made ih =>
      rw [run_concat]
      exact ih.call made.1 made.2

end I2cBoard
end Swfpm
