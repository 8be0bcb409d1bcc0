import Swfpm.Queue.Refinement

/-!
# How often a queued event is passed over

After four events of a high priority `tryGet` serves the oldest event.  A watched
event moves up when an older one is served, and every turn that passes it over
from behind costs one of the four, unless the event served there has a low
priority: that one starts the count again.
-/

namespace Swfpm

open RingBuffer

/-- A priority that does not count towards a fairness turn. -/
def AppEvent.LowPriority (event : AppEvent) : Prop :=
  AppEventPriority.sharedResource.value < event.priority.value

instance (event : AppEvent) : Decidable event.LowPriority :=
  inferInstanceAs (Decidable (_ < _))

namespace AppEventQueue

variable {config : AppEventQueueConfig} {queue : AppEventQueue}

/-! ## The event that is served -/

/-- The place, counted from the head, of the event that `tryGet` takes. -/
def servedPlace (queue : AppEventQueue) : ℕ :=
  offsetFrom queue.head
    (scanBest queue.buffer (queue.consecutiveDequeueCount ≥ 4) queue.head
      (queue.buffer queue.head).priority queue.head queue.count).1

theorem scanBest_priority (buffer : Fin appEventQueueMaxCapacity → AppEvent) (fair : Bool)
    (bestIndex index : Fin appEventQueueMaxCapacity) (remaining : ℕ) :
    (scanBest buffer fair bestIndex (buffer bestIndex).priority index remaining).2 =
      (buffer (scanBest buffer fair bestIndex (buffer bestIndex).priority index
        remaining).1).priority := by
  induction remaining generalizing bestIndex index with
  | zero => rfl
  | succ remaining ih =>
      rw [scanBest]
      split_ifs
      · exact ih index (next index)
      · exact ih bestIndex (next index)

theorem getElem?_events {place : ℕ} (hplace : place < queue.count) :
    queue.events[place]? = some (queue.buffer (advance queue.head place)) := by
  have hlength : place < queue.events.length := by
    rw [events, length_contents]
    exact hplace
  rw [List.getElem?_eq_getElem hlength]
  exact congrArg some (getElem_contents hlength)

/-- What `tryGet` does with the event that it serves. -/
structure Serves (queue later : AppEventQueue) (event : AppEvent) : Prop where
  found : queue.events[queue.servedPlace]? = some event
  rest : later.events = queue.events.eraseIdx queue.servedPlace
  fair : queue.FairTurn → queue.servedPlace = 0 ∧ later.consecutiveDequeueCount = 0
  first : ¬ queue.FairTurn → ∀ place other, queue.events[place]? = some other →
    (place < queue.servedPlace → event.priority.value < other.priority.value) ∧
      event.priority.value ≤ other.priority.value
  counted : ¬ queue.FairTurn → later.consecutiveDequeueCount =
    if event.LowPriority then 0 else queue.consecutiveDequeueCount + 1

theorem Represents.serves (hqueue : Represents config queue) (hpos : 0 < queue.count) :
    ∃ event, queue.tryGet.1 = some event ∧ Serves queue queue.tryGet.2 event := by
  have hcount := hqueue.count_le.trans hqueue.capacity_le
  obtain ⟨offset, hoffset, hbest, hfair, hleast⟩ :=
    scanBest_head hpos (decide (queue.consecutiveDequeueCount ≥ 4))
  have hpriority := scanBest_priority queue.buffer
    (decide (queue.consecutiveDequeueCount ≥ 4)) queue.head queue.head queue.count
  have hplace : queue.servedPlace = offset := by
    rw [servedPlace, hbest, offsetFrom_advance (hoffset.trans_le hcount)]
  have hremove := contents_remove queue.buffer queue.head hcount hoffset
  have hsplit : queue.events = _ := contents_split queue.buffer queue.head hoffset
  have hlength : (contents queue.buffer queue.head offset).length = offset :=
    length_contents _ _ _
  rw [hbest] at hpriority
  unfold AppEventQueue.tryGet
  rw [if_neg hpos.ne']
  simp only [hbest, hpriority, offsetFrom_advance (hoffset.trans_le hcount)]
  refine ⟨_, rfl, ?_, ?_, ?_, ?_, ?_⟩
  · rw [hplace, getElem?_events hoffset]
  · rw [hplace, hsplit, List.eraseIdx_append_of_length_le (by omega), hlength]
    simp only [events, hremove]
    simp
  · intro hturn
    rw [hplace]
    refine ⟨hfair (decide_eq_true hturn), ?_⟩
    simp only [FairTurn] at hturn
    simp [hturn]
  · intro hturn place other hother
    rw [hplace]
    obtain ⟨hfirst, hothers⟩ := hleast (decide_eq_false hturn)
    have hlt : place < queue.count := by
      have hsome := (List.getElem?_eq_some_iff.mp hother).1
      rwa [events, length_contents] at hsome
    rw [getElem?_events hlt] at hother
    obtain rfl := Option.some.inj hother
    exact ⟨hfirst place, hothers place hlt⟩
  · intro hturn
    simp only [FairTurn] at hturn
    simp only [hturn, decide_false, Bool.not_false, true_and, AppEvent.LowPriority,
      ← not_le, ite_not]

/-! ## The counter -/

/-- A fairness turn is one with the counter at its limit. -/
theorem fairTurn_iff (hcounter : queue.consecutiveDequeueCount.toNat ≤ 4) :
    queue.FairTurn ↔ queue.consecutiveDequeueCount.toNat = 4 := by
  unfold FairTurn
  rw [ge_iff_le, UInt8.le_iff_toNat_le, show (4 : UInt8).toNat = 4 by rfl]
  omega

/-- The counter stays within its limit, and an ordinary turn that serves a high
priority counts. -/
theorem Serves.counter {later : AppEventQueue} {event : AppEvent}
    (hserves : Serves queue later event)
    (hcounter : queue.consecutiveDequeueCount.toNat ≤ 4) :
    later.consecutiveDequeueCount.toNat ≤ 4 ∧
      (¬ queue.FairTurn → ¬ event.LowPriority →
        later.consecutiveDequeueCount.toNat =
          queue.consecutiveDequeueCount.toNat + 1) := by
  by_cases hturn : queue.FairTurn
  · rw [(hserves.fair hturn).2]
    exact ⟨Nat.zero_le _, fun hcontra => absurd hturn hcontra⟩
  · have hlimit := mt (fairTurn_iff hcounter).mpr hturn
    have hstep : (queue.consecutiveDequeueCount + 1).toNat =
        queue.consecutiveDequeueCount.toNat + 1 := by
      rw [UInt8.toNat_add, show (1 : UInt8).toNat = 1 by rfl, Nat.mod_eq_of_lt (by omega)]
    rw [hserves.counted hturn]
    split_ifs with hlow
    · exact ⟨Nat.zero_le _, fun _ hcontra => absurd hlow hcontra⟩
    · rw [hstep]
      exact ⟨by omega, fun _ _ => rfl⟩

theorem post_counter (queue : AppEventQueue) (posted : Option AppEvent) :
    (postUnlocked queue posted).2.consecutiveDequeueCount =
      queue.consecutiveDequeueCount := by
  unfold postUnlocked
  cases posted with
  | none => rfl
  | some event =>
      dsimp only
      cases findCoalesceTarget queue event with
      | some index => rfl
      | none =>
          dsimp only
          split_ifs <;> rfl

theorem Represents.counter_call (hqueue : Represents config queue)
    (hcounter : queue.consecutiveDequeueCount.toNat ≤ 4) (request : QueueCall) :
    (queue.call request).consecutiveDequeueCount.toNat ≤ 4 := by
  cases request with
  | post posted =>
      change (postUnlocked queue posted).2.consecutiveDequeueCount.toNat ≤ 4
      rwa [post_counter]
  | postFromIsr posted =>
      change (postUnlocked queue posted).2.consecutiveDequeueCount.toNat ≤ 4
      rwa [post_counter]
  | tryGet =>
      by_cases hempty : queue.count = 0
      · have hnothing : queue.tryGet = (none, queue) := if_pos hempty
        simp only [AppEventQueue.call, hnothing]
        exact hcounter
      · obtain ⟨event, -, hserves⟩ := hqueue.serves (Nat.pos_of_ne_zero hempty)
        exact (hserves.counter hcounter).1

theorem counter_run_le (config : Option AppEventQueueConfig) (calls : List QueueCall) :
    (run config calls).consecutiveDequeueCount.toNat ≤ 4 := by
  induction calls using List.reverseRecOn with
  | nil => exact Nat.zero_le 4
  | append_singleton calls request ih =>
      have hrun : run config (calls ++ [request]) = (run config calls).call request := by
        rw [run, List.foldl_append]
        rfl
      rw [hrun]
      exact (run_represents config calls).counter_call ih request

/-! ## The watched event -/

/-- A queue with an event that is watched until it is returned. -/
structure Watch where
  queue : AppEventQueue
  /-- The place of the event, counted from the head. -/
  place : ℕ
  returned : Option AppEvent
  /-- The calls that returned an event. -/
  gets : ℕ
  /-- Those of them that returned an event of low priority from behind the
  watched one. -/
  overtakes : ℕ

namespace Watch

def start (queue : AppEventQueue) (place : ℕ) : Watch :=
  { queue, place, returned := none, gets := 0, overtakes := 0 }

/-- A get that served `event` at the place `served`. -/
def get (watch : Watch) (later : AppEventQueue) (served : ℕ) (event : AppEvent) :
    Watch :=
  let watch := { watch with queue := later, gets := watch.gets + 1 }
  if watch.returned.isSome then watch
  else if served = watch.place then { watch with returned := some event }
  else if served < watch.place then { watch with place := watch.place - 1 }
  else if event.LowPriority then { watch with overtakes := watch.overtakes + 1 }
  else watch

def call (watch : Watch) (request : QueueCall) : Watch :=
  match request, watch.queue.tryGet.1 with
  | .tryGet, some event =>
      watch.get watch.queue.tryGet.2 watch.queue.servedPlace event
  | _, _ => { watch with queue := watch.queue.call request }

def run (watch : Watch) (calls : List QueueCall) : Watch := calls.foldl call watch

/-- The event, or the LEVEL event that took its place. -/
def StandsFor (original event : AppEvent) : Prop :=
  event = original ∨ SameLevel event original

/-- What every run keeps of an event that was watched from the place `ahead` on. -/
structure Waits (config : AppEventQueueConfig) (original : AppEvent) (ahead : ℕ)
    (watch : Watch) : Prop where
  represents : Represents config watch.queue
  counter : watch.queue.consecutiveDequeueCount.toNat ≤ 4
  queued : watch.returned = none →
    ∃ event, watch.queue.events[watch.place]? = some event ∧ StandsFor original event
  done : ∀ event, watch.returned = some event → StandsFor original event
  budget : watch.returned = none →
    watch.gets + 5 * watch.place + 5 ≤ 5 * (ahead + 1) + 4 * watch.overtakes +
      watch.queue.consecutiveDequeueCount.toNat
  overtaken : original.delivery ≠ .level →
    original.priority.value ≤ AppEventPriority.config.value → watch.overtakes = 0

variable {watch : Watch} {original event : AppEvent} {ahead : ℕ}

theorem StandsFor.trans {replacement : AppEvent} (hstands : StandsFor original event)
    (hreplaces : StandsFor event replacement) : StandsFor original replacement := by
  rcases hreplaces with rfl | hreplaces
  · exact hstands
  · rcases hstands with rfl | hstands
    · exact .inr hreplaces
    · exact .inr (hreplaces.trans hstands)

/-- Posting leaves every event in its place, or replaces it there. -/
theorem standsFor_of_posts {posted : Option AppEvent} {result : EventPostResult}
    {events later : List AppEvent} {place : ℕ} (hposts : Posts posted result events later)
    (hevent : events[place]? = some event) :
    ∃ replacement, later[place]? = some replacement ∧ StandsFor event replacement := by
  cases hposts with
  | appended hposted =>
      have hlt := (List.getElem?_eq_some_iff.mp hevent).1
      exact ⟨event, by rwa [List.getElem?_append_left hlt], .inl rfl⟩
  | unchanged hok hcoalesced => exact ⟨event, hevent, .inl rfl⟩
  | @replaced posted before old after hposted hold honly =>
      rcases lt_trichotomy place before.length with hlt | rfl | hgt
      · rw [List.getElem?_append_left hlt] at hevent ⊢
        exact ⟨event, hevent, .inl rfl⟩
      · rw [List.getElem?_append_right le_rfl, Nat.sub_self,
          List.getElem?_cons_zero] at hevent ⊢
        obtain rfl := Option.some.inj hevent
        exact ⟨posted, rfl, .inr hold.symm⟩
      · obtain ⟨gap, rfl⟩ := Nat.exists_eq_add_of_lt hgt
        rw [List.getElem?_append_right (by omega),
          show before.length + gap + 1 - before.length = gap + 1 by omega,
          List.getElem?_cons_succ] at hevent ⊢
        exact ⟨event, hevent, .inl rfl⟩

theorem Waits.post (hwaits : Waits config original ahead watch)
    (posted : Option AppEvent) :
    Waits config original ahead
      { watch with queue := (postUnlocked watch.queue posted).2 } := by
  obtain ⟨hrepresents, hposts⟩ := hwaits.represents.post posted
  have hcounter := post_counter watch.queue posted
  refine ⟨hrepresents, ?_, ?_, hwaits.done, ?_, hwaits.overtaken⟩
  · rw [hcounter]
    exact hwaits.counter
  · intro hnone
    obtain ⟨event, hevent, hstands⟩ := hwaits.queued hnone
    obtain ⟨replacement, hlater, hreplaces⟩ := standsFor_of_posts hposts hevent
    exact ⟨replacement, hlater, hstands.trans hreplaces⟩
  · intro hnone
    rw [hcounter]
    exact hwaits.budget hnone

theorem Waits.get (hwaits : Waits config original ahead watch) {later : AppEventQueue}
    (hlater : Represents config later) (hserves : Serves watch.queue later event) :
    Waits config original ahead
      (watch.get later watch.queue.servedPlace event) := by
  obtain ⟨hcounter, hcounts⟩ := hserves.counter hwaits.counter
  have hbefore := hwaits.counter
  unfold Watch.get
  dsimp only
  split_ifs with hreturned hserved holder hlow
  · rw [Option.isSome_iff_ne_none] at hreturned
    exact ⟨hlater, hcounter, fun hnone => absurd hnone hreturned, hwaits.done,
      fun hnone => absurd hnone hreturned, hwaits.overtaken⟩
  · refine ⟨hlater, hcounter, fun hnone => (by cases hnone), ?_,
      fun hnone => (by cases hnone), hwaits.overtaken⟩
    intro returned hreturn
    obtain rfl := Option.some.inj hreturn
    obtain ⟨watched, hwatched, hstands⟩ :=
      hwaits.queued (Option.not_isSome_iff_eq_none.mp hreturned)
    rw [← hserved, hserves.found] at hwatched
    obtain rfl := Option.some.inj hwatched
    exact hstands
  · refine ⟨hlater, hcounter, ?_, hwaits.done, ?_, hwaits.overtaken⟩
    · intro hnone
      obtain ⟨watched, hwatched, hstands⟩ := hwaits.queued hnone
      refine ⟨watched, ?_, hstands⟩
      change later.events[watch.place - 1]? = some watched
      rw [hserves.rest, List.getElem?_eraseIdx, if_neg (by omega),
        Nat.sub_add_cancel (by omega)]
      exact hwatched
    · intro hnone
      have hbudget := hwaits.budget hnone
      simp only
      omega
  all_goals
    -- The event behind the watched one is served on an ordinary turn.
    have hnone := Option.not_isSome_iff_eq_none.mp hreturned
    have hturn : ¬ watch.queue.FairTurn := by
      intro hfair
      have hhead := (hserves.fair hfair).1
      omega
    have hlimit := mt (fairTurn_iff hbefore).mpr hturn
    have hbudget := hwaits.budget hnone
    obtain ⟨watched, hwatched, hstands⟩ := hwaits.queued hnone
    have hkept : later.events[watch.place]? = some watched := by
      rw [hserves.rest, List.getElem?_eraseIdx, if_pos (by omega)]
      exact hwatched
  · refine ⟨hlater, hcounter, fun _ => ⟨watched, hkept, hstands⟩, hwaits.done, ?_, ?_⟩
    · intro _
      simp only
      omega
    · intro hedge hpriority
      have hfirst := (hserves.first hturn watch.place watched hwatched).1 (by omega)
      rcases hstands with rfl | hsame
      · have hshared : AppEventPriority.sharedResource.value = 2 := rfl
        have hconfig : AppEventPriority.config.value = 3 := rfl
        unfold AppEvent.LowPriority at hlow
        omega
      · exact absurd hsame.2.1 hedge
  · have hnext := hcounts hturn hlow
    refine ⟨hlater, hcounter, fun _ => ⟨watched, hkept, hstands⟩, hwaits.done, ?_,
      hwaits.overtaken⟩
    intro _
    simp only
    omega

theorem Waits.call (hwaits : Waits config original ahead watch) (request : QueueCall) :
    Waits config original ahead (watch.call request) := by
  cases request with
  | post posted => exact hwaits.post posted
  | postFromIsr posted => exact hwaits.post posted
  | tryGet =>
      unfold Watch.call
      by_cases hempty : watch.queue.count = 0
      · have hnothing : watch.queue.tryGet = (none, watch.queue) := if_pos hempty
        simp only [hnothing, AppEventQueue.call]
        exact hwaits
      · obtain ⟨event, hserved, hserves⟩ :=
          hwaits.represents.serves (Nat.pos_of_ne_zero hempty)
        simp only [hserved]
        exact hwaits.get hwaits.represents.tryGet.1 hserves

theorem Waits.run (hwaits : Waits config original ahead watch) (calls : List QueueCall) :
    Waits config original ahead (watch.run calls) := by
  induction calls generalizing watch with
  | nil => exact hwaits
  | cons request calls ih => exact ih (hwaits.call request)

end Watch

/-- However many events are posted in between, an event with `place` events ahead of
it is returned within five gets for each of them and for itself, and four more
for each event of low priority that was served from behind it.  Only an event of
the lowest priority can be passed that way. -/
theorem bypass_bounded (config : Option AppEventQueueConfig)
    (past calls : List QueueCall) (place : ℕ) (original : AppEvent)
    (horiginal : (run config past).events[place]? = some original) :
    let watch := (Watch.start (run config past) place).run calls
    (5 * (place + 1) + 4 * watch.overtakes ≤ watch.gets →
      ∃ event, watch.returned = some event ∧
        (event = original ∨ SameLevel event original)) ∧
    (original.delivery ≠ .level →
      original.priority.value ≤ AppEventPriority.config.value → watch.overtakes = 0) := by
  intro watch
  have hstart : Watch.Waits (clampConfig (config.getD fallbackConfig)) original place
      (Watch.start (run config past) place) := by
    refine ⟨run_represents config past, counter_run_le config past,
      fun _ => ⟨original, horiginal, .inl rfl⟩, fun event hreturn => (by cases hreturn),
      fun _ => ?_, fun _ _ => rfl⟩
    simp only [Watch.start]
    omega
  have hwaits := hstart.run calls
  refine ⟨?_, hwaits.overtaken⟩
  intro hgets
  cases hreturned : watch.returned with
  | none =>
      have hbudget := hwaits.budget hreturned
      have hcounter := hwaits.counter
      change 5 * (place + 1) + 4 * ((Watch.start (run config past) place).run
        calls).overtakes ≤ ((Watch.start (run config past) place).run calls).gets at hgets
      omega
  | some event => exact ⟨event, rfl, hwaits.done event hreturned⟩

/-- An edge of the given priority. -/
def edgeOf (priority : AppEventPriority) : AppEvent := { AppEvent.cleared with priority }

/-- A background event behind a critical one, and a burst of measurements. -/
theorem bypass_bounded_burst :
    let watch := (Watch.start (run none
      [.post (some (edgeOf .critical)), .post (some (edgeOf .background))]) 1).run
      ((List.replicate 10 [.post (some (edgeOf .measurement)), .tryGet]).flatten)
    (5 * (1 + 1) + 4 * watch.overtakes ≤ watch.gets →
      ∃ event, watch.returned = some event ∧
        (event = edgeOf .background ∨ SameLevel event (edgeOf .background))) ∧
    ((edgeOf .background).delivery ≠ .level →
      (edgeOf .background).priority.value ≤ AppEventPriority.config.value →
        watch.overtakes = 0) :=
  bypass_bounded none _ _ 1 (edgeOf .background) (by decide +kernel)

/-- A background event at the head is passed by five configuration events that come
one by one. -/
theorem config_starves_background :
    ¬ ∀ (config : Option AppEventQueueConfig) (past calls : List QueueCall) (place : ℕ)
        (original : AppEvent), (run config past).events[place]? = some original →
      5 * (place + 1) ≤ ((Watch.start (run config past) place).run calls).gets →
        ((Watch.start (run config past) place).run calls).returned.isSome := by
  intro hclaim
  have hserved := hclaim none [.post (some (edgeOf .background))]
    ((List.replicate 5 [.post (some (edgeOf .config)), .tryGet]).flatten) 0
    (edgeOf .background) (by decide +kernel) (by decide +kernel)
  exact absurd hserved (by decide +kernel)

end AppEventQueue
end Swfpm
