import Swfpm.Queue.Refinement

/-!
# The critical reserve of the event queue

`reserved_critical` only bounds the background events.  `CriticalRoom` is what
the reserve is for, `TakesSlot` says which posts may use it up, and the run
theorem says that a run keeps the room exactly when none of its posts does.
-/

namespace Swfpm

open RingBuffer

theorem Posts.of_ok {event : AppEvent} {events after : List AppEvent}
    (hposts : Posts (some event) .ok events after) :
    after = events ++ [event] := by
  cases hposts with
  | appended hevent => rw [Option.some.inj hevent]
  | unchanged hok _ => exact absurd rfl hok

theorem Posts.of_coalesced {event : AppEvent} {events later : List AppEvent}
    (hposts : Posts (some event) .coalesced events later) :
    ∃ before old after, events = before ++ old :: after ∧
      later = before ++ event :: after ∧ SameLevel old event ∧
      ∀ other ∈ before ++ after, ¬ SameLevel other event := by
  cases hposts with
  | replaced hevent hold honly =>
      obtain rfl := Option.some.inj hevent
      exact ⟨_, _, _, rfl, rfl, hold, honly⟩
  | unchanged _ hcoalesced => exact absurd rfl hcoalesced

theorem Posts.of_refused {event : Option AppEvent} {result : EventPostResult}
    {events after : List AppEvent} (hposts : Posts event result events after)
    (hok : result ≠ .ok) (hcoalesced : result ≠ .coalesced) :
    after = events := by
  cases hposts with
  | appended _ => exact absurd rfl hok
  | replaced _ _ _ => exact absurd rfl hcoalesced
  | unchanged _ _ => rfl

namespace AppEventQueue

variable {queue : AppEventQueue} {event : AppEvent}
  {config : AppEventQueueConfig}

/-! ## The reserve -/

/-- The queued events of priority CRITICAL. -/
def criticalCount (queue : AppEventQueue) : ℕ :=
  queue.events.countP fun event => isPriorityCritical event.priority

/-- The queued events of the other priorities. -/
def otherCount (queue : AppEventQueue) : ℕ :=
  queue.events.countP fun event => !isPriorityCritical event.priority

/-- The slots outside the reserve. -/
def unreserved (queue : AppEventQueue) : ℕ :=
  queue.config.capacity.toNat - queue.config.reservedCritical.toNat

/-- A post that the queue takes in. -/
def Accepted (result : EventPostResult) : Prop :=
  result = .ok ∨ result = .coalesced

instance (result : EventPostResult) : Decidable (Accepted result) :=
  inferInstanceAs (Decidable (_ ∨ _))

/-- With fewer critical events queued than reserved, one more is accepted. -/
def CriticalRoom (queue : AppEventQueue) : Prop :=
  queue.criticalCount < queue.config.reservedCritical.toNat →
    ∀ event : AppEvent, event.priority = .critical →
      Accepted (queue.post (some event)).1 ∧
        Accepted (queue.postFromIsr (some event)).1

/-- Posting `event` leaves one more event in the queue that is not critical: it
replaces a critical LEVEL event, or it is a measurement event that finds room. -/
def TakesSlot (queue : AppEventQueue) (event : AppEvent) : Prop :=
  event.priority ≠ .critical ∧
    ((∃ old ∈ queue.events, SameLevel old event ∧ old.priority = .critical) ∨
      (event.priority = .measurement ∧
        (∀ old ∈ queue.events, ¬ SameLevel old event) ∧
        queue.count < queue.config.capacity.toNat))

/-- A call that takes a slot finds one outside the reserve. -/
def SparesReserve (queue : AppEventQueue) (request : QueueCall) : Prop :=
  ∀ event, request = .post (some event) ∨ request = .postFromIsr (some event) →
    queue.TakesSlot event → queue.otherCount < queue.unreserved

theorem criticalCount_add_otherCount (queue : AppEventQueue) :
    queue.criticalCount + queue.otherCount = queue.count := by
  have hlength : queue.events.length = queue.count := length_contents _ _ _
  rw [criticalCount, otherCount, ← hlength, List.length_eq_countP_add_countP
    fun event => isPriorityCritical event.priority]
  simp

/-! ## What a post answers -/

theorem post_coalesced_iff :
    (queue.post (some event)).1 = .coalesced ↔
      findCoalesceTarget queue event ≠ none := by
  rw [AppEventQueue.post, postUnlocked]
  cases findCoalesceTarget queue event with
  | some index => simp
  | none =>
      simp only
      split_ifs <;> simp

/-- A new event is taken in when its class finds room. -/
theorem Represents.post_ok_iff (hqueue : Represents config queue) :
    (queue.post (some event)).1 = .ok ↔
      findCoalesceTarget queue event = none ∧
        queue.count < (if event.priority = .critical ∨
            event.priority = .measurement then queue.config.capacity.toNat
          else queue.unreserved) := by
  have hshare : (queue.config.capacity -
      queue.config.reservedCritical.toUInt16).toNat = queue.unreserved := by
    rw [UInt16.toNat_sub_of_le]
    · simp [unreserved]
    · rw [hqueue.config_eq]
      exact UInt16.le_iff_toNat_le.mpr (by simpa using hqueue.reserved_le)
  rw [AppEventQueue.post, postUnlocked]
  cases findCoalesceTarget queue event with
  | some index => simp
  | none =>
      simp only [hshare]
      cases hpriority : event.priority <;>
        simp [isPriorityCritical, isPriorityMeasurement] <;>
        split_ifs <;> simp_all

theorem Represents.post_critical_ok_iff (hqueue : Represents config queue)
    (hcritical : event.priority = .critical) :
    (queue.post (some event)).1 = .ok ↔
      findCoalesceTarget queue event = none ∧
        queue.count < queue.config.capacity.toNat := by
  rw [hqueue.post_ok_iff, if_pos (Or.inl hcritical)]

/-- At most as many events that are not critical as slots outside the reserve. -/
def ReserveFree (queue : AppEventQueue) : Prop :=
  queue.otherCount ≤ queue.unreserved

/-- With the reserve free there is room for the reserved critical events. -/
theorem Represents.criticalRoom (hqueue : Represents config queue)
    (hfree : queue.ReserveFree) : queue.CriticalRoom := by
  intro hfew event hcritical
  have hroom : queue.count < queue.config.capacity.toNat := by
    have hsum := queue.criticalCount_add_otherCount
    have hreserved := hqueue.reserved_le
    rw [← hqueue.config_eq] at hreserved
    unfold ReserveFree unreserved at hfree
    omega
  have haccepted : Accepted (queue.post (some event)).1 := by
    by_cases hfind : findCoalesceTarget queue event = none
    · left
      exact (hqueue.post_critical_ok_iff hcritical).mpr ⟨hfind, hroom⟩
    · right
      exact post_coalesced_iff.mpr hfind
  exact ⟨haccepted, haccepted⟩

/-- A full queue with the reserve taken refuses a critical event. -/
theorem Represents.not_criticalRoom (hqueue : Represents config queue)
    (hfull : queue.count = queue.config.capacity.toNat)
    (htaken : ¬ queue.ReserveFree) : ¬ queue.CriticalRoom := by
  intro hroom
  have hfew : queue.criticalCount < queue.config.reservedCritical.toNat := by
    have hsum := queue.criticalCount_add_otherCount
    unfold ReserveFree unreserved at htaken
    omega
  rcases (hroom hfew .cleared rfl).1 with hok | hcoalesced
  · exact ((hqueue.post_critical_ok_iff rfl).mp hok).2.ne hfull
  · exact post_coalesced_iff.mp hcoalesced rfl

/-! ## One call -/

theorem call_config (queue : AppEventQueue) (request : QueueCall) :
    (queue.call request).config = queue.config := by
  have hpost : ∀ posted, (queue.postUnlocked posted).2.config = queue.config := by
    intro posted
    cases posted with
    | none => rfl
    | some event =>
        rw [postUnlocked]
        cases findCoalesceTarget queue event with
        | some index => rfl
        | none =>
            dsimp only
            split_ifs <;> rfl
  cases request with
  | post posted => exact hpost posted
  | postFromIsr posted => exact hpost posted
  | tryGet =>
      rw [AppEventQueue.call, AppEventQueue.tryGet]
      split_ifs <;> rfl

theorem call_unreserved (queue : AppEventQueue) (request : QueueCall) :
    (queue.call request).unreserved = queue.unreserved := by
  rw [unreserved, unreserved, call_config]

/-- An event coalesces when a LEVEL event of its own kind is queued. -/
theorem Represents.find_eq_none_iff (hqueue : Represents config queue) :
    findCoalesceTarget queue event = none ↔
      ∀ old ∈ queue.events, ¬ SameLevel old event := by
  constructor
  · exact no_sameLevel
  · intro hnone
    by_contra hfind
    obtain ⟨index, hindex⟩ := Option.ne_none_iff_exists'.mp hfind
    obtain ⟨before, old, after, hevents, -, hold, -⟩ :=
      (hqueue.coalesced hindex).1.of_coalesced
    exact hnone old (by simp [hevents]) hold

/-- A post that coalesces exchanges one event for another. -/
theorem Represents.otherCount_coalesced (hqueue : Represents config queue)
    (hresult : (queue.post (some event)).1 = .coalesced) :
    ∃ old ∈ queue.events, SameLevel old event ∧
      (∀ other ∈ queue.events, SameLevel other event → other = old) ∧
      (queue.post (some event)).2.otherCount +
          (if old.priority = .critical then 0 else 1) =
        queue.otherCount + (if event.priority = .critical then 0 else 1) := by
  have hposts := (hqueue.post (some event)).2
  rw [show (postUnlocked queue (some event)).1 = .coalesced from hresult]
    at hposts
  obtain ⟨before, old, after, hevents, hlater, hsame, honly⟩ :=
    hposts.of_coalesced
  refine ⟨old, by simp [hevents], hsame, ?_, ?_⟩
  · intro other hmem hother
    by_contra hne
    refine honly other ?_ hother
    simpa [hevents, hne] using hmem
  · change otherCount (postUnlocked queue (some event)).2 + _ = _
    rw [otherCount, otherCount, hlater, hevents]
    simp only [List.countP_append, List.countP_cons, isPriorityCritical,
      Bool.not_eq_true', decide_eq_false_iff_not]
    split_ifs <;> omega

/-- A post that is taken in as a new event adds it to its class. -/
theorem Represents.otherCount_ok (hqueue : Represents config queue)
    (hresult : (queue.post (some event)).1 = .ok) :
    (queue.post (some event)).2.otherCount =
      queue.otherCount + (if event.priority = .critical then 0 else 1) := by
  have hposts := (hqueue.post (some event)).2
  rw [show (postUnlocked queue (some event)).1 = .ok from hresult] at hposts
  change otherCount (postUnlocked queue (some event)).2 = _
  rw [otherCount, otherCount, hposts.of_ok]
  simp only [List.countP_append, List.countP_singleton, isPriorityCritical,
    Bool.not_eq_true', decide_eq_false_iff_not]
  split_ifs <;> omega

theorem Represents.count_ok (hqueue : Represents config queue)
    (hresult : (queue.post (some event)).1 = .ok) :
    (queue.post (some event)).2.count = queue.count + 1 := by
  have hposts := (hqueue.post (some event)).2
  rw [show (postUnlocked queue (some event)).1 = .ok from hresult] at hposts
  have hlength : (queue.post (some event)).2.events.length =
      (queue.post (some event)).2.count := length_contents _ _ _
  change (postUnlocked queue (some event)).2.events.length = _ at hlength
  rw [← hlength, hposts.of_ok, List.length_append, List.length_singleton]
  congr 1
  exact length_contents _ _ _

/-- A post that takes a slot adds an event that is not critical. -/
theorem Represents.otherCount_takesSlot (hqueue : Represents config queue)
    (htakes : queue.TakesSlot event) :
    (queue.post (some event)).2.otherCount = queue.otherCount + 1 := by
  obtain ⟨hother, ⟨old, hmem, hsame, hcritical⟩ | ⟨hmeasurement, hnew, hroom⟩⟩ :=
    htakes
  · have hresult : (queue.post (some event)).1 = .coalesced := by
      rw [post_coalesced_iff, ne_eq, hqueue.find_eq_none_iff]
      exact fun hnone => hnone old hmem hsame
    obtain ⟨first, -, -, honly, hcount⟩ := hqueue.otherCount_coalesced hresult
    rw [← honly old hmem hsame, if_pos hcritical, if_neg hother] at hcount
    exact hcount
  · have hresult : (queue.post (some event)).1 = .ok := by
      rw [hqueue.post_ok_iff, if_pos (Or.inr hmeasurement)]
      exact ⟨hqueue.find_eq_none_iff.mpr hnew, hroom⟩
    rw [hqueue.otherCount_ok hresult, if_neg hother]

/-- Every other post leaves a free reserve free. -/
theorem Represents.reserveFree_post (hqueue : Represents config queue)
    (hfree : queue.ReserveFree)
    (hspares : queue.TakesSlot event → queue.otherCount < queue.unreserved) :
    (queue.post (some event)).2.otherCount ≤ queue.unreserved := by
  by_cases htakes : queue.TakesSlot event
  · rw [hqueue.otherCount_takesSlot htakes]
    exact hspares htakes
  cases hresult : (queue.post (some event)).1 with
  | ok =>
      rw [hqueue.otherCount_ok hresult]
      obtain ⟨hfind, hroom⟩ := hqueue.post_ok_iff.mp hresult
      split_ifs with hcritical
      · exact hfree
      · have hbackground : event.priority ≠ .measurement := by
          intro hmeasurement
          rw [if_pos (Or.inr hmeasurement)] at hroom
          exact htakes ⟨hcritical, Or.inr ⟨hmeasurement,
            hqueue.find_eq_none_iff.mp hfind, hroom⟩⟩
        rw [if_neg (not_or.mpr ⟨hcritical, hbackground⟩)] at hroom
        have hsum := queue.criticalCount_add_otherCount
        omega
  | coalesced =>
      obtain ⟨old, hmem, hsame, -, hcount⟩ :=
        hqueue.otherCount_coalesced hresult
      unfold ReserveFree at hfree
      split_ifs at hcount with hold hnew hnew
      · omega
      · exact absurd ⟨hnew, Or.inl ⟨old, hmem, hsame, hold⟩⟩ htakes
      · omega
      · omega
  | backpressure | rejectedInvalid | overflowEscalated =>
      have hposts := (hqueue.post (some event)).2
      rw [show (postUnlocked queue (some event)).1 = _ from hresult] at hposts
      change otherCount (postUnlocked queue (some event)).2 ≤ _
      rw [otherCount, hposts.of_refused (by simp) (by simp)]
      exact hfree

theorem otherCount_tryGet (hqueue : Represents config queue) :
    queue.tryGet.2.otherCount ≤ queue.otherCount := by
  have hsub : queue.tryGet.2.events.Sublist queue.events := by
    have htakes := hqueue.tryGet.2
    generalize queue.tryGet.2.events = after at htakes ⊢
    generalize queue.events = events at htakes ⊢
    generalize queue.tryGet.1 = taken at htakes
    cases htakes with
    | empty => exact List.Sublist.refl _
    | head _ => exact List.sublist_cons_self _ _
    | best _ _ _ => exact List.Sublist.append_left (List.sublist_cons_self _ _) _
  exact hsub.countP_le

/-- A call that spares the reserve leaves it free. -/
theorem Represents.reserveFree_call (hqueue : Represents config queue)
    (hfree : queue.ReserveFree) {request : QueueCall}
    (hspares : queue.SparesReserve request) :
    (queue.call request).ReserveFree := by
  rw [ReserveFree, call_unreserved]
  cases request with
  | post posted | postFromIsr posted =>
      cases posted with
      | none => exact hfree
      | some event =>
          exact hqueue.reserveFree_post hfree (hspares event (by simp))
  | tryGet => exact (otherCount_tryGet hqueue).trans hfree

/-! ## Whole runs -/

/-- Every call of the run spares the reserve of the queue it meets. -/
def SparesThroughout (config : Option AppEventQueueConfig)
    (calls : List QueueCall) : Prop :=
  ∀ before request, before ++ [request] <+: calls →
    (run config before).SparesReserve request

theorem run_append (config : Option AppEventQueueConfig)
    (before later : List QueueCall) :
    run config (before ++ later) = later.foldl call (run config before) :=
  List.foldl_append

/-- A critical event takes no slot of another class. -/
theorem spares_critical (queue : AppEventQueue)
    (hcritical : event.priority = .critical) :
    queue.SparesReserve (.post (some event)) := by
  rintro posted (hpost | hpost) htakes
  · rw [← Option.some.inj (QueueCall.post.inj hpost)] at htakes
    exact absurd hcritical htakes.1
  · exact absurd hpost (by simp)

theorem reserveFree_init (config : Option AppEventQueueConfig) :
    (init config).ReserveFree := Nat.zero_le _

theorem SparesThroughout.reserveFree {config : Option AppEventQueueConfig}
    {calls before : List QueueCall} (hspares : SparesThroughout config calls)
    (hbefore : before <+: calls) : (run config before).ReserveFree := by
  induction before using List.reverseRecOn with
  | nil => exact reserveFree_init config
  | append_singleton before request ih =>
      rw [run_append]
      exact (run_represents config before).reserveFree_call
        (ih ((List.prefix_append _ _).trans hbefore)) (hspares _ _ hbefore)

/-- Critical posts keep the reserve free. -/
theorem reserveFree_criticals {config : Option AppEventQueueConfig}
    {before : List QueueCall} (hfree : (run config before).ReserveFree)
    (criticals : List AppEvent)
    (hcritical : ∀ event ∈ criticals, event.priority = .critical) :
    (run config (before ++ criticals.map (.post ∘ some))).ReserveFree := by
  induction criticals using List.reverseRecOn with
  | nil => simpa using hfree
  | append_singleton criticals event ih =>
      have hlast : event.priority = .critical := hcritical event (by simp)
      rw [List.map_append, ← List.append_assoc, run_append]
      refine (run_represents config _).reserveFree_call (ih ?_)
        (spares_critical _ hlast)
      intro other hmem
      exact hcritical other (List.mem_append_left _ hmem)

/-- With the reserve taken, enough critical posts meet a refusal. -/
theorem refusal_of_taken {config : Option AppEventQueueConfig} (missing : ℕ)
    {before : List QueueCall} (htaken : ¬ (run config before).ReserveFree)
    (hmissing : (run config before).count + missing =
      (run config before).config.capacity.toNat) :
    ¬ (run config (before ++ (List.replicate missing AppEvent.cleared).map
      (.post ∘ some))).CriticalRoom := by
  induction missing generalizing before with
  | zero =>
      simpa using (run_represents config before).not_criticalRoom hmissing htaken
  | succ missing ih =>
      have hqueue := run_represents config before
      have hok : ((run config before).post (some .cleared)).1 = .ok := by
        rw [hqueue.post_critical_ok_iff rfl]
        exact ⟨rfl, by omega⟩
      have hrun : run config (before ++ [.post (some .cleared)]) =
          ((run config before).post (some .cleared)).2 := run_append _ _ _
      have hconfig := call_config (run config before) (.post (some .cleared))
      rw [List.replicate_succ, List.map_cons, ← List.singleton_append,
        ← List.append_assoc]
      apply ih
      · rw [ReserveFree, Function.comp_apply, hrun, hqueue.otherCount_ok hok,
          unreserved]
        rw [ReserveFree, unreserved] at htaken
        rw [AppEventQueue.call] at hconfig
        rw [hconfig]
        exact htaken
      · rw [AppEventQueue.call] at hconfig
        rw [Function.comp_apply, hrun, hqueue.count_ok hok, hconfig]
        omega

/-- A run keeps room for the reserved critical events, and would keep it through
any critical posts after each of its calls, exactly when every call that takes
a slot for another class finds one outside the reserve. -/
theorem criticalRoom_iff_spares (config : Option AppEventQueueConfig)
    (calls : List QueueCall) :
    (∀ (before : List QueueCall) (criticals : List AppEvent), before <+: calls →
        (∀ event ∈ criticals, event.priority = .critical) →
        (run config (before ++ criticals.map (.post ∘ some))).CriticalRoom) ↔
      SparesThroughout config calls := by
  constructor
  · intro hroom before request hearly event hrequest htakes
    by_contra hfull
    have hqueue := run_represents config before
    have htaken : ¬ (run config (before ++ [request])).ReserveFree := by
      rw [run_append]
      change ¬ ((run config before).call request).ReserveFree
      rw [ReserveFree, call_unreserved]
      have hcount : ((run config before).call request).otherCount =
          (run config before).otherCount + 1 := by
        rcases hrequest with rfl | rfl <;>
          exact hqueue.otherCount_takesSlot htakes
      omega
    have hcapacity := (run_represents config (before ++ [request])).count_le
    rw [← (run_represents config (before ++ [request])).config_eq] at hcapacity
    refine refusal_of_taken _ htaken (Nat.add_sub_of_le hcapacity)
      (hroom _ _ hearly ?_)
    intro posted hmem
    rw [(List.mem_replicate.mp hmem).2]
    rfl
  · intro hspares before criticals hearly hcritical
    exact (run_represents config _).criticalRoom
      (reserveFree_criticals (hspares.reserveFree hearly) criticals hcritical)

/-- Two measurement events fill a queue of two slots, one of them reserved. -/
theorem measurement_fills_reserve :
    ¬ ∀ (config : AppEventQueueConfig) (calls : List QueueCall),
      1 ≤ config.reservedCritical.toNat →
      config.reservedCritical.toNat ≤ config.capacity.toNat →
      (run (some config) calls).CriticalRoom := by
  intro hall
  let sample : AppEvent := { AppEvent.cleared with priority := .measurement }
  have hroom := hall ⟨2, 1, 0⟩ [.post (some sample), .post (some sample)]
    (by decide) (by decide)
  have hrefused := hroom (by decide) .cleared rfl
  revert hrefused
  decide

end AppEventQueue
end Swfpm
