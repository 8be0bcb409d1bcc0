import Swfpm.Queue.EventQueue

/-!
# The event queue as a list

What the ring stands for is the list `events`.  `Posts` and `Takes` say what a
call may do to that list; every call of every run from `init` does it.
-/

namespace Swfpm

open RingBuffer

/-- Two LEVEL events that report the same condition of the same source. -/
def SameLevel (first second : AppEvent) : Prop :=
  first.delivery = .level ∧ second.delivery = .level ∧
    first.id = second.id ∧ first.sourceId = second.sourceId

instance (first second : AppEvent) : Decidable (SameLevel first second) :=
  inferInstanceAs (Decidable (_ ∧ _ ∧ _ ∧ _))

theorem SameLevel.trans {first second third : AppEvent}
    (hfirst : SameLevel first second) (hsecond : SameLevel second third) :
    SameLevel first third :=
  ⟨hfirst.1, hsecond.2.1, hfirst.2.2.1.trans hsecond.2.2.1,
    hfirst.2.2.2.trans hsecond.2.2.2⟩

theorem SameLevel.symm {first second : AppEvent}
    (hsame : SameLevel first second) : SameLevel second first :=
  ⟨hsame.2.1, hsame.1, hsame.2.2.1.symm, hsame.2.2.2.symm⟩

/-- What posting does to the list. -/
inductive Posts (event : Option AppEvent) :
    EventPostResult → List AppEvent → List AppEvent → Prop where
  | appended {posted events} (hevent : event = some posted) :
      Posts event .ok events (events ++ [posted])
  | replaced {posted before old after} (hevent : event = some posted)
      (hold : SameLevel old posted)
      (honly : ∀ other ∈ before ++ after, ¬ SameLevel other posted) :
      Posts event .coalesced (before ++ old :: after)
        (before ++ posted :: after)
  | unchanged {result events} (hok : result ≠ .ok)
      (hcoalesced : result ≠ .coalesced) : Posts event result events events

/-- What taking an event does to the list; `fair` marks a fairness turn. -/
inductive Takes (fair : Prop) :
    List AppEvent → Option AppEvent → List AppEvent → Prop where
  | empty : Takes fair [] none []
  | head {event after} (hfair : fair) :
      Takes fair (event :: after) (some event) after
  | best {before event after} (hfair : ¬ fair)
      (hbefore : ∀ earlier ∈ before,
        event.priority.value < earlier.priority.value)
      (hafter : ∀ later ∈ after,
        event.priority.value ≤ later.priority.value) :
      Takes fair (before ++ event :: after) (some event) (before ++ after)

inductive QueueCall where
  | post (event : Option AppEvent)
  | postFromIsr (event : Option AppEvent)
  | tryGet
  deriving DecidableEq, Repr

namespace AppEventQueue

variable {queue : AppEventQueue} {event : AppEvent}
  {index bestIndex : Fin appEventQueueMaxCapacity}
  {buffer : Fin appEventQueueMaxCapacity → AppEvent}

/-- The list that the ring stands for. -/
def events (queue : AppEventQueue) : List AppEvent :=
  contents queue.buffer queue.head queue.count

/-- The next call of `tryGet` serves the oldest event. -/
def FairTurn (queue : AppEventQueue) : Prop :=
  queue.consecutiveDequeueCount ≥ 4

def call (queue : AppEventQueue) : QueueCall → AppEventQueue
  | .post event => (queue.post event).2
  | .postFromIsr event => (queue.postFromIsr event).2
  | .tryGet => queue.tryGet.2

def run (config : Option AppEventQueueConfig) (calls : List QueueCall) :
    AppEventQueue :=
  calls.foldl call (init config)

/-- What every reachable queue satisfies. -/
structure Represents (config : AppEventQueueConfig) (queue : AppEventQueue) :
    Prop where
  config_eq : queue.config = config
  reserved_le : config.reservedCritical.toNat ≤ config.capacity.toNat
  capacity_le : config.capacity.toNat ≤ appEventQueueMaxCapacity
  count_le : queue.count ≤ config.capacity.toNat
  tail_eq : queue.tail = advance queue.head queue.count
  levels : queue.events.Pairwise fun first second => ¬ SameLevel first second

/-! ## Walks -/

/-- The walk stops at the first LEVEL event with the id and source. -/
theorem findLevel_some {remaining : ℕ} {start : Fin appEventQueueMaxCapacity}
    (hfind : findLevel buffer event start remaining = some index) :
    ∃ offset < remaining, index = advance start offset ∧
      (buffer index).id = event.id ∧
      (buffer index).sourceId = event.sourceId ∧
      (buffer index).delivery = .level := by
  induction remaining generalizing start with
  | zero => simp [findLevel] at hfind
  | succ remaining ih =>
      rw [findLevel] at hfind
      split_ifs at hfind with hmatch
      · obtain rfl := Option.some.inj hfind
        exact ⟨0, Nat.succ_pos remaining, (advance_zero start).symm, hmatch⟩
      · obtain ⟨offset, hoffset, hindex, hmatch⟩ := ih hfind
        refine ⟨offset + 1, Nat.succ_lt_succ hoffset, ?_, hmatch⟩
        rw [hindex, advance_next]

theorem findLevel_none {remaining : ℕ} {start : Fin appEventQueueMaxCapacity}
    (hfind : findLevel buffer event start remaining = none) :
    ∀ other ∈ contents buffer start remaining, ¬ SameLevel other event := by
  induction remaining generalizing start with
  | zero => simp [contents]
  | succ remaining ih =>
      rw [findLevel] at hfind
      split_ifs at hfind with hmatch
      intro other hmem hsame
      rcases List.mem_cons.mp hmem with rfl | hmem
      · exact hmatch ⟨hsame.2.2.1, hsame.2.2.2, hsame.1⟩
      · exact ih hfind other hmem hsame

/-- On a fairness turn the walk keeps the index it starts from. -/
theorem scanBest_fair {priority : AppEventPriority} (remaining : ℕ) :
    scanBest buffer true bestIndex priority index remaining =
      (bestIndex, priority) := by
  induction remaining generalizing index with
  | zero => rfl
  | succ remaining ih => simpa [scanBest] using ih

/-- `best` is the first place with the least value among the first `count`. -/
def FirstLeast (value : ℕ → ℕ) (count best : ℕ) : Prop :=
  (∀ offset < best, value best < value offset) ∧
    ∀ offset < count, value best ≤ value offset

/-- The walk ends at the first entry of the best priority. -/
theorem scanBest_spec {head : Fin appEventQueueMaxCapacity} {seen best : ℕ}
    (remaining : ℕ) (hbest : best ≤ seen)
    (hleast : FirstLeast
      (fun offset => (buffer (advance head offset)).priority.value) seen best) :
    ∃ final, (final ≤ best ∨ final < seen + remaining) ∧
      scanBest buffer false (advance head best)
          (buffer (advance head best)).priority (advance head seen) remaining =
        (advance head final, (buffer (advance head final)).priority) ∧
      FirstLeast
        (fun offset => (buffer (advance head offset)).priority.value)
        (seen + remaining) final := by
  induction remaining generalizing seen best with
  | zero => exact ⟨best, Or.inl le_rfl, rfl, hleast⟩
  | succ remaining ih =>
      rw [scanBest, next_advance]
      split_ifs with hless
      · have hnew : FirstLeast
            (fun offset => (buffer (advance head offset)).priority.value)
            (seen + 1) seen := by
          constructor
          · intro offset hoffset
            exact lt_of_lt_of_le hless.2 (hleast.2 offset hoffset)
          · intro offset hoffset
            rcases Nat.lt_succ_iff_lt_or_eq.mp hoffset with hlt | rfl
            · exact (lt_of_lt_of_le hless.2 (hleast.2 offset hlt)).le
            · exact le_rfl
        obtain ⟨final, hfinal, hscan, hspec⟩ := ih (Nat.le_succ seen) hnew
        rw [Nat.succ_add_eq_add_succ] at hspec
        exact ⟨final, Or.inr (by omega), hscan, hspec⟩
      · have hkept : FirstLeast
            (fun offset => (buffer (advance head offset)).priority.value)
            (seen + 1) best := by
          refine ⟨hleast.1, ?_⟩
          intro offset hoffset
          rcases Nat.lt_succ_iff_lt_or_eq.mp hoffset with hlt | rfl
          · exact hleast.2 offset hlt
          · exact not_lt.mp fun hlt => hless ⟨rfl, hlt⟩
        obtain ⟨final, hfinal, hscan, hspec⟩ :=
          ih (Nat.le_succ_of_le hbest) hkept
        rw [Nat.succ_add_eq_add_succ] at hspec
        exact ⟨final, by omega, hscan, hspec⟩

/-! ## Posting -/

variable {config : AppEventQueueConfig}

/-- A coalesced post replaces its LEVEL event and keeps the invariant. -/
theorem Represents.coalesced (hqueue : Represents config queue)
    (hfind : findCoalesceTarget queue event = some index) :
    Posts (some event) .coalesced queue.events
        (contents (write queue.buffer index event) queue.head queue.count) ∧
      (contents (write queue.buffer index event) queue.head
        queue.count).Pairwise fun first second => ¬ SameLevel first second := by
  unfold findCoalesceTarget canCoalesce at hfind
  split_ifs at hfind with hlevel
  have hlevel : event.delivery = .level := by simpa using hlevel
  obtain ⟨offset, hoffset, rfl, hid, hsource, hdelivery⟩ :=
    findLevel_some hfind
  have hsame : SameLevel (queue.buffer (advance queue.head offset)) event :=
    ⟨hdelivery, hlevel, hid, hsource⟩
  have hsplit : queue.events = _ := contents_split queue.buffer queue.head hoffset
  have hlevels := hqueue.levels
  rw [hsplit, List.pairwise_append, List.pairwise_cons] at hlevels
  obtain ⟨hbefore, ⟨hold, hafter⟩, hcross⟩ := hlevels
  have hcount := hqueue.count_le.trans hqueue.capacity_le
  rw [contents_replace event hcount hoffset, hsplit]
  constructor
  · apply Posts.replaced rfl hsame
    intro other hmem hother
    rcases List.mem_append.mp hmem with hmem | hmem
    · exact hcross other hmem _ List.mem_cons_self (hother.trans hsame.symm)
    · exact hold other hmem (hsame.trans hother.symm)
  · rw [List.pairwise_append, List.pairwise_cons]
    refine ⟨hbefore, ⟨?_, hafter⟩, ?_⟩
    · intro later hmem hlater
      exact hold later hmem (hsame.trans hlater)
    · intro earlier hearlier later hmem hlater
      rcases List.mem_cons.mp hmem with rfl | hmem
      · exact hcross earlier hearlier _ List.mem_cons_self
          (hlater.trans hsame.symm)
      · exact hcross earlier hearlier later (List.mem_cons_of_mem _ hmem) hlater

/-- An event that does not coalesce meets no LEVEL event of its own kind. -/
theorem no_sameLevel (hfind : findCoalesceTarget queue event = none) :
    ∀ other ∈ queue.events, ¬ SameLevel other event := by
  unfold findCoalesceTarget canCoalesce at hfind
  split_ifs at hfind with hlevel
  · intro other _ hsame
    simp [hsame.2.1] at hlevel
  · exact findLevel_none hfind

/-- An event that finds room is appended and the invariant is kept. -/
theorem Represents.enqueue (hqueue : Represents config queue)
    (hfind : findCoalesceTarget queue event = none)
    (hroom : queue.count < config.capacity.toNat) :
    Represents config
        { queue with
          buffer := write queue.buffer queue.tail event
          tail := next queue.tail
          count := queue.count + 1 } ∧
      contents (write queue.buffer queue.tail event) queue.head
          (queue.count + 1) = queue.events ++ [event] := by
  have hpush := contents_push queue.buffer queue.head event
    (hroom.trans_le hqueue.capacity_le)
  rw [← hqueue.tail_eq] at hpush
  refine ⟨⟨hqueue.config_eq, hqueue.reserved_le, hqueue.capacity_le, hroom, ?_,
    ?_⟩, hpush⟩
  · simp only
    rw [hqueue.tail_eq, next_advance]
  · simp only [events, hpush, List.pairwise_append]
    refine ⟨hqueue.levels, by simp, ?_⟩
    intro other hmem posted hposted
    rw [List.mem_singleton.mp hposted]
    exact no_sameLevel hfind other hmem

/-- The share of the background events is below the capacity. -/
theorem Represents.background_le (hqueue : Represents config queue) :
    (queue.config.capacity - queue.config.reservedCritical.toUInt16).toNat ≤
      config.capacity.toNat := by
  rw [hqueue.config_eq, UInt16.toNat_sub_of_le]
  · exact Nat.sub_le _ _
  · exact UInt16.le_iff_toNat_le.mpr (by simpa using hqueue.reserved_le)

/-- A refused post leaves the ring alone. -/
theorem Represents.refused (hqueue : Represents config queue)
    {changed : AppEventQueue} {posted : Option AppEvent}
    {result : EventPostResult} (hok : result ≠ .ok)
    (hcoalesced : result ≠ .coalesced)
    (hbuffer : changed.buffer = queue.buffer) (hhead : changed.head = queue.head)
    (hcount : changed.count = queue.count) (htail : changed.tail = queue.tail)
    (hconfig : changed.config = queue.config) :
    Represents config changed ∧
      Posts posted result queue.events changed.events := by
  have hevents : changed.events = queue.events := by
    rw [events, events, hbuffer, hhead, hcount]
  constructor
  · refine ⟨hconfig.trans hqueue.config_eq, hqueue.reserved_le,
      hqueue.capacity_le, ?_, ?_, ?_⟩
    · rw [hcount]
      exact hqueue.count_le
    · rw [htail, hhead, hcount]
      exact hqueue.tail_eq
    · rw [hevents]
      exact hqueue.levels
  · rw [hevents]
    exact .unchanged hok hcoalesced

/-- One post is a post of the list and keeps the invariant. -/
theorem Represents.post (hqueue : Represents config queue)
    (posted : Option AppEvent) :
    Represents config (postUnlocked queue posted).2 ∧
      Posts posted (postUnlocked queue posted).1 queue.events
        (postUnlocked queue posted).2.events := by
  cases posted with
  | none =>
      have hok : EventPostResult.rejectedInvalid ≠ .ok := by decide
      have hcoalesced : EventPostResult.rejectedInvalid ≠ .coalesced := by decide
      exact hqueue.refused hok hcoalesced rfl rfl rfl rfl rfl
  | some event =>
      simp only [postUnlocked]
      cases hfind : findCoalesceTarget queue event with
      | some index =>
          obtain ⟨hposts, hlevels⟩ := hqueue.coalesced hfind
          exact ⟨⟨hqueue.config_eq, hqueue.reserved_le, hqueue.capacity_le,
            hqueue.count_le, hqueue.tail_eq, hlevels⟩, hposts⟩
      | none =>
          simp only
          split_ifs with hbackground hfull hcritical
          · exact hqueue.refused (by simp) (by simp) rfl rfl rfl rfl rfl
          · exact hqueue.refused (by simp) (by simp) rfl rfl rfl rfl rfl
          · exact hqueue.refused (by simp) (by simp) rfl rfl rfl rfl rfl
          · have hroom : queue.count < config.capacity.toNat := by
              have hle := hqueue.background_le
              have hcapacity := congrArg (·.capacity.toNat) hqueue.config_eq
              by_contra hnot
              cases hkind : !isPriorityCritical event.priority &&
                  !isPriorityMeasurement event.priority with
              | true => exact hbackground ⟨hkind, by omega⟩
              | false => exact hfull ⟨by rw [hkind]; rfl, by omega⟩
            obtain ⟨hrep, hevents⟩ := hqueue.enqueue hfind hroom
            refine ⟨hrep, ?_⟩
            simp only [events]
            rw [hevents]
            exact .appended rfl

/-! ## Taking -/

/-- The distance from the head of a place on the ring. -/
theorem offsetFrom_advance {head : Fin appEventQueueMaxCapacity} {offset : ℕ}
    (hoffset : offset < appEventQueueMaxCapacity) :
    offsetFrom head (advance head offset) = offset := by
  have hhead := head.isLt
  simp only [offsetFrom, advance, appEventQueueMaxCapacity] at *
  omega

theorem previous_advance {head : Fin appEventQueueMaxCapacity} {count : ℕ}
    (hcount : 0 < count) :
    previous (advance head count) = advance head (count - 1) := by
  apply Fin.ext
  simp only [previous, advance, appEventQueueMaxCapacity]
  omega

/-- Where a nonempty queue takes from: the head on a fairness turn, otherwise
the first event of the best priority. -/
theorem scanBest_head (hcount : 0 < queue.count) (fair : Bool) :
    ∃ offset < queue.count,
      (scanBest queue.buffer fair queue.head (queue.buffer queue.head).priority
        queue.head queue.count).1 = advance queue.head offset ∧
      (fair = true → offset = 0) ∧
      (fair = false → FirstLeast
        (fun place =>
          (queue.buffer (advance queue.head place)).priority.value)
        queue.count offset) := by
  cases fair with
  | true =>
      refine ⟨0, hcount, ?_, fun _ => rfl, by simp⟩
      rw [scanBest_fair, advance_zero]
  | false =>
      have hstart : FirstLeast
          (fun place =>
            (queue.buffer (advance queue.head place)).priority.value) 0 0 :=
        ⟨fun _ hlt => absurd hlt (Nat.not_lt_zero _),
          fun _ hlt => absurd hlt (Nat.not_lt_zero _)⟩
      obtain ⟨final, hfinal, hscan, hleast⟩ :=
        scanBest_spec queue.count le_rfl hstart
      rw [Nat.zero_add] at hfinal hleast
      rw [advance_zero] at hscan
      refine ⟨final, by omega, ?_, by simp, fun _ => hleast⟩
      rw [hscan]

/-- One `tryGet` takes from the list and keeps the invariant. -/
theorem Represents.tryGet (hqueue : Represents config queue) :
    Represents config queue.tryGet.2 ∧
      Takes queue.FairTurn queue.events queue.tryGet.1 queue.tryGet.2.events := by
  unfold AppEventQueue.tryGet
  split_ifs with hempty
  · refine ⟨hqueue, ?_⟩
    rw [events, hempty]
    exact .empty
  · have hpos : 0 < queue.count := Nat.pos_of_ne_zero hempty
    have hcount := hqueue.count_le.trans hqueue.capacity_le
    obtain ⟨offset, hoffset, hbest, hfair, hleast⟩ :=
      scanBest_head hpos (decide (queue.consecutiveDequeueCount ≥ 4))
    have hremove := contents_remove queue.buffer queue.head hcount hoffset
    have hsplit : queue.events = _ := contents_split queue.buffer queue.head hoffset
    simp only [hbest, offsetFrom_advance (hoffset.trans_le hcount)]
    constructor
    · refine ⟨hqueue.config_eq, hqueue.reserved_le, hqueue.capacity_le, ?_, ?_,
        ?_⟩
      · exact (Nat.sub_le _ _).trans hqueue.count_le
      · simp only
        rw [hqueue.tail_eq, previous_advance hpos]
      · have hlevels := hqueue.levels
        rw [hsplit] at hlevels
        simp only [events, hremove]
        exact List.Pairwise.sublist
          (List.Sublist.append_left (List.sublist_cons_self _ _) _) hlevels
    · rw [hsplit]
      simp only [events, hremove]
      by_cases hturn : queue.FairTurn
      · obtain rfl := hfair (decide_eq_true hturn)
        exact .head hturn
      · obtain ⟨hfirst, hothers⟩ := hleast (decide_eq_false hturn)
        apply Takes.best hturn
        · intro earlier hmem
          obtain ⟨place, hplace, rfl⟩ := mem_contents.mp hmem
          exact hfirst place hplace
        · intro later hmem
          obtain ⟨place, hplace, rfl⟩ := mem_contents.mp hmem
          rw [advance_advance]
          exact hothers _ (by omega)

/-! ## Whole runs -/

theorem clampConfig_bounds (config : AppEventQueueConfig) :
    (clampConfig config).reservedCritical.toNat ≤
        (clampConfig config).capacity.toNat ∧
      (clampConfig config).capacity.toNat ≤ appEventQueueMaxCapacity := by
  have hcapacity : (clampConfig config).capacity.toNat ≤ 64 := by
    simp only [clampConfig]
    split_ifs with hlarge
    · exact le_rfl
    · exact UInt16.le_iff_toNat_le.mp (UInt16.not_lt.mp hlarge)
  refine ⟨?_, hcapacity⟩
  simp only [clampConfig] at hcapacity ⊢
  generalize (if config.capacity > 64 then 64 else config.capacity) = capacity
    at hcapacity ⊢
  split_ifs with hreserved
  · rw [UInt16.toNat_toUInt8]
    exact Nat.mod_le _ _
  · simpa using UInt16.le_iff_toNat_le.mp (UInt16.not_lt.mp hreserved)

theorem init_represents (config : Option AppEventQueueConfig) :
    Represents (clampConfig (config.getD fallbackConfig)) (init config) := by
  obtain ⟨hreserved, hcapacity⟩ :=
    clampConfig_bounds (config.getD fallbackConfig)
  exact ⟨rfl, hreserved, hcapacity, Nat.zero_le _, (advance_zero 0).symm,
    List.Pairwise.nil⟩

theorem Represents.call (hqueue : Represents config queue)
    (request : QueueCall) : Represents config (queue.call request) := by
  cases request with
  | post event => exact (hqueue.post event).1
  | postFromIsr event => exact (hqueue.post event).1
  | tryGet => exact hqueue.tryGet.1

theorem run_represents (config : Option AppEventQueueConfig)
    (calls : List QueueCall) :
    Represents (clampConfig (config.getD fallbackConfig)) (run config calls) := by
  have hfold : ∀ (calls : List QueueCall) (queue : AppEventQueue),
      Represents (clampConfig (config.getD fallbackConfig)) queue →
      Represents (clampConfig (config.getD fallbackConfig))
        (calls.foldl AppEventQueue.call queue) := by
    intro calls
    induction calls with
    | nil => exact fun _ hqueue => hqueue
    | cons request calls ih => exact fun _ hqueue => ih _ (hqueue.call request)
  exact hfold calls (init config) (init_represents config)

/-- The event queue refines a list: in every queue that a run reaches, each
call does to `events` what `Posts` or `Takes` allows, LEVEL events are unique,
and the ring's counters agree with the list. -/
theorem queue_refines_list (config : Option AppEventQueueConfig)
    (calls : List QueueCall) :
    let queue := run config calls
    (∀ event, Posts event (queue.post event).1 queue.events
        (queue.post event).2.events) ∧
      (∀ event, Posts event (queue.postFromIsr event).1 queue.events
        (queue.postFromIsr event).2.events) ∧
      Takes queue.FairTurn queue.events queue.tryGet.1
        queue.tryGet.2.events ∧
      (queue.events.Pairwise fun first second => ¬ SameLevel first second) ∧
      queue.events.length = queue.count ∧
      queue.events.length ≤
        (clampConfig (config.getD fallbackConfig)).capacity.toNat ∧
      queue.events.length ≤ 64 ∧
      queue.tail.val = (queue.head.val + queue.count) % 64 := by
  intro queue
  have hqueue : Represents (clampConfig (config.getD fallbackConfig)) queue :=
    run_represents config calls
  have hlength : queue.events.length = queue.count := length_contents _ _ _
  refine ⟨fun event => (hqueue.post event).2, fun event => (hqueue.post event).2,
    hqueue.tryGet.2, hqueue.levels, hlength, ?_, ?_, ?_⟩
  · rw [hlength]
    exact hqueue.count_le
  · rw [hlength]
    exact hqueue.count_le.trans hqueue.capacity_le
  · exact congrArg Fin.val hqueue.tail_eq

end AppEventQueue
end Swfpm
