import Swfpm.Max35103.Evidence

/-!
# What an event that timed out accounts for

Where event timing gives an event up, each half that the mode expects has been
handed to the result queues since the event began, and the records of the event
carry one number.  The exception is a deadline that comes while the result bank
of a combined status word is read: the temperature half then counts as seen, and
no record stands for it.
-/

namespace Swfpm.Max35103

open Evidence

/-! ## Flags -/

theorem flags_ne_zero_iff {flags : UInt16} :
    flags ≠ 0 ↔ ∃ i, flags.toBitVec.getLsbD i = true := by
  constructor
  · intro hne
    by_contra hnone
    push Not at hnone
    refine hne (UInt16.toBitVec_inj.mp (BitVec.eq_of_getLsbD_eq fun i _ => ?_))
    simpa using hnone i
  · rintro ⟨i, hset⟩ rfl
    simp at hset

theorem or_shows_iff {first second flag : UInt16} :
    (first ||| second) &&& flag ≠ 0 ↔ first &&& flag ≠ 0 ∨ second &&& flag ≠ 0 := by
  simp only [flags_ne_zero_iff, UInt16.toBitVec_and, UInt16.toBitVec_or,
    BitVec.getLsbD_and, BitVec.getLsbD_or, Bool.and_eq_true, Bool.or_eq_true]
  rw [← exists_or]
  refine exists_congr fun i => ?_
  rw [or_and_right]

theorem shows_of_and {first second flag : UInt16}
    (hboth : (first &&& second) &&& flag ≠ 0) : first &&& flag ≠ 0 := by
  rw [flags_ne_zero_iff] at hboth ⊢
  obtain ⟨i, hset⟩ := hboth
  simp only [UInt16.toBitVec_and, BitVec.getLsbD_and, Bool.and_eq_true] at hset ⊢
  exact ⟨i, hset.1.1, hset.2⟩

/-- A flag outside a mask's flags is not shown either. -/
theorem shows_of_covered {flags mask flag : UInt16} (hcovers : Covers mask flag)
    (hshown : flags &&& flag ≠ 0) : flags &&& mask ≠ 0 := by
  rw [flags_ne_zero_iff] at hshown ⊢
  obtain ⟨i, hset⟩ := hshown
  simp only [UInt16.toBitVec_and, BitVec.getLsbD_and, Bool.and_eq_true] at hset ⊢
  exact ⟨i, hset.1, covers_iff.mp hcovers i hset.2⟩

/-- The flag is a single bit. -/
def Single (flag : UInt16) : Prop :=
  ∃ bit, ∀ i, flag.toBitVec.getLsbD i = true ↔ i = bit

theorem single_of_twoPow {flag : UInt16} (bit : ℕ) (hbit : bit < 16)
    (hflag : flag.toBitVec = BitVec.twoPow 16 bit) : Single flag := by
  refine ⟨bit, fun i => ?_⟩
  rw [hflag, BitVec.getLsbD_twoPow]
  simp [hbit, eq_comm]

theorem single_tof : Single intTofEvtmg :=
  single_of_twoPow 9 (by decide) (by decide)

theorem single_temperature : Single intTempEvtmg :=
  single_of_twoPow 8 (by decide) (by decide)

/-- What is expected and not seen is missing. -/
theorem missing_shows_iff {flag : UInt16} (hflag : Single flag)
    {expected seen : UInt16} :
    (expected &&& ~~~seen) &&& flag ≠ 0 ↔
      expected &&& flag ≠ 0 ∧ seen &&& flag = 0 := by
  obtain ⟨bit, hbit⟩ := hflag
  have hshows : ∀ flags : UInt16,
      flags &&& flag ≠ 0 ↔ flags.toBitVec.getLsbD bit = true := by
    intro flags
    rw [flags_ne_zero_iff]
    simp only [UInt16.toBitVec_and, BitVec.getLsbD_and, Bool.and_eq_true, hbit]
    constructor
    · rintro ⟨i, hset, rfl⟩
      exact hset
    · exact fun hset => ⟨bit, hset, rfl⟩
  have hlt : bit < 16 := BitVec.lt_of_getLsbD ((hbit bit).mpr rfl)
  have hseen : seen &&& flag = 0 ↔ seen.toBitVec.getLsbD bit = false := by
    rw [← Bool.not_eq_true, ← hshows seen, not_not]
  rw [hshows, hshows, hseen]
  simp [hlt]

/-! ## The records of an event -/

/-- The events between which an event of the device lies. -/
def Event.bounds : Event → Bool
  | .started _ | .eventComplete _ | .timedOut | .cancelled => true
  | _ => false

/-- The number of a record. -/
def Event.recordNumber : Event → Option UInt32
  | .tofHanded number | .temperatureHanded number => some number
  | _ => none

/-- What a log shows of the present event. -/
def current (log : List Event) : List Event :=
  log.takeWhile fun event => !event.bounds

def HasTof (events : List Event) : Prop := ∃ number, .tofHanded number ∈ events

def HasTemperature (events : List Event) : Prop :=
  ∃ number, .temperatureHanded number ∈ events

/-- The last status word showed both halves, and no transfer was completed
since. -/
def bankUnread : List Event → Bool
  | .tofHanded _ :: past => bankUnread past
  | .temperatureHanded _ :: past => bankUnread past
  | .statusRead status _ :: _ =>
      status &&& tofReady ≠ 0 && status &&& intTempEvtmg ≠ 0
  | _ => false

/-- What must have been handed out before an event is given up.  The number is
that of an event that began with event timing active. -/
structure Accounted (wanted : UInt16) (lasting : Bool) (past : List Event) :
    Prop where
  tof : wanted &&& intTofEvtmg ≠ 0 → HasTof (current past)
  temperature : wanted &&& intTempEvtmg ≠ 0 →
    HasTemperature (current past) ∨ bankUnread past = true
  number : lasting = true ∨ current past = past →
    ∃ number ≠ 0, ∀ event ∈ current past, ∀ other,
      event.recordNumber = some other → other = number

/-- Every event that was given up was accounted for. -/
def TimelyEntry (wanted : UInt16) (lasting : Bool) (event : Event)
    (past : List Event) : Prop :=
  event = .timedOut → Accounted wanted lasting past

/-- Events that neither bound an event nor are records of one. -/
def Event.silent : Event → Bool
  | .drain _ | .completed _ | .statusRead .. => true
  | _ => false

theorem current_cons {event : Event} (hinside : event.bounds = false)
    (past : List Event) : current (event :: past) = event :: current past := by
  simp [current, hinside]

theorem current_bound {event : Event} (hbound : event.bounds = true)
    (past : List Event) : current (event :: past) = [] := by
  simp [current, hbound]

theorem bounds_of_silent {event : Event} (hsilent : event.silent = true) :
    event.bounds = false ∧ event.recordNumber = none := by
  cases event <;> first | exact ⟨rfl, rfl⟩ | exact absurd hsilent nofun

/-! ## The ledger of an event -/

/-- What the numbering of records looks at. -/
def EventView.account (view : EventView) :
    List Event × UInt16 × Bool × Bool × UInt32 × UInt32 × Bool :=
  (view.log, view.expected, view.continuous, view.active, view.nextSequence,
    view.sequence, view.sequenceValid)

/-- The log since event timing started, and the numbers of the present event. -/
structure Ledger (wanted : UInt16) (lasting : Bool)
    (base recorded : List Event) (view : EventView) : Prop where
  log : view.log = recorded ++ base
  timely : EveryEntry (TimelyEntry wanted lasting) recorded
  expected : view.expected = wanted
  continuous : view.continuous = lasting
  active : lasting = true ∨ current recorded = recorded → view.active = true
  next : view.nextSequence ≠ 0
  sequence : view.sequenceValid = true → view.sequence ≠ 0
  numbered : view.active = true → ∀ event ∈ current recorded, ∀ number,
    event.recordNumber = some number →
      view.sequenceValid = true ∧ number = view.sequence

variable {wanted : UInt16} {lasting : Bool} {base recorded : List Event}
variable {view next : EventView}

theorem after_ne_zero (number : UInt32) : EventView.after number ≠ 0 := by
  unfold EventView.after
  split_ifs with hwrap
  · decide
  · exact hwrap

namespace Ledger

theorem congr (hledger : Ledger wanted lasting base recorded view)
    (hsame : next.account = view.account) :
    Ledger wanted lasting base recorded next := by
  simp only [EventView.account, Prod.mk.injEq] at hsame
  obtain ⟨hlog, hexpected, hcontinuous, hactive, hnext, hsequence, hvalid⟩ := hsame
  refine ⟨hlog.trans hledger.log, hledger.timely, hexpected.trans hledger.expected,
    hcontinuous.trans hledger.continuous, ?_, ?_, ?_, ?_⟩
  · rw [hactive]
    exact hledger.active
  · rw [hnext]
    exact hledger.next
  · rw [hvalid, hsequence]
    exact hledger.sequence
  · rw [hactive, hvalid, hsequence]
    exact hledger.numbered

theorem timely_cons (hledger : Ledger wanted lasting base recorded view)
    {event : Event} (hother : event ≠ .timedOut) :
    EveryEntry (TimelyEntry wanted lasting) (event :: recorded) :=
  everyEntry_cons.mpr ⟨fun heq => absurd heq hother, hledger.timely⟩

/-- An event of the log that says nothing of records. -/
theorem note (hledger : Ledger wanted lasting base recorded view)
    {event : Event} (hsilent : event.silent = true) :
    Ledger wanted lasting base (event :: recorded) (view.note event) := by
  obtain ⟨hbounds, hnumber⟩ := bounds_of_silent hsilent
  have hother : event ≠ .timedOut := by
    rintro rfl
    exact absurd hsilent nofun
  refine ⟨?_, hledger.timely_cons hother, hledger.expected, hledger.continuous,
    ?_, hledger.next, hledger.sequence, ?_⟩
  · exact congrArg (event :: ·) hledger.log
  · rw [current_cons hbounds, List.cons.injEq]
    rintro (hcontinuous | ⟨-, hfirst⟩)
    · exact hledger.active (Or.inl hcontinuous)
    · exact hledger.active (Or.inr hfirst)
  · intro hactive other hmem number hshown
    rw [current_cons hbounds, List.mem_cons] at hmem
    rcases hmem with rfl | hmem
    · rw [hnumber] at hshown
      exact absurd hshown nofun
    · exact hledger.numbered hactive other hmem number hshown

/-- A record takes the number of its event. -/
theorem hand (hledger : Ledger wanted lasting base recorded view)
    {record : UInt32 → Event}
    (hrecord : ∀ number, (record number).recordNumber = some number)
    (hbounds : ∀ number, (record number).bounds = false)
    (hother : ∀ number, record number ≠ .timedOut) :
    Ledger wanted lasting base (record view.number.1 :: recorded)
      (view.number.2.note (record view.number.1)) := by
  obtain ⟨nextSequence, sequence, sequenceValid, hnumber⟩ := view.number_eq
  have hfirst : lasting = true ∨
      current (record view.number.1 :: recorded) =
        record view.number.1 :: recorded → view.active = true := by
    rw [current_cons (hbounds _), List.cons.injEq]
    rintro (hcontinuous | ⟨-, hfirst⟩)
    · exact hledger.active (Or.inl hcontinuous)
    · exact hledger.active (Or.inr hfirst)
  have hnumbers : view.number.2.nextSequence ≠ 0 ∧
      (view.number.2.sequenceValid = true → view.number.2.sequence ≠ 0) ∧
      (view.active = true → view.number.2.sequenceValid = true ∧
        view.number.1 = view.number.2.sequence ∧
        (view.sequenceValid = true →
          view.number.2.sequence = view.sequence)) := by
    unfold EventView.number EventView.allocate
    split_ifs with hactive hvalid
    · refine ⟨after_ne_zero _, hledger.sequence, fun hother => ?_⟩
      rw [hactive] at hother
      exact absurd hother (by decide)
    · exact ⟨hledger.next, hledger.sequence, fun _ => ⟨hvalid, rfl, fun _ => rfl⟩⟩
    · exact ⟨after_ne_zero _, fun _ => hledger.next,
        fun _ => ⟨rfl, rfl, fun hset => absurd hset hvalid⟩⟩
  obtain ⟨hnext, hsequence, hactiveNumber⟩ := hnumbers
  have hsame : view.number.2.log = view.log ∧
      view.number.2.expected = view.expected ∧
      view.number.2.continuous = view.continuous ∧
      view.number.2.active = view.active := by
    rw [hnumber]
    exact ⟨rfl, rfl, rfl, rfl⟩
  obtain ⟨hlog, hexpected, hcontinuous, hactive⟩ := hsame
  refine ⟨?_, hledger.timely_cons (hother _), hexpected.trans hledger.expected,
    hcontinuous.trans hledger.continuous, ?_, hnext, hsequence, ?_⟩
  · exact congrArg (record view.number.1 :: ·) (hlog.trans hledger.log)
  · intro hbegun
    exact hactive.trans (hfirst hbegun)
  · intro hon other hmem number hshown
    obtain ⟨hvalid, htaken, hkept⟩ := hactiveNumber (hactive.symm.trans hon)
    refine ⟨hvalid, ?_⟩
    rw [current_cons (hbounds _), List.mem_cons] at hmem
    rcases hmem with rfl | hmem
    · rw [hrecord, Option.some.injEq] at hshown
      exact hshown.symm.trans htaken
    · obtain ⟨hset, heq⟩ :=
        hledger.numbered (hactive.symm.trans hon) other hmem number hshown
      exact heq.trans (hkept hset).symm

theorem handTof (hledger : Ledger wanted lasting base recorded view) :
    Ledger wanted lasting base (.tofHanded view.number.1 :: recorded)
      view.handTof :=
  hledger.hand (fun _ => rfl) (fun _ => rfl) fun _ => nofun

theorem handTemperature (hledger : Ledger wanted lasting base recorded view) :
    Ledger wanted lasting base (.temperatureHanded view.number.1 :: recorded)
      view.handTemperature :=
  hledger.hand (fun _ => rfl) (fun _ => rfl) fun _ => nofun

end Ledger

theorem HasTof.cons {past : List Event} (htof : HasTof (current past))
    {event : Event} (hbounds : event.bounds = false) :
    HasTof (current (event :: past)) := by
  obtain ⟨number, hmem⟩ := htof
  rw [current_cons hbounds]
  exact ⟨number, List.mem_cons_of_mem _ hmem⟩

theorem HasTemperature.cons {past : List Event}
    (htemperature : HasTemperature (current past)) {event : Event}
    (hbounds : event.bounds = false) : HasTemperature (current (event :: past)) := by
  obtain ⟨number, hmem⟩ := htemperature
  rw [current_cons hbounds]
  exact ⟨number, List.mem_cons_of_mem _ hmem⟩

theorem hasTof_handed (number : UInt32) (past : List Event) :
    HasTof (current (.tofHanded number :: past)) := by
  rw [current_cons rfl]
  exact ⟨number, List.mem_cons_self⟩

theorem hasTemperature_handed (number : UInt32) (past : List Event) :
    HasTemperature (current (.temperatureHanded number :: past)) := by
  rw [current_cons rfl]
  exact ⟨number, List.mem_cons_self⟩

/-- The records of the missing halves, beside those that were handed out. -/
theorem Ledger.handParts (hledger : Ledger wanted lasting base recorded view)
    (parts : UInt16) : ∃ reported,
      Ledger wanted lasting base reported (view.handParts parts) ∧
      (HasTof (current recorded) ∨ parts &&& intTofEvtmg ≠ 0 →
        HasTof (current reported)) ∧
      (HasTemperature (current recorded) ∨ parts &&& intTempEvtmg ≠ 0 →
        HasTemperature (current reported)) ∧
      bankUnread reported = bankUnread recorded := by
  unfold EventView.handParts
  split_ifs with htof htemperature htemperature
  · refine ⟨_, hledger.handTof.handTemperature, fun _ => ?_, fun _ => ?_, rfl⟩
    · exact (hasTof_handed _ _).cons rfl
    · exact hasTemperature_handed _ _
  · refine ⟨_, hledger.handTof, fun _ => hasTof_handed _ _, ?_, rfl⟩
    rintro (hhad | hpart)
    · exact hhad.cons rfl
    · exact absurd hpart htemperature
  · refine ⟨_, hledger.handTemperature, ?_, fun _ => hasTemperature_handed _ _, rfl⟩
    rintro (hhad | hpart)
    · exact hhad.cons rfl
    · exact absurd hpart htof
  · refine ⟨recorded, hledger, ?_, ?_, rfl⟩
    · rintro (hhad | hpart)
      · exact hhad
      · exact absurd hpart htof
    · rintro (hhad | hpart)
      · exact hhad
      · exact absurd hpart htemperature

/-! ## What each state has handed out -/

/-- Every half that was seen has been handed out. -/
structure Halves (recorded : List Event) (view : EventView) : Prop where
  tof : view.seen &&& intTofEvtmg ≠ 0 → HasTof (current recorded)
  temperature : view.seen &&& intTempEvtmg ≠ 0 → HasTemperature (current recorded)

theorem Halves.cons {event : Event} (hhalves : Halves recorded view)
    (hbounds : event.bounds = false) (hseen : next.seen = view.seen) :
    Halves (event :: recorded) next := by
  refine ⟨fun hshown => ?_, fun hshown => ?_⟩
  · rw [hseen] at hshown
    exact (hhalves.tof hshown).cons hbounds
  · rw [hseen] at hshown
    exact (hhalves.temperature hshown).cons hbounds

/-- The invariant of event timing: what its states have still to hand out. -/
inductive Tallied (wanted : UInt16) (lasting : Bool) (base : List Event)
    (view : EventView) : Prop
  | outside (recorded : List Event) (hlog : view.log = recorded ++ base)
      (htimely : EveryEntry (TimelyEntry wanted lasting) recorded)
      (hstate : ¬ view.inEvent)
  | waiting (recorded : List Event)
      (hledger : Ledger wanted lasting base recorded view)
      (hstate : view.state = .eventRunning ∨ view.state = .drainStatus)
      (hhalves : Halves recorded view)
  | bank (recorded : List Event)
      (hledger : Ledger wanted lasting base recorded view)
      (hstate : view.state = .readResult)
      (htemperature : view.seen &&& intTempEvtmg ≠ 0 →
        HasTemperature (current recorded) ∨
          view.latched &&& intTempEvtmg ≠ 0 ∧ bankUnread recorded = true)
  | temperature (recorded : List Event)
      (hledger : Ledger wanted lasting base recorded view)
      (hstate : view.state = .readTempResult)
      (htof : view.seen &&& intTofEvtmg ≠ 0 → HasTof (current recorded))

/-- The part of the invariant that an event leaves behind. -/
theorem Tallied.timely (htallied : Tallied wanted lasting base view) :
    ∃ recorded, view.log = recorded ++ base ∧
      EveryEntry (TimelyEntry wanted lasting) recorded := by
  cases htallied with
  | outside recorded hlog htimely => exact ⟨recorded, hlog, htimely⟩
  | waiting recorded hledger => exact ⟨recorded, hledger.log, hledger.timely⟩
  | bank recorded hledger => exact ⟨recorded, hledger.log, hledger.timely⟩
  | temperature recorded hledger => exact ⟨recorded, hledger.log, hledger.timely⟩

theorem outside_of_state (state : DriverState) (hstate : view.state = state)
    (hother : state = .error ∨ state = .timeout ∨ state = .idle) :
    ¬ view.inEvent := by
  unfold EventView.inEvent
  rcases hother with rfl | rfl | rfl <;> simp [hstate]

theorem Tallied.fail (htallied : Tallied wanted lasting base view) :
    Tallied wanted lasting base view.fail := by
  obtain ⟨recorded, hlog, htimely⟩ := htallied.timely
  exact .outside recorded hlog htimely (outside_of_state .error rfl (.inl rfl))

namespace Ledger

theorem fail (hledger : Ledger wanted lasting base recorded view)
    (hlog : next.log = view.log) : Tallied wanted lasting base next.fail :=
  .outside recorded (hlog.trans hledger.log) hledger.timely
    (outside_of_state .error rfl (.inl rfl))

/-- An event is given up once the records of its halves are handed out. -/
theorem timeOut (hledger : Ledger wanted lasting base recorded view)
    (htof : view.seen &&& intTofEvtmg ≠ 0 → HasTof (current recorded))
    (htemperature : view.seen &&& intTempEvtmg ≠ 0 →
      HasTemperature (current recorded) ∨ bankUnread recorded = true) :
    Tallied wanted lasting base view.timeOut := by
  obtain ⟨reported, hreported, htofReported, htemperatureReported, hunread⟩ :=
    hledger.handParts (view.expected &&& ~~~view.seen)
  have haccounted : Accounted wanted lasting reported := by
    refine ⟨fun hexpected => htofReported ?_, fun hexpected => ?_, fun hbegun => ?_⟩
    · by_cases hseen : view.seen &&& intTofEvtmg = 0
      · right
        rw [missing_shows_iff single_tof, hledger.expected]
        exact ⟨hexpected, hseen⟩
      · exact Or.inl (htof hseen)
    · by_cases hseen : view.seen &&& intTempEvtmg = 0
      · refine Or.inl (htemperatureReported (Or.inr ?_))
        rw [missing_shows_iff single_temperature, hledger.expected]
        exact ⟨hexpected, hseen⟩
      · rcases htemperature hseen with hhad | hbank
        · exact Or.inl (htemperatureReported (Or.inl hhad))
        · exact Or.inr (hunread.trans hbank)
    · have hactive := hreported.active hbegun
      by_cases hvalid : (view.handParts
          (view.expected &&& ~~~view.seen)).sequenceValid = true
      · refine ⟨_, hreported.sequence hvalid, fun event hmem other hnumber => ?_⟩
        exact (hreported.numbered hactive event hmem other hnumber).2
      · refine ⟨1, by decide, fun event hmem other hnumber => ?_⟩
        exact absurd (hreported.numbered hactive event hmem other hnumber).1 hvalid
  refine .outside (.timedOut :: reported) ?_ ?_ (outside_of_state .timeout rfl (.inr (.inl rfl)))
  · exact congrArg (Event.timedOut :: ·) hreported.log
  · exact everyEntry_cons.mpr ⟨fun _ => haccounted, hreported.timely⟩

/-- A completed event leaves an empty ledger. -/
theorem close (hledger : Ledger wanted lasting base recorded view) :
    Ledger wanted lasting base (.eventComplete view.expected :: recorded)
      view.close := by
  refine ⟨?_, hledger.timely_cons nofun, hledger.expected, hledger.continuous, ?_,
    hledger.next, ?_, ?_⟩
  · exact congrArg (Event.eventComplete view.expected :: ·) hledger.log
  · rw [current_bound rfl]
    rintro (hcontinuous | hempty)
    · have hactive := hledger.active (Or.inl hcontinuous)
      have hagain := hledger.continuous.trans hcontinuous
      change (view.active && view.continuous) = true
      rw [hactive, hagain]
      rfl
    · exact absurd hempty (by simp)
  · intro hvalid
    exact absurd (show false = true from hvalid) (by decide)
  · intro _ event hmem
    rw [current_bound rfl] at hmem
    exact absurd hmem (by simp)

theorem openDrain (hledger : Ledger wanted lasting base recorded view)
    (hhalves : Halves recorded view) (nowUs : UInt64) :
    Tallied wanted lasting base (view.openDrain nowUs) := by
  have hdrain : Ledger wanted lasting base (.drain view.nextToken :: recorded)
      (view.openDrain nowUs) :=
    (hledger.note (show (Event.drain view.nextToken).silent = true from rfl)).congr rfl
  exact .waiting _ hdrain (Or.inr rfl) (hhalves.cons rfl rfl)

/-- After the results of a status word. -/
theorem finish (hledger : Ledger wanted lasting base recorded view)
    (hhalves : Halves recorded view) (status : UInt16) :
    Tallied wanted lasting base (view.finish status) := by
  have hsettled : ∀ (settled : EventView) (kept : List Event),
      Ledger wanted lasting base kept settled → Halves kept settled →
      ∀ complete, Tallied wanted lasting base
        (if settled.recheck then settled.drainAgain else settled.rest complete) := by
    intro settled kept hkept hhalves complete
    split_ifs with hrecheck
    · have hcleared : Ledger wanted lasting base kept
          { settled with recheck := false, pendingIrqUs := 0 } := hkept.congr rfl
      exact hcleared.openDrain ⟨hhalves.tof, hhalves.temperature⟩ _
    · by_cases hactive : settled.active = true
      · refine .waiting kept (hkept.congr rfl) (Or.inl ?_)
          ⟨hhalves.tof, hhalves.temperature⟩
        exact if_pos hactive
      · refine .outside kept hkept.log hkept.timely
          (outside_of_state .idle ?_ (.inr (.inr rfl)))
        exact if_neg hactive
  unfold EventView.finish
  split_ifs with htimeout hdone
  · exact hledger.timeOut hhalves.tof fun hseen => Or.inl (hhalves.temperature hseen)
  · refine hsettled _ _ hledger.close ⟨fun hseen => ?_, fun hseen => ?_⟩ _
    · exact absurd (UInt16.zero_and : (0 : UInt16) &&& intTofEvtmg = 0) hseen
    · exact absurd (UInt16.zero_and : (0 : UInt16) &&& intTempEvtmg = 0) hseen
  · exact hsettled _ _ hledger hhalves _

end Ledger

/-! ## Completions -/

theorem Ledger.complete (hledger : Ledger wanted lasting base recorded view) :
    Ledger wanted lasting base (.completed view.token :: recorded)
      view.complete :=
  (show Ledger wanted lasting base recorded view.withdraw from
    hledger.congr rfl).note rfl

/-- A status word in an event whose seen halves are handed out. -/
theorem Ledger.statusDone (hledger : Ledger wanted lasting base recorded view)
    (hhalves : Halves recorded view) (status : UInt16) :
    Tallied wanted lasting base (view.statusDone status) := by
  have hheard : Ledger wanted lasting base
      (.statusRead status view.active :: recorded) (view.hear status) :=
    (show Ledger wanted lasting base recorded { view with latched := status } from
      hledger.congr rfl).note rfl
  have hkept : Halves (.statusRead status view.active :: recorded)
      (view.hear status) := hhalves.cons rfl rfl
  have hseen : ∀ flag, ((view.hear status).see status).seen &&& flag ≠ 0 →
      view.seen &&& flag ≠ 0 ∨ status &&& flag ≠ 0 := by
    intro flag hshown
    rcases or_shows_iff.mp hshown with hbefore | hnow
    · exact Or.inl hbefore
    · exact Or.inr (shows_of_and hnow)
  unfold EventView.statusDone
  dsimp only
  split_ifs with hdead hpor htof htemperature
  · exact hheard.fail rfl
  · obtain ⟨reported, hreported, -⟩ := hheard.handParts (view.hear status).expected
    exact hreported.fail rfl
  · refine .bank _ (hheard.congr rfl) rfl fun hshown => ?_
    rcases hseen _ hshown with hbefore | hnow
    · exact Or.inl (hkept.temperature hbefore)
    · refine Or.inr ⟨hnow, ?_⟩
      simp [bankUnread, htof, hnow]
  · refine .temperature _ (hheard.congr rfl) rfl fun hshown => ?_
    rcases hseen _ hshown with hbefore | hnow
    · exact hkept.tof hbefore
    · exact absurd (shows_of_covered (by decide) hnow) htof
  · have hsaw : Ledger wanted lasting base
        (.statusRead status view.active :: recorded)
        ((view.hear status).see status) := hheard.congr rfl
    refine hsaw.finish ⟨fun hshown => ?_, fun hshown => ?_⟩ status
    · rcases hseen _ hshown with hbefore | hnow
      · exact hkept.tof hbefore
      · exact absurd (shows_of_covered (by decide) hnow) htof
    · rcases hseen _ hshown with hbefore | hnow
      · exact hkept.temperature hbefore
      · exact absurd (shows_of_covered (by decide) hnow) htemperature

theorem Ledger.resultDone (hledger : Ledger wanted lasting base recorded view)
    (htemperature : view.seen &&& intTempEvtmg ≠ 0 →
      HasTemperature (current recorded) ∨ view.latched &&& intTempEvtmg ≠ 0) :
    Tallied wanted lasting base view.resultDone := by
  have htof := hasTof_handed view.number.1 recorded
  unfold EventView.resultDone
  dsimp only
  split_ifs with hready
  · exact .temperature _ (hledger.handTof.congr rfl) rfl fun _ => htof
  · refine hledger.handTof.finish ⟨fun _ => htof, fun hseen => ?_⟩ _
    rw [EventView.handTof_seen] at hseen
    rcases htemperature hseen with hhad | hlatched
    · exact hhad.cons rfl
    · exact absurd (shows_of_covered (by decide) hlatched) hready

theorem Ledger.temperatureDone
    (hledger : Ledger wanted lasting base recorded view)
    (htof : view.seen &&& intTofEvtmg ≠ 0 → HasTof (current recorded)) :
    Tallied wanted lasting base view.temperatureDone := by
  refine hledger.handTemperature.finish ⟨fun hseen => ?_, fun _ => ?_⟩ _
  · rw [EventView.handTemperature_seen] at hseen
    exact (htof hseen).cons rfl
  · exact hasTemperature_handed _ _

namespace Tallied

theorem spiDone (htallied : Tallied wanted lasting base view)
    (status : UInt16) : Tallied wanted lasting base (view.spiDone status) := by
  -- outside an event a completed transfer is an error
  have hother : ∀ recorded, view.log = recorded ++ base →
      EveryEntry (TimelyEntry wanted lasting) recorded →
      Tallied wanted lasting base view.complete.fail := by
    intro recorded hlog htimely
    refine .outside (.completed view.token :: recorded) ?_ ?_
      (outside_of_state .error rfl (.inl rfl))
    · exact congrArg (Event.completed view.token :: ·) hlog
    · exact everyEntry_cons.mpr ⟨nofun, htimely⟩
  unfold EventView.spiDone
  cases htallied with
  | outside recorded hlog htimely hstate =>
      split
      · next hdrain => exact absurd (.inr (.inl hdrain)) hstate
      · next hread => exact absurd (.inr (.inr (.inl hread))) hstate
      · next hread => exact absurd (.inr (.inr (.inr hread))) hstate
      · exact hother recorded hlog htimely
  | waiting recorded hledger hstate hhalves =>
      rcases hstate with hrunning | hdrain
      · rw [hrunning]
        exact hother recorded hledger.log hledger.timely
      · rw [hdrain]
        exact hledger.complete.statusDone (hhalves.cons rfl rfl) status
  | bank recorded hledger hstate htemperature =>
      rw [hstate]
      refine hledger.complete.resultDone fun hseen => ?_
      rcases htemperature hseen with hhad | ⟨hlatched, -⟩
      · exact Or.inl (hhad.cons rfl)
      · exact Or.inr hlatched
  | temperature recorded hledger hstate htof =>
      rw [hstate]
      exact hledger.complete.temperatureDone fun hseen => (htof hseen).cons rfl

/-! ## Calls -/

theorem onInt (htallied : Tallied wanted lasting base view) (nowUs : UInt64) :
    Tallied wanted lasting base (view.onInt nowUs) := by
  have hrecheck : Tallied wanted lasting base
      { view with recheck := true, pendingIrqUs := nowUs } := by
    cases htallied with
    | outside recorded hlog htimely hstate => exact .outside recorded hlog htimely hstate
    | waiting recorded hledger hstate hhalves =>
        exact .waiting recorded (hledger.congr rfl) hstate
          ⟨hhalves.tof, hhalves.temperature⟩
    | bank recorded hledger hstate htemperature =>
        exact .bank recorded (hledger.congr rfl) hstate htemperature
    | temperature recorded hledger hstate htof =>
        exact .temperature recorded (hledger.congr rfl) hstate htof
  unfold EventView.onInt
  split_ifs with hasleep hbusy hdraining
  · exact htallied
  · exact hrecheck
  · exact htallied
  · have hrunning : view.state = .eventRunning := not_not.mp (not_or.mp hbusy).1
    cases htallied with
    | outside recorded hlog htimely hstate => exact absurd (.inl hrunning) hstate
    | waiting recorded hledger hstate hhalves =>
        exact hledger.openDrain hhalves nowUs
    | bank recorded hledger hstate => exact absurd (hstate.symm.trans hrunning) nofun
    | temperature recorded hledger hstate =>
        exact absurd (hstate.symm.trans hrunning) nofun

theorem onTimeout (htallied : Tallied wanted lasting base view) :
    Tallied wanted lasting base view.onTimeout := by
  unfold EventView.onTimeout
  cases htallied with
  | outside recorded hlog htimely hstate =>
      split
      · next hread => exact absurd (.inr (.inr (.inl hread))) hstate
      · next hread => exact absurd (.inr (.inr (.inr hread))) hstate
      · next hdrain => exact absurd (.inr (.inl hdrain)) hstate
      · next hrunning => exact absurd (.inl hrunning) hstate
      · exact .outside recorded hlog htimely hstate
  | waiting recorded hledger hstate hhalves =>
      have hgiven := hledger.timeOut hhalves.tof
        fun hseen => Or.inl (hhalves.temperature hseen)
      rcases hstate with hrunning | hdrain
      · rw [hrunning]
        exact hgiven
      · rw [hdrain]
        exact hgiven
  | bank recorded hledger hstate htemperature =>
      rw [hstate]
      have hmarked : Ledger wanted lasting base
          (.tofHanded view.number.1 :: recorded)
          { view.handTof with seen := view.seen ||| intTofEvtmg } :=
        hledger.handTof.congr rfl
      refine hmarked.timeOut (fun _ => hasTof_handed _ _) fun hseen => ?_
      rcases or_shows_iff.mp hseen with hbefore | hnow
      · rcases htemperature hbefore with hhad | ⟨-, hunread⟩
        · exact Or.inl (hhad.cons rfl)
        · exact Or.inr hunread
      · exact absurd hnow (by decide)
  | temperature recorded hledger hstate htof =>
      rw [hstate]
      have hmarked : Ledger wanted lasting base
          (.temperatureHanded view.number.1 :: recorded)
          { view.handTemperature with seen := view.seen ||| intTempEvtmg } :=
        hledger.handTemperature.congr rfl
      refine hmarked.timeOut (fun hseen => ?_)
        fun _ => Or.inl (hasTemperature_handed _ _)
      rcases or_shows_iff.mp hseen with hbefore | hnow
      · exact (htof hbefore).cons rfl
      · exact absurd hnow (by decide)

variable {promise : Promise}

theorem step (htallied : Tallied wanted lasting base view)
    (hstep : EventStep promise view next) :
    Tallied wanted lasting base next := by
  cases hstep with
  | edge nowUs => exact htallied.onInt nowUs
  | failed =>
      obtain ⟨recorded, hlog, htimely⟩ := htallied.timely
      refine .outside (.completed view.token :: recorded) ?_ ?_
        (outside_of_state .error rfl (.inl rfl))
      · exact congrArg (Event.completed view.token :: ·) hlog
      · exact everyEntry_cons.mpr ⟨nofun, htimely⟩
  | done _ status => exact htallied.spiDone status
  | refused => exact htallied.fail
  | timeout => exact htallied.onTimeout

theorem steps (htallied : Tallied wanted lasting base view)
    (hsteps : EventSteps promise view next) :
    Tallied wanted lasting base next := by
  induction hsteps with
  | refl => exact htallied
  | tail _ hlast ih => exact ih.step hlast

end Tallied

/-! ## Runs -/

variable {κ : Type*} {platform : Platform κ} {before start world : World κ}

/-- A driver that has just started event timing. -/
theorem tallied_start (hnext : view.nextSequence ≠ 0) (wanted : UInt16) :
    Tallied wanted view.continuous (view.start wanted).log (view.start wanted) := by
  refine .waiting [] ⟨rfl, everyEntry_nil, rfl, rfl, fun _ => rfl, hnext, ?_, ?_⟩
    (Or.inl rfl) ⟨fun hseen => ?_, fun hseen => ?_⟩
  · intro hvalid
    exact absurd (show false = true from hvalid) (by decide)
  · intro _ event hmem
    exact absurd hmem (by simp [current])
  · exact absurd (UInt16.zero_and : (0 : UInt16) &&& intTofEvtmg = 0) hseen
  · exact absurd (UInt16.zero_and : (0 : UInt16) &&& intTempEvtmg = 0) hseen

/-- After event timing was started, every event that is given up has handed out a
record for each half that the mode expects, all under one number; only a
temperature half that came with an unread result bank has none. -/
theorem timeouts_accounted
    (hstarted : startEventTiming platform before = (.ok, start))
    (hrun : Calls platform (fun _ op => op.carriesEvent = true) start world) :
    ∃ recorded, world.view.log = recorded ++ start.view.log ∧
      ∀ past, .timedOut :: past <:+ recorded →
        Accounted before.driver.modeEventFlags before.driver.eventContinuous past := by
  have hview : start.view = before.view.start before.driver.modeEventFlags := by
    rcases @startEventTiming_view κ platform before with ⟨hfailed, -⟩ | ⟨-, -, hview⟩
    · rw [hstarted] at hfailed
      exact absurd rfl hfailed
    · rw [hstarted] at hview
      exact hview
  have hnext : before.view.nextSequence ≠ 0 := by
    change before.driver.nextSequence ≠ 0
    unfold Driver.nextSequence
    split_ifs with hwrap
    · decide
    · exact hwrap
  have htallied : Tallied before.driver.modeEventFlags
      before.driver.eventContinuous start.view.log world.view := by
    induction hrun with
    | refl =>
        rw [hview]
        exact tallied_start hnext _
    | tail op _ hcarries hstep ih =>
        exact ih.steps (step_steps hcarries (op.keeps_none _) hstep)
  obtain ⟨recorded, hlog, htimely⟩ := htallied.timely
  exact ⟨recorded, hlog, fun past hpast => htimely _ past hpast rfl⟩

/-- A flow half that is read, and a deadline before the temperature half. -/
def halfEvent : List Op := [.onInt 1000, .executeSpi, .executeSpi, .onTimeout]

theorem timeouts_accounted_bench :
    ∃ before start world : World Bench,
      startEventTiming benchPlatform before = (.ok, start) ∧
      Calls benchPlatform (fun _ op => op.carriesEvent = true) start world ∧
      .timedOut ∈ world.view.log ∧
      ∃ recorded, world.view.log = recorded ++ start.view.log ∧
        ∀ past, .timedOut :: past <:+ recorded →
          Accounted before.driver.modeEventFlags before.driver.eventContinuous
            past := by
  obtain ⟨before, -, hheld, -⟩ := benchRun [0x0004, 0x0008, intTofEvtmg]
    [.resetDevice 3, .configure benchProfile]
    (fun before =>
      (startEventTiming benchPlatform before).1 = .ok &&
      (runOps benchPlatform (startEventTiming benchPlatform before).2 halfEvent).any
        fun world => world.view.log.contains .timedOut)
    (by decide +kernel)
  obtain ⟨hok, hruns⟩ := Bool.and_eq_true_iff.mp hheld
  obtain ⟨world, hran, htimed⟩ := (Option.any_eq_true _ _).mp hruns
  have hstarted : startEventTiming benchPlatform before =
      (.ok, (startEventTiming benchPlatform before).2) :=
    Prod.ext (of_decide_eq_true hok) rfl
  have hcalls : Calls benchPlatform (fun _ op => op.carriesEvent = true)
      (startEventTiming benchPlatform before).2 world := .of_runOps rfl hran
  exact ⟨before, _, world, hstarted, hcalls, by simpa using htimed,
    timeouts_accounted hstarted hcalls⟩

/-- A deadline while the result bank of a combined status word is read. -/
example :
    (runOps benchPlatform
      (benchStart [0x0004, 0x0008, intTofEvtmg ||| intTempEvtmg])
      [.resetDevice 3, .configure benchProfile, .startEventTiming, .onInt 1000,
        .executeSpi, .onTimeout]).any (fun world =>
          world.view.log.contains .timedOut &&
            world.view.log.all fun event =>
              match event with
              | .temperatureHanded _ => false
              | _ => true) = true := by
  decide +kernel

end Swfpm.Max35103
