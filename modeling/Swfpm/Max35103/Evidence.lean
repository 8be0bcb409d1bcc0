import Swfpm.Max35103.EventSteps
import Swfpm.Support.Evidence

/-!
# Events are complete on their own evidence

A flag is evidence of an event once a status word shows it, and what was seen
before event timing started, an event was completed or given up, or the host
cancelled, is not.
-/

namespace Swfpm.Max35103

open Evidence

/-! ## Sets of flags -/

/-- The flags are among those of a mask. -/
def Covers (mask flags : UInt16) : Prop := flags &&& mask = flags

instance (mask flags : UInt16) : Decidable (Covers mask flags) :=
  inferInstanceAs (Decidable (_ = _))

theorem covers_iff {mask flags : UInt16} :
    Covers mask flags ↔ ∀ i, flags.toBitVec.getLsbD i = true →
      mask.toBitVec.getLsbD i = true := by
  unfold Covers
  rw [← UInt16.toBitVec_inj, UInt16.toBitVec_and]
  constructor
  · intro equal i set
    rw [← equal, BitVec.getLsbD_and] at set
    exact (Bool.and_eq_true_iff.mp set).2
  · intro subset
    apply BitVec.eq_of_getLsbD_eq
    intro i _
    rw [BitVec.getLsbD_and]
    cases set : flags.toBitVec.getLsbD i with
    | true => simp [subset i set]
    | false => rfl

theorem Covers.trans {first second third : UInt16} (outer : Covers third second)
    (inner : Covers second first) : Covers third first := by
  rw [covers_iff] at *
  exact fun i set ↦ outer i (inner i set)

theorem Covers.zero (mask : UInt16) : Covers mask 0 := UInt16.zero_and

theorem covers_or_left (left right : UInt16) : Covers (left ||| right) left := by
  rw [covers_iff]
  intro i set
  simp [set]

theorem covers_or_right (left right : UInt16) : Covers (left ||| right) right := by
  rw [covers_iff]
  intro i set
  simp [set]

theorem Covers.or {mask left right : UInt16} (covers : Covers mask left)
    (others : Covers mask right) : Covers mask (left ||| right) := by
  rw [covers_iff] at *
  intro i set
  rw [UInt16.toBitVec_or, BitVec.getLsbD_or, Bool.or_eq_true] at set
  exact set.elim (covers i) (others i)

theorem covers_and_left (left right : UInt16) : Covers left (left &&& right) := by
  rw [covers_iff]
  intro i set
  rw [UInt16.toBitVec_and, BitVec.getLsbD_and, Bool.and_eq_true] at set
  exact set.1

/-! ## Evidence -/

/-- The flags of the status words read since an event could last begin. -/
def heard : List Event → UInt16
  | [] => 0
  | event :: past =>
      match event with
      | .statusRead status _ => status ||| heard past
      | .started _ => 0
      | .eventComplete _ => 0
      | .timedOut => 0
      | .cancelled => 0
      | _ => heard past

/-- A complete event was heard of in full. -/
def Justified (event : Event) (past : List Event) : Prop :=
  ∀ expected, event = .eventComplete expected → Covers (heard past) expected

/-- The driver works on an event. -/
def EventView.inEvent (view : EventView) : Prop :=
  view.state = .eventRunning ∨ view.state = .drainStatus ∨
    view.state = .readResult ∨ view.state = .readTempResult

/-- What has been seen of the event that is expected. -/
def EventView.evidence (view : EventView) : UInt16 := view.seen &&& view.expected

/-- Since a log was `base`, complete events were justified. -/
def Sound (base : List Event) (view : EventView) : Prop :=
  ∃ recorded, view.log = recorded ++ base ∧ EveryEntry Justified recorded

/-- In addition, what is seen of the present event was heard. -/
def Fresh (base : List Event) (view : EventView) : Prop :=
  ∃ recorded, view.log = recorded ++ base ∧ EveryEntry Justified recorded ∧
    (view.inEvent → Covers (heard recorded) view.evidence)

/-- A record that neither completes an event nor changes what was heard. -/
def Event.neutral : Event → Bool
  | .drain _ | .completed _ | .tofHanded _ | .temperatureHanded _ => true
  | _ => false

theorem heard_neutral {event : Event} (neutral : event.neutral = true)
    (past : List Event) : heard (event :: past) = heard past := by
  cases event <;> first | rfl | cases neutral

variable {promise : Promise} {base : List Event} {view next : EventView}

theorem Fresh.sound (fresh : Fresh base view) : Sound base view := by
  obtain ⟨recorded, log, justified, -⟩ := fresh
  exact ⟨recorded, log, justified⟩

namespace Sound

/-- Outside an event nothing has to have been heard. -/
theorem fresh (sound : Sound base view) (left : ¬ view.inEvent) :
    Fresh base view := by
  obtain ⟨recorded, log, justified⟩ := sound
  exact ⟨recorded, log, justified, fun inside ↦ absurd inside left⟩

theorem congr (sound : Sound base view) (log : next.log = view.log) :
    Sound base next := by
  unfold Sound
  rw [log]
  exact sound

theorem cons {event : Event} (sound : Sound base view)
    (log : next.log = event :: view.log)
    (ended : ∀ expected, event ≠ .eventComplete expected) : Sound base next := by
  obtain ⟨recorded, same, justified⟩ := sound
  refine ⟨event :: recorded, ?_, everyEntry_cons.mpr ⟨?_, justified⟩⟩
  · rw [log, same, List.cons_append]
  · intro expected equal
    exact absurd equal (ended expected)

theorem handTof (sound : Sound base view) : Sound base view.handTof := by
  obtain ⟨_, _, _, handed⟩ := view.handTof_eq
  have log := congrArg EventView.log handed
  exact sound.cons log nofun

theorem handTemperature (sound : Sound base view) :
    Sound base view.handTemperature := by
  obtain ⟨_, _, _, handed⟩ := view.handTemperature_eq
  have log := congrArg EventView.log handed
  exact sound.cons log nofun

theorem handParts (sound : Sound base view) (parts : UInt16) :
    Sound base (view.handParts parts) := by
  unfold EventView.handParts
  dsimp only
  split_ifs
  · exact sound.handTof.handTemperature
  · exact sound.handTemperature
  · exact sound.handTof
  · exact sound

theorem timeOut (sound : Sound base view) : Fresh base view.timeOut := by
  refine Sound.fresh ?_ (by rintro (h | h | h | h) <;> cases h)
  exact (sound.handParts _).cons rfl nofun

theorem fail (sound : Sound base view) : Fresh base view.fail :=
  Sound.fresh (sound.congr rfl) (by rintro (h | h | h | h) <;> cases h)

end Sound

namespace Fresh

/-- Nothing is recorded, and nothing more is seen. -/
theorem silent (fresh : Fresh base view) (log : next.log = view.log)
    (seen : next.inEvent → view.inEvent ∧ next.evidence = view.evidence) :
    Fresh base next := by
  obtain ⟨recorded, same, justified, covered⟩ := fresh
  refine ⟨recorded, log.trans same, justified, fun inside ↦ ?_⟩
  obtain ⟨before, equal⟩ := seen inside
  rw [equal]
  exact covered before

theorem neutral {event : Event} (fresh : Fresh base view)
    (neutral : event.neutral = true) (log : next.log = event :: view.log)
    (seen : next.inEvent → view.inEvent ∧ next.evidence = view.evidence) :
    Fresh base next := by
  obtain ⟨recorded, same, justified, covered⟩ := fresh
  refine ⟨event :: recorded, ?_, everyEntry_cons.mpr ⟨?_, justified⟩, ?_⟩
  · rw [log, same, List.cons_append]
  · rintro expected rfl
    cases neutral
  · intro inside
    obtain ⟨before, equal⟩ := seen inside
    rw [heard_neutral neutral, equal]
    exact covered before

/-- An event that ends what was heard, and nothing is seen of the next one. -/
theorem boundary {event : Event} (fresh : Fresh base view)
    (log : next.log = event :: view.log)
    (justified : ∀ recorded, (view.inEvent → Covers (heard recorded) view.evidence) →
      Justified event recorded)
    (seen : next.inEvent → next.evidence = 0) : Fresh base next := by
  obtain ⟨recorded, same, before, covered⟩ := fresh
  refine ⟨event :: recorded, ?_,
    everyEntry_cons.mpr ⟨justified recorded covered, before⟩, fun inside ↦ ?_⟩
  · rw [log, same, List.cons_append]
  · rw [seen inside]
    exact .zero _

theorem handTof (fresh : Fresh base view) : Fresh base view.handTof := by
  obtain ⟨_, _, _, handed⟩ := view.handTof_eq
  rw [handed]
  exact fresh.neutral rfl rfl fun inside ↦ ⟨inside, rfl⟩

theorem handTemperature (fresh : Fresh base view) :
    Fresh base view.handTemperature := by
  obtain ⟨_, _, _, handed⟩ := view.handTemperature_eq
  rw [handed]
  exact fresh.neutral rfl rfl fun inside ↦ ⟨inside, rfl⟩

/-! ## Drains -/

theorem openDrain (fresh : Fresh base view) (inside : view.inEvent)
    (nowUs : UInt64) : Fresh base (view.openDrain nowUs) :=
  fresh.neutral rfl rfl fun _ ↦ ⟨inside, rfl⟩

/-- A completed event was seen in full, and nothing is seen of the next one. -/
theorem close (fresh : Fresh base view) (inside : view.inEvent)
    (done : view.done = true) : Fresh base view.close := by
  refine fresh.boundary rfl (fun recorded covered expected equal ↦ ?_)
    fun _ ↦ UInt16.zero_and
  obtain rfl := Event.eventComplete.inj equal
  have full : view.evidence = view.expected :=
    of_decide_eq_true (Bool.and_eq_true_iff.mp done).2
  rw [← full]
  exact covered inside

theorem drainAgain (fresh : Fresh base view) (inside : view.inEvent) :
    Fresh base view.drainAgain := by
  have cleared : Fresh base { view with recheck := false, pendingIrqUs := 0 } :=
    fresh.silent rfl fun _ ↦ ⟨inside, rfl⟩
  exact cleared.openDrain inside _

theorem rest (fresh : Fresh base view) (inside : view.inEvent) (complete : Bool) :
    Fresh base (view.rest complete) :=
  fresh.silent rfl fun _ ↦ ⟨inside, rfl⟩

theorem finish (fresh : Fresh base view) (inside : view.inEvent)
    (status : UInt16) : Fresh base (view.finish status) := by
  have settled : ∀ next : EventView, Fresh base next → next.inEvent →
      ∀ complete, Fresh base
        (if next.recheck then next.drainAgain else next.rest complete) := by
    intro next fresh inside complete
    split
    · exact fresh.drainAgain inside
    · exact fresh.rest inside complete
  unfold EventView.finish
  split
  · exact fresh.sound.timeOut
  · split
    · next done => exact settled view.close (fresh.close inside done) inside _
    · exact settled view fresh inside _

/-! ## Completions -/

/-- A status word is read, and its flags are seen. -/
theorem see (fresh : Fresh base view) (status : UInt16) :
    Fresh base ((view.hear status).see status) := by
  obtain ⟨recorded, same, justified, covered⟩ := fresh
  refine ⟨.statusRead status view.active :: recorded, ?_,
    everyEntry_cons.mpr ⟨nofun, justified⟩, fun inside ↦ ?_⟩
  · exact congrArg _ same
  · have seen : ((view.hear status).see status).evidence =
        view.evidence ||| (status &&& view.expected) := by
      apply UInt16.toBitVec_inj.mp
      change (view.seen.toBitVec ||| (status.toBitVec &&& view.expected.toBitVec)) &&&
          view.expected.toBitVec =
        (view.seen.toBitVec &&& view.expected.toBitVec) |||
          (status.toBitVec &&& view.expected.toBitVec)
      rw [BitVec.and_or_distrib_right, BitVec.and_assoc, BitVec.and_self]
    rw [seen]
    exact .or ((covers_or_right status _).trans (covered inside))
      ((covers_or_left _ _).trans (covers_and_left status _))

theorem statusDone (fresh : Fresh base view) (inside : view.inEvent)
    (status : UInt16) : Fresh base (view.statusDone status) := by
  have heard : Sound base (view.hear status) := fresh.sound.cons rfl nofun
  have seen := fresh.see status
  unfold EventView.statusDone
  dsimp only
  split_ifs
  · exact Sound.fail (heard.congr rfl)
  · exact Sound.fail ((heard.handParts _).congr rfl)
  · exact seen.silent rfl fun _ ↦ ⟨inside, rfl⟩
  · exact seen.silent rfl fun _ ↦ ⟨inside, rfl⟩
  · exact seen.finish inside status

theorem resultDone (fresh : Fresh base view) (inside : view.inEvent) :
    Fresh base view.resultDone := by
  have handed := fresh.handTof
  have stays : view.handTof.inEvent := by
    obtain ⟨_, _, _, same⟩ := view.handTof_eq
    rw [same]
    exact inside
  unfold EventView.resultDone
  dsimp only
  split
  · exact handed.silent rfl fun _ ↦ ⟨stays, rfl⟩
  · exact handed.finish stays _

theorem temperatureDone (fresh : Fresh base view) (inside : view.inEvent) :
    Fresh base view.temperatureDone := by
  have stays : view.handTemperature.inEvent := by
    obtain ⟨_, _, _, same⟩ := view.handTemperature_eq
    rw [same]
    exact inside
  exact fresh.handTemperature.finish stays _

theorem complete (fresh : Fresh base view) : Fresh base view.complete :=
  fresh.neutral rfl rfl fun inside ↦ ⟨inside, rfl⟩

theorem spiDone (fresh : Fresh base view) (status : UInt16) :
    Fresh base (view.spiDone status) := by
  have completed := fresh.complete
  unfold EventView.spiDone
  dsimp only
  split
  · next state => exact completed.statusDone (.inr (.inl state)) status
  · next state => exact completed.resultDone (.inr (.inr (.inl state)))
  · next state => exact completed.temperatureDone (.inr (.inr (.inr state)))
  · exact completed.sound.fail

/-! ## Calls -/

theorem onInt (fresh : Fresh base view) (nowUs : UInt64) :
    Fresh base (view.onInt nowUs) := by
  unfold EventView.onInt
  split_ifs with _ waiting
  · exact fresh
  · exact fresh.silent rfl fun inside ↦ ⟨inside, rfl⟩
  · exact fresh
  · exact fresh.openDrain (.inl (not_not.mp (not_or.mp waiting).1)) nowUs

theorem onTimeout (fresh : Fresh base view) : Fresh base view.onTimeout := by
  have timed := fresh.sound
  unfold EventView.onTimeout
  split
  · exact Sound.timeOut (timed.handTof.congr rfl)
  · exact Sound.timeOut (timed.handTemperature.congr rfl)
  · exact timed.timeOut
  · exact timed.timeOut
  · exact fresh

theorem step (fresh : Fresh base view) (stepped : EventStep promise view next) :
    Fresh base next := by
  cases stepped with
  | edge nowUs => exact fresh.onInt nowUs
  | failed => exact fresh.complete.sound.fail
  | done _ status => exact fresh.spiDone status
  | refused => exact fresh.sound.fail
  | timeout => exact fresh.onTimeout

theorem steps (fresh : Fresh base view) (stepped : EventSteps promise view next) :
    Fresh base next := by
  induction stepped with
  | refl => exact fresh
  | tail _ last ih => exact ih.step last

theorem start (fresh : Fresh base view) (expected : UInt16) :
    Fresh base (view.start expected) :=
  fresh.boundary rfl (fun _ _ ↦ nofun) fun _ ↦ UInt16.zero_and

/-- A cancel leaves an event only where event timing is active. -/
theorem cancel (fresh : Fresh base view)
    (unseen : view.active = true → view.evidence = 0) :
    Fresh base view.cancel := by
  unfold EventView.cancel
  split
  · exact fresh
  · refine fresh.boundary rfl (fun _ _ ↦ nofun) fun inside ↦ unseen ?_
    change EventView.restState view = _ ∨ EventView.restState view = _ ∨
      EventView.restState view = _ ∨ EventView.restState view = _ at inside
    unfold EventView.restState at inside
    cases active : view.active with
    | true => rfl
    | false =>
        rw [active] at inside
        simp at inside

theorem halted (fresh : Fresh base view) (halted : next.halted)
    (log : next.log = view.log) : Fresh base next := by
  refine Sound.fresh (fresh.sound.congr log) fun inside ↦ ?_
  rcases halted with state | state | state <;>
    simp [EventView.inEvent, state] at inside

end Fresh

/-! ## Runs -/

variable {κ : Type*} {platform : Platform κ} {start world last : World κ}

/-- The calls of event timing, where a cancel that leaves event timing active is
made only before anything has been seen of the event. -/
def CancelsUnseen (world : World κ) (op : Op) : Prop :=
  op.concernsEvents = true ∧
    (op = .cancel → world.driver.eventTimingActive = true →
      world.driver.seenEventFlags &&& world.driver.expectedEventFlags = 0)

theorem Fresh.call {op : Op} (fresh : Fresh base world.view)
    (allows : CancelsUnseen world op)
    (stepped : Max35103.step platform world op = some last) :
    Fresh base last.view := by
  obtain ⟨concerns, unseen⟩ := allows
  rcases Op.concernsEvents_cases concerns with rfl | rfl | ⟨fuel, rfl⟩ | carries
  · obtain rfl := Option.some.inj stepped
    rcases @startEventTiming_view κ platform world with
      ⟨-, same | failed⟩ | ⟨-, -, started⟩
    · rw [same]
      exact fresh
    · rw [failed]
      exact fresh.sound.fail
    · rw [started]
      exact fresh.start _
  · obtain rfl := Option.some.inj stepped
    rw [cancel_view]
    exact fresh.cancel (unseen rfl)
  · obtain ⟨answer, returned, rfl⟩ := Option.map_eq_some_iff.mp stepped
    rcases halt_view returned with same | ⟨halted, log⟩
    · rw [same]
      exact fresh
    · exact fresh.halted halted log
  · exact fresh.steps (step_steps carries (op.keeps_none world) stepped)

/-- Where no cancel of active event timing discards what has been seen of an
event, every event that completes since the driver was outside of one has been
heard of in full. -/
theorem eventComplete_on_evidence (outside : ¬ start.view.inEvent)
    (run : Calls platform CancelsUnseen start world) :
    Sound start.view.log world.view := by
  have fresh : Fresh start.view.log world.view := by
    induction run with
    | refl => exact Sound.fresh ⟨[], rfl, everyEntry_nil⟩ outside
    | tail op _ allows stepped ih => exact ih.call allows stepped
  exact fresh.sound

theorem idle_outside (idle : start.driver.state = .idle) : ¬ start.view.inEvent := by
  unfold EventView.inEvent
  change ¬ (start.driver.state = _ ∨ start.driver.state = _ ∨
    start.driver.state = _ ∨ start.driver.state = _)
  simp [idle]

/-- An event from its edge to its last result. -/
def fullEvent : List Op :=
  [.startEventTiming, .onInt 1000, .executeSpi, .executeSpi, .executeSpi]

/-- Half an event, a cancel, and the other half of the next one. -/
def pairedHalves : List Op :=
  [.startEventTiming, .onInt 1000, .executeSpi, .executeSpi, .cancel,
    .onInt 2000, .executeSpi, .executeSpi]

/-- The last entry completes an event on flags that no status word before it
reported. -/
def completesUnheard : List Event → Bool
  | .eventComplete expected :: past => !decide (Covers (heard past) expected)
  | _ => false

theorem not_justified_of_completesUnheard {log : List Event}
    (stale : completesUnheard log = true) : ¬ EveryEntry Justified log := by
  intro justified
  match log, stale with
  | .eventComplete expected :: past, stale =>
      have covers := (everyEntry_cons.mp justified).1 expected rfl
      simp [completesUnheard, covers] at stale

/-- The cancel keeps the flag of the result whose record it discards. -/
theorem cancel_keeps_flags :
    ¬ ∀ start world : World Bench, Reachable benchPlatform start →
      ¬ start.view.inEvent →
      Calls benchPlatform (fun _ op ↦ op.concernsEvents = true) start world →
      Sound start.view.log world.view := by
  intro claim
  obtain ⟨start, reached, held, -⟩ := benchRun
    [0x0004, 0x0008, intTofEvtmg, intTempEvtmg]
    [.resetDevice 3, .configure benchProfile]
    (fun start ↦ start.driver.state = .idle && start.view.log.isEmpty &&
      (runOps benchPlatform start pairedHalves).any fun world ↦
        completesUnheard world.view.log)
    (by decide +kernel)
  simp only [Bool.and_eq_true, decide_eq_true_eq, List.isEmpty_iff] at held
  obtain ⟨⟨idle, empty⟩, paired⟩ := held
  obtain ⟨world, ran, stale⟩ := (Option.any_eq_true _ _).mp paired
  obtain ⟨recorded, log, justified⟩ :=
    claim start world reached (idle_outside idle) (.of_runOps rfl ran)
  rw [empty, List.append_nil] at log
  rw [← log] at justified
  exact not_justified_of_completesUnheard stale justified

/-- An event of the bench completes on the flags of one status word. -/
theorem eventComplete_on_evidence_bench :
    ∃ start world : World Bench,
      runOps benchPlatform
        (benchStart [0x0004, 0x0008, intTofEvtmg ||| intTempEvtmg])
        [.resetDevice 3, .configure benchProfile] = some start ∧
      Calls benchPlatform CancelsUnseen start world ∧
      .eventComplete (intTofEvtmg ||| intTempEvtmg) ∈ world.view.log ∧
      Sound start.view.log world.view := by
  obtain ⟨start, -, held, run⟩ := benchRun
    [0x0004, 0x0008, intTofEvtmg ||| intTempEvtmg]
    [.resetDevice 3, .configure benchProfile]
    (fun start ↦ start.driver.state = .idle &&
      (runOps benchPlatform start fullEvent).any fun world ↦
        world.view.log.contains (.eventComplete (intTofEvtmg ||| intTempEvtmg)))
    (by decide +kernel)
  obtain ⟨idle, completes⟩ := Bool.and_eq_true_iff.mp held
  obtain ⟨world, ran, complete⟩ := (Option.any_eq_true _ _).mp completes
  have uncancelled := @Calls.of_runOps Bench benchPlatform
    (fun op ↦ op.concernsEvents && op ≠ .cancel) start world fullEvent rfl ran
  have calls : Calls benchPlatform CancelsUnseen start world := by
    refine uncancelled.mono fun world op kind ↦ ?_
    obtain ⟨concerns, other⟩ := Bool.and_eq_true_iff.mp kind
    exact ⟨concerns, fun cancel ↦ absurd cancel (of_decide_eq_true other)⟩
  exact ⟨start, world, run, calls, by simpa using complete,
    eventComplete_on_evidence (idle_outside (of_decide_eq_true idle)) calls⟩

end Swfpm.Max35103
