import Swfpm.Power.PowerFacade

/-!
# Announced changes of the power health

A change of the health is told from the health that the service had before, not
from what was published or announced last.  A change whose call cannot publish,
or whose event the queue refuses, is therefore not told again.
-/

namespace Swfpm

open Evidence DataRepository

/-! ## One call -/

/-- The queue has no room for an event that is neither critical nor a
measurement. -/
def AppEventQueue.RefusesBackground (queue : AppEventQueue) : Prop :=
  queue.count ≥ (queue.config.capacity - queue.config.reservedCritical.toUInt16).toNat

instance (queue : AppEventQueue) : Decidable queue.RefusesBackground :=
  inferInstanceAs (Decidable (_ ≥ _))

theorem post_admits {queue : AppEventQueue} (hroom : ¬ queue.RefusesBackground)
    (svc : PowerService) :
    (queue.post (some (powerStatusEvent svc))).1.admits = true := by
  unfold AppEventQueue.post AppEventQueue.postUnlocked
  dsimp only
  cases queue.findCoalesceTarget (powerStatusEvent svc) with
  | some index => rfl
  | none =>
      have hbackground : (!AppEventQueue.isPriorityCritical
          (powerStatusEvent svc).priority &&
            !AppEventQueue.isPriorityMeasurement (powerStatusEvent svc).priority) =
          true := rfl
      unfold AppEventQueue.RefusesBackground at hroom
      simp only [hbackground, hroom, and_false, if_false, Bool.not_true,
        Bool.false_eq_true, false_and]
      rfl

namespace PowerFacade

variable {f : PowerFacade} {repo : DataRepository} {queue : AppEventQueue}
variable {previousHealth : PowerHealth}

theorem publish_of_busy (hbusy : repo.writerActive = true) :
    f.publishPowerSnapshot repo queue previousHealth =
      { status := .busy, repo, queue, posted := none } := by
  have hbegin : RepoWriteTxn.txnInit.txnBegin repo =
      (false, RepoWriteTxn.txnInit, repo) := if_pos (.inr hbusy)
  unfold publishPowerSnapshot
  simp only [hbegin, Bool.not_false, if_true]

theorem publish_of_free (hfree : repo.writerActive = false) :
    f.publishPowerSnapshot repo queue previousHealth =
      f.notifyPowerStatus
        (repo.committed { repo.visible with power := f.svc.current }) queue
        previousHealth := by
  have hwrite := draft_write repo repo.visible 0 (.power f.svc.current)
  have hstored : SnapshotWrite.store repo.visible (.power f.svc.current) =
      { repo.visible with power := f.svc.current } := rfl
  rw [hstored] at hwrite
  change (repo.opened 0).txnWritePower (repo.draft repo.visible) f.svc.current = _
    at hwrite
  unfold publishPowerSnapshot
  simp only [draft_begin repo hfree, hwrite, draft_commit, Bool.not_true,
    Bool.false_eq_true, if_false]

/-- The class that a call leaves the service in. -/
def classAfter (svc : PowerService) (adc : PortStatus × UInt16) : PowerHealth :=
  if adc.1 = .ok then
    determineHealth
      (powerAdcToMv adc.2 svc.config.vrefMv svc.config.dividerRatio).toUInt32.toUInt16
      svc.current.health svc.config
  else
    let staleCount :=
      if svc.staleCount < 0xFF then svc.staleCount + 1 else svc.staleCount
    if staleCount < svc.config.staleCountMax then svc.current.health else .unknown

/-- What a call leaves: a service of the class that its input asks for, which was
published, or of the same class as before. -/
theorem processSample_cases (hready : f.initialized = true)
    (hvalid : powerConfigIsValid f.svc.config = true) (adc : PortStatus × UInt16)
    (timeUs : UInt64) (repo : DataRepository) (queue : AppEventQueue) :
    ∃ (later : PowerFacade) (status : PortStatus),
      later.initialized = true ∧ later.svc.config = f.svc.config ∧
      later.svc.current.health = classAfter f.svc adc ∧
      (f.processSample adc timeUs repo queue =
          (later, { later.publishPowerSnapshot repo queue f.svc.current.health with
            status }) ∨
        later.svc.current.health = f.svc.current.health ∧
          f.processSample adc timeUs repo queue =
            (later, { status, repo, queue, posted := none })) := by
  obtain ⟨readStatus, rawAdc⟩ := adc
  have hrunning : ¬ (!f.initialized) = true := by simp [hready]
  unfold processSample classAfter
  rw [if_neg hrunning]
  dsimp only
  by_cases hread : readStatus = .ok
  · obtain ⟨htaken, -, hhealth⟩ := PowerService.sampleAt_valid hvalid rawAdc timeUs
    have hconfig : (f.svc.sampleAt rawAdc timeUs).2.config = f.svc.config := by
      unfold PowerService.sampleAt
      dsimp only
      split_ifs <;> rfl
    have hmv : (f.svc.sampleAt rawAdc timeUs).2.current.batteryMv =
        (powerAdcToMv rawAdc f.svc.config.vrefMv
          f.svc.config.dividerRatio).toUInt32.toUInt16 := by
      unfold PowerService.sampleAt at htaken ⊢
      dsimp only at htaken ⊢
      split_ifs at htaken ⊢ with hnegative
      rfl
    rw [hmv] at hhealth
    simp only [hread, htaken, ne_eq, not_true_eq_false, if_false, if_true]
    exact ⟨{ f with svc := (f.svc.sampleAt rawAdc timeUs).2 }, _, hready, hconfig,
      hhealth, .inl rfl⟩
  · simp only [hread, ne_eq, not_false_eq_true, if_true, if_false]
    unfold PowerService.markReadFailure
    generalize (if f.svc.staleCount < 0xFF then f.svc.staleCount + 1
      else f.svc.staleCount) = staleCount
    dsimp only
    by_cases hfresh : staleCount < f.svc.config.staleCountMax
    · simp only [hfresh, if_true, Bool.false_eq_true, if_false]
      exact ⟨{ f with svc := { f.svc with staleCount } }, readStatus, hready, rfl, rfl,
        .inr ⟨rfl, rfl⟩⟩
    · simp only [hfresh, if_false]
      let svc : PowerService :=
        { f.svc with
          staleCount
          current :=
            { f.svc.current with
              available := false
              health := .unknown
              qualityFlags := powerQualityAdcFault ||| powerQualityStale } }
      refine ⟨{ f with svc }, readStatus, hready, rfl, rfl, ?_⟩
      split_ifs with hchanged
      · exact .inl rfl
      · refine .inr ⟨?_, rfl⟩
        simp only [Bool.or_eq_true, decide_eq_true_eq, not_or, not_not] at hchanged
        exact hchanged.1.2.symm

end PowerFacade

/-! ## Runs -/

/-- A sampling call, or what another writer of the repository and other users of
the queue leave behind. -/
inductive PowerStep where
  | process (adc : PortStatus × UInt16) (timeUs : UInt64)
  | others (repo : DataRepository) (queue : AppEventQueue)

/-- A facade with its surroundings. -/
structure PowerHistory where
  facade : PowerFacade
  repo : DataRepository
  queue : AppEventQueue
  /-- The health that the last admitted event carried. -/
  announced : UInt8
  /-- The announced health was not the published one at some time since the last
  call that could tell. -/
  pending : Bool

namespace PowerHistory

/-- The published health. -/
def published (history : PowerHistory) : UInt8 :=
  history.repo.visible.power.health.value

def start (facade : PowerFacade) (queue : AppEventQueue) : PowerHistory :=
  { facade, repo := .init, queue, announced := PowerHealth.unknown.value
    pending := false }

/-- The call samples and publishes, and the queue has room. -/
def CanTell (history : PowerHistory) (adc : PortStatus × UInt16) : Prop :=
  adc.1 = .ok ∧ history.repo.writerActive = false ∧
    ¬ history.queue.RefusesBackground

instance (history : PowerHistory) (adc : PortStatus × UInt16) :
    Decidable (history.CanTell adc) :=
  inferInstanceAs (Decidable (_ ∧ _ ∧ _))

/-- The health that an event carries in the first byte of its payload. -/
def toldHealth (event : AppEvent) : UInt8 :=
  event.payload.toList.headD 0

/-- The announced health after a post. -/
def announcedBy (posted : Option (AppEvent × EventPostResult)) (before : UInt8) :
    UInt8 :=
  match posted with
  | some (event, result) => if result.admits then toldHealth event else before
  | none => before

def next (history : PowerHistory) : PowerStep → PowerHistory
  | .process adc timeUs =>
      let (facade, publication) :=
        history.facade.processSample adc timeUs history.repo history.queue
      let announced := announcedBy publication.posted history.announced
      { facade
        repo := publication.repo
        queue := publication.queue
        announced
        pending :=
          publication.repo.visible.power.health.value ≠ announced ||
            (!decide (history.CanTell adc) && history.pending) }
  | .others repo queue =>
      { history with
        repo
        queue
        pending :=
          repo.visible.power.health.value ≠ history.announced || history.pending }

def after (facade : PowerFacade) (queue : AppEventQueue) : List PowerStep → PowerHistory
  | [] => start facade queue
  | step :: log => (after facade queue log).next step

/-- The call tells the health that it leaves. -/
def Tells (history : PowerHistory) (adc : PortStatus × UInt16) (timeUs : UInt64) :
    Prop :=
  let called := history.facade.processSample adc timeUs history.repo history.queue
  ∃ event result, called.2.posted = some (event, result) ∧ result.admits = true ∧
    event.id = .powerStatusChanged ∧
    toldHealth event = called.1.svc.current.health.value

/-- After a difference between the published and the announced health, the next
call that can tell does. -/
def Announces (facade : PowerFacade) (queue : AppEventQueue) (log : List PowerStep) :
    Prop :=
  EveryEntry (fun step past => ∀ adc timeUs, step = .process adc timeUs →
    (after facade queue past).pending = true → (after facade queue past).CanTell adc →
      (after facade queue past).Tells adc timeUs) log

/-- Only the facade writes the power snapshot. -/
def SparesPower (facade : PowerFacade) (queue : AppEventQueue) (log : List PowerStep) :
    Prop :=
  EveryEntry (fun step past => ∀ repo queue', step = .others repo queue' →
    repo.visible.power = (after facade queue past).repo.visible.power) log

/-- A call that changes the class of the service finds the writer free and room
in the queue. -/
def ChangesInPeace (facade : PowerFacade) (queue : AppEventQueue)
    (log : List PowerStep) : Prop :=
  EveryEntry (fun step past => ∀ adc timeUs, step = .process adc timeUs →
    PowerFacade.classAfter (after facade queue past).facade.svc adc ≠
      (after facade queue past).facade.svc.current.health →
    (after facade queue past).repo.writerActive = false ∧
      ¬ (after facade queue past).queue.RefusesBackground) log

/-! ## Histories in step -/

/-- Service, repository and announcement agree, and did since the last call that
could tell. -/
structure InStep (history : PowerHistory) : Prop where
  ready : history.facade.initialized = true
  valid : powerConfigIsValid history.facade.svc.config = true
  published : history.repo.visible.power.health = history.facade.svc.current.health
  announced : history.announced = history.facade.svc.current.health.value
  settled : history.pending = false

variable {history : PowerHistory} {facade : PowerFacade} {queue : AppEventQueue}
variable {log : List PowerStep}

theorem inStep_start {cfg : Option PowerConfig}
    (hinit : PowerFacade.init cfg = .ok facade) (queue : AppEventQueue) :
    (start facade queue).InStep := by
  unfold PowerFacade.init PowerService.init at hinit
  by_cases hvalid : powerConfigIsValid (cfg.getD .default) = true
  · simp only [hvalid, Bool.not_true, Bool.false_eq_true, if_false] at hinit
    cases hinit
    exact ⟨rfl, hvalid, rfl, rfl, rfl⟩
  · simp only [hvalid, Bool.not_false, if_true] at hinit
    cases hinit

/-- A publication of the same class, or one that nothing stands in the way of. -/
theorem publish_inStep (queue : AppEventQueue) {f : PowerFacade}
    {repo : DataRepository} {previousHealth : PowerHealth}
    (hbefore : repo.visible.power.health = previousHealth)
    (hpeace : f.svc.current.health ≠ previousHealth →
      repo.writerActive = false ∧ ¬ queue.RefusesBackground) :
    (f.publishPowerSnapshot repo queue previousHealth).repo.visible.power.health =
        f.svc.current.health ∧
      announcedBy (f.publishPowerSnapshot repo queue previousHealth).posted
        previousHealth.value = f.svc.current.health.value := by
  by_cases hchanges : f.svc.current.health = previousHealth
  · cases hwriter : repo.writerActive with
    | true =>
        rw [PowerFacade.publish_of_busy hwriter]
        exact ⟨hbefore.trans hchanges.symm, congrArg PowerHealth.value hchanges.symm⟩
    | false =>
        rw [PowerFacade.publish_of_free hwriter]
        unfold PowerFacade.notifyPowerStatus
        rw [if_neg (not_not.mpr hchanges)]
        exact ⟨by rw [committed_visible], congrArg PowerHealth.value hchanges.symm⟩
  · obtain ⟨hwriter, hroom⟩ := hpeace hchanges
    rw [PowerFacade.publish_of_free hwriter]
    unfold PowerFacade.notifyPowerStatus
    rw [if_pos hchanges]
    refine ⟨by simp only [committed_visible], ?_⟩
    simp only [announcedBy, post_admits hroom, if_true]
    rfl

theorem InStep.process (hinStep : history.InStep) {adc : PortStatus × UInt16}
    (timeUs : UInt64)
    (hpeace : PowerFacade.classAfter history.facade.svc adc ≠
        history.facade.svc.current.health →
      history.repo.writerActive = false ∧ ¬ history.queue.RefusesBackground) :
    (history.next (.process adc timeUs)).InStep := by
  obtain ⟨later, status, hready, hconfig, hclass, hpublished | ⟨hsame, hsilent⟩⟩ :=
    PowerFacade.processSample_cases hinStep.ready hinStep.valid adc timeUs
      history.repo history.queue
  · rw [← hclass] at hpeace
    obtain ⟨hvisible, hannounced⟩ := publish_inStep history.queue hinStep.published
      hpeace
    unfold next
    simp only [hpublished, hinStep.announced, hannounced, hvisible]
    refine ⟨hready, hconfig ▸ hinStep.valid, hvisible, rfl, ?_⟩
    simp [hinStep.settled]
  · unfold next
    simp only [hsilent, announcedBy]
    refine ⟨hready, hconfig ▸ hinStep.valid, hinStep.published.trans hsame.symm,
      by rw [hinStep.announced, hsame], ?_⟩
    simp [hinStep.settled, hinStep.published, hinStep.announced]

theorem InStep.others (hinStep : history.InStep) {repo : DataRepository}
    {queue : AppEventQueue} (hspares : repo.visible.power = history.repo.visible.power) :
    (history.next (.others repo queue)).InStep := by
  refine ⟨hinStep.ready, hinStep.valid, ?_, hinStep.announced, ?_⟩
  · change repo.visible.power.health = _
    rw [hspares, hinStep.published]
    rfl
  · change (decide (repo.visible.power.health.value ≠ history.announced) ||
      history.pending) = false
    rw [hspares, hinStep.published, hinStep.announced, hinStep.settled]
    simp

theorem inStep_after {cfg : Option PowerConfig} (hinit : PowerFacade.init cfg = .ok facade)
    (hspares : SparesPower facade queue log) (hpeace : ChangesInPeace facade queue log) :
    (after facade queue log).InStep := by
  induction log with
  | nil => exact inStep_start hinit queue
  | cons step log ih =>
      obtain ⟨hspare, hspared⟩ := everyEntry_cons.mp hspares
      obtain ⟨hcalm, hcalmed⟩ := everyEntry_cons.mp hpeace
      have hbefore := ih hspared hcalmed
      cases step with
      | process adc timeUs => exact hbefore.process timeUs (hcalm adc timeUs rfl)
      | others repo queue' => exact hbefore.others (hspare repo queue' rfl)

/-- As long as no change of the class meets another writer or a full queue, what
was announced last is what is published. -/
theorem health_changes_announced {cfg : Option PowerConfig}
    (facade : PowerFacade) (queue : AppEventQueue) (log : List PowerStep)
    (hinit : PowerFacade.init cfg = .ok facade)
    (hspares : SparesPower facade queue log)
    (hpeace : ChangesInPeace facade queue log) :
    Announces facade queue log ∧
      ∀ past, past <:+ log →
        (after facade queue past).announced = (after facade queue past).published := by
  have hinStep : ∀ past, past <:+ log → (after facade queue past).InStep := by
    intro past hsuffix
    exact inStep_after hinit (hspares.suffix hsuffix) (hpeace.suffix hsuffix)
  refine ⟨?_, ?_⟩
  · intro step past hsuffix adc timeUs _ hpending
    have hsettled := (hinStep past ((List.suffix_cons step past).trans hsuffix)).settled
    rw [hsettled] at hpending
    cases hpending
  · intro past hsuffix
    obtain ⟨-, -, hpublished, hannounced, -⟩ := hinStep past hsuffix
    rw [hannounced, ← hpublished]
    rfl

/-! ## A change that is not told -/

/-- A facade with the default configuration. -/
def fresh : PowerFacade :=
  { svc :=
      { config := .default, current := .cleared, staleCount := 0, sampleSequence := 0 }
    config := .default, initialized := true }

/-- A normal battery, and then a low one. -/
def draining : List PowerStep :=
  [.process (.ok, 1400) 200, .process (.ok, 1600) 100]

theorem health_changes_announced_draining :
    Announces fresh (.init none) draining ∧
      ∀ past, past <:+ draining →
        (after fresh (.init none) past).announced =
          (after fresh (.init none) past).published := by
  apply @health_changes_announced none fresh (.init none) draining rfl
  · unfold draining SparesPower
    simp [everyEntry_cons, everyEntry_nil]
  · unfold draining ChangesInPeace
    simp only [everyEntry_cons, everyEntry_nil, PowerStep.process.injEq, and_true]
    refine ⟨?_, ?_⟩
    · rintro adc timeUs ⟨rfl, rfl⟩ -
      decide +kernel
    · rintro adc timeUs ⟨rfl, rfl⟩ -
      decide +kernel

/-- The facade after a normal battery was announced. -/
def normal : PowerHistory := after fresh (.init none) [.process (.ok, 1600) 100]

/-- Another writer opens a transaction and aborts it; in between a call finds the
battery low.  The next call finds it low too. -/
def lowWhileBusy : List PowerStep :=
  [.process (.ok, 1400) 300,
    .others { (RepoWriteTxn.txnInit.txnBegin normal.repo).2.2 with
      writerActive := false } normal.queue,
    .process (.ok, 1400) 200,
    .others (RepoWriteTxn.txnInit.txnBegin normal.repo).2.2 normal.queue,
    .process (.ok, 1600) 100]

theorem Tells.posted {adc : PortStatus × UInt16} {timeUs : UInt64}
    (htells : history.Tells adc timeUs) :
    (history.facade.processSample adc timeUs history.repo history.queue).2.posted ≠
      none := by
  obtain ⟨event, result, hposted, -⟩ := htells
  intro hsilent
  rw [hposted] at hsilent
  cases hsilent

/-- The low battery is published, but never announced. -/
theorem low_battery_never_announced :
    ¬ ∀ cfg facade queue log, PowerFacade.init cfg = .ok facade →
      SparesPower facade queue log → Announces facade queue log := by
  intro hclaim
  have hspares : SparesPower fresh (.init none)
      (.process (.ok, 1400) 400 :: lowWhileBusy) := by
    unfold lowWhileBusy SparesPower
    simp only [everyEntry_cons, everyEntry_nil, PowerStep.others.injEq, reduceCtorEq,
      false_implies, implies_true, true_and, and_true]
    refine ⟨?_, ?_⟩
    · rintro repo queue ⟨rfl, rfl⟩
      decide +kernel
    · rintro repo queue ⟨rfl, rfl⟩
      decide +kernel
  have htold := hclaim none fresh (.init none) _ rfl hspares _ _ List.suffix_rfl (.ok, 1400)
    400 rfl (by decide +kernel) (by decide +kernel)
  exact htold.posted (by decide +kernel)

end PowerHistory

end Swfpm
