import Swfpm.Leak.Tracker
import Swfpm.Support.Evidence

/-!
# What activates and what clears an evidence tracker

Activations and clearings over whole runs.  An unconfirmed tracker, one with
`activationCount = 0`, can be interrupted into `CLEAR_PENDING` and go on to
`ACTIVE` from there, which no duration guards.
-/

namespace Swfpm
namespace LeakEvidenceTracker

open Evidence

variable {past log : List Call} {call : Call}

theorem Ordered.le (hordered : Ordered (call :: past)) {earlier : Call}
    (hearlier : earlier ∈ past) : earlier.nowUs ≤ call.nowUs :=
  (List.pairwise_cons.mp hordered).1 earlier hearlier

theorem Ordered.suffix (hordered : Ordered log) (hsuffix : past <:+ log) :
    Ordered past :=
  List.Pairwise.sublist hsuffix.sublist hordered

theorem add_le_of_elapsed {start now duration : UInt64} (hstart : start ≤ now)
    (helapsed : now - start ≥ duration) :
    start.toNat + duration.toNat ≤ now.toNat := by
  have h := UInt64.le_iff_toNat_le.mp helapsed
  rw [UInt64.toNat_sub_of_le _ _ hstart] at h
  have hle := UInt64.le_iff_toNat_le.mp hstart
  omega

/-- A usable evaluation that comes later after the last one than allowed. -/
def ClosesGap (call : Call) (past : List Call) : Prop :=
  call.sourceUsable = true ∧
    ∃ earlier, past.find? (fun call => call.sourceUsable) = some earlier ∧
      earlier.nowUs.toNat + call.maxGapUs.toNat < call.nowUs.toNat

/-! ## The entry duration -/

/-- From the first call on, entry at every usable evaluation. -/
structure EntryHeld (first : Call) (older log : List Call) : Prop where
  usable : first.sourceUsable = true
  entry : first.entryActive = true
  held : HoldsAfter (fun call => call.sourceUsable = true)
    (fun call => call.entryActive = true) first older log

/-- Entry at every usable evaluation over a span that ends at `nowUs`. -/
def SustainedEntry (log : List Call) (nowUs durationUs : UInt64) : Prop :=
  ∃ first older, EntryHeld first older log ∧
    first.nowUs.toNat + durationUs.toNat ≤ nowUs.toNat

/-- The call takes a tracker without a confirmed activation to `ACTIVE`. -/
def Activates (self : LeakEvidenceTracker) (call : Call) : Prop :=
  self.activationCount = 0 ∧ self.phase ≠ .active ∧
    (self.observe call).phase = .active

/-- A usable evaluation that finds an unconfirmed tracker in `CLEAR_PENDING`,
and not clear evidence alone. -/
def Reverts (self : LeakEvidenceTracker) (call : Call) : Prop :=
  self.activationCount = 0 ∧ call.sourceUsable = true ∧
    self.found = .clearPending ∧
    (call.entryActive = true ∨ call.clearActive = false)

/-- A tracker found in `PENDING` has seen nothing but entry since it started. -/
theorem collecting_since (log : List Call) (hfound : (after log).found = .pending) :
    ∃ first older, EntryHeld first older log ∧
      first.nowUs = (after log).entryStartUs := by
  induction log with
  | nil => simp [after, found_init] at hfound
  | cons call log ih =>
      have hstep := observe_transition (after log) call
      rcases hstep.pending_cases (after_wellPhased log) hfound with
        ⟨husable, hentry, hstart⟩ | ⟨hfound, hstart, hentry⟩
      · exact ⟨call, log, ⟨husable, hentry, .start⟩, hstart.symm⟩
      · obtain ⟨first, older, hheld, hfirst⟩ := ih hfound
        exact ⟨first, older,
          ⟨hheld.usable, hheld.entry, hheld.held.cons hentry⟩,
          hfirst.trans hstart.symm⟩

/-- Without a reversion only a confirmed tracker is active. -/
theorem confirmed_of_active
    (hnone : EveryEntry (fun call past => ¬ Reverts (after past) call) log)
    (hfound : (after log).found = .active) : (after log).activationCount ≠ 0 := by
  induction log with
  | nil => simp [after, found_init] at hfound
  | cons call log ih =>
      obtain ⟨hcall, hlog⟩ := everyEntry_cons.mp hnone
      have hself := after_wellPhased log
      have hstep := observe_transition (after log) call
      rcases hstep.active_cases hself hfound with
        ⟨hpending, _, _, _, hcount⟩ | ⟨hactive, hcount, _⟩ |
          ⟨hclearing, husable, hcount, hback⟩
      · have hzero := hself.unconfirmed (.inr hpending)
        rw [after, hcount, hzero]
        decide
      · rw [after, hcount]
        exact ih hlog hactive
      · intro hzero
        rw [after, hcount] at hzero
        exact hcall ⟨hzero, husable, hclearing, hback⟩

/-- The call that activates a collecting tracker ends a span of entry. -/
theorem sustained_of_elapsed (hordered : Ordered (call :: past))
    (hfound : (after past).found = .pending) (hentry : call.entryActive = true)
    (helapsed : call.nowUs - (after past).entryStartUs ≥ call.entryDurationUs) :
    SustainedEntry (call :: past) call.nowUs call.entryDurationUs := by
  obtain ⟨first, older, hheld, hfirst⟩ := collecting_since past hfound
  have hlonger := hheld.held.cons fun _ => hentry
  refine ⟨first, older, ⟨hheld.usable, hheld.entry, hlonger⟩, ?_⟩
  rw [← hfirst] at helapsed
  exact add_le_of_elapsed (hordered.le hheld.held.mem) helapsed

theorem activates_sustained (hordered : Ordered (call :: past))
    (hnone : EveryEntry (fun call past => ¬ Reverts (after past) call)
      (call :: past))
    (hactivates : Activates (after past) call) :
    SustainedEntry (call :: past) call.nowUs call.entryDurationUs := by
  obtain ⟨hcall, hpast⟩ := everyEntry_cons.mp hnone
  obtain ⟨hzero, hphase, hactive⟩ := hactivates
  have hfound : ((after past).observe call).found = .active := by
    rw [found_eq_phase (by rw [hactive]; decide)]
    exact hactive
  have hstep := observe_transition (after past) call
  rcases hstep.active_cases (after_wellPhased past) hfound with
    ⟨hpending, _, hentry, helapsed, _⟩ | ⟨hactive, _⟩ |
      ⟨hclearing, husable, _, hback⟩
  · exact sustained_of_elapsed hordered hpending hentry helapsed
  · exact absurd hzero (confirmed_of_active hpast hactive)
  · exact absurd ⟨hzero, husable, hclearing, hback⟩ hcall

/-- What interrupted an unconfirmed tracker was an evaluation without entry. -/
theorem newest_without_entry
    (hnone : EveryEntry (fun call past => ¬ Reverts (after past) call) log)
    (hfound : (after log).found = .clearPending)
    (hzero : (after log).activationCount = 0) :
    ∃ newest, log.find? (fun call => call.sourceUsable) = some newest ∧
      newest.entryActive = false := by
  induction log with
  | nil => simp [after, found_init] at hfound
  | cons call log ih =>
      have hlog := (everyEntry_cons.mp hnone).2
      have hstep := observe_transition (after log) call
      rcases hstep.clearPending_cases (after_wellPhased log) hfound with
        ⟨hcount, husable, _, _, ⟨_, hentry⟩ | hactive⟩ |
          ⟨hcount, hclearing, _, hquiet⟩
      · exact ⟨call, by simp [husable], hentry⟩
      · rw [after, hcount] at hzero
        exact absurd hzero (confirmed_of_active hlog hactive)
      · rw [after, hcount] at hzero
        cases husable : call.sourceUsable with
        | true => exact ⟨call, by simp [husable], (hquiet husable).2⟩
        | false =>
            obtain ⟨newest, hnewest, hentry⟩ := ih hlog hclearing hzero
            exact ⟨newest, by simpa [husable] using hnewest, hentry⟩

/-- A reversion activates the tracker on entry that did not last. -/
theorem Reverts.not_sustained (hreverts : Reverts (after past) call)
    (hnone : EveryEntry (fun call past => ¬ Reverts (after past) call) past)
    (hduration : 0 < call.entryDurationUs) :
    Activates (after past) call ∧
      ¬ SustainedEntry (call :: past) call.nowUs call.entryDurationUs := by
  obtain ⟨hzero, husable, hfound, hback⟩ := hreverts
  have hstep := observe_transition (after past) call
  refine ⟨⟨hzero, ?_, hstep.phase_of_returned husable hfound hback⟩, ?_⟩
  · intro hphase
    rw [found_eq_phase (by rw [hphase]; decide), hphase] at hfound
    cases hfound
  · rintro ⟨first, older, hheld, hspan⟩
    rcases hheld.held.cons_cases with ⟨rfl, _⟩ | ⟨_, hpast⟩
    · have hpos := UInt64.lt_iff_toNat_lt.mp hduration
      simp only [UInt64.toNat_zero] at hpos
      omega
    · obtain ⟨newest, hnewest, hentry⟩ := newest_without_entry hnone hfound hzero
      have hheldNewest := hpast.newest hheld.usable hheld.entry hnewest
      simp [hentry] at hheldNewest

/-- Every activation of a run ends a span of entry as long as the entry
duration if no evaluation reverts an unconfirmed clearing, and only then where
entry durations are positive. -/
theorem activation_sustained (log : List Call) (hordered : Ordered log) :
    (EveryEntry (fun call past => ¬ Reverts (after past) call) log →
      EveryEntry (fun call past => Activates (after past) call →
        SustainedEntry (call :: past) call.nowUs call.entryDurationUs) log) ∧
    ((∀ call ∈ log, 0 < call.entryDurationUs) →
      EveryEntry (fun call past => Activates (after past) call →
        SustainedEntry (call :: past) call.nowUs call.entryDurationUs) log →
      EveryEntry (fun call past => ¬ Reverts (after past) call) log) := by
  constructor
  · intro hnone call past hsuffix hactivates
    exact activates_sustained (hordered.suffix hsuffix) (hnone.suffix hsuffix)
      hactivates
  · intro hdurations hsustained
    induction log with
    | nil => exact everyEntry_nil
    | cons call log ih =>
        obtain ⟨hcall, hlog⟩ := everyEntry_cons.mp hsustained
        have hnone := ih (hordered.suffix (List.suffix_cons call log))
          (fun other hother => hdurations other (List.mem_cons_of_mem _ hother)) hlog
        refine everyEntry_cons.mpr ⟨fun hreverts => ?_, hnone⟩
        obtain ⟨hactivates, hshort⟩ :=
          hreverts.not_sustained hnone (hdurations call List.mem_cons_self)
        exact hshort (hcall hactivates)

def interruptedRun : List Call :=
  [⟨true, false, true, 3000, 10000, 10000, 5000⟩,
    ⟨false, true, true, 2000, 10000, 10000, 5000⟩,
    ⟨true, false, true, 1000, 10000, 10000, 5000⟩]

/-- Entry for one call, clear for one and entry again: active after 2 ms
although the entry duration is 10 ms. -/
theorem interruptedRun_activates :
    ¬ ∀ log, Ordered log → EveryEntry (fun call past => ¬ ClosesGap call past) log →
      (∀ call ∈ log, ¬ (call.entryActive = true ∧ call.clearActive = true)) →
      EveryEntry (fun call past => Activates (after past) call →
        SustainedEntry (call :: past) call.nowUs call.entryDurationUs) log := by
  intro hclaim
  have hgapless : EveryEntry (fun call past => ¬ ClosesGap call past) interruptedRun := by
    unfold interruptedRun
    simp only [everyEntry_cons, everyEntry_nil, ClosesGap]
    decide
  have hsustained := hclaim interruptedRun (by unfold Ordered interruptedRun; decide)
    hgapless (by decide)
  obtain ⟨first, older, hheld, hspan⟩ :=
    (everyEntry_cons.mp hsustained).1 (by unfold Activates; decide)
  have hnow := hheld.held.mem
  simp only [List.mem_cons, List.not_mem_nil, or_false] at hnow
  rcases hnow with rfl | rfl | rfl <;> simp at hspan

theorem activation_sustained_straight :
    EveryEntry (fun call past => Activates (after past) call →
      SustainedEntry (call :: past) call.nowUs call.entryDurationUs)
      [⟨true, false, true, 11000, 10000, 10000, 20000⟩,
        ⟨true, false, true, 1000, 10000, 10000, 20000⟩] := by
  apply (activation_sustained _ (by unfold Ordered; decide)).1
  simp only [everyEntry_cons, everyEntry_nil, Reverts]
  decide

/-! ## Gaps in the evidence -/

/-- The entry duration lies between the call and an evaluation with entry that
closes the newest gap or comes after it. -/
def CountedAnew (call : Call) (past : List Call) : Prop :=
  ∀ closing before, closing :: before <:+ call :: past → ClosesGap closing before →
    ∃ first older, first.sourceUsable = true ∧ first.entryActive = true ∧
      closing :: before <:+ first :: older ∧ first :: older <:+ call :: past ∧
      first.nowUs.toNat + call.entryDurationUs.toNat ≤ call.nowUs.toNat

/-- Entry, and a collecting tracker that has not noticed the gap before it. -/
def CollectsAcrossGap (call : Call) (past : List Call) : Prop :=
  (after past).found = .pending ∧ call.entryActive = true ∧ ClosesGap call past

/-- The end of a suspension that goes back to an unconfirmed `ACTIVE`. -/
def ResumesUnconfirmed (self : LeakEvidenceTracker) (call : Call) : Prop :=
  self.activationCount = 0 ∧ call.sourceUsable = true ∧
    self.phase = .suspended ∧ self.found = .active ∧ call.clearActive = false

/-- After a gap, an unconfirmed tracker becomes active otherwise than by its
entry duration. -/
def ReturnsAfterGap (call : Call) (past : List Call) : Prop :=
  (∃ closing before, closing :: before <:+ call :: past ∧ ClosesGap closing before) ∧
    (Reverts (after past) call ∨ ResumesUnconfirmed (after past) call)

/-- A collecting tracker started after the newest gap. -/
theorem collecting_after_gap
    (hnone : EveryEntry (fun call past => ¬ CollectsAcrossGap call past) log)
    (hfound : (after log).found = .pending) :
    ∃ first older, first.sourceUsable = true ∧ first.entryActive = true ∧
      first.nowUs = (after log).entryStartUs ∧ first :: older <:+ log ∧
      ∀ closing before, closing :: before <:+ log → ClosesGap closing before →
        closing :: before <:+ first :: older := by
  induction log with
  | nil => simp [after, found_init] at hfound
  | cons call log ih =>
      obtain ⟨hcall, hlog⟩ := everyEntry_cons.mp hnone
      have hstep := observe_transition (after log) call
      rcases hstep.pending_cases (after_wellPhased log) hfound with
        ⟨husable, hentry, hstart⟩ | ⟨hpending, hstart, hentry⟩
      · refine ⟨call, log, husable, hentry, hstart.symm, List.suffix_rfl, ?_⟩
        intro closing before hsuffix _
        exact hsuffix
      · obtain ⟨first, older, husable, hfirst, hnow, hsuffix, hgaps⟩ :=
          ih hlog hpending
        refine ⟨first, older, husable, hfirst, hnow.trans hstart.symm,
          hsuffix.trans (List.suffix_cons call log), ?_⟩
        intro closing before hclosing hgap
        rcases List.suffix_cons_iff.mp hclosing with heq | hclosing
        · obtain ⟨rfl, rfl⟩ := List.cons.inj heq
          exact absurd ⟨hpending, hentry hgap.1, hgap⟩ hcall
        · exact hgaps closing before hclosing hgap

theorem counted_of_elapsed (hordered : Ordered (call :: past))
    (hnone : EveryEntry (fun call past => ¬ CollectsAcrossGap call past)
      (call :: past))
    (hfound : (after past).found = .pending) (hentry : call.entryActive = true)
    (helapsed : call.nowUs - (after past).entryStartUs ≥ call.entryDurationUs) :
    CountedAnew call past := by
  obtain ⟨hcall, hpast⟩ := everyEntry_cons.mp hnone
  obtain ⟨first, older, husable, hfirst, hnow, hsuffix, hgaps⟩ :=
    collecting_after_gap hpast hfound
  intro closing before hclosing hgap
  rcases List.suffix_cons_iff.mp hclosing with heq | hclosing
  · obtain ⟨rfl, rfl⟩ := List.cons.inj heq
    exact absurd ⟨hfound, hentry, hgap⟩ hcall
  · rw [← hnow] at helapsed
    have hle := hordered.le (hsuffix.subset List.mem_cons_self)
    exact ⟨first, older, husable, hfirst, hgaps closing before hclosing hgap,
      hsuffix.trans (List.suffix_cons call past), add_le_of_elapsed hle helapsed⟩

/-- In a run in which no collecting tracker meets entry across a gap, and no
unconfirmed tracker becomes active after one but by its entry duration, every
activation counts from after the newest gap. -/
theorem activation_after_gap (log : List Call) (hordered : Ordered log)
    (hcollects : EveryEntry (fun call past => ¬ CollectsAcrossGap call past) log)
    (hreturns : EveryEntry (fun call past => ¬ ReturnsAfterGap call past) log) :
    EveryEntry (fun call past => Activates (after past) call →
      CountedAnew call past) log := by
  intro call past hsuffix ⟨hzero, hphase, hactive⟩
  have hfound : ((after past).observe call).found = .active := by
    rw [found_eq_phase (by rw [hactive]; decide)]
    exact hactive
  have hstep := observe_transition (after past) call
  have husable := hstep.usable_of_active hactive
  rcases hstep.active_cases (after_wellPhased past) hfound with
    ⟨hpending, _, hentry, helapsed, _⟩ | ⟨hresumed, _, hclear⟩ |
      ⟨hclearing, _, _, hback⟩
  · exact counted_of_elapsed (hordered.suffix hsuffix) (hcollects.suffix hsuffix)
      hpending hentry helapsed
  · intro closing before hclosing hgap
    have hsuspended : (after past).phase = .suspended := by
      by_contra hrunning
      rw [found_eq_phase hrunning] at hresumed
      exact hphase hresumed
    exact absurd ⟨⟨closing, before, hclosing, hgap⟩,
      .inr ⟨hzero, husable, hsuspended, hresumed, hclear husable⟩⟩
      (hreturns call past hsuffix)
  · intro closing before hclosing hgap
    exact absurd ⟨⟨closing, before, hclosing, hgap⟩,
      .inl ⟨hzero, husable, hclearing, hback⟩⟩ (hreturns call past hsuffix)

/-- Entry at 1 ms, nothing for 99 ms, and entry again: active at once. -/
theorem unobserved_activates :
    ¬ ∀ log, Ordered log →
      EveryEntry (fun call past => Activates (after past) call →
        CountedAnew call past) log := by
  intro hclaim
  have hcounted := hclaim
    [⟨true, false, true, 100000, 10000, 10000, 5000⟩,
      ⟨true, false, true, 1000, 10000, 10000, 5000⟩] (by unfold Ordered; decide)
  obtain ⟨first, older, _, _, hafter, hbefore, hspan⟩ :=
    (everyEntry_cons.mp hcounted).1 (by unfold Activates; decide) _ _
      List.suffix_rfl (by unfold ClosesGap; simp)
  have heq := hbefore.eq_of_length_le hafter.length_le
  obtain ⟨rfl, _⟩ := List.cons.inj heq
  simp at hspan

theorem activation_after_gap_restarted :
    EveryEntry (fun call past => Activates (after past) call →
      CountedAnew call past)
      [⟨true, false, true, 112000, 10000, 10000, 20000⟩,
        ⟨true, false, true, 100000, 10000, 10000, 20000⟩,
        ⟨false, false, false, 50000, 10000, 10000, 20000⟩,
        ⟨true, false, true, 1000, 10000, 10000, 20000⟩] := by
  apply activation_after_gap _ (by unfold Ordered; decide)
  · simp only [everyEntry_cons, everyEntry_nil, CollectsAcrossGap, ClosesGap]
    decide
  · simp only [everyEntry_cons, everyEntry_nil, ReturnsAfterGap, not_and_or, Reverts,
      ResumesUnconfirmed]
    refine ⟨.inr ?_, .inr ?_, .inr ?_, .inr ?_, trivial⟩ <;> decide

/-! ## The clear duration -/

/-- A confirmed tracker found clearing has seen clear and no entry since the
evaluation that found it active. -/
theorem clearing_since (log : List Call)
    (hfound : (after log).found = .clearPending)
    (hcount : (after log).activationCount ≠ 0) :
    ∃ first older, first.sourceUsable = true ∧ first.clearActive = true ∧
      (after older).found = .active ∧ first.nowUs = (after log).clearStartUs ∧
      HoldsAfter (fun call => call.sourceUsable = true)
        (fun call => call.clearActive = true ∧ call.entryActive = false)
        first older log := by
  induction log with
  | nil => simp [after, found_init] at hfound
  | cons call log ih =>
      have hself := after_wellPhased log
      have hstep := observe_transition (after log) call
      rcases hstep.clearPending_cases hself hfound with
        ⟨hsame, husable, hclear, hstart, ⟨hpending, _⟩ | hactive⟩ |
          ⟨hsame, hclearing, hstart, hquiet⟩
      · rw [after, hsame] at hcount
        exact absurd (hself.unconfirmed (.inr hpending)) hcount
      · exact ⟨call, log, husable, hclear, hactive, hstart.symm, .start⟩
      · rw [after, hsame] at hcount
        obtain ⟨first, older, husable, hclear, hactive, hnow, hheld⟩ :=
          ih hclearing hcount
        exact ⟨first, older, husable, hclear, hactive, hnow.trans hstart.symm,
          hheld.cons hquiet⟩

theorem confirmed_until_inactive (hsuffix : past <:+ log)
    (hcount : (after past).activationCount ≠ 0)
    (hheld : ∀ between, past <:+ between → between <:+ log →
      between ≠ past → (after between).phase ≠ .inactive) :
    (after log).activationCount ≠ 0 := by
  induction log with
  | nil => rwa [List.suffix_nil.mp hsuffix] at hcount
  | cons call log ih =>
      rcases List.suffix_cons_iff.mp hsuffix with rfl | hpast
      · exact hcount
      · have hnew : call :: log ≠ past := by
          rintro rfl
          simpa using hpast.length_le
        have hlog := ih hpast fun between hafter hbefore =>
          hheld between hafter (hbefore.trans (List.suffix_cons call log))
        exact (observe_transition (after log) call).confirmed (after_wellPhased log)
          hlog (hheld _ hsuffix List.suffix_rfl hnew)

/-- A tracker with a confirmed activation gets back to `INACTIVE` only after clear
evidence without entry for the clear duration.  Of the evaluation that began it
only clear is known: it found the tracker active. -/
theorem confirmed_clears_sustained (hordered : Ordered (call :: log))
    (hsuffix : past <:+ log) (hcount : (after past).activationCount ≠ 0)
    (hheld : ∀ between, past <:+ between → between <:+ log →
      between ≠ past → (after between).phase ≠ .inactive)
    (hcleared : (after (call :: log)).phase = .inactive) :
    ∃ first older, first.sourceUsable = true ∧ first.clearActive = true ∧
      (after older).found = .active ∧
      first.nowUs.toNat + call.clearDurationUs.toNat ≤ call.nowUs.toNat ∧
      HoldsAfter (fun call => call.sourceUsable = true)
        (fun call => call.clearActive = true ∧ call.entryActive = false)
        first older (call :: log) := by
  have hconfirmed := confirmed_until_inactive hsuffix hcount hheld
  have hstep := observe_transition (after log) call
  rcases hstep.inactive_cases (after_wellPhased log) hcleared with
    hzero | ⟨hclearing, _, hentry, hclear, helapsed⟩
  · exact absurd hzero hconfirmed
  · obtain ⟨first, older, hfirst, hbegan, hactive, hnow, hquiet⟩ :=
      clearing_since log hclearing hconfirmed
    rw [← hnow] at helapsed
    exact ⟨first, older, hfirst, hbegan, hactive,
      add_le_of_elapsed (hordered.le hquiet.mem) helapsed,
      hquiet.cons fun _ => ⟨hclear, hentry⟩⟩

def contestedRun : List Call :=
  [⟨true, true, true, 30000, 10000, 10000, 20000⟩,
    ⟨true, false, true, 20000, 10000, 10000, 20000⟩,
    ⟨true, false, true, 10000, 10000, 10000, 20000⟩]

theorem confirmed_clears_sustained_contested :
    ∃ first older, first.sourceUsable = true ∧ first.clearActive = true ∧
      (after older).found = .active ∧
      first.nowUs.toNat + 10000 ≤ 40000 ∧
      HoldsAfter (fun call => call.sourceUsable = true)
        (fun call => call.clearActive = true ∧ call.entryActive = false)
        first older (⟨false, true, true, 40000, 10000, 10000, 20000⟩ :: contestedRun) :=
  @confirmed_clears_sustained contestedRun contestedRun
    ⟨false, true, true, 40000, 10000, 10000, 20000⟩
    (by unfold Ordered contestedRun; decide) List.suffix_rfl (by decide)
    (by
      intro between hafter hbefore hne
      exact absurd (hbefore.eq_of_length_le hafter.length_le) hne)
    (by decide)

/-- Entry and clear together begin the clearing of an active tracker. -/
theorem contestedRun_clears :
    ¬ ∀ (past log : List Call) (call : Call), Ordered (call :: log) → past <:+ log →
      (after past).phase = .active → (after past).activationCount ≠ 0 →
      (∀ between, past <:+ between → between <:+ log → between ≠ past →
        (after between).phase ≠ .inactive) →
      (after (call :: log)).phase = .inactive →
      ∃ sinceUs : ℕ, sinceUs + call.clearDurationUs.toNat ≤ call.nowUs.toNat ∧
        ∀ other ∈ call :: log, other.sourceUsable = true →
          sinceUs ≤ other.nowUs.toNat →
          other.clearActive = true ∧ other.entryActive = false := by
  intro hclaim
  have hheld : ∀ between, contestedRun.tail <:+ between → between <:+ contestedRun →
      between ≠ contestedRun.tail → (after between).phase ≠ .inactive := by
    intro between hafter hbefore hne
    rcases List.suffix_cons_iff.mp hbefore with rfl | hbefore
    · decide
    · exact absurd (hbefore.eq_of_length_le hafter.length_le) hne
  obtain ⟨sinceUs, hspan, hquiet⟩ := hclaim contestedRun.tail contestedRun
    ⟨false, true, true, 40000, 10000, 10000, 20000⟩
    (by unfold Ordered contestedRun; decide) (List.tail_suffix contestedRun)
    (by decide) (by decide) hheld (by decide)
  have hcontested := hquiet ⟨true, true, true, 30000, 10000, 10000, 20000⟩
    (by decide) rfl (by simpa using hspan)
  simp at hcontested

end LeakEvidenceTracker
end Swfpm
