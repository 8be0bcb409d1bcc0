import Mathlib

/-!
# Numbered records and lost acknowledgements

A writer numbers its records, keeps two of them, and gives the next number to a
new record only when it is told that the last one was stored.  When that news is
lost, the record stays under a number that the writer uses again.  The ledger
follows what the two places hold; its one bad end is two records under one
number.
-/

/-- What became of one attempt to store a record. -/
inductive AttemptFate (ρ : Type*) where
  /-- Nothing was stored. -/
  | void
  /-- The record was stored, and the writer was not told. -/
  | unconfirmed (record : ρ)
  | confirmed (record : ρ)
  deriving DecidableEq, Repr

inductive RetryLedger (ρ : Type*) where
  /-- The newest record is the last one of which the writer was told. -/
  | settled (record : Option ρ)
  /-- The newest record has the number that the writer uses next. -/
  | ahead (record : ρ)
  /-- Two records have the same number. -/
  | conflict
  deriving DecidableEq, Repr

/-- The record that an attempt stored. -/
def AttemptFate.stored? {ρ : Type*} : AttemptFate ρ → Option ρ
  | .void => none
  | .unconfirmed record => some record
  | .confirmed record => some record

namespace RetryLedger

variable {ρ : Type*} [DecidableEq ρ]

def enter : RetryLedger ρ → AttemptFate ρ → RetryLedger ρ
  | .conflict, _ => .conflict
  | ledger, .void => ledger
  | .settled _, .unconfirmed record => .ahead record
  | .settled _, .confirmed record => .settled (some record)
  | .ahead old, .unconfirmed record =>
      if record = old then .ahead old else .conflict
  | .ahead old, .confirmed record =>
      if record = old then .settled (some record) else .conflict

/-- The ledger after a list of attempts. -/
def enterAll (ledger : RetryLedger ρ) (fates : List (AttemptFate ρ)) :
    RetryLedger ρ :=
  fates.foldl enter ledger

variable {ledger : RetryLedger ρ} {fates later : List (AttemptFate ρ)}
  {fate : AttemptFate ρ} {record other : ρ}

@[simp] theorem enterAll_nil : ledger.enterAll [] = ledger := rfl

@[simp] theorem enterAll_cons :
    ledger.enterAll (fate :: fates) = (ledger.enter fate).enterAll fates := rfl

@[simp] theorem enterAll_append :
    ledger.enterAll (fates ++ later) = (ledger.enterAll fates).enterAll later :=
  List.foldl_append

@[simp] theorem enter_void : ledger.enter .void = ledger := by
  cases ledger with
  | settled | ahead | conflict => rfl

@[simp] theorem conflict_enter : conflict.enter fate = conflict := rfl

/-- A conflict is for ever. -/
@[simp] theorem conflict_enterAll : conflict.enterAll fates = conflict := by
  induction fates with
  | nil => rfl
  | cons fate fates ih => exact ih

/-- Storing the lingering record again changes nothing, and storing another one
is a conflict. -/
theorem ahead_enter_unconfirmed :
    (ahead record).enter (.unconfirmed other) =
      if other = record then ahead record else conflict := rfl

theorem ahead_enter_of_ne (hstored : fate.stored? = some other)
    (hne : other ≠ record) : (ahead record).enter fate = conflict := by
  cases fate with
  | void => simp [AttemptFate.stored?] at hstored
  | unconfirmed stored | confirmed stored =>
      obtain rfl : stored = other := Option.some.inj hstored
      exact if_neg hne

/-- How a ledger comes to be ahead: the record was stored just now from a
settled ledger, or it lingers and nothing else was stored. -/
theorem enter_eq_ahead (hahead : ledger.enter fate = ahead record) :
    fate = .unconfirmed record ∨
      ledger = ahead record ∧ fate = .void := by
  cases fate with
  | void =>
      rw [enter_void] at hahead
      exact Or.inr ⟨hahead, rfl⟩
  | unconfirmed stored =>
      left
      cases ledger with
      | settled last =>
          obtain rfl : stored = record := ahead.inj hahead
          rfl
      | ahead old =>
          rw [ahead_enter_unconfirmed] at hahead
          split at hahead
          · rename_i hsame
            rw [hsame, ahead.inj hahead]
          · contradiction
      | conflict => contradiction
  | confirmed stored =>
      cases ledger with
      | settled last => contradiction
      | ahead old =>
          simp only [enter] at hahead
          split at hahead <;> contradiction
      | conflict => contradiction

/-- The one way into a conflict. -/
theorem enter_eq_conflict (hconflict : ledger.enter fate = conflict) :
    ledger = conflict ∨ ∃ old stored, ledger = ahead old ∧
      fate.stored? = some stored ∧ stored ≠ old := by
  cases ledger with
  | conflict => exact Or.inl rfl
  | settled last =>
      cases fate with
      | void | unconfirmed stored | confirmed stored => contradiction
  | ahead old =>
      right
      cases fate with
      | void => contradiction
      | unconfirmed stored | confirmed stored =>
          refine ⟨old, stored, rfl, rfl, fun hsame => ?_⟩
          simp [enter, hsame] at hconflict

/-! ## The newest record -/

/-- The record that has the highest number. -/
def newest : RetryLedger ρ → Option ρ
  | .settled record => record
  | .ahead record => some record
  | .conflict => none

theorem newest_enter (hcalm : ledger.enter fate ≠ conflict) :
    (ledger.enter fate).newest = fate.stored?.or ledger.newest := by
  cases ledger with
  | conflict => exact absurd rfl hcalm
  | settled last => cases fate <;> rfl
  | ahead old =>
      cases fate with
      | void => rfl
      | unconfirmed stored | confirmed stored =>
          by_cases hsame : stored = old
          · subst hsame
            simp [enter, newest, AttemptFate.stored?]
          · exact absurd (ahead_enter_of_ne rfl hsame) hcalm

/-- Without a conflict the newest record is the one that was stored last,
whether the writer was told or not. -/
theorem newest_enterAll (hcalm : ledger.enterAll fates ≠ conflict) :
    (ledger.enterAll fates).newest =
      (fates.filterMap AttemptFate.stored?).getLast?.or ledger.newest := by
  induction fates using List.reverseRecOn with
  | nil => rfl
  | append_singleton fates fate ih =>
      rw [enterAll_append] at hcalm ⊢
      have hbefore : ledger.enterAll fates ≠ conflict := by
        intro h
        exact hcalm (by rw [h]; rfl)
      rw [enterAll_cons, enterAll_nil, newest_enter hcalm, ih hbefore,
        List.filterMap_append]
      cases fate with
      | void => simp [AttemptFate.stored?]
      | unconfirmed stored | confirmed stored =>
          simp [AttemptFate.stored?]

/-! ## Lingering records -/

/-- `record` was stored, the writer was not told, and since then nothing was
stored but this record, still without the writer being told. -/
def Lingers (fates : List (AttemptFate ρ)) (record : ρ) : Prop :=
  ∃ early late, fates = early ++ .unconfirmed record :: late ∧
    ∀ fate ∈ late, fate = .void ∨ fate = .unconfirmed record

theorem Lingers.enterAll (hlingers : Lingers fates record)
    (ledger : RetryLedger ρ) :
    ledger.enterAll fates = ahead record ∨
      ledger.enterAll fates = conflict := by
  obtain ⟨early, late, rfl, hlate⟩ := hlingers
  have hstored : ∀ before : RetryLedger ρ,
      before.enter (.unconfirmed record) = ahead record ∨
        before.enter (.unconfirmed record) = conflict := by
    intro before
    cases before with
    | settled last => exact Or.inl rfl
    | ahead old =>
        rw [ahead_enter_unconfirmed]
        split
        · rename_i hsame
          exact Or.inl (by rw [hsame])
        · exact Or.inr rfl
    | conflict => exact Or.inr rfl
  have hkept : (ahead record).enterAll late = ahead record := by
    clear hstored
    induction late with
    | nil => rfl
    | cons fate late ih =>
        have hrest := ih fun entry hentry =>
          hlate entry (List.mem_cons_of_mem fate hentry)
        rcases hlate fate List.mem_cons_self with rfl | rfl
        · rw [enterAll_cons, enter_void]
          exact hrest
        · rw [enterAll_cons, ahead_enter_unconfirmed, if_pos rfl]
          exact hrest
  rw [enterAll_append, enterAll_cons]
  rcases hstored (ledger.enterAll early) with h | h
  · rw [h]
    exact Or.inl hkept
  · rw [h]
    exact Or.inr conflict_enterAll

/-- From a settled ledger, the writer is behind exactly one lingering
record. -/
theorem lingers_of_ahead {last : Option ρ}
    (hahead : (settled last).enterAll fates = ahead record) :
    Lingers fates record := by
  induction fates using List.reverseRecOn with
  | nil => contradiction
  | append_singleton fates fate ih =>
      rw [enterAll_append] at hahead
      rcases enter_eq_ahead hahead with rfl | ⟨hbefore, rfl⟩
      · exact ⟨fates, [], rfl, by simp⟩
      · obtain ⟨early, late, rfl, hlate⟩ := ih hbefore
        refine ⟨early, late ++ [.void], by simp, fun entry hentry => ?_⟩
        rcases List.mem_append.mp hentry with h | h
        · exact hlate entry h
        · exact Or.inl (List.mem_singleton.mp h)

/-- The exact way into a conflict: another record was stored while one
lingered. -/
theorem enterAll_eq_conflict_iff {last : Option ρ} :
    (settled last).enterAll fates = conflict ↔
      ∃ before fate after record other, fates = before ++ fate :: after ∧
        Lingers before record ∧ fate.stored? = some other ∧
          other ≠ record := by
  constructor
  · intro hconflict
    induction fates using List.reverseRecOn with
    | nil => contradiction
    | append_singleton fates fate ih =>
        rw [enterAll_append] at hconflict
        rcases enter_eq_conflict hconflict with h | ⟨old, stored, h, hst, hne⟩
        · obtain ⟨before, first, after, record, other, rfl, hrest⟩ := ih h
          exact ⟨before, first, after ++ [fate], record, other, by simp, hrest⟩
        · exact ⟨fates, fate, [], old, stored, rfl, lingers_of_ahead h, hst,
            hne⟩
  · rintro ⟨before, fate, after, record, other, rfl, hlingers, hstored, hne⟩
    rw [enterAll_append, enterAll_cons]
    rcases hlingers.enterAll (settled last) with h | h
    · rw [h, ahead_enter_of_ne hstored hne]
      exact conflict_enterAll
    · rw [h]
      exact conflict_enterAll

end RetryLedger
