import Mathlib.Data.List.Infix

/-!
# One transfer at a time

What an asynchronous peripheral is asked for and what it reports, newest first.
A transfer is abandoned once a cancellation or a recovery is refused while it
runs: its owner has given it up, and the peripheral has not.
-/

namespace AsyncTransfer

variable {ρ σ : Type*}

/-- What is asked of the peripheral, with its answer, and what it reports. -/
inductive Operation (ρ σ : Type*) where
  | start (request : ρ) (taken : Bool)
  | cancel (done : Bool)
  | recover (done : Bool)
  | completed (result : σ)
  deriving DecidableEq, Repr

inductive Phase (ρ : Type*) where
  | idle
  | running (request : ρ)
  | abandoned (request : ρ)
  deriving DecidableEq, Repr

def Phase.giveUp : Phase ρ → Phase ρ
  | .idle => .idle
  | .running request => .abandoned request
  | .abandoned request => .abandoned request

def Phase.after (phase : Phase ρ) : Operation ρ σ → Phase ρ
  | .start request taken => if taken then .running request else phase
  | .cancel done => if done then .idle else phase.giveUp
  | .recover done => if done then .idle else phase.giveUp
  | .completed _ => .idle

def phase : List (Operation ρ σ) → Phase ρ
  | [] => .idle
  | operation :: older => (phase older).after operation

/-- The transfers that completed before they were given up, with their results. -/
def outcomes : List (Operation ρ σ) → List (ρ × σ)
  | [] => []
  | .completed result :: older =>
      match phase older with
      | .running request => (request, result) :: outcomes older
      | _ => outcomes older
  | _ :: older => outcomes older

/-- How many transfers completed after they were given up. -/
def late : List (Operation ρ σ) → ℕ
  | [] => 0
  | .completed _ :: older =>
      match phase older with
      | .abandoned _ => late older + 1
      | _ => late older
  | _ :: older => late older

/-- Only completions have outcomes. -/
theorem outcomes_append {newer : List (Operation ρ σ)}
    (hnewer : ∀ result, .completed result ∉ newer) (older : List (Operation ρ σ)) :
    outcomes (newer ++ older) = outcomes older := by
  induction newer with
  | nil => rfl
  | cons operation newer ih =>
      have hrest := ih fun result hmem => hnewer result (List.mem_cons_of_mem _ hmem)
      cases operation with
      | start | cancel | recover => exact hrest
      | completed result => exact absurd List.mem_cons_self (hnewer result)

theorem late_append {newer : List (Operation ρ σ)}
    (hnewer : ∀ result, .completed result ∉ newer) (older : List (Operation ρ σ)) :
    late (newer ++ older) = late older := by
  induction newer with
  | nil => rfl
  | cons operation newer ih =>
      have hrest := ih fun result hmem => hnewer result (List.mem_cons_of_mem _ hmem)
      cases operation with
      | start | cancel | recover => exact hrest
      | completed result => exact absurd List.mem_cons_self (hnewer result)

/-! ## Orderly use -/

/-- A transfer is started on an idle peripheral and cancelled while it runs. -/
def Phase.Admits (phase : Phase ρ) : Operation ρ σ → Prop
  | .start _ _ => phase = .idle
  | .cancel _ => ∃ request, phase = .running request
  | _ => True

def Orderly : List (Operation ρ σ) → Prop
  | [] => True
  | operation :: older => (phase older).Admits operation ∧ Orderly older

/-- What takes a transfer off the peripheral. -/
def Operation.Ends : Operation ρ σ → Prop
  | .cancel done => done = true
  | .recover done => done = true
  | .completed _ => True
  | .start _ _ => False

/-- A wish to end a transfer that the peripheral did not grant. -/
def Operation.Refused : Operation ρ σ → Prop
  | .cancel done => done = false
  | .recover done => done = false
  | _ => False

/-- A wish to end this transfer was refused while it ran, and nothing ended it
since. -/
def Lingers (log : List (Operation ρ σ)) (request : ρ) : Prop :=
  ∃ newer operation older, log = newer ++ operation :: older ∧
    phase older = .running request ∧ operation.Refused ∧
    ∀ later ∈ newer, ¬ later.Ends

theorem Orderly.of_append {newer older : List (Operation ρ σ)}
    (horderly : Orderly (newer ++ older)) : Orderly older := by
  induction newer with
  | nil => exact horderly
  | cons operation newer ih => exact ih horderly.2

/-- Every start finds the peripheral idle, and every cancellation a transfer. -/
theorem Orderly.admits {newer older : List (Operation ρ σ)}
    {operation : Operation ρ σ} (horderly : Orderly (newer ++ operation :: older)) :
    (phase older).Admits operation :=
  horderly.of_append.1

theorem phase_ends {operation : Operation ρ σ} {older : List (Operation ρ σ)}
    (hends : operation.Ends) : phase (operation :: older) = .idle := by
  cases operation with
  | start request taken => exact hends.elim
  | cancel done => exact if_pos hends
  | recover done => exact if_pos hends
  | completed result => rfl

theorem phase_refused {operation : Operation ρ σ} {older : List (Operation ρ σ)}
    (hrefused : operation.Refused) :
    phase (operation :: older) = (phase older).giveUp := by
  cases operation with
  | start request taken => exact hrefused.elim
  | cancel done =>
      obtain rfl : done = false := hrefused
      rfl
  | recover done =>
      obtain rfl : done = false := hrefused
      rfl
  | completed result => exact hrefused.elim

/-- Nothing but an end takes an abandoned transfer off the peripheral. -/
theorem abandoned_cons_iff {operation : Operation ρ σ}
    {older : List (Operation ρ σ)} {request : ρ}
    (habandoned : phase older = .abandoned request)
    (hadmits : (phase older).Admits operation) :
    phase (operation :: older) = .abandoned request ↔ ¬ operation.Ends := by
  cases operation with
  | start other taken =>
      rw [habandoned] at hadmits
      exact absurd hadmits (by simp [Phase.Admits])
  | cancel done =>
      rw [habandoned] at hadmits
      exact absurd hadmits (by simp [Phase.Admits])
  | recover done =>
      cases done <;> simp [phase, habandoned, Phase.after, Phase.giveUp,
        Operation.Ends]
  | completed result => simp [phase, Phase.after, Operation.Ends]

theorem abandoned_append {newer older : List (Operation ρ σ)} {request : ρ}
    (horderly : Orderly (newer ++ older))
    (habandoned : phase older = .abandoned request)
    (hnewer : ∀ operation ∈ newer, ¬ operation.Ends) :
    phase (newer ++ older) = .abandoned request := by
  induction newer with
  | nil => exact habandoned
  | cons operation newer ih =>
      have hbefore := ih horderly.2 fun other hmem =>
        hnewer other (List.mem_cons_of_mem _ hmem)
      exact (abandoned_cons_iff hbefore horderly.1).mpr
        (hnewer operation List.mem_cons_self)

/-- Nor at any time between. -/
theorem abandoned_between {newer older log : List (Operation ρ σ)} {request : ρ}
    (horderly : Orderly (newer ++ older))
    (habandoned : phase older = .abandoned request)
    (hnewer : ∀ operation ∈ newer, ¬ operation.Ends) (hold : older <:+ log)
    (hnew : log <:+ newer ++ older) : phase log = .abandoned request := by
  obtain ⟨first, rfl⟩ := hold
  obtain ⟨last, hlog⟩ := hnew
  rw [← List.append_assoc] at hlog
  obtain rfl := List.append_cancel_right hlog
  rw [List.append_assoc] at horderly
  refine abandoned_append horderly.of_append habandoned fun operation hmem => ?_
  exact hnewer operation (List.mem_append_right last hmem)

/-- The step that abandons a running transfer is a refused wish. -/
theorem abandons_running {operation : Operation ρ σ}
    {older : List (Operation ρ σ)} {other request : ρ}
    (hran : phase older = .running other)
    (hadmits : (phase older).Admits operation)
    (habandoned : phase (operation :: older) = .abandoned request) :
    other = request ∧ operation.Refused := by
  rw [phase, hran] at habandoned
  cases operation with
  | start next taken =>
      rw [hran] at hadmits
      exact absurd hadmits (by simp [Phase.Admits])
  | cancel done =>
      cases done with
      | true => cases habandoned
      | false => exact ⟨Phase.abandoned.inj habandoned, rfl⟩
  | recover done =>
      cases done with
      | true => cases habandoned
      | false => exact ⟨Phase.abandoned.inj habandoned, rfl⟩
  | completed result => cases habandoned

theorem not_abandons_idle {operation : Operation ρ σ}
    {older : List (Operation ρ σ)} (hidle : phase older = .idle) (request : ρ) :
    phase (operation :: older) ≠ .abandoned request := by
  rw [phase, hidle]
  cases operation with
  | start next taken => cases taken <;> simp [Phase.after]
  | cancel done => cases done <;> simp [Phase.after, Phase.giveUp]
  | recover done => cases done <;> simp [Phase.after, Phase.giveUp]
  | completed result => simp [Phase.after]

/-- The abandoned transfers are those that linger. -/
theorem phase_eq_abandoned_iff {log : List (Operation ρ σ)}
    (horderly : Orderly log) (request : ρ) :
    phase log = .abandoned request ↔ Lingers log request := by
  constructor
  · intro habandoned
    induction log with
    | nil => cases habandoned
    | cons operation older ih =>
        cases hphase : phase older with
        | idle => exact absurd habandoned (not_abandons_idle hphase request)
        | running other =>
            obtain ⟨rfl, hrefused⟩ :=
              abandons_running hphase horderly.1 habandoned
            exact ⟨[], operation, older, rfl, hphase, hrefused, by simp⟩
        | abandoned other =>
            have hends : ¬ operation.Ends := fun hends => by
              rw [phase_ends hends] at habandoned
              cases habandoned
            have hkept := (abandoned_cons_iff hphase horderly.1).mpr hends
            obtain rfl : other = request :=
              Phase.abandoned.inj (hkept.symm.trans habandoned)
            obtain ⟨newer, refused, first, rfl, hran, hrefused, hnewer⟩ :=
              ih horderly.2 hphase
            refine ⟨operation :: newer, refused, first, rfl, hran, hrefused, ?_⟩
            intro later hmem
            rcases List.mem_cons.mp hmem with rfl | hmem
            · exact hends
            · exact hnewer later hmem
  · rintro ⟨newer, operation, older, rfl, hran, hrefused, hnewer⟩
    refine abandoned_append horderly ?_ hnewer
    rw [phase_refused hrefused, hran]
    rfl

/-- A peripheral that grants every wish abandons nothing. -/
theorem phase_ne_abandoned {log : List (Operation ρ σ)}
    (hgrants : ∀ operation ∈ log, ¬ operation.Refused) (request : ρ) :
    phase log ≠ .abandoned request := by
  induction log with
  | nil => simp [phase]
  | cons operation older ih =>
      have hbefore := ih fun other hmem => hgrants other (List.mem_cons_of_mem _ hmem)
      have hgranted := hgrants operation List.mem_cons_self
      cases operation with
      | start other taken =>
          cases taken with
          | true => simp [phase, Phase.after]
          | false => exact hbefore
      | cancel done =>
          cases done with
          | true => simp [phase, Phase.after]
          | false => exact absurd rfl hgranted
      | recover done =>
          cases done with
          | true => simp [phase, Phase.after]
          | false => exact absurd rfl hgranted
      | completed result => simp [phase, Phase.after]

theorem late_eq_zero {log : List (Operation ρ σ)}
    (hgrants : ∀ operation ∈ log, ¬ operation.Refused) : late log = 0 := by
  induction log with
  | nil => rfl
  | cons operation older ih =>
      have hgrants' : ∀ other ∈ older, ¬ other.Refused := fun other hmem =>
        hgrants other (List.mem_cons_of_mem _ hmem)
      have hlate := ih hgrants'
      cases operation with
      | start => exact hlate
      | cancel => exact hlate
      | recover => exact hlate
      | completed result =>
          rw [late]
          split
          · next request habandoned =>
              exact absurd habandoned (phase_ne_abandoned hgrants' request)
          · exact hlate

end AsyncTransfer
