import Mathlib

/-!
# Programs over a state

A program takes a state to an answer and a new state, or stops on the way: a wait
that has not ended yet stops with the state it has reached.  `Ensures` is the
triple of a program with a condition for each of the two ends.
-/

universe u v

/-- A computation over states of type `σ` that may stop without an answer. -/
def Program (σ : Type u) (α : Type v) : Type (max u v) := σ → Option α × σ

namespace Program

variable {σ : Type u} {α β : Type v}

def run (program : Program σ α) (state : σ) : Option α × σ := program state

/-- The program that stops. -/
def stop : Program σ α := fun state => (none, state)

instance : Monad (Program σ) where
  pure answer := fun state => (some answer, state)
  bind program next := fun state =>
    match program state with
    | (some answer, after) => next answer after
    | (none, after) => (none, after)

/-- The state as the answer. -/
def get {τ : Type v} (view : σ → τ) : Program σ τ :=
  fun state => (some (view state), state)

def modify (change : σ → σ) : Program σ PUnit.{v + 1} :=
  fun state => (some ⟨⟩, change state)

/-- The program where the condition holds. -/
def when (condition : Prop) [Decidable condition]
    (program : Program σ PUnit.{v + 1}) : Program σ PUnit.{v + 1} :=
  if condition then program else pure ⟨⟩

@[simp] theorem run_pure (answer : α) (state : σ) :
    (pure answer : Program σ α).run state = (some answer, state) := rfl

@[simp] theorem run_stop (state : σ) :
    (stop : Program σ α).run state = (none, state) := rfl

@[simp] theorem run_get {τ : Type v} (view : σ → τ) (state : σ) :
    (get view).run state = (some (view state), state) := rfl

@[simp] theorem run_modify (change : σ → σ) (state : σ) :
    (modify change : Program σ PUnit.{v + 1}).run state =
      (some ⟨⟩, change state) := rfl

theorem run_bind (program : Program σ α) (next : α → Program σ β) (state : σ) :
    (program >>= next).run state =
      match program.run state with
      | (some answer, after) => (next answer).run after
      | (none, after) => (none, after) := rfl

/-! ## Triples -/

/-- From a state in `pre` the program ends in `post`, or stops in `stopped`. -/
def Ensures (pre : σ → Prop) (program : Program σ α) (post : α → σ → Prop)
    (stopped : σ → Prop) : Prop :=
  ∀ state, pre state →
    match program.run state with
    | (some answer, after) => post answer after
    | (none, after) => stopped after

variable {pre mid : σ → Prop} {program : Program σ α} {post : α → σ → Prop}
variable {stopped : σ → Prop}

theorem Ensures.pure {answer : α} (hpost : ∀ state, pre state → post answer state) :
    Ensures pre (pure answer) post stopped :=
  hpost

theorem Ensures.stop (hstopped : ∀ state, pre state → stopped state) :
    Ensures pre (stop : Program σ α) post stopped :=
  hstopped

theorem Ensures.get {τ : Type v} {view : σ → τ} {post : τ → σ → Prop}
    (hpost : ∀ state, pre state → post (view state) state) :
    Ensures pre (get view) post stopped :=
  hpost

theorem Ensures.modify {change : σ → σ} {post : PUnit.{v + 1} → σ → Prop}
    (hpost : ∀ state, pre state → post ⟨⟩ (change state)) :
    Ensures pre (Program.modify change) post stopped :=
  hpost

theorem Ensures.bind {middle : α → σ → Prop} {next : α → Program σ β}
    {post : β → σ → Prop} (hprogram : Ensures pre program middle stopped)
    (hnext : ∀ answer, Ensures (middle answer) (next answer) post stopped) :
    Ensures pre (program >>= next) post stopped := by
  intro state hpre
  have hfirst := hprogram state hpre
  rw [run_bind]
  rcases hrun : program.run state with ⟨answer | answer, after⟩
  · rw [hrun] at hfirst
    exact hfirst
  · rw [hrun] at hfirst
    exact hnext answer after hfirst

/-- `Ensures.bind` with the condition between the two programs. -/
theorem Ensures.seq (middle : α → σ → Prop) {next : α → Program σ β}
    {post : β → σ → Prop} (hprogram : Ensures pre program middle stopped)
    (hnext : ∀ answer, Ensures (middle answer) (next answer) post stopped) :
    Ensures pre (program >>= next) post stopped :=
  Ensures.bind hprogram hnext

theorem Ensures.ite {condition : Prop} [Decidable condition]
    {other : Program σ α} (hthen : condition → Ensures pre program post stopped)
    (helse : ¬condition → Ensures pre other post stopped) :
    Ensures pre (if condition then program else other) post stopped := by
  split_ifs with hcondition
  · exact hthen hcondition
  · exact helse hcondition

theorem Ensures.when {condition : Prop} [Decidable condition]
    {program : Program σ PUnit.{v + 1}} {post : PUnit.{v + 1} → σ → Prop}
    (hthen : condition → Ensures pre program post stopped)
    (helse : ¬condition → ∀ state, pre state → post ⟨⟩ state) :
    Ensures pre (when condition program) post stopped :=
  Ensures.ite hthen fun hcondition => Ensures.pure (helse hcondition)

/-- The rule of consequence. -/
theorem Ensures.weaken {post' : α → σ → Prop} {stopped' : σ → Prop}
    (hprogram : Ensures mid program post stopped)
    (hpre : ∀ state, pre state → mid state)
    (hpost : ∀ answer state, post answer state → post' answer state)
    (hstopped : ∀ state, stopped state → stopped' state) :
    Ensures pre program post' stopped' := by
  intro state hstate
  have hend := hprogram state (hpre state hstate)
  rcases hrun : program.run state with ⟨answer | answer, after⟩
  · rw [hrun] at hend
    exact hstopped after hend
  · rw [hrun] at hend
    exact hpost answer after hend

theorem Ensures.and {pre' : σ → Prop} {post' : α → σ → Prop}
    {stopped' : σ → Prop} (hfirst : Ensures pre program post stopped)
    (hsecond : Ensures pre' program post' stopped') :
    Ensures (fun state => pre state ∧ pre' state) program
      (fun answer state => post answer state ∧ post' answer state)
      (fun state => stopped state ∧ stopped' state) := by
  intro state hstate
  have hend := hfirst state hstate.1
  have hend' := hsecond state hstate.2
  rcases hrun : program.run state with ⟨answer | answer, after⟩
  · rw [hrun] at hend hend'
    exact ⟨hend, hend'⟩
  · rw [hrun] at hend hend'
    exact ⟨hend, hend'⟩

theorem Ensures.trivial :
    Ensures pre program (fun _ _ => True) (fun _ => True) := by
  intro state _
  rcases program.run state with ⟨answer | answer, after⟩ <;> exact True.intro

/-- A fact about nothing but the outside of the state. -/
theorem Ensures.assume {fact : Prop}
    (hprogram : fact → Ensures pre program post stopped) :
    Ensures (fun state => fact ∧ pre state) program post stopped := by
  intro state hstate
  exact hprogram hstate.1 state hstate.2

/-! ## Invariants -/

/-- The program keeps the invariant, whether it ends or stops. -/
def Keeps (invariant : σ → Prop) (program : Program σ α) : Prop :=
  Ensures invariant program (fun _ => invariant) invariant

variable {invariant : σ → Prop}

/-- An invariant kept, with a weaker condition for a stop. -/
theorem Keeps.ensures (hkeeps : Keeps invariant program)
    (hstopped : ∀ state, invariant state → stopped state) :
    Ensures invariant program (fun _ => invariant) stopped :=
  Ensures.weaken hkeeps (fun _ hstate => hstate) (fun _ _ hstate => hstate)
    hstopped

theorem Keeps.pure {answer : α} :
    Keeps invariant (pure answer : Program σ α) :=
  Ensures.pure fun _ hstate => hstate

theorem Keeps.stop : Keeps invariant (stop : Program σ α) :=
  Ensures.stop fun _ hstate => hstate

theorem Keeps.get {τ : Type v} {view : σ → τ} : Keeps invariant (get view) :=
  Ensures.get fun _ hstate => hstate

theorem Keeps.modify {change : σ → σ}
    (hchange : ∀ state, invariant state → invariant (change state)) :
    Keeps invariant (Program.modify change : Program σ PUnit.{v + 1}) :=
  Ensures.modify hchange

theorem Keeps.bind {next : α → Program σ β} (hprogram : Keeps invariant program)
    (hnext : ∀ answer, Keeps invariant (next answer)) :
    Keeps invariant (program >>= next) :=
  Ensures.bind hprogram hnext

theorem Keeps.ite {condition : Prop} [Decidable condition]
    {other : Program σ α} (hthen : condition → Keeps invariant program)
    (helse : ¬condition → Keeps invariant other) :
    Keeps invariant (if condition then program else other) :=
  Ensures.ite hthen helse

theorem Keeps.when {condition : Prop} [Decidable condition]
    {program : Program σ PUnit.{v + 1}}
    (hthen : condition → Keeps invariant program) :
    Keeps invariant (when condition program) :=
  Keeps.ite hthen fun _ => Keeps.pure

theorem Keeps.final (hprogram : Keeps invariant program) {state : σ}
    (hstate : invariant state) : invariant (program.run state).2 := by
  have hend := hprogram state hstate
  rcases hrun : program.run state with ⟨answer | answer, after⟩
  · rw [hrun] at hend
    exact hend
  · rw [hrun] at hend
    exact hend

end Program
