import Swfpm.Bus.SpiBusManager

/-!
# Stale SPI completions

The tuple of a start that ended by timeout or recovery completes no later
transaction as long as no start hands the tuple out again.  Recovery counts the
bus generation up, so it takes a wrapped generation to repeat its tuple; the
timeout leaves the generation as it is.
-/

namespace Swfpm.SpiBus

variable (env : SpiEnvironment)

/-- The tuples of the starts that ended by timeout or recovery. -/
def staleKeys : List SpiEvent → List SpiCompletionKey
  | [] => []
  | .ended key .timeout :: earlier => key :: staleKeys earlier
  | .recovered key :: earlier => key :: staleKeys earlier
  | _ :: earlier => staleKeys earlier

/-- No completion that the bus would accept carries a stale tuple. -/
def AcceptsOnlyFresh (world : SpiWorld) : Prop :=
  ∀ key result, (complete env world key result).1 = true →
    key ∉ staleKeys world.trace

/-- No start hands out a stale tuple again. -/
def StartsFresh : List SpiEvent → Prop
  | [] => True
  | .handed request true :: earlier =>
      request.key ∉ staleKeys earlier ∧ StartsFresh earlier
  | _ :: earlier => StartsFresh earlier

/-- The tuple of the active transaction is not stale. -/
def Fresh (world : SpiWorld) : Prop :=
  world.bus.busy = true →
    keyOf world.bus world.bus.active ∉ staleKeys world.trace

/-! ## What the bus accepts -/

theorem complete_accepts_iff (world : SpiWorld) (key : SpiCompletionKey)
    (result : SpiTransactionResult) :
    (complete env world key result).1 = true ↔
      world.bus.busy = true ∧ key = keyOf world.bus world.bus.active := by
  rw [complete]
  split_ifs with hrefused
  · simp only [false_iff, not_and]
    rintro hbusy rfl
    simp [hbusy, keyOf] at hrefused
  · simp only [not_or, ne_eq, not_not, Bool.not_eq_true', Bool.not_eq_false]
      at hrefused
    obtain ⟨hbusy, hbus, htransaction, hcorrelation, hclient⟩ := hrefused
    refine iff_of_true rfl ⟨hbusy, ?_⟩
    cases key
    simp_all [keyOf]

theorem acceptsOnlyFresh_iff (world : SpiWorld) :
    AcceptsOnlyFresh env world ↔ Fresh world := by
  constructor
  · intro haccepts hbusy
    exact haccepts _ .ok
      ((complete_accepts_iff env world _ _).mpr ⟨hbusy, rfl⟩)
  · intro hfresh key result haccepted
    rw [complete_accepts_iff] at haccepted
    obtain ⟨hbusy, rfl⟩ := haccepted
    exact hfresh hbusy

/-! ## Steps that end no transaction -/

variable {world middle later : SpiWorld}

/-- What such a step does to the tuples: the active one stays active, and the
starts stay fresh exactly when the one that is active in the end is fresh. -/
structure Steps (world later : SpiWorld) : Prop where
  fresh : Fresh later → Fresh world
  starts : (StartsFresh world.trace → Fresh world) →
    (StartsFresh later.trace ↔ StartsFresh world.trace ∧ Fresh later)

theorem Steps.sound (hsteps : Steps world later)
    (hworld : StartsFresh world.trace → Fresh world) :
    StartsFresh later.trace → Fresh later :=
  fun hlater => ((hsteps.starts hworld).mp hlater).2

theorem Steps.trans (hfirst : Steps world middle)
    (hsecond : Steps middle later) : Steps world later where
  fresh hlater := hfirst.fresh (hsecond.fresh hlater)
  starts hworld := by
    rw [hsecond.starts (hfirst.sound hworld), hfirst.starts hworld, and_assoc]
    have hmiddle : Fresh later → Fresh middle := hsecond.fresh
    tauto

/-- A step that leaves the active tuple and the record of the starts alone. -/
theorem Steps.of_eq (hbusy : later.bus.busy = world.bus.busy)
    (hactive : world.bus.busy = true → keyOf later.bus later.bus.active =
      keyOf world.bus world.bus.active)
    (hstale : staleKeys later.trace = staleKeys world.trace)
    (hstarts : StartsFresh later.trace ↔ StartsFresh world.trace) :
    Steps world later := by
  have hfresh : Fresh later ↔ Fresh world := by
    rw [Fresh, Fresh, hbusy, hstale]
    constructor
    · intro hlater hworld
      rw [← hactive hworld]
      exact hlater hworld
    · intro hworld hlater
      rw [hactive hlater]
      exact hworld hlater
  refine ⟨hfresh.mp, fun hworld => ?_⟩
  rw [hstarts, hfresh]
  exact ⟨fun hearlier => ⟨hearlier, hworld hearlier⟩, And.left⟩

theorem Steps.refl (world : SpiWorld) : Steps world world :=
  .of_eq rfl (fun _ => rfl) rfl Iff.rfl

theorem steps_reject (world : SpiWorld) : Steps world (reject world) :=
  .of_eq rfl (fun _ => rfl) rfl Iff.rfl

theorem fresh_of_free (hfree : world.bus.busy = false) : Fresh world := by
  intro hbusy
  rw [hfree] at hbusy
  exact absurd hbusy (by decide)

/-- A start on a free bus. -/
theorem steps_start (hfree : world.bus.busy = false)
    (transaction : SpiPendingTransaction) :
    Steps world (start env world transaction).2 := by
  have hstarted := started_start env world transaction
  generalize start env world transaction = result at hstarted ⊢
  cases hstarted with
  | refused => exact .refl world
  | taken =>
      refine ⟨fun _ => fresh_of_free hfree, fun _ => ?_⟩
      change (keyOf world.bus transaction ∉ staleKeys world.trace ∧
        StartsFresh world.trace) ↔ StartsFresh world.trace ∧
          (true = true → keyOf world.bus transaction ∉ staleKeys world.trace)
      tauto
  | untaken =>
      refine .of_eq hfree.symm (fun hbusy => ?_) rfl Iff.rfl
      rw [hfree] at hbusy
      exact absurd hbusy (by decide)

theorem steps_admitTransaction (transaction : SpiPendingTransaction) :
    Steps world (admitTransaction env world transaction).2 := by
  rw [admitTransaction]
  split_ifs with hfree hfull
  · have hstart := steps_start env (by simpa using hfree) transaction
    cases hresult : start env world transaction with
    | mk started later =>
        rw [hresult] at hstart
        cases started with
        | true => exact hstart
        | false => exact hstart.trans (steps_reject later)
  · exact steps_reject world
  · exact .of_eq rfl (fun _ => rfl) rfl Iff.rfl

theorem steps_submit (submission : SpiSubmission) :
    Steps world (submit env world submission).2 := by
  rw [submit]
  split_ifs
  · exact .refl world
  · split
    · exact .refl world
    · refine Steps.trans ?_ (steps_admitTransaction env _)
      exact .of_eq rfl (fun _ => rfl) rfl Iff.rfl

theorem steps_runProgram (program : SpiClientProgram) :
    Steps world (runProgram env world program) := by
  induction program generalizing world with
  | done => exact .refl world
  | submit submission andThen ih =>
      exact (steps_submit env submission).trans (ih _)

theorem steps_notify (transaction : SpiPendingTransaction)
    (result : SpiTransactionResult) :
    Steps world (notify env world transaction result) := by
  rw [notify]
  split
  · exact .refl world
  · split_ifs
    · exact .refl world
    · refine Steps.trans ?_ (steps_runProgram env _)
      exact .of_eq rfl (fun _ => rfl) rfl Iff.rfl

theorem steps_startNextLoop (fuel : ℕ) :
    Steps world (startNextLoop env fuel world) := by
  induction fuel generalizing world with
  | zero => exact .refl world
  | succ fuel ih =>
      rw [startNextLoop]
      split_ifs with hdone
      · exact .refl world
      · rw [not_or, Bool.not_eq_true] at hdone
        have hremove : Steps world
            (removePending world (best world.bus.pending)) :=
          .of_eq rfl (fun _ => rfl) rfl Iff.rfl
        have hfree : (removePending world
            (best world.bus.pending)).bus.busy = false := hdone.1
        have hstart := hremove.trans (steps_start env hfree
          (world.bus.pending.getD (best world.bus.pending) .cleared))
        dsimp only
        cases hresult : start env
            (removePending world (best world.bus.pending))
            (world.bus.pending.getD (best world.bus.pending) .cleared) with
        | mk started later =>
            rw [hresult] at hstart
            cases started with
            | true => exact hstart
            | false =>
                exact ((hstart.trans (steps_reject later)).trans
                  (steps_notify env _ _)).trans ih

/-! ## Whole calls -/

/-- A call keeps the starts fresh exactly when it leaves a fresh active tuple. -/
def Settles (world later : SpiWorld) : Prop :=
  (StartsFresh world.trace → Fresh world) →
    (StartsFresh later.trace ↔ StartsFresh world.trace ∧ Fresh later)

theorem Steps.settles (hsteps : Steps world later) : Settles world later :=
  hsteps.starts

/-- The active transaction leaves the bus, and what follows ends no other. -/
theorem Settles.ended (hfree : middle.bus.busy = false)
    (hstarts : StartsFresh middle.trace ↔ StartsFresh world.trace)
    (hsteps : Steps middle later) : Settles world later := by
  intro _
  rw [hsteps.starts fun _ => fresh_of_free hfree, hstarts]

theorem settles_complete (key : SpiCompletionKey)
    (result : SpiTransactionResult) :
    Settles world (complete env world key result).2 := by
  rw [complete]
  split_ifs with hrefused
  · exact Steps.settles (.of_eq rfl (fun _ => rfl) rfl Iff.rfl)
  · refine .ended ?_ ?_ ((steps_notify env _ _).trans
      (steps_startNextLoop env _))
    · cases result <;> rfl
    · cases result <;> exact Iff.rfl

theorem settles_recover : Settles world (recover env world) := by
  rw [recover]
  split_ifs with hbusy
  · refine .ended ?_ ?_ ((steps_notify env _ _).trans
      (steps_startNextLoop env _))
    · rfl
    · exact Iff.rfl
  · refine .ended ?_ ?_ (steps_startNextLoop env _)
    · simpa [bumpGeneration] using hbusy
    · exact Iff.rfl

theorem settles_call (request : Call) :
    Settles world (call env world request) := by
  cases request with
  | registerClient client =>
      rw [call, registerClient]
      split_ifs
      · exact (Steps.refl world).settles
      · exact Steps.settles (.of_eq rfl (fun _ => rfl) rfl Iff.rfl)
  | submit submission => exact (steps_submit env submission).settles
  | complete key result => exact settles_complete env key result
  | tick nowUs =>
      rw [call, tick]
      split_ifs
      · exact (Steps.refl world).settles
      · exact settles_complete env _ _
  | recover => exact settles_recover env

theorem startsFresh_run_iff (calls : List Call) :
    StartsFresh (run env calls).trace ↔
      ∀ before, before <+: calls → Fresh (run env before) := by
  induction calls using List.reverseRecOn with
  | nil =>
      refine iff_of_true trivial fun before hearly => ?_
      rw [List.prefix_nil.mp hearly]
      exact fresh_of_free rfl
  | append_singleton calls last ih =>
      have hworld : StartsFresh (run env calls).trace →
          Fresh (run env calls) :=
        fun hstarts => ih.mp hstarts calls List.prefix_rfl
      rw [run_append, settles_call env last hworld, ih, ← run_append]
      constructor
      · rintro ⟨hearlier, hnow⟩ before hearly
        rcases List.prefix_concat_iff.mp hearly with rfl | hprior
        · exact hnow
        · exact hearlier before hprior
      · intro hall
        refine ⟨fun before hearly => ?_, hall _ List.prefix_rfl⟩
        exact hall before (hearly.trans (List.prefix_append _ _))

/-- In every state of a run the bus accepts no completion that carries the tuple
of a start ended by timeout or recovery, exactly when no start of the run hands
out such a tuple again. -/
theorem acceptsOnlyFresh_iff_startsFresh (calls : List Call) :
    (∀ before, before <+: calls → AcceptsOnlyFresh env (run env before)) ↔
      StartsFresh (run env calls).trace := by
  rw [startsFresh_run_iff]
  simp only [acceptsOnlyFresh_iff]

/-- Every start is taken, and no callback submits anything. -/
def quietEnvironment : SpiEnvironment where
  start _ _ := true
  complete _ _ := .done

def reusedIds : SpiSubmission :=
  { clientId := 1, transactionId := 10, correlationId := 20, tx := some 0
    rx := some 0, length := 2, deadlineUs := 1000, priority := 1 }

/-- A transaction times out, and its ids are used again. -/
def reuseAfterTimeout : List Call :=
  [.registerClient ⟨1, 2, 3, true, true⟩, .submit reusedIds, .tick 1000,
    .submit reusedIds]

theorem stale_completion_accepted :
    ¬ ∀ (env : SpiEnvironment) (calls : List Call),
      AcceptsOnlyFresh env (run env calls) := by
  intro hall
  have hstale := hall quietEnvironment reuseAfterTimeout ⟨10, 20, 3, 1⟩ .ok
    (by decide)
  revert hstale
  decide

end Swfpm.SpiBus
