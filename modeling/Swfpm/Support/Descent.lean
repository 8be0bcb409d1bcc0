import Mathlib

/-!
# Runs that come to an end

A partial step function is iterated.  If each step from a state of an invariant
has a result, which is an end or has a smaller rank, then every run from such a
state reaches an end.
-/

namespace Descent

variable {σ ι : Type*}

/-- Several steps in a row. -/
def run (next : σ → Option σ) : ℕ → σ → Option σ
  | 0, state => some state
  | n + 1, state => (next state).bind (run next n)

/-- One step more at the end of a run. -/
theorem run_concat {next : σ → Option σ} {n : ℕ} {first last : σ}
    (hrun : run next n first = some last) :
    run next (n + 1) first = next last := by
  induction n generalizing first with
  | zero =>
      obtain rfl := Option.some.inj hrun
      exact Option.bind_fun_some _
  | succ n ih =>
      obtain ⟨middle, hmiddle, hrest⟩ := Option.bind_eq_some_iff.mp hrun
      rw [run, hmiddle, Option.bind_some, ih hrest]

theorem reaches_end [LT ι] [WellFoundedLT ι] {next : σ → Option σ}
    (inv ends : σ → Prop) (rank : σ → ι)
    (hstep : ∀ state, inv state → ¬ ends state →
      ∃ after, next state = some after ∧ inv after ∧
        (ends after ∨ rank after < rank state)) :
    ∀ state, inv state → ∃ n last, run next n state = some last ∧ ends last := by
  intro state
  induction hrank : rank state using WellFoundedLT.induction generalizing state with
  | ind r ih =>
      intro hinv
      by_cases hends : ends state
      · exact ⟨0, state, rfl, hends⟩
      obtain ⟨after, hnext, hafter, hdone | hlt⟩ := hstep state hinv hends
      · exact ⟨1, after, by simp [run, hnext], hdone⟩
      · obtain ⟨n, last, hrun, hlast⟩ :=
          ih (rank after) (hrank ▸ hlt) after rfl hafter
        exact ⟨n + 1, last, by rw [run, hnext, Option.bind_some, hrun], hlast⟩

end Descent
