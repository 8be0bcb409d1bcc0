import Swfpm.Support.SignedOps
import Swfpm.Numeric.CheckedMath

/-!
# Checked arithmetic, operation by operation

A second embedding of the signed part of
`infrastructure/numeric/checked_math.c` that keeps the order of evaluation and
the output cell.  A run has no result once one of its operations has none, so a
result says that no operation of the run overflows and none divides by zero.
-/

namespace Swfpm.CheckedSteps

open Int64Range SignedOps

/-- What a run returns, and what the output points at afterwards. -/
abbrev Outcome := Bool × Option Int64

/-- `b > 0 && a > INT64_MAX - b || b < 0 && a < INT64_MIN - b`. -/
def addRefuses (a b : Int64) : Option Bool :=
  either
    (both (some (b > 0)) (against (sub Int64.maxValue b) (a > ·)))
    (both (some (b < 0)) (against (sub Int64.minValue b) (a < ·)))

/-- `b > 0 && a < INT64_MIN + b || b < 0 && a > INT64_MAX + b`. -/
def subRefuses (a b : Int64) : Option Bool :=
  either
    (both (some (b > 0)) (against (add Int64.minValue b) (a < ·)))
    (both (some (b < 0)) (against (add Int64.maxValue b) (a > ·)))

/-- The last check of the multiplication, with one quotient for each pair of
signs. -/
def mulRefuses (a b : Int64) : Option Bool :=
  either
    (both (some (a > 0))
      (both (some (b > 0)) (against (div Int64.maxValue b) (a > ·))))
    (either
      (both (some (a > 0))
        (both (some (b < 0)) (against (div Int64.minValue a) (b < ·))))
      (either
        (both (some (a < 0))
          (both (some (b > 0)) (against (div Int64.minValue b) (a < ·))))
        (both (some (a < 0))
          (both (some (b < 0)) (against (div Int64.maxValue b) (a < ·))))))

/-- Refuses, or stores the result of the operation. -/
def storeUnless (refuses : Option Bool) (result : Option Int64) (old : Int64) :
    Option Outcome :=
  refuses.bind fun refused ↦
    if refused then some (false, some old)
    else result.map fun value ↦ (true, some value)

/-- `out` is what the output points at, `none` for a null pointer. -/
def checkedAddI64 (a b : Int64) (out : Option Int64) : Option Outcome :=
  match out with
  | none => some (false, none)
  | some old => storeUnless (addRefuses a b) (add a b) old

def checkedSubI64 (a b : Int64) (out : Option Int64) : Option Outcome :=
  match out with
  | none => some (false, none)
  | some old => storeUnless (subRefuses a b) (sub a b) old

def checkedMulI64 (a b : Int64) (out : Option Int64) : Option Outcome :=
  match out with
  | none => some (false, none)
  | some old =>
      if a = 0 ∨ b = 0 then some (true, some 0)
      else if a = Int64.minValue ∧ b = -1 then some (false, some old)
      else if b = Int64.minValue ∧ a = -1 then some (false, some old)
      else storeUnless (mulRefuses a b) (mul a b) old

/-! ## No operation of a run is undefined -/

/-- The outcome of an operation that may refuse. -/
def outcome (result : Option Int64) (old : Int64) : Outcome :=
  (result.isSome, some (result.getD old))

theorem storeUnless_eq {guard : Prop} [Decidable guard]
    {refuses : Option Bool} {result : Option Int64} {word : Int64} (old : Int64)
    (hrefuses : refuses = some (decide guard))
    (hresult : ¬ guard → result = some word) :
    storeUnless refuses result old =
      some (outcome (if guard then none else some word) old) := by
  rw [storeUnless, hrefuses, Option.bind_some]
  by_cases hguard : guard
  · simp [hguard, outcome]
  · simp [hguard, hresult hguard, outcome]

theorem addRefuses_eq (a b : Int64) :
    addRefuses a b = some (decide ((b > 0 ∧ a > Int64.maxValue - b) ∨
      (b < 0 ∧ a < Int64.minValue - b))) := by
  have hword := fits_toInt b
  unfold Fits at hword
  apply either_eq
  · apply both_eq rfl
    intro hb
    rw [pos_iff] at hb
    apply against_eq (sub_eq _)
    rw [Int64.toInt_maxValue]
    constructor <;> omega
  · intro _
    apply both_eq rfl
    intro hb
    rw [neg_iff] at hb
    apply against_eq (sub_eq _)
    rw [Int64.toInt_minValue]
    constructor <;> omega

theorem subRefuses_eq (a b : Int64) :
    subRefuses a b = some (decide ((b > 0 ∧ a < Int64.minValue + b) ∨
      (b < 0 ∧ a > Int64.maxValue + b))) := by
  have hword := fits_toInt b
  unfold Fits at hword
  apply either_eq
  · apply both_eq rfl
    intro hb
    rw [pos_iff] at hb
    apply against_eq (add_eq _)
    rw [Int64.toInt_minValue]
    constructor <;> omega
  · intro _
    apply both_eq rfl
    intro hb
    rw [neg_iff] at hb
    apply against_eq (add_eq _)
    rw [Int64.toInt_maxValue]
    constructor <;> omega

theorem ne_zero_of_pos {a : Int64} (hpos : a > 0) : a ≠ 0 := by
  rintro rfl
  exact absurd hpos (by decide)

theorem ne_zero_of_neg {a : Int64} (hneg : a < 0) : a ≠ 0 := by
  rintro rfl
  exact absurd hneg (by decide)

/-- No sign test lets through a divisor for which its quotient is undefined. -/
theorem mulRefuses_eq (a b : Int64) :
    mulRefuses a b = some (decide
      ((a > 0 ∧ b > 0 ∧ a > Int64.maxValue / b) ∨
        (a > 0 ∧ b < 0 ∧ b < Int64.minValue / a) ∨
        (a < 0 ∧ b > 0 ∧ a < Int64.minValue / b) ∨
        (a < 0 ∧ b < 0 ∧ a < Int64.maxValue / b))) := by
  have hone : ∀ {divisor : Int64}, divisor > 0 → divisor ≠ -1 := by
    rintro divisor hpos rfl
    exact absurd hpos (by decide)
  have hmost : Int64.maxValue ≠ Int64.minValue := by decide
  apply either_eq
  · apply both_eq rfl
    intro _
    apply both_eq rfl
    intro hb
    exact against_eq (div_eq (ne_zero_of_pos hb) (.inl hmost))
  intro _
  apply either_eq
  · apply both_eq rfl
    intro ha
    apply both_eq rfl
    intro _
    exact against_eq (div_eq (ne_zero_of_pos ha) (.inr (hone ha)))
  intro _
  apply either_eq
  · apply both_eq rfl
    intro _
    apply both_eq rfl
    intro hb
    exact against_eq (div_eq (ne_zero_of_pos hb) (.inr (hone hb)))
  · intro _
    apply both_eq rfl
    intro _
    apply both_eq rfl
    intro hb
    exact against_eq (div_eq (ne_zero_of_neg hb) (.inl hmost))

/-! ## The runs are the checked operations -/

theorem checkedAddI64_run (a b old : Int64) :
    checkedAddI64 a b (some old) =
      some (outcome (Swfpm.checkedAddI64 a b) old) := by
  apply storeUnless_eq old (addRefuses_eq a b)
  intro hpasses
  have hsome : Swfpm.checkedAddI64 a b = some (a + b) := if_neg hpasses
  rw [add, ← checkedAddI64_eq, hsome]

theorem checkedSubI64_run (a b old : Int64) :
    checkedSubI64 a b (some old) =
      some (outcome (Swfpm.checkedSubI64 a b) old) := by
  apply storeUnless_eq old (subRefuses_eq a b)
  intro hpasses
  have hsome : Swfpm.checkedSubI64 a b = some (a - b) := if_neg hpasses
  rw [sub, ← checkedSubI64_eq, hsome]

theorem checkedMulI64_run (a b old : Int64) :
    checkedMulI64 a b (some old) =
      some (outcome (Swfpm.checkedMulI64 a b) old) := by
  have hexact := checkedMulI64_eq a b
  rw [checkedMulI64]
  unfold Swfpm.checkedMulI64 at hexact ⊢
  by_cases hzero : a = 0 ∨ b = 0
  · rw [if_pos hzero, if_pos hzero]
    rfl
  rw [if_neg hzero] at hexact ⊢
  rw [if_neg hzero]
  by_cases hleft : a = Int64.minValue ∧ b = -1
  · rw [if_pos hleft, if_pos hleft]
    rfl
  rw [if_neg hleft] at hexact ⊢
  rw [if_neg hleft]
  by_cases hright : b = Int64.minValue ∧ a = -1
  · rw [if_pos hright, if_pos hright]
    rfl
  rw [if_neg hright] at hexact ⊢
  rw [if_neg hright]
  apply storeUnless_eq old (mulRefuses_eq a b)
  intro hpasses
  rw [mul, ← hexact, if_neg hpasses]

/-! ## Exactness -/

/-- A run stores the exact result and returns true where the result is a word;
elsewhere it returns false and leaves the output alone. -/
def Exact (run : Int64 → Int64 → Option Int64 → Option Outcome)
    (operation : ℤ → ℤ → ℤ) : Prop :=
  ∀ a b old : Int64, ∃ returned out,
    run a b (some old) = some (returned, some out) ∧
      (returned = true ↔ Fits (operation a.toInt b.toInt)) ∧
      (returned = true → out.toInt = operation a.toInt b.toInt) ∧
      (returned = false → out = old)

theorem exact_of_run {run : Int64 → Int64 → Option Int64 → Option Outcome}
    {operation : ℤ → ℤ → ℤ}
    (hrun : ∀ a b old, run a b (some old) =
      some (outcome (exact (operation a.toInt b.toInt)) old)) :
    Exact run operation := by
  intro a b old
  refine ⟨_, _, hrun a b old, ?_⟩
  by_cases hfits : Fits (operation a.toInt b.toInt)
  · simp [exact_of_fits hfits, hfits, hfits.toInt_ofInt]
  · simp [exact_eq_none_iff.mpr hfits, hfits]

theorem checked_exact :
    Exact checkedAddI64 (· + ·) ∧ Exact checkedSubI64 (· - ·) ∧
      Exact checkedMulI64 (· * ·) := by
  refine ⟨exact_of_run ?_, exact_of_run ?_, exact_of_run ?_⟩
  · intro a b old
    rw [checkedAddI64_run, checkedAddI64_eq]
  · intro a b old
    rw [checkedSubI64_run, checkedSubI64_eq]
  · intro a b old
    rw [checkedMulI64_run, checkedMulI64_eq]

end Swfpm.CheckedSteps
