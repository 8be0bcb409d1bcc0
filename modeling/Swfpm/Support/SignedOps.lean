import Swfpm.Support.Int64Range

/-!
# Signed operations with undefined results

An operation of C on signed words has no result where the language leaves its
behaviour undefined: on an overflow, and on a division by zero.  A condition
evaluates its right side only where the left one does not decide it.
-/

namespace SignedOps

open Int64Range

variable {a b : Int64}

def add (a b : Int64) : Option Int64 := exact (a.toInt + b.toInt)

def sub (a b : Int64) : Option Int64 := exact (a.toInt - b.toInt)

def mul (a b : Int64) : Option Int64 := exact (a.toInt * b.toInt)

/-- Division truncates, and the quotient of the least word by `-1` overflows. -/
def div (a b : Int64) : Option Int64 :=
  if b = 0 then none else exact (a.toInt.tdiv b.toInt)

/-- `left && right`. -/
def both (left right : Option Bool) : Option Bool :=
  left.bind fun holds ↦ if holds then right else some false

/-- `left || right`. -/
def either (left right : Option Bool) : Option Bool :=
  left.bind fun holds ↦ if holds then some true else right

/-- A comparison with a bound that is computed first. -/
def against (bound : Option Int64) (test : Int64 → Bool) : Option Bool :=
  bound.map test

/-! ## Where the operations are defined -/

theorem add_eq (hfits : Fits (a.toInt + b.toInt)) : add a b = some (a + b) :=
  exact_eq_some_iff.mpr (toInt_add hfits)

theorem sub_eq (hfits : Fits (a.toInt - b.toInt)) : sub a b = some (a - b) :=
  exact_eq_some_iff.mpr (toInt_sub hfits)

theorem mul_eq (hfits : Fits (a.toInt * b.toInt)) : mul a b = some (a * b) :=
  exact_eq_some_iff.mpr (toInt_mul hfits)

theorem div_eq (hzero : b ≠ 0) (hleast : a ≠ Int64.minValue ∨ b ≠ -1) :
    div a b = some (a / b) := by
  rw [div, if_neg hzero, exact_eq_some_iff]
  obtain ha | hb := hleast
  · exact Int64.toInt_div_of_ne_left a b ha
  · exact Int64.toInt_div_of_ne_right a b hb

section Conditions

variable {P Q : Prop} [Decidable P] [Decidable Q] {left right : Option Bool}

theorem both_eq (hleft : left = some (decide P))
    (hright : P → right = some (decide Q)) :
    both left right = some (decide (P ∧ Q)) := by
  rw [both, hleft, Option.bind_some]
  by_cases hp : P
  · simp [hp, hright hp]
  · simp [hp]

theorem either_eq (hleft : left = some (decide P))
    (hright : ¬ P → right = some (decide Q)) :
    either left right = some (decide (P ∨ Q)) := by
  rw [either, hleft, Option.bind_some]
  by_cases hp : P
  · simp [hp]
  · simp [hp, hright hp]

end Conditions

theorem against_eq {bound : Option Int64} {value : Int64} {test : Int64 → Bool}
    (hbound : bound = some value) : against bound test = some (test value) := by
  rw [against, hbound, Option.map_some]

end SignedOps
