import Mathlib

/-!
# Chains of time spans

A list of spans, newest first, in which every span starts no earlier than all
older ones stop.  Two spans of a chain have disjoint interiors, and the lengths
of a chain add up to no more than the window that holds it.
-/

namespace Timeline

variable {ι R S : Type*} {start stop : ι → R} {spans : List ι}

/-- Newest first, and each span after all older ones. -/
def Chained [LE R] (start stop : ι → R) (spans : List ι) : Prop :=
  spans.Pairwise fun later earlier => stop earlier ≤ start later

theorem chained_nil [LE R] : Chained start stop [] :=
  List.Pairwise.nil

theorem Chained.cons [LE R] {span : ι} (hchain : Chained start stop spans)
    (hafter : ∀ earlier ∈ spans, stop earlier ≤ start span) :
    Chained start stop (span :: spans) :=
  List.Pairwise.cons hafter hchain

/-- A change of the time scale keeps the chain. -/
theorem Chained.comp [Preorder R] [Preorder S] {scale : R → S}
    (hscale : Monotone scale) (hchain : Chained start stop spans) :
    Chained (scale ∘ start) (scale ∘ stop) spans := by
  apply List.Pairwise.imp ?_ hchain
  intro later earlier hle
  exact hscale hle

/-- No moment lies inside two spans of a chain. -/
theorem Chained.disjoint_interiors [Preorder R]
    (hchain : Chained start stop spans) :
    spans.Pairwise fun later earlier =>
      Disjoint (Set.Ioo (start later) (stop later))
        (Set.Ioo (start earlier) (stop earlier)) := by
  apply List.Pairwise.imp ?_ hchain
  intro later earlier hle
  rw [Set.disjoint_left]
  intro moment hlater hearlier
  have hbefore : moment < start later := lt_of_lt_of_le hearlier.2 hle
  exact lt_asymm hbefore hlater.1

/-- The lengths of a chain fit between its lower bound and any upper bound of
its stops. -/
theorem Chained.sum_le [AddCommGroup R] [LinearOrder R] [IsOrderedAddMonoid R]
    (hchain : Chained start stop spans) {lower upper : R}
    (hwindow : lower ≤ upper)
    (hlower : ∀ span ∈ spans, lower ≤ start span)
    (hupper : ∀ span ∈ spans, stop span ≤ upper) :
    (spans.map fun span => stop span - start span).sum ≤ upper - lower := by
  induction spans generalizing upper with
  | nil => simpa using hwindow
  | cons span spans ih =>
      have hafter := (List.pairwise_cons.mp hchain).1
      have hrest :
          (spans.map fun span => stop span - start span).sum ≤
            start span - lower := by
        apply ih (List.pairwise_cons.mp hchain).2 (hlower span List.mem_cons_self)
        · intro earlier hearlier
          exact hlower earlier (List.mem_cons_of_mem _ hearlier)
        · exact hafter
      have hstop := hupper span List.mem_cons_self
      calc
        ((span :: spans).map fun span => stop span - start span).sum =
            (stop span - start span) +
              (spans.map fun span => stop span - start span).sum := by simp
        _ ≤ (stop span - start span) + (start span - lower) := by gcongr
        _ = stop span - lower := by abel
        _ ≤ upper - lower := by gcongr

end Timeline
