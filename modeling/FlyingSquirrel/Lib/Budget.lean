import FlyingSquirrel.Lib.Run
import Mathlib.Algebra.Order.Group.Defs

/-!
# Runs within a budget

Nothing in this file knows about a program. Every step of a run costs something on each of
several accounts, and every state has used up some of each. A step that the limits have room
for uses no more than it costs, and keeps the invariant. **Then so does a run whose whole cost
they have room for**, and what is known of such a step is known of every step of the run.
-/

namespace FlyingSquirrel
namespace Lib

variable {σ ι ο κ M : Type} [AddCommMonoid M]

/-- What a run costs on one account. -/
def totalCost (step : σ → ι → σ × List ο) (cost : σ → ι → κ → M) (k : κ) : σ → List ι → M
  | _, [] => 0
  | s, i :: is => cost s i k + totalCost step cost k (step s i).1 is

/-- A run whose steps cost nothing costs nothing. -/
theorem totalCost_eq_zero {step : σ → ι → σ × List ο} {cost : σ → ι → κ → M} {k : κ} {s : σ}
    {is : List ι} (hfree : Along step (fun s i => cost s i k = 0) s is) :
    totalCost step cost k s is = 0 := by
  induction is generalizing s with
  | nil => rfl
  | cons i is ih =>
    obtain ⟨hi, his⟩ := hfree
    rw [totalCost, hi, ih his, add_zero]

section Rules

variable [PartialOrder M] [IsOrderedAddMonoid M] {step : σ → ι → σ × List ο}
  {cost : σ → ι → κ → M} {used : σ → κ → M} {limit : κ → M}

theorem totalCost_nonneg (hcost : ∀ s i k, 0 ≤ cost s i k) (k : κ) (s : σ) (is : List ι) :
    0 ≤ totalCost step cost k s is := by
  induction is generalizing s with
  | nil => exact le_rfl
  | cons i is ih => exact add_nonneg (hcost s i k) (ih _)

/-- **The budget rule.** -/
theorem Along.within_budget {P Q : σ → ι → Prop} {I : σ → Prop}
    (hcost : ∀ s i k, 0 ≤ cost s i k)
    (hstep : ∀ s i, P s i → I s → (∀ k, used s k + cost s i k < limit k) →
      I (step s i).1 ∧ Q s i ∧ ∀ k, used (step s i).1 k ≤ used s k + cost s i k)
    {s : σ} {is : List ι} (hp : Along step P s is) (hI : I s)
    (hroom : ∀ k, used s k + totalCost step cost k s is < limit k) :
    I (run step s is) ∧ Along step Q s is := by
  induction is generalizing s with
  | nil => exact ⟨hI, trivial⟩
  | cons i is ih =>
    have hnow : ∀ k, used s k + cost s i k < limit k := by
      intro k
      refine lt_of_le_of_lt ?_ (hroom k)
      exact add_le_add_right (le_add_of_nonneg_right (totalCost_nonneg hcost k _ _)) _
    obtain ⟨hI', hq, hused⟩ := hstep s i hp.1 hI hnow
    have hrest : ∀ k, used (step s i).1 k + totalCost step cost k (step s i).1 is < limit k := by
      intro k
      refine lt_of_le_of_lt (add_le_add_left (hused k) _) ?_
      rw [add_assoc]
      exact hroom k
    obtain ⟨hend, hall⟩ := ih hp.2 hI' hrest
    exact ⟨hend, hq, hall⟩

end Rules

end Lib
end FlyingSquirrel
