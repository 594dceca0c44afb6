import FlyingSquirrel.Lib.Run

/-!
# What flows through a machine

Nothing in this file knows about a program. Two rules for a machine that is part of a larger
one, or that passes things on.

* **A machine inside another.** If a step of the outer machine is at most one step of the inner
  one, a run of the outer machine is a run of the inner one.
* **Conservation.** If each step keeps together what is held and what comes in, and what goes
  out and what is then held, so does a run: nothing is lost, added or put out of order.
-/

namespace FlyingSquirrel
namespace Lib

variable {σ τ ι κ ο ο' μ : Type}

/-- **The inner-machine rule.** `view` is the inner state, `input` the inner step that an outer
    one amounts to, and `put` picks what the inner machine puts out. -/
theorem run_within {outer : σ → ι → σ × List ο} {inner : τ → κ → τ × List ο'} (view : σ → τ)
    {input : σ → ι → Option κ} {put : ο → Option ο'}
    (hsome : ∀ s i j, input s i = some j → view (outer s i).1 = (inner (view s) j).1 ∧
      (outer s i).2.filterMap put = (inner (view s) j).2)
    (hnone : ∀ s i, input s i = none → view (outer s i).1 = view s ∧
      (outer s i).2.filterMap put = []) (s : σ) (is : List ι) :
    view (run outer s is) = run inner (view s) (notes outer input s is) ∧
      (outputs outer s is).filterMap put = outputs inner (view s) (notes outer input s is) := by
  induction is generalizing s with
  | nil => exact ⟨rfl, rfl⟩
  | cons i is ih =>
    obtain ⟨hrun, hout⟩ := ih (outer s i).1
    rw [run_cons, outputs, List.filterMap_append, hrun, hout, notes]
    cases hi : input s i with
    | none =>
      obtain ⟨hview, hput⟩ := hnone s i hi
      rw [hview, hput]
      exact ⟨rfl, rfl⟩
    | some j =>
      obtain ⟨hview, hput⟩ := hsome s i j hi
      rw [hview, hput]
      exact ⟨rfl, rfl⟩

/-- **The conservation rule.** `arrives` is what an input brings in, `held` what a state holds,
    in the order it will leave in, and `leaves` what a step sends out. -/
theorem conserved {step : σ → ι → σ × List ο} {I : σ → Prop} {arrives : ι → Option μ}
    {held : σ → List μ} {leaves : σ → ι → Option μ} (hI : ∀ s i, I s → I (step s i).1)
    (hstep : ∀ s i, I s →
      held s ++ (arrives i).toList = (leaves s i).toList ++ held (step s i).1) {s : σ} (hs : I s)
    (is : List ι) :
    held s ++ is.filterMap arrives = notes step leaves s is ++ held (run step s is) := by
  induction is generalizing s with
  | nil => rw [List.filterMap_nil, List.append_nil, notes, List.nil_append, run_nil]
  | cons i is ih =>
    have hcons : (i :: is).filterMap arrives = (arrives i).toList ++ is.filterMap arrives := by
      cases h : arrives i <;> simp [h]
    rw [hcons, ← List.append_assoc, hstep s i hs, List.append_assoc, ih (hI s i hs), notes,
      List.append_assoc, run_cons]

theorem notes_bind {step : σ → ι → σ × List ο} {note : σ → ι → Option κ} (pick : κ → Option μ)
    (s : σ) (is : List ι) :
    (notes step note s is).filterMap pick = notes step (fun s i => (note s i).bind pick) s is := by
  induction is generalizing s with
  | nil => rfl
  | cons i is ih =>
    rw [notes, notes, List.filterMap_append, ih]
    cases note s i with
    | none => rfl
    | some k => cases h : pick k <;> simp [h]

theorem notes_length_le {note : σ → ι → Option κ} {note' : σ → ι → Option μ}
    {step : σ → ι → σ × List ο} (h : ∀ s i, (note s i).isSome → (note' s i).isSome) (s : σ)
    (is : List ι) : (notes step note s is).length ≤ (notes step note' s is).length := by
  induction is generalizing s with
  | nil => exact Nat.le_refl _
  | cons i is ih =>
    rw [notes, notes, List.length_append, List.length_append]
    refine Nat.add_le_add ?_ (ih _)
    cases hn : note s i with
    | none => exact Nat.zero_le _
    | some x =>
      obtain ⟨y, hy⟩ := Option.isSome_iff_exists.mp (h s i (by rw [hn]; rfl))
      rw [hy]
      exact Nat.le_refl _

/-- What is put out at every step is put out over the run. -/
theorem Along.mem_outputs {step : σ → ι → σ × List ο} {R : ο → Prop} {s : σ} {is : List ι}
    (h : Along step (fun s i => ∀ o ∈ (step s i).2, R o) s is) : ∀ o ∈ outputs step s is, R o := by
  induction is generalizing s with
  | nil =>
    intro o ho
    exact absurd ho List.not_mem_nil
  | cons i is ih =>
    intro o ho
    rcases List.mem_append.mp ho with ho | ho
    · exact h.1 o ho
    · exact ih h.2 o ho

/-- **The telling rule.** What ties a state to all that was put out before it, a run keeps, if
    its steps do. -/
theorem Along.told {step : σ → ι → σ × List ο} {P : σ → ι → Prop} {R : σ → List ο → Prop}
    (hstep : ∀ s i out, P s i → R s out → R (step s i).1 (out ++ (step s i).2)) {s : σ}
    {is : List ι} {out : List ο} (hp : Along step P s is) (hs : R s out) :
    R (run step s is) (out ++ outputs step s is) := by
  induction is generalizing s out with
  | nil => rwa [outputs, List.append_nil]
  | cons i is ih =>
    rw [outputs, ← List.append_assoc]
    exact ih hp.2 (hstep s i out hp.1 hs)

theorem run_told {step : σ → ι → σ × List ο} {R : σ → List ο → Prop}
    (hstep : ∀ s i out, R s out → R (step s i).1 (out ++ (step s i).2)) {s : σ}
    (hs : R s []) (is : List ι) : R (run step s is) (outputs step s is) := by
  have hall : Along step (fun _ _ => True) s is :=
    along_of_invariant (I := fun _ => True) (fun _ _ h => h) (fun _ _ h => h) trivial
  exact hall.told (fun s i out _ h => hstep s i out h) hs

end Lib
end FlyingSquirrel
