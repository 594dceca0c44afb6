import Mathlib.Data.List.Basic
import Mathlib.Data.Set.Defs

/-!
# Runs of a machine that answers

Nothing in this file knows about a program. A machine is a function
`step : σ → ι → σ × List ο`: from a state and an input, the next state and what is put
out on the way. A run is a list of inputs.

Two questions are asked of runs, and each has its own predicate.

* *Which states are reached?* `run step s is` is the last one, and since every prefix of a
  run is a run, a fact about the last state of every run is a fact about every state.
* *What happens at each step?* `Along step P s is` says that `P` holds of every state–input
  pair the run passes through. A claim of the form "in every run whose steps all meet `G`"
  has `Along step G` as its hypothesis.

The rules connect the two with what one step preserves, so that a development proves a
step lemma and takes its run lemma from here.
-/

namespace FlyingSquirrel
namespace Lib

variable {σ ι ο γ : Type}

def run (step : σ → ι → σ × List ο) : σ → List ι → σ
  | s, [] => s
  | s, i :: is => run step (step s i).1 is

/-- Everything put out during a run, in order. -/
def outputs (step : σ → ι → σ × List ο) : σ → List ι → List ο
  | _, [] => []
  | s, i :: is => (step s i).2 ++ outputs step (step s i).1 is

/-- `P` holds of every state and input a run passes through. -/
def Along (step : σ → ι → σ × List ο) (P : σ → ι → Prop) : σ → List ι → Prop
  | _, [] => True
  | s, i :: is => P s i ∧ Along step P (step s i).1 is

/-- A run of a machine one can compute is checked by computing it. -/
instance Along.decidable {step : σ → ι → σ × List ο} {P : σ → ι → Prop}
    [∀ s i, Decidable (P s i)] : ∀ s is, Decidable (Along step P s is)
  | _, [] => .isTrue trivial
  | s, i :: is =>
    have : Decidable (Along step P (step s i).1 is) := Along.decidable _ is
    inferInstanceAs (Decidable (P s i ∧ Along step P (step s i).1 is))

section Rules

variable {step : σ → ι → σ × List ο} {P Q : σ → ι → Prop} {I : σ → Prop}

@[simp] theorem run_nil (s : σ) : run step s [] = s := rfl

@[simp] theorem run_cons (s : σ) (i : ι) (is : List ι) :
    run step s (i :: is) = run step (step s i).1 is := rfl

theorem run_append (s : σ) (is js : List ι) :
    run step s (is ++ js) = run step (run step s is) js := by
  induction is generalizing s with
  | nil => rfl
  | cons i is ih => exact ih _

theorem run_snoc (s : σ) (is : List ι) (i : ι) :
    run step s (is ++ [i]) = (step (run step s is) i).1 := run_append s is [i]

theorem outputs_append (s : σ) (is js : List ι) :
    outputs step s (is ++ js) = outputs step s is ++ outputs step (run step s is) js := by
  induction is generalizing s with
  | nil => rfl
  | cons i is ih => rw [List.cons_append, outputs, outputs, ih, List.append_assoc, run_cons]

theorem outputs_snoc (s : σ) (is : List ι) (i : ι) :
    outputs step s (is ++ [i]) = outputs step s is ++ (step (run step s is) i).2 := by
  rw [outputs_append, outputs, outputs, List.append_nil]

/-- What is put out is put out at some step. -/
theorem outputs_eq_split {s : σ} {is : List ι} {pre post : List ο} {o : ο}
    (h : outputs step s is = pre ++ o :: post) :
    ∃ is₀ i is₁ a b, is = is₀ ++ i :: is₁ ∧ (step (run step s is₀) i).2 = a ++ o :: b ∧
      pre = outputs step s is₀ ++ a ∧ post = b ++ outputs step (run step s (is₀ ++ [i])) is₁ := by
  induction is generalizing s pre with
  | nil => exact absurd h (by simp [outputs])
  | cons i is ih =>
    rcases List.append_eq_append_iff.mp h with ⟨a, rfl, hrest⟩ | ⟨a, hstep, hrest⟩
    · obtain ⟨is₀, j, is₁, a', b, rfl, hj, rfl, rfl⟩ := ih hrest
      exact ⟨i :: is₀, j, is₁, a', b, rfl, hj, (List.append_assoc _ _ _).symm, rfl⟩
    · cases a with
      | nil =>
        obtain ⟨is₀, j, is₁, a', b, rfl, hj, ha, rfl⟩ :=
          ih (show outputs step _ is = [] ++ o :: post from hrest.symm)
        refine ⟨i :: is₀, j, is₁, a', b, rfl, hj, ?_, rfl⟩
        rw [outputs, List.append_assoc, ← ha, hstep, List.append_nil, List.append_nil]
      | cons o' b =>
        obtain ⟨rfl, rfl⟩ := List.cons_eq_cons.mp hrest
        exact ⟨[], i, is, pre, b, rfl, hstep, rfl, rfl⟩

theorem along_append (s : σ) (is js : List ι) :
    Along step P s (is ++ js) ↔ Along step P s is ∧ Along step P (run step s is) js := by
  induction is generalizing s with
  | nil => simp [Along]
  | cons i is ih => simp only [List.cons_append, Along, ih, run_cons, and_assoc]

/-- Along a run is at each of its steps, after the run before it. -/
theorem along_iff_forall_split (s : σ) (is : List ι) :
    Along step P s is ↔ ∀ pre i post, is = pre ++ i :: post → P (run step s pre) i := by
  constructor
  · rintro h pre i post rfl
    exact ((along_append s pre (i :: post)).mp h).2.1
  · intro h
    induction is generalizing s with
    | nil => trivial
    | cons i is ih =>
      refine ⟨h [] i is rfl, ih _ fun pre j post hsplit => ?_⟩
      exact h (i :: pre) j post (congrArg (i :: ·) hsplit)

theorem Along.mono (h : ∀ s i, P s i → Q s i) {s : σ} {is : List ι}
    (hp : Along step P s is) : Along step Q s is := by
  induction is generalizing s with
  | nil => trivial
  | cons i is ih => exact ⟨h s i hp.1, ih hp.2⟩

theorem along_congr (h : ∀ s i, P s i ↔ Q s i) {s : σ} {is : List ι} :
    Along step P s is ↔ Along step Q s is :=
  ⟨Along.mono fun s i => (h s i).mp, Along.mono fun s i => (h s i).mpr⟩

/-- **The invariant rule.** What every admitted step preserves, every run of admitted
    steps preserves. -/
theorem Along.invariant (hstep : ∀ s i, P s i → I s → I (step s i).1) {s : σ}
    {is : List ι} (hp : Along step P s is) (hI : I s) : I (run step s is) := by
  induction is generalizing s with
  | nil => exact hI
  | cons i is ih => exact ih hp.2 (hstep s i hp.1 hI)

theorem run_invariant (hstep : ∀ s i, I s → I (step s i).1) {s : σ} (hI : I s) (is : List ι) :
    I (run step s is) := by
  induction is generalizing s with
  | nil => exact hI
  | cons i is ih => exact ih (hstep s i hI)

/-- An invariant strengthens what is known along a run: a step fact that needs the
    invariant of its start state holds of every step. -/
theorem Along.strengthen (hstep : ∀ s i, P s i → I s → I (step s i).1)
    (h : ∀ s i, I s → P s i → Q s i) {s : σ} {is : List ι} (hp : Along step P s is)
    (hI : I s) : Along step Q s is := by
  induction is generalizing s with
  | nil => trivial
  | cons i is ih => exact ⟨h s i hI hp.1, ih hp.2 (hstep s i hp.1 hI)⟩

/-- Under an invariant of all runs, two step predicates that agree where the invariant
    holds agree along every run. -/
theorem along_congr_of_invariant (hstep : ∀ s i, I s → I (step s i).1)
    (h : ∀ s i, I s → (P s i ↔ Q s i)) {s : σ} {is : List ι} (hI : I s) :
    Along step P s is ↔ Along step Q s is :=
  ⟨fun hp => hp.strengthen (fun s i _ => hstep s i) (fun s i hs => (h s i hs).mp) hI,
   fun hq => hq.strengthen (fun s i _ => hstep s i) (fun s i hs => (h s i hs).mpr) hI⟩

/-- The same along a run of steps that `C` admits, under an invariant that admitted steps
    preserve. -/
theorem along_congr_of_guarded {C : σ → ι → Prop}
    (hstep : ∀ s i, C s i → I s → I (step s i).1)
    (h : ∀ s i, I s → C s i → (P s i ↔ Q s i)) {s : σ} {is : List ι} (hI : I s)
    (hC : Along step C s is) : Along step P s is ↔ Along step Q s is := by
  induction is generalizing s with
  | nil => exact Iff.rfl
  | cons i is ih =>
    exact and_congr (h s i hI hC.1) (ih (hstep s i hC.1 hI) hC.2)

theorem along_of_forall {R : ι → Prop} {s : σ} {is : List ι} (h : ∀ i ∈ is, R i) :
    Along step (fun _ i => R i) s is := by
  induction is generalizing s with
  | nil => trivial
  | cons i is ih =>
    exact ⟨h i List.mem_cons_self, ih fun j hj => h j (List.mem_cons_of_mem _ hj)⟩

theorem Along.and {s : σ} {is : List ι} (hp : Along step P s is) (hq : Along step Q s is) :
    Along step (fun s i => P s i ∧ Q s i) s is := by
  induction is generalizing s with
  | nil => trivial
  | cons i is ih => exact ⟨⟨hp.1, hq.1⟩, ih hp.2 hq.2⟩

theorem along_of_invariant (hstep : ∀ s i, I s → I (step s i).1)
    (h : ∀ s i, I s → Q s i) {s : σ} {is : List ι} (hI : I s) : Along step Q s is := by
  induction is generalizing s with
  | nil => trivial
  | cons i is ih => exact ⟨h s i hI, ih (hstep s i hI)⟩

/-- **The silence rule.** If admitted steps put nothing out where the invariant holds, and
    keep it, runs of them do too. -/
theorem Along.silent (hstep : ∀ s i, P s i → I s → (step s i).2 = [] ∧ I (step s i).1) {s : σ}
    {is : List ι} (hp : Along step P s is) (hI : I s) :
    outputs step s is = [] ∧ I (run step s is) := by
  induction is generalizing s with
  | nil => exact ⟨rfl, hI⟩
  | cons i is ih =>
    obtain ⟨hout, hnext⟩ := hstep s i hp.1 hI
    rw [outputs, hout]
    exact ih hp.2 hnext

/-- **The boundary rule.** Let `I` be what should hold of every state, and let `G` say
    exactly which steps keep it: from where it holds, under the invariant `J` and on the
    steps `C` admits. Then along a run of admitted steps `I` holds of every state reached
    if and only if `G` holds of every step. -/
theorem reached_iff_along {J : σ → Prop} {C G : σ → ι → Prop}
    (hJ : ∀ s i, J s → J (step s i).1)
    (hG : ∀ s i, J s → C s i → I s → (I (step s i).1 ↔ G s i)) {s : σ} {is : List ι}
    (hs : J s) (hI : I s) (hC : Along step C s is) :
    (∀ pre post, is = pre ++ post → I (run step s pre)) ↔ Along step G s is := by
  induction is generalizing s with
  | nil =>
    refine ⟨fun _ => trivial, fun _ pre post hsplit => ?_⟩
    rw [(List.append_eq_nil_iff.mp hsplit.symm).1]
    exact hI
  | cons i is ih =>
    have hone := hG s i hs hC.1 hI
    constructor
    · intro hall
      have hnext : I (step s i).1 := hall [i] is rfl
      refine ⟨hone.mp hnext, (ih (hJ s i hs) hnext hC.2).mp fun pre post hsplit => ?_⟩
      exact hall (i :: pre) post (congrArg (i :: ·) hsplit)
    · rintro ⟨hg, hrest⟩ pre post hsplit
      have hnext : I (step s i).1 := hone.mpr hg
      cases pre with
      | nil => exact hI
      | cons j pre =>
        obtain ⟨rfl, htail⟩ := List.cons_eq_cons.mp hsplit
        exact (ih (hJ s i hs) hnext hC.2).mpr hrest pre post htail

/-- The boundary rule where every step is admitted. -/
theorem reached_iff_along_all {J : σ → Prop} {G : σ → ι → Prop}
    (hJ : ∀ s i, J s → J (step s i).1)
    (hG : ∀ s i, J s → I s → (I (step s i).1 ↔ G s i)) {s : σ} {is : List ι} (hs : J s)
    (hI : I s) :
    (∀ pre post, is = pre ++ post → I (run step s pre)) ↔ Along step G s is :=
  reached_iff_along (C := fun _ _ => True) hJ (fun s i hj _ hi => hG s i hj hi) hs hI
    (along_of_invariant hJ (fun _ _ _ => trivial) hs)

end Rules

/-! ## Notes taken along a run

What is worth noting of a step may depend on the state it starts from. A cell that each step
overwrites with what is noted of it, if anything is, holds the last note. -/

def notes {κ : Type} (step : σ → ι → σ × List ο) (note : σ → ι → Option κ) :
    σ → List ι → List κ
  | _, [] => []
  | s, i :: is => (note s i).toList ++ notes step note (step s i).1 is

section Notes

variable {κ : Type} {step : σ → ι → σ × List ο} {note : σ → ι → Option κ}

theorem notes_append (s : σ) (is js : List ι) :
    notes step note s (is ++ js) = notes step note s is ++ notes step note (run step s is) js := by
  induction is generalizing s with
  | nil => rfl
  | cons i is ih => rw [List.cons_append, notes, notes, ih, List.append_assoc, run_cons]

theorem mem_notes_iff {s : σ} {is : List ι} {x : κ} :
    x ∈ notes step note s is ↔
      ∃ pre i post, is = pre ++ i :: post ∧ note (run step s pre) i = some x := by
  constructor
  · intro h
    induction is generalizing s with
    | nil => exact absurd h (by simp [notes])
    | cons i is ih =>
      rw [notes, List.mem_append, Option.mem_toList] at h
      rcases h with h | h
      · exact ⟨[], i, is, rfl, h⟩
      · obtain ⟨pre, j, post, rfl, hj⟩ := ih h
        exact ⟨i :: pre, j, post, rfl, hj⟩
  · rintro ⟨pre, i, post, rfl, hi⟩
    rw [notes_append, notes, hi]
    simp

theorem notes_getLast? (cell : σ → Option κ)
    (hcell : ∀ s i, cell (step s i).1 = (note s i).or (cell s)) (s : σ) (is : List ι) :
    cell (run step s is) = (notes step note s is).getLast?.or (cell s) := by
  induction is generalizing s with
  | nil => rfl
  | cons i is ih =>
    rw [run_cons, ih, hcell, notes, List.getLast?_append]
    cases note s i with
    | none => simp
    | some x => cases (notes step note (step s i).1 is).getLast? <;> rfl

end Notes

/-! ## Two runs

Two states are told apart by nothing an observer sees, if they are related by a relation under
which a step answers the same and leaves related states. -/

theorem outputs_eq_of_alike {step : σ → ι → σ × List ο} {R : σ → σ → Prop}
    (hstep : ∀ s s' i, R s s' → (step s' i).2 = (step s i).2 ∧ R (step s i).1 (step s' i).1)
    {s s' : σ} (h : R s s') (is : List ι) : outputs step s' is = outputs step s is := by
  induction is generalizing s s' with
  | nil => rfl
  | cons i is ih =>
    obtain ⟨hout, hnext⟩ := hstep s s' i h
    rw [outputs, outputs, hout, ih hnext]

/-- Two runs on inputs related one by one stay related, if one step does. -/
theorem run_related {step : σ → ι → σ × List ο} {R : σ → σ → Prop} {Q : ι → ι → Prop}
    (hstep : ∀ s s' i i', R s s' → Q i i' → R (step s i).1 (step s' i').1) {s s' : σ}
    (h : R s s') {is is' : List ι} (hi : List.Forall₂ Q is is') :
    R (run step s is) (run step s' is') := by
  induction hi generalizing s s' with
  | nil => exact h
  | cons hi _ ih => exact ih (hstep _ _ _ _ h hi)

/-! ## Composing answers

A step is itself made of stages, each of which may change the state and put things out.
`andThen` runs one stage after another and keeps what both put out, in order. -/

/-- Run `f` on the state of `x`, after what `x` has put out. -/
def andThen (x : σ × List ο) (f : σ → σ × List ο) : σ × List ο :=
  ((f x.1).1, x.2 ++ (f x.1).2)

@[simp] theorem andThen_fst (x : σ × List ο) (f : σ → σ × List ο) :
    (andThen x f).1 = (f x.1).1 := rfl

@[simp] theorem andThen_snd (x : σ × List ο) (f : σ → σ × List ο) :
    (andThen x f).2 = x.2 ++ (f x.1).2 := rfl

/-! ## Ghost state

A value computed alongside a run from what each step did, which the machine itself does
not hold: the time something last happened, a count, a history. -/

/-- The machine `step` with a ghost `g` updated from each step's start, input and end. -/
def ghost (step : σ → ι → σ × List ο) (upd : γ → σ → ι → σ → γ) :
    σ × γ → ι → (σ × γ) × List ο
  | (s, g), i => (((step s i).1, upd g s i (step s i).1), (step s i).2)

section Ghost

variable {step : σ → ι → σ × List ο} {upd : γ → σ → ι → σ → γ}

@[simp] theorem ghost_fst (x : σ × γ) (i : ι) :
    (ghost step upd x i).1.1 = (step x.1 i).1 := rfl

@[simp] theorem ghost_snd (x : σ × γ) (i : ι) :
    (ghost step upd x i).1.2 = upd x.2 x.1 i (step x.1 i).1 := rfl

@[simp] theorem ghost_out (x : σ × γ) (i : ι) :
    (ghost step upd x i).2 = (step x.1 i).2 := rfl

theorem run_ghost_fst (x : σ × γ) (is : List ι) :
    (run (ghost step upd) x is).1 = run step x.1 is := by
  induction is generalizing x with
  | nil => rfl
  | cons i is ih => exact ih _

theorem along_ghost {P : σ → ι → Prop} (x : σ × γ) (is : List ι) :
    Along (ghost step upd) (fun x i => P x.1 i) x is ↔ Along step P x.1 is := by
  induction is generalizing x with
  | nil => exact Iff.rfl
  | cons i is ih => exact and_congr Iff.rfl (ih _)

end Ghost

/-! ## Histories

The history of a run is the list of its inputs, kept as a ghost. What the machine should
remember of it is often the last input of a kind. -/

def record (hist : List ι) (_ : σ) (i : ι) (_ : σ) : List ι := hist ++ [i]

/-- The last thing of a kind in a history. -/
def latest {κ : Type} (kind : ι → Option κ) (hist : List ι) : Option κ :=
  (hist.filterMap kind).getLast?

section Latest

variable {κ : Type} {kind : ι → Option κ} {hist : List ι} {i : ι} {x : κ}

@[simp] theorem latest_nil : latest kind [] = none := rfl

theorem latest_snoc : latest kind (hist ++ [i]) = (kind i).or (latest kind hist) := by
  unfold latest
  rw [List.filterMap_append, List.getLast?_append]
  cases h : kind i <;> simp [h]

theorem latest_snoc_some (h : kind i = some x) : latest kind (hist ++ [i]) = some x := by
  rw [latest_snoc, h]
  rfl

theorem latest_snoc_none (h : kind i = none) :
    latest kind (hist ++ [i]) = latest kind hist := by
  rw [latest_snoc, h]
  rfl

end Latest

/-! ## Paths

A machine may announce its moves, from one observed position to another. They form a path when
each one leaves from where the one before arrived, and then they lead from the position at the
start of the run to the one at its end. -/

inductive Path {κ : Type} : κ → List (κ × κ) → κ → Prop
  | nil (a : κ) : Path a [] a
  | cons {a b c : κ} {moves : List (κ × κ)} (h : Path b moves c) : Path a ((a, b) :: moves) c

section Path

variable {κ : Type} {a b c : κ} {moves moves' : List (κ × κ)}

theorem Path.single (a b : κ) : Path a [(a, b)] b := .cons (.nil b)

theorem Path.append (h : Path a moves b) (h' : Path b moves' c) : Path a (moves ++ moves') c := by
  induction h with
  | nil a => exact h'
  | cons h ih => exact .cons (ih h')

/-- **The path rule.** If what each step announces leads from its start to its end, so does
    what a run announces. -/
theorem path_outputs {step : σ → ι → σ × List ο} {pos : σ → κ} {announce : ο → Option (κ × κ)}
    (hstep : ∀ s i, Path (pos s) ((step s i).2.filterMap announce) (pos (step s i).1)) (s : σ)
    (is : List ι) :
    Path (pos s) ((outputs step s is).filterMap announce) (pos (run step s is)) := by
  induction is generalizing s with
  | nil => exact .nil _
  | cons i is ih =>
    rw [outputs, List.filterMap_append]
    exact (hstep s i).append (ih _)

end Path

end Lib
end FlyingSquirrel
