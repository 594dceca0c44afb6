import Mathlib.Algebra.BigOperators.Group.List.Basic
import Mathlib.Algebra.Order.Archimedean.Basic
import Mathlib.Algebra.Order.Field.Basic
import Mathlib.Data.List.Induction
import Mathlib.Order.Bounds.Basic
import Mathlib.Tactic.Linarith
import Mathlib.Tactic.Ring

/-!
# One-sided sums over an adaptive reference

Nothing in this file knows about a program. A change detector adds up what its input exceeds a
reference by, and starts again at zero rather than go below it: `cusum`. What it holds is then
**the greatest sum of any run of excesses that ends now**, which is `GreatestSuffixSum`.

The reference is a multiple of a moving average of the input itself, `ewma`, and so the input can
raise it. Two things are said about that: a moving average stays where its inputs are, and a
reference that has once reached a constant input is never left behind by it.
-/

set_option autoImplicit false

namespace FlyingSquirrel
namespace Lib

/-! ## The sum -/

/-- `s` is the greatest sum of a suffix of `xs`, the empty one included. -/
def GreatestSuffixSum {α : Type} [Add α] [Zero α] [LE α] (xs : List α) (s : α) : Prop :=
  IsGreatest {v | ∃ suffix, suffix <:+ xs ∧ suffix.sum = v} s

section Sum

variable {F : Type} [Field F] [LinearOrder F]

/-- One step of the sum; `x` is the input less its reference. -/
def cusum (s x : F) : F := max (s + x) 0

theorem cusum_nonneg (s x : F) : 0 ≤ cusum s x := le_max_right _ _

theorem le_cusum (s x : F) : s + x ≤ cusum s x := le_max_left _ _

theorem cusum_of_nonneg {s x : F} (h : 0 ≤ s + x) : cusum s x = s + x := max_eq_left h

theorem cusum_of_nonpos {s x : F} (h : s + x ≤ 0) : cusum s x = 0 := max_eq_right h

theorem greatestSuffixSum_nil : GreatestSuffixSum ([] : List F) 0 := by
  constructor
  · exact ⟨[], List.nil_suffix, rfl⟩
  · rintro v ⟨suffix, hsuffix, rfl⟩
    rw [List.suffix_nil.mp hsuffix, List.sum_nil]

variable [IsStrictOrderedRing F]

/-- **The sum's step is that of the greatest suffix sum.** -/
theorem GreatestSuffixSum.snoc {xs : List F} {s : F} (h : GreatestSuffixSum xs s) (x : F) :
    GreatestSuffixSum (xs ++ [x]) (cusum s x) := by
  constructor
  · rcases le_total 0 (s + x) with hpos | hneg
    · -- the greatest suffix, and one longer
      obtain ⟨suffix, hsuffix, rfl⟩ := h.1
      refine ⟨suffix ++ [x], (List.suffix_append_inj_of_length_eq rfl).mpr ⟨hsuffix, rfl⟩, ?_⟩
      rw [cusum_of_nonneg hpos, List.sum_append, List.sum_singleton]
    · exact ⟨[], List.nil_suffix, by rw [cusum_of_nonpos hneg, List.sum_nil]⟩
  · rintro v ⟨suffix, hsuffix, rfl⟩
    rcases List.suffix_concat_iff.mp hsuffix with rfl | ⟨init, rfl, hinit⟩
    · rw [List.sum_nil]
      exact cusum_nonneg s x
    · rw [List.sum_append, List.sum_singleton]
      exact (add_le_add_left (h.2 ⟨init, hinit, rfl⟩) x).trans (le_cusum s x)

end Sum

/-! ## The moving average -/

section Average

variable {F : Type} [Field F] [LinearOrder F] [IsStrictOrderedRing F] {a f x lo hi : F}

/-- A moving average `f` moved towards `x` by the weight `a`. -/
def ewma (a f x : F) : F := (1 - a) * f + a * x

theorem ewma_ge (h₀ : 0 ≤ a) (h₁ : a ≤ 1) (hf : lo ≤ f) (hx : lo ≤ x) : lo ≤ ewma a f x := by
  unfold ewma
  have hold : (1 - a) * lo ≤ (1 - a) * f := mul_le_mul_of_nonneg_left hf (by linarith)
  have hnew : a * lo ≤ a * x := mul_le_mul_of_nonneg_left hx h₀
  linarith

theorem ewma_lt (h₀ : 0 < a) (h₁ : a ≤ 1) (hf : f ≤ hi) (hx : x < hi) : ewma a f x < hi := by
  unfold ewma
  have hold : (1 - a) * f ≤ (1 - a) * hi := mul_le_mul_of_nonneg_left hf (by linarith)
  have hnew : a * x < a * hi := mul_lt_mul_of_pos_left hx h₀
  linarith

/-- A running mean is such an average, with the weight of one in `w`. -/
theorem mean_eq_ewma (w : F) : f + (x - f) / w = ewma (1 / w) f x := by
  unfold ewma
  ring

/-- **A constant input does not leave its reference behind.** Once a multiple of the average, or
    the base `k`, has reached the input, it has after every further step. -/
theorem reference_holds {k m c : F} (hm : 1 ≤ m) (hc : 0 ≤ c) (h₀ : 0 ≤ a) (h₁ : a ≤ 1)
    (h : c ≤ max k (f * m)) : c ≤ max k (ewma a f c * m) := by
  rcases le_total c f with habove | hbelow
  · -- the average is above the input and comes down to it at most
    have havg : c ≤ ewma a f c := ewma_ge h₀ h₁ habove le_rfl
    have hmul : c * 1 ≤ ewma a f c * m :=
      mul_le_mul havg hm zero_le_one (hc.trans havg)
    exact le_max_of_le_right (by linarith)
  · have havg : f ≤ ewma a f c := ewma_ge h₀ h₁ le_rfl hbelow
    rcases le_max_iff.mp h with hk | hf
    · exact le_max_of_le_left hk
    · exact le_max_of_le_right
        (hf.trans (mul_le_mul_of_nonneg_right havg (zero_le_one.trans hm)))

end Average

/-! ## The two together

A lane learns its floor while its sum is zero, and stops once it is not. What it does on an input
that never falls is decided by **whether the input ever exceeds the reference of a lane that goes
on learning**: at the first step where it does, the floor freezes, and every later step adds at
least as much as that one. -/

structure Adaptive (F : Type) where
  sum : F
  floor : F

namespace Adaptive

variable {F : Type} [Field F] [LinearOrder F] [IsStrictOrderedRing F]

/-- One input: the floor, where it learns, and then the sum over the reference it gives. -/
def step (k m a : F) (x : Adaptive F) (v : F) : Adaptive F :=
  let floor := if x.sum = 0 then ewma a x.floor v else x.floor
  ⟨cusum x.sum (v - max k (floor * m)), floor⟩

def after (k m a : F) (x : Adaptive F) (v : ℕ → F) : ℕ → Adaptive F
  | 0 => x
  | n + 1 => (after k m a x v n).step k m a (v n)

/-- The floor of a lane that goes on learning. -/
def learning (a f : F) (v : ℕ → F) : ℕ → F
  | 0 => f
  | n + 1 => ewma a (learning a f v n) (v n)

/-- The input exceeds, at step `i`, the reference of a lane that has learnt up to there. -/
def Outruns (k m a f : F) (v : ℕ → F) (i : ℕ) : Prop := max k (learning a f v (i + 1) * m) < v i

variable {k m a f : F} {v : ℕ → F}

theorem after_quiet {n : ℕ} (h : ∀ i, i < n → ¬ Outruns k m a f v i) :
    after k m a ⟨0, f⟩ v n = ⟨0, learning a f v n⟩ := by
  induction n with
  | zero => rfl
  | succ n ih =>
    have hn : v n ≤ max k (learning a f v (n + 1) * m) := not_lt.mp (h n (Nat.lt_succ_self n))
    have hzero : cusum 0 (v n - max k (learning a f v (n + 1) * m)) = 0 :=
      cusum_of_nonpos (by rw [zero_add]; exact sub_nonpos.mpr hn)
    rw [after, ih fun i hi => h i (Nat.lt_succ_of_lt hi), step]
    simp only [if_true]
    exact congrArg (Adaptive.mk · _) hzero

/-- After the first step where the input outruns its reference, the floor is frozen and every
    step gains what that one did. -/
theorem after_started (hv : Monotone v) {i : ℕ} (hquiet : ∀ j, j < i → ¬ Outruns k m a f v j)
    (hi : Outruns k m a f v i) (n : ℕ) :
    (after k m a ⟨0, f⟩ v (i + 1 + n)).floor = learning a f v (i + 1) ∧
      (n + 1) * (v i - max k (learning a f v (i + 1) * m)) ≤
        (after k m a ⟨0, f⟩ v (i + 1 + n)).sum := by
  have hgain : 0 < v i - max k (learning a f v (i + 1) * m) := sub_pos.mpr hi
  induction n with
  | zero =>
    rw [Nat.add_zero, after, after_quiet hquiet, step]
    simp only [if_true, Nat.cast_zero, zero_add, one_mul]
    exact ⟨rfl, (zero_add _).symm.trans_le (le_cusum _ _)⟩
  | succ n ih =>
    obtain ⟨hfloor, hsum⟩ := ih
    have hrise : v i ≤ v (i + 1 + n) := hv (by omega)
    have hpos : 0 < (after k m a ⟨0, f⟩ v (i + 1 + n)).sum :=
      lt_of_lt_of_le (by positivity) hsum
    rw [← Nat.add_assoc, after, step]
    simp only [if_neg hpos.ne', hfloor]
    refine ⟨trivial, ?_⟩
    have hstep := le_cusum (after k m a ⟨0, f⟩ v (i + 1 + n)).sum
      (v (i + 1 + n) - max k (learning a f v (i + 1) * m))
    push_cast
    linarith

/-- **When a lane detects an input that never falls**: exactly when the input outruns, at some
    step, the reference of a lane that goes on learning. -/
theorem reaches_iff [Archimedean F] (hv : Monotone v) {bound : F} (hbound : 0 < bound) :
    (∃ n, bound ≤ (after k m a ⟨0, f⟩ v n).sum) ↔ ∃ i, Outruns k m a f v i := by
  constructor
  · rintro ⟨n, hn⟩
    by_contra hnever
    rw [after_quiet fun i _ hi => hnever ⟨i, hi⟩] at hn
    exact absurd hn (not_le.mpr hbound)
  · intro hsome
    classical
    obtain ⟨hi, hquiet⟩ := Nat.find_spec hsome, fun j hj => Nat.find_min hsome hj
    generalize Nat.find hsome = i at hi hquiet
    have hgain : 0 < v i - max k (learning a f v (i + 1) * m) := sub_pos.mpr hi
    obtain ⟨n, hn⟩ := exists_nat_ge (bound / (v i - max k (learning a f v (i + 1) * m)))
    refine ⟨i + 1 + n, ?_⟩
    have hsum := (after_started hv hquiet hi n).2
    have hneed := (div_le_iff₀ hgain).mp hn
    linarith

/-- A constant input outruns its reference at the first step or never. -/
theorem constant_quiet {c : F} (hm : 1 ≤ m) (hc : 0 ≤ c) (h₀ : 0 ≤ a) (h₁ : a ≤ 1)
    (h : c ≤ max k (ewma a f c * m)) (i : ℕ) : ¬ Outruns k m a f (fun _ => c) i := by
  have hheld : c ≤ max k (learning a f (fun _ => c) (i + 1) * m) := by
    induction i with
    | zero => exact h
    | succ i ih => exact reference_holds hm hc h₀ h₁ ih
  exact not_lt.mpr hheld

/-- A constant input over the first reference adds what it is over by, every time. -/
theorem constant_sum {c : F} (h : max k (ewma a f c * m) < c) (n : ℕ) :
    after k m a ⟨0, f⟩ (fun _ => c) (n + 1) =
      ⟨(n + 1) * (c - max k (ewma a f c * m)), ewma a f c⟩ := by
  have hgain : 0 < c - max k (ewma a f c * m) := sub_pos.mpr h
  induction n with
  | zero =>
    rw [after, after, step]
    simp only [if_true, Nat.cast_zero, zero_add, one_mul]
    exact congrArg (Adaptive.mk · _) ((cusum_of_nonneg (by linarith)).trans (zero_add _))
  | succ n ih =>
    have hpos : 0 < ((n : F) + 1) * (c - max k (ewma a f c * m)) := by positivity
    rw [after, ih, step]
    simp only [if_neg hpos.ne']
    refine congrArg (Adaptive.mk · _) ((cusum_of_nonneg (by linarith)).trans ?_)
    push_cast
    ring

end Adaptive

end Lib
end FlyingSquirrel
