import Mathlib.Algebra.Order.Field.Basic
import Mathlib.Algebra.Order.Ring.Rat
import Mathlib.Data.Rat.Floor

/-!
# The number interface

Nothing in this file knows about a program. A definition that computes with
floating-point numbers is written once, over an arbitrary type `α` that has the
operators it uses (`Add`, `LT`, `OfScientific`, …), and is then read in two ways:

* **over any `α` at all**, with no law assumed. A theorem of that kind survives every
  rounding mode, because it never says what `+` does;
* **over an ordered field**, which is exact arithmetic. The operators resolve to the
  field's own, so the ordinary lemmas and tactics apply with no bridge.

What an ordered field does not have is collected here: the elementary functions, the
conversion to integers, and the finiteness test. `Libm` is deliberately lawless. Nothing
the development proves depends on what a cosine is.
-/

namespace FlyingSquirrel
namespace Lib

/-- The elementary functions and the integer conversion of a number type. -/
class Libm (α : Type) where
  sqrt : α → α
  sin : α → α
  cos : α → α
  asin : α → α
  atan2 : α → α → α
  /-- Degrees to radians. -/
  toRadians : α → α
  /-- `π / 2`. -/
  fracPi2 : α
  /-- Round up, still as a number. -/
  ceil : α → α
  /-- Conversion to an integer: towards zero. -/
  toInt : α → Int

/-- Conversion to an unsigned integer: towards zero, negatives to zero. -/
def Libm.toNat {α : Type} [Libm α] (x : α) : Nat := (Libm.toInt x).toNat

/-- Whether a number is neither infinite nor undefined. -/
class FiniteTest (α : Type) where
  isFinite : α → Bool

export FiniteTest (isFinite)

instance (priority := low) fieldFinite {F : Type} [Field F] : FiniteTest F := ⟨fun _ => true⟩

@[simp] theorem isFinite_field {F : Type} [Field F] (x : F) : isFinite x = true := rfl

section Generic

variable {α : Type}

def fabs [Zero α] [Neg α] [LT α] [DecidableLT α] (x : α) : α := if x < 0 then -x else x

/-- Restrict `x` to the band `[lo, hi]`. -/
def clamp [LT α] [DecidableLT α] (x lo hi : α) : α :=
  if x < lo then lo else if hi < x then hi else x

/-- The sign of `x`, as a number. -/
def signum [Zero α] [One α] [Neg α] [LT α] [DecidableLT α] (x : α) : α :=
  if x < 0 then -1 else 1

end Generic

/-! ## Over an ordered field -/

section Field

variable {F : Type} [LinearOrder F]

theorem clamp_of_mem {x lo hi : F} (hlo : lo ≤ x) (hhi : x ≤ hi) : clamp x lo hi = x := by
  unfold clamp
  rw [if_neg (not_lt.mpr hlo), if_neg (not_lt.mpr hhi)]

theorem clamp_eq_min_max {lo hi : F} (h : lo ≤ hi) (x : F) : clamp x lo hi = min (max x lo) hi := by
  unfold clamp
  split
  · rename_i hlo
    rw [max_eq_right hlo.le, min_eq_left h]
  · rename_i hlo
    rw [max_eq_left (not_lt.mp hlo)]
    split
    · rename_i hhi
      exact (min_eq_right hhi.le).symm
    · rename_i hhi
      exact (min_eq_left (not_lt.mp hhi)).symm

variable [Field F]

theorem fabs_of_nonneg {x : F} (h : 0 ≤ x) : fabs x = x := if_neg (not_lt.mpr h)

variable [IsStrictOrderedRing F]

theorem fabs_eq_abs (x : F) : fabs x = |x| := by
  unfold fabs
  split
  · rename_i h
    exact (abs_of_neg h).symm
  · rename_i h
    exact (abs_of_nonneg (not_lt.mp h)).symm

theorem fabs_of_neg_nonneg {x : F} (h : 0 ≤ -x) : fabs x = -x := by
  rw [fabs_eq_abs, abs_of_nonpos (neg_nonneg.mp h)]

/-- A quotient of positive numbers, clamped, is a share. -/
theorem clamp_div_lt_one {x tau : F} (hx : 0 < x) (htau : 0 < tau) :
    0 < clamp (x / tau) 0 1 ∧ (clamp (x / tau) 0 1 < 1 ↔ x < tau) := by
  have hpos : 0 < x / tau := div_pos hx htau
  unfold clamp
  rw [if_neg (not_lt.mpr hpos.le)]
  by_cases h : 1 < x / tau
  · rw [if_pos h]
    have hlt := (one_lt_div htau).mp h
    exact ⟨zero_lt_one, iff_of_false (lt_irrefl 1) (not_lt.mpr hlt.le)⟩
  · rw [if_neg h]
    exact ⟨hpos, div_lt_one htau⟩

end Field

/-! ## Gaps -/

section Gaps

variable {F : Type}

/-- The differences of consecutive values, from `prev` on. -/
def gaps [Sub F] : F → List F → List F
  | _, [] => []
  | prev, t :: ts => (t - prev) :: gaps t ts

theorem gaps_length [Sub F] (prev : F) (ts : List F) : (gaps prev ts).length = ts.length := by
  induction ts generalizing prev with
  | nil => rfl
  | cons t ts ih => rw [gaps, List.length_cons, ih, List.length_cons]

/-- Gaps telescope. -/
theorem sum_gaps [AddCommGroup F] (prev : F) (ts : List F) :
    (gaps prev ts).sum = ts.getLastD prev - prev := by
  induction ts generalizing prev with
  | nil => simp [gaps]
  | cons t ts ih => rw [gaps, List.sum_cons, ih, List.getLastD_cons, sub_add_sub_cancel']

end Gaps

/-! ## The rationals, as a number type one can evaluate

Used where a run of a model is computed. The square root is exact on squares of
rationals, the others are exact at zero and low-order approximations elsewhere. -/

/-- Square root: exact when numerator and denominator are squares. -/
def ratSqrt (q : ℚ) : ℚ := (Nat.sqrt q.num.toNat : ℚ) / (Nat.sqrt q.den : ℚ)

instance : Libm ℚ where
  sqrt := ratSqrt
  sin x := x - x * x * x / 6
  cos x := 1 - x * x / 2
  asin x := x + x * x * x / 6
  atan2 y x := y / x
  toRadians x := x * (355 / 113) / 180
  fracPi2 := 355 / 226
  ceil x := ⌈x⌉
  toInt x := x.num.tdiv x.den

theorem le_toNat {n : Nat} {x : ℚ} (h : n ≤ x) : n ≤ Libm.toNat x := by
  have hnum : 0 ≤ x.num := Rat.num_nonneg.mpr (le_trans (Nat.cast_nonneg n) h)
  have hfloor : Libm.toInt x = ⌊x⌋ := by
    rw [Rat.floor_def']
    exact Int.tdiv_eq_ediv_of_nonneg hnum
  have hn : (n : Int) ≤ ⌊x⌋ := Int.le_floor.mpr (by exact_mod_cast h)
  unfold Libm.toNat
  rw [hfloor]
  omega

end Lib
end FlyingSquirrel
