import FlyingSquirrel.Lib.Num
import Mathlib.Analysis.SpecialFunctions.Complex.Arg
import Mathlib.Analysis.SpecialFunctions.Trigonometric.Inverse

/-!
# The real numbers, as a number type

The elementary functions are the mathematical ones here. Nothing is evaluated over this type:
it is for the statements that an arbitrary ordered field cannot make, those that turn on what a
full turn or a cosine is.
-/

set_option autoImplicit false

namespace FlyingSquirrel
namespace Lib

noncomputable instance : Libm ℝ where
  sqrt := Real.sqrt
  sin := Real.sin
  cos := Real.cos
  asin := Real.arcsin
  atan2 y x := Complex.arg ⟨x, y⟩
  toRadians x := x * (Real.pi / 180)
  fracPi2 := Real.pi / 2
  ceil x := ⌈x⌉
  toInt x := if 0 ≤ x then ⌊x⌋ else ⌈x⌉

/-- `k` full turns, in degrees. -/
noncomputable def turns (k : ℤ) : ℝ := 360 * k

/-- A full turn, in radians. -/
noncomputable def fullTurn : ℝ := 2 * Real.pi

theorem toRadians_add_turns (x : ℝ) (k : ℤ) :
    Libm.toRadians (x + 360 * k) = Libm.toRadians x + k * fullTurn := by
  change (x + 360 * k) * (Real.pi / 180) = x * (Real.pi / 180) + k * (2 * Real.pi)
  ring

theorem toRadians_injective : Function.Injective (Libm.toRadians : ℝ → ℝ) :=
  mul_left_injective₀ (div_ne_zero Real.pi_ne_zero (by norm_num))

/-- An angle in degrees, written in `[-180, 180)`. -/
noncomputable def wrapDeg (x : ℝ) : ℝ := toIcoMod (by norm_num : (0 : ℝ) < 360) (-180) x

theorem wrapDeg_eq_self {x : ℝ} : wrapDeg x = x ↔ x ∈ Set.Ico (-180 : ℝ) 180 := by
  unfold wrapDeg
  rw [toIcoMod_eq_self]
  norm_num

theorem wrapDeg_add_turns (x : ℝ) (k : ℤ) : wrapDeg (x + 360 * k) = wrapDeg x := by
  unfold wrapDeg
  rw [mul_comm, ← zsmul_eq_mul, toIcoMod_add_zsmul]

end Lib
end FlyingSquirrel
