import Mathlib.Algebra.Quaternion
import Mathlib.Analysis.SpecialFunctions.Complex.Arg

/-!
# Rotations as quaternions

Nothing in this file knows about a program. A vector is a quaternion without a real part, and a
unit quaternion `q` rotates it to `q * v * star q`. Composition is multiplication, the inverse
is the conjugate, and lengths are kept.

The three rotations about the axes are given in coordinates, and the last section says which
rotations leave the third axis alone: those about it.
-/

set_option autoImplicit false

namespace FlyingSquirrel
namespace Lib
namespace Rotation

open Quaternion

noncomputable def quat (w x y z : ℝ) : ℍ[ℝ] := ⟨w, x, y, z⟩

/-- A vector, as a quaternion. -/
noncomputable def vec (x y z : ℝ) : ℍ[ℝ] := quat 0 x y z

noncomputable def rotate (q v : ℍ[ℝ]) : ℍ[ℝ] := q * v * star q

section Coordinates

variable (w x y z : ℝ)

@[simp] theorem quat_re : (quat w x y z).re = w := rfl

@[simp] theorem quat_imI : (quat w x y z).imI = x := rfl

@[simp] theorem quat_imJ : (quat w x y z).imJ = y := rfl

@[simp] theorem quat_imK : (quat w x y z).imK = z := rfl

theorem normSq_quat : normSq (quat w x y z) = w ^ 2 + x ^ 2 + y ^ 2 + z ^ 2 := normSq_def' _

theorem quat_mul (w' x' y' z' : ℝ) : quat w x y z * quat w' x' y' z' =
    quat (w * w' - x * x' - y * y' - z * z') (w * x' + x * w' + y * z' - z * y')
      (w * y' - x * z' + y * w' + z * x') (w * z' + x * y' - y * x' + z * w') := by
  ext
  · exact re_mul _ _
  · exact imI_mul _ _
  · exact imJ_mul _ _
  · exact imK_mul _ _

theorem star_quat : star (quat w x y z) = quat w (-x) (-y) (-z) := by
  ext
  · exact re_star _
  · exact imI_star _
  · exact imJ_star _
  · exact imK_star _

end Coordinates

/-- The rotation in coordinates, not divided by the length. -/
theorem rotate_vec (w i j k x y z : ℝ) : rotate (quat w i j k) (vec x y z) =
    vec ((w ^ 2 + i ^ 2 - j ^ 2 - k ^ 2) * x + 2 * (i * j - w * k) * y + 2 * (i * k + w * j) * z)
      (2 * (i * j + w * k) * x + (w ^ 2 - i ^ 2 + j ^ 2 - k ^ 2) * y + 2 * (j * k - w * i) * z)
      (2 * (i * k - w * j) * x + 2 * (j * k + w * i) * y +
        (w ^ 2 - i ^ 2 - j ^ 2 + k ^ 2) * z) := by
  unfold rotate vec
  rw [star_quat, quat_mul, quat_mul]
  congr 1 <;> ring

theorem smul_vec (c x y z : ℝ) : c • vec x y z = vec (c * x) (c * y) (c * z) := by
  ext
  · exact (re_smul _ c).trans (mul_zero c)
  · exact imI_smul _ c
  · exact imJ_smul _ c
  · exact imK_smul _ c

theorem vec_add (x y z x' y' z' : ℝ) :
    vec x y z + vec x' y' z' = vec (x + x') (y + y') (z + z') := by
  ext
  · exact add_zero 0
  · rfl
  · rfl
  · rfl

/-- How far the third axis is turned from itself is the same both ways. -/
theorem rotate_star_axis (w i j k : ℝ) : (rotate (star (quat w i j k)) (vec 0 0 1)).imK =
    (rotate (quat w i j k) (vec 0 0 1)).imK := by
  rw [star_quat, rotate_vec, rotate_vec]
  show _ + _ + (w ^ 2 - (-i) ^ 2 - (-j) ^ 2 + (-k) ^ 2) * 1 = _ + _ + _ * 1
  ring

/-! ## The group -/

section Group

variable {p q v w : ℍ[ℝ]}

theorem rotate_mul : rotate (p * q) v = rotate p (rotate q v) := by
  unfold rotate
  rw [star_mul]
  simp only [mul_assoc]

theorem rotate_one : rotate 1 v = v := by
  unfold rotate
  rw [star_one, one_mul, mul_one]

/-- The conjugate turns back. -/
theorem rotate_star_rotate (hq : normSq q = 1) : rotate (star q) (rotate q v) = v := by
  rw [← rotate_mul, star_mul_self, hq, coe_one, rotate_one]

theorem rotate_rotate_star (hq : normSq q = 1) : rotate q (rotate (star q) v) = v := by
  rw [← rotate_mul, self_mul_star, hq, coe_one, rotate_one]

theorem rotate_injective (hq : normSq q = 1) (h : rotate q v = rotate q w) : v = w := by
  rw [← rotate_star_rotate hq (v := v), h, rotate_star_rotate hq]

theorem rotate_smul (c : ℝ) : rotate q (c • v) = c • rotate q v := by
  unfold rotate
  rw [← coe_mul_eq_smul, ← coe_mul_eq_smul, ← mul_assoc, ← coe_commutes c q, mul_assoc, mul_assoc,
    mul_assoc]

theorem rotate_add : rotate q (v + w) = rotate q v + rotate q w := by
  unfold rotate
  rw [mul_add, add_mul]

end Group

/-! ## About the axes -/

noncomputable def aboutX (a : ℝ) : ℍ[ℝ] := quat (Real.cos (a * 0.5)) (Real.sin (a * 0.5)) 0 0

noncomputable def aboutY (a : ℝ) : ℍ[ℝ] := quat (Real.cos (a * 0.5)) 0 (Real.sin (a * 0.5)) 0

noncomputable def aboutZ (a : ℝ) : ℍ[ℝ] := quat (Real.cos (a * 0.5)) 0 0 (Real.sin (a * 0.5))

theorem normSq_aboutX (a : ℝ) : normSq (aboutX a) = 1 := by
  unfold aboutX
  rw [normSq_quat]
  linear_combination Real.cos_sq_add_sin_sq (a * 0.5)

theorem normSq_aboutY (a : ℝ) : normSq (aboutY a) = 1 := by
  unfold aboutY
  rw [normSq_quat]
  linear_combination Real.cos_sq_add_sin_sq (a * 0.5)

theorem normSq_aboutZ (a : ℝ) : normSq (aboutZ a) = 1 := by
  unfold aboutZ
  rw [normSq_quat]
  linear_combination Real.cos_sq_add_sin_sq (a * 0.5)

theorem cos_eq_half (a : ℝ) : Real.cos a = Real.cos (a * 0.5) ^ 2 - Real.sin (a * 0.5) ^ 2 := by
  rw [← Real.cos_two_mul', show 2 * (a * 0.5) = a by ring]

theorem sin_eq_half (a : ℝ) : Real.sin a = 2 * Real.sin (a * 0.5) * Real.cos (a * 0.5) := by
  rw [← Real.sin_two_mul, show 2 * (a * 0.5) = a by ring]

theorem rotate_aboutX (a x y z : ℝ) : rotate (aboutX a) (vec x y z) =
    vec x (Real.cos a * y - Real.sin a * z) (Real.sin a * y + Real.cos a * z) := by
  unfold aboutX
  rw [rotate_vec, cos_eq_half a, sin_eq_half a]
  congr 1
  · linear_combination x * Real.cos_sq_add_sin_sq (a * 0.5)
  · ring
  · ring

theorem rotate_aboutY (a x y z : ℝ) : rotate (aboutY a) (vec x y z) =
    vec (Real.cos a * x + Real.sin a * z) y (Real.cos a * z - Real.sin a * x) := by
  unfold aboutY
  rw [rotate_vec, cos_eq_half a, sin_eq_half a]
  congr 1
  · ring
  · linear_combination y * Real.cos_sq_add_sin_sq (a * 0.5)
  · ring

theorem rotate_aboutZ (a x y z : ℝ) : rotate (aboutZ a) (vec x y z) =
    vec (Real.cos a * x - Real.sin a * y) (Real.sin a * x + Real.cos a * y) z := by
  unfold aboutZ
  rw [rotate_vec, cos_eq_half a, sin_eq_half a]
  congr 1
  · ring
  · ring
  · linear_combination z * Real.cos_sq_add_sin_sq (a * 0.5)

@[simp] theorem aboutX_zero : aboutX 0 = 1 := by
  unfold aboutX
  rw [zero_mul, Real.cos_zero, Real.sin_zero]
  rfl

@[simp] theorem aboutY_zero : aboutY 0 = 1 := by
  unfold aboutY
  rw [zero_mul, Real.cos_zero, Real.sin_zero]
  rfl

theorem aboutZ_mul (a b : ℝ) : aboutZ a * aboutZ b = aboutZ (a + b) := by
  unfold aboutZ
  rw [quat_mul, add_mul, Real.cos_add, Real.sin_add]
  congr 1 <;> ring

theorem star_aboutX (a : ℝ) : star (aboutX a) = aboutX (-a) := by
  unfold aboutX
  rw [star_quat, neg_mul, Real.cos_neg, Real.sin_neg, neg_zero]

theorem star_aboutY (a : ℝ) : star (aboutY a) = aboutY (-a) := by
  unfold aboutY
  rw [star_quat, neg_mul, Real.cos_neg, Real.sin_neg, neg_zero]

theorem star_aboutZ (a : ℝ) : star (aboutZ a) = aboutZ (-a) := by
  unfold aboutZ
  rw [star_quat, neg_mul, Real.cos_neg, Real.sin_neg, neg_zero]

/-! ## Roll, pitch and yaw -/

/-- About the first axis by the roll, then about the second by the pitch, then about the third by
    the yaw. -/
noncomputable def euler (roll pitch yaw : ℝ) : ℍ[ℝ] := aboutZ yaw * aboutY pitch * aboutX roll

theorem normSq_euler (roll pitch yaw : ℝ) : normSq (euler roll pitch yaw) = 1 := by
  unfold euler
  rw [map_mul, map_mul, normSq_aboutX, normSq_aboutY, normSq_aboutZ, one_mul, one_mul]

/-- The third axis, seen from the turned frame, does not depend on the yaw. -/
theorem axis_euler (roll pitch yaw : ℝ) : rotate (star (euler roll pitch yaw)) (vec 0 0 1) =
    vec (-Real.sin pitch) (Real.cos pitch * Real.sin roll) (Real.cos pitch * Real.cos roll) := by
  unfold euler
  rw [star_mul, star_mul, star_aboutX, star_aboutY, star_aboutZ, rotate_mul, rotate_mul,
    rotate_aboutZ, rotate_aboutY, rotate_aboutX]
  simp only [Real.cos_neg, Real.sin_neg]
  congr 1 <;> ring

/-- Where the first axis is turned to. -/
theorem euler_forward (roll pitch yaw : ℝ) : rotate (euler roll pitch yaw) (vec 1 0 0) =
    vec (Real.cos pitch * Real.cos yaw) (Real.cos pitch * Real.sin yaw) (-Real.sin pitch) := by
  unfold euler
  rw [rotate_mul, rotate_mul, rotate_aboutX, rotate_aboutY, rotate_aboutZ]
  congr 1 <;> ring

/-! ## Those that keep the third axis -/

/-- A rotation that keeps the third axis is about it. -/
theorem keeps_axis {w i j k : ℝ} (hq : normSq (quat w i j k) = 1)
    (h : rotate (quat w i j k) (vec 0 0 1) = vec 0 0 1) : i = 0 ∧ j = 0 := by
  rw [rotate_vec] at h
  have hz := congrArg (fun v : ℍ[ℝ] => v.imK) h
  change _ * 0 + _ * 0 + (w ^ 2 - i ^ 2 - j ^ 2 + k ^ 2) * 1 = 1 at hz
  rw [normSq_quat] at hq
  have hsum : i ^ 2 + j ^ 2 = 0 := by linarith
  have hi : i ^ 2 = 0 := by nlinarith [sq_nonneg i, sq_nonneg j]
  have hj : j ^ 2 = 0 := by nlinarith [sq_nonneg i, sq_nonneg j]
  exact ⟨pow_eq_zero_iff two_ne_zero |>.mp hi, pow_eq_zero_iff two_ne_zero |>.mp hj⟩

theorem exists_aboutZ {w k : ℝ} (h : w ^ 2 + k ^ 2 = 1) : ∃ a, quat w 0 0 k = aboutZ a := by
  have hnorm : ‖(⟨w, k⟩ : ℂ)‖ = 1 := by
    rw [Complex.norm_def, Complex.normSq_mk, Real.sqrt_eq_one, ← h]
    ring
  refine ⟨2 * Complex.arg ⟨w, k⟩, ?_⟩
  have hhalf : 2 * Complex.arg ⟨w, k⟩ * 0.5 = Complex.arg ⟨w, k⟩ := by ring
  have hw := Complex.norm_mul_cos_arg ⟨w, k⟩
  have hk := Complex.norm_mul_sin_arg ⟨w, k⟩
  rw [hnorm, one_mul] at hw hk
  unfold aboutZ
  rw [hhalf, hw, hk]

/-- Two rotations that bring the third axis to the same place, seen from the turned frame, are one
    followed by a turn about it. -/
theorem eq_aboutZ_mul {p q : ℍ[ℝ]} (hp : normSq p = 1) (hq : normSq q = 1)
    (h : rotate (star p) (vec 0 0 1) = rotate (star q) (vec 0 0 1)) :
    ∃ a, p = aboutZ a * q := by
  have hr : normSq (p * star q) = 1 := by rw [map_mul, normSq_star, hp, hq, one_mul]
  have hkeep : rotate (p * star q) (vec 0 0 1) = vec 0 0 1 := by
    rw [rotate_mul, ← h, rotate_rotate_star hp]
  have hform : p * star q =
      quat (p * star q).re (p * star q).imI (p * star q).imJ (p * star q).imK := rfl
  rw [hform] at hr hkeep
  obtain ⟨hi, hj⟩ := keeps_axis hr hkeep
  rw [hi, hj, normSq_quat] at hr
  have hunit : (p * star q).re ^ 2 + (p * star q).imK ^ 2 = 1 := by linarith
  obtain ⟨a, ha⟩ := exists_aboutZ hunit
  rw [hi, hj, ha] at hform
  refine ⟨a, ?_⟩
  rw [← hform, mul_assoc, star_mul_self, hq, coe_one, mul_one]

end Rotation
end Lib
end FlyingSquirrel
