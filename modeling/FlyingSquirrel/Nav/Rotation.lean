import FlyingSquirrel.Lib.Real
import FlyingSquirrel.Lib.Rotation
import FlyingSquirrel.Nav.Attitude

/-!
# The attitude over the real numbers

A unit quaternion of the model is a rotation of the library, and its Euler angles are the
library's too. What the linear-algebra crate does with it is assumed, as the crate documents it:
`Nalgebra.Rotates`.
-/

set_option autoImplicit false

namespace FlyingSquirrel

open Lib Lib.Rotation Quaternion

/-! ## As rotations of the library -/

noncomputable def Quat.rotation (q : Quat ℝ) : ℍ[ℝ] := quat q.w q.i q.j q.k

noncomputable def Quat.length (q : Quat ℝ) : ℝ :=
  Real.sqrt (q.w * q.w + q.i * q.i + q.j * q.j + q.k * q.k)

/-- The quaternion is one of length one. -/
def Quat.IsUnit (q : Quat ℝ) : Prop := q.w * q.w + q.i * q.i + q.j * q.j + q.k * q.k = 1

noncomputable def Vec3.vec (v : Vec3 ℝ) : ℍ[ℝ] := Rotation.vec v.x v.y v.z

noncomputable def Vec3.length (v : Vec3 ℝ) : ℝ := Real.sqrt (v.x * v.x + v.y * v.y + v.z * v.z)

theorem Vec3.vec_injective {v w : Vec3 ℝ} (h : v.vec = w.vec) : v = w := by
  have hx : v.x = w.x := congrArg (fun p : ℍ[ℝ] => p.imI) h
  have hy : v.y = w.y := congrArg (fun p : ℍ[ℝ] => p.imJ) h
  have hz : v.z = w.z := congrArg (fun p : ℍ[ℝ] => p.imK) h
  cases v
  cases w
  simp_all

section Unit

variable {q : Quat ℝ}

theorem Quat.normSq_rotation (q : Quat ℝ) :
    normSq q.rotation = q.w * q.w + q.i * q.i + q.j * q.j + q.k * q.k := by
  unfold Quat.rotation
  rw [normSq_quat]
  ring

theorem Quat.IsUnit.normSq (h : q.IsUnit) : Quaternion.normSq q.rotation = 1 :=
  (Quat.normSq_rotation q).trans h

theorem Quat.IsUnit.length (h : q.IsUnit) : q.length = 1 := by
  unfold Quat.length
  rw [h, Real.sqrt_one]

end Unit

/-! ## The crate -/

/-- What the crate documents of a unit quaternion: it takes a vector `v` to `q v q*`, and its
    inverse takes it to `q* v q`. -/
class Nalgebra.Rotates [Nalgebra ℝ] : Prop where
  transformVector : ∀ {q : Quat ℝ}, q.IsUnit → ∀ v : Vec3 ℝ,
    (Nalgebra.transformVector q v).vec = rotate q.rotation v.vec
  inverseTransformVector : ∀ {q : Quat ℝ}, q.IsUnit → ∀ v : Vec3 ℝ,
    (Nalgebra.inverseTransformVector q v).vec = rotate (star q.rotation) v.vec

section Crate

variable [Nalgebra ℝ] [Nalgebra.Rotates] {q : Quat ℝ}

theorem rotateBodyToNed_vec (h : q.IsUnit) (v : Vec3 ℝ) :
    (rotateBodyToNed q v).vec = rotate q.rotation v.vec :=
  Nalgebra.Rotates.transformVector h v

theorem rotateNedToBody_vec (h : q.IsUnit) (v : Vec3 ℝ) :
    (rotateNedToBody q v).vec = rotate (star q.rotation) v.vec :=
  Nalgebra.Rotates.inverseTransformVector h v

end Crate

/-- The vector a quaternion takes another to. -/
noncomputable def Vec3.turnedBy (p : ℍ[ℝ]) (v : Vec3 ℝ) : Vec3 ℝ :=
  ⟨(rotate p v.vec).imI, (rotate p v.vec).imJ, (rotate p v.vec).imK⟩

theorem Vec3.vec_turnedBy (q : Quat ℝ) (v : Vec3 ℝ) :
    (v.turnedBy q.rotation).vec = rotate q.rotation v.vec := by
  unfold Vec3.turnedBy Vec3.vec Quat.rotation
  rw [rotate_vec]
  rfl

/-- A crate that rotates so, to evaluate with. -/
@[reducible] noncomputable def quaternionCrate : Nalgebra ℝ where
  transformVector q v := v.turnedBy q.rotation
  inverseTransformVector q v := v.turnedBy (star q.rotation)

theorem quaternionCrate_rotates : @Nalgebra.Rotates quaternionCrate :=
  @Nalgebra.Rotates.mk quaternionCrate (fun {q} _ v => v.vec_turnedBy q) fun {q} _ v => by
    have hstar : star q.rotation = Quat.rotation ⟨q.w, -q.i, -q.j, -q.k⟩ := star_quat ..
    show (v.turnedBy (star q.rotation)).vec = _
    rw [hstar]
    exact v.vec_turnedBy _

/-! ## The filter's quaternions -/

namespace Madgwick

variable (m : Madgwick ℝ)

/-- What a quaternion is divided by. -/
theorem normalize_q : m.normalize.q =
    ⟨m.q.w / max m.q.length 1e-9, m.q.i / max m.q.length 1e-9, m.q.j / max m.q.length 1e-9,
      m.q.k / max m.q.length 1e-9⟩ := rfl

theorem normalize_of_unit (h : m.q.IsUnit) : m.normalize = m := by
  have hmax : max m.q.length 1e-9 = 1 := by
    rw [h.length]
    norm_num
  have hq : m.normalize.q = m.q := by
    rw [normalize_q, hmax]
    simp only [div_one]
  exact congrArg (fun q => { m with q := q }) hq

/-- A quaternion that is not close to zero is made a unit. -/
theorem normalize_isUnit (h : (1e-9 : ℝ) ≤ m.q.length) : m.normalize.q.IsUnit := by
  have hpos : 0 < m.q.length := lt_of_lt_of_le (by norm_num) h
  have hsq : m.q.length * m.q.length =
      m.q.w * m.q.w + m.q.i * m.q.i + m.q.j * m.q.j + m.q.k * m.q.k := by
    refine Real.mul_self_sqrt ?_
    nlinarith [mul_self_nonneg m.q.w, mul_self_nonneg m.q.i, mul_self_nonneg m.q.j,
      mul_self_nonneg m.q.k]
  rw [normalize_q, max_eq_left h]
  unfold Quat.IsUnit
  field_simp
  linear_combination -hsq

/-- The Euler angles are the library's. -/
theorem setEuler_rotation (roll pitch yaw : ℝ) :
    (m.setEuler roll pitch yaw).q.IsUnit ∧
      (m.setEuler roll pitch yaw).q.rotation = euler roll pitch yaw := by
  have hraw : ∀ q : Quat ℝ, q.rotation = euler roll pitch yaw →
      (normalize { m with q := q }).q.IsUnit ∧
        (normalize { m with q := q }).q.rotation = euler roll pitch yaw := by
    intro q hq
    have hunit : q.IsUnit := by
      rw [Quat.IsUnit, ← q.normSq_rotation, hq, normSq_euler]
    rw [normalize_of_unit { m with q := q } hunit]
    exact ⟨hunit, hq⟩
  apply hraw
  unfold Quat.rotation euler aboutX aboutY aboutZ
  rw [quat_mul, quat_mul]
  show quat (_ : ℝ) _ _ _ = _
  dsimp only [Libm.cos, Libm.sin]
  congr 1 <;> ring

end Madgwick

end FlyingSquirrel
