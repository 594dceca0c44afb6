import FlyingSquirrel.Nav.Rotation

/-!
# Where the attitude takes down to be

The filter's idea of down, seen in the body, is the third axis turned back. It depends on roll
and pitch alone.

* Static initialisation takes the sensor's reading for the direction opposite to down, but with
  its horizontal part the wrong way round. **It levels the reading mirrored in the vertical**, so
  it is right for a vehicle that sits level, and off by twice the slope for any other.
* A seeded yaw turns the attitude about the vertical, at the gimbal's lock too: **down stays
  where it was**, and the nose points along the course.
-/

set_option autoImplicit false

namespace FlyingSquirrel

open Lib Lib.Rotation Quaternion

/-- The reading with its horizontal part reversed. -/
def Vec3.mirrored (v : Vec3 ℝ) : Vec3 ℝ := ⟨-v.x, -v.y, v.z⟩

theorem Vec3.length_mirrored (v : Vec3 ℝ) : v.mirrored.length = v.length := by
  unfold Vec3.length Vec3.mirrored
  rw [neg_mul_neg, neg_mul_neg]

theorem Vec3.length_sq (v : Vec3 ℝ) : v.length * v.length = v.x * v.x + v.y * v.y + v.z * v.z :=
  Real.mul_self_sqrt (by nlinarith [mul_self_nonneg v.x, mul_self_nonneg v.y, mul_self_nonneg v.z])

/-! ## The angles of a direction -/

/-- `atan2` and `hypot` are polar coordinates. -/
theorem polar (x y : ℝ) : Real.sqrt (x * x + y * y) * Real.cos (Libm.atan2 y x) = x ∧
    Real.sqrt (x * x + y * y) * Real.sin (Libm.atan2 y x) = y := by
  have hnorm : ‖(⟨x, y⟩ : ℂ)‖ = Real.sqrt (x * x + y * y) := by
    rw [Complex.norm_def, Complex.normSq_mk]
  rw [← hnorm]
  exact ⟨Complex.norm_mul_cos_arg ⟨x, y⟩, Complex.norm_mul_sin_arg ⟨x, y⟩⟩

/-- The roll and pitch the filter computes from a direction, and where they bring down to. -/
theorem angles_down (u v w : ℝ) :
    let pitch := Libm.atan2 u (Libm.sqrt (v * v + w * w))
    let roll := Libm.atan2 (-v) w
    let n := Real.sqrt (u * u + v * v + w * w)
    n * -Real.sin pitch = -u ∧ n * (Real.cos pitch * Real.sin roll) = -v ∧
      n * (Real.cos pitch * Real.cos roll) = w := by
  intro pitch roll n
  have hh : 0 ≤ v * v + w * w := by nlinarith [mul_self_nonneg v, mul_self_nonneg w]
  obtain ⟨hz, hy⟩ := polar w (-v)
  obtain ⟨hcos, hsin⟩ := polar (Real.sqrt (v * v + w * w)) u
  rw [Real.mul_self_sqrt hh, show v * v + w * w + u * u = u * u + v * v + w * w by ring]
    at hcos hsin
  rw [neg_mul_neg, show w * w + v * v = v * v + w * w by ring, ← hcos] at hz hy
  refine ⟨?_, ?_, ?_⟩
  · rw [mul_neg]
    exact congrArg Neg.neg hsin
  · rw [← mul_assoc]
    exact hy
  · rw [← mul_assoc]
    exact hz

namespace Madgwick

/-! ## Static initialisation -/

/-- Static initialisation takes down to be the mirrored reading's opposite. -/
theorem initFromAccel_down (m : Madgwick ℝ) (a : Vec3 ℝ) :
    (m.initFromAccel a).q.IsUnit ∧
      a.length • rotate (star (m.initFromAccel a).q.rotation) (vec 0 0 1) =
        vec a.x a.y (-a.z) := by
  -- the reading is scaled to length one, or up from next to nothing
  obtain ⟨n, hn, hpos⟩ : ∃ n, max (Real.sqrt (-a.x * -a.x + -a.y * -a.y + -a.z * -a.z)) 1e-6 = n ∧
      0 < n := ⟨_, rfl, lt_of_lt_of_le (by norm_num) (le_max_right _ _)⟩
  have hinit : m.initFromAccel a = m.setEuler (Libm.atan2 (-(-a.y / n)) (-a.z / n))
      (Libm.atan2 (-a.x / n) (Libm.sqrt (-a.y / n * (-a.y / n) + -a.z / n * (-a.z / n)))) 0 := by
    rw [← hn]
    rfl
  have hlen : Real.sqrt (-a.x / n * (-a.x / n) + -a.y / n * (-a.y / n) + -a.z / n * (-a.z / n)) =
      a.length / n := by
    have hsq : -a.x / n * (-a.x / n) + -a.y / n * (-a.y / n) + -a.z / n * (-a.z / n) =
        (a.x * a.x + a.y * a.y + a.z * a.z) / n ^ 2 := by
      field_simp
    rw [hsq, Real.sqrt_div' _ (sq_nonneg n), Real.sqrt_sq hpos.le]
    rfl
  obtain ⟨hx, hy, hz⟩ := angles_down (-a.x / n) (-a.y / n) (-a.z / n)
  rw [hlen] at hx hy hz
  rw [hinit]
  obtain ⟨hunit, hrot⟩ := m.setEuler_rotation (Libm.atan2 (-(-a.y / n)) (-a.z / n))
    (Libm.atan2 (-a.x / n) (Libm.sqrt (-a.y / n * (-a.y / n) + -a.z / n * (-a.z / n)))) 0
  refine ⟨hunit, ?_⟩
  rw [hrot, axis_euler, smul_vec]
  have hscale : ∀ {s x : ℝ}, a.length / n * s = x / n → a.length * s = x := by
    intro s x h
    rw [div_mul_eq_mul_div] at h
    exact (div_left_inj' hpos.ne').mp h
  congr 1
  · exact hscale (hx.trans (by rw [neg_div, neg_neg]))
  · exact hscale (hy.trans (by rw [neg_div, neg_neg]))
  · exact hscale hz

/-- **Static initialisation levels the mirrored reading.** For every reading: the mirrored one
    comes out upright; the reading itself comes out twice its slope away from upright; and it comes
    out upright exactly when it has no horizontal part, that is, for a vehicle that sits level. -/
theorem initFromAccel_mirrors [Nalgebra ℝ] [Nalgebra.Rotates] (m : Madgwick ℝ) (a : Vec3 ℝ) :
    let q := (m.initFromAccel a).q
    rotateBodyToNed q a.mirrored = ⟨0, 0, -a.length⟩ ∧
    a.length * (rotateBodyToNed q a).z = a.x * a.x + a.y * a.y - a.z * a.z ∧
    (rotateBodyToNed q a = ⟨0, 0, -a.length⟩ ↔ a.x = 0 ∧ a.y = 0) := by
  intro q
  obtain ⟨hunit, hdown⟩ := m.initFromAccel_down a
  have hmirror : rotateBodyToNed q a.mirrored = ⟨0, 0, -a.length⟩ := by
    apply Vec3.vec_injective
    have hopposite : a.mirrored.vec = (-1 : ℝ) • vec a.x a.y (-a.z) := by
      rw [smul_vec]
      show vec (-a.x) (-a.y) a.z = _
      congr 1 <;> ring
    rw [rotateBodyToNed_vec hunit, hopposite, ← hdown, rotate_smul, rotate_smul,
      rotate_rotate_star hunit.normSq, smul_vec, smul_vec]
    show _ = vec 0 0 (-a.length)
    congr 1 <;> ring
  refine ⟨hmirror, ?_, ?_⟩
  · -- the two readings differ along the body's third axis
    have hdiff : a.vec = (-1 : ℝ) • a.mirrored.vec + (2 * a.z) • vec 0 0 1 := by
      show vec a.x a.y a.z = (-1 : ℝ) • vec (-a.x) (-a.y) a.z + _
      rw [smul_vec, smul_vec, vec_add]
      congr 1 <;> ring
    have haxis : (rotate (star q.rotation) (vec 0 0 1)).imK =
        (rotate q.rotation (vec 0 0 1)).imK := rotate_star_axis q.w q.i q.j q.k
    have hturned : (rotateBodyToNed q a).z =
        a.length + 2 * a.z * (rotate (star q.rotation) (vec 0 0 1)).imK := by
      have hz : (rotateBodyToNed q a).z = (rotate q.rotation a.vec).imK := by
        rw [← rotateBodyToNed_vec hunit]
        rfl
      rw [hz, hdiff, rotate_add, rotate_smul, rotate_smul, ← rotateBodyToNed_vec hunit, hmirror]
      show (((-1 : ℝ) • vec 0 0 (-a.length)) + (2 * a.z) • rotate q.rotation (vec 0 0 1)).imK = _
      rw [imK_add, imK_smul, imK_smul, ← haxis]
      show -1 * -a.length + 2 * a.z * _ = _
      ring
    have hk : a.length * (rotate (star q.rotation) (vec 0 0 1)).imK = -a.z :=
      (imK_smul _ _).symm.trans (congrArg (fun p : ℍ[ℝ] => p.imK) hdown)
    rw [hturned]
    linear_combination a.length_sq + 2 * a.z * hk
  · constructor
    · intro h
      have hsame : a = a.mirrored := by
        apply Vec3.vec_injective
        refine rotate_injective hunit.normSq ?_
        rw [← rotateBodyToNed_vec hunit, ← rotateBodyToNed_vec hunit]
        exact congrArg Vec3.vec (h.trans hmirror.symm)
      have hx : a.x = -a.x := congrArg Vec3.x hsame
      have hy : a.y = -a.y := congrArg Vec3.y hsame
      exact ⟨by linarith, by linarith⟩
    · rintro ⟨hx, hy⟩
      have hsame : a.mirrored = a := by
        show (⟨-a.x, -a.y, a.z⟩ : Vec3 ℝ) = ⟨a.x, a.y, a.z⟩
        rw [hx, hy, neg_zero]
      rw [← hsame, hmirror, a.length_mirrored]

/-- A vehicle that sits on a slope. -/
theorem initFromAccel_mirrors_slope :
    let q := ((new 0.05 : Madgwick ℝ).initFromAccel ⟨3, 0, -4⟩).q
    quaternionCrate.transformVector q ⟨-3, 0, -4⟩ = ⟨0, 0, -5⟩ ∧
      5 * (quaternionCrate.transformVector q ⟨3, 0, -4⟩).z = -7 := by
  intro q
  have hlength : Vec3.length ⟨3, 0, -4⟩ = 5 := by
    show Real.sqrt (3 * 3 + 0 * 0 + -4 * -4) = 5
    rw [show (3 * 3 + 0 * 0 + -4 * -4 : ℝ) = 5 * 5 by norm_num]
    exact Real.sqrt_mul_self (by norm_num)
  obtain ⟨hup, hslope, -⟩ :=
    @initFromAccel_mirrors quaternionCrate quaternionCrate_rotates (new 0.05) ⟨3, 0, -4⟩
  rw [hlength] at hup hslope
  constructor
  · rw [← hup]
    show _ = Vec3.turnedBy _ ⟨-3, -0, -4⟩
    rw [neg_zero]
    rfl
  · refine hslope.trans ?_
    norm_num

/-! ## A seeded yaw -/

/-- The pitch whose sine is given, the poles included. -/
theorem pitch_spec {s : ℝ} (h : s ^ 2 ≤ 1) :
    let pitch := if fabs s ≥ 1 then signum s * Libm.fracPi2 else Libm.asin s
    Real.sin pitch = s ∧ Real.cos pitch = Real.sqrt (1 - s ^ 2) := by
  intro pitch
  obtain ⟨hlo, hhi⟩ := abs_le.mp ((sq_le_one_iff_abs_le_one s).mp h)
  by_cases hpole : fabs s ≥ 1
  · have hpitch : pitch = signum s * (Real.pi / 2) := if_pos hpole
    rw [fabs_eq_abs] at hpole
    rw [hpitch]
    unfold signum
    split
    · rename_i hneg
      have hs : s = -1 := le_antisymm (by linarith [abs_of_neg hneg]) hlo
      rw [hs, neg_one_mul, Real.sin_neg, Real.cos_neg, Real.sin_pi_div_two, Real.cos_pi_div_two]
      norm_num
    · rename_i hpos
      have hs : s = 1 := le_antisymm hhi (by rwa [abs_of_nonneg (not_lt.mp hpos)] at hpole)
      rw [hs, one_mul, Real.sin_pi_div_two, Real.cos_pi_div_two]
      norm_num
  · have hpitch : pitch = Real.arcsin s := if_neg hpole
    rw [hpitch]
    exact ⟨Real.sin_arcsin hlo hhi, Real.cos_arcsin s⟩

theorem cos_pitch_nonneg (m : Madgwick ℝ) : 0 ≤ Real.cos m.toEulerRad.2.1 := by
  unfold toEulerRad
  dsimp only
  split
  · unfold signum
    split
    · rw [neg_one_mul, Real.cos_neg]
      exact Real.cos_pi_div_two.ge
    · rw [one_mul]
      exact Real.cos_pi_div_two.ge
  · exact Real.cos_arcsin_nonneg _

/-- The roll and pitch read off a unit quaternion bring down to where it brings it. -/
theorem toEulerRad_down {m : Madgwick ℝ} (h : m.q.IsUnit) (yaw : ℝ) :
    rotate (star (euler m.toEulerRad.1 m.toEulerRad.2.1 yaw)) (vec 0 0 1) =
      rotate (star m.q.rotation) (vec 0 0 1) := by
  obtain ⟨⟨w, x, y, z⟩, beta⟩ := m
  have hq : w * w + x * x + y * y + z * z = 1 := h
  -- the three coordinates of down in the body
  have htwo : (2.0 : ℝ) = 2 := by norm_num
  obtain ⟨s, hs⟩ : ∃ s, s = 2 * (w * y - z * x) := ⟨_, rfl⟩
  obtain ⟨gy, hgy⟩ : ∃ gy, gy = 2 * (w * x + y * z) := ⟨_, rfl⟩
  obtain ⟨gz, hgz⟩ : ∃ gz, gz = 1 - 2 * (x * x + y * y) := ⟨_, rfl⟩
  have hlength : gy * gy + gz * gz = 1 - s ^ 2 := by
    rw [hs, hgy, hgz]
    linear_combination 4 * (x * x + y * y) * hq
  obtain ⟨hsin, hcos⟩ := pitch_spec (s := s) (by nlinarith [mul_self_nonneg gy, mul_self_nonneg gz])
  obtain ⟨hz, hy⟩ := polar gz gy
  rw [show gz * gz + gy * gy = gy * gy + gz * gz by ring, hlength, ← hcos] at hz hy
  rw [axis_euler]
  unfold toEulerRad Quat.rotation
  dsimp only
  rw [htwo, ← hs, ← hgy, ← hgz, hsin, hy, hz, star_quat, rotate_vec]
  congr 1
  · rw [hs]
    ring
  · rw [hgy]
    ring
  · rw [hgz]
    linear_combination -hq

/-- A seeded yaw is a turn about the vertical, after the attitude there was. -/
theorem seedYawDeg_rotation {m : Madgwick ℝ} (h : m.q.IsUnit) (yawDeg : ℝ) :
    (m.seedYawDeg yawDeg).q.IsUnit ∧
      (m.seedYawDeg yawDeg).q.rotation =
        euler m.toEulerRad.1 m.toEulerRad.2.1 (yawDeg * (Real.pi / 180)) ∧
      ∃ turn, (m.seedYawDeg yawDeg).q.rotation = aboutZ turn * m.q.rotation := by
  obtain ⟨hunit, hrot⟩ : (m.seedYawDeg yawDeg).q.IsUnit ∧ (m.seedYawDeg yawDeg).q.rotation =
      euler m.toEulerRad.1 m.toEulerRad.2.1 (yawDeg * (Real.pi / 180)) := m.setEuler_rotation ..
  refine ⟨hunit, hrot, eq_aboutZ_mul hunit.normSq h.normSq ?_⟩
  rw [hrot, toEulerRad_down h]

/-- **A seeded yaw turns about the vertical.** From every attitude, the gimbal's lock included:
    one turn about the vertical takes what was seen in the old attitude to what is seen in the
    new one, and the nose then points along the course, at the pitch it had. -/
theorem seedYawDeg_turns [Nalgebra ℝ] [Nalgebra.Rotates] {m : Madgwick ℝ} (h : m.q.IsUnit)
    (yawDeg : ℝ) :
    let q := (m.seedYawDeg yawDeg).q
    let course := yawDeg * (Real.pi / 180)
    q.IsUnit ∧
    (∃ turn, ∀ v, rotateBodyToNed q v =
      ⟨Real.cos turn * (rotateBodyToNed m.q v).x - Real.sin turn * (rotateBodyToNed m.q v).y,
        Real.sin turn * (rotateBodyToNed m.q v).x + Real.cos turn * (rotateBodyToNed m.q v).y,
        (rotateBodyToNed m.q v).z⟩) ∧
    ∃ level, 0 ≤ level ∧ rotateBodyToNed q ⟨1, 0, 0⟩ =
      ⟨level * Real.cos course, level * Real.sin course,
        (rotateBodyToNed m.q ⟨1, 0, 0⟩).z⟩ := by
  intro q course
  obtain ⟨hunit, hrot, turn, hturn⟩ : q.IsUnit ∧
      q.rotation = euler m.toEulerRad.1 m.toEulerRad.2.1 course ∧
      ∃ turn, q.rotation = aboutZ turn * m.q.rotation := seedYawDeg_rotation h yawDeg
  have hall : ∀ v, rotateBodyToNed q v =
      ⟨Real.cos turn * (rotateBodyToNed m.q v).x - Real.sin turn * (rotateBodyToNed m.q v).y,
        Real.sin turn * (rotateBodyToNed m.q v).x + Real.cos turn * (rotateBodyToNed m.q v).y,
        (rotateBodyToNed m.q v).z⟩ := by
    intro v
    apply Vec3.vec_injective
    rw [rotateBodyToNed_vec hunit, hturn, rotate_mul, ← rotateBodyToNed_vec h]
    exact rotate_aboutZ turn _ _ _
  refine ⟨hunit, ⟨turn, hall⟩, Real.cos m.toEulerRad.2.1, m.cos_pitch_nonneg, ?_⟩
  have hnose : rotateBodyToNed q ⟨1, 0, 0⟩ =
      ⟨Real.cos m.toEulerRad.2.1 * Real.cos course, Real.cos m.toEulerRad.2.1 * Real.sin course,
        -Real.sin m.toEulerRad.2.1⟩ := by
    apply Vec3.vec_injective
    rw [rotateBodyToNed_vec hunit, hrot]
    exact euler_forward _ _ _
  have hz : -Real.sin m.toEulerRad.2.1 = (rotateBodyToNed m.q ⟨1, 0, 0⟩).z :=
    congrArg Vec3.z (hnose.symm.trans (hall ⟨1, 0, 0⟩))
  rw [hnose, hz]

/-- A level attitude, given a course due east. -/
theorem seedYawDeg_turns_level :
    let turned := quaternionCrate.transformVector ((new 0.05 : Madgwick ℝ).seedYawDeg 90).q
    ∃ level, 0 ≤ level ∧ turned ⟨1, 0, 0⟩ =
      ⟨level * Real.cos (90 * (Real.pi / 180)), level * Real.sin (90 * (Real.pi / 180)),
        (quaternionCrate.transformVector (new 0.05 : Madgwick ℝ).q ⟨1, 0, 0⟩).z⟩ :=
  (@seedYawDeg_turns quaternionCrate quaternionCrate_rotates (new 0.05)
    (by norm_num [Quat.IsUnit, new]) 90).2.2

end Madgwick

end FlyingSquirrel
