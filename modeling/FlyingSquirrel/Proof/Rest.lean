import FlyingSquirrel.Proof.Aiding
import FlyingSquirrel.Proof.Tilt

/-!
# Level and at rest

A vehicle that sits level may vibrate up and down and turn on the spot, its samples may come at
any times at all, and its receiver, when it knows a speed, knows that it is zero. **The
dead-reckoner then keeps it where it is**: in the horizontal plane neither the velocity nor the
position ever moves, and the attitude stays upright.

What carries this is `Level`: everything the dead-reckoner has learned is about the vertical.
-/

set_option autoImplicit false

namespace FlyingSquirrel

open Lib Lib.Rotation Quaternion

/-- The vector is along the vertical. -/
def Vec3.Vertical (v : Vec3 ℝ) : Prop := v.x = 0 ∧ v.y = 0

/-- The rotation is about the vertical. -/
structure Quat.Upright (q : Quat ℝ) : Prop where
  unit : q.IsUnit
  i : q.i = 0
  j : q.j = 0

theorem Quat.Upright.of_rotation {q : Quat ℝ} (hunit : q.IsUnit) {turn : ℝ}
    (h : q.rotation = aboutZ turn) : q.Upright :=
  ⟨hunit, congrArg (fun p : ℍ[ℝ] => p.imI) h, congrArg (fun p : ℍ[ℝ] => p.imJ) h⟩

theorem Quat.Upright.rotation {q : Quat ℝ} (h : q.Upright) : ∃ turn, q.rotation = aboutZ turn := by
  obtain ⟨w, i, j, k⟩ := q
  obtain ⟨hunit, rfl, rfl⟩ := h
  have hunit : w * w + 0 * 0 + 0 * 0 + k * k = 1 := hunit
  exact exists_aboutZ (by linarith)

/-- What is vertical stays as it is, both ways. -/
theorem Quat.Upright.rotate [Nalgebra ℝ] [Nalgebra.Rotates] {q : Quat ℝ} (h : q.Upright)
    {v : Vec3 ℝ} (hv : v.Vertical) :
    rotateBodyToNed q v = v ∧ rotateNedToBody q v = v := by
  obtain ⟨x, y, z⟩ := v
  obtain ⟨rfl, rfl⟩ := hv
  obtain ⟨turn, hturn⟩ := h.rotation
  have hkeep : ∀ turn, Rotation.rotate (aboutZ turn) (vec 0 0 z) = vec 0 0 z := by
    intro turn
    rw [rotate_aboutZ]
    congr 1 <;> ring
  constructor
  · apply Vec3.vec_injective
    rw [rotateBodyToNed_vec h.unit, hturn]
    exact hkeep turn
  · apply Vec3.vec_injective
    rw [rotateNedToBody_vec h.unit, hturn, star_aboutZ]
    exact hkeep (-turn)

namespace Madgwick

theorem seedYawDeg_upright {m : Madgwick ℝ} (h : m.q.Upright) (yawDeg : ℝ) :
    (m.seedYawDeg yawDeg).q.Upright := by
  obtain ⟨hunit, -, turn, hturn⟩ := seedYawDeg_rotation h.unit yawDeg
  obtain ⟨before, hbefore⟩ := h.rotation
  have hboth : (m.seedYawDeg yawDeg).q.rotation = aboutZ (turn + before) := by
    rw [hturn, hbefore, aboutZ_mul]
  exact .of_rotation hunit hboth

/-- A level reading initialises the attitude upright. -/
theorem initFromAccel_upright (m : Madgwick ℝ) {a : Vec3 ℝ} (ha : a.Vertical) (hz : a.z ≤ 0) :
    (m.initFromAccel a).q.Upright := by
  have hangle : ∀ {x : ℝ}, 0 ≤ x → Libm.atan2 (0 : ℝ) x = 0 := fun hx =>
    Complex.arg_ofReal_of_nonneg hx
  obtain ⟨x, y, z⟩ := a
  obtain ⟨rfl, rfl⟩ := ha
  obtain ⟨n, hn, hpos⟩ : ∃ n, max (Real.sqrt (-0 * -0 + -0 * -0 + -z * -z)) 1e-6 = n ∧ 0 < n :=
    ⟨_, rfl, lt_of_lt_of_le (by norm_num) (le_max_right _ _)⟩
  have hinit : m.initFromAccel ⟨0, 0, z⟩ = m.setEuler (Libm.atan2 (-(-0 / n)) (-z / n))
      (Libm.atan2 (-0 / n) (Libm.sqrt (-0 / n * (-0 / n) + -z / n * (-z / n)))) 0 := by
    rw [← hn]
    rfl
  rw [neg_zero, zero_div, neg_zero, hangle (div_nonneg (neg_nonneg.mpr hz) hpos.le),
    hangle (show 0 ≤ Libm.sqrt _ from Real.sqrt_nonneg _)] at hinit
  obtain ⟨hunit, hrot⟩ := m.setEuler_rotation 0 0 0
  have hlevel : euler 0 0 0 = aboutZ 0 := by
    unfold euler
    rw [aboutX_zero, aboutY_zero, mul_one, mul_one]
  rw [hinit]
  exact .of_rotation hunit (hrot.trans hlevel)

/-- An upright attitude takes a vertical reading for no error. -/
theorem gradientCorrection_upright (w k beta : ℝ) {a : Vec3 ℝ} (ha : a.Vertical)
    (qdot : Quat ℝ) : gradientCorrection ⟨w, 0, 0, k⟩ beta a qdot = qdot := by
  obtain ⟨x, y, z⟩ := a
  obtain ⟨rfl, rfl⟩ := ha
  unfold gradientCorrection
  simp

/-- A filter step on a vertical reading, turning about the vertical: the gradient is zero, and the
    gyro turns the attitude about the vertical. -/
theorem update_upright {m : Madgwick ℝ} (h : m.q.Upright) {accel gyro : Vec3 ℝ}
    (ha : accel.Vertical) (hg : gyro.Vertical) (dt : ℝ) :
    (m.updateWithLinAccel accel gyro dt ⟨0, 0, 0⟩).q.Upright := by
  obtain ⟨⟨w, i, j, k⟩, beta⟩ := m
  obtain ⟨hunit, rfl, rfl⟩ := h
  obtain ⟨ax, ay, az⟩ := accel
  obtain ⟨rfl, rfl⟩ := ha
  obtain ⟨gx, gy, gz⟩ := gyro
  obtain ⟨rfl, rfl⟩ := hg
  have hunit : w * w + 0 * 0 + 0 * 0 + k * k = 1 := hunit
  -- before it is normalised, and its length
  obtain ⟨raw, hraw, hi, hj, hlen⟩ : ∃ raw : Quat ℝ,
      updateWithLinAccel ⟨⟨w, 0, 0, k⟩, beta⟩ ⟨0, 0, az⟩ ⟨0, 0, gz⟩ dt ⟨0, 0, 0⟩ =
        normalize ⟨raw, beta⟩ ∧ raw.i = 0 ∧ raw.j = 0 ∧ 1 ≤ raw.length := by
    refine ⟨⟨w + 0.5 * (-k * gz) * dt, 0, 0, k + 0.5 * (w * gz) * dt⟩, ?_, rfl, rfl, ?_⟩
    · unfold updateWithLinAccel
      dsimp only
      rw [gradientCorrection_upright _ _ _ ⟨by simp, by simp⟩, ite_self]
      simp
    · unfold Quat.length
      rw [Real.one_le_sqrt]
      nlinarith [mul_self_nonneg (gz * dt)]
  rw [hraw]
  refine ⟨normalize_isUnit _ (le_trans (by norm_num) hlen), ?_, ?_⟩
  · rw [normalize_q]
    show raw.i / _ = 0
    rw [hi, zero_div]
  · rw [normalize_q]
    show raw.j / _ = 0
    rw [hj, zero_div]

end Madgwick

/-- The sample is one of a vehicle that sits level: the specific force is vertical, and so is the
    rate of turn. -/
structure LevelSample (sample : ImuSample ℝ) : Prop where
  accel : sample.accelMps2.Vertical
  up : sample.accelMps2.z ≤ 0
  gyro : sample.gyroRps.Vertical

/-- A receiver that knows a speed knows that it is zero. -/
def NavOp.AtRest : NavOp ℝ → Prop
  | .step sample => LevelSample sample
  | .onGpsFix fix => ∀ speed ∈ fix.speedMps, speed = 0
  | .setState _ | .reAnchorAfterClearing _ => True

namespace DeadReckoner

/-! ## The invariant -/

/-- Everything learned is about the vertical, and nothing has moved in the horizontal plane. -/
structure Level (m : DeadReckoner ℝ) : Prop where
  attitude : m.attitude.q.Upright
  sum : m.staticInitAccelSum.Vertical
  sumZ : m.staticInitAccelSum.z ≤ 0
  biasGyro : m.bias.gyro.Vertical
  biasAccel : m.bias.accelNed.Vertical
  velN : m.strapdown.vel.n = 0
  velE : m.strapdown.vel.e = 0
  posN : m.strapdown.pos.n = 0
  posE : m.strapdown.pos.e = 0
  lastA : ∀ a ∈ m.strapdown.lastA, a.Vertical
  aidingN : m.aidingN = 0
  aidingE : m.aidingE = 0

variable {m : DeadReckoner ℝ}

theorem Level.new (cfg : NavConfig ℝ) (boot : Instant) : Level (.new cfg boot) where
  attitude := ⟨by norm_num [DeadReckoner.new, Madgwick.new, Quat.IsUnit], rfl, rfl⟩
  sum := ⟨rfl, rfl⟩
  sumZ := le_refl 0
  biasGyro := ⟨rfl, rfl⟩
  biasAccel := ⟨rfl, rfl⟩
  velN := rfl
  velE := rfl
  posN := rfl
  posE := rfl
  lastA := by simp [DeadReckoner.new, Strapdown.new]
  aidingN := rfl
  aidingE := rfl

theorem Level.setAttitude (h : Level m) {attitude : Madgwick ℝ} (ha : attitude.q.Upright)
    (seeded : Bool) : Level { m with attitude := attitude, yawSeededFromGps := seeded } :=
  { h with attitude := ha }

/-! ## A fix -/

theorem gpsVelocity_rest {fix : GpsFix ℝ} (h : ∀ speed ∈ fix.speedMps, speed = 0)
    {v : NedVel ℝ} (hv : gpsVelocity fix = some v) : v.n = 0 ∧ v.e = 0 := by
  unfold gpsVelocity at hv
  split at hv
  · rename_i speed course hspeed hcourse
    have hzero : speed = 0 := h speed hspeed
    rw [← Option.some.inj hv, hzero]
    exact ⟨zero_mul _, zero_mul _⟩
  · exact absurd hv (by simp)

theorem Level.seedYaw (h : Level m) (fix : GpsFix ℝ) : Level (m.seedYaw fix) := by
  unfold DeadReckoner.seedYaw
  split
  · exact h
  · split
    · split
      · exact h.setAttitude (Madgwick.seedYawDeg_upright h.attitude _) true
      · exact h
    · exact h

theorem Level.anchorAt (h : Level m) {fix : GpsFix ℝ}
    (hs : ∀ speed ∈ fix.speedMps, speed = 0) : Level (m.anchorAt fix) := by
  unfold DeadReckoner.anchorAt
  cases hv : gpsVelocity fix with
  | none =>
    exact { h with
      velN := rfl, velE := rfl, posN := rfl, posE := rfl, aidingN := rfl, aidingE := rfl
      lastA := by simp [Strapdown.reset, Strapdown.new] }
  | some v =>
    obtain ⟨hn, he⟩ := gpsVelocity_rest hs hv
    exact { h with
      velN := hn, velE := he, posN := rfl, posE := rfl, aidingN := rfl, aidingE := rfl
      lastA := by simp [Strapdown.reset, Strapdown.new, Strapdown.setVel] }

theorem Level.blend (h : Level m) {fix : GpsFix ℝ} (hs : ∀ speed ∈ fix.speedMps, speed = 0)
    (dt : ℝ) : Level (m.blend fix dt) := by
  unfold DeadReckoner.blend
  cases hv : gpsVelocity fix with
  | none => exact h
  | some v =>
    obtain ⟨hn, he⟩ := gpsVelocity_rest hs hv
    have hcn : ∀ alpha : ℝ, alpha * (v.n - m.strapdown.vel.n) = 0 := by
      intro alpha
      rw [hn, h.velN, sub_zero, mul_zero]
    have hce : ∀ alpha : ℝ, alpha * (v.e - m.strapdown.vel.e) = 0 := by
      intro alpha
      rw [he, h.velE, sub_zero, mul_zero]
    exact { h with
      velN := by
        show m.strapdown.vel.n + _ = 0
        rw [hcn, h.velN, add_zero]
      velE := by
        show m.strapdown.vel.e + _ = 0
        rw [hce, h.velE, add_zero]
      aidingN := by
        show m.aidingN + _ = 0
        rw [hcn, h.aidingN, add_zero]
      aidingE := by
        show m.aidingE + _ = 0
        rw [hce, h.aidingE, add_zero] }

theorem Level.onGpsFix (h : Level m) {fix : GpsFix ℝ}
    (hs : ∀ speed ∈ fix.speedMps, speed = 0) : Level (m.onGpsFix fix) := by
  have hnoted : Level { m with lastGpsMono := some (m.monoSecs fix.t.mono) } := { h with }
  have hseeded := hnoted.seedYaw fix
  unfold DeadReckoner.onGpsFix
  dsimp only
  split
  · exact hseeded.anchorAt hs
  · split
    · exact hseeded.blend hs _
    · exact hseeded

/-! ## A sample -/

theorem Level.observe (h : Level m) {sample : ImuSample ℝ} (hs : LevelSample sample) (dt : ℝ)
    (allow : Bool) :
    (m.bias.observe sample.accelMps2 sample.gyroRps dt allow).gyro.Vertical ∧
      (m.bias.observe sample.accelMps2 sample.gyroRps dt allow).accelNed.Vertical := by
  obtain ⟨hx, hy⟩ := h.biasGyro
  obtain ⟨hsx, hsy⟩ := hs.gyro
  unfold BiasEstimator.observe
  dsimp only
  split
  · split
    · refine ⟨⟨?_, ?_⟩, h.biasAccel⟩
      · show (1 - m.bias.alpha) * m.bias.gyro.x + m.bias.alpha * sample.gyroRps.x = 0
        rw [hx, hsx, mul_zero, mul_zero, add_zero]
      · show (1 - m.bias.alpha) * m.bias.gyro.y + m.bias.alpha * sample.gyroRps.y = 0
        rw [hy, hsy, mul_zero, mul_zero, add_zero]
    · exact ⟨h.biasGyro, h.biasAccel⟩
  · exact ⟨h.biasGyro, h.biasAccel⟩

/-- A rate and a velocity along the vertical need no centripetal acceleration. -/
theorem boundCentripetal_zero : boundCentripetal (⟨0, 0, 0⟩ : Vec3 ℝ) = ⟨0, 0, 0⟩ := by
  have hmag : (Libm.sqrt (0 * 0 + 0 * 0 + 0 * 0) : ℝ) = 0 := by
    show Real.sqrt _ = 0
    rw [mul_zero, add_zero, add_zero, Real.sqrt_zero]
  unfold boundCentripetal
  dsimp only
  rw [hmag, isFinite_field, if_neg (by decide), if_neg]
  unfold maxCentripetalMps2
  norm_num

theorem centripetal_vertical {g v : Vec3 ℝ} (hg : g.Vertical) (hv : v.Vertical) :
    boundCentripetal ⟨g.y * v.z - g.z * v.y, g.z * v.x - g.x * v.z, g.x * v.y - g.y * v.x⟩ =
      ⟨0, 0, 0⟩ := by
  obtain ⟨x, y, z⟩ := g
  obtain ⟨rfl, rfl⟩ := hg
  obtain ⟨x', y', z'⟩ := v
  obtain ⟨rfl, rfl⟩ := hv
  simp only [zero_mul, mul_zero, sub_zero]
  exact boundCentripetal_zero

theorem correct_vertical {b : BiasEstimator ℝ} (hb : b.accelNed.Vertical) {aLin : Vec3 ℝ}
    (ha : aLin.Vertical) (allow : Bool) :
    (b.correctAndUpdateAccelNed aLin allow).1.accelNed.Vertical ∧
      (b.correctAndUpdateAccelNed aLin allow).1.gyro = b.gyro ∧
      (b.correctAndUpdateAccelNed aLin allow).2.Vertical := by
  obtain ⟨hbx, hby⟩ := hb
  obtain ⟨hx, hy⟩ := ha
  have hcx : aLin.x - b.accelNed.x = 0 := by rw [hx, hbx, sub_zero]
  have hcy : aLin.y - b.accelNed.y = 0 := by rw [hy, hby, sub_zero]
  unfold BiasEstimator.correctAndUpdateAccelNed
  dsimp only
  split
  · refine ⟨⟨?_, ?_⟩, rfl, hcx, hcy⟩
    · dsimp only
      rw [hcx, hbx]
      ring
    · dsimp only
      rw [hcy, hby]
      ring
  · exact ⟨⟨hbx, hby⟩, rfl, hcx, hcy⟩

theorem Level.integrate (h : Level m) {b : BiasEstimator ℝ} (hb : b.accelNed.Vertical)
    (hg : b.gyro.Vertical) {a : Vec3 ℝ} (ha : a.Vertical) (dt : ℝ) :
    Level { m with bias := b, strapdown := m.strapdown.integrate a dt } := by
  obtain ⟨hx, hy⟩ := ha
  obtain ⟨hpx, hpy⟩ : (m.strapdown.lastA.getD a).Vertical := by
    cases hlast : m.strapdown.lastA with
    | none => exact ⟨hx, hy⟩
    | some prev => exact h.lastA prev hlast
  have hn : (m.strapdown.integrate a dt).vel.n = 0 := by
    show m.strapdown.vel.n + 0.5 * ((m.strapdown.lastA.getD a).x + a.x) * dt = 0
    rw [h.velN, hpx, hx]
    ring
  have he : (m.strapdown.integrate a dt).vel.e = 0 := by
    show m.strapdown.vel.e + 0.5 * ((m.strapdown.lastA.getD a).y + a.y) * dt = 0
    rw [h.velE, hpy, hy]
    ring
  exact { h with
    biasGyro := hg
    biasAccel := hb
    velN := hn
    velE := he
    posN := by
      show m.strapdown.pos.n +
        0.5 * (m.strapdown.vel.n + (m.strapdown.integrate a dt).vel.n) * dt = 0
      rw [h.posN, h.velN, hn]
      ring
    posE := by
      show m.strapdown.pos.e +
        0.5 * (m.strapdown.vel.e + (m.strapdown.integrate a dt).vel.e) * dt = 0
      rw [h.posE, h.velE, he]
      ring
    lastA := by
      intro prev hprev
      rw [← Option.some.inj (show some a = some prev from hprev)]
      exact ⟨hx, hy⟩ }

theorem Level.finishStaticInit (h : Level m) : Level m.finishStaticInit := by
  obtain ⟨hx, hy⟩ := h.sum
  have hmean : Quat.Upright (m.attitude.initFromAccel
      ⟨m.staticInitAccelSum.x / (m.staticInitAccum : ℝ),
        m.staticInitAccelSum.y / (m.staticInitAccum : ℝ),
        m.staticInitAccelSum.z / (m.staticInitAccum : ℝ)⟩).q := by
    refine Madgwick.initFromAccel_upright _ ⟨?_, ?_⟩ ?_
    · rw [hx, zero_div]
    · rw [hy, zero_div]
    · exact div_nonpos_of_nonpos_of_nonneg h.sumZ (Nat.cast_nonneg _)
  unfold DeadReckoner.finishStaticInit
  dsimp only
  obtain ⟨cfg, hgate⟩ := autoSizeGate_eq { m with
    attitude := m.attitude.initFromAccel
      ⟨m.staticInitAccelSum.x / (m.staticInitAccum : ℝ),
        m.staticInitAccelSum.y / (m.staticInitAccum : ℝ),
        m.staticInitAccelSum.z / (m.staticInitAccum : ℝ)⟩
    initialized := true }
  rw [hgate]
  exact { h with attitude := hmean }

theorem Level.staticInitStep (h : Level m) {sample : ImuSample ℝ} (hs : LevelSample sample)
    (t : ℝ) : Level (m.staticInitStep sample t) := by
  obtain ⟨hx, hy⟩ := h.sum
  obtain ⟨hsx, hsy⟩ := hs.accel
  have hsum : Level { m with
      staticInitTarget :=
        if m.staticInitTarget = 0 then Libm.toNat (max (m.cfg.staticInitS * 100.0) 10.0)
        else m.staticInitTarget
      staticInitFirstMono := m.staticInitFirstMono.or (some t)
      staticInitAccelSum :=
        ⟨m.staticInitAccelSum.x + sample.accelMps2.x,
          m.staticInitAccelSum.y + sample.accelMps2.y,
          m.staticInitAccelSum.z + sample.accelMps2.z⟩
      staticInitAccum := m.staticInitAccum + 1
      lastImuMono := some t } :=
    { h with
      sum := ⟨by rw [hx, hsx, add_zero], by rw [hy, hsy, add_zero]⟩
      sumZ := add_nonpos h.sumZ hs.up }
  exact iteInduction (motive := Level) (fun _ => hsum.finishStaticInit) (fun _ => hsum)

section Turned

variable [Nalgebra ℝ] [Nalgebra.Rotates]

theorem Level.updateAttitude (h : Level m) {sample : ImuSample ℝ} (hs : LevelSample sample)
    (dt : ℝ) (allow : Bool) : Level (m.updateAttitude sample dt allow) := by
  obtain ⟨hgyro, haccel⟩ := h.observe hs dt allow
  have hcorr : Vec3.Vertical ⟨sample.gyroRps.x -
        (m.bias.observe sample.accelMps2 sample.gyroRps dt allow).gyro.x,
      sample.gyroRps.y - (m.bias.observe sample.accelMps2 sample.gyroRps dt allow).gyro.y,
      sample.gyroRps.z - (m.bias.observe sample.accelMps2 sample.gyroRps dt allow).gyro.z⟩ :=
    ⟨by rw [hs.gyro.1, hgyro.1, sub_zero], by rw [hs.gyro.2, hgyro.2, sub_zero]⟩
  have hvel : Vec3.Vertical ⟨m.strapdown.vel.n, m.strapdown.vel.e, m.strapdown.vel.d⟩ :=
    ⟨h.velN, h.velE⟩
  have hturned := Madgwick.update_upright h.attitude hs.accel hcorr dt
  rw [← centripetal_vertical hcorr hvel, ← (h.attitude.rotate hvel).2] at hturned
  exact { h with attitude := hturned, biasGyro := hgyro, biasAccel := haccel }

theorem Level.integratePosition (h : Level m) {sample : ImuSample ℝ} (hs : LevelSample sample)
    (t dt : ℝ) (allow : Bool) : Level (m.integratePosition sample t dt allow).1 := by
  have hned := (h.attitude.rotate hs.accel).1
  have hlin : Vec3.Vertical ⟨(rotateBodyToNed m.attitude.q sample.accelMps2).x,
      (rotateBodyToNed m.attitude.q sample.accelMps2).y,
      (rotateBodyToNed m.attitude.q sample.accelMps2).z + gravity⟩ := by
    rw [hned]
    exact hs.accel
  obtain ⟨hb, hg, ha⟩ := correct_vertical h.biasAccel hlin allow
  exact h.integrate hb (hg ▸ h.biasGyro) ha dt

theorem Level.integrateStep (h : Level m) {sample : ImuSample ℝ} (hs : LevelSample sample)
    (t dt : ℝ) : Level (m.integrateStep sample t dt).1 := by
  have hnoted : Level { m with
      lastImuMono := some t, consecutiveImuSkips := 0, imuStarvationWarned := false } := { h with }
  have hturned := hnoted.updateAttitude hs dt (decide (m.state = .normal))
  unfold DeadReckoner.integrateStep
  dsimp only
  split
  · exact hturned
  · exact hturned.integratePosition hs t dt _

/-- **The step lemma.** -/
theorem Level.step (h : Level m) {sample : ImuSample ℝ} (hs : LevelSample sample) :
    Level (m.step sample).1 := by
  rw [step_eq]
  split
  · exact h.staticInitStep hs _
  · split
    · exact { h with }
    · exact { h with }
    · exact h.integrateStep hs _ _

theorem Level.opStep (h : Level m) {op : NavOp ℝ} (hop : op.AtRest) : Level (m.opStep op).1 := by
  cases op with
  | step sample => exact h.step hop
  | onGpsFix fix => exact h.onGpsFix hop
  | setState state => exact { h with }
  | reAnchorAfterClearing fix =>
    exact { h with posN := rfl, posE := rfl, aidingN := rfl, aidingE := rfl }

/-- **A level vehicle is dead-reckoned in place.** -/
theorem stays_put (cfg : NavConfig ℝ) (boot : Instant) {ops : List (NavOp ℝ)}
    (hrest : ∀ op ∈ ops, op.AtRest) :
    let m := run opStep (.new cfg boot) ops
    m.drPos.n = 0 ∧ m.drPos.e = 0 ∧ m.strapdown.vel.n = 0 ∧ m.strapdown.vel.e = 0 ∧
    m.aidingVel = ⟨0, 0, 0⟩ ∧
    ∀ z : ℝ, rotateBodyToNed m.attitude.q ⟨0, 0, z⟩ = ⟨0, 0, z⟩ := by
  intro m
  have hall : Along opStep (fun _ op => NavOp.AtRest op) (.new cfg boot) ops :=
    along_of_forall hrest
  have h : Level m := hall.invariant (fun m op hop h => h.opStep hop) (Level.new cfg boot)
  refine ⟨h.posN, h.posE, h.velN, h.velE, ?_, fun z => (h.attitude.rotate ⟨rfl, rfl⟩).1⟩
  unfold aidingVel
  rw [h.aidingN, h.aidingE]

end Turned

/-- Four seconds of turning on the spot, sampled every ten milliseconds, with a fix after three of
    them, and another at the end, that have a course and no speed. -/
def turning : List (NavOp ℝ) :=
  let samples (first n : Nat) : List (NavOp ℝ) := (List.range n).map fun k =>
    .step ⟨⟨(first + k) * 10000000, none⟩, ⟨0, 0, -9.80665⟩, ⟨0, 0, 0.5⟩⟩
  let fix (ms : Nat) : NavOp ℝ :=
    .onGpsFix ⟨⟨ms * 1000000, none⟩, 47, 8, 450, some 0, some 90, none, none⟩
  samples 0 300 ++ fix 3000 :: samples 301 100 ++ [fix 4015]

theorem turning_atRest : ∀ op ∈ turning, op.AtRest := by
  have hsample : ∀ t : Timestamp, LevelSample ⟨t, ⟨0, 0, -9.80665⟩, ⟨0, 0, 0.5⟩⟩ := by
    intro t
    exact ⟨⟨rfl, rfl⟩, by norm_num, ⟨rfl, rfl⟩⟩
  have hsamples : ∀ first n : Nat, ∀ op ∈ (List.range n).map fun k =>
      NavOp.step ⟨⟨(first + k) * 10000000, none⟩, ⟨0, 0, -9.80665⟩, ⟨0, 0, 0.5⟩⟩,
      op.AtRest := by
    intro first n op hop
    obtain ⟨k, -, rfl⟩ := List.mem_map.mp hop
    exact hsample _
  have hfix : ∀ t : Timestamp,
      NavOp.AtRest (.onGpsFix ⟨t, 47, 8, 450, some 0, some 90, none, none⟩) := by
    intro t speed hspeed
    exact (Option.some.inj hspeed).symm
  intro op hop
  rcases List.mem_append.mp hop with hop | hop
  · rcases List.mem_append.mp hop with hop | hop
    · exact hsamples _ _ op hop
    · rcases List.mem_cons.mp hop with rfl | hop
      · exact hfix _
      · exact hsamples _ _ op hop
  · rw [List.mem_singleton.mp hop]
    exact hfix _

theorem stays_put_turning :
    letI := quaternionCrate
    let m := run opStep (.new NavConfig.default 0) turning
    m.drPos.n = 0 ∧ m.drPos.e = 0 ∧ m.strapdown.vel.n = 0 ∧ m.strapdown.vel.e = 0 ∧
    m.aidingVel = ⟨0, 0, 0⟩ ∧
    ∀ z : ℝ, rotateBodyToNed m.attitude.q ⟨0, 0, z⟩ = ⟨0, 0, z⟩ :=
  @stays_put quaternionCrate quaternionCrate_rotates NavConfig.default 0 turning turning_atRest

end DeadReckoner

end FlyingSquirrel
