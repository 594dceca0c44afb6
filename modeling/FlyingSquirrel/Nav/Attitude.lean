import FlyingSquirrel.Types

/-!
# The attitude filter (`nav/attitude.rs`)

The Madgwick filter, IMU-only. The body frame is X forward, Y right, Z down, and the
accelerometer reports **specific force**: a level sensor at rest reads minus `g` on Z.

The rotation of a vector by a quaternion is the linear-algebra crate's, so it is a
parameter: `Nalgebra`. Most theorems assume nothing of it.
-/

namespace FlyingSquirrel

open Lib

structure Quat (α : Type) where
  w : α
  i : α
  j : α
  k : α
deriving DecidableEq, Repr

/-- Rotation by the unit quaternion of `q`, and by its inverse. -/
class Nalgebra (α : Type) where
  transformVector : Quat α → Vec3 α → Vec3 α
  inverseTransformVector : Quat α → Vec3 α → Vec3 α

/-- The two rotations on rationals, for a quaternion of norm one: `v + 2w(u × v) +
    2u × (u × v)`, with the vector part negated for the inverse. -/
def rotateUnit (q : Quat ℚ) (v : Vec3 ℚ) : Vec3 ℚ :=
  let tx := 2 * (q.j * v.z - q.k * v.y)
  let ty := 2 * (q.k * v.x - q.i * v.z)
  let tz := 2 * (q.i * v.y - q.j * v.x)
  ⟨v.x + q.w * tx + (q.j * tz - q.k * ty), v.y + q.w * ty + (q.k * tx - q.i * tz),
    v.z + q.w * tz + (q.i * ty - q.j * tx)⟩

instance : Nalgebra ℚ where
  transformVector := rotateUnit
  inverseTransformVector q v := rotateUnit ⟨q.w, -q.i, -q.j, -q.k⟩ v

structure Madgwick (α : Type) where
  q : Quat α
  beta : α
deriving Repr

section

variable {α : Type} [Nalgebra α]

def rotateBodyToNed (q : Quat α) (v : Vec3 α) : Vec3 α := Nalgebra.transformVector q v

def rotateNedToBody (q : Quat α) (v : Vec3 α) : Vec3 α :=
  Nalgebra.inverseTransformVector q v

end

namespace Madgwick

variable {α : Type} [Zero α] [One α] [Neg α] [Add α] [Sub α] [Mul α] [Div α]
  [OfScientific α] [LT α] [LE α] [DecidableLT α] [DecidableLE α] [Max α] [Libm α]

open Libm

def new (beta : α) : Madgwick α := ⟨⟨1, 0, 0, 0⟩, beta⟩

def normalize (m : Madgwick α) : Madgwick α :=
  let n := max (sqrt (m.q.w * m.q.w + m.q.i * m.q.i + m.q.j * m.q.j + m.q.k * m.q.k)) 1e-9
  { m with q := ⟨m.q.w / n, m.q.i / n, m.q.j / n, m.q.k / n⟩ }

/-- The quaternion of a roll, a pitch and a yaw, which `init_from_accel` and
    `seed_yaw_deg` both build. -/
def setEuler (m : Madgwick α) (roll pitch yaw : α) : Madgwick α :=
  let halfR := roll * 0.5
  let halfP := pitch * 0.5
  let halfY := yaw * 0.5
  let cr := cos halfR
  let sr := sin halfR
  let cp := cos halfP
  let sp := sin halfP
  let cy := cos halfY
  let sy := sin halfY
  normalize { m with
    q := ⟨cr * cp * cy + sr * sp * sy, sr * cp * cy - cr * sp * sy,
      cr * sp * cy + sr * cp * sy, cr * cp * sy - sr * sp * cy⟩ }

/-- Initialise roll and pitch from a static accelerometer reading. -/
def initFromAccel (m : Madgwick α) (accel : Vec3 α) : Madgwick α :=
  let ax := -accel.x
  let ay := -accel.y
  let az := -accel.z
  let n := max (sqrt (ax * ax + ay * ay + az * az)) 1e-6
  let axn := ax / n
  let ayn := ay / n
  let azn := az / n
  let roll := atan2 (-ayn) azn
  let pitch := atan2 axn (sqrt (ayn * ayn + azn * azn))
  m.setEuler roll pitch 0

def toEulerRad (m : Madgwick α) : α × α × α :=
  let w := m.q.w
  let x := m.q.i
  let y := m.q.j
  let z := m.q.k
  let roll := atan2 (2.0 * (w * x + y * z)) (1 - 2.0 * (x * x + y * y))
  let sinp := 2.0 * (w * y - z * x)
  let pitch := if fabs sinp ≥ 1 then signum sinp * fracPi2 else asin sinp
  let yaw := atan2 (2.0 * (w * z + x * y)) (1 - 2.0 * (y * y + z * z))
  (roll, pitch, yaw)

def seedYawDeg (m : Madgwick α) (yawDeg : α) : Madgwick α :=
  let (roll, pitch, _) := m.toEulerRad
  m.setEuler roll pitch (toRadians yawDeg)

/-- The gradient correction of the quaternion derivative, from a non-zero accelerometer
    vector already divided by its norm. -/
def gradientCorrection (q : Quat α) (beta : α) (a : Vec3 α) (qdot : Quat α) : Quat α :=
  let w := q.w
  let x := q.i
  let y := q.j
  let z := q.k
  let fx := 2.0 * (x * z - w * y) + a.x
  let fy := 2.0 * (w * x + y * z) + a.y
  let fz := 1 - 2.0 * (x * x + y * y) + a.z
  let jw := 2.0 * (-y * fx + x * fy + 0 * fz)
  let jx := 2.0 * (z * fx + w * fy - 2.0 * x * fz)
  let jy := 2.0 * (-w * fx + z * fy - 2.0 * y * fz)
  let jz := 2.0 * (x * fx + y * fy + 0 * fz)
  let gn := max (sqrt (jw * jw + jx * jx + jy * jy + jz * jz)) 1e-9
  ⟨qdot.w - beta * jw / gn, qdot.i - beta * jx / gn, qdot.j - beta * jy / gn,
    qdot.k - beta * jz / gn⟩

/-- One filter step, with a body-frame linear acceleration taken off the accelerometer
    before the gravity correction. -/
def updateWithLinAccel (m : Madgwick α) (accel gyro : Vec3 α) (dt : α)
    (linAccelBody : Vec3 α) : Madgwick α :=
  let w := m.q.w
  let x := m.q.i
  let y := m.q.j
  let z := m.q.k
  let qdot : Quat α :=
    ⟨0.5 * (-x * gyro.x - y * gyro.y - z * gyro.z),
      0.5 * (w * gyro.x + y * gyro.z - z * gyro.y),
      0.5 * (w * gyro.y - x * gyro.z + z * gyro.x),
      0.5 * (w * gyro.z + x * gyro.y - y * gyro.x)⟩
  let acc : Vec3 α :=
    ⟨accel.x - linAccelBody.x, accel.y - linAccelBody.y, accel.z - linAccelBody.z⟩
  let an := sqrt (acc.x * acc.x + acc.y * acc.y + acc.z * acc.z)
  let qdot :=
    if an > 1e-3 then
      gradientCorrection m.q m.beta ⟨acc.x / an, acc.y / an, acc.z / an⟩ qdot
    else qdot
  normalize { m with
    q := ⟨w + qdot.w * dt, x + qdot.i * dt, y + qdot.j * dt, z + qdot.k * dt⟩ }

end Madgwick

end FlyingSquirrel
