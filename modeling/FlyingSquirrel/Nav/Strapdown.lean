import FlyingSquirrel.Types

/-!
# Strapdown integration and the bias estimator (`nav/strapdown.rs`)

Trapezoidal integration of linear NED acceleration, and the moving averages of the gyro
and acceleration biases that run while the vehicle is quiet.
-/

namespace FlyingSquirrel

open Lib

structure Strapdown (α : Type) where
  pos : NedPos α
  vel : NedVel α
  lastA : Option (Vec3 α)
deriving Repr

namespace Strapdown

variable {α : Type} [Zero α] [Add α] [Mul α] [OfScientific α]

def new : Strapdown α := ⟨NedPos.default, NedVel.default, none⟩

def setPos (s : Strapdown α) (p : NedPos α) : Strapdown α := { s with pos := p }

def setVel (s : Strapdown α) (v : NedVel α) : Strapdown α := { s with vel := v }

def reset (_ : Strapdown α) : Strapdown α := new

def integrate (s : Strapdown α) (aNed : Vec3 α) (dt : α) : Strapdown α :=
  let aPrev := s.lastA.getD aNed
  let ax := 0.5 * (aPrev.x + aNed.x)
  let ay := 0.5 * (aPrev.y + aNed.y)
  let az := 0.5 * (aPrev.z + aNed.z)
  let v0 := s.vel
  let v1 : NedVel α := ⟨v0.n + ax * dt, v0.e + ay * dt, v0.d + az * dt⟩
  { pos := ⟨s.pos.n + 0.5 * (v0.n + v1.n) * dt, s.pos.e + 0.5 * (v0.e + v1.e) * dt,
      s.pos.d + 0.5 * (v0.d + v1.d) * dt⟩
    vel := v1
    lastA := some aNed }

end Strapdown

/-- Gyro bias in the body frame, residual acceleration bias in NED. -/
structure BiasEstimator (α : Type) where
  alpha : α
  accelNed : Vec3 α
  gyro : Vec3 α
  lowMotionSecs : α
  windowTargetS : α
  gNorm : α
deriving Repr

namespace BiasEstimator

variable {α : Type} [Zero α] [One α] [Neg α] [Add α] [Sub α] [Mul α] [OfScientific α]
  [LT α] [LE α] [DecidableLT α] [DecidableLE α] [Libm α]

def new (alpha windowTargetS : α) : BiasEstimator α where
  alpha := alpha
  accelNed := ⟨0, 0, 0⟩
  gyro := ⟨0, 0, 0⟩
  lowMotionSecs := 0
  windowTargetS := windowTargetS
  gNorm := 9.80665

/-- Correct a linear acceleration by the bias; the bias then absorbs the rest of it when
    that is allowed and the quiet window is long enough. -/
def correctAndUpdateAccelNed (b : BiasEstimator α) (aLin : Vec3 α) (allowUpdate : Bool) :
    BiasEstimator α × Vec3 α :=
  let corrected : Vec3 α :=
    ⟨aLin.x - b.accelNed.x, aLin.y - b.accelNed.y, aLin.z - b.accelNed.z⟩
  let ema (bias c : α) : α := (1 - b.alpha) * bias + b.alpha * (bias + c)
  if allowUpdate = true ∧ b.lowMotionSecs ≥ b.windowTargetS then
    ({ b with
        accelNed := ⟨ema b.accelNed.x corrected.x, ema b.accelNed.y corrected.y,
          ema b.accelNed.z corrected.z⟩ },
      corrected)
  else (b, corrected)

/-- Low motion: a small gyro norm and an accelerometer norm close to gravity. -/
def quiet (b : BiasEstimator α) (accel gyro : Vec3 α) : Bool :=
  let gn := Libm.sqrt (gyro.x * gyro.x + gyro.y * gyro.y + gyro.z * gyro.z)
  let an := Libm.sqrt (accel.x * accel.x + accel.y * accel.y + accel.z * accel.z)
  decide (gn < 0.05) && decide (fabs (an - b.gNorm) < 0.3)

/-- Grow or restart the quiet window, and learn the gyro bias once it is long enough. -/
def observe (b : BiasEstimator α) (accel gyro : Vec3 α) (dt : α) (allow : Bool) :
    BiasEstimator α :=
  if b.quiet accel gyro = true ∧ allow = true then
    let b := { b with lowMotionSecs := b.lowMotionSecs + dt }
    let ema (bias g : α) : α := (1 - b.alpha) * bias + b.alpha * g
    if b.lowMotionSecs ≥ b.windowTargetS then
      { b with gyro := ⟨ema b.gyro.x gyro.x, ema b.gyro.y gyro.y, ema b.gyro.z gyro.z⟩ }
    else b
  else { b with lowMotionSecs := 0 }

end BiasEstimator

end FlyingSquirrel
