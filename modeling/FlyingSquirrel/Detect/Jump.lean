import FlyingSquirrel.Detect.Config
import FlyingSquirrel.Detect.Residual

/-!
# The jump detector (`detect/jump.rs`)

Velocity mismatch first, which must persist, then the hard position residual, which need
not. A fix without Doppler takes one step off the persistence counter instead of leaving
it alone.
-/

set_option autoImplicit false

namespace FlyingSquirrel

inductive JumpReason
  | velocityMismatch
  | hardResidual
deriving DecidableEq, Repr

/-- The derived `Debug` text, which the events carry. -/
def JumpReason.debug : JumpReason → String
  | .velocityMismatch => "VelocityMismatch"
  | .hardResidual => "HardResidual"

structure JumpDetector (α : Type) where
  cfg : DetectConfig α
  consecutiveVmismatch : Nat
deriving Repr

namespace JumpDetector

variable {α : Type} [Mul α] [OfScientific α] [LT α] [DecidableLT α]

def new (cfg : DetectConfig α) : JumpDetector α := ⟨cfg, 0⟩

/-- The thresholds in force on a fix: position jump, velocity mismatch. -/
def scale (d : JumpDetector α) (hdop : Option α) (sats : Option Nat) : α × α :=
  if d.cfg.qualityBad hdop sats then
    (d.cfg.maxJumpM * 2.0, d.cfg.maxVelocityMismatchMps * 1.5)
  else (d.cfg.maxJumpM, d.cfg.maxVelocityMismatchMps)

def countVmismatch (d : JumpDetector α) (r : Residual α) (vmismatchThresh : α) : Nat :=
  if r.dvelKnown then
    if r.magVel > vmismatchThresh then succU8 d.consecutiveVmismatch else 0
  else d.consecutiveVmismatch - 1

def evaluate (d : JumpDetector α) (r : Residual α) (hdop : Option α) (sats : Option Nat) :
    JumpDetector α × Option JumpReason :=
  let (jumpThresh, vmismatchThresh) := d.scale hdop sats
  let count := d.countVmismatch r vmismatchThresh
  let d' := { d with consecutiveVmismatch := count }
  if r.dvelKnown = true ∧ r.magVel > vmismatchThresh ∧ count ≥ d.cfg.jumpPersistFixes then
    (d', some .velocityMismatch)
  else if r.magPos > jumpThresh then (d', some .hardResidual)
  else (d', none)

def reset (d : JumpDetector α) : JumpDetector α := { d with consecutiveVmismatch := 0 }

section

omit [Mul α] [OfScientific α] [LT α] [DecidableLT α]

@[simp] theorem new_cfg (cfg : DetectConfig α) : (new cfg).cfg = cfg := rfl

@[simp] theorem reset_cfg (d : JumpDetector α) : d.reset.cfg = d.cfg := rfl

end

@[simp] theorem evaluate_cfg (d : JumpDetector α) (r : Residual α) (hdop : Option α)
    (sats : Option Nat) : (d.evaluate r hdop sats).1.cfg = d.cfg := by
  unfold evaluate
  dsimp only
  split
  · rfl
  · split <;> rfl

end JumpDetector

end FlyingSquirrel
