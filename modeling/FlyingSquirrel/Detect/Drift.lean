import FlyingSquirrel.Detect.Config
import FlyingSquirrel.Detect.Residual

/-!
# The drift detector (`detect/drift.rs`)

Six one-sided CUSUM lanes over one residual: a positive and a negative sum for each
horizontal axis, one over the magnitude, and one over the free-inertial velocity residual.
Each lane subtracts a reference that is at least a multiple of a learned noise floor.

`evaluate` is a chain of stages and each stage is a definition: the finiteness guard, the
warm-up (which learns the floors and holds every sum at zero), `learnFloors`, `accumulate`,
and `fired`. Widening on bad signal quality touches only the thresholds that `fired` reads.
-/

namespace FlyingSquirrel

open Lib

structure CusumState (α : Type) where
  sPosN : α
  sNegN : α
  sPosE : α
  sNegE : α
  sMag : α
  sVelAiding : α
deriving Repr

def CusumState.default {α : Type} [Zero α] : CusumState α := ⟨0, 0, 0, 0, 0, 0⟩

inductive DriftReason
  | northPositive
  | northNegative
  | eastPositive
  | eastNegative
  | magnitude
  | velocityAiding
deriving DecidableEq, Repr

/-- The derived `Debug` text, which the events carry. -/
def DriftReason.debug : DriftReason → String
  | .northPositive => "NorthPositive"
  | .northNegative => "NorthNegative"
  | .eastPositive => "EastPositive"
  | .eastNegative => "EastNegative"
  | .magnitude => "Magnitude"
  | .velocityAiding => "VelocityAiding"

structure DriftDetector (α : Type) where
  cfg : DetectConfig α
  state : CusumState α
  magNoiseEwma : α
  axisNoiseN : α
  axisNoiseE : α
  velAidingNoise : α
  warmup : Nat
deriving Repr

namespace DriftDetector

section Model

variable {α : Type} [Zero α] [One α] [Neg α] [Add α] [Sub α] [Mul α] [Div α] [NatCast α]
  [OfScientific α] [LT α] [LE α] [DecidableLT α] [DecidableLE α] [BEq α] [Max α]
  [FiniteTest α]

def magNoiseAlpha : α := 0.05
def magNoiseFactor : α := 1.5
def axisNoiseAlpha : α := 0.05
def axisNoiseFactor : α := 2.5
def velAidingNoiseAlpha : α := 0.008
def velAidingNoiseFactor : α := 2.0

/-- Number of fixes the noise floors are learnt over before the sums are armed. -/
def warmupFixes : Nat := 20

def new (cfg : DetectConfig α) : DriftDetector α :=
  ⟨cfg, CusumState.default, 0, 0, 0, 0, 0⟩

def magNoiseFloor (d : DriftDetector α) : α := d.magNoiseEwma

/-- Clear the sums. The floors and the warm-up counter describe the environment, not an
    attack, and stay. -/
def reset (d : DriftDetector α) : DriftDetector α := { d with state := CusumState.default }

/-- The guard against a residual with an undefined component. -/
def finiteResidual (r : Residual α) : Bool :=
  isFinite r.dpos.n && isFinite r.dpos.e && isFinite r.magPos && isFinite r.magVelFree

/-- One warm-up fix: running means of the floors, every sum held at zero. -/
def warmUp (d : DriftDetector α) (r : Residual α) : DriftDetector α :=
  let w : α := ((d.warmup + 1 : Nat) : α)
  { d with
    warmup := d.warmup + 1
    axisNoiseN := d.axisNoiseN + (fabs r.dpos.n - d.axisNoiseN) / w
    axisNoiseE := d.axisNoiseE + (fabs r.dpos.e - d.axisNoiseE) / w
    magNoiseEwma := d.magNoiseEwma + (r.magPos - d.magNoiseEwma) / w
    velAidingNoise :=
      if r.dvelKnown = true ∧ r.maneuvering = false ∧
          r.magVelFree < d.cfg.velAidingCusumKMps then
        d.velAidingNoise + (r.magVelFree - d.velAidingNoise) / w
      else d.velAidingNoise
    state := CusumState.default }

/-- Update each floor by its moving average, but only while its lane is quiescent. -/
def learnFloors (d : DriftDetector α) (r : Residual α) : DriftDetector α :=
  { d with
    axisNoiseN :=
      if d.state.sPosN == 0 && d.state.sNegN == 0 then
        (1 - axisNoiseAlpha) * d.axisNoiseN + axisNoiseAlpha * fabs r.dpos.n
      else d.axisNoiseN
    axisNoiseE :=
      if d.state.sPosE == 0 && d.state.sNegE == 0 then
        (1 - axisNoiseAlpha) * d.axisNoiseE + axisNoiseAlpha * fabs r.dpos.e
      else d.axisNoiseE
    magNoiseEwma :=
      if d.state.sMag ≤ 0 then
        (1 - magNoiseAlpha) * d.magNoiseEwma + magNoiseAlpha * r.magPos
      else d.magNoiseEwma
    velAidingNoise :=
      if r.dvelKnown = true ∧ r.maneuvering = false ∧ d.state.sVelAiding ≤ 0 ∧
          r.magVelFree < d.cfg.velAidingCusumKMps then
        (1 - velAidingNoiseAlpha) * d.velAidingNoise + velAidingNoiseAlpha * r.magVelFree
      else d.velAidingNoise }

/-- Add the fix to every lane, each above its own effective reference. The
    velocity-aiding lane holds while maneuvering or without Doppler. -/
def accumulate (d : DriftDetector α) (r : Residual α) : DriftDetector α :=
  let effKN := max d.cfg.cusumKM (d.axisNoiseN * axisNoiseFactor)
  let effKE := max d.cfg.cusumKM (d.axisNoiseE * axisNoiseFactor)
  let effKMag := max d.cfg.magCusumKM (d.magNoiseEwma * magNoiseFactor)
  let effKVel := max d.cfg.velAidingCusumKMps (d.velAidingNoise * velAidingNoiseFactor)
  { d with
    state :=
      { sPosN := max (d.state.sPosN + r.dpos.n - effKN) 0
        sNegN := max (d.state.sNegN - r.dpos.n - effKN) 0
        sPosE := max (d.state.sPosE + r.dpos.e - effKE) 0
        sNegE := max (d.state.sNegE - r.dpos.e - effKE) 0
        sMag := max (d.state.sMag + r.magPos - effKMag) 0
        sVelAiding :=
          if r.dvelKnown = true ∧ r.maneuvering = false then
            max (d.state.sVelAiding + r.magVelFree - effKVel) 0
          else d.state.sVelAiding } }

/-- The first lane at or above its threshold, in the source's order. -/
def fired (d : DriftDetector α) (h hMag : α) : Option DriftReason :=
  if d.state.sPosN ≥ h then some .northPositive
  else if d.state.sNegN ≥ h then some .northNegative
  else if d.state.sPosE ≥ h then some .eastPositive
  else if d.state.sNegE ≥ h then some .eastNegative
  else if d.state.sMag ≥ hMag then some .magnitude
  else if d.state.sVelAiding ≥ d.cfg.velAidingCusumH then some .velocityAiding
  else none

/-- A threshold, widened when both quality fields are bad. -/
def widened (d : DriftDetector α) (hdop : Option α) (sats : Option Nat) (h : α) : α :=
  if d.cfg.qualityBad hdop sats then h * 1.5 else h

def evaluate (d : DriftDetector α) (r : Residual α) (hdop : Option α)
    (sats : Option Nat) : DriftDetector α × Option DriftReason :=
  let h := d.widened hdop sats d.cfg.cusumHM
  let hMag := d.widened hdop sats d.cfg.magCusumHM
  if finiteResidual r = false then (d, none)
  else if d.warmup < warmupFixes then (d.warmUp r, none)
  else
    let d' := (d.learnFloors r).accumulate r
    (d', d'.fired h hMag)

end Model

/-! ## What `evaluate` leaves alone -/

section Api

variable {α : Type} [Zero α]

@[simp] theorem new_cfg (cfg : DetectConfig α) : (new cfg).cfg = cfg := rfl

@[simp] theorem reset_cfg (d : DriftDetector α) : d.reset.cfg = d.cfg := rfl

@[simp] theorem reset_state (d : DriftDetector α) :
    d.reset.state = CusumState.default := rfl

end Api

/-- The three things a fix can do to the detector: nothing, a warm-up step, or a learning
    and accumulating step whose sums then decide what fires. -/
theorem evaluate_cases {α : Type} [Zero α] [One α] [Neg α] [Add α] [Sub α] [Mul α] [Div α]
    [NatCast α] [OfScientific α] [LT α] [LE α] [DecidableLT α] [DecidableLE α] [BEq α]
    [Max α] [FiniteTest α] (d : DriftDetector α) (r : Residual α) (hdop : Option α)
    (sats : Option Nat) :
    d.evaluate r hdop sats = (d, none) ∨
    (d.warmup < warmupFixes ∧ d.evaluate r hdop sats = (d.warmUp r, none)) ∨
    (warmupFixes ≤ d.warmup ∧ finiteResidual r = true ∧
      (d.evaluate r hdop sats).1 = (d.learnFloors r).accumulate r ∧
      (d.evaluate r hdop sats).2 = ((d.learnFloors r).accumulate r).fired
        (d.widened hdop sats d.cfg.cusumHM) (d.widened hdop sats d.cfg.magCusumHM)) := by
  unfold evaluate
  dsimp only
  split
  · exact .inl rfl
  · rename_i hfin
    split
    · rename_i hw; exact .inr (.inl ⟨hw, rfl⟩)
    · rename_i hw
      exact .inr (.inr ⟨by omega, by simpa using hfin, rfl, rfl⟩)

end DriftDetector

end FlyingSquirrel
