import FlyingSquirrel.Lib.Num

/-!
# The detector's configuration (`detect/mod.rs`)

One record of thresholds, shared by the jump detector, the drift detector and the state
machine, each of which keeps its own copy.
-/

namespace FlyingSquirrel

/-- The detector thresholds. Distances in metres, times in seconds, speeds in m/s. -/
structure DetectConfig (α : Type) where
  maxJumpM : α
  maxVelocityMismatchMps : α
  jumpPersistFixes : Nat
  cusumKM : α
  cusumHM : α
  magCusumKM : α
  magCusumHM : α
  suspiciousToSpoofedDwellS : α
  normalClearDwellS : α
  hdopMultipathThreshold : α
  satsLowThreshold : Nat
  gpsDropoutFreezeS : α
  reAnchorMaxDistanceM : α
  maxVerticalRateMps : α
  maxDwellPauseS : α
  velAidingCusumKMps : α
  velAidingCusumH : α
deriving Repr

/-- `DetectConfig::default`. -/
def DetectConfig.default {α : Type} [OfScientific α] : DetectConfig α where
  maxJumpM := 50.0
  maxVelocityMismatchMps := 15.0
  jumpPersistFixes := 2
  cusumKM := 1.0
  cusumHM := 25.0
  magCusumKM := 1.0
  magCusumHM := 30.0
  suspiciousToSpoofedDwellS := 10.0
  normalClearDwellS := 5.0
  hdopMultipathThreshold := 4.0
  satsLowThreshold := 6
  gpsDropoutFreezeS := 2.5
  reAnchorMaxDistanceM := 500.0
  maxVerticalRateMps := 30.0
  maxDwellPauseS := 20.0
  velAidingCusumKMps := 0.55
  velAidingCusumH := 8.0

/-- Both quality fields are reported and both are bad, which widens the detectors' gates.
    One field alone never does. -/
def DetectConfig.qualityBad {α : Type} [LT α] [DecidableLT α] (cfg : DetectConfig α)
    (hdop : Option α) (sats : Option Nat) : Bool :=
  (match hdop with
    | some h => decide (h > cfg.hdopMultipathThreshold)
    | none => false) &&
  (match sats with
    | some s => decide (s < cfg.satsLowThreshold)
    | none => false)

end FlyingSquirrel
