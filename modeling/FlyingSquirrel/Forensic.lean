import FlyingSquirrel.Detect.Residual

/-!
# The forensic ring buffer (`forensic.rs`)

The last `windowS` seconds of the three sensor streams, and the one-shot flag that lets a
process write one dump. The flag is claimed before a write is started and released by a
write that failed.
-/

namespace FlyingSquirrel

open Lib

structure GpsFixRecord (α : Type) where
  tSecs : α
  latDeg : α
  lonDeg : α
  altM : α
  speedMps : Option α
  courseDeg : Option α
  hdop : Option α
  sats : Option Nat

def GpsFixRecord.ofFix {α : Type} (tSecs : α) (f : GpsFix α) : GpsFixRecord α :=
  ⟨tSecs, f.latDeg, f.lonDeg, f.altM, f.speedMps, f.courseDeg, f.hdop, f.sats⟩

structure ImuSampleRecord (α : Type) where
  tSecs : α
  accelMps2 : Vec3 α
  gyroRps : Vec3 α

structure ResidualRecord (α : Type) where
  tSecs : α
  dposN : α
  dposE : α
  magPos : α
  magVel : α
  dvelKnown : Bool
  fsmState : NavStateKind

def ResidualRecord.fromComponents {α : Type} (tSecs : α) (r : Residual α)
    (state : NavStateKind) : ResidualRecord α :=
  ⟨tSecs, r.dpos.n, r.dpos.e, r.magPos, r.magVel, r.dvelKnown, state⟩

inductive ForensicTrigger (α : Type)
  | spoofedTransition (source target : NavStateKind) (residualM : α) (eventDetail : Json α)

structure ForensicSnapshot (α : Type) where
  schemaVersion : Nat
  capturedAtMonoNs : Nat
  windowS : α
  trigger : ForensicTrigger α
  residuals : List (ResidualRecord α)
  gpsFixes : List (GpsFixRecord α)
  imuSamples : List (ImuSampleRecord α)

structure ForensicBuffer (α : Type) where
  gps : List (GpsFixRecord α)
  imu : List (ImuSampleRecord α)
  residuals : List (ResidualRecord α)
  windowS : α
  maxImu : Nat
  maxGps : Nat
  maxResiduals : Nat
  /-- The one dump of the process has been claimed. -/
  dumpFired : Bool

namespace ForensicBuffer

variable {α : Type} [Sub α] [Mul α] [OfScientific α] [LT α] [DecidableLT α] [Libm α]

def new (windowS maxImuRateHz : α) : ForensicBuffer α :=
  let imuCap := max (Libm.toNat (Libm.ceil (windowS * maxImuRateHz * 4.0))) 64
  let gpsCap := max (Libm.toNat (Libm.ceil (windowS * 10.0 * 4.0))) 64
  { gps := [], imu := [], residuals := [], windowS := windowS, maxImu := imuCap,
    maxGps := gpsCap, maxResiduals := gpsCap, dumpFired := false }

/-- Trim a stream from the front: by time, then by count. The source has one copy of this
    loop for each of its three streams. -/
def trim {ρ : Type} (time : ρ → α) (cutoff : α) (maxLen : Nat) (records : List ρ) : List ρ :=
  let recent := records.dropWhile fun front => decide (time front < cutoff)
  recent.drop (recent.length - maxLen)

def pushGps (b : ForensicBuffer α) (tSecs : α) (fix : GpsFix α) : ForensicBuffer α :=
  { b with
    gps := trim (·.tSecs) (tSecs - b.windowS) b.maxGps
      (b.gps ++ [GpsFixRecord.ofFix tSecs fix]) }

def pushImu (b : ForensicBuffer α) (tSecs : α) (sample : ImuSample α) : ForensicBuffer α :=
  { b with
    imu := trim (·.tSecs) (tSecs - b.windowS) b.maxImu
      (b.imu ++ [⟨tSecs, sample.accelMps2, sample.gyroRps⟩]) }

def pushResidual (b : ForensicBuffer α) (tSecs : α) (r : Residual α)
    (state : NavStateKind) : ForensicBuffer α :=
  { b with
    residuals := trim (·.tSecs) (tSecs - b.windowS) b.maxResiduals
      (b.residuals ++ [ResidualRecord.fromComponents tSecs r state]) }

/-- Claim the dump slot: whether this caller won it. -/
def tryClaimDump (b : ForensicBuffer α) : ForensicBuffer α × Bool :=
  ({ b with dumpFired := true }, !b.dumpFired)

/-- Give the slot back after a failed write. -/
def releaseDumpClaim (b : ForensicBuffer α) : ForensicBuffer α :=
  { b with dumpFired := false }

def snapshot (b : ForensicBuffer α) (capturedAtMonoNs : Nat) (trigger : ForensicTrigger α) :
    ForensicSnapshot α where
  schemaVersion := 1
  capturedAtMonoNs := capturedAtMonoNs
  windowS := b.windowS
  trigger := trigger
  residuals := b.residuals
  gpsFixes := b.gps
  imuSamples := b.imu

end ForensicBuffer

end FlyingSquirrel
