import FlyingSquirrel.Detect.Residual
import FlyingSquirrel.Nav.Attitude
import FlyingSquirrel.Nav.Strapdown

/-!
# Dead reckoning (`nav/mod.rs`)

`step` takes an IMU sample, `onGpsFix` a GPS fix. Position is relative to `origin`, and the
origin is written in exactly two places:

* `anchorAt`, by `onGpsFix` **while the anchor is not locked**. It locks the anchor if
  static initialisation has finished by then, so the lock needs a fix after it;
* `reAnchorAfterClearing`.

`step` never touches the origin, and neither writer looks at where the fix is: the
plausibility check `isFirstFixPlausible` is a separate function its caller may call.
-/

set_option autoImplicit false

namespace FlyingSquirrel

open Lib

structure NavConfig (α : Type) where
  madgwickBeta : α
  imuBiasWindowS : α
  blendTauS : α
  deadReckonFreezeOnSuspicious : Bool
  biasEmaAlpha : α
  staticInitS : α
  yawFromGpsSpeedMinMps : α
  /-- Where the vehicle should be at boot, as latitude and longitude. -/
  expectedHome : Option (α × α)
  maxHomeDistanceM : α
  maxImuDtS : α
deriving Repr

/-- `NavConfig::default`. -/
def NavConfig.default {α : Type} [OfScientific α] : NavConfig α where
  madgwickBeta := 0.05
  imuBiasWindowS := 5.0
  blendTauS := 3.0
  deadReckonFreezeOnSuspicious := true
  biasEmaAlpha := 0.01
  staticInitS := 1.0
  yawFromGpsSpeedMinMps := 2.0
  expectedHome := none
  maxHomeDistanceM := 1000.0
  maxImuDtS := 0.10

structure DeadReckoner (α : Type) where
  cfg : NavConfig α
  attitude : Madgwick α
  strapdown : Strapdown α
  bias : BiasEstimator α
  /-- Latitude, longitude and altitude of the tangent plane's origin. -/
  origin : Option (α × α × α)
  boot : Instant
  lastImuMono : Option α
  initialized : Bool
  staticInitAccum : Nat
  staticInitTarget : Nat
  staticInitAccelSum : Vec3 α
  staticInitFirstMono : Option α
  state : NavStateKind
  yawSeededFromGps : Bool
  lastGpsMono : Option α
  anchorLocked : Bool
  consecutiveImuSkips : Nat
  imuStarvationWarned : Bool
  /-- Velocity the blend has imported from GPS since the anchor, north and east. -/
  aidingN : α
  aidingE : α
  recentGyroMag : α
deriving Repr

section Projection

variable {α : Type} [Zero α] [Neg α] [Add α] [Sub α] [Mul α] [OfScientific α] [Libm α]
  [LE α] [DecidableLE α]

def rEarthM : α := 6378137.0

def gravity : α := 9.80665

/-- The equirectangular tangent plane at `(lat0, lon0)`. -/
def llaToNed (latDeg lonDeg altM lat0 lon0 : α) : NedPos α :=
  let dlat := Libm.toRadians (latDeg - lat0)
  let dlon := Libm.toRadians (lonDeg - lon0)
  ⟨dlat * rEarthM, dlon * rEarthM * Libm.cos (Libm.toRadians lat0), -altM⟩

/-- Refuse a position further than `maxM` from a reference; the error is the distance. -/
def validateFixAgainstReference (fixNed reference : NedPos α) (maxM : α) :
    Except α Unit :=
  let dn := fixNed.n - reference.n
  let de := fixNed.e - reference.e
  let d := Libm.sqrt (dn * dn + de * de)
  if d ≤ maxM then .ok () else .error d

/-- GPS velocity, known only when speed and course both are. -/
def gpsVelocity (fix : GpsFix α) : Option (NedVel α) :=
  match fix.speedMps, fix.courseDeg with
  | some speed, some courseDeg =>
    let course := Libm.toRadians courseDeg
    some ⟨speed * Libm.cos course, speed * Libm.sin course, 0⟩
  | _, _ => none

end Projection

section Centripetal

variable {α : Type} [Zero α] [Add α] [Mul α] [Div α] [OfScientific α] [LT α] [DecidableLT α]
  [Libm α] [FiniteTest α]

def maxCentripetalMps2 : α := 30.0

/-- Cap the magnitude, keep the direction; an undefined estimate becomes none at all. -/
def boundCentripetal (a : Vec3 α) : Vec3 α :=
  let mag := Libm.sqrt (a.x * a.x + a.y * a.y + a.z * a.z)
  if isFinite mag = false then ⟨0, 0, 0⟩
  else if mag > maxCentripetalMps2 then
    let s := maxCentripetalMps2 / mag
    ⟨a.x * s, a.y * s, a.z * s⟩
  else a

end Centripetal

namespace DeadReckoner

variable {α : Type} [Zero α] [One α] [Neg α] [Add α] [Sub α] [Mul α] [Div α] [NatCast α]
  [OfScientific α] [LT α] [LE α] [DecidableLT α] [DecidableLE α] [Max α] [Min α] [Libm α]
  [FiniteTest α] [Nalgebra α]

def defaultMaxImuDtS : α := 0.10
def imuGatePeriodFactor : α := 2.5
def autoImuGateMaxS : α := 1.0
def imuStarvationSkipThreshold : Nat := 25
def maneuverGyroAlphaRise : α := 0.1
def maneuverGyroAlphaFall : α := 0.01
def maneuverGyroThresholdRps : α := 0.04

def new (cfg : NavConfig α) (boot : Instant) : DeadReckoner α where
  cfg := cfg
  attitude := Madgwick.new cfg.madgwickBeta
  strapdown := Strapdown.new
  bias := BiasEstimator.new cfg.biasEmaAlpha cfg.imuBiasWindowS
  origin := none
  boot := boot
  lastImuMono := none
  initialized := false
  staticInitAccum := 0
  staticInitTarget := 0
  staticInitAccelSum := ⟨0, 0, 0⟩
  staticInitFirstMono := none
  state := .normal
  yawSeededFromGps := false
  lastGpsMono := none
  anchorLocked := false
  consecutiveImuSkips := 0
  imuStarvationWarned := false
  aidingN := 0
  aidingE := 0
  recentGyroMag := 0

def setState (m : DeadReckoner α) (state : NavStateKind) : DeadReckoner α :=
  { m with state := state }

def monoSecs (m : DeadReckoner α) (t : Instant) : α := asSecs (t - m.boot)

def isInitialized (m : DeadReckoner α) : Bool := m.initialized && m.origin.isSome

def drPos (m : DeadReckoner α) : NedPos α := m.strapdown.pos

def aidingVel (m : DeadReckoner α) : NedVel α := ⟨m.aidingN, m.aidingE, 0⟩

def isManeuvering (m : DeadReckoner α) : Bool :=
  decide (m.recentGyroMag > maneuverGyroThresholdRps)

/-- The fix in the local tangent plane, once there is one. -/
def gpsInNed (m : DeadReckoner α) (fix : GpsFix α) : Option (NedPos α) :=
  m.origin.map fun (lat0, lon0, _) => llaToNed fix.latDeg fix.lonDeg fix.altM lat0 lon0

/-- Whether a first fix is near the expected home; the error is the distance. -/
def isFirstFixPlausible (m : DeadReckoner α) (fix : GpsFix α) : Except α Unit :=
  match m.cfg.expectedHome with
  | none => .ok ()
  | some (homeLat, homeLon) =>
    if m.anchorLocked then .ok ()
    else
      let d := (llaToNed fix.latDeg fix.lonDeg 0 homeLat homeLon).horizontalNorm
      if d ≤ m.cfg.maxHomeDistanceM then .ok () else .error d

/-! ## One IMU sample -/

/-- The IMU gap gate sized from the cadence seen during static initialisation: only ever
    widened, and only up to a cap. -/
def autoSizeGate (m : DeadReckoner α) : DeadReckoner α :=
  match m.staticInitFirstMono, m.lastImuMono with
  | some first, some last =>
    let span := last - first
    let intervals := m.staticInitAccum - 1
    if span > 0 ∧ intervals > 0 then
      let observedPeriod := span / (intervals : α)
      let neededGate :=
        clamp (imuGatePeriodFactor * observedPeriod) defaultMaxImuDtS autoImuGateMaxS
      if neededGate > m.cfg.maxImuDtS then
        { m with cfg := { m.cfg with maxImuDtS := neededGate } }
      else m
    else m
  | _, _ => m

/-- The attitude from the averaged accelerometer, once enough samples are in. -/
def finishStaticInit (m : DeadReckoner α) : DeadReckoner α :=
  let n : α := (m.staticInitAccum : α)
  let avg : Vec3 α :=
    ⟨m.staticInitAccelSum.x / n, m.staticInitAccelSum.y / n, m.staticInitAccelSum.z / n⟩
  autoSizeGate { m with attitude := m.attitude.initFromAccel avg, initialized := true }

def staticInitStep (m : DeadReckoner α) (sample : ImuSample α) (monoSecs : α) :
    DeadReckoner α :=
  let m := { m with
    staticInitTarget :=
      if m.staticInitTarget = 0 then Libm.toNat (max (m.cfg.staticInitS * 100.0) 10.0)
      else m.staticInitTarget
    staticInitFirstMono := m.staticInitFirstMono.or (some monoSecs)
    staticInitAccelSum :=
      ⟨m.staticInitAccelSum.x + sample.accelMps2.x,
        m.staticInitAccelSum.y + sample.accelMps2.y,
        m.staticInitAccelSum.z + sample.accelMps2.z⟩
    staticInitAccum := m.staticInitAccum + 1
    lastImuMono := some monoSecs }
  if m.staticInitAccum ≥ m.staticInitTarget then m.finishStaticInit else m

/-- What the gap since the last sample allows. -/
inductive ImuGap (α : Type)
  /-- Time stood still or went backwards. -/
  | regressed
  /-- The gap is over the gate. -/
  | stalled
  | within (dt : α)

def imuGap (m : DeadReckoner α) (monoSecs : α) : ImuGap α :=
  match m.lastImuMono with
  | some prev =>
    let raw := monoSecs - prev
    if isFinite raw = false ∨ raw ≤ 0 then .regressed
    else if raw > m.cfg.maxImuDtS then .stalled
    else .within (max raw 1e-6)
  | none => .within 0.01

/-- Count a skipped step. The threshold decides only how loudly the skip is logged. -/
def noteStall (m : DeadReckoner α) : DeadReckoner α :=
  let skips := succU32 m.consecutiveImuSkips
  { m with
    consecutiveImuSkips := skips
    imuStarvationWarned :=
      if skips ≥ imuStarvationSkipThreshold ∧ m.imuStarvationWarned = false then true
      else m.imuStarvationWarned }

/-- The attitude half of a step: bias, gyro magnitude, centripetal compensation, filter. -/
def updateAttitude (m : DeadReckoner α) (sample : ImuSample α) (dt : α)
    (allowBias : Bool) : DeadReckoner α :=
  let bias := m.bias.observe sample.accelMps2 sample.gyroRps dt allowBias
  let gyroCorr : Vec3 α :=
    ⟨sample.gyroRps.x - bias.gyro.x, sample.gyroRps.y - bias.gyro.y,
      sample.gyroRps.z - bias.gyro.z⟩
  let gmag := Libm.sqrt
    (gyroCorr.x * gyroCorr.x + gyroCorr.y * gyroCorr.y + gyroCorr.z * gyroCorr.z)
  let a := if gmag > m.recentGyroMag then maneuverGyroAlphaRise else maneuverGyroAlphaFall
  let vNed := m.strapdown.vel
  let vBody := rotateNedToBody m.attitude.q ⟨vNed.n, vNed.e, vNed.d⟩
  let aCentBody := boundCentripetal
    ⟨gyroCorr.y * vBody.z - gyroCorr.z * vBody.y,
      gyroCorr.z * vBody.x - gyroCorr.x * vBody.z,
      gyroCorr.x * vBody.y - gyroCorr.y * vBody.x⟩
  { m with
    bias := bias
    recentGyroMag := (1 - a) * m.recentGyroMag + a * gmag
    attitude := m.attitude.updateWithLinAccel sample.accelMps2 gyroCorr dt aCentBody }

/-- The position half of a step, once the tangent plane has an origin. -/
def integratePosition (m : DeadReckoner α) (sample : ImuSample α) (monoSecs dt : α)
    (allowBias : Bool) : DeadReckoner α × NavStateSnapshot α :=
  let aNed := rotateBodyToNed m.attitude.q sample.accelMps2
  let aLin : Vec3 α := ⟨aNed.x, aNed.y, aNed.z + gravity⟩
  let (bias, aLinCorr) := m.bias.correctAndUpdateAccelNed aLin allowBias
  let strapdown := m.strapdown.integrate aLinCorr dt
  ({ m with bias := bias, strapdown := strapdown },
    ⟨monoSecs, strapdown.pos, strapdown.vel⟩)

def integrateStep (m : DeadReckoner α) (sample : ImuSample α) (monoSecs dt : α) :
    DeadReckoner α × Option (NavStateSnapshot α) :=
  let m := { m with
    lastImuMono := some monoSecs, consecutiveImuSkips := 0, imuStarvationWarned := false }
  let allowBias := decide (m.state = .normal)
  let m := m.updateAttitude sample dt allowBias
  if m.isInitialized = false then (m, none)
  else
    let (m, snap) := m.integratePosition sample monoSecs dt allowBias
    (m, some snap)

def finiteVec (v : Vec3 α) : Bool := isFinite v.x && isFinite v.y && isFinite v.z

/-- Process one IMU sample: a snapshot once initialised and anchored. -/
def step (m : DeadReckoner α) (sample : ImuSample α) :
    DeadReckoner α × Except NavError (Option (NavStateSnapshot α)) :=
  if finiteVec sample.accelMps2 = false then (m, .error (.nonFinite "accel"))
  else if finiteVec sample.gyroRps = false then (m, .error (.nonFinite "gyro"))
  else
    let monoSecs : α := m.monoSecs sample.t.mono
    if m.initialized = false then (m.staticInitStep sample monoSecs, .ok none)
    else
      match m.imuGap monoSecs with
      | .regressed => ({ m with lastImuMono := some monoSecs }, .ok none)
      | .stalled => ({ m.noteStall with lastImuMono := some monoSecs }, .ok none)
      | .within dt =>
        let (m, snap) := m.integrateStep sample monoSecs dt
        (m, .ok snap)

/-! ## One GPS fix -/

/-- The interval the blend gain is computed from: the gap to the last fix, at most 5 s,
    and 1 s where there is no usable gap. -/
def dtBlend (m : DeadReckoner α) (nowMono : α) : α :=
  match m.lastGpsMono with
  | some prev =>
    let d := nowMono - prev
    if isFinite d = true ∧ d > 0 then min d 5.0 else 1.0
  | none => 1.0

/-- Seed the yaw from the GPS course, once, when the vehicle is fast enough. -/
def seedYaw (m : DeadReckoner α) (fix : GpsFix α) : DeadReckoner α :=
  if m.yawSeededFromGps then m
  else
    match fix.courseDeg, fix.speedMps with
    | some course, some speed =>
      if speed ≥ m.cfg.yawFromGpsSpeedMinMps then
        { m with attitude := m.attitude.seedYawDeg course, yawSeededFromGps := true }
      else m
    | _, _ => m

/-- Move the origin to the fix and restart the strapdown there. Locks the anchor if
    static initialisation is over. -/
def anchorAt (m : DeadReckoner α) (fix : GpsFix α) : DeadReckoner α :=
  let strapdown : Strapdown α :=
    match gpsVelocity fix with
    | some v => m.strapdown.reset.setVel v
    | none => m.strapdown.reset
  { m with
    origin := some (fix.latDeg, fix.lonDeg, fix.altM)
    strapdown := strapdown
    aidingN := 0
    aidingE := 0
    anchorLocked := m.initialized || m.anchorLocked }

/-- Pull the dead-reckoned velocity towards GPS, and remember what was imported. -/
def blend (m : DeadReckoner α) (fix : GpsFix α) (dt : α) : DeadReckoner α :=
  let tau := max m.cfg.blendTauS 0.05
  let alpha := clamp (dt / tau) 0 1
  match gpsVelocity fix with
  | some vg =>
    let v := m.strapdown.vel
    let cn := alpha * (vg.n - v.n)
    let ce := alpha * (vg.e - v.e)
    { m with
      aidingN := m.aidingN + cn
      aidingE := m.aidingE + ce
      strapdown := m.strapdown.setVel ⟨v.n + cn, v.e + ce, v.d + alpha * (vg.d - v.d)⟩ }
  | none => m

/-- Process a GPS fix: anchor until locked, blend afterwards while not frozen. -/
def onGpsFix (m : DeadReckoner α) (fix : GpsFix α) : DeadReckoner α :=
  let nowMono : α := m.monoSecs fix.t.mono
  let dt := m.dtBlend nowMono
  let m := { m with lastGpsMono := some nowMono }
  let m := m.seedYaw fix
  if m.anchorLocked = false then m.anchorAt fix
  else if m.state = .normal ∨ m.cfg.deadReckonFreezeOnSuspicious = false then m.blend fix dt
  else m

/-- Move the origin to the fix when Suspicious is cleared. -/
def reAnchorAfterClearing (m : DeadReckoner α) (fix : GpsFix α) : DeadReckoner α :=
  { m with
    origin := some (fix.latDeg, fix.lonDeg, fix.altM)
    strapdown := m.strapdown.setPos NedPos.default
    aidingN := 0
    aidingE := 0 }

/-! ## What moves the anchor -/

structure SameAnchor (m m' : DeadReckoner α) : Prop where
  origin : m'.origin = m.origin
  anchorLocked : m'.anchorLocked = m.anchorLocked
  expectedHome : m'.cfg.expectedHome = m.cfg.expectedHome
  maxHomeDistanceM : m'.cfg.maxHomeDistanceM = m.cfg.maxHomeDistanceM

theorem step_sameAnchor {α : Type} [Zero α] [One α] [Neg α] [Add α] [Sub α] [Mul α] [Div α]
    [NatCast α] [OfScientific α] [LT α] [LE α] [DecidableLT α] [DecidableLE α] [Max α] [Libm α]
    [FiniteTest α] [Nalgebra α] (m : DeadReckoner α) (sample : ImuSample α) :
    SameAnchor m (m.step sample).1 := by
  have hgate : ∀ m : DeadReckoner α, SameAnchor m m.autoSizeGate := by
    intro m
    unfold autoSizeGate
    split
    · dsimp only
      split
      · split <;> exact ⟨rfl, rfl, rfl, rfl⟩
      · exact ⟨rfl, rfl, rfl, rfl⟩
    · exact ⟨rfl, rfl, rfl, rfl⟩
  have hfinish : ∀ a, SameAnchor m a → SameAnchor m a.finishStaticInit := by
    intro a ⟨ho, hl, hh, hd⟩
    obtain ⟨ho', hl', hh', hd'⟩ := hgate { a with
      attitude := a.attitude.initFromAccel
        ⟨a.staticInitAccelSum.x / a.staticInitAccum,
          a.staticInitAccelSum.y / a.staticInitAccum,
          a.staticInitAccelSum.z / a.staticInitAccum⟩
      initialized := true }
    exact ⟨ho'.trans ho, hl'.trans hl, hh'.trans hh, hd'.trans hd⟩
  have hinit : ∀ t, SameAnchor m (m.staticInitStep sample t) := fun t =>
    iteInduction (motive := SameAnchor m) (fun _ => hfinish _ ⟨rfl, rfl, rfl, rfl⟩)
      (fun _ => ⟨rfl, rfl, rfl, rfl⟩)
  have hstep : ∀ t dt, SameAnchor m (m.integrateStep sample t dt).1 := by
    intro t dt
    unfold integrateStep
    dsimp only
    split <;> exact ⟨rfl, rfl, rfl, rfl⟩
  unfold step
  split
  · exact ⟨rfl, rfl, rfl, rfl⟩
  · split
    · exact ⟨rfl, rfl, rfl, rfl⟩
    · dsimp only
      split
      · exact hinit _
      · split
        · exact ⟨rfl, rfl, rfl, rfl⟩
        · exact ⟨rfl, rfl, rfl, rfl⟩
        · exact hstep _ _

theorem seedYaw_eq {α : Type} [Zero α] [One α] [Neg α] [Add α] [Sub α] [Mul α] [Div α]
    [OfScientific α] [LT α] [LE α] [DecidableLT α] [DecidableLE α] [Max α] [Libm α]
    (m : DeadReckoner α) (fix : GpsFix α) : ∃ attitude yawSeeded,
    m.seedYaw fix = { m with attitude := attitude, yawSeededFromGps := yawSeeded } := by
  unfold seedYaw
  split
  · exact ⟨_, _, rfl⟩
  · split
    · split
      · exact ⟨_, _, rfl⟩
      · exact ⟨_, _, rfl⟩
    · exact ⟨_, _, rfl⟩

variable {m : DeadReckoner α}

section

omit [Nalgebra α]

theorem onGpsFix_unlocked (h : m.anchorLocked = false) (fix : GpsFix α) :
    (m.onGpsFix fix).origin = some (fix.latDeg, fix.lonDeg, fix.altM) ∧
      (m.onGpsFix fix).drPos = NedPos.default := by
  obtain ⟨_, _, hs⟩ := seedYaw_eq { m with lastGpsMono := some (m.monoSecs fix.t.mono) } fix
  unfold onGpsFix
  dsimp only
  rw [hs, if_pos h]
  unfold anchorAt drPos
  cases gpsVelocity fix <;> exact ⟨rfl, rfl⟩

theorem onGpsFix_locked (h : m.anchorLocked = true) (fix : GpsFix α) :
    SameAnchor m (m.onGpsFix fix) ∧ (m.onGpsFix fix).drPos = m.drPos := by
  obtain ⟨_, _, hs⟩ := seedYaw_eq { m with lastGpsMono := some (m.monoSecs fix.t.mono) } fix
  unfold onGpsFix
  dsimp only
  rw [hs, if_neg (by simp [h])]
  split
  · unfold blend drPos
    cases gpsVelocity fix <;> exact ⟨⟨rfl, rfl, rfl, rfl⟩, rfl⟩
  · exact ⟨⟨rfl, rfl, rfl, rfl⟩, rfl⟩

theorem onGpsFix_cfg (m : DeadReckoner α) (fix : GpsFix α) :
    (m.onGpsFix fix).cfg = m.cfg := by
  obtain ⟨_, _, hs⟩ := seedYaw_eq { m with lastGpsMono := some (m.monoSecs fix.t.mono) } fix
  unfold onGpsFix
  dsimp only
  rw [hs]
  split
  · rfl
  · split
    · unfold blend
      cases gpsVelocity fix <;> rfl
    · rfl

end

end DeadReckoner

end FlyingSquirrel
