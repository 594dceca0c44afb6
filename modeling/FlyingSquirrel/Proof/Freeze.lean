import FlyingSquirrel.Proof.Anchor

/-!
# What a fix does to a frozen predictor

In Suspicious and Spoofed the blend is off, so that GPS cannot steer the track it is checked
against. The blend is one of three things `onGpsFix` does, and the only one that looks at the
mode: the yaw is seeded until it has been once, and the anchor moves until it is locked.
`unmoved_iff` says that a fix steers a frozen predictor by these two and by nothing else.

A fix reaches `onGpsFix` in an alarm when the buffer cannot serve its time, which whoever stalls
the IMU can arrange.
-/

set_option autoImplicit false

namespace FlyingSquirrel

open Lib

variable {α : Type} [Zero α] [One α] [Neg α] [Add α] [Sub α] [Mul α] [Div α] [NatCast α]
  [OfScientific α] [LT α] [LE α] [DecidableLT α] [DecidableLE α] [Max α] [Min α] [Libm α]
  [FiniteTest α]

namespace DeadReckoner

/-- Freezing is on, and there is an alarm to freeze for. -/
structure Frozen (m : DeadReckoner α) : Prop where
  freeze : m.cfg.deadReckonFreezeOnSuspicious = true
  alarm : m.state = .suspicious ∨ m.state = .spoofed

/-- The attitude, the track and the sums of what GPS put into it are as they were. -/
structure Unmoved (m m' : DeadReckoner α) : Prop where
  attitude : m'.attitude = m.attitude
  origin : m'.origin = m.origin
  pos : m'.strapdown.pos = m.strapdown.pos
  vel : m'.strapdown.vel = m.strapdown.vel
  aidingN : m'.aidingN = m.aidingN
  aidingE : m'.aidingE = m.aidingE

/-- Seeding the yaw changes nothing: it is seeded, or the fix is too slow for it or has no
    course, or its course is the yaw already. -/
def YawSettled (m : DeadReckoner α) (fix : GpsFix α) : Prop :=
  m.yawSeededFromGps = true ∨
    ∀ course ∈ fix.courseDeg, ∀ speed ∈ fix.speedMps, speed ≥ m.cfg.yawFromGpsSpeedMinMps →
      m.attitude.seedYawDeg course = m.attitude

/-- Anchoring changes nothing: the anchor is locked, or this fix is where it is. -/
def AnchorSettled (m : DeadReckoner α) (fix : GpsFix α) : Prop :=
  m.anchorLocked = true ∨
    m.origin = some (fix.latDeg, fix.lonDeg, fix.altM) ∧ m.strapdown.pos = NedPos.default ∧
      m.strapdown.vel = (gpsVelocity fix).getD NedVel.default ∧ m.aidingN = 0 ∧ m.aidingE = 0

variable {m : DeadReckoner α}

theorem seedYaw_attitude {α : Type} [Zero α] [One α] [Neg α] [Add α] [Sub α] [Mul α] [Div α]
    [OfScientific α] [LT α] [LE α] [DecidableLT α] [DecidableLE α] [Max α] [Libm α]
    (m : DeadReckoner α) (fix : GpsFix α) :
    (m.seedYaw fix).attitude = m.attitude ↔ m.YawSettled fix := by
  unfold seedYaw YawSettled
  cases hseeded : m.yawSeededFromGps with
  | true => simp
  | false =>
    cases hcourse : fix.courseDeg with
    | none => simp
    | some course =>
      cases hspeed : fix.speedMps with
      | none => simp
      | some speed =>
        by_cases hfast : speed ≥ m.cfg.yawFromGpsSpeedMinMps
        · simp [hfast]
        · simp [hfast]

theorem anchorAt_unmoved {α : Type} [Zero α] [Mul α] [Libm α]
    (m : DeadReckoner α) (fix : GpsFix α) :
    Unmoved m (m.anchorAt fix) ↔
      m.origin = some (fix.latDeg, fix.lonDeg, fix.altM) ∧ m.strapdown.pos = NedPos.default ∧
        m.strapdown.vel = (gpsVelocity fix).getD NedVel.default ∧ m.aidingN = 0 ∧
        m.aidingE = 0 := by
  have hpos : (m.anchorAt fix).strapdown.pos = NedPos.default := by
    unfold anchorAt
    cases gpsVelocity fix <;> rfl
  have hvel : (m.anchorAt fix).strapdown.vel = (gpsVelocity fix).getD NedVel.default := by
    unfold anchorAt
    cases gpsVelocity fix <;> rfl
  constructor
  · rintro ⟨-, ho, hp, hv, hn, he⟩
    exact ⟨ho.symm, hp.symm.trans hpos, hv.symm.trans hvel, hn.symm, he.symm⟩
  · rintro ⟨ho, hp, hv, hn, he⟩
    exact ⟨rfl, ho.symm, hpos.trans hp.symm, hvel.trans hv.symm, hn.symm, he.symm⟩

/-- In a frozen alarm there is no third thing to a fix. -/
theorem onGpsFix_frozen (h : m.Frozen) (fix : GpsFix α) :
    m.onGpsFix fix =
      let m' := { m with lastGpsMono := some (m.monoSecs fix.t.mono) }.seedYaw fix
      if m.anchorLocked then m' else m'.anchorAt fix := by
  obtain ⟨attitude, yawSeeded, hs⟩ :=
    seedYaw_eq { m with lastGpsMono := some (m.monoSecs fix.t.mono) } fix
  unfold onGpsFix
  dsimp only
  rw [hs]
  cases hlocked : m.anchorLocked with
  | false => simp
  | true =>
    have hnormal : m.state ≠ .normal := by
      rcases h.alarm with ha | ha <;> simp [ha]
    simp [hnormal, h.freeze]

/-- A frozen predictor is left alone exactly by a fix that has nothing to seed and nothing to
    anchor. -/
theorem unmoved_iff (h : m.Frozen) (fix : GpsFix α) :
    Unmoved m (m.onGpsFix fix) ↔ m.YawSettled fix ∧ m.AnchorSettled fix := by
  have hyaw := seedYaw_attitude { m with lastGpsMono := some (m.monoSecs fix.t.mono) } fix
  have hanchor := anchorAt_unmoved m fix
  obtain ⟨attitude, yawSeeded, hs⟩ :=
    seedYaw_eq { m with lastGpsMono := some (m.monoSecs fix.t.mono) } fix
  rw [onGpsFix_frozen h, hs]
  rw [hs] at hyaw
  change attitude = m.attitude ↔ m.YawSettled fix at hyaw
  rw [← hyaw]
  unfold AnchorSettled
  cases m.anchorLocked with
  | true =>
    constructor
    · intro hu
      exact ⟨hu.attitude, .inl rfl⟩
    · rintro ⟨hatt, -⟩
      exact ⟨hatt, rfl, rfl, rfl, rfl, rfl⟩
  | false =>
    rw [← hanchor]
    constructor
    · intro hu
      exact ⟨hu.attitude, .inr ⟨rfl, hu.origin, hu.pos, hu.vel, hu.aidingN, hu.aidingE⟩⟩
    · rintro ⟨hatt, hfalse | hu⟩
      · cases hfalse
      · exact ⟨hatt, hu.origin, hu.pos, hu.vel, hu.aidingN, hu.aidingE⟩

end DeadReckoner

variable [Nalgebra α]

namespace Fusion

open DeadReckoner (Unmoved)

variable [BEq α]

/-- Armed, and the buffer cannot serve the fix's time: the fix goes to nav without being
    evaluated. -/
structure Skips (f : Fusion α) (fix : GpsFix α) : Prop where
  ready : f.preflight = .ready
  origin : f.nav.origin ≠ none
  unserved : (f.buffer.interpolate (f.tSecs fix.t)).toBool = false

theorem Skips.nav {f : Fusion α} {fix : GpsFix α} (h : f.Skips fix) (env : Env α) :
    (f.step (.gps fix env)).1.nav = f.nav.onGpsFix fix := by
  show (f.onGps env fix).1.nav = _
  have hpath := onGps_path f env fix
  generalize (f.onGps env fix).1 = f' at hpath
  generalize (f.onGps env fix).2 = out at hpath
  cases hpath with
  | rejected ho => exact absurd ho h.origin
  | first ho => exact absurd ho h.origin
  | preflight _ hr => exact absurd h.ready hr
  | skipped _ _ hg _ _ =>
    show DeadReckoner.onGpsFix _ fix = _
    rw [hg.tracked.nav]
  | evaluated _ _ _ hi => exact absurd (hi.symm.trans h.unserved) (by simp)

end Fusion

/-- **Frozen dead reckoning stays frozen, exactly.** In an alarm with freezing on, a fix leaves
    attitude, origin, position, velocity and aiding sums alone if and only if it finds the yaw
    and the anchor settled; and so does a fix the loop passes on without evaluating it. -/
theorem frozen_unmoved_iff [BEq α] :
    (∀ (m : DeadReckoner α) (fix : GpsFix α), m.Frozen →
      (m.Unmoved (m.onGpsFix fix) ↔ m.YawSettled fix ∧ m.AnchorSettled fix)) ∧
    ∀ (f : Fusion α) (fix : GpsFix α) (env : Env α), f.nav.Frozen → f.Skips fix →
      (f.nav.Unmoved (f.step (.gps fix env)).1.nav ↔
        f.nav.YawSettled fix ∧ f.nav.AnchorSettled fix) := by
  refine ⟨fun m fix h => DeadReckoner.unmoved_iff h fix, fun f fix env hf hs => ?_⟩
  rw [hs.nav env]
  exact DeadReckoner.unmoved_iff hf fix

open Fusion

/-- A fix with Doppler: the given course, at twenty metres a second. -/
def courseFixAt (ms : Nat) (latDeg courseDeg : ℚ) : GpsFix ℚ :=
  { fixAt ms latDeg with speedMps := some 20, courseDeg := some courseDeg }

/-- Armed and locked, with no course so far, then a jump: Suspicious. -/
def lockedAlarm : Fusion ℚ :=
  run Fusion.step (Fusion.new quickCfg 0) (arming ++ fixes quietEnv [(110, 1)])

/-- Armed and not locked, then a jump. -/
def unlockedAlarm : Fusion ℚ :=
  run Fusion.step (Fusion.new quickCfg 0) (armingUnlocked ++ fixes quietEnv [(120, 1)])

theorem lockedAlarm_frozen : lockedAlarm.nav.Frozen :=
  ⟨by decide +kernel, .inl (by decide +kernel)⟩

theorem unlockedAlarm_frozen : unlockedAlarm.nav.Frozen :=
  ⟨by decide +kernel, .inl (by decide +kernel)⟩

/-- Samples have stopped, and a fix without a course leaves the predictor alone. -/
theorem frozen_unmoved_no_course :
    lockedAlarm.nav.Unmoved (lockedAlarm.step (.gps (fixAt 900 1) quietEnv)).1.nav :=
  (frozen_unmoved_iff.2 lockedAlarm (fixAt 900 1) quietEnv lockedAlarm_frozen
      ⟨by decide +kernel, by decide +kernel, by decide +kernel⟩).mpr
    ⟨.inr (fun _ h => nomatch h), .inl (by decide +kernel)⟩

/-- Samples have stopped. A fix with a course turns the attitude by it, and where the anchor was
    not locked a fix moves the origin to itself. -/
theorem frozen_fix_steers :
    (lockedAlarm.nav.Frozen ∧ lockedAlarm.Skips (courseFixAt 900 1 90) ∧
      ¬ lockedAlarm.nav.Unmoved
        (lockedAlarm.step (.gps (courseFixAt 900 1 90) quietEnv)).1.nav) ∧
    unlockedAlarm.nav.Frozen ∧ unlockedAlarm.Skips (fixAt 900 1) ∧
      ¬ unlockedAlarm.nav.Unmoved (unlockedAlarm.step (.gps (fixAt 900 1) quietEnv)).1.nav := by
  refine ⟨⟨lockedAlarm_frozen, ⟨by decide +kernel, by decide +kernel, by decide +kernel⟩, ?_⟩,
    unlockedAlarm_frozen, ⟨by decide +kernel, by decide +kernel, by decide +kernel⟩, ?_⟩
  · intro h
    exact absurd (congrArg Madgwick.q h.attitude) (by decide +kernel)
  · intro h
    exact absurd h.origin (by decide +kernel)

end FlyingSquirrel
