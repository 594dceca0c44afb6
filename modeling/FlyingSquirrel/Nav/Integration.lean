import FlyingSquirrel.Nav.DeadReckoner

/-!
# When a sample is integrated

Most samples are: they advance the strapdown and leave a snapshot. The others (not finite,
during static initialisation, at or before the previous sample, over the gap gate, without an
origin) leave the strapdown where it was. `integrates` tells the two apart from the sample and
the state before it, and `step_stepped` is all that later files use of `step`'s effect on the
position and velocity.
-/

set_option autoImplicit false

namespace FlyingSquirrel
namespace DeadReckoner

open Lib

variable {α : Type} [Zero α] [One α] [Neg α] [Add α] [Sub α] [Mul α] [Div α] [NatCast α]
  [OfScientific α] [LT α] [LE α] [DecidableLT α] [DecidableLE α] [Max α] [Libm α] [FiniteTest α]
  [Nalgebra α]

/-- The interval a sample is integrated over, where it is. -/
def integrates (m : DeadReckoner α) (sample : ImuSample α) : Option α :=
  if finiteVec sample.accelMps2 && finiteVec sample.gyroRps && m.isInitialized then
    match m.imuGap (m.monoSecs sample.t.mono) with
    | .within dt => some dt
    | _ => none
  else none

/-- The acceleration the strapdown is fed: rotated, gravity added, bias taken off. -/
def accelFed (m : DeadReckoner α) (sample : ImuSample α) (monoSecs dt : α) : Vec3 α :=
  let m := { m with
    lastImuMono := some monoSecs, consecutiveImuSkips := 0, imuStarvationWarned := false }
  let allowBias := decide (m.state = .normal)
  let m := m.updateAttitude sample dt allowBias
  let aNed := rotateBodyToNed m.attitude.q sample.accelMps2
  (m.bias.correctAndUpdateAccelNed ⟨aNed.x, aNed.y, aNed.z + gravity⟩ allowBias).2

/-- What one sample does to the strapdown and the aiding sums, and what it answers. -/
inductive Stepped (m : DeadReckoner α) (sample : ImuSample α) :
    DeadReckoner α → Except NavError (Option (NavStateSnapshot α)) → Prop
  | skipped {m' answer} (hi : m.integrates sample = none) (hs : m'.strapdown = m.strapdown)
      (hn : m'.aidingN = m.aidingN) (he : m'.aidingE = m.aidingE) (hk : m'.state = m.state)
      (ha : ∀ snap, answer ≠ .ok (some snap)) : Stepped m sample m' answer
  | integrated {m' dt} (hi : m.integrates sample = some dt)
      (hs : m'.strapdown =
        m.strapdown.integrate (m.accelFed sample (m.monoSecs sample.t.mono) dt) dt)
      (hn : m'.aidingN = m.aidingN) (he : m'.aidingE = m.aidingE) (hk : m'.state = m.state) :
      Stepped m sample m'
        (.ok (some ⟨m.monoSecs sample.t.mono, m'.strapdown.pos, m'.strapdown.vel⟩))

theorem autoSizeGate_eq {α : Type} [Zero α] [Sub α] [Mul α] [Div α] [NatCast α] [OfScientific α]
    [LT α] [DecidableLT α]
    (m : DeadReckoner α) : ∃ cfg, m.autoSizeGate = { m with cfg := cfg } := by
  unfold autoSizeGate
  split
  · dsimp only
    split
    · split
      · exact ⟨_, rfl⟩
      · exact ⟨_, rfl⟩
    · exact ⟨_, rfl⟩
  · exact ⟨_, rfl⟩

theorem finishStaticInit_still {α : Type} [Zero α] [Neg α] [Add α] [Sub α] [Mul α] [Div α]
    [NatCast α] [OfScientific α] [LT α] [DecidableLT α] [Max α] [Libm α] (m : DeadReckoner α) :
    m.finishStaticInit.strapdown = m.strapdown ∧ m.finishStaticInit.aidingN = m.aidingN ∧
    m.finishStaticInit.aidingE = m.aidingE ∧ m.finishStaticInit.state = m.state := by
  unfold finishStaticInit
  dsimp only
  obtain ⟨_, h⟩ := autoSizeGate_eq { m with
    attitude := m.attitude.initFromAccel
      ⟨m.staticInitAccelSum.x / m.staticInitAccum, m.staticInitAccelSum.y / m.staticInitAccum,
        m.staticInitAccelSum.z / m.staticInitAccum⟩
    initialized := true }
  rw [h]
  exact ⟨rfl, rfl, rfl, rfl⟩

theorem staticInitStep_still {α : Type} [Zero α] [Neg α] [Add α] [Sub α] [Mul α] [Div α] [NatCast α]
    [OfScientific α] [LT α] [DecidableLT α] [Max α] [Libm α]
    (m : DeadReckoner α) (sample : ImuSample α) (t : α) :
    (m.staticInitStep sample t).strapdown = m.strapdown ∧
    (m.staticInitStep sample t).aidingN = m.aidingN ∧
    (m.staticInitStep sample t).aidingE = m.aidingE ∧
    (m.staticInitStep sample t).state = m.state :=
  iteInduction (motive := fun m' : DeadReckoner α => m'.strapdown = m.strapdown ∧
      m'.aidingN = m.aidingN ∧ m'.aidingE = m.aidingE ∧ m'.state = m.state)
    (fun _ => finishStaticInit_still _) (fun _ => ⟨rfl, rfl, rfl, rfl⟩)

theorem step_stepped (m : DeadReckoner α) (sample : ImuSample α) :
    Stepped m sample (m.step sample).1 (m.step sample).2 := by
  unfold step
  by_cases hacc : finiteVec sample.accelMps2 = true
  case neg =>
    rw [if_pos (by simpa using hacc)]
    exact .skipped (by simp [integrates, hacc]) rfl rfl rfl rfl (by simp)
  by_cases hgyro : finiteVec sample.gyroRps = true
  case neg =>
    rw [if_neg (by simp [hacc]), if_pos (by simpa using hgyro)]
    exact .skipped (by simp [integrates, hgyro]) rfl rfl rfl rfl (by simp)
  rw [if_neg (by simp [hacc]), if_neg (by simp [hgyro])]
  dsimp only
  cases hinit : m.initialized with
  | false =>
    rw [if_pos rfl]
    obtain ⟨hs, hn, he, hk⟩ := staticInitStep_still m sample (m.monoSecs sample.t.mono)
    exact .skipped (by simp [integrates, isInitialized, hinit]) hs hn he hk (by simp)
  | true =>
    rw [if_neg (by simp)]
    cases hgap : m.imuGap (m.monoSecs sample.t.mono) with
    | regressed => exact .skipped (by simp [integrates, hgap]) rfl rfl rfl rfl (by simp)
    | stalled => exact .skipped (by simp [integrates, hgap]) rfl rfl rfl rfl (by simp)
    | within dt =>
      dsimp only
      unfold integrateStep
      dsimp only
      -- the attitude half of a step leaves the readiness alone
      have hsame : DeadReckoner.isInitialized (DeadReckoner.updateAttitude
          { m with
            lastImuMono := some (m.monoSecs sample.t.mono)
            consecutiveImuSkips := 0
            imuStarvationWarned := false }
          sample dt (decide (m.state = .normal))) = m.isInitialized := rfl
      cases hready : m.isInitialized with
      | false =>
        rw [if_pos (hsame.trans hready)]
        exact .skipped (by simp [integrates, hready]) rfl rfl rfl rfl (by simp)
      | true =>
        rw [if_neg (by rw [hsame, hready]; simp)]
        exact .integrated (by simp [integrates, hacc, hgyro, hready, hgap]) rfl rfl rfl rfl

/-! ## The mode is the loop's to set -/

theorem step_state (m : DeadReckoner α) (sample : ImuSample α) :
    (m.step sample).1.state = m.state := by
  have hstep := step_stepped m sample
  generalize (m.step sample).1 = m' at hstep ⊢
  generalize (m.step sample).2 = answer at hstep
  cases hstep with
  | skipped _ _ _ _ hk _ => exact hk
  | integrated _ _ _ _ hk => exact hk

theorem onGpsFix_state {α : Type} [Zero α] [One α] [Neg α] [Add α] [Sub α] [Mul α] [Div α]
    [NatCast α] [OfScientific α] [LT α] [LE α] [DecidableLT α] [DecidableLE α] [Max α] [Min α]
    [Libm α] [FiniteTest α] (m : DeadReckoner α) (fix : GpsFix α) :
    (m.onGpsFix fix).state = m.state := by
  obtain ⟨_, _, hs⟩ := seedYaw_eq { m with lastGpsMono := some (m.monoSecs fix.t.mono) } fix
  unfold onGpsFix
  dsimp only
  rw [hs]
  split
  · rfl
  · split
    · unfold blend
      cases gpsVelocity fix <;> rfl
    · rfl

/-! ## In exact arithmetic -/

variable [Min α]

section Exact

variable {F : Type} [Field F] [LinearOrder F] [Libm F] [Nalgebra F]

theorem finiteVec_field {F : Type} [Field F]
    (v : Vec3 F) : finiteVec v = true := by simp [finiteVec]

/-- In exact arithmetic every sample is taken: by static initialisation, or by what its gap
    allows. -/
theorem step_eq (m : DeadReckoner F) (sample : ImuSample F) :
    m.step sample =
      if m.initialized = false then
        (m.staticInitStep sample (m.monoSecs sample.t.mono), .ok none)
      else
        match m.imuGap (m.monoSecs sample.t.mono) with
        | .regressed => ({ m with lastImuMono := some (m.monoSecs sample.t.mono) }, .ok none)
        | .stalled =>
          ({ m.noteStall with lastImuMono := some (m.monoSecs sample.t.mono) }, .ok none)
        | .within dt =>
          ((m.integrateStep sample (m.monoSecs sample.t.mono) dt).1,
            .ok (m.integrateStep sample (m.monoSecs sample.t.mono) dt).2) := by
  have haccel : ¬ finiteVec sample.accelMps2 = false := by simp [finiteVec_field]
  have hgyro : ¬ finiteVec sample.gyroRps = false := by simp [finiteVec_field]
  unfold step
  exact (if_neg haccel).trans (if_neg hgyro)

theorem integrateStep_cadence (m : DeadReckoner F) (sample : ImuSample F) (t dt : F) :
    (m.integrateStep sample t dt).1.cfg = m.cfg ∧
    (m.integrateStep sample t dt).1.boot = m.boot ∧
    (m.integrateStep sample t dt).1.initialized = m.initialized ∧
    (m.integrateStep sample t dt).1.lastImuMono = some t := by
  unfold integrateStep
  dsimp only
  split <;> exact ⟨rfl, rfl, rfl, rfl⟩

/-- Once initialised, a sample moves the clock and leaves the gate alone. -/
theorem step_initialized {m : DeadReckoner F} (h : m.initialized = true)
    (sample : ImuSample F) :
    (m.step sample).1.cfg = m.cfg ∧ (m.step sample).1.boot = m.boot ∧
    (m.step sample).1.initialized = true ∧
    (m.step sample).1.lastImuMono = some (m.monoSecs sample.t.mono) := by
  rw [step_eq, if_neg (by simp [h])]
  cases m.imuGap (m.monoSecs sample.t.mono) with
  | regressed => exact ⟨rfl, rfl, h, rfl⟩
  | stalled => exact ⟨rfl, rfl, h, rfl⟩
  | within dt =>
    obtain ⟨hcfg, hboot, hinit, hlast⟩ :=
      integrateStep_cadence m sample (m.monoSecs sample.t.mono) dt
    exact ⟨hcfg, hboot, hinit.trans h, hlast⟩

end Exact

end DeadReckoner
end FlyingSquirrel
