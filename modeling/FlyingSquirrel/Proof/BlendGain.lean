import FlyingSquirrel.Proof.Actions
import Mathlib.Tactic.Linarith
import Mathlib.Tactic.NormNum
import Mathlib.Tactic.Ring

/-!
# The gain of the velocity blend

In Normal a locked dead-reckoner replaces its velocity with a mixture of it and the GPS velocity.
The share of GPS is the interval since the last fix over the time constant, at most one. The
interval is capped at five seconds, so that "a long dropout doesn't produce a near-1.0 alpha", but
the time constant is three by default. **The dead-reckoned part is kept exactly when the capped
interval falls short of the constant.**
-/

set_option autoImplicit false

namespace FlyingSquirrel

open Lib

/-- The velocity that is `g` parts `w` and the rest `v`. -/
def NedVel.mixed {F : Type} [Field F] (g : F) (v w : NedVel F) : NedVel F :=
  ⟨(1 - g) * v.n + g * w.n, (1 - g) * v.e + g * w.e, (1 - g) * v.d + g * w.d⟩

namespace DeadReckoner

section Model

variable {α : Type} [Zero α] [One α] [Neg α] [Add α] [Sub α] [Mul α] [Div α] [NatCast α]
  [OfScientific α] [LT α] [DecidableLT α] [Max α] [Min α] [FiniteTest α]

/-- The time constant in force. -/
def blendTau (m : DeadReckoner α) : α := max m.cfg.blendTauS 0.05

/-- The gain `on_gps_fix` blends the fix with. -/
def blendGain (m : DeadReckoner α) (fix : GpsFix α) : α :=
  clamp (m.dtBlend (m.monoSecs fix.t.mono) / m.blendTau) 0 1

/-- The gap before the fix, or the five seconds it is capped at, is less than the time constant.
    Without a usable gap, a second is. -/
def KeepsPredictor (m : DeadReckoner α) (fix : GpsFix α) : Prop :=
  match m.lastGpsMono with
  | some prev =>
    let gap := m.monoSecs fix.t.mono - prev
    if 0 < gap then gap < m.blendTau ∨ 5.0 < m.blendTau else 1.0 < m.blendTau
  | none => 1.0 < m.blendTau

instance (m : DeadReckoner α) (fix : GpsFix α) : Decidable (m.KeepsPredictor fix) := by
  unfold KeepsPredictor
  split
  · dsimp only
    split <;> infer_instance
  · infer_instance

end Model

variable {F : Type} [Field F] [LinearOrder F] [IsStrictOrderedRing F]

theorem blendTau_pos (m : DeadReckoner F) : 0 < m.blendTau :=
  lt_max_of_lt_right (by norm_num)

/-- The interval, over what it is read from. -/
theorem dtBlend_eq (m : DeadReckoner F) (now : F) : m.dtBlend now =
    match m.lastGpsMono with
    | some prev => if 0 < now - prev then min (now - prev) 5 else 1
    | none => 1 := by
  have h5 : (5.0 : F) = 5 := by norm_num
  have h1 : (1.0 : F) = 1 := by norm_num
  unfold dtBlend
  rw [h5, h1]
  cases m.lastGpsMono with
  | none => rfl
  | some prev => simp

theorem dtBlend_pos (m : DeadReckoner F) (now : F) : 0 < m.dtBlend now := by
  rw [dtBlend_eq]
  split
  · split
    · rename_i h
      exact lt_min h (by norm_num)
    · exact zero_lt_one
  · exact zero_lt_one

theorem keepsPredictor_iff (m : DeadReckoner F) (fix : GpsFix F) :
    m.KeepsPredictor fix ↔ m.dtBlend (m.monoSecs fix.t.mono) < m.blendTau := by
  have h5 : (5.0 : F) = 5 := by norm_num
  have h1 : (1.0 : F) = 1 := by norm_num
  unfold KeepsPredictor
  rw [dtBlend_eq, h5, h1]
  cases m.lastGpsMono with
  | none => exact Iff.rfl
  | some prev =>
    dsimp only
    split
    · exact min_lt_iff.symm
    · exact Iff.rfl

variable [Libm F]

/-- **In Normal, a locked dead-reckoner mixes.** -/
theorem onGpsFix_vel {F : Type} [Field F] [LinearOrder F] [Libm F]
    {m : DeadReckoner F} (hlocked : m.anchorLocked = true)
    (hnormal : m.state = .normal) {fix : GpsFix F} {vg : NedVel F}
    (hv : gpsVelocity fix = some vg) :
    (m.onGpsFix fix).strapdown.vel = m.strapdown.vel.mixed (m.blendGain fix) vg := by
  obtain ⟨_, _, hs⟩ := seedYaw_eq { m with lastGpsMono := some (m.monoSecs fix.t.mono) } fix
  have hpart (g v w : F) : v + g * (w - v) = (1 - g) * v + g * w := by ring
  unfold onGpsFix
  dsimp only
  rw [hs, if_neg (by simp [hlocked]), if_pos (.inl hnormal)]
  unfold blend
  rw [hv]
  dsimp only [Strapdown.setVel]
  rw [hpart, hpart, hpart]
  rfl

/-- **When a fix does not take over the velocity.** On every fix with a velocity, a locked
    dead-reckoner in Normal mixes its velocity with the fix's, in a share of the fix that is
    positive, and less than one if and only if the capped gap before the fix falls short of the
    time constant. -/
theorem blend_gain_lt_one_iff {m : DeadReckoner F} (hlocked : m.anchorLocked = true)
    (hnormal : m.state = .normal) (fix : GpsFix F) :
    (∀ vg, gpsVelocity fix = some vg →
      (m.onGpsFix fix).strapdown.vel = m.strapdown.vel.mixed (m.blendGain fix) vg) ∧
    0 < m.blendGain fix ∧ (m.blendGain fix < 1 ↔ m.KeepsPredictor fix) := by
  obtain ⟨hpos, hlt⟩ :=
    clamp_div_lt_one (m.dtBlend_pos (m.monoSecs fix.t.mono)) m.blendTau_pos
  refine ⟨fun vg hv => onGpsFix_vel hlocked hnormal hv, hpos, ?_⟩
  rw [keepsPredictor_iff]
  exact hlt

/-- An armed task at rest, whose last fix was at 95 ms. -/
def resting : DeadReckoner ℚ := (run Fusion.step (Fusion.new quickCfg 0) Fusion.arming).nav

/-- A fix at ten metres a second north, at `ms` milliseconds. -/
def fastFix (ms : Nat) : GpsFix ℚ :=
  { fixAt ms 0 with speedMps := some 10, courseDeg := some 0 }

variable [Nalgebra F]

/-- A good second after the last fix, the fix has a third of the velocity and a little more. -/
theorem blend_gain_second : (resting.onGpsFix (fastFix 1105)).strapdown.vel =
    resting.strapdown.vel.mixed (resting.blendGain (fastFix 1105)) ⟨10, 0, 0⟩ ∧
      resting.blendGain (fastFix 1105) < 1 := by
  have h := blend_gain_lt_one_iff (m := resting) (by decide +kernel) (by decide +kernel)
    (fastFix 1105)
  exact ⟨h.1 _ (by decide +kernel), h.2.2.mpr (by decide +kernel)⟩

/-- A good three seconds after it, under the default configuration's time constant, the fix takes
    the velocity over. -/
theorem blend_takes_over :
    quickCfg.validate = .ok () ∧ resting.anchorLocked = true ∧
    resting.state = .normal ∧ resting.cfg.blendTauS = (NavConfig.default (α := ℚ)).blendTauS ∧
    ¬ resting.blendGain (fastFix 3105) < 1 ∧
    resting.strapdown.vel = ⟨0, 0, 0⟩ ∧
    (resting.onGpsFix (fastFix 3105)).strapdown.vel = ⟨10, 0, 0⟩ :=
  ⟨runChecks_ok.mpr (by decide +kernel), by decide +kernel, by decide +kernel,
    by decide +kernel, by decide +kernel, by decide +kernel, by decide +kernel⟩

end DeadReckoner

end FlyingSquirrel
