import FlyingSquirrel.Lib.Run
import FlyingSquirrel.Nav.Integration
import Mathlib.Tactic.Ring

/-!
# What the velocity-aiding lane sees

The lane compares GPS with a track that GPS has not touched. There is no such track in the
code: there is the blended one, and two sums of what the blend put into it. The track itself
is a ghost here, a second strapdown that is **copied where the sums are zeroed and is
integrated, but never blended**. `aiding_vel` is the difference of the two velocities because
integration adds the same to both: its increment does not depend on the velocity.
-/

set_option autoImplicit false

namespace FlyingSquirrel

open Lib

/-- An operation of the dead-reckoner. -/
inductive NavOp (α : Type)
  | step (sample : ImuSample α)
  | onGpsFix (fix : GpsFix α)
  | setState (state : NavStateKind)
  | reAnchorAfterClearing (fix : GpsFix α)

namespace DeadReckoner

section Model

variable {α : Type} [Zero α] [One α] [Neg α] [Add α] [Sub α] [Mul α] [Div α] [NatCast α]
  [OfScientific α] [LT α] [LE α] [DecidableLT α] [DecidableLE α] [Max α] [Min α] [Libm α]
  [FiniteTest α] [Nalgebra α]

def opStep (m : DeadReckoner α) : NavOp α → DeadReckoner α × List Unit
  | .step sample => ((m.step sample).1, [])
  | .onGpsFix fix => (m.onGpsFix fix, [])
  | .setState state => (m.setState state, [])
  | .reAnchorAfterClearing fix => (m.reAnchorAfterClearing fix, [])

/-- The free-inertial track: what each sample feeds the strapdown, and a copy of it at each
    anchor reset, its last acceleration included. -/
def freeInertial (free : Strapdown α) (m : DeadReckoner α) (op : NavOp α)
    (m' : DeadReckoner α) : Strapdown α :=
  match op with
  | .step sample =>
    match m.integrates sample with
    | some dt => free.integrate (m.accelFed sample (m.monoSecs sample.t.mono) dt) dt
    | none => free
  | .onGpsFix _ => if m.anchorLocked then free else m'.strapdown
  | .setState _ => free
  | .reAnchorAfterClearing _ => m'.strapdown

/-- The dead-reckoner beside its free-inertial track. -/
def aidedStep : DeadReckoner α × Strapdown α → NavOp α →
    (DeadReckoner α × Strapdown α) × List Unit :=
  ghost opStep freeInertial

/-- On both horizontal axes the aiding velocity is what separates the two tracks. -/
def AidingIsImport (x : DeadReckoner α × Strapdown α) : Prop :=
  x.1.aidingVel.n = x.1.strapdown.vel.n - x.2.vel.n ∧
    x.1.aidingVel.e = x.1.strapdown.vel.e - x.2.vel.e

end Model

section Runs

variable {F : Type} [Field F] [LinearOrder F] [Libm F]

/-- The two tracks are fed alike, and the sums are what separates them. -/
structure Aided (x : DeadReckoner F × Strapdown F) : Prop where
  lastA : x.2.lastA = x.1.strapdown.lastA
  north : x.1.aidingN = x.1.strapdown.vel.n - x.2.vel.n
  east : x.1.aidingE = x.1.strapdown.vel.e - x.2.vel.e

section

omit [LinearOrder F] [Libm F]

/-- A track that is a copy, with the sums at zero. -/
theorem Aided.of_copy {m : DeadReckoner F} (hn : m.aidingN = 0) (he : m.aidingE = 0) :
    Aided (m, m.strapdown) := ⟨rfl, by simp [hn], by simp [he]⟩

theorem Aided.integrate {m m' : DeadReckoner F} {free : Strapdown F} (h : Aided (m, free))
    (a : Vec3 F) (dt : F) (hs : m'.strapdown = m.strapdown.integrate a dt)
    (hn : m'.aidingN = m.aidingN) (he : m'.aidingE = m.aidingE) :
    Aided (m', free.integrate a dt) := by
  obtain ⟨hlast, hnorth, heast⟩ := h
  dsimp only at hlast hnorth heast
  refine ⟨?_, ?_, ?_⟩
  · dsimp only
    rw [hs]
    rfl
  · dsimp only
    rw [hs, hn, hnorth]
    unfold Strapdown.integrate
    dsimp only
    rw [hlast]
    ring
  · dsimp only
    rw [hs, he, heast]
    unfold Strapdown.integrate
    dsimp only
    rw [hlast]
    ring

end

theorem Aided.blend {m : DeadReckoner F} {free : Strapdown F} (h : Aided (m, free))
    (fix : GpsFix F) (dt : F) : Aided (m.blend fix dt, free) := by
  obtain ⟨hlast, hnorth, heast⟩ := h
  dsimp only at hlast hnorth heast
  unfold DeadReckoner.blend
  cases gpsVelocity fix with
  | none => exact ⟨hlast, hnorth, heast⟩
  | some vg =>
    refine ⟨hlast, ?_, ?_⟩
    · dsimp only [Strapdown.setVel]
      rw [hnorth]
      ring
    · dsimp only [Strapdown.setVel]
      rw [heast]
      ring

theorem Aided.onGpsFix {m : DeadReckoner F} {free : Strapdown F} (h : Aided (m, free))
    (fix : GpsFix F) :
    Aided (m.onGpsFix fix, if m.anchorLocked then free else (m.onGpsFix fix).strapdown) := by
  obtain ⟨_, _, hs⟩ := seedYaw_eq { m with lastGpsMono := some (m.monoSecs fix.t.mono) } fix
  unfold DeadReckoner.onGpsFix
  dsimp only
  rw [hs]
  cases hl : m.anchorLocked with
  | false =>
    -- a fix that sets the anchor starts both tracks again
    rw [if_pos rfl, if_neg (by simp)]
    exact .of_copy rfl rfl
  | true =>
    rw [if_neg (by simp), if_pos rfl]
    split
    · apply Aided.blend
      exact ⟨h.lastA, h.north, h.east⟩
    · exact ⟨h.lastA, h.north, h.east⟩

variable [Nalgebra F]

theorem Aided.step {x : DeadReckoner F × Strapdown F} (h : Aided x) (op : NavOp F) :
    Aided (aidedStep x op).1 := by
  obtain ⟨m, free⟩ := x
  cases op with
  | step sample =>
    show Aided ((m.step sample).1, freeInertial free m (.step sample) (m.step sample).1)
    unfold freeInertial
    dsimp only
    have hstep := step_stepped m sample
    generalize (m.step sample).1 = m' at hstep ⊢
    generalize (m.step sample).2 = answer at hstep
    cases hstep with
    | skipped hi hs hn he _ _ =>
      -- neither track integrates a sample that is skipped
      rw [hi]
      refine ⟨?_, ?_, ?_⟩
      · dsimp only
        rw [hs]
        exact h.lastA
      · dsimp only
        rw [hs, hn]
        exact h.north
      · dsimp only
        rw [hs, he]
        exact h.east
    | integrated hi hs hn he =>
      rw [hi]
      exact h.integrate _ _ hs hn he
  | onGpsFix fix => exact h.onGpsFix fix
  | setState state => exact ⟨h.lastA, h.north, h.east⟩
  | reAnchorAfterClearing fix => exact .of_copy rfl rfl

/-- **The aiding signal is exactly what the blend imported.** After any interleaving of
    samples, fixes, state changes and re-anchorings, the aiding velocity is the strapdown
    velocity less the free-inertial one. -/
theorem aiding_is_import (cfg : NavConfig F) (boot : Instant) (ops : List (NavOp F)) :
    AidingIsImport (run aidedStep (.new cfg boot, .new) ops) := by
  have hstart : Aided (DeadReckoner.new cfg boot, (Strapdown.new : Strapdown F)) :=
    .of_copy rfl rfl
  have hrun : Aided (run aidedStep (DeadReckoner.new cfg boot, .new) ops) :=
    run_invariant (fun x op hx => hx.step op) hstart ops
  exact ⟨hrun.north, hrun.east⟩

end Runs

end DeadReckoner
end FlyingSquirrel
