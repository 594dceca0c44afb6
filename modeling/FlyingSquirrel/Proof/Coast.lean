import FlyingSquirrel.Nav.Integration
import FlyingSquirrel.Proof.Latch
import Mathlib.Algebra.BigOperators.Group.List.Basic
import Mathlib.Tactic.Linarith
import Mathlib.Tactic.NormNum.OfScientific
import Mathlib.Tactic.Ring

/-!
# Coasting over gaps

A vehicle that does not accelerate is a line in the track: position goes on by velocity times
time. Which time, the gap gate says. A gap within the gate counts for itself, at least for a
microsecond, and **a gap over the gate counts for nothing**, although velocity is kept and the
next sample is measured from the one that was skipped.

So a stall shifts the track by velocity times its length, and nothing later shifts it back.
-/

set_option autoImplicit false

namespace FlyingSquirrel

open Lib

/-- The position after `time` at a velocity. -/
def NedPos.travel {α : Type} [Add α] [Mul α] (p : NedPos α) (v : NedVel α) (time : α) : NedPos α :=
  ⟨p.n + v.n * time, p.e + v.e * time, p.d + v.d * time⟩

theorem NedPos.travel_zero {F : Type} [Field F] (p : NedPos F) (v : NedVel F) :
    p.travel v 0 = p := by simp [travel]

theorem NedPos.travel_add {F : Type} [Field F] (p : NedPos F) (v : NedVel F) (s t : F) :
    (p.travel v s).travel v t = p.travel v (s + t) := by
  unfold travel
  simp only [mul_add, add_assoc]

namespace DeadReckoner

section Model

variable {α : Type} [Zero α] [One α] [Neg α] [Add α] [Sub α] [Mul α] [Div α] [NatCast α]
  [OfScientific α] [LT α] [LE α] [DecidableLT α] [DecidableLE α] [Max α] [Min α] [Libm α]
  [FiniteTest α] [Nalgebra α]

def sampleStep (m : DeadReckoner α) (sample : ImuSample α) : DeadReckoner α × List Unit :=
  ((m.step sample).1, [])

/-- No acceleration is fed to the strapdown, where the sample is integrated. -/
def FedNothing (m : DeadReckoner α) (sample : ImuSample α) : Prop :=
  ∀ dt ∈ m.integrates sample, m.accelFed sample (m.monoSecs sample.t.mono) dt = ⟨0, 0, 0⟩

instance [DecidableEq α] (m : DeadReckoner α) (sample : ImuSample α) :
    Decidable (m.FedNothing sample) :=
  inferInstanceAs (Decidable (∀ dt ∈ m.integrates sample, _))

/-- Initialised and anchored, with the last sample at `t₀` and no acceleration integrated
    last. -/
structure Coasting (m : DeadReckoner α) (t₀ : α) : Prop where
  ready : m.isInitialized = true
  lastImuMono : m.lastImuMono = some t₀
  lastA : ∀ a ∈ m.strapdown.lastA, a = ⟨0, 0, 0⟩

def times (m : DeadReckoner α) (samples : List (ImuSample α)) : List α :=
  samples.map fun sample => m.monoSecs sample.t.mono

/-- The time a gap counts for. -/
def credited (m : DeadReckoner α) (gap : α) : α :=
  if gap ≤ 0 ∨ gap > m.cfg.maxImuDtS then 0 else max gap 1e-6

/-- The time the gaps of a stream count for. -/
def creditedTime (m : DeadReckoner α) (t₀ : α) (samples : List (ImuSample α)) : α :=
  ((gaps t₀ (m.times samples)).map m.credited).sum

/-- The time in gaps over the gate. -/
def stalledTime (m : DeadReckoner α) (t₀ : α) (samples : List (ImuSample α)) : α :=
  ((gaps t₀ (m.times samples)).filter (m.cfg.maxImuDtS < ·)).sum

def elapsed (m : DeadReckoner α) (t₀ : α) (samples : List (ImuSample α)) : α :=
  (m.times samples).getLastD t₀ - t₀

end Model

section Exact

variable {F : Type} [Field F] [LinearOrder F] [Libm F] [Nalgebra F] {m : DeadReckoner F} {t₀ : F}
  {sample : ImuSample F} {samples : List (ImuSample F)}

/-- Fed no acceleration twice, the strapdown goes on by its velocity. -/
theorem integrate_nothing {F : Type} [Field F] [LinearOrder F] [IsStrictOrderedRing F]
    {s : Strapdown F} (h : ∀ a ∈ s.lastA, a = ⟨0, 0, 0⟩) (dt : F) :
    s.integrate ⟨0, 0, 0⟩ dt =
      { pos := s.pos.travel s.vel dt, vel := s.vel, lastA := some ⟨0, 0, 0⟩ } := by
  have hprev : s.lastA.getD ⟨0, 0, 0⟩ = ⟨0, 0, 0⟩ := by
    cases ha : s.lastA with
    | none => rfl
    | some a => exact h a ha
  have hhalf (v : F) : 0.5 * (v + v) = v := by
    rw [← two_mul, ← mul_assoc]
    norm_num
  unfold Strapdown.integrate NedPos.travel
  simp only [hprev, add_zero, mul_zero, zero_mul, hhalf]

theorem integrates_eq {F : Type} [Field F] [LinearOrder F] {m : DeadReckoner F} {t₀ : F}
    (h : m.Coasting t₀) (sample : ImuSample F) :
    (m.integrates sample).getD 0 = m.credited (m.monoSecs sample.t.mono - t₀) := by
  unfold integrates credited imuGap
  rw [h.lastImuMono, h.ready, finiteVec_field, finiteVec_field]
  dsimp only
  by_cases hback : m.monoSecs sample.t.mono - t₀ ≤ 0
  · simp [hback]
  · by_cases hover : m.monoSecs sample.t.mono - t₀ > m.cfg.maxImuDtS
    · simp [hback, hover]
    · simp [hback, hover]

/-- What a sample leaves as it is, once there is an origin, and when the next gap starts. -/
theorem step_ready (h : m.isInitialized = true) (sample : ImuSample F) :
    (m.step sample).1.isInitialized = true ∧ (m.step sample).1.cfg = m.cfg ∧
      (m.step sample).1.boot = m.boot ∧
      (m.step sample).1.lastImuMono = some (m.monoSecs sample.t.mono) := by
  obtain ⟨hinit, horigin⟩ := Bool.and_eq_true_iff.mp h
  obtain ⟨hcfg, hboot, hstill, hlast⟩ := step_initialized hinit sample
  refine ⟨?_, hcfg, hboot, hlast⟩
  unfold isInitialized
  rw [hstill, (step_sameAnchor m sample).origin, horigin]
  rfl

variable [IsStrictOrderedRing F]

/-- One sample of a coasting vehicle: the position goes on by the time the gap counts for. -/
theorem Coasting.next (h : m.Coasting t₀) (hfed : m.FedNothing sample) :
    (m.step sample).1.Coasting (m.monoSecs sample.t.mono) ∧
      (m.step sample).1.strapdown.vel = m.strapdown.vel ∧
      (m.step sample).1.strapdown.pos =
        m.strapdown.pos.travel m.strapdown.vel
          (m.credited (m.monoSecs sample.t.mono - t₀)) := by
  obtain ⟨hready, -, -, hlast⟩ := step_ready h.ready sample
  have hcredit := integrates_eq h sample
  have hstep := step_stepped m sample
  generalize (m.step sample).1 = m' at hready hlast hstep ⊢
  generalize (m.step sample).2 = answer at hstep
  cases hstep with
  | skipped hi hs =>
    rw [hi] at hcredit
    rw [← hcredit, hs]
    refine ⟨⟨hready, hlast, by rw [hs]; exact h.lastA⟩, rfl, ?_⟩
    exact (NedPos.travel_zero _ _).symm
  | @integrated dt hi hs =>
    rw [hi] at hcredit
    rw [hfed dt hi, integrate_nothing h.lastA] at hs
    rw [← hcredit, hs]
    refine ⟨⟨hready, hlast, ?_⟩, rfl, rfl⟩
    rw [hs]
    rintro a ⟨⟩
    rfl

theorem run_coasts (h : m.Coasting t₀) (hfed : Along sampleStep FedNothing m samples) :
    (run sampleStep m samples).strapdown.vel = m.strapdown.vel ∧
      (run sampleStep m samples).strapdown.pos =
        m.strapdown.pos.travel m.strapdown.vel (m.creditedTime t₀ samples) := by
  induction samples generalizing m t₀ with
  | nil => exact ⟨rfl, (NedPos.travel_zero _ _).symm⟩
  | cons sample samples ih =>
    obtain ⟨hone, hrest⟩ := hfed
    obtain ⟨hnext, hvel, hpos⟩ := h.next hone
    obtain ⟨-, hcfg, hboot, -⟩ := step_ready h.ready sample
    obtain ⟨hvels, hposs⟩ := ih hnext hrest
    have hcredit : (m.step sample).1.credited = m.credited := by
      funext gap
      unfold credited
      rw [hcfg]
    have htimes : (m.step sample).1.times samples = m.times samples := by
      unfold times monoSecs
      rw [hboot]
    refine ⟨hvels.trans hvel, ?_⟩
    rw [run_cons]
    refine hposs.trans ?_
    rw [hvel, hpos, NedPos.travel_add]
    unfold creditedTime
    rw [htimes, hcredit]
    rfl

/-- Where no gap is under a microsecond, what counts is what is not in a stall. -/
theorem creditedTime_eq {F : Type} [Field F] [LinearOrder F] [IsStrictOrderedRing F]
    {m : DeadReckoner F} {t₀ : F} {samples : List (ImuSample F)}
    (hgaps : ∀ gap ∈ gaps t₀ (m.times samples), (1e-6 : F) ≤ gap) :
    m.creditedTime t₀ samples = m.elapsed t₀ samples - m.stalledTime t₀ samples := by
  unfold creditedTime elapsed stalledTime
  rw [← sum_gaps]
  generalize gaps t₀ (m.times samples) = gs at hgaps ⊢
  induction gs with
  | nil => simp
  | cons gap gs ih =>
    have hgap : (1e-6 : F) ≤ gap := hgaps gap List.mem_cons_self
    have hpos : ¬ gap ≤ 0 := not_le.mpr (lt_of_lt_of_le (by norm_num) hgap)
    rw [List.map_cons, List.sum_cons, List.sum_cons,
      ih fun g hg => hgaps g (List.mem_cons_of_mem _ hg)]
    by_cases hover : m.cfg.maxImuDtS < gap
    · rw [List.filter_cons_of_pos (by simpa using hover), List.sum_cons]
      have hcredit : m.credited gap = 0 := if_pos (.inr hover)
      rw [hcredit]
      ring
    · rw [List.filter_cons_of_neg (by simpa using hover)]
      have hcredit : m.credited gap = gap := by
        unfold credited
        rw [if_neg (by simp [hpos, hover]), max_eq_left hgap]
      rw [hcredit]
      ring

/-- **A coasting vehicle goes on by the time its gaps count for.** Between any two samples of a
    stream that feeds no acceleration, velocity is kept and position goes on by velocity times
    the time credited; and that is the time elapsed less the time in gaps over the gate, where
    no gap is under a microsecond. -/
theorem coasts_over_gaps (h : m.Coasting t₀) (hfed : Along sampleStep FedNothing m samples) :
    (run sampleStep m samples).strapdown.vel = m.strapdown.vel ∧
      (run sampleStep m samples).strapdown.pos =
        m.strapdown.pos.travel m.strapdown.vel (m.creditedTime t₀ samples) ∧
      ((∀ gap ∈ gaps t₀ (m.times samples), 1e-6 ≤ gap) →
        (run sampleStep m samples).strapdown.pos =
          m.strapdown.pos.travel m.strapdown.vel
            (m.elapsed t₀ samples - m.stalledTime t₀ samples)) := by
  obtain ⟨hvel, hpos⟩ := run_coasts h hfed
  refine ⟨hvel, hpos, fun hgaps => ?_⟩
  rw [hpos, creditedTime_eq hgaps]

end Exact

def levelSamples (times : List Nat) : List (ImuSample ℚ) := times.map levelSample

/-- Anchored at twenty metres a second, and one sample later. -/
def cruising : DeadReckoner ℚ :=
  let m := run sampleStep (.new quickCfg.nav 0)
    (levelSamples [0, 10, 20, 30, 40, 50, 60, 70, 80, 90])
  let m := m.onGpsFix { fixAt 95 0 with speedMps := some 20, courseDeg := some 0 }
  (m.step (levelSample 100)).1

theorem cruising_coasting : cruising.Coasting 0.1 :=
  ⟨by decide +kernel, by decide +kernel, by decide +kernel⟩

/-- Two samples, a stall, and two samples. -/
def acrossStall : List (ImuSample ℚ) := levelSamples [110, 120, 400, 410]

theorem coasts_across_stall :
    (run sampleStep cruising acrossStall).strapdown.pos =
      cruising.strapdown.pos.travel cruising.strapdown.vel
        (cruising.elapsed 0.1 acrossStall - cruising.stalledTime 0.1 acrossStall) :=
  (coasts_over_gaps cruising_coasting (by decide +kernel)).2.2 (by decide +kernel)

/-- The vehicle has gone on for 310 ms, and its track for 30 ms. -/
theorem stall_loses_motion :
    cruising.Coasting 0.1 ∧ Along sampleStep FedNothing cruising acrossStall ∧
      (∀ gap ∈ gaps 0.1 (cruising.times acrossStall), 0 < gap) ∧
      (run sampleStep cruising acrossStall).strapdown.pos ≠
        cruising.strapdown.pos.travel cruising.strapdown.vel
          (cruising.elapsed 0.1 acrossStall) :=
  ⟨cruising_coasting, by decide +kernel, by decide +kernel, by decide +kernel⟩

end DeadReckoner
end FlyingSquirrel
