import FlyingSquirrel.Detect.Lanes
import Mathlib.Algebra.Order.Floor.Semiring
import Mathlib.Tactic.NormNum

/-!
# A constant offset

An armed lane that holds nothing is given the same residual `c` for ever. Its floor moves towards
`c` by a twentieth, and the reference `e` that gives decides everything: over it, the lane gains
`c - e` on every fix and is at its threshold **exactly when that many of them are**; at it or
under it, the floor goes on learning and the reference never falls back below `c`.
-/

set_option autoImplicit false

namespace FlyingSquirrel

open Lib

namespace DriftDetector

variable {F : Type} [Field F] [LinearOrder F]

section

omit [LinearOrder F]

theorem axisNoiseAlpha_eq : (axisNoiseAlpha : F) = 0.05 := rfl

theorem axisNoiseFactor_eq : (axisNoiseFactor : F) = 2.5 := rfl

end

variable [IsStrictOrderedRing F]

/-- The lane fed a constant is the library's, with nothing on the other side. -/
theorem fed_constant {d : DriftDetector F} (hw : warmupFixes ≤ d.warmup)
    (hzero : d.state = CusumState.default) {l : Lane} (hl : l.isAxis = true)
    (hf : 0 ≤ d.laneFloor l) {c : F} (hc : 0 < c) {x : ℕ → Reading F}
    (hx : ∀ n, l.input (x n).r = c) (n : ℕ) :
    (fed d x n).adaptive l = Adaptive.after d.cfg.cusumKM axisNoiseFactor axisNoiseAlpha
        ⟨0, d.laneFloor l⟩ (fun _ => c) n ∧
      l.opposite.sum (fed d x n).state = 0 ∧ 0 ≤ (fed d x n).laneFloor l := by
  induction n with
  | zero =>
    unfold fed adaptive
    rw [hzero]
    simp [Adaptive.after, hf]
  | succ n ih =>
    obtain ⟨hlane, hopp, hfloor⟩ := ih
    have harmed : warmupFixes ≤ (fed d x n).warmup := hw.trans (fed_warmup d x n)
    have hv : 0 ≤ l.input (x n).r := (hx n).symm ▸ hc.le
    have hlearnt : 0 ≤ ((fed d x n).learnFloors (x n).r).laneFloor l := by
      rw [learnFloors_axis hl hopp hv]
      split
      · exact ewma_ge (by norm_num [axisNoiseAlpha_eq]) (by norm_num [axisNoiseAlpha_eq]) hfloor hv
      · exact hfloor
    have href : 0 ≤ (fed d x n).laneReference (x n).r l := by
      rw [laneReference_axis _ _ hl]
      exact le_max_of_le_right (mul_nonneg hlearnt (by norm_num [axisNoiseFactor_eq]))
    obtain ⟨hstep, hother⟩ := axis_step harmed hl hopp hv href
    refine ⟨?_, hother, ?_⟩
    · rw [Adaptive.after, ← hlane, ← hx n, ← fed_cfg d x n]
      exact hstep
    · show 0 ≤ ((fed d x n).evaluate (x n).r (x n).hdop (x n).sats).1.laneFloor l
      rw [evaluate_laneFloor harmed]
      exact hlearnt

/-- **The law of a constant offset.** An armed detector whose sums are zero and whose floor on an
    axis is not negative is given readings with the same residual `c > 0` on a lane of that axis.
    The lane reaches the threshold at some fix if and only if `c` exceeds the reference `e` of the
    first fix, and then first on fix `⌈h / (c - e)⌉`; otherwise it stays at zero. -/
theorem constant_offset_law [FloorSemiring F] {d : DriftDetector F}
    (hw : warmupFixes ≤ d.warmup) (hzero : d.state = CusumState.default)
    (hh : 0 < d.cfg.cusumHM) {l : Lane} (hl : l.isAxis = true) (hf : 0 ≤ d.laneFloor l) {c : F}
    (hc : 0 < c) {x : ℕ → Reading F} (hx : ∀ n, l.input (x n).r = c) :
    let e := max d.cfg.cusumKM (2.5 * (0.95 * d.laneFloor l + 0.05 * c))
    let reached := {n : ℕ | d.cfg.cusumHM ≤ l.sum (fed d x n).state}
    ((∃ n, n ∈ reached) ↔ e < c) ∧
      (e < c → IsLeast reached ⌈d.cfg.cusumHM / (c - e)⌉₊) ∧
      (c ≤ e → ∀ n, l.sum (fed d x n).state = 0) := by
  intro e reached
  have he : max d.cfg.cusumKM (ewma axisNoiseAlpha (d.laneFloor l) c * axisNoiseFactor) = e := by
    rw [axisNoiseAlpha_eq, axisNoiseFactor_eq, ewma, mul_comm]
    norm_num [e]
  have hsum (n : ℕ) : l.sum (fed d x n).state = (Adaptive.after d.cfg.cusumKM axisNoiseFactor
      axisNoiseAlpha ⟨0, d.laneFloor l⟩ (fun _ => c) n).sum :=
    congrArg Adaptive.sum (fed_constant hw hzero hl hf hc hx n).1
  have hgains (h : e < c) (n : ℕ) : l.sum (fed d x n).state = n * (c - e) := by
    rw [hsum]
    cases n with
    | zero => simp [Adaptive.after]
    | succ n =>
      rw [Adaptive.constant_sum (by rw [he]; exact h), he]
      push_cast
      rfl
  have hsilent (h : c ≤ e) (n : ℕ) : l.sum (fed d x n).state = 0 := by
    rw [hsum, Adaptive.after_quiet fun i _ => Adaptive.constant_quiet
      (by norm_num [axisNoiseFactor_eq]) hc.le (by norm_num [axisNoiseAlpha_eq])
      (by norm_num [axisNoiseAlpha_eq]) (by rw [he]; exact h) i]
  have hfirst (h : e < c) (n : ℕ) : n ∈ reached ↔ ⌈d.cfg.cusumHM / (c - e)⌉₊ ≤ n := by
    show d.cfg.cusumHM ≤ l.sum (fed d x n).state ↔ _
    rw [hgains h, Nat.ceil_le, div_le_iff₀ (sub_pos.mpr h)]
  refine ⟨⟨?_, ?_⟩, ?_, hsilent⟩
  · rintro ⟨n, hn⟩
    by_contra hle
    have hreached : d.cfg.cusumHM ≤ l.sum (fed d x n).state := hn
    rw [hsilent (not_lt.mp hle)] at hreached
    exact absurd hreached (not_le.mpr hh)
  · intro h
    exact ⟨_, (hfirst h _).mpr le_rfl⟩
  · intro h
    exact ⟨(hfirst h _).mpr le_rfl, fun n hn => (hfirst h n).mp hn⟩

/-- A fix with Doppler, `n` north of dead reckoning. -/
def northOf (n : ℚ) : Reading ℚ where
  r :=
    { dpos := ⟨n, 0, 0⟩, dvel := ⟨0, 0, 0⟩, magPos := fabs n, magVel := 0, dvelKnown := true,
      dvelFree := ⟨0, 0, 0⟩, magVelFree := 0, maneuvering := false }
  hdop := none
  sats := none

/-- The default detector after a warm-up at rest. -/
def warmed : DriftDetector ℚ := fed (new DetectConfig.default) (fun _ => northOf 0) 20

/-- Two metres south, then, reach the threshold of 25 on the 25th fix. -/
theorem constant_offset_warmed :
    IsLeast {n : ℕ | warmed.cfg.cusumHM ≤
        Lane.negN.sum (fed warmed (fun _ => northOf (-2)) n).state}
      ⌈warmed.cfg.cusumHM / (2 - max warmed.cfg.cusumKM
        (2.5 * (0.95 * warmed.laneFloor .negN + 0.05 * 2)))⌉₊ :=
  (constant_offset_law (d := warmed) (l := .negN) (c := 2) (x := fun _ => northOf (-2))
    (by decide +kernel) rfl (by decide +kernel) rfl (by decide +kernel) (by decide +kernel)
    (fun _ => by decide +kernel)).2.1 (by decide +kernel)

example : ⌈warmed.cfg.cusumHM / (2 - max warmed.cfg.cusumKM
    (2.5 * (0.95 * warmed.laneFloor .negN + 0.05 * 2)))⌉₊ = 25 := by decide +kernel

end DriftDetector

end FlyingSquirrel
