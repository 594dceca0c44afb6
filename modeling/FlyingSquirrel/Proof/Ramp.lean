import FlyingSquirrel.Detect.Lanes
import FlyingSquirrel.Fusion.Config
import FlyingSquirrel.Proof.Offset

/-!
# A ramp against its own floor

The residual grows by `c` on every fix, and the two lanes that see it learn their floors from it
until they hold something. A floor lags a ramp by nineteen fixes, so a multiple of it **overtakes
the ramp after a while**: two and a half times the axis floor on fix 21, one and a half times the
magnitude floor on fix 54, from floors of zero. A ramp that has not by then exceeded the base
reference is never detected, however far it goes.

`RampOutruns` is that condition with the floor in closed form, for any floor.
-/

set_option autoImplicit false

namespace FlyingSquirrel

open Lib

namespace DriftDetector

variable {F : Type} [Field F] [LinearOrder F] [IsStrictOrderedRing F]

/-- Readings of a ramp north at the rate `c`: Doppler known, no velocity residual, and no
    quality. -/
structure IsRamp (c : F) (x : ℕ → Reading F) : Prop where
  north : ∀ n, (x n).r.dpos.n = c * (n + 1)
  east : ∀ n, (x n).r.dpos.e = 0
  magPos : ∀ n, (x n).r.magPos = c * (n + 1)
  dvelKnown : ∀ n, (x n).r.dvelKnown = true
  magVel : ∀ n, (x n).r.magVel = 0
  magVelFree : ∀ n, (x n).r.magVelFree = 0
  hdop : ∀ n, (x n).hdop = none
  sats : ∀ n, (x n).sats = none

/-- On fix `i` the ramp exceeds the reference of a lane that has learnt from it ever since, with
    the base `k`, the factor `m` and the floor `f` to start from. -/
def RampOutruns (k m f c : F) (i : ℕ) : Prop :=
  max k (m * (c * (i - 19) + (f + 19 * c) * 0.95 ^ i)) < c * i

/-- A floor that learns from a ramp, in closed form. -/
theorem learning_ramp (f c : F) (n : ℕ) :
    Adaptive.learning 0.05 f (fun n => c * (n + 1)) n =
      c * (n - 19) + (f + 19 * c) * 0.95 ^ n := by
  induction n with
  | zero =>
    rw [Adaptive.learning, Nat.cast_zero, pow_zero]
    ring
  | succ n ih =>
    rw [Adaptive.learning, ih, ewma, pow_succ]
    push_cast
    ring

theorem outruns_ramp {k m f c : F} (i : ℕ) :
    Adaptive.Outruns k m 0.05 f (fun n => c * (n + 1)) i ↔ RampOutruns k m f c (i + 1) := by
  unfold Adaptive.Outruns RampOutruns
  rw [learning_ramp, mul_comm m]
  push_cast
  exact Iff.rfl

/-- No ramp exceeds a positive base before it has begun. -/
theorem not_rampOutruns_zero {F : Type} [Field F] [LinearOrder F]
    {k m f c : F} (hk : 0 < k) : ¬ RampOutruns k m f c 0 := by
  intro h
  have hlt := (le_max_left k _).trans_lt h
  rw [Nat.cast_zero, mul_zero] at hlt
  exact lt_asymm hk hlt

/-- What an armed detector comes to on a ramp. -/
structure OnRamp (d : DriftDetector F) (c : F) (n : ℕ) (e : DriftDetector F) : Prop where
  north : e.adaptive .posN = Adaptive.after d.cfg.cusumKM 2.5 0.05 ⟨0, d.axisNoiseN⟩
    (fun n => c * (n + 1)) n
  magnitude : e.adaptive .mag = Adaptive.after d.cfg.magCusumKM 1.5 0.05 ⟨0, d.magNoiseEwma⟩
    (fun n => c * (n + 1)) n
  south : e.state.sNegN = 0
  east : e.state.sPosE = 0
  west : e.state.sNegE = 0
  velAiding : e.state.sVelAiding = 0
  velAidingFloor : 0 ≤ e.velAidingNoise

theorem adaptive_sum_nonneg {F : Type} [Field F] [LinearOrder F] {k m a f : F} {v : ℕ → F} (n : ℕ) :
    0 ≤ (Adaptive.after k m a ⟨0, f⟩ v n).sum := by
  cases n with
  | zero => exact le_rfl
  | succ n => exact cusum_nonneg _ _

/-- **One fix of a ramp.** -/
theorem OnRamp.next {d : DriftDetector F} (hk : 0 < d.cfg.cusumKM) {c : F} (hc : 0 < c)
    {x : ℕ → Reading F} (hx : IsRamp c x) {n : ℕ} {e : DriftDetector F} (hcfg : e.cfg = d.cfg)
    (hw : warmupFixes ≤ e.warmup) (h : OnRamp d c n e) :
    OnRamp d c (n + 1) (e.evaluate (x n).r (x n).hdop (x n).sats).1 := by
  have hv : 0 ≤ Lane.posN.input (x n).r := by
    show 0 ≤ (x n).r.dpos.n
    rw [hx.north]
    positivity
  have hmag : 0 ≤ e.state.sMag := by
    have hsum : e.state.sMag = _ := congrArg Adaptive.sum h.magnitude
    rw [hsum]
    exact adaptive_sum_nonneg n
  have href (l : Lane) (hl : l.isAxis = true) : 0 ≤ e.laneReference (x n).r l := by
    rw [laneReference_axis _ _ hl, hcfg]
    exact le_max_of_le_left hk.le
  have hvel : 0 ≤ (e.learnFloors (x n).r).velAidingNoise := by
    unfold learnFloors
    dsimp only
    split
    · exact ewma_ge (a := velAidingNoiseAlpha) (by norm_num [velAidingNoiseAlpha])
        (by norm_num [velAidingNoiseAlpha]) h.velAidingFloor (hx.magVelFree n).ge
    · exact h.velAidingFloor
  -- an empty lane with nothing on it stays empty
  have hempty (l : Lane) (hs : l.sum e.state = 0) (hi : l.input (x n).r = 0)
      (hr : 0 ≤ e.laneReference (x n).r l) :
      l.sum (e.evaluate (x n).r (x n).hdop (x n).sats).1.state = 0 := by
    rw [evaluate_sum hw, hs, hi]
    split
    · exact cusum_of_nonpos (by linarith)
    · rfl
  obtain ⟨hnorth, hsouth⟩ := axis_step hw (l := .posN) rfl h.south hv (href .posN rfl)
  refine ⟨?_, ?_, hsouth, ?_, ?_, ?_, ?_⟩
  · rw [hnorth, h.north, hcfg]
    show _ = Adaptive.step _ _ _ _ (c * (n + 1))
    rw [← hx.north n]
    rfl
  · rw [mag_step hw hmag, h.magnitude, hcfg, hx.magPos n]
    rfl
  · exact hempty .posE h.east (hx.east n) (href .posE rfl)
  · exact hempty .negE h.west (by simp [Lane.input, hx.east n]) (href .negE rfl)
  · exact hempty .velAiding h.velAiding (hx.magVelFree n)
      (le_max_of_le_right (mul_nonneg hvel (by norm_num [velAidingNoiseFactor])))
  · show 0 ≤ (e.evaluate (x n).r (x n).hdop (x n).sats).1.laneFloor .velAiding
    rw [evaluate_laneFloor hw]
    exact hvel

theorem fed_onRamp {d : DriftDetector F} (hk : 0 < d.cfg.cusumKM) (hw : warmupFixes ≤ d.warmup)
    (hzero : d.state = CusumState.default) (hvel : 0 ≤ d.velAidingNoise) {c : F} (hc : 0 < c)
    {x : ℕ → Reading F} (hx : IsRamp c x) (n : ℕ) : OnRamp d c n (fed d x n) := by
  induction n with
  | zero =>
    constructor
    all_goals simp [fed, adaptive, Adaptive.after, Lane.sum, laneFloor, hzero, hvel,
      CusumState.default]
  | succ n ih => exact ih.next hk hc hx (fed_cfg d x n) (hw.trans (fed_warmup d x n))

/-- One of the two lanes that see the ramp is outrun, or the velocity-aiding lane reports
    nothing at all. -/
def RampDetectable (d : DriftDetector F) (c : F) : Prop :=
  (∃ i, RampOutruns d.cfg.cusumKM 2.5 d.axisNoiseN c i) ∨
    (∃ i, RampOutruns d.cfg.magCusumKM 1.5 d.magNoiseEwma c i) ∨ d.cfg.velAidingCusumH ≤ 0

/-- A threshold, while the quality is unknown. -/
def plainThreshold (c : DetectConfig F) : Lane → F
  | .posN | .negN | .posE | .negE => c.cusumHM
  | .mag => c.magCusumHM
  | .velAiding => c.velAidingCusumH

section Detection

variable {d : DriftDetector F} {c : F} {x : ℕ → Reading F}

/-- A fix of the ramp is reported when a lane is then at its threshold. -/
theorem fires_iff {F : Type} [Field F] [LinearOrder F] {d : DriftDetector F} {c : F}
    {x : ℕ → Reading F} (hw : warmupFixes ≤ d.warmup) (hx : IsRamp c x) (n : ℕ) :
    ((fed d x n).evaluate (x n).r (x n).hdop (x n).sats).2 ≠ none ↔
      ∃ l, plainThreshold d.cfg l ≤ l.sum (fed d x (n + 1)).state := by
  have harmed : warmupFixes ≤ (fed d x n).warmup := hw.trans (fed_warmup d x n)
  have hplain : (fed d x n).laneThreshold (x n).hdop (x n).sats = plainThreshold d.cfg := by
    funext l
    rw [hx.hdop, hx.sats, ← fed_cfg d x n]
    cases l <;> rfl
  rw [evaluate_fires_iff harmed (finiteResidual_field (x n).r), hplain]
  rfl

theorem ramp_monotone (hc : 0 < c) : Monotone fun n : ℕ => c * ((n : F) + 1) := by
  intro i j hij
  have hcast : (i : F) ≤ j := Nat.cast_le.mpr hij
  exact mul_le_mul_of_nonneg_left (by linarith) hc.le

/-- What is reported on a ramp comes from a lane that it has outrun. -/
theorem detectable_of_fires [Archimedean F] (hk : 0 < d.cfg.cusumKM) (hh : 0 < d.cfg.cusumHM)
    (hhm : 0 < d.cfg.magCusumHM) (hw : warmupFixes ≤ d.warmup)
    (hzero : d.state = CusumState.default) (hvel : 0 ≤ d.velAidingNoise) (hc : 0 < c)
    (hx : IsRamp c x) {n : ℕ}
    (hn : ((fed d x n).evaluate (x n).r (x n).hdop (x n).sats).2 ≠ none) :
    RampDetectable d c := by
  have hramp := fed_onRamp hk hw hzero hvel hc hx (n + 1)
  obtain ⟨l, hl⟩ := (fires_iff hw hx n).mp hn
  cases l with
  | posN =>
    have hsum := hl.trans_eq (congrArg Adaptive.sum hramp.north)
    obtain ⟨i, hi⟩ := (Adaptive.reaches_iff (ramp_monotone hc) hh).mp ⟨_, hsum⟩
    exact .inl ⟨i + 1, (outruns_ramp i).mp hi⟩
  | negN => exact absurd (hl.trans_eq hramp.south) (not_le.mpr hh)
  | posE => exact absurd (hl.trans_eq hramp.east) (not_le.mpr hh)
  | negE => exact absurd (hl.trans_eq hramp.west) (not_le.mpr hh)
  | mag =>
    have hsum := hl.trans_eq (congrArg Adaptive.sum hramp.magnitude)
    obtain ⟨i, hi⟩ := (Adaptive.reaches_iff (ramp_monotone hc) hhm).mp ⟨_, hsum⟩
    exact .inr (.inl ⟨i + 1, (outruns_ramp i).mp hi⟩)
  | velAiding => exact .inr (.inr (hl.trans_eq hramp.velAiding))

/-- A lane that is empty to begin with is at a positive threshold only after a fix. -/
theorem fires_of_reached {F : Type} [Field F] [LinearOrder F] {d : DriftDetector F} {c : F}
    {x : ℕ → Reading F} (hw : warmupFixes ≤ d.warmup) (hzero : d.state = CusumState.default)
    (hx : IsRamp c x) {l : Lane} (hpos : 0 < plainThreshold d.cfg l) {n : ℕ}
    (hl : plainThreshold d.cfg l ≤ l.sum (fed d x n).state) :
    ∃ n, ((fed d x n).evaluate (x n).r (x n).hdop (x n).sats).2 ≠ none := by
  cases n with
  | zero =>
    rw [fed, hzero, Lane.sum_default] at hl
    exact absurd hl (not_le.mpr hpos)
  | succ n => exact ⟨n, (fires_iff hw hx n).mpr ⟨l, hl⟩⟩

theorem fires_of_detectable [Archimedean F] (hk : 0 < d.cfg.cusumKM) (hh : 0 < d.cfg.cusumHM)
    (hkm : 0 < d.cfg.magCusumKM) (hhm : 0 < d.cfg.magCusumHM) (hw : warmupFixes ≤ d.warmup)
    (hzero : d.state = CusumState.default) (hvel : 0 ≤ d.velAidingNoise) (hc : 0 < c)
    (hx : IsRamp c x) (h : RampDetectable d c) :
    ∃ n, ((fed d x n).evaluate (x n).r (x n).hdop (x n).sats).2 ≠ none := by
  rcases h with ⟨i, hi⟩ | ⟨i, hi⟩ | hdead
  · cases i with
    | zero => exact absurd hi (not_rampOutruns_zero hk)
    | succ i =>
      obtain ⟨n, hn⟩ := (Adaptive.reaches_iff (ramp_monotone hc) hh).mpr
        ⟨i, (outruns_ramp i).mpr hi⟩
      have hsum := congrArg Adaptive.sum (fed_onRamp hk hw hzero hvel hc hx n).north
      exact fires_of_reached hw hzero hx (l := .posN) hh (hn.trans_eq hsum.symm)
  · cases i with
    | zero => exact absurd hi (not_rampOutruns_zero hkm)
    | succ i =>
      obtain ⟨n, hn⟩ := (Adaptive.reaches_iff (ramp_monotone hc) hhm).mpr
        ⟨i, (outruns_ramp i).mpr hi⟩
      have hsum := congrArg Adaptive.sum (fed_onRamp hk hw hzero hvel hc hx n).magnitude
      exact fires_of_reached hw hzero hx (l := .mag) hhm (hn.trans_eq hsum.symm)
  · have hzero' : Lane.velAiding.sum (fed d x 1).state = 0 :=
      (fed_onRamp hk hw hzero hvel hc hx 1).velAiding
    exact ⟨0, (fires_iff hw hx 0).mpr ⟨.velAiding, hdead.trans_eq hzero'.symm⟩⟩

end Detection

/-- **Which ramps are detected.** Under a validated configuration, an armed detector whose sums
    are zero reports something on a ramp of rate `c > 0`, sooner or later, if and only if the
    ramp outruns the axis lane's floor or the magnitude lane's, or the threshold of the
    velocity-aiding lane is not positive. -/
theorem ramp_detected_iff [Archimedean F] {fc : FusionConfig F} (hvalid : fc.validate = .ok ())
    {d : DriftDetector F} (hcfg : d.cfg = fc.detect) (hw : warmupFixes ≤ d.warmup)
    (hzero : d.state = CusumState.default) (hvel : 0 ≤ d.velAidingNoise) {c : F} (hc : 0 < c)
    {x : ℕ → Reading F} (hx : IsRamp c x) :
    (∃ n, ((fed d x n).evaluate (x n).r (x n).hdop (x n).sats).2 ≠ none) ↔
      RampDetectable d c := by
  obtain ⟨hk, hh⟩ := FusionConfig.cusum_pos hvalid
  obtain ⟨hkm, hhm⟩ := FusionConfig.magCusum_pos hvalid
  rw [← hcfg] at hk hh hkm hhm
  constructor
  · rintro ⟨n, hn⟩
    exact detectable_of_fires hk hh hhm hw hzero hvel hc hx hn
  · exact fires_of_detectable hk hh hkm hhm hw hzero hvel hc hx

/-- Fix `n + 1` of a ramp north. -/
def ramp (c : ℚ) (n : ℕ) : Reading ℚ := northOf (c * (n + 1))

theorem ramp_isRamp {c : ℚ} (hc : 0 < c) : IsRamp c (ramp c) where
  north _ := rfl
  east _ := rfl
  magPos n := fabs_of_nonneg (by positivity)
  dvelKnown _ := rfl
  magVel _ := rfl
  magVelFree _ := rfl
  hdop _ := rfl
  sats _ := rfl

/-- Ten centimetres a fix exceed the base reference of a metre on fix 11, in time. -/
theorem ramp_detected_tenth :
    ∃ n, ((fed warmed (ramp 0.1) n).evaluate (ramp 0.1 n).r (ramp 0.1 n).hdop
      (ramp 0.1 n).sats).2 ≠ none := by
  have hvalid : (FusionConfig.default (α := ℚ)).validate = .ok () :=
    runChecks_ok.mpr (by decide +kernel)
  have houtruns : RampOutruns warmed.cfg.cusumKM 2.5 warmed.axisNoiseN 0.1 11 := by
    unfold RampOutruns
    decide +kernel
  exact (ramp_detected_iff hvalid rfl (by decide +kernel) rfl (by decide +kernel)
    (by decide +kernel) (ramp_isRamp (by decide +kernel))).mpr (.inl ⟨11, houtruns⟩)

/-- A centimetre a fix exceeds the base reference on fix 101, when half as much again as its floor
    has long been more. -/
theorem centimetre_not_outruns {m : ℚ} (hm : 1.5 ≤ m) (i : ℕ) : ¬ RampOutruns 1 m 0 0.01 i := by
  unfold RampOutruns
  rw [not_lt]
  rcases le_total (i : ℚ) 100 with hearly | hlate
  · exact le_max_of_le_left (by linarith)
  · have hpow : (0 : ℚ) ≤ (0 + 19 * 0.01) * 0.95 ^ i := by positivity
    have hfloor : (0 : ℚ) ≤ 0.01 * (i - 19) := by linarith
    refine le_max_of_le_right ?_
    calc 0.01 * (i : ℚ) ≤ 1.5 * (0.01 * (i - 19)) := by linarith
      _ ≤ m * (0.01 * (i - 19)) := mul_le_mul_of_nonneg_right hm hfloor
      _ ≤ m * (0.01 * (i - 19) + (0 + 19 * 0.01) * 0.95 ^ i) :=
          mul_le_mul_of_nonneg_left (by linarith) (by linarith)

/-- A ramp of a centimetre a fix is absorbed: the default detector, after a warm-up at rest,
    never reports it. -/
theorem ramp_absorbed : (FusionConfig.default (α := ℚ)).validate = .ok () ∧
    warmed.cfg = (FusionConfig.default (α := ℚ)).detect ∧ warmupFixes ≤ warmed.warmup ∧
    warmed.state = CusumState.default ∧ IsRamp 0.01 (ramp 0.01) ∧
    ¬ ∃ n, ((fed warmed (ramp 0.01) n).evaluate (ramp 0.01 n).r (ramp 0.01 n).hdop
      (ramp 0.01 n).sats).2 ≠ none := by
  have hramp : IsRamp 0.01 (ramp 0.01) := ramp_isRamp (by decide +kernel)
  have hk : warmed.cfg.cusumKM = 1 ∧ warmed.cfg.magCusumKM = 1 ∧ warmed.axisNoiseN = 0 ∧
      warmed.magNoiseEwma = 0 ∧ ¬ warmed.cfg.velAidingCusumH ≤ 0 := by decide +kernel
  obtain ⟨hkn, hkm, hfn, hfm, hvel⟩ := hk
  refine ⟨runChecks_ok.mpr (by decide +kernel), rfl, by decide +kernel, rfl, hramp, ?_⟩
  rintro ⟨n, hn⟩
  rcases detectable_of_fires (by decide +kernel) (by decide +kernel) (by decide +kernel)
    (by decide +kernel) rfl (by decide +kernel) (by decide +kernel) hramp hn with
    ⟨i, hi⟩ | ⟨i, hi⟩ | hdead
  · rw [hkn, hfn] at hi
    exact centimetre_not_outruns (by norm_num) i hi
  · rw [hkm, hfm] at hi
    exact centimetre_not_outruns le_rfl i hi
  · exact hvel hdead

end DriftDetector

end FlyingSquirrel
