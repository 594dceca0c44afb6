import FlyingSquirrel.Detect.Config
import FlyingSquirrel.Nav.DeadReckoner

/-!
# The fusion configuration and its validation (`fusion.rs`)

`validate` makes its checks in order and returns the first one that fails, with its
message. A message is text with the offending numbers in it, so it is kept as pieces: how
a float is printed is not modelled.
-/

set_option autoImplicit false

namespace FlyingSquirrel

open Lib

structure FusionConfig (α : Type) where
  nav : NavConfig α
  detect : DetectConfig α
  residualWindowS : α
  maxImuRateHz : α
deriving Repr

inductive Piece (α : Type)
  | text (s : String)
  | num (x : α)
deriving Repr

abbrev Message (α : Type) := List (Piece α)

/-- A check that must hold, and the message when it does not. -/
structure Check (α : Type) where
  ok : Bool
  message : Message α

def runChecks {α : Type} : List (Check α) → Except (Message α) Unit
  | [] => .ok ()
  | c :: cs => if c.ok then runChecks cs else .error c.message

theorem runChecks_ok {α : Type} : ∀ {cs : List (Check α)},
    runChecks cs = .ok () ↔ ∀ c ∈ cs, c.ok = true
  | [] => by simp [runChecks]
  | c :: cs => by
    unfold runChecks
    cases hc : c.ok with
    | true => simp [hc, runChecks_ok]
    | false => simp [hc]

theorem runChecks_error {α : Type} {msg : Message α} : ∀ {cs : List (Check α)},
    runChecks cs = .error msg → ∃ c ∈ cs, c.ok = false ∧ c.message = msg
  | [], h => absurd h (by simp [runChecks])
  | c :: cs, h => by
    unfold runChecks at h
    cases hc : c.ok with
    | true =>
      rw [hc] at h
      obtain ⟨c', hmem, hbad⟩ := runChecks_error h
      exact ⟨c', List.mem_cons_of_mem _ hmem, hbad⟩
    | false =>
      rw [hc] at h
      exact ⟨c, List.mem_cons_self, hc, Except.error.inj h⟩

namespace FusionConfig

/-- `FusionConfig::default`. -/
def default {α : Type} [OfScientific α] : FusionConfig α where
  nav := NavConfig.default
  detect := DetectConfig.default
  residualWindowS := 2.0
  maxImuRateHz := 100.0

variable {α : Type} [Zero α] [One α] [OfScientific α] [LT α] [LE α] [DecidableLT α]
  [DecidableLE α] [FiniteTest α]

/-- A field that must be positive and finite. -/
def positiveFinite (x : α) (message : Message α) : Check α :=
  ⟨decide (x > 0) && isFinite x, message⟩

def bothPositive (x y : α) (message : Message α) : Check α :=
  ⟨decide (x > 0) && decide (y > 0), message⟩

/-- Two fields of which the first must not reach the second. -/
def ordered (k h : α) (message : Message α) : Check α := ⟨!decide (k ≥ h), message⟩

def residualWindowCheck (c : FusionConfig α) : Check α :=
  positiveFinite c.residualWindowS
    [.text "residual_window_s must be > 0 (got ", .num c.residualWindowS, .text ")"]

def maxImuRateCheck (c : FusionConfig α) : Check α :=
  positiveFinite c.maxImuRateHz
    [.text "max_imu_rate_hz must be > 0 (got ", .num c.maxImuRateHz, .text ")"]

def maxJumpCheck (d : DetectConfig α) : Check α :=
  positiveFinite d.maxJumpM
    [.text "detect.max_jump_m must be > 0 (got ", .num d.maxJumpM, .text ")"]

def maxVelocityMismatchCheck (d : DetectConfig α) : Check α :=
  positiveFinite d.maxVelocityMismatchMps
    [.text "detect.max_velocity_mismatch_mps must be > 0 (got ",
      .num d.maxVelocityMismatchMps, .text ")"]

def jumpPersistCheck (d : DetectConfig α) : Check α :=
  ⟨d.jumpPersistFixes != 0, [.text "detect.jump_persist_fixes must be >= 1"]⟩

def cusumPositiveCheck (d : DetectConfig α) : Check α :=
  bothPositive d.cusumKM d.cusumHM
    [.text "detect.cusum_k_m and cusum_h_m must both be > 0 (got k=", .num d.cusumKM,
      .text ", h=", .num d.cusumHM, .text ")"]

def cusumOrderedCheck (d : DetectConfig α) : Check α :=
  ordered d.cusumKM d.cusumHM
    [.text "detect.cusum_k_m (", .num d.cusumKM, .text ") must be < cusum_h_m (",
      .num d.cusumHM, .text "); otherwise drift detector fires on every sample"]

def magCusumPositiveCheck (d : DetectConfig α) : Check α :=
  bothPositive d.magCusumKM d.magCusumHM
    [.text "detect.mag_cusum_k_m and mag_cusum_h_m must both be > 0 (got k=",
      .num d.magCusumKM, .text ", h=", .num d.magCusumHM, .text ")"]

def magCusumOrderedCheck (d : DetectConfig α) : Check α :=
  ordered d.magCusumKM d.magCusumHM
    [.text "detect.mag_cusum_k_m (", .num d.magCusumKM, .text ") must be < mag_cusum_h_m (",
      .num d.magCusumHM, .text ")"]

def dwellCheck (d : DetectConfig α) : Check α :=
  bothPositive d.suspiciousToSpoofedDwellS d.normalClearDwellS
    [.text "detect dwell times must be > 0 (got susp->spoofed=",
      .num d.suspiciousToSpoofedDwellS, .text ", normal_clear=", .num d.normalClearDwellS,
      .text ")"]

def reAnchorCheck (d : DetectConfig α) : Check α :=
  positiveFinite d.reAnchorMaxDistanceM
    [.text "detect.re_anchor_max_distance_m must be > 0 (got ",
      .num d.reAnchorMaxDistanceM, .text ")"]

def maxVerticalRateCheck (d : DetectConfig α) : Check α :=
  positiveFinite d.maxVerticalRateMps
    [.text "detect.max_vertical_rate_mps must be > 0 (got ", .num d.maxVerticalRateMps,
      .text ")"]

def maxDwellPauseCheck (d : DetectConfig α) : Check α :=
  positiveFinite d.maxDwellPauseS
    [.text "detect.max_dwell_pause_s must be > 0 and finite (got ", .num d.maxDwellPauseS,
      .text ("); an unbounded dwell-pause budget lets an attacker stall Spoofed escalation " ++
        "forever by throttling GPS")]

def madgwickBetaCheck (n : NavConfig α) : Check α :=
  positiveFinite n.madgwickBeta
    [.text "nav.madgwick_beta must be > 0 (got ", .num n.madgwickBeta, .text ")"]

def blendTauCheck (n : NavConfig α) : Check α :=
  positiveFinite n.blendTauS
    [.text "nav.blend_tau_s must be > 0 (got ", .num n.blendTauS, .text ")"]

def biasEmaAlphaCheck (n : NavConfig α) : Check α :=
  ⟨decide (n.biasEmaAlpha > 0) && decide (n.biasEmaAlpha ≤ 1),
    [.text "nav.bias_ema_alpha must be in (0, 1] (got ", .num n.biasEmaAlpha, .text ")"]⟩

def staticInitCheck (n : NavConfig α) : Check α :=
  positiveFinite n.staticInitS
    [.text "nav.static_init_s must be > 0 (got ", .num n.staticInitS, .text ")"]

def maxHomeDistanceCheck (n : NavConfig α) : Check α :=
  positiveFinite n.maxHomeDistanceM
    [.text "nav.max_home_distance_m must be > 0 and finite (got ", .num n.maxHomeDistanceM,
      .text ("); a NaN/Inf or non-positive radius silently disables the boot-anchor check " ++
        "while it still logs as ARMED")]

def maxHomeDistanceCapCheck (n : NavConfig α) : Check α :=
  ⟨!decide (n.maxHomeDistanceM > 1.0e6),
    [.text "nav.max_home_distance_m must be <= 1_000_000 m (got ", .num n.maxHomeDistanceM,
      .text ("); a radius larger than ~1000 km is almost certainly a typo and effectively " ++
        "disables the boot-anchor check")]⟩

/-- The checks of `validate`, in the source's order. -/
def checks (c : FusionConfig α) : List (Check α) :=
  [c.residualWindowCheck, c.maxImuRateCheck, maxJumpCheck c.detect,
    maxVelocityMismatchCheck c.detect, jumpPersistCheck c.detect,
    cusumPositiveCheck c.detect, cusumOrderedCheck c.detect,
    magCusumPositiveCheck c.detect, magCusumOrderedCheck c.detect, dwellCheck c.detect,
    reAnchorCheck c.detect, maxVerticalRateCheck c.detect, maxDwellPauseCheck c.detect,
    madgwickBetaCheck c.nav, blendTauCheck c.nav, biasEmaAlphaCheck c.nav,
    staticInitCheck c.nav, maxHomeDistanceCheck c.nav, maxHomeDistanceCapCheck c.nav]

def validate (c : FusionConfig α) : Except (Message α) Unit := runChecks c.checks

theorem ok_of_validate {c : FusionConfig α} (h : c.validate = .ok ()) (ch : Check α)
    (hmem : ch ∈ c.checks) : ch.ok = true := runChecks_ok.mp h ch hmem

theorem bothPositive_ok {α : Type} [Zero α] [LT α] [DecidableLT α] {x y : α} {message : Message α}
    (h : (bothPositive x y message).ok = true) : x > 0 ∧ y > 0 := by
  simpa [bothPositive] using h

theorem positiveFinite_ok {α : Type} [Zero α] [LT α] [DecidableLT α] [FiniteTest α]
    {x : α} {message : Message α}
    (h : (positiveFinite x message).ok = true) : x > 0 ∧ isFinite x = true := by
  simpa [positiveFinite] using h

theorem cusum_pos {c : FusionConfig α} (h : c.validate = .ok ()) :
    c.detect.cusumKM > 0 ∧ c.detect.cusumHM > 0 :=
  bothPositive_ok (ok_of_validate h (cusumPositiveCheck c.detect) (by simp [checks]))

theorem magCusum_pos {c : FusionConfig α} (h : c.validate = .ok ()) :
    c.detect.magCusumKM > 0 ∧ c.detect.magCusumHM > 0 :=
  bothPositive_ok (ok_of_validate h (magCusumPositiveCheck c.detect) (by simp [checks]))

theorem maxVerticalRate_pos {c : FusionConfig α} (h : c.validate = .ok ()) :
    c.detect.maxVerticalRateMps > 0 :=
  (positiveFinite_ok (ok_of_validate h (maxVerticalRateCheck c.detect) (by simp [checks]))).1

theorem dwell_pos {c : FusionConfig α} (h : c.validate = .ok ()) :
    c.detect.suspiciousToSpoofedDwellS > 0 ∧ c.detect.normalClearDwellS > 0 :=
  bothPositive_ok (ok_of_validate h (dwellCheck c.detect) (by simp [checks]))

theorem maxDwellPause_pos {c : FusionConfig α} (h : c.validate = .ok ()) :
    c.detect.maxDwellPauseS > 0 :=
  (positiveFinite_ok (ok_of_validate h (maxDwellPauseCheck c.detect)
    (by simp [checks]))).1

end FusionConfig

end FlyingSquirrel
