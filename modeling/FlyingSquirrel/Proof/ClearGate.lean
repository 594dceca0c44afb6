import FlyingSquirrel.Detect.Drive
import FlyingSquirrel.Fusion.Config
import FlyingSquirrel.Lib.Run
import Mathlib.Tactic.Linarith

/-!
# What a clear may wipe

A clear is followed by a commit, which sets all six sums back to zero. The clear gate
compares the largest of **five** of them with a quarter of the **axis** threshold. So it
bounds the four axis sums by a quarter of their own threshold, and of the other two nothing:
the magnitude lane fires at a threshold of its own, and the velocity-aiding lane is not
looked at.

For those two, `Room` is what the sums must have before the fix for the clear to be harmless.
-/

set_option autoImplicit false

namespace FlyingSquirrel

open Lib

/-! ## One fix in a lane -/

namespace DriftDetector

section Model

variable {α : Type} [Zero α] [One α] [Neg α] [Add α] [Sub α] [Mul α] [Div α] [NatCast α]
  [OfScientific α] [LT α] [LE α] [DecidableLT α] [DecidableLE α] [BEq α] [Max α]
  [FiniteTest α]

/-- The fix is added to the sums: it is finite, and the floors have been learnt. -/
def Accumulates (d : DriftDetector α) (r : Residual α) : Prop :=
  finiteResidual r = true ∧ warmupFixes ≤ d.warmup

instance (d : DriftDetector α) (r : Residual α) : Decidable (d.Accumulates r) :=
  inferInstanceAs (Decidable (_ ∧ _))

/-- What a fix brings to the magnitude sum, above its reference. -/
def magRise (d : DriftDetector α) (r : Residual α) : α :=
  if d.Accumulates r then
    r.magPos - max d.cfg.magCusumKM ((d.learnFloors r).magNoiseEwma * magNoiseFactor)
  else 0

/-- What a fix brings to the velocity-aiding sum, which holds in a turn and without
    Doppler. -/
def velAidingRise (d : DriftDetector α) (r : Residual α) : α :=
  if d.Accumulates r ∧ r.dvelKnown = true ∧ r.maneuvering = false then
    r.magVelFree -
      max d.cfg.velAidingCusumKMps ((d.learnFloors r).velAidingNoise * velAidingNoiseFactor)
  else 0

end Model

section Field

variable {F : Type} [Field F] [LinearOrder F]

/-- The two sums are never negative, and during warm-up they are zero. -/
structure Steady (c : DetectConfig F) (d : DriftDetector F) : Prop where
  cfg : d.cfg = c
  mag : 0 ≤ d.state.sMag
  velAiding : 0 ≤ d.state.sVelAiding
  warming : d.warmup < warmupFixes → d.state.sMag = 0 ∧ d.state.sVelAiding = 0

variable {c : DetectConfig F} {d : DriftDetector F}

theorem Steady.new (c : DetectConfig F) : Steady c (DriftDetector.new c) :=
  ⟨rfl, le_rfl, le_rfl, fun _ => ⟨rfl, rfl⟩⟩

theorem Steady.reset (h : Steady c d) : Steady c d.reset :=
  ⟨h.cfg, le_rfl, le_rfl, fun _ => ⟨rfl, rfl⟩⟩

variable [FiniteTest F]

/-- **What a fix leaves in the two sums.** -/
theorem Steady.sums (h : Steady c d) (r : Residual F) (hdop : Option F) (sats : Option Nat) :
    (d.evaluate r hdop sats).1.state.sMag = max (d.state.sMag + d.magRise r) 0 ∧
    (d.evaluate r hdop sats).1.state.sVelAiding =
      max (d.state.sVelAiding + d.velAidingRise r) 0 := by
  unfold magRise velAidingRise
  unfold evaluate
  dsimp only
  by_cases hfin : finiteResidual r = false
  · -- an undefined residual touches nothing
    have hno : ¬ d.Accumulates r := fun ha => absurd (ha.1.symm.trans hfin) (by simp)
    rw [if_pos hfin, if_neg hno, if_neg (fun ha => hno ha.1), add_zero, add_zero]
    exact ⟨(max_eq_left h.mag).symm, (max_eq_left h.velAiding).symm⟩
  · rw [if_neg hfin]
    by_cases hw : d.warmup < warmupFixes
    · have hno : ¬ d.Accumulates r := fun ha => absurd ha.2 (Nat.not_le.mpr hw)
      obtain ⟨hm, hv⟩ := h.warming hw
      rw [if_pos hw, if_neg hno, if_neg (fun ha => hno ha.1), hm, hv, add_zero, max_self]
      exact ⟨rfl, rfl⟩
    · have ha : d.Accumulates r := ⟨by simpa using hfin, Nat.not_lt.mp hw⟩
      rw [if_neg hw, if_pos ha, add_sub_assoc']
      refine ⟨rfl, ?_⟩
      by_cases hd : r.dvelKnown = true ∧ r.maneuvering = false
      · rw [if_pos ⟨ha, hd⟩, add_sub_assoc']
        exact if_pos hd
      · rw [if_neg (fun h => hd h.2), add_zero, max_eq_left h.velAiding]
        exact if_neg hd

theorem Steady.evaluate (h : Steady c d) (r : Residual F) (hdop : Option F)
    (sats : Option Nat) : Steady c (d.evaluate r hdop sats).1 := by
  obtain ⟨hm, hv⟩ := h.sums r hdop sats
  refine ⟨?_, by rw [hm]; exact le_max_right _ _, by rw [hv]; exact le_max_right _ _, ?_⟩
  · rcases evaluate_cases d r hdop sats with he | ⟨-, he⟩ | ⟨-, -, he, -⟩ <;> rw [he] <;>
      exact h.cfg
  · rcases evaluate_cases d r hdop sats with he | ⟨-, he⟩ | ⟨hw, -, he, -⟩
    · rw [he]
      exact h.warming
    · rw [he]
      intro _
      exact ⟨rfl, rfl⟩
    · rw [he]
      intro hlt
      exact absurd hw (Nat.not_le.mpr hlt)

end Field

end DriftDetector

/-! ## The gate -/

namespace StateMachine

section Model

variable {α : Type} [Zero α] [One α] [Neg α] [Add α] [Sub α] [Mul α] [Div α] [NatCast α]
  [OfScientific α] [LT α] [LE α] [DecidableLT α] [DecidableLE α] [BEq α] [Max α]
  [FiniteTest α]

/-- The call clears: it emits the way from Suspicious to Normal. -/
def Clears (m : StateMachine α) (op : Op α) : Prop :=
  .transition .suspicious .normal ∈ (m.opStep op).2

/-- Every sum is below the quiescent fraction of its own lane's threshold. -/
structure LanesQuiet (m : StateMachine α) : Prop where
  posN : m.drift.state.sPosN < m.cfg.cusumHM * clearQuiescentFraction
  negN : m.drift.state.sNegN < m.cfg.cusumHM * clearQuiescentFraction
  posE : m.drift.state.sPosE < m.cfg.cusumHM * clearQuiescentFraction
  negE : m.drift.state.sNegE < m.cfg.cusumHM * clearQuiescentFraction
  mag : m.drift.state.sMag < m.cfg.magCusumHM * clearQuiescentFraction
  velAiding : m.drift.state.sVelAiding < m.cfg.velAidingCusumH * clearQuiescentFraction

/-- A call that clears does so with every lane quiet. -/
def ClearsQuiet (m : StateMachine α) (op : Op α) : Prop :=
  m.Clears op → LanesQuiet (m.opStep op).1

/-- What a fix brings to a sum, if the detectors run. -/
def rise (m : StateMachine α) (lane : DriftDetector α → Residual α → α) (r : Residual α) : α :=
  if m.posDetectorsEnabled then lane m.drift r else 0

/-- The two lanes the gate does not measure end the fix below a quarter of their own
    thresholds: the sum before it, and what it brings. -/
def Room (m : StateMachine α) : Op α → Prop
  | .evaluate r _ _ _ =>
    (m.drift.state.sMag + m.rise DriftDetector.magRise r <
        m.cfg.magCusumHM * clearQuiescentFraction ∧
      0 < m.cfg.magCusumHM * clearQuiescentFraction) ∧
    (m.drift.state.sVelAiding + m.rise DriftDetector.velAidingRise r <
        m.cfg.velAidingCusumH * clearQuiescentFraction ∧
      0 < m.cfg.velAidingCusumH * clearQuiescentFraction)
  | _ => True

instance (m : StateMachine α) (op : Op α) : Decidable (m.Clears op) :=
  inferInstanceAs (Decidable (_ ∈ _))

instance (m : StateMachine α) (op : Op α) : Decidable (m.Room op) := by
  unfold Room
  split <;> infer_instance

instance (m : StateMachine α) : Decidable m.LanesQuiet :=
  decidable_of_iff
    (m.drift.state.sPosN < m.cfg.cusumHM * clearQuiescentFraction ∧
      m.drift.state.sNegN < m.cfg.cusumHM * clearQuiescentFraction ∧
      m.drift.state.sPosE < m.cfg.cusumHM * clearQuiescentFraction ∧
      m.drift.state.sNegE < m.cfg.cusumHM * clearQuiescentFraction ∧
      m.drift.state.sMag < m.cfg.magCusumHM * clearQuiescentFraction ∧
      m.drift.state.sVelAiding < m.cfg.velAidingCusumH * clearQuiescentFraction)
    ⟨fun ⟨a, b, c, d, e, f⟩ => ⟨a, b, c, d, e, f⟩, fun ⟨a, b, c, d, e, f⟩ => ⟨a, b, c, d, e, f⟩⟩

instance (m : StateMachine α) (op : Op α) : Decidable (m.ClearsQuiet op) :=
  inferInstanceAs (Decidable (_ → _))

end Model

section Field

variable {F : Type} [Field F] [LinearOrder F]

/-- A machine whose detector is steady, on the machine's configuration. -/
structure Gated (c : DetectConfig F) (m : StateMachine F) : Prop where
  cfg : m.cfg = c
  drift : DriftDetector.Steady c m.drift

variable {c : DetectConfig F} {m : StateMachine F}

theorem Gated.new (c : DetectConfig F) : Gated c (StateMachine.new c) := ⟨rfl, .new c⟩

variable [FiniteTest F]

theorem assess_drift (m : StateMachine F) (r : Residual F) (t : F) (hdop : Option F)
    (sats : Option Nat) :
    (m.assess r t hdop sats).1.drift =
      if m.posDetectorsEnabled then (m.drift.evaluate r hdop sats).1 else m.drift :=
  (assess_detectors m r t hdop sats).1

theorem Gated.sums (h : Gated c m) (r : Residual F) (t : F) (hdop : Option F)
    (sats : Option Nat) :
    (m.assess r t hdop sats).1.drift.state.sMag =
      max (m.drift.state.sMag + m.rise DriftDetector.magRise r) 0 ∧
    (m.assess r t hdop sats).1.drift.state.sVelAiding =
      max (m.drift.state.sVelAiding + m.rise DriftDetector.velAidingRise r) 0 := by
  rw [assess_drift]
  unfold rise
  by_cases hon : m.posDetectorsEnabled = true
  · rw [if_pos hon, if_pos hon, if_pos hon]
    exact h.drift.sums r hdop sats
  · rw [if_neg hon, if_neg hon, if_neg hon, add_zero, add_zero]
    exact ⟨(max_eq_left h.drift.mag).symm, (max_eq_left h.drift.velAiding).symm⟩

theorem Gated.evaluate (h : Gated c m) (r : Residual F) (t : F) (hdop : Option F)
    (sats : Option Nat) : Gated c (m.evaluate r t hdop sats).1 := by
  by_cases hs : m.state = .spoofed
  · rw [evaluate_spoofed _ _ _ _ hs]
    exact ⟨h.cfg, h.drift⟩
  · obtain ⟨m', out, he, ha⟩ := evaluate_arm r t hdop sats hs
    obtain ⟨hc, -, -, hd⟩ := ha.keeps
    rw [he]
    refine ⟨hc.trans ((assess_keeps m r t hdop sats).2.1.trans h.cfg), ?_⟩
    rw [hd, assess_drift]
    split
    · exact h.drift.evaluate r hdop sats
    · exact h.drift

theorem Gated.opStep (h : Gated c m) (op : Op F) : Gated c (m.opStep op).1 := by
  cases op with
  | setPosDetectorsEnabled on =>
    show Gated c (m.setPosDetectorsEnabled on)
    unfold setPosDetectorsEnabled
    split
    · exact ⟨h.cfg, h.drift.reset⟩
    · exact ⟨h.cfg, h.drift⟩
  | noteDropoutRecovery => exact ⟨h.cfg, h.drift⟩
  | noteExternalAnomaly => exact ⟨h.cfg, h.drift⟩
  | takeDwellNotice => exact ⟨h.cfg, h.drift⟩
  | evaluate r t hdop sats => exact h.evaluate r t hdop sats
  | manualResetToNormal => exact ⟨h.cfg, h.drift.reset⟩
  | forceBackToSuspicious t since =>
    show Gated c (m.forceBackToSuspicious t since)
    unfold forceBackToSuspicious
    split
    · exact h
    · exact ⟨h.cfg, h.drift⟩
  | commitSuspToNormal => exact ⟨h.cfg, h.drift.reset⟩
  | onCleanAnchor =>
    show Gated c m.onCleanAnchor
    unfold onCleanAnchor
    split
    · exact ⟨h.cfg, h.drift.reset⟩
    · exact h

theorem axes_of_driftQuiescent {F : Type} [Field F] [LinearOrder F] {m : StateMachine F}
    (h : m.driftQuiescent = true) :
    m.drift.state.sPosN < m.cfg.cusumHM * clearQuiescentFraction ∧
    m.drift.state.sNegN < m.cfg.cusumHM * clearQuiescentFraction ∧
    m.drift.state.sPosE < m.cfg.cusumHM * clearQuiescentFraction ∧
    m.drift.state.sNegE < m.cfg.cusumHM * clearQuiescentFraction := by
  have hpeak := of_decide_eq_true h
  unfold cusumPeak at hpeak
  simp only [max_lt_iff] at hpeak
  obtain ⟨⟨⟨⟨hpn, hnn⟩, hpe⟩, hne⟩, -⟩ := hpeak
  exact ⟨hpn, hnn, hpe, hne⟩

theorem clears_gate {r : Residual F} {t : F} {hdop : Option F} {sats : Option Nat}
    (h : m.Clears (.evaluate r t hdop sats)) :
    (m.assess r t hdop sats).1.driftQuiescent = true ∧
    (m.evaluate r t hdop sats).1.drift = (m.assess r t hdop sats).1.drift ∧
    (m.evaluate r t hdop sats).1.cfg = (m.assess r t hdop sats).1.cfg := by
  have hclear : Event.transition .suspicious .normal ∈ (m.evaluate r t hdop sats).2 := h
  by_cases hs : m.state = .spoofed
  · rw [evaluate_spoofed _ _ _ _ hs] at hclear
    exact absurd hclear (by simp)
  · obtain ⟨m', out, he, ha⟩ := evaluate_arm r t hdop sats hs
    obtain ⟨hc, -, -, hd⟩ := ha.keeps
    rw [he] at hclear ⊢
    refine ⟨?_, hd, hc⟩
    -- detectors do not announce transitions, so the arm does, and it is the clearing one
    have hout : Event.transition .suspicious .normal ∈ out := by
      rcases List.mem_append.mp hclear with hdet | hout
      · unfold detectorEvents at hdet
        simp at hdet
      · exact hout
    generalize hclean : (m.assess r t hdop sats).1.sampleClean r (m.firing r t hdop sats) =
      clean at ha
    generalize m.firing r t hdop sats = fire at ha hclean
    cases ha with
    | clear _ _ =>
      unfold sampleClean at hclean
      simp only [Bool.and_eq_true] at hclean
      exact hclean.1.2
    | enter _ => exact absurd hout (by simp)
    | escalate _ _ => exact absurd hout (by simp)
    | idle _ => exact absurd hout (by simp)
    | cleaning _ _ => exact absurd hout (by simp)
    | dwelling _ _ => exact absurd hout (by simp)
    | stagnate _ => exact absurd hout (by simp)

theorem clearsQuiet_iff (h : Gated c m) (op : Op F) :
    m.ClearsQuiet op ↔ (m.Clears op → m.Room op) := by
  unfold ClearsQuiet
  apply imp_congr_right
  intro hclear
  cases op with
  | evaluate r t hdop sats =>
    obtain ⟨hgate, hdrift, hcfg⟩ := clears_gate hclear
    obtain ⟨hpn, hnn, hpe, hne⟩ := axes_of_driftQuiescent hgate
    obtain ⟨hmag, hvel⟩ := h.sums r t hdop sats
    have hc := (assess_keeps m r t hdop sats).2.1
    have hlanes : LanesQuiet (m.evaluate r t hdop sats).1 ↔
        (m.assess r t hdop sats).1.drift.state.sMag < m.cfg.magCusumHM * clearQuiescentFraction ∧
        (m.assess r t hdop sats).1.drift.state.sVelAiding <
          m.cfg.velAidingCusumH * clearQuiescentFraction := by
      constructor
      · rintro ⟨-, -, -, -, hm, hv⟩
        rw [hdrift, hcfg, hc] at hm hv
        exact ⟨hm, hv⟩
      · rintro ⟨hm, hv⟩
        rw [← hc, ← hcfg, ← hdrift] at hm hv
        rw [← hcfg, ← hdrift] at hpn hnn hpe hne
        exact ⟨hpn, hnn, hpe, hne, hm, hv⟩
    show LanesQuiet (m.evaluate r t hdop sats).1 ↔ _
    rw [hlanes, hmag, hvel, max_lt_iff, max_lt_iff]
    exact Iff.rfl
  | _ => exact absurd hclear (by simp [Clears, opStep])

/-- **When a clear wipes no live evidence.** Over every sequence of calls from a new
    machine, of any configuration, every clear is made with all six sums below a quarter of
    their lane's threshold, if and only if at every clear the magnitude and the
    velocity-aiding lanes have room for the fix. -/
theorem clearsQuiet_along_iff {ops : List (Op F)} :
    Along opStep ClearsQuiet (StateMachine.new c) ops ↔
      Along opStep (fun m op => m.Clears op → m.Room op) (StateMachine.new c) ops :=
  along_congr_of_invariant (fun _ op h => Gated.opStep h op)
    (fun _ op h => clearsQuiet_iff h op) (Gated.new c)

end Field

/-! ## A walk-off wiped by a clear -/

/-- A residual at rest, but for a free-inertial velocity that is off by `velFree`. -/
def restingResidual (velFree : ℚ) : Residual ℚ where
  dpos := ⟨0, 0, 0⟩
  dvel := ⟨0, 0, 0⟩
  magPos := 0
  magVel := 0
  dvelKnown := true
  dvelFree := ⟨velFree, 0, 0⟩
  magVelFree := velFree
  maneuvering := false

/-- A fix a second with the given residuals, from `start` on. -/
def fixesFrom (start : Nat) (vels : List ℚ) : List (Op ℚ) :=
  vels.mapIdx fun i v => .evaluate (restingResidual v) ((start + i : Nat) : ℚ) none none

/-- Warm-up at rest, an anomaly from outside, and six fixes off by `velFree`. -/
def episode (velFree : ℚ) : List (Op ℚ) :=
  fixesFrom 0 (List.replicate 20 0) ++ .noteExternalAnomaly :: fixesFrom 20 [0] ++
    fixesFrom 21 (List.replicate 6 velFree)

/-- With a walk-off of 1.55 m/s the sixth fix clears the episode, with three quarters of the
    velocity-aiding threshold in the sum. -/
theorem clear_wipes_walkOff :
    (FusionConfig.default (α := ℚ)).validate = .ok () ∧
    ¬ Along opStep ClearsQuiet (StateMachine.new (FusionConfig.default (α := ℚ)).detect)
      (episode 1.55) :=
  ⟨runChecks_ok.mpr (by decide +kernel), by decide +kernel⟩

theorem clearsQuiet_along_resting :
    Along opStep ClearsQuiet (StateMachine.new (FusionConfig.default (α := ℚ)).detect)
      (episode 0) :=
  clearsQuiet_along_iff.mpr (by decide +kernel)

end StateMachine

end FlyingSquirrel
