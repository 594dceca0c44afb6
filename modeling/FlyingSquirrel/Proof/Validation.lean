import FlyingSquirrel.Detect.Drive
import FlyingSquirrel.Fusion.Config
import FlyingSquirrel.Lib.Ext
import FlyingSquirrel.Lib.Run
import Mathlib.Algebra.Order.Archimedean.Basic
import Mathlib.Tactic.Linarith

/-!
# What validation lets through

`validate` is there so that a configuration that would silently break the detectors fails at
startup. A detector works if it **stays normal while there is nothing to see**, and
**escalates while the residual is always too large**. Both are asked over numbers with
infinities, since that is what the fields of an accepted configuration may hold.

Two fields escape the checks. `velAidingCusumH` is not checked at all: at zero or below, the
velocity-aiding lane is at its threshold with nothing in it, and fires on the first fix after
the warm-up. `suspiciousToSpoofedDwellS` is checked to be positive and not to be finite: no
dwell is ever as long as an infinite one. `working_iff` says that these two are all.
-/

set_option autoImplicit false

namespace FlyingSquirrel

open Lib

section Residuals

variable {F : Type} [Field F] [LinearOrder F]

/-- The residual of a fix, Doppler included, that the dead reckoning agrees with. -/
def zeroResidual (maneuvering : Bool) : Residual (Ext F) :=
  ⟨⟨0, 0, 0⟩, ⟨0, 0, 0⟩, 0, 0, true, ⟨0, 0, 0⟩, 0, maneuvering⟩

/-- A fix with nothing to see. Its time, its quality and whether it follows a dropout are
    arbitrary. -/
structure Silent (i : FixIn (Ext F)) : Prop where
  gate : i.posDetectorsEnabled = true
  external : i.externalAnomaly = false
  residual : i.r = zeroResidual i.r.maneuvering

/-- The `k`-th of a stream of fixes a second apart, without quality fields. The gap of the
    first one is zero. -/
def secondFix (d : DetectConfig (Ext F)) (t₀ : F) (rs : ℕ → Residual (Ext F)) (k : ℕ) :
    FixIn (Ext F) where
  posDetectorsEnabled := true
  dropoutRecovery := decide ((if k = 0 then 0 else 1) > d.gpsDropoutFreezeS)
  externalAnomaly := false
  r := rs k
  t := .fin (t₀ + k)
  hdop := none
  sats := none

def secondFixes (d : DetectConfig (Ext F)) (t₀ : F) (rs : ℕ → Residual (Ext F)) (n : ℕ) :
    List (FixIn (Ext F)) :=
  (List.range n).map (secondFix d t₀ rs)

/-- A detector that is quiet while there is nothing to see, and latches while there always is. -/
structure WorkingDetector (d : DetectConfig (Ext F)) : Prop where
  staysNormal : ∀ is : List (FixIn (Ext F)), (∀ i ∈ is, Silent i) →
    outputs StateMachine.fixStep (StateMachine.new d) is = [] ∧
    (run StateMachine.fixStep (StateMachine.new d) is).state = .normal
  escalates : ∀ (t₀ : F) (rs : ℕ → Residual (Ext F)), (∀ k, (rs k).magPos > d.maxJumpM) →
    ∃ n, (run StateMachine.fixStep (StateMachine.new d) (secondFixes d t₀ rs n)).state = .spoofed

end Residuals

/-! ## What validation promises -/

variable {F : Type} [Field F] [LinearOrder F]

/-- The thresholds a fix is compared with that `validate` does check. -/
structure Thresholds (d : DetectConfig (Ext F)) : Prop where
  jump : 0 < d.maxJumpM
  jumpFinite : isFinite d.maxJumpM = true
  velocity : 0 < d.maxVelocityMismatchMps
  cusum : 0 < d.cusumHM
  magCusum : 0 < d.magCusumHM
  dwell : 0 < d.suspiciousToSpoofedDwellS

theorem thresholds_of_validate {c : FusionConfig (Ext F)} (h : c.validate = .ok ()) :
    Thresholds c.detect := by
  have hjump := FusionConfig.positiveFinite_ok
    (FusionConfig.ok_of_validate h (FusionConfig.maxJumpCheck c.detect)
      (by simp [FusionConfig.checks]))
  have hvel := FusionConfig.positiveFinite_ok
    (FusionConfig.ok_of_validate h (FusionConfig.maxVelocityMismatchCheck c.detect)
      (by simp [FusionConfig.checks]))
  have hcusum := FusionConfig.bothPositive_ok
    (FusionConfig.ok_of_validate h (FusionConfig.cusumPositiveCheck c.detect)
      (by simp [FusionConfig.checks]))
  have hmag := FusionConfig.bothPositive_ok
    (FusionConfig.ok_of_validate h (FusionConfig.magCusumPositiveCheck c.detect)
      (by simp [FusionConfig.checks]))
  exact ⟨hjump.1, hjump.2, hvel.1, hcusum.2, hmag.2, (FusionConfig.dwell_pos h).1⟩

/-! ## A detector with nothing in it -/

variable [IsStrictOrderedRing F]

namespace DriftDetector

/-- The drift detector after `w` fixes of warm-up, nothing learnt and nothing summed. -/
def calm (d : DetectConfig (Ext F)) (w : ℕ) : DriftDetector (Ext F) :=
  ⟨d, CusumState.default, 0, 0, 0, 0, w⟩

variable {d : DetectConfig (Ext F)} {w : ℕ} {maneuvering : Bool}

theorem calm_warmUp : (calm d w).warmUp (zeroResidual maneuvering) = calm d (w + 1) := by
  have hw : (w : F) + 1 ≠ 0 := Nat.cast_add_one_ne_zero w
  simp [warmUp, calm, zeroResidual, fabs, Ext.div_fin _ hw]

theorem calm_learnFloors {F : Type} [Field F] [LinearOrder F] {d : DetectConfig (Ext F)} {w : ℕ}
    {maneuvering : Bool} :
    (calm d w).learnFloors (zeroResidual maneuvering) = calm d w := by
  simp [learnFloors, calm, zeroResidual, fabs, magNoiseAlpha, axisNoiseAlpha,
    velAidingNoiseAlpha]

/-- A lane that gains nothing keeps nothing, whatever its reference. -/
theorem idle_lane (k : Ext F) : max (.fin 0 - max k (.fin 0)) (.fin 0) = (.fin 0 : Ext F) :=
  Ext.max_zero_sub (Ext.not_max_zero_lt k)

theorem calm_accumulate :
    (calm d w).accumulate (zeroResidual maneuvering) = calm d w := by
  -- every floor is zero, so every reference is the larger of its field and zero
  simp [accumulate, calm, zeroResidual, CusumState.default, magNoiseFactor, axisNoiseFactor,
    velAidingNoiseFactor, idle_lane]

theorem calm_fired {F : Type} [Field F] [LinearOrder F] {d : DetectConfig (Ext F)} {w : ℕ}
    {h hMag : Ext F} (hh : 0 < h) (hm : 0 < hMag) :
    (calm d w).fired h hMag = if d.velAidingCusumH ≤ 0 then some .velocityAiding else none := by
  have hh' : ¬ h ≤ 0 := Ext.not_le_of_gt hh
  have hm' : ¬ hMag ≤ 0 := Ext.not_le_of_gt hm
  unfold fired calm CusumState.default
  simp only [ge_iff_le, if_neg hh', if_neg hm']

theorem widened_pos (D : DriftDetector (Ext F)) (hdop : Option (Ext F)) (sats : Option Nat)
    {h : Ext F} (hh : 0 < h) : 0 < D.widened hdop sats h := by
  unfold widened
  split
  · exact Ext.mul_fin_pos hh (by norm_num)
  · exact hh

theorem calm_evaluate (hd : Thresholds d) (hdop : Option (Ext F)) (sats : Option Nat) :
    (calm d w).evaluate (zeroResidual maneuvering) hdop sats =
      if w < warmupFixes then (calm d (w + 1), none)
      else (calm d w, if d.velAidingCusumH ≤ 0 then some .velocityAiding else none) := by
  have hfin : finiteResidual (zeroResidual (F := F) maneuvering) = true := rfl
  have hcfg : (calm d w).cfg = d := rfl
  have hfired := calm_fired (d := d) (w := w) (widened_pos (calm d w) hdop sats hd.cusum)
    (widened_pos (calm d w) hdop sats hd.magCusum)
  unfold evaluate
  dsimp only
  rw [hfin, if_neg (by simp), calm_warmUp, calm_learnFloors, calm_accumulate, hcfg, hfired]
  rfl

end DriftDetector

theorem JumpDetector.evaluate_zero {j : JumpDetector (Ext F)} (hj : Thresholds j.cfg)
    (maneuvering : Bool) (hdop : Option (Ext F)) (sats : Option Nat) :
    (j.evaluate (zeroResidual maneuvering) hdop sats).2 = none := by
  have hscale : 0 < (j.scale hdop sats).1 ∧ 0 < (j.scale hdop sats).2 := by
    unfold scale
    split
    · exact ⟨Ext.mul_fin_pos hj.jump (by norm_num), Ext.mul_fin_pos hj.velocity (by norm_num)⟩
    · exact ⟨hj.jump, hj.velocity⟩
  obtain ⟨hjump, hvel⟩ := hscale
  have hv : ¬ (zeroResidual (F := F) maneuvering).magVel > (j.scale hdop sats).2 :=
    fun h => Ext.not_lt_of_gt hvel h
  have hp : ¬ (zeroResidual (F := F) maneuvering).magPos > (j.scale hdop sats).1 :=
    fun h => Ext.not_lt_of_gt hjump h
  unfold evaluate
  dsimp only
  rw [if_neg fun h => hv h.2.1, if_neg hp]

theorem JumpDetector.evaluate_exceeds {F : Type} [Field F] [LinearOrder F]
    {j : JumpDetector (Ext F)} {r : Residual (Ext F)}
    (h : r.magPos > j.cfg.maxJumpM) : (j.evaluate r none none).2.isSome = true := by
  have hscale : (j.scale none none).1 = j.cfg.maxJumpM := rfl
  unfold evaluate
  dsimp only
  split
  · rfl
  · rw [hscale, if_pos h]
    rfl

namespace StateMachine

variable {d : DetectConfig (Ext F)} {m : StateMachine (Ext F)} {i : FixIn (Ext F)}

/-! ## Nothing to see -/

/-- The machine after `w` fixes of warm-up with nothing to see. -/
structure Calm (d : DetectConfig (Ext F)) (w : ℕ) (m : StateMachine (Ext F)) : Prop where
  state : m.state = .normal
  drift : m.drift = DriftDetector.calm d w
  jump : m.jump.cfg = d
  external : m.externalAnomaly = false

theorem Calm.new {F : Type} [Field F] (d : DetectConfig (Ext F)) : Calm d 0 (StateMachine.new d) :=
  ⟨rfl, rfl, rfl, rfl⟩

variable {w : ℕ}

theorem Calm.assessed (hd : Thresholds d) (h : Calm d w m) (hi : Silent i) :
    ((m.noted i).assess i.r i.t i.hdop i.sats).1.drift =
      DriftDetector.calm d (if w < DriftDetector.warmupFixes then w + 1 else w) ∧
    ((m.noted i).assess i.r i.t i.hdop i.sats).1.jump.cfg = d ∧
    ((m.noted i).assess i.r i.t i.hdop i.sats).2 =
      (none, if w < DriftDetector.warmupFixes then none
        else if d.velAidingCusumH ≤ 0 then some .velocityAiding else none) := by
  obtain ⟨hdrift, hjump, hout⟩ := assess_detectors (m.noted i) i.r i.t i.hdop i.sats
  rw [hdrift, hjump, hout, noted_open hi.gate, hi.residual]
  dsimp only
  rw [if_pos rfl, if_pos rfl, if_pos rfl, h.drift, DriftDetector.calm_evaluate hd,
    JumpDetector.evaluate_zero (h.jump.symm ▸ hd), JumpDetector.evaluate_cfg]
  split
  · exact ⟨rfl, h.jump, rfl⟩
  · exact ⟨rfl, h.jump, rfl⟩

theorem Calm.firesOn (hd : Thresholds d) (h : Calm d w m) (hi : Silent i) :
    m.firesOn i = decide (DriftDetector.warmupFixes ≤ w ∧ d.velAidingCusumH ≤ 0) := by
  have hext : (m.noted i).externalAnomaly = false := by
    rw [noted_open hi.gate, hi.external, h.external]
    rfl
  unfold StateMachine.firesOn firing
  rw [(h.assessed hd hi).2.2, hext]
  by_cases hw : w < DriftDetector.warmupFixes
  · simp [hw]
  · rw [if_neg hw]
    by_cases hv : d.velAidingCusumH ≤ 0
    · rw [if_pos hv]
      exact (decide_eq_true ⟨not_lt.mp hw, hv⟩).symm
    · rw [if_neg hv]
      exact (decide_eq_false fun h => hv h.2).symm

/-- **One fix with nothing to see**: silence, unless the warm-up is over and the
    velocity-aiding threshold is not above zero. -/
theorem Calm.step (hd : Thresholds d) (h : Calm d w m) (hi : Silent i)
    (hq : ¬ (DriftDetector.warmupFixes ≤ w ∧ d.velAidingCusumH ≤ 0)) :
    (m.fixStep i).2 = [] ∧
    Calm d (if w < DriftDetector.warmupFixes then w + 1 else w) (m.fixStep i).1 := by
  obtain ⟨hdrift, hjump, -⟩ := h.assessed hd hi
  obtain ⟨hstate, -, -, hext, -⟩ := assess_keeps (m.noted i) i.r i.t i.hdop i.sats
  have hs : (m.noted i).state = .normal := (noted_keeps m i).2.1.trans h.state
  have hfire : (m.noted i).firing i.r i.t i.hdop i.sats = false :=
    (h.firesOn hd hi).trans (decide_eq_false hq)
  unfold fixStep
  rw [evaluate_idles hs hfire]
  exact ⟨rfl, hstate.trans hs, hdrift, hjump, hext⟩

theorem Calm.fires (hd : Thresholds d) (h : Calm d w m) (hi : Silent i)
    (hw : DriftDetector.warmupFixes ≤ w) (hv : d.velAidingCusumH ≤ 0) :
    (m.fixStep i).1.state = .suspicious := by
  have hs : (m.noted i).state = .normal := (noted_keeps m i).2.1.trans h.state
  have hfire : (m.noted i).firing i.r i.t i.hdop i.sats = true :=
    (h.firesOn hd hi).trans (decide_eq_true ⟨hw, hv⟩)
  exact evaluate_enters hs hfire

/-- A fix with nothing to see at time `0`. -/
def silentFix : FixIn (Ext F) := ⟨true, false, false, zeroResidual false, 0, none, none⟩

theorem silent_silentFix {F : Type} [Field F] : Silent (silentFix (F := F)) := ⟨rfl, rfl, rfl⟩

theorem calm_warmup (hd : Thresholds d) {n : ℕ} (hn : n ≤ DriftDetector.warmupFixes) :
    Calm d n (run fixStep (StateMachine.new d) (List.replicate n silentFix)) := by
  induction n with
  | zero => exact .new d
  | succ n ih =>
    rw [List.replicate_succ', run_snoc]
    have hlt : n < DriftDetector.warmupFixes := hn
    have h := ((ih hlt.le).step hd silent_silentFix fun hq => absurd hq.1 (not_le.mpr hlt)).2
    rwa [if_pos hlt] at h

theorem staysNormal_iff (hd : Thresholds d) :
    (∀ is : List (FixIn (Ext F)), (∀ i ∈ is, Silent i) →
      outputs fixStep (StateMachine.new d) is = [] ∧
      (run fixStep (StateMachine.new d) is).state = .normal) ↔ ¬ d.velAidingCusumH ≤ 0 := by
  constructor
  · intro hstays hv
    -- one fix past the warm-up
    have hnormal := (hstays
      (List.replicate DriftDetector.warmupFixes silentFix ++ [silentFix]) ?_).2
    · rw [run_snoc, (calm_warmup hd le_rfl).fires hd silent_silentFix le_rfl hv] at hnormal
      exact absurd hnormal (by simp)
    · intro i hi
      rcases List.mem_append.mp hi with hi | hi
      · rw [List.eq_of_mem_replicate hi]
        exact silent_silentFix
      · rw [List.mem_singleton.mp hi]
        exact silent_silentFix
  · intro hv is hsilent
    have hstep : ∀ m i, Silent i → (∃ w, Calm d w m) →
        (m.fixStep i).2 = [] ∧ ∃ w, Calm d w (m.fixStep i).1 := by
      rintro m i hi ⟨w, hw⟩
      obtain ⟨hout, hnext⟩ := hw.step hd hi fun hq => hv hq.2
      exact ⟨hout, _, hnext⟩
    obtain ⟨hout, w, hw⟩ := (along_of_forall hsilent).silent hstep ⟨0, .new d⟩
    exact ⟨hout, hw.state⟩

/-! ## A residual that is always too large -/

theorem firing_of_exceeds {F : Type} [Field F] [LinearOrder F] {m : StateMachine (Ext F)}
    {r : Residual (Ext F)} (hon : m.posDetectorsEnabled = true)
    (h : r.magPos > m.jump.cfg.maxJumpM) (t : Ext F) : m.firing r t none none = true := by
  unfold firing
  rw [(assess_detectors m r t none none).2.2, if_pos hon, JumpDetector.evaluate_exceeds h]
  rfl

/-- The fix at `t` of a stream on which the jump detector always fires. -/
structure Pressing (d : DetectConfig (Ext F)) (flagged : Bool) (t : F) (i : FixIn (Ext F)) :
    Prop where
  gate : i.posDetectorsEnabled = true
  flag : i.dropoutRecovery = flagged
  exceeds : i.r.magPos > d.maxJumpM
  time : i.t = .fin t
  hdop : i.hdop = none
  sats : i.sats = none

theorem Pressing.fires {F : Type} [Field F] [LinearOrder F] {d : DetectConfig (Ext F)}
    {m : StateMachine (Ext F)} {i : FixIn (Ext F)}
    {flagged : Bool} {t : F} (hi : Pressing d flagged t i)
    (hj : m.jump.cfg = d) :
    (m.noted i).firing i.r i.t i.hdop i.sats = true ∧
    ((m.noted i).assess i.r i.t i.hdop i.sats).1.jump.cfg = d := by
  rw [(assess_detectors ..).2.1, noted_open hi.gate, hi.hdop, hi.sats]
  dsimp only
  rw [if_pos rfl, JumpDetector.evaluate_cfg]
  exact ⟨firing_of_exceeds rfl (hj.symm ▸ hi.exceeds) i.t, hj⟩

/-- An episode that opened at `t₀`, with a fix every second up to `last`. While the streak of
    dropout fixes is short the clock keeps up with the fixes, so it is at most as many seconds
    past `t₀` as the streak allows. -/
structure Pressed (d : DetectConfig (Ext F)) (flagged : Bool) (t₀ last : F)
    (m : StateMachine (Ext F)) : Prop where
  jump : m.jump.cfg = d
  cfg : m.cfg = d
  state : m.state = .suspicious
  drained : m.dropoutRecovery = false
  streak : flagged = false → m.consecutiveDropout = 0
  clock : ∃ s : F, m.suspiciousSince = some (.fin s) ∧
    s ≤ t₀ + (min m.consecutiveDropout maxConsecutiveDropout : ℕ) ∧
    (flagged = true → m.lastDropoutT.getD (.fin s) = .fin last) ∧
    ¬ Ext.fin (last - s) ≥ d.suspiciousToSpoofedDwellS

theorem Pressed.assessed {flagged : Bool} {t₀ last : F} (h : Pressed d flagged t₀ last m)
    (hi : Pressing d flagged (last + 1) i) :
    let a := ((m.noted i).assess i.r i.t i.hdop i.sats).1
    (flagged = false → a.consecutiveDropout = 0) ∧
    ∃ s : F, a.suspiciousSince = some (.fin s) ∧
      s ≤ t₀ + (min a.consecutiveDropout maxConsecutiveDropout : ℕ) ∧
      (flagged = true → a.lastDropoutT.getD (.fin s) = .fin (last + 1)) := by
  obtain ⟨s, hc, hle, hl, -⟩ := h.clock
  obtain ⟨hsince, hlast, -⟩ := assess_clock (m.noted i) i.r i.t i.hdop i.sats
  have hflag : (m.noted i).dropoutRecovery = flagged := by
    rw [noted_open hi.gate, h.drained, hi.flag]
    exact Bool.or_false _
  have hcount : (m.noted i).consecutiveDropout = m.consecutiveDropout := by
    rw [noted_open hi.gate]
  have hstreak := assess_streak (m.noted i) i.r i.t i.hdop i.sats
  obtain ⟨-, hns, hnsince, -, hnlast, -⟩ := noted_keeps m i
  rw [hflag, hcount] at hstreak
  rw [hflag] at hsince hlast
  dsimp only
  rw [hsince, hlast, hstreak, hi.time]
  -- a stream that is never flagged grants no pause, and one that always is grants five
  cases flagged with
  | false =>
    rw [h.streak rfl] at hle
    exact ⟨fun _ => rfl, s, hnsince.trans hc, hle, fun hf => absurd hf (by simp)⟩
  | true =>
    have hreach : (m.noted i).drainFlags.lastDropoutT.getD (.fin s) = .fin last :=
      (congrArg (·.getD (Ext.fin s)) hnlast).trans (hl rfl)
    have hmark : ((m.noted i).drainFlags.accountDropout true (.fin (last + 1))).lastDropoutT =
      some (.fin (last + 1)) := rfl
    rw [hmark, if_pos rfl]
    refine ⟨fun hf => absurd hf (by simp), ?_⟩
    rcases accountDropout_clock (m := (m.noted i).drainFlags) (hns.trans h.state)
      (hnsince.trans hc) true (.fin (last + 1)) with ⟨hc', -⟩ | ⟨hshort, -, hc', -⟩
    · refine ⟨s, hc', ?_, fun _ => rfl⟩
      have hmono : min m.consecutiveDropout maxConsecutiveDropout ≤
          min (succU8 m.consecutiveDropout) maxConsecutiveDropout := by
        unfold succU8 maxConsecutiveDropout
        omega
      have hmono' : ((min m.consecutiveDropout maxConsecutiveDropout : ℕ) : F) ≤
          (min (succU8 m.consecutiveDropout) maxConsecutiveDropout : ℕ) := Nat.cast_le.mpr hmono
      linarith
    · -- a granted pause is the second since the last fix, and one more of the streak
      rw [hreach, Ext.sub_fin, add_sub_cancel_left, Ext.zero_eq, Ext.max_fin,
        max_eq_left zero_le_one, Ext.add_fin] at hc'
      change succU8 (m.noted i).consecutiveDropout ≤ maxConsecutiveDropout at hshort
      rw [hcount] at hshort
      have hnext : min (succU8 m.consecutiveDropout) maxConsecutiveDropout =
          min m.consecutiveDropout maxConsecutiveDropout + 1 := by
        unfold succU8 maxConsecutiveDropout at *
        omega
      refine ⟨s + 1, hc', ?_, fun _ => rfl⟩
      rw [hnext, Nat.cast_succ]
      linarith

/-- **One more fix**: the dwell is served and the machine latches, or it goes on waiting. -/
theorem Pressed.step {flagged : Bool} {t₀ last : F} (h : Pressed d flagged t₀ last m)
    (hi : Pressing d flagged (last + 1) i) :
    ((∃ x : F, Ext.fin x ≥ d.suspiciousToSpoofedDwellS) ∧ (m.fixStep i).1.state = .spoofed) ∨
    Pressed d flagged t₀ (last + 1) (m.fixStep i).1 := by
  obtain ⟨hstreak, s, hc, hle, hl⟩ := h.assessed hi
  obtain ⟨hfire, hjump⟩ := hi.fires h.jump
  have hs : (m.noted i).state = .suspicious := (noted_keeps m i).2.1.trans h.state
  have hcfg : (m.noted i).cfg = d := (noted_keeps m i).1.trans h.cfg
  obtain ⟨hstate, hcfg', -, -, hdrain⟩ := assess_keeps (m.noted i) i.r i.t i.hdop i.sats
  rcases evaluate_firing hs hfire with ⟨hdwell, hspoofed⟩ | ⟨hwait, heq⟩
  · rw [hc, Option.getD_some, hi.time, Ext.sub_fin, hcfg] at hdwell
    exact .inl ⟨⟨_, hdwell⟩, hspoofed⟩
  · rw [hc, Option.getD_some, hi.time, Ext.sub_fin, hcfg] at hwait
    unfold fixStep
    rw [heq]
    exact .inr ⟨hjump, hcfg'.trans hcfg, hstate.trans hs, hdrain, hstreak, s, hc, hle, hl, hwait⟩

/-- The first fix opens the episode. It is flagged only if the ones a second later are. -/
theorem Pressed.start (hd : Thresholds d) {first flagged : Bool} {t₀ : F}
    (hi : Pressing d first t₀ i) (hflag : first = true → flagged = true) :
    Pressed d flagged t₀ t₀ ((StateMachine.new d).fixStep i).1 := by
  have hopen := noted_open (m := StateMachine.new d) hi.gate
  obtain ⟨hfire, hjump⟩ := hi.fires (m := StateMachine.new d) rfl
  have hs : ((StateMachine.new d).noted i).state = .normal := (noted_keeps _ i).2.1
  have hcfg : ((StateMachine.new d).noted i).cfg = d := (noted_keeps _ i).1
  obtain ⟨-, hcfg', -, -, hdrain⟩ :=
    assess_keeps ((StateMachine.new d).noted i) i.r i.t i.hdop i.sats
  have hlast := (assess_clock ((StateMachine.new d).noted i) i.r i.t i.hdop i.sats).2.1
  have hstreak := assess_streak ((StateMachine.new d).noted i) i.r i.t i.hdop i.sats
  have hdrop : ((StateMachine.new d).noted i).dropoutRecovery = first := by
    rw [hopen, hi.flag]
    exact Bool.or_false _
  have heq := evaluate_opens hs (evaluate_enters hs hfire)
  unfold fixStep
  rw [heq]
  refine ⟨hjump, hcfg'.trans hcfg, rfl, hdrain, fun hf => ?_, t₀, congrArg some hi.time,
    le_add_of_nonneg_right (Nat.cast_nonneg _), fun _ => ?_, ?_⟩
  · have hfirst : first = false := by
      rw [← Bool.not_eq_true]
      intro h
      exact absurd ((hflag h).symm.trans hf) (by simp)
    rw [hdrop, hfirst] at hstreak
    exact hstreak
  · show (StateMachine.assess _ _ _ _ _).1.lastDropoutT.getD _ = _
    rw [hlast, hi.time]
    rcases accountDropout_lastDropoutT ((StateMachine.new d).noted i).drainFlags (.fin t₀)
      ((StateMachine.new d).noted i).dropoutRecovery with h | h
    · rw [h, Option.getD_none]
    · rw [h, Option.getD_some]
  · rw [sub_self]
    exact Ext.not_le_of_gt hd.dwell

/-- A residual of more than the threshold, to the north. -/
theorem exists_exceeding (hd : Thresholds d) : ∃ r : Residual (Ext F), r.magPos > d.maxJumpM := by
  have hfinite := hd.jumpFinite
  cases hmax : d.maxJumpM with
  | fin x =>
    exact ⟨{ zeroResidual false with dpos := ⟨.fin (x + 1), 0, 0⟩, magPos := .fin (x + 1) },
      lt_add_one x⟩
  | posInf => rw [hmax] at hfinite; exact absurd hfinite (by simp [isFinite])
  | negInf => rw [hmax] at hfinite; exact absurd hfinite (by simp [isFinite])
  | nan => rw [hmax] at hfinite; exact absurd hfinite (by simp [isFinite])

theorem secondFix_pressing {F : Type} [Field F] [LinearOrder F] {d : DetectConfig (Ext F)}
    (t₀ : F) {rs : ℕ → Residual (Ext F)}
    (hrs : ∀ k, (rs k).magPos > d.maxJumpM) (k : ℕ) :
    Pressing d (decide ((if k = 0 then 0 else 1) > d.gpsDropoutFreezeS)) (t₀ + k)
      (secondFix d t₀ rs k) :=
  ⟨rfl, rfl, hrs k, rfl, rfl, rfl⟩

theorem pressed_run (hd : Thresholds d) {t₀ : F} {rs : ℕ → Residual (Ext F)}
    (hrs : ∀ k, (rs k).magPos > d.maxJumpM) (n : ℕ) :
    let m := run fixStep (StateMachine.new d) (secondFixes d t₀ rs (n + 1))
    ((∃ x : F, Ext.fin x ≥ d.suspiciousToSpoofedDwellS) ∧ m.state = .spoofed) ∨
    Pressed d (decide (1 > d.gpsDropoutFreezeS)) t₀ (t₀ + n) m := by
  induction n with
  | zero =>
    have hi := secondFix_pressing t₀ hrs 0
    rw [if_pos rfl, Nat.cast_zero, add_zero] at hi
    rw [Nat.cast_zero, add_zero]
    exact .inr (.start hd hi fun h => decide_eq_true (Ext.lt_one_of_lt_zero (of_decide_eq_true h)))
  | succ n ih =>
    have hi := secondFix_pressing t₀ hrs (n + 1)
    rw [if_neg n.succ_ne_zero, Nat.cast_succ, ← add_assoc] at hi
    have hrun : secondFixes d t₀ rs (n + 1 + 1) =
        secondFixes d t₀ rs (n + 1) ++ [secondFix d t₀ rs (n + 1)] := by
      unfold secondFixes
      rw [List.range_succ, List.map_append]
      rfl
    dsimp only at ih ⊢
    rw [hrun, run_snoc, Nat.cast_succ, ← add_assoc]
    rcases ih with ⟨hdwell, hspoofed⟩ | hpressed
    · exact .inl ⟨hdwell, fixStep_spoofed hspoofed _⟩
    · exact hpressed.step hi

theorem escalates_iff [Archimedean F] (hd : Thresholds d) :
    (∀ (t₀ : F) (rs : ℕ → Residual (Ext F)), (∀ k, (rs k).magPos > d.maxJumpM) →
      ∃ n, (run fixStep (StateMachine.new d) (secondFixes d t₀ rs n)).state = .spoofed) ↔
    d.suspiciousToSpoofedDwellS ≠ .posInf := by
  constructor
  · intro hescalates hinf
    -- one such stream is enough, and along it the machine only ever waits
    obtain ⟨r, hr⟩ := exists_exceeding hd
    obtain ⟨n, hn⟩ := hescalates 0 (fun _ => r) fun _ => hr
    cases n with
    | zero => exact absurd hn (by simp [secondFixes, StateMachine.new])
    | succ n =>
      rcases pressed_run hd (fun _ => hr) n with ⟨⟨x, hx⟩, -⟩ | hpressed
      · rw [hinf] at hx
        exact hx
      · exact absurd (hpressed.state.symm.trans hn) (by simp)
  · intro hfinite t₀ rs hrs
    obtain ⟨dwell, hdwell⟩ := Ext.fin_of_pos hd.dwell hfinite
    -- the clock is never more than five seconds past the first fix
    obtain ⟨n, hn⟩ := exists_nat_ge (dwell + maxConsecutiveDropout)
    refine ⟨n + 1, ?_⟩
    rcases pressed_run hd hrs n with ⟨-, hspoofed⟩ | hpressed
    · exact hspoofed
    · obtain ⟨s, -, hle, -, hwait⟩ := hpressed.clock
      rw [hdwell, ge_iff_le, Ext.le_fin, not_le] at hwait
      have hcap : ((min (run fixStep (StateMachine.new d)
          (secondFixes d t₀ rs (n + 1))).consecutiveDropout maxConsecutiveDropout : ℕ) : F) ≤
          (maxConsecutiveDropout : ℕ) := Nat.cast_le.mpr (min_le_right _ _)
      linarith

/-- **An accepted configuration is a working detector if and only if its velocity-aiding
    threshold is not zero or below and its dwell is not infinite.** -/
theorem working_iff [Archimedean F] {c : FusionConfig (Ext F)} (h : c.validate = .ok ()) :
    WorkingDetector c.detect ↔
      ¬ c.detect.velAidingCusumH ≤ 0 ∧ c.detect.suspiciousToSpoofedDwellS ≠ .posInf := by
  have hd := thresholds_of_validate h
  rw [← staysNormal_iff hd, ← escalates_iff hd]
  exact ⟨fun hw => ⟨hw.staysNormal, hw.escalates⟩, fun hw => ⟨hw.1, hw.2⟩⟩

/-- The default configuration. -/
theorem working_iff_default : (FusionConfig.default (α := Ext ℚ)).validate = .ok () ∧
    (WorkingDetector (FusionConfig.default (α := Ext ℚ)).detect ↔
      ¬ (FusionConfig.default (α := Ext ℚ)).detect.velAidingCusumH ≤ 0 ∧
        (FusionConfig.default (α := Ext ℚ)).detect.suspiciousToSpoofedDwellS ≠ .posInf) :=
  have h : (FusionConfig.default (α := Ext ℚ)).validate = .ok () :=
    runChecks_ok.mpr (by decide +kernel)
  ⟨h, working_iff h⟩

/-- The default configuration with `velAidingCusumH` at zero. -/
def zeroAidingCfg : FusionConfig (Ext ℚ) :=
  let c : FusionConfig (Ext ℚ) := .default
  { c with detect := { c.detect with velAidingCusumH := 0 } }

/-- It is accepted, and its 21st fix with nothing to see opens an episode. -/
theorem zeroAiding_fires : zeroAidingCfg.validate = .ok () ∧
    ¬ WorkingDetector zeroAidingCfg.detect := by
  constructor
  · exact runChecks_ok.mpr (by decide +kernel)
  · intro hw
    have hnormal := (hw.staysNormal (List.replicate 21 silentFix) fun i hi =>
      List.eq_of_mem_replicate hi ▸ silent_silentFix).2
    exact absurd hnormal (by decide +kernel)

end StateMachine
end FlyingSquirrel
