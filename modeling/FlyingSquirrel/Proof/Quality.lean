import FlyingSquirrel.Detect.Lanes
import FlyingSquirrel.Proof.Validation

/-!
# What the reported signal quality can do

Two histories of the same residuals are reported with different quality fields, and wherever both
fields are bad in the first, both are in the second. The drift detector learns and sums the same
in both, since a fix's quality is only looked at when a threshold is. The jump detector's counter
does depend on it: the wider mismatch threshold counts fewer fixes, and what the two runs keep is
that **the second counter is never ahead of the first**. A detector that fires in the second then
fires in the first.

Where the fields are never both bad, they have no effect at all.
-/

set_option autoImplicit false

namespace FlyingSquirrel

open Lib Lib.Ext

section Model

variable {α : Type} [LT α] [DecidableLT α]

namespace Reading

/-- Both quality fields of the fix are bad. -/
def Bad (c : DetectConfig α) (x : Reading α) : Prop := c.qualityBad x.hdop x.sats = true

instance (c : DetectConfig α) (x : Reading α) : Decidable (x.Bad c) :=
  inferInstanceAs (Decidable (_ = true))

/-- The same residual, in no better a quality. -/
def Worsens (c : DetectConfig α) (x y : Reading α) : Prop := y.r = x.r ∧ (x.Bad c → y.Bad c)

/-- The fix with its quality unknown. -/
def unknown (x : Reading α) : Reading α := ⟨x.r, none, none⟩

theorem not_bad_unknown (c : DetectConfig α) (x : Reading α) : ¬ x.unknown.Bad c :=
  Bool.false_ne_true

end Reading

end Model

namespace DriftDetector

variable {α : Type} [Zero α] [One α] [Neg α] [Add α] [Sub α] [Mul α] [Div α] [NatCast α]
  [OfScientific α] [LT α] [LE α] [DecidableLT α] [DecidableLE α] [BEq α] [Max α]
  [FiniteTest α]

/-- **What the detector learns and sums does not depend on the quality.** -/
theorem evaluate_fst_quality (d : DriftDetector α) {x y : Reading α} (h : y.r = x.r) :
    (d.evaluate y.r y.hdop y.sats).1 = (d.evaluate x.r x.hdop x.sats).1 := by
  unfold evaluate
  dsimp only
  rw [h]
  split
  · rfl
  · split <;> rfl

theorem run_feed_quality (d : DriftDetector α) {xs ys : List (Reading α)}
    (h : List.Forall₂ (fun x y => y.r = x.r) xs ys) : run feed d ys = run feed d xs := by
  refine run_related (R := fun d d' => d' = d) ?_ rfl h
  rintro d d' x y rfl hxy
  exact evaluate_fst_quality d' hxy

/-- The quality is looked at for whether both fields are bad, and no further. -/
theorem evaluate_congr (d : DriftDetector α) {x y : Reading α} (hr : y.r = x.r)
    (hq : y.Bad d.cfg ↔ x.Bad d.cfg) :
    d.evaluate y.r y.hdop y.sats = d.evaluate x.r x.hdop x.sats := by
  have hwide (h : α) : d.widened y.hdop y.sats h = d.widened x.hdop x.sats h :=
    if_congr hq rfl rfl
  unfold evaluate
  rw [hwide, hwide, hr]

end DriftDetector

namespace JumpDetector

variable {α : Type} [Mul α] [OfScientific α] [LT α] [DecidableLT α]

theorem evaluate_congr (j : JumpDetector α) {x y : Reading α} (hr : y.r = x.r)
    (hq : y.Bad j.cfg ↔ x.Bad j.cfg) :
    j.evaluate y.r y.hdop y.sats = j.evaluate x.r x.hdop x.sats := by
  have hscale : j.scale y.hdop y.sats = j.scale x.hdop x.sats := if_congr hq rfl rfl
  unfold evaluate
  rw [hscale, hr]

theorem run_feed_congr (j : JumpDetector α) {xs ys : List (Reading α)}
    (h : List.Forall₂ (fun x y => y.r = x.r ∧ (y.Bad j.cfg ↔ x.Bad j.cfg)) xs ys) :
    run feed j ys = run feed j xs := by
  refine (run_related (R := fun (j₁ j₂ : JumpDetector α) => j₂ = j₁ ∧ j₁.cfg = j.cfg) ?_
    ⟨rfl, rfl⟩ h).1
  rintro j₁ j₂ x y ⟨rfl, hcfg⟩ ⟨hr, hq⟩
  rw [← hcfg] at hq
  rw [feed_fst, feed_fst, evaluate_congr j₂ hr hq]
  exact ⟨rfl, (evaluate_cfg ..).trans hcfg⟩

end JumpDetector

variable {F : Type} [Field F] [LinearOrder F] [IsStrictOrderedRing F]

namespace DriftDetector

/-- A lane that reaches its threshold on a fix reaches it on one of a better quality. -/
theorem laneThreshold_reached {d : DriftDetector (Ext F)} (hd : Thresholds d.cfg)
    {x y : Reading (Ext F)} (h : x.Bad d.cfg → y.Bad d.cfg) {l : Lane} {s : Ext F}
    (hs : d.laneThreshold y.hdop y.sats l ≤ s) : d.laneThreshold x.hdop x.sats l ≤ s := by
  have hc : (1 : F) ≤ 1.5 := by norm_num
  cases l with
  | posN | negN | posE | negE => exact widened_le h hd.cusum hc hs
  | mag => exact widened_le h hd.magCusum hc hs
  | velAiding => exact hs

theorem evaluate_fires_of_worse {d : DriftDetector (Ext F)} (hd : Thresholds d.cfg)
    {x y : Reading (Ext F)} (h : Reading.Worsens d.cfg x y)
    (hfires : (d.evaluate y.r y.hdop y.sats).2 ≠ none) :
    (d.evaluate x.r x.hdop x.sats).2 ≠ none := by
  cases hy : finiteResidual y.r with
  | false =>
    rw [evaluate_undefined d hy] at hfires
    exact absurd rfl hfires
  | true =>
    by_cases hw : d.warmup < warmupFixes
    · rw [evaluate_warming hw hy] at hfires
      exact absurd rfl hfires
    · have hx : finiteResidual x.r = true := h.1 ▸ hy
      obtain ⟨l, hl⟩ := (evaluate_fires_iff (not_lt.mp hw) hy).mp hfires
      rw [evaluate_fst_quality d h.1] at hl
      exact (evaluate_fires_iff (not_lt.mp hw) hx).mpr ⟨l, laneThreshold_reached hd h.2 hl⟩

end DriftDetector

namespace JumpDetector

variable {j j' : JumpDetector (Ext F)} {x y : Reading (Ext F)}

theorem jump_exceeded (hj : Thresholds j.cfg) (h : x.Bad j.cfg → y.Bad j.cfg) {v : Ext F}
    (hv : (j.scale y.hdop y.sats).1 < v) : (j.scale x.hdop x.sats).1 < v := by
  unfold scale at hv ⊢
  rw [apply_ite Prod.fst] at hv ⊢
  exact widened_lt h hj.jump (by norm_num : (1 : F) ≤ 2.0) hv

theorem mismatch_exceeded (hj : Thresholds j.cfg) (h : x.Bad j.cfg → y.Bad j.cfg) {v : Ext F}
    (hv : (j.scale y.hdop y.sats).2 < v) : (j.scale x.hdop x.sats).2 < v := by
  unfold scale at hv ⊢
  rw [apply_ite Prod.snd] at hv ⊢
  exact widened_lt h hj.velocity (by norm_num : (1 : F) ≤ 1.5) hv

/-- The run with the worse quality is behind: the same configuration, and a counter that is not
    ahead. -/
structure Behind (j j' : JumpDetector (Ext F)) : Prop where
  cfg : j'.cfg = j.cfg
  count : j'.consecutiveVmismatch ≤ j.consecutiveVmismatch

theorem Behind.scale {F : Type} [Field F] [LinearOrder F] {j j' : JumpDetector (Ext F)}
    (h : Behind j j') (hdop : Option (Ext F)) (sats : Option Nat) :
    j'.scale hdop sats = j.scale hdop sats := by
  unfold JumpDetector.scale
  rw [h.cfg]

/-- A mismatch that is counted in the second run is counted in the first. -/
theorem Behind.countVmismatch (h : Behind j j') (hj : Thresholds j.cfg)
    (hxy : Reading.Worsens j.cfg x y) :
    j'.countVmismatch y.r (j'.scale y.hdop y.sats).2 ≤
      j.countVmismatch x.r (j.scale x.hdop x.sats).2 := by
  obtain ⟨hr, hq⟩ := hxy
  unfold JumpDetector.countVmismatch
  rw [h.scale, hr]
  cases x.r.dvelKnown with
  | false => exact Nat.sub_le_sub_right h.count 1
  | true =>
    by_cases hv : x.r.magVel > (j.scale y.hdop y.sats).2
    · rw [if_pos rfl, if_pos rfl, if_pos hv, if_pos (mismatch_exceeded hj hq hv)]
      exact succU8_mono h.count
    · rw [if_pos rfl, if_neg hv]
      exact Nat.zero_le _

theorem Behind.next (h : Behind j j') (hj : Thresholds j.cfg)
    (hxy : Reading.Worsens j.cfg x y) : Behind (j.feed x).1 (j'.feed y).1 := by
  refine ⟨?_, ?_⟩
  · rw [feed_fst, feed_fst, evaluate_cfg, evaluate_cfg, h.cfg]
  · rw [feed_fst, feed_fst, evaluate_fst, evaluate_fst]
    exact h.countVmismatch hj hxy

theorem run_behind (hj : Thresholds j.cfg) {xs ys : List (Reading (Ext F))}
    (h : List.Forall₂ (Reading.Worsens j.cfg) xs ys) :
    Behind (run feed j xs) (run feed j ys) := by
  refine (run_related (R := fun j₁ j₂ => Behind j₁ j₂ ∧ j₁.cfg = j.cfg) ?_
    ⟨⟨rfl, le_rfl⟩, rfl⟩ h).1
  rintro j₁ j₂ x y ⟨hbehind, hcfg⟩ hxy
  rw [← hcfg] at hj hxy
  exact ⟨hbehind.next hj hxy, (evaluate_cfg ..).trans hcfg⟩

theorem evaluate_fires_iff {F : Type} [Field F] [LinearOrder F]
    (j : JumpDetector (Ext F)) (x : Reading (Ext F)) :
    (j.evaluate x.r x.hdop x.sats).2 ≠ none ↔
      (x.r.dvelKnown = true ∧ x.r.magVel > (j.scale x.hdop x.sats).2 ∧
        j.countVmismatch x.r (j.scale x.hdop x.sats).2 ≥ j.cfg.jumpPersistFixes) ∨
      x.r.magPos > (j.scale x.hdop x.sats).1 := by
  rw [evaluate_snd]
  split
  · rename_i h
    simp [h]
  · rename_i h
    split <;> simp_all

theorem Behind.fires (h : Behind j j') (hj : Thresholds j.cfg) (hxy : Reading.Worsens j.cfg x y)
    (hfires : (j'.evaluate y.r y.hdop y.sats).2 ≠ none) :
    (j.evaluate x.r x.hdop x.sats).2 ≠ none := by
  have hcount := h.countVmismatch hj hxy
  obtain ⟨hr, hq⟩ := hxy
  rw [evaluate_fires_iff] at hfires ⊢
  rw [h.scale, h.cfg, hr] at hfires
  rw [h.scale, hr] at hcount
  rcases hfires with ⟨hknown, hv, hpersist⟩ | hpos
  · exact .inl ⟨hknown, mismatch_exceeded hj hq hv, hpersist.trans hcount⟩
  · exact .inr (jump_exceeded hj hq hpos)

end JumpDetector

open Reading in
/-- **Reported quality can only widen, and only when both fields are bad.** Two histories have the
    same residuals, and both quality fields of a fix of the second are bad wherever both are in
    the first. Under a validated configuration, and from any state, the drift detector is the same
    after both, and either detector reports something on a next fix of the first if it does on
    that of the second. In a history where the two fields are never both bad, the detectors do on
    every fix what they do where the quality is unknown. -/
theorem quality_only_widens {fc : FusionConfig (Ext F)} (hvalid : fc.validate = .ok ())
    {d : DriftDetector (Ext F)} (hd : d.cfg = fc.detect) {j : JumpDetector (Ext F)}
    (hj : j.cfg = fc.detect) (xs : List (Reading (Ext F))) (x : Reading (Ext F)) :
    (∀ ys y, List.Forall₂ (Worsens fc.detect) xs ys → Worsens fc.detect x y →
      run DriftDetector.feed d ys = run DriftDetector.feed d xs ∧
      (((run DriftDetector.feed d ys).evaluate y.r y.hdop y.sats).2 ≠ none →
        ((run DriftDetector.feed d xs).evaluate x.r x.hdop x.sats).2 ≠ none) ∧
      (((run JumpDetector.feed j ys).evaluate y.r y.hdop y.sats).2 ≠ none →
        ((run JumpDetector.feed j xs).evaluate x.r x.hdop x.sats).2 ≠ none)) ∧
    ((∀ x ∈ xs, ¬ x.Bad fc.detect) → ¬ x.Bad fc.detect →
      (run DriftDetector.feed d xs).evaluate x.r x.hdop x.sats =
        (run DriftDetector.feed d (xs.map unknown)).evaluate x.r none none ∧
      (run JumpDetector.feed j xs).evaluate x.r x.hdop x.sats =
        (run JumpDetector.feed j (xs.map unknown)).evaluate x.r none none) := by
  have hthresholds := thresholds_of_validate hvalid
  rw [← hd] at hthresholds
  have hdcfg := DriftDetector.run_feed_cfg d xs
  constructor
  · intro ys y hxys hxy
    have hsame : run DriftDetector.feed d ys = run DriftDetector.feed d xs :=
      DriftDetector.run_feed_quality d (hxys.imp fun _ _ h => h.1)
    refine ⟨hsame, ?_, ?_⟩
    · rw [hsame]
      refine DriftDetector.evaluate_fires_of_worse ?_ ?_
      · rwa [hdcfg]
      · rwa [hdcfg, hd]
    · rw [hd, ← hj] at hthresholds
      rw [← hj] at hxys hxy
      have hbehind := JumpDetector.run_behind hthresholds hxys
      rw [← JumpDetector.run_feed_cfg j xs] at hthresholds hxy
      exact hbehind.fires hthresholds hxy
  · intro hxs hx
    have hunknown : List.Forall₂
        (fun x y => y.r = x.r ∧ (y.Bad fc.detect ↔ x.Bad fc.detect)) xs (xs.map unknown) := by
      rw [List.forall₂_map_right_iff, List.forall₂_same]
      exact fun x hx => ⟨rfl, iff_of_false (not_bad_unknown fc.detect x) (hxs x hx)⟩
    have hquality : x.unknown.Bad fc.detect ↔ x.Bad fc.detect :=
      iff_of_false (not_bad_unknown fc.detect x) hx
    constructor
    · rw [DriftDetector.run_feed_quality d (hunknown.imp fun _ _ h => h.1)]
      rw [← hd, ← hdcfg] at hquality
      exact (DriftDetector.evaluate_congr _ (x := x) (y := x.unknown) rfl hquality).symm
    · rw [← hj] at hunknown
      rw [JumpDetector.run_feed_congr j hunknown]
      rw [← hj, ← JumpDetector.run_feed_cfg j xs] at hquality
      exact (JumpDetector.evaluate_congr _ (x := x) (y := x.unknown) rfl hquality).symm

/-- A fix whose velocity is off by `v`. -/
def mismatched (v : ℚ) (hdop : Option (Ext ℚ)) (sats : Option Nat) : Reading (Ext ℚ) where
  r :=
    { dpos := ⟨0, 0, 0⟩, dvel := ⟨fin v, 0, 0⟩, magPos := 0, magVel := fin v, dvelKnown := true,
      dvelFree := ⟨0, 0, 0⟩, magVelFree := 0, maneuvering := false }
  hdop := hdop
  sats := sats

/-- A mismatch that is reported on its second fix in a bad quality is reported in an unknown one,
    and a bad HDOP on its own is no different from that. -/
theorem quality_only_widens_mismatch :
    let j : JumpDetector (Ext ℚ) := .new DetectConfig.default
    let plain := mismatched 30 none none
    (run JumpDetector.feed j [plain]).evaluate plain.r none none =
        (run JumpDetector.feed j [mismatched 30 (some 9) none]).evaluate plain.r (some 9) none ∧
      ((run JumpDetector.feed j [plain]).evaluate plain.r none none).2 ≠ none := by
  intro j plain
  have hvalid : (FusionConfig.default (α := Ext ℚ)).validate = .ok () :=
    runChecks_ok.mpr (by decide +kernel)
  have hworse : Reading.Worsens FusionConfig.default.detect plain
      (mismatched 30 (some 9) (some 3)) := ⟨rfl, fun h => absurd h (by decide +kernel)⟩
  constructor
  · exact ((quality_only_widens hvalid (d := .new DetectConfig.default) rfl (j := j) rfl
      [mismatched 30 (some 9) none] (mismatched 30 (some 9) none)).2
        (by decide +kernel) (by decide +kernel)).2.symm
  · exact ((quality_only_widens hvalid (d := .new DetectConfig.default) rfl (j := j) rfl
      [plain] plain).1 [mismatched 30 (some 9) (some 3)] (mismatched 30 (some 9) (some 3))
      (.cons hworse .nil) hworse).2.2 (by decide +kernel)

end FlyingSquirrel
