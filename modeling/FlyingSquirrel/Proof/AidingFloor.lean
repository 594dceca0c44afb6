import FlyingSquirrel.Detect.Exact
import Mathlib.Algebra.Order.Floor.Semiring
import Mathlib.Tactic.NormNum

/-!
# How deaf the velocity-aiding lane can be made

The floor of the velocity-aiding lane is learnt from the residual it is to judge, by a running
mean and then by a moving average, and **only from residuals below the base reference `k`**. An
average of such residuals is below `k` itself, whatever the history. The reference in force is at
most twice the floor or `k`, so below `2k`, and a walk-off that holds `2k + ε` gains `ε` a fix.
-/

set_option autoImplicit false

namespace FlyingSquirrel

open Lib Lib.Ext

namespace DriftDetector

/-- A fix with defined components that counts for the lane, with at least `b` on it. -/
def Masked {α : Type} [LE α] [FiniteTest α] (b : α) (x : Reading α) : Prop :=
  finiteResidual x.r = true ∧ Lane.velAiding.counts x.r = true ∧ b ≤ x.r.magVelFree

variable {F : Type} [Field F] [LinearOrder F] [IsStrictOrderedRing F]

/-! ## In exact arithmetic -/

/-- The floor is below the base reference, and the sum is one. -/
structure FloorLow (d : DriftDetector F) : Prop where
  floor_nonneg : 0 ≤ d.velAidingNoise
  floor_lt : d.velAidingNoise < d.cfg.velAidingCusumKMps
  sum_nonneg : 0 ≤ d.state.sVelAiding

/-- No call gives a negative magnitude. -/
def FreeNonneg : DriftCall F → Prop
  | .fix x => 0 ≤ x.r.magVelFree
  | .reset => True

/-- A floor that is learnt from a residual below `k` stays below `k`. -/
theorem average_low {a f v k : F} (h₀ : 0 < a) (h₁ : a ≤ 1) (hf : 0 ≤ f) (hfk : f < k)
    (hv : 0 ≤ v) (hvk : v < k) : 0 ≤ ewma a f v ∧ ewma a f v < k :=
  ⟨ewma_ge h₀.le h₁ hf hv, ewma_lt h₀ h₁ hfk.le hvk⟩

theorem learnFloors_low {d : DriftDetector F} (h : d.FloorLow) {r : Residual F}
    (hr : 0 ≤ r.magVelFree) : 0 ≤ (d.learnFloors r).velAidingNoise ∧
      (d.learnFloors r).velAidingNoise < d.cfg.velAidingCusumKMps := by
  unfold learnFloors
  dsimp only
  split
  · rename_i hquiet
    exact average_low (a := velAidingNoiseAlpha) (by norm_num [velAidingNoiseAlpha])
      (by norm_num [velAidingNoiseAlpha]) h.floor_nonneg h.floor_lt hr hquiet.2.2.2
  · exact ⟨h.floor_nonneg, h.floor_lt⟩

theorem warmUp_low {d : DriftDetector F} (h : d.FloorLow) {r : Residual F}
    (hr : 0 ≤ r.magVelFree) : (d.warmUp r).FloorLow := by
  have hfloor : 0 ≤ (d.warmUp r).velAidingNoise ∧
      (d.warmUp r).velAidingNoise < d.cfg.velAidingCusumKMps := by
    unfold warmUp
    dsimp only
    split
    · rename_i hquiet
      rw [mean_eq_ewma]
      have hone : (1 : F) ≤ ((d.warmup + 1 : ℕ) : F) := by
        push_cast
        linarith [Nat.cast_nonneg (α := F) d.warmup]
      have hpos : (0 : F) < ((d.warmup + 1 : ℕ) : F) := zero_lt_one.trans_le hone
      exact average_low (one_div_pos.mpr hpos) ((div_le_one hpos).mpr hone) h.floor_nonneg
        h.floor_lt hr hquiet.2.2
    · exact ⟨h.floor_nonneg, h.floor_lt⟩
  exact ⟨hfloor.1, hfloor.2, le_rfl⟩

/-- **Every call keeps the floor low.** -/
theorem FloorLow.next {d : DriftDetector F} (h : d.FloorLow) {call : DriftCall F}
    (hc : FreeNonneg call) : (d.callStep call).1.FloorLow := by
  cases call with
  | reset => exact ⟨h.floor_nonneg, h.floor_lt, le_rfl⟩
  | fix x =>
    show (d.evaluate x.r x.hdop x.sats).1.FloorLow
    rcases d.evaluate_cases x.r x.hdop x.sats with he | ⟨-, he⟩ | ⟨hw, -, he, -⟩
    · rw [he]
      exact h
    · rw [he]
      exact warmUp_low h hc
    · have hsum := evaluate_sum hw x .velAiding
      obtain ⟨hnonneg, hlt⟩ := learnFloors_low h hc
      refine ⟨by rw [he]; exact hnonneg, by rw [he]; exact hlt, ?_⟩
      show 0 ≤ Lane.velAiding.sum _
      rw [hsum]
      split
      · exact cusum_nonneg _ _
      · exact h.sum_nonneg

/-- A masked fix over twice the base reference gains what it is over by. -/
theorem masked_gains {d : DriftDetector F} (h : d.FloorLow) (hw : warmupFixes ≤ d.warmup)
    {ε : F} {x : Reading F} (hx : Masked (2 * d.cfg.velAidingCusumKMps + ε) x) (hε : 0 < ε) :
    d.state.sVelAiding + ε ≤ (d.evaluate x.r x.hdop x.sats).1.state.sVelAiding := by
  obtain ⟨-, hcounts, hb⟩ := hx
  have hk : 0 < d.cfg.velAidingCusumKMps := h.floor_nonneg.trans_lt h.floor_lt
  obtain ⟨-, hlt⟩ := learnFloors_low h (r := x.r) (by linarith)
  have href : d.laneReference x.r .velAiding ≤ 2 * d.cfg.velAidingCusumKMps := by
    have htwo : (velAidingNoiseFactor : F) = 2 := by norm_num [velAidingNoiseFactor]
    refine max_le (by linarith) ?_
    rw [htwo]
    linarith
  have hsum := evaluate_sum hw x .velAiding
  rw [hcounts, if_pos rfl] at hsum
  calc d.state.sVelAiding + ε
      ≤ d.state.sVelAiding + (x.r.magVelFree - d.laneReference x.r .velAiding) := by linarith
    _ ≤ cusum d.state.sVelAiding (x.r.magVelFree - d.laneReference x.r .velAiding) :=
        le_cusum _ _
    _ = _ := hsum.symm

/-- Masked fixes, one after another. -/
theorem masked_run {d : DriftDetector F} (h : d.FloorLow) (hw : warmupFixes ≤ d.warmup) {ε : F}
    (hε : 0 < ε) {xs : List (Reading F)}
    (hxs : ∀ x ∈ xs, Masked (2 * d.cfg.velAidingCusumKMps + ε) x) :
    (run feed d xs).FloorLow ∧ warmupFixes ≤ (run feed d xs).warmup ∧
      d.state.sVelAiding + xs.length * ε ≤ (run feed d xs).state.sVelAiding := by
  induction xs generalizing d with
  | nil => exact ⟨h, hw, by simp⟩
  | cons x xs ih =>
    have hx := hxs x List.mem_cons_self
    have hgain := masked_gains h hw hx hε
    have hk : 0 < d.cfg.velAidingCusumKMps := h.floor_nonneg.trans_lt h.floor_lt
    have hnext : (d.feed x).1.FloorLow :=
      have hfree : FreeNonneg (.fix x) := (by linarith [hx.2.2] : 0 ≤ x.r.magVelFree)
      h.next hfree
    have hcfg : (d.feed x).1.cfg = d.cfg := evaluate_cfg d x
    obtain ⟨hlow, harmed, htotal⟩ := ih hnext (hw.trans (evaluate_warmup_le d x))
      (fun y hy => by rw [hcfg]; exact hxs y (List.mem_cons_of_mem _ hy))
    refine ⟨hlow, harmed, ?_⟩
    rw [feed_fst] at htotal
    rw [run_cons, feed_fst, List.length_cons]
    push_cast
    linarith

theorem masked_fires [FloorSemiring F] {d : DriftDetector F} (h : d.FloorLow)
    (hw : warmupFixes ≤ d.warmup) {ε : F} (hε : 0 < ε) {xs : List (Reading F)} {x : Reading F}
    (hxs : ∀ y ∈ xs ++ [x], Masked (2 * d.cfg.velAidingCusumKMps + ε) y)
    (hlong : ⌈d.cfg.velAidingCusumH / ε⌉₊ ≤ xs.length + 1) :
    ((run feed d xs).evaluate x.r x.hdop x.sats).2 ≠ none := by
  obtain ⟨-, harmed, -⟩ := masked_run h hw hε fun y hy => hxs y (List.mem_append_left _ hy)
  obtain ⟨-, -, htotal⟩ := masked_run h hw hε hxs
  rw [run_snoc, feed_fst, List.length_append, List.length_singleton] at htotal
  have hneed : d.cfg.velAidingCusumH ≤ ((xs.length + 1 : ℕ) : F) * ε :=
    (div_le_iff₀ hε).mp (Nat.ceil_le.mp hlong)
  refine (evaluate_fires_iff harmed (finiteResidual_field x.r)).mpr ⟨.velAiding, ?_⟩
  show (run feed d xs).cfg.velAidingCusumH ≤ _
  rw [run_feed_cfg]
  exact hneed.trans ((le_add_of_nonneg_left h.sum_nonneg).trans htotal)

/-! ## With undefined residuals -/

/-- What an input history gives of `mag_vel_free` is a number, and not negative. -/
def FreeFinite : DriftCall (Ext F) → Prop
  | .fix x => ∃ v, x.r.magVelFree = fin v ∧ 0 ≤ v
  | .reset => True

theorem exactCall_nonneg {F : Type} [Field F] [LinearOrder F]
    {c : DetectConfig F} {call : DriftCall (Ext F)} {call' : DriftCall F}
    (h : FreeFinite call) (hcall : exactCall c call = some call') : FreeNonneg call' := by
  cases call with
  | reset =>
    obtain rfl : DriftCall.reset = call' := Option.some.inj hcall
    trivial
  | fix x =>
    obtain ⟨v, hv, hnonneg⟩ := h
    cases hx : finiteResidual x.r with
    | false =>
      rw [exactCall_undefined c hx] at hcall
      cases hcall
    | true =>
      rw [exactCall_defined c hx] at hcall
      obtain rfl := Option.some.inj hcall
      show 0 ≤ x.r.magVelFree.finitePart
      rw [hv]
      exact hnonneg

/-- **The lane cannot be made deafer than twice its base reference.** After any history of calls
    with a `mag_vel_free` that is a number and not negative, the floor is in `[0, k)`, and once
    warm-up is over, of any run of `⌈h / ε⌉` masked fixes over `2k + ε` or more, the last makes
    `evaluate` return a reason. -/
theorem aiding_not_desensitised [FloorSemiring F] {cfg : DetectConfig F}
    (hk : 0 < cfg.velAidingCusumKMps) (calls : List (DriftCall (Ext F)))
    (hcalls : ∀ call ∈ calls, FreeFinite call) :
    let d := run callStep (new (cfg.map fin)) calls
    (∃ f, d.velAidingNoise = fin f ∧ 0 ≤ f ∧ f < cfg.velAidingCusumKMps) ∧
      (warmupFixes ≤ d.warmup → ∀ ε, 0 < ε → ∀ xs x,
        (∀ y ∈ xs ++ [x], Masked (fin (2 * cfg.velAidingCusumKMps + ε)) y) →
        ⌈cfg.velAidingCusumH / ε⌉₊ ≤ xs.length + 1 →
        ((run feed d xs).evaluate x.r x.hdop x.sats).2 ≠ none) := by
  intro d
  have hd : d = (run callStep (new cfg) (calls.filterMap (exactCall cfg))).map fin :=
    run_exact (new cfg) calls
  have hstart : (new cfg).FloorLow := ⟨le_rfl, hk, le_rfl⟩
  have hinv : (run callStep (new cfg) (calls.filterMap (exactCall cfg))).FloorLow ∧
      (run callStep (new cfg) (calls.filterMap (exactCall cfg))).cfg = cfg := by
    refine Along.invariant (P := fun _ call => FreeNonneg call)
      (I := fun d : DriftDetector F => d.FloorLow ∧ d.cfg = cfg) ?_ ?_ ⟨hstart, rfl⟩
    · rintro e call hc ⟨hlow, hcfg⟩
      exact ⟨hlow.next hc, (callStep_cfg e call).trans hcfg⟩
    · refine along_of_forall fun call' hmem => ?_
      obtain ⟨call, hmem, hcall⟩ := List.mem_filterMap.mp hmem
      exact exactCall_nonneg (hcalls call hmem) hcall
  generalize run callStep (new cfg) (calls.filterMap (exactCall cfg)) = e at hd hinv
  obtain ⟨hlow, hcfg⟩ := hinv
  rw [hd, ← hcfg]
  refine ⟨⟨e.velAidingNoise, rfl, hlow.floor_nonneg, hlow.floor_lt⟩, ?_⟩
  intro hw ε hε xs x hxs hlong
  have hdefined : ∀ y ∈ xs ++ [x], finiteResidual y.r = true := fun y hy => (hxs y hy).1
  have hmasked : ∀ y ∈ xs.map (·.finitePart e.cfg) ++ [x.finitePart e.cfg],
      Masked (2 * e.cfg.velAidingCusumKMps + ε) y := by
    intro y hy
    rw [show xs.map (·.finitePart e.cfg) ++ [x.finitePart e.cfg] =
      (xs ++ [x]).map (·.finitePart e.cfg) by simp] at hy
    obtain ⟨z, hz, rfl⟩ := List.mem_map.mp hy
    obtain ⟨hfin, hcounts, hb⟩ := hxs z hz
    rw [(exact_of_finite hfin).magVelFree] at hb
    exact ⟨finiteResidual_field _, hcounts, hb⟩
  have hfires := masked_fires hlow hw hε hmasked (by simpa using hlong)
  rw [run_feed_exact e fun y hy => hdefined y (List.mem_append_left _ hy)]
  have hx := hdefined x (by simp)
  have hcfg' : (run feed e (xs.map (·.finitePart e.cfg))).cfg = e.cfg := run_feed_cfg e _
  rw [evaluate_exact _ hx, hcfg']
  exact hfires

/-- A fix with Doppler, `n` north of dead reckoning and with a free-inertial residual of `v`. -/
def freeAt (n : Ext ℚ) (v : ℚ) : Reading (Ext ℚ) where
  r :=
    { dpos := ⟨n, 0, 0⟩, dvel := ⟨0, 0, 0⟩, magPos := n, magVel := 0, dvelKnown := true,
      dvelFree := ⟨fin v, 0, 0⟩, magVelFree := fin v, maneuvering := false }
  hdop := none
  sats := none

/-- Warm-up on half a metre a second, and one fix with an undefined position. -/
def trained : List (DriftCall (Ext ℚ)) :=
  List.replicate 20 (.fix (freeAt 0 0.5)) ++ [.fix (freeAt nan 0.5)]

/-- Eight fixes of 2.1 m/s are reported then. -/
theorem aiding_not_desensitised_trained :
    ((run feed (run callStep (new (DetectConfig.default.map fin)) trained)
      (List.replicate 7 (freeAt 0 2.1))).evaluate (freeAt 0 2.1).r none none).2 ≠ none := by
  have hk : (0 : ℚ) < DetectConfig.default.velAidingCusumKMps := by decide +kernel
  have hcalls : ∀ call ∈ trained, FreeFinite call := by
    intro call hcall
    rcases List.mem_append.mp hcall with hcall | hcall
    · rw [List.eq_of_mem_replicate hcall]
      exact ⟨0.5, rfl, by decide +kernel⟩
    · rw [List.mem_singleton.mp hcall]
      exact ⟨0.5, rfl, by decide +kernel⟩
  refine (aiding_not_desensitised hk trained hcalls).2 (by decide +kernel) 1 one_pos
    (List.replicate 7 (freeAt 0 2.1)) (freeAt 0 2.1) ?_ (by decide +kernel)
  intro y hy
  obtain rfl : y = freeAt 0 2.1 := by simpa using hy
  exact ⟨rfl, rfl, by decide +kernel⟩

end DriftDetector

end FlyingSquirrel
