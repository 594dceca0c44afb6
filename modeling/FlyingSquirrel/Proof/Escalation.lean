import FlyingSquirrel.Detect.Drive
import FlyingSquirrel.Fusion.Config
import FlyingSquirrel.Lib.Run
import Mathlib.Tactic.Linarith

/-!
# Bounded escalation

An attacker who decides which fixes come after a dropout decides when the dwell clock is
paused. The two caps bound what that buys. Write `t₀` for the time the episode opened, `s`
for the dwell clock, `p` for the budget used, `tₗ` for the last fix and `D`, `P` for the
dwell and the pause budget. While something fires on every fix,

    s = t₀ + p,    s ≤ tₗ < s + D,    p < P + D + G,

where `G` bounds the gaps: a pause is granted only while `p < P`, and **one pause is never
longer than `D + G`**, because it reaches back to the previous dropout fix, one gap away,
or to the clock itself, which is less than `D` behind. So a fix `P + 2D + G` after `t₀` is
at least `D` past the clock.
-/

set_option autoImplicit false

namespace FlyingSquirrel
namespace StateMachine

open Lib

variable {F : Type} [Field F] [LinearOrder F]

/-- An open episode, in which something has fired on every fix so far. -/
structure Escalating (d : DetectConfig F) (t₀ G : F) (last : F) (m : StateMachine F) : Prop where
  cfg : m.cfg = d
  state : m.state = .suspicious
  clock : m.suspiciousSince = some (t₀ + m.pausedCumulativeS)
  behind : t₀ + m.pausedCumulativeS ≤ last
  dwelling : last - (t₀ + m.pausedCumulativeS) < d.suspiciousToSpoofedDwellS
  budget : m.pausedCumulativeS < d.maxDwellPauseS + d.suspiciousToSpoofedDwellS + G
  dropout : m.lastDropoutT = none ∨ m.lastDropoutT = some last

theorem accountDropout_paused {m : StateMachine F} {s : F} (hs : m.state = .suspicious)
    (hc : m.suspiciousSince = some s) (b : Bool) (t : F) : ∃ pause,
    (m.accountDropout b t).suspiciousSince = some (s + pause) ∧
    (m.accountDropout b t).pausedCumulativeS = m.pausedCumulativeS + pause ∧
    (pause = 0 ∨ (m.pausedCumulativeS < m.cfg.maxDwellPauseS ∧
      pause = max (t - m.lastDropoutT.getD s) 0)) := by
  rcases accountDropout_clock hs hc b t with ⟨hsince, hpaused⟩ | ⟨-, hbudget, hsince, hpaused⟩
  · exact ⟨0, by rw [hsince, add_zero], by rw [hpaused, add_zero], .inl rfl⟩
  · exact ⟨_, hsince, hpaused, .inr ⟨hbudget, rfl⟩⟩

variable [IsStrictOrderedRing F]

theorem Escalating.assessed {d : DetectConfig F} {t₀ G last : F} {m : StateMachine F}
    (h : Escalating d t₀ G last m) (i : FixIn F) (hmono : last ≤ i.t)
    (hgap : i.t - last ≤ G) :
    let a := ((m.noted i).assess i.r i.t i.hdop i.sats).1
    a.cfg = d ∧ a.state = .suspicious ∧
    a.suspiciousSince = some (t₀ + a.pausedCumulativeS) ∧
    t₀ + a.pausedCumulativeS ≤ i.t ∧
    a.pausedCumulativeS < d.maxDwellPauseS + d.suspiciousToSpoofedDwellS + G ∧
    (a.lastDropoutT = none ∨ a.lastDropoutT = some i.t) := by
  obtain ⟨hnc, hns, hnsince, -, hnlast, hnpaused⟩ := noted_keeps m i
  obtain ⟨hstate, hcfg, -⟩ := assess_keeps (m.noted i) i.r i.t i.hdop i.sats
  obtain ⟨hsince, hlast, hpaused⟩ := assess_clock (m.noted i) i.r i.t i.hdop i.sats
  obtain ⟨pause, hc, hp, hcases⟩ := accountDropout_paused (m := (m.noted i).drainFlags)
    (s := t₀ + m.pausedCumulativeS) (hns.trans h.state) (hnsince.trans h.clock)
    (m.noted i).dropoutRecovery i.t
  change _ = (m.noted i).pausedCumulativeS + pause at hp
  change pause = 0 ∨ ((m.noted i).pausedCumulativeS < (m.noted i).cfg.maxDwellPauseS ∧
    pause = max (i.t - (m.noted i).lastDropoutT.getD (t₀ + m.pausedCumulativeS)) 0) at hcases
  rw [hnpaused] at hp hcases
  rw [hnc, h.cfg, hnlast] at hcases
  -- one pause reaches back to the previous dropout fix, or to the clock
  have hpause : t₀ + m.pausedCumulativeS + pause ≤ i.t ∧
      m.pausedCumulativeS + pause <
        d.maxDwellPauseS + d.suspiciousToSpoofedDwellS + G := by
    have hb := h.behind
    have hd := h.dwelling
    have hu := h.budget
    rcases hcases with rfl | ⟨hbudget, rfl⟩
    · exact ⟨by linarith, by linarith⟩
    · rcases h.dropout with hl | hl
      · rw [hl, Option.getD_none, max_eq_left (by linarith)]
        exact ⟨by linarith, by linarith⟩
      · rw [hl, Option.getD_some, max_eq_left (by linarith)]
        exact ⟨by linarith, by linarith⟩
  dsimp only
  rw [hstate, hcfg, hsince, hlast, hpaused, hc, hp]
  exact ⟨hnc.trans h.cfg, hns.trans h.state, by rw [add_assoc],
    by linarith [hpause.1], hpause.2, accountDropout_lastDropoutT _ _ _⟩

/-- **One firing fix**: the machine latches, or the episode is still escalating. It latches
    once the fix is late enough. -/
theorem Escalating.step {d : DetectConfig F} {t₀ G last : F} {m : StateMachine F}
    (h : Escalating d t₀ G last m) (i : FixIn F) (hmono : last ≤ i.t)
    (hgap : i.t - last ≤ G) (hfire : m.firesOn i = true) :
    ((m.fixStep i).1.state = .spoofed ∨ Escalating d t₀ G i.t (m.fixStep i).1) ∧
    (i.t - t₀ ≥ d.maxDwellPauseS + 2 * d.suspiciousToSpoofedDwellS + G →
      (m.fixStep i).1.state = .spoofed) := by
  obtain ⟨hcfg, hstate, hsince, hbehind, hbudget, hdrop⟩ := h.assessed i hmono hgap
  have hs : (m.noted i).state = .suspicious := by
    rw [← (assess_keeps (m.noted i) i.r i.t i.hdop i.sats).1]; exact hstate
  have hc : (m.noted i).cfg = d := by
    rw [← (assess_keeps (m.noted i) i.r i.t i.hdop i.sats).2.1]; exact hcfg
  rcases evaluate_firing hs hfire with ⟨-, hspoofed⟩ | ⟨hwait, heq⟩
  · exact ⟨.inl hspoofed, fun _ => hspoofed⟩
  · rw [hsince, Option.getD_some, hc, ge_iff_le, not_le] at hwait
    refine ⟨.inr ?_, fun hlate => absurd hlate (by linarith)⟩
    unfold fixStep
    rw [heq]
    exact ⟨hcfg, hstate, hsince, hbehind, hwait, hbudget, hdrop⟩

theorem Escalating.start {d : DetectConfig F} {G : F} {m : StateMachine F} {i : FixIn F}
    (hdwell : 0 < d.suspiciousToSpoofedDwellS) (hpause : 0 < d.maxDwellPauseS) (hG : 0 ≤ G)
    (hcfg : m.cfg = d) (hn : m.state = .normal)
    (henter : (m.fixStep i).1.state = .suspicious) :
    Escalating d i.t G i.t (m.fixStep i).1 := by
  obtain ⟨hnc, hns, -⟩ := noted_keeps m i
  have heq : (m.fixStep i).1 = _ := evaluate_opens (hns.trans hn) henter
  rw [heq]
  refine ⟨?_, rfl, by simp, by simp, by simpa using hdwell, ?_, ?_⟩
  · exact (assess_keeps ..).2.1.trans (hnc.trans hcfg)
  · show (0 : F) < _
    linarith
  · show ((m.noted i).assess i.r i.t i.hdop i.sats).1.lastDropoutT = none ∨
      ((m.noted i).assess i.r i.t i.hdop i.sats).1.lastDropoutT = some i.t
    rw [(assess_clock ..).2.1]
    exact accountDropout_lastDropoutT ..

/-! ## Runs -/

/-- Fix times that do not decrease, with gaps of at most `G`, after a fix at `last`. -/
def Paced (G : F) : F → List (FixIn F) → Prop
  | _, [] => True
  | last, i :: is => last ≤ i.t ∧ i.t - last ≤ G ∧ Paced G i.t is

instance (G : F) : ∀ last is, Decidable (Paced G last is)
  | _, [] => .isTrue trivial
  | last, i :: is =>
    have := instDecidablePaced G i.t is
    inferInstanceAs (Decidable (last ≤ i.t ∧ i.t - last ≤ G ∧ Paced G i.t is))

/-- Something fires on the fix, unless the machine has latched already. -/
def FiresUntilSpoofed (m : StateMachine F) (i : FixIn F) : Prop :=
  m.state ≠ .spoofed → m.firesOn i = true

instance (m : StateMachine F) (i : FixIn F) : Decidable (m.FiresUntilSpoofed i) := by
  unfold FiresUntilSpoofed; infer_instance

/-- From an escalating episode, a run of firing fixes that ends late enough ends in
    Spoofed. -/
theorem Escalating.run {d : DetectConfig F} {t₀ G last : F} {m : StateMachine F}
    {is : List (FixIn F)} {i : FixIn F}
    (h : m.state = .spoofed ∨ Escalating d t₀ G last m) (hp : Paced G last (is ++ [i]))
    (hf : Along fixStep FiresUntilSpoofed m (is ++ [i]))
    (hlate : i.t - t₀ ≥ d.maxDwellPauseS + 2 * d.suspiciousToSpoofedDwellS + G) :
    (run fixStep m (is ++ [i])).state = .spoofed := by
  induction is generalizing m last with
  | nil =>
    rcases h with hs | he
    · exact fixStep_spoofed hs i
    · exact (he.step i hp.1 hp.2.1 (hf.1 (by rw [he.state]; simp))).2 hlate
  | cons j js ih =>
    rw [List.cons_append, run_cons]
    refine ih ?_ hp.2.2 hf.2
    rcases h with hs | he
    · exact .inl (fixStep_spoofed hs j)
    · exact (he.step j hp.1 hp.2.1 (hf.1 (by rw [he.state]; simp))).1

/-- **Bounded escalation.** Under an accepted configuration, let a fix at `t₀` take a
    machine from Normal to Suspicious, and let something fire on every later fix, whatever
    the dropout flags say. If the fix times do not decrease and no gap exceeds `G`, the
    machine is in Spoofed after any fix at `t₀ + P + 2D + G` or later. -/
theorem spoofed_by_deadline {c : FusionConfig F} (hc : c.validate = .ok ())
    {m : StateMachine F} (hcfg : m.cfg = c.detect) (hn : m.state = .normal)
    {opening : FixIn F} (henter : (m.fixStep opening).1.state = .suspicious) {G : F}
    {is : List (FixIn F)} {i : FixIn F} (hpaced : Paced G opening.t (is ++ [i]))
    (hfire : Along fixStep FiresUntilSpoofed (m.fixStep opening).1 (is ++ [i]))
    (hlate : i.t - opening.t ≥ c.detect.maxDwellPauseS +
      2 * c.detect.suspiciousToSpoofedDwellS + G) :
    (run fixStep m (opening :: (is ++ [i]))).state = .spoofed := by
  have hG : 0 ≤ G := by
    cases is with
    | nil => exact le_trans (sub_nonneg.mpr hpaced.1) hpaced.2.1
    | cons j js => exact le_trans (sub_nonneg.mpr hpaced.1) hpaced.2.1
  have hstart := Escalating.start (FusionConfig.dwell_pos hc).1
    (FusionConfig.maxDwellPause_pos hc) hG hcfg hn henter
  exact Escalating.run (.inr hstart) hpaced hfire hlate

/-- The default configuration with a dwell and a pause budget of half a second. -/
def halfSecondCfg : FusionConfig ℚ :=
  let d : FusionConfig ℚ := .default
  { d with
    detect := { d.detect with suspiciousToSpoofedDwellS := 0.5, maxDwellPauseS := 0.5 } }

/-- A fix with no residual, after a dropout, on which an outside detector fires. -/
def pausedAnomaly (t : ℚ) : FixIn ℚ where
  posDetectorsEnabled := true
  dropoutRecovery := true
  externalAnomaly := true
  r := ⟨.default, .default, 0, 0, true, .default, 0, false⟩
  t := t
  hdop := none
  sats := none

/-- With every fix flagged as a dropout and gaps of a second, the deadline is two and a
    half seconds after the episode opened. -/
theorem spoofed_by_deadline_every_dropout :
    (run fixStep (StateMachine.new halfSecondCfg.detect)
      (pausedAnomaly 1 :: ([pausedAnomaly 2, pausedAnomaly 3] ++
        [pausedAnomaly 3.5]))).state = .spoofed :=
  spoofed_by_deadline (c := halfSecondCfg) (G := 1) (runChecks_ok.mpr (by decide +kernel))
    rfl rfl (by decide +kernel) (by decide +kernel) (by decide +kernel) (by decide +kernel)

end StateMachine
end FlyingSquirrel
