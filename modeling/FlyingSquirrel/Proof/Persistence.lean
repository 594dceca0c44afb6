import FlyingSquirrel.Detect.Feed
import Mathlib.Data.List.DropRight

/-!
# What the persistence counter counts

A velocity mismatch is reported once `jump_persist_fixes` of them are counted. A fix below the
threshold clears the counter, and **a fix without Doppler takes one off it**, which clears a
counter of one and no other. A counter that is over what the requirement needs, or a
requirement over two, outlives the fix in between.

`Bridged` is what then goes wrong, and nothing else does.
-/

set_option autoImplicit false

namespace FlyingSquirrel

open Lib

namespace JumpDetector

section Model

variable {α : Type} [Mul α] [OfScientific α] [LT α] [DecidableLT α]

/-- The fix carried Doppler, and a mismatch above the threshold in force on it. -/
def Mismatch (cfg : DetectConfig α) (x : Reading α) : Prop :=
  x.r.dvelKnown = true ∧ x.r.magVel > ((new cfg).scale x.hdop x.sats).2

instance (cfg : DetectConfig α) (x : Reading α) : Decidable (Mismatch cfg x) :=
  inferInstanceAs (Decidable (_ ∧ _))

/-- The fix and the `jump_persist_fixes - 1` before it all mismatch. -/
def Consecutive (cfg : DetectConfig α) (pre : List (Reading α)) (x : Reading α) : Prop :=
  Mismatch cfg x ∧ (pre.rtake (cfg.jumpPersistFixes - 1)).length = cfg.jumpPersistFixes - 1 ∧
    ∀ y ∈ pre.rtake (cfg.jumpPersistFixes - 1), Mismatch cfg y

instance (cfg : DetectConfig α) (pre : List (Reading α)) (x : Reading α) :
    Decidable (Consecutive cfg pre x) :=
  inferInstanceAs (Decidable (_ ∧ _ ∧ _))

/-- A mismatch meets a counter that it brings to the requirement, and one of the
    `jump_persist_fixes - 1` fixes before it had no Doppler. -/
def Bridged (cfg : DetectConfig α) (pre : List (Reading α)) (x : Reading α) : Prop :=
  Mismatch cfg x ∧
    succU8 (run feed (new cfg) pre).consecutiveVmismatch ≥ cfg.jumpPersistFixes ∧
    ∃ y ∈ pre.rtake (cfg.jumpPersistFixes - 1), y.r.dvelKnown = false

instance (cfg : DetectConfig α) (pre : List (Reading α)) (x : Reading α) :
    Decidable (Bridged cfg pre x) :=
  inferInstanceAs (Decidable (_ ∧ _ ∧ _))

/-! ## One fix -/

theorem evaluate_count (d : JumpDetector α) (x : Reading α) :
    (d.evaluate x.r x.hdop x.sats).1.consecutiveVmismatch =
      if x.r.dvelKnown then if Mismatch d.cfg x then succU8 d.consecutiveVmismatch else 0
      else d.consecutiveVmismatch - 1 := by
  rw [evaluate_fst]
  dsimp only
  unfold countVmismatch
  by_cases hk : x.r.dvelKnown = true
  · rw [if_pos hk, if_pos hk]
    exact if_congr ⟨fun hv => ⟨hk, hv⟩, And.right⟩ rfl rfl
  · rw [if_neg hk, if_neg hk]

theorem evaluate_mismatch_iff (d : JumpDetector α) (x : Reading α) :
    (d.evaluate x.r x.hdop x.sats).2 = some .velocityMismatch ↔
      Mismatch d.cfg x ∧ succU8 d.consecutiveVmismatch ≥ d.cfg.jumpPersistFixes := by
  have hm : Mismatch d.cfg x ↔
      x.r.dvelKnown = true ∧ x.r.magVel > (d.scale x.hdop x.sats).2 := Iff.rfl
  have hcount (h : Mismatch d.cfg x) : d.countVmismatch x.r (d.scale x.hdop x.sats).2 =
      succU8 d.consecutiveVmismatch := by
    obtain ⟨hk, hv⟩ := hm.mp h
    rw [countVmismatch, if_pos hk, if_pos hv]
  rw [evaluate_snd]
  constructor
  · intro h
    split at h
    · rename_i hf
      have hx : Mismatch d.cfg x := hm.mpr ⟨hf.1, hf.2.1⟩
      exact ⟨hx, hcount hx ▸ hf.2.2⟩
    · split at h <;> simp at h
  · rintro ⟨hx, hc⟩
    obtain ⟨hk, hv⟩ := hm.mp hx
    rw [if_pos ⟨hk, hv, (hcount hx).symm ▸ hc⟩]

/-! ## The counter over a run -/

/-- What the counter shows has happened: where the last `n` fixes all carried Doppler, a counter
    of `n` means `n` mismatches. -/
theorem counter_evidence (cfg : DetectConfig α) (pre : List (Reading α)) (n : Nat)
    (hn : n ≤ (run feed (new cfg) pre).consecutiveVmismatch)
    (hknown : ∀ y ∈ pre.rtake n, y.r.dvelKnown = true) :
    (pre.rtake n).length = n ∧ ∀ y ∈ pre.rtake n, Mismatch cfg y := by
  induction pre using List.reverseRecOn generalizing n with
  | nil =>
    obtain rfl : n = 0 := Nat.le_zero.mp hn
    simp
  | append_singleton pre x ih =>
    cases n with
    | zero => simp
    | succ n =>
      rw [List.rtake_concat_succ] at hknown ⊢
      rw [run_snoc, feed_fst, evaluate_count, run_feed_cfg, new_cfg] at hn
      rw [if_pos (hknown x (by simp))] at hn
      by_cases hx : Mismatch cfg x
      · rw [if_pos hx] at hn
        have hbefore : n ≤ (run feed (new cfg) pre).consecutiveVmismatch := by
          unfold succU8 at hn
          omega
        obtain ⟨hlen, hall⟩ := ih n hbefore fun y hy => hknown y (List.mem_append_left _ hy)
        refine ⟨by simp [hlen], fun y hy => ?_⟩
        rcases List.mem_append.mp hy with hy | hy
        · exact hall y hy
        · rw [List.mem_singleton.mp hy]
          exact hx
      · rw [if_neg hx] at hn
        exact absurd hn (Nat.not_succ_le_zero n)

/-- **When a reported mismatch has persisted.** After any fixes, a fix that is reported as a
    velocity mismatch ends a run of `jump_persist_fixes` mismatches if and only if the counter
    was not bridged to it. -/
theorem velocityMismatch_consecutive_iff (cfg : DetectConfig α) (pre : List (Reading α))
    (x : Reading α) :
    (((run feed (new cfg) pre).evaluate x.r x.hdop x.sats).2 = some .velocityMismatch →
        Consecutive cfg pre x) ↔
      ¬ Bridged cfg pre x := by
  rw [evaluate_mismatch_iff, run_feed_cfg, new_cfg]
  constructor
  · rintro hall ⟨hx, hcount, y, hy, hunknown⟩
    have hknown : y.r.dvelKnown = true := ((hall ⟨hx, hcount⟩).2.2 y hy).1
    rw [hunknown] at hknown
    exact absurd hknown Bool.false_ne_true
  · rintro hno ⟨hx, hcount⟩
    refine ⟨hx, counter_evidence cfg pre _ ?_ ?_⟩
    · unfold succU8 at hcount
      omega
    · intro y hy
      by_contra hunknown
      exact hno ⟨hx, hcount, y, hy, by simpa using hunknown⟩

end Model

/-! ## The shortest bridge -/

/-- A fix with a velocity residual of `v` north, or without Doppler. -/
def doppler (v : Option ℚ) : Reading ℚ where
  r :=
    { dpos := ⟨0, 0, 0⟩, dvel := ⟨v.getD 0, 0, 0⟩, magPos := 0, magVel := v.getD 0,
      dvelKnown := v.isSome, dvelFree := ⟨v.getD 0, 0, 0⟩, magVelFree := v.getD 0,
      maneuvering := false }
  hdop := none
  sats := none

/-- Two mismatches bring the counter to two, the fix without Doppler to one, and the next
    mismatch is reported, alone. -/
theorem mismatch_bridged :
    ¬ ∀ (pre : List (Reading ℚ)) (x : Reading ℚ),
      ((run feed (new DetectConfig.default) pre).evaluate x.r x.hdop x.sats).2 =
          some .velocityMismatch →
        Consecutive DetectConfig.default pre x := by
  intro h
  have hfires : ((run feed (new DetectConfig.default)
      [doppler (some 20), doppler (some 20), doppler none]).evaluate (doppler (some 20)).r
      none none).2 = some .velocityMismatch := by decide +kernel
  have hno : ¬ Consecutive DetectConfig.default
      [doppler (some 20), doppler (some 20), doppler none] (doppler (some 20)) := by
    decide +kernel
  exact hno (h _ _ hfires)

end JumpDetector

end FlyingSquirrel
