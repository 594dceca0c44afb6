import FlyingSquirrel.Detect.Drift
import FlyingSquirrel.Detect.Jump
import FlyingSquirrel.Lib.Run

/-!
# Feeding the two residual detectors

A detector on its own takes one `Reading` after another: a residual and the two quality fields
its fix came with. Nobody resets a jump detector in the middle of what is said about it here.
The drift detector's sums are cleared on a re-anchor, and its calls are readings and resets.
-/

set_option autoImplicit false

namespace FlyingSquirrel

open Lib

/-- One fix as a detector is given it. -/
structure Reading (α : Type) where
  r : Residual α
  hdop : Option α
  sats : Option Nat

inductive DriftCall (α : Type)
  | fix (x : Reading α)
  | reset

namespace JumpDetector

variable {α : Type} [Mul α] [OfScientific α] [LT α] [DecidableLT α]

def feed (d : JumpDetector α) (x : Reading α) : JumpDetector α × List JumpReason :=
  let (d', reason) := d.evaluate x.r x.hdop x.sats
  (d', reason.toList)

@[simp] theorem feed_fst (d : JumpDetector α) (x : Reading α) :
    (d.feed x).1 = (d.evaluate x.r x.hdop x.sats).1 := rfl

theorem evaluate_fst (d : JumpDetector α) (x : Reading α) :
    (d.evaluate x.r x.hdop x.sats).1 =
      { d with consecutiveVmismatch := d.countVmismatch x.r (d.scale x.hdop x.sats).2 } := by
  unfold evaluate
  dsimp only
  split
  · rfl
  · split <;> rfl

theorem evaluate_snd (d : JumpDetector α) (x : Reading α) :
    (d.evaluate x.r x.hdop x.sats).2 =
      if x.r.dvelKnown = true ∧ x.r.magVel > (d.scale x.hdop x.sats).2 ∧
          d.countVmismatch x.r (d.scale x.hdop x.sats).2 ≥ d.cfg.jumpPersistFixes then
        some .velocityMismatch
      else if x.r.magPos > (d.scale x.hdop x.sats).1 then some .hardResidual
      else none := by
  unfold evaluate
  dsimp only
  split
  · rfl
  · split <;> rfl

theorem run_feed_cfg (d : JumpDetector α) (xs : List (Reading α)) :
    (run feed d xs).cfg = d.cfg :=
  run_invariant (I := fun d' => d'.cfg = d.cfg)
    (fun d' x h => (evaluate_cfg d' x.r x.hdop x.sats).trans h) rfl xs

end JumpDetector

namespace DriftDetector

variable {α : Type} [Zero α] [One α] [Neg α] [Add α] [Sub α] [Mul α] [Div α] [NatCast α]
  [OfScientific α] [LT α] [LE α] [DecidableLT α] [DecidableLE α] [BEq α] [Max α]
  [FiniteTest α]

def feed (d : DriftDetector α) (x : Reading α) : DriftDetector α × List DriftReason :=
  let (d', reason) := d.evaluate x.r x.hdop x.sats
  (d', reason.toList)

def callStep (d : DriftDetector α) : DriftCall α → DriftDetector α × List DriftReason
  | .fix x => d.feed x
  | .reset => (d.reset, [])

@[simp] theorem feed_fst (d : DriftDetector α) (x : Reading α) :
    (d.feed x).1 = (d.evaluate x.r x.hdop x.sats).1 := rfl

theorem evaluate_undefined (d : DriftDetector α) {x : Reading α}
    (hx : finiteResidual x.r = false) : d.evaluate x.r x.hdop x.sats = (d, none) := by
  unfold evaluate
  exact if_pos hx

theorem evaluate_warming {d : DriftDetector α} {x : Reading α} (hw : d.warmup < warmupFixes)
    (hx : finiteResidual x.r = true) :
    d.evaluate x.r x.hdop x.sats = (d.warmUp x.r, none) := by
  unfold evaluate
  dsimp only
  rw [if_neg (by simp [hx]), if_pos hw]

/-- Past warm-up, a reading with defined components is learnt from and accumulated. -/
theorem evaluate_armed {d : DriftDetector α} {x : Reading α} (hw : warmupFixes ≤ d.warmup)
    (hx : finiteResidual x.r = true) :
    d.evaluate x.r x.hdop x.sats = ((d.learnFloors x.r).accumulate x.r,
      ((d.learnFloors x.r).accumulate x.r).fired (d.widened x.hdop x.sats d.cfg.cusumHM)
        (d.widened x.hdop x.sats d.cfg.magCusumHM)) := by
  unfold evaluate
  dsimp only
  rw [if_neg (by simp [hx]), if_neg (not_lt.mpr hw)]

theorem evaluate_cfg (d : DriftDetector α) (x : Reading α) :
    (d.evaluate x.r x.hdop x.sats).1.cfg = d.cfg := by
  rcases d.evaluate_cases x.r x.hdop x.sats with h | ⟨-, h⟩ | ⟨-, -, h, -⟩
  · rw [h]
  · rw [h]
    rfl
  · rw [h]
    rfl

theorem run_feed_cfg (d : DriftDetector α) (xs : List (Reading α)) :
    (run feed d xs).cfg = d.cfg :=
  run_invariant (I := fun d' => d'.cfg = d.cfg)
    (fun d' x h => (evaluate_cfg d' x).trans h) rfl xs

theorem callStep_cfg (d : DriftDetector α) (c : DriftCall α) : (d.callStep c).1.cfg = d.cfg := by
  cases c with
  | fix x => exact evaluate_cfg d x
  | reset => rfl

end DriftDetector

end FlyingSquirrel
