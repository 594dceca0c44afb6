import FlyingSquirrel.Detect.Feed
import FlyingSquirrel.Lib.Cusum

/-!
# The lanes of the drift detector

The six sums of the detector differ in what they add up and in what they hold it against, and
in nothing else: **each is the one-sided sum of `Lib.Cusum`**, over its input less the reference
in force on the fix, on the fixes that count for it. A `Lane` names one, and what is said about
all six is said once.

The detector reports the first lane of `Lane.all` that has reached its threshold.
-/

set_option autoImplicit false

namespace FlyingSquirrel

open Lib

inductive Lane
  | posN
  | negN
  | posE
  | negE
  | mag
  | velAiding
deriving DecidableEq, Repr

namespace Lane

/-- The lanes in the order they are looked at. -/
def all : List Lane := [posN, negN, posE, negE, mag, velAiding]

def reason : Lane → DriftReason
  | posN => .northPositive
  | negN => .northNegative
  | posE => .eastPositive
  | negE => .eastNegative
  | mag => .magnitude
  | velAiding => .velocityAiding

theorem map_find?_cons (p : Lane → Bool) (l : Lane) (ls : List Lane) :
    ((l :: ls).find? p).map reason =
      if p l = true then some l.reason else (ls.find? p).map reason := by
  rw [List.find?_cons]
  cases p l <;> rfl

theorem mem_all (l : Lane) : l ∈ all := by cases l <;> simp [all]

variable {α : Type}

def sum (s : CusumState α) : Lane → α
  | posN => s.sPosN
  | negN => s.sNegN
  | posE => s.sPosE
  | negE => s.sNegE
  | mag => s.sMag
  | velAiding => s.sVelAiding

/-- What the lane adds up. -/
def input [Neg α] (r : Residual α) : Lane → α
  | posN => r.dpos.n
  | negN => -r.dpos.n
  | posE => r.dpos.e
  | negE => -r.dpos.e
  | mag => r.magPos
  | velAiding => r.magVelFree

/-- Whether the fix counts for the lane. -/
def counts (r : Residual α) : Lane → Bool
  | velAiding => r.dvelKnown && !r.maneuvering
  | _ => true

/-- The four lanes over the horizontal axes. -/
def isAxis : Lane → Bool
  | mag | velAiding => false
  | _ => true

/-- The lane over the same axis in the other direction. -/
def opposite : Lane → Lane
  | posN => negN
  | negN => posN
  | posE => negE
  | negE => posE
  | l => l

@[simp] theorem sum_default [Zero α] (l : Lane) :
    l.sum (CusumState.default : CusumState α) = 0 := by
  cases l <;> rfl

end Lane

namespace DriftDetector

section Model

variable {α : Type} [Zero α] [One α] [Neg α] [Add α] [Sub α] [Mul α] [Div α] [NatCast α]
  [OfScientific α] [LT α] [LE α] [DecidableLT α] [DecidableLE α] [BEq α] [Max α]
  [FiniteTest α]

def laneFloor (d : DriftDetector α) : Lane → α
  | .posN | .negN => d.axisNoiseN
  | .posE | .negE => d.axisNoiseE
  | .mag => d.magNoiseEwma
  | .velAiding => d.velAidingNoise

/-- The reference in force on a fix, once the floors have learnt from it. -/
def laneReference (d : DriftDetector α) (r : Residual α) : Lane → α
  | .posN | .negN => max d.cfg.cusumKM ((d.learnFloors r).axisNoiseN * axisNoiseFactor)
  | .posE | .negE => max d.cfg.cusumKM ((d.learnFloors r).axisNoiseE * axisNoiseFactor)
  | .mag => max d.cfg.magCusumKM ((d.learnFloors r).magNoiseEwma * magNoiseFactor)
  | .velAiding =>
    max d.cfg.velAidingCusumKMps ((d.learnFloors r).velAidingNoise * velAidingNoiseFactor)

/-- The threshold in force on a fix. -/
def laneThreshold (d : DriftDetector α) (hdop : Option α) (sats : Option Nat) : Lane → α
  | .posN | .negN | .posE | .negE => d.widened hdop sats d.cfg.cusumHM
  | .mag => d.widened hdop sats d.cfg.magCusumHM
  | .velAiding => d.cfg.velAidingCusumH

/-- The first lane, in the order they are looked at, that has reached its threshold. -/
def firstLane (d : DriftDetector α) (threshold : Lane → α) : Option Lane :=
  Lane.all.find? fun l => decide (threshold l ≤ l.sum d.state)

theorem fired_eq_firstLane {α : Type} [Mul α] [OfScientific α] [LT α] [LE α] [DecidableLT α]
    [DecidableLE α] (d : DriftDetector α) (hdop : Option α) (sats : Option Nat) :
    d.fired (d.widened hdop sats d.cfg.cusumHM) (d.widened hdop sats d.cfg.magCusumHM) =
      (d.firstLane (d.laneThreshold hdop sats)).map Lane.reason := by
  unfold firstLane Lane.all
  simp only [Lane.map_find?_cons, decide_eq_true_eq]
  rfl

theorem firstLane_isSome {α : Type} [LE α] [DecidableLE α]
    {d : DriftDetector α} {threshold : Lane → α} :
    (d.firstLane threshold).isSome = true ↔ ∃ l, threshold l ≤ l.sum d.state := by
  unfold firstLane
  rw [List.find?_isSome]
  simp [Lane.mem_all]

/-- **What an armed fix with defined components reports.** -/
theorem evaluate_reason {d : DriftDetector α} {x : Reading α} (hw : warmupFixes ≤ d.warmup)
    (hx : finiteResidual x.r = true) :
    (d.evaluate x.r x.hdop x.sats).2 =
      ((d.evaluate x.r x.hdop x.sats).1.firstLane (d.laneThreshold x.hdop x.sats)).map
        Lane.reason := by
  rw [evaluate_armed hw hx]
  exact fired_eq_firstLane ((d.learnFloors x.r).accumulate x.r) x.hdop x.sats

/-- It reports something when a lane has reached its threshold. -/
theorem evaluate_fires_iff {d : DriftDetector α} {x : Reading α} (hw : warmupFixes ≤ d.warmup)
    (hx : finiteResidual x.r = true) : (d.evaluate x.r x.hdop x.sats).2 ≠ none ↔
      ∃ l, d.laneThreshold x.hdop x.sats l ≤
        l.sum (d.evaluate x.r x.hdop x.sats).1.state := by
  rw [evaluate_reason hw hx, ← Option.isSome_iff_ne_none, Option.isSome_map]
  exact firstLane_isSome

theorem evaluate_warmup_le (d : DriftDetector α) (x : Reading α) :
    d.warmup ≤ (d.evaluate x.r x.hdop x.sats).1.warmup := by
  rcases d.evaluate_cases x.r x.hdop x.sats with h | ⟨-, h⟩ | ⟨-, -, h, -⟩
  · rw [h]
  · rw [h]
    exact Nat.le_succ _
  · rw [h]
    exact le_rfl

end Model

/-! ## In exact arithmetic -/

section Exact

variable {F : Type} [Field F] [LinearOrder F]

@[simp] theorem finiteResidual_field {F : Type} [Field F]
    (r : Residual F) : finiteResidual r = true := by
  simp [finiteResidual]

/-- **An armed fix takes one step of every sum it counts for.** -/
theorem evaluate_sum {d : DriftDetector F} (hw : warmupFixes ≤ d.warmup) (x : Reading F)
    (l : Lane) :
    l.sum (d.evaluate x.r x.hdop x.sats).1.state =
      if l.counts x.r then cusum (l.sum d.state) (l.input x.r - d.laneReference x.r l)
      else l.sum d.state := by
  have hneg (s v e : F) : s - v - e = s + (-v - e) := by ring
  rw [evaluate_armed hw (finiteResidual_field x.r)]
  cases l with
  | posN => exact congrArg (max · 0) (add_sub_assoc ..)
  | negN => exact congrArg (max · 0) (hneg ..)
  | posE => exact congrArg (max · 0) (add_sub_assoc ..)
  | negE => exact congrArg (max · 0) (hneg ..)
  | mag => exact congrArg (max · 0) (add_sub_assoc ..)
  | velAiding =>
    have hcounts : Lane.velAiding.counts x.r = true ↔
        x.r.dvelKnown = true ∧ x.r.maneuvering = false := by
      simp [Lane.counts]
    rw [if_congr hcounts rfl rfl]
    by_cases h : x.r.dvelKnown = true ∧ x.r.maneuvering = false
    · rw [if_pos h]
      exact (if_pos h).trans (congrArg (max · 0) (add_sub_assoc ..))
    · rw [if_neg h]
      exact if_neg h

theorem evaluate_laneFloor {d : DriftDetector F} (hw : warmupFixes ≤ d.warmup) (x : Reading F)
    (l : Lane) :
    (d.evaluate x.r x.hdop x.sats).1.laneFloor l = (d.learnFloors x.r).laneFloor l := by
  rw [evaluate_armed hw (finiteResidual_field x.r)]
  cases l <;> rfl

/-! ### A lane on its own

Fed from one side of its axis, a lane is the `Adaptive` one of the library, and so is the
magnitude's. -/

def adaptive (d : DriftDetector F) (l : Lane) : Adaptive F := ⟨l.sum d.state, d.laneFloor l⟩

variable [IsStrictOrderedRing F]

/-- With nothing on the other side, the axis floor learns from the lane's input while its sum is
    zero. -/
theorem learnFloors_axis {d : DriftDetector F} {l : Lane} (hl : l.isAxis = true)
    (hopp : l.opposite.sum d.state = 0) {r : Residual F} (hv : 0 ≤ l.input r) :
    (d.learnFloors r).laneFloor l =
      if l.sum d.state = 0 then ewma axisNoiseAlpha (d.laneFloor l) (l.input r)
      else d.laneFloor l := by
  have hboth (s s' : F) (h : s' = 0) : (s == 0 && s' == 0) = true ↔ s = 0 := by simp [h]
  have hboth' (s s' : F) (h : s = 0) : (s == 0 && s' == 0) = true ↔ s' = 0 := by simp [h]
  cases l with
  | posN =>
    rw [← fabs_of_nonneg hv]
    exact if_congr (hboth _ _ hopp) rfl rfl
  | negN =>
    rw [show Lane.negN.input r = fabs r.dpos.n from (fabs_of_neg_nonneg hv).symm]
    exact if_congr (hboth' _ _ hopp) rfl rfl
  | posE =>
    rw [← fabs_of_nonneg hv]
    exact if_congr (hboth _ _ hopp) rfl rfl
  | negE =>
    rw [show Lane.negE.input r = fabs r.dpos.e from (fabs_of_neg_nonneg hv).symm]
    exact if_congr (hboth' _ _ hopp) rfl rfl
  | mag => cases hl
  | velAiding => cases hl

theorem laneReference_axis {F : Type} [Field F] [LinearOrder F]
    (d : DriftDetector F) (r : Residual F) {l : Lane}
    (hl : l.isAxis = true) : d.laneReference r l =
      max d.cfg.cusumKM ((d.learnFloors r).laneFloor l * axisNoiseFactor) := by
  cases l with
  | mag => cases hl
  | velAiding => cases hl
  | posN | negN | posE | negE => rfl

/-- **An axis lane fed from its own side.** -/
theorem axis_step {d : DriftDetector F} (hw : warmupFixes ≤ d.warmup) {l : Lane}
    (hl : l.isAxis = true) (hopp : l.opposite.sum d.state = 0) {x : Reading F}
    (hv : 0 ≤ l.input x.r) (href : 0 ≤ d.laneReference x.r l) :
    (d.evaluate x.r x.hdop x.sats).1.adaptive l =
        (d.adaptive l).step d.cfg.cusumKM axisNoiseFactor axisNoiseAlpha (l.input x.r) ∧
      l.opposite.sum (d.evaluate x.r x.hdop x.sats).1.state = 0 := by
  have hcounts : ∀ l : Lane, l.isAxis = true → l.counts x.r = true := by
    intro l hl
    cases l with
    | velAiding => cases hl
    | posN | negN | posE | negE | mag => rfl
  constructor
  · unfold adaptive Adaptive.step
    rw [evaluate_sum hw, hcounts l hl, if_pos rfl, evaluate_laneFloor hw,
      laneReference_axis d x.r hl, learnFloors_axis hl hopp hv]
  · have hother : l.opposite.isAxis = true ∧ l.opposite.input x.r = -l.input x.r ∧
        d.laneReference x.r l.opposite = d.laneReference x.r l := by
      cases l with
      | mag => cases hl
      | velAiding => cases hl
      | posN | posE => exact ⟨rfl, rfl, rfl⟩
      | negN | negE => exact ⟨rfl, (neg_neg _).symm, rfl⟩
    obtain ⟨haxis, hinput, hsame⟩ := hother
    rw [evaluate_sum hw, hcounts _ haxis, if_pos rfl, hopp, hinput, hsame]
    exact cusum_of_nonpos (by linarith)

/-- **The magnitude lane.** -/
theorem mag_step {F : Type} [Field F] [LinearOrder F]
    {d : DriftDetector F} (hw : warmupFixes ≤ d.warmup) (hs : 0 ≤ d.state.sMag)
    (x : Reading F) : (d.evaluate x.r x.hdop x.sats).1.adaptive .mag =
      (d.adaptive .mag).step d.cfg.magCusumKM magNoiseFactor magNoiseAlpha x.r.magPos := by
  have hlearn : (d.learnFloors x.r).laneFloor .mag =
      if Lane.mag.sum d.state = 0 then ewma magNoiseAlpha (d.laneFloor .mag) x.r.magPos
      else d.laneFloor .mag :=
    if_congr ⟨fun h => le_antisymm h hs, le_of_eq⟩ rfl rfl
  have hcounts : Lane.mag.counts x.r = true := rfl
  have href : d.laneReference x.r .mag =
      max d.cfg.magCusumKM ((d.learnFloors x.r).laneFloor .mag * magNoiseFactor) := rfl
  unfold adaptive Adaptive.step
  rw [evaluate_sum hw, evaluate_laneFloor hw, hcounts, if_pos rfl, href, hlearn]
  rfl

/-- The detector after `n` readings of a sequence. -/
def fed (d : DriftDetector F) (x : ℕ → Reading F) : ℕ → DriftDetector F
  | 0 => d
  | n + 1 => ((fed d x n).feed (x n)).1

section

omit [IsStrictOrderedRing F]

theorem fed_cfg (d : DriftDetector F) (x : ℕ → Reading F) (n : ℕ) : (fed d x n).cfg = d.cfg := by
  induction n with
  | zero => rfl
  | succ n ih => exact (evaluate_cfg (fed d x n) (x n)).trans ih

theorem fed_warmup (d : DriftDetector F) (x : ℕ → Reading F) (n : ℕ) :
    d.warmup ≤ (fed d x n).warmup := by
  induction n with
  | zero => exact le_rfl
  | succ n ih => exact ih.trans (evaluate_warmup_le (fed d x n) (x n))

end

end Exact

end DriftDetector

end FlyingSquirrel
