import FlyingSquirrel.Detect.Lanes
import FlyingSquirrel.Lib.Ext

/-!
# The drift detector and undefined residuals

The detector's own numbers come from its configuration and from the residuals that pass its
guard. Over numbers with infinities and an undefined value they are therefore finite ones, and a
history that has anything in it **is the exact-arithmetic history of its finite readings**:
`run_exact`. A reading that does not pass the guard takes no part in it.
-/

set_option autoImplicit false

namespace FlyingSquirrel

open Lib

open Lib.Ext

section Map

variable {α β : Type} (f : α → β)

def DetectConfig.map (c : DetectConfig α) : DetectConfig β where
  maxJumpM := f c.maxJumpM
  maxVelocityMismatchMps := f c.maxVelocityMismatchMps
  jumpPersistFixes := c.jumpPersistFixes
  cusumKM := f c.cusumKM
  cusumHM := f c.cusumHM
  magCusumKM := f c.magCusumKM
  magCusumHM := f c.magCusumHM
  suspiciousToSpoofedDwellS := f c.suspiciousToSpoofedDwellS
  normalClearDwellS := f c.normalClearDwellS
  hdopMultipathThreshold := f c.hdopMultipathThreshold
  satsLowThreshold := c.satsLowThreshold
  gpsDropoutFreezeS := f c.gpsDropoutFreezeS
  reAnchorMaxDistanceM := f c.reAnchorMaxDistanceM
  maxVerticalRateMps := f c.maxVerticalRateMps
  maxDwellPauseS := f c.maxDwellPauseS
  velAidingCusumKMps := f c.velAidingCusumKMps
  velAidingCusumH := f c.velAidingCusumH

def CusumState.map (s : CusumState α) : CusumState β :=
  ⟨f s.sPosN, f s.sNegN, f s.sPosE, f s.sNegE, f s.sMag, f s.sVelAiding⟩

def DriftDetector.map (d : DriftDetector α) : DriftDetector β :=
  ⟨d.cfg.map f, d.state.map f, f d.magNoiseEwma, f d.axisNoiseN, f d.axisNoiseE,
    f d.velAidingNoise, d.warmup⟩

@[simp] theorem Lane.sum_map (s : CusumState α) (l : Lane) : l.sum (s.map f) = f (l.sum s) := by
  cases l <;> rfl

end Map

variable {F : Type} [Field F] [LinearOrder F] [IsStrictOrderedRing F]

def Residual.finitePart (r : Residual (Ext F)) : Residual F where
  dpos := ⟨r.dpos.n.finitePart, r.dpos.e.finitePart, r.dpos.d.finitePart⟩
  dvel := ⟨r.dvel.n.finitePart, r.dvel.e.finitePart, r.dvel.d.finitePart⟩
  magPos := r.magPos.finitePart
  magVel := r.magVel.finitePart
  dvelKnown := r.dvelKnown
  dvelFree := ⟨r.dvelFree.n.finitePart, r.dvelFree.e.finitePart, r.dvelFree.d.finitePart⟩
  magVelFree := r.magVelFree.finitePart
  maneuvering := r.maneuvering

/-- The reading in exact arithmetic. Its quality is bad when the reading's is. -/
def Reading.finitePart (c : DetectConfig F) (x : Reading (Ext F)) : Reading F where
  r := x.r.finitePart
  hdop :=
    if (c.map fin).qualityBad x.hdop x.sats then some (c.hdopMultipathThreshold + 1) else none
  sats := x.sats

theorem Reading.finitePart_quality (c : DetectConfig F) (x : Reading (Ext F)) :
    c.qualityBad (x.finitePart c).hdop (x.finitePart c).sats =
      (c.map fin).qualityBad x.hdop x.sats := by
  unfold Reading.finitePart
  dsimp only
  cases hbad : (c.map fin).qualityBad x.hdop x.sats with
  | false => rfl
  | true =>
    have hsats := (Bool.and_eq_true_iff.mp hbad).2
    exact Bool.and_eq_true_iff.mpr ⟨decide_eq_true (lt_add_one _), hsats⟩

/-- The four components the detector reads are the finite ones. -/
structure ExactResidual (r : Residual (Ext F)) : Prop where
  dposN : r.dpos.n = fin r.finitePart.dpos.n
  dposE : r.dpos.e = fin r.finitePart.dpos.e
  magPos : r.magPos = fin r.finitePart.magPos
  magVelFree : r.magVelFree = fin r.finitePart.magVelFree

namespace DriftDetector

theorem exact_of_finite {F : Type} [Field F] {r : Residual (Ext F)} (h : finiteResidual r = true) :
    ExactResidual r := by
  unfold finiteResidual at h
  simp only [Bool.and_eq_true] at h
  obtain ⟨⟨⟨hn, he⟩, hm⟩, hv⟩ := h
  exact ⟨eq_fin_of_isFinite hn, eq_fin_of_isFinite he, eq_fin_of_isFinite hm,
    eq_fin_of_isFinite hv⟩

variable {r : Residual (Ext F)}

section

omit [IsStrictOrderedRing F]

theorem learnFloors_map (d : DriftDetector F) (h : ExactResidual r) :
    (d.map fin).learnFloors r = (d.learnFloors r.finitePart).map fin := by
  have havg (a f x : F) : (1 - fin a) * fin f + fin a * fin x = fin ((1 - a) * f + a * x) := by
    simp
  unfold learnFloors map
  simp only [h.dposN, h.dposE, h.magPos, h.magVelFree, fabs_fin]
  congr 1
  · exact ite_fin Iff.rfl (havg _ _ _) rfl
  · exact ite_fin Iff.rfl (havg _ _ _) rfl
  · exact ite_fin Iff.rfl (havg _ _ _) rfl
  · exact ite_fin Iff.rfl (havg _ _ _) rfl

theorem accumulate_map (d : DriftDetector F) (h : ExactResidual r) :
    (d.map fin).accumulate r = (d.accumulate r.finitePart).map fin := by
  have hsum (s v k f m : F) : max (fin s + fin v - max (fin k) (fin f * fin m)) 0 =
      fin (max (s + v - max k (f * m)) 0) := by
    simp
  have hneg (s v k f m : F) : max (fin s - fin v - max (fin k) (fin f * fin m)) 0 =
      fin (max (s - v - max k (f * m)) 0) := by
    simp
  unfold accumulate map CusumState.map
  simp only [h.dposN, h.dposE, h.magPos, h.magVelFree]
  congr 2
  · exact hsum _ _ _ _ _
  · exact hneg _ _ _ _ _
  · exact hsum _ _ _ _ _
  · exact hneg _ _ _ _ _
  · exact hsum _ _ _ _ _
  · exact ite_fin Iff.rfl (hsum _ _ _ _ _) rfl

end

theorem warmUp_map (d : DriftDetector F) (h : ExactResidual r) :
    (d.map fin).warmUp r = (d.warmUp r.finitePart).map fin := by
  have hw : ((d.warmup + 1 : ℕ) : F) ≠ 0 := by positivity
  have hmean (f x : F) : fin f + (fin x - fin f) / ((d.warmup + 1 : ℕ) : Ext F) =
      fin (f + (x - f) / ((d.warmup + 1 : ℕ) : F)) := by
    rw [natCast_eq, sub_fin, div_fin _ hw, add_fin]
  unfold warmUp map
  simp only [h.dposN, h.dposE, h.magPos, h.magVelFree, fabs_fin]
  congr 1
  · exact hmean _ _
  · exact hmean _ _
  · exact hmean _ _
  · exact ite_fin Iff.rfl (hmean _ _) rfl

theorem widened_map (d : DriftDetector F) (x : Reading (Ext F)) (h : F) :
    (d.map fin).widened x.hdop x.sats (fin h) =
      fin (d.widened (x.finitePart d.cfg).hdop (x.finitePart d.cfg).sats h) := by
  unfold widened
  refine ite_fin ?_ (mul_fin _ _) rfl
  rw [Reading.finitePart_quality]
  exact Iff.rfl

theorem laneThreshold_map (d : DriftDetector F) (x : Reading (Ext F)) (l : Lane) :
    (d.map fin).laneThreshold x.hdop x.sats l =
      fin (d.laneThreshold (x.finitePart d.cfg).hdop (x.finitePart d.cfg).sats l) := by
  cases l with
  | velAiding => rfl
  | posN | negN | posE | negE => exact widened_map d x d.cfg.cusumHM
  | mag => exact widened_map d x d.cfg.magCusumHM

theorem firstLane_map {F : Type} [LinearOrder F] (d : DriftDetector F) (threshold : Lane → F) :
    (d.map fin).firstLane (fun l => fin (threshold l)) = d.firstLane threshold := by
  unfold firstLane map
  simp only [Lane.sum_map, le_fin]

/-- **A reading with defined components is evaluated as in exact arithmetic.** -/
theorem evaluate_exact (d : DriftDetector F) {x : Reading (Ext F)}
    (hx : finiteResidual x.r = true) :
    (d.map fin).evaluate x.r x.hdop x.sats =
      ((d.evaluate (x.finitePart d.cfg).r (x.finitePart d.cfg).hdop
          (x.finitePart d.cfg).sats).1.map fin,
        (d.evaluate (x.finitePart d.cfg).r (x.finitePart d.cfg).hdop
          (x.finitePart d.cfg).sats).2) := by
  have hr := exact_of_finite hx
  by_cases hw : d.warmup < warmupFixes
  · rw [evaluate_warming (d := d.map fin) hw hx,
      evaluate_warming (d := d) hw (finiteResidual_field (x.finitePart d.cfg).r),
      warmUp_map d hr]
    rfl
  · have hstep : ((d.map fin).learnFloors x.r).accumulate x.r =
        ((d.learnFloors x.r.finitePart).accumulate x.r.finitePart).map fin := by
      rw [learnFloors_map d hr, accumulate_map _ hr]
    have hfst : ((d.map fin).evaluate x.r x.hdop x.sats).1 =
        (d.evaluate (x.finitePart d.cfg).r (x.finitePart d.cfg).hdop
          (x.finitePart d.cfg).sats).1.map fin := by
      rw [evaluate_armed (d := d.map fin) (not_lt.mp hw) hx,
        evaluate_armed (d := d) (not_lt.mp hw) (finiteResidual_field (x.finitePart d.cfg).r)]
      exact hstep
    refine Prod.ext hfst ?_
    show ((d.map fin).evaluate x.r x.hdop x.sats).2 = _
    rw [evaluate_reason (d := d.map fin) (not_lt.mp hw) hx, hfst, funext (laneThreshold_map d x),
      firstLane_map,
      evaluate_reason (d := d) (not_lt.mp hw) (finiteResidual_field (x.finitePart d.cfg).r)]

/-! ## Histories -/

/-- A call in exact arithmetic, if it is one that takes part. -/
def exactCall (c : DetectConfig F) : DriftCall (Ext F) → Option (DriftCall F)
  | .fix x => if finiteResidual x.r then some (.fix (x.finitePart c)) else none
  | .reset => some .reset

section

omit [IsStrictOrderedRing F]

theorem exactCall_defined (c : DetectConfig F) {x : Reading (Ext F)}
    (hx : finiteResidual x.r = true) : exactCall c (.fix x) = some (.fix (x.finitePart c)) :=
  if_pos hx

theorem exactCall_undefined (c : DetectConfig F) {x : Reading (Ext F)}
    (hx : finiteResidual x.r = false) : exactCall c (.fix x) = none :=
  if_neg (by simp [hx])

end

theorem callStep_exact (d : DriftDetector F) (call : DriftCall (Ext F)) :
    ((d.map fin).callStep call).1 =
      (match exactCall d.cfg call with
        | some call' => (d.callStep call').1
        | none => d).map fin := by
  cases call with
  | reset => rfl
  | fix x =>
    show ((d.map fin).evaluate x.r x.hdop x.sats).1 = _
    cases hx : finiteResidual x.r with
    | false => rw [evaluate_undefined _ hx, exactCall_undefined _ hx]
    | true =>
      rw [evaluate_exact d hx, exactCall_defined _ hx]
      rfl

/-- **A history is that of its readings with defined components.** -/
theorem run_exact (d : DriftDetector F) (calls : List (DriftCall (Ext F))) :
    run callStep (d.map fin) calls =
      (run callStep d (calls.filterMap (exactCall d.cfg))).map fin := by
  induction calls generalizing d with
  | nil => rfl
  | cons call calls ih =>
    rw [run_cons, callStep_exact, List.filterMap_cons]
    cases hcall : exactCall d.cfg call with
    | none => exact ih d
    | some call' =>
      dsimp only
      rw [run_cons, ih, callStep_cfg]

theorem run_feed_exact (d : DriftDetector F) {xs : List (Reading (Ext F))}
    (hxs : ∀ x ∈ xs, finiteResidual x.r = true) :
    run feed (d.map fin) xs = (run feed d (xs.map (·.finitePart d.cfg))).map fin := by
  induction xs generalizing d with
  | nil => rfl
  | cons x xs ih =>
    rw [run_cons, List.map_cons, run_cons, feed_fst, feed_fst,
      evaluate_exact d (hxs x List.mem_cons_self),
      ih _ fun y hy => hxs y (List.mem_cons_of_mem _ hy), evaluate_cfg]

end DriftDetector

end FlyingSquirrel
