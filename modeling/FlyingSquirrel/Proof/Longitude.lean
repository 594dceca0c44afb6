import FlyingSquirrel.Fusion.Step
import FlyingSquirrel.Lib.Real
import Mathlib.Analysis.Real.Pi.Bounds

/-!
# How a longitude is written

The tangent plane takes the difference of two longitudes as it comes. Both written a turn
further give the same difference; one of them alone is a trip around the Earth away.
-/

set_option autoImplicit false

namespace FlyingSquirrel

open Lib

/-! ## The projection -/

/-- The length of the parallel through the reference, as the projection has it. -/
noncomputable def parallelM (lat0 : ℝ) : ℝ :=
  fullTurn * rEarthM * Libm.cos (Libm.toRadians lat0)

/-- `llaToNed`, were the difference of the longitudes wrapped into `[-180, 180)`. -/
noncomputable def llaToNedWrapped (latDeg lonDeg altM lat0 lon0 : ℝ) : NedPos ℝ :=
  { llaToNed latDeg lonDeg altM lat0 lon0 with
    e := Libm.toRadians (wrapDeg (lonDeg - lon0)) * rEarthM * Libm.cos (Libm.toRadians lat0) }

section

variable (lat lon alt lat0 lon0 : ℝ) (k : ℤ)

theorem rEarthM_ne_zero : (rEarthM : ℝ) ≠ 0 := by
  unfold rEarthM
  norm_num

theorem parallelM_eq_zero : parallelM lat0 = 0 ↔ Libm.cos (Libm.toRadians lat0) = 0 := by
  unfold parallelM fullTurn
  simp [Real.pi_ne_zero, rEarthM_ne_zero]

theorem llaToNed_both_turned :
    llaToNed lat (lon + 360 * k) alt lat0 (lon0 + 360 * k) = llaToNed lat lon alt lat0 lon0 := by
  unfold llaToNed
  rw [add_sub_add_right_eq_sub]

theorem llaToNed_turned :
    llaToNed lat (lon + 360 * k) alt lat0 lon0 =
      { llaToNed lat lon alt lat0 lon0 with
        e := (llaToNed lat lon alt lat0 lon0).e + k * parallelM lat0 } := by
  have heast : ∀ x : ℝ, (x + k * fullTurn) * rEarthM * Libm.cos (Libm.toRadians lat0) =
      x * rEarthM * Libm.cos (Libm.toRadians lat0) + k * parallelM lat0 := fun x => by
    unfold parallelM
    ring
  unfold llaToNed
  dsimp only
  rw [add_sub_right_comm, toRadians_add_turns, heast]

/-- Turning the reference back is turning the fix. -/
theorem llaToNed_reference_turned :
    llaToNed lat lon alt lat0 (lon0 + 360 * k) =
      { llaToNed lat lon alt lat0 lon0 with
        e := (llaToNed lat lon alt lat0 lon0).e - k * parallelM lat0 } := by
  have hback := llaToNed_both_turned lat (lon + 360 * (-k : ℤ)) alt lat0 lon0 k
  have hlon : lon + 360 * ((-k : ℤ) : ℝ) + 360 * k = lon := by
    push_cast
    ring
  rw [hlon] at hback
  rw [hback, llaToNed_turned, Int.cast_neg, neg_mul, ← sub_eq_add_neg]

theorem moved_east_iff (p : NedPos ℝ) (x : ℝ) :
    ({ p with e := p.e + x } : NedPos ℝ) = p ↔ x = 0 := by
  constructor
  · intro h
    have he := congrArg NedPos.e h
    simpa using he
  · rintro rfl
    rw [add_zero]

theorem turns_eq_zero : (k : ℝ) * parallelM lat0 = 0 ↔
    k = 0 ∨ Libm.cos (Libm.toRadians lat0) = 0 := by
  rw [mul_eq_zero, parallelM_eq_zero, Int.cast_eq_zero]

/-- The wrapped difference is what does not depend on how either longitude is written. -/
theorem llaToNedWrapped_turned :
    llaToNedWrapped lat (lon + 360 * k) alt lat0 lon0 =
      llaToNedWrapped lat lon alt lat0 lon0 := by
  unfold llaToNedWrapped
  rw [add_sub_right_comm, wrapDeg_add_turns, llaToNed_turned]

theorem llaToNed_eq_wrapped_iff :
    llaToNed lat lon alt lat0 lon0 = llaToNedWrapped lat lon alt lat0 lon0 ↔
      lon - lon0 ∈ Set.Ico (-180 : ℝ) 180 ∨ Libm.cos (Libm.toRadians lat0) = 0 := by
  have heast : llaToNed lat lon alt lat0 lon0 = llaToNedWrapped lat lon alt lat0 lon0 ↔
      Libm.toRadians (lon - lon0) * rEarthM * Libm.cos (Libm.toRadians lat0) =
        Libm.toRadians (wrapDeg (lon - lon0)) * rEarthM * Libm.cos (Libm.toRadians lat0) := by
    constructor
    · exact fun h => congrArg NedPos.e h
    · intro h
      unfold llaToNedWrapped llaToNed
      rw [← h]
  rw [heast, mul_eq_mul_right_iff, mul_left_inj' rEarthM_ne_zero, toRadians_injective.eq_iff,
    eq_comm, wrapDeg_eq_self]

end

/-! ## The checks that use it -/

/-- A position with its longitude written `k` turns further. -/
noncomputable def GpsFix.turned (k : ℤ) (fix : GpsFix ℝ) : GpsFix ℝ :=
  { fix with lonDeg := fix.lonDeg + turns k }

noncomputable def DeadReckoner.turned (k : ℤ) (m : DeadReckoner ℝ) : DeadReckoner ℝ :=
  { m with
    cfg := { m.cfg with
      expectedHome := m.cfg.expectedHome.map fun (lat, lon) => (lat, lon + turns k) }
    origin := m.origin.map fun (lat, lon, alt) => (lat, lon + turns k, alt) }

noncomputable def Fusion.turned (k : ℤ) (f : Fusion ℝ) : Fusion ℝ :=
  { f with
    nav := f.nav.turned k
    frozenAnchorLla := f.frozenAnchorLla.map fun (lat, lon) => (lat, lon + turns k) }

section Checks

variable (k : ℤ) (fix : GpsFix ℝ)

theorem isFirstFixPlausible_turned (m : DeadReckoner ℝ) :
    (m.turned k).isFirstFixPlausible (fix.turned k) = m.isFirstFixPlausible fix := by
  unfold DeadReckoner.isFirstFixPlausible DeadReckoner.turned GpsFix.turned turns
  cases m.cfg.expectedHome with
  | none => rfl
  | some home =>
    dsimp only [Option.map_some]
    rw [llaToNed_both_turned]

theorem gpsInNed_turned (m : DeadReckoner ℝ) :
    (m.turned k).gpsInNed (fix.turned k) = m.gpsInNed fix := by
  unfold DeadReckoner.gpsInNed DeadReckoner.turned GpsFix.turned turns
  cases m.origin with
  | none => rfl
  | some origin =>
    dsimp only [Option.map_some]
    rw [llaToNed_both_turned]

theorem frozenCandidate_turned (f : Fusion ℝ) :
    (f.turned k).frozenCandidate (fix.turned k) = f.frozenCandidate fix := by
  unfold Fusion.frozenCandidate Fusion.turned GpsFix.turned turns
  cases f.frozenAnchorLla with
  | none => rfl
  | some anchor =>
    dsimp only [Option.map_some]
    rw [llaToNed_both_turned]

/-- The residual of a fix, once there is an origin. -/
noncomputable def residualOf (f : Fusion ℝ) (fix : GpsFix ℝ) (pImu : NedPos ℝ)
    (vImu : NedVel ℝ) : Option (Residual ℝ) :=
  (f.nav.gpsInNed fix).map fun gpsNed => f.residual fix gpsNed pImu vImu

theorem residualOf_turned (f : Fusion ℝ) (pImu : NedPos ℝ) (vImu : NedVel ℝ) :
    residualOf (f.turned k) (fix.turned k) pImu vImu = residualOf f fix pImu vImu := by
  unfold residualOf
  have hgps : (f.turned k).nav.gpsInNed (fix.turned k) = f.nav.gpsInNed fix :=
    gpsInNed_turned k fix f.nav
  rw [hgps]
  rfl

end Checks

/-- **Local coordinates depend on how one longitude is written against the other.** Both a turn
    further, and nothing that is computed from them changes. One alone, and the fix moves east
    by the length of the parallel for each turn, and not otherwise. The offset is the one of the
    wrapped difference only where the raw one needs no wrapping, or at a pole. -/
theorem longitude_written_alike (k : ℤ) :
    (∀ lat lon alt lat0 lon0 : ℝ,
      llaToNed lat (lon + 360 * k) alt lat0 (lon0 + 360 * k) = llaToNed lat lon alt lat0 lon0) ∧
    (∀ (f : Fusion ℝ) (fix : GpsFix ℝ),
      (f.turned k).nav.isFirstFixPlausible (fix.turned k) = f.nav.isFirstFixPlausible fix ∧
      (f.turned k).frozenCandidate (fix.turned k) = f.frozenCandidate fix ∧
      ∀ pImu vImu,
        residualOf (f.turned k) (fix.turned k) pImu vImu = residualOf f fix pImu vImu) ∧
    (∀ lat lon alt lat0 lon0 : ℝ,
      let ned := llaToNed lat lon alt lat0 lon0
      llaToNed lat (lon + 360 * k) alt lat0 lon0 = { ned with e := ned.e + k * parallelM lat0 } ∧
      llaToNed lat lon alt lat0 (lon0 + 360 * k) = { ned with e := ned.e - k * parallelM lat0 } ∧
      (llaToNed lat (lon + 360 * k) alt lat0 lon0 = ned ↔
        k = 0 ∨ Libm.cos (Libm.toRadians lat0) = 0) ∧
      (llaToNed lat lon alt lat0 (lon0 + 360 * k) = ned ↔
        k = 0 ∨ Libm.cos (Libm.toRadians lat0) = 0) ∧
      (ned = llaToNedWrapped lat lon alt lat0 lon0 ↔
        lon - lon0 ∈ Set.Ico (-180 : ℝ) 180 ∨ Libm.cos (Libm.toRadians lat0) = 0)) := by
  refine ⟨fun lat lon alt lat0 lon0 => llaToNed_both_turned lat lon alt lat0 lon0 k,
    fun f fix => ⟨isFirstFixPlausible_turned k fix f.nav, frozenCandidate_turned k fix f,
      residualOf_turned k fix f⟩, fun lat lon alt lat0 lon0 => ?_⟩
  intro ned
  have hfix := llaToNed_turned lat lon alt lat0 lon0 k
  have hreference := llaToNed_reference_turned lat lon alt lat0 lon0 k
  refine ⟨hfix, hreference, ?_, ?_, llaToNed_eq_wrapped_iff lat lon alt lat0 lon0⟩
  · rw [hfix, moved_east_iff, turns_eq_zero]
  · rw [hreference, sub_eq_add_neg, moved_east_iff, neg_eq_zero, turns_eq_zero]

theorem llaToNed_equator (lon lon0 : ℝ) :
    (llaToNed 0 lon 0 0 lon0).e = (lon - lon0) * (Real.pi / 180) * 6378137 := by
  change (lon - lon0) * (Real.pi / 180) * 6378137.0 * Real.cos (0 * (Real.pi / 180)) = _
  rw [zero_mul, Real.cos_zero]
  norm_num

/-- A vehicle whose home is on the equator, at the antimeridian. -/
noncomputable def antimeridianHome : DeadReckoner ℝ :=
  .new { (NavConfig.default : NavConfig ℝ) with expectedHome := some (0, 180.0) } 0

/-- A first fix eleven metres east of that home. -/
noncomputable def elevenMetresEast : GpsFix ℝ :=
  ⟨⟨0, none⟩, 0, -179.9999, 0, none, none, none, none⟩

/-- Two points on the equator, eleven metres apart across the antimeridian, and forty thousand
    kilometres apart as a receiver writes them. The home check turns the first fix down for it. -/
theorem across_antimeridian :
    |(llaToNed (0 : ℝ) (-179.9999) 0 0 (180 - 360)).e| < 12 ∧
    40000000 < |(llaToNed (0 : ℝ) (-179.9999) 0 0 180).e| ∧
    llaToNed (0 : ℝ) (-179.9999) 0 0 180 ≠ llaToNed (0 : ℝ) (-179.9999) 0 0 (180 - 360) ∧
    ∃ d, antimeridianHome.isFirstFixPlausible elevenMetresEast = .error d ∧ 40000000 < d := by
  have hpi := Real.pi_gt_d2
  have hpi' := Real.pi_lt_d2
  have hnear : |(llaToNed (0 : ℝ) (-179.9999) 0 0 (180 - 360)).e| < 12 := by
    rw [llaToNed_equator, abs_lt]
    constructor <;> norm_num at hpi hpi' ⊢ <;> linarith
  have hfar : 40000000 < |(llaToNed (0 : ℝ) (-179.9999) 0 0 180).e| := by
    rw [llaToNed_equator, lt_abs]
    right
    norm_num at hpi ⊢
    linarith
  have hdist : 40000000 < (llaToNed (0 : ℝ) (-179.9999) 0 0 180.0).horizontalNorm := by
    rw [show (180.0 : ℝ) = 180 by norm_num]
    refine lt_of_lt_of_le hfar (Real.abs_le_sqrt ?_)
    nlinarith [mul_self_nonneg (llaToNed (0 : ℝ) (-179.9999) 0 0 180).n]
  refine ⟨hnear, hfar, fun h => ?_, _, if_neg (not_le.mpr (lt_trans ?_ hdist)), hdist⟩
  · rw [h] at hfar
    linarith
  · show (1000.0 : ℝ) < 40000000
    norm_num

end FlyingSquirrel
